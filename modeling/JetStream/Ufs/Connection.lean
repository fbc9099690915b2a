import JetStream.Ufs.Lifecycle
import JetStream.Coding.FrameLaws

/-!
# The server on a byte stream

`Server::handle_message` is the synchronous path into the server: it decodes
one `Tframe` from a reader, through a window of `msize` bytes, answers it with
its own copy of the dispatch of `Server::handle`, and encodes the `Rframe` to
a writer.  The two copies of the dispatch agree arm by arm, so on the bytes of
a request frame followed by anything, `handle_message` computes the reply
`handle` computes, leaves the server as `handle` does, writes exactly what
encoding that reply writes, and leaves what follows the frame unread.

That needs the frame to come back from its bytes.  Within the codec's limits
it does; but `Data::decode` refuses a payload longer than `MAX_DATA_LENGTH`,
which `Data::encode` writes.  A server whose `msize` admits such a `Twrite`
(its `Config` is public, and `Server::with_config` takes any) answers it from
`handle_message` with a decode error, where `handle` would run the write.
-/

namespace JetStream

open ByteStream LittleEndian Proc WireFormat Server

variable {σ File α : Type}

/-- The server on a connection: the server and its host, the bytes the reader
has still to give, and the bytes given to the writer, a growable buffer. -/
structure Connection (σ File : Type) where
  world : World σ File
  input : List UInt8
  output : List UInt8

namespace Connection

/-- A step of the server, on the server and its host. -/
def onWorld (action : UfsM σ File α) : Proc (Connection σ File) IoError α :=
  zoom Connection.world (fun conn world => { conn with world }) action

/-- A read from the reader. -/
def onInput (reader : ByteM IoError α) : Proc (Connection σ File) IoError α :=
  zoom Connection.input (fun conn input => { conn with input }) reader

/-- A write to the writer. -/
def onOutput (writer : ByteM IoError α) : Proc (Connection σ File) IoError α :=
  zoom Connection.output (fun conn output => { conn with output }) writer

end Connection

open Connection

namespace Server

section HandleMessage

variable (kernel : Kernel σ File)

/-- The dispatch of `Server::handle_message`: its own copy of the `match` of
`Server::handle`, arm by arm. -/
def dispatchMessage : Tmessage → UfsM σ File Rmessage
  | .version msg => Rmessage.version <$> version msg
  | .flush msg => (fun _ => Rmessage.flush) <$> flush msg
  | .walk msg => Rmessage.walk <$> walk kernel msg
  | .read msg => Rmessage.read <$> read kernel msg
  | .write msg => Rmessage.write <$> write kernel msg
  | .clunk msg => (fun _ => Rmessage.clunk) <$> clunk msg
  | .remove msg => (fun _ => Rmessage.remove) <$> remove msg
  | .attach msg => Rmessage.attach <$> attach kernel msg
  | .auth msg => Rmessage.auth <$> auth msg
  | .statfs msg => Rmessage.statfs <$> statfs kernel msg
  | .lopen msg => Rmessage.lopen <$> lopen kernel msg
  | .lcreate msg => Rmessage.lcreate <$> lcreate kernel msg
  | .symlink msg => Rmessage.symlink <$> symlink msg
  | .mknod msg => Rmessage.mknod <$> mknod msg
  | .rename msg => (fun _ => Rmessage.rename) <$> rename msg
  | .readlink msg => Rmessage.readlink <$> readlink kernel msg
  | .getAttr msg => Rmessage.getAttr <$> getAttr kernel msg
  | .setAttr msg => (fun _ => Rmessage.setAttr) <$> setAttr kernel msg
  | .xattrWalk msg => Rmessage.xattrWalk <$> xattrWalk msg
  | .xattrCreate msg => (fun _ => Rmessage.xattrCreate) <$> xattrCreate msg
  | .readdir msg => Rmessage.readdir <$> readdir kernel msg
  | .fsync msg => (fun _ => Rmessage.fsync) <$> fsync kernel msg
  | .lock msg => Rmessage.lock <$> lock kernel msg
  | .getLock msg => Rmessage.getLock <$> getLock kernel msg
  | .link msg => (fun _ => Rmessage.link) <$> link kernel msg
  | .mkdir msg => Rmessage.mkdir <$> mkdir kernel msg
  | .renameAt msg => (fun _ => Rmessage.renameAt) <$> renameAt kernel msg
  | .unlinkAt msg => (fun _ => Rmessage.unlinkAt) <$> unlinkAt kernel msg

/-- `Server::handle_message`: a frame read through a window of `msize` bytes of
the reader, whose failure fails the call; the reply for its tag, the handler's
or its error's, as in `handle`; and the reply encoded to the writer.  The
writer's `flush` does nothing on a growable buffer. -/
def handleMessage : Proc (Connection σ File) IoError Unit := do
  let server ← onWorld getServer
  let frame ← onInput (window server.cfg.msize.toNat Tframe.decode)
  let rmsg ← onWorld (attempt (match frame.msg with
    | .ok msg => dispatchMessage kernel msg
    | .error err => throw (decodeFailed err)))
  onOutput (encode ({
    tag := frame.tag
    msg := match rmsg with
      | .ok msg => msg
      | .error err => errorToRmessage err } : Rframe))

/-- The two copies of the dispatch are the same, arm by arm. -/
theorem dispatchMessage_eq_dispatch (msg : Tmessage) :
    dispatchMessage kernel msg = dispatch kernel msg := by
  cases msg <;> rfl

/-- Once a frame is read, `handle_message` is `handle` followed by the encoding
of its reply. -/
theorem handleMessage_of_read {world world' : World σ File} {input rest output : List UInt8}
    {frame : Tframe} {reply : Rframe}
    (hread : window world.server.cfg.msize.toNat Tframe.decode input = .ok frame rest)
    (hhandle : handle kernel frame world = .ok reply world') :
    handleMessage kernel ⟨world, input, output⟩ = onOutput (encode reply) ⟨world', rest, output⟩ := by
  obtain ⟨rmsg, mid, hrun, hreply⟩ := bind_eq_ok hhandle
  cases hreply
  have hrun' : (attempt (match frame.msg with
      | .ok msg => dispatchMessage kernel msg
      | .error err => throw (decodeFailed err)) : UfsM σ File (Except IoError Rmessage))
        world = .ok rmsg world' := by
    rcases frame with ⟨tag, err | msg⟩
    · exact hrun
    · simpa only [dispatchMessage_eq_dispatch] using hrun
  -- `handle` builds the reply with its own copy of the `match`, which reduces
  -- once the outcome of the dispatch is known
  rcases rmsg with err | msg <;>
    simp only [handleMessage, bind_apply, onWorld, onInput, zoom, getServer_apply, hread, hrun']

end HandleMessage

end Server

section Agreement

variable (kernel : Kernel σ File)

/-- The bytes of a request frame within the codec's limits are its image. -/
theorem Tframe.encode_eq_frameWire {tag : UInt16} {msg : Tmessage} {bytes : List UInt8}
    (hencode : Tframe.encode ⟨tag, .ok msg⟩ [] = .ok () bytes) (hfits : msg.Fits)
    (hbound : bytes.length < 2 ^ 32) :
    bytes = frameWire tag msg.messageType msg.wire := by
  have hbody : Tframe.encode ⟨tag, .ok msg⟩ [] =
      .ok () ([] ++ frameHeader (4 + 1 + 2 + msg.byteSize) msg.messageType tag ++ msg.wire) :=
    (frame_apply _ _ _ msg.encode []).trans (Tmessage.writes_encode hfits _)
  have hlength : bytes.length = 7 + msg.wire.length := by
    rw [hencode] at hbody
    cases hbody
    simp
  have hwrites := (Tframe.travels tag hfits (by omega)).1 []
  rw [hencode, List.nil_append] at hwrites
  cases hwrites
  rfl

/-- On the bytes of a request frame whose message is within the codec's limits
and which fit in `msize`, followed by anything, `handle_message` answers as
`handle` does, leaves the server as `handle` does, writes the reply as its
encoder does, and leaves what follows the frame unread. -/
theorem handleMessage_agrees_with_handle (world : World σ File) (tag : UInt16)
    (msg : Tmessage) (bytes rest output : List UInt8)
    (hencode : Tframe.encode ⟨tag, .ok msg⟩ [] = .ok () bytes) (hfits : msg.Fits)
    (hsize : bytes.length ≤ world.server.cfg.msize.toNat) :
    ∃ reply world', handle kernel ⟨tag, .ok msg⟩ world = .ok reply world' ∧
      handleMessage kernel ⟨world, bytes ++ rest, output⟩ =
        onOutput (encode reply) ⟨world', rest, output⟩ := by
  have hbound : bytes.length < 2 ^ 32 :=
    Nat.lt_of_le_of_lt hsize world.server.cfg.msize.toNat_lt
  have hbytes := Tframe.encode_eq_frameWire hencode hfits hbound
  have hreads : Reads (window world.server.cfg.msize.toNat Tframe.decode) bytes
      ⟨tag, .ok msg⟩ := by
    have hframe := (Tframe.travels tag hfits (by rw [← length_frameWire, ← hbytes]; exact hbound)).2
    rw [← hbytes] at hframe
    exact hframe.window_of_le hsize
  obtain ⟨reply, world', hhandle⟩ := total_handle kernel ⟨tag, .ok msg⟩ world
  exact ⟨reply, world', hhandle, handleMessage_of_read kernel (hreads rest) hhandle⟩

/-- A version request to the server for `/export`, with nothing after it. -/
theorem export_version_agrees :
    ∃ reply world',
      handle TreeFs.kernel ⟨1, .ok (.version ⟨8192, "9P2000.L"⟩)⟩ (TreeFs.exportWorld 16) =
          .ok reply world' ∧
        handleMessage TreeFs.kernel
            ⟨TreeFs.exportWorld 16, [21, 0, 0, 0, 100, 1, 0, 0, 32, 0, 0, 8, 0, 57, 80, 50, 48,
              48, 48, 46, 76], []⟩ =
          onOutput (encode reply) ⟨world', [], []⟩ := by
  have hversion : "9P2000.L".utf8ByteSize ≤ 65535 := by decide
  exact handleMessage_agrees_with_handle TreeFs.kernel (TreeFs.exportWorld 16) 1
    (.version ⟨8192, "9P2000.L"⟩)
    [21, 0, 0, 0, 100, 1, 0, 0, 32, 0, 0, 8, 0, 57, 80, 50, 48, 48, 48, 46, 76] [] []
    rfl ⟨trivial, hversion⟩ (by decide)

end Agreement

section LongWrite

variable (kernel : Kernel σ File)

/-- `handle` answers a frame whose body failed to decode with `EINVAL` for its
tag, and changes nothing. -/
theorem handle_of_decode_error (tag : UInt16) (err : IoError) (world : World σ File) :
    handle kernel ⟨tag, .error err⟩ world = .ok ⟨tag, .lerror ⟨Errno.EINVAL.toUInt32⟩⟩ world :=
  rfl

/-- A write request whose length field is past `MAX_DATA_LENGTH`, to a server
whose `msize` admits its fixed fields: `handle_message` answers it `EINVAL`,
changes nothing, and leaves whatever follows the length field unread. -/
theorem handleMessage_refuses_long_write (world : World σ File) {size : UInt32}
    (hsize : 23 ≤ size.toNat) (tag : UInt16) (fid : UInt32) (offset : UInt64) {len : UInt32}
    (hlong : MAX_DATA_LENGTH < len) (hwindow : 23 ≤ world.server.cfg.msize.toNat)
    (rest output : List UInt8) :
    handleMessage kernel ⟨world, frameHeader size TWRITE tag ++ leBytes 4 fid.toNat ++
        leBytes 8 offset.toNat ++ leBytes 4 len.toNat ++ rest, output⟩ =
      onOutput (encode ({ tag, msg := .lerror ⟨Errno.EINVAL.toUInt32⟩ } : Rframe))
        ⟨world, rest, output⟩ := by
  have hlimit : (frameHeader size TWRITE tag ++ leBytes 4 fid.toNat ++ leBytes 8 offset.toNat ++
      leBytes 4 len.toNat).length ≤ world.server.cfg.msize.toNat := by
    simp only [List.length_append, length_frameHeader, length_leBytes]
    omega
  have hreads := (Tframe.reads_long_write hsize tag fid offset hlong).window_of_le hlimit
  exact handleMessage_of_read kernel (hreads rest) (handle_of_decode_error kernel tag _ world)

end LongWrite

/-- A write request of one byte more than `MAX_DATA_LENGTH` to fid `0` of the
server for `/export` that `Server::with_config` makes with an `msize` of
`u32::MAX`.  Its frame fits that `msize`, and `handle` answers it `EBADF`, as
no fid is attached; `handle_message` on its bytes answers `EINVAL` instead,
and leaves the payload unread. -/
theorem long_write_disagrees :
    ∃ (server : Server Nat) (os : TreeFs.Host) (bytes : List UInt8),
      Server.withConfig TreeFs.kernel { TreeFs.exportConfig with msize := 0xFFFFFFFF }
          (TreeFs.exportTree 16) = .ok server os ∧
      Tframe.encode ⟨0, .ok (.write ⟨0, 0, ⟨List.replicate 33554433 0⟩⟩)⟩ [] = .ok () bytes ∧
      bytes.length ≤ server.cfg.msize.toNat ∧
      handle TreeFs.kernel ⟨0, .ok (.write ⟨0, 0, ⟨List.replicate 33554433 0⟩⟩)⟩ ⟨server, os⟩ =
        .ok ⟨0, .lerror ⟨Errno.EBADF.toUInt32⟩⟩ ⟨server, os⟩ ∧
      handleMessage TreeFs.kernel ⟨⟨server, os⟩, bytes, []⟩ =
        onOutput (encode (⟨0, .lerror ⟨Errno.EINVAL.toUInt32⟩⟩ : Rframe))
          ⟨⟨server, os⟩, List.replicate 33554433 0, []⟩ := by
  -- keep the payload symbolic: its length and its size are 2 ^ 25 + 1 steps away
  have hbound : (List.replicate 33554433 (0 : UInt8)).length < 2 ^ 32 := by
    rw [List.length_replicate]
    omega
  have hencode := Tframe.writes_write 0 0 0 hbound []
  rw [List.length_replicate, List.nil_append] at hencode
  refine ⟨_, _, _, rfl, hencode, ?_, rfl, ?_⟩
  · simp only [List.length_append, length_frameHeader, length_leBytes, List.length_replicate]
    decide
  · exact handleMessage_refuses_long_write TreeFs.kernel _ (by decide) 0 0 0
      (show MAX_DATA_LENGTH < (33554433 : UInt32) by decide) (by decide) _ []

end JetStream
