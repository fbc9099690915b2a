import JetStream.Coding.Messages

/-!
# Frames on the wire

A frame is `size[4] type[1] tag[2] body`, where `size` counts the whole frame
(`frameWire`).  Two directions are proved here, for requests and replies alike.

* Every frame whose strings, vectors and payloads are within their limits,
  and whose length fits the `u32` size field, is written as `frameWire` and
  read back from it, whatever follows it in the stream.
* On any input, a frame decoder takes only bytes from the front, and never
  more than the size field announces (for replies, once that field is at least
  the four bytes it covers itself).  A frame it accepts need not be the one
  whose bytes were read: the body may be shorter than the size says, and a
  string may be cut short by the window.  What holds is that re-encoding the
  frame gives exactly as many bytes as the decoder took, and that those bytes
  decode to the same frame, which is what forwarding a frame by decoding and
  re-encoding it needs.
-/

namespace JetStream

open ByteStream LittleEndian WireFormat

/-! ## The images of message bodies -/

/-- Every string, vector and data payload of the request's body is within
its length limit. -/
def Tmessage.Fits : Tmessage → Prop
  | .version msg => WireFormat.Fits msg
  | .flush msg => WireFormat.Fits msg
  | .walk msg => WireFormat.Fits msg
  | .read msg => WireFormat.Fits msg
  | .write msg => WireFormat.Fits msg
  | .clunk msg => WireFormat.Fits msg
  | .remove msg => WireFormat.Fits msg
  | .attach msg => WireFormat.Fits msg
  | .auth msg => WireFormat.Fits msg
  | .statfs msg => WireFormat.Fits msg
  | .lopen msg => WireFormat.Fits msg
  | .lcreate msg => WireFormat.Fits msg
  | .symlink msg => WireFormat.Fits msg
  | .mknod msg => WireFormat.Fits msg
  | .rename msg => WireFormat.Fits msg
  | .readlink msg => WireFormat.Fits msg
  | .getAttr msg => WireFormat.Fits msg
  | .setAttr msg => WireFormat.Fits msg
  | .xattrWalk msg => WireFormat.Fits msg
  | .xattrCreate msg => WireFormat.Fits msg
  | .readdir msg => WireFormat.Fits msg
  | .fsync msg => WireFormat.Fits msg
  | .lock msg => WireFormat.Fits msg
  | .getLock msg => WireFormat.Fits msg
  | .link msg => WireFormat.Fits msg
  | .mkdir msg => WireFormat.Fits msg
  | .renameAt msg => WireFormat.Fits msg
  | .unlinkAt msg => WireFormat.Fits msg

/-- The bytes a request's body travels as. -/
def Tmessage.wire : Tmessage → List UInt8
  | .version msg => WireFormat.wire msg
  | .flush msg => WireFormat.wire msg
  | .walk msg => WireFormat.wire msg
  | .read msg => WireFormat.wire msg
  | .write msg => WireFormat.wire msg
  | .clunk msg => WireFormat.wire msg
  | .remove msg => WireFormat.wire msg
  | .attach msg => WireFormat.wire msg
  | .auth msg => WireFormat.wire msg
  | .statfs msg => WireFormat.wire msg
  | .lopen msg => WireFormat.wire msg
  | .lcreate msg => WireFormat.wire msg
  | .symlink msg => WireFormat.wire msg
  | .mknod msg => WireFormat.wire msg
  | .rename msg => WireFormat.wire msg
  | .readlink msg => WireFormat.wire msg
  | .getAttr msg => WireFormat.wire msg
  | .setAttr msg => WireFormat.wire msg
  | .xattrWalk msg => WireFormat.wire msg
  | .xattrCreate msg => WireFormat.wire msg
  | .readdir msg => WireFormat.wire msg
  | .fsync msg => WireFormat.wire msg
  | .lock msg => WireFormat.wire msg
  | .getLock msg => WireFormat.wire msg
  | .link msg => WireFormat.wire msg
  | .mkdir msg => WireFormat.wire msg
  | .renameAt msg => WireFormat.wire msg
  | .unlinkAt msg => WireFormat.wire msg

/-- Every string, vector and data payload of the reply's body is within
its length limit. -/
def Rmessage.Fits : Rmessage → Prop
  | .version msg => WireFormat.Fits msg
  | .flush => True
  | .walk msg => WireFormat.Fits msg
  | .read msg => WireFormat.Fits msg
  | .write msg => WireFormat.Fits msg
  | .clunk => True
  | .remove => True
  | .attach msg => WireFormat.Fits msg
  | .auth msg => WireFormat.Fits msg
  | .statfs msg => WireFormat.Fits msg
  | .lopen msg => WireFormat.Fits msg
  | .lcreate msg => WireFormat.Fits msg
  | .symlink msg => WireFormat.Fits msg
  | .mknod msg => WireFormat.Fits msg
  | .rename => True
  | .readlink msg => WireFormat.Fits msg
  | .getAttr msg => WireFormat.Fits msg
  | .setAttr => True
  | .xattrWalk msg => WireFormat.Fits msg
  | .xattrCreate => True
  | .readdir msg => WireFormat.Fits msg
  | .fsync => True
  | .lock msg => WireFormat.Fits msg
  | .getLock msg => WireFormat.Fits msg
  | .link => True
  | .mkdir msg => WireFormat.Fits msg
  | .renameAt => True
  | .unlinkAt => True
  | .lerror msg => WireFormat.Fits msg

/-- The bytes a reply's body travels as. -/
def Rmessage.wire : Rmessage → List UInt8
  | .version msg => WireFormat.wire msg
  | .flush => []
  | .walk msg => WireFormat.wire msg
  | .read msg => WireFormat.wire msg
  | .write msg => WireFormat.wire msg
  | .clunk => []
  | .remove => []
  | .attach msg => WireFormat.wire msg
  | .auth msg => WireFormat.wire msg
  | .statfs msg => WireFormat.wire msg
  | .lopen msg => WireFormat.wire msg
  | .lcreate msg => WireFormat.wire msg
  | .symlink msg => WireFormat.wire msg
  | .mknod msg => WireFormat.wire msg
  | .rename => []
  | .readlink msg => WireFormat.wire msg
  | .getAttr msg => WireFormat.wire msg
  | .setAttr => []
  | .xattrWalk msg => WireFormat.wire msg
  | .xattrCreate => []
  | .readdir msg => WireFormat.wire msg
  | .fsync => []
  | .lock msg => WireFormat.wire msg
  | .getLock msg => WireFormat.wire msg
  | .link => []
  | .mkdir msg => WireFormat.wire msg
  | .renameAt => []
  | .unlinkAt => []
  | .lerror msg => WireFormat.wire msg

/-- The bytes of a frame with tag `tag`, type byte `ty` and body `body`. -/
def frameWire (tag : UInt16) (ty : UInt8) (body : List UInt8) : List UInt8 :=
  leBytes 4 (4 + 1 + 2 + body.length) ++ ty :: (leBytes 2 tag.toNat ++ body)

@[simp]
theorem length_frameWire (tag : UInt16) (ty : UInt8) (body : List UInt8) :
    (frameWire tag ty body).length = 7 + body.length := by
  simp only [frameWire, List.length_append, length_leBytes, List.length_cons]
  omega

theorem take_frameWire (tag : UInt16) (ty : UInt8) (body : List UInt8) :
    (frameWire tag ty body).take 4 = leBytes 4 (4 + 1 + 2 + body.length) := by
  rw [frameWire, List.take_left' (length_leBytes 4 _)]

/-! ## Request bodies

The three tables of a request kind (its body codec, body size and type
byte) agree with the body decoder `decode_message` picks for that type byte.
Each proof is one case per kind, and each case is the kind's derived codec. -/

theorem Tmessage.writes_encode {msg : Tmessage} (hfits : msg.Fits) :
    Writes msg.encode msg.wire := by
  cases msg <;> exact (Lawful.encodes _ hfits).writes

theorem Tmessage.byteSize_eq {msg : Tmessage} (hfits : msg.Fits) :
    msg.byteSize = UInt32.ofNat msg.wire.length := by
  cases msg <;> exact (Lawful.encodes _ hfits).byteSize_eq

theorem Tmessage.reads_decodeMessage {msg : Tmessage} (hfits : msg.Fits) :
    Reads (Tframe.decodeMessage msg.messageType) msg.wire msg := by
  cases msg <;> exact (Lawful.encodes _ hfits).reads.map _

theorem Tframe.fromFront_decodeMessage (ty : UInt8) :
    FromFront (Tframe.decodeMessage ty) := by
  unfold Tframe.decodeMessage
  iterate 28
    refine FromFront.ite (Lawful.fromFront.map _) ?_
  exact fromFront_throw _

/-- A body read by its kind's derived decoder: the kind's constructor around
a value within the limits that took as many bytes as its image. -/
theorem decodeKind_eq_ok {β γ : Type} [WireFormat β] [Lawful β] {ctor : β → γ}
    {input rest : List UInt8} {msg : γ}
    (h : (ctor <$> (decode : ByteM IoError β)) input = .ok msg rest) :
    ∃ body, msg = ctor body ∧ Fits body ∧
      input.length = (wire body).length + rest.length := by
  obtain ⟨body, hbody, rfl⟩ := Proc.map_eq_ok h
  exact ⟨body, rfl, Lawful.sound input body rest hbody⟩

/-- A body that `decode_message` accepts for a type byte is of the kind of
that type byte, within the limits, and took as many bytes as its image. -/
theorem Tframe.decodeMessage_eq_ok {ty : UInt8} {input rest : List UInt8}
    {msg : Tmessage} (h : Tframe.decodeMessage ty input = .ok msg rest) :
    msg.messageType = ty ∧ msg.Fits ∧
      input.length = msg.wire.length + rest.length := by
  unfold Tframe.decodeMessage at h
  -- one arm per type byte, in the order of the source's `match`
  iterate 28
    rcases Proc.ite_eq_ok h with ⟨hty, h⟩ | ⟨-, h⟩
    · obtain ⟨body, rfl, hfits, hlength⟩ := decodeKind_eq_ok h
      subst hty
      exact ⟨rfl, hfits, hlength⟩
  cases h

/-! ## Reply bodies -/

theorem Rmessage.writes_encode {msg : Rmessage} (hfits : msg.Fits) :
    Writes msg.encode msg.wire := by
  cases msg with
  | flush | clunk | remove | rename | setAttr | xattrCreate | fsync | link
    | renameAt | unlinkAt => exact writes_pure
  | version body | walk body | read body | write body | attach body
    | auth body | statfs body | lopen body | lcreate body | symlink body
    | mknod body | readlink body | getAttr body | xattrWalk body
    | readdir body | lock body | getLock body | mkdir body | lerror body =>
      exact (Lawful.encodes body hfits).writes

theorem Rmessage.byteSize_eq {msg : Rmessage} (hfits : msg.Fits) :
    msg.byteSize = UInt32.ofNat msg.wire.length := by
  cases msg with
  | flush | clunk | remove | rename | setAttr | xattrCreate | fsync | link
    | renameAt | unlinkAt => rfl
  | version body | walk body | read body | write body | attach body
    | auth body | statfs body | lopen body | lcreate body | symlink body
    | mknod body | readlink body | getAttr body | xattrWalk body
    | readdir body | lock body | getLock body | mkdir body | lerror body =>
      exact (Lawful.encodes body hfits).byteSize_eq

theorem Rmessage.reads_decodeMessage {msg : Rmessage} (hfits : msg.Fits) :
    Reads (Rframe.decodeMessage msg.messageType) msg.wire msg := by
  cases msg with
  | flush | clunk | remove | rename | setAttr | xattrCreate | fsync | link
    | renameAt | unlinkAt => exact reads_pure _
  | version body | walk body | read body | write body | attach body
    | auth body | statfs body | lopen body | lcreate body | symlink body
    | mknod body | readlink body | getAttr body | xattrWalk body
    | readdir body | lock body | getLock body | mkdir body | lerror body =>
      exact (Lawful.encodes body hfits).reads.map _

theorem Rframe.fromFront_decodeMessage (ty : UInt8) :
    FromFront (Rframe.decodeMessage ty) := by
  unfold Rframe.decodeMessage
  iterate 29
    refine FromFront.ite ?_ ?_
    · first
        | exact fromFront_pure _
        | exact Lawful.fromFront.map _
  exact fromFront_throw _

theorem Rframe.decodeMessage_eq_ok {ty : UInt8} {input rest : List UInt8}
    {msg : Rmessage} (h : Rframe.decodeMessage ty input = .ok msg rest) :
    msg.messageType = ty ∧ msg.Fits ∧
      input.length = msg.wire.length + rest.length := by
  unfold Rframe.decodeMessage at h
  iterate 29
    rcases Proc.ite_eq_ok h with ⟨hty, h⟩ | ⟨-, h⟩
    · subst hty
      first
        -- a kind without a body reads nothing
        | (cases h; exact ⟨rfl, trivial, (Nat.zero_add _).symm⟩)
        | (obtain ⟨body, rfl, hfits, hlength⟩ := decodeKind_eq_ok h
           exact ⟨rfl, hfits, hlength⟩)
  cases h

/-! ## Frames

Both frame encoders write the size, the type byte and the tag before the
body, and both decoders read the type byte and the tag inside the window the
size bounds; the lemmas below say this once for both. -/

section FrameSize

variable {length : Nat}

theorem frameSize_toNat (hbound : 7 + length < 2 ^ 32) :
    (4 + 1 + 2 + UInt32.ofNat length : UInt32).toNat = 4 + 1 + 2 + length := by
  have hlength : length < UInt32.size := by
    simp only [UInt32.size]
    omega
  rw [UInt32.toNat_add, UInt32.toNat_ofNat_of_lt' hlength]
  have hseven : (4 + 1 + 2 : UInt32).toNat = 7 := rfl
  rw [hseven, Nat.mod_eq_of_lt hbound]

/-- The size of a frame covers the size field itself. -/
theorem frameSize_not_lt (hbound : 7 + length < 2 ^ 32) :
    ¬ (4 + 1 + 2 + UInt32.ofNat length : UInt32) < 4 := by
  rw [UInt32.lt_iff_toNat_lt, frameSize_toNat hbound]
  simp only [UInt32.reduceToNat]
  omega

/-- The window after the size field holds the type byte, the tag and the
body. -/
theorem frameSize_sub_toNat (hbound : 7 + length < 2 ^ 32) :
    ((4 + 1 + 2 + UInt32.ofNat length : UInt32) - 4).toNat = 1 + 2 + length := by
  have hle : (4 : UInt32) ≤ 4 + 1 + 2 + UInt32.ofNat length := by
    rw [UInt32.le_iff_toNat_le, frameSize_toNat hbound]
    simp only [UInt32.reduceToNat]
    omega
  rw [UInt32.toNat_sub_of_le _ _ hle, frameSize_toNat hbound]
  simp only [UInt32.reduceToNat]
  omega

end FrameSize

theorem writes_frame {size : UInt32} {ty : UInt8} {tag : UInt16}
    {body : ByteM IoError Unit} {bytes : List UInt8} (hbody : Writes body bytes)
    (hsize : size = UInt32.ofNat bytes.length) (hbound : 7 + bytes.length < 2 ^ 32) :
    Writes (do
        WireFormat.encode (4 + 1 + 2 + size : UInt32)
        WireFormat.encode ty
        WireFormat.encode tag
        body) (frameWire tag ty bytes) := by
  subst hsize
  have hheader := encodes_uint32 (4 + 1 + 2 + UInt32.ofNat bytes.length)
  rw [frameSize_toNat hbound] at hheader
  exact hheader.writes.seq ((encodes_uint8 ty).writes.seq
    ((encodes_uint16 tag).writes.seq hbody))

/-- The type byte, the tag and the body the type byte selects. -/
theorem reads_typedBody {γ δ : Type} (body : UInt8 → ByteM IoError γ)
    (mk : UInt16 → γ → δ) {ty : UInt8} {tag : UInt16} {bytes : List UInt8}
    {value : γ} (hbody : Reads (body ty) bytes value) :
    Reads (do
        let ty : UInt8 ← WireFormat.decode
        let tag : UInt16 ← WireFormat.decode
        let msg ← body ty
        pure (mk tag msg))
      (ty :: (leBytes 2 tag.toNat ++ bytes)) (mk tag value) := by
  refine Reads.bind (encodes_uint8 ty).reads ?_
  refine Reads.bind (encodes_uint16 tag).reads ?_
  exact Reads.bind_last hbody (reads_pure _)

theorem Tframe.travels (tag : UInt16) {msg : Tmessage} (hfits : msg.Fits)
    (hbound : 7 + msg.wire.length < 2 ^ 32) :
    Writes (Tframe.encode ⟨tag, .ok msg⟩) (frameWire tag msg.messageType msg.wire) ∧
      Reads Tframe.decode (frameWire tag msg.messageType msg.wire) ⟨tag, .ok msg⟩ := by
  constructor
  · exact writes_frame (Tmessage.writes_encode hfits)
      (Tmessage.byteSize_eq hfits) hbound
  · have hsize := encodes_uint32 (4 + 1 + 2 + UInt32.ofNat msg.wire.length)
    rw [frameSize_toNat hbound] at hsize
    refine Reads.bind hsize.reads ?_
    have hwindow : ((4 + 1 + 2 + UInt32.ofNat msg.wire.length : UInt32) - 4).toNat =
        (msg.messageType :: (leBytes 2 tag.toNat ++ msg.wire)).length := by
      rw [frameSize_sub_toNat hbound]
      simp only [List.length_cons, List.length_append, length_leBytes]
      omega
    show Reads (if _ < 4 then _ else _) _ _
    rw [if_neg (frameSize_not_lt hbound), hwindow]
    exact (reads_typedBody _ Tframe.mk
      (Reads.attempt (Tmessage.reads_decodeMessage hfits))).window

theorem Rframe.travels (frame : Rframe) (hfits : frame.msg.Fits)
    (hbound : 7 + frame.msg.wire.length < 2 ^ 32) :
    Writes (encode frame) (frameWire frame.tag frame.msg.messageType frame.msg.wire) ∧
      Reads (decode : ByteM IoError Rframe)
        (frameWire frame.tag frame.msg.messageType frame.msg.wire) frame := by
  constructor
  · exact writes_frame (Rmessage.writes_encode hfits)
      (Rmessage.byteSize_eq hfits) hbound
  · have hsize := encodes_uint32 (4 + 1 + 2 + UInt32.ofNat frame.msg.wire.length)
    rw [frameSize_toNat hbound] at hsize
    refine Reads.bind hsize.reads ?_
    have hwindow :
        ((4 + 1 + 2 + UInt32.ofNat frame.msg.wire.length : UInt32) - 4).toNat =
          (frame.msg.messageType :: (leBytes 2 frame.tag.toNat ++ frame.msg.wire)).length := by
      rw [frameSize_sub_toNat hbound]
      simp only [List.length_cons, List.length_append, length_leBytes]
      omega
    show Reads (window _ _) _ _
    rw [hwindow]
    exact (reads_typedBody _ Rframe.mk (Rmessage.reads_decodeMessage hfits)).window

/-- Every request frame with a message, and every reply frame, within the
length limits travels: its encoder writes exactly `byte_size` bytes, which
start with `byte_size` itself, and its decoder reads the frame back from them
whatever follows. -/
theorem frame_round_trip :
    (∀ (frame : Tframe) (msg : Tmessage), frame.msg = .ok msg → msg.Fits →
      7 + msg.wire.length < 2 ^ 32 →
      ∃ (size : UInt32) (bytes : List UInt8), frame.byteSize = some size ∧
        Writes frame.encode bytes ∧ bytes.length = size.toNat ∧
        bytes.take 4 = leBytes 4 size.toNat ∧ Reads Tframe.decode bytes frame) ∧
    (∀ frame : Rframe, frame.msg.Fits → 7 + frame.msg.wire.length < 2 ^ 32 →
      ∃ bytes : List UInt8, Writes (encode frame) bytes ∧
        bytes.length = (byteSize frame).toNat ∧
        bytes.take 4 = leBytes 4 (byteSize frame).toNat ∧
        Reads (decode : ByteM IoError Rframe) bytes frame) := by
  constructor
  · rintro ⟨tag, _⟩ msg rfl hfits hbound
    obtain ⟨hwrites, hreads⟩ := Tframe.travels tag hfits hbound
    have hsize : (4 + 1 + 2 + msg.byteSize : UInt32).toNat = 4 + 1 + 2 + msg.wire.length := by
      rw [Tmessage.byteSize_eq hfits, frameSize_toNat hbound]
    refine ⟨4 + 1 + 2 + msg.byteSize, _, rfl, hwrites, ?_, ?_, hreads⟩
    · rw [length_frameWire, hsize]
    · rw [take_frameWire, hsize]
  · intro frame hfits hbound
    obtain ⟨hwrites, hreads⟩ := Rframe.travels frame hfits hbound
    have hsize : (byteSize frame).toNat = 4 + 1 + 2 + frame.msg.wire.length := by
      show (4 + 1 + 2 + frame.msg.byteSize : UInt32).toNat = _
      rw [Rmessage.byteSize_eq hfits, frameSize_toNat hbound]
    refine ⟨_, hwrites, ?_, ?_, hreads⟩
    · rw [length_frameWire, hsize]
    · rw [take_frameWire, hsize]

/-- The round trip at a version request and its reply. -/
theorem version_frames_round_trip :
    (∃ (size : UInt32) (bytes : List UInt8),
      (⟨1, .ok (.version ⟨8192, "9P2000.L"⟩)⟩ : Tframe).byteSize = some size ∧
        Writes (Tframe.encode ⟨1, .ok (.version ⟨8192, "9P2000.L"⟩)⟩) bytes ∧
        bytes.length = size.toNat ∧ bytes.take 4 = leBytes 4 size.toNat ∧
        Reads Tframe.decode bytes ⟨1, .ok (.version ⟨8192, "9P2000.L"⟩)⟩) ∧
    (∃ bytes : List UInt8,
      Writes (encode (⟨1, .version ⟨8192, "9P2000.L"⟩⟩ : Rframe)) bytes ∧
        bytes.length = (byteSize (⟨1, .version ⟨8192, "9P2000.L"⟩⟩ : Rframe)).toNat ∧
        bytes.take 4 =
          leBytes 4 (byteSize (⟨1, .version ⟨8192, "9P2000.L"⟩⟩ : Rframe)).toNat ∧
        Reads (decode : ByteM IoError Rframe) bytes ⟨1, .version ⟨8192, "9P2000.L"⟩⟩) := by
  have hversion : "9P2000.L".utf8ByteSize ≤ 65535 := by decide
  exact ⟨frame_round_trip.1 _ _ rfl ⟨trivial, hversion⟩ (by decide),
    frame_round_trip.2 _ ⟨trivial, hversion⟩ (by decide)⟩

/-! ## What the frame decoders accept -/

theorem fromFront_typedBody {γ δ : Type} {body : UInt8 → ByteM IoError γ}
    (mk : UInt16 → γ → δ) (hbody : ∀ ty, FromFront (body ty)) :
    FromFront (do
      let ty : UInt8 ← WireFormat.decode
      let tag : UInt16 ← WireFormat.decode
      let msg ← body ty
      pure (mk tag msg)) :=
  Lawful.fromFront.bind fun ty => Lawful.fromFront.bind fun tag =>
    (hbody ty).bind fun msg => fromFront_pure (mk tag msg)

/-- What a frame decoder read inside its window: a type byte and a tag, then
whatever the body decoder of that type byte accepted. -/
theorem typedBody_eq_ok {γ δ : Type} {body : UInt8 → ByteM IoError γ}
    {mk : UInt16 → γ → δ} {input rest : List UInt8} {value : δ}
    (h : (do
        let ty : UInt8 ← WireFormat.decode
        let tag : UInt16 ← WireFormat.decode
        let msg ← body ty
        pure (mk tag msg)) input = .ok value rest) :
    ∃ ty tag msg mid, value = mk tag msg ∧ body ty mid = .ok msg rest ∧
      input.length = 1 + 2 + mid.length := by
  obtain ⟨ty, afterType, hty, h⟩ := Proc.bind_eq_ok h
  obtain ⟨tag, mid, htag, h⟩ := Proc.bind_eq_ok h
  obtain ⟨msg, last, hmsg, h⟩ := Proc.bind_eq_ok h
  cases h
  have htype := (sound_uint8 input ty afterType hty).2
  have htagged := (sound_uint16 afterType tag mid htag).2
  simp only [List.length_singleton, length_leBytes] at htype htagged
  exact ⟨ty, tag, msg, mid, rfl, hmsg, by omega⟩

theorem Tframe.fromFront_decode : FromFront Tframe.decode :=
  Lawful.fromFront.bind fun _ => FromFront.ite (fromFront_throw _)
    ((fromFront_typedBody Tframe.mk fun ty =>
      (Tframe.fromFront_decodeMessage ty).attempt).window _)

theorem Rframe.fromFront_decode : FromFront Rframe.decode :=
  Lawful.fromFront.bind fun _ =>
    (fromFront_typedBody Rframe.mk Rframe.fromFront_decodeMessage).window _

/-- A request frame decoded from any bytes took at most the bytes its size
field announces; and if its body decoded, re-encoding it gives exactly as
many bytes as were taken, which decode to the same frame. -/
theorem Tframe.decode_reencodes {bytes rest : List UInt8} {frame : Tframe}
    (h : Tframe.decode bytes = .ok frame rest) :
    ∃ consumed, consumed ≤ ofLeBytes (bytes.take 4) ∧ rest = bytes.drop consumed ∧
      ∀ msg, frame.msg = .ok msg → ∃ encoded, Writes frame.encode encoded ∧
        encoded.length = consumed ∧ Reads Tframe.decode encoded frame := by
  have hsuffix : rest <:+ bytes := by
    have hfront := Tframe.fromFront_decode bytes
    rwa [h, Proc.Result.state_ok] at hfront
  obtain ⟨size, mid, hsize, hwindow⟩ := Proc.bind_eq_ok h
  obtain ⟨hfour, hvalue, rfl⟩ := decode_uint32_eq_ok hsize
  rcases Proc.ite_eq_ok hwindow with ⟨-, hthrow⟩ | ⟨hcheck, hwindow⟩
  · cases hthrow
  have hlimit : (size - 4).toNat = size.toNat - 4 := by
    rw [UInt32.lt_iff_toNat_lt] at hcheck
    rw [UInt32.toNat_sub_of_le _ _ (UInt32.le_iff_toNat_le.mpr (by simpa using hcheck))]
    rfl
  have hcovers : 4 ≤ size.toNat := by
    rw [UInt32.lt_iff_toNat_lt] at hcheck
    simpa using hcheck
  have htaken := window_eq_ok_takes_le hwindow
  rw [List.length_drop, hlimit] at htaken
  refine ⟨bytes.length - rest.length, by omega, List.suffix_iff_eq_drop.mp hsuffix, ?_⟩
  intro msg hmsg
  obtain ⟨inner, hinner, rfl⟩ := window_eq_ok hwindow
  obtain ⟨ty, tag, result, mid, rfl, hbody, hheader⟩ := typedBody_eq_ok hinner
  cases hmsg
  obtain ⟨rfl, hfits, hlength⟩ := Tframe.decodeMessage_eq_ok (Proc.attempt_eq_ok hbody)
  simp only [List.length_append, List.length_drop, List.length_take] at htaken hheader ⊢
  have hsizeLt := size.toNat_lt
  have hconsumed : bytes.length - (inner.length + (bytes.length - 4 - (size - 4).toNat)) =
      7 + msg.wire.length := by
    rw [hlimit] at hheader ⊢
    omega
  have hbound : 7 + msg.wire.length < 2 ^ 32 := by omega
  obtain ⟨hwrites, hreads⟩ := Tframe.travels tag hfits hbound
  exact ⟨_, hwrites, by rw [length_frameWire, hconsumed], hreads⟩

/-- The same for a reply frame, whose decoder does not check that the size
field covers itself: here that is a hypothesis. -/
theorem Rframe.decode_reencodes {bytes rest : List UInt8} {frame : Rframe}
    (hcovers : 4 ≤ ofLeBytes (bytes.take 4))
    (h : Rframe.decode bytes = .ok frame rest) :
    ∃ consumed, consumed ≤ ofLeBytes (bytes.take 4) ∧ rest = bytes.drop consumed ∧
      ∃ encoded, Writes (encode frame) encoded ∧ encoded.length = consumed ∧
        Reads Rframe.decode encoded frame := by
  have hsuffix : rest <:+ bytes := by
    have hfront := Rframe.fromFront_decode bytes
    rwa [h, Proc.Result.state_ok] at hfront
  obtain ⟨size, mid, hsize, hwindow⟩ := Proc.bind_eq_ok h
  obtain ⟨hfour, hvalue, rfl⟩ := decode_uint32_eq_ok hsize
  rw [← hvalue] at hcovers ⊢
  have hlimit : (size - 4).toNat = size.toNat - 4 := by
    rw [UInt32.toNat_sub_of_le _ _ (UInt32.le_iff_toNat_le.mpr (by simpa using hcovers))]
    rfl
  have htaken := window_eq_ok_takes_le hwindow
  rw [List.length_drop, hlimit] at htaken
  refine ⟨bytes.length - rest.length, by omega, List.suffix_iff_eq_drop.mp hsuffix, ?_⟩
  obtain ⟨inner, hinner, rfl⟩ := window_eq_ok hwindow
  obtain ⟨ty, tag, msg, mid, rfl, hbody, hheader⟩ := typedBody_eq_ok hinner
  obtain ⟨rfl, hfits, hlength⟩ := Rframe.decodeMessage_eq_ok hbody
  simp only [List.length_append, List.length_drop, List.length_take] at htaken hheader ⊢
  have hsizeLt := size.toNat_lt
  have hconsumed : bytes.length - (inner.length + (bytes.length - 4 - (size - 4).toNat)) =
      7 + msg.wire.length := by
    rw [hlimit] at hheader ⊢
    omega
  have hbound : 7 + msg.wire.length < 2 ^ 32 := by omega
  obtain ⟨hwrites, hreads⟩ := Rframe.travels ⟨tag, msg⟩ hfits hbound
  exact ⟨_, hwrites, by rw [length_frameWire, hconsumed], hreads⟩

/-- A decoded frame re-encodes to as many bytes as its decoder took, which
decode to the same frame; and the decoder takes at most the bytes the size
field announces (for a reply, once that field covers itself). -/
theorem decode_frame_reencodes (bytes : List UInt8) :
    (∀ frame rest, Tframe.decode bytes = .ok frame rest →
      ∃ consumed, consumed ≤ ofLeBytes (bytes.take 4) ∧ rest = bytes.drop consumed ∧
        ∀ msg, frame.msg = .ok msg → ∃ encoded, Writes frame.encode encoded ∧
          encoded.length = consumed ∧ Reads Tframe.decode encoded frame) ∧
    (4 ≤ ofLeBytes (bytes.take 4) → ∀ frame rest, Rframe.decode bytes = .ok frame rest →
      ∃ consumed, consumed ≤ ofLeBytes (bytes.take 4) ∧ rest = bytes.drop consumed ∧
        ∃ encoded, Writes (encode frame) encoded ∧ encoded.length = consumed ∧
          Reads Rframe.decode encoded frame) :=
  ⟨fun _ _ h => Tframe.decode_reencodes h,
    fun hcovers _ _ h => Rframe.decode_reencodes hcovers h⟩

/-- The law at the flush request below, which the decoder accepts short of
its announced size. -/
theorem slack_flush_reencodes :
    ∃ consumed, consumed ≤ 10 ∧
      ([170] : List UInt8) = [10, 0, 0, 0, 108, 0, 0, 1, 0, 170].drop consumed ∧
      ∃ encoded, Writes (Tframe.encode ⟨0, .ok (.flush ⟨1⟩)⟩) encoded ∧
        encoded.length = consumed ∧ Reads Tframe.decode encoded ⟨0, .ok (.flush ⟨1⟩)⟩ := by
  obtain ⟨consumed, hle, hrest, hencoded⟩ :=
    (decode_frame_reencodes [10, 0, 0, 0, 108, 0, 0, 1, 0, 170]).1
      ⟨0, .ok (.flush ⟨1⟩)⟩ [170] rfl
  exact ⟨consumed, hle, hrest, hencoded _ rfl⟩

/-- A flush request whose size field announces one byte more than its body:
the decoder accepts it after nine of the ten bytes, leaving the tenth in the
stream, and re-encoding the frame gives nine bytes that differ from the ten
that were sent. -/
theorem flush_frame_with_slack :
    Tframe.decode [10, 0, 0, 0, 108, 0, 0, 1, 0, 170] =
        .ok ⟨0, .ok (.flush ⟨1⟩)⟩ [170] ∧
      Tframe.encode ⟨0, .ok (.flush ⟨1⟩)⟩ [] = .ok () [9, 0, 0, 0, 108, 0, 0, 1, 0] :=
  ⟨rfl, rfl⟩

/-- The decoders on the bytes of an error reply whose size field is zero:
the request decoder rejects the size, while the reply decoder subtracts four
from it, wraps, and accepts the eleven bytes as a frame. -/
theorem rframe_decode_accepts_size_zero :
    Rframe.decode [0, 0, 0, 0, 7, 0, 0, 5, 0, 0, 0] = .ok ⟨0, .lerror ⟨5⟩⟩ [] ∧
      Tframe.decode [0, 0, 0, 0, 7, 0, 0, 5, 0, 0, 0] =
        .error (.custom .invalidData "byte_size(= 0) is less than 4 bytes")
          [7, 0, 0, 5, 0, 0, 0] :=
  ⟨rfl, rfl⟩

/-! ## A frame is written before its body is checked

Both frame encoders write the size, the type byte and the tag, and only then
encode the body, whose encoders check each string, vector and payload as they
come to it.  A frame whose body is out of its limits therefore fails with its
header, and every field before the one out of its limits, already written. -/

section Tearing

open Proc

/-- The size, the type byte and the tag that open a frame. -/
def frameHeader (size : UInt32) (ty : UInt8) (tag : UInt16) : List UInt8 :=
  leBytes 4 size.toNat ++ ty :: leBytes 2 tag.toNat

@[simp]
theorem length_frameHeader (size : UInt32) (ty : UInt8) (tag : UInt16) :
    (frameHeader size ty tag).length = 7 := by
  simp [frameHeader]

/-- The frame writer writes the header, then runs the body after it, whatever
the body does. -/
theorem frame_apply (size : UInt32) (ty : UInt8) (tag : UInt16)
    (body : ByteM IoError Unit) (output : List UInt8) :
    (do
        WireFormat.encode size
        WireFormat.encode ty
        WireFormat.encode tag
        body) output = body (output ++ frameHeader size ty tag) := by
  simp only [Proc.bind_apply, (encodes_uint32 size).writes output,
    (encodes_uint8 ty).writes _, (encodes_uint16 tag).writes _, frameHeader,
    List.append_assoc, List.singleton_append]

theorem Tmessage.keeps_encode (msg : Tmessage) : Keeps (· <+: ·) msg.encode := by
  cases msg <;> exact Appends.derive.keeps _

theorem Rmessage.keeps_encode (msg : Rmessage) : Keeps (· <+: ·) msg.encode := by
  cases msg with
  | flush | clunk | remove | rename | setAttr | xattrCreate | fsync | link
    | renameAt | unlinkAt => exact keeps_pure ()
  | version body | walk body | read body | write body | attach body
    | auth body | statfs body | lopen body | lcreate body | symlink body
    | mknod body | readlink body | getAttr body | xattrWalk body
    | readdir body | lock body | getLock body | mkdir body | lerror body =>
      exact Appends.derive.keeps _

/-- A request frame or a reply frame whose encoder fails has written its
header, and the body's fields up to the one that failed, to the writer. -/
theorem frame_encode_tears :
    (∀ (tag : UInt16) (msg : Tmessage) (output written : List UInt8) (err : IoError),
      Tframe.encode ⟨tag, .ok msg⟩ output = .error err written →
        output ++ frameHeader (4 + 1 + 2 + msg.byteSize) msg.messageType tag <+: written) ∧
    (∀ (frame : Rframe) (output written : List UInt8) (err : IoError),
      encode frame output = .error err written →
        output ++ frameHeader (byteSize frame) frame.msg.messageType frame.tag <+: written) := by
  constructor
  · intro tag msg output written err hfail
    have hbody : msg.encode (output ++ frameHeader (4 + 1 + 2 + msg.byteSize)
        msg.messageType tag) = .error err written := by
      rw [← hfail]
      exact (frame_apply (4 + 1 + 2 + msg.byteSize) msg.messageType tag msg.encode output).symm
    exact (Tmessage.keeps_encode msg).error hbody
  · intro frame output written err hfail
    have hbody : frame.msg.encode (output ++ frameHeader (byteSize frame)
        frame.msg.messageType frame.tag) = .error err written := by
      rw [← hfail]
      exact (frame_apply (byteSize frame) frame.msg.messageType frame.tag frame.msg.encode
        output).symm
    exact (Rmessage.keeps_encode frame.msg).error hbody

/-- A walk request with more names than a `u16` counts: its encoder writes the
header, `fid` and `newfid`, and then refuses the names. -/
theorem walk_frame_encode_fails (tag : UInt16) {walk : Twalk}
    (hnames : 65535 < walk.wnames.length) (output : List UInt8) :
    Tframe.encode ⟨tag, .ok (.walk walk)⟩ output =
      .error (.custom .invalidInput "too many elements in vector")
        (output ++ frameHeader (4 + 1 + 2 + (Tmessage.walk walk).byteSize) TWALK tag ++
          leBytes 4 walk.fid.toNat ++ leBytes 4 walk.newfid.toNat) := by
  show (do
      WireFormat.encode (4 + 1 + 2 + (Tmessage.walk walk).byteSize : UInt32)
      WireFormat.encode TWALK
      WireFormat.encode tag
      WireFormat.encode (walk.fid, walk.newfid, walk.wnames)) output = _
  rw [frame_apply]
  simp only [WireFormat.encode, Proc.bind_apply, writeAll_apply, if_pos hnames]
  rfl

/-- The walk of 65536 empty names fails with at least its seven-byte header
written. -/
theorem long_walk_leaves_header :
    ∃ err written,
      Tframe.encode ⟨0, .ok (.walk ⟨0, 1, List.replicate 65536 ""⟩)⟩ [] = .error err written ∧
        7 ≤ written.length := by
  have hnames : 65535 < (List.replicate 65536 "").length := by
    rw [List.length_replicate]
    decide
  -- keep the bytes written opaque: unfolding them would sum the sizes of all the names
  obtain ⟨err, written, hfail⟩ : ∃ err written,
      Tframe.encode ⟨0, .ok (.walk ⟨0, 1, List.replicate 65536 ""⟩)⟩ [] = .error err written :=
    ⟨_, _, @walk_frame_encode_fails 0 ⟨0, 1, List.replicate 65536 ""⟩ hnames []⟩
  refine ⟨err, written, hfail, ?_⟩
  have hlength := (frame_encode_tears.1 _ _ _ _ _ hfail).length_le
  rw [List.nil_append, length_frameHeader] at hlength
  exact hlength

end Tearing

/-! ## A payload past `MAX_DATA_LENGTH`

`Data::encode` writes any payload a `u32` counts, but `Data::decode` refuses
one longer than `MAX_DATA_LENGTH` once it has read its length.  In a write
request the frame decoder then gives the frame with that error, and what
follows the length field, the payload first, is left in the window. -/

section LongWrite

open Proc

/-- A write request whose length field is past `MAX_DATA_LENGTH`: its
decoder reads the fid, the offset and the length, and refuses the rest. -/
theorem Twrite.refuses_decode (fid : UInt32) (offset : UInt64) {len : UInt32}
    (hlong : MAX_DATA_LENGTH < len) :
    Refuses (decode : ByteM IoError Twrite)
      (leBytes 4 fid.toNat ++ (leBytes 8 offset.toNat ++ leBytes 4 len.toNat))
      (.custom .invalidData ("data length (" ++ toString len ++ " bytes) is too large")) :=
  ((encodes_uint32 fid).reads.bind_refuses ((encodes_uint64 offset).reads.bind_refuses
    ((refuses_data_too_large hlong).bind _) |>.bind _)).map _

/-- The frame decoder on such a write request, in a frame whose size covers
its fixed fields: it gives the frame with the payload's error as soon as it
has read the length, and leaves the rest of the window, the payload first,
unread. -/
theorem Tframe.reads_long_write {size : UInt32} (hsize : 23 ≤ size.toNat) (tag : UInt16)
    (fid : UInt32) (offset : UInt64) {len : UInt32} (hlong : MAX_DATA_LENGTH < len) :
    Reads Tframe.decode
      (frameHeader size TWRITE tag ++ leBytes 4 fid.toNat ++ leBytes 8 offset.toNat ++
        leBytes 4 len.toNat)
      ⟨tag, .error (.custom .invalidData
        ("data length (" ++ toString len ++ " bytes) is too large"))⟩ := by
  have hfour : (4 : UInt32) ≤ size := by
    rw [UInt32.le_iff_toNat_le]
    simp only [UInt32.reduceToNat]
    omega
  have hwindow : ((TWRITE :: (leBytes 2 tag.toNat ++ (leBytes 4 fid.toNat ++
      (leBytes 8 offset.toNat ++ leBytes 4 len.toNat))))).length ≤ (size - 4).toNat := by
    rw [UInt32.toNat_sub_of_le _ _ hfour]
    simp only [List.length_cons, List.length_append, length_leBytes, UInt32.reduceToNat]
    omega
  have hbytes : frameHeader size TWRITE tag ++ leBytes 4 fid.toNat ++ leBytes 8 offset.toNat ++
      leBytes 4 len.toNat = leBytes 4 size.toNat ++ (TWRITE :: (leBytes 2 tag.toNat ++
        (leBytes 4 fid.toNat ++ (leBytes 8 offset.toNat ++ leBytes 4 len.toNat)))) := by
    simp only [frameHeader, List.append_assoc, List.cons_append]
  rw [hbytes]
  refine Reads.bind (encodes_uint32 size).reads ?_
  show Reads (if size < 4 then _ else _) _ _
  rw [if_neg (by rw [UInt32.lt_iff_toNat_lt]; simp only [UInt32.reduceToNat]; omega)]
  exact (reads_typedBody _ Tframe.mk
    ((Twrite.refuses_decode fid offset hlong).map _).attempt).window_of_le hwindow

/-- The bytes of a write request whose payload a `u32` counts. -/
theorem Tframe.writes_write (tag : UInt16) (fid : UInt32) (offset : UInt64) {bytes : List UInt8}
    (hbound : bytes.length < 2 ^ 32) :
    Writes (Tframe.encode ⟨tag, .ok (.write ⟨fid, offset, ⟨bytes⟩⟩)⟩)
      (frameHeader (4 + 1 + 2 + (4 + (8 + (4 + UInt32.ofNat bytes.length)))) TWRITE tag ++
        leBytes 4 fid.toNat ++ leBytes 8 offset.toNat ++ leBytes 4 bytes.length ++ bytes) := by
  have hbody : Writes (WireFormat.encode (fid, offset, (⟨bytes⟩ : Data)))
      (leBytes 4 fid.toNat ++ (leBytes 8 offset.toNat ++ (leBytes 4 bytes.length ++ bytes))) :=
    (encodes_uint32 _).writes.seq ((encodes_uint64 _).writes.seq (writes_data hbound))
  have hsize : (Tmessage.write ⟨fid, offset, ⟨bytes⟩⟩).byteSize =
      4 + (8 + (4 + UInt32.ofNat bytes.length)) := by
    show 4 + (8 + (4 + (bytes.map WireFormat.byteSize).sum)) = _
    rw [sum_byteSize_bytes]
  intro output
  show (do
      WireFormat.encode (4 + 1 + 2 + (Tmessage.write ⟨fid, offset, ⟨bytes⟩⟩).byteSize : UInt32)
      WireFormat.encode TWRITE
      WireFormat.encode tag
      WireFormat.encode (fid, offset, (⟨bytes⟩ : Data))) output = _
  rw [frame_apply, hbody, hsize]
  simp only [List.append_assoc]

end LongWrite

end JetStream
