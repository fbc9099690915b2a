import JetStream.Ufs.Lifecycle
import Mathlib.Logic.Relation

/-!
# The negotiated message size

`Server::new` takes `msize` from its configuration, and afterwards only
`Tversion` changes it: it refuses a size below `MIN_MESSAGE_SIZE` and
otherwise keeps the smaller of the two sizes.  Every other request writes at
most the fid table.  So over every life of a server the size stays between
`MIN_MESSAGE_SIZE` and the size it started with, and no step raises it.

`read` and `readdir` keep room in their reply for the header of a data reply
of no bytes, eleven bytes in all, and ask for at most the rest.  With the size
bounded below, that subtraction never wraps, and every reply they give fits in
the negotiated size and carries at most the bytes the request asked for.  For
`read` this rests on `pread` filling at most the buffer it is given; for
`readdir` on the packing loop, which stops before an entry that would overrun
the buffer's capacity.
-/

namespace JetStream

open Proc Server WireFormat

variable {σ File : Type}

/-! ## The lives of a server -/

/-- One step of a server's life: it handles a request, or the host changes
under it. -/
inductive Step (kernel : Kernel σ File) : World σ File → World σ File → Prop
  | handle {world world' : World σ File} (frame : Tframe) (reply : Rframe) :
      handle kernel frame world = .ok reply world' → Step kernel world world'
  | host (world : World σ File) (os : σ) : Step kernel world { world with os }

/-- A world that a server made by `Server::new` with `cfg` reaches in some
number of steps. -/
def Reachable (kernel : Kernel σ File) (cfg : Config) (world : World σ File) : Prop :=
  ∃ os₀ server os, withConfig kernel cfg os₀ = .ok server os ∧
    Relation.ReflTransGen (Step kernel) ⟨server, os⟩ world

theorem withConfig_eq_ok {kernel : Kernel σ File} {cfg : Config} {os₀ os : σ}
    {server : Server File} (h : withConfig kernel cfg os₀ = .ok server os) :
    server.cfg = cfg ∧ server.fids = fun _ => none := by
  unfold withConfig at h
  split at h
  · cases h
    exact ⟨rfl, rfl⟩
  · cases h

/-- A session of frames handled one after another is a run of steps. -/
theorem steps_of_mapM {kernel : Kernel σ File} :
    ∀ (frames : List Tframe) {world world' : World σ File} {replies : List Rframe},
      frames.mapM (handle kernel) world = .ok replies world' →
      Relation.ReflTransGen (Step kernel) world world'
  | [], world, world', replies, h => by
      obtain ⟨-, rfl⟩ := mapM_nil_eq_ok h
      exact .refl
  | frame :: frames, world, world', replies, h => by
      obtain ⟨reply, replies', mid, hfirst, hrest, -⟩ := mapM_cons_eq_ok h
      exact .head (.handle frame reply hfirst) (steps_of_mapM frames hrest)

/-! ## The size never grows, nor falls below the minimum -/

/-- The size of `world'` is at most that of `world`, and at least
`MIN_MESSAGE_SIZE` when that of `world` is. -/
def Narrows (world world' : World σ File) : Prop :=
  world'.server.cfg.msize ≤ world.server.cfg.msize ∧
    (MIN_MESSAGE_SIZE ≤ world.server.cfg.msize → MIN_MESSAGE_SIZE ≤ world'.server.cfg.msize)

instance : Std.Refl (Narrows : World σ File → World σ File → Prop) :=
  ⟨fun _ => ⟨UInt32.le_refl _, id⟩⟩

instance : IsTrans (World σ File) Narrows :=
  ⟨fun _ _ _ hfirst hsecond =>
    ⟨UInt32.le_trans hsecond.1 hfirst.1, fun hmin => hsecond.2 (hfirst.2 hmin)⟩⟩

theorem WritesOnly.narrows {fids : UInt32 → Prop} {world world' : World σ File}
    (h : WritesOnly fids world world') : Narrows world world' := by
  unfold Narrows
  rw [h.1]
  exact ⟨UInt32.le_refl _, id⟩

/-- Lowering the size to a request of at least `MIN_MESSAGE_SIZE` narrows it. -/
theorem narrows_min {world world' : World σ File} {requested : UInt32}
    (hrequested : MIN_MESSAGE_SIZE ≤ requested)
    (hmsize : world'.server.cfg.msize = min world.server.cfg.msize requested) :
    Narrows world world' := by
  rw [Narrows, hmsize]
  exact ⟨Std.min_le_left, fun hmin => Std.le_min_iff.mpr ⟨hmin, hrequested⟩⟩

section Size

variable (kernel : Kernel σ File)

theorem keepsNarrows_version (msg : Tversion) :
    Keeps Narrows (version msg : UfsM σ File Rversion) := by
  intro world
  cases hrun : version msg world with
  | ok reply world' =>
      obtain ⟨hrequested, rfl, -⟩ := version_eq_ok hrun
      exact narrows_min hrequested rfl
  | error err world' =>
      have hsame := keepsOnError_version msg world err world' hrun
      exact (SameServer.writesOnly hsame : WritesOnly (fun _ => True) _ _).narrows

theorem keepsNarrows_dispatch (msg : Tmessage) : Keeps Narrows (dispatch kernel msg) := by
  by_cases hversion : ∃ request, msg = .version request
  · obtain ⟨request, rfl⟩ := hversion
    exact (keepsNarrows_version request).map _
  · have hmsg : ∀ request, msg ≠ .version request := fun request heq =>
      hversion ⟨request, heq⟩
    exact (keepsWrites_dispatch kernel msg hmsg).imp fun _ _ => WritesOnly.narrows

theorem keepsNarrows_handle (frame : Tframe) : Keeps Narrows (handle kernel frame) := by
  refine Keeps.bind (Keeps.attempt ?_) fun _ => keeps_pure _
  split
  · exact keepsNarrows_dispatch kernel _
  · exact keeps_throw _

theorem Step.narrows {kernel : Kernel σ File} {world world' : World σ File}
    (h : Step kernel world world') : Narrows world world' := by
  cases h with
  | handle frame reply hrun => exact (keepsNarrows_handle kernel frame).ok hrun
  | host os => exact (SameServer.writesOnly rfl : WritesOnly (fun _ => True) _ _).narrows

/-- Along every run the size narrows. -/
theorem narrows_of_run {world world' : World σ File}
    (hrun : Relation.ReflTransGen (Step kernel) world world') : Narrows world world' :=
  Relation.reflTransGen_le_of_le (r := Narrows) (fun _ _ hstep => Step.narrows hstep) _ _ hrun

/-- In every world a server reaches, the size lies between the minimum and
the size it was made with. -/
theorem reachable_msize_bounds {cfg : Config} (hcfg : MIN_MESSAGE_SIZE ≤ cfg.msize)
    {world : World σ File} (hreach : Reachable kernel cfg world) :
    MIN_MESSAGE_SIZE ≤ world.server.cfg.msize ∧ world.server.cfg.msize ≤ cfg.msize := by
  obtain ⟨os₀, server, os, hstart, hrun⟩ := hreach
  obtain ⟨hsame, -⟩ := withConfig_eq_ok hstart
  obtain ⟨hle, hmin⟩ := narrows_of_run kernel hrun
  simp only [hsame] at hle hmin
  exact ⟨hmin hcfg, hle⟩

end Size

/-! ## The size of a data reply -/

/-- `read_at` into a buffer of `count` bytes reads at most `count` bytes. -/
def Kernel.ReadsWithin (kernel : Kernel σ File) : Prop :=
  ∀ file count offset os bytes os', kernel.pread file count offset os = .ok bytes os' →
    bytes.length ≤ count

theorem byteSize_data (data : Data) : byteSize data = 4 + UInt32.ofNat data.bytes.length := by
  show 4 + (data.bytes.map byteSize).sum = _
  rw [sum_byteSize_bytes]

/-- An `Rread` or an `Rreaddir` is the eleven bytes of its header and its
data. -/
theorem byteSize_data_frame (tag : UInt16) {rmsg : Rmessage} {data : Data}
    (hdata : rmsg = .read { data } ∨ rmsg = .readdir { data }) :
    byteSize ({ tag, msg := rmsg } : Rframe) = 11 + UInt32.ofNat data.bytes.length := by
  have hframe : byteSize ({ tag, msg := rmsg } : Rframe) = 4 + 1 + 2 + byteSize data := by
    rcases hdata with rfl | rfl <;> rfl
  rw [hframe, byteSize_data, ← UInt32.add_assoc]
  rfl

theorem emptyDataHeader_data {rmsg : Rmessage}
    (hdata : rmsg = .read { data := ⟨[]⟩ } ∨ rmsg = .readdir { data := ⟨[]⟩ }) :
    emptyDataHeader rmsg = 11 := by
  rw [emptyDataHeader, byteSize_data_frame 0 hdata]
  rfl

/-- A reply carries at most one payload. -/
theorem data_eq_of_data {rmsg : Rmessage} {data other : Data}
    (hdata : rmsg = .read { data } ∨ rmsg = .readdir { data })
    (hother : rmsg = .read { data := other } ∨ rmsg = .readdir { data := other }) :
    other = data := by
  rcases hdata with rfl | rfl <;> rcases hother with hsame | hsame <;> cases hsame <;> rfl

theorem byteSize_lerror_frame (tag : UInt16) (err : Rlerror) :
    byteSize ({ tag, msg := .lerror err } : Rframe) = 11 := rfl

/-- The room `read` and `readdir` keep for data: the size less the header,
with the subtraction not wrapping. -/
theorem toNat_sub_header {msize : UInt32} (hmin : MIN_MESSAGE_SIZE ≤ msize) :
    (msize - 11).toNat = msize.toNat - 11 := by
  have hle : (11 : UInt32) ≤ msize := UInt32.le_trans (by decide) hmin
  rw [UInt32.toNat_sub_of_le _ _ hle]
  rfl

/-- A data reply whose data fit in the room fits in the size. -/
theorem dataFrame_fits {msize : UInt32} {length : Nat} (hmin : MIN_MESSAGE_SIZE ≤ msize)
    (hlength : length ≤ (msize - 11).toNat) :
    (11 + UInt32.ofNat length : UInt32).toNat ≤ msize.toNat := by
  have hroom := toNat_sub_header hmin
  have hlarge : 256 ≤ msize.toNat := UInt32.le_iff_toNat_le.mp hmin
  have hsize : msize.toNat < 2 ^ 32 := msize.toNat_lt
  have hsmall : length < 2 ^ 32 := by omega
  rw [UInt32.toNat_add, UInt32.toNat_ofNat_of_lt' hsmall]
  have heleven : (11 : UInt32).toNat = 11 := rfl
  rw [heleven, Nat.mod_eq_of_lt (by omega)]
  omega

/-- A reply to a request for at most `count` bytes of data, on a connection of
size `msize`: it fits in `msize`, and the data it carries are at most `count`
bytes. -/
def DataReplyWithin (msize count : UInt32) (reply : Rframe) : Prop :=
  (byteSize reply).toNat ≤ msize.toNat ∧
    ∀ data, reply.msg = .read { data } ∨ reply.msg = .readdir { data } →
      data.bytes.length ≤ count.toNat

theorem lerror_within {msize count : UInt32} (hmin : MIN_MESSAGE_SIZE ≤ msize) (tag : UInt16)
    (err : Rlerror) : DataReplyWithin msize count { tag, msg := .lerror err } := by
  refine ⟨?_, ?_⟩
  · rw [byteSize_lerror_frame]
    exact UInt32.le_iff_toNat_le.mp (UInt32.le_trans (by decide) hmin)
  · rintro data (hread | hreaddir)
    · cases hread
    · cases hreaddir

theorem toNat_min_le_right (left right : UInt32) : (min left right).toNat ≤ right.toNat :=
  UInt32.le_iff_toNat_le.mp Std.min_le_right

theorem toNat_min_le_left (left right : UInt32) : (min left right).toNat ≤ left.toNat :=
  UInt32.le_iff_toNat_le.mp Std.min_le_left

/-! ## `read` -/

section Read

variable (kernel : Kernel σ File)

theorem read_eq_ok {msg : Tread} {world world' : World σ File} {reply : Rread}
    (h : read kernel msg world = .ok reply world') :
    ∃ file os, kernel.pread file (min (world.server.cfg.msize - 11) msg.count).toNat
      msg.offset world.os = .ok reply.data.bytes os := by
  obtain ⟨-, file, -, -, h⟩ := getOpenFile_bind_eq_ok h
  have h := getServer_bind_eq_ok h
  obtain ⟨buf, mid, hread, h⟩ := bind_eq_ok h
  obtain ⟨os, hcall, -⟩ := sys_eq_ok hread
  cases h
  exact ⟨file, os, hcall⟩

/-- What `read` returns is at most the room for data and at most the count
asked for. -/
theorem read_within (hreads : kernel.ReadsWithin) {msg : Tread} {world world' : World σ File}
    {reply : Rread} (h : read kernel msg world = .ok reply world') :
    reply.data.bytes.length ≤ (world.server.cfg.msize - 11).toNat ∧
      reply.data.bytes.length ≤ msg.count.toNat := by
  obtain ⟨file, os, hcall⟩ := read_eq_ok kernel h
  have hlength := hreads _ _ _ _ _ _ hcall
  exact ⟨Nat.le_trans hlength (toNat_min_le_left _ _),
    Nat.le_trans hlength (toNat_min_le_right _ _)⟩

end Read

/-! ## `readdir` -/

theorem Dirent.length_wire (entry : Dirent) :
    (wire entry).length = 24 + entry.name.utf8ByteSize := by
  simp only [wire, List.length_append, LittleEndian.length_leBytes, length_utf8Bytes,
    List.length_cons, List.length_nil]
  omega

/-- An entry that encodes appends its wire bytes, as many as `byte_size` says. -/
theorem Dirent.encode_eq_ok {entry : Dirent} {buf out : List UInt8}
    (h : encode entry buf = .ok () out) :
    out = buf ++ wire entry ∧ (byteSize entry).toNat = (wire entry).length := by
  have hfits : entry.name.utf8ByteSize ≤ 65535 := by
    by_contra hlong
    simp [encode, Nat.lt_of_not_le hlong] at h
  have hencodes := Lawful.encodes entry ⟨⟨trivial, trivial, trivial⟩, trivial, trivial, hfits⟩
  have hwrites := hencodes.writes buf
  rw [h] at hwrites
  cases hwrites
  refine ⟨rfl, ?_⟩
  rw [hencodes.byteSize_eq, Dirent.length_wire, UInt32.toNat_ofNat_of_lt']
  simp only [UInt32.size]
  omega

section Readdir

variable (kernel : Kernel σ File)

/-- The packing loop never lets its buffer outgrow the capacity: an entry is
encoded only when its `byte_size` fits in what is left. -/
theorem packDirents_length {path : File} {capacity : Nat} {error : Option Int32}
    {dirents : List DirEntry} {buf out : List UInt8} {world world' : World σ File}
    (hbuf : buf.length ≤ capacity)
    (h : packDirents kernel path capacity error dirents buf world = .ok out world') :
    out.length ≤ capacity := by
  induction dirents generalizing buf world with
  | nil =>
      unfold packDirents at h
      split at h
      · cases h
      · cases h
        exact hbuf
  | cons dirent dirents ih =>
      unfold packDirents at h
      obtain ⟨st, mid, -, h⟩ := bind_eq_ok h
      obtain ⟨name, -, h⟩ := liftExcept_bind_eq_ok h
      dsimp only at h
      split at h
      · cases h
        exact hbuf
      · rename_i hroom
        generalize ({ qid := Qid.ofStat st, offset := dirent.offset, ty := dirent.type_, name } :
          Dirent) = entry at hroom h
        cases hencode : encode entry buf with
        | ok u grown =>
            rw [hencode] at h
            obtain ⟨rfl, hsize⟩ := Dirent.encode_eq_ok hencode
            refine ih ?_ h
            rw [List.length_append]
            omega
        | error err grown =>
            rw [hencode] at h
            cases h

theorem readdir_eq_ok {msg : Treaddir} {world world' : World σ File} {reply : Rreaddir}
    (h : readdir kernel msg world = .ok reply world') :
    ∃ path error dirents mid, packDirents kernel path
      (min (world.server.cfg.msize - 11) msg.count).toNat error dirents [] mid =
        .ok reply.data.bytes world' := by
  obtain ⟨fid, -, h⟩ := getFid_bind_eq_ok h
  obtain ⟨-, h⟩ := failIf_bind_eq_ok h
  have h := getServer_bind_eq_ok h
  obtain ⟨dir, -, h⟩ := okOr_bind_eq_ok h
  obtain ⟨dirstream, mid, -, h⟩ := bind_eq_ok h
  obtain ⟨data, mid', hpack, h⟩ := bind_eq_ok h
  cases h
  exact ⟨_, _, _, _, hpack⟩

/-- What `readdir` returns is at most the room for data and at most the count
asked for. -/
theorem readdir_within {msg : Treaddir} {world world' : World σ File} {reply : Rreaddir}
    (h : readdir kernel msg world = .ok reply world') :
    reply.data.bytes.length ≤ (world.server.cfg.msize - 11).toNat ∧
      reply.data.bytes.length ≤ msg.count.toNat := by
  obtain ⟨path, error, dirents, mid, hpack⟩ := readdir_eq_ok kernel h
  have hlength := packDirents_length kernel (Nat.zero_le _) hpack
  exact ⟨Nat.le_trans hlength (toNat_min_le_left _ _),
    Nat.le_trans hlength (toNat_min_le_right _ _)⟩

end Readdir

/-! ## Replies to `Tread` and `Treaddir` -/

section Replies

variable (kernel : Kernel σ File)

/-- A data reply built from data within the room and the count. -/
theorem dataReply_within {msize count : UInt32} (hmin : MIN_MESSAGE_SIZE ≤ msize)
    {reply : Rframe} {data : Data} (hsize : byteSize reply = 11 + UInt32.ofNat data.bytes.length)
    (hroom : data.bytes.length ≤ (msize - 11).toNat) (hcount : data.bytes.length ≤ count.toNat)
    (hdata : ∀ other, reply.msg = .read { data := other } ∨ reply.msg = .readdir { data := other } →
      other = data) :
    DataReplyWithin msize count reply := by
  refine ⟨?_, fun other hother => ?_⟩
  · rw [hsize]
    exact dataFrame_fits hmin hroom
  · rw [hdata other hother]
    exact hcount

/-- What `handle` answers to a request whose handler, when it succeeds,
gives an `Rread` or an `Rreaddir` with data within the room and the count:
that reply, or an `Rlerror`, within the size either way. -/
theorem handle_data_within {tag : UInt16} {msg : Tmessage} {count : UInt32}
    {world world' : World σ File} {reply : Rframe}
    (hmin : MIN_MESSAGE_SIZE ≤ world.server.cfg.msize)
    (hdispatch : ∀ rmsg mid, dispatch kernel msg world = .ok rmsg mid →
      ∃ data, (rmsg = .read { data } ∨ rmsg = .readdir { data }) ∧
        data.bytes.length ≤ (world.server.cfg.msize - 11).toNat ∧
        data.bytes.length ≤ count.toNat)
    (h : handle kernel ⟨tag, .ok msg⟩ world = .ok reply world') :
    DataReplyWithin world.server.cfg.msize count reply := by
  obtain ⟨htag, ⟨request, rmsg, hframe, hrun, hreply⟩ | ⟨err, hreply, -⟩⟩ := handle_eq_ok kernel h
  · cases hframe
    obtain ⟨data, hdata, hroom, hcount⟩ := hdispatch rmsg _ hrun
    obtain ⟨rtag, rmsg'⟩ := reply
    cases htag
    cases hreply
    exact dataReply_within hmin (byteSize_data_frame _ hdata) hroom hcount
      fun other hother => data_eq_of_data hdata hother
  · obtain ⟨rtag, rmsg⟩ := reply
    cases htag
    cases hreply
    exact lerror_within hmin _ _

theorem handle_read_within (hreads : kernel.ReadsWithin) {tag : UInt16} {msg : Tread}
    {world world' : World σ File} {reply : Rframe}
    (hmin : MIN_MESSAGE_SIZE ≤ world.server.cfg.msize)
    (h : handle kernel ⟨tag, .ok (.read msg)⟩ world = .ok reply world') :
    DataReplyWithin world.server.cfg.msize msg.count reply := by
  refine handle_data_within kernel hmin (fun rmsg mid hrun => ?_) h
  obtain ⟨body, hbody, rfl⟩ := map_eq_ok hrun
  exact ⟨body.data, .inl rfl, read_within kernel hreads hbody⟩

theorem handle_readdir_within {tag : UInt16} {msg : Treaddir} {world world' : World σ File}
    {reply : Rframe} (hmin : MIN_MESSAGE_SIZE ≤ world.server.cfg.msize)
    (h : handle kernel ⟨tag, .ok (.readdir msg)⟩ world = .ok reply world') :
    DataReplyWithin world.server.cfg.msize msg.count reply := by
  refine handle_data_within kernel hmin (fun rmsg mid hrun => ?_) h
  obtain ⟨body, hbody, rfl⟩ := map_eq_ok hrun
  exact ⟨body.data, .inr rfl, readdir_within kernel hbody⟩

/-- In every world a server made with a size of at least `MIN_MESSAGE_SIZE`
reaches, the size lies between the minimum and the size it was made with, no
step raises it, the room `read` and `readdir` compute does not wrap, and their
replies fit in the size with at most the bytes asked for. -/
theorem msize_respected (hreads : kernel.ReadsWithin) (cfg : Config)
    (hcfg : MIN_MESSAGE_SIZE ≤ cfg.msize) (world : World σ File)
    (hreach : Reachable kernel cfg world) :
    (MIN_MESSAGE_SIZE ≤ world.server.cfg.msize ∧ world.server.cfg.msize ≤ cfg.msize) ∧
      (∀ world', Step kernel world world' → world'.server.cfg.msize ≤ world.server.cfg.msize) ∧
      emptyDataHeader (.read { data := ⟨[]⟩ }) ≤ world.server.cfg.msize ∧
      emptyDataHeader (.readdir { data := ⟨[]⟩ }) ≤ world.server.cfg.msize ∧
      (∀ tag msg reply world', handle kernel ⟨tag, .ok (.read msg)⟩ world = .ok reply world' →
        DataReplyWithin world.server.cfg.msize msg.count reply) ∧
      (∀ tag msg reply world', handle kernel ⟨tag, .ok (.readdir msg)⟩ world = .ok reply world' →
        DataReplyWithin world.server.cfg.msize msg.count reply) := by
  have hbounds := reachable_msize_bounds kernel hcfg hreach
  have hheader : (11 : UInt32) ≤ world.server.cfg.msize := UInt32.le_trans (by decide) hbounds.1
  refine ⟨hbounds, fun world' hstep => hstep.narrows.1, ?_, ?_, ?_, ?_⟩
  · rw [emptyDataHeader_data (.inl rfl)]
    exact hheader
  · rw [emptyDataHeader_data (.inr rfl)]
    exact hheader
  · intro tag msg reply world' h
    exact handle_read_within kernel hreads hbounds.1 h
  · intro tag msg reply world' h
    exact handle_readdir_within kernel hbounds.1 h

/-- The tree of `TreeFs` with every file holding `content`: `pread` reads it
from the offset, at most the count asked for. -/
def TreeFs.contentKernel (content : List UInt8) : Kernel TreeFs.Host Nat :=
  { TreeFs.kernel with
    pread := fun fd count offset => TreeFs.query fun host =>
      (host.object? fd).map fun _ => (content.drop offset.toNat).take count }

theorem TreeFs.contentKernel_readsWithin (content : List UInt8) :
    (TreeFs.contentKernel content).ReadsWithin := by
  intro file count offset host bytes host' h
  cases hobject : host.object? file <;>
    simp [TreeFs.contentKernel, TreeFs.query, hobject, Except.map] at h
  rw [← h.1]
  exact List.length_take_le _ _

/-- Negotiate a size of 8192, attach fid `0` to `/export`, and create the
file `a` there, open for reading and writing, on fid `0`. -/
def readSession : List Tframe :=
  [⟨1, .ok (.version ⟨8192, "9P2000.L"⟩)⟩, ⟨2, .ok (.attach TreeFs.attachExport)⟩,
    ⟨3, .ok (.lcreate ⟨0, "a", 2, 0o644, 0⟩)⟩]

/-- On the tree whose files hold `hello`, the server exporting `/export` runs
that session, and then answers a `Tread` of four bytes at offset `0` with
`hell`: a reply within the negotiated size of 8192, which lies within the
bounds. -/
theorem export_msize_respected :
    ∃ (world : World TreeFs.Host Nat) (reply : Rframe) (world' : World TreeFs.Host Nat),
      Reachable (TreeFs.contentKernel [104, 101, 108, 108, 111]) TreeFs.exportConfig world ∧
      world.server.cfg.msize = 8192 ∧
      handle (TreeFs.contentKernel [104, 101, 108, 108, 111]) ⟨4, .ok (.read ⟨0, 0, 4⟩)⟩ world =
        .ok reply world' ∧
      reply.msg = .read { data := ⟨[104, 101, 108, 108]⟩ } ∧
      (MIN_MESSAGE_SIZE ≤ world.server.cfg.msize ∧
        world.server.cfg.msize ≤ TreeFs.exportConfig.msize) ∧
      DataReplyWithin world.server.cfg.msize 4 reply := by
  obtain ⟨replies, world, hsession⟩ : ∃ (replies : List Rframe) (world : World TreeFs.Host Nat),
      readSession.mapM (handle (TreeFs.contentKernel [104, 101, 108, 108, 111]))
        (TreeFs.exportWorld 16) = .ok replies world :=
    ⟨_, _, rfl⟩
  have hreach : Reachable (TreeFs.contentKernel [104, 101, 108, 108, 111]) TreeFs.exportConfig
      world :=
    ⟨TreeFs.exportTree 16, _, _, rfl, steps_of_mapM readSession hsession⟩
  have hworld : world = Proc.Result.state (readSession.mapM
      (handle (TreeFs.contentKernel [104, 101, 108, 108, 111])) (TreeFs.exportWorld 16)) := by
    rw [hsession]
    rfl
  subst hworld
  have hrespected := msize_respected (TreeFs.contentKernel [104, 101, 108, 108, 111])
    (TreeFs.contentKernel_readsWithin _) TreeFs.exportConfig (by decide) _ hreach
  obtain ⟨world', hread⟩ : ∃ world', handle (TreeFs.contentKernel [104, 101, 108, 108, 111])
      ⟨4, .ok (.read ⟨0, 0, 4⟩)⟩ (Proc.Result.state (readSession.mapM
        (handle (TreeFs.contentKernel [104, 101, 108, 108, 111])) (TreeFs.exportWorld 16))) =
      .ok ⟨4, .read { data := ⟨[104, 101, 108, 108]⟩ }⟩ world' :=
    ⟨_, rfl⟩
  exact ⟨_, _, world', hreach, rfl, hread, rfl, hrespected.1,
    hrespected.2.2.2.2.1 4 ⟨0, 0, 4⟩ _ world' hread⟩

end Replies

end JetStream
