import JetStream.Ufs.Handlers

/-!
# Every descriptor the server opens is close-on-exec

`ufs/mod.rs` opens descriptors in four places: `/proc` when the server
starts, the export root on `Tattach`, a name on every lookup (`walk`,
`lcreate`), and a file through `/proc/self/fd` in `open_fid` (`lopen`,
`set_attr`, the case-folding lookup of `walk`); `lcreate` also opens the file
it creates.  Each passes `O_CLOEXEC`.  `open_fid` and `lcreate` start from it
and OR in the flags the client's flags map to, which only adds bits, and
`open_fid`'s clearing of `O_NOFOLLOW` does not touch it.

`Kernel.openingOnly kernel bits` is `kernel` with an `openat` that refuses,
with `EINVAL` and no change, any flags lacking `bits`.  Starting a server and
handling any request are the same over it as over `kernel`
(`descriptors_close_on_exec`): no path of the server reaches an `openat`
without `O_CLOEXEC`, whatever the host does and whatever the client asks.
`try_clone`, the one other call that makes a descriptor, is `Kernel.dup` and
carries no flags here.
-/

namespace JetStream

open Proc Server

variable {σ File : Type}

/-- `flags` holds every bit of `bits`. -/
def HasFlags (flags bits : Int32) : Prop :=
  flags &&& bits = bits

instance (flags bits : Int32) : Decidable (HasFlags flags bits) :=
  inferInstanceAs (Decidable (flags &&& bits = bits))

/-! ## Adding flags keeps the bits -/

theorem HasFlags.or {flags bits : Int32} (h : HasFlags flags bits) (more : Int32) :
    HasFlags (flags ||| more) bits := by
  unfold HasFlags at h ⊢
  rw [← Int32.toBitVec_inj] at h ⊢
  simp only [Int32.toBitVec_and, Int32.toBitVec_or] at h ⊢
  ext i hi
  have hbit := congrArg (fun value => value.getLsbD i) h
  simp only [BitVec.getLsbD_and] at hbit
  simp only [BitVec.getLsbD_eq_getElem hi] at hbit
  simp only [BitVec.getElem_and, BitVec.getElem_or]
  cases hflag : flags.toBitVec[i] <;> cases hmore : more.toBitVec[i] <;>
    cases hbits : bits.toBitVec[i] <;> simp_all

theorem HasFlags.and {flags flags' bits : Int32} (h : HasFlags flags bits)
    (h' : HasFlags flags' bits) : HasFlags (flags &&& flags') bits := by
  unfold HasFlags at h h' ⊢
  rw [Int32.and_assoc, h', h]

/-- The loop over `MAPPED_FLAGS` only adds flags to those it starts from. -/
theorem hasFlags_mapFlags {flags bits : Int32} (h : HasFlags flags bits) (p9Flags : UInt32) :
    HasFlags (mapFlags flags p9Flags) bits := by
  have hloop : ∀ (entries : List (UInt32 × Int32)) (acc : Int32), HasFlags acc bits →
      HasFlags (entries.foldl (fun flags entry =>
        if p9Flags &&& entry.1 ≠ 0 then flags ||| entry.2 else flags) acc) bits := by
    intro entries
    induction entries with
    | nil => exact fun _ hacc => hacc
    | cons entry entries ih =>
        intro acc hacc
        rw [List.foldl_cons]
        apply ih
        split
        · exact hacc.or entry.2
        · exact hacc
  unfold mapFlags
  split
  · exact (hloop MAPPED_FLAGS flags h).or Libc.O_RDONLY
  · exact hloop MAPPED_FLAGS flags h

/-! ## A kernel that opens only with given flags -/

/-- `kernel`, whose `openat` refuses with `EINVAL`, changing nothing, any
flags that lack `bits`. -/
def Kernel.openingOnly (kernel : Kernel σ File) (bits : Int32) : Kernel σ File :=
  { kernel with
    openat := fun dirfd path flags mode =>
      if HasFlags flags bits then kernel.openat dirfd path flags mode
      else throw Errno.EINVAL }

/-! ## Loops that reach the host through a few calls

The recursive helpers of the handlers are compared over two kernels through
the calls they make, once and for all; every statement that changes some
call of the kernel cites them. -/

section Congr

variable {kernel kernel' : Kernel σ File}

theorem casefoldMatch_congr (hlookup : lookup kernel' = lookup kernel) (parent : File)
    (name : List UInt8) (error : Option Int32) (entries : List DirEntry) :
    casefoldMatch kernel' parent name error entries =
      casefoldMatch kernel parent name error entries := by
  induction entries with
  | nil => rfl
  | cons entry entries ih => simp only [casefoldMatch, hlookup, ih]

theorem walkLookup_congr (hlookup : lookup kernel' = lookup kernel)
    (hopen : openFid kernel' = openFid kernel) (hlist : kernel'.readDir = kernel.readDir) :
    walkLookup kernel' = walkLookup kernel := by
  funext proc parent asciiCasefold name
  simp only [walkLookup, asciiCasefoldLookup, hlookup, hopen, hlist,
    casefoldMatch_congr hlookup]

theorem doWalkNames_congr (hwalk : walkLookup kernel' = walkLookup kernel)
    (hstat : stat kernel' = stat kernel) (proc : File) (asciiCasefold : Bool)
    (wnames : List String) :
    ∀ current mds, doWalkNames kernel' proc asciiCasefold wnames current mds =
      doWalkNames kernel proc asciiCasefold wnames current mds := by
  induction wnames with
  | nil => exact fun _ _ => rfl
  | cons wname wnames ih =>
      intro current mds
      simp only [doWalkNames, hwalk, hstat, ih]

theorem doWalk_congr (hwalk : walkLookup kernel' = walkLookup kernel)
    (hstat : stat kernel' = stat kernel) (hdup : kernel'.dup = kernel.dup) :
    doWalk kernel' = doWalk kernel := by
  funext proc wnames start asciiCasefold
  simp only [doWalk, doWalkNames_congr hwalk hstat, hdup]

/-- The packing loop of `readdir` reaches the host only through `statat`. -/
theorem packDirents_congr (hstatat : statat kernel' = statat kernel) (path : File)
    (capacity : Nat) (error : Option Int32) (dirents : List DirEntry) :
    ∀ buf, packDirents kernel' path capacity error dirents buf =
      packDirents kernel path capacity error dirents buf := by
  induction dirents with
  | nil => exact fun _ => rfl
  | cons dirent dirents ih =>
      intro buf
      simp only [packDirents, hstatat, ih]

end Congr

section CloseOnExec

variable (kernel : Kernel σ File)

theorem openat_openingOnly {bits flags : Int32} (h : HasFlags flags bits) (dirfd : Option File)
    (path : List UInt8) (mode : UInt32) :
    (kernel.openingOnly bits).openat dirfd path flags mode = kernel.openat dirfd path flags mode :=
  if_pos h

/-- The flags of `lookup`, of the export root and of `/proc`. -/
theorem hasFlags_path :
    HasFlags (Libc.O_PATH ||| Libc.O_NOFOLLOW ||| Libc.O_CLOEXEC) Libc.O_CLOEXEC := by
  decide

/-- The flags of `open_fid`: the client's, on top of `O_CLOEXEC`, without
`O_NOFOLLOW`. -/
theorem hasFlags_openFid (p9Flags : UInt32) :
    HasFlags (mapFlags Libc.O_CLOEXEC p9Flags &&& ~~~Libc.O_NOFOLLOW) Libc.O_CLOEXEC :=
  (hasFlags_mapFlags (by decide) p9Flags).and (by decide)

/-- The flags of `lcreate`: the client's, on top of `O_CLOEXEC | O_CREAT |
O_EXCL`. -/
theorem hasFlags_lcreate (p9Flags : UInt32) :
    HasFlags (mapFlags (Libc.O_CLOEXEC ||| Libc.O_CREAT ||| Libc.O_EXCL) p9Flags)
      Libc.O_CLOEXEC :=
  hasFlags_mapFlags (by decide) p9Flags

theorem lookup_openingOnly :
    lookup (kernel.openingOnly Libc.O_CLOEXEC) = lookup kernel := by
  funext parent name
  unfold lookup
  rw [openat_openingOnly kernel hasFlags_path]

theorem openFid_openingOnly :
    openFid (kernel.openingOnly Libc.O_CLOEXEC) = openFid kernel := by
  funext proc path p9Flags
  unfold openFid
  simp only [openat_openingOnly kernel (hasFlags_openFid p9Flags)]
  rfl

theorem walkLookup_openingOnly :
    walkLookup (kernel.openingOnly Libc.O_CLOEXEC) = walkLookup kernel :=
  walkLookup_congr (lookup_openingOnly kernel) (openFid_openingOnly kernel) rfl

theorem doWalk_openingOnly :
    doWalk (kernel.openingOnly Libc.O_CLOEXEC) = doWalk kernel :=
  doWalk_congr (walkLookup_openingOnly kernel) rfl rfl

/-! ## The handlers that open descriptors -/

theorem attach_openingOnly :
    attach (kernel.openingOnly Libc.O_CLOEXEC) = attach kernel := by
  funext msg
  simp only [attach, openat_openingOnly kernel hasFlags_path]
  rfl

theorem walk_openingOnly : walk (kernel.openingOnly Libc.O_CLOEXEC) = walk kernel := by
  funext msg
  simp only [walk, doWalk_openingOnly]
  rfl

theorem lopen_openingOnly : lopen (kernel.openingOnly Libc.O_CLOEXEC) = lopen kernel := by
  funext msg
  simp only [lopen, openFid_openingOnly]
  rfl

theorem lcreate_openingOnly : lcreate (kernel.openingOnly Libc.O_CLOEXEC) = lcreate kernel := by
  funext msg
  simp only [lcreate, openat_openingOnly kernel (hasFlags_lcreate _), lookup_openingOnly]
  rfl

theorem setAttr_openingOnly : setAttr (kernel.openingOnly Libc.O_CLOEXEC) = setAttr kernel := by
  funext msg
  simp only [setAttr, setattrFile, openFid_openingOnly]
  rfl

/-- `readdir` opens nothing: its packing loop only stats the entries. -/
theorem readdir_openingOnly :
    readdir (kernel.openingOnly Libc.O_CLOEXEC) = readdir kernel := by
  have hstatat : statat (kernel.openingOnly Libc.O_CLOEXEC) = statat kernel := rfl
  funext msg
  simp only [readdir, packDirents_congr hstatat]
  rfl

/-- Every request is handled alike when `openat` refuses flags without
`O_CLOEXEC`: the five handlers that open descriptors by the lemmas above,
`readdir` through its packing loop, and the others because they never call
`openat` at all. -/
theorem dispatch_openingOnly (msg : Tmessage) :
    dispatch (kernel.openingOnly Libc.O_CLOEXEC) msg = dispatch kernel msg := by
  cases msg
  all_goals first
    | (simp only [dispatch, walk_openingOnly, attach_openingOnly, lopen_openingOnly,
        lcreate_openingOnly, setAttr_openingOnly, readdir_openingOnly]; done)
    | rfl

end CloseOnExec

/-- Whatever the host and whatever the client asks, the server opens every
descriptor close-on-exec: starting a server, and handling any request frame,
are the same over a kernel whose `openat` refuses every call without
`O_CLOEXEC` as over the kernel itself. -/
theorem descriptors_close_on_exec (kernel : Kernel σ File) :
    (∀ cfg, withConfig (kernel.openingOnly Libc.O_CLOEXEC) cfg = withConfig kernel cfg) ∧
      ∀ frame, handle (kernel.openingOnly Libc.O_CLOEXEC) frame = handle kernel frame := by
  refine ⟨fun cfg => ?_, fun frame => ?_⟩
  · funext os
    unfold withConfig
    rw [openat_openingOnly kernel hasFlags_path]
  · simp only [handle, dispatch_openingOnly]

end JetStream
