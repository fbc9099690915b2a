import JetStream.Ufs.Kernel

/-!
# The file server's state and its helpers

`ufs::Server` holds the fid table, a handle on `/proc` and its configuration.
Its handlers work on `&mut self` and on the host through system calls, and
return early with `?`: a handler is an action on the server together with the
operating-system state (`World`), and a failure keeps every change made
before it.

This module holds the state and the helpers of `ufs/mod.rs` that the handlers
share: the `errno` of a failed call, C strings, `lookup`, `open_fid` with its
flag mapping, and the walk of `do_walk` with its case-insensitive fallback.
-/

namespace JetStream

open Proc

/-! ## The state -/

/-- `struct Fid`: a place in the tree (an `O_PATH` descriptor), the file
opened there by `Tlopen` or `Tlcreate`, and its type. -/
structure Fid (File : Type) where
  path : File
  file : Option File
  filetype : FileType

def MIN_MESSAGE_SIZE : UInt32 := 256
def MAX_MESSAGE_SIZE : UInt32 := 64 * 1024 + 24

/-- `struct Config`; the root is the bytes of its path, and the id maps are
`BTreeMap`s as partial functions. -/
structure Config where
  root : List UInt8
  msize : UInt32
  uidMap : UInt32 → Option UInt32
  gidMap : UInt32 → Option UInt32
  asciiCasefold : Bool

/-- `struct Server`: the fid table, keyed by the client's fid numbers. -/
structure Server (File : Type) where
  fids : UInt32 → Option (Fid File)
  proc : File
  cfg : Config

/-- The server together with the host it serves. -/
structure World (σ File : Type) where
  server : Server File
  os : σ

/-- What a handler is: an action on the world that may fail with an
`io::Error`. -/
abbrev UfsM (σ File α : Type) := Proc (World σ File) IoError α

section Helpers

variable {σ File α : Type}

/-- A system call made through `syscall!`: a failure is the
`io::Error::last_os_error()` of its `errno`.  It touches only the host. -/
def sys (call : Proc σ Int32 α) : UfsM σ File α := fun world =>
  match call world.os with
  | .ok value os => .ok value { world with os }
  | .error errno os => .error (.os errno) { world with os }

/-- A fallible step that does not touch the world, such as `CString::new`. -/
def liftExcept (result : Except IoError α) : UfsM σ File α :=
  match result with
  | .ok value => pure value
  | .error err => throw err

def getServer : UfsM σ File (Server File) := fun world => .ok world.server world

/-- Bind, replace or remove one entry of the fid table. -/
def setFid (fid : UInt32) (value : Option (Fid File)) : UfsM σ File Unit :=
  fun world =>
    .ok () { world with
      server := { world.server with fids := Function.update world.server.fids fid value } }

/-- `ebadf()`. -/
def ebadf : IoError := .os Errno.EBADF

/-- `value.ok_or_else(|| err)?`. -/
def okOr (value : Option α) (err : IoError) : UfsM σ File α :=
  match value with
  | some value => pure value
  | none => throw err

/-- `if cond { return Err(err); }`. -/
def failIf (cond : Prop) [Decidable cond] (err : IoError) : UfsM σ File Unit :=
  if cond then throw err else pure ()

/-- `self.fids.get(&fid).ok_or_else(ebadf)?`. -/
def getFid (fid : UInt32) : UfsM σ File (Fid File) := do
  okOr ((← getServer).fids fid) ebadf

/-- `self.fids.get(&fid).and_then(|fid| fid.file.as_ref()).ok_or_else(ebadf)?`:
the file opened on a fid. -/
def getOpenFile (fid : UInt32) : UfsM σ File File := do
  okOr ((← getServer).fids fid >>= Fid.file) ebadf

end Helpers

/-! ## C strings and errors -/

/-- `CString::new` on a path: the bytes, unless one of them is a nul, which
`attach` reports as invalid data with the `NulError`'s text. -/
def cstringNew (bytes : List UInt8) : Except IoError (List UInt8) :=
  match bytes.idxOf? 0 with
  | some position => .error (.custom .invalidData
      ("nul byte found in provided data at position: " ++ toString position))
  | none => .ok bytes

/-- `string_to_cstring`: a name with an interior nul is `EINVAL`. -/
def stringToCstring (text : String) : Except IoError (List UInt8) :=
  if 0 ∈ WireFormat.utf8Bytes text then .error (.os Errno.EINVAL)
  else .ok (WireFormat.utf8Bytes text)

/-- The text of the `Utf8Error` and `FromUtf8Error` that `readlink` and
`readdir` wrap into `InvalidData` errors. -/
def invalidUtf8 : IoError := .custom .invalidData "invalid utf-8 sequence"

/-- `String::from_utf8` and `CStr::to_str`, whose error `readlink` and
`readdir` report as invalid data. -/
def fromUtf8 (bytes : List UInt8) : Except IoError String :=
  match String.fromUTF8? ⟨bytes.toArray⟩ with
  | some text => .ok text
  | none => .error invalidUtf8

/-- The `Display` text of an `io::Error`: the message it was built with, or
its `errno` for an operating-system error. -/
def IoError.display : IoError → String
  | .os errno => "os error " ++ toString errno.toInt
  | .custom _ message => message

/-- `error_to_rmessage` of `ufs/mod.rs`: the same code as the one of
`coding/wire_format.rs`, as a reply. -/
def errorToRmessage (err : IoError) : Rmessage :=
  .lerror (WireFormat.errorToRmessage err)

/-- `map_id_from_host`. -/
def mapIdFromHost (map : UInt32 → Option UInt32) (id : UInt32) : UInt32 :=
  (map id).getD id

/-! ## Flags -/

def P9_RDONLY : UInt32 := 0o00000000
def P9_WRONLY : UInt32 := 0o00000001
def P9_RDWR : UInt32 := 0o00000002
def P9_NOACCESS : UInt32 := 0o00000003
def P9_CREATE : UInt32 := 0o00000100
def P9_EXCL : UInt32 := 0o00000200
def P9_NOCTTY : UInt32 := 0o00000400
def P9_TRUNC : UInt32 := 0o00001000
def P9_APPEND : UInt32 := 0o00002000
def P9_NONBLOCK : UInt32 := 0o00004000
def P9_DSYNC : UInt32 := 0o00010000
def P9_FASYNC : UInt32 := 0o00020000
def P9_DIRECT : UInt32 := 0o00040000
def P9_LARGEFILE : UInt32 := 0o00100000
def P9_DIRECTORY : UInt32 := 0o00200000
def P9_NOFOLLOW : UInt32 := 0o00400000
def P9_NOATIME : UInt32 := 0o01000000
def P9_SYNC : UInt32 := 0o04000000

/-- `MAPPED_FLAGS`: each 9P open flag and the `libc` flag it stands for. -/
def MAPPED_FLAGS : List (UInt32 × Int32) :=
  [(P9_WRONLY, Libc.O_WRONLY), (P9_RDWR, Libc.O_RDWR), (P9_CREATE, Libc.O_CREAT),
    (P9_EXCL, Libc.O_EXCL), (P9_NOCTTY, Libc.O_NOCTTY), (P9_TRUNC, Libc.O_TRUNC),
    (P9_APPEND, Libc.O_APPEND), (P9_NONBLOCK, Libc.O_NONBLOCK),
    (P9_DSYNC, Libc.O_DSYNC), (P9_FASYNC, 0), (P9_DIRECT, Libc.O_DIRECT),
    (P9_LARGEFILE, Libc.O_LARGEFILE), (P9_DIRECTORY, Libc.O_DIRECTORY),
    (P9_NOFOLLOW, Libc.O_NOFOLLOW), (P9_NOATIME, Libc.O_NOATIME),
    (P9_SYNC, Libc.O_SYNC)]

/-- The loop over `MAPPED_FLAGS` that `open_fid` and `lcreate` run from their
own starting flags, and the `O_RDONLY` of a read-only access mode. -/
def mapFlags (flags : Int32) (p9Flags : UInt32) : Int32 :=
  let mapped := MAPPED_FLAGS.foldl
    (fun flags entry => if p9Flags &&& entry.1 ≠ 0 then flags ||| entry.2 else flags)
    flags
  if p9Flags &&& P9_NOACCESS = P9_RDONLY then mapped ||| Libc.O_RDONLY else mapped

/-! ## Lookups and walks -/

/-- `MaybeOwned`: the start of a walk, borrowed from its fid, or a
descriptor the walk opened. -/
inductive MaybeOwned (α : Type)
  | borrowed (value : α)
  | owned (value : α)

def MaybeOwned.asRef {α : Type} : MaybeOwned α → α
  | .borrowed value => value
  | .owned value => value

/-- `u8::to_ascii_lowercase`. -/
def toAsciiLowercase (byte : UInt8) : UInt8 :=
  if 65 ≤ byte ∧ byte ≤ 90 then byte + 32 else byte

/-- `<[u8]>::eq_ignore_ascii_case`. -/
def eqIgnoreAsciiCase (left right : List UInt8) : Bool :=
  left.length = right.length ∧
    (left.zip right).all fun pair => toAsciiLowercase pair.1 = toAsciiLowercase pair.2

section Walk

variable {σ File : Type} (kernel : Kernel σ File)

/-- `statat`: `fstatat64` that never follows a final symbolic link. -/
def statat (dir : File) (name : List UInt8) (flags : Int32) : UfsM σ File Stat :=
  sys (kernel.fstatat dir name (flags ||| Libc.AT_SYMLINK_NOFOLLOW))

/-- `stat`: the `stat` of a descriptor itself. -/
def stat (file : File) : UfsM σ File Stat :=
  statat kernel file [] Libc.AT_EMPTY_PATH

/-- `lookup`: an `O_PATH` descriptor for a name in a directory, without
following a final symbolic link. -/
def lookup (parent : File) (name : List UInt8) : UfsM σ File File :=
  sys (kernel.openat (some parent) name
    (Libc.O_PATH ||| Libc.O_NOFOLLOW ||| Libc.O_CLOEXEC) 0)

/-- The `/proc/self/fd` name of a descriptor. -/
def procPath (file : File) : Except IoError (List UInt8) :=
  stringToCstring ("self/fd/" ++ toString (kernel.rawFd file).toInt)

/-- `open_fid`: open the file a descriptor holds a place for, through
`/proc/self/fd`, whose symbolic link must be followed. -/
def openFid (proc path : File) (p9Flags : UInt32) : UfsM σ File File := do
  let pathname ← liftExcept (procPath kernel path)
  let flags := mapFlags Libc.O_CLOEXEC p9Flags
  sys (kernel.openat (some proc) pathname (flags &&& ~~~Libc.O_NOFOLLOW) 0)

/-- The loop of `ascii_casefold_lookup` over the directory's entries: the
first whose name matches, or `ENOENT` once the listing ends, or the error
that ended it. -/
def casefoldMatch (parent : File) (name : List UInt8) (error : Option Int32) :
    List DirEntry → UfsM σ File File
  | [] =>
      match error with
      | some errno => throw (.os errno)
      | none => throw (.os Errno.ENOENT)
  | entry :: entries =>
      if eqIgnoreAsciiCase name entry.name then lookup kernel parent entry.name
      else casefoldMatch parent name error entries

/-- `ascii_casefold_lookup`. -/
def asciiCasefoldLookup (proc parent : File) (name : List UInt8) :
    UfsM σ File File := do
  let dir ← openFid kernel proc parent P9_DIRECTORY
  let dirents ← sys (kernel.readDir dir 0)
  casefoldMatch kernel parent name dirents.error dirents.entries

/-- One name of a walk: `lookup`, falling back to `ascii_casefold_lookup`
when the name is absent and the server folds case. -/
def walkLookup (proc parent : File) (asciiCasefold : Bool) (name : List UInt8) :
    UfsM σ File File := do
  match ← attempt (lookup kernel parent name) with
  | .ok file => pure file
  | .error err =>
      if asciiCasefold ∧ err.rawOsError = some Errno.ENOENT then
        asciiCasefoldLookup kernel proc parent name
      else throw err

/-- The loop of `do_walk`: each name is looked up from the current place, and
its `stat` pushed to `mds`; the first failure ends the walk, with what `mds`
holds by then. -/
def doWalkNames (proc : File) (asciiCasefold : Bool) :
    List String → MaybeOwned File → List Stat →
      UfsM σ File (Except IoError (MaybeOwned File) × List Stat)
  | [], current, mds => pure (.ok current, mds)
  | wname :: wnames, current, mds => do
      let step ← attempt (do
        let name ← liftExcept (stringToCstring wname)
        let next ← walkLookup kernel proc current.asRef asciiCasefold name
        let st ← stat kernel next
        pure (next, st))
      match step with
      | .error err => pure (.error err, mds)
      | .ok (next, st) =>
          doWalkNames proc asciiCasefold wnames (.owned next) (mds ++ [st])

/-- `do_walk`: the place the walk reached, or the error that stopped it,
with the `stat` of every name walked. -/
def doWalk (proc : File) (wnames : List String) (start : File)
    (asciiCasefold : Bool) : UfsM σ File (Except IoError File × List Stat) := do
  let (result, mds) ← doWalkNames kernel proc asciiCasefold wnames (.borrowed start) []
  match result with
  | .error err => pure (.error err, mds)
  | .ok (.owned owned) => pure (.ok owned, mds)
  | .ok (.borrowed borrowed) => do
      let clone ← attempt (sys (kernel.dup borrowed))
      pure (clone, mds)

end Walk

end JetStream
