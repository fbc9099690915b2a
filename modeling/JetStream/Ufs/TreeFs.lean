import JetStream.Ufs.Handlers

/-!
# A file tree for the server to run on

A host of the shape Linux gives a directory tree: objects in a tree
with parent links, a name resolved one component at a time from the directory
a descriptor holds or from the root, `..` going to the parent (the root being
its own parent), and a limit on the descriptors a process may hold open.  It
answers the calls that resolve names (`openat`, `fstatat`, `mkdirat`, `dup`,
`fstat` and the listing of a directory) as Linux does for such a tree, and
`openat` from `/proc` follows `self/fd/N` to what descriptor `N` holds.  Files
hold no data, have no attributes to change and no second name, so `pread`,
`pwrite` and the attribute calls answer with fixed results and the calls that
link, rename or unlink are not supported.
-/

namespace JetStream

namespace TreeFs

def EMFILE : Int32 := 24
def ENOSYS : Int32 := 38

/-- One object of the tree: the directory it is an entry of, its name there,
and whether it is a directory. -/
structure Node where
  parent : Nat
  name : List UInt8
  isDir : Bool
  deriving DecidableEq, Repr

/-- The host: object `i` is `nodes[i]`, object `0` being the root; descriptor
`d` holds a place at object `fds[d]`; at most `maxFds` descriptors are open. -/
structure Host where
  nodes : List Node
  fds : List Nat
  maxFds : Nat
  deriving DecidableEq, Repr

/-- The components of a path, split at `/`, without the empty ones. -/
def components : List UInt8 → List (List UInt8)
  | [] => []
  | byte :: bytes =>
      if byte = 47 then components bytes
      else
        match components bytes with
        | [] => [[byte]]
        | first :: rest =>
            -- a component continues unless the next byte is a separator
            if bytes.head? = some 47 then [byte] :: first :: rest
            else (byte :: first) :: rest

example : components [47, 97, 47, 47, 98, 99, 47] = [[97], [98, 99]] := by decide

namespace Host

def node? (host : Host) (object : Nat) : Option Node :=
  host.nodes[object]?

def isDir (host : Host) (object : Nat) : Bool :=
  (host.node? object).any Node.isDir

/-- The entry `name` of the directory `dir`. -/
def child? (host : Host) (dir : Nat) (name : List UInt8) : Option Nat :=
  host.nodes.findIdx? fun node => node.parent == dir && node.name == name

/-- One component of a path, from the directory `dir`. -/
def stepName (host : Host) (dir : Nat) (name : List UInt8) : Except Int32 Nat :=
  if !host.isDir dir then .error Errno.ENOTDIR
  else if name = [46] then .ok dir
  else if name = [46, 46] then .ok ((host.node? dir).elim dir Node.parent)
  else
    match host.child? dir name with
    | some object => .ok object
    | none => .error Errno.ENOENT

/-- The components of a path, one after the other. -/
def walkNames (host : Host) (dir : Nat) : List (List UInt8) → Except Int32 Nat
  | [] => .ok dir
  | name :: names =>
      match host.stepName dir name with
      | .ok next => host.walkNames next names
      | .error errno => .error errno

/-- Where a path starts: the root for an absolute path or `AT_FDCWD` (the
process runs in the root), and otherwise the place `dirfd` holds. -/
def start (host : Host) (dirfd : Option Nat) (path : List UInt8) : Except Int32 Nat :=
  if path.head? = some 47 then .ok 0
  else
    match dirfd with
    | none => .ok 0
    | some fd =>
        match host.fds[fd]? with
        | some object => .ok object
        | none => .error Errno.EBADF

def resolve (host : Host) (dirfd : Option Nat) (path : List UInt8) : Except Int32 Nat :=
  match host.start dirfd path with
  | .ok dir => host.walkNames dir (components path)
  | .error errno => .error errno

/-- The directory a new entry goes into, and its name. -/
def resolveParent (host : Host) (dirfd : Option Nat) (path : List UInt8) :
    Except Int32 (Nat × List UInt8) :=
  match (components path).getLast? with
  | none => .error Errno.EEXIST
  | some last =>
      match host.start dirfd path with
      | .ok dir =>
          match host.walkNames dir (components path).dropLast with
          | .ok parent => .ok (parent, last)
          | .error errno => .error errno
      | .error errno => .error errno

/-- A new descriptor for `object`, unless too many are open. -/
def allocate (host : Host) (object : Nat) : Except Int32 (Nat × Host) :=
  if host.fds.length < host.maxFds then .ok (host.fds.length, { host with fds := host.fds ++ [object] })
  else .error EMFILE

/-- A new entry `name` of the directory `parent`. -/
def addNode (host : Host) (parent : Nat) (name : List UInt8) (isDir : Bool) : Nat × Host :=
  (host.nodes.length, { host with nodes := host.nodes ++ [{ parent, name, isDir }] })

/-- Whether `object` is `/proc`: the entry `proc` of the root. -/
def isProc (host : Host) (object : Nat) : Bool :=
  object != 0 && (host.node? object).any fun node => node.parent == 0 && node.name == [112, 114, 111, 99]

/-- `self/fd/`, the directory of `/proc` that links to the descriptors of the
process. -/
def selfFd : List UInt8 := [115, 101, 108, 102, 47, 102, 100, 47]

/-- `self/fd/N` from a descriptor of `/proc`: the magic link to the place that
descriptor `N` holds. -/
def procLink? (host : Host) (dirfd : Option Nat) (path : List UInt8) : Option Nat :=
  match dirfd.bind fun fd => host.fds[fd]? with
  | some dir =>
      if host.isProc dir && selfFd.isPrefixOf path then
        (host.fds.zipIdx.find? fun entry =>
          path.drop selfFd.length == WireFormat.utf8Bytes (toString entry.2)).map Prod.fst
      else none
  | none => none

/-- `openat`: a descriptor is taken before the path is looked at, as Linux
does; a link of `/proc/self/fd` is followed; with `O_CREAT` a missing last
component is created as a regular file, and an existing one refused under
`O_EXCL`. -/
def openat (host : Host) (dirfd : Option Nat) (path : List UInt8) (flags : Int32) :
    Except Int32 (Nat × Host) :=
  if host.maxFds ≤ host.fds.length then .error EMFILE
  else if path = [] then .error Errno.ENOENT
  else if flags &&& Libc.O_CREAT = 0 then
    match host.procLink? dirfd path with
    | some object => host.allocate object
    | none =>
        match host.resolve dirfd path with
        | .ok object => host.allocate object
        | .error errno => .error errno
  else
    match host.resolveParent dirfd path with
    | .error errno => .error errno
    | .ok (parent, last) =>
        match host.stepName parent last with
        | .ok object =>
            if flags &&& Libc.O_EXCL ≠ 0 then .error Errno.EEXIST else host.allocate object
        | .error errno =>
            if errno = Errno.ENOENT then
              let (object, host) := host.addNode parent last false
              host.allocate object
            else .error errno

def stat (host : Host) (object : Nat) : Stat where
  stIno := object.toUInt64
  stNlink := 1
  stMode := if host.isDir object then Libc.S_IFDIR ||| 0o755 else Libc.S_IFREG ||| 0o644
  stUid := 0
  stGid := 0
  stRdev := 0
  stSize := 0
  stBlksize := 4096
  stBlocks := 0
  stAtime := 0
  stAtimeNsec := 0
  stMtime := 0
  stMtimeNsec := 0
  stCtime := 0
  stCtimeNsec := 0

/-- The object a descriptor holds. -/
def object? (host : Host) (fd : Nat) : Except Int32 Nat :=
  match host.fds[fd]? with
  | some object => .ok object
  | none => .error Errno.EBADF

def fstatat (host : Host) (fd : Nat) (path : List UInt8) (flags : Int32) : Except Int32 Stat :=
  if path = [] then
    if flags &&& Libc.AT_EMPTY_PATH ≠ 0 then (host.object? fd).map host.stat
    else .error Errno.ENOENT
  else (host.resolve (some fd) path).map host.stat

def mkdirat (host : Host) (fd : Nat) (path : List UInt8) : Except Int32 Host :=
  match host.resolveParent (some fd) path with
  | .error errno => .error errno
  | .ok (parent, last) =>
      match host.stepName parent last with
      | .ok _ => .error Errno.EEXIST
      | .error errno =>
          if errno = Errno.ENOENT then .ok (host.addNode parent last true).2
          else .error errno

/-- The entries of the directory `dir`, with the objects they name. -/
def children (host : Host) (dir : Nat) : List (Nat × Node) :=
  host.nodes.zipIdx.filterMap fun (node, object) =>
    if node.parent = dir ∧ object ≠ dir then some (object, node) else none

/-- The listing of a directory from the entry at `offset` on; the offset of
each entry is the position after it. -/
def listing (host : Host) (dir : Nat) (offset : Nat) : List DirEntry :=
  ((host.children dir).zipIdx.map fun ((object, node), index) =>
    ({ ino := object.toUInt64, offset := (index + 1).toUInt64
       type_ := if node.isDir then 4 else 8, name := node.name } : DirEntry)).drop offset

def readDir (host : Host) (fd : Nat) (offset : Int64) : Except Int32 DirStream :=
  match host.object? fd with
  | .error errno => .error errno
  | .ok dir =>
      if host.isDir dir then .ok { entries := host.listing dir offset.toNatClampNeg, error := none }
      else .error Errno.ENOTDIR

/-- Whether `object` is `root` or lies below it: its chain of parents, at most
`fuel` long, reaches `root`. -/
def within (host : Host) (root : Nat) : Nat → Nat → Bool
  | 0, object => object == root
  | fuel + 1, object =>
      object == root ||
        match host.node? object with
        | some node => node.parent != object && host.within root fuel node.parent
        | none => false

end Host

/-- A call that changes the host. -/
def change {α : Type} (call : Host → Except Int32 (α × Host)) : Proc Host Int32 α :=
  fun host =>
    match call host with
    | .ok (value, host') => .ok value host'
    | .error errno => .error errno host

/-- A call that only reads the host. -/
def query {α : Type} (call : Host → Except Int32 α) : Proc Host Int32 α :=
  fun host =>
    match call host with
    | .ok value => .ok value host
    | .error errno => .error errno host

/-- The system calls on the tree; descriptors are numbers. -/
def kernel : Kernel Host Nat where
  openat dirfd path flags _ := change fun host => host.openat dirfd path flags
  fstatat fd path flags := query fun host => host.fstatat fd path flags
  dup fd := change fun host =>
    match host.object? fd with
    | .ok object => host.allocate object
    | .error errno => .error errno
  pread fd _ _ := query fun host => (host.object? fd).map fun _ => []
  pwrite fd data _ := query fun host => (host.object? fd).map fun _ => data.length
  fstatfs fd := query fun host => (host.object? fd).map fun _ =>
    { fType := 0, fBsize := 4096, fBlocks := 0, fBfree := 0, fBavail := 0, fFiles := 0
      fFfree := 0, fFsid := 0, fNamelen := 255 }
  readlinkat _ _ _ := query fun _ => .error Errno.EINVAL
  fchmodat fd _ _ _ := query fun host => (host.object? fd).map fun _ => ()
  fchownat fd _ _ _ _ := query fun host => (host.object? fd).map fun _ => ()
  ftruncate fd _ := query fun host => (host.object? fd).map fun _ => ()
  utimensat fd _ _ _ _ := query fun host => (host.object? fd).map fun _ => ()
  readDir fd offset := query fun host => host.readDir fd offset
  fsync fd _ := query fun host => (host.object? fd).map fun _ => ()
  fstat fd := query fun host => (host.object? fd).map host.stat
  linkat _ _ _ _ _ := query fun _ => .error ENOSYS
  mkdirat fd path _ := change fun host => (host.mkdirat fd path).map fun host => ((), host)
  renameat _ _ _ _ := query fun _ => .error ENOSYS
  unlinkat _ _ _ := query fun _ => .error ENOSYS
  rawFd fd := Int32.ofNat fd

/-! ## The tree the examples run on

`/` holds `/export`, the directory the server exports, and `/proc`, which the
server opens when it starts. -/

def exportTree (maxFds : Nat) : Host where
  nodes := [⟨0, [], true⟩, ⟨0, [101, 120, 112, 111, 114, 116], true⟩, ⟨0, [112, 114, 111, 99], true⟩]
  fds := []
  maxFds

/-- A server exporting `/export`. -/
def exportConfig : Config where
  root := [47, 101, 120, 112, 111, 114, 116]
  msize := MAX_MESSAGE_SIZE
  uidMap := fun _ => none
  gidMap := fun _ => none
  asciiCasefold := false

/-- The server started on the tree, `/proc` open on its first descriptor. -/
def exportWorld (maxFds : Nat) : World Host Nat :=
  match Server.withConfig kernel exportConfig (exportTree maxFds) with
  | .ok server os => ⟨server, os⟩
  | .error _ os => ⟨⟨fun _ => none, 0, exportConfig⟩, os⟩

example : (exportWorld 16).os.fds = [2] := by decide

/-- `Tattach` of fid `0`, with no authentication fid. -/
def attachExport : Tattach := ⟨0, 0xFFFFFFFF, "", "", 0⟩

/-- The server after `Tattach` of fid `0`: the fid holds `/export` on the
second descriptor. -/
def exportAttached (maxFds : Nat) : World Host Nat :=
  Proc.Result.state (Server.attach kernel attachExport (exportWorld maxFds))

example : (exportAttached 16).server.fids 0 = some ⟨1, none, .directory⟩ ∧
    (exportAttached 16).os.fds = [2, 1] :=
  ⟨rfl, rfl⟩

end TreeFs

end JetStream
