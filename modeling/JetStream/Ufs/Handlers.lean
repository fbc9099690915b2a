import JetStream.Ufs.Server

/-!
# The request handlers of `ufs::Server`

One definition per handler of `ufs/mod.rs`, in the order of its dispatch, and
`Server::handle`, which runs the handler of a request and answers a failure
with an `Rlerror` for the same tag.  Each handler reads its fids first, makes
its system calls in the source's order and returns early on the first error;
the fid table changes only where the source writes it (`version`, `attach`,
`walk`, `clunk`, `lopen`, `lcreate`), at the point where the source writes it.
-/

namespace JetStream

open Proc

def P9_GETATTR_BASIC : UInt64 := 0x000007ff

def P9_SETATTR_MODE : UInt32 := 0x00000001
def P9_SETATTR_UID : UInt32 := 0x00000002
def P9_SETATTR_GID : UInt32 := 0x00000004
def P9_SETATTR_SIZE : UInt32 := 0x00000008
def P9_SETATTR_ATIME : UInt32 := 0x00000010
def P9_SETATTR_MTIME : UInt32 := 0x00000020
def P9_SETATTR_CTIME : UInt32 := 0x00000040
def P9_SETATTR_ATIME_SET : UInt32 := 0x00000080
def P9_SETATTR_MTIME_SET : UInt32 := 0x00000100

def P9_LOCK_TYPE_UNLCK : UInt8 := 2
def P9_LOCK_SUCCESS : UInt8 := 0

namespace Server

variable {σ File : Type}

/-- `Server::with_config`: open `/proc` and start with no fids. -/
def withConfig (kernel : Kernel σ File) (cfg : Config) :
    Proc σ IoError (Server File) := fun os =>
  match kernel.openat none [47, 112, 114, 111, 99]
      (Libc.O_PATH ||| Libc.O_NOFOLLOW ||| Libc.O_CLOEXEC) 0 os with
  | .ok proc os => .ok { fids := fun _ => none, proc, cfg } os
  | .error errno os => .error (.os errno) os

/-- `Server::new`: the largest message size, and no case folding. -/
def new (kernel : Kernel σ File) (root : List UInt8) (uidMap gidMap : UInt32 → Option UInt32) :
    Proc σ IoError (Server File) :=
  withConfig kernel
    { root, msize := MAX_MESSAGE_SIZE, uidMap, gidMap, asciiCasefold := false }

/-- Clear the fid table and lower `msize`, as `Tversion` does. -/
def resetSession (msize : UInt32) : UfsM σ File Unit := fun world =>
  .ok () { world with
    server := { world.server with
      fids := fun _ => none
      cfg := { world.server.cfg with msize := min world.server.cfg.msize msize } } }

/-- The `byte_size` of a reply frame whose only field is an empty `Data`:
the header that `read` and `readdir` keep room for. -/
def emptyDataHeader (msg : Rmessage) : UInt32 :=
  WireFormat.byteSize ({ tag := 0, msg } : Rframe)

section Handlers

variable (kernel : Kernel σ File)

def auth (_auth : Tauth) : UfsM σ File Rauth :=
  throw (.os Errno.EOPNOTSUPP)

def attach (attach : Tattach) : UfsM σ File Rattach := do
  let server ← getServer
  match server.fids attach.fid with
  | some _ => throw (.os Errno.EBADF)
  | none =>
      let root ← liftExcept (cstringNew server.cfg.root)
      let rootPath ← sys (kernel.openat none root
        (Libc.O_PATH ||| Libc.O_NOFOLLOW ||| Libc.O_CLOEXEC) 0)
      let st ← stat kernel rootPath
      setFid attach.fid (some
        { path := rootPath, file := none, filetype := FileType.ofMode st.stMode })
      pure { qid := Qid.ofStat st }

def version (version : Tversion) : UfsM σ File Rversion := do
  failIf (version.msize < MIN_MESSAGE_SIZE) (.os Errno.EINVAL)
  -- a `Tversion` request clunks all open fids
  resetSession version.msize
  pure
    { msize := (← getServer).cfg.msize
      version := if version.version = "9P2000.L" then "9P2000.L" else "unknown" }

def flush (_flush : Tflush) : UfsM σ File Unit :=
  pure ()

/-- The `stat` of the place a walk reached: the last one it made, or a new
one when no name was walked. -/
def lastOrStat (finish : File) (mds : List Stat) : UfsM σ File Stat :=
  match mds.getLast? with
  | some st => pure st
  | none => stat kernel finish

/-- What `walk` does with the outcome of `do_walk`: the new fid is stored only
when every name was walked, and an error is returned only when it stopped the
first name. -/
def walkOutcome (newfid : UInt32) (count : Nat) (result : Except IoError File)
    (mds : List Stat) : UfsM σ File Unit :=
  match result with
  | .ok finish =>
      if mds.length = count then do
        let st ← lastOrStat kernel finish mds
        setFid newfid (some
          { path := finish, file := none, filetype := FileType.ofMode st.stMode })
      else pure ()
  | .error err =>
      if mds.isEmpty then throw err else pure ()

def walk (walk : Twalk) : UfsM σ File Rwalk := do
  let server ← getServer
  failIf (walk.fid ≠ walk.newfid ∧ (server.fids walk.newfid).isSome) (.os Errno.EBADF)
  let start ← getFid walk.fid
  let (result, mds) ←
    doWalk kernel server.proc walk.wnames start.path server.cfg.asciiCasefold
  walkOutcome kernel walk.newfid walk.wnames.length result mds
  pure { wqids := mds.map Qid.ofStat }

def read (read : Tread) : UfsM σ File Rread := do
  let file ← getOpenFile read.fid
  let headerSize := emptyDataHeader (.read { data := ⟨[]⟩ })
  let capacity := min ((← getServer).cfg.msize - headerSize) read.count
  let buf ← sys (kernel.pread file capacity.toNat read.offset)
  pure { data := ⟨buf⟩ }

def write (write : Twrite) : UfsM σ File Rwrite := do
  let file ← getOpenFile write.fid
  let count ← sys (kernel.pwrite file write.data.bytes write.offset)
  pure { count := UInt32.ofNat count }

def clunk (clunk : Tclunk) : UfsM σ File Unit := do
  match (← getServer).fids clunk.fid with
  | none => throw (.os Errno.EBADF)
  | some _ => setFid clunk.fid none

def remove (_remove : Tremove) : UfsM σ File Unit :=
  throw (.os Errno.EOPNOTSUPP)

def statfs (statfs : Tstatfs) : UfsM σ File Rstatfs := do
  let fid ← getFid statfs.fid
  let out ← sys (kernel.fstatfs fid.path)
  pure
    { ty := out.fType.toUInt64.toUInt32, bsize := out.fBsize.toUInt64.toUInt32
      blocks := out.fBlocks, bfree := out.fBfree, bavail := out.fBavail
      files := out.fFiles, ffree := out.fFfree, fsid := out.fFsid
      namelen := out.fNamelen.toUInt64.toUInt32 }

def lopen (lopen : Tlopen) : UfsM σ File Rlopen := do
  let fid ← getFid lopen.fid
  let file ← openFid kernel (← getServer).proc fid.path lopen.flags
  let st ← stat kernel file
  setFid lopen.fid (some { fid with file := some file })
  pure { qid := Qid.ofStat st, iounit := 0 }

/-- `lcreate`: the fid takes the created file and the regular type before the
`lookup` of its new place, which can still fail. -/
def lcreate (lcreate : Tlcreate) : UfsM σ File Rlcreate := do
  let fid ← getFid lcreate.fid
  failIf (fid.filetype ≠ .directory) (.os Errno.ENOTDIR)
  let flags := mapFlags (Libc.O_CLOEXEC ||| Libc.O_CREAT ||| Libc.O_EXCL) lcreate.flags
  let name ← liftExcept (stringToCstring lcreate.name)
  let file ← sys (kernel.openat (some fid.path) name flags lcreate.mode)
  let st ← stat kernel file
  setFid lcreate.fid (some { fid with file := some file, filetype := .regular })
  let path ← lookup kernel fid.path name
  setFid lcreate.fid (some { path, file := some file, filetype := .regular })
  pure { qid := Qid.ofStat st, iounit := 0 }

def symlink (_symlink : Tsymlink) : UfsM σ File Rsymlink :=
  throw (.os Errno.EACCES)

def mknod (_mknod : Tmknod) : UfsM σ File Rmknod :=
  throw (.os Errno.EACCES)

def rename (_rename : Trename) : UfsM σ File Unit :=
  throw (.os Errno.EOPNOTSUPP)

def readlink (readlink : Treadlink) : UfsM σ File Rreadlink := do
  let fid ← getFid readlink.fid
  let link ← sys (kernel.readlinkat fid.path [] Libc.PATH_MAX)
  let target ← liftExcept (fromUtf8 link)
  pure { target }

def getAttr (getAttr : Tgetattr) : UfsM σ File Rgetattr := do
  let fid ← getFid getAttr.fid
  let st ← stat kernel fid.path
  let cfg := (← getServer).cfg
  pure
    { valid := P9_GETATTR_BASIC, qid := Qid.ofStat st, mode := st.stMode
      uid := mapIdFromHost cfg.uidMap st.stUid, gid := mapIdFromHost cfg.gidMap st.stGid
      nlink := st.stNlink, rdev := st.stRdev, size := st.stSize.toUInt64
      blksize := st.stBlksize.toUInt64, blocks := st.stBlocks.toUInt64
      atimeSec := st.stAtime.toUInt64, atimeNsec := st.stAtimeNsec.toUInt64
      mtimeSec := st.stMtime.toUInt64, mtimeNsec := st.stMtimeNsec.toUInt64
      ctimeSec := st.stCtime.toUInt64, ctimeNsec := st.stCtimeNsec.toUInt64
      btimeSec := 0, btimeNsec := 0, gen := 0, dataVersion := 0 }

/-- The `tv_nsec` that `set_attr` passes for one of the two times. -/
def setattrNsec (valid isSet setTime : UInt32) (nsec : UInt64) : Int64 :=
  if valid &&& isSet = 0 then Libc.UTIME_OMIT
  else if valid &&& setTime = 0 then Libc.UTIME_NOW
  else nsec.toInt64

/-- The id `set_attr` passes to `fchownat`: the requested one, or `-1` to
leave it. -/
def setattrId (valid mask id : UInt32) : UInt32 :=
  if valid &&& mask ≠ 0 then id else (-1 : Int32).toUInt32

/-- One block `if set_attr.valid & mask != 0 { ... }` of `set_attr`. -/
def onMask (valid mask : UInt32) (action : UfsM σ File Unit) : UfsM σ File Unit :=
  if valid &&& mask ≠ 0 then action else pure ()

/-- The file whose length `set_attr` sets: never a directory, and the file
open on the fid or one opened for the purpose. -/
def setattrFile (proc : File) (fid : Fid File) : UfsM σ File File :=
  if fid.filetype = .directory then throw (.os Errno.EISDIR)
  else
    match fid.file with
    | some file => pure file
    | none => openFid kernel proc fid.path (P9_NONBLOCK ||| P9_RDWR)

/-- `set_attr`: each attribute named by `valid` is changed through the
`/proc/self/fd` name of the fid, in the source's order. -/
def setAttr (setAttr : Tsetattr) : UfsM σ File Unit := do
  let fid ← getFid setAttr.fid
  let proc := (← getServer).proc
  let path ← liftExcept (procPath kernel fid.path)
  onMask setAttr.valid P9_SETATTR_MODE (sys (kernel.fchmodat proc path setAttr.mode 0))
  onMask setAttr.valid (P9_SETATTR_UID ||| P9_SETATTR_GID)
    (sys (kernel.fchownat proc path (setattrId setAttr.valid P9_SETATTR_UID setAttr.uid)
      (setattrId setAttr.valid P9_SETATTR_GID setAttr.gid) 0))
  onMask setAttr.valid P9_SETATTR_SIZE do
    let file ← setattrFile kernel proc fid
    sys (kernel.ftruncate file setAttr.size)
  let atime : Timespec :=
    { tvSec := setAttr.atimeSec.toInt64
      tvNsec := setattrNsec setAttr.valid P9_SETATTR_ATIME P9_SETATTR_ATIME_SET
        setAttr.atimeNsec }
  let mtime : Timespec :=
    { tvSec := setAttr.mtimeSec.toInt64
      tvNsec := setattrNsec setAttr.valid P9_SETATTR_MTIME P9_SETATTR_MTIME_SET
        setAttr.mtimeNsec }
  onMask setAttr.valid (P9_SETATTR_ATIME ||| P9_SETATTR_MTIME)
    (sys (kernel.utimensat proc path atime mtime 0))
  -- the other changes update the ctime already: only a lone ctime is set here
  if setAttr.valid &&& P9_SETATTR_CTIME ≠ 0 ∧ setAttr.valid &&& ~~~P9_SETATTR_CTIME = 0 then
    sys (kernel.fchownat proc path 0xFFFFFFFF 0xFFFFFFFF 0)
  else pure ()

def xattrWalk (_xattrWalk : Txattrwalk) : UfsM σ File Rxattrwalk :=
  throw (.os Errno.EOPNOTSUPP)

def xattrCreate (_xattrCreate : Txattrcreate) : UfsM σ File Unit :=
  throw (.os Errno.EOPNOTSUPP)

/-- The loop of `readdir`: each entry of the listing is stat-ed and encoded
after what the buffer holds, until one no longer fits in the `capacity` the
buffer was made with. -/
def packDirents (path : File) (capacity : Nat) (error : Option Int32) :
    List DirEntry → List UInt8 → UfsM σ File (List UInt8)
  | [], buf =>
      match error with
      | some errno => throw (.os errno)
      | none => pure buf
  | dirent :: dirents, buf => do
      let st ← statat kernel path dirent.name 0
      let name ← liftExcept (fromUtf8 dirent.name)
      let entry : Dirent :=
        { qid := Qid.ofStat st, offset := dirent.offset, ty := dirent.type_, name }
      if capacity - buf.length < (WireFormat.byteSize entry).toNat then
        pure buf
      else
        match WireFormat.encode entry buf with
        | .ok () buf => packDirents path capacity error dirents buf
        | .error err _ => throw err

def readdir (readdir : Treaddir) : UfsM σ File Rreaddir := do
  let fid ← getFid readdir.fid
  failIf (fid.filetype ≠ .directory) (.os Errno.ENOTDIR)
  let headerSize := emptyDataHeader (.readdir { data := ⟨[]⟩ })
  let count := min ((← getServer).cfg.msize - headerSize) readdir.count
  let dir ← okOr fid.file ebadf
  let dirents ← sys (kernel.readDir dir readdir.offset.toInt64)
  let data ← packDirents kernel fid.path count.toNat dirents.error dirents.entries []
  pure { data := ⟨data⟩ }

def fsync (fsync : Tfsync) : UfsM σ File Unit := do
  let file ← getOpenFile fsync.fid
  sys (kernel.fsync file (fsync.datasync ≠ 0))

def lock (lock : Tlock) : UfsM σ File Rlock := do
  let file ← getOpenFile lock.fid
  let _ ← sys (kernel.fstat file)
  pure { status := P9_LOCK_SUCCESS }

def getLock (getLock : Tgetlock) : UfsM σ File Rgetlock := do
  let file ← getOpenFile getLock.fid
  let _ ← sys (kernel.fstat file)
  pure
    { type_ := P9_LOCK_TYPE_UNLCK, start := getLock.start, length := getLock.length
      procId := getLock.procId, clientId := getLock.clientId }

def link (link : Tlink) : UfsM σ File Unit := do
  let target ← getFid link.fid
  let path ← liftExcept (procPath kernel target.path)
  let dir ← getFid link.dfid
  let name ← liftExcept (stringToCstring link.name)
  sys (kernel.linkat (← getServer).proc path dir.path name Libc.AT_SYMLINK_FOLLOW)

def mkdir (mkdir : Tmkdir) : UfsM σ File Rmkdir := do
  let fid ← getFid mkdir.dfid
  let name ← liftExcept (stringToCstring mkdir.name)
  sys (kernel.mkdirat fid.path name mkdir.mode)
  let st ← statat kernel fid.path name 0
  pure { qid := Qid.ofStat st }

def renameAt (renameAt : Trenameat) : UfsM σ File Unit := do
  let olddir ← getFid renameAt.olddirfid
  let oldname ← liftExcept (stringToCstring renameAt.oldname)
  let newdir ← getFid renameAt.newdirfid
  let newname ← liftExcept (stringToCstring renameAt.newname)
  sys (kernel.renameat olddir.path oldname newdir.path newname)

def unlinkAt (unlinkAt : Tunlinkat) : UfsM σ File Unit := do
  let dir ← getFid unlinkAt.dirfd
  let name ← liftExcept (stringToCstring unlinkAt.name)
  sys (kernel.unlinkat dir.path name unlinkAt.flags.toInt32)

/-- The dispatch of `Server::handle`: a handler with no reply body answers
with the empty reply of its kind (`.and(Ok(..))`). -/
def dispatch : Tmessage → UfsM σ File Rmessage
  | .version msg => Rmessage.version <$> version msg
  | .flush msg => (fun _ => Rmessage.flush) <$> flush msg
  | .walk msg => Rmessage.walk <$> walk kernel msg
  | .read msg => Rmessage.read <$> read kernel msg
  | .write msg => Rmessage.write <$> write kernel msg
  | .clunk msg => (fun _ => Rmessage.clunk) <$> clunk msg
  | .remove msg => (fun _ => Rmessage.remove) <$> remove msg
  | .attach msg => Rmessage.attach <$> attach kernel msg
  | .auth msg => Rmessage.auth <$> auth msg
  | .statfs msg => Rmessage.statfs <$> statfs kernel msg
  | .lopen msg => Rmessage.lopen <$> lopen kernel msg
  | .lcreate msg => Rmessage.lcreate <$> lcreate kernel msg
  | .symlink msg => Rmessage.symlink <$> symlink msg
  | .mknod msg => Rmessage.mknod <$> mknod msg
  | .rename msg => (fun _ => Rmessage.rename) <$> rename msg
  | .readlink msg => Rmessage.readlink <$> readlink kernel msg
  | .getAttr msg => Rmessage.getAttr <$> getAttr kernel msg
  | .setAttr msg => (fun _ => Rmessage.setAttr) <$> setAttr kernel msg
  | .xattrWalk msg => Rmessage.xattrWalk <$> xattrWalk msg
  | .xattrCreate msg => (fun _ => Rmessage.xattrCreate) <$> xattrCreate msg
  | .readdir msg => Rmessage.readdir <$> readdir kernel msg
  | .fsync msg => (fun _ => Rmessage.fsync) <$> fsync kernel msg
  | .lock msg => Rmessage.lock <$> lock kernel msg
  | .getLock msg => Rmessage.getLock <$> getLock kernel msg
  | .link msg => (fun _ => Rmessage.link) <$> link kernel msg
  | .mkdir msg => Rmessage.mkdir <$> mkdir kernel msg
  | .renameAt msg => (fun _ => Rmessage.renameAt) <$> renameAt kernel msg
  | .unlinkAt msg => (fun _ => Rmessage.unlinkAt) <$> unlinkAt kernel msg

/-- What the server does with a request whose body did not decode. -/
def decodeFailed (err : IoError) : IoError :=
  .custom .invalidData ("Tframe message decode failed: " ++ err.display)

/-- `Server::handle`: errors while handling a request are never fatal; the
reply carries the request's tag and the handler's reply or its error. -/
def handle (frame : Tframe) : UfsM σ File Rframe := do
  let rmsg ← attempt (match frame.msg with
    | .ok msg => dispatch kernel msg
    | .error err => throw (decodeFailed err))
  pure
    { tag := frame.tag
      msg := match rmsg with
        | .ok msg => msg
        | .error err => errorToRmessage err }

end Handlers

end Server

end JetStream
