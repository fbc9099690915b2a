import JetStream.Coding.WireFormatLaws

/-!
# The 9P2000.L messages and their frames

`coding/messages.rs`: the message type bytes, the body of every request
(`Tmessage`, 28 kinds) and reply (`Rmessage`, 29 kinds with `Rlerror`), and
the frames that carry them, `size[4] type[1] tag[2] body`.  The bodies derive
their codecs, so each is a struct with a `derive` instance listing its fields
in declaration order, together with the laws that come with it.  The tables
that pair a message kind with its type byte, its body size and its body codec
are written out by hand in the source, once per direction and once per
function, and are transcribed here arm by arm.
-/

namespace JetStream

open ByteStream WireFormat

/-! ## Message type bytes

Taken by the source from the Linux kernel's `include/net/9p/9p.h`; every
reply type is its request type plus one. -/

def TLERROR : UInt8 := 6
def RLERROR : UInt8 := TLERROR + 1
def TSTATFS : UInt8 := 8
def RSTATFS : UInt8 := TSTATFS + 1
def TLOPEN : UInt8 := 12
def RLOPEN : UInt8 := TLOPEN + 1
def TLCREATE : UInt8 := 14
def RLCREATE : UInt8 := TLCREATE + 1
def TSYMLINK : UInt8 := 16
def RSYMLINK : UInt8 := TSYMLINK + 1
def TMKNOD : UInt8 := 18
def RMKNOD : UInt8 := TMKNOD + 1
def TRENAME : UInt8 := 20
def RRENAME : UInt8 := TRENAME + 1
def TREADLINK : UInt8 := 22
def RREADLINK : UInt8 := TREADLINK + 1
def TGETATTR : UInt8 := 24
def RGETATTR : UInt8 := TGETATTR + 1
def TSETATTR : UInt8 := 26
def RSETATTR : UInt8 := TSETATTR + 1
def TXATTRWALK : UInt8 := 30
def RXATTRWALK : UInt8 := TXATTRWALK + 1
def TXATTRCREATE : UInt8 := 32
def RXATTRCREATE : UInt8 := TXATTRCREATE + 1
def TREADDIR : UInt8 := 40
def RREADDIR : UInt8 := TREADDIR + 1
def TFSYNC : UInt8 := 50
def RFSYNC : UInt8 := TFSYNC + 1
def TLOCK : UInt8 := 52
def RLOCK : UInt8 := TLOCK + 1
def TGETLOCK : UInt8 := 54
def RGETLOCK : UInt8 := TGETLOCK + 1
def TLINK : UInt8 := 70
def RLINK : UInt8 := TLINK + 1
def TMKDIR : UInt8 := 72
def RMKDIR : UInt8 := TMKDIR + 1
def TRENAMEAT : UInt8 := 74
def RRENAMEAT : UInt8 := TRENAMEAT + 1
def TUNLINKAT : UInt8 := 76
def RUNLINKAT : UInt8 := TUNLINKAT + 1
def TVERSION : UInt8 := 100
def RVERSION : UInt8 := TVERSION + 1
def TAUTH : UInt8 := 102
def RAUTH : UInt8 := TAUTH + 1
def TATTACH : UInt8 := 104
def RATTACH : UInt8 := TATTACH + 1
def TFLUSH : UInt8 := 108
def RFLUSH : UInt8 := TFLUSH + 1
def TWALK : UInt8 := 110
def RWALK : UInt8 := TWALK + 1
def TREAD : UInt8 := 116
def RREAD : UInt8 := TREAD + 1
def TWRITE : UInt8 := 118
def RWRITE : UInt8 := TWRITE + 1
def TCLUNK : UInt8 := 120
def RCLUNK : UInt8 := TCLUNK + 1
def TREMOVE : UInt8 := 122
def RREMOVE : UInt8 := TREMOVE + 1

/-! ## Message bodies -/

structure Qid where
  ty : UInt8
  version : UInt32
  path : UInt64
  deriving DecidableEq, Repr

instance : WireFormat Qid :=
  .derive (fun m => (m.ty, m.version, m.path))
    fun (ty, version, path) => ⟨ty, version, path⟩

instance : Lawful Qid := .derive _ _ (fun _ => rfl) fun _ => rfl

instance : Appends Qid := .derive

structure Tversion where
  msize : UInt32
  version : String
  deriving DecidableEq, Repr

instance : WireFormat Tversion :=
  .derive (fun m => (m.msize, m.version))
    fun (msize, version) => ⟨msize, version⟩

instance : Lawful Tversion := .derive _ _ (fun _ => rfl) fun _ => rfl

structure Tflush where
  oldtag : UInt16
  deriving DecidableEq, Repr

instance : WireFormat Tflush := .derive Tflush.oldtag Tflush.mk

instance : Lawful Tflush := .derive _ _ (fun _ => rfl) fun _ => rfl

structure Twalk where
  fid : UInt32
  newfid : UInt32
  wnames : List String
  deriving DecidableEq, Repr

instance : WireFormat Twalk :=
  .derive (fun m => (m.fid, m.newfid, m.wnames))
    fun (fid, newfid, wnames) => ⟨fid, newfid, wnames⟩

instance : Lawful Twalk := .derive _ _ (fun _ => rfl) fun _ => rfl

structure Tattach where
  fid : UInt32
  afid : UInt32
  uname : String
  aname : String
  nUname : UInt32
  deriving DecidableEq, Repr

instance : WireFormat Tattach :=
  .derive (fun m => (m.fid, m.afid, m.uname, m.aname, m.nUname))
    fun (fid, afid, uname, aname, nUname) => ⟨fid, afid, uname, aname, nUname⟩

instance : Lawful Tattach := .derive _ _ (fun _ => rfl) fun _ => rfl

structure Tauth where
  afid : UInt32
  uname : String
  aname : String
  nUname : UInt32
  deriving DecidableEq, Repr

instance : WireFormat Tauth :=
  .derive (fun m => (m.afid, m.uname, m.aname, m.nUname))
    fun (afid, uname, aname, nUname) => ⟨afid, uname, aname, nUname⟩

instance : Lawful Tauth := .derive _ _ (fun _ => rfl) fun _ => rfl

structure Tread where
  fid : UInt32
  offset : UInt64
  count : UInt32
  deriving DecidableEq, Repr

instance : WireFormat Tread :=
  .derive (fun m => (m.fid, m.offset, m.count))
    fun (fid, offset, count) => ⟨fid, offset, count⟩

instance : Lawful Tread := .derive _ _ (fun _ => rfl) fun _ => rfl

structure Rread where
  data : Data
  deriving DecidableEq, Repr

instance : WireFormat Rread := .derive Rread.data Rread.mk

instance : Lawful Rread := .derive _ _ (fun _ => rfl) fun _ => rfl

structure Twrite where
  fid : UInt32
  offset : UInt64
  data : Data
  deriving DecidableEq, Repr

instance : WireFormat Twrite :=
  .derive (fun m => (m.fid, m.offset, m.data))
    fun (fid, offset, data) => ⟨fid, offset, data⟩

instance : Lawful Twrite := .derive _ _ (fun _ => rfl) fun _ => rfl

structure Rwrite where
  count : UInt32
  deriving DecidableEq, Repr

instance : WireFormat Rwrite := .derive Rwrite.count Rwrite.mk

instance : Lawful Rwrite := .derive _ _ (fun _ => rfl) fun _ => rfl

structure Tclunk where
  fid : UInt32
  deriving DecidableEq, Repr

instance : WireFormat Tclunk := .derive Tclunk.fid Tclunk.mk

instance : Lawful Tclunk := .derive _ _ (fun _ => rfl) fun _ => rfl

structure Tremove where
  fid : UInt32
  deriving DecidableEq, Repr

instance : WireFormat Tremove := .derive Tremove.fid Tremove.mk

instance : Lawful Tremove := .derive _ _ (fun _ => rfl) fun _ => rfl

structure Tstatfs where
  fid : UInt32
  deriving DecidableEq, Repr

instance : WireFormat Tstatfs := .derive Tstatfs.fid Tstatfs.mk

instance : Lawful Tstatfs := .derive _ _ (fun _ => rfl) fun _ => rfl

structure Rstatfs where
  ty : UInt32
  bsize : UInt32
  blocks : UInt64
  bfree : UInt64
  bavail : UInt64
  files : UInt64
  ffree : UInt64
  fsid : UInt64
  namelen : UInt32
  deriving DecidableEq, Repr

instance : WireFormat Rstatfs :=
  .derive (fun m => (m.ty, m.bsize, m.blocks, m.bfree, m.bavail, m.files,
      m.ffree, m.fsid, m.namelen))
    fun (ty, bsize, blocks, bfree, bavail, files, ffree, fsid, namelen) => ⟨ty,
      bsize, blocks, bfree, bavail, files, ffree, fsid, namelen⟩

instance : Lawful Rstatfs := .derive _ _ (fun _ => rfl) fun _ => rfl

structure Tlopen where
  fid : UInt32
  flags : UInt32
  deriving DecidableEq, Repr

instance : WireFormat Tlopen :=
  .derive (fun m => (m.fid, m.flags))
    fun (fid, flags) => ⟨fid, flags⟩

instance : Lawful Tlopen := .derive _ _ (fun _ => rfl) fun _ => rfl

structure Rlopen where
  qid : Qid
  iounit : UInt32
  deriving DecidableEq, Repr

instance : WireFormat Rlopen :=
  .derive (fun m => (m.qid, m.iounit))
    fun (qid, iounit) => ⟨qid, iounit⟩

instance : Lawful Rlopen := .derive _ _ (fun _ => rfl) fun _ => rfl

structure Tlcreate where
  fid : UInt32
  name : String
  flags : UInt32
  mode : UInt32
  gid : UInt32
  deriving DecidableEq, Repr

instance : WireFormat Tlcreate :=
  .derive (fun m => (m.fid, m.name, m.flags, m.mode, m.gid))
    fun (fid, name, flags, mode, gid) => ⟨fid, name, flags, mode, gid⟩

instance : Lawful Tlcreate := .derive _ _ (fun _ => rfl) fun _ => rfl

structure Rlcreate where
  qid : Qid
  iounit : UInt32
  deriving DecidableEq, Repr

instance : WireFormat Rlcreate :=
  .derive (fun m => (m.qid, m.iounit))
    fun (qid, iounit) => ⟨qid, iounit⟩

instance : Lawful Rlcreate := .derive _ _ (fun _ => rfl) fun _ => rfl

structure Tsymlink where
  fid : UInt32
  name : String
  symtgt : String
  gid : UInt32
  deriving DecidableEq, Repr

instance : WireFormat Tsymlink :=
  .derive (fun m => (m.fid, m.name, m.symtgt, m.gid))
    fun (fid, name, symtgt, gid) => ⟨fid, name, symtgt, gid⟩

instance : Lawful Tsymlink := .derive _ _ (fun _ => rfl) fun _ => rfl

structure Rsymlink where
  qid : Qid
  deriving DecidableEq, Repr

instance : WireFormat Rsymlink := .derive Rsymlink.qid Rsymlink.mk

instance : Lawful Rsymlink := .derive _ _ (fun _ => rfl) fun _ => rfl

structure Tmknod where
  dfid : UInt32
  name : String
  mode : UInt32
  major : UInt32
  minor : UInt32
  gid : UInt32
  deriving DecidableEq, Repr

instance : WireFormat Tmknod :=
  .derive (fun m => (m.dfid, m.name, m.mode, m.major, m.minor, m.gid))
    fun (dfid, name, mode, major, minor, gid) => ⟨dfid, name, mode, major,
      minor, gid⟩

instance : Lawful Tmknod := .derive _ _ (fun _ => rfl) fun _ => rfl

structure Rmknod where
  qid : Qid
  deriving DecidableEq, Repr

instance : WireFormat Rmknod := .derive Rmknod.qid Rmknod.mk

instance : Lawful Rmknod := .derive _ _ (fun _ => rfl) fun _ => rfl

structure Trename where
  fid : UInt32
  dfid : UInt32
  name : String
  deriving DecidableEq, Repr

instance : WireFormat Trename :=
  .derive (fun m => (m.fid, m.dfid, m.name))
    fun (fid, dfid, name) => ⟨fid, dfid, name⟩

instance : Lawful Trename := .derive _ _ (fun _ => rfl) fun _ => rfl

structure Treadlink where
  fid : UInt32
  deriving DecidableEq, Repr

instance : WireFormat Treadlink := .derive Treadlink.fid Treadlink.mk

instance : Lawful Treadlink := .derive _ _ (fun _ => rfl) fun _ => rfl

structure Rreadlink where
  target : String
  deriving DecidableEq, Repr

instance : WireFormat Rreadlink := .derive Rreadlink.target Rreadlink.mk

instance : Lawful Rreadlink := .derive _ _ (fun _ => rfl) fun _ => rfl

structure Tgetattr where
  fid : UInt32
  requestMask : UInt64
  deriving DecidableEq, Repr

instance : WireFormat Tgetattr :=
  .derive (fun m => (m.fid, m.requestMask))
    fun (fid, requestMask) => ⟨fid, requestMask⟩

instance : Lawful Tgetattr := .derive _ _ (fun _ => rfl) fun _ => rfl

structure Rgetattr where
  valid : UInt64
  qid : Qid
  mode : UInt32
  uid : UInt32
  gid : UInt32
  nlink : UInt64
  rdev : UInt64
  size : UInt64
  blksize : UInt64
  blocks : UInt64
  atimeSec : UInt64
  atimeNsec : UInt64
  mtimeSec : UInt64
  mtimeNsec : UInt64
  ctimeSec : UInt64
  ctimeNsec : UInt64
  btimeSec : UInt64
  btimeNsec : UInt64
  gen : UInt64
  dataVersion : UInt64
  deriving DecidableEq, Repr

instance : WireFormat Rgetattr :=
  .derive (fun m => (m.valid, m.qid, m.mode, m.uid, m.gid, m.nlink, m.rdev,
      m.size, m.blksize, m.blocks, m.atimeSec, m.atimeNsec, m.mtimeSec,
      m.mtimeNsec, m.ctimeSec, m.ctimeNsec, m.btimeSec, m.btimeNsec, m.gen,
      m.dataVersion))
    fun (valid, qid, mode, uid, gid, nlink, rdev, size, blksize, blocks,
      atimeSec, atimeNsec, mtimeSec, mtimeNsec, ctimeSec, ctimeNsec, btimeSec,
      btimeNsec, gen, dataVersion) => ⟨valid, qid, mode, uid, gid, nlink, rdev,
      size, blksize, blocks, atimeSec, atimeNsec, mtimeSec, mtimeNsec, ctimeSec,
      ctimeNsec, btimeSec, btimeNsec, gen, dataVersion⟩

instance : Lawful Rgetattr := .derive _ _ (fun _ => rfl) fun _ => rfl

structure Tsetattr where
  fid : UInt32
  valid : UInt32
  mode : UInt32
  uid : UInt32
  gid : UInt32
  size : UInt64
  atimeSec : UInt64
  atimeNsec : UInt64
  mtimeSec : UInt64
  mtimeNsec : UInt64
  deriving DecidableEq, Repr

instance : WireFormat Tsetattr :=
  .derive (fun m => (m.fid, m.valid, m.mode, m.uid, m.gid, m.size, m.atimeSec,
      m.atimeNsec, m.mtimeSec, m.mtimeNsec))
    fun (fid, valid, mode, uid, gid, size, atimeSec, atimeNsec, mtimeSec,
      mtimeNsec) => ⟨fid, valid, mode, uid, gid, size, atimeSec, atimeNsec,
      mtimeSec, mtimeNsec⟩

instance : Lawful Tsetattr := .derive _ _ (fun _ => rfl) fun _ => rfl

structure Txattrwalk where
  fid : UInt32
  newfid : UInt32
  name : String
  deriving DecidableEq, Repr

instance : WireFormat Txattrwalk :=
  .derive (fun m => (m.fid, m.newfid, m.name))
    fun (fid, newfid, name) => ⟨fid, newfid, name⟩

instance : Lawful Txattrwalk := .derive _ _ (fun _ => rfl) fun _ => rfl

structure Rxattrwalk where
  size : UInt64
  deriving DecidableEq, Repr

instance : WireFormat Rxattrwalk := .derive Rxattrwalk.size Rxattrwalk.mk

instance : Lawful Rxattrwalk := .derive _ _ (fun _ => rfl) fun _ => rfl

structure Txattrcreate where
  fid : UInt32
  name : String
  attrSize : UInt64
  flags : UInt32
  deriving DecidableEq, Repr

instance : WireFormat Txattrcreate :=
  .derive (fun m => (m.fid, m.name, m.attrSize, m.flags))
    fun (fid, name, attrSize, flags) => ⟨fid, name, attrSize, flags⟩

instance : Lawful Txattrcreate := .derive _ _ (fun _ => rfl) fun _ => rfl

structure Treaddir where
  fid : UInt32
  offset : UInt64
  count : UInt32
  deriving DecidableEq, Repr

instance : WireFormat Treaddir :=
  .derive (fun m => (m.fid, m.offset, m.count))
    fun (fid, offset, count) => ⟨fid, offset, count⟩

instance : Lawful Treaddir := .derive _ _ (fun _ => rfl) fun _ => rfl

structure Rreaddir where
  data : Data
  deriving DecidableEq, Repr

instance : WireFormat Rreaddir := .derive Rreaddir.data Rreaddir.mk

instance : Lawful Rreaddir := .derive _ _ (fun _ => rfl) fun _ => rfl

structure Tfsync where
  fid : UInt32
  datasync : UInt32
  deriving DecidableEq, Repr

instance : WireFormat Tfsync :=
  .derive (fun m => (m.fid, m.datasync))
    fun (fid, datasync) => ⟨fid, datasync⟩

instance : Lawful Tfsync := .derive _ _ (fun _ => rfl) fun _ => rfl

structure Tlock where
  fid : UInt32
  type_ : UInt8
  flags : UInt32
  start : UInt64
  length : UInt64
  procId : UInt32
  clientId : String
  deriving DecidableEq, Repr

instance : WireFormat Tlock :=
  .derive (fun m => (m.fid, m.type_, m.flags, m.start, m.length, m.procId,
      m.clientId))
    fun (fid, type_, flags, start, length, procId, clientId) => ⟨fid, type_,
      flags, start, length, procId, clientId⟩

instance : Lawful Tlock := .derive _ _ (fun _ => rfl) fun _ => rfl

structure Rlock where
  status : UInt8
  deriving DecidableEq, Repr

instance : WireFormat Rlock := .derive Rlock.status Rlock.mk

instance : Lawful Rlock := .derive _ _ (fun _ => rfl) fun _ => rfl

structure Tgetlock where
  fid : UInt32
  type_ : UInt8
  start : UInt64
  length : UInt64
  procId : UInt32
  clientId : String
  deriving DecidableEq, Repr

instance : WireFormat Tgetlock :=
  .derive (fun m => (m.fid, m.type_, m.start, m.length, m.procId, m.clientId))
    fun (fid, type_, start, length, procId, clientId) => ⟨fid, type_, start,
      length, procId, clientId⟩

instance : Lawful Tgetlock := .derive _ _ (fun _ => rfl) fun _ => rfl

structure Rgetlock where
  type_ : UInt8
  start : UInt64
  length : UInt64
  procId : UInt32
  clientId : String
  deriving DecidableEq, Repr

instance : WireFormat Rgetlock :=
  .derive (fun m => (m.type_, m.start, m.length, m.procId, m.clientId))
    fun (type_, start, length, procId, clientId) => ⟨type_, start, length,
      procId, clientId⟩

instance : Lawful Rgetlock := .derive _ _ (fun _ => rfl) fun _ => rfl

structure Tlink where
  dfid : UInt32
  fid : UInt32
  name : String
  deriving DecidableEq, Repr

instance : WireFormat Tlink :=
  .derive (fun m => (m.dfid, m.fid, m.name))
    fun (dfid, fid, name) => ⟨dfid, fid, name⟩

instance : Lawful Tlink := .derive _ _ (fun _ => rfl) fun _ => rfl

structure Tmkdir where
  dfid : UInt32
  name : String
  mode : UInt32
  gid : UInt32
  deriving DecidableEq, Repr

instance : WireFormat Tmkdir :=
  .derive (fun m => (m.dfid, m.name, m.mode, m.gid))
    fun (dfid, name, mode, gid) => ⟨dfid, name, mode, gid⟩

instance : Lawful Tmkdir := .derive _ _ (fun _ => rfl) fun _ => rfl

structure Rmkdir where
  qid : Qid
  deriving DecidableEq, Repr

instance : WireFormat Rmkdir := .derive Rmkdir.qid Rmkdir.mk

instance : Lawful Rmkdir := .derive _ _ (fun _ => rfl) fun _ => rfl

structure Trenameat where
  olddirfid : UInt32
  oldname : String
  newdirfid : UInt32
  newname : String
  deriving DecidableEq, Repr

instance : WireFormat Trenameat :=
  .derive (fun m => (m.olddirfid, m.oldname, m.newdirfid, m.newname))
    fun (olddirfid, oldname, newdirfid, newname) => ⟨olddirfid, oldname,
      newdirfid, newname⟩

instance : Lawful Trenameat := .derive _ _ (fun _ => rfl) fun _ => rfl

structure Tunlinkat where
  dirfd : UInt32
  name : String
  flags : UInt32
  deriving DecidableEq, Repr

instance : WireFormat Tunlinkat :=
  .derive (fun m => (m.dirfd, m.name, m.flags))
    fun (dirfd, name, flags) => ⟨dirfd, name, flags⟩

instance : Lawful Tunlinkat := .derive _ _ (fun _ => rfl) fun _ => rfl

structure Dirent where
  qid : Qid
  offset : UInt64
  ty : UInt8
  name : String
  deriving DecidableEq, Repr

instance : WireFormat Dirent :=
  .derive (fun m => (m.qid, m.offset, m.ty, m.name))
    fun (qid, offset, ty, name) => ⟨qid, offset, ty, name⟩

instance : Lawful Dirent := .derive _ _ (fun _ => rfl) fun _ => rfl

structure Rversion where
  msize : UInt32
  version : String
  deriving DecidableEq, Repr

instance : WireFormat Rversion :=
  .derive (fun m => (m.msize, m.version))
    fun (msize, version) => ⟨msize, version⟩

instance : Lawful Rversion := .derive _ _ (fun _ => rfl) fun _ => rfl

structure Rwalk where
  wqids : List Qid
  deriving DecidableEq, Repr

instance : WireFormat Rwalk := .derive Rwalk.wqids Rwalk.mk

instance : Lawful Rwalk := .derive _ _ (fun _ => rfl) fun _ => rfl

structure Rauth where
  aqid : Qid
  deriving DecidableEq, Repr

instance : WireFormat Rauth := .derive Rauth.aqid Rauth.mk

instance : Lawful Rauth := .derive _ _ (fun _ => rfl) fun _ => rfl

structure Rattach where
  qid : Qid
  deriving DecidableEq, Repr

instance : WireFormat Rattach := .derive Rattach.qid Rattach.mk

instance : Lawful Rattach := .derive _ _ (fun _ => rfl) fun _ => rfl

/-! ## Requests and replies -/

/-- `enum Tmessage`: the body of a request. -/
inductive Tmessage
  | version (msg : Tversion)
  | flush (msg : Tflush)
  | walk (msg : Twalk)
  | read (msg : Tread)
  | write (msg : Twrite)
  | clunk (msg : Tclunk)
  | remove (msg : Tremove)
  | attach (msg : Tattach)
  | auth (msg : Tauth)
  | statfs (msg : Tstatfs)
  | lopen (msg : Tlopen)
  | lcreate (msg : Tlcreate)
  | symlink (msg : Tsymlink)
  | mknod (msg : Tmknod)
  | rename (msg : Trename)
  | readlink (msg : Treadlink)
  | getAttr (msg : Tgetattr)
  | setAttr (msg : Tsetattr)
  | xattrWalk (msg : Txattrwalk)
  | xattrCreate (msg : Txattrcreate)
  | readdir (msg : Treaddir)
  | fsync (msg : Tfsync)
  | lock (msg : Tlock)
  | getLock (msg : Tgetlock)
  | link (msg : Tlink)
  | mkdir (msg : Tmkdir)
  | renameAt (msg : Trenameat)
  | unlinkAt (msg : Tunlinkat)
  deriving DecidableEq, Repr

/-- `enum Rmessage`: the body of a reply; ten kinds carry no body. -/
inductive Rmessage
  | version (msg : Rversion)
  | flush
  | walk (msg : Rwalk)
  | read (msg : Rread)
  | write (msg : Rwrite)
  | clunk
  | remove
  | attach (msg : Rattach)
  | auth (msg : Rauth)
  | statfs (msg : Rstatfs)
  | lopen (msg : Rlopen)
  | lcreate (msg : Rlcreate)
  | symlink (msg : Rsymlink)
  | mknod (msg : Rmknod)
  | rename
  | readlink (msg : Rreadlink)
  | getAttr (msg : Rgetattr)
  | setAttr
  | xattrWalk (msg : Rxattrwalk)
  | xattrCreate
  | readdir (msg : Rreaddir)
  | fsync
  | lock (msg : Rlock)
  | getLock (msg : Rgetlock)
  | link
  | mkdir (msg : Rmkdir)
  | renameAt
  | unlinkAt
  | lerror (msg : Rlerror)
  deriving DecidableEq, Repr

/-- `struct Tframe`: a tagged request.  Its message is an `io::Result`
because decoding keeps a frame whose body failed to decode, so that the
server can answer it with an error. -/
structure Tframe where
  tag : UInt16
  msg : Except IoError Tmessage

/-- `struct Rframe`: a tagged reply. -/
structure Rframe where
  tag : UInt16
  msg : Rmessage
  deriving DecidableEq, Repr

/-! ## Request frames -/

/-- The body size of a request: the first `match` of `Tframe::byte_size`. -/
def Tmessage.byteSize : Tmessage → UInt32
  | .version msg => WireFormat.byteSize msg
  | .flush msg => WireFormat.byteSize msg
  | .walk msg => WireFormat.byteSize msg
  | .read msg => WireFormat.byteSize msg
  | .write msg => WireFormat.byteSize msg
  | .clunk msg => WireFormat.byteSize msg
  | .remove msg => WireFormat.byteSize msg
  | .attach msg => WireFormat.byteSize msg
  | .auth msg => WireFormat.byteSize msg
  | .statfs msg => WireFormat.byteSize msg
  | .lopen msg => WireFormat.byteSize msg
  | .lcreate msg => WireFormat.byteSize msg
  | .symlink msg => WireFormat.byteSize msg
  | .mknod msg => WireFormat.byteSize msg
  | .rename msg => WireFormat.byteSize msg
  | .readlink msg => WireFormat.byteSize msg
  | .getAttr msg => WireFormat.byteSize msg
  | .setAttr msg => WireFormat.byteSize msg
  | .xattrWalk msg => WireFormat.byteSize msg
  | .xattrCreate msg => WireFormat.byteSize msg
  | .readdir msg => WireFormat.byteSize msg
  | .fsync msg => WireFormat.byteSize msg
  | .lock msg => WireFormat.byteSize msg
  | .getLock msg => WireFormat.byteSize msg
  | .link msg => WireFormat.byteSize msg
  | .mkdir msg => WireFormat.byteSize msg
  | .renameAt msg => WireFormat.byteSize msg
  | .unlinkAt msg => WireFormat.byteSize msg

/-- The type byte of a request: the `ty` table of `Tframe::encode`. -/
def Tmessage.messageType : Tmessage → UInt8
  | .version _ => TVERSION
  | .flush _ => TFLUSH
  | .walk _ => TWALK
  | .read _ => TREAD
  | .write _ => TWRITE
  | .clunk _ => TCLUNK
  | .remove _ => TREMOVE
  | .attach _ => TATTACH
  | .auth _ => TAUTH
  | .statfs _ => TSTATFS
  | .lopen _ => TLOPEN
  | .lcreate _ => TLCREATE
  | .symlink _ => TSYMLINK
  | .mknod _ => TMKNOD
  | .rename _ => TRENAME
  | .readlink _ => TREADLINK
  | .getAttr _ => TGETATTR
  | .setAttr _ => TSETATTR
  | .xattrWalk _ => TXATTRWALK
  | .xattrCreate _ => TXATTRCREATE
  | .readdir _ => TREADDIR
  | .fsync _ => TFSYNC
  | .lock _ => TLOCK
  | .getLock _ => TGETLOCK
  | .link _ => TLINK
  | .mkdir _ => TMKDIR
  | .renameAt _ => TRENAMEAT
  | .unlinkAt _ => TUNLINKAT

/-- The body encoder of a request: the last `match` of `Tframe::encode`. -/
def Tmessage.encode : Tmessage → ByteM IoError Unit
  | .version msg => WireFormat.encode msg
  | .flush msg => WireFormat.encode msg
  | .walk msg => WireFormat.encode msg
  | .read msg => WireFormat.encode msg
  | .write msg => WireFormat.encode msg
  | .clunk msg => WireFormat.encode msg
  | .remove msg => WireFormat.encode msg
  | .attach msg => WireFormat.encode msg
  | .auth msg => WireFormat.encode msg
  | .statfs msg => WireFormat.encode msg
  | .lopen msg => WireFormat.encode msg
  | .lcreate msg => WireFormat.encode msg
  | .symlink msg => WireFormat.encode msg
  | .mknod msg => WireFormat.encode msg
  | .rename msg => WireFormat.encode msg
  | .readlink msg => WireFormat.encode msg
  | .getAttr msg => WireFormat.encode msg
  | .setAttr msg => WireFormat.encode msg
  | .xattrWalk msg => WireFormat.encode msg
  | .xattrCreate msg => WireFormat.encode msg
  | .readdir msg => WireFormat.encode msg
  | .fsync msg => WireFormat.encode msg
  | .lock msg => WireFormat.encode msg
  | .getLock msg => WireFormat.encode msg
  | .link msg => WireFormat.encode msg
  | .mkdir msg => WireFormat.encode msg
  | .renameAt msg => WireFormat.encode msg
  | .unlinkAt msg => WireFormat.encode msg

/-- `Tframe::decode_message`: the body decoder selected by the type byte. -/
def Tframe.decodeMessage (ty : UInt8) : ByteM IoError Tmessage :=
  if ty = TVERSION then .version <$> decode
  else if ty = TFLUSH then .flush <$> decode
  else if ty = TWALK then .walk <$> decode
  else if ty = TREAD then .read <$> decode
  else if ty = TWRITE then .write <$> decode
  else if ty = TCLUNK then .clunk <$> decode
  else if ty = TREMOVE then .remove <$> decode
  else if ty = TATTACH then .attach <$> decode
  else if ty = TAUTH then .auth <$> decode
  else if ty = TSTATFS then .statfs <$> decode
  else if ty = TLOPEN then .lopen <$> decode
  else if ty = TLCREATE then .lcreate <$> decode
  else if ty = TSYMLINK then .symlink <$> decode
  else if ty = TMKNOD then .mknod <$> decode
  else if ty = TRENAME then .rename <$> decode
  else if ty = TREADLINK then .readlink <$> decode
  else if ty = TGETATTR then .getAttr <$> decode
  else if ty = TSETATTR then .setAttr <$> decode
  else if ty = TXATTRWALK then .xattrWalk <$> decode
  else if ty = TXATTRCREATE then .xattrCreate <$> decode
  else if ty = TREADDIR then .readdir <$> decode
  else if ty = TFSYNC then .fsync <$> decode
  else if ty = TLOCK then .lock <$> decode
  else if ty = TGETLOCK then .getLock <$> decode
  else if ty = TLINK then .link <$> decode
  else if ty = TMKDIR then .mkdir <$> decode
  else if ty = TRENAMEAT then .renameAt <$> decode
  else if ty = TUNLINKAT then .unlinkAt <$> decode
  else throw (.custom .invalidData ("unknown message type " ++ toString ty))

/-- `Tframe::byte_size`: size, type and tag, then the body; it panics on a
frame whose message is an error (`none`). -/
def Tframe.byteSize (frame : Tframe) : Option UInt32 :=
  match frame.msg with
  | .ok msg => some (4 + 1 + 2 + msg.byteSize)
  | .error _ => none

/-- `Tframe::encode`.  The frame's message is checked first, so the call to
`self.byte_size()` that writes the size cannot panic. -/
def Tframe.encode (frame : Tframe) : ByteM IoError Unit :=
  match frame.msg with
  | .error _ =>
      throw (.custom .invalidData "tried to encode Tframe with invalid msg")
  | .ok msg => do
      WireFormat.encode (4 + 1 + 2 + msg.byteSize : UInt32)
      WireFormat.encode msg.messageType
      WireFormat.encode frame.tag
      msg.encode

/-- `Tframe::decode`: the size, checked to cover itself, bounds a window
holding the type, the tag and the body.  A body that fails to decode still
gives a frame, whose message is the error. -/
def Tframe.decode : ByteM IoError Tframe := do
  let byteSize : UInt32 ← WireFormat.decode
  if byteSize < 4 then
    throw (.custom .invalidData
      ("byte_size(= " ++ toString byteSize ++ ") is less than 4 bytes"))
  else
    window (byteSize - 4).toNat do
      -- `read_exact` into a one-byte buffer, which is how a `u8` decodes
      let ty : UInt8 ← WireFormat.decode
      let tag : UInt16 ← WireFormat.decode
      let msg ← Proc.attempt (Tframe.decodeMessage ty)
      pure ⟨tag, msg⟩

/-! ## Reply frames -/

/-- The body size of a reply: the `match` of `Rframe::byte_size`. -/
def Rmessage.byteSize : Rmessage → UInt32
  | .version msg => WireFormat.byteSize msg
  | .flush => 0
  | .walk msg => WireFormat.byteSize msg
  | .read msg => WireFormat.byteSize msg
  | .write msg => WireFormat.byteSize msg
  | .clunk => 0
  | .remove => 0
  | .attach msg => WireFormat.byteSize msg
  | .auth msg => WireFormat.byteSize msg
  | .statfs msg => WireFormat.byteSize msg
  | .lopen msg => WireFormat.byteSize msg
  | .lcreate msg => WireFormat.byteSize msg
  | .symlink msg => WireFormat.byteSize msg
  | .mknod msg => WireFormat.byteSize msg
  | .rename => 0
  | .readlink msg => WireFormat.byteSize msg
  | .getAttr msg => WireFormat.byteSize msg
  | .setAttr => 0
  | .xattrWalk msg => WireFormat.byteSize msg
  | .xattrCreate => 0
  | .readdir msg => WireFormat.byteSize msg
  | .fsync => 0
  | .lock msg => WireFormat.byteSize msg
  | .getLock msg => WireFormat.byteSize msg
  | .link => 0
  | .mkdir msg => WireFormat.byteSize msg
  | .renameAt => 0
  | .unlinkAt => 0
  | .lerror msg => WireFormat.byteSize msg

/-- The type byte of a reply: the `ty` table of `Rframe::encode`. -/
def Rmessage.messageType : Rmessage → UInt8
  | .version _ => RVERSION
  | .flush => RFLUSH
  | .walk _ => RWALK
  | .read _ => RREAD
  | .write _ => RWRITE
  | .clunk => RCLUNK
  | .remove => RREMOVE
  | .attach _ => RATTACH
  | .auth _ => RAUTH
  | .statfs _ => RSTATFS
  | .lopen _ => RLOPEN
  | .lcreate _ => RLCREATE
  | .symlink _ => RSYMLINK
  | .mknod _ => RMKNOD
  | .rename => RRENAME
  | .readlink _ => RREADLINK
  | .getAttr _ => RGETATTR
  | .setAttr => RSETATTR
  | .xattrWalk _ => RXATTRWALK
  | .xattrCreate => RXATTRCREATE
  | .readdir _ => RREADDIR
  | .fsync => RFSYNC
  | .lock _ => RLOCK
  | .getLock _ => RGETLOCK
  | .link => RLINK
  | .mkdir _ => RMKDIR
  | .renameAt => RRENAMEAT
  | .unlinkAt => RUNLINKAT
  | .lerror _ => RLERROR

/-- The body encoder of a reply: the last `match` of `Rframe::encode`. -/
def Rmessage.encode : Rmessage → ByteM IoError Unit
  | .version msg => WireFormat.encode msg
  | .flush => pure ()
  | .walk msg => WireFormat.encode msg
  | .read msg => WireFormat.encode msg
  | .write msg => WireFormat.encode msg
  | .clunk => pure ()
  | .remove => pure ()
  | .attach msg => WireFormat.encode msg
  | .auth msg => WireFormat.encode msg
  | .statfs msg => WireFormat.encode msg
  | .lopen msg => WireFormat.encode msg
  | .lcreate msg => WireFormat.encode msg
  | .symlink msg => WireFormat.encode msg
  | .mknod msg => WireFormat.encode msg
  | .rename => pure ()
  | .readlink msg => WireFormat.encode msg
  | .getAttr msg => WireFormat.encode msg
  | .setAttr => pure ()
  | .xattrWalk msg => WireFormat.encode msg
  | .xattrCreate => pure ()
  | .readdir msg => WireFormat.encode msg
  | .fsync => pure ()
  | .lock msg => WireFormat.encode msg
  | .getLock msg => WireFormat.encode msg
  | .link => pure ()
  | .mkdir msg => WireFormat.encode msg
  | .renameAt => pure ()
  | .unlinkAt => pure ()
  | .lerror msg => WireFormat.encode msg

/-- The body decoder of `Rframe::decode`, selected by the type byte. -/
def Rframe.decodeMessage (ty : UInt8) : ByteM IoError Rmessage :=
  if ty = RVERSION then .version <$> decode
  else if ty = RFLUSH then pure .flush
  else if ty = RWALK then .walk <$> decode
  else if ty = RREAD then .read <$> decode
  else if ty = RWRITE then .write <$> decode
  else if ty = RCLUNK then pure .clunk
  else if ty = RREMOVE then pure .remove
  else if ty = RATTACH then .attach <$> decode
  else if ty = RAUTH then .auth <$> decode
  else if ty = RSTATFS then .statfs <$> decode
  else if ty = RLOPEN then .lopen <$> decode
  else if ty = RLCREATE then .lcreate <$> decode
  else if ty = RSYMLINK then .symlink <$> decode
  else if ty = RMKNOD then .mknod <$> decode
  else if ty = RRENAME then pure .rename
  else if ty = RREADLINK then .readlink <$> decode
  else if ty = RGETATTR then .getAttr <$> decode
  else if ty = RSETATTR then pure .setAttr
  else if ty = RXATTRWALK then .xattrWalk <$> decode
  else if ty = RXATTRCREATE then pure .xattrCreate
  else if ty = RREADDIR then .readdir <$> decode
  else if ty = RFSYNC then pure .fsync
  else if ty = RLOCK then .lock <$> decode
  else if ty = RGETLOCK then .getLock <$> decode
  else if ty = RLINK then pure .link
  else if ty = RMKDIR then .mkdir <$> decode
  else if ty = RRENAMEAT then pure .renameAt
  else if ty = RUNLINKAT then pure .unlinkAt
  else if ty = RLERROR then .lerror <$> decode
  else throw (.custom .invalidData ("unknown message type " ++ toString ty))

/-- `Rframe::decode`.  Unlike `Tframe::decode` it subtracts the size of the
size field from the decoded size without checking that it is at least that
large; in a release build the `u32` subtraction wraps. -/
def Rframe.decode : ByteM IoError Rframe := do
  let byteSize : UInt32 ← WireFormat.decode
  window (byteSize - 4).toNat do
    let ty : UInt8 ← WireFormat.decode
    let tag : UInt16 ← WireFormat.decode
    let msg ← Rframe.decodeMessage ty
    pure ⟨tag, msg⟩

instance : WireFormat Rframe where
  byteSize frame := 4 + 1 + 2 + frame.msg.byteSize
  encode frame := do
    WireFormat.encode (4 + 1 + 2 + frame.msg.byteSize : UInt32)
    WireFormat.encode frame.msg.messageType
    WireFormat.encode frame.tag
    frame.msg.encode
  decode := Rframe.decode

end JetStream
