import JetStream.Coding.Messages

/-!
# The system calls the file server makes

`ufs/mod.rs` serves a directory of the host through Linux system calls on
file descriptors: `openat64` with `O_PATH` to hold a place in the tree, the
`*at` calls relative to such a place, and the calls on opened files.  The
kernel is outside this repository, so it enters the model as a parameter:
`Kernel σ File` gives each call as an action on an operating-system state `σ`
over file handles `File`, which fails with an `errno` as the `syscall!` macro
reports it.  Nothing is assumed about what the calls do; the properties of the
server that depend on the kernel take what they need as hypotheses.

The constants are those of the `libc` crate on x86-64 Linux.
-/

namespace JetStream

open Proc

/-! ## `libc` constants -/

namespace Libc

def O_RDONLY : Int32 := 0
def O_WRONLY : Int32 := 0o1
def O_RDWR : Int32 := 0o2
def O_CREAT : Int32 := 0o100
def O_EXCL : Int32 := 0o200
def O_NOCTTY : Int32 := 0o400
def O_TRUNC : Int32 := 0o1000
def O_APPEND : Int32 := 0o2000
def O_NONBLOCK : Int32 := 0o4000
def O_DSYNC : Int32 := 0o10000
def O_DIRECT : Int32 := 0o40000
def O_LARGEFILE : Int32 := 0
def O_DIRECTORY : Int32 := 0o200000
def O_NOFOLLOW : Int32 := 0o400000
def O_NOATIME : Int32 := 0o1000000
def O_CLOEXEC : Int32 := 0o2000000
def O_SYNC : Int32 := 0o4010000
def O_PATH : Int32 := 0o10000000

def AT_SYMLINK_NOFOLLOW : Int32 := 0x100
def AT_SYMLINK_FOLLOW : Int32 := 0x400
def AT_EMPTY_PATH : Int32 := 0x1000

def S_IFMT : UInt32 := 0o170000
def S_IFDIR : UInt32 := 0o40000
def S_IFREG : UInt32 := 0o100000
def S_IFLNK : UInt32 := 0o120000

def UTIME_NOW : Int64 := 1073741823
def UTIME_OMIT : Int64 := 1073741822

def PATH_MAX : Nat := 4096

end Libc

/-! ## What the calls return -/

/-- The fields of `struct stat64` that the server reads. -/
structure Stat where
  stIno : UInt64
  stNlink : UInt64
  stMode : UInt32
  stUid : UInt32
  stGid : UInt32
  stRdev : UInt64
  stSize : Int64
  stBlksize : Int64
  stBlocks : Int64
  stAtime : Int64
  stAtimeNsec : Int64
  stMtime : Int64
  stMtimeNsec : Int64
  stCtime : Int64
  stCtimeNsec : Int64
  deriving DecidableEq, Repr

/-- The fields of `struct statfs64` that the server reads; `fFsid` is the
two `i32` words of `f_fsid` as the `u64` they are transmuted to. -/
structure Statfs where
  fType : Int64
  fBsize : Int64
  fBlocks : UInt64
  fBfree : UInt64
  fBavail : UInt64
  fFiles : UInt64
  fFfree : UInt64
  fFsid : UInt64
  fNamelen : Int64
  deriving DecidableEq, Repr

/-- `struct timespec`. -/
structure Timespec where
  tvSec : Int64
  tvNsec : Int64
  deriving DecidableEq, Repr

/-- `read_dir::DirEntry`: one record of a `getdents64` buffer, its name
without the terminating nul. -/
structure DirEntry where
  ino : UInt64
  offset : UInt64
  type_ : UInt8
  name : List UInt8
  deriving DecidableEq, Repr

/-- What `read_dir::ReadDir::next` yields over a directory: its entries in
order, then `None`, or the error of the `getdents64` call that failed.  The
kernel is trusted, as the source's debug assertions say, to fill the buffer
with well-formed records. -/
structure DirStream where
  entries : List DirEntry
  error : Option Int32
  deriving DecidableEq, Repr

/-! ## The kernel -/

/-- The system calls, each an action on the operating-system state that fails
with an `errno`.  A directory is listed by `readDir`, the `lseek64` of
`read_dir` together with the `getdents64` calls its iterator makes. -/
structure Kernel (σ File : Type) where
  /-- `openat64(dirfd, pathname, flags, mode)`; `none` is `AT_FDCWD`. -/
  openat : Option File → List UInt8 → Int32 → UInt32 → Proc σ Int32 File
  /-- `fstatat64(dirfd, pathname, flags)`. -/
  fstatat : File → List UInt8 → Int32 → Proc σ Int32 Stat
  /-- `File::try_clone`. -/
  dup : File → Proc σ Int32 File
  /-- `FileExt::read_at` into a buffer of `count` bytes: the bytes read. -/
  pread : File → Nat → UInt64 → Proc σ Int32 (List UInt8)
  /-- `FileExt::write_at`: the number of bytes written. -/
  pwrite : File → List UInt8 → UInt64 → Proc σ Int32 Nat
  fstatfs : File → Proc σ Int32 Statfs
  /-- `readlinkat(dirfd, pathname, buf, len)`: the bytes of the target. -/
  readlinkat : File → List UInt8 → Nat → Proc σ Int32 (List UInt8)
  fchmodat : File → List UInt8 → UInt32 → Int32 → Proc σ Int32 Unit
  fchownat : File → List UInt8 → UInt32 → UInt32 → Int32 → Proc σ Int32 Unit
  /-- `File::set_len`. -/
  ftruncate : File → UInt64 → Proc σ Int32 Unit
  utimensat : File → List UInt8 → Timespec → Timespec → Int32 → Proc σ Int32 Unit
  /-- `read_dir(dir, offset)` and the `getdents64` calls of its iterator. -/
  readDir : File → Int64 → Proc σ Int32 DirStream
  /-- `File::sync_all`, or `File::sync_data` when the flag is set. -/
  fsync : File → Bool → Proc σ Int32 Unit
  fstat : File → Proc σ Int32 Stat
  linkat : File → List UInt8 → File → List UInt8 → Int32 → Proc σ Int32 Unit
  mkdirat : File → List UInt8 → UInt32 → Proc σ Int32 Unit
  renameat : File → List UInt8 → File → List UInt8 → Proc σ Int32 Unit
  unlinkat : File → List UInt8 → Int32 → Proc σ Int32 Unit
  /-- `AsRawFd::as_raw_fd`. -/
  rawFd : File → Int32

/-! ## What the server makes of a `stat` -/

/-- `enum FileType` and `From<libc::mode_t>`. -/
inductive FileType
  | regular
  | directory
  | other
  deriving DecidableEq, Repr

def P9_QTDIR : UInt8 := 0x80
def P9_QTSYMLINK : UInt8 := 0x02
def P9_QTFILE : UInt8 := 0x00

def FileType.ofMode (mode : UInt32) : FileType :=
  if mode &&& Libc.S_IFMT = Libc.S_IFREG then .regular
  else if mode &&& Libc.S_IFMT = Libc.S_IFDIR then .directory
  else .other

/-- `From<libc::stat64> for Qid`; `st_mtime as u32` keeps the low 32 bits. -/
def Qid.ofStat (st : Stat) : Qid where
  ty :=
    if st.stMode &&& Libc.S_IFMT = Libc.S_IFDIR then P9_QTDIR
    else if st.stMode &&& Libc.S_IFMT = Libc.S_IFREG then P9_QTFILE
    else if st.stMode &&& Libc.S_IFMT = Libc.S_IFLNK then P9_QTSYMLINK
    else 0
  version := st.stMtime.toUInt64.toUInt32
  path := st.stIno

end JetStream
