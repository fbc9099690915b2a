import JetStream.Stream.ByteStream

/-!
# The `WireFormat` trait and its generic instances

`coding/wire_format.rs` defines how every 9P value is laid out on the wire:
fixed-width integers as their little-endian bytes, a `String` as a `u16`
byte count followed by UTF-8 bytes, a `Vec<T>` as a `u16` element count
followed by the elements, `Data` as a `u32` byte count followed by the bytes,
and `Option<T>`, `()` and `io::Result<T>` as below.  Structs deriving
`JetStreamWireFormat` encode their fields one after another in declaration
order (`third_party/p9_wire_format_derive/src/lib.rs`), which `derive`
models.

Encoders write into a growable buffer and decoders read from the front of a
byte list, both through `ByteStream`, so that an encoder that fails half way
keeps what it already wrote and a decoder keeps what it already consumed.
`byte_size` is a `u32` computed with wrapping additions, as in a release
build.
-/

namespace JetStream

open ByteStream LittleEndian

/-! ## I/O errors -/

/-- The `std::io::ErrorKind`s that the modelled code names. -/
inductive ErrorKind
  | notFound
  | permissionDenied
  | connectionRefused
  | connectionReset
  | connectionAborted
  | notConnected
  | addrInUse
  | addrNotAvailable
  | brokenPipe
  | alreadyExists
  | wouldBlock
  | invalidInput
  | invalidData
  | timedOut
  | writeZero
  | interrupted
  | other
  | unexpectedEof
  deriving DecidableEq, Repr

/-- `std::io::Error`: an operating-system error carrying its `errno`
(`from_raw_os_error`, `last_os_error`), or one built from a kind and a
message (`io::Error::new`). -/
inductive IoError
  | os (errno : Int32)
  | custom (kind : ErrorKind) (message : String)
  deriving DecidableEq, Repr

-- The Linux `errno` values of the `libc` constants the code uses.
namespace Errno

def EPERM : Int32 := 1
def ENOENT : Int32 := 2
def EIO : Int32 := 5
def EBADF : Int32 := 9
def EINTR : Int32 := 4
def EWOULDBLOCK : Int32 := 11
def EACCES : Int32 := 13
def EEXIST : Int32 := 17
def ENOTDIR : Int32 := 20
def EISDIR : Int32 := 21
def EINVAL : Int32 := 22
def EPIPE : Int32 := 32
def EOPNOTSUPP : Int32 := 95
def EADDRINUSE : Int32 := 98
def EADDRNOTAVAIL : Int32 := 99
def ECONNABORTED : Int32 := 103
def ECONNRESET : Int32 := 104
def ENOTCONN : Int32 := 107
def ETIMEDOUT : Int32 := 110
def ECONNREFUSED : Int32 := 111

end Errno

/-- `read_exact`'s error when the input ends first. -/
def unexpectedEof : IoError :=
  .custom .unexpectedEof "failed to fill whole buffer"

/-- `io::Error::raw_os_error`. -/
def IoError.rawOsError : IoError → Option Int32
  | .os errno => some errno
  | .custom _ _ => none

/-- The `errno` that `error_to_rmessage` reports for an error: its raw OS
error if it has one, else a best-effort guess from its kind.  Both copies of
`error_to_rmessage` (in `coding/wire_format.rs` and `ufs/mod.rs`) compute
exactly this. -/
def errorErrno : IoError → Int32
  | .os errno => errno
  | .custom kind _ =>
      match kind with
      | .notFound => Errno.ENOENT
      | .permissionDenied => Errno.EPERM
      | .connectionRefused => Errno.ECONNREFUSED
      | .connectionReset => Errno.ECONNRESET
      | .connectionAborted => Errno.ECONNABORTED
      | .notConnected => Errno.ENOTCONN
      | .addrInUse => Errno.EADDRINUSE
      | .addrNotAvailable => Errno.EADDRNOTAVAIL
      | .brokenPipe => Errno.EPIPE
      | .alreadyExists => Errno.EEXIST
      | .wouldBlock => Errno.EWOULDBLOCK
      | .invalidInput => Errno.EINVAL
      | .invalidData => Errno.EINVAL
      | .timedOut => Errno.ETIMEDOUT
      | .writeZero => Errno.EIO
      | .interrupted => Errno.EINTR
      | .other => Errno.EIO
      | .unexpectedEof => Errno.EIO

/-! ## The trait -/

/-- `trait WireFormat`: a byte size, an encoder and a decoder. -/
class WireFormat (α : Type) where
  byteSize : α → UInt32
  encode : α → ByteM IoError Unit
  decode : ByteM IoError α

namespace WireFormat

/-- Read `width` bytes and take them as a little-endian number. -/
def readLe (width : Nat) : ByteM IoError Nat := do
  let bytes ← readExact unexpectedEof width
  pure (ofLeBytes bytes)

instance : WireFormat UInt8 where
  byteSize _ := 1
  encode value := writeAll [value]
  decode := UInt8.ofNat <$> readLe 1

instance : WireFormat UInt16 where
  byteSize _ := 2
  encode value := writeAll (leBytes 2 value.toNat)
  decode := UInt16.ofNat <$> readLe 2

instance : WireFormat UInt32 where
  byteSize _ := 4
  encode value := writeAll (leBytes 4 value.toNat)
  decode := UInt32.ofNat <$> readLe 4

instance : WireFormat UInt64 where
  byteSize _ := 8
  encode value := writeAll (leBytes 8 value.toNat)
  decode := UInt64.ofNat <$> readLe 8

/-- `i32` travels as the little-endian bytes of its two's complement. -/
instance : WireFormat Int32 where
  byteSize _ := 4
  encode value := writeAll (leBytes 4 value.toUInt32.toNat)
  decode := (fun bits => (UInt32.ofNat bits).toInt32) <$> readLe 4

instance : WireFormat Unit where
  byteSize _ := 0
  encode _ := pure ()
  decode := pure ()

/-- The UTF-8 bytes of a string (`String::as_bytes`). -/
def utf8Bytes (text : String) : List UInt8 :=
  text.toByteArray.data.toList

/-- `read_to_string` on a window: every byte it holds, which must be UTF-8.
A window cut short by the end of its input is read as far as it goes. -/
def readToString : ByteM IoError String := do
  let bytes ← readToEnd
  match String.fromUTF8? ⟨bytes.toArray⟩ with
  | some text => pure text
  | none => throw (.custom .invalidData "stream did not contain valid UTF-8")

/-- A `u16` byte count, then the UTF-8 bytes. -/
instance : WireFormat String where
  byteSize text := UInt32.ofNat (2 + text.utf8ByteSize)
  encode text :=
    if text.utf8ByteSize > 65535 then
      throw (.custom .invalidInput "string is too long")
    else do
      encode (UInt16.ofNat text.utf8ByteSize)
      writeAll (utf8Bytes text)
  decode := do
    let len : UInt16 ← decode
    window len.toNat readToString

/-- `Vec<T>`: a `u16` element count, then the elements. -/
instance {α : Type} [WireFormat α] : WireFormat (List α) where
  byteSize values := 2 + (values.map byteSize).sum
  encode values :=
    if values.length > 65535 then
      throw (.custom .invalidInput "too many elements in vector")
    else do
      encode (UInt16.ofNat values.length)
      values.forM encode
  decode := do
    let len : UInt16 ← decode
    readMany decode len.toNat

end WireFormat

/-- `Data(pub Vec<u8>)`: the payload of `Twrite`, `Rread` and `Rreaddir`,
whose length travels as a `u32`. -/
structure Data where
  bytes : List UInt8
  deriving DecidableEq, Repr

/-- `MAX_DATA_LENGTH`: the longest `Data` a decoder accepts (32 MiB). -/
def MAX_DATA_LENGTH : UInt32 := 32 * 1024 * 1024

namespace WireFormat

instance : WireFormat Data where
  byteSize data := 4 + (data.bytes.map byteSize).sum
  encode data :=
    if data.bytes.length > 4294967295 then
      throw (.custom .invalidInput "data is too large")
    else do
      encode (UInt32.ofNat data.bytes.length)
      writeAll data.bytes
  decode := do
    let len : UInt32 ← decode
    if len > MAX_DATA_LENGTH then
      throw (.custom .invalidData
        ("data length (" ++ toString len ++ " bytes) is too large"))
    else
      let buf ← window len.toNat readToEnd
      if buf.length = len.toNat then
        pure ⟨buf⟩
      else
        throw (.custom .unexpectedEof
          ("unexpected end of data: want: " ++ toString len ++
            " bytes, got: " ++ toString buf.length ++ " bytes"))

end WireFormat

/-- `impl io::Read for Data`: `self.0.reader().read(buf)` reads through a new
`bytes::buf::Reader` over the whole vector on every call.  It fills the buffer
with as many bytes as fit, from the first, and the data itself is left as it
was. -/
def Data.read (count : Nat) : Proc Data IoError (List UInt8) := fun data =>
  .ok (data.bytes.take count) data

namespace WireFormat

/-- `Option<T>`: `None` is written as nothing, and decoding always reads a
`Some`. -/
instance {α : Type} [WireFormat α] : WireFormat (Option α) where
  byteSize
    | some value => byteSize value
    | none => 0
  encode
    | some value => encode value
    | none => pure ()
  decode := some <$> decode

/-- Two values one after the other: the field sequence of a derived struct. -/
instance {α β : Type} [WireFormat α] [WireFormat β] : WireFormat (α × β) where
  byteSize pair := byteSize pair.1 + byteSize pair.2
  encode pair := do
    encode pair.1
    encode pair.2
  decode := do
    let first ← decode
    let second ← decode
    pure (first, second)

/-- `#[derive(JetStreamWireFormat)]` on a struct whose fields, in declaration
order, form the tuple `β`: each field is encoded, and decoded, in turn. -/
@[reducible]
def derive {α β : Type} [WireFormat β] (fields : α → β) (build : β → α) :
    WireFormat α where
  byteSize value := byteSize (fields value)
  encode value := encode (fields value)
  decode := build <$> decode

end WireFormat

/-- `Rlerror { ecode: u32 }`, declared in `coding/messages.rs`; the error
reply of 9P2000.L. -/
structure Rlerror where
  ecode : UInt32
  deriving DecidableEq, Repr

instance : WireFormat Rlerror := WireFormat.derive Rlerror.ecode Rlerror.mk

namespace WireFormat

/-- `error_to_rmessage` of `coding/wire_format.rs`. -/
def errorToRmessage (err : IoError) : Rlerror :=
  ⟨(errorErrno err).toUInt32⟩

/-- `io::Result<T>`: `Ok(v)` is written as `v` and `Err(e)` as its
`Rlerror`; decoding first reads an `Rlerror` and decodes a `T` only when
its `ecode` is zero, failing with that OS error otherwise. -/
instance {α : Type} [WireFormat α] : WireFormat (Except IoError α) where
  byteSize
    | .ok value => byteSize value
    | .error err => byteSize (errorToRmessage err)
  encode
    | .ok value => encode value
    | .error err => encode (errorToRmessage err)
  decode := do
    let error : Rlerror ← decode
    if error.ecode = 0 then
      let value ← decode
      pure (.ok value)
    else
      throw (.os error.ecode.toInt32)

end WireFormat

end JetStream
