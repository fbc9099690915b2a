import JetStream.Coding.WireFormatLaws

/-!
# The types the generic instances build

`coding/wire_format.rs` gives `WireFormat` to the fixed-width integers, `()`,
`String` and `Data`, and to `Vec<T>`, `Option<T>` and `io::Result<T>` of any
`T` that has it; a struct deriving `JetStreamWireFormat` travels as the
sequence of its fields.  `WireType` names the types built without
`io::Result`, and `denote` gives the Lean type of each, whose codec is the one
instance resolution assembles from the generic instances.

Every such value within the length limits, and with every option present,
travels as its `wire` image.  An absent option and an `io::Result` do not: an
option is decoded as present whatever the bytes, and `Ok(v)` is written as
`v` but decoded after an `Rlerror` code, so that only an error comes back,
as the decoder's own error.
-/

namespace JetStream

open ByteStream LittleEndian WireFormat

/-- The types built from the wire primitives by vectors, options and field
sequences. -/
inductive WireType
  | u8
  | u16
  | u32
  | u64
  | i32
  | unit
  | string
  | data
  | vec (element : WireType)
  | option (inner : WireType)
  | pair (first second : WireType)
  deriving DecidableEq, Repr

namespace WireType

@[reducible]
def denote : WireType → Type
  | u8 => UInt8
  | u16 => UInt16
  | u32 => UInt32
  | u64 => UInt64
  | i32 => Int32
  | unit => Unit
  | string => String
  | data => Data
  | vec element => List element.denote
  | option inner => Option inner.denote
  | pair first second => first.denote × second.denote

instance codec : (type : WireType) → WireFormat type.denote
  | u8 => inferInstanceAs (WireFormat UInt8)
  | u16 => inferInstanceAs (WireFormat UInt16)
  | u32 => inferInstanceAs (WireFormat UInt32)
  | u64 => inferInstanceAs (WireFormat UInt64)
  | i32 => inferInstanceAs (WireFormat Int32)
  | unit => inferInstanceAs (WireFormat Unit)
  | string => inferInstanceAs (WireFormat String)
  | data => inferInstanceAs (WireFormat Data)
  | vec element =>
      have := codec element
      inferInstanceAs (WireFormat (List element.denote))
  | option inner =>
      have := codec inner
      inferInstanceAs (WireFormat (Option inner.denote))
  | pair first second =>
      have := codec first
      have := codec second
      inferInstanceAs (WireFormat (first.denote × second.denote))

/-- Every string and vector has at most `65535` bytes or elements, every data
payload at most `MAX_DATA_LENGTH` bytes, and every option is present. -/
def Fits : (type : WireType) → type.denote → Prop
  | u8, _ => True
  | u16, _ => True
  | u32, _ => True
  | u64, _ => True
  | i32, _ => True
  | unit, _ => True
  | string, text => text.utf8ByteSize ≤ 65535
  | data, payload => payload.bytes.length ≤ MAX_DATA_LENGTH.toNat
  | vec element, values =>
      values.length ≤ 65535 ∧ ∀ value ∈ values, element.Fits value
  | option inner, present => ∃ value, present = some value ∧ inner.Fits value
  | pair first second, value => first.Fits value.1 ∧ second.Fits value.2

/-- The bytes a value travels as. -/
def wire : (type : WireType) → type.denote → List UInt8
  | u8, value => [value]
  | u16, value => leBytes 2 value.toNat
  | u32, value => leBytes 4 value.toNat
  | u64, value => leBytes 8 value.toNat
  | i32, value => leBytes 4 value.toUInt32.toNat
  | unit, _ => []
  | string, text => leBytes 2 text.utf8ByteSize ++ utf8Bytes text
  | data, payload => leBytes 4 payload.bytes.length ++ payload.bytes
  | vec element, values =>
      leBytes 2 values.length ++ (values.map element.wire).flatten
  | option inner, some value => inner.wire value
  | option _, none => []
  | pair first second, value => first.wire value.1 ++ second.wire value.2

/-- Each value within the limits travels as its image; the induction follows
the type, and each case is the round trip of one generic instance. -/
theorem encodes : ∀ (type : WireType) (value : type.denote), type.Fits value →
    Encodes value (type.wire value)
  | u8, value, _ => encodes_uint8 value
  | u16, value, _ => encodes_uint16 value
  | u32, value, _ => encodes_uint32 value
  | u64, value, _ => encodes_uint64 value
  | i32, value, _ => encodes_int32 value
  | unit, (), _ => encodes_unit
  | string, _, hfits => encodes_string hfits
  | data, _, hfits => encodes_data hfits
  | vec element, values, ⟨hlength, hfits⟩ => by
      have hitems : List.Forall₂ Encodes values (values.map element.wire) := by
        rw [List.forall₂_map_right_iff, List.forall₂_same]
        intro value hvalue
        exact encodes element value (hfits value hvalue)
      exact encodes_list hitems hlength
  | option inner, _, ⟨value, rfl, hfits⟩ => encodes_some (encodes inner value hfits)
  | pair first second, value, ⟨hfirst, hsecond⟩ =>
      (encodes first value.1 hfirst).pair (encodes second value.2 hsecond)

end WireType

/-- An error travels as its `Rlerror` and comes back as the decoder's own
error, carrying the same `errno`, provided that `errno` is not zero. -/
theorem decode_error_reply {α : Type} [WireFormat α] {err : IoError}
    (herrno : errorErrno err ≠ 0) (output rest : List UInt8) :
    ∃ bytes, encode (.error err : Except IoError α) output = .ok () (output ++ bytes) ∧
      (decode : ByteM IoError (Except IoError α)) (bytes ++ rest) =
        .error (.os (errorErrno err)) rest := by
  have hcode := encodes_uint32 (errorErrno err).toUInt32
  refine ⟨_, hcode.writes output, ?_⟩
  have hnonzero : (errorErrno err).toUInt32 ≠ 0 := by
    intro hzero
    apply herrno
    rw [← Int32.toInt32_toUInt32 (errorErrno err), hzero]
    rfl
  have hread : (decode : ByteM IoError Rlerror)
      (leBytes 4 (errorErrno err).toUInt32.toNat ++ rest) =
        .ok ⟨(errorErrno err).toUInt32⟩ rest :=
    (Lawful.encodes (⟨(errorErrno err).toUInt32⟩ : Rlerror) trivial).reads rest
  -- the decoder of an `io::Result` reads the error code first
  have hdecode :
      (decode : ByteM IoError (Except IoError α))
          (leBytes 4 (errorErrno err).toUInt32.toNat ++ rest) =
        ((decode : ByteM IoError Rlerror) >>= fun error =>
          if error.ecode = 0 then Except.ok <$> decode
          else throw (IoError.os error.ecode.toInt32))
          (leBytes 4 (errorErrno err).toUInt32.toNat ++ rest) := rfl
  rw [hdecode, Proc.bind_apply, hread]
  simp only [hnonzero, if_false, Proc.throw_apply, Int32.toInt32_toUInt32]

/-- Values of the types built from the primitives, vectors, options and
field sequences, within the length limits and with every option present,
travel: the encoder writes their image, the decoder reads them back from it
whatever follows, and `byte_size` counts it.  So do derived structs over such
field sequences.  Of an `io::Result`, only an error with a nonzero `errno`
comes back, as the decoder's own error. -/
theorem wire_types_round_trip :
    (∀ (type : WireType) (value : type.denote), type.Fits value →
      Writes (encode value) (type.wire value) ∧
        Reads (decode : ByteM IoError type.denote) (type.wire value) value ∧
        byteSize value = UInt32.ofNat (type.wire value).length) ∧
    (∀ (type : WireType) {α : Type} (fields : α → type.denote)
      (build : type.denote → α), (∀ value, build (fields value) = value) →
      ∀ value, type.Fits (fields value) →
        Writes (@encode α (derive fields build) value) (type.wire (fields value)) ∧
          Reads (@decode α (derive fields build)) (type.wire (fields value)) value ∧
          @byteSize α (derive fields build) value =
            UInt32.ofNat (type.wire (fields value)).length) ∧
    (∀ (type : WireType) (err : IoError), errorErrno err ≠ 0 →
      ∀ output rest, ∃ bytes,
        encode (.error err : Except IoError type.denote) output =
            .ok () (output ++ bytes) ∧
          (decode : ByteM IoError (Except IoError type.denote)) (bytes ++ rest) =
            .error (.os (errorErrno err)) rest) := by
  refine ⟨?_, ?_, ?_⟩
  · intro type value hfits
    obtain ⟨hwrites, hreads, hsize⟩ := WireType.encodes type value hfits
    exact ⟨hwrites, hreads, hsize⟩
  · intro type α fields build hbuild value hfits
    obtain ⟨hwrites, hreads, hsize⟩ :=
      encodes_derive (hbuild value) (WireType.encodes type (fields value) hfits)
    exact ⟨hwrites, hreads, hsize⟩
  · intro type err herrno output rest
    exact decode_error_reply herrno output rest

/-- `io::Result` writes `Ok(v)` as the bare image of `v`, with no error code
before it, while its decoder first reads an error code and decodes a value only
after a zero one. So `Ok` of a nonzero `u32` reads back as that number taken as
an error code, and `Ok(0)` makes the decoder read a second `u32`. Likewise
`Option` writes `None` as nothing, and no bytes read back as it. -/
theorem ok_result_reads_as_error_code :
    (∀ (type : WireType) (value : type.denote), type.Fits value →
      Writes (encode (.ok value : Except IoError type.denote)) (type.wire value)) ∧
    (∀ (value : UInt32) (rest : List UInt8), value ≠ 0 →
      (decode : ByteM IoError (Except IoError UInt32)) (WireType.wire .u32 value ++ rest) =
        .error (.os value.toInt32) rest) ∧
    ∀ (type : WireType) (bytes : List UInt8), ¬ Encodes (none : Option type.denote) bytes := by
  refine ⟨fun type value hfits => (WireType.encodes type value hfits).writes, ?_,
    fun _ bytes => not_encodes_none bytes⟩
  intro value rest hvalue
  have hecode : (decode : ByteM IoError Rlerror) (WireType.wire .u32 value ++ rest) =
      .ok ⟨value⟩ rest := ((encodes_uint32 value).reads.map Rlerror.mk) rest
  simp only [decode, Proc.bind_apply] at hecode ⊢
  rw [hecode]
  simp [hvalue]

/-- `Ok(5)` of a `u32` is written as the bytes of `5`, which its decoder reads
as the error code `5`. -/
theorem ok_five_reads_as_error_code :
    (5 : UInt32) ≠ 0 ∧
      (decode : ByteM IoError (Except IoError UInt32)) (WireType.wire .u32 5 ++ []) =
        .error (.os (5 : UInt32).toInt32) [] :=
  ⟨by decide, ok_result_reads_as_error_code.2.1 5 [] (by decide)⟩

end JetStream
