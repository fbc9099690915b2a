import JetStream.Coding.WireFormat

/-!
# Round trips of the generic `WireFormat` instances

`Encodes value bytes` says that `value` travels on the wire as `bytes`: its
encoder appends exactly `bytes`, its decoder reads `value` back from `bytes`
followed by anything and leaves what follows, and `byte_size` counts the
bytes modulo `2 ^ 32`.

Each generic instance gets one lemma, with the side condition the code
checks (the `u16` counts of strings and vectors) or that its decoder checks
(`MAX_DATA_LENGTH`).  `Option` is the one builder that loses information:
`None` is written as nothing and never decoded back.
-/

namespace JetStream.WireFormat

open ByteStream LittleEndian Proc

variable {α β : Type}

/-- `value` travels on the wire as `bytes`. -/
structure Encodes [WireFormat α] (value : α) (bytes : List UInt8) : Prop where
  writes : Writes (encode value) bytes
  reads : Reads (decode : ByteM IoError α) bytes value
  byteSize_eq : byteSize value = UInt32.ofNat bytes.length

/-! ## Fixed-width integers -/

theorem reads_readLe {width value : Nat} (hvalue : value < 256 ^ width) :
    Reads (readLe width) (leBytes width value) value := by
  have hexact : Reads (readExact unexpectedEof width) (leBytes width value)
      (leBytes width value) := by
    simpa only [length_leBytes] using
      reads_readExact unexpectedEof (leBytes width value)
  have hvalue' : Reads (pure (ofLeBytes (leBytes width value)) :
      ByteM IoError Nat) [] value := by
    rw [ofLeBytes_leBytes_of_lt hvalue]
    exact reads_pure value
  have hread : Reads (readLe width) (leBytes width value ++ []) value :=
    hexact.bind hvalue'
  rwa [List.append_nil] at hread

theorem encodes_uint8 (value : UInt8) : Encodes value [value] where
  writes := writes_writeAll [value]
  reads := by
    have hbound : value.toNat < 256 ^ 1 := value.toNat_lt_size
    have hread := (reads_readLe hbound).map UInt8.ofNat
    have hbytes : leBytes 1 value.toNat = [value] := by
      simp [leBytes, Nat.mod_eq_of_lt value.toNat_lt_size]
    rw [UInt8.ofNat_toNat, hbytes] at hread
    exact hread
  byteSize_eq := rfl

theorem encodes_uint16 (value : UInt16) :
    Encodes value (leBytes 2 value.toNat) where
  writes := writes_writeAll _
  reads := by
    have hbound : value.toNat < 256 ^ 2 := value.toNat_lt_size
    have hread := (reads_readLe hbound).map UInt16.ofNat
    rw [UInt16.ofNat_toNat] at hread
    exact hread
  byteSize_eq := by simp [byteSize]

theorem encodes_uint32 (value : UInt32) :
    Encodes value (leBytes 4 value.toNat) where
  writes := writes_writeAll _
  reads := by
    have hbound : value.toNat < 256 ^ 4 := value.toNat_lt_size
    have hread := (reads_readLe hbound).map UInt32.ofNat
    rw [UInt32.ofNat_toNat] at hread
    exact hread
  byteSize_eq := by simp [byteSize]

theorem encodes_uint64 (value : UInt64) :
    Encodes value (leBytes 8 value.toNat) where
  writes := writes_writeAll _
  reads := by
    have hbound : value.toNat < 256 ^ 8 := value.toNat_lt_size
    have hread := (reads_readLe hbound).map UInt64.ofNat
    rw [UInt64.ofNat_toNat] at hread
    exact hread
  byteSize_eq := by simp [byteSize]

theorem encodes_int32 (value : Int32) :
    Encodes value (leBytes 4 value.toUInt32.toNat) where
  writes := writes_writeAll _
  reads := by
    have hbound : value.toUInt32.toNat < 256 ^ 4 := value.toUInt32.toNat_lt_size
    have hread := (reads_readLe hbound).map fun bits => (UInt32.ofNat bits).toInt32
    rw [UInt32.ofNat_toNat, Int32.toInt32_toUInt32] at hread
    exact hread
  byteSize_eq := by simp [byteSize]

theorem encodes_unit : Encodes () [] where
  writes := writes_pure
  reads := reads_pure ()
  byteSize_eq := rfl

/-! ## Strings, vectors and data -/

@[simp]
theorem length_utf8Bytes (text : String) :
    (utf8Bytes text).length = text.utf8ByteSize := by
  rw [utf8Bytes, Array.length_toList, ← String.size_toByteArray]
  rfl

/-- The bytes of a string are valid UTF-8, so `read_to_string` gives the
string back. -/
theorem readToString_utf8Bytes (text : String) :
    readToString (utf8Bytes text) = .ok text [] := by
  have hvalid : String.fromUTF8? ⟨(utf8Bytes text).toArray⟩ = some text := by
    simp only [utf8Bytes, Array.toArray_toList]
    simp [String.fromUTF8?, text.isValidUTF8]
    rfl
  simp [readToString, hvalid]

/-- A `u16` count below `2 ^ 16` is written as its own little-endian bytes. -/
theorem encodes_count {count : Nat} (hcount : count ≤ 65535) :
    Encodes (UInt16.ofNat count) (leBytes 2 count) := by
  have hencodes := encodes_uint16 (UInt16.ofNat count)
  rwa [UInt16.toNat_ofNat_of_lt' (by simp [UInt16.size]; omega)] at hencodes

theorem encodes_string {text : String} (hfits : text.utf8ByteSize ≤ 65535) :
    Encodes text (leBytes 2 text.utf8ByteSize ++ utf8Bytes text) where
  writes := by
    show Writes (if text.utf8ByteSize > 65535 then
      throw (.custom .invalidInput "string is too long") else do
        encode (UInt16.ofNat text.utf8ByteSize)
        writeAll (utf8Bytes text)) _
    rw [if_neg (by omega)]
    exact (encodes_count hfits).writes.seq (writes_writeAll _)
  reads := by
    show Reads (decode >>= fun len : UInt16 => window len.toNat readToString) _ _
    refine Reads.bind (encodes_count hfits).reads ?_
    have hbody := reads_window_of_drains (readToString_utf8Bytes text)
    rwa [length_utf8Bytes, ← UInt16.toNat_ofNat_of_lt'
      (by simp [UInt16.size]; omega : text.utf8ByteSize < UInt16.size)] at hbody
  byteSize_eq := by
    show UInt32.ofNat (2 + text.utf8ByteSize) = _
    simp

/-- `byte_size` of a vector's elements sums their wire lengths, modulo
`2 ^ 32`. -/
theorem sum_byteSize [WireFormat α] {values : List α}
    {chunks : List (List UInt8)} (hitems : List.Forall₂ Encodes values chunks) :
    (values.map byteSize).sum = UInt32.ofNat chunks.flatten.length := by
  induction hitems with
  | nil => rfl
  | @cons value chunk values chunks hhead _ ih =>
      simp only [List.map_cons, List.sum_cons, ih, hhead.byteSize_eq,
        List.flatten_cons, List.length_append, UInt32.ofNat_add]

theorem encodes_list [WireFormat α] {values : List α}
    {chunks : List (List UInt8)} (hitems : List.Forall₂ Encodes values chunks)
    (hlength : values.length ≤ 65535) :
    Encodes values (leBytes 2 values.length ++ chunks.flatten) where
  writes := by
    show Writes (if values.length > 65535 then
      throw (.custom .invalidInput "too many elements in vector") else do
        encode (UInt16.ofNat values.length)
        values.forM encode) _
    rw [if_neg (by omega)]
    exact (encodes_count hlength).writes.seq
      (writes_forM (hitems.imp fun _ _ hvalue => hvalue.writes))
  reads := by
    show Reads (decode >>= fun len : UInt16 => readMany decode len.toNat) _ _
    refine Reads.bind (encodes_count hlength).reads ?_
    have hreads : List.Forall₂ (Reads decode) chunks values :=
      List.Forall₂.flip (hitems.imp fun _ _ hvalue => hvalue.reads)
    rw [UInt16.toNat_ofNat_of_lt' (by simp [UInt16.size]; omega)]
    exact reads_readMany hreads
  byteSize_eq := by
    show 2 + (values.map byteSize).sum = _
    simp [sum_byteSize hitems]

theorem sum_byteSize_bytes (bytes : List UInt8) :
    (bytes.map byteSize).sum = UInt32.ofNat bytes.length := by
  induction bytes with
  | nil => rfl
  | cons byte bytes ih =>
      have hone : byteSize byte = UInt32.ofNat 1 := rfl
      simp only [List.map_cons, List.sum_cons, ih, List.length_cons,
        UInt32.ofNat_add]
      rw [hone, UInt32.add_comm]

/-- `Data::encode` writes every payload a `u32` counts, longer than
`MAX_DATA_LENGTH` or not. -/
theorem writes_data {data : Data} (hbound : data.bytes.length < 2 ^ 32) :
    Writes (encode data) (leBytes 4 data.bytes.length ++ data.bytes) := by
  have hlength : (UInt32.ofNat data.bytes.length).toNat = data.bytes.length :=
    UInt32.toNat_ofNat_of_lt' hbound
  have hcount := encodes_uint32 (UInt32.ofNat data.bytes.length)
  rw [hlength] at hcount
  show Writes (if data.bytes.length > 4294967295 then
    throw (.custom .invalidInput "data is too large") else do
      encode (UInt32.ofNat data.bytes.length)
      writeAll data.bytes) _
  rw [if_neg (by omega)]
  exact hcount.writes.seq (writes_writeAll _)

theorem encodes_data {data : Data}
    (hfits : data.bytes.length ≤ MAX_DATA_LENGTH.toNat) :
    Encodes data (leBytes 4 data.bytes.length ++ data.bytes) := by
  have hmax : MAX_DATA_LENGTH.toNat = 33554432 := rfl
  have hlt : data.bytes.length < UInt32.size := by
    simp only [UInt32.size]
    omega
  have hlength : (UInt32.ofNat data.bytes.length).toNat = data.bytes.length :=
    UInt32.toNat_ofNat_of_lt' hlt
  have hcount := encodes_uint32 (UInt32.ofNat data.bytes.length)
  rw [hlength] at hcount
  refine ⟨writes_data hlt, ?_, ?_⟩
  · refine Reads.bind hcount.reads ?_
    have hsmall : ¬ UInt32.ofNat data.bytes.length > MAX_DATA_LENGTH := by
      rw [gt_iff_lt, UInt32.lt_iff_toNat_lt, hlength]
      omega
    simp only [hsmall, if_false, hlength]
    refine Reads.bind_last (reads_window_of_drains (readToEnd_apply _)) ?_
    simpa only [if_true] using reads_pure data
  · show 4 + (data.bytes.map byteSize).sum = _
    simp [sum_byteSize_bytes]

/-- `Data::decode` refuses a length past `MAX_DATA_LENGTH` as soon as it has
read it, and leaves the payload unread. -/
theorem refuses_data_too_large {len : UInt32} (hlong : MAX_DATA_LENGTH < len) :
    Refuses (decode : ByteM IoError Data) (leBytes 4 len.toNat)
      (.custom .invalidData ("data length (" ++ toString len ++ " bytes) is too large")) := by
  intro rest
  show ((decode : ByteM IoError UInt32) >>= fun len => _) _ = _
  simp only [bind_apply, (encodes_uint32 len).reads rest, gt_iff_lt, if_pos hlong]
  rfl

/-! ## Options, field sequences and derived structs -/

theorem encodes_some [WireFormat α] {value : α} {bytes : List UInt8}
    (hvalue : Encodes value bytes) : Encodes (some value) bytes where
  writes := hvalue.writes
  reads := hvalue.reads.map some
  byteSize_eq := hvalue.byteSize_eq

/-- `None` never travels: it is written as nothing, and the decoder of an
`Option` only ever produces a `Some` or an error. -/
theorem not_encodes_none [WireFormat α] (bytes : List UInt8) :
    ¬ Encodes (none : Option α) bytes := by
  intro hnone
  have hempty : bytes = [] := by
    have hwrite := hnone.writes []
    simp only [List.nil_append] at hwrite
    exact (EStateM.Result.ok.inj hwrite).2.symm
  subst hempty
  have hread : (some <$> (decode : ByteM IoError α)) [] = .ok none [] :=
    hnone.reads []
  rw [map_apply] at hread
  cases hdecode : (decode : ByteM IoError α) [] with
  | ok value rest =>
      rw [hdecode] at hread
      cases (EStateM.Result.ok.inj hread).1
  | error error rest =>
      rw [hdecode] at hread
      cases hread

theorem Encodes.pair [WireFormat α] [WireFormat β] {first : α} {second : β}
    {firstBytes secondBytes : List UInt8} (hfirst : Encodes first firstBytes)
    (hsecond : Encodes second secondBytes) :
    Encodes (first, second) (firstBytes ++ secondBytes) where
  writes := hfirst.writes.seq hsecond.writes
  reads := by
    refine Reads.bind hfirst.reads ?_
    exact Reads.bind_last hsecond.reads (reads_pure (first, second))
  byteSize_eq := by
    show byteSize first + byteSize second = _
    rw [hfirst.byteSize_eq, hsecond.byteSize_eq, List.length_append,
      UInt32.ofNat_add]

/-- A derived struct travels as the sequence of its fields. -/
theorem encodes_derive [WireFormat β] {fields : α → β} {build : β → α}
    {value : α} {bytes : List UInt8} (hbuild : build (fields value) = value)
    (hfields : Encodes (fields value) bytes) :
    @Encodes α (derive fields build) value bytes := by
  have hread := hfields.reads.map build
  rw [hbuild] at hread
  exact @Encodes.mk α (derive fields build) value bytes hfields.writes hread
    hfields.byteSize_eq

/-! ## What the decoders accept

The converse direction, over every input and not only over encoder output:
each decoder takes bytes only from the front, and a value it accepts is
within the length limits and took exactly as many bytes as its own image.
A string cut short by an enclosing window is accepted, but as the shorter
string, so it too took as many bytes as it has. -/

theorem readLe_eq_ok {width value : Nat} {input rest : List UInt8}
    (h : readLe width input = .ok value rest) :
    width ≤ input.length ∧ value = ofLeBytes (input.take width) ∧
      rest = input.drop width := by
  obtain ⟨bytes, mid, hread, h⟩ := Proc.bind_eq_ok h
  cases h
  obtain ⟨hwidth, rfl, rfl⟩ := readExact_eq_ok hread
  exact ⟨hwidth, rfl, rfl⟩

theorem fromFront_readLe (width : Nat) : FromFront (readLe width) :=
  (fromFront_readExact unexpectedEof width).bind fun _ => fromFront_pure _

/-- A fixed-width decoder accepts every value, for `width` bytes. -/
theorem sound_readLe {γ : Type} (f : Nat → γ) (width : Nat)
    (image : γ → List UInt8) (himage : ∀ value, (image value).length = width) :
    Sound (f <$> readLe width) (fun _ => True) image := by
  intro input value rest h
  obtain ⟨bits, hbits, rfl⟩ := Proc.map_eq_ok h
  obtain ⟨hwidth, -, rfl⟩ := readLe_eq_ok hbits
  refine ⟨trivial, ?_⟩
  rw [himage, List.length_drop]
  omega

theorem sound_uint8 :
    Sound (decode : ByteM IoError UInt8) (fun _ => True) (fun value => [value]) :=
  sound_readLe _ 1 _ fun _ => rfl

theorem sound_uint16 :
    Sound (decode : ByteM IoError UInt16) (fun _ => True)
      (fun value => leBytes 2 value.toNat) :=
  sound_readLe _ 2 _ fun _ => length_leBytes _ _

theorem sound_uint32 :
    Sound (decode : ByteM IoError UInt32) (fun _ => True)
      (fun value => leBytes 4 value.toNat) :=
  sound_readLe _ 4 _ fun _ => length_leBytes _ _

/-- A `u32` decoded from any input is the number its first four bytes
spell. -/
theorem decode_uint32_eq_ok {input rest : List UInt8} {value : UInt32}
    (h : (decode : ByteM IoError UInt32) input = .ok value rest) :
    4 ≤ input.length ∧ value.toNat = ofLeBytes (input.take 4) ∧
      rest = input.drop 4 := by
  obtain ⟨bits, hbits, rfl⟩ := Proc.map_eq_ok h
  obtain ⟨hwidth, rfl, rfl⟩ := readLe_eq_ok hbits
  have hlt : ofLeBytes (input.take 4) < UInt32.size := by
    have hbound := ofLeBytes_lt (input.take 4)
    rw [List.length_take_of_le hwidth] at hbound
    exact hbound
  exact ⟨hwidth, UInt32.toNat_ofNat_of_lt' hlt, rfl⟩

/-- `read_to_string` accepts exactly the UTF-8 byte strings, each as the
string of those bytes. -/
theorem readToString_eq_ok {bytes rest : List UInt8} {text : String}
    (h : readToString bytes = .ok text rest) :
    rest = [] ∧ text.utf8ByteSize = bytes.length := by
  obtain ⟨all, mid, hall, h⟩ := Proc.bind_eq_ok h
  rw [readToEnd_apply] at hall
  cases hall
  cases hdecoded : String.fromUTF8? ⟨bytes.toArray⟩ with
  | none =>
      rw [hdecoded] at h
      cases h
  | some decoded =>
      rw [hdecoded] at h
      cases h
      have hbytes : text.toByteArray = ⟨bytes.toArray⟩ := by
        unfold String.fromUTF8? at hdecoded
        split at hdecoded
        · cases hdecoded
          rfl
        · cases hdecoded
      refine ⟨rfl, ?_⟩
      rw [← String.size_toByteArray, hbytes]
      exact List.size_toArray

theorem fromFront_readToString : FromFront readToString := by
  intro input
  simp only [readToString, bind_apply, readToEnd_apply]
  cases String.fromUTF8? ⟨input.toArray⟩ <;> exact List.nil_suffix

theorem sound_string :
    Sound (decode : ByteM IoError String)
      (fun text => text.utf8ByteSize ≤ 65535)
      (fun text => leBytes 2 text.utf8ByteSize ++ utf8Bytes text) := by
  intro input text rest h
  obtain ⟨len, mid, hlen, h⟩ := Proc.bind_eq_ok h
  obtain ⟨inner, hinner, rfl⟩ := window_eq_ok h
  obtain ⟨rfl, hsize⟩ := readToString_eq_ok hinner
  have hcount : input.length = 2 + mid.length := by
    simpa only [length_leBytes] using (sound_uint16 input len mid hlen).2
  have hbound : len.toNat < 65536 := len.toNat_lt_size
  rw [List.length_take] at hsize
  refine ⟨by omega, ?_⟩
  simp only [List.length_append, length_leBytes, length_utf8Bytes,
    List.nil_append, List.length_drop]
  omega

theorem sound_data :
    Sound (decode : ByteM IoError Data)
      (fun data => data.bytes.length ≤ MAX_DATA_LENGTH.toNat)
      (fun data => leBytes 4 data.bytes.length ++ data.bytes) := by
  intro input data rest h
  obtain ⟨len, mid, hlen, h⟩ := Proc.bind_eq_ok h
  have hcount : input.length = 4 + mid.length := by
    simpa only [length_leBytes] using (sound_uint32 input len mid hlen).2
  split at h
  · cases h
  · rename_i hsmall
    obtain ⟨buf, last, hwindow, h⟩ := Proc.bind_eq_ok h
    obtain ⟨inner, hinner, rfl⟩ := window_eq_ok hwindow
    rw [readToEnd_apply] at hinner
    cases hinner
    split at h
    · rename_i hfull
      cases h
      have hmax : len.toNat ≤ MAX_DATA_LENGTH.toNat := by
        rw [gt_iff_lt, UInt32.lt_iff_toNat_lt] at hsmall
        omega
      simp only [List.length_append, length_leBytes, List.nil_append,
        List.length_drop, List.length_take] at hfull ⊢
      exact ⟨by omega, by omega⟩
    · cases h

/-- A vector decoder accepts its elements' images one after the other, and
at most `65535` of them. -/
theorem Sound.list {element : ByteM IoError α} {fits : α → Prop}
    {image : α → List UInt8} (helement : Sound element fits image) :
    Sound (do
        let len : UInt16 ← decode
        ByteStream.readMany element len.toNat)
      (fun values => values.length ≤ 65535 ∧ ∀ value ∈ values, fits value)
      (fun values => leBytes 2 values.length ++ (values.map image).flatten) := by
  intro input values rest h
  obtain ⟨len, mid, hlen, h⟩ := Proc.bind_eq_ok h
  obtain ⟨⟨hcount, hfits⟩, hlengths⟩ := helement.readMany len.toNat mid values rest h
  have hprefix : input.length = 2 + mid.length := by
    simpa only [length_leBytes] using (sound_uint16 input len mid hlen).2
  have hbound : len.toNat < 65536 := len.toNat_lt_size
  refine ⟨⟨by omega, hfits⟩, ?_⟩
  simp only [List.length_append, length_leBytes] at hlengths ⊢
  omega

/-! ## Lawful codecs -/

/-- A codec all of whose values inside the length limits travel on the wire,
each as its `wire` image, and whose decoder, on any input, takes bytes only
from the front and accepts only such values, each for as many bytes as its
image has. -/
class Lawful (α : Type) [WireFormat α] where
  /-- Every string, vector and data payload inside the value is within its
  length limit (and every option is present). -/
  Fits : α → Prop
  /-- The bytes the value travels as. -/
  wire : α → List UInt8
  encodes : ∀ value, Fits value → Encodes value (wire value)
  fromFront : FromFront (decode : ByteM IoError α)
  sound : Sound (decode : ByteM IoError α) Fits wire

export Lawful (Fits wire)

instance : Lawful UInt8 where
  Fits _ := True
  wire value := [value]
  encodes value _ := encodes_uint8 value
  fromFront := (fromFront_readLe 1).map _
  sound := sound_uint8

instance : Lawful UInt16 where
  Fits _ := True
  wire value := leBytes 2 value.toNat
  encodes value _ := encodes_uint16 value
  fromFront := (fromFront_readLe 2).map _
  sound := sound_uint16

instance : Lawful UInt32 where
  Fits _ := True
  wire value := leBytes 4 value.toNat
  encodes value _ := encodes_uint32 value
  fromFront := (fromFront_readLe 4).map _
  sound := sound_uint32

instance : Lawful UInt64 where
  Fits _ := True
  wire value := leBytes 8 value.toNat
  encodes value _ := encodes_uint64 value
  fromFront := (fromFront_readLe 8).map _
  sound := sound_readLe _ 8 _ fun _ => length_leBytes _ _

instance : Lawful Int32 where
  Fits _ := True
  wire value := leBytes 4 value.toUInt32.toNat
  encodes value _ := encodes_int32 value
  fromFront := (fromFront_readLe 4).map _
  sound := sound_readLe _ 4 _ fun _ => length_leBytes _ _

instance : Lawful Unit where
  Fits _ := True
  wire _ := []
  encodes _ _ := encodes_unit
  fromFront := fromFront_pure ()
  sound := sound_pure trivial rfl

instance : Lawful String where
  Fits text := text.utf8ByteSize ≤ 65535
  wire text := leBytes 2 text.utf8ByteSize ++ utf8Bytes text
  encodes _ hfits := encodes_string hfits
  fromFront := ((fromFront_readLe 2).map _).bind fun _ =>
    fromFront_readToString.window _
  sound := sound_string

instance : Lawful Data where
  Fits data := data.bytes.length ≤ MAX_DATA_LENGTH.toNat
  wire data := leBytes 4 data.bytes.length ++ data.bytes
  encodes _ hfits := encodes_data hfits
  fromFront := by
    refine ((fromFront_readLe 4).map _).bind fun len => ?_
    split
    · exact fromFront_throw _
    · refine (fromFront_readToEnd.window _).bind fun buf => ?_
      split
      · exact fromFront_pure _
      · exact fromFront_throw _
  sound := sound_data

theorem forall₂_encodes_wire [WireFormat α] [Lawful α] {values : List α}
    (hfits : ∀ value ∈ values, Fits value) :
    List.Forall₂ Encodes values (values.map wire) := by
  induction values with
  | nil => exact List.Forall₂.nil
  | cons value values ih =>
      refine List.Forall₂.cons (Lawful.encodes value (hfits value (by simp))) ?_
      exact ih fun other hother => hfits other (by simp [hother])

instance [WireFormat α] [Lawful α] : Lawful (List α) where
  Fits values := values.length ≤ 65535 ∧ ∀ value ∈ values, Fits value
  wire values := leBytes 2 values.length ++ (values.map wire).flatten
  encodes _ hfits := encodes_list (forall₂_encodes_wire hfits.2) hfits.1
  fromFront := ((fromFront_readLe 2).map _).bind fun _ =>
    fromFront_readMany Lawful.fromFront _
  sound := Sound.list Lawful.sound

instance [WireFormat α] [Lawful α] : Lawful (Option α) where
  Fits option := ∃ value, option = some value ∧ Fits value
  wire
    | some value => wire value
    | none => []
  encodes := by
    rintro _ ⟨value, rfl, hfits⟩
    exact encodes_some (Lawful.encodes value hfits)
  fromFront := Lawful.fromFront.map some
  sound := Lawful.sound.map some (fun value hfits => ⟨value, rfl, hfits⟩)
    fun _ => rfl

instance [WireFormat α] [WireFormat β] [Lawful α] [Lawful β] :
    Lawful (α × β) where
  Fits pair := Fits pair.1 ∧ Fits pair.2
  wire pair := wire pair.1 ++ wire pair.2
  encodes pair hfits :=
    (Lawful.encodes pair.1 hfits.1).pair (Lawful.encodes pair.2 hfits.2)
  fromFront := Lawful.fromFront.bind fun first =>
    Lawful.fromFront.bind fun second => fromFront_pure (first, second)
  sound := Lawful.sound.pair Lawful.sound

/-- The laws of a derived struct, from those of its field sequence; `build`
and `fields` are inverse to each other, as a struct and the tuple of its
fields are. -/
@[reducible]
def Lawful.derive [WireFormat β] [Lawful β] (fields : α → β) (build : β → α)
    (hbuild : ∀ value, build (fields value) = value)
    (hfields : ∀ tuple, fields (build tuple) = tuple) :
    @Lawful α (WireFormat.derive fields build) :=
  @Lawful.mk α (WireFormat.derive fields build) (fun value => Fits (fields value))
    (fun value => wire (fields value))
    (fun value hfits => encodes_derive (hbuild value) (Lawful.encodes _ hfits))
    (Lawful.fromFront.map build)
    (Lawful.sound.map build (fun tuple hfits => by rwa [hfields])
      fun tuple => by rw [hfields])

instance : Lawful Rlerror := .derive _ _ (fun _ => rfl) fun _ => rfl

/-! ## Encoders only append

An encoder checks the length of a string, a vector or a payload only when it
comes to that field, after the fields before it are written.  What holds of
every value, within the limits or not, is that an encoder only appends to its
buffer, so that on failure the buffer holds whatever was written before the
field that failed. -/

/-- A codec whose encoder only appends to its buffer, whether it succeeds or
fails. -/
class Appends (α : Type) [WireFormat α] : Prop where
  keeps : ∀ value : α, Keeps (· <+: ·) (encode value)

instance : Appends UInt8 := ⟨fun _ => keeps_writeAll _⟩
instance : Appends UInt16 := ⟨fun _ => keeps_writeAll _⟩
instance : Appends UInt32 := ⟨fun _ => keeps_writeAll _⟩
instance : Appends UInt64 := ⟨fun _ => keeps_writeAll _⟩
instance : Appends Int32 := ⟨fun _ => keeps_writeAll _⟩
instance : Appends Unit := ⟨fun _ => keeps_pure ()⟩

instance : Appends String :=
  ⟨fun _ => Keeps.ite (keeps_throw _) ((Appends.keeps _).bind fun _ => keeps_writeAll _)⟩

instance [WireFormat α] [Appends α] : Appends (List α) :=
  ⟨fun values => Keeps.ite (keeps_throw _)
    ((Appends.keeps _).bind fun _ => keeps_forM Appends.keeps values)⟩

instance : Appends Data :=
  ⟨fun _ => Keeps.ite (keeps_throw _) ((Appends.keeps _).bind fun _ => keeps_writeAll _)⟩

instance [WireFormat α] [Appends α] : Appends (Option α) := by
  refine ⟨fun option => ?_⟩
  cases option with
  | some value => exact Appends.keeps value
  | none => exact keeps_pure ()

instance [WireFormat α] [WireFormat β] [Appends α] [Appends β] : Appends (α × β) :=
  ⟨fun pair => (Appends.keeps pair.1).bind fun _ => Appends.keeps pair.2⟩

/-- A derived struct's encoder is its field sequence's. -/
theorem Appends.derive [WireFormat β] [Appends β] {fields : α → β} {build : β → α} :
    @Appends α (WireFormat.derive fields build) :=
  @Appends.mk α (WireFormat.derive fields build) fun value => Appends.keeps (fields value)

instance : Appends Rlerror := .derive

end JetStream.WireFormat

namespace JetStream

open ByteStream Proc

/-! ## A `Data` read as a byte stream

`io::Read` asks that each `read` return the bytes after those already
returned, and `read_to_end` relies on it to reach the end.  `Data::read`
reads through a fresh reader over the whole vector each time, so every read
starts again at the first byte. -/

/-- Reads of a `Data` in turn, into buffers of `counts` bytes, each return the
data's first bytes. -/
theorem Data.mapM_read (data : Data) (counts : List Nat) :
    counts.mapM Data.read data = .ok (counts.map data.bytes.take) data := by
  induction counts with
  | nil => rfl
  | cons count counts ih =>
      rw [List.mapM_cons, bind_apply]
      show (counts.mapM Data.read >>= fun rest => pure (data.bytes.take count :: rest)) data = _
      rw [bind_apply, ih]
      rfl

/-- Every sequence of reads of a `Data` starts each read at its first byte,
and `read_to_end` on a `Data` with a byte in it, whatever room it gives each
read, reads on for as long as it is let. -/
theorem data_reads_restart (data : Data) :
    (∀ counts : List Nat, counts.mapM Data.read data = .ok (counts.map data.bytes.take) data) ∧
      (data.bytes ≠ [] → ∀ room : List UInt8 → Nat, (∀ buf, 0 < room buf) →
        ∀ fuel buf, readToEndWith Data.read room fuel buf data = .ok none data) := by
  refine ⟨Data.mapM_read data, fun hdata room hroom => ?_⟩
  apply readToEndWith_eq_none hroom
  intro count hcount
  refine ⟨data.bytes.take count, ?_, rfl⟩
  rw [Ne, List.take_eq_nil_iff, not_or]
  exact ⟨Nat.pos_iff_ne_zero.mp hcount, hdata⟩

/-- The eight bytes of `test_io_read_for_data`: two reads into eight-byte
buffers return the same eight bytes, and `read_to_end` reading eight bytes at
a time has not come to an end after three reads. -/
theorem test_data_read_twice :
    [8, 8].mapM Data.read ⟨[0x8b, 0xad, 0xf0, 0x0d, 0x0d, 0xf0, 0xad, 0x8b]⟩ =
        .ok [[0x8b, 0xad, 0xf0, 0x0d, 0x0d, 0xf0, 0xad, 0x8b],
          [0x8b, 0xad, 0xf0, 0x0d, 0x0d, 0xf0, 0xad, 0x8b]]
          ⟨[0x8b, 0xad, 0xf0, 0x0d, 0x0d, 0xf0, 0xad, 0x8b]⟩ ∧
      readToEndWith Data.read (fun _ => 8) 3 []
          ⟨[0x8b, 0xad, 0xf0, 0x0d, 0x0d, 0xf0, 0xad, 0x8b]⟩ =
        .ok none ⟨[0x8b, 0xad, 0xf0, 0x0d, 0x0d, 0xf0, 0xad, 0x8b]⟩ :=
  ⟨(data_reads_restart _).1 [8, 8],
    (data_reads_restart _).2 (by decide) _ (fun _ => by decide) 3 []⟩

end JetStream
