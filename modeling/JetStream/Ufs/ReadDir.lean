import JetStream.Ufs.Kernel

/-!
# The `getdents64` buffer of `read_dir`

`ufs/read_dir.rs` lists a directory through `getdents64`, 256 bytes at a
time.  `ReadDir::next` takes one record at a time off the front of what the
kernel last wrote: a packed 19-byte `linux_dirent64` header (`d_ino`, `d_off`,
`d_reclen`, `d_type`), then `d_reclen - 19` bytes holding the name, its NUL and
padding.  Once it has read to the end of the buffer it calls `getdents64`
again, and a call that writes nothing ends the listing.

The source trusts the kernel and checks its records only with debug
assertions.  The panics a release build can still reach (a header cut short,
a record longer than the bytes left, a name without its NUL) are `Panic`s
here.  `DirRecord` is a record as the kernel lays it out, and `Serves` a
`getdents64` that hands out whole records batch by batch;
`nexts_of_serves` says that successive calls of `next` then yield exactly
those records, in order, and `None` where the kernel wrote nothing.
-/

namespace JetStream

open LittleEndian Proc

variable {σ File : Type}

/-- The two system calls `read_dir` makes on a directory. -/
structure DirCalls (σ File : Type) where
  /-- `lseek64(fd, offset, SEEK_SET)`. -/
  lseek64 : File → Int64 → Proc σ Int32 Unit
  /-- `getdents64(fd, buf, count)`: the bytes it writes to the front of `buf`,
  at most `count` of them, and as many as it returns. -/
  getdents64 : File → Nat → Proc σ Int32 (List UInt8)

/-- `struct LinuxDirent64`, `#[repr(C, packed)]`. -/
structure LinuxDirent64 where
  dIno : UInt64
  dOff : Int64
  dReclen : UInt16
  dTy : UInt8
  deriving DecidableEq, Repr

namespace LinuxDirent64

/-- `size_of::<LinuxDirent64>()`: the four fields packed with no padding. -/
def size : Nat := 19

/-- `LinuxDirent64::from_slice`: the header in a slice of exactly its size.
The struct is packed, so `align_to` always finds it whole; its fields are
read little-endian, as on the machines the server runs on. -/
def fromSlice (data : List UInt8) : Option LinuxDirent64 :=
  if data.length ≠ size then none
  else
    some
      { dIno := UInt64.ofNat (ofLeBytes (data.take 8))
        dOff := (UInt64.ofNat (ofLeBytes ((data.drop 8).take 8))).toInt64
        dReclen := UInt16.ofNat (ofLeBytes ((data.drop 16).take 2))
        dTy := UInt8.ofNat (ofLeBytes ((data.drop 18).take 1)) }

/-- The bytes of a header in memory. -/
def bytes (dirent : LinuxDirent64) : List UInt8 :=
  leBytes 8 dirent.dIno.toNat ++ leBytes 8 dirent.dOff.toUInt64.toNat ++
    leBytes 2 dirent.dReclen.toNat ++ [dirent.dTy]

@[simp]
theorem length_bytes (dirent : LinuxDirent64) : dirent.bytes.length = size := by
  simp [bytes, size]

theorem fromSlice_bytes (dirent : LinuxDirent64) : fromSlice dirent.bytes = some dirent := by
  -- the four fields sit at offsets 0, 8, 16 and 18
  have hino : dirent.bytes.take 8 = leBytes 8 dirent.dIno.toNat := by
    simp [bytes]
  have hoff : (dirent.bytes.drop 8).take 8 = leBytes 8 dirent.dOff.toUInt64.toNat := by
    simp [bytes]
  have hreclen : (dirent.bytes.drop 16).take 2 = leBytes 2 dirent.dReclen.toNat := by
    simp [bytes, List.drop_append, List.drop_eq_nil_of_le]
  have hty : (dirent.bytes.drop 18).take 1 = [dirent.dTy] := by
    simp [bytes, List.drop_append, List.drop_eq_nil_of_le]
  rw [fromSlice, if_neg (by rw [length_bytes]; exact not_not_intro rfl), hino, hoff, hreclen, hty,
    ofLeBytes_leBytes_of_lt dirent.dIno.toNat_lt_size,
    ofLeBytes_leBytes_of_lt dirent.dOff.toUInt64.toNat_lt_size,
    ofLeBytes_leBytes_of_lt dirent.dReclen.toNat_lt_size]
  simp [ofLeBytes]

end LinuxDirent64

/-- The panics of `ReadDir::next` in a release build. -/
inductive Panic
  /-- An `expect` that failed, with its message. -/
  | expect (message : String)
  /-- `split_at` past the end of the slice. -/
  | splitAt
  /-- A range `..index` past the end of a slice of `length` bytes. -/
  | sliceEndIndex (index length : Nat)
  deriving DecidableEq, Repr

/-- `strip_padding`: the bytes before the first NUL, which must be there; the
`CStr` as `to_bytes` gives it, without its NUL. -/
def stripPadding (b : List UInt8) : Except Panic (List UInt8) :=
  match b.findIdx? (· == 0) with
  | some pos => .ok (b.take pos)
  | none => .error (.expect "`b` doesn't contain any nul bytes")

example : stripPadding [46, 46, 0, 0, 0, 0, 0, 0] = .ok [46, 46] := by decide
example : stripPadding [0, 0, 0, 0] = .ok [] := by decide

theorem stripPadding_name {name : List UInt8} (hname : 0 ∉ name) (padding : List UInt8) :
    stripPadding (name ++ 0 :: padding) = .ok name := by
  have hfind : (name ++ 0 :: padding).findIdx? (· == 0) = some name.length := by
    induction name with
    | nil => simp [List.findIdx?_cons]
    | cons byte name ih =>
        have hbyte : byte ≠ 0 := fun h => hname (h ▸ List.mem_cons_self)
        simp only [List.cons_append, List.findIdx?_cons, beq_iff_eq, hbyte, if_false,
          ih (fun h => hname (List.mem_cons_of_mem _ h)), Option.map_some, List.length_cons]
  simp [stripPadding, hfind]

/-- The record at the front of what is left of the buffer, and its length,
as the body of `ReadDir::next` reads them; `none` when nothing is left.  The
name's length is a `usize` subtraction, which wraps in a release build. -/
def parseRecord (rem : List UInt8) : Except Panic (Option (DirEntry × Nat)) :=
  if rem = [] then .ok none
  else if rem.length < LinuxDirent64.size then .error .splitAt
  else
    let front := rem.take LinuxDirent64.size
    let back := rem.drop LinuxDirent64.size
    match LinuxDirent64.fromSlice front with
    | none => .error (.expect "unable to get LinuxDirent64 from slice")
    | some dirent64 =>
        let namelen := (dirent64.dReclen.toUInt64 - UInt64.ofNat LinuxDirent64.size).toNat
        if back.length < namelen then .error (.sliceEndIndex namelen back.length)
        else
          match stripPadding (back.take namelen) with
          | .error panic => .error panic
          | .ok name =>
              .ok (some
                ({ ino := dirent64.dIno, offset := dirent64.dOff.toUInt64
                   type_ := dirent64.dTy, name }, dirent64.dReclen.toNat))

/-! ## Records as the kernel lays them out -/

/-- A record of a `getdents64` buffer: the inode, offset and type of its
header, the name, which holds no NUL, and the bytes after the name's NUL up to
`d_reclen`, which has to fit its `u16`. -/
structure DirRecord where
  ino : UInt64
  off : Int64
  ty : UInt8
  name : List UInt8
  padding : List UInt8
  nul_not_mem : 0 ∉ name
  reclen_lt : LinuxDirent64.size + name.length + 1 + padding.length < 2 ^ 16

namespace DirRecord

/-- `d_reclen`: the header, the name, its NUL and the padding. -/
def reclen (record : DirRecord) : Nat :=
  LinuxDirent64.size + record.name.length + 1 + record.padding.length

def header (record : DirRecord) : LinuxDirent64 :=
  { dIno := record.ino, dOff := record.off, dReclen := UInt16.ofNat record.reclen
    dTy := record.ty }

def bytes (record : DirRecord) : List UInt8 :=
  record.header.bytes ++ (record.name ++ 0 :: record.padding)

/-- The entry the record stands for. -/
def entry (record : DirRecord) : DirEntry :=
  { ino := record.ino, offset := record.off.toUInt64, type_ := record.ty, name := record.name }

/-- What `next` returns for the record. -/
def item (record : DirRecord) : Option (Except IoError DirEntry) :=
  some (.ok record.entry)

theorem reclen_toNat (record : DirRecord) :
    (UInt16.ofNat record.reclen).toNat = record.reclen :=
  UInt16.toNat_ofNat_of_lt' record.reclen_lt

@[simp]
theorem length_bytes (record : DirRecord) : record.bytes.length = record.reclen := by
  simp only [bytes, List.length_append, LinuxDirent64.length_bytes, List.length_cons, reclen]
  omega

/-- `next` reads a record back from its bytes, whatever follows them. -/
theorem parseRecord_bytes (record : DirRecord) (rest : List UInt8) :
    parseRecord (record.bytes ++ rest) = .ok (some (record.entry, record.reclen)) := by
  have hsize : LinuxDirent64.size = 19 := rfl
  have hfront : (record.bytes ++ rest).take LinuxDirent64.size = record.header.bytes := by
    rw [bytes, List.append_assoc, List.take_left' (LinuxDirent64.length_bytes _)]
  have hback : (record.bytes ++ rest).drop LinuxDirent64.size =
      record.name ++ 0 :: record.padding ++ rest := by
    rw [bytes, List.append_assoc, List.drop_left' (LinuxDirent64.length_bytes _)]
  have hnamelen : ((UInt16.ofNat record.reclen).toUInt64 - UInt64.ofNat LinuxDirent64.size).toNat =
      record.name.length + 1 + record.padding.length := by
    have hwide : (UInt16.ofNat record.reclen).toUInt64.toNat = record.reclen := by
      rw [UInt16.toNat_toUInt64, reclen_toNat]
    rw [UInt64.toNat_sub_of_le _ _ (by rw [UInt64.le_iff_toNat_le, hwide]; simp [reclen, hsize]; omega),
      hwide]
    simp only [reclen, hsize, UInt64.toNat_ofNat', Nat.reducePow, Nat.reduceMod]
    omega
  have hname : (record.name ++ 0 :: record.padding ++ rest).take
      (record.name.length + 1 + record.padding.length) = record.name ++ 0 :: record.padding :=
    List.take_left' (by simp; omega)
  have hlength : LinuxDirent64.size ≤ (record.bytes ++ rest).length := by
    simp [reclen]
    omega
  rw [parseRecord, if_neg (by simp [bytes]), if_neg (by omega)]
  simp only [hfront, hback, LinuxDirent64.fromSlice_bytes]
  simp only [header, hnamelen, hname, stripPadding_name record.nul_not_mem, reclen_toNat,
    List.length_append, List.length_cons]
  rw [if_neg (by omega)]
  rfl

end DirRecord

/-- The buffer `getdents64` writes for a batch of records. -/
def bufferOf (records : List DirRecord) : List UInt8 :=
  (records.map DirRecord.bytes).flatten

@[simp]
theorem bufferOf_nil : bufferOf [] = [] := rfl

@[simp]
theorem bufferOf_cons (record : DirRecord) (records : List DirRecord) :
    bufferOf (record :: records) = record.bytes ++ bufferOf records := rfl

/-- `ReadDir`: the buffer, the directory, and the part of the buffer still to
be read, from `current` to `end`. -/
structure ReadDir (File : Type) where
  buf : List UInt8
  dir : File
  current : Nat
  end_ : Nat

namespace ReadDir

/-- What is left to read: `&self.buf[self.current..self.end]`. -/
def rem (rd : ReadDir File) : List UInt8 :=
  (rd.buf.take rd.end_).drop rd.current

/-- The buffer after `getdents64` wrote `written` to its front: read from its
start to as many bytes as were written. -/
def fill (rd : ReadDir File) (written : List UInt8) : ReadDir File :=
  { rd with buf := written ++ rd.buf.drop written.length, current := 0, end_ := written.length }

/-- The refill of `next`: `getdents64` into the whole buffer. -/
def refill (calls : DirCalls σ File) (rd : ReadDir File) : Proc σ Int32 (ReadDir File) := do
  let written ← calls.getdents64 rd.dir rd.buf.length
  pure (rd.fill written)

/-- `ReadDir::next`: the buffer is refilled once it has been read to its end;
a failed refill is returned as the error, and a refill that wrote nothing
ends the listing with `None`.  Otherwise the record at the front is returned,
and `current` moves past its `d_reclen` bytes. -/
def next (calls : DirCalls σ File) (rd : ReadDir File) :
    Proc σ Panic (Option (Except IoError DirEntry) × ReadDir File) := do
  let refilled ← if rd.end_ ≤ rd.current then attempt (rd.refill calls) else pure (.ok rd)
  match refilled with
  | .error errno => pure (some (.error (.os errno)), rd)
  | .ok rd =>
      match parseRecord rd.rem with
      | .error panic => throw panic
      | .ok none => pure (none, rd)
      | .ok (some (entry, reclen)) =>
          pure (some (.ok entry), { rd with current := rd.current + reclen })

/-- `n` successive calls of `next`, with what each returned. -/
def nexts (calls : DirCalls σ File) :
    Nat → ReadDir File → Proc σ Panic (List (Option (Except IoError DirEntry)) × ReadDir File)
  | 0, rd => pure ([], rd)
  | n + 1, rd => do
      let (item, rd) ← rd.next calls
      let (items, rd) ← nexts calls n rd
      pure (item :: items, rd)

end ReadDir

/-! ## Runs of `next` -/

namespace ReadDir

/-- The buffer holds `records` from `current` to `end`, and `end` lies within
the buffer. -/
def Holds (rd : ReadDir File) (records : List DirRecord) : Prop :=
  rd.end_ ≤ rd.buf.length ∧ rd.rem = bufferOf records

theorem length_rem (rd : ReadDir File) : rd.rem.length = min rd.end_ rd.buf.length - rd.current := by
  simp [rem]

/-- The records left take up the buffer from `current` to `end`. -/
theorem Holds.length_eq {rd : ReadDir File} {records : List DirRecord} (hholds : rd.Holds records) :
    (bufferOf records).length = rd.end_ - rd.current := by
  rw [← hholds.2, length_rem, Nat.min_eq_left hholds.1]

/-- A buffer that holds nothing more has been read to its end. -/
theorem Holds.read_to_end {rd : ReadDir File} (hholds : rd.Holds []) : rd.end_ ≤ rd.current := by
  have hlength := hholds.length_eq
  rw [bufferOf_nil, List.length_nil] at hlength
  omega

theorem Holds.current_lt {rd : ReadDir File} {record : DirRecord} {records : List DirRecord}
    (hholds : rd.Holds (record :: records)) : rd.current < rd.end_ := by
  have hlength := hholds.length_eq
  rw [bufferOf_cons, List.length_append, DirRecord.length_bytes] at hlength
  have hpositive : 0 < record.reclen := by simp [DirRecord.reclen]
  omega

/-- Moving past a record leaves the rest of the buffer. -/
theorem Holds.advance {rd : ReadDir File} {record : DirRecord} {records : List DirRecord}
    (hholds : rd.Holds (record :: records)) :
    Holds { rd with current := rd.current + record.reclen } records := by
  obtain ⟨hend, hrem⟩ := hholds
  refine ⟨hend, ?_⟩
  show (rd.buf.take rd.end_).drop (rd.current + record.reclen) = _
  rw [← List.drop_drop]
  change rd.rem.drop record.reclen = _
  rw [hrem, bufferOf_cons, List.drop_left' (DirRecord.length_bytes record)]

variable (calls : DirCalls σ File)

/-- With a record left in the buffer, `next` returns it and moves past it, and
makes no system call. -/
theorem Holds.next {rd : ReadDir File} {record : DirRecord} {records : List DirRecord}
    (hholds : rd.Holds (record :: records)) (os : σ) :
    rd.next calls os = .ok (record.item, { rd with current := rd.current + record.reclen }) os := by
  have hfull : ¬ rd.end_ ≤ rd.current := Nat.not_le.mpr hholds.current_lt
  simp only [ReadDir.next, bind_apply, if_neg hfull, pure_apply, hholds.2, bufferOf_cons,
    DirRecord.parseRecord_bytes]
  rfl

theorem length_fill (rd : ReadDir File) {written : List UInt8}
    (hfits : written.length ≤ rd.buf.length) : (rd.fill written).buf.length = rd.buf.length := by
  simp only [fill, List.length_append, List.length_drop]
  omega

theorem holds_fill (rd : ReadDir File) (records : List DirRecord) :
    (rd.fill (bufferOf records)).Holds records :=
  ⟨by simp [fill], by simp [fill, rem]⟩

/-- With the buffer read to its end, `next` refills it and reads the first
record the kernel wrote. -/
theorem next_of_refill {rd : ReadDir File} {record : DirRecord} {records : List DirRecord}
    {os os' : σ} (hend : rd.end_ ≤ rd.current)
    (hcall : calls.getdents64 rd.dir rd.buf.length os = .ok (bufferOf (record :: records)) os') :
    rd.next calls os = .ok (record.item,
      { rd.fill (bufferOf (record :: records)) with current := 0 + record.reclen }) os' := by
  simp only [ReadDir.next, bind_apply, if_pos hend, attempt, refill, hcall, pure_apply]
  rw [(holds_fill rd _).2, bufferOf_cons, DirRecord.parseRecord_bytes]
  rfl

/-- With the buffer read to its end, `next` refills it; a call that writes
nothing ends the listing. -/
theorem next_of_empty {rd : ReadDir File} {os os' : σ} (hend : rd.end_ ≤ rd.current)
    (hcall : calls.getdents64 rd.dir rd.buf.length os = .ok [] os') :
    rd.next calls os = .ok (none, rd.fill []) os' := by
  simp [ReadDir.next, bind_apply, if_pos hend, attempt, refill, hcall, pure_apply, fill, rem,
    parseRecord]

/-- With the buffer read to its end, `next` refills it; a call that fails is
returned, and the buffer stays as it was. -/
theorem next_of_error {rd : ReadDir File} {os os' : σ} {errno : Int32}
    (hend : rd.end_ ≤ rd.current)
    (hcall : calls.getdents64 rd.dir rd.buf.length os = .error errno os') :
    rd.next calls os = .ok (some (.error (.os errno)), rd) os' := by
  simp only [ReadDir.next, bind_apply, if_pos hend, attempt, refill, hcall, pure_apply]

theorem nexts_succ {n : Nat} {rd rd' rd'' : ReadDir File} {os os' os'' : σ}
    {item : Option (Except IoError DirEntry)} {items : List (Option (Except IoError DirEntry))}
    (hnext : rd.next calls os = .ok (item, rd') os')
    (hrest : rd'.nexts calls n os' = .ok (items, rd'') os'') :
    rd.nexts calls (n + 1) os = .ok (item :: items, rd'') os'' := by
  simp only [nexts, bind_apply, hnext, hrest, pure_apply]

/-- The first of `n + 1` calls of `next`, and the `n` after it. -/
theorem nexts_succ_eq_ok {n : Nat} {rd rd'' : ReadDir File} {os os'' : σ}
    {items : List (Option (Except IoError DirEntry))}
    (h : rd.nexts calls (n + 1) os = .ok (items, rd'') os'') :
    ∃ item rest rd' os', items = item :: rest ∧ rd.next calls os = .ok (item, rd') os' ∧
      rd'.nexts calls n os' = .ok (rest, rd'') os'' := by
  obtain ⟨⟨item, rd'⟩, os', hnext, h⟩ := bind_eq_ok h
  obtain ⟨⟨rest, rd₂⟩, os₂, hrest, h⟩ := bind_eq_ok h
  cases h
  exact ⟨item, rest, rd', os', rfl, hnext, hrest⟩

/-- The run through a buffer that holds `records`: one call of `next` per
record, each returning it, with no system call, to the buffer read to its
end. -/
theorem nexts_of_holds :
    ∀ (records : List DirRecord) (rd : ReadDir File), rd.Holds records →
      ∃ rd' : ReadDir File, rd'.Holds [] ∧ rd'.buf = rd.buf ∧ rd'.dir = rd.dir ∧
        ∀ (n : Nat) (os os' : σ) (items : List (Option (Except IoError DirEntry)))
          (rd'' : ReadDir File),
          rd'.nexts calls n os = .ok (items, rd'') os' →
          rd.nexts calls (records.length + n) os =
            .ok (records.map DirRecord.item ++ items, rd'') os'
  | [], rd, hholds => ⟨rd, hholds, rfl, rfl, fun n os os' items rd'' hrun => by
      simpa only [List.length_nil, Nat.zero_add, List.map_nil, List.nil_append] using hrun⟩
  | record :: records, rd, hholds => by
      obtain ⟨rd', hend, hbuf, hdir, hrun⟩ := nexts_of_holds records _ hholds.advance
      refine ⟨rd', hend, hbuf, hdir, fun n os os' items rd'' hrest => ?_⟩
      rw [List.length_cons, Nat.add_right_comm, List.map_cons, List.cons_append]
      exact nexts_succ calls (hholds.next calls os) (hrun n os os' items rd'' hrest)

end ReadDir

/-- `getdents64` on `dir` with a buffer of `size` bytes hands out `batches` of
whole records, one call per batch from `os` to `os'`, each batch non-empty and
fitting the buffer; the call after the last one writes nothing (`stop` is
`none`) or fails with `stop`'s `errno`. -/
inductive Serves (calls : DirCalls σ File) (dir : File) (size : Nat) :
    σ → List (List DirRecord) → Option Int32 → σ → Prop
  | last {os os' : σ} (hcall : calls.getdents64 dir size os = .ok [] os') :
      Serves calls dir size os [] none os'
  | fail {os os' : σ} {errno : Int32} (hcall : calls.getdents64 dir size os = .error errno os') :
      Serves calls dir size os [] (some errno) os'
  | batch {os mid os' : σ} {records : List DirRecord} {batches : List (List DirRecord)}
      {stop : Option Int32} (hnonempty : records ≠ [])
      (hfits : (bufferOf records).length ≤ size)
      (hcall : calls.getdents64 dir size os = .ok (bufferOf records) mid)
      (hrest : Serves calls dir size mid batches stop os') :
      Serves calls dir size os (records :: batches) stop os'

/-- What `next` returns where the kernel ends the listing: `None` when
`getdents64` wrote nothing, its error when it failed. -/
def endOfListing : Option Int32 → Option (Except IoError DirEntry)
  | none => none
  | some errno => some (.error (.os errno))

/-- A run of `next` from a buffer read to its end, over a `getdents64` that
serves `batches`: the records of every batch in order, then `None` or the
error that ended the listing. -/
theorem nexts_of_serves (calls : DirCalls σ File) {rd : ReadDir File} {os os' : σ}
    {batches : List (List DirRecord)} {stop : Option Int32} (hholds : rd.Holds [])
    (hserves : Serves calls rd.dir rd.buf.length os batches stop os') :
    ∃ rd' : ReadDir File, rd.nexts calls (batches.flatten.length + 1) os =
      .ok (batches.flatten.map DirRecord.item ++ [endOfListing stop],
        rd') os' := by
  generalize hdir : rd.dir = dir at hserves
  generalize hsize : rd.buf.length = size at hserves
  induction hserves generalizing rd with
  | last hcall =>
      subst hdir hsize
      exact ⟨_, ReadDir.nexts_succ calls (ReadDir.next_of_empty calls hholds.read_to_end hcall) rfl⟩
  | fail hcall =>
      subst hdir hsize
      exact ⟨_, ReadDir.nexts_succ calls (ReadDir.next_of_error calls hholds.read_to_end hcall) rfl⟩
  | @batch os mid os' records batches stop hnonempty hfits hcall hrest ih =>
      subst hdir hsize
      obtain _ | ⟨record, records⟩ := records
      · exact absurd rfl hnonempty
      have hfirst := ReadDir.next_of_refill calls hholds.read_to_end hcall
      have hfilled := (ReadDir.holds_fill rd (record :: records)).advance
      obtain ⟨rd', hend, hbuf, hdir', hrun⟩ := ReadDir.nexts_of_holds calls records _ hfilled
      have hlength : rd'.buf.length = rd.buf.length := by
        rw [hbuf]
        exact ReadDir.length_fill rd hfits
      obtain ⟨rd'', hlast⟩ := ih hend (by rw [hdir']; rfl) hlength
      refine ⟨rd'', ?_⟩
      have hcount : ((record :: records) :: batches).flatten.length + 1 =
          (records.length + (batches.flatten.length + 1)) + 1 := by
        simp only [List.flatten_cons, List.length_append, List.length_cons]
        omega
      have hitems : ((record :: records) :: batches).flatten.map DirRecord.item ++
          [endOfListing stop] = record.item :: (records.map DirRecord.item ++
            (batches.flatten.map DirRecord.item ++ [endOfListing stop])) := by
        simp
      rw [hcount, hitems]
      exact ReadDir.nexts_succ calls hfirst (hrun _ _ _ _ _ hlast)

/-- `ReadDir::next` parses the kernel's buffer exactly.  While a record is
left, `next` returns it (its inode, `d_off` as the offset, its type, and the
name up to its NUL), moves past its `d_reclen` bytes and makes no system
call.  From a buffer read to its end, successive calls yield every record the
kernel hands out, batch after batch and in order, and then `None` when
`getdents64` writes nothing, or its error. -/
theorem next_yields_records (calls : DirCalls σ File) :
    (∀ (rd : ReadDir File) (record : DirRecord) (records : List DirRecord) (os : σ),
      rd.Holds (record :: records) →
      rd.next calls os = .ok (record.item, { rd with current := rd.current + record.reclen }) os ∧
        ReadDir.Holds { rd with current := rd.current + record.reclen } records) ∧
    (∀ (rd : ReadDir File) (batches : List (List DirRecord)) (stop : Option Int32)
      (os os' : σ), rd.Holds [] → Serves calls rd.dir rd.buf.length os batches stop os' →
      ∃ rd' : ReadDir File, rd.nexts calls (batches.flatten.length + 1) os =
        .ok (batches.flatten.map DirRecord.item ++
          [endOfListing stop], rd') os') :=
  ⟨fun _ _ _ os hholds => ⟨hholds.next calls os, hholds.advance⟩,
    fun _ _ _ _ _ hholds hserves => nexts_of_serves calls hholds hserves⟩

/-- `read_dir`: seek the directory to `offset`, and start on an empty
256-byte buffer. -/
def readDir (calls : DirCalls σ File) (dir : File) (offset : Int64) :
    Proc σ Int32 (ReadDir File) := do
  calls.lseek64 dir offset
  pure { buf := List.replicate 256 0, dir, current := 0, end_ := 0 }

/-- `read_dir` starts on a 256-byte buffer with nothing left to read. -/
theorem readDir_eq_ok {calls : DirCalls σ File} {dir : File} {offset : Int64} {os os' : σ}
    {rd : ReadDir File} (h : readDir calls dir offset os = .ok rd os') :
    rd.Holds [] ∧ rd.buf.length = 256 ∧ rd.dir = dir := by
  obtain ⟨_, mid, -, h⟩ := bind_eq_ok h
  cases h
  exact ⟨⟨Nat.zero_le _, rfl⟩, List.length_replicate, rfl⟩

/-- `read_dir` at `offset`, then calls of `next` until `None` or an error,
list `stream` from `os`: its entries, then `None` or its `errno`.  This is
what `Kernel.readDir` stands for. -/
def ListsDir (calls : DirCalls σ File) (dir : File) (offset : Int64) (os : σ)
    (stream : DirStream) : Prop :=
  ∃ rd os₁ rd' os', readDir calls dir offset os = .ok rd os₁ ∧
    rd.nexts calls (stream.entries.length + 1) os₁ =
      .ok (stream.entries.map (fun entry => some (.ok entry)) ++ [endOfListing stream.error],
        rd') os'

/-- Over a `getdents64` that serves whole records, `read_dir` and its
iterator list exactly the entries of those records, and the end the kernel
gave. -/
theorem lists_of_serves {calls : DirCalls σ File} {dir : File} {offset : Int64} {os os₁ os' : σ}
    {rd : ReadDir File} {batches : List (List DirRecord)} {stop : Option Int32}
    (hread : readDir calls dir offset os = .ok rd os₁)
    (hserves : Serves calls dir 256 os₁ batches stop os') :
    ListsDir calls dir offset os ⟨batches.flatten.map DirRecord.entry, stop⟩ := by
  obtain ⟨hholds, hsize, hdir⟩ := readDir_eq_ok hread
  rw [← hsize, ← hdir] at hserves
  obtain ⟨rd', hrun⟩ := nexts_of_serves calls hholds hserves
  refine ⟨rd, os₁, rd', os', hread, ?_⟩
  rw [List.length_map, List.map_map]
  exact hrun

/-- The first `m` of `m + n` calls of `next` are those `m` calls alone. -/
theorem ReadDir.nexts_take (calls : DirCalls σ File) (m n : Nat) (rd : ReadDir File) (os : σ)
    {items items₁ : List (Option (Except IoError DirEntry))} {rd' rd₁ : ReadDir File}
    {os' os₁ : σ} (h : rd.nexts calls (m + n) os = .ok (items, rd') os')
    (h₁ : rd.nexts calls m os = .ok (items₁, rd₁) os₁) : items₁ = items.take m := by
  induction m generalizing rd os items items₁ rd₁ os₁ with
  | zero =>
      injection h₁ with hpair
      injection hpair with hitems
      rw [← hitems, List.take_zero]
  | succ m ih =>
      rw [Nat.add_right_comm] at h
      obtain ⟨item, rest, rd₂, os₂, rfl, hnext, hrest⟩ := ReadDir.nexts_succ_eq_ok calls h
      obtain ⟨item₁, rest₁, rd₃, os₃, rfl, hnext₁, hrest₁⟩ := ReadDir.nexts_succ_eq_ok calls h₁
      rw [hnext] at hnext₁
      injection hnext₁ with hpair hos
      injection hpair with hitem hrd
      subst hitem hrd hos
      rw [ih rd₂ os₂ hrest hrest₁, List.take_succ_cons]

theorem endOfListing_ne_ok (stop : Option Int32) (entry : DirEntry) :
    endOfListing stop ≠ some (.ok entry) := by
  cases stop <;> simp [endOfListing]

/-- A listing is no longer than any other listing from the same start. -/
theorem ListsDir.length_le {calls : DirCalls σ File} {dir : File} {offset : Int64} {os : σ}
    {stream stream' : DirStream} (h : ListsDir calls dir offset os stream)
    (h' : ListsDir calls dir offset os stream') :
    stream.entries.length ≤ stream'.entries.length := by
  obtain ⟨rd, os₁, rd', os', hread, hrun⟩ := h
  obtain ⟨rd₂, os₂, rd₂', os₂', hread', hrun'⟩ := h'
  rw [hread] at hread'
  injection hread' with hrd hos
  subst hrd hos
  by_contra hlonger
  have hsplit : stream.entries.length + 1 =
      (stream'.entries.length + 1) + (stream.entries.length - stream'.entries.length) := by omega
  rw [hsplit] at hrun
  have hprefix := ReadDir.nexts_take calls _ _ rd os₁ hrun hrun'
  have hlt : stream'.entries.length < stream.entries.length := by omega
  have hat := congrArg (fun items => items[stream'.entries.length]?) hprefix
  have hend : (stream'.entries.map (fun entry => some (.ok entry)) ++
      [endOfListing stream'.error])[stream'.entries.length]? =
        some (endOfListing stream'.error) := by simp
  have hentry : (stream.entries.map (fun entry => some (.ok entry)) ++
      [endOfListing stream.error])[stream'.entries.length]? =
        some (some (.ok stream.entries[stream'.entries.length])) := by
    rw [List.getElem?_append_left (by simpa using hlt), List.getElem?_map,
      List.getElem?_eq_getElem hlt]
    rfl
  rw [List.getElem?_take_of_lt (Nat.lt_succ_self _), hend, hentry, Option.some.injEq] at hat
  exact endOfListing_ne_ok _ _ hat

/-- `read_dir` and `next` list one stream: what `Kernel.readDir` stands for
is a function of the calls. -/
theorem ListsDir.unique {calls : DirCalls σ File} {dir : File} {offset : Int64} {os : σ}
    {stream stream' : DirStream} (h : ListsDir calls dir offset os stream)
    (h' : ListsDir calls dir offset os stream') : stream = stream' := by
  have hlength := Nat.le_antisymm (h.length_le h') (h'.length_le h)
  obtain ⟨rd, os₁, rd', os', hread, hrun⟩ := h
  obtain ⟨rd₂, os₂, rd₂', os₂', hread', hrun'⟩ := h'
  rw [hread] at hread'
  injection hread' with hrd hos
  subst hrd hos
  rw [hlength, hrun'] at hrun
  injection hrun with hpair
  injection hpair with hitems
  obtain ⟨hentries, hend⟩ := List.append_inj hitems (by simp [hlength])
  have hentries' : stream'.entries = stream.entries :=
    List.map_injective_iff.mpr (fun _ _ hsame => by simpa using hsame) hentries
  obtain ⟨entries, error⟩ := stream
  obtain ⟨entries', error'⟩ := stream'
  dsimp only at hentries' hend
  subst hentries'
  cases error <;> cases error' <;> simp_all [endOfListing]

/-- `.` and `..`, padded to eight bytes as Linux pads its records. -/
def dotRecords : List DirRecord :=
  [⟨1, 1, 4, [46], [0, 0, 0], by decide, by decide⟩,
    ⟨2, 2, 4, [46, 46], [0, 0], by decide, by decide⟩]

/-- A directory whose first `getdents64` writes `.` and `..` and whose later
calls write nothing; the state counts the calls. -/
def dotCalls : DirCalls Nat Unit where
  lseek64 _ _ := fun os => .ok () os
  getdents64 _ _ := fun count => if count = 0 then .ok (bufferOf dotRecords) 1 else .ok [] count

/-- On that directory, three calls of `next` after `read_dir` yield `.`, `..`
and `None`. -/
theorem dot_entries_in_order :
    ∃ rd : ReadDir Unit, ReadDir.nexts dotCalls 3 ⟨List.replicate 256 0, (), 0, 0⟩ 0 =
      .ok ([some (.ok ⟨1, 1, 4, [46]⟩), some (.ok ⟨2, 2, 4, [46, 46]⟩), none], rd) 1 := by
  have hfits : (bufferOf dotRecords).length ≤ (List.replicate 256 (0 : UInt8)).length := by
    rw [List.length_replicate]
    decide
  obtain ⟨rd, hrun⟩ := (next_yields_records dotCalls).2 ⟨List.replicate 256 0, (), 0, 0⟩
    [dotRecords] none 0 1 ⟨Nat.zero_le _, rfl⟩ (.batch (by decide) hfits rfl (.last rfl))
  exact ⟨rd, hrun⟩

end JetStream
