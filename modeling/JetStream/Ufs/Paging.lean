import JetStream.Ufs.ReadDir
import JetStream.Ufs.Session

/-!
# Paging through a directory with `Treaddir`

A client lists a directory with `Treaddir` requests, each resuming at the
offset of the last entry it got.  The server answers each with `read_dir` at
that offset and the iterator's entries, read through a 256-byte `getdents64`
buffer.  Linux writes a record of `roundup8(19 + namelen + 1)` bytes for each
entry, fills the buffer with as many whole records as fit, and fails with
`EINVAL` when not even the first one fits (`getdentsAt`).

A name of 237 to `NAME_MAX` bytes makes a record of 264 to 280 bytes, which
never fits the buffer.  The iterator answers `EINVAL` as soon as the listing
reaches such an entry, and so does every `Treaddir` at its offset: no entry
from there on is ever listed.
-/

namespace JetStream

open Proc Server

variable {σ File : Type}

/-- `NAME_MAX`: the longest name of a directory entry on Linux. -/
def NAME_MAX : Nat := 255

/-- An entry of a directory as the kernel keeps it: an inode, a type, and a
name of 1 to `NAME_MAX` bytes with no NUL in it. -/
structure Dentry where
  ino : UInt64
  ty : UInt8
  name : List UInt8
  nul_not_mem : 0 ∉ name
  length_pos : 0 < name.length
  length_le : name.length ≤ NAME_MAX

/-- The length of the record Linux writes for a name: the header, the name
and its NUL, rounded up to eight bytes. -/
def recordLength (namelen : Nat) : Nat :=
  (LinuxDirent64.size + namelen + 1 + 7) / 8 * 8

namespace Dentry

/-- The record of an entry whose `d_off`, the position after it, is `off`;
its padding is NUL. -/
def record (dentry : Dentry) (off : Nat) : DirRecord where
  ino := dentry.ino
  off := Int64.ofNat off
  ty := dentry.ty
  name := dentry.name
  padding := List.replicate
    (recordLength dentry.name.length - (LinuxDirent64.size + dentry.name.length + 1)) 0
  nul_not_mem := dentry.nul_not_mem
  reclen_lt := by
    have hname := dentry.length_le
    simp only [List.length_replicate, recordLength, LinuxDirent64.size, NAME_MAX] at hname ⊢
    omega

theorem reclen_record (dentry : Dentry) (off : Nat) :
    (dentry.record off).reclen = recordLength dentry.name.length := by
  simp only [DirRecord.reclen, record, List.length_replicate, recordLength, LinuxDirent64.size]
  omega

end Dentry

/-- A name longer than 236 bytes makes a record longer than the buffer. -/
theorem buffer_lt_recordLength {namelen : Nat} (hlong : 236 < namelen) :
    256 < recordLength namelen := by
  simp only [recordLength, LinuxDirent64.size]
  omega

/-- The records of a listing from position `pos` on, each with `d_off` the
position after it. -/
def recordsFrom (listing : List Dentry) (pos : Nat) : List DirRecord :=
  ((listing.drop pos).zipIdx (pos + 1)).map fun (dentry, off) => dentry.record off

theorem recordsFrom_of_getElem? {listing : List Dentry} {pos : Nat} {dentry : Dentry}
    (hentry : listing[pos]? = some dentry) :
    recordsFrom listing pos = dentry.record (pos + 1) :: recordsFrom listing (pos + 1) := by
  obtain ⟨hpos, rfl⟩ := List.getElem?_eq_some_iff.mp hentry
  rw [recordsFrom, List.drop_eq_getElem_cons hpos, List.zipIdx_cons, List.map_cons]
  rfl

/-- The longest run of records from the front whose lengths add up to at most
`count` bytes. -/
def fitting (count : Nat) : List DirRecord → List DirRecord
  | [] => []
  | record :: records =>
      if record.reclen ≤ count then record :: fitting (count - record.reclen) records else []

/-- `getdents64` on a directory holding `listing`, at position `pos`, into a
buffer of `count` bytes, as Linux does it: as many whole records as fit,
nothing at the end of the listing, and `EINVAL` when the first record does
not fit. -/
def getdentsAt (listing : List Dentry) (pos count : Nat) : Except Int32 (List DirRecord) :=
  match recordsFrom listing pos with
  | [] => .ok []
  | record :: records =>
      if record.reclen ≤ count then .ok (fitting count (record :: records))
      else .error Errno.EINVAL

/-- The system calls on a directory holding `listing`, whose position is the
state: `lseek64` sets it, refusing a negative offset, and `getdents64` moves
it past the records it writes. -/
def listingCalls (listing : List Dentry) : DirCalls Nat Unit where
  lseek64 _ offset := fun pos =>
    if offset < 0 then .error Errno.EINVAL pos else .ok () offset.toNatClampNeg
  getdents64 _ count := fun pos =>
    match getdentsAt listing pos count with
    | .ok records => .ok (bufferOf records) (pos + records.length)
    | .error errno => .error errno pos

theorem readDir_listingCalls {listing : List Dentry} {offset : Int64} {pos pos' : Nat}
    {rd : ReadDir Unit} (hread : readDir (listingCalls listing) () offset pos = .ok rd pos') :
    pos' = offset.toNatClampNeg := by
  obtain ⟨_, mid, hseek, h⟩ := bind_eq_ok hread
  cases h
  by_cases hneg : offset < 0
  · simp [listingCalls, hneg] at hseek
  · simp only [listingCalls, hneg, if_false] at hseek
    cases hseek
    rfl

theorem readDir_listingCalls_apply (listing : List Dentry) {offset : Int64}
    (hoffset : ¬ offset < 0) (pos : Nat) :
    readDir (listingCalls listing) () offset pos =
      .ok ⟨List.replicate 256 0, (), 0, 0⟩ offset.toNatClampNeg := by
  simp only [readDir, listingCalls, if_neg hoffset]
  rfl

/-- At an entry whose name is longer than 236 bytes, `getdents64` into a
buffer of at most 256 bytes fails with `EINVAL`. -/
theorem getdents_long_name {listing : List Dentry} {pos count : Nat} {dentry : Dentry}
    (hentry : listing[pos]? = some dentry) (hlong : 236 < dentry.name.length)
    (hcount : count ≤ 256) :
    (listingCalls listing).getdents64 () count pos = .error Errno.EINVAL pos := by
  have hreclen : ¬ (dentry.record (pos + 1)).reclen ≤ count := by
    rw [Dentry.reclen_record]
    have hbuffer := buffer_lt_recordLength hlong
    omega
  simp only [listingCalls, getdentsAt, recordsFrom_of_getElem? hentry, if_neg hreclen]

/-- At an entry whose name is longer than 236 bytes, `read_dir` and its
iterator list nothing: the first call of `next` answers `EINVAL`. -/
theorem lists_long_name {listing : List Dentry} {offset : Int64} {pos : Nat}
    {stream : DirStream} {dentry : Dentry}
    (hlists : ListsDir (listingCalls listing) () offset pos stream)
    (hentry : listing[offset.toNatClampNeg]? = some dentry) (hlong : 236 < dentry.name.length) :
    stream = ⟨[], some Errno.EINVAL⟩ := by
  obtain ⟨rd, pos₁, rd', pos', hread, hrun⟩ := hlists
  have hpos := readDir_listingCalls hread
  subst hpos
  obtain ⟨hholds, hsize, -⟩ := readDir_eq_ok hread
  have hfirst := ReadDir.next_of_error (listingCalls listing) hholds.read_to_end
    (getdents_long_name hentry hlong hsize.le)
  obtain ⟨item, rest, rd₁, pos₁, hitems, hnext, -⟩ :=
    ReadDir.nexts_succ_eq_ok (listingCalls listing) hrun
  rw [hfirst] at hnext
  cases hnext
  obtain ⟨entries, error⟩ := stream
  cases entries with
  | cons entry entries => cases hitems
  | nil =>
      cases error with
      | none => cases hitems
      | some errno =>
          cases hitems
          rfl

/-- And `read_dir` at such an entry does list that. -/
theorem lists_of_long_name {listing : List Dentry} {offset : Int64} {dentry : Dentry}
    (hoffset : ¬ offset < 0) (hentry : listing[offset.toNatClampNeg]? = some dentry)
    (hlong : 236 < dentry.name.length) (pos : Nat) :
    ListsDir (listingCalls listing) () offset pos ⟨[], some Errno.EINVAL⟩ := by
  have hread := readDir_listingCalls_apply listing hoffset pos
  obtain ⟨hholds, hsize, -⟩ := readDir_eq_ok hread
  refine ⟨_, _, _, _, hread, ReadDir.nexts_succ (listingCalls listing)
    (ReadDir.next_of_error (listingCalls listing) hholds.read_to_end
      (getdents_long_name hentry hlong hsize.le)) rfl⟩

/-! ## Short names: the listing comes whole -/

/-- A name of at most 236 bytes makes a record that fits the buffer. -/
theorem recordLength_le_buffer {namelen : Nat} (hshort : namelen ≤ 236) :
    recordLength namelen ≤ 256 := by
  simp only [recordLength, LinuxDirent64.size]
  omega

theorem recordsFrom_of_le {listing : List Dentry} {pos : Nat} (hend : listing.length ≤ pos) :
    recordsFrom listing pos = [] := by
  simp [recordsFrom, List.drop_eq_nil_of_le hend]

/-- Dropping records moves the position on by as many entries. -/
theorem recordsFrom_drop (listing : List Dentry) (pos count : Nat) :
    (recordsFrom listing pos).drop count = recordsFrom listing (pos + count) := by
  induction count generalizing pos with
  | zero => rfl
  | succ count ih =>
      cases hentry : listing[pos]? with
      | none =>
          have hend := List.getElem?_eq_none_iff.mp hentry
          rw [recordsFrom_of_le hend, recordsFrom_of_le (by omega), List.drop_nil]
      | some dentry =>
          rw [recordsFrom_of_getElem? hentry, List.drop_succ_cons, ih, Nat.add_right_comm,
            Nat.add_assoc]

/-- The records of a listing carry the names of its entries. -/
theorem short_of_mem_recordsFrom {listing : List Dentry} {bound : Nat}
    (hshort : ∀ dentry ∈ listing, dentry.name.length ≤ bound) {pos : Nat} {record : DirRecord}
    (hmem : record ∈ recordsFrom listing pos) : record.name.length ≤ bound := by
  obtain ⟨entry, hentry, rfl⟩ := List.mem_map.mp hmem
  exact hshort entry.1 (List.mem_of_mem_drop (List.fst_mem_of_mem_zipIdx hentry))

/-- What does not fit is left for the next call. -/
theorem fitting_append_drop (count : Nat) (records : List DirRecord) :
    fitting count records ++ records.drop (fitting count records).length = records := by
  induction records generalizing count with
  | nil => rfl
  | cons record records ih =>
      by_cases hfits : record.reclen ≤ count
      · simp only [fitting, if_pos hfits, List.length_cons, List.drop_succ_cons, List.cons_append,
          ih]
      · simp only [fitting, if_neg hfits, List.length_nil, List.drop_zero, List.nil_append]

theorem length_bufferOf_fitting (count : Nat) (records : List DirRecord) :
    (bufferOf (fitting count records)).length ≤ count := by
  induction records generalizing count with
  | nil => exact Nat.zero_le _
  | cons record records ih =>
      by_cases hfits : record.reclen ≤ count
      · have hrest := ih (count - record.reclen)
        simp only [fitting, if_pos hfits, bufferOf_cons, List.length_append,
          DirRecord.length_bytes]
        omega
      · simp only [fitting, if_neg hfits, bufferOf_nil, List.length_nil]
        exact Nat.zero_le _

/-- With every name of at most 236 bytes, `getdents64` through the 256-byte
buffer serves every record from `pos` on, batch by batch, and then writes
nothing. -/
theorem serves_listing (listing : List Dentry)
    (hshort : ∀ dentry ∈ listing, dentry.name.length ≤ 236) (pos : Nat) :
    ∃ batches pos', batches.flatten = recordsFrom listing pos ∧
      Serves (listingCalls listing) () 256 pos batches none pos' := by
  cases hentry : listing[pos]? with
  | none =>
      have hend := List.getElem?_eq_none_iff.mp hentry
      refine ⟨[], pos, by rw [recordsFrom_of_le hend]; rfl, .last ?_⟩
      simp [listingCalls, getdentsAt, recordsFrom_of_le hend]
  | some dentry =>
      have hpos : pos < listing.length := (List.getElem?_eq_some_iff.mp hentry).1
      have hfirst : (dentry.record (pos + 1)).reclen ≤ 256 := by
        rw [Dentry.reclen_record]
        exact recordLength_le_buffer (hshort dentry (List.mem_of_getElem? hentry))
      have hbatch : fitting 256 (recordsFrom listing pos) = dentry.record (pos + 1) ::
          fitting (256 - (dentry.record (pos + 1)).reclen) (recordsFrom listing (pos + 1)) := by
        rw [recordsFrom_of_getElem? hentry, fitting, if_pos hfirst]
      have hcall : getdentsAt listing pos 256 = .ok (fitting 256 (recordsFrom listing pos)) := by
        simp only [getdentsAt, recordsFrom_of_getElem? hentry, if_pos hfirst]
      have hlength : 0 < (fitting 256 (recordsFrom listing pos)).length := by
        rw [hbatch, List.length_cons]
        exact Nat.succ_pos _
      obtain ⟨batches, pos', hflat, hserves⟩ :=
        serves_listing listing hshort (pos + (fitting 256 (recordsFrom listing pos)).length)
      refine ⟨fitting 256 (recordsFrom listing pos) :: batches, pos', ?_,
        .batch (by rw [hbatch]; exact List.cons_ne_nil _ _)
          (length_bufferOf_fitting 256 _) ?_ hserves⟩
      · rw [List.flatten_cons, hflat, ← recordsFrom_drop, fitting_append_drop]
      · simp only [listingCalls, hcall]
termination_by listing.length - pos

/-- With every name of at most 236 bytes, `read_dir` at the offset of a
position and its iterator list every entry from that position on, in order,
each with the position after it as its offset, and then `None`: a client
that resumes at the offset of the last entry it got sees every entry once. -/
theorem lists_short_names (listing : List Dentry)
    (hshort : ∀ dentry ∈ listing, dentry.name.length ≤ 236) {offset : Int64}
    (hoffset : ¬ offset < 0) (pos : Nat) :
    ListsDir (listingCalls listing) () offset pos
      ⟨(recordsFrom listing offset.toNatClampNeg).map DirRecord.entry, none⟩ := by
  obtain ⟨batches, pos', hflat, hserves⟩ := serves_listing listing hshort offset.toNatClampNeg
  have hlists := lists_of_serves (readDir_listingCalls_apply listing hoffset pos) hserves
  rwa [hflat] at hlists

/-- Three entries, two of whose records fit the buffer together; the name of
the last is 236 bytes long, and its record fills the buffer alone. -/
def shortNameListing : List Dentry :=
  [⟨2, 8, List.replicate 100 97, by rw [List.mem_replicate]; decide,
      by rw [List.length_replicate]; decide, by rw [List.length_replicate]; decide⟩,
    ⟨3, 8, List.replicate 100 98, by rw [List.mem_replicate]; decide,
      by rw [List.length_replicate]; decide, by rw [List.length_replicate]; decide⟩,
    ⟨4, 8, List.replicate 236 99, by rw [List.mem_replicate]; decide,
      by rw [List.length_replicate]; decide, by rw [List.length_replicate]; decide⟩]

/-- `read_dir` from the start of that directory lists all three entries. -/
theorem short_names_listed :
    (∀ dentry ∈ shortNameListing, dentry.name.length ≤ 236) ∧
      ListsDir (listingCalls shortNameListing) () 0 0
        ⟨(recordsFrom shortNameListing 0).map DirRecord.entry, none⟩ := by
  have hshort : ∀ dentry ∈ shortNameListing, dentry.name.length ≤ 236 := by
    simp only [shortNameListing, List.mem_cons, List.not_mem_nil, or_false, forall_eq_or_imp,
      forall_eq, List.length_replicate]
    decide
  exact ⟨hshort, lists_short_names shortNameListing hshort (by decide) 0⟩

/-! ## A `Treaddir` answers with the next entries -/

section Pack

open WireFormat

variable (kernel : Kernel σ File)

/-- A name that decodes as UTF-8 goes back on the wire as the same bytes. -/
theorem utf8Bytes_of_fromUtf8 {bytes : List UInt8} {text : String}
    (h : fromUtf8 bytes = .ok text) : utf8Bytes text = bytes := by
  unfold fromUtf8 at h
  split at h
  · rename_i decoded hdecoded
    injection h with htext
    subst htext
    unfold String.fromUTF8? at hdecoded
    split at hdecoded
    · injection hdecoded with htext
      subst htext
      rfl
    · cases hdecoded
  · cases h

theorem Dirent.byteSize_toNat (entry : Dirent) (hfits : entry.name.utf8ByteSize ≤ 65535) :
    (byteSize entry).toNat = 24 + entry.name.utf8ByteSize := by
  have hencodes := Lawful.encodes entry ⟨⟨trivial, trivial, trivial⟩, trivial, trivial, hfits⟩
  rw [hencodes.byteSize_eq, Dirent.length_wire, UInt32.toNat_ofNat_of_lt']
  simp only [UInt32.size]
  omega

/-- A `Dirent` that encodes is within the codec's limits. -/
theorem Dirent.fits_of_encode_eq_ok {entry : Dirent} {buf out : List UInt8}
    (h : encode entry buf = .ok () out) : Fits entry := by
  have hfits : entry.name.utf8ByteSize ≤ 65535 := by
    by_contra hlong
    simp [encode, Nat.lt_of_not_le hlong] at h
  exact ⟨⟨trivial, trivial, trivial⟩, trivial, trivial, hfits⟩

/-- What the packing loop of `readdir` writes: the `Dirent`s of the first
entries, in order, each with the entry's offset, type and name; a listing
that ended in an error fails the request once every entry is packed; and the
loop stops short of the end only at an entry whose `Dirent` does not fit in
the room left.  Every `Dirent` packed is within the codec's limits. -/
theorem packDirents_eq_ok {path : File} {capacity : Nat} {error : Option Int32}
    {dirents : List DirEntry} {buf out : List UInt8} {world world' : World σ File}
    (h : packDirents kernel path capacity error dirents buf world = .ok out world') :
    ∃ packed : List Dirent, out = buf ++ (packed.map wire).flatten ∧
      List.Forall₂ (fun dirent entry => entry.offset = dirent.offset ∧ entry.ty = dirent.type_ ∧
        utf8Bytes entry.name = dirent.name) (dirents.take packed.length) packed ∧
      (packed.length = dirents.length → error = none) ∧
      (∀ next, dirents[packed.length]? = some next →
        ∃ entry : Dirent, utf8Bytes entry.name = next.name ∧
          capacity - out.length < (byteSize entry).toNat) ∧
      ∀ entry ∈ packed, Fits entry := by
  induction dirents generalizing buf world with
  | nil =>
      cases error with
      | some errno => cases h
      | none =>
          cases h
          refine ⟨[], by rw [List.map_nil, List.flatten_nil, List.append_nil], .nil,
            fun _ => rfl, fun next hnext => ?_, fun _ hmem => absurd hmem List.not_mem_nil⟩
          cases hnext
  | cons dirent dirents ih =>
      unfold packDirents at h
      obtain ⟨st, mid, -, h⟩ := bind_eq_ok h
      obtain ⟨name, hname, h⟩ := liftExcept_bind_eq_ok h
      have hbytes := utf8Bytes_of_fromUtf8 hname
      dsimp only at h
      split at h
      · -- no room for this entry: the reply ends before it
        rename_i hroom
        cases h
        refine ⟨[], by rw [List.map_nil, List.flatten_nil, List.append_nil], .nil,
          fun hall => absurd hall (by simp), fun next hnext => ?_,
          fun _ hmem => absurd hmem List.not_mem_nil⟩
        rw [List.length_nil, List.getElem?_cons_zero, Option.some.injEq] at hnext
        subst hnext
        exact ⟨_, hbytes, hroom⟩
      · generalize hentry : (⟨Qid.ofStat st, dirent.offset, dirent.type_, name⟩ : Dirent) = entry at h
        cases hencode : encode entry buf with
        | error err grown =>
            rw [hencode] at h
            cases h
        | ok u grown =>
            rw [hencode] at h
            have hfits := Dirent.fits_of_encode_eq_ok hencode
            obtain ⟨rfl, -⟩ := Dirent.encode_eq_ok hencode
            obtain ⟨packed, hout, hprefix, herror, hstop, hall⟩ := ih h
            refine ⟨entry :: packed, ?_, ?_, fun hall => herror (Nat.succ_injective hall),
              fun next hnext => hstop next hnext, ?_⟩
            · rw [hout, List.map_cons, List.flatten_cons, List.append_assoc]
            · rw [List.length_cons, List.take_succ_cons]
              subst hentry
              exact .cons ⟨rfl, rfl, hbytes⟩ hprefix
            · intro packedEntry hmem
              rcases List.mem_cons.mp hmem with rfl | hmem
              · exact hfits
              · exact hall packedEntry hmem

end Pack

section Readdir

variable (kernel : Kernel σ File)

/-- A `Treaddir` at the offset of an entry whose name is longer than 236
bytes, on a directory that the kernel lists as `read_dir` and its iterator
list it over Linux's `getdents64`, answers `EINVAL`, and the server is as it
was: a client paging through the directory never gets past that entry. -/
theorem readdir_fails_at_long_name (listing : List Dentry) (msg : Treaddir)
    (world : World σ File) {entry : Fid File} {dir : File} {stream : DirStream} {os : σ}
    {pos : Nat} {dentry : Dentry}
    (hfid : world.server.fids msg.fid = some entry) (hdirectory : entry.filetype = .directory)
    (hopen : entry.file = some dir)
    (hkernel : kernel.readDir dir msg.offset.toInt64 world.os = .ok stream os)
    (hlists : ListsDir (listingCalls listing) () msg.offset.toInt64 pos stream)
    (hentry : listing[msg.offset.toInt64.toNatClampNeg]? = some dentry)
    (hlong : 236 < dentry.name.length) :
    readdir kernel msg world = .error (.os Errno.EINVAL) { world with os } := by
  have hstream := lists_long_name hlists hentry hlong
  subst hstream
  simp [readdir, bind_apply, getFid, okOr, hfid, failIf, hdirectory, getServer_apply, hopen, sys,
    hkernel, packDirents]

end Readdir

/-- A directory whose one entry has a name of 240 bytes, and so a record of
264. -/
def longNameListing : List Dentry :=
  [⟨2, 8, List.replicate 240 97, by rw [List.mem_replicate]; decide,
    by rw [List.length_replicate]; decide, by rw [List.length_replicate]; decide⟩]

/-- The tree's kernel, listing a directory as `read_dir` lists
`longNameListing` from its start. -/
def longNameKernel : Kernel TreeFs.Host Nat :=
  { TreeFs.kernel with readDir := fun _ _ host => .ok ⟨[], some Errno.EINVAL⟩ host }

/-- The server for `/export` with the export root open on fid `0`. -/
def openedExport : World TreeFs.Host Nat :=
  { TreeFs.exportAttached 16 with
    server := { (TreeFs.exportAttached 16).server with
      fids := Function.update (TreeFs.exportAttached 16).server.fids 0
        (some ⟨1, some 1, .directory⟩) } }

/-- The first `Treaddir` of that directory answers `EINVAL`. -/
theorem first_long_name_refused :
    readdir longNameKernel ⟨0, 0, 8192⟩ openedExport = .error (.os Errno.EINVAL) openedExport := by
  have hlong : 236 < (List.replicate 240 (97 : UInt8)).length := by
    rw [List.length_replicate]
    decide
  exact readdir_fails_at_long_name longNameKernel longNameListing ⟨0, 0, 8192⟩ openedExport
    rfl rfl rfl rfl (lists_of_long_name (by decide) rfl hlong 0) rfl hlong

section Pages

variable (kernel : Kernel σ File)

/-- A `Treaddir` that succeeds packs the kernel's listing of the fid's open
directory from the requested offset, into the room for data. -/
theorem readdir_packs_stream {msg : Treaddir} {world : World σ File} {entry : Fid File}
    {dir : File} {stream : DirStream} {os : σ} (hfid : world.server.fids msg.fid = some entry)
    (hopen : entry.file = some dir)
    (hkernel : kernel.readDir dir msg.offset.toInt64 world.os = .ok stream os)
    {reply : Rreaddir} {world' : World σ File}
    (hreply : readdir kernel msg world = .ok reply world') :
    packDirents kernel entry.path (min (world.server.cfg.msize - 11) msg.count).toNat
      stream.error stream.entries [] { world with os } = .ok reply.data.bytes world' := by
  obtain ⟨fid, hfid', h⟩ := getFid_bind_eq_ok hreply
  rw [hfid, Option.some.injEq] at hfid'
  subst hfid'
  obtain ⟨-, h⟩ := failIf_bind_eq_ok h
  have h := getServer_bind_eq_ok h
  obtain ⟨dir', hdir, h⟩ := okOr_bind_eq_ok h
  rw [hopen, Option.some.injEq] at hdir
  subst hdir
  obtain ⟨listed, mid, hsys, h⟩ := bind_eq_ok h
  obtain ⟨os', hcall, rfl⟩ := sys_eq_ok hsys
  rw [hkernel] at hcall
  injection hcall with hlisted hos
  subst hlisted hos
  obtain ⟨data, mid', hpack, h⟩ := bind_eq_ok h
  cases h
  exact hpack

/-- A `Treaddir` on a directory whose names are all at most 236 bytes, that
the kernel lists as `read_dir` and its iterator list it over Linux's
`getdents64`: the reply holds the `Dirent`s of the entries from the requested
offset on, in order and with none left out, each carrying its entry's offset
(the position after it, where the next request resumes), type and name; it
stops before the end of the directory only at an entry whose `Dirent` does
not fit in the room left; so with room for a `Dirent` of a 236-byte name, a
reply is empty only at the end of the directory. -/
theorem readdir_pages (listing : List Dentry)
    (hshort : ∀ dentry ∈ listing, dentry.name.length ≤ 236) (msg : Treaddir)
    (world : World σ File) {entry : Fid File} {dir : File} {stream : DirStream} {os : σ}
    {pos : Nat} (hfid : world.server.fids msg.fid = some entry) (hopen : entry.file = some dir)
    (hkernel : kernel.readDir dir msg.offset.toInt64 world.os = .ok stream os)
    (hlists : ListsDir (listingCalls listing) () msg.offset.toInt64 pos stream)
    (hoffset : ¬ msg.offset.toInt64 < 0) {reply : Rreaddir} {world' : World σ File}
    (hreply : readdir kernel msg world = .ok reply world') :
    ∃ packed : List Dirent,
      reply.data.bytes = (packed.map WireFormat.wire).flatten ∧
      List.Forall₂ (fun dirent entry => entry.offset = dirent.offset ∧
          entry.ty = dirent.type_ ∧ WireFormat.utf8Bytes entry.name = dirent.name)
        (((recordsFrom listing msg.offset.toInt64.toNatClampNeg).map DirRecord.entry).take
          packed.length) packed ∧
      (∀ next, ((recordsFrom listing msg.offset.toInt64.toNatClampNeg).map
          DirRecord.entry)[packed.length]? = some next →
        ∃ entry : Dirent, WireFormat.utf8Bytes entry.name = next.name ∧
          (min (world.server.cfg.msize - 11) msg.count).toNat - reply.data.bytes.length <
            (WireFormat.byteSize entry).toNat) ∧
      (260 ≤ (min (world.server.cfg.msize - 11) msg.count).toNat →
        recordsFrom listing msg.offset.toInt64.toNatClampNeg ≠ [] → packed ≠ []) := by
  have hpack := readdir_packs_stream kernel hfid hopen hkernel hreply
  have hstream := ListsDir.unique hlists (lists_short_names listing hshort hoffset pos)
  subst hstream
  obtain ⟨packed, hout, hprefix, -, hstop, -⟩ := packDirents_eq_ok kernel hpack
  rw [List.nil_append] at hout
  refine ⟨packed, hout, hprefix, hstop, fun hroom hrest hempty => ?_⟩
  subst hempty
  obtain ⟨record, records, hrecords⟩ := List.exists_cons_of_ne_nil hrest
  obtain ⟨first, hname, hover⟩ := hstop record.entry (by rw [hrecords]; rfl)
  have hshort' : record.name.length ≤ 236 :=
    short_of_mem_recordsFrom hshort (by rw [hrecords]; exact List.mem_cons_self)
  have hsize : first.name.utf8ByteSize = record.name.length := by
    rw [← WireFormat.length_utf8Bytes, hname]
    rfl
  rw [Dirent.byteSize_toNat first (by omega), hsize, hout] at hover
  simp only [List.map_nil, List.flatten_nil, List.length_nil, Nat.sub_zero] at hover
  omega

/-- Whatever the host lists, the data of a `Treaddir` reply is the images of
some `Dirent`s, one after the other. A client that decodes `Dirent` after
`Dirent` gets them back, with nothing left over. They carry the offsets, types
and names of the first entries of the kernel's listing, in order. -/
theorem readdir_reply_decodes (msg : Treaddir) (world : World σ File) {entry : Fid File}
    {dir : File} {stream : DirStream} {os : σ} (hfid : world.server.fids msg.fid = some entry)
    (hopen : entry.file = some dir)
    (hkernel : kernel.readDir dir msg.offset.toInt64 world.os = .ok stream os)
    {reply : Rreaddir} {world' : World σ File}
    (hreply : readdir kernel msg world = .ok reply world') :
    ∃ packed : List Dirent,
      ByteStream.readMany (WireFormat.decode : ByteStream.ByteM IoError Dirent) packed.length
          reply.data.bytes = .ok packed [] ∧
      List.Forall₂ (fun dirent entry => entry.offset = dirent.offset ∧
          entry.ty = dirent.type_ ∧ WireFormat.utf8Bytes entry.name = dirent.name)
        (stream.entries.take packed.length) packed := by
  obtain ⟨packed, hout, hprefix, -, -, hfits⟩ :=
    packDirents_eq_ok kernel (readdir_packs_stream kernel hfid hopen hkernel hreply)
  refine ⟨packed, ?_, hprefix⟩
  have hreads : List.Forall₂ (ByteStream.Reads (WireFormat.decode : ByteStream.ByteM IoError Dirent))
      (packed.map WireFormat.wire) packed :=
    (WireFormat.forall₂_encodes_wire hfits).flip.imp fun _ _ hencodes => hencodes.reads
  have hdecode := ByteStream.reads_readMany hreads []
  rw [List.append_nil, ← List.nil_append (List.flatten _), ← hout] at hdecode
  exact hdecode

end Pages

/-- The tree with `/export` holding three files, `a`, `bb` and `ccc`, opened
on fid `0`. -/
def pagedExport : World TreeFs.Host Nat :=
  { openedExport with
    os := { openedExport.os with
      nodes := openedExport.os.nodes ++
        [⟨1, [97], false⟩, ⟨1, [98, 98], false⟩, ⟨1, [99, 99, 99], false⟩] } }

/-- The entries of `/export` in that tree. -/
def pagedListing : List Dentry :=
  [⟨3, 8, [97], by decide, by decide, by decide⟩, ⟨4, 8, [98, 98], by decide, by decide, by decide⟩,
    ⟨5, 8, [99, 99, 99], by decide, by decide, by decide⟩]

/-- A `Treaddir` of `/export` from its start gets a non-empty page. -/
theorem export_readdir_pages :
    ∃ (reply : Rreaddir) (world' : World TreeFs.Host Nat) (packed : List Dirent),
      readdir TreeFs.kernel ⟨0, 0, 8192⟩ pagedExport = .ok reply world' ∧
        reply.data.bytes = (packed.map WireFormat.wire).flatten ∧ packed ≠ [] := by
  have hshort : ∀ dentry ∈ pagedListing, dentry.name.length ≤ 236 := by decide
  have hstream : (⟨(recordsFrom pagedListing 0).map DirRecord.entry, none⟩ : DirStream) =
      ⟨pagedExport.os.listing 1 0, none⟩ := by decide
  have hlists : ListsDir (listingCalls pagedListing) () (0 : UInt64).toInt64 0
      ⟨pagedExport.os.listing 1 0, none⟩ := by
    rw [← hstream]
    exact lists_short_names pagedListing hshort (by decide) 0
  have hrest : recordsFrom pagedListing 0 ≠ [] := by
    rw [recordsFrom_of_getElem? (show pagedListing[0]? = some _ from rfl)]
    exact List.cons_ne_nil _ _
  have hreply : readdir TreeFs.kernel ⟨0, 0, 8192⟩ pagedExport = .ok _ _ := rfl
  obtain ⟨packed, hout, -, -, hprogress⟩ := readdir_pages TreeFs.kernel pagedListing hshort
    ⟨0, 0, 8192⟩ pagedExport rfl rfl rfl hlists (by decide) hreply
  exact ⟨_, _, packed, hreply, hout, hprogress (by decide) hrest⟩

/-- The page of `/export` decodes back to `Dirent`s of its first entries. -/
theorem export_readdir_decodes :
    ∃ (reply : Rreaddir) (world' : World TreeFs.Host Nat) (packed : List Dirent),
      readdir TreeFs.kernel ⟨0, 0, 8192⟩ pagedExport = .ok reply world' ∧
      ByteStream.readMany (WireFormat.decode : ByteStream.ByteM IoError Dirent) packed.length
          reply.data.bytes = .ok packed [] ∧
      List.Forall₂ (fun dirent entry => entry.offset = dirent.offset ∧
          entry.ty = dirent.type_ ∧ WireFormat.utf8Bytes entry.name = dirent.name)
        ((pagedExport.os.listing 1 0).take packed.length) packed := by
  have hreply : readdir TreeFs.kernel ⟨0, 0, 8192⟩ pagedExport = .ok _ _ := rfl
  have hkernel : TreeFs.kernel.readDir 1 (0 : UInt64).toInt64 pagedExport.os =
      .ok ⟨pagedExport.os.listing 1 0, none⟩ pagedExport.os := rfl
  obtain ⟨packed, hdecode, hprefix⟩ := readdir_reply_decodes TreeFs.kernel ⟨0, 0, 8192⟩
    pagedExport rfl rfl hkernel hreply
  exact ⟨_, _, packed, hreply, hdecode, hprefix⟩

end JetStream
