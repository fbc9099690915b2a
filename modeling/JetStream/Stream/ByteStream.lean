import JetStream.Stream.Proc
import JetStream.Stream.LittleEndian

/-!
# Byte readers and writers that keep their state on failure

Rust's `Read` and `Write` traits are driven through `?`: a call that fails
returns early, but every byte already taken from the reader, or already given
to the writer, stays taken or given, which is what `Proc` models.

A reader is an `Proc` over the bytes still to be read and a writer one
over the bytes written so far.  The primitives are `std::io`'s: `read_exact`,
`read_to_end`, `Read::take` (a window of at most `limit` bytes over the
underlying reader) and `write_all`.

Above them stand two specifications, `Reads m bytes value` (run on `bytes`
followed by anything, `m` returns `value` and leaves exactly the suffix) and
`Writes m bytes` (run on any output, `m` appends exactly `bytes`), with the
rules that compose them through `bind`, windows and loops.
-/

namespace ByteStream

open EStateM (Result)
open Proc

variable {ε α β : Type}

/-- A computation over a byte buffer: the bytes not yet read, or the bytes
written so far. -/
abbrev ByteM (ε α : Type) := Proc (List UInt8) ε α

/-! ## Primitives -/

/-- `Read::read_exact`: the next `count` bytes, or `eof` once the input runs
out, in which case everything that was left has been consumed. -/
def readExact (eof : ε) (count : Nat) : ByteM ε (List UInt8) := fun input =>
  if count ≤ input.length then .ok (input.take count) (input.drop count)
  else .error eof []

/-- `Read::read_to_end`: every byte up to the end of the input. -/
def readToEnd : ByteM ε (List UInt8) := fun input => .ok input []

/-- `Read::take(limit)`: run `reader` on a window of at most `limit` bytes of
the input.  What the window leaves unread stays in front of the bytes beyond
it. -/
def window (limit : Nat) (reader : ByteM ε α) : ByteM ε α := fun input =>
  match reader (input.take limit) with
  | .ok value rest => .ok value (rest ++ input.drop limit)
  | .error error rest => .error error (rest ++ input.drop limit)

/-- Run `reader` `count` times and collect the results in order, stopping at
the first failure: `for _ in 0..count { result.push(decode(reader)?) }`. -/
def readMany (reader : ByteM ε α) : Nat → ByteM ε (List α)
  | 0 => pure []
  | count + 1 => do
      let value ← reader
      let values ← readMany reader count
      pure (value :: values)

/-- `Write::write_all` on a growable buffer. -/
def writeAll (bytes : List UInt8) : ByteM ε Unit := fun output =>
  .ok () (output ++ bytes)

@[simp]
theorem readExact_apply (eof : ε) (count : Nat) (input : List UInt8) :
    readExact eof count input =
      if count ≤ input.length then .ok (input.take count) (input.drop count)
      else .error eof [] := rfl

@[simp]
theorem writeAll_apply (bytes output : List UInt8) :
    (writeAll bytes : ByteM ε Unit) output = .ok () (output ++ bytes) := rfl

/-! ## Readers -/

/-- `reader` reads `value` from the front of its input, which starts with
`bytes`, and leaves exactly what follows them. -/
def Reads (reader : ByteM ε α) (bytes : List UInt8) (value : α) : Prop :=
  ∀ rest, reader (bytes ++ rest) = .ok value rest

theorem reads_pure (value : α) : Reads (pure value : ByteM ε α) [] value := by
  intro rest
  rfl

theorem Reads.bind {reader : ByteM ε α} {next : α → ByteM ε β}
    {first second : List UInt8} {value : α} {result : β}
    (hfirst : Reads reader first value) (hsecond : Reads (next value) second result) :
    Reads (reader >>= next) (first ++ second) result := by
  intro rest
  rw [bind_apply, List.append_assoc, hfirst (second ++ rest)]
  exact hsecond rest

/-- `bind` followed by a step that reads nothing more, such as a check on
what was read. -/
theorem Reads.bind_last {reader : ByteM ε α} {next : α → ByteM ε β}
    {bytes : List UInt8} {value : α} {result : β}
    (hfirst : Reads reader bytes value) (hsecond : Reads (next value) [] result) :
    Reads (reader >>= next) bytes result := by
  have hread := hfirst.bind hsecond
  rwa [List.append_nil] at hread

theorem Reads.map {reader : ByteM ε α} {bytes : List UInt8} {value : α}
    (hreader : Reads reader bytes value) (f : α → β) :
    Reads (f <$> reader) bytes (f value) := by
  intro rest
  show (reader >>= fun value => pure (f value)) (bytes ++ rest) = _
  rw [bind_apply, hreader rest]
  rfl

theorem reads_readExact (eof : ε) (bytes : List UInt8) :
    Reads (readExact eof bytes.length) bytes bytes := by
  intro rest
  simp

/-- A window at least as long as the bytes a reader consumes is invisible: the
bytes it holds beyond them are left, in front of those beyond it. -/
theorem Reads.window_of_le {reader : ByteM ε α} {bytes : List UInt8} {value : α}
    {limit : Nat} (hreader : Reads reader bytes value) (hlimit : bytes.length ≤ limit) :
    Reads (ByteStream.window limit reader) bytes value := by
  intro rest
  have htake : (bytes ++ rest).take limit = bytes ++ rest.take (limit - bytes.length) := by
    rw [List.take_append, List.take_of_length_le hlimit]
  have hdrop : (bytes ++ rest).drop limit = rest.drop (limit - bytes.length) := by
    rw [List.drop_append, List.drop_of_length_le hlimit, List.nil_append]
  simp only [ByteStream.window, htake, hreader (rest.take (limit - bytes.length)), hdrop,
    List.take_append_drop]

/-- So is a window exactly as long as those bytes. -/
theorem Reads.window {reader : ByteM ε α} {bytes : List UInt8} {value : α}
    (hreader : Reads reader bytes value) :
    Reads (ByteStream.window bytes.length reader) bytes value :=
  hreader.window_of_le (Nat.le_refl _)

/-- A reader that drains its whole input, as `read_to_end` and
`read_to_string` do, reads exactly a window as long as that input. -/
theorem reads_window_of_drains {reader : ByteM ε α} {bytes : List UInt8}
    {value : α} (hreader : reader bytes = .ok value []) :
    Reads (ByteStream.window bytes.length reader) bytes value := by
  intro rest
  have htake : (bytes ++ rest).take bytes.length = bytes := by simp
  have hdrop : (bytes ++ rest).drop bytes.length = rest := by simp
  simp only [ByteStream.window, htake, hreader, hdrop, List.nil_append]

@[simp]
theorem readToEnd_apply (input : List UInt8) :
    (readToEnd : ByteM ε (List UInt8)) input = .ok input [] := rfl

theorem Reads.attempt {ε' : Type} {reader : ByteM ε α} {bytes : List UInt8}
    {value : α} (hreader : Reads reader bytes value) :
    Reads (Proc.attempt reader : ByteM ε' (Except ε α)) bytes (.ok value) := by
  intro rest
  simp only [Proc.attempt, hreader rest]

/-- The loop rule: reading `values.length` values, each from its own chunk,
reads the concatenated chunks. -/
theorem reads_readMany {reader : ByteM ε α} {chunks : List (List UInt8)}
    {values : List α} (hitems : List.Forall₂ (Reads reader) chunks values) :
    Reads (readMany reader values.length) chunks.flatten values := by
  induction hitems with
  | nil => exact reads_pure []
  | @cons chunk value chunks values hhead _ ih =>
      have htail : Reads (readMany reader values.length >>= fun rest =>
          pure (value :: rest)) (chunks.flatten ++ []) (value :: values) :=
        ih.bind (reads_pure (value :: values))
      rw [List.append_nil] at htail
      rw [List.flatten_cons, List.length_cons, readMany]
      exact hhead.bind htail

/-! ## Readers that refuse

The dual of `Reads` for a decoder that fails part way: what it read before
failing stays read, and what follows is left for the next reader. -/

/-- `reader` fails with `error` once it has read `bytes` from the front of its
input, and leaves exactly what follows them. -/
def Refuses (reader : ByteM ε α) (bytes : List UInt8) (error : ε) : Prop :=
  ∀ rest, reader (bytes ++ rest) = .error error rest

theorem Refuses.bind {reader : ByteM ε α} {bytes : List UInt8} {error : ε}
    (hreader : Refuses reader bytes error) (next : α → ByteM ε β) :
    Refuses (reader >>= next) bytes error := by
  intro rest
  rw [bind_apply, hreader rest]

theorem Refuses.map {reader : ByteM ε α} {bytes : List UInt8} {error : ε}
    (hreader : Refuses reader bytes error) (f : α → β) :
    Refuses (f <$> reader) bytes error :=
  hreader.bind _

/-- A value read, and then a refusal of what follows it. -/
theorem Reads.bind_refuses {reader : ByteM ε α} {next : α → ByteM ε β}
    {first second : List UInt8} {value : α} {error : ε}
    (hfirst : Reads reader first value) (hsecond : Refuses (next value) second error) :
    Refuses (reader >>= next) (first ++ second) error := by
  intro rest
  rw [bind_apply, List.append_assoc, hfirst (second ++ rest)]
  exact hsecond rest

/-- `attempt` turns a refusal into a value read. -/
theorem Refuses.attempt {ε' : Type} {reader : ByteM ε α} {bytes : List UInt8}
    {error : ε} (hreader : Refuses reader bytes error) :
    Reads (Proc.attempt reader : ByteM ε' (Except ε α)) bytes (.error error) := by
  intro rest
  simp only [Proc.attempt, hreader rest]

/-! ## Readers that take only from the front

A decoder that is handed hostile bytes must still leave the stream where the
next frame can be looked for: whatever it returns, and whether it succeeds or
fails, it only ever removes bytes from the front.  `FromFront` says this of a
reader; a `window` in addition removes at most its `limit`. -/

/-- `reader` takes bytes only from the front of its input: whether it
succeeds or fails, what it leaves is a suffix of what it was given. -/
def FromFront (reader : ByteM ε α) : Prop :=
  ∀ input, Result.state (reader input) <:+ input

theorem fromFront_pure (value : α) : FromFront (pure value : ByteM ε α) :=
  fun input => List.suffix_refl input

theorem fromFront_throw (error : ε) : FromFront (throw error : ByteM ε α) :=
  fun input => List.suffix_refl input

theorem FromFront.bind {reader : ByteM ε α} {next : α → ByteM ε β}
    (hreader : FromFront reader) (hnext : ∀ value, FromFront (next value)) :
    FromFront (reader >>= next) := by
  intro input
  have hfirst := hreader input
  rw [bind_apply]
  cases hresult : reader input with
  | ok value rest =>
      rw [hresult, Result.state_ok] at hfirst
      exact (hnext value rest).trans hfirst
  | error error rest =>
      rw [hresult, Result.state_error] at hfirst
      exact hfirst

theorem FromFront.map {reader : ByteM ε α} (hreader : FromFront reader)
    (f : α → β) : FromFront (f <$> reader) :=
  hreader.bind fun value => fromFront_pure (f value)

theorem FromFront.ite {c : Prop} [Decidable c] {reader other : ByteM ε α}
    (hreader : FromFront reader) (hother : FromFront other) :
    FromFront (if c then reader else other) := by
  by_cases hc : c
  · rw [if_pos hc]
    exact hreader
  · rw [if_neg hc]
    exact hother

theorem fromFront_readExact (eof : ε) (count : Nat) :
    FromFront (readExact eof count) := by
  intro input
  rw [readExact_apply]
  split
  · exact List.drop_suffix count input
  · exact List.nil_suffix

theorem fromFront_readToEnd : FromFront (readToEnd : ByteM ε (List UInt8)) :=
  fun _ => List.nil_suffix

/-- What a window leaves is what its reader left of the window, followed by
the bytes beyond it. -/
theorem window_state (limit : Nat) (reader : ByteM ε α) (input : List UInt8) :
    Result.state (window limit reader input) =
      Result.state (reader (input.take limit)) ++ input.drop limit := by
  simp only [window]
  cases reader (input.take limit) <;> rfl

theorem FromFront.window {reader : ByteM ε α} (hreader : FromFront reader)
    (limit : Nat) : FromFront (ByteStream.window limit reader) := by
  intro input
  obtain ⟨skipped, hskipped⟩ := hreader (input.take limit)
  refine ⟨skipped, ?_⟩
  rw [window_state, ← List.append_assoc, hskipped, List.take_append_drop]

/-- A window takes at most `limit` bytes, whatever its reader does. -/
theorem window_takes_le (limit : Nat) (reader : ByteM ε α) (input : List UInt8) :
    input.length ≤ (Result.state (window limit reader input)).length + limit := by
  rw [window_state, List.length_append, List.length_drop]
  omega

theorem window_eq_ok_takes_le {limit : Nat} {reader : ByteM ε α}
    {input rest : List UInt8} {value : α}
    (h : window limit reader input = .ok value rest) :
    input.length ≤ rest.length + limit := by
  have htaken := window_takes_le limit reader input
  rwa [h, Result.state_ok] at htaken

theorem FromFront.attempt {ε' : Type} {reader : ByteM ε α}
    (hreader : FromFront reader) :
    FromFront (Proc.attempt reader : ByteM ε' (Except ε α)) := by
  intro input
  have hfirst := hreader input
  simp only [Proc.attempt]
  cases hresult : reader input with
  | ok value rest =>
      rw [hresult, Result.state_ok] at hfirst
      exact hfirst
  | error error rest =>
      rw [hresult, Result.state_error] at hfirst
      exact hfirst

theorem fromFront_readMany {reader : ByteM ε α} (hreader : FromFront reader)
    (count : Nat) : FromFront (readMany reader count) := by
  induction count with
  | zero => exact fromFront_pure []
  | succ count ih =>
      exact hreader.bind fun value =>
        ih.bind fun values => fromFront_pure (value :: values)

/-- One more read after a run of `readMany` extends it at the end. -/
theorem readMany_succ_of_ok {reader : ByteM ε α} :
    ∀ {count : Nat} {input mid rest : List UInt8} {values : List α} {value : α},
      readMany reader count input = .ok values mid → reader mid = .ok value rest →
      readMany reader (count + 1) input = .ok (values ++ [value]) rest
  | 0, _, _, _, _, _, hrun, hlast => by
      cases hrun
      simp only [readMany, bind_apply, hlast, pure_apply, List.nil_append]
  | count + 1, _, _, _, _, _, hrun, hlast => by
      obtain ⟨first, mid, hfirst, hrun⟩ := bind_eq_ok hrun
      obtain ⟨others, mid', hothers, h⟩ := bind_eq_ok hrun
      cases h
      have hmore := readMany_succ_of_ok hothers hlast
      rw [readMany, bind_apply, hfirst]
      simp only [bind_apply, hmore, pure_apply, List.cons_append]

/-! ## What a reader accepts

`Reads` runs a reader on bytes an encoder produced.  Its converse is about
every input: a value the reader accepts, from whatever bytes, satisfies the
limits `fits`, and the reader took exactly as many bytes for it as the value's
own image `wire` has. -/

theorem readExact_eq_ok {eof : ε} {count : Nat} {input bytes rest : List UInt8}
    (h : readExact eof count input = .ok bytes rest) :
    count ≤ input.length ∧ bytes = input.take count ∧ rest = input.drop count := by
  rw [readExact_apply] at h
  split at h
  · cases h
    exact ⟨‹_›, rfl, rfl⟩
  · cases h

theorem window_eq_ok {limit : Nat} {reader : ByteM ε α} {input rest : List UInt8}
    {value : α} (h : window limit reader input = .ok value rest) :
    ∃ inner, reader (input.take limit) = .ok value inner ∧
      rest = inner ++ input.drop limit := by
  simp only [window] at h
  cases hreader : reader (input.take limit) with
  | ok value' inner =>
      rw [hreader] at h
      cases h
      exact ⟨inner, rfl, rfl⟩
  | error error inner =>
      rw [hreader] at h
      cases h

/-- Every value `reader` accepts satisfies `fits`, and took exactly as many
bytes as its `wire` image has. -/
def Sound (reader : ByteM ε α) (fits : α → Prop) (wire : α → List UInt8) : Prop :=
  ∀ input value rest, reader input = .ok value rest →
    fits value ∧ input.length = (wire value).length + rest.length

theorem sound_pure {fits : α → Prop} {wire : α → List UInt8} {value : α}
    (hfits : fits value) (hwire : wire value = []) :
    Sound (pure value : ByteM ε α) fits wire := by
  intro input result rest h
  cases h
  simp [hfits, hwire]

theorem Sound.map {reader : ByteM ε α} {fits : α → Prop} {wire : α → List UInt8}
    {fits' : β → Prop} {wire' : β → List UInt8} (hreader : Sound reader fits wire)
    (f : α → β) (hfits : ∀ value, fits value → fits' (f value))
    (hwire : ∀ value, (wire' (f value)).length = (wire value).length) :
    Sound (f <$> reader) fits' wire' := by
  intro input result rest h
  obtain ⟨value, hvalue, rfl⟩ := Proc.map_eq_ok h
  obtain ⟨hfit, hlength⟩ := hreader input value rest hvalue
  exact ⟨hfits value hfit, by rw [hwire, hlength]⟩

/-- Two readers in turn accept the pair of what each accepts. -/
theorem Sound.pair {first : ByteM ε α} {second : ByteM ε β}
    {fitsFirst : α → Prop} {wireFirst : α → List UInt8}
    {fitsSecond : β → Prop} {wireSecond : β → List UInt8}
    (hfirst : Sound first fitsFirst wireFirst)
    (hsecond : Sound second fitsSecond wireSecond) :
    Sound (do
        let a ← first
        let b ← second
        pure (a, b))
      (fun pair => fitsFirst pair.1 ∧ fitsSecond pair.2)
      (fun pair => wireFirst pair.1 ++ wireSecond pair.2) := by
  intro input result rest h
  obtain ⟨a, mid, ha, h⟩ := Proc.bind_eq_ok h
  obtain ⟨b, last, hb, h⟩ := Proc.bind_eq_ok h
  cases h
  obtain ⟨hfitA, hlengthA⟩ := hfirst input a mid ha
  obtain ⟨hfitB, hlengthB⟩ := hsecond mid b rest hb
  refine ⟨⟨hfitA, hfitB⟩, ?_⟩
  rw [List.length_append, hlengthA, hlengthB, Nat.add_assoc]

/-- The loop rule: `count` values, each accepted by `reader`, took the bytes
of their images one after the other. -/
theorem Sound.readMany {reader : ByteM ε α} {fits : α → Prop}
    {wire : α → List UInt8} (hreader : Sound reader fits wire) (count : Nat) :
    Sound (ByteStream.readMany reader count)
      (fun values => values.length = count ∧ ∀ value ∈ values, fits value)
      (fun values => (values.map wire).flatten) := by
  induction count with
  | zero =>
      exact sound_pure ⟨rfl, by simp⟩ rfl
  | succ count ih =>
      intro input result rest h
      obtain ⟨value, mid, hvalue, h⟩ := Proc.bind_eq_ok h
      obtain ⟨values, last, hvalues, h⟩ := Proc.bind_eq_ok h
      cases h
      obtain ⟨hfit, hlength⟩ := hreader input value mid hvalue
      obtain ⟨⟨hcount, hfits⟩, hlengths⟩ := ih mid values rest hvalues
      refine ⟨⟨by simp [hcount], ?_⟩, ?_⟩
      · intro other hother
        rcases List.mem_cons.mp hother with rfl | hmem
        · exact hfit
        · exact hfits other hmem
      · simp only [List.map_cons, List.flatten_cons, List.length_append] at hlengths ⊢
        omega

/-! ## Writers -/

/-- `writer` appends exactly `bytes` to whatever was written before. -/
def Writes (writer : ByteM ε Unit) (bytes : List UInt8) : Prop :=
  ∀ output, writer output = .ok () (output ++ bytes)

theorem writes_pure : Writes (pure () : ByteM ε Unit) [] := by
  intro output
  simp

theorem writes_writeAll (bytes : List UInt8) :
    Writes (writeAll bytes : ByteM ε Unit) bytes := by
  intro output
  rfl

theorem Writes.seq {first second : ByteM ε Unit} {firstBytes secondBytes : List UInt8}
    (hfirst : Writes first firstBytes) (hsecond : Writes second secondBytes) :
    Writes (first >>= fun _ => second) (firstBytes ++ secondBytes) := by
  intro output
  rw [bind_apply, hfirst output]
  show second (output ++ firstBytes) = _
  rw [hsecond, List.append_assoc]

/-- The loop rule for `for elem in self { elem.encode(writer)?; }`. -/
theorem writes_forM {writer : α → ByteM ε Unit} {values : List α}
    {chunks : List (List UInt8)}
    (hitems : List.Forall₂ (fun value bytes => Writes (writer value) bytes)
      values chunks) :
    Writes (values.forM writer) chunks.flatten := by
  induction hitems with
  | nil => exact writes_pure
  | @cons value chunk values chunks hhead _ ih =>
      rw [List.flatten_cons]
      exact hhead.seq ih

/-! ## The loop of `read_to_end`

`Read::read_to_end` calls the reader's own `read` into the spare room of its
buffer until a call returns no byte.  How much room each call gets is the
standard library's choice; here it is any function of what was read so far. -/

/-- `Read::read_to_end` over a reader whose `read count` reads into a buffer of
`count` bytes, for at most `fuel` calls: what was read once a call returns no
byte, or `none` if the fuel ran out first. -/
def readToEndWith {S : Type} (read : Nat → Proc S ε (List UInt8))
    (room : List UInt8 → Nat) : Nat → List UInt8 → Proc S ε (Option (List UInt8))
  | 0, _ => pure none
  | fuel + 1, buf => do
      let chunk ← read (room buf)
      if chunk = [] then pure (some buf) else readToEndWith read room fuel (buf ++ chunk)

/-- A reader that, from a state it never leaves, answers every call into a
non-empty buffer with some bytes keeps `read_to_end` reading for as long as it
is let. -/
theorem readToEndWith_eq_none {S : Type} {read : Nat → Proc S ε (List UInt8)}
    {room : List UInt8 → Nat} {state : S} (hroom : ∀ buf, 0 < room buf)
    (hread : ∀ count, 0 < count → ∃ chunk, chunk ≠ [] ∧ read count state = .ok chunk state) :
    ∀ fuel buf, readToEndWith read room fuel buf state = .ok none state := by
  intro fuel
  induction fuel with
  | zero => intro buf; rfl
  | succ fuel ih =>
      intro buf
      obtain ⟨chunk, hchunk, hrun⟩ := hread (room buf) (hroom buf)
      rw [readToEndWith, bind_apply, hrun]
      simp only [if_neg hchunk]
      exact ih (buf ++ chunk)

/-! ## Writers that only append

`Writes` describes a writer that succeeds.  Whether it succeeds or fails, a
writer built from `write_all` only ever appends to its buffer: what it wrote
before it failed stays written.  That is `Keeps (· <+: ·)`, which composes
through `bind` and branches as every footprint does. -/

theorem keeps_writeAll (bytes : List UInt8) :
    Keeps (· <+: ·) (writeAll bytes : ByteM ε Unit) :=
  fun output => List.prefix_append output bytes

theorem keeps_forM {writer : α → ByteM ε Unit}
    (hwriter : ∀ value, Keeps (· <+: ·) (writer value)) (values : List α) :
    Keeps (· <+: ·) (values.forM writer) := by
  induction values with
  | nil => exact keeps_pure ()
  | cons value values ih => exact (hwriter value).bind fun _ => ih

end ByteStream
