import JetStream.Ufs.TreeFs

/-!
# Lookups that ignore ASCII case

With `ascii_casefold` in its configuration, the server tries once more, ignoring
ASCII case, to look up a name its host does not have (`ENOENT`).
`ascii_casefold_lookup` opens the parent as a directory, lists it with
`read_dir`, and opens the first entry whose name equals the requested one up to
ASCII case. It opens that entry under the entry's own name.

`casefoldResolve` states what that is for, in terms of the listing. It opens the
first entry that matches (`List.find?`). With no match it fails with the error
that ended the listing, or with `ENOENT`. The source's loop implements it
(`casefoldMatch_eq_resolve`). Equality up to ASCII case is equality of the
lowercased names (`eqIgnoreAsciiCase_iff`), so names that differ only in ASCII
case resolve alike (`casefoldResolve_congr`). A walk that falls back to the
lookup therefore opens that first entry (`casefold_walk_opens_first_match`).
-/

namespace JetStream

open Proc

/-! ## Equality up to ASCII case -/

/-- `eq_ignore_ascii_case` compares the names after `to_ascii_lowercase`. -/
theorem eqIgnoreAsciiCase_iff (left right : List UInt8) :
    eqIgnoreAsciiCase left right = true ↔
      left.map toAsciiLowercase = right.map toAsciiLowercase := by
  induction left generalizing right with
  | nil => cases right <;> simp [eqIgnoreAsciiCase]
  | cons byte left ih =>
      cases right with
      | nil => simp [eqIgnoreAsciiCase]
      | cons byte' right =>
          have hrest := ih right
          simp only [eqIgnoreAsciiCase, decide_eq_true_eq] at hrest ⊢
          simp only [List.length_cons, Nat.add_right_cancel_iff, List.zip_cons_cons,
            List.all_cons, Bool.and_eq_true, decide_eq_true_eq, List.map_cons, List.cons.injEq]
          rw [← hrest]
          tauto

/-- A name may be replaced by one equal to it up to ASCII case. -/
theorem eqIgnoreAsciiCase_congr_left {name name' : List UInt8}
    (h : eqIgnoreAsciiCase name name' = true) (other : List UInt8) :
    eqIgnoreAsciiCase name other = eqIgnoreAsciiCase name' other := by
  have hlower := (eqIgnoreAsciiCase_iff name name').mp h
  rw [Bool.eq_iff_iff, eqIgnoreAsciiCase_iff, eqIgnoreAsciiCase_iff, hlower]

/-! ## What the lookup is for -/

/-- The entry `ascii_casefold_lookup` is after: the first in the listing whose
name equals `name` up to ASCII case. -/
def firstCasefoldMatch (name : List UInt8) (entries : List DirEntry) : Option DirEntry :=
  entries.find? fun entry => eqIgnoreAsciiCase name entry.name

theorem firstCasefoldMatch_congr {name name' : List UInt8}
    (h : eqIgnoreAsciiCase name name' = true) (entries : List DirEntry) :
    firstCasefoldMatch name' entries = firstCasefoldMatch name entries := by
  have hsame : (fun entry : DirEntry => eqIgnoreAsciiCase name' entry.name) =
      fun entry => eqIgnoreAsciiCase name entry.name :=
    funext fun entry => (eqIgnoreAsciiCase_congr_left h entry.name).symm
  unfold firstCasefoldMatch
  rw [hsame]

section Resolve

variable {σ File : Type} (kernel : Kernel σ File)

/-- What `ascii_casefold_lookup` does once it has the parent's listing. It opens
the first entry that matches, under the entry's own name. With no match it fails
as the listing did, or with `ENOENT` if the listing just ended. -/
def casefoldResolve (parent : File) (name : List UInt8) (dirents : DirStream) :
    UfsM σ File File :=
  match firstCasefoldMatch name dirents.entries with
  | some entry => lookup kernel parent entry.name
  | none => throw (.os (dirents.error.getD Errno.ENOENT))

/-- The source's loop over the entries implements `casefoldResolve`. -/
theorem casefoldMatch_eq_resolve (parent : File) (name : List UInt8) (error : Option Int32)
    (entries : List DirEntry) :
    casefoldMatch kernel parent name error entries =
      casefoldResolve kernel parent name ⟨entries, error⟩ := by
  induction entries with
  | nil => cases error <;> rfl
  | cons entry entries ih =>
      by_cases hmatch : eqIgnoreAsciiCase name entry.name = true
      · have hfirst : firstCasefoldMatch name (entry :: entries) = some entry :=
          List.find?_cons_of_pos hmatch
        simp only [casefoldMatch, casefoldResolve, hfirst, if_pos hmatch]
      · have hnext : firstCasefoldMatch name (entry :: entries) =
            firstCasefoldMatch name entries :=
          List.find?_cons_of_neg hmatch
        simp only [casefoldMatch, if_neg hmatch, ih, casefoldResolve, hnext]

/-- The outcome depends on the requested name only up to ASCII case. -/
theorem casefoldResolve_congr (parent : File) {name name' : List UInt8}
    (h : eqIgnoreAsciiCase name name' = true) (dirents : DirStream) :
    casefoldResolve kernel parent name' dirents = casefoldResolve kernel parent name dirents := by
  unfold casefoldResolve
  rw [firstCasefoldMatch_congr h]

/-- `ascii_casefold_lookup` once it has opened and listed the parent. -/
theorem asciiCasefoldLookup_eq {proc parent dir : File} {name : List UInt8}
    {world world₁ : World σ File} {dirents : DirStream} {os : σ}
    (hopen : openFid kernel proc parent P9_DIRECTORY world = .ok dir world₁)
    (hlist : kernel.readDir dir 0 world₁.os = .ok dirents os) :
    asciiCasefoldLookup kernel proc parent name world =
      casefoldResolve kernel parent name dirents { world₁ with os } := by
  simp only [asciiCasefoldLookup, bind_apply, hopen, sys, hlist]
  exact congrFun (casefoldMatch_eq_resolve kernel parent name dirents.error dirents.entries) _

/-- A name the host does not have is looked up again, ignoring case, when
the server folds case. -/
theorem walkLookup_of_absent {proc parent : File} {name : List UInt8}
    {world : World σ File} {os : σ}
    (habsent : kernel.openat (some parent) name
      (Libc.O_PATH ||| Libc.O_NOFOLLOW ||| Libc.O_CLOEXEC) 0 world.os = .error Errno.ENOENT os) :
    walkLookup kernel proc parent true name world =
      asciiCasefoldLookup kernel proc parent name { world with os } := by
  have hlookup : (attempt (lookup kernel parent name) : UfsM σ File (Except IoError File)) world =
      .ok (.error (.os Errno.ENOENT)) { world with os } := by
    simp only [attempt, lookup, sys, habsent]
  simp only [walkLookup, bind_apply, hlookup]
  -- `ENOENT` is the one error the fallback is for
  rw [if_pos ⟨trivial, rfl⟩]

end Resolve

/-- With `ascii_casefold` on, take a name the host does not have. One name of
a walk opens the first entry of the parent's listing whose name equals it up to
ASCII case, under the entry's own name. With no such entry it fails with the
error that ended the listing, or with `ENOENT`. A name that differs from it only
in ASCII case resolves the same way in that listing. -/
theorem casefold_walk_opens_first_match {σ File : Type} (kernel : Kernel σ File)
    (proc parent : File) (name : List UInt8) (world : World σ File) {os : σ} {dir : File}
    {world₁ : World σ File} {dirents : DirStream} {os₂ : σ}
    (habsent : kernel.openat (some parent) name
      (Libc.O_PATH ||| Libc.O_NOFOLLOW ||| Libc.O_CLOEXEC) 0 world.os = .error Errno.ENOENT os)
    (hopen : openFid kernel proc parent P9_DIRECTORY { world with os } = .ok dir world₁)
    (hlist : kernel.readDir dir 0 world₁.os = .ok dirents os₂) :
    walkLookup kernel proc parent true name world =
        casefoldResolve kernel parent name dirents { world₁ with os := os₂ } ∧
      ∀ name', eqIgnoreAsciiCase name name' = true →
        casefoldResolve kernel parent name' dirents = casefoldResolve kernel parent name dirents := by
  refine ⟨?_, fun name' hname => casefoldResolve_congr kernel parent hname dirents⟩
  rw [walkLookup_of_absent kernel habsent]
  exact asciiCasefoldLookup_eq kernel hopen hlist

/-- A tree with `/proc` on descriptor `0` and the directory `/dir` on
descriptor `1`, which `open_fid` reopens through `/proc/self/fd/1`. The
directory holds `Foo`. -/
def casefoldHost : TreeFs.Host where
  nodes := [⟨0, [], true⟩, ⟨0, [112, 114, 111, 99], true⟩, ⟨0, [100, 105, 114], true⟩,
    ⟨2, [70, 111, 111], false⟩]
  fds := [1, 2]
  maxFds := 16

/-- The server of `/export`, on `casefoldHost`. -/
def casefoldWorld : World TreeFs.Host Nat :=
  ⟨(TreeFs.exportWorld 16).server, casefoldHost⟩

/-- A walk to `foo` from the directory of descriptor `1`, with `/proc` on
descriptor `0`, resolves to `Foo`. -/
theorem casefold_walk_opens_foo :
    ∃ (os : TreeFs.Host) (dir : Nat) (world₁ : World TreeFs.Host Nat) (dirents : DirStream)
      (os₂ : TreeFs.Host),
      TreeFs.kernel.openat (some 1) [102, 111, 111]
          (Libc.O_PATH ||| Libc.O_NOFOLLOW ||| Libc.O_CLOEXEC) 0 casefoldWorld.os =
        .error Errno.ENOENT os ∧
      openFid TreeFs.kernel 0 1 P9_DIRECTORY { casefoldWorld with os } = .ok dir world₁ ∧
      TreeFs.kernel.readDir dir 0 world₁.os = .ok dirents os₂ ∧
      (walkLookup TreeFs.kernel 0 1 true [102, 111, 111] casefoldWorld =
          casefoldResolve TreeFs.kernel 1 [102, 111, 111] dirents { world₁ with os := os₂ } ∧
        ∀ name', eqIgnoreAsciiCase [102, 111, 111] name' = true →
          casefoldResolve TreeFs.kernel 1 name' dirents =
            casefoldResolve TreeFs.kernel 1 [102, 111, 111] dirents) := by
  have habsent : TreeFs.kernel.openat (some 1) [102, 111, 111]
      (Libc.O_PATH ||| Libc.O_NOFOLLOW ||| Libc.O_CLOEXEC) 0 casefoldWorld.os =
        .error Errno.ENOENT casefoldHost := by rfl
  have hopen : openFid TreeFs.kernel 0 1 P9_DIRECTORY { casefoldWorld with os := casefoldHost } =
      .ok 2 { casefoldWorld with os := { casefoldHost with fds := [1, 2, 2] } } := by rfl
  have hlist : TreeFs.kernel.readDir 2 0 { casefoldHost with fds := [1, 2, 2] } =
      .ok ⟨[⟨3, 1, 8, [70, 111, 111]⟩], none⟩ { casefoldHost with fds := [1, 2, 2] } := by rfl
  exact ⟨_, _, _, _, _, habsent, hopen, hlist, casefold_walk_opens_first_match TreeFs.kernel 0 1
    [102, 111, 111] casefoldWorld habsent hopen hlist⟩

/-- There the walk opens `Foo`, on a new descriptor. -/
example : walkLookup TreeFs.kernel 0 1 true [102, 111, 111] casefoldWorld =
    .ok 3 { casefoldWorld with os := { casefoldHost with fds := [1, 2, 2, 3] } } := by
  rfl

end JetStream
