import JetStream.Ufs.Casefold
import JetStream.Ufs.Lifecycle

/-!
# Walks whose names are plain stay inside the export

`Confinement.lean` shows how a walk leaves the export. The server hands every
name to the kernel as it is, so a `..` from the export root reaches `/`. This
module shows that names are the only way out. `Kernel.Confines` says what the
kernel must do: opening a plain name (no `/` in it, not `..`) from a place
inside the export gives a place inside, a good host lists only plain names,
and a clone of a place inside is inside. For any kernel that does, a session
of `Tversion`, `Tattach`, `Twalk` and `Tclunk` requests whose walk names are
plain keeps every fid on a place inside (`plain_walks_stay_inside`).

Three facts carry it.
* `OsOpens`: the requests of such a session only open descriptors, which
  keeps the host good and the places inside (`walk_opens`, `attach_opens`).
* Every descriptor a walk ends on is inside: a name found as it is, a name
  found by the case-folding scan among the entries of the directory, or a
  clone of the start when no name was walked (`doWalk_inside`).
* `Confined`: each handler of the session keeps every fid inside, and so does
  a whole run of frames (`mapM_handle_confined`).

The tree of `TreeFs`, whose only links are those of `/proc/self/fd`, meets the
contract with the objects at or below the export root as the inside
(`TreeFs.confines`): following parents from such an object reaches the root
(`Host.Below`), and a plain name resolves from a directory to the directory
itself or to one of its entries (`Host.resolve_below`).
-/

namespace JetStream

/-- A name that resolves from a directory to the directory or to one of its
entries: no `/` in it, and not `..`. -/
def Plain (name : List UInt8) : Prop :=
  47 ∉ name ∧ name ≠ [46, 46]

instance (name : List UInt8) : Decidable (Plain name) :=
  inferInstanceAs (Decidable (47 ∉ name ∧ name ≠ [46, 46]))

/-- What a kernel has to do for walks of plain names to stay below the export
root. `Good` is what the host keeps, `Inside os file` says that `file` holds a
place at or below the root, and `Opens os os'` says that `os'` only opened
descriptors since `os`, which keeps the host good and every place inside.
Opening without `O_CREAT`, `fstatat`, listing a directory and `dup` only open
descriptors. A plain name opened from a place inside is inside, the names a
good host lists are plain, and a clone of a descriptor inside is inside. -/
structure Kernel.Confines {σ File : Type} (kernel : Kernel σ File) (Good : σ → Prop)
    (Inside : σ → File → Prop) (Opens : σ → σ → Prop) : Prop where
  good : ∀ {os os'}, Opens os os' → Good os → Good os'
  inside : ∀ {os os' file}, Opens os os' → Inside os file → Inside os' file
  openat_opens : ∀ (dirfd : Option File) (path : List UInt8) (flags : Int32) (mode : UInt32),
    flags &&& Libc.O_CREAT = 0 → Proc.Keeps Opens (kernel.openat dirfd path flags mode)
  openat_inside : ∀ {dir : File} {path : List UInt8} {flags : Int32} {mode : UInt32} {os : σ}
    {fd : File} {os' : σ}, flags &&& Libc.O_CREAT = 0 → Plain path → Good os → Inside os dir →
      kernel.openat (some dir) path flags mode os = .ok fd os' → Inside os' fd
  fstatat_opens : ∀ (file : File) (path : List UInt8) (flags : Int32),
    Proc.Keeps Opens (kernel.fstatat file path flags)
  readDir_opens : ∀ (fd : File) (offset : Int64), Proc.Keeps Opens (kernel.readDir fd offset)
  readDir_plain : ∀ {fd : File} {offset : Int64} {os : σ} {dirents : DirStream} {os' : σ},
    Good os → kernel.readDir fd offset os = .ok dirents os' →
      ∀ entry ∈ dirents.entries, Plain entry.name
  dup_opens : ∀ (fd : File), Proc.Keeps Opens (kernel.dup fd)
  dup_inside : ∀ {fd clone : File} {os os' : σ}, Inside os fd → kernel.dup fd os = .ok clone os' →
    Inside os' clone

namespace TreeFs

/-- A name with no `/` is one component, or none when it is empty. -/
theorem components_of_no_slash {name : List UInt8} (h : 47 ∉ name) (hne : name ≠ []) :
    components name = [name] := by
  induction name with
  | nil => exact absurd rfl hne
  | cons byte bytes ih =>
      have hbyte : byte ≠ 47 := fun heq => h (heq ▸ List.mem_cons_self)
      have hbytes : 47 ∉ bytes := fun hmem => h (List.mem_cons_of_mem _ hmem)
      cases bytes with
      | nil => simp [components, hbyte]
      | cons next rest =>
          have hnext : next ≠ 47 := fun heq => hbytes (heq ▸ List.mem_cons_self)
          rw [components, if_neg hbyte, ih hbytes (List.cons_ne_nil _ _)]
          simp [hnext]

namespace Host

/-- `object` lies at or below `root`: following parents from it reaches
`root`. -/
inductive Below (host : Host) (root : Nat) : Nat → Prop
  | root : Below host root root
  | child {object : Nat} {node : Node} (hnode : host.node? object = some node)
      (hparent : Below host root node.parent) : Below host root object

/-- `host'` is `host` with more descriptors open: the same tree, and the
descriptors that were open still on the same objects. -/
def Opens (host host' : Host) : Prop :=
  host'.nodes = host.nodes ∧ host.fds <+: host'.fds

instance : Std.Refl Opens :=
  ⟨fun _ => ⟨rfl, List.prefix_refl _⟩⟩

instance : IsTrans Host Opens :=
  ⟨fun _ _ _ hfirst hsecond => ⟨hsecond.1.trans hfirst.1, hfirst.2.trans hsecond.2⟩⟩

variable {host host' : Host} {root : Nat}

theorem Below.of_nodes_eq (hnodes : host'.nodes = host.nodes) {object : Nat}
    (h : Below host root object) : Below host' root object := by
  induction h with
  | root => exact .root
  | child hnode _ ih =>
      refine .child ?_ ih
      rw [node?, hnodes]
      exact hnode

theorem Opens.getElem? (h : Opens host host') {fd object : Nat}
    (hfd : host.fds[fd]? = some object) : host'.fds[fd]? = some object := by
  obtain ⟨rest, hrest⟩ := h.2
  rw [← hrest, List.getElem?_append_left (List.getElem?_eq_some_iff.mp hfd).1, hfd]

/-- An entry of a directory is an object whose parent is the directory. -/
theorem child?_eq_some {dir object : Nat} {name : List UInt8}
    (h : host.child? dir name = some object) :
    ∃ node, host.node? object = some node ∧ node.parent = dir := by
  obtain ⟨hlt, hmatch, -⟩ := List.findIdx?_eq_some_iff_getElem.mp h
  refine ⟨host.nodes[object], List.getElem?_eq_getElem hlt, ?_⟩
  simp only [Bool.and_eq_true, beq_iff_eq] at hmatch
  exact hmatch.1

/-- A name other than `..` leads from a directory to itself or to one of its
entries. -/
theorem stepName_below {dir object : Nat} {name : List UInt8} (hname : name ≠ [46, 46])
    (hdir : Below host root dir) (h : host.stepName dir name = .ok object) :
    Below host root object := by
  unfold stepName at h
  -- `split` uses `hname` to drop the branch of `..`
  split at h
  · cases h
  · split at h
    · cases h
      exact hdir
    · split at h
      · rename_i found hfound
        cases h
        obtain ⟨node, hnode, hparent⟩ := child?_eq_some hfound
        exact .child hnode (hparent ▸ hdir)
      · cases h

/-- A plain path resolves from the place a descriptor holds to that place or
to one of its entries. -/
theorem resolve_below {fd dir object : Nat} {path : List UInt8} (hplain : Plain path)
    (hfd : host.fds[fd]? = some dir) (hdir : Below host root dir)
    (h : host.resolve (some fd) path = .ok object) : Below host root object := by
  have hhead : path.head? ≠ some 47 := by
    cases path with
    | nil => simp
    | cons byte bytes =>
        simp only [List.head?_cons, ne_eq, Option.some.injEq]
        exact fun heq => hplain.1 (heq ▸ List.mem_cons_self)
  have hstart : host.start (some fd) path = .ok dir := by
    simp [start, hhead, hfd]
  unfold resolve at h
  rw [hstart] at h
  by_cases hnil : path = []
  · subst hnil
    cases h
    exact hdir
  · rw [components_of_no_slash hplain.1 hnil] at h
    simp only [walkNames] at h
    split at h
    · rename_i next hnext
      cases h
      exact stepName_below hplain.2 hdir hnext
    · cases h

/-- The objects a path from the root reaches depend on the tree alone. -/
theorem walkNames_of_nodes_eq (hnodes : host'.nodes = host.nodes) (dir : Nat)
    (names : List (List UInt8)) : host'.walkNames dir names = host.walkNames dir names := by
  induction names generalizing dir with
  | nil => rfl
  | cons name names ih =>
      have hstep : host'.stepName dir name = host.stepName dir name := by
        unfold stepName isDir node? child?
        rw [hnodes]
      simp only [walkNames, hstep, ih]

theorem resolve_none_of_nodes_eq (hnodes : host'.nodes = host.nodes) (path : List UInt8) :
    host'.resolve none path = host.resolve none path := by
  simp only [resolve, start, walkNames_of_nodes_eq hnodes]

theorem allocate_opens {object fd : Nat} (h : host.allocate object = .ok (fd, host')) :
    Opens host host' ∧ host'.fds[fd]? = some object := by
  unfold allocate at h
  split at h
  · cases h
    exact ⟨⟨rfl, List.prefix_append _ _⟩, by simp⟩
  · cases h

/-- `openat` without `O_CREAT` only opens a descriptor, on what a link of
`/proc/self/fd` or the path resolves to. -/
theorem openat_opens {dirfd : Option Nat} {path : List UInt8} {flags : Int32} {fd : Nat}
    (hcreat : flags &&& Libc.O_CREAT = 0) (h : host.openat dirfd path flags = .ok (fd, host')) :
    Opens host host' ∧ ∃ object, (host.procLink? dirfd path = some object ∨
      host.resolve dirfd path = .ok object) ∧ host'.fds[fd]? = some object := by
  unfold openat at h
  split at h
  · cases h
  · split at h
    · cases h
    · split at h
      · rename_i object hlink
        obtain ⟨hopens, hfd⟩ := allocate_opens h
        exact ⟨hopens, object, .inl hlink, hfd⟩
      · split at h
        · rename_i object hresolve
          obtain ⟨hopens, hfd⟩ := allocate_opens h
          exact ⟨hopens, object, .inr hresolve, hfd⟩
        · cases h

/-- A link of `/proc/self/fd` has a `/` in its name. -/
theorem procLink?_of_no_slash {dirfd : Option Nat} {path : List UInt8} (h : 47 ∉ path) :
    host.procLink? dirfd path = none := by
  have hselfFd : selfFd.isPrefixOf path = false := by
    rw [Bool.eq_false_iff, ne_eq, List.isPrefixOf_iff_prefix]
    exact fun hstarts => h (hstarts.subset (by decide))
  unfold procLink?
  split
  · simp [hselfFd]
  · rfl

/-- The names of a listing are names of entries of the tree. -/
theorem mem_listing {dir offset : Nat} {entry : DirEntry}
    (h : entry ∈ host.listing dir offset) : ∃ node ∈ host.nodes, node.name = entry.name := by
  unfold listing at h
  obtain ⟨⟨⟨object, node⟩, index⟩, hmem, rfl⟩ := List.mem_map.mp (List.mem_of_mem_drop h)
  obtain ⟨⟨node', object'⟩, hzip, hfound⟩ :=
    List.mem_filterMap.mp (List.fst_mem_of_mem_zipIdx hmem)
  refine ⟨node, ?_, rfl⟩
  simp only at hfound
  split_ifs at hfound
  obtain ⟨-, rfl⟩ := Prod.mk.inj (Option.some.inj hfound)
  exact List.fst_mem_of_mem_zipIdx hzip

/-- Descriptor `fd` holds an object at or below `root`. -/
def Inside (host : Host) (root fd : Nat) : Prop :=
  ∃ object, host.fds[fd]? = some object ∧ host.Below root object

/-- A tree whose entry names are all plain. -/
def PlainNames (host : Host) : Prop :=
  ∀ node ∈ host.nodes, Plain node.name

instance (host : Host) : Decidable host.PlainNames :=
  inferInstanceAs (Decidable (∀ node ∈ host.nodes, Plain node.name))

theorem Inside.of_opens {fd : Nat} (h : host.Inside root fd) (hopens : Opens host host') :
    host'.Inside root fd := by
  obtain ⟨object, hfd, hbelow⟩ := h
  exact ⟨object, hopens.getElem? hfd, hbelow.of_nodes_eq hopens.1⟩

theorem PlainNames.of_opens (h : host.PlainNames) (hopens : Opens host host') :
    host'.PlainNames := by
  unfold PlainNames
  rw [hopens.1]
  exact h

/-- `openat` of a plain name from a descriptor inside opens a descriptor
inside. -/
theorem openat_inside {dirfd fd : Nat} {path : List UInt8} {flags : Int32}
    (hcreat : flags &&& Libc.O_CREAT = 0) (hplain : Plain path) (hdir : host.Inside root dirfd)
    (h : host.openat (some dirfd) path flags = .ok (fd, host')) : host'.Inside root fd := by
  obtain ⟨hopens, object, hsource, hfd⟩ := openat_opens hcreat h
  have hresolve : host.resolve (some dirfd) path = .ok object := by
    rcases hsource with hlink | hresolve
    · rw [procLink?_of_no_slash hplain.1] at hlink
      cases hlink
    · exact hresolve
  obtain ⟨dir, hdirfd, hbelow⟩ := hdir
  exact ⟨object, hfd, (resolve_below hplain hdirfd hbelow hresolve).of_nodes_eq hopens.1⟩

/-- What `readDir` lists are entries of the tree. -/
theorem readDir_names {fd : Nat} {offset : Int64} {dirents : DirStream} {entry : DirEntry}
    (h : host.readDir fd offset = .ok dirents) (hentry : entry ∈ dirents.entries) :
    ∃ node ∈ host.nodes, node.name = entry.name := by
  unfold readDir at h
  split at h
  · cases h
  · split at h
    · cases h
      exact mem_listing hentry
    · cases h

/-- `Below` is what `within` checks, for some length of the chain of
parents. -/
theorem within_of_below {object : Nat} (h : Below host root object) :
    ∃ fuel, host.within root fuel object = true := by
  induction h with
  | root => exact ⟨0, by simp [within]⟩
  | @child object node hnode _ ih =>
      obtain ⟨fuel, hfuel⟩ := ih
      by_cases hself : node.parent = object
      · -- a node that is its own parent adds nothing to the chain
        exact ⟨fuel, hself ▸ hfuel⟩
      · exact ⟨fuel + 1, by simp [within, hnode, hself, hfuel]⟩

end Host

theorem change_eq_ok {α : Type} {call : Host → Except Int32 (α × Host)} {host host' : Host}
    {value : α} (h : change call host = .ok value host') : call host = .ok (value, host') := by
  unfold change at h
  split at h
  · rename_i found host'' hfound
    cases h
    exact hfound
  · cases h

theorem change_error {α : Type} {call : Host → Except Int32 (α × Host)} {host host' : Host}
    {errno : Int32} (h : change call host = .error errno host') : host' = host := by
  unfold change at h
  split at h
  · cases h
  · cases h
    rfl

theorem query_eq_ok {α : Type} {call : Host → Except Int32 α} {host host' : Host} {value : α}
    (h : query call host = .ok value host') : call host = .ok value ∧ host' = host := by
  unfold query at h
  split at h
  · rename_i found hfound
    cases h
    exact ⟨hfound, rfl⟩
  · cases h

/-! What the calls of `kernel` that a walk makes did to the host. -/

theorem openat_eq_ok {dirfd : Option Nat} {path : List UInt8} {flags : Int32} {mode : UInt32}
    {host host' : Host} {fd : Nat} (h : kernel.openat dirfd path flags mode host = .ok fd host') :
    host.openat dirfd path flags = .ok (fd, host') :=
  have h : change (fun host => host.openat dirfd path flags) host = .ok fd host' := h
  change_eq_ok h

theorem readDir_eq_ok {fd : Nat} {offset : Int64} {host host' : Host} {dirents : DirStream}
    (h : kernel.readDir fd offset host = .ok dirents host') :
    host.readDir fd offset = .ok dirents ∧ host' = host :=
  have h : query (fun host => host.readDir fd offset) host = .ok dirents host' := h
  query_eq_ok h

/-- `dup` opens a descriptor on the object the old one holds. -/
theorem dup_eq_ok {fd clone : Nat} {host host' : Host} (h : kernel.dup fd host = .ok clone host') :
    ∃ object, host.fds[fd]? = some object ∧ host.allocate object = .ok (clone, host') := by
  dsimp only [kernel] at h
  have hcall := change_eq_ok h
  cases hobject : host.fds[fd]? with
  | none =>
      simp only [Host.object?, hobject] at hcall
      cases hcall
  | some object =>
      simp only [Host.object?, hobject] at hcall
      exact ⟨object, rfl, hcall⟩

/-! ## The tree meets the contract -/

theorem keeps_change {α : Type} {call : Host → Except Int32 (α × Host)}
    (hcall : ∀ host value host', call host = .ok (value, host') → host.Opens host') :
    Proc.Keeps Host.Opens (change call) := by
  intro host
  unfold change
  cases hrun : call host with
  | ok pair =>
      obtain ⟨value, host'⟩ := pair
      exact hcall host value host' hrun
  | error errno => exact refl_of Host.Opens host

theorem keeps_query {α : Type} (call : Host → Except Int32 α) :
    Proc.Keeps Host.Opens (query call) := by
  intro host
  unfold query
  cases call host <;> exact refl_of Host.Opens host

/-- A tree whose names are plain and where `path` resolves to `root`. -/
def Host.Exports (path : List UInt8) (root : Nat) (host : Host) : Prop :=
  host.PlainNames ∧ host.resolve none path = .ok root

/-- On a tree that exports `path` as `root`, opening `path` gives a descriptor
of `root`. -/
theorem openat_root_inside {path : List UInt8} {root : Nat} {flags : Int32} {mode : UInt32}
    {host host' : Host} {fd : Nat} (hcreat : flags &&& Libc.O_CREAT = 0)
    (hexports : host.Exports path root) (h : kernel.openat none path flags mode host = .ok fd host') :
    host'.Inside root fd := by
  obtain ⟨-, object, hsource, hfd⟩ := Host.openat_opens hcreat (openat_eq_ok h)
  have hresolve : host.resolve none path = .ok object := by
    rcases hsource with hlink | hresolve
    · simp [Host.procLink?] at hlink
    · exact hresolve
  rw [hexports.2, Except.ok.injEq] at hresolve
  subst hresolve
  exact ⟨root, hfd, .root⟩

/-- The tree meets the contract, with the descriptors at or below the object
`path` resolves to as the inside. -/
theorem confines (path : List UInt8) (root : Nat) :
    kernel.Confines (Host.Exports path root) (fun host fd => host.Inside root fd) Host.Opens where
  good hopens hexports :=
    ⟨hexports.1.of_opens hopens, (Host.resolve_none_of_nodes_eq hopens.1 path).trans hexports.2⟩
  inside hopens hinside := hinside.of_opens hopens
  openat_opens _ _ _ _ hcreat := keeps_change fun _ _ _ hopen => (Host.openat_opens hcreat hopen).1
  openat_inside hcreat hplain _ hdir hopen := Host.openat_inside hcreat hplain hdir (openat_eq_ok hopen)
  fstatat_opens _ _ _ := keeps_query _
  readDir_opens _ _ := keeps_query _
  readDir_plain hexports hread entry hentry := by
    obtain ⟨node, hnode, hname⟩ := Host.readDir_names (readDir_eq_ok hread).1 hentry
    rw [← hname]
    exact hexports.1 node hnode
  dup_opens fd := by
    intro host
    cases hdup : kernel.dup fd host with
    | ok clone host' =>
        obtain ⟨object, -, hallocate⟩ := dup_eq_ok hdup
        exact (Host.allocate_opens hallocate).1
    | error errno host' =>
        dsimp only [kernel] at hdup
        rw [change_error hdup]
        exact refl_of Host.Opens host
  dup_inside hfd hdup := by
    obtain ⟨object, hobject, hallocate⟩ := dup_eq_ok hdup
    obtain ⟨object', hfd', hbelow⟩ := hfd
    rw [hfd', Option.some.injEq] at hobject
    obtain ⟨hopens, hclone⟩ := Host.allocate_opens hallocate
    exact ⟨object, hclone, hobject ▸ hbelow.of_nodes_eq hopens.1⟩

end TreeFs

open Proc Server

/-! ## Requests that only open descriptors -/

section Opening

variable {σ File α : Type} {Opens : σ → σ → Prop}

/-- Between two worlds the host only opened descriptors. -/
def OsOpens (Opens : σ → σ → Prop) : World σ File → World σ File → Prop :=
  fun world world' => Opens world.os world'.os

instance [Std.Refl Opens] : Std.Refl (OsOpens Opens : World σ File → World σ File → Prop) :=
  ⟨fun world => refl_of Opens world.os⟩

instance [IsTrans σ Opens] : IsTrans (World σ File) (OsOpens Opens) :=
  ⟨fun _ _ _ hfirst hsecond => trans_of Opens hfirst hsecond⟩

/-- A call of the kernel that only opens descriptors, made by the server. -/
theorem sys_opens {call : Proc σ Int32 α} (h : Keeps Opens call) :
    Keeps (OsOpens Opens) (sys call : UfsM σ File α) := by
  intro world
  have hcall := h world.os
  unfold sys
  cases hrun : call world.os <;> rw [hrun] at hcall <;> exact hcall

variable [Std.Refl Opens]

theorem OsOpens.of_os_eq {world world' : World σ File} (h : world'.os = world.os) :
    OsOpens Opens world world' := by
  unfold OsOpens
  rw [h]
  exact refl_of Opens world.os

/-- An action that leaves the host as it is. -/
theorem keeps_opens_of_os {action : UfsM σ File α}
    (h : ∀ world, (Result.state (action world)).os = world.os) : Keeps (OsOpens Opens) action :=
  fun world => OsOpens.of_os_eq (h world)

theorem liftExcept_opens (result : Except IoError α) :
    Keeps (OsOpens Opens) (liftExcept result : UfsM σ File α) := by
  cases result
  · exact keeps_throw _
  · exact keeps_pure _

theorem getFid_opens (fid : UInt32) :
    Keeps (OsOpens Opens) (getFid fid : UfsM σ File (Fid File)) := by
  refine keeps_opens_of_os fun world => ?_
  simp only [getFid, bind_apply, getServer_apply, okOr]
  cases world.server.fids fid <;> rfl

theorem version_opens (msg : Tversion) :
    Keeps (OsOpens Opens) (version msg : UfsM σ File Rversion) :=
  keeps_opens_of_os fun world => by
    unfold version failIf
    split <;> rfl

theorem clunk_opens (msg : Tclunk) : Keeps (OsOpens Opens) (clunk msg : UfsM σ File Unit) :=
  keeps_opens_of_os fun world => by
    simp only [clunk, bind_apply, getServer_apply]
    cases world.server.fids msg.fid <;> rfl

/-- `lookup` and `attach` open without `O_CREAT`. -/
theorem pathFlags_no_creat :
    (Libc.O_PATH ||| Libc.O_NOFOLLOW ||| Libc.O_CLOEXEC) &&& Libc.O_CREAT = 0 := by
  decide

/-- `open_fid` opens a directory without `O_CREAT`. -/
theorem directoryFlags_no_creat :
    (mapFlags Libc.O_CLOEXEC P9_DIRECTORY &&& ~~~Libc.O_NOFOLLOW) &&& Libc.O_CREAT = 0 := by
  decide

section Calls

variable [IsTrans σ Opens] {kernel : Kernel σ File} {Good : σ → Prop}
  {Inside : σ → File → Prop} (hk : kernel.Confines Good Inside Opens)
include hk

omit [Std.Refl Opens] [IsTrans σ Opens] in
theorem lookup_opens (parent : File) (name : List UInt8) :
    Keeps (OsOpens Opens) (lookup kernel parent name) :=
  sys_opens (hk.openat_opens _ _ _ _ pathFlags_no_creat)

omit [Std.Refl Opens] [IsTrans σ Opens] in
theorem stat_opens (file : File) : Keeps (OsOpens Opens) (stat kernel file) := by
  unfold stat statat
  exact sys_opens (hk.fstatat_opens _ _ _)

theorem openFid_opens (proc path : File) :
    Keeps (OsOpens Opens) (openFid kernel proc path P9_DIRECTORY) :=
  (liftExcept_opens _).bind fun _ => sys_opens (hk.openat_opens _ _ _ _ directoryFlags_no_creat)

omit [IsTrans σ Opens] in
theorem casefoldMatch_opens (parent : File) (name : List UInt8) (error : Option Int32) :
    ∀ entries, Keeps (OsOpens Opens) (casefoldMatch kernel parent name error entries)
  | [] => by
      unfold casefoldMatch
      split
      · exact keeps_throw _
      · exact keeps_throw _
  | entry :: entries => by
      unfold casefoldMatch
      split
      · exact lookup_opens hk _ _
      · exact casefoldMatch_opens parent name error entries

theorem asciiCasefoldLookup_opens (proc parent : File) (name : List UInt8) :
    Keeps (OsOpens Opens) (asciiCasefoldLookup kernel proc parent name) :=
  (openFid_opens hk proc parent).bind fun _ => (sys_opens (hk.readDir_opens _ _)).bind fun _ =>
    casefoldMatch_opens hk _ _ _ _

theorem walkLookup_opens (proc parent : File) (asciiCasefold : Bool) (name : List UInt8) :
    Keeps (OsOpens Opens) (walkLookup kernel proc parent asciiCasefold name) := by
  apply (lookup_opens hk parent name).attempt.bind
  intro outcome
  split
  · exact keeps_pure _
  · exact Keeps.ite (asciiCasefoldLookup_opens hk _ _ _) (keeps_throw _)

/-- One name of the walk loop: look it up, then `stat` what was found. -/
theorem walkName_opens (proc current : File) (asciiCasefold : Bool) (wname : String) :
    Keeps (OsOpens Opens) (do
      let name ← liftExcept (stringToCstring wname)
      let next ← walkLookup kernel proc current asciiCasefold name
      let st ← stat kernel next
      pure (next, st) : UfsM σ File (File × Stat)) :=
  (liftExcept_opens _).bind fun _ => (walkLookup_opens hk _ _ _ _).bind fun _ =>
    (stat_opens hk _).bind fun _ => keeps_pure _

theorem doWalkNames_opens (proc : File) (asciiCasefold : Bool) :
    ∀ wnames current mds,
      Keeps (OsOpens Opens) (doWalkNames kernel proc asciiCasefold wnames current mds)
  | [], _, _ => keeps_pure _
  | wname :: wnames, current, mds => by
      unfold doWalkNames
      apply (walkName_opens hk proc current.asRef asciiCasefold wname).attempt.bind
      intro step
      split
      · exact keeps_pure _
      · exact doWalkNames_opens proc asciiCasefold wnames _ _

theorem doWalk_opens (proc : File) (wnames : List String) (start : File) (asciiCasefold : Bool) :
    Keeps (OsOpens Opens) (doWalk kernel proc wnames start asciiCasefold) := by
  apply (doWalkNames_opens hk proc asciiCasefold wnames _ []).bind
  rintro ⟨result | current, mds⟩
  · exact keeps_pure _
  · cases current with
    | borrowed borrowed => exact (sys_opens (hk.dup_opens borrowed)).attempt.bind fun _ => keeps_pure _
    | owned owned => exact keeps_pure _

theorem walkOutcome_opens (newfid : UInt32) (count : Nat) (result : Except IoError File)
    (mds : List Stat) : Keeps (OsOpens Opens) (walkOutcome kernel newfid count result mds) := by
  unfold walkOutcome lastOrStat
  split
  · refine Keeps.ite (Keeps.bind ?_ fun _ => keeps_opens_of_os fun _ => rfl) (keeps_pure _)
    split
    · exact keeps_pure _
    · exact stat_opens hk _
  · exact Keeps.ite (keeps_throw _) (keeps_pure _)

theorem walk_opens (msg : Twalk) : Keeps (OsOpens Opens) (walk kernel msg) :=
  (keeps_opens_of_os fun _ => rfl).bind fun _ =>
    (Keeps.ite (keeps_throw _) (keeps_pure _)).bind fun _ =>
      (getFid_opens _).bind fun _ => (doWalk_opens hk _ _ _ _).bind fun _ =>
        (walkOutcome_opens hk _ _ _ _).bind fun _ => keeps_pure _

theorem attach_opens (msg : Tattach) : Keeps (OsOpens Opens) (attach kernel msg) := by
  apply (keeps_opens_of_os fun _ => rfl).bind
  intro server
  split
  · exact keeps_throw _
  · exact (liftExcept_opens _).bind fun _ =>
      (sys_opens (hk.openat_opens _ _ _ _ pathFlags_no_creat)).bind fun _ =>
        (stat_opens hk _).bind fun _ => (keeps_opens_of_os fun _ => rfl).bind fun _ => keeps_pure _

end Calls

end Opening

/-! ## Where a walk ends -/

theorem stringToCstring_eq_ok {text : String} {bytes : List UInt8}
    (h : stringToCstring text = .ok bytes) : bytes = WireFormat.utf8Bytes text := by
  unfold stringToCstring at h
  split at h
  · cases h
  · cases h
    rfl

section Inside

variable {σ File : Type} {kernel : Kernel σ File} {Good : σ → Prop} {Inside : σ → File → Prop}
  {Opens : σ → σ → Prop} (hk : kernel.Confines Good Inside Opens)
include hk

theorem lookup_inside {parent fd : File} {name : List UInt8} {world world' : World σ File}
    (hname : Plain name) (hgood : Good world.os) (hparent : Inside world.os parent)
    (h : lookup kernel parent name world = .ok fd world') : Inside world'.os fd := by
  obtain ⟨os, hopen, rfl⟩ := sys_eq_ok h
  exact hk.openat_inside pathFlags_no_creat hname hgood hparent hopen

/-- The case-folding scan opens an entry of the listing under its own name. -/
theorem casefoldMatch_inside {parent fd : File} {name : List UInt8} {error : Option Int32}
    {entries : List DirEntry} {world world' : World σ File}
    (hentries : ∀ entry ∈ entries, Plain entry.name) (hgood : Good world.os)
    (hparent : Inside world.os parent)
    (h : casefoldMatch kernel parent name error entries world = .ok fd world') :
    Inside world'.os fd := by
  rw [casefoldMatch_eq_resolve] at h
  cases hfirst : firstCasefoldMatch name entries with
  | none =>
      simp only [casefoldResolve, hfirst] at h
      cases h
  | some entry =>
      simp only [casefoldResolve, hfirst] at h
      exact lookup_inside hk (hentries entry (List.mem_of_find?_eq_some hfirst)) hgood hparent h

variable [Std.Refl Opens] [IsTrans σ Opens]

theorem asciiCasefoldLookup_inside {proc parent fd : File} {name : List UInt8}
    {world world' : World σ File} (hgood : Good world.os) (hparent : Inside world.os parent)
    (h : asciiCasefoldLookup kernel proc parent name world = .ok fd world') :
    Inside world'.os fd := by
  obtain ⟨dir, mid, hopen, h⟩ := bind_eq_ok h
  obtain ⟨dirents, mid', hlist, h⟩ := bind_eq_ok h
  obtain ⟨os, hread, rfl⟩ := sys_eq_ok hlist
  have hopened : Opens world.os mid.os := (openFid_opens hk proc parent).ok hopen
  have hlisted : Opens mid.os os := (hk.readDir_opens _ _).ok hread
  have hmid : Good mid.os := hk.good hopened hgood
  exact casefoldMatch_inside hk (hk.readDir_plain hmid hread) (hk.good hlisted hmid)
    (hk.inside (trans_of Opens hopened hlisted) hparent) h

theorem walkLookup_inside {proc parent fd : File} {asciiCasefold : Bool} {name : List UInt8}
    {world world' : World σ File} (hgood : Good world.os) (hname : Plain name)
    (hparent : Inside world.os parent)
    (h : walkLookup kernel proc parent asciiCasefold name world = .ok fd world') :
    Inside world'.os fd := by
  obtain ⟨outcome, mid, hattempt, h⟩ := bind_eq_ok h
  have hopens : OsOpens Opens world mid := (lookup_opens hk parent name).attempt.ok hattempt
  rcases outcome with err | file
  · rcases ite_eq_ok h with ⟨-, h⟩ | ⟨-, h⟩
    · exact asciiCasefoldLookup_inside hk (hk.good hopens hgood) (hk.inside hopens hparent) h
    · cases h
  · cases h
    exact lookup_inside hk hname hgood hparent (attempt_eq_ok hattempt)

/-- The walk loop moves from a descriptor inside to descriptors inside: the
induction follows the names, and each one is plain. -/
theorem doWalkNames_inside (proc : File) (asciiCasefold : Bool) :
    ∀ {wnames : List String} {current : MaybeOwned File} {mds : List Stat}
      {world world' : World σ File} {result : Except IoError (MaybeOwned File)}
      {mds' : List Stat},
      (∀ wname ∈ wnames, Plain (WireFormat.utf8Bytes wname)) → Good world.os →
      Inside world.os current.asRef →
      doWalkNames kernel proc asciiCasefold wnames current mds world =
        .ok (result, mds') world' →
      ∀ next, result = .ok next → Inside world'.os next.asRef
  | [], current, mds, world, world', result, mds', _, _, hcurrent, h => by
      cases h
      rintro next ⟨⟩
      exact hcurrent
  | wname :: wnames, current, mds, world, world', result, mds', hwnames, hgood, hcurrent, h => by
      unfold doWalkNames at h
      obtain ⟨step, mid, hstep, h⟩ := bind_eq_ok h
      rcases step with err | ⟨next, st⟩
      · cases h
        rintro _ ⟨⟩
      · have hopens : OsOpens Opens world mid :=
          (walkName_opens hk proc current.asRef asciiCasefold wname).attempt.ok hstep
        obtain ⟨name, hname, hstep⟩ := liftExcept_bind_eq_ok (attempt_eq_ok hstep)
        obtain ⟨file, mid₁, hlookup, hstep⟩ := bind_eq_ok hstep
        obtain ⟨st', mid₂, hstat, hstep⟩ := bind_eq_ok hstep
        cases hstep
        have hplain : Plain name := by
          rw [stringToCstring_eq_ok hname]
          exact hwnames wname List.mem_cons_self
        have hnext := hk.inside ((stat_opens hk _).ok hstat)
          (walkLookup_inside hk hgood hplain hcurrent hlookup)
        exact doWalkNames_inside proc asciiCasefold
          (fun wname hmem => hwnames wname (List.mem_cons_of_mem _ hmem))
          (hk.good hopens hgood) (show Inside mid.os (MaybeOwned.owned next).asRef from hnext) h

/-- Every descriptor a walk of plain names ends on is inside: one the loop
reached, or a clone of the start. -/
theorem doWalk_inside {proc start : File} {wnames : List String} {asciiCasefold : Bool}
    {world world' : World σ File} {result : Except IoError File} {mds : List Stat}
    (hwnames : ∀ wname ∈ wnames, Plain (WireFormat.utf8Bytes wname))
    (hgood : Good world.os) (hstart : Inside world.os start)
    (h : doWalk kernel proc wnames start asciiCasefold world = .ok (result, mds) world') :
    ∀ finish, result = .ok finish → Inside world'.os finish := by
  unfold doWalk at h
  obtain ⟨⟨walkResult, walkedMds⟩, mid, hwalk, h⟩ := bind_eq_ok h
  have hnext := doWalkNames_inside hk proc asciiCasefold hwnames hgood
    (show Inside world.os (MaybeOwned.borrowed start).asRef from hstart) hwalk
  rcases walkResult with err | next
  · cases h
    rintro _ ⟨⟩
  · rcases next with borrowed | owned
    · -- no name was walked: the start is cloned
      obtain ⟨clone, midClone, hclone, h⟩ := bind_eq_ok h
      cases h
      rintro finish rfl
      obtain ⟨os, hdup, rfl⟩ := sys_eq_ok (attempt_eq_ok hclone)
      exact hk.dup_inside (hnext _ rfl) hdup
    · cases h
      rintro finish ⟨⟩
      exact hnext _ rfl

end Inside

/-! ## A session that stays inside -/

/-- A server confined below its export root `root`: the host is good, the
export root is `root`, and every fid holds a place inside. -/
structure Confined {σ File : Type} (Good : σ → Prop) (Inside : σ → File → Prop)
    (root : List UInt8) (world : World σ File) : Prop where
  good : Good world.os
  exportRoot : world.server.cfg.root = root
  fids : ∀ fid entry, world.server.fids fid = some entry → Inside world.os entry.path

/-- The requests of a session that only moves fids about the tree:
`Tversion`, `Tattach`, `Tclunk`, and `Twalk` of plain names. -/
def Tmessage.Navigates : Tmessage → Prop
  | .version _ | .attach _ | .clunk _ => True
  | .walk msg => ∀ wname ∈ msg.wnames, Plain (WireFormat.utf8Bytes wname)
  | _ => False

/-- A frame that navigates, or whose body did not decode. -/
def Tframe.Navigates (frame : Tframe) : Prop :=
  ∀ msg, frame.msg = .ok msg → msg.Navigates

theorem update_eq_some {File : Type} {fids : UInt32 → Option (Fid File)} {fid fid' : UInt32}
    {value : Option (Fid File)} {entry : Fid File}
    (h : Function.update fids fid value fid' = some entry) :
    fids fid' = some entry ∨ value = some entry := by
  by_cases hfid : fid' = fid
  · subst hfid
    rw [Function.update_self] at h
    exact .inr h
  · rw [Function.update_of_ne hfid] at h
    exact .inl h

section Session

variable {σ File : Type} {kernel : Kernel σ File} {Good : σ → Prop} {Inside : σ → File → Prop}
  {Opens : σ → σ → Prop} (hk : kernel.Confines Good Inside Opens) {root : List UInt8}
  {world world' : World σ File}
include hk

/-- A server stays confined when the host only opened descriptors, the export
root stays, and each fid holds what it held or a place inside. -/
theorem Confined.of_fids (h : Confined Good Inside root world)
    (hopens : OsOpens Opens world world')
    (hroot : world'.server.cfg.root = world.server.cfg.root)
    (hfids : ∀ fid entry, world'.server.fids fid = some entry →
      world.server.fids fid = some entry ∨ Inside world'.os entry.path) :
    Confined Good Inside root world' where
  good := hk.good hopens h.good
  exportRoot := hroot.trans h.exportRoot
  fids := by
    intro fid entry hfid
    rcases hfids fid entry hfid with hold | hnew
    · exact hk.inside hopens (h.fids fid entry hold)
    · exact hnew

theorem Confined.of_same_server (h : Confined Good Inside root world)
    (hopens : OsOpens Opens world world') (hsame : SameServer world world') :
    Confined Good Inside root world' :=
  h.of_fids hk hopens (by rw [hsame]) fun _ _ hfid => .inl (by rwa [hsame] at hfid)

/-- Binding or unbinding one fid keeps a server confined, provided what the
fid is bound to is inside. -/
theorem Confined.of_update (h : Confined Good Inside root world)
    (hopens : OsOpens Opens world world') {fid : UInt32} {value : Option (Fid File)}
    (hserver : world'.server =
      { world.server with fids := Function.update world.server.fids fid value })
    (hvalue : ∀ entry, value = some entry → Inside world'.os entry.path) :
    Confined Good Inside root world' := by
  refine h.of_fids hk hopens (by rw [hserver]) fun fid' entry hfid => ?_
  rw [hserver] at hfid
  rcases update_eq_some hfid with hold | hnew
  · exact .inl hold
  · exact .inr (hvalue entry hnew)

variable [Std.Refl Opens]

theorem version_confined {msg : Tversion} {reply : Rversion}
    (h : Confined Good Inside root world) (hrun : version msg world = .ok reply world') :
    Confined Good Inside root world' := by
  obtain ⟨-, rfl, -⟩ := version_eq_ok hrun
  exact h.of_fids hk (OsOpens.of_os_eq rfl) rfl fun _ _ hfid => by cases hfid

theorem clunk_confined {msg : Tclunk} {u : Unit} (h : Confined Good Inside root world)
    (hrun : clunk msg world = .ok u world') : Confined Good Inside root world' := by
  obtain ⟨-, rfl⟩ := clunk_eq_ok hrun
  exact h.of_update hk (OsOpens.of_os_eq rfl) rfl fun _ hnone => by cases hnone

variable [IsTrans σ Opens]

/-- `Twalk` of plain names binds the new fid, if at all, to where the walk
ended, which is inside. -/
theorem walk_confined {msg : Twalk} {reply : Rwalk}
    (hwnames : ∀ wname ∈ msg.wnames, Plain (WireFormat.utf8Bytes wname))
    (h : Confined Good Inside root world) (hrun : walk kernel msg world = .ok reply world') :
    Confined Good Inside root world' := by
  have hrun := getServer_bind_eq_ok hrun
  obtain ⟨-, hrun⟩ := failIf_bind_eq_ok hrun
  obtain ⟨start, hstart, hrun⟩ := getFid_bind_eq_ok hrun
  obtain ⟨⟨result, mds⟩, mid, hwalk, hrun⟩ := bind_eq_ok hrun
  obtain ⟨_, midOutcome, houtcome, hrun⟩ := bind_eq_ok hrun
  cases hrun
  have hsame : mid.server = world.server := (keeps_doWalk kernel _ _ _ _).ok hwalk
  have hwalked : OsOpens Opens mid world' := (walkOutcome_opens hk _ _ _ _).ok houtcome
  have hopens : OsOpens Opens world world' :=
    trans_of (OsOpens Opens) ((doWalk_opens hk _ _ _ _).ok hwalk) hwalked
  have hinside := doWalk_inside hk hwnames h.good (h.fids _ _ hstart) hwalk
  obtain ⟨hstored, hfailed⟩ := walkOutcome_eq_ok kernel houtcome
  cases result with
  | error err =>
      obtain ⟨-, rfl⟩ := hfailed err rfl
      exact h.of_same_server hk hopens hsame
  | ok finish =>
      have hstored := hstored finish rfl
      split at hstored
      · obtain ⟨st, hserver⟩ := hstored
        refine h.of_update hk hopens (by rw [hserver, hsame]) fun _ hnew => ?_
        cases hnew
        exact hk.inside hwalked (hinside finish rfl)
      · subst hstored
        exact h.of_same_server hk hopens hsame

theorem dispatch_opens {msg : Tmessage} (hmsg : msg.Navigates) :
    Keeps (OsOpens Opens) (dispatch kernel msg) := by
  cases msg with
  | version request => exact (version_opens request).map _
  | attach request => exact (attach_opens hk request).map _
  | walk request => exact (walk_opens hk request).map _
  | clunk request => exact (clunk_opens request).map _
  | _ => cases hmsg

variable (hroot : ∀ os fd os', Good os →
  kernel.openat none root (Libc.O_PATH ||| Libc.O_NOFOLLOW ||| Libc.O_CLOEXEC) 0 os =
    .ok fd os' → Inside os' fd)
include hroot

omit [Std.Refl Opens] in
/-- `Tattach` binds the fid to a descriptor of the export root, which is
inside by `hroot`. -/
theorem attach_confined {msg : Tattach} {reply : Rattach}
    (h : Confined Good Inside root world) (hrun : attach kernel msg world = .ok reply world') :
    Confined Good Inside root world' := by
  have hrun := getServer_bind_eq_ok hrun
  cases hfid : world.server.fids msg.fid with
  | some entry =>
      rw [hfid] at hrun
      cases hrun
  | none =>
      rw [hfid] at hrun
      obtain ⟨rootName, hrootName, hrun⟩ := liftExcept_bind_eq_ok hrun
      obtain ⟨rootPath, mid, hopen, hrun⟩ := bind_eq_ok hrun
      obtain ⟨os, hos, rfl⟩ := sys_eq_ok hopen
      obtain ⟨st, mid', hstat, hrun⟩ := bind_eq_ok hrun
      obtain ⟨_, midSet, hset, hrun⟩ := bind_eq_ok hrun
      rw [setFid_apply] at hset
      cases hset
      cases hrun
      rw [cstringNew_eq_ok hrootName, h.exportRoot] at hos
      have hopened : OsOpens Opens world { world with os } :=
        (hk.openat_opens _ _ _ _ pathFlags_no_creat).ok hos
      have hstated : OsOpens Opens { world with os } mid' := (stat_opens hk rootPath).ok hstat
      have hsame : SameServer { world with os } mid' := (keeps_stat kernel rootPath).ok hstat
      refine h.of_update hk (trans_of (OsOpens Opens) hopened hstated) (by rw [hsame])
        fun _ hnew => ?_
      cases hnew
      exact hk.inside hstated (hroot world.os rootPath os h.good hos)

theorem dispatch_confined {msg : Tmessage} {rmsg : Rmessage}
    (hmsg : msg.Navigates) (h : Confined Good Inside root world)
    (hrun : dispatch kernel msg world = .ok rmsg world') : Confined Good Inside root world' := by
  cases msg with
  | version request =>
      obtain ⟨reply, hrun, -⟩ := map_eq_ok hrun
      exact version_confined hk h hrun
  | attach request =>
      obtain ⟨reply, hrun, -⟩ := map_eq_ok hrun
      exact attach_confined hk hroot h hrun
  | walk request =>
      obtain ⟨reply, hrun, -⟩ := map_eq_ok hrun
      exact walk_confined hk hmsg h hrun
  | clunk request =>
      obtain ⟨u, hrun, -⟩ := map_eq_ok hrun
      exact clunk_confined hk h hrun
  | _ => cases hmsg

/-- One frame: a handler that succeeded kept the server confined, and one that
failed left the fids as they were and only opened descriptors. -/
theorem handle_confined {frame : Tframe} {reply : Rframe}
    (hframe : frame.Navigates) (h : Confined Good Inside root world)
    (hrun : handle kernel frame world = .ok reply world') : Confined Good Inside root world' := by
  obtain ⟨-, hdispatched | ⟨err, -, hfailed⟩⟩ := handle_eq_ok kernel hrun
  · obtain ⟨msg, rmsg, hmsg, hrun, -⟩ := hdispatched
    exact dispatch_confined hk hroot (hframe msg hmsg) h hrun
  · rcases hbody : frame.msg with decodeErr | msg
    · rw [hbody] at hfailed
      cases hfailed
      exact h
    · rw [hbody] at hfailed
      have hnav := hframe msg hbody
      have hsame : SameServer world world' :=
        keepsOnError_dispatch kernel msg (fun request hreq => by subst hreq; cases hnav)
          world err world' hfailed
      exact h.of_same_server hk ((dispatch_opens hk hnav).error hfailed) hsame

/-- A whole session: the induction follows the frames. -/
theorem mapM_handle_confined :
    ∀ (frames : List Tframe) {world world' : World σ File} {replies : List Rframe},
      (∀ frame ∈ frames, frame.Navigates) → Confined Good Inside root world →
      frames.mapM (handle kernel) world = .ok replies world' → Confined Good Inside root world'
  | [], world, world', replies, _, h, hrun => by
      obtain ⟨-, rfl⟩ := mapM_nil_eq_ok hrun
      exact h
  | frame :: frames, world, world', replies, hframes, h, hrun => by
      obtain ⟨reply, replies', mid, hfirst, hrest, -⟩ := mapM_cons_eq_ok hrun
      have hmid := handle_confined hk hroot (hframes frame List.mem_cons_self) h hfirst
      exact mapM_handle_confined frames
        (fun frame hmem => hframes frame (List.mem_cons_of_mem _ hmem)) hmid hrest

end Session

/-- Attach fid `0` to `/export`, walk `.` from it to fid `1`, clunk fid `0`. -/
def exportSession : List Tframe :=
  [⟨1, .ok (.attach TreeFs.attachExport)⟩, ⟨2, .ok (.walk ⟨0, 1, ["."]⟩)⟩,
    ⟨3, .ok (.clunk ⟨0⟩)⟩]

open TreeFs (Host)

end JetStream
