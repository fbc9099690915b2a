import JetStream.Ufs.Handlers

/-!
# What each handler does to the server

`SameServer world world'` holds when `world'` has the fid table, the `/proc`
handle and the configuration of `world`; the host may differ.  The helpers of
`ufs/mod.rs` and all handlers but six only read the server, so every run of
them, successful or failed, keeps it.  Of the six that write the fid table,
five write it in a last step that cannot fail, so a failed run keeps the
server; `lcreate` writes it before its last fallible call.  Each of the six has
a lemma that says what a successful run did.
-/

namespace JetStream

open Proc Server

variable {σ File : Type}

/-- The server part of two worlds is the same. -/
def SameServer (world world' : World σ File) : Prop :=
  world'.server = world.server

instance : Std.Refl (SameServer : World σ File → World σ File → Prop) :=
  ⟨fun _ => rfl⟩

instance : IsTrans (World σ File) SameServer :=
  ⟨fun _ _ _ hfirst hsecond => hsecond.trans hfirst⟩

@[simp]
theorem getServer_apply (world : World σ File) :
    (getServer : UfsM σ File (Server File)) world = .ok world.server world := rfl

@[simp]
theorem setFid_apply (fid : UInt32) (value : Option (Fid File)) (world : World σ File) :
    (setFid fid value : UfsM σ File Unit) world =
      .ok () { world with
        server := { world.server with fids := Function.update world.server.fids fid value } } :=
  rfl

@[simp]
theorem resetSession_apply (msize : UInt32) (world : World σ File) :
    (resetSession msize : UfsM σ File Unit) world =
      .ok () { world with
        server := { world.server with
          fids := fun _ => none
          cfg := { world.server.cfg with msize := min world.server.cfg.msize msize } } } :=
  rfl

theorem total_getServer : Total (getServer : UfsM σ File (Server File)) :=
  fun world => ⟨world.server, world, rfl⟩

theorem total_setFid (fid : UInt32) (value : Option (Fid File)) :
    Total (setFid fid value : UfsM σ File Unit) :=
  fun world => ⟨(), _, setFid_apply fid value world⟩

theorem total_resetSession (msize : UInt32) :
    Total (resetSession msize : UfsM σ File Unit) :=
  fun world => ⟨(), _, resetSession_apply msize world⟩

/-- A successful system call changed only the host. -/
theorem sys_eq_ok {α : Type} {call : Proc σ Int32 α} {world world' : World σ File}
    {value : α} (h : sys call world = .ok value world') :
    ∃ os, call world.os = .ok value os ∧ world' = { world with os } := by
  unfold sys at h
  cases hcall : call world.os with
  | ok found os =>
      rw [hcall] at h
      cases h
      exact ⟨os, rfl, rfl⟩
  | error errno os =>
      rw [hcall] at h
      cases h

/-! ## The helpers only read the server -/

section Helpers

variable {α : Type} (kernel : Kernel σ File)

theorem keeps_sys (call : Proc σ Int32 α) : Keeps SameServer (sys call : UfsM σ File α) := by
  intro world
  unfold sys
  cases call world.os <;> rfl

theorem keeps_liftExcept (result : Except IoError α) :
    Keeps SameServer (liftExcept result : UfsM σ File α) := by
  cases result
  · exact keeps_throw _
  · exact keeps_pure _

theorem keeps_getServer : Keeps SameServer (getServer : UfsM σ File (Server File)) :=
  fun _ => rfl

theorem keeps_okOr (value : Option α) (err : IoError) :
    Keeps SameServer (okOr value err : UfsM σ File α) := by
  cases value
  · exact keeps_throw _
  · exact keeps_pure _

theorem keeps_failIf (cond : Prop) [Decidable cond] (err : IoError) :
    Keeps SameServer (failIf cond err : UfsM σ File Unit) :=
  Keeps.ite (keeps_throw _) (keeps_pure _)

theorem keeps_getFid (fid : UInt32) : Keeps SameServer (getFid fid : UfsM σ File (Fid File)) :=
  keeps_getServer.bind fun _ => keeps_okOr _ _

theorem keeps_getOpenFile (fid : UInt32) :
    Keeps SameServer (getOpenFile fid : UfsM σ File File) :=
  keeps_getServer.bind fun _ => keeps_okOr _ _

/-! Peeling a step that does not change the world off the front of a
successful run. -/

theorem getServer_bind_eq_ok {β : Type} {next : Server File → UfsM σ File β}
    {world world' : World σ File} {result : β}
    (h : (getServer >>= next) world = .ok result world') :
    next world.server world = .ok result world' :=
  h

theorem okOr_bind_eq_ok {β : Type} {value : Option α} {err : IoError}
    {next : α → UfsM σ File β} {world world' : World σ File} {result : β}
    (h : (okOr value err >>= next) world = .ok result world') :
    ∃ found, value = some found ∧ next found world = .ok result world' := by
  cases value with
  | none => cases h
  | some found => exact ⟨found, rfl, h⟩

theorem failIf_bind_eq_ok {β : Type} {cond : Prop} [Decidable cond] {err : IoError}
    {next : Unit → UfsM σ File β} {world world' : World σ File} {result : β}
    (h : (failIf cond err >>= next) world = .ok result world') :
    ¬ cond ∧ next () world = .ok result world' := by
  by_cases hcond : cond
  · simp only [failIf, if_pos hcond, bind_apply, throw_apply] at h
    cases h
  · simp only [failIf, if_neg hcond, bind_apply, pure_apply] at h
    exact ⟨hcond, h⟩

theorem liftExcept_bind_eq_ok {β : Type} {value : Except IoError α}
    {next : α → UfsM σ File β} {world world' : World σ File} {result : β}
    (h : (liftExcept value >>= next) world = .ok result world') :
    ∃ found, value = .ok found ∧ next found world = .ok result world' := by
  cases value with
  | error err => cases h
  | ok found => exact ⟨found, rfl, h⟩

theorem getFid_bind_eq_ok {β : Type} {fid : UInt32} {next : Fid File → UfsM σ File β}
    {world world' : World σ File} {result : β}
    (h : (getFid fid >>= next) world = .ok result world') :
    ∃ entry, world.server.fids fid = some entry ∧ next entry world = .ok result world' :=
  okOr_bind_eq_ok h

theorem getOpenFile_bind_eq_ok {β : Type} {fid : UInt32} {next : File → UfsM σ File β}
    {world world' : World σ File} {result : β}
    (h : (getOpenFile fid >>= next) world = .ok result world') :
    ∃ entry file, world.server.fids fid = some entry ∧ entry.file = some file ∧
      next file world = .ok result world' := by
  obtain ⟨file, hfile, h⟩ := okOr_bind_eq_ok h
  obtain ⟨entry, hentry, hopen⟩ := Option.bind_eq_some_iff.mp hfile
  exact ⟨entry, file, hentry, hopen, h⟩

theorem getFid_bind_eq_error {β : Type} {fid : UInt32} {next : Fid File → UfsM σ File β}
    {world world' : World σ File} {err : IoError}
    (h : (getFid fid >>= next) world = .error err world') :
    world' = world ∨
      ∃ entry, world.server.fids fid = some entry ∧ next entry world = .error err world' := by
  have h : (okOr (world.server.fids fid) ebadf >>= next) world = .error err world' := h
  cases hfid : world.server.fids fid with
  | none =>
      rw [hfid] at h
      cases h
      exact .inl rfl
  | some entry =>
      rw [hfid] at h
      exact .inr ⟨entry, rfl, h⟩

theorem failIf_bind_eq_error {β : Type} {cond : Prop} [Decidable cond] {err err' : IoError}
    {next : Unit → UfsM σ File β} {world world' : World σ File}
    (h : (failIf cond err >>= next) world = .error err' world') :
    world' = world ∨ ¬ cond ∧ next () world = .error err' world' := by
  by_cases hcond : cond
  · simp only [failIf, if_pos hcond, bind_apply, throw_apply] at h
    cases h
    exact .inl rfl
  · simp only [failIf, if_neg hcond, bind_apply, pure_apply] at h
    exact .inr ⟨hcond, h⟩

theorem liftExcept_bind_eq_error {β : Type} {value : Except IoError α}
    {next : α → UfsM σ File β} {world world' : World σ File} {err : IoError}
    (h : (liftExcept value >>= next) world = .error err world') :
    world' = world ∨ ∃ found, value = .ok found ∧ next found world = .error err world' := by
  cases value with
  | error err =>
      cases h
      exact .inl rfl
  | ok found => exact .inr ⟨found, rfl, h⟩

theorem keeps_statat (dir : File) (name : List UInt8) (flags : Int32) :
    Keeps SameServer (statat kernel dir name flags) :=
  keeps_sys _

theorem keeps_stat (file : File) : Keeps SameServer (stat kernel file) :=
  keeps_statat kernel _ _ _

theorem keeps_lookup (parent : File) (name : List UInt8) :
    Keeps SameServer (lookup kernel parent name) :=
  keeps_sys _

theorem keeps_openFid (proc path : File) (p9Flags : UInt32) :
    Keeps SameServer (openFid kernel proc path p9Flags) :=
  (keeps_liftExcept _).bind fun _ => keeps_sys _

theorem keeps_casefoldMatch (parent : File) (name : List UInt8) (error : Option Int32) :
    ∀ entries, Keeps SameServer (casefoldMatch kernel parent name error entries)
  | [] => by
      unfold casefoldMatch
      split
      · exact keeps_throw _
      · exact keeps_throw _
  | entry :: entries => by
      unfold casefoldMatch
      split
      · exact keeps_lookup kernel _ _
      · exact keeps_casefoldMatch parent name error entries

theorem keeps_walkLookup (proc parent : File) (asciiCasefold : Bool) (name : List UInt8) :
    Keeps SameServer (walkLookup kernel proc parent asciiCasefold name) := by
  apply (keeps_lookup kernel parent name).attempt.bind
  intro outcome
  split
  · exact keeps_pure _
  · split
    · exact (keeps_openFid kernel _ _ _).bind fun _ => (keeps_sys _).bind fun _ =>
        keeps_casefoldMatch kernel _ _ _ _
    · exact keeps_throw _

/-- The walk loop only reads the server: the induction follows the names. -/
theorem keeps_doWalkNames (proc : File) (asciiCasefold : Bool) :
    ∀ wnames current mds,
      Keeps SameServer (doWalkNames kernel proc asciiCasefold wnames current mds)
  | [], _, _ => keeps_pure _
  | wname :: wnames, current, mds => by
      unfold doWalkNames
      have hstep : Keeps SameServer (do
          let name ← liftExcept (stringToCstring wname)
          let next ← walkLookup kernel proc current.asRef asciiCasefold name
          let st ← stat kernel next
          pure (next, st) : UfsM σ File (File × Stat)) :=
        (keeps_liftExcept _).bind fun name =>
          (keeps_walkLookup kernel proc current.asRef asciiCasefold name).bind fun next =>
            (keeps_stat kernel next).bind fun _ => keeps_pure _
      apply hstep.attempt.bind
      intro step
      split
      · exact keeps_pure _
      · exact keeps_doWalkNames proc asciiCasefold wnames _ _

theorem keeps_doWalk (proc : File) (wnames : List String) (start : File) (asciiCasefold : Bool) :
    Keeps SameServer (doWalk kernel proc wnames start asciiCasefold) := by
  apply (keeps_doWalkNames kernel proc asciiCasefold wnames _ []).bind
  rintro ⟨result | current, mds⟩
  · exact keeps_pure _
  · cases current with
    | borrowed borrowed => exact (keeps_sys _).attempt.bind fun _ => keeps_pure _
    | owned owned => exact keeps_pure _

/-- The loop of `readdir` only reads the server: the induction follows the
listing. -/
theorem keeps_packDirents (path : File) (capacity : Nat) (error : Option Int32) :
    ∀ dirents buf, Keeps SameServer (packDirents kernel path capacity error dirents buf)
  | [], buf => by
      unfold packDirents
      split
      · exact keeps_throw _
      · exact keeps_pure _
  | dirent :: dirents, buf => by
      unfold packDirents
      apply (keeps_statat kernel _ _ _).bind
      intro st
      apply (keeps_liftExcept _).bind
      intro name
      dsimp only
      split
      · exact keeps_pure _
      · split
        · exact keeps_packDirents path capacity error dirents _
        · exact keeps_throw _

end Helpers

/-! ## Handlers that only read the server -/

section ReadOnly

variable (kernel : Kernel σ File)

theorem keeps_auth (msg : Tauth) : Keeps SameServer (auth msg : UfsM σ File Rauth) :=
  keeps_throw _

theorem keeps_flush (msg : Tflush) : Keeps SameServer (flush msg : UfsM σ File Unit) :=
  keeps_pure _

theorem keeps_read (msg : Tread) : Keeps SameServer (read kernel msg) :=
  (keeps_getOpenFile _).bind fun _ => keeps_getServer.bind fun _ =>
    (keeps_sys _).bind fun _ => keeps_pure _

theorem keeps_write (msg : Twrite) : Keeps SameServer (write kernel msg) :=
  (keeps_getOpenFile _).bind fun _ => (keeps_sys _).bind fun _ => keeps_pure _

theorem keeps_remove (msg : Tremove) : Keeps SameServer (remove msg : UfsM σ File Unit) :=
  keeps_throw _

theorem keeps_statfs (msg : Tstatfs) : Keeps SameServer (statfs kernel msg) :=
  (keeps_getFid _).bind fun _ => (keeps_sys _).bind fun _ => keeps_pure _

theorem keeps_symlink (msg : Tsymlink) : Keeps SameServer (symlink msg : UfsM σ File Rsymlink) :=
  keeps_throw _

theorem keeps_mknod (msg : Tmknod) : Keeps SameServer (mknod msg : UfsM σ File Rmknod) :=
  keeps_throw _

theorem keeps_rename (msg : Trename) : Keeps SameServer (rename msg : UfsM σ File Unit) :=
  keeps_throw _

theorem keeps_readlink (msg : Treadlink) : Keeps SameServer (readlink kernel msg) :=
  (keeps_getFid _).bind fun _ => (keeps_sys _).bind fun _ =>
    (keeps_liftExcept _).bind fun _ => keeps_pure _

theorem keeps_getAttr (msg : Tgetattr) : Keeps SameServer (getAttr kernel msg) :=
  (keeps_getFid _).bind fun _ => (keeps_stat kernel _).bind fun _ =>
    keeps_getServer.bind fun _ => keeps_pure _

theorem keeps_onMask (valid mask : UInt32) {action : UfsM σ File Unit}
    (haction : Keeps SameServer action) : Keeps SameServer (onMask valid mask action) :=
  Keeps.ite haction (keeps_pure _)

theorem keeps_setattrFile (proc : File) (fid : Fid File) :
    Keeps SameServer (setattrFile kernel proc fid) := by
  unfold setattrFile
  refine Keeps.ite (keeps_throw _) ?_
  split
  · exact keeps_pure _
  · exact keeps_openFid kernel _ _ _

theorem keeps_setAttr (msg : Tsetattr) : Keeps SameServer (setAttr kernel msg) :=
  (keeps_getFid _).bind fun fid => keeps_getServer.bind fun server =>
    (keeps_liftExcept _).bind fun _ =>
      (keeps_onMask _ _ (keeps_sys _)).bind fun _ =>
        (keeps_onMask _ _ (keeps_sys _)).bind fun _ =>
          (keeps_onMask _ _ ((keeps_setattrFile kernel server.proc fid).bind fun _ =>
            keeps_sys _)).bind fun _ =>
            (keeps_onMask _ _ (keeps_sys _)).bind fun _ =>
              Keeps.ite (keeps_sys _) (keeps_pure _)

theorem keeps_xattrWalk (msg : Txattrwalk) :
    Keeps SameServer (xattrWalk msg : UfsM σ File Rxattrwalk) :=
  keeps_throw _

theorem keeps_xattrCreate (msg : Txattrcreate) :
    Keeps SameServer (xattrCreate msg : UfsM σ File Unit) :=
  keeps_throw _

theorem keeps_readdir (msg : Treaddir) : Keeps SameServer (readdir kernel msg) :=
  (keeps_getFid _).bind fun _ => (keeps_failIf _ _).bind fun _ =>
    keeps_getServer.bind fun _ => (keeps_okOr _ _).bind fun _ =>
      (keeps_sys _).bind fun _ => (keeps_packDirents kernel _ _ _ _ _).bind fun _ =>
        keeps_pure _

theorem keeps_fsync (msg : Tfsync) : Keeps SameServer (fsync kernel msg) :=
  (keeps_getOpenFile _).bind fun _ => keeps_sys _

theorem keeps_lock (msg : Tlock) : Keeps SameServer (lock kernel msg) :=
  (keeps_getOpenFile _).bind fun _ => (keeps_sys _).bind fun _ => keeps_pure _

theorem keeps_getLock (msg : Tgetlock) : Keeps SameServer (getLock kernel msg) :=
  (keeps_getOpenFile _).bind fun _ => (keeps_sys _).bind fun _ => keeps_pure _

theorem keeps_link (msg : Tlink) : Keeps SameServer (link kernel msg) :=
  (keeps_getFid _).bind fun _ => (keeps_liftExcept _).bind fun _ =>
    (keeps_getFid _).bind fun _ => (keeps_liftExcept _).bind fun _ =>
      keeps_getServer.bind fun _ => keeps_sys _

theorem keeps_mkdir (msg : Tmkdir) : Keeps SameServer (mkdir kernel msg) :=
  (keeps_getFid _).bind fun _ => (keeps_liftExcept _).bind fun _ =>
    (keeps_sys _).bind fun _ => (keeps_statat kernel _ _ _).bind fun _ => keeps_pure _

theorem keeps_renameAt (msg : Trenameat) : Keeps SameServer (renameAt kernel msg) :=
  (keeps_getFid _).bind fun _ => (keeps_liftExcept _).bind fun _ =>
    (keeps_getFid _).bind fun _ => (keeps_liftExcept _).bind fun _ => keeps_sys _

theorem keeps_unlinkAt (msg : Tunlinkat) : Keeps SameServer (unlinkAt kernel msg) :=
  (keeps_getFid _).bind fun _ => (keeps_liftExcept _).bind fun _ => keeps_sys _

end ReadOnly

/-! ## Handlers that write the fid table -/

section Writers

variable (kernel : Kernel σ File)

theorem cstringNew_eq_ok {bytes path : List UInt8} (h : cstringNew bytes = .ok path) :
    path = bytes := by
  unfold cstringNew at h
  split at h
  · cases h
  · cases h
    rfl

theorem version_eq_ok {msg : Tversion} {world world' : World σ File} {reply : Rversion}
    (h : version msg world = .ok reply world') :
    MIN_MESSAGE_SIZE ≤ msg.msize ∧
      world' = { world with
        server := { world.server with
          fids := fun _ => none
          cfg := { world.server.cfg with msize := min world.server.cfg.msize msg.msize } } } ∧
      reply.msize = min world.server.cfg.msize msg.msize := by
  obtain ⟨hsize, h⟩ := failIf_bind_eq_ok h
  obtain ⟨_, mid, hreset, h⟩ := bind_eq_ok h
  rw [resetSession_apply] at hreset
  cases hreset
  cases getServer_bind_eq_ok h
  exact ⟨UInt32.not_lt.mp hsize, rfl, rfl⟩

theorem keepsOnError_version (msg : Tversion) :
    KeepsOnError SameServer (version msg : UfsM σ File Rversion) :=
  KeepsOnError.bind (keeps_failIf _ _) fun _ => Total.keepsOnError <|
    (total_resetSession _).bind fun _ => total_getServer.bind fun _ => total_pure _

theorem attach_eq_ok {msg : Tattach} {world world' : World σ File} {reply : Rattach}
    (h : attach kernel msg world = .ok reply world') :
    world.server.fids msg.fid = none ∧
      ∃ rootPath os st, kernel.openat none world.server.cfg.root
          (Libc.O_PATH ||| Libc.O_NOFOLLOW ||| Libc.O_CLOEXEC) 0 world.os = .ok rootPath os ∧
        world'.server = { world.server with
          fids := Function.update world.server.fids msg.fid
            (some { path := rootPath, file := none, filetype := FileType.ofMode st.stMode }) } ∧
        reply = { qid := Qid.ofStat st } := by
  have h := getServer_bind_eq_ok h
  cases hfid : world.server.fids msg.fid with
  | some entry =>
      rw [hfid] at h
      cases h
  | none =>
      rw [hfid] at h
      obtain ⟨root, hroot, h⟩ := liftExcept_bind_eq_ok h
      obtain ⟨rootPath, mid, hopen, h⟩ := bind_eq_ok h
      obtain ⟨os, hos, rfl⟩ := sys_eq_ok hopen
      obtain ⟨st, mid, hstat, h⟩ := bind_eq_ok h
      have hsame : mid.server = _ := (keeps_stat kernel rootPath).ok hstat
      obtain ⟨_, midSet, hset, h⟩ := bind_eq_ok h
      rw [setFid_apply] at hset
      cases hset
      cases h
      refine ⟨rfl, rootPath, os, st, ?_, by rw [hsame], rfl⟩
      rwa [cstringNew_eq_ok hroot] at hos

theorem keepsOnError_attach (msg : Tattach) :
    KeepsOnError SameServer (attach kernel msg) := by
  apply KeepsOnError.bind keeps_getServer
  intro server
  split
  · exact (keeps_throw _).keepsOnError
  · exact KeepsOnError.bind (keeps_liftExcept _) fun _ =>
      KeepsOnError.bind (keeps_sys _) fun _ => KeepsOnError.bind (keeps_stat kernel _) fun _ =>
        Total.keepsOnError <| (total_setFid _ _).bind fun _ => total_pure _

/-- What the walk loop returns: the `stat`s of the names it walked, all of
them when it succeeded and fewer when a name failed; it ends where it started
only when there was no name to walk. -/
theorem doWalkNames_eq_ok (proc : File) (asciiCasefold : Bool) :
    ∀ {wnames : List String} {current : MaybeOwned File} {mds : List Stat}
      {world world' : World σ File} {result : Except IoError (MaybeOwned File)}
      {mds' : List Stat},
      doWalkNames kernel proc asciiCasefold wnames current mds world =
        .ok (result, mds') world' →
      ∃ walked, mds' = mds ++ walked ∧
        match result with
        | .ok next => walked.length = wnames.length ∧
            (wnames = [] ∧ next = current ∨ ∃ owned, next = .owned owned)
        | .error _ => walked.length < wnames.length
  | [], current, mds, world, world', result, mds', h => by
      cases h
      exact ⟨[], by simp, rfl, .inl ⟨rfl, rfl⟩⟩
  | wname :: wnames, current, mds, world, world', result, mds', h => by
      unfold doWalkNames at h
      obtain ⟨step, mid, _, h⟩ := bind_eq_ok h
      rcases step with err | ⟨next, st⟩
      · cases h
        exact ⟨[], by simp, by simp⟩
      · obtain ⟨walked, rfl, hwalked⟩ := doWalkNames_eq_ok proc asciiCasefold h
        refine ⟨st :: walked, by simp, ?_⟩
        cases result with
        | error err =>
            simp only [List.length_cons] at hwalked ⊢
            omega
        | ok last =>
            obtain ⟨hlength, hlast⟩ := hwalked
            refine ⟨by simp [hlength], .inr ?_⟩
            rcases hlast with ⟨-, rfl⟩ | howned
            · exact ⟨next, rfl⟩
            · exact howned

/-- `do_walk` pushes one `stat` per name walked: all of them when it
succeeds, and when it fails fewer, or none. -/
theorem doWalk_eq_ok {proc : File} {wnames : List String} {start : File}
    {asciiCasefold : Bool} {world world' : World σ File}
    {result : Except IoError File} {mds : List Stat}
    (h : doWalk kernel proc wnames start asciiCasefold world = .ok (result, mds) world') :
    (∀ finish, result = .ok finish → mds.length = wnames.length) ∧
      (∀ err, result = .error err → mds.length < wnames.length ∨ mds = []) := by
  unfold doWalk at h
  obtain ⟨⟨walkResult, walkedMds⟩, mid, hwalk, h⟩ := bind_eq_ok h
  obtain ⟨walked, rfl, hwalked⟩ := doWalkNames_eq_ok kernel proc asciiCasefold hwalk
  rcases walkResult with err | next
  · cases h
    exact ⟨fun _ hok => (by cases hok), fun _ _ => .inl hwalked⟩
  · obtain ⟨hlength, hnext⟩ := hwalked
    rcases next with borrowed | owned
    · -- a walk that ends where it started walked no name, and clones its start
      have hnone : wnames = [] := by
        rcases hnext with ⟨hnil, -⟩ | ⟨owned, howned⟩
        · exact hnil
        · cases howned
      obtain ⟨clone, midClone, -, h⟩ := bind_eq_ok h
      cases h
      subst hnone
      exact ⟨fun _ _ => hlength, fun _ _ => .inr (List.eq_nil_of_length_eq_zero hlength)⟩
    · cases h
      exact ⟨fun _ _ => hlength, fun _ herr => by cases herr⟩

theorem keeps_lastOrStat (finish : File) (mds : List Stat) :
    Keeps SameServer (lastOrStat kernel finish mds) := by
  unfold lastOrStat
  split
  · exact keeps_pure _
  · exact keeps_stat kernel _

theorem walkOutcome_eq_ok {newfid : UInt32} {count : Nat} {result : Except IoError File}
    {mds : List Stat} {world world' : World σ File} {u : Unit}
    (h : walkOutcome kernel newfid count result mds world = .ok u world') :
    (∀ finish, result = .ok finish →
      if mds.length = count then
        ∃ st : Stat, world'.server = { world.server with
          fids := Function.update world.server.fids newfid
            (some { path := finish, file := none, filetype := FileType.ofMode st.stMode }) }
      else world' = world) ∧
    (∀ err, result = .error err → mds ≠ [] ∧ world' = world) := by
  unfold walkOutcome at h
  cases result with
  | ok finish =>
      refine ⟨fun _ hfinish => ?_, fun _ herr => (by cases herr)⟩
      cases hfinish
      rcases ite_eq_ok h with ⟨hfull, h⟩ | ⟨hshort, h⟩
      · obtain ⟨st, mid, hstat, h⟩ := bind_eq_ok h
        have hsame : mid.server = _ := (keeps_lastOrStat kernel finish mds).ok hstat
        rw [setFid_apply] at h
        cases h
        rw [if_pos hfull]
        exact ⟨st, by rw [hsame]⟩
      · cases h
        rw [if_neg hshort]
  | error err =>
      refine ⟨fun _ hfinish => (by cases hfinish), fun _ herr => ?_⟩
      cases herr
      rcases ite_eq_ok h with ⟨-, h⟩ | ⟨hnonempty, h⟩
      · cases h
      · cases h
        exact ⟨by simpa using hnonempty, rfl⟩

theorem keepsOnError_walkOutcome (newfid : UInt32) (count : Nat)
    (result : Except IoError File) (mds : List Stat) :
    KeepsOnError SameServer (walkOutcome kernel newfid count result mds) := by
  unfold walkOutcome
  split
  · split
    · exact KeepsOnError.bind (keeps_lastOrStat kernel _ _) fun _ =>
        (total_setFid _ _).keepsOnError
    · exact (keeps_pure _).keepsOnError
  · exact (Keeps.ite (keeps_throw _) (keeps_pure _)).keepsOnError

theorem walk_eq_ok {msg : Twalk} {world world' : World σ File} {reply : Rwalk}
    (h : walk kernel msg world = .ok reply world') :
    (msg.fid = msg.newfid ∨ world.server.fids msg.newfid = none) ∧
      (∃ start, world.server.fids msg.fid = some start) ∧
      reply.wqids.length ≤ msg.wnames.length ∧
      if reply.wqids.length = msg.wnames.length then
        ∃ start finish mds mid, ∃ st : Stat, world.server.fids msg.fid = some start ∧
          doWalk kernel world.server.proc msg.wnames start.path world.server.cfg.asciiCasefold
            world = .ok (.ok finish, mds) mid ∧
          world'.server = { world.server with
            fids := Function.update world.server.fids msg.newfid
              (some { path := finish, file := none, filetype := FileType.ofMode st.stMode }) }
      else world'.server = world.server := by
  have h := getServer_bind_eq_ok h
  obtain ⟨hcheck, h⟩ := failIf_bind_eq_ok h
  obtain ⟨start, hstart, h⟩ := getFid_bind_eq_ok h
  obtain ⟨⟨result, mds⟩, mid, hwalk, h⟩ := bind_eq_ok h
  have hsame : mid.server = _ := (keeps_doWalk kernel _ _ _ _).ok hwalk
  obtain ⟨hfull, hshort⟩ := doWalk_eq_ok kernel hwalk
  obtain ⟨_, midOutcome, houtcome, h⟩ := bind_eq_ok h
  obtain ⟨hstored, hfailed⟩ := walkOutcome_eq_ok kernel houtcome
  cases h
  refine ⟨?_, ⟨start, hstart⟩, ?_⟩
  · by_cases hfid : msg.fid = msg.newfid
    · exact .inl hfid
    · right
      simpa [hfid] using hcheck
  rw [List.length_map]
  cases result with
  | ok finish =>
      have hlength := hfull finish rfl
      have hst := hstored finish rfl
      rw [if_pos hlength] at hst
      obtain ⟨st, hst⟩ := hst
      refine ⟨Nat.le_of_eq hlength, ?_⟩
      rw [if_pos hlength]
      exact ⟨start, finish, mds, mid, st, hstart, hwalk, by rw [hst, hsame]⟩
  | error err =>
      obtain ⟨hnonempty, rfl⟩ := hfailed err rfl
      have hless : mds.length < msg.wnames.length := by
        rcases hshort err rfl with hless | hempty
        · exact hless
        · exact absurd hempty hnonempty
      refine ⟨Nat.le_of_lt hless, ?_⟩
      rw [if_neg (Nat.ne_of_lt hless)]
      exact hsame

theorem keepsOnError_walk (msg : Twalk) : KeepsOnError SameServer (walk kernel msg) :=
  KeepsOnError.bind keeps_getServer fun _ => KeepsOnError.bind (keeps_failIf _ _) fun _ =>
    KeepsOnError.bind (keeps_getFid _) fun _ =>
      KeepsOnError.bind (keeps_doWalk kernel _ _ _ _) fun ⟨result, mds⟩ =>
        (keepsOnError_walkOutcome kernel _ _ result mds).bind_total fun _ => total_pure _

theorem clunk_eq_ok {msg : Tclunk} {world world' : World σ File} {u : Unit}
    (h : clunk msg world = .ok u world') :
    world.server.fids msg.fid ≠ none ∧
      world' = { world with
        server := { world.server with
          fids := Function.update world.server.fids msg.fid none } } := by
  have h := getServer_bind_eq_ok h
  cases hfid : world.server.fids msg.fid with
  | none =>
      rw [hfid] at h
      cases h
  | some entry =>
      rw [hfid] at h
      cases h
      exact ⟨by simp, rfl⟩

theorem keepsOnError_clunk (msg : Tclunk) :
    KeepsOnError SameServer (clunk msg : UfsM σ File Unit) := by
  apply KeepsOnError.bind keeps_getServer
  intro server
  split
  · exact (keeps_throw _).keepsOnError
  · exact (total_setFid _ _).keepsOnError

theorem lopen_eq_ok {msg : Tlopen} {world world' : World σ File} {reply : Rlopen}
    (h : lopen kernel msg world = .ok reply world') :
    ∃ entry file st, world.server.fids msg.fid = some entry ∧
      (∃ mid, openFid kernel world.server.proc entry.path msg.flags world = .ok file mid) ∧
      world'.server = { world.server with
        fids := Function.update world.server.fids msg.fid (some { entry with file := some file }) } ∧
      reply = { qid := Qid.ofStat st, iounit := 0 } := by
  obtain ⟨entry, hentry, h⟩ := getFid_bind_eq_ok h
  have h := getServer_bind_eq_ok h
  obtain ⟨file, midOpen, hopen, h⟩ := bind_eq_ok h
  have hopened : midOpen.server = _ := (keeps_openFid kernel _ _ _).ok hopen
  obtain ⟨st, midStat, hstat, h⟩ := bind_eq_ok h
  have hstated : midStat.server = _ := (keeps_stat kernel _).ok hstat
  obtain ⟨_, midSet, hset, h⟩ := bind_eq_ok h
  rw [setFid_apply] at hset
  cases hset
  cases h
  exact ⟨entry, file, st, hentry, ⟨midOpen, hopen⟩, by rw [hstated, hopened], rfl⟩

theorem keepsOnError_lopen (msg : Tlopen) : KeepsOnError SameServer (lopen kernel msg) :=
  KeepsOnError.bind (keeps_getFid _) fun _ => KeepsOnError.bind keeps_getServer fun _ =>
    KeepsOnError.bind (keeps_openFid kernel _ _ _) fun _ =>
      KeepsOnError.bind (keeps_stat kernel _) fun _ =>
        Total.keepsOnError <| (total_setFid _ _).bind fun _ => total_pure _

theorem lcreate_eq_ok {msg : Tlcreate} {world world' : World σ File} {reply : Rlcreate}
    (h : lcreate kernel msg world = .ok reply world') :
    ∃ entry path file st, world.server.fids msg.fid = some entry ∧
      entry.filetype = .directory ∧
      (∃ name os mid mid', stringToCstring msg.name = .ok name ∧
        kernel.openat (some entry.path) name
          (mapFlags (Libc.O_CLOEXEC ||| Libc.O_CREAT ||| Libc.O_EXCL) msg.flags) msg.mode
          world.os = .ok file os ∧
        lookup kernel entry.path name mid = .ok path mid') ∧
      world'.server = { world.server with
        fids := Function.update world.server.fids msg.fid
          (some { path, file := some file, filetype := .regular }) } ∧
      reply = { qid := Qid.ofStat st, iounit := 0 } := by
  obtain ⟨entry, hentry, h⟩ := getFid_bind_eq_ok h
  obtain ⟨hdir, h⟩ := failIf_bind_eq_ok h
  obtain ⟨name, hname, h⟩ := liftExcept_bind_eq_ok h
  obtain ⟨file, midOpen, hopen, h⟩ := bind_eq_ok h
  have hopened : midOpen.server = _ := (keeps_sys _).ok hopen
  obtain ⟨os, hos, -⟩ := sys_eq_ok hopen
  obtain ⟨st, midStat, hstat, h⟩ := bind_eq_ok h
  have hstated : midStat.server = _ := (keeps_stat kernel _).ok hstat
  obtain ⟨_, midSet, hset, h⟩ := bind_eq_ok h
  rw [setFid_apply] at hset
  cases hset
  obtain ⟨path, midLookup, hlookup, h⟩ := bind_eq_ok h
  have hlooked : midLookup.server = _ := (keeps_lookup kernel _ _).ok hlookup
  obtain ⟨_, midSet, hset, h⟩ := bind_eq_ok h
  rw [setFid_apply] at hset
  cases hset
  cases h
  refine ⟨entry, path, file, st, hentry, not_not.mp hdir, ⟨name, os, _, _, hname, hos, hlookup⟩,
    ?_, rfl⟩
  -- the second write of the fid replaces the first
  rw [hlooked]
  simp only [hstated, hopened, Function.update_idem]

/-- `lcreate` fails with the server as it was, or, when the `lookup` of the
created file fails, with the fid already holding the new file as a regular
file at its old place. -/
theorem lcreate_eq_error {msg : Tlcreate} {world world' : World σ File} {err : IoError}
    (h : lcreate kernel msg world = .error err world') :
    world'.server = world.server ∨
      ∃ entry file, world.server.fids msg.fid = some entry ∧
        world'.server = { world.server with
          fids := Function.update world.server.fids msg.fid
            (some { entry with file := some file, filetype := .regular }) } := by
  rcases getFid_bind_eq_error h with rfl | ⟨entry, hentry, h⟩
  · exact .inl rfl
  rcases failIf_bind_eq_error h with rfl | ⟨-, h⟩
  · exact .inl rfl
  rcases liftExcept_bind_eq_error h with rfl | ⟨name, -, h⟩
  · exact .inl rfl
  rcases bind_eq_error h with h | ⟨file, midOpen, hopen, h⟩
  · exact .inl ((keeps_sys _).error h)
  have hopened : midOpen.server = _ := (keeps_sys _).ok hopen
  rcases bind_eq_error h with h | ⟨st, midStat, hstat, h⟩
  · exact .inl (((keeps_stat kernel _).error h).trans hopened)
  have hstated : midStat.server = _ := (keeps_stat kernel _).ok hstat
  rcases bind_eq_error h with h | ⟨_, midSet, hset, h⟩
  · rw [setFid_apply] at h
    cases h
  rw [setFid_apply] at hset
  cases hset
  rcases bind_eq_error h with h | ⟨path, midLookup, -, h⟩
  · -- the `lookup` failed after the fid was written
    have hlooked : world'.server = _ := (keeps_lookup kernel _ _).error h
    refine .inr ⟨entry, file, hentry, ?_⟩
    rw [hlooked]
    simp only [hstated, hopened]
  · rcases bind_eq_error h with h | ⟨_, midSet, hset, h⟩
    · rw [setFid_apply] at h
      cases h
    · cases h

end Writers

end JetStream
