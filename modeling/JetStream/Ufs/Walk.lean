import JetStream.Ufs.Lifecycle

/-!
# The walk of `Twalk`

walk(5) resolves the names of a request one after another from the place of
a fid.  `Server::walk` does this in the loop of `do_walk`: each name becomes a
C string, is looked up from the current place (with the case-folding scan
after an `ENOENT` when the server folds case), and what it found is
`stat`ed; the first failure ends the loop.  `Resolves` is that loop as a run
of steps, one per name resolved, and `walk_follows_resolution` says what the
request answers for every run: the first name's error when no name resolved,
the `qid`s of the names that did when some of them failed, with the fid table
untouched, and the `qid`s with `newfid` bound to the place reached when all
of them resolved.

A walk of no names resolves nothing and clones the fid's descriptor instead,
and `stat`s the clone; either can fail, and then the walk answers the error.
-/

namespace JetStream

open Proc Server

variable {σ File : Type}

namespace Server

section Resolution

variable (kernel : Kernel σ File) (proc : File) (asciiCasefold : Bool)

/-- One name of the loop of `do_walk`: the name as a C string, `walk_lookup`
from the current place, and the `stat` of what it found. -/
def walkStep (current : File) (wname : String) : UfsM σ File (File × Stat) := do
  let name ← liftExcept (stringToCstring wname)
  let next ← walkLookup kernel proc current asciiCasefold name
  let st ← stat kernel next
  pure (next, st)

/-- The names of a walk resolved in turn from `current`, from `world` to
`world'`: `steps` holds the place each resolved name led to and its `stat`,
and `stop` the error of the first name that did not resolve, if one did
not. -/
inductive Resolves : World σ File → File → List String → List (File × Stat) →
    Option IoError → World σ File → Prop
  | nil {world : World σ File} {current : File} : Resolves world current [] [] none world
  | fail {world world' : World σ File} {current : File} {wname : String}
      {wnames : List String} {err : IoError}
      (hstep : walkStep kernel proc asciiCasefold current wname world = .error err world') :
      Resolves world current (wname :: wnames) [] (some err) world'
  | cons {world mid world' : World σ File} {current next : File} {st : Stat}
      {wname : String} {wnames : List String} {steps : List (File × Stat)}
      {stop : Option IoError}
      (hstep : walkStep kernel proc asciiCasefold current wname world = .ok (next, st) mid)
      (hrest : Resolves mid next wnames steps stop world') :
      Resolves world current (wname :: wnames) ((next, st) :: steps) stop world'

/-- Where the loop of `do_walk` ends after a run: the error that stopped it,
or the last place reached, which is where it started when there was no name. -/
def loopEnd (current : MaybeOwned File) (steps : List (File × Stat)) :
    Option IoError → Except IoError (MaybeOwned File)
  | some err => .error err
  | none =>
      match steps.getLast? with
      | some (next, _) => .ok (.owned next)
      | none => .ok current

theorem keeps_walkStep (current : File) (wname : String) :
    Keeps SameServer (walkStep kernel proc asciiCasefold current wname) :=
  (keeps_liftExcept _).bind fun name =>
    (keeps_walkLookup kernel proc current asciiCasefold name).bind fun next =>
      (keeps_stat kernel next).bind fun _ => keeps_pure _

variable {kernel proc asciiCasefold}

/-- Resolving names only reads the server. -/
theorem Resolves.server_eq {world world' : World σ File} {current : File}
    {wnames : List String} {steps : List (File × Stat)} {stop : Option IoError}
    (hrun : Resolves kernel proc asciiCasefold world current wnames steps stop world') :
    world'.server = world.server := by
  induction hrun with
  | nil => rfl
  | fail hstep => exact (keeps_walkStep kernel proc asciiCasefold _ _).error hstep
  | cons hstep _ ih => exact ih.trans ((keeps_walkStep kernel proc asciiCasefold _ _).ok hstep)

/-- A run resolves every name exactly when no name stopped it, and fewer
otherwise. -/
theorem Resolves.length_eq {world world' : World σ File} {current : File}
    {wnames : List String} {steps : List (File × Stat)} {stop : Option IoError}
    (hrun : Resolves kernel proc asciiCasefold world current wnames steps stop world') :
    (stop = none → steps.length = wnames.length) ∧
      (stop ≠ none → steps.length < wnames.length) := by
  induction hrun with
  | nil => exact ⟨fun _ => rfl, fun hstop => absurd rfl hstop⟩
  | fail => exact ⟨fun hstop => (by cases hstop), fun _ => by simp⟩
  | cons _ _ ih =>
      obtain ⟨hfull, hshort⟩ := ih
      exact ⟨fun hstop => by simp [hfull hstop], fun hstop => by simp [hshort hstop]⟩

/-- The run is determined by where it starts. -/
theorem Resolves.unique {world : World σ File} {current : File} {wnames : List String}
    {steps steps' : List (File × Stat)} {stop stop' : Option IoError}
    {world' world'' : World σ File}
    (hrun : Resolves kernel proc asciiCasefold world current wnames steps stop world')
    (hrun' : Resolves kernel proc asciiCasefold world current wnames steps' stop' world'') :
    steps = steps' ∧ stop = stop' ∧ world' = world'' := by
  induction hrun generalizing steps' stop' world'' with
  | nil =>
      cases hrun'
      exact ⟨rfl, rfl, rfl⟩
  | fail hstep =>
      cases hrun' with
      | fail hstep' =>
          rw [hstep] at hstep'
          cases hstep'
          exact ⟨rfl, rfl, rfl⟩
      | cons hstep' _ =>
          rw [hstep] at hstep'
          cases hstep'
  | cons hstep _ ih =>
      cases hrun' with
      | fail hstep' =>
          rw [hstep] at hstep'
          cases hstep'
      | cons hstep' hrest' =>
          rw [hstep] at hstep'
          cases hstep'
          obtain ⟨rfl, rfl, rfl⟩ := ih hrest'
          exact ⟨rfl, rfl, rfl⟩

theorem loopEnd_cons (current : MaybeOwned File) (next : File) (st : Stat)
    (steps : List (File × Stat)) (stop : Option IoError) :
    loopEnd current ((next, st) :: steps) stop = loopEnd (.owned next) steps stop := by
  cases stop with
  | some err => rfl
  | none =>
      cases steps with
      | nil => rfl
      | cons step steps =>
          have hlast := List.getLast?_eq_some_getLast (List.cons_ne_nil step steps)
          simp only [loopEnd, List.getLast?_cons_cons, hlast]

/-- A name that does not resolve ends the loop of `do_walk` with its error. -/
theorem doWalkNames_of_fail {wname : String} {wnames : List String} {current : MaybeOwned File}
    {mds : List Stat} {world world' : World σ File} {err : IoError}
    (hstep : walkStep kernel proc asciiCasefold current.asRef wname world = .error err world') :
    doWalkNames kernel proc asciiCasefold (wname :: wnames) current mds world =
      .ok (.error err, mds) world' := by
  show (attempt (walkStep kernel proc asciiCasefold current.asRef wname) >>= _) world = _
  simp only [bind_apply, attempt, hstep, pure_apply]

/-- A name that resolves moves the loop of `do_walk` on to the next name. -/
theorem doWalkNames_of_step {wname : String} {wnames : List String} {current : MaybeOwned File}
    {mds : List Stat} {world mid : World σ File} {next : File} {st : Stat}
    (hstep : walkStep kernel proc asciiCasefold current.asRef wname world = .ok (next, st) mid) :
    doWalkNames kernel proc asciiCasefold (wname :: wnames) current mds world =
      doWalkNames kernel proc asciiCasefold wnames (.owned next) (mds ++ [st]) mid := by
  show (attempt (walkStep kernel proc asciiCasefold current.asRef wname) >>= _) world = _
  simp only [bind_apply, attempt, hstep]

variable (kernel proc asciiCasefold)

/-- The loop of `do_walk` never fails: it runs the resolution of its names,
and returns where the run ended with the `stat` of every name resolved. -/
theorem doWalkNames_resolves :
    ∀ (wnames : List String) (current : MaybeOwned File) (mds : List Stat)
      (world : World σ File),
      ∃ steps stop world',
        Resolves kernel proc asciiCasefold world current.asRef wnames steps stop world' ∧
        doWalkNames kernel proc asciiCasefold wnames current mds world =
          .ok (loopEnd current steps stop, mds ++ steps.map Prod.snd) world'
  | [], current, mds, world => ⟨[], none, world, .nil, by simp [doWalkNames, loopEnd]⟩
  | wname :: wnames, current, mds, world => by
      cases hstep : walkStep kernel proc asciiCasefold current.asRef wname world with
      | error err world' =>
          refine ⟨[], some err, world', .fail hstep, ?_⟩
          rw [doWalkNames_of_fail hstep]
          simp [loopEnd]
      | ok found mid =>
          obtain ⟨next, st⟩ := found
          obtain ⟨steps, stop, world', hrun, hrest⟩ :=
            doWalkNames_resolves wnames (.owned next) (mds ++ [st]) mid
          refine ⟨(next, st) :: steps, stop, world', .cons hstep hrun, ?_⟩
          rw [doWalkNames_of_step hstep, hrest, loopEnd_cons]
          simp

end Resolution

section Walk

variable (kernel : Kernel σ File)

/-- A walk from an unbound fid, or to a bound fid other than its own, is
refused with `EBADF` before anything is done. -/
theorem walk_of_bad_fid {msg : Twalk} {world : World σ File}
    (hbad : world.server.fids msg.fid = none ∨
      msg.fid ≠ msg.newfid ∧ world.server.fids msg.newfid ≠ none) :
    walk kernel msg world = .error ebadf world := by
  by_cases hcheck : msg.fid ≠ msg.newfid ∧ (world.server.fids msg.newfid).isSome
  · simp only [walk, bind_apply, getServer_apply, failIf, if_pos hcheck, throw_apply]
    rfl
  · have hunbound : world.server.fids msg.fid = none := by
      rcases hbad with hnone | ⟨hne, hbound⟩
      · exact hnone
      · exact absurd ⟨hne, Option.isSome_iff_ne_none.mpr hbound⟩ hcheck
    simp only [walk, bind_apply, getServer_apply, failIf, if_neg hcheck, pure_apply, getFid,
      okOr, hunbound, throw_apply]

/-- Once the fid checks pass, `walk` is `do_walk` from the fid's place,
followed by what it does with the outcome. -/
theorem walk_of_free {msg : Twalk} {world : World σ File} {start : Fid File}
    (hstart : world.server.fids msg.fid = some start)
    (hfree : msg.fid = msg.newfid ∨ world.server.fids msg.newfid = none) :
    walk kernel msg world = (do
      let (result, mds) ← doWalk kernel world.server.proc msg.wnames start.path
        world.server.cfg.asciiCasefold
      walkOutcome kernel msg.newfid msg.wnames.length result mds
      pure ({ wqids := mds.map Qid.ofStat } : Rwalk)) world := by
  have hcheck : ¬ (msg.fid ≠ msg.newfid ∧ (world.server.fids msg.newfid).isSome) := by
    rintro ⟨hne, hbound⟩
    rcases hfree with heq | hnone
    · exact hne heq
    · simp [hnone] at hbound
  simp only [walk, bind_apply, getServer_apply, failIf, if_neg hcheck, pure_apply, getFid,
    okOr, hstart]

/-- A walk from a bound fid to a free one (or to itself): the run of its names
from the fid's place decides the answer.  When the first name fails, its
error; when a later one fails, the `qid`s of those before it, with the fid
table as it was; when all resolve, their `qid`s, with `newfid` bound to the
last place reached. -/
theorem walk_of_names {msg : Twalk} {world : World σ File} {start : Fid File}
    (hstart : world.server.fids msg.fid = some start)
    (hfree : msg.fid = msg.newfid ∨ world.server.fids msg.newfid = none) :
    ∃ steps stop mid,
      Resolves kernel world.server.proc world.server.cfg.asciiCasefold world start.path
        msg.wnames steps stop mid ∧
      mid.server = world.server ∧
      (∀ err, stop = some err → steps = [] → walk kernel msg world = .error err mid) ∧
      (∀ err, stop = some err → steps ≠ [] →
        walk kernel msg world = .ok ⟨steps.map fun step => Qid.ofStat step.2⟩ mid) ∧
      (∀ finish st, stop = none → steps.getLast? = some (finish, st) →
        walk kernel msg world = .ok ⟨steps.map fun step => Qid.ofStat step.2⟩
          { mid with server := { world.server with
              fids := Function.update world.server.fids msg.newfid
                (some ⟨finish, none, FileType.ofMode st.stMode⟩) } }) := by
  obtain ⟨steps, stop, mid, hrun, hloop⟩ := doWalkNames_resolves kernel world.server.proc
    world.server.cfg.asciiCasefold msg.wnames (.borrowed start.path) [] world
  have hsame := hrun.server_eq
  have hwalk := walk_of_free kernel hstart hfree
  refine ⟨steps, stop, mid, hrun, hsame, ?_, ?_, ?_⟩
  · rintro err rfl rfl
    simp [hwalk, doWalk, bind_apply, hloop, loopEnd, walkOutcome]
  · rintro err rfl hsteps
    simp [hwalk, doWalk, bind_apply, hloop, loopEnd, walkOutcome, hsteps]
  · rintro finish st rfl hlast
    have hlength := hrun.length_eq.1 rfl
    simp [hwalk, doWalk, bind_apply, hloop, loopEnd, hlast, walkOutcome, hlength, lastOrStat,
      List.getLast?_map, setFid, hsame]

/-- A walk of no names from a bound fid to a free one (or to itself) clones
the fid's descriptor, `stat`s the clone, and binds `newfid` to it; when the
clone or its `stat` fails, the walk answers that error. -/
theorem walk_of_no_names {msg : Twalk} {world : World σ File} {start : Fid File}
    (hstart : world.server.fids msg.fid = some start)
    (hfree : msg.fid = msg.newfid ∨ world.server.fids msg.newfid = none)
    (hnames : msg.wnames = []) :
    walk kernel msg world = (do
      let clone ← sys (kernel.dup start.path)
      let st ← stat kernel clone
      setFid msg.newfid (some ⟨clone, none, FileType.ofMode st.stMode⟩)
      pure ({ wqids := [] } : Rwalk)) world := by
  rw [walk_of_free kernel hstart hfree, hnames]
  cases hdup : sys (kernel.dup start.path) world with
  | ok clone mid =>
      simp only [doWalk, doWalkNames, bind_apply, pure_apply, attempt, hdup, walkOutcome,
        lastOrStat, List.getLast?_nil, List.length_nil, if_true, setFid]
      cases stat kernel clone mid <;> rfl
  | error err mid =>
      simp [doWalk, doWalkNames, bind_apply, attempt, hdup, walkOutcome]

/-- `Twalk` as walk(5) has it, for every server and request: `EBADF` with
nothing done when the fid is unbound or `newfid` is another bound fid;
otherwise the answer the run of the names decides, or, for no names, the
clone of the fid, which may fail. -/
theorem walk_follows_resolution (msg : Twalk) (world : World σ File) :
    (world.server.fids msg.fid = none ∨
        msg.fid ≠ msg.newfid ∧ world.server.fids msg.newfid ≠ none →
      walk kernel msg world = .error ebadf world) ∧
    ∀ start, world.server.fids msg.fid = some start →
      (msg.fid = msg.newfid ∨ world.server.fids msg.newfid = none) →
      (∃ steps stop mid,
        Resolves kernel world.server.proc world.server.cfg.asciiCasefold world start.path
          msg.wnames steps stop mid ∧
        mid.server = world.server ∧
        (∀ err, stop = some err → steps = [] → walk kernel msg world = .error err mid) ∧
        (∀ err, stop = some err → steps ≠ [] →
          walk kernel msg world = .ok ⟨steps.map fun step => Qid.ofStat step.2⟩ mid) ∧
        (∀ finish st, stop = none → steps.getLast? = some (finish, st) →
          walk kernel msg world = .ok ⟨steps.map fun step => Qid.ofStat step.2⟩
            { mid with server := { world.server with
                fids := Function.update world.server.fids msg.newfid
                  (some ⟨finish, none, FileType.ofMode st.stMode⟩) } })) ∧
      (msg.wnames = [] →
        walk kernel msg world = (do
          let clone ← sys (kernel.dup start.path)
          let st ← stat kernel clone
          setFid msg.newfid (some ⟨clone, none, FileType.ofMode st.stMode⟩)
          pure ({ wqids := [] } : Rwalk)) world) :=
  ⟨walk_of_bad_fid kernel, fun _ hstart hfree =>
    ⟨walk_of_names kernel hstart hfree, walk_of_no_names kernel hstart hfree⟩⟩

/-- From the export root, `..` resolves to `/` and `x` then fails: the walk
answers the one `qid` and leaves the fid table as it was. -/
theorem partial_walk_keeps_fids :
    ∃ qid mid, walk TreeFs.kernel ⟨0, 1, ["..", "x"]⟩ (TreeFs.exportAttached 16) =
        .ok ⟨[qid]⟩ mid ∧ mid.server = (TreeFs.exportAttached 16).server := by
  obtain ⟨steps, stop, mid, hrun, hsame, -, hpartial, -⟩ :=
    ((walk_follows_resolution TreeFs.kernel ⟨0, 1, ["..", "x"]⟩
      (TreeFs.exportAttached 16)).2 ⟨1, none, .directory⟩ rfl (.inr rfl)).1
  have htree : Resolves TreeFs.kernel 0 false (TreeFs.exportAttached 16) 1 ["..", "x"]
      [(_, _)] (some _) _ := .cons rfl (.fail rfl)
  obtain ⟨rfl, rfl, rfl⟩ := hrun.unique htree
  exact ⟨_, _, hpartial _ rfl (List.cons_ne_nil _ _), hsame⟩

/-- On a host that allows two open descriptors, with `/proc` and the export
root open on them: a walk of no names from fid `0` to the free fid `1` must
clone fid `0`'s descriptor, which the host refuses with `EMFILE`, and the walk
answers that error. -/
theorem empty_walk_at_descriptor_limit :
    (TreeFs.exportAttached 2).server.fids 0 = some ⟨1, none, .directory⟩ ∧
      (TreeFs.exportAttached 2).server.fids 1 = none ∧
      walk TreeFs.kernel ⟨0, 1, []⟩ (TreeFs.exportAttached 2) =
        .error (.os TreeFs.EMFILE) (TreeFs.exportAttached 2) :=
  ⟨rfl, rfl, rfl⟩

end Walk

end Server

end JetStream
