import JetStream.Ufs.Service
import JetStream.Ufs.TreeFs

/-!
# A fid that is not bound cannot be used

After `Tclunk`, or after `Tversion` for all of them, a fid is not in the
table. Every handler that reads a fid looks it up before it makes any call of
the host. When the fid is not there, the handler fails with the server and the
host as they were (`dispatch_of_unbound`). The only requests that bind a fid
are a `Tattach` of it and a `Twalk` to it (`Tmessage.Binds`). Until one of them
comes, the fid stays out of the table, and every request that needs it is
answered with an `Rlerror` (`unbound_fid_stays_unusable`). This holds over any
sequence of requests, whichever clients they come from.
-/

namespace JetStream

open Proc Server

/-- The fids a request looks up in the table, which it needs bound. -/
def Tmessage.fidsRead : Tmessage → List UInt32
  | .walk msg => [msg.fid]
  | .read msg => [msg.fid]
  | .write msg => [msg.fid]
  | .clunk msg => [msg.fid]
  | .statfs msg => [msg.fid]
  | .lopen msg => [msg.fid]
  | .lcreate msg => [msg.fid]
  | .readlink msg => [msg.fid]
  | .getAttr msg => [msg.fid]
  | .setAttr msg => [msg.fid]
  | .readdir msg => [msg.fid]
  | .fsync msg => [msg.fid]
  | .lock msg => [msg.fid]
  | .getLock msg => [msg.fid]
  | .link msg => [msg.fid, msg.dfid]
  | .mkdir msg => [msg.dfid]
  | .renameAt msg => [msg.olddirfid, msg.newdirfid]
  | .unlinkAt msg => [msg.dirfd]
  | _ => []

/-- The requests that bind `fid`: a `Tattach` of it and a `Twalk` to it. -/
def Tmessage.Binds (fid : UInt32) : Tmessage → Prop
  | .attach msg => msg.fid = fid
  | .walk msg => msg.newfid = fid
  | _ => False

instance (fid : UInt32) : DecidablePred (Tmessage.Binds fid)
  | .attach msg => inferInstanceAs (Decidable (msg.fid = fid))
  | .walk msg => inferInstanceAs (Decidable (msg.newfid = fid))
  | .version _ | .flush _ | .read _ | .write _ | .clunk _ | .remove _ | .auth _ | .statfs _
  | .lopen _ | .lcreate _ | .symlink _ | .mknod _ | .rename _ | .readlink _ | .getAttr _
  | .setAttr _ | .xattrWalk _ | .xattrCreate _ | .readdir _ | .fsync _ | .lock _ | .getLock _
  | .link _ | .mkdir _ | .renameAt _ | .unlinkAt _ => isFalse id

variable {σ File : Type}

/-! ## Looking up a fid that is not bound -/

section Lookup

variable {fid : UInt32} {world : World σ File}

theorem getFid_of_unbound (hfree : world.server.fids fid = none) :
    (getFid fid : UfsM σ File (Fid File)) world = .error ebadf world := by
  simp only [getFid, bind_apply, getServer_apply, hfree, okOr, throw_apply]

theorem getOpenFile_of_unbound (hfree : world.server.fids fid = none) :
    (getOpenFile fid : UfsM σ File File) world = .error ebadf world := by
  simp only [getOpenFile, bind_apply, getServer_apply, hfree]
  rfl

/-- A fid that is bound is looked up without any change. -/
theorem getFid_of_bound {entry : Fid File} (hbound : world.server.fids fid = some entry) :
    (getFid fid : UfsM σ File (Fid File)) world = .ok entry world := by
  simp only [getFid, bind_apply, getServer_apply, hbound, okOr, pure_apply]

end Lookup

section Dispatch

variable (kernel : Kernel σ File)

/-- A request that needs a fid that is not bound fails, and the server and the
host are as they were. -/
theorem dispatch_of_unbound (msg : Tmessage) {fid : UInt32} {world : World σ File}
    (hfree : world.server.fids fid = none) (hread : fid ∈ msg.fidsRead) :
    ∃ err, dispatch kernel msg world = .error err world := by
  cases msg with
  | walk request =>
      simp only [Tmessage.fidsRead, List.mem_singleton] at hread
      subst hread
      -- the check of `newfid` comes first, and fails with `EBADF` itself
      by_cases hnew : request.fid ≠ request.newfid ∧ (world.server.fids request.newfid).isSome
      · exact ⟨.os Errno.EBADF, by simp [dispatch, walk, getServer_apply, failIf, hnew]⟩
      · exact ⟨ebadf, by simp [dispatch, walk, getServer_apply, failIf, hnew,
          getFid_of_unbound hfree]⟩
  | clunk request =>
      simp only [Tmessage.fidsRead, List.mem_singleton] at hread
      subst hread
      exact ⟨.os Errno.EBADF, by simp [dispatch, clunk, getServer_apply, hfree]⟩
  | link request =>
      simp only [Tmessage.fidsRead, List.mem_cons, List.not_mem_nil, or_false] at hread
      -- the target fid is looked up first, then the directory
      cases htarget : world.server.fids request.fid with
      | none => exact ⟨ebadf, by simp [dispatch, link, getFid_of_unbound htarget]⟩
      | some target =>
          have hdir : fid = request.dfid := by
            rcases hread with rfl | rfl
            · rw [hfree] at htarget
              cases htarget
            · rfl
          subst hdir
          cases hpath : procPath kernel target.path with
          | error err =>
              exact ⟨err, by simp [dispatch, link, getFid_of_bound htarget, hpath, liftExcept]⟩
          | ok path =>
              exact ⟨ebadf, by simp [dispatch, link, getFid_of_bound htarget, hpath, liftExcept,
                getFid_of_unbound hfree]⟩
  | renameAt request =>
      simp only [Tmessage.fidsRead, List.mem_cons, List.not_mem_nil, or_false] at hread
      -- the old directory is looked up first, then the new one
      cases hold : world.server.fids request.olddirfid with
      | none => exact ⟨ebadf, by simp [dispatch, renameAt, getFid_of_unbound hold]⟩
      | some olddir =>
          have hnew : fid = request.newdirfid := by
            rcases hread with rfl | rfl
            · rw [hfree] at hold
              cases hold
            · rfl
          subst hnew
          cases hname : stringToCstring request.oldname with
          | error err =>
              exact ⟨err, by simp [dispatch, renameAt, getFid_of_bound hold, hname, liftExcept]⟩
          | ok oldname =>
              exact ⟨ebadf, by simp [dispatch, renameAt, getFid_of_bound hold, hname, liftExcept,
                getFid_of_unbound hfree]⟩
  | read request | write request | fsync request | lock request | getLock request =>
      simp only [Tmessage.fidsRead, List.mem_singleton] at hread
      subst hread
      exact ⟨ebadf, by simp [dispatch, Server.read, write, fsync, lock, getLock,
        getOpenFile_of_unbound hfree]⟩
  | statfs request | lopen request | lcreate request | readlink request | getAttr request
  | setAttr request | readdir request =>
      simp only [Tmessage.fidsRead, List.mem_singleton] at hread
      subst hread
      exact ⟨ebadf, by simp [dispatch, statfs, lopen, lcreate, readlink, getAttr, setAttr,
        readdir, getFid_of_unbound hfree]⟩
  | mkdir request =>
      simp only [Tmessage.fidsRead, List.mem_singleton] at hread
      subst hread
      exact ⟨ebadf, by simp [dispatch, mkdir, getFid_of_unbound hfree]⟩
  | unlinkAt request =>
      simp only [Tmessage.fidsRead, List.mem_singleton] at hread
      subst hread
      exact ⟨ebadf, by simp [dispatch, unlinkAt, getFid_of_unbound hfree]⟩
  | version _ | flush _ | remove _ | attach _ | auth _ | symlink _ | mknod _ | rename _
  | xattrWalk _ | xattrCreate _ =>
      simp [Tmessage.fidsRead] at hread

end Dispatch

/-! ## The fid over a run of requests -/

section Run

variable (kernel : Kernel σ File)

/-- A request whose handler fails where it started is answered with the
error, the server and the host unchanged. -/
theorem handle_of_dispatch_error {frame : Tframe} {msg : Tmessage} (hmsg : frame.msg = .ok msg)
    {world : World σ File} {err : IoError} (h : dispatch kernel msg world = .error err world) :
    handle kernel frame world = .ok ⟨frame.tag, errorToRmessage err⟩ world := by
  simp only [handle, hmsg, bind_apply, attempt, h, pure_apply]

/-- A request that needs a fid that is not bound gets an `Rlerror`, and
nothing changes. -/
theorem handle_of_unbound {frame : Tframe} {msg : Tmessage} (hmsg : frame.msg = .ok msg)
    {fid : UInt32} {world : World σ File} (hfree : world.server.fids fid = none)
    (hread : fid ∈ msg.fidsRead) :
    ∃ err, handle kernel frame world = .ok ⟨frame.tag, errorToRmessage err⟩ world := by
  obtain ⟨err, hfail⟩ := dispatch_of_unbound kernel msg hfree hread
  exact ⟨err, handle_of_dispatch_error kernel hmsg hfail⟩

/-- A request that does not bind a fid that is not bound leaves it unbound:
`Tversion` unbinds every fid, the requests that name the fid to write it need
it bound and fail, and the others do not write it. -/
theorem handle_keeps_unbound {frame : Tframe} {fid : UInt32}
    (hnobind : ∀ msg, frame.msg = .ok msg → ¬ msg.Binds fid) {world world' : World σ File}
    {reply : Rframe} (hfree : world.server.fids fid = none)
    (h : handle kernel frame world = .ok reply world') : world'.server.fids fid = none := by
  by_cases hwrites : ∃ msg, frame.msg = .ok msg ∧ msg.Writes fid
  · obtain ⟨msg, hmsg, hwrite⟩ := hwrites
    have hstays : fid ∈ msg.fidsRead → world'.server.fids fid = none := fun hread => by
      obtain ⟨err, hunbound⟩ := handle_of_unbound kernel hmsg hfree hread
      rw [hunbound] at h
      injection h with _ hworld
      rw [← hworld]
      exact hfree
    cases msg with
    | version request =>
        obtain ⟨-, (⟨msg, rmsg, hmsg', hdispatch, -⟩ | ⟨err, -, hfail⟩)⟩ := handle_eq_ok kernel h
        · rw [hmsg, Except.ok.injEq] at hmsg'
          subst hmsg'
          obtain ⟨value, hversion, -⟩ := map_eq_ok hdispatch
          obtain ⟨-, rfl, -⟩ := version_eq_ok hversion
          rfl
        · rw [hmsg] at hfail
          have hsame : SameServer world world' :=
            (keepsOnError_version request).map Rmessage.version world err world' hfail
          unfold SameServer at hsame
          rw [hsame]
          exact hfree
    | attach request => exact absurd hwrite.symm (hnobind _ hmsg)
    | walk request => exact absurd hwrite.symm (hnobind _ hmsg)
    | clunk request => exact hstays (List.mem_singleton.mpr hwrite)
    | lopen request => exact hstays (List.mem_singleton.mpr hwrite)
    | lcreate request => exact hstays (List.mem_singleton.mpr hwrite)
    | _ => exact absurd hwrite id
  · have hkeeps : Keeps (WritesOnly (· ≠ fid)) (handle kernel frame) :=
      keepsWrites_handle kernel frame fun msg hmsg hwrite => hwrites ⟨msg, hmsg, hwrite⟩
    rw [(hkeeps.ok h).2 fid (not_not.mpr rfl)]
    exact hfree

/-- The run: one request at a time, the fid unbound before each of them. -/
theorem mapM_keeps_unbound (fid : UInt32) (frames : List Tframe)
    {world world' : World σ File} {replies : List Rframe}
    (hfree : world.server.fids fid = none)
    (hnobind : ∀ frame ∈ frames, ∀ msg, frame.msg = .ok msg → ¬ msg.Binds fid)
    (hrun : frames.mapM (handle kernel) world = .ok replies world') :
    world'.server.fids fid = none ∧
      List.Forall₂ (fun frame reply => ∀ msg, frame.msg = .ok msg → fid ∈ msg.fidsRead →
        ∃ err, reply = ⟨frame.tag, errorToRmessage err⟩) frames replies := by
  induction frames generalizing world replies with
  | nil =>
      obtain ⟨rfl, rfl⟩ := mapM_nil_eq_ok hrun
      exact ⟨hfree, .nil⟩
  | cons frame frames ih =>
      obtain ⟨reply, replies', mid, hfirst, hrest, rfl⟩ := mapM_cons_eq_ok hrun
      have hmid := handle_keeps_unbound kernel (hnobind frame List.mem_cons_self) hfree hfirst
      obtain ⟨hlast, hreplies⟩ :=
        ih hmid (fun other hother => hnobind other (List.mem_cons_of_mem _ hother)) hrest
      refine ⟨hlast, .cons (fun msg hmsg hread => ?_) hreplies⟩
      obtain ⟨err, hunbound⟩ := handle_of_unbound kernel hmsg hfree hread
      rw [hunbound] at hfirst
      injection hfirst with hreply
      exact ⟨err, hreply.symm⟩

/-- Over any run of requests, from any state where a fid is not bound, the fid
stays unbound until a request binds it. Every request that needs it in the
meantime is answered with an `Rlerror` for its tag, and changes nothing: from
any state where the fid is unbound, such a request leaves the state as it
was. -/
theorem unbound_fid_stays_unusable (fid : UInt32) (frames : List Tframe)
    {world world' : World σ File} {replies : List Rframe}
    (hfree : world.server.fids fid = none)
    (hnobind : ∀ frame ∈ frames, ∀ msg, frame.msg = .ok msg → ¬ msg.Binds fid)
    (hrun : frames.mapM (handle kernel) world = .ok replies world') :
    world'.server.fids fid = none ∧
      List.Forall₂ (fun frame reply => ∀ msg, frame.msg = .ok msg → fid ∈ msg.fidsRead →
        ∃ err, reply = ⟨frame.tag, errorToRmessage err⟩) frames replies ∧
      ∀ (frame : Tframe) (msg : Tmessage) (state : World σ File), frame.msg = .ok msg →
        fid ∈ msg.fidsRead → state.server.fids fid = none →
        ∃ err, handle kernel frame state = .ok ⟨frame.tag, errorToRmessage err⟩ state := by
  obtain ⟨hlast, hreplies⟩ := mapM_keeps_unbound kernel fid frames hfree hnobind hrun
  exact ⟨hlast, hreplies, fun _ _ _ hmsg hread hstate => handle_of_unbound kernel hmsg hstate hread⟩

end Run

/-- On a server just started, fid `0` is bound to nothing: a `Tstatfs` and a
`Tlopen` of it are refused, and a `Tclunk` of it too. -/
theorem fresh_server_refuses_fid :
    ∃ (replies : List Rframe) (world' : World TreeFs.Host Nat),
      (TreeFs.exportWorld 16).server.fids 0 = none ∧
      ([⟨1, .ok (.statfs ⟨0⟩)⟩, ⟨2, .ok (.lopen ⟨0, 0⟩)⟩, ⟨3, .ok (.clunk ⟨0⟩)⟩] :
          List Tframe).mapM (handle TreeFs.kernel) (TreeFs.exportWorld 16) =
        .ok replies world' ∧
      world'.server.fids 0 = none ∧
      List.Forall₂ (fun frame reply => ∀ msg, frame.msg = .ok msg → 0 ∈ msg.fidsRead →
        ∃ err, reply = ⟨frame.tag, errorToRmessage err⟩)
        ([⟨1, .ok (.statfs ⟨0⟩)⟩, ⟨2, .ok (.lopen ⟨0, 0⟩)⟩, ⟨3, .ok (.clunk ⟨0⟩)⟩] : List Tframe)
        replies := by
  have hfree : (TreeFs.exportWorld 16).server.fids 0 = none := rfl
  have hnobind : ∀ frame ∈ ([⟨1, .ok (.statfs ⟨0⟩)⟩, ⟨2, .ok (.lopen ⟨0, 0⟩)⟩,
      ⟨3, .ok (.clunk ⟨0⟩)⟩] : List Tframe), ∀ msg, frame.msg = .ok msg → ¬ msg.Binds 0 := by
    simp only [List.mem_cons, List.not_mem_nil, or_false]
    rintro frame (rfl | rfl | rfl) msg ⟨⟩ <;> decide
  have hrun : ([⟨1, .ok (.statfs ⟨0⟩)⟩, ⟨2, .ok (.lopen ⟨0, 0⟩)⟩, ⟨3, .ok (.clunk ⟨0⟩)⟩] :
      List Tframe).mapM (handle TreeFs.kernel) (TreeFs.exportWorld 16) = .ok _ _ := rfl
  obtain ⟨hlast, hreplies, -⟩ := unbound_fid_stays_unusable TreeFs.kernel 0 _ hfree hnobind hrun
  exact ⟨_, _, hfree, hrun, hlast, hreplies⟩

end JetStream
