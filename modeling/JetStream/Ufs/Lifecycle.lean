import JetStream.Ufs.Footprint
import JetStream.Ufs.TreeFs

/-!
# The fid lifecycle and the replies of `Server::handle`

`FidEffect` states, request kind by request kind, what a successful request
may do to the server: the fid lifecycle of 9P2000.L as `ufs/mod.rs` serves it.
The dispatch meets it, so every reply other than `Rlerror` comes from a run
that did no more.  A failed request keeps the server, except `Tlcreate`, whose
handler writes the fid before its last fallible call.  Whatever the request,
`handle` answers, with the request's tag and a reply of the kind that answers
the request or an `Rlerror`.
-/

namespace JetStream

open Proc Server

variable {σ File : Type}

/-- What a successful request does to the server, in terms of the host calls
its handler made from the state before it. `Tversion` forgets every fid and
lowers `msize`. `Tattach` binds a free fid, with no open file, to the
descriptor `openat` gave for the export root. A `Twalk` of all its names binds
`newfid`, with no open file, to the descriptor `do_walk` ended on. `Tclunk`
removes a bound fid. `Tlopen` gives a fid the file `open_fid` opened for it.
`Tlcreate` turns a directory fid into the regular file `openat` created, at the
place `lookup` found for its name. Every other request changes nothing. -/
def FidEffect (kernel : Kernel σ File) (msg : Tmessage) (reply : Rmessage)
    (before after : World σ File) : Prop :=
  match msg, reply with
  | .version request, _ =>
      after.server = { before.server with
        fids := fun _ => none
        cfg := { before.server.cfg with msize := min before.server.cfg.msize request.msize } }
  | .attach request, _ =>
      before.server.fids request.fid = none ∧
        ∃ rootPath os, ∃ st : Stat, kernel.openat none before.server.cfg.root
            (Libc.O_PATH ||| Libc.O_NOFOLLOW ||| Libc.O_CLOEXEC) 0 before.os = .ok rootPath os ∧
          after.server = { before.server with
            fids := Function.update before.server.fids request.fid
              (some { path := rootPath, file := none, filetype := FileType.ofMode st.stMode }) }
  | .walk request, .walk rwalk =>
      if rwalk.wqids.length = request.wnames.length then
        ∃ start finish mds mid, ∃ st : Stat, before.server.fids request.fid = some start ∧
          doWalk kernel before.server.proc request.wnames start.path
            before.server.cfg.asciiCasefold before = .ok (.ok finish, mds) mid ∧
          after.server = { before.server with
            fids := Function.update before.server.fids request.newfid
              (some { path := finish, file := none, filetype := FileType.ofMode st.stMode }) }
      else after.server = before.server
  | .clunk request, _ =>
      before.server.fids request.fid ≠ none ∧
        after.server = { before.server with
          fids := Function.update before.server.fids request.fid none }
  | .lopen request, _ =>
      ∃ entry file, before.server.fids request.fid = some entry ∧
        (∃ mid, openFid kernel before.server.proc entry.path request.flags before = .ok file mid) ∧
        after.server = { before.server with
          fids := Function.update before.server.fids request.fid
            (some { entry with file := some file }) }
  | .lcreate request, _ =>
      ∃ entry : Fid File, before.server.fids request.fid = some entry ∧
        entry.filetype = .directory ∧
        ∃ path file, (∃ name os mid mid', stringToCstring request.name = .ok name ∧
            kernel.openat (some entry.path) name
              (mapFlags (Libc.O_CLOEXEC ||| Libc.O_CREAT ||| Libc.O_EXCL) request.flags)
              request.mode before.os = .ok file os ∧
            lookup kernel entry.path name mid = .ok path mid') ∧
          after.server = { before.server with
            fids := Function.update before.server.fids request.fid
              (some { path, file := some file, filetype := .regular }) }
  | _, _ => after.server = before.server

/-- The requests whose handlers write the fid table. -/
def Tmessage.WritesFids : Tmessage → Prop
  | .version _ | .attach _ | .walk _ | .clunk _ | .lopen _ | .lcreate _ => True
  | _ => False

section Dispatch

variable (kernel : Kernel σ File)

/-- The other requests only read the server, whether they succeed or fail. -/
theorem keeps_dispatch (msg : Tmessage) (hmsg : ¬ msg.WritesFids) :
    Keeps SameServer (dispatch kernel msg) := by
  cases msg with
  | version _ | attach _ | walk _ | clunk _ | lopen _ | lcreate _ => exact absurd trivial hmsg
  | flush request => exact (keeps_flush request).map _
  | read request => exact (keeps_read kernel request).map _
  | write request => exact (keeps_write kernel request).map _
  | remove request => exact (keeps_remove request).map _
  | auth request => exact (keeps_auth request).map _
  | statfs request => exact (keeps_statfs kernel request).map _
  | symlink request => exact (keeps_symlink request).map _
  | mknod request => exact (keeps_mknod request).map _
  | rename request => exact (keeps_rename request).map _
  | readlink request => exact (keeps_readlink kernel request).map _
  | getAttr request => exact (keeps_getAttr kernel request).map _
  | setAttr request => exact (keeps_setAttr kernel request).map _
  | xattrWalk request => exact (keeps_xattrWalk request).map _
  | xattrCreate request => exact (keeps_xattrCreate request).map _
  | readdir request => exact (keeps_readdir kernel request).map _
  | fsync request => exact (keeps_fsync kernel request).map _
  | lock request => exact (keeps_lock kernel request).map _
  | getLock request => exact (keeps_getLock kernel request).map _
  | link request => exact (keeps_link kernel request).map _
  | mkdir request => exact (keeps_mkdir kernel request).map _
  | renameAt request => exact (keeps_renameAt kernel request).map _
  | unlinkAt request => exact (keeps_unlinkAt kernel request).map _

/-- Every successful run of the dispatch has the effect its request kind
allows: one case per request kind that writes fids, each from its handler's
own lemma. -/
theorem dispatch_fid_effect {msg : Tmessage} {world world' : World σ File}
    {reply : Rmessage} (h : dispatch kernel msg world = .ok reply world') :
    FidEffect kernel msg reply world world' := by
  cases msg with
  | version request =>
      obtain ⟨value, hrun, rfl⟩ := map_eq_ok h
      obtain ⟨-, rfl, -⟩ := version_eq_ok hrun
      rfl
  | attach request =>
      obtain ⟨value, hrun, rfl⟩ := map_eq_ok h
      obtain ⟨hfree, rootPath, os, st, hopen, hafter, -⟩ := attach_eq_ok kernel hrun
      exact ⟨hfree, rootPath, os, st, hopen, hafter⟩
  | walk request =>
      obtain ⟨value, hrun, rfl⟩ := map_eq_ok h
      obtain ⟨-, -, -, hafter⟩ := walk_eq_ok kernel hrun
      show if value.wqids.length = request.wnames.length then _ else _
      split
      · rwa [if_pos ‹_›] at hafter
      · rwa [if_neg ‹_›] at hafter
  | clunk request =>
      obtain ⟨value, hrun, rfl⟩ := map_eq_ok h
      obtain ⟨hbound, rfl⟩ := clunk_eq_ok hrun
      exact ⟨hbound, rfl⟩
  | lopen request =>
      obtain ⟨value, hrun, rfl⟩ := map_eq_ok h
      obtain ⟨entry, file, -, hentry, hopen, hafter, -⟩ := lopen_eq_ok kernel hrun
      exact ⟨entry, file, hentry, hopen, hafter⟩
  | lcreate request =>
      obtain ⟨value, hrun, rfl⟩ := map_eq_ok h
      obtain ⟨entry, path, file, -, hentry, hdir, hcalls, hafter, -⟩ := lcreate_eq_ok kernel hrun
      exact ⟨entry, hentry, hdir, path, file, hcalls, hafter⟩
  | _ => exact (keeps_dispatch kernel _ (by simp [Tmessage.WritesFids])).ok h

/-- A failed request other than `Tlcreate` leaves the server as it was. -/
theorem keepsOnError_dispatch (msg : Tmessage) (hmsg : ∀ request, msg ≠ .lcreate request) :
    KeepsOnError SameServer (dispatch kernel msg) := by
  cases msg with
  | version request => exact (keepsOnError_version request).map _
  | attach request => exact (keepsOnError_attach kernel request).map _
  | walk request => exact (keepsOnError_walk kernel request).map _
  | clunk request => exact (keepsOnError_clunk request).map _
  | lopen request => exact (keepsOnError_lopen kernel request).map _
  | lcreate request => exact absurd rfl (hmsg request)
  | _ => exact (keeps_dispatch kernel _ (by simp [Tmessage.WritesFids])).keepsOnError

/-- The dispatch answers a request with the reply kind whose type byte follows
the request's: the three tables of request types, handlers and reply types
agree. -/
theorem dispatch_messageType {msg : Tmessage} {world world' : World σ File}
    {reply : Rmessage} (h : dispatch kernel msg world = .ok reply world') :
    reply.messageType = msg.messageType + 1 := by
  cases msg <;>
    · obtain ⟨value, -, rfl⟩ := map_eq_ok h
      rfl

end Dispatch

/-! ## Running `Server::handle` -/

section Handle

variable (kernel : Kernel σ File)

/-- What `handle` does: the outcome of the handler, or of the decode error,
turned into a reply for the same tag. -/
theorem handle_eq_ok {frame : Tframe} {world world' : World σ File} {reply : Rframe}
    (h : handle kernel frame world = .ok reply world') :
    reply.tag = frame.tag ∧
      ((∃ msg rmsg, frame.msg = .ok msg ∧ dispatch kernel msg world = .ok rmsg world' ∧
          reply.msg = rmsg) ∨
        ∃ err, reply.msg = errorToRmessage err ∧
          (match frame.msg with
            | .ok msg => dispatch kernel msg
            | .error err => throw (decodeFailed err)) world = .error err world') := by
  obtain ⟨outcome, mid, hrun, h⟩ := bind_eq_ok h
  cases h
  refine ⟨rfl, ?_⟩
  rcases outcome with err | rmsg
  · exact .inr ⟨err, rfl, attempt_eq_ok_error hrun⟩
  · have hrun := attempt_eq_ok hrun
    rcases hmsg : frame.msg with err | msg
    · rw [hmsg] at hrun
      cases hrun
    · rw [hmsg] at hrun
      exact .inl ⟨msg, rmsg, rfl, hrun, rfl⟩

theorem total_handle (frame : Tframe) : Total (handle kernel frame) :=
  (total_attempt _).bind fun _ => total_pure _

/-- No request type is the one before `RLERROR`. -/
theorem Tmessage.messageType_succ_ne (msg : Tmessage) : msg.messageType + 1 ≠ RLERROR := by
  cases msg <;>
    · simp only [Tmessage.messageType]
      decide

/-- A successful handler never answers with `Rlerror`. -/
theorem dispatch_ne_lerror {msg : Tmessage} {world world' : World σ File}
    {reply : Rmessage} (h : dispatch kernel msg world = .ok reply world') (err : Rlerror) :
    reply ≠ .lerror err := by
  intro hlerror
  have htype := dispatch_messageType kernel h
  rw [hlerror] at htype
  exact msg.messageType_succ_ne htype.symm

end Handle

/-! ## The fids a request may write

Whatever its outcome, a request other than `Tversion` writes at most one entry
of the fid table, the one it names: `fid` for `Tattach`, `Tclunk`, `Tlopen`
and `Tlcreate`, `newfid` for `Twalk`, none for the others.  The table is
shared by everything the server answers, so this is all that keeps the fids
of one client from the requests of another. -/

/-- The fids a request may write; `Tversion` forgets them all. -/
def Tmessage.Writes : Tmessage → UInt32 → Prop
  | .version _, _ => True
  | .attach request, fid => fid = request.fid
  | .walk request, fid => fid = request.newfid
  | .clunk request, fid => fid = request.fid
  | .lopen request, fid => fid = request.fid
  | .lcreate request, fid => fid = request.fid
  | _, _ => False

/-- On the server's side, `world'` differs from `world` at most in the fid
table, and there only at fids that `fids` holds of. -/
def WritesOnly (fids : UInt32 → Prop) (world world' : World σ File) : Prop :=
  world'.server = { world.server with fids := world'.server.fids } ∧
    ∀ fid, ¬ fids fid → world'.server.fids fid = world.server.fids fid

section WritesOnly

variable {fids : UInt32 → Prop}

instance : Std.Refl (WritesOnly fids : World σ File → World σ File → Prop) :=
  ⟨fun _ => ⟨rfl, fun _ _ => rfl⟩⟩

instance : IsTrans (World σ File) (WritesOnly fids) :=
  ⟨fun _ _ _ hfirst hsecond =>
    ⟨by rw [hsecond.1, hfirst.1], fun fid hfid => (hsecond.2 fid hfid).trans (hfirst.2 fid hfid)⟩⟩

theorem SameServer.writesOnly {world world' : World σ File} (h : SameServer world world') :
    WritesOnly fids world world' := by
  unfold SameServer at h
  unfold WritesOnly
  rw [h]
  exact ⟨rfl, fun _ _ => rfl⟩

theorem WritesOnly.mono {other : UInt32 → Prop} (hsub : ∀ fid, fids fid → other fid)
    {world world' : World σ File} (h : WritesOnly fids world world') :
    WritesOnly other world world' :=
  ⟨h.1, fun fid hfid => h.2 fid fun hwritten => hfid (hsub fid hwritten)⟩

theorem keepsWrites_of_keeps {α : Type} {action : UfsM σ File α}
    (h : Keeps SameServer action) : Keeps (WritesOnly fids) action :=
  h.imp fun _ _ => SameServer.writesOnly

theorem keepsWrites_setFid (fid : UInt32) (value : Option (Fid File)) :
    Keeps (WritesOnly (· = fid)) (setFid fid value : UfsM σ File Unit) := by
  intro world
  exact ⟨rfl, fun other hother => Function.update_of_ne hother _ _⟩

end WritesOnly

section Writers

variable (kernel : Kernel σ File)

theorem keepsWrites_attach (msg : Tattach) :
    Keeps (WritesOnly (· = msg.fid)) (attach kernel msg) := by
  refine (keepsWrites_of_keeps keeps_getServer).bind fun server => ?_
  split
  · exact keeps_throw _
  · exact (keepsWrites_of_keeps (keeps_liftExcept _)).bind fun _ =>
      (keepsWrites_of_keeps (keeps_sys _)).bind fun _ =>
        (keepsWrites_of_keeps (keeps_stat kernel _)).bind fun _ =>
          (keepsWrites_setFid _ _).bind fun _ => keeps_pure _

theorem keepsWrites_walkOutcome (newfid : UInt32) (count : Nat)
    (result : Except IoError File) (mds : List Stat) :
    Keeps (WritesOnly (· = newfid)) (walkOutcome kernel newfid count result mds) := by
  unfold walkOutcome
  split
  · exact Keeps.ite ((keepsWrites_of_keeps (keeps_lastOrStat kernel _ _)).bind fun _ =>
      keepsWrites_setFid _ _) (keeps_pure _)
  · exact Keeps.ite (keeps_throw _) (keeps_pure _)

theorem keepsWrites_walk (msg : Twalk) :
    Keeps (WritesOnly (· = msg.newfid)) (walk kernel msg) :=
  (keepsWrites_of_keeps keeps_getServer).bind fun _ =>
    (keepsWrites_of_keeps (keeps_failIf _ _)).bind fun _ =>
      (keepsWrites_of_keeps (keeps_getFid _)).bind fun _ =>
        (keepsWrites_of_keeps (keeps_doWalk kernel _ _ _ _)).bind fun _ =>
          (keepsWrites_walkOutcome kernel _ _ _ _).bind fun _ => keeps_pure _

theorem keepsWrites_clunk (msg : Tclunk) :
    Keeps (WritesOnly (· = msg.fid)) (clunk msg : UfsM σ File Unit) := by
  refine (keepsWrites_of_keeps keeps_getServer).bind fun server => ?_
  split
  · exact keeps_throw _
  · exact keepsWrites_setFid _ _

theorem keepsWrites_lopen (msg : Tlopen) :
    Keeps (WritesOnly (· = msg.fid)) (lopen kernel msg) :=
  (keepsWrites_of_keeps (keeps_getFid _)).bind fun _ =>
    (keepsWrites_of_keeps keeps_getServer).bind fun _ =>
      (keepsWrites_of_keeps (keeps_openFid kernel _ _ _)).bind fun _ =>
        (keepsWrites_of_keeps (keeps_stat kernel _)).bind fun _ =>
          (keepsWrites_setFid _ _).bind fun _ => keeps_pure _

theorem keepsWrites_lcreate (msg : Tlcreate) :
    Keeps (WritesOnly (· = msg.fid)) (lcreate kernel msg) :=
  (keepsWrites_of_keeps (keeps_getFid _)).bind fun _ =>
    (keepsWrites_of_keeps (keeps_failIf _ _)).bind fun _ =>
      (keepsWrites_of_keeps (keeps_liftExcept _)).bind fun _ =>
        (keepsWrites_of_keeps (keeps_sys _)).bind fun _ =>
          (keepsWrites_of_keeps (keeps_stat kernel _)).bind fun _ =>
            (keepsWrites_setFid _ _).bind fun _ =>
              (keepsWrites_of_keeps (keeps_lookup kernel _ _)).bind fun _ =>
                (keepsWrites_setFid _ _).bind fun _ => keeps_pure _

/-- Every request but `Tversion`, whether it succeeds or fails, writes at most
the fid it names. -/
theorem keepsWrites_dispatch (msg : Tmessage) (hmsg : ∀ request, msg ≠ .version request) :
    Keeps (WritesOnly msg.Writes) (dispatch kernel msg) := by
  cases msg with
  | version request => exact absurd rfl (hmsg request)
  | attach request => exact (keepsWrites_attach kernel request).map _
  | walk request => exact (keepsWrites_walk kernel request).map _
  | clunk request => exact (keepsWrites_clunk request).map _
  | lopen request => exact (keepsWrites_lopen kernel request).map _
  | lcreate request => exact (keepsWrites_lcreate kernel request).map _
  | _ => exact keepsWrites_of_keeps (keeps_dispatch kernel _ (by simp [Tmessage.WritesFids]))

end Writers

/-! ## Requests that succeed, requests that fail, and the replies -/

section Outcomes

variable (kernel : Kernel σ File)

/-- A request other than `Tlcreate` that `handle` answers with `Rlerror`
left the server as it was; so does a request whose body did not decode. -/
theorem handle_error_keeps_server (frame : Tframe) (world world' : World σ File)
    (reply : Rframe) (h : handle kernel frame world = .ok reply world')
    (hfailed : ∃ err, reply.msg = .lerror err)
    (hmsg : ∀ request, frame.msg ≠ .ok (.lcreate request)) :
    world'.server = world.server := by
  obtain ⟨-, ⟨msg, rmsg, hframe, hrun, hreply⟩ | ⟨err, -, hrun⟩⟩ := handle_eq_ok kernel h
  · obtain ⟨err, hlerror⟩ := hfailed
    exact absurd (hreply ▸ hlerror) (dispatch_ne_lerror kernel hrun err)
  · rcases hframe : frame.msg with decodeErr | msg
    · rw [hframe] at hrun
      cases hrun
      rfl
    · rw [hframe] at hrun
      have hnot : ∀ request, msg ≠ .lcreate request := fun request heq =>
        hmsg request (by rw [hframe, heq])
      exact keepsOnError_dispatch kernel msg hnot world err world' hrun

/-- What `lcreate` does when the file is created and its `stat` succeeds but
the `lookup` of its new place fails. -/
theorem lcreate_apply_of_lookup_error {msg : Tlcreate} {world : World σ File}
    {entry : Fid File} {file : File} {st : Stat} {errno : Int32} {os₁ os₂ os₃ : σ}
    (hfid : world.server.fids msg.fid = some entry) (hdir : entry.filetype = .directory)
    (hname : 0 ∉ WireFormat.utf8Bytes msg.name)
    (hcreate : kernel.openat (some entry.path) (WireFormat.utf8Bytes msg.name)
      (mapFlags (Libc.O_CLOEXEC ||| Libc.O_CREAT ||| Libc.O_EXCL) msg.flags) msg.mode
        world.os = .ok file os₁)
    (hstat : kernel.fstatat file [] (Libc.AT_EMPTY_PATH ||| Libc.AT_SYMLINK_NOFOLLOW) os₁ =
      .ok st os₂)
    (hlookup : kernel.openat (some entry.path) (WireFormat.utf8Bytes msg.name)
      (Libc.O_PATH ||| Libc.O_NOFOLLOW ||| Libc.O_CLOEXEC) 0 os₂ = .error errno os₃) :
    lcreate kernel msg world =
      .error (.os errno)
        { server := { world.server with
            fids := Function.update world.server.fids msg.fid
              (some { entry with file := some file, filetype := .regular }) }
          os := os₃ } := by
  simp [lcreate, getFid, okOr, hfid, failIf, hdir, liftExcept, stringToCstring, hname, sys,
    hcreate, stat, statat, hstat, lookup, hlookup]

/-- `Tlcreate` can fail after writing its fid: when the new file is created
and its `stat` succeeds but the `lookup` of its place fails, the reply is an
`Rlerror`, while the fid already holds the new file, as a regular file, at the
place of the directory it was created in. Every failed `Tlcreate` keeps the
server or converts its fid so, and every other request answered with an
`Rlerror` keeps the server. -/
theorem lcreate_error_converts_fid (tag : UInt16) (msg : Tlcreate) (world : World σ File)
    (entry : Fid File) (file : File) (st : Stat) (errno : Int32) (os₁ os₂ os₃ : σ)
    (hfid : world.server.fids msg.fid = some entry) (hdir : entry.filetype = .directory)
    (hname : 0 ∉ WireFormat.utf8Bytes msg.name)
    (hcreate : kernel.openat (some entry.path) (WireFormat.utf8Bytes msg.name)
      (mapFlags (Libc.O_CLOEXEC ||| Libc.O_CREAT ||| Libc.O_EXCL) msg.flags) msg.mode
        world.os = .ok file os₁)
    (hstat : kernel.fstatat file [] (Libc.AT_EMPTY_PATH ||| Libc.AT_SYMLINK_NOFOLLOW) os₁ =
      .ok st os₂)
    (hlookup : kernel.openat (some entry.path) (WireFormat.utf8Bytes msg.name)
      (Libc.O_PATH ||| Libc.O_NOFOLLOW ||| Libc.O_CLOEXEC) 0 os₂ = .error errno os₃) :
    (∃ world', handle kernel ⟨tag, .ok (.lcreate msg)⟩ world =
        .ok ⟨tag, .lerror ⟨errno.toUInt32⟩⟩ world' ∧
      world'.server.fids msg.fid = some { entry with file := some file, filetype := .regular } ∧
      world'.server.fids msg.fid ≠ world.server.fids msg.fid) ∧
    (∀ (before after : World σ File) (err : IoError),
      lcreate kernel msg before = .error err after →
        after.server = before.server ∨
          ∃ held file', before.server.fids msg.fid = some held ∧
            after.server = { before.server with
              fids := Function.update before.server.fids msg.fid
                (some { held with file := some file', filetype := .regular }) }) ∧
    ∀ (frame : Tframe) (before after : World σ File) (reply : Rframe),
      handle kernel frame before = .ok reply after → (∃ err, reply.msg = .lerror err) →
        (∀ request, frame.msg ≠ .ok (.lcreate request)) → after.server = before.server := by
  refine ⟨?_, fun _ _ _ hfail => lcreate_eq_error kernel hfail,
    fun frame before after reply hrun hfailed hmsg =>
      handle_error_keeps_server kernel frame before after reply hrun hfailed hmsg⟩
  have hrun := lcreate_apply_of_lookup_error kernel hfid hdir hname hcreate hstat hlookup
  let converted : Fid File := { entry with file := some file, filetype := .regular }
  refine ⟨⟨{ world.server with fids := Function.update world.server.fids msg.fid converted }, os₃⟩,
    ?_, Function.update_self .., ?_⟩
  · simp [handle, dispatch, attempt, hrun, errorToRmessage, WireFormat.errorToRmessage,
      errorErrno, converted]
  · simp only [Function.update_self, hfid, ne_eq, Option.some.injEq]
    intro hsame
    have hregular := congrArg Fid.filetype hsame
    rw [hdir] at hregular
    cases hregular

/-- On the tree with at most three descriptors, `Tlcreate` of `a` in the
export root creates `/export/a` on the third descriptor, and the `lookup`
that follows finds no descriptor left. -/
theorem lcreate_at_descriptor_limit :
    ∃ world', handle TreeFs.kernel ⟨2, .ok (.lcreate ⟨0, "a", 0, 0o644, 0⟩)⟩
        (Proc.Result.state
          (handle TreeFs.kernel ⟨1, .ok (.attach TreeFs.attachExport)⟩ (TreeFs.exportWorld 3))) =
        .ok ⟨2, .lerror ⟨TreeFs.EMFILE.toUInt32⟩⟩ world' ∧
      world'.server.fids 0 = some { path := 1, file := some 2, filetype := .regular } ∧
      world'.server.fids 0 ≠ some { path := 1, file := none, filetype := .directory } :=
  (lcreate_error_converts_fid TreeFs.kernel 2 _ _ ⟨1, none, .directory⟩ 2 _ TreeFs.EMFILE _ _ _
    rfl rfl (by decide) rfl rfl rfl).1

/-- `handle` answers every request, decoded or not, with the request's tag,
and with a reply whose type byte is `RLERROR` or the request's plus one. -/
theorem handle_reply_conforms (frame : Tframe) (world : World σ File) :
    ∃ reply world', handle kernel frame world = .ok reply world' ∧ reply.tag = frame.tag ∧
      (reply.msg.messageType = RLERROR ∨
        ∃ msg, frame.msg = .ok msg ∧ reply.msg.messageType = msg.messageType + 1) := by
  obtain ⟨reply, world', h⟩ := total_handle kernel frame world
  refine ⟨reply, world', h, ?_⟩
  obtain ⟨htag, ⟨msg, rmsg, hframe, hrun, hreply⟩ | ⟨err, hreply, -⟩⟩ := handle_eq_ok kernel h
  · exact ⟨htag, .inr ⟨msg, hframe, hreply ▸ dispatch_messageType kernel hrun⟩⟩
  · exact ⟨htag, .inl (by rw [hreply]; rfl)⟩

end Outcomes

end JetStream
