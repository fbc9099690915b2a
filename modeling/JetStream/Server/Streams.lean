import JetStream.Server.QuicServer
import JetStream.Ufs.Service

/-!
# Many streams, one server

`QuicServer::serve` runs a task for every stream of every connection, and
with the service of `server/ufs.rs` every task calls the one `Ufs`: it sends
its request down the `Ufs`'s channel with a oneshot channel of its own, and
waits on that for the reply.  The tasks and the loop of `Ufs::run`
interleave in any order.

`Served` is that whole system: the mailbox of the `Ufs` and the task of every
stream, each reading its next request, waiting for the reply to the call it
made, or ended.  Whatever the interleaving, every stream writes only replies
to its own requests, in the order it read them from its stream, each the
reply `Server::handle` made to that very request
(`streams_get_own_replies`), from the state the loop was in when it took
that request's call.  It rests on two facts: the mailbox fills each slot with
the reply to the call made with it, from the state of the turn that took it
(`Mailbox.Traced`), and a task
waits on the slot of its own last call and writes its reply before it reads
its next request (`Accounts`).

No stream hangs either (`streams_never_deadlock`): since `Server::handle`
always answers, from any state a run reaches the loop can empty the channel,
and then the tasks can take their replies slot after slot, for the task
waiting on a slot is the one whose call that slot holds.
-/

namespace JetStream

namespace QuicServer

open ByteStream Proc

variable {ι Req Resp σ ε : Type}

/-- Where the task of a stream is in its loop. -/
inductive Phase where
  /-- About to decode its next request. -/
  | reading
  /-- Its call is in the queue, and its reply will come in `slot`. -/
  | waiting (slot : Nat)
  /-- Broke out of its loop. -/
  | ended
  /-- The `unwrap` of the write of a reply panicked. -/
  | panicked

/-- The task of a stream: what its stream has still to give, what it has
written, and where it is in its loop. -/
structure Task where
  input : List UInt8
  output : List UInt8
  phase : Phase

/-- A `QuicServer` whose service is a handler behind a mailbox: the mailbox
and the task of every stream. -/
structure Served (ι Req Resp σ : Type) where
  box : Mailbox ι Req Resp σ
  tasks : ι → Task

namespace Served

/-- Before any step: the handler's state, and every stream with all its
bytes still to read. -/
def init (state : σ) (inputs : ι → List UInt8) : Served ι Req Resp σ :=
  ⟨Mailbox.init state, fun stream => ⟨inputs stream, [], .reading⟩⟩

variable [DecidableEq ι]
variable (decodeReq : ByteM IoError Req) (encodeResp : Resp → ByteM IoError Unit)
  (handler : Req → Proc σ ε Resp) (env : σ → σ → Prop)

/-- A step of the system: a task decodes a request and calls the service,
or breaks out of its loop; the service's loop answers the call at the front
of its queue; a task whose reply has come writes it, or panics at the
`unwrap` of that write; or the handler's state changes from outside. -/
inductive Step : Served ι Req Resp σ → Served ι Req Resp σ → Prop
  | read (stream : ι) {served : Served ι Req Resp σ} {req : Req} {rest : List UInt8}
      (hphase : (served.tasks stream).phase = .reading)
      (hdecode : decodeReq (served.tasks stream).input = .ok req rest) :
      Step served ⟨served.box.send stream req, Function.update served.tasks stream
        ⟨rest, (served.tasks stream).output, .waiting served.box.calls.length⟩⟩
  | stop (stream : ι) {served : Served ι Req Resp σ} {error : IoError} {rest : List UInt8}
      (hphase : (served.tasks stream).phase = .reading)
      (hdecode : decodeReq (served.tasks stream).input = .error error rest) :
      Step served ⟨served.box, Function.update served.tasks stream
        ⟨(served.tasks stream).input, (served.tasks stream).output, .ended⟩⟩
  | serve {served : Served ι Req Resp σ} {box : Mailbox ι Req Resp σ}
      (hserve : served.box.serve handler = some box) :
      Step served ⟨box, served.tasks⟩
  | deliver (stream : ι) {served : Served ι Req Resp σ} {slot : Nat} {resp : Resp}
      {output : List UInt8}
      (hphase : (served.tasks stream).phase = .waiting slot)
      (hreply : served.box.replies slot = some resp)
      (hwrite : encodeResp resp (served.tasks stream).output = .ok () output) :
      Step served ⟨served.box, Function.update served.tasks stream
        ⟨(served.tasks stream).input, output, .reading⟩⟩
  | panic (stream : ι) {served : Served ι Req Resp σ} {slot : Nat} {resp : Resp}
      {error : IoError} {output : List UInt8}
      (hphase : (served.tasks stream).phase = .waiting slot)
      (hreply : served.box.replies slot = some resp)
      (hwrite : encodeResp resp (served.tasks stream).output = .error error output) :
      Step served ⟨served.box, Function.update served.tasks stream
        ⟨(served.tasks stream).input, output, .panicked⟩⟩
  | env {served : Served ι Req Resp σ} {state : σ} (henv : env served.box.state state) :
      Step served ⟨{ served.box with state }, served.tasks⟩

/-! ## The calls of one stream -/

/-- The calls `stream` made, in the order it made them, each with its slot. -/
def ownCalls (calls : List (ι × Req)) (stream : ι) : List (Nat × Req) :=
  ((calls.zipIdx).filter fun call => call.1.1 = stream).map fun call => (call.2, call.1.2)

theorem ownCalls_concat_self (calls : List (ι × Req)) (stream : ι) (req : Req) :
    ownCalls (calls ++ [(stream, req)]) stream = ownCalls calls stream ++ [(calls.length, req)] := by
  simp [ownCalls, List.zipIdx_append]

theorem ownCalls_concat_other (calls : List (ι × Req)) {stream other : ι} (hne : other ≠ stream)
    (req : Req) : ownCalls (calls ++ [(stream, req)]) other = ownCalls calls other := by
  simp [ownCalls, List.zipIdx_append, Ne.symm hne]

/-- A call of `stream` is the call its slot records. -/
theorem getElem?_of_mem_ownCalls {calls : List (ι × Req)} {stream : ι} {slot : Nat} {req : Req}
    (hmem : (slot, req) ∈ ownCalls calls stream) : calls[slot]? = some (stream, req) := by
  simp only [ownCalls, List.mem_map, List.mem_filter, decide_eq_true_eq, Prod.mk.injEq] at hmem
  obtain ⟨⟨⟨caller, req'⟩, slot'⟩, ⟨hzip, hcaller⟩, rfl, rfl⟩ := hmem
  rw [List.mk_mem_zipIdx_iff_getElem?] at hzip
  dsimp only at hcaller ⊢
  rw [hzip, hcaller]

/-! ## What a task has done -/

/-- What a task has written for the calls `own` it made: the replies `resps`
to the calls `answered`, in order, and nothing for the call it waits on, if
any; after a failed write, the task panicked where the write failed. -/
inductive Written : Phase → List (Nat × Req) → List (Nat × Req) → List Resp → List UInt8 → Prop
  | reading {answered : List (Nat × Req)} {resps : List Resp} {output : List UInt8}
      (hwrites : resps.forM encodeResp [] = .ok () output) :
      Written .reading answered answered resps output
  | ended {answered : List (Nat × Req)} {resps : List Resp} {output : List UInt8}
      (hwrites : resps.forM encodeResp [] = .ok () output) :
      Written .ended answered answered resps output
  | waiting {answered : List (Nat × Req)} {resps : List Resp} {output : List UInt8}
      {slot : Nat} {req : Req} (hwrites : resps.forM encodeResp [] = .ok () output) :
      Written (.waiting slot) (answered ++ [(slot, req)]) answered resps output
  | panicked {answered : List (Nat × Req)} {resps : List Resp} {output : List UInt8}
      {error : IoError} (hwrites : resps.forM encodeResp [] = .error error output) :
      Written .panicked answered answered resps output

variable {encodeResp} in
theorem Written.of_reading {own answered : List (Nat × Req)} {resps : List Resp}
    {output : List UInt8} (h : Written encodeResp .reading own answered resps output) :
    own = answered ∧ resps.forM encodeResp [] = .ok () output := by
  cases h with
  | reading hwrites => exact ⟨rfl, hwrites⟩

variable {encodeResp} in
theorem Written.of_waiting {slot : Nat} {own answered : List (Nat × Req)} {resps : List Resp}
    {output : List UInt8} (h : Written encodeResp (.waiting slot) own answered resps output) :
    ∃ req, own = answered ++ [(slot, req)] ∧ resps.forM encodeResp [] = .ok () output := by
  cases h with
  | waiting hwrites => exact ⟨_, rfl, hwrites⟩

/-- The task of `stream`, read off the mailbox: it decoded the requests of
its own calls, in order, from what its stream held at first; and it has
written the replies the mailbox holds for all of them but the one it waits
on. -/
def Accounts (box : Mailbox ι Req Resp σ) (input : List UInt8) (stream : ι) (task : Task) :
    Prop :=
  readMany decodeReq (ownCalls box.calls stream).length input =
      .ok ((ownCalls box.calls stream).map Prod.snd) task.input ∧
    ∃ answered resps, List.Forall₂ (fun call resp => box.replies call.1 = some resp) answered resps ∧
      Written encodeResp task.phase (ownCalls box.calls stream) answered resps task.output

/-- The mailbox is routed, and every stream's task accounts for its calls. -/
def Holds (inputs : ι → List UInt8) (served : Served ι Req Resp σ) : Prop :=
  Mailbox.Routed handler served.box ∧
    ∀ stream, Accounts decodeReq encodeResp served.box (inputs stream) stream (served.tasks stream)

/-! ## Every step keeps the accounts -/

section Holds

variable {decodeReq encodeResp handler env}

theorem holds_init (state : σ) (inputs : ι → List UInt8) :
    Holds decodeReq encodeResp handler inputs (init state inputs : Served ι Req Resp σ) :=
  ⟨Mailbox.routed_init state, fun _ => ⟨rfl, [], [], .nil, .reading rfl⟩⟩

/-- The accounts of a task hold in any mailbox with the same calls that keeps
every reply already given. -/
theorem Accounts.of_replies_stay {box box' : Mailbox ι Req Resp σ} {input : List UInt8}
    {stream : ι} {task : Task} (hcalls : box'.calls = box.calls)
    (hstay : ∀ slot resp, box.replies slot = some resp → box'.replies slot = some resp)
    (h : Accounts decodeReq encodeResp box input stream task) :
    Accounts decodeReq encodeResp box' input stream task := by
  obtain ⟨hread, answered, resps, hreplies, hwritten⟩ := h
  rw [← hcalls] at hread hwritten
  exact ⟨hread, answered, resps, hreplies.imp fun _ _ hreply => hstay _ _ hreply, hwritten⟩

/-- A call from another stream changes nothing of a task's accounts. -/
theorem Accounts.send_other {box : Mailbox ι Req Resp σ} {input : List UInt8}
    {stream other : ι} {task : Task} (hne : other ≠ stream) (req : Req)
    (h : Accounts decodeReq encodeResp box input other task) :
    Accounts decodeReq encodeResp (box.send stream req) input other task := by
  obtain ⟨hread, answered, resps, hreplies, hwritten⟩ := h
  have hown : ownCalls (box.send stream req).calls other = ownCalls box.calls other :=
    ownCalls_concat_other box.calls hne req
  rw [← hown] at hread hwritten
  exact ⟨hread, answered, resps, hreplies, hwritten⟩

/-- A task that decodes a request and calls the service waits on the slot of
that call. -/
theorem Accounts.send_self {box : Mailbox ι Req Resp σ} {input : List UInt8}
    {stream : ι} {task : Task} (hphase : task.phase = .reading) {req : Req}
    {rest : List UInt8} (hdecode : decodeReq task.input = .ok req rest)
    (h : Accounts decodeReq encodeResp box input stream task) :
    Accounts decodeReq encodeResp (box.send stream req) input stream
      ⟨rest, task.output, .waiting box.calls.length⟩ := by
  obtain ⟨hread, answered, resps, hreplies, hwritten⟩ := h
  have hown : ownCalls (box.send stream req).calls stream =
      ownCalls box.calls stream ++ [(box.calls.length, req)] :=
    ownCalls_concat_self box.calls stream req
  rw [hphase] at hwritten
  obtain ⟨hanswered, hwrites⟩ := hwritten.of_reading
  refine ⟨?_, answered, resps, hreplies, ?_⟩
  · rw [hown, List.length_append, List.length_singleton, List.map_append, List.map_singleton]
    exact readMany_succ_of_ok hread hdecode
  · rw [hown, hanswered]
    exact .waiting hwrites

/-- A task that breaks out of its loop keeps its accounts. -/
theorem Accounts.stop {box : Mailbox ι Req Resp σ} {input : List UInt8} {stream : ι}
    {task : Task} (hphase : task.phase = .reading)
    (h : Accounts decodeReq encodeResp box input stream task) :
    Accounts decodeReq encodeResp box input stream ⟨task.input, task.output, .ended⟩ := by
  obtain ⟨hread, answered, resps, hreplies, hwritten⟩ := h
  rw [hphase] at hwritten
  obtain ⟨hanswered, hwrites⟩ := hwritten.of_reading
  refine ⟨hread, answered, resps, hreplies, ?_⟩
  rw [hanswered]
  exact .ended hwrites

/-- A task whose reply has come: with it, every call of the task is
answered, and writing all the replies is writing the earlier ones and then
this one after them. -/
theorem Accounts.with_reply {box : Mailbox ι Req Resp σ} {input : List UInt8} {stream : ι}
    {task : Task} {slot : Nat} (hphase : task.phase = .waiting slot) {resp : Resp}
    (hreply : box.replies slot = some resp)
    (h : Accounts decodeReq encodeResp box input stream task) :
    ∃ answered resps, List.Forall₂ (fun call resp => box.replies call.1 = some resp) answered resps ∧
      ownCalls box.calls stream = answered ∧ resps.forM encodeResp [] = encodeResp resp task.output := by
  obtain ⟨-, answered, resps, hreplies, hwritten⟩ := h
  rw [hphase] at hwritten
  obtain ⟨req, hown, hwrites⟩ := hwritten.of_waiting
  exact ⟨answered ++ [(slot, req)], resps ++ [resp], List.rel_append hreplies (.cons hreply .nil),
    hown, forM_concat_of_ok hwrites⟩

/-- A task whose reply has come and is written goes back to reading, with
the reply added to what it wrote. -/
theorem Accounts.deliver {box : Mailbox ι Req Resp σ} {input : List UInt8} {stream : ι}
    {task : Task} {slot : Nat} (hphase : task.phase = .waiting slot) {resp : Resp}
    (hreply : box.replies slot = some resp) {output : List UInt8}
    (hwrite : encodeResp resp task.output = .ok () output)
    (h : Accounts decodeReq encodeResp box input stream task) :
    Accounts decodeReq encodeResp box input stream ⟨task.input, output, .reading⟩ := by
  obtain ⟨answered, resps, hreplies, hown, hwrites⟩ := h.with_reply hphase hreply
  refine ⟨h.1, answered, resps, hreplies, ?_⟩
  rw [hown]
  exact .reading (by rw [hwrites, hwrite])

/-- A task whose reply fails to be written panics where the write failed. -/
theorem Accounts.panic {box : Mailbox ι Req Resp σ} {input : List UInt8} {stream : ι}
    {task : Task} {slot : Nat} (hphase : task.phase = .waiting slot) {resp : Resp}
    (hreply : box.replies slot = some resp) {error : IoError} {output : List UInt8}
    (hwrite : encodeResp resp task.output = .error error output)
    (h : Accounts decodeReq encodeResp box input stream task) :
    Accounts decodeReq encodeResp box input stream ⟨task.input, output, .panicked⟩ := by
  obtain ⟨answered, resps, hreplies, hown, hwrites⟩ := h.with_reply hphase hreply
  refine ⟨h.1, answered, resps, hreplies, ?_⟩
  rw [hown]
  exact .panicked (by rw [hwrites, hwrite])

/-- A task given new accounts, the others keeping theirs. -/
theorem holds_update {inputs : ι → List UInt8} {served : Served ι Req Resp σ}
    {box : Mailbox ι Req Resp σ} {stream : ι} {task : Task} (hrouted : Mailbox.Routed handler box)
    (hself : Accounts decodeReq encodeResp box (inputs stream) stream task)
    (hothers : ∀ other, other ≠ stream →
      Accounts decodeReq encodeResp box (inputs other) other (served.tasks other)) :
    Holds decodeReq encodeResp handler inputs ⟨box, Function.update served.tasks stream task⟩ := by
  refine ⟨hrouted, fun other => ?_⟩
  dsimp only
  by_cases hsame : other = stream
  · subst hsame
    rw [Function.update_self]
    exact hself
  · rw [Function.update_of_ne hsame]
    exact hothers other hsame

/-- Every step keeps the mailbox routed and every task's accounts. -/
theorem Step.holds {inputs : ι → List UInt8} {served served' : Served ι Req Resp σ}
    (hstep : Step decodeReq encodeResp handler env served served')
    (h : Holds decodeReq encodeResp handler inputs served) :
    Holds decodeReq encodeResp handler inputs served' := by
  obtain ⟨hrouted, haccounts⟩ := h
  cases hstep with
  | read _ hphase hdecode =>
      exact holds_update (hrouted.send _ _) ((haccounts _).send_self hphase hdecode)
        fun other hne => (haccounts other).send_other hne _
  | stop _ hphase hdecode =>
      exact holds_update hrouted ((haccounts _).stop hphase) fun other _ => haccounts other
  | serve hserve =>
      obtain ⟨-, -, -, -, -, -, hcalls⟩ := Mailbox.serve_eq_some hserve
      have hturn : Mailbox.Step handler env served.box _ := .serve hserve
      exact ⟨hrouted.serve hserve, fun stream => (haccounts stream).of_replies_stay hcalls
        fun _ _ hslot => hturn.reply_stays hrouted hslot⟩
  | deliver _ hphase hreply hwrite =>
      exact holds_update hrouted ((haccounts _).deliver hphase hreply hwrite)
        fun other _ => haccounts other
  | panic _ hphase hreply hwrite =>
      exact holds_update hrouted ((haccounts _).panic hphase hreply hwrite)
        fun other _ => haccounts other
  | env henv => exact ⟨hrouted.env _, haccounts⟩

/-- From the start, every state a run reaches holds. -/
theorem holds_of_run {inputs : ι → List UInt8} {state : σ} {served : Served ι Req Resp σ}
    (hrun : Relation.ReflTransGen (Step decodeReq encodeResp handler env) (init state inputs) served) :
    Holds decodeReq encodeResp handler inputs served := by
  induction hrun with
  | refl => exact holds_init state inputs
  | tail _ hstep ih => exact hstep.holds ih

/-- The mailbox of the system moves as a mailbox does: a task's step leaves it
or makes one call, and a turn of the loop or a change of the state is a step
of the mailbox itself. -/
theorem Step.box_run {served served' : Served ι Req Resp σ}
    (hstep : Step decodeReq encodeResp handler env served served') :
    Relation.ReflTransGen (Mailbox.Step handler env) served.box served'.box := by
  cases hstep with
  | read stream hphase hdecode => exact .single (.send _ _ _)
  | stop stream hphase hdecode => exact .refl
  | serve hserve => exact .single (.serve hserve)
  | deliver stream hphase hreply hwrite => exact .refl
  | panic stream hphase hreply hwrite => exact .refl
  | env henv => exact .single (.env _ _ henv)

theorem box_run_of_run {inputs : ι → List UInt8} {state : σ} {served : Served ι Req Resp σ}
    (hrun : Relation.ReflTransGen (Step decodeReq encodeResp handler env) (init state inputs) served) :
    Relation.ReflTransGen (Mailbox.Step handler env) (Mailbox.init state) served.box := by
  induction hrun with
  | refl => exact .refl
  | tail _ hstep ih => exact ih.trans hstep.box_run

end Holds

/-! ## No stream gets another's reply -/

section Own

variable {decodeReq encodeResp handler env}

/-- What a task has written covers all its calls but at most the one it
waits on; the writes went through, or the task panicked at the last one. -/
theorem Written.split {phase : Phase} {own answered : List (Nat × Req)} {resps : List Resp}
    {output : List UInt8} (h : Written encodeResp phase own answered resps output) :
    ∃ pending : List (Nat × Req), own = answered ++ pending ∧ pending.length ≤ 1 ∧
      (resps.forM encodeResp [] = .ok () output ∨
        ∃ error, resps.forM encodeResp [] = .error error output) := by
  cases h with
  | reading hwrites => exact ⟨[], (List.append_nil _).symm, Nat.zero_le _, .inl hwrites⟩
  | ended hwrites => exact ⟨[], (List.append_nil _).symm, Nat.zero_le _, .inl hwrites⟩
  | waiting hwrites => exact ⟨[_], rfl, Nat.le_refl _, .inl hwrites⟩
  | panicked hwrites => exact ⟨[], (List.append_nil _).symm, Nat.zero_le _, .inr ⟨_, hwrites⟩⟩

/-- Whatever the interleaving, the task of a stream has decoded its requests
in order from its own bytes, and has written, in that order, a reply to each
of them but at most the last: the reply the mailbox filled the slot of that
very call with, which the handler made to that request from the state the
loop was in when it took the call. -/
theorem writes_own_replies {inputs : ι → List UInt8} {state : σ} {served : Served ι Req Resp σ}
    (hrun : Relation.ReflTransGen (Step decodeReq encodeResp handler env) (init state inputs) served)
    (stream : ι) :
    ∃ turns : List (σ × σ), Mailbox.Chained env state turns served.box.state ∧
    ∃ (calls : List (Nat × Req)) (pending : List Req) (resps : List Resp),
      readMany decodeReq (calls.length + pending.length) (inputs stream) =
        .ok (calls.map Prod.snd ++ pending) (served.tasks stream).input ∧
      pending.length ≤ 1 ∧
      List.Forall₂ (fun call resp => served.box.calls[call.1]? = some (stream, call.2) ∧
        ∃ turn, turns[call.1]? = some turn ∧ handler call.2 turn.1 = .ok resp turn.2) calls resps ∧
      (resps.forM encodeResp [] = .ok () (served.tasks stream).output ∨
        ∃ error, resps.forM encodeResp [] = .error error (served.tasks stream).output) := by
  obtain ⟨-, haccounts⟩ := holds_of_run hrun
  obtain ⟨turns, hchain, -, htraced⟩ := Mailbox.traced_of_run (box_run_of_run hrun)
  obtain ⟨hread, answered, resps, hreplies, hwritten⟩ := haccounts stream
  obtain ⟨pending, hown, hpending, hwrites⟩ := hwritten.split
  refine ⟨turns, hchain, answered, pending.map Prod.snd, resps, ?_, by rwa [List.length_map], ?_,
    hwrites⟩
  · rw [hown, List.length_append, List.map_append] at hread
    rwa [List.length_map]
  have hmine : ∀ call ∈ answered, served.box.calls[call.1]? = some (stream, call.2) :=
    fun call hmem => getElem?_of_mem_ownCalls (by rw [hown]; exact List.mem_append_left _ hmem)
  refine ((List.forall₂_and_left answered resps).mpr ⟨hmine, hreplies⟩).imp ?_
  intro call resp hboth
  obtain ⟨hslot, hreply⟩ := hboth
  obtain ⟨call', turn, hcall, hturn, hcall'⟩ := htraced call.1 resp hreply
  rw [hslot, Option.some.injEq] at hcall
  subst hcall
  exact ⟨hslot, turn, hturn, hcall'⟩

end Own

/-! ## No task waits forever -/

section Progress

variable {decodeReq encodeResp handler env}

/-- A task waiting on a slot made the call of that slot. -/
theorem Holds.waiting_call {inputs : ι → List UInt8} {served : Served ι Req Resp σ}
    (h : Holds decodeReq encodeResp handler inputs served) {stream : ι} {slot : Nat}
    (hphase : (served.tasks stream).phase = .waiting slot) :
    ∃ req, served.box.calls[slot]? = some (stream, req) := by
  obtain ⟨-, answered, resps, -, hwritten⟩ := h.2 stream
  rw [hphase] at hwritten
  obtain ⟨req, hown, -⟩ := hwritten.of_waiting
  refine ⟨req, getElem?_of_mem_ownCalls ?_⟩
  rw [hown]
  exact List.mem_append_right _ (List.mem_singleton_self _)

/-- With a handler that always answers, the service's loop can take every
queued call, the tasks standing still. -/
theorem exists_drained (htotal : ∀ req, Total (handler req)) (served : Served ι Req Resp σ) :
    ∃ box, Relation.ReflTransGen (Step decodeReq encodeResp handler env) served
      ⟨box, served.tasks⟩ ∧ box.queue = [] ∧ box.calls = served.box.calls := by
  obtain ⟨queue, hqueue⟩ : ∃ queue, served.box.queue = queue := ⟨_, rfl⟩
  induction queue generalizing served with
  | nil => exact ⟨served.box, .refl, hqueue, rfl⟩
  | cons call rest ih =>
      obtain ⟨box', hserve, hrest, hcalls⟩ := Mailbox.serve_of_total htotal hqueue
      obtain ⟨box, hdrain, hempty, hcalls'⟩ := ih ⟨box', served.tasks⟩ hrest
      exact ⟨box, .head (.serve hserve) hdrain, hempty, hcalls'.trans hcalls⟩

/-- The task waiting on a slot is the one whose call the slot holds. -/
theorem Holds.caller_of_waiting {inputs : ι → List UInt8} {served : Served ι Req Resp σ}
    (h : Holds decodeReq encodeResp handler inputs served) {slot : Nat} {caller : ι} {req : Req}
    (hcall : served.box.calls[slot]? = some (caller, req)) {stream : ι}
    (hphase : (served.tasks stream).phase = .waiting slot) : stream = caller := by
  obtain ⟨req', hwaiting⟩ := h.waiting_call hphase
  rw [hcall, Option.some.injEq, Prod.mk.injEq] at hwaiting
  exact hwaiting.1.symm

/-- A task whose reply is in can take it: it writes the reply, or panics at
the write, and waits no more. -/
theorem exists_take_reply {served : Served ι Req Resp σ} {stream : ι} {slot : Nat} {resp : Resp}
    (hphase : (served.tasks stream).phase = .waiting slot)
    (hreply : served.box.replies slot = some resp) :
    ∃ task : Task, (∀ slot', task.phase ≠ .waiting slot') ∧
      Step decodeReq encodeResp handler env served
        ⟨served.box, Function.update served.tasks stream task⟩ := by
  cases hwrite : encodeResp resp (served.tasks stream).output with
  | ok _ output =>
      refine ⟨⟨(served.tasks stream).input, output, .reading⟩, ?_,
        .deliver stream hphase hreply hwrite⟩
      intro _ hwaiting
      cases hwaiting
  | error _ output =>
      refine ⟨⟨(served.tasks stream).input, output, .panicked⟩, ?_,
        .panic stream hphase hreply hwrite⟩
      intro _ hwaiting
      cases hwaiting

/-- With every reply in and no task waiting below slot `count`, the tasks can
get past `count`: its caller, if it still waits on it, takes its reply. -/
theorem exists_delivered_next {inputs : ι → List UInt8} {served : Served ι Req Resp σ}
    (hholds : Holds decodeReq encodeResp handler inputs served) (hqueue : served.box.queue = [])
    {count : Nat} (hlt : count < served.box.calls.length)
    (hbelow : ∀ stream slot, (served.tasks stream).phase = .waiting slot → count ≤ slot) :
    ∃ served', Relation.ReflTransGen (Step decodeReq encodeResp handler env) served served' ∧
      served'.box = served.box ∧
      ∀ stream slot, (served'.tasks stream).phase = .waiting slot → count + 1 ≤ slot := by
  obtain ⟨⟨caller, req⟩, hcall⟩ : ∃ call, served.box.calls[count]? = some call :=
    ⟨_, List.getElem?_eq_getElem hlt⟩
  have hnext : ∀ stream slot, (served.tasks stream).phase = .waiting slot →
      (stream = caller ∧ slot = count) ∨ count + 1 ≤ slot := by
    intro stream slot hphase
    by_cases hslot : slot = count
    · subst hslot
      exact .inl ⟨hholds.caller_of_waiting hcall hphase, rfl⟩
    · have hle := hbelow stream slot hphase
      exact .inr (by omega)
  by_cases hwaiting : (served.tasks caller).phase = .waiting count
  · obtain ⟨resp, hreply⟩ := Option.isSome_iff_exists.mp
      (hholds.1.isSome_of_queue_nil hqueue hlt)
    obtain ⟨task, htask, hstep⟩ := exists_take_reply hwaiting hreply
    refine ⟨_, .single hstep, rfl, fun stream slot hphase => ?_⟩
    dsimp only at hphase
    by_cases hsame : stream = caller
    · subst hsame
      rw [Function.update_self] at hphase
      exact absurd hphase (htask slot)
    · rw [Function.update_of_ne hsame] at hphase
      exact (hnext stream slot hphase).resolve_left fun hcaller => hsame hcaller.1
  · refine ⟨served, .refl, rfl, fun stream slot hphase => ?_⟩
    refine (hnext stream slot hphase).resolve_left fun ⟨hcaller, hslot⟩ => hwaiting ?_
    rw [← hcaller, ← hslot]
    exact hphase

/-- With every reply in, the tasks can take them slot after slot, each
writing its reply or panicking at the write, until none waits on a slot
below `count`. -/
theorem exists_delivered_below {inputs : ι → List UInt8} {state : σ}
    {served : Served ι Req Resp σ}
    (hrun : Relation.ReflTransGen (Step decodeReq encodeResp handler env) (init state inputs) served)
    (hqueue : served.box.queue = []) (count : Nat) (hcount : count ≤ served.box.calls.length) :
    ∃ served', Relation.ReflTransGen (Step decodeReq encodeResp handler env) served served' ∧
      served'.box = served.box ∧
      ∀ stream slot, (served'.tasks stream).phase = .waiting slot → count ≤ slot := by
  induction count with
  | zero => exact ⟨served, .refl, rfl, fun _ _ _ => Nat.zero_le _⟩
  | succ count ih =>
      obtain ⟨served', hmore, hbox, hbelow⟩ := ih (Nat.le_of_succ_le hcount)
      have hlt : count < served'.box.calls.length := by
        rw [hbox]
        exact Nat.lt_of_succ_le hcount
      obtain ⟨served'', hnext, hbox', hbelow'⟩ :=
        exists_delivered_next (holds_of_run (hrun.trans hmore)) (hbox ▸ hqueue) hlt hbelow
      exact ⟨served'', hmore.trans hnext, hbox'.trans hbox, hbelow'⟩

/-- No stream's task waits forever: from any state a run reaches, with a
service whose every call returns, the service and the tasks can go on until
the mailbox is empty and no task waits on a reply. -/
theorem no_task_waits_forever (htotal : ∀ req, Total (handler req)) {inputs : ι → List UInt8}
    {state : σ} {served : Served ι Req Resp σ}
    (hrun : Relation.ReflTransGen (Step decodeReq encodeResp handler env) (init state inputs) served) :
    ∃ served', Relation.ReflTransGen (Step decodeReq encodeResp handler env) served served' ∧
      served'.box.queue = [] ∧ ∀ stream slot, (served'.tasks stream).phase ≠ .waiting slot := by
  obtain ⟨box, hdrain, hempty, -⟩ := exists_drained htotal served
  obtain ⟨served', hmore, hbox, hbelow⟩ :=
    exists_delivered_below (hrun.trans hdrain) hempty box.calls.length le_rfl
  refine ⟨served', hdrain.trans hmore, hbox ▸ hempty, fun stream slot hphase => ?_⟩
  obtain ⟨req, hcall⟩ := (holds_of_run ((hrun.trans hdrain).trans hmore)).waiting_call hphase
  have hlt : slot < box.calls.length := by
    rw [hbox] at hcall
    exact (List.getElem?_eq_some_iff.mp hcall).1
  have hle := hbelow stream slot hphase
  omega

end Progress

end Served

section Ufs

open Server WireFormat

variable {σ File : Type} [DecidableEq ι]

/-- A run from the `Ufs` that `Ufs::new` makes starts from the server it
starts, with every stream at the start of its bytes. -/
theorem run_of_new (kernel : Kernel σ File) {path : List UInt8} {os : σ}
    {start : Ufs ι σ File} (hnew : Ufs.new kernel path os = some start) {inputs : ι → List UInt8}
    {served : Served ι Tframe Rframe (World σ File)}
    (hrun : Relation.ReflTransGen (Served.Step Tframe.decode encode (handle kernel) Ufs.HostChange)
      ⟨start, fun stream => ⟨inputs stream, [], .reading⟩⟩ served) :
    ∃ world, start = Mailbox.init world ∧ Relation.ReflTransGen
      (Served.Step Tframe.decode encode (handle kernel) Ufs.HostChange)
      (Served.init world inputs) served := by
  obtain ⟨world, rfl⟩ := Ufs.new_eq_some hnew
  exact ⟨world, rfl, hrun⟩

/-- No stream of `QuicServer::serve` hangs on the `Ufs` made by `Ufs::new`:
whatever the tasks, the loop of `Ufs::run` and the host have done, the loop
can answer every frame in the channel and every task take its reply, until
the channel is empty and no task waits on a `oneshot` receiver. -/
theorem streams_never_deadlock (kernel : Kernel σ File) (path : List UInt8) (os : σ)
    {start : Ufs ι σ File} (hnew : Ufs.new kernel path os = some start) (inputs : ι → List UInt8)
    {served : Served ι Tframe Rframe (World σ File)}
    (hrun : Relation.ReflTransGen (Served.Step Tframe.decode encode (handle kernel) Ufs.HostChange)
      ⟨start, fun stream => ⟨inputs stream, [], .reading⟩⟩ served) :
    (∀ slot caller req stream, served.box.calls[slot]? = some (caller, req) →
        (served.tasks stream).phase = .waiting slot → stream = caller) ∧
      ∃ served', Relation.ReflTransGen
          (Served.Step Tframe.decode encode (handle kernel) Ufs.HostChange) served served' ∧
        served'.box.queue = [] ∧ ∀ stream slot, (served'.tasks stream).phase ≠ .waiting slot := by
  obtain ⟨world, -, hrun'⟩ := run_of_new kernel hnew hrun
  exact ⟨fun _ _ _ _ hcall hphase => (Served.holds_of_run hrun').caller_of_waiting hcall hphase,
    Served.no_task_waits_forever (total_handle kernel) hrun'⟩

/-- Stream `0` holds a `Tversion`, and no other stream holds anything. -/
def exportInputs (stream : Nat) : List UInt8 :=
  if stream = 0 then requestWire (1, .version ⟨8192, "9P2000.L"⟩) else []

/-- On the `Ufs` for `/export`, once stream `0` has sent its `Tversion` and
waits on slot `0`, the loop and the task can still bring it to its end. -/
theorem export_stream_not_stuck :
    ∃ served served' : Served Nat Tframe Rframe (World TreeFs.Host Nat),
      Relation.ReflTransGen
        (Served.Step Tframe.decode encode (handle TreeFs.kernel) Ufs.HostChange)
        ⟨Mailbox.init (TreeFs.exportWorld 16), fun stream => ⟨exportInputs stream, [], .reading⟩⟩
        served ∧
      (served.tasks 0).phase = .waiting 0 ∧
      (∀ slot caller req stream, served.box.calls[slot]? = some (caller, req) →
        (served.tasks stream).phase = .waiting slot → stream = caller) ∧
      Relation.ReflTransGen
        (Served.Step Tframe.decode encode (handle TreeFs.kernel) Ufs.HostChange) served served' ∧
      served'.box.queue = [] ∧ ∀ stream slot, (served'.tasks stream).phase ≠ .waiting slot := by
  have hrun : Relation.ReflTransGen
      (Served.Step Tframe.decode encode (handle TreeFs.kernel) Ufs.HostChange)
      ⟨Mailbox.init (TreeFs.exportWorld 16), fun stream => ⟨exportInputs stream, [], .reading⟩⟩ _ :=
    .tail .refl (.read 0 (by rfl) (by rfl))
  obtain ⟨hcaller, served', hmore, hqueue, hfree⟩ := streams_never_deadlock TreeFs.kernel
    TreeFs.exportConfig.root (TreeFs.exportTree 16) rfl exportInputs hrun
  exact ⟨_, served', hrun, rfl, hcaller, hmore, hqueue, hfree⟩

end Ufs

end QuicServer

end JetStream
