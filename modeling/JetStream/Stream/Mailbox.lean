import JetStream.Stream.Proc
import Mathlib.Logic.Relation
import Mathlib.Logic.Function.Basic
import Mathlib.Data.Nat.Basic
import Mathlib.Order.Basic

/-!
# A queue of calls served by one worker

Callers put requests on one unbounded queue, each with a reply slot of its
own; a single worker takes them off the front one at a time, runs a handler on
its state and puts the handler's reply in the slot that came with the request.
Whatever the order in which callers send and the worker serves, and whatever
else changes the worker's state in between, the queue holds exactly the calls
not yet answered, in the order they were made; the calls answered are the
first ones; each slot is filled at most once; and what fills a slot is the
handler's reply to the request that came with it.

`calls` records the calls made so far, a slot being the index of its call
there.  Nothing reads it; it is there to state the above.
-/

/-- A worker's state with its queue of calls and their reply slots. -/
structure Mailbox (ι Req Resp σ : Type) where
  /-- The worker's state. -/
  state : σ
  /-- The slot and the request of each call not yet taken, front first. -/
  queue : List (Nat × Req)
  /-- What each reply slot has received. -/
  replies : Nat → Option Resp
  /-- Every call made so far, its caller and its request. -/
  calls : List (ι × Req)

namespace Mailbox

variable {ι Req Resp σ ε : Type}

/-- A worker with its state and no call made yet. -/
def init (state : σ) : Mailbox ι Req Resp σ :=
  ⟨state, [], fun _ => none, []⟩

/-- A call: the request joins the back of the queue with a fresh slot. -/
def send (caller : ι) (req : Req) (box : Mailbox ι Req Resp σ) : Mailbox ι Req Resp σ :=
  { box with
    queue := box.queue ++ [(box.calls.length, req)]
    calls := box.calls ++ [(caller, req)] }

/-- One turn of the worker: it takes the call at the front, runs the handler on
its request and fills its slot.  With no call waiting there is no turn, and a
handler that fails stops the worker. -/
def serve (handler : Req → Proc σ ε Resp) (box : Mailbox ι Req Resp σ) :
    Option (Mailbox ι Req Resp σ) :=
  match box.queue with
  | [] => none
  | (slot, req) :: rest =>
      match handler req box.state with
      | .ok resp state =>
          some { box with
            state
            queue := rest
            replies := Function.update box.replies slot (some resp) }
      | .error _ _ => none

/-- A step: a call, a turn of the worker, or a change `env` allows to the
worker's state from outside. -/
inductive Step (handler : Req → Proc σ ε Resp) (env : σ → σ → Prop) :
    Mailbox ι Req Resp σ → Mailbox ι Req Resp σ → Prop
  | send (box : Mailbox ι Req Resp σ) (caller : ι) (req : Req) :
      Step handler env box (box.send caller req)
  | serve {box box' : Mailbox ι Req Resp σ} :
      box.serve handler = some box' → Step handler env box box'
  | env (box : Mailbox ι Req Resp σ) (state : σ) :
      env box.state state → Step handler env box { box with state }

/-- A turn takes the call at the front of the queue and fills its slot with the
handler's reply to its request. -/
theorem serve_eq_some {handler : Req → Proc σ ε Resp} {box box' : Mailbox ι Req Resp σ}
    (h : box.serve handler = some box') :
    ∃ slot req resp, box.queue = (slot, req) :: box'.queue ∧
      handler req box.state = .ok resp box'.state ∧
      box'.replies = Function.update box.replies slot (some resp) ∧ box'.calls = box.calls := by
  unfold serve at h
  split at h
  · cases h
  · rename_i slot req rest hqueue
    split at h
    · rename_i resp state hrun
      cases h
      exact ⟨slot, req, resp, hqueue, hrun, rfl, rfl⟩
    · cases h

/-! ## The queue holds the unanswered calls in order -/

/-- The calls from the `answered`-th on, each with its slot. -/
def pending (calls : List (ι × Req)) (answered : Nat) : List (Nat × Req) :=
  ((calls.drop answered).zipIdx answered).map fun (call, slot) => (slot, call.2)

theorem pending_append {calls : List (ι × Req)} {answered : Nat}
    (hanswered : answered ≤ calls.length) (call : ι × Req) :
    pending (calls ++ [call]) answered = pending calls answered ++ [(calls.length, call.2)] := by
  unfold pending
  rw [List.drop_append_of_le_length hanswered, List.zipIdx_append, List.map_append,
    List.length_drop]
  congr
  simp only [List.zipIdx_cons, List.zipIdx_nil, List.map_cons, List.map_nil]
  congr
  omega

/-- The front of the pending calls is the `answered`-th call. -/
theorem pending_eq_cons {calls : List (ι × Req)} {answered slot : Nat} {req : Req}
    {rest : List (Nat × Req)} (h : pending calls answered = (slot, req) :: rest) :
    slot = answered ∧ (∃ caller, calls[answered]? = some (caller, req)) ∧
      rest = pending calls (answered + 1) := by
  unfold pending at h
  have hlt : answered < calls.length := by
    by_contra hge
    rw [List.drop_of_length_le (Nat.le_of_not_lt hge)] at h
    cases h
  rw [List.drop_eq_getElem_cons hlt, List.zipIdx_cons, List.map_cons] at h
  obtain ⟨hfront, hrest⟩ := List.cons.inj h
  obtain ⟨hslot, hreq⟩ := Prod.mk.inj hfront
  refine ⟨hslot.symm, ⟨calls[answered].1, ?_⟩, hrest.symm⟩
  rw [List.getElem?_eq_getElem hlt, ← hreq]

/-- The queue holds the calls not yet answered, in the order they were made;
the calls answered are the first `answered`; and each filled slot holds the
handler's reply to the request of its own call, from some state. -/
def Routed (handler : Req → Proc σ ε Resp) (box : Mailbox ι Req Resp σ) : Prop :=
  ∃ answered ≤ box.calls.length,
    box.queue = pending box.calls answered ∧
      (∀ slot, (box.replies slot).isSome ↔ slot < answered) ∧
      ∀ slot resp, box.replies slot = some resp →
        ∃ call state state', box.calls[slot]? = some call ∧ handler call.2 state = .ok resp state'

section Routed

variable {handler : Req → Proc σ ε Resp}

theorem routed_init (state : σ) : Routed handler (init state : Mailbox ι Req Resp σ) :=
  ⟨0, Nat.zero_le _, rfl, fun _ => by simp [init], fun _ _ h => by cases h⟩

theorem Routed.send {box : Mailbox ι Req Resp σ} (h : Routed handler box) (caller : ι)
    (req : Req) : Routed handler (box.send caller req) := by
  obtain ⟨answered, hle, hqueue, hanswered, hreplies⟩ := h
  refine ⟨answered, ?_, ?_, hanswered, fun slot resp hslot => ?_⟩
  · simp only [Mailbox.send, List.length_append]
    omega
  · simp only [Mailbox.send, hqueue]
    rw [pending_append hle]
  · obtain ⟨call, state, state', hcall, hrun⟩ := hreplies slot resp hslot
    have hlt : slot < box.calls.length := by
      rw [List.getElem?_eq_some_iff] at hcall
      exact hcall.1
    refine ⟨call, state, state', ?_, hrun⟩
    simp only [Mailbox.send]
    rw [List.getElem?_append_left hlt, hcall]

theorem Routed.serve {box box' : Mailbox ι Req Resp σ} (h : Routed handler box)
    (hserve : box.serve handler = some box') : Routed handler box' := by
  obtain ⟨answered, hle, hqueue, hanswered, hreplies⟩ := h
  obtain ⟨slot, req, resp, hfront, hrun, hfilled, hcalls⟩ := serve_eq_some hserve
  rw [hqueue] at hfront
  obtain ⟨rfl, ⟨caller, hcall⟩, hrest⟩ := pending_eq_cons hfront
  have hlt : slot < box.calls.length := by
    rw [List.getElem?_eq_some_iff] at hcall
    exact hcall.1
  refine ⟨slot + 1, by rw [hcalls]; omega, by rw [hrest, hcalls], fun other => ?_,
    fun other reply hother => ?_⟩
  · rw [hfilled]
    by_cases hsame : other = slot
    · subst hsame
      simp
    · rw [Function.update_of_ne hsame, hanswered]
      omega
  · rw [hfilled] at hother
    by_cases hsame : other = slot
    · subst hsame
      rw [Function.update_self] at hother
      cases hother
      exact ⟨(caller, req), box.state, box'.state, by rw [hcalls, hcall], hrun⟩
    · rw [Function.update_of_ne hsame] at hother
      rw [hcalls]
      exact hreplies other reply hother

theorem Routed.env {box : Mailbox ι Req Resp σ} (h : Routed handler box) (state : σ) :
    Routed handler { box with state } :=
  h

theorem Step.routed {env : σ → σ → Prop} {box box' : Mailbox ι Req Resp σ}
    (hstep : Step handler env box box') (h : Routed handler box) : Routed handler box' := by
  cases hstep with
  | send caller req => exact h.send caller req
  | serve hserve => exact h.serve hserve
  | env state _ => exact h.env state

/-- From any start, every mailbox a run reaches is routed. -/
theorem routed_of_run {env : σ → σ → Prop} {start box : Mailbox ι Req Resp σ}
    (hstart : Routed handler start) (hrun : Relation.ReflTransGen (Step handler env) start box) :
    Routed handler box := by
  induction hrun with
  | refl => exact hstart
  | tail _ hstep ih => exact hstep.routed ih

/-- Calls are answered in the order they were made. -/
theorem Routed.answered_in_order {box : Mailbox ι Req Resp σ} (h : Routed handler box)
    {earlier later : Nat} (horder : earlier ≤ later) (hlater : (box.replies later).isSome) :
    (box.replies earlier).isSome := by
  obtain ⟨answered, -, -, hanswered, -⟩ := h
  rw [hanswered] at hlater ⊢
  omega

/-- A filled slot keeps its reply over a step. -/
theorem Step.reply_stays {env : σ → σ → Prop} {box box' : Mailbox ι Req Resp σ}
    (hstep : Step handler env box box') (h : Routed handler box) {slot : Nat} {resp : Resp}
    (hslot : box.replies slot = some resp) : box'.replies slot = some resp := by
  cases hstep with
  | send caller req => exact hslot
  | env state _ => exact hslot
  | serve hserve =>
      obtain ⟨answered, -, hqueue, hanswered, -⟩ := h
      obtain ⟨front, req, reply, hfront, -, hfilled, -⟩ := serve_eq_some hserve
      rw [hqueue] at hfront
      obtain ⟨rfl, -, -⟩ := pending_eq_cons hfront
      have hne : slot ≠ front := by
        have hfilled' : (box.replies slot).isSome := by rw [hslot]; rfl
        rw [hanswered] at hfilled'
        omega
      rw [hfilled, Function.update_of_ne hne, hslot]

/-- A handler that always answers gives the worker a turn whenever a call
waits, and the turn takes that call off the queue. -/
theorem serve_of_total (htotal : ∀ req, Proc.Total (handler req)) {box : Mailbox ι Req Resp σ}
    {slot : Nat} {req : Req} {rest : List (Nat × Req)} (hqueue : box.queue = (slot, req) :: rest) :
    ∃ box', box.serve handler = some box' ∧ box'.queue = rest ∧ box'.calls = box.calls := by
  obtain ⟨resp, state', hrun⟩ := htotal req box.state
  unfold serve
  rw [hqueue]
  simp only [hrun]
  exact ⟨_, rfl, rfl, rfl⟩

/-- Once the queue is empty, every call made has its reply. -/
theorem Routed.isSome_of_queue_nil {box : Mailbox ι Req Resp σ} (h : Routed handler box)
    (hqueue : box.queue = []) {slot : Nat} (hslot : slot < box.calls.length) :
    (box.replies slot).isSome := by
  obtain ⟨answered, -, hpending, hanswered, -⟩ := h
  rw [hqueue] at hpending
  have hall : box.calls.length ≤ answered := by
    have hlength := congrArg List.length hpending
    simp only [pending, List.length_nil, List.length_map, List.length_zipIdx,
      List.length_drop] at hlength
    omega
  rw [hanswered]
  omega

/-- A filled slot keeps its reply over a whole run. -/
theorem reply_stays_of_run {env : σ → σ → Prop} {box box' : Mailbox ι Req Resp σ}
    (h : Routed handler box) (hrun : Relation.ReflTransGen (Step handler env) box box')
    {slot : Nat} {resp : Resp} (hslot : box.replies slot = some resp) :
    box'.replies slot = some resp := by
  induction hrun with
  | refl => exact hslot
  | tail hfirst hstep ih => exact hstep.reply_stays (routed_of_run h hfirst) ih

end Routed

/-! ## The states the worker served from -/

/-- `turns` are the worker's turns in order, each from the state it began in to
the state it left; before the first, between two and after the last up to
`finish`, only changes `env` allows. -/
def Chained (env : σ → σ → Prop) : σ → List (σ × σ) → σ → Prop
  | start, [], finish => Relation.ReflTransGen env start finish
  | start, (before, after) :: turns, finish =>
      Relation.ReflTransGen env start before ∧ Chained env after turns finish

theorem Chained.tail {env : σ → σ → Prop} {start finish finish' : σ} :
    ∀ {turns : List (σ × σ)}, Chained env start turns finish → env finish finish' →
      Chained env start turns finish'
  | [], h, hstep => Relation.ReflTransGen.tail h hstep
  | (_, _) :: _, ⟨hbefore, h⟩, hstep => ⟨hbefore, h.tail hstep⟩

theorem Chained.concat {env : σ → σ → Prop} {start finish : σ} (after : σ) :
    ∀ {turns : List (σ × σ)}, Chained env start turns finish →
      Chained env start (turns ++ [(finish, after)]) after
  | [], h => ⟨h, .refl⟩
  | (_, _) :: _, ⟨hbefore, h⟩ => ⟨hbefore, h.concat after⟩

/-- Every reply is the handler's reply to its call's request from the state
the worker was in when it took the call, the turns following one another
from `start` with only changes `env` allows between them. -/
def Traced (handler : Req → Proc σ ε Resp) (env : σ → σ → Prop) (start : σ)
    (box : Mailbox ι Req Resp σ) : Prop :=
  ∃ turns : List (σ × σ), Chained env start turns box.state ∧
    (∀ slot, (box.replies slot).isSome ↔ slot < turns.length) ∧
    ∀ slot resp, box.replies slot = some resp →
      ∃ call turn, box.calls[slot]? = some call ∧ turns[slot]? = some turn ∧
        handler call.2 turn.1 = .ok resp turn.2

section Traced

variable {handler : Req → Proc σ ε Resp} {env : σ → σ → Prop} {start : σ}

theorem traced_init : Traced handler env start (init start : Mailbox ι Req Resp σ) :=
  ⟨[], .refl, fun _ => by simp [init], fun _ _ h => by cases h⟩

theorem Traced.send {box : Mailbox ι Req Resp σ} (h : Traced handler env start box)
    (caller : ι) (req : Req) : Traced handler env start (box.send caller req) := by
  obtain ⟨turns, hchain, hanswered, hreplies⟩ := h
  refine ⟨turns, hchain, hanswered, fun slot resp hslot => ?_⟩
  obtain ⟨call, turn, hcall, hturn, hrun⟩ := hreplies slot resp hslot
  have hlt : slot < box.calls.length := (List.getElem?_eq_some_iff.mp hcall).1
  refine ⟨call, turn, ?_, hturn, hrun⟩
  simp only [Mailbox.send]
  rw [List.getElem?_append_left hlt, hcall]

theorem Traced.of_env {box : Mailbox ι Req Resp σ} (h : Traced handler env start box)
    {state : σ} (henv : env box.state state) : Traced handler env start { box with state } := by
  obtain ⟨turns, hchain, hanswered, hreplies⟩ := h
  exact ⟨turns, hchain.tail henv, hanswered, hreplies⟩

/-- A turn adds itself to the turns: it serves the first unanswered call,
whose slot is the count of turns so far. -/
theorem Traced.serve {box box' : Mailbox ι Req Resp σ} (hrouted : Routed handler box)
    (h : Traced handler env start box) (hserve : box.serve handler = some box') :
    Traced handler env start box' := by
  obtain ⟨turns, hchain, hanswered, hreplies⟩ := h
  obtain ⟨answered, -, hqueue, hrouted, -⟩ := hrouted
  obtain ⟨slot, req, resp, hfront, hrun, hfilled, hcalls⟩ := serve_eq_some hserve
  rw [hqueue] at hfront
  obtain ⟨rfl, ⟨caller, hcall⟩, -⟩ := pending_eq_cons hfront
  have hcount : slot = turns.length :=
    eq_of_forall_lt_iff fun other => (hrouted other).symm.trans (hanswered other)
  subst hcount
  refine ⟨turns ++ [(box.state, box'.state)], hchain.concat box'.state, fun other => ?_,
    fun other reply hother => ?_⟩
  · rw [hfilled, List.length_append, List.length_singleton]
    by_cases hsame : other = turns.length
    · subst hsame
      simp
    · rw [Function.update_of_ne hsame, hanswered]
      omega
  · rw [hfilled] at hother
    rw [hcalls]
    by_cases hsame : other = turns.length
    · subst hsame
      rw [Function.update_self, Option.some.injEq] at hother
      subst hother
      exact ⟨(caller, req), (box.state, box'.state), hcall, by simp, hrun⟩
    · rw [Function.update_of_ne hsame] at hother
      obtain ⟨call, turn, hcall', hturn, hrun'⟩ := hreplies other reply hother
      have hlt : other < turns.length := (List.getElem?_eq_some_iff.mp hturn).1
      exact ⟨call, turn, hcall', by rw [List.getElem?_append_left hlt, hturn], hrun'⟩

theorem Step.traced {box box' : Mailbox ι Req Resp σ} (hstep : Step handler env box box')
    (hrouted : Routed handler box) (h : Traced handler env start box) :
    Traced handler env start box' := by
  cases hstep with
  | send caller req => exact h.send caller req
  | serve hserve => exact h.serve hrouted hserve
  | env state henv => exact h.of_env henv

/-- From a worker with no call yet, every mailbox a run reaches is traced. -/
theorem traced_of_run {box : Mailbox ι Req Resp σ}
    (hrun : Relation.ReflTransGen (Step handler env) (init start) box) :
    Traced handler env start box := by
  induction hrun with
  | refl => exact traced_init
  | tail hfirst hstep ih => exact hstep.traced (routed_of_run (routed_init start) hfirst) ih

end Traced

end Mailbox
