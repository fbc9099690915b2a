import Mathlib.Data.List.Forall2
import Mathlib.Order.Defs.Unbundled

/-!
# Procedures that keep their state on failure

Rust code that works on `&mut self` and returns early with `?` keeps every
mutation it made before the failing call.  `Proc σ ε α` models such code:
a function from a state to either a value or an error, each with the state
reached.  It is core's `EStateM` with its definitions in view, so that the
equations below hold by `rfl` and `simp` can evaluate actions step by step.
-/

open EStateM (Result)

/-- A computation over state `σ` that may fail with `ε`; a failure keeps the
state reached at the failure point. -/
def Proc (σ ε α : Type) : Type := σ → Result ε σ α

namespace Proc

variable {σ ε α β : Type}

instance : Monad (Proc σ ε) where
  pure value := fun state => .ok value state
  bind action next := fun state =>
    match action state with
    | .ok value state => next value state
    | .error error state => .error error state

instance : MonadExceptOf ε (Proc σ ε) where
  throw error := fun state => .error error state
  tryCatch action handler := fun state =>
    match action state with
    | .ok value state => .ok value state
    | .error error state => handler error state

instance : MonadStateOf σ (Proc σ ε) where
  get := fun state => .ok state state
  set state := fun _ => .ok () state
  modifyGet f := fun state => .ok (f state).1 (f state).2

/-- Run `action` and keep its outcome as a value instead of propagating its
error, in the state it reached either way: a call whose `Result` is matched
on rather than passed on with `?`. -/
def attempt {ε' : Type} (action : Proc σ ε α) : Proc σ ε' (Except ε α) :=
  fun state =>
    match action state with
    | .ok value state => .ok (.ok value) state
    | .error error state => .ok (.error error) state

/-- Run `action` on one part of a larger state, which `get` reads and `set`
puts back; the rest of the state is left as it was, also when it fails. -/
def zoom {τ : Type} (get : τ → σ) (set : τ → σ → τ) (action : Proc σ ε α) :
    Proc τ ε α := fun state =>
  match action (get state) with
  | .ok value part => .ok value (set state part)
  | .error error part => .error error (set state part)

/-- Run `action` with its error mapped through `wrap`: `.map_err`, or the
`unwrap` that turns an error into a panic. -/
def mapError {ε' : Type} (wrap : ε → ε') (action : Proc σ ε α) : Proc σ ε' α := fun state =>
  match action state with
  | .ok value state => .ok value state
  | .error error state => .error (wrap error) state

@[simp]
theorem pure_apply (value : α) (state : σ) :
    (pure value : Proc σ ε α) state = .ok value state := rfl

@[simp]
theorem bind_apply (action : Proc σ ε α) (next : α → Proc σ ε β)
    (state : σ) :
    (action >>= next) state =
      match action state with
      | .ok value state => next value state
      | .error error state => .error error state := rfl

@[simp]
theorem map_apply (f : α → β) (action : Proc σ ε α) (state : σ) :
    (f <$> action) state =
      match action state with
      | .ok value state => .ok (f value) state
      | .error error state => .error error state := rfl

@[simp]
theorem throw_apply (error : ε) (state : σ) :
    (throw error : Proc σ ε α) state = .error error state := rfl

/-- Peeling a successful `bind` apart: the first action succeeded, and the
second, run from where the first stopped, gave the result. -/
theorem bind_eq_ok {action : Proc σ ε α} {next : α → Proc σ ε β}
    {state state' : σ} {result : β}
    (h : (action >>= next) state = .ok result state') :
    ∃ value mid, action state = .ok value mid ∧ next value mid = .ok result state' := by
  rw [bind_apply] at h
  cases haction : action state with
  | ok value mid =>
      rw [haction] at h
      exact ⟨value, mid, rfl, h⟩
  | error error mid =>
      rw [haction] at h
      cases h

theorem map_eq_ok {f : α → β} {action : Proc σ ε α} {state state' : σ}
    {result : β} (h : (f <$> action) state = .ok result state') :
    ∃ value, action state = .ok value state' ∧ result = f value := by
  rw [map_apply] at h
  cases haction : action state with
  | ok value mid =>
      rw [haction] at h
      cases h
      exact ⟨value, rfl, rfl⟩
  | error error mid =>
      rw [haction] at h
      cases h

theorem ite_eq_ok {c : Prop} [Decidable c] {action other : Proc σ ε α}
    {state state' : σ} {result : α}
    (h : (if c then action else other) state = .ok result state') :
    (c ∧ action state = .ok result state') ∨
      (¬ c ∧ other state = .ok result state') := by
  by_cases hc : c
  · rw [if_pos hc] at h
    exact .inl ⟨hc, h⟩
  · rw [if_neg hc] at h
    exact .inr ⟨hc, h⟩

/-- An action under `attempt` whose outcome is a value succeeded itself. -/
theorem attempt_eq_ok {ε' : Type} {action : Proc σ ε α} {state state' : σ}
    {value : α}
    (h : (attempt action : Proc σ ε' (Except ε α)) state = .ok (.ok value) state') :
    action state = .ok value state' := by
  simp only [attempt] at h
  cases haction : action state with
  | ok value' state'' =>
      rw [haction] at h
      cases h
      rfl
  | error error state'' =>
      rw [haction] at h
      cases h

/-- An action under `attempt` whose outcome is an error failed itself. -/
theorem attempt_eq_ok_error {ε' : Type} {action : Proc σ ε α} {state state' : σ}
    {error : ε}
    (h : (attempt action : Proc σ ε' (Except ε α)) state = .ok (.error error) state') :
    action state = .error error state' := by
  simp only [attempt] at h
  cases haction : action state with
  | ok value' state'' =>
      rw [haction] at h
      cases h
  | error error' state'' =>
      rw [haction] at h
      cases h
      rfl

instance : LawfulMonad (Proc σ ε) := LawfulMonad.mk' (Proc σ ε)
  (fun action => funext fun state => by
    show (match action state with
      | .ok value state => .ok value state
      | .error error state => .error error state) = action state
    cases action state <;> rfl)
  (fun _ _ => rfl)
  (fun action _ _ => funext fun state => by
    simp only [bind_apply]
    cases action state <;> rfl)

theorem zoom_of_ok {τ : Type} {get : τ → σ} {set : τ → σ → τ} {action : Proc σ ε α}
    {state : τ} {value : α} {part : σ} (h : action (get state) = .ok value part) :
    zoom get set action state = .ok value (set state part) := by
  simp only [zoom, h]

theorem zoom_of_error {τ : Type} {get : τ → σ} {set : τ → σ → τ} {action : Proc σ ε α}
    {state : τ} {error : ε} {part : σ} (h : action (get state) = .error error part) :
    zoom get set action state = .error error (set state part) := by
  simp only [zoom, h]

/-- The state an action left behind, whether it succeeded or failed. -/
def Result.state : Result ε σ α → σ
  | .ok _ state => state
  | .error _ state => state

@[simp]
theorem Result.state_ok (value : α) (state : σ) :
    Result.state (.ok value state : Result ε σ α) = state := rfl

@[simp]
theorem Result.state_error (error : ε) (state : σ) :
    Result.state (.error error state : Result ε σ α) = state := rfl

theorem bind_eq_error {action : Proc σ ε α} {next : α → Proc σ ε β}
    {state state' : σ} {error : ε}
    (h : (action >>= next) state = .error error state') :
    action state = .error error state' ∨
      ∃ value mid, action state = .ok value mid ∧ next value mid = .error error state' := by
  rw [bind_apply] at h
  cases haction : action state with
  | ok value mid =>
      rw [haction] at h
      exact .inr ⟨value, mid, rfl, h⟩
  | error error' mid =>
      rw [haction] at h
      cases h
      exact .inl rfl

/-- Peeling the first call off a run of `List.mapM`. -/
theorem mapM_cons_eq_ok {f : α → Proc σ ε β} {x : α} {xs : List α} {state state' : σ}
    {ys : List β} (h : (x :: xs).mapM f state = .ok ys state') :
    ∃ y ys' mid, f x state = .ok y mid ∧ xs.mapM f mid = .ok ys' state' ∧ ys = y :: ys' := by
  rw [List.mapM_cons] at h
  obtain ⟨y, mid, hy, h⟩ := bind_eq_ok h
  obtain ⟨ys', state'', hys, h⟩ := bind_eq_ok h
  cases h
  exact ⟨y, ys', mid, hy, hys, rfl⟩

/-- A run of `List.mapM` gives one result per element. -/
theorem length_mapM_eq_ok {f : α → Proc σ ε β} :
    ∀ {xs : List α} {state state' : σ} {ys : List β},
      xs.mapM f state = .ok ys state' → ys.length = xs.length
  | [], _, _, _, h => by
      rw [List.mapM_nil] at h
      cases h
      rfl
  | _ :: _, _, _, _, h => by
      obtain ⟨_, _, _, -, hrest, rfl⟩ := mapM_cons_eq_ok h
      rw [List.length_cons, List.length_cons, length_mapM_eq_ok hrest]

theorem mapM_nil_eq_ok {f : α → Proc σ ε β} {state state' : σ} {ys : List β}
    (h : ([] : List α).mapM f state = .ok ys state') : ys = [] ∧ state' = state := by
  rw [List.mapM_nil] at h
  cases h
  exact ⟨rfl, rfl⟩

/-- One more call after a run of `List.forM`. -/
theorem forM_concat_of_ok {f : α → Proc σ ε Unit} {x : α} {mid : σ} :
    ∀ {xs : List α} {state : σ}, xs.forM f state = .ok () mid →
      (xs ++ [x]).forM f state = f x mid
  | [], _, h => by
      cases h
      show (f x >>= fun _ => pure ()) _ = _
      rw [bind_apply]
      cases f x mid <;> rfl
  | y :: ys, state, h => by
      obtain ⟨_, after, hfirst, hrest⟩ := bind_eq_ok h
      show (f y >>= fun _ => (ys ++ [x]).forM f) state = _
      rw [bind_apply, hfirst]
      exact forM_concat_of_ok hrest

/-! ## Footprints

`Keeps r action` bounds what an action may do to its state: every run ends,
whether it succeeds or fails, in a state that `r` relates to its start.
`KeepsOnError r action` asks that only of the runs that fail, and `Total`
actions never fail.  With `r` a preorder these compose through `bind`, which
is how a handler that mutates its state only in a final step that cannot fail
is shown to keep the state whenever it fails. -/

section Footprint

variable (r : σ → σ → Prop)

/-- Every run of the action ends in a state related by `r` to its start. -/
def Keeps (action : Proc σ ε α) : Prop :=
  ∀ state, r state (Proc.Result.state (action state))

/-- Every failing run of the action ends in a state related by `r` to its
start. -/
def KeepsOnError (action : Proc σ ε α) : Prop :=
  ∀ state error state', action state = .error error state' → r state state'

/-- The action never fails. -/
def Total (action : Proc σ ε α) : Prop :=
  ∀ state, ∃ value state', action state = .ok value state'

variable {r}

theorem Keeps.ok {action : Proc σ ε α} (h : Keeps r action) {state state' : σ}
    {value : α} (hrun : action state = .ok value state') : r state state' := by
  have hkeeps := h state
  rwa [hrun] at hkeeps

theorem Keeps.error {action : Proc σ ε α} (h : Keeps r action)
    {state state' : σ} {error : ε} (hrun : action state = .error error state') :
    r state state' := by
  have hkeeps := h state
  rwa [hrun] at hkeeps

/-- A footprint implies every weaker one. -/
theorem Keeps.imp {r' : σ → σ → Prop} {action : Proc σ ε α} (h : Keeps r action)
    (himp : ∀ state state', r state state' → r' state state') : Keeps r' action :=
  fun state => himp _ _ (h state)

theorem Keeps.keepsOnError {action : Proc σ ε α} (h : Keeps r action) :
    KeepsOnError r action :=
  fun _ _ _ hrun => h.error hrun

theorem Total.keepsOnError {action : Proc σ ε α} (h : Total action) :
    KeepsOnError r action := by
  intro state error state' hrun
  obtain ⟨value, state'', hok⟩ := h state
  rw [hok] at hrun
  cases hrun

theorem total_pure (value : α) : Total (pure value : Proc σ ε α) :=
  fun state => ⟨value, state, rfl⟩

theorem Total.bind {action : Proc σ ε α} {next : α → Proc σ ε β}
    (haction : Total action) (hnext : ∀ value, Total (next value)) :
    Total (action >>= next) := by
  intro state
  obtain ⟨value, mid, hok⟩ := haction state
  obtain ⟨result, state', hnext'⟩ := hnext value mid
  exact ⟨result, state', by rw [bind_apply, hok]; exact hnext'⟩

theorem total_attempt {ε' : Type} (action : Proc σ ε α) :
    Total (attempt action : Proc σ ε' (Except ε α)) := by
  intro state
  simp only [attempt]
  cases action state with
  | ok value state' => exact ⟨.ok value, state', rfl⟩
  | error error state' => exact ⟨.error error, state', rfl⟩

theorem keeps_pure [Std.Refl r] (value : α) : Keeps r (pure value : Proc σ ε α) :=
  fun state => refl_of r state

theorem keeps_throw [Std.Refl r] (error : ε) : Keeps r (throw error : Proc σ ε α) :=
  fun state => refl_of r state

theorem Keeps.bind [IsTrans σ r] {action : Proc σ ε α} {next : α → Proc σ ε β}
    (haction : Keeps r action) (hnext : ∀ value, Keeps r (next value)) :
    Keeps r (action >>= next) := by
  intro state
  rw [bind_apply]
  cases hrun : action state with
  | ok value mid =>
      exact trans_of r (haction.ok hrun) (hnext value mid)
  | error error mid =>
      exact haction.error hrun

theorem Keeps.map {action : Proc σ ε α} (h : Keeps r action) (f : α → β) :
    Keeps r (f <$> action) := by
  intro state
  rw [map_apply]
  cases hrun : action state with
  | ok value mid => exact h.ok hrun
  | error error mid => exact h.error hrun

theorem Keeps.attempt {ε' : Type} {action : Proc σ ε α} (h : Keeps r action) :
    Keeps r (Proc.attempt action : Proc σ ε' (Except ε α)) := by
  intro state
  simp only [Proc.attempt]
  cases hrun : action state with
  | ok value mid => exact h.ok hrun
  | error error mid => exact h.error hrun

theorem Keeps.ite {c : Prop} [Decidable c] {action other : Proc σ ε α}
    (haction : Keeps r action) (hother : Keeps r other) :
    Keeps r (if c then action else other) := by
  split
  · exact haction
  · exact hother

/-- A step that keeps `r`, then one whose failures keep it: every failure of
the whole keeps it. -/
theorem KeepsOnError.bind [IsTrans σ r] {action : Proc σ ε α}
    {next : α → Proc σ ε β}
    (haction : Keeps r action) (hnext : ∀ value, KeepsOnError r (next value)) :
    KeepsOnError r (action >>= next) := by
  intro state error state' hrun
  rcases bind_eq_error hrun with hfail | ⟨value, mid, hok, hfail⟩
  · exact haction.error hfail
  · exact trans_of r (haction.ok hok) (hnext value mid error state' hfail)

theorem KeepsOnError.map {action : Proc σ ε α} (h : KeepsOnError r action) (f : α → β) :
    KeepsOnError r (f <$> action) := by
  intro state error state' hrun
  rw [map_apply] at hrun
  cases haction : action state with
  | ok value mid =>
      rw [haction] at hrun
      cases hrun
  | error error' mid =>
      rw [haction] at hrun
      cases hrun
      exact h _ _ _ haction

/-- A step whose failures keep `r`, then one that cannot fail. -/
theorem KeepsOnError.bind_total {action : Proc σ ε α} {next : α → Proc σ ε β}
    (haction : KeepsOnError r action) (hnext : ∀ value, Total (next value)) :
    KeepsOnError r (action >>= next) := by
  intro state error state' hrun
  rcases bind_eq_error hrun with hfail | ⟨value, mid, _, hfail⟩
  · exact haction state error state' hfail
  · obtain ⟨result, state'', hok⟩ := hnext value mid
    rw [hok] at hfail
    cases hfail

end Footprint

theorem mapError_of_ok {ε' : Type} {wrap : ε → ε'} {action : Proc σ ε α} {state state' : σ}
    {value : α} (h : action state = .ok value state') :
    mapError wrap action state = .ok value state' := by
  simp only [mapError, h]

theorem mapError_of_error {ε' : Type} {wrap : ε → ε'} {action : Proc σ ε α} {state state' : σ}
    {error : ε} (h : action state = .error error state') :
    mapError wrap action state = .error (wrap error) state' := by
  simp only [mapError, h]

/-! ## Loops

A `loop` whose body ends in `break` or goes round again is a step that
returns whether to go round again.  `loopWhile step fuel` runs it at most
`fuel` times; its value says whether the loop broke out by itself (`true`) or
the fuel ran out first (`false`).  A loop that is shown to break out within
its fuel is then modelled exactly. -/

section Loop

variable {step : Proc σ ε Bool}

/-- Run `step` until it returns `false` or fails, at most `fuel` times. -/
def loopWhile (step : Proc σ ε Bool) : Nat → Proc σ ε Bool
  | 0 => pure false
  | fuel + 1 => step >>= fun again => if again then loopWhile step fuel else pure true

theorem loopWhile_of_continue {fuel : Nat} {state mid : σ} (hstep : step state = .ok true mid) :
    loopWhile step (fuel + 1) state = loopWhile step fuel mid := by
  simp only [loopWhile, bind_apply, hstep, if_true]

theorem loopWhile_of_break {fuel : Nat} {state state' : σ}
    (hstep : step state = .ok false state') :
    loopWhile step (fuel + 1) state = .ok true state' := by
  simp only [loopWhile, bind_apply, hstep, Bool.false_eq_true, if_false, pure_apply]

theorem loopWhile_of_error {fuel : Nat} {state state' : σ} {error : ε}
    (hstep : step state = .error error state') :
    loopWhile step (fuel + 1) state = .error error state' := by
  simp only [loopWhile, bind_apply, hstep]

/-- A loop whose every round keeps `r` keeps it, however it ends. -/
theorem Keeps.loopWhile {r : σ → σ → Prop} [Std.Refl r] [IsTrans σ r] (hstep : Keeps r step) :
    ∀ fuel, Keeps r (Proc.loopWhile step fuel)
  | 0 => keeps_pure _
  | fuel + 1 => hstep.bind fun _ =>
      Keeps.ite (Keeps.loopWhile hstep fuel) (keeps_pure _)

end Loop

end Proc
