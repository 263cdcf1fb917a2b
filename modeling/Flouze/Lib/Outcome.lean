import Mathlib.Data.List.Defs

/-- How a call ends: with a value, with an error, or never. -/
inductive Outcome (ε α : Type) where
  | ok (value : α)
  | err (error : ε)
  | hang
deriving DecidableEq

namespace Outcome

variable {ε α β : Type}

instance : Monad (Outcome ε) where
  pure := .ok
  bind outcome next := match outcome with
    | .ok value => next value
    | .err error => .err error
    | .hang => .hang

instance : LawfulMonad (Outcome ε) := LawfulMonad.mk' (Outcome ε)
  (fun outcome => by cases outcome <;> rfl) (fun _ _ => rfl) (fun outcome _ _ => by cases outcome <;> rfl)

@[simp] theorem pure_eq (value : α) : (pure value : Outcome ε α) = .ok value := rfl

@[simp] theorem ok_bind (value : α) (next : α → Outcome ε β) : (.ok value >>= next) = next value := rfl

@[simp] theorem err_bind (error : ε) (next : α → Outcome ε β) : (.err error >>= next) = .err error := rfl

@[simp] theorem hang_bind (next : α → Outcome ε β) : ((.hang : Outcome ε α) >>= next) = .hang := rfl

theorem bind_eq_ok {outcome : Outcome ε α} {next : α → Outcome ε β} {result : β} :
    (outcome >>= next) = .ok result ↔ ∃ value, outcome = .ok value ∧ next value = .ok result := by
  cases outcome <;> simp

structure Agree (first second : Outcome ε α) : Prop where
  values : ∀ value, first = .ok value ↔ second = .ok value
  ends : first = .hang ↔ second = .hang

theorem Agree.refl (outcome : Outcome ε α) : outcome.Agree outcome := ⟨fun _ => Iff.rfl, Iff.rfl⟩

theorem foldlM_keeps {pass : β → α → Outcome ε β} {good : β → Prop} {xs : List α}
    (keeps : ∀ acc, ∀ x ∈ xs, good acc → ∀ next, pass acc x = .ok next → good next) {acc last : β}
    (fine : good acc) (returns : xs.foldlM pass acc = .ok last) : good last := by
  induction xs generalizing acc with
  | nil =>
    obtain rfl := Outcome.ok.inj returns
    exact fine
  | cons x xs ih =>
    rw [List.foldlM_cons, Outcome.bind_eq_ok] at returns
    rcases returns with ⟨middle, first, rest⟩
    exact ih (fun acc other member => keeps acc other (by simp [member]))
      (keeps acc x (by simp) fine middle first) rest

theorem foldlM_agree {ε' : Type} {pass : β → α → Outcome ε β} {pass' : β → α → Outcome ε' β} {xs : List α}
    (agree : ∀ acc, ∀ x ∈ xs, ∀ next, pass acc x = .ok next → pass' acc x = .ok next) {acc last : β}
    (returns : xs.foldlM pass acc = .ok last) : xs.foldlM pass' acc = .ok last := by
  induction xs generalizing acc with
  | nil =>
    obtain rfl := Outcome.ok.inj returns
    rfl
  | cons x xs ih =>
    rw [List.foldlM_cons, Outcome.bind_eq_ok] at returns
    rcases returns with ⟨middle, first, rest⟩
    rw [List.foldlM_cons, agree acc x (by simp) middle first]
    exact ih (fun acc other member => agree acc other (by simp [member])) rest

end Outcome

/-- A call that may change a state. What was changed before an error stays changed. -/
def Routine (σ ε α : Type) := σ → Outcome ε α × σ

namespace Routine

variable {σ ε α β : Type}

instance : Monad (Routine σ ε) where
  pure value := fun state => (.ok value, state)
  bind routine next := fun state => match routine state with
    | (.ok value, state') => next value state'
    | (.err error, state') => (.err error, state')
    | (.hang, state') => (.hang, state')

def fail (error : ε) : Routine σ ε α := fun state => (.err error, state)

def view (read : σ → Outcome ε α) : Routine σ ε α := fun state => (read state, state)

@[simp] theorem pure_apply (value : α) (state : σ) :
    (pure value : Routine σ ε α) state = (.ok value, state) := rfl

@[simp] theorem fail_apply (error : ε) (state : σ) :
    (fail error : Routine σ ε α) state = (.err error, state) := rfl

@[simp] theorem view_apply (read : σ → Outcome ε α) (state : σ) : view read state = (read state, state) := rfl

theorem bind_ok {routine : Routine σ ε α} {next : α → Routine σ ε β} {state state' : σ} {value : α}
    (run : routine state = (.ok value, state')) : (routine >>= next) state = next value state' := by
  change (match routine state with
    | (.ok value, state') => next value state'
    | (.err error, state') => (.err error, state')
    | (.hang, state') => (.hang, state')) = _
  rw [run]

theorem bind_err {routine : Routine σ ε α} {next : α → Routine σ ε β} {state state' : σ} {error : ε}
    (run : routine state = (.err error, state')) : (routine >>= next) state = (.err error, state') := by
  change (match routine state with
    | (.ok value, state') => next value state'
    | (.err error, state') => (.err error, state')
    | (.hang, state') => (.hang, state')) = _
  rw [run]

theorem bind_hang {routine : Routine σ ε α} {next : α → Routine σ ε β} {state state' : σ}
    (run : routine state = (.hang, state')) : (routine >>= next) state = (.hang, state') := by
  change (match routine state with
    | (.ok value, state') => next value state'
    | (.err error, state') => (.err error, state')
    | (.hang, state') => (.hang, state')) = _
  rw [run]

theorem bind_assoc {γ : Type} (routine : Routine σ ε α) (next : α → Routine σ ε β) (last : β → Routine σ ε γ) :
    (routine >>= next >>= last) = (routine >>= fun value => next value >>= last) := by
  funext state
  cases run : routine state with
  | mk outcome state' =>
    cases outcome with
    | ok value =>
      rw [bind_ok run]
      cases rest : next value state' with
      | mk outcome' state'' =>
        have both : (routine >>= next) state = (outcome', state'') := (bind_ok run).trans rest
        cases outcome' with
        | ok value' =>
          rw [bind_ok both, bind_ok rest]
        | err error => rw [bind_err both, bind_err rest]
        | hang => rw [bind_hang both, bind_hang rest]
    | err error => rw [bind_err run, bind_err (bind_err run)]
    | hang => rw [bind_hang run, bind_hang (bind_hang run)]

theorem forM_ok (pass : α → Routine σ ε PUnit) (effect : σ → α → σ)
    (run : ∀ x state, pass x state = (.ok (), effect state x)) (xs : List α) (state : σ) :
    xs.forM pass state = (.ok (), xs.foldl effect state) := by
  induction xs generalizing state with
  | nil => rfl
  | cons x xs ih =>
    change (pass x >>= fun _ => xs.forM pass) state = _
    rw [bind_ok (run x state)]
    exact ih _

end Routine
