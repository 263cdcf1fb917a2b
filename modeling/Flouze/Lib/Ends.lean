import Flouze.Lib.Outcome

namespace Routine

variable {σ ε α β : Type}

/-- From this state, a routine that returns does so in `post`, and one that fails, or never ends, leaves
    a state that `fails` allows. -/
def Ends (routine : Routine σ ε α) (state : σ) (post : α → σ → Prop) (fails : Option ε → σ → Prop) : Prop :=
  match routine state with
  | (.ok value, state') => post value state'
  | (.err error, state') => fails (some error) state'
  | (.hang, state') => fails none state'

namespace Ends

variable {routine : Routine σ ε α} {state : σ} {post : α → σ → Prop} {fails : Option ε → σ → Prop}

theorem of_ok {value : α} {state' : σ} (run : routine state = (.ok value, state')) (here : post value state') :
    Ends routine state post fails := by
  unfold Ends
  rw [run]
  exact here

theorem of_err {error : ε} {state' : σ} (run : routine state = (.err error, state'))
    (here : fails (some error) state') : Ends routine state post fails := by
  unfold Ends
  rw [run]
  exact here

theorem of_hang {state' : σ} (run : routine state = (.hang, state')) (here : fails none state') :
    Ends routine state post fails := by
  unfold Ends
  rw [run]
  exact here

theorem pure {value : α} (here : post value state) : Ends (Pure.pure value) state post fails := here

theorem fail {error : ε} (here : fails (some error) state) :
    Ends (Routine.fail error : Routine σ ε α) state post fails := here

theorem bind {next : α → Routine σ ε β} {last : β → σ → Prop} (first : Ends routine state post fails)
    (rest : ∀ value state', post value state' → Ends (next value) state' last fails) :
    Ends (routine >>= next) state last fails := by
  unfold Ends at first
  unfold Ends
  cases run : routine state with
  | mk outcome state' =>
    rw [run] at first
    cases outcome with
    | ok value =>
      rw [bind_ok run]
      exact rest value state' first
    | err error =>
      rw [bind_err run]
      exact first
    | hang =>
      rw [bind_hang run]
      exact first

theorem run_bind {next : α → Routine σ ε β} {last : β → σ → Prop} {value : α} {state' : σ}
    (run : routine state = (.ok value, state')) (rest : Ends (next value) state' last fails) :
    Ends (routine >>= next) state last fails := by
  unfold Ends
  rw [Routine.bind_ok run]
  exact rest

theorem mono {post' : α → σ → Prop} {fails' : Option ε → σ → Prop} (ends : Ends routine state post fails)
    (returns : ∀ value state', post value state' → post' value state')
    (failing : ∀ error state', fails error state' → fails' error state') :
    Ends routine state post' fails' := by
  unfold Ends at ends ⊢
  split
  · next value state' run =>
    rw [run] at ends
    exact returns value state' ends
  · next error state' run =>
    rw [run] at ends
    exact failing (some error) state' ends
  · next state' run =>
    rw [run] at ends
    exact failing none state' ends

theorem bind_total {next : α → Routine σ ε β} {last : β → σ → Prop}
    (first : Ends routine state post fun _ _ => False)
    (rest : ∀ value state', post value state' → Ends (next value) state' last fails) :
    Ends (routine >>= next) state last fails :=
  bind (mono first (fun _ _ here => here) fun _ _ never => never.elim) rest

theorem always {inv : σ → Prop} (ends : Ends routine state (fun _ => inv) fun _ => inv) :
    inv (routine state).2 := by
  unfold Ends at ends
  split at ends
  · next run => rw [run]; exact ends
  · next run => rw [run]; exact ends
  · next run => rw [run]; exact ends

theorem cases (ends : Ends routine state post fails) :
    (∃ value, (routine state).1 = .ok value ∧ post value (routine state).2) ∨
      ((∀ value, (routine state).1 ≠ .ok value) ∧ ∃ error, fails error (routine state).2) := by
  unfold Ends at ends
  cases run : routine state with
  | mk outcome state' =>
    rw [run] at ends
    cases outcome with
    | ok value => exact .inl ⟨value, rfl, ends⟩
    | err error => exact .inr ⟨by simp, some error, ends⟩
    | hang => exact .inr ⟨by simp, none, ends⟩

theorem failed (ends : Ends routine state post fails) {error : ε} (ended : (routine state).1 = .err error) :
    fails (some error) (routine state).2 := by
  unfold Ends at ends
  cases run : routine state with
  | mk outcome state' =>
    rw [run] at ends ended
    obtain rfl : outcome = .err error := ended
    exact ends

end Ends

end Routine
