import Flouze.Lib.Machine

/-! When the inputs of the others cannot be told from the answers to one's own. -/

namespace Machine

variable {ι σ τ : Type} {ο : ι → Type}

/-- What one party can see of a machine, as the state of a machine of its own: its inputs are answered
    alike and the inputs of all others change nothing. -/
structure Isolates (act : (input : ι) → σ → ο input × σ) (act' : (input : ι) → τ → ο input × τ)
    (own : ι → Bool) (seen : σ → τ → Prop) : Prop where
  answers : ∀ input state state', own input = true → seen state state' →
    (act input state).1 = (act' input state').1 ∧ seen (act input state).2 (act' input state').2
  ignores : ∀ input state state', own input = false → seen state state' → seen (act input state).2 state'

variable {act : (input : ι) → σ → ο input × σ} {act' : (input : ι) → τ → ο input × τ} {own : ι → Bool}
variable {seen : σ → τ → Prop} {state : σ} {state' : τ}

theorem Isolates.outputs (isolates : Isolates act act' own seen) (inputs : List ι) (start : seen state state') :
    (Machine.outputs act inputs state).filter (fun output => own output.1) =
      Machine.outputs act' (inputs.filter own) state' ∧
    seen (after (fun input state => (act input state).2) inputs state)
      (after (fun input state => (act' input state).2) (inputs.filter own) state') := by
  induction inputs generalizing state state' with
  | nil => exact ⟨rfl, start⟩
  | cons input inputs ih =>
    by_cases mine : own input = true
    · rcases isolates.answers input state state' mine start with ⟨same, next⟩
      rcases ih next with ⟨rest, last⟩
      rw [List.filter_cons_of_pos mine]
      refine ⟨?_, last⟩
      have here : own (⟨input, (act input state).1⟩ : Σ input, ο input).1 = true := mine
      rw [Machine.outputs, Machine.outputs, ← rest, ← same]
      exact List.filter_cons_of_pos here
    · rw [Bool.not_eq_true] at mine
      rcases ih (isolates.ignores input state state' mine start) with ⟨rest, last⟩
      rw [List.filter_cons_of_neg (by simp [mine])]
      refine ⟨?_, last⟩
      have here : ¬ own (⟨input, (act input state).1⟩ : Σ input, ο input).1 = true := by simp [mine]
      rw [Machine.outputs, ← rest]
      exact List.filter_cons_of_neg here

theorem outputs_inputs (act : (input : ι) → σ → ο input × σ) (inputs : List ι) (state : σ) :
    (Machine.outputs act inputs state).map (fun output => output.1) = inputs := by
  induction inputs generalizing state with
  | nil => rfl
  | cons input inputs ih => rw [Machine.outputs, List.map_cons, ih]

theorem outputs_own {inputs : List ι} (all : ∀ input ∈ inputs, own input = true) (state : σ) :
    (Machine.outputs act inputs state).filter (fun output => own output.1) = Machine.outputs act inputs state := by
  rw [List.filter_eq_self]
  intro output member
  have among : output.1 ∈ inputs := by
    rw [← outputs_inputs act inputs state]
    exact List.mem_map_of_mem member
  exact all output.1 among

/-- Leaving out the inputs of all others changes no answer to one's own. -/
theorem Isolates.purged (isolates : Isolates act act' own seen) (inputs : List ι) (start : seen state state') :
    (Machine.outputs act inputs state).filter (fun output => own output.1) =
      Machine.outputs act (inputs.filter own) state := by
  have mine : ∀ input ∈ inputs.filter own, own input = true := fun _ member => (List.mem_filter.mp member).2
  have all := (isolates.outputs inputs start).1
  have alone := (isolates.outputs (inputs.filter own) start).1
  rw [List.filter_eq_self.mpr mine, outputs_own mine] at alone
  exact all.trans alone.symm

end Machine
