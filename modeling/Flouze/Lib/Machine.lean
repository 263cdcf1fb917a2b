import Mathlib.Data.List.Defs

/-! Deterministic machines that take one input after another. -/

namespace Machine

variable {ι σ : Type} (step : ι → σ → σ)

def after (inputs : List ι) (state : σ) : σ := inputs.foldl (fun state input => step input state) state

def Throughout (P : ι → σ → Prop) : List ι → σ → Prop
  | [], _ => True
  | input :: inputs, state => P input state ∧ Throughout P inputs (step input state)

variable {step} {P Q : ι → σ → Prop} {inv : σ → Prop} {inputs : List ι} {state : σ}

theorem throughout_iff :
    Throughout step P inputs state ↔
      ∀ before input later, inputs = before ++ input :: later → P input (after step before state) := by
  induction inputs generalizing state with
  | nil => simp [Throughout]
  | cons first inputs ih =>
    simp only [Throughout, ih]
    constructor
    · intro given before input later split
      rcases given with ⟨here, rest⟩
      cases before with
      | nil =>
        rcases List.cons.inj split with ⟨rfl, _⟩
        exact here
      | cons _ before =>
        rcases List.cons.inj split with ⟨rfl, tail⟩
        exact rest before input later tail
    · intro all
      exact ⟨all [] first inputs rfl, fun before input later split =>
        all (first :: before) input later (by rw [split]; rfl)⟩

theorem throughout_congr (agree : ∀ input state, inv state → (P input state ↔ Q input state))
    (kept : ∀ input state, inv state → Q input state → inv (step input state)) (start : inv state) :
    Throughout step P inputs state ↔ Throughout step Q inputs state := by
  induction inputs generalizing state with
  | nil => exact Iff.rfl
  | cons input inputs ih =>
    simp only [Throughout, agree input state start]
    exact and_congr_right fun here => ih (kept input state start here)

theorem after_keeps (inv : σ → Prop) (kept : ∀ input state, inv state → P input state → inv (step input state))
    (start : inv state) (all : Throughout step P inputs state) {before later : List ι}
    (split : inputs = before ++ later) : inv (after step before state) := by
  induction before generalizing inputs state with
  | nil => exact start
  | cons input before ih =>
    subst split
    exact ih (kept input state start all.1) all.2 rfl

/-- If inputs that meet `P` keep an invariant and any other breaks what it ensures, then that lasts
    exactly as long as the inputs meet `P`. -/
theorem stays_iff {good : σ → Prop} (inv : σ → Prop) (ensures : ∀ state, inv state → good state)
    (kept : ∀ input state, inv state → P input state → inv (step input state))
    (broken : ∀ input state, inv state → ¬ P input state → ¬ good (step input state)) (start : inv state) :
    (∀ before later, inputs = before ++ later → good (after step before state)) ↔
      Throughout step P inputs state := by
  induction inputs generalizing state with
  | nil =>
    refine iff_of_true ?_ True.intro
    intro before later split
    rcases List.append_eq_nil_iff.mp split.symm with ⟨rfl, _⟩
    exact ensures state start
  | cons input inputs ih =>
    constructor
    · intro all
      have next : good (step input state) := all [input] inputs rfl
      have here : P input state :=
        Classical.byContradiction fun fails => broken input state start fails next
      exact ⟨here, (ih (kept input state start here)).mp fun before later split =>
        all (input :: before) later (by rw [split]; rfl)⟩
    · intro given before later split
      rcases given with ⟨here, rest⟩
      cases before with
      | nil => exact ensures state start
      | cons first before =>
        rcases List.cons.inj split with ⟨rfl, tail⟩
        exact (ih (kept _ _ start here)).mpr rest before later tail

/-- An invariant that an input keeps exactly if it meets `P` lasts exactly as long as the inputs do. -/
theorem lasts_iff (inv : σ → Prop)
    (exactly : ∀ input state, inv state → (inv (step input state) ↔ P input state)) (start : inv state) :
    (∀ before later, inputs = before ++ later → inv (after step before state)) ↔
      Throughout step P inputs state :=
  stays_iff inv (fun _ here => here) (fun input state here => (exactly input state here).mpr)
    (fun input state here fails next => fails ((exactly input state here).mp next)) start

/-- What cannot come back once it is lost is there at the end exactly if each input kept it. -/
theorem at_end_iff (inv : σ → Prop)
    (exactly : ∀ input state, inv state → (inv (step input state) ↔ P input state))
    (lost : ∀ input state, ¬ inv state → ¬ inv (step input state)) (start : inv state) :
    inv (after step inputs state) ↔ Throughout step P inputs state := by
  have never : ∀ (inputs : List ι) (state : σ), ¬ inv state → ¬ inv (after step inputs state) := by
    intro inputs
    induction inputs with
    | nil => exact fun _ gone => gone
    | cons input inputs ih => exact fun state gone => ih _ (lost input state gone)
  induction inputs generalizing state with
  | nil => exact iff_of_true start True.intro
  | cons input inputs ih =>
    by_cases here : P input state
    · exact (ih ((exactly input state start).mpr here)).trans ⟨fun rest => ⟨here, rest⟩, And.right⟩
    · have gone : ¬ inv (step input state) := fun kept => here ((exactly input state start).mp kept)
      exact iff_of_false (never inputs _ gone) fun given => here given.1

section Outputs

variable {τ : Type} {ο : ι → Type}

def outputs (act : (input : ι) → σ → ο input × σ) : List ι → σ → List (Σ input : ι, ο input)
  | [], _ => []
  | input :: inputs, state => ⟨input, (act input state).1⟩ :: outputs act inputs (act input state).2

/-- Two machines whose states stay related, and that answer alike from related states, cannot be told
    apart by their answers. -/
theorem outputs_related {act : (input : ι) → σ → ο input × σ} {act' : (input : ι) → τ → ο input × τ}
    {related : σ → τ → Prop} {allowed : ι → Prop}
    (alike : ∀ input state state', allowed input → related state state' →
      (act input state).1 = (act' input state').1 ∧ related (act input state).2 (act' input state').2)
    {inputs : List ι} (all : ∀ input ∈ inputs, allowed input) {state : σ} {state' : τ}
    (start : related state state') :
    outputs act inputs state = outputs act' inputs state' ∧
      related (after (fun input state => (act input state).2) inputs state)
        (after (fun input state => (act' input state).2) inputs state') := by
  induction inputs generalizing state state' with
  | nil => exact ⟨rfl, start⟩
  | cons input inputs ih =>
    rcases alike input state state' (all input (by simp)) start with ⟨same, next⟩
    rcases ih (fun other member => all other (by simp [member])) next with ⟨rest, last⟩
    exact ⟨by rw [outputs, outputs, same, rest], last⟩

end Outputs

end Machine
