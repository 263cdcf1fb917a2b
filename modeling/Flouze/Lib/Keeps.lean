import Flouze.Lib.Resumption

/-- From the invariant, a routine ends in the invariant, and returns only what `post` allows. -/
def Routine.Keeps {σ ε α : Type} (inv : σ → Prop) (routine : Routine σ ε α) (post : α → Prop) : Prop :=
  ∀ state, inv state → inv (routine state).2 ∧ ∀ value, (routine state).1 = .ok value → post value

/-- A program gives the state back in the invariant at every call, as long as the replies are as
    `replies` has them and the state is in the invariant again when it resumes. -/
def Resumption.Keeps {C : Type} {R : C → Type} {σ ρ : Type} (inv : σ → Prop) (replies : (c : C) → R c → Prop)
    (post : ρ → Prop) : Resumption C R σ ρ → Prop
  | .ret result state => inv state ∧ post result
  | .call c state resume =>
    inv state ∧ ∀ reply state', replies c reply → inv state' → (resume reply state').Keeps inv replies post

def Process.Keeps {C : Type} {V : C → Type} {σ ε α : Type} (inv : σ → Prop) (replies : (c : C) → V c → Prop)
    (process : Process C V σ ε α) (post : α → Prop) : Prop :=
  ∀ state, inv state → (process state).Keeps inv
    (fun c reply => ∀ value, reply = .ok value → replies c value)
    fun outcome => ∀ value, outcome = .ok value → post value

namespace Routine.Keeps

variable {σ ε α β : Type} {inv : σ → Prop} {post : α → Prop} {last : β → Prop}

theorem pure {value : α} (here : post value) : Keeps inv (Pure.pure value : Routine σ ε α) post := by
  intro state kept
  refine ⟨kept, fun other same => ?_⟩
  obtain rfl := Outcome.ok.inj same
  exact here

theorem fail (error : ε) : Keeps inv (Routine.fail error : Routine σ ε α) post := by
  intro state kept
  refine ⟨kept, fun value same => ?_⟩
  cases same

theorem view {read : σ → Outcome ε α} (reads : ∀ state, inv state → ∀ value, read state = .ok value → post value) :
    Keeps inv (Routine.view read) post :=
  fun state kept => ⟨kept, reads state kept⟩

theorem look (read : σ → Outcome ε α) : Keeps inv (Routine.view read) fun _ => True :=
  view fun _ _ _ _ => True.intro

theorem bind {routine : Routine σ ε α} {next : α → Routine σ ε β} (first : Keeps inv routine post)
    (rest : ∀ value, post value → Keeps inv (next value) last) : Keeps inv (routine >>= next) last := by
  intro state kept
  rcases first state kept with ⟨after, returns⟩
  cases run : routine state with
  | mk outcome state' =>
    rw [run] at after returns
    cases outcome with
    | ok value =>
      rw [bind_ok run]
      exact rest value (returns value rfl) state' after
    | err error =>
      rw [bind_err run]
      exact ⟨after, fun value same => by cases same⟩
    | hang =>
      rw [bind_hang run]
      exact ⟨after, fun value same => by cases same⟩

theorem forM {pass : α → Routine σ ε PUnit} {xs : List α}
    (each : ∀ x ∈ xs, Keeps inv (pass x) fun _ => True) : Keeps inv (xs.forM pass) fun _ => True := by
  induction xs with
  | nil => exact pure True.intro
  | cons x xs ih =>
    exact bind (each x (by simp)) fun _ _ => ih fun other member => each other (by simp [member])

end Routine.Keeps

namespace Resumption

variable {C : Type} {R : C → Type} {σ ω ρ ρ' : Type} {inv : σ → Prop} {replies : (c : C) → R c → Prop}

theorem Keeps.bind {post : ρ → Prop} {last : ρ' → Prop} {program : Resumption C R σ ρ}
    {next : ρ → σ → Resumption C R σ ρ'} (first : program.Keeps inv replies post)
    (rest : ∀ result state, post result → inv state → (next result state).Keeps inv replies last) :
    (program.bind next).Keeps inv replies last := by
  induction program with
  | ret result state => exact rest result state first.2 first.1
  | call c state resume ih =>
    exact ⟨first.1, fun reply state' said kept => ih reply state' (first.2 reply state' said kept)⟩

theorem Keeps.run {post : ρ → Prop} {program : Resumption C R σ ρ} (keeps : program.Keeps inv replies post)
    {answer : (c : C) → ω → R c × ω} (truthful : ∀ c partner, replies c (answer c partner).1) (partner : ω) :
    inv (program.run answer partner).1.2 ∧ post (program.run answer partner).1.1 := by
  induction program generalizing partner with
  | ret result state => exact keeps
  | call c state resume ih =>
    exact ih _ _ (keeps.2 _ _ (truthful c partner) keeps.1) _

end Resumption

namespace Process.Keeps

variable {C : Type} {V : C → Type} {σ ε α β : Type} {inv : σ → Prop} {replies : (c : C) → V c → Prop}
variable {post : α → Prop} {last : β → Prop}

theorem pure {value : α} (here : post value) :
    Keeps inv replies (Pure.pure value : Process C V σ ε α) post := by
  intro state kept
  refine ⟨kept, fun other same => ?_⟩
  obtain rfl := Outcome.ok.inj same
  exact here

theorem perform {routine : Routine σ ε α} (keeps : routine.Keeps inv post) :
    Keeps inv replies (Process.perform routine : Process C V σ ε α) post :=
  fun state kept => keeps state kept

theorem request (c : C) : Keeps inv replies (Process.request c : Process C V σ ε (V c)) (replies c) :=
  fun _ kept => ⟨kept, fun _ _ said after => ⟨after, said⟩⟩

theorem bind {process : Process C V σ ε α} {next : α → Process C V σ ε β}
    (first : Keeps inv replies process post) (rest : ∀ value, post value → Keeps inv replies (next value) last) :
    Keeps inv replies (process >>= next) last := by
  intro state kept
  apply Resumption.Keeps.bind (first state kept)
  intro outcome state' returns after
  cases outcome with
  | ok value => exact rest value (returns value rfl) state' after
  | err error => exact ⟨after, fun value same => by cases same⟩
  | hang => exact ⟨after, fun value same => by cases same⟩

end Process.Keeps
