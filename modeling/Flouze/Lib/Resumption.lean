import Flouze.Lib.Outcome
import Mathlib.Logic.Relation

/-- A program over a state of its own that stops at every call to the outside. It holds no copy of
    its state while it waits: it resumes with the reply and the state as it is then. -/
inductive Resumption (C : Type) (R : C → Type) (σ ρ : Type) : Type where
  | ret (result : ρ) (state : σ)
  | call (c : C) (state : σ) (resume : R c → σ → Resumption C R σ ρ)

namespace Resumption

variable {C : Type} {R : C → Type} {σ ω ρ ρ' : Type}

def bind : Resumption C R σ ρ → (ρ → σ → Resumption C R σ ρ') → Resumption C R σ ρ'
  | .ret result state, next => next result state
  | .call c state resume, next => .call c state fun reply state' => (resume reply state').bind next

/-- Run to the end against a partner that answers every call at once, with nothing in between. -/
def run (answer : (c : C) → ω → R c × ω) : Resumption C R σ ρ → ω → (ρ × σ) × ω
  | .ret result state, partner => ((result, state), partner)
  | .call c state resume, partner =>
    (resume (answer c partner).1 state).run answer (answer c partner).2

@[simp] theorem ret_bind (result : ρ) (state : σ) (next : ρ → σ → Resumption C R σ ρ') :
    (ret result state).bind next = next result state := rfl

@[simp] theorem call_bind (c : C) (state : σ) (resume : R c → σ → Resumption C R σ ρ)
    (next : ρ → σ → Resumption C R σ ρ') :
    (call c state resume).bind next = call c state fun reply state' => (resume reply state').bind next := rfl

@[simp] theorem run_ret (answer : (c : C) → ω → R c × ω) (result : ρ) (state : σ) (partner : ω) :
    (ret result state : Resumption C R σ ρ).run answer partner = ((result, state), partner) := rfl

@[simp] theorem run_call (answer : (c : C) → ω → R c × ω) (c : C) (state : σ)
    (resume : R c → σ → Resumption C R σ ρ) (partner : ω) :
    (call c state resume).run answer partner =
      (resume (answer c partner).1 state).run answer (answer c partner).2 := rfl

theorem run_bind (answer : (c : C) → ω → R c × ω) (program : Resumption C R σ ρ)
    (next : ρ → σ → Resumption C R σ ρ') (partner : ω) :
    (program.bind next).run answer partner =
      (next (program.run answer partner).1.1 (program.run answer partner).1.2).run answer
        (program.run answer partner).2 := by
  induction program generalizing partner with
  | ret result state => rfl
  | call c state resume ih => exact ih _ _ _

structure Pending (C : Type) (R : C → Type) (σ ρ : Type) where
  request : C
  resume : R request → σ → Resumption C R σ ρ

structure Thread (C : Type) (R : C → Type) (σ ρ : Type) where
  state : σ
  pending : Option (Pending C R σ ρ)

def toThread : Resumption C R σ ρ → Thread C R σ ρ
  | .ret _ state => ⟨state, none⟩
  | .call c state resume => ⟨state, some ⟨c, resume⟩⟩

inductive Answered (answer : (c : C) → ω → R c × ω) :
    Thread C R σ ρ × ω → Thread C R σ ρ × ω → Prop
  | reply (state : σ) (wait : Pending C R σ ρ) (partner : ω) :
    Answered answer (⟨state, some wait⟩, partner)
      ((wait.resume (answer wait.request partner).1 state).toThread, (answer wait.request partner).2)

theorem run_answered (answer : (c : C) → ω → R c × ω) (program : Resumption C R σ ρ) (partner : ω) :
    Relation.ReflTransGen (Answered answer) (program.toThread, partner)
      (⟨(program.run answer partner).1.2, none⟩, (program.run answer partner).2) := by
  induction program generalizing partner with
  | ret result state => exact .refl
  | call c state resume ih =>
    exact .head (.reply state ⟨c, resume⟩ partner) (ih _ _ _)

theorem answered_last (answer : (c : C) → ω → R c × ω) (c : C) (state : σ)
    (resume : R c → σ → Resumption C R σ ρ) (partner : ω) :
    ∃ state' wait partner',
      Relation.ReflTransGen (Answered answer) ((call c state resume).toThread, partner)
        (⟨state', some wait⟩, partner') ∧
      wait.resume (answer wait.request partner').1 state' =
        .ret ((call c state resume).run answer partner).1.1 ((call c state resume).run answer partner).1.2 ∧
      (answer wait.request partner').2 = ((call c state resume).run answer partner).2 := by
  generalize next : resume (answer c partner).1 state = program
  induction program generalizing c state resume partner with
  | ret result state' =>
    refine ⟨state, ⟨c, resume⟩, partner, .refl, ?_, ?_⟩
    · rw [run_call, next]
      exact next
    · rw [run_call, next]
      rfl
  | call c' state' resume' ih =>
    rcases ih (answer c' (answer c partner).2).1 state' c' state' resume' (answer c partner).2 rfl with
      ⟨last, wait, partner', answered, ends, server⟩
    have first : Answered answer (⟨state, some ⟨c, resume⟩⟩, partner) _ := .reply state ⟨c, resume⟩ partner
    simp only [next] at first
    refine ⟨last, wait, partner', .head first answered, ?_, ?_⟩
    · rw [run_call, next]
      exact ends
    · rw [run_call, next]
      exact server

end Resumption

/-- Programs over a state whose calls to the outside may fail or never return. -/
def Process (C : Type) (V : C → Type) (σ ε α : Type) :=
  σ → Resumption C (fun c => Outcome ε (V c)) σ (Outcome ε α)

namespace Process

variable {C : Type} {V : C → Type} {σ ω ε α β : Type}

def andThen (next : α → Process C V σ ε β) :
    Outcome ε α → σ → Resumption C (fun c => Outcome ε (V c)) σ (Outcome ε β)
  | .ok value, state => next value state
  | .err error, state => .ret (.err error) state
  | .hang, state => .ret .hang state

instance : Monad (Process C V σ ε) where
  pure value := fun state => .ret (.ok value) state
  bind process next := fun state => (process state).bind (andThen next)

def fail (error : ε) : Process C V σ ε α := fun state => .ret (.err error) state

def request (c : C) : Process C V σ ε (V c) := fun state => .call c state .ret

def perform (routine : Routine σ ε α) : Process C V σ ε α := fun state =>
  .ret (routine state).1 (routine state).2

@[simp] theorem pure_apply (value : α) (state : σ) :
    (pure value : Process C V σ ε α) state = .ret (.ok value) state := rfl

@[simp] theorem fail_apply (error : ε) (state : σ) :
    (fail error : Process C V σ ε α) state = .ret (.err error) state := rfl

theorem pure_bind (value : α) (next : α → Process C V σ ε β) : (pure value >>= next) = next value := rfl

theorem bind_perform (routine : Routine σ ε α) (next : α → Process C V σ ε β) (state : σ) :
    (perform routine >>= next) state = andThen next (routine state).1 (routine state).2 := rfl

theorem run_bind_ok {answer : (c : C) → ω → Outcome ε (V c) × ω} {process : Process C V σ ε α}
    {next : α → Process C V σ ε β} {state state' : σ} {partner partner' : ω} {value : α}
    (run : (process state).run answer partner = ((.ok value, state'), partner')) :
    ((process >>= next) state).run answer partner = (next value state').run answer partner' := by
  refine (Resumption.run_bind answer (process state) (andThen next) partner).trans ?_
  rw [run]
  rfl

theorem run_bind_err {answer : (c : C) → ω → Outcome ε (V c) × ω} {process : Process C V σ ε α}
    {next : α → Process C V σ ε β} {state state' : σ} {partner partner' : ω} {error : ε}
    (run : (process state).run answer partner = ((.err error, state'), partner')) :
    ((process >>= next) state).run answer partner = ((.err error, state'), partner') := by
  refine (Resumption.run_bind answer (process state) (andThen next) partner).trans ?_
  rw [run]
  rfl

theorem run_bind_hang {answer : (c : C) → ω → Outcome ε (V c) × ω} {process : Process C V σ ε α}
    {next : α → Process C V σ ε β} {state state' : σ} {partner partner' : ω}
    (run : (process state).run answer partner = ((.hang, state'), partner')) :
    ((process >>= next) state).run answer partner = ((.hang, state'), partner') := by
  refine (Resumption.run_bind answer (process state) (andThen next) partner).trans ?_
  rw [run]
  rfl

theorem run_request {answer : (c : C) → ω → Outcome ε (V c) × ω} (c : C) (state : σ) (partner : ω) :
    (request c state : Resumption C (fun c => Outcome ε (V c)) σ (Outcome ε (V c))).run answer partner =
      (((answer c partner).1, state), (answer c partner).2) := rfl

theorem run_perform {answer : (c : C) → ω → Outcome ε (V c) × ω} (routine : Routine σ ε α) (state : σ)
    (partner : ω) : (perform routine state : Resumption C (fun c => Outcome ε (V c)) σ (Outcome ε α)).run
      answer partner = (routine state, partner) := rfl

theorem bind_assoc {γ : Type} (process : Process C V σ ε α) (next : α → Process C V σ ε β)
    (last : β → Process C V σ ε γ) :
    (process >>= next >>= last) = (process >>= fun value => next value >>= last) := by
  have resumed : ∀ program : Resumption C (fun c => Outcome ε (V c)) σ (Outcome ε α),
      (program.bind (andThen next)).bind (andThen last) =
        program.bind (andThen fun value => next value >>= last) := by
    intro program
    induction program with
    | ret outcome state => cases outcome <;> rfl
    | call c state resume ih =>
      simp only [Resumption.call_bind]
      congr 1
      funext reply state'
      exact ih reply state'
  funext state
  exact resumed (process state)

end Process
