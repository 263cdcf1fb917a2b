import Flouze.Lib.Machine
import Flouze.Lib.Outcome

/-! Writes one after another, of which one fails. -/

namespace Routine

variable {σ ε α : Type} (perform : α → Routine σ ε PUnit)

def effect (write : α) (state : σ) : σ := (perform write state).2

def Succeed (writes : List α) (state : σ) : Prop :=
  Machine.Throughout (effect perform) (fun write state => (perform write state).1 = .ok ()) writes state

variable {perform} {write : α} {writes first second : List α} {state : σ}

theorem forM_append (first second : List α) :
    (first ++ second).forM perform = (first.forM perform >>= fun _ => second.forM perform) := by
  induction first with
  | nil => rfl
  | cons write first ih =>
    change (perform write >>= fun _ => (first ++ second).forM perform) =
      ((perform write >>= fun _ => first.forM perform) >>= fun _ => second.forM perform)
    rw [ih, bind_assoc]

theorem succeed_append :
    Succeed perform (first ++ second) state ↔
      Succeed perform first state ∧ Succeed perform second (Machine.after (effect perform) first state) := by
  induction first generalizing state with
  | nil => simp [Succeed, Machine.Throughout, Machine.after]
  | cons write first ih =>
    change _ ∧ Succeed perform (first ++ second) _ ↔ (_ ∧ Succeed perform first _) ∧ _
    rw [ih, and_assoc]
    rfl

theorem Succeed.run (succeed : Succeed perform (write :: writes) state) :
    perform write state = (.ok (), effect perform write state) :=
  Prod.ext succeed.1 rfl

theorem Succeed.forM (succeed : Succeed perform writes state) :
    writes.forM perform state = (.ok (), Machine.after (effect perform) writes state) := by
  induction writes generalizing state with
  | nil => rfl
  | cons write writes ih =>
    change (perform write >>= fun _ => writes.forM perform) state = _
    rw [bind_ok succeed.run, ih succeed.2]
    rfl

end Routine

/-- A state of which one write fails: the one that `left` others come before, if there is one. -/
structure Faulty (σ : Type) where
  store : σ
  left : Option Nat

namespace Faulty

open Routine

variable {σ ε α : Type}

def write (error : ε) (routine : Routine σ ε PUnit) : Routine (Faulty σ) ε PUnit := fun faulty =>
  match faulty.left with
  | some 0 => (.err error, ⟨faulty.store, none⟩)
  | left => ((routine faulty.store).1, ⟨(routine faulty.store).2, left.map Nat.pred⟩)

variable {perform : α → Routine σ ε PUnit} {writes : List α} {state : σ} {left : Option Nat}

theorem write_cases (error : ε) (routine : Routine σ ε PUnit) (faulty : Faulty σ) :
    write error routine faulty = (.err error, ⟨faulty.store, none⟩) ∨
      ∃ left, write error routine faulty = ((routine faulty.store).1, ⟨(routine faulty.store).2, left⟩) := by
  unfold write
  split
  · exact .inl rfl
  · exact .inr ⟨_, rfl⟩

theorem forM_spared (error : ε) (succeed : Succeed perform writes state)
    (enough : ∀ k, left = some k → writes.length ≤ k) :
    writes.forM (fun x => write error (perform x)) ⟨state, left⟩ =
      (.ok (), ⟨Machine.after (effect perform) writes state, left.map (· - writes.length)⟩) := by
  induction writes generalizing state left with
  | nil =>
    change (Outcome.ok (), Faulty.mk state left) = _
    cases left <;> rfl
  | cons x writes ih =>
    have first : write error (perform x) ⟨state, left⟩ =
        (.ok (), ⟨effect perform x state, left.map Nat.pred⟩) := by
      cases left with
      | none => simp [write, succeed.run]
      | some k =>
        cases k with
        | zero => exact absurd (enough 0 rfl) (by simp)
        | succ k => simp [write, succeed.run]
    change (write error (perform x) >>= fun _ => writes.forM fun x => write error (perform x)) ⟨state, left⟩ = _
    rw [bind_ok first, ih succeed.2]
    · cases left with
      | none => rfl
      | some k =>
        simp only [Option.map_some, List.length_cons, Machine.after, List.foldl_cons, Nat.pred_eq_sub_one,
          Nat.sub_sub, Nat.add_comm 1]
    · intro k fewer
      cases left with
      | none => cases fewer
      | some n =>
        obtain rfl := Option.some.inj fewer
        have bound := enough n rfl
        rw [List.length_cons] at bound
        simp only [Nat.pred_eq_sub_one]
        omega

theorem forM_cut (error : ε) (succeed : Succeed perform writes state) {k : Nat} (short : k < writes.length) :
    writes.forM (fun x => write error (perform x)) ⟨state, some k⟩ =
      (.err error, ⟨Machine.after (effect perform) (writes.take k) state, none⟩) := by
  induction writes generalizing state k with
  | nil => cases short
  | cons x writes ih =>
    change (write error (perform x) >>= fun _ => writes.forM fun x => write error (perform x)) ⟨state, some k⟩ = _
    cases k with
    | zero => exact bind_err rfl
    | succ k =>
      have first : write error (perform x) ⟨state, some (k + 1)⟩ =
          (.ok (), ⟨effect perform x state, some k⟩) := by
        simp [write, succeed.run]
      rw [bind_ok first, ih succeed.2 (Nat.lt_of_succ_lt_succ short)]
      rfl

end Faulty
