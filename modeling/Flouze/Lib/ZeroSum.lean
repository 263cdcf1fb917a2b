import Mathlib.Algebra.BigOperators.Group.Finset.Piecewise
import Mathlib.Algebra.BigOperators.Ring.Finset
import Mathlib.Algebra.Order.BigOperators.Group.Finset
import Mathlib.Data.Int.Order.Basic
import Mathlib.Tactic.Ring

structure ZeroSum.Payment (α : Type*) where
  payer : α
  payee : α
  amount : Int

namespace ZeroSum

variable {α β : Type*}

/-- What the payments change for one who takes part: what it pays minus what it is paid. -/
def flow [DecidableEq α] (payments : List (Payment α)) (x : α) : Int :=
  (payments.map fun p => (if p.payer = x then p.amount else 0) - if p.payee = x then p.amount else 0).sum

/-- The amounts of each colour add up to zero. Giving every colour a weight says the same, and it
    still says it after two colours have been made one. -/
def Splits (amount : α → Int) (colour : α → β) (people : Finset α) : Prop :=
  ∀ weight : β → Int, ∑ x ∈ people, weight (colour x) * amount x = 0

theorem flow_append [DecidableEq α] (first second : List (Payment α)) (x : α) :
    flow (first ++ second) x = flow first x + flow second x := by
  simp [flow]

section Grouping

variable {people : Finset α}

theorem splits_constant {amount : α → Int} (zero : ∑ x ∈ people, amount x = 0) :
    Splits amount (fun _ => ()) people := by
  intro weight
  rw [← Finset.mul_sum, zero, mul_zero]

theorem splits_congr {amount amount' : α → Int} {colour : α → β}
    (same : ∀ x ∈ people, amount' x = -amount x) (splits : Splits amount colour people) :
    Splits amount' colour people := by
  intro weight
  calc
    ∑ x ∈ people, weight (colour x) * amount' x = ∑ x ∈ people, -(weight (colour x) * amount x) :=
      Finset.sum_congr rfl fun x member => by rw [same x member, mul_neg]
    _ = 0 := by rw [Finset.sum_neg_distrib, splits weight, neg_zero]

variable [DecidableEq α]

theorem sum_payment {p : Payment α} (payer : p.payer ∈ people) (payee : p.payee ∈ people) (weight : α → Int) :
    ∑ x ∈ people, weight x * ((if p.payer = x then p.amount else 0) - if p.payee = x then p.amount else 0) =
      weight p.payer * p.amount - weight p.payee * p.amount := by
  simp only [mul_sub, mul_ite, mul_zero, Finset.sum_sub_distrib, Finset.sum_ite_eq, payer, payee, if_true]

/-- Fewer payments leave more groups that no payment connects: each payment makes at most two
    colours one. -/
theorem exists_grouping (payments : List (Payment α))
    (within : ∀ p ∈ payments, p.payer ∈ people ∧ p.payee ∈ people) :
    ∃ colour : α → α, Splits (flow payments) colour people ∧
      people.card ≤ payments.length + (people.image colour).card := by
  induction payments with
  | nil => exact ⟨id, by simp [Splits, flow], by simp⟩
  | cons p payments ih =>
    rcases ih fun other member => within other (by simp [member]) with ⟨colour, splits, bound⟩
    rcases within p (by simp) with ⟨payer, payee⟩
    let merge : α → α := fun c => if c = colour p.payer then colour p.payee else c
    have payer_merged : merge (colour p.payer) = colour p.payee := if_pos rfl
    have payee_merged : merge (colour p.payee) = colour p.payee := by
      simp only [merge]
      split <;> rfl
    refine ⟨fun x => merge (colour x), ?_, ?_⟩
    · intro weight
      have head := sum_payment payer payee fun x => weight (merge (colour x))
      have tail := splits fun c => weight (merge c)
      simp only [payer_merged, payee_merged, sub_self] at head
      simp only [flow, List.map_cons, List.sum_cons, mul_add, Finset.sum_add_distrib]
      rw [head, zero_add]
      exact tail
    · have covered : people.image colour ⊆ insert (colour p.payer) (people.image fun x => merge (colour x)) := by
        intro c member
        rcases Finset.mem_image.mp member with ⟨x, present, rfl⟩
        by_cases same : colour x = colour p.payer
        · rw [same]
          exact Finset.mem_insert_self _ _
        · have kept : merge (colour x) = colour x := if_neg same
          rw [← kept]
          exact Finset.mem_insert_of_mem (Finset.mem_image_of_mem _ present)
      have fewer := (Finset.card_le_card covered).trans (Finset.card_insert_le _ _)
      rw [List.length_cons]
      omega

end Grouping

section Settling

variable {amount amount' : α → Int} {colour : α → β} {people : Finset α} {settled other : α}

theorem Splits.opposite (splits : Splits amount colour people) {x : α} (member : x ∈ people)
    (positive : 0 < amount x) : ∃ y ∈ people, colour y = colour x ∧ amount y < 0 := by
  classical
  by_contra absent
  have nonneg : ∀ y ∈ people, 0 ≤ (if colour y = colour x then 1 else 0) * amount y := by
    intro y present
    split
    · next same =>
      have large : ¬ amount y < 0 := fun negative => absent ⟨y, present, same, negative⟩
      omega
    · simp
  have zero := (Finset.sum_eq_zero_iff_of_nonneg nonneg).mp (splits fun c => if c = colour x then 1 else 0)
  have nothing := zero x member
  simp only [if_true, one_mul] at nothing
  omega

variable [DecidableEq α]

theorem Splits.settle (splits : Splits amount colour people) (present : settled ∈ people)
    (stays : other ∈ people) (differ : other ≠ settled) (same : colour settled = colour other)
    (taken : amount' other = amount settled + amount other)
    (kept : ∀ x, x ≠ settled → x ≠ other → amount' x = amount x) :
    Splits amount' colour (people.erase settled) := by
  intro weight
  have moved : ∀ x ∈ people.erase settled, weight (colour x) * amount' x =
      weight (colour x) * amount x + if other = x then weight (colour settled) * amount settled else 0 := by
    intro x member
    by_cases here : other = x
    · subst here
      rw [if_pos rfl, taken, same]
      ring
    · rw [if_neg here, kept x (Finset.ne_of_mem_erase member) (Ne.symm here), add_zero]
  have among : other ∈ people.erase settled := Finset.mem_erase.mpr ⟨differ, stays⟩
  rw [Finset.sum_congr rfl moved, Finset.sum_add_distrib, Finset.sum_ite_eq, if_pos among,
    Finset.sum_erase_add _ _ present]
  exact splits weight

theorem image_erase [DecidableEq β] (stays : other ∈ people) (differ : other ≠ settled)
    (same : colour settled = colour other) : (people.erase settled).image colour = people.image colour := by
  ext c
  simp only [Finset.mem_image, Finset.mem_erase]
  constructor
  · intro given
    rcases given with ⟨x, ⟨_, present⟩, rfl⟩
    exact ⟨x, present, rfl⟩
  · intro given
    rcases given with ⟨x, present, rfl⟩
    by_cases here : x = settled
    · subst here
      exact ⟨other, ⟨differ, stays⟩, same.symm⟩
    · exact ⟨x, ⟨here, present⟩, rfl⟩

end Settling

end ZeroSum
