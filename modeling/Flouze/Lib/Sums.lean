import Mathlib.Algebra.BigOperators.Group.Finset.Basic
import Mathlib.Algebra.BigOperators.Ring.Finset
import Mathlib.Tactic.Ring

namespace Sums

variable {α β : Type*}

theorem sum_map_filter (p : α → Bool) (f : α → Int) (xs : List α) :
    ((xs.filter p).map f).sum = (xs.map fun x => if p x then f x else 0).sum := by
  induction xs with
  | nil => rfl
  | cons x xs ih =>
    cases kept : p x with
    | true => simp [kept, ih]
    | false => simp [kept, ih]

theorem sum_map_sub (f g : α → Int) (xs : List α) :
    (xs.map fun x => f x - g x).sum = (xs.map f).sum - (xs.map g).sum := by
  simpa using Multiset.sum_map_sub (f := f) (g := g) (m := (xs : Multiset α))

theorem sum_map_single [DecidableEq β] {xs : List β} (distinct : xs.Nodup) (f : β → Int) {x : β}
    (member : x ∈ xs) : (xs.map fun y => if x = y then f y else 0).sum = f x := by
  rw [← List.sum_toFinset _ distinct, Finset.sum_ite_eq]
  simp [member]

/-- Each term comes from at most one `x`, so the terms can be counted where they come from. -/
theorem sum_by_origin [DecidableEq β] (origin : α → Option β) (f : β → Int) {ys : List α} {xs : List β}
    (distinct : xs.Nodup) (within : ∀ y ∈ ys, ∀ x, origin y = some x → x ∈ xs) :
    (ys.map fun y => (origin y).elim 0 f).sum =
      (xs.map fun x => ((ys.filter fun y => origin y = some x).length : Int) * f x).sum := by
  induction ys with
  | nil => simp
  | cons y ys ih =>
    have rest := ih fun other member => within other (by simp [member])
    have split : ∀ x, (((y :: ys).filter fun y => origin y = some x).length : Int) * f x =
        (if origin y = some x then f x else 0) + ((ys.filter fun y => origin y = some x).length : Int) * f x := by
      intro x
      by_cases here : origin y = some x
      · simp only [here, List.filter_cons, decide_true, if_true, List.length_cons]
        push_cast
        ring
      · simp [here]
    have single : (xs.map fun x => if origin y = some x then f x else 0).sum = (origin y).elim 0 f := by
      cases from_ : origin y with
      | none => simp
      | some x =>
        simp only [Option.some.injEq, Option.elim_some]
        exact sum_map_single distinct f (within y (by simp) x from_)
    simp only [split, List.sum_map_add, single, List.map_cons, List.sum_cons, rest]

theorem sum_by_key [DecidableEq β] (key : α → β) (f : α → Int) {xs : List α} {keys : Finset β}
    (within : ∀ x ∈ xs, key x ∈ keys) :
    ∑ k ∈ keys, ((xs.filter fun x => key x = k).map f).sum = (xs.map f).sum := by
  induction xs with
  | nil => simp
  | cons x xs ih =>
    have rest := ih fun other member => within other (by simp [member])
    have split : ∀ k, (((x :: xs).filter fun x => key x = k).map f).sum =
        (if key x = k then f x else 0) + ((xs.filter fun x => key x = k).map f).sum := by
      intro k
      by_cases here : key x = k
      · simp [here]
      · simp [here]
    simp only [split, Finset.sum_add_distrib, rest, List.map_cons, List.sum_cons, Finset.sum_ite_eq,
      if_pos (within x (by simp))]

end Sums
