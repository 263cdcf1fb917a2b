import Mathlib.Algebra.BigOperators.Group.List.Basic
import Mathlib.Algebra.GroupWithZero.Nat
import Mathlib.Data.List.Perm.Basic

namespace Flouze

structure Shuffle where
  reorder : List Nat → List Nat
  perm : ∀ xs, (reorder xs).Perm xs

namespace Shuffle

def keep : Shuffle := ⟨id, fun xs => List.Perm.refl xs⟩

def reverse : Shuffle := ⟨List.reverse, List.reverse_perm⟩

end Shuffle

/-- `for (int i = 0; i < nMembers && total < amount; ++i)`, of which so many passes are left. -/
def giveRest (amount : Nat) : Nat → Nat → List Nat → Nat → List Nat
  | 0, _, amounts, _ => amounts
  | left + 1, i, amounts, total =>
    if total < amount then giveRest amount left (i + 1) (amounts.modify i (· + 1)) (total + 1) else amounts

def divideAmount (shuffle : Shuffle) (amount nMembers : Nat) : List Nat :=
  if nMembers = 0 then []
  else
    let slice := amount / nMembers
    shuffle.reorder (giveRest amount nMembers 0 (List.replicate nMembers slice) (slice * nMembers))

def parts (amount n : Nat) : List Nat :=
  List.replicate (amount % n) (amount / n + 1) ++ List.replicate (n - amount % n) (amount / n)

section Parts

variable {amount n : Nat}

theorem length_parts (positive : 0 < n) : (parts amount n).length = n := by
  have bound := Nat.mod_lt amount positive
  simp only [parts, List.length_append, List.length_replicate]
  omega

theorem sum_parts (positive : 0 < n) : (parts amount n).sum = amount := by
  have bound := Nat.mod_lt amount positive
  have division := Nat.div_add_mod amount n
  have rest : amount % n * (amount / n + 1) + (n - amount % n) * (amount / n) =
      (amount % n + (n - amount % n)) * (amount / n) + amount % n := by
    rw [Nat.mul_succ, Nat.add_mul]
    omega
  have all : amount % n + (n - amount % n) = n := by omega
  simp only [parts, List.sum_append, List.sum_replicate_nat]
  rw [rest, all]
  exact division

theorem mem_parts {part : Nat} (member : part ∈ parts amount n) : part = amount / n ∨ part = amount / n + 1 := by
  rcases List.mem_append.mp member with larger | smaller
  · exact .inr (List.eq_of_mem_replicate larger)
  · exact .inl (List.eq_of_mem_replicate smaller)

theorem part_le {part : Nat} (positive : 0 < n) (member : part ∈ parts amount n) : part ≤ amount := by
  have division := Nat.div_add_mod amount n
  have slices : amount / n ≤ n * (amount / n) := Nat.le_mul_of_pos_left _ positive
  rcases List.mem_append.mp member with larger | smaller
  · rcases List.mem_replicate.mp larger with ⟨some, rfl⟩
    omega
  · obtain rfl := List.eq_of_mem_replicate smaller
    omega

theorem parts_fair {part other : Nat} (member : part ∈ parts amount n) (member' : other ∈ parts amount n) :
    part ≤ other + 1 := by
  have first := mem_parts member
  have second := mem_parts member'
  omega

theorem parts_even {slice : Nat} (positive : 0 < n) : parts (n * slice) n = List.replicate n slice := by
  have none : n * slice % n = 0 := Nat.mul_mod_right n slice
  have each : n * slice / n = slice := Nat.mul_div_cancel_left slice positive
  rw [parts, none, each]
  simp

theorem modify_next (given rest slice : Nat) :
    (List.replicate given (slice + 1) ++ List.replicate (rest + 1) slice).modify given (· + 1) =
      List.replicate (given + 1) (slice + 1) ++ List.replicate rest slice := by
  induction given with
  | zero => simp [List.replicate_succ]
  | succ given ih =>
    rw [List.replicate_succ, List.cons_append, List.modify_succ_cons, ih, List.replicate_succ (n := given + 1),
      List.cons_append]

/-- The loop stops when the amount is reached, long before it runs out of members. -/
theorem giveRest_run {missing given left slice total : Nat} (enough : missing < left)
    (short : total + missing = amount) :
    giveRest amount left given (List.replicate given (slice + 1) ++ List.replicate left slice) total =
      List.replicate (given + missing) (slice + 1) ++ List.replicate (left - missing) slice := by
  induction missing generalizing given left total with
  | zero =>
    obtain ⟨passes, rfl⟩ : ∃ passes, left = passes + 1 := ⟨left - 1, by omega⟩
    have reached : ¬ total < amount := by omega
    rw [giveRest, if_neg reached]
    rfl
  | succ missing ih =>
    obtain ⟨passes, rfl⟩ : ∃ passes, left = passes + 1 := ⟨left - 1, by omega⟩
    have below : total < amount := by omega
    have count : given + 1 + missing = given + (missing + 1) := by omega
    have rest : passes + 1 - (missing + 1) = passes - missing := by omega
    rw [giveRest, if_pos below, modify_next, ih (by omega) (by omega), count, rest]

theorem divideAmount_perm (shuffle : Shuffle) (positive : 0 < n) :
    (divideAmount shuffle amount n).Perm (parts amount n) := by
  have nonzero : n ≠ 0 := by omega
  have division := Nat.div_add_mod amount n
  have run : giveRest amount n 0 (List.replicate 0 (amount / n + 1) ++ List.replicate n (amount / n))
      (amount / n * n) =
        List.replicate (0 + amount % n) (amount / n + 1) ++ List.replicate (n - amount % n) (amount / n) :=
    giveRest_run (Nat.mod_lt amount positive) (by rw [Nat.mul_comm]; exact division)
  rw [divideAmount, if_neg nonzero]
  rw [Nat.zero_add] at run
  exact (shuffle.perm _).trans (List.Perm.of_eq run)

theorem length_divideAmount (shuffle : Shuffle) (amount n : Nat) : (divideAmount shuffle amount n).length = n := by
  rcases Nat.eq_zero_or_pos n with rfl | positive
  · rfl
  · rw [(divideAmount_perm shuffle positive).length_eq, length_parts positive]

theorem sum_divideAmount (shuffle : Shuffle) (positive : 0 < n) : (divideAmount shuffle amount n).sum = amount := by
  rw [(divideAmount_perm shuffle positive).sum_eq, sum_parts positive]

theorem divideAmount_even (shuffle : Shuffle) (n slice : Nat) :
    divideAmount shuffle (n * slice) n = List.replicate n slice := by
  rcases Nat.eq_zero_or_pos n with rfl | positive
  · rfl
  · have perm : (divideAmount shuffle (n * slice) n).Perm _ := divideAmount_perm shuffle positive
    rw [parts_even positive] at perm
    exact List.perm_replicate.mp perm

end Parts

end Flouze
