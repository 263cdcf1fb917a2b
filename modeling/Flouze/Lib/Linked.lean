import Mathlib.Data.List.Induction
import Mathlib.Data.List.Nodup
import Mathlib.Data.List.TakeWhile

/-- Singly linked lists kept in a partial map: every record is stored under its own key and
    names its predecessor, and a null key ends the list. Lists are written oldest first. -/
def Linked.LinkedOn {K V : Type*} (key link : V → K) : K → List V → Prop
  | _, [] => True
  | base, x :: xs => link x = base ∧ Linked.LinkedOn key link (key x) xs

namespace Linked

variable {K V : Type*}

instance [DecidableEq K] (key link : V → K) (base : K) (xs : List V) :
    Decidable (LinkedOn key link base xs) := by
  induction xs generalizing base with
  | nil => exact isTrue True.intro
  | cons x xs ih => exact @instDecidableAnd _ _ inferInstance (ih _)

/-- The key that a record appended after `xs` on `base` has to name. -/
def tip (key : V → K) (base : K) : List V → K
  | [] => base
  | x :: xs => tip key (key x) xs

/-- What a reader that walks back from the newest record collects before it meets `stop`. -/
def since [DecidableEq K] (key : V → K) (stop : K) (xs : List V) : List V :=
  (xs.reverse.takeWhile fun x => key x ≠ stop).reverse

def upTo [DecidableEq K] (key : V → K) (stop : K) (xs : List V) : List V :=
  (xs.reverse.dropWhile fun x => key x ≠ stop).reverse

structure Chained (get : K → Option V) (key link : V → K) (null head : K) (xs : List V) : Prop where
  head_eq : head = tip key null xs
  linked : LinkedOn key link null xs
  stored : ∀ x ∈ xs, key x ≠ null ∧ get (key x) = some x

section Lists

variable (key link : V → K) (base : K)

@[simp] theorem tip_nil : tip key base [] = base := rfl

@[simp] theorem tip_cons (x : V) (xs : List V) : tip key base (x :: xs) = tip key (key x) xs := rfl

theorem tip_append (xs ys : List V) : tip key base (xs ++ ys) = tip key (tip key base xs) ys := by
  induction xs generalizing base with
  | nil => rfl
  | cons x xs ih => exact ih (key x)

@[simp] theorem tip_concat (xs : List V) (x : V) : tip key base (xs ++ [x]) = key x := by
  rw [tip_append]
  rfl

theorem tip_eq_getLast? (xs : List V) : tip key base xs = (xs.getLast?.map key).getD base := by
  induction xs using List.reverseRecOn with
  | nil => rfl
  | append_singleton xs x _ => simp

theorem tip_mem {xs : List V} (nonempty : xs ≠ []) : tip key base xs ∈ xs.map key := by
  induction xs using List.reverseRecOn with
  | nil => exact absurd rfl nonempty
  | append_singleton xs x _ => simp

theorem tip_base {xs : List V} (nonempty : xs ≠ []) (other : K) :
    tip key base xs = tip key other xs := by
  cases xs with
  | nil => exact absurd rfl nonempty
  | cons x xs => rfl

theorem linkedOn_append (xs ys : List V) :
    LinkedOn key link base (xs ++ ys) ↔
      LinkedOn key link base xs ∧ LinkedOn key link (tip key base xs) ys := by
  induction xs generalizing base with
  | nil => simp [LinkedOn]
  | cons x xs ih => simp only [List.cons_append, LinkedOn, ih, tip_cons, and_assoc]

theorem linkedOn_concat (xs : List V) (x : V) :
    LinkedOn key link base (xs ++ [x]) ↔ LinkedOn key link base xs ∧ link x = tip key base xs := by
  simp [linkedOn_append, LinkedOn]

theorem split_at_key {base stop : K} {xs : List V} (known : stop = base ∨ stop ∈ xs.map key) :
    ∃ older newer, older ++ newer = xs ∧ tip key base older = stop := by
  rcases known with rfl | member
  · exact ⟨[], xs, rfl, rfl⟩
  · rcases List.mem_map.mp member with ⟨x, present, rfl⟩
    rcases List.mem_iff_append.mp present with ⟨older, newer, rfl⟩
    exact ⟨older ++ [x], newer, by simp, by simp⟩

variable [DecidableEq K]

theorem upTo_append_since (stop : K) (xs : List V) : upTo key stop xs ++ since key stop xs = xs := by
  have split := List.takeWhile_append_dropWhile (p := fun x => decide (key x ≠ stop)) (l := xs.reverse)
  rw [upTo, since, ← List.reverse_append, split, List.reverse_reverse]

theorem since_append (stop : K) (xs ys : List V) (absent : ∀ y ∈ ys, key y ≠ stop) :
    since key stop (xs ++ ys) = since key stop xs ++ ys := by
  have all : ∀ y ∈ ys.reverse, decide (key y ≠ stop) = true := by
    intro y member
    simpa using absent y (List.mem_reverse.mp member)
  simp only [since, List.reverse_append, List.takeWhile_append_of_pos all, List.reverse_append,
    List.reverse_reverse]

theorem since_concat_self (xs : List V) (x : V) : since key (key x) (xs ++ [x]) = [] := by
  simp [since]

theorem since_absent (stop : K) (xs : List V) (absent : ∀ x ∈ xs, key x ≠ stop) :
    since key stop xs = xs := by
  simpa [since] using since_append key stop [] xs absent

end Lists

namespace Chained

variable {get get' : K → Option V} {key link : V → K} {null head : K} {xs ys : List V}

theorem nil (get : K → Option V) (key link : V → K) (null : K) : Chained get key link null null [] :=
  ⟨rfl, True.intro, by simp⟩

theorem concat_iff (x : V) :
    Chained get key link null head (xs ++ [x]) ↔
      head = key x ∧ key x ≠ null ∧ get (key x) = some x ∧ Chained get key link null (link x) xs := by
  constructor
  · intro chain
    have linked := (linkedOn_concat key link null xs x).mp chain.linked
    have stored := chain.stored x (by simp)
    refine ⟨by simpa using chain.head_eq, stored.1, stored.2, linked.2, linked.1, ?_⟩
    intro y member
    exact chain.stored y (by simp [member])
  · intro given
    rcases given with ⟨at_head, nonnull, stored, rest⟩
    refine ⟨by simpa using at_head, (linkedOn_concat key link null xs x).mpr ⟨rest.linked, rest.head_eq⟩, ?_⟩
    intro y member
    rcases List.mem_append.mp member with older | newest
    · exact rest.stored y older
    · obtain rfl := List.mem_singleton.mp newest
      exact ⟨nonnull, stored⟩

theorem head_null_iff (chain : Chained get key link null head xs) : head = null ↔ xs = [] := by
  induction xs using List.reverseRecOn with
  | nil => simpa using chain.head_eq
  | append_singleton xs x _ =>
    rcases (concat_iff x).mp chain with ⟨at_head, nonnull, _⟩
    simp [at_head, nonnull]

theorem unique (first : Chained get key link null head xs) (second : Chained get key link null head ys) :
    xs = ys := by
  induction xs using List.reverseRecOn generalizing head ys with
  | nil => exact (second.head_null_iff.mp first.head_eq).symm
  | append_singleton xs x ih =>
    rcases (concat_iff x).mp first with ⟨at_x, nonnull, stored, rest⟩
    induction ys using List.reverseRecOn with
    | nil => exact absurd (second.head_eq.symm.trans at_x).symm nonnull
    | append_singleton ys y _ =>
      rcases (concat_iff y).mp second with ⟨at_y, _, stored', rest'⟩
      have same : x = y := by
        rw [← at_x, at_y, stored'] at stored
        exact (Option.some.inj stored).symm
      subst same
      rw [ih rest rest']

theorem older (chain : Chained get key link null head (xs ++ ys)) :
    Chained get key link null (tip key null xs) xs :=
  ⟨rfl, ((linkedOn_append key link null xs ys).mp chain.linked).1,
    fun x member => chain.stored x (List.mem_append_left _ member)⟩

theorem newer_linked (chain : Chained get key link null head (xs ++ ys)) :
    LinkedOn key link (tip key null xs) ys :=
  ((linkedOn_append key link null xs ys).mp chain.linked).2

/-- No key is read twice: a second visit would read the same records again, forever. -/
theorem nodup (chain : Chained get key link null head xs) : (xs.map key).Nodup := by
  induction xs using List.reverseRecOn generalizing head with
  | nil => simp
  | append_singleton xs x ih =>
    have rest := ((concat_iff x).mp chain).2.2.2
    have fresh : key x ∉ xs.map key := by
      intro member
      rcases List.mem_map.mp member with ⟨y, member, same⟩
      rcases List.mem_iff_append.mp member with ⟨before, after, rfl⟩
      have cut : before ++ y :: after = (before ++ [y]) ++ after := by simp
      rw [cut] at rest
      have again := rest.older
      rw [tip_concat, same, ← ((concat_iff x).mp chain).1] at again
      have equal := congrArg List.length (again.unique chain)
      simp at equal
    simp only [List.map_append, List.map_cons, List.map_nil]
    exact List.nodup_append.mpr ⟨ih rest, by simp, by
      intro a member b single equal
      obtain rfl := List.mem_singleton.mp single
      exact fresh (equal ▸ member)⟩

theorem congr (chain : Chained get key link null head xs)
    (same : ∀ x ∈ xs, get' (key x) = get (key x)) : Chained get' key link null head xs :=
  ⟨chain.head_eq, chain.linked, fun x member =>
    ⟨(chain.stored x member).1, (same x member).trans (chain.stored x member).2⟩⟩

theorem push (chain : Chained get key link null head xs) (linked : LinkedOn key link head ys)
    (stored : ∀ y ∈ ys, key y ≠ null ∧ get' (key y) = some y)
    (same : ∀ x ∈ xs, get' (key x) = get (key x)) :
    Chained get' key link null (tip key head ys) (xs ++ ys) := by
  refine ⟨?_, ?_, ?_⟩
  · rw [tip_append, chain.head_eq]
  · rw [linkedOn_append, ← chain.head_eq]
    exact ⟨chain.linked, linked⟩
  · intro x member
    rcases List.mem_append.mp member with old | new
    · exact (chain.congr same).stored x old
    · exact stored x new

/-- If what is read after some records have been written over others is a list at all, then it is a
    list that was read before with all of them on top. -/
theorem pop (chain : Chained get' key link null (tip key head ys) xs) (linked : LinkedOn key link head ys)
    (nonnull : ∀ y ∈ ys, key y ≠ null)
    (last : ∀ before y after, ys = before ++ y :: after → key y ∉ after.map key → get' (key y) = some y)
    (same : ∀ k, k ∉ ys.map key → get' k = get k) :
    ∃ zs, xs = zs ++ ys ∧ Chained get key link null head zs := by
  have distinct := chain.nodup
  have down : ∀ before after zs, ys = before ++ after → xs = zs ++ after →
      Chained get' key link null (tip key head before) zs →
      ∃ zs, xs = zs ++ ys ∧ Chained get' key link null head zs := by
    intro before
    induction before using List.reverseRecOn with
    | nil =>
      intro after zs split cut read
      obtain rfl : ys = after := split
      exact ⟨zs, cut, read⟩
    | append_singleton before y ih =>
      intro after zs split cut read
      rw [List.append_assoc, List.singleton_append] at split
      rw [tip_concat] at read
      have named : key y ≠ null := nonnull y (by simp [split])
      induction zs using List.reverseRecOn with
      | nil => exact absurd read.head_eq named
      | append_singleton zs z _ =>
        rcases (concat_iff z).mp read with ⟨at_z, _, stored, rest⟩
        have apart : key y ∉ after.map key := by
          intro again
          rw [cut, List.map_append, List.nodup_append] at distinct
          exact distinct.2.2 (key y) (by simp [at_z]) (key y) again rfl
        have found := last before y after split apart
        rw [at_z, stored] at found
        obtain rfl := Option.some.inj found
        rw [split, linkedOn_append] at linked
        refine ih (z :: after) zs split (by rw [cut]; simp) ?_
        rw [← linked.2.1]
        exact rest
  rcases down ys [] xs (by simp) (by simp) chain with ⟨zs, rfl, read⟩
  refine ⟨zs, rfl, read.congr fun z member => (same (key z) ?_).symm⟩
  intro again
  rw [List.map_append, List.nodup_append] at distinct
  exact distinct.2.2 (key z) (List.mem_map_of_mem member) (key z) again rfl

theorem tip_inj (chain : Chained get key link null head (xs ++ ys))
    (same : tip key null xs = head) : ys = [] := by
  have shorter := chain.older
  rw [same] at shorter
  exact List.append_right_eq_self.mp (shorter.unique chain).symm

theorem not_mem_right (chain : Chained get key link null head (xs ++ ys)) {x y : V}
    (left : x ∈ xs) (right : y ∈ ys) : key y ≠ key x := by
  have distinct := chain.nodup
  rw [List.map_append] at distinct
  exact fun equal => (List.nodup_append.mp distinct).2.2 _ (List.mem_map_of_mem left) _
    (List.mem_map_of_mem right) equal.symm

theorem since_tip [DecidableEq K] (chain : Chained get key link null head (xs ++ ys)) :
    since key (tip key null xs) (xs ++ ys) = ys := by
  induction xs using List.reverseRecOn with
  | nil =>
    simp only [tip_nil, List.nil_append]
    exact since_absent key null ys fun y member => (chain.stored y (by simpa using member)).1
  | append_singleton xs x _ =>
    rw [tip_concat, since_append, since_concat_self, List.nil_append]
    intro y member
    exact chain.not_mem_right (by simp) member

end Chained

end Linked
