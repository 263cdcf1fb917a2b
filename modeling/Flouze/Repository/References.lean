import Flouze.Repository.Balance

namespace Flouze

open Linked Repository

/-- Every transaction of a list, oldest first, replaces nothing or something that came before it. -/
def RefersTo : List TransactionId → List Transaction → Prop
  | _, [] => True
  | known, tx :: newer =>
    (tx.replaces = [] ∨ tx.replaces ∈ known) ∧ RefersTo (known ++ [tx.uuid]) newer

instance : ∀ known chain, Decidable (RefersTo known chain)
  | _, [] => isTrue True.intro
  | known, tx :: newer =>
    haveI := instDecidableRefersTo (known ++ [tx.uuid]) newer
    inferInstanceAs (Decidable ((tx.replaces = [] ∨ tx.replaces ∈ known) ∧ RefersTo (known ++ [tx.uuid]) newer))

/-- The first transaction that is not deleted on the way back from `id`, in a list that starts with
    the newest one. -/
def originIn : List Transaction → TransactionId → Option Transaction
  | [], _ => none
  | tx :: older, id =>
    if tx.uuid = id then if tx.deleted then originIn older tx.replaces else some tx
    else originIn older id

section Refers

variable {known : List TransactionId} {chain older newer : List Transaction} {tx : Transaction}

theorem refersTo_append :
    RefersTo known (older ++ newer) ↔
      RefersTo known older ∧ RefersTo (known ++ older.map Transaction.uuid) newer := by
  induction older generalizing known with
  | nil => simp [RefersTo]
  | cons tx older ih => simp [RefersTo, ih, and_assoc]

theorem refersTo_concat :
    RefersTo [] (older ++ [tx]) ↔
      RefersTo [] older ∧ (tx.replaces = [] ∨ tx.replaces ∈ older.map Transaction.uuid) := by
  simp [refersTo_append, RefersTo]

theorem refersTo_of_forall (all : ∀ tx ∈ chain, tx.replaces = [] ∨ tx.replaces ∈ known) :
    RefersTo known chain := by
  induction chain generalizing known with
  | nil => exact True.intro
  | cons tx chain ih =>
    refine ⟨all tx (by simp), ih fun other member => ?_⟩
    exact (all other (by simp [member])).imp id fun here => List.mem_append_left _ here

theorem RefersTo.mem (refers : RefersTo known chain) (member : tx ∈ chain) :
    tx.replaces = [] ∨ tx.replaces ∈ known ++ chain.map Transaction.uuid := by
  induction chain generalizing known with
  | nil => cases member
  | cons first chain ih =>
    rcases List.mem_cons.mp member with rfl | later
    · exact refers.1.imp id fun here => List.mem_append_left _ here
    · simpa using ih refers.2 later

end Refers

section Origins

variable {chain older : List Transaction} {tx original : Transaction} {id : TransactionId}

theorem origin_mem {history : List Transaction} (found : originIn history id = some original) :
    original ∈ history ∧ original.deleted = false := by
  induction history generalizing id with
  | nil => cases found
  | cons tx older ih =>
    unfold originIn at found
    split at found
    · split at found
      · rcases ih found with ⟨member, kept⟩
        exact ⟨List.mem_cons_of_mem _ member, kept⟩
      · next kept =>
        obtain rfl := Option.some.inj found
        exact ⟨by simp, by simpa using kept⟩
    · rcases ih found with ⟨member, kept⟩
      exact ⟨List.mem_cons_of_mem _ member, kept⟩

theorem origin_known {history : List Transaction} (found : originIn history id = some original) :
    id ∈ history.map Transaction.uuid := by
  induction history generalizing id with
  | nil => cases found
  | cons tx older ih =>
    unfold originIn at found
    split at found
    · next same => simp [same]
    · exact List.mem_cons_of_mem _ (ih found)

theorem origin_replaced {history : List Transaction} (found : originIn history id = some original) :
    id = original.uuid ∨ ∃ tx ∈ history, tx.replaces = original.uuid := by
  induction history generalizing id with
  | nil => cases found
  | cons tx older ih =>
    unfold originIn at found
    split at found
    · next same =>
      split at found
      · rcases ih found with here | ⟨other, member, replaced⟩
        · exact .inr ⟨tx, by simp, here⟩
        · exact .inr ⟨other, by simp [member], replaced⟩
      · obtain rfl := Option.some.inj found
        exact .inl same.symm
    · rcases ih found with here | ⟨other, member, replaced⟩
      · exact .inl here
      · exact .inr ⟨other, by simp [member], replaced⟩

theorem origin_self {history : List Transaction} (distinct : (history.map Transaction.uuid).Nodup)
    (member : tx ∈ history) (kept : tx.deleted = false) : originIn history tx.uuid = some tx := by
  induction history with
  | nil => cases member
  | cons first older ih =>
    rcases List.nodup_cons.mp distinct with ⟨fresh, distinct⟩
    rcases List.mem_cons.mp member with rfl | later
    · simp [originIn, kept]
    · have differ : first.uuid ≠ tx.uuid := fun same => fresh (same ▸ List.mem_map_of_mem later)
      simp only [originIn, differ, if_false]
      exact ih distinct later

theorem origin_exists (refers : RefersTo [] chain) (noted : ∀ tx ∈ chain, tx.deleted = true → tx.replaces ≠ [])
    (known : id ∈ chain.map Transaction.uuid) : ∃ original, originIn chain.reverse id = some original := by
  induction chain using List.reverseRecOn generalizing id with
  | nil => cases known
  | append_singleton older tx ih =>
    rcases refersTo_concat.mp refers with ⟨before, back⟩
    have ih := fun {id} => @ih id before fun other member => noted other (by simp [member])
    rw [List.reverse_append, List.reverse_singleton, List.singleton_append]
    unfold originIn
    split
    · split
      · next deleted =>
        have named := noted tx (by simp) deleted
        exact ih (back.resolve_left named)
      · exact ⟨tx, rfl⟩
    · next differ =>
      apply ih
      rw [List.map_append, List.mem_append] at known
      rcases known with earlier | here
      · exact earlier
      · exact absurd (List.mem_singleton.mp here).symm differ

end Origins

section Ancestors

variable {store : Store} {record : Account} {chain : List Transaction} {tx original : Transaction}

theorem ancestor_from {history : List Transaction} {id : TransactionId}
    (stored : ∀ tx ∈ history, tx.uuid ≠ [] ∧ store.transaction? record.uuid tx.uuid = some tx)
    (found : originIn history id = some original) {fuel : Nat} (enough : history.length < fuel)
    {cur : Transaction} (from_ : cur.replaces = id) :
    firstNonDeletedFrom store record fuel cur = .ok original := by
  induction history generalizing id fuel cur with
  | nil => cases found
  | cons tx older ih =>
    have rest : ∀ tx ∈ older, tx.uuid ≠ [] ∧ store.transaction? record.uuid tx.uuid = some tx :=
      fun other member => stored other (by simp [member])
    unfold originIn at found
    split at found
    · next here =>
      rcases stored tx (by simp) with ⟨nonnull, read⟩
      obtain ⟨fuel, rfl⟩ : ∃ n, fuel = n + 1 := ⟨fuel - 1, by omega⟩
      have named : cur.replaces.isEmpty = false := by simpa [from_, ← here] using nonnull
      simp only [firstNonDeletedFrom, named, Bool.false_eq_true, if_false]
      rw [from_, ← here, Store.getTransaction_some read, Outcome.ok_bind]
      split at found
      · next deleted =>
        simp only [deleted, Bool.not_true, Bool.false_eq_true, if_false]
        exact ih rest found (by simp at enough; omega) rfl
      · next kept =>
        obtain rfl := Option.some.inj found
        simp only [Bool.not_eq_true] at kept
        simp [kept]
    · exact ih rest found (by simp at enough; omega) from_

theorem ancestor_origin (read : store.ChainAt record.uuid record.latestTransaction chain)
    (found : originIn chain.reverse tx.replaces = some original) :
    getFirstNonDeletedAncestor store record tx = .ok original := by
  apply ancestor_from (fun other member => read.stored other (List.mem_reverse.mp member)) found ?_ rfl
  have bound := read.length_le
  simp only [List.length_reverse]
  omega

theorem resolved_of_refers (read : store.ChainAt record.uuid record.latestTransaction chain)
    (refers : RefersTo [] chain) (noted : ∀ tx ∈ chain, tx.deleted = true → tx.replaces ≠ []) :
    ∀ tx ∈ chain, Resolved store record tx := by
  intro tx member revises
  have named : tx.replaces ≠ [] := revises.elim id (noted tx member)
  have known := (refers.mem member).resolve_left named
  rcases origin_exists refers noted (by simpa using known) with ⟨original, found⟩
  exact ⟨original, ancestor_origin read found⟩

/-- On a chain that refers to itself only, the balance fails for one reason: a deletion that does not
    say what it deletes. -/
theorem getBalance_ok_iff (read : store.ChainAt record.uuid record.latestTransaction chain)
    (refers : RefersTo [] chain) :
    (∃ balance, getBalance store record = .ok balance) ↔
      ∀ tx ∈ chain, tx.deleted = true → tx.replaces ≠ [] := by
  constructor
  · intro given tx member deleted empty
    rcases given with ⟨balance, returns⟩
    rcases getBalance_ok returns with ⟨chain', read', resolved, _⟩
    obtain rfl := Chained.unique read read'
    rcases resolved tx member (.inr deleted) with ⟨original, found⟩
    simp [getFirstNonDeletedAncestor, firstNonDeletedFrom, empty] at found
  · intro noted
    rcases getBalance_run read (resolved_of_refers read refers noted) with ⟨balance, returns, _⟩
    exact ⟨balance, returns⟩

end Ancestors

end Flouze
