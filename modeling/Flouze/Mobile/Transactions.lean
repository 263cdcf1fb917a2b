import Mathlib.Data.List.Sort
import Mathlib.Data.Finset.Insert
import Flouze.Lib.Sums
import Flouze.Repository.References

namespace Flouze

open Linked Repository

/-- What `List.sort` promises of `(tx1, tx2) => tx2.timestamp.compareTo(tx1.timestamp)`: the newest
    timestamp first, read as a signed number. In which order it leaves equal ones is left open. -/
structure Sorting where
  sort : List Transaction → List Transaction
  perm : ∀ transactions, (sort transactions).Perm transactions
  sorted : ∀ transactions, (sort transactions).Pairwise fun tx1 tx2 =>
    tx2.timestamp.toInt64 ≤ tx1.timestamp.toInt64

def Sorting.insertion : Sorting where
  sort := List.insertionSort fun tx1 tx2 => tx2.timestamp.toInt64 ≤ tx1.timestamp.toInt64
  perm := List.perm_insertionSort _
  sorted := by
    have : Std.Total fun tx1 tx2 : Transaction => tx2.timestamp.toInt64 ≤ tx1.timestamp.toInt64 :=
      ⟨fun tx1 tx2 => Int64.le_total _ _⟩
    have : IsTrans Transaction fun tx1 tx2 => tx2.timestamp.toInt64 ≤ tx1.timestamp.toInt64 :=
      ⟨fun _ _ _ first second => Int64.le_trans second first⟩
    exact List.pairwise_insertionSort _

/-- The filter of `flattenHistory`, which remembers what it has seen replaced. -/
def whereShown : Finset TransactionId → List Transaction → List Transaction
  | _, [] => []
  | seenTransactions, tx :: transactions =>
    let seenTransactions :=
      if tx.replaces.isEmpty then seenTransactions else insert tx.replaces seenTransactions
    if tx.uuid ∈ seenTransactions ∨ tx.deleted = true then whereShown seenTransactions transactions
    else tx :: whereShown seenTransactions transactions

def flattenHistory (sorting : Sorting) (transactions : List Transaction) : List Transaction :=
  sorting.sort (whereShown ∅ transactions)

def Shown (history : List Transaction) (tx : Transaction) : Prop :=
  tx.deleted = false ∧ tx.uuid ∉ history.map Transaction.replaces

instance (history : List Transaction) (tx : Transaction) : Decidable (Shown history tx) :=
  inferInstanceAs (Decidable (_ ∧ _))

def Backward : List Transaction → Prop
  | [] => True
  | tx :: older => tx.uuid ∉ (tx :: older).map Transaction.replaces ∧ Backward older

section Shown

variable {history chain : List Transaction}

theorem whereShown_filter (backward : Backward history) (nonempty : ∀ tx ∈ history, tx.uuid ≠ [])
    (seen : Finset TransactionId) :
    whereShown seen history = history.filter fun tx => tx.uuid ∉ seen ∧ Shown history tx := by
  induction history generalizing seen with
  | nil => rfl
  | cons tx older ih =>
    rcases backward with ⟨named, back⟩
    have olds : ∀ other ∈ older, other.uuid ≠ [] := fun other member => nonempty other (by simp [member])
    have self : tx.replaces ≠ tx.uuid := fun same => named (by simp [same])
    simp only [whereShown, List.filter_cons]
    generalize seen_now : (if tx.replaces.isEmpty then seen else insert tx.replaces seen) = seen'
    have met : ∀ id ≠ [], id ∈ seen' ↔ id ∈ seen ∨ id = tx.replaces := by
      intro id nonnull
      subst seen_now
      cases empty : tx.replaces with
      | nil => simp [nonnull]
      | cons byte rest => simp [or_comm]
    have rest : whereShown seen' older =
        older.filter fun other => other.uuid ∉ seen ∧ Shown (tx :: older) other := by
      rw [ih back olds]
      apply List.filter_congr
      intro other member
      simp only [met _ (olds other member), Shown, List.map_cons, List.mem_cons, decide_eq_decide]
      tauto
    have here : tx.uuid ∈ seen' ∨ tx.deleted = true ↔ ¬ (tx.uuid ∉ seen ∧ Shown (tx :: older) tx) := by
      rw [met _ (nonempty tx (by simp))]
      simp only [Shown, named, not_false_eq_true, and_true, Ne.symm self, or_false]
      cases tx.deleted <;> simp
    simp only [here, rest, decide_eq_true_eq]
    split <;> simp_all

theorem backward_of_refers (refers : RefersTo [] chain) (nonempty : ∀ tx ∈ chain, tx.uuid ≠ [])
    (distinct : (chain.map Transaction.uuid).Nodup) : Backward chain.reverse := by
  induction chain using List.reverseRecOn with
  | nil => exact True.intro
  | append_singleton older tx ih =>
    rcases refersTo_concat.mp refers with ⟨before, back⟩
    rw [List.map_append] at distinct
    rcases List.nodup_append.mp distinct with ⟨distinct, _, apart⟩
    have fresh : tx.uuid ∉ older.map Transaction.uuid := fun member => apart _ member _ (by simp) rfl
    rw [List.reverse_append, List.reverse_singleton, List.singleton_append]
    refine ⟨?_, ih before (fun other member => nonempty other (by simp [member])) distinct⟩
    intro member
    rcases List.mem_map.mp member with ⟨other, inside, replaced⟩
    have known : other.replaces = [] ∨ other.replaces ∈ older.map Transaction.uuid := by
      rcases List.mem_cons.mp inside with rfl | earlier
      · exact back
      · simpa using before.mem (List.mem_reverse.mp earlier)
    rcases known with empty | earlier
    · exact nonempty tx (by simp) (replaced ▸ empty)
    · exact fresh (replaced ▸ earlier)

theorem whereShown_eq (refers : RefersTo [] chain) (nonempty : ∀ tx ∈ chain, tx.uuid ≠ [])
    (distinct : (chain.map Transaction.uuid).Nodup) (seen : Finset TransactionId) :
    whereShown seen chain.reverse =
      chain.reverse.filter fun tx => tx.uuid ∉ seen ∧ Shown chain tx := by
  have newest : ∀ tx ∈ chain.reverse, tx.uuid ≠ [] := fun tx member => nonempty tx (List.mem_reverse.mp member)
  rw [whereShown_filter (backward_of_refers refers nonempty distinct) newest]
  simp [Shown]

end Shown

/-- What a person paid minus what was paid for them in the transactions that are shown. -/
def standing (chain : List Transaction) (person : PersonId) : Int :=
  ((chain.filter fun tx => Shown chain tx).map fun tx => tx.share person).sum

/-- The transactions that edit or delete `tx`, the deleted ones in between left out. -/
def revisions (chain : List Transaction) (tx : Transaction) : List Transaction :=
  chain.filter fun other => originIn chain.reverse other.replaces = some tx

/-- What the balance takes back more than once. -/
def surplus (chain : List Transaction) (person : PersonId) : Int :=
  ((chain.filter fun tx => tx.deleted = false).map fun tx =>
    ((revisions chain tx).length - 1 : Nat) * tx.share person).sum

section Agreement

variable {store : Store} {record : Account} {chain : List Transaction} {tx : Transaction}

theorem sum_flattenHistory (sorting : Sorting) (refers : RefersTo [] chain)
    (nonempty : ∀ tx ∈ chain, tx.uuid ≠ []) (distinct : (chain.map Transaction.uuid).Nodup)
    (person : PersonId) :
    ((flattenHistory sorting chain.reverse).map fun tx => tx.share person).sum = standing chain person := by
  have shown : whereShown ∅ chain.reverse = (chain.filter fun tx => Shown chain tx).reverse := by
    rw [whereShown_eq refers nonempty distinct, ← List.filter_reverse]
    simp
  have same : (flattenHistory sorting chain.reverse).Perm (chain.filter fun tx => Shown chain tx) := by
    rw [flattenHistory, shown]
    exact (sorting.perm _).trans (List.reverse_perm _)
  exact (same.map _).sum_eq

theorem no_revision_iff (distinct : (chain.map Transaction.uuid).Nodup) (member : tx ∈ chain)
    (kept : tx.deleted = false) : revisions chain tx = [] ↔ Shown chain tx := by
  have self : originIn chain.reverse tx.uuid = some tx := by
    apply origin_self _ (List.mem_reverse.mpr member) kept
    rwa [List.map_reverse, List.nodup_reverse]
  constructor
  · intro none
    refine ⟨kept, fun replaced => ?_⟩
    rcases List.mem_map.mp replaced with ⟨other, inside, names⟩
    have revises : other ∈ revisions chain tx :=
      List.mem_filter.mpr ⟨inside, by simpa [names] using self⟩
    simp [none] at revises
  · intro shown
    apply List.eq_nil_iff_forall_not_mem.mpr
    intro other revises
    rcases List.mem_filter.mp revises with ⟨inside, leads⟩
    have replaced : ∃ last ∈ chain, last.replaces = tx.uuid := by
      rcases origin_replaced (of_decide_eq_true leads) with here | ⟨last, before, names⟩
      · exact ⟨other, inside, here⟩
      · exact ⟨last, List.mem_reverse.mp before, names⟩
    rcases replaced with ⟨last, before, names⟩
    exact shown.2 (List.mem_map.mpr ⟨last, before, names⟩)

theorem effect_origin (read : store.ChainAt record.uuid record.latestTransaction chain)
    (refers : RefersTo [] chain) (noted : ∀ tx ∈ chain, tx.deleted = true → tx.replaces ≠ [])
    (member : tx ∈ chain) (person : PersonId) :
    effect store record person tx =
      (if tx.deleted then 0 else tx.share person) -
        (originIn chain.reverse tx.replaces).elim 0 fun original => original.share person := by
  by_cases revises : tx.replaces ≠ [] ∨ tx.deleted = true
  · have named : tx.replaces ≠ [] := revises.elim id (noted tx member)
    have known := (refers.mem member).resolve_left named
    rcases origin_exists refers noted (by simpa using known) with ⟨original, found⟩
    rw [effect_revising revises (ancestor_origin read found), found]
    rfl
  · rcases not_or.mp revises with ⟨empty, kept⟩
    have nothing : originIn chain.reverse tx.replaces = none := by
      cases found : originIn chain.reverse tx.replaces with
      | none => rfl
      | some original =>
        rcases List.mem_map.mp (origin_known found) with ⟨other, inside, null⟩
        exact absurd (null.trans (not_not.mp empty)) (read.stored other (List.mem_reverse.mp inside)).1
    rw [effect_plain revises, nothing, if_neg kept]
    simp

theorem net_eq (read : store.ChainAt record.uuid record.latestTransaction chain)
    (refers : RefersTo [] chain) (noted : ∀ tx ∈ chain, tx.deleted = true → tx.replaces ≠ [])
    (person : PersonId) :
    net store record chain person = standing chain person - surplus chain person := by
  let kept := chain.filter fun tx => tx.deleted = false
  have own : (chain.map fun tx => if tx.deleted then 0 else tx.share person).sum =
      (kept.map fun tx => tx.share person).sum := by
    rw [Sums.sum_map_filter]
    congr 2
    funext tx
    cases tx.deleted <;> rfl
  have back : (chain.map fun tx => (originIn chain.reverse tx.replaces).elim 0 fun original =>
        original.share person).sum =
      (kept.map fun tx => ((revisions chain tx).length : Int) * tx.share person).sum := by
    apply Sums.sum_by_origin _ _ (read.nodup.of_map.filter _)
    intro other _ original found
    rcases origin_mem found with ⟨inside, standing⟩
    exact List.mem_filter.mpr ⟨List.mem_reverse.mp inside, by simpa using standing⟩
  have shown : standing chain person =
      (kept.map fun tx => if Shown chain tx then tx.share person else 0).sum := by
    rw [standing, Sums.sum_map_filter, Sums.sum_map_filter]
    congr 2
    funext tx
    cases deleted : tx.deleted <;> simp [Shown, deleted]
  have counted : ∀ tx ∈ kept, tx.share person - ((revisions chain tx).length : Int) * tx.share person =
      (if Shown chain tx then tx.share person else 0) -
        ((revisions chain tx).length - 1 : Nat) * tx.share person := by
    intro tx member
    rcases List.mem_filter.mp member with ⟨inside, standing⟩
    have none := no_revision_iff read.nodup inside (of_decide_eq_true standing)
    cases count : revisions chain tx with
    | nil => simp [none.mp count]
    | cons first rest =>
      have hidden : ¬ Shown chain tx := fun shown => by simp [none.mpr shown] at count
      simp only [hidden, if_false, List.length_cons, Nat.add_sub_cancel]
      push_cast
      ring
  calc
    net store record chain person = (chain.map fun tx => (if tx.deleted then 0 else tx.share person) -
        (originIn chain.reverse tx.replaces).elim 0 fun original => original.share person).sum := by
      rw [net, List.map_congr_left fun tx member => effect_origin read refers noted member person]
    _ = (kept.map fun tx => tx.share person - ((revisions chain tx).length : Int) * tx.share person).sum := by
      rw [Sums.sum_map_sub, Sums.sum_map_sub, own, back]
    _ = standing chain person - surplus chain person := by
      rw [List.map_congr_left counted, Sums.sum_map_sub, shown, surplus]

def BalanceAgrees (sorting : Sorting) (store : Store) (record : Account) (chain : List Transaction) : Prop :=
  ∃ balance, getBalance store record = .ok balance ∧
    ∀ m ∈ record.members, ∃ amount, balance.lookup m.uuid = some amount ∧
      amount.toInt = ((flattenHistory sorting chain.reverse).map fun tx => tx.share m.uuid).sum

theorem balance_agrees_iff (sorting : Sorting)
    (read : store.ChainAt record.uuid record.latestTransaction chain)
    (refers : RefersTo [] chain) (noted : ∀ tx ∈ chain, tx.deleted = true → tx.replaces ≠ []) :
    (∃ balance, getBalance store record = .ok balance) ∧
    (BalanceAgrees sorting store record chain ↔
      ∀ m ∈ record.members, (-2 ^ 63 ≤ standing chain m.uuid ∧ standing chain m.uuid < 2 ^ 63) ∧
        (2 : Int) ^ 64 ∣ surplus chain m.uuid) := by
  rcases getBalance_run read (resolved_of_refers read refers noted) with ⟨balance, returns, sums⟩
  have nonempty : ∀ tx ∈ chain, tx.uuid ≠ [] := fun tx inside => (read.stored tx inside).1
  have amount : ∀ m ∈ record.members, balance.lookup m.uuid =
      some (Int64.ofInt (standing chain m.uuid - surplus chain m.uuid)) := by
    intro m member
    rw [sums, if_pos (List.mem_map_of_mem member), net_eq read refers noted]
  refine ⟨⟨balance, returns⟩, ?_⟩
  constructor
  · intro given m member
    rcases given with ⟨balance', returns', agrees⟩
    obtain rfl := Outcome.ok.inj (returns.symm.trans returns')
    rcases agrees m member with ⟨shown, found, same⟩
    obtain rfl := Option.some.inj ((amount m member).symm.trans found)
    rw [sum_flattenHistory sorting refers nonempty read.nodup] at same
    exact (wrapped_eq_iff _ _).mp same
  · intro fits
    refine ⟨balance, returns, fun m member => ⟨_, amount m member, ?_⟩⟩
    rw [sum_flattenHistory sorting refers nonempty read.nodup]
    exact (wrapped_eq_iff _ _).mpr (fits m member)

end Agreement

section Revised

def editedOnce : List Transaction := [lunch, { lunch with uuid := [1], parent := [0], replaces := [0] }]

def deletedTwice : List Transaction :=
  [lunch, { lunch with uuid := [1], parent := [0], deleted := true, replaces := [0] },
    { lunch with uuid := [2], parent := [1], deleted := true, replaces := [0] }]

theorem balance_agrees_edited :
    BalanceAgrees .insertion (.holding (sharing editedOnce) editedOnce) (sharing editedOnce) editedOnce :=
  (balance_agrees_iff .insertion (Store.holding_read (by decide) (by decide) (by decide))
    (by decide) (by decide)).2.mpr (by decide)

/-- Two devices delete the same transaction, which is then taken back twice. -/
theorem deleted_twice_taken_back_twice :
    let store := Store.holding (sharing deletedTwice) deletedTwice
    store.ChainAt [7] [2] deletedTwice ∧ RefersTo [] deletedTwice ∧
    (∀ tx ∈ deletedTwice, tx.deleted = true → tx.replaces ≠ []) ∧
    (∃ balance, getBalance store (sharing deletedTwice) = .ok balance ∧ balance.lookup [1] = some (-10)) ∧
    flattenHistory .insertion deletedTwice.reverse = [] ∧
    ¬ BalanceAgrees .insertion store (sharing deletedTwice) deletedTwice := by
  have owed : ∃ balance, getBalance (Store.holding (sharing deletedTwice) deletedTwice) (sharing deletedTwice) =
      .ok balance ∧ balance.lookup [1] = some (-10) := ⟨_, rfl, by decide⟩
  have nothing : flattenHistory .insertion deletedTwice.reverse = [] := by decide
  refine ⟨Store.holding_read (by decide) (by decide) (by decide), by decide, by decide, owed, nothing, ?_⟩
  intro given
  rcases given with ⟨balance, returns, agrees⟩
  rcases owed with ⟨balance', returns', amount⟩
  obtain rfl := Outcome.ok.inj (returns.symm.trans returns')
  rcases agrees ⟨[1], "first"⟩ (by decide) with ⟨shown, found, same⟩
  obtain rfl := Option.some.inj (amount.symm.trans found)
  rw [nothing] at same
  exact absurd same (by decide)

end Revised

end Flouze
