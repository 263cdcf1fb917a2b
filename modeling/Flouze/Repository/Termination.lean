import Flouze.Lib.Machine
import Flouze.Lib.Walk
import Flouze.Repository.Contents
import Flouze.Repository.Receive

namespace Flouze

open Linked Repository Walk

def deletedBack (store : Store) (account : AccountId) (id : TransactionId) : Option TransactionId :=
  if id = [] then none
  else match store.transaction? account id with
    | some tx => if tx.deleted then some tx.replaces else none
    | none => none

/-- The search from `tx` comes round to a deleted transaction that it has already read. -/
def Circular (store : Store) (account : AccountId) (tx : Transaction) : Prop :=
  Circles (deletedBack store account) tx.replaces

def Transaction.Revises (tx : Transaction) : Prop := tx.replaces ≠ [] ∨ tx.deleted = true

instance (tx : Transaction) : Decidable tx.Revises := inferInstanceAs (Decidable (_ ∨ _))

section Search

variable {store : Store} {record : Account} {tx : Transaction} {fuel : Nat}

theorem deletedBack_count (store : Store) (account : AccountId) (keys : List TransactionId) (distinct : keys.Nodup)
    (each : ∀ key ∈ keys, deletedBack store account key ≠ none) : keys.length ≤ transactionCount store := by
  apply Store.length_le_count distinct
  intro key member (missing : store.transaction? account key = none)
  exact each key member (by simp [deletedBack, missing])

theorem firstNonDeletedFrom_hang_iff :
    firstNonDeletedFrom store record fuel tx = .hang ↔
      walk (deletedBack store record.uuid) fuel tx.replaces ≠ none := by
  induction fuel generalizing tx with
  | zero => simp [firstNonDeletedFrom, walk]
  | succ fuel ih =>
    unfold firstNonDeletedFrom
    by_cases empty : tx.replaces = []
    · simp [empty, walk, deletedBack]
    · have named : tx.replaces.isEmpty = false := by simpa using empty
      simp only [named, Bool.false_eq_true, if_false, walk, deletedBack, if_neg empty]
      cases stored : store.transaction? record.uuid tx.replaces with
      | none => simp [Store.getTransaction_none stored]
      | some next =>
        rw [Store.getTransaction_some stored, Outcome.ok_bind]
        cases deleted : next.deleted with
        | false => simp [deleted]
        | true =>
          simp only [deleted, Bool.not_true, Bool.false_eq_true, if_false, if_true, Option.bind_some]
          exact ih

theorem ancestor_hang_iff :
    getFirstNonDeletedAncestor store record tx = .hang ↔ Circular store record.uuid tx :=
  firstNonDeletedFrom_hang_iff.trans (circles_iff (deletedBack_count store record.uuid)).symm

theorem search_ends_iff :
    (∃ fuel, firstNonDeletedFrom store record fuel tx ≠ .hang) ↔ ¬ Circular store record.uuid tx := by
  constructor
  · intro given circular
    rcases given with ⟨fuel, ends⟩
    exact ends (firstNonDeletedFrom_hang_iff.mpr (circular.endless fuel))
  · intro straight
    exact ⟨_, mt ancestor_hang_iff.mp straight⟩

theorem balancePass_hang_iff (balance : Balance) :
    balancePass store record balance tx = .hang ↔ tx.Revises ∧ Circular store record.uuid tx := by
  unfold balancePass
  by_cases revises : tx.Revises
  · have branch : (!tx.replaces.isEmpty || tx.deleted) = true := by simpa [Transaction.Revises] using revises
    rw [if_pos branch, ← ancestor_hang_iff, and_iff_right revises]
    cases getFirstNonDeletedAncestor store record tx <;> simp
  · have branch : ¬ (!tx.replaces.isEmpty || tx.deleted) = true := by simpa [Transaction.Revises] using revises
    rw [if_neg branch]
    simp [revises]

theorem balance_forEach_hang_iff {items : List Transaction} {balance : Balance} :
    forEach (balancePass store record) items balance = .hang ↔
      ∃ before tx after, items = before ++ tx :: after ∧ (∀ other ∈ before, Resolved store record other) ∧
        tx.Revises ∧ Circular store record.uuid tx := by
  induction items generalizing balance with
  | nil => simp [forEach]
  | cons first items ih =>
    cases passed : balancePass store record balance first with
    | hang =>
      rcases (balancePass_hang_iff balance).mp passed with ⟨revises, circular⟩
      simp only [forEach, passed, Outcome.hang_bind, true_iff]
      exact ⟨[], first, items, rfl, by simp, revises, circular⟩
    | err error =>
      simp only [forEach, passed, Outcome.err_bind, reduceCtorEq, false_iff]
      intro given
      rcases given with ⟨before, tx, after, split, resolved, revises, circular⟩
      cases before with
      | nil =>
        rcases List.cons.inj split with ⟨rfl, _⟩
        rw [(balancePass_hang_iff balance).mpr ⟨revises, circular⟩] at passed
        cases passed
      | cons other before =>
        rcases List.cons.inj split with ⟨rfl, _⟩
        rcases balancePass_run (resolved first (by simp)) balance with ⟨balance', returns, _⟩
        rw [returns] at passed
        cases passed
    | ok step =>
      rcases balancePass_resolved passed with ⟨here, balance', rfl⟩
      simp only [forEach, passed, Outcome.ok_bind, ih]
      constructor
      · intro given
        rcases given with ⟨before, tx, after, rfl, resolved, circular⟩
        refine ⟨first :: before, tx, after, rfl, ?_, circular⟩
        simpa using ⟨here, resolved⟩
      · intro given
        rcases given with ⟨before, tx, after, split, resolved, revises, circular⟩
        cases before with
        | nil =>
          rcases List.cons.inj split with ⟨rfl, _⟩
          rw [(balancePass_hang_iff balance).mpr ⟨revises, circular⟩] at passed
          cases passed
        | cons other before =>
          rcases List.cons.inj split with ⟨rfl, rest⟩
          exact ⟨before, tx, after, rest, fun other member => resolved other (by simp [member]), revises, circular⟩

end Search

section Balance

variable {store : Store} {record : Account} {chain : List Transaction}

theorem getBalance_hang_iff (read : store.ChainAt record.uuid record.latestTransaction chain) :
    getBalance store record = .hang ↔
      ∃ older tx newer, chain = older ++ tx :: newer ∧ (∀ other ∈ newer, Resolved store record other) ∧
        tx.Revises ∧ Circular store record.uuid tx := by
  unfold getBalance
  rw [eachTransaction_eq read, balance_forEach_hang_iff]
  constructor
  · intro given
    rcases given with ⟨before, tx, after, split, resolved, circular⟩
    refine ⟨after.reverse, tx, before.reverse, ?_, ?_, circular⟩
    · rw [← List.reverse_reverse chain, split]
      simp
    · exact fun other member => resolved other (List.mem_reverse.mp member)
  · intro given
    rcases given with ⟨older, tx, newer, rfl, resolved, circular⟩
    refine ⟨newer.reverse, tx, older.reverse, by simp, ?_, circular⟩
    exact fun other member => resolved other (List.mem_reverse.mp member)

end Balance

def receiving (id : AccountId) (batch : List Transaction) (store : Store) : Store :=
  (receiveTransactions id batch store).2

def UnusedIds (id : AccountId) (batch : List Transaction) (store : Store) : Prop :=
  (∀ tx ∈ batch, tx.uuid ≠ []) ∧ (batch.map Transaction.uuid).Nodup ∧
    ∀ tx ∈ batch, store.transaction? id tx.uuid = none

section Runs

variable {start : Store} {id : AccountId} {record : Account} {batch : List Transaction}

theorem receiving_chain (store : Store) (readable : ∃ chain, store.Chain id chain) (fresh : UnusedIds id batch store) :
    ∃ chain, (receiving id batch store).Chain id chain := by
  rcases receive_cases store id batch with ⟨error, run⟩ | ⟨record, found, linked, run⟩
  · rw [receiving, run]
    exact readable
  · obtain rfl : record.uuid = id := Store.uuid_of_account? found
    rcases readable with ⟨chain, _, found', read⟩
    obtain rfl := Option.some.inj (found.symm.trans found')
    rcases fresh with ⟨nonempty, distinct, unused⟩
    rw [receiving, run]
    refine ⟨chain ++ batch, _, by rw [Store.account?_received, if_pos rfl], ?_⟩
    refine read.received linked nonempty distinct fun tx member again => ?_
    rcases List.mem_map.mp again with ⟨other, present, same⟩
    have stored := (read.stored other present).2
    rw [same, unused tx member] at stored
    cases stored

/-- The balance ends, and with it every search for an original, as long as no transaction of the
    history leads into a circle of deleted ones. -/
theorem balance_ends_iff (found : start.account? id = some record) (none : record.latestTransaction = [])
    {batches before later : List (List Transaction)}
    (fresh : Machine.Throughout (receiving id) (UnusedIds id) batches start) (split : batches = before ++ later) :
    let reached := Machine.after (receiving id) before start
    ∃ account chain, reached.account? id = some account ∧ reached.ChainAt id account.latestTransaction chain ∧
      ((getBalance reached account ≠ .hang ∧
          ∀ tx ∈ chain, ∃ fuel, firstNonDeletedFrom reached account fuel tx ≠ .hang) ↔
        ∀ tx ∈ chain, ¬ Circular reached id tx) ∧
      (getBalance reached account ≠ .hang ↔
        ∀ older tx newer, chain = older ++ tx :: newer → (∀ other ∈ newer, Resolved reached account other) →
          tx.Revises → ¬ Circular reached id tx) := by
  intro reached
  have blank : ∃ chain, start.Chain id chain := ⟨[], record, found, none ▸ Chained.nil _ _ _ _⟩
  obtain ⟨chain, account, found', read⟩ := Machine.after_keeps (fun store => ∃ chain, store.Chain id chain)
    (fun batch store => receiving_chain store) blank fresh split
  obtain rfl : account.uuid = id := Store.uuid_of_account? found'
  have ends : getBalance reached account ≠ .hang ↔
      ∀ older tx newer, chain = older ++ tx :: newer → (∀ other ∈ newer, Resolved reached account other) →
        tx.Revises → ¬ Circular reached account.uuid tx := by
    rw [Ne, getBalance_hang_iff read]
    constructor
    · intro straight older tx newer split resolved revises circular
      exact straight ⟨older, tx, newer, split, resolved, revises, circular⟩
    · intro straight given
      rcases given with ⟨older, tx, newer, split, resolved, revises, circular⟩
      exact straight older tx newer split resolved revises circular
  refine ⟨account, chain, found', read, ?_, ends⟩
  simp only [search_ends_iff]
  constructor
  · exact And.right
  · intro straight
    exact ⟨ends.mpr fun older tx newer split _ _ => straight tx (by simp [split]), straight⟩

def blankStore : Store := Store.empty.putAccount (makeAccount [7])

theorem balance_ends_deleted :
    let batch := [makeTransaction [0] [], { makeTransaction [1] [0] with deleted := true, replaces := [0] }]
    let reached := Machine.after (receiving [7]) [batch] blankStore
    getBalance reached { makeAccount [7] with latestTransaction := [1] } ≠ .hang ∧
      ∀ tx ∈ batch, ¬ Circular reached [7] tx := by
  intro batch reached
  have found : blankStore.account? [7] = some (makeAccount [7]) := by decide
  have fresh : Machine.Throughout (receiving [7]) (UnusedIds [7]) [batch] blankStore :=
    ⟨⟨by decide, by decide, fun _ _ => rfl⟩, True.intro⟩
  rcases balance_ends_iff found rfl fresh (List.append_nil [batch]).symm with ⟨account, chain, found', read, ends, _⟩
  have stored : reached.account? [7] = some { makeAccount [7] with latestTransaction := [1] } := by decide
  obtain rfl := Option.some.inj (stored.symm.trans found')
  have read' : reached.ChainAt [7] [1] batch := ⟨rfl, by decide, by decide⟩
  obtain rfl := Chained.unique read' read
  have straight : ∀ tx ∈ batch, ¬ Circular reached [7] tx := by
    intro tx member
    have ended : firstNonDeletedFrom reached { makeAccount [7] with latestTransaction := [1] } 1 tx ≠ .hang := by
      revert tx
      decide
    exact search_ends_iff.mp ⟨1, ended⟩
  exact ⟨(ends.mpr straight).1, straight⟩

/-- A deletion that names itself is accepted, and from then on the balance is never there. -/
theorem deletion_of_itself_hangs :
    let deletion : Transaction := { makeTransaction [0] [] with deleted := true, replaces := [0] }
    let reached := Machine.after (receiving [7]) [[deletion]] blankStore
    Machine.Throughout (receiving [7]) (UnusedIds [7]) [[deletion]] blankStore ∧
    reached.account? [7] = some { makeAccount [7] with latestTransaction := [0] } ∧
    getBalance reached { makeAccount [7] with latestTransaction := [0] } = .hang ∧
    ∀ fuel, firstNonDeletedFrom reached { makeAccount [7] with latestTransaction := [0] } fuel deletion = .hang := by
  intro deletion reached
  have circular : Circular reached [7] deletion := ⟨0, 1, [0], Nat.one_pos, rfl, by decide⟩
  have fresh : Machine.Throughout (receiving [7]) (UnusedIds [7]) [[deletion]] blankStore :=
    ⟨⟨by decide, by decide, fun _ _ => rfl⟩, True.intro⟩
  exact ⟨fresh, by decide, by decide, fun fuel => firstNonDeletedFrom_hang_iff.mpr (circular.endless fuel)⟩

end Runs

end Flouze
