import Flouze.Lib.Linked
import Flouze.Repository.Store

namespace Flouze

open Linked Repository

/-- The transactions that reading back from `head` yields, oldest first. -/
def Store.ChainAt (store : Store) (account : AccountId) (head : TransactionId)
    (chain : List Transaction) : Prop :=
  Chained (store.transaction? account) Transaction.uuid Transaction.parent [] head chain

def Store.Chain (store : Store) (account : AccountId) (chain : List Transaction) : Prop :=
  ∃ record, store.account? account = some record ∧ store.ChainAt account record.latestTransaction chain

def forEach {α β : Type} (pass : β → α → Outcome ErrorKind (ForInStep β)) :
    List α → β → Outcome ErrorKind β
  | [], acc => .ok acc
  | x :: xs, acc => do
    match ← pass acc x with
    | .done acc => pure acc
    | .yield acc => forEach pass xs acc

theorem Store.length_le_count {store : Store} {account : AccountId} {ids : List TransactionId}
    (distinct : ids.Nodup) (stored : ∀ id ∈ ids, store.transaction? account id ≠ none) :
    ids.length ≤ transactionCount store := by
  have apart : (ids.map fun id => (account, id)).Nodup :=
    distinct.map fun _ _ same => (Prod.mk.inj same).2
  have present : (ids.map fun id => (account, id)).toFinset ⊆ store.transactions.keys := by
    intro key member
    rcases List.mem_map.mp (List.mem_toFinset.mp member) with ⟨id, among, rfl⟩
    rcases Option.ne_none_iff_exists'.mp (stored id among) with ⟨tx, found⟩
    exact Finmap.mem_keys.mpr (Finmap.mem_iff.mpr ⟨tx, found⟩)
  calc
    ids.length = (ids.map fun id => (account, id)).toFinset.card := by
      rw [List.toFinset_card_of_nodup apart, List.length_map]
    _ ≤ transactionCount store := Finset.card_le_card present

theorem Store.ChainAt.length_le {store : Store} {account : AccountId} {head : TransactionId}
    {chain : List Transaction} (read : store.ChainAt account head chain) :
    chain.length ≤ transactionCount store := by
  have stored : ∀ id ∈ chain.map Transaction.uuid, store.transaction? account id ≠ none := by
    intro id member
    rcases List.mem_map.mp member with ⟨tx, among, rfl⟩
    simp [(read.stored tx among).2]
  simpa using Store.length_le_count read.nodup stored

section Loops

variable {store : Store} {account : AccountId} {head : TransactionId} {chain : List Transaction}
variable {β : Type}

theorem next_nil (account : AccountId) : TransactionChain.next store ⟨account, []⟩ = none := rfl

theorem next_stored {id : TransactionId} {tx : Transaction} (nonempty : id ≠ [])
    (found : store.transaction? account id = some tx) :
    TransactionChain.next store ⟨account, id⟩ = some (.ok tx, ⟨account, tx.parent⟩) := by
  unfold TransactionChain.next
  simp [nonempty, Store.getTransaction_some found]

theorem forChain_eq (read : store.ChainAt account head chain) (fuel : Nat) (enough : chain.length < fuel)
    (pass : β → Transaction → Outcome ErrorKind (ForInStep β)) (acc : β) :
    forChain store pass fuel ⟨account, head⟩ acc = forEach pass chain.reverse acc := by
  induction chain using List.reverseRecOn generalizing head fuel acc with
  | nil =>
    obtain rfl := read.head_eq
    obtain ⟨fuel, rfl⟩ : ∃ n, fuel = n + 1 := ⟨fuel - 1, by simp at enough; omega⟩
    simp [forChain, next_nil, forEach]
  | append_singleton older tx ih =>
    rcases (Chained.concat_iff tx).mp read with ⟨rfl, nonnull, stored, rest⟩
    obtain ⟨fuel, rfl⟩ : ∃ n, fuel = n + 1 := ⟨fuel - 1, by simp at enough; omega⟩
    simp only [forChain, next_stored nonnull stored, List.reverse_append, List.reverse_singleton,
      List.singleton_append, forEach]
    simp only [Outcome.ok_bind]
    congr 1
    funext step
    cases step with
    | done acc => rfl
    | yield acc => exact ih rest fuel (by simp at enough; omega) acc

theorem eachTransaction_eq {record : Account}
    (read : store.ChainAt record.uuid record.latestTransaction chain) (acc : β)
    (pass : β → Transaction → Outcome ErrorKind (ForInStep β)) :
    eachTransaction store record acc pass = forEach pass chain.reverse acc :=
  forChain_eq read _ (Nat.lt_succ_of_le read.length_le) pass acc

theorem chain_of_forChain (pass : β → Transaction → Outcome ErrorKind (ForInStep β))
    (stays : ∀ acc tx result, pass acc tx ≠ .ok (.done result)) {fuel : Nat} {acc result : β}
    (returns : forChain store pass fuel ⟨account, head⟩ acc = .ok result) :
    ∃ chain, store.ChainAt account head chain := by
  induction fuel generalizing head acc with
  | zero => cases returns
  | succ fuel ih =>
    by_cases empty : head = []
    · subst empty
      exact ⟨[], Chained.nil _ _ _ _⟩
    · cases found : store.transaction? account head with
      | none =>
        simp [forChain, TransactionChain.next, empty, Store.getTransaction_none found] at returns
      | some tx =>
        simp only [forChain, next_stored empty found, Outcome.ok_bind, Outcome.bind_eq_ok] at returns
        rcases returns with ⟨step, passed, returns⟩
        cases step with
        | done value => exact absurd passed (stays acc tx value)
        | yield value =>
          rcases ih returns with ⟨older, read⟩
          obtain rfl := Store.uuid_of_transaction? found
          exact ⟨older ++ [tx], (Chained.concat_iff tx).mpr ⟨rfl, empty, found, read⟩⟩

theorem forEach_collectUntil (stop : TransactionId) (transactions found : List Transaction) :
    forEach (collectUntil stop) transactions found =
      .ok (found ++ transactions.takeWhile fun tx => tx.uuid ≠ stop) := by
  induction transactions generalizing found with
  | nil => simp [forEach]
  | cons tx transactions ih =>
    by_cases at_stop : tx.uuid = stop
    · simp [forEach, collectUntil, at_stop]
    · simp [forEach, collectUntil, at_stop, ih]

/-- The loops of the source that walk back to `stop` and then reverse. -/
theorem collect_since {record : Account}
    (read : store.ChainAt record.uuid record.latestTransaction chain) (stop : TransactionId) :
    eachTransaction store record [] (collectUntil stop) =
      .ok (since Transaction.uuid stop chain).reverse := by
  rw [eachTransaction_eq read, forEach_collectUntil]
  simp [since]

end Loops

theorem followsFrom_iff (base : TransactionId) (transactions : List Transaction) :
    followsFrom base transactions = true ↔
      LinkedOn Transaction.uuid Transaction.parent base transactions := by
  induction transactions generalizing base with
  | nil => simp [followsFrom, LinkedOn]
  | cons tx transactions ih =>
    simp only [followsFrom, LinkedOn, ← ih]
    split <;> simp_all

theorem checkChainConsistency_iff (transactions : List Transaction) :
    checkChainConsistency transactions = true ↔
      ∃ base, LinkedOn Transaction.uuid Transaction.parent base transactions := by
  cases transactions with
  | nil => simp [checkChainConsistency, LinkedOn]
  | cons tx transactions =>
    simp only [checkChainConsistency, followsFrom_iff, LinkedOn, true_and, exists_eq_left']

namespace Store

def putTransactions (store : Store) (account : AccountId) (transactions : List Transaction) : Store :=
  transactions.foldl (fun store tx => store.putTransaction account tx) store

def removeTransactions (store : Store) (account : AccountId) (ids : List TransactionId) : Store :=
  ids.foldl (fun store id => store.removeTransaction account id) store

variable (store : Store) (owner : AccountId)

@[simp] theorem account?_putTransactions (transactions : List Transaction) (id : AccountId) :
    (store.putTransactions owner transactions).account? id = store.account? id := by
  induction transactions generalizing store with
  | nil => rfl
  | cons tx transactions ih => exact ih (store.putTransaction owner tx)

theorem transaction?_putTransactions_absent (transactions : List Transaction) {other : AccountId}
    {id : TransactionId} (absent : other = owner → id ∉ transactions.map Transaction.uuid) :
    (store.putTransactions owner transactions).transaction? other id = store.transaction? other id := by
  induction transactions generalizing store with
  | nil => rfl
  | cons tx transactions ih =>
    have differ : ¬ (other = owner ∧ id = tx.uuid) := by
      intro given
      rcases given with ⟨same, rfl⟩
      exact absent same (by simp)
    calc
      _ = (store.putTransaction owner tx).transaction? other id :=
        ih (store.putTransaction owner tx) fun same member => absent same (by simp [member])
      _ = store.transaction? other id := by simp [differ]

theorem transaction?_putTransactions_mem {transactions : List Transaction} {tx : Transaction}
    (distinct : (transactions.map Transaction.uuid).Nodup) (member : tx ∈ transactions) :
    (store.putTransactions owner transactions).transaction? owner tx.uuid = some tx := by
  induction transactions generalizing store with
  | nil => cases member
  | cons first transactions ih =>
    rcases List.nodup_cons.mp distinct with ⟨fresh, distinct⟩
    rcases List.mem_cons.mp member with rfl | later
    · have kept : (putTransactions (store.putTransaction owner tx) owner transactions).transaction?
          owner tx.uuid = (store.putTransaction owner tx).transaction? owner tx.uuid :=
        transaction?_putTransactions_absent _ owner transactions fun _ => fresh
      exact kept.trans (by simp)
    · exact ih (store.putTransaction owner first) distinct later

theorem of_transaction?_putTransactions {transactions : List Transaction} {other : AccountId} {id : TransactionId}
    {tx : Transaction} (stored : (store.putTransactions owner transactions).transaction? other id = some tx) :
    store.transaction? other id = some tx ∨ tx ∈ transactions := by
  induction transactions generalizing store with
  | nil => exact .inl stored
  | cons first transactions ih =>
    rcases ih (store.putTransaction owner first) stored with before | later
    · rw [transaction?_putTransaction] at before
      split at before
      · exact .inr (Option.some.inj before ▸ List.mem_cons_self)
      · exact .inl before
    · exact .inr (List.mem_cons_of_mem _ later)

theorem putTransactions_ne_none (transactions : List Transaction) (other : AccountId)
    (id : TransactionId) (stored : store.transaction? other id ≠ none) :
    (store.putTransactions owner transactions).transaction? other id ≠ none := by
  induction transactions generalizing store with
  | nil => exact stored
  | cons tx transactions ih =>
    apply ih (store.putTransaction owner tx)
    rw [transaction?_putTransaction]
    split
    · simp
    · exact stored

theorem putTransactions_stored {transactions : List Transaction} {tx : Transaction} (member : tx ∈ transactions) :
    (store.putTransactions owner transactions).transaction? owner tx.uuid ≠ none := by
  induction transactions generalizing store with
  | nil => cases member
  | cons first transactions ih =>
    rcases List.mem_cons.mp member with rfl | later
    · apply putTransactions_ne_none (store.putTransaction owner tx)
      simp
    · exact ih (store.putTransaction owner first) later

@[simp] theorem account?_removeTransactions (ids : List TransactionId) (id : AccountId) :
    (store.removeTransactions owner ids).account? id = store.account? id := by
  induction ids generalizing store with
  | nil => rfl
  | cons removed ids ih => exact ih (store.removeTransaction owner removed)

@[simp] theorem transaction?_removeTransactions (ids : List TransactionId) (other : AccountId)
    (id : TransactionId) :
    (store.removeTransactions owner ids).transaction? other id =
      if other = owner ∧ id ∈ ids then none else store.transaction? other id := by
  induction ids generalizing store with
  | nil => simp [removeTransactions]
  | cons removed ids ih =>
    have tail := ih (store.removeTransaction owner removed)
    calc
      _ = if other = owner ∧ id ∈ ids then none
          else (store.removeTransaction owner removed).transaction? other id := tail
      _ = _ := by
        simp only [transaction?_removeTransaction, List.mem_cons]
        split <;> split <;> simp_all

theorem putAccount_same {record : Account} (found : store.account? record.uuid = some record) :
    store.putAccount record = store := by
  apply ext_lookup
  · intro id
    by_cases same : id = record.uuid
    · subst same
      simp [found]
    · simp [same]
  · intro account id
    rfl

def holding (record : Account) (chain : List Transaction) : Store :=
  (Store.empty.putAccount record).putTransactions record.uuid chain

variable {record : Account} {chain : List Transaction}

theorem holding_account : (holding record chain).account? record.uuid = some record := by
  simp [holding]

theorem holding_other {id : AccountId} (differ : id ≠ record.uuid) :
    (holding record chain).account? id = none := by
  rw [holding, account?_putTransactions, account?_putAccount, if_neg differ]
  simp [account?, empty]

theorem holding_absent (other : AccountId) {id : TransactionId} (absent : id ∉ chain.map Transaction.uuid) :
    (holding record chain).transaction? other id = none :=
  transaction?_putTransactions_absent _ record.uuid chain fun _ => absent

theorem mem_of_holding {other : AccountId} {id : TransactionId} {tx : Transaction}
    (stored : (holding record chain).transaction? other id = some tx) : tx ∈ chain := by
  rcases of_transaction?_putTransactions _ record.uuid stored with before | member
  · cases before
  · exact member

theorem holding_read (linked : LinkedOn Transaction.uuid Transaction.parent [] chain)
    (nonempty : ∀ tx ∈ chain, tx.uuid ≠ []) (distinct : (chain.map Transaction.uuid).Nodup) :
    (holding record chain).ChainAt record.uuid (tip Transaction.uuid [] chain) chain :=
  ⟨rfl, linked, fun tx member =>
    ⟨nonempty tx member, transaction?_putTransactions_mem _ record.uuid distinct member⟩⟩

end Store

end Flouze
