import Flouze.Lib.Faults
import Flouze.Repository.Receive

namespace Flouze

open Linked Repository

def writeError : ErrorKind := .storage "write failed"

instance {σ : Type} [Repository σ] : Repository (Faulty σ) where
  addAccount account := Faulty.write writeError (Repository.addAccount account)
  getAccount id := fun repo => Repository.getAccount id repo.store
  deleteAccount id := Faulty.write writeError (Repository.deleteAccount id)
  listAccounts := fun repo => Repository.listAccounts repo.store
  setLatestTransaction id tx := Faulty.write writeError (Repository.setLatestTransaction id tx)
  setLatestSynchronizedTransaction id tx :=
    Faulty.write writeError (Repository.setLatestSynchronizedTransaction id tx)
  addTransaction account tx := Faulty.write writeError (Repository.addTransaction account tx)
  getTransaction account id := fun repo => Repository.getTransaction account id repo.store
  deleteTransaction account id := Faulty.write writeError (Repository.deleteTransaction account id)
  flush := Faulty.write writeError Repository.flush
  transactionCount := fun repo => Repository.transactionCount repo.store

namespace Store

variable {store store' : Store} {id : AccountId} {batch : List Transaction}

theorem putTransactions_congr (accounts : ∀ other, store'.account? other = store.account? other)
    (transactions : ∀ other key, (other = id ∧ key ∈ batch.map Transaction.uuid) ∨
      store'.transaction? other key = store.transaction? other key) :
    store'.putTransactions id batch = store.putTransactions id batch := by
  induction batch generalizing store store' with
  | nil =>
    refine ext_lookup accounts fun other key => ?_
    rcases transactions other key with ⟨_, none⟩ | same
    · cases none
    · exact same
  | cons tx batch ih =>
    show (store'.putTransaction id tx).putTransactions id batch = (store.putTransaction id tx).putTransactions id batch
    refine ih accounts ?_
    intro other key
    rw [transaction?_putTransaction, transaction?_putTransaction]
    by_cases here : other = id ∧ key = tx.uuid
    · exact .inr (by rw [if_pos here, if_pos here])
    · rw [if_neg here, if_neg here]
      rcases transactions other key with ⟨owner, member⟩ | same
      · exact .inl ⟨owner, (List.mem_cons.mp member).resolve_left fun first => here ⟨owner, first⟩⟩
      · exact .inr same

theorem putTransactions_again (store : Store) (id : AccountId) (batch : List Transaction) (k : Nat) :
    (store.putTransactions id (batch.take k)).putTransactions id batch = store.putTransactions id batch := by
  refine putTransactions_congr (account?_putTransactions store id _) fun other key => ?_
  by_cases owner : other = id
  · by_cases member : key ∈ batch.map Transaction.uuid
    · exact .inl ⟨owner, member⟩
    · refine .inr (store.transaction?_putTransactions_absent id _ fun _ part => member ?_)
      exact (List.map_subset _ (List.take_subset k batch)) part
  · exact .inr (store.transaction?_putTransactions_absent id _ fun same => absurd same owner)

theorem chain_putTransactions_iff {chain : List Transaction} (read : store.Chain id chain)
    (apart : ∀ tx ∈ batch, tx.uuid ∉ chain.map Transaction.uuid) (other : AccountId) (chain' : List Transaction) :
    (store.putTransactions id batch).Chain other chain' ↔ store.Chain other chain' := by
  have same : ∀ key, (other = id → key ∈ chain.map Transaction.uuid) →
      (store.putTransactions id batch).transaction? other key = store.transaction? other key := by
    intro key known
    apply store.transaction?_putTransactions_absent id batch
    intro owner again
    rcases List.mem_map.mp again with ⟨tx, member, rfl⟩
    exact apart tx member (known owner)
  unfold Chain
  rw [account?_putTransactions]
  by_cases owner : other = id
  · subst owner
    rcases read with ⟨record, found, read⟩
    have kept : (store.putTransactions other batch).ChainAt other record.latestTransaction chain :=
      Chained.congr read fun tx member => same tx.uuid fun _ => List.mem_map_of_mem member
    constructor
    · intro given
      rcases given with ⟨record', found', read'⟩
      obtain rfl := Option.some.inj (found.symm.trans found')
      obtain rfl := Chained.unique kept read'
      exact ⟨record, found, read⟩
    · intro given
      rcases given with ⟨record', found', read'⟩
      obtain rfl := Option.some.inj (found.symm.trans found')
      obtain rfl := Chained.unique read read'
      exact ⟨record, found, kept⟩
  · constructor
    · intro given
      rcases given with ⟨record, found, read'⟩
      exact ⟨record, found, Chained.congr read' fun tx _ => (same tx.uuid fun here => absurd here owner).symm⟩
    · intro given
      rcases given with ⟨record, found, read'⟩
      exact ⟨record, found, Chained.congr read' fun tx _ => same tx.uuid fun here => absurd here owner⟩

end Store

section Runs

variable {store : Store} {id : AccountId} {record : Account} {batch : List Transaction} {left : Option Nat}

theorem view_faulty (left : Option Nat) (found : store.account? id = some record) :
    (Routine.view (getAccount id) : Routine (Faulty Store) ErrorKind Account) ⟨store, left⟩ =
      (.ok record, ⟨store, left⟩) :=
  congrArg (Prod.mk · _) (Store.getAccount_some found)

theorem receive_nil (found : store.account? id = some record) :
    receiveTransactions id [] store = (.ok (), store) := by
  unfold receiveTransactions
  rw [Routine.bind_ok (by rw [Routine.view_apply, Store.getAccount_some found])]
  rfl

theorem addTransactions_after (store : Store) (account : AccountId) (transactions : List Transaction) :
    Machine.after (Routine.effect fun tx => (addTransaction account tx : Routine Store ErrorKind Unit))
      transactions store = store.putTransactions account transactions := rfl

theorem addTransactions_succeed (store : Store) (account : AccountId) (transactions : List Transaction) :
    Routine.Succeed (fun tx => (addTransaction account tx : Routine Store ErrorKind Unit)) transactions store := by
  induction transactions generalizing store with
  | nil => exact True.intro
  | cons tx transactions ih => exact ⟨rfl, ih (store.putTransaction account tx)⟩

theorem receive_cut (found : store.account? id = some record) (nonempty : batch ≠ [])
    (linked : LinkedOn Transaction.uuid Transaction.parent record.latestTransaction batch) {k : Nat}
    (short : k ≤ batch.length) :
    receiveTransactions id batch (⟨store, some k⟩ : Faulty Store) =
      (.err writeError, ⟨store.putTransactions record.uuid (batch.take k), none⟩) := by
  have consistent : checkChainConsistency batch = true := (checkChainConsistency_iff _).mpr ⟨_, linked⟩
  have succeed := addTransactions_succeed store record.uuid batch
  cases batch with
  | nil => exact absurd rfl nonempty
  | cons first rest =>
    have same : record.latestTransaction = first.parent := linked.1.symm
    unfold receiveTransactions
    rw [Routine.bind_ok (view_faulty (some k) found)]
    simp only [same, ne_eq, not_true_eq_false, ite_false, consistent, Bool.not_true, Bool.false_eq_true]
    rcases Nat.lt_or_eq_of_le short with early | rfl
    · exact Routine.bind_err (Faulty.forM_cut writeError succeed early)
    · have written := Faulty.forM_spared writeError succeed fun k (here : some (first :: rest).length = some k) =>
        Nat.le_of_eq (Option.some.inj here)
      rw [List.take_length]
      refine (Routine.bind_ok written).trans ?_
      simp [Repository.setLatestTransaction, Faulty.write, addTransactions_after]

theorem receive_spared (found : store.account? id = some record)
    (linked : LinkedOn Transaction.uuid Transaction.parent record.latestTransaction batch)
    (enough : ∀ k, left = some k → batch = [] ∨ batch.length < k) :
    ∃ left', (left' = none ↔ left = none) ∧ receiveTransactions id batch (⟨store, left⟩ : Faulty Store) =
      (.ok (), ⟨store.received record batch, left'⟩) := by
  have consistent : checkChainConsistency batch = true := (checkChainConsistency_iff _).mpr ⟨_, linked⟩
  have succeed := addTransactions_succeed store record.uuid batch
  cases batch with
  | nil =>
    refine ⟨left, Iff.rfl, ?_⟩
    have kept : store = store.received record [] :=
      congrArg Prod.snd ((receive_nil found).symm.trans (receive_accepted found True.intro))
    rw [← kept]
    unfold receiveTransactions
    rw [Routine.bind_ok (view_faulty left found)]
    rfl
  | cons first rest =>
    have same : record.latestTransaction = first.parent := linked.1.symm
    have owner : record.uuid = id := Store.uuid_of_account? found
    have late : ∀ k, left = some k → (first :: rest).length < k := fun k here =>
      (enough k here).resolve_left (List.cons_ne_nil first rest)
    have written := Faulty.forM_spared writeError succeed fun k (here : left = some k) =>
      Nat.le_of_lt (late k here)
    have last : tip Transaction.uuid record.latestTransaction (first :: rest) =
        ((first :: rest).getLast (List.cons_ne_nil first rest)).uuid := by
      rw [tip_eq_getLast?, List.getLast?_eq_getLast_of_ne_nil (List.cons_ne_nil first rest)]
      rfl
    have stored : (store.putTransactions record.uuid (first :: rest)).account? record.uuid = some record := by
      rw [Store.account?_putTransactions, owner, found]
    refine ⟨left.map (· - ((first :: rest).length + 1)), by simp, ?_⟩
    unfold receiveTransactions
    rw [Routine.bind_ok (view_faulty left found)]
    simp only [same, ne_eq, not_true_eq_false, ite_false, consistent, Bool.not_true, Bool.false_eq_true]
    refine (Routine.bind_ok written).trans ?_
    rw [← last, addTransactions_after]
    cases left with
    | none =>
      simp only [Repository.setLatestTransaction, Faulty.write, Option.map_none, stored]
      rfl
    | some k =>
      obtain ⟨rest', more⟩ : ∃ n, k - (first :: rest).length = n + 1 :=
        ⟨k - (first :: rest).length - 1, by have := late k rfl; omega⟩
      have after : k - ((first :: rest).length + 1) = rest' := by omega
      simp only [Repository.setLatestTransaction, Faulty.write, Option.map_some, more, after, stored]
      rfl

theorem receive_refuses (refused : ∀ record, store.account? id = some record →
      ¬ LinkedOn Transaction.uuid Transaction.parent record.latestTransaction batch) (left : Option Nat) :
    ∃ error, receiveTransactions id batch store = (.err error, store) ∧
      receiveTransactions id batch (⟨store, left⟩ : Faulty Store) = (.err error, ⟨store, left⟩) := by
  cases found : store.account? id with
  | none =>
    refine ⟨_, receive_missing found, ?_⟩
    unfold receiveTransactions
    exact Routine.bind_err (congrArg (Prod.mk · _) (Store.getAccount_none found))
  | some record =>
    have unlinked := refused record found
    cases batch with
    | nil => exact absurd True.intro unlinked
    | cons first rest =>
      by_cases same : record.latestTransaction = first.parent
      · have inconsistent : checkChainConsistency (first :: rest) = false := by
          rw [Bool.eq_false_iff]
          intro consistent
          rcases (checkChainConsistency_iff _).mp consistent with ⟨base, linked⟩
          exact unlinked ⟨same.symm, linked.2⟩
        refine ⟨_, receive_inconsistent found same unlinked, ?_⟩
        unfold receiveTransactions
        rw [Routine.bind_ok (view_faulty left found)]
        simp [same, inconsistent]
      · refine ⟨_, receive_mustRebase found same, ?_⟩
        unfold receiveTransactions
        rw [Routine.bind_ok (view_faulty left found)]
        simp [same]

theorem strikes_iff (k : Nat) :
    (receiveTransactions id batch (⟨store, some k⟩ : Faulty Store)).2.left = none ↔
      batch ≠ [] ∧ k ≤ batch.length ∧ ∃ record, store.account? id = some record ∧
        LinkedOn Transaction.uuid Transaction.parent record.latestTransaction batch := by
  by_cases accepted : ∃ record, store.account? id = some record ∧
      LinkedOn Transaction.uuid Transaction.parent record.latestTransaction batch
  · rcases accepted with ⟨record, found, linked⟩
    by_cases strikes : batch ≠ [] ∧ k ≤ batch.length
    · rw [receive_cut found strikes.1 linked strikes.2]
      exact iff_of_true rfl ⟨strikes.1, strikes.2, record, found, linked⟩
    · have late : ∀ n, some k = some n → batch = [] ∨ batch.length < n := by
        intro n same
        obtain rfl := Option.some.inj same
        by_cases empty : batch = []
        · exact .inl empty
        · exact .inr (Nat.lt_of_not_le fun short => strikes ⟨empty, short⟩)
      rcases receive_spared found linked late with ⟨left', spared, run⟩
      rw [run]
      refine iff_of_false ?_ fun all => strikes ⟨all.1, all.2.1⟩
      intro none
      cases spared.mp none
  · have refused : ∀ record, store.account? id = some record →
        ¬ LinkedOn Transaction.uuid Transaction.parent record.latestTransaction batch :=
      fun record found linked => accepted ⟨record, found, linked⟩
    rcases receive_refuses refused (some k) with ⟨error, _, run⟩
    rw [run]
    exact iff_of_false (by simp) fun all => accepted all.2.2

/-- Whichever write of a batch fails, nothing of the batch can be seen, and it can be sent again. -/
theorem half_written_batch {chain : List Transaction} (read : store.Chain id chain)
    (apart : ∀ tx ∈ batch, tx.uuid ∉ chain.map Transaction.uuid) (k : Nat) :
    let interrupted := receiveTransactions id batch (⟨store, some k⟩ : Faulty Store)
    interrupted.2.left = none →
      (∃ error, interrupted.1 = .err error) ∧
      (∀ other, interrupted.2.store.account? other = store.account? other) ∧
      (∀ other chain', interrupted.2.store.Chain other chain' ↔ store.Chain other chain') ∧
      (∀ other, other ≠ id → ∀ key, interrupted.2.store.transaction? other key = store.transaction? other key) ∧
      receiveTransactions id batch interrupted.2.store = receiveTransactions id batch store := by
  intro interrupted struck
  rcases (strikes_iff k).mp struck with ⟨nonempty, short, record, found, linked⟩
  have owner : record.uuid = id := Store.uuid_of_account? found
  have cut : interrupted = (.err writeError, ⟨store.putTransactions record.uuid (batch.take k), none⟩) :=
    receive_cut found nonempty linked short
  have part : ∀ tx ∈ batch.take k, tx.uuid ∉ chain.map Transaction.uuid :=
    fun tx member => apart tx (List.mem_of_mem_take member)
  have kept : (store.putTransactions record.uuid (batch.take k)).account? id = some record := by
    rw [Store.account?_putTransactions, found]
  rw [cut]
  refine ⟨⟨_, rfl⟩, Store.account?_putTransactions store _ _, ?_, ?_, ?_⟩
  · exact Store.chain_putTransactions_iff (owner ▸ read) part
  · intro other differ key
    exact store.transaction?_putTransactions_absent record.uuid _ fun same => absurd (same.trans owner) differ
  · rw [receive_accepted kept linked, receive_accepted found linked, Store.received, Store.received,
      Store.putTransactions_again]

theorem half_written_pair :
    let store := Store.holding { makeAccount [7] with latestTransaction := [0] } [makeTransaction [0] []]
    let batch := [makeTransaction [1] [0], makeTransaction [2] [1]]
    let interrupted := receiveTransactions [7] batch (⟨store, some 1⟩ : Faulty Store)
    interrupted.2.store.transaction? [7] [1] = some (makeTransaction [1] [0]) ∧
    interrupted.2.store.Chain [7] [makeTransaction [0] []] ∧
    receiveTransactions [7] batch interrupted.2.store = receiveTransactions [7] batch store := by
  intro store batch interrupted
  have read : store.Chain [7] [makeTransaction [0] []] :=
    ⟨_, Store.holding_account, Store.holding_read (by decide) (by decide) (by decide)⟩
  have apart : ∀ tx ∈ batch, tx.uuid ∉ [makeTransaction [0] []].map Transaction.uuid := by decide
  rcases half_written_batch read apart 1 (by decide) with ⟨_, _, chains, _, again⟩
  exact ⟨by decide, (chains _ _).mpr read, again⟩

end Runs

end Flouze
