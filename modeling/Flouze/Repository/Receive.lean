import Flouze.Repository.Chain

namespace Flouze

open Linked Repository

def Store.received (store : Store) (record : Account) (batch : List Transaction) : Store :=
  (store.putTransactions record.uuid batch).putAccount
    { record with latestTransaction := tip Transaction.uuid record.latestTransaction batch }

section Receive

variable {store : Store} {id : AccountId} {record : Account} {batch : List Transaction}

theorem addTransactions_run (store : Store) (account : AccountId) (transactions : List Transaction) :
    transactions.forM (fun tx => (addTransaction account tx : Routine Store ErrorKind Unit)) store =
      (.ok (), store.putTransactions account transactions) :=
  Routine.forM_ok _ (fun store tx => store.putTransaction account tx) (fun _ _ => rfl) transactions store

theorem receive_missing (missing : store.account? id = none) :
    receiveTransactions id batch store = (.err (.noSuchAccount id), store) := by
  unfold receiveTransactions
  exact Routine.bind_err (by rw [Routine.view_apply, Store.getAccount_none missing])

theorem receive_mustRebase {first : Transaction} {rest : List Transaction}
    (found : store.account? id = some record) (differ : record.latestTransaction ≠ first.parent) :
    receiveTransactions id (first :: rest) store = (.err .mustRebase, store) := by
  unfold receiveTransactions
  rw [Routine.bind_ok (by rw [Routine.view_apply, Store.getAccount_some found])]
  simp [differ]

theorem receive_inconsistent {first : Transaction} {rest : List Transaction}
    (found : store.account? id = some record) (same : record.latestTransaction = first.parent)
    (unlinked : ¬ LinkedOn Transaction.uuid Transaction.parent record.latestTransaction (first :: rest)) :
    receiveTransactions id (first :: rest) store = (.err .inconsistentChain, store) := by
  have inconsistent : checkChainConsistency (first :: rest) = false := by
    rw [Bool.eq_false_iff]
    intro consistent
    rcases (checkChainConsistency_iff _).mp consistent with ⟨base, linked⟩
    exact unlinked ⟨same.symm, linked.2⟩
  unfold receiveTransactions
  rw [Routine.bind_ok (by rw [Routine.view_apply, Store.getAccount_some found])]
  simp [same, inconsistent]

theorem receive_accepted (found : store.account? id = some record)
    (linked : LinkedOn Transaction.uuid Transaction.parent record.latestTransaction batch) :
    receiveTransactions id batch store = (.ok (), store.received record batch) := by
  have owner : record.uuid = id := Store.uuid_of_account? found
  unfold receiveTransactions
  rw [Routine.bind_ok (by rw [Routine.view_apply, Store.getAccount_some found])]
  cases batch with
  | nil =>
    have kept : store.putAccount record = store := store.putAccount_same (owner ▸ found)
    simp [Store.received, Store.putTransactions, kept]
  | cons first rest =>
    have consistent : checkChainConsistency (first :: rest) = true :=
      (checkChainConsistency_iff _).mpr ⟨_, linked⟩
    have same : record.latestTransaction = first.parent := linked.1.symm
    have last : tip Transaction.uuid record.latestTransaction (first :: rest) =
        ((first :: rest).getLast (List.cons_ne_nil first rest)).uuid := by
      rw [tip_eq_getLast?, List.getLast?_eq_getLast_of_ne_nil (List.cons_ne_nil first rest)]
      rfl
    have stored : (store.putTransactions record.uuid (first :: rest)).account? record.uuid = some record := by
      rw [Store.account?_putTransactions, owner, found]
    simp only [same, ne_eq, not_true_eq_false, ite_false, consistent, Bool.not_true, Bool.false_eq_true]
    rw [Routine.bind_ok (addTransactions_run store record.uuid (first :: rest)),
      Store.setLatestTransaction_some stored, ← last]
    rfl

theorem receive_cases (store : Store) (id : AccountId) (batch : List Transaction) :
    (∃ error, receiveTransactions id batch store = (.err error, store)) ∨
    (∃ record, store.account? id = some record ∧
      LinkedOn Transaction.uuid Transaction.parent record.latestTransaction batch ∧
      receiveTransactions id batch store = (.ok (), store.received record batch)) := by
  cases found : store.account? id with
  | none => exact .inl ⟨_, receive_missing found⟩
  | some record =>
    by_cases linked : LinkedOn Transaction.uuid Transaction.parent record.latestTransaction batch
    · exact .inr ⟨record, rfl, linked, receive_accepted found linked⟩
    · left
      cases batch with
      | nil => exact absurd True.intro linked
      | cons first rest =>
        by_cases same : record.latestTransaction = first.parent
        · exact ⟨_, receive_inconsistent found same linked⟩
        · exact ⟨_, receive_mustRebase found same⟩

end Receive

namespace Store

variable {store : Store} {id : AccountId} {record : Account} {batch : List Transaction}

theorem account?_received (other : AccountId) :
    (store.received record batch).account? other =
      if other = record.uuid then
        some { record with latestTransaction := tip Transaction.uuid record.latestTransaction batch }
      else store.account? other := by
  simp [received]

theorem transaction?_received_absent {other : AccountId} {tx : TransactionId}
    (absent : other = record.uuid → tx ∉ batch.map Transaction.uuid) :
    (store.received record batch).transaction? other tx = store.transaction? other tx := by
  simpa [received] using store.transaction?_putTransactions_absent record.uuid batch absent

theorem transaction?_received_mem {tx : Transaction}
    (distinct : (batch.map Transaction.uuid).Nodup) (member : tx ∈ batch) :
    (store.received record batch).transaction? record.uuid tx.uuid = some tx := by
  simpa [received] using store.transaction?_putTransactions_mem record.uuid distinct member

theorem ChainAt.received {chain : List Transaction}
    (read : store.ChainAt record.uuid record.latestTransaction chain)
    (linked : LinkedOn Transaction.uuid Transaction.parent record.latestTransaction batch)
    (nonempty : ∀ tx ∈ batch, tx.uuid ≠ []) (distinct : (batch.map Transaction.uuid).Nodup)
    (fresh : ∀ tx ∈ batch, tx.uuid ∉ chain.map Transaction.uuid) :
    (store.received record batch).ChainAt record.uuid
      (tip Transaction.uuid record.latestTransaction batch) (chain ++ batch) := by
  apply Chained.push read linked
  · intro tx member
    exact ⟨nonempty tx member, transaction?_received_mem distinct member⟩
  · intro tx member
    apply transaction?_received_absent
    intro _ again
    rcases List.mem_map.mp again with ⟨sent, present, same⟩
    exact fresh sent present (same ▸ List.mem_map_of_mem member)

theorem ChainAt.received_other {other : AccountId} {head : TransactionId} {chain : List Transaction}
    (read : store.ChainAt other head chain) (differ : other ≠ record.uuid) :
    (store.received record batch).ChainAt other head chain :=
  Chained.congr read fun _ _ => transaction?_received_absent fun same => absurd same differ

end Store

section Children

variable {store : Store} {id : AccountId} {record : Account} {chain : List Transaction}

theorem getChild_unknown {base : TransactionId} (nonempty : base ≠ [])
    (missing : store.transaction? id base = none) :
    getChildTransactions id base store = .err (.noSuchTransaction base) := by
  unfold getChildTransactions
  simp [nonempty, Store.getTransaction_none missing]

theorem getChild_known {base : TransactionId} (found : store.account? id = some record)
    (read : store.ChainAt id record.latestTransaction chain)
    (known : base ≠ [] → ∃ tx, store.transaction? id base = some tx) :
    getChildTransactions id base store = .ok (since Transaction.uuid base chain) := by
  have owner : record.uuid = id := Store.uuid_of_account? found
  have collected := collect_since (owner ▸ read) base
  unfold getChildTransactions
  by_cases empty : base = []
  · subst empty
    simp [Store.getAccount_some found, collected]
  · rcases known empty with ⟨tx, stored⟩
    simp [empty, Store.getTransaction_some stored, Store.getAccount_some found, collected]

theorem getChild_after {older newer : List Transaction} (found : store.account? id = some record)
    (read : store.ChainAt id record.latestTransaction (older ++ newer)) :
    getChildTransactions id (tip Transaction.uuid [] older) store = .ok newer := by
  have known : tip Transaction.uuid [] older ≠ [] →
      ∃ tx, store.transaction? id (tip Transaction.uuid [] older) = some tx := by
    intro nonempty
    have some : older ≠ [] := fun empty => nonempty (by simp [empty])
    rcases List.mem_map.mp (tip_mem Transaction.uuid [] some) with ⟨tx, member, same⟩
    exact ⟨tx, same ▸ (read.stored tx (List.mem_append_left _ member)).2⟩
  rw [getChild_known found read known]
  exact congrArg Outcome.ok (Chained.since_tip read)

end Children

section RoundTrip

variable {store : Store} {id : AccountId} {record : Account} {chain batch : List Transaction}

theorem receive_ok_iff (found : store.account? id = some record) :
    (receiveTransactions id batch store).1 = .ok () ↔
      LinkedOn Transaction.uuid Transaction.parent record.latestTransaction batch := by
  constructor
  · intro returns
    rcases receive_cases store id batch with ⟨error, run⟩ | ⟨stored, found', linked, _⟩
    · rw [run] at returns
      cases returns
    · obtain rfl := Option.some.inj (found.symm.trans found')
      exact linked
  · intro linked
    rw [receive_accepted found linked]

theorem receive_refused (found : store.account? id = some record)
    (unlinked : ¬ LinkedOn Transaction.uuid Transaction.parent record.latestTransaction batch) :
    receiveTransactions id batch store = (.err .mustRebase, store) ∨
      receiveTransactions id batch store = (.err .inconsistentChain, store) := by
  cases batch with
  | nil => exact absurd True.intro unlinked
  | cons first rest =>
    by_cases same : record.latestTransaction = first.parent
    · exact .inr (receive_inconsistent found same unlinked)
    · exact .inl (receive_mustRebase found same)

/-- Whatever is received can be read back from any point of the history, old or new. -/
theorem receive_read_back (found : store.account? id = some record)
    (read : store.ChainAt id record.latestTransaction chain) (nonempty : ∀ tx ∈ batch, tx.uuid ≠ [])
    (distinct : (batch.map Transaction.uuid).Nodup)
    (fresh : ∀ tx ∈ batch, store.transaction? id tx.uuid = none) :
    ((receiveTransactions id batch store).1 = .ok () ↔
      batch = [] ∨ LinkedOn Transaction.uuid Transaction.parent record.latestTransaction batch) ∧
    ((receiveTransactions id batch store).1 ≠ .ok () →
      receiveTransactions id batch store = (.err .mustRebase, store) ∨
        receiveTransactions id batch store = (.err .inconsistentChain, store)) ∧
    ((receiveTransactions id batch store).1 = .ok () →
      ∀ base, base = [] ∨ base ∈ (chain ++ batch).map Transaction.uuid →
        ∃ older newer, older ++ newer = chain ++ batch ∧ tip Transaction.uuid [] older = base ∧
          getChildTransactions id base (receiveTransactions id batch store).2 = .ok newer) := by
  refine ⟨?_, ?_, ?_⟩
  · rw [receive_ok_iff found]
    constructor
    · exact .inr
    · intro given
      rcases given with rfl | linked
      · exact True.intro
      · exact linked
  · intro failed
    exact receive_refused found (mt (receive_ok_iff found).mpr failed)
  · intro returns base known
    have linked := (receive_ok_iff found).mp returns
    obtain rfl : record.uuid = id := Store.uuid_of_account? found
    have apart : ∀ tx ∈ batch, tx.uuid ∉ chain.map Transaction.uuid := by
      intro tx member again
      rcases List.mem_map.mp again with ⟨other, present, same⟩
      have stored := (read.stored other present).2
      rw [same, fresh tx member] at stored
      cases stored
    have after := read.received linked nonempty distinct apart
    have found' : (store.received record batch).account? record.uuid = some
        { record with latestTransaction := tip Transaction.uuid record.latestTransaction batch } := by
      rw [Store.account?_received, if_pos rfl]
    rcases split_at_key Transaction.uuid known with ⟨older, newer, split, at_base⟩
    rw [receive_accepted found linked]
    refine ⟨older, newer, split, at_base, ?_⟩
    rw [← split] at after
    rw [← at_base]
    exact getChild_after found' after

theorem receive_read_back_second :
    let store := Store.holding { makeAccount [7] with latestTransaction := [0] } [makeTransaction [0] []]
    getChildTransactions [7] [0] (receiveTransactions [7] [makeTransaction [1] [0]] store).2 =
      .ok [makeTransaction [1] [0]] := by
  intro store
  have found : store.account? [7] = some { makeAccount [7] with latestTransaction := [0] } :=
    Store.holding_account
  have read : store.ChainAt [7] [0] [makeTransaction [0] []] :=
    Store.holding_read (by decide) (by decide) (by decide)
  have accepted : (receiveTransactions [7] [makeTransaction [1] [0]] store).1 = .ok () := by decide
  obtain ⟨older, newer, split, at_base, run⟩ := (receive_read_back found read (by decide) (by decide)
    (by decide)).2.2 accepted [0] (.inr (by decide))
  have cut : newer = [makeTransaction [1] [0]] := by
    rcases older with _ | ⟨first, _ | ⟨second, rest⟩⟩
    · cases at_base
    · simpa using congrArg List.tail split
    · simp only [List.cons_append, List.nil_append, List.cons.injEq] at split
      rcases split with ⟨rfl, rfl, none⟩
      rcases List.append_eq_nil_iff.mp none with ⟨rfl, rfl⟩
      simp [makeTransaction] at at_base
  rw [cut] at run
  exact run

end RoundTrip

end Flouze
