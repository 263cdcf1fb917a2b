import Flouze.Repository.Interrupted
import Flouze.Server

namespace Flouze

open Linked Repository

/-- What makes and changes the accounts of a store. Of the writes of a batch one may fail. -/
inductive StoreStep where
  | addAccount (account : Account)
  | createAccount (account : Account)
  | receiveTransactions (accountId : AccountId) (transactions : List Transaction) (failing : Option Nat)
  | deleteAccount (accountId : AccountId)

namespace StoreStep

def perform : StoreStep → Store → Store
  | addAccount account, store => (Repository.addAccount account store).2
  | createAccount account, store => (ServerRpcImpl.createAccount account store).2
  | receiveTransactions id batch failing, store =>
    (Flouze.receiveTransactions id batch (⟨store, failing⟩ : Faulty Store)).2.store
  | deleteAccount id, store => (Repository.deleteAccount id store).2

/-- Nothing is left behind that an account does not lead to: an account starts with nothing stored
    under its id, a batch fails at its first write if it does, and its ids are not null. -/
def Tidy : StoreStep → Store → Prop
  | addAccount account, store => ∀ key, store.transaction? account.uuid key = none
  | createAccount account, store =>
    store.account? account.uuid = none → ∀ key, store.transaction? account.uuid key = none
  | receiveTransactions _ batch failing, _ =>
    (∀ tx ∈ batch, tx.uuid ≠ []) ∧ ∀ k, failing = some k → k = 0 ∨ batch.length < k
  | deleteAccount _, _ => True

end StoreStep

/-- What a reader that has everything up to `base` may be told: what came after it, or that it has
    something else. -/
def Continues (chain : List Transaction) (base : TransactionId) : Outcome ErrorKind (List Transaction) → Prop
  | .ok newer =>
    (base = [] ∨ base ∈ chain.map Transaction.uuid) ∧
    LinkedOn Transaction.uuid Transaction.parent base newer ∧
    tip Transaction.uuid base newer = tip Transaction.uuid [] chain ∧
    (newer = [] → base = tip Transaction.uuid [] chain)
  | .err _ => ¬ (base = [] ∨ base ∈ chain.map Transaction.uuid)
  | .hang => False

instance (chain : List Transaction) (base : TransactionId) : (answer : Outcome ErrorKind (List Transaction)) →
    Decidable (Continues chain base answer)
  | .ok newer => inferInstanceAs (Decidable (
    (base = [] ∨ base ∈ chain.map Transaction.uuid) ∧
    LinkedOn Transaction.uuid Transaction.parent base newer ∧
    tip Transaction.uuid base newer = tip Transaction.uuid [] chain ∧
    (newer = [] → base = tip Transaction.uuid [] chain)))
  | .err _ => inferInstanceAs (Decidable (¬ (base = [] ∨ base ∈ chain.map Transaction.uuid)))
  | .hang => inferInstanceAs (Decidable False)

def Store.AllOnChain (store : Store) : Prop :=
  ∀ id chain, store.Chain id chain → ∀ key, store.transaction? id key ≠ none → key ∈ chain.map Transaction.uuid

section Answers

variable {store : Store} {id : AccountId} {record : Account} {chain : List Transaction}

theorem getChild_continues (found : store.account? id = some record)
    (read : store.ChainAt id record.latestTransaction chain) {base : TransactionId}
    (known : base = [] ∨ base ∈ chain.map Transaction.uuid) :
    Continues chain base (getChildTransactions id base store) := by
  rcases split_at_key Transaction.uuid known with ⟨older, newer, rfl, rfl⟩
  rw [getChild_after found read]
  refine ⟨known, read.newer_linked, (tip_append _ _ _ _).symm, ?_⟩
  intro same
  subst same
  rw [List.append_nil]

theorem getChild_leftover (found : store.account? id = some record)
    (read : store.ChainAt id record.latestTransaction chain) {base : TransactionId}
    (stored : store.transaction? id base ≠ none) (apart : base ∉ chain.map Transaction.uuid) :
    getChildTransactions id base store = .ok chain := by
  rcases Option.ne_none_iff_exists'.mp stored with ⟨tx, present⟩
  rw [getChild_known found read fun _ => ⟨tx, present⟩, since_absent]
  intro other member same
  exact apart (same ▸ List.mem_map_of_mem member)

theorem continues_iff (found : store.account? id = some record)
    (read : store.ChainAt id record.latestTransaction chain) (base : TransactionId) :
    Continues chain base (getChildTransactions id base store) ↔
      base = [] ∨ base ∈ chain.map Transaction.uuid ∨ store.transaction? id base = none := by
  by_cases known : base = [] ∨ base ∈ chain.map Transaction.uuid
  · exact iff_of_true (getChild_continues found read known) (or_assoc.mp (.inl known))
  · rw [← or_assoc, or_iff_right known]
    constructor
    · intro continues
      apply Classical.byContradiction
      intro stored
      rw [getChild_leftover found read stored fun member => known (.inr member)] at continues
      exact known continues.1
    · intro missing
      rw [getChild_unknown (fun empty => known (.inl empty)) missing]
      exact known

end Answers

section Runs

variable {store : Store} {id : AccountId} {record : Account} {chain batch : List Transaction}

theorem Store.transaction?_putTransactions_last (store : Store) (owner : AccountId)
    {before after : List Transaction} {tx : Transaction} (last : tx.uuid ∉ after.map Transaction.uuid) :
    (store.putTransactions owner (before ++ tx :: after)).transaction? owner tx.uuid = some tx := by
  have split : store.putTransactions owner (before ++ tx :: after) =
      ((store.putTransactions owner before).putTransaction owner tx).putTransactions owner after := by
    simp [Store.putTransactions]
  rw [split, transaction?_putTransactions_absent _ _ _ fun _ => last]
  simp

/-- A batch is on top of what could be read before, or nothing can be read. -/
theorem Store.ChainAt.received_pop
    (read : (store.received record batch).ChainAt record.uuid
      (tip Transaction.uuid record.latestTransaction batch) chain)
    (linked : LinkedOn Transaction.uuid Transaction.parent record.latestTransaction batch)
    (nonempty : ∀ tx ∈ batch, tx.uuid ≠ []) :
    ∃ older, chain = older ++ batch ∧ store.ChainAt record.uuid record.latestTransaction older := by
  refine Chained.pop read linked nonempty ?_ fun key absent => Store.transaction?_received_absent fun _ => absent
  intro before tx after split last
  rw [split]
  exact store.transaction?_putTransactions_last record.uuid last

theorem allOnChain_putAccount (all : store.AllOnChain) {account : Account}
    (none : ∀ key, store.transaction? account.uuid key = none) : (store.putAccount account).AllOnChain := by
  intro id chain given key stored
  rcases given with ⟨record, found, read⟩
  by_cases same : id = account.uuid
  · subst same
    exact absurd (none key) stored
  · rw [Store.account?_putAccount, if_neg same] at found
    exact all id chain ⟨record, found, read⟩ key stored

theorem allOnChain_received (all : store.AllOnChain) (found : store.account? id = some record)
    (linked : LinkedOn Transaction.uuid Transaction.parent record.latestTransaction batch)
    (nonempty : ∀ tx ∈ batch, tx.uuid ≠ []) : (store.received record batch).AllOnChain := by
  intro other chain given key stored
  rcases given with ⟨record', found', read⟩
  obtain rfl : record.uuid = id := Store.uuid_of_account? found
  rw [Store.account?_received] at found'
  by_cases same : other = record.uuid
  · subst same
    rw [if_pos rfl] at found'
    obtain rfl := Option.some.inj found'
    rcases read.received_pop linked nonempty with ⟨older, rfl, before⟩
    rw [List.map_append, List.mem_append]
    by_cases new : key ∈ batch.map Transaction.uuid
    · exact .inr new
    · rw [Store.transaction?_received_absent fun _ => new] at stored
      exact .inl (all record.uuid older ⟨record, found, before⟩ key stored)
  · rw [if_neg same] at found'
    have kept : ∀ key, (store.received record batch).transaction? other key = store.transaction? other key :=
      fun key => Store.transaction?_received_absent fun here => absurd here same
    rw [kept] at stored
    exact all other chain ⟨record', found', Chained.congr read fun tx _ => (kept tx.uuid).symm⟩ key stored

theorem StoreStep.perform_tidy (step : StoreStep) (store : Store) (all : store.AllOnChain)
    (tidy : step.Tidy store) : (step.perform store).AllOnChain := by
  cases step with
  | addAccount account => exact allOnChain_putAccount all tidy
  | createAccount account =>
    rcases ServerRpcImpl.createAccount_cases account store with ⟨error, run⟩ | ⟨missing, run⟩
    · rw [perform, run]
      exact all
    · rw [perform, run]
      exact allOnChain_putAccount all (tidy missing)
  | deleteAccount id =>
    cases found : store.account? id with
    | none =>
      rw [perform, Store.deleteAccount_none found]
      exact all
    | some record =>
      rw [perform, Store.deleteAccount_some found]
      intro other chain given key stored
      rcases given with ⟨record, found, read⟩
      rw [Store.account?_removeAccount] at found
      split at found
      · cases found
      · exact all other chain ⟨record, found, read⟩ key stored
  | receiveTransactions id batch failing =>
    rcases tidy with ⟨nonempty, strikes⟩
    by_cases accepted : ∃ record, store.account? id = some record ∧
        LinkedOn Transaction.uuid Transaction.parent record.latestTransaction batch
    · rcases accepted with ⟨record, found, linked⟩
      by_cases first : batch ≠ [] ∧ failing = some 0
      · rcases first with ⟨some, rfl⟩
        rw [perform, receive_cut found some linked (Nat.zero_le _)]
        exact all
      · obtain ⟨_, _, run⟩ := receive_spared found linked fun k (fails : failing = some k) => by
          by_cases empty : batch = []
          · exact .inl empty
          · exact .inr ((strikes k fails).resolve_left fun zero => first ⟨empty, zero ▸ fails⟩)
        rw [perform, run]
        exact allOnChain_received all found linked nonempty
    · rcases receive_refuses (fun record found linked => accepted ⟨record, found, linked⟩) failing with ⟨_, _, run⟩
      rw [perform, run]
      exact all

/-- In every state of a run, what a reader is told is wrong exactly if it names a transaction that is
    stored and not in the history. In a run that leaves none behind there is no such transaction. -/
theorem children_continue_iff {steps before later : List StoreStep} (split : steps = before ++ later)
    {record : Account} {chain : List Transaction} :
    let reached := Machine.after StoreStep.perform before Store.empty
    reached.account? id = some record → reached.ChainAt id record.latestTransaction chain →
      (∀ base, Continues chain base (getChildTransactions id base reached) ↔
        base = [] ∨ base ∈ chain.map Transaction.uuid ∨ reached.transaction? id base = none) ∧
      (Machine.Throughout StoreStep.perform StoreStep.Tidy steps Store.empty →
        ∀ base, Continues chain base (getChildTransactions id base reached)) := by
  intro reached found read
  refine ⟨continues_iff found read, fun tidy base => ?_⟩
  have start : Store.empty.AllOnChain := by
    intro id chain given
    rcases given with ⟨record, found, _⟩
    cases found
  have all : reached.AllOnChain := Machine.after_keeps Store.AllOnChain StoreStep.perform_tidy start tidy split
  rw [continues_iff found read]
  by_cases stored : reached.transaction? id base = none
  · exact .inr (.inr stored)
  · exact .inr (.inl (all id chain ⟨record, found, read⟩ base stored))

theorem children_continue_pair :
    let steps : List StoreStep := [.addAccount (makeAccount [7]),
      .receiveTransactions [7] [makeTransaction [0] [], makeTransaction [1] [0]] none]
    let reached := Machine.after StoreStep.perform steps Store.empty
    Continues [makeTransaction [0] [], makeTransaction [1] [0]] [0] (getChildTransactions [7] [0] reached) ∧
    ¬ Continues [makeTransaction [0] [], makeTransaction [1] [0]] [0] (.ok []) := by
  intro steps reached
  have found : reached.account? [7] = some { makeAccount [7] with latestTransaction := [1] } := by decide
  have read : reached.ChainAt [7] [1] [makeTransaction [0] [], makeTransaction [1] [0]] :=
    ⟨rfl, by decide, by decide⟩
  have tidy : Machine.Throughout StoreStep.perform StoreStep.Tidy steps Store.empty := by
    refine ⟨fun _ => rfl, ⟨by decide, ?_⟩, True.intro⟩
    intro k fails
    cases fails
  exact ⟨(children_continue_iff (List.append_nil steps).symm found read).2 tidy [0], by decide⟩

/-- The second write of a batch fails, another batch is accepted: the reader that has what was left of
    the first one is told to put the second on top of it. -/
theorem leftover_is_continued :
    let steps : List StoreStep := [.addAccount (makeAccount [7]),
      .receiveTransactions [7] [makeTransaction [0] [], makeTransaction [1] [0]] (some 1),
      .receiveTransactions [7] [makeTransaction [2] []] none]
    let reached := Machine.after StoreStep.perform steps Store.empty
    reached.account? [7] = some { makeAccount [7] with latestTransaction := [2] } ∧
    reached.ChainAt [7] [2] [makeTransaction [2] []] ∧
    getChildTransactions [7] [0] reached = .ok [makeTransaction [2] []] ∧
    ¬ Continues [makeTransaction [2] []] [0] (getChildTransactions [7] [0] reached) := by
  intro steps reached
  exact ⟨by decide, ⟨rfl, by decide, by decide⟩, by decide, by decide⟩

end Runs

end Flouze
