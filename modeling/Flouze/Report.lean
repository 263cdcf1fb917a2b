import Flouze.Repository.References
import Flouze.Repository.Settlement
import Flouze.Sync.Operations

namespace Flouze

open Linked Repository

namespace Operation

def Offers (store : Store) (id : AccountId) (replies : Nat → (call : RemoteCall) → call.Reply) : Prop :=
  ∀ record, store.account? id = some record → ∀ n base batch,
    replies n (.getChildTransactions id base) = .ok batch → ∀ tx ∈ batch, Balanced record.members tx

/-- The transactions that an operation brings in are balanced among the members of their account. -/
def Settles : Operation → Device Store → Prop
  | addAccount account, device | createAccount account, device =>
    ∀ tx, device.repo.transaction? account.uuid tx.uuid = some tx → Balanced account.members tx
  | deleteAccount _, _ => True
  | addTransaction id tx, device =>
    ∀ record, device.repo.account? id = some record → Balanced record.members tx
  | receiveTransactions id batch, device =>
    ∀ record, device.repo.account? id = some record → ∀ tx ∈ batch, Balanced record.members tx
  | sync id replies, device => Offers device.repo id replies
  | cloneRemote id replies, device =>
    ∀ account, replies 0 (.getAccountInfo id) = .ok account →
      (∀ tx, device.repo.transaction? account.uuid tx.uuid = some tx → Balanced account.members tx) ∧
      Offers (device.repo.putAccount
        { account with latestTransaction := [], latestSynchronizedTransaction := [] }) id replies

end Operation

def RemoteCall.Settles : RemoteCall → Store → Prop
  | createAccount account, store => (Operation.createAccount account).Settles ⟨store, 0⟩
  | receiveTransactions id batch, store => (Operation.receiveTransactions id batch).Settles ⟨store, 0⟩
  | getAccountInfo _, _ | getLatestTransaction _, _ | getChildTransactions _ _, _ => True

theorem balanced_kept (id : AccountId) (members : List Person) :
    KeptBySync Store.Balanced id members (Balanced members) where
  stored := by
    intro store txId tx given found
    rcases given with ⟨balanced, record, account, rfl⟩
    exact balanced id record account tx (Store.uuid_of_transaction? found ▸ found)
  moved _ _ balanced := balanced
  account := by
    rintro store account ⟨balanced, record, found, rfl⟩ rfl same
    refine balanced.putAccount fun tx present => ?_
    rw [same]
    exact balanced account.uuid record found tx present
  transaction := by
    intro store tx given balanced
    rcases given with ⟨balances, record, found, same⟩
    refine balances.putTransaction fun record' found' => ?_
    obtain rfl := Option.some.inj (found.symm.trans found')
    exact same ▸ balanced
  removed txId guarded := guarded.1.removeTransaction id txId

section Runs

variable {generate : Nat → TransactionId} {device : Device Store}

theorem sync_balanced {id : AccountId} {replies : Nat → (call : RemoteCall) → call.Reply}
    (balanced : device.repo.Balanced) (offers : Operation.Offers device.repo id replies) (calls : Nat) :
    ((sync generate id device).run (heard replies) calls).1.2.repo.Balanced :=
  sync_heard balanced (fun record _ => balanced_kept id record.members) offers calls

theorem apply_balanced (operation : Operation) (device : Device Store) (balanced : device.repo.Balanced)
    (settles : operation.Settles device) : (operation.apply generate device).repo.Balanced := by
  cases operation with
  | addAccount account => exact balanced.putAccount settles
  | createAccount account =>
    rcases ServerRpcImpl.createAccount_cases account device.repo with ⟨error, run⟩ | ⟨_, run⟩
    · simp only [Operation.apply, onRepo, run]
      exact balanced
    · simp only [Operation.apply, onRepo, run]
      exact balanced.putAccount settles
  | deleteAccount id =>
    cases found : device.repo.account? id with
    | none =>
      simp only [Operation.apply, onRepo, Store.deleteAccount_none found]
      exact balanced
    | some record =>
      simp only [Operation.apply, onRepo, Store.deleteAccount_some found]
      exact balanced.removeAccount id
  | addTransaction id tx =>
    have added := balanced.putTransaction settles
    cases found : device.repo.account? id with
    | none =>
      simp only [Operation.apply, onRepo, Ffi.addTransaction_missing tx found]
      exact added
    | some record =>
      have owner : record.uuid = id := Store.uuid_of_account? found
      simp only [Operation.apply, onRepo, Ffi.addTransaction_run tx found]
      subst owner
      exact added.moveAccount found rfl
  | receiveTransactions id batch =>
    rcases receive_cases device.repo id batch with ⟨error, run⟩ | ⟨record, found, _, run⟩
    · simp only [Operation.apply, onRepo, run]
      exact balanced
    · have owner : record.uuid = id := Store.uuid_of_account? found
      subst owner
      simp only [Operation.apply, onRepo, run]
      have added := balanced.putTransactions settles
      have kept : (device.repo.putTransactions record.uuid batch).account? record.uuid = some record := by
        simpa using found
      exact added.moveAccount kept rfl
  | sync id replies => exact sync_balanced balanced settles 0
  | cloneRemote id replies =>
    apply clone_heard balanced
    intro account reply
    rcases settles account reply with ⟨stored, offers⟩
    let entered : Device Store := { device with
      repo := device.repo.putAccount
        { account with latestTransaction := [], latestSynchronizedTransaction := [] } }
    have added : entered.repo.Balanced := balanced.putAccount stored
    exact sync_balanced added offers 1

theorem answer_balanced (call : RemoteCall) (store : Store) (balanced : store.Balanced) (settles : call.Settles store) :
    (ServerRpcImpl.answer call store).2.Balanced := by
  cases call with
  | createAccount account => exact @apply_balanced (numbered 0) (.createAccount account) ⟨store, 0⟩ balanced settles
  | receiveTransactions id batch =>
    exact @apply_balanced (numbered 0) (.receiveTransactions id batch) ⟨store, 0⟩ balanced settles
  | getAccountInfo _ => exact balanced
  | getLatestTransaction _ => exact balanced
  | getChildTransactions _ _ => exact balanced

theorem serve_balanced {calls : List RemoteCall} {store : Store} (balanced : store.Balanced)
    (settles : Machine.Throughout (fun call store => (ServerRpcImpl.answer call store).2) RemoteCall.Settles calls store) :
    (ServerRpcImpl.serve calls store).Balanced :=
  Machine.after_keeps Store.Balanced answer_balanced balanced settles (List.append_nil _).symm

/-- As long as what comes in is balanced, every account can be reported on in every state of a run. -/
theorem report_returns (order : IterationOrder) (generate : Nat → TransactionId) {device : Device Store}
    (balanced : device.repo.Balanced) {operations : List Operation}
    (settles : Machine.Throughout (Operation.apply generate) Operation.Settles operations device)
    {before later : List Operation} (split : operations = before ++ later) {id : AccountId} {record : Account}
    {balance : Balance} :
    let reached := (Machine.after (Operation.apply generate) before device).repo
    reached.account? id = some record → reached.Fits record → getBalance reached record = .ok balance →
      ∃ transfers, getTransfers order balance = .ok transfers := by
  intro reached found fits returns
  have kept : reached.Balanced :=
    Machine.after_keeps (fun device : Device Store => device.repo.Balanced) apply_balanced balanced settles split
  have owner : record.uuid = id := Store.uuid_of_account? found
  subst owner
  exact transfers_of_balanced order kept found fits returns

end Runs

def entering (id : AccountId) (members : List Person) (batch : List Transaction) : List Operation :=
  [.addAccount { makeAccount id with members := members }, .receiveTransactions id batch]

section Unbalanced

variable {generate : Nat → TransactionId} {id : AccountId} {members : List Person} {tx : Transaction}
variable {batch : List Transaction} {store : Store} {record : Account}

theorem entering_run (generate : Nat → TransactionId) (id : AccountId) (members : List Person)
    (linked : LinkedOn Transaction.uuid Transaction.parent [] batch)
    (nonempty : ∀ tx ∈ batch, tx.uuid ≠ []) (distinct : (batch.map Transaction.uuid).Nodup) :
    let record : Account := { makeAccount id with
      latestTransaction := tip Transaction.uuid [] batch, members := members }
    let reached := (Machine.after (Operation.apply generate) (entering id members batch) ⟨Store.empty, 0⟩).repo
    reached.account? id = some record ∧ reached.ChainAt id record.latestTransaction batch := by
  intro record reached
  let blank : Account := { makeAccount id with members := members }
  have found : (Store.empty.putAccount blank).account? id = some blank := by simp [blank, makeAccount]
  have run : reached = (Store.empty.putAccount blank).received blank batch :=
    congrArg Prod.snd (receive_accepted found linked)
  have read : (Store.empty.putAccount blank).ChainAt blank.uuid blank.latestTransaction [] := Chained.nil _ _ _ _
  rw [run]
  refine ⟨?_, read.received linked nonempty distinct (by simp)⟩
  rw [Store.account?_received]
  exact if_pos rfl

def Transaction.first (tx : Transaction) : Transaction := { tx with parent := [], replaces := [] }

/-- A deletion of a transaction, as two devices that do not know of each other send it. -/
def Transaction.deletion (tx : Transaction) (uuid parent : TransactionId) : Transaction :=
  { tx with uuid := uuid, parent := parent, replaces := tx.uuid, deleted := true }

def Transaction.takenBackTwice (tx : Transaction) : List Transaction :=
  [tx.first, tx.deletion (tx.uuid ++ [0]) tx.uuid, tx.deletion (tx.uuid ++ [1]) (tx.uuid ++ [0])]

theorem net_first (kept : tx.deleted = false) (person : PersonId) :
    net store record [tx.first] person = tx.share person := by
  have plain : ¬ (tx.first.replaces ≠ [] ∨ tx.first.deleted = true) := by simp [Transaction.first, kept]
  simp only [net, List.map_cons, List.map_nil, List.sum_cons, List.sum_nil, effect_plain plain]
  exact Int.add_zero _

theorem net_takenBackTwice (kept : tx.deleted = false)
    (read : store.ChainAt record.uuid record.latestTransaction tx.takenBackTwice) (person : PersonId) :
    net store record tx.takenBackTwice person = -tx.share person := by
  have origin : originIn tx.takenBackTwice.reverse tx.uuid = some tx.first := by
    simp [Transaction.takenBackTwice, Transaction.deletion, originIn, Transaction.first, kept]
  have taken : ∀ uuid parent, effect store record person (tx.deletion uuid parent) = -tx.share person := by
    intro uuid parent
    have found : getFirstNonDeletedAncestor store record (tx.deletion uuid parent) = .ok tx.first :=
      ancestor_origin read origin
    rw [effect_revising (.inr rfl) found]
    simp [Transaction.deletion, Transaction.first, Transaction.share]
  have plain : effect store record person tx.first = tx.share person := by
    have single : net store record [tx.first] person = tx.share person := net_first kept person
    simpa [net] using single
  simp only [net, Transaction.takenBackTwice, List.map_cons, List.map_nil, List.sum_cons, List.sum_nil, taken, plain]
  omega

theorem owed_panics (order : IterationOrder) (record : Account) (owed : PersonId → Int)
    (read : store.ChainAt record.uuid record.latestTransaction batch) (refers : RefersTo [] batch)
    (noted : ∀ tx ∈ batch, tx.deleted = true → tx.replaces ≠ [])
    (sums : ∀ person, net store record batch person = owed person)
    (fits : ∀ m ∈ record.members, -2 ^ 63 ≤ owed m.uuid ∧ owed m.uuid < 2 ^ 63)
    (positive : 0 < ∑ person ∈ persons record.members, owed person) :
    ∃ balance, getBalance store record = .ok balance ∧ getTransfers order balance = .err .unwrapNone := by
  rcases getBalance_run read (resolved_of_refers read refers noted) with ⟨balance, returns, amounts⟩
  have small : store.Fits record := by
    intro chain read' m member
    obtain rfl := Chained.unique read read'
    exact (sums m.uuid).symm ▸ fits m member
  have total : balance.total = ∑ person ∈ persons record.members, owed person :=
    (total_of_fits amounts read small).trans (Finset.sum_congr rfl fun person _ => sums person)
  refine ⟨balance, returns, ?_⟩
  rcases getTransfers_cases order balance with ⟨settled, _⟩ | ⟨_, panics⟩
  · omega
  · exact panics

/-- A transaction that is not balanced is enough to reach the panic: what the members are owed too
    much is there at once, what they owe too much is once it has been taken back twice. -/
theorem unbalanced_panics (order : IterationOrder) (generate : Nat → TransactionId) (id : AccountId)
    (nonnull : tx.uuid ≠ []) (unbalanced : ¬ Balanced members tx)
    (fits : ∀ m ∈ members, -2 ^ 63 < tx.share m.uuid ∧ tx.share m.uuid < 2 ^ 63) :
    ∃ batch : List Transaction,
      (∀ other ∈ batch, other.payedBy = tx.payedBy ∧ other.payedFor = tx.payedFor) ∧
      let reached := (Machine.after (Operation.apply generate) (entering id members batch) ⟨Store.empty, 0⟩).repo
      ∃ record balance, reached.account? id = some record ∧ getBalance reached record = .ok balance ∧
        getTransfers order balance = .err .unwrapNone := by
  let record (batch : List Transaction) : Account := { makeAccount id with
    latestTransaction := tip Transaction.uuid [] batch, members := members }
  rcases Classical.not_imp.mp unbalanced with ⟨kept, uneven⟩
  rcases lt_or_gt_of_ne uneven with owing | owed
  · have nonempty : ∀ other ∈ tx.takenBackTwice, other.uuid ≠ [] := by
      simp [Transaction.takenBackTwice, Transaction.first, Transaction.deletion, nonnull]
    have distinct : (tx.takenBackTwice.map Transaction.uuid).Nodup := by
      simp [Transaction.takenBackTwice, Transaction.first, Transaction.deletion]
    have refers : RefersTo [] tx.takenBackTwice := by
      simp [Transaction.takenBackTwice, Transaction.first, Transaction.deletion, RefersTo]
    have noted : ∀ other ∈ tx.takenBackTwice, other.deleted = true → other.replaces ≠ [] := by
      simp [Transaction.takenBackTwice, Transaction.first, Transaction.deletion, kept, nonnull]
    have linked : LinkedOn Transaction.uuid Transaction.parent [] tx.takenBackTwice :=
      ⟨rfl, rfl, rfl, True.intro⟩
    rcases entering_run generate id members linked nonempty distinct with ⟨found, read⟩
    obtain ⟨balance, returns, panics⟩ := owed_panics order (record tx.takenBackTwice)
      (fun person => -tx.share person) read refers noted (net_takenBackTwice kept read)
      (fun m member => by have := fits m member; omega) (by simpa using owing)
    refine ⟨tx.takenBackTwice, ?_, _, balance, found, returns, panics⟩
    simp [Transaction.takenBackTwice, Transaction.first, Transaction.deletion]
  · have nonempty : ∀ other ∈ [tx.first], other.uuid ≠ [] := by simpa [Transaction.first] using nonnull
    have refers : RefersTo [] [tx.first] := by simp [Transaction.first, RefersTo]
    have noted : ∀ other ∈ [tx.first], other.deleted = true → other.replaces ≠ [] := by
      simp [Transaction.first, kept]
    have linked : LinkedOn Transaction.uuid Transaction.parent [] [tx.first] := ⟨rfl, True.intro⟩
    rcases entering_run generate id members linked nonempty (by simp) with ⟨found, read⟩
    obtain ⟨balance, returns, panics⟩ := owed_panics order (record [tx.first]) tx.share read refers noted
      (net_first kept) (fun m member => by have := fits m member; omega) owed
    refine ⟨[tx.first], ?_, _, balance, found, returns, panics⟩
    simp [Transaction.first]

end Unbalanced

section Received

theorem report_returns_lunch :
    let reached := (Machine.after (Operation.apply (numbered 0))
      (entering [7] (sharing []).members [lunch]) ⟨Store.empty, 0⟩).repo
    ∃ balance, getBalance reached (sharing [lunch]) = .ok balance ∧
      ∃ transfers, getTransfers .byPerson balance = .ok transfers := by
  intro reached
  have settles : Machine.Throughout (Operation.apply (numbered 0)) Operation.Settles
      (entering [7] (sharing []).members [lunch]) ⟨Store.empty, 0⟩ := by
    refine ⟨?_, ?_, True.intro⟩
    · intro tx present
      simp [Store.transaction?, Store.empty] at present
    · intro record found tx member
      obtain rfl := List.mem_singleton.mp member
      have stored : (Operation.apply (numbered 0) (.addAccount (sharing [])) ⟨Store.empty, 0⟩).repo.account? [7] =
          some (sharing []) := by decide
      obtain rfl := Option.some.inj (stored.symm.trans found)
      decide
  have found : reached.account? [7] = some (sharing [lunch]) := by decide
  have fits : reached.Fits (sharing [lunch]) := by
    intro chain read
    have read' : reached.ChainAt [7] [0] [lunch] := ⟨rfl, by decide, by decide⟩
    obtain rfl := Chained.unique read read'
    decide
  exact ⟨_, rfl, report_returns .byPerson (numbered 0) Store.Balanced.empty settles
    (List.append_nil _).symm found fits rfl⟩

theorem report_panics :
    let reached := (Machine.after (Operation.apply (numbered 0))
      (entering [7] (sharing []).members [{ lunch with payedFor := [] }]) ⟨Store.empty, 0⟩).repo
    reached.account? [7] = some (sharing [lunch]) ∧
    ∃ balance, getBalance reached (sharing [lunch]) = .ok balance ∧
      getTransfers .byPerson balance = .err .unwrapNone :=
  ⟨by decide, _, rfl, by decide⟩

end Received

end Flouze
