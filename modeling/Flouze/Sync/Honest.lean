import Flouze.Sync.Stages

namespace Flouze

open Linked Repository

def Account.profile (record : Account) : Account :=
  { record with latestTransaction := [], latestSynchronizedTransaction := [] }

structure Framed (id : AccountId) (before after : Store) : Prop where
  profiles : ∀ other, (after.account? other).map Account.profile =
    (before.account? other).map Account.profile
  accounts : ∀ other, other ≠ id → after.account? other = before.account? other
  transactions : ∀ other, other ≠ id → ∀ tx, after.transaction? other tx = before.transaction? other tx

namespace Framed

variable {id : AccountId} {store middle after : Store} {record : Account}

theorem refl (id : AccountId) (store : Store) : Framed id store store :=
  ⟨fun _ => rfl, fun _ _ => rfl, fun _ _ _ => rfl⟩

theorem trans (first : Framed id store middle) (second : Framed id middle after) :
    Framed id store after :=
  ⟨fun other => (second.profiles other).trans (first.profiles other),
    fun other differ => (second.accounts other differ).trans (first.accounts other differ),
    fun other differ tx => (second.transactions other differ tx).trans (first.transactions other differ tx)⟩

theorem of_record {record' : Account} (found : store.account? id = some record)
    (found' : after.account? id = some record') (profile : record'.profile = record.profile)
    (accounts : ∀ other, other ≠ id → after.account? other = store.account? other)
    (transactions : ∀ other, other ≠ id → ∀ tx, after.transaction? other tx = store.transaction? other tx) :
    Framed id store after := by
  refine ⟨?_, accounts, transactions⟩
  intro other
  by_cases same : other = id
  · subst same
    simp [found, found', profile]
  · rw [accounts other same]

theorem received (found : store.account? id = some record) (batch : List Transaction) :
    Framed id store (store.received record batch) := by
  obtain rfl : record.uuid = id := Store.uuid_of_account? found
  have found' : (store.received record batch).account? record.uuid = some
      { record with latestTransaction := tip Transaction.uuid record.latestTransaction batch } := by
    rw [Store.account?_received, if_pos rfl]
  apply of_record found found' rfl
  · intro other differ
    rw [Store.account?_received, if_neg differ]
  · intro other differ tx
    exact Store.transaction?_received_absent fun same => absurd same differ

theorem adopted (found : store.account? id = some record) (batch rebased : List Transaction)
    (old : List TransactionId) :
    Framed id store (store.adopted (record.advanced batch rebased) batch rebased old) := by
  obtain rfl : record.uuid = id := Store.uuid_of_account? found
  have found' : (store.adopted (record.advanced batch rebased) batch rebased old).account? record.uuid =
      some (record.advanced batch rebased) := by
    rw [Store.account?_adopted]
    exact if_pos rfl
  apply of_record found found' rfl
  · intro other differ
    rw [Store.account?_adopted]
    exact if_neg differ
  · intro other differ tx
    exact Store.transaction?_adopted_other (record.advanced batch rebased) differ tx

theorem synchronized (found : store.account? id = some record) :
    Framed id store (store.putAccount record.synchronized) := by
  obtain rfl : record.uuid = id := Store.uuid_of_account? found
  have found' : (store.putAccount record.synchronized).account? record.uuid = some record.synchronized := by
    rw [Store.account?_putAccount]
    exact if_pos rfl
  apply of_record found found' rfl
  · intro other differ
    rw [Store.account?_putAccount]
    exact if_neg differ
  · intro other differ tx
    rfl

end Framed

/-- A client's store and an honest server's: the server's chain continues the synchronized part
    of the client's. -/
structure Honest (id : AccountId) (store server : Store) (record serverRecord : Account)
    (synced pending newer : List Transaction) : Prop extends Replica id store record synced pending where
  remote_found : server.account? id = some serverRecord
  remote_read : server.ChainAt id serverRecord.latestTransaction (synced ++ newer)

namespace Honest

variable {id : AccountId} {generate : Nat → TransactionId} {device : Device Store} {server : Store}
variable {record serverRecord : Account} {synced pending newer : List Transaction}

section Answers

variable {store : Store}

theorem same_iff (honest : Honest id store server record serverRecord synced pending newer) :
    record.latestSynchronizedTransaction = serverRecord.latestTransaction ↔ newer = [] := by
  rw [honest.base]
  constructor
  · exact Chained.tip_inj honest.remote_read
  · intro same
    subst same
    have at_head := honest.remote_read.head_eq
    rw [List.append_nil] at at_head
    exact at_head.symm

theorem answer_latest (honest : Honest id store server record serverRecord synced pending newer) :
    ServerRpcImpl.answer (.getLatestTransaction id) server = (.ok serverRecord.latestTransaction, server) := by
  simp [ServerRpcImpl.answer, Store.getAccount_some honest.remote_found]

theorem answer_children (honest : Honest id store server record serverRecord synced pending newer) :
    ServerRpcImpl.answer (.getChildTransactions id record.latestSynchronizedTransaction) server =
      (.ok newer, server) := by
  rw [honest.base]
  simp only [ServerRpcImpl.answer, getChild_after honest.remote_found honest.remote_read]

theorem pending_linked (honest : Honest id store server record serverRecord synced pending []) :
    LinkedOn Transaction.uuid Transaction.parent serverRecord.latestTransaction pending := by
  rw [← honest.same_iff.mpr rfl, honest.base]
  exact Chained.newer_linked honest.read

theorem answer_accept (honest : Honest id store server record serverRecord synced pending []) :
    ServerRpcImpl.answer (.receiveTransactions id pending) server =
      (.ok (), server.received serverRecord pending) :=
  receive_accepted honest.remote_found honest.pending_linked

theorem answer_mustRebase (honest : Honest id store server record serverRecord synced pending newer)
    (some : pending ≠ []) (behind : newer ≠ []) :
    ServerRpcImpl.answer (.receiveTransactions id pending) server = (.err .mustRebase, server) := by
  rcases List.exists_cons_of_ne_nil some with ⟨first, rest, rfl⟩
  have parent : first.parent = record.latestSynchronizedTransaction := by
    rw [honest.base]
    exact (Chained.newer_linked honest.read).1
  apply receive_mustRebase honest.remote_found
  rw [parent]
  exact fun same => behind (honest.same_iff.mp same.symm)

end Answers

theorem consistent {store : Store} (honest : Honest id store server record serverRecord synced pending newer) :
    checkChainConsistency newer = true :=
  (checkChainConsistency_iff newer).mpr ⟨_, Chained.newer_linked honest.remote_read⟩

theorem pulled (honest : Honest id device.repo server record serverRecord synced pending newer)
    (behind : newer ≠ []) (fresh : ∀ tx ∈ newer, device.repo.transaction? id tx.uuid = none)
    (ids : pending ≠ [] → FreshIds generate device.generated fun drawn =>
      device.repo.transaction? id drawn ≠ none ∨ drawn ∈ newer.map Transaction.uuid) :
    let rebased := moved generate device.generated (tip Transaction.uuid [] newer) pending
    let store := device.repo.adopted (record.advanced newer rebased) newer rebased
      (pending.map Transaction.uuid)
    adoptTransactions generate record newer device =
      (.ok (record.advanced newer rebased), ⟨store, device.generated + pending.length⟩) ∧
    Honest id store server (record.advanced newer rebased) serverRecord (synced ++ newer) rebased [] := by
  intro rebased store
  obtain rfl : record.uuid = id := honest.owner
  have linked := Chained.newer_linked honest.remote_read
  have distinct : (newer.map Transaction.uuid).Nodup := by
    have whole := Chained.nodup honest.remote_read
    rw [List.map_append] at whole
    exact (List.nodup_append.mp whole).2.1
  have nonempty : ∀ tx ∈ newer, tx.uuid ≠ [] :=
    fun tx member => (honest.remote_read.stored tx (List.mem_append_right _ member)).1
  have unknown : ∀ key ∈ newer.map Transaction.uuid, device.repo.transaction? record.uuid key = none := by
    intro key member
    rcases List.mem_map.mp member with ⟨tx, present, rfl⟩
    exact fresh tx present
  have run := adopt_run generate honest.read behind unknown honest.consistent
  rw [honest.pending_eq] at run
  refine ⟨run, ⟨⟨?_, ?_, ?_⟩, honest.remote_found, ?_⟩⟩
  · rw [Store.account?_adopted]
    exact if_pos rfl
  · have chain := Store.ChainAt.adopted (record.advanced newer rebased) honest.read behind linked
      nonempty distinct fresh ids
    have at_tip : tip Transaction.uuid [] (synced ++ newer ++ rebased) =
        (record.advanced newer rebased).latestTransaction := by
      have base := tip_base Transaction.uuid (tip Transaction.uuid [] synced) behind []
      simp only [Account.advanced, tip_append, base]
    rw [← at_tip]
    exact chain
  · rw [tip_append]
    exact tip_base Transaction.uuid [] behind _
  · rw [List.append_nil]
    exact honest.remote_read

theorem pushed {store : Store}
    (honest : Honest id store server record serverRecord synced pending []) :
    Honest id (store.putAccount record.synchronized) (server.received serverRecord pending)
      record.synchronized
      { serverRecord with latestTransaction := tip Transaction.uuid serverRecord.latestTransaction pending }
      (synced ++ pending) [] [] := by
  obtain rfl : record.uuid = id := honest.owner
  have remoteOwner : serverRecord.uuid = record.uuid := Store.uuid_of_account? honest.remote_found
  have read := honest.remote_read
  rw [List.append_nil, ← remoteOwner] at read
  have stored : ∀ tx ∈ pending, tx.uuid ≠ [] :=
    fun tx member => (honest.read.stored tx (List.mem_append_right _ member)).1
  have whole := Chained.nodup honest.read
  rw [List.map_append] at whole
  have distinct := (List.nodup_append.mp whole).2.1
  have apart : ∀ tx ∈ pending, tx.uuid ∉ synced.map Transaction.uuid := by
    intro tx member again
    rcases List.mem_map.mp again with ⟨other, present, same⟩
    exact Chained.not_mem_right honest.read present member same.symm
  refine ⟨⟨?_, ?_, ?_⟩, ?_, ?_⟩
  · rw [Store.account?_putAccount]
    exact if_pos rfl
  · rw [List.append_nil]
    exact Chained.congr honest.read fun _ _ => rfl
  · exact honest.read.head_eq
  · rw [Store.account?_received, if_pos remoteOwner.symm]
  · rw [List.append_nil, ← remoteOwner]
    exact read.received honest.pending_linked stored distinct apart

end Honest

end Flouze
