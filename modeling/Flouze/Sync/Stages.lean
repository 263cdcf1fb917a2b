import Flouze.Sync.Rebase

namespace Flouze

open Linked Repository

/-- A store's record of an account and its chain, cut behind the latest synchronized transaction. -/
structure Replica (id : AccountId) (store : Store) (record : Account)
    (synced pending : List Transaction) : Prop where
  found : store.account? id = some record
  read : store.ChainAt id record.latestTransaction (synced ++ pending)
  base : record.latestSynchronizedTransaction = tip Transaction.uuid [] synced

theorem Replica.owner {id : AccountId} {store : Store} {record : Account}
    {synced pending : List Transaction} (replica : Replica id store record synced pending) :
    record.uuid = id := Store.uuid_of_account? replica.found

theorem Replica.pending_eq {id : AccountId} {store : Store} {record : Account}
    {synced pending : List Transaction} (replica : Replica id store record synced pending) :
    since Transaction.uuid record.latestSynchronizedTransaction (synced ++ pending) = pending := by
  rw [replica.base]
  exact Chained.since_tip replica.read

section Replica

variable {id : AccountId} {store : Store} {record : Account} {synced pending : List Transaction}

theorem Replica.unique {record' : Account} {synced' pending' : List Transaction}
    (replica : Replica id store record synced pending) (again : Replica id store record' synced' pending') :
    record' = record ∧ synced' = synced ∧ pending' = pending := by
  obtain rfl := Option.some.inj (again.found.symm.trans replica.found)
  have whole := Chained.unique again.read replica.read
  have same : pending' = pending := by
    rw [← again.pending_eq, whole, replica.pending_eq]
  subst same
  exact ⟨rfl, List.append_cancel_right whole, rfl⟩

theorem Replica.collected (replica : Replica id store record synced pending) :
    eachTransaction store record [] (collectUntil record.latestSynchronizedTransaction) = .ok pending.reverse := by
  have read := replica.read
  rw [← replica.owner] at read
  rw [collect_since read, replica.pending_eq]

theorem Replica.pending_distinct (replica : Replica id store record synced pending) :
    (pending.map Transaction.uuid).Nodup := by
  have whole := Chained.nodup replica.read
  rw [List.map_append] at whole
  exact (List.nodup_append.mp whole).2.1

theorem Replica.pending_stored (replica : Replica id store record synced pending) :
    ∀ key ∈ pending.map Transaction.uuid, store.transaction? id key ≠ none := by
  intro key member
  rcases List.mem_map.mp member with ⟨tx, among, rfl⟩
  simp [(replica.read.stored tx (List.mem_append_right _ among)).2]

end Replica

section Stages

variable (generate : Nat → TransactionId) (record : Account)

/-- How `sync` goes on with the reply to its first, second and third call. -/
def onLatest (latestRemote : TransactionId) : SyncM Store Unit :=
  (if record.latestSynchronizedTransaction = latestRemote then
    pure record
  else do
    let remoteTransactions : List Transaction ←
      remote (.getChildTransactions record.uuid record.latestSynchronizedTransaction)
    Process.perform (adoptTransactions generate record remoteTransactions)) >>= pushLocalTransactions

def onChildren (remoteTransactions : List Transaction) : SyncM Store Unit :=
  Process.perform (adoptTransactions generate record remoteTransactions) >>= pushLocalTransactions

def onReceipt (_ : Unit) : SyncM Store Unit := do
  Process.perform (onRepo (setLatestSynchronizedTransaction record.uuid record.latestTransaction))
  Process.perform (onRepo
    (addAccount { record with latestSynchronizedTransaction := record.latestTransaction }))

def pushBatch (batch : List Transaction) : SyncM Store Unit :=
  remote (.receiveTransactions record.uuid batch) >>= onReceipt record

def Account.synchronized (record : Account) : Account :=
  { record with latestSynchronizedTransaction := record.latestTransaction }

variable {generate record} {device : Device Store} {id : AccountId}
variable {synced pending chain received : List Transaction}

theorem sync_missing (missing : device.repo.account? id = none) :
    sync generate id device = .ret (.err (.noSuchAccount id)) device := by
  unfold sync
  rw [Process.bind_perform, onRepo_run (by rw [Routine.view_apply, Store.getAccount_none missing])]
  rfl

theorem sync_start (found : device.repo.account? id = some record) :
    sync generate id device =
      .call (.getLatestTransaction id) device (Process.andThen (onLatest generate record)) := by
  obtain rfl : record.uuid = id := Store.uuid_of_account? found
  unfold sync
  rw [Process.bind_perform, onRepo_run (by rw [Routine.view_apply, Store.getAccount_some found])]
  simp only [Process.andThen]
  unfold rebaseLocalTransactions
  rw [Process.bind_assoc]
  rfl

theorem onLatest_same {latest : TransactionId} (same : record.latestSynchronizedTransaction = latest) :
    onLatest generate record latest = pushLocalTransactions record := by
  simp only [onLatest, same, ite_true]
  exact Process.pure_bind _ _

theorem onLatest_differs {latest : TransactionId}
    (differs : record.latestSynchronizedTransaction ≠ latest) :
    onLatest generate record latest device =
      .call (.getChildTransactions record.uuid record.latestSynchronizedTransaction) device
        (Process.andThen (onChildren generate record)) := by
  simp only [onLatest, differs, ite_false]
  rw [Process.bind_assoc]
  rfl

theorem onChildren_err {error : ErrorKind} {device' : Device Store}
    (run : adoptTransactions generate record received device = (.err error, device')) :
    onChildren generate record received device = .ret (.err error) device' := by
  unfold onChildren
  rw [Process.bind_perform, run]
  rfl

theorem onChildren_ok {record' : Account} {device' : Device Store}
    (run : adoptTransactions generate record received device = (.ok record', device')) :
    onChildren generate record received device = pushLocalTransactions record' device' := by
  unfold onChildren
  rw [Process.bind_perform, run]
  rfl

theorem push_nothing (replica : Replica id device.repo record synced []) :
    pushLocalTransactions record device = .ret (.ok ()) device := by
  unfold pushLocalTransactions
  rw [Process.bind_perform, Routine.view_apply, replica.collected]
  rfl

theorem push_pending (replica : Replica id device.repo record synced pending) (some : pending ≠ []) :
    pushLocalTransactions record device =
      .call (.receiveTransactions id pending) device (Process.andThen (onReceipt record)) := by
  obtain rfl : record.uuid = id := replica.owner
  unfold pushLocalTransactions
  rw [Process.bind_perform, Routine.view_apply, replica.collected]
  simp only [Process.andThen, List.isEmpty_reverse, List.isEmpty_iff, some, ite_false]
  change pushBatch record pending.reverse.reverse device = _
  rw [List.reverse_reverse]
  rfl

theorem onReceipt_run {stored : Account} (found : device.repo.account? record.uuid = some stored) :
    onReceipt record () device =
      .ret (.ok ()) { device with repo := device.repo.putAccount record.synchronized } := by
  have owner : stored.uuid = record.uuid := Store.uuid_of_account? found
  have twice : (device.repo.putAccount
      { stored with latestSynchronizedTransaction := record.latestTransaction }).putAccount
        record.synchronized = device.repo.putAccount record.synchronized := by
    apply Store.ext_lookup
    · intro id
      by_cases same : id = record.uuid <;>
        simp [Account.synchronized, same, owner]
    · intro account id
      rfl
  unfold onReceipt
  rw [Process.bind_perform, onRepo_run (Store.setLatestSynchronizedTransaction_some found)]
  simp only [Process.andThen, Process.perform, onRepo_run (addAccount_run _ _)]
  exact congrArg (fun repo => Resumption.ret _ { device with repo := repo }) twice

end Stages

end Flouze
