import Flouze.Sync.Operations
import Flouze.Sync.Undisturbed

namespace Flouze

open Linked Repository

structure Cloned (id : AccountId) (serverRecord : Account) (chain : List Transaction)
    (result : Outcome ErrorKind Unit × Device Store) : Prop where
  returned : result.1 = .ok ()
  stored : ∃ record, result.2.repo.account? id = some record ∧
    result.2.repo.ChainAt id record.latestTransaction chain ∧
    record.latestTransaction = serverRecord.latestTransaction ∧
    record.latestSynchronizedTransaction = serverRecord.latestTransaction ∧
    record.label = serverRecord.label ∧ record.members = serverRecord.members

section Clone

variable {id : AccountId} {device : Device Store} {server : Store} {serverRecord : Account}
variable {chain : List Transaction}

theorem clone_run (generate : Nat → TransactionId) (device : Device Store)
    (found : server.account? id = some serverRecord) :
    (cloneRemote generate id device).run ServerRpcImpl.answer server =
      (sync generate id { device with repo := device.repo.putAccount serverRecord.profile }).run
        ServerRpcImpl.answer server := by
  let adopt : Account → SyncM Store Unit := fun account => do
    Process.perform (onRepo
      (addAccount { account with latestTransaction := [], latestSynchronizedTransaction := [] }))
    sync generate id
  have called : cloneRemote generate id device =
      .call (.getAccountInfo id) device (Process.andThen adopt) := rfl
  have answered : ServerRpcImpl.answer (.getAccountInfo id) server = (.ok serverRecord, server) := by
    simp only [ServerRpcImpl.answer, Store.getAccount_some found]
  rw [called, Resumption.run_call, answered]
  rfl

theorem clone_honest (store : Store) (found : server.account? id = some serverRecord)
    (read : server.ChainAt id serverRecord.latestTransaction chain) :
    Honest id (store.putAccount serverRecord.profile) server serverRecord.profile serverRecord [] [] chain := by
  obtain rfl : serverRecord.uuid = id := Store.uuid_of_account? found
  refine ⟨⟨?_, Chained.nil _ _ _ _, rfl⟩, found, by simpa using read⟩
  rw [Store.account?_putAccount]
  exact if_pos rfl

theorem clone_run_iff (generate : Nat → TransactionId) (device : Device Store)
    (found : server.account? id = some serverRecord)
    (read : server.ChainAt id serverRecord.latestTransaction chain) :
    Cloned id serverRecord chain ((cloneRemote generate id device).run ServerRpcImpl.answer server).1 ↔
      ∀ tx ∈ chain, device.repo.transaction? id tx.uuid = none := by
  let entered : Device Store := { device with repo := device.repo.putAccount serverRecord.profile }
  have run : ((cloneRemote generate id device).run ServerRpcImpl.answer server).1 =
      ((sync generate id entered).run ServerRpcImpl.answer server).1 :=
    congrArg Prod.fst (clone_run generate device found)
  have honest : Honest id entered.repo server serverRecord.profile serverRecord [] [] chain :=
    clone_honest device.repo found read
  constructor
  · rw [run]
    intro given tx member
    rcases given with ⟨returned, _⟩
    by_contra stored
    rcases honest.sync_run_duplicate generate ⟨tx, member, stored⟩ with ⟨_, _, _, refused⟩
    rw [refused] at returned
    cases returned
  · intro absent
    obtain ⟨device', server', record, serverRecord', synchronized, after, framed, _⟩ :=
      honest.sync_run_full generate absent (fun some => absurd rfl some)
    simp only [rebasedOnto, moved, ite_self, List.nil_append, List.append_nil] at after
    have here := after.read
    have there := after.remote_read
    rw [List.append_nil] at here there
    have profile : record.profile = serverRecord.profile := by
      have same := framed.profiles id
      rw [after.found, honest.found] at same
      exact Option.some.inj same
    have latest : record.latestTransaction = serverRecord.latestTransaction :=
      here.head_eq.trans read.head_eq.symm
    have label : record.profile.label = serverRecord.profile.label := congrArg Account.label profile
    have members : record.profile.members = serverRecord.profile.members :=
      congrArg Account.members profile
    rw [run, synchronized]
    refine ⟨rfl, record, after.found, here, latest, ?_, label, members⟩
    rw [after.base, read.head_eq]

end Clone

def Store.Cleared (id : AccountId) (chain : List Transaction) (store : Store) : Prop :=
  store.account? id = none → ∀ tx ∈ chain, store.transaction? id tx.uuid = none

def Operation.Clears (id : AccountId) (chain : List Transaction) : Operation → Device Store → Prop
  | .deleteAccount deleted, device =>
    deleted = id → device.repo.account? id ≠ none → ∀ tx ∈ chain, device.repo.transaction? id tx.uuid = none
  | .addTransaction account tx, device =>
    account = id → device.repo.account? id = none → tx.uuid ∉ chain.map Transaction.uuid
  | .addAccount _, _ | .createAccount _, _ | .receiveTransactions _ _, _ | .sync _ _, _
  | .cloneRemote _ _, _ => True

section Cleared

variable {id : AccountId} {chain : List Transaction} {store : Store} {generate : Nat → TransactionId}

theorem Store.Cleared.putAccount (cleared : store.Cleared id chain) (account : Account) :
    (store.putAccount account).Cleared id chain := by
  intro missing
  rw [Store.account?_putAccount] at missing
  split at missing
  · cases missing
  · exact cleared missing

theorem Store.Cleared.putTransactions (cleared : store.Cleared id chain) {owner : AccountId} {record : Account}
    (found : store.account? owner = some record) (batch : List Transaction) :
    (store.putTransactions owner batch).Cleared id chain := by
  intro missing tx member
  rw [Store.account?_putTransactions] at missing
  have other : id ≠ owner := by
    intro same
    subst same
    rw [found] at missing
    cases missing
  rw [Store.transaction?_putTransactions_absent _ owner batch fun same => absurd same other]
  exact cleared missing tx member

theorem Store.Cleared.putTransaction_iff (cleared : store.Cleared id chain) (missing : store.account? id = none)
    (tx : Transaction) :
    (store.putTransaction id tx).Cleared id chain ↔ tx.uuid ∉ chain.map Transaction.uuid := by
  constructor
  · intro after member
    rcases List.mem_map.mp member with ⟨old, inside, same⟩
    have absent := after missing old inside
    rw [Store.transaction?_putTransaction, if_pos ⟨rfl, same⟩] at absent
    cases absent
  · intro apart _ old member
    rw [Store.transaction?_putTransaction, if_neg]
    · exact cleared missing old member
    · intro given
      rcases given with ⟨_, same⟩
      exact apart (same ▸ List.mem_map_of_mem member)

theorem cleared_kept (id : AccountId) (chain : List Transaction) (synced : AccountId) (members : List Person) :
    KeptBySync (Store.Cleared id chain) synced members fun _ => True where
  stored _ _ := True.intro
  moved _ _ _ := True.intro
  account guarded _ _ := guarded.1.putAccount _
  transaction := by
    intro store tx given _
    rcases given with ⟨cleared, record, found, _⟩
    exact cleared.putTransactions found [tx]
  removed := by
    intro store txId given missing tx member
    rcases given with ⟨cleared, _⟩
    rw [Store.account?_removeTransaction] at missing
    rw [Store.transaction?_removeTransaction, cleared missing tx member, ite_self]

theorem sync_cleared {device : Device Store} {synced : AccountId}
    {replies : Nat → (call : RemoteCall) → call.Reply} (cleared : device.repo.Cleared id chain) (calls : Nat) :
    ((sync generate synced device).run (heard replies) calls).1.2.repo.Cleared id chain :=
  sync_heard cleared (fun record _ => cleared_kept id chain synced record.members)
    (fun _ _ _ _ _ _ _ _ => True.intro) calls

theorem deleteAccount_cleared_iff (deleted : AccountId) (device : Device Store)
    (cleared : device.repo.Cleared id chain) :
    ((Operation.deleteAccount deleted).apply generate device).repo.Cleared id chain ↔
      (Operation.deleteAccount deleted).Clears id chain device := by
  cases found : device.repo.account? deleted with
  | none =>
    simp only [Operation.apply, onRepo, Store.deleteAccount_none found]
    refine iff_of_true cleared ?_
    intro same present
    subst same
    exact absurd found present
  | some record =>
    simp only [Operation.apply, onRepo, Store.deleteAccount_some found]
    by_cases same : deleted = id
    · subst same
      simp [Store.Cleared, Operation.Clears, found]
    · refine iff_of_true ?_ fun equal => absurd equal same
      intro missing
      rw [Store.account?_removeAccount, if_neg (Ne.symm same)] at missing
      exact cleared missing

theorem addTransaction_cleared_iff (account : AccountId) (tx : Transaction) (device : Device Store)
    (cleared : device.repo.Cleared id chain) :
    ((Operation.addTransaction account tx).apply generate device).repo.Cleared id chain ↔
      (Operation.addTransaction account tx).Clears id chain device := by
  cases found : device.repo.account? account with
  | some record =>
    simp only [Operation.apply, onRepo, Ffi.addTransaction_run tx found]
    refine iff_of_true ((cleared.putTransactions found [tx]).putAccount _) ?_
    intro same missing
    subst same
    rw [found] at missing
    cases missing
  | none =>
    simp only [Operation.apply, onRepo, Ffi.addTransaction_missing tx found]
    by_cases same : account = id
    · subst same
      rw [cleared.putTransaction_iff found]
      simp [Operation.Clears, found]
    · refine iff_of_true ?_ fun equal => absurd equal same
      intro missing old member
      rw [Store.transaction?_putTransaction, if_neg fun equal => same equal.1.symm]
      exact cleared missing old member

theorem apply_cleared_iff (operation : Operation) (device : Device Store)
    (cleared : device.repo.Cleared id chain) :
    (operation.apply generate device).repo.Cleared id chain ↔ operation.Clears id chain device := by
  cases operation with
  | addAccount account => exact iff_of_true (cleared.putAccount account) True.intro
  | createAccount account =>
    refine iff_of_true ?_ True.intro
    rcases ServerRpcImpl.createAccount_cases account device.repo with ⟨error, run⟩ | ⟨_, run⟩
    · simp only [Operation.apply, onRepo, run]
      exact cleared
    · simp only [Operation.apply, onRepo, run]
      exact cleared.putAccount _
  | deleteAccount deleted => exact deleteAccount_cleared_iff deleted device cleared
  | addTransaction account tx => exact addTransaction_cleared_iff account tx device cleared
  | receiveTransactions account batch =>
    refine iff_of_true ?_ True.intro
    rcases receive_cases device.repo account batch with ⟨error, run⟩ | ⟨record, found, _, run⟩
    · simp only [Operation.apply, onRepo, run]
      exact cleared
    · simp only [Operation.apply, onRepo, run]
      have owner : record.uuid = account := Store.uuid_of_account? found
      exact (cleared.putTransactions (owner ▸ found) batch).putAccount _
  | sync synced replies => exact iff_of_true (sync_cleared cleared 0) True.intro
  | cloneRemote cloned replies =>
    exact iff_of_true (clone_heard cleared fun account _ => sync_cleared (cleared.putAccount _) 1) True.intro

end Cleared

/-- Whatever was done before: as long as nothing of the server's history was left stored without its
    account, the account can be cloned wherever it is not there, and no longer. -/
theorem clone_succeeds_iff (generate : Nat → TransactionId) {id : AccountId} {server : Store}
    {serverRecord : Account} {chain : List Transaction} (found : server.account? id = some serverRecord)
    (read : server.ChainAt id serverRecord.latestTransaction chain) {device : Device Store}
    (cleared : device.repo.Cleared id chain) (operations : List Operation) :
    (∀ before later, operations = before ++ later →
      let reached := Machine.after (Operation.apply generate) before device
      getAccount id reached.repo = .err (.noSuchAccount id) →
        Cloned id serverRecord chain ((cloneRemote generate id reached).run ServerRpcImpl.answer server).1) ↔
      Machine.Throughout (Operation.apply generate) (Operation.Clears id chain) operations device := by
  have lasts : (∀ before later, operations = before ++ later →
      (Machine.after (Operation.apply generate) before device).repo.Cleared id chain) ↔
        Machine.Throughout (Operation.apply generate) (Operation.Clears id chain) operations device :=
    Machine.lasts_iff (fun device : Device Store => device.repo.Cleared id chain) apply_cleared_iff cleared
  rw [← lasts]
  have missing_iff : ∀ store : Store,
      getAccount id store = .err (.noSuchAccount id) ↔ store.account? id = none := by
    intro store
    cases stored : store.account? id with
    | none => exact iff_of_true (Store.getAccount_none stored) rfl
    | some record => simp [Store.getAccount_some stored]
  constructor
  · intro clones before later split missing
    exact (clone_run_iff generate _ found read).mp (clones before later split ((missing_iff _).mpr missing))
  · intro clear before later split reached missing
    exact (clone_run_iff generate _ found read).mpr (clear before later split ((missing_iff _).mp missing))

theorem clone_succeeds_emptied :
    let operations : List Operation := [.addAccount (makeAccount [7]), .deleteAccount [7]]
    let device : Device Store := Machine.after (Operation.apply (numbered 1)) operations ⟨Store.empty, 0⟩
    Cloned [7] { makeAccount [7] with latestTransaction := [0] } [makeTransaction [0] []]
      ((cloneRemote (numbered 1) [7] device).run ServerRpcImpl.answer ServerRpcImpl.holdingOne).1 := by
  intro operations device
  have clears : Machine.Throughout (Operation.apply (numbered 1)) (Operation.Clears [7] [makeTransaction [0] []])
      operations ⟨Store.empty, 0⟩ := by
    refine ⟨True.intro, fun _ _ => ?_, True.intro⟩
    decide
  have cleared : Store.empty.Cleared [7] [makeTransaction [0] []] := fun _ _ _ => rfl
  have clones := (clone_succeeds_iff (numbered 1) ServerRpcImpl.holdingOne_account ServerRpcImpl.holdingOne_read cleared
    operations).mpr clears
  exact clones operations [] (List.append_nil _).symm (by decide)

/-- Cloned, deleted, and cloned again: the transactions of the first time are in the way. -/
theorem clone_after_delete_refused :
    let cloned := ((cloneRemote (numbered 1) [7] ⟨Store.empty, 0⟩).run ServerRpcImpl.answer ServerRpcImpl.holdingOne).1.2
    let deleted : Device Store := { cloned with repo := (deleteAccount [7] cloned.repo).2 }
    (deleteAccount [7] cloned.repo).1 = .ok () ∧
    getAccount [7] deleted.repo = .err (.noSuchAccount [7]) ∧
    ((cloneRemote (numbered 1) [7] deleted).run ServerRpcImpl.answer ServerRpcImpl.holdingOne).1.1 =
      .err (.duplicateTransactionId [0]) := by
  decide

end Flouze
