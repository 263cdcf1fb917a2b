import Flouze.Sync.Honest

namespace Flouze

open Linked Repository

namespace Honest

variable {id : AccountId} {generate : Nat → TransactionId} {device : Device Store} {server : Store}
variable {record serverRecord : Account} {synced pending newer : List Transaction}

theorem synchronized_eq {store : Store}
    (honest : Honest id store server record serverRecord synced [] newer) :
    record.synchronized = record := by
  have base := honest.base
  have at_head := honest.read.head_eq
  rw [List.append_nil] at at_head
  cases record
  simp_all [Account.synchronized]

theorem received_nil (honest : Honest id device.repo server record serverRecord synced pending newer) :
    server.received serverRecord [] = server := by
  obtain rfl : serverRecord.uuid = id := Store.uuid_of_account? honest.remote_found
  exact server.putAccount_same honest.remote_found

theorem push_run (honest : Honest id device.repo server record serverRecord synced pending []) :
    (pushLocalTransactions record device).run ServerRpcImpl.answer server =
      ((.ok (), { device with repo := device.repo.putAccount record.synchronized }),
        server.received serverRecord pending) := by
  obtain rfl : record.uuid = id := honest.owner
  by_cases empty : pending = []
  · subst empty
    rw [push_nothing honest.toReplica, honest.synchronized_eq, honest.received_nil,
      device.repo.putAccount_same honest.found]
    rfl
  · rw [push_pending honest.toReplica empty, Resumption.run_call, honest.answer_accept]
    change (onReceipt record () device).run _ _ = _
    rw [onReceipt_run honest.found]
    rfl

theorem sync_latest (honest : Honest id device.repo server record serverRecord synced pending newer) :
    (sync generate id device).run ServerRpcImpl.answer server =
      (onLatest generate record serverRecord.latestTransaction device).run ServerRpcImpl.answer server := by
  rw [sync_start honest.found, Resumption.run_call, honest.answer_latest]
  rfl

theorem sync_children (honest : Honest id device.repo server record serverRecord synced pending newer)
    (behind : newer ≠ []) :
    (sync generate id device).run ServerRpcImpl.answer server =
      (onChildren generate record newer device).run ServerRpcImpl.answer server := by
  obtain rfl : record.uuid = id := honest.owner
  have differs := mt honest.same_iff.mp behind
  rw [honest.sync_latest, onLatest_differs differs, Resumption.run_call, honest.answer_children]
  rfl

theorem sync_run_same (honest : Honest id device.repo server record serverRecord synced pending []) :
    (sync generate id device).run ServerRpcImpl.answer server =
      ((.ok (), { device with repo := device.repo.putAccount record.synchronized }),
        server.received serverRecord pending) := by
  rw [honest.sync_latest, onLatest_same (honest.same_iff.mpr rfl)]
  exact honest.push_run

theorem sync_run_behind (honest : Honest id device.repo server record serverRecord synced pending newer)
    (behind : newer ≠ []) (fresh : ∀ tx ∈ newer, device.repo.transaction? id tx.uuid = none)
    (ids : pending ≠ [] → FreshIds generate device.generated fun drawn =>
      device.repo.transaction? id drawn ≠ none ∨ drawn ∈ newer.map Transaction.uuid) :
    let rebased := moved generate device.generated (tip Transaction.uuid [] newer) pending
    let record' := record.advanced newer rebased
    (sync generate id device).run ServerRpcImpl.answer server =
      ((.ok (), { repo := (device.repo.adopted record' newer rebased
                    (pending.map Transaction.uuid)).putAccount record'.synchronized
                  generated := device.generated + pending.length }),
        server.received serverRecord rebased) := by
  intro rebased record'
  rcases honest.pulled behind fresh ids with ⟨adopted, after⟩
  rw [honest.sync_children behind, onChildren_ok adopted]
  let device' : Device Store := ⟨device.repo.adopted record' newer rebased (pending.map Transaction.uuid),
    device.generated + pending.length⟩
  have ready : Honest id device'.repo server record' serverRecord (synced ++ newer) rebased [] := after
  exact ready.push_run

theorem sync_run_duplicate (generate : Nat → TransactionId)
    (honest : Honest id device.repo server record serverRecord synced pending newer)
    (stored : ∃ tx ∈ newer, device.repo.transaction? id tx.uuid ≠ none) :
    ∃ duplicate ∈ newer.map Transaction.uuid, device.repo.transaction? id duplicate ≠ none ∧
      (sync generate id device).run ServerRpcImpl.answer server =
        ((.err (.duplicateTransactionId duplicate), device), server) := by
  obtain rfl : record.uuid = id := honest.owner
  rcases stored with ⟨tx, member, present⟩
  have behind : newer ≠ [] := List.ne_nil_of_mem member
  obtain ⟨duplicate, among, known, run⟩ := adopt_duplicate generate
    ⟨tx.uuid, List.mem_map_of_mem member, present⟩
  refine ⟨duplicate, among, known, ?_⟩
  rw [honest.sync_children behind, onChildren_err run]
  rfl

/-- What an undisturbed sync leaves: one chain on both sides, and nothing else touched. -/
theorem sync_run_full (generate : Nat → TransactionId)
    (honest : Honest id device.repo server record serverRecord synced pending newer)
    (fresh : ∀ tx ∈ newer, device.repo.transaction? id tx.uuid = none)
    (ids : pending ≠ [] → FreshIds generate device.generated fun drawn =>
      device.repo.transaction? id drawn ≠ none ∨ drawn ∈ newer.map Transaction.uuid) :
    let rebased := rebasedOnto generate device.generated newer pending
    ∃ device' server' record' serverRecord',
      (sync generate id device).run ServerRpcImpl.answer server = ((.ok (), device'), server') ∧
      Honest id device'.repo server' record' serverRecord' (synced ++ newer ++ rebased) [] [] ∧
      Framed id device.repo device'.repo ∧ Framed id server server' := by
  intro rebased
  by_cases same : newer = []
  · subst same
    have after := honest.pushed
    rw [← List.append_nil synced] at after
    exact ⟨_, _, _, _, honest.sync_run_same, after, Framed.synchronized honest.found,
      Framed.received honest.remote_found _⟩
  · rcases honest.pulled same fresh ids with ⟨_, after⟩
    have framed := (Framed.adopted honest.found newer
      (moved generate device.generated (tip Transaction.uuid [] newer) pending)
      (pending.map Transaction.uuid)).trans (Framed.synchronized after.found)
    have renamed : rebased = moved generate device.generated (tip Transaction.uuid [] newer) pending :=
      rebasedOnto_behind generate device.generated same pending
    rw [renamed]
    exact ⟨_, _, _, _, honest.sync_run_behind same fresh ids, after.pushed, framed,
      Framed.received honest.remote_found _⟩

theorem sync_run_idle (honest : Honest id device.repo server record serverRecord synced [] []) :
    (sync generate id device).run ServerRpcImpl.answer server = ((.ok (), device), server) := by
  obtain rfl : record.uuid = id := honest.owner
  rw [honest.sync_run_same, honest.synchronized_eq, honest.received_nil,
    device.repo.putAccount_same honest.found]

end Honest

end Flouze
