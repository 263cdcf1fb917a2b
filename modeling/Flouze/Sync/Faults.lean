import Flouze.Repository.Interrupted
import Flouze.Sync.Safety

namespace Flouze

open Linked Repository

/-- How a remote call fails: before the server has heard of it, or after it has acted on it. -/
inductive Disturbance where
  | unreachable (error : ErrorKind)
  | lost (error : ErrorKind)

/-- A server on a line on which one call fails: the one that so many others come before, if there is one. -/
structure Line where
  server : Store
  fault : Option (Nat × Disturbance)

def Line.answer (call : RemoteCall) (line : Line) : call.Reply × Line :=
  match line.fault with
  | some (0, .unreachable error) => (.err error, ⟨line.server, none⟩)
  | some (0, .lost error) => (.err error, ⟨(ServerRpcImpl.answer call line.server).2, none⟩)
  | some (left + 1, disturbance) =>
    ((ServerRpcImpl.answer call line.server).1,
      ⟨(ServerRpcImpl.answer call line.server).2, some (left, disturbance)⟩)
  | none => ((ServerRpcImpl.answer call line.server).1, ⟨(ServerRpcImpl.answer call line.server).2, none⟩)

theorem Line.answer_read {call : RemoteCall} (line : Line) {reply : call.Reply}
    (reads : ServerRpcImpl.answer call line.server = (reply, line.server)) :
    ∃ fault, (∃ error, line.answer call = (.err error, ⟨line.server, fault⟩)) ∨
      line.answer call = (reply, ⟨line.server, fault⟩) := by
  unfold answer
  split
  · exact ⟨none, .inl ⟨_, rfl⟩⟩
  · rw [reads]
    exact ⟨none, .inl ⟨_, rfl⟩⟩
  · rw [reads]
    exact ⟨_, .inr rfl⟩
  · rw [reads]
    exact ⟨none, .inr rfl⟩

section Reads

variable {σ : Type} [Repository σ] {β : Type} (repo : Faulty σ)

theorem forChain_faulty (pass : β → Transaction → Outcome ErrorKind (ForInStep β)) (fuel : Nat)
    (chain : TransactionChain) (acc : β) :
    forChain repo pass fuel chain acc = forChain repo.store pass fuel chain acc := by
  induction fuel generalizing chain acc with
  | zero => rfl
  | succ fuel ih =>
    have same : chain.next repo = chain.next repo.store := rfl
    simp only [forChain, same, ih]

theorem eachTransaction_faulty (account : Account) (acc : β)
    (pass : β → Transaction → Outcome ErrorKind (ForInStep β)) :
    eachTransaction repo account acc pass = eachTransaction repo.store account acc pass :=
  forChain_faulty repo pass _ _ acc

theorem checkUniqueness_faulty (account : AccountId) (ids : List TransactionId) :
    checkTransactionIdUniqueness account ids repo = checkTransactionIdUniqueness account ids repo.store := by
  induction ids with
  | nil => rfl
  | cons id ids ih =>
    have same : getTransaction account id repo = getTransaction account id repo.store := rfl
    simp only [checkTransactionIdUniqueness, same, ih]

theorem perform_faulty (account : AccountId) (write : Write) :
    (write.perform account : Routine (Faulty σ) ErrorKind PUnit) =
      Faulty.write writeError (write.perform account) := by
  cases write <;> rfl

end Reads

section Cuts

variable {store : Store} {record : Account} {received rebased : List Transaction} {old part : List TransactionId}
variable {k : Nat}

theorem take_pullWrites_before (few : k ≤ received.length + rebased.length) :
    (pullWrites record received rebased old).take k = ((received ++ rebased).take k).map .addTransaction := by
  rw [pullWrites, List.take_append_of_le_length (by simpa using few), List.map_take]

theorem take_pullWrites_after (many : received.length + rebased.length < k) :
    (pullWrites record received rebased old).take k =
      pullWrites record received rebased (old.take (k - (received.length + rebased.length) - 1)) := by
  obtain ⟨j, rfl⟩ : ∃ j, k = received.length + rebased.length + 1 + j := 
    ⟨k - (received.length + rebased.length) - 1, by omega⟩
  have additions : ((received ++ rebased).map Write.addTransaction).length = received.length + rebased.length := by
    simp
  have left : received.length + rebased.length + 1 + j - (received.length + rebased.length) - 1 = j := by omega
  rw [pullWrites, pullWrites, left, List.map_take, Nat.add_assoc, ← additions, List.take_length_add_append,
    Nat.add_comm 1 j, List.take_succ_cons]

theorem after_take_before (account : AccountId) (few : k ≤ received.length + rebased.length) :
    Machine.after (Routine.effect (Write.perform account)) ((pullWrites record received rebased old).take k) store =
      store.putTransactions account ((received ++ rebased).take k) := by
  rw [take_pullWrites_before few]
  exact (additions_succeed store account _).2

theorem after_take_after (record : Account) (received rebased : List Transaction) (distinct : old.Nodup)
    (stored : ∀ id ∈ old, store.transaction? record.uuid id ≠ none)
    (many : received.length + rebased.length < k) :
    Machine.after (Routine.effect (Write.perform record.uuid)) ((pullWrites record received rebased old).take k)
        store =
      store.adopted record received rebased (old.take (k - (received.length + rebased.length) - 1)) := by
  rw [take_pullWrites_after many]
  exact (pullWrites_succeed record received rebased rfl (distinct.sublist (List.take_sublist _ _)) fun id member =>
    stored id (List.mem_of_mem_take member)).2

theorem Store.transaction?_adopted_part {owner : AccountId} {id : TransactionId} {tx : Transaction}
    (fewer : part ⊆ old)
    (stored : (store.adopted record received rebased old).transaction? owner id = some tx) :
    (store.adopted record received rebased part).transaction? owner id = some tx := by
  simp only [adopted, transaction?_removeTransactions] at stored ⊢
  by_cases collected : owner = record.uuid ∧ id ∈ part
  · rw [if_pos ⟨collected.1, fewer collected.2⟩] at stored
    cases stored
  · rw [if_neg collected]
    split at stored
    · cases stored
    · exact stored

end Cuts

/-- What a pull has made of the store when its write number `k` fails. -/
def cutAt (id : AccountId) (store : Store) (record : Account) (newer rebased pending : List Transaction) (k : Nat) :
    Store :=
  Machine.after (Routine.effect (Write.perform id))
    ((pullWrites (record.advanced newer rebased) newer rebased (pending.map Transaction.uuid)).take k) store

section Pull

variable {id : AccountId} {generate : Nat → TransactionId} {device : Device (Faulty Store)} {server : Store}
variable {record serverRecord : Account} {synced pending newer : List Transaction} {k : Nat}

theorem Honest.adopt_faulty (generate : Nat → TransactionId)
    (honest : Honest id device.repo.store server record serverRecord synced pending newer) (behind : newer ≠ [])
    (fresh : ∀ tx ∈ newer, device.repo.store.transaction? id tx.uuid = none) :
    let rebased := moved generate device.generated (tip Transaction.uuid [] newer) pending
    let writes := pullWrites (record.advanced newer rebased) newer rebased (pending.map Transaction.uuid)
    writes.length = newer.length + pending.length + 1 + pending.length ∧
    Routine.Succeed (Write.perform id) writes device.repo.store ∧
    Machine.after (Routine.effect (Write.perform id)) writes device.repo.store =
      device.repo.store.adopted (record.advanced newer rebased) newer rebased (pending.map Transaction.uuid) ∧
    adoptTransactions generate record newer device =
      (onRepo (writes.forM fun write => Faulty.write writeError (write.perform id)) >>=
        fun _ => pure (record.advanced newer rebased))
        { device with generated := device.generated + pending.length } := by
  intro rebased writes
  obtain rfl : record.uuid = id := honest.owner
  have unknown : ∀ key ∈ newer.map Transaction.uuid, device.repo.store.transaction? record.uuid key = none := by
    intro key member
    rcases List.mem_map.mp member with ⟨tx, present, rfl⟩
    exact fresh tx present
  obtain ⟨succeed, after⟩ := pullWrites_succeed (record.advanced newer rebased) newer rebased rfl
    honest.pending_distinct honest.pending_stored
  refine ⟨?_, succeed, after, ?_⟩
  · simp [writes, rebased, pullWrites]
    omega
  · rw [← funext (perform_faulty record.uuid)]
    apply adopt_writes behind _ honest.consistent
    · rw [eachTransaction_faulty]
      exact honest.collected
    · rw [checkUniqueness_faulty]
      exact checkUniqueness_fresh unknown

theorem adopt_known (generate : Nat → TransactionId)
    (known : ¬ ∀ tx ∈ newer, device.repo.store.transaction? record.uuid tx.uuid = none) :
    ∃ duplicate, adoptTransactions generate record newer device = (.err (.duplicateTransactionId duplicate), device) := by
  push Not at known
  rcases known with ⟨tx, member, present⟩
  rcases checkUniqueness_stored ⟨tx.uuid, List.mem_map_of_mem member, present⟩ with ⟨duplicate, _, _, check⟩
  rw [← checkUniqueness_faulty] at check
  exact ⟨duplicate, adopt_refused check⟩

theorem Honest.adopt_spared (generate : Nat → TransactionId)
    (honest : Honest id device.repo.store server record serverRecord synced pending newer) (behind : newer ≠ [])
    (fresh : ∀ tx ∈ newer, device.repo.store.transaction? id tx.uuid = none)
    (enough : ∀ k, device.repo.left = some k → newer.length + pending.length + 1 + pending.length ≤ k) :
    let rebased := moved generate device.generated (tip Transaction.uuid [] newer) pending
    ∃ left, adoptTransactions generate record newer device =
      (.ok (record.advanced newer rebased),
        ⟨⟨device.repo.store.adopted (record.advanced newer rebased) newer rebased (pending.map Transaction.uuid),
          left⟩, device.generated + pending.length⟩) := by
  intro rebased
  rcases honest.adopt_faulty generate behind fresh with ⟨length, succeed, after, run⟩
  rw [← length] at enough
  rcases device with ⟨⟨store, left⟩, generated⟩
  have written := Faulty.forM_spared writeError succeed enough
  rw [after] at written
  exact ⟨_, run.trans (Routine.bind_ok (onRepo_run written))⟩

theorem Honest.adopt_cut
    (honest : Honest id device.repo.store server record serverRecord synced pending newer) (behind : newer ≠ [])
    (fresh : ∀ tx ∈ newer, device.repo.store.transaction? id tx.uuid = none) (cut : device.repo.left = some k)
    (short : k < newer.length + pending.length + 1 + pending.length) :
    let rebased := moved generate device.generated (tip Transaction.uuid [] newer) pending
    adoptTransactions generate record newer device =
      (.err writeError, ⟨⟨cutAt id device.repo.store record newer rebased pending k, none⟩,
        device.generated + pending.length⟩) := by
  intro rebased
  rcases honest.adopt_faulty generate behind fresh with ⟨length, succeed, _, run⟩
  rw [← length] at short
  rcases device with ⟨⟨store, left⟩, generated⟩
  obtain rfl : left = some k := cut
  exact run.trans (Routine.bind_err (onRepo_run (Faulty.forM_cut writeError succeed short)))

/-- Up to the write of the account record the history is read as before. -/
theorem Honest.cut_before
    (honest : Honest id device.repo.store server record serverRecord synced pending newer)
    (fresh : ∀ tx ∈ newer, device.repo.store.transaction? id tx.uuid = none)
    (ids : FreshIds generate device.generated fun key =>
      device.repo.store.transaction? id key ≠ none ∨ key ∈ newer.map Transaction.uuid)
    (few : k ≤ newer.length + pending.length) :
    let rebased := moved generate device.generated (tip Transaction.uuid [] newer) pending
    Replica id (cutAt id device.repo.store record newer rebased pending k) record synced pending := by
  intro rebased
  have cut : cutAt id device.repo.store record newer rebased pending k =
      device.repo.store.putTransactions id ((newer ++ rebased).take k) :=
    after_take_before id (by rwa [moved_length])
  rw [cut]
  refine ⟨?_, Chained.congr honest.read fun tx member => ?_, honest.base⟩
  · rw [Store.account?_putTransactions]
    exact honest.found
  · apply Store.transaction?_putTransactions_absent
    intro _ again
    have stored := (honest.read.stored tx member).2
    rcases List.mem_map.mp again with ⟨new, among, same⟩
    rcases List.mem_append.mp (List.mem_of_mem_take among) with pulled | renamed
    · rw [← same, fresh new pulled] at stored
      cases stored
    · rcases mem_moved _ _ _ renamed with ⟨n, later, _, drawn⟩
      apply ids.unused n later (.inl _)
      rw [← drawn, same, stored]
      simp

/-- From then on the new history is read, whichever old transactions are left. -/
theorem Honest.cut_after
    (honest : Honest id device.repo.store server record serverRecord synced pending newer) (behind : newer ≠ [])
    (fresh : ∀ tx ∈ newer, device.repo.store.transaction? id tx.uuid = none)
    (ids : FreshIds generate device.generated fun key =>
      device.repo.store.transaction? id key ≠ none ∨ key ∈ newer.map Transaction.uuid)
    (many : newer.length + pending.length < k) :
    let rebased := moved generate device.generated (tip Transaction.uuid [] newer) pending
    Honest id (cutAt id device.repo.store record newer rebased pending k) server
      (record.advanced newer rebased) serverRecord (synced ++ newer) rebased [] := by
  intro rebased
  obtain rfl : record.uuid = id := honest.owner
  let part := (pending.map Transaction.uuid).take (k - (newer.length + rebased.length) - 1)
  have cut : cutAt record.uuid device.repo.store record newer rebased pending k =
      device.repo.store.adopted (record.advanced newer rebased) newer rebased part :=
    after_take_after (record.advanced newer rebased) newer rebased honest.pending_distinct honest.pending_stored
      (by rwa [moved_length])
  let spared : Device Store := ⟨device.repo.store, device.generated⟩
  have whole : Honest record.uuid spared.repo server record serverRecord synced pending newer := honest
  rcases whole.pulled behind fresh fun _ => ids with ⟨_, after⟩
  rw [cut]
  refine ⟨⟨?_, Chained.congr after.read fun tx member => ?_, after.base⟩, after.remote_found, after.remote_read⟩
  · rw [Store.account?_adopted]
    exact if_pos rfl
  · have stored := (after.read.stored tx member).2
    rw [stored]
    exact Store.transaction?_adopted_part (List.take_subset _ _) stored

end Pull

/-- What a sync makes of a history, as far as it comes: nothing, or the pending transactions are moved
    behind what was fetched. -/
def Advances (synced pending newer synced' sent : List Transaction) : Prop :=
  (synced' = synced ∧ sent = pending) ∨
    (synced' = synced ++ newer ∧ sent.map Transaction.content = pending.map Transaction.content)

section Runs

variable {id : AccountId} {generate : Nat → TransactionId} {device : Device (Faulty Store)} {server : Store}
variable {record serverRecord : Account} {synced pending newer : List Transaction} {fault : Option (Nat × Disturbance)}

theorem Honest.adopt_advances
    (honest : Honest id device.repo.store server record serverRecord synced pending newer)
    (ids : FreshIds generate device.generated fun key =>
      device.repo.store.transaction? id key ≠ none ∨ key ∈ newer.map Transaction.uuid) :
    ∃ outcome device', adoptTransactions generate record newer device = (outcome, device') ∧
      ∃ record' synced' sent, Replica id device'.repo.store record' synced' sent ∧
        Advances synced pending newer synced' sent ∧ ((∃ error, outcome = .err error) ∨ outcome = .ok record') := by
  obtain rfl : record.uuid = id := honest.owner
  by_cases behind : newer = []
  · subst behind
    exact ⟨_, _, rfl, record, synced, pending, honest.toReplica, .inl ⟨rfl, rfl⟩, .inl ⟨_, rfl⟩⟩
  by_cases fresh : ∀ tx ∈ newer, device.repo.store.transaction? record.uuid tx.uuid = none
  · have contents := moved_content generate device.generated (tip Transaction.uuid [] newer) pending
    by_cases short : ∃ k, device.repo.left = some k ∧ k < newer.length + pending.length + 1 + pending.length
    · rcases short with ⟨k, cut, short⟩
      refine ⟨_, _, honest.adopt_cut behind fresh cut short, ?_⟩
      by_cases few : k ≤ newer.length + pending.length
      · exact ⟨record, synced, pending, honest.cut_before fresh ids few, .inl ⟨rfl, rfl⟩, .inl ⟨_, rfl⟩⟩
      · have after := honest.cut_after behind fresh ids (Nat.lt_of_not_le few)
        exact ⟨_, _, _, after.toReplica, .inr ⟨rfl, contents⟩, .inl ⟨_, rfl⟩⟩
    · obtain ⟨left, run⟩ := honest.adopt_spared generate behind fresh (by
        intro k cut
        by_contra fewer
        exact short ⟨k, cut, by omega⟩)
      let spared : Device Store := ⟨device.repo.store, device.generated⟩
      have whole : Honest record.uuid spared.repo server record serverRecord synced pending newer := honest
      rcases whole.pulled behind fresh fun _ => ids with ⟨_, after⟩
      exact ⟨_, _, run, _, _, _, after.toReplica, .inr ⟨rfl, contents⟩, .inr rfl⟩
  · rcases adopt_known generate fresh with ⟨duplicate, refused⟩
    exact ⟨_, _, refused, record, synced, pending, honest.toReplica, .inl ⟨rfl, rfl⟩, .inl ⟨_, rfl⟩⟩

theorem remote_run {σ ω : Type} [Repository σ] {answer : (call : RemoteCall) → ω → call.Reply × ω} {call : RemoteCall}
    {partner partner' : ω} {reply : call.Reply} (device : Device σ) (answered : answer call partner = (reply, partner')) :
    (remote call device).run answer partner = ((reply, device), partner') := by
  rw [remote, Process.run_request, answered]

theorem perform_run {σ ω α : Type} {answer : (call : RemoteCall) → ω → call.Reply × ω}
    {routine : Routine σ ErrorKind α} {device : Device σ} {result : Outcome ErrorKind α} {repo : σ}
    (run : routine device.repo = (result, repo)) (partner : ω) :
    (Process.perform (onRepo routine) device : Resumption RemoteCall RemoteCall.Reply _ _).run answer partner =
      ((result, { device with repo := repo }), partner) := by
  rw [Process.run_perform, onRepo_run run]

theorem sync_opens {σ ω : Type} [Repository σ] {answer : (call : RemoteCall) → ω → call.Reply × ω}
    {device : Device σ} (read : getAccount id device.repo = .ok record) (partner : ω) :
    (sync generate id device).run answer partner =
      ((rebaseLocalTransactions generate record >>= pushLocalTransactions) device).run answer partner := by
  unfold sync
  exact Process.run_bind_ok (perform_run (by rw [Routine.view_apply, read]) partner)

theorem Honest.rebase_advances
    (honest : Honest id device.repo.store server record serverRecord synced pending newer)
    (ids : FreshIds generate device.generated fun key =>
      device.repo.store.transaction? id key ≠ none ∨ key ∈ newer.map Transaction.uuid)
    (fault : Option (Nat × Disturbance)) :
    ∃ outcome device' line, (rebaseLocalTransactions generate record device).run Line.answer ⟨server, fault⟩ =
        ((outcome, device'), line) ∧
      ∃ record' synced' sent, Replica id device'.repo.store record' synced' sent ∧
        Advances synced pending newer synced' sent ∧ ((∃ error, outcome = .err error) ∨ outcome = .ok record') := by
  obtain rfl : record.uuid = id := honest.owner
  have still : Advances synced pending newer synced pending := .inl ⟨rfl, rfl⟩
  unfold rebaseLocalTransactions
  rcases Line.answer_read ⟨server, fault⟩ honest.answer_latest with ⟨fault', first⟩
  rcases first with ⟨error, failed⟩ | replied
  · exact ⟨_, _, _, Process.run_bind_err (remote_run device failed), record, synced, pending, honest.toReplica,
      still, .inl ⟨_, rfl⟩⟩
  · rw [Process.run_bind_ok (remote_run device replied)]
    by_cases same : record.latestSynchronizedTransaction = serverRecord.latestTransaction
    · rw [if_pos same]
      exact ⟨_, _, _, rfl, record, synced, pending, honest.toReplica, still, .inr rfl⟩
    · rw [if_neg same]
      rcases Line.answer_read ⟨server, fault'⟩ honest.answer_children with ⟨fault'', second⟩
      rcases second with ⟨error, failed⟩ | replied
      · exact ⟨_, _, _, Process.run_bind_err (remote_run device failed), record, synced, pending, honest.toReplica,
          still, .inl ⟨_, rfl⟩⟩
      · rw [Process.run_bind_ok (remote_run device replied)]
        rcases honest.adopt_advances ids with ⟨outcome, device', run, rest⟩
        exact ⟨outcome, device', _, by rw [Process.run_perform, run], rest⟩

theorem Replica.push_faulty (replica : Replica id device.repo.store record synced pending) (line : Line) :
    ∃ outcome device' line', (pushLocalTransactions record device).run Line.answer line = ((outcome, device'), line') ∧
      ∃ record', device'.repo.store.account? id = some record' ∧
        record'.latestTransaction = record.latestTransaction ∧
        (record'.latestSynchronizedTransaction = record.latestSynchronizedTransaction ∨
          record'.latestSynchronizedTransaction = record.latestTransaction) ∧
        ∀ key, device'.repo.store.transaction? id key = device.repo.store.transaction? id key := by
  obtain rfl : record.uuid = id := replica.owner
  have collected : (Process.perform (Routine.view fun device : Device (Faulty Store) =>
      eachTransaction device.repo record [] (collectUntil record.latestSynchronizedTransaction)) device :
        Resumption RemoteCall RemoteCall.Reply _ _).run Line.answer line = ((.ok pending.reverse, device), line) := by
    rw [Process.run_perform, Routine.view_apply, eachTransaction_faulty, replica.collected]
  unfold pushLocalTransactions
  rw [Process.run_bind_ok collected]
  by_cases empty : pending = []
  · subst empty
    exact ⟨_, _, _, rfl, record, replica.found, rfl, .inl rfl, fun _ => rfl⟩
  · simp only [List.isEmpty_reverse, List.isEmpty_iff, empty, if_false]
    cases replied : Line.answer (.receiveTransactions record.uuid pending.reverse.reverse) line with
    | mk reply line' =>
      cases reply with
      | err error =>
        exact ⟨_, _, _, Process.run_bind_err (remote_run device replied), record, replica.found, rfl, .inl rfl,
          fun _ => rfl⟩
      | hang =>
        exact ⟨_, _, _, Process.run_bind_hang (remote_run device replied), record, replica.found, rfl, .inl rfl,
          fun _ => rfl⟩
      | ok value =>
        rw [Process.run_bind_ok (remote_run device replied)]
        have marks : setLatestSynchronizedTransaction record.uuid record.latestTransaction device.repo.store =
            (.ok (), device.repo.store.putAccount record.synchronized) :=
          Store.setLatestSynchronizedTransaction_some replica.found
        have marked : (device.repo.store.putAccount record.synchronized).account? record.uuid =
            some record.synchronized := by
          rw [Store.account?_putAccount]
          exact if_pos rfl
        rcases Faulty.write_cases writeError (setLatestSynchronizedTransaction record.uuid record.latestTransaction)
          device.repo with failed | ⟨left, written⟩
        · exact ⟨_, _, _, Process.run_bind_err (perform_run failed _), record, replica.found, rfl, .inl rfl,
            fun _ => rfl⟩
        · rw [marks] at written
          have first : (setLatestSynchronizedTransaction record.uuid record.latestTransaction :
              Routine (Faulty Store) ErrorKind Unit) device.repo =
                (.ok (), ⟨device.repo.store.putAccount record.synchronized, left⟩) := written
          rw [Process.run_bind_ok (perform_run first _)]
          rcases Faulty.write_cases writeError (Repository.addAccount record.synchronized)
            ⟨device.repo.store.putAccount record.synchronized, left⟩ with failed | ⟨left', written'⟩
          · have second : (Repository.addAccount record.synchronized : Routine (Faulty Store) ErrorKind Unit)
                ⟨device.repo.store.putAccount record.synchronized, left⟩ =
                  (.err writeError, ⟨device.repo.store.putAccount record.synchronized, none⟩) := failed
            exact ⟨_, ⟨⟨_, none⟩, device.generated⟩, line', perform_run second _, record.synchronized, marked,
              rfl, .inr rfl, fun _ => rfl⟩
          · have second : (Repository.addAccount record.synchronized : Routine (Faulty Store) ErrorKind Unit)
                ⟨device.repo.store.putAccount record.synchronized, left⟩ =
                  (.ok (), ⟨(device.repo.store.putAccount record.synchronized).putAccount record.synchronized,
                    left'⟩) := written'
            have again : ((device.repo.store.putAccount record.synchronized).putAccount
                record.synchronized).account? record.uuid = some record.synchronized := by
              rw [Store.account?_putAccount]
              exact if_pos rfl
            exact ⟨_, ⟨⟨_, left'⟩, device.generated⟩, line', perform_run second _, record.synchronized, again,
              rfl, .inr rfl, fun _ => rfl⟩

theorem Honest.sync_advances
    (honest : Honest id device.repo.store server record serverRecord synced pending newer)
    (ids : FreshIds generate device.generated fun key =>
      device.repo.store.transaction? id key ≠ none ∨ key ∈ newer.map Transaction.uuid)
    (fault : Option (Nat × Disturbance)) :
    ∃ outcome device' line, (sync generate id device).run Line.answer ⟨server, fault⟩ = ((outcome, device'), line) ∧
      ∃ record' synced' sent, Advances synced pending newer synced' sent ∧
        device'.repo.store.account? id = some record' ∧
        device'.repo.store.ChainAt id record'.latestTransaction (synced' ++ sent) ∧
        (record'.latestSynchronizedTransaction = tip Transaction.uuid [] synced' ∨
          record'.latestSynchronizedTransaction = tip Transaction.uuid [] (synced' ++ sent)) := by
  obtain rfl : record.uuid = id := honest.owner
  obtain ⟨outcome, device', line, run, record', synced', sent, replica, advances, ended⟩ :=
    honest.rebase_advances ids fault
  have opens : getAccount record.uuid device.repo = .ok record := Store.getAccount_some honest.found
  rw [sync_opens opens]
  rcases ended with ⟨error, rfl⟩ | rfl
  · exact ⟨_, _, _, Process.run_bind_err run, record', synced', sent, advances, replica.found, replica.read,
      .inl replica.base⟩
  · rw [Process.run_bind_ok run]
    obtain ⟨outcome', device'', line', run', record'', found, latest, synchronized, kept⟩ :=
      replica.push_faulty line
    refine ⟨outcome', device'', line', run', record'', synced', sent, advances, found, ?_, ?_⟩
    · rw [latest]
      exact Chained.congr replica.read fun tx _ => kept tx.uuid
    · rw [← replica.base, ← replica.read.head_eq]
      exact synchronized

end Runs

/-- The history after a sync that may have failed anywhere. -/
structure Undamaged (id : AccountId) (store : Store) (synced pending newer : List Transaction) (record : Account)
    (chain sent : List Transaction) : Prop where
  found : store.account? id = some record
  read : store.ChainAt id record.latestTransaction chain
  distinct : (chain.map Transaction.uuid).Nodup
  shape : (sent = pending ∧ chain = synced ++ pending) ∨ chain = synced ++ newer ++ sent
  contents : sent.map Transaction.content = pending.map Transaction.content
  synchronized : record.latestSynchronizedTransaction = [] ∨
    record.latestSynchronizedTransaction ∈ chain.map Transaction.uuid

theorem tip_nil_or_mem (older newer : List Transaction) :
    tip Transaction.uuid [] older = [] ∨ tip Transaction.uuid [] older ∈ (older ++ newer).map Transaction.uuid := by
  by_cases empty : older = []
  · exact .inl (by rw [empty]; rfl)
  · rw [List.map_append, List.mem_append]
    exact .inr (.inl (tip_mem Transaction.uuid [] empty))

namespace World

variable {ι : Type} [DecidableEq ι]
variable {id : AccountId} {generate : ι → Nat → TransactionId} {start world : World ι} {events : List (Event ι)}

/-- A sync of one client in which the write that `left` others come before fails, or a call. -/
def disturbed (id : AccountId) (generate : ι → Nat → TransactionId) (world : World ι) (client : ι)
    (left : Option Nat) (fault : Option (Nat × Disturbance)) :
    (Outcome ErrorKind Unit × Device (Faulty Store)) × Line :=
  (sync (generate client) id
    ⟨⟨(world.clients client).state.repo, left⟩, (world.clients client).state.generated⟩).run Line.answer
    ⟨world.server, fault⟩

/-- Wherever a sync stops: the history is what it was, or the pending transactions are moved behind
    what was fetched. -/
theorem failing_sync_keeps_history (generators : Generators generate) (initial : start.Initial id)
    (run : World.Run id generate start events world) (client : ι) (left : Option Nat)
    (fault : Option (Nat × Disturbance)) :
    ∃ record serverRecord synced pending newer,
      Honest id (world.clients client).state.repo world.server record serverRecord synced pending newer ∧
      ∃ record' chain sent, Undamaged id (world.disturbed id generate client left fault).1.2.repo.store
        synced pending newer record' chain sent := by
  rcases initial.coherent with ⟨_, vacant⟩
  rcases vacant.run generators run with ⟨serverRecord, chain, lost, coherent, _⟩
  rcases coherent.follows client with ⟨record, synced, pending, newer, _, tracks, _⟩
  have injective : Function.Injective (generate client) :=
    fun n m same => (generators.once client client n m same).2
  let device : Device (Faulty Store) :=
    ⟨⟨(world.clients client).state.repo, left⟩, (world.clients client).state.generated⟩
  have honest : Honest id device.repo.store world.server record serverRecord synced pending newer := tracks.toHonest
  obtain ⟨outcome, device', line, ran, record', synced', sent, advances, found, read, base⟩ :=
    honest.sync_advances (tracks.freshIds injective (generators.nonempty client)) fault
  refine ⟨record, serverRecord, synced, pending, newer, honest, record', synced' ++ sent, sent, ?_⟩
  have ended : (world.disturbed id generate client left fault).1.2 = device' := by
    rw [disturbed, ran]
  rw [ended]
  refine ⟨found, read, Chained.nodup read, ?_, ?_, ?_⟩
  · rcases advances with ⟨rfl, rfl⟩ | ⟨rfl, _⟩
    · exact .inl ⟨rfl, rfl⟩
    · exact .inr rfl
  · rcases advances with ⟨_, rfl⟩ | ⟨_, contents⟩
    · rfl
    · exact contents
  · rcases base with here | here
    · rw [here]
      exact tip_nil_or_mem synced' sent
    · have onChain := tip_nil_or_mem (synced' ++ sent) []
      rw [List.append_nil] at onChain
      rw [here]
      exact onChain

theorem failing_sync_keeps_history_entered :
    (pushed_two.disturbed [7] twoGenerators true (some 1) none).1.1 = .err writeError ∧
    ∃ serverRecord synced pending newer record' chain sent,
      Honest [7] (pushed_two.clients true).state.repo pushed_two.server
        { makeAccount [7] with latestTransaction := [1] } serverRecord synced pending newer ∧
      Undamaged [7] (pushed_two.disturbed [7] twoGenerators true (some 1) none).1.2.repo.store
        synced pending newer record' chain sent := by
  have initial : (World.fresh (makeAccount [7]) : World Bool).Initial [7] := fresh_initial (makeAccount [7]) rfl rfl
  have found : (pushed_two.clients true).state.repo.account? [7] =
      some { makeAccount [7] with latestTransaction := [1] } := by decide +kernel
  rcases pushed_two_run with ⟨_, run⟩
  obtain ⟨record, serverRecord, synced, pending, newer, honest, record', chain, sent, undamaged⟩ :=
    failing_sync_keeps_history twoGenerators_generators initial run true (some 1) none
  obtain rfl := Option.some.inj (honest.found.symm.trans found)
  exact ⟨by decide +kernel, serverRecord, synced, pending, newer, record', chain, sent, honest, undamaged⟩

end World

end Flouze
