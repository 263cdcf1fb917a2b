import Flouze.Sync.World

namespace Flouze

open Linked Repository

namespace World

variable {ι : Type} [DecidableEq ι]
variable {id : AccountId} {generate : ι → Nat → TransactionId} {start world after : World ι}
variable {events more : List (Event ι)}

def entered_one : World Bool :=
  let start : World Bool := World.fresh (makeAccount [7])
  start.put start.server false
    ⟨⟨(Ffi.addTransaction [7] (makeTransaction [0] []) (start.clients false).state.repo).2, 1⟩, none⟩

theorem entered_one_run :
    World.Run [7] twoGenerators (World.fresh (makeAccount [7])) [.append false (makeTransaction [0] [])]
      entered_one := by
  have found : (Store.empty.putAccount (makeAccount [7])).account? [7] = some (makeAccount [7]) := by decide
  exact .step .nil (.append rfl found rfl rfl)

def entered_two : World Bool :=
  entered_one.put entered_one.server true
    ⟨⟨(Ffi.addTransaction [7] (makeTransaction [1] []) (entered_one.clients true).state.repo).2, 1⟩, none⟩

theorem entered_two_run :
    World.Run [7] twoGenerators (World.fresh (makeAccount [7]))
      [.append false (makeTransaction [0] []), .append true (makeTransaction [1] [])] entered_two := by
  have found : (entered_one.clients true).state.repo.account? [7] = some (makeAccount [7]) := by decide
  exact .step entered_one_run (.append rfl found rfl rfl)

/-- The first client has pushed, and the second one does not know of it yet. -/
def pushed_two : World Bool := entered_two.synced [7] twoGenerators false

theorem pushed_two_run : ∃ calls,
    World.Run [7] twoGenerators (World.fresh (makeAccount [7]))
      ([.append false (makeTransaction [0] []), .append true (makeTransaction [1] [])] ++
        .start false :: List.replicate calls (.reply false)) pushed_two := by
  rcases synced_run [7] twoGenerators entered_two false rfl with ⟨calls, run⟩
  exact ⟨calls, entered_two_run.trans run⟩

/-- The second client has pulled, and pushed its own transaction under a new id. -/
def rebased_two : World Bool := pushed_two.synced [7] twoGenerators true

theorem rebased_two_run : ∃ calls calls',
    World.Run [7] twoGenerators (World.fresh (makeAccount [7]))
      ([.append false (makeTransaction [0] []), .append true (makeTransaction [1] [])] ++
        .start false :: List.replicate calls (.reply false) ++
        .start true :: List.replicate calls' (.reply true)) rebased_two := by
  rcases pushed_two_run with ⟨calls, first⟩
  rcases synced_run [7] twoGenerators pushed_two true rfl with ⟨calls', second⟩
  exact ⟨calls, calls', first.trans second⟩

/-- At every moment of every run the server's chain can be read and is only ever extended, every
    client's chain is a part of it and what the client has still to push, and what was entered on a
    client is there, once and in its order. -/
theorem no_update_lost (generators : Generators generate) (initial : start.Initial id)
    (run : World.Run id generate start events world) (rest : World.Run id generate world more after) :
    ∃ chain batch,
      world.server.Chain id chain ∧ (chain.map Transaction.uuid).Nodup ∧
      after.server.Chain id (chain ++ batch) ∧
      (∀ tx ∈ chain, ∃ client, tx.uuid ∈ Set.range (generate client)) ∧
      ∀ client, ∃ record synced pending,
        (world.clients client).state.repo.account? id = some record ∧
        (world.clients client).state.repo.ChainAt id record.latestTransaction (synced ++ pending) ∧
        ((synced ++ pending).map Transaction.uuid).Nodup ∧
        record.latestSynchronizedTransaction = tip Transaction.uuid [] synced ∧
        synced <+: chain ∧
        contentsOf (generate client) (synced ++ pending) = entered client events ∧
        contentsOf (generate client) chain <+: entered client events := by
  rcases initial.coherent with ⟨_, vacant⟩
  rcases vacant.run generators run with ⟨serverRecord, chain, lost, coherent, _⟩
  rcases coherent.run generators rest with ⟨serverRecord', batch, _, later, _⟩
  simp only [List.nil_append] at coherent later
  refine ⟨chain, batch, ⟨serverRecord, coherent.found, coherent.read⟩, coherent.read.nodup,
    ⟨serverRecord', later.found, later.read⟩, coherent.owned, ?_⟩
  intro client
  rcases coherent.follows client with ⟨record, synced, pending, newer, rfl, tracks, _⟩
  have logged := tracks.logged
  refine ⟨record, synced, pending, tracks.found, tracks.read, tracks.read.nodup, tracks.base,
    List.prefix_append _ _, ?_, ?_⟩
  · rw [contentsOf_append, contentsOf_own _ tracks.own, logged]
  · rw [contentsOf_append, ← logged]
    apply List.prefix_append_right_inj _ |>.mpr
    exact tracks.mode.contents_prefix tracks.own

theorem no_update_lost_entered : ∃ chain batch,
    rebased_two.server.Chain [7] chain ∧ (chain.map Transaction.uuid).Nodup ∧
    (rebased_two.synced [7] twoGenerators false).server.Chain [7] (chain ++ batch) ∧
    ∀ client, ∃ record synced pending,
      (rebased_two.clients client).state.repo.account? [7] = some record ∧
      synced <+: chain ∧
      contentsOf (twoGenerators client) (synced ++ pending) = [(makeTransaction [0] []).content] := by
  have initial : (World.fresh (makeAccount [7]) : World Bool).Initial [7] := fresh_initial (makeAccount [7]) rfl rfl
  rcases rebased_two_run with ⟨calls, calls', run⟩
  rcases synced_run [7] twoGenerators rebased_two false rfl with ⟨_, rest⟩
  obtain ⟨chain, batch, before, once, after, _, clients⟩ :=
    no_update_lost twoGenerators_generators initial run rest
  refine ⟨chain, batch, before, once, after, fun client => ?_⟩
  rcases clients client with ⟨record, synced, pending, found, _, _, _, part, contents, _⟩
  refine ⟨record, synced, pending, found, part, contents.trans ?_⟩
  cases client <;> simp [entered, Event.entered, Transaction.content, makeTransaction]

/-- As long as no reply was lost, a sync that nobody disturbs makes both sides equal: the server's
    history first, then what was pending, and a second one finds nothing to do. -/
theorem undisturbed_sync (generators : Generators generate) (initial : start.Initial id)
    (run : World.Run id generate start events world) (kept : ∀ client error, .lost client error ∉ events)
    (client : ι) :
    ∃ record serverRecord chain serverChain,
      (world.clients client).state.repo.account? id = some record ∧
      (world.clients client).state.repo.ChainAt id record.latestTransaction chain ∧
      world.server.account? id = some serverRecord ∧
      world.server.ChainAt id serverRecord.latestTransaction serverChain ∧
    ∃ device server record' serverRecord' rebased,
      (sync (generate client) id (world.clients client).state).run ServerRpcImpl.answer world.server =
        ((.ok (), device), server) ∧
      rebased.map Transaction.content =
        (since Transaction.uuid record.latestSynchronizedTransaction chain).map Transaction.content ∧
      device.repo.account? id = some record' ∧
      device.repo.ChainAt id record'.latestTransaction (serverChain ++ rebased) ∧
      server.account? id = some serverRecord' ∧
      server.ChainAt id serverRecord'.latestTransaction (serverChain ++ rebased) ∧
      record'.latestTransaction = serverRecord'.latestTransaction ∧
      record'.latestSynchronizedTransaction = serverRecord'.latestTransaction ∧
      Framed id (world.clients client).state.repo device.repo ∧ Framed id world.server server ∧
      (sync (generate client) id device).run ServerRpcImpl.answer server = ((.ok (), device), server) := by
  rcases initial.coherent with ⟨_, vacant⟩
  rcases vacant.run generators run with ⟨serverRecord, chain, lost, coherent, _, unlost⟩
  rcases coherent.follows client with ⟨record, synced, pending, newer, split, tracks, _⟩
  have honest := tracks.toHonest
  rw [unlost client (kept client)] at tracks
  have injective : Function.Injective (generate client) :=
    fun n m same => (generators.once client client n m same).2
  obtain ⟨device, server, record', serverRecord', result, after, local_frame, remote_frame⟩ :=
    honest.sync_run_full (generate client) (tracks.newer_fresh (unacknowledged_nil.mp tracks.mode))
      (fun _ => tracks.freshIds injective (generators.nonempty client))
  have here := after.read
  have there := after.remote_read
  rw [List.append_nil] at here there
  refine ⟨record, serverRecord, synced ++ pending, synced ++ newer, honest.found, honest.read,
    honest.remote_found, honest.remote_read, device, server, record', serverRecord', _, result, ?_,
    after.found, here, after.remote_found, there, ?_, ?_, local_frame, remote_frame, after.sync_run_idle⟩
  · rw [honest.pending_eq]
    exact rebasedOnto_content _ _ newer pending
  · rw [here.head_eq, there.head_eq]
  · rw [after.base, there.head_eq]

theorem undisturbed_sync_entered : ∃ device server record,
    (sync (twoGenerators true) [7] (pushed_two.clients true).state).run ServerRpcImpl.answer pushed_two.server =
        ((.ok (), device), server) ∧
      server.account? [7] = some record ∧ Framed [7] pushed_two.server server ∧
      (sync (twoGenerators true) [7] device).run ServerRpcImpl.answer server = ((.ok (), device), server) := by
  have initial : (World.fresh (makeAccount [7]) : World Bool).Initial [7] :=
    fresh_initial (makeAccount [7]) rfl rfl
  rcases pushed_two_run with ⟨calls, run⟩
  obtain ⟨_, _, _, _, _, _, _, _, device, server, _, record, _, synced, _, _, _, found, _, _, _, _, framed, again⟩ :=
    undisturbed_sync twoGenerators_generators initial run (by simp) true
  exact ⟨device, server, record, synced, found, framed, again⟩

def asking_one : World Bool :=
  let record := { makeAccount [7] with latestTransaction := [0] }
  entered_one.put entered_one.server false ⟨(entered_one.clients false).state,
    some ⟨.getLatestTransaction [7], Process.andThen (onLatest (twoGenerators false) record)⟩⟩

def sending_one : World Bool :=
  let record := { makeAccount [7] with latestTransaction := [0] }
  entered_one.put entered_one.server false ⟨(entered_one.clients false).state,
    some ⟨.receiveTransactions [7] [makeTransaction [0] []], Process.andThen (onReceipt record)⟩⟩

theorem asking_one_step : World.Step [7] twoGenerators entered_one (.start false) asking_one := by
  have found : (entered_one.clients false).state.repo.account? [7] =
      some { makeAccount [7] with latestTransaction := [0] } := by decide
  have step : World.Step [7] twoGenerators entered_one (.start false) _ := .start rfl
  rw [sync_start found] at step
  exact step

theorem sending_one_step : World.Step [7] twoGenerators asking_one (.reply false) sending_one := by
  let record := { makeAccount [7] with latestTransaction := [0] }
  let wait : SyncPending :=
    ⟨.getLatestTransaction [7], Process.andThen (onLatest (twoGenerators false) record)⟩
  have waits : (asking_one.clients false).pending = some wait := rfl
  have step : World.Step [7] twoGenerators asking_one (.reply false) _ := .reply waits
  simp only [asking_one, put_put] at step
  exact step

theorem sending_one_run :
    World.Run [7] twoGenerators (World.fresh (makeAccount [7]))
      [.append false (makeTransaction [0] []), .start false, .reply false] sending_one :=
  .step (.step entered_one_run asking_one_step) sending_one_step

def pushed_one : World Bool := entered_one.synced [7] twoGenerators false

theorem pushed_one_step : World.Step [7] twoGenerators sending_one (.reply false) pushed_one := by
  let record := { makeAccount [7] with latestTransaction := [0] }
  have waits : (sending_one.clients false).pending = some
      ⟨.receiveTransactions [7] [makeTransaction [0] []], Process.andThen (onReceipt record)⟩ := rfl
  have step : World.Step [7] twoGenerators sending_one (.reply false) _ := .reply waits
  simp only [sending_one, put_put] at step
  exact step

theorem pushed_one_run :
    World.Run [7] twoGenerators (World.fresh (makeAccount [7]))
      [.append false (makeTransaction [0] []), .start false, .reply false, .reply false] pushed_one :=
  .step sending_one_run pushed_one_step

/-- The server has the transaction, and the client got an error. -/
def unheard_one : World Bool :=
  entered_one.put
    (ServerRpcImpl.answer (.receiveTransactions [7] [makeTransaction [0] []]) entered_one.server).2 false
    ⟨(entered_one.clients false).state, none⟩

theorem unheard_one_step :
    World.Step [7] twoGenerators sending_one (.lost false (.jsonRpcClientError "timeout")) unheard_one := by
  let record := { makeAccount [7] with latestTransaction := [0] }
  have waits : (sending_one.clients false).pending = some
      ⟨.receiveTransactions [7] [makeTransaction [0] []], Process.andThen (onReceipt record)⟩ := rfl
  have step : World.Step [7] twoGenerators sending_one (.lost false (.jsonRpcClientError "timeout")) _ :=
    .lost _ waits
  simp only [sending_one, put_put] at step
  exact step

theorem lost_reply_not_recovered :
    World.Run [7] twoGenerators (World.fresh (makeAccount [7]))
      [.append false (makeTransaction [0] []), .start false, .reply false] sending_one ∧
    (ServerRpcImpl.answer (.receiveTransactions [7] [makeTransaction [0] []]) sending_one.server).1 = .ok () ∧
    World.Step [7] twoGenerators sending_one (.lost false (.jsonRpcClientError "timeout")) unheard_one ∧
    ((sync (twoGenerators false) [7] (unheard_one.clients false).state).run ServerRpcImpl.answer
      unheard_one.server).1.1 = .err (.duplicateTransactionId [0]) :=
  ⟨sending_one_run, by decide, unheard_one_step, by decide⟩

/-- Once the reply to an accepted batch was lost, every undisturbed sync of that client is refused
    because of a transaction that both sides have, and leaves both sides as they are. Nothing that
    was entered is lost or there twice. -/
theorem lost_reply_refuses_sync (generators : Generators generate) (initial : start.Initial id)
    (run : World.Run id generate start events world) {client : ι}
    {batch : List Transaction} {resume : RemoteCall.Reply (.receiveTransactions id batch) → Device Store →
      Resumption RemoteCall RemoteCall.Reply (Device Store) (Outcome ErrorKind Unit)}
    (waits : (world.clients client).pending = some ⟨.receiveTransactions id batch, resume⟩)
    (accepted : (ServerRpcImpl.answer (.receiveTransactions id batch) world.server).1 = .ok ())
    {error : ErrorKind} {unheard : World ι}
    (lost : World.Step id generate world (.lost client error) unheard)
    (rest : World.Run id generate unheard more after) :
    ∃ chain serverChain duplicate,
      (after.clients client).state.repo.Chain id chain ∧ after.server.Chain id serverChain ∧
      duplicate ∈ chain.map Transaction.uuid ∧ duplicate ∈ serverChain.map Transaction.uuid ∧
      (sync (generate client) id (after.clients client).state).run ServerRpcImpl.answer after.server =
        ((.err (.duplicateTransactionId duplicate), (after.clients client).state), after.server) ∧
      (chain.map Transaction.uuid).Nodup ∧ (serverChain.map Transaction.uuid).Nodup ∧
      (∀ tx ∈ batch, tx ∈ chain ∧ tx ∈ serverChain) ∧
      contentsOf (generate client) chain = entered client (events ++ [.lost client error] ++ more) ∧
      contentsOf (generate client) serverChain <+: contentsOf (generate client) chain := by
  rcases initial.coherent with ⟨_, vacant⟩
  rcases vacant.run generators run with ⟨_, _, _, before, _⟩
  rcases before.unheard generators waits accepted lost with ⟨some, apart⟩
  rcases apart.run generators rest with ⟨serverRecord, extra, lost', coherent, kept, _⟩
  have unheard : lost' client = batch := by
    have same := kept client (by simpa using some)
    simpa using same
  rcases coherent.follows client with ⟨record, synced, pending, newer, split, tracks, _⟩
  rw [unheard] at tracks
  have honest := tracks.toHonest
  obtain ⟨duplicate, among, present, result⟩ := honest.sync_run_duplicate (generate client)
    (tracks.newer_stored some)
  rcases tracks.mode with ⟨unsent, later, pending_eq, newer_eq, _⟩
  refine ⟨synced ++ pending, synced ++ newer, duplicate, ⟨record, honest.found, honest.read⟩,
    ⟨serverRecord, honest.remote_found, honest.remote_read⟩, tracks.stored _ present, ?_, result,
    honest.read.nodup, honest.remote_read.nodup, ?_, ?_, ?_⟩
  · rw [List.map_append]
    exact List.mem_append_right _ among
  · intro tx member
    rw [pending_eq, newer_eq]
    simp [member]
  · rw [contentsOf_append, contentsOf_own _ tracks.own, tracks.logged]
    simp
  · rw [contentsOf_append, contentsOf_append, contentsOf_own _ tracks.own]
    exact (List.prefix_append_right_inj _).mpr (tracks.mode.contents_prefix tracks.own)

theorem lost_reply_refuses_sync_unheard : ∃ chain serverChain duplicate,
    (unheard_one.clients false).state.repo.Chain [7] chain ∧ unheard_one.server.Chain [7] serverChain ∧
    (sync (twoGenerators false) [7] (unheard_one.clients false).state).run ServerRpcImpl.answer
        unheard_one.server =
      ((.err (.duplicateTransactionId duplicate), (unheard_one.clients false).state), unheard_one.server) ∧
    makeTransaction [0] [] ∈ chain ∧ makeTransaction [0] [] ∈ serverChain := by
  have initial : (World.fresh (makeAccount [7]) : World Bool).Initial [7] :=
    fresh_initial (makeAccount [7]) rfl rfl
  have waits : (sending_one.clients false).pending = some
      ⟨.receiveTransactions [7] [makeTransaction [0] []],
        Process.andThen (onReceipt { makeAccount [7] with latestTransaction := [0] })⟩ := rfl
  have accepted : (ServerRpcImpl.answer (.receiveTransactions [7] [makeTransaction [0] []])
      sending_one.server).1 = .ok () := by decide
  obtain ⟨chain, serverChain, duplicate, here, there, _, _, run, _, _, sent, _⟩ :=
    lost_reply_refuses_sync twoGenerators_generators initial sending_one_run waits accepted
      unheard_one_step .nil
  exact ⟨chain, serverChain, duplicate, here, there, run, sent _ (by simp)⟩

end World

end Flouze
