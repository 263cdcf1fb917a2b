import Flouze.Sync.Faults

namespace Flouze

open Linked Repository

section Stopped

variable {id : AccountId} {generate : Nat → TransactionId} {device : Device (Faulty Store)} {server server' : Store}
variable {record serverRecord serverRecord' : Account} {synced pending newer batch : List Transaction} {k : Nat}

theorem Honest.stopped_pull
    (honest : Honest id device.repo.store server record serverRecord synced pending newer)
    (cut : device.repo.left = some k)
    (stopped : ((rebaseLocalTransactions generate record device).run ServerRpcImpl.answer server).1.1 =
      .err writeError) :
    let rebased := moved generate device.generated (tip Transaction.uuid [] newer) pending
    newer ≠ [] ∧ (∀ tx ∈ newer, device.repo.store.transaction? id tx.uuid = none) ∧
    (rebaseLocalTransactions generate record device).run ServerRpcImpl.answer server =
      ((.err writeError, ⟨⟨cutAt id device.repo.store record newer rebased pending k, none⟩,
        device.generated + pending.length⟩), server) := by
  intro rebased
  obtain rfl : record.uuid = id := honest.owner
  unfold rebaseLocalTransactions at stopped ⊢
  rw [Process.run_bind_ok (remote_run device honest.answer_latest)] at stopped ⊢
  by_cases same : record.latestSynchronizedTransaction = serverRecord.latestTransaction
  · rw [if_pos same] at stopped
    cases stopped
  have behind : newer ≠ [] := mt honest.same_iff.mpr same
  rw [if_neg same, Process.run_bind_ok (remote_run device honest.answer_children), Process.run_perform] at stopped ⊢
  have fresh : ∀ tx ∈ newer, device.repo.store.transaction? record.uuid tx.uuid = none := by
    by_contra known
    rcases adopt_known generate known with ⟨duplicate, refused⟩
    rw [refused] at stopped
    cases stopped
  have short : k < newer.length + pending.length + 1 + pending.length := by
    by_contra enough
    obtain ⟨left, run⟩ := honest.adopt_spared generate behind fresh (by
      intro k' cut'
      obtain rfl := Option.some.inj (cut.symm.trans cut')
      omega)
    rw [run] at stopped
    cases stopped
  exact ⟨behind, fresh, by rw [honest.adopt_cut behind fresh cut short]⟩

theorem stored_of_writes {store : Store} {account : AccountId} {key : TransactionId} {writes : List Write}
    (present : (Machine.after (Routine.effect (Write.perform account)) writes store).transaction? account key ≠ none) :
    store.transaction? account key ≠ none ∨ ∃ tx, .addTransaction tx ∈ writes ∧ tx.uuid = key := by
  induction writes generalizing store with
  | nil => exact .inl present
  | cons write writes ih =>
    rcases ih present with before | ⟨tx, member, same⟩
    · cases write with
      | addTransaction tx =>
        change (store.putTransaction account tx).transaction? account key ≠ none at before
        rw [Store.transaction?_putTransaction] at before
        split at before
        next here => exact .inr ⟨tx, by simp, here.2.symm⟩
        next => exact .inl before
      | addAccount record => exact .inl before
      | deleteTransaction removed =>
        refine .inl fun absent => before ?_
        change (deleteTransaction account removed store).2.transaction? account key = none
        cases found : store.transaction? account removed with
        | none => rw [Store.deleteTransaction_none found, absent]
        | some tx =>
          rw [Store.deleteTransaction_some found, Store.transaction?_removeTransaction, absent]
          split <;> rfl
    · exact .inr ⟨tx, List.mem_cons_of_mem _ member, same⟩

theorem cutAt_stored {store : Store} {rebased : List Transaction} {key : TransactionId}
    (present : (cutAt id store record newer rebased pending k).transaction? id key ≠ none) :
    store.transaction? id key ≠ none ∨ key ∈ newer.map Transaction.uuid ∨ key ∈ rebased.map Transaction.uuid := by
  rcases stored_of_writes present with before | ⟨tx, member, rfl⟩
  · exact .inl before
  · have among := List.mem_of_mem_take member
    simp only [pullWrites, List.mem_append, List.mem_map, Write.addTransaction.injEq, exists_eq_right,
      List.mem_cons, reduceCtorEq, and_false, exists_false, or_false] at among
    exact .inr (among.imp List.mem_map_of_mem List.mem_map_of_mem)

/-- The two chains are one, the server's and behind it what was pending. -/
def Recovered (id : AccountId) (pending : List Transaction) (server : Store)
    (result : (Outcome ErrorKind Unit × Device Store) × Store) : Prop :=
  result.1.1 = .ok () ∧ ∃ chain sent, server.Chain id chain ∧
    sent.map Transaction.content = pending.map Transaction.content ∧
    result.1.2.repo.Chain id (chain ++ sent) ∧ result.2.Chain id (chain ++ sent)

theorem Honest.recovers {device : Device Store}
    (honest : Honest id device.repo server record serverRecord synced pending newer)
    (fresh : ∀ tx ∈ newer, device.repo.transaction? id tx.uuid = none)
    (ids : FreshIds generate device.generated fun key =>
      device.repo.transaction? id key ≠ none ∨ key ∈ newer.map Transaction.uuid) :
    Recovered id pending server ((sync generate id device).run ServerRpcImpl.answer server) := by
  obtain ⟨device', server', record', serverRecord', run, after, _⟩ :=
    honest.sync_run_full generate fresh fun _ => ids
  have here := after.read
  have there := after.remote_read
  rw [List.append_nil] at here there
  rw [run]
  exact ⟨rfl, synced ++ newer, rebasedOnto generate device.generated newer pending,
    ⟨serverRecord, honest.remote_found, honest.remote_read⟩, rebasedOnto_content _ _ _ _,
    ⟨record', after.found, here⟩, ⟨serverRecord', after.remote_found, there⟩⟩

theorem FreshIds.later {count count' : Nat} {used used' : TransactionId → Prop} (ids : FreshIds generate count used)
    (more : count ≤ count') (fewer : ∀ n, count' ≤ n → used' (generate n) → used (generate n)) :
    FreshIds generate count' used' :=
  ⟨ids.injective, ids.nonempty, fun n after again => ids.unused n (by omega) (fewer n after again)⟩

theorem Honest.between_refused
    (honest : Honest id device.repo.store server record serverRecord synced pending newer) (behind : newer ≠ [])
    (grown : Honest id device.repo.store server' record serverRecord' synced pending (newer ++ batch))
    (news : ∀ tx ∈ newer, device.repo.store.transaction? id tx.uuid = none)
    (unused : FreshIds generate device.generated fun key =>
      device.repo.store.transaction? id key ≠ none ∨ key ∈ newer.map Transaction.uuid)
    (started : k ≠ 0) (few : k ≤ newer.length + pending.length) :
    let rebased := moved generate device.generated (tip Transaction.uuid [] newer) pending
    let left : Device Store :=
      ⟨cutAt id device.repo.store record newer rebased pending k, device.generated + pending.length⟩
    ∃ duplicate, ((sync generate id left).run ServerRpcImpl.answer server').1.1 =
      .err (.duplicateTransactionId duplicate) := by
  intro rebased left
  have replica := honest.cut_before news unused few
  have resumed : Honest id left.repo server' record serverRecord' synced pending (newer ++ batch) :=
    ⟨replica, grown.remote_found, grown.remote_read⟩
  have cut : cutAt id device.repo.store record newer rebased pending k =
      device.repo.store.putTransactions id ((newer ++ rebased).take k) :=
    after_take_before id (by rwa [moved_length])
  have stored : ∃ tx ∈ newer ++ batch, left.repo.transaction? id tx.uuid ≠ none := by
    rcases List.exists_cons_of_ne_nil behind with ⟨first, rest, split⟩
    rcases Nat.exists_eq_succ_of_ne_zero started with ⟨j, rfl⟩
    refine ⟨first, by simp [split], ?_⟩
    change (cutAt id device.repo.store record newer rebased pending (j + 1)).transaction? id first.uuid ≠ none
    rw [cut, split]
    change ((device.repo.store.putTransaction id first).putTransactions id
      ((rest ++ rebased).take j)).transaction? id first.uuid ≠ none
    apply Store.putTransactions_ne_none
    simp
  rcases Honest.sync_run_duplicate generate resumed stored with ⟨duplicate, _, _, run⟩
  exact ⟨duplicate, by rw [run]⟩

theorem Honest.after_recovers
    (honest : Honest id device.repo.store server record serverRecord synced pending newer) (behind : newer ≠ [])
    (grown : Honest id device.repo.store server' record serverRecord' synced pending (newer ++ batch))
    (fresh : ∀ tx ∈ newer ++ batch, device.repo.store.transaction? id tx.uuid = none)
    (ids : FreshIds generate device.generated fun key =>
      device.repo.store.transaction? id key ≠ none ∨ key ∈ (newer ++ batch).map Transaction.uuid)
    (unused : FreshIds generate device.generated fun key =>
      device.repo.store.transaction? id key ≠ none ∨ key ∈ newer.map Transaction.uuid)
    (many : newer.length + pending.length < k) :
    let rebased := moved generate device.generated (tip Transaction.uuid [] newer) pending
    let left : Device Store :=
      ⟨cutAt id device.repo.store record newer rebased pending k, device.generated + pending.length⟩
    Recovered id pending server' ((sync generate id left).run ServerRpcImpl.answer server') := by
  intro rebased left
  have after := honest.cut_after behind (fun tx member => fresh tx (List.mem_append_left _ member)) unused many
  have resumed : Honest id left.repo server' (record.advanced newer rebased) serverRecord' (synced ++ newer)
      rebased batch := by
    refine ⟨after.toReplica, grown.remote_found, ?_⟩
    rw [List.append_assoc]
    exact grown.remote_read
  have unknown : ∀ tx ∈ batch, left.repo.transaction? id tx.uuid = none := by
    intro tx member
    by_contra present
    rcases cutAt_stored present with before | pulled | renamed
    · exact before (fresh tx (List.mem_append_right _ member))
    · rcases List.mem_map.mp pulled with ⟨other, among, same⟩
      exact Chained.not_mem_right resumed.remote_read (List.mem_append_right _ among) member same.symm
    · rcases List.mem_map.mp renamed with ⟨other, among, same⟩
      rcases mem_moved _ _ _ among with ⟨n, lower, _, drawn⟩
      apply ids.unused n lower (.inr _)
      rw [← drawn, same]
      exact List.mem_map_of_mem (List.mem_append_right _ member)
  have undrawn : FreshIds generate left.generated fun key =>
      left.repo.transaction? id key ≠ none ∨ key ∈ batch.map Transaction.uuid := by
    refine ids.later (Nat.le_add_right _ _) fun n lower again => ?_
    rw [List.map_append, List.mem_append]
    rcases again with present | added
    · rcases cutAt_stored present with before | pulled | renamed
      · exact .inl before
      · exact .inr (.inl pulled)
      · rcases List.mem_map.mp renamed with ⟨other, among, same⟩
        rcases mem_moved _ _ _ among with ⟨m, _, upper, drawn⟩
        have number := ids.injective (same.symm.trans drawn)
        have bound : device.generated + pending.length ≤ n := lower
        omega
    · exact .inr (.inr added)
  rcases resumed.recovers unknown undrawn with ⟨ok, chain, sent, before, contents, here, there⟩
  exact ⟨ok, chain, sent, before, contents.trans (moved_content _ _ _ pending), here, there⟩

/-- With what a stopped pull has left, the next sync succeeds if nothing was written at all, or the
    account record was. In between, what was fetched is refused for being stored already. -/
theorem Honest.pull_again_iff
    (honest : Honest id device.repo.store server record serverRecord synced pending newer) (behind : newer ≠ [])
    (grown : Honest id device.repo.store server' record serverRecord' synced pending (newer ++ batch))
    (fresh : ∀ tx ∈ newer ++ batch, device.repo.store.transaction? id tx.uuid = none)
    (ids : FreshIds generate device.generated fun key =>
      device.repo.store.transaction? id key ≠ none ∨ key ∈ (newer ++ batch).map Transaction.uuid) :
    let rebased := moved generate device.generated (tip Transaction.uuid [] newer) pending
    let left : Device Store :=
      ⟨cutAt id device.repo.store record newer rebased pending k, device.generated + pending.length⟩
    Recovered id pending server' ((sync generate id left).run ServerRpcImpl.answer server') ↔
      k = 0 ∨ newer.length + pending.length < k := by
  intro rebased left
  have news : ∀ tx ∈ newer, device.repo.store.transaction? id tx.uuid = none :=
    fun tx member => fresh tx (List.mem_append_left _ member)
  have unused : FreshIds generate device.generated fun key =>
      device.repo.store.transaction? id key ≠ none ∨ key ∈ newer.map Transaction.uuid :=
    ids.later (Nat.le_refl _) fun n _ again => again.imp_right fun member => by
      rw [List.map_append, List.mem_append]
      exact .inl member
  constructor
  · intro recovered
    by_contra between
    push Not at between
    rcases honest.between_refused behind grown news unused between.1 between.2 with ⟨duplicate, refused⟩
    have ok := recovered.1
    rw [refused] at ok
    cases ok
  · intro given
    rcases given with rfl | many
    · exact Honest.recovers grown fresh (ids.later (Nat.le_add_right _ _) fun _ _ again => again)
    · exact honest.after_recovers behind grown fresh ids unused many

end Stopped

def Event.client {ι : Type} : Event ι → ι
  | append client _ | start client | reply client | lost client _ | unreachable client _ | abandon client => client

namespace World

variable {ι : Type} [DecidableEq ι]
variable {id : AccountId} {generate : ι → Nat → TransactionId} {start world after : World ι}
variable {events more : List (Event ι)} {event : Event ι} {client : ι} {record : Account} {k : Nat}

theorem Step.others (step : World.Step id generate world event after) (other : event.client ≠ client) :
    after.clients client = world.clients client := by
  cases step <;> exact Function.update_of_ne (Ne.symm other) _ _

theorem Run.others (run : World.Run id generate world more after) (others : ∀ event ∈ more, event.client ≠ client) :
    after.clients client = world.clients client := by
  induction run with
  | nil => rfl
  | step _ step ih =>
    rw [step.others (others _ (by simp)), ih fun event member => others event (by simp [member])]

def failing (world : World ι) (client : ι) (k : Nat) : Device (Faulty Store) :=
  ⟨⟨(world.clients client).state.repo, some k⟩, (world.clients client).state.generated⟩

/-- When a write of a pull failed, the next sync puts everything right if that write was the first, or
    came after the write of the account record, and only then, whatever the others do in between. -/
theorem recovers_iff (generators : Generators generate) (initial : start.Initial id)
    (run : World.Run id generate start events world)
    (found : (world.clients client).state.repo.account? id = some record)
    (stopped : ((rebaseLocalTransactions (generate client) record (world.failing client k)).run
      ServerRpcImpl.answer world.server).1.1 = .err writeError)
    (later : World.Run id generate world more after) (others : ∀ event ∈ more, event.client ≠ client) :
    ∃ serverRecord synced pending newer,
      Honest id (world.clients client).state.repo world.server record serverRecord synced pending newer ∧
      ∃ device, ((sync (generate client) id (world.failing client k)).run ServerRpcImpl.answer world.server).1 =
          (.err writeError, device) ∧
        (Recovered id pending after.server ((sync (generate client) id
          (⟨device.repo.store, device.generated⟩ : Device Store)).run ServerRpcImpl.answer after.server) ↔
            k = 0 ∨ newer.length + pending.length < k) := by
  rcases initial.coherent with ⟨_, vacant⟩
  rcases vacant.run generators run with ⟨serverRecord, chain, lost, coherent, _⟩
  rcases coherent.run generators later with ⟨serverRecord', batch, lost', coherent', _, unlost⟩
  rcases coherent.follows client with ⟨_, synced, pending, newer, split, tracks, _⟩
  obtain rfl := Option.some.inj (found.symm.trans tracks.found)
  rcases coherent'.follows client with ⟨_, _, _, newer', split', tracks', _⟩
  rw [later.others others] at tracks'
  rcases tracks'.toReplica.unique tracks.toReplica with ⟨rfl, rfl, rfl⟩
  have grows : newer' = newer ++ batch := by
    rw [← split, List.append_assoc] at split'
    exact List.append_cancel_left split'
  subst grows
  have honest : Honest id (world.failing client k).repo.store world.server record serverRecord synced pending newer :=
    tracks.toHonest
  have grown : Honest id (world.failing client k).repo.store after.server record serverRecord' synced pending
      (newer ++ batch) := tracks'.toHonest
  rcases honest.stopped_pull rfl stopped with ⟨behind, fresh, pull⟩
  have injective : Function.Injective (generate client) :=
    fun n m same => (generators.once client client n m same).2
  have heard : lost client = [] := by
    by_contra some
    rcases tracks.newer_stored some with ⟨tx, member, present⟩
    exact present (fresh tx member)
  have heard' : lost' client = [] := by
    rw [unlost client, heard]
    intro error member
    exact others _ member rfl
  rw [heard'] at tracks'
  have unknown := tracks'.newer_fresh (unacknowledged_nil.mp tracks'.mode)
  have ids := tracks'.freshIds injective (generators.nonempty client)
  have opens : getAccount id (world.failing client k).repo = .ok record := Store.getAccount_some honest.found
  have failed := (sync_opens opens world.server).trans (Process.run_bind_err pull)
  have recovers := honest.pull_again_iff (k := k) behind grown unknown ids
  exact ⟨serverRecord, synced, pending, newer, honest, ⟨⟨_, none⟩, _⟩, congrArg Prod.fst failed, recovers⟩

theorem recovers_pushed : ∃ device,
    ((sync (twoGenerators true) [7] (pushed_one.failing true 0)).run ServerRpcImpl.answer pushed_one.server).1 =
      (.err writeError, device) ∧
    ∃ pending, Recovered [7] pending pushed_one.server ((sync (twoGenerators true) [7]
      (⟨device.repo.store, device.generated⟩ : Device Store)).run ServerRpcImpl.answer pushed_one.server) := by
  have initial : (World.fresh (makeAccount [7]) : World Bool).Initial [7] := fresh_initial (makeAccount [7]) rfl rfl
  have found : (pushed_one.clients true).state.repo.account? [7] = some (makeAccount [7]) := by decide +kernel
  have stopped : ((rebaseLocalTransactions (twoGenerators true) (makeAccount [7]) (pushed_one.failing true 0)).run
      ServerRpcImpl.answer pushed_one.server).1.1 = .err writeError := by decide +kernel
  obtain ⟨_, _, pending, _, _, device, failed, recovers⟩ :=
    recovers_iff twoGenerators_generators initial pushed_one_run found stopped .nil (by simp)
  exact ⟨device, failed, pending, recovers.mpr (.inl rfl)⟩

/-- The write of the account record fails: what was fetched is stored, and refused from then on. -/
theorem stopped_pull_refused :
    (∃ events, World.Run [7] twoGenerators (World.fresh (makeAccount [7])) events pushed_one) ∧
    (pushed_one.clients true).state.repo.account? [7] = some (makeAccount [7]) ∧
    let stopped := (rebaseLocalTransactions (twoGenerators true) (makeAccount [7]) (pushed_one.failing true 1)).run
      ServerRpcImpl.answer pushed_one.server
    stopped.1.1 = .err writeError ∧
    ((sync (twoGenerators true) [7] (⟨stopped.1.2.repo.store, stopped.1.2.generated⟩ : Device Store)).run
      ServerRpcImpl.answer pushed_one.server).1.1 = .err (.duplicateTransactionId [0]) := by
  refine ⟨⟨_, pushed_one_run⟩, ?_, ?_, ?_⟩
  · decide +kernel
  · decide +kernel
  · decide +kernel

end World

end Flouze
