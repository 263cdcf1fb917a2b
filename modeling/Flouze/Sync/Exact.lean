import Flouze.Sync.Safety

namespace Flouze

open Linked Repository

def Store.Exactly (store : Store) (id : AccountId) (chain : List Transaction) : Prop :=
  ∀ tx, store.transaction? id tx.uuid = some tx ↔ tx ∈ chain

theorem Store.ChainAt.exactly_iff {store : Store} {id : AccountId} {head : TransactionId}
    {chain : List Transaction} (read : store.ChainAt id head chain) :
    store.Exactly id chain ↔ ∀ key, store.transaction? id key ≠ none → key ∈ chain.map Transaction.uuid := by
  constructor
  · intro exactly key present
    rcases Option.ne_none_iff_exists'.mp present with ⟨tx, stored⟩
    obtain rfl := Store.uuid_of_transaction? stored
    exact List.mem_map_of_mem ((exactly tx).mp stored)
  · intro known tx
    constructor
    · intro stored
      rcases List.mem_map.mp (known tx.uuid (by simp [stored])) with ⟨other, member, same⟩
      have onChain := (read.stored other member).2
      rw [same, stored] at onChain
      exact Option.some.inj onChain ▸ member
    · intro member
      exact (read.stored tx member).2

section Served

variable {id : AccountId} {generate : Nat → TransactionId} {server server' : Store} {device : Device Store}
variable {serverRecord : Account} {chain batch log lost : List Transaction} {wait : SyncPending}

theorem Served.read (served : Served id generate server server' serverRecord chain batch)
    (found : server.account? id = some serverRecord)
    (read : server.ChainAt id serverRecord.latestTransaction chain) :
    server'.account? id = some (serverRecord.extended batch) ∧
      server'.ChainAt id (serverRecord.extended batch).latestTransaction (chain ++ batch) := by
  obtain rfl : serverRecord.uuid = id := Store.uuid_of_account? found
  rw [served.received]
  refine ⟨?_, read.received served.extra.linked served.extra.nonempty served.extra.distinct
    served.extra.apart⟩
  rw [Store.account?_received, if_pos rfl]
  rfl

theorem Served.exactly (served : Served id generate server server' serverRecord chain batch)
    (found : server.account? id = some serverRecord)
    (read : server.ChainAt id serverRecord.latestTransaction chain) (exactly : server.Exactly id chain) :
    server'.Exactly id (chain ++ batch) := by
  rw [(served.read found read).2.exactly_iff]
  intro key present
  rw [List.map_append, List.mem_append]
  by_cases sent : key ∈ batch.map Transaction.uuid
  · exact .inr sent
  · rw [served.received, Store.transaction?_received_absent fun _ => sent] at present
    exact .inl (read.exactly_iff.mp exactly key present)

/-- How a sync can end with the reply of an honest server: a pull that fails has refused what was
    fetched, and none of its deletions can fail. -/
theorem Follows.replied_error (injective : Function.Injective generate) (nonempty : ∀ n, generate n ≠ [])
    (follows : Follows id generate server serverRecord chain ⟨device, some wait⟩ log lost)
    {error : ErrorKind} {device' : Device Store}
    (ends : wait.resume (ServerRpcImpl.answer wait.request server).1 device = .ret (.err error) device') :
    device' = device ∧ (error = .mustRebase ∨ error = .inconsistentServerResponse ∨
      ∃ key ∈ chain.map Transaction.uuid, error = .duplicateTransactionId key) := by
  have pushes : ∀ {device : Device Store} {record : Account} {synced pending : List Transaction},
      Replica id device.repo record synced pending →
      pushLocalTransactions record device ≠ .ret (.err error) device' := by
    intro device record synced pending replica ends
    by_cases empty : pending = []
    · subst empty
      rw [push_nothing replica] at ends
      cases ends
    · rw [push_pending replica empty] at ends
      cases ends
  rcases follows with ⟨record, synced, pending, newer, rfl, tracks, waiting⟩
  obtain rfl : record.uuid = id := tracks.owner
  cases waiting with
  | latest =>
    rw [tracks.toHonest.answer_latest] at ends
    change onLatest generate record serverRecord.latestTransaction device = _ at ends
    by_cases same : record.latestSynchronizedTransaction = serverRecord.latestTransaction
    · rw [onLatest_same same] at ends
      exact absurd ends (pushes tracks.toReplica)
    · rw [onLatest_differs same] at ends
      cases ends
  | children =>
    rw [tracks.toHonest.answer_children] at ends
    change onChildren generate record newer device = _ at ends
    by_cases same : newer = []
    · subst same
      rw [onChildren_err (adopt_empty generate)] at ends
      cases ends
      exact ⟨rfl, .inr (.inl rfl)⟩
    · by_cases heard : lost = []
      · subst heard
        rcases tracks.pulled injective nonempty same with ⟨run, after⟩
        rw [onChildren_ok run] at ends
        exact absurd ends (pushes after.toReplica)
      · rcases tracks.newer_stored heard with ⟨tx, member, present⟩
        obtain ⟨duplicate, among, _, run⟩ := adopt_duplicate generate
          ⟨tx.uuid, List.mem_map_of_mem member, present⟩
        rw [onChildren_err run] at ends
        cases ends
        refine ⟨rfl, .inr (.inr ⟨duplicate, ?_, rfl⟩)⟩
        rw [List.map_append]
        exact List.mem_append_right _ among
  | receipt unsent _ =>
    by_cases same : newer = []
    · subst same
      rw [tracks.toHonest.answer_accept] at ends
      change onReceipt record () device = _ at ends
      rw [onReceipt_run tracks.found] at ends
      cases ends
    · rw [tracks.toHonest.answer_mustRebase unsent same] at ends
      cases ends
      exact ⟨rfl, .inl rfl⟩

end Served

namespace World

variable {ι : Type} [DecidableEq ι]
variable {id : AccountId} {generate : ι → Nat → TransactionId} {start world after : World ι}
variable {events : List (Event ι)} {event : Event ι} {serverRecord : Account} {chain : List Transaction}
variable {lost : ι → List Transaction}

theorem Coherent.served (generators : Generators generate)
    (coherent : world.Coherent id generate events serverRecord chain lost)
    (step : World.Step id generate world event after) :
    ∃ client batch, Served id (generate client) world.server after.server serverRecord chain batch := by
  cases step with
  | @append client _ _ _ _ _ _ => exact ⟨client, [], coherent.unserved client⟩
  | @start client _ => exact ⟨client, [], coherent.unserved client⟩
  | @reply client _ waits =>
    obtain ⟨batch, served, _⟩ := (coherent.waiting waits).replied
      (fun n m same => (generators.once client client n m same).2) (generators.nonempty client)
    exact ⟨client, batch, served⟩
  | @lost client _ _ waits =>
    rcases (coherent.waiting waits).unheard with ⟨batch, _, served, _⟩
    exact ⟨client, batch, served⟩
  | @unreachable client _ _ _ => exact ⟨client, [], coherent.unserved client⟩
  | @abandon client => exact ⟨client, [], coherent.unserved client⟩

theorem server_exactly (generators : Generators generate) (initial : start.Initial id)
    (run : World.Run id generate start events world) :
    ∃ chain, world.server.Chain id chain ∧ world.server.Exactly id chain := by
  have vacant : ∃ serverRecord, start.Coherent id generate [] serverRecord [] fun _ => [] := initial.coherent
  rcases vacant with ⟨_, vacant⟩
  induction run with
  | nil =>
    rcases initial.server with ⟨record, found, latest, _, absent⟩
    have read : start.server.ChainAt id record.latestTransaction [] := by
      rw [latest]
      exact Chained.nil _ _ _ _
    exact ⟨[], ⟨record, found, read⟩, read.exactly_iff.mpr fun key present => absurd (absent key) present⟩
  | step run step ih =>
    rcases vacant.run generators run with ⟨serverRecord, chain, _, coherent, _⟩
    rcases ih with ⟨chain', ⟨record, found, read⟩, exactly⟩
    obtain rfl : record = serverRecord := Option.some.inj (found.symm.trans coherent.found)
    obtain rfl := Chained.unique read coherent.read
    rcases coherent.served generators step with ⟨client, batch, served⟩
    rcases served.read found read with ⟨found', read'⟩
    exact ⟨_, ⟨_, found', read'⟩, served.exactly found read exactly⟩

/-- At every moment of every run each store holds the transactions of its chain and no others, and a
    sync never fails because a transaction is missing. -/
theorem stores_hold_their_chains (generators : Generators generate) (initial : start.Initial id)
    (run : World.Run id generate start events world) :
    (∃ chain, world.server.Chain id chain ∧
      ∀ tx, world.server.transaction? id tx.uuid = some tx ↔ tx ∈ chain) ∧
    (∀ client, ∃ chain, (world.clients client).state.repo.Chain id chain ∧
      ∀ tx, (world.clients client).state.repo.transaction? id tx.uuid = some tx ↔ tx ∈ chain) ∧
    ∀ client wait error device, (world.clients client).pending = some wait →
      wait.resume (ServerRpcImpl.answer wait.request world.server).1 (world.clients client).state =
        .ret (.err error) device →
      device = (world.clients client).state ∧ ∀ key, error ≠ .noSuchTransaction key := by
  rcases initial.coherent with ⟨_, vacant⟩
  rcases vacant.run generators run with ⟨serverRecord, chain, lost, coherent, _⟩
  refine ⟨server_exactly generators initial run, ?_, ?_⟩
  · intro client
    rcases coherent.follows client with ⟨record, synced, pending, newer, _, tracks, _⟩
    exact ⟨synced ++ pending, ⟨record, tracks.found, tracks.read⟩,
      tracks.read.exactly_iff.mpr tracks.stored⟩
  · intro client wait error device waits ends
    obtain ⟨same, reason⟩ := (coherent.waiting waits).replied_error
      (fun n m same => (generators.once client client n m same).2) (generators.nonempty client) ends
    refine ⟨same, fun key => ?_⟩
    rcases reason with rfl | rfl | ⟨_, _, rfl⟩ <;> simp

theorem stores_hold_their_chains_entered :
    (∃ chain, rebased_two.server.Chain [7] chain ∧
      ∀ tx, rebased_two.server.transaction? [7] tx.uuid = some tx ↔ tx ∈ chain) ∧
    ∀ client, ∃ chain, (rebased_two.clients client).state.repo.Chain [7] chain ∧
      ∀ tx, (rebased_two.clients client).state.repo.transaction? [7] tx.uuid = some tx ↔ tx ∈ chain := by
  have initial : (World.fresh (makeAccount [7]) : World Bool).Initial [7] :=
    fresh_initial (makeAccount [7]) rfl rfl
  rcases rebased_two_run with ⟨_, _, run⟩
  obtain ⟨server, clients, _⟩ := stores_hold_their_chains twoGenerators_generators initial run
  exact ⟨server, clients⟩

end World

end Flouze
