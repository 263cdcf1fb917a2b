import Flouze.Repository.Contents
import Flouze.Sync.World

namespace Flouze

open Linked Repository

namespace Honest

variable {id : AccountId} {generate : Nat → TransactionId} {device device' : Device Store} {server server' : Store}
variable {record serverRecord : Account} {synced pending newer : List Transaction}

theorem sync_lookups (honest : Honest id device.repo server record serverRecord synced pending newer)
    (fresh : ∀ tx ∈ newer, device.repo.transaction? id tx.uuid = none)
    (ids : pending ≠ [] → FreshIds generate device.generated fun drawn =>
      device.repo.transaction? id drawn ≠ none ∨ drawn ∈ newer.map Transaction.uuid)
    (run : (sync generate id device).run ServerRpcImpl.answer server = ((.ok (), device'), server')) :
    let rebased := rebasedOnto generate device.generated newer pending
    (∀ key, key ∉ newer.map Transaction.uuid → key ∉ pending.map Transaction.uuid →
      key ∉ rebased.map Transaction.uuid →
      device'.repo.transaction? id key = device.repo.transaction? id key) ∧
    (∀ key, key ∉ rebased.map Transaction.uuid → server'.transaction? id key = server.transaction? id key) ∧
    device'.generated = device.generated + if newer = [] then 0 else pending.length := by
  intro rebased
  obtain rfl : record.uuid = id := honest.owner
  by_cases same : newer = []
  · subst same
    rw [honest.sync_run_same] at run
    cases run
    refine ⟨fun _ _ _ _ => rfl, fun key absent => ?_, by simp⟩
    exact Store.transaction?_received_absent fun _ => absent
  · have renamed : rebased = _ := rebasedOnto_behind generate device.generated same pending
    rw [honest.sync_run_behind same fresh ids, ← renamed] at run
    cases run
    refine ⟨fun key notNewer notPending notRebased => ?_, fun key absent => ?_, by simp [same]⟩
    · rw [Store.transaction?_putAccount]
      exact Store.transaction?_adopted_absent (record.advanced newer rebased) notNewer notRebased notPending
    · exact Store.transaction?_received_absent fun _ => absent

end Honest

namespace World

def store (world : World Bool) : Option Bool → Store
  | none => world.server
  | some client => (world.clients client).state.repo

def syncResult (id : AccountId) (generate : Bool → Nat → TransactionId) (world : World Bool) (client : Bool) :
    Outcome ErrorKind Unit :=
  ((sync (generate client) id (world.clients client).state).run ServerRpcImpl.answer world.server).1.1

def syncedFrom (id : AccountId) (generate : Bool → Nat → TransactionId) (world : World Bool) (first : Bool) :
    World Bool :=
  ((world.synced id generate first).synced id generate !first).synced id generate first

/-- Two clients that are in sync with the server but for what is pending on them, which replaces
    nothing or transactions of the server's chain. -/
structure Divided (id : AccountId) (world : World Bool) (serverRecord : Account) (record : Bool → Account)
    (chain : List Transaction) (pending : Bool → List Transaction) : Prop where
  honest : ∀ client, Honest id (world.clients client).state.repo world.server (record client) serverRecord
    chain (pending client) []
  replaces : ∀ client, ∀ tx ∈ pending client, tx.replaces = [] ∨ tx.replaces ∈ chain.map Transaction.uuid

def Reserved (generate : Bool → Nat → TransactionId) (world : World Bool) (pending : Bool → List Transaction)
    (client : Bool) (key : TransactionId) : Prop :=
  key ∈ (pending client).map Transaction.uuid ∨
    ∃ n, (world.clients client).state.generated ≤ n ∧ generate client n = key

/-- An id that a client has drawn or will draw is not used by anybody else. -/
structure Unshared (id : AccountId) (generate : Bool → Nat → TransactionId) (world : World Bool)
    (pending : Bool → List Transaction) : Prop where
  drawn : ∀ client n, (world.clients client).state.generated ≤ n → ∀ place,
    (world.store place).transaction? id (generate client n) = none
  pending : ∀ client, ∀ tx ∈ pending client, ∀ place, place ≠ some client →
    (world.store place).transaction? id tx.uuid = none

/-- How two clients stand to the server and to the ids that are reserved for each of them. -/
structure Joined (id : AccountId) (generate : Bool → Nat → TransactionId) (reserved : Bool → TransactionId → Prop)
    (world : World Bool) (serverRecord : Account) (record : Bool → Account) (chain : List Transaction)
    (synced pending newer : Bool → List Transaction) : Prop where
  honest : ∀ client, Honest id (world.clients client).state.repo world.server (record client) serverRecord
    (synced client) (pending client) (newer client)
  whole : ∀ client, synced client ++ newer client = chain
  own : ∀ client, ∀ tx ∈ pending client, reserved client tx.uuid
  news : ∀ client, ∀ tx ∈ newer client, reserved (!client) tx.uuid
  known : ∀ client key, reserved (!client) key →
    (world.clients client).state.repo.transaction? id key ≠ none → key ∈ (synced client).map Transaction.uuid
  drawn : ∀ client n, (world.clients client).state.generated ≤ n →
    reserved client (generate client n) ∧
      (world.clients client).state.repo.transaction? id (generate client n) = none

/-- Outside the reserved ids no transaction has been written, and nothing but the history of the account. -/
structure Unmoved (id : AccountId) (reserved : Bool → TransactionId → Prop) (world after : World Bool) : Prop where
  framed : ∀ place, Framed id (world.store place) (after.store place)
  lookups : ∀ place key, (∀ client, ¬ reserved client key) →
    (after.store place).transaction? id key = (world.store place).transaction? id key

section Joined

variable {id : AccountId} {generate : Bool → Nat → TransactionId} {reserved : Bool → TransactionId → Prop}
variable {world middle after : World Bool} {serverRecord : Account} {record : Bool → Account}
variable {chain : List Transaction} {synced pending newer : Bool → List Transaction}

theorem Unmoved.trans (first : Unmoved id reserved world middle) (second : Unmoved id reserved middle after) :
    Unmoved id reserved world after :=
  ⟨fun place => (first.framed place).trans (second.framed place),
    fun place key free => (second.lookups place key free).trans (first.lookups place key free)⟩

theorem Joined.fresh
    (joined : Joined id generate reserved world serverRecord record chain synced pending newer) (client : Bool) :
    ∀ tx ∈ newer client, (world.clients client).state.repo.transaction? id tx.uuid = none := by
  intro tx member
  by_contra present
  have older := joined.known client tx.uuid (joined.news client tx member) present
  rcases List.mem_map.mp older with ⟨other, among, same⟩
  exact Chained.not_mem_right (joined.honest client).remote_read among member same.symm

theorem Joined.freshIds (generators : Generators generate)
    (disjoint : ∀ client key, reserved client key → ¬ reserved (!client) key)
    (joined : Joined id generate reserved world serverRecord record chain synced pending newer) (client : Bool) :
    FreshIds (generate client) (world.clients client).state.generated fun key =>
      (world.clients client).state.repo.transaction? id key ≠ none ∨ key ∈ (newer client).map Transaction.uuid := by
  refine ⟨fun n m same => (generators.once client client n m same).2, generators.nonempty client, ?_⟩
  intro n later given
  rcases given with stored | pulled
  · exact stored (joined.drawn client n later).2
  · rcases List.mem_map.mp pulled with ⟨tx, member, same⟩
    exact disjoint client _ (joined.drawn client n later).1 (same ▸ joined.news client tx member)

theorem Joined.rebased_reserved
    (joined : Joined id generate reserved world serverRecord record chain synced pending newer) (client : Bool) :
    ∀ tx ∈ rebasedOnto (generate client) (world.clients client).state.generated (newer client) (pending client),
      reserved client tx.uuid := by
  intro tx member
  unfold rebasedOnto at member
  split at member
  · exact joined.own client tx member
  · rcases mem_moved _ _ _ member with ⟨n, later, _, drawn⟩
    rw [drawn]
    exact (joined.drawn client n later).1

theorem Joined.drawn_apart (generators : Generators generate)
    (disjoint : ∀ client key, reserved client key → ¬ reserved (!client) key)
    (joined : Joined id generate reserved world serverRecord record chain synced pending newer) (client : Bool)
    {n : Nat} (later : (world.clients client).state.generated +
      (if newer client = [] then 0 else (pending client).length) ≤ n) :
    generate client n ∉ (newer client).map Transaction.uuid ∧
    generate client n ∉ (pending client).map Transaction.uuid ∧
    generate client n ∉ (rebasedOnto (generate client) (world.clients client).state.generated (newer client)
      (pending client)).map Transaction.uuid := by
  rcases joined.drawn client n (by omega) with ⟨mine, unused⟩
  have notPending : generate client n ∉ (pending client).map Transaction.uuid := by
    intro again
    rcases List.mem_map.mp again with ⟨tx, member, same⟩
    have stored := ((joined.honest client).read.stored tx (List.mem_append_right _ member)).2
    rw [same, unused] at stored
    cases stored
  refine ⟨?_, notPending, ?_⟩
  · intro pulled
    rcases List.mem_map.mp pulled with ⟨tx, member, same⟩
    exact disjoint client _ mine (same ▸ joined.news client tx member)
  · by_cases same : newer client = []
    · rw [same]
      exact notPending
    · rw [rebasedOnto_behind _ _ same]
      intro renamed
      rcases List.mem_map.mp renamed with ⟨tx, member, equal⟩
      rcases mem_moved _ _ _ member with ⟨m, _, upper, drawn⟩
      have number := (generators.once client client n m (equal.symm.trans drawn)).2
      rw [if_neg same] at later
      omega

theorem Joined.unmoved
    (joined : Joined id generate reserved world serverRecord record chain synced pending newer) {client : Bool}
    {device' : Device Store} {server' : Store} (framed : Framed id (world.clients client).state.repo device'.repo)
    (remoteFramed : Framed id world.server server')
    (lookups : ∀ key, key ∉ (newer client).map Transaction.uuid → key ∉ (pending client).map Transaction.uuid →
      key ∉ (rebasedOnto (generate client) (world.clients client).state.generated (newer client)
        (pending client)).map Transaction.uuid →
      device'.repo.transaction? id key = (world.clients client).state.repo.transaction? id key)
    (remoteLookups : ∀ key, key ∉ (rebasedOnto (generate client) (world.clients client).state.generated (newer client)
        (pending client)).map Transaction.uuid → server'.transaction? id key = world.server.transaction? id key) :
    Unmoved id reserved world (world.put server' client ⟨device', none⟩) := by
  have absent : ∀ key, (∀ other, ¬ reserved other key) → ∀ owner {transactions : List Transaction},
      (∀ tx ∈ transactions, reserved owner tx.uuid) → key ∉ transactions.map Transaction.uuid := by
    intro key free owner transactions among again
    rcases List.mem_map.mp again with ⟨tx, member, same⟩
    exact free owner (same ▸ among tx member)
  refine ⟨fun place => ?_, fun place key free => ?_⟩
  · cases place with
    | none => exact remoteFramed
    | some other =>
      by_cases same : other = client
      · subst same
        simpa only [store, put, Function.update_self] using framed
      · simp only [store, put, Function.update_of_ne same]
        exact Framed.refl id _
  · have unsent := absent key free client (joined.rebased_reserved client)
    cases place with
    | none => exact remoteLookups key unsent
    | some other =>
      by_cases same : other = client
      · subst same
        simp only [store, put, Function.update_self]
        exact lookups key (absent key free (!other) (joined.news other)) (absent key free other (joined.own other))
          unsent
      · simp only [store, put, Function.update_of_ne same]

theorem Joined.known_after (disjoint : ∀ client key, reserved client key → ¬ reserved (!client) key)
    (joined : Joined id generate reserved world serverRecord record chain synced pending newer) {client : Bool}
    {device' : Device Store}
    (lookups : ∀ key, key ∉ (newer client).map Transaction.uuid → key ∉ (pending client).map Transaction.uuid →
      key ∉ (rebasedOnto (generate client) (world.clients client).state.generated (newer client)
        (pending client)).map Transaction.uuid →
      device'.repo.transaction? id key = (world.clients client).state.repo.transaction? id key) :
    ∀ key, reserved (!client) key → device'.repo.transaction? id key ≠ none →
      key ∈ (chain ++ rebasedOnto (generate client) (world.clients client).state.generated (newer client)
        (pending client)).map Transaction.uuid := by
  intro key others present
  by_contra absent
  rw [List.map_append, List.mem_append, not_or] at absent
  rcases absent with ⟨notChain, notRebased⟩
  rw [← joined.whole client, List.map_append, List.mem_append, not_or] at notChain
  have notPending : key ∉ (pending client).map Transaction.uuid := by
    intro among
    rcases List.mem_map.mp among with ⟨tx, member, same⟩
    exact disjoint client key (same ▸ joined.own client tx member) others
  rw [lookups key notChain.2 notPending notRebased] at present
  exact notChain.1 (joined.known client key others present)

theorem Joined.drawn_after (generators : Generators generate)
    (disjoint : ∀ client key, reserved client key → ¬ reserved (!client) key)
    (joined : Joined id generate reserved world serverRecord record chain synced pending newer) {client : Bool}
    {device' : Device Store}
    (lookups : ∀ key, key ∉ (newer client).map Transaction.uuid → key ∉ (pending client).map Transaction.uuid →
      key ∉ (rebasedOnto (generate client) (world.clients client).state.generated (newer client)
        (pending client)).map Transaction.uuid →
      device'.repo.transaction? id key = (world.clients client).state.repo.transaction? id key)
    (generated : device'.generated = (world.clients client).state.generated +
      if newer client = [] then 0 else (pending client).length) :
    ∀ n, device'.generated ≤ n → reserved client (generate client n) ∧
      device'.repo.transaction? id (generate client n) = none := by
  intro n later
  rw [generated] at later
  rcases joined.drawn_apart generators disjoint client later with ⟨notNewer, notPending, notRebased⟩
  rcases joined.drawn client n (by omega) with ⟨mine, unused⟩
  exact ⟨mine, (lookups _ notNewer notPending notRebased).trans unused⟩

/-- One client synchronizes: it and the server end in one chain, and the other client is behind by
    what was sent. -/
theorem Joined.step (generators : Generators generate)
    (disjoint : ∀ client key, reserved client key → ¬ reserved (!client) key)
    (joined : Joined id generate reserved world serverRecord record chain synced pending newer) (client : Bool) :
    let rebased := rebasedOnto (generate client) (world.clients client).state.generated (newer client) (pending client)
    world.syncResult id generate client = .ok () ∧
    Unmoved id reserved world (world.synced id generate client) ∧
    ∃ serverRecord' record',
      Joined id generate reserved (world.synced id generate client) serverRecord' record' (chain ++ rebased)
        (Function.update synced client (chain ++ rebased)) (Function.update pending client [])
        (Function.update (fun other => newer other ++ rebased) client []) := by
  intro rebased
  have fresh := joined.fresh client
  have ids := joined.freshIds generators disjoint client
  have renamed := joined.rebased_reserved client
  obtain ⟨device', server', record', serverRecord', run, after, framed, remoteFramed⟩ :=
    (joined.honest client).sync_run_full (generate client) fresh fun _ => ids
  rcases (joined.honest client).sync_lookups fresh (fun _ => ids) run with ⟨lookups, remoteLookups, generated⟩
  have reached : world.synced id generate client = world.put server' client ⟨device', none⟩ := by
    simp only [World.synced, run]
  have here : ((world.put server' client ⟨device', none⟩).clients client).state = device' := by simp [put]
  have there : ∀ other, other ≠ client →
      (world.put server' client ⟨device', none⟩).clients other = world.clients other := by
    intro other differ
    simp [put, differ]
  have opposite : ∀ other, other ≠ client → client = !other := by
    intro other differ
    cases client <;> cases other <;> simp_all
  have read := after.remote_read
  rw [joined.whole client, List.append_nil] at read
  refine ⟨by rw [syncResult, run], ?_, serverRecord', Function.update record client record', ?_⟩
  · rw [reached]
    exact joined.unmoved framed remoteFramed lookups remoteLookups
  · rw [reached]
    refine ⟨fun other => ?_, fun other => ?_, fun other => ?_, fun other => ?_, fun other => ?_, fun other => ?_⟩
    all_goals by_cases same : other = client
    · subst same
      simp only [here, Function.update_self]
      have whole := after
      rw [joined.whole other] at whole
      exact whole
    · simp only [there other same, Function.update_of_ne same]
      refine ⟨(joined.honest other).toReplica, after.remote_found, ?_⟩
      rw [← List.append_assoc, joined.whole other]
      exact read
    · subst same
      simp
    · simp only [Function.update_of_ne same]
      rw [← List.append_assoc, joined.whole other]
    · subst same
      simp
    · simp only [Function.update_of_ne same]
      exact joined.own other
    · subst same
      simp
    · simp only [Function.update_of_ne same]
      intro tx member
      rcases List.mem_append.mp member with before | sent
      · exact joined.news other tx before
      · exact opposite other same ▸ renamed tx sent
    · subst same
      simp only [here, Function.update_self]
      exact joined.known_after disjoint lookups
    · simp only [there other same, Function.update_of_ne same]
      exact joined.known other
    · subst same
      simp only [here]
      exact joined.drawn_after generators disjoint lookups generated
    · simp only [there other same]
      exact joined.drawn other

theorem Joined.places (joined : Joined id generate reserved world serverRecord record chain synced pending newer)
    (sent : ∀ client, pending client = []) (pulled : ∀ client, newer client = []) (place : Option Bool) :
    (world.store place).Chain id chain := by
  cases place with
  | none =>
    have read := (joined.honest true).remote_read
    rw [joined.whole true] at read
    exact ⟨serverRecord, (joined.honest true).remote_found, read⟩
  | some client =>
    have read := (joined.honest client).read
    have whole := joined.whole client
    rw [pulled client, List.append_nil] at whole
    rw [sent client, List.append_nil, whole] at read
    exact ⟨record client, (joined.honest client).found, read⟩

theorem Joined.steps (generators : Generators generate)
    (disjoint : ∀ client key, reserved client key → ¬ reserved (!client) key)
    (joined : Joined id generate reserved world serverRecord record chain synced pending fun _ => [])
    (first : Bool) :
    world.syncResult id generate first = .ok () ∧
    (world.synced id generate first).syncResult id generate (!first) = .ok () ∧
    ((world.synced id generate first).synced id generate !first).syncResult id generate first = .ok () ∧
    Unmoved id reserved world (world.syncedFrom id generate first) ∧
    ∃ chain', (∀ place, ((world.syncedFrom id generate first).store place).Chain id chain') ∧
      chain'.map Transaction.content = chain.map Transaction.content ++
        (pending first).map Transaction.content ++ (pending !first).map Transaction.content := by
  have differ : (!first) ≠ first := by cases first <;> decide
  rcases joined.step generators disjoint first with ⟨ok, moved, _, _, joined⟩
  rcases joined.step generators disjoint !first with ⟨ok', moved', _, _, joined⟩
  rcases joined.step generators disjoint first with ⟨ok'', moved'', _, _, joined⟩
  refine ⟨ok, ok', ok'', (moved.trans moved').trans moved'', _, joined.places ?_ ?_, ?_⟩
  · intro client
    cases first <;> cases client <;> simp
  · intro client
    cases first <;> cases client <;> simp
  · simp only [List.map_append, rebasedOnto_content, Function.update_self, Function.update_of_ne differ,
      Function.update_of_ne differ.symm, List.map_nil, List.append_nil]

end Joined

section Divided

variable {id : AccountId} {generate : Bool → Nat → TransactionId} {world : World Bool}
variable {serverRecord : Account} {record : Bool → Account} {chain : List Transaction}
variable {pending : Bool → List Transaction}

theorem Divided.reserved_apart (generators : Generators generate)
    (divided : Divided id world serverRecord record chain pending)
    (unshared : Unshared id generate world pending) (client : Bool) (key : TransactionId)
    (mine : Reserved generate world pending client key) : ¬ Reserved generate world pending (!client) key := by
  have kept : ∀ client, ∀ tx ∈ pending client, (world.store (some client)).transaction? id tx.uuid = some tx :=
    fun client tx member => ((divided.honest client).read.stored tx (List.mem_append_right _ member)).2
  have differ : some client ≠ some !client := by cases client <;> decide
  intro other
  rcases mine with unsent | ⟨n, later, rfl⟩ <;> rcases other with unsent' | ⟨m, later', same'⟩
  · rcases List.mem_map.mp unsent with ⟨tx, member, rfl⟩
    rcases List.mem_map.mp unsent' with ⟨tx', member', same⟩
    have absent := unshared.pending (!client) tx' member' (some client) differ
    rw [same, kept client tx member] at absent
    cases absent
  · rcases List.mem_map.mp unsent with ⟨tx, member, rfl⟩
    have absent := unshared.drawn (!client) m later' (some client)
    rw [same', kept client tx member] at absent
    cases absent
  · rcases List.mem_map.mp unsent' with ⟨tx, member, same⟩
    have absent := unshared.drawn client n later (some !client)
    rw [← same, kept (!client) tx member] at absent
    cases absent
  · have equal := (generators.once (!client) client m n same').1
    cases client <;> cases equal

theorem Divided.joined (divided : Divided id world serverRecord record chain pending)
    (unshared : Unshared id generate world pending) :
    Joined id generate (Reserved generate world pending) world serverRecord record chain (fun _ => chain) pending
      fun _ => [] := by
  refine ⟨divided.honest, fun _ => List.append_nil chain, ?_, by simp, ?_, ?_⟩
  · intro client tx member
    exact .inl (List.mem_map_of_mem member)
  · intro client key others present
    have differ : some client ≠ some !client := by cases client <;> decide
    rcases others with unsent | ⟨n, later, rfl⟩
    · rcases List.mem_map.mp unsent with ⟨tx, member, rfl⟩
      exact absurd (unshared.pending (!client) tx member (some client) differ) present
    · exact absurd (unshared.drawn (!client) n later (some client)) present
  · intro client n later
    exact ⟨.inr ⟨n, later, rfl⟩, unshared.drawn client n later (some client)⟩

theorem Divided.refers (divided : Divided id world serverRecord record chain pending)
    (unnamed : ∀ place key tx, (world.store place).transaction? id key = some tx →
      ∀ client, ¬ Reserved generate world pending client tx.replaces) :
    ∀ content ∈ chain.map Transaction.content ++ (pending true).map Transaction.content ++
        (pending false).map Transaction.content,
      ∀ client, ¬ Reserved generate world pending client content.replaces := by
  intro content member
  rw [List.mem_append, List.mem_append] at member
  have stored : ∀ client, ∀ tx ∈ chain ++ pending client,
      (world.store (some client)).transaction? id tx.uuid = some tx :=
    fun client tx among => ((divided.honest client).read.stored tx among).2
  rcases member with (older | mine) | others
  · rcases List.mem_map.mp older with ⟨tx, among, rfl⟩
    exact unnamed _ _ tx (stored true tx (List.mem_append_left _ among))
  · rcases List.mem_map.mp mine with ⟨tx, among, rfl⟩
    exact unnamed _ _ tx (stored true tx (List.mem_append_right _ among))
  · rcases List.mem_map.mp others with ⟨tx, among, rfl⟩
    exact unnamed _ _ tx (stored false tx (List.mem_append_right _ among))

/-- Whichever of two clients synchronizes first, all is sent, one chain results, and the balances come
    out the same, unless what is stored names ids that are still to be taken into use. -/
theorem order_immaterial (generators : Generators generate)
    (divided : Divided id world serverRecord record chain pending) (unshared : Unshared id generate world pending)
    (unnamed : ∀ place key tx, (world.store place).transaction? id key = some tx →
      ∀ client, ¬ Reserved generate world pending client tx.replaces) :
    (∀ first, world.syncResult id generate first = .ok () ∧
      (world.synced id generate first).syncResult id generate (!first) = .ok () ∧
      ((world.synced id generate first).synced id generate !first).syncResult id generate first = .ok ()) ∧
    ∃ chains : Bool → List Transaction,
      (∀ first place, ((world.syncedFrom id generate first).store place).Chain id (chains first)) ∧
      ((chains true).map Transaction.content).Perm ((chains false).map Transaction.content) ∧
      ∀ place record record', ((world.syncedFrom id generate true).store place).account? id = some record →
        ((world.syncedFrom id generate false).store place).account? id = some record' →
        ∀ balance, getBalance ((world.syncedFrom id generate true).store place) record = .ok balance ↔
          getBalance ((world.syncedFrom id generate false).store place) record' = .ok balance := by
  have apart := divided.reserved_apart generators unshared
  have runs := (divided.joined unshared).steps generators apart
  choose first second third moved chains places contents using runs
  have contents' : ((chains true).map Transaction.content).Perm ((chains false).map Transaction.content) := by
    rw [contents true, contents false, List.append_assoc, List.append_assoc]
    exact List.Perm.append_left _ List.perm_append_comm
  refine ⟨fun client => ⟨first client, second client, third client⟩, chains, places, contents', ?_⟩
  intro place record record' found found' balance
  have agreeing : Agreeing id (fun key => ∀ client, ¬ Reserved generate world pending client key)
      ((world.syncedFrom id generate true).store place) ((world.syncedFrom id generate false).store place) := by
    refine ⟨fun key free => ?_, fun key tx free stored => ?_⟩
    · rw [(moved true).lookups place key free, (moved false).lookups place key free]
    · rw [(moved true).lookups place key free] at stored
      exact unnamed place key tx stored
  have profiles : record'.profile = record.profile := by
    have same := ((moved false).framed place).profiles id
    rw [← ((moved true).framed place).profiles id, found, found'] at same
    exact Option.some.inj same
  have members : record'.members = record.members :=
    show record'.profile.members = record.profile.members by rw [profiles]
  have known := divided.refers unnamed
  have refers : ∀ first, ∀ tx ∈ chains first, ∀ client, ¬ Reserved generate world pending client tx.replaces := by
    intro first tx member
    have among := List.mem_map_of_mem (f := Transaction.content) member
    rw [contents first] at among
    cases first with
    | true => exact known tx.content among
    | false =>
      have swapped : tx.content ∈ chain.map Transaction.content ++ (pending true).map Transaction.content ++
          (pending false).map Transaction.content := by
        simp only [List.mem_append] at among ⊢
        tauto
      exact known tx.content swapped
  rcases places true place with ⟨_, at_place, read⟩
  obtain rfl := Option.some.inj (found.symm.trans at_place)
  rcases places false place with ⟨_, at_place', read'⟩
  obtain rfl := Option.some.inj (found'.symm.trans at_place')
  generalize (world.syncedFrom id generate true).store place = store at agreeing found read ⊢
  generalize (world.syncedFrom id generate false).store place = store' at agreeing found' read' ⊢
  have owner := Store.uuid_of_account? found
  have owner' : record'.uuid = id := Store.uuid_of_account? found'
  constructor
  · exact getBalance_agree (owner ▸ agreeing) (owner'.trans owner.symm) members (owner ▸ read) (owner' ▸ read')
      contents' (refers true)
  · exact getBalance_agree (owner' ▸ agreeing.symm) (owner.trans owner'.symm) members.symm (owner' ▸ read')
      (owner ▸ read) contents'.symm (refers false)

end Divided

def forkedChain (replaces : TransactionId) : List Transaction :=
  [{ makeTransaction [9] [] with replaces := replaces }]

def forkedPending (client : Bool) : List Transaction :=
  [{ makeTransaction [client.toUInt8] [9] with replaces := [9] }]

def forkedServer : Account := { makeAccount [7] with latestTransaction := [9] }

def forkedRecord (client : Bool) : Account :=
  { makeAccount [7] with latestTransaction := [client.toUInt8], latestSynchronizedTransaction := [9] }

def forked (replaces : TransactionId) : World Bool where
  server := .holding forkedServer (forkedChain replaces)
  clients client := ⟨⟨.holding (forkedRecord client) (forkedChain replaces ++ forkedPending client), 1⟩, none⟩

theorem forked_divided (replaces : TransactionId) :
    Divided [7] (forked replaces) forkedServer forkedRecord (forkedChain replaces) forkedPending := by
  have remote_read : (forked replaces).server.ChainAt [7] [9] (forkedChain replaces) :=
    Store.holding_read ⟨rfl, True.intro⟩ (by simp [forkedChain, makeTransaction]) (by simp [forkedChain])
  refine ⟨fun client => ⟨⟨Store.holding_account, ?_, rfl⟩, Store.holding_account, ?_⟩, ?_⟩
  · cases client <;>
      exact Store.holding_read ⟨rfl, rfl, True.intro⟩
        (by simp [forkedChain, forkedPending, makeTransaction])
        (by simp [forkedChain, forkedPending, makeTransaction, Bool.toUInt8])
  · rw [List.append_nil]
    exact remote_read
  · intro client tx member
    obtain rfl := List.mem_singleton.mp member
    exact .inr (by simp [forkedChain, makeTransaction])

theorem forked_unshared (replaces : TransactionId) :
    Unshared [7] twoGenerators (forked replaces) forkedPending := by
  have others : ∀ place (key : TransactionId), key ≠ [9] → (∀ client, place = some client → key ≠ [client.toUInt8]) →
      ((forked replaces).store place).transaction? [7] key = none := by
    intro place key notFirst notPending
    cases place with
    | none =>
      apply Store.holding_absent
      simp [forkedChain, makeTransaction, notFirst]
    | some client =>
      apply Store.holding_absent
      simp [forkedChain, forkedPending, makeTransaction, notFirst, notPending client rfl]
  refine ⟨fun client n later place => ?_, fun client tx member place differ => ?_⟩
  · have longer : ∀ byte : UInt8, twoGenerators client n ≠ [byte] := by
      intro byte same
      have number := (numbered_inj (m := 0) same).2
      obtain rfl : n = 0 := number
      exact Nat.not_succ_le_zero 0 later
    exact others place _ (longer 9) fun other _ => longer _
  · obtain rfl := List.mem_singleton.mp member
    refine others place _ (by cases client <;> decide) fun other same => ?_
    subst same
    cases client <;> cases other <;> first | exact absurd rfl differ | decide

theorem order_immaterial_forked : ∃ chains : Bool → List Transaction,
    (∀ first place, (((forked []).syncedFrom [7] twoGenerators first).store place).Chain [7] (chains first)) ∧
    ((chains true).map Transaction.content).Perm ((chains false).map Transaction.content) := by
  have unnamed : ∀ place key tx, ((forked []).store place).transaction? [7] key = some tx →
      ∀ client, ¬ Reserved twoGenerators (forked []) forkedPending client tx.replaces := by
    intro place key tx stored client
    have replaces : tx.replaces = [] ∨ tx.replaces = [9] := by
      cases place with
      | none =>
        obtain rfl := List.mem_singleton.mp (Store.mem_of_holding stored)
        exact .inl rfl
      | some other =>
        rcases List.mem_cons.mp (Store.mem_of_holding stored) with rfl | later
        · exact .inl rfl
        · obtain rfl := List.mem_singleton.mp later
          exact .inr rfl
    intro given
    rcases given with unsent | ⟨n, later, drawn⟩
    · rw [List.mem_singleton.mp unsent] at replaces
      cases client <;> revert replaces <;> decide
    · rcases replaces with empty | first
      · exact absurd (drawn.trans empty) (List.cons_ne_nil _ _)
      · have byte := (numbered_inj (m := 0) (drawn.trans first)).1
        cases client <;> exact absurd byte (by decide)
  obtain ⟨_, chains, places, contents, _⟩ :=
    order_immaterial twoGenerators_generators (forked_divided []) (forked_unshared []) unnamed
  exact ⟨chains, places, contents⟩

/-- The first transaction replaces an id that one client has pending: only the client that is first
    to synchronize keeps its ids. -/
theorem order_matters_named :
    Generators twoGenerators ∧
    Divided [7] (forked [1]) forkedServer forkedRecord (forkedChain [1]) forkedPending ∧
    Unshared [7] twoGenerators (forked [1]) forkedPending ∧
    ∃ record record' balance,
      ((forked [1]).syncedFrom [7] twoGenerators true).server.account? [7] = some record ∧
      ((forked [1]).syncedFrom [7] twoGenerators false).server.account? [7] = some record' ∧
      getBalance ((forked [1]).syncedFrom [7] twoGenerators true).server record = .ok balance ∧
      getBalance ((forked [1]).syncedFrom [7] twoGenerators false).server record' = .err (.noSuchTransaction [1]) := by
  refine ⟨twoGenerators_generators, forked_divided [1], forked_unshared [1], { makeAccount [7] with
    latestTransaction := numbered 0 1, latestSynchronizedTransaction := [] }, { makeAccount [7] with
    latestTransaction := numbered 1 1, latestSynchronizedTransaction := [] }, ∅, ?_, ?_, ?_, ?_⟩
  · decide +kernel
  · decide +kernel
  · decide +kernel
  · decide +kernel

end World

end Flouze
