import Flouze.Sync.Client

namespace Flouze

open Linked Repository

/-- A server and its clients. A client that is not synchronizing has no pending call. -/
structure World (ι : Type) where
  server : Store
  clients : ι → SyncThread

/-- What can happen. Between `start` and the end of a sync its client does nothing else: the sync
    holds the repository exclusively. -/
inductive Event (ι : Type) where
  | append (client : ι) (tx : Transaction)
  | start (client : ι)
  /-- The server answers a client's call. -/
  | reply (client : ι)
  /-- The server carries the call out, but its reply is lost. -/
  | lost (client : ι) (error : ErrorKind)
  /-- The call does not reach the server. -/
  | unreachable (client : ι) (error : ErrorKind)
  | abandon (client : ι)

variable {ι : Type} [DecidableEq ι]

def World.put (world : World ι) (server : Store) (client : ι) (thread : SyncThread) : World ι :=
  ⟨server, Function.update world.clients client thread⟩

/-- `generate i n` is the `n`-th id that client `i` takes into use. -/
inductive World.Step (id : AccountId) (generate : ι → Nat → TransactionId) :
    World ι → Event ι → World ι → Prop
  | append {world : World ι} {client : ι} {tx : Transaction} {record : Account}
      (idle : (world.clients client).pending = none)
      (found : (world.clients client).state.repo.account? id = some record)
      (uuid : tx.uuid = generate client (world.clients client).state.generated)
      (parent : tx.parent = record.latestTransaction) :
      Step id generate world (.append client tx)
        (world.put world.server client
          ⟨⟨(Ffi.addTransaction id tx (world.clients client).state.repo).2,
            (world.clients client).state.generated + 1⟩, none⟩)
  | start {world : World ι} {client : ι} (idle : (world.clients client).pending = none) :
      Step id generate world (.start client)
        (world.put world.server client
          (sync (generate client) id (world.clients client).state).toThread)
  | reply {world : World ι} {client : ι} {wait : SyncPending}
      (waits : (world.clients client).pending = some wait) :
      Step id generate world (.reply client)
        (world.put (ServerRpcImpl.answer wait.request world.server).2 client
          (wait.resume (ServerRpcImpl.answer wait.request world.server).1
            (world.clients client).state).toThread)
  | lost {world : World ι} {client : ι} {wait : SyncPending} (error : ErrorKind)
      (waits : (world.clients client).pending = some wait) :
      Step id generate world (.lost client error)
        (world.put (ServerRpcImpl.answer wait.request world.server).2 client
          (wait.resume (.err error) (world.clients client).state).toThread)
  | unreachable {world : World ι} {client : ι} {wait : SyncPending} (error : ErrorKind)
      (waits : (world.clients client).pending = some wait) :
      Step id generate world (.unreachable client error)
        (world.put world.server client
          (wait.resume (.err error) (world.clients client).state).toThread)
  | abandon {world : World ι} {client : ι} :
      Step id generate world (.abandon client)
        (world.put world.server client ⟨(world.clients client).state, none⟩)

inductive World.Run (id : AccountId) (generate : ι → Nat → TransactionId) (start : World ι) :
    List (Event ι) → World ι → Prop
  | nil : Run id generate start [] start
  | step {events : List (Event ι)} {event : Event ι} {world after : World ι}
      (run : Run id generate start events world) (step : World.Step id generate world event after) :
      Run id generate start (events ++ [event]) after

/-- Ids are taken into use once, and are not null. -/
structure Generators (generate : ι → Nat → TransactionId) : Prop where
  once : ∀ i j n m, generate i n = generate j m → i = j ∧ n = m
  nonempty : ∀ i n, generate i n ≠ []

def Store.Vacant (id : AccountId) (store : Store) : Prop :=
  ∃ record, store.account? id = some record ∧ record.latestTransaction = [] ∧
    record.latestSynchronizedTransaction = [] ∧ ∀ tx, store.transaction? id tx = none

structure World.Initial (id : AccountId) (world : World ι) : Prop where
  server : world.server.Vacant id
  clients : ∀ client, (world.clients client).state.repo.Vacant id
  idle : ∀ client, (world.clients client).pending = none

def Event.entered (client : ι) : Event ι → List Transaction
  | .append other tx => if other = client then [tx.content] else []
  | _ => []

def entered (client : ι) (events : List (Event ι)) : List Transaction := events.flatMap (Event.entered client)

def Follows (id : AccountId) (generate : Nat → TransactionId) (server : Store) (serverRecord : Account)
    (chain : List Transaction) (thread : SyncThread) (log lost : List Transaction) : Prop :=
  ∃ record synced pending newer, synced ++ newer = chain ∧
    Tracks id generate server thread.state record serverRecord synced pending newer log lost ∧
    Waiting id generate record pending newer thread.pending

section Client

variable {id : AccountId} {generate : Nat → TransactionId} {server : Store} {device : Device Store}
variable {record serverRecord : Account} {synced pending newer chain log lost : List Transaction}
variable {thread : SyncThread} {wait : SyncPending}

theorem Waiting.failed (waiting : Waiting id generate record pending newer (some wait)) (error : ErrorKind) :
    wait.resume (.err error) device = .ret (.err error) device := by
  cases waiting <;> rfl

theorem Tracks.follows_push
    (tracks : Tracks id generate server device record serverRecord synced pending [] log lost) :
    Follows id generate server serverRecord synced (pushLocalTransactions record device).toThread log lost := by
  by_cases empty : pending = []
  · subst empty
    rw [push_nothing tracks.toReplica]
    exact ⟨record, synced, [], [], by simp, tracks, .idle⟩
  · rw [push_pending tracks.toReplica empty]
    exact ⟨record, synced, pending, [], by simp, tracks, .receipt empty (by simp [Foreign])⟩

/-- What one call of a client does to the server: its chain grows by a batch of the client's. -/
structure Served (id : AccountId) (generate : Nat → TransactionId) (server server' : Store)
    (serverRecord : Account) (chain batch : List Transaction) : Prop where
  own : Own generate batch
  extra : Extends serverRecord chain batch
  received : server' = server.received serverRecord batch

theorem Tracks.unserved
    (tracks : Tracks id generate server device record serverRecord synced pending newer log lost)
    (chain : List Transaction) : Served id generate server server serverRecord chain [] :=
  ⟨by simp [Own], Extends.nil serverRecord chain, tracks.toHonest.received_nil.symm⟩

theorem Follows.still
    (follows : Follows id generate server serverRecord chain thread log lost) :
    Follows id generate (server.received serverRecord []) (serverRecord.extended []) (chain ++ []) thread log lost := by
  rcases follows with ⟨record, synced, pending, newer, split, tracks, waiting⟩
  rw [tracks.toHonest.received_nil, List.append_nil]
  exact ⟨record, synced, pending, newer, split, tracks, waiting⟩

theorem Follows.extended (follows : Follows id generate server serverRecord chain thread log lost)
    {batch : List Transaction} (extra : Extends serverRecord chain batch) (foreign : Foreign generate batch) :
    Follows id generate (server.received serverRecord batch) (serverRecord.extended batch) (chain ++ batch)
      thread log lost := by
  rcases follows with ⟨record, synced, pending, newer, rfl, tracks, waiting⟩
  refine ⟨record, synced, pending, newer ++ batch, by simp, tracks.extended extra foreign, ?_⟩
  generalize thread.pending = wait at waiting
  cases waiting with
  | idle => exact .idle
  | latest => exact .latest
  | children => exact .children
  | receipt unsent clean => exact .receipt unsent (clean.append foreign)

theorem Follows.appended (follows : Follows id generate server serverRecord chain thread log lost)
    (injective : Function.Injective generate) (nonempty : ∀ n, generate n ≠ []) {tx : Transaction}
    (found : thread.state.repo.account? id = some record)
    (uuid : tx.uuid = generate thread.state.generated) (parent : tx.parent = record.latestTransaction) :
    Follows id generate server serverRecord chain
      ⟨⟨(Ffi.addTransaction id tx thread.state.repo).2, thread.state.generated + 1⟩, none⟩
      (log ++ [tx.content]) lost := by
  rcases follows with ⟨stored, synced, pending, newer, split, tracks, _⟩
  obtain rfl : record = stored := Option.some.inj (found.symm.trans tracks.found)
  exact ⟨_, synced, _, newer, split, tracks.appended injective nonempty uuid parent, .idle⟩

theorem Follows.started (follows : Follows id generate server serverRecord chain thread log lost) :
    Follows id generate server serverRecord chain (sync generate id thread.state).toThread log lost := by
  rcases follows with ⟨record, synced, pending, newer, split, tracks, _⟩
  rw [sync_start tracks.found]
  exact ⟨record, synced, pending, newer, split, tracks, .latest⟩

theorem Follows.dropped (follows : Follows id generate server serverRecord chain thread log lost) :
    Follows id generate server serverRecord chain ⟨thread.state, none⟩ log lost := by
  rcases follows with ⟨record, synced, pending, newer, split, tracks, _⟩
  exact ⟨record, synced, pending, newer, split, tracks, .idle⟩

theorem Follows.failed (follows : Follows id generate server serverRecord chain ⟨device, some wait⟩ log lost)
    (error : ErrorKind) : (wait.resume (.err error) device).toThread = ⟨device, none⟩ := by
  rcases follows with ⟨record, synced, pending, newer, _, _, waiting⟩
  rw [waiting.failed]
  rfl

theorem Follows.unheard_push {batch : List Transaction}
    {resume : RemoteCall.Reply (.receiveTransactions id batch) → Device Store →
      Resumption RemoteCall RemoteCall.Reply (Device Store) (Outcome ErrorKind Unit)}
    (follows : Follows id generate server serverRecord chain
      ⟨device, some ⟨.receiveTransactions id batch, resume⟩⟩ log lost)
    (accepted : (ServerRpcImpl.answer (.receiveTransactions id batch) server).1 = .ok ()) :
    batch ≠ [] ∧ Served id generate server (ServerRpcImpl.answer (.receiveTransactions id batch) server).2 serverRecord
        chain batch ∧
      Follows id generate (server.received serverRecord batch) (serverRecord.extended batch) (chain ++ batch)
        ⟨device, none⟩ log batch := by
  rcases follows with ⟨record, synced, pending, newer, rfl, tracks, waiting⟩
  cases waiting with
  | receipt unsent _ =>
    by_cases same : newer = []
    · subst same
      rw [tracks.toHonest.answer_accept]
      have extra := tracks.toHonest.extends_pending
      exact ⟨unsent, ⟨tracks.own, by simpa using extra, rfl⟩,
        record, synced, batch, batch, by simp, tracks.unacknowledged, .idle⟩
    · rw [tracks.toHonest.answer_mustRebase unsent same] at accepted
      cases accepted

theorem Follows.unheard
    (follows : Follows id generate server serverRecord chain ⟨device, some wait⟩ log lost) :
    ∃ batch lost', Served id generate server (ServerRpcImpl.answer wait.request server).2 serverRecord
        chain batch ∧ (lost ≠ [] → lost' = lost) ∧
      Follows id generate (server.received serverRecord batch) (serverRecord.extended batch) (chain ++ batch)
        ⟨device, none⟩ log lost' := by
  have whole := follows
  have still := follows.dropped.still
  rcases follows with ⟨record, synced, pending, newer, rfl, tracks, waiting⟩
  obtain rfl : record.uuid = id := tracks.owner
  cases waiting with
  | latest =>
    rw [tracks.toHonest.answer_latest]
    exact ⟨[], lost, tracks.unserved _, fun _ => rfl, still⟩
  | children =>
    rw [tracks.toHonest.answer_children]
    exact ⟨[], lost, tracks.unserved _, fun _ => rfl, still⟩
  | receipt unsent _ =>
    by_cases same : newer = []
    · subst same
      rcases whole.unheard_push (by rw [tracks.toHonest.answer_accept]) with ⟨_, served, after⟩
      exact ⟨pending, pending, served, absurd tracks.mode.nothing_newer, after⟩
    · rw [tracks.toHonest.answer_mustRebase unsent same]
      exact ⟨[], lost, tracks.unserved _, fun _ => rfl, still⟩

theorem Follows.replied (injective : Function.Injective generate) (nonempty : ∀ n, generate n ≠ [])
    (follows : Follows id generate server serverRecord chain ⟨device, some wait⟩ log lost) :
    ∃ batch, Served id generate server (ServerRpcImpl.answer wait.request server).2 serverRecord chain batch ∧
      Follows id generate (server.received serverRecord batch) (serverRecord.extended batch) (chain ++ batch)
        (wait.resume (ServerRpcImpl.answer wait.request server).1 device).toThread log lost := by
  have dropped := follows.dropped
  rcases follows with ⟨record, synced, pending, newer, rfl, tracks, waiting⟩
  obtain rfl : record.uuid = id := tracks.owner
  cases waiting with
  | latest =>
    rw [tracks.toHonest.answer_latest]
    refine ⟨[], tracks.unserved _, Follows.still ?_⟩
    change Follows _ _ _ _ _ (onLatest generate record serverRecord.latestTransaction device).toThread _ _
    by_cases same : newer = []
    · subst same
      rw [onLatest_same (tracks.toHonest.same_iff.mpr rfl), List.append_nil]
      exact tracks.follows_push
    · rw [onLatest_differs (mt tracks.toHonest.same_iff.mp same)]
      exact ⟨record, synced, pending, newer, rfl, tracks, .children⟩
  | children =>
    rw [tracks.toHonest.answer_children]
    refine ⟨[], tracks.unserved _, Follows.still ?_⟩
    change Follows _ _ _ _ _ (onChildren generate record newer device).toThread _ _
    by_cases same : newer = []
    · subst same
      rw [onChildren_err (adopt_empty generate)]
      exact dropped
    · by_cases heard : lost = []
      · subst heard
        rcases tracks.pulled injective nonempty same with ⟨run, after⟩
        rw [onChildren_ok run]
        exact after.follows_push
      · rcases tracks.newer_stored heard with ⟨tx, member, present⟩
        obtain ⟨duplicate, _, _, run⟩ := adopt_duplicate generate
          ⟨tx.uuid, List.mem_map_of_mem member, present⟩
        rw [onChildren_err run]
        exact dropped
  | receipt unsent foreign =>
    by_cases same : newer = []
    · subst same
      obtain rfl : lost = [] := tracks.mode.nothing_newer
      rw [tracks.toHonest.answer_accept]
      have extra := tracks.toHonest.extends_pending
      refine ⟨pending, ⟨tracks.own, by simpa using extra, rfl⟩, ?_⟩
      change Follows _ _ _ _ _ (onReceipt record () device).toThread _ _
      rw [onReceipt_run tracks.found]
      exact ⟨_, synced ++ pending, [], [], by simp, tracks.pushed, .idle⟩
    · rw [tracks.toHonest.answer_mustRebase unsent same]
      exact ⟨[], tracks.unserved _, Follows.still dropped⟩

end Client

/-- What holds in every world that can be reached: the server's chain is made of the clients' own
    transactions, and every client follows it. -/
structure World.Coherent (id : AccountId) (generate : ι → Nat → TransactionId) (world : World ι)
    (events : List (Event ι)) (serverRecord : Account) (chain : List Transaction)
    (lost : ι → List Transaction) : Prop where
  found : world.server.account? id = some serverRecord
  read : world.server.ChainAt id serverRecord.latestTransaction chain
  owned : ∀ tx ∈ chain, ∃ client, tx.uuid ∈ Set.range (generate client)
  follows : ∀ client, Follows id (generate client) world.server serverRecord chain (world.clients client)
    (entered client events) (lost client)

namespace World

variable {id : AccountId} {generate : ι → Nat → TransactionId} {start world after : World ι}
variable {events : List (Event ι)} {event : Event ι} {serverRecord : Account} {chain : List Transaction}
variable {lost : ι → List Transaction}

theorem entered_concat (client : ι) (events : List (Event ι)) (event : Event ι) :
    entered client (events ++ [event]) = entered client events ++ event.entered client := by
  simp [entered]

theorem Initial.coherent (initial : start.Initial id) :
    ∃ serverRecord, start.Coherent id generate [] serverRecord [] fun _ => [] := by
  rcases initial.server with ⟨serverRecord, remote_found, remote_latest, _⟩
  have remote_read : start.server.ChainAt id serverRecord.latestTransaction [] := by
    rw [remote_latest]
    exact Chained.nil _ _ _ _
  refine ⟨serverRecord, remote_found, remote_read, by simp, ?_⟩
  intro client
  rcases initial.clients client with ⟨record, found, latest, synchronized, absent⟩
  have read : (start.clients client).state.repo.ChainAt id record.latestTransaction [] := by
    rw [latest]
    exact Chained.nil _ _ _ _
  refine ⟨record, [], [], [], rfl, ?_, ?_⟩
  · exact ⟨⟨⟨found, read, synchronized⟩, remote_found, remote_read⟩, fun key present =>
      absurd (absent key) present, by simp [Own], by simp, rfl, unacknowledged_nil.mpr (by simp [Foreign])⟩
  · rw [initial.idle client]
    exact .idle

theorem Coherent.put (generators : Generators generate)
    (coherent : world.Coherent id generate events serverRecord chain lost) {client : ι} {server : Store}
    {thread : SyncThread} {batch lost' : List Transaction}
    (served : Served id (generate client) world.server server serverRecord chain batch)
    (others : ∀ other, other ≠ client → event.entered other = [])
    (moves : Follows id (generate client) (world.server.received serverRecord batch)
      (serverRecord.extended batch) (chain ++ batch) thread (entered client (events ++ [event])) lost') :
    (world.put server client thread).Coherent id generate (events ++ [event])
      (serverRecord.extended batch) (chain ++ batch) (Function.update lost client lost') := by
  obtain rfl : serverRecord.uuid = id := Store.uuid_of_account? coherent.found
  rcases served with ⟨own, extra, rfl⟩
  refine ⟨?_, ?_, ?_, ?_⟩
  · change (world.server.received serverRecord batch).account? _ = _
    rw [Store.account?_received, if_pos rfl]
    rfl
  · exact coherent.read.received extra.linked extra.nonempty extra.distinct extra.apart
  · intro tx member
    rcases List.mem_append.mp member with before | sent
    · exact coherent.owned tx before
    · exact ⟨client, own tx sent⟩
  · intro other
    by_cases same : other = client
    · subst same
      simpa [World.put] using moves
    · have foreign : Foreign (generate other) batch := by
        intro tx member given
        rcases given with ⟨n, drawn⟩
        rcases own tx member with ⟨m, drawn'⟩
        exact same (generators.once other client n m (drawn.trans drawn'.symm)).1
      have log : entered other (events ++ [event]) = entered other events := by
        rw [entered_concat, others other same, List.append_nil]
      rw [log]
      simpa [World.put, same] using (coherent.follows other).extended extra foreign

theorem Coherent.unserved (coherent : world.Coherent id generate events serverRecord chain lost) (client : ι) :
    Served id (generate client) world.server world.server serverRecord chain [] := by
  rcases coherent.follows client with ⟨_, _, _, _, _, tracks, _⟩
  exact tracks.unserved chain

theorem Coherent.waiting (coherent : world.Coherent id generate events serverRecord chain lost) {client : ι}
    {wait : SyncPending} (waits : (world.clients client).pending = some wait) :
    Follows id (generate client) world.server serverRecord chain
      ⟨(world.clients client).state, some wait⟩ (entered client events) (lost client) := by
  rw [← waits]
  exact coherent.follows client

theorem Coherent.step (generators : Generators generate)
    (coherent : world.Coherent id generate events serverRecord chain lost)
    (step : World.Step id generate world event after) :
    ∃ batch lost', after.Coherent id generate (events ++ [event]) (serverRecord.extended batch)
        (chain ++ batch) lost' ∧
      (∀ client, lost client ≠ [] → lost' client = lost client) ∧
      ∀ client, (∀ error, event ≠ .lost client error) → lost' client = lost client := by
  have injective : ∀ client, Function.Injective (generate client) :=
    fun client n m same => (generators.once client client n m same).2
  have silent : ∀ {client : ι}, event.entered client = [] →
      entered client (events ++ [event]) = entered client events := by
    intro client quiet
    rw [entered_concat, quiet, List.append_nil]
  have known : ∀ {client : ι} {server : Store} {thread : SyncThread} {batch : List Transaction},
      (world.put server client thread).Coherent id generate (events ++ [event]) (serverRecord.extended batch)
        (chain ++ batch) (Function.update lost client (lost client)) →
      ∃ batch lost', (world.put server client thread).Coherent id generate (events ++ [event])
        (serverRecord.extended batch) (chain ++ batch) lost' ∧
        (∀ client, lost client ≠ [] → lost' client = lost client) ∧
        ∀ client, (∀ error, event ≠ .lost client error) → lost' client = lost client := by
    intro client server thread batch coherent
    rw [Function.update_eq_self] at coherent
    exact ⟨batch, lost, coherent, fun _ _ => rfl, fun _ _ => rfl⟩
  cases step with
  | @append client tx record idle found uuid parent =>
    have moves := (coherent.follows client).appended (injective client) (generators.nonempty client)
      found uuid parent
    apply known
    refine coherent.put generators (coherent.unserved client) ?_ ?_
    · intro other differ
      simp [Event.entered, differ.symm]
    · rw [entered_concat]
      simpa [Event.entered] using moves.still
  | @start client idle =>
    apply known
    refine coherent.put generators (coherent.unserved client) (fun _ _ => rfl) ?_
    rw [silent rfl]
    exact (coherent.follows client).started.still
  | @reply client wait waits =>
    obtain ⟨batch, served, moves⟩ := (coherent.waiting waits).replied (injective client)
      (generators.nonempty client)
    apply known
    refine coherent.put generators served (fun _ _ => rfl) ?_
    rw [silent rfl]
    exact moves
  | @lost client wait error waits =>
    rcases (coherent.waiting waits).unheard with ⟨batch, lost', served, grows, moves⟩
    refine ⟨batch, Function.update lost client lost', ?_, ?_, ?_⟩
    · refine coherent.put generators served (fun _ _ => rfl) ?_
      rw [silent rfl, (coherent.waiting waits).failed]
      exact moves
    · intro other before
      by_cases same : other = client
      · subst same
        simpa using grows before
      · simp [same]
    · intro other never
      have differ : other ≠ client := fun same => never error (same ▸ rfl)
      simp [differ]
  | @unreachable client wait error waits =>
    apply known
    refine coherent.put generators (coherent.unserved client) (fun _ _ => rfl) ?_
    rw [silent rfl, (coherent.waiting waits).failed]
    exact (coherent.waiting waits).dropped.still
  | @abandon client =>
    apply known
    refine coherent.put generators (coherent.unserved client) (fun _ _ => rfl) ?_
    rw [silent rfl]
    exact (coherent.follows client).dropped.still

theorem Coherent.unheard (generators : Generators generate)
    (coherent : world.Coherent id generate events serverRecord chain lost) {client : ι}
    {batch : List Transaction} {resume : RemoteCall.Reply (.receiveTransactions id batch) → Device Store →
      Resumption RemoteCall RemoteCall.Reply (Device Store) (Outcome ErrorKind Unit)}
    (waits : (world.clients client).pending = some ⟨.receiveTransactions id batch, resume⟩)
    (accepted : (ServerRpcImpl.answer (.receiveTransactions id batch) world.server).1 = .ok ())
    {error : ErrorKind} (step : World.Step id generate world (.lost client error) after) :
    batch ≠ [] ∧ after.Coherent id generate (events ++ [.lost client error]) (serverRecord.extended batch)
      (chain ++ batch) (Function.update lost client batch) := by
  have follows := coherent.waiting waits
  rcases follows.unheard_push accepted with ⟨some, served, moves⟩
  refine ⟨some, ?_⟩
  cases step with
  | lost _ waits' =>
    obtain rfl := Option.some.inj (waits.symm.trans waits')
    refine coherent.put generators served (fun _ _ => rfl) ?_
    rw [follows.failed, entered_concat]
    simpa [Event.entered] using moves

theorem Coherent.run (generators : Generators generate)
    (coherent : start.Coherent id generate events serverRecord chain lost) {more : List (Event ι)}
    (run : World.Run id generate start more world) :
    ∃ serverRecord' batch lost',
      world.Coherent id generate (events ++ more) serverRecord' (chain ++ batch) lost' ∧
      (∀ client, lost client ≠ [] → lost' client = lost client) ∧
      ∀ client, (∀ error, .lost client error ∉ more) → lost' client = lost client := by
  induction run with
  | nil => exact ⟨serverRecord, [], lost, by simpa using coherent, fun _ _ => rfl, fun _ _ => rfl⟩
  | step _ step ih =>
    rcases ih with ⟨record, before, lost', coherent, grows, kept⟩
    rcases coherent.step generators step with ⟨batch, lost'', after, grows', kept'⟩
    refine ⟨_, before ++ batch, lost'', by simpa using after, ?_, ?_⟩
    · intro client some
      have same := grows client some
      rw [grows' client (same ▸ some), same]
    intro client never
    rw [kept' client fun error same => never error (by simp [same]),
      kept client fun error member => never error (by simp [member])]

theorem put_put (world : World ι) (server server' : Store) (client : ι) (thread thread' : SyncThread) :
    (world.put server client thread).put server' client thread' = world.put server' client thread' := by
  simp [put]

theorem Run.trans {middle : World ι} (first : World.Run id generate start events middle)
    (second : World.Run id generate middle more after) : World.Run id generate start (events ++ more) after := by
  induction second with
  | nil => simpa using first
  | step _ step ih =>
    rw [← List.append_assoc]
    exact .step ih step

theorem answered_run (id : AccountId) (generate : ι → Nat → TransactionId) (world : World ι) (client : ι)
    {thread thread' : SyncThread} {server server' : Store}
    (answered : Relation.ReflTransGen (Resumption.Answered ServerRpcImpl.answer) (thread, server)
      (thread', server')) :
    ∃ calls, World.Run id generate (world.put server client thread) (List.replicate calls (.reply client))
      (world.put server' client thread') := by
  generalize from_ : (thread, server) = first at answered
  generalize to_ : (thread', server') = last at answered
  induction answered generalizing thread' server' with
  | refl =>
    rcases Prod.mk.inj (from_.trans to_.symm) with ⟨rfl, rfl⟩
    exact ⟨0, .nil⟩
  | tail _ step ih =>
    cases step with
    | reply state wait partner =>
      rcases Prod.mk.inj to_ with ⟨rfl, rfl⟩
      rcases ih rfl with ⟨calls, run⟩
      have waits : ((world.put partner client ⟨state, some wait⟩).clients client).pending = some wait := by
        simp [put]
      have at_state : ((world.put partner client ⟨state, some wait⟩).clients client).state = state := by
        simp [put]
      have step : World.Step id generate (world.put partner client ⟨state, some wait⟩) (.reply client) _ :=
        .reply waits
      rw [put_put, at_state] at step
      refine ⟨calls + 1, ?_⟩
      rw [List.replicate_succ']
      exact .step run step

def synced (id : AccountId) (generate : ι → Nat → TransactionId) (world : World ι) (client : ι) : World ι :=
  let result := (sync (generate client) id (world.clients client).state).run ServerRpcImpl.answer world.server
  world.put result.2 client ⟨result.1.2, none⟩

theorem synced_run (id : AccountId) (generate : ι → Nat → TransactionId) (world : World ι) (client : ι)
    (idle : (world.clients client).pending = none) :
    ∃ calls, World.Run id generate world (.start client :: List.replicate calls (.reply client))
      (world.synced id generate client) := by
  have begun : World.Step id generate world (.start client) _ := .start idle
  have answered := Resumption.run_answered ServerRpcImpl.answer
    (sync (generate client) id (world.clients client).state) world.server
  rcases answered_run id generate world client answered with ⟨calls, run⟩
  exact ⟨calls, (World.Run.step .nil begun).trans run⟩

def fresh (account : Account) : World ι where
  server := Store.empty.putAccount account
  clients _ := ⟨⟨Store.empty.putAccount account, 0⟩, none⟩

omit [DecidableEq ι] in
theorem fresh_initial (account : Account) (latest : account.latestTransaction = [])
    (synchronized : account.latestSynchronizedTransaction = []) :
    (fresh account : World ι).Initial account.uuid := by
  have vacant : (Store.empty.putAccount account).Vacant account.uuid :=
    ⟨account, by simp, latest, synchronized, fun _ => rfl⟩
  exact ⟨vacant, fun _ => vacant, fun _ => rfl⟩

end World

def twoGenerators (client : Bool) : Nat → TransactionId := numbered client.toUInt8

theorem twoGenerators_generators : Generators twoGenerators := by
  refine ⟨?_, fun _ _ => List.cons_ne_nil _ _⟩
  intro i j n m same
  rcases numbered_inj same with ⟨byte, number⟩
  refine ⟨?_, number⟩
  cases i <;> cases j <;> first | rfl | exact absurd byte (by decide)

end Flouze
