import Flouze.Lib.Machine
import Flouze.Sync.Recovery

namespace Flouze

open Linked Repository

/-- A client that has nothing left to send and, where `level` holds, nothing left to fetch. -/
def Rests (level : Prop) (id : AccountId) (generate : Nat → TransactionId) (server : Store)
    (serverRecord : Account) (chain : List Transaction) (thread : SyncThread) (log : List Transaction) : Prop :=
  ∃ record synced newer, synced ++ newer = chain ∧
    Tracks id generate server thread.state record serverRecord synced [] newer log [] ∧
    Waiting id generate record [] newer thread.pending ∧ (level → newer = [])

section Client

variable {id : AccountId} {generate : Nat → TransactionId} {server : Store} {device : Device Store}
variable {record serverRecord : Account} {synced pending newer chain log lost : List Transaction}
variable {thread : SyncThread} {wait : SyncPending} {level : Prop}

/-- How a sync goes on with the server's reply, if the client has heard of everything it pushed. -/
inductive Replied (id : AccountId) (generate : Nat → TransactionId) (server : Store) (device : Device Store)
    (record serverRecord : Account) (synced pending newer log : List Transaction) (call : RemoteCall)
    (server' : Store) (next : Resumption RemoteCall RemoteCall.Reply (Device Store) (Outcome ErrorKind Unit)) : Prop
  | fetches (behind : newer ≠ []) (silent : server' = server)
      (asks : next = .call (.getChildTransactions id record.latestSynchronizedTransaction) device
        (Process.andThen (onChildren generate record)))
  | pushes {device' : Device Store} {record' : Account} {pending' : List Transaction}
      (caught : Tracks id generate server device' record' serverRecord (synced ++ newer) pending' [] log [])
      (sent : pending = [] → pending' = []) (silent : server' = server)
      (asks : next = pushLocalTransactions record' device')
  | ends {device' : Device Store} {record' : Account} (level : newer = [])
      (caught : Tracks id generate (server.received serverRecord pending) device' record'
        (serverRecord.extended pending) (synced ++ pending) [] [] log [])
      (accepted : server' = server.received serverRecord pending) (next_eq : next = .ret (.ok ()) device')
  | nothing (level : newer = []) (call_eq : call = .getChildTransactions id record.latestSynchronizedTransaction)
      (silent : server' = server) (next_eq : next = .ret (.err .inconsistentServerResponse) device)
  | refused (behind : newer ≠ []) (unsent : pending ≠ []) (call_eq : call = .receiveTransactions id pending)
      (silent : server' = server) (next_eq : next = .ret (.err .mustRebase) device)

theorem Tracks.replied (injective : Function.Injective generate) (nonempty : ∀ n, generate n ≠ [])
    (tracks : Tracks id generate server device record serverRecord synced pending newer log [])
    (waiting : Waiting id generate record pending newer (some wait)) :
    Replied id generate server device record serverRecord synced pending newer log wait.request
      (ServerRpcImpl.answer wait.request server).2
      (wait.resume (ServerRpcImpl.answer wait.request server).1 device) := by
  obtain rfl : record.uuid = id := tracks.owner
  cases waiting with
  | latest =>
    simp only [tracks.toHonest.answer_latest]
    change Replied _ _ _ _ _ _ _ _ _ _ _ _ (onLatest generate record serverRecord.latestTransaction device)
    by_cases same : newer = []
    · subst same
      rw [onLatest_same (tracks.toHonest.same_iff.mpr rfl)]
      exact .pushes (by simpa using tracks) id rfl rfl
    · rw [onLatest_differs (mt tracks.toHonest.same_iff.mp same)]
      exact .fetches same rfl rfl
  | children =>
    simp only [tracks.toHonest.answer_children]
    change Replied _ _ _ _ _ _ _ _ _ _ _ _ (onChildren generate record newer device)
    by_cases same : newer = []
    · subst same
      rw [onChildren_err (adopt_empty generate)]
      exact .nothing rfl rfl rfl rfl
    · rcases tracks.pulled injective nonempty same with ⟨run, caught⟩
      rw [onChildren_ok run]
      refine .pushes caught ?_ rfl rfl
      intro none
      subst none
      rfl
  | receipt unsent _ =>
    by_cases same : newer = []
    · subst same
      simp only [tracks.toHonest.answer_accept]
      change Replied _ _ _ _ _ _ _ _ _ _ _ _ (onReceipt record () device)
      rw [onReceipt_run tracks.found]
      exact .ends rfl tracks.pushed rfl rfl
    · simp only [tracks.toHonest.answer_mustRebase unsent same]
      exact .refused same unsent rfl rfl rfl

theorem Rests.extended (rests : Rests level id generate server serverRecord chain thread log)
    {batch : List Transaction} (extra : Extends serverRecord chain batch) (foreign : Foreign generate batch)
    (still : level → batch = []) :
    Rests level id generate (server.received serverRecord batch) (serverRecord.extended batch) (chain ++ batch)
      thread log := by
  rcases rests with ⟨record, synced, newer, rfl, tracks, waiting, none⟩
  refine ⟨record, synced, newer ++ batch, by simp, tracks.extended extra foreign, ?_, ?_⟩
  · generalize thread.pending = wait at waiting
    cases waiting with
    | idle => exact .idle
    | latest => exact .latest
    | children => exact .children
    | receipt unsent _ => exact absurd rfl unsent
  · intro holds
    rw [none holds, still holds, List.append_nil]

theorem Rests.follows (rests : Rests level id generate server serverRecord chain thread log) :
    Follows id generate server serverRecord chain thread log [] := by
  rcases rests with ⟨record, synced, newer, split, tracks, waiting, _⟩
  exact ⟨record, synced, [], newer, split, tracks, waiting⟩

theorem Rests.stopped (rests : Rests level id generate server serverRecord chain thread log) :
    Rests level id generate server serverRecord chain ⟨thread.state, none⟩ log := by
  rcases rests with ⟨record, synced, newer, split, tracks, _, none⟩
  exact ⟨record, synced, newer, split, tracks, .idle, none⟩

theorem Rests.started (rests : Rests level id generate server serverRecord chain thread log) :
    Rests level id generate server serverRecord chain (sync generate id thread.state).toThread log := by
  rcases rests with ⟨record, synced, newer, split, tracks, _, none⟩
  rw [sync_start tracks.found]
  exact ⟨record, synced, newer, split, tracks, .latest, none⟩

theorem Rests.answer (rests : Rests level id generate server serverRecord chain ⟨device, some wait⟩ log) :
    (ServerRpcImpl.answer wait.request server).2 = server := by
  rcases rests with ⟨record, synced, newer, rfl, tracks, waiting, _⟩
  cases waiting with
  | latest => rw [tracks.toHonest.answer_latest]
  | children => rw [tracks.toHonest.answer_children]
  | receipt unsent _ => exact absurd rfl unsent

theorem Rests.replied (injective : Function.Injective generate) (nonempty : ∀ n, generate n ≠ [])
    (rests : Rests level id generate server serverRecord chain ⟨device, some wait⟩ log) :
    Rests level id generate server serverRecord chain
      (wait.resume (ServerRpcImpl.answer wait.request server).1 device).toThread log := by
  have stopped := rests.stopped
  rcases rests with ⟨record, synced, newer, rfl, tracks, waiting, none⟩
  cases tracks.replied injective nonempty waiting with
  | fetches _ _ asks =>
    rw [asks]
    exact ⟨record, synced, newer, rfl, tracks, .children, none⟩
  | @pushes device' record' _ caught sent _ asks =>
    obtain rfl := sent rfl
    rw [asks, push_nothing caught.toReplica]
    exact ⟨record', synced ++ newer, [], by simp, caught, .idle, fun _ => rfl⟩
  | @ends device' record' level caught _ next =>
    subst level
    rw [tracks.toHonest.received_nil] at caught
    rw [next]
    exact ⟨record', synced ++ [], [], by simp, caught, .idle, fun _ => rfl⟩
  | nothing _ _ _ next =>
    rw [next]
    exact stopped
  | refused _ unsent _ _ _ => exact absurd rfl unsent

theorem Follows.ended (injective : Function.Injective generate) (nonempty : ∀ n, generate n ≠ [])
    (follows : Follows id generate server serverRecord chain ⟨device, some wait⟩ log []) {device' : Device Store}
    (ends : wait.resume (ServerRpcImpl.answer wait.request server).1 device = .ret (.ok ()) device') :
    ∃ batch, Served id generate server (ServerRpcImpl.answer wait.request server).2 serverRecord chain batch ∧
      Rests True id generate (server.received serverRecord batch) (serverRecord.extended batch) (chain ++ batch)
        ⟨device', none⟩ log := by
  rcases follows with ⟨record, synced, pending, newer, rfl, tracks, waiting⟩
  cases tracks.replied injective nonempty waiting with
  | fetches _ _ asks => cases ends.symm.trans asks
  | @pushes _ record' pending' caught _ silent asks =>
    rw [silent]
    refine ⟨[], tracks.unserved _, ?_⟩
    rw [tracks.toHonest.received_nil]
    by_cases none : pending' = []
    · subst none
      rw [push_nothing caught.toReplica] at asks
      cases ends.symm.trans asks
      exact ⟨record', synced ++ newer, [], by simp, caught, .idle, fun _ => rfl⟩
    · rw [push_pending caught.toReplica none] at asks
      cases ends.symm.trans asks
  | @ends _ record' level caught accepted next =>
    subst level
    cases ends.symm.trans next
    have extra := tracks.toHonest.extends_pending
    refine ⟨pending, ⟨tracks.own, by simpa using extra, accepted⟩, ?_⟩
    exact ⟨record', synced ++ pending, [], by simp, caught, .idle, fun _ => rfl⟩
  | nothing _ _ _ next => cases ends.symm.trans next
  | refused _ _ _ _ next => cases ends.symm.trans next

theorem Rests.contents (rests : Rests level id generate server serverRecord chain thread log) :
    contentsOf generate chain = log := by
  rcases rests with ⟨record, synced, newer, rfl, tracks, _, _⟩
  have foreign : Foreign generate newer := unacknowledged_nil.mp tracks.mode
  rw [contentsOf_append, contentsOf_foreign generate foreign]
  simpa using tracks.logged

theorem Rests.caught_up (rests : Rests True id generate server serverRecord chain thread log) :
    ∃ record, thread.state.repo.account? id = some record ∧
      thread.state.repo.ChainAt id record.latestTransaction chain ∧
      record.latestSynchronizedTransaction = record.latestTransaction := by
  rcases rests with ⟨record, synced, newer, rfl, tracks, _, none⟩
  obtain rfl := none True.intro
  have at_head := tracks.read.head_eq
  rw [List.append_nil] at at_head
  exact ⟨record, tracks.found, tracks.read, tracks.base.trans at_head.symm⟩

theorem Rests.weaken {weaker : Prop} (rests : Rests level id generate server serverRecord chain thread log)
    (implies : weaker → level) : Rests weaker id generate server serverRecord chain thread log := by
  rcases rests with ⟨record, synced, newer, split, tracks, waiting, none⟩
  exact ⟨record, synced, newer, split, tracks, waiting, fun holds => none (implies holds)⟩

theorem Rests.read (rests : Rests level id generate server serverRecord chain thread log) :
    server.account? id = some serverRecord ∧ server.ChainAt id serverRecord.latestTransaction chain := by
  rcases rests with ⟨record, synced, newer, rfl, tracks, _, _⟩
  exact ⟨tracks.remote_found, tracks.remote_read⟩

end Client

def Event.Quiet {ι : Type} : Event ι → Prop
  | append _ _ | lost _ _ => False
  | start _ | reply _ | unreachable _ _ | abandon _ => True

namespace World

variable {ι : Type} [DecidableEq ι]
variable {id : AccountId} {generate : ι → Nat → TransactionId} {start world middle after : World ι}
variable {events more last : List (Event ι)} {event : Event ι} {client : ι} {serverRecord : Account}
variable {chain : List Transaction} {lost : ι → List Transaction} {level : Prop}

def Unsent (id : AccountId) (world : World ι) (client : ι) : Prop :=
  ∃ record, (world.clients client).state.repo.account? id = some record ∧
    record.latestTransaction ≠ record.latestSynchronizedTransaction

def AtRest (level : Prop) (id : AccountId) (generate : ι → Nat → TransactionId) (world : World ι)
    (events : List (Event ι)) (client : ι) : Prop :=
  ∃ serverRecord chain, Rests level id (generate client) world.server serverRecord chain (world.clients client)
    (entered client events)

def Completed (id : AccountId) (generate : ι → Nat → TransactionId) (start : World ι) (events : List (Event ι))
    (world : World ι) (client : ι) : Prop :=
  ∃ before later middle wait device, events = before ++ .reply client :: later ∧
    World.Run id generate start before middle ∧ (middle.clients client).pending = some wait ∧
    wait.resume (ServerRpcImpl.answer wait.request middle.server).1 (middle.clients client).state =
      .ret (.ok ()) device ∧
    World.Run id generate (middle.put (ServerRpcImpl.answer wait.request middle.server).2 client ⟨device, none⟩)
      later world

theorem entered_quiet (event : Event ι) (quiet : event.Quiet) (events : List (Event ι)) (client : ι) :
    entered client (events ++ [event]) = entered client events := by
  rw [entered_concat]
  cases event with
  | append _ _ => exact absurd quiet not_false
  | lost _ _ => exact absurd quiet not_false
  | start _ => exact List.append_nil _
  | reply _ => exact List.append_nil _
  | unreachable _ _ => exact List.append_nil _
  | abandon _ => exact List.append_nil _

theorem Coherent.served_by (generators : Generators generate)
    (coherent : world.Coherent id generate events serverRecord chain lost)
    (step : World.Step id generate world event after) :
    ∃ batch, Served id (generate event.client) world.server after.server serverRecord chain batch := by
  cases step with
  | @append client _ _ _ _ _ _ => exact ⟨[], coherent.unserved client⟩
  | @start client _ => exact ⟨[], coherent.unserved client⟩
  | @reply client _ waits =>
    obtain ⟨batch, served, _⟩ := (coherent.waiting waits).replied
      (fun n m same => (generators.once client client n m same).2) (generators.nonempty client)
    exact ⟨batch, served⟩
  | @lost client _ _ waits =>
    rcases (coherent.waiting waits).unheard with ⟨batch, _, served, _⟩
    exact ⟨batch, served⟩
  | @unreachable client _ _ _ => exact ⟨[], coherent.unserved client⟩
  | @abandon client => exact ⟨[], coherent.unserved client⟩

omit [DecidableEq ι] in
theorem foreign_of_served (generators : Generators generate) {server server' : Store} {batch : List Transaction}
    {sender : ι} (served : Served id (generate sender) server server' serverRecord chain batch)
    (other : sender ≠ client) : Foreign (generate client) batch := by
  intro tx member given
  rcases given with ⟨n, drawn⟩
  rcases served.own tx member with ⟨m, drawn'⟩
  exact other (generators.once client sender n m (drawn.trans drawn'.symm)).1.symm

theorem AtRest.server_still (rests : ∀ client, AtRest False id generate world events client)
    (step : World.Step id generate world event after) : after.server = world.server := by
  cases step with
  | append _ _ _ _ => rfl
  | start _ => rfl
  | @reply client wait waits =>
    rcases rests client with ⟨_, _, rests⟩
    rw [show world.clients client = ⟨(world.clients client).state, some wait⟩ by rw [← waits]] at rests
    exact rests.answer
  | @lost client wait _ waits =>
    rcases rests client with ⟨_, _, rests⟩
    rw [show world.clients client = ⟨(world.clients client).state, some wait⟩ by rw [← waits]] at rests
    exact rests.answer
  | unreachable _ _ => rfl
  | abandon => rfl

theorem AtRest.put {server : Store} {thread : SyncThread}
    (rests : Rests level id (generate client) server serverRecord chain thread (entered client events)) :
    AtRest level id generate (world.put server client thread) events client := by
  refine ⟨serverRecord, chain, ?_⟩
  simpa [World.put] using rests

theorem AtRest.others (generators : Generators generate)
    (coherent : world.Coherent id generate events serverRecord chain lost)
    (rests : Rests level id (generate client) world.server serverRecord chain (world.clients client)
      (entered client events))
    (step : World.Step id generate world event after) (other : event.client ≠ client)
    (still : level → after.server = world.server) : AtRest level id generate after events client := by
  unfold AtRest
  rw [step.others other]
  by_cases holds : level
  · rw [still holds]
    exact ⟨serverRecord, chain, rests⟩
  · rcases coherent.served_by generators step with ⟨batch, served⟩
    rw [served.received]
    exact ⟨_, _, rests.extended served.extra (foreign_of_served generators served other) (absurd · holds)⟩

theorem AtRest.step (generators : Generators generate)
    (coherent : world.Coherent id generate events serverRecord chain lost)
    (rests : AtRest level id generate world events client) (step : World.Step id generate world event after)
    (quiet : event.Quiet) (still : level → after.server = world.server) :
    AtRest level id generate after (events ++ [event]) client := by
  rcases rests with ⟨serverRecord', chain', rests⟩
  obtain rfl := Option.some.inj (rests.read.1.symm.trans coherent.found)
  obtain rfl := Chained.unique rests.read.2 coherent.read
  have silent : AtRest level id generate after events client := by
    by_cases other : event.client ≠ client
    · exact AtRest.others generators coherent rests step other still
    · obtain rfl := not_not.mp other
      cases step with
      | append _ _ _ _ => exact absurd quiet not_false
      | start _ => exact AtRest.put rests.started
      | @reply client wait waits =>
        have thread : world.clients client = ⟨(world.clients client).state, some wait⟩ := by rw [← waits]
        change Rests _ _ (generate client) _ _ _ (world.clients client) _ at rests
        rw [thread] at rests
        apply AtRest.put
        rw [rests.answer]
        exact rests.replied (fun n m same => (generators.once client client n m same).2)
          (generators.nonempty client)
      | lost _ _ => exact absurd quiet not_false
      | @unreachable client wait error waits =>
        have thread : world.clients client = ⟨(world.clients client).state, some wait⟩ := by rw [← waits]
        change Rests _ _ (generate client) _ _ _ (world.clients client) _ at rests
        rw [thread] at rests
        apply AtRest.put
        rw [rests.follows.failed error]
        exact rests.stopped
      | abandon => exact AtRest.put rests.stopped
  unfold AtRest at silent ⊢
  rw [entered_quiet event quiet]
  exact silent

theorem AtRest.run (generators : Generators generate)
    (coherent : start.Coherent id generate events serverRecord chain lost)
    (rests : AtRest level id generate start events client)
    (everyone : level → ∀ other, AtRest False id generate start events other)
    (run : World.Run id generate start more world) (quiet : ∀ event ∈ more, event.Quiet) :
    AtRest level id generate world (events ++ more) client := by
  induction run generalizing level client with
  | nil => simpa using rests
  | @step before _ _ _ run step ih =>
    have quiet_before : ∀ event ∈ before, event.Quiet := fun event member => quiet event (by simp [member])
    rcases coherent.run generators run with ⟨_, _, _, coherent', _⟩
    rw [← List.append_assoc]
    apply AtRest.step generators coherent' (ih rests everyone quiet_before) step (quiet _ (by simp))
    intro holds
    exact AtRest.server_still (fun other => ih (everyone holds other) False.elim quiet_before) step

theorem AtRest.server_unmoved (generators : Generators generate)
    (coherent : start.Coherent id generate events serverRecord chain lost)
    (everyone : ∀ other, AtRest False id generate start events other)
    (run : World.Run id generate start more world) (quiet : ∀ event ∈ more, event.Quiet) :
    world.server = start.server := by
  induction run with
  | nil => rfl
  | @step before _ _ _ run step ih =>
    have quiet_before : ∀ event ∈ before, event.Quiet := fun event member => quiet event (by simp [member])
    rw [AtRest.server_still (fun other => (everyone other).run generators coherent False.elim run quiet_before) step]
    exact ih quiet_before

theorem Completed.rests (generators : Generators generate)
    (coherent : start.Coherent id generate events serverRecord chain lost) (heard : lost client = [])
    (everyone : level → ∀ other, AtRest False id generate start events other)
    (completed : Completed id generate start more world client) (quiet : ∀ event ∈ more, event.Quiet) :
    AtRest level id generate world (events ++ more) client := by
  rcases completed with ⟨before, later, middle, wait, device, rfl, run, waits, ends, rest⟩
  have quiet_before : ∀ event ∈ before, event.Quiet := fun event member => quiet event (by simp [member])
  rcases coherent.run generators run with ⟨_, _, lost', coherent', _, unlost⟩
  have heard' : lost' client = [] := by
    rw [unlost client fun error member => quiet_before _ member, heard]
  have follows := coherent'.waiting waits
  rw [heard'] at follows
  obtain ⟨batch, served, rests⟩ := follows.ended (fun n m same => (generators.once client client n m same).2)
    (generators.nonempty client) ends
  have replied : World.Step id generate middle (.reply client) _ := .reply waits
  rw [ends] at replied
  rcases coherent'.step generators replied with ⟨_, _, coherent'', _⟩
  have here : AtRest level id generate
      (middle.put (ServerRpcImpl.answer wait.request middle.server).2 client ⟨device, none⟩)
      (events ++ before ++ [.reply client]) client := by
    unfold AtRest
    rw [entered_quiet (.reply client) True.intro]
    apply AtRest.put
    rw [served.received]
    exact rests.weaken fun _ => True.intro
  have others : level → ∀ other, AtRest False id generate
      (middle.put (ServerRpcImpl.answer wait.request middle.server).2 client ⟨device, none⟩)
      (events ++ before ++ [.reply client]) other := by
    intro holds other
    have rests := (everyone holds other).run generators coherent False.elim run quiet_before
    exact rests.step generators coherent' replied True.intro False.elim
  have last := here.run generators coherent'' others rest fun event member => quiet event (by simp [member])
  simpa using last

theorem entered_quiets (quiet : ∀ event ∈ more, event.Quiet) (events : List (Event ι)) (client : ι) :
    entered client (events ++ more) = entered client events := by
  induction more generalizing events with
  | nil => rw [List.append_nil]
  | cons event more ih =>
    rw [List.append_cons, ih fun event member => quiet event (by simp [member])]
    exact entered_quiet event (quiet event (by simp)) events client

theorem AtRest.of_sent (coherent : world.Coherent id generate events serverRecord chain lost)
    (heard : lost client = []) (sent : ¬ world.Unsent id client) :
    AtRest False id generate world events client := by
  rcases coherent.follows client with ⟨record, synced, pending, newer, split, tracks, waiting⟩
  have level : record.latestTransaction = record.latestSynchronizedTransaction := by
    by_contra differs
    exact sent ⟨record, tracks.found, differs⟩
  obtain rfl := Chained.tip_inj tracks.read (tracks.base.symm.trans level.symm)
  rw [heard] at tracks
  exact ⟨serverRecord, chain, record, synced, newer, split, tracks, waiting, False.elim⟩

theorem AtRest.reads (rests : AtRest level id generate world events client)
    (found : world.server.account? id = some serverRecord)
    (read : world.server.ChainAt id serverRecord.latestTransaction chain) :
    Rests level id (generate client) world.server serverRecord chain (world.clients client)
      (entered client events) := by
  rcases rests with ⟨serverRecord', chain', rests⟩
  obtain rfl := Option.some.inj (rests.read.1.symm.trans found)
  obtain rfl := Chained.unique rests.read.2 read
  exact rests

theorem Completed.before (first : World.Run id generate start more middle)
    (completed : Completed id generate middle last world client) :
    Completed id generate start (more ++ last) world client := by
  rcases completed with ⟨before, later, replied, wait, device, rfl, run, rest⟩
  exact ⟨more ++ before, later, replied, wait, device, by simp, first.trans run, rest⟩

theorem Completed.later (completed : Completed id generate start more middle client)
    (second : World.Run id generate middle last world) :
    Completed id generate start (more ++ last) world client := by
  rcases completed with ⟨before, later, replied, wait, device, rfl, run, waits, ends, rest⟩
  exact ⟨before, later ++ last, replied, wait, device, by simp, run, waits, ends, rest.trans second⟩

def Succeeds (id : AccountId) (generate : ι → Nat → TransactionId) (client : ι) (world : World ι) : Prop :=
  ((sync (generate client) id (world.clients client).state).run ServerRpcImpl.answer world.server).1.1 = .ok ()

theorem synced_completed {record : Account} (found : (world.clients client).state.repo.account? id = some record)
    (idle : (world.clients client).pending = none) (ends : Succeeds id generate client world) :
    ∃ calls, Completed id generate world (.start client :: List.replicate calls (.reply client))
      (world.synced id generate client) client := by
  obtain ⟨state, wait, server, answered, last, remote⟩ := Resumption.answered_last ServerRpcImpl.answer
    (.getLatestTransaction id) (world.clients client).state (Process.andThen (onLatest (generate client) record))
    world.server
  rw [← sync_start found] at answered last remote
  have begun : World.Step id generate world (.start client) _ := .start idle
  rcases answered_run id generate world client answered with ⟨calls, run⟩
  let device := ((sync (generate client) id (world.clients client).state).run ServerRpcImpl.answer world.server).1.2
  refine ⟨calls + 1, .start client :: List.replicate calls (.reply client), [],
    world.put server client ⟨state, some wait⟩, wait, device, ?_, (World.Run.step .nil begun).trans run, ?_, ?_, ?_⟩
  · rw [List.replicate_succ', List.cons_append]
  · simp [put]
  · have at_state : ((world.put server client ⟨state, some wait⟩).clients client).state = state := by simp [put]
    rw [at_state, ← ends]
    exact last
  · rw [put_put]
    change World.Run _ _ (world.put (ServerRpcImpl.answer wait.request server).2 client _) [] _
    rw [remote]
    exact .nil

theorem Completed.run (completed : Completed id generate start events world client) :
    World.Run id generate start events world := by
  rcases completed with ⟨before, later, middle, wait, device, rfl, run, waits, ends, rest⟩
  have replied : World.Step id generate middle (.reply client) _ := .reply waits
  rw [ends] at replied
  rw [List.append_cons]
  exact (World.Run.step run replied).trans rest

omit [DecidableEq ι] in
theorem quiet_replies (client : ι) (calls : Nat) :
    ∀ event ∈ Event.start client :: List.replicate calls (.reply client), event.Quiet := by
  intro event member
  rcases List.mem_cons.mp member with rfl | reply
  · exact True.intro
  · obtain rfl := List.eq_of_mem_replicate reply
    exact True.intro

def pulled_one : World Bool := pushed_one.synced [7] twoGenerators true

theorem entered_one_unsent (client : Bool) (unsent : entered_one.Unsent [7] client) : client = false := by
  cases client with
  | false => rfl
  | true =>
    rcases unsent with ⟨record, found, differs⟩
    have stored : (entered_one.clients true).state.repo.account? [7] = some (makeAccount [7]) := by decide
    obtain rfl := Option.some.inj (found.symm.trans stored)
    exact absurd rfl differs

theorem Coherent.settles (generators : Generators generate)
    (coherent : world.Coherent id generate events serverRecord chain lost) (none_lost : ∀ client, lost client = [])
    (first : World.Run id generate world more middle) (second : World.Run id generate middle last after)
    (quiet : ∀ event ∈ more ++ last, event.Quiet)
    (sent : ∀ client, world.Unsent id client → Completed id generate world more middle client) :
    ∃ chain, middle.server.Chain id chain ∧ after.server.Chain id chain ∧
      (∀ client, contentsOf (generate client) chain = entered client events) ∧
      ∀ client, Completed id generate middle last after client →
        ∃ record, (after.clients client).state.repo.account? id = some record ∧
          (after.clients client).state.repo.ChainAt id record.latestTransaction chain ∧
          record.latestSynchronizedTransaction = record.latestTransaction := by
  have quiet_first : ∀ event ∈ more, event.Quiet := fun event member => quiet event (by simp [member])
  have quiet_second : ∀ event ∈ last, event.Quiet := fun event member => quiet event (by simp [member])
  rcases coherent.run generators first with ⟨serverRecord, batch, lost', coherent', _, unlost'⟩
  have none_lost' : ∀ client, lost' client = [] := by
    intro client
    rw [unlost' client fun error member => quiet_first _ member, none_lost]
  have everyone : ∀ client, AtRest False id generate middle (events ++ more) client := by
    intro client
    by_cases unsent : world.Unsent id client
    · exact (sent client unsent).rests generators coherent (none_lost client) False.elim quiet_first
    · exact (AtRest.of_sent coherent (none_lost client) unsent).run generators coherent False.elim first quiet_first
  have still := AtRest.server_unmoved generators coherent' everyone second quiet_second
  have found := still ▸ coherent'.found
  have read := still ▸ coherent'.read
  refine ⟨_, ⟨serverRecord, coherent'.found, coherent'.read⟩, ⟨serverRecord, found, read⟩, ?_, ?_⟩
  · intro client
    rw [((everyone client).reads coherent'.found coherent'.read).contents]
    exact entered_quiets quiet_first events client
  · intro client completed
    have rests : AtRest True id generate after (events ++ more ++ last) client :=
      completed.rests generators coherent' (none_lost' client) (fun _ => everyone) quiet_second
    exact (rests.reads found read).caught_up

/-- When nothing more is entered and no reply is lost, the clients converge in whatever order their
    calls reach the server: once everyone who had something to send has had a sync end well, the server
    has everything that was entered, and whoever has another sync end well has what the server has. -/
theorem quiet_runs_converge (generators : Generators generate) (initial : start.Initial id)
    (run : World.Run id generate start events world) (first : World.Run id generate world more middle)
    (second : World.Run id generate middle last after)
    (heard : ∀ client error, .lost client error ∉ events) (quiet : ∀ event ∈ more ++ last, event.Quiet)
    (sent : ∀ client, world.Unsent id client → Completed id generate world more middle client) :
    ∃ chain, middle.server.Chain id chain ∧ after.server.Chain id chain ∧
      (∀ client, contentsOf (generate client) chain = entered client events) ∧
      ∀ client, Completed id generate middle last after client →
        ∃ record, (after.clients client).state.repo.account? id = some record ∧
          (after.clients client).state.repo.ChainAt id record.latestTransaction chain ∧
          record.latestSynchronizedTransaction = record.latestTransaction := by
  rcases initial.coherent with ⟨_, vacant⟩
  rcases vacant.run generators run with ⟨_, _, lost, coherent, _, unlost⟩
  exact coherent.settles generators (fun client => unlost client (heard client)) first second quiet sent

theorem quiet_runs_converge_entered : ∃ chain, pushed_one.server.Chain [7] chain ∧
    pulled_one.server.Chain [7] chain ∧
    contentsOf (twoGenerators false) chain = entered false [.append false (makeTransaction [0] [])] ∧
    ∃ record, (pulled_one.clients true).state.repo.account? [7] = some record ∧
      (pulled_one.clients true).state.repo.ChainAt [7] record.latestTransaction chain := by
  have initial : (World.fresh (makeAccount [7]) : World Bool).Initial [7] :=
    fresh_initial (makeAccount [7]) rfl rfl
  let record := { makeAccount [7] with latestTransaction := [0] }
  have first_found : (entered_one.clients false).state.repo.account? [7] = some record := by decide
  have second_found : (pushed_one.clients true).state.repo.account? [7] = some (makeAccount [7]) := by
    decide +kernel
  have first_ends : Succeeds [7] twoGenerators false entered_one := by
    unfold Succeeds
    decide +kernel
  have second_ends : Succeeds [7] twoGenerators true pushed_one := by
    unfold Succeeds
    decide +kernel
  rcases synced_completed first_found rfl first_ends with ⟨calls, first⟩
  rcases synced_completed second_found rfl second_ends with ⟨calls', second⟩
  have quiet : ∀ event ∈ Event.start false :: List.replicate calls (.reply false) ++
      Event.start true :: List.replicate calls' (.reply true), event.Quiet :=
    fun event member => (List.mem_append.mp member).elim (quiet_replies false calls event)
      (quiet_replies true calls' event)
  obtain ⟨chain, there, still, contents, level⟩ := quiet_runs_converge twoGenerators_generators initial
    entered_one_run first.run second.run (by simp) quiet
    (fun client unsent => entered_one_unsent client unsent ▸ first)
  rcases level true second with ⟨record, found, read, _⟩
  exact ⟨chain, there, still, contents false, record, found, read⟩

theorem Coherent.succeeds (generators : Generators generate)
    (coherent : world.Coherent id generate events serverRecord chain lost) (heard : lost client = []) :
    Succeeds id generate client world := by
  rcases coherent.follows client with ⟨record, synced, pending, newer, _, tracks, _⟩
  rw [heard] at tracks
  obtain ⟨_, _, _, _, result, _⟩ := tracks.toHonest.sync_run_full (generate client)
    (tracks.newer_fresh (unacknowledged_nil.mp tracks.mode))
    (fun _ => tracks.freshIds (fun n m same => (generators.once client client n m same).2)
      (generators.nonempty client))
  unfold Succeeds
  rw [result]

theorem idle_synced {other : ι} (idle : (world.clients other).pending = none) :
    ((world.synced id generate client).clients other).pending = none := by
  by_cases same : other = client
  · simp [synced, put, same]
  · simp [synced, put, same, idle]

theorem idle_after (clients : List ι) {other : ι} (idle : (world.clients other).pending = none) :
    ((Machine.after (fun client world => World.synced id generate world client) clients world).clients
      other).pending = none := by
  induction clients generalizing world with
  | nil => exact idle
  | cons client clients ih => exact ih (idle_synced idle)

theorem round_run (generators : Generators generate) {clients : List ι}
    (coherent : world.Coherent id generate events serverRecord chain lost) (heard : ∀ client, lost client = [])
    (idle : ∀ client ∈ clients, (world.clients client).pending = none) :
    let turn := fun client world => World.synced id generate world client
    Machine.Throughout turn (Succeeds id generate) clients world ∧
    ∃ more, World.Run id generate world more (Machine.after turn clients world) ∧
      (∀ event ∈ more, event.Quiet) ∧
      ∀ client ∈ clients, Completed id generate world more (Machine.after turn clients world) client := by
  intro turn
  induction clients generalizing world events serverRecord chain lost with
  | nil => exact ⟨True.intro, [], .nil, by simp, by simp⟩
  | cons client clients ih =>
    have here : (world.clients client).pending = none := idle client (by simp)
    have succeeds := coherent.succeeds generators (heard client)
    rcases coherent.follows client with ⟨record, _, _, _, _, tracks, _⟩
    rcases synced_completed tracks.found here succeeds with ⟨calls, completed⟩
    have quiet := quiet_replies client calls
    rcases coherent.run generators completed.run with ⟨_, _, lost', coherent', _, unlost⟩
    have heard' : ∀ client, lost' client = [] := by
      intro client
      rw [unlost client fun error member => quiet _ member, heard]
    have idle' : ∀ other ∈ clients, ((turn client world).clients other).pending = none :=
      fun other member => idle_synced (idle other (by simp [member]))
    rcases ih coherent' heard' idle' with ⟨rest, more, run, quiet', all⟩
    refine ⟨⟨succeeds, rest⟩, _, completed.run.trans run, ?_, ?_⟩
    · intro event member
      exact (List.mem_append.mp member).elim (quiet event) (quiet' event)
    · intro other member
      rcases List.mem_cons.mp member with rfl | among
      · exact completed.later run
      · exact (all other among).before completed.run

/-- Two rounds are enough: if everyone who has something to send syncs, and then everyone who wants the
    result does, each of these syncs ends well and all have the same history, with everything in it. -/
theorem rounds_converge (generators : Generators generate) (initial : start.Initial id)
    (run : World.Run id generate start events world) (heard : ∀ client error, .lost client error ∉ events)
    {first second : List ι} (idle : ∀ client ∈ first ++ second, (world.clients client).pending = none)
    (sent : ∀ client, world.Unsent id client → client ∈ first) :
    let turn := fun client world => World.synced id generate world client
    let after := Machine.after turn (first ++ second) world
    Machine.Throughout turn (Succeeds id generate) (first ++ second) world ∧
    ∃ chain, after.server.Chain id chain ∧
      (∀ client, contentsOf (generate client) chain = entered client events) ∧
      ∀ client ∈ second, ∃ record, (after.clients client).state.repo.account? id = some record ∧
        (after.clients client).state.repo.ChainAt id record.latestTransaction chain ∧
        record.latestSynchronizedTransaction = record.latestTransaction := by
  intro turn after
  rcases initial.coherent with ⟨_, vacant⟩
  rcases vacant.run generators run with ⟨_, _, lost, coherent, _, unlost⟩
  have none_lost : ∀ client, lost client = [] := fun client => unlost client (heard client)
  have succeeds := (round_run generators coherent none_lost idle).1
  obtain ⟨_, more, run_first, quiet_first, completed_first⟩ := round_run generators coherent none_lost
    (fun client member => idle client (List.mem_append_left second member))
  rcases coherent.run generators run_first with ⟨_, _, lost', coherent', _, unlost'⟩
  have none_lost' : ∀ client, lost' client = [] := by
    intro client
    rw [unlost' client fun error member => quiet_first _ member, none_lost]
  obtain ⟨_, last, run_second, quiet_second, completed_second⟩ := round_run generators coherent' none_lost'
    (fun client member => idle_after first (idle client (List.mem_append_right first member)))
  have split : after = Machine.after turn second (Machine.after turn first world) := List.foldl_append
  have quiet : ∀ event ∈ more ++ last, event.Quiet :=
    fun event member => (List.mem_append.mp member).elim (quiet_first event) (quiet_second event)
  obtain ⟨chain, _, there, contents, level⟩ := coherent.settles generators none_lost run_first run_second quiet
    (fun client unsent => completed_first client (sent client unsent))
  rw [split]
  exact ⟨succeeds, chain, there, contents, fun client member => level client (completed_second client member)⟩

theorem rounds_converge_entered :
    let after := Machine.after (fun client world => World.synced [7] twoGenerators world client)
      [false, true, false] entered_one
    Machine.Throughout (fun client world => World.synced [7] twoGenerators world client)
      (Succeeds [7] twoGenerators) [false, true, false] entered_one ∧
    ∃ chain, after.server.Chain [7] chain ∧ ∀ client ∈ [true, false],
      ∃ record, (after.clients client).state.repo.account? [7] = some record ∧
        (after.clients client).state.repo.ChainAt [7] record.latestTransaction chain := by
  have initial : (World.fresh (makeAccount [7]) : World Bool).Initial [7] :=
    fresh_initial (makeAccount [7]) rfl rfl
  have idle : ∀ client ∈ [false] ++ [true, false], (entered_one.clients client).pending = none := by decide
  rcases rounds_converge twoGenerators_generators initial entered_one_run (by simp) idle
    (fun client unsent => by simp [entered_one_unsent client unsent]) with ⟨succeeds, chain, there, _, level⟩
  refine ⟨succeeds, chain, there, fun client member => ?_⟩
  rcases level client member with ⟨record, found, read, _⟩
  exact ⟨record, found, read⟩

end World

end Flouze
