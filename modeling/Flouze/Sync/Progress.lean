import Flouze.Sync.Convergence

namespace Flouze

open Linked Repository

/-- What the call a sync waits for says about what happened since it started, when the server's
    history was `before`: there was news to fetch, or everything up to then has been fetched. -/
inductive Underway (id : AccountId) (before synced newer : List Transaction) : Option SyncPending → Prop
  | idle : Underway id before synced newer none
  | latest {resume : RemoteCall.Reply (.getLatestTransaction id) → Device Store →
      Resumption RemoteCall RemoteCall.Reply (Device Store) (Outcome ErrorKind Unit)} :
      Underway id before synced newer (some ⟨.getLatestTransaction id, resume⟩)
  | children {base : TransactionId} {resume : RemoteCall.Reply (.getChildTransactions id base) → Device Store →
      Resumption RemoteCall RemoteCall.Reply (Device Store) (Outcome ErrorKind Unit)} (behind : newer ≠ []) :
      Underway id before synced newer (some ⟨.getChildTransactions id base, resume⟩)
  | receipt {batch : List Transaction} {resume : RemoteCall.Reply (.receiveTransactions id batch) → Device Store →
      Resumption RemoteCall RemoteCall.Reply (Device Store) (Outcome ErrorKind Unit)} (caught : before <+: synced) :
      Underway id before synced newer (some ⟨.receiveTransactions id batch, resume⟩)

def Syncs (id : AccountId) (generate : Nat → TransactionId) (server : Store) (serverRecord : Account)
    (before chain : List Transaction) (thread : SyncThread) (log : List Transaction) : Prop :=
  ∃ record synced pending newer, synced ++ newer = chain ∧ before <+: chain ∧
    Tracks id generate server thread.state record serverRecord synced pending newer log [] ∧
    Waiting id generate record pending newer thread.pending ∧ Underway id before synced newer thread.pending

section Client

variable {id : AccountId} {generate : Nat → TransactionId} {server : Store} {device : Device Store}
variable {record serverRecord : Account} {synced pending newer before chain log : List Transaction}
variable {thread : SyncThread} {wait : SyncPending}

theorem Follows.syncs (follows : Follows id generate server serverRecord chain thread log []) :
    Syncs id generate server serverRecord chain chain (sync generate id thread.state).toThread log := by
  rcases follows with ⟨record, synced, pending, newer, split, tracks, _⟩
  rw [sync_start tracks.found]
  exact ⟨record, synced, pending, newer, split, List.prefix_refl _, tracks, .latest, .latest⟩

theorem Follows.idles (follows : Follows id generate server serverRecord chain thread log [])
    (kept : before <+: chain) (idle : thread.pending = none) :
    Syncs id generate server serverRecord before chain thread log := by
  rcases follows with ⟨record, synced, pending, newer, split, tracks, waiting⟩
  refine ⟨record, synced, pending, newer, split, kept, tracks, waiting, ?_⟩
  rw [idle]
  exact .idle

theorem Syncs.follows (syncs : Syncs id generate server serverRecord before chain thread log) :
    before <+: chain ∧ Follows id generate server serverRecord chain thread log [] := by
  rcases syncs with ⟨record, synced, pending, newer, split, kept, tracks, waiting, _⟩
  exact ⟨kept, record, synced, pending, newer, split, tracks, waiting⟩

theorem Syncs.extended (syncs : Syncs id generate server serverRecord before chain thread log)
    {batch : List Transaction} (extra : Extends serverRecord chain batch) (foreign : Foreign generate batch) :
    Syncs id generate (server.received serverRecord batch) (serverRecord.extended batch) before (chain ++ batch)
      thread log := by
  rcases syncs with ⟨record, synced, pending, newer, rfl, kept, tracks, waiting, underway⟩
  refine ⟨record, synced, pending, newer ++ batch, by simp, kept.trans (List.prefix_append _ _),
    tracks.extended extra foreign, ?_, ?_⟩
  · generalize thread.pending = wait at waiting
    cases waiting with
    | idle => exact .idle
    | latest => exact .latest
    | children => exact .children
    | receipt unsent clean => exact .receipt unsent (clean.append foreign)
  · generalize thread.pending = wait at underway
    cases underway with
    | idle => exact .idle
    | latest => exact .latest
    | children behind => exact .children (List.append_ne_nil_of_left_ne_nil behind batch)
    | receipt caught => exact .receipt caught

theorem Tracks.syncs_push (kept : before <+: synced)
    (tracks : Tracks id generate server device record serverRecord synced pending [] log []) :
    Syncs id generate server serverRecord before synced (pushLocalTransactions record device).toThread log := by
  by_cases none : pending = []
  · subst none
    rw [push_nothing tracks.toReplica]
    exact ⟨record, synced, [], [], by simp, kept, tracks, .idle, .idle⟩
  · rw [push_pending tracks.toReplica none]
    exact ⟨record, synced, pending, [], by simp, kept, tracks, .receipt none (by simp [Foreign]), .receipt kept⟩

theorem Syncs.replied (injective : Function.Injective generate) (nonempty : ∀ n, generate n ≠ [])
    (syncs : Syncs id generate server serverRecord before chain ⟨device, some wait⟩ log) :
    ∃ batch, Served id generate server (ServerRpcImpl.answer wait.request server).2 serverRecord chain batch ∧
      Syncs id generate (server.received serverRecord batch) (serverRecord.extended batch) before (chain ++ batch)
        (wait.resume (ServerRpcImpl.answer wait.request server).1 device).toThread log := by
  rcases syncs with ⟨record, synced, pending, newer, rfl, kept, tracks, waiting, underway⟩
  have unserved := tracks.unserved (synced ++ newer)
  have received := tracks.toHonest.received_nil
  cases tracks.replied injective nonempty waiting with
  | fetches behind silent asks =>
    rw [asks, silent]
    refine ⟨[], unserved, ?_⟩
    rw [received, List.append_nil]
    exact ⟨record, synced, pending, newer, rfl, kept, tracks, .children, .children behind⟩
  | pushes caught sent silent asks =>
    rw [asks, silent]
    refine ⟨[], unserved, ?_⟩
    rw [received, List.append_nil]
    exact caught.syncs_push kept
  | @ends device' record' level caught accepted next =>
    subst level
    rw [next]
    have extra := tracks.toHonest.extends_pending
    rw [List.append_nil] at kept ⊢
    exact ⟨pending, ⟨tracks.own, extra, accepted⟩, record', synced ++ pending, [], [], by simp,
      kept.trans (List.prefix_append _ _), caught, .idle, .idle⟩
  | nothing level _ silent next =>
    rw [next, silent]
    refine ⟨[], unserved, ?_⟩
    rw [received, List.append_nil]
    exact ⟨record, synced, pending, newer, rfl, kept, tracks, .idle, .idle⟩
  | refused _ _ _ silent next =>
    rw [next, silent]
    refine ⟨[], unserved, ?_⟩
    rw [received, List.append_nil]
    exact ⟨record, synced, pending, newer, rfl, kept, tracks, .idle, .idle⟩

theorem Syncs.ends (injective : Function.Injective generate) (nonempty : ∀ n, generate n ≠ [])
    (syncs : Syncs id generate server serverRecord before chain ⟨device, some wait⟩ log)
    {result : Outcome ErrorKind Unit} {device' : Device Store}
    (ends : wait.resume (ServerRpcImpl.answer wait.request server).1 device = .ret result device') :
    result = .ok () ∨ result = .err .mustRebase ∧ device' = device ∧
      (ServerRpcImpl.answer wait.request server).2 = server ∧
      ∃ caught newer, chain = before ++ caught ++ newer ∧ newer ≠ [] ∧ Foreign generate newer := by
  rcases syncs with ⟨record, synced, pending, newer, rfl, kept, tracks, waiting, underway⟩
  cases tracks.replied injective nonempty waiting with
  | fetches _ _ asks => cases ends.symm.trans asks
  | @pushes _ _ pending' caught _ _ asks =>
    by_cases none : pending' = []
    · subst none
      rw [push_nothing caught.toReplica] at asks
      cases ends.symm.trans asks
      exact .inl rfl
    · rw [push_pending caught.toReplica none] at asks
      cases ends.symm.trans asks
  | ends _ _ _ next =>
    cases ends.symm.trans next
    exact .inl rfl
  | nothing level call _ _ =>
    cases underway with
    | latest => cases call
    | children behind => exact absurd level behind
    | receipt _ => cases call
  | refused behind _ call silent next =>
    cases ends.symm.trans next
    cases underway with
    | latest => cases call
    | children _ => cases call
    | receipt caught =>
      rcases caught with ⟨fetched, rfl⟩
      exact .inr ⟨rfl, rfl, silent, fetched, newer, rfl, behind, unacknowledged_nil.mp tracks.mode⟩

end Client

namespace World

variable {ι : Type} [DecidableEq ι]
variable {id : AccountId} {generate : ι → Nat → TransactionId} {start world started middle after : World ι}
variable {events more : List (Event ι)} {event : Event ι} {client : ι} {serverRecord : Account}
variable {before chain : List Transaction} {lost : ι → List Transaction}

/-- The client's sync is under way, or over, in a world that the server's history was `before` of when
    it started. -/
def Syncing (id : AccountId) (generate : ι → Nat → TransactionId) (before : List Transaction) (world : World ι)
    (events : List (Event ι)) (client : ι) : Prop :=
  ∃ serverRecord chain, Syncs id (generate client) world.server serverRecord before chain (world.clients client)
    (entered client events)

theorem Syncing.put {server : Store} {thread : SyncThread}
    (syncs : Syncs id (generate client) server serverRecord before chain thread (entered client events)) :
    Syncing id generate before (world.put server client thread) events client := by
  refine ⟨serverRecord, chain, ?_⟩
  simpa [World.put] using syncs

theorem Syncing.reads (syncing : Syncing id generate before world events client)
    (coherent : world.Coherent id generate events serverRecord chain lost) :
    Syncs id (generate client) world.server serverRecord before chain (world.clients client)
      (entered client events) := by
  rcases syncing with ⟨serverRecord', chain', syncs⟩
  rcases syncs.follows.2 with ⟨_, _, _, _, rfl, tracks, _⟩
  obtain rfl := Option.some.inj (tracks.remote_found.symm.trans coherent.found)
  obtain rfl := Chained.unique tracks.remote_read coherent.read
  exact syncs

theorem entered_other (events : List (Event ι)) (other : event.client ≠ client) :
    entered client (events ++ [event]) = entered client events := by
  rw [entered_concat]
  cases event with
  | append sender tx =>
    have differs : sender ≠ client := other
    simp [Event.entered, differs]
  | _ => exact List.append_nil _

theorem Syncing.step (generators : Generators generate)
    (coherent : world.Coherent id generate events serverRecord chain lost)
    (syncing : Syncing id generate before world events client) (step : World.Step id generate world event after)
    (once : event ≠ .start client) (unlost : ∀ error, event ≠ .lost client error) :
    Syncing id generate before after (events ++ [event]) client := by
  have injective : Function.Injective (generate client) :=
    fun n m same => (generators.once client client n m same).2
  have syncs := syncing.reads coherent
  have kept := syncs.follows.1
  by_cases other : event.client ≠ client
  · rcases coherent.served_by generators step with ⟨batch, served⟩
    unfold Syncing
    rw [step.others other, served.received, entered_other events other]
    exact ⟨_, _, syncs.extended served.extra (foreign_of_served generators served other)⟩
  · obtain rfl := not_not.mp other
    cases step with
    | @append client tx record idle found uuid parent =>
      have follows := syncs.follows.2.appended injective (generators.nonempty client) found uuid parent
      apply Syncing.put
      rw [entered_concat]
      simpa [Event.entered, Event.client] using follows.idles kept rfl
    | start _ => exact absurd rfl once
    | @reply client wait waits =>
      have thread : world.clients client = ⟨(world.clients client).state, some wait⟩ := by rw [← waits]
      change Syncs _ (generate client) _ _ _ _ (world.clients client) _ at syncs
      rw [thread] at syncs
      obtain ⟨batch, served, moves⟩ := syncs.replied injective (generators.nonempty client)
      apply Syncing.put
      rw [served.received, entered_quiet (.reply client) True.intro]
      exact moves
    | lost error _ => exact absurd rfl (unlost error)
    | @unreachable client wait error waits =>
      have thread : world.clients client = ⟨(world.clients client).state, some wait⟩ := by rw [← waits]
      change Syncs _ (generate client) _ _ _ _ (world.clients client) _ at syncs
      rw [thread] at syncs
      apply Syncing.put
      rw [syncs.follows.2.failed error, entered_quiet (.unreachable client error) True.intro]
      exact syncs.follows.2.dropped.idles kept rfl
    | @abandon client =>
      apply Syncing.put
      rw [entered_quiet (.abandon client) True.intro]
      exact syncs.follows.2.dropped.idles kept rfl

theorem Syncing.run (generators : Generators generate)
    (coherent : started.Coherent id generate events serverRecord chain lost)
    (syncing : Syncing id generate before started events client) (run : World.Run id generate started more world)
    (once : .start client ∉ more) (unlost : ∀ error, .lost client error ∉ more) :
    Syncing id generate before world (events ++ more) client := by
  induction run with
  | nil => simpa using syncing
  | @step earlier event _ _ run step ih =>
    rcases coherent.run generators run with ⟨_, _, _, coherent', _⟩
    have syncing' := ih (fun member => once (by simp [member])) fun error member => unlost error (by simp [member])
    rw [← List.append_assoc]
    apply syncing'.step generators coherent' step
    · rintro rfl
      exact once (by simp)
    · rintro error rfl
      exact unlost error (by simp)

end World

end Flouze
