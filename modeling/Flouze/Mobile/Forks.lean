import Flouze.Mobile.TransactionsBloc
import Flouze.Sync.Safety

namespace Flouze

open Linked Repository

def Store.Local (id : AccountId) (store : Store) (record : Account) (chain : List Transaction) : Prop :=
  store.account? id = some record ∧ store.ChainAt id record.latestTransaction chain

/-- The chain of a client before and after: the same, or with what a call brought in. -/
inductive Moves (id : AccountId) (brings : Prop) (before after : Store) : Prop
  | same {record record' : Account} {chain : List Transaction} (here : before.Local id record chain)
      (there : after.Local id record' chain) (latest : record'.latestTransaction = record.latestTransaction)
  | pulled {record record' : Account} {chain chain' : List Transaction} (here : before.Local id record chain)
      (there : after.Local id record' chain') (brings : brings)
      (kept : (chain.map Transaction.content).Sublist (chain'.map Transaction.content))

theorem Moves.weaken {id : AccountId} {brings weaker : Prop} {before after : Store}
    (moves : Moves id brings before after) (implies : brings → weaker) : Moves id weaker before after := by
  cases moves with
  | same here there latest => exact .same here there latest
  | pulled here there brought kept => exact .pulled here there (implies brought) kept

section Client

variable {id : AccountId} {generate : Nat → TransactionId} {server : Store} {device : Device Store}
variable {record serverRecord : Account} {synced pending newer chain log lost : List Transaction}
variable {thread : SyncThread} {wait : SyncPending}

theorem Follows.read (follows : Follows id generate server serverRecord chain thread log lost) :
    ∃ record own, thread.state.repo.Local id record own := by
  rcases follows with ⟨record, synced, pending, _, _, tracks, _⟩
  exact ⟨record, synced ++ pending, tracks.found, tracks.read⟩

theorem Follows.unmoved (follows : Follows id generate server serverRecord chain thread log lost)
    (brings : Prop) : Moves id brings thread.state.repo thread.state.repo := by
  rcases follows.read with ⟨record, own, here⟩
  exact .same here here rfl

theorem start_state (follows : Follows id generate server serverRecord chain thread log lost) :
    (sync generate id thread.state).toThread.state = thread.state := by
  rcases follows with ⟨record, synced, pending, newer, _, tracks, _⟩
  rw [sync_start tracks.found]
  rfl

theorem push_state
    (tracks : Tracks id generate server device record serverRecord synced pending [] log lost) :
    (pushLocalTransactions record device).toThread.state = device := by
  by_cases empty : pending = []
  · subst empty
    rw [push_nothing tracks.toReplica]
    rfl
  · rw [push_pending tracks.toReplica empty]
    rfl

theorem Follows.replied_moves (injective : Function.Injective generate) (nonempty : ∀ n, generate n ≠ [])
    (follows : Follows id generate server serverRecord chain ⟨device, some wait⟩ log lost) :
    Moves id
      (∃ base batch, wait.request = .getChildTransactions id base ∧
        getChildTransactions id base server = .ok batch ∧ batch ≠ [] ∧
        ∀ tx ∈ batch, device.repo.transaction? id tx.uuid = none)
      device.repo (wait.resume (ServerRpcImpl.answer wait.request server).1 device).toThread.state.repo := by
  have unmoved := fun brings => follows.unmoved brings
  rcases follows with ⟨record, synced, pending, newer, rfl, tracks, waiting⟩
  obtain rfl : record.uuid = id := tracks.owner
  cases waiting with
  | latest =>
    rw [tracks.toHonest.answer_latest]
    change Moves _ _ _ (onLatest generate record serverRecord.latestTransaction device).toThread.state.repo
    by_cases same : newer = []
    · subst same
      rw [onLatest_same (tracks.toHonest.same_iff.mpr rfl), push_state tracks]
      exact unmoved _
    · rw [onLatest_differs (mt tracks.toHonest.same_iff.mp same)]
      exact unmoved _
  | children =>
    rw [tracks.toHonest.answer_children]
    change Moves _ _ _ (onChildren generate record newer device).toThread.state.repo
    by_cases same : newer = []
    · subst same
      rw [onChildren_err (adopt_empty generate)]
      exact unmoved _
    · by_cases heard : lost = []
      · subst heard
        rcases tracks.pulled injective nonempty same with ⟨run, after⟩
        have batch := congrArg Prod.fst tracks.toHonest.answer_children
        rw [onChildren_ok run, push_state after]
        refine .pulled ⟨tracks.found, tracks.read⟩ ⟨after.found, after.read⟩
          ⟨_, newer, rfl, batch, same, tracks.newer_fresh (unacknowledged_nil.mp tracks.mode)⟩ ?_
        simp only [List.map_append, moved_content]
        exact (List.sublist_append_left _ _).append (List.Sublist.refl _)
      · rcases tracks.newer_stored heard with ⟨tx, member, present⟩
        obtain ⟨duplicate, _, _, run⟩ := adopt_duplicate generate
          ⟨tx.uuid, List.mem_map_of_mem member, present⟩
        rw [onChildren_err run]
        exact unmoved _
  | receipt unsent foreign =>
    by_cases same : newer = []
    · subst same
      rw [tracks.toHonest.answer_accept]
      change Moves _ _ _ (onReceipt record () device).toThread.state.repo
      rw [onReceipt_run tracks.found]
      obtain rfl : lost = [] := tracks.mode.nothing_newer
      have after := tracks.pushed
      have read := after.read
      rw [List.append_nil] at read
      exact .same ⟨tracks.found, tracks.read⟩ ⟨after.found, read⟩ rfl
    · rw [tracks.toHonest.answer_mustRebase unsent same]
      exact unmoved _

end Client

namespace AccountPage

variable {ι : Type} [DecidableEq ι] {id : AccountId} {generate : ι → Nat → TransactionId} {me : ι}
variable {sorting : Sorting} {opened page after : AccountPage ι} {event : PageEvent ι}
variable {trace : List (AccountPage ι × PageEvent ι)} {serverRecord : Account} {chain : List Transaction}
variable {lost : ι → List Transaction} {events : List (Event ι)} {world world' : World ι} {happens : Event ι}

theorem put_moves {brings : Prop} {log own : List Transaction}
    (follows : Follows id (generate me) world.server serverRecord chain (world.clients me) log own)
    {client : ι} {server : Store} {thread : SyncThread}
    (moves : me = client → Moves id brings (world.clients me).state.repo thread.state.repo) :
    Moves id brings (world.clients me).state.repo
      ((world.put server client thread).clients me).state.repo := by
  by_cases same : me = client
  · subst same
    simpa [World.put] using moves rfl
  · simpa [World.put, same] using follows.unmoved brings

theorem elsewhere_moves (generators : Generators generate)
    (coherent : world.Coherent id generate events serverRecord chain lost)
    (step : World.Step id generate world happens world') (kept : ∀ tx, happens ≠ .append me tx) :
    Moves id
      (happens = .reply me ∧ ∃ wait base batch, (world.clients me).pending = some wait ∧
        wait.request = .getChildTransactions id base ∧
        getChildTransactions id base world.server = .ok batch ∧ batch ≠ [] ∧
        ∀ tx ∈ batch, (world.clients me).state.repo.transaction? id tx.uuid = none)
      (world.clients me).state.repo (world'.clients me).state.repo := by
  have follows := coherent.follows me
  cases step with
  | @append client tx record idle found uuid parent =>
    have differ : me ≠ client := fun same => kept tx (same ▸ rfl)
    exact put_moves follows fun same => absurd same differ
  | @start client idle =>
    apply put_moves follows
    intro same
    subst same
    rw [start_state follows]
    exact follows.unmoved _
  | @reply client wait waits =>
    apply put_moves follows
    intro same
    subst same
    have injective : Function.Injective (generate me) :=
      fun n m equal => (generators.once me me n m equal).2
    have moves := (coherent.waiting waits).replied_moves injective (generators.nonempty me)
    apply moves.weaken
    intro given
    rcases given with ⟨base, batch, request, answer, arrived, fresh⟩
    exact ⟨rfl, wait, base, batch, waits, request, answer, arrived, fresh⟩
  | @lost client wait error waits =>
    apply put_moves follows
    intro same
    subst same
    rw [(coherent.waiting waits).failed]
    exact follows.unmoved _
  | @unreachable client wait error waits =>
    apply put_moves follows
    intro same
    subst same
    rw [(coherent.waiting waits).failed]
    exact follows.unmoved _
  | @abandon client =>
    apply put_moves follows
    intro same
    subst same
    exact follows.unmoved _

/-- The calls that are on their way go on top of the stored chain, and the cached id is the one they
    end with. -/
def InStep (id : AccountId) (me : ι) (page : AccountPage ι) : Prop :=
  ∃ record, (page.world.clients me).state.repo.account? id = some record ∧
    LinkedOn Transaction.uuid Transaction.parent record.latestTransaction page.sending ∧
    page.bloc.account.latestTransaction = tip Transaction.uuid record.latestTransaction page.sending

/-- What is kept along a run: the world behind the page is one of those that can be reached, and the
    page is in step with the repository until something is pulled. -/
structure Sound (id : AccountId) (generate : ι → Nat → TransactionId) (me : ι)
    (trace : List (AccountPage ι × PageEvent ι)) (page : AccountPage ι) : Prop where
  coherent : ∃ events serverRecord chain lost,
    page.world.Coherent id generate events serverRecord chain lost
  in_step : (∀ met ∈ trace, ¬ Pulls id me met.1 met.2) → InStep id me page

omit [DecidableEq ι] in
theorem InStep.save (in_step : InStep id me page) (transaction : Transaction) :
    InStep id me { page with
      bloc := (page.bloc.saveTransaction sorting transaction).1
      sending := page.sending ++ (page.bloc.saveTransaction sorting transaction).2.toList } := by
  rcases in_step with ⟨record, found, linked, cached⟩
  refine ⟨record, found, ?_⟩
  unfold TransactionsBloc.saveTransaction
  cases page.bloc.state with
  | loading => simpa using ⟨linked, cached⟩
  | loadError => simpa using ⟨linked, cached⟩
  | loaded transactions =>
    simp only [Option.toList_some, linkedOn_concat, tip_concat, and_true]
    exact ⟨linked, cached⟩

omit [DecidableEq ι] in
theorem InStep.moved {brings : Prop} (in_step : InStep id me page)
    (moves : Moves id brings (page.world.clients me).state.repo (world.clients me).state.repo)
    (nothing : ¬ brings) : InStep id me { page with world := world } := by
  rcases in_step with ⟨record, found, linked, cached⟩
  cases moves with
  | @same record' record'' own here there latest =>
    obtain rfl := Option.some.inj (found.symm.trans here.1)
    refine ⟨record'', there.1, ?_, ?_⟩
    · rw [latest]
      exact linked
    · rw [latest]
      exact cached
  | pulled _ _ brought _ => exact absurd brought nothing

theorem add_step (in_step : InStep id me page) {tx : Transaction} {rest : List Transaction}
    (next : page.sending = tx :: rest) (idle : (page.world.clients me).pending = none)
    (uuid : tx.uuid = generate me (page.world.clients me).state.generated) :
    World.Step id generate page.world (.append me tx) (page.world.put page.world.server me
      ⟨⟨(Ffi.addTransaction id tx (page.world.clients me).state.repo).2,
        (page.world.clients me).state.generated + 1⟩, none⟩) := by
  rcases in_step with ⟨record, found, linked, _⟩
  rw [next] at linked
  exact .append idle found uuid linked.1

omit [DecidableEq ι] in
theorem calm_add (calm : Calm id me (trace ++ [(page, .add)])) : ∀ met ∈ trace, ¬ Pulls id me met.1 met.2 := by
  intro met member pulled
  have later := (List.pairwise_append.mp calm).2.2 met member (page, .add) (by simp) pulled
  exact later rfl

theorem step_sound (generators : Generators generate) (sound : Sound id generate me trace page)
    (step : AccountPage.Step id generate me sorting page event after)
    (calm : Calm id me (trace ++ [(page, event)])) : Sound id generate me (trace ++ [(page, event)]) after := by
  have before : (∀ met ∈ trace ++ [(page, event)], ¬ Pulls id me met.1 met.2) → InStep id me page :=
    fun none => sound.in_step fun met member => none met (by simp [member])
  rcases sound.coherent with ⟨events, serverRecord, chain, lost, coherent⟩
  cases step with
  | @elsewhere happens world step kept =>
    rcases coherent.step generators step with ⟨batch, lost', coherent', _, _⟩
    refine ⟨⟨_, _, _, _, coherent'⟩, fun none => ?_⟩
    have quiet := none (page, .elsewhere happens) (by simp)
    apply (before none).moved (elsewhere_moves generators coherent step kept)
    intro given
    rcases given with ⟨rfl, brought⟩
    exact quiet ⟨rfl, brought⟩
  | save transaction => exact ⟨⟨_, _, _, _, coherent⟩, fun none => (before none).save transaction⟩
  | @add tx rest next idle uuid =>
    have in_step := sound.in_step (calm_add calm)
    rcases coherent.step generators (add_step in_step next idle uuid) with ⟨batch, lost', coherent', _, _⟩
    refine ⟨⟨_, _, _, _, coherent'⟩, fun _ => ?_⟩
    rcases in_step with ⟨record, found, linked, cached⟩
    have owner : record.uuid = id := Store.uuid_of_account? found
    rw [next] at linked cached
    refine ⟨{ record with latestTransaction := tx.uuid }, ?_, linked.2, cached⟩
    simp [World.put, Ffi.addTransaction_run tx found, owner]
  | load => exact ⟨⟨_, _, _, _, coherent⟩, before⟩
  | display =>
    refine ⟨⟨_, _, _, _, coherent⟩, fun none => ?_⟩
    rcases before none with ⟨record, found, linked, cached⟩
    exact ⟨record, found, linked, (congrArg Account.latestTransaction
      (page.bloc.showTransactions_account sorting _)).trans cached⟩

theorem run_sound (generators : Generators generate) (sound : Sound id generate me [] opened)
    (run : AccountPage.Run id generate me sorting opened trace page) (calm : Calm id me trace) :
    Sound id generate me trace page := by
  induction run with
  | nil => exact sound
  | step _ step ih => exact step_sound generators (ih (List.pairwise_append.mp calm).1) step calm

omit [DecidableEq ι] in
theorem grows_still {record : Account} {own : List Transaction}
    (here : (page.world.clients me).state.repo.Local id record own) (still : after.world = page.world)
    (kept : event ≠ .add) : Grows id me page event after := by
  have there := here
  rw [← still] at there
  exact ⟨record, own, record, own, here.1, here.2, there.1, there.2, List.Sublist.refl _,
    fun _ _ stored => absurd stored kept⟩

/-- What is saved on a page never forks the history of its device, as long as no sync has pulled since
    the page was opened. -/
theorem saves_never_fork (generators : Generators generate) {start : World ι} (initial : start.Initial id)
    (history : World.Run id generate start events opened.world) (opens : Opened id me opened)
    (run : AccountPage.Run id generate me sorting opened trace page)
    (step : AccountPage.Step id generate me sorting page event after)
    (calm : Calm id me (trace ++ [(page, event)])) : Grows id me page event after := by
  rcases initial.coherent with ⟨_, vacant⟩
  rcases vacant.run generators history with ⟨_, _, _, coherent, _⟩
  have fresh : Sound id generate me [] opened := by
    refine ⟨⟨_, _, _, _, coherent⟩, fun _ => ⟨_, opens.account, ?_, ?_⟩⟩
    · rw [opens.sending]
      exact True.intro
    · rw [opens.sending]
      rfl
  have sound := run_sound generators fresh run (List.pairwise_append.mp calm).1
  rcases sound.coherent with ⟨events', serverRecord, chain, lost, coherent⟩
  rcases coherent.follows me with ⟨record, synced, pending, newer, _, tracks, _⟩
  cases step with
  | @elsewhere happens world step kept =>
    have other : PageEvent.elsewhere happens ≠ .add := by simp
    cases elsewhere_moves generators coherent step kept with
    | @same _ _ own here there =>
      exact ⟨_, own, _, own, here.1, here.2, there.1, there.2, List.Sublist.refl _,
        fun _ _ stored => absurd stored other⟩
    | pulled here there _ kept =>
      exact ⟨_, _, _, _, here.1, here.2, there.1, there.2, kept, fun _ _ stored => absurd stored other⟩
  | save transaction => exact grows_still ⟨tracks.found, tracks.read⟩ rfl (by simp)
  | @add tx rest next idle uuid =>
    rcases sound.in_step (calm_add calm) with ⟨stored, found, linked, _⟩
    obtain rfl := Option.some.inj (found.symm.trans tracks.found)
    rw [next] at linked
    have injective : Function.Injective (generate me) :=
      fun n m equal => (generators.once me me n m equal).2
    have after := tracks.appended injective (generators.nonempty me) uuid linked.1
    refine ⟨stored, synced ++ pending, { stored with latestTransaction := tx.uuid }, synced ++ (pending ++ [tx]),
      tracks.found, tracks.read, ?_, ?_, ?_, ?_⟩
    · simpa [World.put] using after.found
    · simpa [World.put] using after.read
    · rw [← List.append_assoc]
      exact (List.sublist_append_left _ _).map Transaction.content
    · intro other others _ queued
      rcases List.cons.inj (next.symm.trans queued) with ⟨rfl, rfl⟩
      exact ⟨linked.1, (List.append_assoc _ _ _).symm⟩
  | load => exact grows_still ⟨tracks.found, tracks.read⟩ rfl (by simp)
  | display => exact grows_still ⟨tracks.found, tracks.read⟩ rfl (by simp)

/-- Since the page was opened a sync has pushed what was stored, and another transaction was saved. -/
def saved_next : AccountPage Bool :=
  let opened : TransactionsBloc := ⟨{ makeAccount [7] with latestTransaction := [0] }, .loading⟩
  let shown := opened.showTransactions .insertion (World.entered_one.clients false).state.repo
  let saved := shown.saveTransaction .insertion (makeTransaction [0, 0] [])
  ⟨World.pushed_one, saved.1, saved.2.toList⟩

theorem saves_never_fork_first : ∃ after,
    AccountPage.Step [7] twoGenerators false .insertion saved_next .add after ∧
    Ffi.listTransactions [7] (after.world.clients false).state.repo =
      .ok [makeTransaction [0, 0] [0], makeTransaction [0] []] ∧
    Grows [7] false saved_next .add after := by
  have initial : (World.fresh (makeAccount [7]) : World Bool).Initial [7] :=
    World.fresh_initial (makeAccount [7]) rfl rfl
  let opened : AccountPage Bool :=
    ⟨World.entered_one, ⟨{ makeAccount [7] with latestTransaction := [0] }, .loading⟩, []⟩
  have opens : Opened [7] false opened := ⟨by decide, rfl⟩
  have shown : AccountPage.Run [7] twoGenerators false .insertion opened _ _ := .step .nil (.display opened)
  have asked := shown.step (.elsewhere World.asking_one_step (by simp))
  have sent := asked.step (.elsewhere World.sending_one_step (by simp))
  have pushed := sent.step (.elsewhere World.pushed_one_step (by simp))
  have run := pushed.step (.save _ (makeTransaction [0, 0] []))
  have next : saved_next.sending = [makeTransaction [0, 0] [0]] := rfl
  have step : AccountPage.Step [7] twoGenerators false .insertion saved_next .add _ := .add next rfl rfl
  refine ⟨_, step, by decide, saves_never_fork twoGenerators_generators initial World.entered_one_run opens run step ?_⟩
  -- Neither of the replies that come in brings transactions.
  have asking : ∀ bloc sending,
      ¬ Pulls [7] false ⟨World.asking_one, bloc, sending⟩ (.elsewhere (.reply false)) := by
    rintro bloc sending ⟨_, wait, base, batch, waits, request, _⟩
    obtain rfl := Option.some.inj waits
    cases request
  have sending : ∀ bloc sending,
      ¬ Pulls [7] false ⟨World.sending_one, bloc, sending⟩ (.elsewhere (.reply false)) := by
    rintro bloc sending ⟨_, wait, base, batch, waits, request, _⟩
    obtain rfl := Option.some.inj waits
    cases request
  have other : ∀ (page : AccountPage Bool) event, event ≠ .elsewhere (.reply false) →
      ¬ Pulls [7] false page event := fun _ _ differs pulls => differs pulls.1
  simp [Calm, asking, sending, other]

def entered_other : World Bool :=
  let start : World Bool := World.fresh (makeAccount [7])
  start.put start.server true
    ⟨⟨(Ffi.addTransaction [7] (makeTransaction [1] []) (start.clients true).state.repo).2, 1⟩, none⟩

def shared_other : World Bool := entered_other.synced [7] twoGenerators true

theorem shared_other_run :
    ∃ events, World.Run [7] twoGenerators (World.fresh (makeAccount [7])) events shared_other := by
  have found : (Store.empty.putAccount (makeAccount [7])).account? [7] = some (makeAccount [7]) := by decide
  let start : World Bool := World.fresh (makeAccount [7])
  have enters : World.Step [7] twoGenerators start (.append true (makeTransaction [1] [])) entered_other :=
    .append rfl found rfl rfl
  have entered : World.Run [7] twoGenerators start _ entered_other := .step .nil enters
  have idle : (entered_other.clients true).pending = none := rfl
  rcases World.synced_run [7] twoGenerators entered_other true idle with ⟨calls, synced⟩
  exact ⟨_, entered.trans synced⟩

def saved_after_pull : AccountPage Bool :=
  let world := shared_other.synced [7] twoGenerators false
  let opened : TransactionsBloc := ⟨makeAccount [7], .loading⟩
  let shown := opened.showTransactions .insertion (world.clients false).state.repo
  let saved := shown.saveTransaction .insertion (makeTransaction [0] [])
  ⟨world, saved.1, saved.2.toList⟩

def forked : AccountPage Bool :=
  let device := (saved_after_pull.world.clients false).state
  { saved_after_pull with
    world := saved_after_pull.world.put saved_after_pull.world.server false
      ⟨⟨(Ffi.addTransaction [7] (makeTransaction [0] []) device.repo).2, device.generated + 1⟩, none⟩
    sending := [] }

theorem Run.elsewhere (run : AccountPage.Run id generate me sorting opened trace page)
    (history : World.Run id generate page.world events world) (kept : ∀ tx, .append me tx ∉ events) :
    ∃ more, AccountPage.Run id generate me sorting opened (trace ++ more) { page with world := world } := by
  induction history with
  | nil => exact ⟨[], by simpa using run⟩
  | step _ step ih =>
    rcases ih fun tx member => kept tx (by simp [member]) with ⟨more, before⟩
    refine ⟨_, by
      rw [← List.append_assoc]
      exact before.step (.elsewhere step fun tx same => kept tx (by simp [same]))⟩

/-- The transaction that was pulled is gone from this device. -/
theorem saved_after_pull_forks : ∃ events trace,
    let opened : AccountPage Bool := ⟨shared_other, ⟨makeAccount [7], .loading⟩, []⟩
    World.Run [7] twoGenerators (World.fresh (makeAccount [7])) events shared_other ∧
    Opened [7] false opened ∧
    AccountPage.Run [7] twoGenerators false .insertion opened trace saved_after_pull ∧
    AccountPage.Step [7] twoGenerators false .insertion saved_after_pull .add forked ∧
    Ffi.listTransactions [7] (saved_after_pull.world.clients false).state.repo = .ok [makeTransaction [1] []] ∧
    Ffi.listTransactions [7] (forked.world.clients false).state.repo = .ok [makeTransaction [0] []] ∧
    ¬ Grows [7] false saved_after_pull .add forked := by
  rcases shared_other_run with ⟨events, history⟩
  let opened : AccountPage Bool := ⟨shared_other, ⟨makeAccount [7], .loading⟩, []⟩
  have opens : Opened [7] false opened := ⟨by decide, rfl⟩
  rcases World.synced_run [7] twoGenerators shared_other false rfl with ⟨calls, synced⟩
  obtain ⟨_, pulled⟩ := (Run.nil : Run [7] twoGenerators false .insertion opened [] opened).elsewhere synced
    (by simp)
  have run := (pulled.step (.display _)).step (.save _ (makeTransaction [0] []))
  have next : saved_after_pull.sending = [makeTransaction [0] []] := rfl
  have step : AccountPage.Step [7] twoGenerators false .insertion saved_after_pull .add forked :=
    .add next (by decide) (by decide)
  refine ⟨events, _, history, opens, run, step, by decide, by decide, ?_⟩
  intro given
  rcases given with ⟨record, _, _, _, found, _, _, _, _, stored⟩
  have latest : record.latestTransaction = [1] := by
    have pulled : (saved_after_pull.world.clients false).state.repo.account? [7] =
      some { makeAccount [7] with latestTransaction := [1], latestSynchronizedTransaction := [1] } := by decide
    exact congrArg Account.latestTransaction (Option.some.inj (found.symm.trans pulled))
  have parent := (stored _ _ rfl next).1
  rw [latest] at parent
  exact absurd parent (by decide)

end AccountPage

end Flouze
