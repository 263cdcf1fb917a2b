import Flouze.Bindings.Refinement
import Flouze.Mobile.AccountListBloc

namespace Flouze

open Repository

def Store.profiles (store : Store) : List Account := store.listAccounts.map Account.profile

namespace Worker

variable {σ Call : Type} {Value : Call → Type}

def answered {α : Type} : Except String α → Outcome String α
  | .ok value => .ok value
  | .error message => .err message

inductive Handled (act : (call : Call) → Routine σ String (Value call)) (worker : Worker Call Value) (state : σ) :
    Worker Call Value × σ → Prop
  | idle : Handled act worker state (worker, state)
  | returned (call : Call) (calls : List Call) (result : Except String (Value call))
      (head : worker.calls = call :: calls) (run : (act call state).1 = answered result) :
      Handled act worker state
        ({ worker with calls := calls, results := worker.results ++ [⟨call, result⟩] }, (act call state).2)
  | hung (call : Call) (calls : List Call) (head : worker.calls = call :: calls) (run : (act call state).1 = .hang) :
      Handled act worker state ({ worker with calls := calls, stuck := true }, (act call state).2)

theorem handle_handled (act : (call : Call) → Routine σ String (Value call)) (worker : Worker Call Value)
    (state : σ) : Handled act worker state (worker.handle act state) := by
  unfold handle
  split
  · exact .idle
  · split
    · exact .idle
    · next call calls head =>
      split
      · next value state' run =>
        have returned : Handled act worker state _ := .returned call calls (.ok value) head (by rw [run]; rfl)
        rw [run] at returned
        exact returned
      · next message state' run =>
        have returned : Handled act worker state _ := .returned call calls (.error message) head (by rw [run]; rfl)
        rw [run] at returned
        exact returned
      · next state' run =>
        have hung : Handled act worker state _ := .hung call calls head (by rw [run])
        rw [run] at hung
        exact hung

end Worker

/-- The list is loaded again, sooner or later, after what is asked for. -/
def Asked.reloads : Asked → Bool
  | ⟨.accountList, .listAccounts⟩ | ⟨_, .addAccount _⟩ => true
  | _ => false

def Task.reloads : Task → Bool
  | .accountListChanged | .saveAccountConfig _ _ => true
  | .getRepository call => call.reloads
  | _ => false

namespace Phone

abbrev Answer := Σ call : Asked, Except String call.request.Value

def Answer.reloads : Answer → Bool
  | ⟨⟨_, .addAccount _⟩, _⟩ | ⟨⟨_, .deleteAccount _⟩, .ok _⟩ => true
  | _ => false

def SyncAnswer.reloads : (Σ _ : SyncCall, Except String Unit) → Bool
  | ⟨.cloneRemote _ _, .ok _⟩ => true
  | _ => false

/-- The list is going to be loaded again for a reason that has not been listed yet. -/
def reloads (phone : Phone) : Bool :=
  phone.tasks.any Task.reloads || phone.repository.calls.any Asked.reloads ||
    phone.repository.results.any Answer.reloads || phone.synchronizer.results.any SyncAnswer.reloads ||
    phone.synchronizer.stuck

variable (sorting : AccountSorting) (order : IterationOrder) (generate : Nat → TransactionId)

def shown : Answer → Option AccountListState
  | ⟨⟨.accountList, .listAccounts⟩, .ok accounts⟩ => some (.loaded (sorting.sort accounts))
  | ⟨⟨.accountList, .listAccounts⟩, .error message⟩ => some (.loadError message)
  | _ => none

/-- What the list page has shown, and what it will show of the answers that are on their way. -/
def screens (phone : Phone) : List AccountListState :=
  phone.accounts ++ phone.repository.results.filterMap (shown sorting)

end Phone

/-- An error is shown, or each account of the file, as it was entered, by its label. -/
def AccountListState.Shows (sorting : AccountSorting) (store : Store) : AccountListState → Prop
  | .loaded accounts => (accounts.map Account.profile).Perm store.profiles ∧ accounts.Pairwise fun a1 a2 =>
      codeUnits (sorting.toLowerCase a1.label) ≤ codeUnits (sorting.toLowerCase a2.label)
  | .loadError _ => True
  | .loading | .saveError _ => False

namespace Phone

def Current (sorting : AccountSorting) (phone : Phone) : Prop :=
  phone.reloads = true ∨
    ∃ state, (phone.screens sorting).getLast? = some state ∧ state.Shows sorting phone.device.repo

structure Rests (phone : Phone) : Prop where
  tasks : phone.tasks = []
  calls : phone.repository.calls = []
  results : phone.repository.results = []
  syncCalls : phone.synchronizer.calls = []
  syncResults : phone.synchronizer.results = []
  returns : phone.synchronizer.stuck = false

/-- A clone that fails leaves no account behind that was not there. -/
def Tidy (generate : Nat → TransactionId) : PhoneEvent → Phone → Prop
  | .handleSync replies, phone => ∀ page id message, phone.synchronizer.calls.head? = some (.cloneRemote page id) →
      (actSync generate replies (.cloneRemote page id) phone.device).1 = .err message →
      (actSync generate replies (.cloneRemote page id) phone.device).2.repo.profiles = phone.device.repo.profiles
  | _, _ => True

section Profiles

theorem profiles_congr {before after : Store}
    (same : ∀ id, (after.account? id).map Account.profile = (before.account? id).map Account.profile) :
    after.profiles = before.profiles := by
  have keys : after.accounts.keys = before.accounts.keys := by
    ext id
    rw [Finmap.mem_keys, Finmap.mem_keys, ← Finmap.lookup_isSome, ← Finmap.lookup_isSome]
    have here := congrArg Option.isSome (same id)
    simpa [Store.account?] using here
  have listed : ∀ store : Store, store.profiles =
      letI := Store.keyOrder
      (store.accounts.keys.sort (· ≤ ·)).filterMap fun id => (store.account? id).map Account.profile := by
    intro store
    rw [Store.profiles, Store.listAccounts, List.map_filterMap]
  rw [listed, listed, keys]
  exact List.filterMap_congr fun id _ => same id

end Profiles

section Changes

variable {sorting : AccountSorting} {order : IterationOrder} {generate : Nat → TransactionId} {phone phone' : Phone}

structure Onward (phone phone' : Phone) : Prop where
  tasks : ∃ more, phone'.tasks = phone.tasks ++ more
  opened : phone'.opened = phone.opened
  repository : phone'.repository = phone.repository
  synchronizer : phone'.synchronizer = phone.synchronizer
  device : phone'.device = phone.device

theorem onward_shows (phone : Phone) (accounts : List AccountListState) (clones : List ClonePage)
    (configs : AccountId → Option AccountConfig) :
    phone.Onward { phone with accounts := accounts, clones := clones, configs := configs } :=
  ⟨⟨[], (List.append_nil _).symm⟩, rfl, rfl, rfl, rfl⟩

theorem complete_onward (sorting : AccountSorting) (answer : Answer) (phone : Phone) :
    phone.Onward (complete sorting answer.1 answer.2 phone) := by
  unfold complete
  split
  all_goals first
    | exact onward_shows _ _ _ _
    | exact ⟨⟨_, rfl⟩, rfl, rfl, rfl, rfl⟩
    | exact ⟨⟨_, List.append_assoc _ _ _⟩, rfl, rfl, rfl, rfl⟩

theorem any_eraseIdx {α : Type} {p : α → Bool} {items : List α} {i : Nat} {item : α}
    (here : items[i]? = some item) : items.any p = (p item || (items.eraseIdx i).any p) := by
  rcases List.getElem?_eq_some_iff.mp here with ⟨inside, rfl⟩
  exact (List.getElem_cons_eraseIdx_perm inside).symm.any_eq

theorem reloads_of_task {task : Task} (member : task ∈ phone.tasks) (reloads : task.reloads = true) :
    phone.reloads = true := by
  have found : phone.tasks.any Task.reloads = true := List.any_eq_true.mpr ⟨task, member, reloads⟩
  simp [Phone.reloads, found]

theorem loadAccounts_reloads (phone : Phone) : phone.loadAccounts.reloads = true :=
  reloads_of_task (List.mem_append_right _ (List.mem_singleton_self _)) rfl

theorem Onward.reloads (onward : phone.Onward phone') (before : phone.reloads = true) : phone'.reloads = true := by
  rcases onward.tasks with ⟨more, tasks⟩
  simp only [Phone.reloads, Bool.or_eq_true] at before ⊢
  rw [tasks, onward.repository, onward.synchronizer, List.any_append, Bool.or_eq_true]
  exact before.imp_left (Or.imp_left (Or.imp_left (Or.imp_left Or.inl)))

theorem complete_shows (sorting : AccountSorting) (answer : Answer) (phone : Phone) :
    (complete sorting answer.1 answer.2 phone).reloads = true ∨ answer.reloads = false ∧
      (complete sorting answer.1 answer.2 phone).accounts = phone.accounts ++ (shown sorting answer).toList := by
  rcases answer with ⟨⟨asker, request⟩, result⟩
  have asked : ∀ task : Task, task.reloads = true → ∀ later : List Task,
      ({ phone with tasks := phone.tasks ++ [task] ++ later } : Phone).reloads = true := fun task reloads later =>
    reloads_of_task (List.mem_append_left _ (List.mem_append_right _ (List.mem_singleton_self _))) reloads
  cases request with
  | listAccounts =>
    right
    cases asker <;> cases result <;> exact ⟨rfl, by simp [complete, shown, add, onPage]⟩
  | addAccount account =>
    left
    cases result with
    | error message => cases asker <;> exact loadAccounts_reloads _
    | ok value => cases asker <;> exact asked .accountListChanged rfl _
  | deleteAccount id =>
    cases result with
    | error message =>
      right
      cases asker <;> exact ⟨rfl, (List.append_nil _).symm⟩
    | ok value =>
      left
      cases asker <;> exact asked .accountListChanged rfl _
  | listTransactions id =>
    right
    cases asker <;> cases result <;> exact ⟨rfl, (List.append_nil _).symm⟩
  | addTransaction id tx =>
    right
    cases asker <;> cases result <;> exact ⟨rfl, (List.append_nil _).symm⟩
  | getBalance id =>
    right
    cases asker <;> cases result <;> exact ⟨rfl, (List.append_nil _).symm⟩
  | flush =>
    cases asker with
    | accountList =>
      cases result with
      | ok value => exact .inr ⟨rfl, (List.append_nil _).symm⟩
      | error message => exact .inl (loadAccounts_reloads _)
    | clonePage page =>
      right
      cases result <;> exact ⟨rfl, (List.append_nil _).symm⟩
    | accountPage =>
      right
      cases result <;> exact ⟨rfl, (List.append_nil _).symm⟩

theorem Shows.congr {before after : Store} (same : after.profiles = before.profiles) {state : AccountListState}
    (shows : state.Shows sorting before) : state.Shows sorting after := by
  cases state with
  | loaded accounts => exact ⟨same ▸ shows.1, shows.2⟩
  | loadError message => exact True.intro
  | loading => exact shows
  | saveError message => exact shows

theorem Current.still (current : phone.Current sorting) (reloads : phone.reloads = true → phone'.reloads = true)
    (screens : phone'.screens sorting = phone.screens sorting)
    (profiles : phone'.device.repo.profiles = phone.device.repo.profiles) : phone'.Current sorting := by
  rcases current with before | ⟨state, last, shows⟩
  · exact .inl (reloads before)
  · exact .inr ⟨state, screens ▸ last, Shows.congr profiles shows⟩

theorem Current.onward (current : phone.Current sorting) (onward : phone.Onward phone')
    (accounts : phone'.accounts = phone.accounts) : phone'.Current sorting := by
  refine current.still onward.reloads ?_ ?_
  · rw [Phone.screens, Phone.screens, accounts, onward.repository]
  · rw [onward.device]

theorem reloads_finished {i : Nat} {task : Task} (here : phone.tasks[i]? = some task) (plain : task.reloads = false)
    (before : phone.reloads = true) : (phone.finished i).reloads = true := by
  have same : phone.tasks.any Task.reloads = (phone.tasks.eraseIdx i).any Task.reloads := by
    rw [any_eraseIdx here, plain, Bool.false_or]
  simp only [Phone.reloads, same] at before
  exact before

theorem Current.finished {i : Nat} {task : Task} (current : phone.Current sorting)
    (here : phone.tasks[i]? = some task) (plain : task.reloads = false) : (phone.finished i).Current sorting :=
  current.still (reloads_finished here plain) rfl rfl

theorem Current.called (current : phone.Current sorting) (call : Asked) :
    ({ phone with opened := true, repository := phone.repository.call call } : Phone).Current sorting := by
  refine current.still ?_ rfl rfl
  intro before
  simp only [Phone.reloads, Worker.call, List.any_append, Bool.or_eq_true] at before ⊢
  exact before.imp_left (Or.imp_left (Or.imp_left (Or.imp_right Or.inl)))

theorem Current.synchronizing (current : phone.Current sorting) (call : SyncCall) :
    ({ phone with synchronizer := phone.synchronizer.call call } : Phone).Current sorting :=
  current.still id rfl rfl

theorem Current.resume {i : Nat} {task : Task} (current : phone.Current sorting) (here : phone.tasks[i]? = some task) :
    (resume task (phone.finished i)).Current sorting := by
  cases task with
  | accountListChanged => exact .inl (loadAccounts_reloads _)
  | getRepository call =>
    cases again : call.reloads with
    | true =>
      left
      simp [Phone.resume, Phone.finished, Phone.reloads, Worker.call, again]
    | false => exact (current.finished here again).called call
  | saveAccountConfig account accountConfig =>
    exact .inl (reloads_of_task (List.mem_append_right _ (List.mem_singleton_self _)) rfl)
  | getAccountInfo page => exact current.finished here rfl
  | importing page remoteAccount accountConfig =>
    have finished := current.finished here rfl
    refine finished.still ?_ rfl rfl
    intro before
    simp only [Phone.resume, Phone.await, Phone.save, Phone.reloads, List.any_append, Bool.or_eq_true] at before ⊢
    exact before.imp_left (Or.imp_left (Or.imp_left (Or.imp_left Or.inl)))
  | getNativePointers page id => exact (current.finished here rfl).synchronizing _

theorem unlisted {answer : Answer} (plain : answer.reloads = false) (hidden : shown sorting answer = none) :
    answer.1.reloads = false := by
  rcases answer with ⟨⟨asker, request⟩, result⟩
  cases request with
  | listAccounts =>
    cases asker with
    | accountList => cases result <;> cases hidden
    | clonePage page => rfl
    | accountPage => rfl
  | addAccount account => cases result <;> cases plain
  | deleteAccount id => cases asker <;> rfl
  | listTransactions id => cases asker <;> rfl
  | addTransaction id tx => cases asker <;> rfl
  | getBalance id => cases asker <;> rfl
  | flush => cases asker <;> rfl

theorem shown_listing {answer : Answer} {state : AccountListState} (displays : shown sorting answer = some state) :
    answer.1 = ⟨.accountList, .listAccounts⟩ := by
  unfold shown at displays
  split at displays
  · rfl
  · rfl
  · cases displays

theorem shown_error {call : Asked} {message : String} {state : AccountListState}
    (displays : shown sorting ⟨call, .error message⟩ = some state) : state = .loadError message := by
  obtain rfl : call = ⟨.accountList, .listAccounts⟩ := shown_listing displays
  exact (Option.some.inj displays).symm

theorem Current.fail {i : Nat} {task : Task} {message : String} {saved : Bool} (current : phone.Current sorting)
    (unopened : phone.opened = false → phone.repository.results = []) (here : phone.tasks[i]? = some task)
    (fails : phone.canFail task = true) : (fail sorting message saved task (phone.finished i)).Current sorting := by
  cases task with
  | accountListChanged => cases fails
  | getRepository call =>
    have closed : phone.opened = false := by simpa [canFail] using fails
    rcases complete_shows sorting ⟨call, .error message⟩ (phone.finished i) with again | ⟨plain, shows⟩
    · exact .inl again
    · have onward : (phone.finished i).Onward (complete sorting call (.error message) (phone.finished i)) :=
        complete_onward sorting ⟨call, .error message⟩ _
      cases displays : shown sorting ⟨call, .error message⟩ with
      | none =>
        rw [displays, Option.toList_none, List.append_nil] at shows
        exact (current.finished here (unlisted plain displays)).onward onward shows
      | some state =>
        obtain rfl := shown_error displays
        refine .inr ⟨.loadError message, ?_, True.intro⟩
        have empty : (phone.finished i).repository.results = [] := unopened closed
        have accounts : (complete sorting call (.error message) (phone.finished i)).accounts =
            phone.accounts ++ [.loadError message] := shows.trans (by rw [displays]; rfl)
        rw [Phone.fail, Phone.screens, onward.repository, empty, accounts]
        simp
  | saveAccountConfig account accountConfig => exact .inl (loadAccounts_reloads _)
  | getAccountInfo page => exact (current.finished here rfl).onward (onward_shows _ _ _ _) rfl
  | importing page remoteAccount accountConfig =>
    have finished := current.finished here rfl
    cases saved with
    | true => exact finished.onward (onward_shows _ _ _ _) rfl
    | false => exact finished.onward (onward_shows _ _ _ _) rfl
  | getNativePointers page id =>
    exact (current.finished here rfl).onward (onward_shows _ _ _ _) rfl

theorem onRepo_displayed {α : Type} (routine : Routine Store ErrorKind α) (device : Device Store) :
    (displayed (onRepo routine) device).2.repo = (routine device.repo).2 := by
  unfold displayed onRepo
  split
  · next run => exact (congrArg (fun done => done.2.repo) run).symm
  · next run => exact (congrArg (fun done => done.2.repo) run).symm
  · next run => exact (congrArg (fun done => done.2.repo) run).symm

theorem addTransaction_framed (id : AccountId) (tx : Transaction) (store : Store) :
    Framed id store (Ffi.addTransaction id tx store).2 := by
  cases found : store.account? id with
  | none =>
    rw [Ffi.addTransaction_missing tx found]
    refine ⟨fun _ => rfl, fun _ _ => rfl, ?_⟩
    intro other differ key
    rw [Store.transaction?_putTransaction, if_neg fun same => differ same.1]
  | some record =>
    obtain rfl := store.account_uuid id record found
    rw [Ffi.addTransaction_run tx found]
    refine ⟨?_, ?_, ?_⟩
    · intro other
      rw [Store.account?_putAccount]
      by_cases same : other = record.uuid
      · rw [if_pos same, same, found]
        rfl
      · rw [if_neg same]
        rfl
    · intro other differ
      rw [Store.account?_putAccount, if_neg differ]
      rfl
    · intro other differ key
      show (store.putTransaction record.uuid tx).transaction? other key = store.transaction? other key
      rw [Store.transaction?_putTransaction, if_neg fun same => differ same.1]

theorem deleteAccount_store (id : AccountId) (store : Store) :
    (Repository.deleteAccount id store).2 = store.removeAccount id := by
  cases found : store.account? id with
  | none =>
    rw [Store.deleteAccount_none found]
    exact (SledRepository.removeAccount_absent found).symm
  | some record => rw [Store.deleteAccount_some found]

theorem act_profiles {call : Asked} {error : Option String} {device : Device Store}
    (changed : (act order error call device).2.repo.profiles ≠ device.repo.profiles) :
    (∃ account, call.request = .addAccount account) ∨
      (∃ id, call.request = .deleteAccount id) ∧ ∃ value, (act order error call device).1 = .ok value := by
  rcases call with ⟨asker, request⟩
  cases error with
  | some message => exact absurd rfl changed
  | none =>
    rw [act, onRepo_displayed] at changed
    cases request with
    | listAccounts => exact absurd rfl changed
    | addAccount account => exact .inl ⟨account, rfl⟩
    | deleteAccount id =>
      right
      cases found : device.repo.account? id with
      | none =>
        have missing : Repository.deleteAccount id device.repo = (.err (.noSuchAccount id), device.repo) :=
          Store.deleteAccount_none found
        rw [Bindings.Request.meaning, missing] at changed
        exact absurd rfl changed
      | some record =>
        have deleted : Repository.deleteAccount id device.repo = (.ok (), device.repo.removeAccount id) :=
          Store.deleteAccount_some found
        refine ⟨⟨id, rfl⟩, (), ?_⟩
        simp [act, displayed, onRepo, Bindings.Request.meaning, deleted]
    | listTransactions id => exact absurd rfl changed
    | addTransaction id tx => exact absurd (profiles_congr (addTransaction_framed id tx device.repo).profiles) changed
    | getBalance id =>
      refine absurd ?_ changed
      rw [Bindings.Request.meaning, Bindings.pure_bind_run]
      rfl
    | flush => exact absurd rfl changed

theorem act_hang {call : Asked} {error : Option String} {device : Device Store}
    (hang : (act order error call device).1 = .hang) : call.reloads = false := by
  rcases call with ⟨asker, request⟩
  cases error with
  | some message => cases hang
  | none =>
    cases request with
    | listAccounts => cases hang
    | addAccount account => cases hang
    | deleteAccount id => cases asker <;> rfl
    | listTransactions id => cases asker <;> rfl
    | addTransaction id tx => cases asker <;> rfl
    | getBalance id => cases asker <;> rfl
    | flush => cases asker <;> rfl

theorem act_shows {call : Asked} {error : Option String} {device : Device Store}
    {result : Except String call.request.Value} {state : AccountListState}
    (run : (act order error call device).1 = Worker.answered result)
    (displays : shown sorting ⟨call, result⟩ = some state) :
    state.Shows sorting (act order error call device).2.repo := by
  cases result with
  | error message =>
    obtain rfl := shown_error displays
    exact True.intro
  | ok value =>
    cases error with
    | some message => cases run
    | none =>
      obtain rfl : call = ⟨.accountList, .listAccounts⟩ := shown_listing displays
      obtain rfl := Option.some.inj displays
      obtain rfl : device.repo.listAccounts = value := Outcome.ok.inj run
      exact ⟨(sorting.perm _).map _, sorting.sorted _⟩

theorem Current.handle (current : phone.Current sorting) (error : Option String) :
    (step sorting order generate (.handle error) phone).Current sorting := by
  have handled := Worker.handle_handled (act order error) phone.repository phone.device
  rw [step]
  generalize phone.repository.handle (act order error) phone.device = done at handled
  cases handled with
  | idle => exact current
  | returned call calls result head run =>
    cases plain : Answer.reloads ⟨call, result⟩ with
    | true =>
      left
      simp [Phone.reloads, plain]
    | false =>
      have profiles : (act order error call phone.device).2.repo.profiles = phone.device.repo.profiles := by
        by_contra changed
        rcases call with ⟨asker, request⟩
        rcases act_profiles changed with ⟨account, rfl⟩ | ⟨⟨id, rfl⟩, value, returns⟩
        · cases result <;> cases plain
        · rw [returns] at run
          cases result with
          | ok value => cases plain
          | error message => cases run
      cases displays : shown sorting ⟨call, result⟩ with
      | none =>
        refine current.still ?_ ?_ profiles
        · have unlisted : call.reloads = false := unlisted plain displays
          intro before
          simp only [Phone.reloads, head, List.any_cons, List.any_append, unlisted, Bool.false_or, Bool.or_eq_true]
            at before ⊢
          exact before.imp_left (Or.imp_left (Or.imp_right Or.inl))
        · simp [screens, displays]
      | some state =>
        refine .inr ⟨state, ?_, act_shows run displays⟩
        simp [screens, displays]
  | hung call calls head run =>
    have plain : call.reloads = false := act_hang run
    refine current.still ?_ rfl ?_
    · intro before
      simp only [Phone.reloads, head, List.any_cons, plain, Bool.false_or] at before ⊢
      exact before
    · by_contra changed
      rcases act_profiles changed with ⟨account, added⟩ | ⟨deleted, value, returns⟩
      · rcases call with ⟨asker, request⟩
        subst added
        cases asker <;> cases plain
      · rw [run] at returns
        cases returns

theorem Current.deliver (current : phone.Current sorting) :
    (step sorting order generate .deliver phone).Current sorting := by
  rw [step]
  cases results : phone.repository.results with
  | nil => exact current
  | cons answer rest =>
    let taken : Phone := { phone with repository := { phone.repository with results := rest } }
    have onward : taken.Onward (complete sorting answer.1 answer.2 taken) := complete_onward sorting answer taken
    rcases complete_shows sorting answer taken with again | ⟨plain, shows⟩
    · exact .inl again
    · refine current.still (fun before => onward.reloads ?_) ?_ ?_
      · simp only [Phone.reloads, results, List.any_cons, plain, Bool.false_or] at before ⊢
        exact before
      · rw [screens, screens, shows, onward.repository, results, List.append_assoc]
        cases displays : shown sorting answer with
        | none => simp [taken, displays]
        | some state => simp [taken, displays]
      · rw [onward.device]

theorem displayed_device {α : Type} (routine : Routine (Device Store) ErrorKind α) (device : Device Store) :
    (displayed routine device).2 = (routine device).2 := by
  unfold displayed
  split
  · next run => rw [run]
  · next run => rw [run]
  · next run => rw [run]

theorem actSync_sync (replies : Nat → (call : RemoteCall) → call.Reply) (id : AccountId) (device : Device Store) :
    (actSync generate replies (.sync id) device).2 = ((sync generate id device).run (heard replies) 0).1.2 :=
  displayed_device _ device

theorem Current.handleSync (current : phone.Current sorting) (replies : Nat → (call : RemoteCall) → call.Reply)
    (tidy : Tidy generate (.handleSync replies) phone) :
    (step sorting order generate (.handleSync replies) phone).Current sorting := by
  have handled := Worker.handle_handled (actSync generate replies) phone.synchronizer phone.device
  rw [step]
  generalize phone.synchronizer.handle (actSync generate replies) phone.device = done at handled
  cases handled with
  | idle => exact current
  | returned call calls result head run =>
    cases plain : SyncAnswer.reloads ⟨call, result⟩ with
    | true =>
      left
      simp [Phone.reloads, plain]
    | false =>
      have profiles : (actSync generate replies call phone.device).2.repo.profiles = phone.device.repo.profiles := by
        cases call with
        | sync id =>
          rw [actSync_sync]
          exact profiles_congr (sync_framed (heard replies) 0).profiles
        | cloneRemote page id =>
          cases result with
          | ok value => cases plain
          | error message => exact tidy page id message (by rw [head]; rfl) run
      refine current.still ?_ rfl profiles
      intro before
      simp only [Phone.reloads, List.any_append, Bool.or_eq_true] at before ⊢
      exact before.imp_left (Or.imp_right Or.inl)
  | hung call calls head run =>
    left
    simp [Phone.reloads]

theorem Current.deliverSync (current : phone.Current sorting) :
    (step sorting order generate .deliverSync phone).Current sorting := by
  rw [step]
  cases results : phone.synchronizer.results with
  | nil => exact current
  | cons answer rest =>
    have taken : SyncAnswer.reloads answer = false →
        ({ phone with synchronizer := { phone.synchronizer with results := rest } } : Phone).Current sorting := by
      intro plain
      refine current.still ?_ rfl rfl
      intro before
      simp only [Phone.reloads, results, List.any_cons, plain, Bool.false_or] at before ⊢
      exact before
    rcases answer with ⟨call, result⟩
    cases call with
    | sync id => exact taken rfl
    | cloneRemote page id =>
      cases result with
      | ok value =>
        left
        exact reloads_of_task (List.mem_append_left _ (List.mem_append_right _ (List.mem_singleton_self _))) rfl
      | error message => exact (taken rfl).onward (onward_shows _ _ _ _) rfl

theorem made_member (entered : List AddAccountEvent) (generateUuid : Nat → List UInt8) :
    let page := Machine.after AddAccountPage.step entered AddAccountPage.initial
    (page.bloc.makeAccount generateUuid).members ≠ [] := by
  intro page nobody
  have somebody : (page.bloc.makeAccount generateUuid).members.isEmpty = false :=
    (AddAccountPage.after_mirrored entered).some_member
  rw [nobody] at somebody
  cases somebody

def Unopened (phone : Phone) : Prop :=
  phone.opened = false → phone.repository.calls = [] ∧ phone.repository.results = []

theorem Onward.unopened (onward : phone.Onward phone') (unopened : phone.Unopened) : phone'.Unopened := by
  rw [Unopened, onward.opened, onward.repository]
  exact unopened

theorem Current.step (current : phone.Current sorting) (unopened : phone.Unopened) (event : PhoneEvent)
    (tidy : Tidy generate event phone) : (step sorting order generate event phone).Current sorting := by
  have asked : ∀ (asker : Asker) (request : Bindings.Request) (phone : Phone), phone.Current sorting →
      (phone.call asker request).Current sorting := fun asker request phone current =>
    current.onward ⟨⟨_, rfl⟩, rfl, rfl, rfl, rfl⟩ rfl
  cases event with
  | saveAccount entered generateUuid =>
    rw [Phone.step]
    split
    · have somebody := made_member entered generateUuid
      rw [Phone.saveAccount]
      split
      · contradiction
      · exact .inl (reloads_of_task (List.mem_append_right _ (List.mem_singleton_self _)) rfl)
    · exact current
  | deleteAccount id => exact asked _ _ phone current
  | loadTransactions id => exact asked _ _ _ (asked _ _ phone current)
  | addTransaction id tx => exact asked _ _ phone current
  | synchronize id => exact current.synchronizing _
  | saveAccountConfig id accountConfig => exact current.onward (onward_shows _ _ _ _) rfl
  | openLink accountUuid => exact current.onward ⟨⟨_, List.append_assoc _ _ _⟩, rfl, rfl, rfl, rfl⟩ rfl
  | importAccount page =>
    rw [Phone.step, Phone.importAccount]
    split
    · exact current.onward ⟨⟨_, rfl⟩, rfl, rfl, rfl, rfl⟩ rfl
    · exact current
  | resume i =>
    rw [Phone.step]
    split
    · exact current
    · exact current
    · next task _ here => exact current.resume here
  | told i remoteAccount =>
    rw [Phone.step]
    split
    · next page here =>
      exact (current.finished here rfl).onward (onward_shows _ _ _ _) rfl
    · exact current
  | fail i message saved =>
    rw [Phone.step]
    split
    · exact current
    · next task here =>
      split
      · next fails => exact current.fail (fun closed => (unopened closed).2) here fails
      · exact current
  | handle error => exact current.handle error
  | deliver => exact current.deliver
  | handleSync replies => exact current.handleSync replies tidy
  | deliverSync => exact current.deliverSync

theorem step_handle (error : Option String) (phone : Phone) :
    step sorting order generate (.handle error) phone = phone ∨
      ∃ (call : Asked) (calls : List Asked) (answers : List Answer) (stuck : Bool),
        phone.repository.calls = call :: calls ∧
        step sorting order generate (.handle error) phone =
          { phone with
            repository := ⟨calls, phone.repository.results ++ answers, stuck⟩
            device := (act order error call phone.device).2 } ∧
        (answers = [] ∨ ∃ result, answers = [⟨call, result⟩] ∧
          (act order error call phone.device).1 = Worker.answered result) := by
  have handled := Worker.handle_handled (act order error) phone.repository phone.device
  rw [step]
  generalize phone.repository.handle (act order error) phone.device = done at handled
  cases handled with
  | idle => exact .inl rfl
  | returned call calls result head run =>
    exact .inr ⟨call, calls, [⟨call, result⟩], _, head, rfl, .inr ⟨result, rfl, run⟩⟩
  | hung call calls head run =>
    refine .inr ⟨call, calls, [], true, head, ?_, .inl rfl⟩
    rw [List.append_nil]

theorem step_handleSync (replies : Nat → (call : RemoteCall) → call.Reply) (phone : Phone) :
    step sorting order generate (.handleSync replies) phone = phone ∨
      ∃ (call : SyncCall) (calls : List SyncCall) (answers : List (Σ _ : SyncCall, Except String Unit)) (stuck : Bool),
        phone.synchronizer.calls = call :: calls ∧
        step sorting order generate (.handleSync replies) phone =
          { phone with
            synchronizer := ⟨calls, phone.synchronizer.results ++ answers, stuck⟩
            device := (actSync generate replies call phone.device).2 } ∧
        (answers = [] ∨ ∃ result, answers = [⟨call, result⟩]) := by
  have handled := Worker.handle_handled (actSync generate replies) phone.synchronizer phone.device
  rw [step]
  generalize phone.synchronizer.handle (actSync generate replies) phone.device = done at handled
  cases handled with
  | idle => exact .inl rfl
  | returned call calls result head run =>
    exact .inr ⟨call, calls, [⟨call, result⟩], _, head, rfl, .inr ⟨result, rfl⟩⟩
  | hung call calls head run =>
    refine .inr ⟨call, calls, [], true, head, ?_, .inl rfl⟩
    rw [List.append_nil]

theorem Unopened.resume {task : Task} (unopened : phone.Unopened) : (Phone.resume task phone).Unopened := by
  cases task with
  | getRepository call =>
    intro closed
    cases closed
  | importing page remoteAccount accountConfig =>
    intro closed
    cases closed
  | accountListChanged => exact unopened
  | saveAccountConfig account accountConfig => exact unopened
  | getAccountInfo page => exact unopened
  | getNativePointers page id => exact unopened

theorem Unopened.fail {task : Task} {message : String} {saved : Bool} (unopened : phone.Unopened) :
    (Phone.fail sorting message saved task phone).Unopened := by
  cases task with
  | accountListChanged => exact unopened
  | getRepository call =>
    have onward : phone.Onward (complete sorting call (.error message) phone) :=
      complete_onward sorting ⟨call, .error message⟩ _
    exact onward.unopened unopened
  | saveAccountConfig account accountConfig => cases saved <;> exact unopened
  | getAccountInfo page => exact unopened
  | importing page remoteAccount accountConfig => cases saved <;> exact unopened
  | getNativePointers page id => exact unopened

theorem Unopened.step (unopened : phone.Unopened) (event : PhoneEvent) :
    (step sorting order generate event phone).Unopened := by
  cases event with
  | saveAccount entered generateUuid =>
    rw [Phone.step]
    split
    · rw [Phone.saveAccount]
      split <;> exact unopened
    · exact unopened
  | deleteAccount id => exact unopened
  | loadTransactions id => exact unopened
  | addTransaction id tx => exact unopened
  | synchronize id => exact unopened
  | saveAccountConfig id accountConfig => exact unopened
  | openLink accountUuid => exact unopened
  | importAccount page =>
    rw [Phone.step, Phone.importAccount]
    split <;> exact unopened
  | resume i =>
    rw [Phone.step]
    split
    · exact unopened
    · exact unopened
    · next task _ here =>
      have finished : (phone.finished i).Unopened := unopened
      exact finished.resume
  | told i remoteAccount =>
    rw [Phone.step]
    split <;> exact unopened
  | fail i message saved =>
    rw [Phone.step]
    split
    · exact unopened
    · next task here =>
      have finished : (phone.finished i).Unopened := unopened
      split
      · exact finished.fail
      · exact unopened
  | handle error =>
    rcases step_handle error phone with same | ⟨call, calls, answers, stuck, head, same, _⟩
    · rw [same]
      exact unopened
    · rw [same]
      intro closed
      have empty := (unopened closed).1
      rw [head] at empty
      cases empty
  | deliver =>
    rw [Phone.step]
    split
    · exact unopened
    · next answer rest results =>
      have onward := complete_onward sorting answer
        { phone with repository := { phone.repository with results := rest } }
      apply onward.unopened
      intro closed
      have empty := (unopened closed).2
      rw [results] at empty
      cases empty
  | handleSync replies => exact unopened
  | deliverSync =>
    rw [Phone.step]
    split
    · exact unopened
    · next answer rest results =>
      rcases answer with ⟨call, result⟩
      cases call with
      | sync id => exact unopened
      | cloneRemote page id => cases result <;> exact unopened

theorem resume_device (task : Task) (phone : Phone) : (resume task phone).device = phone.device := by
  cases task <;> rfl

theorem fail_device (sorting : AccountSorting) (message : String) (saved : Bool) (task : Task) (phone : Phone) :
    (fail sorting message saved task phone).device = phone.device := by
  cases task with
  | getRepository call => exact (complete_onward sorting ⟨call, .error message⟩ phone).device
  | saveAccountConfig account accountConfig => cases saved <;> rfl
  | importing page remoteAccount accountConfig => cases saved <;> rfl
  | _ => rfl

theorem step_device {event : PhoneEvent} (repository : ∀ error, event ≠ .handle error)
    (synchronizer : ∀ replies, event ≠ .handleSync replies) :
    (step sorting order generate event phone).device = phone.device := by
  cases event with
  | handle error => exact absurd rfl (repository error)
  | handleSync replies => exact absurd rfl (synchronizer replies)
  | saveAccount entered generateUuid =>
    rw [step]
    split
    · rw [saveAccount]
      split <;> rfl
    · rfl
  | importAccount page =>
    rw [step, importAccount]
    split <;> rfl
  | resume i =>
    rw [step]
    split
    · rfl
    · rfl
    · exact resume_device _ _
  | told i remoteAccount =>
    rw [step]
    split <;> rfl
  | fail i message saved =>
    rw [step]
    split
    · rfl
    · split
      · exact fail_device _ _ _ _ _
      · rfl
  | deliver =>
    rw [step]
    split
    · rfl
    · next answer rest results => exact (complete_onward sorting answer _).device
  | deliverSync =>
    rw [step]
    split
    · rfl
    · next answer rest results =>
      rcases answer with ⟨call, result⟩
      cases call with
      | sync id => rfl
      | cloneRemote page id => cases result <;> rfl
  | _ => rfl

end Changes

section Runs

variable (sorting : AccountSorting) (order : IterationOrder) (generate : Nat → TransactionId)

theorem start_current (configs : AccountId → Option AccountConfig) (device : Device Store) :
    (start configs device).Current sorting :=
  .inl (loadAccounts_reloads _)

theorem Current.rests {phone : Phone} (current : phone.Current sorting) (rests : phone.Rests) :
    ∃ state, phone.accounts.getLast? = some state ∧ state.Shows sorting phone.device.repo := by
  rcases current with again | ⟨state, last, shows⟩
  · simp [Phone.reloads, rests.tasks, rests.calls, rests.results, rests.syncResults, rests.returns] at again
  · rw [screens, rests.results, List.filterMap_nil, List.append_nil] at last
    exact ⟨state, last, shows⟩

end Runs

end Phone

end Flouze
