import Flouze.Bindings.Basic
import Flouze.Mobile.AccountSyncBloc
import Flouze.Mobile.AddAccountBloc
import Flouze.Sync.Confinement

/-! The page that lists the accounts, the pages that clone one, and what they have under way. -/

namespace Flouze

inductive AccountListState where
  | loading
  | loaded (accounts : List Account)
  | loadError (message : String)
  | saveError (message : String)

inductive AccountCloneError where
  | importPreparationError
  | importError

inductive AccountCloneState where
  | loading
  | alreadyExists (remoteAccount : Account)
  | ready (remoteAccount : Account)
  | cloning (remoteAccount : Account)
  | done
  | error (errorKind : AccountCloneError) (message : String)

/-- UTF-16, as strings are compared. -/
def codeUnits (text : String) : List Nat :=
  text.toList.flatMap fun c =>
    if c.toNat < 0x10000 then [c.toNat]
    else [0xD800 + (c.toNat - 0x10000) / 0x400, 0xDC00 + (c.toNat - 0x10000) % 0x400]

/-- `sort` is not stable. -/
structure AccountSorting where
  toLowerCase : String → String
  sort : List Account → List Account
  perm : ∀ accounts, (sort accounts).Perm accounts
  sorted : ∀ accounts, (sort accounts).Pairwise fun a1 a2 =>
    codeUnits (toLowerCase a1.label) ≤ codeUnits (toLowerCase a2.label)

def AccountSorting.insertion (toLowerCase : String → String) : AccountSorting where
  toLowerCase := toLowerCase
  sort := List.insertionSort fun a1 a2 => codeUnits (toLowerCase a1.label) ≤ codeUnits (toLowerCase a2.label)
  perm := List.perm_insertionSort _
  sorted := by
    have : Std.Total fun a1 a2 : Account => codeUnits (toLowerCase a1.label) ≤ codeUnits (toLowerCase a2.label) :=
      ⟨fun a1 a2 => le_total _ _⟩
    have : IsTrans Account fun a1 a2 => codeUnits (toLowerCase a1.label) ≤ codeUnits (toLowerCase a2.label) :=
      ⟨fun _ _ _ first second => le_trans first second⟩
    exact List.pairwise_insertionSort _

inductive Asker where
  | accountList
  | clonePage (page : Nat)
  | accountPage

structure Asked where
  asker : Asker
  request : Bindings.Request

inductive SyncCall where
  | sync (id : AccountId)
  | cloneRemote (page : Nat) (id : AccountId)
deriving DecidableEq

/-- What the isolate has to do for a proxy, one call after another, and what it has sent back. -/
structure Worker (Call : Type) (Value : Call → Type) where
  calls : List Call
  results : List (Σ call : Call, Except String (Value call))
  /-- A call never returns. -/
  stuck : Bool

namespace Worker

variable {σ Call : Type} {Value : Call → Type}

def call (call : Call) (worker : Worker Call Value) : Worker Call Value :=
  { worker with calls := worker.calls ++ [call] }

def handle (act : (call : Call) → Routine σ String (Value call)) (worker : Worker Call Value) (state : σ) :
    Worker Call Value × σ :=
  if worker.stuck then (worker, state)
  else match worker.calls with
    | [] => (worker, state)
    | call :: calls => match act call state with
      | (.ok value, state) =>
        ({ worker with calls := calls, results := worker.results ++ [⟨call, .ok value⟩] }, state)
      | (.err message, state) =>
        ({ worker with calls := calls, results := worker.results ++ [⟨call, .error message⟩] }, state)
      | (.hang, state) => ({ worker with calls := calls, stuck := true }, state)

end Worker

inductive Task where
  /-- The event on its way to its listeners. -/
  | accountListChanged
  | getRepository (call : Asked)
  | saveAccountConfig (account : Account) (accountConfig : AccountConfig)
  | getAccountInfo (page : Nat)
  /-- The config to be saved, the repository and the client. -/
  | importing (page : Nat) (remoteAccount : Account) (accountConfig : AccountConfig)
  | getNativePointers (page : Nat) (id : AccountId)

/-- An `AccountCloneBloc`, with the halves of what `prepareImport` waits for. -/
structure ClonePage where
  accountUuid : AccountId
  emitted : List AccountCloneState
  accounts : Option (List Account)
  remoteAccount : Option Account

namespace ClonePage

def opened (remoteAccountUuid : AccountId) : ClonePage := ⟨remoteAccountUuid, [.loading], none, none⟩

def add (state : AccountCloneState) (page : ClonePage) : ClonePage := { page with emitted := page.emitted ++ [state] }

def isLoading (page : ClonePage) : Bool :=
  match page.emitted.getLast? with
  | some .loading => true
  | _ => false

def prepared (page : ClonePage) : ClonePage :=
  match page.isLoading, page.accounts, page.remoteAccount with
  | true, some accounts, some remoteAccount =>
    if accounts.any fun a => a.uuid = remoteAccount.uuid then page.add (.alreadyExists remoteAccount)
    else page.add (.ready remoteAccount)
  | _, _, _ => page

/-- Only the first error counts. -/
def unprepared (message : String) (page : ClonePage) : ClonePage :=
  if page.isLoading then page.add (.error .importPreparationError message) else page

def listed (accounts : List Account) (page : ClonePage) : ClonePage :=
  { page with accounts := some accounts }.prepared

def told (remoteAccount : Account) (page : ClonePage) : ClonePage :=
  { page with remoteAccount := some remoteAccount }.prepared

end ClonePage

/-- The source has one isolate for both proxies, which takes what is sent to either in the order in which it was
    sent. Each has a queue of its own here: every order of the source is possible, and others are too. -/
structure Phone where
  accounts : List AccountListState
  clones : List ClonePage
  tasks : List Task
  /-- `getRepository` has succeeded once, and will from now on. -/
  opened : Bool
  repository : Worker Asked fun call => call.request.Value
  synchronizer : Worker SyncCall fun _ => Unit
  configs : AccountId → Option AccountConfig
  device : Device Store

inductive PhoneEvent where
  /-- The page that adds an account is left by its button. -/
  | saveAccount (entered : List AddAccountEvent) (generateUuid : Nat → List UInt8)
  | deleteAccount (id : AccountId)
  | loadTransactions (id : AccountId)
  | addTransaction (id : AccountId) (tx : Transaction)
  | synchronize (id : AccountId)
  | saveAccountConfig (id : AccountId) (accountConfig : AccountConfig)
  | openLink (accountUuid : AccountId)
  | importAccount (page : Nat)
  /-- What a task waits for is there. -/
  | resume (i : Nat)
  | told (i : Nat) (remoteAccount : Account)
  /-- It is not, although a config may have been saved all the same. -/
  | fail (i : Nat) (message : String) (saved : Bool)
  /-- The isolate takes the repository's next call. -/
  | handle (error : Option String)
  | deliver
  | handleSync (replies : Nat → (call : RemoteCall) → call.Reply)
  | deliverSync

def displayed {σ α : Type} (routine : Routine σ ErrorKind α) : Routine σ String α := fun state =>
  match routine state with
  | (.ok value, state) => (.ok value, state)
  | (.err error, state) => (.err error.display, state)
  | (.hang, state) => (.hang, state)

namespace Phone

def add (state : AccountListState) (phone : Phone) : Phone := { phone with accounts := phone.accounts ++ [state] }

def await (task : Task) (phone : Phone) : Phone := { phone with tasks := phone.tasks ++ [task] }

def call (asker : Asker) (request : Bindings.Request) (phone : Phone) : Phone :=
  phone.await (.getRepository ⟨asker, request⟩)

def onPage (page : Nat) (change : ClonePage → ClonePage) (phone : Phone) : Phone :=
  { phone with clones := phone.clones.modify page change }

def save (id : AccountId) (accountConfig : AccountConfig) (phone : Phone) : Phone :=
  { phone with configs := Function.update phone.configs id (some accountConfig) }

def loadAccounts (phone : Phone) : Phone := (phone.add .loading).call .accountList .listAccounts

def start (configs : AccountId → Option AccountConfig) (device : Device Store) : Phone :=
  loadAccounts ⟨[], [], [], false, ⟨[], [], false⟩, ⟨[], [], false⟩, configs, device⟩

/-- `first` throws if there are no members, after the list was shown with the account. -/
def saveAccount (account : Account) (phone : Phone) : Phone :=
  let currentAccounts := match phone.accounts.getLast? with
    | some (.loaded accounts) => accounts
    | _ => []
  let phone := phone.add (.loaded (currentAccounts ++ [account]))
  match account.members with
  | [] => phone
  | me :: _ => phone.await (.saveAccountConfig account ⟨me.uuid, false⟩)

def unsaved (message : String) (phone : Phone) : Phone := (phone.add (.saveError message)).loadAccounts

/-- `prepareImport` -/
def openLink (remoteAccountUuid : AccountId) (phone : Phone) : Phone :=
  let page := phone.clones.length
  let phone := { phone with clones := phone.clones ++ [ClonePage.opened remoteAccountUuid] }
  (phone.call (.clonePage page) .listAccounts).await (.getAccountInfo page)

/-- The button of a page that is ready. It does not know who of the members `me` is. -/
def importAccount (page : Nat) (phone : Phone) : Phone :=
  match (phone.clones[page]?).bind fun clone => clone.emitted.getLast? with
  | some (.ready remoteAccount) =>
    (phone.onPage page (ClonePage.add (.cloning remoteAccount))).await (.importing page remoteAccount ⟨[], true⟩)
  | _ => phone

/-- What a call of the repository, or of `SledRepository` before it, leads to. -/
def complete (sorting : AccountSorting) : (call : Asked) → Except String call.request.Value → Phone → Phone
  | ⟨.accountList, .listAccounts⟩, .ok accounts, phone => phone.add (.loaded (sorting.sort accounts))
  | ⟨.accountList, .listAccounts⟩, .error message, phone => phone.add (.loadError message)
  | ⟨.clonePage page, .listAccounts⟩, .ok accounts, phone => phone.onPage page (ClonePage.listed accounts)
  | ⟨.clonePage page, .listAccounts⟩, .error message, phone => phone.onPage page (ClonePage.unprepared message)
  | ⟨_, .addAccount _⟩, .ok _, phone => (phone.await .accountListChanged).call .accountList .flush
  | ⟨_, .addAccount _⟩, .error message, phone => phone.unsaved message
  | ⟨_, .deleteAccount _⟩, .ok _, phone => (phone.await .accountListChanged).call .accountPage .flush
  | ⟨_, .addTransaction _ _⟩, .ok _, phone => phone.call .accountPage .flush
  | ⟨.accountList, .flush⟩, .error message, phone => phone.unsaved message
  | ⟨.clonePage page, .flush⟩, .ok _, phone => phone.onPage page (ClonePage.add .done)
  | ⟨.clonePage page, .flush⟩, .error message, phone =>
    phone.onPage page (ClonePage.add (.error .importError message))
  -- what an account page asked for, and a saved account that was flushed
  | _, _, phone => phone

def completeSync : SyncCall → Except String Unit → Phone → Phone
  | .cloneRemote page _, .ok _, phone => (phone.await .accountListChanged).call (.clonePage page) .flush
  | .cloneRemote page _, .error message, phone => phone.onPage page (ClonePage.add (.error .importError message))
  | .sync _, _, phone => phone

def resume : Task → Phone → Phone
  | .accountListChanged, phone => phone.loadAccounts
  | .getRepository call, phone => { phone with opened := true, repository := phone.repository.call call }
  | .saveAccountConfig account accountConfig, phone =>
    (phone.save account.uuid accountConfig).call .accountList (.addAccount account)
  -- `told` comes with the answer
  | .getAccountInfo _, phone => phone
  | .importing page remoteAccount accountConfig, phone =>
    ({ phone.save remoteAccount.uuid accountConfig with opened := true } : Phone).await
      (.getNativePointers page remoteAccount.uuid)
  | .getNativePointers page id, phone =>
    { phone with synchronizer := phone.synchronizer.call (.cloneRemote page id) }

def fail (sorting : AccountSorting) (message : String) (saved : Bool) : Task → Phone → Phone
  | .accountListChanged, phone => phone
  | .getRepository call, phone => complete sorting call (.error message) phone
  | .saveAccountConfig account accountConfig, phone =>
    (if saved then phone.save account.uuid accountConfig else phone).unsaved message
  | .getAccountInfo page, phone => phone.onPage page (ClonePage.unprepared message)
  | .importing page remoteAccount accountConfig, phone =>
    (if saved then phone.save remoteAccount.uuid accountConfig else phone).onPage page
      (ClonePage.add (.error .importError message))
  | .getNativePointers page _, phone => phone.onPage page (ClonePage.add (.error .importError message))

/-- The event reaches its listeners, and a repository that has been got once is there. -/
def canFail (phone : Phone) : Task → Bool
  | .accountListChanged => false
  | .getRepository _ => !phone.opened
  | _ => true

section Step

variable (sorting : AccountSorting) (order : IterationOrder) (generate : Nat → TransactionId)

def act (error : Option String) (call : Asked) : Routine (Device Store) String call.request.Value :=
  match error with
  | some message => Routine.fail message
  | none => displayed (onRepo (call.request.meaning order))

def actSync (replies : Nat → (call : RemoteCall) → call.Reply) : SyncCall → Routine (Device Store) String Unit
  | .sync id => displayed fun device => ((sync generate id device).run (heard replies) 0).1
  | .cloneRemote _ id => displayed fun device => ((cloneRemote generate id device).run (heard replies) 0).1

def finished (i : Nat) (phone : Phone) : Phone := { phone with tasks := phone.tasks.eraseIdx i }

def step : PhoneEvent → Phone → Phone
  | .saveAccount entered generateUuid, phone =>
    let page := Machine.after AddAccountPage.step entered AddAccountPage.initial
    if page.validate then phone.saveAccount (page.bloc.makeAccount generateUuid) else phone
  | .deleteAccount id, phone => phone.call .accountPage (.deleteAccount id)
  | .loadTransactions id, phone =>
    (phone.call .accountPage (.listTransactions id)).call .accountPage (.getBalance id)
  | .addTransaction id tx, phone => phone.call .accountPage (.addTransaction id tx)
  | .synchronize id, phone => { phone with synchronizer := phone.synchronizer.call (.sync id) }
  | .saveAccountConfig id accountConfig, phone => phone.save id accountConfig
  | .openLink accountUuid, phone => phone.openLink accountUuid
  | .importAccount page, phone => phone.importAccount page
  | .resume i, phone => match phone.tasks[i]? with
    | none | some (.getAccountInfo _) => phone
    | some task => resume task (phone.finished i)
  | .told i remoteAccount, phone => match phone.tasks[i]? with
    | some (.getAccountInfo page) => (phone.finished i).onPage page (ClonePage.told remoteAccount)
    | _ => phone
  | .fail i message saved, phone => match phone.tasks[i]? with
    | none => phone
    | some task => if phone.canFail task then fail sorting message saved task (phone.finished i) else phone
  | .handle error, phone =>
    let (repository, device) := phone.repository.handle (act order error) phone.device
    { phone with repository := repository, device := device }
  | .deliver, phone => match phone.repository.results with
    | [] => phone
    | result :: results =>
      complete sorting result.1 result.2 { phone with repository := { phone.repository with results := results } }
  | .handleSync replies, phone =>
    let (synchronizer, device) := phone.synchronizer.handle (actSync generate replies) phone.device
    { phone with synchronizer := synchronizer, device := device }
  | .deliverSync, phone => match phone.synchronizer.results with
    | [] => phone
    | result :: results =>
      completeSync result.1 result.2 { phone with synchronizer := { phone.synchronizer with results := results } }

end Step

end Phone

end Flouze
