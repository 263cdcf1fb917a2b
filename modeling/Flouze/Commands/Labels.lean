import Flouze.Commands.Safety
import Flouze.Isolation
import Flouze.Sync.Confinement

namespace Flouze

open Linked Repository CommandM

namespace Store

def Addressable (store : Store) : Prop :=
  ∀ id record, store.account? id = some record → store.labelled record.label = some record

def DistinctLabels (store : Store) : Prop :=
  ∀ id other record record', store.account? id = some record → store.account? other = some record' →
    record.label = record'.label → id = other

variable {store store' : Store} {account record : Account} {label : String}

theorem labelled_none (unused : store.labelled label = none) {id : AccountId} (found : store.account? id = some record) :
    record.label ≠ label := by
  obtain rfl := uuid_of_account? found
  have absent := List.find?_eq_none.mp unused record ((store.mem_listAccounts record).mpr found)
  simpa using absent

theorem labelled_of_mem {id : AccountId} (found : store.account? id = some record) :
    ∃ first, store.labelled record.label = some first := by
  cases search : store.labelled record.label with
  | none => exact absurd rfl (labelled_none search found)
  | some first => exact ⟨first, rfl⟩

theorem addressable_iff : store.Addressable ↔ store.DistinctLabels := by
  constructor
  · intro addressable id other record record' found found' same
    have named := addressable id record found
    have named' := addressable other record' found'
    rw [same, named'] at named
    obtain rfl := Option.some.inj named
    rw [← uuid_of_account? found, uuid_of_account? found']
  · intro distinct id record found
    rcases labelled_of_mem found with ⟨first, named⟩
    rcases labelled_stored named with ⟨stored, labelled⟩
    obtain rfl := distinct first.uuid id first record stored found labelled
    obtain rfl := Option.some.inj (stored.symm.trans found)
    exact named

theorem DistinctLabels.congr (same : ∀ id, (store'.account? id).map Account.label = (store.account? id).map Account.label)
    (distinct : store.DistinctLabels) : store'.DistinctLabels := by
  intro id other record record' found found' equal
  have label := same id
  have label' := same other
  rw [found] at label
  rw [found'] at label'
  rcases Option.map_eq_some_iff.mp label.symm with ⟨old, known, at_label⟩
  rcases Option.map_eq_some_iff.mp label'.symm with ⟨old', known', at_label'⟩
  exact distinct id other old old' known known' (at_label.trans (equal.trans at_label'.symm))

theorem distinctLabels_framed {id : AccountId} (framed : Framed id store store') :
    store'.DistinctLabels ↔ store.DistinctLabels := by
  have same : ∀ other, (store'.account? other).map Account.label = (store.account? other).map Account.label := by
    intro other
    have equal := congrArg (Option.map Account.label) (framed.profiles other)
    rwa [Option.map_map, Option.map_map] at equal
  exact ⟨.congr fun other => (same other).symm, .congr same⟩

theorem DistinctLabels.putAccount_iff (distinct : store.DistinctLabels) :
    (store.putAccount account).DistinctLabels ↔
      ∀ other record, store.account? other = some record → record.label = account.label → other = account.uuid := by
  constructor
  · intro after other record found same
    by_contra differ
    have kept : (store.putAccount account).account? other = some record := by
      rw [account?_putAccount, if_neg differ, found]
    exact differ (after other account.uuid record account kept (by simp) same)
  · intro unused id other record record' found found' same
    rw [account?_putAccount] at found found'
    split at found <;> split at found'
    · next here there => rw [here, there]
    · next here _ =>
      obtain rfl := Option.some.inj found
      rw [here, unused other record' found' same.symm]
    · next _ there =>
      obtain rfl := Option.some.inj found'
      rw [there, unused id record found same]
    · exact distinct id other record record' found found' same

theorem DistinctLabels.removeAccount (distinct : store.DistinctLabels) (removed : AccountId) :
    (store.removeAccount removed).DistinctLabels := by
  intro id other record record' found found' same
  rw [account?_removeAccount] at found found'
  split at found
  · cases found
  · split at found'
    · cases found'
    · exact distinct id other record record' found found' same

end Store

section Run

variable {generate : Nat → TransactionId} {terminal : Terminal Store}

/-- A client of the server does not create an account with the label of another one. -/
def RemoteCall.Distinguishes : RemoteCall → Store → Prop
  | createAccount account, store => validateAccount account = .ok () → store.account? account.uuid = none →
    ∀ other record, store.account? other = some record → record.label ≠ account.label
  | _, _ => True

theorem received_label {store : Store} {id : AccountId} (batch : List Transaction) (other : AccountId) :
    ((receiveTransactions id batch store).2.account? other).map Account.label =
      (store.account? other).map Account.label := by
  rcases receive_cases store id batch with ⟨error, run⟩ | ⟨record, found, _, run⟩
  · rw [run]
  · obtain rfl : record.uuid = id := Store.uuid_of_account? found
    rw [run, Store.account?_received]
    split
    · next here => rw [here, found]; rfl
    · rfl

theorem answer_label {store : Store} {id : AccountId} {record : Account} (call : RemoteCall)
    (found : store.account? id = some record) :
    ((ServerRpcImpl.answer call store).2.account? id).map Account.label = some record.label := by
  cases call with
  | createAccount account =>
    rcases ServerRpcImpl.createAccount_cases account store with ⟨error, run⟩ | ⟨missing, run⟩
    · simp only [ServerRpcImpl.answer, run, found, Option.map_some]
    · have differ : id ≠ account.uuid := by
        intro same
        rw [← same, found] at missing
        cases missing
      simp only [ServerRpcImpl.answer, run, Store.account?_putAccount, if_neg differ, found, Option.map_some]
  | receiveTransactions owner batch =>
    exact (received_label batch id).trans (congrArg (Option.map Account.label) found)
  | getAccountInfo _ => exact congrArg (Option.map Account.label) found
  | getLatestTransaction _ => exact congrArg (Option.map Account.label) found
  | getChildTransactions _ _ => exact congrArg (Option.map Account.label) found

theorem answer_labels_iff (call : RemoteCall) (store : Store) (distinct : store.DistinctLabels) :
    (ServerRpcImpl.answer call store).2.DistinctLabels ↔ call.Distinguishes store := by
  cases call with
  | createAccount account =>
    rcases ServerRpcImpl.createAccount_cases account store with ⟨error, run⟩ | ⟨missing, run⟩
    · have refused : validateAccount account = .ok () → store.account? account.uuid ≠ none := by
        intro valid missing
        rw [ServerRpcImpl.createAccount_accepted valid missing] at run
        cases run
      simp only [ServerRpcImpl.answer, run]
      exact iff_of_true distinct fun valid missing => absurd missing (refused valid)
    · have valid := createAccount_valid (congrArg Prod.fst run)
      simp only [ServerRpcImpl.answer, run]
      refine distinct.putAccount_iff.trans ⟨fun unused _ _ other record found same => ?_,
        fun unused other record found same => ?_⟩
      · have here : other = account.uuid := unused other record found same
        rw [here, missing] at found
        cases found
      · exact absurd same (unused valid missing other record found)
  | receiveTransactions id batch => exact iff_of_true (distinct.congr (received_label batch)) True.intro
  | getAccountInfo _ => exact iff_of_true distinct True.intro
  | getLatestTransaction _ => exact iff_of_true distinct True.intro
  | getChildTransactions _ _ => exact iff_of_true distinct True.intro

theorem serve_labels_iff {calls : List RemoteCall} {store : Store} (distinct : store.DistinctLabels) :
    (ServerRpcImpl.serve calls store).DistinctLabels ↔
      Machine.Throughout (fun call store => (ServerRpcImpl.answer call store).2) RemoteCall.Distinguishes calls store := by
  apply Machine.at_end_iff Store.DistinctLabels answer_labels_iff _ distinct
  intro call store alike after
  refine alike fun id other record record' found found' same => ?_
  rcases Option.map_eq_some_iff.mp (answer_label call found) with ⟨later, kept, label⟩
  rcases Option.map_eq_some_iff.mp (answer_label call found') with ⟨later', kept', label'⟩
  exact after id other later later' kept kept' (label.trans (same.trans label'.symm))

/-- Neither a clone nor a client of the server brings in an account with the label of another one. -/
def CommandInput.Distinguishes (input : CommandInput) (terminal : Terminal Store) : Prop :=
  match input.2 with
  | .clone remoteAddress accountId =>
    let server := input.1.network (cloneAddress remoteAddress)
    ∀ id account, input.1.parseUuid accountId = .ok id → server.connect = .ok () →
      server.replies 0 (.getAccountInfo id) = .ok account →
      ∀ other record, terminal.device.repo.account? other = some record → record.label = account.label →
        other = account.uuid
  | .serve listenAddress =>
    ∀ calls, input.1.clients listenAddress = .ok calls →
      Machine.Throughout (fun call store => (ServerRpcImpl.answer call store).2) RemoteCall.Distinguishes calls
        terminal.device.repo
  | _ => True

theorem runClone_parsed {surroundings : Surroundings} {remoteAddress accountId : String} {id : AccountId}
    (parsed : surroundings.parseUuid accountId = .ok id) :
    ((Command.clone remoteAddress accountId).run generate surroundings : CommandM Store Unit) =
      withRemote (surroundings.network (cloneAddress remoteAddress)) (cloneRemote generate id) := by
  simp only [Command.run, Command.runClone, parsed]

theorem clone_reached {surroundings : Surroundings} {remoteAddress accountId : String} {id : AccountId}
    (parsed : surroundings.parseUuid accountId = .ok id)
    (connected : (surroundings.network (cloneAddress remoteAddress)).connect = .ok ()) :
    (Command.step generate (surroundings, .clone remoteAddress accountId) terminal).device =
      ((cloneRemote generate id terminal.device).run
        (heard (surroundings.network (cloneAddress remoteAddress)).replies) 0).1.2 := by
  have ends := withRemote_ends (surroundings.network (cloneAddress remoteAddress)) (cloneRemote generate id) terminal
  rw [Command.step, runClone_parsed parsed]
  exact Routine.Ends.always (ends.mono (fun _ _ given => given.2) fun _ _ given =>
    given.2.elim (fun unconnected => absurd connected unconnected.1) And.right)

theorem clone_unreached {surroundings : Surroundings} {remoteAddress accountId : String}
    (unreached : ∀ id, surroundings.parseUuid accountId = .ok id →
      (surroundings.network (cloneAddress remoteAddress)).connect ≠ .ok ()) :
    (Command.step generate (surroundings, .clone remoteAddress accountId) terminal).device = terminal.device := by
  cases parsed : surroundings.parseUuid accountId with
  | error text =>
    have run : ((Command.clone remoteAddress accountId).run generate surroundings : CommandM Store Unit) =
        Routine.fail (.invalidUuid text) := by
      simp only [Command.run, Command.runClone, parsed]
    rw [Command.step, run]
    rfl
  | ok id =>
    have ends := withRemote_ends (surroundings.network (cloneAddress remoteAddress)) (cloneRemote generate id) terminal
    rw [Command.step, runClone_parsed parsed]
    exact Routine.Ends.always (ends.mono (fun _ _ given => absurd given.1 (unreached id parsed)) fun _ _ given =>
      given.2.elim And.right fun reached => absurd reached.1 (unreached id parsed))

theorem serve_reached {surroundings : Surroundings} {listenAddress : String} {calls : List RemoteCall}
    (listens : surroundings.clients listenAddress = .ok calls) :
    (Command.step generate (surroundings, .serve listenAddress) terminal).device.repo =
      ServerRpcImpl.serve calls terminal.device.repo := by
  have looked : (lift (surroundings.clients listenAddress) : CommandM Store (List RemoteCall)) terminal =
      (.ok calls, terminal) := onFile_ok listens
  have run : Command.step generate (surroundings, .serve listenAddress) terminal = _ :=
    congrArg Prod.snd (Routine.bind_ok looked)
  rw [run]
  rfl

theorem serve_unreached {surroundings : Surroundings} {listenAddress : String}
    (unreached : ∀ calls, surroundings.clients listenAddress ≠ .ok calls) :
    (Command.step generate (surroundings, .serve listenAddress) terminal).device.repo = terminal.device.repo := by
  rcases run_cases generate (surroundings, .serve listenAddress) terminal with untouched | performed |
    ⟨_, calls, same, listens, _⟩
  · exact untouched.repo
  · rcases performed with ⟨middle, operation, untouched, writes, reached⟩
    cases writes
  · cases same
    exact absurd listens (unreached calls)

theorem cloned_labels_iff {device : Device Store} {id : AccountId} {replies : Nat → (call : RemoteCall) → call.Reply}
    (distinct : device.repo.DistinctLabels) :
    (((cloneRemote generate id device).run (heard replies) 0).1.2).repo.DistinctLabels ↔
      ∀ account, replies 0 (.getAccountInfo id) = .ok account →
        ∀ other record, device.repo.account? other = some record → record.label = account.label →
          other = account.uuid := by
  by_cases told : ∃ account, replies 0 (.getAccountInfo id) = .ok account
  · rcases told with ⟨account, reply⟩
    rw [clone_entered reply, Store.distinctLabels_framed (sync_framed _ _), distinct.putAccount_iff]
    constructor
    · intro unused other reply'
      obtain rfl := Outcome.ok.inj (reply.symm.trans reply')
      exact unused
    · intro unused
      exact unused account reply
  · have silent : ∀ account, replies 0 (.getAccountInfo id) ≠ .ok account := not_exists.mp told
    rw [clone_silent silent]
    exact iff_of_true distinct fun account reply => absurd reply (silent account)

theorem performed_labels {surroundings : Surroundings} {command : Command} {after : Terminal Store}
    (distinct : terminal.device.repo.DistinctLabels)
    (local_ : ∀ remoteAddress accountId, command ≠ .clone remoteAddress accountId)
    (performed : command.Performed generate surroundings terminal after) : after.device.repo.DistinctLabels := by
  rcases performed with ⟨middle, operation, untouched, writes, reached⟩
  rw [reached]
  rw [← untouched.repo] at distinct
  cases writes with
  | @addAccount _ _ _ account _ unused _ labelled =>
    refine distinct.putAccount_iff.mpr ?_
    intro other record found same
    exact absurd (same.trans labelled) (Store.labelled_none unused found)
  | @deleteAccount _ record found =>
    simp only [Operation.apply, onRepo, Store.deleteAccount_some (Store.labelled_stored found).1]
    exact distinct.removeAccount record.uuid
  | @addTransaction _ _ _ _ record _ _ _ tx found =>
    have stored := (Store.labelled_stored found).1
    simp only [Operation.apply, onRepo, Ffi.addTransaction_run tx stored]
    refine Store.DistinctLabels.congr ?_ distinct
    intro other
    rw [Store.account?_putAccount]
    split
    · next same => rw [same, stored]; rfl
    · rfl
  | clone _ => exact absurd rfl (local_ _ _)
  | sync _ => exact (Store.distinctLabels_framed (sync_framed _ _)).mpr distinct

theorem step_labels_iff (input : CommandInput) (terminal : Terminal Store)
    (distinct : terminal.device.repo.DistinctLabels) :
    (Command.step generate input terminal).device.repo.DistinctLabels ↔ input.Distinguishes terminal := by
  rcases input with ⟨surroundings, command⟩
  have others : (∀ remoteAddress accountId, command ≠ .clone remoteAddress accountId) →
      (∀ listenAddress, command ≠ .serve listenAddress) →
      (Command.step generate (surroundings, command) terminal).device.repo.DistinctLabels := by
    intro unremote unserved
    rcases run_cases generate (surroundings, command) terminal with untouched | performed | ⟨_, _, served, _⟩
    · rw [untouched.repo]
      exact distinct
    · exact performed_labels distinct unremote performed
    · exact absurd served (unserved _)
  cases command with
  | clone remoteAddress accountId =>
    by_cases reached : ∃ id, surroundings.parseUuid accountId = .ok id ∧
        (surroundings.network (cloneAddress remoteAddress)).connect = .ok ()
    · rcases reached with ⟨id, parsed, connected⟩
      rw [clone_reached parsed connected, cloned_labels_iff distinct]
      constructor
      · intro unused other account parsed' _ reply
        obtain rfl := Except.ok.inj (parsed.symm.trans parsed')
        exact unused account reply
      · intro unused account reply
        exact unused id account parsed connected reply
    · have unreached : ∀ id, surroundings.parseUuid accountId = .ok id →
          (surroundings.network (cloneAddress remoteAddress)).connect ≠ .ok () :=
        fun id parsed connected => reached ⟨id, parsed, connected⟩
      rw [clone_unreached unreached]
      exact iff_of_true distinct fun id account parsed connected => absurd connected (unreached id parsed)
  | serve listenAddress =>
    by_cases listens : ∃ calls, surroundings.clients listenAddress = .ok calls
    · rcases listens with ⟨calls, listens⟩
      rw [serve_reached listens, serve_labels_iff distinct]
      constructor
      · intro all calls' listens'
        obtain rfl := Outcome.ok.inj (listens.symm.trans listens')
        exact all
      · intro all
        exact all calls listens
    · rw [serve_unreached (not_exists.mp listens)]
      exact iff_of_true distinct fun calls given => absurd ⟨calls, given⟩ listens
  | _ => exact iff_of_true (others (by intro _ _ same; cases same) (by intro _ same; cases same)) True.intro

/-- In every state of a run each account can be named by its label, exactly as long as neither a clone nor a
    client of the server brings in a label that another account has. -/
theorem accounts_addressable_iff (generate : Nat → TransactionId) (inputs : List CommandInput) :
    (∀ before later, inputs = before ++ later →
      (Machine.after (Command.step generate) before (⟨⟨Store.empty, 0⟩, []⟩ : Terminal Store)).device.repo.Addressable) ↔
      Machine.Throughout (Command.step generate) CommandInput.Distinguishes inputs ⟨⟨Store.empty, 0⟩, []⟩ := by
  have start : Store.empty.DistinctLabels := by
    intro id other record record' found
    simp [Store.account?, Store.empty] at found
  simp only [Store.addressable_iff]
  exact Machine.lasts_iff (fun terminal : Terminal Store => terminal.device.repo.DistinctLabels) step_labels_iff start

/-- The command neither names the account by its label nor brings in its id, and no client of the server sends
    transactions for it. -/
def CommandInput.Spares (generate : Nat → TransactionId) (id : AccountId) (label : String) (input : CommandInput)
    (terminal : Terminal Store) : Prop :=
  match input.2 with
  | .addAccount _ chosen _ => ¬ Chosen generate input.1 terminal.device.generated chosen id
  | .deleteAccount name | .addTransaction name _ _ _ | .sync name _ => name ≠ label
  | .clone remoteAddress accountId =>
    ∀ cloned, input.1.parseUuid accountId = .ok cloned → cloned ≠ id ∧
      ∀ account, (input.1.network (cloneAddress remoteAddress)).replies 0 (.getAccountInfo cloned) = .ok account →
        account.uuid ≠ id
  | .serve listenAddress =>
    ∀ calls, input.1.clients listenAddress = .ok calls → ∀ call ∈ calls, ∀ batch, call ≠ .receiveTransactions id batch
  | _ => True

/-- An account that is there is not created again, so that a server changes it only by what it receives. -/
theorem answer_spared {store : Store} {id : AccountId} {record : Account} (stored : store.account? id = some record)
    {call : RemoteCall} (spares : ∀ batch, call ≠ .receiveTransactions id batch) :
    (ServerRpcImpl.answer call store).2.Alike id store := by
  by_cases other : call.account = id
  · cases call with
    | createAccount account =>
      rcases ServerRpcImpl.createAccount_cases account store with ⟨error, run⟩ | ⟨missing, run⟩
      · simp only [ServerRpcImpl.answer, run]
        exact .refl id store
      · rw [show account.uuid = id from other, stored] at missing
        cases missing
    | receiveTransactions owner batch =>
      obtain rfl : owner = id := other
      exact absurd rfl (spares batch)
    | getAccountInfo _ => exact .refl id store
    | getLatestTransaction _ => exact .refl id store
    | getChildTransactions _ _ => exact .refl id store
  · exact ServerRpcImpl.answer_other other

theorem serve_spared {store : Store} {id : AccountId} {record : Account} (stored : store.account? id = some record)
    {calls : List RemoteCall} (spares : ∀ call ∈ calls, ∀ batch, call ≠ .receiveTransactions id batch) :
    (ServerRpcImpl.serve calls store).Alike id store := by
  induction calls generalizing store with
  | nil => exact .refl id store
  | cons call calls ih =>
    have first := answer_spared stored (spares call List.mem_cons_self)
    have kept : (ServerRpcImpl.answer call store).2.account? id = some record := first.account.trans stored
    exact (ih kept fun other later => spares other (List.mem_cons_of_mem call later)).trans first

theorem alike_of_framed {store store' : Store} {id other : AccountId} (framed : Framed other store store')
    (differ : id ≠ other) : store'.Alike id store :=
  ⟨framed.accounts id differ, framed.transactions id differ⟩

theorem performed_spares {surroundings : Surroundings} {command : Command} {after : Terminal Store} {id : AccountId}
    {record : Account} (stored : terminal.device.repo.account? id = some record)
    (spares : CommandInput.Spares generate id record.label (surroundings, command) terminal)
    (performed : command.Performed generate surroundings terminal after) :
    after.device.repo.Alike id terminal.device.repo := by
  rcases performed with ⟨middle, operation, untouched, writes, reached⟩
  rw [reached, ← untouched.repo]
  rw [← untouched.repo] at stored
  have apart : ∀ {name : String} {named : Account}, middle.device.repo.labelled name = some named → name ≠ record.label →
      id ≠ named.uuid := by
    intro name named found differ same
    rcases Store.labelled_stored found with ⟨found', at_label⟩
    obtain rfl := Option.some.inj ((same ▸ stored).symm.trans found')
    exact differ at_label.symm
  cases writes with
  | @addAccount _ _ _ account _ _ chosen =>
    have differ : id ≠ account.uuid := fun same => spares (same ▸ chosen)
    exact ⟨by rw [Operation.apply, onRepo]; exact (Store.account?_putAccount _ _ _).trans (if_neg differ), fun _ => rfl⟩
  | @deleteAccount _ named found =>
    simp only [Operation.apply, onRepo, Store.deleteAccount_some (Store.labelled_stored found).1]
    exact ⟨by rw [Store.account?_removeAccount, if_neg (apart found spares)], fun _ => rfl⟩
  | @addTransaction _ _ _ _ named _ _ _ tx found =>
    have differ := apart found spares
    simp only [Operation.apply, onRepo, Ffi.addTransaction_run tx (Store.labelled_stored found).1]
    refine ⟨?_, fun key => ?_⟩
    · rw [Store.account?_putAccount, if_neg differ]
      rfl
    · exact (Store.transaction?_putTransaction _ _ _ _ _).trans (if_neg fun same => differ same.1)
  | @clone remoteAddress accountId cloned parsed =>
    rcases spares cloned parsed with ⟨differ, unnamed⟩
    by_cases told : ∃ account, (surroundings.network (cloneAddress remoteAddress)).replies 0 (.getAccountInfo cloned) =
        .ok account
    · rcases told with ⟨account, reply⟩
      have other : id ≠ account.profile.uuid := Ne.symm (unnamed account reply)
      have entered : (middle.device.repo.putAccount account.profile).Alike id middle.device.repo :=
        ⟨by rw [Store.account?_putAccount, if_neg other], fun _ => rfl⟩
      rw [Operation.apply, clone_entered reply]
      exact (alike_of_framed (sync_framed _ _) (Ne.symm differ)).trans entered
    · rw [Operation.apply, clone_silent (not_exists.mp told)]
      exact .refl id _
  | sync found => exact alike_of_framed (sync_framed _ _) (apart found spares)

/-- An account is as it was for as long as no command names it, by its label or by its id, and no client of a
    server on the file sends transactions for it. -/
theorem account_spared (generate : Nat → TransactionId) {inputs before later : List CommandInput}
    {start : Terminal Store} {id : AccountId} {record : Account} (stored : start.device.repo.account? id = some record)
    (spares : Machine.Throughout (Command.step generate) (CommandInput.Spares generate id record.label) inputs start)
    (split : inputs = before ++ later) :
    (Machine.after (Command.step generate) before start).device.repo.Alike id start.device.repo := by
  apply Machine.after_keeps (fun terminal : Terminal Store => terminal.device.repo.Alike id start.device.repo)
    _ (.refl id _) spares split
  intro input terminal alike spared
  have stored' : terminal.device.repo.account? id = some record := alike.account.trans stored
  rcases run_cases generate input terminal with untouched | performed | ⟨listenAddress, calls, served, listens, reached⟩
  · rw [untouched.repo]
    exact alike
  · exact (performed_spares stored' spared performed).trans alike
  · rcases input with ⟨surroundings, command⟩
    obtain rfl : command = .serve listenAddress := served
    rw [reached]
    exact (serve_spared stored' (spared calls listens)).trans alike

theorem account_spared_hosting :
    let start : Terminal Store := ⟨⟨Store.empty.putAccount (makeAccount [7]), 0⟩, []⟩
    (Machine.after (Command.step (numbered 0)) (dining ++ hosting) start).device.repo.Alike [7] start.device.repo := by
  intro start
  have stored : start.device.repo.account? [7] = some (makeAccount [7]) := by decide
  apply account_spared (numbered 0) stored _ (List.append_nil _).symm
  refine ⟨?_, ?_, ?_, True.intro⟩
  · intro chosen
    exact absurd (show [7] = numbered 0 0 from chosen) (by decide)
  · show "Trip" ≠ "Account"
    decide
  · intro calls listens call sent batch same
    obtain rfl := Outcome.ok.inj listens
    obtain rfl := List.mem_singleton.mp sent
    exact absurd (RemoteCall.receiveTransactions.inj same).1 (by decide)

end Run

end Flouze
