import Flouze.Commands.Basic
import Flouze.Lib.Ends

namespace Flouze

open Linked Repository CommandM

def Store.labelled (store : Store) (label : String) : Option Account :=
  store.listAccounts.find? fun a => a.label = label

def Chosen (generate : Nat → TransactionId) (surroundings : Surroundings) (count : Nat) (id : Option String)
    (accountId : AccountId) : Prop :=
  match id with
  | some s => surroundings.parseUuid s = .ok accountId
  | none => accountId = generate count

/-- Which operation a command performs on the file, after `count` ids had been drawn before it. -/
inductive Command.Writes (generate : Nat → TransactionId) (surroundings : Surroundings) (count : Nat)
    (device : Device Store) : Command → Operation → Prop
  | addAccount {label : String} {id : Option String} {members : List String} {account : Account} {first : Nat}
      (unused : device.repo.labelled label = none) (chosen : Chosen generate surroundings count id account.uuid)
      (labelled : account.label = label)
      (blank : account.latestTransaction = []) (named : account.members.map Person.name = members)
      (drawn : account.members.map Person.uuid = (List.range members.length).map fun n => generate (first + n))
      (new : count ≤ first) (last : first + members.length = device.generated) :
      Writes generate surroundings count device (.addAccount label id members) (.addAccount account)
  | deleteAccount {label : String} {record : Account} (found : device.repo.labelled label = some record) :
      Writes generate surroundings count device (.deleteAccount label) (.deleteAccount record.uuid)
  | addTransaction {accountName label : String} {amount : UInt32} {payedBy : String} {record : Account}
      {member : PersonId} {n : Nat} {timestamp : UInt64} {tx : Transaction}
      (found : device.repo.labelled accountName = some record)
      (payer : findMemberByName record.members payedBy = some member) (new : count ≤ n) (last : n + 1 = device.generated)
      (clock : surroundings.now = some timestamp)
      (made : addTransactionOf surroundings.draws record member label amount (generate n) timestamp = .ok tx) :
      Writes generate surroundings count device (.addTransaction accountName label amount payedBy)
        (.addTransaction record.uuid tx)
  | clone {remoteAddress accountId : String} {id : AccountId} (parsed : surroundings.parseUuid accountId = .ok id) :
      Writes generate surroundings count device (.clone remoteAddress accountId)
        (.cloneRemote id (surroundings.network (cloneAddress remoteAddress)).replies)
  | sync {accountName remoteAddress : String} {record : Account}
      (found : device.repo.labelled accountName = some record) :
      Writes generate surroundings count device (.sync accountName remoteAddress)
        (.sync record.uuid (surroundings.network (httpAddress remoteAddress)).replies)

structure Terminal.Untouched (before after : Terminal Store) : Prop where
  repo : after.device.repo = before.device.repo
  generated : before.device.generated ≤ after.device.generated

def Command.Performed (generate : Nat → TransactionId) (surroundings : Surroundings) (command : Command)
    (before after : Terminal Store) : Prop :=
  ∃ middle operation, before.Untouched middle ∧
    command.Writes generate surroundings before.device.generated middle.device operation ∧
    after.device = operation.apply generate middle.device

def Command.Served (surroundings : Surroundings) (command : Command) (before after : Terminal Store) : Prop :=
  ∃ listenAddress calls, command = .serve listenAddress ∧ surroundings.clients listenAddress = .ok calls ∧
    after.device = { before.device with repo := ServerRpcImpl.serve calls before.device.repo }

def Calm (error : Option CommandError) : Prop := ∀ known, error = some known → ¬ known.Panics

namespace Terminal.Untouched

variable {before middle after : Terminal Store}

theorem refl (terminal : Terminal Store) : terminal.Untouched terminal := ⟨rfl, Nat.le_refl _⟩

theorem trans (first : before.Untouched middle) (second : middle.Untouched after) : before.Untouched after :=
  ⟨second.repo.trans first.repo, first.generated.trans second.generated⟩

theorem of_device (same : after.device = before.device) : before.Untouched after :=
  ⟨congrArg Device.repo same, Nat.le_of_eq (congrArg Device.generated same).symm⟩

end Terminal.Untouched

section Ends

variable {generate : Nat → TransactionId} {surroundings : Surroundings} {terminal : Terminal Store} {α : Type}

theorem calm_message (text : String) : Calm (some (.message text)) := by
  intro known same panics
  obtain rfl := Option.some.inj same
  exact panics

theorem calm_invalidUuid (text : String) : Calm (some (.invalidUuid text)) := by
  intro known same panics
  obtain rfl := Option.some.inj same
  exact panics

theorem calm_hang : Calm none := fun known same => by cases same

theorem calm_lib (error : ErrorKind) : Calm (some (.lib error)) := by
  intro known same panics
  obtain rfl := Option.some.inj same
  exact panics

theorem onDevice_ends (routine : Routine (Device Store) ErrorKind α) (terminal : Terminal Store) :
    (onDevice routine).Ends terminal
      (fun value after => (routine terminal.device).1 = .ok value ∧
        after = { terminal with device := (routine terminal.device).2 })
      fun error after => Calm error ∧ after = { terminal with device := (routine terminal.device).2 } := by
  have unfolded : onDevice routine terminal =
      (fromLib (routine terminal.device).1, { terminal with device := (routine terminal.device).2 }) := rfl
  cases outcome : (routine terminal.device).1 with
  | ok value =>
    rw [outcome] at unfolded
    exact .of_ok unfolded ⟨rfl, rfl⟩
  | err error =>
    rw [outcome] at unfolded
    exact .of_err unfolded ⟨calm_lib error, rfl⟩
  | hang =>
    rw [outcome] at unfolded
    exact .of_hang unfolded ⟨calm_hang, rfl⟩

theorem look_ends (read : Store → Outcome ErrorKind α) (terminal : Terminal Store) :
    (onFile (Routine.view read)).Ends terminal
      (fun value after => read terminal.device.repo = .ok value ∧ after = terminal)
      fun error after => Calm error ∧ after = terminal :=
  onDevice_ends _ terminal

theorem drawUuid_ends (generate : Nat → TransactionId) (terminal : Terminal Store) :
    (drawUuid generate).Ends terminal
      (fun uuid after => uuid = generate terminal.device.generated ∧
        after = { terminal with device := { terminal.device with generated := terminal.device.generated + 1 } })
      fun _ _ => False :=
  ⟨rfl, rfl⟩

theorem chosenId_ends (id : Option String) (terminal : Terminal Store) :
    (chosenId generate surroundings id).Ends terminal
      (fun uuid after => terminal.Untouched after ∧ Chosen generate surroundings terminal.device.generated id uuid)
      fun error after => Calm error ∧ terminal.Untouched after := by
  unfold chosenId
  split
  · split
    · next parsed => exact .pure ⟨.refl terminal, parsed⟩
    · exact .fail ⟨calm_invalidUuid _, .refl terminal⟩
  · refine (drawUuid_ends generate terminal).mono ?_ fun _ _ never => never.elim
    intro _ _ given
    rcases given with ⟨rfl, rfl⟩
    exact ⟨⟨rfl, Nat.le_succ _⟩, rfl⟩

theorem makeMembers_ends (names : List String) (terminal : Terminal Store) :
    (makeMembers generate names).Ends terminal
      (fun members after => members.map Person.name = names ∧
        members.map Person.uuid =
          (List.range names.length).map (fun n => generate (terminal.device.generated + n)) ∧
        after.device = { terminal.device with generated := terminal.device.generated + names.length })
      fun _ _ => False := by
  induction names generalizing terminal with
  | nil => exact .pure ⟨rfl, rfl, rfl⟩
  | cons name names ih =>
    apply Routine.Ends.bind_total (drawUuid_ends generate terminal)
    intro uuid drawn given
    rcases given with ⟨rfl, rfl⟩
    apply Routine.Ends.bind_total (ih _)
    intro members after given
    rcases given with ⟨named, uuids, at_device⟩
    refine .pure ⟨by rw [List.map_cons, named], ?_, ?_⟩
    · rw [List.map_cons, uuids, List.length_cons, List.range_succ_eq_map, List.map_cons, List.map_map]
      congr 1
      apply List.map_congr_left
      intro n _
      exact congrArg generate (Nat.add_right_comm _ _ _)
    · rw [at_device, List.length_cons]
      exact congrArg (Device.mk _) (Nat.add_right_comm _ _ _)

theorem newAccount_ends (label : String) (id : Option String) (members : List String) (terminal : Terminal Store) :
    (newAccount generate surroundings label id members).Ends terminal
      (fun account after => terminal.Untouched after ∧
        Chosen generate surroundings terminal.device.generated id account.uuid ∧
        account.label = label ∧ account.latestTransaction = [] ∧
        account.members.map Person.name = members ∧ ∃ first, terminal.device.generated ≤ first ∧
          first + members.length = after.device.generated ∧
          account.members.map Person.uuid = (List.range members.length).map fun n => generate (first + n))
      fun error after => Calm error ∧ terminal.Untouched after := by
  apply Routine.Ends.bind (chosenId_ends id terminal)
  intro accountId middle given
  rcases given with ⟨untouched, chosen⟩
  apply Routine.Ends.bind_total (makeMembers_ends members middle)
  intro persons after given
  rcases given with ⟨named, uuids, at_device⟩
  refine .pure ⟨untouched.trans ⟨?_, ?_⟩, chosen, rfl, rfl, named, middle.device.generated, untouched.generated, ?_,
    uuids⟩
  · rw [at_device]
  · rw [at_device]
    exact Nat.le_add_right _ _
  · rw [at_device]

theorem named_ends {label : String} {next : Account → CommandM Store α} {last : α → Terminal Store → Prop}
    {fails : Option CommandError → Terminal Store → Prop}
    (missing : fails (some (.message "No such account in the file")) terminal)
    (found : ∀ account, terminal.device.repo.labelled label = some account → (next account).Ends terminal last fails) :
    (namedAccount label >>= next).Ends terminal last fails := by
  have looked : onFile (Routine.view (findAccountByLabel label)) terminal =
      (.ok (terminal.device.repo.labelled label), terminal) := rfl
  cases stored : terminal.device.repo.labelled label with
  | none =>
    rw [stored] at looked
    have run : namedAccount label terminal = (.err (.message "No such account in the file"), terminal) :=
      Routine.bind_ok looked
    exact .of_err (Routine.bind_err run) missing
  | some account =>
    rw [stored] at looked
    have run : namedAccount label terminal = (.ok account, terminal) := Routine.bind_ok looked
    exact .run_bind run (found account stored)

theorem withRemote_ends (server : Endpoint) (program : SyncM Store Unit) (terminal : Terminal Store) :
    let reached := ((program terminal.device).run (heard server.replies) 0).1.2
    (withRemote server program).Ends terminal (fun _ after => server.connect = .ok () ∧ after.device = reached)
      fun error after => Calm error ∧ ((server.connect ≠ .ok () ∧ after.device = terminal.device) ∨
        (server.connect = .ok () ∧ after.device = reached)) := by
  intro reached
  have connecting : (lift server.connect : CommandM Store Unit).Ends terminal
      (fun _ after => server.connect = .ok () ∧ after = terminal) fun error after => Calm error ∧
        server.connect ≠ .ok () ∧ after = terminal := by
    cases connects : server.connect with
    | ok _ => exact .of_ok rfl ⟨rfl, rfl⟩
    | err error => exact .of_err rfl ⟨calm_lib error, by simp, rfl⟩
    | hang => exact .of_hang rfl ⟨calm_hang, by simp, rfl⟩
  apply Routine.Ends.bind (connecting.mono (fun _ _ given => given) fun _ _ given =>
    ⟨given.1, .inl ⟨given.2.1, congrArg Terminal.device given.2.2⟩⟩)
  intro _ middle given
  rcases given with ⟨connected, same⟩
  subst same
  apply Routine.Ends.bind (Routine.Ends.mono
    (onDevice_ends (fun device => ((program device).run (heard server.replies) 0).1) middle)
    (fun _ _ => And.right) fun _ _ given => ⟨given.1, .inr ⟨connected, congrArg Terminal.device given.2⟩⟩)
  intro _ after same
  subst same
  exact Routine.Ends.mono (look_ends (fun _ => server.shutdown) _)
    (fun _ _ given => ⟨connected, congrArg Terminal.device given.2⟩)
    fun _ _ given => ⟨given.1, .inr ⟨connected, congrArg Terminal.device given.2⟩⟩

theorem find_run (label : String) (terminal : Terminal Store) :
    onFile (Routine.view (findAccountByLabel label)) terminal =
      (.ok (terminal.device.repo.labelled label), terminal) := rfl

theorem onFile_ok {routine : Routine Store ErrorKind α} {value : α}
    (returns : (routine terminal.device.repo).1 = .ok value) :
    onFile routine terminal = (.ok value, { terminal with device := (onRepo routine terminal.device).2 }) := by
  have unfolded : onFile routine terminal =
      (fromLib (routine terminal.device.repo).1, { terminal with device := (onRepo routine terminal.device).2 }) := rfl
  rw [unfolded, returns]
  rfl

theorem Store.labelled_stored {store : Store} {label : String} {record : Account}
    (found : store.labelled label = some record) : store.account? record.uuid = some record ∧ record.label = label := by
  have listed : record ∈ store.listAccounts := List.mem_of_find?_eq_some found
  exact ⟨(store.mem_listAccounts record).mp listed, by simpa using List.find?_some found⟩

end Ends

section Enter

variable {draws : Draws} {record : Account} {member : PersonId} {payedBy label : String} {amount : UInt32}
variable {uuid : TransactionId} {timestamp : UInt64} {tx : Transaction}

theorem findMemberByName_member {members : List Person} (found : findMemberByName members payedBy = some member) :
    ∃ m ∈ members, m.name = payedBy ∧ m.uuid = member := by
  rcases Option.map_eq_some_iff.mp found with ⟨m, search, same⟩
  exact ⟨m, List.mem_of_find?_eq_some search, by simpa using List.find?_some search, same⟩

theorem addTransactionOf_returns (among : ∃ m ∈ record.members, m.name = payedBy ∧ m.uuid = member)
    (small : record.members.length < 2 ^ 64) :
    ∃ tx, addTransactionOf draws record member label amount uuid timestamp = .ok tx := by
  rcases among with ⟨m, inside, _⟩
  have nonempty : 0 < record.members.length := List.length_pos_of_mem inside
  have positive : 0 < UInt64.ofNat record.members.length := by
    rw [UInt64.lt_iff_toNat_lt, UInt64.toNat_ofNat', Nat.mod_eq_of_lt small]
    exact nonempty
  exact ⟨_, by rw [addTransactionOf, splitAmount_run positive]; rfl⟩

end Enter

section Run

variable {generate : Nat → TransactionId} {surroundings : Surroundings}

open Command

theorem addAccount_ends (label : String) (id : Option String) (members : List String) (terminal : Terminal Store) :
    (runAddAccount generate surroundings label id members).Ends terminal
      (fun _ after => (addAccount label id members).Performed generate surroundings terminal after)
      fun error after => Calm error ∧ terminal.Untouched after := by
  unfold runAddAccount
  split
  · exact .fail ⟨calm_message _, .refl terminal⟩
  · apply Routine.Ends.run_bind (find_run label terminal)
    split
    · exact .fail ⟨calm_message _, .refl terminal⟩
    · next free =>
      have unused : terminal.device.repo.labelled label = none := by simpa using free
      apply Routine.Ends.bind (newAccount_ends label id members terminal)
      intro account middle given
      rcases given with ⟨untouched, chosen, labelled, blank, named, first, new, last, drawn⟩
      refine .of_ok (onFile_ok rfl) ⟨middle, .addAccount account, untouched, ?_, rfl⟩
      exact .addAccount (untouched.repo ▸ unused) chosen labelled blank named drawn new last

theorem deleteAccount_ends (label : String) (terminal : Terminal Store) :
    (runDeleteAccount label).Ends terminal
      (fun _ after => (deleteAccount label).Performed generate surroundings terminal after)
      fun error after => Calm error ∧ terminal.Untouched after := by
  apply named_ends ⟨calm_message _, .refl terminal⟩
  intro account found
  have stored := (Store.labelled_stored found).1
  have returns : (Repository.deleteAccount account.uuid terminal.device.repo).1 = .ok () := by
    rw [Store.deleteAccount_some stored]
  exact .of_ok (onFile_ok returns) ⟨terminal, _, .refl terminal, .deleteAccount found, rfl⟩

theorem addTransaction_ends (accountName label : String) (amount : UInt32) (payedBy : String)
    (terminal : Terminal Store) :
    (runAddTransaction generate surroundings accountName label amount payedBy).Ends terminal
      (fun _ after => (addTransaction accountName label amount payedBy).Performed generate surroundings terminal after)
      fun error after => terminal.Untouched after ∧ ∀ known, error = some known → known.Panics →
        surroundings.now = none ∨
          ∃ record, terminal.device.repo.labelled accountName = some record ∧ 2 ^ 64 ≤ record.members.length := by
  have calm : ∀ {error after}, Calm error ∧ terminal.Untouched after → terminal.Untouched after ∧
      ∀ known, error = some known → known.Panics → surroundings.now = none ∨ ∃ record,
        terminal.device.repo.labelled accountName = some record ∧ 2 ^ 64 ≤ record.members.length :=
    fun given => ⟨given.2, fun known same panics => absurd panics (given.1 known same)⟩
  apply named_ends (calm ⟨calm_message _, .refl terminal⟩)
  intro record found
  cases payer : findMemberByName record.members payedBy with
  | none => exact .fail (calm ⟨calm_message _, .refl terminal⟩)
  | some member =>
    apply Routine.Ends.bind_total (drawUuid_ends generate terminal)
    intro uuid drawn given
    rcases given with ⟨rfl, rfl⟩
    let drawn : Terminal Store :=
      { terminal with device := { terminal.device with generated := terminal.device.generated + 1 } }
    have untouched : terminal.Untouched drawn := ⟨rfl, Nat.le_succ _⟩
    cases made : addTransactionOf surroundings.draws record member label amount
        (generate terminal.device.generated) (surroundings.now.getD 0) with
    | err crash =>
      refine .fail ⟨untouched, fun _ _ _ => .inr ⟨record, found, ?_⟩⟩
      by_contra small
      rcases addTransactionOf_returns (findMemberByName_member payer) (not_le.mp small) with ⟨tx, returns⟩
      rw [made] at returns
      cases returns
    | hang => exact .of_hang rfl ⟨untouched, fun _ same => by cases same⟩
    | ok tx => cases clock : surroundings.now with
    | none => exact .fail ⟨untouched, fun _ _ _ => .inl rfl⟩
    | some timestamp =>
      rw [clock] at made
      have stored := (Store.labelled_stored found).1
      have apart : (Repository.addTransaction record.uuid tx : Routine Store ErrorKind Unit) drawn.device.repo =
          (.ok (), drawn.device.repo.putTransaction record.uuid tx) := rfl
      apply Routine.Ends.run_bind (onFile_ok (congrArg Prod.fst apart))
      have kept : (terminal.device.repo.putTransaction record.uuid tx).account? record.uuid = some record := stored
      have latest : Repository.setLatestTransaction record.uuid tx.uuid
          (terminal.device.repo.putTransaction record.uuid tx) = (.ok (), _) := Store.setLatestTransaction_some kept
      exact .of_ok (onFile_ok (congrArg Prod.fst latest)) ⟨drawn, _, untouched, 
        .addTransaction found payer (Nat.le_refl _) rfl clock made, rfl⟩

theorem printAll_run {α : Type} (line : α → String) (items : List α) (terminal : Terminal Store) :
    (items.forM fun item => (println (line item) : CommandM Store Unit)) terminal =
      (.ok (), { terminal with printed := terminal.printed ++ items.map line }) := by
  induction items generalizing terminal with
  | nil =>
    rw [List.map_nil, List.append_nil]
    rfl
  | cons item items ih =>
    have first : println (line item) terminal =
        (.ok (), { terminal with printed := terminal.printed ++ [line item] }) := rfl
    refine (Routine.bind_ok first).trans ((ih _).trans ?_)
    rw [List.map_cons, List.append_assoc]
    rfl

theorem listAccounts_ends (terminal : Terminal Store) :
    runListAccounts.Ends terminal (fun _ after => terminal.Untouched after)
      fun error after => Calm error ∧ terminal.Untouched after := by
  apply Routine.Ends.run_bind (onFile_ok rfl)
  exact .of_ok (printAll_run _ _ _) ⟨rfl, Nat.le_refl _⟩

theorem printChain_ends (members : List Person) (fuel : Nat) (chain : TransactionChain) (terminal : Terminal Store) :
    (printChain members fuel chain).Ends terminal (fun _ after => after.device = terminal.device)
      fun error after => Calm error ∧ after.device = terminal.device := by
  induction fuel generalizing chain terminal with
  | zero => exact .of_hang rfl ⟨calm_hang, rfl⟩
  | succ fuel ih =>
    cases step : chain.next terminal.device.repo with
    | none =>
      have run : printChain members (fuel + 1) chain terminal = (.ok (), terminal) := by simp only [printChain, step]
      exact .of_ok run rfl
    | some given =>
      rcases given with ⟨item, rest⟩
      cases item with
      | ok tx =>
        have unfolded : printChain members (fuel + 1) chain terminal =
            printChain members fuel rest
              { terminal with printed := terminal.printed ++ [transactionLine members tx] } := by
          simp only [printChain, step]
          exact Routine.bind_ok rfl
        unfold Routine.Ends
        rw [unfolded]
        exact ih rest _
      | err error =>
        exact .of_err (by simp only [printChain, step]) ⟨calm_message "Error while fetching transactions", rfl⟩
      | hang => exact .of_hang (by simp only [printChain, step]) ⟨calm_hang, rfl⟩

theorem listTransactions_ends (accountName : String) (terminal : Terminal Store) :
    (runListTransactions accountName).Ends terminal (fun _ after => terminal.Untouched after)
      fun error after => Calm error ∧ terminal.Untouched after := by
  apply named_ends ⟨calm_message _, .refl terminal⟩
  intro account _
  apply Routine.Ends.run_bind (onFile_ok rfl)
  exact Routine.Ends.mono (printChain_ends _ _ _ _) (fun _ _ same => .of_device same)
    fun _ _ given => ⟨given.1, .of_device given.2⟩

theorem balance_ends (accountName : String) (terminal : Terminal Store) :
    (runBalance surroundings accountName).Ends terminal (fun _ after => terminal.Untouched after)
      fun error after => Calm error ∧ terminal.Untouched after := by
  apply named_ends ⟨calm_message _, .refl terminal⟩
  intro account _
  apply Routine.Ends.bind (Routine.Ends.mono (look_ends (fun repo => getBalance repo account) terminal)
    (fun _ _ => And.right)
    fun _ _ given => ⟨given.1, given.2 ▸ .refl terminal⟩)
  intro balance after same
  subst same
  exact .of_ok (printAll_run _ _ _) ⟨rfl, Nat.le_refl _⟩

theorem settle_ends (accountName : String) (terminal : Terminal Store) :
    (runSettle surroundings accountName).Ends terminal (fun _ after => terminal.Untouched after)
      fun error after => terminal.Untouched after ∧ ∀ known, error = some known → known.Panics →
        ∃ record balance, terminal.device.repo.labelled accountName = some record ∧
          getBalance terminal.device.repo record = .ok balance ∧
          ∀ transfers, getTransfers surroundings.order balance ≠ .ok transfers := by
  apply named_ends ⟨.refl terminal, fun known same panics => absurd panics (calm_message _ known same)⟩
  intro record found
  apply Routine.Ends.bind (Routine.Ends.mono (look_ends (fun repo => getBalance repo record) terminal)
    (fun _ _ given => given)
    fun _ _ given => ⟨given.2 ▸ .refl terminal, fun known same panics => absurd panics (given.1 known same)⟩)
  intro balance after given
  rcases given with ⟨returns, same⟩
  subst same
  cases settled : getTransfers surroundings.order balance with
  | ok transfers => exact .of_ok (printAll_run _ _ _) ⟨rfl, Nat.le_refl _⟩
  | err panic =>
    refine .fail ⟨.refl after, fun _ _ _ => ⟨record, balance, found, returns, ?_⟩⟩
    intro transfers paid
    rw [settled] at paid
    cases paid
  | hang => exact .of_hang rfl ⟨.refl after, fun _ same => by cases same⟩

theorem serve_ends (listenAddress : String) (terminal : Terminal Store) :
    (runServe surroundings listenAddress).Ends terminal (fun _ _ => False)
      fun error after => Calm error ∧ (after = terminal ∨
        (serve listenAddress).Served surroundings terminal after) := by
  apply Routine.Ends.bind (Routine.Ends.mono (look_ends (fun _ => surroundings.clients listenAddress) terminal)
    (fun _ _ given => given) fun _ _ given => ⟨given.1, .inl given.2⟩)
  intro calls _ given
  rcases given with ⟨listens, rfl⟩
  exact .of_hang rfl ⟨calm_hang, .inr ⟨listenAddress, calls, rfl, listens, rfl⟩⟩

theorem addRemoteAccount_ends (remoteAddress label : String) (id : Option String) (members : List String)
    (terminal : Terminal Store) :
    (runAddRemoteAccount generate surroundings remoteAddress label id members).Ends terminal
      (fun _ after => terminal.Untouched after) fun error after => Calm error ∧ terminal.Untouched after := by
  unfold runAddRemoteAccount
  split
  · exact .fail ⟨calm_message _, .refl terminal⟩
  · split
    · exact .fail ⟨calm_message _, .refl terminal⟩
    · apply Routine.Ends.bind (newAccount_ends label id members terminal)
      intro account middle given
      have untouched := given.1
      have kept : ∀ {after : Terminal Store}, after.device = middle.device → terminal.Untouched after :=
        fun same => untouched.trans (.of_device same)
      apply Routine.Ends.mono (withRemote_ends _ (remote (.createAccount account)) middle)
      · intro _ after given
        exact kept given.2
      · intro _ after given
        exact ⟨given.1, given.2.elim (fun unconnected => kept unconnected.2) fun reached => kept reached.2⟩

theorem clone_ends (remoteAddress accountId : String) (terminal : Terminal Store) :
    (runClone generate surroundings remoteAddress accountId).Ends terminal
      (fun _ after => (clone remoteAddress accountId).Performed generate surroundings terminal after)
      fun error after => Calm error ∧ (terminal.Untouched after ∨
        (clone remoteAddress accountId).Performed generate surroundings terminal after) := by
  unfold runClone
  split
  · exact .fail ⟨calm_invalidUuid _, .inl (.refl terminal)⟩
  · next id parsed =>
    have performed : ∀ after : Terminal Store, after.device = ((cloneRemote generate id terminal.device).run
        (heard (surroundings.network (cloneAddress remoteAddress)).replies) 0).1.2 →
          (clone remoteAddress accountId).Performed generate surroundings terminal after :=
      fun after same => ⟨terminal, _, .refl terminal, .clone parsed, same⟩
    apply Routine.Ends.mono (withRemote_ends _ _ terminal)
    · intro _ after given
      exact performed after given.2
    · intro _ after given
      refine ⟨given.1, given.2.imp (fun unconnected => ?_) fun reached => performed after reached.2⟩
      exact Terminal.Untouched.of_device unconnected.2

theorem sync_ends (accountName remoteAddress : String) (terminal : Terminal Store) :
    (runSync generate surroundings accountName remoteAddress).Ends terminal
      (fun _ after => (Command.sync accountName remoteAddress).Performed generate surroundings terminal after)
      fun error after => Calm error ∧ (terminal.Untouched after ∨
        (Command.sync accountName remoteAddress).Performed generate surroundings terminal after) := by
  apply named_ends ⟨calm_message _, .inl (.refl terminal)⟩
  intro record found
  have performed : ∀ after : Terminal Store, after.device = ((Flouze.sync generate record.uuid terminal.device).run
      (heard (surroundings.network (httpAddress remoteAddress)).replies) 0).1.2 →
        (Command.sync accountName remoteAddress).Performed generate surroundings terminal after :=
    fun after same => ⟨terminal, _, .refl terminal, .sync found, same⟩
  apply Routine.Ends.mono (withRemote_ends _ _ terminal)
  · intro _ after given
    exact performed after given.2
  · intro _ after given
    refine ⟨given.1, given.2.imp (fun unconnected => ?_) fun reached => performed after reached.2⟩
    exact Terminal.Untouched.of_device unconnected.2

end Run

end Flouze
