import Std.Data.TreeMap.Basic
import Flouze.Cli
import Flouze.Repository.Transfers
import Flouze.Sync.Operations

namespace Flouze

open Linked Repository

inductive CommandError where
  | lib (error : ErrorKind)
  | message (text : String)
  | invalidUuid (text : String)
  | crash (crash : Crash)
  | panic (panic : Panic)
  /-- `duration_since(UNIX_EPOCH).unwrap()` -/
  | clock

def CommandError.Panics : CommandError → Prop
  | lib _ | message _ | invalidUuid _ => False
  | crash _ | panic _ | clock => True

structure Endpoint where
  connect : Outcome ErrorKind Unit
  replies : Nat → (call : RemoteCall) → call.Reply
  shutdown : Outcome ErrorKind Unit

/-- What a command does not choose itself. -/
structure Surroundings where
  parseUuid : String → Except String AccountId
  network : String → Endpoint
  /-- The calls of clients that a server carries out before it is stopped, if it can listen on the address. -/
  clients : (listenAddress : String) → Outcome ErrorKind (List RemoteCall)
  draws : Draws
  /-- Nothing on a clock that is before the epoch. -/
  now : Option UInt64
  order : IterationOrder

inductive Command where
  | addAccount (label : String) (id : Option String) (members : List String)
  | listAccounts
  | deleteAccount (label : String)
  | addTransaction (accountName label : String) (amount : UInt32) (payedBy : String)
  | listTransactions (accountName : String)
  | serve (listenAddress : String)
  | clone (remoteAddress accountId : String)
  | sync (accountName remoteAddress : String)
  | balance (accountName : String)
  | settle (accountName : String)
  | addRemoteAccount (remoteAddress label : String) (id : Option String) (members : List String)

/-- The file that the commands work on, and the lines that they have printed. -/
structure Terminal (σ : Type) where
  device : Device σ
  printed : List String

abbrev CommandM (σ α : Type) := Routine (Terminal σ) CommandError α

def findAccountByLabel {σ : Type} [Repository σ] (label : String) (repo : σ) :
    Outcome ErrorKind (Option Account) := do
  let accounts ← listAccounts repo
  pure (accounts.find? fun a => a.label = label)

def findMemberByName (members : List Person) (name : String) : Option PersonId :=
  (members.find? fun m => m.name = name).map Person.uuid

/-- A hash map of the members' names: of two with the same id, the last stays. -/
def personName (members : List Person) (id : PersonId) : Option String :=
  (members.reverse.find? fun p => p.uuid = id).map Person.name

def hexDigit (n : Nat) : Char := if n < 10 then Char.ofNat (48 + n) else Char.ofNat (87 + n)

def idAsHex (id : AccountId) : String :=
  if id.isEmpty then "<null>"
  else String.ofList (id.flatMap fun byte => [hexDigit (byte.toNat / 16), hexDigit (byte.toNat % 16)])

def httpAddress (remoteAddress : String) : String := "http://" ++ remoteAddress

/-- `clone` takes an address with its scheme as well. -/
def cloneAddress (remoteAddress : String) : String :=
  if remoteAddress.startsWith "http" then remoteAddress else httpAddress remoteAddress

/-- A tree map by name: of two amounts with the same name, the last stays. -/
def namedBalance (members : List Person) (entries : List (Σ _ : PersonId, Int64)) : List (String × Int64) :=
  (Std.TreeMap.ofList (entries.map fun entry => ((personName members entry.1).getD "??", entry.2))).toList

def transactionLine (members : List Person) (tx : Transaction) : String :=
  let payedBy := match tx.payedBy with
    | [] => "noone?"
    | [payer] => (personName members payer.person).getD "someone unknown"
    | _ => "many people"
  tx.label ++ ": " ++ toString tx.amount ++ " (payed by " ++ payedBy ++ ")"

def transferLine (members : List Person) (transfer : Transfer) : String :=
  (personName members transfer.debitor).getD "??" ++ " should transfer " ++ toString transfer.amount.toInt ++
    " to " ++ (personName members transfer.creditor).getD "??"

namespace CommandM

variable {σ α : Type}

def println (line : String) : CommandM σ Unit :=
  fun terminal => (.ok (), { terminal with printed := terminal.printed ++ [line] })

def fromLib : Outcome ErrorKind α → Outcome CommandError α
  | .ok value => .ok value
  | .err error => .err (.lib error)
  | .hang => .hang

def onDevice (routine : Routine (Device σ) ErrorKind α) : CommandM σ α := fun terminal =>
  (fromLib (routine terminal.device).1, { terminal with device := (routine terminal.device).2 })

def onFile (routine : Routine σ ErrorKind α) : CommandM σ α := onDevice (onRepo routine)

def lift (outcome : Outcome ErrorKind α) : CommandM σ α := onFile (Routine.view fun _ => outcome)

def drawUuid (generate : Nat → TransactionId) : CommandM σ (List UInt8) :=
  onDevice (generateTransactionId generate)

end CommandM

open CommandM

section Commands

variable {σ : Type} [Repository σ] (generate : Nat → TransactionId) (surroundings : Surroundings)

def namedAccount (label : String) : CommandM σ Account := do
  let account ← onFile (Routine.view (findAccountByLabel label))
  match account with
  | none => Routine.fail (.message "No such account in the file")
  | some account => pure account

def chosenId : Option String → CommandM σ AccountId
  | some s => match surroundings.parseUuid s with
    | .ok uuid => pure uuid
    | .error text => Routine.fail (.invalidUuid text)
  | none => drawUuid generate

def makeMembers : List String → CommandM σ (List Person)
  | [] => pure []
  | name :: names => do
    let uuid ← drawUuid generate
    let members ← makeMembers names
    pure (⟨uuid, name⟩ :: members)

/-- The account that `add-account` and `add-remote-account` make. -/
def newAccount (label : String) (id : Option String) (members : List String) : CommandM σ Account := do
  let accountId ← chosenId generate surroundings id
  let members ← makeMembers generate members
  pure ⟨accountId, label, [], [], members⟩

/-- `sync::sync` and `sync::clone_remote` against a server, between connecting and shutting down. -/
def withRemote (server : Endpoint) (program : SyncM σ Unit) : CommandM σ Unit := do
  lift server.connect
  onDevice fun device => ((program device).run (heard server.replies) 0).1
  lift server.shutdown

/-- `for tx in get_transaction_chain(..)`: what precedes a transaction that cannot be read is printed. -/
def printChain (members : List Person) : Nat → TransactionChain → CommandM σ Unit
  | 0, _ => fun terminal => (.hang, terminal)
  | fuel + 1, chain => fun terminal => match chain.next terminal.device.repo with
    | none => (.ok (), terminal)
    | some (.ok tx, chain) =>
      (println (transactionLine members tx) >>= fun _ => printChain members fuel chain) terminal
    | some (.err _, _) => (.err (.message "Error while fetching transactions"), terminal)
    | some (.hang, _) => (.hang, terminal)

namespace Command

def runAddAccount (label : String) (id : Option String) (members : List String) : CommandM σ Unit := do
  if members.isEmpty then
    Routine.fail (.message "We need at least one member in the account")
  else
    let existing ← onFile (Routine.view (findAccountByLabel label))
    if existing.isSome then
      Routine.fail (.message "An account with this name already exists")
    else
      let account ← newAccount generate surroundings label id members
      onFile (Repository.addAccount account)

def runListAccounts : CommandM σ Unit := do
  let accounts ← onFile (Routine.view Repository.listAccounts)
  accounts.forM fun account =>
    println (account.label ++ " (members: " ++ String.intercalate ", " (account.members.map Person.name) ++
      ") - " ++ idAsHex account.uuid)

def runDeleteAccount (label : String) : CommandM σ Unit := do
  let account ← namedAccount label
  onFile (Repository.deleteAccount account.uuid)

def runAddTransaction (accountName label : String) (amount : UInt32) (payedBy : String) : CommandM σ Unit := do
  let account ← namedAccount accountName
  match findMemberByName account.members payedBy with
  | none => Routine.fail (.message "Couldn't find a member with this name in the account")
  | some member =>
    -- an id that is drawn before a panic is never seen
    let uuid ← drawUuid generate
    match addTransactionOf surroundings.draws account member label amount uuid (surroundings.now.getD 0),
        surroundings.now with
    | .err crash, _ => Routine.fail (.crash crash)
    | .hang, _ => fun terminal => (.hang, terminal)
    -- the clock is read once the amount is split
    | .ok _, none => Routine.fail .clock
    | .ok tx, some _ =>
      onFile (Repository.addTransaction account.uuid tx)
      onFile (Repository.setLatestTransaction account.uuid tx.uuid)

def runListTransactions (accountName : String) : CommandM σ Unit := do
  let account ← namedAccount accountName
  let count ← onFile (Routine.view fun repo => .ok (transactionCount repo))
  printChain account.members (count + 1) (getTransactionChain account)

/-- `wait` does not return: the server answers calls until it is stopped. -/
def runServe (listenAddress : String) : CommandM σ Unit := do
  let calls ← lift (surroundings.clients listenAddress)
  onFile fun repo => (.hang, Machine.after (fun call repo => (ServerRpcImpl.answer call repo).2) calls repo)

def runClone (remoteAddress accountId : String) : CommandM σ Unit :=
  match surroundings.parseUuid accountId with
  | .error text => Routine.fail (.invalidUuid text)
  | .ok id => withRemote (surroundings.network (cloneAddress remoteAddress)) (cloneRemote generate id)

def runSync (accountName remoteAddress : String) : CommandM σ Unit := do
  let account ← namedAccount accountName
  withRemote (surroundings.network (httpAddress remoteAddress)) (Flouze.sync generate account.uuid)

def runBalance (accountName : String) : CommandM σ Unit := do
  let account ← namedAccount accountName
  let balance ← onFile (Routine.view fun repo => getBalance repo account)
  (namedBalance account.members (surroundings.order.entries [] balance)).forM fun entry =>
    println (entry.1 ++ ": " ++ toString entry.2.toInt)

def runSettle (accountName : String) : CommandM σ Unit := do
  let account ← namedAccount accountName
  let balance ← onFile (Routine.view fun repo => getBalance repo account)
  match getTransfers surroundings.order balance with
  | .err panic => Routine.fail (.panic panic)
  | .hang => fun terminal => (.hang, terminal)
  | .ok transfers => transfers.forM fun transfer => println (transferLine account.members transfer)

def runAddRemoteAccount (remoteAddress label : String) (id : Option String) (members : List String) :
    CommandM σ Unit := do
  if remoteAddress.isEmpty then
    Routine.fail (.message "No remote address specified")
  else if members.isEmpty then
    Routine.fail (.message "We need at least one member in the account")
  else
    let account ← newAccount generate surroundings label id members
    let server := surroundings.network (httpAddress remoteAddress)
    withRemote server (remote (.createAccount account))

def run : Command → CommandM σ Unit
  | addAccount label id members => runAddAccount generate surroundings label id members
  | listAccounts => runListAccounts
  | deleteAccount label => runDeleteAccount label
  | addTransaction accountName label amount payedBy =>
    runAddTransaction generate surroundings accountName label amount payedBy
  | listTransactions accountName => runListTransactions accountName
  | serve listenAddress => runServe surroundings listenAddress
  | clone remoteAddress accountId => runClone generate surroundings remoteAddress accountId
  | sync accountName remoteAddress => runSync generate surroundings accountName remoteAddress
  | balance accountName => runBalance surroundings accountName
  | settle accountName => runSettle surroundings accountName
  | addRemoteAccount remoteAddress label id members =>
    runAddRemoteAccount generate surroundings remoteAddress label id members

end Command

abbrev CommandInput := Surroundings × Command

def Command.step (input : CommandInput) (terminal : Terminal σ) : Terminal σ :=
  (input.2.run generate input.1 terminal).2

end Commands

end Flouze
