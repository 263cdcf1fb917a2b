import Flouze.Commands.Basic
import Flouze.Ffi
import Flouze.Repository.Sled

namespace Flouze

open Repository

/-- Kinds without a text of their own are displayed by their name. -/
def ErrorKind.display : ErrorKind → String
  | noSuchAccount _ => "NoSuchAccount"
  | noSuchTransaction id => "No such transaction: " ++ idAsHex id
  | storage text => "Storage error: " ++ text
  | invalidEncoding text => "Invalid Protobuf data: " ++ text
  | mustRebase => "MustRebase"
  | inconsistentChain => "InconsistentChain"
  | inconsistentServerResponse => "InconsistentServerResponse"
  | duplicateTransactionId _ => "DuplicateTransactionId"
  | jsonRpcClientError text => "Error in the RPC client: " ++ text

namespace Bindings

/-! The native functions behind the application: what goes in and comes out are bytes. -/

/-- `Balance.Entry` -/
structure Entry where
  person : PersonId
  balance : Int64
deriving DecidableEq

/-- How a message is written on one side and read on the other. What is read may not be a message. -/
structure Wire (α : Type) where
  encode : α → Bytes
  decode : Bytes → Except String α

def Wire.Inverts {α : Type} (wire : Wire α) : Prop := ∀ value, wire.decode (wire.encode value) = .ok value

/-- The messages that cross: written by the application and read by the native code, or the other way round. -/
structure Messages where
  account : Wire Account
  transaction : Wire Transaction
  balance : Wire (List Entry)
  accountList : Wire (List Account)
  transactionList : Wire (List Transaction)
  accountBalance : Wire (List Entry)
  transfers : Wire (List Transfer)

structure Messages.Inverts (messages : Messages) : Prop where
  account : messages.account.Inverts
  transaction : messages.transaction.Inverts
  balance : messages.balance.Inverts
  accountList : messages.accountList.Inverts
  transactionList : messages.transactionList.Inverts
  accountBalance : messages.accountBalance.Inverts
  transfers : messages.transfers.Inverts

inductive FFIError where
  | text (text : String)
  | panic (panic : Panic)

variable {α : Type}

def fromLib : Outcome ErrorKind α → Outcome FFIError α
  | .ok value => .ok value
  | .err error => .err (.text error.display)
  | .hang => .hang

def decoding : Except String α → Outcome FFIError α
  | .ok value => .ok value
  | .error text => .err (.text text)

section Functions

variable {σ : Type} [Repository σ] (messages : Messages) (order : IterationOrder)

def native (routine : Routine σ ErrorKind α) : Routine σ FFIError α := fun repo =>
  (fromLib (routine repo).1, (routine repo).2)

def addAccount (accountData : Bytes) : Routine σ FFIError Unit := do
  let account ← Routine.view fun _ => decoding (messages.account.decode accountData)
  native (Repository.addAccount account)

def deleteAccount (accountId : Bytes) : Routine σ FFIError Unit := native (Repository.deleteAccount accountId)

def listAccounts : Routine σ FFIError Bytes := do
  let accounts ← native (Routine.view Repository.listAccounts)
  pure (messages.accountList.encode accounts)

def listTransactions (accountId : Bytes) : Routine σ FFIError Bytes := do
  let transactions ← native (Routine.view (Ffi.listTransactions accountId))
  pure (messages.transactionList.encode transactions)

def addTransaction (accountId transactionData : Bytes) : Routine σ FFIError Unit := do
  let transaction ← Routine.view fun _ => decoding (messages.transaction.decode transactionData)
  native (Ffi.addTransaction accountId transaction)

def balanceEntries (balance : Balance) : List Entry := (order.entries [] balance).map fun entry => ⟨entry.1, entry.2⟩

def accountBalance (accountId : AccountId) (repo : σ) : Outcome ErrorKind Balance := do
  let account ← getAccount accountId repo
  Flouze.getBalance repo account

def getBalance (accountId : Bytes) : Routine σ FFIError Bytes := do
  let balance ← native (Routine.view (accountBalance accountId))
  pure (messages.accountBalance.encode (balanceEntries order balance))

def repositoryFlush : Routine σ FFIError Unit := native Repository.flush

/-- `collect` into a hash map: of two entries for the same person, the last stays. -/
def balanceHash (entries : List Entry) : Balance :=
  entries.foldl (fun balance entry => balance.insert entry.person entry.balance) ∅

def transfersOf (balance : Balance) : Outcome FFIError (List Transfer) :=
  match Flouze.getTransfers order balance with
  | .ok transfers => .ok transfers
  | .err panic => .err (.panic panic)
  | .hang => .hang

def getTransfers (balanceData : Bytes) : Outcome FFIError Bytes := do
  let entries ← decoding (messages.balance.decode balanceData)
  let transfers ← transfersOf order (balanceHash entries)
  pure (messages.transfers.encode transfers)

/-- An empty vector is handed out as a null pointer. -/
def vecToC (vec : Bytes) : Option Bytes := if vec.isEmpty then none else some vec

/-- `withOutCBytes(..).bytes ?? Uint8List(0)` -/
def withOutCBytes (data : Option Bytes) : Bytes := data.getD []

end Functions

/-! `SledRepository` in Dart: what it asks of the native code through its proxy, and what it makes of it. -/

inductive SledRepositoryCall where
  | listAccounts
  | addAccount (account : Bytes)
  | deleteAccount (accountId : Bytes)
  | listTransactions (accountId : Bytes)
  | addTransaction (accountId transaction : Bytes)
  | getBalance (accountId : Bytes)
  | flush

inductive Data where
  | nothing
  | bytes (data : Bytes)

section Calls

variable {σ : Type} [Repository σ] (messages : Messages) (order : IterationOrder)

def bytesOf (routine : Routine σ FFIError Bytes) : Routine σ FFIError Data := do
  let data ← routine
  pure (.bytes (withOutCBytes (vecToC data)))

def nothingOf (routine : Routine σ FFIError Unit) : Routine σ FFIError Data := do
  routine
  pure .nothing

def handleCall : SledRepositoryCall → Routine σ FFIError Data
  | .listAccounts => bytesOf (listAccounts messages)
  | .addAccount account => nothingOf (addAccount messages account)
  | .deleteAccount accountId => nothingOf (deleteAccount accountId)
  | .listTransactions accountId => bytesOf (listTransactions messages accountId)
  | .addTransaction accountId transaction => nothingOf (addTransaction messages accountId transaction)
  | .getBalance accountId => bytesOf (getBalance messages order accountId)
  | .flush => nothingOf repositoryFlush

inductive Request where
  | listAccounts
  | addAccount (account : Account)
  | deleteAccount (accountId : AccountId)
  | listTransactions (accountId : AccountId)
  | addTransaction (accountId : AccountId) (transaction : Transaction)
  | getBalance (accountId : AccountId)
  | flush

namespace Request

@[reducible] def Value : Request → Type
  | listAccounts => List Account
  | listTransactions _ => List Transaction
  | getBalance _ => List Entry
  | addAccount _ | deleteAccount _ | addTransaction _ _ | flush => Unit

/-- `writeToBuffer` -/
def call : Request → SledRepositoryCall
  | listAccounts => .listAccounts
  | addAccount account => .addAccount (messages.account.encode account)
  | deleteAccount accountId => .deleteAccount accountId
  | listTransactions accountId => .listTransactions accountId
  | addTransaction accountId transaction => .addTransaction accountId (messages.transaction.encode transaction)
  | getBalance accountId => .getBalance accountId
  | flush => .flush

/-- `fromBuffer` -/
def read : (request : Request) → Data → Outcome FFIError request.Value
  | listAccounts, .bytes data => decoding (messages.accountList.decode data)
  | listTransactions _, .bytes data => decoding (messages.transactionList.decode data)
  | getBalance _, .bytes data => decoding (messages.accountBalance.decode data)
  | listAccounts, .nothing | listTransactions _, .nothing | getBalance _, .nothing => .ok []
  | addAccount _, _ | deleteAccount _, _ | addTransaction _ _, _ | flush, _ => .ok ()

def perform (request : Request) : Routine σ FFIError request.Value := do
  let data ← handleCall messages order (request.call messages)
  Routine.view fun _ => request.read messages data

/-- What is asked for, without any bytes. -/
def meaning : (request : Request) → Routine σ ErrorKind request.Value
  | listAccounts => Routine.view Repository.listAccounts
  | addAccount account => Repository.addAccount account
  | deleteAccount accountId => Repository.deleteAccount accountId
  | listTransactions accountId => Routine.view (Ffi.listTransactions accountId)
  | addTransaction accountId transaction => Ffi.addTransaction accountId transaction
  | getBalance accountId => do
    let balance ← Routine.view (accountBalance accountId)
    pure (balanceEntries order balance)
  | flush => Repository.flush

end Request

structure Loaded where
  transactions : List Transaction
  balance : List Entry
  transfers : List Transfer

/-- `Balance.getTransfers` -/
def askTransfers (balance : List Entry) : Outcome FFIError (List Transfer) := do
  let data ← getTransfers messages order (messages.balance.encode balance)
  decoding (messages.transfers.decode (withOutCBytes (vecToC data)))

/-- `TransactionsBloc.loadTransactions`: two hash maps are iterated, one on each way. -/
def loadTransactions (back : IterationOrder) (id : AccountId) : Routine σ FFIError Loaded := do
  let transactions ← (Request.listTransactions id).perform messages order
  let balance ← (Request.getBalance id).perform messages order
  let transfers ← Routine.view fun _ => askTransfers messages back balance
  pure ⟨transactions, balance, transfers⟩

def contents (back : IterationOrder) (id : AccountId) (repo : σ) : Outcome FFIError Loaded := do
  let transactions ← fromLib (Ffi.listTransactions id repo)
  let balance ← fromLib (accountBalance id repo)
  let transfers ← transfersOf back balance
  pure ⟨transactions, balanceEntries order balance, transfers⟩

end Calls

end Bindings

end Flouze
