import Flouze.Repository.Basic

namespace Flouze

open Repository

inductive RemoteCall where
  | createAccount (account : Account)
  | getAccountInfo (accountId : AccountId)
  | getLatestTransaction (accountId : AccountId)
  | receiveTransactions (accountId : AccountId) (transactions : List Transaction)
  | getChildTransactions (accountId : AccountId) (base : TransactionId)

@[reducible] def RemoteCall.Value : RemoteCall → Type
  | .createAccount _ => Unit
  | .getAccountInfo _ => Account
  | .getLatestTransaction _ => TransactionId
  | .receiveTransactions _ _ => Unit
  | .getChildTransactions _ _ => List Transaction

abbrev RemoteCall.Reply (call : RemoteCall) : Type := Outcome ErrorKind call.Value

variable {σ : Type} [Repository σ]

def LocalRemote.answer : (call : RemoteCall) → σ → call.Reply × σ
  | .createAccount account, repo => addAccount account repo
  | .getAccountInfo accountId, repo => (getAccount accountId repo, repo)
  | .getLatestTransaction accountId, repo =>
    ((do
      let account ← getAccount accountId repo
      pure account.latestTransaction), repo)
  | .receiveTransactions accountId transactions, repo =>
    Flouze.receiveTransactions accountId transactions repo
  | .getChildTransactions accountId base, repo => (Flouze.getChildTransactions accountId base repo, repo)

def validatePerson (person : Person) : Except String Unit := do
  if person.uuid.length ≠ 16 then
    throw "Person has invalid UUID"
  if person.name.isEmpty then
    throw "Person has no name"

def validateAccount (account : Account) : Except String Unit := do
  -- `Uuid::from_slice` takes 16 bytes and nothing else
  if account.uuid.length ≠ 16 then
    throw "Invalid account UUID"
  if account.label.isEmpty then
    throw "Missing account label"
  if account.members.isEmpty then
    throw "Account has no members"
  account.members.forM validatePerson

/-- The methods of the RPC server. Each holds the lock of the store from start to end; an error
    reaches the caller as an RPC error, whose text nothing depends on. -/
def ServerRpcImpl.createAccount (account : Account) : Routine σ ErrorKind Unit := fun repo =>
  match validateAccount account with
  | .error text => (.err (.jsonRpcClientError text), repo)
  | .ok _ => match getAccount account.uuid repo with
    | .ok _ => (.err (.jsonRpcClientError "An account with this UUID already exists"), repo)
    | .err (.noSuchAccount _) =>
      addAccount { account with latestTransaction := [], latestSynchronizedTransaction := [] } repo
    | .err error => (.err error, repo)
    | .hang => (.hang, repo)

def ServerRpcImpl.answer : (call : RemoteCall) → σ → call.Reply × σ
  | .createAccount account, repo => ServerRpcImpl.createAccount account repo
  | .getAccountInfo accountId, repo => (getAccount accountId repo, repo)
  | .getLatestTransaction accountId, repo =>
    ((do
      let account ← getAccount accountId repo
      pure account.latestTransaction), repo)
  | .receiveTransactions accountId transactions, repo =>
    Flouze.receiveTransactions accountId transactions repo
  | .getChildTransactions accountId base, repo => (Flouze.getChildTransactions accountId base repo, repo)

end Flouze
