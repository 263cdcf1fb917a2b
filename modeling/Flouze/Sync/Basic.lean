import Flouze.Lib.Resumption
import Flouze.Remote

namespace Flouze

open Repository

/-- A client: its repository, and how many ids it has drawn from its generator. -/
structure Device (σ : Type) where
  repo : σ
  generated : Nat

abbrev SyncM (σ α : Type) := Process RemoteCall RemoteCall.Value (Device σ) ErrorKind α

variable {σ : Type} [Repository σ]

def remote (call : RemoteCall) : SyncM σ call.Value := Process.request call

def onRepo {α : Type} (routine : Routine σ ErrorKind α) : Routine (Device σ) ErrorKind α := fun device =>
  ((routine device.repo).1, { device with repo := (routine device.repo).2 })

/-- `generate` lists the ids that the successive calls on a device return. -/
def generateTransactionId (generate : Nat → TransactionId) : Routine (Device σ) ErrorKind TransactionId :=
  fun device => (.ok (generate device.generated), { device with generated := device.generated + 1 })

def checkTransactionIdUniqueness (accountId : AccountId) : List TransactionId → σ → Outcome ErrorKind Unit
  | [], _ => .ok ()
  | id :: ids, repo => match getTransaction accountId id repo with
    | .err (.noSuchTransaction _) => checkTransactionIdUniqueness accountId ids repo
    | .ok _ => .err (.duplicateTransactionId id)
    | .err error => .err error
    | .hang => .hang

/-- The loop of `rebase_transactions`, from the oldest to the newest: the new transactions and the
    ids they had before. -/
def rebaseFrom (generate : Nat → TransactionId) :
    TransactionId → List Transaction → Routine (Device σ) ErrorKind (List Transaction × List TransactionId)
  | _, [] => pure ([], [])
  | parent, tx :: toRebase => do
    let newId ← generateTransactionId generate
    let (rebased, oldIds) ← rebaseFrom generate newId toRebase
    pure ({ tx with uuid := newId, parent := parent } :: rebased, tx.uuid :: oldIds)

def rebaseTransactions (generate : Nat → TransactionId) (account : Account) (newBase : TransactionId) :
    Routine (Device σ) ErrorKind (List Transaction × List TransactionId) := do
  let toRebase ← Routine.view fun device =>
    eachTransaction device.repo account [] (collectUntil account.latestSynchronizedTransaction)
  rebaseFrom generate newBase toRebase.reverse

/-- What `rebase_local_transactions` does with the children that the remote returned. -/
def adoptTransactions (generate : Nat → TransactionId) (account : Account)
    (remoteTransactions : List Transaction) : Routine (Device σ) ErrorKind Account :=
  match remoteTransactions.getLast? with
  | none => Routine.fail .inconsistentServerResponse
  | some last => do
    Routine.view fun device =>
      checkTransactionIdUniqueness account.uuid (remoteTransactions.map Transaction.uuid) device.repo
    if !checkChainConsistency remoteTransactions then
      Routine.fail .inconsistentChain
    else
      let (rebased, oldIds) ← rebaseTransactions generate account last.uuid
      let latestId := (rebased.getLast?.getD last).uuid
      let latestSynchronizedId := (rebased.head?.map Transaction.parent).getD last.uuid
      onRepo (remoteTransactions.forM fun tx => addTransaction account.uuid tx)
      onRepo (rebased.forM fun tx => addTransaction account.uuid tx)
      let account := { account with
        latestTransaction := latestId, latestSynchronizedTransaction := latestSynchronizedId }
      onRepo (addAccount account)
      onRepo (oldIds.forM fun id => deleteTransaction account.uuid id)
      pure account

def rebaseLocalTransactions (generate : Nat → TransactionId) (account : Account) : SyncM σ Account := do
  let latestRemote : TransactionId ← remote (.getLatestTransaction account.uuid)
  if account.latestSynchronizedTransaction = latestRemote then
    pure account
  else
    let remoteTransactions : List Transaction ←
      remote (.getChildTransactions account.uuid account.latestSynchronizedTransaction)
    Process.perform (adoptTransactions generate account remoteTransactions)

def pushLocalTransactions (account : Account) : SyncM σ Unit := do
  let localTransactions ← Process.perform (Routine.view fun device =>
    eachTransaction device.repo account [] (collectUntil account.latestSynchronizedTransaction))
  if localTransactions.isEmpty then
    pure ()
  else
    -- oldest first
    let _ : Unit ← remote (.receiveTransactions account.uuid localTransactions.reverse)
    Process.perform (onRepo
      (setLatestSynchronizedTransaction account.uuid account.latestTransaction))
    Process.perform (onRepo
      (addAccount { account with latestSynchronizedTransaction := account.latestTransaction }))

def sync (generate : Nat → TransactionId) (accountId : AccountId) : SyncM σ Unit := do
  let account ← Process.perform (onRepo (Routine.view (getAccount accountId)))
  let account ← rebaseLocalTransactions generate account
  pushLocalTransactions account

def cloneRemote (generate : Nat → TransactionId) (accountId : AccountId) : SyncM σ Unit := do
  let account : Account ← remote (.getAccountInfo accountId)
  Process.perform (onRepo
    (addAccount { account with latestTransaction := [], latestSynchronizedTransaction := [] }))
  sync generate accountId

end Flouze
