import Flouze.Lib.Outcome
import Flouze.Model

namespace Flouze

/-- The storage interface. Reading cannot change the state; a write may fail. -/
class Repository (σ : Type) where
  addAccount : Account → Routine σ ErrorKind Unit
  getAccount : AccountId → σ → Outcome ErrorKind Account
  deleteAccount : AccountId → Routine σ ErrorKind Unit
  listAccounts : σ → Outcome ErrorKind (List Account)
  setLatestTransaction : AccountId → TransactionId → Routine σ ErrorKind Unit
  setLatestSynchronizedTransaction : AccountId → TransactionId → Routine σ ErrorKind Unit
  addTransaction : AccountId → Transaction → Routine σ ErrorKind Unit
  getTransaction : AccountId → TransactionId → σ → Outcome ErrorKind Transaction
  deleteTransaction : AccountId → TransactionId → Routine σ ErrorKind Unit
  flush : Routine σ ErrorKind Unit
  /-- Not a call of the source: how many transactions are stored. A loop that reads one
      transaction after another and has read more than that is reading in a circle. -/
  transactionCount : σ → Nat

open Repository

variable {σ β : Type} [Repository σ]

structure TransactionChain where
  accountId : AccountId
  id : TransactionId

def TransactionChain.next (repo : σ) (chain : TransactionChain) :
    Option (Outcome ErrorKind Transaction × TransactionChain) :=
  if chain.id.isEmpty then none
  else match getTransaction chain.accountId chain.id repo with
    | .ok tx => some (.ok tx, { chain with id := tx.parent })
    | failed => some (failed, chain)

def getTransactionChain (account : Account) : TransactionChain :=
  ⟨account.uuid, account.latestTransaction⟩

/-- `for tx in chain { let tx = tx?; ... }`, where a pass may leave the loop. -/
def forChain (repo : σ) (pass : β → Transaction → Outcome ErrorKind (ForInStep β)) :
    Nat → TransactionChain → β → Outcome ErrorKind β
  | 0, _, _ => .hang
  | fuel + 1, chain, acc => match chain.next repo with
    | none => .ok acc
    | some (item, chain) => do
      let tx ← item
      match ← pass acc tx with
      | .done acc => pure acc
      | .yield acc => forChain repo pass fuel chain acc

def eachTransaction (repo : σ) (account : Account) (init : β)
    (pass : β → Transaction → Outcome ErrorKind (ForInStep β)) : Outcome ErrorKind β :=
  forChain repo pass (transactionCount repo + 1) (getTransactionChain account) init

def followsFrom : TransactionId → List Transaction → Bool
  | _, [] => true
  | base, tx :: transactions => if tx.parent ≠ base then false else followsFrom tx.uuid transactions

def checkChainConsistency : List Transaction → Bool
  | [] => true
  | tx :: transactions => followsFrom tx.parent (tx :: transactions)

def receiveTransactions (accountId : AccountId) (transactions : List Transaction) :
    Routine σ ErrorKind Unit := do
  let account ← Routine.view (getAccount accountId)
  match transactions with
  | [] => pure ()
  | first :: rest =>
    if account.latestTransaction ≠ first.parent then
      Routine.fail .mustRebase
    else if !checkChainConsistency (first :: rest) then
      Routine.fail .inconsistentChain
    else
      (first :: rest).forM fun tx => addTransaction account.uuid tx
      setLatestTransaction account.uuid ((first :: rest).getLast (List.cons_ne_nil first rest)).uuid

/-- One pass of the loops that collect what is newer than `stop`. -/
def collectUntil (stop : TransactionId) (transactions : List Transaction) (tx : Transaction) :
    Outcome ErrorKind (ForInStep (List Transaction)) :=
  if tx.uuid = stop then .ok (.done transactions) else .ok (.yield (transactions ++ [tx]))

def getChildTransactions (accountId : AccountId) (base : TransactionId) (repo : σ) :
    Outcome ErrorKind (List Transaction) := do
  -- an id that is not stored at all is answered with NoSuchTransaction
  if !base.isEmpty then
    let _ ← getTransaction accountId base repo
  let account ← getAccount accountId repo
  let transactions ← eachTransaction repo account [] (collectUntil base)
  pure transactions.reverse

end Flouze
