import Flouze.Repository.Store

namespace Flouze.Ffi

variable {σ : Type} [Repository σ]

def listTransactions (accountId : AccountId) (repo : σ) : Outcome ErrorKind (List Transaction) := do
  let account ← Repository.getAccount accountId repo
  eachTransaction repo account [] fun transactions tx => .ok (.yield (transactions ++ [tx]))

/-- A transaction entered on a device becomes the latest one, whatever its parent is. -/
def addTransaction (accountId : AccountId) (tx : Transaction) : Routine σ ErrorKind Unit := do
  Repository.addTransaction accountId tx
  Repository.setLatestTransaction accountId tx.uuid

theorem addTransaction_run {store : Store} {id : AccountId} {record : Account} (tx : Transaction)
    (found : store.account? id = some record) :
    addTransaction id tx store =
      (.ok (), (store.putTransaction id tx).putAccount { record with latestTransaction := tx.uuid }) := by
  unfold addTransaction
  have kept : (store.putTransaction id tx).account? id = some record := found
  exact (Routine.bind_ok rfl).trans
    (Store.setLatestTransaction_some kept)

theorem addTransaction_missing {store : Store} {id : AccountId} (tx : Transaction)
    (missing : store.account? id = none) :
    addTransaction id tx store = (.err (.noSuchAccount id), store.putTransaction id tx) := by
  unfold addTransaction
  have kept : (store.putTransaction id tx).account? id = none := missing
  exact (Routine.bind_ok rfl).trans (Store.setLatestTransaction_none kept)

end Flouze.Ffi
