import Mathlib.Data.Finmap
import Mathlib.Data.Finset.Sort
import Mathlib.Data.List.Lex
import Mathlib.Order.Lattice
import Flouze.Repository.Basic

namespace Flouze

/-- What a repository holds: accounts by id, and transactions by account and id, each record
    stored under its own id. -/
@[ext] structure Store where
  accounts : Finmap fun _ : AccountId => Account
  transactions : Finmap fun _ : AccountId × TransactionId => Transaction
  account_uuid : ∀ id account, accounts.lookup id = some account → account.uuid = id
  transaction_uuid : ∀ id tx, transactions.lookup id = some tx → tx.uuid = id.2

namespace Store

def empty : Store where
  accounts := ∅
  transactions := ∅
  account_uuid := by simp
  transaction_uuid := by simp

def account? (store : Store) (id : AccountId) : Option Account := store.accounts.lookup id

def transaction? (store : Store) (account : AccountId) (id : TransactionId) : Option Transaction :=
  store.transactions.lookup (account, id)

def putAccount (store : Store) (account : Account) : Store where
  accounts := store.accounts.insert account.uuid account
  transactions := store.transactions
  account_uuid := by
    intro id found lookup
    by_cases same : id = account.uuid
    · subst same
      rw [Finmap.lookup_insert] at lookup
      exact congrArg Account.uuid (Option.some.inj lookup).symm
    · rw [Finmap.lookup_insert_of_ne _ same] at lookup
      exact store.account_uuid id found lookup
  transaction_uuid := store.transaction_uuid

def removeAccount (store : Store) (id : AccountId) : Store where
  accounts := store.accounts.erase id
  transactions := store.transactions
  account_uuid := by
    intro other found lookup
    by_cases same : other = id
    · subst same
      rw [Finmap.lookup_erase] at lookup
      cases lookup
    · rw [Finmap.lookup_erase_ne same] at lookup
      exact store.account_uuid other found lookup
  transaction_uuid := store.transaction_uuid

def putTransaction (store : Store) (account : AccountId) (tx : Transaction) : Store where
  accounts := store.accounts
  transactions := store.transactions.insert (account, tx.uuid) tx
  account_uuid := store.account_uuid
  transaction_uuid := by
    intro id found lookup
    by_cases same : id = (account, tx.uuid)
    · subst same
      rw [Finmap.lookup_insert] at lookup
      exact congrArg Transaction.uuid (Option.some.inj lookup).symm
    · rw [Finmap.lookup_insert_of_ne _ same] at lookup
      exact store.transaction_uuid id found lookup

def removeTransaction (store : Store) (account : AccountId) (id : TransactionId) : Store where
  accounts := store.accounts
  transactions := store.transactions.erase (account, id)
  account_uuid := store.account_uuid
  transaction_uuid := by
    intro other found lookup
    by_cases same : other = (account, id)
    · subst same
      rw [Finmap.lookup_erase] at lookup
      cases lookup
    · rw [Finmap.lookup_erase_ne same] at lookup
      exact store.transaction_uuid other found lookup

/-- Keys are compared byte by byte. -/
@[reducible] def keyOrder : LinearOrder AccountId :=
  LinearOrder.lift' (fun id => id.map UInt8.toNat)
    (List.map_injective_iff.mpr fun _ _ same => UInt8.toNat_inj.mp same)

def listAccounts (store : Store) : List Account :=
  letI := keyOrder
  (store.accounts.keys.sort (· ≤ ·)).filterMap store.account?

instance : Repository Store where
  addAccount account := fun store => (.ok (), store.putAccount account)
  getAccount id := fun store => match store.account? id with
    | some account => .ok account
    | none => .err (.noSuchAccount id)
  deleteAccount id := fun store => match store.account? id with
    | some _ => (.ok (), store.removeAccount id)
    | none => (.err (.noSuchAccount id), store)
  listAccounts := fun store => .ok store.listAccounts
  setLatestTransaction id tx := fun store => match store.account? id with
    | some account => (.ok (), store.putAccount { account with latestTransaction := tx })
    | none => (.err (.noSuchAccount id), store)
  setLatestSynchronizedTransaction id tx := fun store => match store.account? id with
    | some account => (.ok (), store.putAccount { account with latestSynchronizedTransaction := tx })
    | none => (.err (.noSuchAccount id), store)
  addTransaction account tx := fun store => (.ok (), store.putTransaction account tx)
  getTransaction account id := fun store => match store.transaction? account id with
    | some tx => .ok tx
    | none => .err (.noSuchTransaction id)
  deleteTransaction account id := fun store => match store.transaction? account id with
    | some _ => (.ok (), store.removeTransaction account id)
    | none => (.err (.noSuchTransaction id), store)
  flush := fun store => (.ok (), store)
  transactionCount := fun store => store.transactions.keys.card

section Reads

open Repository

variable {store : Store} {id : AccountId} {record : Account} {tx : TransactionId} {found : Transaction}

theorem getAccount_some (stored : store.account? id = some record) : getAccount id store = .ok record := by
  simp [Repository.getAccount, stored]

theorem getAccount_none (missing : store.account? id = none) :
    getAccount id store = .err (.noSuchAccount id) := by
  simp [Repository.getAccount, missing]

theorem getTransaction_some (stored : store.transaction? id tx = some found) :
    getTransaction id tx store = .ok found := by
  simp [Repository.getTransaction, stored]

theorem getTransaction_none (missing : store.transaction? id tx = none) :
    getTransaction id tx store = .err (.noSuchTransaction tx) := by
  simp [Repository.getTransaction, missing]

theorem setLatestTransaction_some (stored : store.account? id = some record) :
    setLatestTransaction id tx store =
      (.ok (), store.putAccount { record with latestTransaction := tx }) := by
  simp [Repository.setLatestTransaction, stored]

theorem setLatestTransaction_none (missing : store.account? id = none) :
    setLatestTransaction id tx store = (.err (.noSuchAccount id), store) := by
  simp [Repository.setLatestTransaction, missing]

theorem setLatestSynchronizedTransaction_some (stored : store.account? id = some record) :
    setLatestSynchronizedTransaction id tx store =
      (.ok (), store.putAccount { record with latestSynchronizedTransaction := tx }) := by
  simp [Repository.setLatestSynchronizedTransaction, stored]

theorem setLatestSynchronizedTransaction_none (missing : store.account? id = none) :
    setLatestSynchronizedTransaction id tx store = (.err (.noSuchAccount id), store) := by
  simp [Repository.setLatestSynchronizedTransaction, missing]

theorem deleteAccount_some (stored : store.account? id = some record) :
    deleteAccount id store = (.ok (), store.removeAccount id) := by
  simp [Repository.deleteAccount, stored]

theorem deleteAccount_none (missing : store.account? id = none) :
    deleteAccount id store = (.err (.noSuchAccount id), store) := by
  simp [Repository.deleteAccount, missing]

theorem deleteTransaction_some (stored : store.transaction? id tx = some found) :
    deleteTransaction id tx store = (.ok (), store.removeTransaction id tx) := by
  simp [Repository.deleteTransaction, stored]

theorem deleteTransaction_none (missing : store.transaction? id tx = none) :
    deleteTransaction id tx store = (.err (.noSuchTransaction tx), store) := by
  simp [Repository.deleteTransaction, missing]

end Reads

variable (store : Store)

theorem ext_lookup {first second : Store} (accounts : ∀ id, first.account? id = second.account? id)
    (transactions : ∀ account id, first.transaction? account id = second.transaction? account id) :
    first = second := by
  ext1
  · exact Finmap.ext_lookup accounts
  · exact Finmap.ext_lookup fun id => transactions id.1 id.2

theorem uuid_of_account? {store : Store} {id : AccountId} {account : Account}
    (found : store.account? id = some account) : account.uuid = id := store.account_uuid id account found

theorem uuid_of_transaction? {store : Store} {account : AccountId} {id : TransactionId}
    {tx : Transaction} (found : store.transaction? account id = some tx) : tx.uuid = id :=
  store.transaction_uuid (account, id) tx found

theorem mem_listAccounts (account : Account) :
    account ∈ store.listAccounts ↔ store.account? account.uuid = some account := by
  rw [listAccounts, List.mem_filterMap]
  constructor
  · intro given
    rcases given with ⟨id, _, found⟩
    obtain rfl := uuid_of_account? found
    exact found
  · intro found
    refine ⟨account.uuid, ?_, found⟩
    rw [Finset.mem_sort, Finmap.mem_keys, Finmap.mem_iff]
    exact ⟨account, found⟩

theorem nodup_listAccounts : store.listAccounts.Nodup := by
  apply List.Nodup.filterMap _ (Finset.sort_nodup _ _)
  intro id other account found found'
  rw [← uuid_of_account? found, ← uuid_of_account? found']

@[simp] theorem account?_putAccount (account : Account) (id : AccountId) :
    (store.putAccount account).account? id = if id = account.uuid then some account else store.account? id := by
  by_cases same : id = account.uuid
  · subst same
    simp [account?, putAccount]
  · simp [account?, putAccount, same, Finmap.lookup_insert_of_ne _ same]

@[simp] theorem transaction?_putAccount (account : Account) (owner : AccountId) (id : TransactionId) :
    (store.putAccount account).transaction? owner id = store.transaction? owner id := rfl

@[simp] theorem account?_removeAccount (removed id : AccountId) :
    (store.removeAccount removed).account? id = if id = removed then none else store.account? id := by
  by_cases same : id = removed
  · subst same
    simp [account?, removeAccount]
  · simp [account?, removeAccount, same, Finmap.lookup_erase_ne same]

@[simp] theorem transaction?_removeAccount (removed owner : AccountId) (id : TransactionId) :
    (store.removeAccount removed).transaction? owner id = store.transaction? owner id := rfl

@[simp] theorem account?_putTransaction (owner : AccountId) (tx : Transaction) (id : AccountId) :
    (store.putTransaction owner tx).account? id = store.account? id := rfl

@[simp] theorem transaction?_putTransaction (owner other : AccountId) (tx : Transaction)
    (id : TransactionId) :
    (store.putTransaction owner tx).transaction? other id =
      if other = owner ∧ id = tx.uuid then some tx else store.transaction? other id := by
  by_cases same : other = owner ∧ id = tx.uuid
  · rcases same with ⟨rfl, rfl⟩
    simp [transaction?, putTransaction]
  · have differ : (other, id) ≠ (owner, tx.uuid) := fun equal => same (Prod.mk.inj equal)
    simp only [transaction?, putTransaction, Finmap.lookup_insert_of_ne _ differ, same, ite_false]

@[simp] theorem account?_removeTransaction (owner : AccountId) (removed : TransactionId)
    (id : AccountId) : (store.removeTransaction owner removed).account? id = store.account? id := rfl

@[simp] theorem transaction?_removeTransaction (owner other : AccountId) (removed id : TransactionId) :
    (store.removeTransaction owner removed).transaction? other id =
      if other = owner ∧ id = removed then none else store.transaction? other id := by
  by_cases same : other = owner ∧ id = removed
  · rcases same with ⟨rfl, rfl⟩
    simp [transaction?, removeTransaction]
  · have differ : (other, id) ≠ (owner, removed) := fun equal => same (Prod.mk.inj equal)
    simp only [transaction?, removeTransaction, Finmap.lookup_erase_ne differ, same, ite_false]

end Store

end Flouze
