import Flouze.Lib.Machine
import Flouze.Repository.Store

namespace Flouze

abbrev Bytes := List UInt8

instance : IsTrans Bytes (· ≤ ·) := inferInstance

instance : Std.Antisymm fun key key' : Bytes => key ≤ key' := inferInstance

instance : Std.Total fun key key' : Bytes => key ≤ key' := inferInstance

/-- `sled::Db`: a map from keys to values, ordered by key. -/
structure Sled where
  entries : Finmap fun _ : Bytes => Bytes

namespace Sled

def empty : Sled := ⟨∅⟩

def get (db : Sled) (key : Bytes) : Option Bytes := db.entries.lookup key

def insert (db : Sled) (key value : Bytes) : Sled := ⟨db.entries.insert key value⟩

def remove (db : Sled) (key : Bytes) : Option Bytes × Sled := (db.get key, ⟨db.entries.erase key⟩)

def keysWith (db : Sled) (start : Bytes) : Finset Bytes :=
  db.entries.keys.filter fun key => start.isPrefixOf key

def scanPrefix (db : Sled) (start : Bytes) : List (Bytes × Bytes) :=
  ((db.keysWith start).sort (· ≤ ·)).filterMap fun key => (db.get key).map fun value => (key, value)

variable (db : Sled)

@[simp] theorem get_insert (key other value : Bytes) :
    (db.insert key value).get other = if other = key then some value else db.get other := by
  by_cases same : other = key
  · subst same
    simp [get, insert]
  · simp [get, insert, same, Finmap.lookup_insert_of_ne _ same]

@[simp] theorem get_remove (key other : Bytes) :
    (db.remove key).2.get other = if other = key then none else db.get other := by
  by_cases same : other = key
  · subst same
    simp [get, remove]
  · simp [get, remove, same, Finmap.lookup_erase_ne same]

end Sled

/-- How the records are written as bytes. What is read may not be a record. -/
structure Codec where
  encodeAccount : Account → Bytes
  decodeAccount : Bytes → Except String Account
  encodeTransaction : Transaction → Bytes
  decodeTransaction : Bytes → Except String Transaction

structure Codec.Inverts (codec : Codec) : Prop where
  account : ∀ account, codec.decodeAccount (codec.encodeAccount account) = .ok account
  transaction : ∀ tx, codec.decodeTransaction (codec.encodeTransaction tx) = .ok tx

structure SledRepository (codec : Codec) where
  db : Sled

def decoded {α : Type} : Except String α → Outcome ErrorKind α
  | .ok value => .ok value
  | .error text => .err (.invalidEncoding text)

namespace SledRepository

def accountKeyPrefix : Bytes := [0x61, 0x63, 0x63, 0x6f, 0x75, 0x6e, 0x74, 0x3a]

def txKeyPrefix : Bytes := [0x74, 0x78, 0x3a]

def accountKey (id : AccountId) : Bytes := accountKeyPrefix ++ id

def txKey (accountId : AccountId) (txId : TransactionId) : Bytes :=
  txKeyPrefix ++ accountId ++ [0x3a] ++ txId

variable {codec : Codec}

def addAccount (account : Account) : Routine (SledRepository codec) ErrorKind Unit := fun repo =>
  (.ok (), ⟨repo.db.insert (accountKey account.uuid) (codec.encodeAccount account)⟩)

def getAccount (accountId : AccountId) (repo : SledRepository codec) : Outcome ErrorKind Account :=
  match repo.db.get (accountKey accountId) with
  | none => .err (.noSuchAccount accountId)
  | some data => decoded (codec.decodeAccount data)

def deleteAccount (accountId : AccountId) : Routine (SledRepository codec) ErrorKind Unit := fun repo =>
  match repo.db.remove (accountKey accountId) with
  | (some _, db) => (.ok (), ⟨db⟩)
  | (none, db) => (.err (.noSuchAccount accountId), ⟨db⟩)

/-- The loop of `list_accounts`. -/
def collectAccounts (codec : Codec) : List (Bytes × Bytes) → List Account → Outcome ErrorKind (List Account)
  | [], accounts => .ok accounts
  | (key, data) :: rest, accounts =>
    if !accountKeyPrefix.isPrefixOf key then .ok accounts
    else do
      let account ← decoded (codec.decodeAccount data)
      collectAccounts codec rest (accounts ++ [account])

def listAccounts (repo : SledRepository codec) : Outcome ErrorKind (List Account) :=
  collectAccounts codec (repo.db.scanPrefix accountKeyPrefix) []

def setLatestTransaction (accountId : AccountId) (txId : TransactionId) :
    Routine (SledRepository codec) ErrorKind Unit := do
  let account ← Routine.view (getAccount accountId)
  addAccount { account with latestTransaction := txId }

def setLatestSynchronizedTransaction (accountId : AccountId) (txId : TransactionId) :
    Routine (SledRepository codec) ErrorKind Unit := do
  let account ← Routine.view (getAccount accountId)
  addAccount { account with latestSynchronizedTransaction := txId }

def addTransaction (accountId : AccountId) (tx : Transaction) : Routine (SledRepository codec) ErrorKind Unit :=
  fun repo => (.ok (), ⟨repo.db.insert (txKey accountId tx.uuid) (codec.encodeTransaction tx)⟩)

def getTransaction (accountId : AccountId) (txId : TransactionId) (repo : SledRepository codec) :
    Outcome ErrorKind Transaction :=
  match repo.db.get (txKey accountId txId) with
  | none => .err (.noSuchTransaction txId)
  | some data => decoded (codec.decodeTransaction data)

def deleteTransaction (accountId : AccountId) (txId : TransactionId) :
    Routine (SledRepository codec) ErrorKind Unit := fun repo =>
  match repo.db.remove (txKey accountId txId) with
  | (some _, db) => (.ok (), ⟨db⟩)
  | (none, db) => (.err (.noSuchTransaction txId), ⟨db⟩)

instance : Repository (SledRepository codec) where
  addAccount := addAccount
  getAccount := getAccount
  deleteAccount := deleteAccount
  listAccounts := listAccounts
  setLatestTransaction := setLatestTransaction
  setLatestSynchronizedTransaction := setLatestSynchronizedTransaction
  addTransaction := addTransaction
  getTransaction := getTransaction
  deleteTransaction := deleteTransaction
  flush := fun repo => (.ok (), repo)
  transactionCount repo := (repo.db.keysWith txKeyPrefix).card

section Keys

theorem accountKey_inj {id other : AccountId} : accountKey id = accountKey other ↔ id = other :=
  List.append_right_inj accountKeyPrefix

theorem accountKey_ne_txKey (id other : AccountId) (txId : TransactionId) :
    accountKey id ≠ txKey other txId := by
  simp [accountKey, txKey, accountKeyPrefix, txKeyPrefix]

/-- Where the account ids have the same length, the separator is at the same place. -/
theorem txKey_inj {id other : AccountId} {txId otherTx : TransactionId} (length : id.length = other.length) :
    txKey id txId = txKey other otherTx ↔ id = other ∧ txId = otherTx := by
  unfold txKey
  rw [List.append_assoc, List.append_assoc, List.append_assoc, List.append_assoc,
    List.append_right_inj txKeyPrefix]
  constructor
  · intro same
    rcases List.append_inj same length with ⟨accounts, rest⟩
    exact ⟨accounts, List.append_cancel_left rest⟩
  · intro given
    rcases given with ⟨rfl, rfl⟩
    rfl

theorem accountKey_of_prefix {key : Bytes} (starts : accountKeyPrefix.isPrefixOf key = true) :
    ∃ id, key = accountKey id := by
  rcases List.isPrefixOf_iff_prefix.mp starts with ⟨id, same⟩
  exact ⟨id, same.symm⟩

end Keys

end SledRepository

inductive RepositoryCall where
  | addAccount (account : Account)
  | getAccount (accountId : AccountId)
  | deleteAccount (accountId : AccountId)
  | listAccounts
  | setLatestTransaction (accountId : AccountId) (txId : TransactionId)
  | setLatestSynchronizedTransaction (accountId : AccountId) (txId : TransactionId)
  | addTransaction (accountId : AccountId) (tx : Transaction)
  | getTransaction (accountId : AccountId) (txId : TransactionId)
  | deleteTransaction (accountId : AccountId) (txId : TransactionId)
  | flush

namespace RepositoryCall

@[reducible] def Value : RepositoryCall → Type
  | getAccount _ => Account
  | listAccounts => List Account
  | getTransaction _ _ => Transaction
  | addAccount _ | deleteAccount _ | setLatestTransaction _ _ | setLatestSynchronizedTransaction _ _
  | addTransaction _ _ | deleteTransaction _ _ | flush => Unit

def perform {σ : Type} [Repository σ] : (call : RepositoryCall) → σ → Outcome ErrorKind call.Value × σ
  | addAccount account, repo => Repository.addAccount account repo
  | getAccount id, repo => (Repository.getAccount id repo, repo)
  | deleteAccount id, repo => Repository.deleteAccount id repo
  | listAccounts, repo => (Repository.listAccounts repo, repo)
  | setLatestTransaction id tx, repo => Repository.setLatestTransaction id tx repo
  | setLatestSynchronizedTransaction id tx, repo => Repository.setLatestSynchronizedTransaction id tx repo
  | addTransaction id tx, repo => Repository.addTransaction id tx repo
  | getTransaction id tx, repo => (Repository.getTransaction id tx repo, repo)
  | deleteTransaction id tx, repo => Repository.deleteTransaction id tx repo
  | flush, repo => Repository.flush repo

def performAll {σ : Type} [Repository σ] : List RepositoryCall → σ → σ :=
  Machine.after fun call repo => (call.perform repo).2

def replies {σ : Type} [Repository σ] (calls : List RepositoryCall) (repo : σ) :
    List (Σ call : RepositoryCall, Outcome ErrorKind call.Value) :=
  Machine.outputs perform calls repo

def UuidNamed : RepositoryCall → Prop
  | addAccount account => account.uuid.length = 16
  | getAccount id | deleteAccount id | setLatestTransaction id _ | setLatestSynchronizedTransaction id _
  | addTransaction id _ | getTransaction id _ | deleteTransaction id _ => id.length = 16
  | listAccounts | flush => True

instance (call : RepositoryCall) : Decidable call.UuidNamed := by
  cases call <;> unfold UuidNamed <;> infer_instance

def OnAccount (id : AccountId) : RepositoryCall → Prop
  | addAccount account => account.uuid = id
  | deleteAccount other | setLatestTransaction other _ | setLatestSynchronizedTransaction other _ => other = id
  | _ => False

def OnTransaction (id : AccountId) (txId : TransactionId) : RepositoryCall → Prop
  | addTransaction owner tx => owner = id ∧ tx.uuid = txId
  | deleteTransaction owner removed => owner = id ∧ removed = txId
  | _ => False

end RepositoryCall

end Flouze
