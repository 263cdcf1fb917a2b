import Flouze.Repository.Encoding

namespace Flouze

namespace SledRepository

variable {codec : Codec} {repo : SledRepository codec} {store : Store}

/-- The database holds the records of the store under their keys. Keys of transactions count where the
    account id is a uuid: elsewhere two of them may be the same. -/
structure Represents (repo : SledRepository codec) (store : Store) : Prop where
  accounts : ∀ id, repo.db.get (accountKey id) = (store.account? id).map codec.encodeAccount
  transactions : ∀ (id : AccountId) txId, id.length = 16 →
    repo.db.get (txKey id txId) = (store.transaction? id txId).map codec.encodeTransaction

theorem represents_empty (codec : Codec) : Represents (⟨Sled.empty⟩ : SledRepository codec) Store.empty :=
  ⟨fun _ => rfl, fun _ _ _ => rfl⟩

namespace Represents

variable (represents : Represents repo store)

include represents

theorem putAccount (account : Account) :
    Represents (⟨repo.db.insert (accountKey account.uuid) (codec.encodeAccount account)⟩ : SledRepository codec)
      (store.putAccount account) := by
  constructor
  · intro id
    rw [Sled.get_insert, Store.account?_putAccount, represents.accounts]
    by_cases same : id = account.uuid
    · subst same
      simp
    · rw [if_neg (mt accountKey_inj.mp same), if_neg same]
  · intro id txId length
    rw [Sled.get_insert, if_neg (accountKey_ne_txKey account.uuid id txId).symm]
    exact represents.transactions id txId length

theorem removeAccount (removed : AccountId) :
    Represents (⟨(repo.db.remove (accountKey removed)).2⟩ : SledRepository codec) (store.removeAccount removed) := by
  constructor
  · intro id
    rw [Sled.get_remove, Store.account?_removeAccount, represents.accounts]
    by_cases same : id = removed
    · subst same
      simp
    · rw [if_neg (mt accountKey_inj.mp same), if_neg same]
  · intro id txId length
    rw [Sled.get_remove, if_neg (accountKey_ne_txKey removed id txId).symm]
    exact represents.transactions id txId length

theorem putTransaction {owner : AccountId} (length : owner.length = 16) (tx : Transaction) :
    Represents (⟨repo.db.insert (txKey owner tx.uuid) (codec.encodeTransaction tx)⟩ : SledRepository codec)
      (store.putTransaction owner tx) := by
  constructor
  · intro id
    rw [Sled.get_insert, if_neg (accountKey_ne_txKey id owner tx.uuid)]
    exact represents.accounts id
  · intro id txId length'
    rw [Sled.get_insert, Store.transaction?_putTransaction, represents.transactions id txId length']
    by_cases same : id = owner ∧ txId = tx.uuid
    · rcases same with ⟨rfl, rfl⟩
      simp
    · rw [if_neg (mt (txKey_inj (length'.trans length.symm)).mp same), if_neg same]

theorem removeTransaction {owner : AccountId} (length : owner.length = 16) (removed : TransactionId) :
    Represents (⟨(repo.db.remove (txKey owner removed)).2⟩ : SledRepository codec)
      (store.removeTransaction owner removed) := by
  constructor
  · intro id
    rw [Sled.get_remove, if_neg (accountKey_ne_txKey id owner removed)]
    exact represents.accounts id
  · intro id txId length'
    rw [Sled.get_remove, Store.transaction?_removeTransaction, represents.transactions id txId length']
    by_cases same : id = owner ∧ txId = removed
    · rcases same with ⟨rfl, rfl⟩
      simp
    · rw [if_neg (mt (txKey_inj (length'.trans length.symm)).mp same), if_neg same]

theorem keysWith_accounts :
    repo.db.keysWith accountKeyPrefix =
      store.accounts.keys.map ⟨accountKey, fun _ _ same => accountKey_inj.mp same⟩ := by
  ext key
  rw [Sled.keysWith, Finset.mem_filter, Finset.mem_map, Finmap.mem_keys, Finmap.mem_iff]
  constructor
  · intro given
    rcases given with ⟨⟨data, stored⟩, starts⟩
    rcases accountKey_of_prefix starts with ⟨id, rfl⟩
    have found := (represents.accounts id).symm.trans stored
    rcases Option.map_eq_some_iff.mp found with ⟨account, present, _⟩
    exact ⟨id, Finmap.mem_keys.mpr (Finmap.mem_iff.mpr ⟨account, present⟩), rfl⟩
  · intro given
    rcases given with ⟨id, member, rfl⟩
    rcases Finmap.mem_iff.mp (Finmap.mem_keys.mp member) with ⟨account, present⟩
    refine ⟨⟨codec.encodeAccount account, ?_⟩, List.isPrefixOf_iff_prefix.mpr (List.prefix_append _ _)⟩
    have stored := represents.accounts id
    rw [Store.account?, present] at stored
    exact stored

end Represents

theorem append_le_append_iff (start first second : Bytes) :
    start ++ first ≤ start ++ second ↔ first ≤ second := by
  induction start with
  | nil => exact Iff.rfl
  | cons byte start ih =>
    rw [List.cons_append, List.cons_append, List.cons_le_cons_iff, ih]
    simp

theorem collectAccounts_run (inverts : codec.Inverts) (stored : List (AccountId × Account)) (accounts : List Account) :
    collectAccounts codec (stored.map fun entry => (accountKey entry.1, codec.encodeAccount entry.2)) accounts =
      .ok (accounts ++ stored.map Prod.snd) := by
  induction stored generalizing accounts with
  | nil => simp [collectAccounts]
  | cons entry stored ih =>
    have starts : accountKeyPrefix.isPrefixOf (accountKey entry.1) = true :=
      List.isPrefixOf_iff_prefix.mpr (List.prefix_append _ _)
    simp only [List.map_cons, collectAccounts, starts, Bool.not_true, Bool.false_eq_true, if_false,
      inverts.account, decoded, Outcome.ok_bind]
    rw [ih]
    simp

theorem Represents.listAccounts (inverts : codec.Inverts) (represents : Represents repo store) :
    SledRepository.listAccounts repo = .ok store.listAccounts := by
  have sorted : (repo.db.keysWith accountKeyPrefix).sort (· ≤ ·) =
      (store.accounts.keys.sort (· ≤ ·)).map accountKey := by
    rw [represents.keysWith_accounts]
    exact (Finset.map_sort _ _ _ _ fun first _ second _ =>
      (append_le_append_iff accountKeyPrefix first second).symm).symm
  let entries := (store.accounts.keys.sort (· ≤ ·)).filterMap fun id =>
    (store.account? id).map fun account => (id, account)
  have scanned : repo.db.scanPrefix accountKeyPrefix =
      entries.map fun entry => (accountKey entry.1, codec.encodeAccount entry.2) := by
    rw [Sled.scanPrefix, sorted, List.filterMap_map, List.map_filterMap]
    apply List.filterMap_congr
    intro id _
    simp only [Function.comp_apply, represents.accounts, Option.map_map, Function.comp_def]
  rw [SledRepository.listAccounts, scanned, collectAccounts_run inverts, List.nil_append, List.map_filterMap]
  simp only [Option.map_map, Function.comp_def, Option.map_id']
  rfl

theorem Represents.getAccount (inverts : codec.Inverts) (represents : Represents repo store) (id : AccountId) :
    SledRepository.getAccount id repo = Repository.getAccount id store := by
  rw [SledRepository.getAccount, represents.accounts]
  cases found : store.account? id with
  | none =>
    rw [Store.getAccount_none found]
    rfl
  | some account =>
    rw [Store.getAccount_some found, Option.map_some]
    simp only [inverts.account, decoded]

theorem Represents.getTransaction (inverts : codec.Inverts) (represents : Represents repo store) {id : AccountId}
    (length : id.length = 16) (txId : TransactionId) :
    SledRepository.getTransaction id txId repo = Repository.getTransaction id txId store := by
  rw [SledRepository.getTransaction, represents.transactions id txId length]
  cases found : store.transaction? id txId with
  | none =>
    rw [Store.getTransaction_none found]
    rfl
  | some tx =>
    rw [Store.getTransaction_some found, Option.map_some]
    simp only [inverts.transaction, decoded]

theorem Represents.update (inverts : codec.Inverts) (represents : Represents repo store) {id : AccountId}
    {change : Account → Account} {updates : Routine Store ErrorKind Unit}
    (stored : ∀ account, store.account? id = some account →
      updates store = (.ok (), store.putAccount (change account)))
    (missing : store.account? id = none → updates store = (.err (.noSuchAccount id), store)) :
    let routine : Routine (SledRepository codec) ErrorKind Unit := do
      let account ← Routine.view (SledRepository.getAccount id)
      SledRepository.addAccount (change account)
    (routine repo).1 = (updates store).1 ∧ Represents (routine repo).2 (updates store).2 := by
  intro routine
  have read : Routine.view (SledRepository.getAccount id) repo = (Repository.getAccount id store, repo) := by
    rw [Routine.view_apply, represents.getAccount inverts]
  cases found : store.account? id with
  | none =>
    rw [Store.getAccount_none found] at read
    have run : routine repo = _ := Routine.bind_err read
    rw [run, missing found]
    exact ⟨rfl, represents⟩
  | some account =>
    rw [Store.getAccount_some found] at read
    have run : routine repo = _ := Routine.bind_ok read
    rw [run, stored account found]
    exact ⟨rfl, represents.putAccount (change account)⟩

theorem removeAccount_absent {id : AccountId} (missing : store.account? id = none) :
    store.removeAccount id = store := by
  apply Store.ext_lookup
  · intro other
    rw [Store.account?_removeAccount]
    split
    · next same => rw [same, missing]
    · rfl
  · intro account tx
    rfl

theorem removeTransaction_absent {owner : AccountId} {removed : TransactionId}
    (missing : store.transaction? owner removed = none) : store.removeTransaction owner removed = store := by
  apply Store.ext_lookup
  · intro other
    rfl
  · intro account tx
    rw [Store.transaction?_removeTransaction]
    split
    · next same => rw [same.1, same.2, missing]
    · rfl

theorem Represents.deleteAccount (represents : Represents repo store) (id : AccountId) :
    (SledRepository.deleteAccount id repo).1 = (Repository.deleteAccount id store).1 ∧
      Represents (SledRepository.deleteAccount id repo).2 (Repository.deleteAccount id store).2 := by
  have after := represents.removeAccount id
  have stored := represents.accounts id
  have removed : repo.db.remove (accountKey id) =
      (repo.db.get (accountKey id), (repo.db.remove (accountKey id)).2) := rfl
  unfold SledRepository.deleteAccount
  rw [removed, stored]
  cases found : store.account? id with
  | none =>
    rw [Store.deleteAccount_none found]
    rw [removeAccount_absent found] at after
    exact ⟨rfl, after⟩
  | some account =>
    rw [Store.deleteAccount_some found]
    exact ⟨rfl, after⟩

theorem Represents.deleteTransaction (represents : Represents repo store) {id : AccountId}
    (length : id.length = 16) (txId : TransactionId) :
    (SledRepository.deleteTransaction id txId repo).1 = (Repository.deleteTransaction id txId store).1 ∧
      Represents (SledRepository.deleteTransaction id txId repo).2
        (Repository.deleteTransaction id txId store).2 := by
  have after := represents.removeTransaction length txId
  have stored := represents.transactions id txId length
  have removed : repo.db.remove (txKey id txId) =
      (repo.db.get (txKey id txId), (repo.db.remove (txKey id txId)).2) := rfl
  unfold SledRepository.deleteTransaction
  rw [removed, stored]
  cases found : store.transaction? id txId with
  | none =>
    rw [Store.deleteTransaction_none found]
    rw [removeTransaction_absent found] at after
    exact ⟨rfl, after⟩
  | some tx =>
    rw [Store.deleteTransaction_some found]
    exact ⟨rfl, after⟩

theorem Represents.perform (inverts : codec.Inverts) (represents : Represents repo store) (call : RepositoryCall)
    (named : call.UuidNamed) :
    (call.perform repo).1 = (call.perform store).1 ∧ Represents (call.perform repo).2 (call.perform store).2 := by
  cases call with
  | addAccount account => exact ⟨rfl, represents.putAccount account⟩
  | getAccount id => exact ⟨represents.getAccount inverts id, represents⟩
  | deleteAccount id => exact represents.deleteAccount id
  | listAccounts => exact ⟨represents.listAccounts inverts, represents⟩
  | setLatestTransaction id txId =>
    exact represents.update inverts (fun account found => Store.setLatestTransaction_some found)
      Store.setLatestTransaction_none
  | setLatestSynchronizedTransaction id txId =>
    exact represents.update inverts (fun account found => Store.setLatestSynchronizedTransaction_some found)
      Store.setLatestSynchronizedTransaction_none
  | addTransaction id tx => exact ⟨rfl, represents.putTransaction named tx⟩
  | getTransaction id txId => exact ⟨represents.getTransaction inverts named txId, represents⟩
  | deleteTransaction id txId => exact represents.deleteTransaction named txId
  | flush => exact ⟨rfl, represents⟩

end SledRepository

namespace Store

variable {store : Store} {call : RepositoryCall} {id : AccountId} {txId : TransactionId}

theorem account?_setLatest {account : Account} {other : AccountId} (found : store.account? other = some account)
    (change : Account → Account) (keeps : (change account).uuid = account.uuid) (differ : other ≠ id) :
    (store.putAccount (change account)).account? id = store.account? id := by
  have owner := uuid_of_account? found
  rw [account?_putAccount, keeps, owner, if_neg (Ne.symm differ)]

theorem perform_account? (apart : ¬ call.OnAccount id) :
    (call.perform store).2.account? id = store.account? id := by
  cases call with
  | addAccount account =>
    have differ : id ≠ account.uuid := fun same => apart same.symm
    change (store.putAccount account).account? id = _
    rw [account?_putAccount, if_neg differ]
  | deleteAccount other =>
    have differ : id ≠ other := fun same => apart same.symm
    simp only [RepositoryCall.perform]
    cases found : store.account? other with
    | none => rw [deleteAccount_none found]
    | some account => rw [deleteAccount_some found, account?_removeAccount, if_neg differ]
  | setLatestTransaction other tx =>
    simp only [RepositoryCall.perform]
    cases found : store.account? other with
    | none => rw [setLatestTransaction_none found]
    | some account =>
      rw [setLatestTransaction_some found]
      exact account?_setLatest found (fun account => { account with latestTransaction := tx }) rfl apart
  | setLatestSynchronizedTransaction other tx =>
    simp only [RepositoryCall.perform]
    cases found : store.account? other with
    | none => rw [setLatestSynchronizedTransaction_none found]
    | some account =>
      rw [setLatestSynchronizedTransaction_some found]
      exact account?_setLatest found
        (fun account => { account with latestSynchronizedTransaction := tx }) rfl apart
  | deleteTransaction owner removed =>
    simp only [RepositoryCall.perform]
    cases found : store.transaction? owner removed with
    | none => rw [deleteTransaction_none found]
    | some tx => rw [deleteTransaction_some found, account?_removeTransaction]
  | getAccount | listAccounts | addTransaction | getTransaction | flush => rfl

theorem perform_transaction? (apart : ¬ call.OnTransaction id txId) :
    (call.perform store).2.transaction? id txId = store.transaction? id txId := by
  cases call with
  | addTransaction owner tx =>
    have differ : ¬ (id = owner ∧ txId = tx.uuid) := fun same => apart ⟨same.1.symm, same.2.symm⟩
    change (store.putTransaction owner tx).transaction? id txId = _
    rw [transaction?_putTransaction, if_neg differ]
  | deleteTransaction owner removed =>
    have differ : ¬ (id = owner ∧ txId = removed) := fun same => apart ⟨same.1.symm, same.2.symm⟩
    simp only [RepositoryCall.perform]
    cases found : store.transaction? owner removed with
    | none => rw [deleteTransaction_none found]
    | some tx => rw [deleteTransaction_some found, transaction?_removeTransaction, if_neg differ]
  | deleteAccount other =>
    simp only [RepositoryCall.perform]
    cases found : store.account? other with
    | none => rw [deleteAccount_none found]
    | some account => rw [deleteAccount_some found, transaction?_removeAccount]
  | setLatestTransaction other tx =>
    simp only [RepositoryCall.perform]
    cases found : store.account? other with
    | none => rw [setLatestTransaction_none found]
    | some account => rw [setLatestTransaction_some found, transaction?_putAccount]
  | setLatestSynchronizedTransaction other tx =>
    simp only [RepositoryCall.perform]
    cases found : store.account? other with
    | none => rw [setLatestSynchronizedTransaction_none found]
    | some account => rw [setLatestSynchronizedTransaction_some found, transaction?_putAccount]
  | addAccount | getAccount | listAccounts | getTransaction | flush => rfl

end Store

namespace SledRepository

/-- From an empty database on, `SledRepository` cannot be told from the store of two maps: whatever is
    called, it returns the same, and a record changes only by a call that names it. -/
theorem sled_refines_store (codec : Codec) (inverts : codec.Inverts) (calls : List RepositoryCall)
    (named : ∀ call ∈ calls, call.UuidNamed) :
    let repo : SledRepository codec := RepositoryCall.performAll calls ⟨Sled.empty⟩
    let store := RepositoryCall.performAll calls Store.empty
    RepositoryCall.replies calls (⟨Sled.empty⟩ : SledRepository codec) =
      RepositoryCall.replies calls Store.empty ∧
    (∃ accounts, Repository.listAccounts repo = .ok accounts ∧ accounts.Nodup ∧
      ∀ account, account ∈ accounts ↔ store.account? account.uuid = some account) ∧
    (∀ call : RepositoryCall, call.UuidNamed →
      (∀ id, ¬ call.OnAccount id →
        Repository.getAccount id (call.perform repo).2 = Repository.getAccount id repo) ∧
      ∀ id txId, id.length = 16 → ¬ call.OnTransaction id txId →
        Repository.getTransaction id txId (call.perform repo).2 = Repository.getTransaction id txId repo) ∧
    (∀ id other, accountKey id = accountKey other → id = other) ∧
    (∀ id other txId, accountKey id ≠ txKey other txId) ∧
    ∀ id other txId otherTx, id.length = 16 → other.length = 16 →
      txKey id txId = txKey other otherTx → id = other ∧ txId = otherTx := by
  intro repo store
  have alike : ∀ (call : RepositoryCall) (repo : SledRepository codec) (store : Store), call.UuidNamed →
      Represents repo store →
      (call.perform repo).1 = (call.perform store).1 ∧ Represents (call.perform repo).2 (call.perform store).2 :=
    fun call _ _ named represents => represents.perform inverts call named
  rcases Machine.outputs_related alike named (represents_empty codec) with ⟨same, represents⟩
  refine ⟨same, ⟨store.listAccounts, represents.listAccounts inverts, store.nodup_listAccounts,
    store.mem_listAccounts⟩, ?_, fun id other => accountKey_inj.mp, accountKey_ne_txKey, ?_⟩
  · intro call named
    have next := (represents.perform inverts call named).2
    constructor
    · intro id apart
      refine (next.getAccount inverts id).trans ((represents.getAccount inverts id).trans ?_).symm
      simp only [Repository.getAccount, Store.perform_account? apart]
    · intro id txId length apart
      refine (next.getTransaction inverts length txId).trans
        ((represents.getTransaction inverts length txId).trans ?_).symm
      simp only [Repository.getTransaction, Store.perform_transaction? apart]
  · intro id other txId otherTx length length'
    exact (txKey_inj (length.trans length'.symm)).mp

/-- An account and a transaction whose ids are made of the bytes of the keys. -/
def colonAccount : Account := makeAccount (List.replicate 16 0x3a)

def prefixTransaction : Transaction := makeTransaction accountKeyPrefix txKeyPrefix

def colonCalls : List RepositoryCall :=
  [.addAccount colonAccount, .addTransaction colonAccount.uuid prefixTransaction,
    .setLatestTransaction colonAccount.uuid prefixTransaction.uuid, .listAccounts,
    .getTransaction colonAccount.uuid prefixTransaction.uuid, .deleteAccount colonAccount.uuid]

theorem sled_refines_store_colon :
    RepositoryCall.replies colonCalls (⟨Sled.empty⟩ : SledRepository protobuf) =
      RepositoryCall.replies colonCalls Store.empty :=
  (sled_refines_store protobuf protobuf_inverts colonCalls (by decide)).1

end SledRepository

end Flouze
