import Flouze.Interchange
import Flouze.Lib.Interference
import Flouze.Repository.Reading
import Flouze.Repository.SledRefinement

namespace Flouze

open Linked Repository

def RemoteCall.account : RemoteCall → AccountId
  | createAccount account => account.uuid
  | getAccountInfo id | getLatestTransaction id | receiveTransactions id _ | getChildTransactions id _ => id

namespace Store

structure Alike (id : AccountId) (store store' : Store) : Prop where
  account : store.account? id = store'.account? id
  transactions : ∀ tx, store.transaction? id tx = store'.transaction? id tx

def Uuids (store : Store) : Prop := ∀ id record, store.account? id = some record → id.length = 16

theorem uuid_of_getAccount {store : Store} {id : AccountId} {record : Account}
    (found : getAccount id store = .ok record) : record.uuid = id := by
  cases stored : store.account? id with
  | none =>
    rw [getAccount_none stored] at found
    cases found
  | some known =>
    rw [getAccount_some stored] at found
    cases found
    exact uuid_of_account? stored

namespace Alike

variable {store store' later : Store} {id : AccountId}

theorem refl (id : AccountId) (store : Store) : Alike id store store := ⟨rfl, fun _ => rfl⟩

theorem trans (first : Alike id store later) (second : Alike id later store') : Alike id store store' :=
  ⟨first.account.trans second.account, fun tx => (first.transactions tx).trans (second.transactions tx)⟩

theorem putAccount (alike : Alike id store store') (record : Account) :
    Alike id (store.putAccount record) (store'.putAccount record) := by
  constructor
  · rw [account?_putAccount, account?_putAccount, alike.account]
  · exact alike.transactions

theorem getAccount (alike : Alike id store store') : getAccount id store = Repository.getAccount id store' := by
  simp only [Repository.getAccount, alike.account]

theorem getTransaction (alike : Alike id store store') (tx : TransactionId) :
    getTransaction id tx store = Repository.getTransaction id tx store' := by
  simp only [Repository.getTransaction, alike.transactions]

theorem putTransactions (alike : Alike id store store') (batch : List Transaction) :
    Alike id (store.putTransactions id batch) (store'.putTransactions id batch) := by
  induction batch generalizing store store' with
  | nil => exact alike
  | cons first rest ih =>
    apply ih
    refine ⟨alike.account, fun tx => ?_⟩
    rw [transaction?_putTransaction, transaction?_putTransaction, alike.transactions]

end Alike

end Store

namespace ServerRpcImpl

variable {store store' : Store} {id : AccountId} {call : RemoteCall}

theorem receive_alike (alike : store.Alike id store') (batch : List Transaction) :
    (receiveTransactions id batch store).1 = (receiveTransactions id batch store').1 ∧
      (receiveTransactions id batch store).2.Alike id (receiveTransactions id batch store').2 := by
  have known := alike.account
  cases found : store.account? id with
  | none =>
    rw [receive_missing found, receive_missing (known ▸ found)]
    exact ⟨rfl, alike⟩
  | some record =>
    have found' := known ▸ found
    by_cases linked : LinkedOn Transaction.uuid Transaction.parent record.latestTransaction batch
    · obtain rfl : record.uuid = id := Store.uuid_of_account? found
      rw [receive_accepted found linked, receive_accepted found' linked]
      exact ⟨rfl, (alike.putTransactions batch).putAccount _⟩
    · cases batch with
      | nil => exact absurd True.intro linked
      | cons first rest =>
        by_cases same : record.latestTransaction = first.parent
        · rw [receive_inconsistent found same linked, receive_inconsistent found' same linked]
          exact ⟨rfl, alike⟩
        · rw [receive_mustRebase found same, receive_mustRebase found' same]
          exact ⟨rfl, alike⟩

theorem create_alike {account : Account} (alike : store.Alike account.uuid store') :
    (createAccount account store).1 = (createAccount account store').1 ∧
      (createAccount account store).2.Alike account.uuid (createAccount account store').2 := by
  unfold createAccount
  rw [alike.getAccount]
  cases validateAccount account with
  | error text => exact ⟨rfl, alike⟩
  | ok _ =>
    cases getAccount account.uuid store' with
    | ok record => exact ⟨rfl, alike⟩
    | hang => exact ⟨rfl, alike⟩
    | err error =>
      cases error with
      | noSuchAccount _ => exact ⟨rfl, alike.putAccount _⟩
      | _ => exact ⟨rfl, alike⟩

theorem answer_alike (alike : store.Alike call.account store') :
    (answer call store).1 = (answer call store').1 ∧
      (answer call store).2.Alike call.account (answer call store').2 := by
  cases call with
  | createAccount account => exact create_alike alike
  | getAccountInfo id => exact ⟨alike.getAccount, alike⟩
  | getLatestTransaction id =>
    refine ⟨?_, alike⟩
    have known : getAccount id store = getAccount id store' := alike.getAccount
    simp only [answer, known]
  | receiveTransactions id batch => exact receive_alike alike batch
  | getChildTransactions id base =>
    refine ⟨?_, alike⟩
    apply getChild_agree (store.counted id) (store'.counted id) alike.getAccount _ alike.getTransaction
    exact fun record found => Store.uuid_of_getAccount found

theorem answer_other (other : call.account ≠ id) : (answer call store).2.Alike id store := by
  cases call with
  | createAccount account =>
    have differ : id ≠ account.uuid := fun same => other same.symm
    rcases createAccount_cases account store with ⟨error, run⟩ | ⟨_, run⟩
    · simp only [answer, run]
      exact .refl id store
    · simp only [answer, run]
      exact ⟨by simp [differ], fun tx => rfl⟩
  | getAccountInfo _ => exact .refl id store
  | getLatestTransaction _ => exact .refl id store
  | getChildTransactions _ _ => exact .refl id store
  | receiveTransactions owner batch =>
    have differ : id ≠ owner := fun same => other same.symm
    rcases receive_cases store owner batch with ⟨error, run⟩ | ⟨record, found, _, run⟩
    · simp only [answer, run]
      exact .refl id store
    · obtain rfl : record.uuid = owner := Store.uuid_of_account? found
      simp only [answer, run]
      refine ⟨by rw [Store.account?_received, if_neg differ], fun tx => ?_⟩
      exact Store.transaction?_received_absent fun same => absurd same differ

theorem validated_uuid {account : Account} (valid : validateAccount account = .ok ()) : account.uuid.length = 16 := by
  by_contra differs
  unfold validateAccount at valid
  simp only [differs, ne_eq, not_false_eq_true, if_true] at valid
  cases valid

theorem answer_uuids (uuids : store.Uuids) : (answer call store).2.Uuids := by
  intro id record found
  cases known : store.account? id with
  | some record => exact uuids id record known
  | none =>
    -- an account that was not there has been created, and its id has been checked
    by_contra short
    have missing : (answer call store).2.account? id = none := by
      apply (answer_missing_iff _).mpr known
      rintro account rfl rfl
      rcases createAccount_cases account store with ⟨error, run⟩ | ⟨_, run⟩
      · simp only [answer, run, known] at found
        cases found
      · exact short (validated_uuid (createAccount_valid (by rw [run])))
    rw [missing] at found
    cases found

end ServerRpcImpl

namespace SledRepository

variable {codec : Codec} {repo : SledRepository codec} {store : Store} {id : AccountId}

theorem Represents.addTransactions (represents : Represents repo store) (length : id.length = 16)
    (batch : List Transaction) : ∃ repo' : SledRepository codec,
      batch.forM (fun tx => (Repository.addTransaction id tx : Routine (SledRepository codec) ErrorKind Unit)) repo =
        (.ok (), repo') ∧ Represents repo' (store.putTransactions id batch) := by
  induction batch generalizing repo store with
  | nil => exact ⟨repo, rfl, represents⟩
  | cons first rest ih =>
    rcases ih (represents.putTransaction length first) with ⟨repo', run, after⟩
    exact ⟨repo', run, after⟩

theorem Represents.receive (inverts : codec.Inverts) (represents : Represents repo store) (uuids : store.Uuids)
    (batch : List Transaction) :
    (receiveTransactions id batch repo).1 = (receiveTransactions id batch store).1 ∧
      Represents (receiveTransactions id batch repo).2 (receiveTransactions id batch store).2 := by
  have read : Routine.view (Repository.getAccount id) repo = (Repository.getAccount id store, repo) := by
    rw [Routine.view_apply]
    exact congrArg (·, repo) (represents.getAccount inverts id)
  cases found : store.account? id with
  | none =>
    rw [Store.getAccount_none found] at read
    have run : receiveTransactions id batch repo = _ := Routine.bind_err read
    rw [run, receive_missing found]
    exact ⟨rfl, represents⟩
  | some record =>
    have length := uuids id record found
    obtain rfl : record.uuid = id := Store.uuid_of_account? found
    rw [Store.getAccount_some found] at read
    have opens : Routine.view (Repository.getAccount record.uuid) store = (.ok record, store) := by
      rw [Routine.view_apply, Store.getAccount_some found]
    unfold receiveTransactions
    rw [Routine.bind_ok read, Routine.bind_ok opens]
    cases batch with
    | nil => exact ⟨rfl, represents⟩
    | cons first rest =>
      by_cases differs : record.latestTransaction ≠ first.parent
      · simp only [if_pos differs]
        exact ⟨rfl, represents⟩
      · by_cases broken : (!checkChainConsistency (first :: rest)) = true
        · simp only [if_neg differs, if_pos broken]
          exact ⟨rfl, represents⟩
        · simp only [if_neg differs, if_neg broken]
          rcases represents.addTransactions length (first :: rest) with ⟨repo', run, after⟩
          rw [Routine.bind_ok run, Routine.bind_ok (addTransactions_run store record.uuid (first :: rest))]
          exact after.update inverts (fun account found => Store.setLatestTransaction_some found)
            Store.setLatestTransaction_none

theorem counted (repo : SledRepository codec) (id : AccountId) : Counted repo id := by
  intro ids distinct each
  have apart : (ids.map (txKey id)).Nodup := by
    apply distinct.map
    intro txId other same
    exact ((txKey_inj rfl).mp same).2
  have present : (ids.map (txKey id)).toFinset ⊆ repo.db.keysWith txKeyPrefix := by
    intro key member
    rcases List.mem_map.mp (List.mem_toFinset.mp member) with ⟨txId, among, rfl⟩
    rcases each txId among with ⟨tx, read⟩
    refine Finset.mem_filter.mpr ⟨Finmap.mem_keys.mpr ?_, ?_⟩
    · by_contra missing
      have absent : repo.db.get (txKey id txId) = none := Finmap.lookup_eq_none.mpr missing
      change SledRepository.getTransaction id txId repo = _ at read
      unfold SledRepository.getTransaction at read
      rw [absent] at read
      cases read
    · simp [txKey]
  calc
    ids.length = (ids.map (txKey id)).toFinset.card := by
      rw [List.toFinset_card_of_nodup apart, List.length_map]
    _ ≤ transactionCount repo := Finset.card_le_card present

/-- The server is the same over the database as over the store, for every caller that names an account
    by a uuid, and whoever does not changes nothing either. -/
theorem Represents.answer (inverts : codec.Inverts) (represents : Represents repo store) (uuids : store.Uuids)
    (call : RemoteCall) :
    (call.account.length = 16 → (ServerRpcImpl.answer call repo).1 = (ServerRpcImpl.answer call store).1) ∧
      Represents (ServerRpcImpl.answer call repo).2 (ServerRpcImpl.answer call store).2 := by
  have known : ∀ id, Repository.getAccount id repo = Repository.getAccount id store := represents.getAccount inverts
  cases call with
  | createAccount account =>
    simp only [ServerRpcImpl.answer, ServerRpcImpl.createAccount, known]
    cases validateAccount account with
    | error text => exact ⟨fun _ => rfl, represents⟩
    | ok _ =>
      cases Repository.getAccount account.uuid store with
      | ok record => exact ⟨fun _ => rfl, represents⟩
      | hang => exact ⟨fun _ => rfl, represents⟩
      | err error =>
        cases error with
        | noSuchAccount _ => exact ⟨fun _ => rfl, represents.putAccount _⟩
        | _ => exact ⟨fun _ => rfl, represents⟩
  | getAccountInfo id => exact ⟨fun _ => known id, represents⟩
  | getLatestTransaction id =>
    refine ⟨fun _ => ?_, represents⟩
    simp only [ServerRpcImpl.answer, known]
  | receiveTransactions id batch =>
    rcases represents.receive inverts uuids batch with ⟨same, after⟩
    exact ⟨fun _ => same, after⟩
  | getChildTransactions id base =>
    refine ⟨fun length => ?_, represents⟩
    apply getChild_agree (counted repo id) (store.counted id) (known id) _
      (represents.getTransaction inverts length)
    intro record found
    rw [known] at found
    exact Store.uuid_of_getAccount found

theorem isolates (inverts : codec.Inverts) (length : id.length = 16) :
    Machine.Isolates (ServerRpcImpl.answer (σ := SledRepository codec)) (ServerRpcImpl.answer (σ := Store))
      (fun call => call.account == id)
      fun repo store' => ∃ store, Represents repo store ∧ store.Uuids ∧ store.Alike id store' := by
  constructor
  · intro call repo store' mine seen
    rcases seen with ⟨store, represents, uuids, alike⟩
    obtain rfl : call.account = id := beq_iff_eq.mp mine
    rcases represents.answer inverts uuids call with ⟨same, after⟩
    rcases ServerRpcImpl.answer_alike alike with ⟨same', alike'⟩
    exact ⟨(same length).trans same', _, after, ServerRpcImpl.answer_uuids uuids, alike'⟩
  · intro call repo store' others seen
    rcases seen with ⟨store, represents, uuids, alike⟩
    have other : call.account ≠ id := by simpa using others
    exact ⟨_, (represents.answer inverts uuids call).2, ServerRpcImpl.answer_uuids uuids,
      (ServerRpcImpl.answer_other other).trans alike⟩

/-- What the server answers about an account is what it would answer if nobody had ever called it about
    any other, whatever the calls are and whether they are well formed or not. -/
theorem accounts_isolated (inverts : codec.Inverts) (represents : Represents repo store) (uuids : store.Uuids)
    (calls : List RemoteCall) (length : id.length = 16) :
    (Machine.outputs ServerRpcImpl.answer calls repo).filter (fun answer => answer.1.account == id) =
      Machine.outputs ServerRpcImpl.answer (calls.filter fun call => call.account == id) repo ∧
    (Machine.outputs ServerRpcImpl.answer calls repo).filter (fun answer => answer.1.account == id) =
      Machine.outputs ServerRpcImpl.answer (calls.filter fun call => call.account == id) store := by
  have start : ∃ first, Represents repo first ∧ first.Uuids ∧ first.Alike id store :=
    ⟨store, represents, uuids, .refl id store⟩
  exact ⟨(isolates inverts length).purged calls start, ((isolates inverts length).outputs calls start).1⟩

def mixedCalls : List RemoteCall :=
  let owner : Person := ⟨List.replicate 16 1, "Alice"⟩
  [.createAccount { colonAccount with label := "Trip", members := [owner] },
    .createAccount { makeAccount [7] with label := "Short", members := [owner] },
    .receiveTransactions [0x3a] [prefixTransaction], .receiveTransactions colonAccount.uuid [makeTransaction [1] []],
    .getChildTransactions [0x3a] [0x3a], .getChildTransactions colonAccount.uuid []]

theorem accounts_isolated_mixed :
    (Machine.outputs ServerRpcImpl.answer mixedCalls (⟨Sled.empty⟩ : SledRepository protobuf)).filter
        (fun answer => answer.1.account == colonAccount.uuid) =
      Machine.outputs ServerRpcImpl.answer (mixedCalls.filter fun call => call.account == colonAccount.uuid)
        Store.empty := by
  have uuids : Store.empty.Uuids := by
    intro id record found
    cases found
  exact (accounts_isolated protobuf_inverts (represents_empty protobuf) uuids mixedCalls (by decide)).2

end SledRepository

end Flouze
