import Flouze.Isolation

namespace Flouze

open Linked Repository

abbrev Answered := Σ call : RemoteCall, call.Reply

def Answered.created (id : AccountId) : Answered → Option Account
  | ⟨.createAccount account, .ok ()⟩ => if account.uuid = id then some account else none
  | _ => none

def Answered.accepted (id : AccountId) : Answered → List Transaction
  | ⟨.receiveTransactions owner batch, .ok ()⟩ => if owner = id then batch else []
  | _ => []

def created (id : AccountId) (answers : List Answered) : List Account := answers.filterMap (Answered.created id)

def accepted (id : AccountId) (answers : List Answered) : List Transaction := answers.flatMap (Answered.accepted id)

/-- The account as it was created, after transactions have gone on top of it. -/
def Account.holding (account : Account) (transactions : List Transaction) : Account :=
  { account with
    latestTransaction := tip Transaction.uuid [] transactions
    latestSynchronizedTransaction := [] }

/-- What a store holds of an account for which `accounts` were created and `transactions` accepted. -/
structure Recorded (id : AccountId) (store : Store) (accounts : List Account) (transactions : List Transaction) :
    Prop where
  once : accounts.length ≤ 1
  account : store.account? id = accounts.head?.map fun account => account.holding transactions
  last : ∀ key, store.transaction? id key = transactions.reverse.find? fun tx => tx.uuid = key
  linked : LinkedOn Transaction.uuid Transaction.parent [] transactions
  unmade : accounts = [] → transactions = []

namespace Recorded

variable {id : AccountId} {store : Store} {accounts : List Account} {transactions batch : List Transaction}
variable {account record : Account}

theorem empty (id : AccountId) : Recorded id Store.empty [] [] :=
  ⟨Nat.zero_le _, rfl, fun _ => rfl, True.intro, fun _ => rfl⟩

theorem putAccount (recorded : Recorded id store accounts transactions) (missing : store.account? id = none)
    (owner : account.uuid = id) :
    Recorded id (store.putAccount { account with latestTransaction := [], latestSynchronizedTransaction := [] })
      (accounts ++ [account]) transactions := by
  have none_yet : accounts = [] := by
    cases accounts with
    | nil => rfl
    | cons first rest =>
      rw [recorded.account] at missing
      cases missing
  subst none_yet
  obtain rfl := recorded.unmade rfl
  refine ⟨Nat.le_refl _, ?_, recorded.last, True.intro, fun none => by cases none⟩
  simp [Account.holding, owner]

theorem find_putTransactions (store : Store) (id : AccountId) (batch : List Transaction) (key : TransactionId) :
    (store.putTransactions id batch).transaction? id key =
      (batch.reverse.find? fun tx => tx.uuid = key).or (store.transaction? id key) := by
  induction batch generalizing store with
  | nil => rfl
  | cons first rest ih =>
    have unfolded : store.putTransactions id (first :: rest) =
        (store.putTransaction id first).putTransactions id rest := rfl
    rw [unfolded, ih, Store.transaction?_putTransaction, List.reverse_cons, List.find?_append, Option.or_assoc]
    congr 1
    by_cases same : first.uuid = key
    · simp [same]
    · simp [same, Ne.symm same]

theorem received (recorded : Recorded id store accounts transactions) (found : store.account? id = some record)
    (linked : LinkedOn Transaction.uuid Transaction.parent record.latestTransaction batch) :
    Recorded id (store.received record batch) accounts (transactions ++ batch) := by
  obtain rfl : record.uuid = id := Store.uuid_of_account? found
  have known := recorded.account
  rw [found] at known
  cases accounts with
  | nil => cases known
  | cons account rest =>
    have at_tip : record = account.holding transactions := Option.some.inj known
    refine ⟨recorded.once, ?_, ?_, ?_, fun none => by cases none⟩
    · rw [Store.account?_received, if_pos rfl, List.head?_cons, Option.map_some, at_tip]
      simp [Account.holding, tip_append]
    · intro key
      change (store.putTransactions record.uuid batch).transaction? record.uuid key = _
      rw [find_putTransactions, recorded.last, List.reverse_append, List.find?_append]
    · rw [at_tip] at linked
      exact (linkedOn_append _ _ _ _ _).mpr ⟨recorded.linked, linked⟩

theorem chain (recorded : Recorded id store accounts transactions) (made : accounts ≠ [])
    (distinct : (transactions.map Transaction.uuid).Nodup) (nonempty : ∀ tx ∈ transactions, tx.uuid ≠ []) :
    store.Chain id transactions := by
  rcases List.exists_cons_of_ne_nil made with ⟨account, rest, rfl⟩
  refine ⟨_, recorded.account, rfl, recorded.linked, ?_⟩
  intro tx member
  refine ⟨nonempty tx member, ?_⟩
  rw [recorded.last]
  cases search : transactions.reverse.find? fun other => other.uuid = tx.uuid with
  | none =>
    have absent := List.find?_eq_none.mp search tx (List.mem_reverse.mpr member)
    simp at absent
  | some other =>
    have same : other.uuid = tx.uuid := by simpa using List.find?_some search
    have among := List.mem_reverse.mp (List.mem_of_find?_eq_some search)
    rw [List.inj_on_of_nodup_map distinct among member same]

theorem congr {store' : Store} (recorded : Recorded id store accounts transactions) (alike : store'.Alike id store) :
    Recorded id store' accounts transactions :=
  ⟨recorded.once, alike.account.trans recorded.account,
    fun key => (alike.transactions key).trans (recorded.last key), recorded.linked, recorded.unmade⟩

end Recorded

namespace ServerRpcImpl

variable {id : AccountId} {store : Store} {call : RemoteCall} {log : List Answered}

theorem silent_other (other : call.account ≠ id) (reply : call.Reply) :
    Answered.created id ⟨call, reply⟩ = none ∧ Answered.accepted id ⟨call, reply⟩ = [] := by
  cases call with
  | createAccount account =>
    have differs : account.uuid ≠ id := other
    cases reply with
    | ok _ => exact ⟨if_neg differs, rfl⟩
    | err _ => exact ⟨rfl, rfl⟩
    | hang => exact ⟨rfl, rfl⟩
  | receiveTransactions owner batch =>
    have differs : owner ≠ id := other
    cases reply with
    | ok _ => exact ⟨rfl, if_neg differs⟩
    | err _ => exact ⟨rfl, rfl⟩
    | hang => exact ⟨rfl, rfl⟩
  | getAccountInfo _ => exact ⟨rfl, rfl⟩
  | getLatestTransaction _ => exact ⟨rfl, rfl⟩
  | getChildTransactions _ _ => exact ⟨rfl, rfl⟩

theorem recorded_step (recorded : Recorded id store (created id log) (accepted id log)) (call : RemoteCall) :
    Recorded id (answer call store).2 (created id (log ++ [⟨call, (answer call store).1⟩]))
      (accepted id (log ++ [⟨call, (answer call store).1⟩])) := by
  have grown : ∀ answered : Answered, created id (log ++ [answered]) =
      created id log ++ (Answered.created id answered).toList ∧
      accepted id (log ++ [answered]) = accepted id log ++ Answered.accepted id answered := by
    intro answered
    constructor
    · cases one : Answered.created id answered <;> simp [created, one]
    · simp [accepted]
  rw [(grown _).1, (grown _).2]
  by_cases about : call.account = id
  · cases call with
    | createAccount account =>
      have owner : account.uuid = id := about
      rcases createAccount_cases account store with ⟨error, run⟩ | ⟨missing, run⟩
      · simpa [answer, run, Answered.created, Answered.accepted] using recorded
      · have made := recorded.putAccount (owner ▸ missing) owner
        simpa [answer, run, Answered.created, Answered.accepted, owner] using made
    | receiveTransactions owner batch =>
      obtain rfl : owner = id := about
      rcases receive_cases store owner batch with ⟨error, run⟩ | ⟨record, found, linked, run⟩
      · simpa [answer, run, Answered.created, Answered.accepted] using recorded
      · have grows := recorded.received found linked
        simpa [answer, run, Answered.created, Answered.accepted] using grows
    | getAccountInfo _ => simpa [answer, Answered.created, Answered.accepted] using recorded
    | getLatestTransaction _ => simpa [answer, Answered.created, Answered.accepted] using recorded
    | getChildTransactions _ _ => simpa [answer, Answered.created, Answered.accepted] using recorded
  · rw [(silent_other about _).1, (silent_other about _).2]
    simpa using recorded.congr (answer_other about)

theorem recorded_run (recorded : Recorded id store (created id log) (accepted id log)) (calls : List RemoteCall) :
    Recorded id (serve calls store) (created id (log ++ Machine.outputs answer calls store))
      (accepted id (log ++ Machine.outputs answer calls store)) := by
  induction calls generalizing store log with
  | nil => simpa [Machine.outputs, serve, Machine.after] using recorded
  | cons call calls ih =>
    have rest := ih (recorded_step recorded call)
    rw [List.append_assoc] at rest
    exact rest

/-- The server is its log: whatever was called, an account was created at most once and is still as it
    was created, its latest transaction is the last one of what was accepted, an id leads to what was
    accepted under it last, and as long as the accepted ids are new the history is what was accepted. -/
theorem server_is_its_log (calls : List RemoteCall) (id : AccountId) :
    let answers : List Answered := Machine.outputs answer calls Store.empty
    let store := serve calls Store.empty
    (created id answers).length ≤ 1 ∧
    store.account? id = (created id answers).head?.map (fun account => account.holding (accepted id answers)) ∧
    (∀ key, store.transaction? id key = (accepted id answers).reverse.find? fun tx => tx.uuid = key) ∧
    LinkedOn Transaction.uuid Transaction.parent [] (accepted id answers) ∧
    (created id answers ≠ [] → ((accepted id answers).map Transaction.uuid).Nodup →
      (∀ tx ∈ accepted id answers, tx.uuid ≠ []) → store.Chain id (accepted id answers)) := by
  intro answers store
  have start : Recorded id Store.empty (created id []) (accepted id []) := .empty id
  have recorded : Recorded id store (created id answers) (accepted id answers) := recorded_run start calls
  exact ⟨recorded.once, recorded.account, recorded.last, recorded.linked, recorded.chain⟩

end ServerRpcImpl

end Flouze
