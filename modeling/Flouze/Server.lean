import Flouze.Lib.Machine
import Flouze.Remote
import Flouze.Repository.Receive

namespace Flouze

open Linked Repository

def Store.Readable (store : Store) : Prop :=
  ∀ id record, store.account? id = some record → ∃ chain, store.ChainAt id record.latestTransaction chain

namespace ServerRpcImpl

def serve : List RemoteCall → Store → Store := Machine.after fun call store => (answer call store).2

/-- What a call may do to the histories: nothing when it fails, and a batch that is accepted goes on
    top of its account's. -/
structure Intact (call : RemoteCall) (store : Store) : Prop where
  readable : ∀ id record, (answer call store).2.account? id = some record →
    ∃ chain, (answer call store).2.ChainAt id record.latestTransaction chain ∧
      (chain.map Transaction.uuid).Nodup
  refused : ∀ error, (answer call store).1 = .err error →
    ∀ id chain, (answer call store).2.Chain id chain ↔ store.Chain id chain
  accepted : ∀ id batch, call = .receiveTransactions id batch →
    (receiveTransactions id batch store).1 = .ok () →
    (∀ chain, store.Chain id chain → (answer call store).2.Chain id (chain ++ batch)) ∧
    ∀ other, other ≠ id → ∀ chain, (answer call store).2.Chain other chain ↔ store.Chain other chain

/-- The ids of a batch that passes the checks are new: not null, not twice in the batch, and not in
    the history it goes on top of. -/
def NewIds (call : RemoteCall) (store : Store) : Prop :=
  ∀ id batch record chain, call = .receiveTransactions id batch → store.account? id = some record →
    followsFrom record.latestTransaction batch = true → store.ChainAt id record.latestTransaction chain →
    (∀ tx ∈ batch, tx.uuid ≠ []) ∧ (batch.map Transaction.uuid).Nodup ∧
      ∀ tx ∈ batch, tx.uuid ∉ chain.map Transaction.uuid

section Calls

variable {store : Store} {call : RemoteCall}

theorem intact_unchanged (readable : store.Readable) (same : (answer call store).2 = store)
    (silent : ∀ id batch, call = .receiveTransactions id batch →
      (receiveTransactions id batch store).1 ≠ .ok ()) : Intact call store := by
  refine ⟨?_, ?_, ?_⟩
  · rw [same]
    intro id record found
    rcases readable id record found with ⟨chain, read⟩
    exact ⟨chain, read, read.nodup⟩
  · intro _ _ id chain
    rw [same]
  · intro id batch called ok
    exact absurd ok (silent id batch called)

theorem createAccount_cases (account : Account) (store : Store) :
    (∃ error, createAccount account store = (.err error, store)) ∨
    (store.account? account.uuid = none ∧ createAccount account store =
      (.ok (), store.putAccount
        { account with latestTransaction := [], latestSynchronizedTransaction := [] })) := by
  unfold createAccount
  cases validateAccount account with
  | error text => exact .inl ⟨_, rfl⟩
  | ok _ =>
    cases found : store.account? account.uuid with
    | some record =>
      simp only [Store.getAccount_some found]
      exact .inl ⟨_, rfl⟩
    | none => exact .inr ⟨rfl, by simp only [Store.getAccount_none found]; rfl⟩

theorem createAccount_accepted {account : Account} (valid : validateAccount account = .ok ())
    (missing : store.account? account.uuid = none) : createAccount account store =
      (.ok (), store.putAccount
        { account with latestTransaction := [], latestSynchronizedTransaction := [] }) := by
  simp only [createAccount, valid, Store.getAccount_none missing]
  rfl

theorem answer_missing_iff {id : AccountId}
    (apart : ∀ account, call = .createAccount account → account.uuid ≠ id) :
    (answer call store).2.account? id = none ↔ store.account? id = none := by
  cases call with
  | createAccount account =>
    rcases createAccount_cases account store with ⟨error, run⟩ | ⟨_, run⟩
    · simp only [answer, run]
    · simp only [answer, run, Store.account?_putAccount, (apart account rfl).symm, if_false]
  | receiveTransactions owner batch =>
    rcases receive_cases store owner batch with ⟨error, run⟩ | ⟨record, found, _, run⟩
    · simp only [answer, run]
    · obtain rfl : record.uuid = owner := Store.uuid_of_account? found
      simp only [answer, run, Store.account?_received]
      split
      · next same => simp [same, found]
      · exact Iff.rfl
  | getAccountInfo owner => exact Iff.rfl
  | getLatestTransaction owner => exact Iff.rfl
  | getChildTransactions owner base => exact Iff.rfl

theorem createAccount_intact (readable : store.Readable) (account : Account) :
    Intact (.createAccount account) store := by
  have never : ∀ id batch, RemoteCall.createAccount account = .receiveTransactions id batch →
      (receiveTransactions id batch store).1 ≠ .ok () := by
    intro id batch called
    cases called
  rcases createAccount_cases account store with ⟨error, run⟩ | ⟨missing, run⟩
  · exact intact_unchanged readable (by simp only [answer, run]) never
  · refine ⟨?_, ?_, fun id batch called ok => absurd ok (never id batch called)⟩
    · simp only [answer, run]
      intro id record found
      by_cases same : id = account.uuid
      · subst same
        simp only [Store.account?_putAccount, if_pos, Option.some.injEq] at found
        subst found
        exact ⟨[], Chained.nil _ _ _ _, by simp⟩
      · simp only [Store.account?_putAccount, same, if_false] at found
        rcases readable id record found with ⟨chain, read⟩
        exact ⟨chain, read, read.nodup⟩
    · intro error failed
      simp only [answer, run] at failed
      cases failed

theorem receive_new_ids {id : AccountId} {batch : List Transaction}
    (intact : Intact (.receiveTransactions id batch) store) : NewIds (.receiveTransactions id batch) store := by
  intro _ _ record chain called found follows read
  rcases RemoteCall.receiveTransactions.inj called with ⟨rfl, rfl⟩
  have run := receive_accepted found ((followsFrom_iff _ _).mp follows)
  rcases (intact.accepted id batch rfl (by rw [run])).1 chain ⟨record, found, read⟩ with ⟨record', _, after⟩
  have distinct := after.nodup
  rw [List.map_append] at distinct
  refine ⟨?_, (List.nodup_append.mp distinct).2.1, ?_⟩
  · intro tx member
    exact (after.stored tx (List.mem_append_right _ member)).1
  · intro tx member again
    rcases List.mem_map.mp again with ⟨other, present, same⟩
    exact Chained.not_mem_right after present member same.symm

theorem receive_intact (readable : store.Readable) {id : AccountId} {batch : List Transaction}
    (fresh : NewIds (.receiveTransactions id batch) store) : Intact (.receiveTransactions id batch) store := by
  rcases receive_cases store id batch with ⟨error, run⟩ | ⟨record, found, linked, run⟩
  · apply intact_unchanged readable (by simp only [answer, run])
    intro _ _ called
    rcases RemoteCall.receiveTransactions.inj called with ⟨rfl, rfl⟩
    simp [run]
  · obtain rfl : record.uuid = id := Store.uuid_of_account? found
    rcases readable _ record found with ⟨chain, read⟩
    obtain ⟨nonempty, distinct, apart⟩ :=
      fresh _ batch record chain rfl found ((followsFrom_iff _ _).mpr linked) read
    have extended := read.received linked nonempty distinct apart
    have after : (answer (.receiveTransactions record.uuid batch) store).2 = store.received record batch := by
      simp only [answer, run]
    refine ⟨?_, ?_, ?_⟩
    · rw [after]
      intro other record' found'
      rw [Store.account?_received] at found'
      split at found'
      · next same =>
        subst same
        obtain rfl := Option.some.inj found'
        exact ⟨_, extended, extended.nodup⟩
      · next differ =>
        rcases readable other record' found' with ⟨chain', read'⟩
        exact ⟨chain', read'.received_other differ, read'.nodup⟩
    · intro error failed
      simp only [answer, run] at failed
      cases failed
    · intro _ _ called _
      rcases RemoteCall.receiveTransactions.inj called with ⟨rfl, rfl⟩
      rw [after]
      constructor
      · intro chain' given
        rcases given with ⟨record', found', read'⟩
        obtain rfl := Option.some.inj (found'.symm.trans found)
        obtain rfl := Chained.unique read' read
        exact ⟨_, by rw [Store.account?_received, if_pos rfl], extended⟩
      · intro other differ chain'
        unfold Store.Chain
        rw [Store.account?_received, if_neg differ]
        constructor
        · intro given
          rcases given with ⟨record', found', read'⟩
          exact ⟨record', found', Chained.congr read' fun _ _ =>
            (Store.transaction?_received_absent fun same => absurd same differ).symm⟩
        · intro given
          rcases given with ⟨record', found', read'⟩
          exact ⟨record', found', read'.received_other differ⟩

theorem intact_iff (readable : store.Readable) : Intact call store ↔ NewIds call store := by
  have harmless : (∀ id batch, call ≠ .receiveTransactions id batch) → NewIds call store :=
    fun other id batch _ _ called => absurd called (other id batch)
  cases call with
  | createAccount account =>
    exact iff_of_true (createAccount_intact readable account) (harmless fun _ _ => by simp)
  | receiveTransactions id batch => exact ⟨receive_new_ids, receive_intact readable⟩
  | getAccountInfo id =>
    exact iff_of_true (intact_unchanged readable rfl (by simp)) (harmless fun _ _ => by simp)
  | getLatestTransaction id =>
    exact iff_of_true (intact_unchanged readable rfl (by simp)) (harmless fun _ _ => by simp)
  | getChildTransactions id base =>
    exact iff_of_true (intact_unchanged readable rfl (by simp)) (harmless fun _ _ => by simp)

end Calls

/-- Whatever is sent in whatever order, the server keeps its histories exactly as long as the batches
    that pass its checks bring new ids. -/
theorem histories_intact_iff {store : Store} (readable : store.Readable) (calls : List RemoteCall) :
    (∀ before call after, calls = before ++ call :: after → Intact call (serve before store)) ↔
      ∀ before call after, calls = before ++ call :: after → NewIds call (serve before store) := by
  unfold serve
  rw [← Machine.throughout_iff, ← Machine.throughout_iff]
  apply Machine.throughout_congr (fun call store (readable : store.Readable) => intact_iff readable) _ readable
  intro call store readable fresh id record found
  rcases ((intact_iff readable).mpr fresh).readable id record found with ⟨chain, read, _⟩
  exact ⟨chain, read⟩

def holdingOne : Store :=
  .holding { makeAccount [7] with latestTransaction := [0] } [makeTransaction [0] []]

theorem holdingOne_account :
    holdingOne.account? [7] = some { makeAccount [7] with latestTransaction := [0] } := Store.holding_account

theorem holdingOne_read : holdingOne.ChainAt [7] [0] [makeTransaction [0] []] :=
  Store.holding_read (by decide) (by decide) (by decide)

theorem holdingOne_readable : holdingOne.Readable := by
  intro id record found
  by_cases same : id = [7]
  · subst same
    obtain rfl := Option.some.inj (holdingOne_account.symm.trans found)
    exact ⟨_, holdingOne_read⟩
  · have missing : holdingOne.account? id = none := Store.holding_other same
    rw [missing] at found
    cases found

theorem histories_intact_appended :
    Intact (.receiveTransactions [7] [makeTransaction [1] [0]]) holdingOne := by
  have fresh : NewIds (.receiveTransactions [7] [makeTransaction [1] [0]]) holdingOne := by
    intro id batch record chain called found _ read
    rcases RemoteCall.receiveTransactions.inj called with ⟨rfl, rfl⟩
    obtain rfl := Option.some.inj (holdingOne_account.symm.trans found)
    obtain rfl := Chained.unique read holdingOne_read
    decide
  exact (histories_intact_iff holdingOne_readable [_]).mpr (Machine.throughout_iff.mp ⟨fresh, True.intro⟩) [] _ [] rfl

/-- A batch whose only transaction has the id of the one it goes on top of is accepted, and the
    history becomes a circle. -/
theorem reused_id_closes_circle :
    holdingOne.Readable ∧
    (ServerRpcImpl.answer (.receiveTransactions [7] [makeTransaction [0] [0]]) holdingOne).1 = .ok () ∧
    (ServerRpcImpl.answer (.getChildTransactions [7] [])
      (serve [.receiveTransactions [7] [makeTransaction [0] [0]]] holdingOne)).1 = .hang ∧
    ¬ Intact (.receiveTransactions [7] [makeTransaction [0] [0]]) holdingOne := by
  have hangs : (getChildTransactions [7] []
      (serve [.receiveTransactions [7] [makeTransaction [0] [0]]] holdingOne)) = .hang := by decide
  refine ⟨holdingOne_readable, by decide, hangs, ?_⟩
  intro intact
  have stored : (serve [.receiveTransactions [7] [makeTransaction [0] [0]]] holdingOne).account? [7] =
      some { makeAccount [7] with latestTransaction := [0] } := by decide
  rcases intact.readable [7] _ stored with ⟨chain, read, _⟩
  have returns := getChild_known stored read (absurd rfl)
  rw [hangs] at returns
  cases returns

end ServerRpcImpl

end Flouze
