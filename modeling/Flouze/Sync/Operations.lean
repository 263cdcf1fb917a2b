import Flouze.Ffi
import Flouze.Lib.Keeps
import Flouze.Lib.Machine
import Flouze.Server
import Flouze.Sync.Stages

namespace Flouze

open Linked Repository

/-- A remote that may reply anything: the `n`-th call it gets is answered with `replies n`. -/
def heard (replies : Nat → (call : RemoteCall) → call.Reply) (call : RemoteCall) (n : Nat) : call.Reply × Nat :=
  (replies n call, n + 1)

/-- The calls that write to a store, of an application, of a server, and of a client that talks to
    any server. -/
inductive Operation where
  | addAccount (account : Account)
  | createAccount (account : Account)
  | deleteAccount (id : AccountId)
  | addTransaction (id : AccountId) (tx : Transaction)
  | receiveTransactions (id : AccountId) (batch : List Transaction)
  | sync (id : AccountId) (replies : Nat → (call : RemoteCall) → call.Reply)
  | cloneRemote (id : AccountId) (replies : Nat → (call : RemoteCall) → call.Reply)

namespace Operation

def apply (generate : Nat → TransactionId) : Operation → Device Store → Device Store
  | addAccount account, device => (onRepo (Repository.addAccount account) device).2
  | createAccount account, device => (onRepo (ServerRpcImpl.createAccount account) device).2
  | deleteAccount id, device => (onRepo (Repository.deleteAccount id) device).2
  | addTransaction id tx, device => (onRepo (Ffi.addTransaction id tx) device).2
  | receiveTransactions id batch, device => (onRepo (Flouze.receiveTransactions id batch) device).2
  | sync id replies, device => ((Flouze.sync generate id device).run (heard replies) 0).1.2
  | cloneRemote id replies, device => ((Flouze.cloneRemote generate id device).run (heard replies) 0).1.2

end Operation

theorem forChain_keeps {id : AccountId} {β : Type} {store : Store}
    {pass : β → Transaction → Outcome ErrorKind (ForInStep β)}
    (kept : β → Prop)
    (passes : ∀ acc txId tx, kept acc → store.transaction? id txId = some tx →
      ∀ step, pass acc tx = .ok step → kept step.value)
    {fuel : Nat} {head : TransactionId} {acc result : β} (start : kept acc)
    (returns : forChain store pass fuel ⟨id, head⟩ acc = .ok result) : kept result := by
  induction fuel generalizing head acc with
  | zero => cases returns
  | succ fuel ih =>
    by_cases empty : head = []
    · subst empty
      simp only [forChain, next_nil] at returns
      exact Outcome.ok.inj returns ▸ start
    · cases found : store.transaction? id head with
      | none => simp [forChain, TransactionChain.next, empty, Store.getTransaction_none found] at returns
      | some tx =>
        simp only [forChain, next_stored empty found, Outcome.ok_bind, Outcome.bind_eq_ok] at returns
        rcases returns with ⟨step, passed, returns⟩
        have next := passes acc head tx start found step passed
        cases step with
        | done value => exact Outcome.ok.inj returns ▸ next
        | yield value => exact ih next returns

theorem onRepo_keeps {α : Type} {inv : Store → Prop} {routine : Routine Store ErrorKind α} {post : α → Prop}
    (keeps : routine.Keeps inv post) :
    (onRepo routine).Keeps (fun device : Device Store => inv device.repo) post :=
  fun device kept => keeps device.repo kept

theorem generateTransactionId_keeps {generate : Nat → TransactionId} {inv : Store → Prop} :
    (generateTransactionId generate).Keeps (fun device : Device Store => inv device.repo) fun _ => True :=
  fun _ kept => ⟨kept, fun _ _ => True.intro⟩

def GoodReply (id : AccountId) (good : Transaction → Prop) : (call : RemoteCall) → call.Value → Prop
  | .getChildTransactions account _, batch => account = id → ∀ tx ∈ batch, good tx
  | .createAccount _, _ | .getAccountInfo _, _ | .getLatestTransaction _, _
  | .receiveTransactions _ _, _ => True

def Guarded (P : Store → Prop) (id : AccountId) (members : List Person) (store : Store) : Prop :=
  P store ∧ ∃ record, store.account? id = some record ∧ record.members = members

/-- Each write of a sync of this account keeps `P`, as long as only `good` transactions are written. -/
structure KeptBySync (P : Store → Prop) (id : AccountId) (members : List Person) (good : Transaction → Prop) :
    Prop where
  stored : ∀ {store txId tx}, Guarded P id members store → store.transaction? id txId = some tx → good tx
  moved : ∀ {tx : Transaction} (uuid parent : TransactionId), good tx → good { tx with uuid := uuid, parent := parent }
  account : ∀ {store account}, Guarded P id members store → account.uuid = id → account.members = members →
    P (store.putAccount account)
  transaction : ∀ {store tx}, Guarded P id members store → good tx → P (store.putTransaction id tx)
  removed : ∀ {store} (txId : TransactionId), Guarded P id members store → P (store.removeTransaction id txId)

namespace KeptBySync

variable {P : Store → Prop} {id : AccountId} {members : List Person} {good : Transaction → Prop}
variable (kept : KeptBySync P id members good)

include kept

variable {generate : Nat → TransactionId} {account : Account}

theorem guarded_putAccount {store : Store} (guarded : Guarded P id members store) {account : Account}
    (owner : account.uuid = id) (same : account.members = members) :
    Guarded P id members (store.putAccount account) := by
  refine ⟨kept.account guarded owner same, account, ?_, same⟩
  subst owner
  simp

theorem addAccount_keeps {account : Account} (owner : account.uuid = id) (same : account.members = members) :
    (Repository.addAccount account : Routine Store ErrorKind Unit).Keeps (Guarded P id members) fun _ => True :=
  fun _ guarded => ⟨kept.guarded_putAccount guarded owner same, fun _ _ => True.intro⟩

theorem addTransaction_keeps {tx : Transaction} (fine : good tx) :
    (Repository.addTransaction id tx : Routine Store ErrorKind Unit).Keeps (Guarded P id members) fun _ => True :=
  fun _ guarded => ⟨⟨kept.transaction guarded fine, guarded.2⟩, fun _ _ => True.intro⟩

theorem deleteTransaction_keeps (removed : TransactionId) :
    (Repository.deleteTransaction id removed : Routine Store ErrorKind Unit).Keeps
      (Guarded P id members) fun _ => True := by
  intro store guarded
  refine ⟨?_, fun _ _ => True.intro⟩
  cases present : store.transaction? id removed with
  | none =>
    rw [Store.deleteTransaction_none present]
    exact guarded
  | some tx =>
    rw [Store.deleteTransaction_some present]
    exact ⟨kept.removed removed guarded, guarded.2⟩

theorem setLatestSynchronized_keeps (latest : TransactionId) :
    (Repository.setLatestSynchronizedTransaction id latest : Routine Store ErrorKind Unit).Keeps
      (Guarded P id members) fun _ => True := by
  intro store guarded
  refine ⟨?_, fun _ _ => True.intro⟩
  have ⟨_, record, found, same⟩ := guarded
  have owner : record.uuid = id := Store.uuid_of_account? found
  rw [Store.setLatestSynchronizedTransaction_some found]
  exact kept.guarded_putAccount guarded owner same

theorem collect_keeps {store : Store} (guarded : Guarded P id members store) {account : Account}
    (owner : account.uuid = id) (stop : TransactionId) {collected : List Transaction}
    (returns : eachTransaction store account [] (collectUntil stop) = .ok collected) :
    ∀ tx ∈ collected, good tx := by
  subst owner
  apply forChain_keeps (fun found => ∀ tx ∈ found, good tx) _ (by simp) returns
  intro acc txId tx before found step passed
  unfold collectUntil at passed
  split at passed
  · obtain rfl := Outcome.ok.inj passed
    exact before
  · obtain rfl := Outcome.ok.inj passed
    intro other member
    rcases List.mem_append.mp member with earlier | here
    · exact before other earlier
    · obtain rfl := List.mem_singleton.mp here
      exact kept.stored guarded found

theorem rebaseFrom_keeps {inv : Store → Prop} (parent : TransactionId) {pending : List Transaction}
    (fine : ∀ tx ∈ pending, good tx) :
    (rebaseFrom generate parent pending).Keeps (fun device : Device Store => inv device.repo)
      fun rebased => ∀ tx ∈ rebased.1, good tx := by
  induction pending generalizing parent with
  | nil => exact .pure (by simp)
  | cons tx pending ih =>
    apply Routine.Keeps.bind generateTransactionId_keeps
    intro newId _
    apply Routine.Keeps.bind (ih newId fun other member => fine other (by simp [member]))
    intro given moved
    rcases given with ⟨rebased, oldIds⟩
    apply Routine.Keeps.pure
    intro other member
    rcases List.mem_cons.mp member with rfl | later
    · exact kept.moved newId parent (fine tx (by simp))
    · exact moved other later

theorem collect_view_keeps (owner : account.uuid = id) (stop : TransactionId) :
    (Routine.view fun device : Device Store =>
      eachTransaction device.repo account [] (collectUntil stop)).Keeps
        (fun device => Guarded P id members device.repo) fun collected => ∀ tx ∈ collected, good tx :=
  .view fun _ guarded _ returns => kept.collect_keeps guarded owner stop returns

theorem rebaseTransactions_keeps (owner : account.uuid = id) (newBase : TransactionId) :
    (rebaseTransactions generate account newBase).Keeps (fun device : Device Store => Guarded P id members device.repo)
      fun rebased => ∀ tx ∈ rebased.1, good tx := by
  apply Routine.Keeps.bind (kept.collect_view_keeps owner _)
  intro toRebase fine
  exact kept.rebaseFrom_keeps newBase fun tx member => fine tx (List.mem_reverse.mp member)

theorem adoptTransactions_keeps (owner : account.uuid = id) (same : account.members = members)
    {received : List Transaction} (fine : ∀ tx ∈ received, good tx) :
    (adoptTransactions generate account received).Keeps (fun device : Device Store => Guarded P id members device.repo)
      fun advanced => advanced.uuid = id ∧ advanced.members = members := by
  unfold adoptTransactions
  split
  · exact .fail _
  · next last _ =>
    apply Routine.Keeps.bind (Routine.Keeps.look _)
    intro _ _
    split
    · exact .fail _
    · apply Routine.Keeps.bind (kept.rebaseTransactions_keeps owner last.uuid)
      intro given moved
      rcases given with ⟨rebased, oldIds⟩
      subst owner
      apply Routine.Keeps.bind (onRepo_keeps (.forM fun tx member => kept.addTransaction_keeps (fine tx member)))
      intro _ _
      apply Routine.Keeps.bind (onRepo_keeps (.forM fun tx member => kept.addTransaction_keeps (moved tx member)))
      intro _ _
      apply Routine.Keeps.bind (onRepo_keeps (kept.addAccount_keeps (by rfl) (by exact same)))
      intro _ _
      apply Routine.Keeps.bind (onRepo_keeps (.forM fun old _ => kept.deleteTransaction_keeps old))
      intro _ _
      exact .pure ⟨rfl, same⟩

theorem rebaseLocalTransactions_keeps (owner : account.uuid = id) (same : account.members = members) :
    (rebaseLocalTransactions generate account).Keeps (fun device : Device Store => Guarded P id members device.repo)
      (GoodReply id good) fun advanced => advanced.uuid = id ∧ advanced.members = members := by
  apply Process.Keeps.bind (Process.Keeps.request _)
  intro latest _
  split
  · exact .pure ⟨owner, same⟩
  · apply Process.Keeps.bind (Process.Keeps.request _)
    intro received fine
    exact .perform (kept.adoptTransactions_keeps owner same (fine owner))

theorem pushLocalTransactions_keeps (owner : account.uuid = id) (same : account.members = members) :
    (pushLocalTransactions account).Keeps (fun device : Device Store => Guarded P id members device.repo)
      (GoodReply id good) fun _ => True := by
  apply Process.Keeps.bind (.perform (kept.collect_view_keeps owner _))
  intro pending _
  split
  · exact .pure True.intro
  · apply Process.Keeps.bind (Process.Keeps.request _)
    intro _ _
    subst owner
    apply Process.Keeps.bind (.perform (onRepo_keeps (kept.setLatestSynchronized_keeps _)))
    intro _ _
    exact .perform (onRepo_keeps (kept.addAccount_keeps rfl same))

theorem sync_keeps (generate : Nat → TransactionId) :
    (sync generate id).Keeps (fun device : Device Store => Guarded P id members device.repo)
      (GoodReply id good) fun _ => True := by
  have known : ∀ store, Guarded P id members store → ∀ record, getAccount id store = .ok record →
      record.uuid = id ∧ record.members = members := by
    intro store guarded record returns
    have ⟨_, stored, found, same⟩ := guarded
    rw [Store.getAccount_some found] at returns
    obtain rfl := Outcome.ok.inj returns
    exact ⟨Store.uuid_of_account? found, same⟩
  apply Process.Keeps.bind (.perform (onRepo_keeps (.view known)))
  intro record given
  rcases given with ⟨owner, same⟩
  apply Process.Keeps.bind (kept.rebaseLocalTransactions_keeps owner same)
  intro advanced given
  rcases given with ⟨owner, same⟩
  exact kept.pushLocalTransactions_keeps owner same

end KeptBySync

section Heard

variable {P : Store → Prop} {generate : Nat → TransactionId} {device : Device Store} {id : AccountId}
variable {replies : Nat → (call : RemoteCall) → call.Reply} {good : Account → Transaction → Prop}

theorem sync_heard (here : P device.repo)
    (kept : ∀ record, device.repo.account? id = some record → KeptBySync P id record.members (good record))
    (offers : ∀ record, device.repo.account? id = some record → ∀ n base batch,
      replies n (.getChildTransactions id base) = .ok batch → ∀ tx ∈ batch, good record tx) (calls : Nat) :
    P ((sync generate id device).run (heard replies) calls).1.2.repo := by
  cases found : device.repo.account? id with
  | none =>
    rw [sync_missing found]
    exact here
  | some record =>
    have keeps := (kept record found).sync_keeps generate device ⟨here, record, found, rfl⟩
    refine (keeps.run ?_ calls).1.1
    intro call n value reply
    cases call with
    | getChildTransactions account base =>
      intro same
      subst same
      exact offers record found n base value reply
    | _ => exact True.intro

theorem clone_heard (here : P device.repo)
    (entered : ∀ account, replies 0 (.getAccountInfo id) = .ok account →
      let blank := { account with latestTransaction := [], latestSynchronizedTransaction := [] }
      P (((sync generate id { device with repo := device.repo.putAccount blank }).run (heard replies) 1).1.2.repo)) :
    P ((cloneRemote generate id device).run (heard replies) 0).1.2.repo := by
  let adopt : Account → SyncM Store Unit := fun account => do
    Process.perform (onRepo
      (Repository.addAccount { account with latestTransaction := [], latestSynchronizedTransaction := [] }))
    sync generate id
  have called : cloneRemote generate id device =
      .call (.getAccountInfo id) device (Process.andThen adopt) := rfl
  rw [called, Resumption.run_call]
  change P ((Process.andThen adopt (replies 0 (.getAccountInfo id)) device).run (heard replies) 1).1.2.repo
  cases reply : replies 0 (.getAccountInfo id) with
  | err error => exact here
  | hang => exact here
  | ok account => exact entered account reply

end Heard

end Flouze
