import Flouze.Sync.Honest
import Flouze.Sync.Operations

namespace Flouze

open Linked Repository

/-- The account is there, and nothing has changed since but its history. -/
def Confined (id : AccountId) (before store : Store) : Prop :=
  Framed id before store ∧ ∃ record, store.account? id = some record

namespace Confined

variable {id : AccountId} {before store : Store} {account record : Account} {α : Type}

theorem profile (confined : Confined id before store) (found : store.account? id = some record) {start : Account}
    (first : before.account? id = some start) : record.profile = start.profile := by
  have same := confined.1.profiles id
  rw [found, first] at same
  exact Option.some.inj same

theorem known (confined : Confined id before store) : ∃ start, before.account? id = some start := by
  rcases confined.2 with ⟨record, found⟩
  have same := confined.1.profiles id
  rw [found] at same
  cases first : before.account? id with
  | none => simp [first] at same
  | some start => exact ⟨start, rfl⟩

theorem putAccount (confined : Confined id before store) (owner : account.uuid = id) {start : Account}
    (first : before.account? id = some start) (same : account.profile = start.profile) :
    Confined id before (store.putAccount account) := by
  subst owner
  refine ⟨⟨?_, ?_, confined.1.transactions⟩, account, by simp⟩
  · intro other
    by_cases here : other = account.uuid
    · subst here
      simp [first, same]
    · rw [Store.account?_putAccount, if_neg here]
      exact confined.1.profiles other
  · intro other differ
    rw [Store.account?_putAccount, if_neg differ]
    exact confined.1.accounts other differ

theorem putTransaction (confined : Confined id before store) (tx : Transaction) :
    Confined id before (store.putTransaction id tx) := by
  refine ⟨⟨confined.1.profiles, confined.1.accounts, ?_⟩, confined.2⟩
  intro other differ key
  rw [Store.transaction?_putTransaction, if_neg fun same => differ same.1]
  exact confined.1.transactions other differ key

theorem removeTransaction (confined : Confined id before store) (removed : TransactionId) :
    Confined id before (store.removeTransaction id removed) := by
  refine ⟨⟨confined.1.profiles, confined.1.accounts, ?_⟩, confined.2⟩
  intro other differ key
  rw [Store.transaction?_removeTransaction, if_neg fun same => differ same.1]
  exact confined.1.transactions other differ key

end Confined

section Writes

variable {id : AccountId} {before : Store} {start account : Account} {generate : Nat → TransactionId}

theorem addAccount_confined (first : before.account? id = some start) (owner : account.uuid = id)
    (same : account.profile = start.profile) :
    (Repository.addAccount account : Routine Store ErrorKind Unit).Keeps (Confined id before) fun _ => True :=
  fun _ confined => ⟨confined.putAccount owner first same, fun _ _ => True.intro⟩

theorem addTransaction_confined (tx : Transaction) :
    (Repository.addTransaction id tx : Routine Store ErrorKind Unit).Keeps (Confined id before) fun _ => True :=
  fun _ confined => ⟨confined.putTransaction tx, fun _ _ => True.intro⟩

theorem deleteTransaction_confined (removed : TransactionId) :
    (Repository.deleteTransaction id removed : Routine Store ErrorKind Unit).Keeps
      (Confined id before) fun _ => True := by
  intro store confined
  refine ⟨?_, fun _ _ => True.intro⟩
  cases present : store.transaction? id removed with
  | none =>
    rw [Store.deleteTransaction_none present]
    exact confined
  | some tx =>
    rw [Store.deleteTransaction_some present]
    exact confined.removeTransaction removed

theorem setLatestSynchronized_confined (latest : TransactionId) :
    (Repository.setLatestSynchronizedTransaction id latest : Routine Store ErrorKind Unit).Keeps
      (Confined id before) fun _ => True := by
  intro store confined
  refine ⟨?_, fun _ _ => True.intro⟩
  rcases confined.known with ⟨start, first⟩
  have ⟨_, record, found⟩ := confined
  rw [Store.setLatestSynchronizedTransaction_some found]
  have owner : record.uuid = id := Store.uuid_of_account? found
  exact confined.putAccount owner first (confined.profile found first)

theorem rebaseFrom_confined (parent : TransactionId) (pending : List Transaction) :
    (rebaseFrom generate parent pending).Keeps (fun device : Device Store => Confined id before device.repo)
      fun _ => True := by
  induction pending generalizing parent with
  | nil => exact .pure True.intro
  | cons tx pending ih =>
    apply Routine.Keeps.bind generateTransactionId_keeps
    intro newId _
    apply Routine.Keeps.bind (ih newId)
    intro _ _
    exact .pure True.intro

theorem adoptTransactions_confined (first : before.account? id = some start) (owner : account.uuid = id)
    (same : account.profile = start.profile) (received : List Transaction) :
    (adoptTransactions generate account received).Keeps (fun device : Device Store => Confined id before device.repo)
      fun advanced => advanced.uuid = id ∧ advanced.profile = start.profile := by
  unfold adoptTransactions
  split
  · exact .fail _
  · next last _ =>
    apply Routine.Keeps.bind (Routine.Keeps.look _)
    intro _ _
    split
    · exact .fail _
    · apply Routine.Keeps.bind (Routine.Keeps.bind (Routine.Keeps.look _) fun _ _ => rebaseFrom_confined _ _)
      intro given _
      rcases given with ⟨rebased, oldIds⟩
      subst owner
      apply Routine.Keeps.bind (onRepo_keeps (.forM fun tx _ => addTransaction_confined tx))
      intro _ _
      apply Routine.Keeps.bind (onRepo_keeps (.forM fun tx _ => addTransaction_confined tx))
      intro _ _
      apply Routine.Keeps.bind (onRepo_keeps (addAccount_confined first (by rfl) (by exact same)))
      intro _ _
      apply Routine.Keeps.bind (onRepo_keeps (.forM fun old _ => deleteTransaction_confined old))
      intro _ _
      exact .pure ⟨rfl, same⟩

theorem sync_keeps_confined (generate : Nat → TransactionId) (first : before.account? id = some start) :
    (sync generate id).Keeps (fun device : Device Store => Confined id before device.repo)
      (fun _ _ => True) fun _ => True := by
  have reads : ∀ store, Confined id before store → ∀ record, getAccount id store = .ok record →
      record.uuid = id ∧ record.profile = start.profile := by
    intro store confined record returns
    have ⟨_, stored, found⟩ := confined
    rw [Store.getAccount_some found] at returns
    obtain rfl := Outcome.ok.inj returns
    exact ⟨Store.uuid_of_account? found, confined.profile found first⟩
  apply Process.Keeps.bind (.perform (onRepo_keeps (.view reads)))
  intro record given
  rcases given with ⟨owner, same⟩
  have rebased : (rebaseLocalTransactions generate record).Keeps
      (fun device : Device Store => Confined id before device.repo) (fun _ _ => True)
      fun advanced => advanced.uuid = id ∧ advanced.profile = start.profile := by
    apply Process.Keeps.bind (Process.Keeps.request _)
    intro latest _
    split
    · exact .pure ⟨owner, same⟩
    · apply Process.Keeps.bind (Process.Keeps.request _)
      intro received _
      exact .perform (adoptTransactions_confined first owner same received)
  apply Process.Keeps.bind rebased
  intro advanced given
  rcases given with ⟨owner, same⟩
  apply Process.Keeps.bind (.perform (Routine.Keeps.look _))
  intro pending _
  split
  · exact .pure True.intro
  · apply Process.Keeps.bind (Process.Keeps.request _)
    intro _ _
    subst owner
    apply Process.Keeps.bind (.perform (onRepo_keeps (setLatestSynchronized_confined _)))
    intro _ _
    exact .perform (onRepo_keeps (addAccount_confined first rfl same))

end Writes

section Runs

variable {ω : Type} {generate : Nat → TransactionId} {device : Device Store} {id : AccountId}

theorem sync_framed (answer : (call : RemoteCall) → ω → call.Reply × ω) (partner : ω) :
    Framed id device.repo ((sync generate id device).run answer partner).1.2.repo := by
  cases found : device.repo.account? id with
  | none =>
    rw [sync_missing found]
    exact Framed.refl id device.repo
  | some start =>
    have keeps := sync_keeps_confined generate found device ⟨Framed.refl id device.repo, start, found⟩
    exact (keeps.run (fun _ _ _ _ => True.intro) partner).1.1

/-- Whatever the remote answers and whatever the store holds, a sync changes nothing but the history
    of the account it is about. -/
theorem sync_confined (generate : Nat → TransactionId) (id : AccountId) (device : Device Store)
    (answer : (call : RemoteCall) → ω → call.Reply × ω) (partner : ω) :
    let after := ((sync generate id device).run answer partner).1.2.repo
    (∀ other, (after.account? other).map Account.profile = (device.repo.account? other).map Account.profile) ∧
      ∀ other, other ≠ id → after.account? other = device.repo.account? other ∧
        ∀ tx, after.transaction? other tx = device.repo.transaction? other tx := by
  intro after
  have framed : Framed id device.repo after := sync_framed answer partner
  exact ⟨framed.profiles, fun other differ => ⟨framed.accounts other differ, framed.transactions other differ⟩⟩

theorem clone_called (generate : Nat → TransactionId) (id : AccountId) (device : Device Store)
    (answer : (call : RemoteCall) → ω → call.Reply × ω) (partner : ω) :
    (cloneRemote generate id device).run answer partner =
      (Process.andThen (fun account : Account => do
        Process.perform (onRepo
          (addAccount { account with latestTransaction := [], latestSynchronizedTransaction := [] }))
        sync generate id) (answer (.getAccountInfo id) partner).1 device).run answer
          (answer (.getAccountInfo id) partner).2 := rfl

theorem clone_silent {answer : (call : RemoteCall) → ω → call.Reply × ω} {partner : ω}
    (silent : ∀ account, (answer (.getAccountInfo id) partner).1 ≠ .ok account) :
    ((cloneRemote generate id device).run answer partner).1.2 = device := by
  rw [clone_called]
  cases reply : (answer (.getAccountInfo id) partner).1 with
  | ok account => exact absurd reply (silent account)
  | err error => rfl
  | hang => rfl

theorem clone_entered {answer : (call : RemoteCall) → ω → call.Reply × ω} {partner : ω} {account : Account}
    (told : (answer (.getAccountInfo id) partner).1 = .ok account) :
    (cloneRemote generate id device).run answer partner =
      (sync generate id { device with repo := device.repo.putAccount account.profile }).run answer
        (answer (.getAccountInfo id) partner).2 := by
  rw [clone_called, told]
  rfl

end Runs

end Flouze
