import Flouze.Server

namespace Flouze

open Repository

namespace RemoteCall

/-- What the server's checks let through as it is: a valid account that is new and has not been synchronized. -/
def Admitted (call : RemoteCall) (store : Store) : Prop :=
  ∀ account, call = .createAccount account → validateAccount account = .ok () ∧
    store.account? account.uuid = none ∧ account.latestTransaction = [] ∧ account.latestSynchronizedTransaction = []

/-- A call that the two remotes, each over its own store, answer alike and leave the same store after. -/
def Together (call : RemoteCall) (stores : Store × Store) : Prop :=
  (LocalRemote.answer call stores.1).1.Agree (ServerRpcImpl.answer call stores.2).1 ∧
    (LocalRemote.answer call stores.1).2 = (ServerRpcImpl.answer call stores.2).2

end RemoteCall

def LocalRemote.serve : List RemoteCall → Store → Store := Machine.after fun call store => (answer call store).2

def RemoteCall.sides (call : RemoteCall) (stores : Store × Store) : Store × Store :=
  ((LocalRemote.answer call stores.1).2, (ServerRpcImpl.answer call stores.2).2)

section Calls

variable {store : Store} {call : RemoteCall}

theorem createAccount_valid {account : Account} (accepts : (ServerRpcImpl.createAccount account store).1 = .ok ()) :
    validateAccount account = .ok () := by
  cases valid : validateAccount account with
  | error text =>
    simp only [ServerRpcImpl.createAccount, valid] at accepts
    cases accepts
  | ok _ => rfl

theorem createAccount_together {account : Account} :
    (RemoteCall.createAccount account).Together (store, store) ↔
      (RemoteCall.createAccount account).Admitted store := by
  constructor
  · intro together other called
    obtain rfl := RemoteCall.createAccount.inj called
    have accepts : (ServerRpcImpl.createAccount account store).1 = .ok () := (together.1.values ()).mp rfl
    have valid := createAccount_valid accepts
    rcases ServerRpcImpl.createAccount_cases account store with ⟨error, run⟩ | ⟨missing, run⟩
    · rw [run] at accepts
      cases accepts
    · have left : store.putAccount account = (ServerRpcImpl.createAccount account store).2 := together.2
      have found := congrArg (fun store => store.account? account.uuid) left
      simp only [run, Store.account?_putAccount, if_true] at found
      have same := Option.some.inj found
      exact ⟨valid, missing, congrArg Account.latestTransaction same,
        congrArg Account.latestSynchronizedTransaction same⟩
  · intro admitted
    rcases admitted account rfl with ⟨valid, missing, latest, synchronized⟩
    have run := ServerRpcImpl.createAccount_accepted valid missing
    have cleared : { account with latestTransaction := [], latestSynchronizedTransaction := [] } = account := by
      cases account
      cases latest
      cases synchronized
      rfl
    rw [cleared] at run
    have answers : ServerRpcImpl.answer (.createAccount account) store =
        LocalRemote.answer (.createAccount account) store := run
    constructor
    · rw [answers]
      exact .refl _
    · rw [answers]

theorem together_iff : call.Together (store, store) ↔ call.Admitted store := by
  have silent : (∀ account, call ≠ .createAccount account) → call.Admitted store :=
    fun other account called => absurd called (other account)
  cases call with
  | createAccount account => exact createAccount_together
  | getAccountInfo id => exact iff_of_true ⟨.refl _, rfl⟩ (silent fun _ => by simp)
  | getLatestTransaction id => exact iff_of_true ⟨.refl _, rfl⟩ (silent fun _ => by simp)
  | receiveTransactions id batch => exact iff_of_true ⟨.refl _, rfl⟩ (silent fun _ => by simp)
  | getChildTransactions id base => exact iff_of_true ⟨.refl _, rfl⟩ (silent fun _ => by simp)

theorem after_sides (calls : List RemoteCall) (stores : Store × Store) :
    Machine.after RemoteCall.sides calls stores =
      (LocalRemote.serve calls stores.1, ServerRpcImpl.serve calls stores.2) := by
  induction calls generalizing stores with
  | nil => rfl
  | cons call calls ih => exact ih (call.sides stores)

/-- From equal stores, the remotes stay alike exactly as long as each account that is created is one that the
    server's checks let through as it is. -/
theorem remotes_interchangeable_iff (store : Store) (calls : List RemoteCall) :
    (∀ before call later, calls = before ++ call :: later →
      call.Together (LocalRemote.serve before store, ServerRpcImpl.serve before store)) ↔
    ∀ before call later, calls = before ++ call :: later → call.Admitted (LocalRemote.serve before store) := by
  have exactly : ∀ (call : RemoteCall) (stores : Store × Store), stores.1 = stores.2 →
      (call.Together stores ↔ call.Admitted stores.1) := by
    intro call stores equal
    rcases stores with ⟨first, second⟩
    cases equal
    exact together_iff
  have equal : ∀ (call : RemoteCall) (stores : Store × Store), stores.1 = stores.2 → call.Admitted stores.1 →
      (call.sides stores).1 = (call.sides stores).2 :=
    fun call stores equal admitted => ((exactly call stores equal).mpr admitted).2
  have same : Machine.Throughout RemoteCall.sides RemoteCall.Together calls (store, store) ↔
      Machine.Throughout RemoteCall.sides (fun call stores => call.Admitted stores.1) calls (store, store) :=
    Machine.throughout_congr exactly equal rfl
  rw [Machine.throughout_iff, Machine.throughout_iff] at same
  simpa only [after_sides] using same

def pair : Account :=
  ⟨List.replicate 16 7, "Account", [], [], [⟨List.replicate 16 1, "P1"⟩, ⟨List.replicate 16 2, "P2"⟩]⟩

/-- An account that is created twice is overwritten by the one and refused by the other. -/
theorem created_twice_differs :
    let created := [RemoteCall.createAccount pair]
    (LocalRemote.answer (.createAccount pair) (LocalRemote.serve created .empty)).1 = .ok () ∧
    (ServerRpcImpl.answer (.createAccount pair) (ServerRpcImpl.serve created .empty)).1 ≠ .ok () ∧
    ¬ (RemoteCall.createAccount pair).Together
      (LocalRemote.serve created .empty, ServerRpcImpl.serve created .empty) := by
  have refused : (ServerRpcImpl.answer (.createAccount pair)
      (ServerRpcImpl.serve [.createAccount pair] .empty)).1 ≠ .ok () := by decide
  exact ⟨rfl, refused, fun together => refused ((together.1.values ()).mp rfl)⟩

end Calls

end Flouze
