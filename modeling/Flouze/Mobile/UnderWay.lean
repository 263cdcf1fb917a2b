import Mathlib.Algebra.BigOperators.Group.List.Basic
import Mathlib.Data.Multiset.UnionInter
import Mathlib.Tactic.Abel
import Flouze.Mobile.AccountListing

namespace Flouze

/-! What a phone has under way, counted in any way that adds up. -/

abbrev SyncAnswer := Σ _ : SyncCall, Except String Unit

structure Inventory (M : Type) where
  task : Task → M
  call : Asked → M
  answer : Phone.Answer → M
  syncCall : SyncCall → M
  syncAnswer : SyncAnswer → M

namespace Phone

def follows : (call : Asked) → Except String call.request.Value → List Task
  | ⟨_, .addAccount _⟩, .ok _ => [.accountListChanged, .getRepository ⟨.accountList, .flush⟩]
  | ⟨_, .deleteAccount _⟩, .ok _ => [.accountListChanged, .getRepository ⟨.accountPage, .flush⟩]
  | ⟨_, .addTransaction _ _⟩, .ok _ => [.getRepository ⟨.accountPage, .flush⟩]
  | ⟨_, .addAccount _⟩, .error _ | ⟨.accountList, .flush⟩, .error _ => [.getRepository ⟨.accountList, .listAccounts⟩]
  | _, _ => []

def followsSync : SyncCall → Except String Unit → List Task
  | .cloneRemote page _, .ok _ => [.accountListChanged, .getRepository ⟨.clonePage page, .flush⟩]
  | _, _ => []

section Total

variable {M : Type} [AddCommMonoid M] (inventory : Inventory M)

def total (phone : Phone) : M :=
  (phone.tasks.map inventory.task).sum + (phone.repository.calls.map inventory.call).sum +
    (phone.repository.results.map inventory.answer).sum + (phone.synchronizer.calls.map inventory.syncCall).sum +
    (phone.synchronizer.results.map inventory.syncAnswer).sum

variable {phone : Phone}

theorem total_awaited (tasks : List Task) (phone : Phone) :
    ({ phone with tasks := phone.tasks ++ tasks } : Phone).total inventory =
      phone.total inventory + (tasks.map inventory.task).sum := by
  simp only [total, List.map_append, List.sum_append]
  abel

theorem total_await (task : Task) (phone : Phone) :
    (phone.await task).total inventory = phone.total inventory + inventory.task task := by
  rw [await, total_awaited, List.map_singleton, List.sum_singleton]

theorem total_finished {i : Nat} {task : Task} (here : phone.tasks[i]? = some task) :
    phone.total inventory = inventory.task task + (phone.finished i).total inventory := by
  rcases List.getElem?_eq_some_iff.mp here with ⟨inside, rfl⟩
  have whole := ((List.getElem_cons_eraseIdx_perm inside).map inventory.task).sum_eq
  rw [List.map_cons, List.sum_cons] at whole
  simp only [total, finished, ← whole]
  abel

theorem total_called (call : Asked) (phone : Phone) :
    ({ phone with opened := true, repository := phone.repository.call call } : Phone).total inventory =
      phone.total inventory + inventory.call call := by
  simp only [total, Worker.call, List.map_append, List.sum_append, List.map_singleton, List.sum_singleton]
  abel

theorem total_syncCalled (call : SyncCall) (phone : Phone) :
    ({ phone with synchronizer := phone.synchronizer.call call } : Phone).total inventory =
      phone.total inventory + inventory.syncCall call := by
  simp only [total, Worker.call, List.map_append, List.sum_append, List.map_singleton, List.sum_singleton]
  abel

theorem total_delivered {answer : Answer} {rest : List Answer} (results : phone.repository.results = answer :: rest) :
    phone.total inventory = inventory.answer answer +
      ({ phone with repository := { phone.repository with results := rest } } : Phone).total inventory := by
  simp only [total, results, List.map_cons, List.sum_cons]
  abel

theorem total_syncDelivered {answer : SyncAnswer} {rest : List SyncAnswer}
    (results : phone.synchronizer.results = answer :: rest) :
    phone.total inventory = inventory.syncAnswer answer +
      ({ phone with synchronizer := { phone.synchronizer with results := rest } } : Phone).total inventory := by
  simp only [total, results, List.map_cons, List.sum_cons]
  abel

theorem total_taken {call : Asked} {calls : List Asked} (head : phone.repository.calls = call :: calls)
    (answers : List Answer) (stuck : Bool) (device : Device Store) :
    ({ phone with
      repository := ⟨calls, phone.repository.results ++ answers, stuck⟩
      device := device } : Phone).total inventory + inventory.call call =
        phone.total inventory + (answers.map inventory.answer).sum := by
  simp only [total, head, List.map_cons, List.sum_cons, List.map_append, List.sum_append]
  abel

theorem total_syncTaken {call : SyncCall} {calls : List SyncCall} (head : phone.synchronizer.calls = call :: calls)
    (answers : List SyncAnswer) (stuck : Bool) (device : Device Store) :
    ({ phone with
      synchronizer := ⟨calls, phone.synchronizer.results ++ answers, stuck⟩
      device := device } : Phone).total inventory + inventory.syncCall call =
        phone.total inventory + (answers.map inventory.syncAnswer).sum := by
  simp only [total, head, List.map_cons, List.sum_cons, List.map_append, List.sum_append]
  abel

theorem complete_tasks (sorting : AccountSorting) (call : Asked) (result : Except String call.request.Value)
    (phone : Phone) : (complete sorting call result phone).tasks = phone.tasks ++ follows call result := by
  rcases call with ⟨asker, request⟩
  cases request with
  | listAccounts => cases asker <;> cases result <;> exact (List.append_nil _).symm
  | addAccount account => cases asker <;> cases result <;>
      simp [complete, follows, unsaved, loadAccounts, call, await, add]
  | deleteAccount id => cases asker <;> cases result <;> simp [complete, follows, call, await]
  | listTransactions id => cases asker <;> cases result <;> exact (List.append_nil _).symm
  | addTransaction id tx => cases asker <;> cases result <;> simp [complete, follows, call, await]
  | getBalance id => cases asker <;> cases result <;> exact (List.append_nil _).symm
  | flush => cases asker <;> cases result <;> simp [complete, follows, unsaved, loadAccounts, call, await, add, onPage]

theorem total_complete (sorting : AccountSorting) (call : Asked) (result : Except String call.request.Value)
    (phone : Phone) : (complete sorting call result phone).total inventory =
      phone.total inventory + ((follows call result).map inventory.task).sum := by
  have onward := complete_onward sorting ⟨call, result⟩ phone
  rw [← total_awaited]
  simp only [total, complete_tasks, onward.repository, onward.synchronizer]

theorem total_completeSync (call : SyncCall) (result : Except String Unit) (phone : Phone) :
    (completeSync call result phone).total inventory =
      phone.total inventory + ((followsSync call result).map inventory.task).sum := by
  rw [← total_awaited]
  cases call with
  | sync id => simp [completeSync, followsSync]
  | cloneRemote page id =>
    cases result with
    | ok value => simp [completeSync, followsSync, total, await, Phone.call]
    | error message => simp [completeSync, followsSync, total, onPage]

end Total

section Members

variable {α : Type} (inventory : Inventory (Multiset α)) {phone : Phone} {item : α}

theorem mem_total_call {call : Asked} {calls : List Asked} (head : phone.repository.calls = call :: calls)
    (member : item ∈ inventory.call call) : item ∈ phone.total inventory := by
  have whole := total_taken inventory head [] phone.repository.stuck phone.device
  rw [List.map_nil, List.sum_nil, add_zero] at whole
  rw [← whole]
  exact Multiset.mem_add.mpr (.inr member)

theorem mem_total_syncCall {call : SyncCall} {calls : List SyncCall} (head : phone.synchronizer.calls = call :: calls)
    (member : item ∈ inventory.syncCall call) : item ∈ phone.total inventory := by
  have whole := total_syncTaken inventory head [] phone.synchronizer.stuck phone.device
  rw [List.map_nil, List.sum_nil, add_zero] at whole
  rw [← whole]
  exact Multiset.mem_add.mpr (.inr member)

end Members

end Phone

end Flouze
