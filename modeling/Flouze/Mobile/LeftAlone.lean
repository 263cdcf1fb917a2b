import Flouze.Mobile.UnderWay

namespace Flouze

/-! How much can still happen while nobody touches the phone. -/

/-- An answer weighs more than all that it can lead to. -/
def Bindings.Request.weight : Bindings.Request → Nat
  | .listAccounts | .listTransactions _ | .getBalance _ => 1
  | .flush => 4
  | .addAccount _ | .deleteAccount _ | .addTransaction _ _ => 11

def Task.weight : Task → Nat
  | .accountListChanged => 4
  | .getRepository call => call.request.weight + 2
  | .saveAccountConfig _ _ => 14
  | .getAccountInfo _ => 1
  | .importing _ _ _ => 14
  | .getNativePointers _ _ => 13

namespace Phone

def weights : Inventory Nat where
  task := Task.weight
  call call := call.request.weight + 1
  answer answer := answer.1.request.weight
  syncCall _ := 12
  syncAnswer _ := 11

def weight (phone : Phone) : Nat := phone.total weights

/-- Something goes on without anyone touching the phone. -/
inductive Moves (phone : Phone) : PhoneEvent → Prop
  | resume (i : Nat) (task : Task) (here : phone.tasks[i]? = some task) (given : ∀ page, task ≠ .getAccountInfo page) :
      Moves phone (.resume i)
  | told (i page : Nat) (remoteAccount : Account) (here : phone.tasks[i]? = some (.getAccountInfo page)) :
      Moves phone (.told i remoteAccount)
  | fail (i : Nat) (task : Task) (message : String) (saved : Bool) (here : phone.tasks[i]? = some task)
      (fails : phone.canFail task = true) : Moves phone (.fail i message saved)
  | handle (error : Option String) (waiting : phone.repository.calls ≠ []) (returns : phone.repository.stuck = false) :
      Moves phone (.handle error)
  | deliver (waiting : phone.repository.results ≠ []) : Moves phone .deliver
  | handleSync (replies : Nat → (call : RemoteCall) → call.Reply) (waiting : phone.synchronizer.calls ≠ [])
      (returns : phone.synchronizer.stuck = false) : Moves phone (.handleSync replies)
  | deliverSync (waiting : phone.synchronizer.results ≠ []) : Moves phone .deliverSync

section Busy

variable {σ Call : Type} {Value : Call → Type} {worker : Worker Call Value}

theorem handle_busy (act : (call : Call) → Routine σ String (Value call)) (returns : worker.stuck = false)
    {call : Call} {calls : List Call} (head : worker.calls = call :: calls) (state : σ) :
    ∃ answers stuck state', worker.handle act state = (⟨calls, worker.results ++ answers, stuck⟩, state') ∧
      (answers = [] ∨ ∃ result, answers = [⟨call, result⟩]) := by
  simp only [Worker.handle, returns, head]
  cases act call state with
  | mk outcome state' =>
    cases outcome with
    | ok value => exact ⟨[⟨call, .ok value⟩], _, state', rfl, .inr ⟨_, rfl⟩⟩
    | err message => exact ⟨[⟨call, .error message⟩], _, state', rfl, .inr ⟨_, rfl⟩⟩
    | hang => exact ⟨[], true, state', by simp, .inl rfl⟩

end Busy

section Weights

variable {sorting : AccountSorting} {order : IterationOrder} {generate : Nat → TransactionId} {phone : Phone}

theorem weight_pos (request : Bindings.Request) : 0 < request.weight := by
  cases request <;> simp [Bindings.Request.weight]

theorem follows_lighter (call : Asked) (result : Except String call.request.Value) :
    ((follows call result).map Task.weight).sum < call.request.weight := by
  have positive := weight_pos call.request
  unfold follows
  split
  all_goals simp only [List.map_cons, List.map_nil, List.sum_cons, List.sum_nil, Task.weight, Bindings.Request.weight]
    at positive ⊢
  all_goals omega

theorem complete_weight (sorting : AccountSorting) (call : Asked) (result : Except String call.request.Value)
    (phone : Phone) : (complete sorting call result phone).weight < phone.weight + call.request.weight := by
  have lighter := follows_lighter call result
  have whole : (complete sorting call result phone).weight =
      phone.weight + ((follows call result).map Task.weight).sum := total_complete weights sorting call result phone
  omega

theorem completeSync_weight (call : SyncCall) (result : Except String Unit) (phone : Phone) :
    (completeSync call result phone).weight < phone.weight + 11 := by
  have whole : (completeSync call result phone).weight =
      phone.weight + ((followsSync call result).map Task.weight).sum := total_completeSync weights call result phone
  have lighter : ((followsSync call result).map Task.weight).sum < 11 := by
    unfold followsSync
    split <;> simp [Task.weight, Bindings.Request.weight]
  omega

theorem finished_weight {i : Nat} {task : Task} (here : phone.tasks[i]? = some task) :
    phone.weight = task.weight + (phone.finished i).weight := total_finished weights here

theorem await_weight (task : Task) (phone : Phone) : (phone.await task).weight = phone.weight + task.weight :=
  total_await weights task phone

theorem unsaved_weight (message : String) (phone : Phone) : (phone.unsaved message).weight = phone.weight + 3 :=
  await_weight (.getRepository ⟨.accountList, .listAccounts⟩) _

theorem resume_weight (task : Task) (given : ∀ page, task ≠ .getAccountInfo page) (phone : Phone) :
    (resume task phone).weight < phone.weight + task.weight := by
  cases task with
  | accountListChanged =>
    have whole := await_weight (.getRepository ⟨.accountList, .listAccounts⟩) (phone.add .loading)
    exact whole.trans_lt (Nat.add_lt_add_left (by decide) _)
  | getRepository call =>
    have whole := total_called weights call phone
    exact whole.trans_lt (Nat.add_lt_add_left (Nat.lt_succ_self _) _)
  | saveAccountConfig account accountConfig =>
    have whole := await_weight (.getRepository ⟨.accountList, .addAccount account⟩) (phone.save account.uuid accountConfig)
    exact whole.trans_lt (Nat.add_lt_add_left (Nat.lt_succ_self _) _)
  | getAccountInfo page => exact absurd rfl (given page)
  | importing page remoteAccount accountConfig =>
    have whole := await_weight (.getNativePointers page remoteAccount.uuid)
      { phone.save remoteAccount.uuid accountConfig with opened := true }
    exact whole.trans_lt (Nat.add_lt_add_left (Nat.lt_succ_self _) _)
  | getNativePointers page id =>
    have whole := total_syncCalled weights (.cloneRemote page id) phone
    exact whole.trans_lt (Nat.add_lt_add_left (Nat.lt_succ_self _) _)

theorem fail_weight (sorting : AccountSorting) {task : Task} (message : String) (saved : Bool)
    (fails : task ≠ .accountListChanged) (phone : Phone) :
    (fail sorting message saved task phone).weight < phone.weight + task.weight := by
  cases task with
  | accountListChanged => exact absurd rfl fails
  | getRepository call =>
    have less := complete_weight sorting call (.error message) phone
    exact less.trans (Nat.add_lt_add_left (Nat.lt_add_of_pos_right Nat.two_pos) _)
  | saveAccountConfig account accountConfig =>
    have whole := unsaved_weight message (if saved then phone.save account.uuid accountConfig else phone)
    cases saved <;> exact whole.trans_lt (Nat.add_lt_add_left (by decide : 3 < 14) _)
  | getAccountInfo page => exact Nat.lt_succ_self _
  | importing page remoteAccount accountConfig =>
    cases saved <;> exact Nat.lt_add_of_pos_right (Nat.succ_pos 13)
  | getNativePointers page id => exact Nat.lt_add_of_pos_right (Nat.succ_pos 12)

theorem Moves.lighter {event : PhoneEvent} (moves : phone.Moves event) :
    (step sorting order generate event phone).weight < phone.weight := by
  cases moves with
  | resume i task here given =>
    have less := resume_weight task given (phone.finished i)
    have whole := finished_weight here
    have stepped : step sorting order generate (.resume i) phone = Phone.resume task (phone.finished i) := by
      cases task with
      | getAccountInfo page => exact absurd rfl (given page)
      | _ => simp only [step, here]
    rw [stepped]
    omega
  | told i page remoteAccount here =>
    have whole := finished_weight here
    have same : (step sorting order generate (.told i remoteAccount) phone).weight = (phone.finished i).weight := by
      simp only [step, here]
      rfl
    rw [same, whole]
    exact Nat.lt_add_of_pos_left Nat.one_pos
  | fail i task message saved here fails =>
    have other : task ≠ .accountListChanged := by
      rintro rfl
      cases fails
    have less := fail_weight sorting message saved other (phone.finished i)
    have whole := finished_weight here
    simp only [step, here, fails, if_true]
    omega
  | handle error waiting returns =>
    rcases List.exists_cons_of_ne_nil waiting with ⟨call, calls, head⟩
    rcases handle_busy (act order error) returns head phone.device with ⟨answers, stuck, device, run, brought⟩
    have whole : Phone.weight _ + (call.request.weight + 1) = phone.weight + _ :=
      total_taken weights head answers stuck device
    have lighter : (answers.map weights.answer).sum ≤ call.request.weight := by
      rcases brought with rfl | ⟨result, rfl⟩
      · exact Nat.zero_le _
      · exact Nat.le_refl _
    simp only [step, run]
    omega
  | deliver waiting =>
    rcases List.exists_cons_of_ne_nil waiting with ⟨answer, rest, results⟩
    have less := complete_weight sorting answer.1 answer.2
      { phone with repository := { phone.repository with results := rest } }
    have whole : phone.weight = answer.1.request.weight + _ := total_delivered weights results
    simp only [step, results]
    simp only [weight] at whole less ⊢
    omega
  | handleSync replies waiting returns =>
    rcases List.exists_cons_of_ne_nil waiting with ⟨call, calls, head⟩
    rcases handle_busy (actSync generate replies) returns head phone.device with ⟨answers, stuck, device, run, brought⟩
    have whole : Phone.weight _ + 12 = phone.weight + _ := total_syncTaken weights head answers stuck device
    have lighter : (answers.map weights.syncAnswer).sum ≤ 11 := by
      rcases brought with rfl | ⟨result, rfl⟩
      · exact Nat.zero_le _
      · exact Nat.le_refl _
    simp only [step, run]
    omega
  | deliverSync waiting =>
    rcases List.exists_cons_of_ne_nil waiting with ⟨answer, rest, results⟩
    have less := completeSync_weight answer.1 answer.2
      { phone with synchronizer := { phone.synchronizer with results := rest } }
    have whole : phone.weight = 11 + _ := total_syncDelivered weights results
    simp only [step, results]
    simp only [weight] at whole less ⊢
    omega

theorem moves_bounded {events : List PhoneEvent}
    (all : Machine.Throughout (step sorting order generate) (fun event phone => Moves phone event) events phone) :
    events.length ≤ phone.weight := by
  induction events generalizing phone with
  | nil => exact Nat.zero_le _
  | cons event events ih =>
    have later := ih all.2
    have less : (step sorting order generate event phone).weight < phone.weight := all.1.lighter
    rw [List.length_cons]
    omega

theorem still_rests (still : ∀ event, ¬ phone.Moves event) (repository : phone.repository.stuck = false)
    (synchronizer : phone.synchronizer.stuck = false) : phone.Rests := by
  refine ⟨?_, ?_, ?_, ?_, ?_, synchronizer⟩
  · by_contra waiting
    rcases List.exists_cons_of_ne_nil waiting with ⟨task, tasks, split⟩
    have here : phone.tasks[0]? = some task := by rw [split]; rfl
    cases task with
    | getAccountInfo page => exact still _ (.fail 0 _ "" false here rfl)
    | accountListChanged => exact still _ (.resume 0 _ here (by simp))
    | getRepository call => exact still _ (.resume 0 _ here (by simp))
    | saveAccountConfig account accountConfig => exact still _ (.resume 0 _ here (by simp))
    | importing page remoteAccount accountConfig => exact still _ (.resume 0 _ here (by simp))
    | getNativePointers page id => exact still _ (.resume 0 _ here (by simp))
  · by_contra waiting
    exact still _ (.handle none waiting repository)
  · by_contra waiting
    exact still _ (.deliver waiting)
  · by_contra waiting
    exact still _ (.handleSync (fun _ _ => .hang) waiting synchronizer)
  · by_contra waiting
    exact still _ (.deliverSync waiting)

theorem Rests.still (rests : phone.Rests) (event : PhoneEvent) : ¬ phone.Moves event := by
  intro moves
  cases moves with
  | resume i task here given => simp [rests.tasks] at here
  | told i page remoteAccount here => simp [rests.tasks] at here
  | fail i task message saved here fails => simp [rests.tasks] at here
  | handle error waiting returns => exact waiting rests.calls
  | deliver waiting => exact waiting rests.results
  | handleSync replies waiting returns => exact waiting rests.syncCalls
  | deliverSync waiting => exact waiting rests.syncResults

end Weights

section Runs

variable (sorting : AccountSorting) (order : IterationOrder) (generate : Nat → TransactionId)

/-- Whatever is done, and in whatever order things come back: a phone that is left alone comes to rest after
    so many steps, and then its page lists the accounts that the file has, or says that they could not be
    read, unless a native call never returns. -/
theorem list_shows_file (configs : AccountId → Option AccountConfig) (device : Device Store)
    (events : List PhoneEvent)
    (tidy : Machine.Throughout (step sorting order generate) (Tidy generate) events (start configs device)) :
    let phone := Machine.after (step sorting order generate) events (start configs device)
    (∀ more, Machine.Throughout (step sorting order generate) (fun event phone => Moves phone event) more phone →
      more.length ≤ phone.weight) ∧
    ((∀ event, ¬ phone.Moves event) → phone.repository.stuck = false → phone.synchronizer.stuck = false →
      ∃ state, phone.accounts.getLast? = some state ∧ state.Shows sorting phone.device.repo) := by
  intro phone
  have kept : phone.Unopened ∧ phone.Current sorting :=
    Machine.after_keeps (fun phone : Phone => phone.Unopened ∧ phone.Current sorting)
      (fun event phone both fine => ⟨both.1.step event, both.2.step both.1 event fine⟩)
      ⟨fun _ => ⟨rfl, rfl⟩, start_current sorting configs device⟩ tidy (List.append_nil events).symm
  refine ⟨fun more all => moves_bounded all, ?_⟩
  intro still repository synchronizer
  exact kept.2.rests sorting (still_rests still repository synchronizer)

def savedTrip : List PhoneEvent :=
  [.resume 0, .handle none, .deliver,
    .saveAccount [.typeName "Trip", .typeMember 0 "Ann"] fun n => List.replicate 16 (UInt8.ofNat n),
    .resume 0, .resume 0, .handle none, .deliver, .resume 0, .resume 0, .resume 0,
    .handle none, .handle none, .deliver, .deliver]

theorem list_shows_file_trip :
    let phone := Machine.after (step (.insertion id) .byPerson fun n => [UInt8.ofNat n]) savedTrip
      (start (fun _ => none) ⟨.empty, 0⟩)
    ∃ state, phone.accounts.getLast? = some state ∧ state.Shows (.insertion id) phone.device.repo := by
  intro phone
  have rests : phone.Rests :=
    ⟨List.isEmpty_iff.mp (by decide +kernel), List.isEmpty_iff.mp (by decide +kernel),
      List.isEmpty_iff.mp (by decide +kernel), List.isEmpty_iff.mp (by decide +kernel),
      List.isEmpty_iff.mp (by decide +kernel), by decide +kernel⟩
  have tidy : Machine.Throughout (step (.insertion id) .byPerson fun n => [UInt8.ofNat n])
      (Tidy fun n => [UInt8.ofNat n]) savedTrip (start (fun _ => none) ⟨.empty, 0⟩) := by
    simp [savedTrip, Machine.Throughout, Tidy]
  exact (list_shows_file (.insertion id) .byPerson _ _ _ savedTrip tidy).2 rests.still (by decide +kernel)
    rests.returns

end Runs

end Phone

end Flouze
