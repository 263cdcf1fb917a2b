import Flouze.Mobile.Imports

/-! An account is only added to the file once its config is saved. -/

namespace Flouze

namespace Inventory

/-- The accounts that are about to be added to the file, on the ways that saved a config before. -/
def additions : Inventory (Multiset AccountId) where
  task
    | .getRepository ⟨_, .addAccount account⟩ => {account.uuid}
    | .getNativePointers _ id => {id}
    | _ => 0
  call
    | ⟨_, .addAccount account⟩ => {account.uuid}
    | _ => 0
  answer _ := 0
  syncCall
    | .cloneRemote _ id => {id}
    | .sync _ => 0
  syncAnswer _ := 0

end Inventory

namespace Phone

open Inventory

structure Configured (phone : Phone) : Prop where
  coming : ∀ id ∈ phone.total additions, phone.configs id ≠ none
  stored : ∀ id, phone.device.repo.account? id ≠ none → phone.configs id ≠ none

def Honest : PhoneEvent → Phone → Prop
  | .handleSync replies, phone => ∀ page id account, phone.synchronizer.calls.head? = some (.cloneRemote page id) →
      replies 0 (.getAccountInfo id) = .ok account → account.uuid = id
  | _, _ => True

section Steps

variable {sorting : AccountSorting} {order : IterationOrder} {generate : Nat → TransactionId} {phone phone' : Phone}

theorem Configured.onward (configured : phone.Configured)
    (configs : ∀ id, phone.configs id ≠ none → phone'.configs id ≠ none)
    (coming : ∀ id ∈ phone'.total additions, id ∈ phone.total additions ∨ phone'.configs id ≠ none)
    (stored : ∀ id, phone.device.repo.account? id = none → id ∉ phone.total additions →
      phone'.device.repo.account? id = none) : phone'.Configured := by
  constructor
  · intro id member
    exact (coming id member).elim (fun before => configs id (configured.coming id before)) fun saved => saved
  · intro id present
    apply configs
    by_cases before : phone.device.repo.account? id = none
    · by_cases member : id ∈ phone.total additions
      · exact configured.coming id member
      · exact absurd (stored id before member) present
    · exact configured.stored id before

theorem Configured.mono (configured : phone.Configured)
    (configs : ∀ id, phone.configs id ≠ none → phone'.configs id ≠ none)
    (coming : phone'.total additions ≤ phone.total additions) (device : phone'.device = phone.device) :
    phone'.Configured := by
  refine configured.onward configs (fun id member => .inl (Multiset.mem_of_le coming member)) ?_
  intro id absent _
  rw [device]
  exact absent

theorem save_saved (id : AccountId) (accountConfig : AccountConfig) (phone : Phone) :
    (phone.save id accountConfig).configs id ≠ none := by
  simp [save]

theorem save_keeps {saved id : AccountId} (accountConfig : AccountConfig) (before : phone.configs id ≠ none) :
    (phone.save saved accountConfig).configs id ≠ none := by
  by_cases same : id = saved
  · rw [same]
    exact save_saved saved accountConfig phone
  · simp only [save, Function.update_of_ne same]
    exact before

theorem Configured.saved (configured : phone.Configured) (id : AccountId) (accountConfig : AccountConfig) :
    (phone.save id accountConfig).Configured :=
  configured.mono (fun _ => save_keeps accountConfig) (le_refl _) rfl

theorem Configured.awaited (configured : phone.Configured) {task : Task} (plain : additions.task task = 0) :
    (phone.await task).Configured := by
  refine configured.mono (fun _ before => before) ?_ rfl
  rw [total_await, plain, add_zero]

theorem Configured.sends (configured : phone.Configured) {id : AccountId} (saved : phone.configs id ≠ none) {task : Task}
    (adds : additions.task task = {id}) : (phone.await task).Configured := by
  refine configured.onward (fun _ before => before) ?_ fun _ absent _ => absent
  intro other member
  rw [total_await, adds, Multiset.mem_add, Multiset.mem_singleton] at member
  refine member.imp_right ?_
  rintro rfl
  exact saved

theorem Configured.finished (configured : phone.Configured) {i : Nat} {task : Task}
    (here : phone.tasks[i]? = some task) : (phone.finished i).Configured := by
  refine configured.mono (fun _ before => before) ?_ rfl
  rw [total_finished additions here]
  exact Multiset.le_add_left _ _

theorem Configured.shows (configured : phone.Configured) (accounts : List AccountListState) (clones : List ClonePage)
    (opened : Bool) : ({ phone with accounts := accounts, clones := clones, opened := opened } : Phone).Configured :=
  configured.mono (fun _ before => before) (le_refl _) rfl

theorem Configured.called (configured : phone.Configured) (asker : Asker) {request : Bindings.Request}
    (plain : additions.call ⟨asker, request⟩ = 0) : (phone.call asker request).Configured := by
  apply configured.awaited
  cases request <;> exact plain

theorem Configured.loadAccounts (configured : phone.Configured) : phone.loadAccounts.Configured := by
  have loading : (phone.add .loading).Configured := configured.shows _ _ _
  exact loading.called .accountList rfl

theorem Configured.unsaved (configured : phone.Configured) (message : String) : (phone.unsaved message).Configured := by
  have shown : (phone.add (.saveError message)).Configured := configured.shows _ _ _
  exact shown.loadAccounts

theorem follows_additions (call : Asked) (result : Except String call.request.Value) :
    ((follows call result).map additions.task).sum = 0 := by
  unfold follows
  split <;> rfl

theorem complete_configs (call : Asked) (result : Except String call.request.Value) (phone : Phone) :
    (complete sorting call result phone).configs = phone.configs := by
  unfold complete
  split <;> rfl

theorem Configured.complete (configured : phone.Configured) (call : Asked)
    (result : Except String call.request.Value) : (complete sorting call result phone).Configured := by
  refine configured.mono ?_ ?_ (complete_onward sorting ⟨call, result⟩ phone).device
  · rw [complete_configs]
    exact fun _ before => before
  · rw [total_complete, follows_additions, add_zero]

theorem Configured.resume (configured : phone.Configured) {i : Nat} {task : Task}
    (here : phone.tasks[i]? = some task) : (Phone.resume task (phone.finished i)).Configured := by
  have finished := configured.finished here
  have whole := total_finished additions here
  cases task with
  | accountListChanged => exact finished.loadAccounts
  | getRepository call =>
    refine configured.mono (fun _ before => before) ?_ rfl
    have same : additions.task (.getRepository call) = additions.call call := by
      rcases call with ⟨asker, request⟩
      cases request <;> rfl
    rw [whole, same, add_comm]
    exact (total_called additions call (phone.finished i)).le
  | saveAccountConfig account accountConfig =>
    exact (finished.saved account.uuid accountConfig).sends (save_saved _ _ _) rfl
  | getAccountInfo page => exact finished
  | importing page remoteAccount accountConfig =>
    have saved := (finished.saved remoteAccount.uuid accountConfig).shows phone.accounts phone.clones true
    exact saved.sends (save_saved _ _ _) rfl
  | getNativePointers page id =>
    refine configured.mono (fun _ before => before) ?_ rfl
    rw [whole, add_comm]
    exact (total_syncCalled additions (.cloneRemote page id) (phone.finished i)).le

theorem Configured.fail (configured : phone.Configured) {i : Nat} {task : Task}
    (here : phone.tasks[i]? = some task) (message : String) (saved : Bool) :
    (Phone.fail sorting message saved task (phone.finished i)).Configured := by
  have finished := configured.finished here
  cases task with
  | accountListChanged => exact finished
  | getRepository call => exact finished.complete call (.error message)
  | saveAccountConfig account accountConfig =>
    cases saved with
    | true => exact (finished.saved account.uuid accountConfig).unsaved message
    | false => exact finished.unsaved message
  | getAccountInfo page => exact finished.shows _ _ _
  | importing page remoteAccount accountConfig =>
    cases saved with
    | true => exact (finished.saved remoteAccount.uuid accountConfig).shows _ _ _
    | false => exact finished.shows _ _ _
  | getNativePointers page id => exact finished.shows _ _ _

theorem Configured.handle (configured : phone.Configured) (error : Option String) :
    (step sorting order generate (.handle error) phone).Configured := by
  rcases step_handle error phone with same | ⟨call, calls, answers, stuck, head, same, _⟩
  · rw [same]
    exact configured
  · rw [same]
    have whole := total_taken additions head answers stuck (act order error call phone.device).2
    have silent : (answers.map additions.answer).sum = 0 := by simp [additions]
    rw [silent, add_zero] at whole
    refine configured.onward (fun _ before => before) ?_ ?_
    · intro id member
      exact .inl (whole ▸ Multiset.mem_add.mpr (.inl member))
    · intro id absent elsewhere
      refine act_absent ?_ absent
      rintro account added rfl
      have adds : additions.call call = {account.uuid} := by
        rcases call with ⟨asker, request⟩
        obtain rfl : request = .addAccount account := added
        rfl
      exact elsewhere (mem_total_call additions head (adds ▸ Multiset.mem_singleton_self _))

theorem Configured.handleSync (configured : phone.Configured) (replies : Nat → (call : RemoteCall) → call.Reply)
    (honest : Honest (.handleSync replies) phone) :
    (step sorting order generate (.handleSync replies) phone).Configured := by
  rcases step_handleSync replies phone with same | ⟨call, calls, answers, stuck, head, same, _⟩
  · rw [same]
    exact configured
  · rw [same]
    have whole := total_syncTaken additions head answers stuck (actSync generate replies call phone.device).2
    have silent : (answers.map additions.syncAnswer).sum = 0 := by simp [additions]
    rw [silent, add_zero] at whole
    refine configured.onward (fun _ before => before) ?_ ?_
    · intro id member
      exact .inl (whole ▸ Multiset.mem_add.mpr (.inl member))
    · intro id absent elsewhere
      cases call with
      | sync touched => exact sync_absent absent
      | cloneRemote page cloned =>
        have spared : (actSync generate replies (.cloneRemote page cloned) phone.device).2.repo.account? id =
            phone.device.repo.account? id := by
          refine (clone_spares (fun account => honest page cloned account (by rw [head]; rfl)) ?_).1
          rintro rfl
          exact elsewhere (mem_total_syncCall additions head (Multiset.mem_singleton_self _))
        exact spared.trans absent

theorem Configured.step (configured : phone.Configured) (event : PhoneEvent) (honest : Honest event phone) :
    (step sorting order generate event phone).Configured := by
  cases event with
  | saveAccount entered generateUuid =>
    rw [Phone.step]
    split
    · rw [Phone.saveAccount]
      split
      · exact configured.shows _ _ _
      · exact (configured.shows _ _ _).awaited rfl
    · exact configured
  | deleteAccount id => exact configured.called _ rfl
  | loadTransactions id =>
    have first : (phone.call .accountPage (.listTransactions id)).Configured := configured.called _ rfl
    exact first.called _ rfl
  | addTransaction id tx => exact configured.called _ rfl
  | synchronize id =>
    refine configured.mono (fun _ before => before) ?_ rfl
    exact ((total_syncCalled additions (.sync id) phone).trans (add_zero _)).le
  | saveAccountConfig id accountConfig => exact configured.saved id accountConfig
  | openLink accountUuid =>
    have opened := configured.shows phone.accounts (phone.clones ++ [ClonePage.opened accountUuid]) phone.opened
    have asked : (Phone.call (.clonePage phone.clones.length) .listAccounts _).Configured := opened.called _ rfl
    exact asked.awaited rfl
  | importAccount page =>
    rw [Phone.step, Phone.importAccount]
    split
    · exact (configured.shows _ _ _).awaited rfl
    · exact configured
  | resume i =>
    rw [Phone.step]
    split
    · exact configured
    · exact configured
    · next task _ here => exact configured.resume here
  | told i remoteAccount =>
    rw [Phone.step]
    split
    · next page here => exact (configured.finished here).shows _ _ _
    · exact configured
  | fail i message saved =>
    rw [Phone.step]
    split
    · exact configured
    · next task here =>
      split
      · exact configured.fail here message saved
      · exact configured
  | handle error => exact configured.handle error
  | deliver =>
    rw [Phone.step]
    cases results : phone.repository.results with
    | nil => exact configured
    | cons answer rest =>
      have taken : ({ phone with repository := { phone.repository with results := rest } } : Phone).Configured := by
        refine configured.mono (fun _ before => before) ?_ rfl
        rw [total_delivered additions results]
        exact Multiset.le_add_left _ _
      exact taken.complete answer.1 answer.2
  | handleSync replies => exact configured.handleSync replies honest
  | deliverSync =>
    rw [Phone.step]
    cases results : phone.synchronizer.results with
    | nil => exact configured
    | cons answer rest =>
      have taken : ({ phone with synchronizer := { phone.synchronizer with results := rest } } : Phone).Configured := by
        refine configured.mono (fun _ before => before) ?_ rfl
        rw [total_syncDelivered additions results]
        exact Multiset.le_add_left _ _
      rcases answer with ⟨call, result⟩
      cases call with
      | sync id => exact taken
      | cloneRemote page id =>
        cases result with
        | ok value =>
          have changed : (Phone.await .accountListChanged _).Configured := taken.awaited rfl
          exact changed.called (.clonePage page) rfl
        | error message => exact taken.shows _ _ _

end Steps

section Runs

variable (sorting : AccountSorting) (order : IterationOrder) (generate : Nat → TransactionId)

/-- Whatever is done, whatever fails, and in whatever order things come back: at every moment, each account in
    the file has a saved config. -/
theorem configs_first (configs : AccountId → Option AccountConfig) (device : Device Store)
    (configured : ∀ id, device.repo.account? id ≠ none → configs id ≠ none) (events : List PhoneEvent)
    (honest : Machine.Throughout (step sorting order generate) Honest events (start configs device)) :
    ∀ before later, events = before ++ later →
      let phone := Machine.after (step sorting order generate) before (start configs device)
      ∀ id, phone.device.repo.account? id ≠ none → phone.configs id ≠ none := by
  intro before later split phone
  have first : (start configs device).Configured := by
    apply Configured.loadAccounts
    constructor
    · intro id member
      simp [total] at member
    · exact configured
  have kept : phone.Configured :=
    Machine.after_keeps Phone.Configured (fun event _ configured fine => configured.step event fine) first honest split
  exact kept.stored

theorem configs_first_climbing :
    let configs := Function.update (fun _ => none) skiing.uuid (some ⟨[], false⟩)
    let phone := Machine.after (step (.insertion id) .byPerson fun n => [UInt8.ofNat n]) importedClimbing
      (start configs ⟨Store.empty.putAccount skiing, 0⟩)
    phone.device.repo.account? climbing.uuid ≠ none ∧ phone.configs climbing.uuid ≠ none := by
  intro configs phone
  have present : phone.device.repo.account? climbing.uuid ≠ none := by decide +kernel
  refine ⟨present, ?_⟩
  refine configs_first (.insertion id) .byPerson (fun n => [UInt8.ofNat n]) configs _ ?_ importedClimbing ?_
    importedClimbing [] (List.append_nil _).symm climbing.uuid present
  · intro id stored
    by_cases same : id = skiing.uuid
    · simp [configs, same]
    · simp [same] at stored
      exact absurd rfl stored
  · refine ⟨True.intro, True.intro, True.intro, True.intro, True.intro, True.intro, True.intro, True.intro, ?_, True.intro⟩
    intro page id account head told
    obtain rfl := Outcome.ok.inj told
    rfl

end Runs

end Phone

end Flouze
