import Flouze.Mobile.UnderWay

namespace Flouze

def AccountCloneState.live : AccountCloneState → Bool
  | .loading | .ready _ | .cloning _ => true
  | .alreadyExists _ | .done | .error _ _ => false

namespace ClonePage

def live (page : ClonePage) : Bool := page.emitted.getLast?.any AccountCloneState.live

def isCloning (page : ClonePage) : Bool :=
  match page.emitted.getLast? with
  | some (.cloning _) => true
  | _ => false

end ClonePage

namespace Inventory

def saves : Inventory (Multiset AccountId) where
  task
    | .saveAccountConfig account _ | .getRepository ⟨_, .addAccount account⟩ => {account.uuid}
    | _ => 0
  call
    | ⟨_, .addAccount account⟩ => {account.uuid}
    | _ => 0
  answer _ := 0
  syncCall _ := 0
  syncAnswer _ := 0

/-- The imports that have not ended, by their page, with the account that is still to be cloned. -/
def imports : Inventory (Multiset (Nat × Option AccountId)) where
  task
    | .importing page remoteAccount _ => {(page, some remoteAccount.uuid)}
    | .getNativePointers page id => {(page, some id)}
    | .getRepository ⟨.clonePage page, .flush⟩ => {(page, none)}
    | _ => 0
  call
    | ⟨.clonePage page, .flush⟩ => {(page, none)}
    | _ => 0
  answer
    | ⟨⟨.clonePage page, .flush⟩, _⟩ => {(page, none)}
    | _ => 0
  syncCall
    | .cloneRemote page id => {(page, some id)}
    | .sync _ => 0
  syncAnswer
    | ⟨.cloneRemote page _, _⟩ => {(page, none)}
    | ⟨.sync _, _⟩ => 0

def listings : Inventory (Multiset (Nat × Option (List Account))) where
  task
    | .getRepository ⟨.clonePage page, .listAccounts⟩ => {(page, none)}
    | _ => 0
  call
    | ⟨.clonePage page, .listAccounts⟩ => {(page, none)}
    | _ => 0
  answer
    | ⟨⟨.clonePage page, .listAccounts⟩, .ok accounts⟩ => {(page, some accounts)}
    | _ => 0
  syncCall _ := 0
  syncAnswer _ := 0

end Inventory

namespace Phone

open Inventory

/-- No two of what is on its way to the file are for the same account, and none for one that is there. -/
structure Apart (phone : Phone) : Prop where
  saves : (phone.total saves).Nodup
  unsaved : ∀ id ∈ phone.total Inventory.saves, phone.device.repo.account? id = none ∧
    ∀ (p : Nat) (page : ClonePage), phone.clones[p]? = some page → page.accountUuid ≠ id
  lives : ∀ (p q : Nat) (page other : ClonePage), phone.clones[p]? = some page → phone.clones[q]? = some other →
    page.live = true → other.live = true → page.accountUuid = other.accountUuid → p = q
  asked : ∀ (p : Nat) (accounts : Option (List Account)), (p, accounts) ∈ phone.total listings →
    p < phone.clones.length
  told : ∀ (p : Nat) (page : ClonePage) (remoteAccount : Account), phone.clones[p]? = some page →
    page.remoteAccount = some remoteAccount → remoteAccount.uuid = page.accountUuid
  listed : ∀ (p : Nat) (page : ClonePage) (accounts : List Account), phone.clones[p]? = some page →
    page.isLoading = true → (page.accounts = some accounts ∨ (p, some accounts) ∈ phone.total listings) →
    (∀ account ∈ accounts, account.uuid ≠ page.accountUuid) → phone.device.repo.account? page.accountUuid = none
  ready : ∀ (p : Nat) (page : ClonePage) (remoteAccount : Account), phone.clones[p]? = some page →
    page.emitted.getLast? = some (.ready remoteAccount) →
    remoteAccount.uuid = page.accountUuid ∧ phone.device.repo.account? page.accountUuid = none
  imports : ((phone.total imports).map Prod.fst).Nodup
  cloning : ∀ (p : Nat) (id : Option AccountId), (p, id) ∈ phone.total Inventory.imports →
    ∃ page, phone.clones[p]? = some page ∧ page.isCloning = true ∧
      ∀ missing, id = some missing → page.accountUuid = missing ∧ phone.device.repo.account? missing = none

/-- The ids of accounts are drawn at random, no two pages may still import the same account, and servers answer
    with the account they are asked for. -/
def Distinct : PhoneEvent → Phone → Prop
  | .saveAccount _ generateUuid, phone =>
    generateUuid 0 ∉ phone.total saves ∧ phone.device.repo.account? (generateUuid 0) = none ∧
      ∀ (p : Nat) (page : ClonePage), phone.clones[p]? = some page → page.accountUuid ≠ generateUuid 0
  | .openLink accountUuid, phone =>
    accountUuid ∉ phone.total saves ∧ ∀ (p : Nat) (page : ClonePage), phone.clones[p]? = some page →
      page.live = true → page.accountUuid ≠ accountUuid
  | .told i remoteAccount, phone => ∀ (p : Nat) (page : ClonePage), phone.tasks[i]? = some (.getAccountInfo p) →
      phone.clones[p]? = some page → remoteAccount.uuid = page.accountUuid
  | .handleSync replies, phone => ∀ page id account, phone.synchronizer.calls.head? = some (.cloneRemote page id) →
      replies 0 (.getAccountInfo id) = .ok account → account.uuid = id
  | _, _ => True

def Touches (id : AccountId) : PhoneEvent → Phone → Prop
  | .handle none, phone => ∃ call, phone.repository.calls.head? = some call ∧
      (call.request = .deleteAccount id ∨ ∃ tx, call.request = .addTransaction id tx)
  | .handleSync _, phone => phone.synchronizer.calls.head? = some (.sync id)
  | _, _ => False

section Frames

variable {sorting : AccountSorting} {order : IterationOrder} {generate : Nat → TransactionId} {phone phone' : Phone}

theorem Apart.frame (apart : phone.Apart) (clones : phone'.clones = phone.clones)
    (saves : phone'.total Inventory.saves ≤ phone.total Inventory.saves)
    (imports : phone'.total Inventory.imports ≤ phone.total Inventory.imports)
    (asked : ∀ p accounts, (p, accounts) ∈ phone'.total listings → p < phone.clones.length)
    (listed : ∀ p accounts, (p, some accounts) ∈ phone'.total listings → (p, some accounts) ∈ phone.total listings ∨
      ∀ id, (∀ account ∈ accounts, account.uuid ≠ id) → phone.device.repo.account? id = none)
    (file : ∀ id, (id ∈ phone'.total Inventory.saves ∨
      ∃ (p : Nat) (page : ClonePage), phone.clones[p]? = some page ∧ page.accountUuid = id) →
      phone.device.repo.account? id = none → phone'.device.repo.account? id = none) : phone'.Apart where
  saves := Multiset.nodup_of_le saves apart.saves
  unsaved id member := by
    rw [clones]
    exact (apart.unsaved id (Multiset.mem_of_le saves member)).imp_left (file id (.inl member))
  lives := by
    rw [clones]
    exact apart.lives
  asked := by
    rw [clones]
    exact asked
  told := by
    rw [clones]
    exact apart.told
  listed p page accounts here loading given absent := by
    rw [clones] at here
    apply file _ (.inr ⟨p, page, here, rfl⟩)
    rcases given with half | coming
    · exact apart.listed p page accounts here loading (.inl half) absent
    · rcases listed p accounts coming with before | now
      · exact apart.listed p page accounts here loading (.inr before) absent
      · exact now _ absent
  ready p page remoteAccount here last := by
    rw [clones] at here
    exact (apart.ready p page remoteAccount here last).imp_right (file _ (.inr ⟨p, page, here, rfl⟩))
  imports := Multiset.nodup_of_le (Multiset.map_le_map imports) apart.imports
  cloning p id member := by
    rcases apart.cloning p id (Multiset.mem_of_le imports member) with ⟨page, here, cloning, missing⟩
    refine ⟨page, clones ▸ here, cloning, ?_⟩
    intro id same
    rcases missing id same with ⟨rfl, absent⟩
    exact ⟨rfl, file _ (.inr ⟨p, page, here, rfl⟩) absent⟩

theorem Apart.mono (apart : phone.Apart) (clones : phone'.clones = phone.clones)
    (saves : phone'.total Inventory.saves ≤ phone.total Inventory.saves)
    (imports : phone'.total Inventory.imports ≤ phone.total Inventory.imports)
    (listings : phone'.total listings ≤ phone.total listings)
    (file : ∀ id, phone.device.repo.account? id = none → phone'.device.repo.account? id = none) : phone'.Apart :=
  apart.frame clones saves imports (fun p accounts member => apart.asked p accounts (Multiset.mem_of_le listings member))
    (fun _ _ member => .inl (Multiset.mem_of_le listings member)) fun id _ => file id

structure Turned (phone : Phone) (p : Nat) (before after : ClonePage) : Prop where
  uuid : after.accountUuid = before.accountUuid
  live : after.live = true → before.live = true
  told : ∀ remoteAccount, after.remoteAccount = some remoteAccount → remoteAccount.uuid = before.accountUuid
  listed : ∀ accounts, after.isLoading = true → after.accounts = some accounts ∨ (p, some accounts) ∈ phone.total listings →
    (∀ account ∈ accounts, account.uuid ≠ before.accountUuid) → phone.device.repo.account? before.accountUuid = none
  ready : ∀ remoteAccount, after.emitted.getLast? = some (.ready remoteAccount) →
    remoteAccount.uuid = before.accountUuid ∧ phone.device.repo.account? before.accountUuid = none
  cloning : p ∈ (phone.total imports).map Prod.fst → after.isCloning = true

theorem onPage_clones {change : ClonePage → ClonePage} {p q : Nat} {page : ClonePage}
    (here : (phone.onPage p change).clones[q]? = some page) :
    q = p ∧ (∃ before, phone.clones[p]? = some before ∧ page = change before) ∨
      q ≠ p ∧ phone.clones[q]? = some page := by
  have modified : (phone.clones.modify p change)[q]? = some page := here
  rw [List.getElem?_modify] at modified
  rcases Option.map_eq_some_iff.mp modified with ⟨before, found, rfl⟩
  by_cases same : p = q
  · subst same
    exact .inl ⟨rfl, before, found, if_pos rfl⟩
  · rw [if_neg same]
    exact .inr ⟨Ne.symm same, found⟩

theorem onPage_here {change : ClonePage → ClonePage} {p : Nat} {before : ClonePage}
    (found : phone.clones[p]? = some before) : (phone.onPage p change).clones[p]? = some (change before) := by
  show (phone.clones.modify p change)[p]? = some (change before)
  simp [found]

theorem onPage_other {change : ClonePage → ClonePage} {p q : Nat} (other : q ≠ p) :
    (phone.onPage p change).clones[q]? = phone.clones[q]? := by
  show (phone.clones.modify p change)[q]? = phone.clones[q]?
  simp [Ne.symm other]

theorem Apart.turn (apart : phone.Apart) {p : Nat} {change : ClonePage → ClonePage}
    (turned : ∀ before, phone.clones[p]? = some before → phone.Turned p before (change before)) :
    (phone.onPage p change).Apart := by
  have traced : ∀ (q : Nat) (page : ClonePage), (phone.onPage p change).clones[q]? = some page →
      ∃ before, phone.clones[q]? = some before ∧ page.accountUuid = before.accountUuid ∧
        (page.live = true → before.live = true) := by
    intro q page here
    rcases onPage_clones here with ⟨rfl, before, found, rfl⟩ | ⟨_, found⟩
    · exact ⟨before, found, (turned before found).uuid, (turned before found).live⟩
    · exact ⟨page, found, rfl, id⟩
  constructor
  · exact apart.saves
  · intro id member
    refine ⟨(apart.unsaved id member).1, ?_⟩
    intro q page here
    rcases traced q page here with ⟨before, found, uuid, _⟩
    exact uuid ▸ (apart.unsaved id member).2 q before found
  · intro q r page other here there livePage liveOther same
    rcases traced q page here with ⟨before, found, uuid, live⟩
    rcases traced r other there with ⟨before', found', uuid', live'⟩
    exact apart.lives q r before before' found found' (live livePage) (live' liveOther) (uuid ▸ uuid' ▸ same)
  · intro q accounts member
    have length : (phone.onPage p change).clones.length = phone.clones.length := List.length_modify _ _ _
    rw [length]
    exact apart.asked q accounts member
  · intro q page remoteAccount here given
    rcases onPage_clones here with ⟨rfl, before, found, rfl⟩ | ⟨_, found⟩
    · exact (turned before found).uuid ▸ (turned before found).told remoteAccount given
    · exact apart.told q page remoteAccount found given
  · intro q page accounts here loading given absent
    rcases onPage_clones here with ⟨rfl, before, found, rfl⟩ | ⟨_, found⟩
    · rw [(turned before found).uuid] at absent ⊢
      exact (turned before found).listed accounts loading given absent
    · exact apart.listed q page accounts found loading given absent
  · intro q page remoteAccount here last
    rcases onPage_clones here with ⟨rfl, before, found, rfl⟩ | ⟨_, found⟩
    · rw [(turned before found).uuid]
      exact (turned before found).ready remoteAccount last
    · exact apart.ready q page remoteAccount found last
  · exact apart.imports
  · intro q id member
    rcases apart.cloning q id member with ⟨page, found, cloning, missing⟩
    by_cases same : q = p
    · subst same
      have among : q ∈ (phone.total Inventory.imports).map Prod.fst := Multiset.mem_map_of_mem Prod.fst member
      refine ⟨change page, onPage_here found, (turned page found).cloning among, ?_⟩
      rw [(turned page found).uuid]
      exact missing
    · exact ⟨page, (onPage_other same).trans found, cloning, missing⟩

theorem add_last (state : AccountCloneState) (page : ClonePage) :
    (page.add state).emitted.getLast? = some state := List.getLast?_concat

theorem add_live (state : AccountCloneState) (page : ClonePage) : (page.add state).live = state.live := by
  rw [ClonePage.live, add_last]
  rfl

theorem isLoading_iff {page : ClonePage} : page.isLoading = true ↔ page.emitted.getLast? = some .loading := by
  unfold ClonePage.isLoading
  split
  · next last => simp [last]
  · next other =>
    refine iff_of_false Bool.false_ne_true ?_
    intro last
    exact other last

theorem Apart.ended (apart : phone.Apart) {p : Nat} (idle : p ∉ (phone.total Inventory.imports).map Prod.fst)
    {state : AccountCloneState} (dead : state.live = false) : (phone.onPage p (ClonePage.add state)).Apart := by
  apply apart.turn
  intro before found
  constructor
  · rfl
  · intro live
    rw [add_live, dead] at live
    cases live
  · exact fun remoteAccount given => apart.told p before remoteAccount found given
  · intro accounts loading
    rw [isLoading_iff, add_last] at loading
    obtain rfl := Option.some.inj loading
    cases dead
  · intro remoteAccount last
    rw [add_last] at last
    obtain rfl := Option.some.inj last
    cases dead
  · exact fun among => absurd among idle

theorem Apart.unimported (apart : phone.Apart) {p : Nat} {page : ClonePage} (found : phone.clones[p]? = some page)
    (other : page.isCloning = false) : p ∉ (phone.total Inventory.imports).map Prod.fst := by
  intro among
  rcases Multiset.mem_map.mp among with ⟨⟨q, id⟩, member, rfl⟩
  rcases apart.cloning q id member with ⟨again, here, cloning, _⟩
  obtain rfl := Option.some.inj (found.symm.trans here)
  rw [other] at cloning
  cases cloning

theorem isCloning_of_loading {page : ClonePage} (loading : page.isLoading = true) : page.isCloning = false := by
  rw [ClonePage.isCloning, isLoading_iff.mp loading]

theorem prepared_cases (page : ClonePage) :
    page.prepared = page ∨ ∃ accounts remoteAccount, page.isLoading = true ∧ page.accounts = some accounts ∧
      page.remoteAccount = some remoteAccount ∧
      (page.prepared = page.add (.alreadyExists remoteAccount) ∨
        (∀ account ∈ accounts, account.uuid ≠ remoteAccount.uuid) ∧ page.prepared = page.add (.ready remoteAccount)) := by
  unfold ClonePage.prepared
  split
  · next accounts remoteAccount loading listed told =>
    refine .inr ⟨accounts, remoteAccount, loading, listed, told, ?_⟩
    split
    · exact .inl rfl
    · next absent => exact .inr ⟨by simpa using absent, rfl⟩
  · exact .inl rfl

theorem Apart.unturned (apart : phone.Apart) {p : Nat} {before after : ClonePage}
    (found : phone.clones[p]? = some before) (uuid : after.accountUuid = before.accountUuid)
    (emitted : after.emitted = before.emitted)
    (told : ∀ remoteAccount, after.remoteAccount = some remoteAccount → remoteAccount.uuid = before.accountUuid)
    (listed : ∀ accounts, before.isLoading = true → after.accounts = some accounts →
      (∀ account ∈ accounts, account.uuid ≠ before.accountUuid) →
      phone.device.repo.account? before.accountUuid = none) : phone.Turned p before after := by
  have loads : after.isLoading = before.isLoading := by rw [ClonePage.isLoading, ClonePage.isLoading, emitted]
  constructor
  · exact uuid
  · rw [ClonePage.live, ClonePage.live, emitted]
    exact id
  · exact told
  · intro accounts loading given absent
    rw [loads] at loading
    rcases given with half | coming
    · exact listed accounts loading half absent
    · exact apart.listed p before accounts found loading (.inr coming) absent
  · intro remoteAccount last
    rw [emitted] at last
    exact apart.ready p before remoteAccount found last
  · intro among
    rw [ClonePage.isCloning, emitted, ← ClonePage.isCloning]
    by_contra other
    exact apart.unimported found (Bool.eq_false_of_not_eq_true other) among

theorem Apart.half (apart : phone.Apart) {p : Nat} (fill : ClonePage → ClonePage)
    (uuid : ∀ page, (fill page).accountUuid = page.accountUuid) (emitted : ∀ page, (fill page).emitted = page.emitted)
    (told : ∀ before, phone.clones[p]? = some before → ∀ remoteAccount,
      (fill before).remoteAccount = some remoteAccount → remoteAccount.uuid = before.accountUuid)
    (listed : ∀ before, phone.clones[p]? = some before → ∀ accounts, before.isLoading = true →
      (fill before).accounts = some accounts → (∀ account ∈ accounts, account.uuid ≠ before.accountUuid) →
      phone.device.repo.account? before.accountUuid = none) :
    (phone.onPage p fun page => (fill page).prepared).Apart := by
  apply apart.turn
  intro before found
  rcases prepared_cases (fill before) with same | ⟨accounts, remoteAccount, loading, half, other, shows⟩
  · rw [same]
    exact apart.unturned found (uuid before) (emitted before) (told before found) (listed before found)
  · rw [isLoading_iff, emitted, ← isLoading_iff] at loading
    have owner : remoteAccount.uuid = before.accountUuid := told before found remoteAccount other
    have live : before.live = true := by
      rw [ClonePage.live, isLoading_iff.mp loading]
      rfl
    have silent : p ∉ (phone.total Inventory.imports).map Prod.fst :=
      apart.unimported found (isCloning_of_loading loading)
    rcases shows with already | ⟨absent, ready⟩
    · rw [already]
      refine ⟨uuid before, fun _ => live, told before found, ?_, ?_, fun among => absurd among silent⟩
      · intro accounts again
        rw [isLoading_iff, add_last] at again
        cases again
      · intro remoteAccount last
        rw [add_last] at last
        cases last
    · rw [ready]
      refine ⟨uuid before, fun _ => live, told before found, ?_, ?_, fun among => absurd among silent⟩
      · intro accounts again
        rw [isLoading_iff, add_last] at again
        cases again
      · intro shown last
        rw [add_last] at last
        obtain rfl := AccountCloneState.ready.inj (Option.some.inj last)
        refine ⟨owner, listed before found accounts loading half ?_⟩
        rw [← owner]
        exact absent

theorem Apart.unprepared (apart : phone.Apart) (p : Nat) (message : String) :
    (phone.onPage p (ClonePage.unprepared message)).Apart := by
  apply apart.turn
  intro before found
  rw [ClonePage.unprepared]
  split
  · next loading =>
    refine ⟨rfl, ?_, fun remoteAccount given => apart.told p before remoteAccount found given, ?_, ?_,
      fun among => absurd among (apart.unimported found (isCloning_of_loading loading))⟩
    · intro live
      rw [add_live] at live
      cases live
    · intro accounts again
      rw [isLoading_iff, add_last] at again
      cases again
    · intro remoteAccount last
      rw [add_last] at last
      cases last
  · exact apart.unturned found rfl rfl (fun remoteAccount given => apart.told p before remoteAccount found given)
      fun accounts loading half absent => apart.listed p before accounts found loading (.inl half) absent

theorem Apart.awaited (apart : phone.Apart) (tasks : List Task) (saves : (tasks.map Inventory.saves.task).sum = 0)
    (imports : (tasks.map Inventory.imports.task).sum = 0) (listings : (tasks.map Inventory.listings.task).sum = 0) :
    ({ phone with tasks := phone.tasks ++ tasks } : Phone).Apart := by
  refine apart.mono rfl ?_ ?_ ?_ fun _ absent => absent
  · rw [total_awaited, saves, add_zero]
  · rw [total_awaited, imports, add_zero]
  · rw [total_awaited, listings, add_zero]

theorem Apart.shows (apart : phone.Apart) (accounts : List AccountListState) (opened : Bool)
    (configs : AccountId → Option AccountConfig) :
    ({ phone with accounts := accounts, opened := opened, configs := configs } : Phone).Apart :=
  apart.mono rfl (le_refl _) (le_refl _) (le_refl _) fun _ absent => absent

theorem Apart.loadAccounts (apart : phone.Apart) : phone.loadAccounts.Apart :=
  (apart.shows (phone.accounts ++ [.loading]) phone.opened phone.configs).awaited
    [.getRepository ⟨.accountList, .listAccounts⟩] rfl rfl rfl

theorem follows_plain (call : Asked) (result : Except String call.request.Value) :
    ((follows call result).map Inventory.saves.task).sum = 0 ∧
      ((follows call result).map Inventory.imports.task).sum = 0 ∧
      ((follows call result).map Inventory.listings.task).sum = 0 := by
  unfold follows
  split <;> exact ⟨rfl, rfl, rfl⟩

theorem Apart.complete (apart : phone.Apart) {call : Asked} {result : Except String call.request.Value}
    (idle : ∀ p, call = ⟨.clonePage p, .flush⟩ → p ∉ (phone.total Inventory.imports).map Prod.fst)
    (listed : ∀ p accounts, (⟨call, result⟩ : Answer) = ⟨⟨.clonePage p, .listAccounts⟩, .ok accounts⟩ →
      ∀ page, phone.clones[p]? = some page → page.isLoading = true →
      (∀ account ∈ accounts, account.uuid ≠ page.accountUuid) → phone.device.repo.account? page.accountUuid = none) :
    (complete sorting call result phone).Apart := by
  have elsewhere : (Phone.complete sorting call result phone).clones = phone.clones →
      (Phone.complete sorting call result phone).Apart := by
    intro same
    rcases follows_plain call result with ⟨saves, imports, listings⟩
    refine apart.mono same ?_ ?_ ?_ ?_
    · rw [total_complete, saves, add_zero]
    · rw [total_complete, imports, add_zero]
    · rw [total_complete, listings, add_zero]
    · rw [(complete_onward sorting ⟨call, result⟩ phone).device]
      exact fun _ absent => absent
  rcases call with ⟨asker, request⟩
  cases request with
  | listAccounts =>
    cases asker with
    | accountList => cases result <;> exact elsewhere rfl
    | clonePage p =>
      cases result with
      | ok accounts =>
        refine apart.half (fun page => { page with accounts := some accounts }) (fun _ => rfl) (fun _ => rfl)
          (fun before found remoteAccount given => apart.told p before remoteAccount found given) ?_
        intro before found again loading half absent
        obtain rfl := Option.some.inj half
        exact listed p _ rfl before found loading absent
      | error message => exact apart.unprepared p message
    | accountPage => cases result <;> exact elsewhere rfl
  | addAccount account => cases asker <;> cases result <;> exact elsewhere rfl
  | deleteAccount id => cases asker <;> cases result <;> exact elsewhere rfl
  | listTransactions id => cases asker <;> cases result <;> exact elsewhere rfl
  | addTransaction id tx => cases asker <;> cases result <;> exact elsewhere rfl
  | getBalance id => cases asker <;> cases result <;> exact elsewhere rfl
  | flush =>
    cases asker with
    | accountList => cases result <;> exact elsewhere rfl
    | clonePage p => cases result <;> exact apart.ended (idle p rfl) rfl
    | accountPage => cases result <;> exact elsewhere rfl

theorem Apart.alone (apart : phone.Apart) {p : Nat} {id : Option AccountId}
    (whole : phone.total Inventory.imports = {(p, id)} + phone'.total Inventory.imports) :
    p ∉ (phone'.total Inventory.imports).map Prod.fst := by
  have distinct := apart.imports
  rw [whole, Multiset.map_add, Multiset.map_singleton, Multiset.singleton_add, Multiset.nodup_cons] at distinct
  exact distinct.1

theorem Apart.finished (apart : phone.Apart) {i : Nat} {task : Task} (here : phone.tasks[i]? = some task) :
    (phone.finished i).Apart := by
  refine apart.mono rfl ?_ ?_ ?_ fun _ absent => absent
  · rw [total_finished Inventory.saves here]
    exact Multiset.le_add_left _ _
  · rw [total_finished Inventory.imports here]
    exact Multiset.le_add_left _ _
  · rw [total_finished listings here]
    exact Multiset.le_add_left _ _

theorem task_call (call : Asked) : Inventory.saves.task (.getRepository call) = Inventory.saves.call call ∧
    Inventory.imports.task (.getRepository call) = Inventory.imports.call call ∧
    listings.task (.getRepository call) = listings.call call := by
  rcases call with ⟨asker, request⟩
  cases request <;> cases asker <;> exact ⟨rfl, rfl, rfl⟩

theorem Apart.moved (apart : phone.Apart) {i : Nat} {task : Task} (here : phone.tasks[i]? = some task)
    (clones : phone'.clones = phone.clones) (device : phone'.device = phone.device)
    (saves : phone'.total Inventory.saves = (phone.finished i).total Inventory.saves + Inventory.saves.task task)
    (imports : phone'.total Inventory.imports = (phone.finished i).total Inventory.imports + Inventory.imports.task task)
    (listings : phone'.total listings = (phone.finished i).total listings + listings.task task) : phone'.Apart := by
  refine apart.mono clones ?_ ?_ ?_ ?_
  · rw [saves, total_finished Inventory.saves here, add_comm]
  · rw [imports, total_finished Inventory.imports here, add_comm]
  · rw [listings, total_finished Inventory.listings here, add_comm]
  · rw [device]
    exact fun _ absent => absent

theorem Apart.resume (apart : phone.Apart) {i : Nat} {task : Task} (here : phone.tasks[i]? = some task) :
    (Phone.resume task (phone.finished i)).Apart := by
  cases task with
  | accountListChanged => exact (apart.finished here).loadAccounts
  | getRepository call =>
    rcases task_call call with ⟨saves, imports, listings⟩
    refine apart.moved here rfl rfl ?_ ?_ ?_
    · rw [saves]
      exact total_called _ call _
    · rw [imports]
      exact total_called _ call _
    · rw [listings]
      exact total_called _ call _
  | saveAccountConfig account accountConfig =>
    exact apart.moved here rfl rfl (total_await _ _ _) (total_await _ _ _) (total_await _ _ _)
  | getAccountInfo page => exact apart.finished here
  | importing page remoteAccount accountConfig =>
    exact apart.moved here rfl rfl (total_await _ _ _) (total_await _ _ _) (total_await _ _ _)
  | getNativePointers page id =>
    exact apart.moved here rfl rfl (total_syncCalled _ _ _) (total_syncCalled _ _ _) (total_syncCalled _ _ _)

theorem Apart.fail (apart : phone.Apart) {i : Nat} {task : Task} (here : phone.tasks[i]? = some task)
    (message : String) (saved : Bool) : (Phone.fail sorting message saved task (phone.finished i)).Apart := by
  have finished := apart.finished here
  have whole := total_finished Inventory.imports here
  cases task with
  | accountListChanged => exact finished
  | getRepository call =>
    refine finished.complete ?_ ?_
    · rintro p rfl
      exact apart.alone whole
    · intro p accounts same
      cases same
  | saveAccountConfig account accountConfig =>
    cases saved with
    | true => exact (finished.shows _ _ _).loadAccounts
    | false => exact (finished.shows _ _ _).loadAccounts
  | getAccountInfo page => exact finished.unprepared page message
  | importing page remoteAccount accountConfig =>
    have ends : (AccountCloneState.error .importError message).live = false := rfl
    cases saved with
    | true => exact (finished.ended (apart.alone whole) ends).shows _ _ _
    | false => exact finished.ended (apart.alone whole) rfl
  | getNativePointers page id => exact finished.ended (apart.alone whole) rfl

theorem Apart.deliver (apart : phone.Apart) : (step sorting order generate .deliver phone).Apart := by
  rw [step]
  cases results : phone.repository.results with
  | nil => exact apart
  | cons answer rest =>
    let taken : Phone := { phone with repository := { phone.repository with results := rest } }
    have whole : phone.total Inventory.imports = _ + taken.total Inventory.imports := total_delivered _ results
    have lists : phone.total listings = _ + taken.total listings := total_delivered _ results
    have left : taken.Apart := by
      refine apart.mono rfl ?_ ?_ ?_ fun _ absent => absent
      · rw [total_delivered Inventory.saves results]
        exact Multiset.le_add_left _ _
      · rw [whole]
        exact Multiset.le_add_left _ _
      · rw [lists]
        exact Multiset.le_add_left _ _
    rcases answer with ⟨call, result⟩
    refine left.complete ?_ ?_
    · rintro p rfl
      exact apart.alone whole
    · intro p accounts same page found loading absent
      obtain rfl : call = ⟨.clonePage p, .listAccounts⟩ := congrArg Sigma.fst same
      obtain rfl := eq_of_heq (Sigma.mk.inj same).2
      refine apart.listed p page accounts found loading (.inr ?_) absent
      rw [lists]
      exact Multiset.mem_add.mpr (.inl (Multiset.mem_singleton_self _))

theorem Apart.deliverSync (apart : phone.Apart) : (step sorting order generate .deliverSync phone).Apart := by
  rw [step]
  cases results : phone.synchronizer.results with
  | nil => exact apart
  | cons answer rest =>
    let taken : Phone := { phone with synchronizer := { phone.synchronizer with results := rest } }
    have whole : phone.total Inventory.imports = _ + taken.total Inventory.imports := total_syncDelivered _ results
    have left : taken.Apart := by
      refine apart.mono rfl ?_ ?_ ?_ fun _ absent => absent
      · rw [total_syncDelivered Inventory.saves results]
        exact Multiset.le_add_left _ _
      · rw [whole]
        exact Multiset.le_add_left _ _
      · rw [total_syncDelivered listings results]
        exact Multiset.le_add_left _ _
    rcases answer with ⟨call, result⟩
    cases call with
    | sync id => exact left
    | cloneRemote p id =>
      cases result with
      | ok value =>
        -- the import goes on to its flush
        refine apart.mono rfl ?_ ?_ ?_ fun _ absent => absent
        · rw [total_syncDelivered Inventory.saves results, add_comm]
          exact (total_completeSync _ (.cloneRemote p id) (.ok value) taken).le
        · rw [whole, add_comm]
          exact (total_completeSync _ (.cloneRemote p id) (.ok value) taken).le
        · rw [total_syncDelivered listings results, add_comm]
          exact (total_completeSync _ (.cloneRemote p id) (.ok value) taken).le
      | error message => exact left.ended (apart.alone whole) rfl

theorem Apart.told_step (apart : phone.Apart) {i p : Nat} (here : phone.tasks[i]? = some (.getAccountInfo p))
    {remoteAccount : Account} (owner : ∀ page, phone.clones[p]? = some page → remoteAccount.uuid = page.accountUuid) :
    ((phone.finished i).onPage p (ClonePage.told remoteAccount)).Apart := by
  have finished := apart.finished here
  refine finished.half (fun page => { page with remoteAccount := some remoteAccount }) (fun _ => rfl) (fun _ => rfl) ?_ ?_
  · intro before found again given
    obtain rfl := Option.some.inj given
    exact owner before found
  · intro before found accounts loading half absent
    exact finished.listed p before accounts found loading (.inl half) absent

theorem Apart.saving (apart : phone.Apart) {account : Account} (accountConfig : AccountConfig)
    (fresh : account.uuid ∉ phone.total Inventory.saves) (absent : phone.device.repo.account? account.uuid = none)
    (apartPages : ∀ (p : Nat) (page : ClonePage), phone.clones[p]? = some page → page.accountUuid ≠ account.uuid) :
    (phone.await (.saveAccountConfig account accountConfig)).Apart := by
  have saves : (phone.await (.saveAccountConfig account accountConfig)).total Inventory.saves =
      phone.total Inventory.saves + {account.uuid} := total_await _ _ _
  have imports : (phone.await (.saveAccountConfig account accountConfig)).total Inventory.imports =
      phone.total Inventory.imports := (total_await _ _ _).trans (add_zero _)
  have listings : (phone.await (.saveAccountConfig account accountConfig)).total listings =
      phone.total listings := (total_await _ _ _).trans (add_zero _)
  constructor
  · rw [saves, add_comm, Multiset.singleton_add, Multiset.nodup_cons]
    exact ⟨fresh, apart.saves⟩
  · intro id member
    rw [saves, Multiset.mem_add, Multiset.mem_singleton] at member
    rcases member with before | rfl
    · exact apart.unsaved id before
    · exact ⟨absent, apartPages⟩
  · exact apart.lives
  · rw [listings]
    exact apart.asked
  · exact apart.told
  · rw [listings]
    exact apart.listed
  · exact apart.ready
  · rw [imports]
    exact apart.imports
  · rw [imports]
    exact apart.cloning

theorem Apart.importing (apart : phone.Apart) {p : Nat} {page : ClonePage} {remoteAccount : Account}
    (accountConfig : AccountConfig) (silent : p ∉ (phone.total Inventory.imports).map Prod.fst)
    (found : phone.clones[p]? = some page) (cloning : page.isCloning = true)
    (owner : page.accountUuid = remoteAccount.uuid) (absent : phone.device.repo.account? remoteAccount.uuid = none) :
    (phone.await (.importing p remoteAccount accountConfig)).Apart := by
  have saves : (phone.await (.importing p remoteAccount accountConfig)).total Inventory.saves =
      phone.total Inventory.saves := (total_await _ _ _).trans (add_zero _)
  have imports : (phone.await (.importing p remoteAccount accountConfig)).total Inventory.imports =
      phone.total Inventory.imports + {(p, some remoteAccount.uuid)} := total_await _ _ _
  have listings : (phone.await (.importing p remoteAccount accountConfig)).total listings =
      phone.total listings := (total_await _ _ _).trans (add_zero _)
  constructor
  · rw [saves]
    exact apart.saves
  · rw [saves]
    exact apart.unsaved
  · exact apart.lives
  · rw [listings]
    exact apart.asked
  · exact apart.told
  · rw [listings]
    exact apart.listed
  · exact apart.ready
  · rw [imports, add_comm, Multiset.map_add, Multiset.map_singleton, Multiset.singleton_add, Multiset.nodup_cons]
    exact ⟨silent, apart.imports⟩
  · intro q id member
    rw [imports, Multiset.mem_add, Multiset.mem_singleton] at member
    rcases member with before | same
    · exact apart.cloning q id before
    · obtain ⟨rfl, rfl⟩ := Prod.mk.inj same
      refine ⟨page, found, cloning, ?_⟩
      intro id again
      obtain rfl := Option.some.inj again
      exact ⟨owner, absent⟩

theorem Apart.importAccount (apart : phone.Apart) (p : Nat) : (phone.importAccount p).Apart := by
  rw [Phone.importAccount]
  split
  · next remoteAccount ready =>
    rcases Option.bind_eq_some_iff.mp ready with ⟨page, found, last⟩
    rcases apart.ready p page remoteAccount found last with ⟨owner, absent⟩
    have notCloning : page.isCloning = false := by rw [ClonePage.isCloning, last]
    have turned : (phone.onPage p (ClonePage.add (.cloning remoteAccount))).Apart := by
      apply apart.turn
      intro before here
      obtain rfl := Option.some.inj (found.symm.trans here)
      refine ⟨rfl, ?_, fun _ given => apart.told p page _ found given, ?_, ?_, ?_⟩
      · intro _
        rw [ClonePage.live, last]
        rfl
      · intro accounts loading
        rw [isLoading_iff, add_last] at loading
        cases loading
      · intro _ again
        rw [add_last] at again
        cases again
      · intro among
        exact absurd among (apart.unimported found notCloning)
    have shown : (page.add (.cloning remoteAccount)).isCloning = true := by
      rw [ClonePage.isCloning, add_last]
    exact turned.importing ⟨[], true⟩ (apart.unimported found notCloning) (onPage_here found) shown owner.symm
      (owner ▸ absent)
  · exact apart

theorem Apart.openLink (apart : phone.Apart) {accountUuid : AccountId}
    (unsaved : accountUuid ∉ phone.total Inventory.saves)
    (left : ∀ (p : Nat) (page : ClonePage), phone.clones[p]? = some page → page.live = true →
      page.accountUuid ≠ accountUuid) : (phone.openLink accountUuid).Apart := by
  let last := phone.clones.length
  let shown : Phone := { phone with clones := phone.clones ++ [ClonePage.opened accountUuid] }
  have clones : (phone.openLink accountUuid).clones = phone.clones ++ [ClonePage.opened accountUuid] := rfl
  have counted : ∀ {M : Type} [AddCommMonoid M] (inventory : Inventory M),
      (phone.openLink accountUuid).total inventory = phone.total inventory +
        inventory.task (.getRepository ⟨.clonePage last, .listAccounts⟩) + inventory.task (.getAccountInfo last) := by
    intro M _ inventory
    have whole := total_await inventory (.getAccountInfo last) (shown.call (.clonePage last) .listAccounts)
    have part := total_await inventory (.getRepository ⟨.clonePage last, .listAccounts⟩) shown
    exact whole.trans (congrArg (· + _) part)
  have saves : (phone.openLink accountUuid).total Inventory.saves = phone.total Inventory.saves :=
    ((counted Inventory.saves).trans (add_zero _)).trans (add_zero _)
  have imports : (phone.openLink accountUuid).total Inventory.imports = phone.total Inventory.imports :=
    ((counted Inventory.imports).trans (add_zero _)).trans (add_zero _)
  have listings : (phone.openLink accountUuid).total listings = phone.total listings + {(last, none)} :=
    (counted Inventory.listings).trans (add_zero _)
  have placed : ∀ (p : Nat) (page : ClonePage), (phone.openLink accountUuid).clones[p]? = some page →
      phone.clones[p]? = some page ∨ p = last ∧ page = ClonePage.opened accountUuid := by
    intro p page here
    rw [clones] at here
    rcases Nat.lt_or_ge p phone.clones.length with inside | beyond
    · rw [List.getElem?_append_left inside] at here
      exact .inl here
    · rw [List.getElem?_append_right beyond, List.getElem?_singleton] at here
      split at here
      · next same => exact .inr ⟨by omega, (Option.some.inj here).symm⟩
      · cases here
  have kept : ∀ (p : Nat) (page : ClonePage), phone.clones[p]? = some page →
      (phone.openLink accountUuid).clones[p]? = some page := by
    intro p page here
    rw [clones, List.getElem?_append_left (List.getElem?_eq_some_iff.mp here).1]
    exact here
  constructor
  · rw [saves]
    exact apart.saves
  · intro id member
    rw [saves] at member
    refine ⟨(apart.unsaved id member).1, ?_⟩
    intro p page here
    rcases placed p page here with before | ⟨_, rfl⟩
    · exact (apart.unsaved id member).2 p page before
    · rintro rfl
      exact unsaved member
  · intro p q page other here there livePage liveOther same
    rcases placed p page here with before | ⟨rfl, rfl⟩
    · rcases placed q other there with before' | ⟨rfl, rfl⟩
      · exact apart.lives p q page other before before' livePage liveOther same
      · exact absurd same (left p page before livePage)
    · rcases placed q other there with before' | ⟨rfl, rfl⟩
      · exact absurd same.symm (left q other before' liveOther)
      · rfl
  · intro p accounts member
    rw [clones, List.length_append, List.length_singleton]
    rw [listings, Multiset.mem_add, Multiset.mem_singleton] at member
    rcases member with before | same
    · exact Nat.lt_succ_of_lt (apart.asked p accounts before)
    · rw [(Prod.mk.inj same).1]
      exact Nat.lt_succ_self _
  · intro p page remoteAccount here given
    rcases placed p page here with before | ⟨_, rfl⟩
    · exact apart.told p page remoteAccount before given
    · cases given
  · intro p page accounts here loading given absent
    rw [listings, Multiset.mem_add, Multiset.mem_singleton] at given
    rcases placed p page here with before | ⟨rfl, rfl⟩
    · refine apart.listed p page accounts before loading (given.imp_right fun member => ?_) absent
      exact member.resolve_right fun same => by cases (Prod.mk.inj same).2
    · rcases given with half | member | same
      · cases half
      · exact absurd (apart.asked last _ member) (Nat.lt_irrefl _)
      · cases (Prod.mk.inj same).2
  · intro p page remoteAccount here ready
    rcases placed p page here with before | ⟨_, rfl⟩
    · exact apart.ready p page remoteAccount before ready
    · cases ready
  · rw [imports]
    exact apart.imports
  · intro p id member
    rw [imports] at member
    rcases apart.cloning p id member with ⟨page, here, rest⟩
    exact ⟨page, kept p page here, rest⟩

theorem answer_import (call : Asked) (result : Except String call.request.Value) :
    Inventory.imports.answer ⟨call, result⟩ = Inventory.imports.call call := by
  rcases call with ⟨asker, request⟩
  cases request <;> cases asker <;> rfl

theorem answer_listing {call : Asked} {result : Except String call.request.Value} {p : Nat}
    {accounts : Option (List Account)} (member : (p, accounts) ∈ listings.answer ⟨call, result⟩) :
    (p, none) ∈ listings.call call ∧ ∃ list, accounts = some list ∧
      (⟨call, result⟩ : Answer) = ⟨⟨.clonePage p, .listAccounts⟩, .ok list⟩ := by
  rcases call with ⟨asker, request⟩
  cases request with
  | listAccounts =>
    cases asker with
    | clonePage page =>
      cases result with
      | ok list =>
        obtain ⟨rfl, rfl⟩ := Prod.mk.inj (Multiset.mem_singleton.mp member)
        exact ⟨Multiset.mem_singleton_self _, list, rfl, rfl⟩
      | error message => cases Multiset.notMem_zero _ member
    | accountList => cases Multiset.notMem_zero _ member
    | accountPage => cases Multiset.notMem_zero _ member
  | addAccount account => cases asker <;> cases Multiset.notMem_zero _ member
  | deleteAccount id => cases asker <;> cases Multiset.notMem_zero _ member
  | listTransactions id => cases asker <;> cases Multiset.notMem_zero _ member
  | addTransaction id tx => cases asker <;> cases Multiset.notMem_zero _ member
  | getBalance id => cases asker <;> cases Multiset.notMem_zero _ member
  | flush => cases asker <;> cases Multiset.notMem_zero _ member

theorem saves_call {call : Asked} {account : Account} (added : call.request = .addAccount account) :
    Inventory.saves.call call = {account.uuid} := by
  rcases call with ⟨asker, request⟩
  obtain rfl : request = .addAccount account := added
  rfl

theorem Apart.acted (apart : phone.Apart) {call : Asked} {calls : List Asked}
    (head : phone.repository.calls = call :: calls) (answers : List Answer) (stuck : Bool) (device : Device Store)
    (brought : answers = [] ∨ ∃ result, answers = [⟨call, result⟩] ∧
      ∀ p accounts, (⟨call, result⟩ : Answer) = ⟨⟨.clonePage p, .listAccounts⟩, .ok accounts⟩ →
        ∀ id, (∀ account ∈ accounts, account.uuid ≠ id) → phone.device.repo.account? id = none)
    (file : ∀ id, (∀ account, call.request = .addAccount account → account.uuid ≠ id) →
      phone.device.repo.account? id = none → device.repo.account? id = none) :
    ({ phone with
      repository := ⟨calls, phone.repository.results ++ answers, stuck⟩
      device := device } : Phone).Apart := by
  let next : Phone :=
    { phone with repository := ⟨calls, phone.repository.results ++ answers, stuck⟩, device := device }
  have saves : next.total Inventory.saves + _ = _ := total_taken Inventory.saves head answers stuck device
  have imports : next.total Inventory.imports + _ = _ := total_taken Inventory.imports head answers stuck device
  have lists : next.total listings + _ = _ := total_taken listings head answers stuck device
  have unchanged : (answers.map Inventory.saves.answer).sum = 0 := by
    rcases brought with rfl | ⟨result, rfl, _⟩ <;> rfl
  rw [unchanged, add_zero] at saves
  have found : ∀ p accounts, (p, accounts) ∈ next.total listings → (p, accounts) ∈ phone.total listings ∨
      ∃ result, answers = [⟨call, result⟩] ∧ (p, accounts) ∈ listings.answer ⟨call, result⟩ := by
    intro p accounts member
    have either := lists ▸ Multiset.mem_add.mpr (.inl member)
    rcases Multiset.mem_add.mp either with before | new
    · exact .inl before
    · rcases brought with rfl | ⟨result, rfl, _⟩
      · cases Multiset.notMem_zero _ new
      · exact .inr ⟨result, rfl, by simpa using new⟩
  refine apart.frame rfl ?_ ?_ ?_ ?_ ?_
  · rw [← saves]
    exact Multiset.le_add_right _ _
  · rcases brought with rfl | ⟨result, rfl, _⟩
    · rw [List.map_nil, List.sum_nil, add_zero] at imports
      rw [← imports]
      exact Multiset.le_add_right _ _
    · rw [List.map_singleton, List.sum_singleton, answer_import] at imports
      exact (add_right_cancel imports).le
  · intro p accounts member
    rcases found p accounts member with before | ⟨result, rfl, new⟩
    · exact apart.asked p accounts before
    · exact apart.asked p none (mem_total_call listings head (answer_listing new).1)
  · intro p accounts member
    rcases found p (some accounts) member with before | ⟨result, rfl, new⟩
    · exact .inl before
    · right
      rcases answer_listing new with ⟨_, list, same, answer⟩
      obtain rfl := Option.some.inj same
      rcases brought with none | ⟨result', one, given⟩
      · cases none
      · obtain rfl := eq_of_heq (Sigma.mk.inj (List.cons.inj one).1).2
        exact given p accounts answer
  · intro id place absent
    refine file id ?_ absent
    intro account added owner
    rw [saves_call added, add_comm, Multiset.singleton_add] at saves
    rcases place with left | ⟨p, page, here, same⟩
    · have distinct := apart.saves
      rw [← saves, Multiset.nodup_cons] at distinct
      exact distinct.1 (owner ▸ left)
    · have member : account.uuid ∈ phone.total Inventory.saves := saves ▸ Multiset.mem_cons_self _ _
      exact (apart.unsaved account.uuid member).2 p page here (same.trans owner.symm)

theorem act_absent {call : Asked} {error : Option String} {device : Device Store} {id : AccountId}
    (other : ∀ account, call.request = .addAccount account → account.uuid ≠ id)
    (absent : device.repo.account? id = none) : (act order error call device).2.repo.account? id = none := by
  rcases call with ⟨asker, request⟩
  cases error with
  | some message => exact absent
  | none =>
    rw [act, onRepo_displayed]
    cases request with
    | listAccounts => exact absent
    | addAccount account =>
      show (device.repo.putAccount account).account? id = none
      rw [Store.account?_putAccount, if_neg (Ne.symm (other account rfl))]
      exact absent
    | deleteAccount removed =>
      show (Repository.deleteAccount removed device.repo).2.account? id = none
      rw [deleteAccount_store, Store.account?_removeAccount]
      split
      · rfl
      · exact absent
    | listTransactions id => exact absent
    | addTransaction account tx =>
      have same := (addTransaction_framed account tx device.repo).profiles id
      rw [absent] at same
      exact Option.map_eq_none_iff.mp same
    | getBalance account =>
      rw [Bindings.Request.meaning, Bindings.pure_bind_run]
      exact absent
    | flush => exact absent

theorem Apart.handle (apart : phone.Apart) (error : Option String) :
    (step sorting order generate (.handle error) phone).Apart := by
  rcases step_handle error phone with same | ⟨call, calls, answers, stuck, head, same, brought⟩
  · rw [same]
    exact apart
  · rw [same]
    refine apart.acted head answers stuck _ (brought.imp_right ?_) fun id => act_absent
    rintro ⟨result, rfl, run⟩
    refine ⟨result, rfl, ?_⟩
    intro p accounts given id others
    obtain rfl : call = ⟨.clonePage p, .listAccounts⟩ := congrArg Sigma.fst given
    obtain rfl := eq_of_heq (Sigma.mk.inj given).2
    cases error with
    | some message => cases run
    | none =>
      obtain rfl : phone.device.repo.listAccounts = accounts := Outcome.ok.inj run
      cases found : phone.device.repo.account? id with
      | none => rfl
      | some record =>
        obtain rfl := phone.device.repo.account_uuid id record found
        exact absurd rfl (others record ((Store.mem_listAccounts _ record).mpr found))

theorem clone_spares {replies : Nat → (call : RemoteCall) → call.Reply} {page : Nat} {id other : AccountId}
    {device : Device Store} (honest : ∀ account, replies 0 (.getAccountInfo id) = .ok account → account.uuid = id)
    (differ : other ≠ id) :
    (actSync generate replies (.cloneRemote page id) device).2.repo.account? other = device.repo.account? other ∧
      ∀ tx, (actSync generate replies (.cloneRemote page id) device).2.repo.transaction? other tx =
        device.repo.transaction? other tx := by
  have ran : (actSync generate replies (.cloneRemote page id) device).2 =
      ((cloneRemote generate id device).run (heard replies) 0).1.2 := displayed_device _ device
  rw [ran]
  by_cases told : ∃ account, (heard replies (.getAccountInfo id) 0).1 = .ok account
  · rcases told with ⟨account, told⟩
    have owner : account.uuid = id := honest account told
    let entered : Device Store := { device with repo := device.repo.putAccount account.profile }
    have framed : Framed id entered.repo ((cloneRemote generate id device).run (heard replies) 0).1.2.repo := by
      rw [clone_entered told]
      exact sync_framed _ _
    refine ⟨?_, framed.transactions other differ⟩
    rw [framed.accounts other differ]
    show (device.repo.putAccount account.profile).account? other = device.repo.account? other
    rw [Store.account?_putAccount]
    exact if_neg fun same => differ (same.trans owner)
  · rw [clone_silent fun account told' => told ⟨account, told'⟩]
    exact ⟨rfl, fun _ => rfl⟩

theorem live_of_isCloning {page : ClonePage} (cloning : page.isCloning = true) : page.live = true := by
  unfold ClonePage.isCloning at cloning
  split at cloning
  · next remoteAccount last =>
    rw [ClonePage.live, last]
    rfl
  · cases cloning

theorem Apart.lively (apart : phone.Apart) {p q : Nat} {page other : ClonePage} (here : phone.clones[p]? = some page)
    (there : phone.clones[q]? = some other) (live : page.live = true) (cloning : other.isCloning = true)
    (differ : p ≠ q) : page.accountUuid ≠ other.accountUuid := fun same =>
  differ (apart.lives p q page other here there live (live_of_isCloning cloning) same)

theorem Apart.cloned (apart : phone.Apart) {p : Nat} {id : AccountId} {calls : List SyncCall}
    (head : phone.synchronizer.calls = .cloneRemote p id :: calls) (answers : List SyncAnswer) (stuck : Bool)
    (device : Device Store) (brought : answers = [] ∨ ∃ result, answers = [⟨.cloneRemote p id, result⟩])
    (file : ∀ other, other ≠ id → phone.device.repo.account? other = none → device.repo.account? other = none) :
    ({ phone with
      synchronizer := ⟨calls, phone.synchronizer.results ++ answers, stuck⟩
      device := device } : Phone).Apart := by
  let rest : Phone := { phone with synchronizer := ⟨calls, phone.synchronizer.results, stuck⟩, device := device }
  let next : Phone :=
    { phone with synchronizer := ⟨calls, phone.synchronizer.results ++ answers, stuck⟩, device := device }
  have whole : phone.total Inventory.imports = {(p, some id)} + rest.total Inventory.imports := by
    have taken := total_syncTaken Inventory.imports head [] stuck device
    rw [List.append_nil, List.map_nil, List.sum_nil, add_zero, add_comm] at taken
    exact taken.symm
  have alone := apart.alone whole
  have imports : next.total Inventory.imports =
      rest.total Inventory.imports + (answers.map Inventory.imports.syncAnswer).sum := by
    have taken := total_syncTaken Inventory.imports head answers stuck device
    rw [whole, add_assoc, add_comm] at taken
    exact add_left_cancel taken
  have ended : ∀ q o, (q, o) ∈ next.total Inventory.imports →
      (q, o) ∈ rest.total Inventory.imports ∨ q = p ∧ o = none := by
    intro q o member
    rw [imports, Multiset.mem_add] at member
    refine member.imp_right fun new => ?_
    rcases brought with rfl | ⟨result, rfl⟩
    · cases Multiset.notMem_zero _ new
    · rw [List.map_singleton, List.sum_singleton] at new
      exact Prod.mk.inj (Multiset.mem_singleton.mp new)
  have importing : (p, some id) ∈ phone.total Inventory.imports :=
    mem_total_syncCall Inventory.imports head (Multiset.mem_singleton_self _)
  rcases apart.cloning p (some id) importing with ⟨page, here, cloning, missing⟩
  obtain ⟨owner, _⟩ := missing id rfl
  have apartFrom : ∀ (q : Nat) (other : ClonePage), phone.clones[q]? = some other → other.live = true → q ≠ p →
      other.accountUuid ≠ id := by
    intro q other there live differ
    exact owner ▸ apart.lively there here live cloning differ
  have still : ∀ (q : Nat) (other : ClonePage), phone.clones[q]? = some other → other.live = true →
      other.isCloning = false → phone.device.repo.account? other.accountUuid = none →
      device.repo.account? other.accountUuid = none := by
    intro q other there live idle absent
    refine file _ (apartFrom q other there live ?_) absent
    rintro rfl
    obtain rfl := Option.some.inj (here.symm.trans there)
    rw [cloning] at idle
    cases idle
  have saves : next.total Inventory.saves = phone.total Inventory.saves := by
    have taken := total_syncTaken Inventory.saves head answers stuck device
    have silent : (answers.map Inventory.saves.syncAnswer).sum = 0 := by
      rcases brought with rfl | ⟨result, rfl⟩ <;> rfl
    rw [silent, add_zero] at taken
    exact (add_zero _).symm.trans taken
  have listings : next.total listings = phone.total listings := by
    have taken := total_syncTaken listings head answers stuck device
    have silent : (answers.map listings.syncAnswer).sum = 0 := by
      rcases brought with rfl | ⟨result, rfl⟩ <;> rfl
    rw [silent, add_zero] at taken
    exact (add_zero _).symm.trans taken
  constructor
  · rw [saves]
    exact apart.saves
  · intro other member
    rw [saves] at member
    rcases apart.unsaved other member with ⟨absent, pages⟩
    exact ⟨file other (fun same => pages p page here (owner.trans same.symm)) absent, pages⟩
  · exact apart.lives
  · rw [listings]
    exact apart.asked
  · exact apart.told
  · rw [listings]
    intro q other accounts there loading given absent
    have live : other.live = true := by
      rw [ClonePage.live, isLoading_iff.mp loading]
      rfl
    exact still q other there live (isCloning_of_loading loading)
      (apart.listed q other accounts there loading given absent)
  · intro q other remoteAccount there last
    have live : other.live = true := by
      rw [ClonePage.live, last]
      rfl
    have idle : other.isCloning = false := by rw [ClonePage.isCloning, last]
    exact (apart.ready q other remoteAccount there last).imp_right (still q other there live idle)
  · have distinct := apart.imports
    rw [whole, Multiset.map_add] at distinct
    rw [imports, Multiset.map_add]
    rcases brought with rfl | ⟨result, rfl⟩
    · rw [List.map_nil, List.sum_nil, Multiset.map_zero, add_zero]
      exact Multiset.nodup_of_le (Multiset.le_add_left _ _) distinct
    · rw [add_comm]
      exact distinct
  · intro q o member
    rcases ended q o member with other | ⟨rfl, rfl⟩
    · have differ : q ≠ p := by
        rintro rfl
        exact alone (Multiset.mem_map_of_mem Prod.fst other)
      have before : (q, o) ∈ phone.total Inventory.imports := whole ▸ Multiset.mem_cons_of_mem other
      rcases apart.cloning q o before with ⟨clone, there, busy, missing⟩
      refine ⟨clone, there, busy, ?_⟩
      intro id' same
      rcases missing id' same with ⟨rfl, absent⟩
      exact ⟨rfl, file _ (apartFrom q clone there (live_of_isCloning busy) differ) absent⟩
    · refine ⟨page, here, cloning, ?_⟩
      intro id' same
      cases same

theorem sync_absent {replies : Nat → (call : RemoteCall) → call.Reply} {id : AccountId} {device : Device Store}
    {other : AccountId} (absent : device.repo.account? other = none) :
    (actSync generate replies (.sync id) device).2.repo.account? other = none := by
  have framed : Framed id device.repo (actSync generate replies (.sync id) device).2.repo := by
    rw [actSync_sync]
    exact sync_framed (heard replies) 0
  have same := framed.profiles other
  rw [absent] at same
  exact Option.map_eq_none_iff.mp same

theorem Apart.synced (apart : phone.Apart) {id : AccountId} {calls : List SyncCall}
    (head : phone.synchronizer.calls = .sync id :: calls) (answers : List SyncAnswer) (stuck : Bool)
    (device : Device Store) (brought : answers = [] ∨ ∃ result, answers = [⟨.sync id, result⟩])
    (file : ∀ other, phone.device.repo.account? other = none → device.repo.account? other = none) :
    ({ phone with
      synchronizer := ⟨calls, phone.synchronizer.results ++ answers, stuck⟩
      device := device } : Phone).Apart := by
  have unchanged : ∀ {M : Type} [AddCommMonoid M] (inventory : Inventory M), inventory.syncCall (.sync id) = 0 →
      (∀ result, inventory.syncAnswer ⟨.sync id, result⟩ = 0) →
      ({ phone with
        synchronizer := ⟨calls, phone.synchronizer.results ++ answers, stuck⟩
        device := device } : Phone).total inventory = phone.total inventory := by
    intro M _ inventory call answer
    have taken := total_syncTaken inventory head answers stuck device
    have silent : (answers.map inventory.syncAnswer).sum = 0 := by
      rcases brought with rfl | ⟨result, rfl⟩
      · rfl
      · rw [List.map_singleton, List.sum_singleton, answer]
    rw [call, silent, add_zero, add_zero] at taken
    exact taken
  exact apart.mono rfl (unchanged _ rfl fun _ => rfl).le (unchanged _ rfl fun _ => rfl).le
    (unchanged _ rfl fun _ => rfl).le file

theorem Apart.handleSync (apart : phone.Apart) (replies : Nat → (call : RemoteCall) → call.Reply)
    (distinct : Distinct (.handleSync replies) phone) :
    (step sorting order generate (.handleSync replies) phone).Apart := by
  rcases step_handleSync replies phone with same | ⟨call, calls, answers, stuck, head, same, brought⟩
  · rw [same]
    exact apart
  · rw [same]
    cases call with
    | sync id => exact apart.synced head answers stuck _ brought fun _ => sync_absent
    | cloneRemote p id =>
      have honest := distinct p id
      refine apart.cloned head answers stuck _ brought ?_
      intro other differ absent
      have spared : (actSync generate replies (.cloneRemote p id) phone.device).2.repo.account? other =
          phone.device.repo.account? other :=
        (clone_spares (fun account => honest account (by rw [head]; rfl)) differ).1
      exact spared.trans absent

theorem Apart.saveAccount (apart : phone.Apart) {account : Account}
    (fresh : account.uuid ∉ phone.total Inventory.saves) (absent : phone.device.repo.account? account.uuid = none)
    (pages : ∀ (p : Nat) (page : ClonePage), phone.clones[p]? = some page → page.accountUuid ≠ account.uuid) :
    (phone.saveAccount account).Apart := by
  rw [Phone.saveAccount]
  split
  · exact apart.shows _ _ _
  · exact (apart.shows _ _ _).saving _ fresh absent pages

theorem Apart.called (apart : phone.Apart) (asker : Asker) {request : Bindings.Request}
    (plain : ∀ page, asker ≠ .clonePage page) (reads : ∀ account, request ≠ .addAccount account) :
    (phone.call asker request).Apart := by
  apply apart.awaited [.getRepository ⟨asker, request⟩]
  all_goals rw [List.map_singleton, List.sum_singleton]
  · cases request with
    | addAccount account => exact absurd rfl (reads account)
    | _ => rfl
  · cases asker with
    | clonePage page => exact absurd rfl (plain page)
    | _ => cases request <;> rfl
  · cases asker with
    | clonePage page => exact absurd rfl (plain page)
    | _ => cases request <;> rfl

theorem Apart.step (apart : phone.Apart) (event : PhoneEvent) (distinct : Distinct event phone) :
    (step sorting order generate event phone).Apart := by
  cases event with
  | saveAccount entered generateUuid =>
    rw [Phone.step]
    split
    · exact apart.saveAccount distinct.1 distinct.2.1 distinct.2.2
    · exact apart
  | deleteAccount id => exact apart.called _ (by simp) (by simp)
  | loadTransactions id => exact (apart.called _ (by simp) (by simp)).called _ (by simp) (by simp)
  | addTransaction id tx => exact apart.called _ (by simp) (by simp)
  | synchronize id =>
    refine apart.mono rfl ?_ ?_ ?_ fun _ absent => absent
    all_goals exact ((total_syncCalled _ (.sync id) phone).trans (add_zero _)).le
  | saveAccountConfig id accountConfig => exact apart.shows _ _ _
  | openLink accountUuid => exact apart.openLink distinct.1 distinct.2
  | importAccount p => exact apart.importAccount p
  | resume i =>
    rw [Phone.step]
    split
    · exact apart
    · exact apart
    · next task _ here => exact apart.resume here
  | told i remoteAccount =>
    rw [Phone.step]
    split
    · next p here => exact apart.told_step here fun page found => distinct p page here found
    · exact apart
  | fail i message saved =>
    rw [Phone.step]
    split
    · exact apart
    · next task here =>
      split
      · exact apart.fail here message saved
      · exact apart
  | handle error => exact apart.handle error
  | deliver => exact apart.deliver
  | handleSync replies => exact apart.handleSync replies distinct
  | deliverSync => exact apart.deliverSync

/-- The same account, with the same transactions. -/
def Spared (id : AccountId) (before after : Store) : Prop :=
  after.account? id = before.account? id ∧ ∀ tx, after.transaction? id tx = before.transaction? id tx

theorem framed_spared {touched id : AccountId} {before after : Store} (framed : Framed touched before after)
    (differ : id ≠ touched) : Spared id before after :=
  ⟨framed.accounts id differ, framed.transactions id differ⟩

theorem act_spares {call : Asked} {error : Option String} {device : Device Store} {id : AccountId}
    (added : ∀ account, call.request = .addAccount account → account.uuid ≠ id)
    (spared : error = none → call.request ≠ .deleteAccount id ∧ ∀ tx, call.request ≠ .addTransaction id tx) :
    Spared id device.repo (act order error call device).2.repo := by
  rcases call with ⟨asker, request⟩
  cases error with
  | some message => exact ⟨rfl, fun _ => rfl⟩
  | none =>
    rcases spared rfl with ⟨deleted, recorded⟩
    rw [act, onRepo_displayed]
    cases request with
    | listAccounts => exact ⟨rfl, fun _ => rfl⟩
    | addAccount account =>
      refine ⟨?_, fun _ => rfl⟩
      show (device.repo.putAccount account).account? id = device.repo.account? id
      rw [Store.account?_putAccount]
      exact if_neg (Ne.symm (added account rfl))
    | deleteAccount removed =>
      show Spared id device.repo (Repository.deleteAccount removed device.repo).2
      rw [deleteAccount_store]
      refine ⟨?_, fun _ => rfl⟩
      rw [Store.account?_removeAccount]
      apply if_neg
      rintro rfl
      exact deleted rfl
    | listTransactions id => exact ⟨rfl, fun _ => rfl⟩
    | addTransaction account tx =>
      have differ : id ≠ account := by
        rintro rfl
        exact recorded tx rfl
      exact framed_spared (addTransaction_framed account tx device.repo) differ
    | getBalance account =>
      rw [Bindings.Request.meaning, Bindings.pure_bind_run]
      exact ⟨rfl, fun _ => rfl⟩
    | flush => exact ⟨rfl, fun _ => rfl⟩

theorem Apart.spared (apart : phone.Apart) {event : PhoneEvent} (distinct : Distinct event phone) {id : AccountId}
    (present : phone.device.repo.account? id ≠ none) (untouched : ¬ Touches id event phone) :
    Spared id phone.device.repo (Phone.step sorting order generate event phone).device.repo := by
  cases event with
  | handle error =>
    rcases step_handle error phone with same | ⟨call, calls, answers, stuck, head, same, _⟩
    · rw [same]
      exact ⟨rfl, fun _ => rfl⟩
    · rw [same]
      apply act_spares
      · rintro account added rfl
        have member : account.uuid ∈ Inventory.saves.call call := saves_call added ▸ Multiset.mem_singleton_self _
        exact present (apart.unsaved account.uuid (mem_total_call Inventory.saves head member)).1
      · rintro rfl
        refine ⟨?_, ?_⟩
        · intro deleted
          exact untouched ⟨call, by rw [head]; rfl, .inl deleted⟩
        · intro tx recorded
          exact untouched ⟨call, by rw [head]; rfl, .inr ⟨tx, recorded⟩⟩
  | handleSync replies =>
    rcases step_handleSync replies phone with same | ⟨call, calls, answers, stuck, head, same, _⟩
    · rw [same]
      exact ⟨rfl, fun _ => rfl⟩
    · rw [same]
      cases call with
      | sync touched =>
        show Spared id phone.device.repo (actSync generate replies (.sync touched) phone.device).2.repo
        rw [actSync_sync]
        refine framed_spared (sync_framed (heard replies) 0) ?_
        rintro rfl
        exact untouched (by rw [Touches, head]; rfl)
      | cloneRemote p missing =>
        have importing := mem_total_syncCall Inventory.imports head (Multiset.mem_singleton_self (p, some missing))
        rcases apart.cloning p _ importing with ⟨page, _, _, absent⟩
        refine clone_spares (fun account => distinct p missing account (by rw [head]; rfl)) ?_
        rintro rfl
        exact present (absent id rfl).2
  | _ =>
    rw [step_device (by simp) (by simp)]
    exact ⟨rfl, fun _ => rfl⟩

end Frames

section Runs

variable (sorting : AccountSorting) (order : IterationOrder) (generate : Nat → TransactionId)

theorem start_apart (configs : AccountId → Option AccountConfig) (device : Device Store) :
    (start configs device).Apart := by
  apply Apart.loadAccounts
  have nothing : ∀ {M : Type} [AddCommMonoid M] (inventory : Inventory M),
      (⟨[], [], [], false, ⟨[], [], false⟩, ⟨[], [], false⟩, configs, device⟩ : Phone).total inventory = 0 := by
    intro M _ inventory
    simp [total]
  constructor
  · rw [nothing]
    exact Multiset.nodup_zero
  · intro id member
    rw [nothing] at member
    cases Multiset.notMem_zero _ member
  · intro p q page other here
    cases here
  · intro p accounts member
    rw [nothing] at member
    cases Multiset.notMem_zero _ member
  · intro p page remoteAccount here
    cases here
  · intro p page accounts here
    cases here
  · intro p page remoteAccount here
    cases here
  · rw [nothing]
    exact Multiset.nodup_zero
  · intro p id member
    rw [nothing] at member
    cases Multiset.notMem_zero _ member

/-- Whatever is done, and in whatever order things come back: an account in the file keeps its record and its
    transactions until it is synchronized or deleted, or a transaction of it is recorded. -/
theorem untouched_spared (configs : AccountId → Option AccountConfig) (device : Device Store)
    (before : List PhoneEvent)
    (distinct : Machine.Throughout (step sorting order generate) Distinct before (start configs device))
    {id : AccountId} {more : List PhoneEvent} :
    let phone := Machine.after (step sorting order generate) before (start configs device)
    phone.device.repo.account? id ≠ none →
    Machine.Throughout (step sorting order generate) (fun event phone => Distinct event phone ∧ ¬ Touches id event phone)
      more phone →
    Spared id phone.device.repo (Machine.after (step sorting order generate) more phone).device.repo := by
  intro phone present untouched
  have apart : phone.Apart :=
    Machine.after_keeps Phone.Apart (fun event _ apart fine => apart.step event fine) (start_apart configs device)
      distinct (List.append_nil before).symm
  have kept : (Machine.after (step sorting order generate) more phone).Apart ∧
      Spared id phone.device.repo (Machine.after (step sorting order generate) more phone).device.repo := by
    refine Machine.after_keeps (fun later : Phone => later.Apart ∧ Spared id phone.device.repo later.device.repo) ?_
      ⟨apart, rfl, fun _ => rfl⟩ untouched (List.append_nil more).symm
    intro event later both fine
    rcases both with ⟨apart, record, transactions⟩
    rcases apart.spared fine.1 (record ▸ present) fine.2 with ⟨record', transactions'⟩
    exact ⟨apart.step event fine.1, record'.trans record, fun tx => (transactions' tx).trans (transactions tx)⟩
  exact kept.2

def skiing : Account := makeAccount (List.replicate 16 1)

def climbing : Account := makeAccount (List.replicate 16 2)

def climbingReplies : Nat → (call : RemoteCall) → call.Reply
  | _, .getAccountInfo id => .ok { climbing with uuid := id }
  | _, _ => .err .mustRebase

/-- A link is opened, and its account is imported next to the one that is there. -/
def importedClimbing : List PhoneEvent :=
  [.openLink climbing.uuid, .told 2 climbing, .resume 1, .handle none, .deliver, .importAccount 0, .resume 1, .resume 1,
    .handleSync climbingReplies]

theorem untouched_spared_skiing :
    let phone := start (fun _ => none) ⟨Store.empty.putAccount skiing, 0⟩
    Spared skiing.uuid phone.device.repo
      (Machine.after (step (.insertion id) .byPerson fun n => [UInt8.ofNat n]) importedClimbing phone).device.repo := by
  apply untouched_spared (.insertion id) .byPerson (fun n => [UInt8.ofNat n]) (fun _ => none) _ [] True.intro
  · decide +kernel
  · refine ⟨⟨⟨?_, ?_⟩, id⟩, ⟨?_, id⟩, ⟨True.intro, id⟩, ⟨True.intro, ?_⟩, ⟨True.intro, id⟩, ⟨True.intro, id⟩,
      ⟨True.intro, id⟩, ⟨True.intro, id⟩, ⟨?_, ?_⟩, True.intro⟩
    · decide +kernel
    · intro p page here
      cases here
    · intro p page here found
      cases here
      cases found
      rfl
    · rintro ⟨call, head, deleted | ⟨tx, recorded⟩⟩
      · cases head
        cases deleted
      · cases head
        cases recorded
    · intro page id account head told
      obtain rfl := Outcome.ok.inj told
      rfl
    · change ¬ (_ : Option SyncCall) = some (.sync skiing.uuid)
      decide +kernel

end Runs

end Phone

end Flouze
