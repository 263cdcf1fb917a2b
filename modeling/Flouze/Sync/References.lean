import Flouze.Repository.References
import Flouze.Sync.Undisturbed

namespace Flouze

open Linked Repository

/-- What is to hold of the references after a sync that found `newer` on the server: both sides hold
    one history, it refers to itself only, a transaction that was pending refers to what it referred
    to before, and the balances can be computed if they could before. -/
structure ReferencesKept (id : AccountId) (store server store' server' : Store)
    (record serverRecord record' serverRecord' : Account)
    (synced pending newer rebased : List Transaction) : Prop where
  found : store'.account? id = some record'
  read : store'.ChainAt id record'.latestTransaction (synced ++ newer ++ rebased)
  remote_found : server'.account? id = some serverRecord'
  remote_read : server'.ChainAt id serverRecord'.latestTransaction (synced ++ newer ++ rebased)
  content : rebased.map Transaction.content = pending.map Transaction.content
  refers : RefersTo [] (synced ++ newer ++ rebased)
  same : ∀ (i j : Nat) (tx old : Transaction), pending[i]? = some tx → (synced ++ pending)[j]? = some old →
    tx.replaces = old.uuid → ∃ tx' old' : Transaction,
      rebased[i]? = some tx' ∧ (synced ++ rebased)[j]? = some old' ∧ tx'.replaces = old'.uuid
  balances : (∃ balance, getBalance store record = .ok balance) →
    (∃ balance, getBalance server serverRecord = .ok balance) →
    (∃ balance, getBalance store' record' = .ok balance) ∧
      ∃ balance, getBalance server' serverRecord' = .ok balance

section Moved

variable (generate : Nat → TransactionId) (count : Nat) (parent : TransactionId)
variable {pending : List Transaction}

theorem moved_getElem? {i : Nat} {tx : Transaction} (at_i : pending[i]? = some tx) :
    ∃ tx', (moved generate count parent pending)[i]? = some tx' ∧ tx'.content = tx.content := by
  have contents := moved_content generate count parent pending
  have same := congrArg (fun l => l[i]?) contents
  simp only [List.getElem?_map, at_i, Option.map_some] at same
  rcases Option.map_eq_some_iff.mp same with ⟨tx', found, content⟩
  exact ⟨tx', found, content⟩

theorem mem_of_contents {rebased : List Transaction} {tx' : Transaction}
    (contents : rebased.map Transaction.content = pending.map Transaction.content)
    (member : tx' ∈ rebased) : ∃ tx ∈ pending, tx'.content = tx.content := by
  have present := List.mem_map_of_mem (f := Transaction.content) member
  rw [contents] at present
  rcases List.mem_map.mp present with ⟨tx, among, same⟩
  exact ⟨tx, among, same.symm⟩

end Moved

section Survive

variable {id : AccountId} {generate : Nat → TransactionId} {device : Device Store} {server : Store}
variable {record serverRecord : Account} {synced pending newer : List Transaction}

theorem Honest.fresh_of_returned
    (honest : Honest id device.repo server record serverRecord synced pending newer)
    (returned : ((sync generate id device).run ServerRpcImpl.answer server).1.1 = .ok ()) :
    ∀ tx ∈ newer, device.repo.transaction? id tx.uuid = none := by
  intro tx member
  by_contra stored
  rcases honest.sync_run_duplicate generate ⟨tx, member, stored⟩ with ⟨_, _, _, refused⟩
  rw [refused] at returned
  cases returned

theorem Honest.old_id_gone
    (honest : Honest id device.repo server record serverRecord synced pending newer)
    (fresh : ∀ tx ∈ newer, device.repo.transaction? id tx.uuid = none)
    (ids : FreshIds generate device.generated fun drawn =>
      device.repo.transaction? id drawn ≠ none ∨ drawn ∈ newer.map Transaction.uuid)
    (parent : TransactionId) {tx : Transaction} (member : tx ∈ pending) :
    tx.uuid ∉ (synced ++ newer ++ moved generate device.generated parent pending).map Transaction.uuid := by
  have stored := (honest.read.stored tx (List.mem_append_right _ member)).2
  intro still
  rcases List.mem_map.mp still with ⟨other, present, same⟩
  rcases List.mem_append.mp present with before | renamed
  · rcases List.mem_append.mp before with old | pulled
    · exact Chained.not_mem_right honest.read old member same.symm
    · have unknown := fresh other pulled
      rw [same, stored] at unknown
      cases unknown
  · rcases mem_moved _ _ _ renamed with ⟨n, lower, _, drawn⟩
    apply ids.unused n lower
    rw [← drawn, same, stored]
    exact .inl (by simp)

theorem moved_refers_iff
    (honest : Honest id device.repo server record serverRecord synced pending newer)
    (fresh : ∀ tx ∈ newer, device.repo.transaction? id tx.uuid = none)
    (ids : FreshIds generate device.generated fun drawn =>
      device.repo.transaction? id drawn ≠ none ∨ drawn ∈ newer.map Transaction.uuid)
    (refers : RefersTo [] (synced ++ pending)) (remote_refers : RefersTo [] (synced ++ newer))
    (parent : TransactionId) :
    RefersTo [] (synced ++ newer ++ moved generate device.generated parent pending) ↔
      ∀ tx ∈ pending, tx.replaces ∉ pending.map Transaction.uuid := by
  constructor
  · intro kept tx member inside
    rcases List.mem_map.mp inside with ⟨old, among, same⟩
    rcases List.mem_iff_getElem?.mp member with ⟨i, at_i⟩
    rcases moved_getElem? generate device.generated parent at_i with ⟨tx', found, content⟩
    have present : tx' ∈ moved generate device.generated parent pending := List.mem_of_getElem? found
    rcases kept.mem (List.mem_append_right _ present) with none | known
    · rw [replaces_of_content content, ← same] at none
      exact (honest.read.stored old (List.mem_append_right _ among)).1 none
    · rw [replaces_of_content content, ← same, List.nil_append] at known
      exact honest.old_id_gone fresh ids parent among known
  · intro outside
    rw [refersTo_append]
    refine ⟨remote_refers, refersTo_of_forall fun tx' member => ?_⟩
    rcases mem_of_contents (moved_content generate _ parent pending) member with ⟨tx, among, content⟩
    rw [replaces_of_content content]
    have known := refers.mem (List.mem_append_right _ among)
    simp only [List.nil_append, List.map_append, List.mem_append] at known ⊢
    rcases known with none | old | new
    · exact .inl none
    · exact .inr (.inl old)
    · exact absurd new (outside tx among)

theorem rebasedOnto_refers_iff
    (honest : Honest id device.repo server record serverRecord synced pending newer)
    (fresh : ∀ tx ∈ newer, device.repo.transaction? id tx.uuid = none)
    (ids : FreshIds generate device.generated fun drawn =>
      device.repo.transaction? id drawn ≠ none ∨ drawn ∈ newer.map Transaction.uuid)
    (refers : RefersTo [] (synced ++ pending)) (remote_refers : RefersTo [] (synced ++ newer)) :
    RefersTo [] (synced ++ newer ++ rebasedOnto generate device.generated newer pending) ↔
      newer = [] ∨ ∀ tx ∈ pending, tx.replaces ∉ pending.map Transaction.uuid := by
  by_cases same : newer = []
  · subst same
    simpa [rebasedOnto] using refers
  · rw [rebasedOnto_behind generate device.generated same pending,
      moved_refers_iff honest fresh ids refers remote_refers]
    exact (or_iff_right same).symm

theorem moved_same (outside : ∀ tx ∈ pending, tx.replaces ∉ pending.map Transaction.uuid)
    (count : Nat) (parent : TransactionId) (i j : Nat) (tx old : Transaction) (at_i : pending[i]? = some tx)
    (at_j : (synced ++ pending)[j]? = some old) (replaced : tx.replaces = old.uuid) :
    ∃ tx' old' : Transaction, (moved generate count parent pending)[i]? = some tx' ∧
      (synced ++ moved generate count parent pending)[j]? = some old' ∧ tx'.replaces = old'.uuid := by
  rcases moved_getElem? generate count parent at_i with ⟨tx', found, content⟩
  by_cases before : j < synced.length
  · rw [List.getElem?_append_left before] at at_j
    refine ⟨tx', old, found, ?_, (replaces_of_content content).trans replaced⟩
    rw [List.getElem?_append_left before]
    exact at_j
  · rw [List.getElem?_append_right (by omega)] at at_j
    have inside : tx.replaces ∈ pending.map Transaction.uuid :=
      replaced ▸ List.mem_map_of_mem (List.mem_of_getElem? at_j)
    exact absurd inside (outside tx (List.mem_of_getElem? at_i))

theorem rebasedOnto_same (count : Nat)
    (outside : newer = [] ∨ ∀ tx ∈ pending, tx.replaces ∉ pending.map Transaction.uuid)
    (i j : Nat) (tx old : Transaction) (at_i : pending[i]? = some tx)
    (at_j : (synced ++ pending)[j]? = some old) (replaced : tx.replaces = old.uuid) :
    ∃ tx' old' : Transaction, (rebasedOnto generate count newer pending)[i]? = some tx' ∧
      (synced ++ rebasedOnto generate count newer pending)[j]? = some old' ∧ tx'.replaces = old'.uuid := by
  by_cases same : newer = []
  · subst same
    exact ⟨tx, old, at_i, at_j, replaced⟩
  · rw [rebasedOnto_behind generate count same]
    exact moved_same (outside.resolve_left same) count _ i j tx old at_i at_j replaced

theorem noted_of_parts {rebased : List Transaction}
    (contents : rebased.map Transaction.content = pending.map Transaction.content)
    (noted : ∀ tx ∈ synced ++ pending, tx.deleted = true → tx.replaces ≠ [])
    (remote_noted : ∀ tx ∈ synced ++ newer, tx.deleted = true → tx.replaces ≠ []) :
    ∀ tx ∈ synced ++ newer ++ rebased, tx.deleted = true → tx.replaces ≠ [] := by
  intro tx member
  rcases List.mem_append.mp member with before | renamed
  · exact remote_noted tx before
  · rcases mem_of_contents contents renamed with ⟨old, among, content⟩
    rw [replaces_of_content content, deleted_of_content content]
    exact noted old (List.mem_append_right _ among)

theorem balance_ok_iff {store : Store} {account : Account} {chain : List Transaction}
    (found : store.account? id = some account) (read : store.ChainAt id account.latestTransaction chain)
    (refers : RefersTo [] chain) :
    (∃ balance, getBalance store account = .ok balance) ↔ ∀ tx ∈ chain, tx.deleted = true → tx.replaces ≠ [] := by
  obtain rfl : account.uuid = id := Store.uuid_of_account? found
  exact getBalance_ok_iff read refers

/-- A sync that returns keeps the references exactly if it had nothing to pull, or nothing pending
    replaced something pending. -/
theorem references_survive_iff
    (honest : Honest id device.repo server record serverRecord synced pending newer)
    (ids : FreshIds generate device.generated fun drawn =>
      device.repo.transaction? id drawn ≠ none ∨ drawn ∈ newer.map Transaction.uuid)
    (refers : RefersTo [] (synced ++ pending)) (remote_refers : RefersTo [] (synced ++ newer))
    (returned : ((sync generate id device).run ServerRpcImpl.answer server).1.1 = .ok ()) :
    let result := (sync generate id device).run ServerRpcImpl.answer server
    (∃ record' serverRecord' rebased, ReferencesKept id device.repo server result.1.2.repo result.2 record
        serverRecord record' serverRecord' synced pending newer rebased) ↔
      newer = [] ∨ ∀ tx ∈ pending, tx.replaces ∉ pending.map Transaction.uuid := by
  intro result
  have fresh := honest.fresh_of_returned returned
  obtain ⟨device', server', record', serverRecord', run, after, _⟩ :=
    honest.sync_run_full generate fresh fun _ => ids
  have result_eq : result = ((.ok (), device'), server') := run
  rw [result_eq]
  have here := after.read
  have there := after.remote_read
  rw [List.append_nil] at here there
  have refers_iff := rebasedOnto_refers_iff honest fresh ids refers remote_refers
  have content := rebasedOnto_content generate device.generated newer pending
  constructor
  · intro given
    rcases given with ⟨record'', serverRecord'', rebased, kept⟩
    obtain rfl := Option.some.inj (kept.found.symm.trans after.found)
    have chain := Chained.unique kept.read here
    have refers' := kept.refers
    rw [chain] at refers'
    exact refers_iff.mp refers'
  · intro condition
    have refers' := refers_iff.mpr condition
    refine ⟨record', serverRecord', _, after.found, here, after.remote_found, there, content, refers',
      rebasedOnto_same device.generated condition, ?_⟩
    intro balance remote_balance
    have noted := noted_of_parts content ((balance_ok_iff honest.found honest.read refers).mp balance)
      ((balance_ok_iff honest.remote_found honest.remote_read remote_refers).mp remote_balance)
    exact ⟨(balance_ok_iff after.found here refers').mpr noted,
      (balance_ok_iff after.remote_found there refers').mpr noted⟩

end Survive

def editedAccount : Account := { makeAccount [7] with latestTransaction := [0, 0] }

def edited : List Transaction :=
  [makeTransaction [0] [], { makeTransaction [0, 0] [0] with replaces := [0] }]

def newsAccount : Account := { makeAccount [7] with latestTransaction := [9] }

def news : List Transaction := [makeTransaction [9] []]

theorem honest_news {record : Account} {pending : List Transaction} (uuid : record.uuid = [7])
    (latest : record.latestTransaction = tip Transaction.uuid [] pending)
    (synchronized : record.latestSynchronizedTransaction = [])
    (linked : LinkedOn Transaction.uuid Transaction.parent [] pending)
    (nonempty : ∀ tx ∈ pending, tx.uuid ≠ []) (distinct : (pending.map Transaction.uuid).Nodup) :
    Honest [7] (.holding record pending) (.holding newsAccount news) record newsAccount [] pending news := by
  refine ⟨⟨uuid ▸ Store.holding_account, ?_, synchronized⟩, Store.holding_account, ?_⟩
  · rw [latest, ← uuid]
    exact Store.holding_read linked nonempty distinct
  · exact Store.holding_read (by decide) (by decide) (by decide)

def enteredAccount : Account := { makeAccount [7] with latestTransaction := [0] }

def enteredOne : Device Store := ⟨.holding enteredAccount [makeTransaction [0] []], 1⟩

theorem references_survive_entered : ∃ record' serverRecord' rebased,
    ReferencesKept [7] enteredOne.repo (.holding newsAccount news)
      ((sync (numbered 0) [7] enteredOne).run ServerRpcImpl.answer (Store.holding newsAccount news)).1.2.repo
      ((sync (numbered 0) [7] enteredOne).run ServerRpcImpl.answer (Store.holding newsAccount news)).2
      enteredAccount newsAccount record' serverRecord' [] [makeTransaction [0] []] news rebased := by
  have honest : Honest [7] enteredOne.repo (.holding newsAccount news) enteredAccount newsAccount []
      [makeTransaction [0] []] news := honest_news rfl rfl rfl (by decide) (by decide) (by decide)
  have ids : FreshIds (numbered 0) enteredOne.generated fun drawn =>
      enteredOne.repo.transaction? [7] drawn ≠ none ∨ drawn ∈ news.map Transaction.uuid := by
    apply numbered_freshIds
    intro n later given
    rcases given with stored | given
    · refine stored (Store.holding_absent _ fun known => ?_)
      have first := (numbered_inj (m := 0) (List.mem_singleton.mp known)).2
      exact absurd (first ▸ later) (by decide)
    · rcases numbered_inj (m := 0) (List.mem_singleton.mp given) with ⟨byte, _⟩
      exact absurd byte (by decide)
  have returned : ((sync (numbered 0) [7] enteredOne).run ServerRpcImpl.answer
      (Store.holding newsAccount news)).1.1 = .ok () := by decide
  have kept := references_survive_iff honest ids (by decide) (by decide) returned
  exact kept.mpr (.inr (by decide))

/-- The edit reaches the server, but what it edits is known there under another id only. -/
theorem edited_reference_dangles :
    Honest [7] (.holding editedAccount edited) (.holding newsAccount news) editedAccount newsAccount
      [] edited news ∧
    RefersTo [] edited ∧ RefersTo [] news ∧
    let result := (sync (numbered 0) [7] ⟨Store.holding editedAccount edited, 2⟩).run ServerRpcImpl.answer
      (Store.holding newsAccount news)
    result.1.1 = .ok () ∧
    (∃ chain, result.2.Chain [7] chain ∧ ¬ RefersTo [] chain) ∧
    ∃ record, result.2.account? [7] = some record ∧
      getBalance result.2 record = .err (.noSuchTransaction [0]) := by
  refine ⟨honest_news rfl rfl rfl (by decide) (by decide) (by decide), by decide, by decide, by decide, ?_, ?_⟩
  · let chain := [makeTransaction [9] [], makeTransaction (numbered 0 2) [9],
      { makeTransaction (numbered 0 3) (numbered 0 2) with replaces := [0] }]
    have read : ((sync (numbered 0) [7] ⟨Store.holding editedAccount edited, 2⟩).run ServerRpcImpl.answer
        (Store.holding newsAccount news)).2.ChainAt [7] (numbered 0 3) chain :=
      ⟨rfl, by decide, by decide⟩
    exact ⟨chain, ⟨{ makeAccount [7] with latestTransaction := numbered 0 3 }, by decide, read⟩, by decide⟩
  · exact ⟨{ makeAccount [7] with latestTransaction := numbered 0 3 }, by decide, rfl⟩

end Flouze
