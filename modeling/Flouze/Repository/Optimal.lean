import Flouze.Lib.ZeroSum
import Flouze.Repository.Transfers

namespace Flouze

open ZeroSum

def Balance.owed (balance : Balance) (person : PersonId) : Int := ((balance.lookup person).getD 0).toInt

def Transfer.payment (transfer : Transfer) : Payment PersonId :=
  ⟨transfer.debitor, transfer.creditor, transfer.amount.toInt⟩

/-- The transfers bring everybody to exactly zero, in whatever order they are made. -/
def Settles (balance : Balance) (transfers : List Transfer) : Prop :=
  ∀ person ∈ balance.keys, balance.owed person + flow (transfers.map Transfer.payment) person = 0

instance (balance : Balance) (transfers : List Transfer) : Decidable (Settles balance transfers) :=
  inferInstanceAs (Decidable (∀ person ∈ balance.keys, _))

section Settle

variable {balance : Balance} {creditor debitor : PersonId} {credit debit : Int64}

theorem Balance.owed_eq {person : PersonId} {amount : Int64} (found : balance.lookup person = some amount) :
    balance.owed person = amount.toInt := by
  simp [Balance.owed, found]

theorem mem_keys_of_owed {person : PersonId} (owed : balance.owed person ≠ 0) : person ∈ balance.keys := by
  rw [Balance.mem_keys_iff]
  cases found : balance.lookup person with
  | none => simp [Balance.owed, found] at owed
  | some amount => exact ⟨amount, rfl⟩

theorem lookup_settle (balance : Balance) (transfer : Transfer) (differ : transfer.debitor ≠ transfer.creditor)
    (person : PersonId) :
    (balance.settle transfer).lookup person =
      if person = transfer.creditor then (balance.lookup person).map fun b => b - transfer.amount
      else if person = transfer.debitor then (balance.lookup person).map fun b => b + transfer.amount
      else balance.lookup person := by
  rw [Balance.settle, Balance.lookup_modify, Balance.lookup_modify]
  by_cases at_creditor : person = transfer.creditor
  · subst at_creditor
    rw [if_neg (Ne.symm differ), if_pos rfl, if_pos rfl]
  · rw [if_neg at_creditor, if_neg at_creditor]

theorem debitor_ne_creditor (has_credit : balance.lookup creditor = some credit)
    (has_debit : balance.lookup debitor = some debit) (positive : 0 < credit) (negative : debit < 0) :
    debitor ≠ creditor := by
  intro same
  subst same
  obtain rfl := Option.some.inj (has_credit.symm.trans has_debit)
  exact absurd positive (Int64.lt_asymm negative)

theorem lookup_reimbursed (has_credit : balance.lookup creditor = some credit)
    (has_debit : balance.lookup debitor = some debit) (positive : 0 < credit) (negative : debit < 0)
    (person : PersonId) :
    (balance.settle (reimbursement creditor credit ⟨debitor, debit⟩)).lookup person =
      if person = creditor then some (credit - min credit (-debit))
      else if person = debitor then some (debit + min credit (-debit))
      else balance.lookup person := by
  have differ := debitor_ne_creditor has_credit has_debit positive negative
  rw [lookup_settle balance (reimbursement creditor credit ⟨debitor, debit⟩) differ]
  simp only [reimbursement]
  by_cases at_creditor : person = creditor
  · subst at_creditor
    simp [has_credit]
  · by_cases at_debitor : person = debitor
    · subst at_debitor
      simp [has_debit, at_creditor]
    · simp [at_creditor, at_debitor]

theorem owed_settle (has_credit : balance.lookup creditor = some credit)
    (has_debit : balance.lookup debitor = some debit) (positive : 0 < credit) (negative : debit < 0) :
    let after := balance.settle (reimbursement creditor credit ⟨debitor, debit⟩)
    (∀ person, person ≠ creditor → person ≠ debitor → after.owed person = balance.owed person) ∧
    ((after.owed creditor = 0 ∧ after.owed debitor = balance.owed creditor + balance.owed debitor) ∨
      (after.owed debitor = 0 ∧ after.owed creditor = balance.owed debitor + balance.owed creditor)) := by
  intro after
  have differ := debitor_ne_creditor has_credit has_debit positive negative
  have moved := lookup_reimbursed has_credit has_debit positive negative
  have at_creditor : after.lookup creditor = some (credit - min credit (-debit)) := by
    rw [moved, if_pos rfl]
  have at_debitor : after.lookup debitor = some (debit + min credit (-debit)) := by
    rw [moved, if_neg differ, if_pos rfl]
  have both := toInt_add_opposite positive negative
  constructor
  · intro person not_creditor not_debitor
    rw [Balance.owed, moved, if_neg not_creditor, if_neg not_debitor]
    rfl
  · rw [Balance.owed_eq at_creditor, Balance.owed_eq at_debitor, Balance.owed_eq has_credit,
      Balance.owed_eq has_debit]
    rcases transfer_cases credit debit with ⟨settled, rest⟩ | ⟨rest, settled⟩
    · left
      rw [settled, rest, both]
      exact ⟨rfl, rfl⟩
    · right
      rw [settled, rest, both, Int.add_comm]
      exact ⟨rfl, rfl⟩

end Settle

def Within (count : Nat) (solution : Option (List Transfer)) : Prop :=
  ∃ transfers, solution = some transfers ∧ transfers.length ≤ count

section Search

variable {order : IterationOrder} {balance : Balance} {transfers : List Transfer}

theorem within_loop {pass : Option (List Transfer) → (Σ _ : PersonId, Int64) → Outcome Panic (Option (List Transfer))}
    {debitors : List (Σ _ : PersonId, Int64)}
    (inner : ∀ solution, ∀ entry ∈ debitors, ∃ solution', pass solution entry = .ok solution' ∧
      ∀ count, Within count solution → Within count solution') (solution : Option (List Transfer)) :
    ∃ solution', debitors.foldlM pass solution = .ok solution' ∧
      (∀ count, Within count solution → Within count solution') ∧
      ∀ count, ∀ entry ∈ debitors,
        (∀ before after, pass before entry = .ok after → Within count after) → Within count solution' := by
  induction debitors generalizing solution with
  | nil => exact ⟨solution, rfl, fun _ => id, by simp⟩
  | cons entry debitors ih =>
    rcases inner solution entry (by simp) with ⟨middle, first, here⟩
    obtain ⟨last, rest, later, found⟩ :=
      ih (fun solution other member => inner solution other (by simp [member])) middle
    refine ⟨last, ?_, fun count known => later count (here count known), ?_⟩
    · rw [List.foldlM_cons, first]
      exact rest
    · intro count other member leads
      rcases List.mem_cons.mp member with rfl | among
      · exact later count (leads solution middle first)
      · exact found count other among leads

variable {β : Type}

/-- All open persons are among these, and each group of them can be settled on its own. -/
structure Grouped (balance : Balance) (colour : PersonId → β) (people : Finset PersonId) : Prop where
  splits : Splits balance.owed colour people
  covers : ∀ person, balance.owed person ≠ 0 → person ∈ people

theorem exists_debitor {colour : PersonId → β} {people : Finset PersonId} {creditor : PersonId} {credit : Int64}
    (grouped : Grouped balance colour people) (present : creditor ∈ people)
    (has_credit : balance.lookup creditor = some credit) (positive : 0 < credit) :
    ∃ debitor debit, debitor ∈ people ∧ colour debitor = colour creditor ∧
      balance.lookup debitor = some debit ∧ debit < 0 := by
  have owed : 0 < balance.owed creditor := by
    rw [Balance.owed_eq has_credit]
    exact Int64.lt_iff_toInt_lt.mp positive
  rcases grouped.splits.opposite present owed with ⟨debitor, among, same, owes⟩
  rcases Balance.mem_keys_iff.mp (mem_keys_of_owed (Int.ne_of_lt owes)) with ⟨debit, has_debit⟩
  rw [Balance.owed_eq has_debit] at owes
  exact ⟨debitor, debit, among, same, has_debit, Int64.lt_iff_toInt_lt.mpr owes⟩

variable [DecidableEq β]

theorem Grouped.settle {colour : PersonId → β} {people : Finset PersonId} {creditor debitor : PersonId}
    {credit debit : Int64} (grouped : Grouped balance colour people) (has_creditor : creditor ∈ people)
    (has_debitor : debitor ∈ people) (same : colour debitor = colour creditor)
    (has_credit : balance.lookup creditor = some credit) (has_debit : balance.lookup debitor = some debit)
    (positive : 0 < credit) (negative : debit < 0) :
    ∃ people' : Finset PersonId,
      Grouped (balance.settle (reimbursement creditor credit ⟨debitor, debit⟩)) colour people' ∧
      people'.image colour = people.image colour ∧ people'.card + 1 = people.card := by
  have differ := debitor_ne_creditor has_credit has_debit positive negative
  rcases owed_settle has_credit has_debit positive negative with ⟨elsewhere, settled⟩
  generalize balance.settle (reimbursement creditor credit ⟨debitor, debit⟩) = after at elsewhere settled ⊢
  have leaves : ∀ settled other, settled ∈ people → other ∈ people → other ≠ settled →
      colour settled = colour other → after.owed settled = 0 →
      after.owed other = balance.owed settled + balance.owed other →
      (∀ person, person ≠ settled → person ≠ other → after.owed person = balance.owed person) →
      ∃ people' : Finset PersonId, Grouped after colour people' ∧
        people'.image colour = people.image colour ∧ people'.card + 1 = people.card := by
    intro settled other present stays apart alike zero taken kept
    refine ⟨people.erase settled, ⟨grouped.splits.settle present stays apart alike taken kept, ?_⟩,
      image_erase stays apart alike, Finset.card_erase_add_one present⟩
    intro person still
    have not_settled : person ≠ settled := fun equal => still (equal ▸ zero)
    refine Finset.mem_erase.mpr ⟨not_settled, ?_⟩
    by_cases at_other : person = other
    · exact at_other ▸ stays
    · exact grouped.covers person (kept person not_settled at_other ▸ still)
  rcases settled with ⟨zero, taken⟩ | ⟨zero, taken⟩
  · exact leaves creditor debitor has_creditor has_debitor differ same.symm zero taken elsewhere
  · exact leaves debitor creditor has_debitor has_creditor differ.symm same zero taken
      fun person not_debitor not_creditor => elsewhere person not_creditor not_debitor

/-- However the open persons fall into groups that can be settled on their own, the search finds a
    solution that needs one transfer less than it has persons for each group. -/
theorem helper_within (colour : PersonId → β) (order : IterationOrder) (transfers : List Transfer)
    {fuel : Nat} (enough : balance.openCount < fuel) (solution : Option (List Transfer)) :
    ∃ solution', getTransfersHelper order fuel solution balance transfers = .ok solution' ∧
      (∀ count, Within count solution → Within count solution') ∧
      ∀ people count, Grouped balance colour people →
        transfers.length + people.card ≤ count + (people.image colour).card → Within count solution' := by
  induction fuel generalizing balance transfers solution with
  | zero =>
    have counted := openCount_nonneg balance
    omega
  | succ fuel ih =>
    have groups : ∀ people : Finset PersonId, (people.image colour).card ≤ people.card :=
      fun people => Finset.card_image_le
    cases helper_searched order fuel solution balance transfers with
    | better _ longer run =>
      refine ⟨_, run, ?_, ?_⟩
      · intro count given
        rcases given with ⟨existing, known, short⟩
        have shorter := longer existing known
        exact ⟨transfers, rfl, by omega⟩
      · intro people count _ bound
        have fewer := groups people
        exact ⟨transfers, rfl, by omega⟩
    | kept known shorter run =>
      refine ⟨_, run, fun _ => id, ?_⟩
      intro people count _ bound
      have fewer := groups people
      exact ⟨_, known, by omega⟩
    | @tried creditor credit has_credit positive run =>
      have fewer : ∀ entry ∈ debitors order transfers balance,
          (balance.settle (reimbursement creditor credit entry)).openCount < fuel := by
        intro entry member
        rcases mem_debitors.mp member with ⟨has_debit, owes⟩
        exact Int.lt_of_lt_of_le (openCount_settle has_credit has_debit positive owes) (by omega)
      obtain ⟨last, ends, keeps, found⟩ := within_loop (fun solution entry member => by
        obtain ⟨after, inner, kept, _⟩ := ih (transfers ++ [reimbursement creditor credit entry])
          (fewer entry member) solution
        exact ⟨after, inner, kept⟩) solution
      refine ⟨last, run.trans ends, keeps, ?_⟩
      intro people count grouped bound
      have owed : balance.owed creditor ≠ 0 := by
        rw [Balance.owed_eq has_credit]
        exact (Int.ne_of_lt (Int64.lt_iff_toInt_lt.mp positive)).symm
      have has_creditor := grouped.covers creditor owed
      -- the debitor with which the creditor is settled inside its group
      obtain ⟨debitor, debit, has_debitor, same, has_debit, negative⟩ :=
        exists_debitor grouped has_creditor has_credit positive
      obtain ⟨people', grouped', colours, less⟩ := grouped.settle has_creditor has_debitor same has_credit
        has_debit positive negative
      have member : (⟨debitor, debit⟩ : Σ _ : PersonId, Int64) ∈ debitors order transfers balance :=
        mem_debitors.mpr ⟨has_debit, negative⟩
      apply found count _ member
      intro before after pass
      obtain ⟨after', inner, _, leads⟩ := ih (transfers ++ [reimbursement creditor credit ⟨debitor, debit⟩])
        (fewer _ member) before
      obtain rfl := Outcome.ok.inj (inner.symm.trans pass)
      apply leads people' count grouped'
      rw [colours, List.length_append, List.length_singleton]
      omega

theorem getTransfers_within (colour : PersonId → β) (order : IterationOrder) {transfers : List Transfer}
    (returns : getTransfers order balance = .ok transfers) {people : Finset PersonId}
    (grouped : Grouped balance colour people) :
    transfers.length + (people.image colour).card ≤ people.card := by
  have enough : balance.openCount < (balance.keys.card + 1 : Nat) := by
    have bound := openCount_le_keys balance
    omega
  rcases helper_within colour order [] enough none with ⟨solution, run, _, leads⟩
  have fewer : (people.image colour).card ≤ people.card := Finset.card_image_le
  obtain ⟨found, known, short⟩ := leads people (people.card - (people.image colour).card) grouped
    (by simp only [List.length_nil]; omega)
  unfold getTransfers at returns
  rw [run, known] at returns
  obtain rfl := Outcome.ok.inj returns
  omega

end Search

/-- No transfers between persons of the balance that settle it are fewer than the ones returned. -/
theorem getTransfers_optimal (order : IterationOrder) (balance : Balance) (zero : balance.total = 0) :
    ∃ transfers, getTransfers order balance = .ok transfers ∧
      ∀ others : List Transfer,
        (∀ t ∈ others, 0 < t.amount ∧ t.debitor ∈ balance.keys ∧ t.creditor ∈ balance.keys) →
        Settles balance others → transfers.length ≤ others.length := by
  rcases getTransfers_cases order balance with ⟨_, transfers, returns⟩ | ⟨owed, _⟩
  · refine ⟨transfers, returns, ?_⟩
    intro others within settles
    have known : ∀ p ∈ others.map Transfer.payment, p.payer ∈ balance.keys ∧ p.payee ∈ balance.keys := by
      intro p member
      rcases List.mem_map.mp member with ⟨t, among, rfl⟩
      exact (within t among).2
    rcases exists_grouping (others.map Transfer.payment) known with ⟨colour, splits, bound⟩
    have opposite : ∀ person ∈ balance.keys,
        balance.owed person = -flow (others.map Transfer.payment) person := by
      intro person known
      have settled := settles person known
      omega
    have few := getTransfers_within colour order returns
      ⟨splits_congr opposite splits, fun person => mem_keys_of_owed⟩
    rw [List.length_map] at bound
    omega
  · omega

def lent : Balance :=
  ((initialBalance [⟨[1], "a"⟩, ⟨[2], "b"⟩]).modify [1] fun _ => 5).modify [2] fun _ => -5

theorem getTransfers_optimal_lent :
    ∃ transfers, getTransfers .byPerson lent = .ok transfers ∧ transfers.length ≤ 1 := by
  rcases getTransfers_optimal .byPerson lent (by decide) with ⟨transfers, returns, best⟩
  exact ⟨transfers, returns, best [⟨[2], [1], 5⟩] (by decide) (by decide)⟩

end Flouze
