import Flouze.Repository.Checked

namespace Flouze

open ZeroSum

def Balance.openPersons (balance : Balance) : Finset PersonId :=
  balance.keys.filter fun person => balance.owed person ≠ 0

/-- A balance that the search has reached from `start`, and the transfers that led there. -/
structure Path (start : Balance) (transfers : List Transfer) (balance : Balance) : Prop where
  applied : transfers.foldl Balance.settle start = balance
  bounded : balance.Bounded
  total : balance.total = start.total
  exact : ∀ person, balance.owed person = start.owed person + flow (transfers.map Transfer.payment) person
  owed : ∀ person, 0 < balance.owed person → 0 < start.owed person
  owes : ∀ person, balance.owed person < 0 → start.owed person < 0
  directed : ∀ t ∈ transfers, 0 < t.amount ∧ start.owed t.debitor < 0 ∧ 0 < start.owed t.creditor

section Path

variable {order : IterationOrder} {start balance : Balance} {transfers : List Transfer}
variable {creditor debitor : PersonId} {credit debit : Int64}

theorem Path.root (bounded : start.Bounded) : Path start [] start := by
  refine ⟨rfl, bounded, rfl, ?_, fun _ => id, fun _ => id, by simp⟩
  intro person
  simp [flow]

theorem owed_reimbursed (bounded : balance.Bounded) (has_credit : balance.lookup creditor = some credit)
    (has_debit : balance.lookup debitor = some debit) (positive : 0 < credit) (negative : debit < 0)
    (person : PersonId) :
    (balance.settle (reimbursement creditor credit ⟨debitor, debit⟩)).owed person =
      balance.owed person + flow [(reimbursement creditor credit ⟨debitor, debit⟩).payment] person := by
  have differ := debitor_ne_creditor has_credit has_debit positive negative
  rcases reimbursement_exact positive negative (bounded debitor debit has_debit) with ⟨amount, rest, rest'⟩
  rw [Balance.owed, lookup_reimbursed has_credit has_debit positive negative]
  simp only [flow, Transfer.payment, reimbursement, List.map_cons, List.map_nil, List.sum_cons, List.sum_nil]
  by_cases at_creditor : person = creditor
  · subst at_creditor
    simp only [if_true, Option.getD_some, rest, Balance.owed_eq has_credit, amount, differ, if_false]
    omega
  · by_cases at_debitor : person = debitor
    · subst at_debitor
      simp only [at_creditor, if_true, if_false, Option.getD_some, rest', Balance.owed_eq has_debit, amount,
        differ.symm]
      omega
    · simp [Balance.owed, at_creditor, at_debitor, Ne.symm at_creditor, Ne.symm at_debitor]

theorem signs_reimbursed (bounded : balance.Bounded) (has_credit : balance.lookup creditor = some credit)
    (has_debit : balance.lookup debitor = some debit) (positive : 0 < credit) (negative : debit < 0) :
    0 ≤ (balance.settle (reimbursement creditor credit ⟨debitor, debit⟩)).owed creditor ∧
      (balance.settle (reimbursement creditor credit ⟨debitor, debit⟩)).owed debitor ≤ 0 := by
  have differ := debitor_ne_creditor has_credit has_debit positive negative
  rcases reimbursement_exact positive negative (bounded debitor debit has_debit) with ⟨_, rest, rest'⟩
  have moved := lookup_reimbursed has_credit has_debit positive negative
  constructor
  · rw [Balance.owed, moved, if_pos rfl, Option.getD_some, rest]
    omega
  · rw [Balance.owed, moved, if_neg differ, if_pos rfl, Option.getD_some, rest']
    omega

theorem Path.settle (path : Path start transfers balance) (has_credit : balance.lookup creditor = some credit)
    (has_debit : balance.lookup debitor = some debit) (positive : 0 < credit) (negative : debit < 0) :
    Path start (transfers ++ [reimbursement creditor credit ⟨debitor, debit⟩])
      (balance.settle (reimbursement creditor credit ⟨debitor, debit⟩)) := by
  rcases owed_settle has_credit has_debit positive negative with ⟨elsewhere, _⟩
  rcases signs_reimbursed path.bounded has_credit has_debit positive negative with ⟨credited, debited⟩
  have lower := Int64.lt_iff_toInt_lt.mp positive
  have upper := Int64.lt_iff_toInt_lt.mp negative
  rw [Int64.toInt_zero] at lower upper
  rw [← Balance.owed_eq has_credit] at lower
  rw [← Balance.owed_eq has_debit] at upper
  refine ⟨?_, path.bounded.settle has_credit has_debit positive negative, ?_, ?_, ?_, ?_, ?_⟩
  · rw [List.foldl_append, path.applied]
    rfl
  · rw [← path.total]
    exact total_settle has_credit has_debit positive negative
  · intro person
    rw [owed_reimbursed path.bounded has_credit has_debit positive negative, path.exact person,
      List.map_append, flow_append, Int.add_assoc]
    rfl
  · intro person still
    apply path.owed person
    by_cases at_creditor : person = creditor
    · rw [at_creditor]
      exact lower
    · by_cases at_debitor : person = debitor
      · subst at_debitor
        omega
      · rw [← elsewhere person at_creditor at_debitor]
        exact still
  · intro person still
    apply path.owes person
    by_cases at_debitor : person = debitor
    · rw [at_debitor]
      exact upper
    · by_cases at_creditor : person = creditor
      · subst at_creditor
        omega
      · rw [← elsewhere person at_creditor at_debitor]
        exact still
  · intro t member
    rcases List.mem_append.mp member with before | last
    · exact path.directed t before
    · obtain rfl := List.mem_singleton.mp last
      rcases reimbursement_exact positive negative (path.bounded debitor debit has_debit) with ⟨amount, _⟩
      refine ⟨?_, path.owes debitor upper, path.owed creditor lower⟩
      rw [Balance.owed_eq has_credit] at lower
      rw [Balance.owed_eq has_debit] at upper
      rw [Int64.lt_iff_toInt_lt, Int64.toInt_zero]
      change 0 < (min credit (-debit)).toInt
      omega

def Complete (start : Balance) (transfers : List Transfer) : Prop :=
  ∃ balance, Path start transfers balance ∧
    ∀ person amount, balance.lookup person = some amount → ¬ 0 < amount

theorem helper_complete (path : Path start transfers balance) {fuel : Nat}
    {solution solution' : Option (List Transfer)} (known : ∀ found, solution = some found → Complete start found)
    (returns : getTransfersHelper order fuel solution balance transfers = .ok solution') :
    ∀ found, solution' = some found → Complete start found := by
  induction fuel generalizing balance transfers solution solution' with
  | zero => cases returns
  | succ fuel ih =>
    cases helper_searched order fuel solution balance transfers with
    | better none_owed _ run =>
      obtain rfl := Outcome.ok.inj (run.symm.trans returns)
      intro found same
      obtain rfl := Option.some.inj same
      exact ⟨balance, path, none_owed⟩
    | kept _ _ run =>
      obtain rfl := Outcome.ok.inj (run.symm.trans returns)
      exact known
    | tried has_credit positive run =>
      apply Outcome.foldlM_keeps _ known (run.symm.trans returns)
      intro acc entry member fine next passed
      rcases mem_debitors.mp member with ⟨has_debit, negative⟩
      exact ih (path.settle has_credit has_debit positive negative) fine passed

theorem getTransfers_complete (bounded : start.Bounded) (returns : getTransfers order start = .ok transfers) :
    Complete start transfers := by
  unfold getTransfers at returns
  rw [Outcome.bind_eq_ok] at returns
  rcases returns with ⟨solution, run, returns⟩
  cases solution with
  | none => cases returns
  | some found =>
    obtain rfl := Outcome.ok.inj returns
    exact helper_complete (.root bounded) (by simp) run _ rfl

theorem all_zero (none_owed : ∀ person amount, balance.lookup person = some amount → ¬ 0 < amount)
    (zero : balance.total = 0) {person : PersonId} (known : person ∈ balance.keys) :
    balance.lookup person = some 0 := by
  have nonpos : ∀ other ∈ balance.keys, balance.owed other ≤ 0 := by
    intro other member
    rcases Balance.mem_keys_iff.mp member with ⟨amount, found⟩
    have small := none_owed other amount found
    rw [Int64.lt_iff_toInt_lt, Int64.toInt_zero] at small
    rw [Balance.owed_eq found]
    omega
  have nothing := (Finset.sum_eq_zero_iff_of_nonpos nonpos).mp zero person known
  rcases Balance.mem_keys_iff.mp known with ⟨amount, found⟩
  rw [Balance.owed_eq found] at nothing
  rw [found, Int64.toInt_inj.mp (nothing.trans Int64.toInt_zero.symm)]

theorem keys_settle (balance : Balance) (transfer : Transfer) :
    (balance.settle transfer).keys = balance.keys := by
  rw [Balance.settle, Balance.keys_modify, Balance.keys_modify]

theorem keys_settled (transfers : List Transfer) (balance : Balance) :
    (transfers.foldl Balance.settle balance).keys = balance.keys := by
  induction transfers generalizing balance with
  | nil => rfl
  | cons t transfers ih => rw [List.foldl_cons, ih, keys_settle]

theorem openPersons_grouped (zero : balance.total = 0) :
    Grouped balance (fun _ => ()) balance.openPersons := by
  have sum : ∑ person ∈ balance.openPersons, balance.owed person = 0 := by
    rw [Balance.openPersons, Finset.sum_filter_ne_zero]
    exact zero
  exact ⟨splits_constant sum, fun person still =>
    Finset.mem_filter.mpr ⟨mem_keys_of_owed still, still⟩⟩

end Path

/-- What `get_transfers` returns settles the balance, from those who owe to those who are owed, with one
    transfer less than there are open persons, and no operation of the search overflows. -/
theorem getTransfers_settles (order : IterationOrder) (balance : Balance) (zero : balance.total = 0)
    (bounded : ∀ person amount, balance.lookup person = some amount → Int64.minValue < amount) :
    ∃ transfers, getTransfers order balance = .ok transfers ∧
      getTransfersChecked order balance = .ok transfers ∧
      (∀ person ∈ balance.keys, (transfers.foldl Balance.settle balance).lookup person = some 0) ∧
      Settles balance transfers ∧
      (∀ t ∈ transfers, 0 < t.amount ∧ balance.owed t.debitor < 0 ∧ 0 < balance.owed t.creditor) ∧
      (∀ first ∈ transfers, ∀ second ∈ transfers, first.debitor ≠ second.creditor) ∧
      (0 < balance.openPersons.card → transfers.length ≤ balance.openPersons.card - 1) := by
  rcases getTransfers_cases order balance with ⟨_, transfers, returns⟩ | ⟨owed, _⟩
  · rcases getTransfers_complete bounded returns with ⟨after, path, none_owed⟩
    have keys : after.keys = balance.keys := by rw [← path.applied, keys_settled]
    have settled : ∀ person ∈ balance.keys, after.lookup person = some 0 :=
      fun person known => all_zero none_owed (path.total.trans zero) (keys ▸ known)
    refine ⟨transfers, returns, getTransfers_checked bounded returns, ?_, ?_, path.directed, ?_, ?_⟩
    · rw [path.applied]
      exact settled
    · intro person known
      rw [← path.exact person, Balance.owed_eq (settled person known), Int64.toInt_zero]
    · intro first among second among' same
      have owes := (path.directed first among).2.1
      have owed := (path.directed second among').2.2
      rw [same] at owes
      omega
    · intro some
      have few := getTransfers_within (fun _ => ()) order returns (openPersons_grouped zero)
      rw [Finset.image_const (Finset.card_pos.mp some), Finset.card_singleton] at few
      omega
  · omega

theorem getTransfers_settles_lent :
    ∃ transfers, getTransfersChecked .byPerson lent = .ok transfers ∧ Settles lent transfers := by
  have bounded : ∀ person amount, lent.lookup person = some amount → Int64.minValue < amount := by
    intro person amount found
    have known : person ∈ lent.keys := Balance.mem_keys_iff.mpr ⟨amount, found⟩
    have each : ∀ person ∈ lent.keys, Int64.minValue < (lent.lookup person).getD 0 := by decide
    simpa [found] using each person known
  rcases getTransfers_settles .byPerson lent (by decide) bounded with ⟨transfers, _, checks, _, settles, _⟩
  exact ⟨transfers, checks, settles⟩

end Flouze
