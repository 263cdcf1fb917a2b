import Flouze.Repository.Optimal

namespace Flouze

inductive Fault where
  | panic (panic : Panic)
  | overflow
deriving DecidableEq

def checked (exact : Int) : Outcome Fault Int64 :=
  if (Int64.ofInt exact).toInt = exact then .ok (Int64.ofInt exact) else .err .overflow

def checkedNeg (a : Int64) : Outcome Fault Int64 := checked (-a.toInt)

def checkedAdd (a b : Int64) : Outcome Fault Int64 := checked (a.toInt + b.toInt)

def checkedSub (a b : Int64) : Outcome Fault Int64 := checked (a.toInt - b.toInt)

def Balance.tryModify (balance : Balance) (person : PersonId) (f : Int64 → Outcome Fault Int64) :
    Outcome Fault Balance :=
  match balance.lookup person with
  | some amount => do
    let amount ← f amount
    pure (balance.insert person amount)
  | none => pure balance

def Balance.trySettle (balance : Balance) (transfer : Transfer) : Outcome Fault Balance := do
  let balance ← balance.tryModify transfer.creditor fun b => checkedSub b transfer.amount
  balance.tryModify transfer.debitor fun b => checkedAdd b transfer.amount

/-- The search of `get_transfers` as a build with overflow checks runs it. -/
def getTransfersHelperChecked (order : IterationOrder) :
    Nat → Option (List Transfer) → Balance → List Transfer → Outcome Fault (Option (List Transfer))
  | 0, _, _, _ => .hang
  | fuel + 1, solution, balance, transfers =>
    match (order.entries transfers balance).find? fun entry => entry.2 > 0 with
    | none =>
      if solution.all fun existing => isSolutionBetter transfers existing then .ok (some transfers)
      else .ok solution
    | some ⟨creditor, credit⟩ =>
      if solution.any fun existing => existing.length ≤ transfers.length then .ok solution
      else
        ((order.entries transfers balance).filter fun entry => entry.2 < 0).foldlM
          (fun solution entry => do
            let owed ← checkedNeg entry.2
            let transfer : Transfer := ⟨entry.1, creditor, min credit owed⟩
            let balance ← balance.trySettle transfer
            getTransfersHelperChecked order fuel solution balance (transfers ++ [transfer]))
          solution

def getTransfersChecked (order : IterationOrder) (balance : Balance) : Outcome Fault (List Transfer) := do
  let solution ← getTransfersHelperChecked order (balance.keys.card + 1) none balance []
  match solution with
  | some transfers => pure transfers
  | none => .err (.panic .unwrapNone)

section Exact

variable {credit debit : Int64}

theorem checked_run {exact : Int} {result : Int64} (fits : result.toInt = exact) :
    checked exact = .ok result := by
  have same : Int64.ofInt exact = result := by rw [← fits, Int64.ofInt_toInt]
  rw [checked, same, if_pos fits]

theorem toInt_neg_debit (bounded : Int64.minValue < debit) : (-debit).toInt = -debit.toInt := by
  have lower := Int64.lt_iff_toInt_lt.mp bounded
  have upper := Int64.toInt_lt debit
  rw [Int64.toInt_minValue] at lower
  rw [Int64.toInt_neg]
  apply Int.bmod_eq_of_le
  · simp at upper ⊢
    omega
  · simp at lower ⊢
    omega

theorem toInt_min (a b : Int64) : (min a b).toInt = min a.toInt b.toInt := by
  have least : min a b = if a ≤ b then a else b := rfl
  rw [least]
  by_cases smaller : a ≤ b
  · rw [if_pos smaller, Int.min_eq_left (Int64.le_iff_toInt_le.mp smaller)]
  · have larger := mt Int64.le_iff_toInt_le.mpr smaller
    rw [if_neg smaller, Int.min_eq_right (by omega)]

theorem reimbursement_exact (positive : 0 < credit) (negative : debit < 0) (bounded : Int64.minValue < debit) :
    (min credit (-debit)).toInt = min credit.toInt (-debit.toInt) ∧
    (credit - min credit (-debit)).toInt = credit.toInt - min credit.toInt (-debit.toInt) ∧
    (debit + min credit (-debit)).toInt = debit.toInt + min credit.toInt (-debit.toInt) := by
  have amount : (min credit (-debit)).toInt = min credit.toInt (-debit.toInt) := by
    rw [toInt_min, toInt_neg_debit bounded]
  have lower := Int64.lt_iff_toInt_lt.mp positive
  have upper := Int64.lt_iff_toInt_lt.mp negative
  rw [Int64.toInt_zero] at lower upper
  have high := Int64.toInt_lt credit
  have low := Int64.le_toInt debit
  refine ⟨amount, ?_, ?_⟩
  · rw [Int64.toInt_sub, amount]
    exact Int.bmod_eq_of_le (by omega) (by omega)
  · rw [Int64.toInt_add, amount]
    exact Int.bmod_eq_of_le (by omega) (by omega)

end Exact

/-- No amount is the one that has no opposite. -/
def Balance.Bounded (balance : Balance) : Prop :=
  ∀ person amount, balance.lookup person = some amount → Int64.minValue < amount

section Agree

variable {order : IterationOrder} {balance : Balance} {transfers : List Transfer}
variable {creditor debitor : PersonId} {credit debit : Int64}

theorem Balance.Bounded.settle (bounded : balance.Bounded) (has_credit : balance.lookup creditor = some credit)
    (has_debit : balance.lookup debitor = some debit) (positive : 0 < credit) (negative : debit < 0) :
    (balance.settle (reimbursement creditor credit ⟨debitor, debit⟩)).Bounded := by
  have low := bounded debitor debit has_debit
  rcases reimbursement_exact positive negative low with ⟨_, rest, rest'⟩
  have lower := Int64.lt_iff_toInt_lt.mp positive
  have upper := Int64.lt_iff_toInt_lt.mp negative
  rw [Int64.lt_iff_toInt_lt, Int64.toInt_minValue] at low
  rw [Int64.toInt_zero] at lower upper
  intro person amount found
  rw [lookup_reimbursed has_credit has_debit positive negative] at found
  split at found
  · obtain rfl := Option.some.inj found
    rw [Int64.lt_iff_toInt_lt, rest, Int64.toInt_minValue]
    omega
  · split at found
    · obtain rfl := Option.some.inj found
      rw [Int64.lt_iff_toInt_lt, rest', Int64.toInt_minValue]
      omega
    · exact bounded person amount found

theorem trySettle_run (bounded : balance.Bounded) (has_credit : balance.lookup creditor = some credit)
    (has_debit : balance.lookup debitor = some debit) (positive : 0 < credit) (negative : debit < 0) :
    balance.trySettle (reimbursement creditor credit ⟨debitor, debit⟩) =
      .ok (balance.settle (reimbursement creditor credit ⟨debitor, debit⟩)) := by
  have differ := debitor_ne_creditor has_credit has_debit positive negative
  rcases reimbursement_exact positive negative (bounded debitor debit has_debit) with ⟨amount, rest, rest'⟩
  rw [← amount] at rest rest'
  have kept : (balance.insert creditor (credit - min credit (-debit))).lookup debitor = some debit := by
    rw [Finmap.lookup_insert_of_ne _ differ, has_debit]
  simp only [Balance.trySettle, Balance.settle, reimbursement, Balance.tryModify, Balance.modify,
    has_credit, checkedSub, checked_run rest, Outcome.ok_bind, Outcome.pure_eq, kept, checkedAdd,
    checked_run rest']

theorem helper_checked (bounded : balance.Bounded) {fuel : Nat} {solution solution' : Option (List Transfer)}
    (returns : getTransfersHelper order fuel solution balance transfers = .ok solution') :
    getTransfersHelperChecked order fuel solution balance transfers = .ok solution' := by
  induction fuel generalizing balance transfers solution solution' with
  | zero => cases returns
  | succ fuel ih =>
    unfold getTransfersHelper at returns
    unfold getTransfersHelperChecked
    cases first : (order.entries transfers balance).find? fun entry => entry.2 > 0 with
    | none =>
      rw [first] at returns
      simp only at returns ⊢
      split at returns
      · next better => rw [if_pos better, Outcome.ok.inj returns]
      · next worse => rw [if_neg worse, Outcome.ok.inj returns]
    | some entry =>
      rcases entry with ⟨creditor, credit⟩
      have positive : 0 < credit := by simpa using List.find?_some first
      have has_credit : balance.lookup creditor = some credit :=
        mem_entries.mp (List.mem_of_find?_eq_some first)
      rw [first] at returns
      simp only at returns ⊢
      split at returns
      · next long => rw [if_pos long, Outcome.ok.inj returns]
      · next short =>
        rw [if_neg short]
        apply Outcome.foldlM_agree _ returns
        intro acc entry member next passed
        rcases mem_debitors.mp member with ⟨has_debit, negative⟩
        have opposite := checked_run (toInt_neg_debit (bounded _ _ has_debit))
        have settled := trySettle_run bounded has_credit has_debit positive negative
        rw [checkedNeg, opposite, Outcome.ok_bind]
        change (balance.trySettle (reimbursement creditor credit entry) >>= _) = _
        rw [settled, Outcome.ok_bind]
        exact ih (bounded.settle has_credit has_debit positive negative) passed

theorem getTransfers_checked (bounded : balance.Bounded) (returns : getTransfers order balance = .ok transfers) :
    getTransfersChecked order balance = .ok transfers := by
  unfold getTransfers at returns
  rw [Outcome.bind_eq_ok] at returns
  rcases returns with ⟨solution, run, returns⟩
  unfold getTransfersChecked
  rw [helper_checked bounded run, Outcome.ok_bind]
  cases solution with
  | none => cases returns
  | some found =>
    obtain rfl := Outcome.ok.inj returns
    rfl

end Agree

end Flouze
