import Mathlib.Algebra.BigOperators.Group.Finset.Piecewise
import Mathlib.Algebra.Order.BigOperators.Group.Finset
import Mathlib.Data.List.Lex
import Mathlib.Data.List.Sort
import Flouze.Repository.Balance

namespace Flouze

structure Transfer where
  debitor : PersonId
  creditor : PersonId
  amount : Int64
deriving DecidableEq

inductive Panic where
  | unwrapNone
deriving DecidableEq

/-- In which order a hash map is iterated is not specified, and may differ from one copy of it to the
    next. The copies of the search are told apart by the transfers made so far. -/
structure IterationOrder where
  entries : List Transfer → Balance → List (Σ _ : PersonId, Int64)
  all : ∀ transfers balance, (entries transfers balance : Multiset (Σ _ : PersonId, Int64)) = balance.entries

def Balance.settle (balance : Balance) (transfer : Transfer) : Balance :=
  (balance.modify transfer.creditor fun b => b - transfer.amount).modify transfer.debitor fun b =>
    b + transfer.amount

def isSolutionBetter (candidate existing : List Transfer) : Bool := candidate.length < existing.length

/-- `solution` is threaded through; `transfers` is pushed before and popped after each inner call. -/
def getTransfersHelper (order : IterationOrder) :
    Nat → Option (List Transfer) → Balance → List Transfer → Outcome Panic (Option (List Transfer))
  | 0, _, _, _ => .hang
  | fuel + 1, solution, balance, transfers =>
    match (order.entries transfers balance).find? fun entry => entry.2 > 0 with
    | none =>
      if solution.all fun existing => isSolutionBetter transfers existing then .ok (some transfers)
      else .ok solution
    | some ⟨creditor, credit⟩ =>
      -- as long as the best solution already
      if solution.any fun existing => existing.length ≤ transfers.length then .ok solution
      else
        ((order.entries transfers balance).filter fun entry => entry.2 < 0).foldlM
          (fun solution entry =>
            let transfer : Transfer := ⟨entry.1, creditor, min credit (-entry.2)⟩
            getTransfersHelper order fuel solution (balance.settle transfer) (transfers ++ [transfer]))
          solution

/-- Every transfer brings one amount to zero, so the number of persons bounds the depth of the search. -/
def getTransfers (order : IterationOrder) (balance : Balance) : Outcome Panic (List Transfer) := do
  let solution ← getTransfersHelper order (balance.keys.card + 1) none balance []
  match solution with
  | some transfers => pure transfers
  | none => .err .unwrapNone

namespace Balance

def measure (f : Int64 → Int) (balance : Balance) : Int :=
  ∑ person ∈ balance.keys, f ((balance.lookup person).getD 0)

def total : Balance → Int := measure Int64.toInt

def openCount : Balance → Int := measure fun amount => if amount = 0 then 0 else 1

variable {balance : Balance} {person : PersonId} {amount : Int64}

theorem mem_keys_iff : person ∈ balance.keys ↔ ∃ amount, balance.lookup person = some amount := by
  rw [Finmap.mem_keys, Finmap.mem_iff]

theorem keys_modify (f : Int64 → Int64) : (balance.modify person f).keys = balance.keys := by
  ext other
  rw [mem_keys_iff, mem_keys_iff, lookup_modify]
  split <;> simp

theorem measure_modify (found : balance.lookup person = some amount) (f : Int64 → Int) (g : Int64 → Int64) :
    (balance.modify person g).measure f = balance.measure f + (f (g amount) - f amount) := by
  have each : ∀ other ∈ balance.keys, f (((balance.modify person g).lookup other).getD 0) =
      f ((balance.lookup other).getD 0) + if person = other then f (g amount) - f amount else 0 := by
    intro other _
    rw [lookup_modify]
    by_cases same : other = person
    · subst same
      simp [found]
    · simp [same, Ne.symm same]
  have known : person ∈ balance.keys := mem_keys_iff.mpr ⟨amount, found⟩
  rw [measure, keys_modify, Finset.sum_congr rfl each, Finset.sum_add_distrib, Finset.sum_ite_eq,
    if_pos known]
  rfl

end Balance

theorem toInt_add_opposite {credit debit : Int64} (positive : 0 < credit) (negative : debit < 0) :
    (credit + debit).toInt = credit.toInt + debit.toInt := by
  have lower := Int64.lt_iff_toInt_lt.mp positive
  have upper := Int64.lt_iff_toInt_lt.mp negative
  have bound := Int64.toInt_lt credit
  have bound' := Int64.le_toInt debit
  rw [Int64.toInt_add]
  apply Int.bmod_eq_of_le
  · simp at lower upper ⊢
    omega
  · simp at lower upper ⊢
    omega

theorem transfer_cases (credit debit : Int64) :
    (credit - min credit (-debit) = 0 ∧ debit + min credit (-debit) = credit + debit) ∨
    (credit - min credit (-debit) = credit + debit ∧ debit + min credit (-debit) = 0) := by
  have least : min credit (-debit) = if credit ≤ -debit then credit else -debit := rfl
  by_cases smaller : credit ≤ -debit
  · left
    rw [least, if_pos smaller]
    exact ⟨Int64.sub_self _, Int64.add_comm _ _⟩
  · right
    rw [least, if_neg smaller]
    refine ⟨?_, Int64.add_right_neg _⟩
    rw [Int64.sub_eq_add_neg, Int64.neg_neg]

section Settle

variable {balance : Balance} {creditor debitor : PersonId} {credit debit : Int64}

theorem measure_settle (has_credit : balance.lookup creditor = some credit)
    (has_debit : balance.lookup debitor = some debit) (positive : 0 < credit) (negative : debit < 0)
    (f : Int64 → Int) :
    (balance.settle ⟨debitor, creditor, min credit (-debit)⟩).measure f + f credit + f debit =
      balance.measure f + f (credit + debit) + f 0 := by
  have differ : debitor ≠ creditor := by
    intro same
    subst same
    obtain rfl := Option.some.inj (has_credit.symm.trans has_debit)
    exact absurd positive (Int64.lt_asymm negative)
  have kept : (balance.modify creditor fun b => b - min credit (-debit)).lookup debitor = some debit := by
    rw [Balance.lookup_modify, if_neg differ, has_debit]
  rw [Balance.settle, Balance.measure_modify kept, Balance.measure_modify has_credit]
  rcases transfer_cases credit debit with ⟨creditor_settled, rest⟩ | ⟨rest, debitor_settled⟩
  · rw [creditor_settled, rest]
    omega
  · rw [rest, debitor_settled]
    omega

theorem total_settle (has_credit : balance.lookup creditor = some credit)
    (has_debit : balance.lookup debitor = some debit) (positive : 0 < credit) (negative : debit < 0) :
    (balance.settle ⟨debitor, creditor, min credit (-debit)⟩).total = balance.total := by
  have moved := measure_settle has_credit has_debit positive negative Int64.toInt
  rw [toInt_add_opposite positive negative, Int64.toInt_zero] at moved
  unfold Balance.total
  omega

theorem openCount_settle (has_credit : balance.lookup creditor = some credit)
    (has_debit : balance.lookup debitor = some debit) (positive : 0 < credit) (negative : debit < 0) :
    (balance.settle ⟨debitor, creditor, min credit (-debit)⟩).openCount < balance.openCount := by
  have moved := measure_settle has_credit has_debit positive negative fun amount =>
    if amount = 0 then 0 else 1
  have credit_open : credit ≠ 0 := (Int64.ne_of_lt positive).symm
  have debit_open : debit ≠ 0 := Int64.ne_of_lt negative
  simp only [credit_open, debit_open, if_false, if_true] at moved
  unfold Balance.openCount
  split at moved <;> omega

end Settle

section Search

variable {order : IterationOrder} {balance : Balance} {transfers : List Transfer}

theorem mem_entries {entry : Σ _ : PersonId, Int64} :
    entry ∈ order.entries transfers balance ↔ balance.lookup entry.1 = some entry.2 := by
  rw [← Multiset.mem_coe, order.all]
  exact Finmap.mem_lookup_iff.symm

theorem total_nonpos (none_owed : ∀ person amount, balance.lookup person = some amount → ¬ 0 < amount) :
    balance.total ≤ 0 := by
  apply Finset.sum_nonpos
  intro person known
  rcases Balance.mem_keys_iff.mp known with ⟨amount, found⟩
  have small := none_owed person amount found
  rw [Int64.lt_iff_toInt_lt] at small
  simpa [found] using small

theorem total_pos {creditor : PersonId} {credit : Int64} (has_credit : balance.lookup creditor = some credit)
    (positive : 0 < credit) (none_owes : ∀ person amount, balance.lookup person = some amount → ¬ amount < 0) :
    0 < balance.total := by
  have known : creditor ∈ balance.keys := Balance.mem_keys_iff.mpr ⟨credit, has_credit⟩
  apply Finset.sum_pos'
  · intro person known
    rcases Balance.mem_keys_iff.mp known with ⟨amount, found⟩
    have large := none_owes person amount found
    rw [Int64.lt_iff_toInt_lt] at large
    simpa [found] using large
  · refine ⟨creditor, known, ?_⟩
    rw [Int64.lt_iff_toInt_lt] at positive
    simpa [has_credit] using positive

theorem search_loop {pass : Option (List Transfer) → (Σ _ : PersonId, Int64) → Outcome Panic (Option (List Transfer))}
    {found : Prop} {debitors : List (Σ _ : PersonId, Int64)}
    (inner : ∀ solution, ∀ entry ∈ debitors, ∃ solution', pass solution entry = .ok solution' ∧
      (solution'.isSome ↔ solution.isSome ∨ found)) (solution : Option (List Transfer)) :
    ∃ solution', debitors.foldlM pass solution = .ok solution' ∧
      (solution'.isSome ↔ solution.isSome ∨ (debitors ≠ [] ∧ found)) := by
  induction debitors generalizing solution with
  | nil => exact ⟨solution, rfl, by simp⟩
  | cons entry debitors ih =>
    rcases inner solution entry (by simp) with ⟨middle, first, here⟩
    rcases ih (fun solution other member => inner solution other (by simp [member])) middle with ⟨last, rest, later⟩
    refine ⟨last, ?_, ?_⟩
    · rw [List.foldlM_cons, first]
      exact rest
    · rw [later, here]
      simp only [ne_eq, List.cons_ne_nil, not_false_eq_true, true_and]
      tauto

theorem openCount_nonneg (balance : Balance) : 0 ≤ balance.openCount := Finset.sum_nonneg fun person _ => by
  simp only
  split <;> simp

def debitors (order : IterationOrder) (transfers : List Transfer) (balance : Balance) :
    List (Σ _ : PersonId, Int64) :=
  (order.entries transfers balance).filter fun entry => entry.2 < 0

def reimbursement (creditor : PersonId) (credit : Int64) (entry : Σ _ : PersonId, Int64) : Transfer :=
  ⟨entry.1, creditor, min credit (-entry.2)⟩

theorem mem_debitors {entry : Σ _ : PersonId, Int64} :
    entry ∈ debitors order transfers balance ↔ balance.lookup entry.1 = some entry.2 ∧ entry.2 < 0 := by
  rw [debitors, List.mem_filter, mem_entries, decide_eq_true_iff]

/-- How a call of the search ends: nobody is owed anything and the transfers are the best so far, or
    it keeps the solution that it got, or it tries every debitor for one creditor. -/
inductive Searched (order : IterationOrder) (fuel : Nat) (solution : Option (List Transfer))
    (balance : Balance) (transfers : List Transfer) : Prop
  | better (none_owed : ∀ person amount, balance.lookup person = some amount → ¬ 0 < amount)
      (longer : ∀ existing, solution = some existing → transfers.length < existing.length)
      (run : getTransfersHelper order (fuel + 1) solution balance transfers = .ok (some transfers))
  | kept {existing : List Transfer} (known : solution = some existing)
      (shorter : existing.length ≤ transfers.length)
      (run : getTransfersHelper order (fuel + 1) solution balance transfers = .ok solution)
  | tried {creditor : PersonId} {credit : Int64} (has_credit : balance.lookup creditor = some credit)
      (positive : 0 < credit)
      (run : getTransfersHelper order (fuel + 1) solution balance transfers =
        (debitors order transfers balance).foldlM (fun solution entry =>
          getTransfersHelper order fuel solution (balance.settle (reimbursement creditor credit entry))
            (transfers ++ [reimbursement creditor credit entry])) solution)

theorem helper_searched (order : IterationOrder) (fuel : Nat) (solution : Option (List Transfer))
    (balance : Balance) (transfers : List Transfer) : Searched order fuel solution balance transfers := by
  cases first : (order.entries transfers balance).find? fun entry => entry.2 > 0 with
  | none =>
    have none_owed : ∀ person amount, balance.lookup person = some amount → ¬ 0 < amount := by
      intro person amount found positive
      have rejected := List.find?_eq_none.mp first ⟨person, amount⟩ (mem_entries.mpr found)
      simp [positive] at rejected
    cases solution with
    | none => exact .better none_owed (by simp) (by simp [getTransfersHelper, first])
    | some existing =>
      by_cases shorter : transfers.length < existing.length
      · exact .better none_owed (by simp [shorter])
          (by simp [getTransfersHelper, first, isSolutionBetter, shorter])
      · exact .kept rfl (by omega) (by simp [getTransfersHelper, first, isSolutionBetter, shorter])
  | some entry =>
    rcases entry with ⟨creditor, credit⟩
    have positive : 0 < credit := by simpa using List.find?_some first
    have has_credit : balance.lookup creditor = some credit :=
      mem_entries.mp (List.mem_of_find?_eq_some first)
    cases solution with
    | none => exact .tried has_credit positive (by simp only [getTransfersHelper, first]; rfl)
    | some existing =>
      by_cases shorter : existing.length ≤ transfers.length
      · exact .kept rfl shorter (by simp [getTransfersHelper, first, shorter])
      · exact .tried has_credit positive (by
          simp only [getTransfersHelper, first, Option.any_some, shorter, decide_false]
          rfl)

/-- The search always ends, and it finds a solution exactly if the credits do not exceed the debits. -/
theorem helper_run (order : IterationOrder) (transfers : List Transfer) {fuel : Nat}
    (enough : balance.openCount < fuel) (solution : Option (List Transfer)) :
    ∃ solution', getTransfersHelper order fuel solution balance transfers = .ok solution' ∧
      (solution'.isSome ↔ solution.isSome ∨ balance.total ≤ 0) := by
  induction fuel generalizing balance transfers solution with
  | zero =>
    have counted := openCount_nonneg balance
    omega
  | succ fuel ih =>
    cases helper_searched order fuel solution balance transfers with
    | better none_owed _ run => exact ⟨_, run, by simp [total_nonpos none_owed]⟩
    | kept known _ run => exact ⟨_, run, by simp [known]⟩
    | @tried creditor credit has_credit positive run =>
      have inner : ∀ solution, ∀ entry ∈ debitors order transfers balance,
          ∃ solution', getTransfersHelper order fuel solution
              (balance.settle (reimbursement creditor credit entry))
              (transfers ++ [reimbursement creditor credit entry]) = .ok solution' ∧
            (solution'.isSome ↔ solution.isSome ∨ balance.total ≤ 0) := by
        intro solution entry member
        rcases mem_debitors.mp member with ⟨has_debit, owes⟩
        have fewer := openCount_settle has_credit has_debit positive owes
        rw [← total_settle has_credit has_debit positive owes]
        exact ih _ (Int.lt_of_lt_of_le fewer (by omega)) solution
      rcases search_loop inner solution with ⟨last, ends, outcome⟩
      refine ⟨last, run.trans ends, outcome.trans (or_congr_right (and_iff_right_of_imp fun paid nobody => ?_))⟩
      have none_owes : ∀ person amount, balance.lookup person = some amount → ¬ amount < 0 := by
        intro person amount found negative
        have among : (⟨person, amount⟩ : Σ _ : PersonId, Int64) ∈ debitors order transfers balance :=
          mem_debitors.mpr ⟨found, negative⟩
        simp [nobody] at among
      exact absurd (total_pos has_credit positive none_owes) (by omega)

theorem openCount_le_keys (balance : Balance) : balance.openCount ≤ balance.keys.card := by
  unfold Balance.openCount Balance.measure
  calc
    _ ≤ ∑ _person ∈ balance.keys, (1 : Int) := Finset.sum_le_sum fun person _ => by
      simp only
      split <;> simp
    _ = balance.keys.card := by simp

theorem getTransfers_cases (order : IterationOrder) (balance : Balance) :
    (balance.total ≤ 0 ∧ ∃ transfers, getTransfers order balance = .ok transfers) ∨
    (0 < balance.total ∧ getTransfers order balance = .err .unwrapNone) := by
  have enough : balance.openCount < (balance.keys.card + 1 : Nat) := by
    have bound := openCount_le_keys balance
    omega
  rcases helper_run order [] enough none with ⟨solution, run, outcome⟩
  unfold getTransfers
  rw [run, Outcome.ok_bind]
  cases solution with
  | none => exact .inr ⟨by simpa using outcome, rfl⟩
  | some transfers => exact .inl ⟨by simpa using outcome, transfers, rfl⟩

theorem total_of_sums {members : List Person} {sum : PersonId → Int} (sums : Sums members sum balance) :
    balance.total = ∑ person ∈ (members.map Person.uuid).toFinset, (Int64.ofInt (sum person)).toInt := by
  have same_keys : balance.keys = (members.map Person.uuid).toFinset := by
    ext person
    rw [Balance.mem_keys_iff, sums, List.mem_toFinset]
    split
    · next member => simp [member]
    · next absent => simp [absent]
  unfold Balance.total Balance.measure
  rw [same_keys]
  apply Finset.sum_congr rfl
  intro person member
  rw [sums, if_pos (List.mem_toFinset.mp member)]
  rfl

end Search

def personLe (first second : PersonId) : Prop := Store.keyOrder.le first second

instance : DecidableRel personLe := Store.keyOrder.toDecidableLE

instance : IsTrans PersonId personLe := ⟨Store.keyOrder.le_trans⟩

instance : Std.Total personLe := ⟨Store.keyOrder.le_total⟩

instance : Std.Antisymm personLe := ⟨Store.keyOrder.le_antisymm⟩

def sortedPersons (persons : Multiset PersonId) : List PersonId :=
  Quot.liftOn persons (List.insertionSort personLe) fun first second same =>
    List.Perm.eq_of_pairwise' (List.pairwise_insertionSort personLe first)
      (List.pairwise_insertionSort personLe second)
      ((List.perm_insertionSort _ first).trans (same.trans (List.perm_insertionSort _ second).symm))

theorem coe_sortedPersons (persons : Multiset PersonId) :
    (sortedPersons persons : Multiset PersonId) = persons := by
  induction persons using Quot.inductionOn with
  | h persons => exact Multiset.coe_eq_coe.mpr (List.perm_insertionSort personLe persons)

def IterationOrder.byPerson : IterationOrder where
  entries _ balance := (sortedPersons balance.keys.val).map fun person => ⟨person, (balance.lookup person).getD 0⟩
  all _ balance := by
    have keys : balance.keys.val = balance.entries.map Sigma.fst := rfl
    rw [← Multiset.map_coe, coe_sortedPersons, keys, Multiset.map_map]
    conv_rhs => rw [← Multiset.map_id balance.entries]
    apply Multiset.map_congr rfl
    intro given present
    rcases given with ⟨person, amount⟩
    have found : balance.lookup person = some amount := Finmap.mem_lookup_iff.mpr present
    simp [found]

example : getTransfers .byPerson (((initialBalance [⟨[1], "a"⟩, ⟨[2], "b"⟩]).modify [1] fun _ => 5).modify
    [2] fun _ => -5) = .ok [⟨[2], [1], 5⟩] := by
  decide

end Flouze
