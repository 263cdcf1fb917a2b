import Flouze.Lib.Walk
import Flouze.Repository.Balance
import Flouze.Repository.Receive

namespace Flouze

open Repository Walk

section Loops

variable {σ τ β : Type} [Repository σ] [Repository τ]

def readBack (repo : σ) (account : AccountId) (onward : Transaction → Option TransactionId) (id : TransactionId) :
    Option TransactionId :=
  if id = [] then none
  else match getTransaction account id repo with
    | .ok tx => onward tx
    | _ => none

/-- Whether a pass goes on depends on the transaction alone: then it goes on to its parent. -/
structure Judges (pass : β → Transaction → Outcome ErrorKind (ForInStep β))
    (onward : Transaction → Option TransactionId) : Prop where
  passes : ∀ tx, onward tx ≠ none → onward tx = some tx.parent ∧ ∀ acc, ∃ acc', pass acc tx = .ok (.yield acc')
  stops : ∀ tx, onward tx = none → ∀ acc acc', pass acc tx ≠ .ok (.yield acc')

/-- No more reads of transactions of the account succeed than transactions are stored. -/
def Counted (repo : σ) (account : AccountId) : Prop :=
  ∀ ids : List TransactionId, ids.Nodup → (∀ id ∈ ids, ∃ tx, getTransaction account id repo = .ok tx) →
    ids.length ≤ transactionCount repo

variable {repo : σ} {repo' : τ} {account : AccountId} {onward : Transaction → Option TransactionId}
variable {pass : β → Transaction → Outcome ErrorKind (ForInStep β)}

theorem readBack_congr (same : ∀ id, getTransaction account id repo = getTransaction account id repo') :
    readBack repo account onward = readBack repo' account onward := by
  funext id
  simp only [readBack, same id]

theorem Counted.circles_iff (counted : Counted repo account) {head : TransactionId} :
    Circles (readBack repo account onward) head ↔
      walk (readBack repo account onward) (transactionCount repo + 1) head ≠ none := by
  apply Walk.circles_iff
  intro keys distinct each
  apply counted keys distinct
  intro key member
  have goes_on := each key member
  unfold readBack at goes_on
  cases read : getTransaction account key repo with
  | ok tx => exact ⟨tx, rfl⟩
  | err error => simp [read] at goes_on
  | hang => simp [read] at goes_on

/-- A way that does not go in a circle ends within as many steps as there are transactions, in this
    repository and in any other where it is the same. -/
theorem Counted.both_end (counted : Counted repo account) (counted' : Counted repo' account)
    (same : ∀ id, getTransaction account id repo = getTransaction account id repo')
    (onward : Transaction → Option TransactionId) (head : TransactionId) :
    (walk (readBack repo account onward) (transactionCount repo + 1) head = none ∧
      walk (readBack repo account onward) (transactionCount repo' + 1) head = none) ∨
    (walk (readBack repo account onward) (transactionCount repo + 1) head ≠ none ∧
      walk (readBack repo account onward) (transactionCount repo' + 1) head ≠ none) := by
  have circles : Circles (readBack repo account onward) head ↔ _ := counted.circles_iff
  have circles' : Circles (readBack repo' account onward) head ↔ _ := counted'.circles_iff
  rw [← readBack_congr same] at circles'
  by_cases around : Circles (readBack repo account onward) head
  · exact .inr ⟨circles.mp around, circles'.mp around⟩
  · exact .inl ⟨not_not.mp (mt circles.mpr around), not_not.mp (mt circles'.mpr around)⟩

section Chains

theorem forChain_congr (same : ∀ id, getTransaction account id repo = getTransaction account id repo')
    (pass : β → Transaction → Outcome ErrorKind (ForInStep β)) (fuel : Nat) (head : TransactionId) (acc : β) :
    forChain repo pass fuel ⟨account, head⟩ acc = forChain repo' pass fuel ⟨account, head⟩ acc := by
  induction fuel generalizing head acc with
  | zero => rfl
  | succ fuel ih =>
    unfold forChain TransactionChain.next
    by_cases empty : head = []
    · simp [empty]
    · simp only [List.isEmpty_iff, empty, if_false, same head]
      cases getTransaction account head repo' with
      | ok tx =>
        simp only [Outcome.ok_bind]
        congr 1
        funext step
        cases step with
        | done _ => rfl
        | yield acc => exact ih tx.parent acc
      | err error => rfl
      | hang => rfl

theorem forChain_ended (judges : Judges pass onward) {fuel : Nat} {head : TransactionId} {acc : β} (more : Nat)
    (ended : walk (readBack repo account onward) fuel head = none) :
    forChain repo pass (fuel + more) ⟨account, head⟩ acc = forChain repo pass fuel ⟨account, head⟩ acc := by
  induction fuel generalizing head acc with
  | zero => cases ended
  | succ fuel ih =>
    rw [Nat.succ_add]
    unfold forChain TransactionChain.next
    by_cases empty : head = []
    · simp [empty]
    · simp only [walk, readBack, empty, if_false] at ended
      simp only [List.isEmpty_iff, empty, if_false]
      cases read : getTransaction account head repo with
      | err error => rfl
      | hang => rfl
      | ok tx =>
        simp only [read] at ended
        simp only [Outcome.ok_bind]
        cases going : onward tx with
        | none =>
          cases passed : pass acc tx with
          | err error => rfl
          | hang => rfl
          | ok step =>
            cases step with
            | done _ => rfl
            | yield acc' => exact absurd passed (judges.stops tx going acc acc')
        | some next =>
          rcases judges.passes tx (by simp [going]) with ⟨parent, yields⟩
          obtain rfl : next = tx.parent := Option.some.inj (going.symm.trans parent)
          rcases yields acc with ⟨acc', passed⟩
          rw [going, Option.bind_some] at ended
          simp only [passed, Outcome.ok_bind]
          exact ih ended

theorem forChain_circles (judges : Judges pass onward) {fuel : Nat} {head : TransactionId} {acc : β}
    (far : walk (readBack repo account onward) fuel head ≠ none) :
    forChain repo pass fuel ⟨account, head⟩ acc = .hang := by
  induction fuel generalizing head acc with
  | zero => rfl
  | succ fuel ih =>
    unfold forChain TransactionChain.next
    by_cases empty : head = []
    · simp [walk, readBack, empty] at far
    · simp only [walk, readBack, empty, if_false] at far
      simp only [List.isEmpty_iff, empty, if_false]
      cases read : getTransaction account head repo with
      | err error => simp [read] at far
      | hang => simp [read] at far
      | ok tx =>
        simp only [read] at far
        simp only [Outcome.ok_bind]
        cases going : onward tx with
        | none => simp [going] at far
        | some next =>
          rcases judges.passes tx (by simp [going]) with ⟨parent, yields⟩
          obtain rfl : next = tx.parent := Option.some.inj (going.symm.trans parent)
          rcases yields acc with ⟨acc', passed⟩
          rw [going, Option.bind_some] at far
          simp only [passed, Outcome.ok_bind]
          exact ih far

theorem each_agree (counted : Counted repo account) (counted' : Counted repo' account)
    (same : ∀ id, getTransaction account id repo = getTransaction account id repo') (judges : Judges pass onward)
    {record : Account} (owner : record.uuid = account) (acc : β) :
    eachTransaction repo record acc pass = eachTransaction repo' record acc pass := by
  subst owner
  unfold eachTransaction getTransactionChain
  rcases counted.both_end counted' same onward record.latestTransaction with
    ⟨ended, ended'⟩ | ⟨far, far'⟩
  · rw [← forChain_ended judges (transactionCount repo' + 1) ended,
      Nat.add_comm, forChain_ended judges (transactionCount repo + 1) ended']
    exact forChain_congr same pass _ _ acc
  · rw [forChain_circles judges far, readBack_congr same] at *
    rw [forChain_circles judges far']

end Chains

theorem collect_judges (stop : TransactionId) :
    Judges (collectUntil stop) fun tx => if tx.uuid = stop then none else some tx.parent := by
  constructor
  · intro tx goes_on
    by_cases at_stop : tx.uuid = stop
    · simp [at_stop] at goes_on
    · exact ⟨by simp [at_stop], fun acc => ⟨acc ++ [tx], by simp [collectUntil, at_stop]⟩⟩
  · intro tx stops acc acc'
    by_cases at_stop : tx.uuid = stop
    · simp [collectUntil, at_stop]
    · simp [at_stop] at stops

theorem getChild_agree (counted : Counted repo account) (counted' : Counted repo' account)
    (known : getAccount account repo = getAccount account repo')
    (owner : ∀ record, getAccount account repo = .ok record → record.uuid = account)
    (same : ∀ id, getTransaction account id repo = getTransaction account id repo') (base : TransactionId) :
    getChildTransactions account base repo = getChildTransactions account base repo' := by
  have collected : (do
      let record ← getAccount account repo
      let transactions ← eachTransaction repo record [] (collectUntil base)
      pure transactions.reverse : Outcome ErrorKind (List Transaction)) = (do
      let record ← getAccount account repo'
      let transactions ← eachTransaction repo' record [] (collectUntil base)
      pure transactions.reverse) := by
    rw [← known]
    cases found : getAccount account repo with
    | ok record =>
      simp only [Outcome.ok_bind, each_agree counted counted' same (collect_judges base) (owner record found)]
    | err error => rfl
    | hang => rfl
  unfold getChildTransactions
  rw [same base]
  split
  · cases getTransaction account base repo' with
    | ok tx => exact collected
    | err error => rfl
    | hang => rfl
  · exact collected

section Ancestors

/-- From a deleted transaction, the search goes on to what that one replaces. -/
def replaced (tx : Transaction) : Option TransactionId := if tx.deleted then some tx.replaces else none

variable {record : Account}

end Ancestors

end Loops

theorem Store.counted (store : Store) (account : AccountId) : Counted store account := by
  intro ids distinct each
  apply Store.length_le_count distinct
  intro id member missing
  rcases each id member with ⟨tx, read⟩
  rw [Store.getTransaction_none missing] at read
  cases read

end Flouze
