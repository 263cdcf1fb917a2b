import Flouze.Lib.Sums
import Flouze.Repository.Checked
import Flouze.Repository.Settlement
import Flouze.Repository.Termination

namespace Flouze

open Linked Repository

def checkedMul (a b : Int64) : Outcome Fault Int64 := checked (a.toInt * b.toInt)

/-- `update_balance` as a build with overflow checks runs it. -/
def tryUpdateBalance (balance : Balance) (payedBy : List PayedBy) (payedFor : List PayedFor) (factor : Int64) :
    Outcome Fault Balance := do
  let balance ← payedBy.foldlM
    (fun (balance : Balance) p => balance.tryModify p.person fun b => do
      let change ← checkedMul (signedAmount p.amount) factor
      checkedAdd b change) balance
  payedFor.foldlM
    (fun (balance : Balance) p => balance.tryModify p.person fun b => do
      let change ← checkedMul (signedAmount p.amount) factor
      checkedSub b change) balance

def goOn : Outcome Fault Balance → ForInStep (Outcome Fault Balance)
  | .ok balance => .yield (.ok balance)
  | fault => .done fault

section Code

variable {σ : Type} [Repository σ]

def balancePassChecked (repo : σ) (account : Account) (balance : Outcome Fault Balance) (tx : Transaction) :
    Outcome ErrorKind (ForInStep (Outcome Fault Balance)) :=
  if !tx.replaces.isEmpty || tx.deleted then
    match (do
      let balance ← balance
      if !tx.deleted then tryUpdateBalance balance tx.payedBy tx.payedFor 1 else pure balance) with
    | .ok balance => do
      let original ← getFirstNonDeletedAncestor repo account tx
      pure (goOn (tryUpdateBalance balance original.payedBy original.payedFor (-1)))
    | fault => pure (.done fault)
  else
    pure (goOn (do
      let balance ← balance
      tryUpdateBalance balance tx.payedBy tx.payedFor 1))

def getBalanceChecked (repo : σ) (account : Account) : Outcome ErrorKind (Outcome Fault Balance) :=
  eachTransaction repo account (.ok (initialBalance account.members)) (balancePassChecked repo account)

end Code

/-- What is paid is what is paid for, and only members pay and are paid for. -/
structure Transaction.Even (members : List Person) (tx : Transaction) : Prop where
  sums : (tx.payedBy.map fun p => p.amount.toNat).sum = (tx.payedFor.map fun p => p.amount.toNat).sum
  payers : ∀ p ∈ tx.payedBy, p.person ∈ members.map Person.uuid
  payees : ∀ p ∈ tx.payedFor, p.person ∈ members.map Person.uuid

def Applied (store : Store) (record : Account) (chain : List Transaction) (tx : Transaction) : Prop :=
  (tx ∈ chain ∧ tx.deleted = false) ∨
    ∃ cur ∈ chain, cur.Revises ∧ getFirstNonDeletedAncestor store record cur = .ok tx

def Transaction.entries (tx : Transaction) : Nat := tx.payedBy.length + tx.payedFor.length

def entriesFor (store : Store) (record : Account) (tx : Transaction) : Nat :=
  (if tx.deleted then 0 else tx.entries) +
    if tx.Revises then
      match getFirstNonDeletedAncestor store record tx with
      | .ok original => original.entries
      | _ => 0
    else 0

def entriesOf (store : Store) (record : Account) (chain : List Transaction) : Nat :=
  (chain.map (entriesFor store record)).sum

def WithinEntries (count : Nat) (amount : Int) : Prop :=
  -(count * (2 ^ 32 - 1)) ≤ amount ∧ amount ≤ count * (2 ^ 32 - 1)

def Balance.WithinEntries (balance : Balance) (count : Nat) : Prop :=
  ∀ person amount, balance.lookup person = some amount → Flouze.WithinEntries count amount.toInt

def Balance.Moved (balance : Balance) (sum : PersonId → Int) (balance' : Balance) : Prop :=
  ∀ person, (balance'.lookup person).map Int64.toInt = (balance.lookup person).map fun b => b.toInt + sum person

section Checks

theorem checked_ok {exact : Int} {result : Int64} (returns : checked exact = .ok result) : result.toInt = exact := by
  unfold checked at returns
  split at returns
  · next fits =>
    obtain rfl := Outcome.ok.inj returns
    exact fits
  · cases returns

theorem checked_small {exact : Int} {count : Nat} (few : count < 2 ^ 31) (within : WithinEntries count exact) :
    checked exact = .ok (Int64.ofInt exact) := by
  apply checked_run
  rcases within with ⟨lower, upper⟩
  rw [Int64.toInt_ofInt]
  exact Int.bmod_eq_of_le (by simp only [Int64.size]; omega) (by simp only [Int64.size]; omega)

theorem checked_next {amount change : Int} {count : Nat} (few : count < 2 ^ 31 - 1)
    (within : WithinEntries count amount) (entry : WithinEntries 1 change) :
    ∃ result, checked (amount + change) = .ok result ∧ WithinEntries (count + 1) result.toInt := by
  have next : WithinEntries (count + 1) (amount + change) := by
    rcases within with ⟨lower, upper⟩
    rcases entry with ⟨lower', upper'⟩
    refine ⟨?_, ?_⟩ <;> push_cast at lower' upper' ⊢ <;> omega
  have runs := checked_small (by omega) next
  refine ⟨_, runs, ?_⟩
  rw [checked_ok runs]
  exact next

theorem toInt_signedAmount (amount : UInt32) : (signedAmount amount).toInt = amount.toNat := by
  have bound := amount.toNat_lt
  rw [signedAmount, Int64.toInt_ofInt]
  exact Int.bmod_eq_of_le (by simp only [Int64.size]; omega) (by simp only [Int64.size]; omega)

end Checks

namespace Balance

variable {balance balance' balance'' : Balance} {sum sum' : PersonId → Int} {person : PersonId} {count : Nat}

theorem Moved.trans (first : balance.Moved sum balance') (second : balance'.Moved sum' balance'') :
    balance.Moved (fun person => sum person + sum' person) balance'' := by
  intro person
  have last := second person
  have middle := first person
  cases found : balance'.lookup person with
  | none =>
    rw [found, Option.map_none] at last middle
    rw [last, Option.map_eq_none_iff.mp middle.symm]
    rfl
  | some amount =>
    rw [found, Option.map_some] at last middle
    rcases Option.map_eq_some_iff.mp middle.symm with ⟨start, found', moved⟩
    rw [last, found', ← moved, Option.map_some, Int.add_assoc]

theorem Moved.congr (moved : balance.Moved sum balance') (same : ∀ person, sum person = sum' person) :
    balance.Moved sum' balance' := by
  obtain rfl : sum = sum' := funext same
  exact moved

theorem moved_tryModify {f : Int64 → Outcome Fault Int64} {delta : Int}
    (exact_ : ∀ b b', f b = .ok b' → b'.toInt = b.toInt + delta)
    (returns : balance.tryModify person f = .ok balance') :
    balance.Moved (fun other => if person = other then delta else 0) balance' := by
  unfold tryModify at returns
  intro other
  cases found : balance.lookup person with
  | none =>
    rw [found] at returns
    obtain rfl := Outcome.ok.inj returns
    by_cases same : person = other
    · subst same
      simp [found]
    · simp [same]
  | some amount =>
    rw [found] at returns
    rcases Outcome.bind_eq_ok.mp returns with ⟨amount', changed, rest⟩
    obtain rfl := Outcome.ok.inj rest
    by_cases same : person = other
    · subst same
      simp [found, exact_ amount amount' changed]
    · simp [same, Finmap.lookup_insert_of_ne _ (Ne.symm same)]

theorem moved_fold {α : Type} {key : α → PersonId} {change : α → Int64 → Outcome Fault Int64} {delta : α → Int}
    (exact_ : ∀ x b b', change x b = .ok b' → b'.toInt = b.toInt + delta x) {items : List α}
    (returns : items.foldlM (fun (balance : Balance) x => balance.tryModify (key x) (change x)) balance =
      .ok balance') :
    balance.Moved (fun person => ((items.filter fun x => key x = person).map delta).sum) balance' := by
  induction items generalizing balance with
  | nil =>
    obtain rfl := Outcome.ok.inj returns
    intro person
    simp
  | cons x items ih =>
    rw [List.foldlM_cons, Outcome.bind_eq_ok] at returns
    rcases returns with ⟨middle, first, rest⟩
    have moved := (moved_tryModify (exact_ x) first).trans (ih rest)
    intro person
    rw [moved person]
    by_cases same : key x = person
    · simp [same]
    · simp [same]

theorem within_tryModify {f : Int64 → Outcome Fault Int64} (within : balance.WithinEntries count)
    (runs : ∀ b : Int64, Flouze.WithinEntries count b.toInt →
      ∃ b', f b = .ok b' ∧ Flouze.WithinEntries (count + 1) b'.toInt) :
    ∃ balance', balance.tryModify person f = .ok balance' ∧ balance'.WithinEntries (count + 1) := by
  have wider : balance.WithinEntries (count + 1) := by
    intro other amount found
    rcases within other amount found with ⟨lower, upper⟩
    refine ⟨?_, ?_⟩ <;> push_cast <;> omega
  unfold tryModify
  cases found : balance.lookup person with
  | none => exact ⟨balance, rfl, wider⟩
  | some amount =>
    rcases runs amount (within person amount found) with ⟨amount', changed, bound⟩
    refine ⟨balance.insert person amount', by simp [changed], ?_⟩
    intro other
    by_cases same : other = person
    · subst same
      simp only [Finmap.lookup_insert, Option.some.injEq]
      intro _ same
      subst same
      exact bound
    · rw [Finmap.lookup_insert_of_ne _ same]
      exact wider other

theorem within_fold {α : Type} {key : α → PersonId} {change : α → Int64 → Outcome Fault Int64} {limit : Nat}
    (runs : ∀ x (b : Int64) count, count < limit → Flouze.WithinEntries count b.toInt →
      ∃ b', change x b = .ok b' ∧ Flouze.WithinEntries (count + 1) b'.toInt)
    (items : List α) (few : count + items.length ≤ limit) (within : balance.WithinEntries count) :
    ∃ balance', items.foldlM (fun (balance : Balance) x => balance.tryModify (key x) (change x)) balance =
      .ok balance' ∧ balance'.WithinEntries (count + items.length) := by
  induction items generalizing balance count with
  | nil => exact ⟨balance, rfl, within⟩
  | cons x items ih =>
    rw [List.length_cons] at few
    obtain ⟨middle, first, within'⟩ : ∃ middle, balance.tryModify (key x) (change x) = .ok middle ∧
        middle.WithinEntries (count + 1) := within_tryModify within fun b bound => runs x b count (by omega) bound
    rcases ih (by omega) within' with ⟨last, rest, bound⟩
    refine ⟨last, by rw [List.foldlM_cons, first, Outcome.ok_bind, rest], ?_⟩
    rw [List.length_cons, ← Nat.add_assoc, Nat.add_right_comm]
    exact bound

end Balance

section Update

variable {balance balance' : Balance} {tx : Transaction} {factor : Int64} {count : Nat}

theorem tryUpdate_moved (returns : tryUpdateBalance balance tx.payedBy tx.payedFor factor = .ok balance') :
    balance.Moved (fun person => tx.share person * factor.toInt) balance' := by
  rcases Outcome.bind_eq_ok.mp returns with ⟨middle, payed, received⟩
  have added : ∀ (p : PayedBy) b b', (do
      let change ← checkedMul (signedAmount p.amount) factor
      checkedAdd b change) = .ok b' → b'.toInt = b.toInt + p.amount.toNat * factor.toInt := by
    intro p b b' run
    rcases Outcome.bind_eq_ok.mp run with ⟨change, product, sum⟩
    rw [checked_ok sum, checked_ok product, toInt_signedAmount]
  have taken : ∀ (p : PayedFor) b b', (do
      let change ← checkedMul (signedAmount p.amount) factor
      checkedSub b change) = .ok b' → b'.toInt = b.toInt + p.amount.toNat * -factor.toInt := by
    intro p b b' run
    rcases Outcome.bind_eq_ok.mp run with ⟨change, product, sum⟩
    rw [checked_ok sum, checked_ok product, toInt_signedAmount, Int.mul_neg]
    rfl
  intro person
  rw [((Balance.moved_fold added payed).trans (Balance.moved_fold taken received)) person]
  have exact_sum : tx.share person * factor.toInt =
      ((tx.payedBy.filter fun p => p.person = person).map fun p => (p.amount.toNat : Int) * factor.toInt).sum +
        ((tx.payedFor.filter fun p => p.person = person).map fun p =>
          (p.amount.toNat : Int) * -factor.toInt).sum := by
    rw [Transaction.share, List.sum_map_mul_right, List.sum_map_mul_right]
    ring
  simp only [exact_sum]

theorem tryUpdate_within (unit : factor = 1 ∨ factor = -1) (few : count + tx.entries < 2 ^ 31)
    (within : balance.WithinEntries count) :
    ∃ balance', tryUpdateBalance balance tx.payedBy tx.payedFor factor = .ok balance' ∧
      balance'.WithinEntries (count + tx.entries) := by
  have sign : factor.toInt = 1 ∨ factor.toInt = -1 := by
    rcases unit with rfl | rfl
    · exact .inl rfl
    · exact .inr rfl
  have entry : ∀ amount : UInt32, WithinEntries 1 (amount.toNat * factor.toInt) ∧
      WithinEntries 1 (-(amount.toNat * factor.toInt)) := by
    intro amount
    have bound := amount.toNat_lt
    unfold WithinEntries
    rcases sign with same | same
    · rw [same]
      omega
    · rw [same]
      omega
  have product : ∀ amount : UInt32, ∃ change, checkedMul (signedAmount amount) factor = .ok change ∧
      change.toInt = amount.toNat * factor.toInt := by
    intro amount
    have fits := checked_small (by norm_num) (entry amount).1
    exact ⟨_, by rw [checkedMul, toInt_signedAmount, fits], checked_ok fits⟩
  have added : ∀ (p : PayedBy) (b : Int64) n, n < 2 ^ 31 - 1 → WithinEntries n b.toInt →
      ∃ b' : Int64, (do
        let change ← checkedMul (signedAmount p.amount) factor
        checkedAdd b change) = .ok b' ∧ WithinEntries (n + 1) b'.toInt := by
    intro p b n fewer within
    rcases product p.amount with ⟨change, run, moved⟩
    rw [run, Outcome.ok_bind, checkedAdd, moved]
    exact checked_next fewer within (entry p.amount).1
  have taken : ∀ (p : PayedFor) (b : Int64) n, n < 2 ^ 31 - 1 → WithinEntries n b.toInt →
      ∃ b' : Int64, (do
        let change ← checkedMul (signedAmount p.amount) factor
        checkedSub b change) = .ok b' ∧ WithinEntries (n + 1) b'.toInt := by
    intro p b n fewer within
    rcases product p.amount with ⟨change, run, moved⟩
    rw [run, Outcome.ok_bind, checkedSub, moved, Int.sub_eq_add_neg]
    exact checked_next fewer within (entry p.amount).2
  rw [Transaction.entries] at few ⊢
  rcases Balance.within_fold added tx.payedBy (by omega) within with ⟨middle, payed, within'⟩
  obtain ⟨last, received, bound⟩ :=
    Balance.within_fold taken tx.payedFor (by omega) within'
  refine ⟨last, ?_, by rw [← Nat.add_assoc]; exact bound⟩
  rw [tryUpdateBalance, payed, Outcome.ok_bind, received]

end Update

section Loop

variable {store : Store} {record : Account} {tx : Transaction} {chain items : List Transaction}
variable {balance balance' : Balance} {count : Nat}

theorem entriesFor_plain (plain : ¬ tx.Revises) : entriesFor store record tx = tx.entries := by
  have kept : ¬ tx.deleted = true := fun deleted => plain (.inr deleted)
  simp [entriesFor, plain, kept]

theorem entriesFor_revising (revises : tx.Revises) {original : Transaction}
    (found : getFirstNonDeletedAncestor store record tx = .ok original) :
    entriesFor store record tx = (if tx.deleted then 0 else tx.entries) + original.entries := by
  simp only [entriesFor, if_pos revises, found]

theorem passChecked_ok {step : ForInStep (Outcome Fault Balance)}
    (passed : balancePassChecked store record (.ok balance) tx = .ok step) :
    (∃ fault, step = .done fault ∧ ∀ balance', fault ≠ .ok balance') ∨
      ∃ balance', step = .yield (.ok balance') ∧ Resolved store record tx ∧
        balance.Moved (fun person => effect store record person tx) balance' := by
  have gone : ∀ update : Outcome Fault Balance, (∃ fault, goOn update = .done fault ∧ ∀ balance', fault ≠ .ok balance') ∨
      ∃ balance', update = .ok balance' ∧ goOn update = .yield (.ok balance') := by
    intro update
    cases update with
    | ok balance' => exact .inr ⟨balance', rfl, rfl⟩
    | err fault => exact .inl ⟨_, rfl, by simp⟩
    | hang => exact .inl ⟨_, rfl, by simp⟩
  have minus : (-1 : Int64).toInt = -1 := rfl
  have one : (1 : Int64).toInt = 1 := rfl
  unfold balancePassChecked at passed
  by_cases revises : tx.Revises
  · have branch : (!tx.replaces.isEmpty || tx.deleted) = true := by simpa [Transaction.Revises] using revises
    rw [if_pos branch, Outcome.ok_bind] at passed
    split at passed
    · next middle first =>
      rcases Outcome.bind_eq_ok.mp passed with ⟨original, found, rest⟩
      have here : balance.Moved (fun person => if tx.deleted then 0 else tx.share person) middle := by
        cases deleted : tx.deleted with
        | true =>
          simp only [deleted, Bool.not_true, Bool.false_eq_true, if_false] at first
          obtain rfl := Outcome.ok.inj first
          intro person
          simp
        | false =>
          simp only [deleted, Bool.not_false, if_true] at first
          simpa [one] using tryUpdate_moved first
      rcases gone (tryUpdateBalance middle original.payedBy original.payedFor (-1)) with
        ⟨fault, stops, fails⟩ | ⟨balance', updated, goes⟩
      · exact .inl ⟨fault, (Outcome.ok.inj rest).symm.trans stops, fails⟩
      · refine .inr ⟨balance', (Outcome.ok.inj rest).symm.trans goes, fun _ => ⟨original, found⟩, ?_⟩
        apply (here.trans (tryUpdate_moved updated)).congr
        intro person
        rw [effect_revising revises found, minus, Int.mul_neg_one, Int.sub_eq_add_neg]
    · next stuck =>
      refine .inl ⟨_, (Outcome.ok.inj passed).symm, ?_⟩
      exact fun balance' same => stuck balance' same
  · have branch : ¬ (!tx.replaces.isEmpty || tx.deleted) = true := by simpa [Transaction.Revises] using revises
    rw [if_neg branch, Outcome.ok_bind] at passed
    rcases gone (tryUpdateBalance balance tx.payedBy tx.payedFor 1) with ⟨fault, stops, fails⟩ | ⟨balance', updated, goes⟩
    · exact .inl ⟨fault, (Outcome.ok.inj passed).symm.trans stops, fails⟩
    · refine .inr ⟨balance', (Outcome.ok.inj passed).symm.trans goes, fun again => absurd again revises, ?_⟩
      apply (tryUpdate_moved updated).congr
      intro person
      rw [effect_plain revises, one, Int.mul_one]

theorem forEachChecked_ok
    (returns : forEach (balancePassChecked store record) items (.ok balance) = .ok (.ok balance')) :
    (∀ tx ∈ items, Resolved store record tx) ∧ balance.Moved (net store record items) balance' := by
  induction items generalizing balance with
  | nil =>
    obtain rfl := Outcome.ok.inj (Outcome.ok.inj returns)
    refine ⟨by simp, fun person => ?_⟩
    simp [net]
  | cons tx items ih =>
    rw [forEach, Outcome.bind_eq_ok] at returns
    rcases returns with ⟨step, passed, rest⟩
    rcases passChecked_ok passed with ⟨fault, rfl, fails⟩ | ⟨middle, rfl, resolved, moved⟩
    · exact absurd (Outcome.ok.inj rest) (fails balance')
    · rcases ih rest with ⟨others, further⟩
      refine ⟨by simpa using ⟨resolved, others⟩, ?_⟩
      apply (moved.trans further).congr
      intro person
      rw [net, net, List.map_cons, List.sum_cons]

theorem passChecked_within (resolved : Resolved store record tx) (few : count + entriesFor store record tx < 2 ^ 31)
    (within : balance.WithinEntries count) :
    ∃ balance', balancePassChecked store record (.ok balance) tx = .ok (.yield (.ok balance')) ∧
      balance'.WithinEntries (count + entriesFor store record tx) := by
  by_cases revises : tx.Revises
  · have branch : (!tx.replaces.isEmpty || tx.deleted) = true := by simpa [Transaction.Revises] using revises
    rcases resolved revises with ⟨original, found⟩
    rw [entriesFor_revising revises found] at few ⊢
    have first : ∃ middle, (if !tx.deleted then tryUpdateBalance balance tx.payedBy tx.payedFor 1 else pure balance) =
        .ok middle ∧ middle.WithinEntries (count + if tx.deleted then 0 else tx.entries) := by
      cases deleted : tx.deleted with
      | true => exact ⟨balance, rfl, within⟩
      | false =>
        rw [deleted] at few
        exact tryUpdate_within (.inl rfl) (by simp at few; omega) within
    rcases first with ⟨middle, updated, within'⟩
    obtain ⟨last, updated', within''⟩ : ∃ last,
        tryUpdateBalance middle original.payedBy original.payedFor (-1) = .ok last ∧
          last.WithinEntries (count + (if tx.deleted then 0 else tx.entries) + original.entries) :=
      tryUpdate_within (.inr rfl) (by omega) within'
    refine ⟨last, ?_, by rw [← Nat.add_assoc]; exact within''⟩
    unfold balancePassChecked
    rw [if_pos branch, Outcome.ok_bind, updated]
    simp only [found, Outcome.ok_bind, updated']
    rfl
  · have branch : ¬ (!tx.replaces.isEmpty || tx.deleted) = true := by simpa [Transaction.Revises] using revises
    rw [entriesFor_plain revises] at few ⊢
    obtain ⟨last, updated, within'⟩ : ∃ last, tryUpdateBalance balance tx.payedBy tx.payedFor 1 = .ok last ∧
        last.WithinEntries (count + tx.entries) := tryUpdate_within (.inl rfl) few within
    refine ⟨last, ?_, within'⟩
    unfold balancePassChecked
    rw [if_neg branch, Outcome.ok_bind, updated]
    rfl

theorem forEachChecked_within (resolved : ∀ tx ∈ items, Resolved store record tx)
    (few : count + entriesOf store record items < 2 ^ 31) (within : balance.WithinEntries count) :
    ∃ balance', forEach (balancePassChecked store record) items (.ok balance) = .ok (.ok balance') := by
  induction items generalizing balance count with
  | nil => exact ⟨balance, rfl⟩
  | cons tx items ih =>
    rw [entriesOf, List.map_cons, List.sum_cons, ← Nat.add_assoc] at few
    rcases passChecked_within (resolved tx (by simp)) (by omega) within with ⟨middle, first, within'⟩
    rcases ih (fun other member => resolved other (by simp [member])) few within' with ⟨last, rest⟩
    exact ⟨last, by rw [forEach, first, Outcome.ok_bind]; exact rest⟩

end Loop

section Conserved

variable {store : Store} {record : Account} {tx : Transaction} {chain : List Transaction}
variable {balance : Balance} {members : List Person}

theorem share_even (even : tx.Even members) : ∑ person ∈ persons members, tx.share person = 0 := by
  have payed := Sums.sum_by_key (PayedBy.person) (fun p => (p.amount.toNat : Int))
    fun p member => show p.person ∈ persons members from List.mem_toFinset.mpr (even.payers p member)
  have received := Sums.sum_by_key (PayedFor.person) (fun p => (p.amount.toNat : Int))
    fun p member => show p.person ∈ persons members from List.mem_toFinset.mpr (even.payees p member)
  have sums : (tx.payedBy.map fun p => (p.amount.toNat : Int)).sum =
      (tx.payedFor.map fun p => (p.amount.toNat : Int)).sum := by
    have cast := congrArg (Nat.cast : Nat → Int) even.sums
    simpa [Nat.cast_list_sum, Function.comp_def] using cast
  simp only [Transaction.share, Finset.sum_sub_distrib]
  rw [payed, received, sums, Int.sub_self]

theorem effect_even (even : ∀ tx, Applied store record chain tx → tx.Even record.members) (member : tx ∈ chain) :
    ∑ person ∈ persons record.members, effect store record person tx = 0 := by
  have own : ∑ person ∈ persons record.members, (if tx.deleted then 0 else tx.share person) = 0 := by
    cases deleted : tx.deleted with
    | true => simp
    | false => simpa using share_even (even tx (.inl ⟨member, deleted⟩))
  unfold effect
  rw [Finset.sum_sub_distrib, own, zero_sub, neg_eq_zero]
  split
  · next revises =>
    cases ancestor : getFirstNonDeletedAncestor store record tx with
    | ok original => exact share_even (even original (.inr ⟨tx, member, revises, ancestor⟩))
    | err error => simp
    | hang => simp
  · simp

theorem net_even (even : ∀ tx, Applied store record chain tx → tx.Even record.members) :
    ∑ person ∈ persons record.members, net store record chain person = 0 := by
  have parts : ∀ items : List Transaction, (∀ tx ∈ items, tx ∈ chain) →
      ∑ person ∈ persons record.members, net store record items person = 0 := by
    intro items within
    induction items with
    | nil => simp [net]
    | cons tx items ih =>
      have first := effect_even even (within tx (by simp))
      have rest := ih fun other member => within other (by simp [member])
      simp only [net, List.map_cons, List.sum_cons, Finset.sum_add_distrib] at rest ⊢
      rw [first, rest]
      rfl
  exact parts chain fun _ member => member

theorem total_entries {entries : List (Σ _ : PersonId, Int64)}
    (all : (entries : Multiset (Σ _ : PersonId, Int64)) = balance.entries) :
    balance.total = (entries.map fun entry => entry.2.toInt).sum := by
  have each : ∀ entry ∈ entries, ((balance.lookup entry.1).getD 0).toInt = entry.2.toInt := by
    intro entry member
    have present : (⟨entry.1, entry.2⟩ : Σ _ : PersonId, Int64) ∈ balance.entries := by
      rw [← all]
      exact member
    have found : balance.lookup entry.1 = some entry.2 := Finmap.mem_lookup_iff.mpr present
    rw [found, Option.getD_some]
  have keys : balance.keys.val = ((entries.map Sigma.fst : List PersonId) : Multiset PersonId) := by
    rw [← Multiset.map_coe, all]
    rfl
  calc
    balance.total = (balance.keys.val.map fun person => ((balance.lookup person).getD 0).toInt).sum := rfl
    _ = (entries.map fun entry => ((balance.lookup entry.1).getD 0).toInt).sum := by
      rw [keys, Multiset.map_coe, Multiset.sum_coe, List.map_map]
      rfl
    _ = (entries.map fun entry => entry.2.toInt).sum := by
      rw [List.map_congr_left each]

theorem foldl_amounts (entries : List (Σ _ : PersonId, Int64)) (start : Int64) :
    entries.foldl (fun sum entry => sum + entry.2) start =
      start + Int64.ofInt (entries.map fun entry => entry.2.toInt).sum := by
  induction entries generalizing start with
  | nil => simp [show Int64.ofInt 0 = 0 from rfl]
  | cons entry entries ih =>
    rw [List.foldl_cons, ih, List.map_cons, List.sum_cons, Int64.ofInt_add, Int64.ofInt_toInt, Int64.add_assoc]

theorem total_wrapped {sum : PersonId → Int} (sums : Sums members sum balance) :
    (2 : Int) ^ 64 ∣ balance.total - ∑ person ∈ persons members, sum person := by
  rw [total_of_sums sums, persons, ← Finset.sum_sub_distrib]
  apply Finset.dvd_sum
  intro person _
  rw [Int64.toInt_ofInt]
  exact Int.dvd_bmod_sub_self

theorem keys_of_sums {sum : PersonId → Int} (sums : Sums members sum balance) (person : PersonId) :
    person ∈ balance.keys ↔ person ∈ members.map Person.uuid := by
  rw [Balance.mem_keys_iff, sums]
  split
  · next member => simp [member]
  · next absent => simp [absent]

theorem moved_initial {sum : PersonId → Int} (moved : (initialBalance members).Moved sum balance) :
    Sums members sum balance ∧ ∀ person amount, balance.lookup person = some amount → amount.toInt = sum person := by
  have each : ∀ person amount, balance.lookup person = some amount → amount.toInt = sum person := by
    intro person amount found
    have here := moved person
    rw [found, lookup_initialBalance] at here
    split at here
    · simpa using here
    · cases here
  refine ⟨fun person => ?_, each⟩
  have here := moved person
  rw [lookup_initialBalance] at here
  cases found : balance.lookup person with
  | none =>
    rw [found] at here
    split at here
    · cases here
    · next absent => rw [if_neg absent]
  | some amount =>
    rw [found] at here
    split at here
    · next member => rw [if_pos member, ← each person amount found, Int64.ofInt_toInt]
    · cases here

theorem getBalanceChecked_ok (read : store.ChainAt record.uuid record.latestTransaction chain)
    (returns : getBalanceChecked store record = .ok (.ok balance)) :
    getBalance store record = .ok balance ∧
      ∀ person amount, balance.lookup person = some amount → amount.toInt = net store record chain person := by
  unfold getBalanceChecked at returns
  rw [eachTransaction_eq read] at returns
  rcases forEachChecked_ok returns with ⟨resolved, moved⟩
  have same : ∀ person, net store record chain.reverse person = net store record chain person := by
    intro person
    rw [net, List.map_reverse, List.sum_reverse]
    rfl
  rcases moved_initial (moved.congr same) with ⟨sums, each⟩
  rcases getBalance_run read fun tx member => resolved tx (List.mem_reverse.mpr member) with ⟨balance', returns', sums'⟩
  have equal : balance' = balance := Finmap.ext_lookup fun person => (sums' person).trans (sums person).symm
  exact ⟨equal ▸ returns', each⟩

theorem getBalanceChecked_run (read : store.ChainAt record.uuid record.latestTransaction chain)
    (returns : getBalance store record = .ok balance) (few : entriesOf store record chain < 2 ^ 31) :
    getBalanceChecked store record = .ok (.ok balance) := by
  rcases getBalance_ok returns with ⟨chain', read', resolved, _⟩
  obtain rfl := Chained.unique read read'
  have count : entriesOf store record chain.reverse = entriesOf store record chain := by
    rw [entriesOf, List.map_reverse, List.sum_reverse]
    rfl
  have start : (initialBalance record.members).WithinEntries 0 := by
    intro person amount found
    rw [lookup_initialBalance] at found
    split at found
    · obtain rfl := Option.some.inj found
      simp [WithinEntries]
    · cases found
  obtain ⟨checked, run⟩ := forEachChecked_within
    (fun tx (member : tx ∈ chain.reverse) => resolved tx (List.mem_reverse.mp member)) (by omega) start
  have returns' : getBalanceChecked store record = .ok (.ok checked) := (eachTransaction_eq read _ _).trans run
  rcases getBalanceChecked_ok read returns' with ⟨same, _⟩
  obtain rfl := Outcome.ok.inj (returns.symm.trans same)
  exact returns'

theorem total_exact (even : ∀ tx, Applied store record chain tx → tx.Even record.members)
    (sums : Sums record.members (net store record chain) balance)
    (each : ∀ person amount, balance.lookup person = some amount → amount.toInt = net store record chain person) :
    balance.total = 0 := by
  rw [← net_even even, total_of_sums sums]
  apply Finset.sum_congr rfl
  intro person member
  have found := sums person
  rw [if_pos (List.mem_toFinset.mp member)] at found
  exact each person _ found

/-- The members are owed in total what they owe. -/
theorem balance_conserved (read : store.ChainAt record.uuid record.latestTransaction chain)
    (even : ∀ tx, Applied store record chain tx → tx.Even record.members)
    (returns : getBalance store record = .ok balance) :
    (∀ person, person ∈ balance.keys ↔ person ∈ record.members.map Person.uuid) ∧
    (∀ entries : List (Σ _ : PersonId, Int64), (entries : Multiset (Σ _ : PersonId, Int64)) = balance.entries →
      entries.foldl (fun sum entry => sum + entry.2) 0 = 0) ∧
    (∀ checked, getBalanceChecked store record = .ok (.ok checked) → checked = balance ∧ balance.total = 0) ∧
    (entriesOf store record chain < 2 ^ 31 →
      getBalanceChecked store record = .ok (.ok balance) ∧ balance.total = 0 ∧
      ∀ person amount, balance.lookup person = some amount → amount.toInt = net store record chain person) := by
  rcases getBalance_ok returns with ⟨chain', read', _, sums⟩
  obtain rfl := Chained.unique read read'
  have exactly : getBalanceChecked store record = .ok (.ok balance) → balance.total = 0 :=
    fun checks => total_exact even sums (getBalanceChecked_ok read checks).2
  refine ⟨keys_of_sums sums, ?_, ?_, ?_⟩
  · intro entries all
    have wrapped := total_wrapped sums
    rw [net_even even, Int.sub_zero, total_entries all] at wrapped
    rw [foldl_amounts, Int64.zero_add, ← Int64.toInt_inj, Int64.toInt_ofInt]
    exact Int.bmod_eq_zero_of_dvd wrapped
  · intro checked checks
    obtain rfl := Outcome.ok.inj (returns.symm.trans (getBalanceChecked_ok read checks).1)
    exact ⟨rfl, exactly checks⟩
  · intro few
    have checks := getBalanceChecked_run read returns few
    exact ⟨checks, exactly checks, (getBalanceChecked_ok read checks).2⟩

theorem balance_conserved_lunch :
    let store := Store.holding (sharing [lunch]) [lunch]
    ∃ balance, getBalance store (sharing [lunch]) = .ok balance ∧ balance.total = 0 ∧
      getBalanceChecked store (sharing [lunch]) = .ok (.ok balance) := by
  intro store
  have read : store.ChainAt [7] [0] [lunch] := Store.holding_read (by decide) (by decide) (by decide)
  have even : ∀ tx, Applied store (sharing [lunch]) [lunch] tx → tx.Even (sharing [lunch]).members := by
    intro tx given
    rcases given with ⟨member, _⟩ | ⟨cur, member, revises, _⟩
    · obtain rfl := List.mem_singleton.mp member
      exact ⟨by decide, by decide, by decide⟩
    · obtain rfl := List.mem_singleton.mp member
      exact absurd revises (by decide)
  have few : entriesOf store (sharing [lunch]) [lunch] < 2 ^ 31 := by decide
  rcases (balance_conserved read even rfl).2.2.2 few with ⟨checks, zero, _⟩
  exact ⟨_, rfl, zero, checks⟩

end Conserved

end Flouze
