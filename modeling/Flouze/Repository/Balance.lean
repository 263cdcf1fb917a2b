import Mathlib.Algebra.BigOperators.Group.List.Basic
import Mathlib.Algebra.BigOperators.Ring.List
import Mathlib.Tactic.Ring
import Flouze.Repository.Chain

namespace Flouze

open Linked Repository

abbrev Balance := Finmap fun _ : PersonId => Int64

/-- `i64::from` on an amount. Sums of amounts wrap around. -/
def signedAmount (amount : UInt32) : Int64 := Int64.ofInt amount.toNat

/-- `if let Some(b) = balance.get_mut(person) { *b = f(*b) }` -/
def Balance.modify (balance : Balance) (person : PersonId) (f : Int64 → Int64) : Balance :=
  match balance.lookup person with
  | some amount => balance.insert person (f amount)
  | none => balance

def updateBalance (balance : Balance) (payedBy : List PayedBy) (payedFor : List PayedFor) (factor : Int64) :
    Balance :=
  let balance := payedBy.foldl
    (fun balance p => balance.modify p.person fun b => b + signedAmount p.amount * factor) balance
  payedFor.foldl
    (fun balance p => balance.modify p.person fun b => b - signedAmount p.amount * factor) balance

section Code

variable {σ : Type} [Repository σ]

def firstNonDeletedFrom (repo : σ) (account : Account) : Nat → Transaction → Outcome ErrorKind Transaction
  | 0, _ => .hang
  | fuel + 1, cur =>
    if cur.replaces.isEmpty then .err (.noSuchTransaction cur.replaces)
    else do
      let cur ← getTransaction account.uuid cur.replaces repo
      if !cur.deleted then pure cur else firstNonDeletedFrom repo account fuel cur

def getFirstNonDeletedAncestor (repo : σ) (account : Account) (deleted : Transaction) :
    Outcome ErrorKind Transaction :=
  firstNonDeletedFrom repo account (transactionCount repo + 1) deleted

def initialBalance (members : List Person) : Balance :=
  members.foldl (fun balance m => balance.insert m.uuid 0) ∅

def balancePass (repo : σ) (account : Account) (balance : Balance) (tx : Transaction) :
    Outcome ErrorKind (ForInStep Balance) :=
  if !tx.replaces.isEmpty || tx.deleted then do
    let balance := if !tx.deleted then updateBalance balance tx.payedBy tx.payedFor 1 else balance
    let original ← getFirstNonDeletedAncestor repo account tx
    pure (.yield (updateBalance balance original.payedBy original.payedFor (-1)))
  else
    pure (.yield (updateBalance balance tx.payedBy tx.payedFor 1))

def getBalance (repo : σ) (account : Account) : Outcome ErrorKind Balance :=
  eachTransaction repo account (initialBalance account.members) (balancePass repo account)

end Code

theorem wrapped_eq_iff (sum excess : Int) :
    (Int64.ofInt (sum - excess)).toInt = sum ↔
      (-2 ^ 63 ≤ sum ∧ sum < 2 ^ 63) ∧ (2 : Int) ^ 64 ∣ excess := by
  rw [Int64.toInt_ofInt, Int.bmod_eq_iff (by decide)]
  norm_num [Int64.size]
  omega

/-- What a person paid minus what was paid for them, in exact arithmetic. -/
def Transaction.share (tx : Transaction) (person : PersonId) : Int :=
  ((tx.payedBy.filter fun p => p.person = person).map fun p => (p.amount.toNat : Int)).sum -
    ((tx.payedFor.filter fun p => p.person = person).map fun p => (p.amount.toNat : Int)).sum

namespace Balance

theorem lookup_modify (balance : Balance) (person other : PersonId) (f : Int64 → Int64) :
    (balance.modify person f).lookup other =
      if other = person then (balance.lookup other).map f else balance.lookup other := by
  unfold modify
  by_cases same : other = person
  · subst same
    cases found : balance.lookup other <;> simp [found]
  · cases found : balance.lookup person with
    | none => simp [same]
    | some amount => simp [same, Finmap.lookup_insert_of_ne _ same]

theorem lookup_foldl_modify {α : Type} (person : α → PersonId) (delta : α → Int) (items : List α)
    (balance : Balance) (other : PersonId) :
    (items.foldl (fun balance x => balance.modify (person x) fun b => b + Int64.ofInt (delta x))
      balance).lookup other =
      (balance.lookup other).map fun b =>
        b + Int64.ofInt ((items.filter fun x => person x = other).map delta).sum := by
  induction items generalizing balance with
  | nil =>
    have zero : Int64.ofInt 0 = 0 := rfl
    simp [zero]
  | cons x items ih =>
    simp only [List.foldl_cons]
    rw [ih, lookup_modify]
    by_cases same : person x = other
    · subst same
      simp [Function.comp_def, Int64.add_assoc]
    · have differ : ¬ other = person x := fun equal => same equal.symm
      simp [same, differ]

end Balance

theorem updateBalance_eq (balance : Balance) (payedBy : List PayedBy) (payedFor : List PayedFor) (factor : Int) :
    updateBalance balance payedBy payedFor (Int64.ofInt factor) =
      payedFor.foldl (fun balance p => balance.modify p.person fun b =>
          b + Int64.ofInt (p.amount.toNat * -factor))
        (payedBy.foldl (fun balance p => balance.modify p.person fun b =>
          b + Int64.ofInt (p.amount.toNat * factor)) balance) := by
  have added : ∀ (b : Int64) (amount : UInt32),
      b + signedAmount amount * Int64.ofInt factor = b + Int64.ofInt (amount.toNat * factor) := by
    intro b amount
    rw [signedAmount, Int64.ofInt_mul]
  have taken : ∀ (b : Int64) (amount : UInt32),
      b - signedAmount amount * Int64.ofInt factor = b + Int64.ofInt (amount.toNat * -factor) := by
    intro b amount
    rw [signedAmount, Int64.sub_eq_add_neg, Int.mul_neg, ← Int64.neg_ofInt, Int64.ofInt_mul]
  simp only [updateBalance, added, taken]

theorem lookup_updateBalance (balance : Balance) (tx : Transaction) (factor : Int) (person : PersonId) :
    (updateBalance balance tx.payedBy tx.payedFor (Int64.ofInt factor)).lookup person =
      (balance.lookup person).map fun b => b + Int64.ofInt (tx.share person * factor) := by
  rw [updateBalance_eq, Balance.lookup_foldl_modify, Balance.lookup_foldl_modify, Option.map_map]
  congr 1
  funext b
  have exact_sum : tx.share person * factor =
      ((tx.payedBy.filter fun p => p.person = person).map fun p => (p.amount.toNat : Int) * factor).sum +
        ((tx.payedFor.filter fun p => p.person = person).map fun p => (p.amount.toNat : Int) * -factor).sum := by
    rw [Transaction.share, List.sum_map_mul_right, List.sum_map_mul_right]
    ring
  rw [exact_sum, Int64.ofInt_add, ← Int64.add_assoc]
  rfl

theorem lookup_initialBalance (members : List Person) (person : PersonId) :
    (initialBalance members).lookup person =
      if person ∈ members.map Person.uuid then some 0 else none := by
  have general : ∀ balance : Balance,
      (members.foldl (fun balance m => balance.insert m.uuid 0) balance).lookup person =
        if person ∈ members.map Person.uuid then some 0 else balance.lookup person := by
    induction members with
    | nil => simp
    | cons m members ih =>
      intro balance
      simp only [List.foldl_cons, ih, List.map_cons, List.mem_cons]
      by_cases same : person = m.uuid
      · subst same
        simp
      · simp [same, Finmap.lookup_insert_of_ne _ same]
  exact general ∅

section Run

variable (store : Store) (record : Account)

/-- A transaction that replaces another, or is deleted, leads back to one that is not deleted. -/
def Resolved (tx : Transaction) : Prop :=
  tx.replaces ≠ [] ∨ tx.deleted = true → ∃ original, getFirstNonDeletedAncestor store record tx = .ok original

/-- What `get_balance` adds for one transaction of the chain, in exact arithmetic. -/
def effect (person : PersonId) (tx : Transaction) : Int :=
  (if tx.deleted then 0 else tx.share person) -
    if tx.replaces ≠ [] ∨ tx.deleted = true then
      match getFirstNonDeletedAncestor store record tx with
      | .ok original => original.share person
      | _ => 0
    else 0

def net (chain : List Transaction) (person : PersonId) : Int := (chain.map (effect store record person)).sum

variable {store record} {tx : Transaction} {chain : List Transaction}

theorem effect_plain (plain : ¬ (tx.replaces ≠ [] ∨ tx.deleted = true)) (person : PersonId) :
    effect store record person tx = tx.share person := by
  have kept : ¬ tx.deleted = true := (not_or.mp plain).2
  rw [effect, if_neg plain, if_neg kept, Int.sub_zero]

theorem effect_revising (revises : tx.replaces ≠ [] ∨ tx.deleted = true) {original : Transaction}
    (found : getFirstNonDeletedAncestor store record tx = .ok original) (person : PersonId) :
    effect store record person tx =
      (if tx.deleted then 0 else tx.share person) - original.share person := by
  simp only [effect, if_pos revises, found]

theorem balancePass_run (resolved : Resolved store record tx) (balance : Balance) :
    ∃ balance', balancePass store record balance tx = .ok (.yield balance') ∧
      ∀ person, balance'.lookup person =
        (balance.lookup person).map fun b => b + Int64.ofInt (effect store record person tx) := by
  have plain : ∀ person, (updateBalance balance tx.payedBy tx.payedFor 1).lookup person =
      (balance.lookup person).map fun b => b + Int64.ofInt (tx.share person) := by
    intro person
    simpa using lookup_updateBalance balance tx 1 person
  by_cases revises : tx.replaces ≠ [] ∨ tx.deleted = true
  · rcases resolved revises with ⟨original, found⟩
    have branch : (!tx.replaces.isEmpty || tx.deleted) = true := by simpa using revises
    refine ⟨_, by simp only [balancePass, branch, if_true, found]; rfl, ?_⟩
    intro person
    have minus : (-1 : Int64) = Int64.ofInt (-1) := rfl
    rw [minus, lookup_updateBalance, effect_revising revises found]
    cases deleted : tx.deleted with
    | true =>
      simp only [Bool.not_true, Bool.false_eq_true, if_false, if_true]
      ring_nf
    | false =>
      simp only [Bool.not_false, if_true, Bool.false_eq_true, if_false, plain, Option.map_map,
        Function.comp_def, Int64.add_assoc, ← Int64.ofInt_add]
      ring_nf
  · have branch : (!tx.replaces.isEmpty || tx.deleted) = false := by simpa using revises
    refine ⟨_, by simp only [balancePass, branch, Bool.false_eq_true, if_false]; rfl, ?_⟩
    intro person
    rw [plain, effect_plain revises]

theorem balance_forEach {items : List Transaction} (resolved : ∀ tx ∈ items, Resolved store record tx)
    (balance : Balance) :
    ∃ balance', forEach (balancePass store record) items balance = .ok balance' ∧
      ∀ person, balance'.lookup person =
        (balance.lookup person).map fun b => b + Int64.ofInt (net store record items person) := by
  induction items generalizing balance with
  | nil =>
    have zero : Int64.ofInt 0 = 0 := rfl
    exact ⟨balance, rfl, by simp [net, zero]⟩
  | cons tx items ih =>
    rcases balancePass_run (resolved tx (by simp)) balance with ⟨middle, first, here⟩
    rcases ih (fun other member => resolved other (by simp [member])) middle with ⟨last, rest, later⟩
    refine ⟨last, by simp only [forEach, first, Outcome.ok_bind]; exact rest, ?_⟩
    intro person
    rw [later, here]
    simp [net, Function.comp_def, Int64.add_assoc]

theorem balancePass_resolved {balance : Balance} {step : ForInStep Balance}
    (passed : balancePass store record balance tx = .ok step) :
    Resolved store record tx ∧ ∃ balance', step = .yield balance' := by
  unfold balancePass at passed
  split at passed
  · simp only [Outcome.bind_eq_ok] at passed
    rcases passed with ⟨original, found, passed⟩
    exact ⟨fun _ => ⟨original, found⟩, _, (Outcome.ok.inj passed).symm⟩
  · next plain =>
    refine ⟨fun revises => absurd revises ?_, _, (Outcome.ok.inj passed).symm⟩
    simpa using plain

theorem resolved_of_forEach {items : List Transaction} {balance result : Balance}
    (returns : forEach (balancePass store record) items balance = .ok result) :
    ∀ tx ∈ items, Resolved store record tx := by
  induction items generalizing balance with
  | nil => simp
  | cons tx items ih =>
    simp only [forEach, Outcome.bind_eq_ok] at returns
    rcases returns with ⟨step, passed, returns⟩
    rcases balancePass_resolved passed with ⟨resolved, balance', rfl⟩
    intro other member
    rcases List.mem_cons.mp member with rfl | later
    · exact resolved
    · exact ih returns other later

/-- The amounts of a balance: the members are its keys, and each has its sum, wrapped around. -/
def Sums (members : List Person) (sum : PersonId → Int) (balance : Balance) : Prop :=
  ∀ person, balance.lookup person =
    if person ∈ members.map Person.uuid then some (Int64.ofInt (sum person)) else none

theorem getBalance_run (read : store.ChainAt record.uuid record.latestTransaction chain)
    (resolved : ∀ tx ∈ chain, Resolved store record tx) :
    ∃ balance, getBalance store record = .ok balance ∧
      Sums record.members (net store record chain) balance := by
  have backwards : ∀ tx ∈ chain.reverse, Resolved store record tx :=
    fun tx member => resolved tx (List.mem_reverse.mp member)
  rcases balance_forEach backwards (initialBalance record.members) with ⟨balance, returns, amounts⟩
  refine ⟨balance, (eachTransaction_eq read _ _).trans returns, ?_⟩
  intro person
  have same : net store record chain.reverse person = net store record chain person := by
    rw [net, List.map_reverse, List.sum_reverse]
    rfl
  rw [amounts, lookup_initialBalance, same]
  split <;> simp

theorem getBalance_ok {balance : Balance} (returns : getBalance store record = .ok balance) :
    ∃ chain, store.ChainAt record.uuid record.latestTransaction chain ∧
      (∀ tx ∈ chain, Resolved store record tx) ∧
      Sums record.members (net store record chain) balance := by
  have stays : ∀ balance tx result, balancePass store record balance tx ≠ .ok (.done result) := by
    intro balance tx result passed
    rcases balancePass_resolved passed with ⟨_, _, equal⟩
    cases equal
  rcases chain_of_forChain _ stays returns with ⟨chain, read⟩
  have looped := (eachTransaction_eq read _ _).symm.trans returns
  have resolved : ∀ tx ∈ chain, Resolved store record tx :=
    fun tx member => resolved_of_forEach looped tx (List.mem_reverse.mpr member)
  rcases getBalance_run read resolved with ⟨balance', returns', sums⟩
  obtain rfl := Outcome.ok.inj (returns.symm.trans returns')
  exact ⟨chain, read, resolved, sums⟩

end Run

def sharing (chain : List Transaction) : Account :=
  { makeAccount [7] with
    latestTransaction := tip Transaction.uuid [] chain
    members := [⟨[1], "first"⟩, ⟨[2], "second"⟩] }

def lunch : Transaction :=
  { makeTransaction [0] [] with amount := 10, payedBy := [⟨[1], 10⟩], payedFor := [⟨[2], 10⟩] }

end Flouze
