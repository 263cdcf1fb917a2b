import Flouze.Lib.Outcome
import Flouze.Mobile.Amounts
import Flouze.Model

namespace Flouze

inductive Crash where
  | assertion (text : String)
  | overflow
  | outOfBounds
deriving DecidableEq

/-- `res[i] += 1` -/
def increment (res : List UInt32) (i : Nat) : Outcome Crash (List UInt32) :=
  match res[i]? with
  | none => .err .outOfBounds
  | some part => if part.toNat + 1 < 2 ^ 32 then .ok (res.set i (part + 1)) else .err .overflow

/-- A `usize` has 64 bits. Conversions to 32 bits cut off what does not fit. -/
def splitAmount (amount : UInt32) (n : UInt64) : Outcome Crash (List UInt32) :=
  if n = 0 then .err (.assertion "The amount must be split in at least once part")
  else
    let slice := (amount.toUInt64 / n).toUInt32
    let res := List.replicate n.toNat slice
    if slice.toNat * n.toNat < 2 ^ 64 then
      let covered := (slice.toUInt64 * n).toUInt32
      if covered.toNat ≤ amount.toNat then
        let missing := amount - covered
        (List.range missing.toNat).foldlM (fun res i => increment res (i % n.toNat)) res
      else .err .overflow
    else .err .overflow

/-- What `gen_range(0, 1 + i)` yields for each `i`. -/
structure Draws where
  next : Nat → Nat
  below : ∀ i, next i ≤ i

/-- `for i in (1..items.len()).rev()`, from `i` on. -/
def shuffleFrom {α : Type} (draws : Draws) {n : Nat} : (i : Nat) → i < n → Vector α n → Vector α n
  | 0, _, items => items
  | i + 1, inside, items =>
    shuffleFrom draws i (Nat.lt_of_succ_lt inside)
      (items.swap (i + 1) (draws.next (i + 1)) inside (Nat.lt_of_le_of_lt (draws.below (i + 1)) inside))

def seqShuffle {α : Type} (draws : Draws) (items : List α) : List α :=
  if nonempty : 0 < items.length then
    (shuffleFrom draws (items.length - 1) (Nat.sub_one_lt_of_lt nonempty) ⟨items.toArray, rfl⟩).toList
  else items

/-- The transaction that `Command::AddTransaction` makes, once the account and the payer are found. -/
def addTransactionOf (draws : Draws) (account : Account) (member : PersonId) (label : String) (amount : UInt32)
    (uuid : TransactionId) (timestamp : UInt64) : Outcome Crash Transaction := do
  let amounts ← splitAmount amount (UInt64.ofNat account.members.length)
  let amounts := seqShuffle draws amounts
  pure {
    uuid := uuid
    parent := account.latestTransaction
    amount := amount
    payedBy := [⟨member, amount⟩]
    payedFor := (amounts.zip account.members).map fun share => ⟨share.2.uuid, share.1⟩
    label := label
    timestamp := timestamp
    deleted := false
    replaces := [] }

section Split

variable {amount : UInt32} {n : UInt64} {slice : UInt32}

def given (slice : UInt32) (n passes : Nat) : List UInt32 :=
  List.replicate passes (slice + 1) ++ List.replicate (n - passes) slice

theorem increment_given {passes size : Nat} (inside : passes < size) (fits : slice.toNat + 1 < 2 ^ 32) :
    increment (given slice size passes) passes = .ok (given slice size (passes + 1)) := by
  obtain ⟨rest, rfl⟩ : ∃ rest, size = passes + (rest + 1) := ⟨size - passes - 1, by omega⟩
  have left : passes + (rest + 1) - passes = rest + 1 := by omega
  have left' : passes + (rest + 1) - (passes + 1) = rest := by omega
  have here : (given slice (passes + (rest + 1)) passes)[passes]? = some slice := by
    rw [given, left]
    simp [List.replicate_succ]
  have next : (given slice (passes + (rest + 1)) passes).set passes (slice + 1) =
      given slice (passes + (rest + 1)) (passes + 1) := by
    rw [given, given, left, left', List.replicate_succ (n := rest), List.replicate_succ' (n := passes)]
    simp
  rw [increment, here]
  simp only [if_pos fits, next]

theorem increments_given {size missing : Nat} (inside : missing ≤ size)
    (fits : 0 < missing → slice.toNat + 1 < 2 ^ 32) :
    (List.range missing).foldlM (fun res i => increment res (i % size)) (List.replicate size slice) =
      .ok (given slice size missing) := by
  induction missing with
  | zero => simp [given]
  | succ missing ih =>
    have index : missing % size = missing := Nat.mod_eq_of_lt inside
    have before := ih (by omega) fun _ => fits (Nat.succ_pos missing)
    rw [List.range_succ, List.foldlM_append, before, Outcome.ok_bind, List.foldlM_cons, index,
      increment_given inside (fits (Nat.succ_pos missing)), Outcome.ok_bind]
    rfl

theorem toNat_slice (amount : UInt32) (n : UInt64) :
    ((amount.toUInt64 / n).toUInt32).toNat = amount.toNat / n.toNat := by
  have bound := amount.toNat_lt
  have smaller := Nat.div_le_self amount.toNat n.toNat
  rw [UInt64.toNat_toUInt32, UInt64.toNat_div, UInt32.toNat_toUInt64]
  exact Nat.mod_eq_of_lt (by omega)

theorem splitAmount_run (positive : 0 < n) :
    splitAmount amount n = .ok ((parts amount.toNat n.toNat).map UInt32.ofNat) := by
  have nonzero : n ≠ 0 := fun zero => by simp [zero] at positive
  have members : 0 < n.toNat := UInt64.lt_iff_toNat_lt.mp positive
  have bound := amount.toNat_lt
  have division := Nat.div_add_mod amount.toNat n.toNat
  have remainder := Nat.mod_lt amount.toNat members
  generalize same : (amount.toUInt64 / n).toUInt32 = slice
  have whole : slice.toNat = amount.toNat / n.toNat := same ▸ toNat_slice amount n
  have product : slice.toNat * n.toNat = amount.toNat - amount.toNat % n.toNat := by
    rw [whole, Nat.mul_comm]
    omega
  have covered : ((slice.toUInt64 * n).toUInt32).toNat = slice.toNat * n.toNat := by
    rw [UInt64.toNat_toUInt32, UInt64.toNat_mul, UInt32.toNat_toUInt64]
    omega
  have missing : (amount - (slice.toUInt64 * n).toUInt32).toNat = amount.toNat % n.toNat := by
    rw [UInt32.toNat_sub_of_le _ _ (by rw [UInt32.le_iff_toNat_le]; omega), covered]
    omega
  have fits : 0 < amount.toNat % n.toNat → slice.toNat + 1 < 2 ^ 32 := by
    intro some
    have step : slice.toNat ≤ slice.toNat * n.toNat := Nat.le_mul_of_pos_right _ members
    omega
  have shares : given slice n.toNat (amount.toNat % n.toNat) = (parts amount.toNat n.toNat).map UInt32.ofNat := by
    have larger : UInt32.ofNat (amount.toNat / n.toNat + 1) = slice + 1 := by
      rw [← whole, UInt32.ofNat_add, UInt32.ofNat_toNat]
      rfl
    have smaller : UInt32.ofNat (amount.toNat / n.toNat) = slice := by rw [← whole, UInt32.ofNat_toNat]
    rw [given, parts, List.map_append, List.map_replicate, List.map_replicate, larger, smaller]
  unfold splitAmount
  rw [if_neg nonzero, same]
  simp only [if_pos (show slice.toNat * n.toNat < 2 ^ 64 by omega),
    if_pos (show ((slice.toUInt64 * n).toUInt32).toNat ≤ amount.toNat by omega), missing]
  rw [increments_given (by omega) fits, shares]

theorem toNat_shares (amount : UInt32) {n : Nat} (positive : 0 < n) :
    ((parts amount.toNat n).map UInt32.ofNat).map UInt32.toNat = parts amount.toNat n := by
  have bound := amount.toNat_lt
  have each : ∀ part ∈ parts amount.toNat n, (UInt32.toNat ∘ UInt32.ofNat) part = id part := by
    intro part member
    have small := part_le positive member
    exact UInt32.toNat_ofNat_of_lt (Nat.lt_of_le_of_lt small bound)
  rw [List.map_map, List.map_congr_left each, List.map_id]

end Split

section Shuffled

variable {α : Type}

theorem shuffleFrom_perm (draws : Draws) {n : Nat} (i : Nat) (inside : i < n) (items : Vector α n) :
    (shuffleFrom draws i inside items).Perm items := by
  induction i generalizing items with
  | zero => exact Vector.Perm.refl items
  | succ i ih => exact (ih _ _).trans (Vector.swap_perm _ _)

theorem seqShuffle_perm (draws : Draws) (items : List α) : (seqShuffle draws items).Perm items := by
  unfold seqShuffle
  split
  · exact (shuffleFrom_perm draws _ _ _).toList
  · exact List.Perm.refl items

end Shuffled

/-- The command line and the application divide an amount alike, and nothing is lost. -/
theorem splitters_agree (amount : UInt32) (n : UInt64) (positive : 0 < n) :
    ∃ shares, splitAmount amount n = .ok shares ∧
      shares.length = n.toNat ∧ (shares.map UInt32.toNat).sum = amount.toNat ∧
      (∀ part ∈ shares, ∀ other ∈ shares, part.toNat ≤ other.toNat + 1) ∧
      (∀ shuffle, (divideAmount shuffle amount.toNat n.toNat).Perm (shares.map UInt32.toNat)) ∧
      ∀ draws account member label uuid timestamp, account.members.length = n.toNat →
        ∃ tx, addTransactionOf draws account member label amount uuid timestamp = .ok tx ∧
          tx.payedBy = [⟨member, amount⟩] ∧ tx.payedFor.map PayedFor.person = account.members.map Person.uuid ∧
          (tx.payedFor.map fun p => p.amount.toNat).sum = amount.toNat := by
  have members : 0 < n.toNat := UInt64.lt_iff_toNat_lt.mp positive
  have exact_shares := toNat_shares amount members
  have sum : (parts amount.toNat n.toNat).sum = amount.toNat := sum_parts members
  refine ⟨_, splitAmount_run positive, ?_, ?_, ?_, ?_, ?_⟩
  · rw [List.length_map, length_parts members]
  · rw [exact_shares, sum]
  · intro part member other member'
    have first := List.mem_map_of_mem (f := UInt32.toNat) member
    have second := List.mem_map_of_mem (f := UInt32.toNat) member'
    rw [exact_shares] at first second
    exact parts_fair first second
  · intro shuffle
    rw [exact_shares]
    exact divideAmount_perm shuffle members
  · intro draws account member label uuid timestamp count
    have same : UInt64.ofNat account.members.length = n := by rw [count, UInt64.ofNat_toNat]
    have perm := seqShuffle_perm draws ((parts amount.toNat n.toNat).map UInt32.ofNat)
    have length : (seqShuffle draws ((parts amount.toNat n.toNat).map UInt32.ofNat)).length =
        account.members.length := by
      rw [perm.length_eq, List.length_map, length_parts members, count]
    refine ⟨_, by rw [addTransactionOf, same, splitAmount_run positive]; rfl, rfl, ?_, ?_⟩
    · rw [List.map_map]
      exact (List.map_map (g := Person.uuid) (f := Prod.snd)).symm.trans
        (congrArg _ (List.map_snd_zip (Nat.le_of_eq length.symm)))
    · have amounts : (((seqShuffle draws ((parts amount.toNat n.toNat).map UInt32.ofNat)).zip account.members).map
          fun share => share.1.toNat) =
          (seqShuffle draws ((parts amount.toNat n.toNat).map UInt32.ofNat)).map UInt32.toNat :=
        (List.map_map (g := UInt32.toNat) (f := Prod.fst)).symm.trans
          (congrArg _ (List.map_fst_zip (Nat.le_of_eq length)))
      have total := (perm.map UInt32.toNat).sum_nat
      rw [exact_shares, sum] at total
      rw [List.map_map]
      exact (congrArg List.sum amounts).trans total

theorem splitters_agree_eight :
    splitAmount 8 5 = .ok [2, 2, 2, 1, 1] ∧ (divideAmount .reverse 8 5).Perm [2, 2, 2, 1, 1] := by
  rcases splitters_agree 8 5 (by decide) with ⟨shares, run, _, _, _, perm, _⟩
  have listed : splitAmount 8 5 = .ok [2, 2, 2, 1, 1] := by decide
  obtain rfl := Outcome.ok.inj (listed.symm.trans run)
  exact ⟨listed, perm .reverse⟩

end Flouze
