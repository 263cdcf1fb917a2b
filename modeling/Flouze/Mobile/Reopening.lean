import Mathlib.Data.List.Dedup
import Flouze.Mobile.Editor

namespace Flouze

structure Editable (members : List Person) (tx : Transaction) : Prop where
  label : tx.label.isEmpty = false
  date : ∃ date : DateTime, tx.timestamp = timestampFromDate date
  payers : ∀ p ∈ tx.payedBy, ∃ person ∈ members, person.uuid = p.person
  payersApart : (tx.payedBy.map PayedBy.person).Nodup
  payees : ∀ p ∈ tx.payedFor, ∃ person ∈ members, person.uuid = p.person
  payeesApart : (tx.payedFor.map PayedFor.person).Nodup

namespace Transaction

def paidBy (tx : Transaction) (person : PersonId) : Nat :=
  ((tx.payedBy.filter fun p => p.person = person).map fun p => p.amount.toNat).sum

def paidFor (tx : Transaction) (person : PersonId) : Nat :=
  ((tx.payedFor.filter fun p => p.person = person).map fun p => p.amount.toNat).sum

structure Alike (members : List Person) (tx saved : Transaction) : Prop where
  label : saved.label = tx.label
  amount : saved.amount = tx.amount
  payers : ∀ person ∈ members, saved.paidBy person.uuid = tx.paidBy person.uuid
  payees : ∀ person ∈ members, saved.paidFor person.uuid = tx.paidFor person.uuid

/-- Opening and saving it changes nothing, whenever that happens. -/
def Unchanged (members : List Person) (tx : Transaction) : Prop :=
  ∀ now bloc shuffle uuid saved, TransactionBloc.new tx members now = some bloc →
    bloc.saveTransaction shuffle uuid = some saved → tx.Alike members saved

/-- Several persons pay, or the first of those listed does, unless nothing is paid. -/
def FirstPays (tx : Transaction) : Prop :=
  tx.amount = 0 ∨ 1 < (tx.payedBy.filter fun p => p.amount > 0).length ∨ ∃ p ∈ tx.payedBy.head?, 0 < p.amount

end Transaction

section Dates

theorem millis_bound {millis : Int} (inRange : millis.natAbs ≤ 8640000000000000) :
    (1000 * millis.tdiv 1000).natAbs ≤ 8640000000000000 := by
  have seconds : (millis.tdiv 1000).natAbs = millis.natAbs / 1000 := Int.natAbs_tdiv millis 1000
  rw [Int.natAbs_mul, seconds]
  show 1000 * (millis.natAbs / 1000) ≤ _
  omega

theorem dateFromTimestamp_saved (date : DateTime) :
    ∃ reopened, dateFromTimestamp (timestampFromDate date) = some reopened := by
  have bound := millis_bound date.inRange
  have small := Int.natAbs_tdiv_le_natAbs date.millis 1000
  have inRange := date.inRange
  have seconds : (timestampFromDate date).toInt64.toInt = date.millis.tdiv 1000 := by
    rw [timestampFromDate, Int64.toInt64_toUInt64]
    exact Int64.toInt_ofInt_of_le (by omega) (by omega)
  have millis : (1000 * (timestampFromDate date).toInt64.toInt).bmod (2 ^ 64) = 1000 * date.millis.tdiv 1000 := by
    rw [seconds]
    exact Int.bmod_eq_of_le (by omega) (by omega)
  rw [← millis] at bound
  exact ⟨⟨_, bound⟩, dif_pos bound⟩

end Dates

section Maps

variable {α β γ : Type} {f : α → Option β} {xs : List α} {ys : List β}

theorem map_of_mapM {g : β → γ} {h : α → γ} (returns : xs.mapM f = some ys)
    (each : ∀ x y, f x = some y → g y = h x) : ys.map g = xs.map h := by
  induction xs generalizing ys with
  | nil =>
    obtain rfl : [] = ys := Option.some.inj returns
    rfl
  | cons x xs ih =>
    rw [List.mapM_cons] at returns
    rcases Option.bind_eq_some_iff.mp returns with ⟨y, here, returns⟩
    rcases Option.bind_eq_some_iff.mp returns with ⟨rest, later, returns⟩
    obtain rfl := Option.some.inj returns
    rw [List.map_cons, List.map_cons, each x y here, ih later]

variable {members : List Person}

theorem fromPayed_entries {payed : List (PersonId × UInt32)} {amounts : Amounts}
    (returns : Amounts.fromPayed payed members = some amounts) (apart : (payed.map Prod.fst).Nodup) :
    amounts.entries.map (fun entry => (entry.1.uuid, entry.2)) = payed.map fun p => (p.1, p.2.toNat) := by
  rcases Option.bind_eq_some_iff.mp returns with ⟨entries, found, made⟩
  obtain rfl := Option.some.inj made
  have listed : entries.map (fun entry => (entry.1.uuid, entry.2)) = payed.map fun p => (p.1, p.2.toNat) := by
    apply map_of_mapM found
    intro p entry returns
    rcases Option.bind_eq_some_iff.mp returns with ⟨person, known, same⟩
    obtain rfl := Option.some.inj same
    rw [(findPersonById_mem known).2]
  have ids : (entries.map Prod.fst).map Person.uuid = payed.map Prod.fst := by
    have firsts := congrArg (List.map Prod.fst) listed
    simpa [Function.comp_def] using firsts
  have distinct : (entries.map Prod.fst).Nodup := by
    apply List.Nodup.of_map Person.uuid
    rw [ids]
    exact apart
  rw [LinkedMap.entries_ofEntries distinct]
  exact listed

theorem fields_taken_over {entries : List (Person × Nat)} {payed : List (PersonId × UInt32)}
    (make : PersonId → UInt32 → γ)
    (same : entries.map (fun entry => (entry.1.uuid, entry.2)) = payed.map fun p => (p.1, p.2.toNat)) :
    (entries.map fun entry => make entry.1.uuid (UInt32.ofNat entry.2)) = payed.map fun p => make p.1 p.2 := by
  have made := congrArg (List.map fun p => make p.1 (UInt32.ofNat p.2)) same
  simpa [Function.comp_def] using made

theorem zip_replicate (xs : List α) (y : β) : xs.zip (List.replicate xs.length y) = xs.map fun x => (x, y) := by
  induction xs with
  | nil => rfl
  | cons x xs ih => rw [List.length_cons, List.replicate_succ, List.zip_cons_cons, ih, List.map_cons]

theorem all_same [DecidableEq α] (few : ¬ 1 < xs.dedup.length) {x y : α} (member : x ∈ xs) (member' : y ∈ xs) :
    x = y := by
  have first := List.mem_dedup.mpr member
  have second := List.mem_dedup.mpr member'
  cases listed : xs.dedup with
  | nil =>
    rw [listed] at first
    cases first
  | cons z rest =>
    have alone : rest = [] := by
      rw [listed, List.length_cons] at few
      exact List.length_eq_zero_iff.mp (by omega)
    subst alone
    rw [listed] at first second
    exact (List.mem_singleton.mp first).trans (List.mem_singleton.mp second).symm

end Maps

section People

theorem AbstractPayedBy.nodup_people (payedBy : AbstractPayedBy) : payedBy.people.Nodup := by
  cases payedBy with
  | one person =>
    cases person with
    | none => exact List.nodup_nil
    | some person => exact List.nodup_singleton person
  | many amounts => exact amounts.distinct

theorem AbstractPayedFor.nodup_people (payedFor : AbstractPayedFor) : payedFor.people.Nodup := by
  cases payedFor with
  | splitEven persons => exact persons.distinct
  | splitCustom amounts => exact amounts.distinct

theorem map_person {β : Type} {entries : List (Person × Nat)} {make : PersonId → UInt32 → β}
    (get : β → PersonId) (kept : ∀ person field, get (make person field) = person) :
    (entries.map fun entry => make entry.1.uuid (UInt32.ofNat entry.2)).map get =
      (entries.map Prod.fst).map Person.uuid := by
  rw [List.map_map, List.map_map]
  apply List.map_congr_left
  intro entry _
  exact kept _ _

theorem asPayedBy_people {payedBy : AbstractPayedBy} {amount : Option Nat} {out : List PayedBy}
    (returns : payedBy.asPayedBy amount = some out) :
    out.map PayedBy.person = payedBy.people.map Person.uuid := by
  cases payedBy with
  | one person =>
    cases person with
    | none =>
      obtain rfl := Option.some.inj returns
      rfl
    | some person =>
      rcases Option.bind_eq_some_iff.mp returns with ⟨field, _, made⟩
      obtain rfl := Option.some.inj made
      rfl
  | many amounts =>
    rcases fields_iff.mp returns with ⟨_, rfl⟩
    exact map_person PayedBy.person fun _ _ => rfl

theorem asPayedFor_people {payedFor : AbstractPayedFor} {shuffle : Shuffle} {amount : Option Nat} {out : List PayedFor}
    (returns : payedFor.asPayedFor shuffle amount = some out) :
    out.map PayedFor.person = payedFor.people.map Person.uuid := by
  cases payedFor with
  | splitEven persons =>
    rcases Option.bind_eq_some_iff.mp returns with ⟨amounts, divided, made⟩
    rcases fields_iff.mp made with ⟨_, rfl⟩
    rw [map_person PayedFor.person fun _ _ => rfl]
    by_cases nobody : persons.keys.isEmpty
    · rw [AbstractPayedFor.people, List.isEmpty_iff.mp nobody]
      rfl
    · rw [if_neg nobody] at divided
      rcases Option.map_eq_some_iff.mp divided with ⟨value, _, rfl⟩
      rw [zip_persons]
      rfl
  | splitCustom amounts =>
    rcases fields_iff.mp returns with ⟨_, rfl⟩
    exact map_person PayedFor.person fun _ _ => rfl

end People

namespace TransactionBloc

structure Made (members : List Person) (bloc : TransactionBloc) : Prop where
  members : bloc.members = members
  peopled : bloc.Peopled
  label : bloc.state.label = validateLabel bloc.state.label.value

variable {bloc : TransactionBloc} {event : EditorEvent} {shuffle : Shuffle} {uuid : TransactionId}
variable {tx saved : Transaction} {members : List Person} {now : DateTime} {events : List EditorEvent}

theorem new_made (opened : new tx members now = some bloc) : bloc.Made members := by
  rcases new_some opened with ⟨same, label, _⟩
  refine ⟨same, new_peopled opened, ?_⟩
  rw [label]
  rfl

theorem handle_made (made : bloc.Made members) (among : event.Among members) : (bloc.handle event).Made members := by
  refine ⟨handle_members.trans made.members, handle_peopled made.peopled (made.members ▸ among), ?_⟩
  cases took : event.transform bloc.members bloc.state.clone with
  | none =>
    rw [handle_threw took]
    exact made.label
  | some s =>
    rw [handle_took took]
    rcases transform_created took with ⟨label, date, payedBy, payedFor, amount, rfl, _⟩
    rfl

theorem saved_editable (made : bloc.Made members) (distinct : (members.map Person.uuid).Nodup)
    (emits : bloc.saveTransaction shuffle uuid = some saved) : Editable members saved := by
  rcases saveTransaction_some emits with ⟨fine, _, _, _, payers, payees, label, timestamp⟩
  have apart : ∀ people : List Person, people.Nodup → (∀ person ∈ people, person ∈ members) →
      (people.map Person.uuid).Nodup := by
    intro people nodup among
    apply List.Nodup.map_on _ nodup
    intro person member other member' same
    exact List.inj_on_of_nodup_map distinct (among person member) (among other member') same
  have payer := made.peopled.payers
  have payee := made.peopled.payees
  rw [made.members] at payer payee
  have ids := asPayedBy_people payers
  have ids' := asPayedFor_people payees
  refine ⟨?_, ⟨bloc.state.date, timestamp⟩, ?_, ?_, ?_, ?_⟩
  · rw [made.label, validateLabel] at fine
    rw [label]
    cases empty : bloc.state.label.value.isEmpty with
    | true => simp [empty] at fine
    | false => rfl
  · intro p member
    have listed : p.person ∈ bloc.state.payedBy.value.people.map Person.uuid := ids ▸ List.mem_map_of_mem member
    rcases List.mem_map.mp listed with ⟨person, among, same⟩
    exact ⟨person, payer person among, same⟩
  · rw [ids]
    exact apart _ bloc.state.payedBy.value.nodup_people payer
  · intro p member
    have listed : p.person ∈ bloc.state.payedFor.value.people.map Person.uuid := ids' ▸ List.mem_map_of_mem member
    rcases List.mem_map.mp listed with ⟨person, among, same⟩
    exact ⟨person, payee person among, same⟩
  · rw [ids']
    exact apart _ bloc.state.payedFor.value.nodup_people payee

theorem reopened_many (opened : new tx members now = some bloc) (editable : Editable members tx)
    (emits : bloc.saveTransaction shuffle uuid = some saved)
    (split : 1 < (tx.payedBy.filter fun p => p.amount > 0).length) : saved.payedBy = tx.payedBy := by
  rcases new_some opened with ⟨_, _, _, payers, _⟩
  rcases saveTransaction_some emits with ⟨_, _, _, _, out, _⟩
  rw [if_pos split] at payers
  rcases Option.bind_eq_some_iff.mp payers with ⟨amounts, found, made⟩
  rw [← Option.some.inj made] at out
  rcases fields_iff.mp out with ⟨_, listed⟩
  have same := fromPayed_entries found (by rw [List.map_map]; exact editable.payersApart)
  rw [listed, fields_taken_over PayedBy.mk same, List.map_map]
  exact List.map_id' _

theorem reopened_one (opened : new tx members now = some bloc)
    (emits : bloc.saveTransaction shuffle uuid = some saved)
    (single : ¬ 1 < (tx.payedBy.filter fun p => p.amount > 0).length) :
    ∃ first rest, tx.payedBy = first :: rest ∧ saved.payedBy = [⟨first.person, tx.amount⟩] := by
  rcases new_some opened with ⟨_, _, amount, payers, _, judged⟩
  rcases saveTransaction_some emits with ⟨_, fine, _, _, out, _⟩
  rw [if_neg single] at payers
  cases listed : tx.payedBy with
  | nil =>
    rw [listed] at payers
    have error := judged.payers
    rw [fine, ← Option.some.inj payers] at error
    cases error
  | cons first rest =>
    rw [listed] at payers
    rcases Option.bind_eq_some_iff.mp payers with ⟨person, found, made⟩
    rw [← Option.some.inj made, amount, asPayedBy_one] at out
    refine ⟨first, rest, rfl, ?_⟩
    rw [← Option.some.inj out, ← (findPersonById_mem found).2]
    rfl

theorem saveTransaction_runs {amount : UInt32} {payedBy : List PayedBy} {payedFor : List PayedFor}
    (described : bloc.state.label.error = none) (payer : bloc.state.payedBy.error = none)
    (payee : bloc.state.payedFor.error = none) (field : uint32Field bloc.state.amount = some amount)
    (payers : bloc.state.payedBy.value.asPayedBy bloc.state.amount = some payedBy)
    (payees : bloc.state.payedFor.value.asPayedFor shuffle bloc.state.amount = some payedFor) :
    ∃ saved, bloc.saveTransaction shuffle uuid = some saved := by
  unfold saveTransaction
  simp only [described, payer, payee, field, payers, payees]
  exact ⟨_, rfl⟩

theorem divided_again {persons : LinkedSet Person} {slice : UInt32} {payedFor : List PayedFor}
    (ids : persons.keys.map Person.uuid = payedFor.map PayedFor.person) (same : ∀ p ∈ payedFor, p.amount = slice) :
    ((persons.keys.zip (divideAmount shuffle (payedFor.map fun p => p.amount.toNat).sum persons.keys.length)).map
      fun entry => PayedFor.mk entry.1.uuid (UInt32.ofNat entry.2)) = payedFor := by
  have count : persons.keys.length = payedFor.length := by simpa using congrArg List.length ids
  have amounts : (payedFor.map fun p => p.amount.toNat) = List.replicate payedFor.length slice.toNat := by
    rw [List.eq_replicate_iff]
    refine ⟨by simp, ?_⟩
    intro value member
    rcases List.mem_map.mp member with ⟨p, inside, rfl⟩
    rw [same p inside]
  rw [amounts, List.sum_replicate_nat, count, divideAmount_even, ← count, zip_replicate, List.map_map]
  calc
    persons.keys.map _ = (persons.keys.map Person.uuid).map fun id => PayedFor.mk id slice := by
      simp [Function.comp_def]
    _ = payedFor.map fun p => PayedFor.mk p.person slice := by rw [ids, List.map_map]; rfl
    _ = payedFor.map id := List.map_congr_left fun p member => by rw [← same p member]; rfl
    _ = payedFor := List.map_id _

theorem reopened_custom (opened : new tx members now = some bloc) (editable : Editable members tx)
    (emits : bloc.saveTransaction shuffle uuid = some saved)
    (split : 1 < (tx.payedFor.map PayedFor.amount).dedup.length) : saved.payedFor = tx.payedFor := by
  rcases new_some opened with ⟨_, _, _, _, payees, _⟩
  rcases saveTransaction_some emits with ⟨_, _, _, _, _, out, _⟩
  rw [if_pos split] at payees
  rcases Option.bind_eq_some_iff.mp payees with ⟨amounts, found, made⟩
  rw [← Option.some.inj made] at out
  rcases fields_iff.mp out with ⟨_, listed⟩
  have same := fromPayed_entries found (by rw [List.map_map]; exact editable.payeesApart)
  rw [listed, fields_taken_over PayedFor.mk same, List.map_map]
  exact List.map_id' _

theorem reopened_even (opened : new tx members now = some bloc) (editable : Editable members tx)
    (emits : bloc.saveTransaction shuffle uuid = some saved) (sums : tx.SumsUp) (somebody : tx.payedFor ≠ [])
    (even : ¬ 1 < (tx.payedFor.map PayedFor.amount).dedup.length) : saved.payedFor = tx.payedFor := by
  rcases new_some opened with ⟨_, _, amount, _, payees, _⟩
  rcases saveTransaction_some emits with ⟨_, _, _, _, _, out, _⟩
  have listed : ¬ tx.payedFor.isEmpty := by simpa using somebody
  rw [if_neg even, AbstractPayedFor.evenFromPayedFor, if_neg listed] at payees
  rcases Option.bind_eq_some_iff.mp payees with ⟨persons, found, made⟩
  rw [← Option.some.inj made, amount, asPayedFor_even tx.amount.toNat_lt] at out
  have ids : persons.map Person.uuid = tx.payedFor.map PayedFor.person :=
    map_of_mapM found fun p person known => (findPersonById_mem known).2
  have distinct : persons.Nodup := by
    apply List.Nodup.of_map Person.uuid
    rw [ids]
    exact editable.payeesApart
  rcases List.exists_mem_of_ne_nil tx.payedFor somebody with ⟨first, inside⟩
  have same : ∀ p ∈ tx.payedFor, p.amount = first.amount :=
    fun p member => all_same even (List.mem_map_of_mem member) (List.mem_map_of_mem inside)
  rw [← Option.some.inj out, ← sums.payees]
  exact divided_again (by rw [LinkedMap.keys_ofList distinct]; exact ids) same

end TransactionBloc

section Sums

variable {β : Type} {get : β → UInt32} {chosen : β → Bool} {xs : List β}

theorem sum_nothing (nothing : ∀ x ∈ xs, get x = 0) : ((xs.filter chosen).map fun x => (get x).toNat).sum = 0 := by
  apply List.sum_eq_zero_iff_forall_eq_nat.mpr
  intro value member
  rcases List.mem_map.mp member with ⟨x, inside, rfl⟩
  rw [nothing x (List.mem_of_mem_filter inside)]
  rfl

theorem nothing_of_sum (none : (xs.map fun x => (get x).toNat).sum = 0) : ∀ x ∈ xs, get x = 0 := by
  intro x member
  have zero := List.sum_eq_zero_iff_forall_eq_nat.mp none _ (List.mem_map_of_mem (f := fun x => (get x).toNat) member)
  exact UInt32.toNat_inj.mp zero

end Sums

namespace Transaction

variable {tx saved : Transaction} {first : PayedBy} {rest : List PayedBy}

theorem FirstPays.alone (pays : tx.FirstPays) (sums : tx.SumsUp) (listed : tx.payedBy = first :: rest)
    (single : ¬ 1 < (tx.payedBy.filter fun p => p.amount > 0).length) :
    first.amount = tx.amount ∧ ∀ p ∈ rest, p.amount = 0 := by
  have total := sums.payers
  rw [listed, List.map_cons, List.sum_cons] at total
  have nothing : ∀ p ∈ rest, p.amount = 0 := by
    rcases pays with zero | several | ⟨p, head, positive⟩
    · rw [zero] at total
      exact nothing_of_sum (Nat.eq_zero_of_add_eq_zero_left total)
    · exact absurd several single
    · rw [listed] at head single
      obtain rfl := Option.some.inj head
      have kept : ((first :: rest).filter fun p => p.amount > 0) = first :: rest.filter fun p => p.amount > 0 :=
        List.filter_cons_of_pos (decide_eq_true positive)
      rw [kept, List.length_cons] at single
      have none : (rest.filter fun p => p.amount > 0) = [] := List.length_eq_zero_iff.mp (by omega)
      intro p member
      have small := List.filter_eq_nil_iff.mp none p member
      exact UInt32.le_zero_iff.mp (UInt32.not_lt.mp fun large => small (decide_eq_true large))
  have all : ((rest.filter fun _ => true).map fun p => p.amount.toNat).sum = 0 := sum_nothing nothing
  have others : (rest.map fun p => p.amount.toNat).sum = 0 := by simpa using all
  rw [others] at total
  exact ⟨UInt32.toNat_inj.mp total, nothing⟩

theorem paidBy_first (listed : tx.payedBy = first :: rest) (nothing : ∀ p ∈ rest, p.amount = 0) (person : PersonId) :
    tx.paidBy person = if first.person = person then first.amount.toNat else 0 := by
  rw [paidBy, listed, List.filter_cons]
  by_cases same : first.person = person
  · rw [if_pos (decide_eq_true same), List.map_cons, List.sum_cons, sum_nothing nothing, if_pos same]
    rfl
  · rw [if_neg (by simpa using same), sum_nothing nothing, if_neg same]

end Transaction

section Reopened

variable {tx saved : Transaction} {members : List Person} {now : DateTime} {bloc : TransactionBloc}
variable {shuffle : Shuffle} {uuid : TransactionId} {events : List EditorEvent}

theorem payers_unchanged (opened : TransactionBloc.new tx members now = some bloc) (editable : Editable members tx)
    (emits : bloc.saveTransaction shuffle uuid = some saved) (sums : tx.SumsUp) (pays : tx.FirstPays)
    (person : PersonId) : saved.paidBy person = tx.paidBy person := by
  by_cases split : 1 < (tx.payedBy.filter fun p => p.amount > 0).length
  · rw [Transaction.paidBy, Transaction.paidBy, TransactionBloc.reopened_many opened editable emits split]
  · rcases TransactionBloc.reopened_one opened emits split with ⟨first, rest, listed, out⟩
    rcases pays.alone sums listed split with ⟨all, nothing⟩
    rw [Transaction.paidBy_first listed nothing, Transaction.paidBy_first out (by simp), all]

theorem payees_unchanged (opened : TransactionBloc.new tx members now = some bloc) (editable : Editable members tx)
    (emits : bloc.saveTransaction shuffle uuid = some saved) (sums : tx.SumsUp) (person : PersonId) :
    saved.paidFor person = tx.paidFor person := by
  by_cases split : 1 < (tx.payedFor.map PayedFor.amount).dedup.length
  · rw [Transaction.paidFor, Transaction.paidFor, TransactionBloc.reopened_custom opened editable emits split]
  · by_cases nobody : tx.payedFor = []
    · rcases TransactionBloc.new_some opened with ⟨_, _, amount, _, payees, _⟩
      rcases TransactionBloc.saveTransaction_some emits with ⟨_, _, _, _, _, out, _⟩
      have total := sums.payees
      rw [nobody] at total payees
      rw [amount, ← total] at out
      have none : (saved.payedFor.map fun p => p.amount.toNat).sum = 0 := by
        rw [sum_asPayedFor out, ← Option.some.inj payees]
        simp [AbstractPayedFor.owed]
      rw [Transaction.paidFor, Transaction.paidFor, nobody, sum_nothing (nothing_of_sum none)]
      rfl
    · have kept := TransactionBloc.reopened_even opened editable emits sums nobody split
      rw [Transaction.paidFor, Transaction.paidFor, kept]

theorem unchanged_of_firstPays (editable : Editable members tx) (sums : tx.SumsUp) (pays : tx.FirstPays) :
    tx.Unchanged members := by
  intro now bloc shuffle uuid saved opened emits
  rcases TransactionBloc.new_some opened with ⟨_, label, amount, _⟩
  rcases TransactionBloc.saveTransaction_some emits with ⟨_, _, _, amount', _, _, label', _⟩
  refine ⟨?_, ?_, ?_, ?_⟩
  · rw [label', label]
    rfl
  · rw [amount] at amount'
    exact (UInt32.toNat_inj.mp (Option.some.inj amount')).symm
  · intro person _
    exact payers_unchanged opened editable emits sums pays person.uuid
  · intro person _
    exact payees_unchanged opened editable emits sums person.uuid

theorem payees_reopen (editable : Editable members tx) (sums : tx.SumsUp) (paid : tx.amount ≠ 0) (shuffle : Shuffle) :
    ∃ payedFor, (if 1 < (tx.payedFor.map PayedFor.amount).dedup.length
        then AbstractPayedFor.customFromPayedFor tx.payedFor members
        else AbstractPayedFor.evenFromPayedFor tx.payedFor members) = some payedFor ∧
      payedFor.validate (some tx.amount.toNat) = none ∧
      ∃ out, payedFor.asPayedFor shuffle (some tx.amount.toNat) = some out := by
  by_cases split : 1 < (tx.payedFor.map PayedFor.amount).dedup.length
  · have known : ∀ p ∈ tx.payedFor.map fun p => (p.person, p.amount), ∃ person ∈ members, person.uuid = p.1 := by
      intro p member
      rcases List.mem_map.mp member with ⟨q, inside, rfl⟩
      exact editable.payees q inside
    rcases fromPayed_runs known with ⟨amounts, found⟩
    have listed := fromPayed_entries found (by rw [List.map_map]; exact editable.payeesApart)
    have values : amounts.values = tx.payedFor.map fun p => p.amount.toNat := by
      have seconds := congrArg (List.map Prod.snd) listed
      simpa [LinkedMap.values, Function.comp_def] using seconds
    have total : amounts.total = tx.amount.toNat := (congrArg List.sum values).trans sums.payees
    refine ⟨.splitCustom amounts, ?_, ?_, _, fields_iff.mpr ⟨?_, rfl⟩⟩
    · rw [if_pos split, AbstractPayedFor.customFromPayedFor, found]
      rfl
    · rw [AbstractPayedFor.validate, total, if_neg (absurd rfl)]
    · intro entry member
      have value : entry.2 ∈ amounts.values := List.mem_map_of_mem member
      rw [values] at value
      rcases List.mem_map.mp value with ⟨p, _, same⟩
      rw [← same]
      exact p.amount.toNat_lt
  · have somebody : tx.payedFor ≠ [] := by
      intro nobody
      have total := sums.payees
      rw [nobody] at total
      exact paid (UInt32.toNat_inj.mp total.symm)
    have listed : ¬ tx.payedFor.isEmpty := by simpa using somebody
    have found : ∃ persons, (tx.payedFor.mapM fun p => findPersonById members p.person) = some persons := by
      apply mapM_runs
      intro p member
      rcases editable.payees p member with ⟨person, present, same⟩
      rw [← same]
      exact findPersonById_known present
    rcases found with ⟨persons, found⟩
    refine ⟨.splitEven (.ofList persons), ?_, ?_, _, asPayedFor_even tx.amount.toNat_lt⟩
    · rw [if_neg split, AbstractPayedFor.evenFromPayedFor, if_neg listed, found]
      rfl
    · have ids : persons.map Person.uuid = tx.payedFor.map PayedFor.person :=
        map_of_mapM found fun p person known => (findPersonById_mem known).2
      rw [AbstractPayedFor.validate, if_neg]
      intro none
      cases persons with
      | nil => exact somebody (List.map_eq_nil_iff.mp ids.symm)
      | cons person persons =>
        have member : person ∈ (LinkedMap.ofList (person :: persons)).keys := LinkedMap.mem_ofList.mpr (by simp)
        rw [List.isEmpty_iff.mp none] at member
        cases member

theorem reopens (editable : Editable members tx) (sums : tx.SumsUp) (paid : tx.amount ≠ 0)
    (single : ¬ 1 < (tx.payedBy.filter fun p => p.amount > 0).length) :
    ∃ now bloc saved, TransactionBloc.new tx members now = some bloc ∧ bloc.saveTransaction .keep [] = some saved := by
  have dated : ∃ date, (if tx.timestamp = 0 then some ⟨0, by decide⟩
      else dateFromTimestamp tx.timestamp) = some date := by
    by_cases zero : tx.timestamp = 0
    · rw [if_pos zero]
      exact ⟨_, rfl⟩
    · rcases editable.date with ⟨saved, same⟩
      rw [if_neg zero, same]
      exact dateFromTimestamp_saved saved
  rcases dated with ⟨date, dated⟩
  rcases payees_reopen editable sums paid .keep with ⟨payedFor, payees, fine, out, divided⟩
  cases listed : tx.payedBy with
  | nil =>
    have total := sums.payers
    rw [listed] at total
    exact absurd (UInt32.toNat_inj.mp total.symm) paid
  | cons first rest =>
    rcases editable.payers first (by simp [listed]) with ⟨other, present, same⟩
    rcases findPersonById_known present with ⟨person, found⟩
    rw [same] at found
    have payers : (if 1 < (tx.payedBy.filter fun p => p.amount > 0).length
        then AbstractPayedBy.manyFromPayedBy tx.payedBy members
        else AbstractPayedBy.oneFromPayedBy tx.payedBy members) = some (.one (some person)) := by
      rw [if_neg single, listed, AbstractPayedBy.oneFromPayedBy, found]
      rfl
    have field : uint32Field (some tx.amount.toNat) = some tx.amount := by
      rw [uint32Field_fits tx.amount.toNat_lt, UInt32.ofNat_toNat]
    have described : (validateLabel tx.label).error = none := by
      rw [validateLabel, editable.label]
      rfl
    let bloc : TransactionBloc := ⟨tx.uuid, members,
      .create tx.label date (some tx.amount.toNat) (.one (some person)) payedFor (!tx.uuid.isEmpty)⟩
    have opened : TransactionBloc.new tx members ⟨0, by decide⟩ = some bloc := by
      unfold TransactionBloc.new
      simp only [gt_iff_lt] at payers ⊢
      rw [dated, payers, payees]
      rfl
    have runs : ∃ saved, bloc.saveTransaction .keep [] = some saved :=
      TransactionBloc.saveTransaction_runs described rfl fine field asPayedBy_one divided
    rcases runs with ⟨saved, emits⟩
    exact ⟨_, bloc, saved, opened, emits⟩

theorem firstPays_of_unchanged (editable : Editable members tx) (sums : tx.SumsUp) (unchanged : tx.Unchanged members) :
    tx.FirstPays := by
  by_contra fails
  rw [Transaction.FirstPays, not_or, not_or] at fails
  rcases fails with ⟨paid, single, idle⟩
  rcases reopens editable sums paid single with ⟨now, bloc, saved, opened, emits⟩
  rcases TransactionBloc.reopened_one opened emits single with ⟨first, rest, listed, out⟩
  rcases editable.payers first (by simp [listed]) with ⟨person, present, same⟩
  have alike := (unchanged now bloc .keep [] saved opened emits).payers person present
  have none : first.amount = 0 := by
    rw [listed] at idle
    exact UInt32.le_zero_iff.mp (UInt32.not_lt.mp fun positive => idle ⟨first, rfl, positive⟩)
  have apart := editable.payersApart
  rw [listed, List.map_cons, List.nodup_cons] at apart
  have before : tx.paidBy first.person = 0 := by
    apply List.sum_eq_zero_iff_forall_eq_nat.mpr
    intro value member
    rcases List.mem_map.mp member with ⟨p, chosen, rfl⟩
    rw [listed] at chosen
    rcases List.mem_filter.mp chosen with ⟨inside, again⟩
    rcases List.mem_cons.mp inside with rfl | later
    · exact congrArg UInt32.toNat none
    · exact absurd (List.mem_map.mpr ⟨p, later, of_decide_eq_true again⟩) apart.1
  rw [same, before, Transaction.paidBy_first out (by simp), if_pos rfl] at alike
  exact paid (UInt32.toNat_inj.mp alike)

/-- Of the balanced transactions that the editor saves, those are changed by opening and saving them again in which
    one person pays and is not the first of those listed. -/
theorem reopening_unchanged_iff {initial : Transaction} (distinct : (members.map Person.uuid).Nodup)
    (opened : TransactionBloc.new initial members now = some bloc) (among : ∀ event ∈ events, event.Among members)
    (emits : (Machine.after TransactionBloc.handle events bloc).saveTransaction shuffle uuid = some tx)
    (sums : tx.SumsUp) : tx.Unchanged members ↔ tx.FirstPays := by
  have made : (Machine.after TransactionBloc.handle events bloc).Made members := by
    have all : Machine.Throughout TransactionBloc.handle (fun event _ => event.Among members) events bloc := by
      apply Machine.throughout_iff.mpr
      intro before event later split
      exact among event (by rw [split]; simp)
    exact Machine.after_keeps (TransactionBloc.Made members)
      (fun _ _ made among => TransactionBloc.handle_made made among) (TransactionBloc.new_made opened) all
      (List.append_nil _).symm
  have editable := TransactionBloc.saved_editable made distinct emits
  exact ⟨firstPays_of_unchanged editable sums, unchanged_of_firstPays editable sums⟩

end Reopened

namespace TransactionBloc

theorem reopening_unchanged_single :
    (Machine.after handle typing blank).saveTransaction .keep [3] = some shared ∧ shared.Unchanged both := by
  have opened : new (makeTransaction [] []) both ⟨0, by decide⟩ = some blank := rfl
  have emits : (Machine.after handle typing blank).saveTransaction .keep [3] = some shared := by decide
  have among : ∀ event ∈ typing, event.Among both := by
    intro event member
    simp only [typing, List.mem_cons, List.not_mem_nil, or_false] at member
    rcases member with rfl | rfl | rfl
    · exact True.intro
    · exact True.intro
    · show _ ∈ both
      decide
  have pays : shared.FirstPays := .inr (.inr ⟨_, rfl, by decide⟩)
  exact ⟨emits, (reopening_unchanged_iff (by decide) opened among emits (by decide)).mpr pays⟩

/-- The first person pays at first, and then it is split and the second person pays it all. -/
def handingOver : List EditorEvent :=
  typing ++ [.splitPayedBy, .setPayedBy ⟨[2], "second"⟩ (some 10), .setPayedBy ⟨[1], "first"⟩ (some 0)]

def handedOver : Transaction := { shared with payedBy := [⟨[1], 0⟩, ⟨[2], 10⟩] }

def handedBack : Transaction := { shared with uuid := [4], replaces := [3] }

theorem reopening_hands_back :
    (both.map Person.uuid).Nodup ∧ Machine.Throughout handle EditorEvent.Offered handingOver blank ∧
    (Machine.after handle handingOver blank).saveTransaction .keep [3] = some handedOver ∧ handedOver.SumsUp ∧
    (∃ bloc, new handedOver both ⟨0, by decide⟩ = some bloc ∧ bloc.saveTransaction .keep [4] = some handedBack) ∧
    ¬ handedOver.Unchanged both := by
  have opened : ∃ bloc, new handedOver both ⟨0, by decide⟩ = some bloc ∧
      bloc.saveTransaction .keep [4] = some handedBack := ⟨_, rfl, by decide⟩
  have offered : Machine.Throughout handle EditorEvent.Offered handingOver blank :=
    ⟨True.intro, True.intro, ⟨⟨none, rfl⟩, by decide⟩, ⟨_, rfl⟩, ⟨⟨_, rfl⟩, by decide⟩, ⟨⟨_, rfl⟩, by decide⟩,
      True.intro⟩
  refine ⟨by decide, offered, by decide, by decide, opened, ?_⟩
  intro unchanged
  rcases opened with ⟨bloc, opened, emits⟩
  have alike := (unchanged _ bloc .keep [4] handedBack opened emits).payers ⟨[1], "first"⟩ (by decide)
  exact absurd alike (by decide)

end TransactionBloc

end Flouze
