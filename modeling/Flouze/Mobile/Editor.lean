import Flouze.Mobile.TransactionBloc

namespace Flouze

/-- What is paid and what is paid for come to the amount. -/
structure Transaction.SumsUp (tx : Transaction) : Prop where
  payers : (tx.payedBy.map fun p => p.amount.toNat).sum = tx.amount.toNat
  payees : (tx.payedFor.map fun p => p.amount.toNat).sum = tx.amount.toNat

instance (tx : Transaction) : Decidable tx.SumsUp :=
  decidable_of_iff ((tx.payedBy.map fun p => p.amount.toNat).sum = tx.amount.toNat ∧
    (tx.payedFor.map fun p => p.amount.toNat).sum = tx.amount.toNat)
    ⟨fun both => ⟨both.1, both.2⟩, fun sums => ⟨sums.1, sums.2⟩⟩

namespace AbstractPayedBy

def people : AbstractPayedBy → List Person
  | one person => person.toList
  | many amounts => amounts.keys

def paid (amount : Nat) : AbstractPayedBy → Nat
  | one none => 0
  | one (some _) => amount
  | many amounts => amounts.total

end AbstractPayedBy

namespace AbstractPayedFor

def people : AbstractPayedFor → List Person
  | splitEven persons => persons.keys
  | splitCustom amounts => amounts.keys

def owed (amount : Nat) : AbstractPayedFor → Nat
  | splitEven persons => if persons.keys.isEmpty then 0 else amount
  | splitCustom amounts => amounts.total

end AbstractPayedFor

namespace TransactionBloc

structure Peopled (bloc : TransactionBloc) : Prop where
  payers : ∀ person ∈ bloc.state.payedBy.value.people, person ∈ bloc.members
  payees : ∀ person ∈ bloc.state.payedFor.value.people, person ∈ bloc.members

end TransactionBloc

namespace EditorEvent

/-- The page offers it in the mode that it is in, and lets choose among the members. -/
def Offered : EditorEvent → TransactionBloc → Prop
  | setPayedBySingle person, bloc => (∃ payer, bloc.state.payedBy.value = .one payer) ∧ person ∈ bloc.members
  | splitPayedBy, bloc => ∃ payer, bloc.state.payedBy.value = .one payer
  | setPayedBy person _, bloc => (∃ amounts, bloc.state.payedBy.value = .many amounts) ∧ person ∈ bloc.members
  | setPayedForEven persons, bloc =>
    (∃ before, bloc.state.payedFor.value = .splitEven before) ∧ ∀ person ∈ persons.keys, person ∈ bloc.members
  | splitPayedFor _, bloc => ∃ persons, bloc.state.payedFor.value = .splitEven persons
  | setPayedFor person _, bloc =>
    (∃ amounts, bloc.state.payedFor.value = .splitCustom amounts) ∧ person ∈ bloc.members
  | _, _ => True

def Among (members : List Person) : EditorEvent → Prop
  | setPayedBySingle person => person ∈ members
  | setPayedBy person _ => person ∈ members
  | setPayedForEven persons => ∀ person ∈ persons.keys, person ∈ members
  | setPayedFor person _ => person ∈ members
  | _ => True

/-- It changes the amount, and there are amounts which have to come to it that are not judged again. -/
def Unjudged : EditorEvent → TransactionBloc → Prop
  | setAmount amount, bloc => amount ≠ bloc.state.amount ∧
    ((∃ amounts, bloc.state.payedBy.value = .many amounts) ∨
      ∃ amounts, bloc.state.payedFor.value = .splitCustom amounts)
  | _, _ => False

end EditorEvent

section Fields

variable {α β : Type} {f : α → Option β} {xs : List α} {ys : List β}

theorem mapM_map {g : α → β} (each : ∀ x ∈ xs, f x = some (g x)) : xs.mapM f = some (xs.map g) := by
  induction xs with
  | nil => rfl
  | cons x xs ih =>
    have rest := ih fun other member => each other (by simp [member])
    rw [List.mapM_cons, each x (by simp), rest]
    rfl

theorem mapM_none {x : α} (member : x ∈ xs) (fails : f x = none) : xs.mapM f = none := by
  induction xs with
  | nil => cases member
  | cons first xs ih =>
    rw [List.mapM_cons]
    cases here : f first with
    | none => rfl
    | some y =>
      rcases List.mem_cons.mp member with rfl | later
      · rw [fails] at here
        cases here
      · rw [ih later]
        rfl

theorem mapM_runs (each : ∀ x ∈ xs, ∃ y, f x = some y) : ∃ ys, xs.mapM f = some ys := by
  induction xs with
  | nil => exact ⟨[], rfl⟩
  | cons x xs ih =>
    rcases each x (by simp) with ⟨y, here⟩
    rcases ih fun other member => each other (by simp [member]) with ⟨ys, rest⟩
    exact ⟨y :: ys, by rw [List.mapM_cons, here, rest]; rfl⟩

theorem mem_of_mapM (returns : xs.mapM f = some ys) {y : β} (member : y ∈ ys) : ∃ x ∈ xs, f x = some y := by
  induction xs generalizing ys with
  | nil =>
    obtain rfl : [] = ys := Option.some.inj returns
    cases member
  | cons x xs ih =>
    rw [List.mapM_cons] at returns
    cases here : f x with
    | none => simp [here] at returns
    | some first =>
      cases later : xs.mapM f with
      | none => simp [here, later] at returns
      | some rest =>
        obtain rfl : first :: rest = ys := by simpa [here, later] using returns
        rcases List.mem_cons.mp member with rfl | among
        · exact ⟨x, by simp, here⟩
        · rcases ih later among with ⟨other, present, found⟩
          exact ⟨other, List.mem_cons_of_mem _ present, found⟩

theorem uint32Field_some {amount : Option Nat} {field : UInt32} (returns : uint32Field amount = some field) :
    amount = some field.toNat := by
  cases amount with
  | none => cases returns
  | some value =>
    by_cases fits : value < 2 ^ 32
    · rw [uint32Field, if_pos fits] at returns
      rw [← Option.some.inj returns]
      exact congrArg some (UInt32.toNat_ofNat_of_lt fits).symm
    · rw [uint32Field, if_neg fits] at returns
      cases returns

theorem uint32Field_fits {value : Nat} (fits : value < 2 ^ 32) :
    uint32Field (some value) = some (UInt32.ofNat value) :=
  if_pos fits

theorem fields_iff {entries : List (Person × Nat)} {make : PersonId → UInt32 → β} {out : List β} :
    (entries.mapM fun entry => do
      let amount ← uint32Field (some entry.2)
      pure (make entry.1.uuid amount)) = some out ↔
      (∀ entry ∈ entries, entry.2 < 2 ^ 32) ∧
        out = entries.map fun entry => make entry.1.uuid (UInt32.ofNat entry.2) := by
  by_cases fits : ∀ entry ∈ entries, entry.2 < 2 ^ 32
  · have each : ∀ entry ∈ entries, (do
        let amount ← uint32Field (some entry.2)
        pure (make entry.1.uuid amount)) = some (make entry.1.uuid (UInt32.ofNat entry.2)) := by
      intro entry member
      rw [uint32Field_fits (fits entry member)]
      rfl
    rw [mapM_map each]
    constructor
    · intro same
      exact ⟨fits, (Option.some.inj same).symm⟩
    · intro both
      rw [both.2]
  · have broken : ∃ entry ∈ entries, ¬ entry.2 < 2 ^ 32 := by
      push Not at fits
      rcases fits with ⟨entry, member, large⟩
      exact ⟨entry, member, by omega⟩
    rcases broken with ⟨entry, member, large⟩
    have fails : (do
        let amount ← uint32Field (some entry.2)
        pure (make entry.1.uuid amount)) = none := by
      rw [uint32Field, if_neg large]
      rfl
    rw [mapM_none member fails]
    constructor
    · intro same
      cases same
    · intro both
      exact absurd both.1 fits

end Fields

section Sums

variable {amount : Nat} {shuffle : Shuffle}

theorem toNat_fields {β : Type} {entries : List (Person × Nat)} {make : PersonId → UInt32 → β}
    (get : β → UInt32) (kept : ∀ person field, get (make person field) = field)
    (fits : ∀ entry ∈ entries, entry.2 < 2 ^ 32) :
    ((entries.map fun entry => make entry.1.uuid (UInt32.ofNat entry.2)).map fun p => (get p).toNat) =
      entries.map Prod.snd := by
  rw [List.map_map]
  apply List.map_congr_left
  intro entry member
  simp only [Function.comp, kept]
  exact UInt32.toNat_ofNat_of_lt (fits entry member)

theorem sum_asPayedBy {payedBy : AbstractPayedBy} {out : List PayedBy}
    (returns : payedBy.asPayedBy (some amount) = some out) :
    (out.map fun p => p.amount.toNat).sum = payedBy.paid amount := by
  cases payedBy with
  | one person =>
    cases person with
    | none =>
      obtain rfl := Option.some.inj returns
      rfl
    | some person =>
      rcases Option.bind_eq_some_iff.mp returns with ⟨field, fits, made⟩
      obtain rfl := Option.some.inj made
      have same := Option.some.inj (uint32Field_some fits)
      simp [AbstractPayedBy.paid, same]
  | many amounts =>
    rcases fields_iff.mp returns with ⟨fits, rfl⟩
    rw [toNat_fields PayedBy.amount (fun _ _ => rfl) fits]
    rfl

theorem zip_amounts (shuffle : Shuffle) (amount : Nat) (persons : List Person) :
    (persons.zip (divideAmount shuffle amount persons.length)).map Prod.snd =
      divideAmount shuffle amount persons.length :=
  List.map_snd_zip (Nat.le_of_eq (length_divideAmount shuffle amount persons.length))

theorem sum_asPayedFor {payedFor : AbstractPayedFor} {out : List PayedFor}
    (returns : payedFor.asPayedFor shuffle (some amount) = some out) :
    (out.map fun p => p.amount.toNat).sum = payedFor.owed amount := by
  cases payedFor with
  | splitEven persons =>
    rcases Option.bind_eq_some_iff.mp returns with ⟨amounts, divided, made⟩
    rcases fields_iff.mp made with ⟨fits, rfl⟩
    rw [toNat_fields PayedFor.amount (fun _ _ => rfl) fits]
    by_cases nobody : persons.keys.isEmpty
    · rw [if_pos nobody] at divided
      obtain rfl := Option.some.inj divided
      simp [AbstractPayedFor.owed, nobody]
    · rw [if_neg nobody] at divided
      obtain rfl := Option.some.inj divided
      have some : 0 < persons.keys.length := by
        rw [List.length_pos_iff]
        simpa using nobody
      rw [zip_amounts, sum_divideAmount shuffle some, AbstractPayedFor.owed, if_neg nobody]
  | splitCustom amounts =>
    rcases fields_iff.mp returns with ⟨fits, rfl⟩
    rw [toNat_fields PayedFor.amount (fun _ _ => rfl) fits]
    rfl

/-- Who has been judged to pay an amount pays it, and pays another exactly if it is not up to the user
    how much each pays. -/
theorem paid_iff {payedBy : AbstractPayedBy} {judged : Option Nat} (valid : payedBy.validate judged = none) :
    payedBy.paid amount = amount ↔ judged = some amount ∨ ¬ ∃ amounts, payedBy = .many amounts := by
  cases payedBy with
  | one person =>
    cases person with
    | none => cases valid
    | some person => simp [AbstractPayedBy.paid]
  | many amounts =>
    have total : judged = some amounts.total := by
      by_contra differ
      rw [AbstractPayedBy.validate, if_pos differ] at valid
      cases valid
    simp [AbstractPayedBy.paid, total]

theorem owed_iff {payedFor : AbstractPayedFor} {judged : Option Nat} (valid : payedFor.validate judged = none) :
    payedFor.owed amount = amount ↔ judged = some amount ∨ ¬ ∃ amounts, payedFor = .splitCustom amounts := by
  cases payedFor with
  | splitEven persons =>
    by_cases nobody : persons.keys.isEmpty
    · rw [AbstractPayedFor.validate, if_pos nobody] at valid
      cases valid
    · simp [AbstractPayedFor.owed, nobody]
  | splitCustom amounts =>
    have total : judged = some amounts.total := by
      by_contra differ
      rw [AbstractPayedFor.validate, if_pos differ] at valid
      cases valid
    simp [AbstractPayedFor.owed, total]

end Sums

namespace TransactionBloc

/-- The errors of a state are those of its values for an amount that it has or had. -/
structure Judged (bloc : TransactionBloc) (amount : Option Nat) : Prop where
  payers : bloc.state.payedBy.error = bloc.state.payedBy.value.validate amount
  payees : bloc.state.payedFor.error = bloc.state.payedFor.value.validate amount

variable {bloc : TransactionBloc} {judged : Option Nat} {shuffle : Shuffle} {uuid : TransactionId}
variable {tx saved : Transaction} {members : List Person} {now : DateTime}

theorem saveTransaction_some (emits : bloc.saveTransaction shuffle uuid = some saved) :
    bloc.state.label.error = none ∧ bloc.state.payedBy.error = none ∧ bloc.state.payedFor.error = none ∧
    bloc.state.amount = some saved.amount.toNat ∧
    bloc.state.payedBy.value.asPayedBy bloc.state.amount = some saved.payedBy ∧
    bloc.state.payedFor.value.asPayedFor shuffle bloc.state.amount = some saved.payedFor ∧
    saved.label = bloc.state.label.value ∧ saved.timestamp = timestampFromDate bloc.state.date := by
  unfold saveTransaction at emits
  simp only at emits
  split at emits
  · cases emits
  · next fine =>
    rcases Option.bind_eq_some_iff.mp emits with ⟨amount, field, emits⟩
    rcases Option.bind_eq_some_iff.mp emits with ⟨payedBy, payers, emits⟩
    rcases Option.bind_eq_some_iff.mp emits with ⟨payedFor, payees, emits⟩
    obtain rfl := Option.some.inj emits
    simp only [not_or, ne_eq, Decidable.not_not] at fine
    exact ⟨fine.1, fine.2.1, fine.2.2, uint32Field_some field, payers, payees, rfl, rfl⟩

theorem saved_sums_iff (errors : bloc.Judged judged) (emits : bloc.saveTransaction shuffle uuid = some saved) :
    saved.SumsUp ↔ judged = bloc.state.amount ∨ ¬ ((∃ amounts, bloc.state.payedBy.value = .many amounts) ∨
      ∃ amounts, bloc.state.payedFor.value = .splitCustom amounts) := by
  rcases saveTransaction_some emits with ⟨_, payer, payee, amount, payers, payees, _, _⟩
  rw [amount] at payers payees
  have first : bloc.state.payedBy.value.paid saved.amount.toNat = saved.amount.toNat ↔ _ :=
    paid_iff (errors.payers.symm.trans payer)
  have second : bloc.state.payedFor.value.owed saved.amount.toNat = saved.amount.toNat ↔ _ :=
    owed_iff (errors.payees.symm.trans payee)
  rw [amount, not_or]
  constructor
  · intro sums
    rw [or_and_left]
    refine ⟨first.mp ?_, second.mp ?_⟩
    · rw [← sum_asPayedBy payers]
      exact sums.payers
    · rw [← sum_asPayedFor payees]
      exact sums.payees
  · intro either
    rw [or_and_left] at either
    constructor
    · rw [sum_asPayedBy payers]
      exact first.mpr either.1
    · rw [sum_asPayedFor payees]
      exact second.mpr either.2

theorem new_some (opened : new tx members now = some bloc) :
    bloc.members = members ∧ bloc.state.label = validateLabel tx.label ∧ bloc.state.amount = some tx.amount.toNat ∧
    (if 1 < (tx.payedBy.filter fun p => p.amount > 0).length
      then AbstractPayedBy.manyFromPayedBy tx.payedBy members
      else AbstractPayedBy.oneFromPayedBy tx.payedBy members) = some bloc.state.payedBy.value ∧
    (if 1 < (tx.payedFor.map PayedFor.amount).dedup.length
      then AbstractPayedFor.customFromPayedFor tx.payedFor members
      else AbstractPayedFor.evenFromPayedFor tx.payedFor members) = some bloc.state.payedFor.value ∧
    bloc.Judged bloc.state.amount := by
  unfold new at opened
  rcases Option.bind_eq_some_iff.mp opened with ⟨date, _, opened⟩
  rcases Option.bind_eq_some_iff.mp opened with ⟨payedBy, payers, opened⟩
  rcases Option.bind_eq_some_iff.mp opened with ⟨payedFor, payees, opened⟩
  obtain rfl := Option.some.inj opened
  exact ⟨rfl, rfl, rfl, payers, payees, rfl, rfl⟩

end TransactionBloc

section Events

variable {event : EditorEvent} {members : List Person} {s s' : TransactionLoadedState} {shuffle : Shuffle}

def Amounts.put (amounts : Amounts) (person : Person) : Option Nat → Amounts
  | some amount => amounts.set person amount
  | none => amounts.remove person

theorem setPayedBy_one {person : Person} {amount : Option Nat} {payer : Option Person}
    (mode : s.payedBy.value = .one payer) :
    (EditorEvent.setPayedBy person amount).transform members s.clone = none := by
  simp only [EditorEvent.transform, TransactionLoadedState.clone, TransactionLoadedState.create, validatePayedBy, mode]

theorem setPayedBy_many {person : Person} {amount : Option Nat} {amounts : Amounts}
    (mode : s.payedBy.value = .many amounts) :
    (EditorEvent.setPayedBy person amount).transform members s.clone =
      some { s.clone with payedBy := validatePayedBy (.many (amounts.put person amount)) s.amount } := by
  simp only [EditorEvent.transform, TransactionLoadedState.clone, TransactionLoadedState.create, validatePayedBy, mode]
  cases amount with
  | none => rfl
  | some value => rfl

theorem setPayedFor_even {person : Person} {amount : Option Nat} {persons : LinkedSet Person}
    (mode : s.payedFor.value = .splitEven persons) :
    (EditorEvent.setPayedFor person amount).transform members s.clone = none := by
  simp only [EditorEvent.transform, TransactionLoadedState.clone, TransactionLoadedState.create, validatePayedFor, mode]

theorem setPayedFor_custom {person : Person} {amount : Option Nat} {amounts : Amounts}
    (mode : s.payedFor.value = .splitCustom amounts) :
    (EditorEvent.setPayedFor person amount).transform members s.clone =
      some { s.clone with payedFor := validatePayedFor (.splitCustom (amounts.put person amount)) s.amount } := by
  simp only [EditorEvent.transform, TransactionLoadedState.clone, TransactionLoadedState.create, validatePayedFor, mode]
  cases amount with
  | none => rfl
  | some value => rfl

theorem mem_keys_put {amounts : Amounts} {person other : Person} {amount : Option Nat}
    (member : other ∈ (amounts.put person amount).keys) : other = person ∨ other ∈ amounts.keys := by
  cases amount with
  | none => exact .inr (LinkedMap.mem_keys_remove member)
  | some value => exact LinkedMap.mem_keys_set.mp member

/-- Whatever an event does, the state is created with the amount before it, and only then the amount is set. -/
theorem transform_created (took : event.transform members s.clone = some s') :
    ∃ label date payedBy payedFor amount,
      s' = { TransactionLoadedState.create label date s.amount payedBy payedFor s.canDelete with amount := amount } ∧
      ((∀ amount, event ≠ .setAmount amount) ∧ amount = s.amount ∨
        event = .setAmount amount ∧ payedBy = s.payedBy.value ∧ payedFor = s.payedFor.value) := by
  cases event with
  | setLabel label =>
    obtain rfl := Option.some.inj took
    exact ⟨label, _, _, _, _, rfl, .inl ⟨fun _ => EditorEvent.noConfusion, rfl⟩⟩
  | setAmount amount =>
    obtain rfl := Option.some.inj took
    exact ⟨_, _, _, _, amount, rfl, .inr ⟨rfl, rfl, rfl⟩⟩
  | setDate date =>
    obtain rfl := Option.some.inj took
    exact ⟨_, date, _, _, _, rfl, .inl ⟨fun _ => EditorEvent.noConfusion, rfl⟩⟩
  | setPayedBySingle person =>
    obtain rfl := Option.some.inj took
    exact ⟨_, _, .one (some person), _, _, rfl, .inl ⟨fun _ => EditorEvent.noConfusion, rfl⟩⟩
  | splitPayedBy =>
    rcases Option.bind_eq_some_iff.mp took with ⟨payedBy, _, took⟩
    rcases Option.bind_eq_some_iff.mp took with ⟨many, _, took⟩
    obtain rfl := Option.some.inj took
    exact ⟨_, _, many, _, _, rfl, .inl ⟨fun _ => EditorEvent.noConfusion, rfl⟩⟩
  | setPayedBy person amount =>
    cases mode : s.payedBy.value with
    | one payer =>
      rw [setPayedBy_one mode] at took
      cases took
    | many amounts =>
      rw [setPayedBy_many mode] at took
      obtain rfl := Option.some.inj took
      exact ⟨_, _, .many (amounts.put person amount), _, _, rfl, .inl ⟨fun _ => EditorEvent.noConfusion, rfl⟩⟩
  | setPayedForEven persons =>
    obtain rfl := Option.some.inj took
    exact ⟨_, _, _, .splitEven persons, _, rfl, .inl ⟨fun _ => EditorEvent.noConfusion, rfl⟩⟩
  | splitPayedFor shuffle =>
    rcases Option.bind_eq_some_iff.mp took with ⟨payedFor, _, took⟩
    rcases Option.bind_eq_some_iff.mp took with ⟨custom, _, took⟩
    obtain rfl := Option.some.inj took
    exact ⟨_, _, _, custom, _, rfl, .inl ⟨fun _ => EditorEvent.noConfusion, rfl⟩⟩
  | setPayedFor person amount =>
    cases mode : s.payedFor.value with
    | splitEven persons =>
      rw [setPayedFor_even mode] at took
      cases took
    | splitCustom amounts =>
      rw [setPayedFor_custom mode] at took
      obtain rfl := Option.some.inj took
      exact ⟨_, _, _, .splitCustom (amounts.put person amount), _, rfl,
        .inl ⟨fun _ => EditorEvent.noConfusion, rfl⟩⟩

theorem findPersonById_mem {id : PersonId} {person : Person} (found : findPersonById members id = some person) :
    person ∈ members ∧ person.uuid = id :=
  ⟨List.mem_of_find?_eq_some found, by simpa using List.find?_some found⟩

theorem findPersonById_known {person : Person} (known : person ∈ members) :
    ∃ other, findPersonById members person.uuid = some other := by
  rw [← Option.isSome_iff_exists, findPersonById, List.find?_isSome]
  exact ⟨person, known, by simp⟩

theorem fromPayed_people {payed : List (PersonId × UInt32)} {amounts : Amounts}
    (returns : Amounts.fromPayed payed members = some amounts) : ∀ person ∈ amounts.keys, person ∈ members := by
  rcases Option.bind_eq_some_iff.mp returns with ⟨entries, found, made⟩
  obtain rfl := Option.some.inj made
  intro person member
  rcases List.mem_map.mp (LinkedMap.mem_keys_ofEntries.mp member) with ⟨entry, among, rfl⟩
  rcases mem_of_mapM found among with ⟨p, _, from_⟩
  rcases Option.bind_eq_some_iff.mp from_ with ⟨other, known, same⟩
  obtain rfl := Option.some.inj same
  exact (findPersonById_mem known).1

theorem fromPayed_runs {payed : List (PersonId × UInt32)}
    (known : ∀ p ∈ payed, ∃ person ∈ members, person.uuid = p.1) :
    ∃ amounts, Amounts.fromPayed payed members = some amounts := by
  have all : ∃ entries : List (Person × Nat), (payed.mapM fun p => do
      let person ← findPersonById members p.1
      pure (person, p.2.toNat)) = some entries := by
    apply mapM_runs
    intro p member
    rcases known p member with ⟨person, present, same⟩
    rcases findPersonById_known present with ⟨other, found⟩
    rw [same] at found
    exact ⟨(other, p.2.toNat), by rw [found]; rfl⟩
  rcases all with ⟨entries, found⟩
  exact ⟨LinkedMap.ofEntries entries, by rw [Amounts.fromPayed, found]; rfl⟩

theorem oneFromPayedBy_people {payedBy : List PayedBy} {one : AbstractPayedBy}
    (returns : AbstractPayedBy.oneFromPayedBy payedBy members = some one) :
    ∀ person ∈ one.people, person ∈ members := by
  cases payedBy with
  | nil =>
    obtain rfl := Option.some.inj returns
    intro person member
    cases member
  | cons first rest =>
    rcases Option.bind_eq_some_iff.mp returns with ⟨payer, found, made⟩
    obtain rfl := Option.some.inj made
    intro person member
    obtain rfl := List.mem_singleton.mp member
    exact (findPersonById_mem found).1

theorem evenFromPayedFor_people {payedFor : List PayedFor} {even : AbstractPayedFor}
    (returns : AbstractPayedFor.evenFromPayedFor payedFor members = some even) :
    ∀ person ∈ even.people, person ∈ members := by
  by_cases nobody : payedFor.isEmpty
  · rw [AbstractPayedFor.evenFromPayedFor, if_pos nobody] at returns
    obtain rfl := Option.some.inj returns
    intro person member
    exact LinkedMap.mem_ofList.mp member
  · rw [AbstractPayedFor.evenFromPayedFor, if_neg nobody] at returns
    rcases Option.bind_eq_some_iff.mp returns with ⟨persons, found, made⟩
    obtain rfl := Option.some.inj made
    intro person member
    rcases mem_of_mapM found (LinkedMap.mem_ofList.mp member) with ⟨p, _, known⟩
    exact (findPersonById_mem known).1

theorem members_people (payedFor : AbstractPayedFor) : ∀ person ∈ payedFor.members, person ∈ payedFor.people := by
  intro person member
  cases payedFor with
  | splitEven persons => exact member
  | splitCustom amounts =>
    rcases List.mem_map.mp member with ⟨entry, among, rfl⟩
    exact List.mem_map_of_mem (List.mem_of_mem_filter among)

theorem asPayedBy_one {payer : Option Person} {amount : UInt32} :
    (AbstractPayedBy.one payer).asPayedBy (some amount.toNat) =
      some (payer.toList.map fun person => ⟨person.uuid, amount⟩) := by
  cases payer with
  | none => rfl
  | some person =>
    have field : uint32Field (some amount.toNat) = some amount := by
      rw [uint32Field_fits amount.toNat_lt, UInt32.ofNat_toNat]
    rw [AbstractPayedBy.asPayedBy, field]
    rfl

theorem asPayedFor_even {persons : LinkedSet Person} {amount : Nat} (fits : amount < 2 ^ 32) :
    (AbstractPayedFor.splitEven persons).asPayedFor shuffle (some amount) =
      some ((persons.keys.zip (divideAmount shuffle amount persons.keys.length)).map
        fun entry => ⟨entry.1.uuid, UInt32.ofNat entry.2⟩) := by
  rw [AbstractPayedFor.asPayedFor]
  by_cases nobody : persons.keys.isEmpty
  · rw [if_pos nobody, List.isEmpty_iff.mp nobody]
    rfl
  · have some : 0 < persons.keys.length := by
      rw [List.length_pos_iff]
      simpa using nobody
    rw [if_neg nobody]
    refine fields_iff.mpr ⟨?_, rfl⟩
    intro entry member
    have part := (divideAmount_perm shuffle some).mem_iff.mp (List.of_mem_zip member).2
    have small := part_le some part
    omega

theorem zip_persons (shuffle : Shuffle) (amount : Nat) (persons : List Person) :
    (persons.zip (divideAmount shuffle amount persons.length)).map Prod.fst = persons :=
  List.map_fst_zip (Nat.le_of_eq (length_divideAmount shuffle amount persons.length).symm)

end Events

namespace TransactionBloc

variable {bloc : TransactionBloc} {event : EditorEvent} {shuffle : Shuffle} {uuid : TransactionId}
variable {tx saved : Transaction} {members : List Person} {now : DateTime} {events : List EditorEvent}

theorem handle_took {s : TransactionLoadedState} (took : event.transform bloc.members bloc.state.clone = some s) :
    bloc.handle event = { bloc with state := s } := by
  rw [handle, took]

theorem handle_threw (threw : event.transform bloc.members bloc.state.clone = none) : bloc.handle event = bloc := by
  rw [handle, threw]

theorem handle_members : (bloc.handle event).members = bloc.members := by
  cases took : event.transform bloc.members bloc.state.clone with
  | none => rw [handle_threw took]
  | some s => rw [handle_took took]

theorem offered_among (offered : event.Offered bloc) : event.Among bloc.members := by
  cases event with
  | setPayedBySingle person => exact offered.2
  | setPayedBy person amount => exact offered.2
  | setPayedForEven persons => exact offered.2
  | setPayedFor person amount => exact offered.2
  | _ => exact True.intro

theorem transform_peopled {s : TransactionLoadedState} (peopled : bloc.Peopled) (among : event.Among bloc.members)
    (took : event.transform bloc.members bloc.state.clone = some s) : Peopled { bloc with state := s } := by
  have payers := peopled.payers
  have payees := peopled.payees
  cases event with
  | setLabel label =>
    obtain rfl := Option.some.inj took
    exact ⟨payers, payees⟩
  | setAmount amount =>
    obtain rfl := Option.some.inj took
    exact ⟨payers, payees⟩
  | setDate date =>
    obtain rfl := Option.some.inj took
    exact ⟨payers, payees⟩
  | setPayedBySingle person =>
    obtain rfl := Option.some.inj took
    refine ⟨?_, payees⟩
    intro payer member
    obtain rfl := List.mem_singleton.mp member
    exact among
  | splitPayedBy =>
    rcases Option.bind_eq_some_iff.mp took with ⟨payedBy, _, took⟩
    rcases Option.bind_eq_some_iff.mp took with ⟨many, split, took⟩
    rcases Option.bind_eq_some_iff.mp split with ⟨amounts, found, made⟩
    obtain rfl := Option.some.inj made
    obtain rfl := Option.some.inj took
    exact ⟨fromPayed_people found, payees⟩
  | setPayedBy person amount =>
    cases mode : bloc.state.payedBy.value with
    | one payer =>
      rw [setPayedBy_one mode] at took
      cases took
    | many amounts =>
      rw [setPayedBy_many mode] at took
      obtain rfl := Option.some.inj took
      rw [mode] at payers
      refine ⟨?_, payees⟩
      intro payer member
      rcases mem_keys_put member with rfl | before
      · exact among
      · exact payers payer before
  | setPayedForEven persons =>
    obtain rfl := Option.some.inj took
    exact ⟨payers, among⟩
  | splitPayedFor shuffle =>
    rcases Option.bind_eq_some_iff.mp took with ⟨payedFor, _, took⟩
    rcases Option.bind_eq_some_iff.mp took with ⟨custom, split, took⟩
    rcases Option.bind_eq_some_iff.mp split with ⟨amounts, found, made⟩
    obtain rfl := Option.some.inj made
    obtain rfl := Option.some.inj took
    refine ⟨payers, ?_⟩
    intro payee member
    exact payees payee (members_people _ payee (fromPayed_people found payee member))
  | setPayedFor person amount =>
    cases mode : bloc.state.payedFor.value with
    | splitEven persons =>
      rw [setPayedFor_even mode] at took
      cases took
    | splitCustom amounts =>
      rw [setPayedFor_custom mode] at took
      obtain rfl := Option.some.inj took
      rw [mode] at payees
      refine ⟨payers, ?_⟩
      intro payee member
      rcases mem_keys_put member with rfl | before
      · exact among
      · exact payees payee before

theorem handle_peopled (peopled : bloc.Peopled) (among : event.Among bloc.members) : (bloc.handle event).Peopled := by
  cases took : event.transform bloc.members bloc.state.clone with
  | none =>
    rw [handle_threw took]
    exact peopled
  | some s =>
    rw [handle_took took]
    exact transform_peopled peopled among took

theorem new_peopled (opened : new tx members now = some bloc) : bloc.Peopled := by
  rcases new_some opened with ⟨same, _, _, payers, payees, _⟩
  constructor
  · rw [same]
    split at payers
    · rcases Option.bind_eq_some_iff.mp payers with ⟨amounts, found, made⟩
      rw [← Option.some.inj made]
      exact fromPayed_people found
    · exact oneFromPayedBy_people payers
  · rw [same]
    split at payees
    · rcases Option.bind_eq_some_iff.mp payees with ⟨amounts, found, made⟩
      rw [← Option.some.inj made]
      exact fromPayed_people found
    · exact evenFromPayedFor_people payees

theorem offered_threw (peopled : bloc.Peopled) (offered : event.Offered bloc)
    (threw : event.transform bloc.members bloc.state.clone = none) : uint32Field bloc.state.amount = none := by
  cases event with
  | setLabel label => cases threw
  | setAmount amount => cases threw
  | setDate date => cases threw
  | setPayedBySingle person => cases threw
  | splitPayedBy =>
    rcases offered with ⟨payer, mode⟩
    cases field : uint32Field bloc.state.amount with
    | none => rfl
    | some amount =>
      have same := uint32Field_some field
      have payers := peopled.payers
      rw [mode] at payers
      have known : ∀ p ∈ (payer.toList.map fun person => PayedBy.mk person.uuid amount).map
          fun p => (p.person, p.amount), ∃ person ∈ bloc.members, person.uuid = p.1 := by
        intro p member
        rw [List.map_map] at member
        rcases List.mem_map.mp member with ⟨person, among, rfl⟩
        exact ⟨person, payers person among, rfl⟩
      rcases fromPayed_runs known with ⟨amounts, found⟩
      have runs : bloc.state.clone.payedBy.value.asPayedBy bloc.state.clone.amount =
          some (payer.toList.map fun person => ⟨person.uuid, amount⟩) := by
        show bloc.state.payedBy.value.asPayedBy bloc.state.amount = _
        rw [mode, same, asPayedBy_one]
      rw [EditorEvent.transform, runs] at threw
      simp only [Option.bind_eq_bind, Option.bind_some, AbstractPayedBy.manyFromPayedBy, found] at threw
      cases threw
  | setPayedBy person amount =>
    rcases offered with ⟨⟨amounts, mode⟩, _⟩
    rw [setPayedBy_many mode] at threw
    cases threw
  | setPayedForEven persons => cases threw
  | splitPayedFor shuffle =>
    rcases offered with ⟨persons, mode⟩
    cases field : uint32Field bloc.state.amount with
    | none => rfl
    | some amount =>
      have same := uint32Field_some field
      have known : ∀ p ∈ ((persons.keys.zip (divideAmount shuffle amount.toNat persons.keys.length)).map
          fun entry => PayedFor.mk entry.1.uuid (UInt32.ofNat entry.2)).map fun p => (p.person, p.amount),
          ∃ person ∈ persons.keys, person.uuid = p.1 := by
        intro p member
        rw [List.map_map] at member
        rcases List.mem_map.mp member with ⟨entry, among, rfl⟩
        exact ⟨entry.1, (List.of_mem_zip among).1, rfl⟩
      rcases fromPayed_runs known with ⟨amounts, found⟩
      have runs : bloc.state.clone.payedFor.value.asPayedFor shuffle bloc.state.clone.amount =
          some ((persons.keys.zip (divideAmount shuffle amount.toNat persons.keys.length)).map
            fun entry => ⟨entry.1.uuid, UInt32.ofNat entry.2⟩) := by
        show bloc.state.payedFor.value.asPayedFor shuffle bloc.state.amount = _
        rw [mode, same, asPayedFor_even amount.toNat_lt]
      have among : bloc.state.clone.payedFor.value.members = persons.keys := by
        show bloc.state.payedFor.value.members = _
        rw [mode]
        rfl
      rw [EditorEvent.transform, runs, among] at threw
      simp only [Option.bind_eq_bind, Option.bind_some, AbstractPayedFor.customFromPayedFor, found] at threw
      cases threw
  | setPayedFor person amount =>
    rcases offered with ⟨⟨amounts, mode⟩, _⟩
    rw [setPayedFor_custom mode] at threw
    cases threw

theorem not_unjudged (other : ∀ amount, event ≠ .setAmount amount) : ¬ event.Unjudged bloc := by
  cases event with
  | setAmount amount => exact absurd rfl (other amount)
  | _ => exact id

theorem handle_sums_iff (peopled : bloc.Peopled) (offered : event.Offered bloc)
    (emits : (bloc.handle event).saveTransaction shuffle uuid = some saved) :
    saved.SumsUp ↔ ¬ event.Unjudged bloc := by
  cases took : event.transform bloc.members bloc.state.clone with
  | none =>
    rw [handle_threw took] at emits
    rcases saveTransaction_some emits with ⟨_, _, _, amount, _⟩
    have broken := offered_threw peopled offered took
    rw [amount, uint32Field_fits saved.amount.toNat_lt] at broken
    cases broken
  | some s =>
    rw [handle_took took] at emits
    rcases transform_created took with ⟨label, date, payedBy, payedFor, amount, rfl, ⟨other, rfl⟩ | ⟨rfl, rfl, rfl⟩⟩
    · rw [saved_sums_iff ⟨rfl, rfl⟩ emits]
      exact iff_of_true (.inl rfl) (not_unjudged other)
    · rw [saved_sums_iff ⟨rfl, rfl⟩ emits]
      show bloc.state.amount = amount ∨ ¬ ((∃ amounts, bloc.state.payedBy.value = .many amounts) ∨
        ∃ amounts, bloc.state.payedFor.value = .splitCustom amounts) ↔ _
      rw [EditorEvent.Unjudged, not_and_or, ne_eq, Decidable.not_not]
      exact or_congr_left eq_comm

/-- An editor that was just opened saves what sums up, and after any events it does so exactly if the last of
    them was no change of the amount while the amounts of payers or payees were being set one by one. -/
theorem editor_balanced_iff (opened : new tx members now = some bloc)
    (offered : Machine.Throughout handle EditorEvent.Offered events bloc)
    (emits : (Machine.after handle events bloc).saveTransaction shuffle uuid = some saved) :
    saved.SumsUp ↔
      ∀ before event, events = before ++ [event] → ¬ event.Unjudged (Machine.after handle before bloc) := by
  rcases List.eq_nil_or_concat events with rfl | ⟨before, event, rfl⟩
  · rcases new_some opened with ⟨_, _, _, _, _, judged⟩
    rw [saved_sums_iff judged emits]
    refine iff_of_true (.inl rfl) ?_
    intro before event same
    simp at same
  · rw [List.concat_eq_append] at *
    have peopled : (Machine.after handle before bloc).Peopled :=
      Machine.after_keeps Peopled (fun _ _ => fun peopled offered => handle_peopled peopled (offered_among offered))
        (new_peopled opened) offered rfl
    have last := Machine.throughout_iff.mp offered before event [] rfl
    have next : Machine.after handle (before ++ [event]) bloc = (Machine.after handle before bloc).handle event :=
      List.foldl_concat ..
    rw [next] at emits
    rw [handle_sums_iff peopled last emits]
    constructor
    · intro judged before' event' same
      rcases List.append_inj' same rfl with ⟨rfl, tail⟩
      obtain rfl := (List.cons.inj tail).1
      exact judged
    · intro all
      exact all before event rfl

def both : List Person := [⟨[1], "first"⟩, ⟨[2], "second"⟩]

def blank : TransactionBloc :=
  ⟨[], both, .create "" ⟨0, by decide⟩ (some 0) (.one none) (.splitEven (.ofList both)) false⟩

def shared : Transaction :=
  { makeTransaction [3] [] with
    label := "lunch"
    amount := 10
    payedBy := [⟨[1], 10⟩]
    payedFor := [⟨[1], 5⟩, ⟨[2], 5⟩] }

def typing : List EditorEvent :=
  [.setLabel "lunch", .setAmount (some 10), .setPayedBySingle ⟨[1], "first"⟩]

theorem editor_balanced_single :
    new (makeTransaction [] []) both ⟨0, by decide⟩ = some blank ∧
      (Machine.after handle typing blank).saveTransaction .keep [3] = some shared ∧ shared.SumsUp := by
  have opened : new (makeTransaction [] []) both ⟨0, by decide⟩ = some blank := rfl
  have emits : (Machine.after handle typing blank).saveTransaction .keep [3] = some shared := by decide
  refine ⟨opened, emits, (editor_balanced_iff opened ?_ emits).mpr ?_⟩
  · exact ⟨True.intro, True.intro, ⟨⟨none, rfl⟩, by decide⟩, True.intro⟩
  · intro before event same unjudged
    rcases List.append_inj' (show [_, _] ++ [_] = before ++ [event] from same) rfl with ⟨_, last⟩
    obtain rfl := (List.cons.inj last).1
    exact unjudged

def resizing : List EditorEvent := typing ++ [.splitPayedBy, .setAmount (some 12)]

theorem resized_after_split :
    new (makeTransaction [] []) both ⟨0, by decide⟩ = some blank ∧
      Machine.Throughout handle EditorEvent.Offered resizing blank ∧
      ∃ saved, (Machine.after handle resizing blank).saveTransaction .keep [3] = some saved ∧
        saved.amount = 12 ∧ saved.payedBy = [⟨[1], 10⟩] ∧ ¬ saved.SumsUp := by
  refine ⟨rfl, ⟨True.intro, True.intro, ⟨⟨none, rfl⟩, by decide⟩, ⟨_, rfl⟩, True.intro, True.intro⟩, ?_⟩
  refine ⟨{ shared with amount := 12, payedFor := [⟨[1], 6⟩, ⟨[2], 6⟩] }, ?_, rfl, rfl, ?_⟩
  · decide
  · decide

end TransactionBloc

end Flouze
