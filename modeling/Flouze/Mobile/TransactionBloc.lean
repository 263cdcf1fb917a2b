import Flouze.Lib.LinkedMap
import Flouze.Lib.Machine
import Flouze.Mobile.Amounts
import Flouze.Model

namespace Flouze

inductive ValidationError where
  | descriptionEmpty
  | payedByOneNoOneSelected
  | payedByManyAmountsNotMatch
  | payedForSplitEvenNoOneSelected
  | payedForSplitCustomAmountsNotMatch
deriving DecidableEq

/-- The setter of a `uint32` field throws if it is given nothing or more than 32 bits. -/
def uint32Field : Option Nat → Option UInt32
  | some value => if value < 2 ^ 32 then some (UInt32.ofNat value) else none
  | none => none

/-- `firstWhere` throws if there is no such person. -/
def findPersonById (members : List Person) (personId : PersonId) : Option Person :=
  members.find? fun person => person.uuid = personId

structure DateTime where
  millis : Int
  inRange : millis.natAbs ≤ 8640000000000000

def dateFromTimestamp (timestamp : UInt64) : Option DateTime :=
  let millis := (1000 * timestamp.toInt64.toInt).bmod (2 ^ 64)
  if inRange : millis.natAbs ≤ 8640000000000000 then some ⟨millis, inRange⟩ else none

def timestampFromDate (date : DateTime) : UInt64 := (Int64.ofInt (date.millis.tdiv 1000)).toUInt64

abbrev Amounts := LinkedMap Person Nat

namespace Amounts

def total (amounts : Amounts) : Nat := amounts.values.sum

/-- `Map.fromEntries`, of what is payed by or for whom. Whoever is not found is thrown at. -/
def fromPayed (payed : List (PersonId × UInt32)) (members : List Person) : Option Amounts := do
  let entries ← payed.mapM fun p => do
    let person ← findPersonById members p.1
    pure (person, p.2.toNat)
  pure (LinkedMap.ofEntries entries)

end Amounts

inductive AbstractPayedBy where
  | one (person : Option Person)
  | many (amounts : Amounts)
deriving DecidableEq

namespace AbstractPayedBy

/-- The assertion that there are no two entries is not checked in a release build. -/
def oneFromPayedBy (payedBy : List PayedBy) (members : List Person) : Option AbstractPayedBy :=
  match payedBy with
  | [] => some (.one none)
  | first :: _ => do
    let person ← findPersonById members first.person
    pure (.one (some person))

def manyFromPayedBy (payedBy : List PayedBy) (members : List Person) : Option AbstractPayedBy := do
  let amounts ← Amounts.fromPayed (payedBy.map fun p => (p.person, p.amount)) members
  pure (.many amounts)

def validate (amount : Option Nat) : AbstractPayedBy → Option ValidationError
  | one none => some .payedByOneNoOneSelected
  | one (some _) => none
  | many amounts => if amount ≠ some amounts.total then some .payedByManyAmountsNotMatch else none

def asPayedBy (amount : Option Nat) : AbstractPayedBy → Option (List PayedBy)
  | one none => some []
  | one (some person) => do
    let amount ← uint32Field amount
    pure [⟨person.uuid, amount⟩]
  | many amounts => amounts.entries.mapM fun entry => do
    let amount ← uint32Field (some entry.2)
    pure ⟨entry.1.uuid, amount⟩

end AbstractPayedBy

inductive AbstractPayedFor where
  | splitEven (persons : LinkedSet Person)
  | splitCustom (amounts : Amounts)
deriving DecidableEq

namespace AbstractPayedFor

def evenFromPayedFor (payedFor : List PayedFor) (members : List Person) : Option AbstractPayedFor :=
  if payedFor.isEmpty then some (.splitEven (.ofList members))
  else do
    let persons ← payedFor.mapM fun p => findPersonById members p.person
    pure (.splitEven (.ofList persons))

def customFromPayedFor (payedFor : List PayedFor) (members : List Person) : Option AbstractPayedFor := do
  let amounts ← Amounts.fromPayed (payedFor.map fun p => (p.person, p.amount)) members
  pure (.splitCustom amounts)

def validate (amount : Option Nat) : AbstractPayedFor → Option ValidationError
  | splitEven persons => if persons.keys.isEmpty then some .payedForSplitEvenNoOneSelected else none
  | splitCustom amounts => if amount ≠ some amounts.total then some .payedForSplitCustomAmountsNotMatch else none

def members : AbstractPayedFor → List Person
  | splitEven persons => persons.keys
  | splitCustom amounts => (amounts.entries.filter fun entry => entry.2 > 0).map Prod.fst

def asPayedFor (shuffle : Shuffle) (amount : Option Nat) : AbstractPayedFor → Option (List PayedFor)
  | splitEven persons => do
    -- among nobody even no amount at all can be divided
    let amounts ← (if persons.keys.isEmpty then some []
      else amount.map (divideAmount shuffle · persons.keys.length))
    (persons.keys.zip amounts).mapM fun entry => do
      let amount ← uint32Field (some entry.2)
      pure ⟨entry.1.uuid, amount⟩
  | splitCustom amounts => amounts.entries.mapM fun entry => do
    let amount ← uint32Field (some entry.2)
    pure ⟨entry.1.uuid, amount⟩

end AbstractPayedFor

structure ValidatedValue (α : Type) where
  value : α
  error : Option ValidationError
deriving DecidableEq

def validateLabel (label : String) : ValidatedValue String :=
  ⟨label, if label.isEmpty then some .descriptionEmpty else none⟩

def validatePayedBy (payedBy : AbstractPayedBy) (amount : Option Nat) : ValidatedValue AbstractPayedBy :=
  ⟨payedBy, payedBy.validate amount⟩

def validatePayedFor (payedFor : AbstractPayedFor) (amount : Option Nat) : ValidatedValue AbstractPayedFor :=
  ⟨payedFor, payedFor.validate amount⟩

structure TransactionLoadedState where
  label : ValidatedValue String
  date : DateTime
  amount : Option Nat
  payedBy : ValidatedValue AbstractPayedBy
  payedFor : ValidatedValue AbstractPayedFor
  canDelete : Bool

namespace TransactionLoadedState

def create (label : String) (date : DateTime) (amount : Option Nat) (payedBy : AbstractPayedBy)
    (payedFor : AbstractPayedFor) (canDelete : Bool) : TransactionLoadedState :=
  ⟨validateLabel label, date, amount, validatePayedBy payedBy amount, validatePayedFor payedFor amount, canDelete⟩

def clone (other : TransactionLoadedState) : TransactionLoadedState :=
  create other.label.value other.date other.amount other.payedBy.value other.payedFor.value other.canDelete

end TransactionLoadedState

/-- What the page calls. An amount is null if its text is not a number. -/
inductive EditorEvent where
  | setLabel (label : String)
  | setAmount (amount : Option Nat)
  | setDate (date : DateTime)
  | setPayedBySingle (person : Person)
  | splitPayedBy
  | setPayedBy (person : Person) (amount : Option Nat)
  | setPayedForEven (members : LinkedSet Person)
  | splitPayedFor (shuffle : Shuffle)
  | setPayedFor (person : Person) (amount : Option Nat)

/-- The transformation that `_update` is given, on the clone of the state. It may throw. -/
def EditorEvent.transform (members : List Person) :
    EditorEvent → TransactionLoadedState → Option TransactionLoadedState
  | setLabel label, s => some { s with label := validateLabel label }
  | setAmount amount, s => some { s with amount := amount }
  | setDate date, s => some { s with date := date }
  | setPayedBySingle person, s => some { s with payedBy := validatePayedBy (.one (some person)) s.amount }
  | splitPayedBy, s => do
    let payedBy ← s.payedBy.value.asPayedBy s.amount
    let payedBy ← AbstractPayedBy.manyFromPayedBy payedBy members
    pure { s with payedBy := validatePayedBy payedBy s.amount }
  | setPayedBy person amount, s => match s.payedBy.value with
    | .one _ => none
    | .many amounts =>
      let amounts := match amount with
        | some amount => amounts.set person amount
        | none => amounts.remove person
      some { s with payedBy := validatePayedBy (.many amounts) s.amount }
  | setPayedForEven members, s => some { s with payedFor := validatePayedFor (.splitEven members) s.amount }
  | splitPayedFor shuffle, s => do
    let payedFor ← s.payedFor.value.asPayedFor shuffle s.amount
    let payedFor ← AbstractPayedFor.customFromPayedFor payedFor s.payedFor.value.members
    pure { s with payedFor := validatePayedFor payedFor s.amount }
  | setPayedFor person amount, s => match s.payedFor.value with
    | .splitEven _ => none
    | .splitCustom amounts =>
      let amounts := match amount with
        | some amount => amounts.set person amount
        | none => amounts.remove person
      some { s with payedFor := validatePayedFor (.splitCustom amounts) s.amount }

structure TransactionBloc where
  replaces : TransactionId
  members : List Person
  state : TransactionLoadedState

namespace TransactionBloc

def new (transaction : Transaction) (members : List Person) (now : DateTime) : Option TransactionBloc := do
  let date ← (if transaction.timestamp = 0 then some now else dateFromTimestamp transaction.timestamp)
  let payedBySplit := (transaction.payedBy.filter fun p => p.amount > 0).length > 1
  let payedBy ← (if payedBySplit then AbstractPayedBy.manyFromPayedBy transaction.payedBy members
    else AbstractPayedBy.oneFromPayedBy transaction.payedBy members)
  let payedForSplit := (transaction.payedFor.map PayedFor.amount).dedup.length > 1
  let payedFor ← (if payedForSplit then AbstractPayedFor.customFromPayedFor transaction.payedFor members
    else AbstractPayedFor.evenFromPayedFor transaction.payedFor members)
  pure {
    replaces := transaction.uuid
    members := members
    state := .create transaction.label date (some transaction.amount.toNat) payedBy payedFor
      (!transaction.uuid.isEmpty) }

def handle (event : EditorEvent) (bloc : TransactionBloc) : TransactionBloc :=
  match event.transform bloc.members bloc.state.clone with
  | some state => { bloc with state := state }
  | none => bloc

/-- The transaction of the `TransactionSaveState`, if there is one. -/
def saveTransaction (bloc : TransactionBloc) (shuffle : Shuffle) (uuid : TransactionId) : Option Transaction :=
  let state := bloc.state
  if state.label.error ≠ none ∨ state.payedBy.error ≠ none ∨ state.payedFor.error ≠ none then none
  else do
    let amount ← uint32Field state.amount
    let payedBy ← state.payedBy.value.asPayedBy state.amount
    let payedFor ← state.payedFor.value.asPayedFor shuffle state.amount
    pure {
      uuid := uuid
      parent := []
      amount := amount
      payedBy := payedBy
      payedFor := payedFor
      label := state.label.value
      timestamp := timestampFromDate state.date
      deleted := false
      replaces := bloc.replaces }

end TransactionBloc

end Flouze
