import Flouze.Lib.LinkedMap
import Flouze.Lib.Machine
import Flouze.Remote

namespace Flouze

/-- The members by the number of their field on the page. Number 0 is the owner. -/
structure AddAccountState where
  name : String
  members : LinkedMap Nat String

namespace AddAccountState

def isNameValid (state : AddAccountState) : Bool := !state.name.isEmpty

def initial : AddAccountState := ⟨"", LinkedMap.empty.set 0 ""⟩

end AddAccountState

structure AddAccountBloc where
  account : AddAccountState
  memberIdx : Nat

namespace AddAccountBloc

def initial : AddAccountBloc := ⟨.initial, 1⟩

def setName (name : String) (bloc : AddAccountBloc) : AddAccountBloc :=
  { bloc with account := ⟨name, bloc.account.members⟩ }

def addMember (bloc : AddAccountBloc) : AddAccountBloc :=
  ⟨⟨bloc.account.name, bloc.account.members.set bloc.memberIdx ""⟩, bloc.memberIdx + 1⟩

def removeMember (idx : Nat) (bloc : AddAccountBloc) : AddAccountBloc :=
  { bloc with account := ⟨bloc.account.name, bloc.account.members.remove idx⟩ }

def setMemberName (idx : Nat) (name : String) (bloc : AddAccountBloc) : AddAccountBloc :=
  { bloc with account := ⟨bloc.account.name, bloc.account.members.set idx name⟩ }

/-- The assertion that the state is valid is not checked in a release build. -/
def makeAccount (generateUuid : Nat → List UInt8) (bloc : AddAccountBloc) : Account where
  uuid := generateUuid 0
  label := bloc.account.name
  latestTransaction := []
  latestSynchronizedTransaction := []
  members := bloc.account.members.values.mapIdx fun i name => ⟨generateUuid (i + 1), name⟩

end AddAccountBloc

/-- The page with the texts of its fields. The form always shows the state that was emitted last. -/
structure AddAccountPage where
  bloc : AddAccountBloc
  nameController : String
  membersController : LinkedMap Nat String

inductive AddAccountEvent where
  | typeName (text : String)
  | typeMember (idx : Nat) (text : String)
  | pressAdd
  | pressRemove (idx : Nat)

namespace AddAccountPage

def initial : AddAccountPage := ⟨.initial, "", LinkedMap.empty.set 0 ""⟩

def memberFields (page : AddAccountPage) : List Nat := 0 :: page.bloc.account.members.keys.filter (· ≠ 0)

def text (page : AddAccountPage) (idx : Nat) : Option String := page.membersController.get? idx

/-- Building the page adds the controllers that are missing. -/
def build (page : AddAccountPage) : AddAccountPage :=
  let missing := (page.bloc.account.members.keys.filter (· ≠ 0)).filter (· ∉ page.membersController.keys)
  { page with
    membersController := missing.foldl (fun controllers idx => controllers.set idx "") page.membersController }

/-- A listener of each controller tells the bloc what was typed. -/
def step : AddAccountEvent → AddAccountPage → AddAccountPage
  | .typeName text, page => build { page with bloc := page.bloc.setName text, nameController := text }
  | .typeMember idx text, page =>
    if idx ∈ page.memberFields then
      build { page with
        bloc := page.bloc.setMemberName idx text
        membersController := page.membersController.set idx text }
    else page
  | .pressAdd, page => build { page with bloc := page.bloc.addMember }
  | .pressRemove idx, page =>
    -- the owner's field has no button
    if idx ∈ page.memberFields ∧ idx ≠ 0 then
      build { page with
        bloc := page.bloc.removeMember idx
        membersController := page.membersController.remove idx }
    else page

def validate (page : AddAccountPage) : Bool :=
  page.bloc.account.isNameValid && page.memberFields.all fun idx => (page.text idx).any fun text => !text.isEmpty

structure Mirrored (page : AddAccountPage) : Prop where
  name : page.nameController = page.bloc.account.name
  texts : ∀ idx, page.text idx = page.bloc.account.members.get? idx
  owner : page.bloc.account.members.keys.head? = some 0
  below : ∀ idx ∈ page.bloc.account.members.keys, idx < page.bloc.memberIdx

section Fields

variable {page : AddAccountPage}

theorem Mirrored.memberFields (mirrored : page.Mirrored) : page.memberFields = page.bloc.account.members.keys := by
  have distinct : page.bloc.account.members.keys.Nodup := page.bloc.account.members.distinct
  have owner := mirrored.owner
  rw [AddAccountPage.memberFields]
  cases keys : page.bloc.account.members.keys with
  | nil => simp [keys] at owner
  | cons first rest =>
    rw [keys] at owner distinct
    obtain rfl : first = 0 := by simpa using owner
    have others : ∀ idx ∈ rest, idx ≠ 0 := fun idx member same =>
      (List.nodup_cons.mp distinct).1 (same ▸ member)
    have kept : rest.filter (· ≠ 0) = rest :=
      List.filter_eq_self.mpr fun idx member => decide_eq_true (others idx member)
    rw [List.filter_cons_of_neg (by simp), kept]

theorem text_build (idx : Nat) :
    page.build.text idx =
      if (idx ∈ page.bloc.account.members.keys ∧ idx ≠ 0) ∧ page.text idx = none then some ""
      else page.text idx := by
  simp only [text, build, LinkedMap.get?_foldl_set, List.mem_filter, decide_eq_true_eq, LinkedMap.get?_eq_none_iff]

theorem Mirrored.of_build (name : page.nameController = page.bloc.account.name)
    (texts : ∀ idx, page.text idx = page.bloc.account.members.get? idx ∨
      idx ≠ 0 ∧ page.text idx = none ∧ page.bloc.account.members.get? idx = some "")
    (owner : page.bloc.account.members.keys.head? = some 0)
    (below : ∀ idx ∈ page.bloc.account.members.keys, idx < page.bloc.memberIdx) : page.build.Mirrored := by
  refine ⟨name, ?_, owner, below⟩
  intro idx
  show page.build.text idx = page.bloc.account.members.get? idx
  rw [text_build]
  rcases texts idx with same | ⟨other, absent, empty⟩
  · rw [same, if_neg]
    rintro ⟨⟨member, _⟩, absent⟩
    exact LinkedMap.get?_eq_none_iff.mp absent member
  · have member : idx ∈ page.bloc.account.members.keys := LinkedMap.mem_keys_iff.mpr ⟨"", empty⟩
    rw [if_pos ⟨⟨member, other⟩, absent⟩, empty]

theorem initial_mirrored : initial.Mirrored := by
  refine ⟨rfl, fun idx => rfl, by decide, ?_⟩
  intro idx member
  obtain rfl : idx = 0 := by simpa [initial, AddAccountBloc.initial, AddAccountState.initial, LinkedMap.keys,
    LinkedMap.set, LinkedMap.empty, LinkedMap.replace] using member
  decide

theorem Mirrored.typeName (mirrored : page.Mirrored) (text : String) : (step (.typeName text) page).Mirrored :=
  .of_build rfl (fun idx => .inl (mirrored.texts idx)) mirrored.owner mirrored.below

theorem Mirrored.typeMember (mirrored : page.Mirrored) (idx : Nat) (text : String) :
    (step (.typeMember idx text) page).Mirrored := by
  rw [step]
  split
  · next shown =>
    rw [mirrored.memberFields] at shown
    have same : (page.bloc.account.members.set idx text).keys = page.bloc.account.members.keys :=
      LinkedMap.keys_set shown
    refine .of_build mirrored.name (fun other => .inl ?_) ?_ ?_
    · show (page.membersController.set idx text).get? other = (page.bloc.account.members.set idx text).get? other
      rw [LinkedMap.get?_set, LinkedMap.get?_set, ← mirrored.texts other, AddAccountPage.text]
    · show (page.bloc.account.members.set idx text).keys.head? = some 0
      rw [same]
      exact mirrored.owner
    · show ∀ other ∈ (page.bloc.account.members.set idx text).keys, other < page.bloc.memberIdx
      rw [same]
      exact mirrored.below
  · exact mirrored

theorem Mirrored.pressAdd (mirrored : page.Mirrored) : (step .pressAdd page).Mirrored := by
  have fresh : page.bloc.memberIdx ∉ page.bloc.account.members.keys :=
    fun member => Nat.lt_irrefl _ (mirrored.below _ member)
  have first : 0 ∈ page.bloc.account.members.keys := List.mem_of_mem_head? mirrored.owner
  have keys : (page.bloc.account.members.set page.bloc.memberIdx "").keys =
      page.bloc.account.members.keys ++ [page.bloc.memberIdx] := LinkedMap.keys_set_fresh fresh
  refine .of_build mirrored.name ?_ ?_ ?_
  · intro idx
    show page.text idx = (page.bloc.account.members.set page.bloc.memberIdx "").get? idx ∨
      idx ≠ 0 ∧ page.text idx = none ∧ (page.bloc.account.members.set page.bloc.memberIdx "").get? idx = some ""
    rw [LinkedMap.get?_set]
    by_cases new : idx = page.bloc.memberIdx
    · rw [if_pos new, mirrored.texts, new]
      exact .inr ⟨fun zero => fresh (zero ▸ first), LinkedMap.get?_eq_none_iff.mpr fresh, rfl⟩
    · rw [if_neg new]
      exact .inl (mirrored.texts idx)
  · show (page.bloc.account.members.set page.bloc.memberIdx "").keys.head? = some 0
    rw [keys, List.head?_append, mirrored.owner]
    rfl
  · show ∀ idx ∈ (page.bloc.account.members.set page.bloc.memberIdx "").keys, idx < page.bloc.memberIdx + 1
    intro idx member
    rw [keys, List.mem_append, List.mem_singleton] at member
    rcases member with before | rfl
    · exact Nat.lt_succ_of_lt (mirrored.below idx before)
    · exact Nat.lt_succ_self _

theorem Mirrored.pressRemove (mirrored : page.Mirrored) (idx : Nat) : (step (.pressRemove idx) page).Mirrored := by
  rw [step]
  split
  · next pressed =>
    refine .of_build mirrored.name (fun other => .inl ?_) ?_ ?_
    · show (page.membersController.remove idx).get? other = (page.bloc.account.members.remove idx).get? other
      rw [LinkedMap.get?_remove, LinkedMap.get?_remove, ← mirrored.texts other, AddAccountPage.text]
    · show (page.bloc.account.members.remove idx).keys.head? = some 0
      rw [LinkedMap.keys_remove]
      rcases List.head?_eq_some_iff.mp mirrored.owner with ⟨others, keys⟩
      rw [keys, List.filter_cons_of_pos (by simpa using Ne.symm pressed.2)]
      rfl
    · intro other member
      exact mirrored.below other (LinkedMap.mem_keys_remove member)
  · exact mirrored

theorem Mirrored.after_step (mirrored : page.Mirrored) (event : AddAccountEvent) : (step event page).Mirrored := by
  cases event with
  | typeName text => exact mirrored.typeName text
  | typeMember idx text => exact mirrored.typeMember idx text
  | pressAdd => exact mirrored.pressAdd
  | pressRemove idx => exact mirrored.pressRemove idx

theorem after_mirrored (events : List AddAccountEvent) : (Machine.after step events initial).Mirrored :=
  List.foldlRecOn events _ initial_mirrored fun _ mirrored event _ => mirrored.after_step event

end Fields

section Made

variable {page : AddAccountPage} {generateUuid : Nat → List UInt8}

theorem validatePerson_iff {person : Person} :
    validatePerson person = .ok () ↔ person.uuid.length = 16 ∧ person.name.isEmpty = false := by
  by_cases sixteen : person.uuid.length = 16
  · cases empty : person.name.isEmpty with
    | true => simp [validatePerson, sixteen, empty, throw, throwThe, MonadExceptOf.throw]
    | false => simp [validatePerson, sixteen, empty, pure, Except.pure]
  · simp [validatePerson, sixteen, throw, throwThe, MonadExceptOf.throw, bind, Except.bind]

theorem validatePersons_iff {members : List Person} :
    members.forM validatePerson = .ok () ↔ ∀ person ∈ members, validatePerson person = .ok () := by
  induction members with
  | nil => simp [pure, Except.pure]
  | cons person members ih =>
    have unfolded : (person :: members).forM validatePerson =
        (validatePerson person >>= fun _ => members.forM validatePerson) := rfl
    rw [unfolded, List.forall_mem_cons, ← ih]
    cases first : validatePerson person with
    | ok value => simp [bind, Except.bind]
    | error text => simp [bind, Except.bind]

theorem validateAccount_iff {account : Account} :
    validateAccount account = .ok () ↔ account.uuid.length = 16 ∧ account.label.isEmpty = false ∧
      account.members.isEmpty = false ∧ ∀ person ∈ account.members, validatePerson person = .ok () := by
  rw [← validatePersons_iff]
  by_cases sixteen : account.uuid.length = 16
  · cases label : account.label.isEmpty with
    | true => simp [validateAccount, sixteen, label, throw, throwThe, MonadExceptOf.throw, bind, Except.bind]
    | false =>
      cases nobody : account.members.isEmpty with
      | true => simp [validateAccount, sixteen, label, nobody, throw, throwThe, MonadExceptOf.throw, bind, Except.bind]
      | false => simp [validateAccount, sixteen, label, nobody]
  · simp [validateAccount, sixteen, throw, throwThe, MonadExceptOf.throw, bind, Except.bind]

theorem Mirrored.names (mirrored : page.Mirrored) :
    (page.bloc.makeAccount generateUuid).members.map (fun person => some person.name) =
      page.memberFields.map page.text := by
  have named : (page.bloc.makeAccount generateUuid).members.map Person.name = page.bloc.account.members.values := by
    apply List.ext_getElem?
    intro i
    simp [AddAccountBloc.makeAccount, Function.comp_def]
  have texts : page.memberFields.map page.text = page.bloc.account.members.keys.map page.bloc.account.members.get? := by
    rw [mirrored.memberFields]
    exact List.map_congr_left fun idx _ => mirrored.texts idx
  rw [texts, LinkedMap.values_eq, ← named, List.map_map]
  rfl

theorem Mirrored.some_member (mirrored : page.Mirrored) :
    (page.bloc.makeAccount generateUuid).members.isEmpty = false := by
  have names : (page.bloc.makeAccount generateUuid).members.map (fun person => some person.name) =
      page.memberFields.map page.text := mirrored.names
  rw [Bool.eq_false_iff]
  intro nobody
  rw [List.isEmpty_iff.mp nobody] at names
  cases names

/-- Whatever is done on the page, the form lets through exactly what servers accept, and what it lets
    through is what it shows, the owner first. -/
theorem account_as_shown (generateUuid : Nat → List UInt8) (sixteen : ∀ n, (generateUuid n).length = 16)
    (events : List AddAccountEvent) :
    let page := Machine.after step events initial
    let account := page.bloc.makeAccount generateUuid
    (page.validate = true ↔ validateAccount account = .ok ()) ∧ account.label = page.nameController ∧
      account.members.map (fun person => some person.name) = page.memberFields.map page.text := by
  intro page account
  have mirrored : page.Mirrored := after_mirrored events
  have names : account.members.map (fun person => some person.name) = page.memberFields.map page.text :=
    mirrored.names
  refine ⟨?_, mirrored.name.symm, names⟩
  have drawn : ∀ person ∈ account.members, person.uuid.length = 16 := by
    intro person member
    rcases List.mem_mapIdx.mp member with ⟨i, inside, rfl⟩
    exact sixteen _
  have filled : (∀ person ∈ account.members, validatePerson person = .ok ()) ↔
      ∀ idx ∈ page.memberFields, (page.text idx).any (fun text => !text.isEmpty) = true := by
    have each : (∀ name ∈ account.members.map (fun person => some person.name),
        name.any (fun text => !text.isEmpty) = true) ↔
        ∀ name ∈ page.memberFields.map page.text, name.any (fun text => !text.isEmpty) = true := by
      rw [names]
    rw [List.forall_mem_map, List.forall_mem_map] at each
    rw [← each]
    apply forall₂_congr
    intro person member
    rw [validatePerson_iff, and_iff_right (drawn person member)]
    simp
  have somebody : account.members.isEmpty = false := mirrored.some_member
  have uuid : account.uuid.length = 16 := sixteen 0
  rw [validateAccount_iff, filled, and_iff_right uuid, and_iff_right somebody, validate, Bool.and_eq_true,
    List.all_eq_true]
  refine and_congr ?_ Iff.rfl
  rw [AddAccountState.isNameValid, Bool.not_eq_true']
  exact Iff.rfl

theorem account_as_shown_trip :
    let page := Machine.after step
      [.typeName "Trip", .typeMember 0 "Ann", .pressAdd, .pressAdd, .pressRemove 1, .typeMember 2 "Bob"] initial
    page.validate = true ∧
      validateAccount (page.bloc.makeAccount fun n => List.replicate 16 (UInt8.ofNat n)) = .ok () := by
  intro page
  have validates : page.validate = true := by decide
  exact ⟨validates, (account_as_shown (fun n => List.replicate 16 (UInt8.ofNat n)) (fun _ => rfl) _).1.mp validates⟩

end Made

end AddAccountPage

end Flouze
