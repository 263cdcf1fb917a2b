import Flouze.Mobile.TransactionsBloc

namespace Flouze

/-- Transactions, the newest first. What one of them replaces is older or is not among them. -/
structure History (transactions : List Transaction) : Prop where
  distinct : (transactions.map Transaction.uuid).Nodup
  nonempty : ∀ tx ∈ transactions, tx.uuid ≠ []
  older : ∀ newer tx older, transactions = newer ++ tx :: older →
    tx.replaces = [] ∨ tx.replaces ∈ older.map Transaction.uuid ∨ tx.replaces ∉ transactions.map Transaction.uuid

structure Continuation (transactions : List Transaction) (tx : Transaction) : Prop where
  fresh : tx.uuid ∉ transactions.map Transaction.uuid
  known : tx.replaces = [] ∨ tx.replaces ∈ transactions.map Transaction.uuid

def Stands (transactions : List Transaction) (tx : Transaction) : Prop :=
  tx.deleted = false ∧
    ∀ newer older, transactions = newer ++ tx :: older → ∀ other ∈ newer, other.replaces ≠ tx.uuid

def NewestFirst (transactions : List Transaction) : Prop :=
  transactions.Pairwise fun tx1 tx2 => tx2.timestamp.toInt64 ≤ tx1.timestamp.toInt64

section Histories

variable {transactions screen : List Transaction} {tx : Transaction} {sorting : Sorting}

theorem History.tail (history : History (tx :: transactions)) : History transactions := by
  refine ⟨history.distinct.of_cons, fun other member => history.nonempty other (by simp [member]), ?_⟩
  intro newer other older split
  rcases history.older (tx :: newer) other older (by rw [split]; rfl) with empty | earlier | unknown
  · exact .inl empty
  · exact .inr (.inl earlier)
  · exact .inr (.inr fun member => unknown (by simp [member]))

theorem History.backward (history : History transactions) : Backward transactions := by
  induction transactions with
  | nil => exact True.intro
  | cons tx transactions ih =>
    have distinct := List.nodup_cons.mp history.distinct
    refine ⟨?_, ih history.tail⟩
    intro member
    rcases List.mem_map.mp member with ⟨other, inside, replaced⟩
    rcases List.append_of_mem inside with ⟨newer, older, split⟩
    have behind : ∀ id ∈ older.map Transaction.uuid, id ∈ transactions.map Transaction.uuid := by
      intro id among
      cases newer with
      | nil =>
        rw [(List.cons.inj split).2]
        exact among
      | cons first newer =>
        have rest : transactions = newer ++ other :: older := (List.cons.inj split).2
        rw [rest, List.map_append, List.map_cons]
        exact List.mem_append_right _ (List.mem_cons_of_mem _ among)
    rcases history.older newer other older split with empty | earlier | unknown
    · exact history.nonempty tx (by simp) (replaced ▸ empty)
    · exact distinct.1 (behind _ (replaced ▸ earlier))
    · exact unknown (by simp [replaced])

theorem Backward.drop {newer older : List Transaction} (backward : Backward (newer ++ older)) : Backward older := by
  induction newer with
  | nil => exact backward
  | cons first newer ih => exact ih backward.2

theorem backward_apart (apart : ∀ tx ∈ transactions, tx.uuid ∉ transactions.map Transaction.replaces) :
    Backward transactions := by
  induction transactions with
  | nil => exact True.intro
  | cons tx transactions ih =>
    refine ⟨apart tx (by simp), ih ?_⟩
    intro other member replaced
    exact apart other (List.mem_cons_of_mem _ member) (List.mem_cons_of_mem _ replaced)

theorem stands_iff_shown (backward : Backward transactions) (member : tx ∈ transactions) :
    Stands transactions tx ↔ Shown transactions tx := by
  constructor
  · intro stands
    refine ⟨stands.1, ?_⟩
    intro replaced
    rcases List.mem_map.mp replaced with ⟨other, inside, names⟩
    rcases List.append_of_mem member with ⟨newer, older, rfl⟩
    rcases List.mem_append.mp inside with before | after
    · exact stands.2 newer older rfl other before names
    · exact backward.drop.1 (List.mem_map.mpr ⟨other, after, names⟩)
  · intro shown
    refine ⟨shown.1, ?_⟩
    intro newer older split other inside names
    refine shown.2 (List.mem_map.mpr ⟨other, ?_, names⟩)
    rw [split]
    exact List.mem_append_left _ inside

theorem whereShown_cons (apart : tx.replaces = [] ∨ tx.replaces ≠ tx.uuid) (backward : Backward transactions)
    (nonempty : ∀ other ∈ transactions, other.uuid ≠ []) :
    whereShown ∅ (tx :: transactions) = (if tx.deleted then [] else [tx]) ++
      (transactions.filter fun other => Shown transactions other).filter fun other => tx.replaces ≠ other.uuid := by
  have self : tx.uuid ∉ (if tx.replaces.isEmpty then ∅ else insert tx.replaces (∅ : Finset TransactionId)) := by
    cases empty : tx.replaces with
    | nil => simp
    | cons byte rest =>
      rw [empty] at apart
      simp only [List.isEmpty_cons, Bool.false_eq_true, if_false, insert_empty_eq, Finset.mem_singleton]
      exact fun same => apart.elim (fun null => by cases null) fun other => other same.symm
  have rest : whereShown (if tx.replaces.isEmpty then ∅ else insert tx.replaces ∅) transactions =
      (transactions.filter fun other => Shown transactions other).filter fun other => tx.replaces ≠ other.uuid := by
    rw [whereShown_filter backward nonempty, List.filter_filter]
    apply List.filter_congr
    intro other member
    have nonnull := nonempty other member
    cases empty : tx.replaces with
    | nil => simp [Ne.symm nonnull]
    | cons byte rest => simp [eq_comm]
  simp only [whereShown, self, false_or, rest]
  cases tx.deleted with
  | true => rfl
  | false => rfl

/-- One more transaction on top of what is shown is shown as on top of the whole history. -/
theorem whereShown_perm (apart : tx.replaces = [] ∨ tx.replaces ≠ tx.uuid) (backward : Backward transactions)
    (nonempty : ∀ other ∈ transactions, other.uuid ≠ []) (shown : screen.Perm (whereShown ∅ transactions)) :
    (whereShown ∅ (tx :: screen)).Perm (whereShown ∅ (tx :: transactions)) := by
  have all : screen.Perm (transactions.filter fun other => Shown transactions other) := by
    rw [whereShown_filter backward nonempty] at shown
    simpa using shown
  have inside : ∀ other ∈ screen, other ∈ transactions ∧ Shown transactions other := by
    intro other member
    simpa using all.mem_iff.mp member
  have free : ∀ other ∈ screen, other.uuid ∉ screen.map Transaction.replaces := by
    intro other member replaced
    rcases List.mem_map.mp replaced with ⟨newer, among, names⟩
    exact (inside other member).2.2 (List.mem_map.mpr ⟨newer, (inside newer among).1, names⟩)
  have stays : (screen.filter fun other => Shown screen other) = screen := by
    rw [List.filter_eq_self]
    intro other member
    exact decide_eq_true ⟨(inside other member).2.1, free other member⟩
  rw [whereShown_cons apart (backward_apart free) fun other member => nonempty other (inside other member).1,
    whereShown_cons apart backward nonempty, stays]
  exact (all.filter _).append_left _

theorem stands_newest (fresh : tx ∉ transactions) : Stands (tx :: transactions) tx ↔ tx.deleted = false := by
  constructor
  · intro stands
    exact stands.1
  · intro kept
    refine ⟨kept, ?_⟩
    intro newer older split other inside
    cases newer with
    | nil => cases inside
    | cons first newer =>
      have rest : transactions = newer ++ tx :: older := (List.cons.inj split).2
      exact absurd (by rw [rest]; simp) fresh

theorem stands_older {other : Transaction} (apart : other ≠ tx) (member : other ∈ transactions) :
    Stands (tx :: transactions) other ↔ tx.replaces ≠ other.uuid ∧ Stands transactions other := by
  constructor
  · intro stands
    refine ⟨?_, stands.1, ?_⟩
    · rcases List.append_of_mem member with ⟨newer, older, split⟩
      exact stands.2 (tx :: newer) older (by rw [split]; rfl) tx (by simp)
    · intro newer older split last inside
      exact stands.2 (tx :: newer) older (by rw [split]; rfl) last (List.mem_cons_of_mem _ inside)
  · intro both
    refine ⟨both.2.1, ?_⟩
    intro newer older split last inside
    cases newer with
    | nil => cases inside
    | cons first newer =>
      rcases List.cons.inj split with ⟨rfl, rest⟩
      rcases List.mem_cons.mp inside with rfl | before
      · exact both.1
      · exact both.2.2 newer older rest last before

theorem mem_flattenHistory : tx ∈ flattenHistory sorting transactions ↔ tx ∈ whereShown ∅ transactions :=
  (sorting.perm _).mem_iff

theorem shown_iff (history : History transactions) :
    tx ∈ flattenHistory sorting transactions ↔ tx ∈ transactions ∧ Stands transactions tx := by
  rw [mem_flattenHistory, whereShown_filter history.backward history.nonempty, List.mem_filter]
  constructor
  · intro both
    have shown : Shown transactions tx := by simpa using both.2
    exact ⟨both.1, (stands_iff_shown history.backward both.1).mpr shown⟩
  · intro both
    exact ⟨both.1, by simpa using (stands_iff_shown history.backward both.1).mp both.2⟩

/-- What the page shows right after a transaction is saved is what it shows after a full reload. -/
theorem optimistic_history (sorting : Sorting) (history : History transactions)
    (continues : Continuation transactions tx) :
    (flattenHistory sorting (tx :: flattenHistory sorting transactions)).Perm
      (flattenHistory sorting (tx :: transactions)) ∧
    NewestFirst (flattenHistory sorting (tx :: flattenHistory sorting transactions)) ∧
    NewestFirst (flattenHistory sorting (tx :: transactions)) ∧
    (∀ other, other ∈ flattenHistory sorting transactions ↔ other ∈ transactions ∧ Stands transactions other) ∧
    ∀ other, other ∈ flattenHistory sorting (tx :: transactions) ↔
      other ∈ tx :: transactions ∧ Stands (tx :: transactions) other := by
  have apart : tx.replaces = [] ∨ tx.replaces ≠ tx.uuid := by
    rcases continues.known with empty | known
    · exact .inl empty
    · exact .inr fun same => continues.fresh (same ▸ known)
  have absent : tx ∉ transactions := fun member => continues.fresh (List.mem_map_of_mem member)
  have same := whereShown_perm apart history.backward history.nonempty (sorting.perm (whereShown ∅ transactions))
  refine ⟨((sorting.perm _).trans same).trans (sorting.perm _).symm, sorting.sorted _, sorting.sorted _,
    fun _ => shown_iff history, ?_⟩
  intro other
  rw [mem_flattenHistory, whereShown_cons apart history.backward history.nonempty, List.mem_append, List.mem_cons]
  by_cases newest : other = tx
  · subst newest
    rw [stands_newest absent]
    cases other.deleted with
    | true => simp [absent]
    | false => simp
  · have none : other ∉ if tx.deleted then [] else [tx] := by
      intro member
      cases deleted : tx.deleted with
      | true => simp [deleted] at member
      | false => exact newest (by simpa [deleted] using member)
    simp only [none, newest, false_or, List.mem_filter, decide_eq_true_eq, and_assoc]
    constructor
    · intro all
      exact ⟨all.1, (stands_older newest all.1).mpr
        ⟨all.2.2, (stands_iff_shown history.backward all.1).mpr all.2.1⟩⟩
    · intro all
      have stands := (stands_older newest all.1).mp all.2
      exact ⟨all.1, (stands_iff_shown history.backward all.1).mp stands.2, stands.1⟩

def shownAfter (sorting : Sorting) (loaded : List Transaction) : List Transaction → List Transaction
  | [] => flattenHistory sorting loaded
  | tx :: saved => flattenHistory sorting (tx :: shownAfter sorting loaded saved)

theorem shownAfter_perm (sorting : Sorting) {saved : List Transaction} (history : History (saved ++ transactions)) :
    (shownAfter sorting transactions saved).Perm (flattenHistory sorting (saved ++ transactions)) := by
  induction saved with
  | nil => exact List.Perm.refl _
  | cons tx saved ih =>
    have older : History (saved ++ transactions) := history.tail
    have apart : tx.replaces ≠ tx.uuid := fun same => history.backward.1 (by simp [same])
    have shown := (ih older).trans (sorting.perm _)
    exact ((sorting.perm _).trans (whereShown_perm (.inr apart) older.backward older.nonempty shown)).trans
      (sorting.perm _).symm

end Histories

section Edited

def dinner : Transaction := { lunch with uuid := [1], parent := [0], timestamp := 5 }

def dated : Transaction := { lunch with uuid := [2], parent := [1], replaces := [0], timestamp := 3 }

theorem history_two : History [dinner, lunch] := by
  refine ⟨by decide, by decide, ?_⟩
  intro newer tx older split
  have empty : ∀ other ∈ [dinner, lunch], other.replaces = [] := by decide
  exact .inl (empty tx (by rw [split]; simp))

theorem optimistic_history_dated :
    flattenHistory .insertion (dated :: flattenHistory .insertion [dinner, lunch]) = [dinner, dated] ∧
    (flattenHistory .insertion (dated :: flattenHistory .insertion [dinner, lunch])).Perm
      (flattenHistory .insertion [dated, dinner, lunch]) :=
  ⟨by decide, (optimistic_history .insertion history_two ⟨by decide, by decide⟩).1⟩

end Edited

end Flouze
