import Mathlib.Data.List.Nodup

/-- A map that keeps its keys in the order in which they came in. -/
structure LinkedMap (K V : Type*) where
  entries : List (K × V)
  distinct : (entries.map Prod.fst).Nodup

abbrev LinkedSet (K : Type*) := LinkedMap K Unit

namespace LinkedMap

variable {K V : Type*}

def empty : LinkedMap K V := ⟨[], List.nodup_nil⟩

def keys (map : LinkedMap K V) : List K := map.entries.map Prod.fst

def values (map : LinkedMap K V) : List V := map.entries.map Prod.snd

theorem ext {first second : LinkedMap K V} (same : first.entries = second.entries) : first = second := by
  cases first
  cases second
  cases same
  rfl

instance [DecidableEq K] [DecidableEq V] : DecidableEq (LinkedMap K V) := fun first second =>
  decidable_of_iff (first.entries = second.entries) ⟨ext, fun same => same ▸ rfl⟩

variable [DecidableEq K]

def replace (key : K) (value : V) : List (K × V) → List (K × V)
  | [] => [(key, value)]
  | (k, v) :: entries => if k = key then (key, value) :: entries else (k, v) :: replace key value entries

theorem mem_keys_replace {key k : K} {value : V} {entries : List (K × V)} :
    k ∈ (replace key value entries).map Prod.fst ↔ k = key ∨ k ∈ entries.map Prod.fst := by
  induction entries with
  | nil => simp [replace]
  | cons entry entries ih =>
    rcases entry with ⟨k', v'⟩
    by_cases same : k' = key
    · subst same
      simp [replace]
    · simp only [replace, if_neg same, List.map_cons, List.mem_cons, ih]
      exact or_left_comm

theorem nodup_replace (key : K) (value : V) {entries : List (K × V)} (distinct : (entries.map Prod.fst).Nodup) :
    ((replace key value entries).map Prod.fst).Nodup := by
  induction entries with
  | nil => simp [replace]
  | cons entry entries ih =>
    rcases entry with ⟨k, v⟩
    rcases List.nodup_cons.mp distinct with ⟨fresh, rest⟩
    by_cases same : k = key
    · subst same
      simp only [replace, if_true]
      exact distinct
    · simp only [replace, if_neg same, List.map_cons]
      refine List.nodup_cons.mpr ⟨?_, ih rest⟩
      intro again
      rcases mem_keys_replace.mp again with here | later
      · exact same here
      · exact fresh later

def set (map : LinkedMap K V) (key : K) (value : V) : LinkedMap K V :=
  ⟨replace key value map.entries, nodup_replace key value map.distinct⟩

def remove (map : LinkedMap K V) (key : K) : LinkedMap K V :=
  ⟨map.entries.filter fun entry => entry.1 ≠ key, map.distinct.sublist (List.filter_sublist.map Prod.fst)⟩

def ofEntries (entries : List (K × V)) : LinkedMap K V :=
  entries.foldl (fun map entry => map.set entry.1 entry.2) empty

def ofList (keys : List K) : LinkedSet K := ofEntries (keys.map fun key => (key, ()))

variable {map : LinkedMap K V} {key k : K} {value : V} {entries : List (K × V)}

theorem mem_keys_set : k ∈ (map.set key value).keys ↔ k = key ∨ k ∈ map.keys := mem_keys_replace

theorem mem_keys_remove (member : k ∈ (map.remove key).keys) : k ∈ map.keys := by
  rcases List.mem_map.mp member with ⟨entry, among, rfl⟩
  exact List.mem_map_of_mem (List.mem_of_mem_filter among)

theorem replace_fresh (fresh : key ∉ entries.map Prod.fst) :
    replace key value entries = entries ++ [(key, value)] := by
  induction entries with
  | nil => rfl
  | cons entry entries ih =>
    rcases entry with ⟨k, v⟩
    rw [List.map_cons, List.mem_cons, not_or] at fresh
    rw [replace, if_neg (Ne.symm fresh.1), ih fresh.2]
    rfl

theorem entries_foldl_set (fresh : (map.keys ++ entries.map Prod.fst).Nodup) :
    (entries.foldl (fun map entry => map.set entry.1 entry.2) map).entries = map.entries ++ entries := by
  induction entries generalizing map with
  | nil => simp
  | cons entry entries ih =>
    have apart := List.nodup_append.mp fresh
    have absent : entry.1 ∉ map.keys := fun member => apart.2.2 _ member entry.1 (by simp) rfl
    have appended : (map.set entry.1 entry.2).entries = map.entries ++ [entry] := replace_fresh absent
    have next : ((map.set entry.1 entry.2).keys ++ entries.map Prod.fst).Nodup := by
      rw [keys, appended]
      simpa [keys] using fresh
    rw [List.foldl_cons, ih next, appended, List.append_assoc]
    rfl

theorem entries_ofEntries (distinct : (entries.map Prod.fst).Nodup) : (ofEntries entries).entries = entries :=
  entries_foldl_set (show ((empty : LinkedMap K V).keys ++ entries.map Prod.fst).Nodup from distinct)

theorem mem_keys_foldl_set :
    k ∈ (entries.foldl (fun map entry => map.set entry.1 entry.2) map).keys ↔
      k ∈ map.keys ∨ k ∈ entries.map Prod.fst := by
  induction entries generalizing map with
  | nil => simp
  | cons entry entries ih =>
    rw [List.foldl_cons, ih, mem_keys_set, List.map_cons, List.mem_cons]
    constructor
    · intro given
      rcases given with (here | before) | later
      · exact .inr (.inl here)
      · exact .inl before
      · exact .inr (.inr later)
    · intro given
      rcases given with before | here | later
      · exact .inl (.inr before)
      · exact .inl (.inl here)
      · exact .inr later

theorem mem_keys_ofEntries : k ∈ (ofEntries entries).keys ↔ k ∈ entries.map Prod.fst :=
  mem_keys_foldl_set.trans (by simp [empty, keys])

theorem keys_ofList {keys : List K} (distinct : keys.Nodup) : (ofList keys).keys = keys := by
  have same : (keys.map fun key => (key, ())).map Prod.fst = keys := by simp [Function.comp_def]
  rw [ofList, LinkedMap.keys, entries_ofEntries (by rw [same]; exact distinct), same]

theorem mem_ofList {keys : List K} : k ∈ (ofList keys).keys ↔ k ∈ keys := by
  rw [ofList, mem_keys_ofEntries]
  simp

section Lookup

def get? (map : LinkedMap K V) (key : K) : Option V := (map.entries.find? fun entry => entry.1 = key).map Prod.snd

theorem get?_of_mem {entry : K × V} (member : entry ∈ map.entries) : map.get? entry.1 = some entry.2 := by
  have found : map.entries.find? (fun other => other.1 = entry.1) = some entry := by
    rcases List.append_of_mem member with ⟨before, after, split⟩
    have distinct := map.distinct
    rw [split, List.map_append, List.map_cons, List.nodup_append] at distinct
    refine List.find?_eq_some_iff_append.mpr ⟨by simp, before, after, split, ?_⟩
    intro other earlier
    have differ := distinct.2.2 other.1 (List.mem_map_of_mem earlier) entry.1 (by simp)
    simp [differ]
  rw [get?, found]
  rfl

theorem get?_eq_none_iff : map.get? key = none ↔ key ∉ map.keys := by
  rw [get?, Option.map_eq_none_iff, List.find?_eq_none]
  constructor
  · intro absent member
    rcases List.mem_map.mp member with ⟨entry, among, rfl⟩
    exact absent entry among (by simp)
  · intro fresh entry among same
    exact fresh (of_decide_eq_true same ▸ List.mem_map_of_mem among)

theorem mem_of_get? (found : map.get? key = some value) : (key, value) ∈ map.entries := by
  rcases Option.map_eq_some_iff.mp found with ⟨entry, here, rfl⟩
  have same : entry.1 = key := by simpa using List.find?_some here
  exact same ▸ List.mem_of_find?_eq_some here

theorem mem_entries_replace {entry : K × V} {entries : List (K × V)} (distinct : (entries.map Prod.fst).Nodup) :
    entry ∈ replace key value entries ↔ entry = (key, value) ∨ entry.1 ≠ key ∧ entry ∈ entries := by
  induction entries with
  | nil => simp [replace]
  | cons first entries ih =>
    rcases first with ⟨k', v'⟩
    rcases List.nodup_cons.mp distinct with ⟨fresh, rest⟩
    by_cases same : k' = key
    · subst same
      have apart : entry ∈ entries → entry.1 ≠ k' := by
        intro among here
        have again : entry.1 ∈ entries.map Prod.fst := List.mem_map_of_mem among
        exact fresh (here ▸ again)
      rw [replace, if_pos rfl, List.mem_cons, List.mem_cons]
      constructor
      · exact Or.imp_right fun among => ⟨apart among, .inr among⟩
      · exact Or.imp_right fun both => both.2.resolve_left fun here => both.1 (here ▸ rfl)
    · rw [replace, if_neg same, List.mem_cons, List.mem_cons, ih rest]
      constructor
      · intro given
        rcases given with rfl | here | later
        · exact .inr ⟨same, .inl rfl⟩
        · exact .inl here
        · exact .inr ⟨later.1, .inr later.2⟩
      · intro given
        rcases given with here | ⟨differ, first | later⟩
        · exact .inr (.inl here)
        · exact .inl first
        · exact .inr (.inr ⟨differ, later⟩)

theorem get?_set : (map.set key value).get? k = if k = key then some value else map.get? k := by
  split
  · next same =>
    have member : (key, value) ∈ (map.set key value).entries := (mem_entries_replace map.distinct).mpr (.inl rfl)
    exact same ▸ get?_of_mem member
  · next differ =>
    cases found : map.get? k with
    | none =>
      rw [get?_eq_none_iff, mem_keys_set, not_or]
      exact ⟨differ, get?_eq_none_iff.mp found⟩
    | some v =>
      have member : (k, v) ∈ (map.set key value).entries :=
        (mem_entries_replace map.distinct).mpr (.inr ⟨differ, mem_of_get? found⟩)
      exact get?_of_mem member

theorem get?_remove : (map.remove key).get? k = if k = key then none else map.get? k := by
  split
  · next same =>
    subst same
    rw [get?_eq_none_iff]
    intro member
    rcases List.mem_map.mp member with ⟨entry, among, here⟩
    exact absurd here (of_decide_eq_true (List.mem_filter.mp among).2)
  · next differ =>
    cases found : map.get? k with
    | none => exact get?_eq_none_iff.mpr fun member => get?_eq_none_iff.mp found (mem_keys_remove member)
    | some v =>
      have member : (k, v) ∈ (map.remove key).entries :=
        List.mem_filter.mpr ⟨mem_of_get? found, decide_eq_true differ⟩
      exact get?_of_mem member

theorem get?_foldl_set {keys : List K} :
    (keys.foldl (fun map key => map.set key value) map).get? k = if k ∈ keys then some value else map.get? k := by
  induction keys generalizing map with
  | nil => simp
  | cons key keys ih =>
    rw [List.foldl_cons, ih, get?_set]
    by_cases later : k ∈ keys
    · simp [later]
    · simp [later]

theorem mem_keys_iff : k ∈ map.keys ↔ ∃ value, map.get? k = some value := by
  rw [← Option.ne_none_iff_exists', Ne, get?_eq_none_iff, not_not]

theorem keys_replace {entries : List (K × V)} (member : key ∈ entries.map Prod.fst) :
    (replace key value entries).map Prod.fst = entries.map Prod.fst := by
  induction entries with
  | nil => cases member
  | cons entry entries ih =>
    rcases entry with ⟨k', v'⟩
    by_cases same : k' = key
    · subst same
      simp [replace]
    · have later : key ∈ entries.map Prod.fst := (List.mem_cons.mp member).resolve_left (Ne.symm same)
      simp [replace, same, ih later]

theorem keys_set (member : key ∈ map.keys) : (map.set key value).keys = map.keys := keys_replace member

theorem keys_set_fresh (fresh : key ∉ map.keys) : (map.set key value).keys = map.keys ++ [key] := by
  show (replace key value map.entries).map Prod.fst = map.keys ++ [key]
  rw [replace_fresh fresh, List.map_append]
  rfl

theorem keys_remove : (map.remove key).keys = map.keys.filter (· ≠ key) := by
  rw [keys, keys, List.filter_map]
  rfl

theorem values_eq : map.keys.map map.get? = map.values.map some := by
  rw [keys, values, List.map_map, List.map_map]
  exact List.map_congr_left fun entry member => get?_of_mem member

end Lookup

end LinkedMap
