import Mathlib.Data.List.Nodup

/-! Following a partial function from one key to the next. -/

namespace Walk

variable {K : Type*} (next : K → Option K)

def walk : Nat → K → Option K
  | 0, k => some k
  | n + 1, k => (next k).bind (walk n)

/-- The way from `k` comes back to a key that it has already passed. -/
def Circles (k : K) : Prop := ∃ m n back, 0 < n ∧ walk next m k = some back ∧ walk next n back = some back

variable {next} {k : K} {m n bound : Nat}

theorem walk_add (m n : Nat) (k : K) : walk next (m + n) k = (walk next m k).bind (walk next n) := by
  induction m generalizing k with
  | zero => simp [walk]
  | succ m ih =>
    rw [Nat.succ_add, walk, walk]
    cases next k with
    | none => rfl
    | some k' => exact ih k'

theorem walk_shorter (far : walk next n k ≠ none) (shorter : m ≤ n) : walk next m k ≠ none := by
  intro ended
  rcases Nat.exists_eq_add_of_le shorter with ⟨rest, rfl⟩
  rw [walk_add, ended] at far
  exact far rfl

theorem walk_around {back : K} (around : walk next n back = some back) (times : Nat) :
    walk next (times * n) back = some back := by
  induction times with
  | zero => rw [Nat.zero_mul, walk]
  | succ times ih => rw [Nat.succ_mul, walk_add, ih, Option.bind_some, around]

theorem Circles.endless (circles : Circles next k) (n : Nat) : walk next n k ≠ none := by
  rcases circles with ⟨m, period, back, positive, reached, around⟩
  have far : walk next (m + n * period) k ≠ none := by
    rw [walk_add, reached, Option.bind_some, walk_around around]
    simp
  exact walk_shorter far (Nat.le_trans (Nat.le_mul_of_pos_right n positive) (Nat.le_add_left _ m))

def passed (next : K → Option K) : Nat → K → List K
  | 0, _ => []
  | n + 1, k => k :: ((next k).map (passed next n)).getD []

theorem mem_passed {key : K} (far : walk next n k ≠ none) :
    key ∈ passed next n k ↔ ∃ m < n, walk next m k = some key := by
  induction n generalizing k with
  | zero => simp [passed]
  | succ n ih =>
    cases step : next k with
    | none => simp [walk, step] at far
    | some k' =>
      have rest : walk next n k' ≠ none := by simpa [walk, step] using far
      simp only [passed, step, Option.map_some, Option.getD_some, List.mem_cons, ih rest]
      constructor
      · intro given
        rcases given with rfl | ⟨m, fewer, reached⟩
        · exact ⟨0, Nat.succ_pos n, rfl⟩
        · exact ⟨m + 1, Nat.succ_lt_succ fewer, by rw [walk, step]; exact reached⟩
      · intro given
        rcases given with ⟨m, fewer, reached⟩
        cases m with
        | zero => exact .inl (Option.some.inj reached).symm
        | succ m =>
          rw [walk, step] at reached
          exact .inr ⟨m, Nat.lt_of_succ_lt_succ fewer, reached⟩

theorem length_passed (far : walk next n k ≠ none) : (passed next n k).length = n := by
  induction n generalizing k with
  | zero => rfl
  | succ n ih =>
    cases step : next k with
    | none => simp [walk, step] at far
    | some k' =>
      have rest : walk next n k' ≠ none := by simpa [walk, step] using far
      simp [passed, step, ih rest]

theorem nodup_passed (open_ : ¬ Circles next k) (far : walk next n k ≠ none) : (passed next n k).Nodup := by
  induction n generalizing k with
  | zero => exact List.nodup_nil
  | succ n ih =>
    cases step : next k with
    | none => simp [walk, step] at far
    | some k' =>
      have rest : walk next n k' ≠ none := by simpa [walk, step] using far
      have first : walk next 1 k = some k' := by simp [walk, step]
      have open' : ¬ Circles next k' := by
        intro given
        rcases given with ⟨m, period, back, positive, reached, around⟩
        refine open_ ⟨1 + m, period, back, positive, ?_, around⟩
        rw [walk_add, first, Option.bind_some, reached]
      simp only [passed, step, Option.map_some, Option.getD_some]
      refine List.nodup_cons.mpr ⟨?_, ih open' rest⟩
      intro again
      rcases (mem_passed rest).mp again with ⟨m, _, reached⟩
      refine open_ ⟨0, 1 + m, k, by omega, rfl, ?_⟩
      rw [walk_add, first, Option.bind_some, reached]

theorem circles_of_far (count : ∀ keys : List K, keys.Nodup → (∀ key ∈ keys, next key ≠ none) → keys.length ≤ bound)
    (far : walk next (bound + 1) k ≠ none) : Circles next k := by
  apply Classical.byContradiction
  intro open_
  have fits := count (passed next (bound + 1) k) (nodup_passed open_ far) ?_
  · rw [length_passed far] at fits
    omega
  · intro key member ended
    rcases (mem_passed far).mp member with ⟨m, fewer, reached⟩
    apply walk_shorter far (Nat.succ_le_of_lt fewer)
    rw [Nat.succ_eq_add_one, walk_add, reached, Option.bind_some, walk, ended]
    rfl

theorem circles_iff (count : ∀ keys : List K, keys.Nodup → (∀ key ∈ keys, next key ≠ none) → keys.length ≤ bound) :
    Circles next k ↔ walk next (bound + 1) k ≠ none :=
  ⟨fun circles => circles.endless _, circles_of_far count⟩

end Walk
