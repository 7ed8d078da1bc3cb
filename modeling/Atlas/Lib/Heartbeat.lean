import Mathlib.Data.List.Infix
import Mathlib.Data.List.Basic

/-! # Heartbeat budgets

A session is kept alive by requests that succeed, fail, or show that the other side has forgotten
the session. It ends at once when it is forgotten, and otherwise with the `k`-th failure in a row
(`dues`). An implementation counts down from `k`, and sets the counter to `k` with every success
(`countdown`). The first end of the session depends on what the counter starts with:
`first_countdown_eq_iff` says for which results two start values make no difference.
-/

namespace Heartbeat

/-- The result of a keep-alive request. -/
inductive Result where
  | success
  | forgotten
  | failed
deriving DecidableEq

/-- For each result, whether the session is to end with it; there were `failures` failures in a row
before. -/
def dues (k failures : ℕ) : List Result → List Bool
  | [] => []
  | .success :: rs => false :: dues k 0 rs
  | .forgotten :: rs => true :: dues k (failures + 1) rs
  | .failed :: rs => decide (failures + 1 = k) :: dues k (failures + 1) rs

/-- For each result, whether a counter that is at `n` reaches zero with it. -/
def countdown (k n : ℕ) : List Result → List Bool
  | [] => []
  | .success :: rs => false :: countdown k k rs
  | .forgotten :: rs => true :: countdown k 0 rs
  | .failed :: rs => decide (n = 1) :: countdown k (n - 1) rs

/-- The position of the first result the session ends with. -/
def first (flags : List Bool) : Option ℕ := flags.findIdx? id

@[simp] theorem first_true (flags : List Bool) : first (true :: flags) = some 0 := by
  simp [first, List.findIdx?_cons]

@[simp] theorem first_false (flags : List Bool) :
    first (false :: flags) = (first flags).map (· + 1) := by
  simp [first, List.findIdx?_cons]

theorem first_true_ne_first_false (flags flags' : List Bool) :
    first (true :: flags) ≠ first (false :: flags') := by
  rw [first_true, first_false]
  cases first flags' <;> simp

/-- Two lists of flags that go on behind a flag that is not set. -/
theorem first_false_inj {flags flags' : List Bool} :
    first (false :: flags) = first (false :: flags') ↔ first flags = first flags' := by
  rw [first_false, first_false]
  exact (Option.map_injective fun _ _ => Nat.succ.inj).eq_iff

/-- Counting down from `k` ends the session when it is to end. -/
theorem first_dues {k failures : ℕ} (h : failures < k) (rs : List Result) :
    first (dues k failures rs) = first (countdown k (k - failures) rs) := by
  induction rs generalizing failures with
  | nil => rfl
  | cons r rs ih =>
    cases r with
    | success =>
      rw [dues, countdown, first_false_inj]
      exact ih (Nat.zero_lt_of_lt h)
    | forgotten => rw [dues, countdown, first_true, first_true]
    | failed =>
      rw [dues, countdown]
      by_cases hlast : failures + 1 = k
      · have hone : k - failures = 1 := by omega
        rw [decide_eq_true hlast, decide_eq_true hone, first_true, first_true]
      · have hmore : k - failures ≠ 1 := by omega
        rw [decide_eq_false hlast, decide_eq_false hmore, first_false_inj, ih (by omega),
          Nat.sub_sub]

/-- Two start values of the counter end the session with the same result, unless the session starts
with as many failures as the smaller one allows. -/
theorem first_countdown_eq_iff {k m n : ℕ} (hm : 0 < m) (hn : 0 < n) (rs : List Result) :
    first (countdown k m rs) = first (countdown k n rs) ↔
      m = n ∨ ¬ List.replicate (min m n) .failed <+: rs := by
  -- both counters allow at least one failure
  obtain ⟨a, ha⟩ : ∃ a, min m n = a + 1 := ⟨min m n - 1, by omega⟩
  induction rs generalizing m n a with
  | nil => simp [countdown, ha]
  | cons r rs ih =>
    rw [ha, List.replicate_succ, List.cons_prefix_cons]
    cases r with
    | success => simp [countdown]
    | forgotten => simp [countdown]
    | failed =>
      rw [countdown, countdown]
      by_cases hm1 : m = 1
      · subst hm1
        obtain rfl : a = 0 := by omega
        by_cases hn1 : n = 1
        · simp [hn1]
        · rw [decide_eq_true rfl, decide_eq_false hn1]
          exact iff_of_false (first_true_ne_first_false _ _) (by simp [Ne.symm hn1])
      by_cases hn1 : n = 1
      · subst hn1
        obtain rfl : a = 0 := by omega
        rw [decide_eq_false hm1, decide_eq_true rfl]
        exact iff_of_false (first_true_ne_first_false _ _).symm (by simp [hm1])
      · rw [decide_eq_false hm1, decide_eq_false hn1, first_false_inj]
        obtain ⟨b, rfl⟩ : ∃ b, a = b + 1 := ⟨a - 1, by omega⟩
        rw [ih (by omega) (by omega) b (by omega), show min (m - 1) (n - 1) = b + 1 by omega]
        have hpred : m - 1 = n - 1 ↔ m = n := by omega
        rw [hpred, eq_self_iff_true, true_and]

end Heartbeat
