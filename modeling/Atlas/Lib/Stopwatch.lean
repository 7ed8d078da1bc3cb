import Mathlib.Algebra.Order.Floor.Ring
import Mathlib.Algebra.Order.Field.Basic
import Mathlib.Tactic.Linarith
import Mathlib.Tactic.Ring

/-! # A stopwatch read in whole units

A stopwatch adds up the time between starts and stops. A counter that sees the clock in whole units
only (`⌊t⌋`) and adds up what it sees is off by at most one unit per start (`Rounds.abs_sub_le`).
Its reading never runs backwards as long as the clock does not.
-/

variable {α : Type*} [Field α] [LinearOrder α] [IsStrictOrderedRing α] [FloorRing α]

/-- The time measured so far, and since when the stopwatch is running. -/
structure Stopwatch (α : Type*) where
  total : α
  since : Option α
  starts : ℕ

namespace Stopwatch

/-- A stopwatch that was never started. -/
def zero : Stopwatch α := ⟨0, none, 0⟩

/-- A start has no effect while the stopwatch is running. -/
def start (t : α) (w : Stopwatch α) : Stopwatch α :=
  match w.since with
  | some _ => w
  | none => { w with since := some t, starts := w.starts + 1 }

/-- A stop has no effect while the stopwatch is not running. -/
def stop (t : α) (w : Stopwatch α) : Stopwatch α :=
  match w.since with
  | none => w
  | some r => ⟨w.total + (t - r), none, w.starts⟩

/-- Started or stopped, so that afterwards the stopwatch is running or not. -/
def follow (running : Bool) (t : α) (w : Stopwatch α) : Stopwatch α :=
  if running then w.start t else w.stop t

/-- The time measured until `t`. -/
def elapsed (t : α) (w : Stopwatch α) : α := w.total + w.since.elim 0 (t - ·)

end Stopwatch

/-- The counter that sees the clock in whole units. -/
structure UnitCounter where
  total : ℤ
  since : Option ℤ

namespace UnitCounter

/-- The reading when the clock shows `now`. -/
def reading (now : ℤ) (c : UnitCounter) : ℤ := c.total + c.since.elim 0 (now - ·)

theorem reading_le_reading {now now' : ℤ} (h : now ≤ now') (c : UnitCounter) :
    c.reading now ≤ c.reading now' := by
  rcases c with ⟨total, _ | r⟩ <;> simp only [reading, Option.elim] <;> omega

/-- A reading grows no faster than the clock. -/
theorem reading_sub_le {now now' : ℤ} (h : now ≤ now') (c : UnitCounter) :
    c.reading now' - now' ≤ c.reading now - now := by
  rcases c with ⟨total, _ | r⟩ <;> simp only [reading, Option.elim] <;> omega

/-- What may happen to a counter while the clock shows `now`: it is started, unless it was running
before this unit, or it is stopped. -/
inductive Moves (now : ℤ) (c : UnitCounter) : UnitCounter → Prop where
  | same : Moves now c c
  | start (hrun : ∀ r ∈ c.since, r = now) : Moves now c ⟨c.total, some now⟩
  | stop : Moves now c ⟨c.reading now, none⟩

/-- No move changes the reading. -/
theorem Moves.reading_eq {now : ℤ} {c c' : UnitCounter} (h : c.Moves now c') :
    c'.reading now = c.reading now := by
  cases h with
  | same => rfl
  | start hrun =>
    rcases c with ⟨total, _ | r⟩
    · simp [reading]
    · obtain rfl := hrun r rfl
      rfl
  | stop => simp [reading]

end UnitCounter

/-- The counter runs with the stopwatch, and each completed stretch cost it at most one unit. -/
structure Rounds (w : Stopwatch α) (c : UnitCounter) : Prop where
  since : c.since = w.since.map Int.floor
  total : |(c.total : α) - w.total| + w.since.elim 0 (fun _ => 1) ≤ w.starts

namespace Rounds

variable {w : Stopwatch α} {c : UnitCounter} {t : α}

theorem zero : Rounds (.zero : Stopwatch α) ⟨0, none⟩ := ⟨rfl, by simp [Stopwatch.zero]⟩

/-- Whole units between two moments. -/
theorem abs_floor_sub_floor (r t : α) : |((⌊t⌋ - ⌊r⌋ : ℤ) : α) - (t - r)| ≤ 1 := by
  have ht := Int.floor_le t
  have ht' := Int.lt_floor_add_one t
  have hr := Int.floor_le r
  have hr' := Int.lt_floor_add_one r
  rw [abs_le]
  push_cast
  constructor <;> linarith

/-- The counter is off by at most one unit per start. -/
theorem abs_reading_sub_elapsed (h : Rounds w c) (t : α) :
    |(c.reading ⌊t⌋ : α) - w.elapsed t| ≤ w.starts := by
  have htotal := h.total
  rw [UnitCounter.reading, Stopwatch.elapsed, h.since]
  cases hw : w.since with
  | none => simpa [hw] using htotal
  | some r =>
    rw [hw] at htotal
    simp only [Option.map_some, Option.elim] at htotal ⊢
    have hopen := abs_floor_sub_floor r t
    calc |((c.total + (⌊t⌋ - ⌊r⌋) : ℤ) : α) - (w.total + (t - r))|
        = |((c.total : α) - w.total) + (((⌊t⌋ - ⌊r⌋ : ℤ) : α) - (t - r))| := by
          congr 1
          push_cast
          ring
      _ ≤ |(c.total : α) - w.total| + |((⌊t⌋ - ⌊r⌋ : ℤ) : α) - (t - r)| := abs_add_le _ _
      _ ≤ w.starts := by linarith

/-- The same against the whole units that have passed. -/
theorem abs_sub_le (h : Rounds w c) (t : α) : |c.reading ⌊t⌋ - ⌊w.elapsed t⌋| ≤ w.starts := by
  obtain ⟨hlow, hhigh⟩ := abs_le.mp (h.abs_reading_sub_elapsed t)
  rw [abs_le]
  constructor
  · have hfloor := Int.floor_le (w.elapsed t)
    have hcast : ((⌊w.elapsed t⌋ : ℤ) : α) ≤ ((c.reading ⌊t⌋ + w.starts : ℤ) : α) := by
      push_cast
      linarith
    have := Int.cast_le.mp hcast
    omega
  · have hcast : ((c.reading ⌊t⌋ - w.starts : ℤ) : α) ≤ w.elapsed t := by
      push_cast
      linarith
    have := Int.le_floor.mpr hcast
    omega

/-- A counter that starts when it sees the stopwatch start. -/
theorem start (h : Rounds w c) (hrun : ∀ r ∈ c.since, r = ⌊t⌋) :
    Rounds (w.start t) ⟨c.total, some ⌊t⌋⟩ := by
  have hsince := h.since
  have htotal := h.total
  cases hw : w.since with
  | none =>
    simp only [hw, Option.elim, add_zero] at htotal
    refine ⟨by simp [Stopwatch.start, hw], ?_⟩
    simp only [Stopwatch.start, hw, Option.elim]
    push_cast
    linarith
  | some r =>
    -- the stopwatch is running, and was started in the unit the clock shows
    rw [hw, Option.map_some] at hsince
    have hr := hrun ⌊r⌋ (by simp [hsince])
    simp only [Stopwatch.start, hw]
    exact ⟨by simp [hw, hr], htotal⟩

/-- A counter that stops when it sees the stopwatch stop. -/
theorem stop (h : Rounds w c) (t : α) : Rounds (w.stop t) ⟨c.reading ⌊t⌋, none⟩ := by
  have habs := h.abs_reading_sub_elapsed t
  cases hw : w.since with
  | none | some r =>
    refine ⟨by simp [Stopwatch.stop, hw], ?_⟩
    simpa [Stopwatch.stop, hw, Stopwatch.elapsed] using habs

/-- A stopwatch that follows the counter is followed by it. -/
theorem follow {c' : UnitCounter} (h : Rounds w c) (hmoves : c.Moves ⌊t⌋ c') :
    Rounds (w.follow c'.since.isSome t) c' := by
  cases hmoves with
  | same =>
    have hsame : w.follow c.since.isSome t = w := by
      rw [h.since]
      cases hw : w.since <;> simp [Stopwatch.follow, Stopwatch.start, Stopwatch.stop, hw]
    rwa [hsame]
  | start hrun => exact h.start hrun
  | stop => exact h.stop t

end Rounds
