import Mathlib.Data.List.Nodup
import Mathlib.Logic.Function.Basic

/-! # Replicated records

A record has a value for some of its keys. Its owner keeps it as a list of fields and tells a
replica about changes by sending fields, which the replica writes over what it has. The replica
shows the record after a change if it did before and the fields sent cover the change
(`Shows.write`); all fields of the record, sent at once, cover any change (`shows_write`).
-/

namespace Replica

variable {κ V : Type*} [DecidableEq κ]

/-- Writes fields into a record, each over what was there before. -/
def write (fields : List (κ × V)) (record : κ → Option V) : κ → Option V :=
  fields.foldl (fun record f => Function.update record f.1 (some f.2)) record

/-- The record has these fields. -/
def Shows (record : κ → Option V) (fields : List (κ × V)) : Prop :=
  ∀ f ∈ fields, record f.1 = some f.2

/-- The fields `sent` cover the change from `old` to `new`: each new field was sent, or it is an old
one and nothing was sent under its key. -/
def Covers (old sent new : List (κ × V)) : Prop :=
  ∀ f ∈ new, f ∈ sent ∨ f ∈ old ∧ f.1 ∉ sent.map Prod.fst

variable {record : κ → Option V} {fields old sent new : List (κ × V)} {k : κ} {f : κ × V}

@[simp] theorem write_nil (record : κ → Option V) : write [] record = record := rfl

@[simp] theorem write_cons (f : κ × V) (fields : List (κ × V)) (record : κ → Option V) :
    write (f :: fields) record = write fields (Function.update record f.1 (some f.2)) := rfl

theorem write_of_notMem (h : k ∉ fields.map Prod.fst) : write fields record k = record k := by
  induction fields generalizing record with
  | nil => rfl
  | cons f fields ih =>
    rw [List.map_cons, List.mem_cons, not_or] at h
    rw [write_cons, ih h.2, Function.update_of_ne h.1]

theorem write_of_mem (hkeys : (fields.map Prod.fst).Nodup) (h : f ∈ fields) :
    write fields record f.1 = some f.2 := by
  induction fields generalizing record with
  | nil => cases h
  | cons g fields ih =>
    rw [List.map_cons, List.nodup_cons] at hkeys
    rcases List.mem_cons.mp h with rfl | h
    · rw [write_cons, write_of_notMem hkeys.1, Function.update_self]
    · exact ih hkeys.2 h

/-- Writing into a record is writing into the empty one and putting the result over it. -/
theorem write_eq_or (fields : List (κ × V)) (record : κ → Option V) (k : κ) :
    write fields record k = (write fields (fun _ => none) k).or (record k) := by
  induction fields generalizing record with
  | nil => rfl
  | cons f fields ih =>
    rw [write_cons, write_cons, ih, ih (Function.update _ _ _)]
    by_cases hk : k = f.1
    · simp [hk]
    · simp [Function.update_of_ne hk]

/-- A replica that shows a record shows it after a change that the fields sent cover. -/
theorem Shows.write (h : Shows record old) (hkeys : (sent.map Prod.fst).Nodup)
    (hcovers : Covers old sent new) : Shows (write sent record) new := by
  intro f hf
  rcases hcovers f hf with hsent | ⟨hold, hkey⟩
  · exact write_of_mem hkeys hsent
  · rw [write_of_notMem hkey]
    exact h f hold

/-- Whatever the replica had, it shows the fields sent to it. -/
theorem shows_write (record : κ → Option V) (hkeys : (fields.map Prod.fst).Nodup) :
    Shows (Replica.write fields record) fields :=
  fun _ hf => write_of_mem hkeys hf

omit [DecidableEq κ] in
theorem Shows.mono (h : Shows record old) (hsub : new ⊆ old) : Shows record new :=
  fun f hf => h f (hsub hf)

omit [DecidableEq κ] in
/-- Only a part of the record changes, and nothing is sent under the keys of the others. -/
theorem Covers.part {pre post : List (κ × V)} (h : Covers old sent new)
    (hkeys : ((pre ++ new ++ post).map Prod.fst).Nodup)
    (hsent : sent.map Prod.fst ⊆ new.map Prod.fst) :
    Covers (pre ++ old ++ post) sent (pre ++ new ++ post) := by
  simp only [List.map_append, List.append_assoc, List.nodup_append, List.mem_append] at hkeys
  obtain ⟨-, ⟨-, -, hpost⟩, hpre⟩ := hkeys
  intro f hf
  simp only [List.append_assoc, List.mem_append] at hf ⊢
  rcases hf with hf | hf | hf
  · refine .inr ⟨.inl hf, fun hkey => ?_⟩
    exact hpre _ (List.mem_map_of_mem hf) _ (.inl (hsent hkey)) rfl
  · exact (h f hf).imp_right fun hold => ⟨.inr (.inl hold.1), hold.2⟩
  · refine .inr ⟨.inr (.inr hf), fun hkey => ?_⟩
    exact hpost _ (hsent hkey) _ (List.mem_map_of_mem hf) rfl

omit [DecidableEq κ] in
/-- All of a part is sent. -/
theorem covers_sent (old new : List (κ × V)) : Covers old new new := fun _ hf => .inl hf

omit [DecidableEq κ] in
/-- A covered change is covered for the fields with certain keys. -/
theorem Covers.filter (h : Covers old sent new) (p : κ → Bool) :
    Covers (old.filter (p ·.1)) sent (new.filter (p ·.1)) := by
  intro f hf
  obtain ⟨hmem, hp⟩ := List.mem_filter.mp hf
  exact (h f hmem).imp_right fun hold => ⟨List.mem_filter.mpr ⟨hold.1, hp⟩, hold.2⟩

end Replica
