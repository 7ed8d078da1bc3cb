import Atlas.Lib.EventMachine
import Mathlib.Data.Set.Insert

/-! # One-shot requests

A request is made once, and then it is pending until it is completed or dropped. This is the
abstract model of a component that calls back for its requests: whatever the order of the moves, no
request is completed twice, and none is completed after it was dropped (`completed_once`).

A component that refines this model shows that each of its steps is a path of these moves.
-/

namespace OneShot

open EventMachine

variable {ι : Type*}

/-- The requests made so far, and those that can still be completed. -/
structure State (ι : Type*) where
  made : Set ι
  pending : Set ι

/-- Before any request. -/
def State.init : State ι := ⟨∅, ∅⟩

inductive Output (ι : Type*) where
  | made (i : ι)
  | completed (i : ι)
  | dropped (i : ι)
deriving DecidableEq

/-- A request is made once. Only a pending request is completed; any request may be dropped. -/
inductive Move (s : State ι) : List (Output ι) → State ι → Prop where
  | make (i : ι) (h : i ∉ s.made) : Move s [.made i] ⟨insert i s.made, insert i s.pending⟩
  | complete (i : ι) (h : i ∈ s.pending) : Move s [.completed i] ⟨s.made, s.pending \ {i}⟩
  | drop (i : ι) : Move s [.dropped i] ⟨s.made, s.pending \ {i}⟩

/-- What the past says about a request. -/
structure Sound (s : State ι) (ws : List (Output ι)) (i : ι) : Prop where
  /-- A request that has not been made was not completed. -/
  unmade : i ∉ s.made → .made i ∉ ws ∧ .completed i ∉ ws
  /-- A pending request was made, and neither completed nor dropped since. -/
  pending : i ∈ s.pending → i ∈ s.made ∧ .completed i ∉ ws ∧ ¬ List.Sublist [.made i, .dropped i] ws
  /-- No request was completed twice. -/
  once : ¬ List.Sublist [.completed i, .completed i] ws
  /-- No request was completed after it was dropped. -/
  kept : ¬ List.Sublist [.made i, .dropped i, .completed i] ws

variable {s s' : State ι} {ws ws' : List (Output ι)} {i j : ι}

/-- The last element of a subsequence is the new output, or the subsequence is older. -/
theorem sublist_concat {l : List (Output ι)} {w w' : Output ι}
    (h : List.Sublist (l ++ [w]) (ws ++ [w'])) :
    w = w' ∧ List.Sublist l ws ∨ List.Sublist (l ++ [w]) ws := by
  have hrev := List.reverse_sublist.mpr h
  simp only [List.reverse_append, List.reverse_singleton, List.singleton_append] at hrev
  cases hrev with
  | cons _ hsub =>
    refine .inr (List.reverse_sublist.mp ?_)
    simpa using hsub
  | cons_cons _ hsub => exact .inl ⟨rfl, List.reverse_sublist.mp hsub⟩

/-- A subsequence that does not end in the new output is older. -/
theorem sublist_of_ne {l : List (Output ι)} {w w' : Output ι}
    (h : List.Sublist (l ++ [w]) (ws ++ [w'])) (hne : w ≠ w') : List.Sublist (l ++ [w]) ws :=
  (sublist_concat h).resolve_left fun hlast => hne hlast.1

theorem sound_init (i : ι) : Sound (State.init : State ι) [] i where
  unmade _ := by simp
  pending h := absurd h (Set.notMem_empty i)
  once := by simp
  kept := by simp

namespace Sound

/-- The past of a request stays the same while the request is not made and does not become
pending. -/
theorem congr (h : Sound s ws i) (hmade : i ∈ s'.made ↔ i ∈ s.made)
    (hpending : i ∈ s'.pending → i ∈ s.pending) : Sound s' ws i where
  unmade hi := h.unmade (mt hmade.mpr hi)
  pending hi := by
    rw [hmade]
    exact h.pending (hpending hi)
  once := h.once
  kept := h.kept

/-- An output for another request. -/
theorem concat_of_ne (h : Sound s ws i) {w : Output ι} (hmade : w ≠ .made i)
    (hcompleted : w ≠ .completed i) (hdropped : w ≠ .dropped i) : Sound s (ws ++ [w]) i where
  unmade hi := by
    obtain ⟨hm, hc⟩ := h.unmade hi
    simp [hm, hc, hmade.symm, hcompleted.symm]
  pending hi := by
    obtain ⟨hm, hc, hd⟩ := h.pending hi
    refine ⟨hm, by simp [hc, hcompleted.symm], fun hsub => ?_⟩
    exact hd (sublist_of_ne (l := [.made i]) hsub hdropped.symm)
  once hsub := h.once (sublist_of_ne (l := [.completed i]) hsub hcompleted.symm)
  kept hsub := h.kept (sublist_of_ne (l := [.made i, .dropped i]) hsub hcompleted.symm)

theorem make (h : Sound s ws i) (hi : i ∉ s.made) :
    Sound ⟨insert i s.made, insert i s.pending⟩ (ws ++ [.made i]) i := by
  obtain ⟨hmade, hcompleted⟩ := h.unmade hi
  refine ⟨fun hnot => absurd (Set.mem_insert i s.made) hnot, fun _ => ?_, fun hsub => ?_,
    fun hsub => ?_⟩
  · refine ⟨Set.mem_insert i s.made, by simp [hcompleted], fun hsub => ?_⟩
    exact hmade ((sublist_of_ne (l := [.made i]) hsub nofun).subset List.mem_cons_self)
  · exact h.once (sublist_of_ne (l := [.completed i]) hsub nofun)
  · exact h.kept (sublist_of_ne (l := [.made i, .dropped i]) hsub nofun)

theorem complete (h : Sound s ws i) (hi : i ∈ s.pending) :
    Sound ⟨s.made, s.pending \ {i}⟩ (ws ++ [.completed i]) i := by
  obtain ⟨hmade, hcompleted, hdropped⟩ := h.pending hi
  refine ⟨fun hnot => absurd hmade hnot, fun hmem => absurd rfl hmem.2, fun hsub => ?_,
    fun hsub => ?_⟩
  · rcases sublist_concat (l := [.completed i]) hsub with ⟨-, hsub⟩ | hsub
    · exact hcompleted (List.singleton_sublist.mp hsub)
    · exact h.once hsub
  · rcases sublist_concat (l := [.made i, .dropped i]) hsub with ⟨-, hsub⟩ | hsub
    · exact hdropped hsub
    · exact h.kept hsub

theorem drop (h : Sound s ws i) : Sound ⟨s.made, s.pending \ {i}⟩ (ws ++ [.dropped i]) i := by
  refine ⟨fun hnot => ?_, fun hmem => absurd rfl hmem.2, fun hsub => ?_, fun hsub => ?_⟩
  · obtain ⟨hm, hc⟩ := h.unmade hnot
    simp [hm, hc]
  · exact h.once (sublist_of_ne (l := [.completed i]) hsub nofun)
  · exact h.kept (sublist_of_ne (l := [.made i, .dropped i]) hsub nofun)

theorem move (h : Sound s ws i) (hmove : Move s ws' s') : Sound s' (ws ++ ws') i := by
  cases hmove with
  | make j hj =>
    by_cases hij : i = j
    · subst hij
      exact h.make hj
    · refine (h.congr ?_ ?_).concat_of_ne ?_ nofun nofun
      · simp [hij]
      · simp [hij]
      · simpa using Ne.symm hij
  | complete j hj =>
    by_cases hij : i = j
    · subst hij
      exact h.complete hj
    · have hs : Sound ⟨s.made, s.pending \ {j}⟩ ws i := h.congr Iff.rfl fun hmem => hmem.1
      refine hs.concat_of_ne nofun ?_ nofun
      simpa using Ne.symm hij
  | drop j =>
    by_cases hij : i = j
    · subst hij
      exact h.drop
    · have hs : Sound ⟨s.made, s.pending \ {j}⟩ ws i := h.congr Iff.rfl fun hmem => hmem.1
      refine hs.concat_of_ne nofun nofun ?_
      simpa using Ne.symm hij

end Sound

/-- Over any path of moves from the start, no request is completed twice, or after it was
dropped. -/
theorem completed_once (p : Path Move (State.init : State ι) ws s) (i : ι) :
    ¬ List.Sublist [.completed i, .completed i] ws ∧
      ¬ List.Sublist [.made i, .dropped i, .completed i] ws := by
  have h :=
    p.accumulates (J := fun s ws => Sound s ws i) (fun hmove h => h.move hmove) (sound_init i)
  exact ⟨h.once, h.kept⟩

end OneShot
