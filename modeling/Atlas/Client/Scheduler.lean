import Atlas.Lib.EventMachine
import Mathlib.Data.Int.Basic

/-! # The scheduler of the client

The scheduler keeps a list of descriptors with their callbacks. A deletion only marks an entry as
dirty; the next clean-up pass of the main loop removes it. Meanwhile the number of the descriptor
may be in use again, so the list can hold dirty entries and a clean one for the same number.

`State.live` is what the callers of the scheduler count on: the descriptors that were added and not
deleted since, each with the callback of its last add. A deletion marks the first entry of its
descriptor. When that one is already dirty, the entry that should go stays
(`Ordered.not_exact_del`).

Reference: `scheduler/atlas_scheduler.c`.
-/

namespace Atlas.Client.Scheduler

open EventMachine

variable {κ : Type*}

/-- `atlas_sched_entry_t`. -/
structure AtlasSchedEntry (κ : Type*) where
  fd : ℤ
  callback : κ
  dirty : Bool
deriving DecidableEq

/-- `atlas_sched_add_entry`: appends an entry, unless the descriptor is negative or there is no
callback. -/
def atlasSchedAddEntry (fd : ℤ) (cb : Option κ) (entries : List (AtlasSchedEntry κ)) :
    List (AtlasSchedEntry κ) :=
  match cb with
  | none => entries
  | some cb => if fd < 0 then entries else entries ++ [⟨fd, cb, false⟩]

/-- `atlas_sched_del_entry`: marks the first entry with this descriptor. -/
def atlasSchedDelEntry (fd : ℤ) : List (AtlasSchedEntry κ) → List (AtlasSchedEntry κ)
  | [] => []
  | ent :: entries =>
    if ent.fd = fd then { ent with dirty := true } :: entries
    else ent :: atlasSchedDelEntry fd entries

/-- The clean-up pass of `atlas_sched_loop`. -/
def cleanUp (entries : List (AtlasSchedEntry κ)) : List (AtlasSchedEntry κ) :=
  entries.filter (!·.dirty)

/-- The descriptors `select` is given after the clean-up pass. -/
def selectSet (entries : List (AtlasSchedEntry κ)) : List ℤ := (cleanUp entries).map (·.fd)

/-! ## The live descriptors -/

/-- The list of the scheduler, and what its callers count on. -/
structure State (κ : Type*) where
  entries : List (AtlasSchedEntry κ)
  live : ℤ → Option κ

/-- Before any call. -/
def State.init : State κ := ⟨[], fun _ => none⟩

inductive Event (κ : Type*) where
  | add (fd : ℤ) (cb : Option κ)
  | del (fd : ℤ)
  | cleanUp

/-- The live descriptors after a call of `atlas_sched_add_entry`. -/
def addLive (fd : ℤ) (cb : Option κ) (live : ℤ → Option κ) : ℤ → Option κ :=
  match cb with
  | none => live
  | some cb => if fd < 0 then live else Function.update live fd (some cb)

/-- A call, or a clean-up pass with the set it leads to. -/
def step (s : State κ) : Event κ → State κ × List (List ℤ)
  | .add fd cb => (⟨atlasSchedAddEntry fd cb s.entries, addLive fd cb s.live⟩, [])
  | .del fd => (⟨atlasSchedDelEntry fd s.entries, Function.update s.live fd none⟩, [])
  | .cleanUp => (⟨cleanUp s.entries, s.live⟩, [selectSet s.entries])

/-- The kernel gives out a number again only after its descriptor was closed, and a descriptor is
deleted before it is closed. -/
def Admits (s : State κ) : Event κ → Prop
  | .add fd (some _) => s.live fd = none
  | _ => True

/-- There is exactly one clean entry for every live descriptor, with the callback of its last add,
and none for other descriptors. In particular `select` will not be given any other descriptor. -/
structure Exact (s : State κ) : Prop where
  clean : ∀ fd, (s.entries.filter fun ent => !ent.dirty && ent.fd = fd).map (·.callback) =
    (s.live fd).toList
  selected : ∀ fd ∈ selectSet s.entries, (s.live fd).isSome = true

/-- The event deletes a live descriptor that also has a dirty entry. -/
def deletesStale (s : State κ) : Event κ → Bool
  | .del fd => (s.live fd).isSome && s.entries.any fun ent => ent.fd = fd && ent.dirty
  | _ => false

/-! ## One step -/

/-- The entries of each descriptor are dirty up to the one of the live descriptor. -/
def Ordered (s : State κ) : Prop :=
  ∀ fd, ∃ stale : List (AtlasSchedEntry κ), (∀ ent ∈ stale, ent.dirty = true) ∧
    s.entries.filter (·.fd = fd) = stale ++ (s.live fd).toList.map (⟨fd, ·, false⟩)

variable {s : State κ} {fd : ℤ} {cb : Option κ}

theorem filter_dirty {stale : List (AtlasSchedEntry κ)} (h : ∀ ent ∈ stale, ent.dirty = true) :
    stale.filter (!·.dirty) = [] := by
  rw [List.filter_eq_nil_iff]
  intro ent hent
  simp [h ent hent]

/-- The clean entries of a descriptor. -/
theorem Ordered.filter_clean (h : Ordered s) (fd : ℤ) :
    (cleanUp s.entries).filter (·.fd = fd) = (s.live fd).toList.map (⟨fd, ·, false⟩) := by
  obtain ⟨stale, hstale, heq⟩ := h fd
  rw [cleanUp, List.filter_comm, heq, List.filter_append, filter_dirty hstale]
  cases s.live fd <;> rfl

theorem Ordered.exact (h : Ordered s) : Exact s where
  clean fd := by
    have hclean := h.filter_clean fd
    rw [cleanUp, List.filter_filter] at hclean
    simp only [Bool.and_comm (!_), hclean]
    cases s.live fd <;> rfl
  selected fd hfd := by
    obtain ⟨ent, hent, rfl⟩ := List.mem_map.mp hfd
    have hmem : ent ∈ (cleanUp s.entries).filter (·.fd = ent.fd) :=
      List.mem_filter.mpr ⟨hent, by simp⟩
    rw [h.filter_clean] at hmem
    cases hlive : s.live ent.fd with
    | none => simp [hlive] at hmem
    | some cb => rfl

theorem ordered_init : Ordered (State.init : State κ) := fun _ => ⟨[], by simp, rfl⟩

theorem Ordered.add (h : Ordered s) (hadmits : Admits s (.add fd cb)) :
    Ordered (step s (.add fd cb)).1 := by
  cases cb with
  | none => exact h
  | some cb =>
    intro fd'
    obtain ⟨stale, hstale, heq⟩ := h fd'
    refine ⟨stale, hstale, ?_⟩
    simp only [step, atlasSchedAddEntry, addLive]
    by_cases hneg : fd < 0
    · rw [if_pos hneg, if_pos hneg, heq]
    · rw [if_neg hneg, if_neg hneg, List.filter_append, heq]
      by_cases hfd : fd' = fd
      · subst hfd
        have hnone : s.live fd' = none := hadmits
        simp [hnone]
      · simp [Function.update_of_ne hfd, Ne.symm hfd]

theorem Ordered.cleanUp (h : Ordered s) : Ordered (step s .cleanUp).1 := by
  intro fd
  refine ⟨[], by simp, ?_⟩
  exact h.filter_clean fd

/-- What a deletion does to the entries of a descriptor. -/
theorem filter_atlasSchedDelEntry (fd fd' : ℤ) (entries : List (AtlasSchedEntry κ)) :
    (atlasSchedDelEntry fd entries).filter (·.fd = fd') =
      if fd' = fd then
        match entries.filter (·.fd = fd) with
        | [] => []
        | ent :: rest => { ent with dirty := true } :: rest
      else entries.filter (·.fd = fd') := by
  induction entries with
  | nil => split <;> rfl
  | cons ent entries ih =>
    rw [atlasSchedDelEntry]
    by_cases hent : ent.fd = fd
    · by_cases hfd : fd' = fd
      · simp [hent, hfd]
      · simp [hent, hfd, Ne.symm hfd]
    · by_cases hfd : fd' = fd
      · subst hfd
        simpa [hent] using ih
      · by_cases hent' : ent.fd = fd'
        · simpa [hent, hent', hfd] using ih
        · simpa [hent, hent', hfd] using ih

/-- A deletion keeps the order, unless the first entry it finds is not the live one. -/
theorem Ordered.del (h : Ordered s) (hstale : deletesStale s (.del fd) = false) :
    Ordered (step s (.del fd)).1 := by
  intro fd'
  obtain ⟨stale, hdirty, heq⟩ := h fd'
  simp only [step]
  rw [filter_atlasSchedDelEntry]
  by_cases hfd : fd' = fd
  · subst hfd
    rw [if_pos rfl, Function.update_self, heq]
    cases hlive : s.live fd' with
    | none =>
      cases stale with
      | nil => exact ⟨[], by simp, rfl⟩
      | cons ent stale =>
        obtain ⟨hent, hrest⟩ := List.forall_mem_cons.mp hdirty
        refine ⟨ent :: stale, hdirty, ?_⟩
        simp [← hent]
    | some cb =>
      -- no dirty entry of the descriptor, so the live one is the first
      have hnil : stale = [] := by
        rw [List.eq_nil_iff_forall_not_mem]
        intro ent hent
        have hmem : ent ∈ s.entries.filter (·.fd = fd') := heq ▸ List.mem_append_left _ hent
        obtain ⟨hmem, hfd⟩ := List.mem_filter.mp hmem
        simp only [deletesStale, hlive, Option.isSome_some, Bool.true_and, List.any_eq_false,
          Bool.and_eq_true, not_and] at hstale
        exact hstale ent hmem hfd (hdirty ent hent)
      subst hnil
      exact ⟨[⟨fd', cb, true⟩], by simp, rfl⟩
  · rw [if_neg hfd, Function.update_of_ne hfd]
    exact ⟨stale, hdirty, heq⟩

/-- Deleting a live descriptor that also has a dirty entry leaves its clean entry behind. -/
theorem Ordered.not_exact_del (h : Ordered s) (hstale : deletesStale s (.del fd) = true) :
    ¬ Exact (step s (.del fd)).1 := by
  intro hexact
  obtain ⟨hlive, hany⟩ := Bool.and_eq_true_iff.mp hstale
  obtain ⟨cb, hcb⟩ := Option.isSome_iff_exists.mp hlive
  obtain ⟨ent, hent, hfd⟩ := List.any_eq_true.mp hany
  obtain ⟨hfd, hdirty⟩ := Bool.and_eq_true_iff.mp hfd
  obtain ⟨stale, -, heq⟩ := h fd
  rw [hcb] at heq
  -- the dirty entry comes before the clean one, so it is the first
  obtain ⟨first, rest, rfl⟩ : ∃ first rest, stale = first :: rest := by
    refine List.exists_cons_of_ne_nil ?_
    rintro rfl
    have hmem : ent ∈ s.entries.filter (·.fd = fd) := List.mem_filter.mpr ⟨hent, hfd⟩
    rw [heq] at hmem
    simp [List.mem_singleton.mp hmem] at hdirty
  have hmem : (⟨fd, cb, false⟩ : AtlasSchedEntry κ) ∈
      (atlasSchedDelEntry fd s.entries).filter (·.fd = fd) := by
    rw [filter_atlasSchedDelEntry, if_pos rfl, heq]
    simp
  have hclean := hexact.clean fd
  simp only [step, Function.update_self, Option.toList_none, List.map_eq_nil_iff,
    List.filter_eq_nil_iff] at hclean
  exact hclean _ (List.mem_filter.mp hmem).1 (by simp)

/-! ## Runs -/

/-- In every run in which numbers are reused only after a deletion, the list of the scheduler agrees
with the live descriptors in all states if and only if no live descriptor is deleted while a dirty
entry with its number is in the list. -/
theorem exact_iff_no_stale_deletion (es : List (Event κ)) (hes : AllSteps step Admits .init es) :
    AllStates step Exact .init es ↔
      AllSteps step (fun s e => deletesStale s e = false) .init es := by
  refine allStates_iff_allSteps (J := fun s es => Ordered s ∧ AllSteps step Admits s es)
    (fun s es h => h.1.exact) ?_ ?_ ⟨ordered_init, hes⟩
  · rintro s e es ⟨hordered, hadmits, hes⟩ hstale
    refine ⟨?_, hes⟩
    cases e with
    | add fd cb => exact hordered.add hadmits
    | del fd => exact hordered.del hstale
    | cleanUp => exact hordered.cleanUp
  · rintro s e es ⟨hordered, -⟩ hstale
    cases e with
    | add fd cb => exact absurd rfl hstale
    | del fd => exact hordered.not_exact_del (by simpa using hstale)
    | cleanUp => exact absurd rfl hstale

/-- An alarm is set, cancelled, set again under the same number and cancelled, with a clean-up pass
before the number is used again. -/
def reuseAfterCleanUp : List (Event String) :=
  [.add 5 (some "push"), .del 5, .cleanUp, .add 5 (some "push"), .del 5, .cleanUp]

theorem exact_reuseAfterCleanUp : AllStates step Exact .init reuseAfterCleanUp :=
  (exact_iff_no_stale_deletion reuseAfterCleanUp
    ⟨rfl, trivial, trivial, rfl, trivial, trivial, trivial⟩).mpr (by decide)

/-- The same without the first clean-up pass. -/
def reuseBeforeCleanUp : List (Event String) :=
  [.add 5 (some "push"), .del 5, .add 5 (some "push"), .del 5, .cleanUp]

/-- `select` is given a descriptor that was deleted and closed. -/
theorem select_deleted_reuseBeforeCleanUp :
    AllSteps step Admits .init reuseBeforeCleanUp ∧
      (run step .init reuseBeforeCleanUp).live 5 = none ∧
      trace step .init reuseBeforeCleanUp = [[5]] :=
  ⟨⟨rfl, trivial, rfl, trivial, trivial, trivial⟩, rfl, by decide⟩

end Atlas.Client.Scheduler
