import Atlas.Client.Scheduler

/-! # The main loop of the scheduler

After the clean-up pass the main loop calls `select` and goes through the list once. It calls the
callback of every clean entry whose descriptor is set in `readfds`, and clears the descriptor then.
Callbacks add and delete entries, and what they append is still reached by the same walk. So an
entry can be called on the report for an older descriptor of the same number. It takes a callback
that adds a descriptor whose number is set in `readfds` and not its own (`reusesReady`).

Reference: `scheduler/atlas_scheduler.c` (`atlas_sched_loop`).
-/

namespace Atlas.Client.Scheduler

open EventMachine

/-- What a callback does to the list. The numbers may be those of descriptors it has closed
before. -/
inductive Action where
  | add (fd : ℤ)
  | del (fd : ℤ)
deriving DecidableEq

/-- What can be observed of the scheduler. -/
inductive Output where
  | added (entry : ℕ) (fd : ℤ)
  | selected (ready : List ℤ)
  | called (entry : ℕ)
deriving DecidableEq

/-- The list. An entry is named after the call of `atlas_sched_add_entry` that made it, which also
names its callback. -/
structure Registry where
  entries : List (AtlasSchedEntry ℕ)
  next : ℕ
deriving DecidableEq

def Registry.act (r : Registry) : Action → Registry × List Output
  | .add fd =>
    (⟨atlasSchedAddEntry fd (some r.next) r.entries, r.next + 1⟩,
      if fd < 0 then [] else [.added r.next fd])
  | .del fd => (⟨atlasSchedDelEntry fd r.entries, r.next⟩, [])

/-- The list, the descriptors still set in `readfds` and the entry the walk comes to next. -/
structure Loop extends Registry where
  readfds : List ℤ
  position : ℕ
deriving DecidableEq

namespace Loop

/-- Before any call. -/
def init : Loop := ⟨⟨[], 0⟩, [], 0⟩

inductive Event where
  /-- The modules add and delete entries while no walk is under way, as they do at the start. -/
  | call (actions : List Action)
  /-- The clean-up pass, and a `select` that reports these descriptors of the ones it was given. A
  failed `select` reports none. -/
  | select (ready : List ℤ)
  /-- The walk comes to the next entry. If it is called, its callback does this. -/
  | visit (actions : List Action)

/-- The entry the walk calls now. -/
def current? (s : Loop) : Option (AtlasSchedEntry ℕ) :=
  s.entries[s.position]?.filter fun ent => !ent.dirty && ent.fd ∈ s.readfds

def step (s : Loop) : Event → Loop × List Output
  | .call actions =>
    if s.position < s.entries.length then (s, [])
    else
      let r := run Registry.act s.toRegistry actions
      (⟨r, s.readfds, r.entries.length⟩, trace Registry.act s.toRegistry actions)
  | .select ready =>
    if s.position < s.entries.length then (s, [])
    else
      let readfds := (selectSet s.entries).filter (· ∈ ready)
      (⟨⟨cleanUp s.entries, s.next⟩, readfds, 0⟩, [.selected readfds])
  | .visit actions =>
    match s.current? with
    | some ent =>
      (⟨run Registry.act s.toRegistry actions, s.readfds.filter (· ≠ ent.fd), s.position + 1⟩,
        .called ent.callback :: trace Registry.act s.toRegistry actions)
    | none => ({ s with position := s.position + 1 }, [])

end Loop

/-! ## Reports -/

/-- After this entry was added, a `select` has reported its descriptor. -/
def Reported (ws : List Output) (entry : ℕ) : Prop :=
  ∃ fd ready, List.Sublist [Output.added entry fd, .selected ready] ws ∧ fd ∈ ready

/-- No entry is called before it was reported. -/
def Justified (ws : List Output) : Prop :=
  ∀ pre entry, pre ++ [Output.called entry] <+: ws → Reported pre entry

/-- The callback that is called now adds a descriptor whose number is still set in `readfds`, other
than its own. -/
def reusesReady (s : Loop) : Loop.Event → Bool
  | .visit actions =>
    s.current?.any fun ent =>
      s.readfds.any fun fd => fd ≠ ent.fd && actions.contains (.add fd)
  | _ => false

theorem Reported.append {ws : List Output} {entry : ℕ} (h : Reported ws entry) (ws' : List Output) :
    Reported (ws ++ ws') entry := by
  obtain ⟨fd, ready, hsub, hmem⟩ := h
  exact ⟨fd, ready, hsub.trans (List.sublist_append_left ws ws'), hmem⟩

theorem justified_nil : Justified [] := by
  intro pre entry h
  simp at h

theorem Justified.concat {ws : List Output} {w : Output} (h : Justified ws)
    (hw : ∀ entry, w = .called entry → Reported ws entry) : Justified (ws ++ [w]) := by
  intro pre entry hpre
  rcases List.prefix_concat_iff.mp hpre with heq | hpre
  · obtain ⟨rfl, hlast⟩ := List.append_inj' heq rfl
    exact hw entry (List.cons.inj hlast).1.symm
  · exact h pre entry hpre

/-! ## One step -/

/-- All entries were added, those the walk still comes to are reported if they are clean and in
`fds`, and no entry was called without a report. -/
structure Good (fds : List ℤ) (position : ℕ) (entries : List (AtlasSchedEntry ℕ))
    (ws : List Output) : Prop where
  known : ∀ ent ∈ entries, .added ent.callback ent.fd ∈ ws
  pending : ∀ ent ∈ entries.drop position, ent.dirty = false → ent.fd ∈ fds →
    Reported ws ent.callback
  justified : Justified ws

variable {fds : List ℤ} {position : ℕ} {entries : List (AtlasSchedEntry ℕ)} {ws : List Output}

/-- The list keeps its clean entries and gets no other ones. -/
theorem mem_drop_atlasSchedDelEntry {ent : AtlasSchedEntry ℕ} (fd : ℤ)
    (h : ent ∈ (atlasSchedDelEntry fd entries).drop position) (hclean : ent.dirty = false) :
    ent ∈ entries.drop position := by
  induction entries generalizing position with
  | nil => exact h
  | cons ent' entries ih =>
    rw [atlasSchedDelEntry] at h
    split at h
    · cases position with
      | zero =>
        rcases List.mem_cons.mp h with rfl | h
        · simp at hclean
        · exact List.mem_cons_of_mem _ h
      | succ position => exact h
    · cases position with
      | zero =>
        rcases List.mem_cons.mp h with rfl | h
        · exact List.mem_cons_self
        · have hrest : ent ∈ entries.drop 0 := ih h
          exact List.mem_cons_of_mem _ hrest
      | succ position => exact ih h

theorem known_atlasSchedDelEntry (fd : ℤ)
    (h : ∀ ent ∈ entries, Output.added ent.callback ent.fd ∈ ws) :
    ∀ ent ∈ atlasSchedDelEntry fd entries, Output.added ent.callback ent.fd ∈ ws := by
  induction entries with
  | nil => exact h
  | cons ent entries ih =>
    obtain ⟨hent, hrest⟩ := List.forall_mem_cons.mp h
    rw [atlasSchedDelEntry]
    split
    · exact List.forall_mem_cons.mpr ⟨hent, hrest⟩
    · exact List.forall_mem_cons.mpr ⟨hent, ih hrest⟩

namespace Good

/-- A callback may add any descriptor that is not in `fds`. -/
theorem act {r : Registry} (h : Good fds position r.entries ws) {a : Action}
    (ha : ∀ fd ∈ fds, a ≠ .add fd) :
    Good fds position (r.act a).1.entries (ws ++ (r.act a).2) := by
  cases a with
  | del fd =>
    simp only [Registry.act, List.append_nil]
    exact ⟨known_atlasSchedDelEntry fd h.known,
      fun ent hent hclean => h.pending ent (mem_drop_atlasSchedDelEntry fd hent hclean) hclean,
      h.justified⟩
  | add fd =>
    simp only [Registry.act, atlasSchedAddEntry]
    by_cases hneg : fd < 0
    · rw [if_pos hneg, if_pos hneg, List.append_nil]
      exact h
    · rw [if_neg hneg, if_neg hneg]
      refine ⟨?_, ?_, h.justified.concat (by simp)⟩
      · intro ent hent
        rcases List.mem_append.mp hent with hent | hent
        · exact List.mem_append_left _ (h.known ent hent)
        · rw [List.mem_singleton.mp hent]
          exact List.mem_append_right _ List.mem_cons_self
      · intro ent hent hclean hfd
        rw [List.drop_append] at hent
        rcases List.mem_append.mp hent with hent | hent
        · exact (h.pending ent hent hclean hfd).append _
        · rw [List.mem_singleton.mp (List.mem_of_mem_drop hent)] at hfd
          exact absurd rfl (ha fd hfd)

/-- What a callback does one after the other. -/
theorem acts {r : Registry} (h : Good fds position r.entries ws) (actions : List Action)
    (hactions : ∀ fd ∈ fds, .add fd ∉ actions) :
    Good fds position (run Registry.act r actions).entries
      (ws ++ trace Registry.act r actions) := by
  refine run_trace_of_allSteps (P := fun _ a => ∀ fd ∈ fds, a ≠ Action.add fd)
    (J := fun (r : Registry) ws => Good fds position r.entries ws) (fun _ _ _ h ha => h.act ha) h
    (allSteps_of_forall_mem ?_ r)
  rintro _ ha fd hfd rfl
  exact hactions fd hfd ha

/-- A `select` reports the descriptors of entries that were added before it. -/
theorem select (h : Good fds position entries ws) (ready : List ℤ) :
    Good ((selectSet entries).filter (· ∈ ready)) 0 (cleanUp entries)
      (ws ++ [.selected ((selectSet entries).filter (· ∈ ready))]) where
  known ent hent := List.mem_append_left _ (h.known ent (List.mem_of_mem_filter hent))
  pending ent hent _ hfd := by
    refine ⟨ent.fd, _, ?_, hfd⟩
    have hadded := h.known ent (List.mem_of_mem_filter hent)
    exact (List.singleton_sublist.mpr hadded).append (List.Sublist.refl [_])
  justified := h.justified.concat nofun

/-- The walk goes on. -/
theorem next (h : Good fds position entries ws) : Good fds (position + 1) entries ws where
  known := h.known
  pending ent hent := by
    rw [← List.drop_drop] at hent
    exact h.pending ent (List.mem_of_mem_drop hent)
  justified := h.justified

/-- An entry that is reported is called, and fewer descriptors are left. -/
theorem call {fds' : List ℤ} {entry : ℕ} (h : Good fds position entries ws)
    (hentry : Reported ws entry) (hfds : fds' ⊆ fds) :
    Good fds' position entries (ws ++ [.called entry]) where
  known ent hent := List.mem_append_left _ (h.known ent hent)
  pending ent hent hclean hfd := (h.pending ent hent hclean (hfds hfd)).append _
  justified := h.justified.concat (by rintro _ ⟨⟩; exact hentry)

end Good

/-- The entry the walk has come to, if it is to be called. -/
theorem Loop.mem_of_current? {s : Loop} {ent : AtlasSchedEntry ℕ} (h : s.current? = some ent) :
    ent ∈ s.entries.drop s.position ∧ ent.dirty = false ∧ ent.fd ∈ s.readfds := by
  obtain ⟨hget, hready⟩ := Option.filter_eq_some_iff.mp h
  simp only [Bool.and_eq_true, Bool.not_eq_true', decide_eq_true_eq] at hready
  refine ⟨List.mem_of_getElem? (i := 0) ?_, hready⟩
  rw [List.getElem?_drop, Nat.add_zero]
  exact hget

/-- A step keeps the walk in order, unless its callback reuses the number of a descriptor that is
set in `readfds`. -/
theorem good_step {s : Loop} (h : Good s.readfds s.position s.entries ws) {e : Loop.Event}
    (he : reusesReady s e = false) :
    Good (s.step e).1.readfds (s.step e).1.position (s.step e).1.entries (ws ++ (s.step e).2) := by
  cases e with
  | call actions =>
    simp only [Loop.step]
    split
    · rw [List.append_nil]
      exact h
    · -- no entry is left for the walk, so nothing needs to be reported
      have hnone : Good [] s.position s.entries ws := ⟨h.known, nofun, h.justified⟩
      have hacts := hnone.acts (r := s.toRegistry) actions nofun
      exact ⟨hacts.known, by simp, hacts.justified⟩
  | select ready =>
    simp only [Loop.step]
    split
    · rw [List.append_nil]
      exact h
    · exact h.select ready
  | visit actions =>
    simp only [Loop.step]
    cases hcurrent : s.current? with
    | none =>
      rw [List.append_nil]
      exact h.next
    | some ent =>
      obtain ⟨hmem, hclean, hready⟩ := Loop.mem_of_current? hcurrent
      have hentry := h.pending ent hmem hclean hready
      have hcall := (h.call hentry (List.filter_sublist (p := (· ≠ ent.fd))).subset).next
      dsimp only
      rw [← List.singleton_append, ← List.append_assoc]
      refine hcall.acts (r := s.toRegistry) actions ?_
      intro fd hfd hadd
      obtain ⟨hfd, hne⟩ := List.mem_filter.mp hfd
      simp only [reusesReady, hcurrent, Option.any_some, List.any_eq_false] at he
      exact he fd hfd (by simpa using ⟨by simpa using hne, hadd⟩)

/-! ## Runs -/

/-- In every run in which no callback adds a descriptor whose number is still set in `readfds`,
other than its own, an entry is called only after a `select` that was performed after the entry was
added has reported its descriptor. -/
theorem called_only_when_reported (es : List Loop.Event)
    (hes : AllSteps Loop.step (fun s e => reusesReady s e = false) .init es) :
    Justified (trace Loop.step .init es) := by
  have hinit : Good Loop.init.readfds Loop.init.position Loop.init.entries [] :=
    ⟨nofun, nofun, justified_nil⟩
  have hrun := run_trace_of_allSteps
    (J := fun (s : Loop) ws => Good s.readfds s.position s.entries ws)
    (fun _ _ _ h he => good_step h he) hinit hes
  exact hrun.justified

/-- The data plane connector listens on descriptor 3 and its connection on descriptor 5. Both are
reported, and what is done by the callback for a new connection comes last. -/
def acceptRun (actions : List Action) : List Loop.Event :=
  [.call [.add 3, .add 5], .select [3, 5], .visit actions, .visit [], .visit []]

/-- The new connection gets a number that was not reported. -/
theorem called_only_when_reported_accept :
    AllSteps Loop.step (fun s e => reusesReady s e = false) .init (acceptRun [.del 5, .add 6]) ∧
      Justified (trace Loop.step .init (acceptRun [.del 5, .add 6])) :=
  ⟨by decide, called_only_when_reported _ (by decide)⟩

/-- The old connection is closed and the new one gets its number, which is still set in `readfds`:
the new entry is called without a report. -/
theorem accept_calls_unreported :
    trace Loop.step .init (acceptRun [.del 5, .add 5]) =
        [.added 0 3, .added 1 5, .selected [3, 5], .called 0, .added 2 5, .called 2] ∧
      ¬ Justified (trace Loop.step .init (acceptRun [.del 5, .add 5])) := by
  have htrace : trace Loop.step .init (acceptRun [.del 5, .add 5]) =
      [.added 0 3, .added 1 5, .selected [3, 5], .called 0, .added 2 5, .called 2] := by decide
  refine ⟨htrace, fun h => ?_⟩
  rw [htrace] at h
  obtain ⟨fd, ready, hsub, -⟩ :=
    h [.added 0 3, .added 1 5, .selected [3, 5], .called 0, .added 2 5] 2 (List.prefix_refl _)
  simp [List.sublist_cons_iff] at hsub

end Atlas.Client.Scheduler
