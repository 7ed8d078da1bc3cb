import Mathlib.Data.List.Basic
import Mathlib.Order.Basic

/-! # Event-driven machines

A machine reacts to one event at a time: it moves to a new state and emits a list of outputs. The
module gives its runs, the outputs collected along a run, and the two ways of speaking about every
point of a run: `AllSteps` for what holds of a state and the event it is about to handle, and
`AllStates` for what holds of the states themselves.

The invariant rules (`Reachable.invariant`, `allSteps_of_invariant`, `allSteps_congr`) turn a fact
about one step into a fact about every run.
-/

namespace EventMachine

variable {σ ε ω : Type*} (step : σ → ε → σ × List ω)

/-- The state after handling the events in order. -/
def run (s : σ) : List ε → σ
  | [] => s
  | e :: es => run (step s e).1 es

/-- The outputs emitted along a run, in order. -/
def trace (s : σ) : List ε → List ω
  | [] => []
  | e :: es => (step s e).2 ++ trace (step s e).1 es

/-- `P` holds of the state and the event of every step of the run. -/
def AllSteps (P : σ → ε → Prop) (s : σ) : List ε → Prop
  | [] => True
  | e :: es => P s e ∧ AllSteps P (step s e).1 es

/-- `I` holds in every state of the run, its first and its last included. -/
def AllStates (I : σ → Prop) (s : σ) : List ε → Prop
  | [] => I s
  | e :: es => I s ∧ AllStates I (step s e).1 es

/-- `s` is reached from `s₀` by some finite run. -/
def Reachable (s₀ s : σ) : Prop := ∃ es, run step s₀ es = s

instance AllSteps.decidable {P : σ → ε → Prop} [∀ s e, Decidable (P s e)] :
    ∀ (s : σ) (es : List ε), Decidable (AllSteps step P s es)
  | _, [] => .isTrue trivial
  | s, e :: es => @instDecidableAnd _ _ _ (AllSteps.decidable (step s e).1 es)

@[simp] theorem run_nil (s : σ) : run step s [] = s := rfl

@[simp] theorem run_cons (s : σ) (e : ε) (es : List ε) :
    run step s (e :: es) = run step (step s e).1 es := rfl

@[simp] theorem trace_nil (s : σ) : trace step s [] = [] := rfl

@[simp] theorem trace_cons (s : σ) (e : ε) (es : List ε) :
    trace step s (e :: es) = (step s e).2 ++ trace step (step s e).1 es := rfl

theorem run_append (s : σ) (es es' : List ε) :
    run step s (es ++ es') = run step (run step s es) es' := by
  induction es generalizing s with
  | nil => rfl
  | cons e es ih => exact ih _

variable {step}

theorem AllSteps.mono {P Q : σ → ε → Prop} (hPQ : ∀ s e, P s e → Q s e) {s : σ} {es : List ε}
    (h : AllSteps step P s es) : AllSteps step Q s es := by
  induction es generalizing s with
  | nil => trivial
  | cons e es ih => exact ⟨hPQ s e h.1, ih h.2⟩

/-- A condition on the events alone is a condition on the steps. -/
theorem allSteps_of_forall_mem {Q : ε → Prop} {es : List ε} (h : ∀ e ∈ es, Q e) (s : σ) :
    AllSteps step (fun _ e => Q e) s es := by
  induction es generalizing s with
  | nil => trivial
  | cons e es ih =>
    obtain ⟨he, hes⟩ := List.forall_mem_cons.mp h
    exact ⟨he, ih hes (step s e).1⟩

/-- A condition on the events alone can be added to the condition on the steps. -/
theorem AllSteps.and_forall_mem {P : σ → ε → Prop} {Q : ε → Prop} {s : σ} {es : List ε}
    (h : AllSteps step P s es) (hQ : ∀ e ∈ es, Q e) :
    AllSteps step (fun s e => P s e ∧ Q e) s es := by
  induction es generalizing s with
  | nil => trivial
  | cons e es ih =>
    exact ⟨⟨h.1, hQ e List.mem_cons_self⟩,
      ih h.2 fun e' he' => hQ e' (List.mem_cons_of_mem _ he')⟩

/-- The first state of a run is one of its states. -/
theorem AllStates.first {I : σ → Prop} {s : σ} {es : List ε} (h : AllStates step I s es) : I s := by
  cases es with
  | nil => exact h
  | cons e es => exact h.1

/-- The last state of a run is one of its states. -/
theorem AllStates.last {I : σ → Prop} {s : σ} {es : List ε} (h : AllStates step I s es) :
    I (run step s es) := by
  induction es generalizing s with
  | nil => exact h
  | cons e es ih => exact ih h.2

theorem AllStates.mono {I J : σ → Prop} (hIJ : ∀ s, I s → J s) {s : σ} {es : List ε}
    (h : AllStates step I s es) : AllStates step J s es := by
  induction es generalizing s with
  | nil => exact hIJ s h
  | cons e es ih => exact ⟨hIJ s h.1, ih h.2⟩

/-- An invariant of the admitted steps between the states of a run holds in all of them. -/
theorem AllStates.of_invariant {P I : σ → Prop} {Q : σ → ε → Prop}
    (hstep : ∀ s e, P s → P (step s e).1 → Q s e → I s → I (step s e).1)
    {s : σ} {es : List ε} (h0 : I s) (h : AllStates step P s es) (hQ : AllSteps step Q s es) :
    AllStates step I s es := by
  induction es generalizing s with
  | nil => exact h0
  | cons e es ih => exact ⟨h0, ih (hstep s e h.1 h.2.first hQ.1 h0) h.2 hQ.2⟩

/-- Let `J` be an invariant of a state and the events still to come. If it implies `I`, admitted
steps preserve it, and the state after any other step violates `I`, then `I` holds in every state of
exactly the admitted runs. -/
theorem allStates_iff_allSteps {P : σ → ε → Prop} {I : σ → Prop} {J : σ → List ε → Prop}
    (hJI : ∀ s es, J s es → I s) (hstep : ∀ s e es, J s (e :: es) → P s e → J (step s e).1 es)
    (hbad : ∀ s e es, J s (e :: es) → ¬ P s e → ¬ I (step s e).1) {s : σ} {es : List ε}
    (h0 : J s es) : AllStates step I s es ↔ AllSteps step P s es := by
  induction es generalizing s with
  | nil => exact ⟨fun _ => trivial, fun _ => hJI s [] h0⟩
  | cons e es ih =>
    by_cases hP : P s e
    · simp only [AllStates, AllSteps, hP, true_and, ih (hstep s e es h0 hP)]
      exact ⟨fun h => h.2, fun h => ⟨hJI s _ h0, h⟩⟩
    · exact ⟨fun h => absurd h.2.first (hbad s e es h0 hP), fun h => absurd h.1 hP⟩

/-- Under an invariant of the admitted steps, what every admitted step satisfies is satisfied at
every step of an admitted run. -/
theorem allSteps_of_invariant {P Q : σ → ε → Prop} {I : σ → Prop}
    (hstep : ∀ s e, I s → P s e → I (step s e).1) (hQ : ∀ s e, I s → P s e → Q s e)
    {s : σ} {es : List ε} (h0 : I s) (h : AllSteps step P s es) : AllSteps step Q s es := by
  induction es generalizing s with
  | nil => trivial
  | cons e es ih => exact ⟨hQ s e h0 h.1, ih (hstep s e h0 h.1) h.2⟩

/-- An invariant of the admitted steps holds in every state of an admitted run, and so does what it
implies. -/
theorem allStates_of_invariant {P : σ → ε → Prop} {I J : σ → Prop}
    (hstep : ∀ s e, I s → P s e → I (step s e).1) (hIJ : ∀ s, I s → J s)
    {s : σ} {es : List ε} (h0 : I s) (h : AllSteps step P s es) : AllStates step J s es := by
  induction es generalizing s with
  | nil => exact hIJ s h0
  | cons e es ih => exact ⟨hIJ s h0, ih (hstep s e h0 h.1) h.2⟩

/-- An invariant of a state and the outputs emitted so far. -/
theorem run_trace_of_allSteps {P : σ → ε → Prop} {J : σ → List ω → Prop}
    (hstep : ∀ s e ws, J s ws → P s e → J (step s e).1 (ws ++ (step s e).2)) {s : σ} {es : List ε}
    {ws : List ω} (h0 : J s ws) (h : AllSteps step P s es) :
    J (run step s es) (ws ++ trace step s es) := by
  induction es generalizing s ws with
  | nil => simpa using h0
  | cons e es ih =>
    rw [trace_cons, ← List.append_assoc]
    exact ih (hstep s e ws h0 h.1) h.2

/-- An invariant of a state and the outputs since the start of the run. -/
theorem run_trace_of_invariant {J : σ → List ω → Prop}
    (hstep : ∀ s e ws, J s ws → J (step s e).1 (ws ++ (step s e).2)) {s : σ} (h0 : J s [])
    (es : List ε) : J (run step s es) (trace step s es) := by
  have htrue : AllSteps step (fun _ _ => True) s es :=
    allSteps_of_forall_mem (Q := fun _ => True) (fun _ _ => trivial) s
  have h := run_trace_of_allSteps (fun s e ws hJ _ => hstep s e ws hJ) h0 htrue
  rwa [List.nil_append] at h

/-- What every step preserves holds in every state reached. -/
theorem Reachable.invariant {I : σ → Prop} (hstep : ∀ s e, I s → I (step s e).1) {s₀ s : σ}
    (h0 : I s₀) (h : Reachable step s₀ s) : I s := by
  obtain ⟨es, rfl⟩ := h
  induction es generalizing s₀ with
  | nil => exact h0
  | cons e es ih => exact ih (hstep s₀ e h0)

/-- Two step conditions that agree wherever the invariant holds admit the same runs. -/
theorem allSteps_congr {P Q : σ → ε → Prop} {I : σ → Prop} {A : ε → Prop}
    (hstep : ∀ s e, A e → I s → P s e → I (step s e).1)
    (hPQ : ∀ s e, A e → I s → (P s e ↔ Q s e)) {s : σ} {es : List ε} (h0 : I s)
    (hA : ∀ e ∈ es, A e) : AllSteps step P s es ↔ AllSteps step Q s es := by
  induction es generalizing s with
  | nil => exact Iff.rfl
  | cons e es ih =>
    have he := hA e List.mem_cons_self
    have hes := fun e' he' => hA e' (List.mem_cons_of_mem _ he')
    simp only [AllSteps, hPQ s e he h0]
    refine and_congr_right fun hQ => ih (hstep s e he h0 ?_) hes
    exact (hPQ s e he h0).mpr hQ

/-- A property of every output of a run is a property of the outputs of each step. -/
theorem forall_mem_trace_iff {R : ω → Prop} {s : σ} {es : List ε} :
    (∀ w ∈ trace step s es, R w) ↔ AllSteps step (fun s e => ∀ w ∈ (step s e).2, R w) s es := by
  induction es generalizing s with
  | nil => simp [AllSteps]
  | cons e es ih => simp [AllSteps, List.mem_append, or_imp, forall_and, ih]

/-! ## Budgets

A budget bounds how often an output can still come. A step that emits it pays for it, so over a run
it comes at most as often as the budget of the first state allows. -/

section Budget

variable {P : σ → ε → Prop} {I : σ → Prop}

/-- Steps that pay for their outputs make runs that do. -/
theorem countP_trace_add_le {p : ω → Bool} {φ : σ → ℕ} (hstep : ∀ s e, I s → P s e → I (step s e).1)
    (hpay : ∀ s e, I s → P s e → (step s e).2.countP p + φ (step s e).1 ≤ φ s)
    {s : σ} {es : List ε} (h0 : I s) (h : AllSteps step P s es) :
    (trace step s es).countP p + φ (run step s es) ≤ φ s := by
  induction es generalizing s with
  | nil => simp
  | cons e es ih =>
    have hrest := ih (hstep s e h0 h.1) h.2
    have hfirst := hpay s e h0 h.1
    rw [trace_cons, List.countP_append, run_cons]
    omega

/-- Each of a family of outputs comes at most once in exactly the runs of admitted steps, if these
pay for their outputs and any other step emits one of them twice. -/
theorem countP_trace_le_one_iff {ι : Type*} {p : ι → ω → Bool} {φ : ι → σ → ℕ}
    (hstep : ∀ s e, I s → P s e → I (step s e).1)
    (hpay : ∀ s e, I s → P s e → ∀ i, (step s e).2.countP (p i) + φ i (step s e).1 ≤ φ i s)
    (hbad : ∀ s e, I s → ¬ P s e → ∃ i, 1 < (step s e).2.countP (p i))
    {s : σ} {es : List ε} (h0 : I s) (hφ : ∀ i, φ i s ≤ 1) :
    (∀ i, (trace step s es).countP (p i) ≤ 1) ↔ AllSteps step P s es := by
  constructor
  · intro hcount
    induction es generalizing s with
    | nil => trivial
    | cons e es ih =>
      simp only [trace_cons, List.countP_append] at hcount
      by_cases hP : P s e
      · refine ⟨hP, ih (hstep s e h0 hP) (fun i => ?_) fun i => ?_⟩
        · have := hpay s e h0 hP i
          have := hφ i
          omega
        · have := hcount i
          omega
      · obtain ⟨i, hi⟩ := hbad s e h0 hP
        have := hcount i
        omega
  · intro h i
    have := countP_trace_add_le (φ := φ i) hstep (fun s e hs he => hpay s e hs he i) h0 h
    have := hφ i
    omega

end Budget

/-! ## Paths of small moves

A handler that does several things is a path of small moves, each with its own outputs. What every
move preserves is then preserved by the handler. -/

/-- A finite sequence of moves with the outputs it emits. -/
inductive Path (move : σ → List ω → σ → Prop) : σ → List ω → σ → Prop where
  | refl (s : σ) : Path move s [] s
  | head {s s' s'' : σ} {ws ws' : List ω} (h : move s ws s') (p : Path move s' ws' s'') :
      Path move s (ws ++ ws') s''

namespace Path

variable {move : σ → List ω → σ → Prop} {s s' s'' : σ} {ws ws' : List ω}

theorem single (h : move s ws s') : Path move s ws s' := by
  simpa using Path.head h (.refl s')

theorem trans (p : Path move s ws s') (q : Path move s' ws' s'') : Path move s (ws ++ ws') s'' := by
  induction p with
  | refl s => simpa using q
  | head h _ ih => simpa [List.append_assoc] using Path.head h (ih q)

/-- What every move preserves, a path preserves. -/
theorem preserves {I : σ → Prop} (hmove : ∀ {s ws s'}, move s ws s' → I s → I s')
    (p : Path move s ws s') (h : I s) : I s' := by
  induction p with
  | refl s => exact h
  | head hm _ ih => exact ih (hmove hm h)

/-- An invariant of a state and the outputs since the start of the path. -/
theorem accumulates {J : σ → List ω → Prop}
    (hmove : ∀ {s ws s' ws'}, move s ws' s' → J s ws → J s' (ws ++ ws')) (p : Path move s ws s')
    (h : J s []) : J s' ws := by
  have hgen : ∀ ws₀, J s ws₀ → J s' (ws₀ ++ ws) := by
    clear h
    induction p with
    | refl s => simp
    | head hm _ ih =>
      intro ws₀ h
      rw [← List.append_assoc]
      exact ih _ (hmove hm h)
  exact hgen [] h

/-- A machine whose steps are paths under `R` runs along a path. The moves show what `view` keeps of
the outputs. -/
theorem exists_of_simulation {τ ψ : Type*} {step : τ → ε → τ × List ψ} {view : ψ → Option ω}
    {R : τ → σ → Prop}
    (hstep : ∀ t s e, R t s →
      ∃ s', Path move s ((step t e).2.filterMap view) s' ∧ R (step t e).1 s')
    {t : τ} (h : R t s) (es : List ε) :
    ∃ s', Path move s ((trace step t es).filterMap view) s' ∧ R (run step t es) s' := by
  induction es generalizing t s with
  | nil => exact ⟨s, .refl s, h⟩
  | cons e es ih =>
    obtain ⟨s', p, h'⟩ := hstep t s e h
    obtain ⟨s'', q, h''⟩ := ih h'
    refine ⟨s'', ?_, h''⟩
    rw [trace_cons, List.filterMap_append]
    exact p.trans q

/-- What every move guarantees of its outputs, where `I` holds, a path guarantees of all of them. -/
theorem forall_mem {I : σ → Prop} {R : ω → Prop}
    (hmove : ∀ {s ws s'}, move s ws s' → I s → I s' ∧ ∀ w ∈ ws, R w)
    (p : Path move s ws s') (h : I s) : ∀ w ∈ ws, R w := by
  induction p with
  | refl s => simp
  | head hm _ ih =>
    obtain ⟨h', hws⟩ := hmove hm h
    exact fun w hw => (List.mem_append.mp hw).elim (hws w) (ih h' w)

end Path

/-! ## Ascending keys

Outputs that carry keys above a measure of the state they leave behind come out strictly ascending,
so no key is emitted twice. -/

/-- The keys `ks` ascend strictly from above `a` up to `b`. -/
structure Ascends {α : Type*} [Preorder α] (a : α) (ks : List α) (b : α) : Prop where
  le : a ≤ b
  pairwise : ks.Pairwise (· < ·)
  bound : ∀ k ∈ ks, a < k ∧ k ≤ b

section Ascends

variable {α : Type*} [Preorder α] {key : ω → Option α} {m : σ → α}

theorem Ascends.refl (a : α) : Ascends a [] a := ⟨le_refl a, .nil, by simp⟩

theorem Ascends.trans {a b c : α} {ks ks' : List α} (h : Ascends a ks b) (h' : Ascends b ks' c) :
    Ascends a (ks ++ ks') c where
  le := h.le.trans h'.le
  pairwise := List.pairwise_append.mpr ⟨h.pairwise, h'.pairwise,
    fun k hk k' hk' => (h.bound k hk).2.trans_lt (h'.bound k' hk').1⟩
  bound k hk := by
    rcases List.mem_append.mp hk with hk | hk
    · exact ⟨(h.bound k hk).1, (h.bound k hk).2.trans h'.le⟩
    · exact ⟨h.le.trans_lt (h'.bound k hk).1, (h'.bound k hk).2⟩

theorem Ascends.single {a b : α} (h : a < b) : Ascends a [b] b :=
  ⟨h.le, List.pairwise_singleton _ _, by simp [h]⟩

theorem Ascends.nodup {a b : α} {ks : List α} (h : Ascends a ks b) : ks.Nodup :=
  h.pairwise.imp fun hlt => hlt.ne

/-- Steps that ascend under an invariant make runs that ascend. -/
theorem ascends_of_allSteps {P : σ → ε → Prop} {I : σ → Prop}
    (hstep : ∀ s e, I s → P s e → I (step s e).1)
    (hasc : ∀ s e, I s → P s e →
      Ascends (m s) ((step s e).2.filterMap key) (m (step s e).1))
    {s : σ} {es : List ε} (h0 : I s) (h : AllSteps step P s es) :
    Ascends (m s) ((trace step s es).filterMap key) (m (run step s es)) := by
  induction es generalizing s with
  | nil => exact .refl _
  | cons e es ih =>
    rw [trace_cons, List.filterMap_append]
    exact (hasc s e h0 h.1).trans (ih (hstep s e h0 h.1) h.2)

end Ascends

end EventMachine
