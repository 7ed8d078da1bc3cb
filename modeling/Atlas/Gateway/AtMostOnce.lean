import Atlas.Gateway.Moves

/-! # At-most-once acceptance

A command is new when its sequence number is above `sequenceNumber_`. As long as that counter only
rises, no number is stored or queued twice: the numbers accepted along a run ascend. The one handler
that can lower the counter is `handleOldCommand`, for a command below it whose row is still stored;
this is the only way to lose the property.
-/

namespace Atlas.Gateway

open EventMachine

/-- The sequence number of a row inserted in `DeviceCommand`. -/
def Effect.inserted? : Effect → Option UInt32
  | insertRow row => some row.sequenceNumber
  | _ => none

/-- The sequence number of a command appended to a received list. -/
def Effect.appended? : Effect → Option UInt32
  | appendRecv cmd => some cmd.sequenceNumber
  | _ => none

/-- The numbers inserted in `DeviceCommand`, in order. -/
def inserted (ws : List Effect) : List UInt32 := ws.filterMap Effect.inserted?

/-- The numbers appended to received lists, in order. -/
def appended (ws : List Effect) : List UInt32 := ws.filterMap Effect.appended?

@[simp] theorem inserted_append (ws ws' : List Effect) :
    inserted (ws ++ ws') = inserted ws ++ inserted ws' := List.filterMap_append

@[simp] theorem appended_append (ws ws' : List Effect) :
    appended (ws ++ ws') = appended ws ++ appended ws' := List.filterMap_append

namespace State

variable {crypto : Crypto} {env : Env} {g g' : State} {ws : List Effect}

/-- The event is a command that passes the checks, with a number below `sequenceNumber_` whose row
is still in `DeviceCommand`. -/
def recallsOlder (crypto : Crypto) (g : State) : Event → Bool
  | .clientCommand p =>
    match checkCommand crypto g p, p.seqNo.asUInt with
    | .ok (some _), some n =>
      n < g.sequenceNumber && g.db.deviceCommand.any (·.sequenceNumber = n)
    | _, _ => false
  | _ => false

/-- The memory and the database agree on the largest accepted number. -/
def CounterStored (g : State) : Prop := g.sequenceNumber = g.db.maxSequenceNumber

theorem fresh_counterStored (identity : StdString) (claimed : Bool) (key : StdString)
    (device : DeviceTable) : (fresh identity claimed key device).CounterStored := rfl

/-! ## Steps -/

/-- Moves accept nothing. -/
theorem Move.counter (h : Move env g ws g') :
    inserted ws = [] ∧ appended ws = [] ∧ g'.sequenceNumber = g.sequenceNumber ∧
      g'.db.maxSequenceNumber = g.db.maxSequenceNumber := by
  cases h <;> exact ⟨rfl, rfl, rfl, rfl⟩

theorem counter_of_path (p : Path (Move env) g ws g') :
    inserted ws = [] ∧ appended ws = [] ∧ g'.sequenceNumber = g.sequenceNumber ∧
      g'.db.maxSequenceNumber = g.db.maxSequenceNumber := by
  induction p with
  | refl => exact ⟨rfl, rfl, rfl, rfl⟩
  | head h _ ih =>
    obtain ⟨hins, happ, hseq, hmax⟩ := h.counter
    obtain ⟨hins', happ', hseq', hmax'⟩ := ih
    exact ⟨by simp [hins, hins'], by simp [happ, happ'], hseq'.trans hseq, hmax'.trans hmax⟩

/-- A recalled number is the current one unless an older row is recalled. -/
theorem eq_of_not_recallsOlder {p : CommandPayload} {clientIdentity type : StdString} {n : UInt32}
    (hnot : recallsOlder crypto g (.clientCommand p) = false)
    (hcheck : checkCommand crypto g p = .ok (some (clientIdentity, type)))
    (hseq : p.seqNo.asUInt = some n) (hle : n ≤ g.sequenceNumber)
    (hrow : g.db.checkDeviceCommandBySeqNo env.checkDeviceCommandBySeqNo n = true) :
    n = g.sequenceNumber := by
  simp only [Database.checkDeviceCommandBySeqNo, Bool.and_eq_true] at hrow
  simp only [recallsOlder, hcheck, hseq, hrow.2, Bool.and_true, decide_eq_false_iff_not] at hnot
  grind

/-- What a step accepts: nothing, or one number above the counter, which becomes the counter. -/
inductive Accepts (g : State) (ws : List Effect) (g' : State) : Prop where
  | nothing (hins : inserted ws = []) (happ : appended ws = [])
      (hseq : g'.sequenceNumber = g.sequenceNumber)
  | one (n : UInt32) (hlt : g.sequenceNumber < n) (hins : inserted ws = [n])
      (happ : appended ws = [n]) (hseq : g'.sequenceNumber = n)

theorem accepts_of_path {g₁ : State} (p : Path (Move env) g₁ ws g') (hg : g.CounterStored)
    (hseq : g₁.sequenceNumber = g.sequenceNumber)
    (hmax : g₁.db.maxSequenceNumber = g.db.maxSequenceNumber) :
    g'.CounterStored ∧ Accepts g ws g' := by
  obtain ⟨hins, happ, hseq', hmax'⟩ := counter_of_path p
  exact ⟨(hseq'.trans hseq).trans (hg.trans (hmax'.trans hmax).symm),
    .nothing hins happ (hseq'.trans hseq)⟩

/-- Without recalling an older row, a step accepts numbers above the stored counter only. -/
theorem Transition.accepts {e : Event} (hsql : env.SqlOk) (h : Transition crypto env g e ws g')
    (hg : g.CounterStored) (hnot : recallsOlder crypto g e = false) :
    g'.CounterStored ∧ Accepts g ws g' := by
  cases h with
  | moves p => exact accepts_of_path p hg rfl rfl
  | old hcheck hseq hle hrow q =>
    have heq := eq_of_not_recallsOlder hnot hcheck hseq hle hrow
    exact accepts_of_path q hg heq rfl
  | insert _ _ _ _ _ _ hmax => simp [hsql.insertDeviceCommand] at hmax
  | accept _ _ hlt _ _ hrow _ q =>
    obtain ⟨hins, happ, hseq', hmax'⟩ := counter_of_path q
    obtain ⟨-, -, id, -, rfl⟩ := Database.insertedRow_eq_some_iff.mp hrow
    refine ⟨hseq'.trans hmax'.symm, .one _ hlt ?_ ?_ hseq'⟩
    · rw [inserted_append, hins]
      rfl
    · rw [appended_append, happ]
      rfl
  | stray => exact ⟨hg, .nothing rfl rfl rfl⟩
  | executed _ _ _ _ q =>
    obtain ⟨hins, happ, hseq, hmax⟩ := counter_of_path q
    exact ⟨hseq.trans (hg.trans hmax.symm), .nothing hins happ hseq⟩
  | kept _ _ _ _ q => exact accepts_of_path q hg rfl rfl
  | returned _ _ _ _ q => exact accepts_of_path q hg rfl rfl
  | restart =>
    have hmax : (State.restart env g).sequenceNumber = g.sequenceNumber := by
      simp [State.restart, Database.getMaxSequenceNumber, hsql.getMaxSequenceNumber, hg.symm]
    exact ⟨hmax.trans hg, .nothing rfl rfl hmax⟩

/-- An older row that is recalled lowers the counter to its number. -/
theorem step_lt_of_recallsOlder (hsql : env.SqlOk) {e : Event}
    (h : recallsOlder crypto g e = true) :
    (step crypto g (e, env)).1.sequenceNumber < g.sequenceNumber := by
  cases e with
  | clientCommand p =>
    simp only [recallsOlder] at h
    split at h
    · rename_i r n hcheck hseq
      obtain ⟨clientIdentity, type⟩ := r
      simp only [Bool.and_eq_true, decide_eq_true_eq] at h
      have hle : n ≤ g.sequenceNumber := by grind
      have hrow : g.db.checkDeviceCommandBySeqNo env.checkDeviceCommandBySeqNo n = true := by
        simp [Database.checkDeviceCommandBySeqNo, hsql.checkDeviceCommandBySeqNo, h.2]
      have hn : (handleOldCommand env n clientIdentity g).gateway.sequenceNumber = n := by
        simp only [handleOldCommand, hrow, if_true]
        split
        · rw [responseCommandDONE_gateway, getDevice_sequenceNumber]
        · obtain ⟨m, c, a, hack⟩ := responseCommandACK_gateway env { g with sequenceNumber := n }
          rw [hack]
      simp only [step, handleClientCommand, hcheck, hseq, hle, if_true, hn]
      exact h.1
    · simp at h
  | _ => simp [recallsOlder] at h

/-! ## Runs -/

/-- The numbers a step stores, and those it queues, ascend from the counter. -/
theorem Accepts.ascends (h : Accepts g ws g') :
    Ascends g.sequenceNumber.toNat (ws.filterMap fun w => w.inserted?.map UInt32.toNat)
      g'.sequenceNumber.toNat ∧
    Ascends g.sequenceNumber.toNat (ws.filterMap fun w => w.appended?.map UInt32.toNat)
      g'.sequenceNumber.toNat := by
  rw [← List.map_filterMap, ← List.map_filterMap]
  cases h with
  | nothing hins happ hseq =>
    rw [hseq, ← inserted, hins, ← appended, happ]
    exact ⟨.refl _, .refl _⟩
  | one n hlt hins happ hseq =>
    have hlt' := UInt32.lt_iff_toNat_lt.mp hlt
    rw [hseq, ← inserted, hins, ← appended, happ]
    exact ⟨.single hlt', .single hlt'⟩

/-- In a run of a gateway from its installation on, with every database call succeeding, no number
is stored or queued twice and the counter never decreases, exactly when no step recalls an older
row. -/
theorem acceptedOnce_iff (crypto : Crypto) (identity : StdString) (claimed : Bool)
    (key : StdString) (device : DeviceTable) (es : List (Event × Env))
    (hsql : ∀ e ∈ es, e.2.SqlOk) :
    ((inserted (trace (step crypto) (fresh identity claimed key device) es)).Nodup ∧
      (appended (trace (step crypto) (fresh identity claimed key device) es)).Nodup ∧
      AllSteps (step crypto) (fun g e => g.sequenceNumber ≤ (step crypto g e).1.sequenceNumber)
        (fresh identity claimed key device) es) ↔
    AllSteps (step crypto) (fun g e => recallsOlder crypto g e.1 = false)
      (fresh identity claimed key device) es := by
  constructor
  · rintro ⟨-, -, hmono⟩
    refine (hmono.and_forall_mem hsql).mono fun g e ⟨hle, hok⟩ => ?_
    by_contra hrec
    have hlt := step_lt_of_recallsOlder hok (by simpa using hrec)
    grind
  · intro hnot
    have hadm := hnot.and_forall_mem hsql
    have hfresh := fresh_counterStored identity claimed key device
    have hstep := fun (g : State) (e : Event × Env) (hg : g.CounterStored)
      (h : recallsOlder crypto g e.1 = false ∧ e.2.SqlOk) =>
      (step_transition crypto e.2 g e.1).accepts h.2 hg h.1
    have hkeep := fun g e hg h => (hstep g e hg h).1
    refine ⟨.of_map UInt32.toNat ?_, .of_map UInt32.toNat ?_, ?_⟩
    · rw [inserted, List.map_filterMap]
      exact (ascends_of_allSteps (m := fun g => g.sequenceNumber.toNat) hkeep
        (fun g e hg h => (hstep g e hg h).2.ascends.1) hfresh hadm).nodup
    · rw [appended, List.map_filterMap]
      exact (ascends_of_allSteps (m := fun g => g.sequenceNumber.toNat) hkeep
        (fun g e hg h => (hstep g e hg h).2.ascends.2) hfresh hadm).nodup
    · exact allSteps_of_invariant hkeep
        (fun g e hg h => UInt32.le_iff_toNat_le.mpr (hstep g e hg h).2.ascends.1.le) hfresh hadm

/-- The theorem at a run with a restart and a retransmission of the newest command. -/
theorem acceptedOnce_restart :
    (appended (trace (step sampleCrypto) (fresh [] false [] sampleDevices)
      [(.clientCommand (sampleCommand "lamp" 1), .ok),
        (.clientCommand (sampleCommand "door" 2), .ok), (.restart, .ok),
        (.clientCommand (sampleCommand "door" 2), .ok)])).Nodup := by
  refine ((acceptedOnce_iff sampleCrypto [] false [] sampleDevices _ ?_).mpr ?_).2.1
  · simp [Env.ok_sqlOk]
  · decide

/-- Two commands to different clients, the first retransmitted with its row still stored, and the
second replayed. -/
def replayRun : List (Event × Env) :=
  [(.clientCommand (sampleCommand "lamp" 1), .ok), (.clientCommand (sampleCommand "door" 2), .ok),
    (.clientCommand (sampleCommand "lamp" 1), .ok), (.clientCommand (sampleCommand "door" 2), .ok)]

/-- The retransmission lowers the counter from 2 to 1, and the replay is accepted a second time. -/
theorem replayRun_accepts_twice :
    (∀ e ∈ replayRun, e.2.SqlOk) ∧
    inserted (trace (step sampleCrypto) (fresh [] false [] sampleDevices) replayRun) = [1, 2, 2] ∧
    appended (trace (step sampleCrypto) (fresh [] false [] sampleDevices) replayRun) = [1, 2, 2] ∧
    ¬ AllSteps (step sampleCrypto)
      (fun g e => g.sequenceNumber ≤ (step sampleCrypto g e).1.sequenceNumber)
      (fresh [] false [] sampleDevices) replayRun := by
  refine ⟨?_, by decide, by decide, by decide⟩
  simp [replayRun, Env.ok_sqlOk]

end State

end Atlas.Gateway
