import Atlas.Client.Register
import Atlas.Lib.Heartbeat

/-! # The keep-alive budget

The keep-alive count is to start the registration again at the third keep-alive that fails in a row.
A successful keep-alive sets the count, but a successful registration does not: it leaves the count
where the registration before has left it, usually at zero. The count is a byte, so the first
registration is triggered at the failure number 256 if no keep-alive has succeeded until then.

Reference: `register/atlas_register.c` (`keepalive_callback`, `reg_callback`).
-/

namespace Atlas.Client.Register

open ByteOrder EventMachine Heartbeat

variable (host : ByteOrder)

/-! ## Outcomes -/

/-- What the outcome of a keep-alive request in flight says about the registration. -/
def result? (s : State) : Event → Option Result
  | .keepaliveOutcome respStatus respPayload _ =>
    if s.keepalives = 0 then none
    else if keepaliveSucceeds host respStatus respPayload s then some .success
    else if respStatus = .notFound ∨ respStatus = .notAcceptableHere then some .forgotten
    else some .failed
  | _ => none

/-- The outcomes of the keep-alive requests along a run. -/
def results (s : State) : List Event → List Result
  | [] => []
  | e :: es => (result? host s e).toList ++ results (step host s e).1 es

/-- For each of these outcomes, whether a registration is triggered at it. -/
def triggers (s : State) : List Event → List Bool
  | [] => []
  | e :: es =>
    ((result? host s e).map fun _ => decide ((step host s e).2 ≠ [])).toList ++
      triggers (step host s e).1 es

/-! ## The count -/

/-- How many failures in a row the count allows. At zero it wraps around. -/
def failuresLeft (kaCount : UInt8) : ℕ := if kaCount = 0 then 256 else kaCount.toNat

theorem failuresLeft_pos (kaCount : UInt8) : 0 < failuresLeft kaCount := by
  rw [failuresLeft]
  split
  case isTrue => decide
  case isFalse hne =>
    rw [← UInt8.toNat_inj] at hne
    exact Nat.pos_of_ne_zero hne

theorem toNat_sub_one (kaCount : UInt8) : (kaCount - 1).toNat = failuresLeft kaCount - 1 := by
  have hsub : (kaCount - 1).toNat = (255 + kaCount.toNat) % 256 := UInt8.toNat_sub kaCount 1
  have hlt := kaCount.toNat_lt
  rw [hsub, failuresLeft]
  split
  case isTrue hzero =>
    rw [hzero]
    rfl
  case isFalse hne =>
    rw [← UInt8.toNat_inj] at hne
    have hpos : 0 < kaCount.toNat := Nat.pos_of_ne_zero hne
    omega

theorem failuresLeft_eq_one_iff (kaCount : UInt8) : failuresLeft kaCount = 1 ↔ kaCount - 1 = 0 := by
  have hpos := failuresLeft_pos kaCount
  rw [← UInt8.toNat_inj, toNat_sub_one, UInt8.toNat_zero]
  omega

theorem failuresLeft_sub_one {kaCount : UInt8} (h : failuresLeft kaCount ≠ 1) :
    failuresLeft (kaCount - 1) = failuresLeft kaCount - 1 := by
  rw [← toNat_sub_one, failuresLeft, if_neg (mt (failuresLeft_eq_one_iff kaCount).mpr h)]

variable {host} {s : State} {e : Event}

/-- Without the outcome of a keep-alive the count stays. -/
theorem kaCount_step_of_none (h : result? host s e = none) :
    (step host s e).1.kaCount = s.kaCount := by
  cases e with
  | registerOutcome respStatus alarmId =>
    rw [step]
    split
    · rfl
    · rw [regCallback]
      split <;> rfl
  | keepaliveOutcome respStatus respPayload status =>
    rw [result?] at h
    split_ifs at h with hnone
    rw [step, if_pos hnone]
  | retryAlarm status =>
    rw [step]
    split
    · rfl
    · rw [sendRegisterCommand]
      split <;> rfl
  | keepaliveAlarm status =>
    rw [step]
    split
    · rfl
    · rw [sendKeepaliveCommand]
      dsimp only
      split <;> rfl

/-- An outcome sets the count, and a registration is triggered when it becomes zero. -/
theorem step_of_result {r : Result} (h : result? host s e = some r) :
    (step host s e).1.kaCount = (match r with
      | .success => atlasClientKeepaliveCount
      | .forgotten => 0
      | .failed => s.kaCount - 1) ∧
    ((step host s e).2 ≠ [] ↔ match r with
      | .success => False
      | .forgotten => True
      | .failed => s.kaCount - 1 = 0) := by
  cases e with
  | keepaliveOutcome respStatus respPayload status =>
    rw [result?] at h
    rw [step]
    split_ifs at h with hnone hsuccess hforgotten
    · cases h
      rw [if_neg hnone, keepaliveCallback,
        if_pos (show keepaliveSucceeds host respStatus respPayload
        { s with keepalives := s.keepalives - 1 } = true from hsuccess)]
      exact ⟨rfl, by simp⟩
    · cases h
      have hfailed : ¬ keepaliveSucceeds host respStatus respPayload
          { s with keepalives := s.keepalives - 1 } = true := hsuccess
      have hcount : failedCount respStatus { s with keepalives := s.keepalives - 1 } = 0 := by
        rw [failedCount, if_pos hforgotten]
        rfl
      rw [if_neg hnone, keepaliveCallback, if_neg hfailed]
      dsimp only
      rw [if_pos hcount, sendRegisterCommand]
      refine ⟨?_, by simp⟩
      split <;> exact hcount
    · cases h
      have hfailed : ¬ keepaliveSucceeds host respStatus respPayload
          { s with keepalives := s.keepalives - 1 } = true := hsuccess
      have hcount : failedCount respStatus { s with keepalives := s.keepalives - 1 } =
          s.kaCount - 1 := by
        rw [failedCount, if_neg hforgotten]
      rw [if_neg hnone, keepaliveCallback, if_neg hfailed]
      dsimp only
      rw [hcount]
      split_ifs with hzero
      · rw [sendRegisterCommand]
        refine ⟨?_, by simp [hzero]⟩
        split <;> rfl
      · exact ⟨rfl, by simp [hzero]⟩
  | _ => cases h

/-- Registrations are triggered as by a counter, until the first one. -/
theorem first_triggers (s : State) (es : List Event) :
    first (triggers host s es) =
      first (countdown 3 (failuresLeft s.kaCount) (results host s es)) := by
  induction es generalizing s with
  | nil => rfl
  | cons e es ih =>
    rw [triggers, results]
    cases hresult : result? host s e with
    | none =>
      have hcount := kaCount_step_of_none hresult
      exact hcount ▸ ih (step host s e).1
    | some r =>
      obtain ⟨hcount, hregister⟩ := step_of_result hresult
      have hrest := ih (step host s e).1
      rw [hcount] at hrest
      cases r with
      | success =>
        have hflag : decide ((step host s e).2 ≠ []) = false :=
          decide_eq_false fun h => hregister.mp h
        simp only [Option.map_some, Option.toList_some, List.singleton_append, hflag, countdown]
        rw [first_false_inj]
        exact hrest
      | forgotten =>
        have hflag : decide ((step host s e).2 ≠ []) = true :=
          decide_eq_true (hregister.mpr trivial)
        simp only [Option.map_some, Option.toList_some, List.singleton_append, hflag, countdown,
          first_true]
      | failed =>
        simp only [Option.map_some, Option.toList_some, List.singleton_append, countdown]
        by_cases hone : failuresLeft s.kaCount = 1
        · have hzero := (failuresLeft_eq_one_iff s.kaCount).mp hone
          rw [decide_eq_true (hregister.mpr hzero), decide_eq_true hone, first_true, first_true]
        · have hzero := fun h => hone ((failuresLeft_eq_one_iff s.kaCount).mpr (hregister.mp h))
          rw [decide_eq_false hzero, decide_eq_false hone, first_false_inj,
            ← failuresLeft_sub_one hone]
          exact hrest

/-! ## Sessions -/

theorem failuresLeft_eq_three_iff (kaCount : UInt8) : failuresLeft kaCount = 3 ↔ kaCount = 3 := by
  rw [failuresLeft]
  split
  case isTrue hzero =>
    rw [hzero]
    decide
  case isFalse => exact UInt8.toNat_inj (b := 3)

/-- After a successful registration in any run, the next one is triggered at the first keep-alive
that shows that the gateway has forgotten the client or is the third to fail in a row, and not
before, exactly if the registration has found the count at three, or the keep-alives do not start
with three failures, or with as many as the count allows if these are less. -/
theorem first_triggers_eq_dues_iff (host : ByteOrder) (status : RequestStatus) (es : List Event)
    (alarmId : ℤ) (es' : List Event) :
    let s := run (step host) (atlasRegisterStart status) es
    let registered := (step host s (.registerOutcome .ok alarmId)).1
    first (triggers host registered es') = first (dues 3 0 (results host registered es')) ↔
      s.kaCount = 3 ∨
        ¬ List.replicate (min (failuresLeft s.kaCount) 3) .failed <+:
          results host registered es' := by
  intro s registered
  have hcount : registered.kaCount = s.kaCount := kaCount_step_of_none rfl
  rw [first_triggers, hcount, first_dues (by decide : 0 < 3),
    first_countdown_eq_iff (failuresLeft_pos _) (by decide), failuresLeft_eq_three_iff]

/-- Keep-alives that all time out. -/
def timeouts (n : ℕ) : List Event :=
  (List.replicate n [.keepaliveAlarm .ok, .keepaliveOutcome .timeout none .ok]).flatten

/-- The first registration is successful, and three keep-alives time out: no registration is
triggered, though it is due at the third. -/
theorem no_trigger_after_three_timeouts :
    (atlasRegisterStart .ok).registers = 1 ∧
      let registered := (step .little (atlasRegisterStart .ok) (.registerOutcome .ok 7)).1
      registered.registered = true ∧
        results .little registered (timeouts 3) = [.failed, .failed, .failed] ∧
        first (triggers .little registered (timeouts 3)) = none ∧
        first (dues 3 0 (results .little registered (timeouts 3))) = some 2 := by
  decide

end Atlas.Client.Register
