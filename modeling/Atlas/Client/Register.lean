import Atlas.Client.CoapClient

/-! # Registration of the client

The client registers with its gateway and then sends keep-alive requests. A failed registration is
tried again after an alarm; when the keep-alive count reaches zero the client registers anew.
Between two callbacks the client is therefore waiting for a REGISTER request, for the retry alarm or
for the keep-alive alarm. Only a REGISTER request that cannot be sent breaks this: the error is
logged, and no alarm is set to try again (`Waiting.not_trying_of_lost`).

Reference: `register/atlas_register.c`, `coap/atlas_coap_client.c` (`atlas_coap_client_request`).
-/

namespace Atlas.Client

open ByteOrder EventMachine

namespace Register

/-- The static variables of the module, and what is under way on its behalf: the REGISTER requests
in flight, the retry alarms that are set, the identifiers of the keep-alive alarms that are running
and the keep-alive requests in flight. -/
structure State where
  registered : Bool
  kaToken : UInt16
  kaCount : UInt8
  kaAlarmId : ℤ
  registers : ℕ
  retryAlarms : ℕ
  kaAlarms : List ℤ
  keepalives : ℕ
deriving DecidableEq

/-- Before `atlas_register_start`. -/
def State.init : State := ⟨false, 0, 0, 0, 0, 0, [], 0⟩

/-- The requests the module tries to send. -/
inductive Output where
  | register (status : RequestStatus)
  | keepalive (token : UInt16) (status : RequestStatus)
deriving DecidableEq

/-- `ATLAS_CLIENT_KEEPALIVE_COUNT`. -/
def atlasClientKeepaliveCount : UInt8 := 3

/-- `send_register_command`. -/
def sendRegisterCommand (status : RequestStatus) (s : State) : State × List Output :=
  (if status = .ok then { s with registers := s.registers + 1 } else s, [.register status])

/-- `send_keepalive_command`. -/
def sendKeepaliveCommand (status : RequestStatus) (s : State) : State × List Output :=
  let s := { s with kaToken := s.kaToken + 1 }
  (if status = .ok then { s with keepalives := s.keepalives + 1 } else s,
    [.keepalive s.kaToken status])

/-- `reg_callback`. The alarm it sets, for a retry or for keep-alives, gets the identifier
`alarmId`. -/
def regCallback (respStatus : AtlasCoapResponse) (alarmId : ℤ) (s : State) : State :=
  if respStatus ≠ .ok then { s with retryAlarms := s.retryAlarms + 1 }
  else { s with registered := true, kaAlarmId := alarmId, kaAlarms := s.kaAlarms ++ [alarmId] }

variable (host : ByteOrder)

/-- The keep-alive is answered with OK and its token. -/
def keepaliveSucceeds (respStatus : AtlasCoapResponse) (respPayload : Option (List UInt8))
    (s : State) : Bool :=
  match respStatus, respPayload with
  | .ok, some (b₀ :: b₁ :: _) => load16 host b₀ b₁ = s.kaToken
  | _, _ => false

/-- The keep-alive count after a failed keep-alive. -/
def failedCount (respStatus : AtlasCoapResponse) (s : State) : UInt8 :=
  (if respStatus = .notFound ∨ respStatus = .notAcceptableHere then 1 else s.kaCount) - 1

/-- `keepalive_callback`. -/
def keepaliveCallback (respStatus : AtlasCoapResponse) (respPayload : Option (List UInt8))
    (status : RequestStatus) (s : State) : State × List Output :=
  if keepaliveSucceeds host respStatus respPayload s then
    ({ s with kaCount := atlasClientKeepaliveCount }, [])
  else
    let s := { s with kaCount := failedCount respStatus s }
    if s.kaCount = 0 then
      sendRegisterCommand status
        { s with registered := false, kaAlarms := s.kaAlarms.erase s.kaAlarmId, kaAlarmId := -1 }
    else (s, [])

/-- A callback of the module, with what the calls it makes return. -/
inductive Event where
  | registerOutcome (respStatus : AtlasCoapResponse) (alarmId : ℤ)
  | keepaliveOutcome (respStatus : AtlasCoapResponse) (respPayload : Option (List UInt8))
      (status : RequestStatus)
  | retryAlarm (status : RequestStatus)
  | keepaliveAlarm (status : RequestStatus)
deriving DecidableEq

/-- A request in flight gets one callback, a retry alarm fires once, and a keep-alive alarm fires as
long as it is running. -/
def step (s : State) : Event → State × List Output
  | .registerOutcome respStatus alarmId =>
    if s.registers = 0 then (s, [])
    else (regCallback respStatus alarmId { s with registers := s.registers - 1 }, [])
  | .keepaliveOutcome respStatus respPayload status =>
    if s.keepalives = 0 then (s, [])
    else keepaliveCallback host respStatus respPayload status
      { s with keepalives := s.keepalives - 1 }
  | .retryAlarm status =>
    if s.retryAlarms = 0 then (s, [])
    else sendRegisterCommand status { s with retryAlarms := s.retryAlarms - 1 }
  | .keepaliveAlarm status =>
    if s.kaAlarms = [] then (s, []) else sendKeepaliveCommand status s

/-- `atlas_register_start`. -/
def atlasRegisterStart (status : RequestStatus) : State := (sendRegisterCommand status .init).1

/-! ## Trying to be registered -/

/-- A keep-alive gets its callback before the next tick of the keep-alive alarm. -/
def Admits (s : State) : Event → Prop
  | .keepaliveAlarm _ => s.keepalives = 0
  | _ => True

/-- The keep-alive alarm is running and the client is registered. -/
def State.isKeptAlive (s : State) : Bool := s.kaAlarms ≠ [] && s.registered

/-- Exactly one of three: a REGISTER request is in flight, a retry alarm is set, or the keep-alive
alarm of a registered client is running. -/
def Trying (s : State) : Prop :=
  [decide (0 < s.registers), decide (0 < s.retryAlarms), s.isKeptAlive].count true = 1

/-- The callback is to send a REGISTER request, which cannot be sent. -/
def losesRegister (s : State) : Event → Bool
  | .keepaliveOutcome respStatus respPayload status =>
    s.keepalives ≠ 0 && !keepaliveSucceeds host respStatus respPayload s &&
      failedCount respStatus s = 0 && status ≠ .ok
  | .retryAlarm status => s.retryAlarms ≠ 0 && status ≠ .ok
  | _ => false

/-- One thing is under way. If it is the keep-alive alarm, the client is registered and knows its
identifier, and only then a keep-alive request may be in flight. -/
structure Waiting (s : State) : Prop where
  one : s.registers + s.retryAlarms + s.kaAlarms.length = 1
  kept : ∀ id ∈ s.kaAlarms, s.registered = true ∧ s.kaAlarmId = id
  keepalives : s.keepalives ≤ s.kaAlarms.length

variable {host} {s : State}

/-- Nothing is under way. -/
theorem not_trying (hreg : s.registers = 0) (hretry : s.retryAlarms = 0) (hka : s.kaAlarms = []) :
    ¬ Trying s := by
  simp [Trying, State.isKeptAlive, hreg, hretry, hka]

namespace Waiting

/-- The keep-alive alarm is the one thing under way. -/
theorem kaAlarms_eq (h : Waiting s) (hka : s.kaAlarms ≠ []) :
    s.kaAlarms = [s.kaAlarmId] ∧ s.registered = true ∧ s.registers = 0 ∧ s.retryAlarms = 0 := by
  obtain ⟨id, rest, heq⟩ := List.exists_cons_of_ne_nil hka
  have hone := h.one
  rw [heq, List.length_cons] at hone
  obtain rfl : rest = [] := List.eq_nil_of_length_eq_zero (by omega)
  obtain ⟨hreg, hid⟩ := h.kept id (heq ▸ List.mem_singleton_self id)
  exact ⟨by rw [heq, hid], hreg, by omega, by omega⟩

theorem trying (h : Waiting s) : Trying s := by
  have hone := h.one
  by_cases hka : s.kaAlarms = []
  · rw [hka, List.length_nil, Nat.add_zero] at hone
    rcases Nat.add_eq_one_iff.mp hone with ⟨hreg, hretry⟩ | ⟨hreg, hretry⟩ <;>
      simp [Trying, State.isKeptAlive, hka, hreg, hretry]
  · obtain ⟨heq, hreg, hzero, hretry⟩ := h.kaAlarms_eq hka
    simp [Trying, State.isKeptAlive, heq, hreg, hzero, hretry]

/-- A REGISTER request is sent when nothing else is under way. -/
theorem sendRegisterCommand_ok (hreg : s.registers = 0) (hretry : s.retryAlarms = 0)
    (hka : s.kaAlarms = []) (hkeepalives : s.keepalives = 0) :
    Waiting (sendRegisterCommand .ok s).1 where
  one := by simp [sendRegisterCommand, hreg, hretry, hka]
  kept := by simp [sendRegisterCommand, hka]
  keepalives := by simp [sendRegisterCommand, hka, hkeepalives]

/-- The outcome of a REGISTER request: a retry alarm or the keep-alive alarm is set in its place. -/
theorem registerOutcome (h : Waiting s) (respStatus : AtlasCoapResponse) (alarmId : ℤ) :
    Waiting (step host s (.registerOutcome respStatus alarmId)).1 := by
  simp only [step]
  split
  case isTrue => exact h
  case isFalse hreg =>
    have hone := h.one
    obtain ⟨hka, hretry⟩ : s.kaAlarms.length = 0 ∧ s.retryAlarms = 0 := by omega
    have hkeepalives := h.keepalives
    rw [List.length_eq_zero_iff] at hka
    rw [hka] at hkeepalives
    simp only [regCallback]
    split
    · exact ⟨by simp [hka]; omega, by simp [hka], by simpa [hka] using hkeepalives⟩
    · exact ⟨by simp [hka]; omega, by simp [hka],
        by simp [hka]; exact Nat.le_succ_of_le hkeepalives⟩

/-- The keep-alive alarm fires when no keep-alive request is in flight. -/
theorem keepaliveAlarm (h : Waiting s) {status : RequestStatus}
    (hadmits : Admits s (.keepaliveAlarm status)) :
    Waiting (step host s (.keepaliveAlarm status)).1 := by
  simp only [step]
  split
  case isTrue => exact h
  case isFalse hka =>
    have hnone : s.keepalives = 0 := hadmits
    simp only [sendKeepaliveCommand]
    split
    · refine ⟨h.one, h.kept, ?_⟩
      rw [hnone]
      exact List.length_pos_iff.mpr hka
    · exact ⟨h.one, h.kept, h.keepalives⟩

/-- The retry alarm fires, and the REGISTER request is sent. -/
theorem retryAlarm (h : Waiting s) {status : RequestStatus}
    (hsent : losesRegister host s (.retryAlarm status) = false) :
    Waiting (step host s (.retryAlarm status)).1 := by
  simp only [step]
  split
  case isTrue => exact h
  case isFalse hretry =>
    have hone := h.one
    have hkeepalives := h.keepalives
    obtain rfl : status = .ok := by simpa [losesRegister, hretry] using hsent
    have hka : s.kaAlarms = [] := List.length_eq_zero_iff.mp (by omega)
    rw [hka] at hkeepalives
    exact sendRegisterCommand_ok (by dsimp only; omega) (by dsimp only; omega) hka
      (Nat.le_zero.mp hkeepalives)

/-- The outcome of a keep-alive request: the alarm goes on, or a REGISTER request is sent in its
place. -/
theorem keepaliveOutcome (h : Waiting s) {respStatus : AtlasCoapResponse}
    {respPayload : Option (List UInt8)} {status : RequestStatus}
    (hsent : losesRegister host s (.keepaliveOutcome respStatus respPayload status) = false) :
    Waiting (step host s (.keepaliveOutcome respStatus respPayload status)).1 := by
  simp only [step]
  split
  case isTrue => exact h
  case isFalse hkeepalives =>
    have hle : s.keepalives - 1 ≤ s.kaAlarms.length := Nat.le_trans (Nat.sub_le _ 1) h.keepalives
    have hka : s.kaAlarms ≠ [] := List.length_pos_iff.mp (by have := h.keepalives; omega)
    obtain ⟨heq, -, hreg, hretry⟩ := h.kaAlarms_eq hka
    have hlength := h.keepalives
    rw [heq, List.length_singleton] at hlength
    simp only [keepaliveCallback]
    split
    case isTrue => exact ⟨h.one, h.kept, hle⟩
    case isFalse hfailed =>
      split
      case isFalse => exact ⟨h.one, h.kept, hle⟩
      case isTrue hzero =>
        obtain rfl : status = .ok := by
          by_contra hne
          have hlost :
              losesRegister host s (.keepaliveOutcome respStatus respPayload status) = true := by
            simp only [losesRegister, Bool.and_eq_true, decide_eq_true_eq, Bool.not_eq_true']
            exact ⟨⟨⟨hkeepalives, eq_false_of_ne_true hfailed⟩, hzero⟩, hne⟩
          rw [hlost] at hsent
          cases hsent
        refine sendRegisterCommand_ok hreg hretry ?_ (by dsimp only; omega)
        simp [heq]

/-- A REGISTER request that cannot be sent leaves nothing under way. -/
theorem not_trying_of_lost (h : Waiting s) {e : Event} (hlost : losesRegister host s e = true) :
    ¬ Trying (step host s e).1 := by
  have hone := h.one
  cases e with
  | registerOutcome | keepaliveAlarm => cases hlost
  | retryAlarm status =>
    simp only [losesRegister, Bool.and_eq_true, decide_eq_true_eq] at hlost
    have hka : s.kaAlarms = [] := List.length_eq_zero_iff.mp (by omega)
    simp only [step, if_neg hlost.1, sendRegisterCommand, if_neg hlost.2]
    exact not_trying (by dsimp only; omega) (by dsimp only; omega) hka
  | keepaliveOutcome respStatus respPayload status =>
    simp only [losesRegister, Bool.and_eq_true, decide_eq_true_eq, Bool.not_eq_true'] at hlost
    obtain ⟨⟨⟨hkeepalives, hfailed⟩, hzero⟩, hstatus⟩ := hlost
    have hka : s.kaAlarms ≠ [] := List.length_pos_iff.mp (by have := h.keepalives; omega)
    obtain ⟨heq, -, hreg, hretry⟩ := h.kaAlarms_eq hka
    have hfailed' : keepaliveSucceeds host respStatus respPayload
        { s with keepalives := s.keepalives - 1 } = false := hfailed
    have hzero' : failedCount respStatus { s with keepalives := s.keepalives - 1 } = 0 := hzero
    simp only [step, if_neg hkeepalives, keepaliveCallback, hfailed', Bool.false_eq_true, if_false,
      hzero', if_true, sendRegisterCommand, if_neg hstatus]
    exact not_trying hreg hretry (by simp [heq])

end Waiting

/-! ## Runs -/

/-- After `atlas_register_start`, over any outcomes of requests and of attempts to send them, the
client is always trying to be registered if and only if every REGISTER request can be sent. -/
theorem always_trying_iff_sent (host : ByteOrder) (status : RequestStatus) (es : List Event)
    (hes : AllSteps (step host) Admits (atlasRegisterStart status) es) :
    AllStates (step host) Trying (atlasRegisterStart status) es ↔
      status = .ok ∧
        AllSteps (step host) (fun s e => losesRegister host s e = false)
          (atlasRegisterStart status) es := by
  by_cases hstatus : status = .ok
  · subst hstatus
    rw [eq_self_iff_true, true_and]
    refine allStates_iff_allSteps
      (J := fun s es => Waiting s ∧ AllSteps (step host) Admits s es) (fun s es h => h.1.trying) ?_
      ?_ ⟨Waiting.sendRegisterCommand_ok rfl rfl rfl rfl, hes⟩
    · rintro s e es ⟨hwaiting, hadmits, hes⟩ hsent
      refine ⟨?_, hes⟩
      cases e with
      | registerOutcome respStatus alarmId => exact hwaiting.registerOutcome respStatus alarmId
      | keepaliveOutcome respStatus respPayload status => exact hwaiting.keepaliveOutcome hsent
      | retryAlarm status => exact hwaiting.retryAlarm hsent
      | keepaliveAlarm status => exact hwaiting.keepaliveAlarm hadmits
    · rintro s e es ⟨hwaiting, -⟩ hlost
      exact hwaiting.not_trying_of_lost (by simpa using hlost)
  · refine ⟨fun h => absurd h.first ?_, fun h => absurd h.1 hstatus⟩
    rw [atlasRegisterStart, sendRegisterCommand, if_neg hstatus]
    exact not_trying rfl rfl rfl

/-- The client registers, gets one keep-alive through, is forgotten by the gateway and registers
again. -/
def sampleRun : List Event :=
  [.registerOutcome .timeout 7, .retryAlarm .ok, .registerOutcome .ok 8, .keepaliveAlarm .ok,
    .keepaliveOutcome .ok (some [1, 0]) .ok, .keepaliveAlarm .ok,
    .keepaliveOutcome .notFound none .ok]

theorem always_trying_sampleRun :
    AllStates (step .little) Trying (atlasRegisterStart .ok) sampleRun :=
  (always_trying_iff_sent .little .ok sampleRun
    ⟨trivial, trivial, trivial, rfl, trivial, rfl, trivial, trivial⟩).mpr ⟨rfl, by decide⟩

/-- The REGISTER request after the retry alarm cannot be sent, because the name of the gateway is
not resolved at that time: nothing is under way any more. -/
theorem stuck_after_retry :
    AllSteps (step .little) Admits (atlasRegisterStart .ok)
        [.registerOutcome .timeout 7, .retryAlarm .generalErr] ∧
      run (step .little) (atlasRegisterStart .ok)
        [.registerOutcome .timeout 7, .retryAlarm .generalErr] = .init ∧
      ¬ Trying .init :=
  ⟨⟨trivial, trivial, trivial⟩, by decide, not_trying rfl rfl rfl⟩

end Register

end Atlas.Client
