import Atlas.Devices.KeepAlive
import Atlas.Lib.Stopwatch
import Mathlib.Data.Rat.Floor
import Mathlib.Tactic.Positivity

/-! # Time spent registered

`getRegInterval` is a stopwatch that sees the clock in whole seconds: `registerNow` notes the start,
and `keepAliveExpired` adds the seconds since then to the total. A second registration of a device
that is still registered notes a new start without adding the seconds since the old one, so these
are lost and the next feedback can be negative. Otherwise no event changes the reading
(`UnitCounter.Moves`), and the reading follows the time spent registered.

Reference: `device/AtlasDevice.cpp` (`getRegInterval`, `registerNow`, `keepAliveExpired`),
`device/reputation_feedback/AtlasRegistrationFeedback.cpp`.
-/

namespace Atlas.Devices

open EventMachine Gateway
open Firewall (readRegister)

/-- The value of an `int`. Overflow, which C++ leaves undefined, wraps around. -/
def toInt32 (n : ℤ) : ℤ := n.bmod (2 ^ 32)

theorem toInt32_of_lt {n : ℤ} (h0 : 0 ≤ n) (h : n < 2 ^ 31) : toInt32 n = n :=
  Int.bmod_eq_of_le (by omega) (by omega)

/-- `AtlasDevice::getRegInterval`. -/
def AtlasDevice.getRegInterval (env : Env) (device : AtlasDevice) : ℤ :=
  if device.registered then toInt32 (device.regIntervalSec + (env.now - device.startRegTime))
  else toInt32 device.regIntervalSec

/-- `AtlasRegistrationFeedback`. -/
structure AtlasRegistrationFeedback where
  samplePeriodSec : ℤ
  prevRegIntervalSec : ℤ

namespace AtlasRegistrationFeedback

/-- The feedback of a new device: one sample in `ATLAS_SYSTEM_REPUTATION_INTERVAL_MS / 1000`. -/
def new : AtlasRegistrationFeedback := ⟨60000 / 1000, 0⟩

/-- `getFeedback`. -/
def getFeedback (env : Env) (device : AtlasDevice) (feedback : AtlasRegistrationFeedback) :
    AtlasRegistrationFeedback × ℚ :=
  let regIntervalSec := device.getRegInterval env
  ({ feedback with prevRegIntervalSec := regIntervalSec },
    (toInt32 (regIntervalSec - feedback.prevRegIntervalSec) : ℚ) / feedback.samplePeriodSec)

end AtlasRegistrationFeedback

/-! ## The device as a counter -/

/-- The seconds added up, and the start of the registration that is running. -/
def AtlasDevice.counter (device : AtlasDevice) : UnitCounter where
  total := device.regIntervalSec
  since := if device.registered then some device.startRegTime else none

theorem AtlasDevice.counter_of_registered {device : AtlasDevice} (h : device.registered = true) :
    device.counter = ⟨device.regIntervalSec, some device.startRegTime⟩ := by
  simp [AtlasDevice.counter, h]

theorem AtlasDevice.counter_of_not_registered {device : AtlasDevice}
    (h : device.registered = false) : device.counter = ⟨device.regIntervalSec, none⟩ := by
  simp [AtlasDevice.counter, h]

/-- A device that is not in memory has not been registered. -/
def counter (device : Option AtlasDevice) : UnitCounter := device.elim ⟨0, none⟩ (·.counter)

theorem AtlasDevice.getRegInterval_eq (env : Env) (device : AtlasDevice) :
    device.getRegInterval env = toInt32 (device.counter.reading env.now) := by
  cases hreg : device.registered with
  | false => simp [getRegInterval, counter_of_not_registered hreg, UnitCounter.reading, hreg]
  | true => simp [getRegInterval, counter_of_registered hreg, UnitCounter.reading, hreg]

section

variable {host : ByteOrder} {env : Env} {manager : AtlasDeviceManager}
  {pskIdentity : StdString} {reqPayload : List UInt8} {resource : Resource} {handled : Handled}

@[simp] theorem counter_setIpPort (ipPort : StdString) (device : AtlasDevice) :
    (device.setIpPort ipPort).1.counter = device.counter := by
  rw [AtlasDevice.setIpPort]
  split <;> rfl

@[simp] theorem counter_setFeature (featureType featureValue : StdString) (device : AtlasDevice) :
    (device.setFeature featureType featureValue).1.counter = device.counter := by
  simp only [AtlasDevice.setFeature]
  split
  · rfl
  · split <;> rfl

/-- What an accepted request does to the counter. -/
theorem Applies.moves {device device' : AtlasDevice}
    (h : Applies host env pskIdentity reqPayload device resource device')
    (hfresh : resource = .register → device.registered = true → device.startRegTime = env.now) :
    device.counter.Moves env.now device'.counter := by
  cases h with
  | register fields _ =>
    rw [counter_setIpPort]
    refine .start fun r hr => ?_
    cases hreg : device.registered with
    | false => simp [AtlasDevice.counter_of_not_registered hreg] at hr
    | true =>
      rw [← hfresh rfl hreg]
      simpa [AtlasDevice.counter_of_registered hreg, eq_comm] using hr
  | keepalive fields _ _ =>
    rw [counter_setIpPort]
    exact .same
  | policy policy _ _ =>
    have hsame : (device.setPolicyInfo policy).1.counter = device.counter := by
      simp [AtlasDevice.counter, AtlasDevice.setPolicyInfo]
    rw [hsame]
    exact .same
  | telemetry path feature _ _ =>
    rw [counter_setFeature]
    exact .same

/-- What a tick of the keep-alive alarm does to it. -/
theorem AtlasDevice.keepaliveAlarm_moves (env : Env) (device : AtlasDevice) :
    device.counter.Moves env.now (device.keepaliveAlarm env).1.counter := by
  rw [AtlasDevice.keepaliveAlarm]
  cases hreg : device.registered with
  | false => exact .same
  | true =>
    rw [if_pos rfl, AtlasDevice.keepAliveExpired, AtlasDevice.counter_of_registered hreg]
    cases hexp : device.expires with
    | true =>
      obtain ⟨hctr, -⟩ := of_decide_eq_true hexp
      have hoff : device.toAtlasDevice.keepAliveExpired.registered = false := by
        simp [Firewall.AtlasDevice.keepAliveExpired, hctr, hexp]
      rw [if_pos rfl, AtlasDevice.counter_of_not_registered]
      · exact .stop
      · exact hoff
    | false =>
      have hon : device.toAtlasDevice.keepAliveExpired.registered = true := by
        simp only [Firewall.AtlasDevice.keepAliveExpired, hexp]
        split <;> exact hreg
      rw [if_neg (by simp), AtlasDevice.counter_of_registered]
      · exact .same
      · exact hon

/-- A device that comes into memory has not been registered. -/
theorem counter_getDevice (env : Env) (manager : AtlasDeviceManager)
    (pskIdentity identity : StdString) :
    counter ((manager.getDevice env pskIdentity).1.devices.find? identity) =
      counter (manager.devices.find? identity) := by
  by_cases heq : identity = pskIdentity
  · subst heq
    rcases manager.find?_getDevice_self env identity with hself | ⟨hnone, hnew⟩
    · rw [hself]
    · rw [hnone, hnew]
      rfl
  · rw [AtlasDeviceManager.find?_getDevice_of_ne env manager heq]

/-- A second registration of the device, in a later second than the one it is registered since. -/
def reregisters (host : ByteOrder) (env : Env) (reqPayload : List UInt8) (identity : StdString)
    (device : Option AtlasDevice) : Bool :=
  (readRegister host identity reqPayload).isSome &&
    device.any fun device => device.registered && device.startRegTime ≠ env.now

/-- What a request does to the counter of a device. -/
theorem Serves.moves (h : Serves host env manager pskIdentity reqPayload resource handled)
    {identity : StdString}
    (hfresh : pskIdentity = identity → resource = .register →
      reregisters host env reqPayload identity (manager.devices.find? identity) = false) :
    (counter (manager.devices.find? identity)).Moves env.now
      (counter (handled.manager.devices.find? identity)) := by
  by_cases hne : identity ≠ pskIdentity
  · rw [h.find?_of_ne hne]
    exact .same
  · obtain rfl := not_not.mp hne
    cases h with
    | refused _ hmanager =>
      rcases hmanager with hmanager | hmanager <;> rw [hmanager]
      · exact .same
      · rw [counter_getDevice]
        exact .same
    | accepted manager' device device' _ hget happlies hmanager =>
      have hid := happlies.identity.trans (AtlasDeviceManager.identity_of_getDevice hget)
      have hbefore := counter_getDevice env manager identity identity
      have hself := manager.find?_getDevice_self env identity
      rw [hget] at hbefore hself
      rw [AtlasDeviceManager.find?_of_getDevice hget] at hbefore hself
      rw [← hbefore, hmanager, AtlasDeviceManager.setDevice, Table.find?_save, if_pos hid.symm]
      refine happlies.moves fun hresource hreg => ?_
      subst hresource
      have hnot := hfresh rfl rfl
      cases happlies with
      | register fields hread =>
        rcases hself with hself | ⟨-, hnew⟩
        · simpa [reregisters, hread, ← hself, hreg] using hnot
        · obtain rfl := Option.some.inj hnew
          cases hreg

theorem AtlasDeviceManager.keepaliveAlarmCallback_moves (env : Env) (manager : AtlasDeviceManager)
    (identity : StdString) :
    (counter (manager.devices.find? identity)).Moves env.now
      (counter ((manager.keepaliveAlarmCallback env).1.devices.find? identity)) := by
  rw [AtlasDeviceManager.keepaliveAlarmCallback, Table.find?_map]
  cases manager.devices.find? identity with
  | none => exact .same
  | some device => exact device.keepaliveAlarm_moves env

end

/-! ## Runs under a clock -/

/-- An event at the gateway or a reading, at a moment of an exact clock. -/
inductive TimedEvent where
  | gateway (time : ℚ) (e : Event)
  | reading (time : ℚ) (env : Env)

/-- What an event finds outside. -/
def Event.env : Event → Env
  | .request env _ _ _ => env
  | .keepaliveAlarm env => env

namespace TimedEvent

def time : TimedEvent → ℚ
  | .gateway time _ => time
  | .reading time _ => time

def env : TimedEvent → Env
  | .gateway _ e => e.env
  | .reading _ env => env

end TimedEvent

/-- The gateway, the registration feedback of one device, and a stopwatch that runs as long as this
device is registered. -/
structure Metered where
  gateway : Option AtlasDeviceManager
  feedback : AtlasRegistrationFeedback
  watch : Stopwatch ℚ
  time : ℚ

namespace Metered

/-- The device in memory. -/
def device (identity : StdString) (s : Metered) : Option AtlasDevice :=
  s.gateway.bind (·.devices.find? identity)

/-- A gateway started at a moment. -/
def init (time : ℚ) : Metered := ⟨some .init, .new, .zero, time⟩

variable (host : ByteOrder) (identity : StdString)

/-- One event. A reading is handed out with its feedback. -/
def step (s : Metered) : TimedEvent → Metered × List (ℤ × ℚ)
  | .gateway time e =>
    let s' := { s with gateway := (Devices.step host s.gateway e).1, time := time }
    ({ s' with watch := s.watch.follow ((s'.device identity).any (·.registered)) time }, [])
  | .reading time env =>
    match s.device identity with
    | none => ({ s with time := time }, [])
    | some device =>
      let (feedback, value) := s.feedback.getFeedback env device
      ({ s with feedback := feedback, time := time }, [(device.getRegInterval env, value)])

/-- The gateway sees the clock in whole seconds, and the clock does not go back. -/
structure Clocked (s : Metered) (e : TimedEvent) : Prop where
  now : e.env.now = ⌊e.time⌋
  forward : s.time ≤ e.time

/-- The device does not register again in a later second while it is registered, and the gateway is
running for less than `2 ^ 31` seconds. -/
structure Keeps (start : ℚ) (s : Metered) (e : TimedEvent) : Prop where
  fresh : ∀ time env reqPayload, e = .gateway time (.request env .register identity reqPayload) →
    reregisters host env reqPayload identity (s.device identity) = false
  range : ⌊e.time⌋ - ⌊start⌋ < 2 ^ 31

/-- A reading is the number of whole seconds the device has spent registered, up to one second per
registration, it is not below the last one, and its feedback is not negative. -/
def ReadsRight (s : Metered) (e : TimedEvent) : Prop :=
  ∀ time env device, e = .reading time env → s.device identity = some device →
    |device.getRegInterval env - ⌊s.watch.elapsed time⌋| ≤ s.watch.starts ∧
      s.feedback.prevRegIntervalSec ≤ device.getRegInterval env ∧
      0 ≤ (s.feedback.getFeedback env device).2

/-! ## One step -/

/-- The counter follows the stopwatch, and the last reading lies between zero and what it would show
now, which is at most the time since the start. -/
structure Sound (start : ℚ) (s : Metered) (c : UnitCounter) : Prop where
  rounds : Rounds s.watch c
  period : s.feedback.samplePeriodSec = 60
  prev_nonneg : 0 ≤ s.feedback.prevRegIntervalSec
  prev_le : s.feedback.prevRegIntervalSec ≤ c.reading ⌊s.time⌋
  le_clock : c.reading ⌊s.time⌋ - ⌊s.time⌋ ≤ -⌊start⌋

variable {host identity} {start : ℚ} {s : Metered} {e : TimedEvent} {c : UnitCounter}

/-- As the clock goes on, so does what the counter would show. -/
theorem Sound.advance (h : Sound start s c) {time : ℚ} (hle : s.time ≤ time) :
    s.feedback.prevRegIntervalSec ≤ c.reading ⌊time⌋ ∧
      c.reading ⌊time⌋ - ⌊time⌋ ≤ -⌊start⌋ := by
  have hfloor := Int.floor_le_floor hle
  exact ⟨h.prev_le.trans (c.reading_le_reading hfloor),
    (c.reading_sub_le hfloor).trans h.le_clock⟩

/-- In range, `getRegInterval` is what the counter shows. -/
theorem Sound.getRegInterval_eq {device : AtlasDevice} (h : Sound start s device.counter)
    {time : ℚ} {env : Env} (hle : s.time ≤ time) (hnow : env.now = ⌊time⌋)
    (hrange : ⌊time⌋ - ⌊start⌋ < 2 ^ 31) :
    device.getRegInterval env = device.counter.reading ⌊time⌋ := by
  obtain ⟨hprev, hclock⟩ := h.advance hle
  have hnonneg := h.prev_nonneg
  rw [device.getRegInterval_eq, hnow, toInt32_of_lt (by omega) (by omega)]

theorem Sound.readsRight {device : AtlasDevice} (h : Sound start s device.counter)
    {time : ℚ} {env : Env} (hle : s.time ≤ time) (hnow : env.now = ⌊time⌋)
    (hrange : ⌊time⌋ - ⌊start⌋ < 2 ^ 31) :
    |device.getRegInterval env - ⌊s.watch.elapsed time⌋| ≤ s.watch.starts ∧
      s.feedback.prevRegIntervalSec ≤ device.getRegInterval env ∧
      0 ≤ (s.feedback.getFeedback env device).2 := by
  have hread := h.getRegInterval_eq hle hnow hrange
  obtain ⟨hprev, hclock⟩ := h.advance hle
  have hnonneg := h.prev_nonneg
  refine ⟨hread ▸ h.rounds.abs_sub_le time, hread ▸ hprev, ?_⟩
  simp only [AtlasRegistrationFeedback.getFeedback, hread, h.period]
  rw [toInt32_of_lt (by omega) (by omega)]
  have hdiff : 0 ≤ device.counter.reading ⌊time⌋ - s.feedback.prevRegIntervalSec := by omega
  positivity

/-- A move of the counter at the moment of the event. -/
theorem Sound.moves {c' : UnitCounter} (h : Sound start s c) {time : ℚ} (hle : s.time ≤ time)
    (hmoves : c.Moves ⌊time⌋ c') (gateway : Option AtlasDeviceManager) :
    Sound start { s with
      gateway := gateway
      time := time
      watch := s.watch.follow c'.since.isSome time } c' := by
  obtain ⟨hprev, hclock⟩ := h.advance hle
  rw [← hmoves.reading_eq] at hprev hclock
  exact ⟨h.rounds.follow hmoves, h.period, h.prev_nonneg, hprev, hclock⟩

/-- What holds as long as the gateway is running. -/
def Invariant (identity : StdString) (start : ℚ) (s : Metered) : Prop :=
  ∀ manager, s.gateway = some manager → Sound start s (counter (manager.devices.find? identity))

theorem isSome_since_counter (device : Option AtlasDevice) :
    (counter device).since.isSome = device.any (·.registered) := by
  cases device with
  | none => rfl
  | some device =>
    cases hreg : device.registered with
    | false => simp [counter, AtlasDevice.counter_of_not_registered hreg, hreg]
    | true => simp [counter, AtlasDevice.counter_of_registered hreg, hreg]

/-- What an event does to the counter. -/
theorem moves_of_step {e : Event} {manager manager' : AtlasDeviceManager}
    (h : (Devices.step host (some manager) e).1 = some manager')
    (hfresh : ∀ env reqPayload, e = .request env .register identity reqPayload →
      reregisters host env reqPayload identity (manager.devices.find? identity) = false) :
    (counter (manager.devices.find? identity)).Moves e.env.now
      (counter (manager'.devices.find? identity)) := by
  obtain ⟨_, ⟨⟩, hstays⟩ := stays_of_step h
  generalize (Devices.step host (some manager) e).2 = out at hstays
  cases hstays with
  | keepaliveAlarm env => exact manager.keepaliveAlarmCallback_moves env identity
  | request hserves =>
    refine hserves.moves fun hidentity hresource => ?_
    exact hfresh _ _ (by rw [hidentity, hresource])

theorem invariant_step (h : Invariant identity start s) (hclock : Clocked s e)
    (hkeeps : Keeps host identity start s e) :
    Invariant identity start (step host identity s e).1 := by
  cases e with
  | gateway time e =>
    intro manager' hmanager'
    change (Devices.step host s.gateway e).1 = some manager' at hmanager'
    cases hgateway : s.gateway with
    | none =>
      rw [hgateway] at hmanager'
      cases hmanager'
    | some manager =>
      have hdevice : s.device identity = manager.devices.find? identity := by
        simp [device, hgateway]
      rw [hgateway] at hmanager'
      have hmoves := moves_of_step hmanager' fun env reqPayload heq => by
        rw [← hdevice]
        exact hkeeps.fresh time env reqPayload (by rw [heq])
      have hnow : e.env.now = ⌊time⌋ := hclock.now
      have hforward : s.time ≤ time := hclock.forward
      rw [hnow] at hmoves
      have hsound := (h manager hgateway).moves hforward hmoves (some manager')
      rw [isSome_since_counter] at hsound
      simpa [step, device, hgateway, hmanager'] using hsound
  | reading time env =>
    intro manager hmanager
    cases hdevice : s.device identity with
    | none =>
      simp only [step, hdevice] at hmanager ⊢
      have hsound := h manager hmanager
      obtain ⟨hprev, hle⟩ := hsound.advance hclock.forward
      exact ⟨hsound.rounds, hsound.period, hsound.prev_nonneg, hprev, hle⟩
    | some device =>
      simp only [step, hdevice] at hmanager ⊢
      have hsound := h manager hmanager
      obtain ⟨hprev, hle⟩ := hsound.advance hclock.forward
      have hfind : manager.devices.find? identity = some device := by
        simpa [Metered.device, hmanager] using hdevice
      have hread := Sound.getRegInterval_eq (by simpa [hfind, counter] using hsound)
        hclock.forward hclock.now hkeeps.range
      have hnonneg := hsound.prev_nonneg
      simp only [hfind] at hprev hle hsound ⊢
      exact ⟨hsound.rounds, hsound.period, (hnonneg.trans hprev).trans hread.ge, hread.le, hle⟩

theorem invariant_init (identity : StdString) (start : ℚ) :
    Invariant identity start (init start) := by
  intro manager hmanager
  cases hmanager
  have hzero : (counter (AtlasDeviceManager.init.devices.find? identity)).reading ⌊start⌋ = 0 := rfl
  refine ⟨Rounds.zero, rfl, le_rfl, hzero.ge, ?_⟩
  change (counter (AtlasDeviceManager.init.devices.find? identity)).reading ⌊start⌋ - ⌊start⌋ ≤ _
  rw [hzero, zero_sub]

/-! ## Runs -/

/-- As long as the device does not register again in a later second while it is registered, every
reading is the time it has spent registered, readings never decrease, and no feedback is
negative. -/
theorem readings_follow_registered_time (host : ByteOrder) (identity : StdString) (start : ℚ)
    (es : List TimedEvent)
    (hes : AllSteps (step host identity)
      (fun s e => Clocked s e ∧ Keeps host identity start s e) (init start) es) :
    AllSteps (step host identity) (ReadsRight identity) (init start) es := by
  refine allSteps_of_invariant (I := Invariant identity start)
    (fun s e hs he => invariant_step hs he.1 he.2) ?_ (invariant_init identity start) hes
  rintro s e hs ⟨hclock, hkeeps⟩ time env device rfl hdevice
  obtain ⟨manager, hmanager, hfind⟩ := Option.bind_eq_some_iff.mp hdevice
  have hsound := hs manager hmanager
  rw [hfind] at hsound
  exact Sound.readsRight hsound hclock.forward hclock.now hkeeps.range

/-- What is found outside at a second. -/
def sampleClock (now : ℤ) : Env := { sampleEnv with now := now }

theorem length_lamp : (bytes "lamp").length < 65536 := by decide

theorem length_lampAddress : (bytes "10.0.0.2:5683").length < 65536 := by decide

/-- The lamp registers. -/
def lampRegisters (now : ℤ) : TimedEvent :=
  .gateway now (.request (sampleClock now) .register (bytes "lamp")
    (sampleRegister (bytes "lamp") (bytes "10.0.0.2:5683") length_lamp length_lampAddress))

/-- A reading 90 seconds after the lamp has registered. -/
theorem readings_follow_registered_time_once :
    let es : List TimedEvent := [lampRegisters 10, .reading 100 (sampleClock 100)]
    AllSteps (step .little (bytes "lamp"))
        (fun s e => Clocked s e ∧ Keeps .little (bytes "lamp") 0 s e) (init 0) es ∧
      AllSteps (step .little (bytes "lamp")) (ReadsRight (bytes "lamp")) (init 0) es := by
  intro es
  have hes : AllSteps (step .little (bytes "lamp"))
      (fun s e => Clocked s e ∧ Keeps .little (bytes "lamp") 0 s e) (init 0) es := by
    refine ⟨⟨⟨?_, ?_⟩, ⟨?_, ?_⟩⟩, ⟨⟨?_, ?_⟩, ⟨?_, ?_⟩⟩, trivial⟩
    · decide
    · decide
    · rintro _ _ _ ⟨⟩
      rfl
    · decide
    · decide
    · decide
    · rintro _ _ _ ⟨⟩
    · decide
  exact ⟨hes, readings_follow_registered_time .little (bytes "lamp") 0 es hes⟩

/-- The lamp registers again after 100 seconds: the reading falls from 99 to 0. -/
theorem reregistration_loses_time :
    let es : List TimedEvent := [lampRegisters 0, .reading 99 (sampleClock 99), lampRegisters 100,
      .reading 100 (sampleClock 100)]
    AllSteps (step .little (bytes "lamp")) Clocked (init 0) es ∧
      trace (step .little (bytes "lamp")) (init 0) es = [(99, 33 / 20), (0, -(33 / 20))] := by
  intro es
  refine ⟨⟨⟨?_, ?_⟩, ⟨?_, ?_⟩, ⟨?_, ?_⟩, ⟨?_, ?_⟩, trivial⟩, ?_⟩
  all_goals decide +kernel

end Metered

end Atlas.Devices
