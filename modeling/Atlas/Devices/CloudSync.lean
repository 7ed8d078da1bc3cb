import Atlas.Devices.CloudUpdates

/-! # The full cloud sync

An update that cannot be published schedules a full sync: the alarm is started, and its callback
sends the information of all devices and of the gateway again. The flag `syncScheduled_` says
whether an update failed since the last tick began (`Synced`). The alarm is another matter: it was
created to run periodically and nothing cancels it, so once started it ticks for ever
(`waiting_run`), also if everything was delivered.

Reference: `cloud/AtlasDeviceCloud.cpp`, `alarm/AtlasAlarm.cpp`.
-/

namespace Atlas.Devices

open EventMachine Gateway

/-! ## The alarm -/

/-- `AtlasAlarm`. An alarm that runs waits for its timer. -/
structure AtlasAlarm where
  once : Bool
  started : Bool := false
  waiting : Bool := false
deriving DecidableEq

namespace AtlasAlarm

/-- `AtlasAlarm::start`. -/
def start (alarm : AtlasAlarm) : AtlasAlarm :=
  if alarm.started then alarm else { alarm with waiting := true, started := true }

/-- `AtlasAlarm::cancel`. -/
def cancel (alarm : AtlasAlarm) : AtlasAlarm :=
  if alarm.started then { alarm with waiting := false, started := false } else alarm

/-- `AtlasAlarm::timerHandler` at an expiry, up to the call of the callback. -/
def timerHandler (alarm : AtlasAlarm) : AtlasAlarm :=
  if !alarm.once then { alarm with waiting := true } else { alarm with waiting := false }.cancel

end AtlasAlarm

/-! ## Updates and ticks -/

/-- What `AtlasDeviceCloud` keeps, and whether an update was not delivered since the last tick
began. -/
structure CloudSync where
  syncAlarm : AtlasAlarm
  syncScheduled : Bool
  undelivered : Bool
deriving DecidableEq

/-- The constructor. -/
def CloudSync.new : CloudSync := ⟨{ once := false }, false, false⟩

/-- What an update meets: whether the cloud module is registered, and whether the message is
delivered. -/
structure Attempt where
  registered : Bool
  delivered : Bool
deriving DecidableEq

/-- The message is published and not delivered. -/
def Attempt.fails (attempt : Attempt) : Bool := attempt.registered && !attempt.delivered

/-- The information on a device, and what its update meets. -/
structure DeviceUpdate where
  identity : StdString
  jsonInfo : StdString
  attempt : Attempt
deriving DecidableEq

/-- What is done outside: a message handed to MQTT, with its result, or the start of a full sync. -/
inductive CloudOutput where
  | tryPublishMessage (cmd : StdString) (delivered : Bool)
  | fullSync
deriving DecidableEq

/-- The text `updateGateway` publishes. -/
def gatewayUpdateMessage (jsonInfo : StdString) : StdString :=
  bytes "\x7b\n"
    ++ jsonField (bytes "commandType") (bytes "ATLAS_CMD_GATEWAY_INFO_UPDATE") ++ bytes ","
    ++ bytes "\n\"commandPayload\": \n"
    ++ bytes "\x7b\n"
    ++ jsonInfo
    ++ bytes "\n\x7d\n\x7d"

namespace CloudSync

/-- The end of `updateGateway` and of `updateDevice`, after a message that was not delivered. -/
def schedule (sync : CloudSync) : CloudSync :=
  if !sync.syncScheduled then
    { syncAlarm := sync.syncAlarm.start, syncScheduled := true, undelivered := true }
  else { sync with undelivered := true }

/-- What `updateGateway` and `updateDevice` do with their message. -/
def publishUpdate (cmd : StdString) (attempt : Attempt) (sync : CloudSync) :
    CloudSync × List CloudOutput :=
  if !attempt.registered then (sync, [])
  else if !attempt.delivered then (sync.schedule, [.tryPublishMessage cmd false])
  else (sync, [.tryPublishMessage cmd true])

/-- `AtlasDeviceCloud::updateGateway`. -/
def updateGateway (jsonInfo : StdString) : Attempt → CloudSync → CloudSync × List CloudOutput :=
  publishUpdate (gatewayUpdateMessage jsonInfo)

/-- `AtlasDeviceCloud::updateDevice`. -/
def updateDevice (update : DeviceUpdate) : CloudSync → CloudSync × List CloudOutput :=
  publishUpdate (updateMessage update.identity update.jsonInfo) update.attempt

/-- `AtlasDeviceCloud::allDevicesUpdate`. -/
def allDevicesUpdate : List DeviceUpdate → CloudSync → CloudSync × List CloudOutput
  | [], sync => (sync, [])
  | update :: updates, sync =>
    let (sync, outputs) := updateDevice update sync
    let (sync, outputs') := allDevicesUpdate updates sync
    (sync, outputs ++ outputs')

/-- `AtlasDeviceCloud::syncAlarmCallback`. -/
def syncAlarmCallback (devices : List DeviceUpdate) (gatewayInfo : StdString) (attempt : Attempt)
    (sync : CloudSync) : CloudSync × List CloudOutput :=
  let sync := { sync with syncScheduled := false, undelivered := false }
  let (sync, outputs) := allDevicesUpdate devices sync
  let (sync, outputs') := updateGateway gatewayInfo attempt sync
  (sync, .fullSync :: outputs ++ outputs')

end CloudSync

/-- An update of the gateway, an update of a device, or an expiry of the timer. -/
inductive SyncEvent where
  | updateGateway (jsonInfo : StdString) (attempt : Attempt)
  | updateDevice (update : DeviceUpdate)
  | tick (devices : List DeviceUpdate) (gatewayInfo : StdString) (attempt : Attempt)
deriving DecidableEq

namespace CloudSync

/-- One event. An alarm that does not wait for its timer does not tick. -/
def step (sync : CloudSync) : SyncEvent → CloudSync × List CloudOutput
  | .updateGateway jsonInfo attempt => sync.updateGateway jsonInfo attempt
  | .updateDevice update => sync.updateDevice update
  | .tick devices gatewayInfo attempt =>
    if sync.syncAlarm.waiting then
      { sync with syncAlarm := sync.syncAlarm.timerHandler }.syncAlarmCallback devices gatewayInfo
        attempt
    else (sync, [])

/-- The alarm runs exactly if an update was not delivered since the last tick began. -/
def RunsForCause (sync : CloudSync) : Prop :=
  sync.syncAlarm.waiting = true ↔ sync.undelivered = true

/-- A tick in which some update is not delivered, or any event but a tick. -/
def FailsAgain (sync : CloudSync) : SyncEvent → Prop
  | .tick devices _ attempt =>
    sync.syncAlarm.waiting = true →
      (∃ update ∈ devices, update.attempt.fails = true) ∨ attempt.fails = true
  | _ => True

/-! ## The flag -/

/-- The flag says whether an update was not delivered since the last tick began, and with it the
alarm is started. -/
structure Synced (sync : CloudSync) : Prop where
  periodic : sync.syncAlarm.once = false
  started : sync.syncAlarm.started = sync.syncAlarm.waiting
  scheduled : sync.syncScheduled = sync.undelivered
  waiting : sync.undelivered = true → sync.syncAlarm.waiting = true

/-- What a number of attempts does: if one of them fails, the alarm runs and the flag is set, and
else nothing changes. -/
structure Attempted (sync : CloudSync) (failed : Bool) (after : CloudSync) : Prop where
  synced : after.Synced
  undelivered : after.undelivered = (sync.undelivered || failed)
  waiting : after.syncAlarm.waiting = (sync.syncAlarm.waiting || failed)

theorem synced_new : CloudSync.new.Synced := ⟨rfl, rfl, rfl, nofun⟩

variable {sync after : CloudSync}

theorem Synced.schedule (h : sync.Synced) : Attempted sync true sync.schedule := by
  obtain ⟨⟨once, started, waiting⟩, scheduled, undelivered⟩ := sync
  obtain ⟨hperiodic, hstarted, hscheduled, hwaiting⟩ := h
  dsimp only at hperiodic hstarted hscheduled hwaiting
  subst hperiodic hstarted hscheduled
  cases scheduled with
  | true =>
    obtain rfl := hwaiting rfl
    exact ⟨⟨rfl, rfl, rfl, fun _ => rfl⟩, rfl, rfl⟩
  | false => cases started <;> exact ⟨⟨rfl, rfl, rfl, fun _ => rfl⟩, rfl, rfl⟩

theorem Synced.attempted (h : sync.Synced) : Attempted sync false sync :=
  ⟨h, (Bool.or_false _).symm, (Bool.or_false _).symm⟩

theorem Attempted.trans {failed failed' : Bool} {last : CloudSync} (h : Attempted sync failed after)
    (h' : Attempted after failed' last) : Attempted sync (failed || failed') last :=
  ⟨h'.synced, by rw [h'.undelivered, h.undelivered, Bool.or_assoc],
    by rw [h'.waiting, h.waiting, Bool.or_assoc]⟩

theorem publishUpdate_spec (h : sync.Synced) (cmd : StdString) (attempt : Attempt) :
    Attempted sync attempt.fails (publishUpdate cmd attempt sync).1 := by
  obtain ⟨registered, delivered⟩ := attempt
  cases registered with
  | false => exact h.attempted
  | true =>
    cases delivered with
    | false => exact h.schedule
    | true => exact h.attempted

theorem allDevicesUpdate_spec (h : sync.Synced) (updates : List DeviceUpdate) :
    Attempted sync (updates.any (·.attempt.fails)) (allDevicesUpdate updates sync).1 := by
  induction updates generalizing sync with
  | nil => exact h.attempted
  | cons update updates ih =>
    have hfirst :=
      publishUpdate_spec h (updateMessage update.identity update.jsonInfo) update.attempt
    exact hfirst.trans (ih hfirst.synced)

/-- A tick of the running alarm. -/
theorem step_tick_spec (h : sync.Synced) (hwaiting : sync.syncAlarm.waiting = true)
    (devices : List DeviceUpdate) (gatewayInfo : StdString) (attempt : Attempt) :
    ((sync.step (.tick devices gatewayInfo attempt)).1).Synced ∧
    (sync.step (.tick devices gatewayInfo attempt)).1.undelivered =
      (devices.any (·.attempt.fails) || attempt.fails) ∧
    (sync.step (.tick devices gatewayInfo attempt)).1.syncAlarm.waiting = true := by
  have halarm : sync.syncAlarm.timerHandler = { sync.syncAlarm with waiting := true } := by
    rw [AtlasAlarm.timerHandler]
    exact if_pos (by rw [h.periodic]; rfl)
  have hbegin : CloudSync.Synced ⟨sync.syncAlarm.timerHandler, false, false⟩ := by
    rw [halarm]
    exact ⟨h.periodic, h.started.trans hwaiting, rfl, nofun⟩
  have hdevices := allDevicesUpdate_spec hbegin devices
  have hall := hdevices.trans
    (publishUpdate_spec hdevices.synced (gatewayUpdateMessage gatewayInfo) attempt)
  rw [step, if_pos hwaiting]
  refine ⟨hall.synced, hall.undelivered, hall.waiting.trans ?_⟩
  rw [halarm]
  exact Bool.true_or _

theorem Synced.step (h : sync.Synced) (e : SyncEvent) : (sync.step e).1.Synced := by
  cases e with
  | updateGateway jsonInfo attempt =>
    exact (publishUpdate_spec h (gatewayUpdateMessage jsonInfo) attempt).synced
  | updateDevice update =>
    exact (publishUpdate_spec h (updateMessage update.identity update.jsonInfo)
      update.attempt).synced
  | tick devices gatewayInfo attempt =>
    by_cases hwaiting : sync.syncAlarm.waiting = true
    · exact (step_tick_spec h hwaiting devices gatewayInfo attempt).1
    · rw [CloudSync.step, if_neg hwaiting]
      exact h

/-! ## The alarm -/

/-- Once started, the alarm goes on. -/
theorem waiting_step (h : sync.Synced) (hwaiting : sync.syncAlarm.waiting = true) (e : SyncEvent) :
    (sync.step e).1.syncAlarm.waiting = true := by
  have hor (failed : Bool) : (sync.syncAlarm.waiting || failed) = true := by
    rw [hwaiting, Bool.true_or]
  cases e with
  | updateGateway jsonInfo attempt =>
    exact (publishUpdate_spec h (gatewayUpdateMessage jsonInfo) attempt).waiting.trans (hor _)
  | updateDevice update =>
    exact (publishUpdate_spec h (updateMessage update.identity update.jsonInfo)
      update.attempt).waiting.trans (hor _)
  | tick devices gatewayInfo attempt =>
    exact (step_tick_spec h hwaiting devices gatewayInfo attempt).2.2

theorem waiting_run (h : sync.Synced) (hwaiting : sync.syncAlarm.waiting = true)
    (es : List SyncEvent) : (run step sync es).syncAlarm.waiting = true := by
  induction es generalizing sync with
  | nil => exact hwaiting
  | cons e es ih => exact ih (h.step e) (waiting_step h hwaiting e)

theorem Attempted.runsForCause {failed : Bool} (h : Attempted sync failed after)
    (hcause : sync.RunsForCause) : after.RunsForCause := by
  rw [RunsForCause, h.waiting, h.undelivered, Bool.eq_iff_iff.mpr hcause]

/-- A tick of the running alarm keeps it for cause exactly if an update fails again. -/
theorem runsForCause_step_tick_iff (h : sync.Synced) (hwaiting : sync.syncAlarm.waiting = true)
    (devices : List DeviceUpdate) (gatewayInfo : StdString) (attempt : Attempt) :
    (sync.step (.tick devices gatewayInfo attempt)).1.RunsForCause ↔
      (∃ update ∈ devices, update.attempt.fails = true) ∨ attempt.fails = true := by
  obtain ⟨-, hundelivered, hafter⟩ := step_tick_spec h hwaiting devices gatewayInfo attempt
  rw [RunsForCause, hundelivered, hafter, Bool.or_eq_true, List.any_eq_true, iff_true_left rfl]

/-- The alarm runs exactly if an update was not delivered since the last tick began, in every state
of exactly those runs in which something fails again in every tick. -/
theorem runsForCause_iff_failsAgain (es : List SyncEvent) :
    AllStates step RunsForCause CloudSync.new es ↔ AllSteps step FailsAgain CloudSync.new es := by
  refine allStates_iff_allSteps (J := fun sync _ => sync.Synced ∧ sync.RunsForCause)
    (fun _ _ h => h.2) ?_ ?_ ⟨synced_new, Iff.rfl⟩
  · rintro sync e es ⟨hsynced, hcause⟩ hagain
    refine ⟨hsynced.step e, ?_⟩
    cases e with
    | updateGateway jsonInfo attempt =>
      exact (publishUpdate_spec hsynced (gatewayUpdateMessage jsonInfo) attempt).runsForCause hcause
    | updateDevice update =>
      exact (publishUpdate_spec hsynced (updateMessage update.identity update.jsonInfo)
        update.attempt).runsForCause hcause
    | tick devices gatewayInfo attempt =>
      by_cases hwaiting : sync.syncAlarm.waiting = true
      · exact (runsForCause_step_tick_iff hsynced hwaiting devices gatewayInfo attempt).mpr
          (hagain hwaiting)
      · rw [CloudSync.step, if_neg hwaiting]
        exact hcause
  · rintro sync e es ⟨hsynced, -⟩ hagain hafter
    cases e with
    | updateGateway jsonInfo attempt => exact hagain trivial
    | updateDevice update => exact hagain trivial
    | tick devices gatewayInfo attempt =>
      exact hagain fun hwaiting =>
        (runsForCause_step_tick_iff hsynced hwaiting devices gatewayInfo attempt).mp hafter

/-- One update fails, the next tick delivers everything, and the tick after it syncs again. -/
theorem fullSync_after_delivered_tick :
    (run step CloudSync.new [.updateGateway [] ⟨true, false⟩,
      .tick [] [] ⟨true, true⟩]).undelivered = false ∧
    (run step CloudSync.new
      [.updateGateway [] ⟨true, false⟩, .tick [] [] ⟨true, true⟩]).syncAlarm.waiting = true ∧
    ¬ AllStates step RunsForCause CloudSync.new
      [.updateGateway [] ⟨true, false⟩, .tick [] [] ⟨true, true⟩] ∧
    (trace step CloudSync.new [.updateGateway [] ⟨true, false⟩, .tick [] [] ⟨true, true⟩,
        .tick [] [] ⟨true, true⟩]).countP (· = .fullSync) = 2 := by
  refine ⟨by decide, by decide, fun h => ?_, by decide⟩
  exact absurd (h.last.mp (by decide)) (by decide)

end CloudSync

end Atlas.Devices
