import Atlas.Client.CoapClient
import Atlas.Commands.ClientBatch

/-! # Commands that restart a device or shut it down

A command that is pushed to the client does not run at once: it sets an alarm, and the callback of
the alarm restarts the device or shuts it down. While a command is in progress the next request is
deferred. The flag for this is read once for a request, but every record of the request sets an
alarm (`executeAll_eq`). So a request with two such records leaves two alarms.

Reference: `commands_execute/atlas_command_execute_utils.c`,
`commands_execute/atlas_command_execute.c`, `alarm/atlas_alarm.c`.
-/

namespace Atlas.Client

open ByteOrder EventMachine Gateway

/-! ## Alarms -/

/-- What an alarm does when it expires. The alarms of other modules are told apart by a number. -/
inductive AlarmCallback where
  | restart
  | shutdown
  | other (n : ℕ)
deriving DecidableEq

/-- `atlas_alarm_entry_t`. -/
structure AlarmEntry where
  alarmId : ℕ
  callback : AlarmCallback
  runOnce : Bool
deriving DecidableEq

/-- `atlas_alarm_set`, given the timer it gets. The identifier of the alarm is the descriptor of the
timer, or −1. -/
def atlasAlarmSet (timer : Option ℕ) (callback : AlarmCallback) (runOnce : Bool)
    (alarms : List AlarmEntry) : List AlarmEntry × ℤ :=
  match timer with
  | none => (alarms, -1)
  | some fd => (alarms ++ [⟨fd, callback, runOnce⟩], fd)

/-- `atlas_alarm_cancel`. -/
def atlasAlarmCancel (alarmId : ℕ) (alarms : List AlarmEntry) : List AlarmEntry :=
  alarms.eraseP (·.alarmId = alarmId)

/-- `atlas_alarm_trigger`: the alarms afterwards and the callback that ran. -/
def atlasAlarmTrigger (fd : ℕ) (alarms : List AlarmEntry) : List AlarmEntry × List AlarmCallback :=
  match alarms.find? (·.alarmId = fd) with
  | none => (alarms, [])
  | some p => (if p.runOnce then atlasAlarmCancel p.alarmId alarms else alarms, [p.callback])

/-! ## Requests -/

/-- `atlas_status_t`, the values `atlas_alert_command_execution_parse` returns. -/
inductive ExecutionStatus where
  | ok
  | invalidInput
  | corruptedCommandExecutionPayload
  | deferredCommandExecution
deriving DecidableEq

namespace CommandType

/-- `ATLAS_CMD_DEVICE_RESTART`. -/
def deviceRestart : UInt16 := 0

/-- `ATLAS_CMD_DEVICE_SHUTDOWN`. -/
def deviceShutdown : UInt16 := 1

end CommandType

/-- The alarms and the flag, and how many alarms for a restart or a shutdown were ever set. -/
structure Executor where
  alarms : List AlarmEntry
  cmdInProgress : Bool
  scheduled : ℕ
deriving DecidableEq

namespace Executor

/-- The client at its start. -/
def init : Executor := ⟨[], false, 0⟩

/-- A record sets an alarm with the next timer. Without one the request goes on. -/
def schedule (callback : AlarmCallback) :
    Executor × List (Option ℕ) → Executor × List (Option ℕ)
  | (s, timers) =>
    let (alarms, alarmId) := atlasAlarmSet (timers.headD none) callback true s.alarms
    if alarmId < 0 then ({ s with alarms }, timers.tail)
    else (⟨alarms, true, s.scheduled + 1⟩, timers.tail)

/-- The `switch` of the loop. The command that is called unknown does nothing, as any other type. -/
def execute (p : Executor × List (Option ℕ)) (cmd : AtlasCommand) : Executor × List (Option ℕ) :=
  if cmd.type = CommandType.deviceRestart then schedule .restart p
  else if cmd.type = CommandType.deviceShutdown then schedule .shutdown p
  else p

variable (host : ByteOrder)

/-- `atlas_alert_command_execution_parse`, with the timers its alarms get. -/
def atlasAlertCommandExecutionParse (s : Executor) (buf : List UInt8) (timers : List (Option ℕ)) :
    Option (Executor × ExecutionStatus) :=
  if s.cmdInProgress then some (s, .deferredCommandExecution)
  else if buf = [] ∨ UInt16.ofNat buf.length = 0 then some (s, .invalidInput)
  else (receivedCommands host buf).map fun
    | .error _ => (s, .corruptedCommandExecutionPayload)
    | .ok cmds => ((cmds.foldl execute (s, timers)).1, .ok)

/-- The responses of `atlas_execute_command_cb`. -/
def response : ExecutionStatus → AtlasCoapResponse
  | .ok => .ok
  | .deferredCommandExecution => .unknown
  | _ => .notAcceptableHere

/-- The payload of a request comes in one datagram. -/
structure Datagram where
  payload : List UInt8
  length_lt : payload.length < 65536

/-- What happens to the client. Other modules set and cancel alarms too. -/
inductive Event where
  | request (datagram : Datagram) (timers : List (Option ℕ))
  | set (timer : Option ℕ) (n : ℕ) (runOnce : Bool)
  | cancel (alarmId : ℕ)
  | expire (fd : ℕ)

/-- What the client does: it answers a request, or the callback of an alarm runs. -/
inductive Output where
  | answer (resp : AtlasCoapResponse)
  | run (callback : AlarmCallback)
deriving DecidableEq

def step (s : Executor) : Event → Executor × List Output
  | .request datagram timers =>
    match atlasAlertCommandExecutionParse host s datagram.payload timers with
    | none => (s, [])
    | some (s, status) => (s, [.answer (response status)])
  | .set timer n runOnce =>
    ({ s with alarms := (atlasAlarmSet timer (.other n) runOnce s.alarms).1 }, [])
  | .cancel alarmId => ({ s with alarms := atlasAlarmCancel alarmId s.alarms }, [])
  | .expire fd =>
    let (alarms, callbacks) := atlasAlarmTrigger fd s.alarms
    ({ s with alarms }, callbacks.map .run)

/-! ## The alarms of a request -/

/-- The callback of the alarm a record asks for. -/
def execution? (r : Tlv.Record) : Option AlarmCallback :=
  if r.tag = CommandType.deviceRestart then some .restart
  else if r.tag = CommandType.deviceShutdown then some .shutdown
  else none

/-- The alarms a payload asks for. -/
def executions (payload : List UInt8) : List AlarmCallback :=
  if Tlv.rest payload = [] then (Tlv.parse payload).filterMap execution? else []

/-- The alarms that get a timer. -/
def entries : List AlarmCallback → List (Option ℕ) → List AlarmEntry
  | [], _ => []
  | callback :: callbacks, timers =>
    ((timers.headD none).map fun fd => ⟨fd, callback, true⟩).toList ++ entries callbacks timers.tail

theorem length_entries (callbacks : List AlarmCallback) (timers : List (Option ℕ)) :
    (entries callbacks timers).length =
      (timers.take callbacks.length).countP (·.isSome) := by
  induction callbacks generalizing timers with
  | nil => rfl
  | cons callback callbacks ih =>
    rw [entries, List.length_append, ih]
    rcases timers with _ | ⟨_ | fd, timers⟩
    · simp
    · simp
    · simp [Nat.add_comm]

theorem schedule_of_none (callback : AlarmCallback) (s : Executor) {timers : List (Option ℕ)}
    (h : timers.headD none = none) : schedule callback (s, timers) = (s, timers.tail) := by
  simp only [schedule, h, atlasAlarmSet]
  rfl

theorem schedule_of_some (callback : AlarmCallback) (s : Executor) {timers : List (Option ℕ)}
    {fd : ℕ} (h : timers.headD none = some fd) :
    schedule callback (s, timers) =
      (⟨s.alarms ++ [⟨fd, callback, true⟩], true, s.scheduled + 1⟩, timers.tail) := by
  simp only [schedule, h, atlasAlarmSet]
  rw [if_neg (Int.not_lt.mpr (Int.natCast_nonneg fd))]

/-- These alarms are set. -/
def executeAll (s : Executor) (callbacks : List AlarmCallback) (timers : List (Option ℕ)) :
    Executor :=
  ⟨s.alarms ++ entries callbacks timers,
    s.cmdInProgress || !(entries callbacks timers).isEmpty,
    s.scheduled + (entries callbacks timers).length⟩

theorem executeAll_nil (s : Executor) (timers : List (Option ℕ)) :
    s.executeAll [] timers = s := by
  simp [executeAll, entries]

/-- One record sets its alarm, then the others set theirs. -/
theorem executeAll_cons (s : Executor) (callback : AlarmCallback) (callbacks : List AlarmCallback)
    (timers : List (Option ℕ)) :
    s.executeAll (callback :: callbacks) timers =
      (schedule callback (s, timers)).1.executeAll callbacks (schedule callback (s, timers)).2 := by
  -- an alarm that gets no timer changes nothing, not even the flag
  cases htimer : timers.headD none with
  | none =>
    rw [schedule_of_none callback s htimer, executeAll, entries, htimer]
    rfl
  | some fd =>
    rw [schedule_of_some callback s htimer, executeAll, entries, htimer]
    simp [executeAll, Nat.add_assoc, Nat.add_comm]

/-- The loop sets an alarm for every record that asks for one and gets a timer. -/
theorem executeAll_eq (rs : List Tlv.Record) (s : Executor) (timers : List (Option ℕ)) :
    ((rs.map AtlasCommand.ofRecord).foldl execute (s, timers)).1 =
      s.executeAll (rs.filterMap execution?) timers := by
  induction rs generalizing s timers with
  | nil => exact (executeAll_nil s timers).symm
  | cons r rs ih =>
    have htype : (AtlasCommand.ofRecord r).type = r.tag := rfl
    rw [List.map_cons, List.foldl_cons, execute, htype, List.filterMap_cons, execution?]
    by_cases hrestart : r.tag = CommandType.deviceRestart
    · rw [if_pos hrestart, if_pos hrestart, executeAll_cons, ← ih]
    by_cases hshutdown : r.tag = CommandType.deviceShutdown
    · rw [if_neg hrestart, if_neg hrestart, if_pos hshutdown, if_pos hshutdown, executeAll_cons,
        ← ih]
    · rw [if_neg hrestart, if_neg hrestart, if_neg hshutdown, if_neg hshutdown, ← ih]

/-- What a request does to the client: nothing while a command is in progress, else the alarms its
payload asks for. -/
theorem step_request (s : Executor) (datagram : Datagram) (timers : List (Option ℕ)) :
    (step host s (.request datagram timers)).1 =
      if s.cmdInProgress then s else s.executeAll (executions datagram.payload) timers := by
  obtain ⟨payload, hlength⟩ := datagram
  rw [step, atlasAlertCommandExecutionParse]
  by_cases hprogress : s.cmdInProgress
  · simp [hprogress]
  by_cases hnil : payload = []
  · simp [hprogress, hnil, executions, executeAll_nil]
  have hpos : 1 ≤ payload.length := List.length_pos_iff.mpr hnil
  have hle : payload.length ≤ 65535 := Nat.le_of_lt_succ hlength
  rw [if_neg hprogress, if_neg (not_empty_buf hpos hle), receivedCommands_eq host hpos hle,
    if_neg hprogress, executions]
  by_cases hrest : Tlv.rest payload = []
  · simp [hrest, executeAll_eq]
  · simp [hrest, executeAll_nil]

/-! ## One execution at a time -/

/-- A restart or a shutdown. -/
def isExecution (entry : AlarmEntry) : Bool :=
  entry.callback = .restart || entry.callback = .shutdown

/-- How many restarts and shutdowns are pending. -/
def pending (s : Executor) : ℕ := s.alarms.countP isExecution

/-- At most one restart or shutdown is pending, and the flag tells whether one was ever
scheduled. -/
def OneAtATime (s : Executor) : Prop :=
  s.pending ≤ 1 ∧ (s.cmdInProgress = true ↔ 0 < s.scheduled)

instance (s : Executor) : Decidable s.OneAtATime :=
  inferInstanceAs (Decidable (_ ∧ _))

/-- A request is deferred, or at most one of the alarms it asks for gets a timer. -/
def SchedulesOne (s : Executor) : Event → Prop
  | .request datagram timers =>
    s.cmdInProgress = true ∨
      (timers.take (executions datagram.payload).length).countP (·.isSome) ≤ 1
  | _ => True

/-- What holds as long as no request schedules two executions. -/
structure Accounted (s : Executor) : Prop where
  flag : s.cmdInProgress = true ↔ 0 < s.scheduled
  pending_le : s.pending ≤ s.scheduled
  scheduled_le : s.scheduled ≤ 1

theorem Accounted.oneAtATime {s : Executor} (h : s.Accounted) : s.OneAtATime :=
  ⟨Nat.le_trans h.pending_le h.scheduled_le, h.flag⟩

/-- Alarms of other modules come, and alarms go. -/
theorem Accounted.of_pending_le {s : Executor} (h : s.Accounted) {alarms : List AlarmEntry}
    (hle : alarms.countP isExecution ≤ s.alarms.countP isExecution) :
    Accounted { s with alarms } :=
  ⟨h.flag, Nat.le_trans hle h.pending_le, h.scheduled_le⟩

theorem countP_atlasAlarmCancel_le (alarmId : ℕ) (alarms : List AlarmEntry) :
    (atlasAlarmCancel alarmId alarms).countP isExecution ≤ alarms.countP isExecution :=
  List.eraseP_sublist.countP_le

theorem countP_atlasAlarmTrigger_le (fd : ℕ) (alarms : List AlarmEntry) :
    (atlasAlarmTrigger fd alarms).1.countP isExecution ≤ alarms.countP isExecution := by
  rw [atlasAlarmTrigger]
  split
  · exact Nat.le_refl _
  · split_ifs
    · exact countP_atlasAlarmCancel_le _ alarms
    · exact Nat.le_refl _

theorem countP_atlasAlarmSet_other (timer : Option ℕ) (n : ℕ) (runOnce : Bool)
    (alarms : List AlarmEntry) :
    (atlasAlarmSet timer (.other n) runOnce alarms).1.countP isExecution =
      alarms.countP isExecution := by
  cases timer with
  | none => rfl
  | some fd => simp [atlasAlarmSet, isExecution]

/-- All alarms of a request are executions. -/
theorem countP_entries {callbacks : List AlarmCallback} (timers : List (Option ℕ))
    (h : ∀ callback ∈ callbacks, callback = .restart ∨ callback = .shutdown) :
    (entries callbacks timers).countP isExecution = (entries callbacks timers).length := by
  rw [List.countP_eq_length]
  induction callbacks generalizing timers with
  | nil => exact nofun
  | cons callback callbacks ih =>
    obtain ⟨hcallback, hrest⟩ := List.forall_mem_cons.mp h
    intro entry hmem
    rcases List.mem_append.mp hmem with hnew | hold
    · obtain ⟨fd, -, rfl⟩ := Option.map_eq_some_iff.mp (Option.mem_toList.mp hnew)
      simpa [isExecution] using hcallback
    · exact ih timers.tail hrest entry hold

theorem mem_executions {payload : List UInt8} {callback : AlarmCallback}
    (h : callback ∈ executions payload) : callback = .restart ∨ callback = .shutdown := by
  rw [executions] at h
  split_ifs at h
  · obtain ⟨r, -, hr⟩ := List.mem_filterMap.mp h
    rw [execution?] at hr
    split_ifs at hr
    · exact Or.inl (Option.some_inj.mp hr).symm
    · exact Or.inr (Option.some_inj.mp hr).symm
  · cases h

theorem pending_executeAll (s : Executor) (payload : List UInt8) (timers : List (Option ℕ)) :
    (s.executeAll (executions payload) timers).pending =
      s.pending + (entries (executions payload) timers).length := by
  rw [pending, executeAll, List.countP_append, countP_entries timers fun _ => mem_executions,
    pending]

/-- The flag tells in every state whether an execution was scheduled. -/
theorem flag_step {s : Executor} (h : s.cmdInProgress = true ↔ 0 < s.scheduled) (e : Event) :
    (step host s e).1.cmdInProgress = true ↔ 0 < (step host s e).1.scheduled := by
  cases e with
  | request datagram timers =>
    rw [step_request]
    split_ifs with hprogress
    · exact h
    · have hzero : s.scheduled = 0 := Nat.eq_zero_of_not_pos fun hpos => hprogress (h.mpr hpos)
      simp [executeAll, hprogress, hzero, List.length_pos_iff]
  | set timer n runOnce => exact h
  | cancel alarmId => exact h
  | expire fd => exact h

/-- What else is counted survives a step that schedules one execution at most. -/
theorem accounted_step {s : Executor} (h : s.Accounted) {e : Event} (he : s.SchedulesOne e) :
    (step host s e).1.Accounted := by
  have hflag := flag_step host h.flag e
  cases e with
  | request datagram timers =>
    rw [step_request] at hflag ⊢
    split_ifs at hflag ⊢ with hprogress
    · exact h
    · -- nothing was scheduled before, and the request schedules at most one
      have hone := he.resolve_left hprogress
      rw [← length_entries] at hone
      have hzero : s.scheduled = 0 := Nat.eq_zero_of_not_pos fun hpos => hprogress (h.flag.mpr hpos)
      refine ⟨hflag, ?_, ?_⟩
      · rw [pending_executeAll]
        exact Nat.add_le_add_right h.pending_le _
      · rw [executeAll, hzero, Nat.zero_add]
        exact hone
  | set timer n runOnce =>
    exact h.of_pending_le (Nat.le_of_eq (countP_atlasAlarmSet_other timer n runOnce s.alarms))
  | cancel alarmId => exact h.of_pending_le (countP_atlasAlarmCancel_le alarmId s.alarms)
  | expire fd => exact h.of_pending_le (countP_atlasAlarmTrigger_le fd s.alarms)

/-- A request that schedules two executions leaves both pending. -/
theorem not_oneAtATime_step {s : Executor} {e : Event} (he : ¬ s.SchedulesOne e) :
    ¬ (step host s e).1.OneAtATime := by
  cases e with
  | request datagram timers =>
    obtain ⟨hprogress, htwo⟩ := not_or.mp he
    rw [step_request, if_neg hprogress]
    rw [← length_entries] at htwo
    intro hone
    have hpending := hone.1
    rw [pending_executeAll] at hpending
    omega
  | set | cancel | expire => exact absurd trivial he

/-- Over any requests, alarms of other modules and expirations, at most one restart or shutdown is
always pending and the flag tells whether one was scheduled, exactly when no request that is not
deferred gets timers for two alarms. -/
theorem one_at_a_time_iff (es : List Event) :
    AllStates (step host) OneAtATime init es ↔ AllSteps (step host) SchedulesOne init es := by
  refine allStates_iff_allSteps (J := fun s _ => s.Accounted) (fun s _ h => h.oneAtATime)
    (fun s e _ h he => accounted_step host h he) (fun s e _ _ he => not_oneAtATime_step host he) ?_
  exact ⟨by decide, by decide, by decide⟩

/-- One request with a restart and a shutdown leaves two alarms. -/
theorem two_pending_after_one_request :
    (run (step .little) init
      [.request ⟨[0, 0, 0, 0, 0, 1, 0, 0], by decide⟩ [some 5, some 6]]).pending = 2 ∧
    ¬ AllStates (step .little) OneAtATime init
      [.request ⟨[0, 0, 0, 0, 0, 1, 0, 0], by decide⟩ [some 5, some 6]] := by
  refine ⟨by decide, fun h => ?_⟩
  exact absurd h.last.1 (by decide)

end Executor

end Atlas.Client
