import Atlas.Commands.Batch
import Atlas.Gateway.Device
import Atlas.Lib.EventMachine
import Atlas.Lib.Outcome
import Atlas.Reputation.Networks
import Mathlib.Tactic.NormNum

/-! # Feedback requests

A registered device scores the data of another one: its request names the device and the network,
and carries scores of the two data features in percent. The callback collects every score of the
request in one feedback matrix (`settles_readFeedback`) and gives it to the device manager. What the
manager does with it depends on how much of the manager is modelled, so the callback takes the two
functions it calls as a parameter (`Calls`); here they are those of the devices in memory.

Reference: `reputation/AtlasFeatureReputation.cpp`, `commands/AtlasCommandType.h`.
-/

namespace Atlas.Reputation

open ByteOrder EventMachine Gateway
open AtlasDeviceFeatureManager (dataWeights)

namespace CommandType

/-- `ATLAS_CMD_IDENTITY`. -/
def identity : UInt16 := 2

/-- `ATLAS_CMD_FEEDBACK`. -/
def feedback : UInt16 := 1501

/-- `ATLAS_CMD_FEEDBACK_IDENTITY`. -/
def feedbackIdentity : UInt16 := 1502

/-- `ATLAS_CMD_FEEDBACK_SENSOR_TYPE`. -/
def feedbackSensorType : UInt16 := 1503

/-- `ATLAS_CMD_FEEDBACK_SENSOR`. -/
def feedbackSensor : UInt16 := 1504

/-- `ATLAS_CMD_FEEDBACK_RESPONSE_TIME`. -/
def feedbackResponseTime : UInt16 := 1505

end CommandType

variable (host : ByteOrder)

/-! ## Reading a request -/

/-- Why the callback ends before the update: it refuses the request, or it copies a value over the
end of its destination. -/
inductive Stop where
  | refused
  | overflow
deriving DecidableEq

/-- The local variables of `feedbackReputationCallback`. -/
structure FeedbackFields where
  tmp : UInt16
  identity : StdString := []
  feedbackIdentity : StdString := []
  sensorType : Option UInt16 := none
  sensorScore : Bool := false
  respTimeScore : Bool := false
  feedbackMatrix : FeedbackMatrix := []

namespace FeedbackFields

/-- The value copied over `tmp`, in host order. A short value leaves a part of `tmp` as it was. -/
def copy (fields : FeedbackFields) (val : List UInt8) : Except Stop UInt16 :=
  match (write (store16 host fields.tmp) 0 val).bind (load16? host) with
  | some tmp => .ok (ntohs host tmp)
  | none => .error .overflow

/-- The body of the inner loop. -/
def readInner (fields : FeedbackFields) (cmd : AtlasCommand) : Except Stop FeedbackFields :=
  if cmd.type = CommandType.feedbackIdentity then .ok { fields with feedbackIdentity := cmd.val }
  else if cmd.type = CommandType.feedbackSensorType then
    (fields.copy host cmd.val).map fun tmp => { fields with tmp := tmp, sensorType := some tmp }
  else if cmd.type = CommandType.feedbackSensor then
    (fields.copy host cmd.val).map fun tmp =>
      { fields with
        tmp := tmp
        feedbackMatrix := fields.feedbackMatrix ++ [(.sensor, (tmp.toNat : ℚ) / 100)]
        sensorScore := true }
  else if cmd.type = CommandType.feedbackResponseTime then
    (fields.copy host cmd.val).map fun tmp =>
      { fields with
        tmp := tmp
        feedbackMatrix := fields.feedbackMatrix ++ [(.respTime, (tmp.toNat : ℚ) / 100)]
        respTimeScore := true }
  else .ok fields

/-- The body of the outer loop. -/
def read (pskIdentity : StdString) (fields : FeedbackFields) (cmd : AtlasCommand) :
    Except Stop FeedbackFields :=
  if cmd.type = CommandType.identity then
    if cmd.len = 0 then .error .refused
    else if pskIdentity ≠ cmd.val then .error .refused
    else .ok { fields with identity := cmd.val }
  else if cmd.type = CommandType.feedback then
    if cmd.len = 0 then .error .refused
    -- `tmp` and the scores of earlier feedback commands are still there
    else (AtlasCommandBatch.parsedCommands host cmd.val).foldlM (readInner host) fields
  else .ok fields

/-- The checks after the loops. -/
def accept (fields : FeedbackFields) : Except Stop (StdString × UInt16 × FeedbackMatrix) :=
  if fields.identity = [] then .error .refused
  else if fields.feedbackIdentity = [] then .error .refused
  else match fields.sensorType with
    | none => .error .refused
    | some sensorType =>
      if !fields.sensorScore then .error .refused
      else if !fields.respTimeScore then .error .refused
      else .ok (fields.feedbackIdentity, sensorType, fields.feedbackMatrix)

end FeedbackFields

/-- The device, the network and the scores of an acceptable request; `tmp` is what the variable of
this name holds before it is set. -/
def readFeedback (tmp : UInt16) (pskIdentity : StdString) (reqPayload : List UInt8) :
    Except Stop (StdString × UInt16 × FeedbackMatrix) :=
  let cmds := AtlasCommandBatch.parsedCommands host reqPayload
  if cmds = [] then .error .refused
  else (cmds.foldlM (FeedbackFields.read host pskIdentity) { tmp := tmp }).bind
    FeedbackFields.accept

/-- What `feedbackReputationCallback` calls of the device manager, over a state of the manager. -/
structure Calls (σ : Type) where
  getDevice : StdString → σ → σ × Option AtlasDevice
  updateDataReputation : StdString → ℕ → FeedbackMatrix → σ → σ

namespace Calls

variable {σ : Type} (calls : Calls σ)

/-- `feedbackReputationCallback`; `none` stands for a copy over the end of its destination. -/
def feedbackReputationCallback (tmp : UInt16) (s : σ) (pskIdentity : StdString)
    (reqPayload : List UInt8) : Option (σ × CoapResponse) :=
  match calls.getDevice pskIdentity s with
  | (s, none) => some (s, .notAcceptable)
  | (s, some device) =>
    if !device.registered then some (s, .notAcceptable) else
    match readFeedback host tmp pskIdentity reqPayload with
    | .error .refused => some (s, .notAcceptable)
    | .error .overflow => none
    | .ok (feedbackIdentity, sensorType, feedbackMatrix) =>
      some (calls.updateDataReputation feedbackIdentity sensorType.toNat feedbackMatrix s, .ok)

/-- The sender is looked up. If it is registered and its request is acceptable, the device it names
is scored. -/
theorem feedbackReputationCallback_cases {tmp : UInt16} {s : σ} {pskIdentity : StdString}
    {reqPayload : List UInt8} {result : σ × CoapResponse}
    (h : calls.feedbackReputationCallback host tmp s pskIdentity reqPayload = some result) :
    result = ((calls.getDevice pskIdentity s).1, .notAcceptable) ∨
      (∃ device, (calls.getDevice pskIdentity s).2 = some device ∧ device.registered = true) ∧
        ∃ feedbackIdentity sensorType feedbackMatrix, readFeedback host tmp pskIdentity reqPayload =
          .ok (feedbackIdentity, sensorType, feedbackMatrix) ∧
        result = (calls.updateDataReputation feedbackIdentity sensorType.toNat feedbackMatrix
          (calls.getDevice pskIdentity s).1, .ok) := by
  rw [feedbackReputationCallback] at h
  split at h
  case h_1 hget =>
    rw [hget]
    exact .inl (Option.some.inj h).symm
  case h_2 hget =>
    rw [hget]
    split_ifs at h with hregistered
    · exact .inl (Option.some.inj h).symm
    · rw [Bool.not_eq_true, Bool.not_eq_false'] at hregistered
      split at h
      case h_1 => exact .inl (Option.some.inj h).symm
      case h_2 => cases h
      case h_3 hread =>
        exact .inr ⟨⟨_, rfl, hregistered⟩, _, _, _, hread, (Option.some.inj h).symm⟩

end Calls

/-- The devices in memory, with what the database holds for the others. -/
def Devices.calls (env : Env) : Calls Devices where
  getDevice identity devices := devices.getDevice env identity
  updateDataReputation identity networkType feedbackMatrix devices :=
    devices.updateDataReputation identity networkType feedbackMatrix

/-- `feedbackReputationCallback` on the devices in memory. -/
def feedbackReputationCallback (env : Env) (tmp : UInt16) (devices : Devices)
    (pskIdentity : StdString) (reqPayload : List UInt8) : Option (Devices × CoapResponse) :=
  (Devices.calls env).feedbackReputationCallback host tmp devices pskIdentity reqPayload

/-! ## Runs -/

/-- What happens to the reputation of the devices. Other requests bring a device into memory,
register it, or let its registration expire. -/
inductive Event where
  | getDevice (env : Env) (identity : StdString)
  | register (env : Env) (identity : StdString)
  | expire (identity : StdString)
  | feedback (env : Env) (tmp : UInt16) (pskIdentity : StdString) (reqPayload : List UInt8)
  | sysRepAlarm (feedback : StdString → SystemFeedback)

/-- One event. -/
def step (devices : Devices) : Event → Devices × List CoapResponse
  | .getDevice env identity => ((devices.getDevice env identity).1, [])
  | .register env identity => ((devices.getDevice env identity).1.setRegistered true identity, [])
  | .expire identity => (devices.setRegistered false identity, [])
  | .feedback env tmp pskIdentity reqPayload =>
    match feedbackReputationCallback host env tmp devices pskIdentity reqPayload with
    | none => (devices, [])
    | some (devices, response) => (devices, [response])
  | .sysRepAlarm feedback => (devices.sysRepAlarmCallback feedback, [])

/-- The device an event brings into memory if it is not there yet, with what the database holds for
it. -/
def Event.loads : Event → Option (Env × StdString)
  | .getDevice env identity | .register env identity | .feedback env _ identity _ =>
    some (env, identity)
  | .expire _ | .sysRepAlarm _ => none

/-- What holds of every device is preserved by an event, if it holds of a device that comes into
memory and is preserved by registration, by the alarm and by scores. -/
theorem forall_step {P : AtlasDevice → Prop} {devices : Devices} (h : devices.Forall P)
    {event : Event}
    (hload : ∀ env identity, event.loads = some (env, identity) → devices identity = none →
      env.selectDevicePsk identity ≠ [] →
        P ⟨false, AtlasDeviceFeatureManager.initSystemReputation (env.systemParams identity),
          AtlasDeviceFeatureManager.initDataReputation (env.dataParams identity)⟩)
    (hregistered : ∀ device registered, P device → P { device with registered := registered })
    (halarm : ∀ device feedback, P device → P (device.subAlarmCallback feedback))
    (hscores : ∀ feedbackMatrix device, P device → P (device.updateData feedbackMatrix)) :
    (step host devices event).1.Forall P := by
  cases event with
  | getDevice env identity => exact h.getDevice (hload env identity rfl)
  | register env identity =>
    have hget := h.getDevice (hload env identity rfl)
    exact hget.setRegistered true identity fun device => hregistered device true
  | expire identity => exact h.setRegistered false identity fun device => hregistered device false
  | feedback env tmp pskIdentity reqPayload =>
    have hget := h.getDevice (hload env pskIdentity rfl)
    rw [step]
    split
    case h_1 => exact h
    case h_2 devices' response hcallback =>
      obtain heq | ⟨-, feedbackIdentity, sensorType, feedbackMatrix, -, heq⟩ :=
        (Devices.calls env).feedbackReputationCallback_cases host hcallback
      · cases heq
        exact hget
      · cases heq
        exact hget.updateDataReputation feedbackIdentity sensorType.toNat (hscores feedbackMatrix)
  | sysRepAlarm feedback => exact h.sysRepAlarmCallback feedback halarm

/-! ## Scores of a request -/

/-- The records in the feedback commands of a list of commands. -/
def feedbackRecords (cmds : List AtlasCommand) : List AtlasCommand :=
  (cmds.filter (·.type = CommandType.feedback)).flatMap
    fun cmd => AtlasCommandBatch.parsedCommands host cmd.val

theorem feedbackRecords_append (cmds cmds' : List AtlasCommand) :
    feedbackRecords host (cmds ++ cmds') =
      feedbackRecords host cmds ++ feedbackRecords host cmds' := by
  rw [feedbackRecords, List.filter_append, List.flatMap_append]
  rfl

/-- A field of two bytes. -/
def fieldValue : List UInt8 → ℕ
  | [a, b] => (word a b).toNat
  | _ => 0

/-- The fields of fixed width in these records are two bytes long. -/
def TwoByteFields (records : List AtlasCommand) : Prop :=
  ∀ cmd ∈ records,
    cmd.type ∈ [CommandType.feedbackSensorType, CommandType.feedbackSensor,
      CommandType.feedbackResponseTime] → cmd.val.length = 2

instance (records : List AtlasCommand) : Decidable (TwoByteFields records) :=
  inferInstanceAs (Decidable (∀ cmd ∈ records, _ → _))

/-- How many of these records score a feature with at least 80 percent. -/
def goodScores (records : List AtlasCommand) (type : UInt16) : ℕ :=
  records.countP fun cmd => cmd.type = type ∧ 80 ≤ fieldValue cmd.val

/-- The entry of the feedback matrix a record stands for. -/
def scoreEntry (cmd : AtlasCommand) : Option (AtlasDeviceFeatureType × ℚ) :=
  if cmd.type = CommandType.feedbackSensor then some (.sensor, (fieldValue cmd.val : ℚ) / 100)
  else if cmd.type = CommandType.feedbackResponseTime then
    some (.respTime, (fieldValue cmd.val : ℚ) / 100)
  else none

/-- A result of reading that satisfies `P`, unless the request was refused: no copy has left its
destination. -/
abbrev Settles {α : Type} (P : α → Prop) : Except Stop α → Prop := Outcome (· = .refused) P

/-- A result of reading that satisfies `P`, unless reading has stopped. -/
abbrev Ends {α : Type} (P : α → Prop) : Except Stop α → Prop := Outcome (fun _ => True) P

theorem ends_map {α β : Type} {P : β → Prop} {f : α → β} (hf : ∀ a, P (f a)) (x : Except Stop α) :
    Ends P (x.map f) := by
  cases x with
  | ok a => exact hf a
  | error e => trivial

namespace FeedbackFields

/-- Two bytes replace `tmp`, whatever it held. -/
theorem settles_copy (fields : FeedbackFields) {val : List UInt8} (h : val.length = 2) :
    Settles (fun tmp => tmp.toNat = fieldValue val) (fields.copy host val) := by
  obtain ⟨a, b, rfl⟩ := List.length_eq_two.mp h
  have hwrite : write (store16 host fields.tmp) 0 [a, b] = some [a, b] := by
    simp [write]
  have hcopy : fields.copy host [a, b] = .ok (word a b) := by
    rw [copy, hwrite, Option.bind_some, load16?]
    simp
  rw [hcopy]
  exact rfl

/-- A record is read, and its score is pushed at the end of the matrix. -/
theorem settles_readInner (fields : FeedbackFields) {cmd : AtlasCommand}
    (h : cmd.type ∈ [CommandType.feedbackSensorType, CommandType.feedbackSensor,
      CommandType.feedbackResponseTime] → cmd.val.length = 2) :
    Settles (fun fields' => fields'.feedbackMatrix =
      fields.feedbackMatrix ++ [cmd].filterMap scoreEntry) (fields.readInner host cmd) := by
  by_cases hidentity : cmd.type = CommandType.feedbackIdentity
  · have hentry : scoreEntry cmd = none := by
      rw [scoreEntry, hidentity]
      rfl
    rw [readInner, if_pos hidentity]
    simp [Outcome, hentry]
  by_cases htype : cmd.type = CommandType.feedbackSensorType
  · have hentry : scoreEntry cmd = none := by
      rw [scoreEntry, htype]
      rfl
    rw [readInner, if_neg hidentity, if_pos htype]
    refine (settles_copy host fields (h (by simp [htype]))).map fun tmp _ => ?_
    simp [hentry]
  by_cases hsensor : cmd.type = CommandType.feedbackSensor
  · have hentry : scoreEntry cmd = some (.sensor, (fieldValue cmd.val : ℚ) / 100) := by
      rw [scoreEntry, if_pos hsensor]
    rw [readInner, if_neg hidentity, if_neg htype, if_pos hsensor]
    refine (settles_copy host fields (h (by simp [hsensor]))).map fun tmp htmp => ?_
    simp [hentry, htmp]
  by_cases hresp : cmd.type = CommandType.feedbackResponseTime
  · have hentry : scoreEntry cmd = some (.respTime, (fieldValue cmd.val : ℚ) / 100) := by
      rw [scoreEntry, if_neg hsensor, if_pos hresp]
    rw [readInner, if_neg hidentity, if_neg htype, if_neg hsensor, if_pos hresp]
    refine (settles_copy host fields (h (by simp [hresp]))).map fun tmp htmp => ?_
    simp [hentry, htmp]
  · have hentry : scoreEntry cmd = none := by
      rw [scoreEntry, if_neg hsensor, if_neg hresp]
    rw [readInner, if_neg hidentity, if_neg htype, if_neg hsensor, if_neg hresp]
    simp [Outcome, hentry]

/-- The inner loop pushes the scores in order. -/
theorem settles_foldlM_readInner (fields : FeedbackFields) {cmds : List AtlasCommand}
    (h : TwoByteFields cmds) :
    Settles (fun fields' => fields'.feedbackMatrix =
      fields.feedbackMatrix ++ cmds.filterMap scoreEntry)
        (cmds.foldlM (readInner host) fields) := by
  refine Outcome.foldlM (I := fun done (now : FeedbackFields) => now.feedbackMatrix =
    fields.feedbackMatrix ++ done.filterMap scoreEntry) cmds (List.append_nil _).symm ?_
  intro done cmd rest now hcmds hnow
  have hcmd : cmd ∈ cmds := by simp [hcmds]
  refine (settles_readInner host now (h cmd hcmd)).mono fun fields' hfields' => ?_
  rw [hfields', hnow, List.append_assoc, ← List.filterMap_append]

/-- One command of the request: a feedback command pushes its scores. -/
theorem settles_read (pskIdentity : StdString) (fields : FeedbackFields) {cmd : AtlasCommand}
    (h : TwoByteFields (feedbackRecords host [cmd])) :
    Settles (fun fields' => fields'.feedbackMatrix =
      fields.feedbackMatrix ++ (feedbackRecords host [cmd]).filterMap scoreEntry)
      (read host pskIdentity fields cmd) := by
  by_cases hfeedback : cmd.type = CommandType.feedback
  · have hrecords : feedbackRecords host [cmd] = AtlasCommandBatch.parsedCommands host cmd.val := by
      simp [feedbackRecords, hfeedback]
    have hidentity : cmd.type ≠ CommandType.identity := by
      rw [hfeedback]
      decide
    rw [hrecords] at h ⊢
    rw [read, if_neg hidentity, if_pos hfeedback]
    split
    case isTrue => rfl
    case isFalse => exact settles_foldlM_readInner host fields h
  · have hrecords : feedbackRecords host [cmd] = [] := by
      simp [feedbackRecords, hfeedback]
    rw [hrecords, read, if_neg hfeedback]
    split_ifs
    · rfl
    · rfl
    · exact (List.append_nil _).symm
    · exact (List.append_nil _).symm

/-- The outer loop collects the scores of all feedback commands. -/
theorem settles_foldlM_read (pskIdentity : StdString) {cmds : List AtlasCommand}
    (fields : FeedbackFields) (h : TwoByteFields (feedbackRecords host cmds)) :
    Settles (fun fields' => fields'.feedbackMatrix =
      fields.feedbackMatrix ++ (feedbackRecords host cmds).filterMap scoreEntry)
      (cmds.foldlM (read host pskIdentity) fields) := by
  refine Outcome.foldlM (I := fun done (now : FeedbackFields) => now.feedbackMatrix =
    fields.feedbackMatrix ++ (feedbackRecords host done).filterMap scoreEntry) cmds
    (List.append_nil _).symm ?_
  intro done cmd rest now hcmds hnow
  have hcmd : TwoByteFields (feedbackRecords host [cmd]) := by
    rw [hcmds, ← List.singleton_append, feedbackRecords_append, feedbackRecords_append] at h
    exact fun record hrecord =>
      h record (List.mem_append_right _ (List.mem_append_left _ hrecord))
  refine (settles_read host pskIdentity now hcmd).mono fun fields' hfields' => ?_
  rw [hfields', hnow, List.append_assoc, ← List.filterMap_append, feedbackRecords_append]

/-- The checks hand the matrix on as it is. -/
theorem settles_accept (fields : FeedbackFields) :
    Settles (fun result => result.2.2 = fields.feedbackMatrix) fields.accept := by
  rw [accept]
  split
  · rfl
  split
  · rfl
  split
  · rfl
  split
  · rfl
  split
  · rfl
  · rfl

end FeedbackFields

/-- The records in the feedback commands of a request. -/
def requestRecords (reqPayload : List UInt8) : List AtlasCommand :=
  feedbackRecords host (AtlasCommandBatch.parsedCommands host reqPayload)

/-- The matrix of an acceptable request has an entry for each score. -/
theorem settles_readFeedback (tmp : UInt16) (pskIdentity : StdString) {reqPayload : List UInt8}
    (h : TwoByteFields (requestRecords host reqPayload)) :
    Settles (fun result => result.2.2 = (requestRecords host reqPayload).filterMap scoreEntry)
      (readFeedback host tmp pskIdentity reqPayload) := by
  have hread := FeedbackFields.settles_foldlM_read host pskIdentity { tmp := tmp } h
  rw [readFeedback]
  split
  case isTrue => rfl
  case isFalse =>
    refine hread.bind fun fields hfields => fields.settles_accept.mono fun result hresult => ?_
    exact hresult.trans hfields

/-- A score in percent reaches four fifths from 80 on. -/
theorem four_fifths_le_iff (n : ℕ) : (4 / 5 : ℚ) ≤ n / 100 ↔ 80 ≤ n := by
  rw [le_div_iff₀ (by norm_num), show (4 / 5 : ℚ) * 100 = (80 : ℕ) by norm_num, Nat.cast_le]

/-- The scores of a request credit the sensor and the response time as often as they are good. -/
theorem credits_filterMap_scoreEntry {manager : AtlasDeviceFeatureManager}
    (h : AtlasDeviceFeatureManager.InOrder dataWeights manager) (records : List AtlasCommand)
    (type : AtlasDeviceFeatureType) :
    manager.credits (records.filterMap scoreEntry) type =
      match type with
      | .sensor => goodScores records CommandType.feedbackSensor
      | .respTime => goodScores records CommandType.feedbackResponseTime
      | _ => 0 := by
  have hsensor : ∀ score, manager.Reaches (.sensor, score) ↔ 4 / 5 ≤ score :=
    h.reaches_iff rfl (by norm_num : (0 : ℚ) < 7 / 10)
  have hresp : ∀ score, manager.Reaches (.respTime, score) ↔ 4 / 5 ≤ score :=
    h.reaches_iff rfl (by norm_num : (0 : ℚ) < 3 / 10)
  have hne : CommandType.feedbackResponseTime ≠ CommandType.feedbackSensor := by decide
  -- an entry of the matrix is counted where its record is
  rw [AtlasDeviceFeatureManager.credits, List.countP_filterMap]
  cases type with
  | sensor =>
    refine List.countP_congr fun cmd _ => ?_
    by_cases h₁ : cmd.type = CommandType.feedbackSensor
    · simp [scoreEntry, h₁, hsensor, four_fifths_le_iff]
    · by_cases h₂ : cmd.type = CommandType.feedbackResponseTime <;> simp [scoreEntry, h₁, h₂, hne]
  | respTime =>
    refine List.countP_congr fun cmd _ => ?_
    by_cases h₁ : cmd.type = CommandType.feedbackSensor
    · simp [scoreEntry, h₁, hne.symm]
    · by_cases h₂ : cmd.type = CommandType.feedbackResponseTime
      · simp [scoreEntry, h₂, hne, hresp, four_fifths_le_iff]
      · simp [scoreEntry, h₁, h₂]
  | _ =>
    refine List.countP_eq_zero.mpr fun cmd _ => ?_
    by_cases h₁ : cmd.type = CommandType.feedbackSensor
    · simp [scoreEntry, h₁]
    · by_cases h₂ : cmd.type = CommandType.feedbackResponseTime <;> simp [scoreEntry, h₁, h₂, hne]

/-- A database that knows every device and holds no counters yet. -/
def freshEnv : Env := ⟨fun _ => [1], fun _ => none, fun _ => none⟩

/-- An identity record of device 65, and a feedback record about device 66 with the given scores. -/
def feedbackPayload (scores : List UInt8) : List UInt8 :=
  [0, 2, 0, 1, 65, 5, 221, 0, UInt8.ofNat (11 + scores.length)] ++
    [5, 222, 0, 1, 66, 5, 223, 0, 2, 0, 101] ++ scores

end Atlas.Reputation
