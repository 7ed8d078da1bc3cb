import Atlas.Reputation.Feedback

/-! # Lengths of the fields of a feedback request

The sensor type and the two scores of a feedback request are numbers of two bytes. The callback
copies as many bytes as the record has over a variable of this size. A longer field is written over
its end, and a shorter one leaves a byte of the number that was read before. Only requests that are
refused for another reason before such a field, or that lack something else, are safe.

Reference: `reputation/AtlasFeatureReputation.cpp` (`feedbackReputationCallback`).
-/

namespace Atlas.Reputation

open ByteOrder Gateway

variable (host : ByteOrder)

/-! ## Where reading stops -/

/-- The record is a field of two bytes. -/
def IsField (cmd : AtlasCommand) : Prop :=
  cmd.type ∈ [CommandType.feedbackSensorType, CommandType.feedbackSensor,
    CommandType.feedbackResponseTime]

instance (cmd : AtlasCommand) : Decidable (IsField cmd) := inferInstanceAs (Decidable (_ ∈ _))

/-- No field is longer than the variable it is copied to. -/
def FieldsFit (records : List AtlasCommand) : Prop :=
  ∀ cmd ∈ records, IsField cmd → cmd.val.length ≤ 2

instance (records : List AtlasCommand) : Decidable (FieldsFit records) :=
  inferInstanceAs (Decidable (∀ cmd ∈ records, _))

/-- The callback answers this command with a refusal: an empty identity or one that is not the
sender's, or an empty feedback command. -/
def Refuses (pskIdentity : StdString) (cmd : AtlasCommand) : Prop :=
  cmd.type = CommandType.identity ∧ (cmd.len = 0 ∨ pskIdentity ≠ cmd.val) ∨
    cmd.type = CommandType.feedback ∧ cmd.len = 0

instance (pskIdentity : StdString) (cmd : AtlasCommand) : Decidable (Refuses pskIdentity cmd) :=
  inferInstanceAs (Decidable (_ ∨ _))

/-- The commands before the first one that is refused. -/
def examined (pskIdentity : StdString) (cmds : List AtlasCommand) : List AtlasCommand :=
  cmds.takeWhile fun cmd => ¬ Refuses pskIdentity cmd

theorem feedbackRecords_cons (cmd : AtlasCommand) (cmds : List AtlasCommand) :
    feedbackRecords host (cmd :: cmds) = feedbackRecords host [cmd] ++ feedbackRecords host cmds :=
  feedbackRecords_append host [cmd] cmds

theorem fieldsFit_append {records records' : List AtlasCommand} :
    FieldsFit (records ++ records') ↔ FieldsFit records ∧ FieldsFit records' := by
  simp only [FieldsFit, List.mem_append, or_imp, forall_and]

/-- Why the inner loop stops at a record. -/
def innerStop (cmd : AtlasCommand) : Option Stop :=
  if IsField cmd ∧ 2 < cmd.val.length then some .overflow else none

/-- Why the outer loop stops at a command. -/
def outerStop (pskIdentity : StdString) (cmd : AtlasCommand) : Option Stop :=
  if Refuses pskIdentity cmd then some .refused
  else (feedbackRecords host [cmd]).findSome? innerStop

namespace FeedbackFields

theorem reason_copy (fields : FeedbackFields) (val : List UInt8) :
    (fields.copy host val).reason = if 2 < val.length then some .overflow else none := by
  have hlength : (store16 host fields.tmp).length = 2 := by cases host <;> rfl
  rw [copy]
  split_ifs with hlong
  · rw [write, if_neg (by omega)]
    rfl
  · rw [write, if_pos (by omega)]
    -- what is written and what is left of the old value are two bytes
    have htwo : ((store16 host fields.tmp).take 0 ++ val ++
        (store16 host fields.tmp).drop (0 + val.length)).length = 2 := by
      simp only [List.take_zero, List.nil_append, List.length_append, List.length_drop, hlength]
      omega
    obtain ⟨a, b, hab⟩ := List.length_eq_two.mp htwo
    rw [hab]
    rfl

theorem reason_readInner (fields : FeedbackFields) (cmd : AtlasCommand) :
    (fields.readInner host cmd).reason = innerStop cmd := by
  rw [readInner]
  split_ifs with hidentity htype hsensor hresp
  · have hfield : ¬ IsField cmd := by
      rw [IsField, hidentity]
      decide
    rw [innerStop, if_neg (fun h => hfield h.1)]
    rfl
  · have hfield : IsField cmd := by simp [IsField, htype]
    simp only [Except.reason_map, reason_copy, innerStop, hfield, true_and]
  · have hfield : IsField cmd := by simp [IsField, hsensor]
    simp only [Except.reason_map, reason_copy, innerStop, hfield, true_and]
  · have hfield : IsField cmd := by simp [IsField, hresp]
    simp only [Except.reason_map, reason_copy, innerStop, hfield, true_and]
  · have hfield : ¬ IsField cmd := by simp [IsField, htype, hsensor, hresp]
    rw [innerStop, if_neg (fun h => hfield h.1)]
    rfl

theorem reason_read (pskIdentity : StdString) (fields : FeedbackFields) (cmd : AtlasCommand) :
    (fields.read host pskIdentity cmd).reason = outerStop host pskIdentity cmd := by
  have hne : CommandType.identity ≠ CommandType.feedback := by decide
  rw [read, outerStop]
  by_cases hidentity : cmd.type = CommandType.identity
  · have hrecords : feedbackRecords host [cmd] = [] := by simp [feedbackRecords, hidentity, hne]
    rw [if_pos hidentity, hrecords]
    by_cases hlen : cmd.len = 0
    · simp [Refuses, hidentity, hlen, Except.reason]
    · by_cases hpsk : pskIdentity = cmd.val
      · simp [Refuses, hidentity, hlen, hpsk, hne, Except.reason]
      · simp [Refuses, hidentity, hlen, hpsk, Except.reason]
  · rw [if_neg hidentity]
    by_cases hfeedback : cmd.type = CommandType.feedback
    · have hrecords :
          feedbackRecords host [cmd] = AtlasCommandBatch.parsedCommands host cmd.val := by
        simp [feedbackRecords, hfeedback]
      rw [if_pos hfeedback, hrecords]
      by_cases hlen : cmd.len = 0
      · simp [Refuses, hfeedback, hlen, Except.reason]
      · rw [if_neg hlen, if_neg (by simp [Refuses, hidentity, hlen])]
        exact reason_foldlM (reason_readInner host) _ _
    · have hrecords : feedbackRecords host [cmd] = [] := by simp [feedbackRecords, hfeedback]
      simp [Refuses, hidentity, hfeedback, hrecords, Except.reason]

/-- The outer loop stops as the first command does that stops it. -/
theorem reason_foldlM_read (pskIdentity : StdString) (fields : FeedbackFields)
    (cmds : List AtlasCommand) :
    (cmds.foldlM (read host pskIdentity) fields).reason =
      cmds.findSome? (outerStop host pskIdentity) :=
  reason_foldlM (reason_read host pskIdentity) cmds fields

end FeedbackFields

theorem findSome?_innerStop (records : List AtlasCommand) :
    records.findSome? innerStop = if FieldsFit records then none else some .overflow := by
  induction records with
  | nil => rfl
  | cons cmd records ih =>
    rw [List.findSome?_cons, ih]
    by_cases hlong : IsField cmd ∧ 2 < cmd.val.length
    · have hnot : ¬ FieldsFit (cmd :: records) := by
        intro h
        have := h cmd List.mem_cons_self hlong.1
        omega
      simp [innerStop, hlong, hnot]
    · have hiff : FieldsFit (cmd :: records) ↔ FieldsFit records := by
        rw [FieldsFit, List.forall_mem_cons]
        exact and_iff_right fun hfield => not_lt.mp fun hlen => hlong ⟨hfield, hlen⟩
      simp [innerStop, hlong, hiff]

/-- The loops end at a field that is too long, if one comes before the commands that are refused; at
a command that is refused; or behind the last command. -/
theorem findSome?_outerStop (pskIdentity : StdString) (cmds : List AtlasCommand) :
    cmds.findSome? (outerStop host pskIdentity) =
      if FieldsFit (feedbackRecords host (examined pskIdentity cmds)) then
        if ∃ cmd ∈ cmds, Refuses pskIdentity cmd then some .refused else none
      else some .overflow := by
  induction cmds with
  | nil => rfl
  | cons cmd cmds ih =>
    rw [List.findSome?_cons, ih, outerStop, findSome?_innerStop]
    by_cases hrefused : Refuses pskIdentity cmd
    · have hexamined : examined pskIdentity (cmd :: cmds) = [] := by simp [examined, hrefused]
      have hfit : FieldsFit (feedbackRecords host []) := List.forall_mem_nil _
      simp [hrefused, hexamined, hfit]
    · have hexamined : examined pskIdentity (cmd :: cmds) = cmd :: examined pskIdentity cmds := by
        simp [examined, hrefused]
      have hfits : FieldsFit (feedbackRecords host (examined pskIdentity (cmd :: cmds))) ↔
          FieldsFit (feedbackRecords host [cmd]) ∧
            FieldsFit (feedbackRecords host (examined pskIdentity cmds)) := by
        rw [hexamined, feedbackRecords_cons, fieldsFit_append]
      by_cases hfit : FieldsFit (feedbackRecords host [cmd])
      · simp [hfits, hfit, hrefused]
      · simp [hfits, hfit, hrefused]

/-! ## What is read -/

/-- The value of the last command of this type. -/
def lastValue (type : UInt16) (cmds : List AtlasCommand) : List UInt8 :=
  ((cmds.filter (·.type = type)).getLast?.map (·.val)).getD []

/-- There is a command of this type. -/
def HasType (type : UInt16) (cmds : List AtlasCommand) : Prop := ∃ cmd ∈ cmds, cmd.type = type

instance (type : UInt16) (cmds : List AtlasCommand) : Decidable (HasType type cmds) :=
  inferInstanceAs (Decidable (∃ cmd ∈ cmds, _))

theorem lastValue_concat (type : UInt16) (cmds : List AtlasCommand) (cmd : AtlasCommand) :
    lastValue type (cmds ++ [cmd]) = if cmd.type = type then cmd.val else lastValue type cmds := by
  by_cases htype : cmd.type = type <;> simp [lastValue, htype]

theorem hasType_concat {type : UInt16} {cmds : List AtlasCommand} {cmd : AtlasCommand} :
    HasType type (cmds ++ [cmd]) ↔ HasType type cmds ∨ cmd.type = type := by
  simp [HasType, List.mem_append, or_and_right, exists_or]

/-- The request has everything the callback asks for. -/
def Complete (cmds records : List AtlasCommand) : Prop :=
  lastValue CommandType.identity cmds ≠ [] ∧ lastValue CommandType.feedbackIdentity records ≠ [] ∧
    HasType CommandType.feedbackSensorType records ∧ HasType CommandType.feedbackSensor records ∧
    HasType CommandType.feedbackResponseTime records

instance (cmds records : List AtlasCommand) : Decidable (Complete cmds records) :=
  inferInstanceAs (Decidable (_ ∧ _))

/-- What the local variables hold after these commands and records. -/
structure FeedbackFields.Summarizes (fields : FeedbackFields) (cmds records : List AtlasCommand) :
    Prop where
  identity : fields.identity = lastValue CommandType.identity cmds
  feedbackIdentity : fields.feedbackIdentity = lastValue CommandType.feedbackIdentity records
  sensorType : fields.sensorType.isSome ↔ HasType CommandType.feedbackSensorType records
  sensorScore : fields.sensorScore = true ↔ HasType CommandType.feedbackSensor records
  respTimeScore : fields.respTimeScore = true ↔ HasType CommandType.feedbackResponseTime records
  sensorType_eq : TwoByteFields records → ∀ sensorType ∈ fields.sensorType,
    sensorType.toNat = fieldValue (lastValue CommandType.feedbackSensorType records)

namespace FeedbackFields

variable {host} {fields : FeedbackFields} {cmds records : List AtlasCommand}

theorem ends_copy (host : ByteOrder) (fields : FeedbackFields) (val : List UInt8) :
    Ends (fun tmp => val.length = 2 → tmp.toNat = fieldValue val) (fields.copy host val) := by
  by_cases hlength : val.length = 2
  · refine (settles_copy host fields hlength).mono_error (fun _ _ => trivial) |>.mono ?_
    exact fun _ htmp _ => htmp
  · cases fields.copy host val with
    | ok tmp => exact fun h => absurd h hlength
    | error stop => trivial

theorem twoByteFields_left {cmd : AtlasCommand} (h : TwoByteFields (records ++ [cmd])) :
    TwoByteFields records :=
  fun cmd' hcmd' => h cmd' (List.mem_append_left _ hcmd')

/-- One record. The four types differ, so each record sets what belongs to its type. -/
theorem Summarizes.readInner (h : fields.Summarizes cmds records) (cmd : AtlasCommand) :
    Ends (·.Summarizes cmds (records ++ [cmd])) (fields.readInner host cmd) := by
  have hlast : ∀ {type : UInt16}, cmd.type ≠ type →
      lastValue type (records ++ [cmd]) = lastValue type records := fun hne => by
    rw [lastValue_concat, if_neg hne]
  have hhas : ∀ {type : UInt16}, cmd.type ≠ type →
      (HasType type (records ++ [cmd]) ↔ HasType type records) := fun hne => by
    rw [hasType_concat, or_iff_left hne]
  have hthere : ∀ {type : UInt16}, cmd.type = type → HasType type (records ++ [cmd]) := fun heq =>
    hasType_concat.mpr (.inr heq)
  have hold : cmd.type ≠ CommandType.feedbackSensorType → TwoByteFields (records ++ [cmd]) →
      ∀ sensorType ∈ fields.sensorType, sensorType.toNat =
        fieldValue (lastValue CommandType.feedbackSensorType (records ++ [cmd])) := by
    intro hne htwo sensorType hsensorType
    rw [hlast hne]
    exact h.sensorType_eq (twoByteFields_left htwo) sensorType hsensorType
  rw [FeedbackFields.readInner]
  split_ifs with hidentity htype hsensor hresp
  · have h₁ : cmd.type ≠ CommandType.feedbackSensorType := by rw [hidentity]; decide
    have h₂ : cmd.type ≠ CommandType.feedbackSensor := by rw [hidentity]; decide
    have h₃ : cmd.type ≠ CommandType.feedbackResponseTime := by rw [hidentity]; decide
    exact ⟨h.identity, by rw [lastValue_concat, if_pos hidentity],
      h.sensorType.trans (hhas h₁).symm, h.sensorScore.trans (hhas h₂).symm,
      h.respTimeScore.trans (hhas h₃).symm, hold h₁⟩
  · have h₂ : cmd.type ≠ CommandType.feedbackSensor := by rw [htype]; decide
    have h₃ : cmd.type ≠ CommandType.feedbackResponseTime := by rw [htype]; decide
    refine (ends_copy host fields cmd.val).map fun tmp htmp => ?_
    refine ⟨h.identity, h.feedbackIdentity.trans (hlast hidentity).symm,
      iff_of_true rfl (hthere htype), h.sensorScore.trans (hhas h₂).symm,
      h.respTimeScore.trans (hhas h₃).symm, ?_⟩
    intro htwo sensorType hsensorType
    cases hsensorType
    rw [lastValue_concat, if_pos htype]
    exact htmp (htwo cmd (by simp) (by simp [htype]))
  · have h₃ : cmd.type ≠ CommandType.feedbackResponseTime := by rw [hsensor]; decide
    refine ends_map (fun tmp => ?_) _
    exact ⟨h.identity, h.feedbackIdentity.trans (hlast hidentity).symm,
      h.sensorType.trans (hhas htype).symm, iff_of_true rfl (hthere hsensor),
      h.respTimeScore.trans (hhas h₃).symm, hold htype⟩
  · refine ends_map (fun tmp => ?_) _
    exact ⟨h.identity, h.feedbackIdentity.trans (hlast hidentity).symm,
      h.sensorType.trans (hhas htype).symm, h.sensorScore.trans (hhas hsensor).symm,
      iff_of_true rfl (hthere hresp), hold htype⟩
  · exact ⟨h.identity, h.feedbackIdentity.trans (hlast hidentity).symm,
      h.sensorType.trans (hhas htype).symm, h.sensorScore.trans (hhas hsensor).symm,
      h.respTimeScore.trans (hhas hresp).symm, hold htype⟩

/-- One command of the request. -/
theorem Summarizes.read (h : fields.Summarizes cmds records) (pskIdentity : StdString)
    (cmd : AtlasCommand) :
    Ends (·.Summarizes (cmds ++ [cmd]) (records ++ feedbackRecords host [cmd]))
      (fields.read host pskIdentity cmd) := by
  by_cases hidentity : cmd.type = CommandType.identity
  · have hrecords : feedbackRecords host [cmd] = [] := by
      simp [feedbackRecords, hidentity, CommandType.identity, CommandType.feedback]
    rw [FeedbackFields.read, if_pos hidentity, hrecords, List.append_nil]
    split_ifs
    · trivial
    · trivial
    · exact { h with identity := by rw [lastValue_concat, if_pos hidentity] }
  · -- the other commands leave the identity as it is
    have hsame : fields.Summarizes (cmds ++ [cmd]) records :=
      { h with identity := by rw [lastValue_concat, if_neg hidentity, h.identity] }
    rw [FeedbackFields.read, if_neg hidentity]
    split_ifs with hfeedback
    · trivial
    · have hrecords :
          feedbackRecords host [cmd] = AtlasCommandBatch.parsedCommands host cmd.val := by
        simp [feedbackRecords, hfeedback]
      rw [hrecords]
      refine Outcome.foldlM
        (I := fun done (now : FeedbackFields) => now.Summarizes (cmds ++ [cmd]) (records ++ done)) _
        (by rwa [List.append_nil]) fun done record _ now _ hnow => ?_
      rw [← List.append_assoc]
      exact hnow.readInner record
    · have hrecords : feedbackRecords host [cmd] = [] := by simp [feedbackRecords, hfeedback]
      rw [hrecords, List.append_nil]
      exact hsame

/-- The whole request. -/
theorem summarizes_foldlM_read (host : ByteOrder) (tmp : UInt16) (pskIdentity : StdString)
    (cmds : List AtlasCommand) :
    Ends (·.Summarizes cmds (feedbackRecords host cmds))
      (cmds.foldlM (read host pskIdentity) { tmp := tmp }) := by
  have hnone : ∀ type, ¬ HasType type (feedbackRecords host []) := by
    simp [HasType, feedbackRecords]
  have hinit : ({ tmp := tmp } : FeedbackFields).Summarizes [] (feedbackRecords host []) :=
    ⟨rfl, rfl, iff_of_false Bool.false_ne_true (hnone _), iff_of_false Bool.false_ne_true (hnone _),
      iff_of_false Bool.false_ne_true (hnone _), fun _ _ h => absurd h (Option.not_mem_none _)⟩
  refine Outcome.foldlM
    (I := fun done (now : FeedbackFields) => now.Summarizes done (feedbackRecords host done)) _
    hinit fun done cmd _ now _ hnow => ?_
  rw [feedbackRecords_append]
  exact hnow.read pskIdentity cmd

/-- The checks accept a complete request. -/
theorem Summarizes.accept_of_complete (h : fields.Summarizes cmds records)
    (hcomplete : Complete cmds records) :
    ∃ sensorType ∈ fields.sensorType,
      fields.accept = .ok (fields.feedbackIdentity, sensorType, fields.feedbackMatrix) := by
  obtain ⟨hidentity, hfeedback, htype, hsensor, hresp⟩ := hcomplete
  rw [← h.identity] at hidentity
  rw [← h.feedbackIdentity] at hfeedback
  obtain ⟨sensorType, hsensorType⟩ := Option.isSome_iff_exists.mp (h.sensorType.mpr htype)
  refine ⟨sensorType, hsensorType, ?_⟩
  rw [accept, if_neg hidentity, if_neg hfeedback, hsensorType]
  simp [h.sensorScore.mpr hsensor, h.respTimeScore.mpr hresp]

/-- They refuse any other one. -/
theorem Summarizes.accept_of_not_complete (h : fields.Summarizes cmds records)
    (hcomplete : ¬ Complete cmds records) : fields.accept = .error .refused := by
  rw [accept]
  cases hsensorType : fields.sensorType with
  | none => split_ifs <;> rfl
  | some sensorType =>
    dsimp only
    split_ifs with hidentity hfeedback hsensor hresp
    · rfl
    · rfl
    · rfl
    · rfl
    · refine absurd ⟨?_, ?_, ?_, ?_, ?_⟩ hcomplete
      · rwa [← h.identity]
      · rwa [← h.feedbackIdentity]
      · exact h.sensorType.mp (by simp [hsensorType])
      · exact h.sensorScore.mp (by simpa using hsensor)
      · exact h.respTimeScore.mp (by simpa using hresp)

end FeedbackFields

/-! ## Requests -/

section readFeedback

variable {host} (tmp : UInt16) {pskIdentity : StdString} {reqPayload : List UInt8}

/-- A field that is too long, in front of all commands that are refused. -/
theorem readFeedback_overflow
    (h : ¬ FieldsFit (feedbackRecords host
      (examined pskIdentity (AtlasCommandBatch.parsedCommands host reqPayload)))) :
    readFeedback host tmp pskIdentity reqPayload = .error .overflow := by
  have hne : AtlasCommandBatch.parsedCommands host reqPayload ≠ [] := by
    intro hnil
    rw [hnil] at h
    exact h (List.forall_mem_nil _)
  have hreason := FeedbackFields.reason_foldlM_read host pskIdentity { tmp := tmp }
    (AtlasCommandBatch.parsedCommands host reqPayload)
  rw [findSome?_outerStop, if_neg h, Except.reason_eq_some_iff] at hreason
  rw [readFeedback, if_neg hne, hreason]
  rfl

/-- No field that is too long and no command that is refused: the checks decide. -/
theorem readFeedback_eq_accept
    (hfit : FieldsFit (feedbackRecords host
      (examined pskIdentity (AtlasCommandBatch.parsedCommands host reqPayload))))
    (h : ¬ ∃ cmd ∈ AtlasCommandBatch.parsedCommands host reqPayload, Refuses pskIdentity cmd)
    (hne : AtlasCommandBatch.parsedCommands host reqPayload ≠ []) :
    ∃ fields : FeedbackFields,
      fields.Summarizes (AtlasCommandBatch.parsedCommands host reqPayload)
        (requestRecords host reqPayload) ∧
      readFeedback host tmp pskIdentity reqPayload = fields.accept := by
  have hreason := FeedbackFields.reason_foldlM_read host pskIdentity { tmp := tmp }
    (AtlasCommandBatch.parsedCommands host reqPayload)
  rw [findSome?_outerStop, if_pos hfit, if_neg h, Except.reason_eq_none_iff] at hreason
  obtain ⟨fields, hfields⟩ := hreason
  have hsummary := FeedbackFields.summarizes_foldlM_read host tmp pskIdentity
    (AtlasCommandBatch.parsedCommands host reqPayload)
  rw [hfields] at hsummary
  refine ⟨fields, hsummary, ?_⟩
  rw [readFeedback, if_neg hne, hfields]
  rfl

/-- A command that is refused, or something that is missing. -/
theorem readFeedback_refused
    (hfit : FieldsFit (feedbackRecords host
      (examined pskIdentity (AtlasCommandBatch.parsedCommands host reqPayload))))
    (h : (∃ cmd ∈ AtlasCommandBatch.parsedCommands host reqPayload, Refuses pskIdentity cmd) ∨
      ¬ Complete (AtlasCommandBatch.parsedCommands host reqPayload)
        (requestRecords host reqPayload)) :
    readFeedback host tmp pskIdentity reqPayload = .error .refused := by
  by_cases hne : AtlasCommandBatch.parsedCommands host reqPayload = []
  · rw [readFeedback, if_pos hne]
  by_cases hrefused : ∃ cmd ∈ AtlasCommandBatch.parsedCommands host reqPayload,
    Refuses pskIdentity cmd
  · have hreason := FeedbackFields.reason_foldlM_read host pskIdentity { tmp := tmp }
      (AtlasCommandBatch.parsedCommands host reqPayload)
    rw [findSome?_outerStop, if_pos hfit, if_pos hrefused, Except.reason_eq_some_iff] at hreason
    rw [readFeedback, if_neg hne, hreason]
    rfl
  · obtain ⟨fields, hsummary, hread⟩ := readFeedback_eq_accept tmp hfit hrefused hne
    rw [hread, hsummary.accept_of_not_complete (h.resolve_left hrefused)]

/-- A request that is accepted. Fields of two bytes decide what is read. -/
theorem readFeedback_ok
    (hfit : FieldsFit (feedbackRecords host
      (examined pskIdentity (AtlasCommandBatch.parsedCommands host reqPayload))))
    (hrefused : ¬ ∃ cmd ∈ AtlasCommandBatch.parsedCommands host reqPayload, Refuses pskIdentity cmd)
    (hcomplete : Complete (AtlasCommandBatch.parsedCommands host reqPayload)
      (requestRecords host reqPayload)) :
    ∃ sensorType feedbackMatrix,
      readFeedback host tmp pskIdentity reqPayload =
        .ok (lastValue CommandType.feedbackIdentity (requestRecords host reqPayload), sensorType,
          feedbackMatrix) ∧
      (TwoByteFields (requestRecords host reqPayload) →
        sensorType.toNat =
            fieldValue (lastValue CommandType.feedbackSensorType (requestRecords host reqPayload)) ∧
          feedbackMatrix = (requestRecords host reqPayload).filterMap scoreEntry) := by
  have hne : AtlasCommandBatch.parsedCommands host reqPayload ≠ [] := by
    intro hnil
    rw [hnil] at hcomplete
    exact hcomplete.1 rfl
  obtain ⟨fields, hsummary, hread⟩ := readFeedback_eq_accept tmp hfit hrefused hne
  obtain ⟨sensorType, hsensorType, haccept⟩ := hsummary.accept_of_complete hcomplete
  refine ⟨sensorType, fields.feedbackMatrix, ?_, fun htwo => ⟨?_, ?_⟩⟩
  · rw [hread, haccept, hsummary.feedbackIdentity]
  · exact hsummary.sensorType_eq htwo sensorType hsensorType
  · have hmatrix := settles_readFeedback host tmp pskIdentity htwo
    rw [hread, haccept] at hmatrix
    exact hmatrix

/-- Fields of two bytes fit. -/
theorem fieldsFit_examined_of_twoByteFields (h : TwoByteFields (requestRecords host reqPayload)) :
    FieldsFit (feedbackRecords host
      (examined pskIdentity (AtlasCommandBatch.parsedCommands host reqPayload))) := by
  intro cmd hcmd hfield
  refine (h cmd ?_ hfield).le
  rw [requestRecords, ← List.takeWhile_append_dropWhile (p := fun cmd => ¬ Refuses pskIdentity cmd)
    (l := AtlasCommandBatch.parsedCommands host reqPayload), feedbackRecords_append]
  exact List.mem_append_left _ hcmd

end readFeedback

/-- A sender that is not registered is refused, whatever it sends. -/
theorem feedbackReputationCallback_of_not_registered (env : Env) (tmp : UInt16) {devices : Devices}
    {pskIdentity : StdString} (h : ∀ device ∈ devices pskIdentity, device.registered = false)
    (reqPayload : List UInt8) :
    feedbackReputationCallback host env tmp devices pskIdentity reqPayload =
      some ((devices.getDevice env pskIdentity).1, .notAcceptable) := by
  have hfound : ∀ device ∈ (devices.getDevice env pskIdentity).2, device.registered = false := by
    intro device hdevice
    rw [Devices.getDevice] at hdevice
    split at hdevice
    case h_1 device' hdevice' =>
      cases hdevice
      exact h device hdevice'
    case h_2 =>
      split at hdevice
      · cases hdevice
      · cases hdevice
        rfl
  rw [feedbackReputationCallback, Calls.feedbackReputationCallback]
  simp only [Devices.calls]
  split
  case h_1 heq => rw [heq]
  case h_2 devices' device heq =>
    rw [heq] at hfound ⊢
    simp [hfound device rfl]

/-- The request of a registered sender is read. -/
theorem feedbackReputationCallback_of_registered (env : Env) (tmp : UInt16) {devices : Devices}
    {pskIdentity : StdString} {device : AtlasDevice} (hdevice : devices pskIdentity = some device)
    (hregistered : device.registered = true) (reqPayload : List UInt8) :
    feedbackReputationCallback host env tmp devices pskIdentity reqPayload =
      match readFeedback host tmp pskIdentity reqPayload with
      | .error .refused => some (devices, .notAcceptable)
      | .error .overflow => none
      | .ok (feedbackIdentity, sensorType, feedbackMatrix) =>
        some (devices.updateDataReputation feedbackIdentity sensorType.toNat feedbackMatrix,
          .ok) := by
  have hget : devices.getDevice env pskIdentity = (devices, some device) := by
    rw [Devices.getDevice, hdevice]
  have hnot : ¬ (!device.registered) = true := by
    rw [hregistered]
    decide
  rw [feedbackReputationCallback, Calls.feedbackReputationCallback]
  simp only [Devices.calls, hget]
  exact if_neg hnot

/-- No copy leaves its destination. The answer is OK only for fields of two bytes, which then decide
the network and the scores of the update, and otherwise NOT_ACCEPTABLE, without any update. -/
def ChecksFields (env : Env) (tmp : UInt16) (devices : Devices) (pskIdentity : StdString)
    (reqPayload : List UInt8) : Prop :=
  match feedbackReputationCallback host env tmp devices pskIdentity reqPayload with
  | none => False
  | some (devices', response) =>
    (response = .ok ∧ TwoByteFields (requestRecords host reqPayload) ∧
      devices' = (devices.getDevice env pskIdentity).1.updateDataReputation
        (lastValue CommandType.feedbackIdentity (requestRecords host reqPayload))
        (fieldValue (lastValue CommandType.feedbackSensorType (requestRecords host reqPayload)))
        ((requestRecords host reqPayload).filterMap scoreEntry)) ∨
    (response = .notAcceptable ∧ devices' = (devices.getDevice env pskIdentity).1)

/-- The lengths of the fields are respected exactly if the sender is not registered, or all fields
are two bytes long, or no field in front of a command that is refused is longer and the request is
refused for such a command or for something that is missing. -/
theorem checksFields_iff (host : ByteOrder) (env : Env) (tmp : UInt16) (devices : Devices)
    (pskIdentity : StdString) (reqPayload : List UInt8) :
    ChecksFields host env tmp devices pskIdentity reqPayload ↔
      (∀ device ∈ devices pskIdentity, device.registered = false) ∨
      TwoByteFields (requestRecords host reqPayload) ∨
      FieldsFit (feedbackRecords host
          (examined pskIdentity (AtlasCommandBatch.parsedCommands host reqPayload))) ∧
        ((∃ cmd ∈ AtlasCommandBatch.parsedCommands host reqPayload, Refuses pskIdentity cmd) ∨
          ¬ Complete (AtlasCommandBatch.parsedCommands host reqPayload)
            (requestRecords host reqPayload)) := by
  by_cases hregistered : ∀ device ∈ devices pskIdentity, device.registered = false
  · refine iff_of_true ?_ (.inl hregistered)
    rw [ChecksFields, feedbackReputationCallback_of_not_registered host env tmp hregistered]
    exact .inr ⟨rfl, rfl⟩
  rw [or_iff_right hregistered]
  obtain ⟨device, hdevice, htrue⟩ : ∃ device, devices pskIdentity = some device ∧
      device.registered = true := by simpa using hregistered
  have hget : (devices.getDevice env pskIdentity).1 = devices := by rw [Devices.getDevice, hdevice]
  rw [ChecksFields, feedbackReputationCallback_of_registered host env tmp hdevice htrue, hget]
  by_cases hfit : FieldsFit (feedbackRecords host
      (examined pskIdentity (AtlasCommandBatch.parsedCommands host reqPayload)))
  · rw [and_iff_right hfit]
    by_cases hrefused : (∃ cmd ∈ AtlasCommandBatch.parsedCommands host reqPayload,
        Refuses pskIdentity cmd) ∨ ¬ Complete (AtlasCommandBatch.parsedCommands host reqPayload)
          (requestRecords host reqPayload)
    · rw [readFeedback_refused tmp hfit hrefused]
      exact iff_of_true (.inr ⟨rfl, rfl⟩) (.inr hrefused)
    · -- the request is accepted, and nothing but its fields is left to ask for
      rw [or_iff_left hrefused]
      rw [not_or, not_not] at hrefused
      obtain ⟨sensorType, feedbackMatrix, hread, hdecoded⟩ :=
        readFeedback_ok tmp hfit hrefused.1 hrefused.2
      rw [hread]
      constructor
      · rintro (⟨-, htwo, -⟩ | ⟨hresponse, -⟩)
        · exact htwo
        · cases hresponse
      · intro htwo
        obtain ⟨htype, hmatrix⟩ := hdecoded htwo
        exact .inl ⟨rfl, htwo, by rw [htype, hmatrix]⟩
  · rw [readFeedback_overflow tmp hfit]
    refine iff_of_false id ?_
    rintro (htwo | hother)
    · exact hfit (fieldsFit_examined_of_twoByteFields htwo)
    · exact hfit hother.1

/-- Devices 65 and 66 are in memory, and 65 is registered. -/
def twoDevices : Devices :=
  EventMachine.run (step .little) (fun _ => none) [.register freshEnv [65],
    .getDevice freshEnv [66]]

/-- A sensor score of three bytes is copied over the end of a variable of two. A score of one byte
is accepted, together with a byte that is left from the sensor type. -/
theorem not_checksFields_three_and_one :
    (feedbackReputationCallback .little freshEnv 0 twoDevices [65]
        (feedbackPayload [5, 224, 0, 3, 0, 100, 0, 5, 225, 0, 2, 0, 80]) = none ∧
      ¬ ChecksFields .little freshEnv 0 twoDevices [65]
        (feedbackPayload [5, 224, 0, 3, 0, 100, 0, 5, 225, 0, 2, 0, 80])) ∧
    ((feedbackReputationCallback .little freshEnv 0 twoDevices [65]
        (feedbackPayload [5, 224, 0, 1, 100, 5, 225, 0, 2, 0, 80])).map Prod.snd = some .ok ∧
      ¬ ChecksFields .little freshEnv 0 twoDevices [65]
        (feedbackPayload [5, 224, 0, 1, 100, 5, 225, 0, 2, 0, 80])) := by
  constructor
  · have hnone : feedbackReputationCallback .little freshEnv 0 twoDevices [65]
        (feedbackPayload [5, 224, 0, 3, 0, 100, 0, 5, 225, 0, 2, 0, 80]) = none :=
      Option.isNone_iff_eq_none.mp (by decide +kernel)
    refine ⟨hnone, ?_⟩
    rw [ChecksFields, hnone]
    exact id
  · have hok : (feedbackReputationCallback .little freshEnv 0 twoDevices [65]
        (feedbackPayload [5, 224, 0, 1, 100, 5, 225, 0, 2, 0, 80])).map Prod.snd = some .ok := by
      decide +kernel
    refine ⟨hok, ?_⟩
    obtain ⟨⟨devices', response⟩, hcallback, hresponse⟩ := Option.map_eq_some_iff.mp hok
    rw [ChecksFields, hcallback]
    rintro (⟨-, htwo, -⟩ | ⟨hrefused, -⟩)
    · exact absurd htwo (by decide +kernel)
    · cases hrefused.symm.trans hresponse

end Atlas.Reputation
