import Atlas.Client.DataPlaneConnector
import Atlas.Lib.CString

/-! # Feedback on the reputation of devices

`atlas_reputation_feedback` takes an array of scores. One loop checks an element and sends it,
before it looks at the next one, and the result of sending is dropped. So a refused array may have
been sent in part, and an accepted one may not have been sent. What is written are the elements in
front of the first one that is refused, those whose write succeeds (`feedbackLoop_eq`).

Reference: `data_plane/atlas_client.c`, `data_plane/atlas_client.h`.
-/

namespace Atlas.Client

open ByteOrder Gateway CString

namespace CommandType

/-- `ATLAS_CMD_DATA_PLANE_FEEDBACK_IDENTITY`. -/
def dataPlaneFeedbackIdentity : UInt16 := 1502

/-- `ATLAS_CMD_DATA_PLANE_FEEDBACK_SENSOR_TYPE`. -/
def dataPlaneFeedbackSensorType : UInt16 := 1503

/-- `ATLAS_CMD_DATA_PLANE_FEEDBACK_SENSOR`. -/
def dataPlaneFeedbackSensor : UInt16 := 1504

/-- `ATLAS_CMD_DATA_PLANE_FEEDBACK_RESPONSE_TIME`. -/
def dataPlaneFeedbackResponseTime : UInt16 := 1505

end CommandType

/-- `atlas_feedback_t`. -/
structure Feedback where
  identity : List UInt8
  sensorType : UInt32
  sensorScore : UInt16
  timeScore : UInt16
  length_identity : identity.length = 64
deriving DecidableEq

/-- `atlas_status_t`, the values the feedback functions return. -/
inductive FeedbackStatus where
  | ok
  | invalidInput
  | generalErr
deriving DecidableEq

namespace Feedback

/-- The identity as a string; `none` is one that goes on behind its array. -/
def identityText (feedback : Feedback) : Option (List UInt8) :=
  if 0 ∈ feedback.identity then some (text feedback.identity) else none

variable (host : ByteOrder)

/-- The message of `send_feedback_command`. -/
def message (feedback : Feedback) : Option (List UInt8) :=
  feedback.identityText.bind fun identity =>
  (atlasCmdBatchAddAll host atlasCmdBatchNew
    [⟨CommandType.dataPlaneFeedbackIdentity, UInt16.ofNat identity.length, identity⟩,
      ⟨CommandType.dataPlaneFeedbackSensorType, 2,
        store16 host (htons host feedback.sensorType.toUInt16)⟩,
      ⟨CommandType.dataPlaneFeedbackSensor, 2, store16 host (htons host feedback.sensorScore)⟩,
      ⟨CommandType.dataPlaneFeedbackResponseTime, 2,
        store16 host (htons host feedback.timeScore)⟩]).bind fun cmdBatchInner =>
  (atlasCmdBatchGetBuf cmdBatchInner).bind fun cmdBufInner =>
  (atlasCmdBatchAddAll host atlasCmdBatchNew
    [⟨CommandType.dataPlaneFeedback, cmdBatchInner.length, cmdBufInner⟩]).bind atlasCmdBatchGetBuf

/-- `send_feedback_command`: its status and what it wrote, given whether `write` succeeds. -/
def sendFeedbackCommand (written : Bool) (feedback : Feedback) :
    Option (FeedbackStatus × List (List UInt8)) :=
  (feedback.message host).map fun cmdBuf =>
    if written then (.ok, [cmdBuf]) else (.generalErr, [])

/-- `ATLAS_CLIENT_DATA_PLANE_FEEDBACKS_SCORE_MAX`. -/
def scoreMax : UInt16 := 100

/-- The loop of `atlas_reputation_feedback`, with the results of `write` from element `i` on. An
array has no null pointer, so the third test of an element never fails. -/
def feedbackLoop (write : ℕ → Bool) : ℕ → List Feedback →
    Option (FeedbackStatus × List (List UInt8))
  | _, [] => some (.ok, [])
  | i, feedback :: rest =>
    if feedback.sensorScore > scoreMax then some (.invalidInput, [])
    else if feedback.timeScore > scoreMax then some (.invalidInput, [])
    else
      (sendFeedbackCommand host (write i) feedback).bind fun (_, sent) =>
      (feedbackLoop write (i + 1) rest).map fun (status, sent') => (status, sent ++ sent')

/-- `atlas_reputation_feedback`. -/
def atlasReputationFeedback (write : ℕ → Bool) :
    Option (List Feedback) → Option (FeedbackStatus × List (List UInt8))
  | none => some (.invalidInput, [])
  | some feedback =>
    if feedback = [] then some (.invalidInput, []) else feedbackLoop host write 0 feedback

/-! ## Messages -/

theorem length_text_identity_le (feedback : Feedback) : (text feedback.identity).length ≤ 64 :=
  Nat.le_trans (length_text_le _) (Nat.le_of_eq feedback.length_identity)

/-- The records inside a message. -/
def records (feedback : Feedback) : List Tlv.Record :=
  [⟨CommandType.dataPlaneFeedbackIdentity, text feedback.identity,
      Nat.lt_of_le_of_lt feedback.length_text_identity_le (by decide)⟩,
    hostNumber host CommandType.dataPlaneFeedbackSensorType
      (htons host feedback.sensorType.toUInt16),
    hostNumber host CommandType.dataPlaneFeedbackSensor (htons host feedback.sensorScore),
    hostNumber host CommandType.dataPlaneFeedbackResponseTime (htons host feedback.timeScore)]

theorem length_records_le (feedback : Feedback) :
    (Tlv.encodeAll (feedback.records host)).length ≤ 86 := by
  have := feedback.length_text_identity_le
  simp only [records, hostNumber, Tlv.encodeAll_cons, Tlv.encodeAll_nil, List.length_append,
    Tlv.length_encode, length_store16, List.length_nil]
  omega

/-- The bytes of a message. -/
def bytes (feedback : Feedback) : List UInt8 :=
  Tlv.encodeAll [⟨CommandType.dataPlaneFeedback, Tlv.encodeAll (feedback.records host),
    Nat.lt_of_le_of_lt (feedback.length_records_le host) (by decide)⟩]

theorem message_eq (feedback : Feedback) :
    feedback.message host = if 0 ∈ feedback.identity then some (feedback.bytes host) else none := by
  have hlen := feedback.length_records_le host
  rw [message, identityText]
  split_ifs with hzero
  · obtain ⟨inner, hinner, hlength, hbuf⟩ := getBuf_addAll_ofRecord host
      (Nat.le_trans hlen (by decide))
    have houter := bind_getBuf_addAll host [⟨CommandType.dataPlaneFeedback,
      Tlv.encodeAll (feedback.records host), Nat.lt_of_le_of_lt hlen (by decide)⟩] (by
        simp only [Tlv.encodeAll_cons, Tlv.encodeAll_nil, List.length_append, Tlv.length_encode,
          List.length_nil]
        omega)
    have hcmds : (feedback.records host).map AtlasCommand.ofRecord =
        [⟨CommandType.dataPlaneFeedbackIdentity, UInt16.ofNat (text feedback.identity).length,
            text feedback.identity⟩,
          ⟨CommandType.dataPlaneFeedbackSensorType, 2,
            store16 host (htons host feedback.sensorType.toUInt16)⟩,
          ⟨CommandType.dataPlaneFeedbackSensor, 2, store16 host (htons host feedback.sensorScore)⟩,
          ⟨CommandType.dataPlaneFeedbackResponseTime, 2,
            store16 host (htons host feedback.timeScore)⟩] := by
      simp [records, hostNumber, AtlasCommand.ofRecord, Tlv.Record.len]
    rw [hcmds] at hinner
    rw [Option.bind_some, hinner, Option.bind_some, hbuf, Option.bind_some, hlength]
    exact houter
  · rfl

/-! ## The loop -/

/-- The elements whose write succeeds, the first of them with the result `write i`. -/
def written {α : Type} (write : ℕ → Bool) : ℕ → List α → List α
  | _, [] => []
  | i, a :: l => if write i then a :: written write (i + 1) l else written write (i + 1) l

section

variable {α : Type} (write : ℕ → Bool)

theorem written_sublist (i : ℕ) (l : List α) : (written write i l).Sublist l := by
  induction l generalizing i with
  | nil => exact List.Sublist.slnil
  | cons a l ih =>
    rw [written]
    split_ifs
    · exact (ih (i + 1)).cons_cons a
    · exact (ih (i + 1)).cons a

theorem forall_write_succ (b : Bool) (i n : ℕ) :
    (∀ k < n + 1, write (i + k) = b) ↔ write i = b ∧ ∀ k < n, write (i + 1 + k) = b := by
  simp only [Nat.forall_lt_succ_left, Nat.add_zero, Nat.add_assoc, Nat.add_comm 1]

theorem written_eq_nil_iff (i : ℕ) (l : List α) :
    written write i l = [] ↔ ∀ k < l.length, write (i + k) = false := by
  induction l generalizing i with
  | nil => simp [written]
  | cons a l ih =>
    rw [written, List.length_cons, forall_write_succ, ← ih]
    cases write i <;> simp

theorem written_eq_self_iff (i : ℕ) (l : List α) :
    written write i l = l ↔ ∀ k < l.length, write (i + k) = true := by
  induction l generalizing i with
  | nil => simp [written]
  | cons a l ih =>
    rw [written, List.length_cons, forall_write_succ, ← ih]
    cases write i with
    | false =>
      have hle := (written_sublist write (i + 1) l).length_le
      have hne : written write (i + 1) l ≠ a :: l := fun h => by
        rw [h, List.length_cons] at hle
        omega
      simpa using hne
    | true => simp

end

/-- Both scores are in range. -/
def Valid (feedback : Feedback) : Prop :=
  feedback.sensorScore ≤ scoreMax ∧ feedback.timeScore ≤ scoreMax

instance (feedback : Feedback) : Decidable feedback.Valid :=
  inferInstanceAs (Decidable (_ ∧ _))

/-- The elements in front of the first one that is refused. -/
def validPrefix (feedback : List Feedback) : List Feedback := feedback.takeWhile (·.Valid)

/-- One iteration. -/
theorem feedbackLoop_cons (write : ℕ → Bool) (i : ℕ) (f : Feedback) (feedback : List Feedback) :
    feedbackLoop host write i (f :: feedback) =
      if f.Valid then
        if 0 ∈ f.identity then
          (feedbackLoop host write (i + 1) feedback).map fun (status, sent) =>
            (status, (if write i then [f.bytes host] else []) ++ sent)
        else none
      else some (.invalidInput, []) := by
  rw [feedbackLoop]
  by_cases hsensor : f.sensorScore > scoreMax
  · have hvalid : ¬ f.Valid := fun h => absurd h.1 (UInt16.not_le.mpr hsensor)
    rw [if_pos hsensor, if_neg hvalid]
  by_cases htime : f.timeScore > scoreMax
  · have hvalid : ¬ f.Valid := fun h => absurd h.2 (UInt16.not_le.mpr htime)
    rw [if_neg hsensor, if_pos htime, if_neg hvalid]
  have hvalid : f.Valid := ⟨UInt16.not_lt.mp hsensor, UInt16.not_lt.mp htime⟩
  rw [if_neg hsensor, if_neg htime, if_pos hvalid, sendFeedbackCommand, message_eq]
  by_cases hzero : 0 ∈ f.identity
  · rw [if_pos hzero, if_pos hzero, Option.map_some, Option.bind_some]
    cases write i <;> rfl
  · rw [if_neg hzero, if_neg hzero]
    rfl

theorem feedbackLoop_eq (write : ℕ → Bool) (i : ℕ) (feedback : List Feedback) :
    feedbackLoop host write i feedback =
      if ∀ f ∈ validPrefix feedback, 0 ∈ f.identity then
        some (if ∀ f ∈ feedback, f.Valid then .ok else .invalidInput,
          (written write i (validPrefix feedback)).map (bytes host))
      else none := by
  induction feedback generalizing i with
  | nil => rfl
  | cons f feedback ih =>
    rw [feedbackLoop_cons, ih]
    by_cases hvalid : f.Valid
    · have hfront : validPrefix (f :: feedback) = f :: validPrefix feedback := by
        simp [validPrefix, hvalid]
      -- the element is written or lost, and the loop goes on in both cases
      have hsent : (if write i then [f.bytes host] else []) ++
          (written write (i + 1) (validPrefix feedback)).map (bytes host) =
            (written write i (f :: validPrefix feedback)).map (bytes host) := by
        cases hwrite : write i <;> simp [written, hwrite]
      simp only [hfront, hvalid, List.forall_mem_cons, if_true, true_and, ← hsent]
      by_cases hzero : 0 ∈ f.identity
      · by_cases hzeros : ∀ f ∈ validPrefix feedback, 0 ∈ f.identity
        · have hboth : 0 ∈ f.identity ∧ ∀ f ∈ validPrefix feedback, 0 ∈ f.identity :=
            ⟨hzero, hzeros⟩
          rw [if_pos hzero, if_pos hzeros, if_pos hboth, Option.map_some]
        · have hnot : ¬ (0 ∈ f.identity ∧ ∀ f ∈ validPrefix feedback, 0 ∈ f.identity) :=
            fun h => hzeros h.2
          rw [if_pos hzero, if_neg hzeros, if_neg hnot, Option.map_none]
      · have hnot : ¬ (0 ∈ f.identity ∧ ∀ f ∈ validPrefix feedback, 0 ∈ f.identity) :=
          fun h => hzero h.1
        rw [if_neg hzero, if_neg hnot]
    · -- the loop returns before it looks at the identity
      have hfront : validPrefix (f :: feedback) = [] := by simp [validPrefix, hvalid]
      simp [hfront, hvalid, written]

/-! ## All or nothing -/

/-- The call returns, what it refuses was not sent in part, and of what it accepts every element was
written once, in the order of the array. -/
def AllOrNothing (write : ℕ → Bool) (feedback : Option (List Feedback)) : Prop :=
  ∃ status sent, atlasReputationFeedback host write feedback = some (status, sent) ∧
    (status = .invalidInput → sent = []) ∧
    (status = .ok → ∃ elements, feedback = some elements ∧
      List.Forall₂ (fun f cmdBuf => message host f = some cmdBuf) elements sent)

theorem forall₂_message_iff {elements : List Feedback} (h : ∀ f ∈ elements, 0 ∈ f.identity)
    (sent : List (List UInt8)) :
    List.Forall₂ (fun f cmdBuf => message host f = some cmdBuf) elements sent ↔
      sent = elements.map (bytes host) := by
  induction elements generalizing sent with
  | nil => simp
  | cons f elements ih =>
    obtain ⟨hf, hrest⟩ := List.forall_mem_cons.mp h
    have hmessage : f.message host = some (f.bytes host) := by rw [message_eq, if_pos hf]
    simp only [List.forall₂_cons_left_iff, hmessage, Option.some_inj, ih hrest, List.map_cons]
    exact ⟨fun ⟨_, _, hcmd, hsent, heq⟩ => by rw [heq, hsent, hcmd],
      fun heq => ⟨_, _, rfl, rfl, heq⟩⟩

/-- All elements were written exactly when every write succeeded. -/
theorem map_written_eq_iff (write : ℕ → Bool) (elements : List Feedback) :
    (written write 0 elements).map (bytes host) = elements.map (bytes host) ↔
      ∀ k < elements.length, write k = true := by
  have hself := written_eq_self_iff write 0 elements
  simp only [Nat.zero_add] at hself
  rw [← hself]
  refine ⟨fun h => ?_, fun h => by rw [h]⟩
  have hlength := congrArg List.length h
  rw [List.length_map, List.length_map] at hlength
  exact (written_sublist write 0 elements).eq_of_length hlength

/-- The condition under which feedback is sent all or nothing: the identities that are reached end
in their arrays; when all scores are in range, all writes succeed; when not, no write in front of
the first element that is refused. -/
def SentOrRefused (write : ℕ → Bool) : Option (List Feedback) → Prop
  | none => True
  | some elements =>
    (∀ f ∈ validPrefix elements, 0 ∈ f.identity) ∧
      if ∀ f ∈ elements, f.Valid then ∀ k < elements.length, write k = true
      else ∀ k < (validPrefix elements).length, write k = false

/-- Feedback is sent all or nothing exactly under this condition. -/
theorem sentAllOrNothing_iff (write : ℕ → Bool) (feedback : Option (List Feedback)) :
    AllOrNothing host write feedback ↔ SentOrRefused write feedback := by
  cases feedback with
  | none => exact iff_of_true ⟨.invalidInput, [], rfl, fun _ => rfl, nofun⟩ trivial
  | some elements =>
    by_cases hnil : elements = []
    · subst hnil
      refine iff_of_true ⟨.invalidInput, [], rfl, fun _ => rfl, nofun⟩ ⟨nofun, ?_⟩
      rw [if_pos nofun]
      exact nofun
    rw [AllOrNothing, atlasReputationFeedback, if_neg hnil, feedbackLoop_eq, SentOrRefused]
    by_cases hzeros : ∀ f ∈ validPrefix elements, 0 ∈ f.identity
    · rw [if_pos hzeros]
      by_cases hvalid : ∀ f ∈ elements, f.Valid
      · have hfront : validPrefix elements = elements :=
          List.takeWhile_eq_self_iff.mpr fun f hf => decide_eq_true (hvalid f hf)
        rw [hfront] at hzeros ⊢
        have hsent := forall₂_message_iff host hzeros ((written write 0 elements).map (bytes host))
        rw [map_written_eq_iff] at hsent
        rw [if_pos hvalid, if_pos hvalid, and_iff_right hzeros, ← hsent]
        constructor
        · rintro ⟨status, sent, ⟨⟩, -, hok⟩
          obtain ⟨_, ⟨⟩, hall⟩ := hok rfl
          exact hall
        · exact fun hall => ⟨.ok, _, rfl, nofun, fun _ => ⟨elements, rfl, hall⟩⟩
      · have hsent := written_eq_nil_iff write 0 (validPrefix elements)
        simp only [Nat.zero_add] at hsent
        rw [if_neg hvalid, if_neg hvalid, and_iff_right hzeros, ← hsent]
        constructor
        · rintro ⟨status, sent, ⟨⟩, hrefused, -⟩
          exact List.map_eq_nil_iff.mp (hrefused rfl)
        · exact fun hnone => ⟨.invalidInput, _, rfl, fun _ => by rw [hnone]; rfl, nofun⟩
    · rw [if_neg hzeros]
      exact iff_of_false (fun ⟨_, _, h, _⟩ => nomatch h) fun h => hzeros h.1

/-- An array with a valid element and one of score 101 is refused after the first was sent, and a
valid one is accepted although nothing is written. -/
theorem refused_after_sending_and_ok_without :
    let valid : Feedback := ⟨97 :: List.replicate 63 0, 101, 50, 50, rfl⟩
    let invalid : Feedback := ⟨97 :: List.replicate 63 0, 101, 101, 50, rfl⟩
    (atlasReputationFeedback .little (fun _ => true) (some [valid, invalid]) =
        some (.invalidInput, [bytes .little valid]) ∧
      ¬ AllOrNothing .little (fun _ => true) (some [valid, invalid])) ∧
    (atlasReputationFeedback .little (fun _ => false) (some [valid]) = some (.ok, []) ∧
      ¬ AllOrNothing .little (fun _ => false) (some [valid])) := by
  intro valid invalid
  have hsent : atlasReputationFeedback .little (fun _ => true) (some [valid, invalid]) =
      some (.invalidInput, [bytes .little valid]) := by decide +kernel
  have hnone :
      atlasReputationFeedback .little (fun _ => false) (some [valid]) = some (.ok, []) := by
    decide +kernel
  refine ⟨⟨hsent, ?_⟩, hnone, ?_⟩
  · rintro ⟨status, sent, heq, hrefused, -⟩
    rw [hsent] at heq
    cases heq
    exact absurd (hrefused rfl) (List.cons_ne_nil _ _)
  · rintro ⟨status, sent, heq, -, hok⟩
    rw [hnone] at heq
    cases heq
    obtain ⟨elements, helements, hall⟩ := hok rfl
    cases helements
    cases hall

end Feedback

end Atlas.Client
