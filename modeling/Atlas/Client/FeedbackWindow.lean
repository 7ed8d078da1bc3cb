import Atlas.Client.SendFeedback
import Atlas.Lib.EventMachine
import Atlas.Lib.Lists
import Mathlib.Algebra.Order.Field.Rat
import Mathlib.Algebra.Order.Ring.Int

/-! # The feedback window

While a window is open, every data message `<client id>:<value>` leaves an entry with scores, the
first of each client. Three buffers of fixed size are involved. The payload is copied into 256 bytes
without a look at its length, the client id is copied from there into the 64 bytes of an entry, and
the test that the 256 entries are not exceeded lets one more pass. A message that leaves one of the
buffers makes the state undefined (`none`); the others keep the entries apart and inside
(`InBounds.handleData`).

Reference: `data_plane/atlas_data_plane.c`.
-/

namespace Atlas.Client

open EventMachine CString

/-- `struct timespec`. -/
structure Timespec where
  tvSec : ℤ
  tvNsec : ℤ
deriving DecidableEq

/-- `reputation_t`, without its locks and what the window does not use. -/
structure Reputation where
  targetValue : ℤ
  windowSize : ℤ
  feedbackActive : Bool
  sensorVal : Vector ℚ 256
  feedback : Vector Feedback 256
  feedbackLength : ℕ
  windowStart : Timespec

/-- `get_sensor_feedback`. -/
def getSensorFeedback (value : ℚ) : UInt16 :=
  if value < 1 / 5 then 98
  else if value < 3 / 5 then 95
  else if value < 4 / 5 then 90
  else if value < 1 then 85
  else if value < 13 / 10 then 80
  else if value < 3 / 2 then 50
  else if value < 2 then 35
  else if value < 5 / 2 then 20
  else if value < 3 then 10
  else 0

/-- `diff_in_ms`, truncated to a `long`. -/
def diffInMs (t₁ t₂ : Timespec) : ℤ :=
  ((t₂.tvSec - t₁.tvSec) * 1000000000 + (t₂.tvNsec - t₁.tvNsec)).tdiv 1000000

/-- A `double`, truncated to a `uint16_t`. -/
def truncate (x : ℚ) : UInt16 := UInt16.ofInt (x.num.tdiv x.den)

/-- `ATLAS_SENSOR_TEMPERATURE`. -/
def atlasSensorTemperature : UInt32 := 101

/-- `ATLAS_DATA_PLANE_BUFFER_LEN`. -/
def atlasDataPlaneBufferLen : ℕ := 256

/-- `ATLAS_DATA_PLANE_FEEDBACK_MAX`. -/
def atlasDataPlaneFeedbackMax : ℕ := 256

theorem length_copy (s : List UInt8) {old : List UInt8} (hold : old.length = 64)
    (h : s.length + 1 ≤ 64) : (s ++ 0 :: old.drop (s.length + 1)).length = 64 := by
  rw [List.length_append, List.length_cons, List.length_drop]
  omega

/-- `strcpy` into the identity of an entry; `none` is a string that does not fit. -/
def Feedback.setIdentity (feedback : Feedback) (s : List UInt8) : Option Feedback :=
  if h : s.length + 1 ≤ 64 then
    some { feedback with
      identity := s ++ 0 :: feedback.identity.drop (s.length + 1)
      length_identity := length_copy s feedback.length_identity h }
  else none

namespace Reputation

/-- The identities of the entries. -/
def identities (rep : Reputation) : List (List UInt8) :=
  (rep.feedback.toList.take rep.feedbackLength).map fun feedback => text feedback.identity

/-- The entry that is written for a message, in the place of a stale one. -/
def entry (rep : Reputation) (stale : Feedback) (value : ℚ) (ts : Timespec) : Feedback :=
  let respTime : ℚ := diffInMs rep.windowStart ts / (rep.windowSize * 1000)
  { stale with
    sensorType := atlasSensorTemperature
    sensorScore :=
      if rep.targetValue ≠ -1 then
        getSensorFeedback |value - rep.targetValue| else stale.sensorScore
    timeScore := truncate (100 - respTime * 100) }

/-- The end of `handle_data`: the entry behind the others is written. -/
def store (rep : Reputation) (clientid : List UInt8) (value : ℚ) (ts : Timespec) :
    Option Reputation :=
  if h : rep.feedbackLength < atlasDataPlaneFeedbackMax then
    (rep.feedback[rep.feedbackLength].setIdentity clientid).map fun stale =>
      { rep with
        sensorVal := rep.sensorVal.set rep.feedbackLength value h
        feedback := rep.feedback.set rep.feedbackLength (rep.entry stale value ts) h
        feedbackLength := rep.feedbackLength + 1 }
  else none

/-- `handle_data` under the lock. -/
def addFeedback (rep : Reputation) (clientid : List UInt8) (value : ℚ) (ts : Timespec) :
    Option Reputation :=
  if !rep.feedbackActive then some rep
  else if rep.feedbackLength > atlasDataPlaneFeedbackMax then some rep
  else if clientid ∈ rep.identities then some rep
  else rep.store clientid value ts

/-- The character `:`. -/
def colon : UInt8 := 58

/-- What the two calls of `strtok` find in a message: the client id and the text of the value, if
both are there; `none` is an access behind `msg` or `clientid`. -/
def parseMessage (payload : List UInt8) : Option (Option (List UInt8 × List UInt8)) :=
  if payload.length > atlasDataPlaneBufferLen then none
  else
    match strtok colon (payload ++ List.replicate (atlasDataPlaneBufferLen - payload.length) 0) with
    | .outside => none
    | .null => some none
    | .token clientid rest =>
      if clientid.length + 1 > atlasDataPlaneBufferLen then none
      else
        match strtok colon rest with
        | .outside => none
        | .null => some none
        | .token value _ => some (some (clientid, value))

/-- `handle_data`, for the C library's `atof` and the time of the clock. -/
def handleData (atof : List UInt8 → ℚ) (rep : Reputation) (payload : List UInt8) (ts : Timespec) :
    Option Reputation :=
  if payload = [] then some rep
  else
    (parseMessage payload).bind fun
      | none => some rep
      | some (clientid, value) => rep.addFeedback clientid (atof value) ts

/-- A data message, and what `reputation_query_task` does to the window. -/
inductive WindowEvent where
  | data (payload : List UInt8) (ts : Timespec)
  | activate
  | start (ts : Timespec)
  | deactivate
  | clear
deriving DecidableEq

/-- One event. -/
def handle (atof : List UInt8 → ℚ) (rep : Reputation) : WindowEvent → Option Reputation
  | .data payload ts => rep.handleData atof payload ts
  | .activate => some { rep with feedbackActive := true }
  | .start ts => some { rep with feedbackLength := 0, windowStart := ts }
  | .deactivate => some { rep with feedbackActive := false }
  | .clear => some { rep with feedbackLength := 0 }

/-- One event, on a state that may be undefined already. -/
def step (atof : List UInt8 → ℚ) (state : Option Reputation) (e : WindowEvent) :
    Option Reputation × List Empty :=
  (state.bind fun rep => rep.handle atof e, [])

/-! ## Messages -/

/-- The client id at the start of a message. -/
def clientId (payload : List UInt8) : List UInt8 :=
  (payload.dropWhile (· = colon)).takeWhile (inToken colon)

section

variable {payload : List UInt8}

/-- A message of at most 255 bytes is terminated in its buffer, and so are its tokens. -/
theorem parseMessage_of_length_le (h : payload.length ≤ 255) :
    ∃ message, parseMessage payload = some message ∧
      ∀ clientid value, message = some (clientid, value) → clientid = clientId payload ∧
        0 ∉ clientid := by
  have hzero : 0 ∈ payload ++ List.replicate (atlasDataPlaneBufferLen - payload.length) 0 :=
    List.mem_append_right _ (List.mem_replicate.mpr ⟨by rw [atlasDataPlaneBufferLen]; omega, rfl⟩)
  have hlength : (payload ++ List.replicate (atlasDataPlaneBufferLen - payload.length) 0).length =
      atlasDataPlaneBufferLen := by
    rw [List.length_append, List.length_replicate, atlasDataPlaneBufferLen]
    omega
  obtain ⟨hinside, hrest⟩ := strtok_of_zero_mem (by decide : colon ≠ 0) hzero
  rw [parseMessage, if_neg (by rw [atlasDataPlaneBufferLen]; omega)]
  cases hfirst : strtok colon
      (payload ++ List.replicate (atlasDataPlaneBufferLen - payload.length) 0) with
  | outside => exact absurd hfirst hinside
  | null => exact ⟨none, rfl, nofun⟩
  | token clientid rest =>
    obtain ⟨hclient, hzeros, hshort⟩ := of_strtok_eq_token hfirst
    have hcopy : ¬ clientid.length + 1 > atlasDataPlaneBufferLen := by omega
    rw [firstToken_append_zeros (by decide)] at hclient
    have hsecond := strtok_of_zero_mem (by decide : colon ≠ 0) (hrest clientid rest hfirst)
    simp only [if_neg hcopy]
    cases hvalue : strtok colon rest with
    | outside => exact absurd hvalue hsecond.1
    | null => exact ⟨none, rfl, nofun⟩
    | token value rest' =>
      refine ⟨some (clientid, value), rfl, ?_⟩
      rintro _ _ ⟨⟩
      exact ⟨hclient, hzeros⟩

/-- A message of more than 256 bytes is copied over the end of its buffer. -/
theorem parseMessage_of_length_gt (h : 256 < payload.length) : parseMessage payload = none :=
  if_pos h

/-- A message of the form `<client id>:<value>`. -/
theorem parseMessage_append {clientid value : List UInt8} (hid : clientid ≠ []) (hval : value ≠ [])
    (hchars : ∀ b ∈ clientid ++ value, b ≠ colon ∧ b ≠ 0)
    (hlength : clientid.length + value.length ≤ 254) :
    parseMessage (clientid ++ colon :: value) = some (some (clientid, value)) := by
  rw [List.forall_mem_append] at hchars
  obtain ⟨n, hn⟩ : ∃ n, atlasDataPlaneBufferLen - (clientid ++ colon :: value).length = n + 1 := by
    refine ⟨atlasDataPlaneBufferLen - (clientid ++ colon :: value).length - 1, ?_⟩
    rw [List.length_append, List.length_cons, atlasDataPlaneBufferLen]
    omega
  have hfirst : strtok colon (clientid ++ colon :: value ++ List.replicate (n + 1) 0) =
      .token clientid (value ++ List.replicate (n + 1) 0) := by
    rw [List.append_assoc, List.cons_append, strtok_append_cons hid hchars.1 (.inl rfl)]
    rfl
  have hsecond : strtok colon (value ++ List.replicate (n + 1) 0) =
      .token value (List.replicate (n + 1) 0) := by
    rw [List.replicate_succ, strtok_append_cons hval hchars.2 (.inr rfl), if_pos rfl]
  have hfits : ¬ (clientid ++ colon :: value).length > atlasDataPlaneBufferLen := by
    rw [List.length_append, List.length_cons, atlasDataPlaneBufferLen]
    omega
  have hcopy : ¬ clientid.length + 1 > atlasDataPlaneBufferLen := by
    rw [atlasDataPlaneBufferLen]
    omega
  rw [parseMessage, if_neg hfits, hn, hfirst]
  simp only [if_neg hcopy, hsecond]

end

/-! ## Entries -/

/-- At most 256 entries, of pairwise different clients, each with an identity that ends in its
field. -/
structure InBounds (rep : Reputation) : Prop where
  length_le : rep.feedbackLength ≤ 256
  nodup : rep.identities.Nodup
  terminated : ∀ feedback ∈ rep.feedback.toList.take rep.feedbackLength, 0 ∈ feedback.identity

/-- A data message has at most 255 bytes, and one of a new client at an open window has a client id
of at most 63 bytes and finds less than 256 entries. -/
def Fits (rep : Reputation) : WindowEvent → Prop
  | .data payload _ =>
    payload.length ≤ 255 ∧
    (rep.feedbackActive = true → clientId payload ∉ rep.identities →
      (clientId payload).length ≤ 63 ∧ rep.feedbackLength < 256)
  | _ => True

section

variable {rep : Reputation} {clientid : List UInt8} {value : ℚ} {ts : Timespec}

theorem setIdentity_of_length_le (feedback : Feedback) (h : clientid.length ≤ 63) :
    ∃ stale, feedback.setIdentity clientid = some stale ∧
      ∃ rest, stale.identity = clientid ++ 0 :: rest :=
  ⟨_, dif_pos (by omega), _, rfl⟩

theorem setIdentity_of_length_ge (feedback : Feedback) (h : 64 ≤ clientid.length) :
    feedback.setIdentity clientid = none :=
  dif_neg (by omega)

/-- A new entry with an identity that fits goes behind the others. -/
theorem store_of_fits (rep : Reputation) (value : ℚ) (ts : Timespec)
    (hlength : rep.feedbackLength < 256) (hid : clientid.length ≤ 63) (hzero : 0 ∉ clientid) :
    ∃ after, rep.store clientid value ts = some after ∧
      after.feedbackActive = rep.feedbackActive ∧
      after.feedbackLength = rep.feedbackLength + 1 ∧
      after.identities = rep.identities ++ [clientid] ∧
      ((∀ feedback ∈ rep.feedback.toList.take rep.feedbackLength, 0 ∈ feedback.identity) →
        ∀ feedback ∈ after.feedback.toList.take after.feedbackLength, 0 ∈ feedback.identity) := by
  obtain ⟨stale, hset, rest, hidentity⟩ :=
    setIdentity_of_length_le rep.feedback[rep.feedbackLength] hid
  have hentries :
      (rep.feedback.set rep.feedbackLength (rep.entry stale value ts) hlength).toList.take
      (rep.feedbackLength + 1) =
        rep.feedback.toList.take rep.feedbackLength ++ [rep.entry stale value ts] := by
    rw [Vector.toList_set]
    exact List.take_set_self (by rw [Vector.length_toList]; exact hlength) _
  have hentry : (rep.entry stale value ts).identity = clientid ++ 0 :: rest := hidentity
  refine ⟨_, (dif_pos hlength).trans (congrArg (Option.map _) hset), rfl, rfl, ?_, fun hold => ?_⟩
  · rw [identities]
    dsimp only
    rw [hentries, List.map_append, List.map_singleton, hentry, text_append_zero_cons hzero]
    rfl
  · dsimp only
    rw [hentries, List.forall_mem_append, List.forall_mem_singleton, hentry]
    exact ⟨hold, List.mem_append_right _ List.mem_cons_self⟩

theorem addFeedback_of_new (hactive : rep.feedbackActive = true)
    (hlength : rep.feedbackLength ≤ 256) (hnew : clientid ∉ rep.identities) :
    rep.addFeedback clientid value ts = rep.store clientid value ts := by
  rw [addFeedback, hactive, if_neg (by decide), if_neg (by rw [atlasDataPlaneFeedbackMax]; omega),
    if_neg hnew]

/-- A 257th entry is written behind the array. -/
theorem addFeedback_of_full (hactive : rep.feedbackActive = true)
    (hlength : rep.feedbackLength = 256)
    (hnew : clientid ∉ rep.identities) : rep.addFeedback clientid value ts = none := by
  rw [addFeedback_of_new hactive (Nat.le_of_eq hlength) hnew]
  exact dif_neg (by rw [atlasDataPlaneFeedbackMax]; omega)

/-- An identity of 64 bytes or more is written over the end of its field. -/
theorem addFeedback_of_long (hactive : rep.feedbackActive = true)
    (hlength : rep.feedbackLength < 256)
    (hnew : clientid ∉ rep.identities) (hid : 64 ≤ clientid.length) :
    rep.addFeedback clientid value ts = none := by
  rw [addFeedback_of_new hactive (by omega) hnew]
  refine (dif_pos hlength).trans ?_
  rw [setIdentity_of_length_ge _ hid, Option.map_none]

/-- An entry is left out, or written behind the others. -/
theorem InBounds.addFeedback (h : rep.InBounds) (hzero : 0 ∉ clientid)
    (hfits : rep.feedbackActive = true → clientid ∉ rep.identities →
      clientid.length ≤ 63 ∧ rep.feedbackLength < 256) :
    ∃ after, rep.addFeedback clientid value ts = some after ∧ after.InBounds := by
  cases hactive : rep.feedbackActive with
  | false => exact ⟨rep, by rw [Reputation.addFeedback, hactive]; rfl, h⟩
  | true =>
    have hcount : ¬ rep.feedbackLength > atlasDataPlaneFeedbackMax := Nat.not_lt.mpr h.length_le
    by_cases hnew : clientid ∈ rep.identities
    · refine ⟨rep, ?_, h⟩
      rw [Reputation.addFeedback, hactive, if_neg (by decide), if_neg hcount, if_pos hnew]
    · obtain ⟨hid, hlength⟩ := hfits hactive hnew
      obtain ⟨after, hstore, -, hafter, hidentities, hterminated⟩ :=
        store_of_fits rep value ts hlength hid hzero
      refine ⟨after, (addFeedback_of_new hactive h.length_le hnew).trans hstore, by omega, ?_,
        hterminated h.terminated⟩
      rw [hidentities]
      exact List.nodup_append_singleton h.nodup hnew

end

/-! ## Runs -/

section

variable {atof : List UInt8 → ℚ} {rep : Reputation}

/-- A message that fits is handled inside of all buffers. -/
theorem InBounds.handleData (h : rep.InBounds) {payload : List UInt8} {ts : Timespec}
    (hfits : rep.Fits (.data payload ts)) :
    ∃ after, rep.handleData atof payload ts = some after ∧ after.InBounds := by
  obtain ⟨hlength, hnew⟩ := hfits
  rw [Reputation.handleData]
  split
  case isTrue => exact ⟨rep, rfl, h⟩
  case isFalse =>
    obtain ⟨message, hparse, hmessage⟩ := parseMessage_of_length_le hlength
    rw [hparse, Option.bind_some]
    cases message with
    | none => exact ⟨rep, rfl, h⟩
    | some message =>
      obtain ⟨hclient, hzero⟩ := hmessage message.1 message.2 rfl
      exact h.addFeedback hzero (hclient ▸ hnew)

theorem InBounds.of_length_eq_zero (h : rep.feedbackLength = 0) : rep.InBounds := by
  refine ⟨by omega, ?_, ?_⟩
  · rw [identities, h]
    exact List.nodup_nil
  · rw [h]
    nofun

theorem InBounds.handle (h : rep.InBounds) {e : WindowEvent} (hfits : rep.Fits e) :
    ∃ after, rep.handle atof e = some after ∧ after.InBounds := by
  cases e with
  | data payload ts => exact h.handleData hfits
  | activate => exact ⟨_, rfl, h.length_le, h.nodup, h.terminated⟩
  | start ts => exact ⟨_, rfl, .of_length_eq_zero rfl⟩
  | deactivate => exact ⟨_, rfl, h.length_le, h.nodup, h.terminated⟩
  | clear => exact ⟨_, rfl, .of_length_eq_zero rfl⟩

end

/-- From an empty window, as long as every data message fits, none is written outside of a buffer,
the entries are at most 256 and of pairwise different clients, and their identities end in their
fields. -/
theorem inBounds_of_fits (atof : List UInt8 → ℚ) (rep : Reputation) (h : rep.feedbackLength = 0)
    (es : List WindowEvent)
    (hfits : AllSteps (step atof) (fun state e => ∀ rep, state = some rep → rep.Fits e) (some rep)
      es) :
    AllStates (step atof) (fun state => ∃ rep, state = some rep ∧ rep.InBounds) (some rep) es := by
  refine allStates_of_invariant (I := fun state => ∃ rep, state = some rep ∧ rep.InBounds) ?_
    (fun _ hstate => hstate) ⟨rep, rfl, .of_length_eq_zero h⟩ hfits
  rintro _ e ⟨rep, rfl, hrep⟩ hstep
  exact hrep.handle (hstep rep rfl)

/-- An open window without entries, over zeroed memory. -/
def openWindow : Reputation where
  targetValue := 20
  windowSize := 5
  feedbackActive := true
  sensorVal := Vector.replicate 256 0
  feedback := Vector.replicate 256 ⟨List.replicate 64 0, 0, 0, 0, List.length_replicate⟩
  feedbackLength := 0
  windowStart := ⟨0, 0⟩

/-- The message `a:1` at an open window. -/
theorem inBounds_one_message :
    AllStates (step fun _ => 0) (fun state => ∃ rep, state = some rep ∧ rep.InBounds)
      (some openWindow) [.data [97, 58, 49] ⟨1, 0⟩, .deactivate] := by
  refine inBounds_of_fits (fun _ => 0) openWindow rfl _ ⟨?_, fun _ _ => trivial, trivial⟩
  rintro _ ⟨⟩
  exact ⟨by decide, fun _ _ => ⟨by decide, by decide⟩⟩

/-! ## Messages that do not fit -/

/-- A client id that fits an entry and a message. -/
structure IsClientId (clientid : List UInt8) : Prop where
  ne_nil : clientid ≠ []
  length_le : clientid.length ≤ 63
  chars : ∀ b ∈ clientid, b ≠ colon ∧ b ≠ 0

/-- The message `<client id>:0`. -/
def zeroMessage (clientid : List UInt8) : WindowEvent := .data (clientid ++ [colon, 48]) ⟨1, 0⟩

section

variable {atof : List UInt8 → ℚ} {rep : Reputation} {clientid : List UInt8}

theorem handle_zeroMessage (hne : clientid ≠ []) (hlength : clientid.length ≤ 253)
    (hchars : ∀ b ∈ clientid, b ≠ colon ∧ b ≠ 0) :
    rep.handle atof (zeroMessage clientid) = rep.addFeedback clientid (atof [48]) ⟨1, 0⟩ := by
  have hparse : parseMessage (clientid ++ [colon, 48]) = some (some (clientid, [48])) :=
    parseMessage_append hne (by decide)
      (List.forall_mem_append.mpr ⟨hchars, List.forall_mem_singleton.mpr (by decide)⟩)
      (by rw [List.length_singleton]; omega)
  rw [zeroMessage, handle, handleData, if_neg (by simp [hne]), hparse, Option.bind_some]

/-- Every new client gets an entry, up to 256. -/
theorem run_zeroMessages (atof : List UInt8 → ℚ) (rep : Reputation) (clientids : List (List UInt8))
    (hactive : rep.feedbackActive = true) (hids : ∀ clientid ∈ clientids, IsClientId clientid)
    (hnodup : (rep.identities ++ clientids).Nodup)
    (hlength : rep.feedbackLength + clientids.length ≤ 256) :
    ∃ after, run (step atof) (some rep) (clientids.map zeroMessage) = some after ∧
      after.feedbackActive = true ∧ after.feedbackLength = rep.feedbackLength + clientids.length ∧
      after.identities = rep.identities ++ clientids := by
  induction clientids generalizing rep with
  | nil => exact ⟨rep, rfl, hactive, rfl, (List.append_nil _).symm⟩
  | cons clientid clientids ih =>
    rw [List.forall_mem_cons] at hids
    obtain ⟨⟨hne, hid, hchars⟩, hids⟩ := hids
    rw [List.length_cons] at hlength
    have hnew : clientid ∉ rep.identities := fun hmem =>
      (List.nodup_append.mp hnodup).2.2 _ hmem _ List.mem_cons_self rfl
    obtain ⟨after, hstore, hafter, hcount, hidentities, -⟩ :=
      store_of_fits rep (atof [48]) ⟨1, 0⟩ (by omega) hid
        fun hzero => (hchars 0 hzero).2 rfl
    have hstep : rep.handle atof (zeroMessage clientid) = some after := by
      rw [handle_zeroMessage hne (by omega) hchars, addFeedback_of_new hactive (by omega) hnew,
        hstore]
    obtain ⟨last, hrun, hlast, hlastCount, hlastIdentities⟩ :=
      ih after (hafter.trans hactive) hids
        (by rwa [hidentities, List.append_assoc, List.singleton_append]) (by omega)
    refine ⟨last, ?_, hlast, ?_, ?_⟩
    · rw [List.map_cons, run_cons, step, Option.bind_some, hstep, hrun]
    · rw [hlastCount, hcount, List.length_cons]
      omega
    · rw [hlastIdentities, hidentities, List.append_assoc, List.singleton_append]

end

/-- Different names for 257 clients. -/
def clientName (i : ℕ) : List UInt8 := [UInt8.ofNat (65 + i / 20), UInt8.ofNat (65 + i % 20)]

theorem isClientId_clientName {i : ℕ} (h : i < 257) : IsClientId (clientName i) := by
  have hchar (n : ℕ) (h₁ : 65 ≤ n) (h₂ : n < 256) : UInt8.ofNat n ≠ colon ∧ UInt8.ofNat n ≠ 0 := by
    constructor <;> intro heq <;> have := congrArg UInt8.toNat heq <;>
      simp only [UInt8.toNat_ofNat', colon, UInt8.reduceToNat] at this <;> omega
  refine ⟨by simp [clientName], by simp [clientName], ?_⟩
  rw [clientName, List.forall_mem_cons, List.forall_mem_singleton]
  exact ⟨hchar _ (by omega) (by omega), hchar _ (by omega) (by omega)⟩

theorem clientName_injOn {i j : ℕ} (hi : i < 257) (hj : j < 257) (h : clientName i = clientName j) :
    i = j := by
  simp only [clientName, List.cons.injEq, and_true, ← UInt8.toNat_inj, UInt8.toNat_ofNat'] at h
  omega

theorem nodup_clientNames {n : ℕ} (hn : n ≤ 257) : ((List.range n).map clientName).Nodup := by
  refine List.Nodup.map_on (fun i hi j hj h => ?_) List.nodup_range
  rw [List.mem_range] at hi hj
  exact clientName_injOn (by omega) (by omega) h

/-- After 256 clients the window is full. -/
theorem run_openWindow_full (atof : List UInt8 → ℚ) :
    ∃ full, run (step atof) (some openWindow) (((List.range 256).map clientName).map zeroMessage) =
        some full ∧
      full.feedbackActive = true ∧ full.feedbackLength = 256 ∧
      full.identities = (List.range 256).map clientName := by
  obtain ⟨full, hrun, hactive, hlength, hidentities⟩ :=
    run_zeroMessages atof openWindow ((List.range 256).map clientName) rfl
      (List.forall_mem_map.mpr fun i hi =>
        isClientId_clientName (by rw [List.mem_range] at hi; omega))
      (nodup_clientNames (by omega))
        (by rw [List.length_map, List.length_range]; exact Nat.le_refl _)
  refine ⟨full, hrun, hactive, ?_, hidentities⟩
  rw [hlength, List.length_map, List.length_range]
  rfl

/-- A payload of 257 bytes, a client id of 64 bytes, and a 257th client. -/
theorem messages_outside_of_buffers :
    openWindow.handleData (fun _ => 0) (List.replicate 257 48) ⟨1, 0⟩ = none ∧
    run (step fun _ => 0) (some openWindow) [zeroMessage (List.replicate 64 97)] = none ∧
    (∃ full, run (step fun _ => 0) (some openWindow)
        (((List.range 256).map clientName).map zeroMessage) = some full ∧
      full.feedbackLength = 256) ∧
    run (step fun _ => 0) (some openWindow) (((List.range 257).map clientName).map zeroMessage) =
      none := by
  obtain ⟨full, hrun, hactive, hlength, hidentities⟩ := run_openWindow_full fun _ => 0
  refine ⟨?_, ?_, ⟨full, hrun, hlength⟩, ?_⟩
  · have hlength : 256 < (List.replicate 257 (48 : UInt8)).length := by
      rw [List.length_replicate]
      omega
    rw [handleData, if_neg (List.ne_nil_of_length_pos (by omega)),
      parseMessage_of_length_gt hlength, Option.bind_none]
  · have hchars : ∀ b ∈ List.replicate 64 (97 : UInt8), b ≠ colon ∧ b ≠ 0 := fun b hb => by
      obtain rfl := List.eq_of_mem_replicate hb
      decide
    have hstep : openWindow.handle (fun _ => 0) (zeroMessage (List.replicate 64 97)) = none := by
      rw [handle_zeroMessage (by simp) (by simp) hchars]
      exact addFeedback_of_long rfl (by decide) List.not_mem_nil (by simp)
    rw [run_cons, step, Option.bind_some, hstep, run_nil]
  · have hnew : clientName 256 ∉ full.identities := by
      rw [hidentities, List.mem_map]
      rintro ⟨i, hi, heq⟩
      rw [List.mem_range] at hi
      have := clientName_injOn (by omega) (by omega) heq
      omega
    obtain ⟨hne, hid, hchars⟩ := isClientId_clientName (i := 256) (by omega)
    have hstep : full.handle (fun _ => 0) (zeroMessage (clientName 256)) = none := by
      rw [handle_zeroMessage hne (by omega) hchars]
      exact addFeedback_of_full hactive hlength hnew
    rw [List.range_succ, List.map_append, List.map_append, run_append, hrun, List.map_singleton,
      List.map_singleton, run_cons, step, Option.bind_some, hstep, run_nil]

end Reputation

end Atlas.Client
