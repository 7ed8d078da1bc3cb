import Atlas.Commands.ClientBatch

/-! # The data-plane connector

The application writes messages to a local socket of the client: its policy, statistics of its
packets, and requests that concern reputation. The connector validates the boundaries of the records
of a message, and for a policy those of the records inside. The setters of the five numbers then
copy two bytes from the start of a value without looking at its length. From a shorter value they
also take bytes of the record behind it, or bytes behind the block of memory.

Reference: `data_plane_connector/atlas_data_plane_connector.c`.
-/

namespace Atlas.Client

open ByteOrder Gateway

namespace CommandType

/-- `ATLAS_CMD_IDENTITY`. -/
def identity : UInt16 := 2

/-- `ATLAS_CMD_DATA_PLANE_POLICY`. -/
def dataPlanePolicy : UInt16 := 1000

/-- `ATLAS_CMD_DATA_PLANE_PACKETS_PER_MINUTE`. -/
def dataPlanePacketsPerMinute : UInt16 := 1001

/-- `ATLAS_CMD_DATA_PLANE_PACKETS_AVG`. -/
def dataPlanePacketsAvg : UInt16 := 1002

/-- `ATLAS_CMD_DATA_PLANE_GET_IDENTITY`. -/
def dataPlaneGetIdentity : UInt16 := 1003

/-- `ATLAS_CMD_DATA_PLANE_IDENTITY`. -/
def dataPlaneIdentity : UInt16 := 1004

/-- `ATLAS_CMD_DATA_PLANE_POLICY_QOS`. -/
def dataPlanePolicyQos : UInt16 := 1100

/-- `ATLAS_CMD_DATA_PLANE_POLICY_PACKETS_PER_MINUTE`. -/
def dataPlanePolicyPacketsPerMinute : UInt16 := 1101

/-- `ATLAS_CMD_DATA_PLANE_POLICY_PACKETS_MAXLEN`. -/
def dataPlanePolicyPacketsMaxlen : UInt16 := 1102

/-- `ATLAS_CMD_DATA_PLANE_FEATURE_REPUTATION`. -/
def dataPlaneFeatureReputation : UInt16 := 1500

/-- `ATLAS_CMD_DATA_PLANE_FEEDBACK`. -/
def dataPlaneFeedback : UInt16 := 1501

end CommandType

/-- The variables of the data-plane connector that hold the policy. -/
structure Connector where
  policyQos : UInt16
  policyPacketsPerMin : UInt16
  policyPacketsMaxlen : UInt16
  activePolicy : Bool
deriving DecidableEq

/-- The variables of the connector: the policy and the statistics. -/
structure DataPlane extends Connector where
  packetsPerMin : UInt16
  packetsAvg : UInt16
deriving DecidableEq

/-- The numbers that are copied from messages. -/
inductive Field where
  | policyQos
  | policyPacketsPerMin
  | policyPacketsMaxlen
  | packetsPerMin
  | packetsAvg
deriving DecidableEq

namespace DataPlane

/-- The variable of a field. -/
def get (s : DataPlane) : Field → UInt16
  | .policyQos => s.policyQos
  | .policyPacketsPerMin => s.policyPacketsPerMin
  | .policyPacketsMaxlen => s.policyPacketsMaxlen
  | .packetsPerMin => s.packetsPerMin
  | .packetsAvg => s.packetsAvg

/-- The variable of a field is set. -/
def set (s : DataPlane) : Field → UInt16 → DataPlane
  | .policyQos, value => { s with policyQos := value }
  | .policyPacketsPerMin, value => { s with policyPacketsPerMin := value }
  | .policyPacketsMaxlen, value => { s with policyPacketsMaxlen := value }
  | .packetsPerMin, value => { s with packetsPerMin := value }
  | .packetsAvg, value => { s with packetsAvg := value }

@[simp] theorem get_set_self (s : DataPlane) (field : Field) (value : UInt16) :
    (s.set field value).get field = value := by
  cases field <;> rfl

theorem get_set_of_ne (s : DataPlane) {field field' : Field} (h : field' ≠ field) (value : UInt16) :
    (s.set field value).get field' = s.get field' := by
  cases field <;> cases field' <;> first | rfl | exact absurd rfl h

end DataPlane

/-- The identity of the client. -/
structure Identity where
  text : List UInt8
  length_le : text.length ≤ 64

/-- A command in the memory of its batch: what its header says, and the block from its value on. -/
structure CommandPtr where
  cmd : AtlasCommand
  mem : List UInt8
deriving DecidableEq

/-- Two bytes that were copied to a variable, and the command they were meant to come from. -/
structure Copy where
  field : Field
  cmd : AtlasCommand
  value : UInt16
deriving DecidableEq

/-- What the connector sends: requests to the gateway, and its identity to the application. -/
inductive Output where
  | policy (payload : List UInt8)
  | feature (payload : List UInt8)
  | feedback (payload : List UInt8)
  | identity (message : List UInt8)
deriving DecidableEq

/-- The variables while a message is read, with the copies made and what was sent. -/
structure Reading where
  vars : DataPlane
  copies : List Copy
  outputs : List Output
deriving DecidableEq

variable (host : ByteOrder)

/-- `send_policy_command`: the payloads of the CoAP requests it makes. -/
def Connector.sendPolicyCommand (connector : Connector) : Option (List (List UInt8)) :=
  if !connector.activePolicy then some []
  else
    ((atlasCmdBatchAddAll host atlasCmdBatchNew
      [⟨CommandType.dataPlanePolicyQos, 2, store16 host (htons host connector.policyQos)⟩,
        ⟨CommandType.dataPlanePolicyPacketsPerMinute, 2,
          store16 host (htons host connector.policyPacketsPerMin)⟩,
        ⟨CommandType.dataPlanePolicyPacketsMaxlen, 2,
          store16 host (htons host connector.policyPacketsMaxlen)⟩]).bind
      atlasCmdBatchGetBuf).map ([·])

/-- What the loops of the connector see of the command at `p`. -/
def viewCommand (batch : AtlasCmdBatch) (p : ℕ) : Option CommandPtr :=
  (readCommand host batch p).map fun cmd => ⟨cmd, batch.buf.drop (p + 4)⟩

namespace Reading

/-! ## The setters -/

/-- Two bytes are copied from `cmd->value`; `none` is a read behind the block. -/
def copyField (field : Field) (r : Reading) (ptr : CommandPtr) : Option Reading :=
  (read16 host ptr.mem 0).map fun value =>
    { r with vars := r.vars.set field value, copies := r.copies ++ [⟨field, ptr.cmd, value⟩] }

/-- `set_policy_qos`. -/
def setPolicyQos : Reading → CommandPtr → Option Reading := copyField host .policyQos

/-- `set_policy_packets_per_min`. -/
def setPolicyPacketsPerMin : Reading → CommandPtr → Option Reading :=
  copyField host .policyPacketsPerMin

/-- `set_policy_packets_maxlen`. -/
def setPolicyPacketsMaxlen : Reading → CommandPtr → Option Reading :=
  copyField host .policyPacketsMaxlen

/-- `set_packets_per_min`. -/
def setPacketsPerMin : Reading → CommandPtr → Option Reading := copyField host .packetsPerMin

/-- `set_packets_avg`. -/
def setPacketsAvg : Reading → CommandPtr → Option Reading := copyField host .packetsAvg

/-! ## Messages -/

/-- The body of the loop of `atlas_data_plane_parse_policy`. -/
def parsePolicyCommand (r : Reading) (ptr : CommandPtr) : Option Reading :=
  if ptr.cmd.type = CommandType.dataPlanePolicyQos then r.setPolicyQos host ptr
  else if ptr.cmd.type = CommandType.dataPlanePolicyPacketsPerMinute then
    r.setPolicyPacketsPerMin host ptr
  else if ptr.cmd.type = CommandType.dataPlanePolicyPacketsMaxlen then
    r.setPolicyPacketsMaxlen host ptr
  else some r

/-- The end of `atlas_data_plane_parse_policy`. -/
def activatePolicy (r : Reading) : Option Reading :=
  let vars := { r.vars with activePolicy := true }
  (Connector.sendPolicyCommand host vars.toConnector).map fun reqs =>
    { r with vars := vars, outputs := r.outputs ++ reqs.map .policy }

/-- `atlas_data_plane_parse_policy`. -/
def parsePolicy (r : Reading) (buf : List UInt8) (bufLen : UInt16) : Option Reading :=
  if buf = [] ∨ bufLen = 0 then some r else
  -- the records are copied to a block of their own, so a copy may also leave this one
  (atlasCmdBatchSetRaw host atlasCmdBatchNew buf bufLen).bind fun (status, cmdBatch) =>
  if status ≠ .ok then some r else
  (walkWith host (viewCommand host) cmdBatch).bind fun ptrs =>
  (ptrs.foldlM (parsePolicyCommand host) r).bind (activatePolicy host)

variable (identity : Identity)

/-- The payload of a request with the identity of the client and a value that is handed on. -/
def forward (type : UInt16) (value : List UInt8) (length : UInt16) : Option (List (List UInt8)) :=
  if value = [] ∨ length = 0 then some []
  else
    ((atlasCmdBatchAddAll host atlasCmdBatchNew
      [⟨CommandType.identity, UInt16.ofNat identity.text.length, identity.text⟩,
        ⟨type, length, value⟩]).bind atlasCmdBatchGetBuf).map ([·])

/-- `atlas_feature_reputation_handle`. -/
def atlasFeatureReputationHandle (feature : List UInt8) (length : UInt16) : Option (List Output) :=
  (forward host identity CommandType.dataPlaneFeatureReputation feature length).map
    (·.map .feature)

/-- `atlas_feature_feedback_handle`. -/
def atlasFeatureFeedbackHandle (feedback : List UInt8) (length : UInt16) : Option (List Output) :=
  (forward host identity CommandType.dataPlaneFeedback feedback length).map (·.map .feedback)

/-- `atlas_data_plane_identity`. -/
def atlasDataPlaneIdentity : Option (List Output) :=
  ((atlasCmdBatchAddAll host atlasCmdBatchNew
    [⟨CommandType.dataPlaneIdentity, UInt16.ofNat identity.text.length, identity.text⟩]).bind
      atlasCmdBatchGetBuf).map fun message => [.identity message]

/-- What a handler sends is noted. -/
def send (r : Reading) (outputs : Option (List Output)) : Option Reading :=
  outputs.map fun outputs => { r with outputs := r.outputs ++ outputs }

/-- The body of the loop of `atlas_data_plane_read_cb`. -/
def readCommand (r : Reading) (ptr : CommandPtr) : Option Reading :=
  if ptr.cmd.type = CommandType.dataPlanePolicy then r.parsePolicy host ptr.cmd.val ptr.cmd.len
  else if ptr.cmd.type = CommandType.dataPlanePacketsPerMinute then r.setPacketsPerMin host ptr
  else if ptr.cmd.type = CommandType.dataPlanePacketsAvg then r.setPacketsAvg host ptr
  else if ptr.cmd.type = CommandType.dataPlaneFeatureReputation then
    r.send (atlasFeatureReputationHandle host identity ptr.cmd.val ptr.cmd.len)
  else if ptr.cmd.type = CommandType.dataPlaneFeedback then
    r.send (atlasFeatureFeedbackHandle host identity ptr.cmd.val ptr.cmd.len)
  else if ptr.cmd.type = CommandType.dataPlaneGetIdentity then
    r.send (atlasDataPlaneIdentity host identity)
  else some r

end Reading

/-- `atlas_data_plane_read_cb`, for a message that is read from the socket. -/
def DataPlane.readCb (identity : Identity) (s : DataPlane) (buf : List UInt8) : Option Reading :=
  (atlasCmdBatchSetRaw host atlasCmdBatchNew buf (UInt16.ofNat buf.length)).bind
    fun (status, cmdBatch) =>
  if status ≠ .ok then some ⟨s, [], []⟩ else
  (walkWith host (viewCommand host) cmdBatch).bind fun ptrs =>
  ptrs.foldlM (Reading.readCommand host identity) ⟨s, [], []⟩

/-! ## Records and fields -/

/-- A record with a 16-bit value in host order. -/
def hostNumber (type n : UInt16) : Tlv.Record := ⟨type, store16 host n, by simp⟩

/-- The records of the three limits, each value encoded by `f`. -/
def limitRecords (f : UInt16 → UInt16) (qos packetsPerMin packetsMaxlen : UInt16) :
    List Tlv.Record :=
  [hostNumber host CommandType.dataPlanePolicyQos (f qos),
    hostNumber host CommandType.dataPlanePolicyPacketsPerMinute (f packetsPerMin),
    hostNumber host CommandType.dataPlanePolicyPacketsMaxlen (f packetsMaxlen)]

theorem length_limitRecords (f : UInt16 → UInt16) (qos packetsPerMin packetsMaxlen : UInt16) :
    (Tlv.encodeAll (limitRecords host f qos packetsPerMin packetsMaxlen)).length = 18 := by
  simp [limitRecords, hostNumber]

theorem map_ofRecord_limitRecords (f : UInt16 → UInt16) (qos packetsPerMin packetsMaxlen : UInt16) :
    (limitRecords host f qos packetsPerMin packetsMaxlen).map AtlasCommand.ofRecord =
      [⟨CommandType.dataPlanePolicyQos, 2, store16 host (f qos)⟩,
        ⟨CommandType.dataPlanePolicyPacketsPerMinute, 2, store16 host (f packetsPerMin)⟩,
        ⟨CommandType.dataPlanePolicyPacketsMaxlen, 2, store16 host (f packetsMaxlen)⟩] := by
  simp [limitRecords, hostNumber, AtlasCommand.ofRecord, Tlv.Record.len]

section

variable (qos packetsPerMin packetsMaxlen : UInt16)

/-- The payload of the request to the gateway. -/
def policyRequest : List UInt8 :=
  Tlv.encodeAll (limitRecords host (htons host) qos packetsPerMin packetsMaxlen)

theorem Connector.sendPolicyCommand_eq :
    sendPolicyCommand host ⟨qos, packetsPerMin, packetsMaxlen, true⟩ =
      some [policyRequest host qos packetsPerMin packetsMaxlen] := by
  have hbuf := bind_getBuf_addAll host
    (limitRecords host (htons host) qos packetsPerMin packetsMaxlen)
    (by rw [length_limitRecords]; decide)
  rw [map_ofRecord_limitRecords] at hbuf
  simp only [sendPolicyCommand, Bool.not_true, Bool.false_eq_true, if_false, hbuf, Option.map_some]
  rfl

end

/-- The field of a record inside a policy. -/
def policyField (rec : Tlv.Record) : List (Field × Tlv.Record) :=
  if rec.tag = CommandType.dataPlanePolicyQos then [(.policyQos, rec)]
  else if rec.tag = CommandType.dataPlanePolicyPacketsPerMinute then [(.policyPacketsPerMin, rec)]
  else if rec.tag = CommandType.dataPlanePolicyPacketsMaxlen then [(.policyPacketsMaxlen, rec)]
  else []

/-- The fields of a policy of whole records. -/
def policyFields (buf : List UInt8) : List (Field × Tlv.Record) :=
  if Tlv.rest buf = [] then (Tlv.parse buf).flatMap policyField else []

/-- The fields of a record of a message. -/
def recordFields (rec : Tlv.Record) : List (Field × Tlv.Record) :=
  if rec.tag = CommandType.dataPlanePolicy then policyFields rec.value
  else if rec.tag = CommandType.dataPlanePacketsPerMinute then [(.packetsPerMin, rec)]
  else if rec.tag = CommandType.dataPlanePacketsAvg then [(.packetsAvg, rec)]
  else []

/-- The fields of a message of whole records. -/
def messageFields (buf : List UInt8) : List (Field × Tlv.Record) :=
  if Tlv.rest buf = [] then (Tlv.parse buf).flatMap recordFields else []

/-- Every record of a field has room for it. -/
def LongEnough (fields : List (Field × Tlv.Record)) : Prop :=
  ∀ p ∈ fields, 2 ≤ p.2.value.length

instance (fields : List (Field × Tlv.Record)) : Decidable (LongEnough fields) :=
  inferInstanceAs (Decidable (∀ p ∈ fields, 2 ≤ p.2.value.length))

/-- What the loops see of a record in front of these bytes. -/
def seen (rec : Tlv.Record) (post : List UInt8) : CommandPtr := ⟨.ofRecord rec, rec.value ++ post⟩

theorem viewCommand_hostRecord (length : UInt16) (pre post : List UInt8) (rec : Tlv.Record) :
    viewCommand host ⟨length, pre ++ (hostRecord host rec ++ post)⟩ pre.length =
      some (seen rec post) := by
  have hmem : (pre ++ (hostRecord host rec ++ post)).drop (pre.length + 4) = rec.value ++ post := by
    have hheader :
        (pre ++ store16 host rec.tag ++ store16 host rec.len).length = pre.length + 4 := by
      simp
    have hdrop : ((pre ++ store16 host rec.tag ++ store16 host rec.len) ++ (rec.value ++ post)).drop
        (pre.length + 4) = rec.value ++ post := List.drop_left' hheader
    simpa [hostRecord] using hdrop
  rw [viewCommand, readCommand_hostRecord, Option.map_some, hmem, seen]

namespace Reading

/-- Between `r` and `r'` exactly these fields were copied, in this order, and a variable that
changed has the value of a copy. -/
structure Reads (fields : List (Field × Tlv.Record)) (r r' : Reading) : Prop where
  copies : ∃ copies, r'.copies = r.copies ++ copies ∧
    copies.map (fun copy => (copy.field, copy.cmd)) =
      fields.map fun p => (p.1, AtlasCommand.ofRecord p.2)
  vars : ∀ field, r'.vars.get field = r.vars.get field ∨
    ∃ copy ∈ r'.copies, copy.field = field ∧ copy.value = r'.vars.get field

theorem Reads.trans {fields fields' : List (Field × Tlv.Record)} {r r' r'' : Reading}
    (h : Reads fields r r') (h' : Reads fields' r' r'') : Reads (fields ++ fields') r r'' := by
  obtain ⟨copies, hcopies, hmap⟩ := h.copies
  obtain ⟨copies', hcopies', hmap'⟩ := h'.copies
  refine ⟨⟨copies ++ copies', ?_, ?_⟩, fun field => ?_⟩
  · rw [hcopies', hcopies, List.append_assoc]
  · rw [List.map_append, hmap, hmap', List.map_append]
  · rcases h'.vars field with hsame | hcopy
    · rw [hsame]
      refine (h.vars field).imp_right ?_
      rintro ⟨copy, hmem, hfield⟩
      exact ⟨copy, by rw [hcopies']; exact List.mem_append_left _ hmem, hfield⟩
    · exact Or.inr hcopy

/-- A step of the connector that copies these fields. It stays inside the memory when they are long
enough. -/
structure Performs (fields : List (Field × Tlv.Record)) (r : Reading) (result : Option Reading) :
    Prop where
  reads : ∀ r', result = some r' → Reads fields r r'
  isSome : LongEnough fields → result.isSome

/-- A step that copies nothing. -/
theorem Performs.of_copies {r r' : Reading} (hcopies : r'.copies = r.copies)
    (hvars : ∀ field, r'.vars.get field = r.vars.get field) : Performs [] r (some r') := by
  refine ⟨?_, fun _ => rfl⟩
  rintro _ ⟨⟩
  exact ⟨⟨[], by rw [hcopies, List.append_nil], rfl⟩, fun field => Or.inl (hvars field)⟩

theorem Performs.pure (r : Reading) : Performs [] r (some r) := .of_copies rfl fun _ => rfl

/-- Two steps in a row. -/
theorem Performs.bind {fields fields' : List (Field × Tlv.Record)} {r : Reading}
    {result : Option Reading} {next : Reading → Option Reading} (h : Performs fields r result)
    (hnext : ∀ r', Performs fields' r' (next r')) :
    Performs (fields ++ fields') r (result.bind next) := by
  constructor
  · intro r'' h''
    obtain ⟨r', hr', hr''⟩ := Option.bind_eq_some_iff.mp h''
    exact (h.reads r' hr').trans ((hnext r').reads r'' hr'')
  · intro hlong
    obtain ⟨r', hr'⟩ := Option.isSome_iff_exists.mp
      (h.isSome fun p hp => hlong p (List.mem_append_left _ hp))
    rw [hr', Option.bind_some]
    exact (hnext r').isSome fun p hp => hlong p (List.mem_append_right _ hp)

/-- A loop over records. -/
theorem Performs.foldlM {step : Reading → CommandPtr → Option Reading}
    {fields : Tlv.Record → List (Field × Tlv.Record)} {recs : List Tlv.Record}
    (hstep : ∀ rec ∈ recs, ∀ post r, Performs (fields rec) r (step r (seen rec post)))
    (r : Reading) : Performs (recs.flatMap fields) r ((visited seen recs).foldlM step r) := by
  induction recs generalizing r with
  | nil => exact .pure r
  | cons rec recs ih =>
    rw [visited, List.foldlM_cons, List.flatMap_cons]
    exact (hstep rec List.mem_cons_self _ r).bind
      (ih fun rec' hmem => hstep rec' (List.mem_cons_of_mem _ hmem))

/-! ## What each function copies -/

/-- A record that is long enough has bytes for a copy. -/
theorem read16_seen {rec : Tlv.Record} (h : 2 ≤ rec.value.length) (post : List UInt8) :
    ∃ value, read16 host (seen rec post).mem 0 = some value := by
  rcases hvalue : rec.value with _ | ⟨a, _ | ⟨b, bs⟩⟩
  · simp [hvalue] at h
  · simp [hvalue] at h
  · refine ⟨load16 host a b, ?_⟩
    simpa [seen, hvalue] using read16_append [] (bs ++ post) host a b rfl

theorem performs_copyField (field : Field) (r : Reading) (rec : Tlv.Record) (post : List UInt8) :
    Performs [(field, rec)] r (copyField host field r (seen rec post)) := by
  constructor
  · intro r' hr'
    obtain ⟨value, -, rfl⟩ := Option.map_eq_some_iff.mp hr'
    refine ⟨⟨[⟨field, .ofRecord rec, value⟩], rfl, rfl⟩, fun field' => ?_⟩
    by_cases heq : field' = field
    · subst heq
      exact Or.inr ⟨⟨field', .ofRecord rec, value⟩, by simp [seen], rfl, by simp⟩
    · exact Or.inl (DataPlane.get_set_of_ne _ heq value)
  · intro hlong
    obtain ⟨value, hread⟩ := read16_seen host (hlong (field, rec) List.mem_cons_self) post
    rw [copyField, hread]
    rfl

theorem performs_parsePolicyCommand (r : Reading) (rec : Tlv.Record) (post : List UInt8) :
    Performs (policyField rec) r (parsePolicyCommand host r (seen rec post)) := by
  have htype : (seen rec post).cmd.type = rec.tag := rfl
  simp only [parsePolicyCommand, htype, policyField]
  split_ifs
  · exact performs_copyField host _ r rec post
  · exact performs_copyField host _ r rec post
  · exact performs_copyField host _ r rec post
  · exact .pure r

theorem performs_activatePolicy (r : Reading) : Performs [] r (activatePolicy host r) := by
  simp only [activatePolicy, Connector.sendPolicyCommand_eq, Option.map_some]
  exact .of_copies rfl fun field => by cases field <;> rfl

/-- A buffer is refused, or walked through record by record. -/
theorem performs_batch {step : Reading → CommandPtr → Option Reading}
    {fields : Tlv.Record → List (Field × Tlv.Record)} {buf : List UInt8} (h₁ : 1 ≤ buf.length)
    (h₂ : buf.length ≤ 65535)
    (hstep : ∀ rec ∈ Tlv.parse buf, ∀ post r, Performs (fields rec) r (step r (seen rec post)))
    {next : Reading → Option Reading} (hnext : ∀ r, Performs [] r (next r)) (r : Reading) :
    Performs (if Tlv.rest buf = [] then (Tlv.parse buf).flatMap fields else []) r
      ((atlasCmdBatchSetRaw host atlasCmdBatchNew buf (UInt16.ofNat buf.length)).bind
        fun (status, cmdBatch) =>
          if status ≠ .ok then some r else
          (walkWith host (viewCommand host) cmdBatch).bind fun ptrs =>
          (ptrs.foldlM step r).bind next) := by
  rw [atlasCmdBatchSetRaw_eq host _ h₁ h₂, Option.bind_some]
  by_cases hrest : Tlv.rest buf = []
  · have hwalk := walkWith_ofBytes host (viewCommand_hostRecord host) h₁ h₂ hrest
    have hloop := (Performs.foldlM hstep r).bind hnext
    simpa [hrest, hwalk] using hloop
  · simpa [hrest] using Performs.pure r

theorem performs_parsePolicy (r : Reading) (rec : Tlv.Record) :
    Performs (policyFields rec.value) r (parsePolicy host r rec.value rec.len) := by
  by_cases hnil : rec.value = []
  · -- an empty policy is refused, so it does not activate one
    simpa [parsePolicy, hnil, policyFields] using Performs.pure r
  · have hpos : 1 ≤ rec.value.length := List.length_pos_iff.mpr hnil
    have hle : rec.value.length ≤ 65535 := Nat.le_of_lt_succ rec.fits
    rw [parsePolicy, Tlv.Record.len, if_neg (not_empty_buf hpos hle)]
    exact performs_batch host hpos hle
      (fun rec' _ post r => performs_parsePolicyCommand host r rec' post)
      (performs_activatePolicy host) r

variable (identity : Identity)

theorem isSome_forward (type : UInt16) {rec : Tlv.Record} (h : rec.value.length ≤ 2048) :
    (forward host identity type rec.value rec.len).isSome := by
  have hidentity := identity.length_le
  have hbuf := bind_getBuf_addAll host [⟨CommandType.identity, identity.text, by omega⟩,
    ⟨type, rec.value, rec.fits⟩] (by
      simp only [Tlv.encodeAll_cons, Tlv.encodeAll_nil, List.length_append, Tlv.length_encode,
        List.length_nil]
      omega)
  rw [forward]
  split_ifs
  · rfl
  · rw [Option.isSome_map]
    exact Option.isSome_of_eq_some hbuf

theorem isSome_atlasDataPlaneIdentity : (atlasDataPlaneIdentity host identity).isSome := by
  have hidentity := identity.length_le
  have hbuf :=
    bind_getBuf_addAll host [⟨CommandType.dataPlaneIdentity, identity.text, by omega⟩] (by
    simp only [Tlv.encodeAll_cons, Tlv.encodeAll_nil, List.length_append, Tlv.length_encode,
      List.length_nil]
    omega)
  rw [atlasDataPlaneIdentity, Option.isSome_map]
  exact Option.isSome_of_eq_some hbuf

theorem performs_send (r : Reading) {outputs : Option (List Output)} (h : outputs.isSome) :
    Performs [] r (r.send outputs) := by
  obtain ⟨outputs, rfl⟩ := Option.isSome_iff_exists.mp h
  exact .of_copies rfl fun _ => rfl

theorem performs_readCommand (r : Reading) {rec : Tlv.Record} (h : rec.value.length ≤ 2048)
    (post : List UInt8) :
    Performs (recordFields rec) r (readCommand host identity r (seen rec post)) := by
  have htype : (seen rec post).cmd.type = rec.tag := rfl
  simp only [readCommand, htype, recordFields]
  split_ifs
  · exact performs_parsePolicy host r rec
  · exact performs_copyField host _ r rec post
  · exact performs_copyField host _ r rec post
  -- the other commands copy nothing; what they send fits in a batch
  · refine performs_send r ?_
    rw [atlasFeatureReputationHandle, Option.isSome_map]
    exact isSome_forward host identity _ h
  · refine performs_send r ?_
    rw [atlasFeatureFeedbackHandle, Option.isSome_map]
    exact isSome_forward host identity _ h
  · exact performs_send r (isSome_atlasDataPlaneIdentity host identity)
  · exact .pure r

/-- Every copy lies inside the value of its command, and a variable only changes to the value of
such a copy. -/
structure Inside (s : DataPlane) (r : Reading) : Prop where
  copies : ∀ copy ∈ r.copies, 2 ≤ copy.cmd.val.length
  vars : ∀ field, r.vars.get field ≠ s.get field →
    ∃ copy ∈ r.copies, copy.field = field ∧ 2 ≤ copy.cmd.val.length ∧
      copy.value = r.vars.get field

/-- After the copies of these fields, the lengths of their records decide. -/
theorem Reads.inside_iff {fields : List (Field × Tlv.Record)} {s : DataPlane} {r : Reading}
    (h : Reads fields ⟨s, [], []⟩ r) : r.Inside s ↔ LongEnough fields := by
  obtain ⟨copies, hcopies, hmap⟩ := h.copies
  rw [List.nil_append] at hcopies
  have hlong : (∀ copy ∈ r.copies, 2 ≤ copy.cmd.val.length) ↔ LongEnough fields := by
    calc (∀ copy ∈ r.copies, 2 ≤ copy.cmd.val.length)
        ↔ ∀ p ∈ copies.map (fun copy => (copy.field, copy.cmd)), 2 ≤ p.2.val.length := by
          rw [hcopies, List.forall_mem_map]
      _ ↔ LongEnough fields := by
          rw [hmap, List.forall_mem_map]
          rfl
  refine ⟨fun hinside => hlong.mp hinside.copies, fun hfields => ⟨hlong.mpr hfields, ?_⟩⟩
  intro field hne
  obtain ⟨copy, hmem, hfield, hvalue⟩ := (h.vars field).resolve_left hne
  exact ⟨copy, hmem, hfield, hlong.mpr hfields copy hmem, hvalue⟩

end Reading

namespace DataPlane

variable (identity : Identity) (s : DataPlane) {buf : List UInt8}

theorem performs_readCb (h₁ : 1 ≤ buf.length) (h₂ : buf.length ≤ 2048) :
    Reading.Performs (messageFields buf) ⟨s, [], []⟩ (s.readCb host identity buf) := by
  have hbatch := Reading.performs_batch host h₁ (Nat.le_trans h₂ (by decide))
    (fun rec hmem post r => Reading.performs_readCommand host identity r
      (Nat.le_trans (Tlv.length_value_le_of_mem_parse hmem) h₂) post)
    Reading.Performs.pure ⟨s, [], []⟩
  simp only [Option.bind_fun_some] at hbatch
  exact hbatch

/-- A message is read without a copy from outside the value of a record exactly when every record of
a field, in the message or in a policy in it, has two bytes or more. -/
theorem readCb_inside_iff (h₁ : 1 ≤ buf.length) (h₂ : buf.length ≤ 2048) :
    (∃ r, s.readCb host identity buf = some r ∧ r.Inside s) ↔ LongEnough (messageFields buf) := by
  have hperforms := performs_readCb host identity s h₁ h₂
  constructor
  · rintro ⟨r, hr, hinside⟩
    exact (hperforms.reads r hr).inside_iff.mp hinside
  · intro hlong
    obtain ⟨r, hr⟩ := Option.isSome_iff_exists.mp (hperforms.isSome hlong)
    exact ⟨r, hr, (hperforms.reads r hr).inside_iff.mpr hlong⟩

/-- A message with a count and a policy with a QoS. -/
theorem readCb_inside_count_and_qos :
    ∃ r, DataPlane.readCb .little ⟨[], Nat.zero_le 64⟩ ⟨⟨0, 0, 0, false⟩, 0, 0⟩
        [3, 233, 0, 2, 7, 0, 3, 232, 0, 6, 4, 76, 0, 2, 1, 0] = some r ∧
      r.Inside ⟨⟨0, 0, 0, false⟩, 0, 0⟩ :=
  (readCb_inside_iff .little ⟨[], Nat.zero_le 64⟩ ⟨⟨0, 0, 0, false⟩, 0, 0⟩ (by decide)
    (by decide)).mpr (by decide)

/-- An empty count in front of an average is filled with the type of the average, and a count of one
byte at the end of a message is read behind the block. -/
theorem readCb_not_inside_short_count :
    (¬ ∃ r, DataPlane.readCb .little ⟨[], Nat.zero_le 64⟩ ⟨⟨0, 0, 0, false⟩, 0, 0⟩
        [3, 233, 0, 0, 3, 234, 0, 2, 9, 0] = some r ∧ r.Inside ⟨⟨0, 0, 0, false⟩, 0, 0⟩) ∧
    (DataPlane.readCb .little ⟨[], Nat.zero_le 64⟩ ⟨⟨0, 0, 0, false⟩, 0, 0⟩
        [3, 233, 0, 0, 3, 234, 0, 2, 9, 0]).map (·.vars.packetsPerMin) = some 59907 ∧
    DataPlane.readCb .little ⟨[], Nat.zero_le 64⟩ ⟨⟨0, 0, 0, false⟩, 0, 0⟩ [3, 233, 0, 1, 7] =
      none := by
  refine ⟨?_, by decide, by decide⟩
  rintro ⟨r, hr, hinside⟩
  have hcopies : (DataPlane.readCb .little ⟨[], Nat.zero_le 64⟩ ⟨⟨0, 0, 0, false⟩, 0, 0⟩
      [3, 233, 0, 0, 3, 234, 0, 2, 9, 0]).map (·.copies.any (·.cmd.val.length < 2)) =
        some true := by
    decide
  rw [hr, Option.map_some, Option.some_inj, List.any_eq_true] at hcopies
  obtain ⟨copy, hmem, hshort⟩ := hcopies
  exact absurd (hinside.copies copy hmem) (Nat.not_le.mpr (of_decide_eq_true hshort))

end DataPlane

/-! ## Messages of one record -/

theorem length_encodeAll_single {record : Tlv.Record} (h : record.value.length ≤ 65531) :
    (Tlv.encodeAll [record]).length ≤ 65535 := by
  simp only [Tlv.encodeAll_cons, Tlv.encodeAll_nil, List.append_nil, Tlv.length_encode]
  omega

/-- A message of one record is read by the loop of the connector. -/
theorem readCb_single (identity : Identity) (s : DataPlane) {record : Tlv.Record}
    (h : record.value.length ≤ 65531) :
    s.readCb host identity (Tlv.encodeAll [record]) =
      Reading.readCommand host identity ⟨s, [], []⟩ (seen record []) := by
  have hwalk := walkWith_encodeAll host (viewCommand_hostRecord host) (List.cons_ne_nil record [])
    (length_encodeAll_single h)
  rw [DataPlane.readCb, atlasCmdBatchSetRaw_eq host _ (length_encodeAll_pos (List.cons_ne_nil _ _))
    (length_encodeAll_single h), if_pos (Tlv.rest_eq_nil_iff.mpr ⟨_, rfl⟩), Option.bind_some]
  simp only [ne_eq, not_true_eq_false, if_false, hwalk, Option.bind_some, visited, List.foldlM_cons,
    List.foldlM_nil, Tlv.encodeAll_nil]
  exact bind_pure _

end Atlas.Client
