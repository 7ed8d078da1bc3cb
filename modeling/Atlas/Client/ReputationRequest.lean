import Atlas.Client.CoapClient
import Atlas.Client.DataPlaneConnector

/-! # Questions of the application

The application asks its client for a device to take data from, and for the identity of the client.
It writes a message, blocks until a message arrives or five seconds have passed, and reads a name,
an error or an identity from what arrives first.

The connector answers a question for its identity at once. It puts the identity in front of a
question for a device and hands it on to the gateway. When the gateway has answered, or has failed
to, it writes every name of the answer to the application in a message of its own, or an error.

Reference: `data_plane/atlas_client.c` (`atlas_reputation_request`, `send_identity_command`),
`data_plane_connector/atlas_data_plane_connector.c` (`feature_reputation_callback`,
`atlas_data_plane_identity`).
-/

namespace Atlas.Client

open ByteOrder Gateway

/-- `ATLAS_CMD_DATA_PLANE_FEATURE_ERROR`. -/
def CommandType.dataPlaneFeatureError : UInt16 := 1506

/-- `atlas_status_t`, the values `atlas_reputation_request` and `send_identity_command` return when
they are given a place for the name. -/
inductive ReputationStatus where
  | ok
  | socketError
  | corruptedCommand
  | generalErr
deriving DecidableEq

variable (host : ByteOrder)

/-! ## The application -/

/-- The first half of `atlas_reputation_request`: the message that is written. -/
def reputationRequest (sensorType : UInt32) : Option (List UInt8) :=
  (atlasCmdBatchAddAll host atlasCmdBatchNew
    [⟨CommandType.dataPlaneFeatureReputation, 2,
      store16 host (htons host sensorType.toUInt16)⟩]).bind atlasCmdBatchGetBuf

/-- The loop of `atlas_reputation_request`: the first name or error decides. The name is copied to a
block of its own with a zero behind it. -/
def firstReply : List AtlasCommand → ReputationStatus × Option (List UInt8)
  | [] => (.ok, none)
  | cmd :: cmds =>
    if cmd.type = CommandType.dataPlaneFeatureReputation then (.ok, some (cmd.val ++ [0]))
    else if cmd.type = CommandType.dataPlaneFeatureError then (.generalErr, none)
    else firstReply cmds

/-- The message `send_identity_command` writes. -/
def identityRequest : Option (List UInt8) :=
  (atlasCmdBatchAddAll host atlasCmdBatchNew [⟨CommandType.dataPlaneGetIdentity, 0, []⟩]).bind
    atlasCmdBatchGetBuf

/-- The loop of `send_identity_command`: the first identity, with a zero behind it. -/
def firstIdentity : List AtlasCommand → ReputationStatus × Option (List UInt8)
  | [] => (.ok, none)
  | cmd :: cmds =>
    if cmd.type = CommandType.dataPlaneIdentity then (.ok, some (cmd.val ++ [0]))
    else firstIdentity cmds

/-- The second half of a question, for a message that arrived: the status and the name its loop
finds. What does not fit in the buffer is cut off. -/
def readReply (loop : List AtlasCommand → ReputationStatus × Option (List UInt8))
    (message : List UInt8) : Option (ReputationStatus × Option (List UInt8)) :=
  let buf := message.take 2048
  if buf = [] then some (.socketError, none)
  else (receivedCommands host buf).map fun
    | .error _ => (.corruptedCommand, none)
    | .ok cmds => loop cmds

/-- The second half of `atlas_reputation_request`. -/
def reputationReply : List UInt8 → Option (ReputationStatus × Option (List UInt8)) :=
  readReply host firstReply

/-- The second half of `send_identity_command`. -/
def identityReply : List UInt8 → Option (ReputationStatus × Option (List UInt8)) :=
  readReply host firstIdentity

/-! ## The connector -/

/-- A message with one command. -/
def singleCommand (type length : UInt16) (value : List UInt8) : Option (List UInt8) :=
  (atlasCmdBatchAddAll host atlasCmdBatchNew [⟨type, length, value⟩]).bind atlasCmdBatchGetBuf

/-- `atlas_reputation_resp_parse`: the messages that are written to the application. -/
def atlasReputationRespParse (buf : List UInt8) : Option (List (List UInt8)) :=
  if buf = [] ∨ UInt16.ofNat buf.length = 0 then some []
  else (receivedCommands host buf).bind fun
    | .error _ => some []
    | .ok cmds =>
      (cmds.filter (·.type = CommandType.dataPlaneFeatureReputation)).mapM fun cmd =>
        singleCommand host CommandType.dataPlaneFeatureReputation cmd.len cmd.val

/-- `feature_reputation_callback`: the messages that are written to the application. -/
def featureReputationCallback (respStatus : AtlasCoapResponse) (respPayload : List UInt8) :
    Option (List (List UInt8)) :=
  if respStatus ≠ .ok then (singleCommand host CommandType.dataPlaneFeatureError 0 []).map ([·])
  else atlasReputationRespParse host respPayload

/-! ## What is written and read -/

/-- The record of a request. -/
def requestRecord (sensorType : UInt16) : Tlv.Record :=
  ⟨CommandType.dataPlaneFeatureReputation, be16 sensorType,
    Nat.lt_of_le_of_lt (Nat.le_of_eq (length_be16 sensorType)) (by decide)⟩

/-- The record of an error. -/
def errorRecord : Tlv.Record := ⟨CommandType.dataPlaneFeatureError, [], by decide⟩

/-- The record of a question for the identity. -/
def getIdentityRecord : Tlv.Record := ⟨CommandType.dataPlaneGetIdentity, [], by decide⟩

/-- The record of an identity. -/
def identityRecord (identity : Identity) : Tlv.Record :=
  ⟨CommandType.dataPlaneIdentity, identity.text, Nat.lt_of_le_of_lt identity.length_le (by decide)⟩

/-- Messages with one record that fit in a batch. -/
theorem singleCommand_ofRecord (record : Tlv.Record) (h : record.value.length ≤ 65531) :
    singleCommand host record.tag record.len record.value = some (Tlv.encodeAll [record]) :=
  bind_getBuf_addAll host [record] (length_encodeAll_single h)

theorem receivedCommands_single {record : Tlv.Record} (h : record.value.length ≤ 65531) :
    receivedCommands host (Tlv.encodeAll [record]) = some (.ok [.ofRecord record]) := by
  rw [receivedCommands_eq host (length_encodeAll_pos (List.cons_ne_nil _ _))
    (length_encodeAll_single h), if_pos (Tlv.rest_eq_nil_iff.mpr ⟨_, rfl⟩), Tlv.parse_encodeAll]
  rfl

theorem reputationRequest_eq (sensorType : UInt32) :
    reputationRequest host sensorType =
      some (Tlv.encodeAll [requestRecord sensorType.toUInt16]) := by
  have hbytes := singleCommand_ofRecord host (requestRecord sensorType.toUInt16)
    (Nat.le_trans (Nat.le_of_eq (length_be16 _)) (by decide))
  rw [reputationRequest, store16_htons]
  exact hbytes

theorem identityRequest_eq : identityRequest host = some (Tlv.encodeAll [getIdentityRecord]) :=
  singleCommand_ofRecord host getIdentityRecord (by decide)

/-- The application reads a message of one record that fits in its buffer. -/
theorem readReply_single (loop : List AtlasCommand → ReputationStatus × Option (List UInt8))
    {record : Tlv.Record} (h : record.value.length ≤ 2044) :
    readReply host loop (Tlv.encodeAll [record]) = some (loop [.ofRecord record]) := by
  have hlength : (Tlv.encodeAll [record]).length ≤ 2048 := by
    simp only [Tlv.encodeAll_cons, Tlv.encodeAll_nil, List.append_nil, Tlv.length_encode]
    omega
  have hne := List.ne_nil_of_length_pos (length_encodeAll_pos (List.cons_ne_nil record []))
  simp only [readReply, List.take_of_length_le hlength, if_neg hne,
    receivedCommands_single host (Nat.le_trans h (by decide)), Option.map_some]

/-- A name is handed on as it came. -/
theorem featureReputationCallback_ok {record : Tlv.Record}
    (htag : record.tag = CommandType.dataPlaneFeatureReputation) (h : record.value.length ≤ 65531) :
    featureReputationCallback host .ok (Tlv.encodeAll [record]) =
      some [Tlv.encodeAll [record]] := by
  have hbuf := not_empty_buf (length_encodeAll_pos (List.cons_ne_nil record []))
    (length_encodeAll_single h)
  have hsent := singleCommand_ofRecord host record h
  rw [htag] at hsent
  rw [featureReputationCallback, if_neg (by decide), atlasReputationRespParse, if_neg hbuf,
    receivedCommands_single host h]
  simp only [Option.bind_some, List.filter_cons, List.filter_nil, AtlasCommand.ofRecord, htag,
    decide_true, if_true, List.mapM_cons, List.mapM_nil, hsent]
  rfl

theorem featureReputationCallback_error {respStatus : AtlasCoapResponse} (h : respStatus ≠ .ok)
    (respPayload : List UInt8) :
    featureReputationCallback host respStatus respPayload = some [Tlv.encodeAll [errorRecord]] := by
  rw [featureReputationCallback, if_pos h]
  exact congrArg _ (singleCommand_ofRecord host errorRecord (by decide))

/-- The records of a request that is handed on to the gateway. -/
def forwardedRecords (identity : Identity) (sensorType : UInt16) : List Tlv.Record :=
  [⟨CommandType.identity, identity.text, Nat.lt_of_le_of_lt identity.length_le (by decide)⟩,
    requestRecord sensorType]

theorem length_forwardedRecords_le (identity : Identity) (sensorType : UInt16) :
    (Tlv.encodeAll (forwardedRecords identity sensorType)).length ≤ 74 := by
  have := identity.length_le
  simp only [forwardedRecords, requestRecord, Tlv.encodeAll_cons, Tlv.encodeAll_nil,
    List.append_nil, List.length_append, Tlv.length_encode, length_be16]
  omega

/-- The connector hands a request on, with the identity of the client. -/
theorem readCb_reputationRequest (identity : Identity) (s : DataPlane) (sensorType : UInt16) :
    s.readCb host identity (Tlv.encodeAll [requestRecord sensorType]) =
      some ⟨s, [], [.feature (Tlv.encodeAll (forwardedRecords identity sensorType))]⟩ := by
  have hvalue : (requestRecord sensorType).value.length = 2 := length_be16 sensorType
  have hbuf := bind_getBuf_addAll host (forwardedRecords identity sensorType)
    (Nat.le_trans (length_forwardedRecords_le identity sensorType) (by decide))
  have hne : ¬ ((requestRecord sensorType).value = [] ∨ (requestRecord sensorType).len = 0) :=
    not_empty_buf (by omega) (by omega)
  have hforward :
      Reading.atlasFeatureReputationHandle host identity (requestRecord sensorType).value
      (requestRecord sensorType).len =
        some [.feature (Tlv.encodeAll (forwardedRecords identity sensorType))] := by
    rw [Reading.atlasFeatureReputationHandle, Reading.forward, if_neg hne]
    exact congrArg (Option.map _) (congrArg (Option.map _) hbuf)
  rw [readCb_single host identity s (by omega)]
  exact congrArg (Reading.send ⟨s, [], []⟩) hforward

/-- The connector answers with its identity. -/
theorem readCb_identityRequest (identity : Identity) (s : DataPlane) :
    s.readCb host identity (Tlv.encodeAll [getIdentityRecord]) =
      some ⟨s, [], [.identity (Tlv.encodeAll [identityRecord identity])]⟩ := by
  have hbuf := singleCommand_ofRecord host (identityRecord identity)
    (Nat.le_trans identity.length_le (by decide))
  have hidentity : Reading.atlasDataPlaneIdentity host identity =
      some [.identity (Tlv.encodeAll [identityRecord identity])] := congrArg (Option.map _) hbuf
  rw [readCb_single host identity s (by decide)]
  exact congrArg (Reading.send ⟨s, [], []⟩) hidentity

end Atlas.Client
