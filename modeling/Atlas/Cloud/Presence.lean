import Atlas.Cloud.Services
import Atlas.Gateway.Json
import Atlas.Lib.Json
import Atlas.Lib.Lists

/-! # Gateways and clients as the cloud shows them

The document of a gateway says whether the gateway is registered and what it told about itself and
about its clients. It is changed by the messages of the gateway, which come as JSON texts, and by
the keep-alive task. Java strings are kept as the bytes they were sent in. The commands of the
clients are the subject of `Atlas.Cloud.Services`, whose document of the gateway has no more than
the identities of its clients; `Atlas.Mirror.Commands` runs both side by side.

The texts are read by Spring's `JSONObject` and by Jackson's `ObjectMapper`, which are not part of
the program. A `Reader` has what they return, with what is assumed of it.

Reference: `AtlasGatewayServiceImpl.java`, `AtlasClient.java`, `AtlasGatewayInfo.java`,
`AtlasGatewayCommandType.java`.
-/

namespace Atlas.Cloud.Presence

open Json
open Gateway (StdString bytes)

/-! ## Documents -/

/-- The properties `AtlasClient.updateInfo` copies, in its order. -/
def infoKeys : List StdString :=
  [bytes "registered", bytes "lastRegisterTime", bytes "lastKeepAliveTime", bytes "ipPort",
    bytes "sysinfoLoad1", bytes "sysinfoLoad5", bytes "sysinfoLoad15", bytes "sysinfoFreehigh",
    bytes "sysinfoTotalhigh", bytes "sysinfoFreeswap", bytes "sysinfoBufferram", bytes "kernelInfo",
    bytes "sysinfoProcs", bytes "sysinfoUptime", bytes "hostname", bytes "sysinfoFreeram",
    bytes "sysinfoTotalswap", bytes "sysinfoTotalram", bytes "sysinfoSharedram",
    bytes "packetsPerMinute", bytes "packetsAvgLength", bytes "firewallRuleDroppedPkts",
    bytes "firewallRulePassedPkts", bytes "firewallTxDroppedPkts", bytes "firewallTxPassedPkts",
    bytes "pubSubClientId", bytes "firewallPolicyQos", bytes "firewallPolicyPpm",
    bytes "firewallPolicyPayloadLen", bytes "systemReputation", bytes "temperatureReputation"]

/-- `AtlasClient`: its identity, its alias, and the properties of `updateInfo`. -/
structure AtlasClient where
  identity : Option StdString := none
  clientAlias : Option StdString := none
  info : StdString → Option StdString := fun _ => none

/-- The document of a gateway; `owner` is the field of the gateway information. -/
structure AtlasGateway where
  registered : Bool
  keepaliveCounter : Int32
  owner : Option StdString
  clients : StdString → Option AtlasClient

namespace AtlasClient

/-- The properties a client is read from. -/
def properties : List StdString := bytes "identity" :: bytes "alias" :: infoKeys

/-- The setter of a property. -/
def set (client : AtlasClient) (property : StdString × StdString) : AtlasClient :=
  if property.1 = bytes "identity" then { client with identity := some property.2 }
  else if property.1 = bytes "alias" then { client with clientAlias := some property.2 }
  else { client with info := Function.update client.info property.1 (some property.2) }

/-- `setRegistered`. -/
def setRegistered (registered : StdString) (client : AtlasClient) : AtlasClient :=
  { client with info := Function.update client.info (bytes "registered") (some registered) }

/-- `updateInfo`: what is not null is copied. -/
def updateInfo (client clientInfo : AtlasClient) : AtlasClient :=
  { client with info := fun key =>
      if infoKeys.contains key then
        (clientInfo.info key).or (client.info key) else client.info key }

end AtlasClient

/-! ## Messages of the gateway -/

/-- `ATLAS_CMD_GATEWAY_INFO_UPDATE`. -/
def infoUpdateType : String := "ATLAS_CMD_GATEWAY_INFO_UPDATE"

/-- `ATLAS_CMD_GATEWAY_CLIENT_INFO_UPDATE`. -/
def clientInfoUpdateType : String := "ATLAS_CMD_GATEWAY_CLIENT_INFO_UPDATE"

/-- `ATLAS_CMD_GATEWAY_REGISTER`. -/
def registerType : String := "ATLAS_CMD_GATEWAY_REGISTER"

/-- `ATLAS_CMD_GATEWAY_KEEPALIVE`. -/
def keepaliveType : String := "ATLAS_CMD_GATEWAY_KEEPALIVE"

/-- The command types of the messages modelled here. -/
def commandTypes : List String :=
  [infoUpdateType, clientInfoUpdateType, registerType, keepaliveType]

/-- `ATLAS_CMD_TYPE_FIELDNAME`. -/
def typeField : StdString := bytes "commandType"

/-- `ATLAS_CMD_PAYLOAD_FIELDNAME`. -/
def payloadField : StdString := bytes "commandPayload"

/-- What the cloud reads messages with: its configuration, the string of some bytes,
`JSONObject.getString` on the object of a text, and `ObjectMapper.readValue`, for a client and for
the owner in the information about a gateway. -/
structure Reader where
  cfg : Config
  decode : StdString → String
  getString : StdString → StdString → Option StdString
  readClient : StdString → Option AtlasClient
  readGatewayInfo : StdString → Option (Option StdString)
  decode_bytes : ∀ s, decode (bytes s) = s
  decode_ne : ∀ s, s ≠ [] → decode s ≠ ""
  /-- The command types differ in more than the case of their letters. -/
  eq_of_equalsIgnoreCase : ∀ s ∈ commandTypes, ∀ t ∈ commandTypes,
    equalsIgnoreCase cfg.charCase s (some t) = true → s = t
  /-- The command type is returned as it stands in the text. -/
  getString_type : ∀ text ms s, parse text = some (.object ms) → (ms.map Prod.fst).Nodup →
    (typeField, .string s) ∈ ms → getString text typeField = some s
  /-- An object with properties of a client is returned as a text that is read as the client. -/
  readClient_payload : ∀ text ms fields, parse text = some (.object ms) → (ms.map Prod.fst).Nodup →
    (payloadField, .object (members fields)) ∈ ms → (fields.map Prod.fst).Nodup →
    (∀ f ∈ fields, f.1 ∈ AtlasClient.properties) →
    (getString text payloadField).bind readClient = some (fields.foldl AtlasClient.set {})
  /-- An object with an owner is returned as a text that is read as the owner. -/
  readGatewayInfo_payload : ∀ text ms owner, parse text = some (.object ms) →
    (ms.map Prod.fst).Nodup → (payloadField, .object (members [(bytes "owner", owner)])) ∈ ms →
    (getString text payloadField).bind readGatewayInfo = some (some owner)

/-- A message of the gateway that was read. -/
inductive Command where
  | infoUpdate (owner : Option StdString)
  | clientInfoUpdate (clientInfo : AtlasClient)
  | register
  | keepalive

namespace Reader

variable (reader : Reader)

/-- The configured value of the keep-alive counter. -/
def counter : Int32 := reader.cfg.keepaliveCounter

/-- What `messageReceived` reads of a text. -/
def read (payload : StdString) : Option Command :=
  (reader.getString payload typeField).bind fun cmdType =>
    let isType (type : String) :=
      equalsIgnoreCase reader.cfg.charCase (reader.decode cmdType) (some type)
    let cmdPayload := reader.getString payload payloadField
    if isType infoUpdateType then (cmdPayload.bind reader.readGatewayInfo).map .infoUpdate
    else if isType clientInfoUpdateType then
      (cmdPayload.bind reader.readClient).map .clientInfoUpdate
    else if isType registerType then some .register
    else if isType keepaliveType then some .keepalive
    else none

/-- A command type is taken for itself only. -/
theorem equalsIgnoreCase_decode {s t : String} (hs : s ∈ commandTypes) (ht : t ∈ commandTypes) :
    equalsIgnoreCase reader.cfg.charCase (reader.decode (bytes s)) (some t) = decide (s = t) := by
  rw [reader.decode_bytes]
  by_cases heq : s = t
  · subst heq
    rw [decide_eq_true rfl]
    exact equalsIgnoreCase_self _ s
  · rw [decide_eq_false heq]
    exact Bool.eq_false_iff.mpr fun h => heq (reader.eq_of_equalsIgnoreCase s hs t ht h)

variable {reader} {text : StdString} {ms : List (StdString × Value)}

/-- A text with one of the command types. -/
theorem read_of_type (hparse : parse text = some (.object ms)) (hkeys : (ms.map Prod.fst).Nodup)
    {type : String} (htype : type ∈ commandTypes) (hmem : (typeField, .string (bytes type)) ∈ ms) :
    reader.read text =
      if type = infoUpdateType then
        ((reader.getString text payloadField).bind reader.readGatewayInfo).map .infoUpdate
      else if type = clientInfoUpdateType then
        ((reader.getString text payloadField).bind reader.readClient).map .clientInfoUpdate
      else if type = registerType then some .register
      else if type = keepaliveType then some .keepalive
      else none := by
  rw [read, reader.getString_type text ms _ hparse hkeys hmem, Option.bind_some]
  simp only [reader.equalsIgnoreCase_decode htype (t := infoUpdateType) (by decide),
    reader.equalsIgnoreCase_decode htype (t := clientInfoUpdateType) (by decide),
    reader.equalsIgnoreCase_decode htype (t := registerType) (by decide),
    reader.equalsIgnoreCase_decode htype (t := keepaliveType) (by decide), decide_eq_true_eq]

end Reader

namespace AtlasGateway

/-- `updateGatewayCommand`. -/
def updateGatewayCommand (owner : Option StdString) (gateway : AtlasGateway) : AtlasGateway :=
  { gateway with owner := owner.or gateway.owner }

/-- The document with this client. -/
def putClient (identity : StdString) (client : AtlasClient) (gateway : AtlasGateway) :
    AtlasGateway :=
  { gateway with clients := Function.update gateway.clients identity (some client) }

/-- `updateClientCommand`. A client without an identity cannot be stored. -/
def updateClientCommand (clientInfo : AtlasClient) (gateway : AtlasGateway) : AtlasGateway :=
  match clientInfo.identity with
  | none => gateway
  | some identity =>
    match gateway.clients identity with
    | none => gateway.putClient identity { clientInfo with clientAlias := some identity }
    | some client => gateway.putClient identity (client.updateInfo clientInfo)

/-- Marks all clients as offline. -/
def clientsOffline (gateway : AtlasGateway) : AtlasGateway :=
  { gateway with clients := fun identity =>
      (gateway.clients identity).map (·.setRegistered (bytes "false")) }

/-- `keepaliveNow`. -/
def keepaliveNow (counter : Int32) (gateway : AtlasGateway) : AtlasGateway :=
  { gateway with keepaliveCounter := counter }

/-- `registerNow`. -/
def registerNow (counter : Int32) (gateway : AtlasGateway) : AtlasGateway :=
  { gateway with registered := true, keepaliveCounter := counter }.clientsOffline.keepaliveNow
    counter

/-- What a message does. -/
def handle (counter : Int32) (gateway : AtlasGateway) : Command → AtlasGateway
  | .infoUpdate owner => gateway.updateGatewayCommand owner
  | .clientInfoUpdate clientInfo => gateway.updateClientCommand clientInfo
  | .register => gateway.registerNow counter
  | .keepalive => gateway.keepaliveNow counter

/-- `messageReceived`, for a message on the topic of this gateway. -/
def messageReceived (reader : Reader) (payload : StdString) (gateway : AtlasGateway) :
    AtlasGateway :=
  match reader.read payload with
  | none => gateway
  | some command => gateway.handle reader.counter command

/-! ## The keep-alive task -/

/-- `initGateway`, up to the subscription and the request for a registration it sends. -/
def initGateway (gateway : AtlasGateway) : AtlasGateway :=
  { gateway with registered := false }.clientsOffline

/-- Whether `keepaliveTask` calls `initGateway`. -/
def inits (shouldSubscribe : Bool) (gateway : AtlasGateway) : Bool :=
  shouldSubscribe || gateway.keepaliveCounter = 0

/-- What `keepaliveTask` does to a gateway: `initGateway` or `decrementKeepalive`. -/
def keepaliveTask (shouldSubscribe : Bool) (gateway : AtlasGateway) : AtlasGateway :=
  if gateway.inits shouldSubscribe then gateway.initGateway
  else { gateway with keepaliveCounter := gateway.keepaliveCounter - 1 }

end AtlasGateway

/-! ## A sample -/

/-- The string of valid UTF-8. -/
def sampleDecode (s : StdString) : String := (String.fromUTF8? ⟨s.toArray⟩).getD "?"

theorem sampleDecode_bytes (s : String) : sampleDecode (bytes s) = s := by
  have hvalid : (⟨(bytes s).toArray⟩ : ByteArray).IsValidUTF8 := s.isValidUTF8
  rw [sampleDecode, String.fromUTF8?, dif_pos hvalid]
  rfl

theorem sampleDecode_ne {s : StdString} (h : s ≠ []) : sampleDecode s ≠ "" := by
  rw [sampleDecode, String.fromUTF8?]
  split
  case isTrue hvalid =>
    intro hempty
    have hbytes : (⟨s.toArray⟩ : ByteArray) = "".toByteArray := congrArg String.toByteArray hempty
    exact h (congrArg (fun b : ByteArray => b.data.toList) hbytes)
  case isFalse => decide

/-- The value of a key in the object of a text. -/
def sampleValue (text key : StdString) : Option Value :=
  match parse text with
  | some (.object ms) => (ms.find? (·.1 = key)).map (·.2)
  | _ => none

theorem sampleValue_of_mem {text : StdString} {ms : List (StdString × Value)} {key : StdString}
    {value : Value} (hparse : parse text = some (.object ms)) (hkeys : (ms.map Prod.fst).Nodup)
    (hmem : (key, value) ∈ ms) : sampleValue text key = some value := by
  have hfind : ms.find? (·.1 = key) = some (key, value) := by
    simpa using List.find?_key_of_nodup hkeys hmem fun _ => true
  simp only [sampleValue, hparse, hfind, Option.map_some]

/-- A string; an object stands for its text. -/
def sampleGetString (text key : StdString) : Option StdString :=
  match sampleValue text key with
  | some (.string s) => some s
  | some (.object _) => some text
  | _ => none

/-- The properties in the payload of a text. -/
def sampleFields (text : StdString) : List (StdString × StdString) :=
  match sampleValue text payloadField with
  | some (.object ms) => ms.filterMap fun
      | (key, .string value) => some (key, value)
      | _ => none
  | _ => []

theorem sampleFields_of_mem {text : StdString} {ms : List (StdString × Value)}
    {fields : List (StdString × StdString)} (hparse : parse text = some (.object ms))
    (hkeys : (ms.map Prod.fst).Nodup) (hmem : (payloadField, .object (members fields)) ∈ ms) :
    sampleGetString text payloadField = some text ∧ sampleFields text = fields := by
  have hvalue := sampleValue_of_mem hparse hkeys hmem
  refine ⟨by rw [sampleGetString, hvalue], ?_⟩
  simp only [sampleFields, hvalue, members, List.filterMap_map, Function.comp_def]
  exact List.filterMap_some

/-- A cloud that reads the texts as they are. -/
def sampleReader : Reader where
  cfg := sampleConfig
  decode := sampleDecode
  getString := sampleGetString
  readClient text := some ((sampleFields text).foldl AtlasClient.set {})
  readGatewayInfo text := some (((sampleFields text).find? (·.1 = bytes "owner")).map (·.2))
  decode_bytes := sampleDecode_bytes
  decode_ne _ := sampleDecode_ne
  eq_of_equalsIgnoreCase := by decide
  getString_type text ms s hparse hkeys hmem := by
    rw [sampleGetString, sampleValue_of_mem hparse hkeys hmem]
  readClient_payload text ms fields hparse hkeys hmem _ _ := by
    obtain ⟨hget, hfields⟩ := sampleFields_of_mem hparse hkeys hmem
    rw [hget, Option.bind_some, hfields]
  readGatewayInfo_payload text ms owner hparse hkeys hmem := by
    obtain ⟨hget, hfields⟩ := sampleFields_of_mem hparse hkeys hmem
    rw [hget, Option.bind_some, hfields]
    rfl

end Atlas.Cloud.Presence
