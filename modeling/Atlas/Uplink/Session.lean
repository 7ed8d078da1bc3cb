import Atlas.Uplink.Connection

/-! # The gateway towards the cloud

What the gateway keeps of the cloud is spread over the MQTT client, the registration, the command
parser and the sync of the devices. This module puts them together with the devices they report on:
an event is a request of a client, an alarm, counters from the broker plug-in, a new reputation
score, a claim, or an event of the connection, and its outputs are the messages handed to MQTT.

A message is published if the client is connected and the library accepts it, which each event says
for its publications in their order. The commands for clients are the subject of `Atlas.Gateway`.

Reference: `cloud/AtlasRegisterCloud.cpp`, `cloud/AtlasCloudCmdParser.cpp`,
`cloud/AtlasDeviceCloud.cpp`, `mqtt_client/AtlasMqttClient_callback.cpp`,
`device/AtlasDeviceManager.cpp`, `device/AtlasGateway.cpp`, `AtlasMain.cpp`.
-/

namespace Atlas.Uplink

open EventMachine
open Gateway (StdString bytes)
open Firewall (AtlasFirewallStats)
open Devices

/-! ## Messages -/

/-- A command without a payload. -/
def commandMessage (type : StdString) : StdString :=
  bytes "\x7b\n" ++ jsonField (bytes "commandType") type ++ bytes "\n\x7d"

/-- The text of `sendRegisterCmd`. -/
def registerMessage : StdString := commandMessage (bytes "ATLAS_CMD_GATEWAY_REGISTER")

/-- The text of `sendKeepaliveCmd`. -/
def keepaliveMessage : StdString := commandMessage (bytes "ATLAS_CMD_GATEWAY_KEEPALIVE")

/-- `AtlasGateway::ownerToJSON`. -/
def ownerToJSON (ownerIdentity : StdString) : StdString := jsonField (bytes "owner") ownerIdentity

/-! ## The state -/

/-- What the gateway finds and does not change: the byte order of its host, and the command type
that jsoncpp reads in a text of the cloud, nothing if it throws. -/
structure Setup where
  host : ByteOrder
  commandType : StdString → Option StdString

/-- The printed reputation scores of the devices. -/
structure Scores where
  system : StdString → StdString
  temperature : StdString → StdString

/-- The parts of the gateway that deal with the cloud: the MQTT client, the flag of the
registration, the flag of the command parser, the sync, the devices with their scores, and the
owner. -/
structure Session where
  client : AtlasMqttClient
  registered : Bool
  connected : Bool
  sync : CloudSync
  manager : AtlasDeviceManager
  scores : Scores
  ownerIdentity : StdString

/-- The reputation networks whose score is sent to the cloud. -/
inductive AtlasDeviceNetworkType where
  | system
  | sensorTemperature
deriving DecidableEq

/-- The key of a score. -/
def AtlasDeviceNetworkType.key : AtlasDeviceNetworkType → StdString
  | .system => bytes "systemReputation"
  | .sensorTemperature => bytes "temperatureReputation"

/-- The scores with a new one. -/
def Scores.set (netType : AtlasDeviceNetworkType) (identity score : StdString) (scores : Scores) :
    Scores :=
  match netType with
  | .system => { scores with system := Function.update scores.system identity score }
  | .sensorTemperature =>
    { scores with temperature := Function.update scores.temperature identity score }

namespace Session

/-- What a handler finds outside, with the scores of the devices in memory; `env` has the scores a
device comes into memory with. -/
def envOf (env : Env) (s : Session) : Env :=
  let known identity := (s.manager.devices.find? identity).isSome
  { env with
    systemReputation := fun identity =>
      if known identity then s.scores.system identity else env.systemReputation identity
    temperatureReputation := fun identity =>
      if known identity then s.scores.temperature identity else env.temperatureReputation identity }

/-- The gateway after its start, with the owner of its database. -/
def start (accepted : Bool) (ownerIdentity : StdString) (scores : Scores) : Session where
  client := .initConnection accepted
  registered := false
  connected := false
  sync := .new
  manager := .init
  scores := scores
  ownerIdentity := ownerIdentity

/-! ## Publications -/

section Publications

variable (env : Env) (accepts : ℕ → Bool)

/-- What the `i`-th publication of an event meets. -/
def attempt (i : ℕ) (s : Session) : Attempt :=
  ⟨s.registered, s.client.tryPublishMessage (accepts i)⟩

/-- Calls of `updateDevice`, one after the other. -/
def updateDevices (updates : List Update) (s : Session) : Session × List CloudOutput :=
  let (sync, outputs) := s.sync.allDevicesUpdate
    (updates.mapIdx fun i update => ⟨update.identity, update.jsonInfo, s.attempt accepts i⟩)
  ({ s with sync := sync }, outputs)

/-- The calls of `allDevicesUpdate`. -/
def allUpdates (s : Session) : List Update :=
  (s.manager.forEachDevice env).map fun device => ⟨device.identity, device.toJSON env⟩

/-- `allDevicesUpdate`. -/
def allDevicesUpdate (s : Session) : Session × List CloudOutput :=
  s.updateDevices accepts (s.allUpdates (s.envOf env))

/-- `updateGateway` with the owner, as the `i`-th publication. -/
def updateGateway (i : ℕ) (s : Session) : Session × List CloudOutput :=
  let (sync, outputs) := s.sync.updateGateway (ownerToJSON s.ownerIdentity) (s.attempt accepts i)
  ({ s with sync := sync }, outputs)

/-- `AtlasRegisterCloud::sendRegisterCmd`. -/
def sendRegisterCmd (s : Session) : Session × List CloudOutput :=
  if s.client.tryPublishMessage (accepts 0) then
    let s := { s with registered := true }
    let (s, outputs) := s.allDevicesUpdate env fun i => accepts (i + 1)
    let (s, outputs') := s.updateGateway accepts (s.manager.devices.rows.length + 1)
    (s, .tryPublishMessage registerMessage true :: (outputs ++ outputs'))
  else (s, [.tryPublishMessage registerMessage false])

/-- `AtlasRegisterCloud::sendKeepaliveCmd`. -/
def sendKeepaliveCmd (s : Session) : Session × List CloudOutput :=
  (s, [.tryPublishMessage keepaliveMessage (s.client.tryPublishMessage (accepts 0))])

/-- `AtlasRegisterCloud::keepaliveAlarmCb`. -/
def keepaliveAlarmCb (s : Session) : Session × List CloudOutput :=
  if !s.registered then s.sendRegisterCmd env accepts else s.sendKeepaliveCmd accepts

/-- An expiry of the sync alarm. -/
def syncAlarmCallback (s : Session) : Session × List CloudOutput :=
  let updates := s.allUpdates (s.envOf env)
  let (sync, outputs) := s.sync.step (.tick
    (updates.mapIdx fun i update => ⟨update.identity, update.jsonInfo, s.attempt accepts i⟩)
    (ownerToJSON s.ownerIdentity) (s.attempt accepts updates.length))
  ({ s with sync := sync }, outputs)

/-! ## Commands of the cloud -/

/-- `AtlasCloudCmdParser::parseCmd`, up to the commands for clients. If jsoncpp throws, the
exception is not caught. -/
def parseCmd (setup : Setup) (cmd : StdString) (s : Session) : Option Session × List CloudOutput :=
  match setup.commandType cmd with
  | none => (none, [])
  | some type =>
    if type = bytes "ATLAS_CMD_GATEWAY_GET_ALL_DEVICES" then
      let (s, outputs) := s.allDevicesUpdate env accepts
      (some s, outputs)
    else if type = bytes "ATLAS_CMD_GATEWAY_REGISTER_REQUEST" then
      let (s, outputs) := s.sendRegisterCmd env accepts
      (some s, outputs)
    else (some s, [])

/-! ## Events of the connection -/

/-- `onConnect` of the registration and of the command parser, in the order they were added. -/
def onConnect (subscribes : Bool) (s : Session) : Session × List CloudOutput :=
  let (s, outputs) := if !s.registered then s.sendRegisterCmd env accepts else (s, [])
  ({ s with connected := s.connected || s.client.subscribeTopic subscribes }, outputs)

/-- `onDisconnect` of the registration and of the command parser. -/
def onDisconnect (s : Session) : Session := { s with registered := false, connected := false }

/-- A handler that a callback of the MQTT library has posted. -/
def handle (setup : Setup) (subscribes : Bool) (handler : Handler) (s : Session) :
    Option Session × List CloudOutput :=
  match handler with
  | .onConnect =>
    let (s, outputs) := s.onConnect env accepts subscribes
    (some s, outputs)
  | .onDisconnect => (some s.onDisconnect, [])
  | .parseCmd cmd => s.parseCmd env accepts setup cmd

/-- An event of the connection. -/
def connection (setup : Setup) (subscribes : Bool) (e : ConnectionEvent) (s : Session) :
    Option Session × List CloudOutput :=
  let (client, outputs) := s.client.step e
  let s := { s with client := client }
  match outputs with
  | [.runs handler] => s.handle env accepts setup subscribes handler
  | _ => (some s, [])

/-! ## Events of the devices -/

/-- A request of a client. -/
def request (setup : Setup) (resource : Resource) (pskIdentity : StdString)
    (reqPayload : List UInt8) (s : Session) : Option Session × List CloudOutput :=
  let env := s.envOf env
  match resource.callback setup.host env s.manager pskIdentity reqPayload with
  | .error _ => (none, [])
  | .ok handled =>
    let s := { s with
      manager := handled.manager
      scores := ⟨env.systemReputation, env.temperatureReputation⟩ }
    let (s, outputs) := s.updateDevices accepts handled.updates
    (some s, outputs)

/-- A tick of the keep-alive alarm of the devices. -/
def keepaliveAlarm (s : Session) : Session × List CloudOutput :=
  let (manager, _, updates) := s.manager.keepaliveAlarmCallback env
  { s with manager := manager }.updateDevices accepts updates

/-- `AtlasDeviceManager::updateFirewallStats`, up to the database. -/
def updateFirewallStats (clientId : StdString) (delta : AtlasFirewallStats) (s : Session) :
    Session × List CloudOutput :=
  let env := s.envOf env
  let scores : Scores := ⟨env.systemReputation, env.temperatureReputation⟩
  match s.manager.getDevice env clientId with
  | (manager, none) => ({ s with manager := manager, scores := scores }, [])
  | (manager, some device) =>
    let device := { device with stats := device.stats.add delta }
    let s := { s with manager := manager.setDevice device, scores := scores }
    -- `syncFirewallStatistics`
    s.updateDevices accepts (device.updates [jsonFields (statsFields device.stats)])

/-- A new score of a device in memory, with `syncReputation`. -/
def syncReputation (netType : AtlasDeviceNetworkType) (identity score : StdString) (s : Session) :
    Session × List CloudOutput :=
  match s.manager.devices.find? identity with
  | none => (s, [])
  | some device =>
    let s := { s with scores := s.scores.set netType identity score }
    s.updateDevices accepts (device.updates [jsonField netType.key score])

/-- `AtlasGateway::claimGateway`, when the database takes the owner. -/
def claimGateway (ownerIdentity : StdString) (s : Session) : Session × List CloudOutput :=
  { s with ownerIdentity := ownerIdentity }.updateGateway accepts 0

end Publications

end Session

/-! ## Events -/

inductive Event where
  | connection (subscribes : Bool) (e : ConnectionEvent)
  | request (resource : Resource) (pskIdentity : StdString) (reqPayload : List UInt8)
  | keepaliveAlarm
  | firewallStats (clientId : StdString) (delta : AtlasFirewallStats)
  | reputation (netType : AtlasDeviceNetworkType) (identity score : StdString)
  | claim (ownerIdentity : StdString)
  | cloudKeepalive
  | syncAlarm
  | start (accepted : Bool) (ownerIdentity : StdString) (scores : Scores)

/-- The handler makes the gateway try to register: it was not registered, or the cloud asks for
it. -/
def Session.registersOn (setup : Setup) (s : Session) : Handler → Bool
  | .onConnect => !s.registered
  | .onDisconnect => false
  | .parseCmd cmd => setup.commandType cmd = some (bytes "ATLAS_CMD_GATEWAY_REGISTER_REQUEST")

/-- The event makes the gateway try to register. -/
def Session.registers (setup : Setup) (s : Session) : Event → Bool
  | .connection _ .turn => s.client.posted.head?.any (s.registersOn setup)
  | .cloudKeepalive => !s.registered
  | _ => false

/-- What an event finds outside: the environment of the handlers, and which publications the MQTT
library accepts. -/
structure Outside where
  env : Env
  accepts : ℕ → Bool

/-- A session as a running gateway. -/
def running (r : Session × List CloudOutput) : Option Session × List CloudOutput := (some r.1, r.2)

/-- The gateway on an event. An exception that is not caught ends the process; a start ends the
process that runs, if there is one. -/
def step (setup : Setup) (outside : Outside) :
    Option Session → Event → Option Session × List CloudOutput
  | _, .start accepted ownerIdentity scores => (some (.start accepted ownerIdentity scores), [])
  | none, _ => (none, [])
  | some s, .connection subscribes e => s.connection outside.env outside.accepts setup subscribes e
  | some s, .request resource pskIdentity reqPayload =>
    s.request outside.env outside.accepts setup resource pskIdentity reqPayload
  | some s, .keepaliveAlarm => running (s.keepaliveAlarm outside.env outside.accepts)
  | some s, .firewallStats clientId delta =>
    running (s.updateFirewallStats outside.env outside.accepts clientId delta)
  | some s, .reputation netType identity score =>
    running (s.syncReputation outside.accepts netType identity score)
  | some s, .claim ownerIdentity => running (s.claimGateway outside.accepts ownerIdentity)
  | some s, .cloudKeepalive => running (s.keepaliveAlarmCb outside.env outside.accepts)
  | some s, .syncAlarm => running (s.syncAlarmCallback outside.env outside.accepts)

end Atlas.Uplink
