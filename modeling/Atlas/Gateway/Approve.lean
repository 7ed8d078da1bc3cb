import Atlas.Gateway.Device
import Atlas.Lib.EventMachine

/-! # The command protocol of the gateway

`AtlasApprove` receives commands from the cloud, keeps them in the database and in the device
queues, pushes them to the clients and reports ACK and DONE back. This module embeds its handlers
together with the device manager's look-up, the CoAP callback and the alarms, as one machine: `step`
handles one event under an `Env` that fixes the outcome of every database, MQTT and CoAP call the
handler makes.

Reading the front of an empty executed list is undefined in C++. Nothing is written through that
reference, so the model lets the read yield an arbitrary number (`Env.emptyFront`) and records every
such read, with the list it was made from, as `Effect.readExecuted`.

Reference: `claim_approve/AtlasApprove.cpp`, `device/AtlasDeviceManager.cpp`,
`device/AtlasDevice.cpp`, `register/AtlasRegister.cpp`.
-/

namespace Atlas.Gateway

/-- HMAC and base64, which the handlers take from OpenSSL and Boost. -/
structure Crypto where
  hmacSHA512 : List UInt8 → List UInt8 → List UInt8
  /-- `base64::decode`; `none` is an exception of the iterators. -/
  decode : StdString → Option (List UInt8)

/-- The outcome of every call a handler makes outside the gateway. No handler makes the same
database call twice, and the alarm publishes and sends at most once per device. -/
structure Env where
  selectDevicePsk : Bool
  checkDeviceCommandByIdentity : Bool
  selectDeviceCommand : Option ℕ
  insertDeviceCommand : InsertOutcome
  checkDeviceCommandBySeqNo : Bool
  checkDeviceCommandForExecution : Bool
  markExecutedDeviceCommand : Bool
  deleteDeviceCommand : Bool
  getMaxSequenceNumber : Bool
  publishAck : Bool
  publishDone : StdString → Bool
  sendFailure : StdString → Option SendFailure
  emptyFront : UInt32

/-- Every database call succeeds. -/
structure Env.SqlOk (env : Env) : Prop where
  selectDevicePsk : env.selectDevicePsk = true
  checkDeviceCommandByIdentity : env.checkDeviceCommandByIdentity = true
  selectDeviceCommand : env.selectDeviceCommand = none
  insertDeviceCommand : env.insertDeviceCommand = ⟨true, true, true⟩
  checkDeviceCommandBySeqNo : env.checkDeviceCommandBySeqNo = true
  checkDeviceCommandForExecution : env.checkDeviceCommandForExecution = true
  markExecutedDeviceCommand : env.markExecutedDeviceCommand = true
  deleteDeviceCommand : env.deleteDeviceCommand = true
  getMaxSequenceNumber : env.getMaxSequenceNumber = true

/-- The outcomes of a run in which every call succeeds. -/
def Env.ok : Env where
  selectDevicePsk := true
  checkDeviceCommandByIdentity := true
  selectDeviceCommand := none
  insertDeviceCommand := ⟨true, true, true⟩
  checkDeviceCommandBySeqNo := true
  checkDeviceCommandForExecution := true
  markExecutedDeviceCommand := true
  deleteDeviceCommand := true
  getMaxSequenceNumber := true
  publishAck := true
  publishDone := fun _ => true
  sendFailure := fun _ => none
  emptyFront := 0

theorem Env.ok_sqlOk : Env.ok.SqlOk := ⟨rfl, rfl, rfl, rfl, rfl, rfl, rfl, rfl, rfl⟩

/-- What a handler does that is visible outside the gateway's memory. -/
inductive Effect where
  /-- An ACK was handed to MQTT. -/
  | publishAck (sequenceNumber : UInt32) (delivered : Bool)
  /-- A DONE was handed to MQTT. -/
  | publishDone (identity : StdString) (sequenceNumber : UInt32) (delivered : Bool)
  /-- `responseCommandDONE` read the front of this executed list. -/
  | readExecuted (identity : StdString) (execCmds : List CommandDevice)
  /-- A row was inserted in `DeviceCommand`. -/
  | insertRow (row : DeviceCommandRow)
  /-- A command was appended to a device's received list. -/
  | appendRecv (cmd : CommandDevice)
  /-- A command request was handed to the CoAP client. -/
  | send (request : CoapRequest)
deriving DecidableEq

/-- The gateway: the database, the device manager, `AtlasApprove` and the command requests in the
CoAP client's table. -/
structure State where
  identity : StdString
  claimed : Bool
  ownerSecretKey : StdString
  db : Database
  devices : StdString → Option Device
  sequenceNumber : UInt32
  msgACKScheduled : Bool
  counterACK : UInt8
  statusACKAlarm : Bool
  requests : List CoapRequest

/-- The state a handler leaves, what it did on the way, and what it returns. -/
structure Handled (α : Type) where
  gateway : State
  effects : List Effect
  result : α

namespace State

/-- `devices_[identity] = d`. -/
def setDevice (identity : StdString) (d : Device) (g : State) : State :=
  { g with devices := Function.update g.devices identity (some d) }

/-- Changes a device in place. -/
def modifyDevice (identity : StdString) (f : Device → Device) (g : State) : State :=
  match g.devices identity with
  | none => g
  | some d => g.setDevice identity (f d)

/-- `AtlasDeviceManager::initDeviceCommands`. -/
def initDeviceCommands (env : Env) (db : Database) (d : Device) : Device :=
  if db.checkDeviceCommandByIdentity env.checkDeviceCommandByIdentity d.identity then
    (d.selectDeviceCommand env.selectDeviceCommand db).2
  else d

/-- `AtlasDeviceManager::getDevice`: a device that is not in memory is created when the database
knows its PSK. -/
def getDevice (env : Env) (identity : StdString) (g : State) : State × Option Device :=
  match g.devices identity with
  | some d => (g, some d)
  | none =>
    let psk := g.db.selectDevicePsk env.selectDevicePsk identity
    if psk = [] then (g, none)
    else
      let d := initDeviceCommands env g.db (Device.new identity psk)
      (g.setDevice identity d, some d)

/-- `ATLAS_STATUS_COMMAND_RETRY_NO`. -/
def atlasStatusCommandRetryNo : UInt8 := 3

/-- `AtlasApprove::responseCommandACK`: acknowledges `sequenceNumber_`. -/
def responseCommandACK (env : Env) (g : State) : Handled Bool :=
  let effects := [.publishAck g.sequenceNumber env.publishAck]
  if env.publishAck then ⟨g, effects, true⟩
  else
    let g := if g.msgACKScheduled then g
      else { g with statusACKAlarm := true, msgACKScheduled := true }
    let g := if g.counterACK = atlasStatusCommandRetryNo then
        { g with statusACKAlarm := false, msgACKScheduled := false, counterACK := 0 }
      else g
    ⟨{ g with counterACK := g.counterACK + 1 }, effects, false⟩

/-- `AtlasApprove::statusACKCallback`. -/
def statusACKCallback (env : Env) (g : State) : Handled Unit :=
  let r := responseCommandACK env g
  if r.result then
    ⟨{ r.gateway with statusACKAlarm := false, msgACKScheduled := false, counterACK := 0 },
      r.effects, ()⟩
  else ⟨r.gateway, r.effects, ()⟩

/-- `AtlasApprove::responseCommandDONE`: reports the front of the device's executed list. -/
def responseCommandDONE (env : Env) (deviceIdentity : StdString) (g : State) : Handled Bool :=
  match getDevice env deviceIdentity g with
  | (g, none) => ⟨g, [], false⟩
  | (g, some device) =>
    let sequenceNumber := match device.getExecutedCommand with
      | some cmd => cmd.sequenceNumber
      | none => env.emptyFront
    let delivered := env.publishDone deviceIdentity
    ⟨g, [.readExecuted deviceIdentity device.execCmds,
      .publishDone deviceIdentity sequenceNumber delivered], delivered⟩

/-- `AtlasDevice::pushCommand` on a device of the manager. -/
def pushCommand (env : Env) (identity : StdString) (g : State) :
    Handled (Except CppException Unit) :=
  match g.devices identity with
  | none => ⟨g, [], .ok ()⟩
  | some d =>
    match d.pushCommand (env.sendFailure identity) with
    | .error e => ⟨g, [], .error e⟩
    | .ok (d, requests) =>
      ⟨{ g with requests := g.requests ++ requests }.setDevice identity d,
        requests.map .send, .ok ()⟩

/-- `AtlasDevice::markCommandAsDone`. -/
def markCommandAsDone (env : Env) (identity : StdString) (g : State) : Handled Unit :=
  match g.devices identity with
  | none => ⟨g, [], ()⟩
  | some d =>
    match d.recvCmds with
    | [] => ⟨g, [], ()⟩
    | cmd :: _ =>
      match g.db.markExecutedDeviceCommand env.markExecutedDeviceCommand cmd.sequenceNumber with
      | (false, _) => ⟨g, [], ()⟩
      | (true, db) =>
        let g := { g with db := db }.setDevice identity (d.addExecDeviceCommand cmd)
        -- the command leaves the received list only after the DONE was attempted
        let r := responseCommandDONE env identity g
        ⟨r.gateway.modifyDevice identity fun d => { d with recvCmds := d.recvCmds.tail },
          r.effects, ()⟩

/-- `AtlasDevice::deviceCmdRespCallback`. -/
def deviceCmdRespCallback (env : Env) (identity : StdString) (respStatus : CoapResponse)
    (g : State) : Handled (Except CppException Unit) :=
  match g.devices identity with
  | none => ⟨g, [], .ok ()⟩
  | some d =>
    match d.recvCmds with
    | [] => ⟨g, [], .ok ()⟩
    | _ :: _ =>
      match respStatus with
      | .ok =>
        let r := markCommandAsDone env identity
          (g.setDevice identity { d with deviceCmdTimeouts := 0 })
        let p := pushCommand env identity r.gateway
        ⟨p.gateway, r.effects ++ p.effects, p.result⟩
      | .timeout =>
        let d := d.setFrontInProgress false
        if d.deviceCmdTimeouts = atlasPushCommandRetryNo then
          ⟨g.setDevice identity { d with deviceCmdTimeouts := 0 }, [], .ok ()⟩
        else
          pushCommand env identity
            (g.setDevice identity { d with deviceCmdTimeouts := d.deviceCmdTimeouts + 1 })
      | _ =>
        ⟨g.setDevice identity { d.setFrontInProgress false with deviceCmdTimeouts := 0 }, [],
          .ok ()⟩

/-- The byte string whose HMAC the owner signs: gateway, client, type, payload, number. -/
def signedPayload (identity : StdString) (p : CommandPayload) : Option StdString := do
  let clientIdentity ← p.clientIdentity.asString
  let type ← p.type.asString
  let payload ← p.payload.asString
  let seqNo ← p.seqNo.asString
  return identity ++ clientIdentity ++ type ++ payload ++ seqNo

/-- `AtlasApprove::validateCommandSignature`. -/
def validateCommandSignature (crypto : Crypto) (g : State) (p : CommandPayload) :
    Except CppException Bool :=
  match crypto.decode g.ownerSecretKey with
  | none => .error .dataflowException
  | some key =>
    match signedPayload g.identity p with
    | none => .error .jsonException
    | some payload =>
      -- only the decoding of the signature is inside the `try` block
      match p.signature.asString.bind crypto.decode with
      | none => .ok false
      | some commandSignature => .ok (crypto.hmacSHA512 key payload = commandSignature)

/-- The sanity and signature checks at the start of `handleClientCommand`: the client identity and
the command type of a payload that passes them. -/
def checkCommand (crypto : Crypto) (g : State) (p : CommandPayload) :
    Except CppException (Option (StdString × StdString)) :=
  match p.seqNo.asString with
  | none => .error .jsonException
  | some [] => .ok none
  | some (_ :: _) =>
    match p.clientIdentity.asString with
    | none => .error .jsonException
    | some [] => .ok none
    | some (c :: client) =>
      match p.type.asString with
      | none => .error .jsonException
      | some [] => .ok none
      | some (t :: type) =>
        if g.claimed then
          match validateCommandSignature crypto g p with
          | .error e => .error e
          | .ok false => .ok none
          | .ok true => .ok (some (c :: client, t :: type))
        else .ok (some (c :: client, t :: type))

/-- `AtlasApprove::handleOldCommand`, for a payload that passed the checks. -/
def handleOldCommand (env : Env) (seqNo : UInt32) (clientIdentity : StdString) (g : State) :
    Handled Bool :=
  if g.db.checkDeviceCommandBySeqNo env.checkDeviceCommandBySeqNo seqNo then
    let g := { g with sequenceNumber := seqNo }
    if g.db.checkDeviceCommandForExecution env.checkDeviceCommandForExecution seqNo then
      responseCommandDONE env clientIdentity g
    else responseCommandACK env g
  else ⟨g, [], false⟩

/-- `AtlasApprove::handleClientCommand` from the device look-up on: a command with a new number is
stored, queued, acknowledged and pushed. -/
def acceptCommand (env : Env) (seqNo : UInt32) (clientIdentity type : StdString)
    (payload : JsonValue) (g : State) : Handled (Except CppException Bool) :=
  match getDevice env clientIdentity g with
  | (g, none) => ⟨g, [], .ok false⟩
  | (g, some device) =>
    match payload.asString with
    | none => ⟨g, [], .error .jsonException⟩
    | some payload =>
      let inserted := (g.db.insertedRow env.insertDeviceCommand seqNo type payload
        clientIdentity).toList.map .insertRow
      match g.db.insertDeviceCommand env.insertDeviceCommand seqNo type payload
          clientIdentity with
      | (false, db) => ⟨{ g with db := db }, inserted, .ok false⟩
      | (true, db) =>
        let cmd := CommandDevice.new clientIdentity seqNo type payload
        let g := { g with db := db, sequenceNumber := seqNo }.setDevice clientIdentity
          (device.addRecvDeviceCommand cmd)
        let r := responseCommandACK env g
        if r.result then
          let p := pushCommand env clientIdentity r.gateway
          ⟨p.gateway, inserted ++ [.appendRecv cmd] ++ r.effects ++ p.effects,
            p.result.map fun _ => true⟩
        else ⟨r.gateway, inserted ++ [.appendRecv cmd] ++ r.effects, .ok false⟩

/-- `AtlasApprove::handleClientCommand`. -/
def handleClientCommand (crypto : Crypto) (env : Env) (p : CommandPayload) (g : State) :
    Handled (Except CppException Bool) :=
  match checkCommand crypto g p with
  | .error e => ⟨g, [], .error e⟩
  | .ok none => ⟨g, [], .ok false⟩
  | .ok (some (clientIdentity, type)) =>
    match p.seqNo.asUInt with
    | none => ⟨g, [], .error .jsonException⟩
    | some seqNo =>
      if seqNo ≤ g.sequenceNumber then
        let r := handleOldCommand env seqNo clientIdentity g
        ⟨r.gateway, r.effects, .ok r.result⟩
      else acceptCommand env seqNo clientIdentity type p.payload g

/-- `AtlasApprove::handleCommandDoneAck`. -/
def handleCommandDoneAck (env : Env) (p : DoneAckPayload) (g : State) :
    Handled (Except CppException Unit) :=
  match p.clientIdentity.asString with
  | none => ⟨g, [], .error .jsonException⟩
  | some clientIdentity =>
    match getDevice env clientIdentity g with
    | (g, none) => ⟨g, [], .ok ()⟩
    | (g, some device) =>
      match device.getExecutedCommand with
      | none => ⟨g, [], .ok ()⟩
      | some cmd =>
        match p.seqNo.asUInt with
        | none => ⟨g, [], .error .jsonException⟩
        | some seqNo =>
          if cmd.sequenceNumber ≠ seqNo then ⟨g, [], .ok ()⟩
          else
            match g.db.deleteDeviceCommand env.deleteDeviceCommand cmd.sequenceNumber with
            | (false, _) => ⟨g, [], .ok ()⟩
            | (true, db) =>
              -- drain the list of executed commands
              let r := responseCommandDONE env device.identity
                ({ g with db := db }.setDevice clientIdentity device.removeExecutedCommand)
              ⟨r.gateway, r.effects, .ok ()⟩

/-- The callback of `alarmCallback` for one device. -/
def alarmDevice (env : Env) (identity : StdString) (g : State) :
    Handled (Except CppException Unit) :=
  let p := pushCommand env identity g
  match p.result with
  | .error e => ⟨p.gateway, p.effects, .error e⟩
  | .ok () =>
    match (p.gateway.devices identity).bind Device.getExecutedCommand with
    | none => ⟨p.gateway, p.effects, .ok ()⟩
    | some cmd =>
      let r := responseCommandDONE env cmd.deviceIdentity p.gateway
      ⟨r.gateway, p.effects ++ r.effects, .ok ()⟩

/-- `AtlasApprove::alarmCallback` over the devices in `order`, the iteration order of the hash map.
An exception ends the iteration. -/
def alarmCallback (env : Env) : List StdString → State → Handled (Except CppException Unit)
  | [], g => ⟨g, [], .ok ()⟩
  | identity :: order, g =>
    let r := alarmDevice env identity g
    match r.result with
    | .error e => ⟨r.gateway, r.effects, .error e⟩
    | .ok () =>
      let r' := alarmCallback env order r.gateway
      ⟨r'.gateway, r.effects ++ r'.effects, r'.result⟩

/-- `AtlasRegister::keepaliveAlarmCallback` over the devices in `order`. -/
def keepaliveAlarmCallback (order : List StdString) (g : State) : State :=
  order.foldl (fun g identity =>
    g.modifyDevice identity fun d => if d.registered then d.keepAliveExpired else d) g

/-- A new gateway process over the same database: `AtlasApprove::start` sets the sequence number. -/
def restart (env : Env) (g : State) : State :=
  { g with
    devices := fun _ => none
    requests := []
    msgACKScheduled := false
    counterACK := 0
    statusACKAlarm := false
    sequenceNumber := (g.db.getMaxSequenceNumber env.getMaxSequenceNumber).getD 0 }

end State

/-- What happens to a gateway. -/
inductive Event where
  /-- `ATLAS_CMD_GATEWAY_CLIENT` from the cloud. -/
  | clientCommand (payload : CommandPayload)
  /-- `ATLAS_CMD_GATEWAY_CLIENT_DONE_ACK` from the cloud. -/
  | commandDoneAck (payload : DoneAckPayload)
  /-- The callback of the `i`-th outstanding command request. -/
  | coapReply (i : ℕ) (respStatus : CoapResponse)
  /-- The push alarm. -/
  | pushAlarm (order : List StdString)
  /-- The ACK retry alarm. -/
  | statusACKAlarm
  /-- An accepted registration. -/
  | register (identity ipPort : StdString)
  /-- An accepted keep-alive. -/
  | keepAlive (identity ipPort : StdString)
  /-- The keep-alive alarm. -/
  | keepAliveAlarm (order : List StdString)
  /-- Any other request of a client, which only looks the device up. -/
  | deviceRequest (identity : StdString)
  /-- A new process. -/
  | restart
deriving DecidableEq

namespace State

/-- One event, under the outcomes of the calls its handler makes. -/
def step (crypto : Crypto) (g : State) (e : Event × Env) : State × List Effect :=
  let env := e.2
  match e.1 with
  | .clientCommand p =>
    let r := handleClientCommand crypto env p g
    (r.gateway, r.effects)
  | .commandDoneAck p =>
    let r := handleCommandDoneAck env p g
    (r.gateway, r.effects)
  | .coapReply i respStatus =>
    match g.requests[i]? with
    | none => (g, [])
    | some request =>
      let r := deviceCmdRespCallback env request.identity respStatus
        { g with requests := g.requests.eraseIdx i }
      (r.gateway, r.effects)
  | .pushAlarm order =>
    let r := alarmCallback env order g
    (r.gateway, r.effects)
  | .statusACKAlarm =>
    let r := statusACKCallback env g
    (r.gateway, r.effects)
  | .register identity ipPort =>
    ((getDevice env identity g).1.modifyDevice identity fun d => d.registerNow.setIpPort ipPort, [])
  | .keepAlive identity ipPort =>
    ((getDevice env identity g).1.modifyDevice identity fun d =>
      if d.registered then d.keepAliveNow.setIpPort ipPort else d, [])
  | .keepAliveAlarm order => (keepaliveAlarmCallback order g, [])
  | .deviceRequest identity => ((getDevice env identity g).1, [])
  | .restart => (restart env g, [])

/-- A gateway just installed: no command stored, no device in memory. -/
def fresh (identity : StdString) (claimed : Bool) (ownerSecretKey : StdString)
    (device : DeviceTable) : State where
  identity := identity
  claimed := claimed
  ownerSecretKey := ownerSecretKey
  db := ⟨device, [], 0⟩
  devices := fun _ => none
  sequenceNumber := 0
  msgACKScheduled := false
  counterACK := 0
  statusACKAlarm := false
  requests := []

end State

/-! ## A small installation -/

/-- Trivial cryptography, for gateways without an owner. -/
def sampleCrypto : Crypto := ⟨fun _ _ => [], some⟩

/-- A gateway with two clients. -/
def sampleDevices : DeviceTable where
  rows := [⟨1, bytes "lamp", bytes "psk1"⟩, ⟨2, bytes "door", bytes "psk2"⟩]
  id_nodup := by decide
  identity_nodup := by decide
  id_pos := by decide

/-- A restart command for `client`. -/
def sampleCommand (client : String) (n : UInt32) : CommandPayload where
  clientIdentity := sampleText (bytes client)
  type := sampleText (bytes "ATLAS_CMD_CLIENT_DEVICE_RESTART")
  payload := sampleText []
  seqNo := sampleNumber n
  signature := sampleNull

end Atlas.Gateway
