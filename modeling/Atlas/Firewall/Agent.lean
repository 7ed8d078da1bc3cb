import Atlas.Firewall.Filter
import Atlas.Gateway.Device
import Atlas.Lib.Table
import Mathlib.Data.List.Sort

/-! # Policies, devices and the publish-subscribe agent of the gateway

The gateway keeps a firewall policy for each device that asked for one while it was registered, and
the packet counters of the device. The publish-subscribe agent turns policies into commands for the
broker plug-in and takes the counters out of its replies.

A handler returns the calls it makes to the agent, and `perform` gives the frames the agent then
hands to its `write`; whether they reach a plug-in is a matter of the connection. What `getDevice`
finds in the database is an input of the handler, as are the counters stored there, the keep-alive
counter of a new device, which its constructor does not set, and the order in which the devices are
visited.

Reference: `policy/AtlasPolicy.cpp`, `policy/AtlasFirewallPolicy.cpp`, `device/AtlasDevice.cpp`,
`device/AtlasDeviceManager.cpp`, `register/AtlasRegister.cpp`, `pubsub_agent/AtlasPubSubAgent.cpp`.
-/

namespace Atlas.Firewall

open ByteOrder EventMachine Gateway

namespace CommandType

/-- `ATLAS_CMD_REGISTER`. -/
def register : UInt16 := 0

/-- `ATLAS_CMD_KEEPALIVE`. -/
def keepalive : UInt16 := 1

/-- `ATLAS_CMD_IDENTITY`. -/
def identity : UInt16 := 2

/-- `ATLAS_CMD_IP_PORT`. -/
def ipPort : UInt16 := 3

/-- `ATLAS_CMD_DATA_PLANE_POLICY_MAX_QOS`. -/
def policyMaxQos : UInt16 := 1100

/-- `ATLAS_CMD_DATA_PLANE_POLICY_PACKETS_PER_MINUTE`. -/
def policyPacketsPerMinute : UInt16 := 1101

/-- `ATLAS_CMD_DATA_PLANE_POLICY_PACKETS_MAXLEN`. -/
def policyPacketsMaxlen : UInt16 := 1102

end CommandType

/-! ## Policies and counters -/

/-- `AtlasFirewallPolicy`. -/
structure AtlasFirewallPolicy where
  clientId : StdString
  qos : UInt16
  ppm : UInt16
  payloadLen : UInt16
deriving DecidableEq

/-- `AtlasFirewallPolicy::operator==`: the third comparison is an assignment, so the left policy may
come out with the rate of the right one. -/
def AtlasFirewallPolicy.equal (this c : AtlasFirewallPolicy) : Bool × AtlasFirewallPolicy :=
  if this.clientId = c.clientId ∧ this.qos = c.qos then
    (c.ppm ≠ 0 ∧ this.payloadLen = c.payloadLen, { this with ppm := c.ppm })
  else (false, this)

/-- The counters of `AtlasFirewallStats`. -/
structure AtlasFirewallStats where
  ruleDroppedPkts : UInt32 := 0
  rulePassedPkts : UInt32 := 0
  txDroppedPkts : UInt32 := 0
  txPassedPkts : UInt32 := 0
deriving DecidableEq

/-- The four additions of `updateFirewallStats`. -/
def AtlasFirewallStats.add (stats delta : AtlasFirewallStats) : AtlasFirewallStats where
  ruleDroppedPkts := stats.ruleDroppedPkts + delta.ruleDroppedPkts
  rulePassedPkts := stats.rulePassedPkts + delta.rulePassedPkts
  txDroppedPkts := stats.txDroppedPkts + delta.txDroppedPkts
  txPassedPkts := stats.txPassedPkts + delta.txPassedPkts

/-! ## Devices -/

/-- `AtlasDevice`, the fields of the firewall. -/
structure AtlasDevice where
  identity : StdString
  registered : Bool
  kaCtr : UInt8
  policy : Option AtlasFirewallPolicy
  stats : AtlasFirewallStats
deriving DecidableEq

namespace AtlasDevice

/-- `setPolicyInfo`. -/
def setPolicyInfo (device : AtlasDevice) (policy : AtlasFirewallPolicy) : AtlasDevice :=
  match device.policy with
  | none => { device with policy := some policy }
  | some old =>
    let (same, old) := old.equal policy
    { device with policy := some (if same then old else policy) }

/-- `registerNow`. -/
def registerNow (device : AtlasDevice) : AtlasDevice :=
  { device with registered := true, kaCtr := atlasKeepAliveCounter }

/-- `keepAliveNow`. -/
def keepAliveNow (device : AtlasDevice) : AtlasDevice :=
  { device with kaCtr := atlasKeepAliveCounter }

/-- The test of `keepAliveExpired` for the last keep-alive of a registered device. -/
def expires (device : AtlasDevice) : Bool := device.kaCtr = 1 ∧ device.registered

/-- `keepAliveExpired`, with `uninstallPolicy`. -/
def keepAliveExpired (device : AtlasDevice) : AtlasDevice :=
  if device.kaCtr = 0 then device
  else if device.expires then
    { device with kaCtr := device.kaCtr - 1, registered := false, policy := none }
  else { device with kaCtr := device.kaCtr - 1 }

/-- What the keep-alive alarm does to a device. -/
def keepaliveAlarm (device : AtlasDevice) : AtlasDevice :=
  if device.registered then device.keepAliveExpired else device

/-- Whatever the comparison said, the device has the new policy afterwards. -/
@[simp] theorem policy_setPolicyInfo (device : AtlasDevice) (policy : AtlasFirewallPolicy) :
    (device.setPolicyInfo policy).policy = some policy := by
  obtain ⟨clientId, qos, ppm, payloadLen⟩ := policy
  cases hold : device.policy with
  | none => simp [setPolicyInfo, hold]
  | some old =>
    obtain ⟨clientId', qos', ppm', payloadLen'⟩ := old
    simp only [setPolicyInfo, hold, AtlasFirewallPolicy.equal]
    by_cases hid : clientId' = clientId ∧ qos' = qos
    · by_cases hlen : payloadLen' = payloadLen
      · simp [hid, hlen]
      · simp [hid, hlen]
    · simp [hid]

@[simp] theorem identity_setPolicyInfo (device : AtlasDevice) (policy : AtlasFirewallPolicy) :
    (device.setPolicyInfo policy).identity = device.identity := by
  cases hold : device.policy <;> simp [setPolicyInfo, hold]

@[simp] theorem registered_setPolicyInfo (device : AtlasDevice) (policy : AtlasFirewallPolicy) :
    (device.setPolicyInfo policy).registered = device.registered := by
  cases hold : device.policy <;> simp [setPolicyInfo, hold]

@[simp] theorem kaCtr_setPolicyInfo (device : AtlasDevice) (policy : AtlasFirewallPolicy) :
    (device.setPolicyInfo policy).kaCtr = device.kaCtr := by
  cases hold : device.policy <;> simp [setPolicyInfo, hold]

@[simp] theorem stats_setPolicyInfo (device : AtlasDevice) (policy : AtlasFirewallPolicy) :
    (device.setPolicyInfo policy).stats = device.stats := by
  cases hold : device.policy <;> simp [setPolicyInfo, hold]

/-- At the last keep-alive the device is unregistered and loses its policy; before, the alarm
changes the counter only. -/
theorem keepaliveAlarm_cases (device : AtlasDevice) :
    (device.expires = true ∧ ∃ kaCtr,
      device.keepaliveAlarm = { device with kaCtr, registered := false, policy := none }) ∨
    device.expires = false ∧ ∃ kaCtr, device.keepaliveAlarm = { device with kaCtr } := by
  rw [keepaliveAlarm, keepAliveExpired]
  cases hreg : device.registered with
  | false => exact .inr ⟨by simp [expires, hreg], device.kaCtr, by simp [← hreg]⟩
  | true =>
    by_cases hzero : device.kaCtr = 0
    · exact .inr ⟨by simp [expires, hzero], device.kaCtr, by rw [if_pos rfl, if_pos hzero, ← hreg]⟩
    · cases hexp : device.expires with
      | false => exact .inr ⟨rfl, device.kaCtr - 1, by simp [hzero, ← hreg]⟩
      | true => exact .inl ⟨rfl, device.kaCtr - 1, by simp [hzero]⟩

theorem identity_keepaliveAlarm (device : AtlasDevice) :
    device.keepaliveAlarm.identity = device.identity := by
  rcases device.keepaliveAlarm_cases with ⟨-, kaCtr, h⟩ | ⟨-, kaCtr, h⟩ <;> rw [h]

end AtlasDevice

/-! ## The commands of the agent -/

namespace AtlasPubSubAgent

variable (host : ByteOrder)

/-- `getFirewallRuleStats`. -/
def getFirewallRuleStats (clientId : StdString) : List (List UInt8) :=
  if clientId = [] then []
  else [AtlasCommandBatch.nested host CommandType.getStatFirewallRule
    [.new CommandType.clientId clientId]]

/-- `removeFirewallRule`. -/
def removeFirewallRule (clientId : StdString) : List (List UInt8) :=
  if clientId = [] then []
  else [AtlasCommandBatch.nested host CommandType.removeFirewallRule
    [.new CommandType.clientId clientId]]

/-- `installFirewallRule` for a policy. -/
def installFirewallRule (policy : AtlasFirewallPolicy) : List (List UInt8) :=
  let number (type n : UInt16) : AtlasCommand := .new type (store16 host (htons host n))
  [AtlasCommandBatch.nested host CommandType.installFirewallRule
    [.new CommandType.clientId policy.clientId, number CommandType.maxQos policy.qos,
      number CommandType.ppm policy.ppm, number CommandType.maxPayloadLen policy.payloadLen]]

/-- The calls other parts of the gateway make to the agent. -/
inductive Call where
  | installFirewallRule (policy : AtlasFirewallPolicy)
  | removeFirewallRule (clientId : StdString)
  | getFirewallRuleStats (clientId : StdString)
deriving DecidableEq

/-- The frames written for a call. -/
def perform : Call → List (List UInt8)
  | .installFirewallRule policy => installFirewallRule host policy
  | .removeFirewallRule clientId => removeFirewallRule host clientId
  | .getFirewallRuleStats clientId => getFirewallRuleStats host clientId

end AtlasPubSubAgent

open AtlasPubSubAgent (Call)

/-! ## The device manager -/

/-- What a handler finds outside: the PSK `selectDevicePsk` returns for an identity, empty when
there is none or the statement fails, the state of a device that is then created, and where the
unordered map of devices has an identity in its iteration. -/
structure Env where
  selectDevicePsk : StdString → StdString
  storedStats : StdString → AtlasFirewallStats
  kaCtr : UInt8
  position : StdString → ℕ

/-- `AtlasDeviceManager`: the devices in memory, by identity. -/
structure AtlasDeviceManager where
  devices : Table AtlasDevice.identity

namespace AtlasDeviceManager

variable (env : Env)

/-- The manager without any device. -/
def init : AtlasDeviceManager := ⟨⟨[], .nil⟩⟩

/-- `getDevice`. -/
def getDevice (manager : AtlasDeviceManager) (identity : StdString) :
    AtlasDeviceManager × Option AtlasDevice :=
  match manager.devices.find? identity with
  | some device => (manager, some device)
  | none =>
    if env.selectDevicePsk identity = [] then (manager, none)
    else
      let device : AtlasDevice := ⟨identity, false, env.kaCtr, none, env.storedStats identity⟩
      (⟨manager.devices.save device⟩, some device)

/-- A device of the manager, changed in place. -/
def setDevice (manager : AtlasDeviceManager) (device : AtlasDevice) : AtlasDeviceManager :=
  ⟨manager.devices.save device⟩

/-- `updateFirewallStats`. -/
def updateFirewallStats (manager : AtlasDeviceManager) (clientId : StdString)
    (delta : AtlasFirewallStats) : AtlasDeviceManager :=
  match manager.getDevice env clientId with
  | (manager, none) => manager
  | (manager, some device) => manager.setDevice { device with stats := device.stats.add delta }

/-- The devices in the order of `forEachDevice`. -/
def forEachDevice (manager : AtlasDeviceManager) : List AtlasDevice :=
  manager.devices.rows.insertionSort fun device device' =>
    env.position device.identity ≤ env.position device'.identity

/-- The call `keepAliveExpired` makes through `uninstallPolicy`. -/
def uninstall (device : AtlasDevice) : List Call :=
  if device.expires then
    device.policy.toList.map fun policy => .removeFirewallRule policy.clientId
  else []

/-- `keepaliveAlarmCallback`, over all devices. -/
def keepaliveAlarmCallback (manager : AtlasDeviceManager) : AtlasDeviceManager × List Call :=
  (⟨manager.devices.map (·.keepaliveAlarm) AtlasDevice.identity_keepaliveAlarm⟩,
    (manager.forEachDevice env).flatMap uninstall)

/-- `firewallStatisticsAlarmCallback`. -/
def firewallStatisticsAlarmCallback (manager : AtlasDeviceManager) : List Call :=
  (manager.forEachDevice env).flatMap fun device =>
    device.policy.toList.map fun policy => .getFirewallRuleStats policy.clientId

/-- `installAllPolicies`. -/
def installAllPolicies (manager : AtlasDeviceManager) : List Call :=
  (manager.forEachDevice env).flatMap fun device =>
    device.policy.toList.map .installFirewallRule

end AtlasDeviceManager

/-! ## The CoAP callbacks

A loop over the commands of a request that answers at the first bad one is a fold in `Option`. -/

section Callbacks

variable (host : ByteOrder) (env : Env) (manager : AtlasDeviceManager)
variable (pskIdentity : StdString) (reqPayload : List UInt8)

/-- The local variables of `registerCallback`. -/
structure RegisterFields where
  identity : StdString := []
  ipPort : StdString := []
deriving DecidableEq

/-- The body of the loop of `registerCallback`. -/
def RegisterFields.read (fields : RegisterFields) (cmd : AtlasCommand) : Option RegisterFields :=
  if cmd.type = CommandType.register then
    if cmd.len = 0 then none
    else if pskIdentity ≠ cmd.val then none
    else some { fields with identity := cmd.val }
  else if cmd.type = CommandType.ipPort then
    if cmd.len = 0 then none else some { fields with ipPort := cmd.val }
  else some fields

/-- The fields of a registration request, if they are acceptable. -/
def readRegister : Option RegisterFields :=
  let cmds := AtlasCommandBatch.parsedCommands host reqPayload
  if cmds = [] then none
  else (cmds.foldlM (RegisterFields.read pskIdentity) {}).filter fun fields =>
    fields.identity ≠ [] ∧ fields.ipPort ≠ []

/-- `AtlasRegister::registerCallback`. -/
def registerCallback : AtlasDeviceManager × CoapResponse :=
  match readRegister host pskIdentity reqPayload with
  | none => (manager, .notAcceptable)
  | some fields =>
    match manager.getDevice env fields.identity with
    | (manager, none) => (manager, .notAcceptable)
    | (manager, some device) => (manager.setDevice device.registerNow, .ok)

/-- The local variables of `keepaliveCallback`. -/
structure KeepaliveFields where
  token : Option (List UInt8) := none
  identity : StdString := []
  ipPort : StdString := []
deriving DecidableEq

/-- The body of the loop of `keepaliveCallback`. -/
def KeepaliveFields.read (fields : KeepaliveFields) (cmd : AtlasCommand) : Option KeepaliveFields :=
  if cmd.type = CommandType.keepalive then
    if cmd.len ≠ 2 then none else some { fields with token := some cmd.val }
  else if cmd.type = CommandType.identity then
    if cmd.len = 0 then none
    else if pskIdentity ≠ cmd.val then none
    else some { fields with identity := cmd.val }
  else if cmd.type = CommandType.ipPort then
    if cmd.len = 0 then none else some { fields with ipPort := cmd.val }
  else some fields

/-- The fields of a keep-alive request, if they are acceptable. -/
def readKeepalive : Option KeepaliveFields :=
  let cmds := AtlasCommandBatch.parsedCommands host reqPayload
  if cmds = [] then none
  else (cmds.foldlM (KeepaliveFields.read pskIdentity) {}).filter fun fields =>
    fields.identity ≠ [] ∧ fields.token.isSome ∧ fields.ipPort ≠ []

/-- `AtlasRegister::keepaliveCallback`. -/
def keepaliveCallback : AtlasDeviceManager × CoapResponse :=
  match manager.getDevice env pskIdentity with
  | (manager, none) => (manager, .notAcceptable)
  | (manager, some device) =>
    if !device.registered then (manager, .notAcceptable) else
    match readKeepalive host pskIdentity reqPayload with
    | none => (manager, .notAcceptable)
    | some _ => (manager.setDevice device.keepAliveNow, .ok)

/-- The local variables of `firewallPolicyCallback`. -/
structure PolicyFields where
  qos : Option UInt16 := none
  ppm : Option UInt16 := none
  payloadLen : Option UInt16 := none
deriving DecidableEq

/-- The body of the loop of `firewallPolicyCallback`. -/
def PolicyFields.read (fields : PolicyFields) (cmd : AtlasCommand) : Option PolicyFields :=
  if cmd.type = CommandType.policyMaxQos then
    if cmd.len ≠ 2 then none
    else some { fields with qos := (load16? host cmd.val).map (ntohs host) }
  else if cmd.type = CommandType.policyPacketsPerMinute then
    if cmd.len ≠ 2 then none
    else some { fields with ppm := (load16? host cmd.val).map (ntohs host) }
  else if cmd.type = CommandType.policyPacketsMaxlen then
    if cmd.len ≠ 2 then none
    else some { fields with payloadLen := (load16? host cmd.val).map (ntohs host) }
  else some fields

/-- The policy a request asks for, if it is acceptable. -/
def readPolicy : Option AtlasFirewallPolicy :=
  let cmds := AtlasCommandBatch.parsedCommands host reqPayload
  if cmds = [] then none else
  match cmds.foldlM (PolicyFields.read host) {} with
  | some ⟨some qos, some ppm, some payloadLen⟩ => some ⟨pskIdentity, qos, ppm, payloadLen⟩
  | _ => none

/-- `AtlasPolicy::firewallPolicyCallback`. -/
def firewallPolicyCallback : AtlasDeviceManager × List Call × CoapResponse :=
  match manager.getDevice env pskIdentity with
  | (manager, none) => (manager, [], .notAcceptable)
  | (manager, some device) =>
    if !device.registered then (manager, [], .notAcceptable) else
    match readPolicy host pskIdentity reqPayload with
    | none => (manager, [], .notAcceptable)
    | some policy =>
      let device := device.setPolicyInfo policy
      (manager.setDevice device, device.policy.toList.map .installFirewallRule, .ok)

end Callbacks

/-! ## Commands from the plug-in -/

namespace AtlasPubSubAgent

variable (host : ByteOrder) (env : Env)

/-- The local variables of `processFirewallRuleStat`. -/
structure StatFields where
  clientId : StdString := []
  ruleDroppedPkts : Option UInt32 := none
  rulePassedPkts : Option UInt32 := none
  txDroppedPkts : Option UInt32 := none
  txPassedPkts : Option UInt32 := none
deriving DecidableEq

/-- The body of the loop of `processFirewallRuleStat`. -/
def StatFields.read (fields : StatFields) (cmd : AtlasCommand) : StatFields :=
  let counter := (load32? host cmd.val).map (ntohl host)
  if cmd.type = CommandType.clientId then { fields with clientId := cmd.val }
  else if cmd.type = CommandType.pktDrop ∧ cmd.len = 4 then
    { fields with ruleDroppedPkts := counter }
  else if cmd.type = CommandType.pktPass ∧ cmd.len = 4 then
    { fields with rulePassedPkts := counter }
  else if cmd.type = CommandType.txPktDrop ∧ cmd.len = 4 then
    { fields with txDroppedPkts := counter }
  else if cmd.type = CommandType.txPktPass ∧ cmd.len = 4 then
    { fields with txPassedPkts := counter }
  else fields

/-- The client and the counters of a statistics command, if they are all there. -/
def readStat (cmdBuf : List UInt8) : Option (StdString × AtlasFirewallStats) :=
  let fields := (AtlasCommandBatch.parsedCommands host cmdBuf).foldl (StatFields.read host) {}
  if fields.clientId = [] then none else
  match fields.ruleDroppedPkts, fields.rulePassedPkts, fields.txDroppedPkts,
    fields.txPassedPkts with
  | some ruleDroppedPkts, some rulePassedPkts, some txDroppedPkts, some txPassedPkts =>
    some (fields.clientId, ⟨ruleDroppedPkts, rulePassedPkts, txDroppedPkts, txPassedPkts⟩)
  | _, _, _, _ => none

/-- `processFirewallRuleStat`: a report of zeros only is skipped. -/
def processFirewallRuleStat (manager : AtlasDeviceManager) (cmdBuf : List UInt8) :
    AtlasDeviceManager :=
  match readStat host cmdBuf with
  | none => manager
  | some (clientId, delta) =>
    if delta = {} then manager else manager.updateFirewallStats env clientId delta

/-- One command of `processCommand`. -/
def dispatch (manager : AtlasDeviceManager) (cmd : AtlasCommand) : AtlasDeviceManager × List Call :=
  if cmd.type = CommandType.getAllFirewallRules then (manager, manager.installAllPolicies env)
  else if cmd.type = CommandType.putStatFirewallRule then
    (processFirewallRuleStat host env manager cmd.val, [])
  else (manager, [])

/-- `processCommand`. -/
def processCommand (manager : AtlasDeviceManager) (cmdBuffer : List UInt8) :
    AtlasDeviceManager × List Call :=
  (AtlasCommandBatch.parsedCommands host cmdBuffer).foldl
    (fun (manager, calls) cmd =>
      let (manager, calls') := dispatch host env manager cmd
      (manager, calls ++ calls')) (manager, [])

/-- `handleRead`, for a chunk of the stream from the plug-in. -/
def handleRead (s : AtlasDeviceManager × AtlasCommandXfer) (chunk : Env × List UInt8) :
    (AtlasDeviceManager × AtlasCommandXfer) × List (AtlasCommandXfer.Processed Call) :=
  AtlasCommandXfer.serve host (processCommand host chunk.1) s chunk.2

end AtlasPubSubAgent

/-- However a stream of frames that fit in the buffer is cut into chunks, both read handlers call
`processCommand` once for each frame, in order, with exactly its bytes. -/
theorem processed_of_chunks (host : ByteOrder) (rs : List Tlv.Record)
    (hfit : ∀ r ∈ rs, (Tlv.encode r).length ≤ 8192) (xfer : AtlasCommandXfer) :
    (∀ (filter : AtlasFilter) (chunks : List (AtlasPacketPolicer × List UInt8)),
      (chunks.map Prod.snd).flatten = Tlv.encodeAll rs →
      AllSteps (AtlasFilter.handleRead host) (fun s chunk => s.2.Requested chunk.2)
        (filter, xfer.init) chunks →
      (trace (AtlasFilter.handleRead host) (filter, xfer.init) chunks).map (·.cmdBuffer) =
        rs.map Tlv.encode) ∧
    ∀ (manager : AtlasDeviceManager) (chunks : List (Env × List UInt8)),
      (chunks.map Prod.snd).flatten = Tlv.encodeAll rs →
      AllSteps (AtlasPubSubAgent.handleRead host) (fun s chunk => s.2.Requested chunk.2)
        (manager, xfer.init) chunks →
      (trace (AtlasPubSubAgent.handleRead host) (manager, xfer.init) chunks).map (·.cmdBuffer) =
        rs.map Tlv.encode := by
  constructor
  · intro filter chunks hstream hchunks
    exact AtlasCommandXfer.cmdBuffer_trace_serve host (AtlasFilter.processCommand host) hfit filter
      xfer hstream hchunks
  · intro manager chunks hstream hchunks
    exact AtlasCommandXfer.cmdBuffer_trace_serve host (AtlasPubSubAgent.processCommand host) hfit
      manager xfer hstream hchunks

/-- A request for all rules, which has no value, and a report, in five chunks: one length field is
cut in two, and the other header arrives before its value. -/
def splitChunks : List (Env × List UInt8) :=
  [[3], [232, 0], [0], [3, 236, 0, 1], [7]].map
    fun chunk => (⟨fun _ => [], fun _ => {}, 0, fun _ => 0⟩, chunk)

theorem processed_of_chunks_split :
    (trace (AtlasPubSubAgent.handleRead .little)
        (AtlasDeviceManager.init, AtlasCommandXfer.new fun _ => 0) splitChunks).map (·.cmdBuffer) =
      [[3, 232, 0, 0], [3, 236, 0, 1, 7]] := by
  have hagent := (processed_of_chunks .little [⟨1000, [], by decide⟩, ⟨1004, [7], by decide⟩]
    (by decide) ⟨fun _ => 0, .header, 0, 0⟩).2
  exact (hagent .init splitChunks (by decide) (by decide)).trans (by decide)

end Atlas.Firewall
