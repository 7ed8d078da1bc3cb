import Atlas.Firewall.Agent
import Mathlib.Data.List.Infix

/-! # Devices as their clients see them

A client reaches its device in the gateway through four CoAP end-points: registration, keep-alive,
firewall policy and telemetry. This module has the device with all that these requests and the
keep-alive alarm touch. It extends the device of the firewall, and so do its operations; what they
add are the address, the times, the telemetry values, and the JSON fragments handed to the cloud.

Reference: `device/AtlasDevice.cpp`, `telemetry/AtlasTelemetryInfo.cpp`,
`telemetry/AtlasTelemetry.cpp`, `policy/AtlasFirewallPolicy.cpp`,
`statistics/AtlasFirewallStats.cpp`.
-/

namespace Atlas.Devices

open Gateway
open Firewall (AtlasFirewallPolicy AtlasFirewallStats)

/-! ## Telemetry features -/

/-- A telemetry feature: the resource it is sent to, the type of its command and its name in
JSON. -/
structure TelemetryFeature where
  uri : StdString
  command : UInt16
  name : StdString
deriving DecidableEq

/-- The features in the order of the tests of `getFeature`. -/
def telemetryFeatures : List TelemetryFeature :=
  [⟨bytes "gateway/telemetry/hostname", 500, bytes "hostname"⟩,
    ⟨bytes "gateway/telemetry/kernel_info", 501, bytes "kernelInfo"⟩,
    ⟨bytes "gateway/telemetry/sysinfo/uptime", 502, bytes "sysinfoUptime"⟩,
    ⟨bytes "gateway/telemetry/sysinfo/totalram", 503, bytes "sysinfoTotalram"⟩,
    ⟨bytes "gateway/telemetry/sysinfo/freeram", 504, bytes "sysinfoFreeram"⟩,
    ⟨bytes "gateway/telemetry/sysinfo/sharedram", 505, bytes "sysinfoSharedram"⟩,
    ⟨bytes "gateway/telemetry/sysinfo/bufferram", 506, bytes "sysinfoBufferram"⟩,
    ⟨bytes "gateway/telemetry/sysinfo/totalswap", 507, bytes "sysinfoTotalswap"⟩,
    ⟨bytes "gateway/telemetry/sysinfo/freeswap", 508, bytes "sysinfoFreeswap"⟩,
    ⟨bytes "gateway/telemetry/sysinfo/procs", 509, bytes "sysinfoProcs"⟩,
    ⟨bytes "gateway/telemetry/sysinfo/load1", 510, bytes "sysinfoLoad1"⟩,
    ⟨bytes "gateway/telemetry/sysinfo/load5", 511, bytes "sysinfoLoad5"⟩,
    ⟨bytes "gateway/telemetry/sysinfo/load15", 512, bytes "sysinfoLoad15"⟩,
    ⟨bytes "gateway/telemetry/packets_per_minute", 516, bytes "packetsPerMinute"⟩,
    ⟨bytes "gateway/telemetry/packets_avg", 517, bytes "packetsAvgLength"⟩]

/-- `ATLAS_TELEMETRY_DEFAULT_VALUE`. -/
def telemetryDefaultValue : StdString := bytes "N/A"

/-- `AtlasTelemetry::getFeature`: the name and the value of a feature. The name is empty when no
feature has this resource and this type, and both are when the command is. -/
def getFeature (path : StdString) (cmd : AtlasCommand) : StdString × StdString :=
  if cmd.len = 0 then ([], [])
  else
    -- `strstr` on the path as a C string
    match telemetryFeatures.find? fun f => f.uri <:+: ofCString path ∧ cmd.type = f.command with
    | some f => (f.name, cmd.val)
    | none => ([], cmd.val)

/-- `AtlasTelemetryInfo`: feature names and values, in the order the map iterates in. -/
structure AtlasTelemetryInfo where
  features : Table fun feature : StdString × StdString => feature.1

/-! ## JSON fragments -/

/-- A key and a value between quotes. -/
def jsonField (key value : StdString) : StdString :=
  bytes "\"" ++ key ++ bytes "\": \"" ++ value ++ bytes "\""

/-- Fields, a comma and a line break between them. -/
def jsonFields (fields : List (StdString × StdString)) : StdString :=
  (bytes ",\n").intercalate (fields.map fun (key, value) => jsonField key value)

/-- `std::to_string` of an unsigned number. -/
def decimal (n : ℕ) : StdString := bytes (toString n)

namespace AtlasTelemetryInfo

/-- The constructor: every feature with its default value. -/
def new : AtlasTelemetryInfo :=
  ⟨⟨telemetryFeatures.map fun f => (f.name, telemetryDefaultValue), by decide⟩⟩

/-- `setFeature`. -/
def setFeature (feature value : StdString) (info : AtlasTelemetryInfo) : AtlasTelemetryInfo :=
  ⟨info.features.save (feature, value)⟩

/-- `getFeature`: the subscript adds a feature that is not there. -/
def getFeature (feature : StdString) (info : AtlasTelemetryInfo) : AtlasTelemetryInfo × StdString :=
  match info.features.find? feature with
  | some (_, value) => (info, value)
  | none => (info.setFeature feature [], [])

/-- `clearFeatures`. -/
def clearFeatures (info : AtlasTelemetryInfo) : AtlasTelemetryInfo :=
  ⟨info.features.map (fun feature => (feature.1, telemetryDefaultValue)) fun _ => rfl⟩

/-- `toJSON` of all features. -/
def toJSON (info : AtlasTelemetryInfo) : StdString := jsonFields info.features.rows

/-- `toJSON` of one feature. -/
def featureToJSON (feature : StdString) (info : AtlasTelemetryInfo) : StdString :=
  jsonField feature (info.getFeature feature).2

end AtlasTelemetryInfo

/-- The fields of `AtlasFirewallStats::toJSON`. -/
def statsFields (stats : AtlasFirewallStats) : List (StdString × StdString) :=
  [(bytes "firewallRuleDroppedPkts", decimal stats.ruleDroppedPkts.toNat),
    (bytes "firewallRulePassedPkts", decimal stats.rulePassedPkts.toNat),
    (bytes "firewallTxDroppedPkts", decimal stats.txDroppedPkts.toNat),
    (bytes "firewallTxPassedPkts", decimal stats.txPassedPkts.toNat)]

/-- The fields of `AtlasFirewallPolicy::toJSON`. -/
def policyFields (policy : AtlasFirewallPolicy) : List (StdString × StdString) :=
  [(bytes "pubSubClientId", policy.clientId), (bytes "firewallPolicyQos", decimal policy.qos.toNat),
    (bytes "firewallPolicyPpm", decimal policy.ppm.toNat),
    (bytes "firewallPolicyPayloadLen", decimal policy.payloadLen.toNat)]

/-! ## The device -/

/-- What the handlers find outside, beyond what the firewall needs: the clock in whole seconds and
Boost's text for a time, the printed reputation scores of a device, the commands stored for a new
device, and the first request for an alert that cannot be sent. -/
structure Env extends Firewall.Env where
  now : ℤ
  toSimpleString : ℤ → StdString
  systemReputation : StdString → StdString
  temperatureReputation : StdString → StdString
  storedCmds : StdString → List CommandDevice × List CommandDevice
  alerts : Option SendFailure

/-- `AtlasDevice`. -/
structure AtlasDevice extends Firewall.AtlasDevice where
  psk : StdString
  ipPort : StdString
  regTime : StdString
  keepAliveTime : StdString
  startRegTime : ℤ
  regIntervalSec : ℤ
  keepAlivePkts : ℕ
  telemetryInfo : AtlasTelemetryInfo
  recvCmds : List CommandDevice
  execCmds : List CommandDevice

namespace AtlasDevice

variable (env : Env)

/-- A device as `getDevice` creates it. The keep-alive counter and the start of the registration are
not set by the constructor. -/
def new (identity : StdString) : AtlasDevice where
  identity := identity
  registered := false
  kaCtr := env.kaCtr
  policy := none
  stats := env.storedStats identity
  psk := env.selectDevicePsk identity
  ipPort := []
  regTime := []
  keepAliveTime := []
  startRegTime := 0
  regIntervalSec := 0
  keepAlivePkts := 0
  telemetryInfo := .new
  recvCmds := (env.storedCmds identity).1
  execCmds := (env.storedCmds identity).2

/-- `registerEventToJSON`. -/
def registerEventToJSON (device : AtlasDevice) : StdString :=
  jsonFields [(bytes "registered", if device.registered then bytes "true" else bytes "false"),
    (bytes "lastRegisterTime", device.regTime)]

/-- `keepaliveEventToJSON`. -/
def keepaliveEventToJSON (device : AtlasDevice) : StdString :=
  jsonField (bytes "lastKeepAliveTime") device.keepAliveTime

/-- `ipPortToJSON`. -/
def ipPortToJSON (device : AtlasDevice) : StdString := jsonField (bytes "ipPort") device.ipPort

/-- `toJSON`. -/
def toJSON (device : AtlasDevice) : StdString :=
  device.registerEventToJSON
    ++ bytes ",\n" ++ device.keepaliveEventToJSON
    ++ bytes ",\n" ++ device.ipPortToJSON
    ++ bytes ",\n" ++ device.telemetryInfo.toJSON
    ++ bytes ",\n" ++ jsonField (bytes "systemReputation") (env.systemReputation device.identity)
    ++ bytes ",\n" ++
      jsonField (bytes "temperatureReputation") (env.temperatureReputation device.identity)
    ++ bytes ",\n" ++ jsonFields (statsFields device.stats)
    ++ (device.policy.toList.flatMap fun policy => bytes ",\n" ++ jsonFields (policyFields policy))

/-! The operations come with the fragments they hand to `updateDevice`. -/

/-- `setIpPort`. -/
def setIpPort (ipPort : StdString) (device : AtlasDevice) : AtlasDevice × List StdString :=
  if device.ipPort ≠ ipPort then
    let device := { device with ipPort := ipPort }
    (device, [device.ipPortToJSON])
  else (device, [])

/-- `setPolicyInfo`. -/
def setPolicyInfo (policy : AtlasFirewallPolicy) (device : AtlasDevice) :
    AtlasDevice × List StdString :=
  ({ device with toAtlasDevice := device.toAtlasDevice.setPolicyInfo policy },
    if device.policy.any fun old => (old.equal policy).1 then []
    else [jsonFields (policyFields policy)])

/-- `setFeature`. -/
def setFeature (featureType featureValue : StdString) (device : AtlasDevice) :
    AtlasDevice × List StdString :=
  if featureType = [] then (device, [])
  else
    let (telemetryInfo, value) := device.telemetryInfo.getFeature featureType
    if value ≠ featureValue then
      let telemetryInfo := telemetryInfo.setFeature featureType featureValue
      ({ device with telemetryInfo := telemetryInfo }, [telemetryInfo.featureToJSON featureType])
    else ({ device with telemetryInfo := telemetryInfo }, [])

/-- `registerNow`. -/
def registerNow (device : AtlasDevice) : AtlasDevice × List StdString :=
  let device := { device with
    toAtlasDevice := device.toAtlasDevice.registerNow
    startRegTime := env.now
    regTime := env.toSimpleString env.now
    telemetryInfo := device.telemetryInfo.clearFeatures }
  (device, [device.toJSON env])

/-- `keepAliveNow`. -/
def keepAliveNow (device : AtlasDevice) : AtlasDevice × List StdString :=
  let device := { device with
    toAtlasDevice := device.toAtlasDevice.keepAliveNow
    keepAliveTime := env.toSimpleString env.now
    keepAlivePkts := device.keepAlivePkts + 1 }
  (device, [device.keepaliveEventToJSON])

/-- `keepAliveExpired`. -/
def keepAliveExpired (device : AtlasDevice) : AtlasDevice × List StdString :=
  if device.expires then
    let device := { device with
      toAtlasDevice := device.toAtlasDevice.keepAliveExpired
      regIntervalSec := device.regIntervalSec + (env.now - device.startRegTime) }
    (device, [device.registerEventToJSON])
  else ({ device with toAtlasDevice := device.toAtlasDevice.keepAliveExpired }, [])

/-- What the keep-alive alarm does to a device. -/
def keepaliveAlarm (device : AtlasDevice) : AtlasDevice × List StdString :=
  if device.registered then device.keepAliveExpired env else (device, [])

/-- `pushAlerts`: the alerts catch the text exceptions only, and `sendRequest` throws none. -/
def pushAlerts : Except CppException Unit := sendRequest env.alerts

/-! ## The firewall's view

Each operation does to the device of the firewall what the model of the firewall says. -/

@[simp] theorem toAtlasDevice_setIpPort (ipPort : StdString) (device : AtlasDevice) :
    (device.setIpPort ipPort).1.toAtlasDevice = device.toAtlasDevice := by
  rw [setIpPort]
  split <;> rfl

@[simp] theorem toAtlasDevice_setPolicyInfo (policy : AtlasFirewallPolicy) (device : AtlasDevice) :
    (device.setPolicyInfo policy).1.toAtlasDevice = device.toAtlasDevice.setPolicyInfo policy := rfl

@[simp] theorem toAtlasDevice_setFeature (featureType featureValue : StdString)
    (device : AtlasDevice) :
    (device.setFeature featureType featureValue).1.toAtlasDevice = device.toAtlasDevice := by
  rw [setFeature]
  split
  · rfl
  · dsimp only
    split <;> rfl

@[simp] theorem toAtlasDevice_registerNow (device : AtlasDevice) :
    (device.registerNow env).1.toAtlasDevice = device.toAtlasDevice.registerNow := rfl

@[simp] theorem toAtlasDevice_keepAliveNow (device : AtlasDevice) :
    (device.keepAliveNow env).1.toAtlasDevice = device.toAtlasDevice.keepAliveNow := rfl

@[simp] theorem toAtlasDevice_keepaliveAlarm (device : AtlasDevice) :
    (device.keepaliveAlarm env).1.toAtlasDevice = device.toAtlasDevice.keepaliveAlarm := by
  rw [keepaliveAlarm, Firewall.AtlasDevice.keepaliveAlarm]
  by_cases hreg : device.registered
  · rw [if_pos hreg, if_pos hreg, keepAliveExpired]
    split <;> rfl
  · rw [if_neg hreg, if_neg hreg]

/-! ## Policy changes

The comparison assigns the rate instead of comparing it, and takes a rate of zero for a
difference. -/

/-- The comparison of two policies comes out right: where they agree in everything but possibly the
rate, they have the same rate exactly when the new one is not zero. -/
def ComparesRight (old policy : AtlasFirewallPolicy) : Prop :=
  old.clientId = policy.clientId → old.qos = policy.qos → old.payloadLen = policy.payloadLen →
    (old.ppm = policy.ppm ↔ policy.ppm ≠ 0)

theorem equal_eq_iff (old policy : AtlasFirewallPolicy) :
    ((old.equal policy).1 = true ↔ old = policy) ↔ ComparesRight old policy := by
  obtain ⟨clientId, qos, ppm, payloadLen⟩ := old
  obtain ⟨clientId', qos', ppm', payloadLen'⟩ := policy
  simp only [AtlasFirewallPolicy.equal, AtlasFirewallPolicy.mk.injEq, ComparesRight]
  by_cases hid : clientId = clientId' <;> by_cases hqos : qos = qos' <;>
    by_cases hlen : payloadLen = payloadLen' <;> simp [hid, hqos, hlen, iff_comm]

/-- The device has the new policy afterwards. That an update with it goes to the cloud exactly when
there was no policy or another one, holds exactly when the comparison with the old policy comes out
right. -/
theorem setPolicyInfo_updates_iff (device : AtlasDevice) (policy : AtlasFirewallPolicy) :
    (device.setPolicyInfo policy).1.policy = some policy ∧
    (((device.setPolicyInfo policy).2 = [jsonFields (policyFields policy)] ↔
        device.policy = none ∨ ∃ old, device.policy = some old ∧ old ≠ policy) ↔
      ∀ old ∈ device.policy, ComparesRight old policy) := by
  refine ⟨Firewall.AtlasDevice.policy_setPolicyInfo _ _, ?_⟩
  cases hold : device.policy with
  | none => simp [setPolicyInfo, hold]
  | some old =>
    have hupdates : (device.setPolicyInfo policy).2 = [jsonFields (policyFields policy)] ↔
        ¬ (old.equal policy).1 = true := by
      cases hequal : (old.equal policy).1 <;> simp [setPolicyInfo, hold, hequal]
    have hother : (some old = none ∨ ∃ old', some old = some old' ∧ old' ≠ policy) ↔
        ¬ old = policy := by simp
    rw [hupdates, hother, not_iff_not, equal_eq_iff]
    simp

/-- A policy for `lamp` with this rate. -/
def samplePolicy (ppm : UInt16) : AtlasFirewallPolicy := ⟨bytes "lamp", 1, ppm, 100⟩

/-- A new device called `lamp` with this policy. -/
def withPolicy (policy : AtlasFirewallPolicy) : AtlasDevice :=
  { identity := bytes "lamp", registered := true, kaCtr := 4, policy := some policy, stats := {},
    psk := [], ipPort := [], regTime := [], keepAliveTime := [], startRegTime := 0,
    regIntervalSec := 0, keepAlivePkts := 0, telemetryInfo := .new, recvCmds := [], execCmds := [] }

/-- A new rate does not reach the cloud, and a rate of zero that is not new does. -/
theorem setPolicyInfo_misses_rate :
    ((withPolicy (samplePolicy 60)).setPolicyInfo (samplePolicy 120)).2 = [] ∧
    samplePolicy 60 ≠ samplePolicy 120 ∧
    ((withPolicy (samplePolicy 0)).setPolicyInfo (samplePolicy 0)).2 =
      [jsonFields (policyFields (samplePolicy 0))] := by
  decide

end AtlasDevice

end Atlas.Devices
