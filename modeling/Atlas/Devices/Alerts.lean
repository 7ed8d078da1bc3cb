import Atlas.Devices.Requests
import Atlas.Gateway.FailedSends

/-! # Telemetry alerts

A registration pushes all telemetry alerts of the device to its client, one request each, under the
address the client registered with. An alert catches a `const char *` only, so the first request
that cannot be sent ends the loop and the registration with an exception (`pushAlerts_eq`).

Reference: `telemetry/AtlasAlert.cpp`, `telemetry/AtlasPushAlert.cpp`,
`telemetry/AtlasThresholdAlert.cpp`, `telemetry/AtlasAlertFactory.cpp`, `device/AtlasDevice.cpp`
(`installDefaultAlerts`, `pushAlerts`), `register/AtlasRegister.cpp` (`registerCallback`).
-/

namespace Atlas.Devices

open ByteOrder Gateway
open Firewall (readRegister)

/-- `AtlasAlert`: the path on the client, and the commands `pushCommand` puts in its batch. -/
structure AtlasAlert where
  path : StdString
  commands : List AtlasCommand

/-- A request for an alert, a `PUT` over DTLS. -/
structure AlertRequest where
  identity : StdString
  psk : StdString
  url : StdString
  payload : List UInt8
deriving DecidableEq

section

variable (host : ByteOrder)

/-- `AtlasPushAlert`: `ATLAS_CMD_TELEMETRY_ALERT_EXT_PUSH_RATE`. -/
def AtlasPushAlert (path : StdString) (pushRate : UInt16) : AtlasAlert where
  path := path
  commands := [.new 513 (store16 host (htons host pushRate))]

/-- `AtlasThresholdAlert`: `ATLAS_CMD_TELEMETRY_ALERT_INT_SCAN_RATE` and
`ATLAS_CMD_TELEMETRY_ALERT_THRESHOLD`. -/
def AtlasThresholdAlert (path : StdString) (scanRate : UInt16) (threshold : StdString) :
    AtlasAlert where
  path := path
  commands := [.new 514 (store16 host (htons host scanRate)), .new 515 threshold]

/-- `AtlasAlertFactory::getPushAlert` for every type of `installDefaultAlerts`. -/
def defaultPushAlerts : List AtlasAlert :=
  [AtlasPushAlert host (bytes "client/telemetry/sysinfo/procs/alerts/push") 300,
    AtlasPushAlert host (bytes "client/telemetry/sysinfo/uptime/alerts/push") 120,
    AtlasPushAlert host (bytes "client/telemetry/sysinfo/freeram/alerts/push") 300,
    AtlasPushAlert host (bytes "client/telemetry/sysinfo/sharedram/alerts/push") 300,
    AtlasPushAlert host (bytes "client/telemetry/sysinfo/bufferram/alerts/push") 300,
    AtlasPushAlert host (bytes "client/telemetry/sysinfo/totalswap/alerts/push") 300,
    AtlasPushAlert host (bytes "client/telemetry/sysinfo/freeswap/alerts/push") 300,
    AtlasPushAlert host (bytes "client/telemetry/sysinfo/load1/alerts/push") 120,
    AtlasPushAlert host (bytes "client/telemetry/sysinfo/load5/alerts/push") 120,
    AtlasPushAlert host (bytes "client/telemetry/sysinfo/load15/alerts/push") 120,
    AtlasPushAlert host (bytes "client/telemetry/packets_info/packets_per_min/alerts/push") 60,
    AtlasPushAlert host (bytes "client/telemetry/packets_info/packets_avg/alerts/push") 60]

/-- `AtlasAlertFactory::getThresholdAlert`, likewise. -/
def defaultThresholdAlerts : List AtlasAlert :=
  [AtlasThresholdAlert host (bytes "client/telemetry/sysinfo/procs/alerts/threshold") 10
    (bytes "1000")]

/-- The alerts in the order `pushAlerts` comes to them: the push alerts as the hash map iterates,
then the threshold alerts. -/
def alertsInOrder (position : StdString → ℕ) : List AtlasAlert :=
  ((defaultPushAlerts host).insertionSort fun alert alert' =>
      position alert.path ≤ position alert'.path) ++
    defaultThresholdAlerts host

end

/-- What `sendRequest` does with a request to each URL. -/
abbrev Sends := StdString → Option SendFailure

namespace AtlasAlert

variable (host : ByteOrder) (send : Sends) (device : AtlasDevice) (alert : AtlasAlert)

/-- `AtlasDevice::getUrl` followed by the path. -/
def url (ipPort : StdString) : StdString :=
  bytes "coaps://" ++ ipPort ++ bytes "/" ++ alert.path

/-- The request for an alert. -/
def request : AlertRequest where
  identity := device.identity
  psk := device.psk
  url := alert.url device.ipPort
  payload := AtlasCommandBatch.getSerializedAddedCommands host ⟨alert.commands, []⟩

/-- `pushCommand` of both kinds of alerts: the request sent, if any. -/
def pushCommand : Except CppException (List AlertRequest) :=
  match sendRequest (send (alert.url device.ipPort)) with
  | .ok () => .ok [alert.request host device]
  | .error (.charPtr _) => .ok []
  | .error e => .error e

/-- `AtlasAlert::push`, for a device in memory. -/
def push : Except CppException (List AlertRequest) :=
  if !device.registered then .ok [] else alert.pushCommand host send device

/-- `AtlasAlert::respCallback`: only a request that timed out is sent again. -/
def respCallback (respStatus : CoapResponse) : Except CppException (List AlertRequest) :=
  match respStatus with
  | .timeout => alert.push host send device
  | _ => .ok []

variable {host send device alert}

/-- An alert is pushed as long as its device is offline or its request can be sent. -/
theorem push_eq_ok_iff :
    (∃ requests, alert.push host send device = .ok requests) ↔
      (device.registered = true → send (alert.url device.ipPort) = none) := by
  cases hreg : device.registered with
  | false => simp [push, hreg]
  | true =>
    cases hsend : send (alert.url device.ipPort) <;>
      simp [push, pushCommand, hreg, hsend, sendRequest]

theorem respCallback_eq_ok_iff {respStatus : CoapResponse} :
    (∃ requests, alert.respCallback host send device respStatus = .ok requests) ↔
      (respStatus = .timeout → device.registered = true →
        send (alert.url device.ipPort) = none) := by
  cases respStatus <;> simp [respCallback, push_eq_ok_iff]

end AtlasAlert

/-! ## All alerts of a device -/

/-- The loops of `AtlasDevice::pushAlerts`: the requests sent. -/
def pushEach (host : ByteOrder) (send : Sends) (device : AtlasDevice) :
    List AtlasAlert → Except CppException (List AlertRequest)
  | [] => .ok []
  | alert :: alerts => do
      let requests ← alert.push host send device
      let requests' ← pushEach host send device alerts
      return requests ++ requests'

/-- The failure that ends the loops. -/
def firstFailure (send : Sends) (ipPort : StdString) (alerts : List AtlasAlert) :
    Option SendFailure :=
  alerts.findSome? fun alert => send (alert.url ipPort)

/-- The loops of a registered device end as its first failing request does. -/
theorem pushEach_result {device : AtlasDevice} (hreg : device.registered = true) (host : ByteOrder)
    (send : Sends) (alerts : List AtlasAlert) :
    (pushEach host send device alerts).map (fun _ => ()) =
      sendRequest (firstFailure send device.ipPort alerts) := by
  induction alerts with
  | nil => rfl
  | cons alert alerts ih =>
    cases hsend : send (alert.url device.ipPort) with
    | none =>
      have hrest : firstFailure send device.ipPort (alert :: alerts) =
          firstFailure send device.ipPort alerts := by
        simp [firstFailure, hsend]
      have hpush : alert.push host send device = .ok [alert.request host device] := by
        simp [AtlasAlert.push, AtlasAlert.pushCommand, hreg, hsend, sendRequest]
      rw [hrest, ← ih]
      simp only [pushEach, hpush]
      cases pushEach host send device alerts <;> rfl
    | some failure =>
      have hfirst : firstFailure send device.ipPort (alert :: alerts) = some failure := by
        simp [firstFailure, hsend]
      have hpush : alert.push host send device = .error (.coapException failure.message) := by
        simp [AtlasAlert.push, AtlasAlert.pushCommand, hreg, hsend, sendRequest]
      rw [hfirst]
      simp only [pushEach, hpush]
      rfl

theorem firstFailure_eq_none_iff {send : Sends} {ipPort : StdString} {alerts : List AtlasAlert} :
    firstFailure send ipPort alerts = none ↔ ∀ alert ∈ alerts, send (alert.url ipPort) = none := by
  simp [firstFailure, List.findSome?_eq_none_iff]

/-- What a registration finds outside when each request of an alert has its own outcome. -/
def Env.withSends (host : ByteOrder) (send : Sends) (position : StdString → ℕ)
    (pskIdentity : StdString) (reqPayload : List UInt8) (env : Env) : Env :=
  { env with
    alerts := (readRegister host pskIdentity reqPayload).bind fun fields =>
      firstFailure send fields.ipPort (alertsInOrder host position) }

section

variable {host : ByteOrder} {send : Sends} {position : StdString → ℕ} {pskIdentity : StdString}
  {reqPayload : List UInt8} {env : Env}

theorem alerts_withSends {fields : Firewall.RegisterFields}
    (hread : readRegister host pskIdentity reqPayload = some fields) :
    (env.withSends host send position pskIdentity reqPayload).alerts =
      firstFailure send fields.ipPort (alertsInOrder host position) := by
  simp only [Env.withSends, hread, Option.bind_some]

/-- `pushAlerts` in `registerCallback` is the loop over all alerts of the device that registered. -/
theorem pushAlerts_eq {fields : Firewall.RegisterFields}
    (hread : readRegister host pskIdentity reqPayload = some fields) (device : AtlasDevice) :
    AtlasDevice.pushAlerts (env.withSends host send position pskIdentity reqPayload) =
      (pushEach host send ((device.registerNow env).1.setIpPort fields.ipPort).1
        (alertsInOrder host position)).map fun _ => () := by
  have hreg : ((device.registerNow env).1.setIpPort fields.ipPort).1.registered = true := by
    rw [AtlasDevice.setIpPort]
    split <;> rfl
  have hipPort : ((device.registerNow env).1.setIpPort fields.ipPort).1.ipPort = fields.ipPort := by
    rw [AtlasDevice.setIpPort]
    split
    · rfl
    · rename_i h
      exact not_not.mp h
  rw [pushEach_result hreg, hipPort, AtlasDevice.pushAlerts, alerts_withSends hread]

theorem mem_alertsInOrder (position : StdString → ℕ) {alert : AtlasAlert} :
    alert ∈ alertsInOrder host position ↔
      alert ∈ defaultPushAlerts host ++ defaultThresholdAlerts host := by
  simp only [alertsInOrder, List.mem_append, List.mem_insertionSort]

/-- A registration comes to its end exactly if it is refused or every alert can be sent to the
address the client registers with. -/
theorem registerCallback_eq_ok_iff (manager : AtlasDeviceManager) :
    (∃ handled, registerCallback host (env.withSends host send position pskIdentity reqPayload)
        manager pskIdentity reqPayload = .ok handled) ↔
      ∀ fields, readRegister host pskIdentity reqPayload = some fields →
        (manager.getDevice env fields.identity).2.isSome →
        ∀ alert ∈ defaultPushAlerts host ++ defaultThresholdAlerts host,
          send (alert.url fields.ipPort) = none := by
  cases hread : readRegister host pskIdentity reqPayload with
  | none => simp [registerCallback, hread]
  | some fields =>
    have hget : manager.getDevice (env.withSends host send position pskIdentity reqPayload)
        fields.identity = manager.getDevice env fields.identity := rfl
    simp only [Option.some.injEq, forall_eq', ← mem_alertsInOrder position,
      ← firstFailure_eq_none_iff]
    simp only [registerCallback, hread, hget, AtlasDevice.pushAlerts, alerts_withSends hread]
    rcases manager.getDevice env fields.identity with ⟨manager', _ | device⟩
    · simp
    · cases firstFailure send fields.ipPort (alertsInOrder host position) <;> simp [sendRequest]

end

/-! ## No send fails -/

/-- The functions that push to a client return, and the handlers around them complete, exactly if
none of the sends they attempt fails. -/
theorem pushes_return_iff (host : ByteOrder) (crypto : Crypto) :
    (∀ (failure : Option SendFailure) (d : Device),
      (∃ d' requests, d.pushCommand failure = .ok (d', requests) ∧ (failure ≠ none → d' = d)) ↔
        (d.pushes = true → failure = none)) ∧
    (∀ (send : Sends) (device : AtlasDevice) (alert : AtlasAlert),
      (∃ requests, alert.push host send device = .ok requests) ↔
        (device.registered = true → send (alert.url device.ipPort) = none)) ∧
    (∀ (send : Sends) (device : AtlasDevice) (alert : AtlasAlert) (respStatus : CoapResponse),
      (∃ requests, alert.respCallback host send device respStatus = .ok requests) ↔
        (respStatus = .timeout → device.registered = true →
          send (alert.url device.ipPort) = none)) ∧
    (∀ (send : Sends) (position : StdString → ℕ) (env : Env) (manager : AtlasDeviceManager)
        (pskIdentity : StdString) (reqPayload : List UInt8),
      (∃ handled, registerCallback host (env.withSends host send position pskIdentity reqPayload)
          manager pskIdentity reqPayload = .ok handled) ↔
        ∀ fields, readRegister host pskIdentity reqPayload = some fields →
          (manager.getDevice env fields.identity).2.isSome →
          ∀ alert ∈ defaultPushAlerts host ++ defaultThresholdAlerts host,
            send (alert.url fields.ipPort) = none) ∧
    (∀ (env : Gateway.Env) (p : CommandPayload) (g : State),
      escapes (State.handleClientCommand crypto env p g).result = false ↔
        State.commandPushFails crypto env p g = false) ∧
    (∀ (env : Gateway.Env) (order : List StdString) (g : State),
      (State.alarmCallback env order g).result = .ok () ↔
        ∀ identity ∈ order, State.pushFails env identity g = false) := by
  refine ⟨fun failure d => ?_, fun send device alert => AtlasAlert.push_eq_ok_iff,
    fun send device alert respStatus => AtlasAlert.respCallback_eq_ok_iff,
    fun send position env manager pskIdentity reqPayload => registerCallback_eq_ok_iff manager,
    fun env p g => by rw [State.escapes_handleClientCommand], State.alarmCallback_result⟩
  cases hpushes : d.pushes with
  | false =>
    exact iff_of_true ⟨d, [], d.pushCommand_of_not_pushes hpushes failure, fun _ => rfl⟩ (by simp)
  | true =>
    cases failure with
    | none =>
      obtain ⟨r, hr⟩ := d.pushCommand_of_pushes hpushes none
      exact iff_of_true ⟨r.1, r.2, hr, fun h => absurd rfl h⟩ fun _ => rfl
    | some failure => simp [d.pushCommand_of_failure hpushes]

/-- Two clients are online with a command each, and the address of the lamp cannot be resolved: the
alarm does not come to the door. -/
def lampUnreachable : State :=
  let online (identity psk : String) (n : UInt32) : Device :=
    { Device.new (bytes identity) (bytes psk) with
      ipPort := bytes "nowhere:5683"
      registered := true
      recvCmds := [.new (bytes identity) n (bytes "ATLAS_CMD_CLIENT_DEVICE_RESTART") []] }
  ((State.fresh (bytes "gateway") false [] sampleDevices).setDevice (bytes "lamp")
    (online "lamp" "psk1" 1)).setDevice (bytes "door") (online "door" "psk2" 2)

theorem failed_send_ends_handlers :
    let env : Gateway.Env := { Gateway.Env.ok with
      sendFailure := fun identity => if identity = bytes "lamp" then
        some .resolveAddress else none }
    escapes (State.alarmCallback env [bytes "lamp", bytes "door"] lampUnreachable).result = true ∧
    (State.alarmCallback env [bytes "lamp", bytes "door"] lampUnreachable).effects = [] ∧
    escapes (State.handleClientCommand sampleCrypto env (sampleCommand "lamp" 3)
      lampUnreachable).result = true ∧
    let reqPayload := sampleRegister (bytes "lamp") (bytes "nowhere:5683") (by decide) (by decide)
    let sends := sampleEnv.withSends .little (fun _ => some .resolveAddress) (fun _ => 0)
      (bytes "lamp") reqPayload
    escapes (registerCallback .little sends .init (bytes "lamp") reqPayload) = true := by
  decide

end Atlas.Devices
