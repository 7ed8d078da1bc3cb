import Atlas.Devices.KeepAlive
import Atlas.Firewall.System

/-! # The firewall's view of the gateway

The model of the firewall keeps of each device what the firewall uses. The callbacks here do to that
part what the callbacks of the firewall's model do. So the gateway is, for the firewall, the server
of the system on the wire, and what is proved of that system holds for the devices here.

Reference: `register/AtlasRegister.cpp`, `policy/AtlasPolicy.cpp`, `telemetry/AtlasTelemetry.cpp`.
-/

namespace Atlas.Devices

open EventMachine ByteOrder
open Gateway (StdString)
open Firewall (readRegister readKeepalive readPolicy GatewayEvent gatewayStep wire wireInit messages
  systemInit run_wire)

namespace AtlasDeviceManager

variable {host : ByteOrder} (env : Env) (manager : AtlasDeviceManager) (pskIdentity : StdString)
  (reqPayload : List UInt8)

theorem firewall_registerCallback {handled : Handled}
    (h : registerCallback host env manager pskIdentity reqPayload = .ok handled) :
    Firewall.registerCallback host env.toEnv manager.firewall pskIdentity reqPayload =
      (handled.manager.firewall, handled.response) := by
  rw [registerCallback] at h
  rw [Firewall.registerCallback]
  cases hread : readRegister host pskIdentity reqPayload with
  | none =>
    rw [hread] at h
    cases h
    rfl
  | some fields =>
    have hfirewall := manager.firewall_getDevice env fields.identity
    rcases hget : manager.getDevice env fields.identity with ⟨manager', _ | device⟩ <;>
      simp only [hread, hget] at h hfirewall <;> simp only [hfirewall]
    · cases h
      rfl
    · cases halerts : AtlasDevice.pushAlerts env <;> rw [halerts] at h <;> cases h
      simp [firewall_setDevice]

theorem firewall_keepaliveCallback :
    Firewall.keepaliveCallback host env.toEnv manager.firewall pskIdentity reqPayload =
      ((keepaliveCallback host env manager pskIdentity reqPayload).manager.firewall,
        (keepaliveCallback host env manager pskIdentity reqPayload).response) := by
  rw [Firewall.keepaliveCallback, keepaliveCallback, onRegistered, firewall_getDevice]
  rcases manager.getDevice env pskIdentity with ⟨manager', _ | device⟩
  · rfl
  · dsimp only [Option.map_some]
    cases device.registered with
    | false => rfl
    | true =>
      cases readKeepalive host pskIdentity reqPayload with
      | none => rfl
      | some fields => simp [firewall_setDevice]

theorem firewall_firewallPolicyCallback :
    Firewall.firewallPolicyCallback host env.toEnv manager.firewall pskIdentity reqPayload =
      ((firewallPolicyCallback host env manager pskIdentity reqPayload).manager.firewall,
        (firewallPolicyCallback host env manager pskIdentity reqPayload).calls,
        (firewallPolicyCallback host env manager pskIdentity reqPayload).response) := by
  rw [Firewall.firewallPolicyCallback, firewallPolicyCallback, onRegistered, firewall_getDevice]
  rcases manager.getDevice env pskIdentity with ⟨manager', _ | device⟩
  · rfl
  · dsimp only [Option.map_some]
    cases device.registered with
    | false => rfl
    | true =>
      cases readPolicy host pskIdentity reqPayload with
      | none => rfl
      | some policy => simp [firewall_setDevice]

/-- Telemetry leaves the firewall's part of a device alone, as a keep-alive request without commands
does. -/
theorem firewall_featureCallback (path : StdString) :
    (Firewall.keepaliveCallback host env.toEnv manager.firewall pskIdentity []).1 =
      (featureCallback host env manager pskIdentity reqPayload path).manager.firewall := by
  have hread : readKeepalive host pskIdentity [] = none := rfl
  rw [Firewall.keepaliveCallback, featureCallback, onRegistered, firewall_getDevice, hread]
  rcases hget : manager.getDevice env pskIdentity with ⟨manager', _ | device⟩
  · rfl
  · dsimp only [Option.map_some]
    cases device.registered with
    | false => rfl
    | true =>
      cases readFeature host pskIdentity reqPayload path with
      | none => rfl
      | some feature =>
        have hstored := find?_of_getDevice hget
        have hid := identity_of_getDevice hget
        simp only [Bool.not_true, Bool.false_eq_true, if_false, firewall_setDevice,
          AtlasDevice.toAtlasDevice_setFeature]
        refine congrArg Firewall.AtlasDeviceManager.mk (Table.save_of_find? ?_).symm
        rw [Table.find?_image, hid, hstored, Option.map_some]

end AtlasDeviceManager

/-- The payload of a request fits in a datagram. -/
def Event.Fits : Event → Prop
  | .request _ _ _ reqPayload => reqPayload.length ≤ 65507
  | .keepaliveAlarm _ => True

/-- The event at the gateway of the firewall's model. -/
def Event.view : (e : Event) → e.Fits → GatewayEvent
  | .request env .register pskIdentity reqPayload, h =>
    .register env.toEnv pskIdentity ⟨reqPayload, h⟩
  | .request env .keepalive pskIdentity reqPayload, h =>
    .keepalive env.toEnv pskIdentity ⟨reqPayload, h⟩
  | .request env .policy pskIdentity reqPayload, h =>
    .firewallPolicy env.toEnv pskIdentity ⟨reqPayload, h⟩
  | .request env (.telemetry _) pskIdentity _, _ => .keepalive env.toEnv pskIdentity ⟨[], by decide⟩
  | .keepaliveAlarm env, _ => .keepaliveAlarm env.toEnv

variable {host : ByteOrder} {manager manager' : AtlasDeviceManager} {e : Event}

/-- The firewall sees the event as an event of its gateway. -/
theorem gatewayStep_view (he : e.Fits) (h : (step host (some manager) e).1 = some manager') :
    (gatewayStep host manager.firewall (e.view he)).1 = manager'.firewall := by
  cases e with
  | keepaliveAlarm env =>
    cases h
    exact congrArg Prod.fst (manager.firewall_keepaliveAlarmCallback env)
  | request env resource pskIdentity reqPayload =>
    simp only [step] at h
    cases hcall : resource.callback host env manager pskIdentity reqPayload with
    | error e =>
      rw [hcall] at h
      cases h
    | ok handled =>
      rw [hcall] at h
      cases h
      cases resource with
      | register => exact congrArg Prod.fst (manager.firewall_registerCallback env _ _ hcall)
      | keepalive =>
        cases hcall
        exact congrArg Prod.fst (manager.firewall_keepaliveCallback env pskIdentity reqPayload)
      | policy =>
        cases hcall
        exact congrArg Prod.fst
          (manager.firewall_firewallPolicyCallback env pskIdentity reqPayload)
      | telemetry path =>
        cases hcall
        exact manager.firewall_featureCallback env pskIdentity reqPayload path

/-- While it is running, the gateway is the server of some state of the system on the wire. -/
def OnWire (host : ByteOrder) (s : Option AtlasDeviceManager) : Prop :=
  ∀ manager, s = some manager →
    ∃ system, Reachable (wire host).step wireInit system ∧ system.server = manager.firewall

theorem OnWire.step {s : Option AtlasDeviceManager} (h : OnWire host s) (he : e.Fits) :
    OnWire host (step host s e).1 := by
  intro manager' hstep
  obtain ⟨manager, rfl, -⟩ := stays_of_step hstep
  obtain ⟨system, ⟨es, rfl⟩, hserver⟩ := h manager rfl
  refine ⟨_, ⟨es ++ [.server (e.view he)], rfl⟩, ?_⟩
  rw [run_append]
  change (gatewayStep host (run (wire host).step wireInit es).server (e.view he)).1 =
    manager'.firewall
  rw [hserver]
  exact gatewayStep_view he hstep

/-- A running gateway is always the server of a state of the system on the wire. So the policy of
each of its devices is for that device, and every message between the gateway and the plug-in has
room for the identity of a registered device. -/
theorem sound_of_run (host : ByteOrder) (es : List Event) (h : ∀ e ∈ es, e.Fits) :
    AllStates (Devices.step host)
      (fun s => ∀ manager, s = some manager → OnWire host s ∧
        ∀ identity, ∀ device ∈ manager.devices.find? identity, device.toAtlasDevice.Sound)
      (some .init) es := by
  refine allStates_of_invariant (I := OnWire host) (fun s e honwire he => honwire.step he) ?_ ?_
    (allSteps_of_forall_mem h _)
  · rintro s honwire manager hs
    obtain ⟨system, ⟨es, rfl⟩, hserver⟩ := honwire manager hs
    refine ⟨honwire, fun identity device hdevice => ?_⟩
    obtain ⟨hwire, hsound, -⟩ := run_wire host es
    rw [hwire] at hserver
    change (run (messages host).step systemInit es).server = manager.firewall at hserver
    rw [hserver] at hsound
    refine hsound identity device.toAtlasDevice ?_
    rw [AtlasDeviceManager.find?_firewall]
    exact Option.mem_map_of_mem _ hdevice
  · rintro _ ⟨⟩
    exact ⟨wireInit, ⟨[], rfl⟩, rfl⟩

end Atlas.Devices
