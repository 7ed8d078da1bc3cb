import Atlas.Firewall.DeviceMoves
import Atlas.Lib.Duplex

/-! # The gateway and the plug-in together

The gateway is the server and the broker plug-in the client of one connection. On the wire they
exchange bytes (`wire`). A device gets a policy only after it has registered, and its registration
arrived in one datagram, so its identity is short enough for every message, and the system on the
wire runs like the one with typed messages (`wire_encodes`).

Reference: `AtlasPubSubAgent.cpp` (`handleAccept`, `handleRead`, `write`), `AtlasFilter.cpp`
(`gatewayConnect`, `handleRead`, `write`).
-/

namespace Atlas.Firewall

open ByteOrder Gateway
open AtlasPubSubAgent (Call)

/-- What happens at the gateway, apart from commands of the plug-in. -/
inductive GatewayEvent where
  | register (env : Env) (pskIdentity : StdString) (req : Datagram)
  | keepalive (env : Env) (pskIdentity : StdString) (req : Datagram)
  | firewallPolicy (env : Env) (pskIdentity : StdString) (req : Datagram)
  | keepaliveAlarm (env : Env)
  | firewallStatisticsAlarm (env : Env)

/-- What happens at the plug-in, apart from commands of the gateway. -/
inductive PluginEvent where
  | timer
  | packet (pkt : AtlasPacket)

/-- A packet and whether the broker processed it. -/
structure Verdict where
  pkt : AtlasPacket
  processPkt : Bool
deriving DecidableEq

variable (host : ByteOrder)

/-- The calls to the agent on an event at the gateway. -/
def gatewayStep (manager : AtlasDeviceManager) : GatewayEvent → AtlasDeviceManager × List Call
  | .register env pskIdentity req => ((registerCallback host env manager pskIdentity req.1).1, [])
  | .keepalive env pskIdentity req => ((keepaliveCallback host env manager pskIdentity req.1).1, [])
  | .firewallPolicy env pskIdentity req =>
    let (manager, calls, _) := firewallPolicyCallback host env manager pskIdentity req.1
    (manager, calls)
  | .keepaliveAlarm env => manager.keepaliveAlarmCallback env
  | .firewallStatisticsAlarm env => (manager, manager.firewallStatisticsAlarmCallback env)

/-- An event at the plug-in. -/
def pluginStep (filter : AtlasFilter) : PluginEvent → AtlasFilter × List Verdict
  | .timer => (filter.timerHandler, [])
  | .packet pkt => ((filter.filter pkt).1, [⟨pkt, (filter.filter pkt).2⟩])

/-- The system on the wire. -/
def wire : Duplex.Protocol AtlasDeviceManager AtlasFilter (List UInt8) (List UInt8) GatewayEvent
    PluginEvent AtlasPacketPolicer Env Verdict where
  server manager e :=
    let (manager, calls) := gatewayStep host manager e
    (manager, calls.flatMap (AtlasPubSubAgent.perform host))
  client := pluginStep
  connect filter := (filter.gatewayConnect, [AtlasFilter.getFwRulesCmd host])
  readDown fresh filter frame := filter.processCommand host fresh frame
  readUp env manager frame :=
    let (manager, calls) := AtlasPubSubAgent.processCommand host env manager frame
    (manager, calls.flatMap (AtlasPubSubAgent.perform host))

/-- The system with typed messages. -/
def messages : Duplex.Protocol AtlasDeviceManager AtlasFilter Call Reply GatewayEvent PluginEvent
    AtlasPacketPolicer Env Verdict where
  server := gatewayStep host
  client := pluginStep
  connect filter := (filter.gatewayConnect, [.getAllFirewallRules])
  readDown fresh filter call := filter.handle fresh call
  readUp env manager reply := AtlasPubSubAgent.handle env manager reply

/-- A state of the system on the wire. -/
abbrev WireState := Duplex.State AtlasDeviceManager AtlasFilter (List UInt8) (List UInt8)

/-- A state of the system with typed messages. -/
abbrev SystemState := Duplex.State AtlasDeviceManager AtlasFilter Call Reply

/-- Gateway and broker are started, the plug-in has not connected. -/
def wireInit : WireState := ⟨.init, .init, none⟩

/-- The same with typed messages. -/
def systemInit : SystemState := ⟨.init, .init, none⟩

/-- The state on the wire. -/
def onWire (s : SystemState) : WireState := s.encode (·.frame host) (Reply.frame host)

/-! ## The wire carries the messages -/

section

variable {host} {manager : AtlasDeviceManager}

theorem traces_gatewayStep (hsound : manager.Sound) (e : GatewayEvent) :
    Traces False manager (gatewayStep host manager e).2 (gatewayStep host manager e).1 := by
  cases e with
  | register env pskIdentity req => exact .registerCallback env manager pskIdentity req
  | keepalive env pskIdentity req => exact .keepaliveCallback env manager pskIdentity req.1
  | firewallPolicy env pskIdentity req =>
    exact .firewallPolicyCallback env manager pskIdentity req.1
  | keepaliveAlarm env => exact .keepaliveAlarmCallback env hsound
  | firewallStatisticsAlarm env => exact .firewallStatisticsAlarmCallback env hsound

theorem traces_handle (hsound : manager.Sound) (env : Env) (reply : Reply) :
    Traces True manager (AtlasPubSubAgent.handle env manager reply).2
      (AtlasPubSubAgent.handle env manager reply).1 := by
  cases reply with
  | getAllFirewallRules => exact .installAllPolicies env hsound
  | putStatFirewallRule clientId delta =>
    simp only [AtlasPubSubAgent.handle]
    split
    case isTrue => exact .refl manager
    case isFalse => exact .updateFirewallStats env manager trivial clientId delta

/-- The frames of calls that fit. -/
theorem flatMap_perform {calls : List Call} (h : ∀ call ∈ calls, Fits call.clientId) :
    calls.flatMap (AtlasPubSubAgent.perform host) = calls.map (·.frame host) := by
  induction calls with
  | nil => rfl
  | cons call calls ih =>
    have hcall := h call List.mem_cons_self
    rw [List.flatMap_cons, ih fun call hc => h call (List.mem_cons_of_mem _ hc), List.map_cons,
      AtlasPubSubAgent.perform_eq host call hcall, AtlasPubSubAgent.frame_eq host call hcall]
    rfl

/-- The plug-in reports on clients it was asked about. -/
theorem sendable_handle {call : Call} (h : Fits call.clientId) (fresh : AtlasPacketPolicer)
    (filter : AtlasFilter) : ∀ reply ∈ (filter.handle fresh call).2, reply.Sendable := by
  cases call with
  | installFirewallRule policy => simp [AtlasFilter.handle]
  | removeFirewallRule clientId => simp [AtlasFilter.handle]
  | getFirewallRuleStats clientId =>
    simpa [AtlasFilter.handle, Reply.Sendable, Call.clientId] using h

end

/-- Bytes on the wire are typed messages. -/
theorem wire_encodes :
    Duplex.Encodes (messages host) (wire host) (·.frame host) (Reply.frame host)
      AtlasDeviceManager.Sound (fun call => Fits call.clientId) Reply.Sendable where
  server manager e hsound := by
    obtain ⟨hsound', hfits⟩ := (traces_gatewayStep hsound e).sound hsound
    refine ⟨hsound', hfits, ?_⟩
    simp only [wire, messages, flatMap_perform hfits]
  client := rfl
  connect filter := ⟨by simp [messages, Reply.Sendable], rfl⟩
  readDown fresh filter call hfits :=
    ⟨sendable_handle hfits fresh filter, filter.processCommand_frame host fresh call hfits⟩
  readUp env manager reply hsound hsend := by
    obtain ⟨hsound', hfits⟩ := (traces_handle hsound env reply).sound hsound
    refine ⟨hsound', hfits, ?_⟩
    simp only [wire, messages,
      AtlasPubSubAgent.agent_processCommand_frame host env manager reply hsend,
      flatMap_perform hfits]

theorem sound_systemInit : systemInit.server.Sound := fun _ _ hd => nomatch hd

/-- A run on the wire is a run of typed messages, and all identities and messages in it fit. -/
theorem run_wire (es : List (Duplex.Event GatewayEvent PluginEvent AtlasPacketPolicer Env)) :
    EventMachine.run (wire host).step wireInit es =
        onWire host (EventMachine.run (messages host).step systemInit es) ∧
      (EventMachine.run (messages host).step systemInit es).server.Sound ∧
      (EventMachine.run (messages host).step systemInit es).Valid (fun call => Fits call.clientId)
        Reply.Sendable := by
  have hvalid : systemInit.Valid (fun call => Fits call.clientId) Reply.Sendable :=
    fun c hc => nomatch hc
  obtain ⟨hrun, -, hlast⟩ := (wire_encodes host).run sound_systemInit hvalid es
  exact ⟨hrun, hlast⟩

/-- A plug-in connects, and a device registers and asks for a policy with QoS 258 before the request
for all rules is answered. -/
def policyRun : List (Duplex.Event GatewayEvent PluginEvent AtlasPacketPolicer Env) :=
  let env : Env := ⟨fun _ => [1], fun _ => {}, 0, fun _ => 0⟩
  let fresh : AtlasPacketPolicer := ⟨0, 9, 9, 9, 0, 0⟩
  [.connect, .accept,
    .server (.register env [65] ⟨[0, 0, 0, 1, 65, 0, 3, 0, 1, 66], by decide⟩),
    .server (.firewallPolicy env [65]
      ⟨[4, 76, 0, 2, 1, 2, 4, 77, 0, 2, 0, 60, 4, 78, 0, 2, 0, 100], by decide⟩),
    .readUp env, .readDown fresh, .readDown fresh]

end Atlas.Firewall
