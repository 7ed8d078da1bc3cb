import Atlas.Firewall.Agent

/-! # The messages between the gateway and the plug-in

Each command on the connection is one record whose value is a batch of records again. A client id of
at most 65499 bytes keeps every length below 65536, so no length field overflows, and what one side
writes the other reads back. The handlers of both sides are then functions of typed messages
(`processCommand_frame`).

Reference: the encoders and decoders of `mosquitto_plugin/filter/AtlasFilter.cpp` and
`pubsub_agent/AtlasPubSubAgent.cpp`.
-/

namespace Atlas.Firewall

open ByteOrder Gateway
open AtlasPubSubAgent (Call)

/-- A client id that no message truncates. The largest is the report of the statistics, with the
client id and four counters. -/
def Fits (clientId : StdString) : Prop := clientId ≠ [] ∧ clientId.length ≤ 65499

instance (clientId : StdString) : Decidable (Fits clientId) := inferInstanceAs (Decidable (_ ∧ _))

/-- The record of a client id. -/
def clientIdRecord {clientId : StdString} (h : Fits clientId) : Tlv.Record :=
  ⟨CommandType.clientId, clientId, Nat.lt_of_le_of_lt h.2 (by decide)⟩

/-- The record of a 16-bit number. -/
def numberRecord (type n : UInt16) : Tlv.Record := ⟨type, be16 n, by simp⟩

/-- The record of a 32-bit counter. -/
def counterRecord (type : UInt16) (n : UInt32) : Tlv.Record := ⟨type, be32 n, by simp⟩

theorem length_clientIdRecord {clientId : StdString} (h : Fits clientId) :
    (Tlv.encode (clientIdRecord h)).length ≤ 65503 := by
  rw [Tlv.length_encode]
  exact Nat.add_le_add_left h.2 4

theorem length_numberRecord (type n : UInt16) : (Tlv.encode (numberRecord type n)).length = 6 := rfl

theorem length_counterRecord (type : UInt16) (n : UInt32) :
    (Tlv.encode (counterRecord type n)).length = 8 := rfl

variable (host : ByteOrder)

/-! ## Calls -/

namespace AtlasPubSubAgent

/-- The client a call is about. -/
def Call.clientId : Call → StdString
  | .installFirewallRule policy => policy.clientId
  | .removeFirewallRule clientId => clientId
  | .getFirewallRuleStats clientId => clientId

/-- The type of the command a call becomes. -/
def Call.type : Call → UInt16
  | .installFirewallRule _ => CommandType.installFirewallRule
  | .removeFirewallRule _ => CommandType.removeFirewallRule
  | .getFirewallRuleStats _ => CommandType.getStatFirewallRule

/-- The records inside the command of a call. -/
def Call.inner : (call : Call) → Fits call.clientId → List Tlv.Record
  | .installFirewallRule policy, h =>
    [clientIdRecord h, numberRecord CommandType.maxQos policy.qos,
      numberRecord CommandType.ppm policy.ppm,
      numberRecord CommandType.maxPayloadLen policy.payloadLen]
  | .removeFirewallRule _, h => [clientIdRecord h]
  | .getFirewallRuleStats _, h => [clientIdRecord h]

/-- The bytes written for a call. -/
def Call.frame (call : Call) : List UInt8 := (perform host call).flatten

theorem Call.length_inner (call : Call) (h : Fits call.clientId) :
    (Tlv.encodeAll (call.inner h)).length < 65536 := by
  have hid := length_clientIdRecord h
  cases call with
  | installFirewallRule policy =>
    simp only [Call.inner, Tlv.encodeAll_cons, Tlv.encodeAll_nil, List.length_append,
      length_numberRecord, List.length_nil]
    omega
  | removeFirewallRule clientId =>
    simp only [Call.inner, Tlv.encodeAll_cons, Tlv.encodeAll_nil, List.append_nil]
    omega
  | getFirewallRuleStats clientId =>
    simp only [Call.inner, Tlv.encodeAll_cons, Tlv.encodeAll_nil, List.append_nil]
    omega

/-- A call is one command, and its value is the batch of the inner records. -/
theorem perform_eq (call : Call) (h : Fits call.clientId) :
    perform host call = [Tlv.encode ⟨call.type, _, call.length_inner h⟩] := by
  rw [← AtlasCommandBatch.nested_ofRecord host call.type (call.length_inner h)]
  cases call with
  | installFirewallRule policy =>
    simp [perform, installFirewallRule, Call.inner, Call.type, AtlasCommand.new, clientIdRecord,
      numberRecord, AtlasCommand.ofRecord, Call.clientId, Tlv.Record.len]
  | removeFirewallRule clientId =>
    have hne : clientId ≠ [] := h.1
    simp [perform, removeFirewallRule, hne, Call.inner, Call.type, AtlasCommand.new, clientIdRecord,
      AtlasCommand.ofRecord, Call.clientId, Tlv.Record.len]
  | getFirewallRuleStats clientId =>
    have hne : clientId ≠ [] := h.1
    simp [perform, getFirewallRuleStats, hne, Call.inner, Call.type, AtlasCommand.new,
      clientIdRecord, AtlasCommand.ofRecord, Call.clientId, Tlv.Record.len]

theorem frame_eq (call : Call) (h : Fits call.clientId) :
    call.frame host = Tlv.encode ⟨call.type, _, call.length_inner h⟩ := by
  simp [Call.frame, perform_eq host call h]

end AtlasPubSubAgent

/-! ## Commands of the plug-in -/

/-- The commands the plug-in sends to the gateway. -/
inductive Reply where
  | getAllFirewallRules
  | putStatFirewallRule (clientId : StdString) (stats : AtlasFirewallStats)
deriving DecidableEq

namespace Reply

/-- The client id of a report fits. -/
def Sendable : Reply → Prop
  | getAllFirewallRules => True
  | putStatFirewallRule clientId _ => Fits clientId

/-- The bytes the plug-in writes. -/
def frame : Reply → List UInt8
  | getAllFirewallRules => AtlasFilter.getFwRulesCmd host
  | putStatFirewallRule clientId stats =>
    AtlasFilter.writeFirewallStats host clientId stats.ruleDroppedPkts stats.rulePassedPkts
      stats.txDroppedPkts stats.txPassedPkts

/-- The records inside a report. -/
def inner {clientId : StdString} (h : Fits clientId) (stats : AtlasFirewallStats) :
    List Tlv.Record :=
  [clientIdRecord h, counterRecord CommandType.pktDrop stats.ruleDroppedPkts,
    counterRecord CommandType.pktPass stats.rulePassedPkts,
    counterRecord CommandType.txPktDrop stats.txDroppedPkts,
    counterRecord CommandType.txPktPass stats.txPassedPkts]

theorem length_inner {clientId : StdString} (h : Fits clientId) (stats : AtlasFirewallStats) :
    (Tlv.encodeAll (inner h stats)).length < 65536 := by
  have hid := length_clientIdRecord h
  simp only [inner, Tlv.encodeAll_cons, Tlv.encodeAll_nil, List.length_append,
    length_counterRecord, List.length_nil]
  omega

theorem frame_putStatFirewallRule {clientId : StdString} (h : Fits clientId)
    (stats : AtlasFirewallStats) :
    frame host (.putStatFirewallRule clientId stats) =
      Tlv.encode ⟨CommandType.putStatFirewallRule, _, length_inner h stats⟩ := by
  rw [← AtlasCommandBatch.nested_ofRecord host _ (length_inner h stats)]
  simp [frame, AtlasFilter.writeFirewallStats, inner, AtlasCommand.new, clientIdRecord,
    counterRecord, AtlasCommand.ofRecord, Tlv.Record.len]

theorem frame_getAllFirewallRules :
    frame host .getAllFirewallRules =
      Tlv.encode ⟨CommandType.getAllFirewallRules, [], by decide⟩ := by
  simp [frame, AtlasFilter.getFwRulesCmd, AtlasCommandBatch.getSerializedAddedCommands,
    AtlasCommandBatch.serialize, Tlv.encode, Tlv.Record.header, Tlv.Record.len]

end Reply

/-! ## The handlers on typed messages -/

namespace AtlasFilter

/-- What the plug-in does on a call of the gateway. -/
def handle (fresh : AtlasPacketPolicer) (filter : AtlasFilter) : Call → AtlasFilter × List Reply
  | .installFirewallRule policy =>
    ({ rules := Function.update filter.rules policy.clientId
        (some (.new policy.qos.toUInt8 policy.ppm policy.payloadLen))
       txPktStats := Function.update filter.txPktStats policy.clientId (some {}) }, [])
  | .removeFirewallRule clientId =>
    ({ rules := Function.update filter.rules clientId none
       txPktStats := Function.update filter.txPktStats clientId none }, [])
  | .getFirewallRuleStats clientId =>
    let rule := (filter.rules clientId).getD fresh
    let tx := (filter.txPktStats clientId).getD {}
    ({ rules := Function.update filter.rules clientId
        (some { rule with statPktDrop := 0, statPktPass := 0 })
       txPktStats := Function.update filter.txPktStats clientId (some {}) },
      [.putStatFirewallRule clientId
        ⟨rule.statPktDrop, rule.statPktPass, tx.droppedPkts, tx.passedPkts⟩])

variable (fresh : AtlasPacketPolicer) (filter : AtlasFilter)

/-- A frame of one record is one command. -/
theorem processCommand_encode (r : Tlv.Record) :
    filter.processCommand host fresh (Tlv.encode r) = filter.dispatch host fresh (.ofRecord r) := by
  simp [processCommand]

theorem readInstall_inner (policy : AtlasFirewallPolicy) (h : Fits policy.clientId) :
    readInstall host (Tlv.encodeAll (Call.inner (.installFirewallRule policy) h)) =
      some (policy.clientId, ⟨policy.qos, policy.ppm, policy.payloadLen⟩) := by
  simp [readInstall, Call.inner, clientIdRecord, numberRecord, InstallFields.read,
    AtlasCommand.ofRecord, Tlv.Record.len, Call.clientId, h.1, CommandType.clientId,
    CommandType.maxQos, CommandType.ppm, CommandType.maxPayloadLen]

/-- Every call names its client. -/
theorem readClientId_inner (call : Call) (h : Fits call.clientId) :
    readClientId host (Tlv.encodeAll (call.inner h)) = call.clientId := by
  cases call <;>
    simp [readClientId, Call.inner, clientIdRecord, numberRecord, AtlasCommand.ofRecord,
      CommandType.clientId, CommandType.maxQos, CommandType.ppm, CommandType.maxPayloadLen]

/-- The plug-in reads what the agent wrote. -/
theorem processCommand_frame (call : Call) (h : Fits call.clientId) :
    filter.processCommand host fresh (call.frame host) =
      ((filter.handle fresh call).1, (filter.handle fresh call).2.map (Reply.frame host)) := by
  rw [AtlasPubSubAgent.frame_eq host call h, processCommand_encode]
  cases call with
  | installFirewallRule policy =>
    have hread := readInstall_inner host policy h
    simp [dispatch, AtlasCommand.ofRecord, Call.type, installFirewallRule, hread, handle]
  | removeFirewallRule clientId =>
    have hne : clientId ≠ [] := h.1
    have hread := readClientId_inner host (.removeFirewallRule clientId) h
    simp [dispatch, AtlasCommand.ofRecord, Call.type, Call.clientId, removeFirewallRule, hread,
      handle, hne, CommandType.installFirewallRule, CommandType.removeFirewallRule]
  | getFirewallRuleStats clientId =>
    have hne : clientId ≠ [] := h.1
    have hread := readClientId_inner host (.getFirewallRuleStats clientId) h
    simp [dispatch, AtlasCommand.ofRecord, Call.type, Call.clientId, getFirewallRuleStats, hread,
      handle, hne, CommandType.installFirewallRule, CommandType.removeFirewallRule,
      CommandType.getStatFirewallRule, Reply.frame]

end AtlasFilter

namespace AtlasPubSubAgent

variable (env : Env) (manager : AtlasDeviceManager)

/-- What the gateway does on a command of the plug-in. -/
def handle : Reply → AtlasDeviceManager × List Call
  | .getAllFirewallRules => (manager, manager.installAllPolicies env)
  | .putStatFirewallRule clientId delta =>
    (if delta = {} then manager else manager.updateFirewallStats env clientId delta, [])

theorem agent_processCommand_encode (r : Tlv.Record) :
    processCommand host env manager (Tlv.encode r) = dispatch host env manager (.ofRecord r) := by
  simp [processCommand]

theorem readStat_inner {clientId : StdString} (h : Fits clientId) (stats : AtlasFirewallStats) :
    readStat host (Tlv.encodeAll (Reply.inner h stats)) = some (clientId, stats) := by
  simp [readStat, Reply.inner, clientIdRecord, counterRecord, StatFields.read,
    AtlasCommand.ofRecord, Tlv.Record.len, h.1, CommandType.clientId, CommandType.pktDrop,
    CommandType.pktPass, CommandType.txPktDrop, CommandType.txPktPass]

/-- The gateway reads what the plug-in wrote. -/
theorem agent_processCommand_frame (reply : Reply) (h : reply.Sendable) :
    processCommand host env manager (reply.frame host) = handle env manager reply := by
  cases reply with
  | getAllFirewallRules =>
    rw [Reply.frame_getAllFirewallRules, agent_processCommand_encode]
    rfl
  | putStatFirewallRule clientId stats =>
    have hfits : Fits clientId := h
    have hread := readStat_inner host hfits stats
    rw [Reply.frame_putStatFirewallRule host hfits, agent_processCommand_encode]
    simp [dispatch, AtlasCommand.ofRecord, processFirewallRuleStat, hread, handle,
      CommandType.getAllFirewallRules, CommandType.putStatFirewallRule]

end AtlasPubSubAgent

end Atlas.Firewall
