import Atlas.Commands.Batch
import Atlas.Commands.Xfer
import Atlas.Gateway.Json
import Mathlib.Logic.Function.Basic

/-! # The packet filter of the broker plug-in

`AtlasFilter` keeps a policer for each client with a firewall rule, and transmit statistics. It
installs, removes and reports rules on commands from the gateway, starts a new rate window each
minute, and decides for every packet whether the broker may route it.

A command is read field by field, the last one of a kind counting. The statistics handler indexes
the rule table with an inserting operator: for a client without a rule it creates a policer by the
default constructor, which sets no field. Its contents are an input, `fresh`.

Reference: `mosquitto_plugin/filter/AtlasFilter.cpp`, `AtlasPacketPolicer.cpp`,
`AtlasPacketStats.h`.
-/

namespace Atlas.Firewall

open ByteOrder Gateway

/-! ## Command types -/

namespace CommandType

/-- `ATLAS_CMD_GET_ALL_PUB_SUB_FIREWALL_RULES`. -/
def getAllFirewallRules : UInt16 := 1000

/-- `ATLAS_CMD_PUB_SUB_INSTALL_FIREWALL_RULE`. -/
def installFirewallRule : UInt16 := 1001

/-- `ATLAS_CMD_PUB_SUB_REMOVE_FIREWALL_RULE`. -/
def removeFirewallRule : UInt16 := 1002

/-- `ATLAS_CMD_PUB_SUB_GET_STAT_FIREWALL_RULE`. -/
def getStatFirewallRule : UInt16 := 1003

/-- `ATLAS_CMD_PUB_SUB_PUT_STAT_FIREWALL_RULE`. -/
def putStatFirewallRule : UInt16 := 1004

/-- `ATLAS_CMD_PUB_SUB_CLIENT_ID`. -/
def clientId : UInt16 := 1005

/-- `ATLAS_CMD_PUB_SUB_MAX_QOS`. -/
def maxQos : UInt16 := 1006

/-- `ATLAS_CMD_PUB_SUB_PPM`. -/
def ppm : UInt16 := 1007

/-- `ATLAS_CMD_PUB_SUB_MAX_PAYLOAD_LEN`. -/
def maxPayloadLen : UInt16 := 1008

/-- `ATLAS_CMD_PUB_SUB_PKT_DROP`. -/
def pktDrop : UInt16 := 1009

/-- `ATLAS_CMD_PUB_SUB_PKT_PASS`. -/
def pktPass : UInt16 := 1010

/-- `ATLAS_CMD_PUB_SUB_TX_PKT_DROP`. -/
def txPktDrop : UInt16 := 1011

/-- `ATLAS_CMD_PUB_SUB_TX_PKT_PASS`. -/
def txPktPass : UInt16 := 1012

end CommandType

/-! ## Policers -/

/-- `AtlasPacket`, the fields the filter reads. The source may be unknown. -/
structure AtlasPacket where
  srcClientId : Option StdString
  dstClientId : StdString
  qos : UInt8
  payloadLen : UInt16
deriving DecidableEq

/-- `AtlasPacketPolicer`. -/
structure AtlasPacketPolicer where
  windowPpm : UInt32
  maxQos : UInt8
  ppm : UInt16
  maxPayloadLen : UInt16
  statPktDrop : UInt32
  statPktPass : UInt32
deriving DecidableEq

namespace AtlasPacketPolicer

/-- The constructor with the three limits. -/
def new (maxQos : UInt8) (ppm maxPayloadLen : UInt16) : AtlasPacketPolicer :=
  ⟨0, maxQos, ppm, maxPayloadLen, 0, 0⟩

/-- `filter`: the packet is counted in the window before it is judged. -/
def filter (policer : AtlasPacketPolicer) (pkt : AtlasPacket) : AtlasPacketPolicer × Bool :=
  let policer := { policer with windowPpm := policer.windowPpm + 1 }
  if pkt.qos > policer.maxQos ∨ pkt.payloadLen > policer.maxPayloadLen ∨
      policer.windowPpm.toNat > policer.ppm.toNat then
    ({ policer with statPktDrop := policer.statPktDrop + 1 }, false)
  else ({ policer with statPktPass := policer.statPktPass + 1 }, true)

/-- `rateLimitWindowStart`. -/
def rateLimitWindowStart (policer : AtlasPacketPolicer) : AtlasPacketPolicer :=
  { policer with windowPpm := 0 }

end AtlasPacketPolicer

/-- `AtlasPacketStats`. -/
structure AtlasPacketStats where
  droppedPkts : UInt32 := 0
  passedPkts : UInt32 := 0
deriving DecidableEq

/-- `AtlasFilter`: the rules and the transmit statistics, by client. -/
structure AtlasFilter where
  rules : StdString → Option AtlasPacketPolicer
  txPktStats : StdString → Option AtlasPacketStats

/-- The filter when the plug-in is loaded. -/
def AtlasFilter.init : AtlasFilter := ⟨fun _ => none, fun _ => none⟩

variable (host : ByteOrder)

/-! ## Reading commands -/

/-- The client id of a command, the last one given. -/
def readClientId (cmdBuf : List UInt8) : StdString :=
  (AtlasCommandBatch.parsedCommands host cmdBuf).foldl
    (fun clientId cmd => if cmd.type = CommandType.clientId then cmd.val else clientId) []

/-- The limits of a rule, as an install command gives them. -/
structure Limits where
  maxQos : UInt16
  ppm : UInt16
  maxPayloadLen : UInt16
deriving DecidableEq

/-- The local variables of `installFirewallRule`. -/
structure InstallFields where
  clientId : StdString := []
  maxQos : Option UInt16 := none
  ppm : Option UInt16 := none
  maxPayloadLen : Option UInt16 := none
deriving DecidableEq

/-- The body of the loop of `installFirewallRule`. -/
def InstallFields.read (fields : InstallFields) (cmd : AtlasCommand) : InstallFields :=
  if cmd.type = CommandType.clientId then { fields with clientId := cmd.val }
  else if cmd.type = CommandType.maxQos ∧ cmd.len = 2 then
    { fields with maxQos := (load16? host cmd.val).map (ntohs host) }
  else if cmd.type = CommandType.ppm ∧ cmd.len = 2 then
    { fields with ppm := (load16? host cmd.val).map (ntohs host) }
  else if cmd.type = CommandType.maxPayloadLen ∧ cmd.len = 2 then
    { fields with maxPayloadLen := (load16? host cmd.val).map (ntohs host) }
  else fields

/-- The fields of an install command, if it is well formed: a client id that is not empty and all
three limits. -/
def readInstall (cmdBuf : List UInt8) : Option (StdString × Limits) :=
  let fields := (AtlasCommandBatch.parsedCommands host cmdBuf).foldl (InstallFields.read host) {}
  if fields.clientId = [] then none else
  match fields.maxQos, fields.ppm, fields.maxPayloadLen with
  | some maxQos, some ppm, some maxPayloadLen =>
    some (fields.clientId, ⟨maxQos, ppm, maxPayloadLen⟩)
  | _, _, _ => none

namespace AtlasFilter

/-! ## Handlers -/

/-- `installFirewallRule`. The constructor of the policer takes the QoS as a `uint8_t`. -/
def installFirewallRule (filter : AtlasFilter) (cmdBuf : List UInt8) : AtlasFilter :=
  match readInstall host cmdBuf with
  | none => filter
  | some (clientId, limits) =>
    { rules := Function.update filter.rules clientId
        (some (.new limits.maxQos.toUInt8 limits.ppm limits.maxPayloadLen))
      txPktStats := Function.update filter.txPktStats clientId (some {}) }

/-- `removeFirewallRule`. -/
def removeFirewallRule (filter : AtlasFilter) (cmdBuf : List UInt8) : AtlasFilter :=
  let clientId := readClientId host cmdBuf
  if clientId = [] then filter
  else
    { rules := Function.update filter.rules clientId none
      txPktStats := Function.update filter.txPktStats clientId none }

/-- `writeFirewallStats`: the bytes written to the gateway. -/
def writeFirewallStats (clientId : StdString)
    (ruleDroppedPkts rulePassedPkts txDroppedPkts txPassedPkts : UInt32) : List UInt8 :=
  let counter (type : UInt16) (n : UInt32) : AtlasCommand :=
    .new type (store32 host (htonl host n))
  AtlasCommandBatch.nested host CommandType.putStatFirewallRule
    [.new CommandType.clientId clientId, counter CommandType.pktDrop ruleDroppedPkts,
      counter CommandType.pktPass rulePassedPkts, counter CommandType.txPktDrop txDroppedPkts,
      counter CommandType.txPktPass txPassedPkts]

/-- `getFirewallRuleStats`: the counters are reported and reset. A client without a rule gets the
policer `fresh`, one without transmit statistics gets zeroed ones. -/
def getFirewallRuleStats (fresh : AtlasPacketPolicer) (filter : AtlasFilter)
    (cmdBuf : List UInt8) : AtlasFilter × List (List UInt8) :=
  let clientId := readClientId host cmdBuf
  if clientId = [] then (filter, [])
  else
    let rule := (filter.rules clientId).getD fresh
    let tx := (filter.txPktStats clientId).getD {}
    ({ rules := Function.update filter.rules clientId
          (some { rule with statPktDrop := 0, statPktPass := 0 })
       txPktStats := Function.update filter.txPktStats clientId (some {}) },
      [writeFirewallStats host clientId rule.statPktDrop rule.statPktPass tx.droppedPkts
        tx.passedPkts])

/-- `timerHandler`: every rule starts a new rate window. -/
def timerHandler (filter : AtlasFilter) : AtlasFilter :=
  { filter with rules := fun clientId => (filter.rules clientId).map (·.rateLimitWindowStart) }

/-- The rule table after `gatewayConnect`. The transmit statistics stay. -/
def gatewayConnect (filter : AtlasFilter) : AtlasFilter :=
  { filter with rules := fun _ => none }

/-- The command `gatewayConnect` sends: get all firewall rules. -/
def getFwRulesCmd : List UInt8 :=
  AtlasCommandBatch.getSerializedAddedCommands host ⟨[⟨CommandType.getAllFirewallRules, 0, []⟩], []⟩

/-- The transmit statistics of a packet's source, if it has an entry. -/
def countTx (txPktStats : StdString → Option AtlasPacketStats) (srcClientId : Option StdString)
    (processPkt : Bool) : StdString → Option AtlasPacketStats :=
  match srcClientId with
  | none => txPktStats
  | some src =>
    Function.update txPktStats src ((txPktStats src).map fun stats =>
      if processPkt then { stats with passedPkts := stats.passedPkts + 1 }
      else { stats with droppedPkts := stats.droppedPkts + 1 })

/-- `filter`: whether the broker may process the packet. -/
def filter (filter : AtlasFilter) (pkt : AtlasPacket) : AtlasFilter × Bool :=
  match filter.rules pkt.dstClientId with
  | none => ({ filter with txPktStats := countTx filter.txPktStats pkt.srcClientId true }, true)
  | some policer =>
    let (policer, processPkt) := policer.filter pkt
    ({ rules := Function.update filter.rules pkt.dstClientId (some policer)
       txPktStats := countTx filter.txPktStats pkt.srcClientId processPkt }, processPkt)

/-- One command of `processCommand`. -/
def dispatch (fresh : AtlasPacketPolicer) (filter : AtlasFilter) (cmd : AtlasCommand) :
    AtlasFilter × List (List UInt8) :=
  if cmd.type = CommandType.installFirewallRule then (filter.installFirewallRule host cmd.val, [])
  else if cmd.type = CommandType.removeFirewallRule then
    (filter.removeFirewallRule host cmd.val, [])
  else if cmd.type = CommandType.getStatFirewallRule then
    filter.getFirewallRuleStats host fresh cmd.val
  else (filter, [])

/-- `processCommand`: the filter afterwards, and the replies written to the gateway. -/
def processCommand (fresh : AtlasPacketPolicer) (filter : AtlasFilter) (cmdBuffer : List UInt8) :
    AtlasFilter × List (List UInt8) :=
  (AtlasCommandBatch.parsedCommands host cmdBuffer).foldl
    (fun (filter, replies) cmd =>
      let (filter, replies') := filter.dispatch host fresh cmd
      (filter, replies ++ replies')) (filter, [])

/-- `handleRead`, for a chunk of the stream from the gateway. -/
def handleRead (s : AtlasFilter × AtlasCommandXfer) (chunk : AtlasPacketPolicer × List UInt8) :
    (AtlasFilter × AtlasCommandXfer) × List (AtlasCommandXfer.Processed (List UInt8)) :=
  AtlasCommandXfer.serve host (processCommand host chunk.1) s chunk.2

/-! ## What each handler does to the rule of one client -/

section

variable (f : AtlasFilter) (cmdBuf : List UInt8) (fresh : AtlasPacketPolicer) (c : StdString)

theorem rules_installFirewallRule :
    (f.installFirewallRule host cmdBuf).rules c =
      match readInstall host cmdBuf with
      | none => f.rules c
      | some (clientId, limits) =>
        if clientId = c then some (.new limits.maxQos.toUInt8 limits.ppm limits.maxPayloadLen)
        else f.rules c := by
  rw [installFirewallRule]
  cases readInstall host cmdBuf with
  | none => rfl
  | some p => simp only [Function.update_apply, eq_comm]

/-- A command without a client id changes nothing, and any other one the entry of its client. -/
theorem update_apply_of_ne_nil {α : Type*} (table value : StdString → α) (clientId c : StdString) :
    (if clientId = [] then table else Function.update table clientId (value clientId)) c =
      if c ≠ [] ∧ clientId = c then value c else table c := by
  by_cases hc : clientId = c
  · subst hc
    by_cases hempty : clientId = [] <;> simp [hempty]
  · rw [if_neg (mt And.right hc)]
    by_cases hempty : clientId = []
    · rw [if_pos hempty]
    · rw [if_neg hempty, Function.update_of_ne (Ne.symm hc)]

theorem rules_removeFirewallRule :
    (f.removeFirewallRule host cmdBuf).rules c =
      if c ≠ [] ∧ readClientId host cmdBuf = c then none else f.rules c := by
  rw [removeFirewallRule, apply_ite AtlasFilter.rules]
  exact update_apply_of_ne_nil f.rules (fun _ => none) (readClientId host cmdBuf) c

theorem rules_getFirewallRuleStats :
    (f.getFirewallRuleStats host fresh cmdBuf).1.rules c =
      if c ≠ [] ∧ readClientId host cmdBuf = c then
        some { (f.rules c).getD fresh with statPktDrop := 0, statPktPass := 0 }
      else f.rules c := by
  rw [getFirewallRuleStats, apply_ite Prod.fst, apply_ite AtlasFilter.rules]
  exact update_apply_of_ne_nil f.rules
    (fun c => some { (f.rules c).getD fresh with statPktDrop := 0, statPktPass := 0 })
    (readClientId host cmdBuf) c

theorem rules_filter (pkt : AtlasPacket) :
    (f.filter pkt).1.rules c =
      if pkt.dstClientId = c then (f.rules c).map fun policer => (policer.filter pkt).1
      else f.rules c := by
  rw [AtlasFilter.filter]
  by_cases hc : pkt.dstClientId = c
  · subst hc
    rw [if_pos rfl]
    cases hrule : f.rules pkt.dstClientId <;> simp [hrule]
  · rw [if_neg hc]
    cases f.rules pkt.dstClientId <;> simp [Function.update_of_ne (Ne.symm hc)]

/-- Without a rule for its destination a packet passes, with one it is the policer that decides. -/
theorem filter_snd (pkt : AtlasPacket) :
    (f.filter pkt).2 = match f.rules pkt.dstClientId with
      | none => true
      | some policer => (policer.filter pkt).2 := by
  rw [AtlasFilter.filter]
  cases f.rules pkt.dstClientId <;> rfl

end

end AtlasFilter

end Atlas.Firewall
