import Atlas.Firewall.System
import Mathlib.Algebra.BigOperators.Group.List.Basic
import Mathlib.Tactic.Abel

/-! # No packet is lost or counted twice

The plug-in counts the packets it passes and drops. On a query it reports its counters and resets
them, and the gateway adds the report to what it has stored. For a client with a rule, whose device
is known, the stored counters, the reports under way and the counters of the plug-in together are
everything counted so far (`account`). A packet raises the sum by one for its kind, and every other
event only moves counts from one place to the next (`Tracked.step`), unless the rule is installed
again or removed, or the plug-in reconnects.

The counters have 32 bits, and so has the sum.
-/

namespace Atlas.Firewall

open ByteOrder EventMachine Gateway
open AtlasPubSubAgent (Call)

/-! ## Counters add up -/

attribute [ext] AtlasFirewallStats

instance : Add AtlasFirewallStats := ⟨.add⟩

instance : Zero AtlasFirewallStats := ⟨{}⟩

instance : AddCommMonoid AtlasFirewallStats where
  add_assoc _ _ _ := AtlasFirewallStats.ext (UInt32.add_assoc ..) (UInt32.add_assoc ..)
    (UInt32.add_assoc ..) (UInt32.add_assoc ..)
  zero_add _ := AtlasFirewallStats.ext (UInt32.zero_add _) (UInt32.zero_add _) (UInt32.zero_add _)
    (UInt32.zero_add _)
  add_zero _ := AtlasFirewallStats.ext (UInt32.add_zero _) (UInt32.add_zero _) (UInt32.add_zero _)
    (UInt32.add_zero _)
  add_comm _ _ := AtlasFirewallStats.ext (UInt32.add_comm ..) (UInt32.add_comm ..)
    (UInt32.add_comm ..) (UInt32.add_comm ..)
  nsmul := nsmulRec

/-- The packets of each kind among those the plug-in has judged: dropped or passed by the rule of
the client, and dropped or passed among those the client sent. -/
def tally (clientId : StdString) (verdicts : List Verdict) : AtlasFirewallStats where
  ruleDroppedPkts :=
    .ofNat (verdicts.countP fun v => v.pkt.dstClientId = clientId ∧ v.processPkt = false)
  rulePassedPkts :=
    .ofNat (verdicts.countP fun v => v.pkt.dstClientId = clientId ∧ v.processPkt = true)
  txDroppedPkts :=
    .ofNat (verdicts.countP fun v => v.pkt.srcClientId = some clientId ∧ v.processPkt = false)
  txPassedPkts :=
    .ofNat (verdicts.countP fun v => v.pkt.srcClientId = some clientId ∧ v.processPkt = true)

theorem tally_append (clientId : StdString) (vs ws : List Verdict) :
    tally clientId (vs ++ ws) = tally clientId vs + tally clientId ws := by
  simp only [tally, List.countP_append, UInt32.ofNat_add]
  rfl

/-! ## Where counts are -/

/-- The counters the gateway has stored. -/
def stored (manager : AtlasDeviceManager) (clientId : StdString) : AtlasFirewallStats :=
  (manager.devices.find? clientId).elim 0 (·.stats)

/-- The current counters of the plug-in. -/
def counters (filter : AtlasFilter) (clientId : StdString) : AtlasFirewallStats where
  ruleDroppedPkts := (filter.rules clientId).elim 0 (·.statPktDrop)
  rulePassedPkts := (filter.rules clientId).elim 0 (·.statPktPass)
  txDroppedPkts := (filter.txPktStats clientId).elim 0 (·.droppedPkts)
  txPassedPkts := (filter.txPktStats clientId).elim 0 (·.passedPkts)

/-- The counters of a client in a frame of the plug-in. -/
def reported (host : ByteOrder) (clientId : StdString) (frame : List UInt8) : AtlasFirewallStats :=
  ((AtlasCommandBatch.parsedCommands host frame).map fun cmd =>
    if cmd.type = CommandType.putStatFirewallRule then
      match AtlasPubSubAgent.readStat host cmd.val with
      | some (c, delta) => if c = clientId then delta else 0
      | none => 0
    else 0).sum

/-- The counters of a client in a reply of the plug-in. -/
def Reply.delta (clientId : StdString) : Reply → AtlasFirewallStats
  | getAllFirewallRules => 0
  | putStatFirewallRule c stats => if c = clientId then stats else 0

/-- What is stored, on the way and not yet reported. -/
def account (host : ByteOrder) (clientId : StdString) (s : WireState) : AtlasFirewallStats :=
  stored s.server clientId +
    (s.connection.elim [] (·.up.map (reported host clientId))).sum + counters s.client clientId

/-- The counters of a client in the replies under way. -/
def inFlight (clientId : StdString) (connection : Option (Duplex.Connection Call Reply)) :
    AtlasFirewallStats :=
  (connection.elim [] (·.up.map (Reply.delta clientId))).sum

/-- The account with typed messages. -/
def messageAccount (clientId : StdString) (s : SystemState) : AtlasFirewallStats :=
  stored s.server clientId + inFlight clientId s.connection + counters s.client clientId

theorem inFlight_send (clientId : StdString) (connection : Option (Duplex.Connection Call Reply))
    (calls : List Call) :
    inFlight clientId (connection.map (·.send calls)) = inFlight clientId connection := by
  cases connection with
  | none => rfl
  | some c => cases hacc : c.accepted <;> simp [inFlight, Duplex.Connection.send, hacc]

/-! ## One event -/

section

variable {clientId : StdString} {filter : AtlasFilter} {manager : AtlasDeviceManager}

/-- A policer counts each packet as dropped or as passed. -/
theorem stat_filter (policer : AtlasPacketPolicer) (pkt : AtlasPacket) :
    (policer.filter pkt).1.statPktDrop =
        policer.statPktDrop + (if (policer.filter pkt).2 then 0 else 1) ∧
      (policer.filter pkt).1.statPktPass =
        policer.statPktPass + (if (policer.filter pkt).2 then 1 else 0) := by
  rw [AtlasPacketPolicer.filter]
  split <;> simp

/-- The rule of the destination counts the packet. -/
theorem rule_filter {policer : AtlasPacketPolicer} (hrule : filter.rules clientId = some policer)
    (pkt : AtlasPacket) : ∃ policer', (filter.filter pkt).1.rules clientId = some policer' ∧
      policer'.statPktDrop = policer.statPktDrop +
        (tally clientId [⟨pkt, (filter.filter pkt).2⟩]).ruleDroppedPkts ∧
      policer'.statPktPass = policer.statPktPass +
        (tally clientId [⟨pkt, (filter.filter pkt).2⟩]).rulePassedPkts := by
  rw [AtlasFilter.rules_filter, hrule]
  by_cases hdst : pkt.dstClientId = clientId
  · have hsnd : (filter.filter pkt).2 = (policer.filter pkt).2 := by
      rw [AtlasFilter.filter_snd, hdst, hrule]
    obtain ⟨hdrop, hpass⟩ := stat_filter policer pkt
    refine ⟨(policer.filter pkt).1, by simp [hdst], ?_, ?_⟩
    · rw [hdrop, hsnd]
      cases (policer.filter pkt).2 <;> simp [tally, hdst]
    · rw [hpass, hsnd]
      cases (policer.filter pkt).2 <;> simp [tally, hdst]
  · exact ⟨policer, by simp [hdst], by simp [tally, hdst], by simp [tally, hdst]⟩

/-- The transmit statistics of the source count the packet. -/
theorem tx_filter {tx : AtlasPacketStats} (htx : filter.txPktStats clientId = some tx)
    (pkt : AtlasPacket) : ∃ tx', (filter.filter pkt).1.txPktStats clientId = some tx' ∧
      tx'.droppedPkts = tx.droppedPkts +
        (tally clientId [⟨pkt, (filter.filter pkt).2⟩]).txDroppedPkts ∧
      tx'.passedPkts = tx.passedPkts +
        (tally clientId [⟨pkt, (filter.filter pkt).2⟩]).txPassedPkts := by
  have hfilter : (filter.filter pkt).1.txPktStats =
      AtlasFilter.countTx filter.txPktStats pkt.srcClientId (filter.filter pkt).2 := by
    rw [AtlasFilter.filter]
    cases filter.rules pkt.dstClientId <;> rfl
  rw [hfilter]
  by_cases hsrc : pkt.srcClientId = some clientId
  · cases (filter.filter pkt).2 <;> simp [AtlasFilter.countTx, hsrc, htx, tally]
  · have hsame :
        AtlasFilter.countTx filter.txPktStats pkt.srcClientId (filter.filter pkt).2 clientId =
        filter.txPktStats clientId := by
      cases hc : pkt.srcClientId with
      | none => rfl
      | some src =>
        have hne : clientId ≠ src := fun heq => hsrc (heq ▸ hc)
        exact Function.update_of_ne hne _ _
    exact ⟨tx, hsame.trans htx, by simp [tally, hsrc], by simp [tally, hsrc]⟩

/-- A packet is counted once for each kind it is of. -/
theorem counters_filter (hrule : (filter.rules clientId).isSome)
    (htx : (filter.txPktStats clientId).isSome) (pkt : AtlasPacket) :
    counters (filter.filter pkt).1 clientId =
      counters filter clientId + tally clientId [⟨pkt, (filter.filter pkt).2⟩] := by
  obtain ⟨policer, hpolicer⟩ := Option.isSome_iff_exists.mp hrule
  obtain ⟨tx, htx⟩ := Option.isSome_iff_exists.mp htx
  obtain ⟨policer', hpolicer', hdrop, hpass⟩ := rule_filter hpolicer pkt
  obtain ⟨tx', htx', htxDrop, htxPass⟩ := tx_filter htx pkt
  simp only [counters, hpolicer, hpolicer', htx, htx', Option.elim_some, hdrop, hpass, htxDrop,
    htxPass]
  rfl

theorem handle_of_ne (filter : AtlasFilter) (fresh : AtlasPacketPolicer) {call : Call}
    (hc : call.clientId ≠ clientId) :
    (filter.handle fresh call).1.rules clientId = filter.rules clientId ∧
      (filter.handle fresh call).1.txPktStats clientId = filter.txPktStats clientId := by
  have hne : clientId ≠ call.clientId := Ne.symm hc
  cases call <;> exact ⟨Function.update_of_ne hne _ _, Function.update_of_ne hne _ _⟩

/-- A query moves the counters into a report, and calls about other clients do nothing. -/
theorem counters_handle (hrule : (filter.rules clientId).isSome)
    (htx : (filter.txPktStats clientId).isSome) (fresh : AtlasPacketPolicer) {call : Call}
    (hcall : call.clientId = clientId → call = .getFirewallRuleStats clientId) :
    ((filter.handle fresh call).2.map (Reply.delta clientId)).sum +
      counters (filter.handle fresh call).1 clientId = counters filter clientId := by
  by_cases hc : call.clientId = clientId
  · obtain ⟨policer, hpolicer⟩ := Option.isSome_iff_exists.mp hrule
    obtain ⟨tx, htx⟩ := Option.isSome_iff_exists.mp htx
    obtain rfl := hcall hc
    have hreset :
        counters (filter.handle fresh (.getFirewallRuleStats clientId)).1 clientId = 0 := by
      simp [counters, AtlasFilter.handle]
      rfl
    rw [hreset, add_zero]
    simp [AtlasFilter.handle, Reply.delta, counters, hpolicer, htx]
  · obtain ⟨hrules, htxs⟩ := handle_of_ne filter fresh hc
    have hreplies : ((filter.handle fresh call).2.map (Reply.delta clientId)).sum = 0 := by
      cases call with
      | installFirewallRule policy => rfl
      | removeFirewallRule c => rfl
      | getFirewallRuleStats c =>
        have hne : c ≠ clientId := hc
        simp [AtlasFilter.handle, Reply.delta, hne]
    rw [hreplies, zero_add, counters, hrules, htxs, counters]

theorem find?_updateFirewallStats {device : AtlasDevice}
    (hfind : manager.devices.find? clientId = some device) (env : Env) (c : StdString)
    (delta : AtlasFirewallStats) :
    (manager.updateFirewallStats env c delta).devices.find? clientId =
      some (if c = clientId then { device with stats := device.stats.add delta } else device) := by
  rw [AtlasDeviceManager.updateFirewallStats, AtlasDeviceManager.getDevice]
  by_cases hc : c = clientId
  · subst hc
    have hid : c = device.identity := (Table.key_of_find? hfind).symm
    simp only [hfind, if_true, AtlasDeviceManager.setDevice, Table.find?_save, if_pos hid]
  · have hne : clientId ≠ c := Ne.symm hc
    rw [if_neg hc]
    cases hfind' : manager.devices.find? c with
    | some other =>
      have hid : other.identity = c := Table.key_of_find? hfind'
      simpa only [AtlasDeviceManager.setDevice, Table.find?_save, hid, if_neg hne] using hfind
    | none =>
      by_cases hpsk : env.selectDevicePsk c = []
      · simpa only [if_pos hpsk] using hfind
      · simpa only [if_neg hpsk, AtlasDeviceManager.setDevice, Table.find?_save, if_neg hne]
          using hfind

/-- A report is added to the counters of its device. -/
theorem stored_handle (hdevice : (manager.devices.find? clientId).isSome) (env : Env)
    (reply : Reply) :
    stored (AtlasPubSubAgent.handle env manager reply).1 clientId =
      stored manager clientId + reply.delta clientId := by
  obtain ⟨device, hfind⟩ := Option.isSome_iff_exists.mp hdevice
  cases reply with
  | getAllFirewallRules => simp [AtlasPubSubAgent.handle, Reply.delta]
  | putStatFirewallRule c delta =>
    by_cases hzero : delta = {}
    · -- a report of zeros is skipped
      have hdelta : (Reply.putStatFirewallRule c delta).delta clientId = 0 := by
        simp only [Reply.delta, hzero]
        exact ite_self _
      rw [hdelta, add_zero]
      simp [AtlasPubSubAgent.handle, hzero]
    · simp only [AtlasPubSubAgent.handle, if_neg hzero, stored,
        find?_updateFirewallStats hfind env c delta, hfind, Option.elim_some, Reply.delta]
      by_cases hc : c = clientId
      · simp only [hc, if_true]
        rfl
      · simp only [hc, if_false, add_zero]

theorem isSome_find?_handle (hdevice : (manager.devices.find? clientId).isSome) (env : Env)
    (reply : Reply) :
    ((AtlasPubSubAgent.handle env manager reply).1.devices.find? clientId).isSome := by
  obtain ⟨device, hfind⟩ := Option.isSome_iff_exists.mp hdevice
  cases reply with
  | getAllFirewallRules => exact hdevice
  | putStatFirewallRule c delta =>
    rw [AtlasPubSubAgent.handle]
    split
    case isTrue => exact hdevice
    case isFalse => simp [find?_updateFirewallStats hfind]

/-- There is a device with these counters. -/
def HasStats (stats : AtlasFirewallStats) (device : Option AtlasDevice) : Prop :=
  ∃ d, device = some d ∧ d.stats = stats

/-- Without a report, the counters of a known device stay. -/
theorem Move.hasStats {stats : AtlasFirewallStats} {device device' : Option AtlasDevice}
    {calls : List Call} (h : Move False clientId device calls device')
    (hstats : HasStats stats device) : HasStats stats device' := by
  obtain ⟨device, rfl, rfl⟩ := hstats
  cases h with
  | register _ hfits => exact ⟨_, rfl, rfl⟩
  | keepAlive _ => exact ⟨_, rfl, rfl⟩
  | setPolicy _ policy hreg hid => exact ⟨_, rfl, device.stats_setPolicyInfo policy⟩
  | expire _ =>
    refine ⟨_, rfl, ?_⟩
    rcases device.keepaliveAlarm_cases with ⟨-, kaCtr, h⟩ | ⟨-, kaCtr, h⟩ <;> rw [h]
  | addStats h => exact h.elim
  | getStats _ => exact ⟨_, rfl, rfl⟩
  | install _ => exact ⟨_, rfl, rfl⟩

theorem Traces.hasStats {manager' : AtlasDeviceManager} {calls : List Call}
    {stats : AtlasFirewallStats} (h : Traces False manager calls manager')
    (hstats : HasStats stats (manager.devices.find? clientId)) :
    HasStats stats (manager'.devices.find? clientId) :=
  (h clientId).preserves Move.hasStats hstats

/-- A call that is no install and no remove for the client leaves it a rule and statistics. -/
theorem isSome_handle (hrule : (filter.rules clientId).isSome)
    (htx : (filter.txPktStats clientId).isSome) (fresh : AtlasPacketPolicer) {call : Call}
    (hcall : call.clientId = clientId → call = .getFirewallRuleStats clientId) :
    ((filter.handle fresh call).1.rules clientId).isSome ∧
      ((filter.handle fresh call).1.txPktStats clientId).isSome := by
  by_cases hc : call.clientId = clientId
  · obtain rfl := hcall hc
    simp [AtlasFilter.handle]
  · obtain ⟨hrules, htxs⟩ := handle_of_ne filter fresh hc
    rw [hrules, htxs]
    exact ⟨hrule, htx⟩

end

/-- The timer leaves the counters, and a packet is counted. The client keeps its rule and
statistics. -/
theorem counters_pluginStep {clientId : StdString} {filter : AtlasFilter}
    (hrule : (filter.rules clientId).isSome) (htx : (filter.txPktStats clientId).isSome)
    (e : PluginEvent) :
    ((pluginStep filter e).1.rules clientId).isSome ∧
      ((pluginStep filter e).1.txPktStats clientId).isSome ∧
      counters (pluginStep filter e).1 clientId =
        counters filter clientId + tally clientId (pluginStep filter e).2 := by
  obtain ⟨policer, hpolicer⟩ := Option.isSome_iff_exists.mp hrule
  obtain ⟨tx, htx'⟩ := Option.isSome_iff_exists.mp htx
  cases e with
  | timer =>
    have htimer : (pluginStep filter .timer).1.rules clientId =
        some policer.rateLimitWindowStart := by
      simp [pluginStep, AtlasFilter.timerHandler, hpolicer]
    refine ⟨by simp [htimer], htx, ?_⟩
    have htally : tally clientId (pluginStep filter .timer).2 = 0 := rfl
    rw [htally, add_zero, counters, htimer, counters, hpolicer]
    rfl
  | packet pkt =>
    obtain ⟨policer', hpolicer', -⟩ := rule_filter hpolicer pkt
    obtain ⟨tx', htx', -⟩ := tx_filter htx' pkt
    exact ⟨Option.isSome_iff_exists.mpr ⟨_, hpolicer'⟩, Option.isSome_iff_exists.mpr ⟨_, htx'⟩,
      counters_filter hrule htx pkt⟩

/-! ## Runs -/

/-- The client has a rule and statistics in the plug-in and a device at the gateway. -/
structure Tracked (clientId : StdString) (s : SystemState) : Prop where
  rule : (s.client.rules clientId).isSome
  tx : (s.client.txPktStats clientId).isSome
  device : (s.server.devices.find? clientId).isSome
  sound : s.server.Sound

/-- The next event is no reconnect, and no install or remove for the client. -/
def Leaves (clientId : StdString) (s : SystemState) :
    Duplex.Event GatewayEvent PluginEvent AtlasPacketPolicer Env → Prop
  | .connect => False
  | .readDown _ => ∀ c ∈ s.connection, ∀ call ∈ c.down.head?,
      call.clientId = clientId → call = .getFirewallRuleStats clientId
  | _ => True

variable (host : ByteOrder)

/-- A packet raises the account, every other event moves counts within it. -/
theorem Tracked.step {clientId : StdString} {s : SystemState} (h : Tracked clientId s)
    {e : Duplex.Event GatewayEvent PluginEvent AtlasPacketPolicer Env} (he : Leaves clientId s e) :
    Tracked clientId ((messages host).step s e).1 ∧
      messageAccount clientId ((messages host).step s e).1 =
        messageAccount clientId s + tally clientId ((messages host).step s e).2 := by
  have hnone : messageAccount clientId s = messageAccount clientId s + tally clientId [] :=
    (add_zero _).symm
  obtain ⟨server, client, connection⟩ := s
  obtain ⟨hrule, htx, hdevice, hsound⟩ := h
  cases e with
  | server e =>
    have htraces :
        Traces False server (gatewayStep host server e).2 (gatewayStep host server e).1 :=
      traces_gatewayStep hsound e
    obtain ⟨device, hfind⟩ := Option.isSome_iff_exists.mp hdevice
    obtain ⟨device', hfind', hstats⟩ := htraces.hasStats ⟨device, hfind, rfl⟩
    have hstored : stored (gatewayStep host server e).1 clientId = stored server clientId := by
      simp only [stored, hfind, hfind', Option.elim_some, hstats]
    refine ⟨⟨hrule, htx, Option.isSome_iff_exists.mpr ⟨_, hfind'⟩, (htraces.sound hsound).1⟩,
      Eq.trans ?_ hnone⟩
    have hstep : ((messages host).step ⟨server, client, connection⟩ (.server e)).1 =
      ⟨(gatewayStep host server e).1, client,
        connection.map (·.send (gatewayStep host server e).2)⟩ := rfl
    simp only [hstep, messageAccount, inFlight_send, hstored]
  | client e =>
    obtain ⟨hrule', htx', hcount⟩ := counters_pluginStep hrule htx e
    refine ⟨⟨hrule', htx', hdevice, hsound⟩, ?_⟩
    have hstep : (messages host).step ⟨server, client, connection⟩ (.client e) =
      (⟨server, (pluginStep client e).1, connection⟩, (pluginStep client e).2) := rfl
    simp only [hstep, messageAccount, hcount, add_assoc]
  | connect => exact he.elim
  | accept =>
    refine ⟨⟨hrule, htx, hdevice, hsound⟩, ?_⟩
    cases connection <;> exact hnone
  | readDown fresh =>
    obtain hread | ⟨accepted, call, down, up, rfl, hread⟩ :=
      (messages host).step_readDown_cases ⟨server, client, connection⟩ fresh
    · rw [hread]
      exact ⟨⟨hrule, htx, hdevice, hsound⟩, hnone⟩
    · have hcall := he _ rfl call rfl
      obtain ⟨hrule', htx'⟩ := isSome_handle hrule htx fresh hcall
      have hmoved := counters_handle hrule htx fresh hcall
      rw [hread]
      refine ⟨⟨hrule', htx', hdevice, hsound⟩, Eq.trans ?_ hnone⟩
      -- what leaves the counters is in the reports the plug-in sends
      change stored server clientId + ((up ++ (client.handle fresh call).2).map
          (Reply.delta clientId)).sum + counters (client.handle fresh call).1 clientId =
        stored server clientId + (up.map (Reply.delta clientId)).sum + counters client clientId
      rw [← hmoved, List.map_append, List.sum_append]
      abel
  | readUp env =>
    obtain hread | ⟨down, reply, up, rfl, hread⟩ :=
      (messages host).step_readUp_cases ⟨server, client, connection⟩ env
    · rw [hread]
      exact ⟨⟨hrule, htx, hdevice, hsound⟩, hnone⟩
    · have htraces := traces_handle hsound env reply
      rw [hread]
      refine ⟨⟨hrule, htx, ?_, (htraces.sound hsound).1⟩, Eq.trans ?_ hnone⟩
      · exact isSome_find?_handle hdevice env reply
      · -- what the gateway stores was in the report it reads
        change stored (AtlasPubSubAgent.handle env server reply).1 clientId +
            (up.map (Reply.delta clientId)).sum + counters client clientId =
          stored server clientId + (reply.delta clientId + (up.map (Reply.delta clientId)).sum) +
            counters client clientId
        rw [stored_handle hdevice]
        abel

theorem Tracked.run {clientId : StdString} {s : SystemState} (h : Tracked clientId s)
    {es : List (Duplex.Event GatewayEvent PluginEvent AtlasPacketPolicer Env)}
    (hes : AllSteps (messages host).step (Leaves clientId) s es) :
    messageAccount clientId (EventMachine.run (messages host).step s es) =
      messageAccount clientId s + tally clientId (trace (messages host).step s es) := by
  induction es generalizing s with
  | nil => exact (add_zero _).symm
  | cons e es ih =>
    obtain ⟨hnext, haccount⟩ := h.step host hes.1
    rw [run_cons, ih hnext hes.2, haccount, trace_cons, tally_append, add_assoc]

/-! ## On the wire -/

/-- A frame of the gateway installs or removes the rule of the client. -/
def Touches (clientId : StdString) (frame : List UInt8) : Prop :=
  ∃ cmd ∈ AtlasCommandBatch.parsedCommands host frame,
    (cmd.type = CommandType.installFirewallRule ∧
      (readInstall host cmd.val).map Prod.fst = some clientId) ∨
    (cmd.type = CommandType.removeFirewallRule ∧ readClientId host cmd.val = clientId)

instance (clientId : StdString) (frame : List UInt8) : Decidable (Touches host clientId frame) :=
  inferInstanceAs (Decidable (∃ cmd ∈ _, _))

/-- The next event is no reconnect, and does not bring an install or a remove for the client. -/
def Undisturbed (clientId : StdString) (s : WireState) :
    Duplex.Event GatewayEvent PluginEvent AtlasPacketPolicer Env → Prop
  | .connect => False
  | .readDown _ => ∀ c ∈ s.connection, ∀ frame ∈ c.down.head?, ¬ Touches host clientId frame
  | _ => True

instance (clientId : StdString) (s : WireState) :
    (e : Duplex.Event GatewayEvent PluginEvent AtlasPacketPolicer Env) →
      Decidable (Undisturbed host clientId s e)
  | .connect => .isFalse id
  | .readDown _ => inferInstanceAs (Decidable (∀ c ∈ s.connection, _))
  | .server _ => .isTrue trivial
  | .client _ => .isTrue trivial
  | .accept => .isTrue trivial
  | .readUp _ => .isTrue trivial

theorem touches_frame {call : Call} (hfits : Fits call.clientId)
    (h : call ≠ .getFirewallRuleStats call.clientId) :
    Touches host call.clientId (call.frame host) := by
  refine ⟨.ofRecord ⟨call.type, _, call.length_inner hfits⟩, ?_, ?_⟩
  · simp [AtlasPubSubAgent.frame_eq host call hfits]
  · cases call with
    | installFirewallRule policy => exact .inl ⟨rfl, by
        simp [AtlasCommand.ofRecord, AtlasFilter.readInstall_inner host policy hfits,
          Call.clientId]⟩
    | removeFirewallRule c =>
      exact .inr ⟨rfl, AtlasFilter.readClientId_inner host (.removeFirewallRule c) hfits⟩
    | getFirewallRuleStats c => exact absurd rfl h

theorem reported_frame (clientId : StdString) {reply : Reply} (h : reply.Sendable) :
    reported host clientId (reply.frame host) = reply.delta clientId := by
  cases reply with
  | getAllFirewallRules =>
    simp [reported, Reply.frame_getAllFirewallRules, AtlasCommand.ofRecord, Reply.delta,
      CommandType.getAllFirewallRules, CommandType.putStatFirewallRule]
  | putStatFirewallRule c stats =>
    have hfits : Fits c := h
    simp [reported, Reply.frame_putStatFirewallRule host hfits, AtlasCommand.ofRecord, Reply.delta,
      AtlasPubSubAgent.readStat_inner host hfits stats]

theorem account_onWire (clientId : StdString) {s : SystemState}
    (hvalid : s.Valid (fun call => Fits call.clientId) Reply.Sendable) :
    account host clientId (onWire host s) = messageAccount clientId s := by
  obtain ⟨server, client, connection⟩ := s
  cases connection with
  | none => rfl
  | some c =>
    have hup : (c.up.map (Reply.frame host)).map (reported host clientId) =
        c.up.map (Reply.delta clientId) := by
      rw [List.map_map]
      exact List.map_congr_left fun reply hr =>
        reported_frame host clientId ((hvalid c rfl).2 reply hr)
    exact congrArg (fun ds => stored server clientId + List.sum ds + counters client clientId) hup

/-- A client with a rule has transmit statistics. -/
def RulesCounted (filter : AtlasFilter) : Prop :=
  ∀ clientId, (filter.rules clientId).isSome → (filter.txPktStats clientId).isSome

theorem RulesCounted.handle {filter : AtlasFilter} (h : RulesCounted filter)
    (fresh : AtlasPacketPolicer) (call : Call) : RulesCounted (filter.handle fresh call).1 := by
  intro clientId hrule
  by_cases hc : call.clientId = clientId
  · subst hc
    cases call <;> simp [AtlasFilter.handle, Call.clientId] at hrule ⊢
  · obtain ⟨hrules, htxs⟩ := handle_of_ne filter fresh hc
    rw [htxs]
    exact h clientId (hrules ▸ hrule)

theorem RulesCounted.pluginStep {filter : AtlasFilter} (h : RulesCounted filter) (e : PluginEvent) :
    RulesCounted (pluginStep filter e).1 := by
  intro clientId hrule
  have hbefore : (filter.rules clientId).isSome := by
    cases e with
    | timer => simpa [Firewall.pluginStep, AtlasFilter.timerHandler] using hrule
    | packet pkt =>
      simp only [Firewall.pluginStep, AtlasFilter.rules_filter] at hrule
      split at hrule
      case isTrue => simpa using hrule
      case isFalse => exact hrule
  exact (counters_pluginStep hbefore (h clientId hbefore) e).2.1

theorem rulesCounted_of_reachable {s : SystemState}
    (h : Reachable (messages host).step systemInit s) : RulesCounted s.client := by
  have hinit : RulesCounted systemInit.client := fun _ hrule => nomatch hrule
  refine h.invariant (I := fun s => RulesCounted s.client) ?_ hinit
  rintro ⟨server, client, connection⟩ e hcounted
  cases e with
  | server e => exact hcounted
  | client e => exact hcounted.pluginStep e
  | connect => exact fun _ hrule => nomatch hrule
  | accept => exact hcounted
  | readDown fresh =>
    obtain hread | ⟨accepted, call, down, up, -, hread⟩ :=
      (messages host).step_readDown_cases ⟨server, client, connection⟩ fresh
    · rw [hread]
      exact hcounted
    · rw [hread]
      exact hcounted.handle fresh call
  | readUp env =>
    obtain hread | ⟨down, reply, up, -, hread⟩ :=
      (messages host).step_readUp_cases ⟨server, client, connection⟩ env
    · rw [hread]
      exact hcounted
    · rw [hread]
      exact hcounted

/-- In a run that brings no install and no remove for the client and no reconnect, what is stored,
on the way and not yet reported grows by exactly the packets of each kind, modulo 2 ^ 32. -/
theorem account_run {s : WireState} (h : Reachable (wire host).step wireInit s)
    {clientId : StdString} (hrule : (s.client.rules clientId).isSome)
    (hdevice : (s.server.devices.find? clientId).isSome)
    {es : List (Duplex.Event GatewayEvent PluginEvent AtlasPacketPolicer Env)}
    (hes : AllSteps (wire host).step (Undisturbed host clientId) s es) :
    account host clientId (run (wire host).step s es) =
      account host clientId s + tally clientId (trace (wire host).step s es) := by
  obtain ⟨es₀, rfl⟩ := h
  obtain ⟨hrun₀, hsound, hvalid⟩ := run_wire host es₀
  have hcounted := rulesCounted_of_reachable host ⟨es₀, rfl⟩
  rw [hrun₀] at hrule hdevice hes ⊢
  generalize run (messages host).step systemInit es₀ = t at *
  obtain ⟨hrun, htrace, -, hvalid'⟩ := (wire_encodes host).run hsound hvalid es
  have hleaves : AllSteps (messages host).step (Leaves clientId) t es := by
    refine (wire_encodes host).allSteps ?_ hsound hvalid hes
    intro s e hs he
    cases e with
    | connect => exact he
    | readDown fresh =>
      intro c hc call hcall hid
      by_contra hne
      subst hid
      have hfits := (hs c hc).1 call (List.mem_of_mem_head? hcall)
      refine he (c.encode _ _) (Option.mem_map_of_mem _ hc) (call.frame host) ?_
        (touches_frame host hfits hne)
      rw [Duplex.Connection.encode, List.head?_map]
      exact Option.mem_map_of_mem _ hcall
    | server e => trivial
    | client e => trivial
    | accept => trivial
    | readUp env => trivial
  have htracked : Tracked clientId t := ⟨hrule, hcounted clientId hrule, hdevice, hsound⟩
  change account host clientId (run _ (t.encode _ _) es) = account host clientId (onWire host t) +
    tally clientId (trace _ (t.encode _ _) es)
  rw [hrun, htrace]
  change account host clientId (onWire host _) = _
  rw [account_onWire host clientId hvalid', account_onWire host clientId hvalid,
    htracked.run host hleaves]

/-- Packets before and after a query, and its report. -/
def countRun : List (Duplex.Event GatewayEvent PluginEvent AtlasPacketPolicer Env) :=
  let env : Env := ⟨fun _ => [1], fun _ => {}, 0, fun _ => 0⟩
  [.client (.packet ⟨none, [65], 1, 10⟩), .client (.packet ⟨some [65], [66], 9, 10⟩),
    .client (.packet ⟨none, [65], 9, 10⟩), .server (.firewallStatisticsAlarm env),
    .readDown ⟨0, 0, 0, 0, 0, 0⟩, .client (.packet ⟨some [65], [65], 2, 100⟩), .readUp env]

theorem account_run_countRun :
    account .little [65] (run (wire .little).step (run (wire .little).step wireInit policyRun)
      countRun) = ⟨1, 2, 0, 2⟩ := by
  rw [account_run .little ⟨policyRun, rfl⟩ (by decide) (by decide) (by decide)]
  decide

end Atlas.Firewall
