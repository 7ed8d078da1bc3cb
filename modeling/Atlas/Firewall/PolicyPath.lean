import Atlas.Client.DataPlaneConnector
import Atlas.Firewall.Window

/-! # Limits on their way from the application to the policer

The data-plane library sends its three limits in host order to the client on the same host. The
client keeps them, and sends them in network order to the gateway, which makes them the policy of
the device and has the plug-in install a rule. Every stage hands on the same three numbers
(`sendRegistrationCommand_eq`, `outputs_readCb_registration`, `rules_deliverPolicy`) but the last:
the policer keeps the QoS in eight bits.

Reference: `data_plane/atlas_client.c`, `data_plane_connector/atlas_data_plane_connector.c` of the
client, and the modules of the gateway and the plug-in.
-/

namespace Atlas.Client

open ByteOrder Gateway

variable (host : ByteOrder)

/-- `send_registration_command` of the library: the bytes written to the client's socket. -/
def sendRegistrationCommand (qos packetsPerMin packetsMaxlen : UInt16) : Option (List UInt8) :=
  (atlasCmdBatchAddAll host atlasCmdBatchNew
    [⟨CommandType.dataPlanePolicyQos, 2, store16 host qos⟩,
      ⟨CommandType.dataPlanePolicyPacketsPerMinute, 2, store16 host packetsPerMin⟩,
      ⟨CommandType.dataPlanePolicyPacketsMaxlen, 2, store16 host packetsMaxlen⟩]).bind
    fun cmdBatchInner =>
  (atlasCmdBatchGetBuf cmdBatchInner).bind fun cmdBufInner =>
  (atlasCmdBatchAddAll host atlasCmdBatchNew
    [⟨CommandType.dataPlanePolicy, cmdBatchInner.length, cmdBufInner⟩]).bind atlasCmdBatchGetBuf

/-! ## The stages at the client -/

section

variable (qos packetsPerMin packetsMaxlen : UInt16)

/-- The message of the library. -/
def registration : Tlv.Record :=
  ⟨CommandType.dataPlanePolicy,
    Tlv.encodeAll (limitRecords host id qos packetsPerMin packetsMaxlen),
    by rw [length_limitRecords]; decide⟩

theorem length_registration :
    (Tlv.encodeAll [registration host qos packetsPerMin packetsMaxlen]).length = 22 := by
  simp [registration, length_limitRecords]

theorem sendRegistrationCommand_eq :
    sendRegistrationCommand host qos packetsPerMin packetsMaxlen =
      some (Tlv.encodeAll [registration host qos packetsPerMin packetsMaxlen]) := by
  obtain ⟨inner, hinner, hlength, hbuf⟩ := getBuf_addAll_ofRecord host
    (by rw [length_limitRecords host id qos packetsPerMin packetsMaxlen]; decide)
  have houter := bind_getBuf_addAll host [registration host qos packetsPerMin packetsMaxlen]
    (by rw [length_registration]; decide)
  rw [map_ofRecord_limitRecords] at hinner
  simp only [id_eq] at hinner
  simp only [sendRegistrationCommand, hinner, hbuf, hlength, Option.bind_some]
  exact houter

/-- The connector takes the three limits as they are in memory. -/
theorem Reading.foldlM_limitRecords (r : Reading) :
    ∃ copies, (visited seen (limitRecords host id qos packetsPerMin packetsMaxlen)).foldlM
        (parsePolicyCommand host) r =
      some ⟨{ r.vars with
        policyQos := qos
        policyPacketsPerMin := packetsPerMin
        policyPacketsMaxlen := packetsMaxlen }, copies, r.outputs⟩ := by
  have hcopy : ∀ field type n post r, copyField host field r (seen (hostNumber host type n) post) =
      some ⟨r.vars.set field n, r.copies ++ [⟨field, .ofRecord (hostNumber host type n), n⟩],
        r.outputs⟩ := by
    intro field type n post r
    have hread : read16 host (seen (hostNumber host type n) post).mem 0 = some n := by
      simpa [seen, hostNumber] using read16_store16 [] post host n rfl
    rw [copyField, hread]
    rfl
  have hqos : ∀ n post r, parsePolicyCommand host r
      (seen (hostNumber host CommandType.dataPlanePolicyQos n) post) =
        copyField host .policyQos r (seen (hostNumber host _ n) post) := fun _ _ _ => rfl
  have hppm : ∀ n post r, parsePolicyCommand host r
      (seen (hostNumber host CommandType.dataPlanePolicyPacketsPerMinute n) post) =
        copyField host .policyPacketsPerMin r (seen (hostNumber host _ n) post) := fun _ _ _ => rfl
  have hmaxlen : ∀ n post r, parsePolicyCommand host r
      (seen (hostNumber host CommandType.dataPlanePolicyPacketsMaxlen n) post) =
        copyField host .policyPacketsMaxlen r (seen (hostNumber host _ n) post) := fun _ _ _ => rfl
  simp only [limitRecords, visited, List.foldlM_cons, List.foldlM_nil, hqos, hppm, hmaxlen, hcopy]
  exact ⟨_, rfl⟩

/-- A policy of whole records is read record by record. -/
theorem Reading.parsePolicy_encodeAll (r : Reading) {recs : List Tlv.Record} (hne : recs ≠ [])
    (h : (Tlv.encodeAll recs).length ≤ 65535) :
    r.parsePolicy host (Tlv.encodeAll recs) (UInt16.ofNat (Tlv.encodeAll recs).length) =
      ((visited seen recs).foldlM (parsePolicyCommand host) r).bind (activatePolicy host) := by
  have hpos := length_encodeAll_pos hne
  have hwalk := walkWith_encodeAll host (viewCommand_hostRecord host) hne h
  rw [parsePolicy, if_neg (not_empty_buf hpos h), atlasCmdBatchSetRaw_eq host _ hpos h,
    if_pos (Tlv.rest_eq_nil_iff.mpr ⟨_, rfl⟩), Option.bind_some]
  simp only [ne_eq, not_true_eq_false, if_false, hwalk, Option.bind_some]

/-- The message of the library makes the client send the three limits to the gateway. -/
theorem outputs_readCb_registration (identity : Identity) (s : DataPlane) :
    (s.readCb host identity (Tlv.encodeAll [registration host qos packetsPerMin packetsMaxlen])).map
        (·.outputs) = some [.policy (policyRequest host qos packetsPerMin packetsMaxlen)] := by
  have hlength := length_limitRecords host id qos packetsPerMin packetsMaxlen
  have hne : limitRecords host id qos packetsPerMin packetsMaxlen ≠ [] := List.cons_ne_nil _ _
  have hparse := Reading.parsePolicy_encodeAll host ⟨s, [], []⟩ hne (by rw [hlength]; decide)
  obtain ⟨copies, hfold⟩ :=
    Reading.foldlM_limitRecords host qos packetsPerMin packetsMaxlen ⟨s, [], []⟩
  have hread : s.readCb host identity
      (Tlv.encodeAll [registration host qos packetsPerMin packetsMaxlen]) =
        Reading.parsePolicy host ⟨s, [], []⟩
          (Tlv.encodeAll (limitRecords host id qos packetsPerMin packetsMaxlen))
          (UInt16.ofNat (Tlv.encodeAll
            (limitRecords host id qos packetsPerMin packetsMaxlen)).length) :=
    readCb_single host identity s (by rw [registration, hlength]; decide)
  rw [hread, hparse, hfold, Option.bind_some, Reading.activatePolicy,
    Connector.sendPolicyCommand_eq]
  rfl

end

/-- The payload of a policy request. -/
def Output.policy? : Output → Option (List UInt8)
  | .policy payload => some payload
  | _ => none

end Atlas.Client

namespace Atlas.Firewall

open ByteOrder EventMachine Gateway
open AtlasPubSubAgent (Call)

/-! ## The stages at the gateway and the plug-in -/

/-- An identity as the client keeps it, of at most `ATLAS_IDENTITY_LEN` bytes. -/
def ClientIdentity : Type := { identity : StdString // identity ≠ [] ∧ identity.length ≤ 64 }

theorem ClientIdentity.fits (identity : ClientIdentity) : Fits identity.1 :=
  ⟨identity.2.1, Nat.le_trans identity.2.2 (by decide)⟩

/-- A policy request reaches the gateway, and the commands it leads to reach the plug-in. -/
def deliverPolicy (gateway : ByteOrder) (env : Env) (fresh : AtlasPacketPolicer)
    (pskIdentity : StdString) (s : AtlasDeviceManager × AtlasFilter) (reqPayload : List UInt8) :
    AtlasDeviceManager × AtlasFilter :=
  let (manager, calls, _) := firewallPolicyCallback gateway env s.1 pskIdentity reqPayload
  (manager, (calls.flatMap (AtlasPubSubAgent.perform gateway)).foldl
    (fun filter frame => (filter.processCommand gateway fresh frame).1) s.2)

/-- The whole way: the library sends the limits to the client, and every policy request the client
makes is delivered. -/
def policyPath (client gateway : ByteOrder) (env : Env) (fresh : AtlasPacketPolicer)
    (identity : ClientIdentity) (connector : Client.DataPlane)
    (s : AtlasDeviceManager × AtlasFilter) (limits : Limits) :
    Option (AtlasDeviceManager × AtlasFilter) :=
  (Client.sendRegistrationCommand client limits.maxQos limits.ppm limits.maxPayloadLen).bind
    fun cmdBuf =>
  (connector.readCb client ⟨identity.1, identity.2.2⟩ cmdBuf).map fun r =>
    (r.outputs.filterMap Client.Output.policy?).foldl
      (deliverPolicy gateway env fresh identity.1) s

theorem readPolicy_policyRequest (client gateway : ByteOrder) (pskIdentity : StdString)
    (limits : Limits) :
    readPolicy gateway pskIdentity
        (Client.policyRequest client limits.maxQos limits.ppm limits.maxPayloadLen) =
      some ⟨pskIdentity, limits.maxQos, limits.ppm, limits.maxPayloadLen⟩ := by
  simp [readPolicy, Client.policyRequest, Client.limitRecords, Client.hostNumber,
    AtlasCommand.ofRecord, Tlv.Record.len, PolicyFields.read, Client.CommandType.dataPlanePolicyQos,
    Client.CommandType.dataPlanePolicyPacketsPerMinute,
    Client.CommandType.dataPlanePolicyPacketsMaxlen, CommandType.policyMaxQos,
    CommandType.policyPacketsPerMinute, CommandType.policyPacketsMaxlen]

/-- The request of a registered device installs its limits, the QoS in eight bits. -/
theorem rules_deliverPolicy (client gateway : ByteOrder) (env : Env) (fresh : AtlasPacketPolicer)
    (identity : ClientIdentity) {manager : AtlasDeviceManager} {device : AtlasDevice}
    (hfind : manager.devices.find? identity.1 = some device) (hreg : device.registered)
    (filter : AtlasFilter) (limits : Limits) :
    (deliverPolicy gateway env fresh identity.1 (manager, filter)
        (Client.policyRequest client limits.maxQos limits.ppm limits.maxPayloadLen)).2.rules
        identity.1 =
      some (.new limits.maxQos.toUInt8 limits.ppm limits.maxPayloadLen) := by
  have hget : manager.getDevice env identity.1 = (manager, some device) := by
    simp [AtlasDeviceManager.getDevice, hfind]
  have hfits : Fits (Call.clientId (.installFirewallRule
      ⟨identity.1, limits.maxQos, limits.ppm, limits.maxPayloadLen⟩)) := identity.fits
  have hframe := AtlasPubSubAgent.perform_eq gateway _ hfits
  rw [← AtlasPubSubAgent.frame_eq gateway _ hfits] at hframe
  simp only [deliverPolicy, firewallPolicyCallback, hget, hreg, readPolicy_policyRequest,
    Bool.not_true, Bool.false_eq_true, if_false, AtlasDevice.policy_setPolicyInfo,
    Option.toList_some, List.map_cons, List.map_nil, List.flatMap_cons, List.flatMap_nil, hframe,
    List.append_nil, List.foldl_cons, List.foldl_nil,
    AtlasFilter.processCommand_frame gateway fresh filter _ hfits]
  simp [AtlasFilter.handle]

/-- The way ends with a rule of the three limits, the QoS in eight bits. -/
theorem rules_policyPath (client gateway : ByteOrder) (env : Env) (fresh : AtlasPacketPolicer)
    (identity : ClientIdentity) (connector : Client.DataPlane) (manager : AtlasDeviceManager)
    {device : AtlasDevice} (hfind : manager.devices.find? identity.1 = some device)
    (hreg : device.registered) (filter : AtlasFilter) (limits : Limits) :
    (policyPath client gateway env fresh identity connector (manager, filter) limits).bind
        (·.2.rules identity.1) =
      some (.new limits.maxQos.toUInt8 limits.ppm limits.maxPayloadLen) := by
  obtain ⟨r, hr, houtputs⟩ := Option.map_eq_some_iff.mp (Client.outputs_readCb_registration client
    limits.maxQos limits.ppm limits.maxPayloadLen ⟨identity.1, identity.2.2⟩ connector)
  simp only [policyPath, Client.sendRegistrationCommand_eq, hr, houtputs, Option.bind_some,
    Option.map_some]
  exact rules_deliverPolicy client gateway env fresh identity hfind hreg filter limits

/-! ## What a policer does with its packets -/

/-- A policer on its own: what it decides about packets, minute by minute. -/
def policerStep (policer : AtlasPacketPolicer) : PluginEvent → AtlasPacketPolicer × List Bool
  | .timer => (policer.rateLimitWindowStart, [])
  | .packet pkt => ((policer.filter pkt).1, [(policer.filter pkt).2])

/-- The decisions three limits stand for, after `n` packets of the minute: a packet passes if it is
within the QoS and the length limit and among the first `ppm` of its minute. -/
def limitsStep (limits : Limits) (n : ℕ) : PluginEvent → ℕ × List Bool
  | .timer => (0, [])
  | .packet pkt => (n + 1, [limits.within pkt && n < limits.ppm.toNat])

/-- The policer decides by the limits, with `n` packets in its window: it holds the same limits, or
a rate of zero, with which no packet passes. -/
def Judges (policer : AtlasPacketPolicer) (limits : Limits) (n : ℕ) : Prop :=
  Enforces policer limits (.ofNat n) ∨
    limits.ppm = 0 ∧ policer.ppm = 0 ∧ policer.windowPpm = .ofNat n

section

variable {policer : AtlasPacketPolicer} {limits : Limits} {n : ℕ}

theorem Judges.rateLimitWindowStart (h : Judges policer limits n) :
    Judges policer.rateLimitWindowStart limits 0 := by
  obtain h | ⟨hzero, hppm, -⟩ := h
  · exact .inl ⟨rfl, h.maxQos, h.ppm, h.maxPayloadLen⟩
  · exact .inr ⟨hzero, hppm, rfl⟩

theorem Judges.filter_fst (h : Judges policer limits n) (pkt : AtlasPacket) :
    Judges (policer.filter pkt).1 limits (n + 1) := by
  obtain h | ⟨hzero, hppm, hwindow⟩ := h
  · left
    rw [UInt32.ofNat_add]
    exact h.filter_fst pkt
  · right
    have hnext : policer.windowPpm + 1 = .ofNat (n + 1) := by
      rw [hwindow, UInt32.ofNat_add]
      rfl
    rw [AtlasPacketPolicer.filter]
    split
    case isTrue => exact ⟨hzero, hppm, hnext⟩
    case isFalse => exact ⟨hzero, hppm, hnext⟩

/-- A packet that finds room in the window counter is judged by its place in the window. -/
theorem Judges.filter_snd (h : Judges policer limits n) (pkt : AtlasPacket)
    (hn : n + 1 < 4294967296) :
    (policer.filter pkt).2 = (limits.within pkt && n < limits.ppm.toNat) := by
  obtain h | ⟨hzero, hppm, hwindow⟩ := h
  · exact (h.filter_snd pkt).trans (limits.admits_ofNat pkt hn)
  · have hnext : (policer.windowPpm + 1).toNat = n + 1 := by
      rw [hwindow, UInt32.toNat_add, UInt32.toNat_one,
        UInt32.toNat_ofNat_of_lt' (by simp only [UInt32.size]; omega)]
      omega
    have hdrop : (policer.windowPpm + 1).toNat > policer.ppm.toNat := by
      rw [hnext, hppm]
      exact Nat.succ_pos n
    rw [AtlasPacketPolicer.filter]
    split
    case isTrue => simp [hzero]
    case isFalse hif => exact absurd (.inr (.inr hdrop)) hif

/-- As long as no window fills the counter, every decision of a run is the one of the limits. -/
theorem Judges.trace_eq (h : Judges policer limits n) {es : List PluginEvent} {w : List AtlasPacket}
    {ws : List (List AtlasPacket)} (hwindows : windows es = w :: ws)
    (hw : n + w.length < 4294967296) (hws : ∀ v ∈ ws, v.length < 4294967296) :
    trace policerStep policer es = trace (limitsStep limits) n es := by
  induction es generalizing policer n w ws with
  | nil => rfl
  | cons e es ih =>
    obtain ⟨v, vs, hrest⟩ := exists_windows es
    cases e with
    | timer =>
      rw [windows, hrest] at hwindows
      cases hwindows
      rw [List.forall_mem_cons] at hws
      have hv : 0 + v.length < 4294967296 := by omega
      exact ih h.rateLimitWindowStart hrest hv hws.2
    | packet pkt =>
      rw [windows, hrest, List.modifyHead_cons] at hwindows
      cases hwindows
      rw [List.length_cons] at hw
      simp only [trace_cons, policerStep, limitsStep, h.filter_snd pkt (by omega),
        ih (h.filter_fst pkt) hrest (by omega) hws]

end

/-- The first packet of a minute is within any rate but zero, and without payload within any length,
so its QoS decides. -/
theorem qosExact_of_first_packet {limits : Limits} (hppm : limits.ppm ≠ 0)
    (h : ∀ qos, (AtlasPacketPolicer.filter
      (.new limits.maxQos.toUInt8 limits.ppm limits.maxPayloadLen)
        ⟨none, [], qos, 0⟩).2 = (limits.within ⟨none, [], qos, 0⟩ && 0 < limits.ppm.toNat)) :
    QosExact limits.maxQos := by
  have hpos : 0 < limits.ppm.toNat := Nat.pos_of_ne_zero fun hzero => hppm (UInt16.toNat.inj hzero)
  refine (forall_qos_iff _).mp fun qos => ?_
  have hrest :
      ¬ ((0 : UInt16) > limits.maxPayloadLen ∨ ((0 : UInt32) + 1).toNat > limits.ppm.toNat) :=
    not_or.mpr ⟨UInt16.not_lt_zero, Nat.not_lt.mpr hpos⟩
  have hpolicer : (AtlasPacketPolicer.filter
      (.new limits.maxQos.toUInt8 limits.ppm limits.maxPayloadLen) ⟨none, [], qos, 0⟩).2 = true ↔
      ¬ qos > limits.maxQos.toUInt8 := by
    simp only [AtlasPacketPolicer.filter, AtlasPacketPolicer.new, hrest, or_false]
    split <;> simp_all
  have hlimits : limits.within ⟨none, [], qos, 0⟩ = true ↔ qos.toNat ≤ limits.maxQos.toNat := by
    simp [Limits.within]
  rw [h qos, Bool.and_eq_true, hlimits, decide_eq_true_iff, and_iff_left hpos] at hpolicer
  rw [← not_iff_not, Nat.not_lt]
  exact hpolicer.symm

/-- A new policer decides by its limits, in minutes of fewer than 2³² packets, exactly when the QoS
loses nothing in eight bits or the rate is zero. -/
theorem trace_new_iff (limits : Limits) :
    (∀ es, (∀ w ∈ windows es, w.length < 4294967296) →
      trace policerStep (.new limits.maxQos.toUInt8 limits.ppm limits.maxPayloadLen) es =
        trace (limitsStep limits) 0 es) ↔
    QosExact limits.maxQos ∨ limits.ppm = 0 := by
  constructor
  · intro h
    by_cases hppm : limits.ppm = 0
    · exact .inr hppm
    · refine .inl (qosExact_of_first_packet hppm fun qos => ?_)
      have hone := h [.packet ⟨none, [], qos, 0⟩] (by simp [windows])
      simpa [policerStep, limitsStep, trace_cons] using hone
  · intro h es hlen
    obtain ⟨w, ws, hwindows⟩ := exists_windows es
    rw [hwindows, List.forall_mem_cons] at hlen
    have hjudges : Judges (.new limits.maxQos.toUInt8 limits.ppm limits.maxPayloadLen) limits 0 :=
      h.imp Enforces.new fun hppm => ⟨hppm, hppm, rfl⟩
    exact hjudges.trace_eq hwindows (by omega) hlen.2

/-- The policer a registered device's application ends up with decides by the three limits it asked
for, in minutes of fewer than 2³² packets, exactly when its QoS loses nothing in eight bits or its
rate is zero. -/
theorem policyPath_enforces_iff (client gateway : ByteOrder) (env : Env)
    (fresh : AtlasPacketPolicer)
    (identity : ClientIdentity) (connector : Client.DataPlane) (manager : AtlasDeviceManager)
    {device : AtlasDevice} (hfind : manager.devices.find? identity.1 = some device)
    (hreg : device.registered) (filter : AtlasFilter) (limits : Limits) :
    (∃ s policer, policyPath client gateway env fresh identity connector (manager, filter) limits =
        some s ∧ s.2.rules identity.1 = some policer ∧
      ∀ es, (∀ w ∈ windows es, w.length < 4294967296) →
        trace policerStep policer es = trace (limitsStep limits) 0 es) ↔
    QosExact limits.maxQos ∨ limits.ppm = 0 := by
  have hpath :=
    rules_policyPath client gateway env fresh identity connector manager hfind hreg filter limits
  obtain ⟨s, hs, hrule⟩ := Option.bind_eq_some_iff.mp hpath
  rw [← trace_new_iff]
  constructor
  · rintro ⟨s', policer, hs', hrule', htrace⟩
    obtain rfl := Option.some.inj (hs.symm.trans hs')
    obtain rfl := Option.some.inj (hrule.symm.trans hrule')
    exact htrace
  · exact fun htrace => ⟨s, _, hs, hrule, htrace⟩

/-- A gateway with one registered device. -/
def oneDevice : AtlasDeviceManager :=
  AtlasDeviceManager.init.setDevice ⟨[65], true, 3, none, {}⟩

/-- A QoS of 2 arrives, between hosts of different byte order. -/
theorem policyPath_enforces_iff_two :
    (∃ s policer, policyPath .little .big ⟨fun _ => [], fun _ => {}, 0, fun _ => 0⟩
        ⟨0, 0, 0, 0, 0, 0⟩ ⟨[65], by decide⟩ ⟨⟨0, 0, 0, false⟩, 0, 0⟩ (oneDevice, .init)
        ⟨2, 60, 300⟩ = some s ∧
        s.2.rules [65] = some policer ∧
      ∀ es, (∀ w ∈ windows es, w.length < 4294967296) →
        trace policerStep policer es = trace (limitsStep ⟨2, 60, 300⟩) 0 es) ↔
    QosExact 2 ∨ (60 : UInt16) = 0 :=
  policyPath_enforces_iff .little .big _ _ ⟨[65], by decide⟩ _ oneDevice rfl rfl .init ⟨2, 60, 300⟩

/-- A limit of 256 admits packets of every QoS, and the policer drops those of QoS 1. -/
theorem not_policyPath_enforces :
    ∃ s policer, policyPath .little .little ⟨fun _ => [], fun _ => {}, 0, fun _ => 0⟩
        ⟨0, 0, 0, 0, 0, 0⟩ ⟨[65], by decide⟩ ⟨⟨0, 0, 0, false⟩, 0, 0⟩ (oneDevice, .init)
        ⟨256, 60, 300⟩ = some s ∧
      s.2.rules [65] = some policer ∧
      trace policerStep policer [.packet ⟨none, [65], 1, 10⟩] = [false] ∧
      trace (limitsStep ⟨256, 60, 300⟩) 0 [.packet ⟨none, [65], 1, 10⟩] = [true] := by
  have hpath := rules_policyPath .little .little ⟨fun _ => [], fun _ => {}, 0, fun _ => 0⟩
    ⟨0, 0, 0, 0, 0, 0⟩ ⟨[65], by decide⟩ ⟨⟨0, 0, 0, false⟩, 0, 0⟩ oneDevice rfl rfl .init
    ⟨256, 60, 300⟩
  obtain ⟨s, hs, hrule⟩ := Option.bind_eq_some_iff.mp hpath
  exact ⟨s, _, hs, hrule, by decide, by decide⟩

end Atlas.Firewall
