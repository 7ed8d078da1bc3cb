import Atlas.Firewall.Conservation
import Atlas.Firewall.Rules

/-! # Rate windows

A policer counts every packet of a minute, also those it drops, and lets through the ones within its
limits among the first `ppm`. Here the packets of a run are grouped into windows, one from the
install to the first tick and one for each tick after that, and the verdicts of a run are those of
its windows (`trace_windows`).

Reference: `mosquitto_plugin/filter/AtlasPacketPolicer.cpp`, `AtlasFilter.cpp`.
-/

namespace Atlas.Firewall

open ByteOrder EventMachine Gateway

/-! ## Windows of packets -/

/-- The packets between ticks: up to the first tick, from there to the second, and so on. -/
def windows : List PluginEvent → List (List AtlasPacket)
  | [] => [[]]
  | .timer :: es => [] :: windows es
  | .packet pkt :: es => (windows es).modifyHead (pkt :: ·)

/-- The packet is within the QoS and the length limit. -/
def Limits.within (limits : Limits) (pkt : AtlasPacket) : Bool :=
  pkt.qos.toNat ≤ limits.maxQos.toNat ∧ pkt.payloadLen ≤ limits.maxPayloadLen

/-- The verdicts about packets of one window that comes after `i` others: it is accepted if it is
within the limits and among the first `ppm` of the window. -/
def Limits.judge (limits : Limits) (i : ℕ) (w : List AtlasPacket) : List Verdict :=
  (w.zipIdx i).map fun (pkt, j) => ⟨pkt, limits.within pkt && j < limits.ppm.toNat⟩

@[simp] theorem Limits.judge_nil (limits : Limits) (i : ℕ) : limits.judge i [] = [] := rfl

@[simp] theorem Limits.judge_cons (limits : Limits) (i : ℕ) (pkt : AtlasPacket)
    (w : List AtlasPacket) :
    limits.judge i (pkt :: w) =
      ⟨pkt, limits.within pkt && i < limits.ppm.toNat⟩ :: limits.judge (i + 1) w := rfl

/-- No more than `ppm` packets of a window are accepted. -/
theorem Limits.countP_judge_le (limits : Limits) (i : ℕ) (w : List AtlasPacket) :
    (limits.judge i w).countP (·.processPkt) ≤ limits.ppm.toNat - i := by
  induction w generalizing i with
  | nil => exact Nat.zero_le _
  | cons pkt w ih =>
    have hrest := ih (i + 1)
    rw [judge_cons, List.countP_cons]
    by_cases hi : i < limits.ppm.toNat
    · split <;> omega
    · simp only [hi, decide_false, Bool.and_false, Bool.false_eq_true, if_false]
      omega

theorem exists_windows (es : List PluginEvent) : ∃ w ws, windows es = w :: ws := by
  induction es with
  | nil => exact ⟨[], [], rfl⟩
  | cons e es ih =>
    obtain ⟨w, ws, h⟩ := ih
    cases e with
    | timer => exact ⟨[], w :: ws, by rw [windows, h]⟩
    | packet pkt => exact ⟨pkt :: w, ws, by rw [windows, h, List.modifyHead_cons]⟩

/-! ## One event -/

/-- The client has a rule of these limits with `i` packets in its window and `k` packets counted
since the install. -/
structure Windowed (clientId : StdString) (limits : Limits) (i k : ℕ) (filter : AtlasFilter) :
    Prop where
  rule : ∃ policer, filter.rules clientId = some policer ∧ Enforces policer limits (.ofNat i) ∧
    policer.statPktPass + policer.statPktDrop = .ofNat k

variable {clientId : StdString} {limits : Limits} {i k : ℕ} {filter : AtlasFilter}

/-- As long as the window counter does not overflow, the limits judge by the place in the window. -/
theorem Limits.admits_ofNat (limits : Limits) (pkt : AtlasPacket) (hi : i + 1 < 4294967296) :
    limits.admits (.ofNat i + 1) pkt = (limits.within pkt && i < limits.ppm.toNat) := by
  have hsucc : (UInt32.ofNat i + 1).toNat = i + 1 := by
    rw [UInt32.toNat_add, UInt32.toNat_one,
      UInt32.toNat_ofNat_of_lt' (by simp [UInt32.size]; omega)]
    omega
  rw [admits, hsucc, within, Bool.eq_iff_iff]
  simp only [decide_eq_true_eq, Bool.and_eq_true, Nat.succ_le_iff, and_assoc]

/-- A packet is judged by its place in the window and counted. -/
theorem Windowed.packet (h : Windowed clientId limits i k filter) {pkt : AtlasPacket}
    (hdst : pkt.dstClientId = clientId) (hi : i + 1 < 4294967296) :
    (filter.filter pkt).2 = (limits.within pkt && i < limits.ppm.toNat) ∧
      Windowed clientId limits (i + 1) (k + 1) (filter.filter pkt).1 := by
  obtain ⟨policer, hrule, henforces, hcount⟩ := h.rule
  obtain ⟨hdrop, hpass⟩ := stat_filter policer pkt
  refine ⟨?_, (policer.filter pkt).1, ?_, ?_, ?_⟩
  · rw [AtlasFilter.filter_snd, hdst, hrule]
    exact (henforces.filter_snd pkt).trans (limits.admits_ofNat pkt hi)
  · rw [AtlasFilter.rules_filter, if_pos hdst, hrule, Option.map_some]
  · rw [UInt32.ofNat_add]
    exact henforces.filter_fst pkt
  · rw [hdrop, hpass, UInt32.ofNat_add, ← hcount]
    cases (policer.filter pkt).2 with
    | true =>
      rw [if_pos rfl, if_pos rfl, UInt32.add_zero, UInt32.add_assoc, UInt32.add_comm 1,
        ← UInt32.add_assoc]
      rfl
    | false =>
      rw [if_neg (by decide), if_neg (by decide), UInt32.add_zero, ← UInt32.add_assoc]
      rfl

/-- A tick starts a new window. -/
theorem Windowed.timer (h : Windowed clientId limits i k filter) :
    Windowed clientId limits 0 k filter.timerHandler := by
  obtain ⟨policer, hrule, henforces, hcount⟩ := h.rule
  refine ⟨policer.rateLimitWindowStart, ?_, ?_, hcount⟩
  · simp [AtlasFilter.timerHandler, hrule]
  · exact ⟨rfl, henforces.maxQos, henforces.ppm, henforces.maxPayloadLen⟩

/-- An install starts the first window. -/
theorem Windowed.install (host : ByteOrder) (filter : AtlasFilter) {cmdBuf : List UInt8}
    (hread : readInstall host cmdBuf = some (clientId, limits)) (hqos : limits.maxQos ≤ 255) :
    Windowed clientId limits 0 0 (filter.installFirewallRule host cmdBuf) := by
  refine ⟨.new limits.maxQos.toUInt8 limits.ppm limits.maxPayloadLen, ?_, .new (.inl ?_), rfl⟩
  · simp [AtlasFilter.rules_installFirewallRule, hread]
  · have := UInt16.le_iff_toNat_le.mp hqos
    simp only [UInt16.reduceToNat] at this
    omega

/-! ## Runs -/

/-- The verdicts of a run from the `i`-th packet of a window on. -/
theorem Windowed.trace_eq (h : Windowed clientId limits i k filter) {es : List PluginEvent}
    {w : List AtlasPacket} {ws : List (List AtlasPacket)} (hwindows : windows es = w :: ws)
    (hdst : ∀ v ∈ w :: ws, ∀ pkt ∈ v, pkt.dstClientId = clientId)
    (hw : i + w.length < 4294967296) (hws : ∀ v ∈ ws, v.length < 4294967296) :
    trace pluginStep filter es = limits.judge i w ++ ws.flatMap (limits.judge 0) ∧
      ∃ j, Windowed clientId limits j (k + (w :: ws).flatten.length)
        (run pluginStep filter es) := by
  induction es generalizing filter i k w ws with
  | nil =>
    cases hwindows
    exact ⟨rfl, i, h⟩
  | cons e es ih =>
    obtain ⟨v, vs, hrest⟩ := exists_windows es
    cases e with
    | timer =>
      rw [windows, hrest] at hwindows
      cases hwindows
      rw [List.forall_mem_cons] at hdst hws
      obtain ⟨htrace, j, hrun⟩ := ih h.timer hrest hdst.2 (by omega) hws.2
      exact ⟨htrace, j, hrun⟩
    | packet pkt =>
      rw [windows, hrest, List.modifyHead_cons] at hwindows
      cases hwindows
      simp only [List.forall_mem_cons] at hdst
      rw [List.length_cons] at hw
      obtain ⟨hverdict, hnext⟩ := h.packet hdst.1.1 (by omega)
      obtain ⟨htrace, j, hrun⟩ := ih hnext hrest
        (List.forall_mem_cons.mpr ⟨hdst.1.2, hdst.2⟩) (by omega) hws
      refine ⟨?_, j, ?_⟩
      · rw [Limits.judge_cons, ← hverdict, List.cons_append, ← htrace]
        rfl
      · have hlen : k + ((pkt :: v) :: ws).flatten.length =
            k + 1 + (v :: ws).flatten.length := by
          simp only [List.flatten_cons, List.length_append, List.length_cons]
          omega
        rw [hlen]
        exact hrun

/-- Install a rule whose QoS limit fits in eight bits, and let any packets to its client and ticks
follow, fewer than 2³² packets in each window. Accepted are exactly the packets within the QoS and
length limits that are among the first `ppm` of their window, so no more than `ppm` in each window,
and the two counters of the rule together have counted every packet once. -/
theorem window_accepts_first (host : ByteOrder) (filter : AtlasFilter) {cmdBuf : List UInt8}
    {clientId : StdString} {limits : Limits}
    (hread : readInstall host cmdBuf = some (clientId, limits)) (hqos : limits.maxQos ≤ 255)
    (es : List PluginEvent) (hdst : ∀ w ∈ windows es, ∀ pkt ∈ w, pkt.dstClientId = clientId)
    (hlen : ∀ w ∈ windows es, w.length < 4294967296) :
    let installed := filter.installFirewallRule host cmdBuf
    trace pluginStep installed es = (windows es).flatMap (limits.judge 0) ∧
    (∀ w ∈ windows es, (limits.judge 0 w).countP (·.processPkt) ≤ limits.ppm.toNat) ∧
    ∃ policer, (run pluginStep installed es).rules clientId = some policer ∧
      policer.statPktPass + policer.statPktDrop = .ofNat (windows es).flatten.length := by
  intro installed
  obtain ⟨w, ws, hwindows⟩ := exists_windows es
  rw [hwindows] at hdst hlen ⊢
  rw [List.forall_mem_cons] at hlen
  have hstart := Windowed.install host filter hread hqos
  obtain ⟨htrace, j, hrun⟩ := hstart.trace_eq hwindows hdst (by omega) hlen.2
  obtain ⟨policer, hrule, -, hcount⟩ := hrun.rule
  refine ⟨htrace, fun v _ => limits.countP_judge_le 0 v, policer, hrule, ?_⟩
  rw [hcount, Nat.zero_add]

/-- The command that installs a rule for client `a` with QoS 1, two packets a minute and 100
bytes. -/
def sampleInstall : List UInt8 :=
  [3, 237, 0, 1, 97, 3, 238, 0, 2, 0, 1, 3, 239, 0, 2, 0, 2, 3, 240, 0, 2, 0, 100]

/-- A packet that is too long takes the second place of the first window. -/
theorem window_accepts_first_two :
    trace pluginStep (AtlasFilter.init.installFirewallRule .little sampleInstall)
      [.packet ⟨none, [97], 0, 20⟩, .packet ⟨none, [97], 0, 200⟩, .packet ⟨none, [97], 1, 20⟩,
        .timer, .packet ⟨none, [97], 1, 20⟩] =
    [⟨⟨none, [97], 0, 20⟩, true⟩, ⟨⟨none, [97], 0, 200⟩, false⟩, ⟨⟨none, [97], 1, 20⟩, false⟩,
      ⟨⟨none, [97], 1, 20⟩, true⟩] := by
  have hread : readInstall .little sampleInstall = some ([97], ⟨1, 2, 100⟩) := by decide
  exact (window_accepts_first .little .init hread (by decide) _ (by decide) (by decide)).1

end Atlas.Firewall
