import Atlas.Firewall.Filter
import Mathlib.Data.Option.Basic

/-! # Firewall rules mean what was installed

For one client, everything the filter should know is the limits of its latest rule, if the latest
well-formed command was an install, and the packets of the current window (`latest`). The rule table
agrees with that account after every step (`Enforces`), up to the two places where the code leaves
it: a statistics query for a client without a rule puts one there, and the QoS limit is cut to eight
bits.
-/

namespace Atlas.Firewall

open ByteOrder EventMachine Gateway

/-- What can happen at the plug-in. A statistics query comes with the contents of a policer that no
constructor has set. -/
inductive Event where
  | install (cmdBuf : List UInt8)
  | remove (cmdBuf : List UInt8)
  | getStats (cmdBuf : List UInt8) (fresh : AtlasPacketPolicer)
  | timer
  | reconnect
  | filter (pkt : AtlasPacket)
deriving DecidableEq

/-- What the plug-in does: replies to the gateway, and decisions about packets. -/
inductive Output where
  | reply (frame : List UInt8)
  | verdict (pkt : AtlasPacket) (processPkt : Bool)
deriving DecidableEq

variable (host : ByteOrder)

/-- One event at the plug-in. -/
def step (filter : AtlasFilter) : Event → AtlasFilter × List Output
  | .install cmdBuf => (filter.installFirewallRule host cmdBuf, [])
  | .remove cmdBuf => (filter.removeFirewallRule host cmdBuf, [])
  | .getStats cmdBuf fresh =>
    let (filter, replies) := filter.getFirewallRuleStats host fresh cmdBuf
    (filter, replies.map .reply)
  | .timer => (filter.timerHandler, [])
  | .reconnect => (filter.gatewayConnect, [])
  | .filter pkt =>
    let (filter, processPkt) := filter.filter pkt
    (filter, [.verdict pkt processPkt])

/-! ## What a rule means -/

/-- Whether the limits admit a packet, as the `n`-th of its window. The windows count in 32 bits. -/
def Limits.admits (limits : Limits) (n : UInt32) (pkt : AtlasPacket) : Bool :=
  pkt.qos.toNat ≤ limits.maxQos.toNat ∧ pkt.payloadLen ≤ limits.maxPayloadLen ∧
    n.toNat ≤ limits.ppm.toNat

/-- The rule of a client after one more event: the limits of the latest well-formed install, unless
a remove or a reconnect came after it, and the packets of the current window. -/
def latest (clientId : StdString) (rule : Option (Limits × UInt32)) :
    Event → Option (Limits × UInt32)
  | .install cmdBuf =>
    match readInstall host cmdBuf with
    | some (c, limits) => if c = clientId then some (limits, 0) else rule
    | none => rule
  | .remove cmdBuf => if clientId ≠ [] ∧ readClientId host cmdBuf = clientId then none else rule
  | .getStats _ _ => rule
  | .timer => rule.map fun (limits, _) => (limits, 0)
  | .reconnect => none
  | .filter pkt =>
    if pkt.dstClientId = clientId then rule.map fun (limits, n) => (limits, n + 1) else rule

/-- The rule of a client after these events. -/
def history (clientId : StdString) (es : List Event) : Option (Limits × UInt32) :=
  es.foldl (latest host clientId) none

/-- The decision about a packet whose destination has this rule. -/
def verdict (pkt : AtlasPacket) : Option (Limits × UInt32) → Bool
  | none => true
  | some (limits, n) => limits.admits (n + 1) pkt

/-! ## The QoS limit in eight bits -/

/-- A packet's QoS has eight bits, so a limit loses nothing when it fits in eight bits, or when what
is left of it still admits every packet. -/
def QosExact (maxQos : UInt16) : Prop := maxQos.toNat < 256 ∨ maxQos.toNat % 256 = 255

instance (maxQos : UInt16) : Decidable (QosExact maxQos) := inferInstanceAs (Decidable (_ ∨ _))

theorem forall_qos_iff (maxQos : UInt16) :
    (∀ qos : UInt8, qos > maxQos.toUInt8 ↔ maxQos.toNat < qos.toNat) ↔ QosExact maxQos := by
  simp only [GT.gt, UInt8.lt_iff_toNat_lt, UInt16.toNat_toUInt8, QosExact]
  constructor
  · intro h
    have := h 255
    simp only [UInt8.reduceToNat] at this
    omega
  · intro h qos
    have := qos.toNat_lt
    omega

/-- The policer judges as the limits say, with `n` packets in its window. -/
structure Enforces (policer : AtlasPacketPolicer) (limits : Limits) (n : UInt32) : Prop where
  windowPpm : policer.windowPpm = n
  maxQos : ∀ qos : UInt8, qos > policer.maxQos ↔ limits.maxQos.toNat < qos.toNat
  ppm : policer.ppm = limits.ppm
  maxPayloadLen : policer.maxPayloadLen = limits.maxPayloadLen

theorem Enforces.new {limits : Limits} (h : QosExact limits.maxQos) :
    Enforces (.new limits.maxQos.toUInt8 limits.ppm limits.maxPayloadLen) limits 0 :=
  ⟨rfl, (forall_qos_iff _).mpr h, rfl, rfl⟩

section

variable {policer : AtlasPacketPolicer} {limits : Limits} {n : UInt32}

/-- The next packet is judged by the limits. -/
theorem Enforces.filter_snd (h : Enforces policer limits n) (pkt : AtlasPacket) :
    (policer.filter pkt).2 = limits.admits (n + 1) pkt := by
  have hdrop : (pkt.qos > policer.maxQos ∨ pkt.payloadLen > policer.maxPayloadLen ∨
      (policer.windowPpm + 1).toNat > policer.ppm.toNat) ↔
      ¬ (pkt.qos.toNat ≤ limits.maxQos.toNat ∧ pkt.payloadLen ≤ limits.maxPayloadLen ∧
        (n + 1).toNat ≤ limits.ppm.toNat) := by
    rw [h.maxQos, h.windowPpm, h.ppm, h.maxPayloadLen, GT.gt, UInt16.lt_iff_toNat_lt,
      UInt16.le_iff_toNat_le]
    omega
  rw [AtlasPacketPolicer.filter, Limits.admits]
  split
  case isTrue hif => exact (decide_eq_false (hdrop.mp hif)).symm
  case isFalse hif => exact (decide_eq_true (not_not.mp (hif ∘ hdrop.mpr))).symm

/-- Judging a packet counts it and changes nothing else that matters. -/
theorem Enforces.filter_fst (h : Enforces policer limits n) (pkt : AtlasPacket) :
    Enforces (policer.filter pkt).1 limits (n + 1) := by
  have hwindow : policer.windowPpm + 1 = n + 1 := by rw [h.windowPpm]
  rw [AtlasPacketPolicer.filter]
  split
  case isTrue => exact ⟨hwindow, h.maxQos, h.ppm, h.maxPayloadLen⟩
  case isFalse => exact ⟨hwindow, h.maxQos, h.ppm, h.maxPayloadLen⟩

end

/-! ## The rule table against its account -/

/-- The rule of one client: absent from the table and from the account, or enforced as the account
says. -/
def Agrees (policer : Option AtlasPacketPolicer) (rule : Option (Limits × UInt32)) : Prop :=
  match policer, rule with
  | none, none => True
  | some policer, some (limits, n) => Enforces policer limits n
  | _, _ => False

/-- The steps that keep to the account: a statistics query names a client that has a rule, and the
QoS limit of an installed rule is exact in eight bits. -/
def Faithful (filter : AtlasFilter) : Event → Prop
  | .install cmdBuf => ∀ p ∈ readInstall host cmdBuf, QosExact p.2.maxQos
  | .getStats cmdBuf _ =>
    readClientId host cmdBuf ≠ [] → (filter.rules (readClientId host cmdBuf)).isSome
  | _ => True

theorem Agrees.isSome_eq {policer : Option AtlasPacketPolicer} {rule : Option (Limits × UInt32)}
    (h : Agrees policer rule) : policer.isSome = rule.isSome := by
  cases policer <;> cases rule <;> simp_all [Agrees]

/-- What changes the policer and the account alike keeps them together. -/
theorem Agrees.map {policer : Option AtlasPacketPolicer} {rule : Option (Limits × UInt32)}
    {f : AtlasPacketPolicer → AtlasPacketPolicer} {g : Limits × UInt32 → Limits × UInt32}
    (h : Agrees policer rule)
    (hfg : ∀ {policer limits n}, Enforces policer limits n →
      Enforces (f policer) (g (limits, n)).1 (g (limits, n)).2) :
    Agrees (policer.map f) (rule.map g) := by
  cases policer with
  | none =>
    cases rule with
    | none => trivial
    | some rule => exact h.elim
  | some policer =>
    cases rule with
    | none => exact h.elim
    | some rule => exact hfg h

/-- What one step does to the rule of a client. -/
theorem agrees_step {filter : AtlasFilter} {clientId : StdString} {rule : Option (Limits × UInt32)}
    {e : Event} (h : Agrees (filter.rules clientId) rule) (he : Faithful host filter e) :
    Agrees ((step host filter e).1.rules clientId) (latest host clientId rule e) := by
  cases e with
  | install cmdBuf =>
    simp only [step, latest, AtlasFilter.rules_installFirewallRule]
    cases hread : readInstall host cmdBuf with
    | none => exact h
    | some p =>
      by_cases hc : p.1 = clientId
      · simp only [hc, if_true]
        exact .new (he _ hread)
      · simpa only [hc, if_false] using h
  | remove cmdBuf =>
    simp only [step, latest, AtlasFilter.rules_removeFirewallRule]
    split
    case isTrue => trivial
    case isFalse => exact h
  | getStats cmdBuf fresh =>
    simp only [step, latest, AtlasFilter.rules_getFirewallRuleStats]
    split
    case isTrue hc =>
      -- the client has a rule, so the query only resets its counters
      obtain ⟨policer, hpolicer⟩ := Option.isSome_iff_exists.mp (he (hc.2 ▸ hc.1))
      rw [hc.2] at hpolicer
      rw [hpolicer] at h ⊢
      cases rule with
      | none => exact h.elim
      | some rule => exact ⟨h.windowPpm, h.maxQos, h.ppm, h.maxPayloadLen⟩
    case isFalse => exact h
  | timer => exact h.map fun h => ⟨rfl, h.maxQos, h.ppm, h.maxPayloadLen⟩
  | reconnect => trivial
  | filter pkt =>
    simp only [step, latest, AtlasFilter.rules_filter]
    split
    case isTrue => exact h.map fun h => h.filter_fst pkt
    case isFalse => exact h

/-- Along a faithful run the table and the account stay together. -/
theorem agrees_run {filter : AtlasFilter} {clientId : StdString} {rule : Option (Limits × UInt32)}
    {es : List Event} (h : Agrees (filter.rules clientId) rule)
    (hes : AllSteps (step host) (Faithful host) filter es) :
    Agrees ((run (step host) filter es).rules clientId) (es.foldl (latest host clientId) rule) := by
  induction es generalizing filter rule with
  | nil => exact h
  | cons e es ih => exact ih (agrees_step host h hes.1) hes.2

/-- A packet is judged by its destination's rule. -/
theorem Agrees.filter_snd {filter : AtlasFilter} {pkt : AtlasPacket}
    {rule : Option (Limits × UInt32)} (h : Agrees (filter.rules pkt.dstClientId) rule) :
    (filter.filter pkt).2 = verdict pkt rule := by
  rw [AtlasFilter.filter_snd]
  cases hpolicer : filter.rules pkt.dstClientId with
  | none =>
    rw [hpolicer] at h
    cases rule with
    | none => rfl
    | some rule => exact h.elim
  | some policer =>
    rw [hpolicer] at h
    cases rule with
    | none => exact h.elim
    | some rule => exact Enforces.filter_snd h pkt

instance (filter : AtlasFilter) : (e : Event) → Decidable (Faithful host filter e)
  | .install cmdBuf => inferInstanceAs (Decidable (∀ p ∈ readInstall host cmdBuf, _))
  | .getStats _ _ => inferInstanceAs (Decidable (_ → _))
  | .remove _ => .isTrue trivial
  | .timer => .isTrue trivial
  | .reconnect => .isTrue trivial
  | .filter _ => .isTrue trivial

/-- **Rules mean what was installed**, as long as statistics are queried for clients with a rule and
QoS limits are exact in eight bits: a client has a policer exactly when its latest well-formed
command since the last reconnect was an install, a packet is judged by the limits of that install,
and without one it passes. A statistics query changes none of this. -/
theorem rules_mean_installed (es : List Event)
    (hes : AllSteps (step host) (Faithful host) .init es) :
    (∀ clientId, ((run (step host) .init es).rules clientId).isSome =
      (history host clientId es).isSome) ∧
    (∀ pkt, ((run (step host) .init es).filter pkt).2 =
      verdict pkt (history host pkt.dstClientId es)) ∧
    ∀ cmdBuf fresh pkt, Faithful host (run (step host) .init es) (.getStats cmdBuf fresh) →
      ((run (step host) .init (es ++ [.getStats cmdBuf fresh])).filter pkt).2 =
        ((run (step host) .init es).filter pkt).2 := by
  have hinit : ∀ c, Agrees (AtlasFilter.init.rules c) none := fun _ => trivial
  have hagrees : ∀ c, Agrees ((run (step host) .init es).rules c) (history host c es) :=
    fun c => agrees_run host (hinit c) hes
  refine ⟨fun c => (hagrees c).isSome_eq, fun pkt => (hagrees _).filter_snd, ?_⟩
  intro cmdBuf fresh pkt hstats
  rw [run_append, (hagrees _).filter_snd]
  exact (agrees_step host (hagrees _) hstats).filter_snd

/-- A rule for client `a` with QoS 1, two packets a minute and 100 bytes, queried after a packet. -/
theorem rules_mean_installed_queried :
    AllSteps (step .little) (Faithful .little) .init
      [.install [3, 237, 0, 1, 97, 3, 238, 0, 2, 0, 1, 3, 239, 0, 2, 0, 2, 3, 240, 0, 2, 0, 100],
        .filter ⟨none, [97], 0, 20⟩, .getStats [3, 237, 0, 1, 97] ⟨0, 0, 0, 0, 0, 0⟩] ∧
    ((run (step .little) .init
      [.install [3, 237, 0, 1, 97, 3, 238, 0, 2, 0, 1, 3, 239, 0, 2, 0, 2, 3, 240, 0, 2, 0, 100],
        .filter ⟨none, [97], 0, 20⟩, .getStats [3, 237, 0, 1, 97] ⟨0, 0, 0, 0, 0, 0⟩]).filter
          ⟨none, [97], 0, 20⟩).2 = true :=
  ⟨by decide, ((rules_mean_installed .little _ (by decide)).2.1 ⟨none, [97], 0, 20⟩).trans
    (by decide)⟩

/-- A statistics query for a client that never had a rule: its next packet is dropped, by a policer
nobody installed. And a rule with QoS limit 256 drops a packet of QoS 1. -/
theorem not_rules_mean_installed :
    (((run (step .little) .init [.getStats [3, 237, 0, 1, 97] ⟨0, 0, 0, 0, 0, 0⟩]).filter
        ⟨none, [97], 0, 20⟩).2 = false ∧
      verdict ⟨none, [97], 0, 20⟩
        (history .little [97] [.getStats [3, 237, 0, 1, 97] ⟨0, 0, 0, 0, 0, 0⟩]) = true) ∧
    ((run (step .little) .init [.install
        [3, 237, 0, 1, 97, 3, 238, 0, 2, 1, 0, 3, 239, 0, 2, 0, 2, 3, 240, 0, 2, 0, 100]]).filter
        ⟨none, [97], 1, 20⟩).2 = false ∧
      verdict ⟨none, [97], 1, 20⟩ (history .little [97] [.install
        [3, 237, 0, 1, 97, 3, 238, 0, 2, 1, 0, 3, 239, 0, 2, 0, 2, 3, 240, 0, 2, 0, 100]]) =
          true := by
  decide

end Atlas.Firewall
