import Atlas.Firewall.Rules
import Mathlib.Data.Set.Basic

/-! # Rules and transmit statistics

The plug-in keeps two tables by client: the rules, and the statistics of the packets a client sends.
An install, a remove and a statistics query touch both for the same client, packets and the timer
change entries in place, so the tables have the same clients. A reconnect clears the rules only:
what had a rule before keeps its statistics, and is counted on without one.

Reference: `mosquitto_plugin/filter/AtlasFilter.cpp`.
-/

namespace Atlas.Firewall

open EventMachine Gateway

variable (host : ByteOrder)

namespace AtlasFilter

/-- The clients in the rule table. -/
def ruleClients (filter : AtlasFilter) : Set StdString := {c | (filter.rules c).isSome}

/-- The clients in the transmit statistics table. -/
def txClients (filter : AtlasFilter) : Set StdString := {c | (filter.txPktStats c).isSome}

/-- Both tables have the same clients. -/
def Paired (filter : AtlasFilter) : Prop := filter.ruleClients = filter.txClients

variable {f : AtlasFilter}

theorem paired_iff : f.Paired ↔ ∀ c, (f.rules c).isSome = (f.txPktStats c).isSome := by
  rw [Paired, Set.ext_iff]
  exact forall_congr' fun c => Bool.eq_iff_iff.symm

/-- Two tables that are updated at one client alike. -/
theorem Paired.update (h : f.Paired) (c : StdString) {rule : Option AtlasPacketPolicer}
    {tx : Option AtlasPacketStats} (heq : rule.isSome = tx.isSome) :
    Paired ⟨Function.update f.rules c rule, Function.update f.txPktStats c tx⟩ := by
  rw [paired_iff] at h ⊢
  intro c'
  by_cases hc : c' = c
  · subst hc
    simpa using heq
  · simpa [Function.update_of_ne hc] using h c'

/-- Counting a packet adds no client and takes none away. -/
theorem isSome_countTx (txPktStats : StdString → Option AtlasPacketStats)
    (srcClientId : Option StdString) (processPkt : Bool) (c : StdString) :
    (countTx txPktStats srcClientId processPkt c).isSome = (txPktStats c).isSome := by
  cases srcClientId with
  | none => rfl
  | some src =>
    by_cases hc : c = src
    · subst hc
      simp [countTx]
    · simp [countTx, Function.update_of_ne hc]

/-- Judging a packet leaves the clients of both tables as they are. -/
theorem Paired.filter (h : f.Paired) (pkt : AtlasPacket) : (f.filter pkt).1.Paired := by
  rw [paired_iff] at h ⊢
  intro c
  have htx : ((f.filter pkt).1.txPktStats c).isSome = (f.txPktStats c).isSome := by
    rw [AtlasFilter.filter]
    cases f.rules pkt.dstClientId <;> exact isSome_countTx ..
  rw [htx, rules_filter, ← h c]
  split
  · rw [Option.isSome_map]
  · rfl

/-- After a reconnect there is no rule, so the tables agree only if there was none before. -/
theorem Paired.gatewayConnect_iff (h : f.Paired) :
    f.gatewayConnect.Paired ↔ f.ruleClients = ∅ := by
  have hrules : f.gatewayConnect.ruleClients = ∅ := by
    simp [gatewayConnect, ruleClients]
  rw [Paired, hrules, eq_comm, h]
  rfl

end AtlasFilter

open AtlasFilter

variable {f : AtlasFilter}

/-- The events under which the tables keep the same clients: a reconnect comes when there is no
rule. -/
def KeepsPaired (filter : AtlasFilter) (e : Event) : Prop := e = .reconnect → filter.ruleClients = ∅

theorem AtlasFilter.Paired.step (h : f.Paired) {e : Event} (he : KeepsPaired f e) :
    (step host f e).1.Paired := by
  cases e with
  | install cmdBuf =>
    simp only [Firewall.step, installFirewallRule]
    split
    · exact h
    · exact h.update _ rfl
  | remove cmdBuf =>
    simp only [Firewall.step, removeFirewallRule]
    split
    · exact h
    · exact h.update _ rfl
  | getStats cmdBuf fresh =>
    simp only [Firewall.step, getFirewallRuleStats]
    split
    · exact h
    · exact h.update _ rfl
  | timer =>
    rw [paired_iff] at h ⊢
    exact fun c => Option.isSome_map.trans (h c)
  | reconnect => exact h.gatewayConnect_iff.mpr (he rfl)
  | filter pkt => exact h.filter pkt

/-- From when the plug-in is loaded, whatever events come, the rules and the transmit statistics
have the same clients in every state, in exactly the runs in which no rule is there at a
reconnect. -/
theorem allStates_paired_iff (es : List Event) :
    AllStates (step host) AtlasFilter.Paired .init es ↔
      AllSteps (step host) KeepsPaired .init es := by
  refine allStates_iff_allSteps (J := fun f _ => f.Paired) (fun _ _ h => h) ?_ ?_ rfl
  · exact fun f e _ h he => h.step host he
  · intro f e _ h he hpaired
    obtain ⟨rfl, hne⟩ := Classical.not_imp.mp he
    exact hne (h.gatewayConnect_iff.mp hpaired)

/-- A rule for client `a` is there when the plug-in reconnects. -/
theorem reconnect_not_paired :
    let f := run (step .little) .init [.install
      [3, 237, 0, 1, 97, 3, 238, 0, 2, 0, 1, 3, 239, 0, 2, 0, 2, 3, 240, 0, 2, 0, 100], .reconnect]
    (f.rules [97]).isSome = false ∧ (f.txPktStats [97]).isSome = true ∧ ¬ f.Paired := by
  refine ⟨by decide, by decide, fun h => ?_⟩
  exact absurd (paired_iff.mp h [97]) (by decide)

end Atlas.Firewall
