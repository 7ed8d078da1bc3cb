import Atlas.Firewall.System

/-! # Gateway and plug-in agree when quiet

For one client, the calls under way take its rule in the plug-in from one value to another, whatever
a statistics query puts in place of a missing rule (`Settles`). Every change of a device's policy
comes with calls that take the rule the same way (`Move.follows`). So once the plug-in's request for
all rules is answered, the calls under way always lead to the policies of the gateway
(`InStep.synced`).

Before that the plug-in has no rules, and only a client without a policy matters: nothing may be
left for it. The request itself is answered with the policies of all the others.
-/

namespace Atlas.Firewall

open ByteOrder EventMachine Gateway
open AtlasPubSubAgent (Call)

/-- The limits a policer enforces. -/
structure Rule where
  maxQos : UInt8
  ppm : UInt16
  maxPayloadLen : UInt16
deriving DecidableEq, Inhabited

/-- The limits of a policer. -/
def AtlasPacketPolicer.rule (policer : AtlasPacketPolicer) : Rule :=
  ⟨policer.maxQos, policer.ppm, policer.maxPayloadLen⟩

/-- The limits of a policy, its QoS modulo 256. -/
def AtlasFirewallPolicy.rule (policy : AtlasFirewallPolicy) : Rule :=
  ⟨policy.qos.toUInt8, policy.ppm, policy.payloadLen⟩

/-- The rule of a client in the plug-in. -/
def ruleOf (filter : AtlasFilter) (clientId : StdString) : Option Rule :=
  (filter.rules clientId).map (·.rule)

/-- The rule a device asks for. -/
def policyOf (device : Option AtlasDevice) : Option Rule := (device.bind (·.policy)).map (·.rule)

/-! ## Calls and the rule of one client -/

/-- The rule of a client after a call. A statistics query makes a missing rule from `fresh`. -/
def effect (clientId : StdString) (fresh : Rule) (rule : Option Rule) : Call → Option Rule
  | .installFirewallRule policy => if policy.clientId = clientId then some policy.rule else rule
  | .removeFirewallRule c => if c = clientId then none else rule
  | .getFirewallRuleStats c => if c = clientId then some (rule.getD fresh) else rule

/-- The calls lead from `rule` to `rule'`, whatever the contents of new policers. -/
def Settles (clientId : StdString) (rule : Option Rule) : List Call → Option Rule → Prop
  | [], rule' => rule = rule'
  | call :: calls, rule' => ∀ fresh, Settles clientId (effect clientId fresh rule call) calls rule'

theorem ruleOf_handle (fresh : AtlasPacketPolicer) (filter : AtlasFilter) (call : Call)
    (clientId : StdString) :
    ruleOf (filter.handle fresh call).1 clientId =
      effect clientId fresh.rule (ruleOf filter clientId) call := by
  cases call with
  | installFirewallRule policy =>
    by_cases h : policy.clientId = clientId
    · subst h
      simp [ruleOf, AtlasFilter.handle, effect, AtlasPacketPolicer.new, AtlasPacketPolicer.rule,
        AtlasFirewallPolicy.rule]
    · simp [ruleOf, AtlasFilter.handle, effect, h, Function.update_of_ne (Ne.symm h)]
  | removeFirewallRule c =>
    by_cases h : c = clientId
    · subst h
      simp [ruleOf, AtlasFilter.handle, effect]
    · simp [ruleOf, AtlasFilter.handle, effect, h, Function.update_of_ne (Ne.symm h)]
  | getFirewallRuleStats c =>
    by_cases h : c = clientId
    · subst h
      cases hrule : filter.rules c <;>
        simp [ruleOf, AtlasFilter.handle, effect, hrule, AtlasPacketPolicer.rule]
    · simp [ruleOf, AtlasFilter.handle, effect, h, Function.update_of_ne (Ne.symm h)]

namespace Settles

variable {clientId : StdString} {rule rule' rule'' : Option Rule} {calls calls' : List Call}

theorem append (h : Settles clientId rule calls rule') (h' : Settles clientId rule' calls' rule'') :
    Settles clientId rule (calls ++ calls') rule'' := by
  induction calls generalizing rule with
  | nil => exact h ▸ h'
  | cons call calls ih => exact fun fresh => ih (h fresh)

/-- Calls that lead to a rule from anywhere do so after any other calls. -/
theorem append_left (h : ∀ rule, Settles clientId rule calls' rule'') (calls : List Call)
    (rule : Option Rule) : Settles clientId rule (calls ++ calls') rule'' := by
  induction calls generalizing rule with
  | nil => exact h rule
  | cons call calls ih => exact fun fresh => ih _

/-- Calls about other clients do not matter. -/
theorem of_filter (h : Settles clientId rule (calls.filter (·.clientId = clientId)) rule') :
    Settles clientId rule calls rule' := by
  induction calls generalizing rule with
  | nil => exact h
  | cons call calls ih =>
    intro fresh
    by_cases hc : call.clientId = clientId
    · rw [List.filter_cons_of_pos (by simpa using hc)] at h
      exact ih (h fresh)
    · rw [List.filter_cons_of_neg (by simpa using hc)] at h
      have hsame : effect clientId fresh rule call = rule := by
        cases call <;> exact if_neg hc
      rw [hsame]
      exact ih h

end Settles

/-! ## Policies and the calls that follow them -/

/-- The calls take the rule of a client where its policy goes. When the policy is taken away, they
leave no rule, whatever was there. -/
structure Follows (clientId : StdString) (device : Option AtlasDevice) (calls : List Call)
    (device' : Option AtlasDevice) : Prop where
  settles : Settles clientId (policyOf device) calls (policyOf device')
  removes : policyOf device' = none →
    policyOf device = none ∨ ∀ rule, Settles clientId rule calls none

namespace Follows

variable {clientId : StdString} {device device' device'' : Option AtlasDevice}
variable {calls calls' : List Call}

theorem of_eq (h : policyOf device' = policyOf device) : Follows clientId device [] device' :=
  ⟨h.symm, fun hnone => .inl (h ▸ hnone)⟩

theorem trans (h : Follows clientId device calls device')
    (h' : Follows clientId device' calls' device'') :
    Follows clientId device (calls ++ calls') device'' := by
  refine ⟨h.settles.append h'.settles, fun hnone => ?_⟩
  rcases h'.removes hnone with hnone' | hall'
  · rcases h.removes hnone' with hnone'' | hall
    · exact .inl hnone''
    · have hstay : Settles clientId none calls' none := by
        simpa only [hnone', hnone] using h'.settles
      exact .inr fun rule => (hall rule).append hstay
  · exact .inr fun rule => .append_left hall' calls rule

end Follows

/-- A call about the policy of a device that keeps the rule of this policy follows it. -/
theorem Follows.of_policy {device : AtlasDevice} (hsound : device.Sound)
    {call : AtlasFirewallPolicy → Call}
    (hcall : ∀ policy, policy.clientId = device.identity → ∀ fresh,
      effect device.identity fresh (some policy.rule) (call policy) = some policy.rule) :
    Follows device.identity (some device) (device.policy.toList.map call) (some device) := by
  refine ⟨?_, .inl⟩
  cases hpolicy : device.policy with
  | none => rfl
  | some policy =>
    intro fresh
    simp [policyOf, hpolicy, hcall policy (hsound.policy policy hpolicy).1, Settles]

theorem Move.follows {report : Prop} {clientId : StdString} {device device' : Option AtlasDevice}
    {calls : List Call} (h : Move report clientId device calls device')
    (hheld : Held clientId device) : Follows clientId device calls device' := by
  cases h with
  | create kaCtr stats => exact .of_eq rfl
  | register device hfits => exact .of_eq rfl
  | keepAlive device => exact .of_eq rfl
  | addStats hreport device delta => exact .of_eq rfl
  | setPolicy device policy hreg hid =>
    have hpolicy : policyOf (some (device.setPolicyInfo policy)) = some policy.rule := by
      simp [policyOf]
    refine ⟨fun fresh => ?_, fun hnone => nomatch hpolicy.symm.trans hnone⟩
    simp [effect, hid, hpolicy, Settles]
  | expire device =>
    obtain ⟨rfl, hsound⟩ := hheld device rfl
    rcases device.keepaliveAlarm_cases with ⟨hexp, kaCtr, hnext⟩ | ⟨hexp, kaCtr, hnext⟩
    · cases hpolicy : device.policy with
      | none =>
        rw [hnext, AtlasDeviceManager.uninstall, if_pos hexp, hpolicy]
        exact .of_eq (by simp [policyOf, hpolicy])
      | some policy =>
        have hid := (hsound.policy policy hpolicy).1
        have hall : ∀ rule, Settles device.identity rule
            [.removeFirewallRule policy.clientId] none := by
          intro rule fresh
          simp [effect, hid, Settles]
        rw [hnext, AtlasDeviceManager.uninstall, if_pos hexp, hpolicy]
        exact ⟨hall _, fun _ => .inr hall⟩
    · rw [hnext, AtlasDeviceManager.uninstall, if_neg (by simp [hexp])]
      exact .of_eq rfl
  | getStats device =>
    obtain ⟨rfl, hsound⟩ := hheld device rfl
    exact .of_policy hsound fun policy hid fresh => by simp [effect, hid]
  | install device =>
    obtain ⟨rfl, hsound⟩ := hheld device rfl
    exact .of_policy hsound fun policy hid fresh => by simp [effect, hid]

theorem follows_of_path {report : Prop} {clientId : StdString} {device device' : Option AtlasDevice}
    {calls : List Call} (p : Path (Move report clientId) device calls device')
    (hheld : Held clientId device) : Follows clientId device calls device' := by
  induction p with
  | refl device => exact .of_eq rfl
  | head hmove _ ih => exact (hmove.follows hheld).trans (ih (hmove.held hheld).1)

/-- What a handler of the gateway does follows the policies, client by client. -/
theorem Traces.follows {report : Prop} {manager manager' : AtlasDeviceManager} {calls : List Call}
    (h : Traces report manager calls manager') (hsound : manager.Sound) (clientId : StdString) :
    Follows clientId (manager.devices.find? clientId) (calls.filter (·.clientId = clientId))
      (manager'.devices.find? clientId) :=
  follows_of_path (h clientId) (hsound.held clientId)

/-- The answer to a request for all rules leads to the policies, if no client without a policy has a
rule left. -/
theorem settles_installAllPolicies {manager : AtlasDeviceManager} (hsound : manager.Sound)
    (env : Env) {clientId : StdString} {rule : Option Rule} {calls : List Call}
    (h : policyOf (manager.devices.find? clientId) = none → Settles clientId rule calls none) :
    Settles clientId rule (calls ++ manager.installAllPolicies env)
      (policyOf (manager.devices.find? clientId)) := by
  have hfilter : (manager.installAllPolicies env).filter (·.clientId = clientId) =
      (manager.devices.find? clientId).toList.flatMap
        fun device => device.policy.toList.map .installFirewallRule :=
    Traces.filter_forEachDevice env hsound (fun device => @Move.install False _ device) clientId
  have hheld := hsound.held clientId
  generalize manager.devices.find? clientId = device at h hfilter hheld
  cases hpolicy : device.bind (·.policy) with
  | none =>
    have hnone : policyOf device = none := by simp [policyOf, hpolicy]
    have hnil : (manager.installAllPolicies env).filter (·.clientId = clientId) = [] := by
      rw [hfilter]
      cases device <;> simp_all
    rw [hnone]
    exact (h hnone).append (.of_filter (by rw [hnil]; rfl))
  | some policy =>
    obtain ⟨d, rfl, hd⟩ := Option.bind_eq_some_iff.mp hpolicy
    obtain ⟨rfl, hdsound⟩ := hheld d rfl
    refine .append_left (fun rule => .of_filter ?_) calls rule
    simp [hfilter, hd, effect, (hdsound.policy policy hd).1, policyOf, Settles]

/-! ## The invariant of a connection -/

/-- How far the two sides are with a connection. -/
inductive InStep (manager : AtlasDeviceManager) (filter : AtlasFilter) :
    Duplex.Connection Call Reply → Prop where
  /-- The gateway has not accepted, and the plug-in has no rules. -/
  | opened (hrules : ∀ clientId, ruleOf filter clientId = none) :
      InStep manager filter ⟨false, [], [.getAllFirewallRules]⟩
  /-- The request for all rules is under way, and clients without a policy are left no rule. -/
  | pending {down : List Call} {up : List Reply} (hup : .getAllFirewallRules ∉ up)
      (h : ∀ clientId, policyOf (manager.devices.find? clientId) = none →
        Settles clientId (ruleOf filter clientId) down none) :
      InStep manager filter ⟨true, down, .getAllFirewallRules :: up⟩
  /-- The request is answered, and the calls under way lead to the policies. -/
  | synced {down : List Call} {up : List Reply} (hup : .getAllFirewallRules ∉ up)
      (h : ∀ clientId, Settles clientId (ruleOf filter clientId) down
        (policyOf (manager.devices.find? clientId))) :
      InStep manager filter ⟨true, down, up⟩

namespace InStep

variable {manager manager' : AtlasDeviceManager} {filter filter' : AtlasFilter}
variable {c : Duplex.Connection Call Reply}

/-- A handler of the gateway that writes its calls. -/
theorem send {report : Prop} (h : InStep manager filter c) (hsound : manager.Sound)
    {calls : List Call} (htraces : Traces report manager calls manager') :
    InStep manager' filter (c.send calls) := by
  have hfollows := htraces.follows hsound
  cases h with
  | opened hrules => exact .opened hrules
  | pending hup h =>
    refine .pending hup fun clientId hnone => ?_
    rcases (hfollows clientId).removes hnone with hbefore | hall
    · have hstay := (hfollows clientId).settles
      rw [hbefore, hnone] at hstay
      exact (h clientId hbefore).append (.of_filter hstay)
    · exact .append_left (fun rule => .of_filter (hall rule)) _ _
  | synced hup h =>
    exact .synced hup fun clientId =>
      (h clientId).append (.of_filter (hfollows clientId).settles)

theorem congr (h : InStep manager filter c) (hrules : ∀ clientId, ruleOf filter' clientId =
    ruleOf filter clientId) : InStep manager filter' c := by
  cases h with
  | opened hnone => exact .opened fun clientId => (hrules clientId).trans (hnone clientId)
  | pending hup h => exact .pending hup fun clientId => by rw [hrules]; exact h clientId
  | synced hup h => exact .synced hup fun clientId => by rw [hrules]; exact h clientId

theorem accept (h : InStep manager filter c) :
    InStep manager filter { c with accepted := true } := by
  cases h with
  | opened hrules => exact .pending List.not_mem_nil fun clientId _ => hrules clientId
  | pending hup h => exact .pending hup h
  | synced hup h => exact .synced hup h

/-- The plug-in never asks for all rules in reply to a call. -/
theorem getAll_not_mem_handle (filter : AtlasFilter) (fresh : AtlasPacketPolicer) (call : Call) :
    Reply.getAllFirewallRules ∉ (filter.handle fresh call).2 := by
  cases call <;> simp [AtlasFilter.handle]

/-- The plug-in reads the next call. -/
theorem readDown {accepted : Bool} {call : Call} {down : List Call} {up : List Reply}
    (h : InStep manager filter ⟨accepted, call :: down, up⟩) (fresh : AtlasPacketPolicer) :
    InStep manager (filter.handle fresh call).1
      ⟨accepted, down, up ++ (filter.handle fresh call).2⟩ := by
  have hreply := getAll_not_mem_handle filter fresh call
  generalize hc : (⟨accepted, call :: down, up⟩ : Duplex.Connection Call Reply) = c at h
  cases h with
  | opened hrules => cases hc
  | pending hup h =>
    cases hc
    refine .pending (List.mem_append.not.mpr (not_or.mpr ⟨hup, hreply⟩)) fun clientId hnone => ?_
    rw [ruleOf_handle]
    exact h clientId hnone fresh.rule
  | synced hup h =>
    cases hc
    refine .synced (List.mem_append.not.mpr (not_or.mpr ⟨hup, hreply⟩)) fun clientId => ?_
    rw [ruleOf_handle]
    exact h clientId fresh.rule

/-- The gateway reads the next reply: the request for all rules, or a report. -/
theorem readUp {down : List Call} {reply : Reply} {up : List Reply}
    (h : InStep manager filter ⟨true, down, reply :: up⟩) (hsound : manager.Sound) (env : Env) :
    InStep (AtlasPubSubAgent.handle env manager reply).1 filter
      ⟨true, down ++ (AtlasPubSubAgent.handle env manager reply).2, up⟩ := by
  generalize hc : (⟨true, down, reply :: up⟩ : Duplex.Connection Call Reply) = c at h
  cases h with
  | opened hrules => cases hc
  | pending hup h =>
    cases hc
    exact .synced hup fun clientId => settles_installAllPolicies hsound env (h clientId)
  | synced hup h =>
    cases hc
    have hfollows := (traces_handle hsound env reply).follows hsound
    refine .synced (fun hmem => hup (List.mem_cons_of_mem _ hmem)) fun clientId => ?_
    exact (h clientId).append (.of_filter (hfollows clientId).settles)

end InStep

/-! ## Runs -/

/-- Packets and the timer leave the limits alone. -/
theorem ruleOf_pluginStep (filter : AtlasFilter) (e : PluginEvent) (clientId : StdString) :
    ruleOf (pluginStep filter e).1 clientId = ruleOf filter clientId := by
  cases e with
  | timer =>
    cases hrule : filter.rules clientId <;>
      simp [ruleOf, pluginStep, AtlasFilter.timerHandler, hrule, AtlasPacketPolicer.rule,
        AtlasPacketPolicer.rateLimitWindowStart]
  | packet pkt =>
    have hpolicer : ∀ policer : AtlasPacketPolicer, (policer.filter pkt).1.rule = policer.rule := by
      intro policer
      rw [AtlasPacketPolicer.filter]
      split <;> rfl
    simp only [ruleOf, pluginStep, AtlasFilter.rules_filter]
    split
    case isTrue =>
      rw [Option.map_map]
      exact congrArg (Option.map · _) (funext hpolicer)
    case isFalse => rfl

/-- Both sides of the connection are in step. -/
structure Coherent (s : SystemState) : Prop where
  sound : s.server.Sound
  inStep : ∀ c ∈ s.connection, InStep s.server s.client c

variable (host : ByteOrder)

theorem Coherent.step {s : SystemState} (h : Coherent s)
    (e : Duplex.Event GatewayEvent PluginEvent AtlasPacketPolicer Env) :
    Coherent ((messages host).step s e).1 := by
  obtain ⟨server, client, connection⟩ := s
  obtain ⟨hsound, hstep⟩ := h
  cases e with
  | server e =>
    have htraces :
        Traces False server (gatewayStep host server e).2 (gatewayStep host server e).1 :=
      traces_gatewayStep hsound e
    refine ⟨(htraces.sound hsound).1, fun c' hc' => ?_⟩
    obtain ⟨c, hc, rfl⟩ := Option.map_eq_some_iff.mp hc'
    exact (hstep c hc).send hsound htraces
  | client e =>
    exact ⟨hsound, fun c hc => (hstep c hc).congr (ruleOf_pluginStep client e)⟩
  | connect =>
    refine ⟨hsound, ?_⟩
    rintro c ⟨⟩
    exact .opened fun _ => rfl
  | accept =>
    refine ⟨hsound, fun c' hc' => ?_⟩
    obtain ⟨c, hc, rfl⟩ := Option.map_eq_some_iff.mp hc'
    exact (hstep c hc).accept
  | readDown fresh =>
    obtain hread | ⟨accepted, call, down, up, hc, hread⟩ :=
      (messages host).step_readDown_cases ⟨server, client, connection⟩ fresh
    · rw [hread]
      exact ⟨hsound, hstep⟩
    · rw [hread]
      refine ⟨hsound, ?_⟩
      rintro c ⟨⟩
      exact (hstep _ hc).readDown fresh
  | readUp env =>
    obtain hread | ⟨down, reply, up, hc, hread⟩ :=
      (messages host).step_readUp_cases ⟨server, client, connection⟩ env
    · rw [hread]
      exact ⟨hsound, hstep⟩
    · rw [hread]
      refine ⟨((traces_handle hsound env reply).sound hsound).1, ?_⟩
      rintro c ⟨⟩
      exact (hstep _ hc).readUp hsound env

theorem coherent_of_reachable {s : SystemState}
    (h : Reachable (messages host).step systemInit s) : Coherent s :=
  h.invariant (fun _ e hs => hs.step host e) ⟨sound_systemInit, fun _ hc => nomatch hc⟩

/-- Whenever no message is under way on the connection, which the request for all rules has then
left, the rules of the plug-in are exactly the policies of the devices, each under the identity of
its device. -/
theorem rules_eq_policies_of_quiet {s : WireState} (h : Reachable (wire host).step wireInit s)
    {c : Duplex.Connection (List UInt8) (List UInt8)} (hc : s.connection = some c)
    (hdown : c.down = []) (hup : c.up = []) :
    (∀ clientId, ruleOf s.client clientId = policyOf (s.server.devices.find? clientId)) ∧
      ∀ device ∈ s.server.devices.rows, ∀ policy ∈ device.policy,
        policy.clientId = device.identity := by
  obtain ⟨es, rfl⟩ := h
  obtain ⟨hrun, hsound, -⟩ := run_wire host es
  have hcoherent := coherent_of_reachable host ⟨es, rfl⟩
  rw [hrun] at hc ⊢
  generalize EventMachine.run (messages host).step systemInit es = t at hc hcoherent hsound ⊢
  obtain ⟨c', hc', rfl⟩ := Option.map_eq_some_iff.mp hc
  constructor
  · intro clientId
    have hinStep := hcoherent.inStep c' hc'
    cases hinStep with
    | opened hrules => cases hup
    | pending hnot hsettles => cases hup
    | synced hnot hsettles =>
      obtain rfl := List.map_eq_nil_iff.mp hdown
      exact hsettles clientId
  · intro device hmem policy hpolicy
    have hfind := Table.find?_eq_some_iff.mpr ⟨hmem, rfl⟩
    exact ((hsound device.identity device hfind).policy policy hpolicy).1

theorem rules_eq_policies_of_quiet_policyRun :
    ruleOf (run (wire .little).step wireInit policyRun).client [65] = some ⟨2, 60, 100⟩ := by
  have hquiet : (run (wire .little).step wireInit policyRun).connection = some ⟨true, [], []⟩ := rfl
  have hpolicy : policyOf ((run (wire .little).step wireInit policyRun).server.devices.find? [65]) =
      some ⟨2, 60, 100⟩ := by decide
  exact ((rules_eq_policies_of_quiet .little ⟨policyRun, rfl⟩ hquiet rfl rfl).1 [65]).trans hpolicy

end Atlas.Firewall
