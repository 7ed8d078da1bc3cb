import Atlas.Devices.Requests
import Atlas.Lib.EventMachine

/-! # Registered devices

A device is registered by an accepted registration and stays so as long as the keep-alive alarm does
not tick four times in a row without an accepted registration or keep-alive request. The counter of
a registered device is what is left of the four ticks, which ties it to the history of the gateway
(`Tracks`).

Reference: `register/AtlasRegister.cpp`, `device/AtlasDevice.cpp` (`registerNow`, `keepAliveNow`,
`keepAliveExpired`).
-/

namespace Atlas.Devices

open EventMachine Gateway

/-- A request of a client, or a tick of the keep-alive alarm. -/
inductive Event where
  | request (env : Env) (resource : Resource) (pskIdentity : StdString) (reqPayload : List UInt8)
  | keepaliveAlarm (env : Env)

/-- What can be observed of an event. -/
inductive Output where
  | answered (resource : Resource) (pskIdentity : StdString) (response : CoapResponse)
  | ticked
deriving DecidableEq

/-- The gateway on an event. An exception that leaves a callback ends the process. -/
def step (host : ByteOrder) :
    Option AtlasDeviceManager → Event → Option AtlasDeviceManager × List Output
  | none, _ => (none, [])
  | some manager, .request env resource pskIdentity reqPayload =>
    match resource.callback host env manager pskIdentity reqPayload with
    | .ok handled => (some handled.manager, [.answered resource pskIdentity handled.response])
    | .error _ => (none, [])
  | some manager, .keepaliveAlarm env => (some (manager.keepaliveAlarmCallback env).1, [.ticked])

/-- The device with this identity is registered. -/
def AtlasDeviceManager.isRegistered (manager : AtlasDeviceManager) (identity : StdString) : Bool :=
  (manager.devices.find? identity).any (·.registered)

/-! ## The history of a device -/

/-- A registration or keep-alive request of the device was accepted. -/
def Output.accepts (identity : StdString) : Output → Bool
  | .answered .register pskIdentity .ok => pskIdentity = identity
  | .answered .keepalive pskIdentity .ok => pskIdentity = identity
  | _ => false

/-- One more output, after so many ticks since the last accepted request. -/
def Output.count (identity : StdString) (ticks : Option ℕ) (w : Output) : Option ℕ :=
  if w.accepts identity then some 0
  else if w = .ticked then ticks.map (· + 1)
  else ticks

/-- The ticks since the last accepted registration or keep-alive request of the device, if there was
one. -/
def ticksSinceAccepted (identity : StdString) (ws : List Output) : Option ℕ :=
  ws.foldl (Output.count identity) none

/-! ## One step -/

/-- The device agrees with its history: registered with `4 - n` ticks left after `n < 4` ticks, and
not registered otherwise. -/
structure Tracks (ticks : Option ℕ) (device : Option Firewall.AtlasDevice) : Prop where
  absent : device = none → ticks = none
  counter : ∀ d ∈ device, d.registered → ∃ n, ticks = some n ∧ n < 4 ∧ d.kaCtr.toNat + n = 4
  recent : ∀ d ∈ device, ∀ n, ticks = some n → n < 4 → d.registered
  policy : ∀ d ∈ device, d.policy.isSome → d.registered

namespace Tracks

variable {ticks : Option ℕ} {device : Option Firewall.AtlasDevice} {d : Firewall.AtlasDevice}

/-- A device that is not registered has seen no accepted request in the last four ticks. -/
theorem unregistered (hreg : d.registered = false) (hpolicy : d.policy = none)
    (hold : ∀ n, ticks = some n → 4 ≤ n) : Tracks ticks (some d) where
  absent := nofun
  counter := by
    rintro _ ⟨⟩ hd
    simp [hreg] at hd
  recent := by
    rintro _ ⟨⟩ n hn hlt
    exact absurd (hold n hn) (Nat.not_le.mpr hlt)
  policy := by
    rintro _ ⟨⟩ hd
    simp [hpolicy] at hd

/-- A device that is not registered comes into memory. -/
theorem create (h : Tracks ticks none) (hreg : d.registered = false) (hpolicy : d.policy = none) :
    Tracks ticks (some d) :=
  unregistered hreg hpolicy fun n hn => by simp [h.absent rfl] at hn

/-- A registered device counts down from four. -/
theorem counting {n : ℕ} (hreg : d.registered = true) (hlt : n < 4) (hctr : d.kaCtr.toNat + n = 4) :
    Tracks (some n) (some d) where
  absent := nofun
  counter := by
    rintro _ ⟨⟩ -
    exact ⟨n, rfl, hlt, hctr⟩
  recent := by
    rintro _ ⟨⟩ _ _ _
    exact hreg
  policy := by
    rintro _ ⟨⟩ _
    exact hreg

/-- The device is registered with a full counter. -/
theorem accept (hreg : d.registered = true) (hctr : d.kaCtr = atlasKeepAliveCounter) :
    Tracks (some 0) (some d) :=
  counting hreg (by decide) (by rw [hctr]; rfl)

/-- After four ticks the device is not registered and has no policy. -/
theorem expired {n : ℕ} (hle : 4 ≤ n) (hreg : d.registered = false) (hpolicy : d.policy = none) :
    Tracks (some n) (some d) :=
  unregistered hreg hpolicy fun _ hm => Option.some_inj.mp hm ▸ hle

/-- More ticks are no news for a device that is not registered. -/
theorem idle (h : Tracks ticks (some d)) (hreg : d.registered = false) :
    Tracks (ticks.map (· + 1)) (some d) := by
  have hpolicy : d.policy = none := by
    refine Option.not_isSome_iff_eq_none.mp fun hsome => ?_
    simp [h.policy d rfl hsome] at hreg
  refine unregistered hreg hpolicy fun n hn => ?_
  obtain ⟨m, hm, rfl⟩ := Option.map_eq_some_iff.mp hn
  by_contra hlt
  simp [h.recent d rfl m hm (by omega)] at hreg

/-- Neither the registration nor the counter changes, and a policy is set only if the device is
registered. -/
theorem keep {d' : Firewall.AtlasDevice} (h : Tracks ticks (some d))
    (hreg : d'.registered = d.registered) (hctr : d'.kaCtr = d.kaCtr)
    (hpolicy : d'.policy.isSome → d.registered) : Tracks ticks (some d') where
  absent := nofun
  counter := by
    rintro _ ⟨⟩ hd
    rw [hctr]
    exact h.counter d rfl (hreg ▸ hd)
  recent := by
    rintro _ ⟨⟩ n hn hlt
    rw [hreg]
    exact h.recent d rfl n hn hlt
  policy := by
    rintro _ ⟨⟩ hd
    rw [hreg]
    exact hpolicy hd

/-- A tick takes one off the counter of a registered device, and the fourth one ends the
registration and the policy. -/
theorem tick (h : Tracks ticks device) :
    Tracks (ticks.map (· + 1)) (device.map (·.keepaliveAlarm)) := by
  cases device with
  | none => exact ⟨fun _ => by simp [h.absent rfl], nofun, nofun, nofun⟩
  | some d =>
    rw [Option.map_some, Firewall.AtlasDevice.keepaliveAlarm]
    cases hreg : d.registered with
    | false =>
      rw [if_neg (by simp)]
      exact h.idle hreg
    | true =>
      obtain ⟨n, rfl, hlt, hctr⟩ := h.counter d rfl hreg
      have hne : d.kaCtr ≠ 0 := by
        rintro h0
        rw [h0, UInt8.toNat_zero] at hctr
        omega
      rw [if_pos rfl, Firewall.AtlasDevice.keepAliveExpired, if_neg hne]
      show Tracks (some (n + 1)) _
      by_cases hlast : d.kaCtr = 1
      · rw [if_pos (by simp [Firewall.AtlasDevice.expires, hlast, hreg])]
        rw [hlast, UInt8.toNat_one] at hctr
        exact expired (by omega) rfl rfl
      · rw [if_neg (by simp [Firewall.AtlasDevice.expires, hlast])]
        have hne1 : d.kaCtr.toNat ≠ 1 := fun h1 => hlast (UInt8.toNat_inj.mp (by simpa using h1))
        have hpos : 1 ≤ d.kaCtr := by
          rw [UInt8.le_iff_toNat_le, UInt8.toNat_one]
          omega
        refine counting hreg (by omega) ?_
        rw [UInt8.toNat_sub_of_le _ _ hpos, UInt8.toNat_one]
        omega

end Tracks

/-- Every device agrees with its history. -/
def AtlasDeviceManager.Tracks (ws : List Output) (manager : AtlasDeviceManager) : Prop :=
  ∀ identity,
    Devices.Tracks (ticksSinceAccepted identity ws) (manager.firewall.devices.find? identity)

variable {host : ByteOrder} {env : Env} {manager : AtlasDeviceManager} {pskIdentity : StdString}
  {reqPayload : List UInt8} {resource : Resource} {handled : Handled} {ws : List Output}

theorem ticksSinceAccepted_concat (identity : StdString) (ws : List Output) (w : Output) :
    ticksSinceAccepted identity (ws ++ [w]) =
      Output.count identity (ticksSinceAccepted identity ws) w :=
  List.foldl_concat _ _ _ _

/-- A refused request does not count, nor does a request of another device. -/
theorem Output.count_refused (identity : StdString) (ticks : Option ℕ) :
    Output.count identity ticks (.answered resource pskIdentity .notAcceptable) = ticks := by
  cases resource <;> simp [count, accepts]

theorem Output.count_of_ne {identity : StdString} (hne : identity ≠ pskIdentity) (ticks : Option ℕ)
    (response : CoapResponse) :
    Output.count identity ticks (.answered resource pskIdentity response) = ticks := by
  cases resource <;> cases response <;> simp [count, accepts, hne.symm]

/-- Bringing a device into memory changes no history. -/
theorem AtlasDeviceManager.Tracks.getDevice (h : manager.Tracks ws) (env : Env)
    (pskIdentity : StdString) : (manager.getDevice env pskIdentity).1.Tracks ws := by
  intro identity
  have hold := h identity
  rw [AtlasDeviceManager.find?_firewall] at hold ⊢
  by_cases heq : identity = pskIdentity
  · subst heq
    rcases manager.find?_getDevice_self env identity with hself | ⟨hnone, hnew⟩
    · rwa [hself]
    · rw [hnone] at hold
      rw [hnew]
      exact hold.create rfl rfl
  · rwa [AtlasDeviceManager.find?_getDevice_of_ne env manager heq]

/-- An accepted request and the history of its device. -/
theorem Applies.tracks {device device' : AtlasDevice} {ticks : Option ℕ}
    (h : Applies host env pskIdentity reqPayload device resource device')
    (htracks : Tracks ticks (some device.toAtlasDevice)) :
    Tracks (Output.count pskIdentity ticks (.answered resource pskIdentity .ok))
      (some device'.toAtlasDevice) := by
  cases h with
  | register fields _ =>
    rw [AtlasDevice.toAtlasDevice_setIpPort]
    simpa [Output.count, Output.accepts] using
      Tracks.accept (d := (device.registerNow env).1.toAtlasDevice) rfl rfl
  | keepalive fields hreg _ =>
    rw [AtlasDevice.toAtlasDevice_setIpPort]
    simpa [Output.count, Output.accepts] using
      Tracks.accept (d := (device.keepAliveNow env).1.toAtlasDevice) hreg rfl
  | policy policy hreg _ =>
    refine htracks.keep ?_ ?_ fun _ => hreg
    · rw [AtlasDevice.toAtlasDevice_setPolicyInfo, Firewall.AtlasDevice.registered_setPolicyInfo]
    · rw [AtlasDevice.toAtlasDevice_setPolicyInfo, Firewall.AtlasDevice.kaCtr_setPolicyInfo]
  | telemetry path feature _ _ =>
    rw [AtlasDevice.toAtlasDevice_setFeature]
    exact htracks

/-- A request keeps every device in agreement with its history. -/
theorem Serves.tracks (h : Serves host env manager pskIdentity reqPayload resource handled)
    (htracks : manager.Tracks ws) :
    handled.manager.Tracks (ws ++ [.answered resource pskIdentity handled.response]) := by
  intro identity
  rw [ticksSinceAccepted_concat]
  by_cases hne : identity ≠ pskIdentity
  · rw [Output.count_of_ne hne, AtlasDeviceManager.find?_firewall, h.find?_of_ne hne,
      ← AtlasDeviceManager.find?_firewall]
    exact htracks identity
  · obtain rfl := not_not.mp hne
    cases h with
    | refused hresp hmanager =>
      rw [hresp, Output.count_refused]
      rcases hmanager with hmanager | hmanager <;> rw [hmanager]
      · exact htracks identity
      · exact htracks.getDevice env identity identity
    | accepted manager' device device' hresp hget happlies hmanager =>
      have hdevice := htracks.getDevice env identity identity
      have hid := happlies.identity.trans (AtlasDeviceManager.identity_of_getDevice hget)
      rw [hget, AtlasDeviceManager.find?_firewall,
        AtlasDeviceManager.find?_of_getDevice hget] at hdevice
      rw [hresp, hmanager, AtlasDeviceManager.find?_firewall, AtlasDeviceManager.setDevice,
        Table.find?_save, if_pos hid.symm]
      exact happlies.tracks hdevice

/-- A tick keeps every device in agreement with its history. -/
theorem AtlasDeviceManager.Tracks.keepaliveAlarm (h : manager.Tracks ws) (env : Env) :
    (manager.keepaliveAlarmCallback env).1.Tracks (ws ++ [.ticked]) := by
  intro identity
  have hview : (manager.firewall.keepaliveAlarmCallback env.toEnv).1 =
      (manager.keepaliveAlarmCallback env).1.firewall :=
    congrArg Prod.fst (manager.firewall_keepaliveAlarmCallback env)
  rw [ticksSinceAccepted_concat, ← hview, Firewall.AtlasDeviceManager.keepaliveAlarmCallback,
    Table.find?_map]
  exact (h identity).tick

/-- What an event does to a gateway that is running after it. -/
inductive Stays (host : ByteOrder) (manager : AtlasDeviceManager) :
    Event → AtlasDeviceManager → List Output → Prop where
  | request {env : Env} {resource : Resource} {pskIdentity : StdString} {reqPayload : List UInt8}
      {handled : Handled} (h : Serves host env manager pskIdentity reqPayload resource handled) :
      Stays host manager (.request env resource pskIdentity reqPayload) handled.manager
        [.answered resource pskIdentity handled.response]
  | keepaliveAlarm (env : Env) :
      Stays host manager (.keepaliveAlarm env) (manager.keepaliveAlarmCallback env).1 [.ticked]

theorem stays_of_step {s : Option AtlasDeviceManager} {e : Event} {manager' : AtlasDeviceManager}
    (h : (step host s e).1 = some manager') :
    ∃ manager, s = some manager ∧ Stays host manager e manager' (step host s e).2 := by
  cases s with
  | none => cases h
  | some manager =>
    refine ⟨manager, rfl, ?_⟩
    cases e with
    | keepaliveAlarm env =>
      cases h
      exact .keepaliveAlarm env
    | request env resource pskIdentity reqPayload =>
      simp only [step] at h ⊢
      cases hcall : resource.callback host env manager pskIdentity reqPayload with
      | error e =>
        rw [hcall] at h
        cases h
      | ok handled =>
        rw [hcall] at h
        cases h
        exact .request (callback_serves hcall)

/-- As long as the gateway is running, every device agrees with its history. -/
def Agrees (s : Option AtlasDeviceManager) (ws : List Output) : Prop :=
  ∀ manager, s = some manager → manager.Tracks ws

theorem agrees_init : Agrees (some .init) [] := by
  rintro _ ⟨⟩ identity
  exact ⟨fun _ => rfl, nofun, nofun, nofun⟩

theorem agrees_step (host : ByteOrder) (s : Option AtlasDeviceManager) (e : Event)
    (ws : List Output) (h : Agrees s ws) : Agrees (step host s e).1 (ws ++ (step host s e).2) := by
  intro manager' hstep
  obtain ⟨manager, rfl, hstays⟩ := stays_of_step hstep
  have htracks := h manager rfl
  generalize (step host (some manager) e).2 = out at hstays ⊢
  cases hstays with
  | keepaliveAlarm env => exact htracks.keepaliveAlarm env
  | request hserves => exact hserves.tracks htracks

/-! ## Runs -/

/-- Whatever requests and ticks a gateway has seen since its start, a device is registered exactly
when one of its registrations or keep-alive requests was accepted and fewer than four ticks have
followed the last one, and only a registered device has a policy. -/
theorem registered_iff_recently_accepted (host : ByteOrder) (es : List Event)
    {manager : AtlasDeviceManager} (h : run (step host) (some .init) es = some manager)
    (identity : StdString) :
    (manager.isRegistered identity = true ↔
      ∃ n, ticksSinceAccepted identity (trace (step host) (some .init) es) = some n ∧ n < 4) ∧
    ∀ device ∈ manager.devices.find? identity, device.policy.isSome → device.registered := by
  have hrun := run_trace_of_invariant (agrees_step host) agrees_init es
  have htracks := hrun manager h identity
  rw [AtlasDeviceManager.find?_firewall] at htracks
  rw [AtlasDeviceManager.isRegistered]
  cases hfind : manager.devices.find? identity with
  | none =>
    rw [hfind] at htracks
    simp [htracks.absent rfl]
  | some device =>
    rw [hfind] at htracks
    refine ⟨⟨fun hreg => ?_, ?_⟩, ?_⟩
    · obtain ⟨n, hn, hlt, -⟩ := htracks.counter device.toAtlasDevice rfl hreg
      exact ⟨n, hn, hlt⟩
    · rintro ⟨n, hn, hlt⟩
      exact htracks.recent device.toAtlasDevice rfl n hn hlt
    · rintro _ ⟨⟩ hpolicy
      exact htracks.policy device.toAtlasDevice rfl hpolicy

/-- The lamp registers, and the alarm ticks three times. -/
def sampleRun : List Event :=
  .request sampleEnv .register (bytes "lamp")
      (sampleRegister (bytes "lamp") (bytes "10.0.0.2:5683") (by decide) (by decide)) ::
    List.replicate 3 (.keepaliveAlarm sampleEnv)

theorem registered_after_three_ticks :
    ∃ manager, run (step .little) (some .init) sampleRun = some manager ∧
      manager.isRegistered (bytes "lamp") = true :=
  ⟨_, rfl, (registered_iff_recently_accepted .little sampleRun rfl (bytes "lamp")).1.mpr
    ⟨3, by decide, by decide⟩⟩

end Atlas.Devices
