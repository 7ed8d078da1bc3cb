import Atlas.Firewall.Messages
import Atlas.Lib.EventMachine

/-! # What the gateway does to one device

Whatever happens at the gateway is, for each identity, a path of small moves of the device with that
identity: it is created, registered, kept alive, given a policy, expired, or its counters are
raised. The calls a handler makes to the agent are the calls of the moves, identity by identity
(`Traces`). Properties of devices and of calls are proved for one move.

Reference: `register/AtlasRegister.cpp`, `policy/AtlasPolicy.cpp`, `device/AtlasDeviceManager.cpp`.
-/

namespace Atlas.Firewall

open ByteOrder EventMachine Gateway
open AtlasPubSubAgent (Call)

variable (host : ByteOrder)

/-! ## Identities fit -/

/-- The payload of a CoAP request. It arrives in one UDP datagram. -/
def Datagram : Type := { payload : List UInt8 // payload.length ≤ 65507 }

/-- A device that is registered or has a policy has an identity that fits, and its policy is for
itself. -/
structure AtlasDevice.Sound (device : AtlasDevice) : Prop where
  registered : device.registered → Fits device.identity
  policy : ∀ policy ∈ device.policy, policy.clientId = device.identity ∧ Fits device.identity

/-- All devices are sound. -/
def AtlasDeviceManager.Sound (manager : AtlasDeviceManager) : Prop :=
  ∀ identity, ∀ device ∈ manager.devices.find? identity, device.Sound

section Register

variable {host} {pskIdentity : StdString}

/-- The bytes of the record that sets a field to this value; an unset field needs none. -/
def fieldSize (value : StdString) : ℕ := if value = [] then 0 else 4 + value.length

theorem fieldSize_le (value : StdString) : fieldSize value ≤ 4 + value.length := by
  rw [fieldSize]
  split <;> omega

/-- The bytes a request needs at least to set these fields. -/
def RegisterFields.size (fields : RegisterFields) : ℕ :=
  fieldSize fields.identity + fieldSize fields.ipPort

/-- A command that is not refused sets one field, or none. -/
theorem RegisterFields.read_cases {fields fields' : RegisterFields} {cmd : AtlasCommand}
    (h : fields.read pskIdentity cmd = some fields') :
    fields' = { fields with identity := cmd.val } ∨ fields' = { fields with ipPort := cmd.val } ∨
      fields' = fields := by
  rw [read] at h
  by_cases hregister : cmd.type = CommandType.register
  · rw [if_pos hregister] at h
    by_cases hlen : cmd.len = 0
    · simp [hlen] at h
    · by_cases hpsk : pskIdentity = cmd.val <;> simp_all
  · rw [if_neg hregister] at h
    by_cases hip : cmd.type = CommandType.ipPort
    · by_cases hlen : cmd.len = 0 <;> simp_all
    · simp_all

theorem RegisterFields.size_read {fields fields' : RegisterFields} {r : Tlv.Record}
    (h : fields.read pskIdentity (.ofRecord r) = some fields') :
    fields'.size ≤ fields.size + (Tlv.encode r).length := by
  have hvalue := fieldSize_le r.value
  rw [Tlv.length_encode]
  rcases read_cases h with rfl | rfl | rfl <;> simp only [size, AtlasCommand.ofRecord] <;> omega

theorem RegisterFields.size_foldlM {fields fields' : RegisterFields} {rs : List Tlv.Record}
    (h : (rs.map AtlasCommand.ofRecord).foldlM (RegisterFields.read pskIdentity) fields =
      some fields') :
    fields'.size ≤ fields.size + (Tlv.encodeAll rs).length := by
  induction rs generalizing fields with
  | nil =>
    cases h
    simp
  | cons r rs ih =>
    rw [List.map_cons, List.foldlM_cons] at h
    obtain ⟨next, hread, hrest⟩ := Option.bind_eq_some_iff.mp h
    have hstep := size_read hread
    have hlater := ih hrest
    rw [Tlv.encodeAll_cons, List.length_append]
    omega

/-- The identity and the address of a registration share one datagram. -/
theorem fits_of_readRegister (req : Datagram) {fields : RegisterFields}
    (h : readRegister host pskIdentity req.1 = some fields) : Fits fields.identity := by
  obtain ⟨payload, hlen⟩ := req
  simp only [readRegister, AtlasCommandBatch.parsedCommands_eq] at h
  split at h
  · cases h
  · obtain ⟨hfold, hfilter⟩ := Option.filter_eq_some_iff.mp h
    obtain ⟨hidentity, hipPort⟩ := of_decide_eq_true hfilter
    have hsize := RegisterFields.size_foldlM hfold
    have hbytes := congrArg List.length (Tlv.encodeAll_parse_append_rest payload)
    have hpos : 0 < fields.ipPort.length := List.length_pos_iff.mpr hipPort
    rw [List.length_append] at hbytes
    simp only [RegisterFields.size, fieldSize, if_neg hidentity, if_neg hipPort, if_true] at hsize
    exact ⟨hidentity, by omega⟩

end Register

/-! ## Moves -/

/-- One change of the device with this identity, and the calls to the agent it makes. The counters
change on a report of the plug-in only. -/
inductive Move (report : Prop) (identity : StdString) :
    Option AtlasDevice → List Call → Option AtlasDevice → Prop where
  | create (kaCtr : UInt8) (stats : AtlasFirewallStats) :
      Move report identity none [] (some ⟨identity, false, kaCtr, none, stats⟩)
  | register (device : AtlasDevice) (h : Fits identity) :
      Move report identity (some device) [] (some device.registerNow)
  | keepAlive (device : AtlasDevice) :
      Move report identity (some device) [] (some device.keepAliveNow)
  | setPolicy (device : AtlasDevice) (policy : AtlasFirewallPolicy) (hreg : device.registered)
      (hid : policy.clientId = identity) :
      Move report identity (some device) [.installFirewallRule policy]
        (some (device.setPolicyInfo policy))
  | expire (device : AtlasDevice) :
      Move report identity (some device) (AtlasDeviceManager.uninstall device)
        (some device.keepaliveAlarm)
  | addStats (h : report) (device : AtlasDevice) (delta : AtlasFirewallStats) :
      Move report identity (some device) [] (some { device with stats := device.stats.add delta })
  | getStats (device : AtlasDevice) :
      Move report identity (some device)
        (device.policy.toList.map fun policy => .getFirewallRuleStats policy.clientId) (some device)
  | install (device : AtlasDevice) :
      Move report identity (some device) (device.policy.toList.map .installFirewallRule)
        (some device)

/-- The device with this identity, if there is one, is sound. -/
def Held (identity : StdString) (device : Option AtlasDevice) : Prop :=
  ∀ d ∈ device, d.identity = identity ∧ d.Sound

/-- Every identity moves on its own, and the calls are those of the moves. -/
def Traces (report : Prop) (manager : AtlasDeviceManager) (calls : List Call)
    (manager' : AtlasDeviceManager) : Prop :=
  ∀ identity, Path (Move report identity) (manager.devices.find? identity)
    (calls.filter (·.clientId = identity)) (manager'.devices.find? identity)

theorem AtlasDeviceManager.Sound.held {manager : AtlasDeviceManager} (h : manager.Sound)
    (identity : StdString) : Held identity (manager.devices.find? identity) :=
  fun device hd => ⟨Table.key_of_find? hd, h identity device hd⟩

theorem AtlasDevice.Sound.keepaliveAlarm {device : AtlasDevice} (h : device.Sound) :
    device.keepaliveAlarm.Sound := by
  rcases device.keepaliveAlarm_cases with ⟨-, kaCtr, heq⟩ | ⟨-, kaCtr, heq⟩
  · rw [heq]
    exact ⟨by simp, by simp⟩
  · rw [heq]
    exact ⟨h.registered, h.policy⟩

/-- A move keeps a device sound, and its calls are about the device, whose identity fits. -/
theorem Move.held {report : Prop} {identity : StdString} {device device' : Option AtlasDevice}
    {calls : List Call} (h : Move report identity device calls device')
    (hheld : Held identity device) :
    Held identity device' ∧ ∀ call ∈ calls, call.clientId = identity ∧ Fits identity := by
  cases h with
  | create kaCtr stats =>
    refine ⟨?_, by simp⟩
    rintro _ ⟨⟩
    exact ⟨rfl, by simp, by simp⟩
  | register device hfits =>
    obtain ⟨rfl, hsound⟩ := hheld device rfl
    refine ⟨?_, by simp⟩
    rintro _ ⟨⟩
    exact ⟨rfl, fun _ => hfits, hsound.policy⟩
  | keepAlive device =>
    obtain ⟨rfl, hsound⟩ := hheld device rfl
    refine ⟨?_, by simp⟩
    rintro _ ⟨⟩
    exact ⟨rfl, hsound.registered, hsound.policy⟩
  | setPolicy device policy hreg hid =>
    obtain ⟨rfl, hsound⟩ := hheld device rfl
    have hfits := hsound.registered hreg
    refine ⟨?_, by simp [Call.clientId, hid, hfits]⟩
    rintro _ ⟨⟩
    refine ⟨device.identity_setPolicyInfo policy, ?_, ?_⟩
    · exact fun _ => by rwa [device.identity_setPolicyInfo]
    · simp [hid, hfits]
  | expire device =>
    obtain ⟨rfl, hsound⟩ := hheld device rfl
    refine ⟨?_, ?_⟩
    · rintro _ ⟨⟩
      exact ⟨device.identity_keepaliveAlarm, hsound.keepaliveAlarm⟩
    · intro call hcall
      rw [AtlasDeviceManager.uninstall] at hcall
      cases hexp : device.expires <;> simp only [hexp] at hcall
      case false => cases hcall
      case true =>
        obtain ⟨policy, hpolicy, rfl⟩ := List.mem_map.mp hcall
        exact hsound.policy policy (Option.mem_toList.mp hpolicy)
  | addStats hreport device delta =>
    obtain ⟨rfl, hsound⟩ := hheld device rfl
    refine ⟨?_, by simp⟩
    rintro _ ⟨⟩
    exact ⟨rfl, hsound.registered, hsound.policy⟩
  | getStats device =>
    obtain ⟨rfl, hsound⟩ := hheld device rfl
    refine ⟨hheld, fun call hcall => ?_⟩
    obtain ⟨policy, hpolicy, rfl⟩ := List.mem_map.mp hcall
    exact hsound.policy policy (Option.mem_toList.mp hpolicy)
  | install device =>
    obtain ⟨rfl, hsound⟩ := hheld device rfl
    refine ⟨hheld, fun call hcall => ?_⟩
    obtain ⟨policy, hpolicy, rfl⟩ := List.mem_map.mp hcall
    exact hsound.policy policy (Option.mem_toList.mp hpolicy)

/-! ## Handlers -/

namespace Traces

variable {report : Prop} {manager manager' manager'' : AtlasDeviceManager}
    {calls calls' : List Call}

theorem refl (manager : AtlasDeviceManager) : Traces report manager [] manager := fun _ => .refl _

theorem trans (h : Traces report manager calls manager')
    (h' : Traces report manager' calls' manager'') :
    Traces report manager (calls ++ calls') manager'' := by
  intro identity
  rw [List.filter_append]
  exact (h identity).trans (h' identity)

/-- Sound devices stay sound, and all calls fit. -/
theorem sound (h : Traces report manager calls manager') (hsound : manager.Sound) :
    manager'.Sound ∧ ∀ call ∈ calls, Fits call.clientId := by
  constructor
  · intro identity device hd
    have hheld := (h identity).preserves (fun hm hs => (hm.held hs).1) (hsound.held identity)
    exact (hheld device hd).2
  · intro call hcall
    have hfits := (h call.clientId).forall_mem (fun hm hs => hm.held hs)
      (hsound.held call.clientId)
    exact (hfits call (List.mem_filter.mpr ⟨hcall, by simp⟩)).2

/-- One device is changed in place. -/
theorem setDevice {device device' : AtlasDevice}
    (hfind : manager.devices.find? device.identity = some device)
    (hmove : Move report device.identity (some device) calls (some device'))
    (hid : device'.identity = device.identity)
    (hcalls : ∀ call ∈ calls, call.clientId = device.identity) :
    Traces report manager calls (manager.setDevice device') := by
  intro identity
  rw [AtlasDeviceManager.setDevice, Table.find?_save, hid]
  by_cases heq : identity = device.identity
  · subst heq
    have hall : calls.filter (·.clientId = device.identity) = calls :=
      List.filter_eq_self.mpr fun call hcall => by simp [hcalls call hcall]
    rw [if_pos rfl, hfind, hall]
    exact .single hmove
  · have hnil : calls.filter (·.clientId = identity) = [] :=
      List.filter_eq_nil_iff.mpr fun call hcall => by simp [hcalls call hcall, Ne.symm heq]
    rw [if_neg heq, hnil]
    exact .refl _

/-- `getDevice` may create the device, and returns the one in the table. -/
theorem getDevice (env : Env) (manager : AtlasDeviceManager) (identity : StdString) :
    Traces report manager [] (manager.getDevice env identity).1 ∧
      (manager.getDevice env identity).2 =
        (manager.getDevice env identity).1.devices.find? identity := by
  rw [AtlasDeviceManager.getDevice]
  cases hfind : manager.devices.find? identity with
  | some device => exact ⟨.refl manager, hfind.symm⟩
  | none =>
    by_cases hpsk : env.selectDevicePsk identity = []
    · simpa [hpsk, hfind] using refl manager
    · simp only [hpsk, if_false, Table.find?_save, if_true, and_true]
      intro identity'
      by_cases heq : identity' = identity
      · subst heq
        simpa [Table.find?_save, hfind] using EventMachine.Path.single (Move.create env.kaCtr _)
      · simpa [Table.find?_save, heq] using EventMachine.Path.refl _

/-- What follows a `getDevice` that found a device. -/
theorem of_getDevice {env : Env} {identity : StdString} {device : AtlasDevice}
    (h : manager.getDevice env identity = (manager', some device)) :
    Traces report manager [] manager' ∧ device.identity = identity ∧
      manager'.devices.find? device.identity = some device := by
  obtain ⟨htraces, hfind⟩ := getDevice env manager identity
  rw [h] at htraces hfind
  have hid : device.identity = identity := Table.key_of_find? hfind.symm
  exact ⟨htraces, hid, hid ▸ hfind.symm⟩

section Callbacks

variable {host} (env : Env) (manager : AtlasDeviceManager) (pskIdentity : StdString)

theorem registerCallback (req : Datagram) :
    Traces report manager [] (registerCallback host env manager pskIdentity req.1).1 := by
  simp only [Firewall.registerCallback]
  cases hread : readRegister host pskIdentity req.1 with
  | none => exact .refl manager
  | some fields =>
    have hfits := fits_of_readRegister req hread
    rcases hget : manager.getDevice env fields.identity with ⟨manager', _ | device⟩ <;>
      simp only [hget]
    · simpa [hget] using (getDevice env manager fields.identity).1
    · obtain ⟨htraces, hid, hfind⟩ := of_getDevice hget
      exact htraces.trans (.setDevice hfind (.register device (hid ▸ hfits)) rfl (by simp))

theorem keepaliveCallback (reqPayload : List UInt8) :
    Traces report manager [] (keepaliveCallback host env manager pskIdentity reqPayload).1 := by
  simp only [Firewall.keepaliveCallback]
  rcases hget : manager.getDevice env pskIdentity with ⟨manager', _ | device⟩ <;> dsimp only
  · simpa [hget] using (getDevice env manager pskIdentity).1
  · obtain ⟨htraces, hid, hfind⟩ := of_getDevice hget
    cases hreg : device.registered with
    | false => simpa [hreg] using htraces
    | true =>
      cases readKeepalive host pskIdentity reqPayload with
      | none => simpa [hreg] using htraces
      | some fields =>
        simpa [hreg] using htraces.trans (.setDevice hfind (.keepAlive device) rfl (by simp))

theorem clientId_of_readPolicy {reqPayload : List UInt8} {policy : AtlasFirewallPolicy}
    (h : readPolicy host pskIdentity reqPayload = some policy) : policy.clientId = pskIdentity := by
  simp only [readPolicy] at h
  split at h
  · cases h
  · split at h
    · cases h
      rfl
    · cases h

theorem firewallPolicyCallback (reqPayload : List UInt8) :
    Traces report manager (firewallPolicyCallback host env manager pskIdentity reqPayload).2.1
      (Firewall.firewallPolicyCallback host env manager pskIdentity reqPayload).1 := by
  simp only [Firewall.firewallPolicyCallback]
  rcases hget : manager.getDevice env pskIdentity with ⟨manager', _ | device⟩ <;> dsimp only
  · simpa [hget] using (getDevice env manager pskIdentity).1
  · obtain ⟨htraces, hid, hfind⟩ := of_getDevice hget
    cases hreg : device.registered with
    | false => simpa [hreg] using htraces
    | true =>
      cases hread : readPolicy host pskIdentity reqPayload with
      | none => simpa [hreg] using htraces
      | some policy =>
        have hclient := (clientId_of_readPolicy pskIdentity hread).trans hid.symm
        have hset := htraces.trans (.setDevice hfind (.setPolicy device policy hreg hclient)
          (device.identity_setPolicyInfo policy) (by simp [Call.clientId, hclient]))
        simpa [hreg] using hset

theorem updateFirewallStats (hreport : report) (clientId : StdString)
    (delta : AtlasFirewallStats) :
    Traces report manager [] (manager.updateFirewallStats env clientId delta) := by
  rw [AtlasDeviceManager.updateFirewallStats]
  rcases hget : manager.getDevice env clientId with ⟨manager', _ | device⟩
  · simpa [hget] using (getDevice env manager clientId).1
  · obtain ⟨htraces, hid, hfind⟩ := of_getDevice hget
    exact htraces.trans (.setDevice hfind (.addStats hreport device delta) rfl (by simp))

end Callbacks

/-! ## Loops over all devices -/

theorem forEachDevice_perm (env : Env) (manager : AtlasDeviceManager) :
    (manager.forEachDevice env).Perm manager.devices.rows :=
  List.perm_insertionSort _ _

/-- The calls of a loop over the devices that are about one identity come from its device. -/
theorem filter_forEachDevice (env : Env) {f : AtlasDevice → AtlasDevice}
    {g : AtlasDevice → List Call} (hsound : manager.Sound)
    (hmove : ∀ device, Move report device.identity (some device) (g device) (some (f device)))
    (identity : StdString) :
    ((manager.forEachDevice env).flatMap g).filter (·.clientId = identity) =
      (manager.devices.find? identity).toList.flatMap g := by
  refine Table.filter_flatMap (forEachDevice_perm env manager) ?_ identity
  intro device hd call hcall
  have hmem := (forEachDevice_perm env manager).mem_iff.mp hd
  have hfind := Table.find?_eq_some_iff.mpr ⟨hmem, rfl⟩
  have hheld := hfind ▸ hsound.held device.identity
  exact (((hmove device).held hheld).2 call hcall).1

/-- A loop over the devices is one move of each of them. -/
theorem forEachDevice (env : Env) {f : AtlasDevice → AtlasDevice} {g : AtlasDevice → List Call}
    (hmap : ∀ identity, manager'.devices.find? identity = (manager.devices.find? identity).map f)
    (hsound : manager.Sound)
    (hmove : ∀ device, Move report device.identity (some device) (g device) (some (f device))) :
    Traces report manager ((manager.forEachDevice env).flatMap g) manager' := by
  intro identity
  rw [filter_forEachDevice env hsound hmove, hmap]
  cases hfind : manager.devices.find? identity with
  | none => exact .refl _
  | some device =>
    obtain rfl := Table.key_of_find? hfind
    simpa using Path.single (hmove device)

theorem keepaliveAlarmCallback (env : Env) (hsound : manager.Sound) :
    Traces report manager (manager.keepaliveAlarmCallback env).2
      (manager.keepaliveAlarmCallback env).1 :=
  forEachDevice env (Table.find?_map _ AtlasDevice.identity_keepaliveAlarm _) hsound
    fun device => .expire device

theorem firewallStatisticsAlarmCallback (env : Env) (hsound : manager.Sound) :
    Traces report manager (manager.firewallStatisticsAlarmCallback env) manager :=
  forEachDevice env (fun _ => Option.map_id'.symm) hsound fun device => .getStats device

theorem installAllPolicies (env : Env) (hsound : manager.Sound) :
    Traces report manager (manager.installAllPolicies env) manager :=
  forEachDevice env (fun _ => Option.map_id'.symm) hsound fun device => .install device

end Traces

end Atlas.Firewall
