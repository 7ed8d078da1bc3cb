import Atlas.Lib.Replica
import Atlas.Uplink.Session

/-! # What a device reports

The operations of a device change some of its fields and hand fragments with fields to the cloud.
This module says that the two agree: a record that showed the device before an operation, with the
fields of the fragments written into it, shows the device afterwards. The exception is the rate of
the policy, since a policy that differs in its rate alone is not reported.

Reference: `device/AtlasDevice.cpp`.
-/

namespace Atlas.Uplink

open Devices Json Replica
open Gateway (StdString bytes)
open Firewall (AtlasFirewallPolicy AtlasFirewallStats)

/-! ## Records -/

/-- What the cloud has of a device. -/
abbrev Record := StdString → Option StdString

/-- An environment with these scores; the fields of a device depend on nothing else of it. -/
def Scores.env (scores : Scores) : Env where
  selectDevicePsk _ := []
  storedStats _ := {}
  kaCtr := 0
  position _ := 0
  now := 0
  toSimpleString _ := []
  systemReputation := scores.system
  temperatureReputation := scores.temperature
  storedCmds _ := ([], [])
  alerts := none

/-- The fields of `toJSON` the cloud is told of at every change: all but the rate of the policy. -/
def mirrored (scores : Scores) (device : AtlasDevice) : List (StdString × StdString) :=
  (device.fields scores.env).filter (·.1 ≠ bytes "firewallPolicyPpm")

/-- The cloud does not show the device as registered. -/
def Offline (record : Option Record) : Prop :=
  ∀ r ∈ record, r (bytes "registered") ≠ some (bytes "true")

/-- The cloud shows a registered device as it is, and no other device as registered. -/
def Told (scores : Scores) (record : Option Record) : Option AtlasDevice → Prop
  | none => Offline record
  | some device =>
    if device.registered then ∃ r ∈ record, Shows r (mirrored scores device) else Offline record

/-- The record after an update with these fields. -/
def tellRecord (record : Option Record) (fields : List (StdString × StdString)) : Option Record :=
  some (write fields (record.getD fun _ => none))

/-- The scores of an environment. -/
def scoresOf (env : Env) : Scores := ⟨env.systemReputation, env.temperatureReputation⟩

theorem fields_scoresOf (env : Env) (device : AtlasDevice) :
    device.fields (scoresOf env).env = device.fields env := rfl

theorem nodup_deviceKeys (policy : Bool) : (deviceKeys policy).Nodup := by
  cases policy <;> decide +kernel

theorem nodup_fields (scores : Scores) {device : AtlasDevice} (h : device.telemetryInfo.Known) :
    ((device.fields scores.env).map Prod.fst).Nodup := by
  rw [map_fst_fields h]
  exact nodup_deviceKeys _

theorem mem_deviceKeys_of_mem_fields {scores : Scores} {device : AtlasDevice}
    (h : device.telemetryInfo.Known) {f : StdString × StdString}
    (hf : f ∈ device.fields scores.env) : f.1 ∈ deviceKeys true := by
  have hkey : f.1 ∈ (device.fields scores.env).map Prod.fst := List.mem_map_of_mem hf
  rw [map_fst_fields h] at hkey
  cases hpolicy : device.policy.isSome with
  | true => exact hpolicy ▸ hkey
  | false =>
    rw [hpolicy, deviceKeys] at hkey
    rw [deviceKeys]
    simp only [Bool.false_eq_true, if_false, List.append_nil] at hkey
    exact List.mem_append_left _ hkey

/-! ## Changes -/

section Changes

variable {scores scores' : Scores} {device device' : AtlasDevice} {record : Option Record}
  {sent : List (StdString × StdString)}

/-- A snapshot: all fields of the device are sent. -/
theorem told_snapshot (h : device.telemetryInfo.Known) (record : Option Record) :
    Told scores (tellRecord record (device.fields scores.env)) (some device) := by
  have hkeys := nodup_fields scores h
  rw [Told]
  split
  case isTrue => exact ⟨_, rfl, (shows_write _ hkeys).mono (List.filter_subset_self _)⟩
  case isFalse hreg =>
    rintro _ ⟨⟩
    have hmem : (bytes "registered", bytes "false") ∈ device.fields scores.env := by
      simp [AtlasDevice.fields, Bool.eq_false_of_not_eq_true hreg]
    rw [write_of_mem hkeys hmem]
    decide

/-- A change of the fields of a device that keeps its registration. -/
theorem Told.change (h : Told scores record (some device))
    (hreg : device'.registered = device.registered)
    (hkeys : (sent.map Prod.fst).Nodup) (hkey : bytes "registered" ∉ sent.map Prod.fst)
    (hcovers : Covers (device.fields scores.env) sent (device'.fields scores'.env)) :
    Told scores' (tellRecord record sent) (some device') := by
  rw [Told] at h ⊢
  rw [hreg]
  split at h
  case isTrue hon =>
    rw [if_pos hon]
    obtain ⟨r, hr, hshows⟩ := h
    obtain rfl : record = some r := hr
    have hmirrored := hcovers.filter fun key => decide (key ≠ bytes "firewallPolicyPpm")
    exact ⟨_, rfl, hshows.write hkeys hmirrored⟩
  case isFalse hoff =>
    rw [if_neg hoff]
    rintro _ ⟨⟩
    rw [write_of_notMem hkey]
    cases record with
    | none => exact nofun
    | some r => exact h r rfl

/-- A change of what is not mirrored. -/
theorem Told.same (h : Told scores record (some device))
    (hreg : device'.registered = device.registered)
    (hfields : mirrored scores' device' = mirrored scores device) :
    Told scores' record (some device') := by
  rw [Told] at h ⊢
  rwa [hreg, hfields]

/-- The end of a registration. -/
theorem told_unregistered (hreg : device'.registered = false) (hkeys : (sent.map Prod.fst).Nodup)
    (hsent : (bytes "registered", bytes "false") ∈ sent) (record : Option Record) :
    Told scores' (tellRecord record sent) (some device') := by
  rw [Told, if_neg (by simp [hreg])]
  rintro _ ⟨⟩
  rw [write_of_mem hkeys hsent]
  decide

end Changes

/-! ## Operations -/

/-- What an operation does: it turns the device into another one with the same identity, and sends
fields, one list after the other. The values are those the device then has, apart from the address
it had before. -/
structure Reports (scores scores' : Scores) (device device' : AtlasDevice)
    (tellings : List (List (StdString × StdString))) : Prop where
  identity : device'.identity = device.identity
  known : device'.telemetryInfo.Known
  keys : ∀ fields ∈ tellings, fields ≠ [] ∧ (fields.map Prod.fst).Nodup ∧
    ∀ f ∈ fields, f.1 ∈ deviceKeys true
  values : ∀ fields ∈ tellings, ∀ f ∈ fields,
    f ∈ device'.fields scores'.env ∨ f = (bytes "ipPort", device.ipPort)
  told : ∀ record, Told scores record (some device) →
    Told scores' (tellings.foldl tellRecord record) (some device')

namespace Reports

variable {scores scores' : Scores} {device device' : AtlasDevice}
  {sent : List (StdString × StdString)} {tellings : List (List (StdString × StdString))}

/-- Nothing is sent. -/
theorem silent (h : device.telemetryInfo.Known) (hidentity : device'.identity = device.identity)
    (hreg : device'.registered = device.registered)
    (hinfo : device'.telemetryInfo = device.telemetryInfo)
    (hfields : mirrored scores' device' = mirrored scores device) :
    Reports scores scores' device device' [] where
  identity := hidentity
  known := hinfo ▸ h
  keys := by simp
  values := by simp
  told _ hrecord := hrecord.same hreg hfields

/-- One list of fields is sent, all of them fields the device then has. -/
theorem single (hidentity : device'.identity = device.identity)
    (hknown : device'.telemetryInfo.Known) (hne : sent ≠ []) (hkeys : (sent.map Prod.fst).Nodup)
    (hsub : sent ⊆ device'.fields scores'.env)
    (htold : ∀ record, Told scores record (some device) →
      Told scores' (tellRecord record sent) (some device')) :
    Reports scores scores' device device' [sent] where
  identity := hidentity
  known := hknown
  keys fields hfields := by
    obtain rfl := List.mem_singleton.mp hfields
    exact ⟨hne, hkeys, fun f hf => mem_deviceKeys_of_mem_fields hknown (hsub hf)⟩
  values fields hfields f hf := by
    obtain rfl := List.mem_singleton.mp hfields
    exact .inl (hsub hf)
  told := htold

/-- A part of the fields changes, and what is sent covers the change. -/
theorem part {pre old new post : List (StdString × StdString)}
    (hidentity : device'.identity = device.identity) (hreg : device'.registered = device.registered)
    (hknown : device'.telemetryInfo.Known) (hold : device.fields scores.env = pre ++ old ++ post)
    (hnew : device'.fields scores'.env = pre ++ new ++ post) (hcovers : Covers old sent new)
    (hsent : sent.Sublist new) (hne : sent ≠ [])
    (hregistered : bytes "registered" ∉ sent.map Prod.fst) :
    Reports scores scores' device device' [sent] := by
  have hnodup := nodup_fields scores' hknown
  rw [hnew] at hnodup
  have hsub : sent.Sublist (pre ++ new ++ post) :=
    (hsent.trans (List.sublist_append_right _ _)).trans (List.sublist_append_left _ _)
  have hkeys := hnodup.sublist (hsub.map _)
  refine .single hidentity hknown hne hkeys (hnew ▸ hsub.subset) fun record hrecord => ?_
  refine hrecord.change hreg hkeys hregistered ?_
  rw [hold, hnew]
  exact hcovers.part hnodup (hsent.map _).subset

/-- A part of the fields is replaced, and all of it is sent. -/
theorem replace {pre old post : List (StdString × StdString)} (keys : List StdString)
    (hidentity : device'.identity = device.identity) (hreg : device'.registered = device.registered)
    (hknown : device'.telemetryInfo.Known) (hold : device.fields scores.env = pre ++ old ++ post)
    (hnew : device'.fields scores'.env = pre ++ sent ++ post) (hkeys : sent.map Prod.fst = keys)
    (hne : keys ≠ []) (hregistered : bytes "registered" ∉ keys) :
    Reports scores scores' device device' [sent] := by
  subst hkeys
  exact part hidentity hreg hknown hold hnew (covers_sent old sent) (List.Sublist.refl sent)
    (fun hnil => hne (congrArg _ hnil)) hregistered

/-- One operation after the other. The second one may replace the address, which the first one
leaves alone. -/
theorem trans {device₁ : AtlasDevice} {tellings' : List (List (StdString × StdString))}
    (h : Reports scores scores' device device₁ tellings)
    (h' : Reports scores' scores' device₁ device' tellings')
    (haddress : device₁.ipPort = device.ipPort) (hfields : ∀ f ∈ device₁.fields scores'.env,
      f ∈ device'.fields scores'.env ∨ f = (bytes "ipPort", device₁.ipPort)) :
    Reports scores scores' device device' (tellings ++ tellings') where
  identity := h'.identity.trans h.identity
  known := h'.known
  keys fields hmem := (List.mem_append.mp hmem).elim (h.keys fields) (h'.keys fields)
  values fields hmem f hf := by
    rcases List.mem_append.mp hmem with hmem | hmem
    · rcases h.values fields hmem f hf with hf | hf
      · exact haddress ▸ hfields f hf
      · exact .inr hf
    · exact haddress ▸ h'.values fields hmem f hf
  told record hrecord := by
    rw [List.foldl_append]
    exact h'.told _ (h.told record hrecord)

end Reports

section Operations

variable (scores : Scores) (env : Env) {device device' : AtlasDevice}
  {tellings : List (List (StdString × StdString))}

/-- A new address, after an operation that leaves the address alone. -/
theorem Reports.setIpPort {scores : Scores} (h : Reports scores scores device device' tellings)
    (haddress : device'.ipPort = device.ipPort) (ipPort : StdString) :
    ∃ tellings', (device'.setIpPort ipPort).2 = tellings'.map jsonFields ∧
      Reports scores scores device (device'.setIpPort ipPort).1 (tellings ++ tellings') := by
  rw [AtlasDevice.setIpPort]
  split
  case isFalse => exact ⟨[], rfl, by rwa [List.append_nil]⟩
  case isTrue =>
    refine ⟨[[(bytes "ipPort", ipPort)]], by rw [List.map_singleton, jsonFields_singleton]; rfl, ?_⟩
    have hold : device'.fields scores.env = (device'.fields scores.env).take 3 ++
        [(bytes "ipPort", device'.ipPort)] ++ (device'.fields scores.env).drop 4 := rfl
    have hnew : { device' with ipPort := ipPort }.fields scores.env =
        (device'.fields scores.env).take 3 ++ [(bytes "ipPort", ipPort)] ++
          (device'.fields scores.env).drop 4 := rfl
    refine h.trans (.replace [bytes "ipPort"] rfl rfl h.known hold hnew rfl (by simp) (by decide))
      haddress ?_
    intro f hf
    rw [hold] at hf
    dsimp only
    rw [hnew]
    simp only [List.mem_append, List.mem_singleton] at hf ⊢
    rcases hf with (hf | hf) | hf
    · exact .inl (.inl (.inl hf))
    · exact .inr hf
    · exact .inl (.inr hf)

/-- A registration. -/
theorem registerNow_reports (h : device.telemetryInfo.Known) :
    ∃ tellings, (device.registerNow env).2 = tellings.map jsonFields ∧
      Reports (scoresOf env) (scoresOf env) device (device.registerNow env).1 tellings := by
  have hknown : (device.registerNow env).1.telemetryInfo.Known := h.clearFeatures
  refine ⟨[(device.registerNow env).1.fields env], ?_, ?_⟩
  · rw [List.map_singleton, ← toJSON_eq_jsonFields env hknown]
    rfl
  · exact .single rfl hknown (by simp [AtlasDevice.fields]) (nodup_fields (scoresOf env) hknown)
      (List.Subset.refl _) fun record _ => told_snapshot hknown record

/-- A keep-alive request. -/
theorem keepAliveNow_reports (h : device.telemetryInfo.Known) :
    ∃ tellings, (device.keepAliveNow env).2 = tellings.map jsonFields ∧
      Reports (scoresOf env) (scoresOf env) device (device.keepAliveNow env).1 tellings := by
  have hold : device.fields (scoresOf env).env = (device.fields env).take 2 ++
      [(bytes "lastKeepAliveTime", device.keepAliveTime)] ++ (device.fields env).drop 3 := rfl
  have hnew : (device.keepAliveNow env).1.fields (scoresOf env).env = (device.fields env).take 2 ++
      [(bytes "lastKeepAliveTime", env.toSimpleString env.now)] ++ (device.fields env).drop 3 := rfl
  refine ⟨[[(bytes "lastKeepAliveTime", env.toSimpleString env.now)]], ?_, ?_⟩
  · rw [List.map_singleton, jsonFields_singleton]
    rfl
  · exact .replace [bytes "lastKeepAliveTime"] rfl rfl h hold hnew rfl (by simp) (by decide)

/-- The fields before those of the policy. -/
def baseFields (scores : Scores) (device : AtlasDevice) : List (StdString × StdString) :=
  { device with policy := none }.fields scores.env

theorem fields_eq_baseFields (scores : Scores) (device : AtlasDevice) :
    device.fields scores.env =
      baseFields scores device ++ device.policy.toList.flatMap policyFields ++ [] := by
  simp [baseFields, AtlasDevice.fields]

theorem baseFields_setPolicyInfo (scores : Scores) (device : AtlasDevice)
    (policy : AtlasFirewallPolicy) :
    baseFields scores (device.setPolicyInfo policy).1 = baseFields scores device := by
  simp [baseFields, AtlasDevice.fields, AtlasDevice.setPolicyInfo]

/-- Policies that compare as equal agree in everything but the rate. -/
theorem filter_policyFields_of_equal {old policy : AtlasFirewallPolicy}
    (h : (old.equal policy).1 = true) :
    (policyFields policy).filter (·.1 ≠ bytes "firewallPolicyPpm") =
      (policyFields old).filter (·.1 ≠ bytes "firewallPolicyPpm") := by
  rw [AtlasFirewallPolicy.equal] at h
  split at h
  case isFalse => cases h
  case isTrue hsame =>
    have hlen : old.payloadLen = policy.payloadLen := (of_decide_eq_true h).2
    rw [policyFields, policyFields, hsame.1, hsame.2, hlen]
    rfl

/-- A policy. If nothing is sent, at most the rate is new. -/
theorem setPolicyInfo_reports (h : device.telemetryInfo.Known) (policy : AtlasFirewallPolicy) :
    ∃ tellings, (device.setPolicyInfo policy).2 = tellings.map jsonFields ∧
      Reports scores scores device (device.setPolicyInfo policy).1 tellings := by
  have hidentity : (device.setPolicyInfo policy).1.identity = device.identity :=
    Firewall.AtlasDevice.identity_setPolicyInfo _ _
  have hreg : (device.setPolicyInfo policy).1.registered = device.registered :=
    Firewall.AtlasDevice.registered_setPolicyInfo _ _
  have hpolicy : (device.setPolicyInfo policy).1.policy = some policy :=
    Firewall.AtlasDevice.policy_setPolicyInfo _ _
  have hnew : (device.setPolicyInfo policy).1.fields scores.env =
      baseFields scores device ++ policyFields policy ++ [] := by
    rw [fields_eq_baseFields, baseFields_setPolicyInfo, hpolicy, Option.toList_some,
      List.flatMap_singleton]
  have hold := fields_eq_baseFields scores device
  cases hequal : device.policy.any (fun old => (old.equal policy).1) with
  | false =>
    refine ⟨[policyFields policy], by simp [AtlasDevice.setPolicyInfo, hequal], ?_⟩
    exact .replace [bytes "pubSubClientId", bytes "firewallPolicyQos", bytes "firewallPolicyPpm",
      bytes "firewallPolicyPayloadLen"] hidentity hreg h hold hnew rfl (by simp) (by decide)
  | true =>
    obtain ⟨old, hpolicy', hsame⟩ := (Option.any_eq_true _ _).mp hequal
    refine ⟨[], by simp [AtlasDevice.setPolicyInfo, hequal], .silent h hidentity hreg rfl ?_⟩
    rw [mirrored, mirrored, hnew, hold, hpolicy', Option.toList_some, List.flatMap_singleton]
    simp only [List.filter_append, filter_policyFields_of_equal hsame]

/-- The fields with those of the telemetry in between. -/
theorem fields_eq_telemetry (scores : Scores) (device : AtlasDevice) :
    device.fields scores.env =
      (device.fields scores.env).take 4 ++ device.telemetryInfo.features.rows ++
        ([(bytes "systemReputation", scores.system device.identity),
          (bytes "temperatureReputation", scores.temperature device.identity)]
          ++ statsFields device.stats ++ device.policy.toList.flatMap policyFields) := by
  simp [AtlasDevice.fields, Scores.env]

/-- A row saved in a table covers the change. -/
theorem covers_save (features : Table fun feature : StdString × StdString => feature.1)
    (feature : StdString × StdString) :
    Covers features.rows [feature] (features.save feature).rows := by
  intro f hf
  by_cases hkey : f.1 = feature.1
  · have hfind := Table.find?_eq_some_iff.mpr ⟨hf, hkey⟩
    rw [Table.find?_save_self] at hfind
    exact .inl (List.mem_singleton.mpr (Option.some.inj hfind).symm)
  · rcases Table.mem_rows_save hf with rfl | hf
    · exact absurd rfl hkey
    · exact .inr ⟨hf, by simpa using hkey⟩

/-- A known feature is read without a change. -/
theorem getFeature_of_known {info : AtlasTelemetryInfo} (h : info.Known)
    {feature : TelemetryFeature}
    (hmem : feature ∈ telemetryFeatures) :
    ∃ value, info.getFeature feature.name = (info, value) := by
  have hkey : feature.name ∈ info.features.rows.map Prod.fst := by
    rw [AtlasTelemetryInfo.Known] at h
    rw [h]
    exact List.mem_map_of_mem hmem
  obtain ⟨f, hf, hname⟩ := List.mem_map.mp hkey
  have hfind : info.features.find? feature.name = some f := Table.find?_eq_some_iff.mpr ⟨hf, hname⟩
  exact ⟨f.2, by rw [AtlasTelemetryInfo.getFeature, hfind]⟩

/-- A telemetry value. -/
theorem setFeature_reports (h : device.telemetryInfo.Known) {feature : TelemetryFeature}
    (hmem : feature ∈ telemetryFeatures) (value : StdString) :
    ∃ tellings, (device.setFeature feature.name value).2 = tellings.map jsonFields ∧
      Reports scores scores device (device.setFeature feature.name value).1 tellings := by
  obtain ⟨old, hget⟩ := getFeature_of_known h hmem
  have hname : feature.name ≠ [] := by
    have hall : ∀ f ∈ telemetryFeatures, f.name ≠ [] := by decide
    exact hall feature hmem
  simp only [AtlasDevice.setFeature, if_neg hname, hget]
  by_cases hvalue : old = value
  · rw [if_neg (not_not.mpr hvalue)]
    exact ⟨[], rfl, .silent h rfl rfl rfl rfl⟩
  · rw [if_pos hvalue]
    refine ⟨[[(feature.name, value)]], ?_, ?_⟩
    · rw [List.map_singleton, jsonFields_singleton, AtlasTelemetryInfo.featureToJSON,
        getFeature_setFeature]
    · refine .part rfl rfl (h.setFeature hmem value) (fields_eq_telemetry scores device)
        (fields_eq_telemetry scores _) ?_ ?_ (by simp) ?_
      · exact covers_save _ _
      · exact List.singleton_sublist.mpr
          (Table.find?_eq_some_iff.mp (Table.find?_save_self (feature.name, value) _)).1
      · have hkey : bytes "registered" ∉ telemetryFeatures.map (·.name) := by decide
        intro heq
        rw [List.mem_singleton.mp heq] at hkey
        exact hkey (List.mem_map_of_mem hmem)

/-- What a device tells at a tick of the keep-alive alarm. -/
def alarmTellings (device : AtlasDevice) : List (List (StdString × StdString)) :=
  if device.expires then
    [[(bytes "registered", bytes "false"), (bytes "lastRegisterTime", device.regTime)]]
  else []

/-- The keep-alive alarm. The last tick ends the registration, and the others are not reported. -/
theorem keepaliveAlarm_reports (h : device.telemetryInfo.Known) :
    (device.keepaliveAlarm env).2 = (alarmTellings device).map jsonFields ∧
      Reports scores scores device (device.keepaliveAlarm env).1 (alarmTellings device) := by
  rw [alarmTellings]
  have hfirewall := device.toAtlasDevice_keepaliveAlarm env
  rw [AtlasDevice.keepaliveAlarm] at hfirewall ⊢
  by_cases hreg : device.registered = true
  · rw [if_pos hreg, AtlasDevice.keepAliveExpired] at hfirewall ⊢
    rcases device.toAtlasDevice.keepaliveAlarm_cases with
      ⟨hexpires, kaCtr, halarm⟩ | ⟨hexpires, kaCtr, halarm⟩
    · rw [if_pos hexpires] at hfirewall ⊢
      dsimp only at hfirewall ⊢
      rw [hfirewall, halarm, if_pos hexpires]
      have hkeys : ([(bytes "registered", bytes "false"),
          (bytes "lastRegisterTime", device.regTime)].map Prod.fst).Nodup := by
        have hdistinct : [bytes "registered", bytes "lastRegisterTime"].Nodup := by decide
        exact hdistinct
      refine ⟨rfl, .single rfl h (by simp) hkeys ?_ fun record _ => ?_⟩
      · exact (List.sublist_append_left
          [(bytes "registered", bytes "false"), (bytes "lastRegisterTime", device.regTime)]
          _).subset
      · exact told_unregistered rfl hkeys List.mem_cons_self record
    · rw [hexpires, if_neg Bool.false_ne_true] at hfirewall ⊢
      dsimp only at hfirewall ⊢
      rw [hfirewall, halarm, if_neg Bool.false_ne_true]
      exact ⟨rfl, .silent h rfl rfl rfl rfl⟩
  · have hexpires : device.expires = false := by
      simp [Firewall.AtlasDevice.expires, hreg]
    rw [if_neg hreg, hexpires, if_neg Bool.false_ne_true]
    exact ⟨rfl, .silent h rfl rfl rfl rfl⟩

/-- A new score. -/
theorem score_reports (h : device.telemetryInfo.Known) (netType : AtlasDeviceNetworkType)
    (score : StdString) :
    Reports scores (scores.set netType device.identity score) device device
      [[(netType.key, score)]] := by
  have hfields (scores : Scores) : device.fields scores.env =
      ((device.fields scores.env).take 4 ++ device.telemetryInfo.features.rows) ++
        [(bytes "systemReputation", scores.system device.identity)] ++
          ((bytes "temperatureReputation", scores.temperature device.identity) ::
            (statsFields device.stats ++ device.policy.toList.flatMap policyFields)) := by
    simp [AtlasDevice.fields, Scores.env]
  have hfields' (scores : Scores) : device.fields scores.env =
      ((device.fields scores.env).take 4 ++ device.telemetryInfo.features.rows ++
          [(bytes "systemReputation", scores.system device.identity)]) ++
        [(bytes "temperatureReputation", scores.temperature device.identity)] ++
          (statsFields device.stats ++ device.policy.toList.flatMap policyFields) := by
    simp [AtlasDevice.fields, Scores.env]
  cases netType with
  | system =>
    have hnew := hfields (scores.set .system device.identity score)
    have hscore : (scores.set .system device.identity score).system device.identity = score :=
      Function.update_self ..
    rw [hscore] at hnew
    exact .replace [bytes "systemReputation"] rfl rfl h (hfields scores) hnew rfl (by simp)
      (by decide)
  | sensorTemperature =>
    have hnew := hfields' (scores.set .sensorTemperature device.identity score)
    have hscore :
        (scores.set .sensorTemperature device.identity score).temperature device.identity =
        score := Function.update_self ..
    rw [hscore] at hnew
    exact .replace [bytes "temperatureReputation"] rfl rfl h (hfields' scores) hnew rfl (by simp)
      (by decide)

/-- New counters. -/
theorem stats_reports (h : device.telemetryInfo.Known) (stats : AtlasFirewallStats) :
    Reports scores scores device { device with stats := stats } [statsFields stats] :=
  .replace [bytes "firewallRuleDroppedPkts", bytes "firewallRulePassedPkts",
    bytes "firewallTxDroppedPkts", bytes "firewallTxPassedPkts"] rfl rfl h rfl rfl rfl (by simp)
      (by decide)

end Operations

/-! ## Requests -/

section Requests

variable {host : ByteOrder} {env : Env} {manager : AtlasDeviceManager} {pskIdentity : StdString}
  {reqPayload : List UInt8} {resource : Resource} {handled : Handled}

/-- A request that is refused reports nothing, and brings at most its device into memory. One that
is accepted turns the device into another one, and its updates are what the device reports. -/
inductive Served (env : Env) (manager : AtlasDeviceManager) (pskIdentity : StdString)
    (handled : Handled) : Prop where
  | refused (hupdates : handled.updates = [])
      (hmanager : handled.manager = manager ∨
        handled.manager = (manager.getDevice env pskIdentity).1)
  | accepted (manager' : AtlasDeviceManager) (device device' : AtlasDevice)
      (tellings : List (List (StdString × StdString)))
      (hget : manager.getDevice env pskIdentity = (manager', some device))
      (hreports : Reports (scoresOf env) (scoresOf env) device device' tellings)
      (hmanager : handled.manager = manager'.setDevice device')
      (hupdates : handled.updates = device'.updates (tellings.map jsonFields))

theorem known_of_getDevice {manager' : AtlasDeviceManager} {device : AtlasDevice}
    (h : manager.Known) (hget : manager.getDevice env pskIdentity = (manager', some device)) :
    device.telemetryInfo.Known := by
  have hknown := h.getDevice env pskIdentity
  rw [hget] at hknown
  exact hknown device (Table.find?_eq_some_iff.mp (AtlasDeviceManager.find?_of_getDevice hget)).1

/-- The rule of the common frame of the callbacks. -/
theorem onRegistered_served {α : Type} {request : Option α}
    {accept : AtlasDeviceManager → AtlasDevice → α → Handled} (hknown : manager.Known)
    (haccept : ∀ manager' device fields, device.telemetryInfo.Known → request = some fields →
      ∃ device' tellings, Reports (scoresOf env) (scoresOf env) device device' tellings ∧
        (accept manager' device fields).manager = manager'.setDevice device' ∧
        (accept manager' device fields).updates = device'.updates (tellings.map jsonFields)) :
    Served env manager pskIdentity (onRegistered env manager pskIdentity request accept) := by
  rw [onRegistered]
  rcases hget : manager.getDevice env pskIdentity with ⟨manager', _ | device⟩ <;> dsimp only
  · exact .refused rfl (.inr (by rw [hget]; rfl))
  · cases device.registered with
    | false => exact .refused rfl (.inr (by rw [hget]; rfl))
    | true =>
      cases request with
      | none => exact .refused rfl (.inr (by rw [hget]; rfl))
      | some fields =>
        obtain ⟨device', tellings, hreports, hmanager, hupdates⟩ :=
          haccept manager' device fields (known_of_getDevice hknown hget) rfl
        exact .accepted manager' device device' tellings hget hreports hmanager hupdates

theorem registerCallback_served (hknown : manager.Known)
    (h : registerCallback host env manager pskIdentity reqPayload = .ok handled) :
    Served env manager pskIdentity handled := by
  rw [registerCallback] at h
  cases hread : Firewall.readRegister host pskIdentity reqPayload with
  | none =>
    rw [hread] at h
    cases h
    exact .refused rfl (.inl rfl)
  | some fields =>
    obtain rfl := identity_of_readRegister hread
    rcases hget : manager.getDevice env fields.identity with ⟨manager', _ | device⟩ <;>
      simp only [hread, hget] at h
    · cases h
      exact .refused rfl (.inr (by rw [hget]; rfl))
    · cases halerts : AtlasDevice.pushAlerts env <;> rw [halerts] at h <;> cases h
      obtain ⟨tellings, hfragments, hreports⟩ :=
        registerNow_reports env (known_of_getDevice hknown hget)
      obtain ⟨tellings', hfragments', hreports'⟩ := hreports.setIpPort rfl fields.ipPort
      refine .accepted manager' device _ _ hget hreports' rfl ?_
      simp only [hfragments, hfragments', List.map_append]

theorem callback_served (hknown : manager.Known)
    (h : resource.callback host env manager pskIdentity reqPayload = .ok handled) :
    Served env manager pskIdentity handled := by
  cases resource with
  | register => exact registerCallback_served hknown h
  | keepalive =>
    cases h
    refine onRegistered_served hknown fun manager' device fields hdevice _ => ?_
    obtain ⟨tellings, hfragments, hreports⟩ := keepAliveNow_reports env hdevice
    obtain ⟨tellings', hfragments', hreports'⟩ := hreports.setIpPort rfl fields.ipPort
    refine ⟨_, _, hreports', rfl, ?_⟩
    simp only [hfragments, hfragments', List.map_append]
  | policy =>
    cases h
    refine onRegistered_served hknown fun manager' device policy hdevice _ => ?_
    obtain ⟨tellings, hfragments, hreports⟩ := setPolicyInfo_reports (scoresOf env) hdevice policy
    exact ⟨_, _, hreports, rfl, by simp only [hfragments]⟩
  | telemetry path =>
    cases h
    refine onRegistered_served hknown fun manager' device feature hdevice hread => ?_
    obtain ⟨f, hmem, hname⟩ := name_of_readFeature hread
    obtain ⟨tellings, hfragments, hreports⟩ :=
      setFeature_reports (scoresOf env) hdevice hmem feature.2
    rw [← hname] at hfragments hreports
    exact ⟨_, _, hreports, rfl, by simp only [hfragments]⟩

end Requests

end Atlas.Uplink
