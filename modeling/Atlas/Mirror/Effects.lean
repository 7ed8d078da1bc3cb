import Atlas.Mirror.Document

/-! # What an event of the gateway sends

One lemma for each kind of event of the gateway: which messages it sends, and that with them the
document of the cloud follows the gateway. `step_effect` puts them together: an event keeps the
document in step with the gateway, or it sends a registration followed by all that the cloud has to
know.

Reference: `cloud/AtlasRegisterCloud.cpp`, `cloud/AtlasDeviceCloud.cpp`,
`device/AtlasDeviceManager.cpp`.
-/

namespace Atlas.Mirror

open Devices EventMachine Json Replica Uplink
open Gateway (StdString bytes)
open Cloud.Presence

variable {counter : Int32} {registers : Prop} {cloud : AtlasGateway} {g g' : Session} {env : Env}

/-! ## All devices -/

theorem forEachDevice_perm (env : Env) (manager : AtlasDeviceManager) :
    (manager.forEachDevice env).Perm manager.devices.rows := List.perm_insertionSort _ _

theorem find?_of_mem_forEachDevice {manager : AtlasDeviceManager} {device : AtlasDevice}
    (h : device ∈ manager.forEachDevice env) :
    manager.devices.find? device.identity = some device :=
  Table.find?_eq_some_iff.mpr ⟨(forEachDevice_perm env manager).mem_iff.mp h, rfl⟩

/-- What all devices tell, device by device. -/
def tellAll (env : Env) (manager : AtlasDeviceManager)
    (tellings : AtlasDevice → List (List (StdString × StdString))) : List Telling :=
  (manager.forEachDevice env).flatMap fun device => (tellings device).map (device.identity, ·)

theorem exists_of_mem_tellAll {manager : AtlasDeviceManager}
    {tellings : AtlasDevice → List (List (StdString × StdString))} {t : Telling}
    (h : t ∈ tellAll env manager tellings) :
    ∃ device, manager.devices.find? device.identity = some device ∧
      ∃ fields ∈ tellings device, t = (device.identity, fields) := by
  obtain ⟨device, hdevice, ht⟩ := List.mem_flatMap.mp h
  obtain ⟨fields, hfields, rfl⟩ := List.mem_map.mp ht
  exact ⟨device, find?_of_mem_forEachDevice hdevice, fields, hfields, rfl⟩

/-- A device only tells of itself. -/
theorem about_tellAll (env : Env) (manager : AtlasDeviceManager)
    (tellings : AtlasDevice → List (List (StdString × StdString))) (identity : StdString) :
    about identity (tellAll env manager tellings) =
      (manager.devices.find? identity).toList.flatMap tellings := by
  have hfilter : (tellAll env manager tellings).filter (·.1 = identity) =
      (manager.devices.find? identity).toList.flatMap
        fun device => (tellings device).map (device.identity, ·) := by
    refine Table.filter_flatMap (forEachDevice_perm env manager) ?_ identity
    rintro device - t ht
    obtain ⟨fields, -, rfl⟩ := List.mem_map.mp ht
    rfl
  rw [about, hfilter, List.map_flatMap]
  simp

/-- The fields of a device in memory. -/
theorem fields_envOf (env : Env) {device : AtlasDevice}
    (h : g.manager.devices.find? device.identity = some device) :
    device.fields (g.envOf env) = device.fields g.scores.env := by
  obtain ⟨hsystem, htemperature⟩ := envOf_known env (by rw [h]; exact nofun)
  rw [← fields_scoresOf]
  exact fields_congr hsystem htemperature

/-- The updates of a full sync. -/
def snapshot (env : Env) (g : Session) : List Telling :=
  tellAll (g.envOf env) g.manager fun device => [device.fields g.scores.env]

theorem allUpdates_eq (env : Env) (hknown : g.manager.Known) :
    g.allUpdates (g.envOf env) = (snapshot env g).map Telling.call := by
  rw [Session.allUpdates, snapshot, tellAll, List.map_flatMap, List.map_eq_flatMap]
  refine List.flatMap_congr fun device hdevice => ?_
  have hfind := find?_of_mem_forEachDevice hdevice
  have hdevice := hknown device (Table.find?_eq_some_iff.mp hfind).1
  rw [toJSON_eq_jsonFields _ hdevice, fields_envOf env hfind]
  rfl

theorem snapshot_snapshot (env : Env) (hknown : g.manager.Known) (hplain : PlainSession g) :
    Snapshot g (snapshot env g) where
  inMemory t ht := by
    obtain ⟨device, hfind, fields, -, rfl⟩ := exists_of_mem_tellAll ht
    rw [hfind]
    exact nofun
  fits t ht := by
    obtain ⟨device, hfind, fields, hfields, rfl⟩ := exists_of_mem_tellAll ht
    obtain rfl := List.mem_singleton.mp hfields
    have hmem := (Table.find?_eq_some_iff.mp hfind).1
    obtain ⟨hidentity, hvalues⟩ := hplain.find? hfind
    refine fits_of_plain hidentity
      ⟨by simp [AtlasDevice.fields], nodup_fields _ (hknown device hmem), fun f hf => ?_⟩ hvalues
    exact mem_deviceKeys_of_mem_fields (hknown device hmem) hf
  told identity device hfind record := by
    rw [snapshot, about_tellAll, hfind]
    exact told_snapshot (hknown device (Table.find?_eq_some_iff.mp hfind).1) record

/-! ## The alarm of the devices, and new scores -/

theorem keepaliveAlarmCallback_updates (env : Env) (hknown : g.manager.Known) :
    (g.manager.keepaliveAlarmCallback env).2.2 =
      (tellAll env g.manager alarmTellings).map Telling.call := by
  rw [tellAll, List.map_flatMap]
  refine List.flatMap_congr fun device hdevice => ?_
  have hfind := find?_of_mem_forEachDevice hdevice
  have hdevice := hknown device (Table.find?_eq_some_iff.mp hfind).1
  rw [(keepaliveAlarm_reports g.scores env hdevice).1, AtlasDevice.updates, List.map_map,
    List.map_map]
  rfl

theorem evolves_keepaliveAlarm (env : Env) (hknown : g.manager.Known) (hplain : PlainSession g)
    (hplain' : PlainSession g') (hmanager : g'.manager = (g.manager.keepaliveAlarmCallback env).1)
    (hscores : g'.scores = g.scores) (howner : g'.ownerIdentity = g.ownerIdentity) :
    Evolves g g' (tellAll env g.manager alarmTellings) := by
  have hfind' : ∀ identity, g'.manager.devices.find? identity =
      (g.manager.devices.find? identity).map fun device => (device.keepaliveAlarm env).1 := by
    intro identity
    rw [hmanager]
    exact Table.find?_map _
      (fun device => by simp [Firewall.AtlasDevice.identity_keepaliveAlarm]) _ _
  have hreports : ∀ {identity device}, g.manager.devices.find? identity = some device →
      Reports g.scores g'.scores device (device.keepaliveAlarm env).1 (alarmTellings device) := by
    intro identity device hfind
    rw [hscores]
    exact (keepaliveAlarm_reports g.scores env
      (hknown device (Table.find?_eq_some_iff.mp hfind).1)).2
  refine ⟨?_, ?_, ?_, ?_, howner⟩
  · intro identity hnone
    rw [hfind'] at hnone
    exact Option.map_eq_none_iff.mp hnone
  · intro t ht
    obtain ⟨device, hfind, fields, -, rfl⟩ := exists_of_mem_tellAll ht
    rw [hfind', hfind]
    exact nofun
  · intro t ht
    obtain ⟨device, hfind, fields, hfields, rfl⟩ := exists_of_mem_tellAll ht
    have hafter :
        g'.manager.devices.find? device.identity = some (device.keepaliveAlarm env).1 := by
      rw [hfind', hfind]
      rfl
    obtain ⟨hidentity, hvalues⟩ := hplain'.find? hafter
    refine fits_of_plain hidentity ((hreports hfind).keys fields hfields) fun f hf => ?_
    rcases (hreports hfind).values fields hfields f hf with hf | rfl
    · exact hvalues f hf
    · exact (hplain.find? hfind).2 (bytes "ipPort", device.ipPort) (by simp [AtlasDevice.fields])
  · intro identity record hrecord
    rw [about_tellAll, hfind']
    cases hfind : g.manager.devices.find? identity with
    | none =>
      rw [hfind] at hrecord
      exact hrecord
    | some device =>
      rw [hfind] at hrecord
      rw [Option.toList_some, List.flatMap_singleton]
      exact (hreports hfind).told record hrecord

theorem evolves_score (netType : AtlasDeviceNetworkType) (score : StdString) {identity : StdString}
    {device : AtlasDevice} (hfind : g.manager.devices.find? identity = some device)
    (hknown : g.manager.Known) (hplain' : PlainSession g') (hmanager : g'.manager = g.manager)
    (hscores : g'.scores = g.scores.set netType identity score)
    (howner : g'.ownerIdentity = g.ownerIdentity) :
    Evolves g g' [(identity, [(netType.key, score)])] := by
  have hidentity : device.identity = identity := (Table.find?_eq_some_iff.mp hfind).2
  have hreports := score_reports g.scores (hknown device (Table.find?_eq_some_iff.mp hfind).1)
    netType score
  rw [hidentity, ← hscores] at hreports
  have hfind' : g'.manager.devices.find? identity = some device := hmanager ▸ hfind
  show Evolves g g' ([[(netType.key, score)]].map (identity, ·))
  refine evolves_one howner (fun other _ => by rw [hmanager]) ?_ ?_ ?_ ?_
  · intro other hne _
    rw [hscores]
    cases netType with
    | system => exact ⟨Function.update_of_ne hne .., rfl⟩
    | sensorTemperature => exact ⟨rfl, Function.update_of_ne hne ..⟩
  · rw [hfind']
    exact nofun
  · intro fields hfields
    obtain ⟨hplain, hvalues⟩ := hplain'.find? hfind'
    refine fits_of_plain hplain (hreports.keys fields hfields) fun f hf => ?_
    rcases hreports.values fields hfields f hf with hf | rfl
    · exact hvalues f hf
    · exact hvalues (bytes "ipPort", device.ipPort) (by simp [AtlasDevice.fields])
  · intro record hrecord
    rw [hfind] at hrecord
    rw [hfind']
    exact hreports.told record hrecord

/-! ## Publications -/

/-- The updates of a registered gateway: those that are delivered are sent, in their order, and a
sync is scheduled unless all of them are. -/
theorem updateDevices_sent (accepts : ℕ → Bool) (ts : List Telling) (hreg : g.registered = true) :
    ∃ ts', ts'.Sublist ts ∧
      sent (g.updateDevices accepts (ts.map Telling.call)).2 = ts'.map (·.message.text) ∧
      ((g.updateDevices accepts (ts.map Telling.call)).1.sync.syncScheduled = false →
        ts' = ts ∧ g.sync.syncScheduled = false) := by
  have hspec := allDevicesUpdate_sent g.sync ts fun i => g.client.tryPublishMessage (accepts i)
  simp only [Session.updateDevices, Session.attempt, hreg]
  exact hspec

/-- A gateway that is not registered sends no updates. -/
theorem updateDevices_unregistered (accepts : ℕ → Bool) (updates : List Update)
    (hreg : g.registered = false) : g.updateDevices accepts updates = (g, []) := by
  have hspec : ∀ (updates : List DeviceUpdate) (sync : CloudSync),
      (∀ u ∈ updates, u.attempt.registered = false) →
      sync.allDevicesUpdate updates = (sync, []) := by
    intro updates sync h
    induction updates with
    | nil => rfl
    | cons u updates ih =>
      obtain ⟨hu, hupdates⟩ := List.forall_mem_cons.mp h
      have hfirst : CloudSync.updateDevice u sync = (sync, []) := by
        simp [CloudSync.updateDevice, CloudSync.publishUpdate, hu]
      simp only [CloudSync.allDevicesUpdate, hfirst, ih hupdates, List.append_nil]
  rw [Session.updateDevices, hspec]
  intro u hu
  obtain ⟨i, _, rfl⟩ := List.mem_mapIdx.mp hu
  exact hreg

/-- The owner is sent by a registered gateway, or a sync is scheduled. -/
theorem updateGateway_sent (accepts : ℕ → Bool) (i : ℕ) (hreg : g.registered = true) :
    ∃ ms, sent (g.updateGateway accepts i).2 = ms.map Message.text ∧
      (ms = [] ∨ ms = [.owner g.ownerIdentity]) ∧
      ((g.updateGateway accepts i).1.sync.syncScheduled = false →
        ms = [.owner g.ownerIdentity] ∧ g.sync.syncScheduled = false) := by
  have hattempt : g.attempt accepts i = ⟨true, g.client.tryPublishMessage (accepts i)⟩ := by
    rw [Session.attempt, hreg]
  rw [Session.updateGateway, hattempt]
  cases g.client.tryPublishMessage (accepts i) with
  | true => exact ⟨[.owner g.ownerIdentity], rfl, .inr rfl, fun h => ⟨rfl, h⟩⟩
  | false =>
    refine ⟨[], rfl, .inl rfl, fun h => absurd h ?_⟩
    show ¬ g.sync.schedule.syncScheduled = false
    simp [syncScheduled_schedule]

theorem updateGateway_unregistered (accepts : ℕ → Bool) (i : ℕ) (hreg : g.registered = false) :
    g.updateGateway accepts i = (g, []) := by
  have hattempt : g.attempt accepts i = ⟨false, g.client.tryPublishMessage (accepts i)⟩ := by
    rw [Session.attempt, hreg]
  rw [Session.updateGateway, hattempt]
  rfl

/-! ## Effects -/

/-- The devices have known features, the client is well formed, and the gateway is registered only
while it is connected, or until it has handled that it is not. -/
structure Sound (g : Session) : Prop where
  known : g.manager.Known
  client : g.client.WellFormed
  flag : g.registered = true → g.client.link = .up ∨ .onDisconnect ∈ g.client.posted

/-- What an event does that leads to `g'` and sends these messages. If the gateway is connected and
registered afterwards, it was so before, and the document follows the gateway as it did, or the
messages are a registration and all that the cloud has to know after it. The latter is possible if
`registers`. -/
structure Effect (counter : Int32) (registers : Prop) (before : Option Session) (g' : Session)
    (ms : List Message) : Prop where
  sound : Sound g'
  live : Live g' →
    (∃ g, before = some g ∧ Live g ∧ .register ∉ ms ∧
      ∀ cloud : AtlasGateway, Follows g cloud → Follows g' (applyAll counter ms cloud)) ∨
    registers ∧ ∃ ms', ms = .register :: ms' ∧ .register ∉ ms' ∧
      ∀ cloud : AtlasGateway, Follows g' (applyAll counter ms' (cloud.registerNow counter))

/-- What an event leads to, and what it sends. -/
def Leads (counter : Int32) (registers : Prop) (before : Option Session)
    (r : Option Session × List CloudOutput) : Prop :=
  ∃ ms, sent r.2 = ms.map Message.text ∧ (∀ m ∈ ms, m.Fits) ∧
    ∀ g', r.1 = some g' → Effect counter registers before g' ms

theorem register_notMem_messages (ts : List Telling) :
    Message.register ∉ ts.map Telling.message := by
  intro h
  obtain ⟨t, -, ht⟩ := List.mem_map.mp h
  cases ht

theorem map_text_message (ts : List Telling) :
    ts.map (·.message.text) = (ts.map Telling.message).map Message.text := by
  rw [List.map_map]
  rfl

theorem Follows.congr (h : Follows g cloud) (hmanager : g'.manager = g.manager)
    (hscores : g'.scores = g.scores) (hsync : g'.sync = g.sync)
    (howner : g'.ownerIdentity = g.ownerIdentity) : Follows g' cloud where
  unknown identity hnone := h.unknown identity (hmanager ▸ hnone)
  mirrors hfalse := by
    obtain ⟨hdevices, hcloud⟩ := h.mirrors (hsync ▸ hfalse)
    exact ⟨by rw [hmanager, hscores]; exact hdevices, howner ▸ hcloud⟩

theorem updates_eq_call (device : AtlasDevice) (tellings : List (List (StdString × StdString))) :
    device.updates (tellings.map jsonFields) =
      (tellings.map (device.identity, ·)).map Telling.call := by
  rw [AtlasDevice.updates, List.map_map, List.map_map]
  rfl

/-- Nothing is sent, and the gateway does not become live. -/
theorem leads_quiet (hsound : Sound g') (hlive : Live g' → Live g)
    (hfollows : ∀ cloud, Follows g cloud → Follows g' cloud) :
    Leads counter registers (some g) (some g', []) := by
  refine ⟨[], rfl, by simp, ?_⟩
  rintro _ ⟨⟩
  exact ⟨hsound, fun h => .inl ⟨g, rfl, hlive h, by simp, hfollows⟩⟩

/-- Nothing is sent, and the gateway is not live afterwards. -/
theorem leads_of_not_live {before : Option Session} (hsound : Sound g') (h : ¬ Live g') :
    Leads counter registers before (some g', []) := by
  refine ⟨[], rfl, by simp, ?_⟩
  rintro _ ⟨⟩
  exact ⟨hsound, fun hlive => absurd hlive h⟩

/-- The process ends. -/
theorem leads_none (before : Option Session) : Leads counter registers before (none, []) :=
  ⟨[], rfl, by simp, by simp⟩

/-- A change of the devices, with its updates. `g₁` is the gateway before it publishes them. -/
theorem leads_updates {g₁ : Session} {ts : List Telling} (accepts : ℕ → Bool) (hsound : Sound g₁)
    (hclient : g₁.client = g.client) (hreg : g₁.registered = g.registered)
    (hsync : g₁.sync = g.sync) (hevolves : Evolves g g₁ ts) :
    Leads counter registers (some g)
      (running (g₁.updateDevices accepts (ts.map Telling.call))) := by
  cases hregistered : g₁.registered with
  | false =>
    rw [updateDevices_unregistered accepts _ hregistered]
    exact leads_of_not_live hsound fun h => absurd h.2 (by simp [hregistered])
  | true =>
    obtain ⟨ts', hsub, hsent, hscheduled⟩ := updateDevices_sent accepts ts hregistered
    refine ⟨ts'.map Telling.message, by rw [running, hsent, map_text_message], ?_, ?_⟩
    · intro m hm
      obtain ⟨t, ht, rfl⟩ := List.mem_map.mp hm
      exact hevolves.fits t (hsub.subset ht)
    · rintro _ ⟨⟩
      refine ⟨⟨hsound.known, hsound.client, hsound.flag⟩, fun hlive => .inl ⟨g, rfl, ?_, ?_, ?_⟩⟩
      · exact ⟨hclient ▸ hlive.1, hreg ▸ hlive.2⟩
      · exact register_notMem_messages ts'
      · intro cloud hcloud
        rw [hsync] at hscheduled
        have hevolves' : Evolves g (g₁.updateDevices accepts (ts.map Telling.call)).1 ts :=
          ⟨hevolves.kept, hevolves.inMemory, hevolves.fits, hevolves.told, hevolves.owner⟩
        exact hevolves'.follows hsub hscheduled hcloud

/-- The message with the owner says nothing about the devices. -/
theorem owner_messages (counter : Int32) {ms : List Message} {ownerIdentity : StdString}
    (h : ms = [] ∨ ms = [.owner ownerIdentity]) (hplain : Plain ownerIdentity) :
    (∀ m ∈ ms, m.Fits) ∧ .register ∉ ms ∧ ∀ (cloud : AtlasGateway) identity,
      record (applyAll counter ms cloud) identity = record cloud identity := by
  rcases h with rfl | rfl
  · exact ⟨by simp, by simp, fun _ _ => rfl⟩
  · exact ⟨List.forall_mem_singleton.mpr hplain, by simp, fun _ _ => rfl⟩

/-- All devices and the owner, one after the other. The clients of the document that are not in
memory have to be offline already. -/
theorem sent_all (counter : Int32) (env : Env) (accepts accepts' : ℕ → Bool) (i : ℕ)
    (hreg : g.registered = true) (hknown : g.manager.Known) (hplain : PlainSession g) :
    ∃ ms, sent ((g.allDevicesUpdate env accepts).2 ++
        ((g.allDevicesUpdate env accepts).1.updateGateway accepts' i).2) = ms.map Message.text ∧
      (∀ m ∈ ms, m.Fits) ∧ .register ∉ ms ∧
      ∀ cloud : AtlasGateway,
        (∀ identity, g.manager.devices.find? identity = none → Offline (record cloud identity)) →
        Follows ((g.allDevicesUpdate env accepts).1.updateGateway accepts' i).1
          (applyAll counter ms cloud) := by
  have hsnapshot := snapshot_snapshot env hknown hplain
  obtain ⟨ts', hsub, hsent, hscheduled⟩ := updateDevices_sent accepts (snapshot env g) hreg
  rw [← allUpdates_eq env hknown] at hsent hscheduled
  obtain ⟨ms, hsent', howner, hscheduled'⟩ :=
    updateGateway_sent (g := (g.allDevicesUpdate env accepts).1) accepts' i hreg
  obtain ⟨hfits, hregister, hrecord⟩ := owner_messages counter howner hplain.owner
  refine ⟨ts'.map Telling.message ++ ms, ?_, ?_, ?_, ?_⟩
  · rw [sent_append, hsent', List.map_append, ← map_text_message, ← hsent]
    rfl
  · intro m hm
    rcases List.mem_append.mp hm with hm | hm
    · obtain ⟨t, ht, rfl⟩ := List.mem_map.mp hm
      exact hsnapshot.fits t (hsub.subset ht)
    · exact hfits m hm
  · rw [List.mem_append, not_or]
    exact ⟨register_notMem_messages ts', hregister⟩
  · intro cloud hcloud
    rw [applyAll_append]
    refine ⟨?_, fun hfalse => ?_⟩
    · intro identity hnone
      rw [hrecord]
      exact hsnapshot.unknown hsub hcloud identity hnone
    · obtain ⟨rfl, hbefore⟩ := hscheduled' hfalse
      obtain ⟨rfl, -⟩ := hscheduled hbefore
      exact ⟨hsnapshot.devices hcloud, rfl⟩

/-! ## The events -/

theorem link_of_tryPublishMessage {client : AtlasMqttClient} {accepts : Bool}
    (h : client.tryPublishMessage accepts = true) : client.link = .up := by
  simp only [AtlasMqttClient.tryPublishMessage, Bool.and_eq_true, decide_eq_true_eq] at h
  exact h.1.2

theorem offline_registerNow (counter : Int32) (cloud : AtlasGateway) (identity : StdString) :
    Offline (record (cloud.registerNow counter) identity) := by
  intro r hr
  obtain ⟨client, hclient, rfl⟩ := Option.map_eq_some_iff.mp hr
  obtain ⟨client, -, rfl⟩ := Option.map_eq_some_iff.mp hclient
  show Function.update client.info (bytes "registered") (some (bytes "false"))
    (bytes "registered") ≠ _
  rw [Function.update_self]
  decide

/-- A registration that is published, and all that follows it. -/
theorem leads_sendRegisterCmd (env : Env) (accepts : ℕ → Bool) (hsound : Sound g)
    (hplain : PlainSession g) (hregisters : registers) :
    Leads counter registers (some g) (running (g.sendRegisterCmd env accepts)) := by
  rw [Session.sendRegisterCmd]
  split
  case isFalse => exact leads_quiet hsound id fun _ => id
  case isTrue hpublish =>
    have hplain' : PlainSession { g with registered := true } := ⟨hplain.devices, hplain.owner⟩
    obtain ⟨ms, hsent, hfits, hregister, hfollows⟩ := sent_all counter
      (g := { g with registered := true }) env (fun i => accepts (i + 1)) accepts
      (g.manager.devices.rows.length + 1) rfl hsound.known hplain'
    refine ⟨.register :: ms, congrArg (registerMessage :: ·) hsent, ?_, ?_⟩
    · exact List.forall_mem_cons.mpr ⟨trivial, hfits⟩
    · rintro _ ⟨⟩
      refine ⟨⟨hsound.known, hsound.client, fun _ => .inl (link_of_tryPublishMessage hpublish)⟩,
        fun _ => .inr ⟨hregisters, ms, rfl, hregister, fun cloud => ?_⟩⟩
      exact hfollows _ fun identity _ => offline_registerNow counter cloud identity

/-- A keep-alive says nothing about the devices. -/
theorem leads_sendKeepaliveCmd (accepts : ℕ → Bool) (hsound : Sound g) :
    Leads counter registers (some g) (running (g.sendKeepaliveCmd accepts)) := by
  rw [Session.sendKeepaliveCmd]
  cases g.client.tryPublishMessage (accepts 0) with
  | false => exact leads_quiet hsound id fun _ => id
  | true =>
    refine ⟨[.keepalive], rfl, by simp [Message.Fits], ?_⟩
    rintro _ ⟨⟩
    exact ⟨hsound, fun hlive => .inl ⟨g, rfl, hlive, by simp,
      fun cloud hcloud => ⟨hcloud.unknown, fun hfalse =>
        ⟨(hcloud.mirrors hfalse).devices, (hcloud.mirrors hfalse).owner⟩⟩⟩⟩

/-- All devices are sent on request. -/
theorem leads_allDevicesUpdate (env : Env) (accepts : ℕ → Bool) (hsound : Sound g)
    (hplain : PlainSession g) :
    Leads counter registers (some g) (running (g.allDevicesUpdate env accepts)) := by
  have hsnapshot := snapshot_snapshot env hsound.known hplain
  rw [Session.allDevicesUpdate, allUpdates_eq env hsound.known]
  refine leads_updates accepts hsound rfl rfl rfl ⟨fun _ => id, hsnapshot.inMemory, hsnapshot.fits,
    ?_, rfl⟩
  intro identity record hrecord
  cases hfind : g.manager.devices.find? identity with
  | some device => exact hsnapshot.told identity device hfind record
  | none =>
    rw [hfind] at hrecord
    have habout : about identity (snapshot env g) = [] := by
      refine about_eq_nil ?_
      rintro t ht rfl
      exact hsnapshot.inMemory t ht hfind
    rw [habout]
    exact hrecord

/-- A full sync is that of a gateway whose flag was cleared. -/
theorem syncAlarmCallback_eq (env : Env) (accepts : ℕ → Bool)
    (hwait : g.sync.syncAlarm.waiting = true) :
    ∃ g₁ : Session, g₁.client = g.client ∧ g₁.registered = g.registered ∧ g₁.manager = g.manager ∧
      g₁.scores = g.scores ∧ g₁.ownerIdentity = g.ownerIdentity ∧
      ∃ i, g.syncAlarmCallback env accepts =
        (((g₁.allDevicesUpdate env accepts).1.updateGateway accepts i).1,
          .fullSync :: ((g₁.allDevicesUpdate env accepts).2 ++
            ((g₁.allDevicesUpdate env accepts).1.updateGateway accepts i).2)) := by
  refine ⟨{ g with sync := ⟨g.sync.syncAlarm.timerHandler, false, false⟩ }, rfl, rfl, rfl, rfl, rfl,
    (g.allUpdates (g.envOf env)).length, ?_⟩
  rw [Session.syncAlarmCallback, CloudSync.step, if_pos hwait]
  rfl

/-- The full sync. -/
theorem leads_syncAlarmCallback (env : Env) (accepts : ℕ → Bool) (hsound : Sound g)
    (hplain : PlainSession g) :
    Leads counter registers (some g) (running (g.syncAlarmCallback env accepts)) := by
  cases hwait : g.sync.syncAlarm.waiting with
  | false =>
    have hidle : g.syncAlarmCallback env accepts = (g, []) := by
      rw [Session.syncAlarmCallback, CloudSync.step, if_neg (by simp [hwait])]
    rw [hidle]
    exact leads_quiet hsound id fun _ => id
  | true =>
    obtain ⟨g₁, hclient, hreg, hmanager, hscores, howner, i, heq⟩ :=
      syncAlarmCallback_eq env accepts hwait
    have hsound₁ : Sound g₁ :=
      ⟨hmanager ▸ hsound.known, hclient ▸ hsound.client, by rw [hclient, hreg]; exact hsound.flag⟩
    have hplain₁ : PlainSession g₁ :=
      ⟨by rw [hmanager, hscores]; exact hplain.devices, howner ▸ hplain.owner⟩
    rw [heq]
    cases hregistered : g₁.registered with
    | false =>
      have hall : g₁.allDevicesUpdate env accepts = (g₁, []) :=
        updateDevices_unregistered accepts _ hregistered
      rw [hall, updateGateway_unregistered accepts i hregistered]
      refine ⟨[], rfl, by simp, ?_⟩
      rintro _ ⟨⟩
      exact ⟨hsound₁, fun hlive => absurd hlive.2 (by simp [hregistered])⟩
    | true =>
      obtain ⟨ms, hsent, hfits, hregister, hfollows⟩ := sent_all counter env accepts
        accepts i hregistered hsound₁.known hplain₁
      refine ⟨ms, hsent, hfits, ?_⟩
      rintro _ ⟨⟩
      refine ⟨⟨hsound₁.known, hsound₁.client, hsound₁.flag⟩,
        fun hlive => .inl ⟨g, rfl, ?_, hregister, ?_⟩⟩
      · exact ⟨hclient ▸ hlive.1, hreg ▸ hlive.2⟩
      · intro cloud hcloud
        exact hfollows cloud (hmanager ▸ hcloud.unknown)

/-- A new owner. -/
theorem leads_claimGateway (accepts : ℕ → Bool) (ownerIdentity : StdString) (hsound : Sound g)
    (hplain' : PlainSession (g.claimGateway accepts ownerIdentity).1) :
    Leads counter registers (some g) (running (g.claimGateway accepts ownerIdentity)) := by
  rw [Session.claimGateway]
  have hsound₁ : Sound { g with ownerIdentity := ownerIdentity } :=
    ⟨hsound.known, hsound.client, hsound.flag⟩
  by_cases hreg : g.registered = true
  case neg =>
    rw [updateGateway_unregistered (g := { g with ownerIdentity := ownerIdentity }) accepts 0
      (Bool.eq_false_of_not_eq_true hreg)]
    exact leads_of_not_live hsound₁ fun hlive => hreg hlive.2
  case pos =>
    obtain ⟨ms, hsent, howner, hscheduled⟩ :=
      updateGateway_sent (g := { g with ownerIdentity := ownerIdentity }) accepts 0 hreg
    obtain ⟨hfits, hregister, hrecord⟩ := owner_messages counter howner hplain'.owner
    refine ⟨ms, hsent, hfits, ?_⟩
    rintro _ ⟨⟩
    refine ⟨⟨hsound.known, hsound.client, hsound.flag⟩,
      fun hlive => .inl ⟨g, rfl, hlive, hregister, fun cloud hcloud => ⟨?_, fun hfalse => ?_⟩⟩⟩
    · intro identity hnone
      rw [hrecord]
      exact hcloud.unknown identity hnone
    · obtain ⟨rfl, hbefore⟩ := hscheduled hfalse
      exact ⟨(hcloud.mirrors hbefore).devices, rfl⟩

/-- A request of a client. -/
theorem leads_request (env : Env) (accepts : ℕ → Bool) (setup : Setup) (resource : Resource)
    (pskIdentity : StdString) (reqPayload : List UInt8) (hsound : Sound g) (hplain : PlainSession g)
    (hplain' : ∀ g', (g.request env accepts setup resource pskIdentity reqPayload).1 = some g' →
      PlainSession g') :
    Leads counter registers (some g)
      (g.request env accepts setup resource pskIdentity reqPayload) := by
  rw [Session.request] at hplain' ⊢
  cases hcallback : resource.callback setup.host (g.envOf env) g.manager pskIdentity reqPayload with
  | error e => exact leads_none _
  | ok handled =>
    simp only [hcallback] at hplain' ⊢
    have hafter := hplain' _ rfl
    have hsound₁ : Sound { g with
        manager := handled.manager
        scores := ⟨(g.envOf env).systemReputation, (g.envOf env).temperatureReputation⟩ } :=
      ⟨(callback_serves hcallback).known hsound.known, hsound.client, hsound.flag⟩
    cases callback_served hsound.known hcallback with
    | refused hupdates hmanager =>
      rw [hupdates]
      have hevolves : Evolves g { g with
          manager := handled.manager
          scores := scoresOf (g.envOf env) } [] := evolves_refused hmanager rfl rfl
      exact leads_updates (g := g) accepts hsound₁ rfl rfl rfl hevolves
    | accepted manager' device device' tellings hget hreports hmanager hupdates =>
      have hidentity : device'.identity = pskIdentity :=
        hreports.identity.trans (AtlasDeviceManager.identity_of_getDevice hget)
      rw [hupdates, updates_eq_call, hidentity]
      exact leads_updates accepts hsound₁ rfl rfl rfl
        (evolves_getDevice hget hreports hmanager rfl rfl hplain ⟨hafter.devices, hafter.owner⟩)

/-- Counters from the broker plug-in. -/
theorem leads_updateFirewallStats (env : Env) (accepts : ℕ → Bool) (clientId : StdString)
    (delta : Firewall.AtlasFirewallStats) (hsound : Sound g) (hplain : PlainSession g)
    (hplain' : PlainSession (g.updateFirewallStats env accepts clientId delta).1) :
    Leads counter registers (some g)
      (running (g.updateFirewallStats env accepts clientId delta)) := by
  rw [Session.updateFirewallStats] at hplain' ⊢
  have hknown := hsound.known.getDevice (g.envOf env) clientId
  rcases hget : g.manager.getDevice (g.envOf env) clientId with ⟨manager, _ | device⟩ <;>
    simp only [hget] at hplain' hknown ⊢
  · refine leads_quiet ⟨hknown, hsound.client, hsound.flag⟩ id fun cloud hcloud => ?_
    have hevolves : Evolves g { g with manager := manager, scores := scoresOf (g.envOf env) } [] :=
      evolves_refused (.inr (congrArg Prod.fst hget).symm) rfl rfl
    have hfollows : Follows _ (applyAll counter (([] : List Telling).map Telling.message) cloud) :=
      hevolves.follows (List.Sublist.refl _) (fun h => ⟨rfl, h⟩) hcloud
    exact hfollows
  · have hdevice := known_of_getDevice hsound.known hget
    have hreports := stats_reports (scoresOf (g.envOf env)) hdevice (device.stats.add delta)
    have hidentity : device.identity = clientId := AtlasDeviceManager.identity_of_getDevice hget
    have hupdates := updates_eq_call { device with stats := device.stats.add delta }
      [statsFields (device.stats.add delta)]
    rw [List.map_singleton] at hupdates
    rw [hupdates]
    have hevolves : Evolves g { g with
        manager := manager.setDevice { device with stats := device.stats.add delta }
        scores := scoresOf (g.envOf env) } _ :=
      evolves_getDevice hget hreports rfl rfl rfl hplain ⟨hplain'.devices, hplain'.owner⟩
    rw [← hidentity] at hevolves
    exact leads_updates accepts ⟨hknown.setDevice hdevice, hsound.client, hsound.flag⟩ rfl rfl rfl
      hevolves

/-- A new score of a device. -/
theorem leads_syncReputation (accepts : ℕ → Bool) (netType : AtlasDeviceNetworkType)
    (identity score : StdString) (hsound : Sound g)
    (hplain' : PlainSession (g.syncReputation accepts netType identity score).1) :
    Leads counter registers (some g)
      (running (g.syncReputation accepts netType identity score)) := by
  rw [Session.syncReputation] at hplain' ⊢
  cases hfind : g.manager.devices.find? identity with
  | none => exact leads_quiet hsound id fun _ => id
  | some device =>
    simp only [hfind] at hplain' ⊢
    have hidentity : device.identity = identity := (Table.find?_eq_some_iff.mp hfind).2
    have hupdates := updates_eq_call device [[(netType.key, score)]]
    rw [List.map_singleton, jsonFields_singleton] at hupdates
    rw [hupdates, hidentity]
    exact leads_updates accepts ⟨hsound.known, hsound.client, hsound.flag⟩ rfl rfl rfl
      (evolves_score netType score hfind hsound.known ⟨hplain'.devices, hplain'.owner⟩ rfl rfl rfl)

/-- The alarm of the devices. -/
theorem leads_keepaliveAlarm (env : Env) (accepts : ℕ → Bool) (hsound : Sound g)
    (hplain : PlainSession g) (hplain' : PlainSession (g.keepaliveAlarm env accepts).1) :
    Leads counter registers (some g) (running (g.keepaliveAlarm env accepts)) := by
  have hupdates := keepaliveAlarmCallback_updates env hsound.known
  rw [Session.keepaliveAlarm] at hplain' ⊢
  simp only [hupdates] at hplain' ⊢
  have hknown : (g.manager.keepaliveAlarmCallback env).1.Known := by
    intro device' hdevice'
    obtain ⟨device, hdevice, rfl⟩ := List.mem_map.mp hdevice'
    exact (keepaliveAlarm_reports g.scores env (hsound.known device hdevice)).2.known
  exact leads_updates accepts ⟨hknown, hsound.client, hsound.flag⟩ rfl rfl rfl
    (evolves_keepaliveAlarm env hsound.known hplain ⟨hplain'.devices, hplain'.owner⟩ rfl rfl rfl)

/-! ### The connection -/

section Client

variable {client : AtlasMqttClient} {e : ConnectionEvent}

/-- A client that is up, or has a disconnection to handle, is so until the scheduler runs a
handler. -/
theorem step_flag (hwf : client.WellFormed) (he : e ≠ .turn)
    (h : client.link = .up ∨ .onDisconnect ∈ client.posted) :
    (client.step e).1.link = .up ∨ .onDisconnect ∈ (client.step e).1.posted := by
  cases e with
  | turn => exact absurd rfl he
  | success =>
    rw [AtlasMqttClient.step]
    split
    · exact .inl rfl
    · exact h
  | failure =>
    rw [AtlasMqttClient.step]
    split
    · exact .inr List.mem_concat_self
    · exact h
  | lost =>
    rw [AtlasMqttClient.step]
    split
    · exact .inr List.mem_concat_self
    · exact h
  | arrived cmd =>
    rw [AtlasMqttClient.step]
    split
    case isTrue hlink => exact .inl hlink
    case isFalse => exact h
  | expired accepted =>
    rw [AtlasMqttClient.step]
    split
    case isTrue hwait =>
      obtain ⟨hlink, hposted⟩ := hwf.of_waiting hwait
      rcases h with hup | hmem
      · rw [hlink] at hup
        cases hup
      · exact absurd hmem hposted
    case isFalse => exact h

/-- A client that is up was up, or connecting. -/
theorem link_of_step_up (he : e ≠ .turn) (h : (client.step e).1.link = .up) :
    client.link = .up ∨ client.link = .connecting := by
  cases e with
  | turn => exact absurd rfl he
  | expired accepted =>
    rw [AtlasMqttClient.step] at h
    split at h
    · cases accepted with
      | false => exact .inl h
      | true => cases h
    · exact .inl h
  | success =>
    rw [AtlasMqttClient.step] at h
    split at h
    case isTrue hlink => exact .inr hlink
    case isFalse => exact .inl h
  | failure =>
    rw [AtlasMqttClient.step] at h
    split at h
    · cases h
    · exact .inl h
  | lost =>
    rw [AtlasMqttClient.step] at h
    split at h
    · cases h
    · exact .inl h
  | arrived cmd =>
    rw [AtlasMqttClient.step] at h
    split at h
    · exact .inl h
    · exact .inl h

/-- Only a turn of the scheduler runs a handler. -/
theorem connection_of_ne_turn (env : Env) (accepts : ℕ → Bool) (setup : Setup) (subscribes : Bool)
    (he : e ≠ .turn) :
    g.connection env accepts setup subscribes e =
      (some { g with client := (g.client.step e).1 }, []) := by
  have hruns : ∀ handler, (g.client.step e).2 ≠ [.runs handler] := by
    intro handler
    cases e with
    | turn => exact absurd rfl he
    | _ =>
      rw [AtlasMqttClient.step]
      split <;> simp
  rw [Session.connection]
  dsimp only
  split
  case h_1 handler heq => exact absurd heq (hruns handler)
  case h_2 => rfl

end Client

/-- A gateway that has something to say about `g` with another client in the same state has it to
say about `g`. -/
theorem Leads.of_client (client : AtlasMqttClient) {r : Option Session × List CloudOutput}
    (h : Leads counter registers (some { g with client := client }) r)
    (hlink : client.link = g.client.link) : Leads counter registers (some g) r := by
  obtain ⟨ms, hsent, hfits, heffect⟩ := h
  refine ⟨ms, hsent, hfits, fun g' hg' => ⟨(heffect g' hg').sound, fun hlive => ?_⟩⟩
  rcases (heffect g' hg').live hlive with ⟨_, ⟨⟩, hlive, hregister, hfollows⟩ | hregister
  · exact .inl ⟨g, rfl, ⟨hlink ▸ hlive.1, hlive.2⟩, hregister,
      fun cloud hcloud => hfollows cloud (hcloud.congr rfl rfl rfl rfl)⟩
  · exact .inr hregister

/-- The flag of the command parser plays no part. -/
theorem Leads.connected {before : Option Session} {r : Session × List CloudOutput}
    (h : Leads counter registers before (running r)) (connected : Bool) :
    Leads counter registers before (running ({ r.1 with connected := connected }, r.2)) := by
  obtain ⟨ms, hsent, hfits, heffect⟩ := h
  obtain ⟨hsound, hlive⟩ := heffect r.1 rfl
  refine ⟨ms, hsent, hfits, ?_⟩
  rintro _ ⟨⟩
  refine ⟨⟨hsound.known, hsound.client, hsound.flag⟩, fun hafter => ?_⟩
  rcases hlive hafter with ⟨g, hg, hbefore, hregister, hfollows⟩ |
    ⟨hregisters, ms', hms, hregister, hfollows⟩
  · exact .inl ⟨g, hg, hbefore, hregister, fun cloud hcloud =>
      (hfollows cloud hcloud).congr rfl rfl rfl rfl⟩
  · exact .inr ⟨hregisters, ms', hms, hregister,
      fun cloud => (hfollows cloud).congr rfl rfl rfl rfl⟩

/-- A registered gateway makes no attempt to connect. -/
theorem Sound.not_connecting (h : Sound g) (hreg : g.registered = true) :
    g.client.link ≠ .connecting := by
  intro hlink
  rcases h.flag hreg with hup | hposted
  · rw [hlink] at hup
    cases hup
  · rw [(h.client.of_posted_onDisconnect hposted).1] at hlink
    cases hlink

/-- A handler that the scheduler runs. -/
theorem leads_handle (env : Env) (accepts : ℕ → Bool) (setup : Setup) (subscribes : Bool)
    {handler : Handler}
    (hsound : Sound g) (hplain : PlainSession g) (hhandler : handler ≠ .onDisconnect)
    (hregisters : g.registersOn setup handler = true → registers) :
    Leads counter registers (some g) (g.handle env accepts setup subscribes handler) := by
  have hregister :
      registers → Leads counter registers (some g) (running (g.sendRegisterCmd env accepts)) :=
    leads_sendRegisterCmd env accepts hsound hplain
  cases handler with
  | onDisconnect => exact absurd rfl hhandler
  | onConnect =>
    rw [Session.handle, Session.onConnect]
    cases hreg : g.registered with
    | false => exact (hregister (hregisters (by rw [Session.registersOn, hreg]; rfl))).connected _
    | true =>
      have hquiet : Leads counter registers (some g) (running (g, [])) :=
        leads_quiet hsound id fun _ => id
      exact hquiet.connected _
  | parseCmd cmd =>
    rw [Session.handle, Session.parseCmd]
    cases htype : setup.commandType cmd with
    | none => exact leads_none _
    | some type =>
      dsimp only
      split
      · exact leads_allDevicesUpdate env accepts hsound hplain
      · split
        case isTrue hrequest =>
          exact hregister (hregisters
            (by rw [Session.registersOn, htype, hrequest]; exact decide_eq_true rfl))
        case isFalse => exact leads_quiet hsound id fun _ => id

/-- An event of the connection. -/
theorem leads_connection (env : Env) (accepts : ℕ → Bool) (setup : Setup) (subscribes : Bool)
    (e : ConnectionEvent) (hsound : Sound g) (hplain : PlainSession g)
    (hregisters : g.registers setup (.connection subscribes e) = true → registers) :
    Leads counter registers (some g) (g.connection env accepts setup subscribes e) := by
  have hclient := (AtlasMqttClient.step_spec hsound.client e).1
  by_cases hturn : e = .turn
  case neg =>
    rw [connection_of_ne_turn env accepts setup subscribes hturn]
    refine leads_quiet ⟨hsound.known, hclient,
      fun hreg => step_flag hsound.client hturn (hsound.flag hreg)⟩
      (fun hlive => ⟨?_, hlive.2⟩) fun _ hcloud => hcloud.congr rfl rfl rfl rfl
    exact (link_of_step_up hturn hlive.1).resolve_right (hsound.not_connecting hlive.2)
  case pos =>
    subst hturn
    rw [Session.connection]
    cases hposted : g.client.posted with
    | nil =>
      have hidle : g.client.step .turn = (g.client, []) := by
        simp only [AtlasMqttClient.step, hposted]
      rw [hidle]
      exact leads_quiet hsound id fun _ => id
    | cons handler posted =>
      have hturn : g.client.step .turn =
          ({ g.client with posted := posted }.finish handler, [.runs handler]) := by
        simp only [AtlasMqttClient.step, hposted]
      rw [hturn] at hclient ⊢
      by_cases hhandler : handler = .onDisconnect
      · subst hhandler
        have hoff : ∀ s : Session, s.onDisconnect.registered ≠ true := by
          simp [Session.onDisconnect]
        exact leads_of_not_live ⟨hsound.known, hclient, fun h => absurd h (hoff _)⟩ fun h =>
          hoff _ h.2
      · have hfinish : { g.client with posted := posted }.finish handler =
            { g.client with posted := posted } := by
          cases handler with
          | onDisconnect => exact absurd rfl hhandler
          | onConnect => rfl
          | parseCmd cmd => rfl
        rw [hfinish] at hclient ⊢
        have hflag : g.registered = true → g.client.link = .up ∨ .onDisconnect ∈ posted := by
          intro hreg
          refine (hsound.flag hreg).imp_right fun hmem => ?_
          rw [hposted] at hmem
          exact (List.mem_cons.mp hmem).resolve_left (Ne.symm hhandler)
        have hon : g.registersOn setup handler = true → registers := fun h =>
          hregisters (by rw [Session.registers, hposted]; exact h)
        refine Leads.of_client { g.client with posted := posted } ?_ rfl
        refine leads_handle env accepts setup subscribes ⟨hsound.known, hclient, hflag⟩
          ⟨hplain.devices, hplain.owner⟩ hhandler fun h => hon ?_
        cases handler <;> exact h

/-! ## All events -/

/-- Every event of the gateway. -/
theorem step_leads (setup : Setup) (outside : Outside) (before : Option Session) (e : Uplink.Event)
    (hsound : ∀ g, before = some g → Sound g) (hplain : ∀ g, before = some g → PlainSession g)
    (hplain' : ∀ g', (Uplink.step setup outside before e).1 = some g' → PlainSession g') :
    Leads counter (∃ g, before = some g ∧ g.registers setup e = true) before
      (Uplink.step setup outside before e) := by
  by_cases hstart : ∃ accepted ownerIdentity scores, e = .start accepted ownerIdentity scores
  · obtain ⟨accepted, ownerIdentity, scores, rfl⟩ := hstart
    have hstep : Uplink.step setup outside before (.start accepted ownerIdentity scores) =
        (some (.start accepted ownerIdentity scores), []) := by
      cases before <;> rfl
    rw [hstep]
    refine leads_of_not_live ⟨?_, AtlasMqttClient.wellFormed_initConnection accepted, nofun⟩ nofun
    rintro device ⟨⟩
  cases before with
  | none =>
    cases e with
    | start accepted ownerIdentity scores =>
      exact absurd ⟨accepted, ownerIdentity, scores, rfl⟩ hstart
    | _ => exact leads_none none
  | some g =>
    have hg := hsound g rfl
    have hp := hplain g rfl
    cases e with
    | start accepted ownerIdentity scores =>
      exact absurd ⟨accepted, ownerIdentity, scores, rfl⟩ hstart
    | connection subscribes e =>
      exact leads_connection outside.env outside.accepts setup subscribes e hg hp fun h =>
        ⟨g, rfl, h⟩
    | request resource pskIdentity reqPayload =>
      exact leads_request outside.env outside.accepts setup resource pskIdentity reqPayload hg hp
        hplain'
    | keepaliveAlarm => exact leads_keepaliveAlarm outside.env outside.accepts hg hp (hplain' _ rfl)
    | firewallStats clientId delta =>
      exact leads_updateFirewallStats outside.env outside.accepts clientId delta hg hp
        (hplain' _ rfl)
    | reputation netType identity score =>
      exact leads_syncReputation outside.accepts netType identity score hg (hplain' _ rfl)
    | claim ownerIdentity =>
      exact leads_claimGateway outside.accepts ownerIdentity hg (hplain' _ rfl)
    | cloudKeepalive =>
      show Leads counter _ (some g) (running (g.keepaliveAlarmCb outside.env outside.accepts))
      rw [Session.keepaliveAlarmCb]
      split
      · exact leads_sendRegisterCmd outside.env outside.accepts hg hp ⟨g, rfl, by assumption⟩
      · exact leads_sendKeepaliveCmd outside.accepts hg
    | syncAlarm => exact leads_syncAlarmCallback outside.env outside.accepts hg hp

end Atlas.Mirror
