import Atlas.Mirror.Wire
import Atlas.Lib.EventMachine

/-! # The cloud as a mirror of the gateway

The cloud keeps a document for each device of a gateway. The gateway sends every change of a device
at once, sends everything again after a message it could not publish, and after each registration;
on the way messages can be lost when the gateway loses its connection, and when the cloud is not
subscribed. Even so, when the gateway is connected and registered and has no sync scheduled, and the
cloud is subscribed and has the gateway as registered, then, as soon as the messages on the way have
arrived, the document of a registered device shows every field that the gateway has of it, apart
from the rate of the policy, no other client is shown as registered, and the owner is the owner. A
document may show more than that: fields of a policy that has ended with a registration stay in it.
Clients that are deleted in the web interface are left out. This module has the system and what a
change of the devices does to the document; the runs are the subject of `Atlas.Mirror.Consistency`.

Reference: `cloud/AtlasRegisterCloud.cpp`, `cloud/AtlasDeviceCloud.cpp`, `device/AtlasDevice.cpp`,
`AtlasGatewayServiceImpl.java`, `AtlasMqttServiceImpl.java`.
-/

namespace Atlas.Mirror

open Devices EventMachine Json Replica Uplink
open Gateway (StdString bytes)
open Cloud.Presence

/-! ## The system -/

/-- The gateway, the texts it published and the cloud has not received, whether the cloud is
subscribed to them, and the document of the gateway. -/
structure System where
  gateway : Option Session
  flight : List StdString
  subscribed : Bool
  cloud : AtlasGateway

/-- The connection of the gateway is up. -/
def isUp (gateway : Option Session) : Bool := gateway.any (·.client.link = .up)

/-- The texts that were published. -/
def sent (outputs : List CloudOutput) : List StdString :=
  outputs.filterMap fun
    | .tryPublishMessage cmd true => some cmd
    | _ => none

/-- What happens: an event of the gateway, with the number of texts that still arrive should it lose
its connection; a text arrives at the cloud, or is dropped by the broker; the cloud loses its
connection; or the keep-alive task runs, and a subscription it makes may fail. -/
inductive Event where
  | gateway (outside : Outside) (e : Uplink.Event) (kept : ℕ)
  | deliver
  | discard
  | cloudLost
  | keepaliveTask (shouldSubscribe subscribes : Bool)

/-- The request the cloud publishes for the gateway. -/
inductive Output where
  | registerRequest
deriving DecidableEq

/-- The system on an event. The broker delivers in order to a subscriber and drops the rest. -/
def step (setup : Setup) (reader : Reader) (s : System) : Event → System × List Output
  | .gateway outside e kept =>
    let (gateway, outputs) := Uplink.step setup outside s.gateway e
    let flight := if isUp s.gateway && !isUp gateway then s.flight.take kept else s.flight
    ({ s with gateway := gateway, flight := flight ++ sent outputs }, [])
  | .deliver =>
    match s.subscribed, s.flight with
    | true, text :: flight =>
      ({ s with flight := flight, cloud := s.cloud.messageReceived reader text }, [])
    | _, _ => (s, [])
  | .discard => if s.subscribed then (s, []) else ({ s with flight := s.flight.tail }, [])
  | .cloudLost => ({ s with subscribed := false }, [])
  | .keepaliveTask shouldSubscribe subscribes =>
    let cloud := s.cloud.keepaliveTask shouldSubscribe
    if s.cloud.inits shouldSubscribe then
      ({ s with
          cloud := cloud
          subscribed := subscribes || !shouldSubscribe && s.subscribed }, [.registerRequest])
    else ({ s with cloud := cloud }, [])

/-- Nothing has been sent, and the cloud is not subscribed. -/
def System.init (gateway : Option Session) (cloud : AtlasGateway) : System :=
  ⟨gateway, [], false, cloud⟩

/-! ## What the cloud shows -/

/-- The gateway is connected, and believes that it is registered. -/
def Live (g : Session) : Prop := g.client.link = .up ∧ g.registered = true

/-- The document agrees with the gateway: it shows the registered devices as they are, shows no
other client as registered, and has the owner. -/
structure Mirrors (g : Session) (cloud : AtlasGateway) : Prop where
  devices : ∀ identity, Told g.scores (record cloud identity) (g.manager.devices.find? identity)
  owner : cloud.owner = some g.ownerIdentity

/-- The document agrees with the gateway unless a sync is scheduled, and even then it does not show
a client as registered that the gateway does not have in memory. -/
structure Follows (g : Session) (cloud : AtlasGateway) : Prop where
  unknown : ∀ identity, g.manager.devices.find? identity = none → Offline (record cloud identity)
  mirrors : g.sync.syncScheduled = false → Mirrors g cloud

/-- All that the gateway has of its devices and its owner is plain text. -/
structure PlainSession (g : Session) : Prop where
  devices : ∀ device ∈ g.manager.devices.rows,
    Plain device.identity ∧ ∀ f ∈ device.fields g.scores.env, Plain f.2
  owner : Plain g.ownerIdentity

/-! ## Updates -/

section Updates

variable {counter : Int32} {cloud : AtlasGateway}

/-- An update of a device, with its fields. -/
abbrev Telling := StdString × List (StdString × StdString)

/-- The call of `updateDevice`. -/
def Telling.call (t : Telling) : Update := ⟨t.1, jsonFields t.2⟩

/-- The message. -/
def Telling.message (t : Telling) : Message := .update t.1 t.2

/-- What is told about one device. -/
def about (identity : StdString) (ts : List Telling) : List (List (StdString × StdString)) :=
  (ts.filter (·.1 = identity)).map (·.2)

theorem record_applyAll (ts : List Telling) (cloud : AtlasGateway) (identity : StdString) :
    record (applyAll counter (ts.map Telling.message) cloud) identity =
      (about identity ts).foldl tellRecord (record cloud identity) := by
  induction ts generalizing cloud with
  | nil => rfl
  | cons t ts ih =>
    rw [List.map_cons, applyAll_cons, ih]
    by_cases h : t.1 = identity
    · subst h
      simp [about, Telling.message, Message.apply, record_tellClient_self]
    · simp [about, h, Telling.message, Message.apply, record_tellClient_of_ne _ (Ne.symm h)]

theorem owner_applyAll (ts : List Telling) (cloud : AtlasGateway) :
    (applyAll counter (ts.map Telling.message) cloud).owner = cloud.owner := by
  induction ts generalizing cloud with
  | nil => rfl
  | cons t ts ih =>
    rw [List.map_cons, applyAll_cons, ih]
    exact owner_tellClient ..

theorem about_eq_nil {identity : StdString} {ts : List Telling} (h : ∀ t ∈ ts, t.1 ≠ identity) :
    about identity ts = [] := by
  rw [about, List.filter_eq_nil_iff.mpr fun t ht => by simpa using h t ht, List.map_nil]

@[simp] theorem sent_nil : sent [] = [] := rfl

@[simp] theorem sent_append (outputs outputs' : List CloudOutput) :
    sent (outputs ++ outputs') = sent outputs ++ sent outputs' := List.filterMap_append

theorem syncScheduled_schedule (sync : CloudSync) : sync.schedule.syncScheduled = true := by
  rw [CloudSync.schedule]
  cases h : sync.syncScheduled <;> simp

/-- The messages of a registered gateway: those that are delivered are sent, in their order, and a
sync is scheduled unless all of them are. -/
theorem allDevicesUpdate_sent (sync : CloudSync) (ts : List Telling) (delivered : ℕ → Bool) :
    ∃ ts', ts'.Sublist ts ∧
      sent (sync.allDevicesUpdate ((ts.map Telling.call).mapIdx
        fun i u => ⟨u.identity, u.jsonInfo, ⟨true, delivered i⟩⟩)).2 = ts'.map (·.message.text) ∧
      ((sync.allDevicesUpdate ((ts.map Telling.call).mapIdx
          fun i u => ⟨u.identity, u.jsonInfo, ⟨true, delivered i⟩⟩)).1.syncScheduled = false →
        ts' = ts ∧ sync.syncScheduled = false) := by
  induction ts generalizing sync delivered with
  | nil => exact ⟨[], .slnil, rfl, fun h => ⟨rfl, h⟩⟩
  | cons t ts ih =>
    rw [List.map_cons, List.mapIdx_cons]
    cases delivered 0 with
    | true =>
      obtain ⟨ts', hsub, hsent, hscheduled⟩ := ih sync fun i => delivered (i + 1)
      refine ⟨t :: ts', hsub.cons_cons t, congrArg (t.message.text :: ·) hsent, fun hfalse => ?_⟩
      obtain ⟨rfl, hbefore⟩ := hscheduled hfalse
      exact ⟨rfl, hbefore⟩
    | false =>
      obtain ⟨ts', hsub, hsent, hscheduled⟩ := ih sync.schedule fun i => delivered (i + 1)
      refine ⟨ts', hsub.cons t, hsent, fun hfalse => ?_⟩
      have hbefore := (hscheduled hfalse).2
      rw [syncScheduled_schedule] at hbefore
      cases hbefore

end Updates

/-! ## Changes of the devices -/

/-- The gateway goes from `g` to `g'`, and the updates tell all of it. -/
structure Evolves (g g' : Session) (ts : List Telling) : Prop where
  kept : ∀ identity, g'.manager.devices.find? identity = none →
    g.manager.devices.find? identity = none
  inMemory : ∀ t ∈ ts, g'.manager.devices.find? t.1 ≠ none
  fits : ∀ t ∈ ts, t.message.Fits
  told : ∀ identity record, Told g.scores record (g.manager.devices.find? identity) →
    Told g'.scores ((about identity ts).foldl tellRecord record) (g'.manager.devices.find? identity)
  owner : g'.ownerIdentity = g.ownerIdentity

section Evolves

variable {counter : Int32} {cloud : AtlasGateway} {g g' : Session} {ts ts' : List Telling}

/-- Updates for devices in memory say nothing about the others. -/
theorem record_of_unknown (hmem : ∀ t ∈ ts, g'.manager.devices.find? t.1 ≠ none)
    {identity : StdString} (h : g'.manager.devices.find? identity = none) :
    record (applyAll counter (ts.map Telling.message) cloud) identity = record cloud identity := by
  rw [record_applyAll, about_eq_nil, List.foldl_nil]
  rintro t ht rfl
  exact hmem t ht h

/-- The document still follows the gateway after a change whose updates were sent, or that has
scheduled a sync. -/
theorem Evolves.follows (h : Evolves g g' ts) (hsub : ts'.Sublist ts)
    (hscheduled : g'.sync.syncScheduled = false → ts' = ts ∧ g.sync.syncScheduled = false)
    (hcloud : Follows g cloud) : Follows g' (applyAll counter (ts'.map Telling.message) cloud) where
  unknown identity hnone := by
    rw [record_of_unknown (fun t ht => h.inMemory t (hsub.subset ht)) hnone]
    exact hcloud.unknown identity (h.kept identity hnone)
  mirrors hfalse := by
    obtain ⟨rfl, hbefore⟩ := hscheduled hfalse
    have hmirrors := hcloud.mirrors hbefore
    refine ⟨fun identity => ?_, ?_⟩
    · rw [record_applyAll]
      exact h.told identity _ (hmirrors.devices identity)
    · rw [owner_applyAll, hmirrors.owner, h.owner]

/-- All that is known of the devices in memory. -/
structure Snapshot (g : Session) (ts : List Telling) : Prop where
  inMemory : ∀ t ∈ ts, g.manager.devices.find? t.1 ≠ none
  fits : ∀ t ∈ ts, t.message.Fits
  told : ∀ identity device, g.manager.devices.find? identity = some device → ∀ record,
    Told g.scores ((about identity ts).foldl tellRecord record) (some device)

/-- A snapshot of all devices, some of whose updates were sent. -/
theorem Snapshot.unknown (h : Snapshot g ts) (hsub : ts'.Sublist ts)
    (hcloud : ∀ identity, g.manager.devices.find? identity = none → Offline (record cloud identity))
    (identity : StdString) (hnone : g.manager.devices.find? identity = none) :
    Offline (record (applyAll counter (ts'.map Telling.message) cloud) identity) := by
  rw [record_of_unknown (fun t ht => h.inMemory t (hsub.subset ht)) hnone]
  exact hcloud identity hnone

/-- A snapshot of all devices that was sent. -/
theorem Snapshot.devices (h : Snapshot g ts)
    (hcloud : ∀ identity, g.manager.devices.find? identity = none → Offline (record cloud identity))
    (identity : StdString) :
    Told g.scores (record (applyAll counter (ts.map Telling.message) cloud) identity)
      (g.manager.devices.find? identity) := by
  cases hfind : g.manager.devices.find? identity with
  | none => exact h.unknown (List.Sublist.refl ts) hcloud identity hfind
  | some device =>
    rw [record_applyAll]
    exact h.told identity device hfind _

/-! ### Scores -/

/-- What the cloud is told of a device depends on the scores of this device only. -/
theorem fields_congr {scores scores' : Scores} {device : AtlasDevice}
    (hsystem : scores.system device.identity = scores'.system device.identity)
    (htemperature : scores.temperature device.identity = scores'.temperature device.identity) :
    device.fields scores.env = device.fields scores'.env := by
  simp only [AtlasDevice.fields, Scores.env, hsystem, htemperature]

/-- New scores that agree with the old ones on a device in memory. -/
theorem told_of_agree {scores : Scores} {identity : StdString} {record : Option Record}
    (hagree : g.manager.devices.find? identity ≠ none →
      scores.system identity = g.scores.system identity ∧
        scores.temperature identity = g.scores.temperature identity)
    (h : Told g.scores record (g.manager.devices.find? identity)) :
    Told scores record (g.manager.devices.find? identity) := by
  cases hfind : g.manager.devices.find? identity with
  | none =>
    rw [hfind] at h
    exact h
  | some device =>
    have hidentity : device.identity = identity := (Table.find?_eq_some_iff.mp hfind).2
    rw [hfind] at h hagree
    obtain ⟨hsystem, htemperature⟩ := hagree nofun
    refine h.same rfl ?_
    rw [mirrored, mirrored, fields_congr (hidentity ▸ hsystem) (hidentity ▸ htemperature)]

/-- The scores of a device in memory are those of the gateway. -/
theorem envOf_known (env : Env) {identity : StdString}
    (h : g.manager.devices.find? identity ≠ none) :
    (g.envOf env).systemReputation identity = g.scores.system identity ∧
      (g.envOf env).temperatureReputation identity = g.scores.temperature identity := by
  have hsome : (g.manager.devices.find? identity).isSome = true := Option.isSome_iff_ne_none.mpr h
  simp [Session.envOf, hsome]

/-- A change of the device with this identity, and of no other. -/
theorem evolves_one {identity : StdString} {tellings : List (List (StdString × StdString))}
    (howner : g'.ownerIdentity = g.ownerIdentity)
    (hother : ∀ other, other ≠ identity →
      g'.manager.devices.find? other = g.manager.devices.find? other)
    (hscores : ∀ other, other ≠ identity → g.manager.devices.find? other ≠ none →
      g'.scores.system other = g.scores.system other ∧
        g'.scores.temperature other = g.scores.temperature other)
    (hkept : g'.manager.devices.find? identity = none →
      g.manager.devices.find? identity = none ∧ tellings = [])
    (hfits : ∀ fields ∈ tellings, (Message.update identity fields).Fits)
    (htold : ∀ record, Told g.scores record (g.manager.devices.find? identity) →
      Told g'.scores (tellings.foldl tellRecord record) (g'.manager.devices.find? identity)) :
    Evolves g g' (tellings.map (identity, ·)) where
  kept other hnone := by
    by_cases heq : other = identity
    · subst heq
      exact (hkept hnone).1
    · rw [← hother other heq]
      exact hnone
  inMemory t ht hnone := by
    obtain ⟨fields, hfields, rfl⟩ := List.mem_map.mp ht
    rw [(hkept hnone).2] at hfields
    cases hfields
  fits t ht := by
    obtain ⟨fields, hfields, rfl⟩ := List.mem_map.mp ht
    exact hfits fields hfields
  told other record hrecord := by
    by_cases heq : other = identity
    · subst heq
      have habout : about other (tellings.map (other, ·)) = tellings := by
        simp [about, List.filter_map, Function.comp_def]
      rw [habout]
      exact htold record hrecord
    · have habout : about other (tellings.map (identity, ·)) = [] := by
        refine about_eq_nil fun t ht => ?_
        obtain ⟨fields, -, rfl⟩ := List.mem_map.mp ht
        exact Ne.symm heq
      rw [habout, List.foldl_nil, hother other heq]
      exact told_of_agree (hscores other heq) hrecord
  owner := howner

/-! ### Operations -/

theorem fits_of_plain {identity : StdString} {fields : List (StdString × StdString)}
    (hidentity : Plain identity) (hkeys : fields ≠ [] ∧ (fields.map Prod.fst).Nodup ∧
      ∀ f ∈ fields, f.1 ∈ deviceKeys true)
    (hvalues : ∀ f ∈ fields, Plain f.2) : (Message.update identity fields).Fits :=
  ⟨hidentity, hkeys.1, hkeys.2.1, fun f hf => ⟨hkeys.2.2 f hf, hvalues f hf⟩⟩

theorem PlainSession.find? (h : PlainSession g) {identity : StdString} {device : AtlasDevice}
    (hfind : g.manager.devices.find? identity = some device) :
    Plain identity ∧ ∀ f ∈ device.fields g.scores.env, Plain f.2 := by
  obtain ⟨hmem, hidentity⟩ := Table.find?_eq_some_iff.mp hfind
  have hplain := h.devices device hmem
  exact ⟨hidentity ▸ hplain.1, hplain.2⟩

/-- A device that is read, or comes into memory, has a plain address. -/
theorem plain_ipPort (h : PlainSession g) {env : Env} {identity : StdString}
    {manager : AtlasDeviceManager} {device : AtlasDevice}
    (hget : g.manager.getDevice env identity = (manager, some device)) : Plain device.ipPort := by
  rw [AtlasDeviceManager.getDevice] at hget
  cases hfind : g.manager.devices.find? identity with
  | some found =>
    rw [hfind] at hget
    cases hget
    exact (h.find? hfind).2 (bytes "ipPort", device.ipPort) (by simp [AtlasDevice.fields])
  | none =>
    simp only [hfind] at hget
    split at hget <;> cases hget
    exact .nil

/-- The cloud is told of a device that is read, or comes into memory. -/
theorem told_getDevice {env : Env} {identity : StdString} {manager : AtlasDeviceManager}
    {device : AtlasDevice} {record : Option Record}
    (hget : g.manager.getDevice (g.envOf env) identity = (manager, some device))
    (h : Told g.scores record (g.manager.devices.find? identity)) :
    Told (scoresOf (g.envOf env)) record (some device) := by
  have hagree : Told (scoresOf (g.envOf env)) record (g.manager.devices.find? identity) :=
    told_of_agree (envOf_known env) h
  rw [AtlasDeviceManager.getDevice] at hget
  cases hfind : g.manager.devices.find? identity with
  | some found =>
    rw [hfind] at hget hagree
    cases hget
    exact hagree
  | none =>
    rw [hfind] at h
    simp only [hfind] at hget
    split at hget <;> cases hget
    exact h

/-- An operation on a device that is read, or comes into memory. -/
theorem evolves_getDevice {env : Env} {identity : StdString} {manager : AtlasDeviceManager}
    {device device' : AtlasDevice} {tellings : List (List (StdString × StdString))}
    (hget : g.manager.getDevice (g.envOf env) identity = (manager, some device))
    (hreports : Reports (scoresOf (g.envOf env)) (scoresOf (g.envOf env)) device device' tellings)
    (hmanager : g'.manager = manager.setDevice device')
    (hscores : g'.scores = scoresOf (g.envOf env))
    (howner : g'.ownerIdentity = g.ownerIdentity) (hplain : PlainSession g)
    (hplain' : PlainSession g') : Evolves g g' (tellings.map (identity, ·)) := by
  have hidentity : device'.identity = identity :=
    hreports.identity.trans (AtlasDeviceManager.identity_of_getDevice hget)
  have hself : g'.manager.devices.find? identity = some device' := by
    rw [hmanager, ← hidentity]
    exact Table.find?_save_self device' manager.devices
  have hother : ∀ other, other ≠ identity →
      g'.manager.devices.find? other = g.manager.devices.find? other := by
    intro other hne
    have hfind := AtlasDeviceManager.find?_getDevice_of_ne (g.envOf env) g.manager hne
    rw [hget] at hfind
    rw [hmanager, ← hfind]
    exact Table.find?_save_of_ne manager.devices (hidentity ▸ hne)
  refine evolves_one howner hother ?_ ?_ ?_ ?_
  · intro other _ hknown
    rw [hscores]
    exact envOf_known env hknown
  · rw [hself]
    exact nofun
  · intro fields hfields
    obtain ⟨hident, hvalues⟩ := hplain'.find? hself
    refine fits_of_plain hident (hreports.keys fields hfields) fun f hf => ?_
    rcases hreports.values fields hfields f hf with hf | rfl
    · exact hvalues f (hscores ▸ hf)
    · exact plain_ipPort hplain hget
  · intro record hrecord
    rw [hself, hscores]
    exact hreports.told record (told_getDevice hget hrecord)

/-- At most a device that is not registered comes into memory. -/
theorem evolves_refused {env : Env} {identity : StdString}
    (hmanager : g'.manager = g.manager ∨
      g'.manager = (g.manager.getDevice (g.envOf env) identity).1)
    (hscores : g'.scores = scoresOf (g.envOf env)) (howner : g'.ownerIdentity = g.ownerIdentity) :
    Evolves g g' [] := by
  have hother : ∀ other, other ≠ identity →
      g'.manager.devices.find? other = g.manager.devices.find? other := by
    intro other hne
    rcases hmanager with h | h <;> rw [h]
    exact AtlasDeviceManager.find?_getDevice_of_ne (g.envOf env) g.manager hne
  have hself : g'.manager.devices.find? identity = g.manager.devices.find? identity ∨
      g.manager.devices.find? identity = none ∧
        g'.manager.devices.find? identity = some (.new (g.envOf env) identity) := by
    rcases hmanager with h | h <;> rw [h]
    · exact .inl rfl
    · exact AtlasDeviceManager.find?_getDevice_self (g.envOf env) g.manager identity
  show Evolves g g' (([] : List (List (StdString × StdString))).map (identity, ·))
  refine evolves_one howner hother ?_ ?_ (by simp) ?_
  · intro other _ hknown
    rw [hscores]
    exact envOf_known env hknown
  · intro hnone
    rcases hself with hsame | ⟨hbefore, -⟩
    · exact ⟨hsame ▸ hnone, rfl⟩
    · exact ⟨hbefore, rfl⟩
  · intro record hrecord
    rcases hself with hsame | ⟨hbefore, hnew⟩
    · rw [hsame, hscores]
      exact told_of_agree (envOf_known env) hrecord
    · rw [hbefore] at hrecord
      rw [hnew]
      exact hrecord

end Evolves

end Atlas.Mirror
