import Atlas.Cloud.Presence
import Atlas.Uplink.Reports

/-! # What the cloud reads of the gateway's messages

The texts the gateway publishes, as the cloud takes them: a registration and a keep-alive always, an
update of a device or of the owner when its values are plain strings.

Reference: `cloud/AtlasRegisterCloud.cpp`, `cloud/AtlasDeviceCloud.cpp`,
`AtlasGatewayServiceImpl.java` (`messageReceived`).
-/

namespace Atlas.Mirror

open Devices Json Replica Uplink
open Gateway (StdString bytes)
open Cloud.Presence

variable (reader : Reader) (gateway : AtlasGateway)

/-! ## Commands without a payload -/

theorem messageReceived_register :
    gateway.messageReceived reader registerMessage = gateway.registerNow reader.counter := by
  have hparse :
      parse registerMessage = some (.object [(typeField, .string (bytes registerType))]) := rfl
  rw [AtlasGateway.messageReceived,
    Reader.read_of_type hparse (by simp) (by decide) List.mem_cons_self]
  rfl

theorem messageReceived_keepalive :
    gateway.messageReceived reader keepaliveMessage = gateway.keepaliveNow reader.counter := by
  have hparse :
      parse keepaliveMessage = some (.object [(typeField, .string (bytes keepaliveType))]) := rfl
  rw [AtlasGateway.messageReceived,
    Reader.read_of_type hparse (by simp) (by decide) List.mem_cons_self]
  rfl

/-! ## Updates of a client -/

/-- The record of a client. -/
def record (gateway : AtlasGateway) (identity : StdString) : Option Record :=
  (gateway.clients identity).map (·.info)

/-- The document after an update of a client with these fields. -/
def tellClient (gateway : AtlasGateway) (identity : StdString)
    (fields : List (StdString × StdString)) : AtlasGateway :=
  match gateway.clients identity with
  | none => gateway.putClient identity
      ⟨some identity, some identity, write fields fun _ => none⟩
  | some client => gateway.putClient identity { client with info := write fields client.info }

theorem record_tellClient_self (gateway : AtlasGateway) (identity : StdString)
    (fields : List (StdString × StdString)) :
    record (tellClient gateway identity fields) identity =
      tellRecord (record gateway identity) fields := by
  rw [record, record, tellClient]
  cases gateway.clients identity <;> simp [AtlasGateway.putClient, tellRecord]

theorem record_tellClient_of_ne (gateway : AtlasGateway) {identity other : StdString}
    (h : other ≠ identity) (fields : List (StdString × StdString)) :
    record (tellClient gateway identity fields) other = record gateway other := by
  rw [record, record, tellClient]
  cases gateway.clients identity <;> simp [AtlasGateway.putClient, Function.update_of_ne h]

@[simp] theorem owner_tellClient (gateway : AtlasGateway) (identity : StdString)
    (fields : List (StdString × StdString)) :
    (tellClient gateway identity fields).owner = gateway.owner := by
  rw [tellClient]
  split <;> rfl

@[simp] theorem registered_tellClient (gateway : AtlasGateway) (identity : StdString)
    (fields : List (StdString × StdString)) :
    (tellClient gateway identity fields).registered = gateway.registered := by
  rw [tellClient]
  split <;> rfl

/-- The mapper sets the properties one after the other. -/
theorem foldl_set {fields : List (StdString × StdString)} (hkeys : ∀ f ∈ fields, f.1 ∈ infoKeys)
    (client : AtlasClient) :
    fields.foldl AtlasClient.set client = { client with info := write fields client.info } := by
  induction fields generalizing client with
  | nil => rfl
  | cons f fields ih =>
    obtain ⟨hkey, hkeys⟩ := List.forall_mem_cons.mp hkeys
    have hidentity : f.1 ≠ bytes "identity" := by
      rintro heq
      exact absurd (heq ▸ hkey) (by decide)
    have halias : f.1 ≠ bytes "alias" := by
      rintro heq
      exact absurd (heq ▸ hkey) (by decide)
    rw [List.foldl_cons, ih hkeys, AtlasClient.set, if_neg hidentity, if_neg halias]
    rfl

/-- Copying what was read over a client is writing the fields into it. -/
theorem updateInfo_write {fields : List (StdString × StdString)}
    (hkeys : ∀ f ∈ fields, f.1 ∈ infoKeys)
    (client clientInfo : AtlasClient) (hinfo : clientInfo.info = write fields fun _ => none) :
    client.updateInfo clientInfo = { client with info := write fields client.info } := by
  rw [AtlasClient.updateInfo, hinfo]
  congr 1
  funext key
  rw [write_eq_or fields client.info]
  split
  case isTrue => rfl
  case isFalse hkey =>
    have hnot : key ∉ fields.map Prod.fst := by
      rintro hmem
      obtain ⟨f, hf, rfl⟩ := List.mem_map.mp hmem
      exact hkey (List.contains_iff_mem.mpr (hkeys f hf))
    rw [write_of_notMem hnot, Option.none_or]

/-- The keys of a message are distinct. -/
theorem nodup_messageKeys (value value' : Value) :
    ([(typeField, value), (payloadField, value')].map Prod.fst).Nodup := by
  have hne : typeField ≠ payloadField := by decide
  simpa using hne

/-- An update that carries its fields changes the client as they say. -/
theorem messageReceived_update {identity jsonInfo : StdString}
    {fields : List (StdString × StdString)} (hnodup : (fields.map Prod.fst).Nodup)
    (hkeys : ∀ f ∈ fields, f.1 ∈ infoKeys) (h : Carries identity jsonInfo fields) :
    gateway.messageReceived reader (updateMessage identity jsonInfo) =
      tellClient gateway identity fields := by
  have hidentity : bytes "identity" ∉ fields.map Prod.fst := by
    intro hmem
    obtain ⟨f, hf, hname⟩ := List.mem_map.mp hmem
    exact absurd (hname ▸ hkeys f hf) (by decide)
  have hread : reader.read (updateMessage identity jsonInfo) =
      some (.clientInfoUpdate ⟨some identity, none, write fields fun _ => none⟩) := by
    have hclient := reader.readClient_payload _ _ ((bytes "identity", identity) :: fields) h
      (nodup_messageKeys _ _) (by simp [payloadField]) (List.nodup_cons.mpr ⟨hidentity, hnodup⟩) ?_
    · have htype : clientInfoUpdateType ∈ commandTypes := by decide
      rw [Reader.read_of_type h (nodup_messageKeys _ _) htype List.mem_cons_self, hclient,
        List.foldl_cons, foldl_set hkeys]
      rfl
    · rintro f hf
      rcases List.mem_cons.mp hf with rfl | hf
      · exact List.mem_cons_self
      · exact List.mem_cons_of_mem _ (List.mem_cons_of_mem _ (hkeys f hf))
  rw [AtlasGateway.messageReceived, hread]
  dsimp only [AtlasGateway.handle]
  rw [AtlasGateway.updateClientCommand, tellClient]
  dsimp only
  cases gateway.clients identity with
  | none => rfl
  | some client => exact congrArg (gateway.putClient identity) (updateInfo_write hkeys client _ rfl)

/-! ## Updates of the gateway -/

/-- The text of an update of the owner, up to its payload. -/
theorem gatewayUpdateMessage_ownerToJSON (owner : StdString) :
    gatewayUpdateMessage (ownerToJSON owner) =
      openBrace :: newline :: (jsonField typeField (bytes infoUpdateType) ++ comma :: newline ::
        quote :: (payloadField ++ quote :: colon :: space :: newline :: openBrace :: newline ::
          (jsonFields [(bytes "owner", owner)] ++
            newline :: closeBrace :: [newline, closeBrace]))) := by
  have hopen : bytes "\x7b\n" = [openBrace, newline] := rfl
  have hcomma : bytes "," = [comma] := rfl
  have hpayload : bytes "\n\"commandPayload\": \n" =
      newline :: quote :: (payloadField ++ [quote, colon, space, newline]) := rfl
  have hclose : bytes "\n\x7d\n\x7d" = [newline, closeBrace, newline, closeBrace] := rfl
  rw [jsonFields_singleton]
  simp only [gatewayUpdateMessage, ownerToJSON, typeField, infoUpdateType, hopen, hcomma, hpayload,
    hclose, List.append_assoc, List.cons_append, List.nil_append]

/-- A plain owner is read. -/
theorem parse_gatewayUpdateMessage {owner : StdString} (h : Plain owner) :
    parse (gatewayUpdateMessage (ownerToJSON owner)) =
      some (.object [(typeField, .string (bytes infoUpdateType)),
        (payloadField, .object (members [(bytes "owner", owner)]))]) := by
  have hplain : ∀ f ∈ [(bytes "owner", owner)], Plain f.1 ∧ Plain f.2 := by
    rintro f hf
    obtain rfl := List.mem_singleton.mp hf
    exact ⟨plain_of_all (s := bytes "owner") (by decide), h⟩
  have htype (n : ℕ) := member_jsonField_of_plain (typeField, bytes infoUpdateType) n
    (plain_of_all (by decide)) (plain_of_all (by decide))
  have hlength : ∀ x y : StdString, (newline :: (x ++ comma :: y)).length =
      x.length + y.length + 1 + 1 := by
    intro x y
    simp only [List.length_cons, List.length_append]
    omega
  -- the payload, with enough fuel left
  have hpayload (n : ℕ) : member (value (n + 2)) (newline :: quote :: (payloadField ++ quote ::
      colon :: space :: newline :: openBrace :: newline :: (jsonFields [(bytes "owner", owner)] ++
        newline :: closeBrace :: [newline, closeBrace]))) =
      some ((payloadField, .object (members [(bytes "owner", owner)])),
        [newline, closeBrace]) := by
    have hhead : (skip (newline :: (jsonFields [(bytes "owner", owner)] ++
        newline :: closeBrace :: [newline, closeBrace]))).head? ≠ some closeBrace := by
      rw [jsonFields_singleton, head?_skip_jsonField]
      decide
    rw [member_of_plain (plain_of_all (by decide)) rfl, value_of_openBrace (n + 1) rfl,
      list_of_head? hhead, items_jsonFields n (by simp) (fun f hf => (hplain f hf).1)
        (fun f hf => (hplain f hf).2) (by simp)]
    rfl
  rw [gatewayUpdateMessage_ownerToJSON, parse_eq_bind, List.length_cons, hlength,
    value_of_openBrace _ rfl, list_of_head? (by rw [head?_skip_jsonField]; decide), hlength,
    items_comma _ (by decide) (htype _ _) rfl, items_last _ (hpayload _) rfl]
  rfl

/-- An update of the owner sets the owner. -/
theorem messageReceived_owner {owner : StdString} (h : Plain owner) :
    gateway.messageReceived reader (gatewayUpdateMessage (ownerToJSON owner)) =
      { gateway with owner := some owner } := by
  have hparse := parse_gatewayUpdateMessage h
  have hread :
      reader.read (gatewayUpdateMessage (ownerToJSON owner)) = some (.infoUpdate (some owner)) := by
    rw [Reader.read_of_type hparse (nodup_messageKeys _ _) (by decide) List.mem_cons_self,
      if_pos rfl, reader.readGatewayInfo_payload _ _ owner hparse (nodup_messageKeys _ _)
        (by simp [payloadField])]
    rfl
  rw [AtlasGateway.messageReceived, hread]
  rfl

/-! ## Messages -/

/-- What the gateway tells the cloud. -/
inductive Message where
  | register
  | keepalive
  | update (identity : StdString) (fields : List (StdString × StdString))
  | owner (ownerIdentity : StdString)

namespace Message

/-- The text of a message. -/
def text : Message → StdString
  | register => registerMessage
  | keepalive => keepaliveMessage
  | update identity fields => updateMessage identity (jsonFields fields)
  | owner ownerIdentity => gatewayUpdateMessage (ownerToJSON ownerIdentity)

/-- The text carries the message: its values are plain, and its keys are those of a device. -/
def Fits : Message → Prop
  | register => True
  | keepalive => True
  | update identity fields =>
    Plain identity ∧ fields ≠ [] ∧ (fields.map Prod.fst).Nodup ∧
      ∀ f ∈ fields, f.1 ∈ deviceKeys true ∧ Plain f.2
  | owner ownerIdentity => Plain ownerIdentity

/-- What a message does to the document of the gateway. -/
def apply (counter : Int32) (gateway : AtlasGateway) : Message → AtlasGateway
  | register => gateway.registerNow counter
  | keepalive => gateway.keepaliveNow counter
  | update identity fields => tellClient gateway identity fields
  | owner ownerIdentity => { gateway with owner := some ownerIdentity }

theorem mem_infoKeys_of_mem_deviceKeys {key : StdString} (h : key ∈ deviceKeys true) :
    key ∈ infoKeys := by
  have hsub : ∀ key ∈ deviceKeys true, key ∈ infoKeys := by decide +kernel
  exact hsub key h

/-- The cloud takes a message for what it is. -/
theorem messageReceived_text {m : Message} (h : m.Fits) :
    gateway.messageReceived reader m.text = m.apply reader.counter gateway := by
  cases m with
  | register => exact messageReceived_register reader gateway
  | keepalive => exact messageReceived_keepalive reader gateway
  | owner ownerIdentity => exact messageReceived_owner reader gateway h
  | update identity fields =>
    obtain ⟨hidentity, hne, hnodup, hfields⟩ := h
    refine messageReceived_update reader gateway hnodup
      (fun f hf => mem_infoKeys_of_mem_deviceKeys (hfields f hf).1) ?_
    exact (carries_jsonFields_iff identity hne
      fun f hf => plain_of_mem_deviceKeys (hfields f hf).1).mpr
      ⟨hidentity, fun f hf => (hfields f hf).2⟩

end Message

/-- The document after these texts have arrived, one after the other. -/
def receiveAll (texts : List StdString) (gateway : AtlasGateway) : AtlasGateway :=
  texts.foldl (fun gateway text => gateway.messageReceived reader text) gateway

/-- The document after these messages. -/
def applyAll (counter : Int32) (ms : List Message) (gateway : AtlasGateway) : AtlasGateway :=
  ms.foldl (fun gateway m => m.apply counter gateway) gateway

variable {counter : Int32} {ms : List Message} {gateway : AtlasGateway}

theorem receiveAll_text (h : ∀ m ∈ ms, m.Fits) (gateway : AtlasGateway) :
    receiveAll reader (ms.map Message.text) gateway = applyAll reader.counter ms gateway := by
  induction ms generalizing gateway with
  | nil => rfl
  | cons m ms ih =>
    obtain ⟨hm, hms⟩ := List.forall_mem_cons.mp h
    exact (ih hms _).trans
      (congrArg (applyAll reader.counter ms) (Message.messageReceived_text reader gateway hm))

@[simp] theorem applyAll_nil (gateway : AtlasGateway) : applyAll counter [] gateway = gateway := rfl

@[simp] theorem applyAll_cons (m : Message) (ms : List Message) (gateway : AtlasGateway) :
    applyAll counter (m :: ms) gateway = applyAll counter ms (m.apply counter gateway) := rfl

theorem applyAll_append (ms ms' : List Message) (gateway : AtlasGateway) :
    applyAll counter (ms ++ ms') gateway = applyAll counter ms' (applyAll counter ms gateway) :=
  List.foldl_append

/-- Only a registration makes the gateway registered, and no message ends that. -/
theorem registered_applyAll (ms : List Message) (gateway : AtlasGateway) :
    (applyAll counter ms gateway).registered = true ↔ gateway.registered = true ∨
    .register ∈ ms := by
  induction ms generalizing gateway with
  | nil => simp
  | cons m ms ih =>
    rw [applyAll_cons, ih, List.mem_cons]
    cases m <;> simp [Message.apply, AtlasGateway.registerNow, AtlasGateway.keepaliveNow,
      AtlasGateway.clientsOffline]

end Atlas.Mirror
