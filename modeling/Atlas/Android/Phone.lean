import Atlas.Android.CommandWorker
import Atlas.Gateway.Base64

/-! # The owner's keys on the phone

A phone that claims a gateway draws a key for it and keeps it in the row of the gateway. The key
signs the owner's decisions on the commands of the gateway's clients. It exists in two places only,
in this row and in the gateway.

A gateway can be deleted from the phone, with its clients and their commands (`ON DELETE CASCADE`).
The gateway is not told.

Reference: `AtlasClaimViewModel.java`, `AtlasCommandListViewModel.java`,
`AtlasGatewayListViewModel.java`, `com.atlas.database.dao`.
-/

namespace Atlas.Android

open Cloud (AtlasOwnerCommandDto CharCase)
open Gateway (bytes)

/-! ## Base64 texts -/

/-- `Base64.getEncoder().encodeToString`. -/
def encodeToString (src : List UInt8) : String :=
  String.ofList ((Base64.encode src).map fun c => Char.ofNat c.toNat)

/-- The byte of a character in `ISO_8859_1`. -/
def isoByte (c : Char) : UInt8 := if c.toNat < 256 then c.toNat.toUInt8 else 63

/-- `Base64.getDecoder().decode`; `none` is an exception. -/
def decodeBase64 (src : String) : Option (List UInt8) := Base64.decode (src.toList.map isoByte)

/-- A byte that is the same as a character of a Java string, in both encodings. -/
structure SameByte (c : UInt8) : Prop where
  iso : isoByte (Char.ofNat c.toNat) = c
  utf8 : String.utf8EncodeChar (Char.ofNat c.toNat) = [c]
  ne_zero : c ≠ 0

theorem sameByte_toChar (d : Fin 64) : SameByte (Base64.toChar d) := by
  have h : ∀ d, isoByte (Char.ofNat (Base64.toChar d).toNat) = Base64.toChar d ∧
      String.utf8EncodeChar (Char.ofNat (Base64.toChar d).toNat) = [Base64.toChar d] ∧
        Base64.toChar d ≠ 0 := by decide
  exact ⟨(h d).1, (h d).2.1, (h d).2.2⟩

theorem sameByte_of_mem_encode {src : List UInt8} {c : UInt8} (h : c ∈ Base64.encode src) :
    SameByte c := by
  rcases List.mem_append.mp h with hdigit | hpad
  · obtain ⟨d, -, rfl⟩ := List.mem_map.mp hdigit
    exact sameByte_toChar d
  · rw [List.eq_of_mem_replicate hpad]
    exact ⟨by decide, by decide, by decide⟩

theorem decodeBase64_encodeToString (src : List UInt8) :
    decodeBase64 (encodeToString src) = some src := by
  have hiso : (encodeToString src).toList.map isoByte = Base64.encode src := by
    rw [encodeToString, String.toList_ofList, List.map_map]
    conv_rhs => rw [← List.map_id (Base64.encode src)]
    exact List.map_congr_left fun c hc => (sameByte_of_mem_encode hc).iso
  rw [decodeBase64, hiso, Base64.decode_encode]

theorem bytes_append (a b : String) : bytes (a ++ b) = bytes a ++ bytes b := by
  simp [bytes, String.toByteArray_append, ByteArray.data_append]

theorem bytes_ofList_sameByte {cs : List UInt8} (h : ∀ c ∈ cs, SameByte c) :
    bytes (String.ofList (cs.map fun c => Char.ofNat c.toNat)) = cs := by
  induction cs with
  | nil => rfl
  | cons c cs ih =>
    obtain ⟨hc, hcs⟩ := List.forall_mem_cons.mp h
    have hsplit : String.ofList ((c :: cs).map fun c => Char.ofNat c.toNat) =
        String.singleton (Char.ofNat c.toNat) ++
          String.ofList (cs.map fun c => Char.ofNat c.toNat) := by simp
    have hhead : bytes (String.singleton (Char.ofNat c.toNat)) = [c] := by
      simp [bytes, String.toByteArray_singleton, List.utf8Encode, hc.utf8]
    rw [hsplit, bytes_append, ih hcs, hhead]
    rfl

/-- On the way to the gateway a Base64 text keeps its characters. -/
theorem bytes_encodeToString (src : List UInt8) : bytes (encodeToString src) = Base64.encode src :=
  bytes_ofList_sameByte fun _ hc => sameByte_of_mem_encode hc

theorem zero_notMem_bytes_encodeToString (src : List UInt8) : 0 ∉ bytes (encodeToString src) := by
  rw [bytes_encodeToString]
  exact fun h => (sameByte_of_mem_encode h).ne_zero rfl

/-! ## Gateways, clients and commands -/

/-- The row of a gateway, with its alias and its key. -/
structure GatewayEntity extends AtlasGateway where
  gatewayAlias : String
  secretKey : String
deriving DecidableEq

/-- The unique index of a gateway. -/
def GatewayEntity.index (gateway : GatewayEntity) : String × String :=
  (gateway.identity, gateway.gatewayAlias)

/-- The owner's phone: the identity of the owner, which is the text of a UUID, and the database. -/
structure Phone where
  ownerID : String
  ownerID_ne : ownerID ≠ ""
  ownerID_nul : 0 ∉ bytes ownerID
  db : AtlasDatabase
  /-- The gateways with all their columns. -/
  entities : List GatewayEntity
  /-- The last key of a gateway. -/
  gatewaySeq : ℕ
  gateways_eq : db.gateways = entities.map (·.toAtlasGateway)
  index_nodup : (entities.map (·.index)).Nodup
  id_le : ∀ gateway ∈ entities, gateway.id ≤ gatewaySeq

/-- The tables with one more gateway. -/
def Tables.addGateway (t : Tables) (gateway : AtlasGateway) : Tables :=
  { t with gateways := t.gateways ++ [gateway] }

/-- The tables without a gateway, its clients and their commands. -/
def Tables.removeGateway (t : Tables) (id : ℕ) : Tables :=
  let clients := t.clients.filter (·.gatewayId ≠ id)
  { t with
    gateways := t.gateways.filter (·.id ≠ id)
    clients := clients
    commands := t.commands.filter fun command => (clients.map (·.id)).contains command.clientId }

/-- The tables without a command. -/
def Tables.removeCommand (t : Tables) (id : ℕ) : Tables :=
  { t with commands := t.commands.filter (·.id ≠ id) }

theorem Tables.Valid.addGateway {t : Tables} (h : t.Valid) {gateway : AtlasGateway}
    (hnew : ∀ g ∈ t.gateways, g.id ≠ gateway.id) : (t.addGateway gateway).Valid where
  gatewayId := List.nodup_map_concat h.gatewayId hnew
  clientId := h.clientId
  clientIdentity := h.clientIdentity
  clientGateway client hclient := by
    change _ ∈ (t.gateways ++ [gateway]).map _
    rw [List.map_append]
    exact List.mem_append_left _ (h.clientGateway client hclient)
  clientSeq := h.clientSeq
  commandId := h.commandId
  commandSeqNo := h.commandSeqNo
  commandClient := h.commandClient
  commandSeq := h.commandSeq

theorem Tables.Valid.removeGateway {t : Tables} (h : t.Valid) (id : ℕ) :
    (t.removeGateway id).Valid where
  gatewayId := h.gatewayId.sublist (List.filter_sublist.map _)
  clientId := h.clientId.sublist (List.filter_sublist.map _)
  clientIdentity := h.clientIdentity.sublist (List.filter_sublist.map _)
  clientGateway client hclient := by
    obtain ⟨hmem, hid⟩ := List.mem_filter.mp hclient
    obtain ⟨gateway, hgateway, heq⟩ := List.mem_map.mp (h.clientGateway client hmem)
    refine List.mem_map.mpr ⟨gateway, List.mem_filter.mpr ⟨hgateway, ?_⟩, heq⟩
    rw [heq]
    exact hid
  clientSeq client hclient := h.clientSeq client (List.mem_filter.mp hclient).1
  commandId := h.commandId.sublist (List.filter_sublist.map _)
  commandSeqNo := h.commandSeqNo.sublist (List.filter_sublist.map _)
  commandClient command hcommand := List.contains_iff_mem.mp (List.mem_filter.mp hcommand).2
  commandSeq command hcommand := h.commandSeq command (List.mem_filter.mp hcommand).1

theorem Tables.Valid.removeCommand {t : Tables} (h : t.Valid) (id : ℕ) :
    (t.removeCommand id).Valid where
  gatewayId := h.gatewayId
  clientId := h.clientId
  clientIdentity := h.clientIdentity
  clientGateway := h.clientGateway
  clientSeq := h.clientSeq
  commandId := h.commandId.sublist (List.filter_sublist.map _)
  commandSeqNo := h.commandSeqNo.sublist (List.filter_sublist.map _)
  commandClient command hcommand := h.commandClient command (List.mem_filter.mp hcommand).1
  commandSeq command hcommand := h.commandSeq command (List.mem_filter.mp hcommand).1

/-! ## The command worker keeps the gateways -/

section Worker

variable {cc : CharCase} {date : ℕ → String} {gateways : List AtlasGateway}

theorem updateClientCommands_gateways {gateway : AtlasGateway} (hgateway : gateway ∈ gateways)
    (values : List (List AtlasClientCommandsResp)) {db : AtlasDatabase}
    (hdb : db.gateways = gateways) :
    Outcome (fun db => db.gateways = gateways) (fun r => r.1.gateways = gateways)
      (updateClientCommands cc date gateway values db) := by
  refine Outcome.foldlM (I := fun _ (s : AtlasDatabase × Bool) => s.1.gateways = gateways) values
    hdb fun _ commands _ s _ hs => ?_
  refine Outcome.foldlM (I := fun _ (s : AtlasDatabase × Bool) => s.1.gateways = gateways) commands
    hs fun _ command _ s _ hs => ?_
  have hid : gateway.id ∈ s.1.gateways.map (·.id) := hs ▸ List.mem_map_of_mem hgateway
  refine ((updateClientCommand_outcome hid).mono fun r hr => ?_).mono_error fun db hdb => ?_
  · obtain ⟨db, clientId, hplaced, hrecorded⟩ := hr
    exact hrecorded.gateways.trans (hplaced.gateways.trans hs)
  · exact hdb.1 ▸ hs

theorem doWork_gateways (response : Option CommandList) (db : AtlasDatabase) :
    (doWork cc date response db).db.gateways = db.gateways := by
  rcases response with _ | _ | ⟨p, rest⟩
  · rfl
  · rfl
  · have hloop :
        Outcome (fun db' => db'.gateways = db.gateways) (fun r => r.1.gateways = db.gateways)
        (((p :: rest).map (·.1)).foldlM (updateGateway cc date ((p :: rest).map (·.2)))
          (db, false)) := by
      refine Outcome.foldlM (I := fun _ (s : AtlasDatabase × Bool) => s.1.gateways = db.gateways) _
        rfl fun _ identity _ s _ hs => ?_
      rw [updateGateway]
      cases hselect : s.1.selectGatewayByIdentity identity with
      | none => exact hs
      | some gateway =>
        have hgateway : gateway ∈ db.gateways := hs ▸ List.mem_of_find?_eq_some hselect
        exact (updateClientCommands_gateways hgateway _ hs).map fun _ hr => hr
    simp only [doWork]
    split
    case h_1 heq =>
      rw [heq] at hloop
      exact hloop
    case h_2 heq =>
      rw [heq] at hloop
      exact hloop

end Worker

/-! ## What the app does -/

namespace Phone

/-- `gatewayDao().selectByAlias`. -/
def selectByAlias (phone : Phone) (gatewayAlias : String) : Option GatewayEntity :=
  phone.entities.find? (·.gatewayAlias = gatewayAlias)

/-- `clientDao().selectGatewayByClientIdentity`: the client is unique, and so is the gateway of its
key. -/
def selectGatewayByClientIdentity (phone : Phone) (clientIdentity : String) :
    Option GatewayEntity :=
  (phone.db.selectClientByIdentity clientIdentity).bind fun client =>
    phone.entities.find? (·.id = client.gatewayId)

theorem nextId_ne (phone : Phone) : ∀ g ∈ phone.db.gateways, g.id ≠ phone.gatewaySeq + 1 := by
  intro g hg
  rw [phone.gateways_eq] at hg
  obtain ⟨entity, hentity, rfl⟩ := List.mem_map.mp hg
  exact Nat.ne_of_lt (Nat.lt_succ_of_le (phone.id_le entity hentity))

/-- The row of a gateway that is inserted next. -/
def nextEntity (phone : Phone) (identity gatewayAlias secretKey : String) : GatewayEntity :=
  ⟨⟨phone.gatewaySeq + 1, identity⟩, gatewayAlias, secretKey⟩

/-- The phone with one more gateway. -/
def addGateway (phone : Phone) (identity gatewayAlias secretKey : String)
    (h : (identity, gatewayAlias) ∉ phone.entities.map (·.index)) : Phone where
  ownerID := phone.ownerID
  ownerID_ne := phone.ownerID_ne
  ownerID_nul := phone.ownerID_nul
  db :=
    ⟨phone.db.addGateway ⟨phone.gatewaySeq + 1, identity⟩,
      phone.db.valid.addGateway phone.nextId_ne⟩
  entities := phone.entities ++ [phone.nextEntity identity gatewayAlias secretKey]
  gatewaySeq := phone.gatewaySeq + 1
  gateways_eq := by
    rw [List.map_append, ← phone.gateways_eq]
    rfl
  index_nodup := List.nodup_map_concat phone.index_nodup fun g hg heq =>
    h (List.mem_map.mpr ⟨g, hg, heq⟩)
  id_le := by
    rw [List.forall_mem_append, List.forall_mem_singleton]
    exact ⟨fun g hg => Nat.le_succ_of_le (phone.id_le g hg), Nat.le_refl _⟩

/-- `gatewayDao().insertGateway`, which throws if a gateway with this identity has this alias. -/
def insertGateway (phone : Phone) (identity gatewayAlias secretKey : String) : Option Phone :=
  if h : (identity, gatewayAlias) ∉ phone.entities.map (·.index) then
    some (phone.addGateway identity gatewayAlias secretKey h)
  else none

/-- `gatewayDao().deleteGateway`. -/
def deleteGateway (phone : Phone) (id : ℕ) : Phone where
  ownerID := phone.ownerID
  ownerID_ne := phone.ownerID_ne
  ownerID_nul := phone.ownerID_nul
  db := ⟨phone.db.removeGateway id, phone.db.valid.removeGateway id⟩
  entities := phone.entities.filter (·.id ≠ id)
  gatewaySeq := phone.gatewaySeq
  gateways_eq := by
    change phone.db.gateways.filter (·.id ≠ id) = _
    rw [phone.gateways_eq, List.filter_map]
    rfl
  index_nodup := phone.index_nodup.sublist (List.filter_sublist.map _)
  id_le gateway hgateway := phone.id_le gateway (List.mem_filter.mp hgateway).1

/-- `commandDao().deleteCommand`. -/
def deleteCommand (phone : Phone) (id : ℕ) : Phone :=
  { phone with db := ⟨phone.db.removeCommand id, phone.db.valid.removeCommand id⟩ }

/-- A run of the command worker. -/
def work (cc : CharCase) (date : ℕ → String) (response : Option CommandList) (phone : Phone) :
    Phone :=
  { phone with
    db := (doWork cc date response phone.db).db
    gateways_eq := (doWork_gateways response phone.db).trans phone.gateways_eq }

/-- A Java reference in a concatenation. -/
def concatenated : Option String → String
  | none => "null"
  | some s => s

/-- `getCommandSignature`: `none` if the key is empty, or not a Base64 text. -/
def getCommandSignature (computeHMAC : List UInt8 → List UInt8 → List UInt8)
    (gateway : GatewayEntity) (clientIdentity : String) (command : AtlasCommand) : Option String :=
  match decodeBase64 gateway.secretKey with
  | none => none
  | some [] => none
  | some (b :: gatewaySecretKey) =>
    let hmacPayload := gateway.identity ++ clientIdentity ++ concatenated command.type ++
      concatenated command.payload ++ toString command.seqNo
    some (encodeToString (computeHMAC (b :: gatewaySecretKey) (bytes hmacPayload)))

/-- The request of `sendOwnerCommandRequest`. -/
def ownerCommandReq (computeHMAC : List UInt8 → List UInt8 → List UInt8) (phone : Phone)
    (clientIdentity : String) (commandStatus : Bool) (command : AtlasCommand) :
    Option AtlasOwnerCommandDto := do
  let gateway ← phone.selectGatewayByClientIdentity clientIdentity
  let signature ← getCommandSignature computeHMAC gateway clientIdentity command
  return ⟨some gateway.identity, some clientIdentity, Int32.ofInt command.seqNo, commandStatus,
    some signature⟩

/-- `sendOwnerCommandRequest`; `successful` is the answer of the cloud to a request that is sent. A
command that has been decided is deleted. -/
def sendOwnerCommandRequest (computeHMAC : List UInt8 → List UInt8 → List UInt8)
    (successful : AtlasOwnerCommandDto → Bool) (clientIdentity : String) (commandStatus : Bool)
    (command : AtlasCommand) (phone : Phone) : Phone × Bool :=
  match ownerCommandReq computeHMAC phone clientIdentity commandStatus command with
  | none => (phone, false)
  | some req => if successful req then (phone.deleteCommand command.id, true) else (phone, false)

/-! ## The rows of the gateways -/

theorem mem_entities_insertGateway {phone phone' : Phone} {identity gatewayAlias secretKey : String}
    (h : phone.insertGateway identity gatewayAlias secretKey = some phone')
    {gateway : GatewayEntity} :
    gateway ∈ phone'.entities ↔
      gateway ∈ phone.entities ∨ gateway = phone.nextEntity identity gatewayAlias secretKey := by
  rw [insertGateway] at h
  split at h
  case isTrue hindex =>
    cases h
    rw [addGateway, List.mem_append, List.mem_singleton]
  case isFalse => cases h

theorem ownerID_insertGateway {phone phone' : Phone} {identity gatewayAlias secretKey : String}
    (h : phone.insertGateway identity gatewayAlias secretKey = some phone') :
    phone'.ownerID = phone.ownerID := by
  rw [insertGateway] at h
  split at h
  case isTrue => cases h; rfl
  case isFalse => cases h

theorem sendOwnerCommandRequest_entities (computeHMAC : List UInt8 → List UInt8 → List UInt8)
    (successful : AtlasOwnerCommandDto → Bool) (clientIdentity : String) (commandStatus : Bool)
    (command : AtlasCommand) (phone : Phone) :
    (phone.sendOwnerCommandRequest computeHMAC successful clientIdentity commandStatus
        command).1.entities = phone.entities ∧
      (phone.sendOwnerCommandRequest computeHMAC successful clientIdentity commandStatus
        command).1.ownerID = phone.ownerID := by
  rw [sendOwnerCommandRequest]
  split
  · exact ⟨rfl, rfl⟩
  · split <;> exact ⟨rfl, rfl⟩

/-- The gateway of a request is one of the phone's. -/
theorem mem_of_ownerCommandReq {computeHMAC : List UInt8 → List UInt8 → List UInt8} {phone : Phone}
    {clientIdentity : String} {commandStatus : Bool} {command : AtlasCommand}
    {req : AtlasOwnerCommandDto}
    (h : ownerCommandReq computeHMAC phone clientIdentity commandStatus command = some req) :
    ∃ gateway ∈ phone.entities, req.gatewayIdentity = some gateway.identity := by
  simp only [ownerCommandReq, Option.bind_eq_bind, Option.bind_eq_some_iff, Option.pure_def,
    Option.some.injEq] at h
  obtain ⟨gateway, hselect, signature, -, rfl⟩ := h
  obtain ⟨client, -, hfind⟩ := Option.bind_eq_some_iff.mp hselect
  exact ⟨gateway, List.mem_of_find?_eq_some hfind, rfl⟩

/-- The gateway of a client is found by the client's identity. -/
theorem selectGatewayByClientIdentity_of_stores {phone : Phone} {identity : String}
    {listed : AtlasClientCommandsResp} {row : AtlasCommand}
    (h : Stores phone.db identity listed row) :
    ∃ gateway ∈ phone.entities, gateway.identity = identity ∧
      phone.selectGatewayByClientIdentity listed.clientIdentity = some gateway := by
  obtain ⟨-, client, hclient, -, hidentity, g, hg, hid, rfl⟩ := h
  rw [phone.gateways_eq] at hg
  obtain ⟨gateway, hgateway, rfl⟩ := List.mem_map.mp hg
  have hids : (phone.entities.map (·.id)).Nodup := by
    have hnodup := phone.db.valid.gatewayId
    rwa [phone.gateways_eq, List.map_map] at hnodup
  have hselect : phone.db.selectClientByIdentity listed.clientIdentity = some client := by
    have hfind := List.find?_key_of_nodup phone.db.valid.clientIdentity hclient fun _ => true
    rw [← hidentity, AtlasDatabase.selectClientByIdentity]
    simpa using hfind
  have hfind : phone.entities.find? (·.id = client.gatewayId) = some gateway := by
    have hfind := List.find?_key_of_nodup hids hgateway fun _ => true
    rw [← hid]
    simpa using hfind
  refine ⟨gateway, hgateway, rfl, ?_⟩
  rw [selectGatewayByClientIdentity, hselect]
  exact hfind

end Phone

end Atlas.Android
