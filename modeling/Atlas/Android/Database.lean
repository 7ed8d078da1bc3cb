import Atlas.Lib.Lists
import Mathlib.Data.Int.Basic

/-! # The database of the owner's phone

The tables of the app, with the columns the command worker reads or writes, and the constraints
their entities declare: primary keys, unique indices and foreign keys. SQLite checks the constraints
with every statement. A statement that breaks one is an exception here (`none`), and a database
carries the proof that its constraints hold.

A gateway is unique in the pair of its identity and its alias only. The alias is left out, so two
rows may have one identity.

Reference: `com.atlas.model.database`, `com.atlas.database.dao`.
-/

namespace Atlas.Android

structure AtlasGateway where
  id : ℕ
  identity : String
deriving DecidableEq

structure AtlasClient where
  id : ℕ
  identity : String
  clientAlias : Option String
  gatewayId : ℕ
deriving DecidableEq

structure AtlasCommand where
  id : ℕ
  type : Option String
  payload : Option String
  seqNo : ℤ
  createTime : String
  clientId : ℕ
deriving DecidableEq

/-- What an update of a client keeps. -/
structure Attachment where
  id : ℕ
  identity : String
  gatewayId : ℕ
deriving DecidableEq

def AtlasClient.attachment (client : AtlasClient) : Attachment :=
  ⟨client.id, client.identity, client.gatewayId⟩

/-- The rows, and the last keys that `AUTOINCREMENT` gave. -/
structure Tables where
  gateways : List AtlasGateway
  clients : List AtlasClient
  commands : List AtlasCommand
  clientSeq : ℕ
  commandSeq : ℕ
deriving DecidableEq

/-- The constraints on the rows. -/
structure Tables.Valid (t : Tables) : Prop where
  gatewayId : (t.gateways.map (·.id)).Nodup
  clientId : (t.clients.map (·.id)).Nodup
  clientIdentity : (t.clients.map (·.identity)).Nodup
  clientGateway : ∀ client ∈ t.clients, client.gatewayId ∈ t.gateways.map (·.id)
  clientSeq : ∀ client ∈ t.clients, client.id ≤ t.clientSeq
  commandId : (t.commands.map (·.id)).Nodup
  commandSeqNo : (t.commands.map (·.seqNo)).Nodup
  commandClient : ∀ command ∈ t.commands, command.clientId ∈ t.clients.map (·.id)
  commandSeq : ∀ command ∈ t.commands, command.id ≤ t.commandSeq

instance (t : Tables) : Decidable t.Valid :=
  decidable_of_iff
    ((t.gateways.map (·.id)).Nodup ∧ (t.clients.map (·.id)).Nodup ∧
      (t.clients.map (·.identity)).Nodup ∧
      (∀ client ∈ t.clients, client.gatewayId ∈ t.gateways.map (·.id)) ∧
      (∀ client ∈ t.clients, client.id ≤ t.clientSeq) ∧ (t.commands.map (·.id)).Nodup ∧
      (t.commands.map (·.seqNo)).Nodup ∧
      (∀ command ∈ t.commands, command.clientId ∈ t.clients.map (·.id)) ∧
      ∀ command ∈ t.commands, command.id ≤ t.commandSeq)
    ⟨fun ⟨h₁, h₂, h₃, h₄, h₅, h₆, h₇, h₈, h₉⟩ => ⟨h₁, h₂, h₃, h₄, h₅, h₆, h₇, h₈, h₉⟩,
      fun ⟨h₁, h₂, h₃, h₄, h₅, h₆, h₇, h₈, h₉⟩ => ⟨h₁, h₂, h₃, h₄, h₅, h₆, h₇, h₈, h₉⟩⟩

/-- The clients with what an update keeps of them. -/
def Tables.attachments (t : Tables) : List Attachment := t.clients.map (·.attachment)

@[simp] theorem Tables.map_id_attachments (t : Tables) :
    t.attachments.map (·.id) = t.clients.map (·.id) := List.map_map ..

@[simp] theorem Tables.map_identity_attachments (t : Tables) :
    t.attachments.map (·.identity) = t.clients.map (·.identity) := List.map_map ..

theorem Tables.forall_mem_attachments {P : Attachment → Prop} {t : Tables} :
    (∀ a ∈ t.attachments, P a) ↔ ∀ client ∈ t.clients, P client.attachment := List.forall_mem_map

/-- The constraints look at the attachments of the clients only. -/
theorem Tables.Valid.of_attachments {t t' : Tables} (h : t.Valid)
    (hgateways : t'.gateways = t.gateways)
    (hclients : t'.attachments = t.attachments) (hseq : t'.clientSeq = t.clientSeq)
    (hcommands : t'.commands = t.commands) (hcommandSeq : t'.commandSeq = t.commandSeq) :
    t'.Valid where
  gatewayId := hgateways ▸ h.gatewayId
  clientId := by
    rw [← map_id_attachments, hclients, map_id_attachments]
    exact h.clientId
  clientIdentity := by
    rw [← map_identity_attachments, hclients, map_identity_attachments]
    exact h.clientIdentity
  clientGateway := by
    have hold := forall_mem_attachments (P := fun a => a.gatewayId ∈ t.gateways.map (·.id)).mpr
      h.clientGateway
    rw [← hclients, ← hgateways] at hold
    exact forall_mem_attachments.mp hold
  clientSeq := by
    have hold := forall_mem_attachments (P := fun a => a.id ≤ t.clientSeq).mpr h.clientSeq
    rw [← hclients, ← hseq] at hold
    exact forall_mem_attachments.mp hold
  commandId := hcommands ▸ h.commandId
  commandSeqNo := hcommands ▸ h.commandSeqNo
  commandClient := by
    rw [hcommands, ← map_id_attachments, hclients, map_id_attachments]
    exact h.commandClient
  commandSeq := by
    rw [hcommands, hcommandSeq]
    exact h.commandSeq

/-- `AtlasDatabase`. -/
structure AtlasDatabase extends Tables where
  valid : toTables.Valid

/-- The end of a statement: the new rows if they satisfy the constraints, an exception otherwise. -/
def commit (t : Tables) : Option AtlasDatabase := if h : t.Valid then some ⟨t, h⟩ else none

namespace AtlasDatabase

/-- `gatewayDao().selectByIdentity`: the first row found. -/
def selectGatewayByIdentity (db : AtlasDatabase) (identity : String) : Option AtlasGateway :=
  db.gateways.find? (·.identity = identity)

/-- `clientDao().selectByIdentity`. -/
def selectClientByIdentity (db : AtlasDatabase) (identity : String) : Option AtlasClient :=
  db.clients.find? (·.identity = identity)

/-- `commandDao().selectBySeqNo`. -/
def selectCommandBySeqNo (db : AtlasDatabase) (seqNo : ℤ) : Option AtlasCommand :=
  db.commands.find? (·.seqNo = seqNo)

/-- `clientDao().insertClient`, which returns the key of the new row. -/
def insertClient (db : AtlasDatabase) (identity : String) (clientAlias : Option String)
    (gatewayId : ℕ) : Option (AtlasDatabase × ℕ) :=
  (commit { db.toTables with
    clients := db.clients ++ [⟨db.clientSeq + 1, identity, clientAlias, gatewayId⟩]
    clientSeq := db.clientSeq + 1 }).map (·, db.clientSeq + 1)

/-- `clientDao().updateClient`: the row with the key of `client` becomes `client`. -/
def updateClient (db : AtlasDatabase) (client : AtlasClient) : Option AtlasDatabase :=
  commit { db.toTables with
    clients := db.clients.map fun row => if row.id = client.id then client else row }

/-- `commandDao().insertCommand`. -/
def insertCommand (db : AtlasDatabase) (type payload : Option String) (seqNo : ℤ)
    (createTime : String) (clientId : ℕ) : Option AtlasDatabase :=
  commit { db.toTables with
    commands := db.commands ++ [⟨db.commandSeq + 1, type, payload, seqNo, createTime, clientId⟩]
    commandSeq := db.commandSeq + 1 }

variable {db : AtlasDatabase}

/-- A new identity under a gateway of the database breaks no constraint. -/
theorem insertClient_of_new {identity : String} {gatewayId : ℕ} (clientAlias : Option String)
    (hnew : db.selectClientByIdentity identity = none)
    (hgateway : gatewayId ∈ db.gateways.map (·.id)) :
    ∃ db', db.insertClient identity clientAlias gatewayId = some (db', db.clientSeq + 1) ∧
      db'.gateways = db.gateways ∧ db'.commands = db.commands ∧
      db'.clients = db.clients ++ [⟨db.clientSeq + 1, identity, clientAlias, gatewayId⟩] := by
  have h := db.valid
  suffices hvalid : Tables.Valid { db.toTables with
      clients := db.clients ++ [⟨db.clientSeq + 1, identity, clientAlias, gatewayId⟩]
      clientSeq := db.clientSeq + 1 } from
    ⟨⟨_, hvalid⟩, by rw [insertClient, commit, dif_pos hvalid]; rfl, rfl, rfl, rfl⟩
  refine ⟨h.gatewayId, ?_, ?_, ?_, ?_, h.commandId, h.commandSeqNo, ?_, h.commandSeq⟩
  · refine List.nodup_map_concat h.clientId fun client hclient => ?_
    exact Nat.ne_of_lt (Nat.lt_succ_of_le (h.clientSeq client hclient))
  · refine List.nodup_map_concat h.clientIdentity fun client hclient hidentity => ?_
    exact List.find?_eq_none.mp hnew client hclient (decide_eq_true hidentity)
  · rw [List.forall_mem_append, List.forall_mem_singleton]
    exact ⟨h.clientGateway, hgateway⟩
  · rw [List.forall_mem_append, List.forall_mem_singleton]
    exact ⟨fun client hclient => Nat.le_succ_of_le (h.clientSeq client hclient), Nat.le_refl _⟩
  · intro command hcommand
    rw [List.map_append]
    exact List.mem_append_left _ (h.commandClient command hcommand)

/-- A change of the alias breaks no constraint, and changes no other row. -/
theorem updateClient_of_mem {client : AtlasClient} (hclient : client ∈ db.clients)
    (clientAlias : Option String) :
    ∃ db', db.updateClient { client with clientAlias := clientAlias } = some db' ∧
      db'.gateways = db.gateways ∧ db'.commands = db.commands ∧
      db'.clients = db.clients.map fun row =>
        if row.id = client.id then { row with clientAlias := clientAlias } else row := by
  have hrows : (db.clients.map fun row =>
        if row.id = client.id then { client with clientAlias := clientAlias } else row) =
      db.clients.map fun row =>
        if row.id = client.id then { row with clientAlias := clientAlias } else row := by
    refine List.map_congr_left fun row hrow => ?_
    split
    case isTrue hid => rw [List.inj_on_of_nodup_map db.valid.clientId hrow hclient hid]
    case isFalse => rfl
  suffices hvalid : Tables.Valid { db.toTables with
      clients := db.clients.map fun row =>
        if row.id = client.id then { row with clientAlias := clientAlias } else row } from
    ⟨⟨_, hvalid⟩, by rw [updateClient, commit, hrows, dif_pos hvalid], rfl, rfl, rfl⟩
  refine db.valid.of_attachments rfl ?_ rfl rfl rfl
  rw [Tables.attachments, Tables.attachments, List.map_map]
  refine List.map_congr_left fun row _ => ?_
  dsimp only [Function.comp]
  split <;> rfl

/-- A new sequence number of a client of the database breaks no constraint. -/
theorem insertCommand_of_new {seqNo : ℤ} {clientId : ℕ} (type payload : Option String)
    (createTime : String) (hnew : db.selectCommandBySeqNo seqNo = none)
    (hclient : clientId ∈ db.clients.map (·.id)) :
    ∃ db', db.insertCommand type payload seqNo createTime clientId = some db' ∧
      db'.gateways = db.gateways ∧ db'.clients = db.clients ∧
      db'.commands = db.commands ++
        [⟨db.commandSeq + 1, type, payload, seqNo, createTime, clientId⟩] := by
  have h := db.valid
  suffices hvalid : Tables.Valid { db.toTables with
      commands := db.commands ++
        [⟨db.commandSeq + 1, type, payload, seqNo, createTime, clientId⟩]
      commandSeq := db.commandSeq + 1 } from
    ⟨⟨_, hvalid⟩, by rw [insertCommand, commit, dif_pos hvalid], rfl, rfl, rfl⟩
  refine ⟨h.gatewayId, h.clientId, h.clientIdentity, h.clientGateway, h.clientSeq, ?_, ?_, ?_, ?_⟩
  · refine List.nodup_map_concat h.commandId fun command hcommand => ?_
    exact Nat.ne_of_lt (Nat.lt_succ_of_le (h.commandSeq command hcommand))
  · refine List.nodup_map_concat h.commandSeqNo fun command hcommand hseqNo => ?_
    exact List.find?_eq_none.mp hnew command hcommand (decide_eq_true hseqNo)
  · rw [List.forall_mem_append, List.forall_mem_singleton]
    exact ⟨h.commandClient, hclient⟩
  · rw [List.forall_mem_append, List.forall_mem_singleton]
    exact ⟨fun command hcommand => Nat.le_succ_of_le (h.commandSeq command hcommand), Nat.le_refl _⟩

end AtlasDatabase

end Atlas.Android
