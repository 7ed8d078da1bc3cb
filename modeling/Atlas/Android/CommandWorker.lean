import Atlas.Android.Database
import Atlas.Cloud.Documents
import Atlas.Lib.Outcome

/-! # Commands on the owner's phone

`AtlasCommandWorker` fetches the commands that wait for the owner's approval, by gateway, and stores
them with their clients in the database of the phone. For each gateway of the response it goes
through the commands of all gateways (`commandList.values()`), so that the first gateway gets every
client, and the others find nothing left to do. Commands are told apart by their sequence numbers,
which the cloud counts per gateway.

An exception ends the work and leaves the rows stored so far. The one that can come is a null
pointer: the alias of a client that is in the database already is compared without a check.

Reference: `com.atlas.worker.AtlasCommandWorker`.
-/

namespace Atlas.Android

open Cloud (CharCase equalsIgnoreCase)

/-- `AtlasClientCommandsResp`. The cloud sets the identity and the sequence number of every
command. -/
structure AtlasClientCommandsResp where
  clientIdentity : String
  clientAlias : Option String
  type : Option String
  payload : Option String
  seqNo : ℤ
deriving DecidableEq

/-- The body of the response: the commands of each gateway, in the order in which the map is
iterated. -/
abbrev CommandList := List (String × List AtlasClientCommandsResp)

inductive WorkResult where
  | success
  | retry
deriving DecidableEq

/-- What a run of the worker leaves behind: the database, the result, and whether it told the user
interface about a change and the owner about a new command. -/
structure Work where
  db : AtlasDatabase
  result : WorkResult
  broadcast : Bool
  notified : Bool

/-- The database at the time of an exception. -/
def orThrow {α : Type} (db : AtlasDatabase) : Option α → Except AtlasDatabase α
  | none => .error db
  | some a => .ok a

section Worker

-- `date n` is the clock when the table of the commands has `n` rows
variable (cc : CharCase) (date : ℕ → String)

/-- The row of a command's client, which is created if it does not exist. -/
def storeClient (gateway : AtlasGateway) (command : AtlasClientCommandsResp) (db : AtlasDatabase) :
    Except AtlasDatabase (AtlasDatabase × ℕ) :=
  match db.selectClientByIdentity command.clientIdentity with
  | none => orThrow db (db.insertClient command.clientIdentity command.clientAlias gateway.id)
  | some client =>
    match client.clientAlias with
    | none => .error db
    | some clientAlias =>
      if equalsIgnoreCase cc clientAlias command.clientAlias then .ok (db, client.id)
      else
        (orThrow db (db.updateClient { client with clientAlias := command.clientAlias })).map
          (·, client.id)

/-- The row of a command, which is created if its sequence number is new. -/
def storeCommand (clientId : ℕ) (command : AtlasClientCommandsResp) (newCommandAdded : Bool)
    (db : AtlasDatabase) : Except AtlasDatabase (AtlasDatabase × Bool) :=
  match db.selectCommandBySeqNo command.seqNo with
  | some _ => .ok (db, newCommandAdded)
  | none =>
    (orThrow db (db.insertCommand command.type command.payload command.seqNo
      (date db.commands.length) clientId)).map (·, true)

/-- The body of the loops in `updateClientCommands`. -/
def updateClientCommand (gateway : AtlasGateway) (s : AtlasDatabase × Bool)
    (command : AtlasClientCommandsResp) : Except AtlasDatabase (AtlasDatabase × Bool) :=
  (storeClient cc gateway command s.1).bind fun (db, clientId) =>
    storeCommand date clientId command s.2 db

/-- `updateClientCommands`. -/
def updateClientCommands (gateway : AtlasGateway)
    (clientCommands : List (List AtlasClientCommandsResp)) (db : AtlasDatabase) :
    Except AtlasDatabase (AtlasDatabase × Bool) :=
  clientCommands.foldlM (fun s commands => commands.foldlM (updateClientCommand cc date gateway) s)
    (db, false)

/-- The body of the loop in `doWork`. A gateway that is not in the database is skipped. -/
def updateGateway (values : List (List AtlasClientCommandsResp)) (s : AtlasDatabase × Bool)
    (gateway : String) : Except AtlasDatabase (AtlasDatabase × Bool) :=
  match s.1.selectGatewayByIdentity gateway with
  | none => .ok s
  | some gatewayEntity =>
    (updateClientCommands cc date gatewayEntity values s.1).map fun (db, newCommandAdded) =>
      (db, s.2 || newCommandAdded)

/-- `doWork`. The response is `none` when the cloud cannot be reached or does not answer with
success. -/
def doWork (response : Option CommandList) (db : AtlasDatabase) : Work :=
  match response with
  | none => ⟨db, .retry, false, false⟩
  | some [] => ⟨db, .success, false, false⟩
  | some commandList =>
    match (commandList.map (·.1)).foldlM (updateGateway cc date (commandList.map (·.2)))
      (db, false) with
    | .ok (db, newCommandAdded) => ⟨db, .success, true, newCommandAdded⟩
    | .error db => ⟨db, .retry, false, false⟩

end Worker

/-! ## Commands under their gateways -/

/-- The row holds this command. -/
def Carries (row : AtlasCommand) (command : AtlasClientCommandsResp) : Prop :=
  row.seqNo = command.seqNo ∧ row.type = command.type ∧ row.payload = command.payload

instance (row : AtlasCommand) (command : AtlasClientCommandsResp) :
    Decidable (Carries row command) :=
  inferInstanceAs (Decidable (_ ∧ _))

/-- The row holds this command, for a client with the command's client identity, under a gateway
with this identity. -/
def Stores (db : AtlasDatabase) (gateway : String) (command : AtlasClientCommandsResp)
    (row : AtlasCommand) : Prop :=
  Carries row command ∧ ∃ client ∈ db.clients, client.id = row.clientId ∧
    client.identity = command.clientIdentity ∧
      ∃ g ∈ db.gateways, g.id = client.gatewayId ∧ g.identity = gateway

instance (db : AtlasDatabase) (gateway : String) (command : AtlasClientCommandsResp)
    (row : AtlasCommand) : Decidable (Stores db gateway command row) :=
  inferInstanceAs (Decidable (_ ∧ _))

/-- Every listed command is stored exactly once, under the gateway it was listed under. -/
def ShownUnderOwnGateway (db : AtlasDatabase) (commandList : CommandList) : Prop :=
  ∀ p ∈ commandList, ∀ command ∈ p.2, db.commands.countP (Stores db p.1 command ·) = 1

instance (db : AtlasDatabase) (commandList : CommandList) :
    Decidable (ShownUnderOwnGateway db commandList) :=
  inferInstanceAs (Decidable (∀ p ∈ commandList, ∀ command ∈ p.2, _))

/-! ## One command -/

section Steps

variable {cc : CharCase} {date : ℕ → String} {gateway : AtlasGateway}
  {command : AtlasClientCommandsResp} {db db' : AtlasDatabase} {clientId : ℕ}

/-- The client of a command is in the database: it was there, with an alias, or it is new. -/
structure Placed (gateway : AtlasGateway) (command : AtlasClientCommandsResp)
    (db db' : AtlasDatabase) (clientId : ℕ) : Prop where
  gateways : db'.gateways = db.gateways
  commands : db'.commands = db.commands
  client : ∃ client ∈ db'.clients, client.id = clientId ∧
    client.identity = command.clientIdentity ∧
      (client.clientAlias = none ↔ command.clientAlias = none)
  others : ∀ row ∈ db'.clients, row.identity ≠ command.clientIdentity → row ∈ db.clients
  attachments :
    (∃ old ∈ db.clients, old.identity = command.clientIdentity ∧ old.clientAlias ≠ none) ∧
        db'.attachments = db.attachments ∨
      command.clientIdentity ∉ db.clients.map (·.identity) ∧
        db'.attachments = db.attachments ++ [⟨clientId, command.clientIdentity, gateway.id⟩]

theorem placed_of_new (hnew : db.selectClientByIdentity command.clientIdentity = none)
    (hgateways : db'.gateways = db.gateways) (hcommands : db'.commands = db.commands)
    (hclients : db'.clients = db.clients ++
      [⟨clientId, command.clientIdentity, command.clientAlias, gateway.id⟩]) :
    Placed gateway command db db' clientId := by
  refine ⟨hgateways, hcommands,
    ⟨⟨clientId, command.clientIdentity, command.clientAlias, gateway.id⟩, ?_, rfl, rfl, Iff.rfl⟩,
    ?_, .inr ⟨?_, ?_⟩⟩
  · rw [hclients]
    exact List.mem_append_right _ (List.mem_singleton_self _)
  · intro row hrow hne
    rw [hclients] at hrow
    rcases List.mem_append.mp hrow with hrow | hrow
    · exact hrow
    · rw [List.mem_singleton.mp hrow] at hne
      exact absurd rfl hne
  · intro hmem
    obtain ⟨client, hclient, hidentity⟩ := List.mem_map.mp hmem
    exact List.find?_eq_none.mp hnew client hclient (decide_eq_true hidentity)
  · rw [Tables.attachments, hclients, List.map_append]
    rfl

theorem placed_of_update {client : AtlasClient}
    (hclient : client ∈ db.clients) (hidentity : client.identity = command.clientIdentity)
    (hold : client.clientAlias ≠ none) (hgateways : db'.gateways = db.gateways)
    (hcommands : db'.commands = db.commands)
    (hclients : db'.clients = db.clients.map fun row =>
      if row.id = client.id then { row with clientAlias := command.clientAlias } else row) :
    Placed gateway command db db' client.id := by
  refine ⟨hgateways, hcommands,
    ⟨{ client with clientAlias := command.clientAlias }, ?_, rfl, hidentity, Iff.rfl⟩, ?_,
    .inl ⟨⟨client, hclient, hidentity, hold⟩, ?_⟩⟩
  · rw [hclients]
    exact List.mem_map.mpr ⟨client, hclient, if_pos rfl⟩
  · intro row hrow hne
    rw [hclients] at hrow
    obtain ⟨old, hmem, rfl⟩ := List.mem_map.mp hrow
    split at hne
    case isTrue hid =>
      rw [List.inj_on_of_nodup_map db.valid.clientId hmem hclient hid] at hne
      exact absurd hidentity hne
    case isFalse hid =>
      rw [if_neg hid]
      exact hmem
  · rw [Tables.attachments, Tables.attachments, hclients, List.map_map]
    refine List.map_congr_left fun row _ => ?_
    dsimp only [Function.comp]
    split <;> rfl

theorem Placed.mem_attachments (h : Placed gateway command db db' clientId) {a : Attachment}
    (ha : a ∈ db'.attachments) :
    a ∈ db.attachments ∨ a = ⟨clientId, command.clientIdentity, gateway.id⟩ := by
  rcases h.attachments with ⟨-, heq⟩ | ⟨-, heq⟩
  · exact .inl (heq ▸ ha)
  · rw [heq, List.mem_append, List.mem_singleton] at ha
    exact ha

theorem Placed.mem_of_mem (h : Placed gateway command db db' clientId) {a : Attachment}
    (ha : a ∈ db.attachments) : a ∈ db'.attachments := by
  rcases h.attachments with ⟨-, heq⟩ | ⟨-, heq⟩
  · exact heq ▸ ha
  · exact heq ▸ List.mem_append_left _ ha

theorem Placed.mem_identity (h : Placed gateway command db db' clientId) {identity : String} :
    identity ∈ db'.attachments.map (·.identity) ↔
      identity ∈ db.attachments.map (·.identity) ∨ identity = command.clientIdentity := by
  rcases h.attachments with ⟨⟨old, hold, hidentity, -⟩, heq⟩ | ⟨-, heq⟩
  · rw [heq]
    refine ⟨.inl, ?_⟩
    rintro (hmem | rfl)
    · exact hmem
    · rw [Tables.map_identity_attachments]
      exact List.mem_map.mpr ⟨old, hold, hidentity⟩
  · rw [heq, List.map_append, List.mem_append, List.map_singleton, List.mem_singleton]

/-- Only a null alias in the row of the client stops the work. -/
theorem storeClient_outcome (hgateway : gateway.id ∈ db.gateways.map (·.id)) :
    Outcome
      (fun db' => db' = db ∧
        ∃ client ∈ db.clients, client.identity = command.clientIdentity ∧ client.clientAlias = none)
      (fun r => Placed gateway command db r.1 r.2) (storeClient cc gateway command db) := by
  rw [storeClient]
  cases hselect : db.selectClientByIdentity command.clientIdentity with
  | none =>
    obtain ⟨db', hinsert, hgateways, hcommands, hclients⟩ :=
      AtlasDatabase.insertClient_of_new command.clientAlias hselect hgateway
    dsimp only
    rw [hinsert]
    exact placed_of_new hselect hgateways hcommands hclients
  | some client =>
    have hclient := List.mem_of_find?_eq_some hselect
    have hidentity : client.identity = command.clientIdentity := by
      simpa using List.find?_some hselect
    dsimp only
    cases hold : client.clientAlias with
    | none => exact ⟨rfl, client, hclient, hidentity, hold⟩
    | some clientAlias =>
      have hsome : client.clientAlias ≠ none := by simp [hold]
      dsimp only
      split
      case isTrue heq =>
        -- an alias that is equal up to case is not null either
        have halias : client.clientAlias = none ↔ command.clientAlias = none := by
          cases hc : command.clientAlias with
          | none =>
            rw [hc] at heq
            cases heq
          | some a => simp [hold]
        exact ⟨rfl, rfl, ⟨client, hclient, rfl, hidentity, halias⟩, fun row hrow _ => hrow,
          .inl ⟨⟨client, hclient, hidentity, hsome⟩, rfl⟩⟩
      case isFalse =>
        obtain ⟨db', hupdate, hgateways, hcommands, hclients⟩ :=
          AtlasDatabase.updateClient_of_mem hclient command.clientAlias
        rw [hupdate]
        exact placed_of_update hclient hidentity hsome hgateways hcommands hclients

/-- The sequence number of a command is in the database: it was there, or the command has a new
row. -/
structure Recorded (command : AtlasClientCommandsResp) (clientId : ℕ) (db db' : AtlasDatabase) :
    Prop where
  gateways : db'.gateways = db.gateways
  clients : db'.clients = db.clients
  commands :
    command.seqNo ∈ db.commands.map (·.seqNo) ∧ db'.commands = db.commands ∨
      command.seqNo ∉ db.commands.map (·.seqNo) ∧
        ∃ row, Carries row command ∧ row.clientId = clientId ∧ db'.commands = db.commands ++ [row]

theorem Recorded.mem_of_mem (h : Recorded command clientId db db') {row : AtlasCommand}
    (hrow : row ∈ db.commands) : row ∈ db'.commands := by
  rcases h.commands with ⟨-, heq⟩ | ⟨-, row', -, -, heq⟩
  · exact heq ▸ hrow
  · exact heq ▸ List.mem_append_left _ hrow

theorem Recorded.mem_seqNo (h : Recorded command clientId db db') {seqNo : ℤ} :
    seqNo ∈ db'.commands.map (·.seqNo) ↔
      seqNo ∈ db.commands.map (·.seqNo) ∨ seqNo = command.seqNo := by
  rcases h.commands with ⟨hold, heq⟩ | ⟨-, row, ⟨hseqNo, -⟩, -, heq⟩
  · rw [heq]
    refine ⟨.inl, ?_⟩
    rintro (hmem | rfl)
    · exact hmem
    · exact hold
  · rw [heq, List.map_append, List.mem_append, List.map_singleton, List.mem_singleton, hseqNo]

theorem Recorded.exists_row (h : Recorded command clientId db db')
    (hnew : command.seqNo ∉ db.commands.map (·.seqNo)) :
    ∃ row ∈ db'.commands, Carries row command ∧ row.clientId = clientId := by
  rcases h.commands with ⟨hold, -⟩ | ⟨-, row, hcarries, hid, heq⟩
  · exact absurd hold hnew
  · exact ⟨row, heq ▸ List.mem_append_right _ (List.mem_singleton_self row), hcarries, hid⟩

theorem storeCommand_outcome {E : AtlasDatabase → Prop} (hclient : clientId ∈ db.clients.map (·.id))
    (newCommandAdded : Bool) :
    Outcome E (fun r => Recorded command clientId db r.1)
      (storeCommand date clientId command newCommandAdded db) := by
  rw [storeCommand]
  cases hselect : db.selectCommandBySeqNo command.seqNo with
  | some row =>
    refine ⟨rfl, rfl, .inl ⟨List.mem_map.mpr ⟨row, List.mem_of_find?_eq_some hselect, ?_⟩, rfl⟩⟩
    simpa using List.find?_some hselect
  | none =>
    obtain ⟨db', hinsert, hgateways, hclients, hcommands⟩ := AtlasDatabase.insertCommand_of_new
      command.type command.payload (date db.commands.length) hselect hclient
    dsimp only
    rw [hinsert]
    refine ⟨hgateways, hclients, .inr ⟨fun hmem => ?_, _, ⟨rfl, rfl, rfl⟩, rfl, hcommands⟩⟩
    obtain ⟨row, hrow, hseqNo⟩ := List.mem_map.mp hmem
    exact List.find?_eq_none.mp hselect row hrow (decide_eq_true hseqNo)

/-- One command: its client is placed and the command recorded, unless the client has no alias. -/
theorem updateClientCommand_outcome {s : AtlasDatabase × Bool}
    (hgateway : gateway.id ∈ s.1.gateways.map (·.id)) :
    Outcome
      (fun db => db = s.1 ∧
        ∃ client ∈ s.1.clients, client.identity = command.clientIdentity ∧
          client.clientAlias = none)
      (fun r => ∃ db clientId, Placed gateway command s.1 db clientId ∧
        Recorded command clientId db r.1)
      (updateClientCommand cc date gateway s command) := by
  refine (storeClient_outcome hgateway).bind fun (db, clientId) hplaced => ?_
  obtain ⟨client, hclient, hid, -⟩ := hplaced.client
  refine (storeCommand_outcome (List.mem_map.mpr ⟨client, hclient, hid⟩) s.2).mono fun r hr => ?_
  exact ⟨db, clientId, hplaced, hr⟩

end Steps

/-! ## The first gateway

The first pass over the commands starts without clients, and gives all of them to its gateway. -/

section FirstPass

variable {cc : CharCase} {date : ℕ → String} {gateways : List AtlasGateway} {gateway : AtlasGateway}
  {done : List AtlasClientCommandsResp} {command : AtlasClientCommandsResp} {db db' : AtlasDatabase}

/-- The commands `done` have been processed for this gateway. -/
structure Processed (gateways : List AtlasGateway) (gateway : AtlasGateway)
    (done : List AtlasClientCommandsResp) (db : AtlasDatabase) : Prop where
  gateways : db.gateways = gateways
  gatewayId : ∀ a ∈ db.attachments, a.gatewayId = gateway.id
  identity : ∀ identity,
    identity ∈ db.attachments.map (·.identity) ↔ identity ∈ done.map (·.clientIdentity)
  seqNo : ∀ seqNo, seqNo ∈ db.commands.map (·.seqNo) ↔ seqNo ∈ done.map (·.seqNo)
  stored : (done.map (·.seqNo)).Nodup → ∀ command ∈ done, ∃ row ∈ db.commands,
    Carries row command ∧
      ∃ a ∈ db.attachments, a.id = row.clientId ∧ a.identity = command.clientIdentity

/-- The alias of a client is null after a command without alias. -/
def Aliased (done : List AtlasClientCommandsResp) (db : AtlasDatabase) : Prop :=
  ∀ client ∈ db.clients, client.clientAlias = none ↔
    ∃ command ∈ done, command.clientIdentity = client.identity ∧ command.clientAlias = none

/-- A command with an alias, unless the other one is for another client. -/
def Named (c d : AtlasClientCommandsResp) : Prop :=
  c.clientIdentity = d.clientIdentity → c.clientAlias ≠ none

instance (c d : AtlasClientCommandsResp) : Decidable (Named c d) :=
  inferInstanceAs (Decidable (_ → _))

theorem Processed.step (h : Processed gateways gateway done db) {db₁ : AtlasDatabase} {clientId : ℕ}
    (hplaced : Placed gateway command db db₁ clientId)
    (hrecorded : Recorded command clientId db₁ db') :
    Processed gateways gateway (done ++ [command]) db' := by
  have hattachments : db'.attachments = db₁.attachments := by
    rw [Tables.attachments, hrecorded.clients, Tables.attachments]
  refine ⟨?_, ?_, ?_, ?_, ?_⟩
  · rw [hrecorded.gateways, hplaced.gateways, h.gateways]
  · intro a ha
    rw [hattachments] at ha
    rcases hplaced.mem_attachments ha with ha | rfl
    · exact h.gatewayId a ha
    · rfl
  · intro identity
    rw [hattachments, hplaced.mem_identity, h.identity]
    simp
  · intro seqNo
    rw [hrecorded.mem_seqNo, hplaced.commands, h.seqNo]
    simp
  · intro hnodup c hc
    rw [List.map_append, List.nodup_append] at hnodup
    obtain ⟨hdone, -, hdisjoint⟩ := hnodup
    rw [hattachments]
    rcases List.mem_append.mp hc with hc | hc
    · obtain ⟨row, hrow, hcarries, a, ha, hid⟩ := h.stored hdone c hc
      rw [← hplaced.commands] at hrow
      exact ⟨row, hrecorded.mem_of_mem hrow, hcarries, a, hplaced.mem_of_mem ha, hid⟩
    · rw [List.mem_singleton] at hc
      subst hc
      have hnew : c.seqNo ∉ db₁.commands.map (·.seqNo) := by
        rw [hplaced.commands, h.seqNo]
        exact fun hmem => hdisjoint _ hmem _ (List.mem_singleton_self _) rfl
      obtain ⟨row, hrow, hcarries, hid⟩ := hrecorded.exists_row hnew
      obtain ⟨client, hclient, hclientId, hidentity, -⟩ := hplaced.client
      exact ⟨row, hrow, hcarries, client.attachment, List.mem_map_of_mem hclient,
        hclientId.trans hid.symm, hidentity⟩

/-- A client that gets a command without an exception had commands with an alias only. -/
theorem named_of_placed (h : Processed gateways gateway done db) (haliased : Aliased done db)
    {clientId : ℕ} (hplaced : Placed gateway command db db' clientId) :
    ∀ d ∈ done, Named d command := by
  intro d hd hidentity hnone
  rcases hplaced.attachments with ⟨⟨old, hold, hold', hsome⟩, -⟩ | ⟨hnew, -⟩
  · exact hsome ((haliased old hold).mpr ⟨d, hd, hidentity.trans hold'.symm, hnone⟩)
  · rw [← Tables.map_identity_attachments, h.identity, ← hidentity] at hnew
    exact hnew (List.mem_map_of_mem hd)

theorem Aliased.step (haliased : Aliased done db) (h : Processed gateways gateway done db)
    {clientId : ℕ} (hplaced : Placed gateway command db db' clientId) :
    Aliased (done ++ [command]) db' := by
  obtain ⟨client, hclient, -, hidentity, halias⟩ := hplaced.client
  intro row hrow
  simp only [List.mem_append, List.mem_singleton, or_and_right, exists_or, exists_eq_left]
  by_cases hown : row.identity = command.clientIdentity
  · have heq : row = client :=
      List.inj_on_of_nodup_map db'.valid.clientIdentity hrow hclient (hown.trans hidentity.symm)
    rw [heq, halias]
    constructor
    · intro hnone
      exact .inr ⟨hidentity.symm, hnone⟩
    · rintro (⟨d, hd, hdi, hnone⟩ | ⟨-, hnone⟩)
      · exact absurd hnone (named_of_placed h haliased hplaced d hd (hdi.trans hidentity))
      · exact hnone
  · rw [haliased row (hplaced.others row hrow hown)]
    constructor
    · exact .inl
    · rintro (hold | ⟨hdi, -⟩)
      · exact hold
      · exact absurd hdi.symm hown

/-- The commands up to one that follows a command of its client without an alias were processed. -/
def Stopped (gateways : List AtlasGateway) (gateway : AtlasGateway)
    (commands : List AtlasClientCommandsResp) (db : AtlasDatabase) : Prop :=
  ∃ done command rest, commands = done ++ command :: rest ∧ Processed gateways gateway done db ∧
    ∃ d ∈ done, ¬ Named d command

theorem processed_nil (hclients : db.clients = []) (hcommands : db.commands = []) :
    Processed db.gateways gateway [] db := by
  refine ⟨rfl, ?_, ?_, ?_, nofun⟩
  · simp [Tables.attachments, hclients]
  · simp [hclients]
  · simp [hcommands]

/-- The first pass processes all commands, or stops. -/
theorem firstPass_outcome (hgateway : gateway.id ∈ db.gateways.map (·.id))
    (hclients : db.clients = [])
    (hcommands : db.commands = []) (commands : List AtlasClientCommandsResp) :
    Outcome (Stopped db.gateways gateway commands)
      (fun r => Processed db.gateways gateway commands r.1 ∧ commands.Pairwise Named)
      (commands.foldlM (updateClientCommand cc date gateway) (db, false)) := by
  have hloop := Outcome.foldlM (E := Stopped db.gateways gateway commands)
    (f := updateClientCommand cc date gateway) (a := (db, false))
    (I := fun done s => Processed db.gateways gateway done s.1 ∧ Aliased done s.1 ∧
      done.Pairwise Named) commands ?_ ?_
  · exact hloop.mono fun r hr => ⟨hr.1, hr.2.2⟩
  · refine ⟨processed_nil hclients hcommands, ?_, .nil⟩
    rw [Aliased, hclients]
    exact nofun
  · rintro done command rest s hsplit ⟨hprocessed, haliased, hnamed⟩
    have hs : gateway.id ∈ s.1.gateways.map (·.id) := by rwa [hprocessed.gateways]
    refine ((updateClientCommand_outcome hs).mono_error ?_).mono ?_
    · rintro db' ⟨rfl, client, hclient, hidentity, hnone⟩
      obtain ⟨d, hd, hdi, hdnone⟩ := (haliased client hclient).mp hnone
      refine ⟨done, command, rest, hsplit, hprocessed, d, hd, fun h => ?_⟩
      exact h (hdi.trans hidentity) hdnone
    · rintro r ⟨db₁, clientId, hplaced, hrecorded⟩
      have hnew := haliased.step hprocessed hplaced
      refine ⟨hprocessed.step hplaced hrecorded, ?_, ?_⟩
      · rw [Aliased, hrecorded.clients]
        exact hnew
      · rw [List.pairwise_append]
        refine ⟨hnamed, List.pairwise_singleton .., fun d hd c hc => ?_⟩
        rw [List.mem_singleton.mp hc]
        exact named_of_placed hprocessed haliased hplaced d hd

end FirstPass

/-! ## The whole run

The passes of the other gateways find every client and every sequence number, and change at most an
alias. -/

section Run

variable {cc : CharCase} {date : ℕ → String} {gateways : List AtlasGateway}
  {gateway other : AtlasGateway} {commands : List AtlasClientCommandsResp} {db db' : AtlasDatabase}

theorem Processed.congr (h : Processed gateways gateway commands db)
    (hgateways : db'.gateways = db.gateways) (hattachments : db'.attachments = db.attachments)
    (hcommands : db'.commands = db.commands) : Processed gateways gateway commands db' where
  gateways := hgateways.trans h.gateways
  gatewayId := by rw [hattachments]; exact h.gatewayId
  identity := by rw [hattachments]; exact h.identity
  seqNo := by rw [hcommands]; exact h.seqNo
  stored := by rw [hattachments, hcommands]; exact h.stored

theorem laterPass_outcome {s : AtlasDatabase × Bool} (hother : other.id ∈ gateways.map (·.id))
    (h : Processed gateways gateway commands s.1) :
    Outcome (Processed gateways gateway commands)
      (fun r => Processed gateways gateway commands r.1)
      (commands.foldlM (updateClientCommand cc date other) s) := by
  refine Outcome.foldlM
    (I := fun _ (s : AtlasDatabase × Bool) => Processed gateways gateway commands s.1)
     commands h ?_
  intro done command rest s hsplit hs
  have hmem : command ∈ commands := by simp [hsplit]
  have hgateway : other.id ∈ s.1.gateways.map (·.id) := by rwa [hs.gateways]
  refine ((updateClientCommand_outcome hgateway).mono_error ?_).mono ?_
  · rintro db' ⟨rfl, -⟩
    exact hs
  · rintro r ⟨db₁, clientId, hplaced, hrecorded⟩
    have hknown : command.clientIdentity ∈ s.1.clients.map (·.identity) := by
      rw [← Tables.map_identity_attachments, hs.identity]
      exact List.mem_map_of_mem hmem
    have hseqNo : command.seqNo ∈ db₁.commands.map (·.seqNo) := by
      rw [hplaced.commands, hs.seqNo]
      exact List.mem_map_of_mem hmem
    refine hs.congr (hrecorded.gateways.trans hplaced.gateways) ?_ ?_
    · rw [Tables.attachments, hrecorded.clients]
      rcases hplaced.attachments with ⟨-, heq⟩ | ⟨hnew, -⟩
      · exact heq
      · exact absurd hknown hnew
    · rcases hrecorded.commands with ⟨-, heq⟩ | ⟨hnew, -⟩
      · rw [heq, hplaced.commands]
      · exact absurd hseqNo hnew

theorem updateClientCommands_eq (gateway : AtlasGateway)
    (clientCommands : List (List AtlasClientCommandsResp)) (db : AtlasDatabase) :
    updateClientCommands cc date gateway clientCommands db =
      clientCommands.flatten.foldlM (updateClientCommand cc date gateway) (db, false) :=
  (List.foldlM_flatten ..).symm

theorem laterGateways_outcome {values : List (List AtlasClientCommandsResp)}
    (identities : List String)
    {s : AtlasDatabase × Bool} (h : Processed gateways gateway values.flatten s.1) :
    Outcome (Processed gateways gateway values.flatten)
      (fun r => Processed gateways gateway values.flatten r.1)
      (identities.foldlM (updateGateway cc date values) s) := by
  refine Outcome.foldlM
    (I := fun _ (s : AtlasDatabase × Bool) => Processed gateways gateway values.flatten s.1)
    identities h ?_
  intro done identity rest s hsplit hs
  rw [updateGateway]
  split
  · exact hs
  · rename_i other hselect
    have hother : other.id ∈ gateways.map (·.id) := by
      rw [← hs.gateways]
      exact List.mem_map_of_mem (List.mem_of_find?_eq_some hselect)
    rw [updateClientCommands_eq]
    exact (laterPass_outcome (s := (s.1, false)) hother hs).map fun r hr => hr

/-- What a run comes to: the commands have been processed for the first gateway, or those before a
null alias. -/
def Worked (gateways : List AtlasGateway) (gateway : AtlasGateway)
    (commands : List AtlasClientCommandsResp) (db : AtlasDatabase) : Prop :=
  Stopped gateways gateway commands db ∨
    Processed gateways gateway commands db ∧ commands.Pairwise Named

theorem gateways_outcome (cc : CharCase) (date : ℕ → String) {identity : String}
    (identities : List String) (values : List (List AtlasClientCommandsResp))
    (hselect : db.selectGatewayByIdentity identity = some gateway) (hclients : db.clients = [])
    (hcommands : db.commands = []) :
    Outcome (Worked db.gateways gateway values.flatten)
      (fun r => Worked db.gateways gateway values.flatten r.1)
      ((identity :: identities).foldlM (updateGateway cc date values) (db, false)) := by
  have hgateway : gateway.id ∈ db.gateways.map (·.id) :=
    List.mem_map_of_mem (List.mem_of_find?_eq_some hselect)
  have hfirst : Outcome (Worked db.gateways gateway values.flatten)
      (fun r => Processed db.gateways gateway values.flatten r.1 ∧ values.flatten.Pairwise Named)
      (updateGateway cc date values (db, false) identity) := by
    rw [updateGateway]
    dsimp only
    rw [hselect]
    dsimp only
    rw [updateClientCommands_eq]
    refine ((firstPass_outcome hgateway hclients hcommands values.flatten).mono_error ?_).map ?_
    · exact fun _ => .inl
    · exact fun _ => id
  rw [List.foldlM_cons]
  refine hfirst.bind fun r ⟨hr, hnamed⟩ => ?_
  refine ((laterGateways_outcome identities hr).mono_error ?_).mono ?_
  · exact fun _ hdb => .inr ⟨hdb, hnamed⟩
  · exact fun _ hr' => .inr ⟨hr', hnamed⟩

theorem doWork_worked {p : String × List AtlasClientCommandsResp} {rest : CommandList}
    (hselect : db.selectGatewayByIdentity p.1 = some gateway) (hclients : db.clients = [])
    (hcommands : db.commands = []) :
    Worked db.gateways gateway ((p :: rest).flatMap (·.2))
      (doWork cc date (some (p :: rest)) db).db := by
  have h :=
    gateways_outcome cc date (rest.map (·.1)) ((p :: rest).map (·.2)) hselect hclients hcommands
  rw [← List.map_cons, ← List.flatMap_def] at h
  simp only [doWork]
  split
  · rename_i hx
    rw [hx] at h
    exact h
  · rename_i hx
    rw [hx] at h
    exact h

end Run

/-! ## Which commands are shown under their own gateway -/

/-- A response of the cloud for this phone: a map whose gateways are all known, with the clients of
different gateways and the sequence numbers of one gateway pairwise different. -/
structure Fits (db : AtlasDatabase) (commandList : CommandList) : Prop where
  keys : (commandList.map (·.1)).Nodup
  known : ∀ p ∈ commandList, (db.selectGatewayByIdentity p.1).isSome
  clients : commandList.Pairwise fun p q =>
    ∀ c ∈ p.2, ∀ d ∈ q.2, c.clientIdentity ≠ d.clientIdentity
  seqNos : ∀ p ∈ commandList, (p.2.map (·.seqNo)).Nodup

/-- The unique index lets no command be stored twice. -/
theorem countP_stores_le_one (db : AtlasDatabase) (gateway : String)
    (command : AtlasClientCommandsResp) : db.commands.countP (Stores db gateway command ·) ≤ 1 :=
  calc db.commands.countP (Stores db gateway command ·)
    _ ≤ db.commands.countP (·.seqNo == command.seqNo) := by
        refine List.countP_mono_left fun row _ hrow => ?_
        simpa using (of_decide_eq_true hrow).1.1
    _ = (db.commands.map (·.seqNo)).count command.seqNo := by
        rw [List.count, List.countP_map]
        rfl
    _ ≤ 1 := List.nodup_iff_count_le_one.mp db.valid.commandSeqNo _

theorem shownUnderOwnGateway_iff {db : AtlasDatabase} {commandList : CommandList} :
    ShownUnderOwnGateway db commandList ↔ ∀ p ∈ commandList, ∀ command ∈ p.2,
      ∃ row ∈ db.commands, Stores db p.1 command row := by
  refine forall₂_congr fun p _ => forall₂_congr fun command _ => ?_
  have hle := countP_stores_le_one db p.1 command
  have hpos := List.countP_pos_iff (p := (Stores db p.1 command ·)) (l := db.commands)
  simp only [decide_eq_true_eq] at hpos
  rw [← hpos]
  omega

section Shown

variable {cc : CharCase} {date : ℕ → String} {gateways : List AtlasGateway} {gateway : AtlasGateway}
  {commands : List AtlasClientCommandsResp} {command : AtlasClientCommandsResp} {db : AtlasDatabase}
  {identity : String}

/-- Whatever is stored is under the gateway of the first pass. -/
theorem Processed.identity_of_stores (h : Processed gateways gateway commands db)
    (hgateway : gateway ∈ gateways) {row : AtlasCommand} (hrow : Stores db identity command row) :
    gateway.identity = identity := by
  obtain ⟨-, client, hclient, -, -, g, hg, hid, rfl⟩ := hrow
  have hclientId : client.gatewayId = gateway.id :=
    h.gatewayId client.attachment (List.mem_map_of_mem hclient)
  rw [← h.gateways] at hgateway
  rw [List.inj_on_of_nodup_map db.valid.gatewayId hgateway hg (hclientId.symm.trans hid.symm)]

theorem Worked.identity_of_stores (h : Worked gateways gateway commands db)
    (hgateway : gateway ∈ gateways) {row : AtlasCommand} (hrow : Stores db identity command row) :
    gateway.identity = identity := by
  rcases h with ⟨_, _, _, _, hprocessed, _⟩ | ⟨hprocessed, _⟩
  · exact hprocessed.identity_of_stores hgateway hrow
  · exact hprocessed.identity_of_stores hgateway hrow

/-- The first pass stores its commands under its gateway. -/
theorem Processed.stores (h : Processed gateways gateway commands db)
    (hgateway : gateway ∈ gateways)
    (hnodup : (commands.map (·.seqNo)).Nodup) (hcommand : command ∈ commands) :
    ∃ row ∈ db.commands, Stores db gateway.identity command row := by
  obtain ⟨row, hrow, hcarries, a, ha, hid, hidentity⟩ := h.stored hnodup command hcommand
  have hgatewayId := h.gatewayId a ha
  obtain ⟨client, hclient, rfl⟩ := List.mem_map.mp ha
  exact ⟨row, hrow, hcarries, client, hclient, hid, hidentity, gateway, h.gateways ▸ hgateway,
    hgatewayId.symm, rfl⟩

/-- A run that stopped has not stored the command it stopped at. -/
theorem Stopped.exists_not_stored (h : Stopped gateways gateway commands db)
    (hnodup : (commands.map (·.seqNo)).Nodup) :
    ∃ command ∈ commands, ∀ row ∈ db.commands, ¬ Carries row command := by
  obtain ⟨done, command, rest, rfl, hprocessed, -⟩ := h
  refine ⟨command, List.mem_append_right _ List.mem_cons_self, fun row hrow hcarries => ?_⟩
  have hmem : command.seqNo ∈ done.map (·.seqNo) := by
    rw [← hprocessed.seqNo, ← hcarries.1]
    exact List.mem_map_of_mem hrow
  obtain ⟨d, hd, hseqNo⟩ := List.mem_map.mp hmem
  exact (List.key_ne_of_nodup hnodup).1 d hd hseqNo

theorem Stopped.not_pairwise (h : Stopped gateways gateway commands db) :
    ¬ commands.Pairwise Named := by
  obtain ⟨done, command, rest, rfl, -, d, hd, hnamed⟩ := h
  intro hpairwise
  exact hnamed ((List.pairwise_append.mp hpairwise).2.2 d hd command List.mem_cons_self)

theorem flatMap_of_tail {p : String × List AtlasClientCommandsResp} {rest : CommandList}
    (h : ∀ q ∈ rest, q.2 = []) : (p :: rest).flatMap (·.2) = p.2 := by
  rw [List.flatMap_cons, List.flatMap_eq_nil_iff.mpr h, List.append_nil]

/-- Commands of another gateway than the first one are not shown under it. -/
theorem Worked.tail_of_shown (h : Worked gateways gateway commands db)
    (hgateway : gateway ∈ gateways) {p : String × List AtlasClientCommandsResp} {rest : CommandList}
    (hidentity : gateway.identity = p.1) (hkeys : ((p :: rest).map (·.1)).Nodup)
    (hshown : ShownUnderOwnGateway db (p :: rest)) : ∀ q ∈ rest, q.2 = [] := by
  intro q hq
  rw [List.eq_nil_iff_forall_not_mem]
  intro command hcommand
  obtain ⟨row, -, hrow⟩ :=
    shownUnderOwnGateway_iff.mp hshown q (List.mem_cons_of_mem p hq) command hcommand
  rw [List.map_cons, List.nodup_cons] at hkeys
  have hfirst := h.identity_of_stores hgateway hrow
  exact hkeys.1 (List.mem_map.mpr ⟨q, hq, hfirst.symm.trans hidentity⟩)

/-- On a phone without clients and commands, a run of the worker shows every command under its own
gateway if and only if no gateway but the first one has commands, and of the commands of one client
only the last one may come without an alias. -/
theorem shown_under_own_gateway_iff {commandList : CommandList} (hfits : Fits db commandList)
    (hclients : db.clients = []) (hcommands : db.commands = []) :
    ShownUnderOwnGateway (doWork cc date (some commandList) db).db commandList ↔
      (∀ p ∈ commandList.tail, p.2 = []) ∧ (commandList.flatMap (·.2)).Pairwise Named := by
  cases commandList with
  | nil => exact ⟨fun _ => ⟨nofun, .nil⟩, fun _ => nofun⟩
  | cons p rest =>
    obtain ⟨gateway, hselect⟩ := Option.isSome_iff_exists.mp (hfits.known p List.mem_cons_self)
    have hgateway : gateway ∈ db.gateways := List.mem_of_find?_eq_some hselect
    have hidentity : gateway.identity = p.1 := by simpa using List.find?_some hselect
    have hworked : Worked db.gateways gateway ((p :: rest).flatMap (·.2))
      (doWork cc date (some (p :: rest)) db).db := doWork_worked hselect hclients hcommands
    rw [List.tail_cons]
    constructor
    · intro hshown
      have htail := hworked.tail_of_shown hgateway hidentity hfits.keys hshown
      refine ⟨htail, ?_⟩
      rcases hworked with hstopped | ⟨-, hnamed⟩
      · rw [flatMap_of_tail htail] at hstopped
        obtain ⟨command, hcommand, hnot⟩ :=
          hstopped.exists_not_stored (hfits.seqNos p List.mem_cons_self)
        obtain ⟨row, hrow, hstores⟩ :=
          shownUnderOwnGateway_iff.mp hshown p List.mem_cons_self command hcommand
        exact absurd hstores.1 (hnot row hrow)
      · exact hnamed
    · rintro ⟨htail, hnamed⟩
      rcases hworked with hstopped | ⟨hprocessed, -⟩
      · exact absurd hnamed hstopped.not_pairwise
      · rw [shownUnderOwnGateway_iff]
        rw [flatMap_of_tail htail] at hprocessed
        intro q hq command hcommand
        rcases List.mem_cons.mp hq with rfl | hq
        · rw [← hidentity]
          exact hprocessed.stores hgateway (hfits.seqNos q List.mem_cons_self) hcommand
        · rw [htail q hq] at hcommand
          cases hcommand

end Shown

/-- A phone that knows two gateways. -/
def twoGateways : AtlasDatabase := ⟨⟨[⟨1, "home"⟩, ⟨2, "garage"⟩], [], [], 0, 0⟩, by decide⟩

/-- Upper and lower case of the ASCII letters. -/
def asciiCase : CharCase := ⟨Char.toUpper, Char.toLower⟩

/-- Two commands for one client, while the other gateway has none. -/
def commandsAtHome : CommandList :=
  [("home", [⟨"lamp", some "Lamp", some "ATLAS_CMD_CLIENT_DEVICE_RESTART", some "", 0⟩,
      ⟨"lamp", some "Ceiling", some "ATLAS_CMD_CLIENT_DEVICE_SHUTDOWN", some "", 1⟩]),
    ("garage", [])]

theorem shown_commandsAtHome :
    Fits twoGateways commandsAtHome ∧
      ShownUnderOwnGateway (doWork asciiCase (fun _ => "") (some commandsAtHome) twoGateways).db
        commandsAtHome := by
  have hfits : Fits twoGateways commandsAtHome :=
    ⟨by decide, by decide, by decide, by decide⟩
  exact ⟨hfits, (shown_under_own_gateway_iff hfits rfl rfl).mpr ⟨by decide, by decide⟩⟩

/-- One command for a client of each gateway. -/
def commandsAtBoth : CommandList :=
  [("home", [⟨"lamp", some "Lamp", some "ATLAS_CMD_CLIENT_DEVICE_RESTART", some "", 0⟩]),
    ("garage", [⟨"door", some "Door", some "ATLAS_CMD_CLIENT_DEVICE_SHUTDOWN", some "", 0⟩])]

/-- Both clients come to the first gateway, and the command of the second one is not stored. -/
theorem door_shown_at_home :
    Fits twoGateways commandsAtBoth ∧
      (doWork asciiCase (fun _ => "") (some commandsAtBoth) twoGateways).db.attachments =
        [⟨1, "lamp", 1⟩, ⟨2, "door", 1⟩] ∧
      (doWork asciiCase (fun _ => "") (some commandsAtBoth) twoGateways).db.commands.map
        (fun command => (command.seqNo, command.clientId)) = [(0, 1)] ∧
      ¬ ShownUnderOwnGateway
        (doWork asciiCase (fun _ => "") (some commandsAtBoth) twoGateways).db commandsAtBoth :=
  ⟨⟨by decide, by decide, by decide, by decide⟩, by decide, by decide, by decide⟩

end Atlas.Android
