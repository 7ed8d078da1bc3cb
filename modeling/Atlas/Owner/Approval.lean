import Atlas.Joint.Link
import Atlas.Owner.Claiming

/-! # From the owner's approval to the gateway

The owner approves a command that the phone shows. The phone signs it with the key of the gateway,
the cloud puts the signature into the command and queues it, and the gateway checks the signature
with its own key.

Three programs build the signed text and read the key and the signature: `java.util.Base64` on the
phone writes without line ends, and `base64::decode` of the gateway reads both forms; the fields are
concatenated from a database row, from a document and from JSON. `approval_accepted` says that they
fit together, for every row of the gateway on any phone after any run.

Reference: `AtlasCommandListViewModel.java`, `AtlasOwnerServiceImpl.java` (`setOwnerCommandStatus`),
`AtlasGatewayServiceImpl.java` (`sendApprovedCommandToClient`), `claim_approve/AtlasApprove.cpp`
(`validateCommandSignature`).
-/

namespace Atlas.Owner

open EventMachine
open Android (Phone GatewayEntity AtlasCommand AtlasClientCommandsResp Stores decodeBase64
  encodeToString bytes_append bytes_encodeToString decodeBase64_encodeToString)
open Cloud (AtlasClientCommandDto AtlasOwnerCommandDto CharCase equalsIgnoreCase
  equalsIgnoreCase_self setOwnerCommandStatus sendApprovedCommandToClient)
open Gateway (StdString bytes SignedCommand CommandPayload)
open Gateway.State (checkCommand validateCommandSignature)
open Joint (commandPayload)

/-! ## Texts -/

theorem bytes_eq_nil_iff {s : String} : bytes s = [] ↔ s = "" := by
  rw [bytes, Array.toList_eq_nil_iff]
  constructor
  · intro h
    exact String.toByteArray_inj.mp (ByteArray.ext h)
  · rintro rfl
    rfl

theorem toString_int_ne (i : ℤ) : toString i ≠ "" := by
  cases i with
  | ofNat n =>
    change Nat.repr n ≠ ""
    simp [Nat.repr]
  | negSucc n =>
    change "-" ++ Nat.repr (n + 1) ≠ ""
    simp

theorem encodeToString_ne {src : List UInt8} (h : src ≠ []) : encodeToString src ≠ "" := by
  intro hempty
  have hdecode := decodeBase64_encodeToString src
  rw [hempty] at hdecode
  exact h (Option.some.inj hdecode).symm

/-! ## The phone -/

/-- A command of the cloud as it is listed for the phone. -/
def listed (command : AtlasClientCommandDto) : AtlasClientCommandsResp :=
  ⟨command.clientIdentity, some command.clientAlias, some command.type.toString,
    some command.payload, command.seqNo.toInt⟩

/-- The fields of a command that are signed. -/
def signedFields (command : AtlasClientCommandDto) : SignedCommand :=
  ⟨bytes command.clientIdentity, bytes command.type.toString, bytes command.payload,
    bytes (toString command.seqNo.toInt)⟩

/-- The decision of a phone that has the key of the gateway. -/
def decision (setup : Setup) (key : List UInt8) (command : AtlasClientCommandDto)
    (approved : Bool) : AtlasOwnerCommandDto :=
  ⟨some setup.gatewayIdentity, some command.clientIdentity, command.seqNo, approved,
    some (encodeToString (setup.computeHMAC key
      ((signedFields command).hmacPayload (bytes setup.gatewayIdentity))))⟩

/-- A phone that shows the command under its gateway sends the decision. -/
theorem ownerCommandReq_of_stores {setup : Setup} {phone : Phone} {command : AtlasClientCommandDto}
    {row : AtlasCommand} (hstores : Stores phone.db setup.gatewayIdentity (listed command) row)
    {key : List UInt8} (hkey : key ≠ [])
    (hrows : ∀ g ∈ phone.entities, g.identity = setup.gatewayIdentity →
      g.secretKey = encodeToString key)
    (approved : Bool) :
    phone.ownerCommandReq setup.computeHMAC command.clientIdentity approved row =
      some (decision setup key command approved) := by
  obtain ⟨hseqNo, htype, hpayload⟩ := hstores.1
  obtain ⟨g, hg, hidentity, hselect⟩ := Phone.selectGatewayByClientIdentity_of_stores hstores
  have hselect' : phone.selectGatewayByClientIdentity command.clientIdentity = some g := hselect
  obtain ⟨b, rest, rfl⟩ := List.exists_cons_of_ne_nil hkey
  have htext : bytes (g.identity ++ command.clientIdentity ++ Phone.concatenated row.type ++
      Phone.concatenated row.payload ++ toString row.seqNo) =
        (signedFields command).hmacPayload (bytes setup.gatewayIdentity) := by
    rw [hseqNo, htype, hpayload, hidentity]
    simp only [bytes_append, listed, Phone.concatenated, SignedCommand.hmacPayload, signedFields]
  have hsignature : Phone.getCommandSignature setup.computeHMAC g command.clientIdentity row =
      some (encodeToString (setup.computeHMAC (b :: rest)
        ((signedFields command).hmacPayload (bytes setup.gatewayIdentity)))) := by
    rw [Phone.getCommandSignature, hrows g hg hidentity, decodeBase64_encodeToString]
    dsimp only
    rw [htext]
  have hnumber : Int32.ofInt row.seqNo = command.seqNo := by
    rw [hseqNo]
    exact Int32.ofInt_toInt _
  simp only [Phone.ownerCommandReq, hselect', hsignature, hnumber, hidentity, decision,
    Option.bind_eq_bind, Option.bind_some, Option.pure_def]

/-! ## The cloud -/

/-- The command is the next one that waits for this owner's decision at the cloud. -/
structure Awaits (gatewayIdentity ownerID : String) (command : AtlasClientCommandDto)
    (cloud : Cloud.State) : Prop where
  gateway_ne : gatewayIdentity ≠ ""
  client_ne : command.clientIdentity ≠ ""
  owner : ∃ owner commands, cloud.owners.find? ownerID = some owner ∧
    owner.ownerCommands gatewayIdentity = some (command :: commands)
  document : ∃ gateway client, cloud.gateways.find? gatewayIdentity = some gateway ∧
    gateway.clients command.clientIdentity = some client

/-- The pending commands of a gateway at the cloud. -/
def pending (gatewayIdentity : String) (cloud : Cloud.State) : List AtlasClientCommandDto :=
  match cloud.gateways.find? gatewayIdentity with
  | none => []
  | some gateway => gateway.gatewayPendingCmds

theorem pending_sendApprovedCommandToClient {gatewayIdentity : String}
    (command : AtlasClientCommandDto)
    {cloud : Cloud.State} (hne : gatewayIdentity ≠ "") {gateway : Cloud.AtlasGateway}
    {client : Cloud.AtlasClient} (hgateway : cloud.gateways.find? gatewayIdentity = some gateway)
    (hclient : gateway.clients command.clientIdentity = some client) :
    (sendApprovedCommandToClient gatewayIdentity command cloud).result = true ∧
      pending gatewayIdentity (sendApprovedCommandToClient gatewayIdentity command cloud).state =
        pending gatewayIdentity cloud ++ [command] := by
  obtain rfl := Table.key_of_find? hgateway
  simp only [sendApprovedCommandToClient, Cloud.synchronized, if_neg hne, hgateway, hclient,
    true_and]
  rw [pending, pending, hgateway]
  have hsaved := Table.find?_save_self ((gateway.setTransmitted command.clientIdentity client
    (Cloud.setStateFirst command.seqNo .deliveringToGateway client.transmittedCommands)).addPending
      command) cloud.gateways
  have hfind : (cloud.saveGateway ((gateway.setTransmitted command.clientIdentity client
      (Cloud.setStateFirst command.seqNo .deliveringToGateway
        client.transmittedCommands)).addPending
        command)).gateways.find? gateway.identity = some _ := hsaved
  rw [hfind]
  rfl

/-- An approval queues the command with the signature. -/
theorem setOwnerCommandStatus_approve {gatewayIdentity ownerID : String}
    {command : AtlasClientCommandDto}
    {cloud : Cloud.State} (h : Awaits gatewayIdentity ownerID command cloud) (hid : ownerID ≠ "")
    (cfg : Cloud.Config) {signature : String} (hsignature : signature ≠ "") :
    (setOwnerCommandStatus cfg ownerID ⟨some gatewayIdentity, some command.clientIdentity,
        command.seqNo, true, some signature⟩ cloud).result = true ∧
      pending gatewayIdentity (setOwnerCommandStatus cfg ownerID ⟨some gatewayIdentity,
          some command.clientIdentity, command.seqNo, true, some signature⟩ cloud).state =
        pending gatewayIdentity cloud ++ [{ command with signature := some signature }] := by
  obtain ⟨owner, commands, howner, hhead⟩ := h.owner
  obtain ⟨gateway, client, hgateway, hclient⟩ := h.document
  have hlt : ¬ command.seqNo < command.seqNo := Int32.lt_irrefl
  obtain ⟨hresult, hpending⟩ := pending_sendApprovedCommandToClient
    { command with signature := some signature } h.gateway_ne hgateway hclient
  simp only [setOwnerCommandStatus, Cloud.synchronized, if_neg hid, howner, hhead, if_neg hlt,
    ne_eq, not_true_eq_false, if_false, equalsIgnoreCase_self, Bool.not_true, Bool.false_eq_true,
    Cloud.applyDecision, if_true, Option.getD_some, if_neg hsignature, hresult]
  exact ⟨trivial, hpending⟩

/-! ## The gateway -/

/-- The gateway accepts the approved command, with the same key. -/
theorem checkCommand_decision {setup : Setup} {key : List UInt8} {command : AtlasClientCommandDto}
    (hclient : command.clientIdentity ≠ "") {g : Gateway.State}
    (hidentity : g.identity = bytes setup.gatewayIdentity) (hclaimed : g.claimed = true)
    (hkey : g.ownerSecretKey = bytes (encodeToString key)) :
    checkCommand (Gateway.base64.boostCrypto setup.computeHMAC) g
        (commandPayload setup.json
          { command with signature := (decision setup key command true).signature }) =
      .ok (some (bytes command.clientIdentity, bytes command.type.toString)) := by
  have hfields : (commandPayload setup.json
      { command with signature := (decision setup key command true).signature }).signed =
        some (signedFields command) := by
    simp only [CommandPayload.signed, commandPayload, setup.json.asString_text,
      setup.json.asString_number]
    rfl
  have hvalid := (Gateway.base64.usesBase64_boostCrypto setup.computeHMAC).validateCommandSignature
    (hkey.trans (bytes_encodeToString key)) hfields <| by
      rw [hidentity]
      exact (setup.json.asString_text _).trans (congrArg some (bytes_encodeToString _))
  have htype : bytes command.type.toString ≠ [] := by
    cases command.type <;> decide
  obtain ⟨⟨clientIdentity, type⟩, haccepted⟩ :=
    (Gateway.State.checkCommand_eq_some_iff hclaimed hfields).mpr
      ⟨fun h => toString_int_ne _ (bytes_eq_nil_iff.mp h),
        fun h => hclient (bytes_eq_nil_iff.mp h), htype, hvalid⟩
  obtain ⟨hclientIdentity, htypeText⟩ := Gateway.State.asString_of_checkCommand haccepted
  have hidentityText := (setup.json.asString_text command.clientIdentity).symm.trans hclientIdentity
  have htypeText := (setup.json.asString_text command.type.toString).symm.trans htypeText
  rw [haccepted, ← Option.some.inj hidentityText, ← Option.some.inj htypeText]

/-- The gateway of the command protocol that has this ownership. -/
structure Owned (setup : Setup) (ownership : Gateway.Ownership.AtlasGateway) (g : Gateway.State) :
    Prop where
  identity : g.identity = bytes setup.gatewayIdentity
  claimed : g.claimed = ownership.claimed
  ownerSecretKey : g.ownerSecretKey = ownership.ownerSecretKey

/-! ## All three -/

/-- After any run, what a phone shows under the gateway and the owner approves is accepted: the
phone signs it, the cloud queues it with the signature, and the gateway, which is claimed by this
owner, finds the signature valid. -/
theorem approval_accepted {ι : Type} [DecidableEq ι] (setup : Setup) (s : State ι)
    (hstarts : Starts setup s) (events : List (Event ι))
    (hadmitted : ∀ event ∈ events, event.Admitted setup)
    (i : ι) (command : AtlasClientCommandDto) (row : AtlasCommand)
    (hstores : Stores ((run (step setup) s events).phones i).db setup.gatewayIdentity
      (listed command) row)
    (cfg : Cloud.Config) (cloud : Cloud.State)
    (hawaits :
      Awaits setup.gatewayIdentity ((run (step setup) s events).phones i).ownerID command cloud)
    (g : Gateway.State) (hg : Owned setup (run (step setup) s events).gateway.gateway g) :
    ∃ req signature,
      ((run (step setup) s events).phones i).ownerCommandReq setup.computeHMAC
        command.clientIdentity true row = some req ∧
      (setOwnerCommandStatus cfg ((run (step setup) s events).phones i).ownerID req cloud).result =
      true ∧ pending setup.gatewayIdentity
          (setOwnerCommandStatus cfg ((run (step setup) s events).phones i).ownerID req
            cloud).state =
        pending setup.gatewayIdentity cloud ++ [{ command with signature := some signature }] ∧
      g.claimed = true ∧
      (run (step setup) s events).gateway.gateway.ownerIdentity =
        bytes ((run (step setup) s events).phones i).ownerID ∧
      checkCommand (Gateway.base64.boostCrypto setup.computeHMAC) g
          (commandPayload setup.json { command with signature := some signature }) =
        .ok (some (bytes command.clientIdentity, bytes command.type.toString)) := by
  have hagreed := (hstarts.allStates_agreed hadmitted).last
  generalize run (step setup) s events = s' at *
  -- the row of the gateway has the gateway's key
  obtain ⟨gateway, hgateway, hidentity, -⟩ := Phone.selectGatewayByClientIdentity_of_stores hstores
  obtain ⟨heq, key, hkey, hsecretKey⟩ := hagreed.rows i gateway hgateway hidentity
  rw [hsecretKey] at heq
  have hrows : ∀ g ∈ (s'.phones i).entities, g.identity = setup.gatewayIdentity →
      g.secretKey = encodeToString key := by
    intro g hg hid
    obtain ⟨heq', key', -, hsecretKey'⟩ := hagreed.rows i g hg hid
    have htext : bytes (encodeToString key) = bytes (encodeToString key') := by
      rw [heq, hsecretKey', Gateway.Ownership.AtlasGateway.mk.injEq] at heq'
      exact heq'.2.1
    rw [bytes_encodeToString, bytes_encodeToString] at htext
    rw [hsecretKey', Base64.encode_injective htext]
  have hclaimed : g.claimed = true := by rw [hg.claimed, heq]
  have hsignature : encodeToString (setup.computeHMAC key
      ((signedFields command).hmacPayload (bytes setup.gatewayIdentity))) ≠ "" := by
    refine encodeToString_ne fun hnil => ?_
    have hlength := setup.length_computeHMAC key
      ((signedFields command).hmacPayload (bytes setup.gatewayIdentity))
    rw [hnil] at hlength
    cases hlength
  obtain ⟨hresult, hpending⟩ :=
    setOwnerCommandStatus_approve hawaits (s'.phones i).ownerID_ne cfg hsignature
  refine ⟨_, _, ownerCommandReq_of_stores hstores hkey hrows true, hresult, hpending, hclaimed, ?_,
    ?_⟩
  · rw [heq]
  · refine checkCommand_decision hawaits.client_ne hg.identity hclaimed ?_
    rw [hg.ownerSecretKey, heq]

/-- A restart of the lamp, which waits for the owner. -/
def sampleRestart : AtlasClientCommandDto := ⟨"lamp", "Lamp", .deviceRestart, "", 1, none⟩

/-- The phone claims the gateway and fetches the command. -/
def sampleRun : List (Event Unit) :=
  [sampleClaim, .answer 0, .work () (fun _ => "") (some [("gw", [listed sampleRestart])])]

/-- The cloud with the gateway and the command. -/
def sampleWaiting : Cloud.State :=
  { Cloud.sampleCloud with
    owners :=
      ⟨[⟨"me", fun gateway => if gateway = "gw" then some [sampleRestart] else none⟩], by simp⟩ }

theorem awaits_sampleWaiting : Awaits "gw" "me" sampleRestart sampleWaiting :=
  ⟨by decide, by decide, ⟨_, [], rfl, rfl⟩, _, _, rfl, rfl⟩

/-- The gateway that the phone has claimed. -/
def sampleOwned : Gateway.State :=
  .fresh (bytes "gw") true (bytes (encodeToString [7, 8, 9])) Gateway.sampleDevices

theorem approval_accepted_restart :
    ((run (step sampleSetup) sampleStart sampleRun).phones ()).db.commands.map (·.seqNo) = [1] ∧
    ∃ signature, checkCommand (Gateway.base64.boostCrypto sampleSetup.computeHMAC) sampleOwned
      (commandPayload sampleSetup.json { sampleRestart with signature := some signature }) =
        .ok (some (bytes "lamp", bytes "ATLAS_CMD_CLIENT_DEVICE_RESTART")) := by
  have hstores : Stores ((run (step sampleSetup) sampleStart sampleRun).phones ()).db "gw"
      (listed sampleRestart)
      ⟨1, some "ATLAS_CMD_CLIENT_DEVICE_RESTART", some "", 1, "", 1⟩ := by decide
  have hadmitted : ∀ event ∈ sampleRun, event.Admitted sampleSetup := by
    simp [sampleRun, sampleClaim, Event.Admitted]
  obtain ⟨-, signature, -, -, -, -, -, haccepted⟩ := approval_accepted sampleSetup sampleStart
    starts_sampleStart sampleRun hadmitted () sampleRestart _ hstores Cloud.sampleConfig
    sampleWaiting awaits_sampleWaiting sampleOwned ⟨rfl, by decide, by decide⟩
  exact ⟨by decide, signature, haccepted⟩

end Atlas.Owner
