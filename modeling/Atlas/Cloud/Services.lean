import Atlas.Cloud.Documents

/-! # The services of the cloud

The gateway service and the owner service as state transformers. A synchronized method is one step
on the stored documents; what it publishes, the monitors it enters and leaves and what becomes of a
command are its effects. Repository calls and publishes succeed.

Reference: `AtlasGatewayServiceImpl.java`, `AtlasOwnerServiceImpl.java`, `AtlasWebController.java`,
`AtlasOwnerController.java`.
-/

namespace Atlas.Cloud

/-- The objects whose monitors the synchronized methods take. -/
inductive Monitor where
  | gatewayService
  | ownerService
deriving DecidableEq

inductive Effect where
  | enter (m : Monitor)
  | exit (m : Monitor)
  | publishCommand (psk : String) (command : AtlasClientCommandDto)
  | publishDoneAck (psk clientIdentity : String) (seqNo : Int32)
  | publishRegisterRequest (psk : String)
  -- what becomes of a command: bookkeeping, not read by the services
  | issued (gatewayIdentity : String) (command : AtlasClientCommandDto)
  | acknowledged (gatewayIdentity : String) (command : AtlasClientCommandDto)
  | rejected (gatewayIdentity : String) (command : AtlasClientCommandDto)
deriving DecidableEq

inductive ServiceException where
  | gatewayNotFound (gatewayIdentity : String)
  | clientNotFound (clientIdentity : String)
  | clientCommandInvalid (command : String)
deriving DecidableEq

/-- The stored documents, and the client deletions whose document has been read and not yet
saved. -/
structure State where
  gateways : GatewayRepository
  owners : OwnerRepository
  deletions : List (AtlasGateway × String)

/-- The outcome of a method. -/
structure Handled (α : Type) where
  state : State
  effects : List Effect
  result : α

/-- A synchronized method holds the monitor of its object while it runs. -/
def synchronized {α : Type} (m : Monitor) (r : Handled α) : Handled α :=
  ⟨r.state, .enter m :: (r.effects ++ [.exit m]), r.result⟩

/-- What the services read from outside. -/
structure Config where
  charCase : CharCase
  keepaliveCounter : Int32

/-- `gatewayRepository.save`. -/
def State.saveGateway (gateway : AtlasGateway) (s : State) : State :=
  { s with gateways := s.gateways.save gateway }

/-- `ownerRepository.save`. -/
def State.saveOwner (owner : AtlasOwner) (s : State) : State :=
  { s with owners := s.owners.save owner }

/-! ## Sending to the gateway -/

def sendGatewayCommand (gateway : AtlasGateway) : List Effect :=
  if gateway.registered then
    match gateway.gatewayPendingCmds with
    | [] => []
    | command :: _ => [.publishCommand gateway.psk command]
  else []

def sendGatewayCommandDONEAck (gateway : AtlasGateway) (client : AtlasClient) (cmdSeqNo : Int32) :
    List Effect :=
  if gateway.registered then [.publishDoneAck gateway.psk client.identity cmdSeqNo] else []

/-- Appends a command to the pending list. -/
def AtlasGateway.addPending (command : AtlasClientCommandDto) (gateway : AtlasGateway) :
    AtlasGateway :=
  { gateway with gatewayPendingCmds := gateway.gatewayPendingCmds ++ [command] }

/-- The command is sent at once when it is the only one in the queue. -/
def sendIfOnly (gateway : AtlasGateway) : List Effect :=
  if gateway.gatewayPendingCmds.length = 1 then sendGatewayCommand gateway else []

/-! ## The owner service -/

/-- The document of an owner that has none yet. -/
def AtlasOwner.new (ownerIdentity : String) : AtlasOwner := ⟨ownerIdentity, fun _ => none⟩

/-- The owner document, created when there is none. -/
def State.ownerOrNew (ownerIdentity : String) (s : State) : AtlasOwner :=
  (s.owners.find? ownerIdentity).getD (AtlasOwner.new ownerIdentity)

/-- Appends a command to the list of a gateway. -/
def AtlasOwner.addCommand (gatewayIdentity : String) (command : AtlasClientCommandDto)
    (owner : AtlasOwner) : AtlasOwner :=
  { owner with
    ownerCommands := Function.update owner.ownerCommands gatewayIdentity
      (some ((owner.ownerCommands gatewayIdentity).getD [] ++ [command])) }

/-- Stores what is left of the list of a gateway, and no empty list. -/
def AtlasOwner.setCommands (gatewayIdentity : String) (commands : List AtlasClientCommandDto)
    (owner : AtlasOwner) : AtlasOwner :=
  { owner with
    ownerCommands := Function.update owner.ownerCommands gatewayIdentity
      (if commands = [] then none else some commands) }

def enqueueOwnerCommand (gatewayIdentity ownerIdentity : String)
    (clientCommand : AtlasClientCommandDto) (s : State) : Handled Unit :=
  synchronized .ownerService <|
    if gatewayIdentity = "" then ⟨s, [], ()⟩
    else if ownerIdentity = "" then ⟨s, [], ()⟩
    else
      let owner := (s.ownerOrNew ownerIdentity).addCommand gatewayIdentity clientCommand
      ⟨s.saveOwner owner, [], ()⟩

/-! ## Issuing a command -/

/-- The type a command name stands for. -/
def commandType (cfg : Config) (command : String) : Option AtlasClientCommandType :=
  if equalsIgnoreCase cfg.charCase AtlasClientCommandType.deviceRestart.toString (some command) then
    some .deviceRestart
  else if equalsIgnoreCase cfg.charCase AtlasClientCommandType.deviceShutdown.toString
    (some command)
  then some .deviceShutdown
  else none

/-- Takes the next sequence number for a command of the client, which is stored in this state. -/
def AtlasGateway.transmit (clientIdentity : String) (client : AtlasClient)
    (type : AtlasClientCommandType) (state : AtlasClientCommandState) (gateway : AtlasGateway) :
    AtlasGateway :=
  let cmd : AtlasClientCommand := ⟨type, "", state, gateway.globalCmdSeqNo⟩
  { gateway.setClient clientIdentity
      { client with transmittedCommands := client.transmittedCommands ++ [cmd] } with
    globalCmdSeqNo := gateway.globalCmdSeqNo + 1 }

/-- The transfer object of the next command of the client. -/
def AtlasGateway.nextCommand (client : AtlasClient) (type : AtlasClientCommandType)
    (gateway : AtlasGateway) : AtlasClientCommandDto :=
  ⟨client.identity, client.clientAlias, type, "", gateway.globalCmdSeqNo, none⟩

def sendCommandToClient (cfg : Config) (gatewayIdentity clientIdentity command : String)
    (s : State) : Handled (Except ServiceException Unit) :=
  synchronized .gatewayService <|
    match s.gateways.find? gatewayIdentity with
    | none => ⟨s, [], .error (.gatewayNotFound gatewayIdentity)⟩
    | some gateway =>
      match gateway.clients clientIdentity with
      | none => ⟨s, [], .error (.clientNotFound clientIdentity)⟩
      | some client =>
        match commandType cfg command with
        | none => ⟨s, [], .error (.clientCommandInvalid command)⟩
        | some type =>
          let clientCmdDto := gateway.nextCommand client type
          let issued := .issued gateway.identity clientCmdDto
          if gateway.hasOwner then
            let gateway := gateway.transmit clientIdentity client type
              .deliveringToOwnerForApproval
            let r := enqueueOwnerCommand gateway.identity (gateway.owner.getD "")
              clientCmdDto s
            ⟨r.state.saveGateway gateway, issued :: r.effects, .ok ()⟩
          else
            let gateway := (gateway.transmit clientIdentity client type
              .deliveringToGateway).addPending clientCmdDto
            ⟨s.saveGateway gateway, issued :: sendIfOnly gateway, .ok ()⟩

/-! ## The decision of the owner -/

/-- Stores the client's commands. -/
def AtlasGateway.setTransmitted (clientIdentity : String) (client : AtlasClient)
    (cmds : List AtlasClientCommand) (gateway : AtlasGateway) : AtlasGateway :=
  gateway.setClient clientIdentity { client with transmittedCommands := cmds }

def sendApprovedCommandToClient (gatewayIdentity : String) (clientCommand : AtlasClientCommandDto)
    (s : State) : Handled Bool :=
  synchronized .gatewayService <|
    if gatewayIdentity = "" then ⟨s, [], false⟩
    else
      match s.gateways.find? gatewayIdentity with
      | none => ⟨s, [], false⟩
      | some gateway =>
        match gateway.clients clientCommand.clientIdentity with
        | none => ⟨s, [], false⟩
        | some client =>
          let cmds := setStateFirst clientCommand.seqNo .deliveringToGateway
            client.transmittedCommands
          let gateway := (gateway.setTransmitted clientCommand.clientIdentity client
            cmds).addPending clientCommand
          ⟨s.saveGateway gateway, sendIfOnly gateway, true⟩

def markCommandAsRejected (gatewayIdentity : String) (clientCommand : AtlasClientCommandDto)
    (s : State) : Handled Bool :=
  synchronized .gatewayService <|
    if gatewayIdentity = "" then ⟨s, [], false⟩
    else
      match s.gateways.find? gatewayIdentity with
      | none => ⟨s, [], false⟩
      | some gateway =>
        match gateway.clients clientCommand.clientIdentity with
        | none => ⟨s, [], false⟩
        | some client =>
          if client.transmittedCommands.any (·.seqNo = clientCommand.seqNo) then
            let cmds := setStateFirst clientCommand.seqNo .rejectedByOwner
              client.transmittedCommands
            let gateway := gateway.setTransmitted clientCommand.clientIdentity client cmds
            ⟨s.saveGateway gateway, [.rejected gateway.identity clientCommand], true⟩
          else ⟨s, [], false⟩

/-- The gateway service's part of a decision. -/
def applyDecision (gatewayIdentity : String) (ownerCommand : AtlasOwnerCommandDto)
    (clientCommand : AtlasClientCommandDto) (s : State) : Handled Bool :=
  if ownerCommand.approved then
    if ownerCommand.signature.getD "" = "" then ⟨s, [], false⟩
    else sendApprovedCommandToClient gatewayIdentity
      { clientCommand with signature := ownerCommand.signature } s
  else markCommandAsRejected gatewayIdentity clientCommand s

def setOwnerCommandStatus (cfg : Config) (ownerIdentity : String)
    (ownerCommand : AtlasOwnerCommandDto) (s : State) : Handled Bool :=
  synchronized .ownerService <|
    if ownerIdentity = "" then ⟨s, [], false⟩
    else
      match s.owners.find? ownerIdentity with
      | none => ⟨s, [], false⟩
      | some owner =>
        match ownerCommand.gatewayIdentity with
        | none => ⟨s, [], true⟩
        | some gatewayIdentity =>
          match owner.ownerCommands gatewayIdentity with
          | none => ⟨s, [], true⟩
          | some [] => ⟨s, [], true⟩
          | some (clientCommand :: commands) =>
            -- a decision on an earlier command was already processed
            if ownerCommand.seqNo < clientCommand.seqNo then ⟨s, [], true⟩
            else if clientCommand.seqNo ≠ ownerCommand.seqNo then ⟨s, [], false⟩
            else if !equalsIgnoreCase cfg.charCase clientCommand.clientIdentity
                ownerCommand.clientIdentity then ⟨s, [], false⟩
            else
              let r := applyDecision gatewayIdentity ownerCommand clientCommand s
              if r.result then
                ⟨r.state.saveOwner (owner.setCommands gatewayIdentity commands), r.effects,
                  true⟩
              else ⟨r.state, r.effects, false⟩

def fetchOwnerCommands (ownerIdentity : String) (s : State) :
    Handled (Option (String → Option (List AtlasClientCommandDto))) :=
  synchronized .ownerService <|
    if ownerIdentity = "" then ⟨s, [], none⟩
    else ⟨s, [], (s.owners.find? ownerIdentity).map (·.ownerCommands)⟩

/-- The token itself is not kept; the owner's document is created when there is none. -/
def updateFirebaseToken (ownerIdentity firebaseToken : String) (s : State) : Handled Unit :=
  synchronized .ownerService <|
    if ownerIdentity = "" then ⟨s, [], ()⟩
    else if firebaseToken = "" then ⟨s, [], ()⟩
    else ⟨s.saveOwner (s.ownerOrNew ownerIdentity), [], ()⟩

/-! ## Messages of the gateway -/

/-- A message of the gateway, parsed. -/
inductive Message where
  | infoUpdate (owner : Option String)
  | clientInfoUpdate (clientIdentity : String)
  | register
  | keepalive
  | clientAck (seqNo : Int32)
  | clientDone (clientIdentity : String) (seqNo : Int32)
deriving DecidableEq

def updateGatewayCommand (owner : Option String) (gateway : AtlasGateway) (s : State) :
    Handled Unit :=
  ⟨s.saveGateway { gateway with owner := owner.or gateway.owner }, [], ()⟩

def updateClientCommand (clientIdentity : String) (gateway : AtlasGateway) (s : State) :
    Handled Unit :=
  match gateway.clients clientIdentity with
  | none => ⟨s.saveGateway (gateway.setClient clientIdentity ⟨clientIdentity, clientIdentity, []⟩),
      [], ()⟩
  | some _ => ⟨s.saveGateway gateway, [], ()⟩

def registerNow (cfg : Config) (gateway : AtlasGateway) (s : State) : Handled Unit :=
  let gateway := { gateway with registered := true, keepaliveCounter := cfg.keepaliveCounter }
  ⟨s.saveGateway gateway, sendGatewayCommand gateway, ()⟩

def keepaliveNow (cfg : Config) (gateway : AtlasGateway) (s : State) : Handled Unit :=
  ⟨s.saveGateway { gateway with keepaliveCounter := cfg.keepaliveCounter }, [], ()⟩

def handleClientCommandAck (seqNo : Int32) (gateway : AtlasGateway) (s : State) : Handled Unit :=
  match gateway.gatewayPendingCmds with
  | [] => ⟨s, [], ()⟩
  | clientCmdDto :: pending =>
    if clientCmdDto.seqNo ≠ seqNo then ⟨s, [], ()⟩
    else
      match gateway.clients clientCmdDto.clientIdentity with
      | none => ⟨s, [], ()⟩
      | some client =>
        let cmds := setStateAll clientCmdDto.seqNo .deliveringToClient
          client.transmittedCommands
        let gateway := { gateway.setTransmitted clientCmdDto.clientIdentity client cmds with
          gatewayPendingCmds := pending }
        ⟨s.saveGateway gateway,
          .acknowledged gateway.identity clientCmdDto :: sendGatewayCommand gateway, ()⟩

def handleClientCommandDone (clientIdentity : String) (seqNo : Int32) (gateway : AtlasGateway)
    (s : State) : Handled Unit :=
  match gateway.clients clientIdentity with
  | none => ⟨s, [], ()⟩
  | some client =>
    match findLast? seqNo client.transmittedCommands with
    | none => ⟨s, [], ()⟩
    | some cmd =>
      if cmd.state = .executedByClient then
        ⟨s, sendGatewayCommandDONEAck gateway client seqNo, ()⟩
      else
        let cmds := setStateLast seqNo .executedByClient client.transmittedCommands
        let gateway := gateway.setTransmitted clientIdentity client cmds
        ⟨s.saveGateway gateway, sendGatewayCommandDONEAck gateway client seqNo, ()⟩

/-- The topic names the gateway by its key, a unique index like the identity. -/
def messageReceived (cfg : Config) (gatewayIdentity : String) (message : Message) (s : State) :
    Handled Unit :=
  synchronized .gatewayService <|
    match s.gateways.find? gatewayIdentity with
    | none => ⟨s, [], ()⟩
    | some gateway =>
      match message with
      | .infoUpdate owner => updateGatewayCommand owner gateway s
      | .clientInfoUpdate clientIdentity => updateClientCommand clientIdentity gateway s
      | .register => registerNow cfg gateway s
      | .keepalive => keepaliveNow cfg gateway s
      | .clientAck seqNo => handleClientCommandAck seqNo gateway s
      | .clientDone clientIdentity seqNo => handleClientCommandDone clientIdentity seqNo gateway s

/-! ## Keep-alive -/

/-- Whether the keep-alive task registers the gateway anew. -/
def reinits (shouldSubscribe : Bool) (gateway : AtlasGateway) : Bool :=
  shouldSubscribe || gateway.keepaliveCounter = 0

/-- `initGateway` or `decrementKeepalive`. -/
def keepaliveGateway (shouldSubscribe : Bool) (gateway : AtlasGateway) : AtlasGateway :=
  if reinits shouldSubscribe gateway then { gateway with registered := false }
  else { gateway with keepaliveCounter := gateway.keepaliveCounter - 1 }

theorem keepaliveGateway_identity (shouldSubscribe : Bool) (gateway : AtlasGateway) :
    (keepaliveGateway shouldSubscribe gateway).identity = gateway.identity := by
  unfold keepaliveGateway
  split <;> rfl

def keepaliveTask (shouldSubscribe : Bool) (s : State) : Handled Unit :=
  synchronized .gatewayService
    ⟨{ s with
        gateways := s.gateways.map (keepaliveGateway shouldSubscribe)
          (keepaliveGateway_identity shouldSubscribe) },
      (s.gateways.rows.filter (reinits shouldSubscribe)).map (.publishRegisterRequest ·.psk), ()⟩

/-! ## Requests on one client -/

def updateClientAlias (gatewayIdentity clientIdentity newAlias : String) (s : State) :
    Handled (Except ServiceException Unit) :=
  synchronized .gatewayService <|
    match s.gateways.find? gatewayIdentity with
    | none => ⟨s, [], .error (.gatewayNotFound gatewayIdentity)⟩
    | some gateway =>
      match gateway.clients clientIdentity with
      | none => ⟨s, [], .error (.clientNotFound clientIdentity)⟩
      | some client =>
        let gateway := gateway.setClient clientIdentity { client with clientAlias := newAlias }
        ⟨s.saveGateway gateway, [], .ok ()⟩

/-- The controller's read for a client deletion, outside any monitor. -/
def readForDeletion (gatewayIdentity clientIdentity : String) (s : State) :
    Handled (Except ServiceException Unit) :=
  match s.gateways.find? gatewayIdentity with
  | none => ⟨s, [], .error (.gatewayNotFound gatewayIdentity)⟩
  | some gateway =>
    ⟨{ s with deletions := s.deletions ++ [(gateway, clientIdentity)] }, [], .ok ()⟩

/-- `gateway.getClients().remove`. -/
def AtlasGateway.removeClient (clientIdentity : String) (gateway : AtlasGateway) : AtlasGateway :=
  { gateway with clients := Function.update gateway.clients clientIdentity none }

/-- The `i`-th started deletion saves the document it has read. -/
def deleteClient (i : ℕ) (s : State) : Handled Unit :=
  match s.deletions[i]? with
  | none => ⟨s, [], ()⟩
  | some (gateway, clientIdentity) =>
    synchronized .gatewayService
      ⟨{ s.saveGateway (gateway.removeClient clientIdentity) with
          deletions := s.deletions.eraseIdx i }, [], ()⟩

/-! ## Events -/

/-- A web request or a message; a client deletion is two of them. -/
inductive Event where
  | sendCommandToClient (gatewayIdentity clientIdentity command : String)
  | setOwnerCommandStatus (ownerIdentity : String) (ownerCommand : AtlasOwnerCommandDto)
  | fetchOwnerCommands (ownerIdentity : String)
  | updateFirebaseToken (ownerIdentity firebaseToken : String)
  | messageReceived (gatewayIdentity : String) (message : Message)
  | keepaliveTask (shouldSubscribe : Bool)
  | updateClientAlias (gatewayIdentity clientIdentity newAlias : String)
  | readForDeletion (gatewayIdentity clientIdentity : String)
  | deleteClient (i : ℕ)
deriving DecidableEq

/-- The event deletes a client. -/
def Event.deletes : Event → Bool
  | .deleteClient _ => true
  | _ => false

/-- The documents and effects of a method. -/
def Handled.out {α : Type} (r : Handled α) : State × List Effect := (r.state, r.effects)

def step (cfg : Config) (s : State) : Event → State × List Effect
  | .sendCommandToClient gatewayIdentity clientIdentity command =>
    (sendCommandToClient cfg gatewayIdentity clientIdentity command s).out
  | .setOwnerCommandStatus ownerIdentity ownerCommand =>
    (setOwnerCommandStatus cfg ownerIdentity ownerCommand s).out
  | .fetchOwnerCommands ownerIdentity => (fetchOwnerCommands ownerIdentity s).out
  | .updateFirebaseToken ownerIdentity firebaseToken =>
    (updateFirebaseToken ownerIdentity firebaseToken s).out
  | .messageReceived gatewayIdentity message => (messageReceived cfg gatewayIdentity message s).out
  | .keepaliveTask shouldSubscribe => (keepaliveTask shouldSubscribe s).out
  | .updateClientAlias gatewayIdentity clientIdentity newAlias =>
    (updateClientAlias gatewayIdentity clientIdentity newAlias s).out
  | .readForDeletion gatewayIdentity clientIdentity =>
    (readForDeletion gatewayIdentity clientIdentity s).out
  | .deleteClient i => (deleteClient i s).out

/-! ## Sample documents -/

/-- ASCII case, and a keep-alive counter of three. -/
def sampleConfig : Config where
  charCase := ⟨Char.toUpper, Char.toLower⟩
  keepaliveCounter := 3

/-- A registered gateway with an owner and two clients. -/
def sampleGateway : AtlasGateway :=
  { AtlasGateway.new "gw" "psk" with
    registered := true
    keepaliveCounter := 3
    owner := some "owner"
    clients := fun c => if c = "lamp" ∨ c = "door" then some ⟨c, c, []⟩ else none }

/-- The cloud with this one gateway. -/
def sampleCloud : State where
  gateways := ⟨[sampleGateway], by simp⟩
  owners := ⟨[], by simp⟩
  deletions := []

/-- A restart of the lamp. -/
def restartLamp : Event := .sendCommandToClient "gw" "lamp" "atlas_cmd_client_device_restart"

/-- The owner's decision on the command `n` of the lamp. -/
def decideLamp (n : Int32) (approved : Bool) : Event :=
  .setOwnerCommandStatus "owner" ⟨some "gw", some "LAMP", n, approved, some "signature"⟩

end Atlas.Cloud
