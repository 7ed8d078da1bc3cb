import Atlas.Cloud.Services
import Atlas.Lib.EventMachine

/-! # What a step of the cloud does

A request takes effect when it passes the checks of its method; `issuing`, `deciding`,
`acknowledging` and `executing` say when, and on which documents. `step_transition` says that every
step is a request that takes effect, one that touches no command, or one that changes nothing.
-/

namespace Atlas.Cloud

/-- The effects that say what becomes of a command. -/
def Effect.onCommand : Effect → Bool
  | .issued _ _ | .acknowledged _ _ | .rejected _ _ => true
  | _ => false

/-- What becomes of commands, in order. -/
def ledger (ws : List Effect) : List Effect := ws.filter Effect.onCommand

theorem ledger_append (ws ws' : List Effect) : ledger (ws ++ ws') = ledger ws ++ ledger ws' :=
  List.filter_append ws ws'

theorem ledger_cons_of_nil (w : Effect) {ws : List Effect} (h : ledger ws = []) :
    ledger (w :: ws) = ledger [w] := by
  rw [← List.singleton_append, ledger_append, h, List.append_nil]

@[simp] theorem ledger_sendGatewayCommand (gateway : AtlasGateway) :
    ledger (sendGatewayCommand gateway) = [] := by
  unfold sendGatewayCommand
  split
  · split <;> rfl
  · rfl

@[simp] theorem ledger_sendGatewayCommandDONEAck (gateway : AtlasGateway) (client : AtlasClient)
    (seqNo : Int32) : ledger (sendGatewayCommandDONEAck gateway client seqNo) = [] := by
  unfold sendGatewayCommandDONEAck
  split <;> rfl

@[simp] theorem ledger_sendIfOnly (gateway : AtlasGateway) : ledger (sendIfOnly gateway) = [] := by
  unfold sendIfOnly
  split
  · exact ledger_sendGatewayCommand gateway
  · rfl

@[simp] theorem ledger_enqueueOwnerCommand (gatewayIdentity ownerIdentity : String)
    (command : AtlasClientCommandDto) (s : State) :
    ledger (enqueueOwnerCommand gatewayIdentity ownerIdentity command s).effects = [] := by
  unfold enqueueOwnerCommand synchronized
  split
  · rfl
  · split <;> rfl

@[simp] theorem synchronized_state {α : Type} (m : Monitor) (r : Handled α) :
    (synchronized m r).state = r.state := rfl

@[simp] theorem synchronized_result {α : Type} (m : Monitor) (r : Handled α) :
    (synchronized m r).result = r.result := rfl

@[simp] theorem ledger_synchronized {α : Type} (m : Monitor) (r : Handled α) :
    ledger (synchronized m r).effects = ledger r.effects := by
  simp [synchronized, ledger, Effect.onCommand]

/-! ## Requests that take effect -/

/-- The gateway, the client and the type of a command that is issued. -/
def issuing (cfg : Config) (gatewayIdentity clientIdentity command : String) (s : State) :
    Option (AtlasGateway × AtlasClient × AtlasClientCommandType) := do
  let gateway ← s.gateways.find? gatewayIdentity
  let client ← gateway.clients clientIdentity
  let type ← commandType cfg command
  return (gateway, client, type)

/-- The command a decision is about, with the owner, the gateway and the commands behind it: the
decision names the number and the client of the first command of the list. -/
def decidedCommand (cfg : Config) (ownerIdentity : String) (ownerCommand : AtlasOwnerCommandDto)
    (s : State) :
    Option (AtlasOwner × String × AtlasClientCommandDto × List AtlasClientCommandDto) :=
  if ownerIdentity = "" then none
  else do
    let owner ← s.owners.find? ownerIdentity
    let gatewayIdentity ← ownerCommand.gatewayIdentity
    match owner.ownerCommands gatewayIdentity with
    | some (clientCommand :: commands) =>
      if clientCommand.seqNo = ownerCommand.seqNo ∧
          equalsIgnoreCase cfg.charCase clientCommand.clientIdentity
            ownerCommand.clientIdentity then
        some (owner, gatewayIdentity, clientCommand, commands)
      else none
    | _ => none

/-- An approval has a signature. -/
def AtlasOwnerCommandDto.signed (ownerCommand : AtlasOwnerCommandDto) : Bool :=
  !ownerCommand.approved || ownerCommand.signature.getD "" ≠ ""

/-- The documents a decision changes. -/
structure Decision where
  owner : AtlasOwner
  gatewayIdentity : String
  clientCommand : AtlasClientCommandDto
  commands : List AtlasClientCommandDto
  gateway : AtlasGateway
  client : AtlasClient

/-- The gateway and the client of a decision that the gateway service carries out. -/
def decisionTarget (gatewayIdentity : String) (ownerCommand : AtlasOwnerCommandDto)
    (clientCommand : AtlasClientCommandDto) (s : State) : Option (AtlasGateway × AtlasClient) :=
  if ownerCommand.signed && gatewayIdentity ≠ "" then do
    let gateway ← s.gateways.find? gatewayIdentity
    let client ← gateway.clients clientCommand.clientIdentity
    if ownerCommand.approved || client.transmittedCommands.any (·.seqNo = clientCommand.seqNo) then
      return (gateway, client)
    else none
  else none

/-- The documents of a decision that is carried out. -/
def deciding (cfg : Config) (ownerIdentity : String) (ownerCommand : AtlasOwnerCommandDto)
    (s : State) : Option Decision := do
  let (owner, gatewayIdentity, clientCommand, commands) ←
    decidedCommand cfg ownerIdentity ownerCommand s
  let (gateway, client) ← decisionTarget gatewayIdentity ownerCommand clientCommand s
  return ⟨owner, gatewayIdentity, clientCommand, commands, gateway, client⟩

/-- The gateway, the first pending command, the commands behind it and the client of an ACK that is
not discarded. -/
def acknowledging (gatewayIdentity : String) (seqNo : Int32) (s : State) :
    Option (AtlasGateway × AtlasClientCommandDto × List AtlasClientCommandDto × AtlasClient) := do
  let gateway ← s.gateways.find? gatewayIdentity
  match gateway.gatewayPendingCmds with
  | [] => none
  | command :: pending =>
    if command.seqNo = seqNo then
      let client ← gateway.clients command.clientIdentity
      return (gateway, command, pending, client)
    else none

/-- The gateway and the client of a DONE for a command not yet executed. -/
def executing (gatewayIdentity clientIdentity : String) (seqNo : Int32) (s : State) :
    Option (AtlasGateway × AtlasClient) := do
  let gateway ← s.gateways.find? gatewayIdentity
  let client ← gateway.clients clientIdentity
  let cmd ← findLast? seqNo client.transmittedCommands
  if cmd.state = .executedByClient then none else return (gateway, client)

/-- The event takes effect on a command, or saves the document of a deletion. -/
def acts (cfg : Config) (s : State) : Event → Bool
  | .sendCommandToClient gatewayIdentity clientIdentity command =>
    (issuing cfg gatewayIdentity clientIdentity command s).isSome
  | .setOwnerCommandStatus ownerIdentity ownerCommand =>
    (deciding cfg ownerIdentity ownerCommand s).isSome
  | .messageReceived gatewayIdentity (.clientAck seqNo) =>
    (acknowledging gatewayIdentity seqNo s).isSome
  | .messageReceived gatewayIdentity (.clientDone clientIdentity seqNo) =>
    (executing gatewayIdentity clientIdentity seqNo s).isSome
  | .deleteClient i => s.deletions[i]?.isSome
  | _ => false

/-! ## The changed documents -/

/-- The document of a gateway whose command is with the owner. -/
def AtlasGateway.askedOwner (clientIdentity : String) (client : AtlasClient)
    (type : AtlasClientCommandType) (gateway : AtlasGateway) : AtlasGateway :=
  gateway.transmit clientIdentity client type .deliveringToOwnerForApproval

/-- The document of a gateway without owner, after a command was issued. -/
def AtlasGateway.queued (clientIdentity : String) (client : AtlasClient)
    (type : AtlasClientCommandType) (gateway : AtlasGateway) : AtlasGateway :=
  (gateway.transmit clientIdentity client type .deliveringToGateway).addPending
    (gateway.nextCommand client type)

namespace Decision

/-- The command with the signature of the owner. -/
def signedCommand (d : Decision) (ownerCommand : AtlasOwnerCommandDto) : AtlasClientCommandDto :=
  { d.clientCommand with signature := ownerCommand.signature }

/-- The document of the gateway with the state of the first matching command changed. -/
def marked (state : AtlasClientCommandState) (d : Decision) : AtlasGateway :=
  d.gateway.setTransmitted d.clientCommand.clientIdentity d.client
    (setStateFirst d.clientCommand.seqNo state d.client.transmittedCommands)

/-- The documents after an approval. -/
def approved (d : Decision) (ownerCommand : AtlasOwnerCommandDto) (s : State) : State :=
  (s.saveGateway ((d.marked .deliveringToGateway).addPending
    (d.signedCommand ownerCommand))).saveOwner (d.owner.setCommands d.gatewayIdentity d.commands)

/-- The documents after a rejection. -/
def rejected (d : Decision) (s : State) : State :=
  (s.saveGateway (d.marked .rejectedByOwner)).saveOwner
    (d.owner.setCommands d.gatewayIdentity d.commands)

end Decision

/-- The document of a gateway whose first pending command was acknowledged. -/
def AtlasGateway.delivered (command : AtlasClientCommandDto)
    (pending : List AtlasClientCommandDto) (client : AtlasClient) (gateway : AtlasGateway) :
    AtlasGateway :=
  { gateway.setTransmitted command.clientIdentity client
      (setStateAll command.seqNo .deliveringToClient client.transmittedCommands) with
    gatewayPendingCmds := pending }

/-- The document of a gateway whose client has executed a command. -/
def AtlasGateway.executed (clientIdentity : String) (seqNo : Int32) (client : AtlasClient)
    (gateway : AtlasGateway) : AtlasGateway :=
  gateway.setTransmitted clientIdentity client
    (setStateLast seqNo .executedByClient client.transmittedCommands)

/-- The commands of a client, none for a client the gateway does not have. -/
def AtlasGateway.commandsOf (clientIdentity : String) (gateway : AtlasGateway) :
    List AtlasClientCommand :=
  ((gateway.clients clientIdentity).map (·.transmittedCommands)).getD []

theorem AtlasGateway.commandsOf_of_some {clientIdentity : String} {gateway : AtlasGateway}
    {client : AtlasClient} (h : gateway.clients clientIdentity = some client) :
    gateway.commandsOf clientIdentity = client.transmittedCommands := by
  simp [AtlasGateway.commandsOf, h]

theorem AtlasGateway.commandsOf_setClient (c c' : String) (client : AtlasClient)
    (gateway : AtlasGateway) :
    (gateway.setClient c client).commandsOf c' =
      if c' = c then client.transmittedCommands else gateway.commandsOf c' := by
  by_cases h : c' = c
  · simp [AtlasGateway.setClient, AtlasGateway.commandsOf, h]
  · simp [AtlasGateway.setClient, AtlasGateway.commandsOf, h]

theorem AtlasGateway.clients_setClient_self (c : String) (client : AtlasClient)
    (gateway : AtlasGateway) : (gateway.setClient c client).clients c = some client := by
  simp [AtlasGateway.setClient]

/-- Two documents of one gateway that agree on every command. -/
structure AtlasGateway.SameCommands (gateway gateway' : AtlasGateway) : Prop where
  identity : gateway'.identity = gateway.identity
  pending : gateway'.gatewayPendingCmds = gateway.gatewayPendingCmds
  seqNo : gateway'.globalCmdSeqNo = gateway.globalCmdSeqNo
  transmitted : ∀ c, gateway'.commandsOf c = gateway.commandsOf c

/-- Storing a client with the commands it has changes no command. -/
theorem AtlasGateway.sameCommands_setClient {c : String} {client : AtlasClient}
    {gateway : AtlasGateway} (h : client.transmittedCommands = gateway.commandsOf c) :
    gateway.SameCommands (gateway.setClient c client) where
  identity := rfl
  pending := rfl
  seqNo := rfl
  transmitted c' := by
    rw [commandsOf_setClient]
    split
    case isTrue heq => rw [h, heq]
    case isFalse => rfl

theorem AtlasGateway.sameCommands_keepalive (shouldSubscribe : Bool) (gateway : AtlasGateway) :
    gateway.SameCommands (keepaliveGateway shouldSubscribe gateway) := by
  unfold keepaliveGateway
  split <;> exact ⟨rfl, rfl, rfl, fun _ => rfl⟩

theorem keepaliveGateway_owner (shouldSubscribe : Bool) (gateway : AtlasGateway) :
    (keepaliveGateway shouldSubscribe gateway).owner = gateway.owner := by
  unfold keepaliveGateway
  split <;> rfl

/-- Two documents of one gateway that agree on what is shown of it. The second one may have more
clients. -/
structure AtlasGateway.SameShown (gateway gateway' : AtlasGateway) : Prop where
  registered : gateway'.registered = gateway.registered
  keepaliveCounter : gateway'.keepaliveCounter = gateway.keepaliveCounter
  owner : gateway'.owner = gateway.owner
  clients : ∀ c, (gateway.clients c).isSome = true → (gateway'.clients c).isSome = true

theorem AtlasGateway.sameShown_setClient (c : String) (client : AtlasClient)
    (gateway : AtlasGateway) : gateway.SameShown (gateway.setClient c client) where
  registered := rfl
  keepaliveCounter := rfl
  owner := rfl
  clients c' h := by
    rw [AtlasGateway.setClient]
    by_cases hc : c' = c
    · simp [hc]
    · simpa [hc] using h

/-- The event is about what is shown of the gateway: a message that is not about a command, the
keep-alive task, or a deletion. -/
def Event.shows (gatewayIdentity : String) : Event → Bool
  | .messageReceived _ (.clientAck _) => false
  | .messageReceived _ (.clientDone _ _) => false
  | .messageReceived i _ => i = gatewayIdentity
  | .keepaliveTask _ => true
  | .deleteClient _ => true
  | _ => false

/-! ## Transitions -/

/-- What a step does: the event, what becomes of commands, and the documents after it. -/
inductive Transition (cfg : Config) (s : State) : Event → List Effect → State → Prop where
  | refused {e : Event} (h : acts cfg s e = false) : Transition cfg s e [] s
  /-- A command is issued and goes to the owner. -/
  | askOwner {gi ci command : String} {gateway : AtlasGateway} {client : AtlasClient}
      {type : AtlasClientCommandType}
      (h : issuing cfg gi ci command s = some (gateway, client, type))
      (howner : gateway.hasOwner = true) :
      Transition cfg s (.sendCommandToClient gi ci command)
        [.issued gi (gateway.nextCommand client type)]
        ((enqueueOwnerCommand gi (gateway.owner.getD "") (gateway.nextCommand client type)
          s).state.saveGateway (gateway.askedOwner ci client type))
  /-- A command is issued and goes to the gateway. -/
  | queue {gi ci command : String} {gateway : AtlasGateway} {client : AtlasClient}
      {type : AtlasClientCommandType}
      (h : issuing cfg gi ci command s = some (gateway, client, type))
      (howner : gateway.hasOwner = false) :
      Transition cfg s (.sendCommandToClient gi ci command)
        [.issued gi (gateway.nextCommand client type)]
        (s.saveGateway (gateway.queued ci client type))
  | approve {o : String} {ownerCommand : AtlasOwnerCommandDto} {d : Decision}
      (h : deciding cfg o ownerCommand s = some d) (happroved : ownerCommand.approved = true) :
      Transition cfg s (.setOwnerCommandStatus o ownerCommand) [] (d.approved ownerCommand s)
  | reject {o : String} {ownerCommand : AtlasOwnerCommandDto} {d : Decision}
      (h : deciding cfg o ownerCommand s = some d) (hrejected : ownerCommand.approved = false) :
      Transition cfg s (.setOwnerCommandStatus o ownerCommand)
        [.rejected d.gatewayIdentity d.clientCommand] (d.rejected s)
  | ack {gi : String} {seqNo : Int32} {gateway : AtlasGateway} {command : AtlasClientCommandDto}
      {pending : List AtlasClientCommandDto} {client : AtlasClient}
      (h : acknowledging gi seqNo s = some (gateway, command, pending, client)) :
      Transition cfg s (.messageReceived gi (.clientAck seqNo)) [.acknowledged gi command]
        (s.saveGateway (gateway.delivered command pending client))
  | done {gi ci : String} {seqNo : Int32} {gateway : AtlasGateway} {client : AtlasClient}
      (h : executing gi ci seqNo s = some (gateway, client)) :
      Transition cfg s (.messageReceived gi (.clientDone ci seqNo)) []
        (s.saveGateway (gateway.executed ci seqNo client))
  /-- A gateway document is saved with the commands it had. -/
  | touch {e : Event} {gi : String} {gateway gateway' : AtlasGateway} (h : acts cfg s e = false)
      (hfind : s.gateways.find? gi = some gateway) (hsame : gateway.SameCommands gateway')
      (howner : gateway'.owner = gateway.owner ∨
        ∃ o, e = .messageReceived gi (.infoUpdate (some o)) ∧ gateway'.owner = some o)
      (hshown : e.shows gi = true ∨ gateway.SameShown gateway') :
      Transition cfg s e [] (s.saveGateway gateway')
  | tick (shouldSubscribe : Bool) :
      Transition cfg s (.keepaliveTask shouldSubscribe) [] (keepaliveTask shouldSubscribe s).state
  | newOwner (o firebaseToken : String) :
      Transition cfg s (.updateFirebaseToken o firebaseToken) [] (s.saveOwner (s.ownerOrNew o))
  | read {gi ci : String} {gateway : AtlasGateway} (hfind : s.gateways.find? gi = some gateway) :
      Transition cfg s (.readForDeletion gi ci) []
        { s with deletions := s.deletions ++ [(gateway, ci)] }
  | delete {i : ℕ} {gateway : AtlasGateway} {ci : String}
      (h : s.deletions[i]? = some (gateway, ci)) :
      Transition cfg s (.deleteClient i) []
        { s.saveGateway (gateway.removeClient ci) with deletions := s.deletions.eraseIdx i }

variable (cfg : Config) (s : State)

theorem sendCommandToClient_transition (gi ci command : String) :
    Transition cfg s (.sendCommandToClient gi ci command)
      (ledger (sendCommandToClient cfg gi ci command s).effects)
      (sendCommandToClient cfg gi ci command s).state := by
  unfold sendCommandToClient
  rw [ledger_synchronized, synchronized_state]
  cases hg : s.gateways.find? gi with
  | none => exact .refused (by simp [acts, issuing, hg])
  | some gateway =>
    cases hc : gateway.clients ci with
    | none => simpa only [hc] using .refused (by simp [acts, issuing, hg, hc])
    | some client =>
      cases ht : commandType cfg command with
      | none => simpa only [hc] using .refused (by simp [acts, issuing, hg, ht])
      | some type =>
        have h : issuing cfg gi ci command s = some (gateway, client, type) := by
          simp [issuing, hg, hc, ht]
        obtain rfl : gateway.identity = gi := Table.key_of_find? hg
        simp only [hc]
        split
        case isTrue howner =>
          rw [ledger_cons_of_nil _ (ledger_enqueueOwnerCommand ..)]
          exact .askOwner h howner
        case isFalse howner =>
          rw [ledger_cons_of_nil _ (ledger_sendIfOnly _)]
          exact .queue h (by simpa using howner)

theorem handleClientCommandAck_transition {gi : String} {gateway : AtlasGateway} (seqNo : Int32)
    (hg : s.gateways.find? gi = some gateway) :
    Transition cfg s (.messageReceived gi (.clientAck seqNo))
      (ledger (handleClientCommandAck seqNo gateway s).effects)
      (handleClientCommandAck seqNo gateway s).state := by
  unfold handleClientCommandAck
  split
  case h_1 hp => exact .refused (by simp [acts, acknowledging, hg, hp])
  case h_2 command pending hp =>
    by_cases hn : command.seqNo = seqNo
    · simp only [hn, ne_eq, not_true_eq_false, if_false]
      split
      case h_1 hc => exact .refused (by simp [acts, acknowledging, hg, hp, hn, hc])
      case h_2 client hc =>
        rw [ledger_cons_of_nil _ (ledger_sendGatewayCommand _), ← hn]
        obtain rfl : gateway.identity = gi := Table.key_of_find? hg
        exact .ack (by simp [acknowledging, hg, hp, hn, hc])
    · simp only [hn, ne_eq, not_false_eq_true, if_true]
      exact .refused (by simp [acts, acknowledging, hg, hp, hn])

theorem handleClientCommandDone_transition {gi : String} {gateway : AtlasGateway} (ci : String)
    (seqNo : Int32) (hg : s.gateways.find? gi = some gateway) :
    Transition cfg s (.messageReceived gi (.clientDone ci seqNo))
      (ledger (handleClientCommandDone ci seqNo gateway s).effects)
      (handleClientCommandDone ci seqNo gateway s).state := by
  unfold handleClientCommandDone
  split
  case h_1 hc => exact .refused (by simp [acts, executing, hg, hc])
  case h_2 client hc =>
    split
    case h_1 hl => exact .refused (by simp [acts, executing, hg, hc, hl])
    case h_2 cmd hl =>
      split
      case isTrue hx =>
        rw [ledger_sendGatewayCommandDONEAck]
        exact .refused (by simp [acts, executing, hg, hc, hl, hx])
      case isFalse hx =>
        rw [ledger_sendGatewayCommandDONEAck]
        exact .done (by simp [executing, hg, hc, hl, hx])

theorem messageReceived_transition (gi : String) (message : Message) :
    Transition cfg s (.messageReceived gi message)
      (ledger (messageReceived cfg gi message s).effects)
      (messageReceived cfg gi message s).state := by
  unfold messageReceived
  rw [ledger_synchronized, synchronized_state]
  cases hg : s.gateways.find? gi with
  | none =>
    refine .refused ?_
    cases message <;> simp [acts, acknowledging, executing, hg]
  | some gateway =>
    cases message with
    | infoUpdate owner =>
      refine .touch rfl hg ⟨rfl, rfl, rfl, fun _ => rfl⟩ ?_ (.inl (by simp [Event.shows]))
      cases owner with
      | none => exact .inl rfl
      | some o => exact .inr ⟨o, rfl, rfl⟩
    | clientInfoUpdate ci =>
      simp only [updateClientCommand]
      split
      case h_1 hc =>
        exact .touch rfl hg (gateway.sameCommands_setClient (by
          simp [AtlasGateway.commandsOf, hc])) (.inl rfl) (.inl (by simp [Event.shows]))
      case h_2 =>
        exact .touch rfl hg ⟨rfl, rfl, rfl, fun _ => rfl⟩ (.inl rfl) (.inl (by simp [Event.shows]))
    | register =>
      simp only [registerNow, ledger_sendGatewayCommand]
      exact .touch rfl hg ⟨rfl, rfl, rfl, fun _ => rfl⟩ (.inl rfl) (.inl (by simp [Event.shows]))
    | keepalive =>
      exact .touch rfl hg ⟨rfl, rfl, rfl, fun _ => rfl⟩ (.inl rfl) (.inl (by simp [Event.shows]))
    | clientAck seqNo => exact handleClientCommandAck_transition cfg s seqNo hg
    | clientDone ci seqNo => exact handleClientCommandDone_transition cfg s ci seqNo hg

variable {gi : String} {ownerCommand : AtlasOwnerCommandDto} {command : AtlasClientCommandDto}
  {gateway : AtlasGateway} {client : AtlasClient}

/-- What the gateway service finds for a decision it carries out. -/
theorem decisionTarget_eq_some_iff :
    decisionTarget gi ownerCommand command s = some (gateway, client) ↔
      ownerCommand.signed = true ∧ gi ≠ "" ∧ s.gateways.find? gi = some gateway ∧
        gateway.clients command.clientIdentity = some client ∧
        (ownerCommand.approved = true ∨
          client.transmittedCommands.any (·.seqNo = command.seqNo) = true) := by
  unfold decisionTarget
  split
  case isTrue h =>
    simp only [Bool.and_eq_true, decide_eq_true_eq] at h
    simp only [Option.bind_eq_bind, Option.bind_eq_some_iff, Option.ite_none_right_eq_some, h]
    grind
  case isFalse h => grind

/-- A decision that is not carried out changes nothing. -/
theorem applyDecision_of_none (h : decisionTarget gi ownerCommand command s = none) :
    (applyDecision gi ownerCommand command s).state = s ∧
      ledger (applyDecision gi ownerCommand command s).effects = [] ∧
      (applyDecision gi ownerCommand command s).result = false := by
  have hnone : ∀ gateway client, ¬ (ownerCommand.signed = true ∧ gi ≠ "" ∧
      s.gateways.find? gi = some gateway ∧ gateway.clients command.clientIdentity = some client ∧
      (ownerCommand.approved = true ∨
        client.transmittedCommands.any (·.seqNo = command.seqNo) = true)) := by
    intro gateway client hsome
    rw [(decisionTarget_eq_some_iff s).mpr hsome] at h
    cases h
  unfold applyDecision
  split
  case isTrue happroved =>
    split
    case isTrue => exact ⟨rfl, rfl, rfl⟩
    case isFalse hsig =>
      have hsigned : ownerCommand.signed = true := by
        simp [AtlasOwnerCommandDto.signed, hsig]
      unfold sendApprovedCommandToClient
      rw [synchronized_state, ledger_synchronized, synchronized_result]
      split
      case isTrue => exact ⟨rfl, rfl, rfl⟩
      case isFalse hgi =>
        split
        case h_1 => exact ⟨rfl, rfl, rfl⟩
        case h_2 gateway hg =>
          split
          case h_1 => exact ⟨rfl, rfl, rfl⟩
          case h_2 client hc => exact absurd ⟨hsigned, hgi, hg, hc, .inl happroved⟩ (hnone _ _)
  case isFalse hrejected =>
    have hsigned : ownerCommand.signed = true := by
      simp [AtlasOwnerCommandDto.signed, hrejected]
    unfold markCommandAsRejected
    rw [synchronized_state, ledger_synchronized, synchronized_result]
    split
    case isTrue => exact ⟨rfl, rfl, rfl⟩
    case isFalse hgi =>
      split
      case h_1 => exact ⟨rfl, rfl, rfl⟩
      case h_2 gateway hg =>
        split
        case h_1 => exact ⟨rfl, rfl, rfl⟩
        case h_2 client hc =>
          split
          case isTrue hany => exact absurd ⟨hsigned, hgi, hg, hc, .inr hany⟩ (hnone _ _)
          case isFalse => exact ⟨rfl, rfl, rfl⟩

/-- A decision that is carried out changes the document of the gateway. -/
theorem applyDecision_of_some (owner : AtlasOwner) (commands : List AtlasClientCommandDto)
    (h : decisionTarget gi ownerCommand command s = some (gateway, client)) :
    let d : Decision := ⟨owner, gi, command, commands, gateway, client⟩
    (applyDecision gi ownerCommand command s).result = true ∧
      if ownerCommand.approved then
        (applyDecision gi ownerCommand command s).state =
          s.saveGateway ((d.marked .deliveringToGateway).addPending
            (d.signedCommand ownerCommand)) ∧
        ledger (applyDecision gi ownerCommand command s).effects = []
      else
        (applyDecision gi ownerCommand command s).state =
          s.saveGateway (d.marked .rejectedByOwner) ∧
        ledger (applyDecision gi ownerCommand command s).effects = [.rejected gi command] := by
  obtain ⟨hsigned, hgi, hg, hc, hany⟩ := (decisionTarget_eq_some_iff s).mp h
  cases happroved : ownerCommand.approved with
  | true =>
    have hsig : ownerCommand.signature.getD "" ≠ "" := by
      simpa [AtlasOwnerCommandDto.signed, happroved] using hsigned
    simp [applyDecision, happroved, hsig, sendApprovedCommandToClient, hgi, hg, hc, Decision.marked,
      Decision.signedCommand]
  | false =>
    have hany' : client.transmittedCommands.any (·.seqNo = command.seqNo) = true := by
      simpa [happroved] using hany
    obtain rfl : gateway.identity = gi := Table.key_of_find? hg
    simp [applyDecision, happroved, markCommandAsRejected, hgi, hg, hc, hany', Decision.marked]
    rfl

/-- The owner service's checks: it stops, or passes the first command of its list on. -/
theorem setOwnerCommandStatus_cases (o : String) (ownerCommand : AtlasOwnerCommandDto) :
    (decidedCommand cfg o ownerCommand s = none ∧
      ∃ b, setOwnerCommandStatus cfg o ownerCommand s = synchronized .ownerService ⟨s, [], b⟩) ∨
    ∃ owner gi command commands,
      decidedCommand cfg o ownerCommand s = some (owner, gi, command, commands) ∧
      setOwnerCommandStatus cfg o ownerCommand s = synchronized .ownerService
        (let r := applyDecision gi ownerCommand command s
        if r.result then ⟨r.state.saveOwner (owner.setCommands gi commands), r.effects, true⟩
        else ⟨r.state, r.effects, false⟩) := by
  unfold setOwnerCommandStatus decidedCommand
  by_cases ho : o = ""
  · exact .inl (by simp [ho])
  simp only [ho, if_false]
  cases hf : s.owners.find? o with
  | none => exact .inl (by simp)
  | some owner =>
    cases hi : ownerCommand.gatewayIdentity with
    | none => exact .inl (by simp)
    | some gi =>
      cases hl : owner.ownerCommands gi with
      | none => exact .inl (by simp [hl])
      | some l =>
        cases l with
        | nil => exact .inl (by simp [hl])
        | cons command commands =>
          simp only [hl, Option.bind_eq_bind, Option.bind_some]
          by_cases hn : command.seqNo = ownerCommand.seqNo
          · cases hc : equalsIgnoreCase cfg.charCase command.clientIdentity
                ownerCommand.clientIdentity with
            | true =>
              refine .inr ⟨owner, gi, command, commands, by simp [hn], ?_⟩
              simp [hn, Int32.lt_irrefl]
            | false => exact .inl (by simp [hn, Int32.lt_irrefl])
          · refine .inl ⟨by simp [hn], ?_⟩
            split
            case isTrue => exact ⟨true, rfl⟩
            case isFalse => exact ⟨false, by simp⟩

theorem setOwnerCommandStatus_transition (o : String) (ownerCommand : AtlasOwnerCommandDto) :
    Transition cfg s (.setOwnerCommandStatus o ownerCommand)
      (ledger (setOwnerCommandStatus cfg o ownerCommand s).effects)
      (setOwnerCommandStatus cfg o ownerCommand s).state := by
  obtain ⟨hnone, b, heq⟩ | ⟨owner, gi, command, commands, hsome, heq⟩ :=
    setOwnerCommandStatus_cases cfg s o ownerCommand
  · rw [heq, ledger_synchronized]
    exact .refused (by simp [acts, deciding, hnone])
  rw [heq, ledger_synchronized, synchronized_state]
  cases ht : decisionTarget gi ownerCommand command s with
  | none =>
    obtain ⟨hstate, hledger, hresult⟩ := applyDecision_of_none s ht
    simp only [hresult, hstate, hledger, Bool.false_eq_true, if_false]
    exact .refused (by simp [acts, deciding, hsome, ht])
  | some target =>
    obtain ⟨gateway, client⟩ := target
    obtain ⟨hresult, hout⟩ := applyDecision_of_some s owner commands ht
    have hd : deciding cfg o ownerCommand s =
        some ⟨owner, gi, command, commands, gateway, client⟩ := by simp [deciding, hsome, ht]
    simp only [hresult, if_true]
    split at hout
    case isTrue happroved =>
      rw [hout.1, hout.2]
      exact .approve hd happroved
    case isFalse hrejected =>
      rw [hout.1, hout.2]
      exact .reject hd (by simpa using hrejected)

/-- Every step is a transition. -/
theorem step_transition (e : Event) :
    Transition cfg s e (ledger (step cfg s e).2) (step cfg s e).1 := by
  cases e with
  | sendCommandToClient gi ci command => exact sendCommandToClient_transition cfg s gi ci command
  | setOwnerCommandStatus o ownerCommand =>
    exact setOwnerCommandStatus_transition cfg s o ownerCommand
  | fetchOwnerCommands o =>
    simp only [step, Handled.out, fetchOwnerCommands, ledger_synchronized, synchronized_state]
    split <;> exact .refused rfl
  | updateFirebaseToken o firebaseToken =>
    simp only [step, Handled.out, updateFirebaseToken, ledger_synchronized, synchronized_state]
    split
    · exact .refused rfl
    · split
      · exact .refused rfl
      · exact .newOwner o firebaseToken
  | messageReceived gi message => exact messageReceived_transition cfg s gi message
  | keepaliveTask b =>
    have hledger : ledger (keepaliveTask b s).effects = [] := by
      rw [keepaliveTask, ledger_synchronized, ledger, List.filter_map]
      simp [Function.comp_def, Effect.onCommand]
    simpa only [step, Handled.out, hledger] using .tick b
  | updateClientAlias gi ci newAlias =>
    simp only [step, Handled.out, updateClientAlias, ledger_synchronized, synchronized_state]
    split
    case h_1 => exact .refused rfl
    case h_2 gateway hg =>
      split
      case h_1 => exact .refused rfl
      case h_2 client hc =>
        exact .touch rfl hg (gateway.sameCommands_setClient
          (AtlasGateway.commandsOf_of_some hc).symm) (.inl rfl)
          (.inr (gateway.sameShown_setClient ci _))
  | readForDeletion gi ci =>
    simp only [step, Handled.out, readForDeletion]
    split
    case h_1 => exact .refused rfl
    case h_2 gateway hg => exact .read hg
  | deleteClient i =>
    simp only [step, Handled.out, deleteClient]
    split
    case h_1 h => exact .refused (by simp [acts, h])
    case h_2 gateway ci h => exact .delete h

/-! ## Reading requests that take effect -/

variable {cfg s} {ci : String} {type : AtlasClientCommandType} {seqNo : Int32}
  {rest : List AtlasClientCommandDto}

theorem issuing_eq_some_iff {name : String} :
    issuing cfg gi ci name s = some (gateway, client, type) ↔
      s.gateways.find? gi = some gateway ∧ gateway.clients ci = some client ∧
        commandType cfg name = some type := by
  simp only [issuing, Option.bind_eq_bind, Option.bind_eq_some_iff, Option.pure_def,
    Option.some.injEq, Prod.mk.injEq]
  grind

theorem acknowledging_eq_some
    (h : acknowledging gi seqNo s = some (gateway, command, rest, client)) :
    s.gateways.find? gi = some gateway ∧ gateway.gatewayPendingCmds = command :: rest ∧
      command.seqNo = seqNo ∧ gateway.clients command.clientIdentity = some client := by
  simp only [acknowledging, Option.bind_eq_bind, Option.bind_eq_some_iff] at h
  obtain ⟨gateway', hg, h⟩ := h
  split at h
  case h_1 => cases h
  case h_2 command' rest' hp =>
    simp only [Option.ite_none_right_eq_some, Option.bind_eq_some_iff, Option.pure_def,
      Option.some.injEq, Prod.mk.injEq] at h
    obtain ⟨hn, client', hc, rfl, rfl, rfl, rfl⟩ := h
    exact ⟨hg, hp, hn, hc⟩

theorem executing_eq_some (h : executing gi ci seqNo s = some (gateway, client)) :
    s.gateways.find? gi = some gateway ∧ gateway.clients ci = some client ∧
      ∃ cmd, findLast? seqNo client.transmittedCommands = some cmd ∧
        cmd.state ≠ .executedByClient := by
  simp only [executing, Option.bind_eq_bind, Option.bind_eq_some_iff, Option.ite_none_left_eq_some,
    Option.pure_def, Option.some.injEq, Prod.mk.injEq] at h
  obtain ⟨gateway', hg, client', hc, cmd, hl, hx, rfl, rfl⟩ := h
  exact ⟨hg, hc, cmd, hl, hx⟩

/-- What holds of a decision that is carried out. -/
structure Decision.Valid (cfg : Config) (o : String) (ownerCommand : AtlasOwnerCommandDto)
    (s : State) (d : Decision) : Prop where
  owner : s.owners.find? o = some d.owner
  gatewayIdentity : ownerCommand.gatewayIdentity = some d.gatewayIdentity
  commands : d.owner.ownerCommands d.gatewayIdentity = some (d.clientCommand :: d.commands)
  seqNo : d.clientCommand.seqNo = ownerCommand.seqNo
  clientIdentity :
    equalsIgnoreCase cfg.charCase d.clientCommand.clientIdentity ownerCommand.clientIdentity = true
  signed : ownerCommand.signed = true
  gateway : s.gateways.find? d.gatewayIdentity = some d.gateway
  client : d.gateway.clients d.clientCommand.clientIdentity = some d.client

theorem decidedCommand_eq_some {o : String} {owner : AtlasOwner}
    (h : decidedCommand cfg o ownerCommand s = some (owner, gi, command, rest)) :
    s.owners.find? o = some owner ∧ ownerCommand.gatewayIdentity = some gi ∧
      owner.ownerCommands gi = some (command :: rest) ∧ command.seqNo = ownerCommand.seqNo ∧
      equalsIgnoreCase cfg.charCase command.clientIdentity ownerCommand.clientIdentity = true := by
  simp only [decidedCommand, Option.ite_none_left_eq_some, Option.bind_eq_bind,
    Option.bind_eq_some_iff] at h
  grind

theorem Decision.valid_of_deciding {o : String} {d : Decision}
    (h : deciding cfg o ownerCommand s = some d) : d.Valid cfg o ownerCommand s := by
  simp only [deciding, Option.bind_eq_bind, Option.bind_eq_some_iff, Prod.exists, Option.pure_def,
    Option.some.injEq] at h
  obtain ⟨owner, gi, command, commands, hcommand, gateway, client, htarget, rfl⟩ := h
  obtain ⟨ho, hgi, hl, hn, hc⟩ := decidedCommand_eq_some hcommand
  obtain ⟨hsigned, -, hg, hclient, -⟩ := (decisionTarget_eq_some_iff s).mp htarget
  exact ⟨ho, hgi, hl, hn, hc, hsigned, hg, hclient⟩

/-! ## The commands of a gateway in the stored documents -/

namespace State

/-- The pending commands of a gateway. -/
def pending (i : String) (s : State) : List AtlasClientCommandDto :=
  ((s.gateways.find? i).map (·.gatewayPendingCmds)).getD []

/-- The commands of a gateway that wait for the decision of an owner. -/
def awaiting (o i : String) (s : State) : List AtlasClientCommandDto :=
  ((s.owners.find? o).bind (·.ownerCommands i)).getD []

variable {i o : String} {s : State} {gateway : AtlasGateway} {owner : AtlasOwner}

theorem pending_of_find? (h : s.gateways.find? i = some gateway) :
    s.pending i = gateway.gatewayPendingCmds := by
  simp [pending, h]

theorem awaiting_of_find? (h : s.owners.find? o = some owner) :
    s.awaiting o i = (owner.ownerCommands i).getD [] := by
  simp [awaiting, h]

theorem find?_saveGateway (gateway : AtlasGateway) (s : State) (i : String) :
    (s.saveGateway gateway).gateways.find? i =
      if i = gateway.identity then some gateway else s.gateways.find? i :=
  Table.find?_save gateway s.gateways i

theorem find?_keepaliveTask (b : Bool) (s : State) (i : String) :
    (keepaliveTask b s).state.gateways.find? i = (s.gateways.find? i).map (keepaliveGateway b) :=
  Table.find?_map (keepaliveGateway b) (keepaliveGateway_identity b) s.gateways i

theorem pending_saveGateway (gateway : AtlasGateway) (s : State) (i : String) :
    (s.saveGateway gateway).pending i =
      if i = gateway.identity then gateway.gatewayPendingCmds else s.pending i := by
  unfold pending
  rw [find?_saveGateway]
  split <;> rfl

theorem pending_keepaliveTask (b : Bool) (s : State) (i : String) :
    (keepaliveTask b s).state.pending i = s.pending i := by
  unfold pending
  rw [find?_keepaliveTask, Option.map_map]
  simp [Function.comp_def, (AtlasGateway.sameCommands_keepalive b _).pending]

theorem awaiting_saveOwner (owner : AtlasOwner) (s : State) (o i : String) :
    (s.saveOwner owner).awaiting o i =
      if o = owner.ownerIdentity then (owner.ownerCommands i).getD [] else s.awaiting o i := by
  unfold awaiting
  rw [saveOwner, Table.find?_save]
  split <;> rfl

/-- Storing what is left of one list changes that list only. -/
theorem awaiting_setCommands (h : s.owners.find? o = some owner) (gi : String)
    (commands : List AtlasClientCommandDto) (o' i : String) :
    (s.saveOwner (owner.setCommands gi commands)).awaiting o' i =
      if o' = o ∧ i = gi then commands else s.awaiting o' i := by
  obtain rfl : owner.ownerIdentity = o := Table.key_of_find? h
  rw [awaiting_saveOwner]
  by_cases ho : o' = owner.ownerIdentity
  · subst ho
    rw [awaiting_of_find? h]
    by_cases hi : i = gi
    · by_cases hc : commands = [] <;> simp [AtlasOwner.setCommands, hi, hc]
    · simp [AtlasOwner.setCommands, hi]
  · simp [AtlasOwner.setCommands, ho]

theorem ownerIdentity_ownerOrNew (o : String) (s : State) : (s.ownerOrNew o).ownerIdentity = o := by
  unfold ownerOrNew
  cases h : s.owners.find? o with
  | none => rfl
  | some owner => exact Table.key_of_find? h

theorem ownerCommands_ownerOrNew (o i : String) (s : State) :
    ((s.ownerOrNew o).ownerCommands i).getD [] = s.awaiting o i := by
  unfold ownerOrNew awaiting
  cases s.owners.find? o <;> rfl

/-- Creating the document of an owner changes no list. -/
theorem awaiting_newOwner (o o' i : String) (s : State) :
    (s.saveOwner (s.ownerOrNew o)).awaiting o' i = s.awaiting o' i := by
  rw [awaiting_saveOwner, ownerIdentity_ownerOrNew, ownerCommands_ownerOrNew]
  split
  case isTrue h => rw [h]
  case isFalse => rfl

/-- A command for the owner joins one list, unless the gateway or the owner has no name. -/
theorem awaiting_enqueueOwnerCommand (gi o : String) (command : AtlasClientCommandDto) (s : State)
    (o' i : String) :
    (enqueueOwnerCommand gi o command s).state.awaiting o' i =
      if o' = o ∧ i = gi ∧ o ≠ "" ∧ gi ≠ "" then s.awaiting o' i ++ [command]
      else s.awaiting o' i := by
  unfold enqueueOwnerCommand
  rw [synchronized_state]
  by_cases hgi : gi = ""
  · simp [hgi]
  by_cases ho : o = ""
  · simp [ho]
  simp only [hgi, ho, if_false, awaiting_saveOwner, AtlasOwner.addCommand, ownerIdentity_ownerOrNew]
  by_cases ho' : o' = o
  · subst ho'
    by_cases hi : i = gi
    · simp [hi, ho, hgi, ownerCommands_ownerOrNew]
    · simp [hi, ownerCommands_ownerOrNew]
  · simp [ho']

/-- Enqueueing a command for the owner touches no gateway. -/
@[simp] theorem gateways_enqueueOwnerCommand (gi o : String) (command : AtlasClientCommandDto)
    (s : State) : (enqueueOwnerCommand gi o command s).state.gateways = s.gateways := by
  unfold enqueueOwnerCommand
  rw [synchronized_state]
  split
  · rfl
  · split <;> rfl

@[simp] theorem deletions_enqueueOwnerCommand (gi o : String) (command : AtlasClientCommandDto)
    (s : State) : (enqueueOwnerCommand gi o command s).state.deletions = s.deletions := by
  unfold enqueueOwnerCommand
  rw [synchronized_state]
  split
  · rfl
  · split <;> rfl

end State

end Atlas.Cloud
