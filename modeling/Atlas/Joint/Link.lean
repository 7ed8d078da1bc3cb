import Atlas.Cloud.Transitions
import Atlas.Gateway.Installation

/-! # The cloud and one gateway over a lossy network

The two machines run side by side. What one publishes to the other is kept for good, and any message
ever sent can be delivered at any time and any number of times: a message that is never delivered is
lost, one delivered later than its successors is reordered, one delivered twice is duplicated.

The joint state also records the commands the gateway has accepted, which neither side reads.

Reference: `AtlasGatewayServiceImpl.java` (`sendGatewayCommand`, `messageReceived`),
`claim_approve/AtlasApprove.cpp` (`responseCommandACK`, `responseCommandDONE`).
-/

namespace Atlas.Joint

open EventMachine
open Cloud (AtlasClientCommandDto)
open Gateway (StdString CommandPayload DoneAckPayload DeviceTable JsonReader bytes)

/-- The two ends: the gateway's identity at the cloud, and what each side reads from outside. -/
structure Link where
  gatewayIdentity : String
  cfg : Cloud.Config
  crypto : Gateway.Crypto
  /-- What the gateway reads of the cloud's JSON. -/
  reader : JsonReader
  /-- The text the cloud reads from the bytes of a client identity. -/
  decode : StdString → String

/-! ## Messages -/

/-- A message of the cloud. -/
inductive ToGateway where
  | command (command : AtlasClientCommandDto)
  | doneAck (clientIdentity : String) (seqNo : Int32)
deriving DecidableEq

/-- A message of the gateway about a command. -/
inductive ToCloud where
  | ack (seqNo : UInt32)
  | done (clientIdentity : StdString) (seqNo : UInt32)
deriving DecidableEq

/-- The JSON payload of a command, as the gateway parses it. -/
def commandPayload (reader : JsonReader) (command : AtlasClientCommandDto) : CommandPayload where
  clientIdentity := reader.text command.clientIdentity
  type := reader.text command.type.toString
  payload := reader.text command.payload
  seqNo := reader.number command.seqNo
  signature := command.signature.elim reader.null reader.text

/-- The event a message is at the gateway. -/
def ToGateway.event (reader : JsonReader) : ToGateway → Gateway.Event
  | command c => .clientCommand (commandPayload reader c)
  | doneAck clientIdentity seqNo =>
    .commandDoneAck ⟨reader.text clientIdentity, reader.number seqNo⟩

/-- The command a message carries. -/
def ToGateway.command? : ToGateway → Option AtlasClientCommandDto
  | command c => some c
  | doneAck _ _ => none

/-- A JSON number read into a Java `int`, which fails above its range. -/
def javaInt (n : UInt32) : Option Int32 :=
  if n.toNat < 2147483648 then some (Int32.ofNat n.toNat) else none

/-- The message at the cloud, unless it cannot be parsed. -/
def ToCloud.message (link : Link) : ToCloud → Option Cloud.Message
  | ack seqNo => (javaInt seqNo).map .clientAck
  | done clientIdentity seqNo => (javaInt seqNo).map (.clientDone (link.decode clientIdentity))

/-- The message an effect of the cloud sends to the gateway, whose topic its document names. -/
def sent (link : Link) (s : Cloud.State) : Cloud.Effect → Option ToGateway
  | .publishCommand psk command =>
    if (s.gateways.find? link.gatewayIdentity).any (·.psk = psk) then some (.command command)
    else none
  | .publishDoneAck psk clientIdentity seqNo =>
    if (s.gateways.find? link.gatewayIdentity).any (·.psk = psk) then
      some (.doneAck clientIdentity seqNo)
    else none
  | _ => none

/-- The message an effect of the gateway sends to the cloud. -/
def reply? : Gateway.Effect → Option ToCloud
  | .publishAck sequenceNumber true => some (.ack sequenceNumber)
  | .publishDone identity sequenceNumber true => some (.done identity sequenceNumber)
  | _ => none

/-- The messages a gateway step sends. -/
def replies (ws : List Gateway.Effect) : List ToCloud := ws.filterMap reply?

/-! ## The joint machine -/

/-- Both machines, and every message sent so far. -/
structure State where
  cloud : Cloud.State
  gateway : Gateway.State
  toGateway : List ToGateway
  toCloud : List ToCloud
  /-- The commands the gateway has queued. -/
  accepted : List AtlasClientCommandDto

inductive Event where
  /-- A request or another message at the cloud. -/
  | cloud (e : Cloud.Event)
  /-- An event of the gateway that does not come from the cloud. -/
  | gateway (e : Gateway.Event) (env : Gateway.Env)
  /-- A claim request. -/
  | claim (insertOwner : Bool) (ownerSecretKey : StdString)
  /-- The `i`-th message to the gateway arrives. -/
  | toGateway (i : ℕ) (env : Gateway.Env)
  /-- The `i`-th message to the cloud arrives. -/
  | toCloud (i : ℕ)

/-- An ACK or DONE of the gateway, which reaches the cloud as a message only. -/
def Link.isReply (link : Link) : Cloud.Event → Bool
  | .messageReceived gatewayIdentity (.clientAck _) => gatewayIdentity = link.gatewayIdentity
  | .messageReceived gatewayIdentity (.clientDone _ _) => gatewayIdentity = link.gatewayIdentity
  | _ => false

/-- A command or a DONE-ACK, which reaches the gateway as a message only. -/
def fromCloud : Gateway.Event → Bool
  | .clientCommand _ => true
  | .commandDoneAck _ => true
  | _ => false

namespace State

/-- The cloud handles an event. -/
def cloudStep (link : Link) (e : Cloud.Event) (J : State) : State :=
  let r := Cloud.step link.cfg J.cloud e
  { J with cloud := r.1, toGateway := J.toGateway ++ r.2.filterMap (sent link r.1) }

/-- The gateway handles an event, which may carry a command of the cloud. -/
def gatewayStep (link : Link) (e : Gateway.Event) (env : Gateway.Env)
    (command : Option AtlasClientCommandDto) (J : State) : State × List ToCloud :=
  let r := J.gateway.step link.crypto (e, env)
  ({ J with
      gateway := r.1
      toCloud := J.toCloud ++ replies r.2
      accepted := J.accepted ++ if Gateway.appended r.2 = [] then [] else command.toList },
    replies r.2)

/-- One event; its outputs are the replies of the gateway. -/
def step (link : Link) (J : State) : Event → State × List ToCloud
  | .cloud e => if link.isReply e then (J, []) else (J.cloudStep link e, [])
  | .gateway e env => if fromCloud e then (J, []) else J.gatewayStep link e env none
  | .claim insertOwner ownerSecretKey =>
    ({ J with gateway := J.gateway.claimGateway insertOwner ownerSecretKey }, [])
  | .toGateway i env =>
    match J.toGateway[i]? with
    | none => (J, [])
    | some m => J.gatewayStep link (m.event link.reader) env m.command?
  | .toCloud i =>
    match J.toCloud[i]?.bind (ToCloud.message link) with
    | none => (J, [])
    | some message =>
      (J.cloudStep link (.messageReceived link.gatewayIdentity message), [])

/-- Any documents at the cloud and a gateway just installed, with nothing sent. -/
def install (cloud : Cloud.State) (identity : StdString) (claimed : Bool)
    (ownerSecretKey : StdString) (device : DeviceTable) : State where
  cloud := cloud
  gateway := Gateway.State.fresh identity claimed ownerSecretKey device
  toGateway := []
  toCloud := []
  accepted := []

end State

/-! ## What a joint run keeps -/

/-- The gateway can serve the command: its number is one, and its client has a PSK. -/
structure Serves (reader : JsonReader) (device : DeviceTable) (command : AtlasClientCommandDto) :
    Prop where
  seqNo : ∃ n, (commandPayload reader command).seqNo.asUInt = some n
  hasPsk : device.HasPsk (bytes command.clientIdentity)

/-- Devices in memory have a PSK, and every accepted command can be served. -/
structure Sound (reader : JsonReader) (J : State) : Prop where
  provisioned : J.gateway.Provisioned
  serves : ∀ command ∈ J.accepted, Serves reader J.gateway.db.device command

theorem install_sound (reader : JsonReader) (cloud : Cloud.State) (identity : StdString)
    (claimed : Bool) (ownerSecretKey : StdString) (device : DeviceTable) :
    Sound reader (.install cloud identity claimed ownerSecretKey device) :=
  ⟨Gateway.State.fresh_provisioned _ _ _ _, by simp [State.install]⟩

section Sound

variable {link : Link} {J : State}

/-- A step of the gateway keeps what holds of the accepted commands, and what it accepts from a
message of the cloud it can serve. -/
theorem Sound.gatewayStep (h : Sound link.reader J) {e : Gateway.Event} (env : Gateway.Env)
    {command : Option AtlasClientCommandDto}
    (he : ∀ c ∈ command, e = .clientCommand (commandPayload link.reader c)) :
    Sound link.reader (J.gatewayStep link e env command).1 := by
  have ht := Gateway.State.step_transition link.crypto env J.gateway e
  refine ⟨ht.provisioned h.provisioned, fun c hc => ?_⟩
  simp only [State.gatewayStep, ht.device]
  rcases List.mem_append.mp hc with hc | hc
  · exact h.serves c hc
  split at hc
  · exact absurd hc (by simp)
  · rename_i happ
    have hcommand : c ∈ command := by simpa using hc
    obtain rfl := he c hcommand
    obtain ⟨identity, n, hclient, hseq, hpsk⟩ := ht.hasPsk_of_appended h.provisioned happ
    obtain rfl : bytes c.clientIdentity = identity := by
      exact Option.some.inj ((link.reader.asString_text _).symm.trans hclient)
    exact ⟨⟨n, hseq⟩, hpsk⟩

theorem Sound.step (h : Sound link.reader J) (e : Event) : Sound link.reader (J.step link e).1 := by
  cases e with
  | cloud e =>
    simp only [State.step]
    split
    · exact h
    · exact ⟨h.provisioned, h.serves⟩
  | gateway e env =>
    simp only [State.step]
    split
    · exact h
    · exact h.gatewayStep env (by simp)
  | claim insertOwner ownerSecretKey =>
    simp only [State.step]
    rcases J.gateway.claimGateway_cases insertOwner ownerSecretKey with hc | hc <;> rw [hc] <;>
      exact ⟨h.provisioned, h.serves⟩
  | toGateway i env =>
    simp only [State.step]
    split
    · exact h
    · rename_i m _
      refine h.gatewayStep env fun c hc => ?_
      cases m with
      | command c' => rw [Option.mem_some.mp hc]; rfl
      | doneAck => exact absurd hc (by simp [ToGateway.command?])
  | toCloud i =>
    simp only [State.step]
    split
    · exact h
    · exact ⟨h.provisioned, h.serves⟩

theorem sound_of_reachable {cloud : Cloud.State} {identity ownerSecretKey : StdString}
    {claimed : Bool} {device : DeviceTable}
    (h : Reachable (State.step link) (.install cloud identity claimed ownerSecretKey device) J) :
    Sound link.reader J :=
  h.invariant (fun _ e hJ => hJ.step e) (install_sound _ _ _ _ _ _)

end Sound

end Atlas.Joint
