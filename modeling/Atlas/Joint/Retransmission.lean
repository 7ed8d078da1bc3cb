import Atlas.Joint.Link

/-! # Retransmission of an accepted command

The cloud keeps a command at the head of its pending queue until the ACK arrives, and sends the head
again when the gateway registers. The gateway answers a command it has already accepted by the state
of the row: ACK while the row is waiting for its client, DONE once it is executed, nothing once it
is deleted. Only the first answer takes the command off the queue, so the retransmission unblocks
the cloud exactly when the row is still there and not executed, or when the counter is below the
command's number and the command is accepted anew.

Reference: `claim_approve/AtlasApprove.cpp` (`handleOldCommand`), `AtlasGatewayServiceImpl.java`
(`registerNow`, `handleClientCommandAck`, `handleClientCommandDone`).
-/

/-! ## The answer of the gateway -/

namespace Atlas.Gateway.State

/-- The gateway answers the command with an ACK: it passes the checks, and its number is above
`sequenceNumber_` or its row is stored and not executed. -/
def acknowledges (crypto : Crypto) (p : CommandPayload) (g : State) : Bool :=
  match checkCommand crypto g p, p.seqNo.asUInt with
  | .ok (some _), some n =>
    g.sequenceNumber < n ||
      g.db.checkDeviceCommandBySeqNo true n && !g.db.checkDeviceCommandForExecution true n
  | _, _ => false

end Atlas.Gateway.State

namespace Atlas.Joint

open EventMachine
open Cloud (AtlasClientCommandDto AtlasGateway AtlasClient)
open Gateway (StdString CommandPayload DeviceTable CommandDevice Env bytes)
open Gateway.State (acknowledges checkCommand handleClientCommand handleOldCommand acceptCommand
  responseCommandDONE pushCommand)

@[simp] theorem replies_append (ws ws' : List Gateway.Effect) :
    replies (ws ++ ws') = replies ws ++ replies ws' := List.filterMap_append

section Answers

variable {crypto : Gateway.Crypto} {env : Env} {g : Gateway.State} {p : CommandPayload}
  {n : UInt32} {identity type payload : StdString}

/-- No ACK among the messages, and at most one message. -/
def NoAck (ms : List ToCloud) : Prop := ms = [] ∨ ∃ identity n, ms = [.done identity n]

theorem replies_pushCommand (env : Env) (identity : StdString) (g : Gateway.State) :
    replies (pushCommand env identity g).effects = [] := by
  rcases Gateway.State.pushCommand_cases env identity g with
    ⟨-, h⟩ | ⟨d, cmd, rest, -, -, -, -, -, h⟩ <;> rw [h] <;> rfl

theorem noAck_responseCommandDONE (env : Env) (identity : StdString) (g : Gateway.State) :
    NoAck (replies (responseCommandDONE env identity g).effects) := by
  cases h : (Gateway.State.getDevice env identity g).2 with
  | none =>
    rw [Gateway.State.responseCommandDONE_of_none h]
    exact .inl rfl
  | some d =>
    obtain ⟨n, hn⟩ := Gateway.State.responseCommandDONE_of_some h
    rw [hn]
    cases env.publishDone identity with
    | true => exact .inr ⟨identity, n, rfl⟩
    | false => exact .inl rfl

/-- A new command of a client with a PSK is acknowledged. -/
theorem replies_acceptCommand (hsql : env.SqlOk) (hack : env.publishAck = true)
    (hpsk : g.db.device.HasPsk identity) {json : Gateway.JsonValue}
    (hpayload : json.asString = some payload) :
    replies (acceptCommand env n identity type json g).effects = [.ack n] := by
  obtain ⟨g₁, d, hget⟩ := Gateway.State.getDevice_of_hasPsk hsql.selectDevicePsk hpsk
  obtain ⟨id, hid⟩ := DeviceTable.getIdDevice_of_hasPsk hpsk
  have hrow : g₁.db.insertedRow env.insertDeviceCommand n type payload identity =
      some ⟨id, n, type, payload, false⟩ := by
    rw [Gateway.State.getDevice_db_eq hget, Gateway.Database.insertedRow_eq_some_iff,
      hsql.insertDeviceCommand]
    exact ⟨rfl, rfl, id, hid, rfl⟩
  have hmax : env.insertDeviceCommand.updateMaxSeqNo = true := by rw [hsql.insertDeviceCommand]
  simp only [acceptCommand, hget, hpayload, Gateway.Database.insertDeviceCommand, hrow,
    Gateway.Database.updateMaxSequenceNumber, hmax, if_true,
    Gateway.State.responseCommandACK_result, Gateway.State.responseCommandACK_effects, hack,
    replies_append, replies_pushCommand]
  rfl

/-- An old command is acknowledged when its row is stored and not executed. -/
theorem replies_handleOldCommand (hsql : env.SqlOk) (hack : env.publishAck = true)
    (hrow : g.db.checkDeviceCommandBySeqNo true n = true)
    (hexec : g.db.checkDeviceCommandForExecution true n = false) :
    replies (handleOldCommand env n identity g).effects = [.ack n] := by
  simp only [handleOldCommand, hsql.checkDeviceCommandBySeqNo, hrow, if_true,
    hsql.checkDeviceCommandForExecution, hexec, Bool.false_eq_true, if_false,
    Gateway.State.responseCommandACK_effects, hack]
  rfl

/-- An old command whose row is executed or gone gets no ACK. -/
theorem noAck_handleOldCommand (hsql : env.SqlOk)
    (h : (g.db.checkDeviceCommandBySeqNo true n &&
      !g.db.checkDeviceCommandForExecution true n) = false) :
    NoAck (replies (handleOldCommand env n identity g).effects) := by
  simp only [handleOldCommand, hsql.checkDeviceCommandBySeqNo, hsql.checkDeviceCommandForExecution]
  cases hrow : g.db.checkDeviceCommandBySeqNo true n with
  | false => exact .inl rfl
  | true =>
    rw [hrow, Bool.true_and, Bool.not_eq_false'] at h
    simp only [if_true, h]
    exact noAck_responseCommandDONE env identity _

/-- The gateway's answer to a command of a client with a PSK. -/
theorem replies_clientCommand (crypto : Gateway.Crypto) (p : CommandPayload) (hsql : env.SqlOk)
    (hack : env.publishAck = true) (hclient : p.clientIdentity.asString = some identity)
    (hpayload : p.payload.asString = some payload) (hseq : p.seqNo.asUInt = some n)
    (hpsk : g.db.device.HasPsk identity) :
    if g.acknowledges crypto p then
      replies (handleClientCommand crypto env p g).effects = [.ack n]
    else NoAck (replies (handleClientCommand crypto env p g).effects) := by
  cases hcheck : checkCommand crypto g p with
  | error e =>
    simp only [acknowledges, hcheck, handleClientCommand]
    exact .inl rfl
  | ok r =>
  rcases r with _ | ⟨identity', type⟩
  · simp only [acknowledges, hcheck, handleClientCommand]
    exact .inl rfl
  obtain rfl : identity = identity' := by
    have := (Gateway.State.asString_of_checkCommand hcheck).1
    rwa [hclient, Option.some.injEq] at this
  simp only [acknowledges, hcheck, hseq, handleClientCommand]
  by_cases hle : n ≤ g.sequenceNumber
  · have hlt : ¬ g.sequenceNumber < n := by grind
    simp only [hle, if_true, hlt, decide_false, Bool.false_or]
    split
    · rename_i hrow
      rw [Bool.and_eq_true, Bool.not_eq_true'] at hrow
      exact replies_handleOldCommand hsql hack hrow.1 hrow.2
    · rename_i hrow
      exact noAck_handleOldCommand hsql (by simpa using hrow)
  · have hlt : g.sequenceNumber < n := by grind
    simp only [hle, if_false, hlt, decide_true, Bool.true_or, if_true]
    exact replies_acceptCommand hsql hack hpsk hpayload

end Answers

end Atlas.Joint

/-! ## What the cloud makes of it -/

namespace Atlas.Cloud

/-- The client exists in the document of the gateway. -/
def State.hasClient (gatewayIdentity clientIdentity : String) (s : State) : Bool :=
  (s.gateways.find? gatewayIdentity).any fun gateway => (gateway.clients clientIdentity).isSome

section Pending

variable {cfg : Config} {s : State} {gi : String} {gateway : AtlasGateway}

theorem State.exists_of_hasClient {clientIdentity : String} (h : s.hasClient gi clientIdentity) :
    ∃ gateway client, s.gateways.find? gi = some gateway ∧
      gateway.clients clientIdentity = some client := by
  obtain ⟨gateway, hfind, hclient⟩ := (Option.any_eq_true _ _).mp h
  obtain ⟨client, hclient⟩ := Option.isSome_iff_exists.mp hclient
  exact ⟨gateway, client, hfind, hclient⟩

/-- Saving the document of this gateway. -/
theorem State.pending_saveGateway_of_find? (h : s.gateways.find? gi = some gateway)
    {gateway' : AtlasGateway} (hid : gateway'.identity = gateway.identity) :
    (s.saveGateway gateway').pending gi = gateway'.gatewayPendingCmds := by
  rw [pending_saveGateway, if_pos (by rw [hid, Table.key_of_find? h])]

/-- The document as a registration stores it. -/
def AtlasGateway.online (cfg : Config) (gateway : AtlasGateway) : AtlasGateway :=
  { gateway with registered := true, keepaliveCounter := cfg.keepaliveCounter }

/-- A registration keeps the queue and sends its head. -/
theorem step_register (h : s.gateways.find? gi = some gateway) {command : AtlasClientCommandDto}
    {rest : List AtlasClientCommandDto} (hpending : gateway.gatewayPendingCmds = command :: rest) :
    step cfg s (.messageReceived gi .register) = (s.saveGateway (gateway.online cfg),
      [.enter .gatewayService, .publishCommand gateway.psk command, .exit .gatewayService]) := by
  simp [step, messageReceived, h, registerNow, Handled.out, synchronized, sendGatewayCommand,
    AtlasGateway.online, hpending]

/-- The ACK of the head takes it off the queue when its client exists. -/
theorem pending_clientAck (h : s.gateways.find? gi = some gateway)
    {command : AtlasClientCommandDto} {rest : List AtlasClientCommandDto} {client : AtlasClient}
    (hpending : gateway.gatewayPendingCmds = command :: rest)
    (hclient : gateway.clients command.clientIdentity = some client) :
    (step cfg s (.messageReceived gi (.clientAck command.seqNo))).1.pending gi = rest := by
  simp only [step, messageReceived, Handled.out, synchronized_state, h, handleClientCommandAck,
    hpending, ne_eq, not_true_eq_false, if_false, hclient]
  exact State.pending_saveGateway_of_find? h (by rfl)

/-- A DONE never changes the queue. -/
theorem pending_clientDone (cfg : Config) (clientIdentity : String) (seqNo : Int32) :
    (step cfg s (.messageReceived gi (.clientDone clientIdentity seqNo))).1.pending gi =
      s.pending gi := by
  simp only [step, messageReceived, Handled.out, synchronized_state]
  split
  · rfl
  rename_i gateway h
  simp only [handleClientCommandDone]
  split
  · rfl
  split
  · rfl
  split
  · rfl
  · rw [State.pending_of_find? h]
    exact State.pending_saveGateway_of_find? h (by rfl)

end Pending

end Atlas.Cloud

/-! ## One retransmission -/

namespace Atlas.Joint

open EventMachine
open Cloud (AtlasClientCommandDto AtlasGateway AtlasClient)
open Gateway (StdString DeviceTable Env JsonReader bytes)

/-- The cloud sends the head of the queue because the gateway registers, the gateway handles it, and
the reply, of which there is at most one, reaches the cloud. -/
def retransmission (link : Link) (env : Env) (J : State) : List Event :=
  [.cloud (.messageReceived link.gatewayIdentity .register),
    .toGateway J.toGateway.length env,
    .toCloud J.toCloud.length]

section Retransmission

variable {link : Link} {env : Env} {J : State} {d : AtlasClientCommandDto}
  {rest : List AtlasClientCommandDto}

/-- A number the gateway could read comes back as the number the cloud sent. -/
theorem javaInt_of_asUInt (reader : JsonReader) {m : Int32} {n : UInt32}
    (h : (reader.number m).asUInt = some n) : javaInt n = some m := by
  have hn := reader.asUInt_number m n h
  have hlt := m.toInt_lt
  rw [javaInt, if_pos (by omega), Option.some.injEq]
  apply Int32.toInt_inj.mp
  rw [Int32.toInt_ofNat_of_lt (by omega), hn]

/-- A reply that is not an ACK leaves the queue of the cloud alone. -/
theorem pending_toCloud_of_noAck {i : ℕ} {ms : List ToCloud} (h : NoAck ms)
    (hsent : J.toCloud[i]? = ms[0]?) :
    (J.step link (.toCloud i)).1.cloud.pending link.gatewayIdentity =
      J.cloud.pending link.gatewayIdentity := by
  rcases h with rfl | ⟨identity, n, rfl⟩
  · simp [State.step, hsent]
  · simp only [State.step, hsent, List.getElem?_cons_zero, Option.bind_some, ToCloud.message]
    cases javaInt n with
    | none => rfl
    | some m => exact Cloud.pending_clientDone link.cfg _ m

/-- A command published on the topic of the gateway's document is sent to the gateway. -/
theorem filterMap_sent_publishCommand {s : Cloud.State} {gateway : AtlasGateway} {psk : String}
    (h : s.gateways.find? link.gatewayIdentity = some gateway) (hpsk : gateway.psk = psk)
    (d : AtlasClientCommandDto) :
    [.enter .gatewayService, .publishCommand psk d, .exit .gatewayService].filterMap
      (sent link s) = [.command d] := by
  have hd : sent link s (.publishCommand psk d) = some (.command d) := by
    simp [sent, h, hpsk]
  rw [List.filterMap_cons_none rfl, List.filterMap_cons_some hd]
  rfl

/-- After the registration the head is the next message to the gateway, and still the head. -/
theorem step_retransmit (link : Link) (hpending : J.cloud.pending link.gatewayIdentity = d :: rest)
    (hclient : J.cloud.hasClient link.gatewayIdentity d.clientIdentity) :
    ∃ s gateway client, (J.step link
        (.cloud (.messageReceived link.gatewayIdentity .register))).1 =
        { J with cloud := s, toGateway := J.toGateway ++ [.command d] } ∧
      s.gateways.find? link.gatewayIdentity = some gateway ∧
      gateway.gatewayPendingCmds = d :: rest ∧ gateway.clients d.clientIdentity = some client := by
  obtain ⟨gateway, client, hfind, hclient⟩ := Cloud.State.exists_of_hasClient hclient
  rw [Cloud.State.pending_of_find? hfind] at hpending
  have hid : link.gatewayIdentity = (gateway.online link.cfg).identity :=
    (Table.key_of_find? hfind).symm
  have hsaved : (J.cloud.saveGateway (gateway.online link.cfg)).gateways.find?
      link.gatewayIdentity = some (gateway.online link.cfg) := by
    rw [Cloud.State.find?_saveGateway, if_pos hid]
  have hpsk : (gateway.online link.cfg).psk = gateway.psk := rfl
  refine ⟨_, gateway.online link.cfg, client, ?_, hsaved, hpending, hclient⟩
  simp only [State.step, Link.isReply, Bool.false_eq_true, if_false, State.cloudStep,
    Cloud.step_register hfind hpending, filterMap_sent_publishCommand hsaved hpsk d]

/-- The head of the queue, accepted before by the gateway, is retransmitted and the reply delivered:
the cloud takes it off the queue exactly when the gateway answers with an ACK. -/
theorem retransmission_unblocks_iff (link : Link) (cloud : Cloud.State) (identity : StdString)
    (claimed : Bool) (ownerSecretKey : StdString) (device : DeviceTable) (J : State)
    (hreach : Reachable (State.step link)
      (.install cloud identity claimed ownerSecretKey device) J)
    (d : AtlasClientCommandDto) (rest : List AtlasClientCommandDto)
    (hpending : J.cloud.pending link.gatewayIdentity = d :: rest) (haccepted : d ∈ J.accepted)
    (hclient : J.cloud.hasClient link.gatewayIdentity d.clientIdentity = true)
    (env : Env) (hsql : env.SqlOk) (hack : env.publishAck = true) :
    (run (State.step link) J (retransmission link env J)).cloud.pending link.gatewayIdentity =
      rest ↔ J.gateway.acknowledges link.crypto (commandPayload link.reader d) = true := by
  obtain ⟨⟨n, hseq⟩, hpsk⟩ := (sound_of_reachable hreach).serves d haccepted
  obtain ⟨s, gateway, client, hJ₁, hfind, hpending₁, hclient₁⟩ :=
    step_retransmit link hpending hclient
  have hanswer := replies_clientCommand link.crypto (commandPayload link.reader d) hsql hack
    (link.reader.asString_text _) (link.reader.asString_text _) hseq hpsk
  simp only [retransmission, run_cons, run_nil, hJ₁]
  -- the gateway handles the last message sent to it
  generalize hJ₂ : (State.step link { J with cloud := s, toGateway := J.toGateway ++ [.command d] }
    (.toGateway J.toGateway.length env)).1 = J₂
  simp only [State.step, List.getElem?_concat_length] at hJ₂
  have hcloud : J₂.cloud = s := by
    rw [← hJ₂]
    rfl
  have hsent : J₂.toCloud[J.toCloud.length]? =
      (replies (Gateway.State.handleClientCommand link.crypto env
        (commandPayload link.reader d) J.gateway).effects)[0]? := by
    rw [← hJ₂]
    exact (List.getElem?_append_right le_rfl).trans (by rw [Nat.sub_self]; rfl)
  split at hanswer
  case isTrue hyes =>
    refine iff_of_true ?_ hyes
    simp only [State.step, hsent, hanswer, List.getElem?_cons_zero, Option.bind_some,
      ToCloud.message, javaInt_of_asUInt link.reader hseq, Option.map_some, State.cloudStep, hcloud]
    exact Cloud.pending_clientAck hfind hpending₁ hclient₁
  case isFalse hno =>
    refine iff_of_false ?_ hno
    rw [pending_toCloud_of_noAck hanswer hsent, hcloud, Cloud.State.pending_of_find? hfind,
      hpending₁]
    exact List.cons_ne_self d rest

end Retransmission

/-! ## A gateway without an owner -/

/-- The link of the sample gateway. Identities are ASCII. -/
def sampleLink : Link where
  gatewayIdentity := "gw"
  cfg := Cloud.sampleConfig
  crypto := Gateway.sampleCrypto
  reader := Gateway.sampleReader
  decode := fun s => String.ofList (s.map fun b => Char.ofNat b.toNat)

/-- The sample cloud and gateway before anyone claims the gateway. -/
def sampleInstall : State :=
  .install { Cloud.sampleCloud with
      gateways := ⟨[{ Cloud.sampleGateway with owner := none }], by simp⟩ }
    (bytes "gw") false [] Gateway.sampleDevices

/-- A restart of the lamp is issued, delivered and pushed; its ACK is not delivered. -/
def acceptedLamp : List Event :=
  [.cloud Cloud.restartLamp,
    .gateway (.register (bytes "lamp") (bytes "10.0.0.2:5683")) Env.ok,
    .toGateway 0 Env.ok]

/-- The lamp then executes it; the DONE is not delivered either. -/
def executedLamp : List Event := acceptedLamp ++ [.gateway (.coapReply 0 .ok) Env.ok]

/-- The restart of the lamp. -/
def lampRestart : AtlasClientCommandDto := ⟨"lamp", "lamp", .deviceRestart, "", 1, none⟩

/-- The theorem while the lamp has not executed the command: the queue is empty afterwards. -/
theorem retransmission_unblocks_waiting :
    let J := run (State.step sampleLink) sampleInstall acceptedLamp
    J.cloud.pending "gw" = [lampRestart] ∧
      (run (State.step sampleLink) J (retransmission sampleLink Env.ok J)).cloud.pending "gw" =
        [] := by
  refine ⟨by decide, ?_⟩
  exact (retransmission_unblocks_iff sampleLink _ _ _ _ _ _ ⟨acceptedLamp, rfl⟩ lampRestart []
    (by decide) (by decide) (by decide) Env.ok Gateway.Env.ok_sqlOk rfl).mpr (by decide)

/-- Once the lamp has executed the command, the gateway answers the retransmission with a DONE, and
the command stays at the head of the queue. -/
theorem retransmission_blocked_executed :
    let J := run (State.step sampleLink) sampleInstall executedLamp
    J.cloud.pending "gw" = [lampRestart] ∧ lampRestart ∈ J.accepted ∧
      J.cloud.hasClient "gw" "lamp" = true ∧
      trace (State.step sampleLink) J (retransmission sampleLink Env.ok J) =
        [.done (bytes "lamp") 1] ∧
      (run (State.step sampleLink) J (retransmission sampleLink Env.ok J)).cloud.pending "gw" =
        [lampRestart] := by
  decide

end Atlas.Joint
