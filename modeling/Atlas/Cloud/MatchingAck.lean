import Atlas.Cloud.Transitions

/-! # ACKs for the first pending command

An ACK with the number of the first pending command takes that command from the queue and sends the
next one. It does so only while the gateway still has the client of the command: the deletion of a
client leaves its pending commands in the queue, and the first of them then holds up the queue for
good.

Reference: `AtlasGatewayServiceImpl.java` (`handleClientCommandAck`, `deleteClient`,
`sendGatewayCommand`).
-/

namespace Atlas.Cloud

open EventMachine

/-- A published command, with the key of the gateway it goes to. -/
def Effect.published : Effect → Option (String × AtlasClientCommandDto)
  | .publishCommand psk command => some (psk, command)
  | _ => none

/-- On the ACK for its first pending command, a gateway keeps exactly the commands behind it, and
the next of them is published if the gateway is registered. -/
def Advances (cfg : Config) (s : State) (gateway : AtlasGateway) (command : AtlasClientCommandDto)
    (pending : List AtlasClientCommandDto) : Prop :=
  (step cfg s (.messageReceived gateway.identity (.clientAck command.seqNo))).1.pending
      gateway.identity = pending ∧
    (step cfg s (.messageReceived gateway.identity (.clientAck command.seqNo))).2.filterMap
        Effect.published =
      if gateway.registered then pending.head?.toList.map (gateway.psk, ·) else []

variable {cfg : Config} {s : State} {gi : String} {gateway : AtlasGateway}
  {command : AtlasClientCommandDto} {pending : List AtlasClientCommandDto}

theorem published_sendGatewayCommand (gateway : AtlasGateway) :
    (sendGatewayCommand gateway).filterMap Effect.published =
      if gateway.registered then gateway.gatewayPendingCmds.head?.toList.map (gateway.psk, ·)
      else [] := by
  rw [sendGatewayCommand]
  split
  · split <;> simp_all [Effect.published]
  · rfl

/-- The ACK for the first pending command, when its client is there and when it is not. -/
theorem handleClientCommandAck_of_first (hpending : gateway.gatewayPendingCmds = command :: pending)
    (s : State) :
    handleClientCommandAck command.seqNo gateway s =
      match gateway.clients command.clientIdentity with
      | none => ⟨s, [], ()⟩
      | some client =>
        ⟨s.saveGateway (gateway.delivered command pending client),
          .acknowledged gateway.identity command ::
            sendGatewayCommand (gateway.delivered command pending client), ()⟩ := by
  rw [handleClientCommandAck, hpending]
  simp only [ne_eq, not_true_eq_false, if_false]
  rfl

/-- The queue advances when the gateway has the client of the command. -/
theorem advances_of_client {client : AtlasClient} (cfg : Config)
    (hfind : s.gateways.find? gi = some gateway)
    (hpending : gateway.gatewayPendingCmds = command :: pending)
    (hclient : gateway.clients command.clientIdentity = some client) :
    Advances cfg s gateway command pending := by
  obtain rfl : gateway.identity = gi := Table.key_of_find? hfind
  simp only [Advances, step, Handled.out, messageReceived, synchronized, hfind,
    handleClientCommandAck_of_first hpending, hclient]
  refine ⟨?_, ?_⟩
  · rw [State.pending_saveGateway]
    exact if_pos rfl
  · rw [List.filterMap_cons_none rfl, List.cons_append, List.filterMap_cons_none rfl,
      List.filterMap_append, published_sendGatewayCommand]
    exact List.append_nil _

/-- The ACK for the first pending command of a gateway advances its queue exactly when the gateway
has the client of the command. -/
theorem matching_ack_advances_iff (cfg : Config) (s : State) (gi : String)
    (hfind : s.gateways.find? gi = some gateway)
    (hpending : gateway.gatewayPendingCmds = command :: pending) :
    Advances cfg s gateway command pending ↔
      (gateway.clients command.clientIdentity).isSome = true := by
  constructor
  · rintro ⟨hstored, -⟩
    by_contra hnone
    rw [Option.not_isSome_iff_eq_none] at hnone
    obtain rfl : gateway.identity = gi := Table.key_of_find? hfind
    -- without the client nothing is saved, so the command is still there
    simp only [step, Handled.out, messageReceived, synchronized, hfind,
      handleClientCommandAck_of_first hpending, hnone, State.pending_of_find? hfind,
      hpending] at hstored
    exact List.cons_ne_self command pending hstored
  · intro hsome
    obtain ⟨client, hclient⟩ := Option.isSome_iff_exists.mp hsome
    exact advances_of_client cfg hfind hpending hclient

/-- A registered gateway without owner, before its clients are known. -/
def freshCloud : State where
  gateways := ⟨[{ AtlasGateway.new "gw" "psk" with registered := true }], by simp⟩
  owners := ⟨[], List.nodup_nil⟩
  deletions := []

/-- The lamp appears and gets two commands. -/
def lampRun : List Event :=
  [.messageReceived "gw" (.clientInfoUpdate "lamp"), restartLamp, restartLamp]

/-- The second command of the lamp is sent on the ACK for the first. -/
theorem matching_ack_sends_next :
    ∃ gateway command next, (run (step sampleConfig) freshCloud lampRun).gateways.find? "gw" =
        some gateway ∧
      gateway.gatewayPendingCmds = [command, next] ∧
      Advances sampleConfig (run (step sampleConfig) freshCloud lampRun) gateway command [next] :=
  ⟨_, _, _, rfl, rfl, (matching_ack_advances_iff sampleConfig _ "gw" rfl rfl).mpr rfl⟩

/-- The lamp is deleted while it has two pending commands, and the ACK for the first one leaves both
in the queue. -/
theorem ack_after_deletion_blocks :
    ∃ gateway command next,
      (run (step sampleConfig) freshCloud
          (lampRun ++ [.readForDeletion "gw" "lamp", .deleteClient 0])).gateways.find? "gw" =
        some gateway ∧
      gateway.gatewayPendingCmds = [command, next] ∧ command.seqNo = 1 ∧
      (step sampleConfig (run (step sampleConfig) freshCloud
          (lampRun ++ [.readForDeletion "gw" "lamp", .deleteClient 0]))
        (.messageReceived "gw" (.clientAck 1))).1.pending "gw" = [command, next] ∧
      (step sampleConfig (run (step sampleConfig) freshCloud
          (lampRun ++ [.readForDeletion "gw" "lamp", .deleteClient 0]))
        (.messageReceived "gw" (.clientAck 1))).2.filterMap Effect.published = [] :=
  ⟨_, _, _, rfl, rfl, rfl, rfl, rfl⟩

end Atlas.Cloud
