import Atlas.Cloud.Transitions
import Mathlib.Data.List.Forall2

/-! # Executed commands

The state of a command is written by the ACK and DONE handlers and by the decisions of the owner.
Only the DONE handler looks at the state first. A command in state EXECUTED_BY_CLIENT keeps it
exactly as long as no ACK is taken for a command already executed and no decision is carried out on
one.

Reference: `handleClientCommandAck`, `handleClientCommandDone`, `sendApprovedCommandToClient`,
`markCommandAsRejected`.
-/

namespace Atlas.Cloud

open EventMachine

/-- The client has executed the command. -/
def AtlasClientCommand.executed (cmd : AtlasClientCommand) : Bool := cmd.state = .executedByClient

/-! ## Lists of commands -/

/-- Every executed command of the first list is executed in the second one, at the same place. -/
def Kept (l l' : List AtlasClientCommand) : Prop :=
  ∀ (k : ℕ) (cmd : AtlasClientCommand), l[k]? = some cmd → cmd.executed = true →
    ∃ cmd', l'[k]? = some cmd' ∧ cmd'.executed = true

theorem Kept.refl (l : List AtlasClientCommand) : Kept l l := fun _ cmd h hx => ⟨cmd, h, hx⟩

theorem Kept.nil (l : List AtlasClientCommand) : Kept [] l := fun _ _ h => by simp at h

theorem Kept.append (l l' : List AtlasClientCommand) : Kept l (l ++ l') := fun k cmd h hx =>
  ⟨cmd, by rw [List.getElem?_append_left (List.getElem?_eq_some_iff.mp h).1, h], hx⟩

theorem kept_cons {a b : AtlasClientCommand} {l l' : List AtlasClientCommand} :
    Kept (a :: l) (b :: l') ↔ (a.executed = true → b.executed = true) ∧ Kept l l' := by
  constructor
  · refine fun h => ⟨fun hx => ?_, fun k cmd hk hx => h (k + 1) cmd hk hx⟩
    obtain ⟨cmd', hcmd', hx'⟩ := h 0 a rfl hx
    obtain rfl : b = cmd' := by simpa using hcmd'
    exact hx'
  · rintro ⟨hab, h⟩ k cmd hk hx
    cases k with
    | zero =>
      obtain rfl : a = cmd := by simpa using hk
      exact ⟨b, rfl, hab hx⟩
    | succ k => exact h k cmd hk hx

section Lists

variable {state : AtlasClientCommandState} (seqNo : Int32)

/-- Writing another state to the first command with a number loses an execution exactly when that
command is executed. -/
theorem kept_setStateFirst_iff (hstate : state ≠ .executedByClient) (l : List AtlasClientCommand) :
    Kept l (setStateFirst seqNo state l) ↔
      (l.find? (·.seqNo = seqNo)).any (·.executed) = false := by
  induction l with
  | nil => simp [Kept.nil]
  | cons cmd l ih =>
    by_cases h : cmd.seqNo = seqNo
    · simp [setStateFirst, h, kept_cons, Kept.refl, AtlasClientCommand.executed, hstate]
    · simp [setStateFirst, h, kept_cons, ih]

/-- Writing another state to every command with a number loses an execution exactly when one of them
is executed. -/
theorem kept_setStateAll_iff (hstate : state ≠ .executedByClient) (l : List AtlasClientCommand) :
    Kept l (setStateAll seqNo state l) ↔
      (l.any fun cmd => cmd.seqNo = seqNo && cmd.executed) = false := by
  induction l with
  | nil => simp [setStateAll, Kept.nil]
  | cons cmd l ih =>
    have ih' : Kept l (l.map fun cmd => if cmd.seqNo = seqNo then { cmd with state := state }
      else cmd) ↔ _ := ih
    by_cases h : cmd.seqNo = seqNo
    · simp [setStateAll, h, kept_cons, AtlasClientCommand.executed, hstate, ih']
    · simp [setStateAll, h, kept_cons, ih']

theorem Kept.of_forall₂ {l l' : List AtlasClientCommand}
    (h : l.Forall₂ (fun a b => a.executed = true → b.executed = true) l') : Kept l l' := by
  induction h with
  | nil => exact Kept.refl []
  | cons hab _ ih => exact kept_cons.mpr ⟨hab, ih⟩

theorem forall₂_setStateFirst_executed (l : List AtlasClientCommand) :
    l.Forall₂ (fun a b => a.executed = true → b.executed = true)
      (setStateFirst seqNo .executedByClient l) := by
  induction l with
  | nil => exact .nil
  | cons cmd l ih =>
    rw [setStateFirst]
    split
    · exact .cons (fun _ => rfl) (List.forall₂_same.mpr fun _ _ => id)
    · exact .cons id ih

/-- Writing the state of an execution loses none. -/
theorem kept_setStateLast_executed (l : List AtlasClientCommand) :
    Kept l (setStateLast seqNo .executedByClient l) := by
  have h := forall₂_setStateFirst_executed seqNo l.reverse
  rw [← List.forall₂_reverse_iff, List.reverse_reverse] at h
  exact .of_forall₂ h

end Lists

/-! ## Steps -/

/-- The commands of a client of a gateway. -/
def State.commandsOf (i c : String) (s : State) : List AtlasClientCommand :=
  ((s.gateways.find? i).map (·.commandsOf c)).getD []

/-- The step leaves every executed command executed. -/
def KeepsExecuted (cfg : Config) (s : State) (e : Event) : Prop :=
  ∀ i c, Kept (s.commandsOf i c) ((step cfg s e).1.commandsOf i c)

/-- The step takes an ACK for a command that is executed, or carries out a decision on one. -/
def overwritesExecuted (cfg : Config) (s : State) : Event → Bool
  | .messageReceived gi (.clientAck seqNo) =>
    (acknowledging gi seqNo s).any fun (_, command, _, client) =>
      client.transmittedCommands.any fun cmd => cmd.seqNo = command.seqNo && cmd.executed
  | .setOwnerCommandStatus o ownerCommand =>
    (deciding cfg o ownerCommand s).any fun d =>
      (d.client.transmittedCommands.find? (·.seqNo = d.clientCommand.seqNo)).any (·.executed)
  | _ => false

variable {cfg : Config} {s s' : State} {e : Event} {ws : List Effect} {gi ci : String}
  {gateway gateway' : AtlasGateway} {client : AtlasClient}

theorem State.commandsOf_of_find? {c : String} (h : s.gateways.find? gi = some gateway) :
    s.commandsOf gi c = gateway.commandsOf c := by
  simp [commandsOf, h]

theorem State.commandsOf_saveGateway (gateway : AtlasGateway) (s : State) (i c : String) :
    (s.saveGateway gateway).commandsOf i c =
      if i = gateway.identity then gateway.commandsOf c else s.commandsOf i c := by
  unfold commandsOf
  rw [find?_saveGateway]
  split <;> rfl

theorem State.commandsOf_keepaliveTask (b : Bool) (s : State) (i c : String) :
    (keepaliveTask b s).state.commandsOf i c = s.commandsOf i c := by
  unfold commandsOf
  rw [find?_keepaliveTask, Option.map_map]
  simp [Function.comp_def, (AtlasGateway.sameCommands_keepalive b _).transmitted]

/-- Saving a document whose commands are those of the stored one. -/
theorem kept_saveGateway_of_same (hg : s.gateways.find? gi = some gateway)
    (hid : gateway'.identity = gateway.identity)
    (hsame : ∀ c, gateway'.commandsOf c = gateway.commandsOf c) (i c : String) :
    Kept (s.commandsOf i c) ((s.saveGateway gateway').commandsOf i c) := by
  rw [State.commandsOf_saveGateway]
  split
  case isTrue hi =>
    obtain rfl : gateway.identity = gi := Table.key_of_find? hg
    rw [hsame, hi, hid, State.commandsOf_of_find? hg]
    exact .refl _
  case isFalse => exact .refl _

/-- Saving a document in which the commands of one client are changed. -/
theorem kept_saveGateway_iff (gateway' : AtlasGateway) (cmds : List AtlasClientCommand)
    (hg : s.gateways.find? gi = some gateway) (hc : gateway.clients ci = some client)
    (hid : gateway'.identity = gateway.identity)
    (hclients : gateway'.clients =
      Function.update gateway.clients ci (some { client with transmittedCommands := cmds })) :
    (∀ i c, Kept (s.commandsOf i c) ((s.saveGateway gateway').commandsOf i c)) ↔
      Kept client.transmittedCommands cmds := by
  obtain rfl : gateway.identity = gi := Table.key_of_find? hg
  have hold : s.commandsOf gateway.identity ci = client.transmittedCommands := by
    rw [State.commandsOf_of_find? hg, AtlasGateway.commandsOf_of_some hc]
  have hcmds : ∀ c, gateway'.commandsOf c = if c = ci then cmds else gateway.commandsOf c := by
    intro c
    unfold AtlasGateway.commandsOf
    rw [hclients, Function.update_apply]
    split <;> rfl
  constructor
  · intro h
    have hk := h gateway.identity ci
    rwa [State.commandsOf_saveGateway, if_pos hid.symm, hcmds, if_pos rfl, hold] at hk
  · intro h i c
    rw [State.commandsOf_saveGateway]
    split
    case isTrue hi =>
      rw [hcmds, hi, hid]
      split
      case isTrue hci => rwa [hci, hold]
      case isFalse => exact State.commandsOf_of_find? hg ▸ .refl _
    case isFalse => exact .refl _

theorem overwritesExecuted_of_acts (h : acts cfg s e = false) :
    overwritesExecuted cfg s e = false := by
  cases e with
  | setOwnerCommandStatus o ownerCommand =>
    have hnone : deciding cfg o ownerCommand s = none := by simpa [acts] using h
    simp [overwritesExecuted, hnone]
  | messageReceived gi message =>
    cases message with
    | clientAck seqNo =>
      have hnone : acknowledging gi seqNo s = none := by simpa [acts] using h
      simp [overwritesExecuted, hnone]
    | _ => rfl
  | _ => rfl

/-- A step that is no deletion leaves every executed command executed, unless it overwrites one. -/
theorem Transition.keepsExecuted_iff (h : Transition cfg s e ws s') (he : e.deletes = false) :
    (∀ i c, Kept (s.commandsOf i c) (s'.commandsOf i c)) ↔ overwritesExecuted cfg s e = false := by
  have hsame : overwritesExecuted cfg s e = false →
      (∀ i c, Kept (s.commandsOf i c) (s'.commandsOf i c)) →
      ((∀ i c, Kept (s.commandsOf i c) (s'.commandsOf i c)) ↔ overwritesExecuted cfg s e = false) :=
    fun ho hk => ⟨fun _ => ho, fun _ => hk⟩
  cases h with
  | refused h => exact hsame (overwritesExecuted_of_acts h) fun _ _ => .refl _
  | @askOwner gi ci command gateway client type h howner =>
    obtain ⟨hg, hc, -⟩ := issuing_eq_some_iff.mp h
    refine hsame rfl fun i c => ?_
    have hold : s.commandsOf i c = (enqueueOwnerCommand gi (gateway.owner.getD "")
        (gateway.nextCommand client type) s).state.commandsOf i c := by
      unfold State.commandsOf
      rw [State.gateways_enqueueOwnerCommand]
    rw [hold]
    exact (kept_saveGateway_iff (gateway.askedOwner ci client type) _ (by simpa using hg) hc rfl
      rfl).mpr (.append _ _) i c
  | @queue gi ci command gateway client type h howner =>
    obtain ⟨hg, hc, -⟩ := issuing_eq_some_iff.mp h
    exact hsame rfl
      ((kept_saveGateway_iff (gateway.queued ci client type) _ hg hc rfl rfl).mpr (.append _ _))
  | @approve o ownerCommand d h happroved =>
    have hd := Decision.valid_of_deciding h
    refine (kept_saveGateway_iff ((d.marked .deliveringToGateway).addPending
      (d.signedCommand ownerCommand)) _ hd.gateway hd.client rfl rfl).trans ?_
    rw [kept_setStateFirst_iff _ (by decide)]
    simp [overwritesExecuted, h]
  | @reject o ownerCommand d h hrejected =>
    have hd := Decision.valid_of_deciding h
    refine (kept_saveGateway_iff (d.marked .rejectedByOwner) _ hd.gateway hd.client rfl
      rfl).trans ?_
    rw [kept_setStateFirst_iff _ (by decide)]
    simp [overwritesExecuted, h]
  | @ack gi seqNo gateway command pending client h =>
    obtain ⟨hg, -, -, hc⟩ := acknowledging_eq_some h
    refine (kept_saveGateway_iff (gateway.delivered command pending client) _ hg hc rfl
      rfl).trans ?_
    rw [kept_setStateAll_iff _ (by decide)]
    simp [overwritesExecuted, h]
  | @done gi ci seqNo gateway client h =>
    obtain ⟨hg, hc, -⟩ := executing_eq_some h
    exact hsame rfl ((kept_saveGateway_iff (gateway.executed ci seqNo client) _ hg hc rfl
      rfl).mpr (kept_setStateLast_executed _ _))
  | touch h hfind hsame' howner hshown =>
    exact hsame (overwritesExecuted_of_acts h)
      (kept_saveGateway_of_same hfind hsame'.identity hsame'.transmitted)
  | tick b =>
    refine hsame rfl fun i c => ?_
    rw [State.commandsOf_keepaliveTask]
    exact .refl _
  | newOwner | read => exact hsame rfl fun _ _ => .refl _
  | delete h => cases he

variable {es : List Event}

/-- Over every run without deletions, executed commands stay executed exactly when no step takes an
ACK for an executed command or carries out a decision on one. -/
theorem executed_final_iff (hes : ∀ e ∈ es, e.deletes = false) :
    AllSteps (step cfg) (KeepsExecuted cfg) s es ↔
      AllSteps (step cfg) (fun s e => overwritesExecuted cfg s e = false) s es :=
  allSteps_congr (I := fun _ => True) (fun _ _ _ _ _ => trivial)
    (fun s e he _ => (step_transition cfg s e).keepsExecuted_iff he) trivial hes

/-- The lamp executes its command after the ACK was taken. -/
theorem executed_final_sample :
    AllSteps (step sampleConfig) (KeepsExecuted sampleConfig) sampleCloud
      [restartLamp, decideLamp 1 true, .messageReceived "gw" (.clientAck 1),
        .messageReceived "gw" (.clientDone "lamp" 1), .messageReceived "gw" (.clientAck 1)] :=
  (executed_final_iff (by decide)).mpr (by decide)

/-- The DONE overtakes the ACK, which then takes the command back to the delivery to the client. -/
theorem lateAck_overwrites_executed :
    ((run (step sampleConfig) sampleCloud
      [restartLamp, decideLamp 1 true, .messageReceived "gw" (.clientDone "lamp" 1)]).commandsOf
        "gw" "lamp").map (·.state) = [.executedByClient] ∧
    ((run (step sampleConfig) sampleCloud
      [restartLamp, decideLamp 1 true, .messageReceived "gw" (.clientDone "lamp" 1),
        .messageReceived "gw" (.clientAck 1)]).commandsOf "gw" "lamp").map (·.state) =
          [.deliveringToClient] := by
  decide

end Atlas.Cloud
