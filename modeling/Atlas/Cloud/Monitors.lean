import Atlas.Cloud.Transitions
import Atlas.Lib.Locks

/-! # The order of the two monitors

A request takes and releases the monitors of the two services as its synchronized methods are
entered and left. Issuing a command for an owner nests the owner's monitor in the gateway's; a
decision that reaches the gateway service nests them the other way round. Concurrent requests can
wait for each other exactly when both kinds are among them.

Reference: `AtlasGatewayServiceImpl.java`, `AtlasOwnerServiceImpl.java`.
-/

namespace Atlas.Cloud

open Locks (Op)

/-- The operation on a monitor. -/
def Effect.op? : Effect → Option (Op Monitor)
  | .enter m => some (.acquire m)
  | .exit m => some (.release m)
  | _ => none

/-- The operations on monitors among the effects of a method. -/
def program (ws : List Effect) : List (Op Monitor) := ws.filterMap Effect.op?

/-- A call of a service. -/
inductive Request where
  | event (e : Event)
  | enqueueOwnerCommand (gatewayIdentity ownerIdentity : String) (command : AtlasClientCommandDto)
  | sendApprovedCommandToClient (gatewayIdentity : String) (command : AtlasClientCommandDto)
  | markCommandAsRejected (gatewayIdentity : String) (command : AtlasClientCommandDto)

/-- The monitor operations of a request on the documents it reads. -/
def Request.program (cfg : Config) (s : State) : Request → List (Op Monitor)
  | .event e => Cloud.program (step cfg s e).2
  | .enqueueOwnerCommand gi o command =>
    Cloud.program (Cloud.enqueueOwnerCommand gi o command s).effects
  | .sendApprovedCommandToClient gi command =>
    Cloud.program (Cloud.sendApprovedCommandToClient gi command s).effects
  | .markCommandAsRejected gi command =>
    Cloud.program (Cloud.markCommandAsRejected gi command s).effects

/-- A method that takes one monitor. -/
def single (m : Monitor) : List (Op Monitor) := [.acquire m, .release m]

/-- A method that takes the second monitor while it holds the first. -/
def nested (m n : Monitor) : List (Op Monitor) := [.acquire m, .acquire n, .release n, .release m]

/-! ## The programs of the methods -/

theorem program_synchronized {α : Type} (m : Monitor) (r : Handled α) :
    program (synchronized m r).effects = .acquire m :: (program r.effects ++ [.release m]) := by
  simp [program, synchronized, Effect.op?]

@[simp] theorem program_sendGatewayCommand (gateway : AtlasGateway) :
    program (sendGatewayCommand gateway) = [] := by
  unfold sendGatewayCommand
  split
  · split <;> rfl
  · rfl

@[simp] theorem program_sendIfOnly (gateway : AtlasGateway) :
    program (sendIfOnly gateway) = [] := by
  unfold sendIfOnly
  split
  · exact program_sendGatewayCommand gateway
  · rfl

@[simp] theorem program_sendGatewayCommandDONEAck (gateway : AtlasGateway) (client : AtlasClient)
    (seqNo : Int32) : program (sendGatewayCommandDONEAck gateway client seqNo) = [] := by
  unfold sendGatewayCommandDONEAck
  split <;> rfl

/-- A synchronized method that calls no other one takes its own monitor only. -/
theorem program_of_leaf {α : Type} (m : Monitor) {r : Handled α} (h : program r.effects = []) :
    program (synchronized m r).effects = single m := by
  rw [program_synchronized, h]
  rfl

/-- A synchronized method that calls a method of the other service. -/
theorem program_of_call {α : Type} (m n : Monitor) {r : Handled α}
    (h : program r.effects = single n) : program (synchronized m r).effects = nested m n := by
  rw [program_synchronized, h]
  rfl

variable (cfg : Config) (s : State)

theorem program_enqueueOwnerCommand (gi o : String) (command : AtlasClientCommandDto) :
    program (enqueueOwnerCommand gi o command s).effects = single .ownerService := by
  refine program_of_leaf _ ?_
  split
  · rfl
  · split <;> rfl

theorem program_sendApprovedCommandToClient (gi : String) (command : AtlasClientCommandDto) :
    program (sendApprovedCommandToClient gi command s).effects = single .gatewayService := by
  refine program_of_leaf _ ?_
  split
  · rfl
  · split
    · rfl
    · split
      · rfl
      · exact program_sendIfOnly _

theorem program_markCommandAsRejected (gi : String) (command : AtlasClientCommandDto) :
    program (markCommandAsRejected gi command s).effects = single .gatewayService := by
  refine program_of_leaf _ ?_
  split
  · rfl
  · split
    · rfl
    · split
      · rfl
      · split <;> rfl

theorem program_messageReceived (gi : String) (message : Message) :
    program (messageReceived cfg gi message s).effects = single .gatewayService := by
  refine program_of_leaf _ ?_
  split
  case h_1 => rfl
  case h_2 gateway _ =>
    cases message with
    | infoUpdate owner => rfl
    | clientInfoUpdate ci =>
      simp only [updateClientCommand]
      split <;> rfl
    | register =>
      simp only [registerNow]
      exact program_sendGatewayCommand _
    | keepalive => rfl
    | clientAck seqNo =>
      simp only [handleClientCommandAck]
      split
      · rfl
      · split
        · rfl
        · split
          · rfl
          · exact program_sendGatewayCommand _
    | clientDone ci seqNo =>
      simp only [handleClientCommandDone]
      split
      · rfl
      · split
        · rfl
        · split <;> exact program_sendGatewayCommandDONEAck ..

/-- A decision that is signed goes to the gateway service. -/
theorem program_applyDecision (gi : String) (ownerCommand : AtlasOwnerCommandDto)
    (command : AtlasClientCommandDto) :
    program (applyDecision gi ownerCommand command s).effects =
      if ownerCommand.signed then single .gatewayService else [] := by
  unfold applyDecision
  split
  case isTrue happroved =>
    split
    case isTrue hsig => simp [AtlasOwnerCommandDto.signed, happroved, hsig, program]
    case isFalse hsig =>
      rw [program_sendApprovedCommandToClient]
      simp [AtlasOwnerCommandDto.signed, hsig]
  case isFalse hrejected =>
    rw [program_markCommandAsRejected]
    simp [AtlasOwnerCommandDto.signed, hrejected]

/-! ## Requests that nest the monitors -/

namespace Request

/-- The request issues a command of a gateway with an owner. -/
def issuesToOwner (cfg : Config) (s : State) : Request → Bool
  | .event (.sendCommandToClient gi ci command) =>
    (issuing cfg gi ci command s).any (·.1.hasOwner)
  | _ => false

/-- The request is a decision on the first command of a list, with a signature if it approves. -/
def decidesAtGateway (cfg : Config) (s : State) : Request → Bool
  | .event (.setOwnerCommandStatus o ownerCommand) =>
    (decidedCommand cfg o ownerCommand s).isSome && ownerCommand.signed
  | _ => false

theorem program_sendCommandToClient (gi ci command : String) :
    Cloud.program (Cloud.sendCommandToClient cfg gi ci command s).effects =
      if (event (.sendCommandToClient gi ci command)).issuesToOwner cfg s then
        nested .gatewayService .ownerService
      else single .gatewayService := by
  unfold Cloud.sendCommandToClient
  cases hg : s.gateways.find? gi with
  | none => simpa [issuesToOwner, issuing, hg] using program_of_leaf _ rfl
  | some gateway =>
    cases hc : gateway.clients ci with
    | none => simpa [issuesToOwner, issuing, hg, hc] using program_of_leaf _ rfl
    | some client =>
      cases ht : commandType cfg command with
      | none => simpa [issuesToOwner, issuing, hg, hc, ht] using program_of_leaf _ rfl
      | some type =>
        have hissue : issuing cfg gi ci command s = some (gateway, client, type) :=
          issuing_eq_some_iff.mpr ⟨hg, hc, ht⟩
        simp only [issuesToOwner, hissue, Option.any_some, hc]
        split
        case isTrue howner =>
          exact program_of_call _ _ (program_enqueueOwnerCommand ..)
        case isFalse howner => exact program_of_leaf _ (program_sendIfOnly _)

theorem program_setOwnerCommandStatus (o : String) (ownerCommand : AtlasOwnerCommandDto) :
    Cloud.program (Cloud.setOwnerCommandStatus cfg o ownerCommand s).effects =
      if (event (.setOwnerCommandStatus o ownerCommand)).decidesAtGateway cfg s then
        nested .ownerService .gatewayService
      else single .ownerService := by
  obtain ⟨hnone, b, heq⟩ | ⟨owner, gi, command, commands, hsome, heq⟩ :=
    setOwnerCommandStatus_cases cfg s o ownerCommand
  · rw [heq]
    simpa [decidesAtGateway, hnone] using program_of_leaf _ rfl
  · rw [heq]
    simp only [decidesAtGateway, hsome, Option.isSome_some, Bool.true_and]
    have happly := program_applyDecision s gi ownerCommand command
    by_cases hsigned : ownerCommand.signed = true
    · rw [if_pos hsigned] at happly ⊢
      refine program_of_call _ _ ?_
      split <;> exact happly
    · rw [if_neg hsigned] at happly ⊢
      refine program_of_leaf _ ?_
      split <;> exact happly

/-- The programs of requests: the gateway's monitor and then the owner's, the owner's and then the
gateway's, or at most one of them. -/
inductive Nesting (cfg : Config) (s : State) (r : Request) : List (Op Monitor) → Prop where
  | issues (h : r.issuesToOwner cfg s = true) :
      Nesting cfg s r (nested .gatewayService .ownerService)
  | decides (h : r.decidesAtGateway cfg s = true) :
      Nesting cfg s r (nested .ownerService .gatewayService)
  | unlocked : Nesting cfg s r []
  | leaf (m : Monitor) : Nesting cfg s r (single m)

theorem nesting (r : Request) : Nesting cfg s r (r.program cfg s) := by
  have hleaf : ∀ {m : Monitor} {p : List (Op Monitor)}, p = single m → Nesting cfg s r p :=
    fun h => h ▸ .leaf _
  cases r with
  | enqueueOwnerCommand gi o command => exact hleaf (program_enqueueOwnerCommand ..)
  | sendApprovedCommandToClient gi command =>
    exact hleaf (program_sendApprovedCommandToClient ..)
  | markCommandAsRejected gi command => exact hleaf (program_markCommandAsRejected ..)
  | event e =>
    cases e with
    | sendCommandToClient gi ci command =>
      have h : (event (.sendCommandToClient gi ci command)).program cfg s = _ :=
        program_sendCommandToClient cfg s gi ci command
      split at h
      case isTrue hissues => exact h ▸ .issues hissues
      case isFalse => exact hleaf h
    | setOwnerCommandStatus o ownerCommand =>
      have h : (event (.setOwnerCommandStatus o ownerCommand)).program cfg s = _ :=
        program_setOwnerCommandStatus cfg s o ownerCommand
      split at h
      case isTrue hdecides => exact h ▸ .decides hdecides
      case isFalse => exact hleaf h
    | fetchOwnerCommands o =>
      refine hleaf (program_of_leaf _ ?_)
      split <;> rfl
    | updateFirebaseToken o firebaseToken =>
      refine hleaf (program_of_leaf _ ?_)
      split
      · rfl
      · split <;> rfl
    | messageReceived gi message => exact hleaf (program_messageReceived ..)
    | keepaliveTask b =>
      refine hleaf (program_of_leaf _ ?_)
      simp [Cloud.program, Effect.op?]
    | updateClientAlias gi ci newAlias =>
      refine hleaf (program_of_leaf _ ?_)
      split
      · rfl
      · split <;> rfl
    | readForDeletion gi ci =>
      simp only [Request.program, step, Handled.out, readForDeletion]
      split <;> exact .unlocked
    | deleteClient i =>
      simp only [Request.program, step, Handled.out, deleteClient]
      split
      · exact .unlocked
      · exact hleaf (program_of_leaf _ rfl)

/-- A request that acquires one monitor while it holds another. -/
theorem Nesting.of_nests {cfg : Config} {s : State} {r : Request} {p : List (Op Monitor)}
    {a b : Monitor} (h : Nesting cfg s r p) (hab : a ≠ b) (hn : Locks.Nests [] p a b) :
    (a = .gatewayService ∧ r.issuesToOwner cfg s = true) ∨
      (a = .ownerService ∧ r.decidesAtGateway cfg s = true) := by
  cases h with
  | issues h =>
    refine .inl ⟨?_, h⟩
    cases a with
    | gatewayService => rfl
    | ownerService => cases b <;> simp [nested, Op.apply] at hn hab
  | decides h =>
    refine .inr ⟨?_, h⟩
    cases a with
    | gatewayService => cases b <;> simp [nested, Op.apply] at hn hab
    | ownerService => rfl
  | unlocked => simp at hn
  | leaf m => simp [single, Op.apply] at hn

theorem program_of_issuesToOwner {r : Request} (h : r.issuesToOwner cfg s = true) :
    r.program cfg s = nested .gatewayService .ownerService := by
  cases r with
  | event e =>
    cases e with
    | sendCommandToClient gi ci command =>
      exact (program_sendCommandToClient cfg s gi ci command).trans (if_pos h)
    | _ => cases h
  | _ => cases h

theorem program_of_decidesAtGateway {r : Request} (h : r.decidesAtGateway cfg s = true) :
    r.program cfg s = nested .ownerService .gatewayService := by
  cases r with
  | event e =>
    cases e with
    | setOwnerCommandStatus o ownerCommand =>
      exact (program_setOwnerCommandStatus cfg s o ownerCommand).trans (if_pos h)
    | _ => cases h
  | _ => cases h

end Request

/-! ## Concurrent requests -/

/-- The programs of concurrent requests, each with the documents it reads. -/
def programs (cfg : Config) (rs : List (State × Request)) : List (List (Op Monitor)) :=
  rs.map fun x => x.2.program cfg x.1

/-- A request of the pool that nests the monitors. -/
theorem exists_request_of_nests {cfg : Config} {rs : List (State × Request)} {a b : Monitor}
    (hab : a ≠ b) (h : ∃ p ∈ programs cfg rs, Locks.Nests [] p a b) :
    ∃ x ∈ rs, (a = .gatewayService ∧ x.2.issuesToOwner cfg x.1 = true) ∨
      (a = .ownerService ∧ x.2.decidesAtGateway cfg x.1 = true) := by
  obtain ⟨p, hp, hn⟩ := h
  obtain ⟨x, hx, rfl⟩ := List.mem_map.mp hp
  exact ⟨x, hx, (x.2.nesting cfg x.1).of_nests hab hn⟩

/-- For any number of concurrent requests and any interleaving, no two of them wait for each other,
exactly when no request issues a command to an owner or no request is a decision that reaches the
gateway service. -/
theorem no_lock_cycle_iff (cfg : Config) (rs : List (State × Request)) :
    (∀ pool, Relation.ReflTransGen Locks.Step (Locks.start (programs cfg rs)) pool →
      ¬ Locks.Cycle pool) ↔
    (∀ x ∈ rs, x.2.issuesToOwner cfg x.1 = false) ∨
      (∀ x ∈ rs, x.2.decidesAtGateway cfg x.1 = false) := by
  constructor
  · intro h
    by_contra hboth
    push Not at hboth
    obtain ⟨⟨x, hx, hissues⟩, y, hy, hdecides⟩ := hboth
    obtain ⟨j, hj⟩ := List.getElem?_of_mem hx
    obtain ⟨k, hk⟩ := List.getElem?_of_mem hy
    have hpj : (programs cfg rs)[j]? = some (nested .gatewayService .ownerService) := by
      simp [programs, hj, Request.program_of_issuesToOwner cfg x.1 (by simpa using hissues)]
    have hpk : (programs cfg rs)[k]? = some (nested .ownerService .gatewayService) := by
      simp [programs, hk, Request.program_of_decidesAtGateway cfg y.1 (by simpa using hdecides)]
    have hjk : j ≠ k := by
      rintro rfl
      rw [hpj] at hpk
      cases hpk
    obtain ⟨pool, hreach, hcycle⟩ := Locks.cycle_of_opposite hjk (by decide) hpj hpk
    exact h pool hreach hcycle
  · intro h pool hreach hcycle
    obtain ⟨m, n, hmn, hp, hq⟩ := Locks.nests_of_cycle hreach hcycle
    obtain ⟨x, hx, hx'⟩ := exists_request_of_nests hmn hp
    obtain ⟨y, hy, hy'⟩ := exists_request_of_nests hmn.symm hq
    -- with one kind of nesting only, both would hold the same monitor
    rcases h with h | h <;>
      · have hx₀ := h x hx
        have hy₀ := h y hy
        grind

/-- A new command of the lamp and the owner's decision on the command before it. -/
theorem issue_and_decision_cycle :
    ∃ pool, Relation.ReflTransGen Locks.Step
      (Locks.start (programs sampleConfig
        [((step sampleConfig sampleCloud restartLamp).1, .event restartLamp),
          ((step sampleConfig sampleCloud restartLamp).1, .event (decideLamp 1 true))])) pool ∧
      Locks.Cycle pool := by
  have hissue : (programs sampleConfig
      [((step sampleConfig sampleCloud restartLamp).1, .event restartLamp),
        ((step sampleConfig sampleCloud restartLamp).1, .event (decideLamp 1 true))])[0]? =
      some (nested .gatewayService .ownerService) := by decide
  have hdecision : (programs sampleConfig
      [((step sampleConfig sampleCloud restartLamp).1, .event restartLamp),
        ((step sampleConfig sampleCloud restartLamp).1, .event (decideLamp 1 true))])[1]? =
      some (nested .ownerService .gatewayService) := by decide
  exact Locks.cycle_of_opposite (by decide) (by decide) hissue hdecision

end Atlas.Cloud
