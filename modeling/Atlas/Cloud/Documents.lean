import Atlas.Lib.Table
import Mathlib.Logic.Function.Basic

/-! # The documents of the cloud

The entities and transfer objects of the cloud that carry client commands, with the fields the
command path reads or writes, and the two repositories. A Java `int` is an `Int32`, so its
arithmetic wraps around; a reference that may be null is an `Option`.

Reference: `ro.atlas.entity`, `ro.atlas.dto`, `ro.atlas.commands`, `ro.atlas.repository`.
-/

namespace Atlas.Cloud

/-- `Character.toUpperCase` and `Character.toLowerCase`. -/
structure CharCase where
  toUpperCase : Char → Char
  toLowerCase : Char → Char

/-- `String.equalsIgnoreCase`. -/
def equalsIgnoreCase (cc : CharCase) (s : String) : Option String → Bool
  | none => false
  | some t =>
    s.toList.length = t.toList.length && (s.toList.zip t.toList).all fun (c, d) =>
      c = d || cc.toUpperCase c = cc.toUpperCase d ||
        cc.toLowerCase (cc.toUpperCase c) = cc.toLowerCase (cc.toUpperCase d)

theorem equalsIgnoreCase_self (cc : CharCase) (s : String) :
    equalsIgnoreCase cc s (some s) = true := by
  have hzip : s.toList.zip s.toList = s.toList.map fun c => (c, c) := by
    simpa using List.zip_map' (f := id) (g := id) (l := s.toList)
  rw [equalsIgnoreCase, hzip, List.all_map]
  simp

inductive AtlasClientCommandType where
  | deviceRestart
  | deviceShutdown
deriving DecidableEq

/-- The name of the enumerator, which is also its text on the wire. -/
def AtlasClientCommandType.toString : AtlasClientCommandType → String
  | deviceRestart => "ATLAS_CMD_CLIENT_DEVICE_RESTART"
  | deviceShutdown => "ATLAS_CMD_CLIENT_DEVICE_SHUTDOWN"

inductive AtlasClientCommandState where
  | deliveringToOwnerForApproval
  | deliveringToGateway
  | deliveringToClient
  | executedByClient
  | rejectedByOwner
deriving DecidableEq

/-- A command in a client's list of transmitted commands. -/
structure AtlasClientCommand where
  type : AtlasClientCommandType
  payload : String
  state : AtlasClientCommandState
  seqNo : Int32
deriving DecidableEq

/-- A command on its way to the owner and to the gateway. -/
structure AtlasClientCommandDto where
  clientIdentity : String
  clientAlias : String
  type : AtlasClientCommandType
  payload : String
  seqNo : Int32
  signature : Option String
deriving DecidableEq

/-- A decision of the owner. -/
structure AtlasOwnerCommandDto where
  gatewayIdentity : Option String
  clientIdentity : Option String
  seqNo : Int32
  approved : Bool
  signature : Option String
deriving DecidableEq

structure AtlasClient where
  identity : String
  clientAlias : String
  transmittedCommands : List AtlasClientCommand
deriving DecidableEq

/-- The document of a gateway. The pending commands are all `ATLAS_CMD_GATEWAY_CLIENT` commands, so
only their payloads are kept; `owner` is the field of the gateway information. -/
structure AtlasGateway where
  identity : String
  psk : String
  registered : Bool
  keepaliveCounter : Int32
  owner : Option String
  clients : String → Option AtlasClient
  gatewayPendingCmds : List AtlasClientCommandDto
  globalCmdSeqNo : Int32

/-- The document of an owner: the commands waiting for a decision, by gateway. -/
structure AtlasOwner where
  ownerIdentity : String
  ownerCommands : String → Option (List AtlasClientCommandDto)

/-! ## Command lists -/

/-- Sets the state of the first command with this number. -/
def setStateFirst (seqNo : Int32) (state : AtlasClientCommandState) :
    List AtlasClientCommand → List AtlasClientCommand
  | [] => []
  | cmd :: cmds =>
    if cmd.seqNo = seqNo then { cmd with state := state } :: cmds
    else cmd :: setStateFirst seqNo state cmds

/-- Sets the state of every command with this number. -/
def setStateAll (seqNo : Int32) (state : AtlasClientCommandState)
    (cmds : List AtlasClientCommand) : List AtlasClientCommand :=
  cmds.map fun cmd => if cmd.seqNo = seqNo then { cmd with state := state } else cmd

/-- Sets the state of the last command with this number. -/
def setStateLast (seqNo : Int32) (state : AtlasClientCommandState)
    (cmds : List AtlasClientCommand) : List AtlasClientCommand :=
  (setStateFirst seqNo state cmds.reverse).reverse

/-- The last command with this number. -/
def findLast? (seqNo : Int32) (cmds : List AtlasClientCommand) : Option AtlasClientCommand :=
  cmds.reverse.find? (·.seqNo = seqNo)

namespace AtlasGateway

/-- Stores a client of the gateway. -/
def setClient (clientIdentity : String) (client : AtlasClient) (gateway : AtlasGateway) :
    AtlasGateway :=
  { gateway with clients := Function.update gateway.clients clientIdentity (some client) }

/-- Whether the gateway has an owner. -/
def hasOwner (gateway : AtlasGateway) : Bool :=
  match gateway.owner with
  | some owner => owner ≠ ""
  | none => false

/-- The document `addGateway` creates. -/
def new (identity psk : String) : AtlasGateway where
  identity := identity
  psk := psk
  registered := false
  keepaliveCounter := 0
  owner := none
  clients := fun _ => none
  gatewayPendingCmds := []
  globalCmdSeqNo := 1

end AtlasGateway

/-! ## Repositories -/

/-- The gateway documents. The identity is a unique index that no method changes. -/
abbrev GatewayRepository := Table AtlasGateway.identity

/-- The owner documents. -/
abbrev OwnerRepository := Table AtlasOwner.ownerIdentity

end Atlas.Cloud
