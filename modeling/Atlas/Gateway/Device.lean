import Atlas.Commands.Batch
import Atlas.Gateway.Database

/-! # Client devices and their command queues

The part of `AtlasDevice` that carries commands to a client: the received and the executed queue,
the timeout counter, and the registration state that gates a push. `pushCommand` hands the front
command to the CoAP client; whether `sendRequest` succeeds is an input.

Reference: `device/AtlasDevice.cpp`, `commands/AtlasCommandDevice.cpp`, `coap/AtlasCoapClient.cpp`.
-/

namespace Atlas.Gateway

/-- `AtlasCommandDeviceType`. -/
inductive CommandDeviceType where
  | restart
  | shutdown
  | unknown
deriving DecidableEq

/-- The enumerator's value, which is the command type on the wire. -/
def CommandDeviceType.code : CommandDeviceType → UInt16
  | restart => 0
  | shutdown => 1
  | unknown => 2

/-- `AtlasCommandDevice`: an element of a device's command queue. -/
structure CommandDevice where
  deviceIdentity : StdString
  sequenceNumber : UInt32
  commandTypeCloud : StdString
  commandTypeDevice : CommandDeviceType
  commandPayload : StdString
  inProgress : Bool
deriving DecidableEq

namespace CommandDevice

/-- The device command type named by the cloud. -/
def typeOfCloud (commandType : StdString) : CommandDeviceType :=
  if commandType = bytes "ATLAS_CMD_CLIENT_DEVICE_RESTART" then .restart
  else if commandType = bytes "ATLAS_CMD_CLIENT_DEVICE_SHUTDOWN" then .shutdown
  else .unknown

/-- The constructor of `AtlasCommandDevice`. -/
def new (deviceIdentity : StdString) (sequenceNumber : UInt32)
    (commandType commandPayload : StdString) : CommandDevice where
  deviceIdentity := deviceIdentity
  sequenceNumber := sequenceNumber
  commandTypeCloud := commandType
  commandTypeDevice := typeOfCloud commandType
  commandPayload := commandPayload
  inProgress := false

/-- The command `pushCommand` puts in its batch. The length is a `uint16_t`. -/
def toCommand (cmd : CommandDevice) : AtlasCommand where
  type := cmd.commandTypeDevice.code
  len := UInt16.ofNat cmd.commandPayload.length
  val := cmd.commandPayload

end CommandDevice

/-- `AtlasCoapResponse`, as passed to a request's callback. -/
inductive CoapResponse where
  | ok
  | notFound
  | notAcceptable
  | timeout
  | reset
  | unknown
deriving DecidableEq

/-- The C++ exceptions a handler can let out: those thrown as text, by the CoAP client, by jsoncpp
and by the base64 iterators. -/
inductive CppException where
  | charPtr (message : String)
  | coapException (message : String)
  | jsonException
  | dataflowException
deriving DecidableEq

/-- The ways `AtlasCoapClient::sendRequest` fails. -/
inductive SendFailure where
  | splitUri
  | resolveAddress
  | newContext
  | newSession
  | newPdu
  | addToken
  | coapFd
deriving DecidableEq

/-- The text thrown for a failure. -/
def SendFailure.message : SendFailure → String
  | splitUri => "Error encountered when parsing CoAP URI"
  | resolveAddress => "Cannot resolve CoAP address"
  | newContext => "Cannot create CoAP context for client request"
  | newSession => "Cannot create CoAP session for client request"
  | newPdu => "Cannot create client request PDU"
  | addToken => "Cannot add token to CoAP client request"
  | coapFd => "Cannot get CoAP file descriptor"

/-- `AtlasCoapClient::sendRequest`: every failure is rethrown as an `AtlasCoapException`. -/
def sendRequest : Option SendFailure → Except CppException Unit
  | none => .ok ()
  | some failure => .error (.coapException failure.message)

/-- A command request in the CoAP client's table, until its callback has run. `sequenceNumber` names
the queue element the request was built from; it is not sent. -/
structure CoapRequest where
  identity : StdString
  psk : StdString
  url : StdString
  command : AtlasCommand
  sequenceNumber : UInt32
deriving DecidableEq

/-- `AtlasDevice`, the fields of the command path. -/
structure Device where
  identity : StdString
  psk : StdString
  ipPort : StdString
  registered : Bool
  kaCtr : UInt8
  recvCmds : List CommandDevice
  execCmds : List CommandDevice
  deviceCmdTimeouts : UInt8
deriving DecidableEq

/-- Keep-alive counter initial value. -/
def atlasKeepAliveCounter : UInt8 := 4

/-- Number of accepted timeouts before a command is no longer resent. -/
def atlasPushCommandRetryNo : UInt8 := 3

namespace Device

/-- The constructor of `AtlasDevice`. `kaCtr_` is first set by `registerNow`. -/
def new (identity psk : StdString) : Device where
  identity := identity
  psk := psk
  ipPort := []
  registered := false
  kaCtr := 0
  recvCmds := []
  execCmds := []
  deviceCmdTimeouts := 0

/-- `AtlasDevice::getUrl` followed by the path of the push resource. -/
def pushUrl (d : Device) : StdString :=
  bytes "coaps://" ++ d.ipPort ++ bytes "/" ++ bytes "client/approved/command/push"

/-- `AtlasDevice::addRecvDeviceCommand`. -/
def addRecvDeviceCommand (cmd : CommandDevice) (d : Device) : Device :=
  { d with recvCmds := d.recvCmds ++ [cmd] }

/-- `AtlasDevice::addExecDeviceCommand`. -/
def addExecDeviceCommand (cmd : CommandDevice) (d : Device) : Device :=
  { d with execCmds := d.execCmds ++ [cmd] }

/-- `AtlasDevice::getExecutedCommand`: `none` is the undefined read of an empty list. -/
def getExecutedCommand (d : Device) : Option CommandDevice := d.execCmds.head?

/-- `AtlasDevice::removeExecutedCommand`. -/
def removeExecutedCommand (d : Device) : Device :=
  { d with execCmds := d.execCmds.tail }

/-- `recvCmds_.front().setInProgress(b)`. -/
def setFrontInProgress (b : Bool) (d : Device) : Device :=
  match d.recvCmds with
  | [] => d
  | cmd :: rest => { d with recvCmds := { cmd with inProgress := b } :: rest }

/-- `AtlasDevice::setIpPort`. -/
def setIpPort (ipPort : StdString) (d : Device) : Device :=
  { d with ipPort := ipPort }

/-- `AtlasDevice::registerNow`. -/
def registerNow (d : Device) : Device :=
  { d with registered := true, kaCtr := atlasKeepAliveCounter }

/-- `AtlasDevice::keepAliveNow`. -/
def keepAliveNow (d : Device) : Device :=
  { d with kaCtr := atlasKeepAliveCounter }

/-- `AtlasDevice::keepAliveExpired`. -/
def keepAliveExpired (d : Device) : Device :=
  if d.kaCtr = 0 then d
  else
    let d := { d with kaCtr := d.kaCtr - 1 }
    if d.kaCtr = 0 ∧ d.registered then { d with registered := false } else d

/-- The request built from a queue element. -/
def request (d : Device) (cmd : CommandDevice) : CoapRequest where
  identity := d.identity
  psk := d.psk
  url := d.pushUrl
  command := cmd.toCommand
  sequenceNumber := cmd.sequenceNumber

/-- `AtlasDevice::pushCommand`: the device afterwards and the request sent, if any. The handler in
the source catches `const char *` only, so any other exception of `sendRequest` leaves it. -/
def pushCommand (failure : Option SendFailure) (d : Device) :
    Except CppException (Device × List CoapRequest) :=
  match d.recvCmds with
  | [] => .ok (d, [])
  | cmd :: _ =>
    if !d.registered then .ok (d, [])
    else if cmd.inProgress then .ok (d, [])
    else
      match sendRequest failure with
      | .ok () => .ok (d.setFrontInProgress true, [d.request cmd])
      | .error (.charPtr _) => .ok (d, [])
      | .error e => .error e

/-- The rows `selectDeviceCommand` turns into queue elements. Text columns are read as C strings. -/
def addRow (d : Device) (r : DeviceCommandRow) : Device :=
  let cmd := CommandDevice.new d.identity r.sequenceNumber (ofCString r.commandType)
    (ofCString r.commandPayload)
  if r.isExecuted then d.addExecDeviceCommand cmd else d.addRecvDeviceCommand cmd

/-- `AtlasSQLite::selectDeviceCommand`: with `some n` the step after `n` rows fails. -/
def selectDeviceCommand (failAfter : Option ℕ) (db : Database) (d : Device) : Bool × Device :=
  let rows := db.getDeviceCommandByIdentity d.identity
  match failAfter with
  | none => (true, rows.foldl addRow d)
  | some n => (false, (rows.take n).foldl addRow d)

/-- What one `pushCommand` can do: nothing, send the front command, or let an exception out. -/
theorem pushCommand_cases (failure : Option SendFailure) (d : Device) :
    d.pushCommand failure = .ok (d, []) ∨
    (∃ cmd rest, d.recvCmds = cmd :: rest ∧ cmd.inProgress = false ∧ d.registered = true ∧
      d.pushCommand failure =
        .ok ({ d with recvCmds := { cmd with inProgress := true } :: rest }, [d.request cmd])) ∨
    (∃ e, d.pushCommand failure = .error e) := by
  cases hrecv : d.recvCmds with
  | nil => exact .inl (by simp [pushCommand, hrecv])
  | cons cmd rest =>
    cases hreg : d.registered with
    | false => exact .inl (by simp [pushCommand, hrecv, hreg])
    | true =>
      cases hprog : cmd.inProgress with
      | true => exact .inl (by simp [pushCommand, hrecv, hreg, hprog])
      | false =>
        cases failure with
        | none =>
          refine .inr (.inl ⟨cmd, rest, rfl, hprog, rfl, ?_⟩)
          simp [pushCommand, hrecv, hreg, hprog, sendRequest, setFrontInProgress]
        | some failure =>
          refine .inr (.inr ⟨.coapException failure.message, ?_⟩)
          simp [pushCommand, hrecv, hreg, hprog, sendRequest]

end Device

end Atlas.Gateway
