import Atlas.Client.ReputationRequest
import Atlas.Lib.Replies
import Atlas.Reputation.Trust

/-! # Asking for the most trusted device

An application asks for a device to take data from. Its request goes through the socket of the
connector and a CoAP request of the client to the gateway, and the answer the same way back. All of
this happens at its own pace: the connector and the gateway take requests when they come to it, CoAP
requests complete in any order or fail, and the application stops waiting after a time. On the same
socket the application asks for the identity of the client, which the connector answers at once. A
new connection takes the place of the old one, and the CoAP requests that are in flight then are
answered to the new one.

What the application reads is always what the gateway has decided on one of the requests, an error
for a request that failed, or an identity (`answered_as_decided`). But neither a message of the
socket nor the library tells which question an answer belongs to. After a read that ended without a
message, the answer that comes late is taken for the next one, and so on, also on later connections
(`answers_late`).

Questions are numbered by the order in which they are written, over all connections; the program
does not see the numbers. What an application writes before the connector accepts its connection is
as if it were written right after that. The policy, the statistics and the feedback of an
application lead to no message on the socket and are left out.

Reference: `data_plane/atlas_client.c`, `data_plane_connector/atlas_data_plane_connector.c`,
`reputation/AtlasFeatureReputation.cpp`.
-/

namespace Atlas.Asking

open ByteOrder EventMachine
open Gateway (AtlasCommand AtlasCommandBatch CoapResponse StdString)
open Client (AtlasCoapResponse DataPlane Identity ReputationStatus errorRecord forwardedRecords
  getIdentityRecord identityRecord requestRecord)
open Reputation (AtlasDeviceManager Best Env Fits Ranked TrustEvent sensorTemperature)

/-- The byte orders of the two hosts, and the identity of the client, which is that of its DTLS
sessions. -/
structure Setup where
  client : ByteOrder
  gateway : ByteOrder
  identity : Identity
  identity_ne : identity.text ≠ []

/-- What the application asks for: a device to take data from, or the identity of the client. -/
inductive Question where
  | reputation
  | identity
deriving DecidableEq

/-- A question that the application waits for. -/
structure Waiting where
  number : ℕ
  question : Question
deriving DecidableEq

/-- A CoAP request in flight, and the answer of the gateway once there is one. -/
structure InFlight where
  number : ℕ
  payload : List UInt8
  answer : Option (CoapResponse × List UInt8)

/-- The gateway, the variables of the connector, whether it has a connection, the number of
questions written and the one that the application waits for, the messages in the two directions of
the socket, and the CoAP requests. -/
structure State where
  gateway : AtlasDeviceManager
  vars : DataPlane
  connected : Bool
  asked : ℕ
  waiting : Option Waiting
  up : List (ℕ × List UInt8)
  coap : List InFlight
  down : List (ℕ × List UInt8)

/-- How a CoAP request fails. -/
inductive Failure where
  | timeout
  | reset
  | unknown

/-- The response the callback is called with. -/
def Failure.response : Failure → AtlasCoapResponse
  | .timeout => .timeout
  | .reset => .reset
  | .unknown => .unknown

/-- The response the callback is called with when the gateway has answered. -/
def respStatus : CoapResponse → AtlasCoapResponse
  | .ok => .ok
  | .notFound | .notAcceptable => .notFound
  | .timeout | .reset | .unknown => .unknown

inductive Event where
  /-- An application connects, and the connector accepts it or fails to. -/
  | accept (accepted : Bool)
  /-- The application asks for a device; the write may fail. -/
  | ask (sensorType : UInt32) (written : Bool)
  /-- The application asks for the identity; it connects anew until the write succeeds. -/
  | askIdentity
  /-- The connector reads a message; the CoAP request, or the write of the identity, may fail. -/
  | readCb (done : Bool)
  /-- The gateway handles a request in flight. -/
  | handle (i : ℕ) (env : Env)
  /-- A request in flight fails, or its answer arrives; the write to the application may fail. -/
  | complete (i : ℕ) (failure : Option Failure) (written : Bool)
  /-- The application reads the first message, or waits no longer. -/
  | read
  | timeOut
  /-- Something else happens at the gateway. -/
  | gateway (event : TrustEvent)

inductive Output where
  /-- The gateway names a device, or refuses to. -/
  | decided (number : ℕ) (name : Option StdString)
  /-- A request in flight fails. -/
  | failed (number : ℕ)
  /-- The connector answers with its identity. -/
  | identified (number : ℕ)
  /-- A question is not sent on, or an answer is not written or not read. -/
  | lost (number : ℕ)
  /-- A question is answered before an earlier one. -/
  | overtook (number : ℕ)
  /-- The application takes an answer for that of the question it waits for. -/
  | answered (question : Question) (ask owner : ℕ) (status : ReputationStatus)
      (identity : Option (List UInt8))
  /-- A read ends without a message: in time there is none, or the connection is closed. -/
  | timedOut (ask : ℕ)
deriving DecidableEq

variable (setup : Setup)

namespace State

/-- `atlas_data_plane_accept_cb`: the old connection is closed, with the messages in it. -/
def accept (accepted : Bool) (s : State) : State × List Output :=
  ({ s with connected := accepted, waiting := none, up := [], down := [] },
    s.waiting.toList.map (.timedOut ·.number) ++
      (s.down.map Prod.fst ++ s.up.map Prod.fst).map .lost)

/-- A question is written, and the application waits for the answer. -/
def write (question : Question) (message : List UInt8) (s : State) : State :=
  { s with
    asked := s.asked + 1
    waiting := some ⟨s.asked, question⟩
    up := s.up ++ [(s.asked, message)] }

/-- The first half of `atlas_reputation_request`. -/
def ask (sensorType : UInt32) (written : Bool) (s : State) : State × List Output :=
  match s.waiting, Client.reputationRequest setup.client sensorType with
  | none, some message => (if written && s.connected then s.write .reputation message else s, [])
  | _, _ => (s, [])

/-- The first half of `send_identity_command`. -/
def askIdentity (s : State) : State × List Output :=
  match s.waiting, Client.identityRequest setup.client with
  | none, some message => (if s.connected then s.write .identity message else s, [])
  | _, _ => (s, [])

/-- The payload of a request of the connector that concerns reputation. -/
def feature? : Client.Output → Option (List UInt8)
  | .feature payload => some payload
  | _ => none

/-- A message of the connector with its identity. -/
def identity? : Client.Output → Option (List UInt8)
  | .identity message => some message
  | _ => none

/-- What the connector sends when it has read a question: requests to the gateway, or its
identity. -/
def answerOrForward (number : ℕ) (outputs : List Client.Output) (s : State) : State × List Output :=
  let identities := outputs.filterMap identity?
  ({ s with
    coap := s.coap ++ (outputs.filterMap feature?).map (⟨number, ·, none⟩)
    down := s.down ++ identities.map (number, ·) },
    if identities = [] then []
    else .identified number :: if s.coap.isEmpty then [] else [.overtook number])

/-- `atlas_data_plane_read_cb` for the next message. -/
def readCb (done : Bool) (s : State) : State × List Output :=
  match s.up with
  | [] => (s, [])
  | (number, message) :: up =>
    match s.vars.readCb setup.client setup.identity message with
    | none => (s, [])
    | some reading =>
      let s := { s with vars := reading.vars, up := up }
      if done then s.answerOrForward number reading.outputs else (s, [.lost number])

/-- What `requestReputationCallback` has decided. -/
def decision (manager : AtlasDeviceManager) : CoapResponse → Option StdString
  | .ok => some manager.trusted
  | _ => none

/-- `requestReputationCallback` for a request in flight. -/
def handle (i : ℕ) (env : Env) (s : State) : State × List Output :=
  match s.coap[i]? with
  | none => (s, [])
  | some request =>
    let r :=
      s.gateway.requestReputationCallback setup.gateway env setup.identity.text request.payload
    ({ s with
      gateway := r.1
      coap := s.coap.set i { request with answer := some r.2 } },
      [.decided request.number (decision s.gateway r.2.1)])

/-- A request in flight has completed and led to these messages. -/
def completed (i number : ℕ) (messages : List (List UInt8)) (written : Bool) (s : State) : State :=
  { s with
    coap := s.coap.eraseIdx i
    down := s.down ++ if written then messages.map (number, ·) else [] }

/-- How a request that has completed disturbs the order of the others. -/
def disorder (i number : ℕ) (written : Bool) : List Output :=
  (if i = 0 then [] else [.overtook number]) ++ if written then [] else [.lost number]

/-- `feature_reputation_callback` for a request in flight, which has completed with this
response. -/
def callback (i number : ℕ) (response : AtlasCoapResponse) (payload : List UInt8) (written : Bool)
    (s : State) : State × List Output :=
  match Client.featureReputationCallback setup.client response payload with
  | none => (s, [])
  | some messages =>
    let written := written && s.connected
    (s.completed i number messages written, disorder i number written)

/-- A request in flight completes. -/
def complete (i : ℕ) (failure : Option Failure) (written : Bool) (s : State) :
    State × List Output :=
  match s.coap[i]? with
  | none => (s, [])
  | some request =>
    match failure, request.answer with
    | some failure, _ =>
      let r := s.callback setup i request.number failure.response [] written
      (r.1, .failed request.number :: r.2)
    | none, some (response, payload) =>
      s.callback setup i request.number (respStatus response) payload written
    | none, none => (s, [])

/-- The second half of a question, for a message that arrived. -/
def reply : Question → List UInt8 → Option (ReputationStatus × Option (List UInt8))
  | .reputation => Client.reputationReply setup.client
  | .identity => Client.identityReply setup.client

/-- The second half of a question, when there is a message. -/
def read (s : State) : State × List Output :=
  match s.waiting, s.down with
  | some ⟨ask, question⟩, (number, message) :: down =>
    match reply setup question message with
    | none => (s, [])
    | some (status, identity) =>
      ({ s with waiting := none, down := down },
        [.answered question ask number status identity])
  | _, _ => (s, [])

/-- The second half of a question, when there is no message in time. -/
def timeOut (s : State) : State × List Output :=
  match s.waiting, s.down with
  | some ⟨ask, _⟩, [] => ({ s with waiting := none }, [.timedOut ask])
  | _, _ => (s, [])

end State

/-- One event. -/
def step (s : State) : Event → State × List Output
  | .accept accepted => s.accept accepted
  | .ask sensorType written => s.ask setup sensorType written
  | .askIdentity => s.askIdentity setup
  | .readCb done => s.readCb setup done
  | .handle i env => s.handle setup i env
  | .complete i failure written => s.complete setup i failure written
  | .read => s.read setup
  | .timeOut => s.timeOut
  | .gateway event => ({ s with gateway := (s.gateway.step setup.gateway event).1 }, [])

/-- Nothing has happened. -/
def start (vars : DataPlane) : State := ⟨.start, vars, false, 0, none, [], [], []⟩

/-! ## What is on its way -/

/-- The order of the devices at the gateway is updated as it is there, and the names in the database
fit in a message. -/
def Admits (s : State) : Event → Prop
  | .gateway event => Reputation.Admissible setup.gateway s.gateway event
  | .handle _ env => ∀ identity, env.selectDevicePsk identity ≠ [] → Fits identity
  | _ => True

/-- How a question is answered. -/
inductive Result where
  | name (name : StdString)
  | error
  | identity
deriving DecidableEq

/-- How a question was settled: the gateway has named a device, there is an error, or the connector
has sent its identity. -/
def Settled (ws : List Output) (number : ℕ) : Result → Prop
  | .name name => .decided number (some name) ∈ ws
  | .error => .decided number none ∈ ws ∨ .failed number ∈ ws
  | .identity => .identified number ∈ ws

/-- The messages of the connector. -/
inductive IsReply : Result → List UInt8 → Prop where
  | name {record : Tlv.Record} (htag : record.tag = Client.CommandType.dataPlaneFeatureReputation)
      (hfits : record.value.length ≤ 2044) : IsReply (.name record.value) (Tlv.encodeAll [record])
  | error : IsReply .error (Tlv.encodeAll [errorRecord])
  | identity : IsReply .identity (Tlv.encodeAll [identityRecord setup.identity])

/-- What the application gets, by what it has asked for and what it reads. With an answer of the
other kind the call succeeds without a name. -/
def returned : Question → Result → ReputationStatus × Option (List UInt8)
  | .reputation, .name name => (.ok, some (name ++ [0]))
  | .reputation, .error => (.generalErr, none)
  | .reputation, .identity => (.ok, none)
  | .identity, .identity => (.ok, some (setup.identity.text ++ [0]))
  | .identity, .name _ | .identity, .error => (.ok, none)

theorem reply_of_isReply {result : Result} {message : List UInt8} (h : IsReply setup result message)
    (question : Question) :
    State.reply setup question message = some (returned setup question result) := by
  cases h with
  | @name record htag hfits =>
    have hother : Client.CommandType.dataPlaneFeatureReputation ≠
        Client.CommandType.dataPlaneIdentity := by decide
    cases question with
    | reputation =>
      rw [State.reply, Client.reputationReply, Client.readReply_single _ _ hfits, Client.firstReply]
      exact congrArg some (if_pos htag)
    | identity =>
      rw [State.reply, Client.identityReply, Client.readReply_single _ _ hfits,
        Client.firstIdentity]
      exact congrArg some (if_neg fun htype => hother (htag.symm.trans htype))
  | error =>
    cases question with
    | reputation => exact Client.readReply_single _ _ (by decide)
    | identity => exact Client.readReply_single _ _ (by decide)
  | identity =>
    have hfits : (identityRecord setup.identity).value.length ≤ 2044 :=
      Nat.le_trans setup.identity.length_le (by decide)
    cases question with
    | reputation => exact Client.readReply_single _ _ hfits
    | identity => exact Client.readReply_single _ _ hfits

/-- A request that completes in this way leads to the message that tells how it was settled. -/
def Completes (ws : List Output) (number : ℕ) (response : AtlasCoapResponse)
    (payload : List UInt8) : Prop :=
  ∃ result message, Settled ws number result ∧ IsReply setup result message ∧
    Client.featureReputationCallback setup.client response payload = some [message]

theorem Settled.append {ws : List Output} {number : ℕ} {result : Result}
    (h : Settled ws number result) (ws' : List Output) : Settled (ws ++ ws') number result := by
  cases result with
  | name name => exact List.mem_append_left _ h
  | error => exact h.imp (List.mem_append_left _) (List.mem_append_left _)
  | identity => exact List.mem_append_left _ h

theorem Completes.append {ws : List Output} {number : ℕ} {response : AtlasCoapResponse}
    {payload : List UInt8} (h : Completes setup ws number response payload) (ws' : List Output) :
    Completes setup (ws ++ ws') number response payload := by
  obtain ⟨result, message, hsettled, hreply, hcallback⟩ := h
  exact ⟨result, message, hsettled.append ws', hreply, hcallback⟩

/-- The messages of the application that are answered. -/
def IsQuestion (message : List UInt8) : Prop :=
  (∃ sensorType, message = Tlv.encodeAll [requestRecord sensorType]) ∨
    message = Tlv.encodeAll [getIdentityRecord]

/-- What holds of a state and the outputs so far. -/
structure Sound (s : State) (ws : List Output) : Prop where
  ranked : Ranked s.gateway
  up : ∀ p ∈ s.up, IsQuestion p.2
  payload : ∀ r ∈ s.coap, ∃ sensorType,
    r.payload = Tlv.encodeAll (forwardedRecords setup.identity sensorType)
  answer : ∀ r ∈ s.coap, ∀ answer ∈ r.answer,
    Completes setup ws r.number (respStatus answer.1) answer.2
  down : ∀ p ∈ s.down, ∃ result, Settled ws p.1 result ∧ IsReply setup result p.2

/-- The questions that are not answered, those first that are answered next. -/
def State.line (s : State) : Replies.State :=
  ⟨s.asked, s.waiting.map (·.number),
    s.down.map Prod.fst ++ (s.coap.map (·.number) ++ s.up.map Prod.fst)⟩

/-- What is seen of an output without its contents. -/
def view : Output → Option Replies.Out
  | .answered _ ask owner _ _ => some (.taken ask owner)
  | .timedOut ask => some (.timedOut ask)
  | .lost _ | .overtook _ => some .disturbed
  | .decided _ _ | .failed _ | .identified _ => none

/-- What a step does: it keeps what holds, moves the line, and gives the application what was
settled. -/
structure Advances (s : State) (ws : List Output) (r : State × List Output) : Prop where
  sound : Sound setup r.1 (ws ++ r.2)
  path : Path Replies.Move s.line (r.2.filterMap view) r.1.line
  answered : (∀ question ask owner status identity,
      .answered question ask owner status identity ∉ r.2) ∨
    ∃ question ask owner result, Settled ws owner result ∧
      r.2 = [.answered question ask owner (returned setup question result).1
        (returned setup question result).2]
  decided : ∀ number name, .decided number (some name) ∈ r.2 →
    name ≠ setup.identity.text ∧ Best s.gateway name

/-- Outputs that neither tell the application anything nor decide on a name. -/
def Output.Quiet : Output → Prop
  | .answered _ _ _ _ _ | .decided _ _ => False
  | .failed _ | .identified _ | .lost _ | .overtook _ | .timedOut _ => True

section Steps

variable {setup} {s s' : State} {ws os : List Output}

theorem Sound.append (h : Sound setup s ws) (ws' : List Output) : Sound setup s (ws ++ ws') where
  ranked := h.ranked
  up := h.up
  payload := h.payload
  answer r hr answer hanswer := (h.answer r hr answer hanswer).append setup ws'
  down p hp := by
    obtain ⟨result, hsettled, hreply⟩ := h.down p hp
    exact ⟨result, hsettled.append ws', hreply⟩

/-- A step without a decision and without an answer for the application. -/
theorem Advances.of_quiet (h : Sound setup s' (ws ++ os)) (hquiet : ∀ o ∈ os, o.Quiet)
    (hpath : Path Replies.Move s.line (os.filterMap view) s'.line) :
    Advances setup s ws (s', os) where
  sound := h
  path := hpath
  answered := .inl fun _ _ _ _ _ hmem => hquiet _ hmem
  decided _ _ hmem := absurd (hquiet _ hmem) id

theorem Sound.stay (h : Sound setup s ws) : Advances setup s ws (s, []) :=
  .of_quiet (h.append []) (by simp) (.refl _)

/-- The line loses the messages of the connection that is closed, and nobody waits any longer. -/
theorem path_accept (accepted : Bool) :
    Path Replies.Move s.line ((s.accept accepted).2.filterMap view) (s.accept accepted).1.line := by
  have hlost : ∀ numbers : List ℕ,
      (numbers.map Output.lost).filterMap view = List.replicate numbers.length .disturbed := by
    intro numbers
    rw [List.filterMap_map, ← List.map_const', ← List.filterMap_eq_map]
    rfl
  have hsub : List.Subperm (s.coap.map (·.number)) s.line.line :=
    ((List.sublist_append_left ..).trans (List.sublist_append_right ..)).subperm
  have hdisturbs : ∀ waiting : Option ℕ, Path Replies.Move ⟨s.asked, waiting, s.line.line⟩
      (List.replicate (s.down.map Prod.fst ++ s.up.map Prod.fst).length .disturbed)
      ⟨s.asked, waiting, s.coap.map (·.number)⟩ := by
    intro waiting
    refine Replies.path_disturbed (s := ⟨s.asked, waiting, s.line.line⟩) hsub fun hzero => ?_
    obtain ⟨hdown, hup⟩ := List.append_eq_nil_iff.mp (List.length_eq_zero_iff.mp hzero)
    simp only [State.line, hdown, hup, List.nil_append, List.append_nil]
  have hline : (s.accept accepted).1.line = ⟨s.asked, none, s.coap.map (·.number)⟩ := by
    simp [State.accept, State.line]
  rw [hline, State.accept, List.filterMap_append, hlost]
  cases hwait : s.waiting with
  | none =>
    have hstart : s.line = ⟨s.asked, none, s.line.line⟩ := by simp [State.line, hwait]
    rw [hstart]
    exact hdisturbs none
  | some w =>
    have hwaiting : s.line.waiting = some w.number := congrArg (Option.map _) hwait
    exact (Path.single (.timeOut hwaiting)).trans (hdisturbs none)

theorem Sound.accept (h : Sound setup s ws) (accepted : Bool) :
    Advances setup s ws (s.accept accepted) := by
  have hsound : Sound setup (s.accept accepted).1 ws :=
    ⟨h.ranked, fun _ hp => absurd hp List.not_mem_nil, h.payload, h.answer,
      fun _ hp => absurd hp List.not_mem_nil⟩
  refine .of_quiet (hsound.append _) (fun o ho => ?_) (path_accept accepted)
  rcases List.mem_append.mp ho with ho | ho
  · obtain ⟨_, -, rfl⟩ := List.mem_map.mp ho
    trivial
  · obtain ⟨_, -, rfl⟩ := List.mem_map.mp ho
    trivial

theorem Sound.write (h : Sound setup s ws) (hwait : s.waiting = none) (question : Question)
    {message : List UInt8} (hmessage : IsQuestion message) :
    Advances setup s ws (s.write question message, []) := by
  refine .of_quiet ?_ (by simp) ?_
  · rw [List.append_nil]
    refine ⟨h.ranked, fun p hp => ?_, h.payload, h.answer, h.down⟩
    rcases List.mem_append.mp hp with hp | hp
    · exact h.up p hp
    · rw [List.mem_singleton.mp hp]
      exact hmessage
  · have hidle : s.line.waiting = none := congrArg (Option.map _) hwait
    have hmove := Path.single (Replies.Move.ask hidle)
    simpa [State.line, State.write] using hmove

theorem Sound.ask (h : Sound setup s ws) (sensorType : UInt32) (written : Bool) :
    Advances setup s ws (s.ask setup sensorType written) := by
  rw [State.ask, Client.reputationRequest_eq]
  cases hwait : s.waiting with
  | some k => exact h.stay
  | none =>
    dsimp only
    split_ifs
    · exact h.write hwait .reputation (.inl ⟨_, rfl⟩)
    · exact h.stay

theorem Sound.askIdentity (h : Sound setup s ws) : Advances setup s ws (s.askIdentity setup) := by
  rw [State.askIdentity, Client.identityRequest_eq]
  cases hwait : s.waiting with
  | some k => exact h.stay
  | none =>
    dsimp only
    split_ifs
    · exact h.write hwait .identity (.inr rfl)
    · exact h.stay

/-- A question for a device goes from the front of one queue to the end of the next one. -/
theorem Sound.forward (h : Sound setup s ws) {number : ℕ} {up : List (ℕ × List UInt8)}
    {message : List UInt8} (hup : s.up = (number, message) :: up) (vars : DataPlane)
    (sensorType : UInt16) :
    Advances setup s ws (State.answerOrForward number
      [.feature (Tlv.encodeAll (forwardedRecords setup.identity sensorType))]
      { s with vars := vars, up := up }) := by
  change Advances setup s ws ({ s with
    vars := vars
    up := up
    coap := s.coap ++ [⟨number, Tlv.encodeAll (forwardedRecords setup.identity sensorType), none⟩]
    down := s.down ++ [] }, [])
  refine .of_quiet ?_ (by simp) ?_
  · rw [List.append_nil, List.append_nil]
    refine ⟨h.ranked, fun p hp => h.up p (hup ▸ List.mem_cons_of_mem _ hp), fun r hr => ?_,
      fun r hr answer hanswer => ?_, h.down⟩
    · rcases List.mem_append.mp hr with hr | hr
      · exact h.payload r hr
      · rw [List.mem_singleton.mp hr]
        exact ⟨sensorType, rfl⟩
    · rcases List.mem_append.mp hr with hr | hr
      · exact h.answer r hr answer hanswer
      · rw [List.mem_singleton.mp hr] at hanswer
        cases hanswer
  · have hstay : Path Replies.Move s.line [] s.line := .refl _
    simpa [State.line, hup] using hstay

/-- A question for the identity goes from the front of the questions to the end of the answers. It
overtakes the requests in flight. -/
theorem Sound.identify (h : Sound setup s ws) {number : ℕ} {up : List (ℕ × List UInt8)}
    {message : List UInt8} (hup : s.up = (number, message) :: up) (vars : DataPlane) :
    Advances setup s ws (State.answerOrForward number
      [.identity (Tlv.encodeAll [identityRecord setup.identity])]
      { s with vars := vars, up := up }) := by
  change Advances setup s ws ({ s with
    vars := vars
    up := up
    coap := s.coap ++ []
    down := s.down ++ [(number, Tlv.encodeAll [identityRecord setup.identity])] },
    .identified number :: if s.coap.isEmpty then [] else [.overtook number])
  refine .of_quiet ?_ ?_ ?_
  · rw [List.append_nil]
    have hsound :=
      h.append (.identified number :: if s.coap.isEmpty then [] else [.overtook number])
    refine ⟨h.ranked, fun p hp => h.up p (hup ▸ List.mem_cons_of_mem _ hp), h.payload,
      hsound.answer, fun p hp => ?_⟩
    rcases List.mem_append.mp hp with hp | hp
    · exact hsound.down p hp
    · rw [List.mem_singleton.mp hp]
      exact ⟨.identity, List.mem_append_right _ List.mem_cons_self, .identity⟩
  · split_ifs <;> simp [Output.Quiet]
  · cases hcoap : s.coap with
    | nil =>
      have hstay : Path Replies.Move s.line [] s.line := .refl _
      simpa [State.line, hup, hcoap, List.filterMap_cons, view] using hstay
    | cons r rest =>
      have hmiddle : (s.coap.map (·.number) ++ number :: up.map Prod.fst).Perm
          (number :: (s.coap.map (·.number) ++ up.map Prod.fst)) := List.perm_middle
      have hperm := (hmiddle.symm.append_left (s.down.map Prod.fst)).subperm
      have hmove : Replies.Move s.line [.disturbed]
          { s.line with
            line := s.down.map Prod.fst ++ number :: (s.coap.map (·.number) ++ up.map Prod.fst) } :=
        .disturb (by simpa [State.line, hup] using hperm)
      simpa [State.line, hcoap, List.filterMap_cons, view] using Path.single hmove

theorem Sound.readCb (h : Sound setup s ws) (done : Bool) :
    Advances setup s ws (s.readCb setup done) := by
  rw [State.readCb]
  cases hup : s.up with
  | nil => exact h.stay
  | cons p up =>
    obtain ⟨number, message⟩ := p
    have hlost : Advances setup s ws ({ s with vars := s.vars, up := up }, [.lost number]) := by
      refine .of_quiet ?_ (by simp [Output.Quiet]) (Path.single (.disturb ?_))
      · have hsound : Sound setup { s with up := up } ws :=
          ⟨h.ranked, fun p hp => h.up p (hup ▸ List.mem_cons_of_mem _ hp), h.payload, h.answer,
            h.down⟩
        exact hsound.append _
      · have hsub : (up.map Prod.fst).Sublist (s.up.map Prod.fst) := by
          rw [hup]
          exact List.sublist_cons_self ..
        exact ((hsub.append_left _).append_left _).subperm
    have hquestion : IsQuestion message := h.up (number, message) (hup ▸ List.mem_cons_self)
    rcases hquestion with ⟨sensorType, hmessage⟩ | hmessage
    · simp only [hmessage, Client.readCb_reputationRequest]
      cases done with
      | true => exact h.forward hup s.vars sensorType
      | false => exact hlost
    · simp only [hmessage, Client.readCb_identityRequest]
      cases done with
      | true => exact h.identify hup s.vars
      | false => exact hlost

theorem Sound.read (h : Sound setup s ws) : Advances setup s ws (s.read setup) := by
  rw [State.read]
  split
  case h_2 => exact h.stay
  case h_1 ask question number message down hwait hdown =>
    obtain ⟨result, hsettled, hreply⟩ := h.down (number, message) (hdown ▸ List.mem_cons_self)
    have hsound : Sound setup { s with waiting := none, down := down } ws :=
      ⟨h.ranked, h.up, h.payload, h.answer,
        fun p hp => h.down p (hdown ▸ List.mem_cons_of_mem _ hp)⟩
    have hwaiting : s.line.waiting = some ask := congrArg (Option.map _) hwait
    have hline :
        s.line.line = number :: (State.line { s with waiting := none, down := down }).line := by
      rw [State.line, hdown]
      rfl
    simp only [reply_of_isReply setup hreply]
    exact ⟨hsound.append _, Path.single (.take hwaiting hline),
      .inr ⟨question, ask, number, result, hsettled, rfl⟩, by simp⟩

theorem Sound.timeOut (h : Sound setup s ws) : Advances setup s ws s.timeOut := by
  rw [State.timeOut]
  split
  case h_2 => exact h.stay
  case h_1 ask question hwait hdown =>
    have hsound : Sound setup { s with waiting := none } ws :=
      ⟨h.ranked, h.up, h.payload, h.answer, h.down⟩
    have hwaiting : s.line.waiting = some ask := congrArg (Option.map _) hwait
    exact .of_quiet (hsound.append _) (by simp [Output.Quiet]) (Path.single (.timeOut hwaiting))

/-- When a request in flight completes, its number goes to the end of the answers, or it is lost. -/
theorem path_completed {i : ℕ} {r : InFlight} (hr : s.coap[i]? = some r) (written : Bool)
    (message : List UInt8) :
    Path Replies.Move s.line ((State.disorder i r.number written).filterMap view)
      (s.completed i r.number [message] written).line := by
  obtain ⟨before, after, hcoap, herase⟩ := List.exists_append_cons_of_getElem? hr
  rw [hcoap] at herase
  have hsub : List.Subperm (s.completed i r.number [message] written).line.line s.line.line := by
    cases written with
    | true =>
      simpa [State.completed, State.line, herase, hcoap] using
        ((List.perm_middle (a := r.number)).symm.append_left _).subperm
    | false =>
      simpa [State.completed, State.line, herase, hcoap] using
        (((List.sublist_cons_self r.number _).append_left _).append_left _).subperm
  have hdisturb :
      Replies.Move s.line [.disturbed] (s.completed i r.number [message] written).line :=
    .disturb hsub
  by_cases hi : i = 0
  · cases written with
    | true =>
      -- the first request goes to the end of the answers, and the line is the same
      have hline : (s.completed i r.number [message] true).line = s.line := by
        subst hi
        cases hfirst : s.coap with
        | nil =>
          rw [hfirst] at hr
          cases hr
        | cons r' rest =>
          obtain rfl : r' = r := by simpa [hfirst] using hr
          simp [State.completed, State.line, hfirst]
      rw [hline, State.disorder, if_pos hi]
      exact .refl _
    | false =>
      rw [State.disorder, if_pos hi]
      exact Path.single hdisturb
  · cases written with
    | true =>
      rw [State.disorder, if_neg hi]
      exact Path.single hdisturb
    | false =>
      have hstay : Replies.Move s.line [.disturbed] s.line := .disturb (List.Subperm.refl _)
      rw [State.disorder, if_neg hi]
      exact (Path.single hstay).trans (Path.single hdisturb)

theorem quiet_disorder {i number : ℕ} {written : Bool} :
    ∀ o ∈ State.disorder i number written, o.Quiet := by
  intro o ho
  rcases List.mem_append.mp ho with ho | ho
  · split_ifs at ho
    · cases ho
    · rw [List.mem_singleton.mp ho]
      trivial
  · split_ifs at ho
    · cases ho
    · rw [List.mem_singleton.mp ho]
      trivial

theorem Sound.completed (h : Sound setup s ws) {i number : ℕ} {result : Result}
    {message : List UInt8} (hsettled : Settled ws number result)
    (hreply : IsReply setup result message)
    (written : Bool) : Sound setup (s.completed i number [message] written) ws where
  ranked := h.ranked
  up := h.up
  payload r hr := h.payload r (List.mem_of_mem_eraseIdx hr)
  answer r hr := h.answer r (List.mem_of_mem_eraseIdx hr)
  down p hp := by
    rcases List.mem_append.mp hp with hp | hp
    · exact h.down p hp
    · cases written with
      | false => cases hp
      | true =>
        rw [List.mem_singleton.mp hp]
        exact ⟨result, hsettled, hreply⟩

theorem Sound.complete (h : Sound setup s ws) (i : ℕ) (failure : Option Failure) (written : Bool) :
    Advances setup s ws (s.complete setup i failure written) := by
  rw [State.complete]
  cases hr : s.coap[i]? with
  | none => exact h.stay
  | some r =>
    dsimp only
    cases failure with
    | none =>
      cases hanswer : r.answer with
      | none => exact h.stay
      | some answer =>
        obtain ⟨result, message, hsettled, hreply, hcallback⟩ :=
          h.answer r (List.mem_of_getElem? hr) answer hanswer
        simp only [State.callback, hcallback]
        exact .of_quiet ((h.completed hsettled hreply _).append _) quiet_disorder
          (path_completed hr _ message)
    | some failure =>
      have hne : failure.response ≠ .ok := by cases failure <;> exact nofun
      have hsettled : Settled (ws ++ [.failed r.number]) r.number .error := .inr (by simp)
      have hsound := ((h.append [.failed r.number]).completed (i := i) hsettled .error
        (written && s.connected)).append (State.disorder i r.number (written && s.connected))
      simp only [State.callback, Client.featureReputationCallback_error _ hne]
      rw [List.append_assoc] at hsound
      exact .of_quiet hsound (List.forall_mem_cons.mpr ⟨trivial, quiet_disorder⟩)
        (path_completed hr _ _)

/-- The gateway reads the sensor type of a request that was handed on. -/
theorem readFeature_forwardedRecords (sensorType : UInt16) :
    Reputation.readFeature setup.gateway setup.identity.text
      (Tlv.encodeAll (forwardedRecords setup.identity sensorType)) = some sensorType := by
  have hlen : UInt16.ofNat setup.identity.text.length ≠ 0 := by
    have hpos := List.length_pos_iff.mpr setup.identity_ne
    have hle := setup.identity.length_le
    exact fun hzero => Client.not_empty_buf hpos (by omega) (.inr hzero)
  have hidentity : Reputation.FeatureFields.read setup.gateway setup.identity.text {}
      ⟨Client.CommandType.identity, UInt16.ofNat setup.identity.text.length, setup.identity.text⟩ =
        some { identity := setup.identity.text } := by
    simp only [Reputation.FeatureFields.read, if_neg hlen, ne_eq, not_true_eq_false, if_false]
    exact if_pos rfl
  have hfeature : Reputation.FeatureFields.read setup.gateway setup.identity.text
      { identity := setup.identity.text } (.ofRecord (requestRecord sensorType)) =
        some { identity := setup.identity.text, sensorType := some sensorType } := by
    obtain ⟨tmp, hload, htmp⟩ := Option.map_eq_some_iff.mp (load16?_be16 setup.gateway sensorType)
    have htag : (requestRecord sensorType).tag = Reputation.CommandType.featureRequest := rfl
    have hvalue : (requestRecord sensorType).value = be16 sensorType := rfl
    have hlen : (requestRecord sensorType).len = 2 := by
      rw [Tlv.Record.len, hvalue, length_be16]
      rfl
    have hother : Reputation.CommandType.featureRequest ≠ Reputation.CommandType.identity := by
      decide
    simp only [Reputation.FeatureFields.read, AtlasCommand.ofRecord, htag, if_neg hother, if_true,
      hlen, ne_eq, not_true_eq_false, if_false, hvalue, hload, Option.map_some, htmp]
  have hfold : ((forwardedRecords setup.identity sensorType).map AtlasCommand.ofRecord).foldlM
      (Reputation.FeatureFields.read setup.gateway setup.identity.text) {} =
        some { identity := setup.identity.text, sensorType := some sensorType } := by
    rw [forwardedRecords, List.map_cons, List.map_cons, List.foldlM_cons]
    refine Option.bind_eq_some_iff.mpr ⟨_, hidentity, ?_⟩
    rw [List.foldlM_cons]
    exact Option.bind_eq_some_iff.mpr ⟨_, hfeature, rfl⟩
  simp only [Reputation.readFeature, AtlasCommandBatch.parsedCommands_eq, Tlv.parse_encodeAll,
    hfold, Option.bind_some, if_neg setup.identity_ne]
  exact if_neg (List.cons_ne_nil _ _)

/-- The gateway decides on a request in flight, and the decision leads to the message that tells
it. -/
theorem Sound.decide (h : Sound setup s ws) {i : ℕ} {r : InFlight} (hr : s.coap[i]? = some r)
    {manager : AtlasDeviceManager} (hranked : Ranked manager) {name : Option StdString}
    {answer : CoapResponse × List UInt8}
    (hanswer : Completes setup (ws ++ [.decided r.number name]) r.number (respStatus answer.1)
      answer.2)
    (hname : ∀ n ∈ name, n ≠ setup.identity.text ∧ Best s.gateway n) :
    Advances setup s ws
      ({ s with
        gateway := manager
        coap := s.coap.set i { r with answer := some answer } }, [.decided r.number name]) := by
  have hsound := h.append [.decided r.number name]
  constructor
  case sound =>
    refine ⟨hranked, hsound.up, fun r' hr' => ?_, fun r' hr' answer' hanswer' => ?_, hsound.down⟩
    · rcases List.mem_or_eq_of_mem_set hr' with hr' | rfl
      · exact h.payload r' hr'
      · exact h.payload r (List.mem_of_getElem? hr)
    · rcases List.mem_or_eq_of_mem_set hr' with hr' | rfl
      · exact hsound.answer r' hr' answer' hanswer'
      · obtain rfl := Option.some.inj hanswer'
        exact hanswer
  case path =>
    have hstay : Path Replies.Move s.line [] s.line := .refl _
    simpa [State.line, List.filterMap_cons, view, List.map_set_of_getElem? hr] using hstay
  case answered => exact .inl (by simp)
  case decided =>
    intro number n hmem
    obtain ⟨-, rfl⟩ := Output.decided.inj (List.mem_singleton.mp hmem)
    exact hname n rfl

theorem Sound.handle (h : Sound setup s ws) (i : ℕ) {env : Env}
    (henv : ∀ identity, env.selectDevicePsk identity ≠ [] → Fits identity) :
    Advances setup s ws (s.handle setup i env) := by
  have hranked := h.ranked.getDevice henv setup.identity.text
  rw [State.handle]
  cases hr : s.coap[i]? with
  | none => exact h.stay
  | some r =>
    simp only [AtlasDeviceManager.requestReputationCallback_eq]
    split_ifs with hnamed
    · obtain ⟨-, -, hne, hother⟩ := hnamed
      have hbest := h.ranked.best_trusted hne
      have hfits := h.ranked.fits _ (h.ranked.inMemory _ hbest.1)
      have hlength : s.gateway.trusted.length < 65536 := Nat.lt_of_le_of_lt hfits.2 (by decide)
      have hreply := @IsReply.name setup ⟨_, s.gateway.trusted, hlength⟩ rfl hfits.2
      refine h.decide hr hranked ⟨.name s.gateway.trusted, _, ?_, hreply, ?_⟩ ?_
      · exact List.mem_append_right _ List.mem_cons_self
      · rw [Reputation.featurePayload_eq _ _ hlength]
        exact Client.featureReputationCallback_ok _ rfl (Nat.le_trans hfits.2 (by decide))
      · rintro n ⟨⟩
        exact ⟨hother, hbest⟩
    · refine h.decide hr hranked ⟨.error, _, .inl ?_, .error, ?_⟩ nofun
      · exact List.mem_append_right _ List.mem_cons_self
      · have hrefused : respStatus .notAcceptable ≠ .ok := by decide
        exact Client.featureReputationCallback_error _ hrefused _

theorem Sound.gateway (h : Sound setup s ws) {event : TrustEvent}
    (hevent : Reputation.Admissible setup.gateway s.gateway event) :
    Advances setup s ws ({ s with gateway := (s.gateway.step setup.gateway event).1 }, []) := by
  refine .of_quiet ?_ (by simp) (.refl _)
  rw [List.append_nil]
  exact ⟨h.ranked.step setup.gateway hevent, h.up, h.payload, h.answer, h.down⟩

theorem Sound.step (h : Sound setup s ws) {event : Event} (hevent : Admits setup s event) :
    Advances setup s ws (step setup s event) := by
  cases event with
  | accept accepted => exact h.accept accepted
  | ask sensorType written => exact h.ask sensorType written
  | askIdentity => exact h.askIdentity
  | readCb done => exact h.readCb done
  | handle i env => exact h.handle i hevent
  | complete i failure written => exact h.complete i failure written
  | read => exact h.read
  | timeOut => exact h.timeOut
  | gateway event => exact h.gateway hevent

end Steps

/-! ## Runs -/

/-- The answers so far are what was settled before. -/
def AsSettled (ws : List Output) : Prop :=
  ∀ pre question ask owner status identity,
    pre ++ [.answered question ask owner status identity] <+: ws →
      ∃ result, Settled pre owner result ∧ (status, identity) = returned setup question result

theorem AsSettled.append {s : State} {ws : List Output} (h : AsSettled setup ws)
    {r : State × List Output} (hr : Advances setup s ws r) : AsSettled setup (ws ++ r.2) := by
  intro pre question ask owner status identity hpre
  rcases hr.answered with hnone | ⟨question', ask', owner', result, hsettled, hout⟩
  · exact h pre question ask owner status identity (List.prefix_of_notMem hpre (hnone _ _ _ _ _))
  · rw [hout] at hpre
    rcases List.prefix_concat_iff.mp hpre with heq | hold
    · obtain ⟨rfl, hlast⟩ := List.append_inj' heq rfl
      obtain ⟨rfl, rfl, rfl, rfl, rfl⟩ := Output.answered.inj (List.singleton_inj.mp hlast)
      exact ⟨result, hsettled, rfl⟩
    · exact h pre question ask owner status identity hold

theorem sound_start (vars : DataPlane) : Sound setup (start vars) [] where
  ranked := Reputation.ranked_start
  up _ hp := absurd hp List.not_mem_nil
  payload _ hr := absurd hr List.not_mem_nil
  answer _ hr := absurd hr List.not_mem_nil
  down _ hp := absurd hp List.not_mem_nil

variable {setup} {vars : DataPlane} {events : List Event}

theorem sound_run (h : AllSteps (step setup) (Admits setup) (start vars) events) :
    let ws := trace (step setup) (start vars) events
    let s := run (step setup) (start vars) events
    Sound setup s ws ∧ Path Replies.Move .start (ws.filterMap view) s.line ∧
      AsSettled setup ws := by
  have hstep :
      ∀ s event ws, (Sound setup s ws ∧ Path Replies.Move .start (ws.filterMap view) s.line ∧
      AsSettled setup ws) → Admits setup s event →
      Sound setup (step setup s event).1 (ws ++ (step setup s event).2) ∧
        Path Replies.Move .start ((ws ++ (step setup s event).2).filterMap view)
          (step setup s event).1.line ∧ AsSettled setup (ws ++ (step setup s event).2) := by
    rintro s event ws ⟨hsound, hpath, hsettled⟩ hevent
    have hadvances := hsound.step hevent
    refine ⟨hadvances.sound, ?_, hsettled.append setup hadvances⟩
    rw [List.filterMap_append]
    exact hpath.trans hadvances.path
  have hstart : Sound setup (start vars) [] ∧
      Path Replies.Move .start (([] : List Output).filterMap view) (start vars).line ∧
      AsSettled setup [] :=
    ⟨sound_start setup vars, .refl _, fun pre _ _ _ _ _ hpre => by simp at hpre⟩
  have hrun := run_trace_of_allSteps hstep hstart h
  rwa [List.nil_append] at hrun

variable (setup)

/-- What the gateway decides. It names the best of the other devices that have been compared, and
does not refuse a request for temperature data of a registered client unless there is none. -/
structure Decides (s : State) (event : Event) : Prop where
  named : ∀ number name, .decided number (some name) ∈ (step setup s event).2 →
    name ≠ setup.identity.text ∧ Best s.gateway name
  refused : ∀ i env r, event = .handle i env → s.coap[i]? = some r →
    r.payload = Tlv.encodeAll (forwardedRecords setup.identity sensorTemperature) →
    (∃ device, (s.gateway.getDevice env setup.identity.text).2 = some device ∧
      device.registered = true) →
    .decided r.number none ∈ (step setup s event).2 →
    Best s.gateway setup.identity.text ∨ ∀ identity device, s.gateway.ranked identity = true →
      s.gateway.devices identity = some device → device.globalReputation ≤ 0

variable {setup}

theorem Sound.decides {s : State} {ws : List Output} (h : Sound setup s ws) {event : Event}
    (hevent : Admits setup s event) : Decides setup s event := by
  refine ⟨(h.step hevent).decided, ?_⟩
  rintro i env r rfl hr hpayload hregistered hdecided
  have hinformed := (h.ranked.informed setup.gateway setup.client
    (.request env setup.identity.text r.payload)).refused env _ _ rfl hregistered
  rw [hpayload, readFeature_forwardedRecords] at hinformed
  refine hinformed rfl fun hok => ?_
  simp only [Asking.step, State.handle, hr, hpayload, hok, State.decision,
    List.mem_singleton] at hdecided
  cases hdecided

/-- The client is device 65. -/
def sampleSetup : Setup := ⟨.little, .big, ⟨[65], by decide⟩, by decide⟩

/-- An application asks for a device and leaves. The next one asks for the identity, then for a
device. The answer to the first question is on its way by then. -/
def lateRun : List Event :=
  Reputation.pairStart.map .gateway ++
    [.accept true, .ask 101 true, .readCb true, .accept true, .handle 0 Reputation.pairEnv,
      .complete 0 none true, .askIdentity, .read, .readCb true, .ask 101 true, .read]

/-- The connector has no policy yet. -/
def noPolicy : DataPlane := ⟨⟨0, 0, 0, false⟩, 0, 0⟩

theorem admits_lateRun :
    AllSteps (step sampleSetup) (Admits sampleSetup) (start noPolicy) lateRun := by
  obtain ⟨hfirst, hsecond, hthird, -⟩ := Reputation.admissible_pairStart .big
  exact ⟨hfirst, hsecond, hthird, trivial, trivial, trivial, trivial,
    fun _ => Reputation.fits_pairEnv, trivial, trivial, trivial, trivial, trivial, trivial, trivial⟩

/-- In every run, an answer the application takes was not taken before and does not belong to a
later question. It is the right one as long as no read has ended without a message, and otherwise
older by the number of reads that have, as long as nothing was lost or overtaken. -/
theorem answers_late (vars : DataPlane) (events : List Event)
    (h : AllSteps (step setup) (Admits setup) (start vars) events) (pre : List Output)
    (question : Question) (ask owner : ℕ) (status : ReputationStatus)
    (identity : Option (List UInt8))
    (hpre : pre ++ [.answered question ask owner status identity] <+:
      trace (step setup) (start vars) events) :
    Replies.Answer (pre.filterMap view) ask owner := by
  obtain ⟨-, hpath, -⟩ := sound_run h
  refine Replies.answer_of_path hpath ?_
  have hview := hpre.filterMap view
  rwa [List.filterMap_append] at hview

/-- The application that connected later takes the answer to the question before. -/
theorem answers_late_by_one :
    Replies.Answer [.timedOut 0] 1 0 ∧ ¬ Replies.Answer [.timedOut 0] 1 1 := by
  refine ⟨answers_late noPolicy lateRun admits_lateRun [.timedOut 0, .decided 0 (some [66])]
    .identity 1 0 .ok none ?_, fun h => absurd (h.late (by decide)) (by decide)⟩
  have htrace : trace (step sampleSetup) (start noPolicy) lateRun =
      [.timedOut 0, .decided 0 (some [66]), .answered .identity 1 0 .ok none, .identified 1,
        .answered .reputation 2 1 .ok none] := by decide +kernel
  rw [htrace]
  exact List.prefix_append _ _

end Atlas.Asking
