import Atlas.Devices.CloudSync

/-! # The connection to the cloud broker

The MQTT library calls back on a thread of its own. Its callbacks do nothing but post a handler to
the scheduler, so an event of the connection is seen by the gateway some time after it happened. A
lost connection, or an attempt that failed, starts the reconnect alarm, and the alarm makes the next
attempt.

Three things can bring about the next attempt: the attempt that is going on (or the connection
itself, when it breaks), the posted handler of a disconnection, and the alarm. There is never more
than one of them, and there is one as long as no call of `connect` throws: the exception is logged,
and nothing else would start the alarm.

Reference: `mqtt_client/AtlasMqttClient.cpp`, `mqtt_client/AtlasMqttClient_callback.cpp`,
`alarm/AtlasAlarm.cpp`.
-/

namespace Atlas.Uplink

open EventMachine
open Gateway (StdString)
open Devices (AtlasAlarm)

/-! ## The client -/

/-- The state of the library's client. -/
inductive Link where
  | down
  | connecting
  | up
deriving DecidableEq

/-- What a callback posts to the scheduler: the notification of the listeners, or a command of the
cloud. -/
inductive Handler where
  | onConnect
  | onDisconnect
  | parseCmd (cmd : StdString)
deriving DecidableEq

/-- `AtlasMqttClient` and its callback object: whether there is a `connTok_`, the library's client,
the handlers posted and not yet run, and the reconnect alarm. -/
structure AtlasMqttClient where
  connTok : Bool
  link : Link
  posted : List Handler
  alarm : AtlasAlarm
deriving DecidableEq

namespace AtlasMqttClient

/-- Posts a handler to the scheduler. -/
def post (handler : Handler) (client : AtlasMqttClient) : AtlasMqttClient :=
  { client with posted := client.posted ++ [handler] }

/-- `initConnection`. The first call of `connect` is accepted by the library, or throws. -/
def initConnection (accepted : Bool) : AtlasMqttClient where
  connTok := accepted
  link := if accepted then .connecting else .down
  posted := []
  alarm := { once := true }

/-- `AtlasMqttClient_callback::on_success`. -/
def onSuccess (client : AtlasMqttClient) : AtlasMqttClient :=
  { client with link := .up }.post .onConnect

/-- `AtlasMqttClient_callback::on_failure`. -/
def onFailure (client : AtlasMqttClient) : AtlasMqttClient :=
  { client with link := .down }.post .onDisconnect

/-- `AtlasMqttClient_callback::connection_lost`. -/
def connectionLost (client : AtlasMqttClient) : AtlasMqttClient :=
  { client with link := .down }.post .onDisconnect

/-- `AtlasMqttClient_callback::message_arrived`. -/
def messageArrived (cmd : StdString) (client : AtlasMqttClient) : AtlasMqttClient :=
  client.post (.parseCmd cmd)

/-- `AtlasMqttClient_callback::alarmCallback`. An exception is caught and logged. -/
def alarmCallback (accepted : Bool) (client : AtlasMqttClient) : AtlasMqttClient :=
  if accepted then { client with link := .connecting } else client

/-- What a posted handler does to the client itself, after the listeners. -/
def finish (client : AtlasMqttClient) : Handler → AtlasMqttClient
  | .onDisconnect => { client with alarm := client.alarm.start }
  | _ => client

end AtlasMqttClient

/-- What happens to the client: callbacks of the library, a turn of the scheduler, and the expiry of
the reconnect alarm with the result of the call of `connect`. -/
inductive ConnectionEvent where
  | success
  | failure
  | lost
  | arrived (cmd : StdString)
  | turn
  | expired (accepted : Bool)
deriving DecidableEq

/-- What the rest of the gateway and the library see: a handler that runs, and a call of
`connect`. -/
inductive ConnectionOutput where
  | runs (handler : Handler)
  | connect (accepted : Bool)
deriving DecidableEq

namespace AtlasMqttClient

/-- One event. The library reports the end of an attempt while it makes one, and a loss while it is
connected; the scheduler runs the first posted handler; an alarm expires while it waits. -/
def step (client : AtlasMqttClient) :
    ConnectionEvent → AtlasMqttClient × List ConnectionOutput
  | .success => if client.link = .connecting then (client.onSuccess, []) else (client, [])
  | .failure => if client.link = .connecting then (client.onFailure, []) else (client, [])
  | .lost => if client.link = .up then (client.connectionLost, []) else (client, [])
  | .arrived cmd => if client.link = .up then (client.messageArrived cmd, []) else (client, [])
  | .turn =>
    match client.posted with
    | [] => (client, [])
    | handler :: posted => ({ client with posted := posted }.finish handler, [.runs handler])
  | .expired accepted =>
    if client.alarm.waiting then
      ({ client with alarm := client.alarm.timerHandler }.alarmCallback accepted,
        [.connect accepted])
    else (client, [])

/-- `AtlasMqttClient::tryPublishMessage`, `accepts` being what becomes of the call of `publish`. -/
def tryPublishMessage (accepts : Bool) (client : AtlasMqttClient) : Bool :=
  client.connTok && client.link = .up && accepts

/-- `AtlasMqttClient::subscribeTopic`, `accepts` being what becomes of the call of `subscribe`. -/
def subscribeTopic (accepts : Bool) (client : AtlasMqttClient) : Bool :=
  client.link = .up && accepts

/-! ## Attempts -/

/-- The number of things that bring about the next attempt to connect: an attempt or a connection,
posted disconnections, and the waiting alarm. -/
def attempts (client : AtlasMqttClient) : ℕ :=
  (if client.link = .down then 0 else 1) + client.posted.count .onDisconnect
    + (if client.alarm.waiting then 1 else 0)

/-- The gateway is connected, or something will make it connect. -/
def Trying (client : AtlasMqttClient) : Prop :=
  client.link ≠ .down ∨ .onDisconnect ∈ client.posted ∨ client.alarm.waiting = true

/-- The call of `connect` of an expired alarm does not throw. -/
def NotThrown (client : AtlasMqttClient) (e : ConnectionEvent) : Prop :=
  e = .expired false → client.alarm.waiting = false

/-- The alarm runs once, and its flag says whether it waits. There is at most one thing to bring
about the next attempt. -/
structure WellFormed (client : AtlasMqttClient) : Prop where
  once : client.alarm.once = true
  started : client.alarm.started = client.alarm.waiting
  attempts : client.attempts ≤ 1

theorem trying_iff (client : AtlasMqttClient) : client.Trying ↔ 1 ≤ client.attempts := by
  rw [Trying, attempts, ← List.count_pos_iff]
  split <;> split <;> simp_all

variable {client : AtlasMqttClient}

theorem wellFormed_initConnection (accepted : Bool) : (initConnection accepted).WellFormed :=
  ⟨rfl, rfl, by cases accepted <;> decide⟩

theorem attempts_initConnection (accepted : Bool) :
    (initConnection accepted).attempts = if accepted then 1 else 0 := by
  cases accepted <;> rfl

theorem count_posted_concat (client : AtlasMqttClient) (handler : Handler) :
    (client.post handler).posted.count .onDisconnect =
      client.posted.count .onDisconnect + if handler = .onDisconnect then 1 else 0 := by
  simp [post, List.count_append, List.count_singleton]

/-- An alarm that runs once waits after `start`, and not after its expiry. -/
theorem waiting_start {alarm : AtlasAlarm} (h : alarm.started = alarm.waiting) :
    alarm.start.waiting = true ∧ alarm.start.started = true ∧ alarm.start.once = alarm.once := by
  rw [AtlasAlarm.start]
  cases hstarted : alarm.started with
  | false => exact ⟨rfl, rfl, rfl⟩
  | true => exact ⟨h ▸ hstarted, hstarted, rfl⟩

theorem waiting_timerHandler {alarm : AtlasAlarm} (honce : alarm.once = true)
    (hstarted : alarm.started = true) :
    alarm.timerHandler = { once := true, started := false, waiting := false } := by
  simp [AtlasAlarm.timerHandler, AtlasAlarm.cancel, honce, hstarted]

/-- The handler of a disconnection is the only cause of the next attempt, and hands over to the
alarm. -/
theorem WellFormed.of_posted_onDisconnect (h : client.WellFormed)
    (hmem : .onDisconnect ∈ client.posted) :
    client.link = .down ∧ client.posted.count .onDisconnect = 1 ∧ client.alarm.waiting = false := by
  have hpos := List.count_pos_iff.mpr hmem
  have hle := h.attempts
  rw [AtlasMqttClient.attempts] at hle
  refine ⟨?_, by omega, ?_⟩
  · by_contra hup
    rw [if_neg hup] at hle
    omega
  · by_contra hwait
    rw [if_pos (Bool.eq_true_of_not_eq_false hwait)] at hle
    omega

/-- The alarm waits only while the client is down and nothing else is under way. -/
theorem WellFormed.of_waiting (h : client.WellFormed) (hwait : client.alarm.waiting = true) :
    client.link = .down ∧ .onDisconnect ∉ client.posted := by
  have hle := h.attempts
  rw [AtlasMqttClient.attempts, if_pos hwait] at hle
  refine ⟨?_, ?_⟩
  · by_contra hup
    rw [if_neg hup] at hle
    omega
  · rw [← List.count_eq_zero]
    omega

/-- A callback of the library that reports the end of a state `before` hands the cause of the next
attempt over to the handler it posts, or keeps it. -/
theorem WellFormed.report (h : client.WellFormed) (before link : Link) (handler : Handler)
    (hcause : (if link = .down then 0 else 1) + (if handler = .onDisconnect then 1 else 0) =
      if before = .down then 0 else 1) {after : AtlasMqttClient}
    (hafter : client.link = before → after = { client with link := link }.post handler)
    (hsame : client.link ≠ before → after = client) :
    after.WellFormed ∧ after.attempts = client.attempts := by
  by_cases hlink : client.link = before
  · rw [hafter hlink]
    have hattempts : ({ client with link := link }.post handler).attempts = client.attempts := by
      rw [AtlasMqttClient.attempts, AtlasMqttClient.attempts, count_posted_concat, hlink, ← hcause]
      show (if link = .down then 0 else 1) + (client.posted.count _ + _) +
        (if client.alarm.waiting then 1 else 0) = _
      omega
    exact ⟨⟨h.once, h.started, hattempts ▸ h.attempts⟩, hattempts⟩
  · rw [hsame hlink]
    exact ⟨h, rfl⟩

/-- The scheduler runs a handler: that of a disconnection hands over to the alarm. -/
theorem WellFormed.turn (h : client.WellFormed) {handler : Handler} {posted : List Handler}
    (hposted : client.posted = handler :: posted) :
    ({ client with posted := posted }.finish handler).WellFormed ∧
      ({ client with posted := posted }.finish handler).attempts = client.attempts := by
  by_cases hhandler : handler = .onDisconnect
  · subst hhandler
    obtain ⟨hlink, hcount, hwait⟩ :=
      h.of_posted_onDisconnect (by rw [hposted]; exact List.mem_cons_self)
    obtain ⟨hwaiting, hstarted, honce⟩ := waiting_start h.started
    rw [hposted, List.count_cons_self] at hcount
    have hattempts :
        ({ client with posted := posted }.finish .onDisconnect).attempts = client.attempts := by
      simp [AtlasMqttClient.attempts, finish, hlink, hwaiting, hwait, hposted]
    refine ⟨⟨honce.trans h.once, hstarted.trans hwaiting.symm, ?_⟩, hattempts⟩
    rw [hattempts]
    exact h.attempts
  · have hfinish :
        { client with posted := posted }.finish handler = { client with posted := posted } := by
      cases handler with
      | onDisconnect => exact absurd rfl hhandler
      | onConnect => rfl
      | parseCmd cmd => rfl
    have hattempts : { client with posted := posted }.attempts = client.attempts := by
      simp [AtlasMqttClient.attempts, hposted, hhandler]
    rw [hfinish]
    exact ⟨⟨h.once, h.started, hattempts ▸ h.attempts⟩, hattempts⟩

/-- The alarm expires: an accepted call of `connect` is the next attempt, and otherwise there is
none. -/
theorem WellFormed.expired (h : client.WellFormed) (hwait : client.alarm.waiting = true)
    (accepted : Bool) :
    ({ client with alarm := client.alarm.timerHandler }.alarmCallback accepted).WellFormed ∧
      ({ client with alarm := client.alarm.timerHandler }.alarmCallback accepted).attempts =
        if accepted then 1 else 0 := by
  obtain ⟨hlink, hposted⟩ := h.of_waiting hwait
  rw [waiting_timerHandler h.once (h.started.trans hwait)]
  have hcount : client.posted.count .onDisconnect = 0 := List.count_eq_zero.mpr hposted
  cases accepted with
  | false => exact ⟨⟨rfl, rfl, by simp [AtlasMqttClient.attempts, alarmCallback, hlink, hcount]⟩,
      by simp [AtlasMqttClient.attempts, alarmCallback, hlink, hcount]⟩
  | true => exact ⟨⟨rfl, rfl, by simp [AtlasMqttClient.attempts, alarmCallback, hcount]⟩,
      by simp [AtlasMqttClient.attempts, alarmCallback, hcount]⟩

/-- What an event does to the cause of the next attempt: it keeps it, unless it is an expiry whose
call of `connect` throws. -/
theorem step_spec (h : client.WellFormed) (e : ConnectionEvent) :
    (client.step e).1.WellFormed ∧
    (client.NotThrown e → (client.step e).1.attempts = client.attempts) ∧
    (¬ client.NotThrown e → (client.step e).1.attempts = 0) := by
  have hkeeps : ∀ {client' : AtlasMqttClient} {e' : ConnectionEvent}, (∀ a, e' ≠ .expired a) →
      client'.WellFormed ∧ client'.attempts = client.attempts →
      client'.WellFormed ∧ (client.NotThrown e' → client'.attempts = client.attempts) ∧
        (¬ client.NotThrown e' → client'.attempts = 0) := by
    intro client' e' he' hclient'
    exact ⟨hclient'.1, fun _ => hclient'.2,
      fun hthrown => absurd (fun heq => absurd heq (he' _)) hthrown⟩
  cases e with
  | success =>
    exact hkeeps (by simp) (h.report .connecting .up .onConnect rfl
      (fun hlink => by rw [step, if_pos hlink]; rfl) fun hlink => by rw [step, if_neg hlink])
  | failure =>
    exact hkeeps (by simp) (h.report .connecting .down .onDisconnect rfl
      (fun hlink => by rw [step, if_pos hlink]; rfl) fun hlink => by rw [step, if_neg hlink])
  | lost =>
    exact hkeeps (by simp) (h.report .up .down .onDisconnect rfl
      (fun hlink => by rw [step, if_pos hlink]; rfl) fun hlink => by rw [step, if_neg hlink])
  | arrived cmd =>
    exact hkeeps (by simp) (h.report .up .up (.parseCmd cmd) rfl
      (fun hlink => by rw [step, if_pos hlink, ← hlink]; rfl) fun hlink => by
        rw [step, if_neg hlink])
  | turn =>
    refine hkeeps (by simp) ?_
    cases hposted : client.posted with
    | nil =>
      simp only [step, hposted]
      exact ⟨h, trivial⟩
    | cons handler posted =>
      simp only [step, hposted]
      exact h.turn hposted
  | expired accepted =>
    by_cases hwait : client.alarm.waiting = true
    · rw [step, if_pos hwait]
      obtain ⟨hafter, hattempts⟩ := h.expired hwait accepted
      have hle := h.attempts
      have hone : client.attempts = 1 := by
        rw [AtlasMqttClient.attempts, if_pos hwait] at hle ⊢
        omega
      refine ⟨hafter, fun hnot => ?_, fun hthrown => ?_⟩
      · cases accepted with
        | false => exact absurd (hnot rfl) (by simp [hwait])
        | true => rw [hattempts, hone, if_pos rfl]
      · cases accepted with
        | false => exact hattempts
        | true => exact absurd (fun heq => by simp at heq) hthrown
    · rw [step, if_neg hwait]
      exact ⟨h, fun _ => rfl,
        fun hthrown => absurd (fun _ => Bool.eq_false_of_not_eq_true hwait) hthrown⟩

/-! ## Runs -/

/-- In every state at most one thing brings about the next attempt: while the gateway is connected
or connecting, no disconnection is waiting to be handled and the alarm does not run, and at most one
of these two waits otherwise. -/
theorem allStates_attempts_le_one (accepted : Bool) (es : List ConnectionEvent) :
    AllStates step (fun client => client.attempts ≤ 1) (initConnection accepted) es := by
  have htrue : AllSteps step (fun _ _ => True) (initConnection accepted) es :=
    allSteps_of_forall_mem (Q := fun _ => True) (fun _ _ => trivial) _
  exact allStates_of_invariant (fun _ e h _ => (step_spec h e).1) (fun _ h => h.attempts)
    (wellFormed_initConnection accepted) htrue

/-- A client that nothing makes connect stays so. -/
theorem allStates_not_trying (h : client.WellFormed) (hnot : ¬ client.Trying)
    (es : List ConnectionEvent) : AllStates step (fun client => ¬ client.Trying) client es := by
  have hstep : ∀ client e, client.WellFormed ∧ client.attempts = 0 → True →
      (step client e).1.WellFormed ∧ (step client e).1.attempts = 0 := by
    rintro client e ⟨hwf, hzero⟩ -
    obtain ⟨hwf', hkeeps, hthrown⟩ := step_spec hwf e
    refine ⟨hwf', ?_⟩
    by_cases hnot : client.NotThrown e
    · rw [hkeeps hnot, hzero]
    · exact hthrown hnot
  have hzero : client.attempts = 0 := by
    rw [trying_iff] at hnot
    omega
  refine allStates_of_invariant hstep (fun client h htrying => ?_) ⟨h, hzero⟩
    (allSteps_of_forall_mem (Q := fun _ => True) (fun _ _ => trivial) _)
  rw [trying_iff, h.2] at htrying
  exact absurd htrying (by decide)

/-- The gateway never makes two attempts at a time, and it is connected, or something will make it
connect, in every state of exactly those runs in which no call of `connect` throws. After a call
that throws nothing makes it connect again. -/
theorem keeps_trying_iff (accepted : Bool) (es : List ConnectionEvent) :
    AllStates step (fun client => client.attempts ≤ 1) (initConnection accepted) es ∧
    (AllStates step Trying (initConnection accepted) es ↔
      accepted = true ∧ AllSteps step NotThrown (initConnection accepted) es) ∧
    (¬ (run step (initConnection accepted) es).Trying → ∀ es',
      AllStates step (fun client => ¬ client.Trying) (run step (initConnection accepted) es)
        es') := by
  refine ⟨allStates_attempts_le_one accepted es, ?_, fun hnot es' => ?_⟩
  case refine_2 =>
    have hwf : (run step (initConnection accepted) es).WellFormed :=
      Reachable.invariant (I := WellFormed) (fun _ e h => (step_spec h e).1)
        (wellFormed_initConnection accepted) ⟨es, rfl⟩
    exact allStates_not_trying hwf hnot es'
  cases accepted with
  | false =>
    refine iff_of_false (fun h => ?_) (by simp)
    have hfirst := (trying_iff _).mp h.first
    rw [attempts_initConnection] at hfirst
    exact absurd hfirst (by decide)
  | true =>
    rw [eq_self_iff_true, true_and]
    refine allStates_iff_allSteps (J := fun client _ => client.WellFormed ∧ client.attempts = 1)
      (fun client _ h => (trying_iff client).mpr h.2.ge) ?_ ?_ ⟨wellFormed_initConnection true, rfl⟩
    · rintro client e es ⟨hwf, hone⟩ hnot
      exact ⟨(step_spec hwf e).1, ((step_spec hwf e).2.1 hnot).trans hone⟩
    · rintro client e es ⟨hwf, -⟩ hthrown htrying
      have hzero := (step_spec hwf e).2.2 hthrown
      rw [trying_iff, hzero] at htrying
      exact absurd htrying (by decide)

end AtlasMqttClient

end Atlas.Uplink
