import Atlas.Gateway.Steps

/-! # Retrying an ACK

An ACK that cannot be published is sent again by an alarm, for a limited number of times. The
handlers of commands and the alarm share one counter and one flag. When the retries are used up the
flag is cleared and the counter set to zero, but the counter is then incremented like after any
other failure. So the next ACK starts to count at one, and gets one retry less.

Reference: `claim_approve/AtlasApprove.cpp` (`responseCommandACK`, `statusACKCallback`),
`alarm/AtlasAlarm.cpp`.
-/

namespace Atlas.Gateway.State

open EventMachine

variable {env : Env} {g : State}

/-! ## Attempts and ticks -/

/-- An ACK is sent by the handler of a command or by the alarm. -/
inductive AckEvent where
  | attempt (env : Env)
  | tick (env : Env)

/-- One event. An alarm that is not started does not tick. -/
def ackStep (g : State) : AckEvent → State × List Effect
  | .attempt env => ((responseCommandACK env g).gateway, (responseCommandACK env g).effects)
  | .tick env =>
    if g.statusACKAlarm then ((statusACKCallback env g).gateway, (statusACKCallback env g).effects)
    else (g, [])

/-- The event is a publish that fails after the last retry. -/
def givesUp (g : State) (e : AckEvent) : Bool :=
  match e with
  | .attempt env => !env.publishAck && g.counterACK = atlasStatusCommandRetryNo
  | .tick env => g.statusACKAlarm && !env.publishAck && g.counterACK = atlasStatusCommandRetryNo

/-- The flag says whether the alarm is started. -/
def Synced (g : State) : Prop := g.statusACKAlarm = g.msgACKScheduled

/-- A failed publish before the last retry. -/
theorem responseCommandACK_of_fail (hsync : g.Synced) (hfail : env.publishAck = false)
    (hctr : g.counterACK ≠ atlasStatusCommandRetryNo) :
    (responseCommandACK env g).gateway =
      { g with
        msgACKScheduled := true, statusACKAlarm := true, counterACK := g.counterACK + 1 } := by
  rw [Synced] at hsync
  cases hflag : g.msgACKScheduled <;> simp [responseCommandACK, hfail, hctr, hflag, hsync]

/-- A failed publish after the last retry. -/
theorem responseCommandACK_of_fail_last (hfail : env.publishAck = false)
    (hctr : g.counterACK = atlasStatusCommandRetryNo) :
    (responseCommandACK env g).gateway =
      { g with msgACKScheduled := false, statusACKAlarm := false, counterACK := 1 } := by
  cases hflag : g.msgACKScheduled <;> simp [responseCommandACK, hfail, hctr, hflag]

theorem responseCommandACK_of_ok (hok : env.publishAck = true) :
    (responseCommandACK env g).gateway = g := by
  simp [responseCommandACK, hok]

theorem statusACKCallback_of_fail (hfail : env.publishAck = false) :
    (statusACKCallback env g).gateway = (responseCommandACK env g).gateway := by
  simp [statusACKCallback, hfail]

theorem statusACKCallback_of_ok (hok : env.publishAck = true) :
    (statusACKCallback env g).gateway =
      { g with msgACKScheduled := false, statusACKAlarm := false, counterACK := 0 } := by
  simp [statusACKCallback, hok, responseCommandACK_of_ok hok]

/-! ## One step -/

/-- The retry state before an ACK was ever given up. -/
structure Counting (g : State) : Prop where
  synced : g.Synced
  zero : g.msgACKScheduled = false → g.counterACK = 0

/-- What an event does to the retry state: nothing, an ACK is delivered and everything reset, or it
fails and is scheduled, or it fails and is given up. -/
theorem ackStep_cases (hsync : g.Synced) (e : AckEvent) :
    (givesUp g e = false ∧ ((ackStep g e).1 = g ∨
      (ackStep g e).1 =
        { g with msgACKScheduled := false, statusACKAlarm := false, counterACK := 0 } ∨
      (ackStep g e).1 =
        { g with
          msgACKScheduled := true, statusACKAlarm := true, counterACK := g.counterACK + 1 })) ∨
    (givesUp g e = true ∧ (ackStep g e).1 =
      { g with msgACKScheduled := false, statusACKAlarm := false, counterACK := 1 }) := by
  cases e with
  | attempt env =>
    cases hpub : env.publishAck with
    | true => exact .inl ⟨by simp [givesUp, hpub], .inl (responseCommandACK_of_ok hpub)⟩
    | false =>
      by_cases hctr : g.counterACK = atlasStatusCommandRetryNo
      · exact .inr ⟨by simp [givesUp, hpub, hctr], responseCommandACK_of_fail_last hpub hctr⟩
      · exact .inl ⟨by simp [givesUp, hctr],
          .inr (.inr (responseCommandACK_of_fail hsync hpub hctr))⟩
  | tick env =>
    cases halarm : g.statusACKAlarm with
    | false => exact .inl ⟨by simp [givesUp, halarm], .inl (by simp [ackStep, halarm])⟩
    | true =>
      have hstep : (ackStep g (.tick env)).1 = (statusACKCallback env g).gateway := by
        simp [ackStep, halarm]
      rw [hstep]
      cases hpub : env.publishAck with
      | true =>
        exact .inl ⟨by simp [givesUp, hpub], .inr (.inl (statusACKCallback_of_ok hpub))⟩
      | false =>
        rw [statusACKCallback_of_fail hpub]
        by_cases hctr : g.counterACK = atlasStatusCommandRetryNo
        · exact .inr ⟨by simp [givesUp, halarm, hpub, hctr],
            responseCommandACK_of_fail_last hpub hctr⟩
        · exact .inl ⟨by simp [givesUp, hctr],
            .inr (.inr (responseCommandACK_of_fail hsync hpub hctr))⟩

theorem Counting.ackStep (h : g.Counting) {e : AckEvent} (he : givesUp g e = false) :
    (ackStep g e).1.Counting := by
  rcases ackStep_cases h.synced e with ⟨-, hstep | hstep | hstep⟩ | ⟨hup, -⟩
  · rw [hstep]
    exact h
  · rw [hstep]
    exact ⟨rfl, fun _ => rfl⟩
  · rw [hstep]
    exact ⟨rfl, nofun⟩
  · simp [he] at hup

/-! ## Ticks after a failed attempt -/

/-- A cancelled alarm does not run. -/
theorem trace_ticks_of_cancelled (halarm : g.statusACKAlarm = false) (ticks : List Env) :
    trace ackStep g (ticks.map .tick) = [] := by
  induction ticks with
  | nil => rfl
  | cons t ticks ih => simp [ackStep, halarm, ih]

/-- With the alarm started, the failing ticks run it until the counter has passed three. -/
theorem length_trace_ticks {k : ℕ} (hsync : g.Synced) (halarm : g.statusACKAlarm = true)
    (hctr : g.counterACK.toNat + k = 4) (hk : 1 ≤ k) {ticks : List Env}
    (hfail : ∀ t ∈ ticks, t.publishAck = false) :
    (trace ackStep g (ticks.map .tick)).length = min ticks.length k := by
  induction ticks generalizing g k with
  | nil => simp
  | cons t ticks ih =>
    rw [List.forall_mem_cons] at hfail
    have heff : (ackStep g (.tick t)).2.length = 1 := by
      simp [ackStep, halarm, (statusACKCallback_spec t g).1]
    have hstep : (ackStep g (.tick t)).1 = (responseCommandACK t g).gateway := by
      simp [ackStep, halarm, statusACKCallback_of_fail hfail.1]
    rw [List.map_cons, trace_cons, List.length_append, heff, hstep, List.length_cons]
    by_cases hlast : g.counterACK = atlasStatusCommandRetryNo
    · -- the last run: the ticks after it find the alarm cancelled
      have hthree : g.counterACK.toNat = 3 := by
        rw [hlast]
        rfl
      rw [responseCommandACK_of_fail_last hfail.1 hlast, trace_ticks_of_cancelled rfl,
        List.length_nil]
      omega
    · have hne : g.counterACK.toNat ≠ 3 := fun h => hlast (UInt8.toNat_inj.mp h)
      have hsucc : (g.counterACK + 1).toNat = g.counterACK.toNat + 1 := by
        rw [UInt8.toNat_add, UInt8.toNat_one]
        omega
      have hrest := ih (k := k - 1)
        (g := { g with
          msgACKScheduled := true, statusACKAlarm := true, counterACK := g.counterACK + 1 })
        (by rw [Synced]) rfl (by dsimp only; omega) (by omega) hfail.2
      rw [responseCommandACK_of_fail hsync hfail.1 hlast, hrest]
      omega

/-- From here a failed attempt gets three retries. -/
def ThreeRetries (g : State) : Prop :=
  g.msgACKScheduled = false → ∀ env : Env, env.publishAck = false →
    ∀ ticks : List Env, (∀ t ∈ ticks, t.publishAck = false) →
      (trace ackStep (ackStep g (.attempt env)).1 (ticks.map .tick)).length = min ticks.length 3

theorem Counting.threeRetries (h : g.Counting) : g.ThreeRetries := by
  intro hflag env hpub ticks hfail
  have hzero := h.zero hflag
  have hfirst : (State.ackStep g (.attempt env)).1 =
      { g with msgACKScheduled := true, statusACKAlarm := true, counterACK := g.counterACK + 1 } :=
    responseCommandACK_of_fail h.synced hpub (by rw [hzero]; decide)
  rw [hfirst]
  exact length_trace_ticks (k := 3) (by rw [Synced]) rfl (by rw [hzero]; rfl) (by decide) hfail

/-! ## The events of the gateway

Only the handler of a command and the alarm touch the retry state, each with one ACK at most. -/

/-- The flag, the counter and the alarm. -/
def retryState (g : State) : Bool × UInt8 × Bool :=
  (g.msgACKScheduled, g.counterACK, g.statusACKAlarm)

/-- What an ACK does to the retry state depends on the retry state alone. -/
theorem retryState_responseCommandACK {g' : State} (h : g'.retryState = g.retryState) :
    (responseCommandACK env g').gateway.retryState =
      (ackStep g (.attempt env)).1.retryState := by
  simp only [retryState, Prod.mk.injEq] at h
  obtain ⟨hflag, hctr, halarm⟩ := h
  cases hpub : env.publishAck with
  | true => simp [ackStep, responseCommandACK, hpub, retryState, hflag, hctr, halarm]
  | false =>
    by_cases hlast : g.counterACK = atlasStatusCommandRetryNo <;>
      cases hset : g.msgACKScheduled <;>
      simp [ackStep, responseCommandACK, retryState, hpub, hlast, hset, hflag, hctr, halarm]

section Keeps

variable {identity : StdString}

@[simp] theorem retryState_setDevice (d : Device) :
    (g.setDevice identity d).retryState = g.retryState := rfl

@[simp] theorem retryState_getDevice :
    (getDevice env identity g).1.retryState = g.retryState := by
  rw [getDevice_eq]
  rfl

@[simp] theorem retryState_modifyDevice (f : Device → Device) :
    (g.modifyDevice identity f).retryState = g.retryState := by
  rcases modifyDevice_cases f identity g with h | ⟨d, -, h⟩ <;> rw [h]
  rfl

@[simp] theorem retryState_pushCommand :
    (pushCommand env identity g).gateway.retryState = g.retryState := by
  rcases pushCommand_cases env identity g with ⟨h, -⟩ | ⟨d, cmd, rest, -, -, -, -, h, -⟩
  · rw [h]
  · rw [h]
    rfl

@[simp] theorem retryState_responseCommandDONE :
    (responseCommandDONE env identity g).gateway.retryState = g.retryState := by
  rw [responseCommandDONE_gateway, retryState_getDevice]

theorem retryState_of_getDevice {g' : State} {device : Option Device}
    (h : getDevice env identity g = (g', device)) : g'.retryState = g.retryState := by
  have hkeep : (getDevice env identity g).1.retryState = g.retryState := retryState_getDevice
  rwa [h] at hkeep

theorem retryState_deviceCmdRespCallback (respStatus : CoapResponse) :
    (deviceCmdRespCallback env identity respStatus g).gateway.retryState = g.retryState := by
  by_cases hempty : ∀ d, g.devices identity = some d → d.recvCmds = []
  · rw [(deviceCmdRespCallback_of_empty env respStatus hempty).1]
  · push Not at hempty
    obtain ⟨d, hd, hne⟩ := hempty
    obtain ⟨cmd, rest, hrecv⟩ := List.exists_cons_of_ne_nil hne
    rcases deviceCmdRespCallback_cases env respStatus hd hrecv with
      ⟨-, -, h, -⟩ | ⟨-, -, h, -⟩ | ⟨-, timeouts, ⟨h, -⟩ | ⟨h, -⟩⟩ <;> rw [h]
    · exact retryState_pushCommand
    · exact retryState_pushCommand
    · rfl
    · exact retryState_pushCommand

theorem retryState_alarmCallback (order : List StdString) :
    (alarmCallback env order g).gateway.retryState = g.retryState := by
  induction order generalizing g with
  | nil => rfl
  | cons identity order ih =>
    have hdevice : (alarmDevice env identity g).gateway.retryState = g.retryState := by
      simp only [alarmDevice]
      split
      · exact retryState_pushCommand
      split
      · exact retryState_pushCommand
      · exact retryState_responseCommandDONE.trans retryState_pushCommand
    simp only [alarmCallback]
    split
    · exact hdevice
    · exact ih.trans hdevice

theorem retryState_handleCommandDoneAck (p : DoneAckPayload) :
    (handleCommandDoneAck env p g).gateway.retryState = g.retryState := by
  simp only [handleCommandDoneAck]
  split
  · rfl
  split
  · rename_i hget
    exact retryState_of_getDevice hget
  rename_i hget
  have hkeep := retryState_of_getDevice hget
  split
  · exact hkeep
  split
  · exact hkeep
  split
  · exact hkeep
  split
  · exact hkeep
  · exact retryState_responseCommandDONE.trans hkeep

theorem retryState_keepaliveAlarmCallback (order : List StdString) :
    (keepaliveAlarmCallback order g).retryState = g.retryState := by
  induction order generalizing g with
  | nil => rfl
  | cons identity order ih => exact ih.trans (retryState_modifyDevice _)

/-- The handler of a command sends one ACK at most. -/
theorem retryState_handleClientCommand (crypto : Crypto) (p : CommandPayload) :
    (handleClientCommand crypto env p g).gateway.retryState = g.retryState ∨
      (handleClientCommand crypto env p g).gateway.retryState =
        (ackStep g (.attempt env)).1.retryState := by
  simp only [handleClientCommand]
  split
  · exact .inl rfl
  · exact .inl rfl
  split
  · exact .inl rfl
  split
  · simp only [handleOldCommand]
    split
    · split
      · exact .inl retryState_responseCommandDONE
      · exact .inr (retryState_responseCommandACK rfl)
    · exact .inl rfl
  · simp only [acceptCommand]
    split
    · rename_i hget
      exact .inl (retryState_of_getDevice hget)
    rename_i hget
    have hkeep := retryState_of_getDevice hget
    split
    · exact .inl hkeep
    split
    · exact .inl hkeep
    · refine .inr ?_
      split
      · exact retryState_pushCommand.trans (retryState_responseCommandACK hkeep)
      · exact retryState_responseCommandACK hkeep

end Keeps

/-- Every event of the gateway but a restart acts on the retry state as one attempt, as one run of
the alarm, or not at all. -/
theorem retryState_step (crypto : Crypto) (e : Event) (he : e ≠ .restart) :
    (step crypto g (e, env)).1.retryState = g.retryState ∨
    (step crypto g (e, env)).1.retryState = (ackStep g (.attempt env)).1.retryState ∨
    (e = .statusACKAlarm ∧
      (step crypto g (e, env)).1.retryState = (statusACKCallback env g).gateway.retryState) := by
  cases e with
  | clientCommand p =>
    exact (retryState_handleClientCommand crypto p).imp_right .inl
  | commandDoneAck p => exact .inl (retryState_handleCommandDoneAck p)
  | coapReply i respStatus =>
    simp only [step]
    split
    · exact .inl rfl
    · exact .inl (retryState_deviceCmdRespCallback respStatus)
  | pushAlarm order => exact .inl (retryState_alarmCallback order)
  | statusACKAlarm => exact .inr (.inr ⟨rfl, rfl⟩)
  | register identity ipPort => exact .inl (by simp [step])
  | keepAlive identity ipPort => exact .inl (by simp [step])
  | keepAliveAlarm order => exact .inl (retryState_keepaliveAlarmCallback order)
  | deviceRequest identity => exact .inl (by simp [step])
  | restart => exact absurd rfl he

theorem Counting.congr {g' : State} (h : g.Counting) (heq : g'.retryState = g.retryState) :
    g'.Counting := by
  simp only [retryState, Prod.mk.injEq] at heq
  obtain ⟨hflag, hctr, halarm⟩ := heq
  exact ⟨by rw [Synced, halarm, hflag, ← h.synced], fun h' => by rw [hctr, h.zero (hflag ▸ h')]⟩

/-- The publish that this event may make does not fail after the last retry, and the alarm ticks
only when it is started. -/
def KeepsCount (g : State) (e : Event × Env) : Prop :=
  givesUp g (.attempt e.2) = false ∧ (e.1 = .statusACKAlarm → g.statusACKAlarm = true)

theorem Counting.step (crypto : Crypto) (h : g.Counting) {e : Event × Env} (he : KeepsCount g e) :
    (step crypto g e).1.Counting := by
  obtain ⟨e, env⟩ := e
  obtain ⟨hup, halarm⟩ := he
  by_cases hrestart : e = .restart
  · -- the counter and the flag are in memory only
    subst hrestart
    exact ⟨rfl, fun _ => rfl⟩
  rcases retryState_step crypto e hrestart with hsame | hattempt | ⟨rfl, htick⟩
  · exact h.congr hsame
  · exact (h.ackStep hup).congr hattempt
  · have hstarted := halarm rfl
    have hnot : givesUp g (.tick env) = false := by
      simpa [givesUp, hstarted] using hup
    refine (h.ackStep hnot).congr (htick.trans ?_)
    simp only [State.ackStep, if_pos hstarted]

/-! ## Runs -/

/-- In every run of the gateway in which no ACK is given up, the counter is zero whenever no retry
is scheduled, and a failed attempt then gets three retries. -/
theorem ackRetries_of_run (crypto : Crypto) (env : Env) (g : State) (es : List (Event × Env))
    (h : AllSteps (step crypto) KeepsCount (restart env g) es) :
    AllStates (step crypto)
      (fun g => (g.msgACKScheduled = false → g.counterACK = 0) ∧ g.ThreeRetries)
      (restart env g) es :=
  allStates_of_invariant (I := Counting) (fun _ _ hcount he => hcount.step crypto he)
    (fun _ hcount => ⟨hcount.zero, hcount.threeRetries⟩) ⟨rfl, fun _ => rfl⟩ h

/-- In a process from its start on, whatever attempts and ticks come, the counter is zero whenever
no retry is scheduled, and a failed attempt then gets three retries, in exactly the runs in which no
ACK is given up. -/
theorem ackRetries_iff (env : Env) (g : State) (es : List AckEvent) :
    AllStates ackStep
        (fun g => (g.msgACKScheduled = false → g.counterACK = 0) ∧ g.ThreeRetries)
        (restart env g) es ↔
      AllSteps ackStep (fun g e => givesUp g e = false) (restart env g) es := by
  refine allStates_iff_allSteps (J := fun g _ => g.Counting) ?_ ?_ ?_ ⟨rfl, fun _ => rfl⟩
  · exact fun g _ h => ⟨h.zero, h.threeRetries⟩
  · exact fun g e _ h he => h.ackStep he
  · intro g e _ h hup hgood
    rcases ackStep_cases h.synced e with ⟨hdown, -⟩ | ⟨-, hstep⟩
    · exact hup hdown
    · -- the flag is cleared and the counter at one
      rw [hstep] at hgood
      exact absurd (hgood.1 rfl) (by simp)

/-- The outcomes under which nothing is published. -/
def unpublished : Env := { Env.ok with publishAck := false }

/-- The first ACK that cannot be published gets three retries, the next one two. -/
theorem second_ack_gets_two_retries :
    let g := run ackStep (fresh [] false [] sampleDevices)
      (.attempt unpublished :: (List.replicate 3 unpublished).map .tick)
    g.msgACKScheduled = false ∧ g.counterACK = 1 ∧
    (trace ackStep (ackStep g (.attempt unpublished)).1
      ((List.replicate 3 unpublished).map .tick)).length = 2 := by
  decide

end Atlas.Gateway.State
