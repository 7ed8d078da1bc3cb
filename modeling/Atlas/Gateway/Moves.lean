import Atlas.Gateway.Steps

/-! # Steps as paths of moves

Every handler is a path of a few kinds of moves: a device is loaded, a command is pushed or
confirmed, a reply goes to the cloud. What depends on the event stands at the front of a step: an
old command that sets the sequence number back, a new command that is stored and queued, the
callback of a request, a restart. `step_transition` says that a step is one of these; every
invariant of the gateway is proved over them.
-/

namespace Atlas.Gateway.State

open EventMachine (Path)

/-- The state after a row was stored and its command queued at `identity`. -/
def accepted (identity : StdString) (d : Device) (row : DeviceCommandRow) (cmd : CommandDevice)
    (g : State) : State :=
  { g with
    db := { g.db with
      deviceCommand := g.db.deviceCommand ++ [row]
      maxSequenceNumber := cmd.sequenceNumber }
    sequenceNumber := cmd.sequenceNumber }.setDevice identity (d.addRecvDeviceCommand cmd)

/-- The state after the cloud confirmed the oldest executed command of `identity`. -/
def confirmed (identity : StdString) (d : Device) (cmd : CommandDevice) (g : State) : State :=
  { g with db := (g.db.deleteDeviceCommand true cmd.sequenceNumber).2 }.setDevice identity
    d.removeExecutedCommand

/-- The moves a handler is made of. -/
inductive Move (env : Env) : State → List Effect → State → Prop where
  /-- An ACK goes out and the retry state changes. -/
  | ack (g : State) (scheduled : Bool) (counter : UInt8) (alarm : Bool) :
      Move env g [.publishAck g.sequenceNumber env.publishAck]
        { g with msgACKScheduled := scheduled, counterACK := counter, statusACKAlarm := alarm }
  /-- A device is created from the database. -/
  | load {g : State} {identity : StdString} (hd : g.devices identity = none)
      (hpsk : g.db.selectDevicePsk env.selectDevicePsk identity ≠ []) :
      Move env g [] (g.setDevice identity (loaded env identity g))
  /-- A DONE goes out. -/
  | done {g : State} {identity : StdString} {d : Device} (n : UInt32)
      (hd : g.devices identity = some d) :
      Move env g [.readExecuted identity d.execCmds,
        .publishDone identity n (env.publishDone identity)] g
  /-- A device changes, but not its queues. -/
  | touch {g : State} {identity : StdString} {d d' : Device} (hd : g.devices identity = some d)
      (hidentity : d'.identity = d.identity) (hrecv : d'.recvCmds = d.recvCmds)
      (hexec : d'.execCmds = d.execCmds) : Move env g [] (g.setDevice identity d')
  /-- The front command goes to its client. -/
  | push {g : State} {identity : StdString} {d : Device} {cmd : CommandDevice}
      {rest : List CommandDevice} (hd : g.devices identity = some d)
      (hrecv : d.recvCmds = cmd :: rest) (hprog : cmd.inProgress = false)
      (hreg : d.registered = true) :
      Move env g [.send (d.request cmd)]
        ({ g with requests := g.requests ++ [d.request cmd] }.setDevice identity
          { d with recvCmds := { cmd with inProgress := true } :: rest })
  /-- The oldest executed command is confirmed. -/
  | confirm {g : State} {identity : StdString} {d : Device} {cmd : CommandDevice}
      {rest : List CommandDevice} (hd : g.devices identity = some d)
      (hexec : d.execCmds = cmd :: rest) : Move env g [] (g.confirmed identity d cmd)

/-- What one event can do. -/
inductive Transition (crypto : Crypto) (env : Env) (g : State) :
    Event → List Effect → State → Prop where
  | moves {e : Event} {ws : List Effect} {g' : State} (p : Path (Move env) g ws g') :
      Transition crypto env g e ws g'
  /-- An old command whose row is stored sets the sequence number first. -/
  | old {p : CommandPayload} {clientIdentity type : StdString} {n : UInt32} {ws : List Effect}
      {g' : State} (hcheck : checkCommand crypto g p = .ok (some (clientIdentity, type)))
      (hseq : p.seqNo.asUInt = some n) (hle : n ≤ g.sequenceNumber)
      (hrow : g.db.checkDeviceCommandBySeqNo env.checkDeviceCommandBySeqNo n = true)
      (q : Path (Move env) { g with sequenceNumber := n } ws g') :
      Transition crypto env g (.clientCommand p) ws g'
  /-- A row is stored for a command with a new number, but the maximal number is not. -/
  | insert {p : CommandPayload} {clientIdentity type payload : StdString} {n : UInt32} {g₁ : State}
      {d : Device} {row : DeviceCommandRow}
      (hcheck : checkCommand crypto g p = .ok (some (clientIdentity, type)))
      (hseq : p.seqNo.asUInt = some n) (hlt : g.sequenceNumber < n)
      (hget : getDevice env clientIdentity g = (g₁, some d))
      (hpayload : p.payload.asString = some payload)
      (hrow : g.db.insertedRow env.insertDeviceCommand n type payload clientIdentity = some row)
      (hmax : env.insertDeviceCommand.updateMaxSeqNo = false) :
      Transition crypto env g (.clientCommand p) [.insertRow row]
        { g₁ with db := { g₁.db with deviceCommand := g₁.db.deviceCommand ++ [row] } }
  /-- A command with a new number is stored and queued. -/
  | accept {p : CommandPayload} {clientIdentity type payload : StdString} {n : UInt32} {g₁ : State}
      {d : Device} {row : DeviceCommandRow} {ws : List Effect} {g' : State}
      (hcheck : checkCommand crypto g p = .ok (some (clientIdentity, type)))
      (hseq : p.seqNo.asUInt = some n) (hlt : g.sequenceNumber < n)
      (hget : getDevice env clientIdentity g = (g₁, some d))
      (hpayload : p.payload.asString = some payload)
      (hrow : g.db.insertedRow env.insertDeviceCommand n type payload clientIdentity = some row)
      (hmax : env.insertDeviceCommand.updateMaxSeqNo = true)
      (q : Path (Move env) (g₁.accepted clientIdentity d row
        (CommandDevice.new clientIdentity n type payload)) ws g') :
      Transition crypto env g (.clientCommand p)
        ([.insertRow row, .appendRecv (CommandDevice.new clientIdentity n type payload)] ++ ws) g'
  /-- The callback of a request whose device has no received command. -/
  | stray {i : ℕ} {respStatus : CoapResponse} {request : CoapRequest}
      (hi : g.requests[i]? = some request)
      (hempty : ∀ d, g.devices request.identity = some d → d.recvCmds = []) :
      Transition crypto env g (.coapReply i respStatus) []
        { g with requests := g.requests.eraseIdx i }
  /-- The client executed the front command. -/
  | executed {i : ℕ} {request : CoapRequest} {d : Device} {cmd : CommandDevice}
      {rest : List CommandDevice} {n : UInt32} {ws : List Effect} {g' : State}
      (hi : g.requests[i]? = some request) (hd : g.devices request.identity = some d)
      (hrecv : d.recvCmds = cmd :: rest) (hmark : env.markExecutedDeviceCommand = true)
      (q : Path (Move env)
        ({ g with requests := g.requests.eraseIdx i }.executed request.identity
          { d with deviceCmdTimeouts := 0 } cmd rest) ws g') :
      Transition crypto env g (.coapReply i .ok)
        ([.readExecuted request.identity (d.execCmds ++ [cmd]),
          .publishDone request.identity n (env.publishDone request.identity)] ++ ws) g'
  /-- The client executed the front command, but the database did not record it. -/
  | kept {i : ℕ} {request : CoapRequest} {d : Device} {cmd : CommandDevice}
      {rest : List CommandDevice} {ws : List Effect} {g' : State}
      (hi : g.requests[i]? = some request) (hd : g.devices request.identity = some d)
      (hrecv : d.recvCmds = cmd :: rest) (hmark : env.markExecutedDeviceCommand = false)
      (q : Path (Move env)
        ({ g with requests := g.requests.eraseIdx i }.setDevice request.identity
          { d with deviceCmdTimeouts := 0 }) ws g') :
      Transition crypto env g (.coapReply i .ok) ws g'
  /-- The client did not execute the front command. -/
  | returned {i : ℕ} {respStatus : CoapResponse} {request : CoapRequest} {d : Device}
      {cmd : CommandDevice} {rest : List CommandDevice} {timeouts : UInt8} {ws : List Effect}
      {g' : State} (hst : respStatus ≠ .ok) (hi : g.requests[i]? = some request)
      (hd : g.devices request.identity = some d) (hrecv : d.recvCmds = cmd :: rest)
      (q : Path (Move env)
        ({ g with requests := g.requests.eraseIdx i }.returned request.identity d cmd rest timeouts)
        ws g') :
      Transition crypto env g (.coapReply i respStatus) ws g'
  | restart : Transition crypto env g .restart [] (restart env g)

/-! ## The handlers as paths -/

section Paths

variable {g : State} {env : Env} {identity : StdString}

theorem getDevice_path (env : Env) (identity : StdString) (g : State) :
    Path (Move env) g [] (getDevice env identity g).1 := by
  rcases getDevice_cases env identity g with ⟨d, -, h⟩ | ⟨-, -, h⟩ | ⟨hd, hpsk, h⟩ <;> rw [h]
  · exact .refl g
  · exact .refl g
  · exact .single (.load hd hpsk)

/-- A look-up followed by a path from the state it leaves. -/
theorem path_of_getDevice {g' : State} {device : Option Device} {ws : List Effect} {g'' : State}
    (h : getDevice env identity g = (g', device)) (p : Path (Move env) g' ws g'') :
    Path (Move env) g ws g'' := by
  have hpath := getDevice_path env identity g
  rw [h] at hpath
  exact hpath.trans p

theorem responseCommandACK_path (env : Env) (g : State) :
    Path (Move env) g (responseCommandACK env g).effects (responseCommandACK env g).gateway := by
  obtain ⟨m, c, a, h⟩ := responseCommandACK_gateway env g
  rw [h, responseCommandACK_effects]
  exact .single (.ack g m c a)

theorem statusACKCallback_path (env : Env) (g : State) :
    Path (Move env) g (statusACKCallback env g).effects (statusACKCallback env g).gateway := by
  obtain ⟨heff, m, c, a, h⟩ := statusACKCallback_spec env g
  rw [h, heff]
  exact .single (.ack g m c a)

theorem responseCommandDONE_path (env : Env) (identity : StdString) (g : State) :
    Path (Move env) g (responseCommandDONE env identity g).effects
      (responseCommandDONE env identity g).gateway := by
  cases h : getDevice env identity g with
  | mk g' device =>
    rw [responseCommandDONE_gateway, h]
    refine path_of_getDevice h ?_
    cases device with
    | none =>
      rw [responseCommandDONE_of_none (by rw [h])]
      exact .refl g'
    | some d =>
      obtain ⟨n, hn⟩ := responseCommandDONE_of_some (congrArg Prod.snd h)
      rw [hn]
      exact .single (.done n (getDevice_devices h))

theorem pushCommand_path (env : Env) (identity : StdString) (g : State) :
    Path (Move env) g (pushCommand env identity g).effects
      (pushCommand env identity g).gateway := by
  rcases pushCommand_cases env identity g with
    ⟨hg, he⟩ | ⟨d, cmd, rest, hd, hrecv, hprog, hreg, hg, he⟩ <;> rw [hg, he]
  · exact .refl g
  · exact .single (.push hd hrecv hprog hreg)

theorem modifyDevice_path {f : Device → Device} (hf : ∀ d, (f d).identity = d.identity ∧
    (f d).recvCmds = d.recvCmds ∧ (f d).execCmds = d.execCmds) :
    Path (Move env) g [] (g.modifyDevice identity f) := by
  rcases modifyDevice_cases f identity g with h | ⟨d, hd, h⟩ <;> rw [h]
  · exact .refl g
  · exact .single (.touch hd (hf d).1 (hf d).2.1 (hf d).2.2)

theorem handleCommandDoneAck_path (env : Env) (p : DoneAckPayload) (g : State) :
    Path (Move env) g (handleCommandDoneAck env p g).effects
      (handleCommandDoneAck env p g).gateway := by
  simp only [handleCommandDoneAck]
  split
  · exact .refl g
  rename_i clientIdentity _
  split
  · rename_i g' h
    exact path_of_getDevice h (.refl g')
  rename_i g' d h
  refine path_of_getDevice h ?_
  have hd : g'.devices clientIdentity = some d := getDevice_devices h
  split
  · exact .refl g'
  rename_i cmd hcmd
  obtain ⟨rest, hexec⟩ := List.head?_eq_some_iff.mp hcmd
  split
  · exact .refl g'
  split
  · exact .refl g'
  cases hdel : env.deleteDeviceCommand with
  | false => exact .refl g'
  | true =>
    have hconf : Path (Move env) g' [] (g'.confirmed clientIdentity d cmd) :=
      .single (.confirm hd hexec)
    exact hconf.trans (responseCommandDONE_path env d.identity _)

theorem alarmDevice_path (env : Env) (identity : StdString) (g : State) :
    Path (Move env) g (alarmDevice env identity g).effects
      (alarmDevice env identity g).gateway := by
  have hpush := pushCommand_path env identity g
  simp only [alarmDevice]
  split
  · exact hpush
  split
  · exact hpush
  · exact hpush.trans (responseCommandDONE_path env _ _)

theorem alarmCallback_path (env : Env) (order : List StdString) (g : State) :
    Path (Move env) g (alarmCallback env order g).effects (alarmCallback env order g).gateway := by
  induction order generalizing g with
  | nil => exact .refl g
  | cons identity order ih =>
    simp only [alarmCallback]
    split
    · exact alarmDevice_path env identity g
    · exact (alarmDevice_path env identity g).trans (ih _)

theorem keepaliveAlarmCallback_path (env : Env) (order : List StdString) (g : State) :
    Path (Move env) g [] (keepaliveAlarmCallback order g) := by
  induction order generalizing g with
  | nil => exact .refl g
  | cons identity order ih =>
    refine (modifyDevice_path fun d => ?_).trans (ih _)
    split
    · simp only [Device.keepAliveExpired]
      split
      · simp
      · split <;> simp
    · simp

end Paths

/-! ## One event -/

variable (crypto : Crypto) (env : Env) (g : State)

theorem handleOldCommand_transition {p : CommandPayload} {clientIdentity type : StdString}
    {n : UInt32} (hcheck : checkCommand crypto g p = .ok (some (clientIdentity, type)))
    (hseq : p.seqNo.asUInt = some n) (hle : n ≤ g.sequenceNumber) :
    Transition crypto env g (.clientCommand p) (handleOldCommand env n clientIdentity g).effects
      (handleOldCommand env n clientIdentity g).gateway := by
  simp only [handleOldCommand]
  split
  · rename_i hrow
    split
    · exact .old hcheck hseq hle hrow (responseCommandDONE_path env _ _)
    · exact .old hcheck hseq hle hrow (responseCommandACK_path env _)
  · exact .moves (.refl g)

/-- A command that was stored is queued, acknowledged and pushed. -/
theorem acceptCommand_path {g₁ : State} {d : Device} {n : UInt32}
    {clientIdentity type payload : StdString} {json : JsonValue} {row : DeviceCommandRow}
    (hget : getDevice env clientIdentity g = (g₁, some d)) (hpayload : json.asString = some payload)
    (hrow : g₁.db.insertedRow env.insertDeviceCommand n type payload clientIdentity = some row)
    (hmax : env.insertDeviceCommand.updateMaxSeqNo = true) :
    ∃ ws, (acceptCommand env n clientIdentity type json g).effects =
        [.insertRow row, .appendRecv (CommandDevice.new clientIdentity n type payload)] ++ ws ∧
      Path (Move env)
        (g₁.accepted clientIdentity d row (CommandDevice.new clientIdentity n type payload)) ws
        (acceptCommand env n clientIdentity type json g).gateway := by
  simp only [acceptCommand, hget, hpayload, Database.insertDeviceCommand,
    Database.updateMaxSequenceNumber, hrow, hmax, if_true, Option.toList_some, List.map_cons,
    List.map_nil]
  split
  · refine ⟨_, List.append_assoc _ _ _, ?_⟩
    exact (responseCommandACK_path env _).trans (pushCommand_path env clientIdentity _)
  · exact ⟨_, rfl, responseCommandACK_path env _⟩

/-- A command with a new number: looked up, possibly stored and queued, acknowledged, pushed. -/
theorem acceptCommand_transition {p : CommandPayload} {clientIdentity type : StdString}
    {n : UInt32} (hcheck : checkCommand crypto g p = .ok (some (clientIdentity, type)))
    (hseq : p.seqNo.asUInt = some n) (hlt : g.sequenceNumber < n) :
    Transition crypto env g (.clientCommand p)
      (acceptCommand env n clientIdentity type p.payload g).effects
      (acceptCommand env n clientIdentity type p.payload g).gateway := by
  cases hget : getDevice env clientIdentity g with
  | mk g₁ device =>
  have hload := path_of_getDevice hget (.refl g₁)
  cases device with
  | none =>
    simp only [acceptCommand, hget]
    exact .moves hload
  | some d =>
  cases hpayload : p.payload.asString with
  | none =>
    simp only [acceptCommand, hget, hpayload]
    exact .moves hload
  | some payload =>
  cases hrow₁ : g₁.db.insertedRow env.insertDeviceCommand n type payload clientIdentity with
  | none =>
    simp only [acceptCommand, hget, hpayload, Database.insertDeviceCommand, hrow₁,
      Option.toList_none, List.map_nil]
    exact .moves hload
  | some row =>
  have hrow := hrow₁
  rw [getDevice_db_eq hget] at hrow
  cases hmax : env.insertDeviceCommand.updateMaxSeqNo with
  | false =>
    simpa [acceptCommand, hget, hpayload, Database.insertDeviceCommand,
      Database.updateMaxSequenceNumber, hrow₁, hmax]
      using Transition.insert hcheck hseq hlt hget hpayload hrow hmax
  | true =>
    obtain ⟨ws, heff, hpath⟩ := acceptCommand_path env g hget hpayload hrow₁ hmax
    rw [heff]
    exact .accept hcheck hseq hlt hget hpayload hrow hmax hpath

theorem handleClientCommand_transition (p : CommandPayload) :
    Transition crypto env g (.clientCommand p) (handleClientCommand crypto env p g).effects
      (handleClientCommand crypto env p g).gateway := by
  simp only [handleClientCommand]
  split
  · exact .moves (.refl g)
  · exact .moves (.refl g)
  rename_i hcheck
  split
  · exact .moves (.refl g)
  rename_i hseq
  split
  · exact handleOldCommand_transition crypto env g hcheck hseq ‹_›
  · refine acceptCommand_transition crypto env g hcheck hseq ?_
    rename_i hlt
    simpa [UInt32.lt_iff_toNat_lt, UInt32.le_iff_toNat_le] using hlt

theorem coapReply_transition {i : ℕ} {request : CoapRequest} (hi : g.requests[i]? = some request)
    (respStatus : CoapResponse) :
    let r := deviceCmdRespCallback env request.identity respStatus
      { g with requests := g.requests.eraseIdx i }
    Transition crypto env g (.coapReply i respStatus) r.effects r.gateway := by
  intro r
  by_cases hempty : ∀ d, g.devices request.identity = some d → d.recvCmds = []
  · obtain ⟨hg, he⟩ := deviceCmdRespCallback_of_empty env respStatus
      (g := { g with requests := g.requests.eraseIdx i }) hempty
    simp only [r, hg, he]
    exact .stray hi hempty
  push Not at hempty
  obtain ⟨d, hd, hne⟩ := hempty
  obtain ⟨cmd, rest, hrecv⟩ := List.exists_cons_of_ne_nil hne
  rcases deviceCmdRespCallback_cases (g := { g with requests := g.requests.eraseIdx i }) env
    respStatus hd hrecv with ⟨rfl, hmark, hg, n, he⟩ | ⟨rfl, hmark, hg, he⟩ | ⟨hst, timeouts, h⟩
  · simp only [r, hg, he]
    exact .executed hi hd hrecv hmark (pushCommand_path env _ _)
  · simp only [r, hg, he]
    exact .kept hi hd hrecv hmark (pushCommand_path env _ _)
  · rcases h with ⟨hg, he⟩ | ⟨hg, he⟩ <;> simp only [r, hg, he]
    · exact .returned hst hi hd hrecv (.refl _)
    · exact .returned hst hi hd hrecv (pushCommand_path env _ _)

/-- Every step is one of the transitions. -/
theorem step_transition (e : Event) :
    Transition crypto env g e (step crypto g (e, env)).2 (step crypto g (e, env)).1 := by
  cases e with
  | clientCommand p => exact handleClientCommand_transition crypto env g p
  | commandDoneAck p => exact .moves (handleCommandDoneAck_path env p g)
  | coapReply i respStatus =>
    simp only [step]
    split
    · exact .moves (.refl g)
    · exact coapReply_transition crypto env g ‹_› respStatus
  | pushAlarm order => exact .moves (alarmCallback_path env order g)
  | statusACKAlarm => exact .moves (statusACKCallback_path env g)
  | register identity ipPort =>
    refine .moves (path_of_getDevice rfl (modifyDevice_path fun d => ?_))
    simp [Device.registerNow, Device.setIpPort]
  | keepAlive identity ipPort =>
    refine .moves (path_of_getDevice rfl (modifyDevice_path fun d => ?_))
    split <;> simp [Device.keepAliveNow, Device.setIpPort]
  | keepAliveAlarm order => exact .moves (keepaliveAlarmCallback_path env order g)
  | deviceRequest identity => exact .moves (getDevice_path env identity g)
  | restart => exact .restart

end Atlas.Gateway.State
