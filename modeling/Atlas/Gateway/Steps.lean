import Atlas.Gateway.Approve
import Mathlib.Logic.Function.Basic

/-! # What each handler can do

One lemma per handler says which states it can leave and what it emits, so that no later proof
unfolds a handler. The fields a handler leaves alone are simp lemmas.
-/

namespace Atlas.Gateway.State

variable {g : State} {env : Env} {identity : StdString} {d : Device}

/-! ## Devices of the manager -/

@[simp] theorem setDevice_devices_self : (g.setDevice identity d).devices identity = some d := by
  simp [setDevice]

theorem setDevice_devices_of_ne {j : StdString} (h : j ≠ identity) :
    (g.setDevice identity d).devices j = g.devices j := by
  simp [setDevice, Function.update_of_ne h]

@[simp] theorem setDevice_db : (g.setDevice identity d).db = g.db := rfl

@[simp] theorem setDevice_setDevice {d' : Device} :
    (g.setDevice identity d).setDevice identity d' = g.setDevice identity d' := by
  simp [setDevice, Function.update_idem]

/-- What holds of every device and of the one stored holds of every device afterwards. -/
theorem forall_setDevice {P : StdString → Device → Prop} {g₀ : State}
    (hg : ∀ j d', g.devices j = some d' → P j d') (hdev : g₀.devices = g.devices)
    (hd : P identity d) : ∀ j d', (g₀.setDevice identity d).devices j = some d' → P j d' := by
  intro j d' h
  by_cases hj : j = identity
  · subst hj
    rw [setDevice_devices_self, Option.some.injEq] at h
    exact h ▸ hd
  · rw [setDevice_devices_of_ne hj, hdev] at h
    exact hg j d' h

/-- Writing back the device that is there changes nothing. -/
theorem setDevice_eq_self (h : g.devices identity = some d) : g.setDevice identity d = g := by
  simp [setDevice, ← h, Function.update_eq_self]

theorem modifyDevice_of_some {f : Device → Device} (h : g.devices identity = some d) :
    g.modifyDevice identity f = g.setDevice identity (f d) := by
  simp [modifyDevice, h]

/-- `modifyDevice` leaves the gateway alone or rewrites one device. -/
theorem modifyDevice_cases (f : Device → Device) (identity : StdString) (g : State) :
    g.modifyDevice identity f = g ∨
      ∃ d, g.devices identity = some d ∧
        g.modifyDevice identity f = g.setDevice identity (f d) := by
  cases h : g.devices identity with
  | none => exact .inl (by simp [modifyDevice, h])
  | some d => exact .inr ⟨d, rfl, modifyDevice_of_some h⟩

/-! ## `getDevice` -/

theorem getDevice_of_some (h : g.devices identity = some d) :
    getDevice env identity g = (g, some d) := by
  simp [getDevice, h]

/-- The device `getDevice` creates for an identity that is not in memory. -/
def loaded (env : Env) (identity : StdString) (g : State) : Device :=
  initDeviceCommands env g.db
    (Device.new identity (g.db.selectDevicePsk env.selectDevicePsk identity))

/-- `getDevice` finds the device in memory, finds none, or creates it from the database. -/
theorem getDevice_cases (env : Env) (identity : StdString) (g : State) :
    (∃ d, g.devices identity = some d ∧ getDevice env identity g = (g, some d)) ∨
    (g.devices identity = none ∧ g.db.selectDevicePsk env.selectDevicePsk identity = [] ∧
      getDevice env identity g = (g, none)) ∨
    (g.devices identity = none ∧ g.db.selectDevicePsk env.selectDevicePsk identity ≠ [] ∧
      getDevice env identity g =
        (g.setDevice identity (loaded env identity g), some (loaded env identity g))) := by
  cases h : g.devices identity with
  | some d => exact .inl ⟨d, rfl, getDevice_of_some h⟩
  | none =>
    by_cases hpsk : g.db.selectDevicePsk env.selectDevicePsk identity = []
    · exact .inr (.inl ⟨rfl, hpsk, by simp [getDevice, h, hpsk]⟩)
    · exact .inr (.inr ⟨rfl, hpsk, by simp [getDevice, h, hpsk, loaded]⟩)

/-- A client in memory, or one whose PSK the database returns. -/
def knows (selectDevicePsk : Bool) (identity : StdString) (g : State) : Bool :=
  (g.devices identity).isSome || g.db.selectDevicePsk selectDevicePsk identity ≠ []

theorem getDevice_isSome (env : Env) (identity : StdString) (g : State) :
    (getDevice env identity g).2.isSome = g.knows env.selectDevicePsk identity := by
  rcases getDevice_cases env identity g with ⟨d, hd, h⟩ | ⟨hd, hpsk, h⟩ | ⟨hd, hpsk, h⟩ <;>
    simp [knows, *]

/-- `getDevice` changes no field but the device map. -/
theorem getDevice_eq (env : Env) (identity : StdString) (g : State) :
    (getDevice env identity g).1 = { g with devices := (getDevice env identity g).1.devices } := by
  rcases getDevice_cases env identity g with ⟨d, -, h⟩ | ⟨-, -, h⟩ | ⟨-, -, h⟩
  · rw [h]
  · rw [h]
  · rw [h]
    rfl

@[simp] theorem getDevice_db : (getDevice env identity g).1.db = g.db := by rw [getDevice_eq]

theorem getDevice_db_eq {g' : State} {device : Option Device}
    (h : getDevice env identity g = (g', device)) : g'.db = g.db := by
  have hdb : (getDevice env identity g).1.db = g.db := getDevice_db
  rwa [h] at hdb

@[simp] theorem getDevice_sequenceNumber :
    (getDevice env identity g).1.sequenceNumber = g.sequenceNumber := by rw [getDevice_eq]

/-- The device that `getDevice` returns is in memory afterwards. -/
theorem getDevice_devices {g' : State} (h : getDevice env identity g = (g', some d)) :
    g'.devices identity = some d := by
  rcases getDevice_cases env identity g with ⟨d', hd, h'⟩ | ⟨-, -, h'⟩ | ⟨-, -, h'⟩ <;>
    rw [h', Prod.mk.injEq] at h
  · obtain ⟨rfl, h2⟩ := h
    rw [hd, h2]
  · exact absurd h.2 (by simp)
  · obtain ⟨rfl, h2⟩ := h
    rw [setDevice_devices_self, h2]

/-- The look-up does not depend on the sequence number. -/
theorem getDevice_withSequenceNumber (n : UInt32) :
    getDevice env identity { g with sequenceNumber := n } =
      ({ (getDevice env identity g).1 with sequenceNumber := n },
        (getDevice env identity g).2) := by
  cases h : g.devices identity with
  | some d => simp [getDevice, h]
  | none =>
    by_cases hpsk : g.db.selectDevicePsk env.selectDevicePsk identity = [] <;>
      simp [getDevice, h, hpsk, setDevice]

/-! ## Replies to the cloud -/

/-- `responseCommandACK` acknowledges the current number and touches only the retry state. -/
theorem responseCommandACK_spec (env : Env) (g : State) :
    (responseCommandACK env g).effects = [.publishAck g.sequenceNumber env.publishAck] ∧
    (responseCommandACK env g).result = env.publishAck ∧
    ∃ m c a, (responseCommandACK env g).gateway =
      { g with msgACKScheduled := m, counterACK := c, statusACKAlarm := a } := by
  cases h : env.publishAck with
  | true => exact ⟨by simp [responseCommandACK, h], by simp [responseCommandACK, h],
      g.msgACKScheduled, g.counterACK, g.statusACKAlarm, by simp [responseCommandACK, h]⟩
  | false =>
    refine ⟨by simp [responseCommandACK, h], by simp [responseCommandACK, h], ?_⟩
    simp only [responseCommandACK, h, Bool.false_eq_true, if_false]
    split <;> split <;> exact ⟨_, _, _, rfl⟩

/-- Splits off the retry state: `responseCommandACK` changes no other field. -/
theorem responseCommandACK_gateway (env : Env) (g : State) :
    ∃ m c a, (responseCommandACK env g).gateway =
      { g with msgACKScheduled := m, counterACK := c, statusACKAlarm := a } :=
  (responseCommandACK_spec env g).2.2

@[simp] theorem responseCommandACK_effects :
    (responseCommandACK env g).effects = [.publishAck g.sequenceNumber env.publishAck] :=
  (responseCommandACK_spec env g).1

@[simp] theorem responseCommandACK_result :
    (responseCommandACK env g).result = env.publishAck :=
  (responseCommandACK_spec env g).2.1

@[simp] theorem responseCommandACK_db : (responseCommandACK env g).gateway.db = g.db := by
  obtain ⟨m, c, a, h⟩ := responseCommandACK_gateway env g
  rw [h]

/-- `statusACKCallback` sends one ACK and touches only the retry state. -/
theorem statusACKCallback_spec (env : Env) (g : State) :
    (statusACKCallback env g).effects = [.publishAck g.sequenceNumber env.publishAck] ∧
    ∃ m c a, (statusACKCallback env g).gateway =
      { g with msgACKScheduled := m, counterACK := c, statusACKAlarm := a } := by
  obtain ⟨m, c, a, h⟩ := responseCommandACK_gateway env g
  simp only [statusACKCallback]
  split
  · exact ⟨responseCommandACK_effects, _, _, _, by rw [h]⟩
  · exact ⟨responseCommandACK_effects, _, _, _, h⟩

/-- `responseCommandDONE` leaves the state that its look-up leaves. -/
theorem responseCommandDONE_gateway (env : Env) (identity : StdString) (g : State) :
    (responseCommandDONE env identity g).gateway = (getDevice env identity g).1 := by
  simp only [responseCommandDONE]
  split <;> rename_i h <;> rw [h]

/-- `responseCommandDONE` of an unknown device does nothing else. -/
theorem responseCommandDONE_of_none (h : (getDevice env identity g).2 = none) :
    (responseCommandDONE env identity g).effects = [] := by
  simp only [responseCommandDONE]
  split
  · rfl
  · rename_i h'
    rw [h'] at h
    exact absurd h (by simp)

/-- `responseCommandDONE` reads the executed list of the device it found, and publishes once. -/
theorem responseCommandDONE_of_some (h : (getDevice env identity g).2 = some d) :
    ∃ n, (responseCommandDONE env identity g).effects =
      [.readExecuted identity d.execCmds, .publishDone identity n (env.publishDone identity)] := by
  simp only [responseCommandDONE]
  split
  · rename_i h'
    rw [h'] at h
    exact absurd h (by simp)
  · rename_i d' h'
    rw [h', Option.some.injEq] at h
    exact ⟨_, by rw [h]⟩

/-! ## Pushing commands -/

/-- `pushCommand` leaves the gateway alone, or sends the front command and flags it. -/
theorem pushCommand_cases (env : Env) (identity : StdString) (g : State) :
    ((pushCommand env identity g).gateway = g ∧ (pushCommand env identity g).effects = []) ∨
    ∃ d cmd rest, g.devices identity = some d ∧ d.recvCmds = cmd :: rest ∧
      cmd.inProgress = false ∧ d.registered = true ∧
      (pushCommand env identity g).gateway =
        { g with requests := g.requests ++ [d.request cmd] }.setDevice identity
          { d with recvCmds := { cmd with inProgress := true } :: rest } ∧
      (pushCommand env identity g).effects = [.send (d.request cmd)] := by
  cases hd : g.devices identity with
  | none => exact .inl (by simp [pushCommand, hd])
  | some d =>
    rcases d.pushCommand_cases (env.sendFailure identity) with
      h | ⟨cmd, rest, hrecv, hprog, hreg, h⟩ | ⟨e, h⟩
    · refine .inl ⟨?_, by simp [pushCommand, hd, h]⟩
      simpa [pushCommand, hd, h] using setDevice_eq_self hd
    · exact .inr ⟨d, cmd, rest, rfl, hrecv, hprog, hreg, by simp [pushCommand, hd, h],
        by simp [pushCommand, hd, h]⟩
    · exact .inl ⟨by simp [pushCommand, hd, h], by simp [pushCommand, hd, h]⟩

@[simp] theorem pushCommand_db : (pushCommand env identity g).gateway.db = g.db := by
  rcases pushCommand_cases env identity g with ⟨h, -⟩ | ⟨d, cmd, rest, -, -, -, -, h, -⟩
  · rw [h]
  · rw [h, setDevice_db]

/-- A front command that is already with the client is not pushed again. -/
theorem pushCommand_of_inProgress {cmd : CommandDevice} {rest : List CommandDevice}
    (hd : g.devices identity = some d) (hrecv : d.recvCmds = cmd :: rest)
    (hprog : cmd.inProgress = true) : (pushCommand env identity g).gateway = g := by
  rcases pushCommand_cases env identity g with ⟨h, -⟩ | ⟨d', cmd', rest', hd', hrecv', hprog', -⟩
  · exact h
  · obtain rfl : d = d' := by simpa [hd] using hd'
    rw [hrecv, List.cons.injEq] at hrecv'
    rw [← hrecv'.1, hprog] at hprog'
    exact absurd hprog' (by simp)

/-! ## Responses of a client -/

/-- The state after the front command of `identity` was executed: its row is marked and it moved to
the end of the executed list. -/
def executed (identity : StdString) (d : Device) (cmd : CommandDevice) (rest : List CommandDevice)
    (g : State) : State :=
  { g with db := (g.db.markExecutedDeviceCommand true cmd.sequenceNumber).2 }.setDevice identity
    { d with recvCmds := rest, execCmds := d.execCmds ++ [cmd] }

/-- `markCommandAsDone` without the database changes nothing. -/
theorem markCommandAsDone_of_fail (identity : StdString) (g : State)
    (h : env.markExecutedDeviceCommand = false) :
    (markCommandAsDone env identity g).gateway = g ∧
      (markCommandAsDone env identity g).effects = [] := by
  cases hd : g.devices identity with
  | none => simp [markCommandAsDone, hd]
  | some d =>
    cases hrecv : d.recvCmds with
    | nil => simp [markCommandAsDone, hd, hrecv]
    | cons cmd rest =>
      simp [markCommandAsDone, hd, hrecv, h, Database.markExecutedDeviceCommand]

/-- `markCommandAsDone` moves the front command and reports the oldest executed one. -/
theorem markCommandAsDone_of_ok {cmd : CommandDevice} {rest : List CommandDevice}
    (h : env.markExecutedDeviceCommand = true) (hd : g.devices identity = some d)
    (hrecv : d.recvCmds = cmd :: rest) :
    (markCommandAsDone env identity g).gateway = g.executed identity d cmd rest ∧
    ∃ n, (markCommandAsDone env identity g).effects =
      [.readExecuted identity (d.execCmds ++ [cmd]),
        .publishDone identity n (env.publishDone identity)] := by
  have hget : getDevice env identity
      ({ g with db := (g.db.markExecutedDeviceCommand true cmd.sequenceNumber).2 }.setDevice
        identity (d.addExecDeviceCommand cmd)) = (_, some (d.addExecDeviceCommand cmd)) :=
    getDevice_of_some setDevice_devices_self
  obtain ⟨n, hn⟩ := responseCommandDONE_of_some (congrArg Prod.snd hget)
  simp only [Database.markExecutedDeviceCommand, if_true] at hget hn
  simp only [markCommandAsDone, hd, hrecv, h, Database.markExecutedDeviceCommand, if_true]
  refine ⟨?_, n, hn⟩
  rw [responseCommandDONE_gateway, hget, modifyDevice_of_some setDevice_devices_self]
  simp [executed, Database.markExecutedDeviceCommand, Device.addExecDeviceCommand, hrecv]

/-- The state after the front command of `identity` came back unexecuted. -/
def returned (identity : StdString) (d : Device) (cmd : CommandDevice) (rest : List CommandDevice)
    (timeouts : UInt8) (g : State) : State :=
  g.setDevice identity
    { d with
      recvCmds := { cmd with inProgress := false } :: rest
      deviceCmdTimeouts := timeouts }

/-- A success marks the front command and pushes the next one. -/
theorem deviceCmdRespCallback_ok {g' : State} {effects : List Effect} {cmd : CommandDevice}
    {rest : List CommandDevice} (hd : g.devices identity = some d)
    (hrecv : d.recvCmds = cmd :: rest) (hst : (markCommandAsDone env identity
      (g.setDevice identity { d with deviceCmdTimeouts := 0 })).gateway = g')
    (heff : (markCommandAsDone env identity
      (g.setDevice identity { d with deviceCmdTimeouts := 0 })).effects = effects) :
    (deviceCmdRespCallback env identity .ok g).gateway = (pushCommand env identity g').gateway ∧
    (deviceCmdRespCallback env identity .ok g).effects =
      effects ++ (pushCommand env identity g').effects := by
  subst hst heff
  simp only [deviceCmdRespCallback, hd]
  split
  · rename_i h
    exact absurd (hrecv.symm.trans h) (by simp)
  · exact ⟨rfl, rfl⟩

/-- What `deviceCmdRespCallback` can do with the front command: execute it and push the next one,
keep it because the database failed, or take it back and possibly push it again. -/
theorem deviceCmdRespCallback_cases {cmd : CommandDevice} {rest : List CommandDevice}
    (env : Env) (respStatus : CoapResponse) (hd : g.devices identity = some d)
    (hrecv : d.recvCmds = cmd :: rest) :
    let r := deviceCmdRespCallback env identity respStatus g
    let d₀ := { d with deviceCmdTimeouts := 0 }
    (respStatus = .ok ∧ env.markExecutedDeviceCommand = true ∧
      r.gateway = (pushCommand env identity (g.executed identity d₀ cmd rest)).gateway ∧
      ∃ n, r.effects = [.readExecuted identity (d.execCmds ++ [cmd]),
        .publishDone identity n (env.publishDone identity)] ++
        (pushCommand env identity (g.executed identity d₀ cmd rest)).effects) ∨
    (respStatus = .ok ∧ env.markExecutedDeviceCommand = false ∧
      r.gateway = (pushCommand env identity (g.setDevice identity d₀)).gateway ∧
      r.effects = (pushCommand env identity (g.setDevice identity d₀)).effects) ∨
    (respStatus ≠ .ok ∧ ∃ timeouts,
      (r.gateway = g.returned identity d cmd rest timeouts ∧ r.effects = []) ∨
      (r.gateway = (pushCommand env identity (g.returned identity d cmd rest timeouts)).gateway ∧
        r.effects = (pushCommand env identity
          (g.returned identity d cmd rest timeouts)).effects)) := by
  intro r d₀
  have hd₀ : (g.setDevice identity d₀).devices identity = some d₀ := setDevice_devices_self
  have hfront : d.setFrontInProgress false =
      { d with recvCmds := { cmd with inProgress := false } :: rest } := by
    simp [Device.setFrontInProgress, hrecv]
  cases respStatus with
  | ok =>
    cases hmark : env.markExecutedDeviceCommand with
    | true =>
      obtain ⟨hst, n, heff⟩ := markCommandAsDone_of_ok hmark hd₀ hrecv
      have hex : (g.setDevice identity d₀).executed identity d₀ cmd rest =
          g.executed identity d₀ cmd rest := by
        simp [executed, setDevice, Function.update_idem]
      obtain ⟨hg, he⟩ := deviceCmdRespCallback_ok hd hrecv (hst.trans hex) heff
      exact .inl ⟨rfl, rfl, hg, n, he⟩
    | false =>
      obtain ⟨hst, heff⟩ := markCommandAsDone_of_fail identity (g.setDevice identity d₀) hmark
      obtain ⟨hg, he⟩ := deviceCmdRespCallback_ok hd hrecv hst heff
      exact .inr (.inl ⟨rfl, rfl, hg, he⟩)
  | timeout =>
    refine .inr (.inr ⟨by simp, ?_⟩)
    by_cases ht : d.deviceCmdTimeouts = atlasPushCommandRetryNo
    · exact ⟨0, .inl (by simp [r, deviceCmdRespCallback, hd, hrecv, hfront, ht, returned])⟩
    · exact ⟨d.deviceCmdTimeouts + 1,
        .inr (by simp [r, deviceCmdRespCallback, hd, hrecv, hfront, ht, returned])⟩
  | notFound | notAcceptable | reset | unknown =>
    exact .inr (.inr ⟨by simp, 0,
      .inl (by simp [r, deviceCmdRespCallback, hd, hrecv, hfront, returned])⟩)

/-- A callback for a device without received commands does nothing. -/
theorem deviceCmdRespCallback_of_empty (env : Env) (respStatus : CoapResponse)
    (h : ∀ d, g.devices identity = some d → d.recvCmds = []) :
    (deviceCmdRespCallback env identity respStatus g).gateway = g ∧
      (deviceCmdRespCallback env identity respStatus g).effects = [] := by
  cases hd : g.devices identity with
  | none => simp [deviceCmdRespCallback, hd]
  | some d => simp [deviceCmdRespCallback, hd, h d hd]

end Atlas.Gateway.State
