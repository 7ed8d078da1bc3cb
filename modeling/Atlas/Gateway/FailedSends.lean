import Atlas.Gateway.Queues

/-! # Failed sends

`sendRequest` turns every failure into an `AtlasCoapException`, but `pushCommand` catches a
`const char *` only. So a failed send leaves `pushCommand`, and nothing above it catches the
exception: it ends the handler of the command and the alarm, and the alarm does not come to the
devices behind the failing one. The handlers complete exactly as long as no send they attempt fails.

Reference: `coap/AtlasCoapClient.cpp` (`sendRequest`), `device/AtlasDevice.cpp` (`pushCommand`),
`claim_approve/AtlasApprove.cpp` (`handleClientCommand`, `alarmCallback`).
-/

namespace Atlas.Gateway

/-- The exception of a failed send left the function. -/
def escapes {α : Type} : Except CppException α → Bool
  | .error (.coapException _) => true
  | _ => false

/-! ## One device -/

namespace Device

variable {d : Device}

/-- The device has a command to send: it is registered, and its front command is not with it yet. -/
def pushes (d : Device) : Bool :=
  d.registered && d.recvCmds.head?.any (!·.inProgress)

/-- Without a command to send, no request is built. -/
theorem pushCommand_of_not_pushes (h : d.pushes = false) (failure : Option SendFailure) :
    d.pushCommand failure = .ok (d, []) := by
  rcases hrecv : d.recvCmds with _ | ⟨cmd, rest⟩
  · simp [pushCommand, hrecv]
  · cases hreg : d.registered with
    | false => simp [pushCommand, hrecv, hreg]
    | true =>
      have hprog : cmd.inProgress = true := by simpa [pushes, hrecv, hreg] using h
      simp [pushCommand, hrecv, hreg, hprog]

/-- With one, the outcome is the one of `sendRequest`. -/
theorem pushCommand_of_pushes (h : d.pushes = true) (failure : Option SendFailure) :
    ∃ r, d.pushCommand failure = (sendRequest failure).map fun _ => r := by
  simp only [pushes, Bool.and_eq_true, Option.any_eq_true] at h
  obtain ⟨hreg, cmd, hhead, hprog⟩ := h
  obtain ⟨rest, hrecv⟩ := List.head?_eq_some_iff.mp hhead
  refine ⟨(d.setFrontInProgress true, [d.request cmd]), ?_⟩
  cases failure <;> simp_all [pushCommand, sendRequest, Except.map]

/-- A failed send is an exception of `pushCommand`. -/
theorem pushCommand_of_failure (h : d.pushes = true) (failure : SendFailure) :
    d.pushCommand (some failure) = .error (.coapException failure.message) := by
  obtain ⟨r, hr⟩ := pushCommand_of_pushes h (some failure)
  exact hr

end Device

namespace State

variable {crypto : Crypto} {env : Env} {g : State} {identity : StdString} {p : CommandPayload}
  {n : UInt32} {clientIdentity type : StdString}

/-- The push to this device fails. -/
def pushFails (env : Env) (identity : StdString) (g : State) : Bool :=
  (g.devices identity).any Device.pushes && (env.sendFailure identity).isSome

/-- `pushCommand` returns or lets the exception out. -/
theorem pushCommand_result (env : Env) (identity : StdString) (g : State) :
    (pushFails env identity g = false ∧ (pushCommand env identity g).result = .ok ()) ∨
    (pushFails env identity g = true ∧
      ∃ message, (pushCommand env identity g).result = .error (.coapException message)) := by
  cases hd : g.devices identity with
  | none => exact .inl ⟨by simp [pushFails, hd], by simp [pushCommand, hd]⟩
  | some d =>
  cases hpushes : d.pushes with
  | false =>
    refine .inl ⟨by simp [pushFails, hd, hpushes], ?_⟩
    simp [pushCommand, hd, d.pushCommand_of_not_pushes hpushes]
  | true =>
  cases hfail : env.sendFailure identity with
  | none =>
    obtain ⟨r, hr⟩ := d.pushCommand_of_pushes hpushes none
    refine .inl ⟨by simp [pushFails, hfail], ?_⟩
    simp [pushCommand, hd, hfail, hr, sendRequest, Except.map]
  | some failure =>
    refine .inr ⟨by simp [pushFails, hd, hpushes, hfail], failure.message, ?_⟩
    simp [pushCommand, hd, hfail, d.pushCommand_of_failure hpushes]

/-! ## The alarm -/

/-- A device loaded from the database is not registered. -/
theorem registered_loaded (env : Env) (identity : StdString) (g : State) :
    (loaded env identity g).registered = false := by
  obtain ⟨rows, -, h⟩ := loaded_eq env identity g
  rw [h, Device.foldl_addRow]
  rfl

theorem pushFails_getDevice (env : Env) (identity j : StdString) (g : State) :
    pushFails env j (getDevice env identity g).1 = pushFails env j g := by
  rcases getDevice_cases env identity g with ⟨d, -, h⟩ | ⟨-, -, h⟩ | ⟨hnone, -, h⟩
  · rw [h]
  · rw [h]
  · rw [h]
    by_cases hj : j = identity
    · subst hj
      simp [pushFails, hnone, Device.pushes, registered_loaded]
    · simp [pushFails, setDevice_devices_of_ne hj]

/-- A push that does not fail changes for no device whether its push fails. -/
theorem pushFails_pushCommand (h : pushFails env identity g = false) (j : StdString) :
    pushFails env j (pushCommand env identity g).gateway = pushFails env j g := by
  rcases pushCommand_cases env identity g with
    ⟨hsame, -⟩ | ⟨d, cmd, rest, hd, hrecv, hprog, hreg, hsent, -⟩
  · rw [hsame]
  · rw [hsent]
    by_cases hj : j = identity
    · -- the command was sent, so the sends to this device succeed
      subst hj
      have hfail : env.sendFailure j = none := by
        simpa [pushFails, hd, Device.pushes, hrecv, hreg, hprog] using h
      simp [pushFails, hfail]
    · simp [pushFails, setDevice_devices_of_ne hj]

theorem alarmDevice_result (env : Env) (identity : StdString) (g : State) :
    (alarmDevice env identity g).result = (pushCommand env identity g).result := by
  simp only [alarmDevice]
  split
  · rename_i e h
    exact h.symm
  · rename_i h
    split <;> exact h.symm

theorem pushFails_alarmDevice (h : pushFails env identity g = false) (j : StdString) :
    pushFails env j (alarmDevice env identity g).gateway = pushFails env j g := by
  have hpush := pushFails_pushCommand h j
  simp only [alarmDevice]
  split
  · exact hpush
  · split
    · exact hpush
    · rw [responseCommandDONE_gateway, pushFails_getDevice, hpush]

/-- The alarm comes to its end exactly if no push fails. -/
theorem alarmCallback_result (env : Env) (order : List StdString) (g : State) :
    (alarmCallback env order g).result = .ok () ↔
      ∀ identity ∈ order, pushFails env identity g = false := by
  induction order generalizing g with
  | nil => simp [alarmCallback]
  | cons identity order ih =>
    have hresult := alarmDevice_result env identity g
    rw [List.forall_mem_cons]
    rcases pushCommand_result env identity g with ⟨hfails, hok⟩ | ⟨hfails, message, herr⟩
    · simp only [alarmCallback, hresult, hok, ih, pushFails_alarmDevice hfails, hfails, true_and]
    · simp [alarmCallback, hresult, herr, hfails]

/-! ## Commands of the cloud -/

/-- A device that would push a command appended to its list. -/
def pushesNext (d : Device) : Bool :=
  d.registered && d.recvCmds.head?.all (!·.inProgress)

theorem pushes_addRecvDeviceCommand (d : Device) (payload : StdString) :
    (d.addRecvDeviceCommand (.new clientIdentity n type payload)).pushes = pushesNext d := by
  cases hrecv : d.recvCmds <;>
    simp [Device.pushes, pushesNext, Device.addRecvDeviceCommand, hrecv, CommandDevice.new]

/-- The command is stored and its acknowledgement delivered, its client is online without a command
on the way, and the send fails. -/
def acceptPushFails (env : Env) (clientIdentity : StdString) (payload : JsonValue) (g : State) :
    Bool :=
  payload.asString.isSome && env.insertDeviceCommand.getIdDevice &&
    (g.db.device.getIdDevice clientIdentity).isSome &&
    env.insertDeviceCommand.insertDeviceCommand &&
    env.insertDeviceCommand.updateMaxSeqNo && env.publishAck &&
    (g.devices clientIdentity).any pushesNext && (env.sendFailure clientIdentity).isSome

/-- The command passes the checks, its number is new, and then its push fails. -/
def commandPushFails (crypto : Crypto) (env : Env) (p : CommandPayload) (g : State) : Bool :=
  match checkCommand crypto g p, p.seqNo.asUInt with
  | .ok (some (clientIdentity, _)), some n =>
    decide (g.sequenceNumber < n) && acceptPushFails env clientIdentity p.payload g
  | _, _ => false

/-- The push at the end of `acceptCommand`. -/
theorem escapes_acceptCommand_of_stored {g₁ : State} {d : Device} {payload : StdString}
    {json : JsonValue} {row : DeviceCommandRow}
    (hget : getDevice env clientIdentity g = (g₁, some d)) (hpayload : json.asString = some payload)
    (hrow : g.db.insertedRow env.insertDeviceCommand n type payload clientIdentity = some row)
    (hmax : env.insertDeviceCommand.updateMaxSeqNo = true) :
    escapes (acceptCommand env n clientIdentity type json g).result =
      (env.publishAck && pushesNext d && (env.sendFailure clientIdentity).isSome) := by
  have hdb := getDevice_db_eq hget
  have hnext :
      (d.addRecvDeviceCommand (.new clientIdentity n type payload)).pushes = pushesNext d :=
    pushes_addRecvDeviceCommand d payload
  simp only [acceptCommand, hget, hpayload, Database.insertDeviceCommand,
    Database.updateMaxSequenceNumber, hdb, hrow, hmax, if_true]
  cases hack : env.publishAck with
  | false => simp [responseCommandACK, hack, escapes]
  | true =>
    simp only [responseCommandACK, hack, if_true]
    rcases pushCommand_result env clientIdentity ({ g₁ with
      db := _, sequenceNumber := n }.setDevice clientIdentity (d.addRecvDeviceCommand _)) with
      ⟨hfails, hresult⟩ | ⟨hfails, message, hresult⟩ <;>
    · rw [hresult]
      simp only [pushFails, setDevice_devices_self, Option.any_some, hnext] at hfails
      simp [escapes, Except.map, hfails]

/-- Storing a command lets the exception out exactly if its push fails. -/
theorem escapes_acceptCommand (env : Env) (n : UInt32) (clientIdentity type : StdString)
    (json : JsonValue) (g : State) :
    escapes (acceptCommand env n clientIdentity type json g).result =
      acceptPushFails env clientIdentity json g := by
  -- only a device in memory can be registered
  have hmemory : ((getDevice env clientIdentity g).2).any pushesNext =
      (g.devices clientIdentity).any pushesNext := by
    rcases getDevice_cases env clientIdentity g with ⟨d, hd, h⟩ | ⟨hd, -, h⟩ | ⟨hd, -, h⟩
    · rw [h, hd]
    · rw [h, hd]
    · rw [h, hd]
      simp [pushesNext, registered_loaded]
  rcases hget : getDevice env clientIdentity g with ⟨g₁, _ | d⟩
  · rw [hget] at hmemory
    simp [acceptCommand, hget, acceptPushFails, ← hmemory, escapes]
  · rw [hget] at hmemory
    have hdb := getDevice_db_eq hget
    cases hpayload : json.asString with
    | none => simp [acceptCommand, hget, hpayload, acceptPushFails, escapes]
    | some payload =>
    cases hrow : g.db.insertedRow env.insertDeviceCommand n type payload clientIdentity with
    | none =>
      have hnone : acceptPushFails env clientIdentity json g = false := by
        rw [← Bool.not_eq_true]
        intro hfails
        simp only [acceptPushFails, Bool.and_eq_true, Option.isSome_iff_exists] at hfails
        obtain ⟨⟨⟨⟨⟨⟨⟨-, hlookup⟩, id, hid⟩, hinsert⟩, -⟩, -⟩, -⟩, -⟩ := hfails
        rw [Database.insertedRow_eq_some_iff.mpr ⟨hlookup, hinsert, id, hid, rfl⟩] at hrow
        cases hrow
      simp [acceptCommand, hget, hpayload, hdb, hrow, Database.insertDeviceCommand, hnone, escapes]
    | some row =>
      obtain ⟨hlookup, hinsert, id, hid, -⟩ := Database.insertedRow_eq_some_iff.mp hrow
      cases hmax : env.insertDeviceCommand.updateMaxSeqNo with
      | false =>
        simp [acceptCommand, hget, hpayload, hdb, hrow, hmax, Database.insertDeviceCommand,
          Database.updateMaxSequenceNumber, acceptPushFails, escapes]
      | true =>
        rw [escapes_acceptCommand_of_stored hget hpayload hrow hmax]
        simp only [Option.any_some] at hmemory
        simp [acceptPushFails, hpayload, hlookup, hid, hinsert, hmax, hmemory]

/-- The checks before throw other exceptions. -/
theorem escapes_checkCommand (crypto : Crypto) (g : State) (p : CommandPayload) :
    escapes (checkCommand crypto g p) = false := by
  have hsignature : escapes (validateCommandSignature crypto g p) = false := by
    simp only [validateCommandSignature]
    repeat' split
    all_goals rfl
  simp only [checkCommand]
  repeat' split
  all_goals try rfl
  rename_i e herr
  rw [herr] at hsignature
  cases e <;> first | rfl | cases hsignature

/-- The handler of a command lets the exception out exactly if the push of the command fails. -/
theorem escapes_handleClientCommand (crypto : Crypto) (env : Env) (p : CommandPayload) (g : State) :
    escapes (handleClientCommand crypto env p g).result = commandPushFails crypto env p g := by
  have hchecks := escapes_checkCommand crypto g p
  simp only [handleClientCommand, commandPushFails]
  rcases hcheck : checkCommand crypto g p with e | _ | ⟨clientIdentity, type⟩
  · rw [hcheck] at hchecks
    cases e <;> first | rfl | cases hchecks
  · rfl
  · cases p.seqNo.asUInt with
    | none => rfl
    | some n =>
      by_cases hle : n ≤ g.sequenceNumber
      · simp [hle, UInt32.not_lt.mpr hle, escapes]
      · simp [hle, UInt32.not_le.mp hle, escapes_acceptCommand]

end State

end Atlas.Gateway
