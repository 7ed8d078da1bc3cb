import Atlas.Gateway.Queues

/-! # DONE is taken from a non-empty list

`responseCommandDONE` reads the front of a device's executed list without looking whether there is
one. The push alarm and the CoAP callback only call it when there is. Two callers do not make sure:
`handleCommandDoneAck` after it removed the confirmed command, and `handleOldCommand` for the client
that the payload names. These are the only reads of an empty list.
-/

namespace Atlas.Gateway

open EventMachine

/-- The effect is a read of the front of an empty executed list. -/
def Effect.readsEmpty : Effect → Bool
  | readExecuted _ [] => true
  | _ => false

/-- Every executed list whose front was read is non-empty. -/
def ReadsFront (ws : List Effect) : Prop := ∀ w ∈ ws, w.readsEmpty = false

@[simp] theorem readsFront_nil : ReadsFront [] := by simp [ReadsFront]

@[simp] theorem readsFront_append {ws ws' : List Effect} :
    ReadsFront (ws ++ ws') ↔ ReadsFront ws ∧ ReadsFront ws' := by
  simp [ReadsFront, or_imp, forall_and]

namespace State

variable {crypto : Crypto} {env : Env} {g g' : State} {identity : StdString} {d : Device}

/-- The numbers in the executed list of a client: of the device in memory, or of the rows it would
be loaded with. -/
def executedNumbers (g : State) (identity : StdString) : List UInt32 :=
  match g.devices identity with
  | some d => d.execCmds.map (·.sequenceNumber)
  | none =>
    ((g.db.getDeviceCommandByIdentity identity).filter (·.isExecuted)).map (·.sequenceNumber)

/-- The event makes the gateway report the front of an empty executed list: a DONE-ACK for the only
executed command of its client, or an executed command retransmitted in the name of a client without
executed commands. -/
def reportsEmpty (crypto : Crypto) (g : State) : Event → Bool
  | .commandDoneAck p =>
    match p.clientIdentity.asString, p.seqNo.asUInt with
    | some clientIdentity, some n =>
      g.knows true clientIdentity && g.executedNumbers clientIdentity = [n]
    | _, _ => false
  | .clientCommand p =>
    match checkCommand crypto g p, p.seqNo.asUInt with
    | .ok (some (clientIdentity, _)), some n =>
      n ≤ g.sequenceNumber &&
        g.db.deviceCommand.any (fun r => r.sequenceNumber = n ∧ r.isExecuted) &&
        g.knows true clientIdentity && g.executedNumbers clientIdentity = []
    | _, _ => false
  | _ => false

/-! ## The device that is looked up -/

theorem getDevice_of_not_knows (hsql : env.SqlOk) (h : g.knows true identity = false) :
    getDevice env identity g = (g, none) := by
  rcases getDevice_cases env identity g with ⟨d, hd, -⟩ | ⟨-, -, hget⟩ | ⟨-, hpsk, -⟩
  · simp [knows, hd] at h
  · exact hget
  · rw [hsql.selectDevicePsk] at hpsk
    simp [knows, hpsk] at h

theorem getDevice_of_knows (hsql : env.SqlOk) (h : g.knows true identity = true) :
    ∃ g' d, getDevice env identity g = (g', some d) ∧
      d.execCmds.map (·.sequenceNumber) = g.executedNumbers identity := by
  rcases getDevice_cases env identity g with ⟨d, hd, hget⟩ | ⟨hd, hpsk, -⟩ | ⟨hd, -, hget⟩
  · exact ⟨g, d, hget, by simp [executedNumbers, hd]⟩
  · rw [hsql.selectDevicePsk] at hpsk
    simp [knows, hd, hpsk] at h
  · refine ⟨_, _, hget, ?_⟩
    rw [loaded_of_sqlOk hsql, Device.foldl_addRow]
    simp only [executedNumbers, hd, Device.new, List.nil_append, List.map_map]
    rfl

/-! ## What the handlers read -/

theorem pushCommand_readsFront (env : Env) (identity : StdString) (g : State) :
    ReadsFront (pushCommand env identity g).effects := by
  rcases pushCommand_cases env identity g with ⟨-, h⟩ | ⟨d, cmd, rest, -, -, -, -, -, h⟩
  · rw [h]
    exact readsFront_nil
  · simp [h, ReadsFront, Effect.readsEmpty]

theorem responseCommandDONE_readsFront_iff (hget : getDevice env identity g = (g', some d)) :
    ReadsFront (responseCommandDONE env identity g).effects ↔ d.execCmds ≠ [] := by
  obtain ⟨n, hn⟩ := responseCommandDONE_of_some (congrArg Prod.snd hget)
  rw [hn]
  cases hexec : d.execCmds <;> simp [ReadsFront, Effect.readsEmpty]

theorem acceptCommand_readsFront (env : Env) (n : UInt32) (clientIdentity type : StdString)
    (payload : JsonValue) (g : State) :
    ReadsFront (acceptCommand env n clientIdentity type payload g).effects := by
  simp only [acceptCommand]
  split
  · exact readsFront_nil
  split
  · exact readsFront_nil
  rename_i g' _ _ _ payload _
  have hrow : ReadsFront ((g'.db.insertedRow env.insertDeviceCommand n type payload
      clientIdentity).toList.map .insertRow) := by
    intro w hw
    obtain ⟨row, -, rfl⟩ := List.mem_map.mp hw
    rfl
  have hqueued : ReadsFront [.appendRecv (CommandDevice.new clientIdentity n type payload)] := by
    simp [ReadsFront, Effect.readsEmpty]
  split
  · exact hrow
  · have hack : ∀ m b, ReadsFront [.publishAck m b] := by simp [ReadsFront, Effect.readsEmpty]
    split
    · simp only [readsFront_append, responseCommandACK_effects]
      exact ⟨⟨⟨hrow, hqueued⟩, hack _ _⟩, pushCommand_readsFront env _ _⟩
    · simp only [readsFront_append, responseCommandACK_effects]
      exact ⟨⟨hrow, hqueued⟩, hack _ _⟩

theorem clientCommand_readsFront_iff (hsql : env.SqlOk) (p : CommandPayload) :
    ReadsFront (handleClientCommand crypto env p g).effects ↔
      reportsEmpty crypto g (.clientCommand p) = false := by
  cases hcheck : checkCommand crypto g p with
  | error e => simp [handleClientCommand, reportsEmpty, hcheck]
  | ok r =>
  cases r with
  | none => simp [handleClientCommand, reportsEmpty, hcheck]
  | some r =>
  obtain ⟨clientIdentity, type⟩ := r
  cases hseq : p.seqNo.asUInt with
  | none => simp [handleClientCommand, reportsEmpty, hcheck, hseq]
  | some n =>
  by_cases hle : n ≤ g.sequenceNumber
  swap
  · simp [handleClientCommand, reportsEmpty, hcheck, hseq, hle, acceptCommand_readsFront]
  simp only [handleClientCommand, reportsEmpty, hcheck, hseq, hle, if_true, decide_true,
    Bool.true_and, handleOldCommand, Database.checkDeviceCommandBySeqNo,
    Database.checkDeviceCommandForExecution, hsql.checkDeviceCommandBySeqNo,
    hsql.checkDeviceCommandForExecution]
  by_cases hexec : g.db.deviceCommand.any (fun r => r.sequenceNumber = n ∧ r.isExecuted) = true
  · have hrow : g.db.deviceCommand.any (·.sequenceNumber = n) = true := by
      simp only [List.any_eq_true, decide_eq_true_eq] at hexec ⊢
      obtain ⟨r, hr, hn, -⟩ := hexec
      exact ⟨r, hr, hn⟩
    simp only [hrow, hexec, if_true, Bool.true_and]
    cases hknows : g.knows true clientIdentity with
    | false =>
      have hget : (getDevice env clientIdentity { g with sequenceNumber := n }).2 = none := by
        rw [getDevice_withSequenceNumber, getDevice_of_not_knows hsql hknows]
      simp [responseCommandDONE_of_none hget]
    | true =>
      obtain ⟨g', d, hget, hnum⟩ := getDevice_of_knows hsql hknows
      have hget' : getDevice env clientIdentity { g with sequenceNumber := n } =
          ({ g' with sequenceNumber := n }, some d) := by
        rw [getDevice_withSequenceNumber, hget]
      rw [responseCommandDONE_readsFront_iff hget', ← hnum]
      simp
  · simp only [hexec, Bool.false_eq_true, if_false, Bool.false_and, iff_true]
    split
    · simp [ReadsFront, Effect.readsEmpty]
    · exact readsFront_nil

theorem commandDoneAck_readsFront_iff (hsql : env.SqlOk) (hg : g.WellFormed) (p : DoneAckPayload) :
    ReadsFront (handleCommandDoneAck env p g).effects ↔
      reportsEmpty crypto g (.commandDoneAck p) = false := by
  cases hclient : p.clientIdentity.asString with
  | none => simp [handleCommandDoneAck, reportsEmpty, hclient]
  | some clientIdentity =>
  cases hknows : g.knows true clientIdentity with
  | false =>
    have hget := getDevice_of_not_knows hsql hknows
    cases hseq : p.seqNo.asUInt <;>
      simp [handleCommandDoneAck, reportsEmpty, hclient, hget, hseq, hknows]
  | true =>
  obtain ⟨g', d, hget, hnum⟩ := getDevice_of_knows hsql hknows
  cases hexec : d.execCmds with
  | nil =>
    cases hseq : p.seqNo.asUInt <;>
      simp [handleCommandDoneAck, reportsEmpty, hclient, hget, hseq, ← hnum, hexec,
        Device.getExecutedCommand]
  | cons cmd rest =>
  cases hseq : p.seqNo.asUInt with
  | none =>
    simp [handleCommandDoneAck, reportsEmpty, hclient, hget, hseq, hexec,
      Device.getExecutedCommand]
  | some n =>
  by_cases hn : cmd.sequenceNumber = n
  swap
  · simp [handleCommandDoneAck, reportsEmpty, hclient, hget, hseq, hexec,
      Device.getExecutedCommand, ← hnum, hn]
  -- the device is stored under its own identity, so the DONE is for the list just shortened
  have hself : d.identity = clientIdentity :=
    (getDevice_wellFormed hget hg _ _ (getDevice_devices hget)).identity_eq
  simp only [handleCommandDoneAck, reportsEmpty, hclient, hget, hseq, hexec,
    Device.getExecutedCommand, List.head?_cons, hn, ne_eq, not_true, if_false,
    Database.deleteDeviceCommand, hsql.deleteDeviceCommand, if_true, hself, hknows, ← hnum,
    Bool.true_and]
  rw [responseCommandDONE_readsFront_iff (getDevice_of_some setDevice_devices_self)]
  simp [Device.removeExecutedCommand, hexec, hn]

theorem coapReply_readsFront (env : Env) (identity : StdString) (respStatus : CoapResponse)
    (g : State) : ReadsFront (deviceCmdRespCallback env identity respStatus g).effects := by
  by_cases hempty : ∀ d, g.devices identity = some d → d.recvCmds = []
  · simp [(deviceCmdRespCallback_of_empty env respStatus hempty).2]
  push Not at hempty
  obtain ⟨d, hd, hne⟩ := hempty
  obtain ⟨cmd, rest, hrecv⟩ := List.exists_cons_of_ne_nil hne
  rcases deviceCmdRespCallback_cases env respStatus hd hrecv with
    ⟨-, -, -, n, he⟩ | ⟨-, -, -, he⟩ | ⟨-, timeouts, ⟨-, he⟩ | ⟨-, he⟩⟩ <;> rw [he]
  · refine readsFront_append.mpr ⟨?_, pushCommand_readsFront env _ _⟩
    cases hexec : d.execCmds <;> simp [ReadsFront, Effect.readsEmpty]
  · exact pushCommand_readsFront env _ _
  · exact readsFront_nil
  · exact pushCommand_readsFront env _ _

theorem alarmDevice_readsFront (hg : g.WellFormed) (env : Env) (identity : StdString) :
    ReadsFront (alarmDevice env identity g).effects := by
  have hpush := pushCommand_readsFront env identity g
  simp only [alarmDevice]
  split
  · exact hpush
  split
  · exact hpush
  rename_i cmd hcmd
  obtain ⟨d, hd, hfront⟩ := Option.bind_eq_some_iff.mp hcmd
  have hmem : cmd ∈ d.execCmds := List.mem_of_head? hfront
  -- the alarm asks for the identity stored in the command, which is the device's own
  have hself : cmd.deviceIdentity = identity :=
    (wellFormed_of_path (pushCommand_path env identity g) hg _ _ hd).exec cmd hmem
  refine readsFront_append.mpr ⟨hpush, ?_⟩
  rw [hself, responseCommandDONE_readsFront_iff (getDevice_of_some hd)]
  exact List.ne_nil_of_mem hmem

theorem alarmCallback_readsFront (env : Env) (order : List StdString) (hg : g.WellFormed) :
    ReadsFront (alarmCallback env order g).effects := by
  induction order generalizing g with
  | nil => exact readsFront_nil
  | cons identity order ih =>
    have hdev := alarmDevice_readsFront hg env identity
    simp only [alarmCallback]
    split
    · exact hdev
    · exact readsFront_append.mpr
        ⟨hdev, ih (wellFormed_of_path (alarmDevice_path env identity g) hg)⟩

/-! ## Runs -/

theorem step_readsFront_iff (hsql : env.SqlOk) (hg : g.WellFormed) (e : Event) :
    ReadsFront (step crypto g (e, env)).2 ↔ reportsEmpty crypto g e = false := by
  cases e with
  | clientCommand p => exact clientCommand_readsFront_iff hsql p
  | commandDoneAck p => exact commandDoneAck_readsFront_iff hsql hg p
  | coapReply i respStatus =>
    simp only [step, reportsEmpty, iff_true]
    split
    · exact readsFront_nil
    · exact coapReply_readsFront env _ respStatus _
  | pushAlarm order => simpa [step, reportsEmpty] using alarmCallback_readsFront env order hg
  | statusACKAlarm =>
    simp [step, reportsEmpty, (statusACKCallback_spec env g).1, ReadsFront, Effect.readsEmpty]
  | register | keepAlive | keepAliveAlarm | deviceRequest | restart => simp [step, reportsEmpty]

/-- In a run of a gateway from its installation on, with every database call succeeding, DONE is
always taken from a non-empty executed list exactly when no step is one of the two that report an
empty list. -/
theorem readsFront_iff (crypto : Crypto) (identity : StdString) (claimed : Bool) (key : StdString)
    (device : DeviceTable) (es : List (Event × Env)) (hsql : ∀ e ∈ es, e.2.SqlOk) :
    ReadsFront (trace (step crypto) (fresh identity claimed key device) es) ↔
      AllSteps (step crypto) (fun g e => reportsEmpty crypto g e.1 = false)
        (fresh identity claimed key device) es := by
  unfold ReadsFront
  rw [forall_mem_trace_iff]
  exact allSteps_congr (fun _ e _ hg _ => step_wellFormed e hg)
    (fun _ e hok hg => step_readsFront_iff hok hg e.1)
    (fresh_wellFormed identity claimed key device) hsql

/-- The theorem at a run that pushes, executes and reports a command. -/
theorem readsFront_executed :
    ReadsFront (trace (step sampleCrypto) (fresh [] false [] sampleDevices)
      [(.register (bytes "lamp") [], .ok), (.clientCommand (sampleCommand "lamp" 1), .ok),
        (.coapReply 0 .ok, .ok), (.pushAlarm [bytes "lamp"], .ok)]) := by
  refine (readsFront_iff sampleCrypto [] false [] sampleDevices _ ?_).mpr ?_
  · simp [Env.ok_sqlOk]
  · decide

/-- One command is executed, reported and confirmed by the cloud. -/
def confirmedRun : List (Event × Env) :=
  [(.register (bytes "lamp") [], .ok), (.clientCommand (sampleCommand "lamp" 1), .ok),
    (.coapReply 0 .ok, .ok),
    (.commandDoneAck ⟨sampleText (bytes "lamp"), sampleNumber 1⟩, .ok)]

/-- The confirmation of the only executed command reads the front of an empty list. -/
theorem confirmedRun_reads_empty :
    (∀ e ∈ confirmedRun, e.2.SqlOk) ∧
    .readExecuted (bytes "lamp") [] ∈
      trace (step sampleCrypto) (fresh [] false [] sampleDevices) confirmedRun := by
  refine ⟨?_, by decide⟩
  simp [confirmedRun, Env.ok_sqlOk]

end State

end Atlas.Gateway
