import Atlas.Gateway.Reload

/-! # Storing a command

`insertDeviceCommand` runs three statements without a transaction: it looks the device up, inserts
the row, and updates the stored maximum. A failure of one of the first two leaves the database as it
was. A failure of the last one leaves the row behind: the command is refused, and its
retransmission, which is new again, inserts a second row.

Reference: `sql/AtlasSQLite.cpp` (`insertDeviceCommand`, `updateMaxSequenceNumber`),
`claim_approve/AtlasApprove.cpp` (`handleClientCommand`).
-/

namespace Atlas.Gateway.State

variable {crypto : Crypto} {env : Env} {g : State} {p : CommandPayload} {n : UInt32}
  {clientIdentity type : StdString}

/-- The command gets as far as `insertDeviceCommand`, and there only the update of the maximum
fails. -/
def failsHalfWay (env : Env) (clientIdentity : StdString) (payload : JsonValue) (g : State) :
    Bool :=
  g.knows env.selectDevicePsk clientIdentity && payload.asString.isSome &&
    env.insertDeviceCommand.getIdDevice && (g.db.device.getIdDevice clientIdentity).isSome &&
    env.insertDeviceCommand.insertDeviceCommand && !env.insertDeviceCommand.updateMaxSeqNo

/-- A refused command leaves the table, the stored maximum and the counter as they were, so that its
retransmission, once it is accepted, has the only row with its number. -/
structure AllOrNothing (crypto : Crypto) (env : Env) (p : CommandPayload) (n : UInt32)
    (g : State) : Prop where
  deviceCommand : (handleClientCommand crypto env p g).gateway.db.deviceCommand = g.db.deviceCommand
  maxSequenceNumber :
    (handleClientCommand crypto env p g).gateway.db.maxSequenceNumber = g.db.maxSequenceNumber
  sequenceNumber : (handleClientCommand crypto env p g).gateway.sequenceNumber = g.sequenceNumber
  retransmission : n ∉ g.numbers → ∀ env',
    let r := handleClientCommand crypto env' p (handleClientCommand crypto env p g).gateway
    appended r.effects ≠ [] → r.gateway.numbers.count n = 1

/-! ## What one command stores -/

/-- The acknowledgement and the push of a stored command leave the database alone. -/
theorem acceptCommand_db_of_stored {g₁ : State} {d : Device} {payload : StdString}
    {json : JsonValue}
    {row : DeviceCommandRow} (hget : getDevice env clientIdentity g = (g₁, some d))
    (hpayload : json.asString = some payload)
    (hrow : g.db.insertedRow env.insertDeviceCommand n type payload clientIdentity = some row)
    (hmax : env.insertDeviceCommand.updateMaxSeqNo = true) :
    (acceptCommand env n clientIdentity type json g).gateway.db.deviceCommand =
        g.db.deviceCommand ++ [row] ∧
      appended (acceptCommand env n clientIdentity type json g).effects = [n] := by
  have hdb := getDevice_db_eq hget
  obtain ⟨ws, heff, hpath⟩ := acceptCommand_path env g hget hpayload (hdb ▸ hrow) hmax
  obtain ⟨-, happ, -, -⟩ := counter_of_path hpath
  refine ⟨?_, by rw [heff, appended_append, happ]; rfl⟩
  simp only [acceptCommand, hget, hpayload, Database.insertDeviceCommand,
    Database.updateMaxSequenceNumber, hdb, hrow, hmax, if_true]
  split <;> simp

/-- What `acceptCommand` does to the database: nothing, or it stores the row, and then the command
is accepted unless the update of the maximum failed. -/
theorem acceptCommand_stores (env : Env) (n : UInt32) (clientIdentity type : StdString)
    (json : JsonValue) (g : State) :
    let r := acceptCommand env n clientIdentity type json g
    (r.gateway.db = g.db ∧ r.gateway.sequenceNumber = g.sequenceNumber ∧ appended r.effects = [] ∧
      failsHalfWay env clientIdentity json g = false) ∨
    ∃ row : DeviceCommandRow, row.sequenceNumber = n ∧
      r.gateway.db.deviceCommand = g.db.deviceCommand ++ [row] ∧
      (appended r.effects = [] ∧ failsHalfWay env clientIdentity json g = true ∨
        appended r.effects = [n] ∧ failsHalfWay env clientIdentity json g = false) := by
  intro r
  have hknows := getDevice_isSome env clientIdentity g
  cases hget : getDevice env clientIdentity g with
  | mk g₁ device =>
  have hdb := getDevice_db_eq hget
  have hseq : (getDevice env clientIdentity g).1.sequenceNumber = g.sequenceNumber :=
    getDevice_sequenceNumber
  rw [hget] at hknows hseq
  have hrefuse (hgateway : r.gateway = { g₁ with db := g.db }) (heff : r.effects = [])
      (hhalf : failsHalfWay env clientIdentity json g = false) :
      r.gateway.db = g.db ∧ r.gateway.sequenceNumber = g.sequenceNumber ∧ appended r.effects = [] ∧
        failsHalfWay env clientIdentity json g = false :=
    ⟨by rw [hgateway], by rw [hgateway]; exact hseq, by rw [heff]; rfl, hhalf⟩
  cases device with
  | none =>
    refine .inl (hrefuse ?_ ?_ ?_)
    · simp [r, acceptCommand, hget, ← hdb]
    · simp [r, acceptCommand, hget]
    · simp [failsHalfWay, ← hknows]
  | some d =>
  cases hpayload : json.asString with
  | none =>
    refine .inl (hrefuse ?_ ?_ ?_)
    · simp [r, acceptCommand, hget, hpayload, ← hdb]
    · simp [r, acceptCommand, hget, hpayload]
    · simp [failsHalfWay, hpayload]
  | some payload =>
  cases hrow : g.db.insertedRow env.insertDeviceCommand n type payload clientIdentity with
  | none =>
    refine .inl (hrefuse ?_ ?_ ?_)
    · simp [r, acceptCommand, hget, hpayload, hdb, hrow, Database.insertDeviceCommand]
    · simp [r, acceptCommand, hget, hpayload, hdb, hrow, Database.insertDeviceCommand]
    · -- one of the first two statements failed, or the device is not in the table
      rw [← Bool.not_eq_true]
      intro hhalf
      simp only [failsHalfWay, Bool.and_eq_true, Option.isSome_iff_exists] at hhalf
      obtain ⟨⟨⟨⟨-, hlookup⟩, id, hid⟩, hinsert⟩, -⟩ := hhalf
      rw [Database.insertedRow_eq_some_iff.mpr ⟨hlookup, hinsert, id, hid, rfl⟩] at hrow
      cases hrow
  | some row =>
    obtain ⟨hlookup, hinsert, id, hid, hrow'⟩ := Database.insertedRow_eq_some_iff.mp hrow
    have hhalf : failsHalfWay env clientIdentity json g =
        !env.insertDeviceCommand.updateMaxSeqNo := by
      simp [failsHalfWay, ← hknows, hpayload, hlookup, hid, hinsert]
    refine .inr ⟨row, by rw [hrow'], ?_⟩
    cases hmax : env.insertDeviceCommand.updateMaxSeqNo with
    | false =>
      have hrefused : r = ⟨{ g₁ with
          db := { g₁.db with deviceCommand := g₁.db.deviceCommand ++ [row] } },
          [.insertRow row], .ok false⟩ := by
        simp [r, acceptCommand, hget, hpayload, hdb, hrow, hmax, Database.insertDeviceCommand,
          Database.updateMaxSequenceNumber]
      exact ⟨by rw [hrefused, hdb], .inl ⟨by rw [hrefused]; rfl, by rw [hhalf, hmax]; rfl⟩⟩
    | true =>
      obtain ⟨hstored, happ⟩ := acceptCommand_db_of_stored hget hpayload hrow hmax
      exact ⟨hstored, .inr ⟨happ, by rw [hhalf, hmax]; rfl⟩⟩

/-- A command with a new number is handed to `acceptCommand`. -/
theorem handleClientCommand_of_new (env : Env)
    (hcheck : checkCommand crypto g p = .ok (some (clientIdentity, type)))
    (hseq : p.seqNo.asUInt = some n) (hlt : g.sequenceNumber < n) :
    handleClientCommand crypto env p g = acceptCommand env n clientIdentity type p.payload g := by
  simp only [handleClientCommand, hcheck, hseq]
  rw [if_neg (by simpa [UInt32.lt_iff_toNat_lt, UInt32.le_iff_toNat_le] using hlt)]

/-- An old command is never queued again. -/
theorem appended_handleOldCommand (env : Env) (n : UInt32) (clientIdentity : StdString)
    (g : State) : appended (handleOldCommand env n clientIdentity g).effects = [] := by
  simp only [handleOldCommand]
  split
  · split
    · exact (counter_of_path (responseCommandDONE_path env clientIdentity _)).2.1
    · exact (counter_of_path (responseCommandACK_path env _)).2.1
  · rfl

/-- A command that is accepted adds one row with its number. -/
theorem numbers_of_appended (env : Env) (hseq : p.seqNo.asUInt = some n)
    (happ : appended (handleClientCommand crypto env p g).effects ≠ []) :
    (handleClientCommand crypto env p g).gateway.numbers = g.numbers ++ [n] := by
  cases hcheck : checkCommand crypto g p with
  | error e => exact absurd (by simp [handleClientCommand, hcheck, appended]) happ
  | ok checked =>
  cases checked with
  | none => exact absurd (by simp [handleClientCommand, hcheck, appended]) happ
  | some fields =>
  obtain ⟨clientIdentity, type⟩ := fields
  by_cases hle : n ≤ g.sequenceNumber
  · refine absurd ?_ happ
    simp only [handleClientCommand, hcheck, hseq, hle, if_true]
    exact appended_handleOldCommand env n clientIdentity g
  · have hlt : g.sequenceNumber < n := by
      simpa [UInt32.lt_iff_toNat_lt, UInt32.le_iff_toNat_le] using hle
    rw [handleClientCommand_of_new env hcheck hseq hlt] at happ ⊢
    rcases acceptCommand_stores env n clientIdentity type p.payload g with
      ⟨-, -, hnone, -⟩ | ⟨row, hnumber, hdb, -⟩
    · exact absurd hnone happ
    · rw [numbers, hdb, List.map_append, numbers]
      simp [hnumber]

/-! ## All or nothing -/

/-- Take a command that passes the checks with a new number. If it is refused, the database and the
counter are as before and its retransmission has one row, exactly when it is not the update of the
maximum alone that fails. -/
theorem allOrNothing_iff (crypto : Crypto) (env : Env) (p : CommandPayload) (g : State)
    {clientIdentity type : StdString} {n : UInt32}
    (hcheck : checkCommand crypto g p = .ok (some (clientIdentity, type)))
    (hseq : p.seqNo.asUInt = some n) (hlt : g.sequenceNumber < n) :
    (appended (handleClientCommand crypto env p g).effects = [] → AllOrNothing crypto env p n g) ↔
      failsHalfWay env clientIdentity p.payload g = false := by
  have hnew := handleClientCommand_of_new env hcheck hseq hlt
  rcases acceptCommand_stores env n clientIdentity type p.payload g with
    ⟨hdb, hcounter, -, hhalf⟩ | ⟨row, -, hdb, ⟨happ, hhalf⟩ | ⟨happ, hhalf⟩⟩
  · refine ⟨fun _ => hhalf, fun _ _ => ⟨?_, ?_, ?_, ?_⟩⟩
    · rw [hnew, hdb]
    · rw [hnew, hdb]
    · rw [hnew, hcounter]
    · intro hfresh env' r hr
      rw [numbers_of_appended env' hseq hr, hnew, numbers, hdb, List.count_append, ← numbers,
        List.count_eq_zero.mpr hfresh]
      simp
  · -- the row of the refused command stays
    refine iff_of_false (fun h => ?_) (by simp [hhalf])
    have hsame := (h (by rw [hnew]; exact happ)).deviceCommand
    rw [hnew, hdb] at hsame
    simp at hsame
  · refine ⟨fun _ => hhalf, fun _ hnone => ?_⟩
    rw [hnew, happ] at hnone
    cases hnone

/-- The outcomes under which only the update of the maximum fails. -/
def maxFails : Env := { Env.ok with insertDeviceCommand := ⟨true, true, false⟩ }

/-- The outcomes under which only the insertion of the row fails. -/
def insertFails : Env := { Env.ok with insertDeviceCommand := ⟨true, false, true⟩ }

/-- The theorem where the row cannot be inserted. -/
theorem allOrNothing_of_insertFails :
    AllOrNothing sampleCrypto insertFails (sampleCommand "lamp" 1) 1
      (fresh [] false [] sampleDevices) :=
  (allOrNothing_iff sampleCrypto insertFails (sampleCommand "lamp" 1)
    (fresh [] false [] sampleDevices) (by rfl) (by rfl) (by decide)).mpr (by decide) (by decide)

/-- The maximum cannot be updated: the command is refused with its row in the table, and its
retransmission inserts a second one. -/
theorem maxFails_leaves_two_rows :
    let g := (handleClientCommand sampleCrypto maxFails (sampleCommand "lamp" 1)
      (fresh [] false [] sampleDevices)).gateway
    appended (handleClientCommand sampleCrypto maxFails (sampleCommand "lamp" 1)
      (fresh [] false [] sampleDevices)).effects = [] ∧
    g.numbers = [1] ∧ g.db.maxSequenceNumber = 0 ∧ g.sequenceNumber = 0 ∧
    (handleClientCommand sampleCrypto Env.ok (sampleCommand "lamp" 1) g).gateway.numbers = [1, 1] ∧
    ¬ AllOrNothing sampleCrypto maxFails (sampleCommand "lamp" 1) 1
      (fresh [] false [] sampleDevices) := by
  refine ⟨by decide, by decide, by decide, by decide, by decide, fun h => ?_⟩
  exact absurd h.deviceCommand (by decide)

end Atlas.Gateway.State
