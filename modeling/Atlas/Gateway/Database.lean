import Atlas.Gateway.Json
import Mathlib.Data.List.Nodup

/-! # The gateway database

The tables of `local.db` that the command path uses, and the `AtlasSQLite` functions over them.
Every function takes the outcome of its own SQL statements: a statement that fails has no effect and
makes the function return `false` (or the empty PSK). `insertDeviceCommand` runs three statements
and `selectDeviceCommand` steps once per row, so both can also fail half way.

Sequence numbers are bound and read as 32-bit integers on both sides, so the column is kept as the
`uint32_t` the callers pass.
-/

namespace Atlas.Gateway

/-- A row of `Device`. -/
structure DeviceRow where
  id : ℕ
  identity : StdString
  psk : StdString
deriving DecidableEq

/-- The `Device` table, with its primary key and its unique index. `AUTOINCREMENT` ids start at
1. -/
structure DeviceTable where
  rows : List DeviceRow
  id_nodup : (rows.map (·.id)).Nodup
  identity_nodup : (rows.map (·.identity)).Nodup
  id_pos : ∀ r ∈ rows, 0 < r.id

/-- A row of `DeviceCommand`. -/
structure DeviceCommandRow where
  deviceId : ℕ
  sequenceNumber : UInt32
  commandType : StdString
  commandPayload : StdString
  isExecuted : Bool
deriving DecidableEq

/-- The database: `DeviceCommand` in insertion order, and the only row of `GatewayMisc`. -/
structure Database where
  device : DeviceTable
  deviceCommand : List DeviceCommandRow
  maxSequenceNumber : UInt32

/-- Which of the three statements of one `insertDeviceCommand` call succeed. -/
structure InsertOutcome where
  getIdDevice : Bool
  insertDeviceCommand : Bool
  updateMaxSeqNo : Bool
deriving DecidableEq

namespace DeviceTable

/-- `SQL_GET_ID_DEVICE`. -/
def getIdDevice (t : DeviceTable) (identity : StdString) : Option ℕ :=
  (t.rows.find? (·.identity = identity)).map (·.id)

/-- The PSK of `SQL_SELECT_DEVICE`; a device that is not in the table has none. -/
def selectPsk (t : DeviceTable) (identity : StdString) : StdString :=
  match t.rows.find? (·.identity = identity) with
  | some d => ofCString d.psk
  | none => []

/-- The table has a PSK for this identity. -/
def HasPsk (t : DeviceTable) (identity : StdString) : Prop :=
  ∃ d, t.rows.find? (·.identity = identity) = some d ∧ ofCString d.psk ≠ []

theorem getIdDevice_of_hasPsk {t : DeviceTable} {identity : StdString} (h : t.HasPsk identity) :
    ∃ id, t.getIdDevice identity = some id := by
  obtain ⟨d, hfind, -⟩ := h
  exact ⟨d.id, by simp [getIdDevice, hfind]⟩

theorem selectPsk_ne_nil_iff {t : DeviceTable} {identity : StdString} :
    t.selectPsk identity ≠ [] ↔ t.HasPsk identity := by
  cases hfind : t.rows.find? (fun d => decide (d.identity = identity)) with
  | none => simp [selectPsk, HasPsk, hfind]
  | some d => simp [selectPsk, HasPsk, hfind]

/-- The `FOREIGN KEY (DeviceId) REFERENCES Device(Id)` constraint. -/
def hasId (t : DeviceTable) (id : ℕ) : Bool :=
  t.rows.any (·.id = id)

/-- The join condition `Device.Id == DeviceId` with `Device.Identity=?`. -/
def isDevice (t : DeviceTable) (identity : StdString) (id : ℕ) : Bool :=
  t.rows.any fun d => d.id = id ∧ d.identity = identity

/-- The join condition `Device.Id == DeviceCommand.DeviceId` with `Device.Identity=?`. -/
def owns (t : DeviceTable) (identity : StdString) (r : DeviceCommandRow) : Bool :=
  t.rows.any fun d => d.id = r.deviceId ∧ d.identity = identity

/-- Whether an id belongs to `identity` is decided by the id looked up for `identity`. -/
theorem isDevice_iff {t : DeviceTable} {identity : StdString} {id : ℕ} :
    t.isDevice identity id = true ↔ t.getIdDevice identity = some id := by
  simp only [isDevice, getIdDevice, List.any_eq_true, decide_eq_true_eq, Option.map_eq_some_iff]
  constructor
  · rintro ⟨d, hd, hid, hident⟩
    refine ⟨d, ?_, hid⟩
    cases hf : t.rows.find? (fun d => decide (d.identity = identity)) with
    | none => exact absurd hident (by simpa using List.find?_eq_none.mp hf d hd)
    | some d' =>
      have hd' := List.mem_of_find?_eq_some hf
      have hident' : d'.identity = identity := by simpa using List.find?_some hf
      -- identities are unique, so the row found is the row joined
      have := List.inj_on_of_nodup_map t.identity_nodup hd' hd (hident'.trans hident.symm)
      rw [this]
  · rintro ⟨d, hf, hid⟩
    exact ⟨d, List.mem_of_find?_eq_some hf, hid, by simpa using List.find?_some hf⟩

theorem owns_iff {t : DeviceTable} {identity : StdString} {r : DeviceCommandRow} :
    t.owns identity r = true ↔ t.getIdDevice identity = some r.deviceId :=
  isDevice_iff

/-- An id that was looked up satisfies the foreign key. -/
theorem hasId_of_getIdDevice {t : DeviceTable} {identity : StdString} {id : ℕ}
    (h : t.getIdDevice identity = some id) : t.hasId id = true := by
  simp only [getIdDevice, Option.map_eq_some_iff] at h
  obtain ⟨d, hf, rfl⟩ := h
  simp only [hasId, List.any_eq_true, decide_eq_true_eq]
  exact ⟨d, List.mem_of_find?_eq_some hf, rfl⟩

/-- Two identities with the same id are equal. -/
theorem getIdDevice_inj {t : DeviceTable} {i j : StdString} {id : ℕ}
    (hi : t.getIdDevice i = some id) (hj : t.getIdDevice j = some id) : i = j := by
  simp only [getIdDevice, Option.map_eq_some_iff] at hi hj
  obtain ⟨d, hd, rfl⟩ := hi
  obtain ⟨d', hd', hid⟩ := hj
  have heq := List.inj_on_of_nodup_map t.id_nodup (List.mem_of_find?_eq_some hd')
    (List.mem_of_find?_eq_some hd) hid
  have h1 : d.identity = i := by simpa using List.find?_some hd
  have h2 : d'.identity = j := by simpa using List.find?_some hd'
  rw [← h1, ← h2, heq]

end DeviceTable

namespace Database

/-- `AtlasSQLite::selectDevicePsk`. -/
def selectDevicePsk (ok : Bool) (identity : StdString) (db : Database) : StdString :=
  if ok then db.device.selectPsk identity else []

/-- A PSK is returned when the statement succeeds and the table has one. -/
theorem selectDevicePsk_ne_nil_iff {db : Database} {ok : Bool} {identity : StdString} :
    db.selectDevicePsk ok identity ≠ [] ↔ ok = true ∧ db.device.HasPsk identity := by
  cases ok with
  | false => simp [selectDevicePsk]
  | true => simp [selectDevicePsk, DeviceTable.selectPsk_ne_nil_iff]

/-- `AtlasSQLite::updateMaxSequenceNumber`. -/
def updateMaxSequenceNumber (ok : Bool) (sequenceNumber : UInt32) (db : Database) :
    Bool × Database :=
  if ok then (true, { db with maxSequenceNumber := sequenceNumber }) else (false, db)

/-- The row that the first two statements of `insertDeviceCommand` leave in the table, if both
succeed. `sqlite3_column_int` of a look-up without a row is 0, which no device has as its id. -/
def insertedRow (ok : InsertOutcome) (sequenceNumber : UInt32)
    (commandType commandPayload deviceIdentity : StdString) (db : Database) :
    Option DeviceCommandRow :=
  if ok.getIdDevice then
    let deviceId := (db.device.getIdDevice deviceIdentity).getD 0
    if ok.insertDeviceCommand && db.device.hasId deviceId then
      some ⟨deviceId, sequenceNumber, commandType, commandPayload, false⟩
    else none
  else none

/-- A row is inserted exactly for a device of the table, under that device's id. -/
theorem insertedRow_eq_some_iff {db : Database} {ok : InsertOutcome} {n : UInt32}
    {type payload identity : StdString} {row : DeviceCommandRow} :
    db.insertedRow ok n type payload identity = some row ↔
      ok.getIdDevice = true ∧ ok.insertDeviceCommand = true ∧
        ∃ id, db.device.getIdDevice identity = some id ∧ row = ⟨id, n, type, payload, false⟩ := by
  cases hid : db.device.getIdDevice identity with
  | none =>
    have hno : db.device.hasId 0 = false := by
      simp only [DeviceTable.hasId, List.any_eq_false, decide_eq_true_eq]
      exact fun r hr => (db.device.id_pos r hr).ne'
    simp [insertedRow, hid, hno]
  | some id =>
    have hhas := DeviceTable.hasId_of_getIdDevice hid
    cases h1 : ok.getIdDevice <;> cases h2 : ok.insertDeviceCommand <;>
      simp [insertedRow, hid, hhas, h1, h2, eq_comm]

/-- `AtlasSQLite::insertDeviceCommand`. -/
def insertDeviceCommand (ok : InsertOutcome) (sequenceNumber : UInt32)
    (commandType commandPayload deviceIdentity : StdString) (db : Database) : Bool × Database :=
  match db.insertedRow ok sequenceNumber commandType commandPayload deviceIdentity with
  | none => (false, db)
  | some row =>
    updateMaxSequenceNumber ok.updateMaxSeqNo sequenceNumber
      { db with deviceCommand := db.deviceCommand ++ [row] }

/-- `AtlasSQLite::checkDeviceCommandBySeqNo`. -/
def checkDeviceCommandBySeqNo (ok : Bool) (sequenceNumber : UInt32) (db : Database) : Bool :=
  ok && db.deviceCommand.any (·.sequenceNumber = sequenceNumber)

/-- `AtlasSQLite::checkDeviceCommandByIdentity`. -/
def checkDeviceCommandByIdentity (ok : Bool) (identity : StdString) (db : Database) : Bool :=
  ok && db.deviceCommand.any (db.device.owns identity)

/-- `AtlasSQLite::checkDeviceCommandForExecution`. -/
def checkDeviceCommandForExecution (ok : Bool) (sequenceNumber : UInt32) (db : Database) : Bool :=
  ok && db.deviceCommand.any fun r => r.sequenceNumber = sequenceNumber ∧ r.isExecuted

/-- `AtlasSQLite::markExecutedDeviceCommand`. -/
def markExecutedDeviceCommand (ok : Bool) (sequenceNumber : UInt32) (db : Database) :
    Bool × Database :=
  if ok then
    (true, { db with
      deviceCommand := db.deviceCommand.map fun r =>
        if r.sequenceNumber = sequenceNumber then { r with isExecuted := true } else r })
  else (false, db)

/-- `AtlasSQLite::deleteDeviceCommand`. -/
def deleteDeviceCommand (ok : Bool) (sequenceNumber : UInt32) (db : Database) : Bool × Database :=
  if ok then
    (true, { db with
      deviceCommand := db.deviceCommand.filter (·.sequenceNumber ≠ sequenceNumber) })
  else (false, db)

/-- The result set of `SQL_GET_DEVICE_COMMAND_BY_IDENTITY`, in insertion order. -/
def getDeviceCommandByIdentity (identity : StdString) (db : Database) : List DeviceCommandRow :=
  db.deviceCommand.filter (db.device.owns identity)

/-- `AtlasSQLite::getMaxSequenceNumber`: the number it hands to `setSequenceNumber`. -/
def getMaxSequenceNumber (ok : Bool) (db : Database) : Option UInt32 :=
  if ok then some db.maxSequenceNumber else none

end Database

end Atlas.Gateway
