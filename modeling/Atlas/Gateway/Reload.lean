import Atlas.Gateway.AtMostOnce
import Atlas.Gateway.Queues
import Atlas.Lib.Lists

/-! # Queues in memory and in the database

The rows of a client are its executed commands followed by its received ones: execution takes the
front of the received list and a confirmation the front of the executed one, so the two in-memory
lists stay the two halves of the client's rows. What a reload reads back are C strings, so it
returns the same commands exactly when no type or payload holds a NUL byte.
-/

namespace Atlas.Gateway

open EventMachine

/-- `insertDeviceCommand` is all or nothing: it does not insert a row and then fail. -/
def Env.InsertAtomic (env : Env) : Prop :=
  env.insertDeviceCommand.getIdDevice = true → env.insertDeviceCommand.insertDeviceCommand = true →
    env.insertDeviceCommand.updateMaxSeqNo = true

/-- A command without its `inProgress` flag. -/
def CommandDevice.idle (cmd : CommandDevice) : CommandDevice := { cmd with inProgress := false }

/-- The row of a command of the device `deviceId`. -/
def CommandDevice.row (deviceId : ℕ) (isExecuted : Bool) (cmd : CommandDevice) : DeviceCommandRow :=
  ⟨deviceId, cmd.sequenceNumber, cmd.commandTypeCloud, cmd.commandPayload, isExecuted⟩

/-- The type and the payload hold no NUL byte. -/
def CommandDevice.NulFree (cmd : CommandDevice) : Prop :=
  0 ∉ cmd.commandTypeCloud ∧ 0 ∉ cmd.commandPayload

namespace State

variable {crypto : Crypto} {env : Env} {g g' : State} {ws : List Effect} {identity : StdString}
  {d : Device} {n : UInt32}

/-- A device created anew from the database. -/
def reload (db : Database) (d : Device) : Device :=
  ((Device.new d.identity d.psk).selectDeviceCommand none db).2

/-- Reloading any device in memory yields the lists in memory. -/
def Reloads (g : State) : Prop :=
  ∀ identity d, g.devices identity = some d →
    (reload g.db d).recvCmds.map CommandDevice.idle = d.recvCmds.map CommandDevice.idle ∧
    (reload g.db d).execCmds.map CommandDevice.idle = d.execCmds.map CommandDevice.idle

/-- The event is a command with a new number for a known client that the database stores, and its
type or its payload holds a NUL byte. -/
def storesNul (crypto : Crypto) (g : State) (e : Event × Env) : Bool :=
  match e.1 with
  | .clientCommand p =>
    match checkCommand crypto g p, p.seqNo.asUInt, p.payload.asString with
    | .ok (some (clientIdentity, type)), some n, some payload =>
      g.sequenceNumber < n && g.knows e.2.selectDevicePsk clientIdentity &&
        (g.db.insertedRow e.2.insertDeviceCommand n type payload clientIdentity).isSome &&
        (0 ∈ type || 0 ∈ payload)
    | _, _, _ => false
  | _ => false

/-- The sequence numbers in `DeviceCommand`. -/
def numbers (g : State) : List UInt32 := g.db.deviceCommand.map (·.sequenceNumber)

/-! ## Rows of one client -/

theorem rows_append {db : Database} {id : ℕ} (row : DeviceCommandRow)
    (hid : db.device.getIdDevice identity = some id) (hrow : row.deviceId = id) (j : StdString) :
    { db with deviceCommand := db.deviceCommand ++ [row] }.getDeviceCommandByIdentity j =
      db.getDeviceCommandByIdentity j ++ if j = identity then [row] else [] := by
  have howns : db.device.owns j row = decide (j = identity) := by
    rw [Bool.eq_iff_iff, DeviceTable.owns_iff, decide_eq_true_eq, hrow]
    exact ⟨fun h => DeviceTable.getIdDevice_inj h hid, fun h => h ▸ hid⟩
  simp only [Database.getDeviceCommandByIdentity, List.filter_append, List.filter_cons, howns,
    List.filter_nil, decide_eq_true_eq]

theorem rows_mark (db : Database) (n : UInt32) (j : StdString) :
    (db.markExecutedDeviceCommand true n).2.getDeviceCommandByIdentity j =
      (db.getDeviceCommandByIdentity j).map fun r =>
        if r.sequenceNumber = n then { r with isExecuted := true } else r := by
  have howns : ∀ r : DeviceCommandRow, db.device.owns j
      (if r.sequenceNumber = n then { r with isExecuted := true } else r) =
      db.device.owns j r := by
    intro r
    split <;> rfl
  simp only [Database.markExecutedDeviceCommand, if_true, Database.getDeviceCommandByIdentity,
    List.filter_map]
  congr 2
  funext r
  exact howns r

theorem numbers_mark (db : Database) (n : UInt32) :
    (db.markExecutedDeviceCommand true n).2.deviceCommand.map (·.sequenceNumber) =
      db.deviceCommand.map (·.sequenceNumber) := by
  simp only [Database.markExecutedDeviceCommand, if_true, List.map_map]
  refine List.map_congr_left fun r _ => ?_
  simp only [Function.comp]
  split <;> rfl

theorem rows_delete (db : Database) (n : UInt32) (j : StdString) :
    (db.deleteDeviceCommand true n).2.getDeviceCommandByIdentity j =
      (db.getDeviceCommandByIdentity j).filter (·.sequenceNumber ≠ n) := by
  simp only [Database.deleteDeviceCommand, if_true, Database.getDeviceCommandByIdentity,
    List.filter_filter, Bool.and_comm]

/-- With different numbers, a number stored for one client is not stored for another. -/
theorem number_ne_of_rows (hnodup : g.numbers.Nodup) {r : DeviceCommandRow}
    (hr : r ∈ g.db.getDeviceCommandByIdentity identity) {j : StdString} (hj : j ≠ identity) :
    ∀ r' ∈ g.db.getDeviceCommandByIdentity j, r'.sequenceNumber ≠ r.sequenceNumber := by
  intro r' hr' heq
  rw [Database.getDeviceCommandByIdentity, List.mem_filter, DeviceTable.owns_iff] at hr hr'
  obtain rfl := List.inj_on_of_nodup_map hnodup hr'.1 hr.1 heq
  exact hj (DeviceTable.getIdDevice_inj hr'.2 hr.2)

/-! ## The invariant -/

/-- The rows of a device: its executed commands, then its received ones. -/
structure DeviceStored (db : Database) (identity : StdString) (d : Device) : Prop where
  typed : ∀ cmd ∈ d.recvCmds ++ d.execCmds,
    cmd.commandTypeDevice = CommandDevice.typeOfCloud cmd.commandTypeCloud
  rows : ∃ id, db.device.getIdDevice identity = some id ∧
    db.getDeviceCommandByIdentity identity =
      d.execCmds.map (CommandDevice.row id true) ++ d.recvCmds.map (CommandDevice.row id false)

/-- The rows of every client are those of its device, and no number is stored twice. -/
structure Stored (g : State) : Prop where
  wellFormed : g.WellFormed
  nodup : g.numbers.Nodup
  device : ∀ identity d, g.devices identity = some d → DeviceStored g.db identity d
  unloaded : ∀ identity, g.devices identity = none → g.db.getDeviceCommandByIdentity identity = []

theorem fresh_stored (identity : StdString) (claimed : Bool) (key : StdString)
    (device : DeviceTable) : (fresh identity claimed key device).Stored where
  wellFormed := fresh_wellFormed identity claimed key device
  nodup := .nil
  device i d h := by simp [fresh] at h
  unloaded i _ := rfl

/-- To keep the rows while one device and its rows change it is enough to look at that client. -/
theorem Stored.setDevice {g₀ : State} (hg : g.Stored)
    (hwf : (g₀.setDevice identity d).WellFormed) (hdev : g₀.devices = g.devices)
    (hnodup : g₀.numbers.Nodup) (hdevice : g₀.db.device = g.db.device)
    (hother : ∀ j, j ≠ identity →
      g₀.db.getDeviceCommandByIdentity j = g.db.getDeviceCommandByIdentity j)
    (hd : DeviceStored g₀.db identity d) : (g₀.setDevice identity d).Stored := by
  refine ⟨hwf, hnodup, fun j d' h => ?_, fun j h => ?_⟩ <;> by_cases hj : j = identity
  · subst hj
    rw [setDevice_devices_self, Option.some.injEq] at h
    exact h ▸ hd
  · rw [setDevice_devices_of_ne hj, hdev] at h
    obtain ⟨htyped, id, hid, hrows⟩ := hg.device j d' h
    exact ⟨htyped, id, hdevice ▸ hid, (hother j hj).trans hrows⟩
  · subst hj
    simp at h
  · rw [setDevice_devices_of_ne hj, hdev] at h
    exact (hother j hj).trans (hg.unloaded j h)

/-- The flags of the received commands do not matter for the rows. -/
theorem DeviceStored.congr {db : Database} {d' : Device} (h : DeviceStored db identity d)
    (hrecv : d'.recvCmds.map CommandDevice.idle = d.recvCmds.map CommandDevice.idle)
    (hexec : d'.execCmds = d.execCmds) : DeviceStored db identity d' := by
  obtain ⟨htyped, id, hid, hrows⟩ := h
  refine ⟨fun cmd hcmd => ?_, id, hid, ?_⟩
  · rcases List.mem_append.mp hcmd with hcmd | hcmd
    · have hidle : cmd.idle ∈ d.recvCmds.map CommandDevice.idle := hrecv ▸ List.mem_map_of_mem hcmd
      obtain ⟨c, hc, heq⟩ := List.mem_map.mp hidle
      simp only [CommandDevice.idle, CommandDevice.mk.injEq] at heq
      rw [← heq.2.2.2.1, ← heq.2.2.1]
      exact htyped c (List.mem_append_left _ hc)
    · exact htyped cmd (List.mem_append_right _ (hexec ▸ hcmd))
  · have hrow : ∀ cmds : List CommandDevice, cmds.map (CommandDevice.row id false) =
        (cmds.map CommandDevice.idle).map (CommandDevice.row id false) := by
      intro cmds
      rw [List.map_map]
      rfl
    rw [hrows, hexec, hrow, ← hrecv, ← hrow]

/-! ## Moves -/

theorem Move.stored (h : Move env g ws g') (hg : g.Stored) : g'.Stored := by
  have hwf := h.wellFormed hg.wellFormed
  cases h with
  | ack | done => exact ⟨hwf, hg.nodup, hg.device, hg.unloaded⟩
  | @load identity hd hpsk =>
    -- a client that is not in memory has no rows, so it is loaded with empty queues
    have hrows := hg.unloaded identity hd
    obtain ⟨rows, hpre, hload⟩ := loaded_eq env identity g
    rw [hrows, List.prefix_nil] at hpre
    subst hpre
    obtain ⟨id, hid⟩ :=
      DeviceTable.getIdDevice_of_hasPsk (Database.selectDevicePsk_ne_nil_iff.mp hpsk).2
    refine hg.setDevice hwf rfl hg.nodup rfl (fun _ _ => rfl) ⟨?_, id, hid, ?_⟩
    · rw [hload]
      simp [Device.new]
    · rw [hrows, hload]
      rfl
  | touch hd hidentity hrecv hexec =>
    refine hg.setDevice hwf rfl hg.nodup rfl (fun _ _ => rfl) ?_
    exact (hg.device _ _ hd).congr (by rw [hrecv]) hexec
  | push hd hrecv =>
    refine hg.setDevice hwf rfl hg.nodup rfl (fun _ _ => rfl) ?_
    exact (hg.device _ _ hd).congr (by simp [hrecv, CommandDevice.idle]) rfl
  | @confirm identity d cmd rest hd hexec =>
    obtain ⟨htyped, id, hid, hrows⟩ := hg.device identity d hd
    have hmem : cmd.row id true ∈ g.db.getDeviceCommandByIdentity identity := by
      rw [hrows, hexec]
      simp
    have hkeys : ((g.db.getDeviceCommandByIdentity identity).map (·.sequenceNumber)).Nodup :=
      hg.nodup.sublist (List.filter_sublist.map _)
    rw [hrows, hexec, List.map_cons, List.cons_append, ← List.nil_append (_ :: _)] at hkeys
    refine hg.setDevice hwf rfl ?_ rfl (fun j hj => ?_) ⟨?_, id, hid, ?_⟩
    · exact hg.nodup.sublist (List.filter_sublist.map _)
    · rw [rows_delete, List.filter_eq_self]
      exact fun r hr => decide_eq_true (number_ne_of_rows hg.nodup hmem hj r hr)
    · intro c hc
      refine htyped c ?_
      rcases List.mem_append.mp hc with h | h
      · exact List.mem_append_left _ h
      · exact List.mem_append_right _ (List.mem_of_mem_tail h)
    · rw [rows_delete, hrows, hexec, List.map_cons, List.cons_append,
        ← List.nil_append (_ :: _)]
      refine (List.filter_key_ne_of_nodup hkeys).trans ?_
      simp [Device.removeExecutedCommand, hexec]

theorem stored_of_path (p : Path (Move env) g ws g') (hg : g.Stored) : g'.Stored :=
  p.preserves Move.stored hg

/-! ## Steps -/

/-- A new number is stored and queued. -/
theorem Stored.accepted {row : DeviceCommandRow} {type payload : StdString} (hg : g.Stored)
    (hd : g.devices identity = some d)
    (hrow : g.db.insertedRow env.insertDeviceCommand n type payload identity = some row)
    (hnew : (g.numbers ++ [n]).Nodup) :
    (g.accepted identity d row (CommandDevice.new identity n type payload)).Stored := by
  obtain ⟨htyped, id, hid, hrows⟩ := hg.device identity d hd
  obtain ⟨-, -, id', hid', rfl⟩ := Database.insertedRow_eq_some_iff.mp hrow
  obtain rfl : id = id' := by simpa [hid] using hid'
  have hwf := hg.wellFormed.setDevice ((hg.wellFormed identity d hd).addRecv n type payload)
  have hother := fun j => rows_append ⟨id, n, type, payload, false⟩ hid rfl j
  refine hg.setDevice hwf rfl ?_ rfl (fun j hj => ?_) ⟨?_, id, hid, ?_⟩
  · simpa [numbers, CommandDevice.new] using hnew
  · have hj' := hother j
    rw [if_neg hj, List.append_nil] at hj'
    exact hj'
  · intro cmd hcmd
    simp only [Device.addRecvDeviceCommand, List.append_assoc, List.mem_append,
      List.mem_singleton] at hcmd
    rcases hcmd with h | rfl | h
    · exact htyped cmd (List.mem_append_left _ h)
    · rfl
    · exact htyped cmd (List.mem_append_right _ h)
  · have hself := hother identity
    rw [if_pos rfl, hrows] at hself
    refine hself.trans ?_
    simp [Device.addRecvDeviceCommand, CommandDevice.row, CommandDevice.new]

/-- The front command is executed and marked. -/
theorem Stored.executed {g₀ : State} {cmd : CommandDevice} {rest : List CommandDevice}
    {timeouts : UInt8} (hg : g.Stored) (hdev : g₀.devices = g.devices) (hdb : g₀.db = g.db)
    (hd : g.devices identity = some d) (hrecv : d.recvCmds = cmd :: rest) :
    (g₀.executed identity { d with deviceCmdTimeouts := timeouts } cmd rest).Stored := by
  obtain ⟨htyped, id, hid, hrows⟩ := hg.device identity d hd
  rw [hrecv] at htyped hrows
  have hmem : cmd.row id false ∈ g.db.getDeviceCommandByIdentity identity := by
    rw [hrows]
    simp
  have hkeys : ((g.db.getDeviceCommandByIdentity identity).map (·.sequenceNumber)).Nodup :=
    hg.nodup.sublist (List.filter_sublist.map _)
  rw [hrows, List.map_cons] at hkeys
  have hwf₀ : g₀.WellFormed := fun j d' h => hg.wellFormed j d' (hdev ▸ h)
  have hd' := (hg.wellFormed identity d hd).executed (t := timeouts) hrecv
  refine hg.setDevice (WellFormed.setDevice hwf₀ hd') hdev ?_ (by rw [hdb]; rfl) (fun j hj => ?_)
    ⟨?_, id, ?_, ?_⟩ <;> simp only [hdb]
  · simp only [numbers, numbers_mark]
    exact hg.nodup
  · rw [rows_mark]
    refine (List.map_congr_left fun r hr => ?_).trans (List.map_id' _)
    exact if_neg (number_ne_of_rows hg.nodup hmem hj r hr)
  · intro c hc
    refine htyped c ?_
    simp only [List.mem_append, List.mem_cons, List.not_mem_nil, or_false] at hc ⊢
    tauto
  · exact hid
  · rw [rows_mark, hrows, List.map_cons]
    refine (List.map_ite_key_of_nodup (fun r => { r with isExecuted := true }) hkeys).trans ?_
    simp [CommandDevice.row]

theorem Transition.stored {e : Event} (h : Transition crypto env g e ws g') (hg : g.Stored)
    (hatomic : env.InsertAtomic) (hrestart : e ≠ .restart)
    (hnew : (g.numbers ++ appended ws).Nodup) : g'.Stored := by
  have hwf := h.wellFormed hg.wellFormed
  cases h with
  | moves p => exact stored_of_path p hg
  | old _ _ _ _ q =>
    exact stored_of_path q ⟨hg.wellFormed, hg.nodup, hg.device, hg.unloaded⟩
  | insert _ _ _ _ _ hrow hmax =>
    obtain ⟨h1, h2, -⟩ := Database.insertedRow_eq_some_iff.mp hrow
    simp [hatomic h1 h2] at hmax
  | accept _ _ _ hget _ hrow _ q =>
    have hg₁ := stored_of_path (path_of_getDevice hget (.refl _)) hg
    have hdb := getDevice_db_eq hget
    refine stored_of_path q (hg₁.accepted (getDevice_devices hget) (hdb ▸ hrow) ?_)
    rw [appended_append, (counter_of_path q).2.1] at hnew
    rw [numbers, hdb]
    exact hnew
  | stray => exact ⟨hg.wellFormed, hg.nodup, hg.device, hg.unloaded⟩
  | executed _ hd hrecv _ q =>
    exact stored_of_path q (hg.executed rfl rfl hd hrecv)
  | kept _ hd hrecv _ q =>
    obtain ⟨hi, hr, he⟩ := hg.wellFormed _ _ hd
    refine stored_of_path q (hg.setDevice ?_ rfl hg.nodup rfl (fun _ _ => rfl) ?_)
    · exact WellFormed.setDevice hg.wellFormed ⟨hi, hr, he⟩
    · exact (hg.device _ _ hd).congr rfl rfl
  | returned _ _ hd hrecv q =>
    refine stored_of_path q (hg.setDevice ?_ rfl hg.nodup rfl (fun _ _ => rfl) ?_)
    · exact WellFormed.setDevice hg.wellFormed ((hg.wellFormed _ _ hd).returned hrecv)
    · exact (hg.device _ _ hd).congr (by simp [hrecv, CommandDevice.idle]) rfl
  | restart => exact absurd rfl hrestart

theorem numbers_sublist_of_path (p : Path (Move env) g ws g') : g'.numbers.Sublist g.numbers := by
  induction p with
  | refl => exact List.Sublist.refl _
  | head h _ ih =>
    refine ih.trans ?_
    cases h with
    | confirm => exact List.filter_sublist.map _
    | ack | load | done | touch | push => exact List.Sublist.refl _

/-- Only a queued command brings a new number into the table. -/
theorem Transition.numbers_sublist {e : Event} (h : Transition crypto env g e ws g')
    (hatomic : env.InsertAtomic) : g'.numbers.Sublist (g.numbers ++ appended ws) := by
  have hpath : ∀ {g₁ : State} {ws ws' : List Effect}, Path (Move env) g₁ ws' g' →
      g₁.numbers = g.numbers → g'.numbers.Sublist (g.numbers ++ appended ws) :=
    fun p h => (h ▸ numbers_sublist_of_path p).trans (List.sublist_append_left _ _)
  cases h with
  | moves p => exact hpath p rfl
  | old _ _ _ _ q => exact hpath q rfl
  | insert _ _ _ _ _ hrow hmax =>
    obtain ⟨h1, h2, -⟩ := Database.insertedRow_eq_some_iff.mp hrow
    simp [hatomic h1 h2] at hmax
  | accept _ _ _ hget _ hrow _ q =>
    obtain ⟨-, -, id, -, rfl⟩ := Database.insertedRow_eq_some_iff.mp hrow
    refine (numbers_sublist_of_path q).trans ?_
    rw [appended_append, (counter_of_path q).2.1]
    simp [numbers, State.accepted, getDevice_db_eq hget, appended, Effect.appended?,
      CommandDevice.new]
  | stray => exact List.sublist_append_left _ _
  | executed _ _ _ _ q => exact hpath q (numbers_mark _ _)
  | kept _ _ _ _ q => exact hpath q rfl
  | returned _ _ _ _ q => exact hpath q rfl
  | restart => exact List.sublist_append_left _ _

/-! ## NUL bytes -/

/-- No command in memory holds a NUL byte. -/
def NulFree (g : State) : Prop :=
  ∀ identity d, g.devices identity = some d → ∀ cmd ∈ d.recvCmds ++ d.execCmds, cmd.NulFree

/-- A row reads back as its command exactly without NUL bytes. -/
theorem ofRow_row_idle_iff {cmd : CommandDevice} {id : ℕ} {isExecuted : Bool}
    (hidentity : cmd.deviceIdentity = identity)
    (htyped : cmd.commandTypeDevice = CommandDevice.typeOfCloud cmd.commandTypeCloud) :
    (Device.ofRow identity (cmd.row id isExecuted)).idle = cmd.idle ↔ cmd.NulFree := by
  simp only [Device.ofRow, CommandDevice.row, CommandDevice.idle, CommandDevice.new,
    CommandDevice.NulFree, CommandDevice.mk.injEq, hidentity, htyped, ofCString_eq_self_iff,
    true_and, and_true]
  constructor
  · rintro ⟨htype, -, hpayload⟩
    exact ⟨htype, hpayload⟩
  · rintro ⟨htype, hpayload⟩
    exact ⟨htype, by rw [ofCString_eq_self_iff.mpr htype], hpayload⟩

theorem Stored.reloads_iff_nulFree (hg : g.Stored) : g.Reloads ↔ g.NulFree := by
  refine forall_congr' fun identity => forall_congr' fun d => forall_congr' fun hd => ?_
  obtain ⟨hself, hr, he⟩ := hg.wellFormed identity d hd
  obtain ⟨htyped, id, hid, hrows⟩ := hg.device identity d hd
  have hrecv : (reload g.db d).recvCmds =
      d.recvCmds.map fun cmd => Device.ofRow identity (cmd.row id false) := by
    simp [reload, Device.selectDeviceCommand, Device.foldl_addRow, Device.new, hself, hrows,
      List.filter_map, Function.comp_def, CommandDevice.row]
  have hexec : (reload g.db d).execCmds =
      d.execCmds.map fun cmd => Device.ofRow identity (cmd.row id true) := by
    simp [reload, Device.selectDeviceCommand, Device.foldl_addRow, Device.new, hself, hrows,
      List.filter_map, Function.comp_def, CommandDevice.row]
  rw [hrecv, hexec, List.map_map, List.map_map, List.map_inj_left, List.map_inj_left,
    List.forall_mem_append]
  refine and_congr (forall_congr' fun cmd => forall_congr' fun hcmd => ?_)
    (forall_congr' fun cmd => forall_congr' fun hcmd => ?_)
  · exact ofRow_row_idle_iff (hr cmd hcmd) (htyped cmd (List.mem_append_left _ hcmd))
  · exact ofRow_row_idle_iff (he cmd hcmd) (htyped cmd (List.mem_append_right _ hcmd))

theorem NulFree.setDevice {g₀ : State} (hg : g.NulFree) (hdev : g₀.devices = g.devices)
    (hd : ∀ cmd ∈ d.recvCmds ++ d.execCmds, cmd.NulFree) : (g₀.setDevice identity d).NulFree :=
  forall_setDevice hg hdev hd

theorem Move.nulFree (h : Move env g ws g') (hg : g.NulFree) : g'.NulFree := by
  cases h with
  | ack | done => exact hg
  | @load identity hd =>
    -- what is read back from the database is a C string
    refine hg.setDevice rfl ?_
    obtain ⟨rows, -, h⟩ := loaded_eq env identity g
    rw [h, Device.foldl_addRow]
    simp only [Device.new, List.nil_append, List.forall_mem_append, List.forall_mem_map]
    exact ⟨fun r _ => ⟨zero_notMem_ofCString _, zero_notMem_ofCString _⟩,
      fun r _ => ⟨zero_notMem_ofCString _, zero_notMem_ofCString _⟩⟩
  | touch hd _ hrecv hexec =>
    refine hg.setDevice rfl ?_
    rw [hrecv, hexec]
    exact hg _ _ hd
  | push hd hrecv =>
    refine hg.setDevice rfl ?_
    have hd' := hg _ _ hd
    rw [hrecv, List.cons_append, List.forall_mem_cons] at hd'
    exact List.forall_mem_cons.mpr hd'
  | confirm hd =>
    refine hg.setDevice rfl fun cmd hcmd => hg _ _ hd cmd ?_
    rcases List.mem_append.mp hcmd with h | h
    · exact List.mem_append_left _ h
    · exact List.mem_append_right _ (List.mem_of_mem_tail h)

theorem nulFree_of_path (p : Path (Move env) g ws g') (hg : g.NulFree) : g'.NulFree :=
  p.preserves Move.nulFree hg

/-- The conditions under which a command is stored, as `storesNul` checks them. -/
theorem storesNul_eq {p : CommandPayload} {clientIdentity type payload : StdString}
    (hcheck : checkCommand crypto g p = .ok (some (clientIdentity, type)))
    (hseq : p.seqNo.asUInt = some n) (hpayload : p.payload.asString = some payload) :
    storesNul crypto g (.clientCommand p, env) =
      (g.sequenceNumber < n && g.knows env.selectDevicePsk clientIdentity &&
        (g.db.insertedRow env.insertDeviceCommand n type payload clientIdentity).isSome &&
        (0 ∈ type || 0 ∈ payload)) := by
  simp only [storesNul, hcheck, hseq, hpayload]

theorem Transition.nulFree {e : Event} (h : Transition crypto env g e ws g') (hg : g.NulFree)
    (hnot : storesNul crypto g (e, env) = false) : g'.NulFree := by
  cases h with
  | moves p => exact nulFree_of_path p hg
  | old _ _ _ _ q => exact nulFree_of_path q hg
  | insert _ _ _ hget =>
    have hg₁ := nulFree_of_path (path_of_getDevice hget (.refl _)) hg
    exact hg₁
  | @accept p clientIdentity type payload n g₁ d row ws _ hcheck hseq hlt hget hpayload hrow _ q =>
    have hg₁ := nulFree_of_path (path_of_getDevice hget (.refl _)) hg
    have hknows := getDevice_isSome env clientIdentity g
    rw [hget, Option.isSome_some] at hknows
    rw [storesNul_eq hcheck hseq hpayload, hrow, ← hknows] at hnot
    simp only [hlt, decide_true, Option.isSome_some, Bool.true_and, Bool.or_eq_false_iff,
      decide_eq_false_iff_not] at hnot
    refine nulFree_of_path q (hg₁.setDevice rfl ?_)
    intro cmd hcmd
    simp only [Device.addRecvDeviceCommand, List.append_assoc, List.mem_append,
      List.mem_singleton] at hcmd
    rcases hcmd with h | rfl | h
    · exact hg₁ _ _ (getDevice_devices hget) cmd (List.mem_append_left _ h)
    · exact hnot
    · exact hg₁ _ _ (getDevice_devices hget) cmd (List.mem_append_right _ h)
  | stray => exact hg
  | executed _ hd hrecv _ q =>
    refine nulFree_of_path q (hg.setDevice rfl fun cmd hcmd => hg _ _ hd cmd ?_)
    rw [hrecv]
    simp only [List.mem_append, List.mem_cons, List.not_mem_nil, or_false] at hcmd ⊢
    tauto
  | kept _ hd _ _ q =>
    have hd' := hg _ _ hd
    exact nulFree_of_path q (hg.setDevice rfl hd')
  | returned _ _ hd hrecv q =>
    refine nulFree_of_path q (hg.setDevice rfl ?_)
    have hd' := hg _ _ hd
    rw [hrecv, List.cons_append, List.forall_mem_cons] at hd'
    exact List.forall_mem_cons.mpr hd'
  | restart =>
    intro i d h
    simp [State.restart] at h

/-- Some received command holds a NUL byte. -/
def HoldsNul (g : State) : Prop :=
  ∃ identity d cmd, g.devices identity = some d ∧ cmd ∈ d.recvCmds ∧ ¬ cmd.NulFree

theorem HoldsNul.not_nulFree (h : g.HoldsNul) : ¬ g.NulFree := by
  obtain ⟨identity, d, cmd, hd, hcmd, hnul⟩ := h
  exact fun hfree => hnul (hfree identity d hd cmd (List.mem_append_left _ hcmd))

theorem HoldsNul.setDevice {g₀ : State} (hg : g.HoldsNul) (hdev : g₀.devices = g.devices)
    (hd : ∀ d₀, g.devices identity = some d₀ → ∀ cmd ∈ d₀.recvCmds, ¬ cmd.NulFree →
      ∃ cmd' ∈ d.recvCmds, ¬ cmd'.NulFree) : (g₀.setDevice identity d).HoldsNul := by
  obtain ⟨j, d₀, cmd, hj, hcmd, hnul⟩ := hg
  by_cases heq : j = identity
  · subst heq
    obtain ⟨cmd', hcmd', hnul'⟩ := hd d₀ hj cmd hcmd hnul
    exact ⟨j, d, cmd', setDevice_devices_self, hcmd', hnul'⟩
  · exact ⟨j, d₀, cmd, by rw [setDevice_devices_of_ne heq, hdev, hj], hcmd, hnul⟩

theorem Move.holdsNul (h : Move env g ws g') (hg : g.HoldsNul) : g'.HoldsNul := by
  cases h with
  | ack | done => exact hg
  | load hd => exact hg.setDevice rfl fun d₀ hd₀ => by simp [hd] at hd₀
  | touch hd _ hrecv =>
    refine hg.setDevice rfl fun d₀ hd₀ cmd hcmd hnul => ⟨cmd, ?_, hnul⟩
    obtain rfl : _ = d₀ := Option.some.inj (hd.symm.trans hd₀)
    exact hrecv ▸ hcmd
  | push hd hrecv =>
    refine hg.setDevice rfl fun d₀ hd₀ cmd hcmd hnul => ?_
    obtain rfl : _ = d₀ := Option.some.inj (hd.symm.trans hd₀)
    rw [hrecv] at hcmd
    rcases List.mem_cons.mp hcmd with rfl | hcmd
    · exact ⟨_, List.mem_cons_self, hnul⟩
    · exact ⟨cmd, List.mem_cons_of_mem _ hcmd, hnul⟩
  | confirm hd =>
    refine hg.setDevice rfl fun d₀ hd₀ cmd hcmd hnul => ⟨cmd, ?_, hnul⟩
    obtain rfl : _ = d₀ := Option.some.inj (hd.symm.trans hd₀)
    exact hcmd

/-- A stored command with a NUL byte is in memory after the step. -/
theorem holdsNul_of_storesNul {e : Event} (hatomic : env.InsertAtomic)
    (h : storesNul crypto g (e, env) = true) : (step crypto g (e, env)).1.HoldsNul := by
  cases e with
  | clientCommand p =>
    simp only [storesNul] at h
    split at h
    swap
    · simp at h
    rename_i clientIdentity type n payload hcheck hseq hpayload
    simp only [Bool.and_eq_true, decide_eq_true_eq, Bool.or_eq_true] at h
    obtain ⟨⟨⟨hlt, hknows⟩, hrow⟩, hnul⟩ := h
    obtain ⟨row, hrow⟩ := Option.isSome_iff_exists.mp hrow
    rw [← getDevice_isSome, Option.isSome_iff_exists] at hknows
    obtain ⟨d, hd⟩ := hknows
    have hget : getDevice env clientIdentity g = ((getDevice env clientIdentity g).1, some d) :=
      Prod.ext rfl hd
    obtain ⟨h1, h2, -⟩ := Database.insertedRow_eq_some_iff.mp hrow
    obtain ⟨ws, -, hpath⟩ := acceptCommand_path env g hget hpayload
      ((getDevice_db_eq hget).symm ▸ hrow) (hatomic h1 h2)
    have hnle : ¬ n ≤ g.sequenceNumber := by grind
    simp only [step, handleClientCommand, hcheck, hseq, hnle, if_false]
    refine hpath.preserves Move.holdsNul ⟨clientIdentity, _, _, setDevice_devices_self,
      List.mem_append_right _ (List.mem_singleton_self _), ?_⟩
    rintro ⟨htype, hpay⟩
    exact hnul.elim htype hpay
  | _ => simp [storesNul] at h

/-! ## Runs -/

/-- One step keeps the rows stored and the numbers still to come new. -/
theorem step_stored {e : Event × Env} {es : List (Event × Env)} (hg : g.Stored)
    (hatomic : e.2.InsertAtomic) (hrestart : e.1 ≠ .restart)
    (hnew : (g.numbers ++ appended (trace (step crypto) g (e :: es))).Nodup) :
    (step crypto g e).1.Stored ∧
      ((step crypto g e).1.numbers ++
        appended (trace (step crypto) (step crypto g e).1 es)).Nodup := by
  have htrans := step_transition crypto e.2 g e.1
  rw [trace_cons, appended_append, ← List.append_assoc] at hnew
  exact ⟨htrans.stored hg hatomic hrestart (hnew.sublist (List.sublist_append_left _ _)),
    hnew.sublist ((htrans.numbers_sublist hatomic).append (List.Sublist.refl _))⟩

/-- In a run without a restart from the gateway's installation on, with `insertDeviceCommand` all or
nothing and no number accepted twice, every device in memory can be reloaded from the database in
every state exactly when no command with a NUL byte is stored. -/
theorem reloads_iff (crypto : Crypto) (identity : StdString) (claimed : Bool) (key : StdString)
    (device : DeviceTable) (es : List (Event × Env))
    (hes : ∀ e ∈ es, e.1 ≠ .restart ∧ e.2.InsertAtomic)
    (hnodup : (appended (trace (step crypto) (fresh identity claimed key device) es)).Nodup) :
    AllStates (step crypto) Reloads (fresh identity claimed key device) es ↔
      AllSteps (step crypto) (fun g e => storesNul crypto g e = false)
        (fresh identity claimed key device) es := by
  refine allStates_iff_allSteps (J := fun g es => (g.Stored ∧ g.NulFree) ∧
    (∀ e ∈ es, e.1 ≠ .restart ∧ e.2.InsertAtomic) ∧
    (g.numbers ++ appended (trace (step crypto) g es)).Nodup)
    (fun g es h => h.1.1.reloads_iff_nulFree.mpr h.1.2) (fun g e es h hnot => ?_)
    (fun g e es h hbad => ?_) ⟨⟨fresh_stored .., fun i d h => by simp [fresh] at h⟩, hes, hnodup⟩
  · obtain ⟨⟨hg, hfree⟩, hes, hnew⟩ := h
    obtain ⟨hrestart, hatomic⟩ := hes e List.mem_cons_self
    obtain ⟨hg', hnew'⟩ := step_stored hg hatomic hrestart hnew
    exact ⟨⟨hg', (step_transition crypto e.2 g e.1).nulFree hfree hnot⟩,
      fun e' he' => hes e' (List.mem_cons_of_mem _ he'), hnew'⟩
  · obtain ⟨⟨hg, -⟩, hes, hnew⟩ := h
    obtain ⟨hrestart, hatomic⟩ := hes e List.mem_cons_self
    rw [(step_stored hg hatomic hrestart hnew).1.reloads_iff_nulFree]
    exact (holdsNul_of_storesNul hatomic (by simpa using hbad)).not_nulFree

/-- The theorem at a run that stores two commands, of which the device executes the first. -/
theorem reloads_sample :
    Reloads (run (step sampleCrypto) (fresh [] false [] sampleDevices)
      [(.register (bytes "lamp") [], .ok), (.clientCommand (sampleCommand "lamp" 1), .ok),
        (.clientCommand (sampleCommand "lamp" 2), .ok), (.coapReply 0 .ok, .ok)]) := by
  refine AllStates.last
    ((reloads_iff sampleCrypto [] false [] sampleDevices _ ?_ (by decide)).mpr (by decide))
  simp [Env.InsertAtomic, Env.ok]

/-- A command whose payload is one NUL byte. -/
def nulRun : List (Event × Env) :=
  [(.clientCommand { sampleCommand "lamp" 1 with payload := sampleText [0] }, .ok)]

/-- The payload in memory is one byte, the payload read back is empty. -/
theorem nulRun_not_reloads :
    (∀ e ∈ nulRun, e.1 ≠ .restart ∧ e.2.InsertAtomic) ∧
    (appended (trace (step sampleCrypto) (fresh [] false [] sampleDevices) nulRun)).Nodup ∧
    ¬ Reloads (run (step sampleCrypto) (fresh [] false [] sampleDevices) nulRun) := by
  refine ⟨by simp [nulRun, Env.InsertAtomic, Env.ok], by decide, fun h => ?_⟩
  exact absurd (h (bytes "lamp") _ rfl).1 (by decide)

end State

end Atlas.Gateway
