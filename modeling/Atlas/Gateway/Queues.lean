import Atlas.Gateway.Moves

/-! # Queues loaded from the database, and well-formed devices

A device is loaded with the rows of its identity: the unexecuted ones make its received list, the
executed ones its executed list, each in insertion order. In every reachable state the device stored
under an identity has that identity, and so have all its commands.
-/

namespace Atlas.Gateway

namespace Device

/-- The queue element `selectDeviceCommand` builds from a row. -/
def ofRow (identity : StdString) (r : DeviceCommandRow) : CommandDevice :=
  CommandDevice.new identity r.sequenceNumber (ofCString r.commandType)
    (ofCString r.commandPayload)

/-- Rows are appended to the two lists in their order. -/
theorem foldl_addRow (rows : List DeviceCommandRow) (d : Device) :
    rows.foldl addRow d =
      { d with
        recvCmds := d.recvCmds ++ (rows.filter (!·.isExecuted)).map (ofRow d.identity)
        execCmds := d.execCmds ++ (rows.filter (·.isExecuted)).map (ofRow d.identity) } := by
  induction rows generalizing d with
  | nil => simp
  | cons r rows ih =>
    rw [List.foldl_cons, ih]
    cases hr : r.isExecuted <;>
      simp [addRow, hr, addExecDeviceCommand, addRecvDeviceCommand, ofRow]

end Device

namespace State

variable {crypto : Crypto} {env : Env} {g g' : State} {ws : List Effect} {identity : StdString}
  {d : Device}

/-- A loaded device holds the first rows of its identity. -/
theorem loaded_eq (env : Env) (identity : StdString) (g : State) :
    ∃ rows, rows <+: g.db.getDeviceCommandByIdentity identity ∧
      loaded env identity g = rows.foldl Device.addRow
        (Device.new identity (g.db.selectDevicePsk env.selectDevicePsk identity)) := by
  simp only [loaded, initDeviceCommands]
  split
  · simp only [Device.selectDeviceCommand]
    split
    · exact ⟨_, List.prefix_rfl, rfl⟩
    · exact ⟨_, List.take_prefix _ _, rfl⟩
  · exact ⟨[], List.nil_prefix, rfl⟩

/-- A device loaded without a database failure holds all rows of its identity. -/
theorem loaded_of_sqlOk (hsql : env.SqlOk) (identity : StdString) (g : State) :
    loaded env identity g = (g.db.getDeviceCommandByIdentity identity).foldl Device.addRow
      (Device.new identity (g.db.selectDevicePsk true identity)) := by
  simp only [loaded, initDeviceCommands, hsql.selectDevicePsk]
  split
  · simp [Device.selectDeviceCommand, hsql.selectDeviceCommand, Device.new]
  · rename_i hnone
    -- no row belongs to the device, so there is nothing to load
    have hrows : g.db.getDeviceCommandByIdentity identity = [] := by
      simpa [Database.checkDeviceCommandByIdentity, hsql.checkDeviceCommandByIdentity,
        Database.getDeviceCommandByIdentity, List.filter_eq_nil_iff, Device.new] using hnone
    rw [hrows, List.foldl_nil]

/-! ## Well-formed devices -/

/-- A device and all its commands carry the identity it is stored under. -/
structure DeviceWellFormed (identity : StdString) (d : Device) : Prop where
  identity_eq : d.identity = identity
  recv : ∀ cmd ∈ d.recvCmds, cmd.deviceIdentity = identity
  exec : ∀ cmd ∈ d.execCmds, cmd.deviceIdentity = identity

/-- Every device of the manager is well formed. -/
def WellFormed (g : State) : Prop :=
  ∀ identity d, g.devices identity = some d → DeviceWellFormed identity d

theorem fresh_wellFormed (identity : StdString) (claimed : Bool) (key : StdString)
    (device : DeviceTable) : (fresh identity claimed key device).WellFormed := by
  intro i d h
  simp [fresh] at h

/-- Storing a well-formed device keeps the manager well formed. -/
theorem WellFormed.setDevice (hg : g.WellFormed) (hd : DeviceWellFormed identity d) :
    (g.setDevice identity d).WellFormed :=
  forall_setDevice hg rfl hd

theorem loaded_wellFormed (env : Env) (identity : StdString) (g : State) :
    DeviceWellFormed identity (loaded env identity g) := by
  obtain ⟨rows, -, h⟩ := loaded_eq env identity g
  rw [h, Device.foldl_addRow]
  refine ⟨rfl, ?_, ?_⟩ <;> simp only [Device.new, List.nil_append, List.forall_mem_map] <;>
    exact fun _ _ => rfl

theorem Move.wellFormed (h : Move env g ws g') (hg : g.WellFormed) : g'.WellFormed := by
  cases h with
  | ack | done => exact hg
  | load => exact hg.setDevice (loaded_wellFormed env _ g)
  | touch hd hidentity hrecv hexec =>
    obtain ⟨hi, hr, he⟩ := hg _ _ hd
    exact hg.setDevice ⟨hidentity.trans hi, hrecv ▸ hr, hexec ▸ he⟩
  | push hd hrecv =>
    obtain ⟨hi, hr, he⟩ := hg _ _ hd
    refine WellFormed.setDevice hg ⟨hi, ?_, he⟩
    simpa [hrecv] using hr
  | confirm hd hexec =>
    obtain ⟨hi, hr, he⟩ := hg _ _ hd
    exact WellFormed.setDevice hg ⟨hi, hr, fun cmd hcmd => he cmd (List.mem_of_mem_tail hcmd)⟩

theorem wellFormed_of_path (p : EventMachine.Path (Move env) g ws g') (hg : g.WellFormed) :
    g'.WellFormed :=
  p.preserves Move.wellFormed hg

theorem getDevice_wellFormed {g₁ : State} {device : Option Device}
    (hget : getDevice env identity g = (g₁, device)) (hg : g.WellFormed) : g₁.WellFormed :=
  wellFormed_of_path (path_of_getDevice hget (.refl g₁)) hg

theorem DeviceWellFormed.addRecv (h : DeviceWellFormed identity d) (n : UInt32)
    (type payload : StdString) :
    DeviceWellFormed identity
      (d.addRecvDeviceCommand (CommandDevice.new identity n type payload)) := by
  refine ⟨h.identity_eq, fun cmd hcmd => ?_, h.exec⟩
  rcases List.mem_append.mp hcmd with hold | hnew
  · exact h.recv cmd hold
  · rw [List.mem_singleton.mp hnew]
    rfl

theorem DeviceWellFormed.executed {cmd : CommandDevice} {rest : List CommandDevice}
    {t : UInt8} (h : DeviceWellFormed identity d) (hrecv : d.recvCmds = cmd :: rest) :
    DeviceWellFormed identity { d with
      recvCmds := rest
      execCmds := d.execCmds ++ [cmd]
      deviceCmdTimeouts := t } := by
  obtain ⟨hi, hr, he⟩ := h
  rw [hrecv, List.forall_mem_cons] at hr
  refine ⟨hi, hr.2, fun c hc => ?_⟩
  rcases List.mem_append.mp hc with hc | hc
  · exact he c hc
  · rw [List.mem_singleton.mp hc]
    exact hr.1

theorem DeviceWellFormed.returned {cmd : CommandDevice} {rest : List CommandDevice}
    {t : UInt8} (h : DeviceWellFormed identity d) (hrecv : d.recvCmds = cmd :: rest) :
    DeviceWellFormed identity { d with
      recvCmds := { cmd with inProgress := false } :: rest
      deviceCmdTimeouts := t } := by
  obtain ⟨hi, hr, he⟩ := h
  rw [hrecv] at hr
  exact ⟨hi, by simpa using hr, he⟩

theorem Transition.wellFormed {e : Event} (h : Transition crypto env g e ws g')
    (hg : g.WellFormed) : g'.WellFormed := by
  cases h with
  | moves p => exact wellFormed_of_path p hg
  | old _ _ _ _ q => exact wellFormed_of_path q hg
  | insert _ _ _ hget =>
    have hg₁ := getDevice_wellFormed hget hg
    exact hg₁
  | accept _ _ _ hget _ _ _ q =>
    have hg₁ := getDevice_wellFormed hget hg
    have hd₁ := (hg₁ _ _ (getDevice_devices hget)).addRecv
    exact wellFormed_of_path q (WellFormed.setDevice hg₁ (hd₁ _ _ _))
  | stray => exact hg
  | executed _ hd hrecv _ q =>
    exact wellFormed_of_path q (WellFormed.setDevice hg ((hg _ _ hd).executed hrecv))
  | kept _ hd _ _ q =>
    obtain ⟨hi, hr, he⟩ := hg _ _ hd
    exact wellFormed_of_path q (WellFormed.setDevice hg ⟨hi, hr, he⟩)
  | returned _ _ hd hrecv q =>
    exact wellFormed_of_path q (WellFormed.setDevice hg ((hg _ _ hd).returned hrecv))
  | restart =>
    intro i d h
    simp [State.restart] at h

theorem step_wellFormed (e : Event × Env) (hg : g.WellFormed) :
    (step crypto g e).1.WellFormed :=
  (step_transition crypto e.2 g e.1).wellFormed hg

end State

end Atlas.Gateway
