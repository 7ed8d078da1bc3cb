import Atlas.Gateway.Queues
import Atlas.Lib.Lists

/-! # Stop-and-wait delivery to a client

A device has at most one command request in the CoAP client's table, and has one exactly when the
front of its received list is flagged `inProgress`. The flag and the request are set together by
`pushCommand` and cleared together by the callback, except when the client executed the command and
the database does not record it: then the request is gone and the flag stays. This is the only way
to lose the property.
-/

namespace Atlas.Gateway.State

open EventMachine

variable {crypto : Crypto} {env : Env} {g g' : State} {ws : List Effect} {identity : StdString}
  {d : Device}

/-- The command requests of a client in the CoAP client's table. -/
def outstanding (g : State) (identity : StdString) : List CoapRequest :=
  g.requests.filter (·.identity = identity)

/-- A client's request is outstanding exactly when the front of its received list is in progress,
there is at most one, and it carries the front command. -/
structure StopAndWait (g : State) : Prop where
  outstanding_iff : ∀ identity, g.outstanding identity ≠ [] ↔
    ∃ d cmd rest, g.devices identity = some d ∧ d.recvCmds = cmd :: rest ∧ cmd.inProgress = true
  at_most_one : ∀ identity, (g.outstanding identity).length ≤ 1
  carries_front : ∀ identity, ∀ r ∈ g.outstanding identity,
    ∃ d cmd rest, g.devices identity = some d ∧ d.recvCmds = cmd :: rest ∧
      r.command = cmd.toCommand ∧ r.sequenceNumber = cmd.sequenceNumber

/-- The event is the success of an outstanding request whose execution the database does not
record. -/
def losesExecution (g : State) (e : Event × Env) : Bool :=
  match e.1 with
  | .coapReply i .ok => g.requests[i]?.isSome && !e.2.markExecutedDeviceCommand
  | _ => false

/-! ## The invariant -/

/-- What should be in the table for a received list: its front, if that is in progress. -/
def inFlight : List CommandDevice → List (AtlasCommand × UInt32)
  | cmd :: _ => if cmd.inProgress then [(cmd.toCommand, cmd.sequenceNumber)] else []
  | [] => []

/-- The received list of a client, empty for one that is not in memory. -/
def received (g : State) (identity : StdString) : List CommandDevice :=
  ((g.devices identity).map (·.recvCmds)).getD []

/-- The table holds for each client what its received list says, and only a front command is in
progress. -/
structure InStep (g : State) : Prop where
  wellFormed : g.WellFormed
  table : ∀ identity, (g.outstanding identity).map (fun r => (r.command, r.sequenceNumber)) =
    inFlight (g.received identity)
  tail : ∀ identity, ∀ cmd ∈ (g.received identity).tail, cmd.inProgress = false

theorem received_of_some (h : g.devices identity = some d) : g.received identity = d.recvCmds := by
  simp [received, h]

theorem received_of_none (h : g.devices identity = none) : g.received identity = [] := by
  simp [received, h]

theorem received_setDevice_of_ne {j : StdString} (h : j ≠ identity) :
    (g.setDevice identity d).received j = g.received j := by
  simp [received, setDevice_devices_of_ne h]

@[simp] theorem received_setDevice_self : (g.setDevice identity d).received identity = d.recvCmds :=
  received_of_some setDevice_devices_self

theorem fresh_inStep (identity : StdString) (claimed : Bool) (key : StdString)
    (device : DeviceTable) : (fresh identity claimed key device).InStep where
  wellFormed := fresh_wellFormed identity claimed key device
  table i := rfl
  tail i := by simp [received, fresh]

theorem inFlight_eq_nil_of_forall {cmds : List CommandDevice}
    (h : ∀ cmd ∈ cmds, cmd.inProgress = false) : inFlight cmds = [] := by
  cases cmds with
  | nil => rfl
  | cons cmd rest => simp [inFlight, h cmd List.mem_cons_self]

/-- The invariant gives the property. -/
theorem InStep.stopAndWait (h : g.InStep) : g.StopAndWait := by
  have hfront : ∀ {i : StdString}, inFlight (g.received i) ≠ [] → ∃ d cmd rest,
      g.devices i = some d ∧ d.recvCmds = cmd :: rest ∧ cmd.inProgress = true ∧
      inFlight (g.received i) = [(cmd.toCommand, cmd.sequenceNumber)] := by
    intro i hne
    cases hd : g.devices i with
    | none => simp [received_of_none hd, inFlight] at hne
    | some d =>
      cases hrecv : d.recvCmds with
      | nil => simp [received_of_some hd, hrecv, inFlight] at hne
      | cons cmd rest =>
        cases hprog : cmd.inProgress with
        | false => simp [received_of_some hd, hrecv, inFlight, hprog] at hne
        | true =>
          exact ⟨d, cmd, rest, rfl, hrecv, hprog, by
            simp [received_of_some hd, hrecv, inFlight, hprog]⟩
  refine ⟨fun i => ?_, fun i => ?_, fun i r hr => ?_⟩
  · rw [ne_eq, ← List.map_eq_nil_iff (f := fun r : CoapRequest => (r.command, r.sequenceNumber)),
      h.table i]
    constructor
    · intro hne
      obtain ⟨d, cmd, rest, hd, hrecv, hprog, -⟩ := hfront hne
      exact ⟨d, cmd, rest, hd, hrecv, hprog⟩
    · rintro ⟨d, cmd, rest, hd, hrecv, hprog⟩
      simp [received_of_some hd, hrecv, inFlight, hprog]
  · rw [← List.length_map (fun r : CoapRequest => (r.command, r.sequenceNumber)), h.table i]
    cases g.received i with
    | nil => simp [inFlight]
    | cons cmd rest => cases hprog : cmd.inProgress <;> simp [inFlight, hprog]
  · have hmem : (r.command, r.sequenceNumber) ∈ inFlight (g.received i) := by
      rw [← h.table i]
      exact List.mem_map_of_mem hr
    obtain ⟨d, cmd, rest, hd, hrecv, -, heq⟩ := hfront (List.ne_nil_of_mem hmem)
    rw [heq, List.mem_singleton, Prod.mk.injEq] at hmem
    exact ⟨d, cmd, rest, hd, hrecv, hmem⟩

/-! ## Changes of one device -/

/-- To keep the invariant while one device changes it is enough to look at that client. -/
theorem InStep.setDevice (hg : g.InStep) (hd : DeviceWellFormed identity d)
    (hreq : ∀ j, j ≠ identity → g'.outstanding j = g.outstanding j)
    (hdev : g'.devices = g.devices)
    (htable : (g'.outstanding identity).map (fun r => (r.command, r.sequenceNumber)) =
      inFlight d.recvCmds)
    (htail : ∀ cmd ∈ d.recvCmds.tail, cmd.inProgress = false) :
    (g'.setDevice identity d).InStep := by
  have hrecv : ∀ j, g'.received j = g.received j := fun j => by simp [received, hdev]
  refine ⟨?_, fun j => ?_, fun j => ?_⟩
  · refine WellFormed.setDevice ?_ hd
    intro j d' h
    exact hg.wellFormed j d' (by rw [← hdev]; exact h)
  · by_cases hj : j = identity
    · subst hj
      rw [received_setDevice_self]
      exact htable
    · rw [received_setDevice_of_ne hj, hrecv, ← hg.table j, ← hreq j hj]
      rfl
  · by_cases hj : j = identity
    · subst hj
      rw [received_setDevice_self]
      exact htail
    · rw [received_setDevice_of_ne hj, hrecv]
      exact hg.tail j

/-- The same when the requests do not change. -/
theorem InStep.setDevice_of_requests (hg : g.InStep) (hd : DeviceWellFormed identity d)
    (hreq : g'.requests = g.requests) (hdev : g'.devices = g.devices)
    (hflight : inFlight d.recvCmds = inFlight (g.received identity))
    (htail : ∀ cmd ∈ d.recvCmds.tail, cmd.inProgress = false) :
    (g'.setDevice identity d).InStep := by
  have hout : ∀ j, g'.outstanding j = g.outstanding j := fun j => by simp [outstanding, hreq]
  exact hg.setDevice hd (fun j _ => hout j) hdev (by rw [hout, hg.table, hflight]) htail

theorem Move.inStep (h : Move env g ws g') (hg : g.InStep) : g'.InStep := by
  have hwf := h.wellFormed hg.wellFormed
  cases h with
  | ack | done => exact ⟨hwf, hg.table, hg.tail⟩
  | @load identity hd =>
    -- rows are loaded as commands that are not in progress
    have hrows : ∀ cmd ∈ (loaded env identity g).recvCmds, cmd.inProgress = false := by
      obtain ⟨rows, -, h⟩ := loaded_eq env identity g
      rw [h, Device.foldl_addRow]
      simp only [Device.new, List.nil_append, List.forall_mem_map]
      exact fun _ _ => rfl
    refine hg.setDevice_of_requests (loaded_wellFormed env identity g) rfl rfl ?_
      (fun cmd h => hrows cmd (List.mem_of_mem_tail h))
    rw [inFlight_eq_nil_of_forall hrows, received_of_none hd]
    rfl
  | @touch identity d d' hd hidentity hrecv hexec =>
    have hd' := hwf identity d' setDevice_devices_self
    refine hg.setDevice_of_requests hd' rfl rfl ?_ ?_
    · rw [hrecv, received_of_some hd]
    · rw [hrecv, ← received_of_some hd]
      exact hg.tail identity
  | @push identity d cmd rest hd hrecv hprog hreg =>
    have hself := (hg.wellFormed identity d hd).identity_eq
    have htable := hg.table identity
    have htail := hg.tail identity
    rw [received_of_some hd, hrecv] at htable htail
    simp only [inFlight, hprog, Bool.false_eq_true, if_false, List.map_eq_nil_iff] at htable
    refine hg.setDevice (hwf identity _ setDevice_devices_self) (fun j hj => ?_) rfl ?_ htail
    · simp [outstanding, Device.request, hself, hj.symm]
    · have hout : g.requests.filter (·.identity = identity) = [] := htable
      simp [outstanding, List.filter_append, hout, Device.request, hself, inFlight]
      rfl
  | @confirm identity d cmd rest hd hexec =>
    refine hg.setDevice_of_requests (hwf identity _ setDevice_devices_self) rfl rfl ?_ ?_
    · rw [received_of_some hd]
      rfl
    · have htail := hg.tail identity
      rwa [received_of_some hd] at htail

theorem inStep_of_path (p : Path (Move env) g ws g') (hg : g.InStep) : g'.InStep :=
  p.preserves Move.inStep hg

theorem getDevice_inStep {g₁ : State} {device : Option Device}
    (hget : getDevice env identity g = (g₁, device)) (hg : g.InStep) : g₁.InStep :=
  inStep_of_path (path_of_getDevice hget (.refl g₁)) hg

/-- Queueing a command at the end changes neither the front nor the flags. -/
theorem accepted_inStep {row : DeviceCommandRow} {n : UInt32} {type payload : StdString}
    (hg : g.InStep) (hd : g.devices identity = some d) :
    (g.accepted identity d row (CommandDevice.new identity n type payload)).InStep := by
  have hd' := (hg.wellFormed identity d hd).addRecv n type payload
  have htail := hg.tail identity
  refine hg.setDevice_of_requests hd' rfl rfl ?_ ?_ <;> rw [received_of_some hd] at *
  · cases hrecv : d.recvCmds <;> simp [Device.addRecvDeviceCommand, hrecv, inFlight,
      CommandDevice.new]
  · cases hrecv : d.recvCmds with
    | nil => simp [Device.addRecvDeviceCommand, hrecv]
    | cons cmd rest =>
      rw [hrecv] at htail
      simp only [Device.addRecvDeviceCommand, hrecv, List.cons_append, List.tail_cons]
      intro cmd' h
      rcases List.mem_append.mp h with h | h
      · exact htail cmd' h
      · rw [List.mem_singleton.mp h]
        rfl

/-! ## Callbacks -/

/-- A request leaves the table alone among its client's requests. -/
theorem InStep.outstanding_eraseIdx (hg : g.InStep) {i : ℕ} {request : CoapRequest}
    (hi : g.requests[i]? = some request) :
    { g with requests := g.requests.eraseIdx i }.outstanding request.identity = [] ∧
    ∀ j, j ≠ request.identity →
      { g with requests := g.requests.eraseIdx i }.outstanding j = g.outstanding j := by
  obtain ⟨before, after, hsplit, herase⟩ := List.exists_append_cons_of_getElem? hi
  constructor
  · have hone := hg.stopAndWait.at_most_one request.identity
    simp only [outstanding, hsplit, List.filter_append, List.filter_cons, decide_true, if_true,
      List.length_append, List.length_cons] at hone
    refine List.eq_nil_of_length_eq_zero ?_
    simp only [outstanding, herase, List.filter_append, List.length_append]
    omega
  · intro j hj
    simp only [outstanding, herase, List.filter_append]
    simp [hsplit, hj.symm]

theorem Transition.inStep {e : Event} (h : Transition crypto env g e ws g') (hg : g.InStep)
    (hnot : losesExecution g (e, env) = false) : g'.InStep := by
  have hwf := h.wellFormed hg.wellFormed
  cases h with
  | moves p => exact inStep_of_path p hg
  | old _ _ _ _ q => exact inStep_of_path q ⟨hg.wellFormed, hg.table, hg.tail⟩
  | insert _ _ _ hget =>
    obtain ⟨-, htable, htail⟩ := getDevice_inStep hget hg
    exact ⟨hwf, htable, htail⟩
  | accept _ _ _ hget _ _ _ q =>
    exact inStep_of_path q (accepted_inStep (getDevice_inStep hget hg) (getDevice_devices hget))
  | @stray i respStatus request hi hempty =>
    -- a request in the table has a command at the front of its client's list
    obtain ⟨d, cmd, rest, hd, hrecv, -⟩ := hg.stopAndWait.carries_front request.identity request
      (List.mem_filter.mpr ⟨List.mem_of_getElem? hi, by simp⟩)
    exact absurd (hempty d hd) (by simp [hrecv])
  | @executed i request d cmd rest n ws _ hi hd hrecv hmark q =>
    obtain ⟨hnil, hother⟩ := hg.outstanding_eraseIdx hi
    have htail := hg.tail request.identity
    rw [received_of_some hd, hrecv, List.tail_cons] at htail
    refine inStep_of_path q
      (hg.setDevice ((hg.wellFormed _ _ hd).executed hrecv) hother rfl ?_ ?_)
    · rw [inFlight_eq_nil_of_forall htail]
      exact List.map_eq_nil_iff.mpr hnil
    · exact fun cmd h => htail cmd (List.mem_of_mem_tail h)
  | kept hi _ _ hmark => simp [losesExecution, hi, hmark] at hnot
  | @returned i respStatus request d cmd rest timeouts ws _ hst hi hd hrecv q =>
    obtain ⟨hnil, hother⟩ := hg.outstanding_eraseIdx hi
    have htail := hg.tail request.identity
    rw [received_of_some hd, hrecv] at htail
    refine inStep_of_path q
      (hg.setDevice ((hg.wellFormed _ _ hd).returned hrecv) hother rfl ?_ htail)
    exact List.map_eq_nil_iff.mpr hnil
  | restart => exact ⟨hwf, fun i => rfl, fun i => by simp [received, State.restart]⟩

/-- An execution that the database does not record leaves a front command in progress without a
request. -/
theorem not_stopAndWait_of_losesExecution (hg : g.InStep) {e : Event × Env}
    (h : losesExecution g e = true) : ¬ (step crypto g e).1.StopAndWait := by
  obtain ⟨e, env⟩ := e
  simp only [losesExecution] at h
  split at h
  swap
  · simp at h
  rename_i _ i
  simp only [Bool.and_eq_true, Option.isSome_iff_exists, Bool.not_eq_true'] at h
  obtain ⟨⟨request, hi⟩, hmark⟩ := h
  have hmem : request ∈ g.outstanding request.identity :=
    List.mem_filter.mpr ⟨List.mem_of_getElem? hi, by simp⟩
  obtain ⟨d, cmd, rest, hd, hrecv, hprog⟩ :=
    (hg.stopAndWait.outstanding_iff request.identity).mp (List.ne_nil_of_mem hmem)
  have hgate : (step crypto g (.coapReply i .ok, env)).1 =
      { g with requests := g.requests.eraseIdx i }.setDevice request.identity
        { d with deviceCmdTimeouts := 0 } := by
    have hd₁ : { g with requests := g.requests.eraseIdx i }.devices request.identity = some d := hd
    rcases deviceCmdRespCallback_cases env .ok hd₁ hrecv with
      ⟨-, hmark', -⟩ | ⟨-, -, hgate, -⟩ | ⟨hne, -⟩
    · exact absurd (hmark.symm.trans hmark') (by simp)
    · simp only [step, hi]
      exact hgate.trans (pushCommand_of_inProgress setDevice_devices_self hrecv hprog)
    · exact absurd rfl hne
  intro hsw
  rw [hgate] at hsw
  refine (hsw.outstanding_iff request.identity).mpr
    ⟨_, cmd, rest, setDevice_devices_self, hrecv, hprog⟩ ?_
  exact (hg.outstanding_eraseIdx hi).1

/-- Delivery is stop-and-wait in every state of a run from the gateway's installation on, exactly
when the database records every execution. -/
theorem stopAndWait_iff (crypto : Crypto) (identity : StdString) (claimed : Bool) (key : StdString)
    (device : DeviceTable) (es : List (Event × Env)) :
    AllStates (step crypto) StopAndWait (fresh identity claimed key device) es ↔
      AllSteps (step crypto) (fun g e => losesExecution g e = false)
        (fresh identity claimed key device) es := by
  refine allStates_iff_allSteps (J := fun g _ => g.InStep) (fun _ _ => InStep.stopAndWait)
    (fun g e _ hg hnot => ?_) (fun g e _ hg hlost => ?_) (fresh_inStep identity claimed key device)
  · exact (step_transition crypto e.2 g e.1).inStep hg hnot
  · exact not_stopAndWait_of_losesExecution hg (by simpa using hlost)

/-- A command is pushed and executed, but the database fails to mark it. -/
def unrecordedRun : List (Event × Env) :=
  [(.register (bytes "lamp") [], .ok), (.clientCommand (sampleCommand "lamp" 1), .ok),
    (.coapReply 0 .ok, { Env.ok with markExecutedDeviceCommand := false })]

/-- The front command stays in progress with no request outstanding. -/
theorem unrecordedRun_not_stopAndWait :
    ¬ (run (step sampleCrypto) (fresh [] false [] sampleDevices) unrecordedRun).StopAndWait := by
  intro h
  exact (h.outstanding_iff (bytes "lamp")).mpr ⟨_, _, _, rfl, rfl, rfl⟩ (by decide)

end Atlas.Gateway.State
