import Atlas.Gateway.AtMostOnce

/-! # What an installation keeps

The devices of a gateway are provisioned before it starts: no handler writes the `Device` table. So
a client that was known when a command for it was accepted is known ever after, unless a statement
fails. What does change at run time is the owner: an unclaimed gateway can be claimed, and from then
on checks signatures.

Reference: `claim_approve/AtlasClaim.cpp`, `device/AtlasGateway.cpp`.
-/

namespace Atlas.Gateway.State

open EventMachine

variable {crypto : Crypto} {env : Env} {g g' : State} {ws : List Effect}

/-- `AtlasGateway::claimGateway` behind the checks of `AtlasClaim::handleClaimReq` on the owner's
key; `insertOwner` is the outcome of its database call. -/
def claimGateway (insertOwner : Bool) (ownerSecretKey : StdString) (g : State) : State :=
  if g.claimed then g
  else if ownerSecretKey = [] then g
  else if insertOwner then { g with claimed := true, ownerSecretKey := ownerSecretKey }
  else g

/-- Claiming touches the owner only. -/
theorem claimGateway_cases (insertOwner : Bool) (ownerSecretKey : StdString) (g : State) :
    claimGateway insertOwner ownerSecretKey g = g ∨
      claimGateway insertOwner ownerSecretKey g =
        { g with claimed := true, ownerSecretKey := ownerSecretKey } := by
  simp only [claimGateway]
  split
  · exact .inl rfl
  split
  · exact .inl rfl
  split
  · exact .inr rfl
  · exact .inl rfl

/-! ## The device table -/

theorem device_of_path (p : Path (Move env) g ws g') : g'.db.device = g.db.device := by
  induction p with
  | refl => rfl
  | head h _ ih => exact ih.trans (by cases h <;> rfl)

/-- No event writes the `Device` table. -/
theorem Transition.device {e : Event} (h : Transition crypto env g e ws g') :
    g'.db.device = g.db.device := by
  cases h with
  | moves q => exact device_of_path q
  | old _ _ _ _ q => exact (device_of_path q).trans rfl
  | insert _ _ _ hget =>
    have hload := congrArg Database.device (getDevice_db_eq hget)
    exact hload
  | accept _ _ _ hget _ _ _ q =>
    have hload := congrArg Database.device (getDevice_db_eq hget)
    exact (device_of_path q).trans hload
  | stray => rfl
  | executed _ _ _ _ q => exact (device_of_path q).trans rfl
  | kept _ _ _ _ q => exact (device_of_path q).trans rfl
  | returned _ _ _ _ q => exact (device_of_path q).trans rfl
  | restart => rfl

/-! ## Devices in memory -/

/-- Every device in memory has a PSK in the database. -/
def Provisioned (g : State) : Prop :=
  ∀ identity d, g.devices identity = some d → g.db.device.HasPsk identity

theorem fresh_provisioned (identity : StdString) (claimed : Bool) (key : StdString)
    (device : DeviceTable) : (fresh identity claimed key device).Provisioned := by
  intro j d hd
  simp [fresh] at hd

/-- A provisioned gateway stays so when one device is rewritten. -/
theorem Provisioned.setDevice {g₀ : State} {identity : StdString} {d : Device} (hg : g.Provisioned)
    (hdevices : g₀.devices = g.devices) (hdevice : g₀.db.device = g.db.device)
    (hpsk : g.db.device.HasPsk identity) : (g₀.setDevice identity d).Provisioned := by
  rw [Provisioned, setDevice_db, hdevice]
  exact forall_setDevice hg hdevices hpsk

theorem Move.provisioned (h : Move env g ws g') (hg : g.Provisioned) : g'.Provisioned := by
  cases h with
  | ack | done => exact hg
  | load _ hpsk => exact hg.setDevice rfl rfl (Database.selectDevicePsk_ne_nil_iff.mp hpsk).2
  | touch hd | push hd | confirm hd => exact hg.setDevice rfl rfl (hg _ _ hd)

theorem provisioned_of_path (p : Path (Move env) g ws g') (hg : g.Provisioned) : g'.Provisioned :=
  p.preserves Move.provisioned hg

/-- A device that was looked up has a PSK in the database. -/
theorem hasPsk_of_getDevice {g₁ : State} {identity : StdString} {d : Device} (hg : g.Provisioned)
    (hget : getDevice env identity g = (g₁, some d)) : g.db.device.HasPsk identity := by
  rcases getDevice_cases env identity g with ⟨d', hd', -⟩ | ⟨-, -, h⟩ | ⟨-, hpsk, -⟩
  · exact hg identity d' hd'
  · rw [hget] at h
    exact absurd (congrArg Prod.snd h) (by simp)
  · exact (Database.selectDevicePsk_ne_nil_iff.mp hpsk).2

theorem Transition.provisioned {e : Event} (h : Transition crypto env g e ws g')
    (hg : g.Provisioned) : g'.Provisioned := by
  cases h with
  | moves q => exact provisioned_of_path q hg
  | old _ _ _ _ q => exact provisioned_of_path q hg
  | insert _ _ _ hget =>
    have hg₁ := provisioned_of_path (path_of_getDevice hget (.refl _)) hg
    exact hg₁
  | accept _ _ _ hget _ _ _ q =>
    have hg₁ := provisioned_of_path (path_of_getDevice hget (.refl _)) hg
    exact provisioned_of_path q (hg₁.setDevice rfl rfl (hg₁ _ _ (getDevice_devices hget)))
  | stray => exact hg
  | executed _ hd _ _ q => exact provisioned_of_path q (hg.setDevice rfl rfl (hg _ _ hd))
  | kept _ hd _ _ q => exact provisioned_of_path q (hg.setDevice rfl rfl (hg _ _ hd))
  | returned _ _ hd _ q => exact provisioned_of_path q (hg.setDevice rfl rfl (hg _ _ hd))
  | restart =>
    intro j d hd
    simp [State.restart] at hd

/-- A client with a PSK is found as long as the look-up succeeds. -/
theorem getDevice_of_hasPsk {identity : StdString} (hok : env.selectDevicePsk = true)
    (h : g.db.device.HasPsk identity) :
    ∃ g₁ d, getDevice env identity g = (g₁, some d) := by
  have hpsk := Database.selectDevicePsk_ne_nil_iff.mpr ⟨hok, h⟩
  rcases getDevice_cases env identity g with ⟨d, -, hget⟩ | ⟨-, hno, -⟩ | ⟨-, -, hget⟩
  · exact ⟨_, _, hget⟩
  · exact absurd hno hpsk
  · exact ⟨_, _, hget⟩

/-- The fields that a payload's check returns are those of the payload. -/
theorem asString_of_checkCommand {p : CommandPayload} {clientIdentity type : StdString}
    (h : checkCommand crypto g p = .ok (some (clientIdentity, type))) :
    p.clientIdentity.asString = some clientIdentity ∧ p.type.asString = some type := by
  simp only [checkCommand] at h
  split at h
  · simp at h
  · simp at h
  split at h
  · simp at h
  · simp at h
  rename_i hclient
  split at h
  · simp at h
  · simp at h
  rename_i htype
  split at h
  · split at h <;> simp_all
  · simp_all

/-- A command that a step queues is for a client with a PSK, under a number above the counter. -/
theorem Transition.hasPsk_of_appended {p : CommandPayload}
    (h : Transition crypto env g (.clientCommand p) ws g') (hg : g.Provisioned)
    (happ : appended ws ≠ []) :
    ∃ identity n, p.clientIdentity.asString = some identity ∧ p.seqNo.asUInt = some n ∧
      g.db.device.HasPsk identity := by
  cases h with
  | moves q => exact absurd (counter_of_path q).2.1 happ
  | old _ _ _ _ q => exact absurd (counter_of_path q).2.1 happ
  | insert => exact absurd rfl happ
  | accept hcheck hseq _ hget =>
    exact ⟨_, _, (asString_of_checkCommand hcheck).1, hseq, hasPsk_of_getDevice hg hget⟩

end Atlas.Gateway.State
