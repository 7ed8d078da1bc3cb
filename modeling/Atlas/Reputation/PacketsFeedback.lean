import Atlas.Firewall.Conservation
import Mathlib.Algebra.Order.Field.Rat
import Mathlib.Tactic.Positivity

/-! # Feedback on transmitted packets

A reading compares the counters of a device with those of the reading before. The counters have 32
bits and wrap around, and the unsigned difference would still be right. But `getFeedback` subtracts
only if the counter is not below its old value, so after a wrap it takes the counter itself for the
difference. As long as no counter has wrapped since the last reading, a reading is the share of the
packets passed in its window.

A device comes into memory with the counters stored for it, and these belong to the first window.

Reference: `device/reputation_feedback/AtlasPacketsFeedback.cpp`, `statistics/AtlasFirewallStats.h`,
`device/AtlasDeviceManager.cpp` (`updateFirewallStats`).
-/

namespace Atlas.Reputation

open EventMachine Gateway
open Firewall (AtlasFirewallStats AtlasDeviceManager find?_updateFirewallStats)

/-! ## The feedback -/

/-- `AtlasPacketsFeedback`. -/
structure AtlasPacketsFeedback where
  prevStats : AtlasFirewallStats := {}

/-- The difference within the sample window, as it is computed for each of the two counters. -/
def windowPkts (pkts prevPkts : UInt32) : UInt32 := if pkts ≥ prevPkts then
    pkts - prevPkts else pkts

/-- `ATLAS_PACKETS_DEFAULT_FEEDBACK`: an `int` initialised with `0.4`. -/
def atlasPacketsDefaultFeedback : ℤ := 0

/-- `AtlasPacketsFeedback::getFeedback`. -/
def AtlasPacketsFeedback.getFeedback (stats : AtlasFirewallStats)
    (feedback : AtlasPacketsFeedback) : AtlasPacketsFeedback × ℚ :=
  let txDroppedPkts := windowPkts stats.txDroppedPkts feedback.prevStats.txDroppedPkts
  let txPassedPkts := windowPkts stats.txPassedPkts feedback.prevStats.txPassedPkts
  if txDroppedPkts + txPassedPkts = 0 then (feedback, atlasPacketsDefaultFeedback)
  else (⟨stats⟩, (txPassedPkts.toNat : ℚ) / (txDroppedPkts + txPassedPkts).toNat)

/-! ## Windows -/

/-- A report of the plug-in on a client, or a reading. -/
inductive SampleEvent where
  | report (env : Firewall.Env) (clientId : StdString) (delta : AtlasFirewallStats)
  | reading

/-- The devices, the feedback of one of them, and the packets it transmitted since its last
reading. -/
structure Sampled where
  manager : AtlasDeviceManager
  feedback : AtlasPacketsFeedback
  passed : ℕ
  dropped : ℕ

namespace Sampled

variable (identity : StdString)

/-- The counters of the device. -/
def stats (s : Sampled) : AtlasFirewallStats :=
  ((s.manager.devices.find? identity).map (·.stats)).getD {}

/-- A device that just came into memory, with the counters stored for it. -/
def init (manager : AtlasDeviceManager) : Sampled :=
  let stats := ((manager.devices.find? identity).map (·.stats)).getD {}
  ⟨manager, {}, stats.txPassedPkts.toNat, stats.txDroppedPkts.toNat⟩

/-- One event. -/
def step (s : Sampled) : SampleEvent → Sampled × List ℚ
  | .report env clientId delta =>
    let s := { s with manager := s.manager.updateFirewallStats env clientId delta }
    if clientId = identity then
      ({ s with
        passed := s.passed + delta.txPassedPkts.toNat
        dropped := s.dropped + delta.txDroppedPkts.toNat }, [])
    else (s, [])
  | .reading =>
    let (feedback, value) := s.feedback.getFeedback (s.stats identity)
    (⟨s.manager, feedback, 0, 0⟩, [value])

/-- Fewer than `2 ^ 32` packets are transmitted between two readings. -/
def Few (s : Sampled) (e : SampleEvent) : Prop := e = .reading → s.passed + s.dropped < 2 ^ 32

/-- Neither counter is below its value at the last reading. -/
def Unwrapped (s : Sampled) (e : SampleEvent) : Prop :=
  e = .reading →
    s.feedback.prevStats.txPassedPkts ≤ (s.stats identity).txPassedPkts ∧
      s.feedback.prevStats.txDroppedPkts ≤ (s.stats identity).txDroppedPkts

/-- A reading with a packet in its window is the share of the packets passed. -/
def ReadsRatio (s : Sampled) (e : SampleEvent) : Prop :=
  e = .reading → 0 < s.passed + s.dropped →
    let value := (s.feedback.getFeedback (s.stats identity)).2
    value = (s.passed : ℚ) / (s.passed + s.dropped : ℕ) ∧ 0 ≤ value ∧ value ≤ 1

/-! ## One step -/

/-- The device is in memory, and its counters have moved by the packets of the window since the last
reading, modulo `2 ^ 32`. -/
structure Sound (s : Sampled) : Prop where
  device : (s.manager.devices.find? identity).isSome
  passed : (s.stats identity).txPassedPkts =
    s.feedback.prevStats.txPassedPkts + UInt32.ofNat s.passed
  dropped : (s.stats identity).txDroppedPkts =
    s.feedback.prevStats.txDroppedPkts + UInt32.ofNat s.dropped

variable {identity} {s : Sampled} {e : SampleEvent}

/-- Without a wrap the difference is the number of packets. -/
theorem windowPkts_eq {pkts prevPkts : UInt32} {n : ℕ} (hn : pkts = prevPkts + UInt32.ofNat n)
    (hle : prevPkts ≤ pkts) : windowPkts pkts prevPkts = UInt32.ofNat n := by
  rw [windowPkts, if_pos hle, hn]
  grind

/-- What a reading hands out, and what the next one is compared with. -/
theorem Sound.getFeedback_eq (h : Sound identity s) (hfew : Few s .reading)
    (hunwrapped : Unwrapped identity s .reading) :
    s.feedback.getFeedback (s.stats identity) =
      if s.passed + s.dropped = 0 then (s.feedback, 0)
      else (⟨s.stats identity⟩, (s.passed : ℚ) / (s.passed + s.dropped : ℕ)) := by
  have hlt := hfew rfl
  obtain ⟨hpassed, hdropped⟩ := hunwrapped rfl
  have hsum : UInt32.ofNat s.dropped + UInt32.ofNat s.passed =
      UInt32.ofNat (s.passed + s.dropped) := by
    rw [← UInt32.ofNat_add, Nat.add_comm]
  have htotal : (UInt32.ofNat (s.passed + s.dropped)).toNat = s.passed + s.dropped :=
    UInt32.toNat_ofNat_of_lt' hlt
  have hpkts : (UInt32.ofNat s.passed).toNat = s.passed :=
    UInt32.toNat_ofNat_of_lt' (show s.passed < 2 ^ 32 by omega)
  simp only [AtlasPacketsFeedback.getFeedback, windowPkts_eq h.passed hpassed,
    windowPkts_eq h.dropped hdropped, hsum, htotal, hpkts, ← UInt32.toNat_inj, UInt32.toNat_zero]
  rfl

theorem Sound.readsRatio (h : Sound identity s) (hfew : Few s e)
    (hunwrapped : Unwrapped identity s e) : ReadsRatio identity s e := by
  rintro rfl hpos
  have hvalue := congrArg Prod.snd (h.getFeedback_eq hfew hunwrapped)
  rw [if_neg hpos.ne'] at hvalue
  refine ⟨hvalue, by rw [hvalue]; positivity, ?_⟩
  rw [hvalue]
  exact div_le_one_of_le₀ (by simp) (by positivity)

theorem sound_step (h : Sound identity s) (hfew : Few s e) (hunwrapped : Unwrapped identity s e) :
    Sound identity (step identity s e).1 := by
  cases e with
  | report env clientId delta =>
    obtain ⟨device, hfind⟩ := Option.isSome_iff_exists.mp h.device
    have hfind' := find?_updateFirewallStats hfind env clientId delta
    have hpassed := h.passed
    have hdropped := h.dropped
    rw [stats, hfind] at hpassed hdropped
    by_cases hid : clientId = identity
    · rw [if_pos hid] at hfind'
      simp only [step, if_pos hid]
      refine ⟨by simp [hfind'], ?_, ?_⟩
      · simp_all [stats, AtlasFirewallStats.add, UInt32.ofNat_add, UInt32.add_assoc]
      · simp_all [stats, AtlasFirewallStats.add, UInt32.ofNat_add, UInt32.add_assoc]
    · rw [if_neg hid] at hfind'
      simp only [step, if_neg hid]
      exact ⟨by simp [hfind'], by simpa [stats, hfind'] using hpassed,
        by simpa [stats, hfind'] using hdropped⟩
  | reading =>
    have hfeedback := congrArg Prod.fst (h.getFeedback_eq hfew hunwrapped)
    simp only [step]
    split at hfeedback
    · -- no packet in the window, so the counters are those of the last reading
      rename_i hzero
      have hpassed := h.passed
      have hdropped := h.dropped
      rw [Nat.add_eq_zero_iff] at hzero
      rw [hzero.1] at hpassed
      rw [hzero.2] at hdropped
      exact ⟨h.device, by rw [hfeedback]; exact hpassed, by rw [hfeedback]; exact hdropped⟩
    · exact ⟨h.device, by rw [hfeedback]; simp [stats], by rw [hfeedback]; simp [stats]⟩

theorem sound_init {manager : AtlasDeviceManager}
    (h : (manager.devices.find? identity).isSome) : Sound identity (init identity manager) := by
  refine ⟨h, ?_, ?_⟩ <;> simp [init, stats]

/-! ## Runs -/

/-- Every reading with a packet in its window is the share of the packets passed in it, as long as
no counter has wrapped since the reading before. -/
theorem readings_are_ratios (identity : StdString) (manager : AtlasDeviceManager)
    (hdevice : (manager.devices.find? identity).isSome) (es : List SampleEvent)
    (hes : AllSteps (step identity) (fun s e => Few s e ∧ Unwrapped identity s e)
      (init identity manager) es) :
    AllSteps (step identity) (ReadsRatio identity) (init identity manager) es :=
  allSteps_of_invariant (I := Sound identity) (fun _ _ hs he => sound_step hs he.1 he.2)
    (fun _ _ hs he => hs.readsRatio he.1 he.2) (sound_init hdevice) hes

/-- A gateway with the lamp in memory. -/
def sampleManager : AtlasDeviceManager := ⟨⟨[⟨bytes "lamp", true, 4, none, {}⟩], by decide⟩⟩

/-- A report on the lamp. -/
def lampReport (passed dropped : UInt32) : SampleEvent :=
  .report ⟨fun _ => bytes "psk", fun _ => {}, 0, fun _ => 0⟩ (bytes "lamp")
    { txPassedPkts := passed, txDroppedPkts := dropped }

/-- Three packets of four are passed. -/
theorem readings_are_ratios_lamp :
    let es := [lampReport 3 1, .reading]
    (sampleManager.devices.find? (bytes "lamp")).isSome ∧
      AllSteps (step (bytes "lamp")) (fun s e => Few s e ∧ Unwrapped (bytes "lamp") s e)
        (init (bytes "lamp") sampleManager) es ∧
      AllSteps (step (bytes "lamp")) (ReadsRatio (bytes "lamp"))
        (init (bytes "lamp") sampleManager) es := by
  intro es
  have hes : AllSteps (step (bytes "lamp")) (fun s e => Few s e ∧ Unwrapped (bytes "lamp") s e)
      (init (bytes "lamp") sampleManager) es := by
    refine ⟨⟨?_, ?_⟩, ⟨?_, ?_⟩, trivial⟩
    · rintro ⟨⟩
    · rintro ⟨⟩
    · exact fun _ => by decide
    · exact fun _ => by decide
  have hlamp : (sampleManager.devices.find? (bytes "lamp")).isSome := by decide
  exact ⟨hlamp, hes, readings_are_ratios (bytes "lamp") sampleManager hlamp es hes⟩

/-- The counter of passed packets wraps around: two packets of three are passed in the second
window, and the reading is a half. -/
theorem wrapped_reading_wrong :
    let es := [lampReport 4294967295 0, .reading, lampReport 2 1, .reading]
    AllSteps (step (bytes "lamp")) Few (init (bytes "lamp") sampleManager) es ∧
      trace (step (bytes "lamp")) (init (bytes "lamp") sampleManager) es = [1, 1 / 2] ∧
      ¬AllSteps (step (bytes "lamp")) (ReadsRatio (bytes "lamp"))
        (init (bytes "lamp") sampleManager) es := by
  intro es
  refine ⟨⟨?_, ?_, ?_, ?_, trivial⟩, by decide +kernel, ?_⟩
  · rintro ⟨⟩
  · exact fun _ => by decide
  · rintro ⟨⟩
  · exact fun _ => by decide
  · rintro ⟨-, -, -, hreading, -⟩
    have hvalue := (hreading rfl (by decide)).1
    revert hvalue
    decide +kernel

end Sampled

end Atlas.Reputation
