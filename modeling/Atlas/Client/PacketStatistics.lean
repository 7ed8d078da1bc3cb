import Atlas.Client.DataPlaneConnector
import Mathlib.Algebra.Order.Ring.Int
import Mathlib.Data.List.Induction

/-! # The statistics of received packets

The library counts the packets of the application and keeps the sum of their lengths and its
quotient by the count, all as `int`. Every minute it sends the count and the average to the client
and starts again. The connector keeps the first two bytes of each (`step_report`). On a
little-endian host these are the low halves. The average is wrong when the sum does not fit in an
`int`, although count and average fit in 16 bits. A sum that does not fit is undefined in C; here it
wraps.

Reference: `data_plane/atlas_client.c`.
-/

namespace Atlas.Client

open ByteOrder Gateway

/-- The variables of the library. -/
structure Statistics where
  payloadSamples : Int32
  payloadTotal : Int32
  payloadAvg : Int32
deriving DecidableEq

namespace Statistics

/-- The statistics after a report, as at the start. -/
def reset : Statistics := ⟨0, 0, 0⟩

/-- `atlas_pkt_received`. -/
def atlasPktReceived (s : Statistics) (payloadLen : Int32) : Statistics :=
  let payloadSamples := s.payloadSamples + 1
  let payloadTotal := s.payloadTotal + payloadLen
  ⟨payloadSamples, payloadTotal, payloadTotal / payloadSamples⟩

variable (host : ByteOrder)

/-- `send_statistics_command`: the statistics afterwards and the bytes written to the client's
socket. -/
def sendStatisticsCommand (s : Statistics) : Option (Statistics × List UInt8) :=
  ((atlasCmdBatchAddAll host atlasCmdBatchNew
    [⟨CommandType.dataPlanePacketsPerMinute, 4, store32 host s.payloadSamples.toUInt32⟩,
      ⟨CommandType.dataPlanePacketsAvg, 4, store32 host s.payloadAvg.toUInt32⟩]).bind
      atlasCmdBatchGetBuf).map (reset, ·)

/-- What happens to the statistics. -/
inductive Event where
  | packet (payloadLen : Int32)
  | report

variable (identity : Identity)

/-- A packet is counted, or the report is delivered to the connector. -/
def step (p : Statistics × DataPlane) : Event → Option (Statistics × DataPlane)
  | .packet payloadLen => some (p.1.atlasPktReceived payloadLen, p.2)
  | .report =>
    (p.1.sendStatisticsCommand host).bind fun (s, cmdBuf) =>
    (p.2.readCb host identity cmdBuf).map fun r => (s, r.vars)

/-! ## A report -/

/-- A record with an `int`. -/
def hostInt (type : UInt16) (n : Int32) : Tlv.Record :=
  ⟨type, store32 host n.toUInt32, by rw [length_store32]; decide⟩

/-- The records of a report. -/
def report (s : Statistics) : List Tlv.Record :=
  [hostInt host CommandType.dataPlanePacketsPerMinute s.payloadSamples,
    hostInt host CommandType.dataPlanePacketsAvg s.payloadAvg]

theorem length_report (s : Statistics) : (Tlv.encodeAll (report host s)).length = 16 := by
  simp [report, hostInt]

theorem sendStatisticsCommand_eq (s : Statistics) :
    s.sendStatisticsCommand host = some (reset, Tlv.encodeAll (report host s)) := by
  have hbuf := bind_getBuf_addAll host (report host s) (by rw [length_report]; decide)
  have hcmds : (report host s).map AtlasCommand.ofRecord =
      [⟨CommandType.dataPlanePacketsPerMinute, 4, store32 host s.payloadSamples.toUInt32⟩,
        ⟨CommandType.dataPlanePacketsAvg, 4, store32 host s.payloadAvg.toUInt32⟩] := by
    simp [report, hostInt, AtlasCommand.ofRecord, Tlv.Record.len]
  rw [hcmds] at hbuf
  rw [sendStatisticsCommand, hbuf, Option.map_some]

theorem copyField_hostInt (field : Field) (r : Reading) (type : UInt16) (n : Int32)
    (post : List UInt8) :
    r.copyField host field (seen (hostInt host type n) post) =
      some { r with
        vars := r.vars.set field (firstHalf host n.toUInt32)
        copies := r.copies ++
          [⟨field, .ofRecord (hostInt host type n), firstHalf host n.toUInt32⟩] } := by
  have hread : read16 host (seen (hostInt host type n) post).mem 0 =
      some (firstHalf host n.toUInt32) := read16_store32 [] post host n.toUInt32 rfl
  rw [Reading.copyField, hread]
  rfl

theorem readCommand_count (r : Reading) (n : Int32) (post : List UInt8) :
    r.readCommand host identity (seen (hostInt host CommandType.dataPlanePacketsPerMinute n) post) =
      r.copyField host .packetsPerMin
        (seen (hostInt host CommandType.dataPlanePacketsPerMinute n) post) := rfl

theorem readCommand_average (r : Reading) (n : Int32) (post : List UInt8) :
    r.readCommand host identity (seen (hostInt host CommandType.dataPlanePacketsAvg n) post) =
      r.copyField host .packetsAvg (seen (hostInt host CommandType.dataPlanePacketsAvg n) post) :=
        rfl

/-- The connector keeps the first two bytes of the count and of the average. -/
theorem step_report (s : Statistics) (d : DataPlane) :
    step host identity (s, d) .report = some (reset, { d with
      packetsPerMin := firstHalf host s.payloadSamples.toUInt32
      packetsAvg := firstHalf host s.payloadAvg.toUInt32 }) := by
  have hlen := length_report host s
  have hset : atlasCmdBatchSetRaw host atlasCmdBatchNew (Tlv.encodeAll (report host s))
      (UInt16.ofNat (Tlv.encodeAll (report host s)).length) =
        some (.ok, .ofBytes (Tlv.encodeAll (report host s))) := by
    rw [atlasCmdBatchSetRaw_eq host _ (by rw [hlen]; decide) (by rw [hlen]; decide),
      if_pos (Tlv.rest_eq_nil_iff.mpr ⟨_, rfl⟩)]
  have hwalk : walkWith host (viewCommand host) (.ofBytes (Tlv.encodeAll (report host s))) =
      some (visited seen (report host s)) :=
    walkWith_encodeAll host (viewCommand_hostRecord host) (List.cons_ne_nil _ _)
      (by rw [hlen]; decide)
  simp only [step, sendStatisticsCommand_eq, DataPlane.readCb, hset, hwalk, Option.bind_some, ne_eq,
    not_true_eq_false, if_false]
  simp only [report, visited, List.foldlM_cons, List.foldlM_nil, Option.bind_eq_bind,
    readCommand_count, readCommand_average, copyField_hostInt, Option.bind_some]
  rfl

/-! ## Packets between two reports -/

/-- The sum of the lengths of packets. -/
def lengths (pkts : List Int32) : ℕ := (pkts.map Int32.toNatClampNeg).sum

theorem foldl_atlasPktReceived {pkts : List Int32} (h : ∀ len ∈ pkts, 0 ≤ len) :
    pkts.foldl atlasPktReceived reset =
      ⟨.ofNat pkts.length, .ofNat (lengths pkts), .ofNat (lengths pkts) / .ofNat pkts.length⟩ := by
  induction pkts using List.reverseRecOn with
  | nil => rfl
  | append_singleton pkts len ih =>
    have hlen : Int32.ofNat len.toNatClampNeg = len :=
      Int32.ofNat_toNatClampNeg _ (h len (by simp))
    have htotal : lengths (pkts ++ [len]) = lengths pkts + len.toNatClampNeg := by simp [lengths]
    rw [List.foldl_append, ih fun l hl => h l (List.mem_append_left _ hl), htotal,
      List.length_append, Int32.ofNat_add, Int32.ofNat_add, hlen]
    rfl

/-- A report, packets, and the next report. -/
def betweenReports (pkts : List Int32) : List Event := .report :: pkts.map .packet ++ [.report]

theorem foldlM_packets (s : Statistics) (d : DataPlane) (pkts : List Int32) :
    (pkts.map Event.packet).foldlM (step host identity) (s, d) =
      some (pkts.foldl atlasPktReceived s, d) := by
  induction pkts generalizing s with
  | nil => rfl
  | cons len pkts ih => exact ih (s.atlasPktReceived len)

/-- What the connector keeps of the packets between two reports. -/
theorem foldlM_between_reports (s : Statistics) (d : DataPlane) {pkts : List Int32}
    (h : ∀ len ∈ pkts, 0 ≤ len) :
    ∃ d', (betweenReports pkts).foldlM (step host identity) (s, d) =
        some (reset, d') ∧
      d'.packetsPerMin = firstHalf host (Int32.ofNat pkts.length).toUInt32 ∧
      d'.packetsAvg =
        firstHalf host (Int32.ofNat (lengths pkts) / Int32.ofNat pkts.length).toUInt32 := by
  rw [betweenReports, List.cons_append, List.foldlM_cons, step_report, Option.bind_eq_bind,
    Option.bind_some, List.foldlM_append, foldlM_packets, foldl_atlasPktReceived h,
    Option.bind_eq_bind, Option.bind_some, List.foldlM_cons, step_report]
  exact ⟨_, rfl, rfl, rfl⟩

/-! ## The low half of an average -/

/-- A negative total is divided towards zero. -/
theorem tdiv_of_wrapped {total count : ℕ} (h₁ : 2 ^ 31 ≤ total) (h₂ : total < 2 ^ 32) :
    ((total : ℤ).bmod (2 ^ 32)).tdiv count = -(((2 ^ 32 - total) / count : ℕ) : ℤ) := by
  have hwrap : (total : ℤ).bmod (2 ^ 32) = -((2 ^ 32 - total : ℕ) : ℤ) := by
    rw [Int.bmod_def]
    omega
  rw [hwrap, Int.neg_tdiv, Int.ofNat_tdiv]

theorem quotients_add {total count : ℕ} (h : total ≤ 2 ^ 32) :
    total / count + (2 ^ 32 - total) / count = (2 ^ 32 - total % count) / count := by
  rcases Nat.eq_zero_or_pos count with rfl | hpos
  · simp
  have hsplit : 2 ^ 32 - total % count = 2 ^ 32 - total + count * (total / count) := by
    have := Nat.mod_add_div total count
    omega
  rw [hsplit, Nat.add_mul_div_left _ _ hpos, Nat.add_comm]

/-- The two quotients cancel in 16 bits only for the largest count. -/
theorem wrapped_iff {total count : ℕ} (hcount : count ≤ 65535) (havg : total / count ≤ 65535)
    (htotal : 2 ^ 31 ≤ total) (hlt : total < 65536 * count) :
    (total / count + (2 ^ 32 - total) / count) % 65536 = 0 ↔
      count = 65535 ∧ 2 ≤ total % 65535 := by
  have hpos : 0 < count := by omega
  have hmod : total % count < count := Nat.mod_lt _ hpos
  rw [quotients_add (by omega)]
  -- the sum of the quotients lies between 65536 and 131071, so it is 65536 or not a multiple of it
  have hlower : 65536 ≤ (2 ^ 32 - total % count) / count := by
    rw [Nat.le_div_iff_mul_le hpos]
    omega
  have hupper : (2 ^ 32 - total % count) / count < 131072 := by
    rw [Nat.div_lt_iff_lt_mul hpos]
    omega
  have hlow : (2 ^ 32 - total % count) / count < 65537 ↔ 2 ^ 32 - total % count < 65537 * count :=
    Nat.div_lt_iff_lt_mul hpos
  have hlast : 2 ^ 32 - total % count < 65537 * count ↔ count = 65535 ∧ 2 ≤ total % 65535 := by
    constructor
    · intro h
      obtain rfl : count = 65535 := by omega
      omega
    · rintro ⟨rfl, h⟩
      omega
  rw [← hlast, ← hlow]
  omega

theorem average_iff {total count : ℕ} (hpos : 0 < count) (hcount : count ≤ 65535)
    (havg : total / count ≤ 65535) :
    ((total : ℤ).bmod (2 ^ 32)).tdiv count % 65536 = ((total / count : ℕ) : ℤ) ↔
      total < 2 ^ 31 ∨ count = 65535 ∧ 2 ≤ total % 65535 := by
  have hlt : total < 65536 * count := (Nat.div_lt_iff_lt_mul hpos).mp (Nat.lt_succ_of_le havg)
  rcases Nat.lt_or_ge total (2 ^ 31) with hfits | hwraps
  · have hsame : (total : ℤ).bmod (2 ^ 32) = total := by
      rw [Int.bmod_def]
      omega
    rw [hsame, ← Int.ofNat_tdiv]
    refine iff_of_true ?_ (Or.inl hfits)
    generalize total / count = average at havg ⊢
    omega
  · -- the sum has wrapped once, because it is below 65536 times the count
    rw [tdiv_of_wrapped hwraps (by omega), or_iff_right (Nat.not_lt.mpr hwraps),
      ← wrapped_iff hcount havg hwraps hlt]
    generalize total / count = average at havg ⊢
    generalize (2 ^ 32 - total) / count = wrapped
    omega

theorem toNat_firstHalf (x : Int32) :
    ((firstHalf little x.toUInt32).toNat : ℤ) = x.toInt % 65536 := by
  have hx : x.toInt = (x.toUInt32.toNat : ℤ).bmod (2 ^ 32) := by
    rw [← Int32.toNat_toBitVec, ← BitVec.toInt_eq_toNat_bmod, Int32.toInt_toBitVec]
  rw [hx, firstHalf, UInt16.toNat_ofNat', Int.bmod_def]
  omega

/-- Two reports with packets between them on a little-endian host. If the count and the average fit
in 16 bits, the connector has them exactly when the sum fits in an `int`, or the count is the
largest one and the remainder is at least two, where the wrapped sum has an average with the same
low half. -/
theorem exact_after_report_iff (s : Statistics) (d : DataPlane) {pkts : List Int32}
    (h : ∀ len ∈ pkts, 0 ≤ len) (hcount : pkts.length ≤ 65535)
    (havg : lengths pkts / pkts.length ≤ 65535) :
    (∃ s' d', (betweenReports pkts).foldlM (step .little identity)
        (s, d) = some (s', d') ∧
      d'.packetsPerMin.toNat = pkts.length ∧
      d'.packetsAvg.toNat = lengths pkts / pkts.length) ↔
    lengths pkts < 2 ^ 31 ∨ pkts.length = 65535 ∧ 2 ≤ lengths pkts % 65535 := by
  obtain ⟨d₀, hrun, hper, hmean⟩ := foldlM_between_reports .little identity s d h
  have hsamples : (Int32.ofNat pkts.length).toInt = pkts.length :=
    Int32.toInt_ofNat_of_lt (by omega)
  have hper' : d₀.packetsPerMin.toNat = pkts.length := by
    have := toNat_firstHalf (Int32.ofNat pkts.length)
    rw [← hper, hsamples] at this
    omega
  have hmean' : (d₀.packetsAvg.toNat : ℤ) =
      ((lengths pkts : ℤ).bmod (2 ^ 32)).tdiv pkts.length % 65536 := by
    -- only the quotient by −1 can leave the range of `int`
    have hne : Int32.ofNat pkts.length ≠ -1 := fun heq => by
      rw [heq] at hsamples
      have : (-1 : Int32).toInt = -1 := rfl
      omega
    rw [hmean, toNat_firstHalf, Int32.toInt_div_of_ne_right _ _ hne, hsamples, Int32.toInt_ofNat']
    rfl
  have hexact : d₀.packetsAvg.toNat = lengths pkts / pkts.length ↔
      lengths pkts < 2 ^ 31 ∨ pkts.length = 65535 ∧ 2 ≤ lengths pkts % 65535 := by
    rcases List.eq_nil_or_concat pkts with rfl | ⟨pkts', len, rfl⟩
    · -- without packets the average is the quotient by zero, which is zero here
      have hzero : (d₀.packetsAvg.toNat : ℤ) = 0 := hmean'
      exact iff_of_true (Int.ofNat_inj.mp hzero) (Or.inl (by decide))
    · rw [← average_iff (by simp) hcount havg, ← hmean', Int.ofNat_inj]
  rw [← hexact]
  constructor
  · rintro ⟨s', d', hrun', -, hd'⟩
    rw [hrun, Option.some_inj] at hrun'
    obtain ⟨-, rfl⟩ := Prod.mk.inj hrun'
    exact hd'
  · exact fun hd => ⟨reset, d₀, hrun, hper', hd⟩

/-- Two packets of 100 and 51 bytes. -/
theorem exact_after_report_two_packets :
    ∃ s' d', (betweenReports [100, 51]).foldlM (step .little ⟨[], Nat.zero_le 64⟩)
        (reset, ⟨⟨0, 0, 0, false⟩, 0, 0⟩) = some (s', d') ∧
      d'.packetsPerMin.toNat = 2 ∧ d'.packetsAvg.toNat = 75 :=
  (exact_after_report_iff ⟨[], Nat.zero_le 64⟩ reset ⟨⟨0, 0, 0, false⟩, 0, 0⟩
    (List.forall_mem_cons.mpr ⟨by decide, List.forall_mem_singleton.mpr (by decide)⟩ :
      ∀ len ∈ [100, 51], (0 : Int32) ≤ len) (by decide) (by decide)).mpr (Or.inl (by decide))

/-- After 40000 packets of 60000 bytes the connector has an average of 18162. -/
theorem average_18162_after_packets_of_60000 :
    lengths (List.replicate 40000 60000) / (List.replicate 40000 (60000 : Int32)).length = 60000 ∧
    ∃ s' d', (betweenReports (List.replicate 40000 60000)).foldlM
        (step .little ⟨[], Nat.zero_le 64⟩) (reset, ⟨⟨0, 0, 0, false⟩, 0, 0⟩) = some (s', d') ∧
      d'.packetsPerMin = 40000 ∧ d'.packetsAvg = 18162 := by
  have hlengths : lengths (List.replicate 40000 60000) = 2400000000 := by
    rw [lengths, List.map_replicate, List.sum_replicate_nat]
    rfl
  obtain ⟨d', hrun, hper, hmean⟩ := foldlM_between_reports .little ⟨[], Nat.zero_le 64⟩ reset
    ⟨⟨0, 0, 0, false⟩, 0, 0⟩ (fun len hlen => (List.mem_replicate.mp hlen).2 ▸ by decide :
      ∀ len ∈ List.replicate 40000 (60000 : Int32), 0 ≤ len)
  rw [List.length_replicate] at hper
  rw [hlengths, List.length_replicate] at hmean
  rw [hlengths, List.length_replicate]
  exact ⟨rfl, reset, d', hrun, hper, hmean⟩

end Statistics

end Atlas.Client
