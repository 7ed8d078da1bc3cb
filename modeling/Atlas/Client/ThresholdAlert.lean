import Atlas.Client.Telemetry
import Atlas.Commands.ClientBatch

/-! # Threshold alerts

The gateway sets a threshold for the number of processes: the request has the scan rate as a number
of two bytes and the threshold as text. The parser is to refuse a request without threshold, but
tests its own argument instead of the text it points to, so `strtol` reads through a null pointer.
The number is stored in 16 bits before it is checked, and the checks compare these 16 bits with the
bounds of `long`: what is no number, or a number that is too large, is accepted.

Reference: `telemetry/atlas_alert_utils.c`, `telemetry/atlas_telemetry_sysinfo.c`
(`atlas_threshold_alert_procs_cb`).
-/

namespace Atlas.Client

open ByteOrder CString Gateway Telemetry

namespace CommandType

/-- `ATLAS_CMD_TELEMETRY_ALERT_INT_SCAN_RATE`. -/
def telemetryAlertIntScanRate : UInt16 := 514

/-- `ATLAS_CMD_TELEMETRY_ALERT_THRESHOLD`. -/
def telemetryAlertThreshold : UInt16 := 515

end CommandType

variable (host : ByteOrder)

/-! ## Parsing -/

/-- The local variables of `atlas_alert_threshold_cmd_parse`. The scan rate is absent as long as it
is not found, and the threshold while it is a null pointer. -/
structure ThresholdFields where
  scanRate : Option UInt16
  threshold : Option (List UInt8)
deriving DecidableEq

/-- The body of the loop. -/
def ThresholdFields.read (fields : ThresholdFields) (cmd : AtlasCommand) : Option ThresholdFields :=
  if cmd.type = CommandType.telemetryAlertIntScanRate ∧ cmd.len = 2 then
    (load16? host cmd.val).map fun scanRate =>
      { fields with scanRate := some (ntohs host scanRate) }
  else if cmd.type = CommandType.telemetryAlertThreshold ∧ cmd.len > 0 then
    some { fields with threshold := some (cmd.val ++ [0]) }
  else some fields

/-- `atlas_alert_threshold_cmd_parse`. -/
def atlasAlertThresholdCmdParse (buf : List UInt8) :
    Option (Except AtlasStatus (UInt16 × Option (List UInt8))) :=
  if buf = [] ∨ UInt16.ofNat buf.length = 0 then some (.error .invalidInput)
  else (receivedCommands host buf).bind fun
    | .error status => some (.error status)
    | .ok cmds =>
      (cmds.foldlM (ThresholdFields.read host) ⟨none, none⟩).map fun fields =>
        match fields.scanRate with
        | none => .error .corruptedCommand
        -- the address of the threshold is tested, which is never null
        | some scanRate => .ok (scanRate, fields.threshold)

/-! ## The callback -/

/-- What the callback changes. -/
structure Sysinfo where
  procsThreshold : UInt16
  features : List AtlasTelemetry
deriving DecidableEq

/-- `ATLAS_SYSINFO_PROCS_PATH`. -/
def atlasSysinfoProcsPath : List UInt8 := literal "gateway/telemetry/sysinfo/procs"

/-- `atlas_threshold_alert_procs_cb`, for a `long` of `w` bits; `none` is an access through a null
pointer. A new alarm gets the identifier `alarmId`. -/
def atlasThresholdAlertProcsCb (w : ℕ) (alarmId : ℤ) (s : Sysinfo) (reqPayload : List UInt8) :
    Option (Sysinfo × AtlasCoapResponse) :=
  (atlasAlertThresholdCmdParse host reqPayload).bind fun
    | .error _ => some (s, .notAcceptableHere)
    | .ok (scanRate, threshold) =>
      threshold.map fun threshold =>
        let x := strtol w threshold
        let procsThreshold := UInt16.ofNat (x.value % 65536).toNat
        let s := { s with procsThreshold := procsThreshold }
        if (x.erange ∧ ((procsThreshold.toNat : ℤ) = 2 ^ (w - 1) - 1 ∨
              (procsThreshold.toNat : ℤ) = -2 ^ (w - 1))) ∨
            (x.erange ∧ procsThreshold = 0) then
          (s, .notAcceptableHere)
        else
          ({ s with
              features := atlasTelemetryThresholdSet atlasSysinfoProcsPath scanRate alarmId
                s.features },
            .ok)

/-! ## What a request asks for -/

/-- There is a scan rate of two bytes. -/
def HasScanRate (rs : List Tlv.Record) : Prop :=
  ∃ r ∈ rs, r.tag = CommandType.telemetryAlertIntScanRate ∧ r.value.length = 2

/-- The thresholds that are not empty. -/
def thresholds (rs : List Tlv.Record) : List (List UInt8) :=
  (rs.filter fun r => r.tag = CommandType.telemetryAlertThreshold ∧ r.value ≠ []).map (·.value)

/-- The number a threshold is to be: decimal, and at most 65535. -/
def number? (threshold : List UInt8) : Option ℕ :=
  if IsDecimal threshold ∧ digitsValue threshold ≤ 65535 then some (digitsValue threshold) else none

/-- The last threshold that is a number. -/
def lastNumber (rs : List Tlv.Record) : Option ℕ := ((thresholds rs).filterMap number?).getLast?

/-- The payload is a well-formed batch with a scan rate. -/
def HoldsScanRate (reqPayload : List UInt8) : Prop :=
  Tlv.rest reqPayload = [] ∧ HasScanRate (Tlv.parse reqPayload)

/-- A record changes the scan rate or the threshold, or nothing. -/
theorem read_ofRecord (fields : ThresholdFields) (r : Tlv.Record) :
    ∃ fields', fields.read host (.ofRecord r) = some fields' ∧
      (fields'.scanRate.isSome ↔ fields.scanRate.isSome ∨ HasScanRate [r]) ∧
      fields'.threshold = ((thresholds [r]).getLast?.map (· ++ [0])).or fields.threshold := by
  have hlen : ∀ n : ℕ, n < 65536 → (r.len = UInt16.ofNat n ↔ r.value.length = n) := by
    intro n hn
    rw [← UInt16.toNat_inj, Tlv.Record.toNat_len, UInt16.toNat_ofNat_of_lt' hn]
  have hne : CommandType.telemetryAlertIntScanRate ≠ CommandType.telemetryAlertThreshold := by
    decide
  rw [ThresholdFields.read, AtlasCommand.ofRecord]
  dsimp only
  by_cases hscan : r.tag = CommandType.telemetryAlertIntScanRate ∧ r.len = 2
  · have htwo : r.value.length = 2 := (hlen 2 (by decide)).mp hscan.2
    obtain ⟨a, b, hab⟩ := List.length_eq_two.mp htwo
    refine ⟨_, by rw [if_pos hscan, hab]; rfl, ?_, ?_⟩
    · simp [HasScanRate, hscan.1, htwo]
    · simp [thresholds, hscan.1, hne]
  · have hnone : ¬ HasScanRate [r] := by
      simpa [HasScanRate, (hlen 2 (by decide)).symm] using hscan
    rw [if_neg hscan]
    by_cases hthreshold : r.tag = CommandType.telemetryAlertThreshold ∧ r.len > 0
    · have hvalue : r.value ≠ [] := by
        intro hnil
        have hzero : r.len = 0 := (hlen 0 (by decide)).mpr (by rw [hnil]; rfl)
        exact absurd hthreshold.2 (by rw [hzero]; decide)
      refine ⟨_, if_pos hthreshold, by simp [hnone], ?_⟩
      simp [thresholds, hthreshold.1, hvalue]
    · refine ⟨fields, if_neg hthreshold, by simp [hnone], ?_⟩
      have hother : ¬ (r.tag = CommandType.telemetryAlertThreshold ∧ r.value ≠ []) := by
        rintro ⟨htag, hvalue⟩
        refine hthreshold ⟨htag, ?_⟩
        rw [gt_iff_lt, UInt16.lt_iff_toNat_lt, Tlv.Record.toNat_len]
        exact List.length_pos_iff.mpr hvalue
      simp [thresholds, hother]

theorem hasScanRate_cons (r : Tlv.Record) (rs : List Tlv.Record) :
    HasScanRate (r :: rs) ↔ HasScanRate [r] ∨ HasScanRate rs := by
  simp [HasScanRate]

theorem thresholds_cons (r : Tlv.Record) (rs : List Tlv.Record) :
    thresholds (r :: rs) = thresholds [r] ++ thresholds rs := by
  rw [thresholds, thresholds, thresholds, ← List.map_append, ← List.filter_append,
    List.singleton_append]

/-- The loop finds the last scan rate and the last threshold that is not empty. -/
theorem foldlM_read (fields : ThresholdFields) (rs : List Tlv.Record) :
    ∃ fields', (rs.map AtlasCommand.ofRecord).foldlM (ThresholdFields.read host) fields =
        some fields' ∧
      (fields'.scanRate.isSome ↔ fields.scanRate.isSome ∨ HasScanRate rs) ∧
      fields'.threshold = ((thresholds rs).getLast?.map (· ++ [0])).or fields.threshold := by
  induction rs generalizing fields with
  | nil => exact ⟨fields, rfl, by simp [HasScanRate], rfl⟩
  | cons r rs ih =>
    obtain ⟨fields₁, hread, hscan, hthreshold⟩ := read_ofRecord host fields r
    obtain ⟨fields₂, hrest, hscan', hthreshold'⟩ := ih fields₁
    refine ⟨fields₂, ?_, ?_, ?_⟩
    · rw [List.map_cons, List.foldlM_cons, hread]
      exact hrest
    · rw [hscan', hscan, hasScanRate_cons r rs, or_assoc]
    · rw [hthreshold', hthreshold, thresholds_cons r rs, List.getLast?_append, ← Option.or_assoc,
        Option.map_or]

/-- A payload without scan rate, or that is not a batch, is an error for the parser. -/
theorem cmdParse_of_not_holdsScanRate {reqPayload : List UInt8} (hlen : reqPayload.length < 65536)
    (h : ¬ HoldsScanRate reqPayload) :
    ∃ status, atlasAlertThresholdCmdParse host reqPayload = some (.error status) := by
  rw [atlasAlertThresholdCmdParse]
  split_ifs with hempty
  · exact ⟨_, rfl⟩
  · have hpos : 1 ≤ reqPayload.length := List.length_pos_iff.mpr fun hnil => hempty (.inl hnil)
    rw [receivedCommands_eq host hpos (by omega), Option.bind_some]
    split_ifs with hrest
    · obtain ⟨fields, hfold, hscan, -⟩ :=
        foldlM_read host ⟨none, none⟩ (Tlv.parse reqPayload)
      have hnone : fields.scanRate = none := by
        rw [← Option.not_isSome_iff_eq_none, hscan]
        rintro (hsome | hrate)
        · cases hsome
        · exact h ⟨hrest, hrate⟩
      exact ⟨.corruptedCommand, by simp [hfold, hnone]⟩
    · exact ⟨_, rfl⟩

/-- For any other payload the parser hands on the last threshold that is not empty, or a null
pointer. -/
theorem cmdParse_of_holdsScanRate {reqPayload : List UInt8} (hlen : reqPayload.length < 65536)
    (h : HoldsScanRate reqPayload) :
    ∃ scanRate, atlasAlertThresholdCmdParse host reqPayload =
      some (.ok (scanRate, (thresholds (Tlv.parse reqPayload)).getLast?.map (· ++ [0]))) := by
  obtain ⟨hrest, hrate⟩ := h
  have hne : reqPayload ≠ [] := by
    rintro rfl
    simp [HasScanRate] at hrate
  have hpos : 1 ≤ reqPayload.length := List.length_pos_iff.mpr hne
  obtain ⟨fields, hfold, hscan, hthreshold⟩ :=
    foldlM_read host ⟨none, none⟩ (Tlv.parse reqPayload)
  obtain ⟨scanRate, hscanRate⟩ := Option.isSome_iff_exists.mp (hscan.mpr (.inr hrate))
  refine ⟨scanRate, ?_⟩
  have hle : reqPayload.length ≤ 65535 := Nat.le_of_lt_succ hlen
  rw [atlasAlertThresholdCmdParse, if_neg (not_empty_buf hpos hle),
    receivedCommands_eq host hpos hle, if_pos hrest, Option.bind_some]
  simp [hfold, hscanRate, hthreshold]

/-! ## Validation -/

/-- The low 16 bits of what `strtol` returns are neither bound of `long`, and they are zero after an
error exactly for a number below these bounds. -/
theorem rejects_iff {w : ℕ} (hw : 32 ≤ w) (threshold : List UInt8) :
    let x := strtol w threshold
    let procsThreshold := UInt16.ofNat (x.value % 65536).toNat
    (x.erange ∧ ((procsThreshold.toNat : ℤ) = 2 ^ (w - 1) - 1 ∨
        (procsThreshold.toNat : ℤ) = -2 ^ (w - 1))) ∨ (x.erange ∧ procsThreshold = 0) ↔
      Underflows w threshold := by
  intro x procsThreshold
  have hbound : (2 : ℤ) ^ 31 ≤ 2 ^ (w - 1) := pow_le_pow_right₀ (by decide) (by omega)
  have hlt : procsThreshold.toNat < 65536 := procsThreshold.toNat_lt
  have hzero : procsThreshold = 0 ↔ x.value % 2 ^ 16 = 0 := by
    have hsmall : (x.value % 65536).toNat < 65536 := by omega
    have htoNat : procsThreshold.toNat = (x.value % 65536).toNat := UInt16.toNat_ofNat_of_lt' hsmall
    rw [← UInt16.toNat_inj, htoNat, UInt16.toNat_zero]
    omega
  rw [hzero, erange_and_mod_eq_zero_iff (by decide : 0 < 16) (by omega)]
  refine or_iff_right ?_
  rintro ⟨-, hmax | hmin⟩ <;> omega

variable {w : ℕ} (alarmId : ℤ) (s : Sysinfo) {reqPayload : List UInt8}

theorem callback_of_not_holdsScanRate (hlen : reqPayload.length < 65536)
    (h : ¬ HoldsScanRate reqPayload) :
    atlasThresholdAlertProcsCb host w alarmId s reqPayload = some (s, .notAcceptableHere) := by
  obtain ⟨status, hparse⟩ := cmdParse_of_not_holdsScanRate host hlen h
  rw [atlasThresholdAlertProcsCb, hparse]
  rfl

/-- The callback stores the low bits of the last threshold that is not empty, and answers OK unless
the number is too small for `long`. -/
theorem callback_of_holdsScanRate (hw : 32 ≤ w) (hlen : reqPayload.length < 65536)
    (h : HoldsScanRate reqPayload) :
    (atlasThresholdAlertProcsCb host w alarmId s reqPayload).map
        (fun result => (result.1.procsThreshold, result.2)) =
      (thresholds (Tlv.parse reqPayload)).getLast?.map fun threshold =>
        (UInt16.ofNat ((strtol w threshold).value % 65536).toNat,
          if Underflows w threshold then .notAcceptableHere else .ok) := by
  obtain ⟨scanRate, hparse⟩ := cmdParse_of_holdsScanRate host hlen h
  rw [atlasThresholdAlertProcsCb, hparse, Option.bind_some]
  cases (thresholds (Tlv.parse reqPayload)).getLast? with
  | none => rfl
  | some threshold =>
    simp only [Option.map_some, strtol_append_zero, Option.some.injEq]
    have hrejects := rejects_iff hw threshold
    dsimp only at hrejects
    by_cases hunder : Underflows w threshold
    · rw [if_pos (hrejects.mpr hunder), if_pos hunder]
    · rw [if_neg (mt hrejects.mp hunder), if_neg hunder]

/-- A threshold that is a number is the last one, and is what `strtol` reads. -/
theorem number?_cases (hw : 32 ≤ w) {threshold : List UInt8} {n : ℕ}
    (h : number? threshold = some n) :
    (strtol w threshold).value % 65536 = n ∧ ¬ Underflows w threshold := by
  rw [number?] at h
  split_ifs at h with hdecimal
  cases h
  have hbound : 2 ^ 31 ≤ 2 ^ (w - 1) := Nat.pow_le_pow_right (by decide) (by omega)
  have hstrtol := strtol_of_isDecimal (w := w) hdecimal.1 (by omega)
  refine ⟨?_, fun hunder => ?_⟩
  · rw [hstrtol]
    dsimp only
    omega
  · have herange := ((erange_and_mod_eq_zero_iff (by decide : 0 < 16) (by omega) threshold).mpr
      hunder).1
    rw [hstrtol] at herange
    cases herange

theorem lastNumber_of_number? {rs : List Tlv.Record} {threshold : List UInt8} {n : ℕ}
    (hlast : (thresholds rs).getLast? = some threshold) (h : number? threshold = some n) :
    lastNumber rs = some n := by
  obtain ⟨init, hinit⟩ := List.getLast?_eq_some_iff.mp hlast
  rw [lastNumber, hinit, List.filterMap_append, List.getLast?_append]
  simp [h]

/-- The request is answered OK exactly if it is a well-formed batch with a scan rate and a threshold
that is a number; the last such number is stored then, and nothing is changed otherwise. No
threshold is read through a null pointer. -/
def ValidatesThreshold (host : ByteOrder) (w : ℕ) (alarmId : ℤ) (s : Sysinfo)
    (reqPayload : List UInt8) : Prop :=
  match atlasThresholdAlertProcsCb host w alarmId s reqPayload with
  | none => False
  | some (s', response) =>
    (response = .ok ∧ HoldsScanRate reqPayload ∧
      lastNumber (Tlv.parse reqPayload) = some s'.procsThreshold.toNat) ∨
    (response = .notAcceptableHere ∧
      ¬ (HoldsScanRate reqPayload ∧ (lastNumber (Tlv.parse reqPayload)).isSome) ∧
      s'.procsThreshold = s.procsThreshold)

section

variable {threshold : List UInt8} {s} (hw : 32 ≤ w) (hlen : reqPayload.length < 65536)
  (hholds : HoldsScanRate reqPayload)

include hw hlen hholds

/-- Without threshold, `strtol` reads through a null pointer. -/
theorem not_validatesThreshold_of_none
    (hlast : (thresholds (Tlv.parse reqPayload)).getLast? = none) :
    ¬ ValidatesThreshold host w alarmId s reqPayload := by
  have hcallback := callback_of_holdsScanRate host alarmId s hw hlen hholds
  rw [hlast, Option.map_none, Option.map_eq_none_iff] at hcallback
  rw [ValidatesThreshold, hcallback]
  exact not_false

/-- A number that is too small for `long` is refused, and zero is stored. -/
theorem validatesThreshold_of_underflows
    (hlast : (thresholds (Tlv.parse reqPayload)).getLast? = some threshold)
    (hunder : Underflows w threshold) :
    ValidatesThreshold host w alarmId s reqPayload ↔
      lastNumber (Tlv.parse reqPayload) = none ∧ s.procsThreshold = 0 := by
  have hmod := ((erange_and_mod_eq_zero_iff (by decide : 0 < 16) (by omega) threshold).mpr hunder).2
  have hlow : ((strtol w threshold).value % 65536).toNat = 0 := by omega
  have hcallback := callback_of_holdsScanRate host alarmId s hw hlen hholds
  rw [hlast, Option.map_some, if_pos hunder, hlow, Option.map_eq_some_iff] at hcallback
  obtain ⟨⟨s', response⟩, hcallback, hresult⟩ := hcallback
  obtain ⟨hstored, rfl⟩ := Prod.mk.inj hresult
  have hzero : s'.procsThreshold = 0 := hstored
  rw [ValidatesThreshold, hcallback]
  constructor
  · rintro (⟨hok, -⟩ | ⟨-, hnone, hsame⟩)
    · cases hok
    · refine ⟨?_, hsame ▸ hzero⟩
      rw [← Option.not_isSome_iff_eq_none]
      exact fun hsome => hnone ⟨hholds, hsome⟩
  · rintro ⟨hnone, hsame⟩
    refine .inr ⟨rfl, fun h => ?_, hzero.trans hsame.symm⟩
    rw [hnone] at h
    cases h.2

/-- Any other threshold is accepted, and its low bits are stored. -/
theorem validatesThreshold_of_not_underflows
    (hlast : (thresholds (Tlv.parse reqPayload)).getLast? = some threshold)
    (hunder : ¬ Underflows w threshold) :
    ValidatesThreshold host w alarmId s reqPayload ↔
      ∃ n ∈ lastNumber (Tlv.parse reqPayload), (strtol w threshold).value % 65536 = n := by
  have hsmall : ((strtol w threshold).value % 65536).toNat < 65536 := by omega
  have hcallback := callback_of_holdsScanRate host alarmId s hw hlen hholds
  rw [hlast, Option.map_some, if_neg hunder, Option.map_eq_some_iff] at hcallback
  obtain ⟨⟨s', response⟩, hcallback, hresult⟩ := hcallback
  obtain ⟨hstored, rfl⟩ := Prod.mk.inj hresult
  have htoNat : s'.procsThreshold.toNat = ((strtol w threshold).value % 65536).toNat := by
    rw [← UInt16.toNat_ofNat_of_lt' hsmall]
    exact congrArg UInt16.toNat hstored
  rw [ValidatesThreshold, hcallback]
  constructor
  · rintro (⟨-, -, hnumber⟩ | ⟨hrefused, -⟩)
    · refine ⟨_, hnumber, ?_⟩
      rw [htoNat]
      omega
    · cases hrefused
  · rintro ⟨n, hn, hvalue⟩
    refine .inl ⟨rfl, hholds, ?_⟩
    rw [htoNat, hvalue, Int.toNat_natCast]
    exact hn

end

/-- Thresholds are validated exactly for the payloads that are no batch with a scan rate; whose last
threshold that is not empty is a number; whose last such threshold is none but reads, in 16 bits, as
the last number before it; or, if there is no number at all, whose last threshold is too small for
`long` while the stored threshold is zero anyway. -/
theorem validatesThreshold_iff (host : ByteOrder) (w : ℕ) (hw : 32 ≤ w) (alarmId : ℤ) (s : Sysinfo)
    (reqPayload : List UInt8) (hlen : reqPayload.length < 65536) :
    ValidatesThreshold host w alarmId s reqPayload ↔
      ¬ HoldsScanRate reqPayload ∨
      ∃ threshold ∈ (thresholds (Tlv.parse reqPayload)).getLast?,
        (number? threshold).isSome ∨
        (∃ n ∈ lastNumber (Tlv.parse reqPayload),
          ¬ Underflows w threshold ∧ (strtol w threshold).value % 65536 = n) ∨
        (lastNumber (Tlv.parse reqPayload) = none ∧ Underflows w threshold ∧
          s.procsThreshold = 0) := by
  by_cases hholds : HoldsScanRate reqPayload
  · rw [or_iff_right (not_not.mpr hholds)]
    cases hlast : (thresholds (Tlv.parse reqPayload)).getLast? with
    | none =>
      refine iff_of_false (not_validatesThreshold_of_none host alarmId hw hlen hholds hlast) ?_
      rintro ⟨threshold, hthreshold, -⟩
      cases hthreshold
    | some threshold =>
      by_cases hunder : Underflows w threshold
      · rw [validatesThreshold_of_underflows host alarmId hw hlen hholds hlast hunder]
        constructor
        · rintro ⟨hnone, hzero⟩
          exact ⟨threshold, rfl, .inr (.inr ⟨hnone, hunder, hzero⟩)⟩
        · rintro ⟨_, ⟨⟩, hnumber | ⟨n, -, hnot, -⟩ | ⟨hnone, -, hzero⟩⟩
          · obtain ⟨n, hn⟩ := Option.isSome_iff_exists.mp hnumber
            exact absurd hunder (number?_cases hw hn).2
          · exact absurd hunder hnot
          · exact ⟨hnone, hzero⟩
      · rw [validatesThreshold_of_not_underflows host alarmId hw hlen hholds hlast hunder]
        constructor
        · rintro ⟨n, hn, hvalue⟩
          exact ⟨threshold, rfl, .inr (.inl ⟨n, hn, hunder, hvalue⟩)⟩
        · rintro ⟨_, ⟨⟩, hnumber | ⟨n, hn, -, hvalue⟩ | ⟨-, hunder', -⟩⟩
          · obtain ⟨n, hn⟩ := Option.isSome_iff_exists.mp hnumber
            exact ⟨n, lastNumber_of_number? hlast hn, (number?_cases hw hn).1⟩
          · exact ⟨n, hn, hvalue⟩
          · exact absurd hunder' hunder
  · refine iff_of_true ?_ (.inl hholds)
    rw [ValidatesThreshold, callback_of_not_holdsScanRate host alarmId s hlen hholds]
    exact .inr ⟨rfl, fun h => hholds h.1, rfl⟩

/-- A scan rate of ten seconds, and a threshold record with this text. -/
def thresholdPayload (threshold : String) : List UInt8 :=
  [2, 2, 0, 2, 0, 10, 2, 3, 0, UInt8.ofNat (literal threshold).length] ++ literal threshold

theorem validatesThreshold_300 :
    ValidatesThreshold .little 64 7 ⟨0, clientFeatures⟩ (thresholdPayload "300") := by
  have hlen : (thresholdPayload "300").length < 65536 := by decide +kernel
  have hlast : literal "300" ∈ (thresholds (Tlv.parse (thresholdPayload "300"))).getLast? := by
    decide +kernel
  have hnumber : (number? (literal "300")).isSome := by decide +kernel
  exact (validatesThreshold_iff .little 64 (by decide) 7 ⟨0, clientFeatures⟩
    (thresholdPayload "300") hlen).mpr (.inr ⟨literal "300", hlast, .inl hnumber⟩)

/-- A request without threshold makes the client read through a null pointer. A threshold that is
not a number, and one that is too large, are accepted and stored as zero and as 4464. -/
theorem not_validatesThreshold_missing_or_wrong :
    atlasThresholdAlertProcsCb .little 64 7 ⟨300, []⟩ [2, 2, 0, 2, 0, 10] = none ∧
      atlasThresholdAlertProcsCb .little 64 7 ⟨300, []⟩ (thresholdPayload "many") =
        some (⟨0, []⟩, .ok) ∧
      atlasThresholdAlertProcsCb .little 64 7 ⟨300, []⟩ (thresholdPayload "70000") =
        some (⟨4464, []⟩, .ok) ∧
      ¬ ValidatesThreshold .little 64 7 ⟨300, []⟩ [2, 2, 0, 2, 0, 10] ∧
      ¬ ValidatesThreshold .little 64 7 ⟨300, []⟩ (thresholdPayload "many") ∧
      ¬ ValidatesThreshold .little 64 7 ⟨300, []⟩ (thresholdPayload "70000") := by
  have hmissing : atlasThresholdAlertProcsCb .little 64 7 ⟨300, []⟩ [2, 2, 0, 2, 0, 10] = none := by
    decide +kernel
  have hmany : atlasThresholdAlertProcsCb .little 64 7 ⟨300, []⟩ (thresholdPayload "many") =
      some (⟨0, []⟩, .ok) := by decide +kernel
  have hlarge : atlasThresholdAlertProcsCb .little 64 7 ⟨300, []⟩ (thresholdPayload "70000") =
      some (⟨4464, []⟩, .ok) := by decide +kernel
  refine ⟨hmissing, hmany, hlarge, ?_, ?_, ?_⟩
  · rw [ValidatesThreshold, hmissing]
    exact not_false
  · rw [ValidatesThreshold, hmany]
    rintro (⟨-, -, hnumber⟩ | ⟨hrefused, -⟩)
    · exact absurd hnumber (by decide +kernel)
    · cases hrefused
  · rw [ValidatesThreshold, hlarge]
    rintro (⟨-, -, hnumber⟩ | ⟨hrefused, -⟩)
    · exact absurd hnumber (by decide +kernel)
    · cases hrefused

end Atlas.Client
