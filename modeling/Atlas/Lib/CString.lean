import Mathlib.Algebra.Order.Ring.Int
import Mathlib.Data.List.Infix
import Mathlib.Data.List.TakeWhile
import Mathlib.Tactic.Positivity

/-! # Strings of C

A string of C is the text in front of its first zero byte. The module has the three functions of the
C library on strings whose result depends on the whole text: `strstr`, which looks for one string in
another (`strstr_iff`), `strtok`, which cuts a string at a delimiter (`strtok_append_cons`), and
`strtol`, which reads a decimal number after blanks and a sign, stops at the first other character,
and stays between the bounds of `long` (`strtol_of_isDecimal`).
-/

namespace CString

/-- The bytes of a string literal. -/
def literal (s : String) : List UInt8 := s.toByteArray.data.toList

/-- The text of the string at the start of a block of memory. -/
def text (mem : List UInt8) : List UInt8 := mem.takeWhile (· ≠ 0)

theorem length_text_le (mem : List UInt8) : (text mem).length ≤ mem.length :=
  (List.takeWhile_sublist _).length_le

/-- A zero behind the bytes does not belong to the text. -/
theorem text_append_zero (mem : List UInt8) : text (mem ++ [0]) = text mem := by
  induction mem with
  | nil => rfl
  | cons c mem ih =>
    rw [text, text] at ih
    rw [text, text, List.cons_append, List.takeWhile_cons, List.takeWhile_cons, ih]

/-- Bytes without a zero in front of one are the text. -/
theorem text_append_zero_cons {s : List UInt8} (h : 0 ∉ s) (rest : List UInt8) :
    text (s ++ 0 :: rest) = s := by
  have hs : ∀ c ∈ s, decide (c ≠ 0) = true := fun c hc => by
    rw [decide_eq_true_iff]
    rintro rfl
    exact h hc
  rw [text, List.takeWhile_append_of_pos hs, List.takeWhile_cons_of_neg (by simp), List.append_nil]

/-! ## `strstr` -/

/-- Whether `strstr` finds `needle` in `haystack`. -/
def strstr : List UInt8 → List UInt8 → Bool
  | [], needle => needle.isEmpty
  | c :: haystack, needle => needle.isPrefixOf (c :: haystack) || strstr haystack needle

theorem strstr_iff {haystack needle : List UInt8} :
    strstr haystack needle = true ↔ needle <:+: haystack := by
  induction haystack with
  | nil => rw [strstr, List.isEmpty_iff, List.infix_nil]
  | cons c haystack ih =>
    rw [strstr, Bool.or_eq_true, List.isPrefixOf_iff_prefix, ih, List.infix_cons_iff]

/-! ## `strtok` -/

/-- What a call of `strtok` finds: a token and the string behind it, no token, or no end of one
inside of the block of memory. -/
inductive Strtok where
  | token (s rest : List UInt8)
  | null
  | outside
deriving DecidableEq

/-- The character belongs to a token. -/
def inToken (delim c : UInt8) : Bool := c ≠ delim && c ≠ 0

/-- `strtok` with one delimiter, on the block of memory from where it starts. -/
def strtok (delim : UInt8) (mem : List UInt8) : Strtok :=
  let start := mem.dropWhile (· = delim)
  match start.dropWhile (inToken delim) with
  | [] => .outside
  | c :: rest =>
    if start.takeWhile (inToken delim) = [] then .null
    else .token (start.takeWhile (inToken delim)) (if c = 0 then 0 :: rest else rest)

section

variable {delim : UInt8} {mem s rest : List UInt8}

theorem inToken_iff {c : UInt8} : inToken delim c = true ↔ c ≠ delim ∧ c ≠ 0 := by
  rw [inToken, Bool.and_eq_true, decide_eq_true_iff, decide_eq_true_iff]

/-- A token is a part of the block without zeros, and something is behind it. -/
theorem of_strtok_eq_token (h : strtok delim mem = .token s rest) :
    s = (mem.dropWhile (· = delim)).takeWhile (inToken delim) ∧ 0 ∉ s ∧ s.length < mem.length := by
  have hsplit :=
    List.takeWhile_append_dropWhile (p := inToken delim) (l := mem.dropWhile (· = delim))
  have hshort := (List.dropWhile_sublist (· = delim) (l := mem)).length_le
  rw [strtok] at h
  split at h
  case h_1 => cases h
  case h_2 c rest' hdrop =>
    split at h
    case isTrue => cases h
    case isFalse =>
      cases h
      rw [hdrop] at hsplit
      refine ⟨rfl, fun hzero => (inToken_iff.mp (List.mem_takeWhile_imp hzero)).2 rfl, ?_⟩
      rw [← hsplit, List.length_append, List.length_cons] at hshort
      omega

/-- Zeros behind the bytes do not belong to the first token. -/
theorem firstToken_append_zeros (hdelim : delim ≠ 0) (n : ℕ) :
    ((mem ++ List.replicate n 0).dropWhile (· = delim)).takeWhile (inToken delim) =
      (mem.dropWhile (· = delim)).takeWhile (inToken delim) := by
  have hzeros : (List.replicate n 0).takeWhile (inToken delim) = [] := by
    cases n with
    | zero => rfl
    | succ n => rw [List.replicate_succ, List.takeWhile_cons_of_neg (by simp [inToken])]
  have htake (l : List UInt8) :
      (l ++ List.replicate n 0).takeWhile (inToken delim) = l.takeWhile (inToken delim) := by
    induction l with
    | nil => exact hzeros
    | cons c l ih => rw [List.cons_append, List.takeWhile_cons, List.takeWhile_cons, ih]
  induction mem with
  | nil =>
    cases n with
    | zero => rfl
    | succ n =>
      rw [List.nil_append, List.replicate_succ,
        List.dropWhile_cons_of_neg (by simpa using hdelim.symm), ← List.replicate_succ, hzeros]
      rfl
  | cons c mem ih =>
    rw [List.cons_append, List.dropWhile_cons, List.dropWhile_cons]
    split
    · exact ih
    · exact htake (c :: mem)

/-- A token in front of a delimiter or of the end of the string. -/
theorem strtok_append_cons {c : UInt8} (hne : s ≠ []) (hs : ∀ b ∈ s, b ≠ delim ∧ b ≠ 0)
    (hc : c = delim ∨ c = 0) :
    strtok delim (s ++ c :: rest) = .token s (if c = 0 then 0 :: rest else rest) := by
  have htoken : ∀ b ∈ s, inToken delim b = true := fun b hb => inToken_iff.mpr (hs b hb)
  have hend : inToken delim c = false := by
    rw [Bool.eq_false_iff, ne_eq, inToken_iff]
    exact fun h => hc.elim h.1 h.2
  have hstart : (s ++ c :: rest).dropWhile (· = delim) = s ++ c :: rest := by
    obtain ⟨b, s, rfl⟩ := List.exists_cons_of_ne_nil hne
    rw [List.cons_append, List.dropWhile_cons_of_neg]
    simpa using (hs b List.mem_cons_self).1
  have htake : (s ++ c :: rest).takeWhile (inToken delim) = s := by
    rw [List.takeWhile_append_of_pos htoken, List.takeWhile_cons_of_neg (by simp [hend]),
      List.append_nil]
  have hdrop : (s ++ c :: rest).dropWhile (inToken delim) = c :: rest := by
    rw [List.dropWhile_append_of_pos htoken, List.dropWhile_cons_of_neg (by simp [hend])]
  simp only [strtok, hstart, hdrop, htake, if_neg hne]

/-- `strtok` does not leave a block with a zero, nor does the next call on what is left. -/
theorem strtok_of_zero_mem (hdelim : delim ≠ 0) (hzero : 0 ∈ mem) :
    strtok delim mem ≠ .outside ∧ ∀ s rest, strtok delim mem = .token s rest → 0 ∈ rest := by
  have hstart : 0 ∈ mem.dropWhile (· = delim) := by
    rw [← List.takeWhile_append_dropWhile (p := (· = delim)) (l := mem), List.mem_append] at hzero
    refine hzero.resolve_left fun hmem => ?_
    have hskipped : 0 = delim := by simpa using List.mem_takeWhile_imp hmem
    exact hdelim hskipped.symm
  have hend : 0 ∈ (mem.dropWhile (· = delim)).dropWhile (inToken delim) := by
    rw [← List.takeWhile_append_dropWhile (p := inToken delim) (l := mem.dropWhile (· = delim)),
      List.mem_append] at hstart
    exact hstart.resolve_left fun hmem => (inToken_iff.mp (List.mem_takeWhile_imp hmem)).2 rfl
  rw [strtok]
  split
  case h_1 hdrop =>
    rw [hdrop] at hend
    cases hend
  case h_2 c rest' hdrop =>
    rw [hdrop, List.mem_cons] at hend
    split
    case isTrue => exact ⟨nofun, nofun⟩
    case isFalse =>
      refine ⟨nofun, fun s rest h => ?_⟩
      cases h
      split
      case isTrue => exact List.mem_cons_self
      case isFalse hc => exact hend.resolve_left (Ne.symm hc)

end

/-! ## `strtol` -/

/-- `isspace`. -/
def isSpace (c : UInt8) : Bool := c = 32 || 9 ≤ c && c ≤ 13

/-- `isdigit`. -/
def isDigit (c : UInt8) : Bool := 48 ≤ c && c ≤ 57

/-- The value of a list of digits. -/
def digitsValue (ds : List UInt8) : ℕ := ds.foldl (fun n d => 10 * n + (d.toNat - 48)) 0

/-- An optional sign, and the text behind it. -/
def sign : List UInt8 → ℤ × List UInt8
  | c :: s => if c = 45 then (-1, s) else if c = 43 then (1, s) else (1, c :: s)
  | [] => (1, [])

/-- The number at the start of a text; zero if there is none. -/
def decimalValue (s : List UInt8) : ℤ :=
  let (sgn, s) := sign (s.dropWhile isSpace)
  sgn * digitsValue (s.takeWhile isDigit)

/-- What `strtol` returns, and whether it sets `errno` to `ERANGE`. -/
structure Strtol where
  value : ℤ
  erange : Bool
deriving DecidableEq

/-- `strtol` with base 10, for a `long` of `w` bits. -/
def strtol (w : ℕ) (mem : List UInt8) : Strtol :=
  let x := decimalValue (text mem)
  if x < -2 ^ (w - 1) then ⟨-2 ^ (w - 1), true⟩
  else if 2 ^ (w - 1) ≤ x then ⟨2 ^ (w - 1) - 1, true⟩
  else ⟨x, false⟩

@[simp] theorem strtol_append_zero (w : ℕ) (mem : List UInt8) :
    strtol w (mem ++ [0]) = strtol w mem := by
  rw [strtol, strtol, text_append_zero]

/-- The text is a number without sign and blanks. -/
def IsDecimal (s : List UInt8) : Prop := s ≠ [] ∧ ∀ c ∈ s, isDigit c = true

instance (s : List UInt8) : Decidable (IsDecimal s) := inferInstanceAs (Decidable (_ ∧ _))

theorem toNat_le_of_isDigit {c : UInt8} (h : isDigit c = true) : 48 ≤ c.toNat ∧ c.toNat ≤ 57 := by
  rw [isDigit, Bool.and_eq_true, decide_eq_true_iff, decide_eq_true_iff] at h
  exact ⟨UInt8.le_iff_toNat_le.mp h.1, UInt8.le_iff_toNat_le.mp h.2⟩

/-- A digit is neither the end of a string, nor a blank, nor a sign. -/
theorem ne_of_isDigit {c : UInt8} (h : isDigit c = true) :
    c ≠ 0 ∧ isSpace c = false ∧ c ≠ 45 ∧ c ≠ 43 := by
  obtain ⟨hlow, -⟩ := toNat_le_of_isDigit h
  have hne : ∀ d : UInt8, d.toNat < 48 → c ≠ d := by
    rintro d hd rfl
    omega
  refine ⟨hne 0 (by decide), ?_, hne 45 (by decide), hne 43 (by decide)⟩
  have hhigh : ¬ c ≤ 13 := fun hle => by
    have := UInt8.le_iff_toNat_le.mp hle
    have h13 : (13 : UInt8).toNat = 13 := rfl
    omega
  simp [isSpace, hne 32 (by decide), hhigh]

theorem IsDecimal.text_eq {s : List UInt8} (h : IsDecimal s) : text s = s :=
  List.takeWhile_eq_self_iff.mpr fun c hc => by simpa using (ne_of_isDigit (h.2 c hc)).1

theorem IsDecimal.decimalValue_eq {s : List UInt8} (h : IsDecimal s) :
    decimalValue s = digitsValue s := by
  obtain ⟨c, rest, rfl⟩ := List.exists_cons_of_ne_nil h.1
  obtain ⟨-, hspace, hminus, hplus⟩ := ne_of_isDigit (h.2 c List.mem_cons_self)
  have hdrop : (c :: rest).dropWhile isSpace = c :: rest := by simp [hspace]
  have htake : (c :: rest).takeWhile isDigit = c :: rest := List.takeWhile_eq_self_iff.mpr h.2
  rw [decimalValue, hdrop, sign, if_neg hminus, if_neg hplus]
  dsimp only
  rw [htake, one_mul]

/-- A decimal number is read as such, if it is a `long`. -/
theorem strtol_of_isDecimal {w : ℕ} {s : List UInt8} (h : IsDecimal s)
    (hlt : digitsValue s < 2 ^ (w - 1)) : strtol w s = ⟨digitsValue s, false⟩ := by
  have hpos : (0 : ℤ) < 2 ^ (w - 1) := by positivity
  have hlt' : (digitsValue s : ℤ) < 2 ^ (w - 1) := by exact_mod_cast hlt
  rw [strtol, h.text_eq, h.decimalValue_eq, if_neg (by omega), if_neg (by omega)]

/-- The number is below all values of `long`. -/
def Underflows (w : ℕ) (mem : List UInt8) : Prop := decimalValue (text mem) < -2 ^ (w - 1)

instance (w : ℕ) (mem : List UInt8) : Decidable (Underflows w mem) :=
  inferInstanceAs (Decidable (_ < _))

/-- Of the two bounds that are returned with `ERANGE`, only the lower one has low bits that are all
zero. -/
theorem erange_and_mod_eq_zero_iff {w k : ℕ} (hk : 0 < k) (hkw : k < w) (mem : List UInt8) :
    (strtol w mem).erange = true ∧ (strtol w mem).value % 2 ^ k = 0 ↔ Underflows w mem := by
  have hdvd : (2 ^ k : ℤ) ∣ 2 ^ (w - 1) := pow_dvd_pow 2 (by omega)
  have htwo : (2 : ℤ) ∣ 2 ^ k := dvd_pow_self 2 hk.ne'
  rw [strtol, Underflows]
  split_ifs with hlow hhigh
  · exact iff_of_true ⟨rfl, Int.emod_eq_zero_of_dvd ((dvd_neg).mpr hdvd)⟩ hlow
  · -- the upper bound is odd
    refine iff_of_false (fun h => ?_) hlow
    have hodd : (2 ^ k : ℤ) ∣ 1 := by
      have hvalue := Int.dvd_of_emod_eq_zero h.2
      exact (dvd_sub_right hdvd).mp hvalue
    have htwo_one := Int.le_of_dvd one_pos (htwo.trans hodd)
    omega
  · refine iff_of_false (fun h => ?_) hlow
    cases h.1

end CString
