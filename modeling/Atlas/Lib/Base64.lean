import Mathlib.Data.List.Basic

/-! # Base64

Three bytes are four digits of six bits. `sextets` writes bytes as digits and leaves the digits of a
last group that carry no bits away; `octets` reads bytes from digits, and a single last digit is a
read behind the end. Digits are written with the letters, the ten numerals, `+` and `/`.

Digits of bytes, filled up to a whole group with zeros, are read as the bytes and as many zeros
(`octets_sextets_append`). Line ends that were put between the characters disappear with the spaces
(`filter_insertLinebreaks`).
-/

namespace Base64

/-! ## Digits and bytes -/

/-- The first digit of a group. -/
def digit₀ (a : UInt8) : Fin 64 := Fin.ofNat 64 (a.toNat / 4)

/-- The second digit of a group. -/
def digit₁ (a b : UInt8) : Fin 64 := Fin.ofNat 64 (a.toNat % 4 * 16 + b.toNat / 16)

/-- The third digit of a group. -/
def digit₂ (b c : UInt8) : Fin 64 := Fin.ofNat 64 (b.toNat % 16 * 4 + c.toNat / 64)

/-- The last digit of a group. -/
def digit₃ (c : UInt8) : Fin 64 := Fin.ofNat 64 (c.toNat % 64)

/-- The first byte of a group. -/
def byte₀ (w x : Fin 64) : UInt8 := UInt8.ofNat (w.val * 4 + x.val / 16)

/-- The second byte of a group. -/
def byte₁ (x y : Fin 64) : UInt8 := UInt8.ofNat (x.val % 16 * 16 + y.val / 4)

/-- The last byte of a group. -/
def byte₂ (y z : Fin 64) : UInt8 := UInt8.ofNat (y.val % 4 * 64 + z.val)

/-- The digits of bytes. Missing bits of a last digit are zero. -/
def sextets : List UInt8 → List (Fin 64)
  | [] => []
  | [a] => [digit₀ a, digit₁ a 0]
  | [a, b] => [digit₀ a, digit₁ a b, digit₂ b 0]
  | a :: b :: c :: bs => digit₀ a :: digit₁ a b :: digit₂ b c :: digit₃ c :: sextets bs

/-- The bytes of digits. Bits that do not make a byte are dropped; a single digit at the end does
not make one. -/
def octets : List (Fin 64) → Option (List UInt8)
  | [] => some []
  | [_] => none
  | [w, x] => some [byte₀ w x]
  | [w, x, y] => some [byte₀ w x, byte₁ x y]
  | w :: x :: y :: z :: ds => (octets ds).map fun bs => byte₀ w x :: byte₁ x y :: byte₂ y z :: bs

/-- The bytes that are missing in the last group of so many. -/
def missing (n : ℕ) : ℕ := (3 - n % 3) % 3

@[simp] theorem byte₀_digit (a b : UInt8) : byte₀ (digit₀ a) (digit₁ a b) = a := by
  have := a.toNat_lt
  have := b.toNat_lt
  simp only [byte₀, digit₀, digit₁, Fin.val_ofNat, ← UInt8.toNat_inj, UInt8.toNat_ofNat']
  omega

@[simp] theorem byte₁_digit (a b c : UInt8) : byte₁ (digit₁ a b) (digit₂ b c) = b := by
  have := b.toNat_lt
  have := c.toNat_lt
  simp only [byte₁, digit₁, digit₂, Fin.val_ofNat, ← UInt8.toNat_inj, UInt8.toNat_ofNat']
  omega

@[simp] theorem byte₂_digit (b c : UInt8) : byte₂ (digit₂ b c) (digit₃ c) = c := by
  have := c.toNat_lt
  simp only [byte₂, digit₂, digit₃, Fin.val_ofNat, ← UInt8.toNat_inj, UInt8.toNat_ofNat']
  omega

theorem octets_group (a b c : UInt8) (ds : List (Fin 64)) :
    octets (digit₀ a :: digit₁ a b :: digit₂ b c :: digit₃ c :: ds) =
      (octets ds).map fun bs => a :: b :: c :: bs := by
  rw [octets, byte₀_digit, byte₁_digit, byte₂_digit]

/-- A last group that is filled with zeros is read as its bytes and zeros. -/
theorem octets_sextets_append (bs : List UInt8) :
    octets (sextets bs ++ List.replicate (missing bs.length) 0) =
      some (bs ++ List.replicate (missing bs.length) 0) := by
  induction bs using sextets.induct with
  | case1 => rfl
  | case2 a => exact octets_group a 0 0 []
  | case3 a b => exact octets_group a b 0 []
  | case4 a b c bs ih =>
    have hmissing : missing (a :: b :: c :: bs).length = missing bs.length := by
      simp only [missing, List.length_cons]
      omega
    rw [hmissing, sextets, List.cons_append, List.cons_append, List.cons_append, List.cons_append,
      octets_group, ih]
    rfl

/-- Whole groups are read without a remainder, as three bytes for four digits. -/
theorem octets_of_dvd {ds : List (Fin 64)} (h : 4 ∣ ds.length) :
    ∃ bs, octets ds = some bs ∧ 4 * bs.length = 3 * ds.length := by
  induction ds using octets.induct with
  | case1 => exact ⟨[], rfl, rfl⟩
  | case2 | case3 | case4 =>
    simp only [List.length_cons, List.length_nil] at h
    omega
  | case5 w x y z ds ih =>
    obtain ⟨bs, hbs, hlength⟩ := ih (by simp only [List.length_cons] at h; omega)
    refine ⟨_, congrArg (Option.map _) hbs, ?_⟩
    simp only [List.length_cons]
    omega

/-! ## Characters -/

/-- The character of a digit. -/
def toChar (d : Fin 64) : UInt8 :=
  if d.val < 26 then UInt8.ofNat (65 + d.val)
  else if d.val < 52 then UInt8.ofNat (71 + d.val)
  else if d.val < 62 then UInt8.ofNat (d.val - 4)
  else if d.val = 62 then 43
  else 47

/-- The digit of a character. -/
def ofChar? (c : UInt8) : Option (Fin 64) :=
  if 65 ≤ c.toNat ∧ c.toNat ≤ 90 then some (Fin.ofNat 64 (c.toNat - 65))
  else if 97 ≤ c.toNat ∧ c.toNat ≤ 122 then some (Fin.ofNat 64 (c.toNat - 71))
  else if 48 ≤ c.toNat ∧ c.toNat ≤ 57 then some (Fin.ofNat 64 (c.toNat + 4))
  else if c.toNat = 43 then some 62
  else if c.toNat = 47 then some 63
  else none

/-- The digits of a text. -/
def fromChars : List UInt8 → Option (List (Fin 64))
  | [] => some []
  | c :: cs => (ofChar? c).bind fun d => (fromChars cs).map (d :: ·)

/-- `isspace` of the C locale. -/
def isSpace (c : UInt8) : Bool := c.toNat = 32 ∨ 9 ≤ c.toNat ∧ c.toNat ≤ 13

@[simp] theorem ofChar?_toChar : ∀ d, ofChar? (toChar d) = some d := by decide

theorem isSpace_of_ofChar? {c : UInt8} (h : (ofChar? c).isSome = true) : isSpace c = false := by
  have hspace : ¬ (c.toNat = 32 ∨ 9 ≤ c.toNat ∧ c.toNat ≤ 13) := by
    intro hspace
    rw [ofChar?, if_neg (by omega), if_neg (by omega), if_neg (by omega), if_neg (by omega),
      if_neg (by omega)] at h
    cases h
  simpa [isSpace] using hspace

theorem isSpace_toChar (d : Fin 64) : isSpace (toChar d) = false :=
  isSpace_of_ofChar? (by rw [ofChar?_toChar]; rfl)

theorem fromChars_append {cs cs' : List UInt8} {ds ds' : List (Fin 64)} (h : fromChars cs = some ds)
    (h' : fromChars cs' = some ds') : fromChars (cs ++ cs') = some (ds ++ ds') := by
  induction cs generalizing ds with
  | nil =>
    cases h
    exact h'
  | cons c cs ih =>
    rw [fromChars, Option.bind_eq_some_iff] at h
    obtain ⟨d, hd, h⟩ := h
    obtain ⟨ds, hds, rfl⟩ := Option.map_eq_some_iff.mp h
    rw [List.cons_append, fromChars, hd, Option.bind_some, ih hds]
    rfl

@[simp] theorem fromChars_map_toChar (ds : List (Fin 64)) :
    fromChars (ds.map toChar) = some ds := by
  induction ds with
  | nil => rfl
  | cons d ds ih =>
    rw [List.map_cons, fromChars, ofChar?_toChar, Option.bind_some, ih, Option.map_some]

/-- A text over the alphabet has a digit for each character. -/
theorem fromChars_of_forall {cs : List UInt8} (h : ∀ c ∈ cs, (ofChar? c).isSome = true) :
    ∃ ds, fromChars cs = some ds ∧ ds.length = cs.length := by
  induction cs with
  | nil => exact ⟨[], rfl, rfl⟩
  | cons c cs ih =>
    rw [List.forall_mem_cons] at h
    obtain ⟨d, hd⟩ := Option.isSome_iff_exists.mp h.1
    obtain ⟨ds, hds, hlength⟩ := ih h.2
    refine ⟨d :: ds, ?_, congrArg (· + 1) hlength⟩
    rw [fromChars, hd, Option.bind_some, hds, Option.map_some]

/-! ## Lines -/

/-- A line end before every character that finds `width` characters on its line. -/
def insertLinebreaks (width : ℕ) : ℕ → List UInt8 → List UInt8
  | _, [] => []
  | count, c :: cs =>
    if count = width then 10 :: c :: insertLinebreaks width 1 cs
    else c :: insertLinebreaks width (count + 1) cs

theorem mem_insertLinebreaks {width count : ℕ} {cs : List UInt8} {b : UInt8}
    (h : b ∈ insertLinebreaks width count cs) : b = 10 ∨ b ∈ cs := by
  induction cs generalizing count with
  | nil => cases h
  | cons c cs ih =>
    rw [insertLinebreaks] at h
    split at h
    · rw [List.mem_cons, List.mem_cons] at h
      obtain rfl | rfl | h := h
      · exact Or.inl rfl
      · exact Or.inr List.mem_cons_self
      · exact (ih h).imp_right (List.mem_cons_of_mem c)
    · rw [List.mem_cons] at h
      obtain rfl | h := h
      · exact Or.inr List.mem_cons_self
      · exact (ih h).imp_right (List.mem_cons_of_mem c)

/-- Without the spaces, the line ends are gone. -/
theorem filter_insertLinebreaks (width count : ℕ) {cs : List UInt8}
    (h : ∀ c ∈ cs, isSpace c = false) :
    (insertLinebreaks width count cs).filter (fun c => !isSpace c) = cs := by
  induction cs generalizing count with
  | nil => rfl
  | cons c cs ih =>
    rw [List.forall_mem_cons] at h
    rw [insertLinebreaks]
    split
    · rw [List.filter_cons_of_neg (by decide), List.filter_cons_of_pos (by rw [h.1]; rfl), ih _ h.2]
    · rw [List.filter_cons_of_pos (by rw [h.1]; rfl), ih _ h.2]

/-! ## Padded texts -/

/-- The character `=`. -/
def pad : UInt8 := 61

/-- The digits of bytes as text, filled up to whole groups. -/
def encode (bs : List UInt8) : List UInt8 :=
  (sextets bs).map toChar ++ List.replicate (missing bs.length) pad

/-- The bytes of a text. It ends with its digits, or with as many `=` as fill the last group. -/
def decode (cs : List UInt8) : Option (List UInt8) :=
  let digits := cs.takeWhile (· ≠ pad)
  let rest := cs.dropWhile (· ≠ pad)
  if rest = [] ∨ digits.length % 4 = 2 ∧ rest = [pad, pad] ∨ digits.length % 4 = 3 ∧
    rest = [pad] then
    (fromChars digits).bind octets
  else none

theorem toChar_ne_pad : ∀ d, toChar d ≠ pad := by decide

theorem octets_sextets (bs : List UInt8) : octets (sextets bs) = some bs := by
  induction bs using sextets.induct with
  | case1 => rfl
  | case2 a => exact congrArg (fun b => some [b]) (byte₀_digit a 0)
  | case3 a b =>
    have hfirst := byte₀_digit a b
    have hlast := byte₁_digit a b 0
    rw [sextets, octets, hfirst, hlast]
  | case4 a b c bs ih =>
    rw [sextets, octets_group, ih]
    rfl

/-- How many digits the last group has, and how many are missing. -/
theorem length_sextets_mod (bs : List UInt8) :
    missing bs.length = 0 ∨ (sextets bs).length % 4 = 2 ∧ missing bs.length = 2 ∨
      (sextets bs).length % 4 = 3 ∧ missing bs.length = 1 := by
  induction bs using sextets.induct with
  | case1 => exact .inl rfl
  | case2 a => exact .inr (.inl ⟨rfl, rfl⟩)
  | case3 a b => exact .inr (.inr ⟨rfl, rfl⟩)
  | case4 a b c bs ih =>
    simp only [missing, sextets, List.length_cons] at ih ⊢
    omega

/-- Decoding gives back what was encoded. -/
theorem decode_encode (bs : List UInt8) : decode (encode bs) = some bs := by
  have hne : ∀ c ∈ (sextets bs).map toChar, decide (c ≠ pad) = true := by
    intro c hc
    obtain ⟨d, -, rfl⟩ := List.mem_map.mp hc
    exact decide_eq_true (toChar_ne_pad d)
  have htake : (encode bs).takeWhile (· ≠ pad) = (sextets bs).map toChar := by
    rw [encode, List.takeWhile_append_of_pos hne]
    cases missing bs.length <;> simp [List.replicate_succ]
  have hdrop : (encode bs).dropWhile (· ≠ pad) = List.replicate (missing bs.length) pad := by
    rw [encode, List.dropWhile_append_of_pos hne]
    cases missing bs.length <;> simp [List.replicate_succ]
  rw [decode, htake, hdrop, if_pos, fromChars_map_toChar, Option.bind_some, octets_sextets]
  rw [List.length_map]
  rcases length_sextets_mod bs with h | ⟨hdigits, h⟩ | ⟨hdigits, h⟩ <;> rw [h]
  · exact .inl rfl
  · exact .inr (.inl ⟨hdigits, rfl⟩)
  · exact .inr (.inr ⟨hdigits, rfl⟩)

theorem encode_injective : Function.Injective encode := by
  intro bs bs' h
  have hdecode := congrArg decode h
  rw [decode_encode, decode_encode] at hdecode
  exact Option.some.inj hdecode

end Base64
