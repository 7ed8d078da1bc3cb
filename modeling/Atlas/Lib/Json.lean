import Mathlib.Data.List.Basic

/-! # JSON texts

A parser for JSON texts as byte strings, after RFC 8259: it returns the value of a text, or nothing
when the text is not well-formed. The string of a value is the UTF-8 encoding of its characters, and
an object is the list of its members, with repeated keys where the text has them.

A string that may stand between quotes as it is, without any escape, is `Plain`. Between quotes it
parses to itself (`string_of_plain`), and no other string does, whatever text follows, as long as
the next line break comes before the next quote (`plain_of_string`).
-/

namespace Json

/-- The bytes of the structural characters. -/
abbrev quote : UInt8 := 0x22
abbrev backslash : UInt8 := 0x5C
abbrev openBrace : UInt8 := 0x7B
abbrev closeBrace : UInt8 := 0x7D
abbrev openBracket : UInt8 := 0x5B
abbrev closeBracket : UInt8 := 0x5D
abbrev colon : UInt8 := 0x3A
abbrev comma : UInt8 := 0x2C
abbrev newline : UInt8 := 0x0A
abbrev space : UInt8 := 0x20

/-- A JSON value. A number is kept as it is written. -/
inductive Value where
  | null
  | bool (b : Bool)
  | number (text : List UInt8)
  | string (s : List UInt8)
  | array (elements : List Value)
  | object (members : List (List UInt8 × Value))

/-- The members of an object with strings as values. -/
def members (fields : List (List UInt8 × List UInt8)) : List (List UInt8 × Value) :=
  fields.map fun (key, value) => (key, .string value)

/-! ## Characters -/

/-- A byte between two bounds. -/
def within (low high b : UInt8) : Bool := low ≤ b && b ≤ high

/-- The trailing byte of a UTF-8 sequence. -/
def tail (b : UInt8) : Bool := within 0x80 0xBF b

/-- A UTF-8 sequence of more than one byte (RFC 3629, section 4). -/
def multibyte : List UInt8 → Bool
  | [a, b] => within 0xC2 0xDF a && tail b
  | [a, b, c] =>
    (a = 0xE0 && within 0xA0 0xBF b || within 0xE1 0xEC a && tail b ||
      a = 0xED && within 0x80 0x9F b || within 0xEE 0xEF a && tail b) && tail c
  | [a, b, c, d] =>
    (a = 0xF0 && within 0x90 0xBF b || within 0xF1 0xF3 a && tail b ||
      a = 0xF4 && within 0x80 0x8F b) && tail c && tail d
  | _ => false

/-- A character that needs no escape: not a quote, a backslash or a control character. -/
def unescaped : List UInt8 → Bool
  | [b] => space ≤ b && b < 0x80 && b ≠ quote && b ≠ backslash
  | c => multibyte c

/-- The width of a character with this first byte. -/
def width (b : UInt8) : ℕ :=
  if b.toNat < 0x80 then 1 else if b.toNat < 0xE0 then 2 else if b.toNat < 0xF0 then 3 else 4

/-- The value of a hexadecimal digit. -/
def hexDigit (b : UInt8) : Option ℕ :=
  if within 0x30 0x39 b then some (b.toNat - 0x30)
  else if within 0x41 0x46 b then some (b.toNat - 0x37)
  else if within 0x61 0x66 b then some (b.toNat - 0x57)
  else none

/-- The code unit of `\uXXXX`, after the `u`. -/
def codeUnit : List UInt8 → Option (ℕ × List UInt8)
  | a :: b :: c :: d :: t => do
      let a ← hexDigit a
      let b ← hexDigit b
      let c ← hexDigit c
      let d ← hexDigit d
      some (((a * 16 + b) * 16 + c) * 16 + d, t)
  | _ => none

/-- The UTF-8 encoding of a code point. A surrogate without its partner is encoded like any
other. -/
def encodeUtf8 (n : ℕ) : List UInt8 :=
  if n < 0x80 then [.ofNat n]
  else if n < 0x800 then [.ofNat (0xC0 + n / 0x40), .ofNat (0x80 + n % 0x40)]
  else if n < 0x10000 then
    [.ofNat (0xE0 + n / 0x1000), .ofNat (0x80 + n / 0x40 % 0x40), .ofNat (0x80 + n % 0x40)]
  else
    [.ofNat (0xF0 + n / 0x40000), .ofNat (0x80 + n / 0x1000 % 0x40),
      .ofNat (0x80 + n / 0x40 % 0x40), .ofNat (0x80 + n % 0x40)]

/-- The second half of a surrogate pair. -/
def lowSurrogate : List UInt8 → Option (ℕ × List UInt8)
  | a :: b :: t =>
    if a = backslash ∧ b = 0x75 then
      (codeUnit t).filter fun (low, _) => 0xDC00 ≤ low ∧ low < 0xE000
    else none
  | _ => none

/-- A `\u` escape, after the `u`: a code unit, or two that form a pair. -/
def unicodeEscape (t : List UInt8) : Option (List UInt8 × List UInt8) := do
  let (high, t) ← codeUnit t
  if 0xD800 ≤ high ∧ high < 0xDC00 then
    match lowSurrogate t with
    | some (low, t) => some (encodeUtf8 (0x10000 + (high - 0xD800) * 0x400 + (low - 0xDC00)), t)
    | none => some (encodeUtf8 high, t)
  else some (encodeUtf8 high, t)

/-- The escapes of one letter, and what they stand for. -/
def shortEscapes : List (UInt8 × UInt8) :=
  [(quote, quote), (backslash, backslash), (0x2F, 0x2F), (0x62, 0x08), (0x66, 0x0C),
    (0x6E, newline), (0x72, 0x0D), (0x74, 0x09)]

/-- An escape, after the backslash. -/
def escape : List UInt8 → Option (List UInt8 × List UInt8)
  | [] => none
  | b :: t =>
    if b = 0x75 then unicodeEscape t
    else (shortEscapes.find? (·.1 = b)).map fun (_, c) => ([c], t)

/-- The first character of a string, and the text after it. -/
def character (t : List UInt8) : Option (List UInt8 × List UInt8) :=
  match t with
  | [] => none
  | b :: rest =>
    if b = backslash then escape rest
    else if unescaped (t.take (width b)) then some (t.take (width b), t.drop (width b))
    else none

/-- The characters up to the closing quote. -/
def characters : ℕ → List UInt8 → Option (List UInt8 × List UInt8)
  | 0, _ => none
  | n + 1, t =>
    if t.head? = some quote then some ([], t.tail)
    else do
      let (c, t) ← character t
      let (s, t) ← characters n t
      some (c ++ s, t)

/-- A string, after its opening quote. -/
def string (t : List UInt8) : Option (List UInt8 × List UInt8) := characters t.length t

/-! ## Numbers -/

/-- A run of digits. -/
def digits (t : List UInt8) : List UInt8 × List UInt8 := t.span (within 0x30 0x39)

/-- At least one digit. -/
def digits₁ (t : List UInt8) : Option (List UInt8 × List UInt8) :=
  if (digits t).1 = [] then none else some (digits t)

/-- The byte, if it comes next and is one of these. -/
def optional (bs : List UInt8) : List UInt8 → List UInt8 × List UInt8
  | [] => ([], [])
  | b :: t => if b ∈ bs then ([b], t) else ([], b :: t)

/-- A number: a sign, an integer without leading zeros, a fraction and an exponent. -/
def number (t : List UInt8) : Option (List UInt8 × List UInt8) := do
  let (sign, t) := optional [0x2D] t
  let (int, t) ← digits₁ t
  if int.head? = some 0x30 ∧ int.length ≠ 1 then none else
  let (point, t) := optional [0x2E] t
  let (fraction, t) ← if point = [] then some ([], t) else digits₁ t
  let (e, t) := optional [0x65, 0x45] t
  let (esign, t) := if e = [] then ([], t) else optional [0x2B, 0x2D] t
  let (exponent, t) ← if e = [] then some ([], t) else digits₁ t
  some (sign ++ int ++ point ++ fraction ++ e ++ esign ++ exponent, t)

/-! ## Values -/

/-- Skips white space. -/
def skip (t : List UInt8) : List UInt8 := t.dropWhile (· ∈ [space, 0x09, newline, 0x0D])

/-- The text after this byte. -/
def expect (b : UInt8) (t : List UInt8) : Option (List UInt8) :=
  if t.head? = some b then some t.tail else none

/-- A list of items up to its closing byte, with commas between them. -/
def items {α : Type} (close : UInt8) (item : List UInt8 → Option (α × List UInt8)) :
    ℕ → List UInt8 → Option (List α × List UInt8)
  | 0, _ => none
  | n + 1, t => do
      let (a, t) ← item t
      let t := skip t
      if t.head? = some close then some ([a], t.tail)
      else do
        let t ← expect comma t
        let (as, t) ← items close item n t
        some (a :: as, t)

/-- A list of items, after its opening byte. It may be empty. -/
def list {α : Type} (close : UInt8) (item : List UInt8 → Option (α × List UInt8)) (t : List UInt8) :
    Option (List α × List UInt8) :=
  if (skip t).head? = some close then some ([], (skip t).tail) else items close item t.length t

/-- A member of an object. -/
def member (value : List UInt8 → Option (Value × List UInt8)) (t : List UInt8) :
    Option ((List UInt8 × Value) × List UInt8) := do
  let t ← expect quote (skip t)
  let (key, t) ← string t
  let t ← expect colon (skip t)
  let (v, t) ← value t
  some ((key, v), t)

/-- The literal names. -/
def literals : List (List UInt8 × Value) :=
  [([0x74, 0x72, 0x75, 0x65], .bool true), ([0x66, 0x61, 0x6C, 0x73, 0x65], .bool false),
    ([0x6E, 0x75, 0x6C, 0x6C], .null)]

/-- A literal name or a number. -/
def scalar (t : List UInt8) : Option (Value × List UInt8) :=
  match literals.find? fun (name, _) => name <+: t with
  | some (name, v) => some (v, t.drop name.length)
  | none => (number t).map fun (text, t) => (.number text, t)

/-- A value, nested at most so deep. -/
def value : ℕ → List UInt8 → Option (Value × List UInt8)
  | 0, _ => none
  | n + 1, t =>
    let t := skip t
    if t.head? = some quote then (string t.tail).map fun (s, t) => (.string s, t)
    else if t.head? = some openBrace then
      (list closeBrace (member (value n)) t.tail).map fun (members, t) => (.object members, t)
    else if t.head? = some openBracket then
      (list closeBracket (value n) t.tail).map fun (elements, t) => (.array elements, t)
    else scalar t

/-- The value of a text. A nesting takes two bytes, so the length bounds its depth. -/
def parse (t : List UInt8) : Option Value :=
  match value (t.length + 1) t with
  | some (v, rest) => if skip rest = [] then some v else none
  | none => none

/-! ## Plain strings -/

/-- A string of characters that need no escape. -/
inductive Plain : List UInt8 → Prop where
  | nil : Plain []
  | cons {c s : List UInt8} (hc : unescaped c = true) (hs : Plain s) : Plain (c ++ s)

theorem within_iff {low high b : UInt8} :
    within low high b = true ↔ low.toNat ≤ b.toNat ∧ b.toNat ≤ high.toNat := by
  simp [within, UInt8.le_iff_toNat_le]

/-- A character is one byte below 128, or two to four bytes from there on, and its first byte tells
which. -/
theorem unescaped_cases {c : List UInt8} (h : unescaped c = true) :
    (∃ a, c = [a] ∧ 0x20 ≤ a.toNat ∧ a.toNat < 0x80 ∧ a ≠ quote ∧ a ≠ backslash) ∨
    (∃ a b, c = [a, b] ∧ 0x80 ≤ a.toNat ∧ a.toNat < 0xE0 ∧ 0x80 ≤ b.toNat) ∨
    (∃ a b d, c = [a, b, d] ∧ 0xE0 ≤ a.toNat ∧ a.toNat < 0xF0 ∧ 0x80 ≤ b.toNat ∧
      0x80 ≤ d.toNat) ∨
    ∃ a b d e, c = [a, b, d, e] ∧ 0xF0 ≤ a.toNat ∧ 0x80 ≤ b.toNat ∧ 0x80 ≤ d.toNat ∧
      0x80 ≤ e.toNat := by
  rcases c with _ | ⟨a, _ | ⟨b, _ | ⟨d, _ | ⟨e, _ | ⟨f, c⟩⟩⟩⟩⟩
  · simp [unescaped, multibyte] at h
  · simp only [unescaped, Bool.and_eq_true, decide_eq_true_eq, UInt8.lt_iff_toNat_lt,
      UInt8.le_iff_toNat_le] at h
    exact .inl ⟨a, rfl, h.1.1.1, h.1.1.2, h.1.2, h.2⟩
  · simp [unescaped, multibyte, tail, within_iff] at h
    exact .inr (.inl ⟨a, b, rfl, by omega⟩)
  · simp [unescaped, multibyte, tail, within_iff, ← UInt8.toNat_inj] at h
    exact .inr (.inr (.inl ⟨a, b, d, rfl, by omega⟩))
  · simp [unescaped, multibyte, tail, within_iff, ← UInt8.toNat_inj] at h
    exact .inr (.inr (.inr ⟨a, b, d, e, rfl, by omega⟩))
  · simp [unescaped, multibyte] at h

theorem length_eq_width {a : UInt8} {c : List UInt8} (h : unescaped (a :: c) = true) :
    (a :: c).length = width a := by
  rw [width]
  rcases unescaped_cases h with ⟨a', heq, ha⟩ | ⟨a', b, heq, ha⟩ | ⟨a', b, d, heq, ha⟩ |
    ⟨a', b, d, e, heq, ha⟩ <;> cases heq
  · rw [if_pos ha.2.1]
    rfl
  · rw [if_neg (by omega), if_pos ha.2.1]
    rfl
  · rw [if_neg (by omega), if_neg (by omega), if_pos ha.2.1]
    rfl
  · rw [if_neg (by omega), if_neg (by omega), if_neg (by omega)]
    rfl

/-- Neither a quote nor a backslash starts a character, and no control character is in one. -/
theorem bytes_of_unescaped {a : UInt8} {c : List UInt8} (h : unescaped (a :: c) = true) :
    a ≠ quote ∧ a ≠ backslash ∧ ∀ b ∈ a :: c, 0x20 ≤ b.toNat := by
  have hhigh : 0x80 ≤ a.toNat → a ≠ quote ∧ a ≠ backslash := by
    refine fun ha => ⟨?_, ?_⟩ <;> rintro rfl <;> exact absurd ha (by decide)
  rcases unescaped_cases h with ⟨a', heq, ha⟩ | ⟨a', b, heq, ha⟩ | ⟨a', b, d, heq, ha⟩ |
    ⟨a', b, d, e, heq, ha⟩ <;> cases heq
  · exact ⟨ha.2.2.1, ha.2.2.2, by simpa using ha.1⟩
  all_goals
    obtain ⟨hquote, hbackslash⟩ := hhigh (by omega)
    refine ⟨hquote, hbackslash, ?_⟩
    simp only [List.mem_cons, List.not_mem_nil, or_false, forall_eq_or_imp, forall_eq]
    omega

/-- A character is read off the front of a text. -/
theorem character_append {c : List UInt8} (h : unescaped c = true) (r : List UInt8) :
    character (c ++ r) = some (c, r) := by
  cases c with
  | nil => simp [unescaped, multibyte] at h
  | cons a c =>
    have hwidth := length_eq_width h
    rw [List.cons_append, character, if_neg (bytes_of_unescaped h).2.1, ← hwidth,
      ← List.cons_append, List.take_left, List.drop_left, if_pos h]

theorem length_encodeUtf8_le (n : ℕ) : (encodeUtf8 n).length ≤ 4 := by
  rw [encodeUtf8]
  split
  · simp
  · split
    · simp
    · split <;> simp

/-- A code unit is written with four digits. -/
theorem codeUnit_eq_some {t r : List UInt8} {n : ℕ} (h : codeUnit t = some (n, r)) :
    ∃ ds, t = ds ++ r ∧ ds.length = 4 ∧ ∀ b ∈ ds, 0x20 ≤ b.toNat := by
  have hdigit : ∀ {b : UInt8} {m : ℕ}, hexDigit b = some m → 0x20 ≤ b.toNat := by
    intro b m hb
    simp only [hexDigit, within_iff] at hb
    by_contra hlt
    have hnot : ∀ low high : UInt8, 0x20 ≤ low.toNat →
        ¬(low.toNat ≤ b.toNat ∧ b.toNat ≤ high.toNat) := by
      intro low high hlow h
      omega
    rw [if_neg (hnot _ _ (by decide)), if_neg (hnot _ _ (by decide)),
      if_neg (hnot _ _ (by decide))] at hb
    cases hb
  rcases t with _ | ⟨a, _ | ⟨b, _ | ⟨c, _ | ⟨d, t⟩⟩⟩⟩
  · cases h
  · cases h
  · cases h
  · cases h
  · simp only [codeUnit, Option.bind_eq_bind, Option.bind_eq_some_iff] at h
    obtain ⟨_, ha, _, hb, _, hc, _, hd, h⟩ := h
    cases h
    exact ⟨[a, b, c, d], rfl, rfl, by simp [hdigit ha, hdigit hb, hdigit hc, hdigit hd]⟩

theorem lowSurrogate_eq_some {t r : List UInt8} {n : ℕ} (h : lowSurrogate t = some (n, r)) :
    ∃ pre, t = pre ++ r ∧ ∀ b ∈ pre, 0x20 ≤ b.toNat := by
  rcases t with _ | ⟨a, _ | ⟨b, t⟩⟩
  · cases h
  · cases h
  · rw [lowSurrogate] at h
    split at h
    case isTrue hu =>
      obtain ⟨rfl, rfl⟩ := hu
      obtain ⟨ds, rfl, -, hds⟩ := codeUnit_eq_some (Option.filter_eq_some_iff.mp h).1
      exact ⟨backslash :: 0x75 :: ds, rfl,
        List.forall_mem_cons.mpr ⟨by decide, List.forall_mem_cons.mpr ⟨by decide, hds⟩⟩⟩
    case isFalse => cases h

/-- A `\u` escape has at least four digits, and its character at most four bytes. -/
theorem unicodeEscape_eq_some {t c r : List UInt8} (h : unicodeEscape t = some (c, r)) :
    ∃ pre, t = pre ++ r ∧ c.length ≤ pre.length ∧ ∀ b ∈ pre, 0x20 ≤ b.toNat := by
  simp only [unicodeEscape, Option.bind_eq_bind, Option.bind_eq_some_iff] at h
  obtain ⟨⟨high, t'⟩, hhigh, h⟩ := h
  obtain ⟨ds, rfl, hlen, hds⟩ := codeUnit_eq_some hhigh
  have hsingle : some (encodeUtf8 high, t') = some (c, r) →
      ∃ pre, ds ++ t' = pre ++ r ∧ c.length ≤ pre.length ∧ ∀ b ∈ pre, 0x20 ≤ b.toNat := by
    rintro ⟨⟩
    exact ⟨ds, rfl, hlen ▸ length_encodeUtf8_le high, hds⟩
  dsimp only at h
  split at h
  case isTrue =>
    cases hlow : lowSurrogate t' with
    | none =>
      rw [hlow] at h
      exact hsingle h
    | some p =>
      obtain ⟨pre, rfl, hpre⟩ := lowSurrogate_eq_some hlow
      simp only [hlow, Option.some.injEq, Prod.mk.injEq] at h
      obtain ⟨hc, rfl⟩ := h
      refine ⟨ds ++ pre, (List.append_assoc ..).symm, ?_, ?_⟩
      · rw [List.length_append, hlen, ← hc]
        exact Nat.le_trans (length_encodeUtf8_le _) (Nat.le_add_right 4 _)
      · intro b hb
        exact (List.mem_append.mp hb).elim (hds b) (hpre b)
  case isFalse => exact hsingle h

/-- An escape is written with more bytes than the character it stands for has. -/
theorem escape_eq_some {t c r : List UInt8} (h : escape t = some (c, r)) :
    ∃ pre, t = pre ++ r ∧ c.length ≤ pre.length ∧ ∀ b ∈ pre, 0x20 ≤ b.toNat := by
  cases t with
  | nil => cases h
  | cons b t =>
    rw [escape] at h
    split at h
    case isTrue hu =>
      subst hu
      obtain ⟨pre, rfl, hlen, hpre⟩ := unicodeEscape_eq_some h
      exact ⟨0x75 :: pre, rfl, Nat.le_succ_of_le hlen, by simpa using hpre⟩
    case isFalse hu =>
      obtain ⟨⟨b', c'⟩, hfind, hc⟩ := Option.map_eq_some_iff.mp h
      cases hc
      have hkey : b' = b := by simpa using List.find?_some hfind
      have hmem := List.mem_of_find?_eq_some hfind
      refine ⟨[b], rfl, Nat.le_refl 1, ?_⟩
      have hall : shortEscapes.all (fun e => 0x20 ≤ e.1.toNat) = true := by decide
      simpa [← hkey] using List.all_eq_true.mp hall _ hmem

/-- The first character of a string is written as it is, or it is escaped and takes more bytes. -/
theorem character_eq_some {t c r : List UInt8} (h : character t = some (c, r)) :
    ∃ pre, t = pre ++ r ∧ (∀ b ∈ pre, 0x20 ≤ b.toNat) ∧
      (pre = c ∧ unescaped c = true ∨ c.length < pre.length) := by
  cases t with
  | nil => cases h
  | cons b t =>
    rw [character] at h
    split at h
    case isTrue hb =>
      obtain ⟨pre, rfl, hlen, hpre⟩ := escape_eq_some h
      exact ⟨b :: pre, rfl, List.forall_mem_cons.mpr ⟨by rw [hb]; decide, hpre⟩,
        .inr (Nat.lt_succ_of_le hlen)⟩
    case isFalse hb =>
      split at h
      case isTrue hc =>
        cases h
        refine ⟨_, (List.take_append_drop _ _).symm, ?_, .inl ⟨rfl, hc⟩⟩
        cases htake : (b :: t).take (width b) with
        | nil => simp
        | cons a c => exact (bytes_of_unescaped (htake ▸ hc)).2.2
      case isFalse => cases h

/-- The characters up to the closing quote are written as they are, or with more bytes. -/
theorem characters_eq_some {n : ℕ} {t s r : List UInt8} (h : characters n t = some (s, r)) :
    ∃ pre, t = pre ++ quote :: r ∧ (∀ b ∈ pre, 0x20 ≤ b.toNat) ∧
      (pre = s ∧ Plain s ∨ s.length < pre.length) := by
  induction n generalizing t s with
  | zero => cases h
  | succ n ih =>
    rw [characters] at h
    split at h
    case isTrue hquote =>
      cases h
      exact ⟨[], (List.cons_head?_tail hquote).symm, by simp, .inl ⟨rfl, .nil⟩⟩
    case isFalse =>
      simp only [Option.bind_eq_bind, Option.bind_eq_some_iff] at h
      obtain ⟨⟨c, t'⟩, hchar, ⟨s', r'⟩, hrest, hs⟩ := h
      cases hs
      obtain ⟨pre, rfl, hpre, hc⟩ := character_eq_some hchar
      obtain ⟨pre', rfl, hpre', hs'⟩ := ih hrest
      refine ⟨pre ++ pre', (List.append_assoc ..).symm, ?_, ?_⟩
      · intro b hb
        exact (List.mem_append.mp hb).elim (hpre b) (hpre' b)
      · simp only [List.length_append]
        rcases hc with ⟨rfl, hc⟩ | hc <;> rcases hs' with ⟨rfl, hs'⟩ | hs'
        · exact .inl ⟨rfl, .cons hc hs'⟩
        all_goals exact .inr (by omega)

/-- Printable ASCII characters other than the quote and the backslash are plain. -/
theorem plain_of_all {s : List UInt8} (h : s.all (unescaped [·]) = true) : Plain s := by
  induction s with
  | nil => exact .nil
  | cons b s ih =>
    rw [List.all_cons, Bool.and_eq_true] at h
    exact .cons h.1 (ih h.2)

/-! ## Strings between quotes -/

theorem characters_of_plain {s : List UInt8} (h : Plain s) (r : List UInt8) {n : ℕ}
    (hn : s.length < n) : characters n (s ++ quote :: r) = some (s, r) := by
  induction h generalizing n with
  | nil =>
    obtain ⟨n, rfl⟩ := Nat.exists_eq_succ_of_ne_zero (Nat.ne_of_gt hn)
    rfl
  | @cons c s hc hs ih =>
    obtain ⟨n, rfl⟩ := Nat.exists_eq_succ_of_ne_zero (Nat.ne_of_gt (Nat.zero_lt_of_lt hn))
    cases c with
    | nil => simp [unescaped, multibyte] at hc
    | cons a c =>
      rw [List.length_append, List.length_cons] at hn
      have hquote : ((a :: c) ++ s ++ quote :: r).head? ≠ some quote := by
        simpa using (bytes_of_unescaped hc).1
      rw [characters, if_neg hquote, List.append_assoc, character_append hc]
      simp [ih (n := n) (by omega)]

/-- A plain string between quotes parses to itself. -/
theorem string_of_plain {s : List UInt8} (h : Plain s) (r : List UInt8) :
    string (s ++ quote :: r) = some (s, r) :=
  characters_of_plain h r (by simp)

/-- A string that parses to itself, with a line break behind it before the next quote, is plain. -/
theorem plain_of_string {s w t r : List UInt8} (hw : quote ∉ w)
    (h : string (s ++ quote :: (w ++ newline :: t)) = some (s, r)) : Plain s := by
  obtain ⟨pre, heq, hpre, ⟨rfl, hplain⟩ | hlen⟩ := characters_eq_some h
  · exact hplain
  · -- the string would go on behind its closing quote, over the line break
    obtain ⟨q, rfl, hq⟩ : ∃ q, pre = s ++ quote :: q ∧ w ++ newline :: t = q ++ quote :: r := by
      rcases List.append_eq_append_iff.mp heq with ⟨q, rfl, hq⟩ | ⟨q, rfl, hq⟩
      · cases q with
        | nil => simp at hlen
        | cons b q =>
          obtain ⟨rfl, htail⟩ := List.cons.inj hq
          exact ⟨q, rfl, htail⟩
      · rw [List.length_append] at hlen
        omega
    have hnewline : newline ∉ q := by
      intro hmem
      have hle := hpre newline (by simp [hmem])
      exact absurd hle (by decide)
    rcases List.append_eq_append_iff.mp hq with ⟨w', rfl, hw'⟩ | ⟨w', rfl, hw'⟩
    · cases w' with
      | nil => exact absurd (List.cons.inj hw').1 (by decide)
      | cons b w' =>
        obtain ⟨rfl, -⟩ := List.cons.inj hw'
        simp at hnewline
    · cases w' with
      | nil => exact absurd (List.cons.inj hw').1 (by decide)
      | cons b w' =>
        obtain ⟨rfl, -⟩ := List.cons.inj hw'
        simp at hw

/-! ## Rules of the parser -/

section Rules

variable {α : Type} {t t' r r' key : List UInt8}

theorem parse_eq_bind (t : List UInt8) :
    parse t = (value (t.length + 1) t).bind fun (v, r) => if skip r = [] then some v else none := by
  rw [parse]
  cases value (t.length + 1) t <;> rfl

theorem value_of_quote (n : ℕ) (h : skip t = quote :: t') :
    value (n + 1) t = (string t').map fun (s, r) => (.string s, r) := by
  simp [value, h]

theorem value_of_openBrace (n : ℕ) (h : skip t = openBrace :: t') :
    value (n + 1) t =
      (list closeBrace (member (value n)) t').map fun (members, r) => (.object members, r) := by
  have hne : openBrace ≠ quote := by decide
  simp [value, h, hne]

/-- A member with a plain key. -/
theorem member_of_plain {value : List UInt8 → Option (Value × List UInt8)} (hkey : Plain key)
    (h : skip t = quote :: (key ++ quote :: colon :: t')) :
    member value t = (value t').map fun (v, r) => ((key, v), r) := by
  have hcolon : expect colon (skip (colon :: t')) = some t' := rfl
  simp only [member, h, expect, List.head?_cons, if_true, List.tail_cons, string_of_plain hkey,
    Option.bind_eq_bind, Option.bind_some]
  rw [← expect, hcolon, Option.bind_some]
  cases value t' <;> rfl

variable {close : UInt8} {item : List UInt8 → Option (α × List UInt8)} {a : α} (n : ℕ)

theorem list_of_head? (h : (skip t).head? ≠ some close) :
    list close item t = items close item t.length t := if_neg h

/-- The last item of a list. -/
theorem items_last (ha : item t = some (a, r)) (hr : skip r = close :: r') :
    items close item (n + 1) t = some ([a], r') := by
  simp [items, ha, hr]

/-- An item and a comma. -/
theorem items_comma (hclose : close ≠ comma) (ha : item t = some (a, r))
    (hr : skip r = comma :: r') :
    items close item (n + 1) t =
      (items close item n r').map fun (as, r) => (a :: as, r) := by
  simp only [items, ha, hr, Option.bind_eq_bind, Option.bind_some, List.head?_cons,
    Option.some.injEq, hclose.symm, if_false, expect, if_true, List.tail_cons]
  cases items close item n r' <;> rfl

/-- The first item of a list is the first item of the text. -/
theorem head_of_items {as : List α} (h : items close item (n + 1) t = some (a :: as, r)) :
    ∃ r', item t = some (a, r') := by
  simp only [items, Option.bind_eq_bind, Option.bind_eq_some_iff] at h
  obtain ⟨⟨a', t'⟩, ha, h⟩ := h
  split at h
  · cases h
    exact ⟨t', ha⟩
  · simp only [Option.bind_eq_some_iff] at h
    obtain ⟨_, _, _, _, h⟩ := h
    cases h
    exact ⟨t', ha⟩

end Rules

end Json
