import Atlas.Lib.Bytes

/-! # Type-length-value records

A record is a 16-bit tag, the length of its value in 16 bits, both most significant byte first, and
the value. A buffer is read record by record until what is left is not a whole record; `parse` gives
the records, `rest` what is left.

The two directions meet at `decode?_encode` and `eq_encode_of_decode?`: reading a record inverts
writing it, and only what was written is read. From them, `parse` is the longest list of records the
buffer starts with (`prefix_parse`), and it is everything exactly for the concatenations of complete
records (`rest_eq_nil_iff`).
-/

namespace Tlv

open ByteOrder

/-- A tag and a value whose length fits in 16 bits. -/
structure Record where
  tag : UInt16
  value : List UInt8
  fits : value.length < 65536
deriving DecidableEq

/-- The length field. -/
def Record.len (r : Record) : UInt16 := UInt16.ofNat r.value.length

@[simp] theorem Record.toNat_len (r : Record) : r.len.toNat = r.value.length := by
  have := r.fits
  simp only [Record.len, UInt16.toNat_ofNat']
  omega

/-- The four bytes before the value. -/
def Record.header (r : Record) : List UInt8 := be16 r.tag ++ be16 r.len

/-- The bytes of a record. -/
def encode (r : Record) : List UInt8 := r.header ++ r.value

/-- The bytes of a list of records. -/
def encodeAll (rs : List Record) : List UInt8 := rs.flatMap encode

@[simp] theorem length_header (r : Record) : r.header.length = 4 := rfl

@[simp] theorem length_encode (r : Record) : (encode r).length = 4 + r.value.length := by
  simp [encode]

/-- Where a reader stands behind a record. -/
theorem length_append_encode (pre : List UInt8) (r : Record) :
    (pre ++ encode r).length = pre.length + 4 + r.value.length := by
  rw [List.length_append, length_encode, Nat.add_assoc]

/-- A record in front of a buffer, byte by byte. -/
theorem encode_append (r : Record) (bs : List UInt8) :
    encode r ++ bs = hi r.tag :: lo r.tag :: hi r.len :: lo r.len :: (r.value ++ bs) := rfl

@[simp] theorem encodeAll_nil : encodeAll [] = [] := rfl

@[simp] theorem encodeAll_cons (r : Record) (rs : List Record) :
    encodeAll (r :: rs) = encode r ++ encodeAll rs := rfl

/-- There are no more records than bytes. -/
theorem length_le_length_encodeAll (rs : List Record) : rs.length ≤ (encodeAll rs).length := by
  induction rs with
  | nil => simp
  | cons r rs ih =>
    simp only [encodeAll_cons, List.length_cons, List.length_append, length_encode]
    omega

theorem length_take_word_lt {l₁ l₀ : UInt8} {bs : List UInt8} (h : (word l₁ l₀).toNat ≤ bs.length) :
    (bs.take (word l₁ l₀).toNat).length < 65536 := by
  have := (word l₁ l₀).toNat_lt
  rw [List.length_take, Nat.min_eq_left h]
  omega

/-- The record the buffer starts with, and the bytes after it. -/
def decode? : List UInt8 → Option (Record × List UInt8)
  | t₁ :: t₀ :: l₁ :: l₀ :: bs =>
    if h : (word l₁ l₀).toNat ≤ bs.length then
      some (⟨word t₁ t₀, bs.take (word l₁ l₀).toNat, length_take_word_lt h⟩,
        bs.drop (word l₁ l₀).toNat)
    else none
  | _ => none

theorem decode?_encode (r : Record) (bs : List UInt8) :
    decode? (encode r ++ bs) = some (r, bs) := by
  obtain ⟨tag, value, fits⟩ := r
  have hlen : (Record.len ⟨tag, value, fits⟩).toNat = value.length := Record.toNat_len _
  simp [encode, Record.header, be16, decode?, hlen]

theorem eq_encode_of_decode? {bs rest : List UInt8} {r : Record} (h : decode? bs = some (r, rest)) :
    bs = encode r ++ rest := by
  match bs, h with
  | t₁ :: t₀ :: l₁ :: l₀ :: bs, h =>
    simp only [decode?] at h
    split at h
    case isFalse => cases h
    case isTrue hle =>
      cases h
      have hlen : (bs.take (word l₁ l₀).toNat).length = (word l₁ l₀).toNat := by
        rw [List.length_take, Nat.min_eq_left hle]
      simp [encode, Record.header, Record.len, be16, hlen]

/-! ## Reading a whole buffer -/

/-- Reads at most `fuel` records. -/
def parseUpTo : ℕ → List UInt8 → List Record
  | 0, _ => []
  | fuel + 1, bs =>
    match decode? bs with
    | none => []
    | some (r, rest) => r :: parseUpTo fuel rest

/-- The records the buffer starts with, up to the first byte that does not start a whole record. -/
def parse (bs : List UInt8) : List Record := parseUpTo bs.length bs

/-- The bytes after the last whole record. -/
def rest (bs : List UInt8) : List UInt8 := bs.drop (encodeAll (parse bs)).length

/-- A record takes four bytes at least, so a buffer has fewer records than bytes. -/
theorem parseUpTo_eq_parse {fuel : ℕ} {bs : List UInt8} (h : bs.length ≤ fuel) :
    parseUpTo fuel bs = parse bs := by
  suffices ∀ n fuel bs, bs.length ≤ n → bs.length ≤ fuel → parseUpTo fuel bs = parseUpTo n bs from
    this bs.length fuel bs (Nat.le_refl _) h
  intro n
  induction n with
  | zero =>
    intro fuel bs hn _
    obtain rfl : bs = [] := List.length_eq_zero_iff.mp (Nat.le_zero.mp hn)
    cases fuel <;> rfl
  | succ n ih =>
    intro fuel bs hn hf
    cases fuel with
    | zero =>
      obtain rfl : bs = [] := List.length_eq_zero_iff.mp (Nat.le_zero.mp hf)
      rfl
    | succ fuel =>
      simp only [parseUpTo]
      cases hd : decode? bs with
      | none => rfl
      | some p =>
        have hlen := congrArg List.length (eq_encode_of_decode? hd)
        simp only [List.length_append, length_encode] at hlen
        simp only [ih fuel p.2 (by omega) (by omega)]

/-- Reading takes one record and goes on behind it. -/
theorem parse_eq (bs : List UInt8) :
    parse bs = match decode? bs with
      | none => []
      | some (r, rest) => r :: parse rest := by
  cases hd : decode? bs with
  | none =>
    rw [parse]
    cases bs with
    | nil => rfl
    | cons b bs => simp [parseUpTo, hd]
  | some p =>
    have hlen := congrArg List.length (eq_encode_of_decode? hd)
    simp only [List.length_append, length_encode] at hlen
    obtain ⟨n, hn⟩ : ∃ n, bs.length = n + 1 := ⟨bs.length - 1, by omega⟩
    rw [parse, hn, parseUpTo, hd]
    exact congrArg _ (parseUpTo_eq_parse (by omega))

theorem parse_of_decode?_none {bs : List UInt8} (h : decode? bs = none) : parse bs = [] := by
  rw [parse_eq, h]

@[simp] theorem parse_encode_append (r : Record) (bs : List UInt8) :
    parse (encode r ++ bs) = r :: parse bs := by
  rw [parse_eq, decode?_encode]

@[simp] theorem parse_encodeAll_append (rs : List Record) (bs : List UInt8) :
    parse (encodeAll rs ++ bs) = rs ++ parse bs := by
  induction rs with
  | nil => rfl
  | cons r rs ih => simp [ih]

@[simp] theorem parse_nil : parse [] = [] := rfl

@[simp] theorem parse_encode (r : Record) : parse (encode r) = [r] := by
  simpa using parse_encode_append r []

@[simp] theorem parse_encodeAll (rs : List Record) : parse (encodeAll rs) = rs := by
  simpa using parse_encodeAll_append rs []

theorem rest_of_decode?_none {bs : List UInt8} (h : decode? bs = none) : rest bs = bs := by
  rw [rest, parse_of_decode?_none h]
  rfl

@[simp] theorem rest_encode_append (r : Record) (bs : List UInt8) :
    rest (encode r ++ bs) = rest bs := by
  rw [rest, parse_encode_append, encodeAll_cons, List.length_append, ← List.drop_drop,
    List.drop_left, rest]

/-- Nothing is lost: the buffer is its records followed by the rest. -/
theorem encodeAll_parse_append_rest (bs : List UInt8) : encodeAll (parse bs) ++ rest bs = bs := by
  suffices ∃ bs', bs = encodeAll (parse bs) ++ bs' by
    obtain ⟨bs', h⟩ := this
    have hrest : rest bs = bs' := by
      rw [rest]
      nth_rewrite 2 [h]
      exact List.drop_left
    rw [hrest, ← h]
  -- one record at a time, on the number of bytes
  induction hn : bs.length using Nat.strongRecOn generalizing bs with
  | ind n ih =>
    cases hd : decode? bs with
    | none => exact ⟨bs, by rw [parse_of_decode?_none hd]; rfl⟩
    | some p =>
      have hbs := eq_encode_of_decode? hd
      have hlen := congrArg List.length hbs
      simp only [List.length_append, length_encode] at hlen
      obtain ⟨bs', h'⟩ := ih p.2.length (by omega) p.2 rfl
      refine ⟨bs', ?_⟩
      rw [hbs, parse_encode_append, encodeAll_cons, List.append_assoc, ← h']

/-- A parsed value is no longer than what was parsed. -/
theorem length_value_le_of_mem_parse {bs : List UInt8} {r : Record} (h : r ∈ parse bs) :
    r.value.length ≤ bs.length := by
  have hmem : (encode r).length ≤ (encodeAll (parse bs)).length :=
    (List.sublist_flatten_of_mem (List.mem_map_of_mem h)).length_le
  rw [← encodeAll_parse_append_rest bs, List.length_append]
  rw [length_encode] at hmem
  omega

/-- The records read are the longest list of records the buffer starts with. -/
theorem prefix_parse {bs bs' : List UInt8} {rs : List Record} (h : bs = encodeAll rs ++ bs') :
    rs <+: parse bs := by
  rw [h, parse_encodeAll_append]
  exact List.prefix_append rs _

/-- Everything is read exactly from a concatenation of complete records. -/
theorem rest_eq_nil_iff {bs : List UInt8} : rest bs = [] ↔ ∃ rs, bs = encodeAll rs := by
  constructor
  · intro h
    have hbs := encodeAll_parse_append_rest bs
    rw [h, List.append_nil] at hbs
    exact ⟨_, hbs.symm⟩
  · rintro ⟨rs, rfl⟩
    rw [rest, parse_encodeAll, List.drop_length]

end Tlv
