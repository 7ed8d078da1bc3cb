import Atlas.Gateway.Signature
import Atlas.Lib.Base64

/-! # The base64 helpers

`base64::encode` writes the digits in lines of 72 characters and appends one `=` for each missing
byte. `base64::decode` counts the `=` of the whole text, reads them as `A`, that is as zeros, and
erases as many bytes from the end of what it read. On the texts of `encode` this is the inverse
(`decode_encode`). In a text of any other origin there may be more `=` than bytes, and `erase` then
starts before the vector.

Reference: `utils/AtlasUtils.cpp`, `claim_approve/AtlasApprove.cpp` (`validateCommandSignature`).
-/

namespace Atlas.Gateway.base64

/-- The character `=`. -/
def padding : UInt8 := 61

/-- `base64::encode`. -/
def encode (input : List UInt8) : StdString :=
  let pad := (3 - input.length % 3) % 3
  let ret := Base64.insertLinebreaks 72 0 ((Base64.sextets input).map Base64.toChar)
  ret ++ List.replicate pad padding

/-- A character after `std::replace`. -/
def unpad (c : UInt8) : UInt8 := if c = padding then 65 else c

/-- `base64::decode`: `none` is an access outside of a text or a vector, and the exception is that
of the iterators at a character that is not in the alphabet. -/
def decode (input : StdString) : Option (Except CppException (List UInt8)) :=
  let pad := input.count padding
  let base64 := input.map unpad
  match Base64.fromChars (base64.filter fun c => !Base64.isSpace c) with
  | none => some (.error .dataflowException)
  | some digits =>
    (Base64.octets digits).bind fun ret =>
    -- `erase` from `pad` bytes before the end
    if pad ≤ ret.length then some (.ok (ret.take (ret.length - pad))) else none

/-- A character of the alphabet or `=`. -/
def IsBase64 (c : UInt8) : Prop := (Base64.ofChar? c).isSome = true ∨ c = padding

/-! ## Encoded texts -/

section

variable (input : List UInt8)

/-- The characters of the digits, with line ends. -/
def encodedLines : List UInt8 :=
  Base64.insertLinebreaks 72 0 ((Base64.sextets input).map Base64.toChar)

theorem toChar_ne_padding : ∀ d, Base64.toChar d ≠ padding := by decide

theorem ne_padding_of_mem_encodedLines {c : UInt8} (h : c ∈ encodedLines input) : c ≠ padding := by
  obtain rfl | hmem := Base64.mem_insertLinebreaks h
  · decide
  · obtain ⟨d, -, rfl⟩ := List.mem_map.mp hmem
    exact toChar_ne_padding d

theorem encode_eq :
    encode input = encodedLines input ++ List.replicate (Base64.missing input.length) padding := rfl

theorem count_encode : (encode input).count padding = Base64.missing input.length := by
  have hlines : (encodedLines input).count padding = 0 :=
    List.count_eq_zero.mpr fun h => ne_padding_of_mem_encodedLines input h rfl
  rw [encode_eq, List.count_append, hlines, List.count_replicate_self, Nat.zero_add]

theorem map_unpad_encode :
    (encode input).map unpad =
      encodedLines input ++ List.replicate (Base64.missing input.length) (Base64.toChar 0) := by
  have hlines : (encodedLines input).map unpad = encodedLines input := by
    conv_rhs => rw [← List.map_id (encodedLines input)]
    exact List.map_congr_left fun c hc => if_neg (ne_padding_of_mem_encodedLines input hc)
  rw [encode_eq, List.map_append, hlines, List.map_replicate]
  rfl

/-- Without the line ends, the digits and a zero for each missing byte are left. -/
theorem fromChars_encode :
    Base64.fromChars (((encode input).map unpad).filter fun c => !Base64.isSpace c) =
      some (Base64.sextets input ++ List.replicate (Base64.missing input.length) 0) := by
  have hlines : (encodedLines input).filter (fun c => !Base64.isSpace c) =
      (Base64.sextets input).map Base64.toChar := by
    refine Base64.filter_insertLinebreaks 72 0 fun c hc => ?_
    obtain ⟨d, -, rfl⟩ := List.mem_map.mp hc
    exact Base64.isSpace_toChar d
  have hzeros : (List.replicate (Base64.missing input.length) (Base64.toChar 0)).filter
      (fun c => !Base64.isSpace c) =
        (List.replicate (Base64.missing input.length) 0).map Base64.toChar := by
    rw [List.map_replicate, List.filter_replicate_of_pos (by decide)]
  rw [map_unpad_encode, List.filter_append, hlines, hzeros]
  exact Base64.fromChars_append (Base64.fromChars_map_toChar _) (Base64.fromChars_map_toChar _)

/-- Decoding gives back what was encoded. -/
theorem decode_encode : decode (encode input) = some (.ok input) := by
  rw [decode, fromChars_encode]
  simp only [Base64.octets_sextets_append, Option.bind_some, count_encode, List.length_append,
    List.length_replicate, Nat.add_sub_cancel, List.take_left', Nat.le_add_left, if_true]

end

/-! ## Texts of other origin -/

section

variable {input : StdString}

theorem isSome_ofChar?_unpad {c : UInt8} (h : IsBase64 c) :
    (Base64.ofChar? (unpad c)).isSome = true := by
  rw [unpad]
  split
  case isTrue => decide
  case isFalse hne => exact h.resolve_right hne

/-- A text of whole groups gives three bytes for four characters, from which one is erased for each
`=`. -/
theorem decode_eq_of_groups (hchars : ∀ c ∈ input, IsBase64 c) (hgroups : 4 ∣ input.length) :
    ∃ ret : List UInt8, 4 * ret.length = 3 * input.length ∧
      decode input =
        if input.count padding ≤ ret.length then
          some (.ok (ret.take (ret.length - input.count padding)))
        else none := by
  have hunpad : ∀ c ∈ input.map unpad, (Base64.ofChar? c).isSome = true :=
    List.forall_mem_map.mpr fun c hc => isSome_ofChar?_unpad (hchars c hc)
  have hspaces : (input.map unpad).filter (fun c => !Base64.isSpace c) = input.map unpad :=
    List.filter_eq_self.mpr fun c hc => by rw [Base64.isSpace_of_ofChar? (hunpad c hc)]; rfl
  obtain ⟨digits, hdigits, hlength⟩ := Base64.fromChars_of_forall hunpad
  rw [List.length_map] at hlength
  obtain ⟨ret, hret, hbytes⟩ := Base64.octets_of_dvd (hlength ▸ hgroups)
  refine ⟨ret, hlength ▸ hbytes, ?_⟩
  rw [decode, hspaces, hdigits]
  simp only [hret, Option.bind_some]

/-- Whole groups are decoded inside of the vector exactly if at most three of four characters are
`=`. -/
theorem decode_groups_iff (hchars : ∀ c ∈ input, IsBase64 c) (hgroups : 4 ∣ input.length) :
    (∃ ret, decode input = some (.ok ret)) ↔ 4 * input.count padding ≤ 3 * input.length := by
  obtain ⟨ret, hbytes, hdecode⟩ := decode_eq_of_groups hchars hgroups
  rw [hdecode, ← hbytes]
  by_cases hfits : input.count padding ≤ ret.length
  · rw [if_pos hfits]
    exact iff_of_true ⟨_, rfl⟩ (by omega)
  · rw [if_neg hfits]
    exact iff_of_false (fun ⟨_, h⟩ => nomatch h) (by omega)

end

/-- Decoding inverts encoding, and a text of whole groups over the alphabet and `=` is decoded
without erasing more than was read exactly if at most three quarters of it are `=`. -/
theorem decode_inverse_and_inside_iff (v : List UInt8) (input : StdString)
    (hchars : ∀ c ∈ input, IsBase64 c) (hgroups : 4 ∣ input.length) :
    decode (encode v) = some (.ok v) ∧
    ((∃ ret, decode input = some (.ok ret)) ↔ 4 * input.count padding ≤ 3 * input.length) :=
  ⟨decode_encode v, decode_groups_iff hchars hgroups⟩

/-- One byte, and the text `AAA=`. -/
theorem decode_one_padding :
    decode (encode [7]) = some (.ok [7]) ∧ ∃ ret, decode [65, 65, 65, 61] = some (.ok ret) := by
  have hchars : ∀ c ∈ ([65, 65, 65, 61] : StdString), IsBase64 c :=
    List.forall_mem_cons.mpr ⟨.inl rfl, List.forall_mem_cons.mpr ⟨.inl rfl,
      List.forall_mem_cons.mpr ⟨.inl rfl, List.forall_mem_singleton.mpr (.inr rfl)⟩⟩⟩
  obtain ⟨hinverse, hinside⟩ := decode_inverse_and_inside_iff [7] [65, 65, 65, 61] hchars ⟨1, rfl⟩
  exact ⟨hinverse, hinside.mpr (by decide)⟩

/-- The text `====` is read as three bytes, and four are erased. -/
theorem decode_four_paddings :
    (∀ c ∈ ([61, 61, 61, 61] : StdString), IsBase64 c) ∧
    Base64.fromChars (([61, 61, 61, 61] : StdString).map unpad) = some [0, 0, 0, 0] ∧
    Base64.octets [0, 0, 0, 0] = some [0, 0, 0] ∧
    ([61, 61, 61, 61] : StdString).count padding = 4 ∧ decode [61, 61, 61, 61] = none := by
  refine ⟨fun c hc => .inr ?_, by decide, by decide, by decide, by decide⟩
  exact List.eq_of_mem_replicate (n := 4) (a := 61) hc

/-! ## Texts without line ends -/

/-- The blanks of a text do not count. -/
theorem decode_filter (input : StdString) :
    decode (input.filter fun c => !Base64.isSpace c) = decode input := by
  have hspace : ∀ c, Base64.isSpace (unpad c) = Base64.isSpace c := by
    intro c
    rw [unpad]
    split
    case isTrue heq => rw [heq]; rfl
    case isFalse => rfl
  have hcount : (input.filter fun c => !Base64.isSpace c).count padding = input.count padding :=
    List.count_filter (by decide)
  have hchars : ((input.filter fun c => !Base64.isSpace c).map unpad).filter
      (fun c => !Base64.isSpace c) = (input.map unpad).filter fun c => !Base64.isSpace c := by
    rw [List.filter_map, List.filter_map, List.filter_filter]
    simp only [Function.comp_def, hspace, Bool.and_self]
  rw [decode, decode, hcount, hchars]

theorem filter_encode (v : List UInt8) :
    (encode v).filter (fun c => !Base64.isSpace c) = Base64.encode v := by
  have hlines : (encodedLines v).filter (fun c => !Base64.isSpace c) =
      (Base64.sextets v).map Base64.toChar := by
    refine Base64.filter_insertLinebreaks 72 0 fun c hc => ?_
    obtain ⟨d, -, rfl⟩ := List.mem_map.mp hc
    exact Base64.isSpace_toChar d
  rw [encode_eq, List.filter_append, hlines, List.filter_replicate_of_pos (by decide)]
  rfl

/-- A padded text in one line is decoded as well. -/
theorem decode_unbroken (v : List UInt8) : decode (Base64.encode v) = some (.ok v) := by
  rw [← filter_encode, decode_filter, decode_encode]

/-! ## Signatures -/

/-- The signature check decodes with `base64::decode`, where that stays inside of its vectors. -/
def UsesBase64 (crypto : Crypto) : Prop :=
  ∀ input result, decode input = some result → crypto.decode input = result.toOption

/-- An HMAC with `base64::decode`. -/
def boostCrypto (hmacSHA512 : List UInt8 → List UInt8 → List UInt8) : Crypto where
  hmacSHA512 := hmacSHA512
  decode input := (decode input).bind Except.toOption

theorem usesBase64_boostCrypto (hmacSHA512 : List UInt8 → List UInt8 → List UInt8) :
    UsesBase64 (boostCrypto hmacSHA512) := by
  intro input result h
  exact congrArg (Option.bind · Except.toOption) h

theorem UsesBase64.decode_unbroken {crypto : Crypto} (h : UsesBase64 crypto) (v : List UInt8) :
    crypto.decode (Base64.encode v) = some v :=
  h _ _ (base64.decode_unbroken v)

/-- A command that carries the encoded HMAC of its fields has a valid signature. -/
theorem UsesBase64.validateCommandSignature {crypto : Crypto} (h : UsesBase64 crypto) {g : State}
    {key : List UInt8} (hkey : g.ownerSecretKey = Base64.encode key) {p : CommandPayload}
    {a : SignedCommand} (hp : p.signed = some a)
    (hsignature : p.signature.asString =
      some (Base64.encode (crypto.hmacSHA512 key (a.hmacPayload g.identity)))) :
    State.validateCommandSignature crypto g p = .ok true := by
  have hissued : p.signature.asString.bind crypto.decode =
      some (crypto.hmacSHA512 key (a.hmacPayload g.identity)) := by
    rw [hsignature, Option.bind_some, h.decode_unbroken]
  rw [State.validateCommandSignature_eq (hkey ▸ h.decode_unbroken key) hp hissued,
    decide_eq_true rfl]

end Atlas.Gateway.base64
