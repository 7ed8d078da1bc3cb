import Mathlib.Data.List.TakeWhile
import Mathlib.Data.Int.Notation

/-! # Byte strings and the JSON values of cloud messages

The gateway keeps text in `std::string`, a sequence of bytes which may hold NULs, and reads cloud
messages through jsoncpp's `Json::Value`, with the two conversions `asString` and `asUInt`. The
library is not part of the program: a value is given by what its conversions return.
-/

namespace Atlas.Gateway

/-- `std::string`: any sequence of bytes. -/
abbrev StdString := List UInt8

/-- The bytes of a string literal. -/
def bytes (s : String) : StdString := s.toByteArray.data.toList

/-- `std::string(const char *)`: the copy stops at the first NUL byte. -/
def ofCString (s : StdString) : StdString := s.takeWhile (· ≠ 0)

/-- A byte string without NUL survives the way through a C string. -/
theorem ofCString_eq_self_iff {s : StdString} : ofCString s = s ↔ 0 ∉ s := by
  simp only [ofCString, List.takeWhile_eq_self_iff, decide_eq_true_eq]
  exact ⟨fun h h0 => h 0 h0 rfl, fun h b hb hb0 => h (hb0 ▸ hb)⟩

theorem zero_notMem_ofCString (s : StdString) : 0 ∉ ofCString s := by
  intro h
  simpa using List.mem_takeWhile_imp h

/-- A `Json::Value`, as far as the gateway uses it: what its conversions return, `none` where they
throw. -/
structure JsonValue where
  asString : Option StdString
  asUInt : Option UInt32
deriving DecidableEq

/-- The values jsoncpp reads for a text, for a number and for null that were written as JSON. A text
and a number are converted to the same text, and a number to nothing else than itself. -/
structure JsonReader where
  text : String → JsonValue
  number : Int32 → JsonValue
  null : JsonValue
  asString_text : ∀ s, (text s).asString = some (bytes s)
  asString_number : ∀ n, (number n).asString = some (bytes (toString n.toInt))
  asUInt_number : ∀ n m, (number n).asUInt = some m → m.toNat = n.toInt

/-- The fields `handleClientCommand` reads from an `ATLAS_CMD_GATEWAY_CLIENT` payload. A missing
field reads as null. -/
structure CommandPayload where
  clientIdentity : JsonValue
  type : JsonValue
  payload : JsonValue
  seqNo : JsonValue
  signature : JsonValue
deriving DecidableEq

/-- The fields `handleCommandDoneAck` reads from an `ATLAS_CMD_GATEWAY_CLIENT_DONE_ACK` payload. -/
structure DoneAckPayload where
  clientIdentity : JsonValue
  seqNo : JsonValue
deriving DecidableEq

/-! ## Sample values -/

/-- A text; it does not convert to a number. -/
def sampleText (s : StdString) : JsonValue := ⟨some s, none⟩

/-- A number. -/
def sampleNumber (n : UInt32) : JsonValue := ⟨some (bytes (toString n)), some n⟩

/-- Null. -/
def sampleNull : JsonValue := ⟨some [], some 0⟩

/-- A reader that gives these values, and does not convert negative numbers. -/
def sampleReader : JsonReader where
  text s := sampleText (bytes s)
  number n :=
    ⟨some (bytes (toString n.toInt)), if 0 ≤ n.toInt then some (.ofNat n.toInt.toNat) else none⟩
  null := sampleNull
  asString_text _ := rfl
  asString_number _ := rfl
  asUInt_number n m h := by
    have hlt := n.toInt_lt
    dsimp only at h
    split_ifs at h with hpos
    obtain rfl := Option.some.inj h
    rw [UInt32.toNat_ofNat_of_lt' (by rw [UInt32.size]; omega)]
    exact Int.toNat_of_nonneg hpos

end Atlas.Gateway
