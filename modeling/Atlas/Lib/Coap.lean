import Mathlib.Data.Nat.Notation

/-! # CoAP messages

The fields of a received message that a client of libcoap reads.
-/

namespace Coap

/-- The `COAP_MESSAGE_*` types. -/
inductive PduType where
  | con
  | non
  | ack
  | rst
deriving DecidableEq

/-- A received PDU. -/
structure Pdu where
  type : PduType
  code : UInt8
  token : List UInt8
  data : List UInt8
deriving DecidableEq

/-- `COAP_RESPONSE_CLASS`: the upper three bits of the code. -/
def Pdu.responseClass (pdu : Pdu) : ℕ := pdu.code.toNat / 32

/-- `coap_get_data`, which leaves a null pointer when there is no data. -/
def Pdu.getData (pdu : Pdu) : Option (List UInt8) := if pdu.data = [] then none else some pdu.data

/-- A confirmable or non-confirmable message that answers nothing sent before; a client may reject
it with an RST. -/
def Pdu.unsolicited (pdu : Pdu) (sent : Bool) : Bool :=
  (pdu.type = .con || pdu.type = .non) && !sent

end Coap
