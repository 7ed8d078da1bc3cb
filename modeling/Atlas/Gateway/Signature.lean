import Atlas.Gateway.Steps

/-! # What the owner's signature binds

The phone signs, and the gateway rebuilds, the plain concatenation of the gateway identity, the
client identity, the command type, the payload and the sequence number. The fields carry neither
lengths nor separators, so a signature binds the text but not the places where it is cut into
fields: it is accepted for exactly the commands that cut the same text elsewhere.

Reference: `AtlasCommandListViewModel.java` (`getCommandSignature`),
`claim_approve/AtlasApprove.cpp` (`validateCommandSignature`).
-/

namespace Atlas.Gateway

/-- The fields of a command that the owner signs. -/
structure SignedCommand where
  clientIdentity : StdString
  type : StdString
  payload : StdString
  seqNo : StdString
deriving DecidableEq

namespace SignedCommand

/-- The fields in a row. -/
def text (c : SignedCommand) : StdString := c.clientIdentity ++ c.type ++ c.payload ++ c.seqNo

/-- The bytes `getCommandSignature` hands to the HMAC on the phone. -/
def hmacPayload (gatewayIdentity : StdString) (c : SignedCommand) : StdString :=
  gatewayIdentity ++ c.clientIdentity ++ c.type ++ c.payload ++ c.seqNo

/-- Two commands cut the same text at different places. -/
def Recut (a b : SignedCommand) : Prop :=
  a.text = b.text ∧ (a.clientIdentity.length ≠ b.clientIdentity.length ∨
    a.type.length ≠ b.type.length ∨ a.payload.length ≠ b.payload.length)

instance (a b : SignedCommand) : Decidable (Recut a b) :=
  inferInstanceAs (Decidable (_ ∧ _))

theorem hmacPayload_eq (gatewayIdentity : StdString) (c : SignedCommand) :
    c.hmacPayload gatewayIdentity = gatewayIdentity ++ c.text := by
  simp [hmacPayload, text]

/-- Commands cut at the same places are determined by their text. -/
theorem eq_of_text_eq {a b : SignedCommand} (h : a.text = b.text)
    (hclient : a.clientIdentity.length = b.clientIdentity.length)
    (htype : a.type.length = b.type.length) (hpayload : a.payload.length = b.payload.length) :
    a = b := by
  have hcut : ((a.clientIdentity ++ a.type) ++ a.payload).length =
      ((b.clientIdentity ++ b.type) ++ b.payload).length := by
    simp only [List.length_append, hclient, htype, hpayload]
  obtain ⟨h3, hseq⟩ := List.append_inj h hcut
  obtain ⟨h2, hpay⟩ := List.append_inj' h3 hpayload
  obtain ⟨hc, ht⟩ := List.append_inj h2 hclient
  cases a
  cases b
  exact SignedCommand.mk.injEq .. ▸ ⟨hc, ht, hpay, hseq⟩

/-- Two different commands give the HMAC the same bytes exactly when one is the other recut. -/
theorem hmacPayload_eq_iff_recut {gatewayIdentity : StdString} {a b : SignedCommand} (hne : a ≠ b) :
    a.hmacPayload gatewayIdentity = b.hmacPayload gatewayIdentity ↔ Recut a b := by
  rw [hmacPayload_eq, hmacPayload_eq, List.append_cancel_left_eq]
  refine ⟨fun h => ⟨h, ?_⟩, fun h => h.1⟩
  by_contra hcut
  push Not at hcut
  exact hne (eq_of_text_eq h hcut.1 hcut.2.1 hcut.2.2)

end SignedCommand

/-- The signed fields of a command payload, as text. -/
def CommandPayload.signed (p : CommandPayload) : Option SignedCommand := do
  let clientIdentity ← p.clientIdentity.asString
  let type ← p.type.asString
  let payload ← p.payload.asString
  let seqNo ← p.seqNo.asString
  return ⟨clientIdentity, type, payload, seqNo⟩

namespace State

open SignedCommand

variable {crypto : Crypto} {g : State} {key : List UInt8} {p q : CommandPayload}
  {a b : SignedCommand}

/-- The gateway rebuilds the bytes that the phone signed. -/
theorem signedPayload_eq (identity : StdString) (p : CommandPayload) :
    signedPayload identity p = p.signed.map (hmacPayload identity) := by
  simp only [signedPayload, CommandPayload.signed]
  cases p.clientIdentity.asString <;> cases p.type.asString <;> cases p.payload.asString <;>
    cases p.seqNo.asString <;> rfl

theorem validateCommandSignature_eq {signature : List UInt8}
    (hkey : crypto.decode g.ownerSecretKey = some key) (hp : p.signed = some a)
    (hsig : p.signature.asString.bind crypto.decode = some signature) :
    validateCommandSignature crypto g p =
      .ok (crypto.hmacSHA512 key (a.hmacPayload g.identity) = signature) := by
  simp [validateCommandSignature, hkey, signedPayload_eq, hp, hsig]

/-- The sanity checks on a claimed gateway: no empty field, and a valid signature. -/
theorem checkCommand_eq_some_iff (hclaimed : g.claimed = true) (hp : p.signed = some a) :
    (∃ r, checkCommand crypto g p = .ok (some r)) ↔
      a.seqNo ≠ [] ∧ a.clientIdentity ≠ [] ∧ a.type ≠ [] ∧
        validateCommandSignature crypto g p = .ok true := by
  simp only [CommandPayload.signed, Option.bind_eq_bind, Option.bind_eq_some_iff,
    Option.pure_def, Option.some.injEq] at hp
  obtain ⟨client, hclient, type, htype, payload, -, seqNo, hseq, rfl⟩ := hp
  simp only [checkCommand, hseq, hclient, htype, hclaimed, if_true]
  rcases seqNo with _ | ⟨s, seqNo⟩
  · simp
  rcases client with _ | ⟨c, client⟩
  · simp
  rcases type with _ | ⟨t, type⟩
  · simp
  cases hval : validateCommandSignature crypto g p with
  | error e => simp
  | ok valid => cases valid <;> simp

/-- On a claimed gateway, with an injective HMAC, two different commands give the HMAC the same
bytes exactly when one is the other recut, and a signature the owner issued for one is accepted for
the other exactly in that case (and when the other passes the sanity checks). -/
theorem signature_accepted_iff (crypto : Crypto) (g : State) (hclaimed : g.claimed = true)
    (key : List UInt8) (hkey : crypto.decode g.ownerSecretKey = some key)
    (hinj : Function.Injective (crypto.hmacSHA512 key)) (p q : CommandPayload)
    (a b : SignedCommand) (hp : p.signed = some a) (hq : q.signed = some b) (hne : a ≠ b)
    (hissued : p.signature.asString.bind crypto.decode =
      some (crypto.hmacSHA512 key (a.hmacPayload g.identity))) :
    (signedPayload g.identity p = signedPayload g.identity q ↔ Recut a b) ∧
    ((∃ r, checkCommand crypto g { q with signature := p.signature } = .ok (some r)) ↔
      Recut a b ∧ b.seqNo ≠ [] ∧ b.clientIdentity ≠ [] ∧ b.type ≠ []) := by
  constructor
  · rw [signedPayload_eq, signedPayload_eq, hp, hq, Option.map_some, Option.map_some,
      Option.some.injEq, hmacPayload_eq_iff_recut hne]
  · have hq' : { q with signature := p.signature }.signed = some b := hq
    rw [checkCommand_eq_some_iff hclaimed hq', validateCommandSignature_eq hkey hq' hissued,
      Except.ok.injEq, decide_eq_true_eq, hinj.eq_iff, eq_comm, hmacPayload_eq_iff_recut hne]
    tauto

/-- An HMAC that returns its message, with plain text for base64. -/
def echoCrypto : Crypto := ⟨fun _ message => message, some⟩

/-- A gateway with an owner. -/
def claimedSample : State := fresh (bytes "gw") true (bytes "key") sampleDevices

/-- The owner's command: payload `1`, sequence number 2. -/
def signedSample : CommandPayload :=
  { sampleCommand "lamp" 2 with
    payload := sampleText (bytes "1")
    signature := sampleText (bytes "gwlampATLAS_CMD_CLIENT_DEVICE_RESTART12") }

/-- The theorem at the owner's command and one for another client, which is refused. -/
theorem signature_refused_other_client :
    ¬ ∃ r, checkCommand echoCrypto claimedSample
      { sampleCommand "door" 2 with signature := signedSample.signature } = .ok (some r) := by
  have h := (signature_accepted_iff echoCrypto claimedSample rfl (bytes "key") rfl
    (fun _ _ h => h) signedSample (sampleCommand "door" 2) _ _ rfl rfl (by decide) (by decide)).2
  rw [h]
  decide

/-- The signature of the owner's command is accepted for an empty payload and sequence number 12. -/
theorem signature_accepted_recut :
    (∀ key, Function.Injective (echoCrypto.hmacSHA512 key)) ∧
    signedSample.signed ≠ (sampleCommand "lamp" 12).signed ∧
    checkCommand echoCrypto claimedSample signedSample =
      .ok (some (bytes "lamp", bytes "ATLAS_CMD_CLIENT_DEVICE_RESTART")) ∧
    signedPayload claimedSample.identity signedSample =
      signedPayload claimedSample.identity (sampleCommand "lamp" 12) ∧
    checkCommand echoCrypto claimedSample
        { sampleCommand "lamp" 12 with signature := signedSample.signature } =
      .ok (some (bytes "lamp", bytes "ATLAS_CMD_CLIENT_DEVICE_RESTART")) := by
  refine ⟨fun _ _ _ h => h, by decide, by decide, by decide, by decide⟩

end State

end Atlas.Gateway
