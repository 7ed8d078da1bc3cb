import Atlas.Android.Phone
import Atlas.Gateway.Ownership

/-! # Claiming a gateway with a phone

Phones claim a gateway over HTTP. A claim that succeeds leaves the key in the gateway, and in the
phone once the answer has come and the row of the gateway has been stored. The answer can be lost,
and the owner can delete the row.

`Shared` says that a phone and the gateway have the same key. It holds of every row of the gateway
on any phone and of every successful answer on its way, in every state (`allStates_agreed`): a
gateway is claimed once, and no claim of a claimed gateway succeeds.

Reference: `AtlasClaimViewModel.java` (`claimGateway`), `claim_approve/AtlasClaim.cpp`
(`handleClaimReq`).
-/

namespace Atlas.Owner

open EventMachine
open Android (Phone GatewayEntity CommandList AtlasCommand encodeToString)
open Cloud (CharCase)
open Gateway (JsonReader StdString bytes)
open Gateway.Ownership (ClaimReq AtlasHttpResponse AtlasGateway Holds handleClaimReq checkClaimReq
  asString claimGateway)

/-! ## Phones and a gateway -/

/-- `AtlasGatewayClaimReq`. -/
structure AtlasGatewayClaimReq where
  shortCode : String
  secretKey : String
  ownerIdentity : String
deriving DecidableEq

/-- The gateway, how both ends write and read JSON, and what the phones read from outside. -/
structure Setup where
  gatewayIdentity : String
  /-- The text of a request. -/
  write : AtlasGatewayClaimReq → StdString
  reader : StdString → Option ClaimReq
  /-- The values the gateway reads. -/
  json : JsonReader
  /-- The body of a successful answer. -/
  claimResp : StdString
  /-- The identity in the body of an answer. -/
  identity : StdString → Option String
  charCase : CharCase
  /-- HMAC-SHA-512. -/
  computeHMAC : List UInt8 → List UInt8 → List UInt8
  length_computeHMAC : ∀ key message, (computeHMAC key message).length = 64
  write_ne : ∀ req, write req ≠ []
  reader_write : ∀ req, reader (write req) =
    some ⟨json.text req.shortCode, json.text req.secretKey, json.text req.ownerIdentity⟩
  identity_claimResp : identity claimResp = some gatewayIdentity

/-- An answer of the gateway on its way, with what the phone has kept of its request. -/
structure Answer (ι : Type) where
  phone : ι
  gatewayAlias : String
  secretKey : String
  response : AtlasHttpResponse

/-- `Response.isSuccessful`. -/
def isSuccessful (response : AtlasHttpResponse) : Bool := 200 ≤ response.code && response.code < 300

/-- The phones, the gateway, and the answers on their way. -/
structure State (ι : Type) where
  gateway : Gateway.Ownership.State
  phones : ι → Phone
  answers : List (Answer ι)

inductive Event (ι : Type) where
  /-- A phone sends a claim request, which reaches the gateway. -/
  | claim (i : ι) (shortCode gatewayAlias : String) (secretKey : List UInt8) (insertOwner : Bool)
  /-- The `n`-th answer reaches its phone. -/
  | answer (n : ℕ)
  /-- The `n`-th answer is lost. -/
  | loseAnswer (n : ℕ)
  /-- A request of somebody else, the short code alarm, or a restart. -/
  | gateway (event : Gateway.Ownership.Event)
  /-- A phone has claimed another gateway. -/
  | elsewhere (i : ι) (identity gatewayAlias secretKey : String)
  /-- The owner deletes a gateway from the phone. -/
  | deleteGateway (i : ι) (id : ℕ)
  /-- The command worker runs. -/
  | work (i : ι) (date : ℕ → String) (response : Option CommandList)
  /-- The owner decides about a command. -/
  | decide (i : ι) (successful : Bool) (clientIdentity : String) (commandStatus : Bool)
      (command : AtlasCommand)

section Machine

variable {ι : Type} [DecidableEq ι] (setup : Setup)

/-- A phone has changed. -/
def State.setPhone (i : ι) (phone : Phone) (s : State ι) : State ι :=
  { s with phones := Function.update s.phones i phone }

@[simp] theorem State.setPhone_phones (i j : ι) (phone : Phone) (s : State ι) :
    (s.setPhone i phone).phones j = if j = i then phone else s.phones j :=
  Function.update_apply ..

/-- `claimGateway` of the phone up to its request, behind `validateAlias`. -/
def claim (i : ι) (shortCode gatewayAlias : String) (secretKey : List UInt8) (insertOwner : Bool)
    (s : State ι) : State ι × List AtlasHttpResponse :=
  match (s.phones i).selectByAlias gatewayAlias with
  | some _ => (s, [])
  | none =>
    let secretKey := encodeToString secretKey
    let claimReq : AtlasGatewayClaimReq := ⟨shortCode, secretKey, (s.phones i).ownerID⟩
    let r :=
      handleClaimReq setup.reader setup.claimResp insertOwner s.gateway (setup.write claimReq)
    ({ s with
        gateway := r.1
        answers := s.answers ++ r.2.map fun response => ⟨i, gatewayAlias, secretKey, response⟩ },
      r.2)

/-- A row of a gateway, unless it breaks the constraint. -/
def insertGateway (i : ι) (identity gatewayAlias secretKey : String) (s : State ι) : State ι :=
  match (s.phones i).insertGateway identity gatewayAlias secretKey with
  | none => s
  | some phone => s.setPhone i phone

/-- `claimGateway` of the phone from the answer on. -/
def receive (a : Answer ι) (s : State ι) : State ι :=
  if isSuccessful a.response then
    match setup.identity a.response.body with
    | none => s
    | some identity => insertGateway a.phone identity a.gatewayAlias a.secretKey s
  else s

/-- One event; the outputs are the answers of the gateway to the phones. -/
def step (s : State ι) : Event ι → State ι × List AtlasHttpResponse
  | .claim i shortCode gatewayAlias secretKey insertOwner =>
    claim setup i shortCode gatewayAlias secretKey insertOwner s
  | .answer n =>
    match s.answers[n]? with
    | none => (s, [])
    | some a => (receive setup a { s with answers := s.answers.eraseIdx n }, [])
  | .loseAnswer n => ({ s with answers := s.answers.eraseIdx n }, [])
  | .gateway event =>
    ({ s with gateway := (Gateway.Ownership.step setup.reader setup.claimResp s.gateway event).1 },
      [])
  | .elsewhere i identity gatewayAlias secretKey =>
    (insertGateway i identity gatewayAlias secretKey s, [])
  | .deleteGateway i id => (s.setPhone i ((s.phones i).deleteGateway id), [])
  | .work i date response => (s.setPhone i ((s.phones i).work setup.charCase date response), [])
  | .decide i successful clientIdentity commandStatus command =>
    (s.setPhone i ((s.phones i).sendOwnerCommandRequest setup.computeHMAC (fun _ => successful)
      clientIdentity commandStatus command).1, [])

/-- Other requests bring no NUL bytes, and other gateways have other identities. -/
def Event.Admitted : Event ι → Prop
  | .gateway event => event.NulFree setup.reader
  | .elsewhere _ identity _ _ => identity ≠ setup.gatewayIdentity
  | _ => True

/-- A gateway without an owner, and phones that do not know it. -/
structure Starts (s : State ι) : Prop where
  gateway : ∃ generateShortCode, s.gateway = Gateway.Ownership.start [] generateShortCode
  phones : ∀ i, ∀ g ∈ (s.phones i).entities, g.identity ≠ setup.gatewayIdentity
  answers : s.answers = []

end Machine

/-! ## One key -/

/-- The gateway is claimed by this owner with this key. -/
structure Shared (gateway : AtlasGateway) (ownerID secretKey : String) : Prop where
  gateway_eq : gateway = ⟨true, bytes secretKey, bytes ownerID⟩
  key : ∃ key, key ≠ [] ∧ secretKey = encodeToString key

/-- Every copy of the key on a phone or on its way to one is the gateway's. -/
structure Agreed {ι : Type} (setup : Setup) (s : State ι) : Prop where
  holds : ∃ owner, Holds owner s.gateway
  rows : ∀ i, ∀ g ∈ (s.phones i).entities, g.identity = setup.gatewayIdentity →
    Shared s.gateway.gateway (s.phones i).ownerID g.secretKey
  answers : ∀ a ∈ s.answers, isSuccessful a.response = true →
    a.response.body = setup.claimResp ∧
      Shared s.gateway.gateway (s.phones a.phone).ownerID a.secretKey

section Steps

variable {ι : Type} {setup : Setup} {s : State ι}

/-- The checks pass a request of a phone only while the gateway has no owner, and refuse it
otherwise. -/
theorem checkClaimReq_write (setup : Setup) (gateway : Gateway.Ownership.State)
    (req : AtlasGatewayClaimReq) :
    Outcome (fun refusal => ∀ response ∈ refusal, isSuccessful response = false)
      (fun row => gateway.gateway.claimed = false ∧ bytes req.secretKey ≠ [] ∧
        row = ⟨bytes req.secretKey, bytes req.ownerIdentity⟩)
      (checkClaimReq setup.reader gateway (setup.write req)) := by
  have hrefuse : ∀ response, isSuccessful response = false →
      ∀ r ∈ some response, isSuccessful r = false := by
    rintro response h r ⟨⟩
    exact h
  simp only [checkClaimReq, setup.reader_write, setup.write_ne, if_false, asString,
    setup.json.asString_text]
  split
  case isTrue => exact hrefuse _ rfl
  case isFalse hclaimed =>
    simp only [Except.bind]
    split
    case isTrue => exact hrefuse _ rfl
    split
    case isTrue => exact hrefuse _ rfl
    case isFalse hkey =>
      split
      case isTrue => exact hrefuse _ rfl
      case isFalse => exact ⟨by simpa using hclaimed, hkey, rfl⟩

/-- A claim request of a phone is refused and changes nothing, or it makes the phone the owner of an
unclaimed gateway. -/
theorem handleClaimReq_write (setup : Setup) (gateway : Gateway.Ownership.State)
    (insertOwner : Bool) (req : AtlasGatewayClaimReq) :
    (handleClaimReq setup.reader setup.claimResp insertOwner gateway (setup.write req)).1 =
      gateway ∧ (∀ response ∈
          (handleClaimReq setup.reader setup.claimResp insertOwner gateway (setup.write req)).2,
        isSuccessful response = false) ∨
    gateway.gateway.claimed = false ∧ bytes req.secretKey ≠ [] ∧
      handleClaimReq setup.reader setup.claimResp insertOwner gateway (setup.write req) =
        ({ gateway with
            owner := gateway.owner ++ [⟨bytes req.secretKey, bytes req.ownerIdentity⟩]
            gateway := ⟨true, bytes req.secretKey, bytes req.ownerIdentity⟩ },
          [⟨200, setup.claimResp⟩]) := by
  have hchecked := checkClaimReq_write setup gateway req
  rw [handleClaimReq]
  cases hcheck : checkClaimReq setup.reader gateway (setup.write req) with
  | error refusal =>
    rw [hcheck] at hchecked
    exact .inl ⟨rfl, fun response hresponse => hchecked response (Option.mem_toList.mp hresponse)⟩
  | ok row =>
    rw [hcheck] at hchecked
    obtain ⟨hclaimed, hkey, rfl⟩ := hchecked
    cases insertOwner with
    | false => exact .inl ⟨rfl, by simp [claimGateway, isSuccessful]⟩
    | true => exact .inr ⟨hclaimed, hkey, rfl⟩

/-- An event keeps the owner of a claimed gateway. -/
theorem gateway_eq_of_claimed {gateway : Gateway.Ownership.State} {event : Gateway.Ownership.Event}
    (h : ∃ owner, Holds owner gateway) (hevent : event.NulFree setup.reader)
    (hclaimed : gateway.gateway.claimed = true) :
    (Gateway.Ownership.step setup.reader setup.claimResp gateway event).1.gateway =
      gateway.gateway := by
  obtain ⟨owner, howner⟩ := h
  obtain ⟨owner', howner', hsame⟩ := howner.step setup.claimResp hevent
  rw [howner'.gateway_eq, hsame (howner.isSome hclaimed), howner.gateway_eq]

theorem holds_step {gateway : Gateway.Ownership.State} {event : Gateway.Ownership.Event}
    (h : ∃ owner, Holds owner gateway) (hevent : event.NulFree setup.reader) :
    ∃ owner, Holds owner
      (Gateway.Ownership.step setup.reader setup.claimResp gateway event).1 := by
  obtain ⟨owner, howner⟩ := h
  obtain ⟨owner', howner', -⟩ := howner.step setup.claimResp hevent
  exact ⟨owner', howner'⟩

/-- A claim request of a phone has no NUL bytes. -/
theorem nulFree_write (phone : Phone) (shortCode : String) (secretKey : List UInt8)
    (insertOwner : Bool) :
    (Gateway.Ownership.Event.claimReq insertOwner
      (setup.write ⟨shortCode, encodeToString secretKey, phone.ownerID⟩)).NulFree setup.reader := by
  intro obj hobj
  rw [setup.reader_write, Option.mem_some_iff] at hobj
  subst hobj
  simp only [setup.json.asString_text, Option.mem_some_iff, forall_eq']
  exact ⟨Android.zero_notMem_bytes_encodeToString secretKey, phone.ownerID_nul⟩

theorem Starts.agreed (h : Starts setup s) : Agreed setup s := by
  obtain ⟨generateShortCode, hgateway⟩ := h.gateway
  refine ⟨⟨none, ?_⟩, fun i g hg hidentity => absurd hidentity (h.phones i g hg), ?_⟩
  · rw [hgateway]
    exact Gateway.Ownership.holds_start (by simp) generateShortCode
  · rw [h.answers]
    simp

namespace Agreed

/-- The gateway moves on and keeps an owner it has. -/
theorem setGateway (h : Agreed setup s) {event : Gateway.Ownership.Event}
    (hevent : event.NulFree setup.reader) :
    Agreed setup { s with
      gateway := (Gateway.Ownership.step setup.reader setup.claimResp s.gateway event).1 } := by
  have hkeep : ∀ {ownerID secretKey}, Shared s.gateway.gateway ownerID secretKey →
      Shared (Gateway.Ownership.step setup.reader setup.claimResp s.gateway event).1.gateway ownerID
        secretKey := by
    intro ownerID secretKey hshared
    have hclaimed : s.gateway.gateway.claimed = true := by rw [hshared.gateway_eq]
    rw [gateway_eq_of_claimed h.holds hevent hclaimed]
    exact hshared
  refine ⟨holds_step h.holds hevent, fun i g hg hidentity => hkeep (h.rows i g hg hidentity), ?_⟩
  intro a ha hsuccess
  obtain ⟨hbody, hshared⟩ := h.answers a ha hsuccess
  exact ⟨hbody, hkeep hshared⟩

/-- More answers on their way. -/
theorem addAnswers (h : Agreed setup s) {answers : List (Answer ι)}
    (hanswers : ∀ a ∈ answers, isSuccessful a.response = true → a.response.body = setup.claimResp ∧
      Shared s.gateway.gateway (s.phones a.phone).ownerID a.secretKey) :
    Agreed setup { s with answers := s.answers ++ answers } := by
  refine ⟨h.holds, h.rows, fun a ha => ?_⟩
  rcases List.mem_append.mp ha with ha | ha
  · exact h.answers a ha
  · exact hanswers a ha

theorem eraseAnswer (h : Agreed setup s) (n : ℕ) :
    Agreed setup { s with answers := s.answers.eraseIdx n } :=
  ⟨h.holds, h.rows, fun a ha => h.answers a (List.eraseIdx_subset ha)⟩

theorem claim (h : Agreed setup s) (i : ι) (shortCode gatewayAlias : String)
    (secretKey : List UInt8) (insertOwner : Bool) :
    Agreed setup (Owner.claim setup i shortCode gatewayAlias secretKey insertOwner s).1 := by
  rw [Owner.claim]
  split
  case h_1 => exact h
  case h_2 =>
    have hmoved := h.setGateway (nulFree_write (s.phones i) shortCode secretKey insertOwner)
    refine hmoved.addAnswers fun a ha hsuccess => ?_
    obtain ⟨response, hresponse, rfl⟩ := List.mem_map.mp ha
    rcases handleClaimReq_write setup s.gateway insertOwner
      ⟨shortCode, encodeToString secretKey, (s.phones i).ownerID⟩ with
      ⟨-, hrefused⟩ | ⟨-, hkey, hclaimed⟩
    · rw [hrefused response hresponse] at hsuccess
      cases hsuccess
    · simp only [Gateway.Ownership.step, hclaimed, List.mem_singleton] at hresponse ⊢
      subst hresponse
      refine ⟨rfl, rfl, secretKey, ?_, rfl⟩
      rintro rfl
      exact hkey rfl

variable [DecidableEq ι]

/-- A phone of the same owner, whose new rows of the gateway have its key. -/
theorem setPhone (h : Agreed setup s) {i : ι} {phone : Phone}
    (howner : phone.ownerID = (s.phones i).ownerID)
    (hrows : ∀ g ∈ phone.entities, g ∈ (s.phones i).entities ∨
      (g.identity = setup.gatewayIdentity →
        Shared s.gateway.gateway (s.phones i).ownerID g.secretKey)) :
    Agreed setup (s.setPhone i phone) := by
  have howners : ∀ j, ((s.setPhone i phone).phones j).ownerID = (s.phones j).ownerID := by
    intro j
    rw [State.setPhone_phones]
    split
    case isTrue hj => rw [hj, howner]
    case isFalse => rfl
  refine ⟨h.holds, fun j g hg hidentity => ?_, fun a ha hsuccess => ?_⟩
  · rw [howners]
    rw [State.setPhone_phones] at hg
    split at hg
    case isTrue hj =>
      subst hj
      rcases hrows g hg with hold | hnew
      · exact h.rows j g hold hidentity
      · exact hnew hidentity
    case isFalse => exact h.rows j g hg hidentity
  · rw [howners]
    exact h.answers a ha hsuccess

theorem insertGateway (h : Agreed setup s) {i : ι} {identity gatewayAlias secretKey : String}
    (hkey : identity = setup.gatewayIdentity →
      Shared s.gateway.gateway (s.phones i).ownerID secretKey) :
    Agreed setup (Owner.insertGateway i identity gatewayAlias secretKey s) := by
  rw [Owner.insertGateway]
  split
  case h_1 => exact h
  case h_2 phone hinsert =>
    refine h.setPhone (Phone.ownerID_insertGateway hinsert) fun g hg => ?_
    rcases (Phone.mem_entities_insertGateway hinsert).mp hg with hold | rfl
    · exact .inl hold
    · exact .inr hkey

/-- Every event keeps the keys in agreement. -/
theorem step (h : Agreed setup s) {event : Event ι} (hevent : event.Admitted setup) :
    Agreed setup (Owner.step setup s event).1 := by
  cases event with
  | claim i shortCode gatewayAlias secretKey insertOwner =>
    exact h.claim i shortCode gatewayAlias secretKey insertOwner
  | answer n =>
    rw [Owner.step]
    split
    case h_1 => exact h
    case h_2 a ha =>
      have hrest := h.eraseAnswer n
      have hmem : a ∈ s.answers := List.mem_of_getElem? ha
      simp only [receive]
      split
      case isFalse => exact hrest
      case isTrue hsuccess =>
        obtain ⟨-, hshared⟩ := h.answers a hmem hsuccess
        split
        case h_1 => exact hrest
        case h_2 => exact hrest.insertGateway fun _ => hshared
  | loseAnswer n => exact h.eraseAnswer n
  | gateway event => exact h.setGateway hevent
  | elsewhere i identity gatewayAlias secretKey =>
    exact h.insertGateway fun hidentity => absurd hidentity hevent
  | deleteGateway i id =>
    exact h.setPhone rfl fun g hg => .inl (List.mem_filter.mp hg).1
  | work i date response => exact h.setPhone rfl fun g hg => .inl hg
  | decide i successful clientIdentity commandStatus command =>
    obtain ⟨hentities, howner⟩ := Phone.sendOwnerCommandRequest_entities setup.computeHMAC
      (fun _ => successful) clientIdentity commandStatus command (s.phones i)
    refine h.setPhone howner fun g hg => .inl ?_
    rwa [hentities] at hg

end Agreed

variable [DecidableEq ι]

/-- The keys agree in every state of a run. -/
theorem Starts.allStates_agreed (h : Starts setup s) {events : List (Event ι)}
    (hevents : ∀ event ∈ events, event.Admitted setup) :
    AllStates (step setup) (Agreed setup) s events :=
  allStates_of_invariant (fun _ _ hs he => hs.step he) (fun _ hs => hs) h.agreed
    (allSteps_of_forall_mem hevents s)

end Steps

/-! ## A lost key -/

section Lost

variable {ι : Type} {setup : Setup} {s : State ι}

/-- The gateway has an owner, but its key is neither on a phone nor on its way to one. -/
structure KeyLost (setup : Setup) (s : State ι) : Prop where
  claimed : s.gateway.gateway.claimed = true
  rows : ∀ i, ∀ g ∈ (s.phones i).entities, g.identity ≠ setup.gatewayIdentity
  answers : ∀ a ∈ s.answers, isSuccessful a.response = false

namespace KeyLost

theorem eraseAnswer (h : KeyLost setup s) (n : ℕ) :
    KeyLost setup { s with answers := s.answers.eraseIdx n } :=
  ⟨h.claimed, h.rows, fun a ha => h.answers a (List.eraseIdx_subset ha)⟩

theorem claim (h : KeyLost setup s) (i : ι) (shortCode gatewayAlias : String)
    (secretKey : List UInt8) (insertOwner : Bool) :
    KeyLost setup (Owner.claim setup i shortCode gatewayAlias secretKey insertOwner s).1 ∧
      (Owner.claim setup i shortCode gatewayAlias secretKey insertOwner s).1.gateway = s.gateway ∧
      ∀ response ∈ (Owner.claim setup i shortCode gatewayAlias secretKey insertOwner s).2,
        isSuccessful response = false := by
  simp only [Owner.claim]
  split
  case h_1 => exact ⟨h, rfl, by simp⟩
  case h_2 =>
    rcases handleClaimReq_write setup s.gateway insertOwner
      ⟨shortCode, encodeToString secretKey, (s.phones i).ownerID⟩ with
      ⟨hsame, hrefused⟩ | ⟨hunclaimed, -⟩
    · refine ⟨⟨?_, h.rows, fun a ha => ?_⟩, hsame, hrefused⟩
      · rw [hsame]
        exact h.claimed
      · rcases List.mem_append.mp ha with hold | hnew
        · exact h.answers a hold
        · obtain ⟨response, hresponse, rfl⟩ := List.mem_map.mp hnew
          exact hrefused response hresponse
    · rw [h.claimed] at hunclaimed
      cases hunclaimed

variable [DecidableEq ι]

theorem setPhone (h : KeyLost setup s) {i : ι} {phone : Phone}
    (hrows : ∀ g ∈ phone.entities,
      g ∈ (s.phones i).entities ∨ g.identity ≠ setup.gatewayIdentity) :
    KeyLost setup (s.setPhone i phone) := by
  refine ⟨h.claimed, fun j g hg => ?_, h.answers⟩
  rw [State.setPhone_phones] at hg
  split at hg
  case isTrue => exact (hrows g hg).elim (h.rows i g) id
  case isFalse => exact h.rows j g hg

/-- No event brings the key back, and no claim succeeds. -/
theorem step (h : KeyLost setup s) (hagreed : Agreed setup s) {event : Event ι}
    (hevent : event.Admitted setup) :
    KeyLost setup (Owner.step setup s event).1 ∧
      (Owner.step setup s event).1.gateway.gateway = s.gateway.gateway ∧
      ∀ response ∈ (Owner.step setup s event).2, isSuccessful response = false := by
  have hnone : ∀ response ∈ ([] : List AtlasHttpResponse), isSuccessful response = false := by simp
  cases event with
  | claim i shortCode gatewayAlias secretKey insertOwner =>
    obtain ⟨hlost, hsame, hrefused⟩ := h.claim i shortCode gatewayAlias secretKey insertOwner
    exact ⟨hlost, congrArg _ hsame, hrefused⟩
  | answer n =>
    rw [Owner.step]
    split
    case h_1 => exact ⟨h, rfl, hnone⟩
    case h_2 a ha =>
      have hrefused := h.answers a (List.mem_of_getElem? ha)
      rw [receive, if_neg (by rw [hrefused]; exact Bool.false_ne_true)]
      exact ⟨h.eraseAnswer n, rfl, hnone⟩
  | loseAnswer n => exact ⟨h.eraseAnswer n, rfl, hnone⟩
  | gateway event =>
    have hsame := gateway_eq_of_claimed hagreed.holds hevent h.claimed
    exact ⟨⟨hsame ▸ h.claimed, h.rows, h.answers⟩, hsame, hnone⟩
  | elsewhere i identity gatewayAlias secretKey =>
    simp only [Owner.step, Owner.insertGateway]
    split
    case h_1 => exact ⟨h, rfl, hnone⟩
    case h_2 phone hinsert =>
      refine ⟨h.setPhone fun g hg => ?_, rfl, hnone⟩
      rcases (Phone.mem_entities_insertGateway hinsert).mp hg with hold | rfl
      · exact .inl hold
      · exact .inr hevent
  | deleteGateway i id =>
    exact ⟨h.setPhone fun g hg => .inl (List.mem_filter.mp hg).1, rfl, hnone⟩
  | work i date response =>
    exact ⟨h.setPhone fun g hg => .inl hg, rfl, hnone⟩
  | decide i successful clientIdentity commandStatus command =>
    refine ⟨h.setPhone fun g hg => .inl ?_, rfl, hnone⟩
    rwa [(Phone.sendOwnerCommandRequest_entities ..).1] at hg

end KeyLost

/-- The owner of a gateway whose key is lost cannot decide about its commands any more: in every
later state the key is lost, the owner is the same, no phone sends a decision about a command of the
gateway, and no claim succeeds. -/
theorem key_lost_for_good [DecidableEq ι] (setup : Setup) (s : State ι) (hstarts : Starts setup s)
    (before after : List (Event ι)) (hadmitted : ∀ event ∈ before ++ after, event.Admitted setup)
    (hlost : KeyLost setup (run (step setup) s before)) :
    AllStates (step setup)
      (fun s' => KeyLost setup s' ∧
        s'.gateway.gateway = (run (step setup) s before).gateway.gateway ∧
        ∀ i clientIdentity approved command, ∀ req ∈ (s'.phones i).ownerCommandReq setup.computeHMAC
          clientIdentity approved command, req.gatewayIdentity ≠ some setup.gatewayIdentity)
      (run (step setup) s before) after ∧
    ∀ response ∈ trace (step setup) (run (step setup) s before) after,
      isSuccessful response = false := by
  obtain ⟨hbefore, hafter⟩ := List.forall_mem_append.mp hadmitted
  have hagreed := (hstarts.allStates_agreed hbefore).last
  generalize run (step setup) s before = s' at *
  have hsteps : AllSteps (step setup) (fun _ event => event.Admitted setup) s' after :=
    allSteps_of_forall_mem hafter s'
  have hkeep :
      ∀ (t : State ι) event,
        (Agreed setup t ∧ KeyLost setup t ∧ t.gateway.gateway = s'.gateway.gateway) →
      event.Admitted setup →
        Agreed setup (step setup t event).1 ∧ KeyLost setup (step setup t event).1 ∧
          (step setup t event).1.gateway.gateway = s'.gateway.gateway := by
    rintro t event ⟨hagreed, hlost, hsame⟩ hevent
    obtain ⟨hlost', hsame', -⟩ := hlost.step hagreed hevent
    exact ⟨hagreed.step hevent, hlost', hsame'.trans hsame⟩
  constructor
  · refine allStates_of_invariant hkeep ?_ ⟨hagreed, hlost, rfl⟩ hsteps
    rintro t ⟨-, hlost, hsame⟩
    refine ⟨hlost, hsame, fun i clientIdentity approved command req hreq hidentity => ?_⟩
    obtain ⟨gateway, hgateway, heq⟩ := Phone.mem_of_ownerCommandReq hreq
    rw [heq, Option.some.injEq] at hidentity
    exact hlost.rows i gateway hgateway hidentity
  · refine forall_mem_trace_iff.mpr ?_
    refine allSteps_of_invariant hkeep ?_ ⟨hagreed, hlost, rfl⟩ hsteps
    rintro t event ⟨hagreed, hlost, -⟩ hevent
    exact (hlost.step hagreed hevent).2.2

end Lost

/-! ## A phone in the house -/

/-- A field behind its length. -/
def sampleField (field : String) : StdString :=
  List.replicate (bytes field).length 1 ++ 0 :: bytes field

/-- The first field of a text, and the text behind it. -/
def sampleSplit (text : StdString) : StdString × StdString :=
  let n := (text.takeWhile (· = 1)).length
  ((text.drop (n + 1)).take n, (text.drop (n + 1)).drop n)

theorem sampleSplit_sampleField (field : String) (rest : StdString) :
    sampleSplit (sampleField field ++ rest) = (bytes field, rest) := by
  have hlength : ((sampleField field ++ rest).takeWhile (· = 1)).length = (bytes field).length := by
    rw [sampleField, List.append_assoc, List.takeWhile_append_of_pos (by simp)]
    simp
  have hdrop :
      (sampleField field ++ rest).drop ((bytes field).length + 1) = bytes field ++ rest := by
    rw [sampleField, List.append_assoc, ← List.drop_drop]
    simp
  simp only [sampleSplit, hlength, hdrop, List.take_left', List.drop_left']

/-- The gateway `gw`, with fields behind their lengths in place of JSON. -/
def sampleSetup : Setup where
  gatewayIdentity := "gw"
  write req :=
    sampleField req.shortCode ++ (sampleField req.secretKey ++ sampleField req.ownerIdentity)
  reader payload :=
    let shortCode := sampleSplit payload
    let secretKey := sampleSplit shortCode.2
    some ⟨Gateway.sampleText shortCode.1, Gateway.sampleText secretKey.1,
      Gateway.sampleText (sampleSplit secretKey.2).1⟩
  json := Gateway.sampleReader
  claimResp := []
  identity _ := some "gw"
  charCase := Android.asciiCase
  computeHMAC key message := (message ++ key ++ List.replicate 64 0).take 64
  length_computeHMAC key message := by
    rw [List.length_take, List.length_append, List.length_replicate]
    omega
  write_ne req := by simp [sampleField]
  reader_write req := by
    have hlast := sampleSplit_sampleField req.ownerIdentity []
    rw [List.append_nil] at hlast
    simp only [sampleSplit_sampleField, hlast]
    rfl
  identity_claimResp := rfl

/-- A phone that has just been installed. -/
def samplePhone : Phone where
  ownerID := "me"
  ownerID_ne := by decide
  ownerID_nul := by decide
  db := ⟨⟨[], [], [], 0, 0⟩, by decide⟩
  entities := []
  gatewaySeq := 0
  gateways_eq := rfl
  index_nodup := .nil
  id_le := by simp

/-- The phone and the gateway, which shows the short code `1`. -/
def sampleStart : State Unit := ⟨Gateway.Ownership.start [] (bytes "1"), fun _ => samplePhone, []⟩

theorem starts_sampleStart : Starts sampleSetup sampleStart :=
  ⟨⟨_, rfl⟩, fun _ _ hg => absurd hg List.not_mem_nil, rfl⟩

/-- The phone claims the gateway, with the key 7, 8, 9. -/
def sampleClaim : Event Unit := .claim () "1" "home" [7, 8, 9] true

/-- The answer to the claim is lost; the owner tries again after a restart of the gateway. -/
theorem key_lost_with_answer :
    KeyLost sampleSetup (run (step sampleSetup) sampleStart [sampleClaim, .loseAnswer 0]) ∧
    trace (step sampleSetup) sampleStart
        [sampleClaim, .loseAnswer 0, .gateway (.restart (bytes "2")), sampleClaim] =
      [⟨200, []⟩, ⟨401, bytes "Gateway is already claimed by an owner!"⟩] ∧
    ∀ i clientIdentity approved command,
      ∀ req ∈ ((run (step sampleSetup) (run (step sampleSetup) sampleStart
          [sampleClaim, .loseAnswer 0]) [.gateway (.restart (bytes "2")), sampleClaim]).phones
            i).ownerCommandReq sampleSetup.computeHMAC clientIdentity approved command,
      req.gatewayIdentity ≠ some "gw" := by
  have hlost :
      KeyLost sampleSetup (run (step sampleSetup) sampleStart [sampleClaim, .loseAnswer 0]) :=
    ⟨by decide, fun _ _ hg => absurd hg List.not_mem_nil, fun _ ha => absurd ha List.not_mem_nil⟩
  have hadmitted :
      ∀ event ∈ [sampleClaim, .loseAnswer 0] ++ [.gateway (.restart (bytes "2")), sampleClaim],
      event.Admitted sampleSetup := by
        simp [sampleClaim, Event.Admitted, Gateway.Ownership.Event.NulFree]
  have h :=
    (key_lost_for_good sampleSetup sampleStart starts_sampleStart _ _ hadmitted hlost).1.last
  exact ⟨hlost, by decide, h.2.2⟩

end Atlas.Owner
