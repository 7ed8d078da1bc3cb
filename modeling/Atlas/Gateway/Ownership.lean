import Atlas.Gateway.Json
import Atlas.Lib.EventMachine
import Atlas.Lib.Outcome

/-! # Claiming the gateway

Whoever knows the short code of an unclaimed gateway can become its owner. The secret key and the
identity of the owner are inserted into the `Owner` table first and kept in memory then, and a
gateway that starts reads them back from the table.

Nothing in the schema of the table keeps it from holding several rows, and what is read back has
been through C strings. Still, memory and table together are a cell that is written once:
`Holds owner` says that both show the owner `owner`, and every event keeps an owner there is
(`Holds.step`).

Reference: `claim_approve/AtlasClaim.cpp`, `device/AtlasGateway.cpp`, `sql/AtlasSQLite.cpp`.
-/

namespace Atlas.Gateway.Ownership

open EventMachine

/-- A row of the `Owner` table. -/
structure OwnerRow where
  secretKey : StdString
  identity : StdString
deriving DecidableEq

/-- `AtlasGateway`. -/
structure AtlasGateway where
  claimed : Bool := false
  ownerSecretKey : StdString := []
  ownerIdentity : StdString := []
deriving DecidableEq

/-- `AtlasHttpResponse`. -/
structure AtlasHttpResponse where
  code : ℕ
  body : StdString
deriving DecidableEq

/-- The fields `handleClaimReq` reads from a payload. A missing field reads as null. -/
structure ClaimReq where
  shortCode : JsonValue
  secretKey : JsonValue
  ownerIdentity : JsonValue

/-- The `Owner` table, the gateway in memory, and the short code of `AtlasClaim`. -/
structure State where
  owner : List OwnerRow
  gateway : AtlasGateway
  shortCode : StdString
deriving DecidableEq

/-! ## The handlers -/

/-- `selectOwnerInfo` on an open database: the first row, through C strings. -/
def selectOwnerInfo (owner : List OwnerRow) : Option OwnerRow :=
  owner.head?.map fun row => ⟨ofCString row.secretKey, ofCString row.identity⟩

/-- The constructor of `AtlasGateway`. -/
def AtlasGateway.new (owner : List OwnerRow) : AtlasGateway :=
  match selectOwnerInfo owner with
  | none => {}
  | some row => ⟨row.secretKey ≠ [] ∧ row.identity ≠ [], row.secretKey, row.identity⟩

/-- The gateway after a start; `generateShortCode` is the short code `AtlasClaim::start` draws for
an unclaimed gateway. -/
def start (owner : List OwnerRow) (generateShortCode : StdString) : State :=
  let gateway := AtlasGateway.new owner
  ⟨owner, gateway, if gateway.claimed then [] else generateShortCode⟩

/-- `AtlasGateway::claimGateway`; `insertOwner` is the outcome of its database call. -/
def claimGateway (insertOwner : Bool) (ownerIdentity ownerSecretKey : StdString) (s : State) :
    State × Bool :=
  if !insertOwner then (s, false)
  else
    ({ s with
      owner := s.owner ++ [⟨ownerSecretKey, ownerIdentity⟩]
      gateway := ⟨true, ownerSecretKey, ownerIdentity⟩ }, true)

/-- What ends a claim request early: an answer, or an exception. -/
abbrev Refusal := Option AtlasHttpResponse

/-- `asString`, which throws for a container. -/
def asString (v : JsonValue) : Except Refusal StdString :=
  match v.asString with
  | some s => .ok s
  | none => .error none

section

variable (reader : StdString → Option ClaimReq) (claimResp : StdString)

/-- The checks of `handleClaimReq`. `reader` is what `Json::Reader::parse` leaves in the object,
whether it succeeds or not, with `none` for a value that has no fields. -/
def checkClaimReq (s : State) (payload : StdString) : Except Refusal OwnerRow :=
  if s.gateway.claimed then
    .error (some ⟨401, bytes "Gateway is already claimed by an owner!"⟩)
  else if payload = [] then
    .error (some ⟨401, bytes "Rejecting claim request because payload is empty"⟩)
  else match reader payload with
    | none => .error none
    | some obj =>
      (asString obj.shortCode).bind fun shortCode =>
      if shortCode ≠ s.shortCode then
        .error (some ⟨401, bytes "Rejecting claim request because the short code is invalid!"⟩)
      else (asString obj.secretKey).bind fun secretKey =>
      if secretKey = [] then .error (some ⟨500, bytes "Empty claim secret key"⟩)
      else (asString obj.ownerIdentity).bind fun ownerIdentity =>
      if ownerIdentity = [] then .error (some ⟨500, bytes "Empty owner identity"⟩)
      -- neither string can be empty now, so a start will find the gateway claimed
      else .ok ⟨secretKey, ownerIdentity⟩

/-- `handleClaimReq`; `claimResp` is the body of a successful answer. -/
def handleClaimReq (insertOwner : Bool) (s : State) (payload : StdString) :
    State × List AtlasHttpResponse :=
  match checkClaimReq reader s payload with
  | .error refusal => (s, refusal.toList)
  | .ok row =>
    match claimGateway insertOwner row.identity row.secretKey s with
    | (s, false) => (s, [⟨500, bytes "Cannot save owner information into the database"⟩])
    | (s, true) => (s, [⟨200, claimResp⟩])

/-- What can happen to the ownership of a gateway. -/
inductive Event where
  | claimReq (insertOwner : Bool) (payload : StdString)
  | shortCodeAlarm (generateShortCode : StdString)
  | restart (generateShortCode : StdString)

/-- One event. -/
def step (s : State) : Event → State × List AtlasHttpResponse
  | .claimReq insertOwner payload => handleClaimReq reader claimResp insertOwner s payload
  | .shortCodeAlarm generateShortCode => ({ s with shortCode := generateShortCode }, [])
  | .restart generateShortCode => (start s.owner generateShortCode, [])

/-- The owner a claim request names has no NUL byte in its key and its identity. -/
def Event.NulFree : Event → Prop
  | .claimReq _ payload => ∀ obj ∈ reader payload,
      (∀ key ∈ obj.secretKey.asString, 0 ∉ key) ∧ ∀ identity ∈ obj.ownerIdentity.asString,
      0 ∉ identity
  | _ => True

end

/-! ## A cell that is written once -/

/-- Rows that are read back as they are, and mean a claimed gateway. -/
structure OwnerRow.Valid (row : OwnerRow) : Prop where
  secretKey_ne : row.secretKey ≠ []
  identity_ne : row.identity ≠ []
  secretKey_nul : 0 ∉ row.secretKey
  identity_nul : 0 ∉ row.identity

/-- The gateway in memory of an owner, or of none. -/
def AtlasGateway.ofOwner : Option OwnerRow → AtlasGateway
  | none => {}
  | some row => ⟨true, row.secretKey, row.identity⟩

/-- Memory and table show this owner. -/
structure Holds (owner : Option OwnerRow) (s : State) : Prop where
  valid : ∀ row ∈ owner, row.Valid
  table_eq : s.owner = owner.toList
  gateway_eq : s.gateway = .ofOwner owner

/-- A valid owner is found again at a start. -/
theorem AtlasGateway.new_toList {owner : Option OwnerRow} (h : ∀ row ∈ owner, row.Valid) :
    AtlasGateway.new owner.toList = .ofOwner owner := by
  cases owner with
  | none => rfl
  | some row =>
    obtain ⟨hkey, hidentity, hkeyNul, hidentityNul⟩ := h row rfl
    simp [new, selectOwnerInfo, ofOwner, ofCString_eq_self_iff.mpr hkeyNul,
      ofCString_eq_self_iff.mpr hidentityNul, hkey, hidentity]

theorem holds_start {owner : Option OwnerRow} (h : ∀ row ∈ owner, row.Valid)
    (generateShortCode : StdString) : Holds owner (start owner.toList generateShortCode) :=
  ⟨h, rfl, AtlasGateway.new_toList h⟩

/-- The outcome of the checks: a result with `P`, an exception, or an answer that is an error. -/
abbrev Checked {α : Type} (P : α → Prop) : Except Refusal α → Prop :=
  Outcome (fun refusal => ∀ response ∈ refusal, response.code ≠ 200) P

theorem checked_asString (v : JsonValue) :
    Checked (fun s => v.asString = some s) (asString v) := by
  rw [asString]
  cases hv : v.asString with
  | none => exact fun response hresponse => nomatch hresponse
  | some s => rfl

theorem checked_error {α : Type} {P : α → Prop} {response : AtlasHttpResponse}
    (h : response.code ≠ 200) : Checked P (.error (some response)) := by
  intro response' hresponse'
  cases hresponse'
  exact h

variable {reader : StdString → Option ClaimReq} (claimResp : StdString)

/-- The checks admit an owner only while there is none, with the key and the identity of the
payload. -/
theorem checked_checkClaimReq (s : State) {payload : StdString} {insertOwner : Bool}
    (h : (Event.claimReq insertOwner payload).NulFree reader) :
    Checked (fun row => s.gateway.claimed = false ∧ row.Valid)
      (checkClaimReq reader s payload) := by
  rw [checkClaimReq]
  split
  case isTrue => exact checked_error (by decide)
  case isFalse hclaimed =>
    split
    case isTrue => exact checked_error (by decide)
    case isFalse =>
      split
      case h_1 => exact fun response hresponse => nomatch hresponse
      case h_2 obj hobj =>
        obtain ⟨hkeyNul, hidentityNul⟩ := h obj hobj
        refine (checked_asString _).bind fun shortCode _ => ?_
        split
        case isTrue => exact checked_error (by decide)
        refine (checked_asString _).bind fun secretKey hkey => ?_
        split
        case isTrue => exact checked_error (by decide)
        case isFalse hkeyNe =>
          refine (checked_asString _).bind fun ownerIdentity hidentity => ?_
          split
          case isTrue => exact checked_error (by decide)
          case isFalse hidentityNe =>
            exact ⟨by simpa using hclaimed, hkeyNe, hidentityNe, hkeyNul _ hkey,
              hidentityNul _ hidentity⟩

/-- A claim request either changes nothing, and any answer to it is an error, or it is answered with
success and makes a valid owner of an unclaimed gateway. -/
theorem handleClaimReq_cases (s : State) {payload : StdString} {insertOwner : Bool}
    (h : (Event.claimReq insertOwner payload).NulFree reader) :
    ((handleClaimReq reader claimResp insertOwner s payload).1 = s ∧
      ∀ response ∈ (handleClaimReq reader claimResp insertOwner s payload).2, response.code ≠ 200) ∨
    ∃ row : OwnerRow, s.gateway.claimed = false ∧ row.Valid ∧
      handleClaimReq reader claimResp insertOwner s payload =
        ({ s with owner := s.owner ++ [row], gateway := .ofOwner (some row) },
          [⟨200, claimResp⟩]) := by
  have hchecked := checked_checkClaimReq s h
  rw [handleClaimReq]
  cases hcheck : checkClaimReq reader s payload with
  | error refusal =>
    rw [hcheck] at hchecked
    exact .inl ⟨rfl, fun response hresponse => hchecked response (Option.mem_toList.mp hresponse)⟩
  | ok row =>
    rw [hcheck] at hchecked
    obtain ⟨hclaimed, hvalid⟩ := hchecked
    cases insertOwner with
    | false => exact .inl ⟨rfl, by simp [claimGateway]⟩
    | true => exact .inr ⟨row, hclaimed, hvalid, rfl⟩

/-- An event that is answered with an error leaves memory and table as they are. -/
theorem unchanged_of_error (s : State) {event : Event} (hevent : event.NulFree reader) :
    ∀ response ∈ (step reader claimResp s event).2, response.code ≠ 200 →
      (step reader claimResp s event).1.gateway = s.gateway ∧
        (step reader claimResp s event).1.owner = s.owner := by
  intro response hresponse hcode
  cases event with
  | claimReq insertOwner payload =>
    obtain ⟨hsame, -⟩ | ⟨row, -, -, hhandle⟩ := handleClaimReq_cases claimResp s hevent
    · rw [step, hsame]
      exact ⟨rfl, rfl⟩
    · rw [step, hhandle, List.mem_singleton] at hresponse
      exact absurd (congrArg AtlasHttpResponse.code hresponse) hcode
  | shortCodeAlarm => cases hresponse
  | restart => cases hresponse

/-- One event: an owner stays. -/
theorem Holds.step {owner : Option OwnerRow} {s : State} (h : Holds owner s) {event : Event}
    (hevent : event.NulFree reader) :
    ∃ owner', Holds owner' (step reader claimResp s event).1 ∧ (owner.isSome → owner' = owner) := by
  cases event with
  | claimReq insertOwner payload =>
    obtain ⟨hsame, -⟩ | ⟨row, hclaimed, hvalid, hhandle⟩ :=
      handleClaimReq_cases claimResp s hevent
    · exact ⟨owner, by rw [Ownership.step, hsame]; exact h, fun _ => rfl⟩
    · -- the gateway was unclaimed, so there was no owner and the row is the first one
      obtain rfl : owner = none := by
        cases owner with
        | none => rfl
        | some row =>
          rw [h.gateway_eq] at hclaimed
          cases hclaimed
      refine ⟨some row, ?_, by simp⟩
      rw [Ownership.step, hhandle]
      refine ⟨fun row' hrow' => ?_, ?_, rfl⟩
      · cases hrow'
        exact hvalid
      · rw [h.table_eq]
        rfl
  | shortCodeAlarm generateShortCode =>
    exact ⟨owner, ⟨h.valid, h.table_eq, h.gateway_eq⟩, fun _ => rfl⟩
  | restart generateShortCode =>
    refine ⟨owner, ?_, fun _ => rfl⟩
    rw [Ownership.step, h.table_eq]
    exact holds_start h.valid generateShortCode

/-- A run: an owner stays. -/
theorem Holds.run {owner : Option OwnerRow} {s : State} (h : Holds owner s) {events : List Event}
    (hevents : ∀ event ∈ events, event.NulFree reader) :
    ∃ owner', Holds owner' (run (Ownership.step reader claimResp) s events) ∧
      (owner.isSome → owner' = owner) := by
  induction events generalizing owner s with
  | nil => exact ⟨owner, h, fun _ => rfl⟩
  | cons event events ih =>
    obtain ⟨hevent, hevents⟩ := List.forall_mem_cons.mp hevents
    obtain ⟨owner₁, h₁, hstay₁⟩ := h.step claimResp hevent
    obtain ⟨owner₂, h₂, hstay₂⟩ := ih h₁ hevents
    refine ⟨owner₂, h₂, fun hsome => ?_⟩
    have heq := hstay₁ hsome
    subst heq
    exact hstay₂ hsome

/-- The table has at most one row, the gateway is claimed exactly if there is one, and then it has
the owner of the row. -/
def Consistent (s : State) : Prop :=
  s.owner.length ≤ 1 ∧ (s.gateway.claimed = true ↔ s.owner ≠ []) ∧
    ∀ row ∈ s.owner, s.gateway.ownerIdentity = row.identity ∧
      s.gateway.ownerSecretKey = row.secretKey

theorem Holds.consistent {owner : Option OwnerRow} {s : State} (h : Holds owner s) :
    Consistent s := by
  rw [Consistent, h.table_eq, h.gateway_eq]
  cases owner with
  | none => simp [AtlasGateway.ofOwner]
  | some row => simp [AtlasGateway.ofOwner]

/-- A claimed gateway has an owner, and states with the same owner agree in memory and table. -/
theorem Holds.isSome {owner : Option OwnerRow} {s : State} (h : Holds owner s)
    (hclaimed : s.gateway.claimed = true) : owner.isSome := by
  rw [h.gateway_eq] at hclaimed
  cases owner with
  | none => cases hclaimed
  | some row => rfl

/-- From a start on an empty table on, ownership is taken once: table and memory are consistent in
every state, a claimed gateway keeps its owner, and an error leaves both as they are. -/
theorem owner_taken_once (reader : StdString → Option ClaimReq)
    (claimResp generateShortCode : StdString) (events : List Event)
    (h : ∀ event ∈ events, event.NulFree reader) :
    AllStates (step reader claimResp) Consistent (start [] generateShortCode) events ∧
    (∀ before after, events = before ++ after →
      (run (step reader claimResp) (start [] generateShortCode) before).gateway.claimed = true →
        (run (step reader claimResp) (start [] generateShortCode) events).gateway =
            (run (step reader claimResp) (start [] generateShortCode) before).gateway ∧
          (run (step reader claimResp) (start [] generateShortCode) events).owner =
            (run (step reader claimResp) (start [] generateShortCode) before).owner) ∧
    AllSteps (step reader claimResp)
      (fun s event => ∀ response ∈ (step reader claimResp s event).2, response.code ≠ 200 →
        (step reader claimResp s event).1.gateway = s.gateway ∧
          (step reader claimResp s event).1.owner = s.owner)
      (start [] generateShortCode) events := by
  have hstart : Holds none (start [] generateShortCode) :=
    holds_start (by simp) generateShortCode
  have hsteps : AllSteps (step reader claimResp) (fun _ event => event.NulFree reader)
      (start [] generateShortCode) events := allSteps_of_forall_mem h _
  have hpreserved : ∀ s event, (∃ owner, Holds owner s) → event.NulFree reader →
      ∃ owner, Holds owner (step reader claimResp s event).1 := by
    rintro s event ⟨owner, howner⟩ hevent
    obtain ⟨owner', howner', -⟩ := howner.step claimResp hevent
    exact ⟨owner', howner'⟩
  refine ⟨?_, ?_, ?_⟩
  · exact allStates_of_invariant hpreserved (fun s ⟨_, howner⟩ => howner.consistent)
      ⟨none, hstart⟩ hsteps
  · rintro before after rfl hclaimed
    obtain ⟨hbefore, hafter⟩ := List.forall_mem_append.mp h
    obtain ⟨owner, howner, -⟩ := hstart.run claimResp hbefore
    obtain ⟨owner', howner', hstay⟩ := howner.run claimResp hafter
    rw [hstay (howner.isSome hclaimed), ← run_append] at howner'
    rw [howner'.gateway_eq, howner'.table_eq, howner.gateway_eq, howner.table_eq]
    exact ⟨rfl, rfl⟩
  · exact hsteps.mono fun s event hevent => unchanged_of_error claimResp s hevent

/-- Every payload names the owner 66 with the key 75, and the short code 49. -/
def constReader : StdString → Option ClaimReq :=
  fun _ => some ⟨sampleText [49], sampleText [75], sampleText [66]⟩

/-- A claim with an old short code, one that is not stored, one that is, a restart, and another
claim. -/
def claimRun : List Event :=
  [.claimReq true [1], .shortCodeAlarm [49], .claimReq false [1], .claimReq true [1], .restart [50],
    .claimReq true [1]]

theorem owner_taken_once_claimRun :
    AllStates (step constReader []) Consistent (start [] [48]) claimRun ∧
      (run (step constReader []) (start [] [48]) claimRun).owner = [⟨[75], [66]⟩] ∧
      (trace (step constReader []) (start [] [48]) claimRun).map (·.code) = [401, 500, 200, 401] :=
  ⟨(owner_taken_once constReader [] [48] claimRun (by
      simp [claimRun, Event.NulFree, constReader, sampleText])).1, by decide, by decide⟩

end Atlas.Gateway.Ownership
