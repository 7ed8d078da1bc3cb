import Atlas.Lib.Bytes
import Atlas.Lib.Coap
import Atlas.Lib.EventMachine
import Atlas.Lib.Lists
import Mathlib.Data.Int.Basic

/-! # CoAP requests of the client

Each request of the client has its own CoAP context and an entry in a list. A response marks the
entry as dirty and calls the application; the entry is taken from the list only after
`coap_io_process` has returned. A response for an entry that is already dirty is handled like the
first one, so the application is called once for every valid response that one call of
`coap_io_process` delivers (`Serving.deliver`). Otherwise a request completes at most once: it pays
with its place in the list.

Reference: `coap/atlas_coap_client.c`.
-/

namespace Atlas.Client

open ByteOrder Coap EventMachine

/-- `atlas_coap_response_t`. -/
inductive AtlasCoapResponse where
  | ok
  | notFound
  | notAcceptableHere
  | timeout
  | reset
  | unknown
deriving DecidableEq

/-- The values of `atlas_status_t` that `atlas_coap_client_request` returns. Only with the first one
the request is in flight. -/
inductive RequestStatus where
  | ok
  | coapInvalidUri
  | invalidCallback
  | generalErr
deriving DecidableEq

namespace CoapClient

/-- `atlas_coap_client_req_t`. Contexts and sessions are addresses. The number of the request stands
for the address of the entry and for its callback. -/
structure AtlasCoapClientReq where
  coapFd : ℤ
  alarmId : ℤ
  ctx : ℕ
  session : ℕ
  uri : List UInt8
  token : UInt32
  callback : ℕ
  dirty : Bool
deriving DecidableEq

/-- The static variables, and the number of the next request. -/
structure State where
  entries : List AtlasCoapClientReq
  token : UInt32
  next : ℕ
deriving DecidableEq

/-- Before any request. -/
def State.init : State := ⟨[], 0, 0⟩

inductive Output where
  | requested (status : RequestStatus)
  | called (request : ℕ) (uri : List UInt8) (respStatus : AtlasCoapResponse)
      (respPayload : Option (List UInt8))
  | rst (session : ℕ)
deriving DecidableEq

/-! ## Sending -/

/-- A call of `atlas_coap_client_request`, with what the calls it makes return: whether the URI can
be split and its host resolved, the context and the session (zero for a null pointer), whether the
PDU is made and takes the token, the descriptor of the context and the identifier of the alarm. -/
structure Request where
  uri : Option (List UInt8)
  hasCallback : Bool
  resolved : Bool
  ctx : ℕ
  session : ℕ
  pdu : Bool
  tokenAdded : Bool
  coapFd : ℤ
  alarmId : ℤ
deriving DecidableEq

/-- `coap_new_context`. The address of a context in use is not returned for a new one, so it stands
for a failure here. -/
def coapNewContext (ctx : ℕ) (s : State) : Option ℕ :=
  if ctx = 0 ∨ ctx ∈ s.entries.map (·.ctx) then none else some ctx

/-- `add_request`. -/
def addRequest (ctx session : ℕ) (uri : List UInt8) (token : UInt32) (coapFd alarmId : ℤ)
    (s : State) : State × RequestStatus :=
  if coapFd = -1 then (s, .generalErr)
  else if alarmId < 0 then (s, .generalErr)
  else
    ({ s with
        entries := s.entries ++ [⟨coapFd, alarmId, ctx, session, uri, token, s.next, false⟩]
        next := s.next + 1 },
      .ok)

/-- `atlas_coap_client_request`. -/
def atlasCoapClientRequest (req : Request) (s : State) : State × RequestStatus :=
  match req.uri with
  | none => (s, .coapInvalidUri)
  | some uri =>
    if !req.hasCallback then (s, .invalidCallback)
    else if !req.resolved then (s, .generalErr)
    else
      match coapNewContext req.ctx s with
      | none => (s, .generalErr)
      | some ctx =>
        if req.session = 0 then (s, .generalErr)
        else if !req.pdu then (s, .generalErr)
        else
          -- `get_new_token`
          let token := s.token
          let s := { s with token := s.token + 1 }
          if !req.tokenAdded then (s, .generalErr)
          else addRequest ctx req.session uri token req.coapFd req.alarmId s

/-- A request of the application. -/
def request (s : State) (req : Request) : State × List Output :=
  ((atlasCoapClientRequest req s).1, [.requested (atlasCoapClientRequest req s).2])

/-! ## Completing -/

/-- A call of `message_handler` for a context, and the requests its callback makes if it is
called. -/
structure Message where
  session : ℕ
  sent : Bool
  received : Pdu
  requests : List Request
deriving DecidableEq

variable (host : ByteOrder)

/-- `validate_token`. -/
def validateToken (received : Pdu) (token : UInt32) : Bool := received.token = store32 host token

/-- What the application is told about a response. -/
def response (received : Pdu) : AtlasCoapResponse × Option (List UInt8) :=
  if received.type = .rst then (.reset, none)
  else if received.responseClass = 2 then (.ok, received.getData)
  else if received.responseClass = 4 then (.notFound, none)
  else (.unknown, none)

/-- Sets `dirty` in the entry of a request. -/
def markDirty (callback : ℕ) (entries : List AtlasCoapClientReq) : List AtlasCoapClientReq :=
  entries.map fun ent => if ent.callback = callback then { ent with dirty := true } else ent

/-- Takes the entry of a request from the list. -/
def unlink (callback : ℕ) (entries : List AtlasCoapClientReq) : List AtlasCoapClientReq :=
  entries.filter (·.callback ≠ callback)

/-- `message_handler`. -/
def messageHandler (ctx : ℕ) (s : State) (m : Message) : State × List Output :=
  match s.entries.find? fun ent => ent.ctx = ctx && ent.session = m.session with
  | none => (s, [])
  | some ent =>
    if !validateToken host m.received ent.token then
      (s, if m.received.unsolicited m.sent then [.rst m.session] else [])
    else
      let s := { s with entries := markDirty ent.callback s.entries }
      (run request s m.requests,
        .called ent.callback ent.uri (response m.received).1 (response m.received).2 ::
          trace request s m.requests)

/-- `coap_client_sched_callback`, when `coap_io_process` delivers these messages. -/
def coapClientSchedCallback (fd : ℤ) (messages : List Message) (s : State) : State × List Output :=
  match s.entries.find? (·.coapFd = fd) with
  | none => (s, [])
  | some p =>
    let s' := run (messageHandler host p.ctx) s messages
    (if s'.entries.any fun ent => ent.callback = p.callback && ent.dirty then
        { s' with entries := unlink p.callback s'.entries }
      else s',
      trace (messageHandler host p.ctx) s messages)

/-- `request_alarm_cb`, when the callback makes these requests. -/
def requestAlarmCb (alarmId : ℤ) (requests : List Request) (s : State) : State × List Output :=
  match s.entries.find? (·.alarmId = alarmId) with
  | none => (s, [])
  | some p =>
    let s' := run request s requests
    ({ s' with entries := unlink p.callback s'.entries },
      .called p.callback p.uri .timeout none :: trace request s requests)

inductive Event where
  | request (req : Request)
  | readable (fd : ℤ) (messages : List Message)
  | alarm (alarmId : ℤ) (requests : List Request)
deriving DecidableEq

def step (s : State) : Event → State × List Output
  | .request req => request s req
  | .readable fd messages => coapClientSchedCallback host fd messages s
  | .alarm alarmId requests => requestAlarmCb alarmId requests s

/-! ## What is left of a request -/

/-- The application is called for this request. -/
def Output.calls (i : ℕ) : Output → Bool
  | .called request _ _ _ => request = i
  | _ => false

/-- How often the application can still be called for the request `i`: once while the request is in
the list, and once as long as it has not been made. -/
def State.remaining (i : ℕ) (s : State) : ℕ :=
  s.entries.countP (·.callback = i) + if i < s.next then 0 else 1

/-- The response belongs to this request. -/
def answers (p : AtlasCoapClientReq) (m : Message) : Bool :=
  m.session = p.session && validateToken host m.received p.token

/-- One call of `coap_io_process` delivers more than one response to its request. -/
def answersTwice (s : State) : Event → Bool
  | .readable fd messages =>
    (s.entries.find? (·.coapFd = fd)).any fun p => 1 < messages.countP (answers host p)
  | _ => false

/-- Contexts and numbers tell the requests in the list apart. -/
structure Distinct (s : State) : Prop where
  ctx : (s.entries.map (·.ctx)).Nodup
  callback : (s.entries.map (·.callback)).Nodup
  next : ∀ ent ∈ s.entries, ent.callback < s.next

variable {host} {s : State} {p : AtlasCoapClientReq} {i : ℕ}

theorem remaining_of_mem (hp : p ∈ s.entries) : 1 ≤ s.remaining p.callback := by
  have hpos : 0 < s.entries.countP (·.callback = p.callback) :=
    List.countP_pos_iff.mpr ⟨p, hp, by simp⟩
  rw [State.remaining]
  omega

theorem map_callback_markDirty (callback : ℕ) (entries : List AtlasCoapClientReq) :
    (markDirty callback entries).map (·.callback) = entries.map (·.callback) := by
  rw [markDirty, List.map_map]
  exact List.map_congr_left fun ent _ => by dsimp only [Function.comp]; split <;> rfl

/-! ## Requests -/

/-- A request fails, or it gets a new entry. -/
theorem request_cases (s : State) (req : Request) :
    ((request s req).1.entries = s.entries ∧ (request s req).1.next = s.next) ∨
      ∃ ent : AtlasCoapClientReq, (request s req).1.entries = s.entries ++ [ent] ∧
        (request s req).1.next = s.next + 1 ∧ ent.callback = s.next ∧ ent.dirty = false ∧
        ent.ctx ∉ s.entries.map (·.ctx) := by
  simp only [request, atlasCoapClientRequest]
  split
  · exact .inl ⟨rfl, rfl⟩
  · split
    · exact .inl ⟨rfl, rfl⟩
    · split
      · exact .inl ⟨rfl, rfl⟩
      · split
        · exact .inl ⟨rfl, rfl⟩
        · rename_i ctx hctx
          simp only [coapNewContext, Option.ite_none_left_eq_some, not_or,
            Option.some.injEq] at hctx
          obtain ⟨⟨-, hnew⟩, rfl⟩ := hctx
          split
          · exact .inl ⟨rfl, rfl⟩
          · split
            · exact .inl ⟨rfl, rfl⟩
            · split
              · exact .inl ⟨rfl, rfl⟩
              · simp only [addRequest]
                split
                · exact .inl ⟨rfl, rfl⟩
                · split
                  · exact .inl ⟨rfl, rfl⟩
                  · exact .inr ⟨_, rfl, rfl, rfl, rfl, hnew⟩

theorem Distinct.request (h : Distinct s) (req : Request) : Distinct (request s req).1 := by
  rcases request_cases s req with ⟨hentries, hnext⟩ | ⟨ent, hentries, hnext, hcallback, -, hctx⟩
  · exact ⟨hentries ▸ h.ctx, hentries ▸ h.callback, by rw [hentries, hnext]; exact h.next⟩
  · refine ⟨?_, ?_, ?_⟩
    · rw [hentries]
      exact List.nodup_map_concat h.ctx fun ent' hent' heq => hctx (heq ▸ List.mem_map_of_mem hent')
    · rw [hentries]
      refine List.nodup_map_concat h.callback fun ent' hent' => ?_
      rw [hcallback]
      exact Nat.ne_of_lt (h.next ent' hent')
    · rw [hentries, hnext, List.forall_mem_append, List.forall_mem_singleton, hcallback]
      exact ⟨fun ent' hent' => Nat.lt_succ_of_lt (h.next ent' hent'), Nat.lt_succ_self _⟩

theorem remaining_request (s : State) (req : Request) (i : ℕ) :
    (request s req).1.remaining i ≤ s.remaining i := by
  rw [State.remaining, State.remaining]
  rcases request_cases s req with ⟨hentries, hnext⟩ | ⟨ent, hentries, hnext, hcallback, -, -⟩
  · rw [hentries, hnext]
  · rw [hentries, hnext, List.countP_append, List.countP_singleton, hcallback]
    by_cases hi : s.next = i
    · simp [hi]
    · rw [if_neg (by simpa using hi)]
      split <;> split <;> omega

/-- The requests a callback makes call no application and leave the budgets as they are. -/
theorem countP_requests (s : State) (requests : List Request) (i : ℕ) :
    (trace request s requests).countP (Output.calls i) = 0 ∧
      (run request s requests).remaining i ≤ s.remaining i := by
  induction requests generalizing s with
  | nil => exact ⟨rfl, Nat.le_refl _⟩
  | cons req requests ih =>
    obtain ⟨hcount, hremaining⟩ := ih (request s req).1
    refine ⟨?_, Nat.le_trans hremaining (remaining_request s req i)⟩
    rw [trace_cons, List.countP_append, hcount]
    rfl

/-- The state while the messages for the context of `p` are handled: only `p` may be dirty. -/
structure Serving (p : AtlasCoapClientReq) (dirty : Bool) (s : State) :
    Prop extends Distinct s where
  mem : { p with dirty := dirty } ∈ s.entries
  clean : ∀ ent ∈ s.entries, ent.dirty = true → ent.callback = p.callback

namespace Serving

variable {dirty : Bool}

theorem callback_lt (h : Serving p dirty s) : p.callback < s.next :=
  h.next { p with dirty := dirty } h.mem

theorem request (h : Serving p dirty s) (req : Request) : Serving p dirty (request s req).1 := by
  refine ⟨h.toDistinct.request req, ?_, ?_⟩
  · rcases request_cases s req with ⟨hentries, -⟩ | ⟨ent, hentries, -⟩ <;> rw [hentries]
    · exact h.mem
    · exact List.mem_append_left _ h.mem
  · rcases request_cases s req with ⟨hentries, -⟩ | ⟨ent, hentries, -, -, hclean, -⟩ <;>
      rw [hentries]
    · exact h.clean
    · intro ent' hent' hdirty
      rcases List.mem_append.mp hent' with hent' | hent'
      · exact h.clean ent' hent' hdirty
      · rw [List.mem_singleton.mp hent', hclean] at hdirty
        cases hdirty

theorem requests (h : Serving p dirty s) (requests : List Request) :
    Serving p dirty (run CoapClient.request s requests) := by
  induction requests generalizing s with
  | nil => exact h
  | cons req requests ih => exact ih (h.request req)

theorem markDirty (h : Serving p dirty s) :
    Serving p true { s with entries := markDirty p.callback s.entries } where
  ctx := by
    have hctx :
        (CoapClient.markDirty p.callback s.entries).map (·.ctx) = s.entries.map (·.ctx) := by
      rw [CoapClient.markDirty, List.map_map]
      exact List.map_congr_left fun ent _ => by dsimp only [Function.comp]; split <;> rfl
    rw [hctx]
    exact h.ctx
  callback := by
    rw [map_callback_markDirty]
    exact h.callback
  next ent hent := by
    obtain ⟨old, hold, rfl⟩ := List.mem_map.mp hent
    have hnext := h.next old hold
    split <;> exact hnext
  mem := List.mem_map.mpr ⟨_, h.mem, if_pos rfl⟩
  clean ent hent hdirty := by
    obtain ⟨old, hold, rfl⟩ := List.mem_map.mp hent
    by_cases heq : old.callback = p.callback
    · rw [if_pos heq]
      exact heq
    · rw [if_neg heq] at hdirty ⊢
      exact h.clean old hold hdirty

/-- The entry the handler finds. -/
theorem find? (h : Serving p dirty s) (session : ℕ) :
    s.entries.find? (fun ent => ent.ctx = p.ctx && ent.session = session) =
      if p.session = session then some { p with dirty := dirty } else none := by
  have hfind := List.find?_key_of_nodup h.ctx h.mem (fun ent => ent.session = session)
  simpa using hfind

/-- Whether the entry is dirty at the end. -/
theorem any_dirty (h : Serving p dirty s) :
    s.entries.any (fun ent => ent.callback = p.callback && ent.dirty) = dirty := by
  rw [Bool.eq_iff_iff, List.any_eq_true]
  constructor
  · rintro ⟨ent, hent, hdirty⟩
    obtain ⟨hcallback, hdirty⟩ := Bool.and_eq_true_iff.mp hdirty
    have heq := List.inj_on_of_nodup_map h.callback hent h.mem (of_decide_eq_true hcallback)
    rwa [heq] at hdirty
  · intro hdirty
    exact ⟨_, h.mem, by simp [hdirty]⟩

/-- A message that does not answer the request calls nobody. -/
theorem messageHandler_of_not_answers (h : Serving p dirty s) {m : Message}
    (hm : answers host p m = false) (i : ℕ) :
    (messageHandler host p.ctx s m).1 = s ∧
      (messageHandler host p.ctx s m).2.countP (Output.calls i) = 0 := by
  rw [messageHandler, h.find?]
  by_cases hsession : p.session = m.session
  · have htoken : validateToken host m.received p.token = false := by
      simpa [answers, hsession] using hm
    simp only [hsession, if_true, htoken, Bool.not_false]
    refine ⟨trivial, ?_⟩
    split <;> rfl
  · simp [hsession]

/-- A message that answers the request calls its application, whether it was called before or
not. -/
theorem messageHandler_of_answers (h : Serving p dirty s) {m : Message}
    (hm : answers host p m = true) :
    Serving p true (messageHandler host p.ctx s m).1 ∧ ∀ i,
      (messageHandler host p.ctx s m).2.countP (Output.calls i) =
        (if i = p.callback then 1 else 0) ∧
        (messageHandler host p.ctx s m).1.remaining i ≤ s.remaining i := by
  obtain ⟨hsession, htoken⟩ := Bool.and_eq_true_iff.mp hm
  have hsession' : p.session = m.session := (of_decide_eq_true hsession).symm
  rw [messageHandler, h.find?, if_pos hsession']
  simp only [htoken, Bool.not_true, Bool.false_eq_true, if_false]
  refine ⟨h.markDirty.requests m.requests, fun i => ?_⟩
  obtain ⟨hcount, hremaining⟩ := countP_requests
    { s with entries := CoapClient.markDirty p.callback s.entries } m.requests i
  refine ⟨?_, Nat.le_trans hremaining (Nat.le_of_eq ?_)⟩
  · rw [List.countP_cons, hcount]
    by_cases hi : i = p.callback
    · simp [Output.calls, hi]
    · simp [Output.calls, hi, Ne.symm hi]
  · have hmap := congrArg (List.countP (· = i)) (map_callback_markDirty p.callback s.entries)
    simp only [List.countP_map, Function.comp_def] at hmap
    rw [State.remaining, State.remaining, hmap]

/-- One call of `coap_io_process` calls the application once for every message that answers the
request. -/
theorem deliver (host : ByteOrder) (h : Serving p dirty s) (messages : List Message) :
    Serving p (dirty || 0 < messages.countP (answers host p))
        (run (messageHandler host p.ctx) s messages) ∧ ∀ i,
      (trace (messageHandler host p.ctx) s messages).countP (Output.calls i) =
          (if i = p.callback then messages.countP (answers host p) else 0) ∧
        (run (messageHandler host p.ctx) s messages).remaining i ≤ s.remaining i := by
  induction messages generalizing s dirty with
  | nil => exact ⟨by simpa using h, fun i => ⟨by simp, Nat.le_refl _⟩⟩
  | cons m messages ih =>
    rw [run_cons, trace_cons]
    cases hm : answers host p m with
    | false =>
      obtain ⟨hserving, hrest⟩ := ih h
      rw [(h.messageHandler_of_not_answers hm 0).1, List.countP_cons_of_neg (by simp [hm])]
      refine ⟨hserving, fun i => ⟨?_, (hrest i).2⟩⟩
      rw [List.countP_append, (h.messageHandler_of_not_answers hm i).2, (hrest i).1, Nat.zero_add]
    | true =>
      obtain ⟨hfirst, hcount⟩ := h.messageHandler_of_answers hm
      obtain ⟨hserving, hrest⟩ := ih hfirst
      rw [List.countP_cons_of_pos hm]
      refine ⟨by simpa using hserving, fun i => ⟨?_, Nat.le_trans (hrest i).2 (hcount i).2⟩⟩
      rw [List.countP_append, (hcount i).1, (hrest i).1]
      split <;> omega

end Serving

/-! ## One step -/

/-- Between two callbacks the requests are distinct and none is dirty. -/
structure Settled (s : State) : Prop extends Distinct s where
  clean : ∀ ent ∈ s.entries, ent.dirty = false

theorem Settled.serving (h : Settled s) (hp : p ∈ s.entries) : Serving p false s where
  toDistinct := h.toDistinct
  mem := by
    have hclean := h.clean p hp
    rwa [← hclean]
  clean ent hent hdirty := by simp [h.clean ent hent] at hdirty

/-- A request that is done is taken from the list. -/
theorem Serving.unlink {dirty : Bool} (h : Serving p dirty s) :
    Settled { s with entries := unlink p.callback s.entries } where
  ctx := h.ctx.sublist (List.filter_sublist.map _)
  callback := h.callback.sublist (List.filter_sublist.map _)
  next ent hent := h.next ent (List.mem_of_mem_filter hent)
  clean ent hent := by
    obtain ⟨hmem, hne⟩ := List.mem_filter.mp hent
    by_contra hdirty
    exact of_decide_eq_true hne (h.clean ent hmem (by simpa using hdirty))

/-- It has then used its budget, and no other request is touched. -/
theorem remaining_unlink (hp : p.callback < s.next) (i : ℕ) :
    ({ s with entries := unlink p.callback s.entries } : State).remaining i ≤
      if i = p.callback then 0 else s.remaining i := by
  simp only [State.remaining, unlink, List.countP_filter]
  by_cases hi : i = p.callback
  · rw [if_pos hi, hi, if_pos hp]
    simp
  · rw [if_neg hi]
    refine Nat.add_le_add_right (List.countP_mono_left fun ent _ h => ?_) _
    exact (Bool.and_eq_true_iff.mp h).1

theorem Settled.readable (h : Settled s) {fd : ℤ} {messages : List Message}
    (hp : s.entries.find? (·.coapFd = fd) = some p) (honce : messages.countP (answers host p) ≤ 1) :
    Settled (step host s (.readable fd messages)).1 ∧ ∀ i,
      (step host s (.readable fd messages)).2.countP (Output.calls i) +
        (step host s (.readable fd messages)).1.remaining i ≤ s.remaining i := by
  have hmem := List.mem_of_find?_eq_some hp
  obtain ⟨hserving, hcount⟩ := (h.serving hmem).deliver host messages
  rw [Bool.false_or] at hserving
  simp only [step, coapClientSchedCallback, hp, hserving.any_dirty]
  by_cases hpos : 0 < messages.countP (answers host p)
  · rw [if_pos (by simpa using hpos)]
    refine ⟨hserving.unlink, fun i => ?_⟩
    have hunlink := remaining_unlink hserving.callback_lt i
    rw [(hcount i).1]
    by_cases hi : i = p.callback
    · have := remaining_of_mem hmem
      rw [if_pos hi] at hunlink ⊢
      subst hi
      omega
    · have := (hcount i).2
      rw [if_neg hi] at hunlink ⊢
      omega
  · rw [if_neg (by simpa using hpos)]
    have hzero : messages.countP (answers host p) = 0 := by omega
    rw [hzero] at hserving
    refine ⟨⟨hserving.toDistinct, fun ent hent => ?_⟩, fun i => ?_⟩
    · by_contra hdirty
      have heq := List.inj_on_of_nodup_map hserving.callback hent hserving.mem
        (hserving.clean ent hent (by simpa using hdirty))
      simp [heq] at hdirty
    · have := (hcount i).2
      rw [(hcount i).1, hzero, ite_self]
      omega

theorem Settled.alarm (h : Settled s) {alarmId : ℤ} {requests : List Request}
    (hp : s.entries.find? (·.alarmId = alarmId) = some p) :
    Settled (step host s (.alarm alarmId requests)).1 ∧ ∀ i,
      (step host s (.alarm alarmId requests)).2.countP (Output.calls i) +
        (step host s (.alarm alarmId requests)).1.remaining i ≤ s.remaining i := by
  have hmem := List.mem_of_find?_eq_some hp
  have hserving := (h.serving hmem).requests requests
  simp only [step, requestAlarmCb, hp]
  refine ⟨hserving.unlink, fun i => ?_⟩
  obtain ⟨hcount, hremaining⟩ := countP_requests s requests i
  have hunlink := remaining_unlink hserving.callback_lt i
  rw [List.countP_cons, hcount]
  by_cases hi : i = p.callback
  · have := remaining_of_mem hmem
    rw [if_pos hi] at hunlink
    subst hi
    simp only [Output.calls, decide_true, if_true]
    omega
  · rw [if_neg hi] at hunlink
    simp only [Output.calls, Ne.symm hi, decide_false, Bool.false_eq_true, if_false]
    omega

theorem Settled.request (h : Settled s) (req : Request) :
    Settled (request s req).1 := by
  refine ⟨h.toDistinct.request req, ?_⟩
  rcases request_cases s req with ⟨hentries, -⟩ | ⟨ent, hentries, -, -, hclean, -⟩ <;> rw [hentries]
  · exact h.clean
  · intro ent' hent'
    rcases List.mem_append.mp hent' with hent' | hent'
    · exact h.clean ent' hent'
    · rw [List.mem_singleton.mp hent']
      exact hclean

/-- A step pays for its calls, unless one call of `coap_io_process` delivers two answers. -/
theorem settled_step (h : Settled s) {e : Event} (he : answersTwice host s e = false) :
    Settled (step host s e).1 ∧ ∀ i,
      (step host s e).2.countP (Output.calls i) + (step host s e).1.remaining i ≤
        s.remaining i := by
  cases e with
  | request req =>
    refine ⟨h.request req, fun i => ?_⟩
    have := remaining_request s req i
    simpa [step, CoapClient.request, Output.calls] using this
  | readable fd messages =>
    cases hp : s.entries.find? (·.coapFd = fd) with
    | none =>
      simp only [step, coapClientSchedCallback, hp]
      exact ⟨h, fun i => by simp⟩
    | some p =>
      refine h.readable hp ?_
      simpa [answersTwice, hp] using he
  | alarm alarmId requests =>
    cases hp : s.entries.find? (·.alarmId = alarmId) with
    | none =>
      simp only [step, requestAlarmCb, hp]
      exact ⟨h, fun i => by simp⟩
    | some p => exact h.alarm hp

/-- Two answers call the application twice. -/
theorem exists_called_twice (h : Settled s) {e : Event} (he : answersTwice host s e = true) :
    ∃ i, 1 < (step host s e).2.countP (Output.calls i) := by
  cases e with
  | request | alarm => cases he
  | readable fd messages =>
    cases hp : s.entries.find? (·.coapFd = fd) with
    | none => simp [answersTwice, hp] at he
    | some p =>
      have htwice : 1 < messages.countP (answers host p) := by simpa [answersTwice, hp] using he
      have hserving := h.serving (List.mem_of_find?_eq_some hp)
      have hcount := ((hserving.deliver host messages).2 p.callback).1
      refine ⟨p.callback, ?_⟩
      simp only [step, coapClientSchedCallback, hp]
      rwa [hcount, if_pos rfl]

/-! ## Runs -/

/-- In every run, the application is called at most once for each request if and only if no call of
`coap_io_process` delivers more than one valid response to its request. -/
theorem called_at_most_once_iff (host : ByteOrder) (es : List Event) :
    (∀ i, (trace (step host) .init es).countP (Output.calls i) ≤ 1) ↔
      AllSteps (step host) (fun s e => answersTwice host s e = false) .init es := by
  have hinit : Settled .init := ⟨⟨by simp [State.init], by simp [State.init], nofun⟩, nofun⟩
  refine countP_trace_le_one_iff (φ := State.remaining) (I := Settled) ?_ ?_ ?_ hinit ?_
  · exact fun s e hs he => (settled_step hs he).1
  · exact fun s e hs he i => (settled_step hs he).2 i
  · exact fun s e hs he => exists_called_twice hs (by simpa using he)
  · exact fun i => by simp [State.remaining, State.init]

/-- A request on descriptor 4. -/
def sampleRequest : Request :=
  ⟨some [0x61], true, true, 1, 2, true, true, 4, 5⟩

/-- An acknowledgement with content for the first request. -/
def sampleMessage : Message := ⟨2, true, ⟨.ack, 69, [0, 0, 0, 0], [1, 0]⟩, []⟩

/-- Two copies of the response are read at once, and the application is called twice. -/
theorem duplicate_response_calls_twice :
    (trace (step .little) .init
      [.request sampleRequest, .readable 4 [sampleMessage, sampleMessage]]).countP
        (Output.calls 0) = 2 := by
  decide

end CoapClient

end Atlas.Client
