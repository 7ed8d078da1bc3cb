import Atlas.Gateway.Device
import Atlas.Lib.Coap
import Atlas.Lib.OneShot

/-! # CoAP requests of the gateway

`AtlasCoapClient` keeps its requests and their timeouts in two maps with the CoAP context as key.
Every look-up with `operator[]` also inserts, so the map of the requests fills with default requests
for contexts that are done. A callback runs inside the look-up's handler, before the request is
erased, and may itself send and cancel requests.

Each step of the client is a path of the moves of a one-shot request (`OneShot.Move`). While its
callback runs, a request is completed already although it is still in the map; `Sim` says which
requests that concerns.

Reference: `coap/AtlasCoapClient.cpp`, `coap/AtlasCoapRequest.cpp`.
-/

namespace Atlas.Gateway.CoapClient

open ByteOrder Coap EventMachine

/-- `AtlasCoapRequest`. Contexts and sessions are addresses, zero is the null pointer. The default
constructor does not set the token. A callback is named by the context of its request. -/
structure AtlasCoapRequest where
  context : ℕ
  session : ℕ
  token : Option UInt32
  callback : Option ℕ
deriving DecidableEq

/-- The default constructor. -/
def AtlasCoapRequest.default : AtlasCoapRequest := ⟨0, 0, none, none⟩

/-- `AtlasCoapClient`. An alarm in `timeouts` holds the descriptor its callback is bound to.
`contexts` are the contexts of all requests so far. -/
structure State where
  requests : ℕ → Option AtlasCoapRequest
  timeouts : ℕ → Option ℤ
  token : UInt32
  contexts : List ℕ

/-- Before any request. -/
def State.init : State := ⟨fun _ => none, fun _ => none, 0, []⟩

inductive Output where
  | requested (ctx : ℕ)
  | called (callback : ℕ) (respStatus : CoapResponse) (respPayload : Option (List UInt8))
  | cancelled (ctx : ℕ)
  | timedOut (ctx : ℕ)
  | rst (session : ℕ)
  | addFdEntry (fd : ℤ)
  | delFdEntry (fd : ℤ)
deriving DecidableEq

/-- `requests_[ctx]`. -/
def State.request (s : State) (ctx : ℕ) : AtlasCoapRequest := (s.requests ctx).getD .default

/-- What `requests_[ctx]` leaves behind. -/
def State.inserted (s : State) (ctx : ℕ) : State :=
  { s with requests := Function.update s.requests ctx (some (s.request ctx)) }

/-- `requests_.erase` and `timeouts_.erase`. -/
def State.erase (s : State) (ctx : ℕ) : State :=
  { s with
    requests := Function.update s.requests ctx none
    timeouts := Function.update s.timeouts ctx none }

/-- Both maps get an entry for a new request. -/
def State.add (s : State) (fd : ℤ) (req : AtlasCoapRequest) : State :=
  { s with
    requests := Function.update s.requests req.context (some req)
    timeouts := Function.update s.timeouts req.context (some fd)
    contexts := req.context :: s.contexts }

/-! ## Sending and cancelling -/

/-- What a call of `sendRequest` meets: whether the URI is split and the host resolved, the context
and the session, whether the PDU is made and takes the token, the descriptor of the context, and
whether the application gives a callback. -/
structure Request where
  split : Bool
  resolved : Bool
  ctx : ℕ
  session : ℕ
  pdu : Bool
  tokenAdded : Bool
  coapFd : ℤ
  hasCallback : Bool
deriving DecidableEq

/-- `coap_new_context`. The context of an earlier request is not returned again, so it stands for a
failure here. -/
def coapNewContext (ctx : ℕ) (s : State) : Option ℕ :=
  if ctx = 0 ∨ ctx ∈ s.contexts then none else some ctx

/-- `addRequest`. -/
def addRequest (ctx session : ℕ) (token : UInt32) (fd : ℤ) (callback : Option ℕ) (s : State) :
    State × Except SendFailure ℕ :=
  if fd < 0 then (s, .error .coapFd)
  else (s.add fd ⟨ctx, session, some token, callback⟩, .ok ctx)

/-- `sendRequest`. It returns the context as a handle, or throws. -/
def sendRequest (req : Request) (s : State) : State × Except SendFailure ℕ :=
  if !req.split then (s, .error .splitUri)
  else if !req.resolved then (s, .error .resolveAddress)
  else
    match coapNewContext req.ctx s with
    | none => (s, .error .newContext)
    | some ctx =>
      if req.session = 0 then (s, .error .newSession)
      else if !req.pdu then (s, .error .newPdu)
      else
        -- `getToken`
        let token := s.token
        let s := { s with token := s.token + 1 }
        if !req.tokenAdded then (s, .error .addToken)
        else
          addRequest ctx req.session token req.coapFd (if req.hasCallback then some ctx else none) s

/-- What the application does, on its own or in a callback. It may catch the exception of a failed
request. -/
inductive Action where
  | send (req : Request) (caught : Bool)
  | cancel (ctx : ℕ)
deriving DecidableEq

/-- One action. Nothing above the callbacks catches an exception, so the process ends with it. -/
def State.act (s : State) : Action → Option State × List Output
  | .send req caught =>
    match sendRequest req s with
    | (s', .ok ctx) => (some s', [.requested ctx, .addFdEntry req.coapFd])
    | (s', .error _) => (if caught then some s' else none, [])
  | .cancel ctx =>
    -- `cancelRequest`
    if ctx = 0 then (some s, []) else (some (s.erase ctx), [.cancelled ctx])

/-- A handler of a running client, for a process that may have ended. -/
def lift {ε : Type} (handler : State → ε → Option State × List Output) (s : Option State) (e : ε) :
    Option State × List Output :=
  match s with
  | none => (none, [])
  | some s => handler s e

/-! ## Completing -/

/-- A call of `messageHandler`: the context, the session, whether it answers a sent PDU, and the
PDU. `matchesUnset` is the outcome of comparing the token with one that was never set. The actions
are those of the callback, if it is called. -/
structure Message where
  ctx : ℕ
  session : ℕ
  sent : Bool
  received : Pdu
  matchesUnset : Bool
  actions : List Action
deriving DecidableEq

variable (host : ByteOrder)

/-- `validateToken`. -/
def validateToken (m : Message) : Option UInt32 → Bool
  | none => m.matchesUnset
  | some token => m.received.token = store32 host token

/-- What the application is told about a response. -/
def response (received : Pdu) : CoapResponse × Option (List UInt8) :=
  if received.type = .rst then (.reset, none)
  else if received.responseClass = 2 then (.ok, received.getData)
  else if received.responseClass = 4 then (.notFound, none)
  else (.unknown, none)

/-- Calls the callback of a request, which then acts. An empty callback throws. -/
def call (req : AtlasCoapRequest) (respStatus : CoapResponse) (respPayload : Option (List UInt8))
    (actions : List Action) (s : State) : Option State × List Output :=
  match req.callback with
  | none => (none, [])
  | some callback =>
    (run (lift State.act) (some s) actions,
      .called callback respStatus respPayload :: trace (lift State.act) (some s) actions)

/-- `messageProcess`. -/
def messageProcess (s : State) (m : Message) : Option State × List Output :=
  let req := s.request m.ctx
  let s := s.inserted m.ctx
  if req.context ≠ m.ctx ∨ req.session ≠ m.session then (some s, [])
  else if !validateToken host m req.token then
    (some s, if m.received.unsolicited m.sent then [.rst m.session] else [])
  else
    let (s', ws) := call req (response m.received).1 (response m.received).2 m.actions s
    (s'.map (·.erase m.ctx), ws)

/-- `scheduleCallback`, when `coap_io_process` delivers these messages. -/
def scheduleCallback (ctx : ℕ) (fd : ℤ) (messages : List Message) (s : State) :
    Option State × List Output :=
  let ws := trace (lift (messageProcess host)) (some s) messages
  match run (lift (messageProcess host)) (some s) messages with
  | none => (none, ws)
  | some s =>
    (some (s.inserted ctx), ws ++ if (s.request ctx).context ≠ ctx then [.delFdEntry fd] else [])

/-- `alarmCallback`, when the callback of the request acts like this. -/
def alarmCallback (ctx : ℕ) (coapFd : ℤ) (actions : List Action) (s : State) :
    Option State × List Output :=
  let req := s.request ctx
  let s := s.inserted ctx
  if req.context = ctx then
    match call req .timeout none actions s with
    | (none, ws) => (none, ws)
    | (some s', ws) => (some (s'.erase ctx), ws ++ [.delFdEntry coapFd, .timedOut ctx])
  else (some { s with timeouts := Function.update s.timeouts ctx none }, [.timedOut ctx])

inductive Event where
  | act (a : Action)
  | readable (ctx : ℕ) (fd : ℤ) (messages : List Message)
  | timeout (ctx : ℕ) (actions : List Action)
deriving DecidableEq

/-- One event. An alarm that was destroyed does not fire. -/
def State.handle (s : State) : Event → Option State × List Output
  | .act a => s.act a
  | .readable ctx fd messages => scheduleCallback host ctx fd messages s
  | .timeout ctx actions =>
    match s.timeouts ctx with
    | none => (some s, [])
    | some coapFd => alarmCallback ctx coapFd actions s

def step : Option State → Event → Option State × List Output := lift (State.handle host)

/-! ## The client as a one-shot component -/

/-- What an output says about a request. -/
def view : Output → Option (OneShot.Output ℕ)
  | .requested ctx => some (.made ctx)
  | .called callback _ _ => some (.completed callback)
  | .cancelled ctx => some (.dropped ctx)
  | .timedOut ctx => some (.dropped ctx)
  | _ => none

/-- The client simulates the one-shot requests `a`. The requests in `done` are completed, although
they may still be in the map. -/
structure Sim (done : Set ℕ) (s : State) (a : OneShot.State ℕ) : Prop where
  made : ∀ ctx ∈ a.made, ctx ∈ s.contexts
  request : ∀ {ctx c : ℕ} {req : AtlasCoapRequest}, s.requests ctx = some req →
    req.callback = some c → c = ctx ∧ req.context = ctx ∧ (ctx ∉ done → ctx ∈ a.pending)

/-- A handler's outcome follows from `a` by moves of the one-shot requests. -/
def Simulated (done : Set ℕ) (a : OneShot.State ℕ) (r : Option State × List Output) : Prop :=
  ∃ a', Path OneShot.Move a (r.2.filterMap view) a' ∧ ∀ s ∈ r.1, Sim done s a'

section Simulation

variable {host} {done done' : Set ℕ} {s : State} {a a' : OneShot.State ℕ} {ctx : ℕ}

theorem sim_init : Sim ∅ State.init OneShot.State.init where
  made _ h := absurd h (Set.notMem_empty _)
  request h := by cases h

/-- The inserting look-up adds no request that can be completed. -/
theorem Sim.inserted (h : Sim done s a) (ctx : ℕ) : Sim done (s.inserted ctx) a where
  made := h.made
  request {ctx' c req} hreq hc := by
    by_cases hctx : ctx' = ctx
    · subst hctx
      simp only [State.inserted, Function.update_self, Option.some.injEq] at hreq
      subst hreq
      cases hold : s.requests ctx' with
      | none => simp [State.request, hold, AtlasCoapRequest.default] at hc
      | some req =>
        simp only [State.request, hold, Option.getD_some] at hc ⊢
        exact h.request hold hc
    · simp only [State.inserted, Function.update_of_ne hctx] at hreq
      exact h.request hreq hc

/-- After the erasure nothing is asked of the erased request. -/
theorem Sim.erase (h : Sim done s a) (hmade : a'.made = a.made)
    (hpending : ∀ ctx', ctx' ≠ ctx → ctx' ∉ done' → ctx' ∉ done)
    (hkept : ∀ ctx', ctx' ≠ ctx → ctx' ∈ a.pending → ctx' ∈ a'.pending) :
    Sim done' (s.erase ctx) a' where
  made := by rw [hmade]; exact h.made
  request {ctx' c req} hreq hc := by
    have hctx : ctx' ≠ ctx := by
      rintro rfl
      simp [State.erase] at hreq
    simp only [State.erase, Function.update_of_ne hctx] at hreq
    obtain ⟨hcc, hcontext, hpend⟩ := h.request hreq hc
    exact ⟨hcc, hcontext, fun hdone => hkept ctx' hctx (hpend (hpending ctx' hctx hdone))⟩

/-- A handler that simulates keeps doing so over a list of events. -/
theorem simulated_run {ε : Type} {handler : State → ε → Option State × List Output}
    (hhandler : ∀ {s a} e, Sim done s a → Simulated done a (handler s e)) (h : Sim done s a)
    (es : List ε) :
    Simulated done a (run (lift handler) (some s) es, trace (lift handler) (some s) es) := by
  refine Path.exists_of_simulation (R := fun o a => ∀ s ∈ o, Sim done s a) ?_ ?_ es
  · intro o a e ho
    cases o with
    | none => exact ⟨a, .refl a, nofun⟩
    | some s => exact hhandler e (ho s rfl)
  · rintro s' ⟨⟩
    exact h

/-- A request fails, or it enters both maps under a new context. -/
theorem sendRequest_cases (req : Request) (s : State) :
    (∃ token failure, sendRequest req s = ({ s with token := token }, .error failure)) ∨
      req.ctx ∉ s.contexts ∧ sendRequest req s =
        ({ s with token := s.token + 1 }.add req.coapFd ⟨req.ctx, req.session, some s.token,
            if req.hasCallback then some req.ctx else none⟩, .ok req.ctx) := by
  simp only [sendRequest]
  split
  · exact .inl ⟨_, _, rfl⟩
  · split
    · exact .inl ⟨_, _, rfl⟩
    · split
      · exact .inl ⟨_, _, rfl⟩
      · rename_i ctx hctx
        simp only [coapNewContext, Option.ite_none_left_eq_some, not_or, Option.some.injEq] at hctx
        obtain ⟨⟨-, hnew⟩, rfl⟩ := hctx
        split
        · exact .inl ⟨_, _, rfl⟩
        · split
          · exact .inl ⟨_, _, rfl⟩
          · split
            · exact .inl ⟨_, _, rfl⟩
            · simp only [addRequest]
              split
              · exact .inl ⟨_, _, rfl⟩
              · exact .inr ⟨hnew, rfl⟩

/-- A new request enters the map. -/
theorem Sim.add (h : Sim done s a) (fd : ℤ) (req : AtlasCoapRequest)
    (hcallback : ∀ c, req.callback = some c → c = req.context) :
    Sim done (s.add fd req) ⟨insert req.context a.made, insert req.context a.pending⟩ where
  made ctx hmade := by
    rcases hmade with rfl | hmade
    · exact List.mem_cons_self
    · exact List.mem_cons_of_mem _ (h.made ctx hmade)
  request {ctx c req'} hreq hc := by
    by_cases hctx : ctx = req.context
    · subst hctx
      simp only [State.add, Function.update_self, Option.some.injEq] at hreq
      subst hreq
      exact ⟨hcallback c hc, rfl, fun _ => Set.mem_insert _ _⟩
    · simp only [State.add, Function.update_of_ne hctx] at hreq
      obtain ⟨hcc, hcontext, hpend⟩ := h.request hreq hc
      exact ⟨hcc, hcontext, fun hdone => Set.mem_insert_of_mem _ (hpend hdone)⟩

theorem simulated_act (action : Action) (h : Sim done s a) : Simulated done a (s.act action) := by
  cases action with
  | send req caught =>
    rw [State.act]
    rcases sendRequest_cases req s with ⟨token, failure, heq⟩ | ⟨hnew, heq⟩
    · rw [heq]
      refine ⟨a, .refl a, ?_⟩
      cases caught with
      | false => exact nofun
      | true =>
        rintro s' ⟨⟩
        exact ⟨h.made, h.request⟩
    · rw [heq]
      refine ⟨_, .single (.make req.ctx fun hmade => hnew (h.made _ hmade)), ?_⟩
      rintro s' ⟨⟩
      have htoken : Sim done { s with token := s.token + 1 } a := ⟨h.made, h.request⟩
      refine htoken.add req.coapFd _ fun c hc => ?_
      cases hcallback : req.hasCallback <;> simp_all
  | cancel ctx =>
    rw [State.act]
    split
    · refine ⟨a, .refl a, ?_⟩
      rintro s' ⟨⟩
      exact h
    · refine ⟨_, .single (.drop ctx), ?_⟩
      rintro s' ⟨⟩
      exact h.erase rfl (fun _ _ => id) fun ctx' hctx hpend => ⟨hpend, hctx⟩

/-- The request of a context is completed when its callback is called, before the callback acts. -/
theorem simulated_call (ctx : ℕ) (h : Sim ∅ s a) (respStatus : CoapResponse)
    (respPayload : Option (List UInt8)) (actions : List Action) :
    Simulated {ctx} a (call (s.request ctx) respStatus respPayload actions (s.inserted ctx)) := by
  rw [call]
  cases hc : (s.request ctx).callback with
  | none => exact ⟨a, .refl a, nofun⟩
  | some c =>
    have hins := h.inserted ctx
    obtain ⟨rfl, -, hpend⟩ := hins.request (Function.update_self ..) hc
    have hcall : Sim {c} (s.inserted c) ⟨a.made, a.pending \ {c}⟩ := by
      refine ⟨hins.made, fun {ctx' c' req} hreq hc' => ?_⟩
      obtain ⟨hcc, hcontext, hpend'⟩ := hins.request hreq hc'
      exact ⟨hcc, hcontext, fun hctx => ⟨hpend' (Set.notMem_empty _), hctx⟩⟩
    obtain ⟨a', p, ha'⟩ := simulated_run simulated_act hcall actions
    exact ⟨a', .head (.complete c (hpend (Set.notMem_empty _))) p, ha'⟩

theorem simulated_messageProcess (m : Message) (h : Sim ∅ s a) :
    Simulated ∅ a (messageProcess host s m) := by
  have hkeep : ∀ ws : List Output, ws.filterMap view = [] →
      Simulated ∅ a (some (s.inserted m.ctx), ws) := by
    intro ws hws
    refine ⟨a, ?_, ?_⟩
    · rw [hws]
      exact .refl a
    · rintro s' ⟨⟩
      exact h.inserted m.ctx
  simp only [messageProcess]
  split
  · exact hkeep [] rfl
  · split
    · refine hkeep _ ?_
      split <;> rfl
    · obtain ⟨a', p, ha'⟩ := simulated_call m.ctx h (response m.received).1
        (response m.received).2 m.actions
      refine ⟨a', p, fun s' hs' => ?_⟩
      obtain ⟨s'', hs'', rfl⟩ := Option.map_eq_some_iff.mp hs'
      exact (ha' s'' hs'').erase rfl (fun ctx' hctx _ => hctx) fun _ _ => id

theorem simulated_scheduleCallback (ctx : ℕ) (fd : ℤ) (messages : List Message) (h : Sim ∅ s a) :
    Simulated ∅ a (scheduleCallback host ctx fd messages s) := by
  obtain ⟨a', p, ha'⟩ := simulated_run (fun m => simulated_messageProcess m) h messages
  rw [scheduleCallback]
  cases hrun : run (lift (messageProcess host)) (some s) messages with
  | none => exact ⟨a', p, nofun⟩
  | some s' =>
    refine ⟨a', ?_, ?_⟩
    · have hnil : ∀ (c : Prop) [Decidable c],
          (if c then [Output.delFdEntry fd] else []).filterMap view = [] := by
        intro c _
        split <;> rfl
      rw [List.filterMap_append, hnil, List.append_nil]
      exact p
    · rintro s'' ⟨⟩
      exact (ha' s' hrun).inserted ctx

theorem simulated_alarmCallback (ctx : ℕ) (coapFd : ℤ) (actions : List Action) (h : Sim ∅ s a) :
    Simulated ∅ a (alarmCallback ctx coapFd actions s) := by
  simp only [alarmCallback]
  split
  · obtain ⟨a', p, ha'⟩ := simulated_call ctx h .timeout none actions
    split
    · rename_i ws heq
      rw [heq] at p
      exact ⟨a', p, nofun⟩
    · rename_i s' ws heq
      rw [heq] at p ha'
      refine ⟨⟨a'.made, a'.pending \ {ctx}⟩, ?_, ?_⟩
      · rw [List.filterMap_append]
        exact p.trans (.single (.drop ctx))
      · rintro s'' ⟨⟩
        exact (ha' s' rfl).erase rfl (fun ctx' hctx _ => hctx) fun ctx' hctx hpend => ⟨hpend, hctx⟩
  · rename_i hcontext
    refine ⟨⟨a.made, a.pending \ {ctx}⟩, .single (.drop ctx), ?_⟩
    rintro s' ⟨⟩
    have hins := h.inserted ctx
    refine ⟨hins.made, fun {ctx' c req} hreq hc => ?_⟩
    obtain ⟨hcc, hcontext', hpend⟩ := hins.request hreq hc
    refine ⟨hcc, hcontext', fun hdone => ⟨hpend hdone, ?_⟩⟩
    -- the request under `ctx` is not for this context, so it has no callback
    rintro rfl
    simp only [State.inserted, Function.update_self, Option.some.injEq] at hreq
    exact hcontext (hreq ▸ hcontext')

theorem simulated_handle (e : Event) (h : Sim ∅ s a) : Simulated ∅ a (s.handle host e) := by
  cases e with
  | act action => exact simulated_act action h
  | readable ctx fd messages => exact simulated_scheduleCallback ctx fd messages h
  | timeout ctx actions =>
    rw [State.handle]
    split
    · refine ⟨a, .refl a, ?_⟩
      rintro s' ⟨⟩
      exact h
    · exact simulated_alarmCallback ctx _ actions h

/-- Every run of the client is a path of one-shot requests. -/
theorem exists_path_of_run (host : ByteOrder) (events : List Event) :
    ∃ a, Path OneShot.Move .init ((trace (step host) (some .init) events).filterMap view) a := by
  obtain ⟨a, p, -⟩ := simulated_run (fun e => simulated_handle e) sim_init events
  exact ⟨a, p⟩

end Simulation

/-! ## At most one completion -/

/-- The application's callback is invoked for this request. -/
def Output.calls (ctx : ℕ) : Output → Bool
  | .called callback _ _ => callback = ctx
  | _ => false

/-- The output ends a request without a response: it was cancelled, or its timeout callback ran. -/
def Output.ends (ctx : ℕ) (w : Output) : Bool := w = .cancelled ctx || w = .timedOut ctx

theorem view_of_calls {ctx : ℕ} {w : Output} (h : w.calls ctx) :
    view w = some (.completed ctx) := by
  cases w with
  | called callback respStatus respPayload =>
    simp only [Output.calls, decide_eq_true_eq] at h
    rw [h]
    rfl
  | _ => cases h

theorem view_of_ends {ctx : ℕ} {w : Output} (h : w.ends ctx) : view w = some (.dropped ctx) := by
  rw [Output.ends, Bool.or_eq_true, decide_eq_true_eq, decide_eq_true_eq] at h
  rcases h with rfl | rfl <;> rfl

theorem countP_calls_eq_count (ctx : ℕ) (ws : List Output) :
    ws.countP (·.calls ctx) = (ws.filterMap view).count (.completed ctx) := by
  rw [List.count, List.countP_filterMap]
  refine List.countP_congr fun w _ => ?_
  cases w <;> simp [Output.calls, view]

/-- Whatever the order of requests, messages, timeouts and cancellations, the callback of a request
is invoked at most once, and not after the request was cancelled or its timeout callback has run. -/
theorem completes_at_most_once (host : ByteOrder) (events : List Event) (ctx : ℕ) :
    (trace (step host) (some .init) events).countP (·.calls ctx) ≤ 1 ∧
      ∀ ws w ws', trace (step host) (some .init) events = ws ++ w :: ws' →
        .requested ctx ∈ ws → w.ends ctx → ∀ w' ∈ ws', ¬ w'.calls ctx := by
  obtain ⟨a, p⟩ := exists_path_of_run host events
  obtain ⟨honce, hkept⟩ := OneShot.completed_once p ctx
  refine ⟨?_, fun ws w ws' htrace hreq hends w' hw' hcalls => hkept ?_⟩
  · rw [countP_calls_eq_count]
    by_contra hcount
    exact honce (List.replicate_sublist_iff.mpr (by omega : 2 ≤ _))
  · have hsub : List.Sublist [.requested ctx, w, w'] (trace (step host) (some .init) events) := by
      rw [htrace]
      exact (List.singleton_sublist.mpr hreq).append ((List.singleton_sublist.mpr hw').cons_cons w)
    have hview := hsub.filterMap view
    simp only [List.filterMap_cons, view_of_ends hends, view_of_calls hcalls] at hview
    exact hview

/-- Two requests, and a response to the first one that comes twice. Its callback cancels the second
request, whose response then comes as well. -/
def sampleRun : List Event :=
  [.act (.send ⟨true, true, 7, 70, true, true, 3, true⟩ true),
    .act (.send ⟨true, true, 8, 80, true, true, 4, true⟩ true),
    .readable 7 3 [⟨7, 70, true, ⟨.ack, 69, [0, 0, 0, 0], []⟩, false, [.cancel 8]⟩,
      ⟨7, 70, true, ⟨.ack, 69, [0, 0, 0, 0], []⟩, false, []⟩],
    .readable 8 4 [⟨8, 80, true, ⟨.ack, 69, [1, 0, 0, 0], []⟩, false, []⟩]]

theorem completes_at_most_once_sampleRun :
    (trace (step .little) (some .init) sampleRun).countP (·.calls 7) ≤ 1 ∧
      ∀ w ∈ [Output.delFdEntry 3, .delFdEntry 4], ¬ w.calls 8 :=
  ⟨(completes_at_most_once .little sampleRun 7).1,
    (completes_at_most_once .little sampleRun 8).2
      [.requested 7, .addFdEntry 3, .requested 8, .addFdEntry 4, .called 7 .ok none] (.cancelled 8)
      _ (by decide) (by decide) (by decide)⟩

end Atlas.Gateway.CoapClient
