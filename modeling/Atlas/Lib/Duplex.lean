import Atlas.Lib.EventMachine

/-! # A server and a client over one connection

The client opens a connection, which replaces the one before, and sends an opening. The server takes
part once it has accepted; what it writes before goes nowhere. Messages travel in order and whole in
both directions, and those of a replaced connection are lost.

A protocol may exchange bytes or typed messages. If the bytes are encodings of typed messages the
other side understands, the two protocols run alike (`Encodes.run`), so properties of the bytes can
be proved of the messages.
-/

namespace Duplex

open EventMachine

variable {σ κ δ υ ι η χ μ ω : Type*}

/-- A connection and the messages under way on it: `down` to the client, `up` to the server. -/
structure Connection (δ υ : Type*) where
  accepted : Bool
  down : List δ
  up : List υ

/-- The two sides and their connection, once there is one. -/
structure State (σ κ δ υ : Type*) where
  server : σ
  client : κ
  connection : Option (Connection δ υ)

/-- Events at one side, the opening of a connection, and the reading of the next message. -/
inductive Event (ι η χ μ : Type*) where
  | server (e : ι)
  | client (e : η)
  | connect
  | accept
  | readDown (x : χ)
  | readUp (x : μ)

/-- The reactions of the two sides. Reading a message may depend on an input from outside. -/
structure Protocol (σ κ δ υ ι η χ μ ω : Type*) where
  server : σ → ι → σ × List δ
  client : κ → η → κ × List ω
  connect : κ → κ × List υ
  readDown : χ → κ → δ → κ × List υ
  readUp : μ → σ → υ → σ × List δ

/-- The server writes to the connection it has accepted. -/
def Connection.send (c : Connection δ υ) (ds : List δ) : Connection δ υ :=
  if c.accepted then { c with down := c.down ++ ds } else c

/-- One event. -/
def Protocol.step (p : Protocol σ κ δ υ ι η χ μ ω) (s : State σ κ δ υ) :
    Event ι η χ μ → State σ κ δ υ × List ω
  | .server e =>
    let (server, ds) := p.server s.server e
    ({ s with server, connection := s.connection.map (·.send ds) }, [])
  | .client e =>
    let (client, ws) := p.client s.client e
    ({ s with client }, ws)
  | .connect =>
    let (client, us) := p.connect s.client
    ({ s with client, connection := some ⟨false, [], us⟩ }, [])
  | .accept => ({ s with connection := s.connection.map ({ · with accepted := true }) }, [])
  | .readDown x =>
    match s.connection with
    | some ⟨accepted, d :: ds, us⟩ =>
      let (client, us') := p.readDown x s.client d
      ({ s with client, connection := some ⟨accepted, ds, us ++ us'⟩ }, [])
    | _ => (s, [])
  | .readUp x =>
    match s.connection with
    | some ⟨true, ds, u :: us⟩ =>
      let (server, ds') := p.readUp x s.server u
      ({ s with server, connection := some ⟨true, ds ++ ds', us⟩ }, [])
    | _ => (s, [])

variable (p : Protocol σ κ δ υ ι η χ μ ω) (s : State σ κ δ υ)

/-- The client reads the first message under way to it, if there is one. -/
theorem Protocol.step_readDown_cases (x : χ) :
    p.step s (.readDown x) = (s, []) ∨
      ∃ accepted d ds us, s.connection = some ⟨accepted, d :: ds, us⟩ ∧
        p.step s (.readDown x) = (⟨s.server, (p.readDown x s.client d).1,
          some ⟨accepted, ds, us ++ (p.readDown x s.client d).2⟩⟩, []) := by
  obtain ⟨server, client, connection⟩ := s
  rcases connection with _ | ⟨accepted, _ | ⟨d, ds⟩, us⟩
  · exact .inl rfl
  · exact .inl rfl
  · exact .inr ⟨accepted, d, ds, us, rfl, rfl⟩

/-- A server that has accepted reads the first message under way to it, if there is one. -/
theorem Protocol.step_readUp_cases (x : μ) :
    p.step s (.readUp x) = (s, []) ∨
      ∃ ds u us, s.connection = some ⟨true, ds, u :: us⟩ ∧
        p.step s (.readUp x) = (⟨(p.readUp x s.server u).1, s.client,
          some ⟨true, ds ++ (p.readUp x s.server u).2, us⟩⟩, []) := by
  obtain ⟨server, client, connection⟩ := s
  rcases connection with _ | ⟨_ | _, ds, _ | ⟨u, us⟩⟩
  · exact .inl rfl
  · exact .inl rfl
  · exact .inl rfl
  · exact .inl rfl
  · exact .inr ⟨ds, u, us, rfl, rfl⟩

/-! ## Encoded messages -/

variable {δ' υ' : Type*}

/-- The connection with its messages encoded. -/
def Connection.encode (f : δ → δ') (g : υ → υ') (c : Connection δ υ) : Connection δ' υ' :=
  ⟨c.accepted, c.down.map f, c.up.map g⟩

/-- The state with its messages encoded. -/
def State.encode (f : δ → δ') (g : υ → υ') (s : State σ κ δ υ) : State σ κ δ' υ' :=
  ⟨s.server, s.client, s.connection.map (.encode f g)⟩

/-- All messages under way are valid. -/
def State.Valid (D : δ → Prop) (U : υ → Prop) (s : State σ κ δ υ) : Prop :=
  ∀ c ∈ s.connection, (∀ d ∈ c.down, D d) ∧ ∀ u ∈ c.up, U u

/-- `q` exchanges the encodings of the messages of `p`. The server keeps `I`, both sides send valid
messages only, and each side reads an encoded valid message like the message itself. -/
structure Encodes (p : Protocol σ κ δ υ ι η χ μ ω) (q : Protocol σ κ δ' υ' ι η χ μ ω) (f : δ → δ')
    (g : υ → υ') (I : σ → Prop) (D : δ → Prop) (U : υ → Prop) : Prop where
  server : ∀ s e, I s → I (p.server s e).1 ∧ (∀ d ∈ (p.server s e).2, D d) ∧
    q.server s e = ((p.server s e).1, (p.server s e).2.map f)
  client : q.client = p.client
  connect :
    ∀ k, (∀ u ∈ (p.connect k).2, U u) ∧ q.connect k = ((p.connect k).1, (p.connect k).2.map g)
  readDown : ∀ x k d, D d → (∀ u ∈ (p.readDown x k d).2, U u) ∧
    q.readDown x k (f d) = ((p.readDown x k d).1, (p.readDown x k d).2.map g)
  readUp : ∀ x s u, I s → U u → I (p.readUp x s u).1 ∧ (∀ d ∈ (p.readUp x s u).2, D d) ∧
    q.readUp x s (g u) = ((p.readUp x s u).1, (p.readUp x s u).2.map f)

namespace Encodes

variable {p} {s} {q : Protocol σ κ δ' υ' ι η χ μ ω} {f : δ → δ'} {g : υ → υ'}
variable {I : σ → Prop} {D : δ → Prop} {U : υ → Prop}

theorem encode_send (c : Connection δ υ) (ds : List δ) :
    (c.send ds).encode f g = (c.encode f g).send (ds.map f) := by
  cases h : c.accepted <;> simp [Connection.send, Connection.encode, h]

/-- One event takes encoded states to encoded states, and keeps the messages valid. -/
theorem step (h : Encodes p q f g I D U) (hI : I s.server) (hV : s.Valid D U) (e : Event ι η χ μ) :
    q.step (s.encode f g) e = ((p.step s e).1.encode f g, (p.step s e).2) ∧
      I (p.step s e).1.server ∧ (p.step s e).1.Valid D U := by
  obtain ⟨server, client, connection⟩ := s
  cases e with
  | server e =>
    obtain ⟨hkeep, hvalid, henc⟩ := h.server server e hI
    refine ⟨?_, hkeep, ?_⟩
    · cases connection <;> simp [Protocol.step, State.encode, henc, encode_send]
    · intro c' hc'
      obtain ⟨c, hc, rfl⟩ := Option.map_eq_some_iff.mp hc'
      obtain ⟨hdown, hup⟩ := hV c hc
      cases hacc : c.accepted <;> simp only [Connection.send, hacc]
      case false => exact ⟨hdown, hup⟩
      case true =>
        exact ⟨fun d hd => (List.mem_append.mp hd).elim (hdown d) (hvalid d), hup⟩
  | client e => exact ⟨by simp [Protocol.step, State.encode, h.client], hI, hV⟩
  | connect =>
    obtain ⟨hvalid, henc⟩ := h.connect client
    refine ⟨by simp [Protocol.step, State.encode, Connection.encode, henc], hI, ?_⟩
    rintro c ⟨⟩
    exact ⟨by simp, hvalid⟩
  | accept =>
    refine ⟨by cases connection <;> simp [Protocol.step, State.encode, Connection.encode], hI, ?_⟩
    intro c' hc'
    obtain ⟨c, hc, rfl⟩ := Option.map_eq_some_iff.mp hc'
    exact hV c hc
  | readDown x =>
    rcases connection with _ | ⟨accepted, _ | ⟨d, ds⟩, us⟩
    · exact ⟨rfl, hI, hV⟩
    · exact ⟨rfl, hI, hV⟩
    · obtain ⟨hdown, hup⟩ := hV _ rfl
      obtain ⟨hvalid, henc⟩ := h.readDown x client d (hdown d List.mem_cons_self)
      refine ⟨by simp [Protocol.step, State.encode, Connection.encode, henc], hI, ?_⟩
      rintro c ⟨⟩
      exact ⟨fun d hd => hdown d (List.mem_cons_of_mem _ hd),
        fun u hu => (List.mem_append.mp hu).elim (hup u) (hvalid u)⟩
  | readUp x =>
    rcases connection with _ | ⟨_ | _, ds, _ | ⟨u, us⟩⟩
    · exact ⟨rfl, hI, hV⟩
    · exact ⟨rfl, hI, hV⟩
    · exact ⟨rfl, hI, hV⟩
    · exact ⟨rfl, hI, hV⟩
    · obtain ⟨hdown, hup⟩ := hV _ rfl
      obtain ⟨hkeep, hvalid, henc⟩ := h.readUp x server u hI (hup u List.mem_cons_self)
      refine ⟨by simp [Protocol.step, State.encode, Connection.encode, henc], hkeep, ?_⟩
      rintro c ⟨⟩
      exact ⟨fun d hd => (List.mem_append.mp hd).elim (hdown d) (hvalid d),
        fun u hu => hup u (List.mem_cons_of_mem _ hu)⟩

/-- Along every run the encoded protocol is in the encoded state, and has shown the same outputs. -/
theorem run (h : Encodes p q f g I D U) (hI : I s.server) (hV : s.Valid D U)
    (es : List (Event ι η χ μ)) :
    run q.step (s.encode f g) es = (EventMachine.run p.step s es).encode f g ∧
      trace q.step (s.encode f g) es = trace p.step s es ∧
      I (EventMachine.run p.step s es).server ∧ (EventMachine.run p.step s es).Valid D U := by
  induction es generalizing s with
  | nil => exact ⟨rfl, rfl, hI, hV⟩
  | cons e es ih =>
    obtain ⟨hstep, hI', hV'⟩ := h.step hI hV e
    obtain ⟨hrun, htrace, hlast⟩ := ih hI' hV'
    refine ⟨?_, ?_, hlast⟩
    · rw [run_cons, hstep, hrun, run_cons]
    · rw [trace_cons, hstep, htrace, trace_cons]

/-- A condition on the steps of the encoded protocol is one on the steps of the other. -/
theorem allSteps {P : State σ κ δ υ → Event ι η χ μ → Prop}
    {Q : State σ κ δ' υ' → Event ι η χ μ → Prop} (h : Encodes p q f g I D U)
    (hPQ : ∀ s e, s.Valid D U → Q (s.encode f g) e → P s e) (hI : I s.server) (hV : s.Valid D U)
    {es : List (Event ι η χ μ)} (hQ : AllSteps q.step Q (s.encode f g) es) :
    AllSteps p.step P s es := by
  induction es generalizing s with
  | nil => trivial
  | cons e es ih =>
    obtain ⟨hstep, hI', hV'⟩ := h.step hI hV e
    have hrest := hQ.2
    rw [hstep] at hrest
    exact ⟨hPQ s e hV hQ.1, ih hI' hV' hrest⟩

end Encodes

end Duplex
