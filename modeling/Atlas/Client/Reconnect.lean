import Atlas.Firewall.PolicyPath
import Atlas.Lib.Lists

/-! # Reconnecting to the client

A write of the library to the client's socket is repeated until it succeeds. Before each repetition
the library opens a new connection and sends its policy, with the same function: `socket_connect`,
`send_registration_command` and `write_to_socket_retry` call each other. The results of the system
calls are given as a list, in the order of the calls. A write delivers a whole message on the
current connection or does nothing. A call returns when the list is long enough; the fuel of the
model is never what stops it (`writeToSocketRetry_fuel`).

Reference: `data_plane/atlas_client.c`.
-/

namespace Atlas.Client

open ByteOrder

/-- `client_info_t`. -/
structure ClientInfo where
  qos : UInt16
  packetsPerMin : UInt16
  packetsMaxlen : UInt16
deriving DecidableEq

/-- A message that was delivered, its connection, and how many calls of `write_to_socket_retry` were
under way around the one that wrote it. -/
structure Delivery where
  connection : ℕ
  message : List UInt8
  depth : ℕ
deriving DecidableEq

/-- The descriptor, which is −1 or belongs to a connection, how many connections there were, and
what was delivered on them. -/
structure Session where
  fd : Option ℕ
  connections : ℕ
  sent : List Delivery
deriving DecidableEq

namespace Session

/-- The library at its start. -/
def init : Session := ⟨none, 0, []⟩

/-- `write_to_socket`. A descriptor of −1 is refused without a look at the results. -/
def writeToSocket (depth : ℕ) (cmdBuf : List UInt8) (s : Session) (results : List Bool) :
    Option (Bool × Session × List Bool) :=
  match s.fd, results with
  | none, _ => some (false, s, results)
  | some _, [] => none
  | some _, false :: results => some (false, s, results)
  | some c, true :: results =>
    some (true, { s with sent := s.sent ++ [⟨c, cmdBuf, depth⟩] }, results)

/-- The loop of `socket_connect`: the results behind the first success of `connect`. -/
def connectLoop : List Bool → Option (List Bool)
  | [] => none
  | true :: results => some results
  | false :: results => connectLoop results

/-- A new connection, on which nothing was sent. -/
def connected (s : Session) : Session :=
  { s with fd := some s.connections, connections := s.connections + 1 }

variable (host : ByteOrder) (client : ClientInfo)

mutual

/-- `socket_connect`, called by a write at this depth. The first result is that of `socket`. -/
def socketConnect (depth : ℕ) : ℕ → Session → List Bool → Option (Session × List Bool)
  | 0, _, _ => none
  | _ + 1, _, [] => none
  | _ + 1, s, false :: results => some ({ s with fd := none }, results)
  | fuel + 1, s, true :: results =>
    (connectLoop results).bind fun results =>
    (sendRegistrationCommand host client.qos client.packetsPerMin client.packetsMaxlen).bind
      fun cmdBuf =>
    writeToSocketRetry (depth + 1) cmdBuf fuel s.connected results

/-- `write_to_socket_retry`. -/
def writeToSocketRetry (depth : ℕ) (cmdBuf : List UInt8) :
    ℕ → Session → List Bool → Option (Session × List Bool)
  | 0, _, _ => none
  | fuel + 1, s, results =>
    (writeToSocket depth cmdBuf s results).bind fun
      | (true, s, results) => some (s, results)
      | (false, s, results) =>
        (socketConnect depth fuel s results).bind fun (s, results) =>
        writeToSocketRetry depth cmdBuf fuel s results

end

/-- The calls of the library that use the socket: `atlas_init` connects, the identity and the
statistics are written with repetition, feedback and reputation requests without. -/
inductive Call where
  | connect
  | writeRetry (cmdBuf : List UInt8)
  | write (cmdBuf : List UInt8)

/-- A call and the results of its system calls. -/
def call (s : Session) : Call × List Bool → Option Session
  | (.connect, results) =>
    (socketConnect host client 0 (2 * results.length + 2) s results).map (·.1)
  | (.writeRetry cmdBuf, results) =>
    (writeToSocketRetry host client 0 cmdBuf (2 * results.length + 2) s results).map (·.1)
  | (.write cmdBuf, results) => (writeToSocket 0 cmdBuf s results).map (·.2.1)

/-! ## The results that are used -/

/-- A write fails and leaves the session as it is, or it delivers on the current connection. -/
theorem writeToSocket_cases {depth : ℕ} {cmdBuf : List UInt8} {s s' : Session}
    {results results' : List Bool} {written : Bool}
    (h : writeToSocket depth cmdBuf s results = some (written, s', results')) :
    (written = false ∧ s' = s ∧ results'.length ≤ results.length) ∨
      ∃ c, written = true ∧ s.fd = some c ∧ results = true :: results' ∧
        s' = { s with sent := s.sent ++ [⟨c, cmdBuf, depth⟩] } := by
  obtain ⟨fd, connections, sent⟩ := s
  cases fd with
  | none =>
    cases h
    exact Or.inl ⟨rfl, rfl, Nat.le_refl _⟩
  | some c =>
    rcases results with _ | ⟨_ | _, results⟩
    · cases h
    · cases h
      exact Or.inl ⟨rfl, rfl, Nat.le_succ _⟩
    · cases h
      exact Or.inr ⟨c, rfl, rfl, rfl, rfl⟩

theorem length_connectLoop_le {results results' : List Bool}
    (h : connectLoop results = some results') : results'.length ≤ results.length := by
  induction results with
  | nil => cases h
  | cons result results ih =>
    cases result with
    | true =>
      cases h
      exact Nat.le_succ _
    | false => exact Nat.le_succ_of_le (ih h)

/-- How a connection that is opened ends: without a socket, or with the registration on a new
one. -/
theorem socketConnect_cases {depth fuel : ℕ} {s s' : Session} {results results' : List Bool}
    (h : socketConnect host client depth (fuel + 1) s results = some (s', results')) :
    results = false :: results' ∧ s' = { s with fd := none } ∨
    ∃ cmdBuf opened, sendRegistrationCommand host client.qos client.packetsPerMin
        client.packetsMaxlen = some cmdBuf ∧ opened.length < results.length ∧
      writeToSocketRetry host client (depth + 1) cmdBuf fuel s.connected opened =
        some (s', results') := by
  cases results with
  | nil => cases h
  | cons result results =>
    cases result with
    | false =>
      cases h
      exact Or.inl ⟨rfl, rfl⟩
    | true =>
      obtain ⟨opened, hopened, hrest⟩ := Option.bind_eq_some_iff.mp h
      obtain ⟨cmdBuf, hcmd, hwrite⟩ := Option.bind_eq_some_iff.mp hrest
      exact Or.inr ⟨cmdBuf, opened, hcmd, Nat.lt_succ_of_le (length_connectLoop_le hopened),
        hwrite⟩

/-- A write with repetition delivers at once, or it goes on after a new connection. -/
theorem writeToSocketRetry_cases {depth fuel : ℕ} {cmdBuf : List UInt8} {s s' : Session}
    {results results' : List Bool}
    (h : writeToSocketRetry host client depth cmdBuf (fuel + 1) s results = some (s', results')) :
    (∃ c, s.fd = some c ∧ results = true :: results' ∧
      s' = { s with sent := s.sent ++ [⟨c, cmdBuf, depth⟩] }) ∨
    ∃ before opened between, before.length ≤ results.length ∧
      socketConnect host client depth fuel s before = some (opened, between) ∧
      writeToSocketRetry host client depth cmdBuf fuel opened between = some (s', results') := by
  rw [writeToSocketRetry, Option.bind_eq_some_iff] at h
  obtain ⟨⟨written, s₁, before⟩, hwrite, hrest⟩ := h
  rcases writeToSocket_cases hwrite with ⟨rfl, rfl, hle⟩ | ⟨c, rfl, hfd, hresults, rfl⟩
  · obtain ⟨⟨opened, between⟩, hconnect, hagain⟩ := Option.bind_eq_some_iff.mp hrest
    exact Or.inr ⟨before, opened, between, hle, hconnect, hagain⟩
  · cases hrest
    exact Or.inl ⟨c, hfd, hresults, rfl⟩

/-- Every call uses at least one result. -/
theorem length_results_lt (fuel : ℕ) :
    (∀ depth s results s' results', socketConnect host client depth fuel s results =
      some (s', results') → results'.length < results.length) ∧
    ∀ depth cmdBuf s results s' results',
      writeToSocketRetry host client depth cmdBuf fuel s results =
      some (s', results') → results'.length < results.length := by
  induction fuel with
  | zero => exact ⟨nofun, nofun⟩
  | succ fuel ih =>
    constructor
    · intro depth s results s' results' h
      rcases socketConnect_cases host client h with ⟨rfl, -⟩ | ⟨cmdBuf, opened, -, hlt, hwrite⟩
      · exact Nat.lt_succ_self _
      · exact Nat.lt_trans (ih.2 _ _ _ _ _ _ hwrite) hlt
    · intro depth cmdBuf s results s' results' h
      rcases writeToSocketRetry_cases host client h with
        ⟨c, -, rfl, -⟩ | ⟨before, opened, between, hle, hconnect, hagain⟩
      · exact Nat.lt_succ_self _
      · have hbetween := ih.1 _ _ _ _ _ hconnect
        have hafter := ih.2 _ _ _ _ _ _ hagain
        omega

/-- With enough fuel for the results, more of it changes nothing. -/
theorem fuel_succ (fuel : ℕ) :
    (∀ depth s results, 2 * results.length + 1 ≤ fuel →
      socketConnect host client depth (fuel + 1) s results =
        socketConnect host client depth fuel s results) ∧
    ∀ depth cmdBuf s results, 2 * results.length + 2 ≤ fuel →
      writeToSocketRetry host client depth cmdBuf (fuel + 1) s results =
        writeToSocketRetry host client depth cmdBuf fuel s results := by
  induction fuel with
  | zero => exact ⟨fun _ _ _ h => absurd h (by omega), fun _ _ _ _ h => absurd h (by omega)⟩
  | succ fuel ih =>
    constructor
    · intro depth s results h
      rcases results with _ | ⟨_ | _, results⟩
      · rfl
      · rfl
      · rw [socketConnect, socketConnect]
        refine Option.bind_congr fun opened hopened => Option.bind_congr fun cmdBuf _ => ?_
        have hle := length_connectLoop_le hopened
        rw [List.length_cons] at h
        exact ih.2 _ _ _ _ (by omega)
    · intro depth cmdBuf s results h
      rw [writeToSocketRetry, writeToSocketRetry]
      refine Option.bind_congr fun p hp => ?_
      obtain ⟨written, s₁, before⟩ := p
      rcases writeToSocket_cases hp with ⟨rfl, rfl, hle⟩ | ⟨c, rfl, -, -, -⟩
      · -- the repetition has fewer results than the write that failed
        simp only [ih.1 depth s₁ before (by omega)]
        refine Option.bind_congr fun p hp => ?_
        have hlt := (length_results_lt host client fuel).1 _ _ _ _ _ hp
        exact ih.2 _ _ _ _ (by omega)
      · rfl

/-- The calls of the library have all the fuel they can use. -/
theorem writeToSocketRetry_fuel (depth : ℕ) (cmdBuf : List UInt8) (s : Session)
    {results : List Bool} {fuel : ℕ} (h : 2 * results.length + 2 ≤ fuel) :
    writeToSocketRetry host client depth cmdBuf fuel s results =
      writeToSocketRetry host client depth cmdBuf (2 * results.length + 2) s results := by
  induction fuel, h using Nat.le_induction with
  | base => rfl
  | succ fuel hle ih => rw [(fuel_succ host client fuel).2 depth cmdBuf s results hle, ih]

/-! ## The order of the messages -/

/-- The message of `send_registration_command`. -/
def IsRegistration (message : List UInt8) : Prop :=
  sendRegistrationCommand host client.qos client.packetsPerMin client.packetsMaxlen = some message

/-- The first message on a connection. -/
def firstOn (s : Session) (c : ℕ) : Option Delivery := s.sent.find? (·.connection = c)

/-- Every connection that carried a message carried the registration first. -/
structure Announced (s : Session) : Prop where
  first : ∀ c d, s.firstOn c = some d → IsRegistration host client d.message
  sent_lt : ∀ d ∈ s.sent, d.connection < s.connections
  fd_lt : ∀ c, s.fd = some c → c < s.connections

/-- The current connection, if there is one, carried a message. -/
def Ready (s : Session) : Prop := ∀ c, s.fd = some c → (s.firstOn c).isSome

/-- Between `s` and `s'` only registrations were sent, by calls below this depth. -/
def Registers (depth : ℕ) (s s' : Session) (registrations : List Delivery) : Prop :=
  s'.sent = s.sent ++ registrations ∧
    ∀ d ∈ registrations, IsRegistration host client d.message ∧ depth < d.depth

theorem firstOn_append (s : Session) (c : ℕ) (d : Delivery) :
    firstOn { s with sent := s.sent ++ [d] } c =
      (s.firstOn c).or (if d.connection = c then some d else none) := by
  simp only [firstOn, List.find?_append, List.find?_singleton, decide_eq_true_eq]

/-- A message on the current connection, which is the registration if it is the first one there. -/
theorem Announced.deliver {s : Session} (h : Announced host client s) {c : ℕ} (hfd : s.fd = some c)
    {cmdBuf : List UInt8} (hfirst : Ready s ∨ IsRegistration host client cmdBuf) (depth : ℕ) :
    Announced host client { s with sent := s.sent ++ [⟨c, cmdBuf, depth⟩] } ∧
      Ready { s with sent := s.sent ++ [⟨c, cmdBuf, depth⟩] } := by
  refine ⟨⟨?_, ?_, h.fd_lt⟩, ?_⟩
  · intro c' d hd
    rw [firstOn_append] at hd
    rcases Option.or_eq_some_iff.mp hd with hold | ⟨hnone, hnew⟩
    · exact h.first c' d hold
    · obtain ⟨rfl, rfl⟩ : c = c' ∧ ⟨c, cmdBuf, depth⟩ = d := by simpa using hnew
      -- the new message is the first one on its connection, so it is the registration
      rcases hfirst with hready | hreg
      · exact absurd (hready c hfd) (by rw [hnone]; decide)
      · exact hreg
  · intro d hd
    rcases List.mem_append.mp hd with hold | hnew
    · exact h.sent_lt d hold
    · rw [List.mem_singleton.mp hnew]
      exact h.fd_lt c hfd
  · intro c' hc'
    obtain rfl : c = c' := Option.some_inj.mp (hfd.symm.trans hc')
    rw [firstOn_append, if_pos rfl, Option.isSome_or]
    exact Bool.or_true _

theorem Announced.connected {s : Session} (h : Announced host client s) :
    Announced host client s.connected := by
  refine ⟨h.first, fun d hd => Nat.lt_succ_of_lt (h.sent_lt d hd), ?_⟩
  rintro c ⟨⟩
  exact Nat.lt_succ_self _

theorem Announced.closed {s : Session} (h : Announced host client s) :
    Announced host client { s with fd := none } ∧ Ready { s with fd := none } :=
  ⟨⟨h.first, h.sent_lt, nofun⟩, nofun⟩

theorem Registers.trans {depth : ℕ} {s s' s'' : Session}
    {registrations registrations' : List Delivery}
    (h : Registers host client depth s s' registrations)
    (h' : Registers host client depth s' s'' registrations') :
    Registers host client depth s s'' (registrations ++ registrations') := by
  refine ⟨by rw [h'.1, h.1, List.append_assoc], fun d hd => ?_⟩
  rcases List.mem_append.mp hd with hd | hd
  · exact h.2 d hd
  · exact h'.2 d hd

/-- What a new connection leaves behind. -/
structure Connects (depth : ℕ) (s s' : Session) : Prop where
  announced : Announced host client s'
  ready : Ready s'
  registers : ∃ registrations, Registers host client depth s s' registrations

/-- What a write with repetition leaves behind: after registrations of new connections, its message
is the last one, on the current connection. -/
structure Delivers (depth : ℕ) (cmdBuf : List UInt8) (s s' : Session) : Prop where
  announced : Announced host client s'
  ready : Ready s'
  delivers : ∃ registrations before c, Registers host client depth s before registrations ∧
    s'.sent = before.sent ++ [⟨c, cmdBuf, depth⟩] ∧ s'.fd = some c

/-- A registration on a new connection is one of the registrations of the call around it. -/
theorem Delivers.connects {depth : ℕ} {cmdBuf : List UInt8} {s s' : Session}
    (h : Delivers host client (depth + 1) cmdBuf s.connected s')
    (hreg : IsRegistration host client cmdBuf) : Connects host client depth s s' := by
  obtain ⟨registrations, before, c, ⟨hbefore, hregs⟩, hsent, -⟩ := h.delivers
  refine ⟨h.announced, h.ready, registrations ++ [⟨c, cmdBuf, depth + 1⟩], ?_, fun d hd => ?_⟩
  · rw [hsent, hbefore, List.append_assoc]
    rfl
  · rcases List.mem_append.mp hd with hd | hd
    · exact ⟨(hregs d hd).1, Nat.lt_of_succ_lt (hregs d hd).2⟩
    · rw [List.mem_singleton.mp hd]
      exact ⟨hreg, Nat.lt_succ_self depth⟩

/-- A write after a new connection. -/
theorem Connects.delivers {depth : ℕ} {cmdBuf : List UInt8} {s opened s' : Session}
    (h : Connects host client depth s opened) (h' : Delivers host client depth cmdBuf opened s') :
    Delivers host client depth cmdBuf s s' := by
  obtain ⟨registrations, hregs⟩ := h.registers
  obtain ⟨registrations', before, c, hregs', hsent⟩ := h'.delivers
  exact ⟨h'.announced, h'.ready, _, before, c, hregs.trans host client hregs', hsent⟩

/-- The two functions that call each other, by induction on the fuel. -/
theorem connects_and_delivers (fuel : ℕ) :
    (∀ depth s results s' results', Announced host client s →
      socketConnect host client depth fuel s results = some (s', results') →
        Connects host client depth s s') ∧
    ∀ depth cmdBuf s results s' results', Announced host client s →
      (Ready s ∨ IsRegistration host client cmdBuf) →
      writeToSocketRetry host client depth cmdBuf fuel s results = some (s', results') →
        Delivers host client depth cmdBuf s s' := by
  induction fuel with
  | zero => exact ⟨nofun, nofun⟩
  | succ fuel ih =>
    constructor
    · intro depth s results s' results' hs h
      rcases socketConnect_cases host client h with
        ⟨-, rfl⟩ | ⟨cmdBuf, opened, hreg, -, hwrite⟩
      · exact ⟨hs.closed.1, hs.closed.2, [], (List.append_nil _).symm, nofun⟩
      · -- nothing was sent on the new connection, but its first message is the registration
        exact (ih.2 _ _ _ _ _ _ hs.connected (Or.inr hreg) hwrite).connects host client hreg
    · intro depth cmdBuf s results s' results' hs hfirst h
      rcases writeToSocketRetry_cases host client h with
        ⟨c, hfd, -, rfl⟩ | ⟨before, opened, between, -, hconnect, hagain⟩
      · have hdeliver := hs.deliver host client hfd hfirst depth
        exact ⟨hdeliver.1, hdeliver.2, [], s, c, ⟨(List.append_nil _).symm, nofun⟩, rfl, hfd⟩
      · have hopened := ih.1 _ _ _ _ _ hs hconnect
        exact hopened.delivers host client
          (ih.2 _ _ _ _ _ _ hopened.announced (Or.inl hopened.ready) hagain)

/-! ## Sessions of the library -/

/-- Every call keeps the registration in front on every connection. -/
theorem announced_call {s s' : Session} {c : Call × List Bool}
    (hs : Announced host client s ∧ Ready s) (h : s.call host client c = some s') :
    Announced host client s' ∧ Ready s' := by
  obtain ⟨c, results⟩ := c
  cases c with
  | connect =>
    obtain ⟨p, hp, rfl⟩ := Option.map_eq_some_iff.mp h
    have hconnects := (connects_and_delivers host client _).1 _ _ _ _ _ hs.1 hp
    exact ⟨hconnects.announced, hconnects.ready⟩
  | writeRetry cmdBuf =>
    obtain ⟨p, hp, rfl⟩ := Option.map_eq_some_iff.mp h
    have hdelivers := (connects_and_delivers host client _).2 _ _ _ _ _ _ hs.1 (Or.inl hs.2) hp
    exact ⟨hdelivers.announced, hdelivers.ready⟩
  | write cmdBuf =>
    obtain ⟨⟨written, s', results'⟩, hp, rfl⟩ := Option.map_eq_some_iff.mp h
    rcases writeToSocket_cases hp with ⟨-, rfl, -⟩ | ⟨c, -, hfd, -, rfl⟩
    · exact hs
    · exact hs.1.deliver host client hfd (Or.inl hs.2) 0

theorem announced_run {calls : List (Call × List Bool)} {s : Session}
    (h : calls.foldlM (call host client) init = some s) : Announced host client s ∧ Ready s := by
  refine List.foldlM_option_preserves (I := fun s => Announced host client s ∧ Ready s)
    (fun _ _ _ hs h => announced_call host client hs h) h ?_
  exact ⟨⟨nofun, nofun, nofun⟩, nofun⟩

/-- A write with repetition that returns, after any calls of the library. On every connection that
carried a message the registration was the first one. The call itself delivered its message once, as
the last one on the current connection; all it delivered before are registrations of the calls
inside. -/
theorem writeRetry_registers_first {calls : List (Call × List Bool)} {s s' : Session}
    (hrun : calls.foldlM (call host client) init = some s) (cmdBuf : List UInt8)
    (results : List Bool) (hreturn : s.call host client (.writeRetry cmdBuf, results) = some s') :
    (∀ c d, s'.firstOn c = some d → IsRegistration host client d.message) ∧
    ∃ registrations c, s'.sent = s.sent ++ registrations ++ [⟨c, cmdBuf, 0⟩] ∧ s'.fd = some c ∧
      ∀ d ∈ registrations, IsRegistration host client d.message ∧ 0 < d.depth := by
  have hs := announced_run host client hrun
  obtain ⟨p, hp, rfl⟩ := Option.map_eq_some_iff.mp hreturn
  have hdelivers := (connects_and_delivers host client _).2 _ _ _ _ _ _ hs.1 (Or.inl hs.2) hp
  obtain ⟨registrations, before, c, ⟨hbefore, hregs⟩, hsent, hfd⟩ := hdelivers.delivers
  exact ⟨hdelivers.announced.first, registrations, c, by rw [hsent, hbefore], hfd, hregs⟩

/-- The first write fails, so does the registration on the second connection, and the third one
carries two registrations before the message. -/
theorem writeRetry_registers_first_after_failures :
    ∃ s s', [(Call.connect, [true, false, true, true])].foldlM (call .little ⟨1, 60, 100⟩) init =
        some s ∧
      s.call .little ⟨1, 60, 100⟩ (.writeRetry [7],
        [false, true, true, false, true, true, true, true, true]) = some s' ∧
      (∀ c d, s'.firstOn c = some d → IsRegistration .little ⟨1, 60, 100⟩ d.message) ∧
      ∃ registrations c, s'.sent = s.sent ++ registrations ++ [⟨c, [7], 0⟩] ∧ s'.fd = some c ∧
        ∀ d ∈ registrations, IsRegistration .little ⟨1, 60, 100⟩ d.message ∧ 0 < d.depth := by
  have hreturns : (([(Call.connect, [true, false, true, true])].foldlM (call .little ⟨1, 60, 100⟩)
      init).bind fun s => s.call .little ⟨1, 60, 100⟩ (.writeRetry [7],
        [false, true, true, false, true, true, true, true, true])).isSome := by decide +kernel
  obtain ⟨s', hs'⟩ := Option.isSome_iff_exists.mp hreturns
  obtain ⟨s, hs, hcall⟩ := Option.bind_eq_some_iff.mp hs'
  exact ⟨s, s', hs, hcall, writeRetry_registers_first .little ⟨1, 60, 100⟩ hs [7] _ hcall⟩

end Session

end Atlas.Client
