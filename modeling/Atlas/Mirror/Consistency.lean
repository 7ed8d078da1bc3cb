import Atlas.Mirror.Effects

/-! # Consistency

The runs of the whole system. What matters of the messages on the way is where the last registration
among them is: the cloud takes all clients offline when it arrives, and the messages behind it tell
the cloud everything again. So a document that is registered, now or as soon as the messages have
arrived, follows the gateway (`Tracks`), whatever was lost before.

Reference: `cloud/AtlasRegisterCloud.cpp`, `AtlasGatewayServiceImpl.java`.
-/

namespace Atlas.Mirror

open Devices EventMachine Json Replica Uplink
open Gateway (StdString bytes)
open Cloud.Presence

variable {setup : Setup} {reader : Reader} {counter : Int32} {g : Session} {s : System}
    {ms : List Message}

/-- The document, once the texts on the way have arrived. -/
def System.arrived (reader : Reader) (s : System) : AtlasGateway :=
  receiveAll reader s.flight s.cloud

/-- The event makes the gateway try to register. -/
def System.registers (setup : Setup) (s : System) : Event → Prop
  | .gateway _ e _ => ∃ g, s.gateway = some g ∧ g.registers setup e = true
  | _ => False

/-! ## The invariant -/

/-- The document follows the gateway behind every registration on the way, and as soon as all
messages have arrived, if it is registered then. -/
structure Tracks (counter : Int32) (g : Session) (subscribed : Bool) (cloud : AtlasGateway)
    (ms : List Message) : Prop where
  behind : ∀ earlier later, ms = earlier ++ .register :: later →
    ∀ cloud : AtlasGateway, Follows g (applyAll counter later (cloud.registerNow counter))
  arrived : subscribed = true → (applyAll counter ms cloud).registered = true →
    Follows g (applyAll counter ms cloud)

/-- The messages on the way are such that the document tracks the gateway. -/
structure Consistent (counter : Int32) (s : System) (ms : List Message) : Prop where
  flight : s.flight = ms.map Message.text
  fits : ∀ m ∈ ms, m.Fits
  sound : ∀ g, s.gateway = some g → Sound g
  tracks : ∀ g, s.gateway = some g → Live g → Tracks counter g s.subscribed s.cloud ms

theorem consistent_init (cloud : AtlasGateway) : Consistent counter (.init none cloud) [] :=
  ⟨rfl, by simp, by simp [System.init], by simp [System.init]⟩

theorem Consistent.arrived_eq (h : Consistent reader.counter s ms) :
    s.arrived reader = applyAll reader.counter ms s.cloud := by
  rw [System.arrived, h.flight]
  exact receiveAll_text reader h.fits s.cloud

/-! ## The counter plays no part -/

/-- A message takes two documents that differ in the counter to two such documents. -/
theorem exists_apply_counter (counter : Int32) (m : Message) (k : Int32) (cloud : AtlasGateway) :
    ∃ k', m.apply counter { cloud with keepaliveCounter := k } =
      { m.apply counter cloud with keepaliveCounter := k' } := by
  cases m with
  | register => exact ⟨counter, rfl⟩
  | keepalive => exact ⟨counter, rfl⟩
  | owner ownerIdentity => exact ⟨k, rfl⟩
  | update identity fields =>
    refine ⟨k, ?_⟩
    simp only [Message.apply, tellClient]
    split <;> rfl

theorem exists_applyAll_counter (counter : Int32) (ms : List Message) (k : Int32)
    (cloud : AtlasGateway) :
    ∃ k', applyAll counter ms { cloud with keepaliveCounter := k } =
      { applyAll counter ms cloud with keepaliveCounter := k' } := by
  induction ms generalizing k cloud with
  | nil => exact ⟨k, rfl⟩
  | cons m ms ih =>
    obtain ⟨k', hk'⟩ := exists_apply_counter counter m k cloud
    rw [applyAll_cons, applyAll_cons, hk']
    exact ih k' (m.apply counter cloud)

/-! ## Registrations on the way -/

section Split

variable {α : Type*} {a : α} {old new earlier later : List α}

/-- An element that is not among the new ones is an old one. -/
theorem split_of_notMem (h : old ++ new = earlier ++ a :: later) (ha : a ∉ new) :
    ∃ middle, later = middle ++ new ∧ old = earlier ++ a :: middle := by
  rcases List.append_eq_append_iff.mp h with ⟨x, rfl, rfl⟩ | ⟨x, rfl, hx⟩
  · exact absurd (List.mem_append_right x List.mem_cons_self) ha
  · cases x with
    | nil =>
      rw [List.nil_append] at hx
      exact absurd (hx ▸ List.mem_cons_self) ha
    | cons b middle =>
      obtain ⟨rfl, rfl⟩ := List.cons.inj hx
      exact ⟨middle, rfl, rfl⟩

/-- An element that is the first of the new ones only is this one, or an old one. -/
theorem split_at (h : old ++ a :: new = earlier ++ a :: later) (ha : a ∉ new) :
    earlier = old ∧ later = new ∨
      ∃ middle, later = middle ++ a :: new ∧ old = earlier ++ a :: middle := by
  rcases List.append_eq_append_iff.mp h with ⟨x, rfl, hx⟩ | ⟨x, rfl, hx⟩
  · cases x with
    | nil => exact .inl ⟨List.append_nil old, (List.cons.inj hx).2.symm⟩
    | cons b x =>
      obtain ⟨-, rfl⟩ := List.cons.inj hx
      exact absurd (List.mem_append_right x List.mem_cons_self) ha
  · cases x with
    | nil => exact .inl ⟨(List.append_nil earlier).symm, (List.cons.inj hx).2⟩
    | cons b middle =>
      obtain ⟨rfl, rfl⟩ := List.cons.inj hx
      exact .inr ⟨middle, rfl, rfl⟩

end Split

/-! ## The steps -/

/-- A registration on the way decides what the document will be. -/
theorem Tracks.of_register {subscribed : Bool} {cloud : AtlasGateway}
    (h : Tracks counter g subscribed cloud ms) (hmem : .register ∈ ms) (cloud' : AtlasGateway) :
    Follows g (applyAll counter ms cloud') := by
  obtain ⟨earlier, later, rfl⟩ := List.append_of_mem hmem
  rw [applyAll_append]
  exact h.behind earlier later rfl (applyAll counter earlier cloud')

/-- The gateway handles an event. A registration among the messages was there before, unless the
gateway registers, or is not live afterwards. -/
theorem Consistent.gateway (h : Consistent counter s ms) {r : Option Session × List CloudOutput}
    {registers : Prop} (hleads : Leads counter registers s.gateway r) (kept : ℕ) :
    ∃ ms', Consistent counter { s with
        gateway := r.1
        flight :=
          (if isUp s.gateway && !isUp r.1 then s.flight.take kept else s.flight) ++ sent r.2 } ms' ∧
      (.register ∈ ms' → .register ∈ ms ∨ registers ∨ ∀ g', r.1 = some g' → ¬ Live g') := by
  obtain ⟨new, hsent, hfits, heffect⟩ := hleads
  cases hdown : isUp s.gateway && !isUp r.1 with
  | true =>
    -- the connection is gone
    have hnot : ∀ g', r.1 = some g' → ¬ Live g' := by
      intro g' hg' hlive
      simp [isUp, hg', hlive.1] at hdown
    refine ⟨ms.take kept ++ new, ⟨?_, ?_, fun g' hg' => (heffect g' hg').sound,
      fun g' hg' hlive => absurd hlive (hnot g' hg')⟩, fun _ => .inr (.inr hnot)⟩
    · rw [if_pos rfl, h.flight, hsent, List.map_append, List.map_take]
    · intro m hm
      rcases List.mem_append.mp hm with hm | hm
      · exact h.fits m (List.mem_of_mem_take hm)
      · exact hfits m hm
  | false =>
    refine ⟨ms ++ new, ⟨?_, ?_, fun g' hg' => (heffect g' hg').sound, fun g' hg' hlive => ?_⟩,
      fun hmem => ?_⟩
    · rw [if_neg Bool.false_ne_true, h.flight, hsent, List.map_append]
    · intro m hm
      rcases List.mem_append.mp hm with hm | hm
      · exact h.fits m hm
      · exact hfits m hm
    · rcases (heffect g' hg').live hlive with ⟨g, hg, hbefore, hregister, hfollows⟩ |
        ⟨-, last, rfl, hregister, hfollows⟩
      · have htracks := h.tracks g hg hbefore
        refine ⟨?_, ?_⟩
        · intro earlier later heq cloud
          obtain ⟨later, rfl, hms⟩ := split_of_notMem heq hregister
          rw [applyAll_append]
          exact hfollows _ (htracks.behind earlier later hms cloud)
        · intro hsub hreg
          rw [applyAll_append] at hreg ⊢
          refine hfollows _ (htracks.arrived hsub ?_)
          exact ((registered_applyAll new _).mp hreg).resolve_right hregister
      · refine ⟨?_, ?_⟩
        · intro earlier later heq cloud
          rcases split_at heq hregister with ⟨rfl, rfl⟩ | ⟨middle, rfl, -⟩
          · exact hfollows cloud
          · rw [applyAll_append]
            exact hfollows _
        · intro _ _
          rw [applyAll_append]
          exact hfollows _
    · rcases List.mem_append.mp hmem with hmem | hmem
      · exact .inl hmem
      · refine .inr (or_iff_not_imp_left.mpr fun hregisters g' hg' hlive => ?_)
        rcases (heffect g' hg').live hlive with ⟨-, -, -, hregister, -⟩ | ⟨hr, -⟩
        · exact hregister hmem
        · exact hregisters hr

/-- A text arrives. -/
theorem Consistent.deliver {m : Message} (h : Consistent counter s (m :: ms)) :
    Consistent counter { s with flight := ms.map Message.text, cloud := m.apply counter s.cloud } ms
      where
  flight := rfl
  fits m' hm' := h.fits m' (List.mem_cons_of_mem m hm')
  sound := h.sound
  tracks g hg hlive :=
    have htracks := h.tracks g hg hlive
    ⟨fun earlier later heq => htracks.behind (m :: earlier) later (by rw [heq]; rfl),
      htracks.arrived⟩

/-- A text is discarded while the cloud is not subscribed. -/
theorem Consistent.discard (h : Consistent counter s ms) (hsub : ¬ s.subscribed = true) :
    Consistent counter { s with flight := s.flight.tail } ms.tail where
  flight := by rw [h.flight, List.map_tail]
  fits m hm := h.fits m (List.mem_of_mem_tail hm)
  sound := h.sound
  tracks g hg hlive := by
    refine ⟨fun earlier later heq => ?_, fun hsubscribed => absurd hsubscribed hsub⟩
    cases ms with
    | nil => exact (h.tracks g hg hlive).behind earlier later heq
    | cons m ms =>
      exact (h.tracks g hg hlive).behind (m :: earlier) later (congrArg (m :: ·) heq)

/-- The keep-alive task registers no gateway. -/
theorem registered_of_keepaliveTask {cloud : AtlasGateway} {shouldSubscribe : Bool}
    (h : (cloud.keepaliveTask shouldSubscribe).registered = true) : cloud.registered = true := by
  rw [AtlasGateway.keepaliveTask] at h
  split at h
  · exact absurd h (by simp [AtlasGateway.initGateway, AtlasGateway.clientsOffline])
  · exact h

/-- The keep-alive task runs. -/
theorem Consistent.keepaliveTask (h : Consistent counter s ms) (shouldSubscribe : Bool)
    {subscribed : Bool} (hsub : s.cloud.inits shouldSubscribe = false → subscribed = s.subscribed) :
    Consistent counter { s with
      cloud := s.cloud.keepaliveTask shouldSubscribe
      subscribed := subscribed } ms where
  flight := h.flight
  fits := h.fits
  sound := h.sound
  tracks g hg hlive := by
    have htracks := h.tracks g hg hlive
    refine ⟨htracks.behind, fun hsubscribed hreg => ?_⟩
    dsimp only at hsubscribed hreg ⊢
    rw [AtlasGateway.keepaliveTask] at hreg ⊢
    cases hinits : s.cloud.inits shouldSubscribe with
    | true =>
      -- only a registration on the way makes the document registered again
      rw [hinits, if_pos rfl] at hreg
      have hmem := ((registered_applyAll ms _).mp hreg).resolve_left (by
        simp [AtlasGateway.initGateway, AtlasGateway.clientsOffline])
      exact htracks.of_register hmem _
    | false =>
      rw [hinits, if_neg Bool.false_ne_true] at hreg
      obtain ⟨k, hk⟩ := exists_applyAll_counter counter ms
        (s.cloud.keepaliveCounter - 1) s.cloud
      rw [hk] at hreg
      rw [if_neg Bool.false_ne_true, hk]
      have hfollows := htracks.arrived (hsub hinits ▸ hsubscribed) hreg
      exact ⟨hfollows.unknown,
        fun hfalse => ⟨(hfollows.mirrors hfalse).devices, (hfollows.mirrors hfalse).owner⟩⟩

/-- Every step keeps the system consistent. The cloud has the gateway as registered, now or as soon
as the messages have arrived, only if that was so before or the gateway registers, as long as it
stays live. -/
theorem consistent_step (e : Event) (hplain : ∀ g, s.gateway = some g → PlainSession g)
    (hplain' : ∀ g, (step setup reader s e).1.gateway = some g → PlainSession g)
    (h : Consistent reader.counter s ms) :
    ∃ ms', Consistent reader.counter (step setup reader s e).1 ms' ∧
      ((applyAll reader.counter ms' (step setup reader s e).1.cloud).registered = true →
        (applyAll reader.counter ms s.cloud).registered = true ∨ s.registers setup e ∨
          ∀ g', (step setup reader s e).1.gateway = some g' → ¬ Live g') := by
  cases e with
  | gateway outside e kept =>
    obtain ⟨ms', h', hregister⟩ :=
      h.gateway (step_leads setup outside s.gateway e h.sound hplain hplain') kept
    refine ⟨ms', h', fun hreg => ?_⟩
    rw [registered_applyAll] at hreg ⊢
    rcases hreg with hreg | hmem
    · exact .inl (.inl hreg)
    · exact (hregister hmem).imp_left .inr
  | deliver =>
    rw [step]
    cases hsub : s.subscribed with
    | false => exact ⟨ms, h, .inl⟩
    | true =>
      cases ms with
      | nil =>
        have hflight : s.flight = [] := h.flight
        rw [hflight]
        exact ⟨[], h, .inl⟩
      | cons m ms =>
        have hflight : s.flight = m.text :: ms.map Message.text := h.flight
        have happly := Message.messageReceived_text reader s.cloud (h.fits m List.mem_cons_self)
        rw [hflight]
        dsimp only
        rw [happly, ← hsub]
        exact ⟨ms, h.deliver, .inl⟩
  | discard =>
    rw [step]
    split
    case isTrue => exact ⟨ms, h, .inl⟩
    case isFalse hsub =>
      refine ⟨ms.tail, h.discard hsub, fun hreg => .inl ?_⟩
      rw [registered_applyAll] at hreg ⊢
      exact hreg.imp_right List.mem_of_mem_tail
  | cloudLost =>
    refine ⟨ms, ⟨h.flight, h.fits, h.sound, fun g hg hlive => ?_⟩, .inl⟩
    exact ⟨(h.tracks g hg hlive).behind, nofun⟩
  | keepaliveTask shouldSubscribe subscribes =>
    have hregistered :
        (applyAll reader.counter ms (s.cloud.keepaliveTask shouldSubscribe)).registered = true →
        (applyAll reader.counter ms s.cloud).registered = true := by
      rw [registered_applyAll, registered_applyAll]
      exact Or.imp_left registered_of_keepaliveTask
    rw [step]
    split
    case isTrue hinits =>
      exact ⟨ms, h.keepaliveTask shouldSubscribe fun hfalse => by simp [hinits] at hfalse,
        fun hreg => .inl (hregistered hreg)⟩
    case isFalse =>
      exact ⟨ms, h.keepaliveTask shouldSubscribe fun _ => rfl, fun hreg => .inl (hregistered hreg)⟩

/-! ## Runs -/

/-- All that the gateway has is plain text. -/
def System.AllPlain (s : System) : Prop := ∀ g, s.gateway = some g → PlainSession g

/-- When the gateway is connected and registered and has no sync scheduled, and the cloud is
subscribed, then the document mirrors the gateway as soon as the texts on the way have arrived, if
the gateway is registered in the cloud then. -/
def System.Mirrored (reader : Reader) (s : System) : Prop :=
  ∀ g, s.gateway = some g → Live g → g.sync.syncScheduled = false → s.subscribed = true →
    (s.arrived reader).registered = true → Mirrors g (s.arrived reader)

theorem Consistent.mirrored (h : Consistent reader.counter s ms) : s.Mirrored reader := by
  intro g hg hlive hsync hsub hreg
  rw [h.arrived_eq] at hreg ⊢
  exact ((h.tracks g hg hlive).arrived hsub hreg).mirrors hsync

/-- The system is consistent all along a run in which the gateway has plain values only. -/
theorem allStates_consistent {cloud : AtlasGateway} {es : List Event}
    (hplain : AllStates (step setup reader) System.AllPlain (.init none cloud) es) :
    AllStates (step setup reader) (fun s => ∃ ms, Consistent reader.counter s ms) (.init none cloud)
      es := by
  refine AllStates.of_invariant (Q := fun _ _ => True) ?_ ⟨[], consistent_init cloud⟩ hplain
    (allSteps_of_forall_mem (Q := fun _ => True) (fun _ _ => trivial) _)
  rintro s e hp hp' - ⟨ms, h⟩
  obtain ⟨ms', h', -⟩ := consistent_step e hp hp' h
  exact ⟨ms', h'⟩

/-- The cloud mirrors the gateway in every state of every run in which the gateway has plain values
only. -/
theorem cloud_mirrors_gateway (setup : Setup) (reader : Reader) (cloud : AtlasGateway)
    (es : List Event)
    (hplain : AllStates (step setup reader) System.AllPlain (.init none cloud) es) :
    AllStates (step setup reader) (System.Mirrored reader) (.init none cloud) es :=
  (allStates_consistent hplain).mono fun _ ⟨_, h⟩ => h.mirrored

/-- A host that reads the one request it gets. -/
def sampleSetup : Setup where
  host := .little
  commandType text :=
    let type := bytes "ATLAS_CMD_GATEWAY_REGISTER_REQUEST"
    if text = commandMessage type then some type else some []

/-- What a handler finds outside in the samples. -/
def sampleOutside : Outside := ⟨sampleEnv, fun _ => true⟩

theorem length_sampleIdentity : (bytes "lamp").length < 65536 := by decide

theorem length_sampleAddress : (bytes "10.0.0.2:5683").length < 65536 := by decide

/-- The cloud subscribes, the gateway starts and registers, and a lamp registers with the
gateway. -/
def sampleSession : List Event :=
  [.keepaliveTask true true,
    .gateway sampleOutside (.start true (bytes "alice") (scoresOf sampleEnv)) 0,
    .gateway sampleOutside (.connection true .success) 0,
    .gateway sampleOutside (.connection true .turn) 0,
    .gateway sampleOutside (.request .register (bytes "lamp")
      (sampleRegister (bytes "lamp") (bytes "10.0.0.2:5683") length_sampleIdentity
        length_sampleAddress)) 0,
    .deliver]

/-- A document without clients. -/
def sampleDocument : AtlasGateway := ⟨false, 0, none, fun _ => none⟩

/-- All values of the session are plain. -/
def System.plain (s : System) : Bool :=
  s.gateway.all fun g =>
    g.manager.devices.rows.all (fun device =>
      device.identity.all (unescaped [·]) &&
        (device.fields g.scores.env).all fun f => f.2.all (unescaped [·])) &&
      g.ownerIdentity.all (unescaped [·])

theorem plain_of_check (h : s.plain = true) : s.AllPlain := by
  intro g hg
  rw [System.plain, hg, Option.all_some, Bool.and_eq_true, List.all_eq_true] at h
  refine ⟨fun device hdevice => ?_, plain_of_all h.2⟩
  obtain ⟨hidentity, hfields⟩ := Bool.and_eq_true_iff.mp (h.1 device hdevice)
  exact ⟨plain_of_all hidentity, fun f hf => plain_of_all (List.all_eq_true.mp hfields f hf)⟩

theorem plain_sampleSession :
    AllStates (step sampleSetup sampleReader) System.AllPlain (.init none sampleDocument)
      sampleSession :=
  ⟨plain_of_check (by decide +kernel), plain_of_check (by decide +kernel),
    plain_of_check (by decide +kernel),
    plain_of_check (by decide +kernel), plain_of_check (by decide +kernel),
    plain_of_check (by decide +kernel), plain_of_check (by decide +kernel)⟩

/-- The lamp has registered, and its messages are on the way. -/
theorem cloud_mirrors_gateway_lamp :
    ∃ g, (run (step sampleSetup sampleReader) (.init none sampleDocument) sampleSession).gateway =
      some g ∧ g.manager.devices.rows.map (·.registered) = [true] ∧
      Mirrors g ((run (step sampleSetup sampleReader) (.init none sampleDocument)
        sampleSession).arrived sampleReader) := by
  have h :=
    (cloud_mirrors_gateway sampleSetup sampleReader sampleDocument sampleSession
      plain_sampleSession).last
  exact ⟨_, rfl, by decide +kernel,
    h _ rfl ⟨by decide +kernel, by decide +kernel⟩ (by decide +kernel)
    (by decide +kernel) (by decide +kernel)⟩

/-- A gateway that the cloud does not have as registered, and that believes it is, stays so: as long
as it keeps its connection and no request for a registration reaches it, none of its messages
changes that. -/
theorem stays_unregistered (setup : Setup) (reader : Reader) (cloud : AtlasGateway)
    (es es' : List Event)
    (hplain : AllStates (step setup reader) System.AllPlain (.init none cloud) es)
    (s : System) (hs : run (step setup reader) (.init none cloud) es = s)
    (hlive : AllStates (step setup reader)
      (fun s => s.AllPlain ∧ ∃ g, s.gateway = some g ∧ Live g) s es')
    (hrequests : AllSteps (step setup reader) (fun s e => ¬ s.registers setup e) s es')
    (hregistered : (s.arrived reader).registered = false) :
    AllStates (step setup reader) (fun s => s.cloud.registered = false) s es' := by
  obtain ⟨ms, h⟩ := hs ▸ (allStates_consistent hplain).last
  rw [h.arrived_eq] at hregistered
  have hinv := AllStates.of_invariant
    (I := fun s => ∃ ms, Consistent reader.counter s ms ∧
      (applyAll reader.counter ms s.cloud).registered = false) ?_
    ⟨ms, h, hregistered⟩ hlive hrequests
  · refine hinv.mono ?_
    rintro s ⟨ms, -, hfalse⟩
    by_contra hreg
    rw [(registered_applyAll ms s.cloud).mpr (.inl (Bool.eq_true_of_not_eq_false hreg))] at hfalse
    cases hfalse
  · rintro s e ⟨hp, -⟩ ⟨hp', g', hg', hlive'⟩ hnot ⟨ms, h, hfalse⟩
    obtain ⟨ms', h', hreg'⟩ := consistent_step e hp hp' h
    refine ⟨ms', h', Bool.eq_false_of_not_eq_true fun htrue => ?_⟩
    rcases hreg' htrue with hbefore | hregisters | hdown
    · rw [hfalse] at hbefore
      cases hbefore
    · exact hnot hregisters
    · exact hdown g' hg' hlive'

/-- The gateway registers. Then the cloud loses its connection and subscribes again, and asks for a
registration, which the gateway cannot publish. -/
def sampleRequest : List Event :=
  [.keepaliveTask true true,
    .gateway sampleOutside (.start true (bytes "alice") (scoresOf sampleEnv)) 0,
    .gateway sampleOutside (.connection true .success) 0,
    .gateway sampleOutside (.connection true .turn) 0,
    .deliver, .deliver, .cloudLost, .keepaliveTask true true,
    .gateway sampleOutside
      (.connection true (.arrived (commandMessage (bytes "ATLAS_CMD_GATEWAY_REGISTER_REQUEST")))) 0,
    .gateway { sampleOutside with accepts := fun _ => false } (.connection true .turn) 0]

/-- The cloud gets a keep-alive. -/
def sampleKeepalive : List Event :=
  [.gateway sampleOutside .cloudKeepalive 0, .deliver, .keepaliveTask false false]

theorem plain_sampleRequest :
    AllStates (step sampleSetup sampleReader) System.AllPlain (.init none sampleDocument)
      sampleRequest :=
  ⟨plain_of_check (by decide +kernel), plain_of_check (by decide +kernel),
    plain_of_check (by decide +kernel),
    plain_of_check (by decide +kernel), plain_of_check (by decide +kernel),
    plain_of_check (by decide +kernel),
    plain_of_check (by decide +kernel), plain_of_check (by decide +kernel),
    plain_of_check (by decide +kernel),
    plain_of_check (by decide +kernel), plain_of_check (by decide +kernel)⟩

/-- The cloud had the gateway as registered, does not any more, and keep-alives do not change
that. -/
theorem stays_unregistered_lost :
    AllStates (step sampleSetup sampleReader) (fun s => s.cloud.registered = false)
      (run (step sampleSetup sampleReader) (.init none sampleDocument) sampleRequest)
      sampleKeepalive := by
  have hlive : ∀ s : System, s.plain = true → ∀ g, s.gateway = some g → g.client.link = .up →
      g.registered = true → s.AllPlain ∧ ∃ g, s.gateway = some g ∧ Live g :=
    fun _ hplain g hg hlink hreg => ⟨plain_of_check hplain, g, hg, hlink, hreg⟩
  refine stays_unregistered sampleSetup sampleReader sampleDocument sampleRequest sampleKeepalive
    plain_sampleRequest _ rfl
    ⟨hlive _ (by decide +kernel) _ rfl (by decide +kernel) (by decide +kernel),
      hlive _ (by decide +kernel) _ rfl (by decide +kernel) (by decide +kernel),
      hlive _ (by decide +kernel) _ rfl (by decide +kernel) (by decide +kernel),
      hlive _ (by decide +kernel) _ rfl (by decide +kernel) (by decide +kernel)⟩
    ⟨?_, nofun, nofun, trivial⟩ (by decide +kernel)
  rintro ⟨g, ⟨⟩, h⟩
  exact absurd h (by decide +kernel)

end Atlas.Mirror
