import Atlas.Cloud.Transitions
import Atlas.Lib.Lists
import Mathlib.Data.List.Perm.Basic

/-! # Every issued command is in one place

For one gateway with an owner, the commands form a book: some wait for the owner, some are pending,
the others have been acknowledged or rejected. A step of the cloud is a move of the book, so no
command is lost or duplicated, and the order of the numbers is kept as long as the counter does not
wrap around.

Reference: `sendCommandToClient`, `enqueueOwnerCommand`, `setOwnerCommandStatus`,
`sendApprovedCommandToClient`, `markCommandAsRejected`, `handleClientCommandAck`.
-/

namespace Atlas.Cloud

open EventMachine

/-! ## The book of one gateway -/

/-- The next number, and the commands on their way. -/
structure Book where
  counter : Int32
  awaiting : List AtlasClientCommandDto
  pending : List AtlasClientCommandDto

/-- The command as it was issued. -/
def AtlasClientCommandDto.unsigned (c : AtlasClientCommandDto) : AtlasClientCommandDto :=
  { c with signature := none }

theorem AtlasClientCommandDto.unsigned_sign (c : AtlasClientCommandDto)
    (signature : Option String) : { c with signature := signature }.unsigned = c.unsigned := rfl

namespace Book

/-- The moves of a book, with the commands issued, acknowledged and rejected; `A` are the signed
commands that may become pending. -/
inductive Move (A : AtlasClientCommandDto → Prop) (b : Book) : List AtlasClientCommandDto →
    List AtlasClientCommandDto → List AtlasClientCommandDto → Book → Prop where
  | stay : Move A b [] [] [] b
  | issue {c : AtlasClientCommandDto} (h : c.seqNo = b.counter) :
      Move A b [c] [] [] ⟨b.counter + 1, b.awaiting ++ [c], b.pending⟩
  | approve {c : AtlasClientCommandDto} {l : List AtlasClientCommandDto} {signature : Option String}
      (h : b.awaiting = c :: l) (hA : A { c with signature := signature }) :
      Move A b [] [] [] ⟨b.counter, l, b.pending ++ [{ c with signature := signature }]⟩
  | reject {c : AtlasClientCommandDto} {l : List AtlasClientCommandDto} (h : b.awaiting = c :: l) :
      Move A b [] [] [c] ⟨b.counter, l, b.pending⟩
  | ack {c : AtlasClientCommandDto} {l : List AtlasClientCommandDto} (h : b.pending = c :: l) :
      Move A b [] [c] [] ⟨b.counter, b.awaiting, l⟩

variable {A : AtlasClientCommandDto → Prop} {b b' : Book}
  {is as rs is' as' rs' : List AtlasClientCommandDto}

/-- A move, with the book after it known by an equation. -/
theorem Move.congr {b'' : Book} (hm : Move A b is as rs b') (h : b'' = b') :
    Move A b is as rs b'' := h ▸ hm

/-- A step that leaves the book as it is. -/
theorem Move.of_eq (h : b' = b) : Move A b [] [] [] b' := Move.stay.congr h

/-- Only approved commands become pending. -/
theorem Move.mem_pending (hm : Move A b is as rs b') {c : AtlasClientCommandDto}
    (hc : c ∈ b'.pending) : c ∈ b.pending ∨ A c := by
  cases hm with
  | stay | issue | reject => exact .inl hc
  | approve h hA =>
    rcases List.mem_append.mp hc with hc | hc
    · exact .inl hc
    · exact .inr (List.mem_singleton.mp hc ▸ hA)
  | ack h => exact .inl (h ▸ List.mem_cons_of_mem _ hc)

/-- The issued commands are those on their way, acknowledged or rejected; the commands on their way
are in order, and the counter is above every number issued unless it has wrapped around. -/
structure Balanced (b : Book) (issued acknowledged rejected : List AtlasClientCommandDto) :
    Prop where
  perm : (issued.map (·.unsigned)).Perm
    ((b.awaiting ++ b.pending ++ acknowledged ++ rejected).map (·.unsigned))
  nodup : (issued.map (·.seqNo)).Nodup
  sorted : ((b.pending ++ b.awaiting).map (·.seqNo)).Pairwise (· < ·)
  bound : 0 < b.counter → ∀ c ∈ issued, c.seqNo < b.counter

/-- The numbers issued are those on their way, acknowledged or rejected. -/
theorem Balanced.perm_seqNo (h : Balanced b is as rs) :
    (is.map (·.seqNo)).Perm ((b.awaiting ++ b.pending ++ as ++ rs).map (·.seqNo)) := by
  have hmap : ∀ l : List AtlasClientCommandDto,
      (l.map (·.unsigned)).map (·.seqNo) = l.map (·.seqNo) := fun l => by
    rw [List.map_map]
    rfl
  simpa only [hmap] using h.perm.map (·.seqNo)

/-- A command on its way has an issued number. -/
theorem Balanced.exists_issued (h : Balanced b is as rs) {c : AtlasClientCommandDto}
    (hc : c ∈ b.pending ++ b.awaiting) : ∃ c' ∈ is, c'.seqNo = c.seqNo := by
  have hmem : c.seqNo ∈ is.map (·.seqNo) := h.perm_seqNo.mem_iff.mpr (List.mem_map_of_mem (by
    simp only [List.mem_append] at hc ⊢
    tauto))
  exact List.mem_map.mp hmem

/-- A counter that has not wrapped around has gone up. -/
theorem lt_add_one_of_pos {n : Int32} (h : 0 < n + 1) : n < n + 1 := by
  grind

/-- A new number is above every number before it. -/
theorem Balanced.issue (h : Balanced b is as rs) {c : AtlasClientCommandDto}
    (hc : c.seqNo = b.counter) (hpos : 0 < b.counter) :
    Balanced ⟨b.counter + 1, b.awaiting ++ [c], b.pending⟩ (is ++ [c]) as rs where
  perm := List.perm_iff_count.mpr fun d => by
    have hd := h.perm.count_eq d
    simp only [List.map_append, List.map_cons, List.map_nil, List.count_append] at hd ⊢
    omega
  nodup := by
    refine List.nodup_map_concat h.nodup fun c' hc' heq => ?_
    have hlt := h.bound hpos c' hc'
    rw [heq, hc] at hlt
    exact Int32.lt_irrefl hlt
  sorted := by
    rw [← List.append_assoc, List.map_append, List.map_singleton]
    refine List.pairwise_append.mpr ⟨h.sorted, List.pairwise_singleton _ _, fun m hm n hn => ?_⟩
    obtain ⟨d, hd, rfl⟩ := List.mem_map.mp hm
    obtain ⟨c', hc', heq⟩ := h.exists_issued hd
    rw [List.mem_singleton.mp hn, ← heq, hc]
    exact h.bound hpos c' hc'
  bound hpos' d hd := by
    rcases List.mem_append.mp hd with hd | hd
    · exact Int32.lt_trans (h.bound hpos d hd) (lt_add_one_of_pos hpos')
    · rw [List.mem_singleton.mp hd, hc]
      exact lt_add_one_of_pos hpos'

theorem Balanced.move (h : Balanced b is as rs) (hm : Move A b is' as' rs' b')
    (hpos : is' ≠ [] → 0 < b.counter) : Balanced b' (is ++ is') (as ++ as') (rs ++ rs') := by
  have hsorted := h.sorted
  cases hm with
  | stay => simpa using h
  | issue hc => simpa using h.issue hc (hpos (by simp))
  | approve ha hA =>
    simp only [List.append_nil]
    rw [ha] at hsorted
    refine ⟨List.perm_iff_count.mpr fun d => ?_, h.nodup, by simpa using hsorted, h.bound⟩
    have hd := h.perm.count_eq d
    simp only [ha, List.map_append, List.map_cons, List.map_nil, List.count_append,
      List.count_cons, List.count_nil, AtlasClientCommandDto.unsigned_sign] at hd ⊢
    omega
  | reject ha =>
    simp only [List.append_nil]
    rw [ha] at hsorted
    refine ⟨List.perm_iff_count.mpr fun d => ?_, h.nodup, ?_, h.bound⟩
    · have hd := h.perm.count_eq d
      simp only [ha, List.map_append, List.map_cons, List.map_nil, List.count_append,
        List.count_cons, List.count_nil] at hd ⊢
      omega
    · exact hsorted.sublist
        ((List.Sublist.append_left (List.sublist_cons_self _ _) _).map _)
  | ack hp =>
    simp only [List.append_nil]
    rw [hp] at hsorted
    refine ⟨List.perm_iff_count.mpr fun d => ?_, h.nodup, ?_, h.bound⟩
    · have hd := h.perm.count_eq d
      simp only [hp, List.map_append, List.map_cons, List.map_nil, List.count_append,
        List.count_cons, List.count_nil] at hd ⊢
      omega
    · exact hsorted.sublist
        ((List.Sublist.append_right (List.sublist_cons_self _ _) _).map _)

end Book

/-! ## The book in the stored documents -/

namespace Effect

/-- The command of the gateway that the effect issues. -/
def issued? (i : String) : Effect → Option AtlasClientCommandDto
  | .issued gi c => if gi = i then some c else none
  | _ => none

/-- The command of the gateway that the effect acknowledges. -/
def acknowledged? (i : String) : Effect → Option AtlasClientCommandDto
  | .acknowledged gi c => if gi = i then some c else none
  | _ => none

/-- The command of the gateway that the effect rejects. -/
def rejected? (i : String) : Effect → Option AtlasClientCommandDto
  | .rejected gi c => if gi = i then some c else none
  | _ => none

end Effect

/-- The commands of the gateway issued along a trace. -/
def issued (i : String) (ws : List Effect) : List AtlasClientCommandDto :=
  ws.filterMap (Effect.issued? i)

/-- The commands of the gateway acknowledged along a trace. -/
def acknowledged (i : String) (ws : List Effect) : List AtlasClientCommandDto :=
  ws.filterMap (Effect.acknowledged? i)

/-- The commands of the gateway rejected along a trace. -/
def rejected (i : String) (ws : List Effect) : List AtlasClientCommandDto :=
  ws.filterMap (Effect.rejected? i)

theorem issued_singleton (i gi : String) (c : AtlasClientCommandDto) :
    issued i [.issued gi c] = if gi = i then [c] else [] := by
  by_cases h : gi = i <;> simp [issued, Effect.issued?, h]

theorem acknowledged_singleton (i gi : String) (c : AtlasClientCommandDto) :
    acknowledged i [.acknowledged gi c] = if gi = i then [c] else [] := by
  by_cases h : gi = i <;> simp [acknowledged, Effect.acknowledged?, h]

theorem rejected_singleton (i gi : String) (c : AtlasClientCommandDto) :
    rejected i [.rejected gi c] = if gi = i then [c] else [] := by
  by_cases h : gi = i <;> simp [rejected, Effect.rejected?, h]

theorem filterMap_ledger {f : Effect → Option AtlasClientCommandDto}
    (hf : ∀ w, w.onCommand = false → f w = none) (ws : List Effect) :
    (ledger ws).filterMap f = ws.filterMap f := by
  unfold ledger
  rw [List.filterMap_filter]
  refine List.filterMap_congr fun w _ => ?_
  cases hw : w.onCommand with
  | true => rfl
  | false => simp [hf w hw]

theorem issued_ledger (i : String) (ws : List Effect) : issued i (ledger ws) = issued i ws :=
  filterMap_ledger (fun w hw => by cases w <;> first | rfl | cases hw) ws

theorem acknowledged_ledger (i : String) (ws : List Effect) :
    acknowledged i (ledger ws) = acknowledged i ws :=
  filterMap_ledger (fun w hw => by cases w <;> first | rfl | cases hw) ws

theorem rejected_ledger (i : String) (ws : List Effect) : rejected i (ledger ws) = rejected i ws :=
  filterMap_ledger (fun w hw => by cases w <;> first | rfl | cases hw) ws

namespace State

/-- The next number of a gateway. -/
def counter (i : String) (s : State) : Int32 :=
  ((s.gateways.find? i).map (·.globalCmdSeqNo)).getD 0

/-- The book of a gateway with the owner `o`. -/
def book (o i : String) (s : State) : Book := ⟨s.counter i, s.awaiting o i, s.pending i⟩

/-- The gateway has the owner `o`, and no other owner holds commands of it. -/
structure Owned (o i : String) (s : State) : Prop where
  gateway : ∃ gateway, s.gateways.find? i = some gateway ∧ gateway.owner = some o
  others : ∀ o', o' ≠ o → s.awaiting o' i = []

variable {o i : String} {s : State} {gateway gateway' : AtlasGateway}

theorem counter_of_find? (h : s.gateways.find? i = some gateway) :
    s.counter i = gateway.globalCmdSeqNo := by
  simp [counter, h]

theorem counter_saveGateway (gateway : AtlasGateway) (s : State) (i : String) :
    (s.saveGateway gateway).counter i =
      if i = gateway.identity then gateway.globalCmdSeqNo else s.counter i := by
  unfold counter
  rw [find?_saveGateway]
  split <;> rfl

theorem counter_keepaliveTask (b : Bool) (s : State) (i : String) :
    (keepaliveTask b s).state.counter i = s.counter i := by
  unfold counter
  rw [find?_keepaliveTask, Option.map_map]
  simp [Function.comp_def, (AtlasGateway.sameCommands_keepalive b _).seqNo]

theorem book_of_find? (h : s.gateways.find? i = some gateway) (o : String) :
    s.book o i = ⟨gateway.globalCmdSeqNo, s.awaiting o i, gateway.gatewayPendingCmds⟩ := by
  rw [book, counter_of_find? h, pending_of_find? h]

/-- Saving the document of another gateway leaves the book alone. -/
theorem book_saveGateway_of_ne (o : String) (h : i ≠ gateway.identity) :
    (s.saveGateway gateway).book o i = s.book o i := by
  simp only [book, counter_saveGateway, pending_saveGateway, if_neg h]
  rfl

theorem book_saveGateway_self (o : String) (gateway : AtlasGateway) (s : State) :
    (s.saveGateway gateway).book o gateway.identity =
      ⟨gateway.globalCmdSeqNo, s.awaiting o gateway.identity, gateway.gatewayPendingCmds⟩ := by
  simp only [book, counter_saveGateway, pending_saveGateway, if_true]
  rfl

/-- Saving a document that keeps the owner. -/
theorem Owned.saveGateway (hs : s.Owned o i) (h : gateway.identity = i → gateway.owner = some o) :
    (s.saveGateway gateway).Owned o i where
  gateway := by
    rw [find?_saveGateway]
    split
    case isTrue hi => exact ⟨gateway, rfl, h hi.symm⟩
    case isFalse => exact hs.gateway
  others := hs.others

/-- The document of an owned gateway has its owner. -/
theorem Owned.owner_eq (hs : s.Owned o i) (h : s.gateways.find? i = some gateway) :
    gateway.owner = some o := by
  obtain ⟨gateway', hg, ho⟩ := hs.gateway
  rw [h, Option.some.injEq] at hg
  rw [hg, ho]

/-- Saving a changed document that keeps the owner. -/
theorem Owned.saveChanged {gi : String} (hs : s.Owned o i)
    (hg : s.gateways.find? gi = some gateway) (hid : gateway'.identity = gateway.identity)
    (howner : gateway'.owner = gateway.owner) : (s.saveGateway gateway').Owned o i := by
  refine hs.saveGateway fun hi => ?_
  obtain rfl : gateway.identity = gi := Table.key_of_find? hg
  rw [← hid, hi] at hg
  rw [howner, hs.owner_eq hg]

/-- Saving what is left of a list of the owner. -/
theorem Owned.setCommands {o' gi : String} {owner : AtlasOwner} (hs : s.Owned o i)
    (howner : s.owners.find? o' = some owner) {c : AtlasClientCommandDto}
    {l : List AtlasClientCommandDto} (hl : owner.ownerCommands gi = some (c :: l)) :
    (s.saveOwner (owner.setCommands gi l)).Owned o i := by
  refine ⟨hs.gateway, fun o'' ho'' => ?_⟩
  rw [awaiting_setCommands howner, if_neg, hs.others o'' ho'']
  rintro ⟨rfl, rfl⟩
  have hnil := hs.others o'' ho''
  rw [awaiting_of_find? howner, hl] at hnil
  cases hnil

end State

/-- The events that leave the owner of the gateway alone and delete no client. -/
def FixedOwner (o i : String) : Event → Prop
  | .messageReceived gi (.infoUpdate (some o')) => gi = i → o' = o
  | .deleteClient _ => False
  | _ => True

/-- A command that is issued for the owner. -/
theorem step_of_askOwner {cfg : Config} {s : State} {gi ci command : String}
    {gateway : AtlasGateway} {client : AtlasClient} {type : AtlasClientCommandType}
    (h : issuing cfg gi ci command s = some (gateway, client, type))
    (howner : gateway.hasOwner = true) :
    (step cfg s (.sendCommandToClient gi ci command)).1 =
      (enqueueOwnerCommand gi (gateway.owner.getD "") (gateway.nextCommand client type)
        s).state.saveGateway (gateway.askedOwner ci client type) := by
  have ht := step_transition cfg s (.sendCommandToClient gi ci command)
  generalize (step cfg s (.sendCommandToClient gi ci command)).1 = s', ledger _ = ws at ht
  cases ht with
  | refused hacts | touch hacts => simp [acts, h] at hacts
  | askOwner h' howner' =>
    obtain ⟨rfl, rfl, rfl⟩ : _ ∧ _ ∧ _ := by simpa [h] using h'
    rfl
  | queue h' howner' =>
    obtain ⟨rfl, rfl, rfl⟩ : _ ∧ _ ∧ _ := by simpa [h] using h'
    simp [howner] at howner'

/-- A decision that approves. -/
theorem step_of_approve {cfg : Config} {s : State} {o : String}
    {ownerCommand : AtlasOwnerCommandDto} {d : Decision}
    (h : deciding cfg o ownerCommand s = some d) (happroved : ownerCommand.approved = true) :
    (step cfg s (.setOwnerCommandStatus o ownerCommand)).1 = d.approved ownerCommand s := by
  have ht := step_transition cfg s (.setOwnerCommandStatus o ownerCommand)
  generalize (step cfg s (.setOwnerCommandStatus o ownerCommand)).1 = s', ledger _ = ws at ht
  cases ht with
  | refused hacts | touch hacts => simp [acts, h] at hacts
  | approve h' _ =>
    obtain rfl : d = _ := by simpa [h] using h'
    rfl
  | reject h' hrejected => simp [happroved] at hrejected

section Simulation

variable {cfg : Config} {s s' : State} {e : Event} {ws : List Effect} {o i : String}

/-- A step leaves the gateway to its owner. -/
theorem Transition.owned (h : Transition cfg s e ws s') (hs : s.Owned o i) (he : FixedOwner o i e) :
    s'.Owned o i := by
  cases h with
  | refused => exact hs
  | @askOwner gi ci command gateway client type h howner =>
    obtain ⟨hg, -, -⟩ := issuing_eq_some_iff.mp h
    obtain rfl : gateway.identity = gi := Table.key_of_find? hg
    have hs₁ : (enqueueOwnerCommand gateway.identity (gateway.owner.getD "")
        (gateway.nextCommand client type) s).state.Owned o i := by
      refine ⟨by simpa using hs.gateway, fun o' ho' => ?_⟩
      rw [State.awaiting_enqueueOwnerCommand, if_neg, hs.others o' ho']
      rintro ⟨heq, rfl, -, -⟩
      simp [hs.owner_eq hg] at heq
      exact ho' heq
    rw [← State.gateways_enqueueOwnerCommand gateway.identity (gateway.owner.getD "")
      (gateway.nextCommand client type)] at hg
    exact hs₁.saveChanged hg rfl rfl
  | queue h howner =>
    obtain ⟨hg, -, -⟩ := issuing_eq_some_iff.mp h
    exact hs.saveChanged hg rfl rfl
  | @approve _ ownerCommand d h happroved =>
    have hd := Decision.valid_of_deciding h
    have hs₁ : (s.saveGateway ((d.marked .deliveringToGateway).addPending
        (d.signedCommand ownerCommand))).Owned o i := hs.saveChanged hd.gateway rfl rfl
    exact hs₁.setCommands hd.owner hd.commands
  | @reject _ _ d h hrejected =>
    have hd := Decision.valid_of_deciding h
    have hs₁ : (s.saveGateway (d.marked .rejectedByOwner)).Owned o i :=
      hs.saveChanged hd.gateway rfl rfl
    exact hs₁.setCommands hd.owner hd.commands
  | ack h => exact hs.saveChanged (acknowledging_eq_some h).1 rfl rfl
  | done h => exact hs.saveChanged (executing_eq_some h).1 rfl rfl
  | @touch e gi gateway gateway' h hfind hsame howner hshown =>
    rcases howner with howner | ⟨o', rfl, howner⟩
    · exact hs.saveChanged hfind hsame.identity howner
    · refine hs.saveGateway fun hi => ?_
      rw [howner, he ((Table.key_of_find? hfind).symm.trans (hsame.identity.symm.trans hi))]
  | tick b =>
    obtain ⟨gateway, hg, howner⟩ := hs.gateway
    refine ⟨⟨keepaliveGateway b gateway, ?_, ?_⟩, hs.others⟩
    · rw [State.find?_keepaliveTask, hg, Option.map_some]
    · rw [keepaliveGateway_owner, howner]
  | newOwner o' t =>
    refine ⟨hs.gateway, fun o'' ho'' => ?_⟩
    rw [State.awaiting_newOwner, hs.others o'' ho'']
  | read hfind => exact ⟨hs.gateway, hs.others⟩
  | delete h => exact he.elim

/-- Saving the document of a gateway with its counter and its pending commands. -/
theorem State.book_saveChanged {gi : String} {gateway gateway' : AtlasGateway}
    (hg : s.gateways.find? gi = some gateway) (hid : gateway'.identity = gateway.identity)
    (hseqNo : gateway'.globalCmdSeqNo = gateway.globalCmdSeqNo)
    (hpending : gateway'.gatewayPendingCmds = gateway.gatewayPendingCmds) :
    (s.saveGateway gateway').book o i = s.book o i := by
  by_cases hi : i = gateway'.identity
  · subst hi
    obtain rfl : gateway.identity = gi := Table.key_of_find? hg
    rw [← hid] at hg
    rw [book_saveGateway_self, book, counter_of_find? hg, pending_of_find? hg, hseqNo, hpending]
  · exact book_saveGateway_of_ne o hi

/-- Only the owner decides on commands of the gateway, and on the first of its list. -/
theorem State.Owned.decided {o' : String} {ownerCommand : AtlasOwnerCommandDto} {d : Decision}
    (hs : s.Owned o d.gatewayIdentity) (hd : d.Valid cfg o' ownerCommand s) :
    o' = o ∧ s.awaiting o d.gatewayIdentity = d.clientCommand :: d.commands := by
  have hl : s.awaiting o' d.gatewayIdentity = d.clientCommand :: d.commands := by
    rw [awaiting_of_find? hd.owner, hd.commands]
    rfl
  obtain rfl : o' = o := by
    by_contra hne
    rw [hs.others o' hne] at hl
    cases hl
  exact ⟨rfl, hl⟩

theorem State.book_setCommands {o' : String} {owner : AtlasOwner}
    (h : s.owners.find? o' = some owner) (gi : String) (l : List AtlasClientCommandDto) :
    (s.saveOwner (owner.setCommands gi l)).book o i =
      if o = o' ∧ i = gi then { s.book o i with awaiting := l } else s.book o i := by
  unfold book
  rw [awaiting_setCommands h]
  split <;> rfl

/-- The book after a decision on a command of the gateway. -/
theorem State.book_decided {o' : String} {ownerCommand : AtlasOwnerCommandDto} {d : Decision}
    {gateway : AtlasGateway} (hs : s.Owned o d.gatewayIdentity) (hd : d.Valid cfg o' ownerCommand s)
    (hid : gateway.identity = d.gateway.identity) :
    ((s.saveGateway gateway).saveOwner (d.owner.setCommands d.gatewayIdentity d.commands)).book o
      d.gatewayIdentity = ⟨gateway.globalCmdSeqNo, d.commands, gateway.gatewayPendingCmds⟩ := by
  obtain ⟨rfl, -⟩ := hs.decided hd
  have hgi : d.gatewayIdentity = gateway.identity := by rw [hid, Table.key_of_find? hd.gateway]
  have howner : (s.saveGateway gateway).owners.find? o' = some d.owner := hd.owner
  rw [book_setCommands howner, if_pos ⟨rfl, rfl⟩, hgi, book_saveGateway_self]

/-- A decision on a command of another gateway leaves the book alone. -/
theorem State.book_decided_of_ne {o' : String} {ownerCommand : AtlasOwnerCommandDto} {d : Decision}
    {gateway : AtlasGateway} (hd : d.Valid cfg o' ownerCommand s)
    (hid : gateway.identity = d.gateway.identity) (hi : i ≠ d.gatewayIdentity) :
    ((s.saveGateway gateway).saveOwner (d.owner.setCommands d.gatewayIdentity d.commands)).book o
      i = s.book o i := by
  have hne : i ≠ gateway.identity := by rwa [hid, Table.key_of_find? hd.gateway]
  have howner : (s.saveGateway gateway).owners.find? o' = some d.owner := hd.owner
  rw [book_setCommands howner, if_neg fun h => hi h.2, book_saveGateway_of_ne o hne]

/-- Issuing a command for the owner, seen in the book. -/
theorem State.book_askedOwner {gi ci : String} {gateway : AtlasGateway} {client : AtlasClient}
    {type : AtlasClientCommandType} (hs : s.Owned o gi) (hg : s.gateways.find? gi = some gateway)
    (ho : o ≠ "") (hgi : gi ≠ "") :
    ((enqueueOwnerCommand gi (gateway.owner.getD "") (gateway.nextCommand client type)
        s).state.saveGateway (gateway.askedOwner ci client type)).book o gi =
      ⟨s.counter gi + 1, s.awaiting o gi ++ [gateway.nextCommand client type], s.pending gi⟩ := by
  have howner : gateway.owner.getD "" = o := by rw [hs.owner_eq hg, Option.getD_some]
  rw [howner, counter_of_find? hg, pending_of_find? hg]
  obtain rfl : gateway.identity = gi := Table.key_of_find? hg
  refine (book_saveGateway_self o (gateway.askedOwner ci client type) _).trans ?_
  rw [Book.mk.injEq]
  refine ⟨rfl, ?_, rfl⟩
  exact (awaiting_enqueueOwnerCommand ..).trans (if_pos ⟨rfl, rfl, ho, hgi⟩)

/-- Issuing a command for another gateway leaves the book alone. -/
theorem State.book_askedOwner_of_ne {ci o' : String} {gateway : AtlasGateway} {client : AtlasClient}
    {type : AtlasClientCommandType} {c : AtlasClientCommandDto} (hi : i ≠ gateway.identity) :
    ((enqueueOwnerCommand gateway.identity o' c s).state.saveGateway
      (gateway.askedOwner ci client type)).book o i = s.book o i := by
  have hne : i ≠ (gateway.askedOwner ci client type).identity := hi
  rw [book_saveGateway_of_ne o hne]
  unfold book counter pending
  rw [awaiting_enqueueOwnerCommand, if_neg fun h => hi h.2.1, gateways_enqueueOwnerCommand]

/-- The event is a signed approval that names the number and the client of the command. -/
def Approves (cfg : Config) (i : String) (e : Event) (c : AtlasClientCommandDto) : Prop :=
  ∃ o ownerCommand, e = .setOwnerCommandStatus o ownerCommand ∧
    ownerCommand.gatewayIdentity = some i ∧ ownerCommand.approved = true ∧
    ownerCommand.seqNo = c.seqNo ∧
    equalsIgnoreCase cfg.charCase c.clientIdentity ownerCommand.clientIdentity = true ∧
    ownerCommand.signature.getD "" ≠ ""

/-- A decision that approves is an approval of the command it makes pending. -/
theorem Decision.Valid.approves {o' : String} {ownerCommand : AtlasOwnerCommandDto} {d : Decision}
    (hd : d.Valid cfg o' ownerCommand s) (happroved : ownerCommand.approved = true) :
    Approves cfg d.gatewayIdentity (.setOwnerCommandStatus o' ownerCommand)
      (d.signedCommand ownerCommand) := by
  refine ⟨o', ownerCommand, rfl, hd.gatewayIdentity, happroved, hd.seqNo.symm, hd.clientIdentity,
    ?_⟩
  simpa [AtlasOwnerCommandDto.signed, happroved] using hd.signed

/-- A step is a move of the book. -/
theorem Transition.move (h : Transition cfg s e ws s') (hs : s.Owned o i) (he : FixedOwner o i e)
    (ho : o ≠ "") (hi : i ≠ "") :
    (s.book o i).Move (Approves cfg i e) (issued i ws) (acknowledged i ws) (rejected i ws)
      (s'.book o i) := by
  cases h with
  | refused => exact .stay
  | @askOwner gi ci command gateway client type h howner =>
    obtain ⟨hg, -, -⟩ := issuing_eq_some_iff.mp h
    obtain rfl : gateway.identity = gi := Table.key_of_find? hg
    rw [issued_singleton]
    by_cases hgi : i = gateway.identity
    · subst hgi
      rw [if_pos rfl]
      exact (Book.Move.issue (State.counter_of_find? hg).symm).congr
        (State.book_askedOwner hs hg ho hi)
    · rw [if_neg (Ne.symm hgi)]
      exact .of_eq (State.book_askedOwner_of_ne hgi)
  | @queue gi ci command gateway client type h howner =>
    obtain ⟨hg, -, -⟩ := issuing_eq_some_iff.mp h
    obtain rfl : gateway.identity = gi := Table.key_of_find? hg
    rw [issued_singleton]
    by_cases hgi : i = gateway.identity
    · -- a gateway with an owner does not get its commands unasked
      subst hgi
      simp [AtlasGateway.hasOwner, hs.owner_eq hg, ho] at howner
    · rw [if_neg (Ne.symm hgi)]
      exact .of_eq (State.book_saveGateway_of_ne o hgi)
  | @approve o' ownerCommand d h happroved =>
    have hd := Decision.valid_of_deciding h
    by_cases hgi : i = d.gatewayIdentity
    · subst hgi
      refine (Book.Move.approve (hs.decided hd).2 (hd.approves happroved)).congr ?_
      refine (State.book_decided hs hd (by rfl)).trans ?_
      rw [State.book_of_find? hd.gateway]
      rfl
    · exact .of_eq (State.book_decided_of_ne hd rfl hgi)
  | @reject o' ownerCommand d h hrejected =>
    have hd := Decision.valid_of_deciding h
    rw [rejected_singleton]
    by_cases hgi : i = d.gatewayIdentity
    · subst hgi
      rw [if_pos rfl]
      refine (Book.Move.reject (hs.decided hd).2).congr ?_
      refine (State.book_decided hs hd (by rfl)).trans ?_
      rw [State.book_of_find? hd.gateway]
      rfl
    · rw [if_neg (Ne.symm hgi)]
      exact .of_eq (State.book_decided_of_ne hd rfl hgi)
  | @ack gi seqNo gateway command pending client h =>
    obtain ⟨hg, hp, -, -⟩ := acknowledging_eq_some h
    obtain rfl : gateway.identity = gi := Table.key_of_find? hg
    rw [acknowledged_singleton]
    by_cases hgi : i = gateway.identity
    · subst hgi
      rw [if_pos rfl]
      refine (Book.Move.ack ((State.pending_of_find? hg).trans hp)).congr ?_
      refine (State.book_saveGateway_self o (gateway.delivered command pending client) s).trans ?_
      rw [State.book_of_find? hg]
      rfl
    · rw [if_neg (Ne.symm hgi)]
      exact .of_eq (State.book_saveGateway_of_ne o hgi)
  | done h => exact .of_eq (State.book_saveChanged (executing_eq_some h).1 rfl rfl rfl)
  | touch h hfind hsame howner hshown =>
    exact .of_eq (State.book_saveChanged hfind hsame.identity hsame.seqNo hsame.pending)
  | tick b =>
    refine .of_eq ?_
    unfold State.book
    rw [State.counter_keepaliveTask, State.pending_keepaliveTask]
    rfl
  | newOwner o' t =>
    refine .of_eq ?_
    unfold State.book
    rw [State.awaiting_newOwner]
    rfl
  | read hfind => exact .stay
  | delete h => exact he.elim

/-- A command is issued with a counter that has wrapped around. -/
def issuesWrapped (cfg : Config) (i : String) (s : State) : Event → Bool
  | .sendCommandToClient gi ci command =>
    gi = i && (issuing cfg gi ci command s).any fun x => x.1.globalCmdSeqNo ≤ 0
  | _ => false

theorem Transition.counter_pos (h : Transition cfg s e ws s')
    (hpos : issuesWrapped cfg i s e = false) (hissued : issued i ws ≠ []) : 0 < s.counter i := by
  have key : ∀ {gi ci command : String} {gateway : AtlasGateway} {client : AtlasClient}
      {type : AtlasClientCommandType},
      issuing cfg gi ci command s = some (gateway, client, type) →
      issuesWrapped cfg i s (.sendCommandToClient gi ci command) = false → gi = i →
      0 < s.counter i := by
    rintro gi ci command gateway client type h hpos rfl
    rw [State.counter_of_find? (issuing_eq_some_iff.mp h).1]
    simp only [issuesWrapped, h, decide_true, Bool.true_and, Option.any_some,
      decide_eq_false_iff_not] at hpos
    exact Int32.not_le.mp hpos
  cases h with
  | askOwner h howner | queue h howner =>
    refine key h hpos (Classical.not_not.mp fun hne => hissued ?_)
    rw [issued_singleton, if_neg hne]
  | refused | approve | reject | ack | done | touch | tick | newOwner | read | delete =>
    exact absurd rfl hissued

/-- The invariant of a run: the gateway stays with its owner, and its book is balanced. -/
structure Audited (o i : String) (s : State) (ws : List Effect) : Prop where
  owned : s.Owned o i
  balanced : (s.book o i).Balanced (issued i ws) (acknowledged i ws) (rejected i ws)

theorem Audited.step (ho : o ≠ "") (hi : i ≠ "") (h : Audited o i s ws) (he : FixedOwner o i e)
    (hpos : issuesWrapped cfg i s e = false) :
    Audited o i (step cfg s e).1 (ws ++ (Cloud.step cfg s e).2) := by
  have ht := step_transition cfg s e
  refine ⟨ht.owned h.owned he, ?_⟩
  have hmove := h.balanced.move (ht.move h.owned he ho hi) (ht.counter_pos hpos)
  rw [issued_ledger, acknowledged_ledger, rejected_ledger] at hmove
  simpa only [issued, acknowledged, rejected, List.filterMap_append] using hmove

/-- A command that becomes pending was approved. -/
def EntersByApproval (cfg : Config) (i : String) (s : State) (e : Event) : Prop :=
  ∀ c ∈ (step cfg s e).1.pending i, c ∉ s.pending i → Approves cfg i e c

/-- The places of a number: with the owner, pending, acknowledged, rejected. -/
def places (o i : String) (n : Int32) (s : State) (ws : List Effect) : List Bool :=
  [n ∈ (s.awaiting o i).map (·.seqNo), n ∈ (s.pending i).map (·.seqNo),
    n ∈ (acknowledged i ws).map (·.seqNo), n ∈ (rejected i ws).map (·.seqNo)]

/-- Of four counts with sum one, one is positive. -/
theorem count_pos_of_sum_eq_one {a b c d : ℕ} (h : a + b + c + d = 1) :
    [decide (0 < a), decide (0 < b), decide (0 < c), decide (0 < d)].count true = 1 := by
  obtain h | h | h | h : (a = 1 ∧ b = 0 ∧ c = 0 ∧ d = 0) ∨ (a = 0 ∧ b = 1 ∧ c = 0 ∧ d = 0) ∨
      (a = 0 ∧ b = 0 ∧ c = 1 ∧ d = 0) ∨ (a = 0 ∧ b = 0 ∧ c = 0 ∧ d = 1) := by omega
  all_goals
    obtain ⟨rfl, rfl, rfl, rfl⟩ := h
    rfl

/-- An issued number is in one place. -/
theorem Audited.places_count (h : Audited o i s ws) {n : Int32}
    (hn : n ∈ (issued i ws).map (·.seqNo)) : (places o i n s ws).count true = 1 := by
  have hcount : ((issued i ws).map (·.seqNo)).count n = 1 :=
    List.count_eq_one_of_mem h.balanced.nodup hn
  rw [h.balanced.perm_seqNo.count_eq] at hcount
  simp only [List.map_append, List.count_append, State.book] at hcount
  simp only [places, ← List.count_pos_iff]
  exact count_pos_of_sum_eq_one hcount

/-- A gateway as it was added, with an owner and no commands. -/
structure Fresh (o i : String) (s : State) : Prop where
  gateway : ∃ gateway, s.gateways.find? i = some gateway ∧ gateway.owner = some o ∧
    gateway.gatewayPendingCmds = [] ∧ gateway.globalCmdSeqNo = 1
  awaiting : ∀ o', s.awaiting o' i = []

theorem Fresh.audited (h : Fresh o i s) : Audited o i s [] := by
  obtain ⟨gateway, hg, howner, hp, hc⟩ := h.gateway
  refine ⟨⟨⟨gateway, hg, howner⟩, fun o' _ => h.awaiting o'⟩, ?_⟩
  rw [State.book_of_find? hg, h.awaiting, hp]
  exact ⟨.nil, .nil, .nil, by simp [issued]⟩

theorem sampleCloud_fresh : Fresh "owner" "gw" sampleCloud :=
  ⟨⟨sampleGateway, rfl, rfl, rfl, rfl⟩, fun _ => rfl⟩

end Simulation

variable {cfg : Config} {s : State} {es : List Event} {o i : String}

/-- For a gateway with an owner, as long as no command is issued with a counter that has wrapped
around: every issued number is in exactly one place, commands become pending by approval only, each
pending command is an issued one with a signature, and the pending numbers ascend. -/
theorem approval_complete (ho : o ≠ "") (hi : i ≠ "") (hs : Fresh o i s)
    (hes : ∀ e ∈ es, FixedOwner o i e)
    (hpos : AllSteps (step cfg) (fun s e => issuesWrapped cfg i s e = false) s es) :
    (∀ n ∈ (issued i (trace (step cfg) s es)).map (·.seqNo),
      (places o i n (run (step cfg) s es) (trace (step cfg) s es)).count true = 1) ∧
    AllSteps (step cfg) (EntersByApproval cfg i) s es ∧
    (∀ c ∈ (run (step cfg) s es).pending i, ∃ c' ∈ issued i (trace (step cfg) s es),
      c'.unsigned = c.unsigned) ∧
    (((run (step cfg) s es).pending i).map (·.seqNo)).Pairwise (· < ·) := by
  have hsteps := hpos.and_forall_mem hes
  have haudited : Audited o i (run (step cfg) s es) (trace (step cfg) s es) :=
    run_trace_of_allSteps (fun s e ws h hP => h.step ho hi hP.2 hP.1) hs.audited hsteps
  refine ⟨fun n hn => haudited.places_count hn, ?_, fun c hc => ?_, ?_⟩
  · refine allSteps_of_invariant (I := fun s => s.Owned o i)
      (fun s e h hP => (step_transition cfg s e).owned h hP.2) (fun s e h hP c hc hnew => ?_)
      hs.audited.owned hsteps
    exact (((step_transition cfg s e).move h hP.2 ho hi).mem_pending hc).resolve_left hnew
  · have hmem : c.unsigned ∈ (issued i (trace (step cfg) s es)).map (·.unsigned) :=
      haudited.balanced.perm.mem_iff.mpr (List.mem_map_of_mem (by simp [State.book, hc]))
    exact List.mem_map.mp hmem
  · have hsorted := haudited.balanced.sorted
    rw [List.map_append] at hsorted
    exact (List.pairwise_append.mp hsorted).1

/-- Two commands, one approved and acknowledged, the other rejected after a stale decision. -/
theorem approval_complete_sample :
    (places "owner" "gw" 1
      (run (step sampleConfig) sampleCloud [restartLamp, restartLamp, decideLamp 1 true,
        .messageReceived "gw" (.clientAck 1), decideLamp 1 true, decideLamp 2 false])
      (trace (step sampleConfig) sampleCloud [restartLamp, restartLamp, decideLamp 1 true,
        .messageReceived "gw" (.clientAck 1), decideLamp 1 true, decideLamp 2 false])).count true
      = 1 :=
  (approval_complete (by decide) (by decide) sampleCloud_fresh
    (by simp [restartLamp, decideLamp, FixedOwner]) (by decide)).1 1 (by decide)

/-! ## A counter that wraps around -/

/-- The lamp's command `n` with the owner's signature. -/
def signedRestart (n : Int32) : AtlasClientCommandDto :=
  ⟨"lamp", "lamp", .deviceRestart, "", n, some "signature"⟩

/-- `n` restarts of the lamp, each approved at once. -/
def approvedRestarts (n : ℕ) : List Event :=
  (List.range n).flatMap fun k => [restartLamp, decideLamp (Int32.ofNat (k + 1)) true]

/-- A list with a command in it is stored in the document of the owner. -/
theorem State.exists_owner_of_awaiting {s : State} {o i : String} {c : AtlasClientCommandDto}
    {l : List AtlasClientCommandDto} (h : s.awaiting o i = c :: l) :
    ∃ owner, s.owners.find? o = some owner ∧ owner.ownerCommands i = some (c :: l) := by
  unfold awaiting at h
  cases ho : s.owners.find? o with
  | none => simp [ho] at h
  | some owner =>
    cases hl : owner.ownerCommands i with
    | none => simp [ho, hl] at h
    | some l' => exact ⟨owner, rfl, by simpa [ho, hl] using h⟩

/-- The lamp is a client of the gateway, whose book is `b`. -/
structure LampBook (b : Book) (s : State) : Prop where
  owned : s.Owned "owner" "gw"
  book : s.book "owner" "gw" = b
  lamp : ∃ gateway client, s.gateways.find? "gw" = some gateway ∧
    gateway.clients "lamp" = some client ∧ client.identity = "lamp" ∧ client.clientAlias = "lamp"

theorem LampBook.issue {n : Int32} {pending : List AtlasClientCommandDto} {s : State}
    (h : LampBook ⟨n, [], pending⟩ s) :
    LampBook ⟨n + 1, [(signedRestart n).unsigned], pending⟩
      (step sampleConfig s restartLamp).1 := by
  obtain ⟨gateway, client, hg, hc, hid, halias⟩ := h.lamp
  have hissue : issuing sampleConfig "gw" "lamp" "atlas_cmd_client_device_restart" s =
      some (gateway, client, .deviceRestart) := issuing_eq_some_iff.mpr ⟨hg, hc, by decide⟩
  have howner : gateway.hasOwner = true := by
    simp [AtlasGateway.hasOwner, h.owned.owner_eq hg]
  have hs₁ := step_of_askOwner hissue howner
  have hgw : gateway.identity = "gw" := Table.key_of_find? hg
  have hbook := h.book
  rw [State.book, Book.mk.injEq, State.counter_of_find? hg] at hbook
  obtain ⟨hn, hawaiting, hpending⟩ := hbook
  refine ⟨(step_transition sampleConfig s restartLamp).owned h.owned trivial, ?_,
    gateway.askedOwner "lamp" client .deviceRestart,
    { client with
      transmittedCommands := client.transmittedCommands ++
        [⟨.deviceRestart, "", .deliveringToOwnerForApproval, gateway.globalCmdSeqNo⟩] },
    ?_, gateway.clients_setClient_self "lamp" _, hid, halias⟩
  · refine (congrArg (State.book "owner" "gw") hs₁).trans ?_
    rw [State.book_askedOwner h.owned hg (by decide) (by decide), hawaiting, hpending,
      State.counter_of_find? hg, hn, AtlasGateway.nextCommand, hid, halias, hn]
    rfl
  · refine (congrArg (·.gateways.find? "gw") hs₁).trans ?_
    exact (State.find?_saveGateway ..).trans (if_pos hgw.symm)

theorem LampBook.approve {n m : Int32} {pending : List AtlasClientCommandDto} {s : State}
    (h : LampBook ⟨m, [(signedRestart n).unsigned], pending⟩ s) :
    LampBook ⟨m, [], pending ++ [signedRestart n]⟩ (step sampleConfig s (decideLamp n true)).1 := by
  obtain ⟨gateway, client, hg, hc, hid, halias⟩ := h.lamp
  have hgw : gateway.identity = "gw" := Table.key_of_find? hg
  have hbook := h.book
  rw [State.book, Book.mk.injEq, State.counter_of_find? hg, State.pending_of_find? hg] at hbook
  obtain ⟨hm, hawaiting, hpending⟩ := hbook
  obtain ⟨owner, ho, hl⟩ := State.exists_owner_of_awaiting hawaiting
  let d : Decision := ⟨owner, "gw", (signedRestart n).unsigned, [], gateway, client⟩
  have hcommand : decidedCommand sampleConfig "owner"
      ⟨some "gw", some "LAMP", n, true, some "signature"⟩ s =
      some (owner, "gw", d.clientCommand, []) := by
    have hlamp : equalsIgnoreCase sampleConfig.charCase "lamp" (some "LAMP") = true := by decide
    simp [decidedCommand, ho, hl, signedRestart, AtlasClientCommandDto.unsigned, hlamp, d]
  have htarget : decisionTarget "gw" ⟨some "gw", some "LAMP", n, true, some "signature"⟩
      d.clientCommand s = some (gateway, client) :=
    (decisionTarget_eq_some_iff s).mpr ⟨rfl, by decide, hg, hc, .inl rfl⟩
  have hd : deciding sampleConfig "owner" ⟨some "gw", some "LAMP", n, true, some "signature"⟩ s =
      some d := by simp [deciding, hcommand, htarget, d]
  have hs₁ := step_of_approve hd rfl
  refine ⟨(step_transition sampleConfig s (decideLamp n true)).owned h.owned trivial, ?_,
    (d.marked .deliveringToGateway).addPending (signedRestart n),
    { client with
      transmittedCommands := setStateFirst n .deliveringToGateway client.transmittedCommands },
    ?_, gateway.clients_setClient_self "lamp" _, hid, halias⟩
  · refine (congrArg (State.book "owner" "gw") hs₁).trans ?_
    refine (State.book_decided h.owned (Decision.valid_of_deciding hd) (by rfl)).trans ?_
    rw [Book.mk.injEq, ← hm, ← hpending]
    exact ⟨rfl, rfl, rfl⟩
  · refine (congrArg (·.gateways.find? "gw") hs₁).trans ?_
    exact (State.find?_saveGateway ((d.marked .deliveringToGateway).addPending (signedRestart n))
      s "gw").trans (if_pos hgw.symm)

/-- Each approved restart becomes pending. -/
theorem lampBook_approvedRestarts (n : ℕ) :
    LampBook ⟨Int32.ofNat (n + 1), [],
        (List.range n).map fun k => signedRestart (Int32.ofNat (k + 1))⟩
      (run (step sampleConfig) sampleCloud (approvedRestarts n)) := by
  induction n with
  | zero => exact ⟨sampleCloud_fresh.audited.owned, rfl, _, _, rfl, rfl, rfl, rfl⟩
  | succ n ih =>
    have hrun : run (step sampleConfig) sampleCloud (approvedRestarts (n + 1)) =
        (step sampleConfig (step sampleConfig (run (step sampleConfig) sampleCloud
          (approvedRestarts n)) restartLamp).1 (decideLamp (Int32.ofNat (n + 1)) true)).1 := by
      rw [approvedRestarts, List.range_succ, List.flatMap_append, run_append]
      rfl
    have hnext := ih.issue.approve
    rw [hrun, List.range_succ, List.map_append, List.map_singleton, Int32.ofNat_add]
    exact hnext

theorem fixedOwner_approvedRestarts (n : ℕ) :
    ∀ e ∈ approvedRestarts n, FixedOwner "owner" "gw" e := by
  intro e he
  obtain ⟨k, -, he⟩ := List.mem_flatMap.mp he
  simp only [List.mem_cons, List.not_mem_nil, or_false] at he
  rcases he with rfl | rfl <;> trivial

/-- If the pending numbers ascend, so do the last two. -/
theorem lt_of_approvedRestarts {n : ℕ}
    (h : (((run (step sampleConfig) sampleCloud (approvedRestarts (n + 2))).pending "gw").map
      (·.seqNo)).Pairwise (· < ·)) : Int32.ofNat (n + 1) < Int32.ofNat (n + 2) := by
  have hpending :
      (run (step sampleConfig) sampleCloud (approvedRestarts (n + 2))).pending "gw" = _ :=
    congrArg Book.pending (lampBook_approvedRestarts (n + 2)).book
  rw [hpending, List.range_succ, List.range_succ] at h
  simp only [List.map_append, List.map_cons, List.map_nil, List.append_assoc] at h
  exact List.pairwise_pair.mp (List.pairwise_append.mp h).2.1

/-- With `2 ^ 31` commands the pending numbers no longer ascend: the last one is negative. -/
theorem approvedRestarts_not_ascending :
    Fresh "owner" "gw" sampleCloud ∧
    (∀ e ∈ approvedRestarts (2147483646 + 2), FixedOwner "owner" "gw" e) ∧
    ¬ (((run (step sampleConfig) sampleCloud (approvedRestarts (2147483646 + 2))).pending "gw").map
      (·.seqNo)).Pairwise (· < ·) :=
  ⟨sampleCloud_fresh, fixedOwner_approvedRestarts _,
    fun h => absurd (lt_of_approvedRestarts h) (by decide)⟩

end Atlas.Cloud
