import Atlas.Cloud.OwnerApproval
import Mathlib.Data.Nat.Basic

/-! # Deleting a client from a stale document

The controller reads the document of the gateway before it calls `deleteClient`, which saves what
was read. Requests served in between are undone by that save: the counter goes back, and the pending
list is the one of the read. The counter, the issued numbers and the pending list are safe exactly
when every deletion saves a document that is still current in these two fields, and no command is
issued with the largest number.

Reference: `AtlasWebController.deleteGateway` (client), `AtlasGatewayServiceImpl.deleteClient`.
-/

namespace Atlas.Cloud

open EventMachine

variable {cfg : Config} {s s' : State} {e : Event} {ws : List Effect} {i : String}

/-- The step saves, for a deletion, a document whose counter or pending list is out of date. -/
def savesStale (i : String) (s : State) : Event → Bool
  | .deleteClient k =>
    s.deletions[k]?.any fun (gateway, _) => gateway.identity = i &&
      (gateway.globalCmdSeqNo ≠ s.counter i || gateway.gatewayPendingCmds ≠ s.pending i)
  | _ => false

/-- The step issues a command with the largest number. -/
def issuesLast (cfg : Config) (i : String) (s : State) : Event → Bool
  | .sendCommandToClient gi ci command =>
    gi = i && (issuing cfg gi ci command s).any fun x => x.1.globalCmdSeqNo = Int32.maxValue
  | _ => false

/-- The counter does not go back, and a deletion leaves the pending list alone. -/
def KeepsNumbers (cfg : Config) (i : String) (s : State) (e : Event) : Prop :=
  s.counter i ≤ (step cfg s e).1.counter i ∧
    (e.deletes = true → (step cfg s e).1.pending i = s.pending i)

instance (cfg : Config) (i : String) (s : State) (e : Event) :
    Decidable (KeepsNumbers cfg i s e) := inferInstanceAs (Decidable (_ ∧ _))

/-- The document is stored, and no deletion has read a larger counter. -/
structure SnapshotsBelow (i : String) (s : State) : Prop where
  document : ∃ gateway, s.gateways.find? i = some gateway
  snapshots : ∀ x ∈ s.deletions, x.1.identity = i → x.1.globalCmdSeqNo ≤ s.counter i

/-! ## What a step does to the counter -/

/-- Saving a changed document with the counter it had. -/
theorem State.counter_saveChanged {gi : String} {gateway gateway' : AtlasGateway}
    (hg : s.gateways.find? gi = some gateway) (hid : gateway'.identity = gateway.identity)
    (hseqNo : gateway'.globalCmdSeqNo = gateway.globalCmdSeqNo) :
    (s.saveGateway gateway').counter i = s.counter i := by
  rw [counter_saveGateway]
  split
  case isTrue hi =>
    obtain rfl : gateway.identity = gi := Table.key_of_find? hg
    rw [hseqNo, hi, hid, counter_of_find? hg]
  case isFalse => rfl

theorem State.counter_enqueueOwnerCommand (gi o : String) (command : AtlasClientCommandDto) :
    (enqueueOwnerCommand gi o command s).state.counter i = s.counter i := by
  unfold counter
  rw [gateways_enqueueOwnerCommand]

/-- The counter after a step and the numbers it issues: nothing changes, a command takes the next
number, or a deletion restores the counter it has read. -/
inductive NumberStep (cfg : Config) (i : String) (s : State) (e : Event) : Int32 → List Int32 → Prop
  | same : NumberStep cfg i s e (s.counter i) []
  | issue (h : s.counter i = Int32.maxValue → issuesLast cfg i s e = true) :
      NumberStep cfg i s e (s.counter i + 1) [s.counter i]
  | restore {k : ℕ} {gateway : AtlasGateway} {ci : String} (he : e = .deleteClient k)
      (h : s.deletions[k]? = some (gateway, ci)) (hid : gateway.identity = i) :
      NumberStep cfg i s e gateway.globalCmdSeqNo []

theorem numberStep_issue {gi ci command : String} {gateway : AtlasGateway} {client : AtlasClient}
    {type : AtlasClientCommandType} {c : AtlasClientCommandDto} {n : Int32}
    (h : issuing cfg gi ci command s = some (gateway, client, type))
    (hc : c.seqNo = gateway.globalCmdSeqNo)
    (hn : n = if i = gateway.identity then gateway.globalCmdSeqNo + 1 else s.counter i) :
    NumberStep cfg i s (.sendCommandToClient gi ci command) n
      ((issued i [.issued gi c]).map (·.seqNo)) := by
  obtain ⟨hg, -, -⟩ := issuing_eq_some_iff.mp h
  obtain rfl : gateway.identity = gi := Table.key_of_find? hg
  rw [issued_singleton]
  by_cases hi : i = gateway.identity
  · subst hi
    have hcounter := State.counter_of_find? hg
    rw [hn, if_pos rfl, if_pos rfl, List.map_singleton, hc, ← hcounter]
    refine .issue fun hmax => ?_
    simp [issuesLast, h, ← hcounter, hmax]
  · rw [hn, if_neg hi, if_neg (Ne.symm hi)]
    exact .same

theorem Transition.numberStep (h : Transition cfg s e ws s') :
    NumberStep cfg i s e (s'.counter i) ((issued i ws).map (·.seqNo)) := by
  have hsame : ∀ {n : Int32}, n = s.counter i → NumberStep cfg i s e n [] :=
    fun hn => hn ▸ .same
  cases h with
  | refused | newOwner | read => exact .same
  | askOwner h howner =>
    refine numberStep_issue h rfl ((State.counter_saveGateway ..).trans ?_)
    rw [State.counter_enqueueOwnerCommand]
    rfl
  | queue h howner => exact numberStep_issue h rfl (State.counter_saveGateway ..)
  | approve h happroved | reject h hrejected =>
    exact hsame (State.counter_saveChanged (Decision.valid_of_deciding h).gateway rfl rfl)
  | ack h => exact hsame (State.counter_saveChanged (acknowledging_eq_some h).1 rfl rfl)
  | done h => exact hsame (State.counter_saveChanged (executing_eq_some h).1 rfl rfl)
  | touch h hfind hsame' howner hshown =>
    exact hsame (State.counter_saveChanged hfind hsame'.identity hsame'.seqNo)
  | tick b =>
    exact hsame (State.counter_keepaliveTask b s i)
  | @delete k gateway ci h =>
    have hcounter : (s.saveGateway (gateway.removeClient ci)).counter i =
      if i = gateway.identity then gateway.globalCmdSeqNo else s.counter i :=
        State.counter_saveGateway ..
    by_cases hi : i = gateway.identity
    · rw [if_pos hi] at hcounter
      exact hcounter ▸ .restore rfl h hi.symm
    · rw [if_neg hi] at hcounter
      exact hsame hcounter

/-! ## Runs -/

theorem State.exists_saveGateway (gateway : AtlasGateway)
    (hdoc : ∃ gateway, s.gateways.find? i = some gateway) :
    ∃ gateway', (s.saveGateway gateway).gateways.find? i = some gateway' := by
  rw [find?_saveGateway]
  split
  · exact ⟨gateway, rfl⟩
  · exact hdoc

/-- No step removes a document. -/
theorem Transition.document (h : Transition cfg s e ws s')
    (hdoc : ∃ gateway, s.gateways.find? i = some gateway) :
    ∃ gateway, s'.gateways.find? i = some gateway := by
  cases h with
  | refused | newOwner | read => exact hdoc
  | askOwner h howner => exact State.exists_saveGateway _ (by simpa using hdoc)
  | queue | approve | reject | ack | done | touch | delete =>
    exact State.exists_saveGateway _ hdoc
  | tick b =>
    obtain ⟨gateway, hg⟩ := hdoc
    exact ⟨keepaliveGateway b gateway, by rw [State.find?_keepaliveTask, hg, Option.map_some]⟩

/-- A deletion holds a document that was stored when it was read. -/
theorem Transition.mem_deletions (h : Transition cfg s e ws s') {x : AtlasGateway × String}
    (hx : x ∈ s'.deletions) : x ∈ s.deletions ∨ s.gateways.find? x.1.identity = some x.1 := by
  cases h with
  | refused | newOwner | queue | approve | reject | ack | done | touch | tick => exact .inl hx
  | askOwner h howner => exact .inl (by simpa [State.saveGateway] using hx)
  | @read gi ci gateway hfind =>
    rcases List.mem_append.mp hx with hx | hx
    · exact .inl hx
    · obtain rfl := List.mem_singleton.mp hx
      exact .inr (Table.key_of_find? hfind ▸ hfind)
  | delete h => exact .inl (List.mem_of_mem_eraseIdx hx)

theorem SnapshotsBelow.step (hs : SnapshotsBelow i s) (h : KeepsNumbers cfg i s e) :
    SnapshotsBelow i (step cfg s e).1 := by
  have ht := step_transition cfg s e
  refine ⟨ht.document hs.document, fun x hx hid => ?_⟩
  rcases ht.mem_deletions hx with hx | hx
  · exact Int32.le_trans (hs.snapshots x hx hid) h.1
  · rw [hid] at hx
    exact State.counter_of_find? hx ▸ h.1


/-- A deletion restores the counter and the pending list it has read. -/
theorem step_deleteClient (cfg : Config) {k : ℕ} {gateway : AtlasGateway} {ci : String}
    (h : s.deletions[k]? = some (gateway, ci)) :
    (step cfg s (.deleteClient k)).1.counter gateway.identity = gateway.globalCmdSeqNo ∧
      (step cfg s (.deleteClient k)).1.pending gateway.identity = gateway.gatewayPendingCmds := by
  have hstep : (step cfg s (.deleteClient k)).1 =
      { s.saveGateway (gateway.removeClient ci) with deletions := s.deletions.eraseIdx k } := by
    simp [step, Handled.out, deleteClient, h]
  rw [hstep]
  exact ⟨(State.counter_saveGateway ..).trans (if_pos rfl),
    (State.pending_saveGateway ..).trans (if_pos rfl)⟩

/-- Where the counter does not go back, a deletion saves a document that is current. -/
theorem KeepsNumbers.savesStale_eq_false (h : KeepsNumbers cfg i s e) (hs : SnapshotsBelow i s) :
    savesStale i s e = false := by
  cases e with
  | deleteClient k =>
    cases hk : s.deletions[k]? with
    | none => simp [savesStale, hk]
    | some x =>
      obtain ⟨gateway, ci⟩ := x
      by_cases hid : gateway.identity = i
      · subst hid
        obtain ⟨hcounter, hpending⟩ := step_deleteClient cfg hk
        have hle := hs.snapshots _ (List.mem_of_getElem? hk) rfl
        have hseqNo : gateway.globalCmdSeqNo = s.counter gateway.identity :=
          Int32.le_antisymm hle (hcounter ▸ h.1)
        have hsame : gateway.gatewayPendingCmds = s.pending gateway.identity :=
          hpending.symm.trans (h.2 rfl)
        simp [savesStale, hk, hseqNo, hsame]
      · simp [savesStale, hk, hid]
  | _ => rfl

/-- A command that is issued takes the counter one up. -/
theorem counter_step_of_issuing {ci command : String} {gateway : AtlasGateway}
    {client : AtlasClient} {type : AtlasClientCommandType}
    (h : issuing cfg i ci command s = some (gateway, client, type)) :
    (step cfg s (.sendCommandToClient i ci command)).1.counter i = gateway.globalCmdSeqNo + 1 := by
  have hid : i = gateway.identity := (Table.key_of_find? (issuing_eq_some_iff.mp h).1).symm
  have ht := step_transition cfg s (.sendCommandToClient i ci command)
  generalize (step cfg s (.sendCommandToClient i ci command)).1 = s', ledger _ = ws at ht
  cases ht with
  | refused hacts | touch hacts => simp [acts, h] at hacts
  | askOwner h' _ | queue h' _ =>
    obtain ⟨rfl, rfl, rfl⟩ : _ ∧ _ ∧ _ := by simpa [h] using h'
    exact (State.counter_saveGateway ..).trans (if_pos hid)

theorem KeepsNumbers.issuesLast_eq_false (h : KeepsNumbers cfg i s e) :
    issuesLast cfg i s e = false := by
  cases e with
  | sendCommandToClient gi ci command =>
    by_cases hgi : gi = i
    · subst hgi
      cases hissue : issuing cfg gi ci command s with
      | none => simp [issuesLast, hissue]
      | some x =>
        obtain ⟨gateway, client, type⟩ := x
        have hle := h.1
        rw [counter_step_of_issuing hissue,
          State.counter_of_find? (issuing_eq_some_iff.mp hissue).1] at hle
        have hne : gateway.globalCmdSeqNo ≠ Int32.maxValue := fun hmax => by
          rw [hmax] at hle
          exact absurd hle (by decide)
        simp [issuesLast, hissue, hne]
    · simp [issuesLast, hgi]
  | _ => rfl

/-- The place of a number among the Java integers. -/
def rank (n : Int32) : ℕ := (n.toInt + 2147483648).toNat

theorem toInt_add_one {n : Int32} (h : n ≠ Int32.maxValue) : (n + 1).toInt = n.toInt + 1 := by
  have hlt := n.toInt_lt
  have hle := n.le_toInt
  have hne : n.toInt ≠ 2147483647 := fun heq => h (Int32.toInt_inj.mp (heq.trans (by decide)))
  have hone : (1 : Int32).toInt = 1 := by decide
  rw [Int32.toInt_add, hone, Int.bmod_eq_of_le] <;> omega

theorem rank_add_one {n : Int32} (h : n ≠ Int32.maxValue) : rank (n + 1) = rank n + 1 := by
  have hle := n.le_toInt
  rw [rank, rank, toInt_add_one h]
  omega

/-- The place behind the number an effect issues for the gateway, where the counter then stands. -/
def Effect.issuedRank? (i : String) (w : Effect) : Option ℕ :=
  (w.issued? i).map (rank ·.seqNo + 1)

theorem filterMap_issuedRank? (i : String) (ws : List Effect) :
    ws.filterMap (Effect.issuedRank? i) = ((issued i ws).map (·.seqNo)).map (rank · + 1) := by
  simp only [issued, List.map_filterMap, Effect.issuedRank?, Option.map_map]
  rfl

/-- Where no document is stale and no number is the last, a step keeps the counter and issues the
next number. -/
theorem numbers_of_current (hstale : savesStale i s e = false)
    (hlast : issuesLast cfg i s e = false) :
    s.counter i ≤ (step cfg s e).1.counter i ∧
      Ascends (rank (s.counter i)) ((step cfg s e).2.filterMap (Effect.issuedRank? i))
        (rank ((step cfg s e).1.counter i)) := by
  have hn := (step_transition cfg s e).numberStep (i := i)
  rw [filterMap_issuedRank?, ← issued_ledger]
  generalize (step cfg s e).1.counter i = n, (issued i _).map _ = ns at hn ⊢
  cases hn with
  | same => exact ⟨Int32.le_refl _, .refl _⟩
  | issue h =>
    have hne : s.counter i ≠ Int32.maxValue := fun hmax => by simp [h hmax] at hlast
    have hnext := toInt_add_one hne
    refine ⟨Int32.le_iff_toInt_le.mpr (by omega), ?_⟩
    rw [rank_add_one hne, List.map_singleton]
    exact .single (Nat.lt_succ_self _)
  | @restore k gateway ci he h hid =>
    subst he hid
    have hcounter : gateway.globalCmdSeqNo = s.counter gateway.identity := by
      simp only [savesStale, h, Option.any_some] at hstale
      grind
    rw [hcounter]
    exact ⟨Int32.le_refl _, .refl _⟩

/-- A deletion that is not stale leaves the pending list alone. -/
theorem pending_step_of_deletes (cfg : Config) (he : e.deletes = true)
    (hstale : savesStale i s e = false) : (step cfg s e).1.pending i = s.pending i := by
  cases e with
  | deleteClient k => ?_
  | _ => cases he
  cases hk : s.deletions[k]? with
  | none => simp [step, Handled.out, deleteClient, hk]
  | some x =>
    obtain ⟨gateway, ci⟩ := x
    by_cases hid : gateway.identity = i
    · subst hid
      rw [(step_deleteClient cfg hk).2]
      simp only [savesStale, hk, Option.any_some] at hstale
      grind
    · simp only [step, Handled.out, deleteClient, hk, synchronized_state]
      exact (State.pending_saveGateway ..).trans (if_neg (Ne.symm hid))

variable {es : List Event}

/-- On one document, over every interleaving: the counter never goes back, deletions leave the
pending list alone and no number is issued twice, exactly when every deletion saves a document whose
counter and pending list are current and no command is issued with the largest number. -/
theorem numbers_safe_iff (hdoc : ∃ gateway, s.gateways.find? i = some gateway)
    (hdel : s.deletions = []) :
    (AllSteps (step cfg) (KeepsNumbers cfg i) s es ∧
      ((issued i (trace (step cfg) s es)).map (·.seqNo)).Nodup) ↔
    AllSteps (step cfg)
      (fun s e => savesStale i s e = false ∧ issuesLast cfg i s e = false) s es := by
  constructor
  · rintro ⟨h, -⟩
    exact allSteps_of_invariant (fun s e hs hP => SnapshotsBelow.step hs hP)
      (fun s e hs hP => ⟨hP.savesStale_eq_false hs, hP.issuesLast_eq_false⟩)
      (⟨hdoc, by simp [hdel]⟩ : SnapshotsBelow i s) h
  · intro h
    refine ⟨h.mono fun s e hP => ⟨(numbers_of_current hP.1 hP.2).1,
      fun he => pending_step_of_deletes cfg he hP.1⟩, ?_⟩
    have hasc := ascends_of_allSteps (I := fun _ => True)
      (m := fun s : State => rank (s.counter i)) (fun _ _ _ _ => trivial)
      (fun s e _ hP => (numbers_of_current hP.1 hP.2).2) trivial h
    have hnodup := hasc.nodup
    rw [filterMap_issuedRank?] at hnodup
    exact hnodup.of_map _

/-- A deletion that was read after the command before it. -/
theorem numbers_safe_current :
    (AllSteps (step sampleConfig) (KeepsNumbers sampleConfig "gw") sampleCloud
        [restartLamp, .readForDeletion "gw" "door", .deleteClient 0, restartLamp] ∧
      ((issued "gw" (trace (step sampleConfig) sampleCloud
        [restartLamp, .readForDeletion "gw" "door", .deleteClient 0, restartLamp])).map
          (·.seqNo)).Nodup) :=
  (numbers_safe_iff ⟨sampleGateway, rfl⟩ rfl).mpr (by decide)

/-- A command issued between the read of a deletion and its save: the counter goes back, and the
number is issued again. -/
theorem staleDeletion_reissues :
    sampleCloud.deletions = [] ∧
    (issued "gw" (trace (step sampleConfig) sampleCloud
      [.readForDeletion "gw" "door", restartLamp, .deleteClient 0, restartLamp])).map (·.seqNo) =
        [1, 1] ∧
    ¬ AllSteps (step sampleConfig) (KeepsNumbers sampleConfig "gw") sampleCloud
      [.readForDeletion "gw" "door", restartLamp, .deleteClient 0, restartLamp] := by
  decide

end Atlas.Cloud
