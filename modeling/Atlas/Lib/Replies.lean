import Atlas.Lib.EventMachine
import Mathlib.Data.List.Nodup
import Mathlib.Data.List.Perm.Subperm

/-! # Replies without a correlation

Somebody asks, waits for a reply, and gives up after a time. The requests and the replies to them
form one line: a request enters at the end, and a reply that is taken leaves from the front. A reply
does not say which request it belongs to, so whoever waits takes the first one, which may belong to
a request that was given up before.

As long as nothing is lost and nothing is overtaken, a reply is late by exactly the number of
requests that were given up so far (`Accounts.answers`), for the rest of the run.
-/

namespace Atlas.Replies

open EventMachine

/-- What is seen of a run: a reply to one request is taken for the reply to another, a request is
given up, or the line loses its order. -/
inductive Out where
  | taken (ask owner : ℕ)
  | timedOut (ask : ℕ)
  | disturbed
deriving DecidableEq

/-- The number of requests, the one that is waited for, and the line, front first. -/
structure State where
  asked : ℕ
  waiting : Option ℕ
  line : List ℕ

/-- Nothing was asked. -/
def State.start : State := ⟨0, none, []⟩

/-- What can happen. Whoever waits does not ask. -/
inductive Move : State → List Out → State → Prop where
  | ask {s : State} (h : s.waiting = none) :
      Move s [] ⟨s.asked + 1, some s.asked, s.line ++ [s.asked]⟩
  | take {s : State} {k m : ℕ} {rest : List ℕ} (h : s.waiting = some k)
      (hline : s.line = m :: rest) :
      Move s [.taken k m] ⟨s.asked, none, rest⟩
  | timeOut {s : State} {k : ℕ} (h : s.waiting = some k) :
      Move s [.timedOut k] { s with waiting := none }
  | disturb {s : State} {line : List ℕ} (h : List.Subperm line s.line) :
      Move s [.disturbed] { s with line := line }

/-- What is lost or overtaken at once, one output for each. -/
theorem path_disturbed {s : State} {line : List ℕ} (h : List.Subperm line s.line) {n : ℕ}
    (hnone : n = 0 → line = s.line) :
    Path Move s (List.replicate n .disturbed) { s with line := line } := by
  induction n with
  | zero =>
    rw [hnone rfl]
    exact .refl _
  | succ n ih =>
    rw [List.replicate_succ']
    by_cases hzero : n = 0
    · subst hzero
      exact Path.single (.disturb h)
    · have hstay : Move { s with line := line } [.disturbed] { s with line := line } :=
        .disturb (List.Subperm.refl _)
      exact (ih fun h => absurd h hzero).trans (Path.single hstay)

/-- The requests whose replies were taken. -/
def owners (ws : List Out) : List ℕ :=
  ws.filterMap fun
    | .taken _ owner => some owner
    | _ => none

/-- How many requests were given up. -/
def timeOuts (ws : List Out) : ℕ :=
  ws.countP fun
    | .timedOut _ => true
    | _ => false

@[simp] theorem owners_append (ws ws' : List Out) : owners (ws ++ ws') = owners ws ++ owners ws' :=
  List.filterMap_append

@[simp] theorem timeOuts_append (ws ws' : List Out) :
    timeOuts (ws ++ ws') = timeOuts ws + timeOuts ws' :=
  List.countP_append

/-- What can be said of a reply that is taken after these outputs. -/
structure Answer (ws : List Out) (ask owner : ℕ) : Prop where
  /-- It is not the reply to a later request. -/
  le : owner ≤ ask
  /-- It was not taken before. -/
  fresh : owner ∉ owners ws
  /-- It is the right one if no request was given up. -/
  own : timeOuts ws = 0 → owner = ask
  /-- It is late by the requests that were given up if nothing was lost or overtaken. -/
  late : .disturbed ∉ ws → owner + timeOuts ws = ask

/-- What holds of a state and the outputs so far. -/
structure Accounts (s : State) (ws : List Out) : Prop where
  asked : s.asked = (owners ws).length + timeOuts ws + s.waiting.toList.length
  waiting : ∀ k ∈ s.waiting, k + 1 = s.asked
  nodup : (owners ws ++ s.line).Nodup
  lt : ∀ m ∈ owners ws ++ s.line, m < s.asked
  own : timeOuts ws = 0 → ∀ m ∈ s.line, s.waiting = some m
  ordered : .disturbed ∉ ws → s.line = List.range' (owners ws).length (s.asked - (owners ws).length)
  answers : ∀ pre k m, pre ++ [.taken k m] <+: ws → Answer pre k m

theorem accounts_start : Accounts .start [] where
  asked := rfl
  waiting _ h := nomatch h
  nodup := List.nodup_nil
  lt _ h := nomatch h
  own _ _ h := nomatch h
  ordered _ := rfl
  answers _ _ _ h := by simp at h

/-- Outputs that take no reply leave what was said of replies. -/
theorem answers_append {ws : List Out} {w : Out}
    (h : ∀ pre k m, pre ++ [.taken k m] <+: ws → Answer pre k m)
    (hw : ∀ k m, w = .taken k m → Answer ws k m) (pre : List Out) (k m : ℕ)
    (hpre : pre ++ [.taken k m] <+: ws ++ [w]) : Answer pre k m := by
  rcases List.prefix_concat_iff.mp hpre with heq | hold
  · obtain ⟨rfl, hlast⟩ := List.append_inj' heq rfl
    exact hw k m (List.singleton_inj.mp hlast).symm
  · exact h pre k m hold

namespace Accounts

variable {s : State} {ws : List Out} (h : Accounts s ws)

include h

theorem length_owners_le : (owners ws).length ≤ s.asked := by
  have := h.asked
  omega

theorem ask (hidle : s.waiting = none) :
    Accounts ⟨s.asked + 1, some s.asked, s.line ++ [s.asked]⟩ ws where
  asked := by
    have := h.asked
    simp only [hidle, Option.toList_none, List.length_nil, Option.toList_some,
      List.length_singleton] at this ⊢
    omega
  waiting := by
    rintro k ⟨⟩
    rfl
  nodup := by
    rw [← List.append_assoc, ← List.concat_eq_append]
    exact h.nodup.concat fun hmem => Nat.lt_irrefl _ (h.lt s.asked hmem)
  lt m hm := by
    rw [← List.append_assoc, List.mem_append, List.mem_singleton] at hm
    rcases hm with hm | rfl
    · exact Nat.lt_succ_of_lt (h.lt m hm)
    · exact Nat.lt_succ_self _
  own hzero m hm := by
    rcases List.mem_append.mp hm with hm | hm
    · exact absurd ((h.own hzero m hm).symm.trans hidle) (Option.some_ne_none m)
    · rw [List.mem_singleton.mp hm]
  ordered hordered := by
    have hle := h.length_owners_le
    rw [h.ordered hordered, Nat.succ_sub hle, List.range'_1_concat, Nat.add_sub_cancel' hle]
  answers := h.answers

/-- In order, the front of the line is the first request that has not been answered. -/
theorem line_eq {m : ℕ} {rest : List ℕ} (hline : s.line = m :: rest) (hordered : .disturbed ∉ ws) :
    m = (owners ws).length ∧
      rest = List.range' ((owners ws).length + 1) (s.asked - ((owners ws).length + 1)) := by
  have hfront := h.ordered hordered
  rw [hline] at hfront
  obtain ⟨n, hn⟩ : ∃ n, s.asked - (owners ws).length = n + 1 := by
    have hlength := congrArg List.length hfront
    rw [List.length_cons, List.length_range'] at hlength
    exact ⟨rest.length, hlength.symm⟩
  rw [hn, List.range'_succ] at hfront
  obtain ⟨hm, hrest⟩ := List.cons.inj hfront
  refine ⟨hm, hrest.trans ?_⟩
  rw [show n = s.asked - ((owners ws).length + 1) by omega]

theorem answer {k m : ℕ} {rest : List ℕ} (hwait : s.waiting = some k) (hline : s.line = m :: rest) :
    Answer ws k m := by
  have hmem : m ∈ s.line := hline ▸ List.mem_cons_self
  have hk := h.waiting k hwait
  refine ⟨?_, fun howner => ?_, fun hzero => ?_, fun hordered => ?_⟩
  · have hlt := h.lt m (List.mem_append_right _ hmem)
    omega
  · exact List.disjoint_of_nodup_append h.nodup howner hmem
  · exact Option.some.inj ((h.own hzero m hmem).symm.trans hwait)
  · have hasked := h.asked
    rw [hwait, Option.toList_some, List.length_singleton] at hasked
    have := (h.line_eq hline hordered).1
    omega

theorem take {k m : ℕ} {rest : List ℕ} (hwait : s.waiting = some k) (hline : s.line = m :: rest) :
    Accounts ⟨s.asked, none, rest⟩ (ws ++ [.taken k m]) := by
  have howners : owners (ws ++ [.taken k m]) ++ rest = owners ws ++ s.line := by
    rw [owners_append, hline, List.append_assoc]
    rfl
  have hnodup := h.nodup.of_append_right
  rw [hline, List.nodup_cons] at hnodup
  constructor
  case asked =>
    have hasked := h.asked
    rw [hwait] at hasked
    simp only [owners_append, timeOuts_append, List.length_append]
    exact hasked.trans (Nat.add_right_comm _ _ _)
  case waiting => exact fun _ hnone => nomatch hnone
  case nodup => exact howners ▸ h.nodup
  case lt => exact howners ▸ h.lt
  case own =>
    -- without a timeout the line held one request at most
    intro hzero m' hm'
    rw [timeOuts_append, Nat.add_eq_zero_iff] at hzero
    have hfirst := h.own hzero.1 m (hline ▸ List.mem_cons_self)
    have hother := h.own hzero.1 m' (hline ▸ List.mem_cons_of_mem m hm')
    obtain rfl : m = m' := Option.some.inj (hfirst.symm.trans hother)
    exact absurd hm' hnodup.1
  case ordered =>
    intro hordered
    rw [owners_append, List.length_append]
    exact (h.line_eq hline fun hmem => hordered (List.mem_append_left _ hmem)).2
  case answers =>
    refine answers_append h.answers ?_
    rintro _ _ ⟨⟩
    exact h.answer hwait hline

theorem timeOut {k : ℕ} (hwait : s.waiting = some k) :
    Accounts { s with waiting := none } (ws ++ [.timedOut k]) := by
  have howners : owners (ws ++ [.timedOut k]) = owners ws := by
    rw [owners_append]
    exact List.append_nil _
  constructor
  case asked =>
    have hasked := h.asked
    rw [hwait] at hasked
    rw [howners, timeOuts_append]
    exact hasked
  case waiting => exact fun _ hnone => nomatch hnone
  case nodup => exact howners ▸ h.nodup
  case lt => exact howners ▸ h.lt
  case own =>
    intro hzero
    rw [timeOuts_append] at hzero
    exact absurd hzero (Nat.succ_ne_zero _)
  case ordered =>
    intro hordered
    rw [howners]
    exact h.ordered fun hmem => hordered (List.mem_append_left _ hmem)
  case answers => exact answers_append h.answers fun _ _ hne => nomatch hne

theorem disturb {line : List ℕ} (hline : List.Subperm line s.line) :
    Accounts { s with line := line } (ws ++ [.disturbed]) := by
  have howners : owners (ws ++ [.disturbed]) = owners ws := by
    rw [owners_append]
    exact List.append_nil _
  have hsub : List.Subperm (owners ws ++ line) (owners ws ++ s.line) :=
    (List.subperm_append_left _).mpr hline
  constructor
  case asked =>
    rw [howners, timeOuts_append]
    exact h.asked
  case waiting => exact h.waiting
  case nodup =>
    rw [howners]
    obtain ⟨l, hperm, hsublist⟩ := hsub
    exact hperm.nodup_iff.mp (h.nodup.sublist hsublist)
  case lt =>
    rw [howners]
    exact fun m hm => h.lt m (hsub.subset hm)
  case own =>
    intro hzero m hm
    rw [timeOuts_append] at hzero
    exact h.own hzero m (hline.subset hm)
  case ordered => exact fun hordered => absurd (List.mem_append_right _ List.mem_cons_self) hordered
  case answers => exact answers_append h.answers fun _ _ hne => nomatch hne

end Accounts

/-- Every move keeps the accounts. -/
theorem Accounts.move {s s' : State} {ws ws' : List Out} (hmove : Move s ws' s')
    (h : Accounts s ws) : Accounts s' (ws ++ ws') := by
  cases hmove with
  | ask hidle => exact (List.append_nil ws).symm ▸ h.ask hidle
  | take hwait hline => exact h.take hwait hline
  | timeOut hwait => exact h.timeOut hwait
  | disturb hline => exact h.disturb hline

/-- In every run, every reply that is taken is an earlier one that nobody has taken, the right one
as long as no request was given up, and late by the number of such requests as long as nothing was
lost or overtaken. -/
theorem answer_of_path {s : State} {ws : List Out} (p : Path Move .start ws s) {pre : List Out}
    {k m : ℕ} (h : pre ++ [.taken k m] <+: ws) : Answer pre k m :=
  (p.accumulates Accounts.move accounts_start).answers pre k m h

end Atlas.Replies
