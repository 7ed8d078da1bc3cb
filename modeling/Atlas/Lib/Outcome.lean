import Mathlib.Data.List.Basic

/-! # Computations that may stop early

A computation in `Except` ends with a value or stops with a reason. `Outcome E P` says that a value
satisfies `P` and a reason `E`. The rules follow the program: one for a sequence of two computations
(`Outcome.bind`), and one for a loop over a list, with an invariant of the elements already visited
(`Outcome.foldlM`). Where each element decides alone whether the loop stops at it, the reason is
that of the first element that stops it (`reason_foldlM`).
-/

universe u v

variable {ε : Type u} {α β : Type v} {E : ε → Prop} {P Q : α → Prop}

/-- The value satisfies `P`, or the reason to stop satisfies `E`. -/
def Outcome (E : ε → Prop) (P : α → Prop) : Except ε α → Prop
  | .ok a => P a
  | .error e => E e

namespace Outcome

theorem mono {x : Except ε α} (h : Outcome E P x) (hPQ : ∀ a, P a → Q a) : Outcome E Q x := by
  cases x with
  | ok a => exact hPQ a h
  | error e => exact h

theorem mono_error {E' : ε → Prop} {x : Except ε α} (h : Outcome E P x) (hE : ∀ e, E e → E' e) :
    Outcome E' P x := by
  cases x with
  | ok a => exact h
  | error e => exact hE e h

theorem bind {x : Except ε α} {R : β → Prop} {f : α → Except ε β} (h : Outcome E P x)
    (hf : ∀ a, P a → Outcome E R (f a)) : Outcome E R (x.bind f) := by
  cases x with
  | ok a => exact hf a h
  | error e => exact h

theorem map {x : Except ε α} {R : β → Prop} {f : α → β} (h : Outcome E P x)
    (hf : ∀ a, P a → R (f a)) : Outcome E R (x.map f) := by
  cases x with
  | ok a => exact hf a h
  | error e => exact h

/-- A loop over a list: each iteration takes the invariant of the elements before to the one of the
elements up to its own. -/
theorem foldlM {γ : Type*} {f : α → γ → Except ε α} {I : List γ → α → Prop} {a : α} (cs : List γ)
    (h0 : I [] a)
    (hstep : ∀ done c rest a, cs = done ++ c :: rest → I done a →
      Outcome E (I (done ++ [c])) (f a c)) :
    Outcome E (I cs) (cs.foldlM f a) := by
  suffices hsuffix : ∀ done rest a, cs = done ++ rest → I done a →
      Outcome E (I cs) (rest.foldlM f a) from hsuffix [] cs a rfl h0
  intro done rest
  induction rest generalizing done with
  | nil =>
    intro a hcs ha
    rw [List.append_nil] at hcs
    subst hcs
    exact ha
  | cons c rest ih =>
    intro a hcs ha
    rw [List.foldlM_cons]
    refine bind (hstep done c rest a hcs ha) fun a' ha' => ih (done ++ [c]) a' ?_ ha'
    rw [hcs, List.append_assoc, List.singleton_append]

end Outcome

/-- Why a computation has stopped. -/
def Except.reason : Except ε α → Option ε
  | .ok _ => none
  | .error e => some e

theorem Except.reason_map (x : Except ε α) (f : α → β) : (x.map f).reason = x.reason := by
  cases x <;> rfl

theorem Except.reason_eq_some_iff {x : Except ε α} {e : ε} : x.reason = some e ↔ x = .error e := by
  cases x <;> simp [reason]

theorem Except.reason_eq_none_iff {x : Except ε α} : x.reason = none ↔ ∃ a, x = .ok a := by
  cases x <;> simp [reason]

theorem reason_foldlM {γ : Type*} {f : α → γ → Except ε α} {stop : γ → Option ε}
    (hstop : ∀ a c, (f a c).reason = stop c) (cs : List γ) (a : α) :
    (cs.foldlM f a).reason = cs.findSome? stop := by
  induction cs generalizing a with
  | nil => rfl
  | cons c cs ih =>
    rw [List.foldlM_cons, List.findSome?_cons, ← hstop a c]
    cases f a c with
    | ok a' => exact ih a'
    | error e => rfl
