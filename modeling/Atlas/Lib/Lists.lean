import Mathlib.Data.List.Nodup

/-! # Lists edited at one place

A list whose elements have pairwise different keys is edited at exactly one place when the elements
with a given key are changed or dropped. A loop over a list that may exit early keeps its invariant.
-/

namespace List

universe u v

variable {α κ : Type*}

/-- Erasing the `i`-th element, with the two parts around it. -/
theorem exists_append_cons_of_getElem? {l : List α} {i : ℕ} {a : α} (h : l[i]? = some a) :
    ∃ l₁ l₂, l = l₁ ++ a :: l₂ ∧ l.eraseIdx i = l₁ ++ l₂ := by
  obtain ⟨hlt, rfl⟩ := getElem?_eq_some_iff.mp h
  refine ⟨l.take i, l.drop (i + 1), ?_, eraseIdx_eq_take_drop_succ l i⟩
  rw [← drop_eq_getElem_cons hlt, take_append_drop]

/-- What every step of a loop with an early exit preserves holds when the loop comes to its end. -/
theorem foldlM_option_preserves {β : Type*} {f : β → α → Option β} {I : β → Prop}
    (hstep : ∀ b a b', I b → f b a = some b' → I b') {l : List α} {b b' : β}
    (h : l.foldlM f b = some b') (hb : I b) : I b' := by
  induction l generalizing b with
  | nil =>
    cases h
    exact hb
  | cons a l ih =>
    rw [foldlM_cons] at h
    obtain ⟨next, hnext, hrest⟩ := Option.bind_eq_some_iff.mp h
    exact ih hrest (hstep b a next hb hnext)

/-- Two nested loops are one loop over all elements. -/
theorem foldlM_flatten {m : Type u → Type v} [Monad m] [LawfulMonad m] {β : Type u}
    (f : β → α → m β) (ls : List (List α)) (b : β) :
    ls.flatten.foldlM f b = ls.foldlM (fun b l => l.foldlM f b) b := by
  induction ls generalizing b with
  | nil => rfl
  | cons l ls ih => simp [ih]

variable {key : α → κ} {l₁ l₂ : List α} {a : α}

/-- The first elements after the one behind them was written. -/
theorem take_set_self {l : List α} {n : ℕ} (h : n < l.length) (a : α) :
    (l.set n a).take (n + 1) = l.take n ++ [a] := by
  rw [take_succ_eq_append_getElem (by rwa [length_set]), take_set_of_le (Nat.le_refl n),
    getElem_set_self]

/-- An element that is not among those appended is where it was. -/
theorem prefix_of_notMem {pre l l' : List α} {a : α} (h : pre ++ [a] <+: l ++ l') (ha : a ∉ l') :
    pre ++ [a] <+: l := by
  rcases prefix_or_prefix_of_prefix h (prefix_append l l') with hshort | hlong
  · exact hshort
  · rcases prefix_concat_iff.mp hlong with rfl | ⟨t, rfl⟩
    · exact prefix_refl _
    · rw [append_assoc, prefix_append_right_inj] at h
      exact absurd (h.subset (mem_append_right t mem_cons_self)) ha

/-- An element is replaced by one that looks the same. -/
theorem map_set_of_getElem? {β : Type*} {l : List α} {i : ℕ} {a b : α} {f : α → β}
    (h : l[i]? = some a) (hb : f b = f a) : (l.set i b).map f = l.map f := by
  obtain ⟨hlt, rfl⟩ := getElem?_eq_some_iff.mp h
  rw [map_set, hb, ← getElem_map f (h := by rwa [length_map]), set_getElem_self]

/-- With different keys, no other element has the key of `a`. -/
theorem key_ne_of_nodup (h : ((l₁ ++ a :: l₂).map key).Nodup) :
    (∀ b ∈ l₁, key b ≠ key a) ∧ ∀ b ∈ l₂, key b ≠ key a := by
  simp only [map_append, map_cons, nodup_append, nodup_cons, mem_map, mem_cons] at h
  refine ⟨fun b hb => h.2.2 _ ⟨b, hb, rfl⟩ _ (.inl rfl), fun b hb heq => ?_⟩
  exact h.2.1.1 ⟨b, hb, heq⟩

/-- A new element at the end keeps the elements different. -/
theorem nodup_append_singleton {l : List α} (h : l.Nodup) (ha : a ∉ l) : (l ++ [a]).Nodup := by
  rw [← concat_eq_append]
  exact h.concat ha

/-- A new key at the end keeps the keys different. -/
theorem nodup_map_concat {l : List α} (h : (l.map key).Nodup) (ha : ∀ b ∈ l, key b ≠ key a) :
    ((l ++ [a]).map key).Nodup := by
  rw [map_append, map_singleton]
  refine nodup_append_singleton h fun hmem => ?_
  obtain ⟨b, hb, heq⟩ := mem_map.mp hmem
  exact ha b hb heq

variable [DecidableEq κ]

/-- A search among the elements with the key of `a` comes to `a` only. -/
theorem find?_key_of_nodup {l : List α} (h : (l.map key).Nodup) (ha : a ∈ l) (q : α → Bool) :
    l.find? (fun b => key b = key a && q b) = if q a then some a else none := by
  obtain ⟨l₁, l₂, rfl⟩ := append_of_mem ha
  obtain ⟨h₁, h₂⟩ := key_ne_of_nodup h
  have hnone : ∀ {l : List α}, (∀ b ∈ l, key b ≠ key a) →
      l.find? (fun b => key b = key a && q b) = none := by
    intro l hl
    rw [find?_eq_none]
    intro b hb
    simp [hl b hb]
  rw [find?_append, hnone h₁, Option.none_or, find?_cons, hnone h₂]
  cases q a <;> simp

/-- Changing the elements with the key of `a` changes `a` only. -/
theorem map_ite_key_of_nodup (f : α → α) (h : ((l₁ ++ a :: l₂).map key).Nodup) :
    (l₁ ++ a :: l₂).map (fun b => if key b = key a then f b else b) = l₁ ++ f a :: l₂ := by
  obtain ⟨h₁, h₂⟩ := key_ne_of_nodup h
  have hid : ∀ {l : List α}, (∀ b ∈ l, key b ≠ key a) →
      l.map (fun b => if key b = key a then f b else b) = l :=
    fun hl => (map_congr_left fun b hb => if_neg (hl b hb)).trans (map_id' _)
  simp [map_append, hid h₁, hid h₂]

/-- Dropping the elements with the key of `a` drops `a` only. -/
theorem filter_key_ne_of_nodup (h : ((l₁ ++ a :: l₂).map key).Nodup) :
    (l₁ ++ a :: l₂).filter (fun b => key b ≠ key a) = l₁ ++ l₂ := by
  obtain ⟨h₁, h₂⟩ := key_ne_of_nodup h
  have hid : ∀ {l : List α}, (∀ b ∈ l, key b ≠ key a) →
      l.filter (fun b => key b ≠ key a) = l :=
    fun hl => filter_eq_self.mpr fun b hb => decide_eq_true (hl b hb)
  rw [filter_append, filter_cons_of_neg (by simp), hid h₁, hid h₂]

end List
