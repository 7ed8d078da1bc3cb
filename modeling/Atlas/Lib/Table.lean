import Mathlib.Data.List.Nodup

/-! # Tables of documents with a unique key

A table is a list of documents with pairwise different keys. Saving a document replaces the one with
its key, or appends it; reading by key sees the last save.
-/

/-- Documents with pairwise different keys. -/
structure Table {α κ : Type*} (key : α → κ) where
  rows : List α
  nodup : (rows.map key).Nodup

namespace Table

variable {α κ : Type*} [DecidableEq κ] {key : α → κ}

/-- Replaces the document with the key of `a`, or appends `a`. -/
def put (key : α → κ) (a : α) : List α → List α
  | [] => [a]
  | b :: l => if key b = key a then a :: l else b :: put key a l

theorem map_key_put (a : α) (l : List α) :
    (put key a l).map key =
      if key a ∈ l.map key then l.map key else (l.map key).concat (key a) := by
  induction l with
  | nil => rfl
  | cons b l ih =>
    by_cases h : key b = key a
    · simp [put, h]
    · have h' : key a ≠ key b := fun heq => h heq.symm
      simp only [put, if_neg h, List.map_cons, ih, List.mem_cons, h', false_or]
      split <;> rfl

theorem nodup_put (a : α) {l : List α} (h : (l.map key).Nodup) : ((put key a l).map key).Nodup := by
  rw [map_key_put]
  split
  case isTrue => exact h
  case isFalse hmem => exact h.concat hmem

/-- The document with this key. -/
def find? (t : Table key) (k : κ) : Option α := t.rows.find? (key · = k)

/-- Stores a document under its key. -/
def save (a : α) (t : Table key) : Table key := ⟨put key a t.rows, nodup_put a t.nodup⟩

/-- Changes every document, none of them in its key. -/
def map (f : α → α) (hf : ∀ a, key (f a) = key a) (t : Table key) : Table key :=
  ⟨t.rows.map f, by simpa [Function.comp_def, hf] using t.nodup⟩

/-- Turns every document into another one with the same key. -/
def image {β : Type*} {key' : β → κ} (f : α → β) (hf : ∀ a, key' (f a) = key a) (t : Table key) :
    Table key' :=
  ⟨t.rows.map f, by simpa [Function.comp_def, hf] using t.nodup⟩

variable {t : Table key} {k : κ} {a : α}

/-- A document is found under its own key. -/
theorem key_of_find? (h : t.find? k = some a) : key a = k := by
  simpa using List.find?_some h

theorem find?_save_self (a : α) (t : Table key) : (t.save a).find? (key a) = some a := by
  change (put key a t.rows).find? (key · = key a) = some a
  induction t.rows with
  | nil => simp [put]
  | cons b l ih =>
    by_cases h : key b = key a
    · simp [put, h]
    · simp [put, h, ih]

theorem find?_save_of_ne (t : Table key) (h : k ≠ key a) : (t.save a).find? k = t.find? k := by
  change (put key a t.rows).find? (key · = k) = t.rows.find? (key · = k)
  induction t.rows with
  | nil => simp [put, h.symm]
  | cons b l ih =>
    by_cases hb : key b = key a
    · simp [put, hb, h.symm]
    · simp only [put, if_neg hb, List.find?_cons, ih]

/-- Saving a document, read by key. -/
theorem find?_save (a : α) (t : Table key) (k : κ) :
    (t.save a).find? k = if k = key a then some a else t.find? k := by
  split
  case isTrue h => rw [h, find?_save_self]
  case isFalse h => exact find?_save_of_ne t h

/-- Saving what is stored changes nothing. -/
theorem save_of_find? (h : t.find? (key a) = some a) : t.save a = t := by
  have hput : ∀ l : List α, l.find? (key · = key a) = some a → put key a l = l := by
    intro l hl
    induction l with
    | nil => cases hl
    | cons b l ih =>
      by_cases hb : key b = key a
      · rw [List.find?_cons_of_pos (by simpa using hb)] at hl
        rw [put, if_pos hb, Option.some.inj hl]
      · rw [List.find?_cons_of_neg (by simpa using hb)] at hl
        rw [put, if_neg hb, ih hl]
  obtain ⟨rows, nodup⟩ := t
  simp only [save, hput rows h]

section Image

variable {β : Type*} {key' : β → κ} (f : α → β) (hf : ∀ a, key' (f a) = key a)

theorem find?_image (t : Table key) (k : κ) : (t.image f hf).find? k = (t.find? k).map f := by
  change (t.rows.map f).find? (key' · = k) = (t.rows.find? (key · = k)).map f
  rw [List.find?_map]
  simp only [Function.comp_def, hf]

theorem image_save (a : α) (t : Table key) : (t.save a).image f hf = (t.image f hf).save (f a) := by
  have hput : ∀ l : List α, (put key a l).map f = put key' (f a) (l.map f) := by
    intro l
    induction l with
    | nil => rfl
    | cons b l ih => by_cases h : key b = key a <;> simp [put, hf, h, ih]
  simp only [image, save, hput]

end Image

theorem find?_map (f : α → α) (hf : ∀ a, key (f a) = key a) (t : Table key) (k : κ) :
    (t.map f hf).find? k = (t.find? k).map f :=
  find?_image f hf t k

theorem find?_eq_some_iff : t.find? k = some a ↔ a ∈ t.rows ∧ key a = k := by
  constructor
  · intro h
    exact ⟨List.mem_of_find?_eq_some h, key_of_find? h⟩
  · rintro ⟨hmem, rfl⟩
    obtain ⟨rows, nodup⟩ := t
    change rows.find? (key · = key a) = some a
    induction rows with
    | nil => cases hmem
    | cons b l ih =>
      rw [List.map_cons, List.nodup_cons] at nodup
      rcases List.mem_cons.mp hmem with rfl | hmem
      · simp
      · have hne : key b ≠ key a := fun heq => nodup.1 (heq ▸ List.mem_map_of_mem hmem)
        simpa [hne] using ih nodup.2 hmem

theorem mem_rows_save {b : α} (h : b ∈ (t.save a).rows) : b = a ∨ b ∈ t.rows := by
  have hfind := find?_eq_some_iff.mpr ⟨h, rfl⟩
  rw [find?_save] at hfind
  split at hfind
  case isTrue => exact .inl (Option.some.inj hfind).symm
  case isFalse => exact .inr (find?_eq_some_iff.mp hfind).1

/-- What is collected from all documents, in any order and each item under the key of its document,
comes for one key from one document. -/
theorem filter_flatMap {β : Type*} {l : List α} {g : α → List β} {item : β → κ} (hl : l.Perm t.rows)
    (h : ∀ a ∈ l, ∀ b ∈ g a, item b = key a) (k : κ) :
    (l.flatMap g).filter (item · = k) = (t.find? k).toList.flatMap g := by
  have hmem : ∀ a, t.find? k = some a ↔ a ∈ l ∧ key a = k := fun a => by
    rw [find?_eq_some_iff, hl.mem_iff]
  have nodup : (l.map key).Nodup := (hl.map key).nodup_iff.mpr t.nodup
  generalize t.find? k = found at hmem
  clear hl
  induction l generalizing found with
  | nil =>
    cases found with
    | none => rfl
    | some a => exact absurd ((hmem a).mp rfl).1 List.not_mem_nil
  | cons a l ih =>
    rw [List.map_cons, List.nodup_cons] at nodup
    have ha := h a List.mem_cons_self
    have hl := fun b hb => h b (List.mem_cons_of_mem _ hb)
    rw [List.flatMap_cons, List.filter_append]
    by_cases hk : key a = k
    · -- no later document has the key, so only the items of `a` are left
      obtain rfl : found = some a := (hmem a).mpr ⟨List.mem_cons_self, hk⟩
      have hall : (g a).filter (item · = k) = g a :=
        List.filter_eq_self.mpr fun b hb => by simp [ha b hb, hk]
      have hrest : (l.flatMap g).filter (item · = k) = (none : Option α).toList.flatMap g := by
        refine ih hl nodup.2 none fun b => ⟨(nomatch ·), fun hb => ?_⟩
        exact absurd (hk.trans hb.2.symm ▸ List.mem_map_of_mem hb.1) nodup.1
      simp [hall, hrest]
    · have hnil : (g a).filter (item · = k) = [] :=
        List.filter_eq_nil_iff.mpr fun b hb => by simp [ha b hb, hk]
      rw [hnil, List.nil_append]
      refine ih hl nodup.2 found fun b => (hmem b).trans ?_
      rw [List.mem_cons, or_and_right, or_iff_right]
      rintro ⟨rfl, hb⟩
      exact hk hb

end Table
