import Mathlib.Data.List.Basic
import Mathlib.Logic.Relation

/-! # Threads that take reentrant locks

A program is a list of acquire and release operations. Threads run their programs in any
interleaving; an acquire waits while another thread holds the lock. Two threads are in a cycle when
each holds a lock the other one waits for. A cycle needs two programs that nest the locks in
opposite orders (`nests_of_cycle`), and two programs that begin so reach one (`cycle_of_opposite`).
-/

namespace Locks

variable {μ : Type*} [DecidableEq μ]

inductive Op (μ : Type*) where
  | acquire (m : μ)
  | release (m : μ)
deriving DecidableEq

/-- The locks held after an operation, with multiplicity. -/
def Op.apply (held : List μ) : Op μ → List μ
  | .acquire m => m :: held
  | .release m => held.erase m

structure Thread (μ : Type*) where
  held : List μ
  todo : List (Op μ)

/-- The threads before they have done anything. -/
def start (programs : List (List (Op μ))) : List (Thread μ) := programs.map fun p => ⟨[], p⟩

/-- A thread does its next operation; a lock is acquired when no other thread holds it. -/
inductive Step : List (Thread μ) → List (Thread μ) → Prop where
  | mk {pool : List (Thread μ)} {k : ℕ} {t : Thread μ} {op : Op μ} {rest : List (Op μ)}
      (hk : pool[k]? = some t) (htodo : t.todo = op :: rest)
      (hfree : ∀ m, op = .acquire m → ∀ j u, j ≠ k → pool[j]? = some u → m ∉ u.held) :
      Step pool (pool.set k ⟨op.apply t.held, rest⟩)

/-- The thread holds `m` and waits for `n`. -/
def Thread.HoldsAwaits (t : Thread μ) (m n : μ) : Prop :=
  m ∈ t.held ∧ t.todo.head? = some (.acquire n)

/-- Two threads wait for each other. -/
def Cycle (pool : List (Thread μ)) : Prop :=
  ∃ (j k : ℕ) (t u : Thread μ) (m n : μ), j ≠ k ∧ m ≠ n ∧ pool[j]? = some t ∧ pool[k]? = some u ∧
    t.HoldsAwaits m n ∧ u.HoldsAwaits n m

/-- Started with some locks, the program acquires `n` while it holds `m`. -/
def Nests (held : List μ) (program : List (Op μ)) (m n : μ) : Prop :=
  ∃ before after, program = before ++ .acquire n :: after ∧ m ∈ before.foldl Op.apply held

@[simp] theorem not_nests_nil (held : List μ) (m n : μ) : ¬ Nests held [] m n := by
  rintro ⟨before, after, heq, -⟩
  simp at heq

@[simp] theorem nests_cons (held : List μ) (op : Op μ) (program : List (Op μ)) (m n : μ) :
    Nests held (op :: program) m n ↔
      (op = .acquire n ∧ m ∈ held) ∨ Nests (op.apply held) program m n := by
  constructor
  · rintro ⟨before, after, heq, hmem⟩
    cases before with
    | nil =>
      obtain ⟨rfl, rfl⟩ := List.cons.inj heq
      exact .inl ⟨rfl, hmem⟩
    | cons op' before =>
      obtain ⟨rfl, rfl⟩ := List.cons.inj heq
      exact .inr ⟨before, after, rfl, hmem⟩
  · rintro (⟨rfl, hmem⟩ | ⟨before, after, rfl, hmem⟩)
    · exact ⟨[], program, rfl, hmem⟩
    · exact ⟨op :: before, after, rfl, hmem⟩

/-- Every thread is inside its program and holds what it has acquired and not released. -/
def Inside (programs : List (List (Op μ))) (pool : List (Thread μ)) : Prop :=
  ∀ (k : ℕ) (t : Thread μ), pool[k]? = some t →
    ∃ before, programs[k]? = some (before ++ t.todo) ∧ t.held = before.foldl Op.apply []

theorem inside_start (programs : List (List (Op μ))) : Inside programs (start programs) := by
  intro k t hk
  simp only [start, List.getElem?_map, Option.map_eq_some_iff] at hk
  obtain ⟨p, hp, rfl⟩ := hk
  exact ⟨[], hp, rfl⟩

theorem Inside.step {programs : List (List (Op μ))} {pool pool' : List (Thread μ)}
    (h : Inside programs pool) (hstep : Step pool pool') : Inside programs pool' := by
  cases hstep with
  | @mk k t op rest hk htodo hfree =>
    intro j u hj
    by_cases hjk : j = k
    · subst hjk
      obtain ⟨before, hp, hheld⟩ := h j t hk
      rw [List.getElem?_set_self (List.getElem?_eq_some_iff.mp hk).1, Option.some.injEq] at hj
      subst hj
      refine ⟨before ++ [op], by simpa [htodo] using hp, ?_⟩
      rw [List.foldl_append, ← hheld]
      rfl
    · rw [List.getElem?_set_ne (Ne.symm hjk)] at hj
      exact h j u hj

theorem Inside.of_reachable {programs : List (List (Op μ))} {pool : List (Thread μ)}
    (hreach : Relation.ReflTransGen Step (start programs) pool) : Inside programs pool := by
  induction hreach with
  | refl => exact inside_start programs
  | tail _ hstep ih => exact ih.step hstep

/-- A thread that holds one lock and waits for another runs a program that nests them. -/
theorem Inside.nests {programs : List (List (Op μ))} {pool : List (Thread μ)} {k : ℕ}
    {t : Thread μ} {m n : μ} (h : Inside programs pool) (hk : pool[k]? = some t)
    (ht : t.HoldsAwaits m n) : ∃ p ∈ programs, Nests [] p m n := by
  obtain ⟨before, hp, hheld⟩ := h k t hk
  obtain ⟨after, htodo⟩ := List.head?_eq_some_iff.mp ht.2
  exact ⟨_, List.mem_of_getElem? hp, before, after, by rw [htodo], hheld ▸ ht.1⟩

/-- A cycle comes from two programs that nest the locks in opposite orders. -/
theorem nests_of_cycle {programs : List (List (Op μ))} {pool : List (Thread μ)}
    (hreach : Relation.ReflTransGen Step (start programs) pool) (hcycle : Cycle pool) :
    ∃ m n, m ≠ n ∧ (∃ p ∈ programs, Nests [] p m n) ∧ ∃ p ∈ programs, Nests [] p n m := by
  obtain ⟨j, k, t, u, m, n, -, hmn, hj, hk, ht, hu⟩ := hcycle
  have hinside := Inside.of_reachable hreach
  exact ⟨m, n, hmn, hinside.nests hj ht, hinside.nests hk hu⟩

/-- Two programs that begin with the same two locks in opposite orders reach a cycle: each takes its
first lock. -/
theorem cycle_of_opposite {programs : List (List (Op μ))} {j k : ℕ} {m n : μ}
    {p q : List (Op μ)} (hjk : j ≠ k) (hmn : m ≠ n)
    (hj : programs[j]? = some (.acquire m :: .acquire n :: p))
    (hk : programs[k]? = some (.acquire n :: .acquire m :: q)) :
    ∃ pool, Relation.ReflTransGen Step (start programs) pool ∧ Cycle pool := by
  have hget : ∀ {i : ℕ} {r : List (Op μ)}, programs[i]? = some r →
      (start programs)[i]? = some ⟨[], r⟩ := fun h => by simp [start, h]
  have hidle : ∀ (i : ℕ) (u : Thread μ), (start programs)[i]? = some u → u.held = [] := by
    intro i u hu
    simp only [start, List.getElem?_map, Option.map_eq_some_iff] at hu
    obtain ⟨r, -, rfl⟩ := hu
    rfl
  have hlt : ∀ {i : ℕ} {u : Thread μ} {l : List (Thread μ)}, l[i]? = some u → i < l.length :=
    fun h => (List.getElem?_eq_some_iff.mp h).1
  -- the first thread takes `m`, which nobody holds
  have hfirst := Step.mk (hget hj) rfl fun m' _ i u _ hu => by simp [hidle i u hu]
  have hk₁ : ((start programs).set j ⟨[m], .acquire n :: p⟩)[k]? =
      some ⟨[], .acquire n :: .acquire m :: q⟩ := by rw [List.getElem?_set_ne hjk, hget hk]
  -- the second one takes `n`, which the first does not hold
  have hsecond := Step.mk hk₁ rfl fun n' hn' i u hik hu => by
    obtain rfl : n = n' := by simpa using hn'
    by_cases hij : i = j
    · subst hij
      rw [List.getElem?_set_self (hlt (hget hj)), Option.some.injEq] at hu
      subst hu
      simpa using hmn.symm
    · rw [List.getElem?_set_ne (Ne.symm hij)] at hu
      simp [hidle i u hu]
  refine ⟨_, .tail (.single hfirst) hsecond, j, k, ⟨[m], .acquire n :: p⟩, ⟨[n], .acquire m :: q⟩,
    m, n, hjk, hmn, ?_, ?_, ⟨by simp, rfl⟩, ⟨by simp, rfl⟩⟩
  · rw [List.getElem?_set_ne hjk.symm]
    exact List.getElem?_set_self (hlt (hget hj))
  · exact List.getElem?_set_self (hlt hk₁)

end Locks
