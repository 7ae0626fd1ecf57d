import Mathlib.Logic.Function.Basic
import Mathlib.Tactic.Common

/-!
# Blocks

A memory of blocks: a block is allocated with its content, and from then on it is
*alive*, until it is freed. A block that is not alive can be neither read nor freed:
these operations fail. No pointer is given out twice.

Owners hold pointers to blocks, at most one each. A memory *stores* values for them
(`Blocks.Stores`) when the pointer of an owner leads to its value, no two owners
share a block, and nothing else is alive. So every owner has its value for
itself:

* what is allocated for an owner, or freed, leaves the values of the others
  (`Stores.alloc`, `Stores.free`);
* what is allocated and freed at once leaves all of them (`free_alloc`,
  `Stores.of_block_eq`).
-/

/-- Blocks with contents in `α`, by their pointers. -/
structure Blocks (α : Type) where
  block : ℕ → Option α
  next : ℕ
  fresh : ∀ p, next ≤ p → block p = none

namespace Blocks

variable {α ι : Type}

/-- No block is alive. -/
def empty : Blocks α where
  block _ := none
  next := 0
  fresh _ _ := rfl

/-- A new block, and its pointer. -/
def alloc (m : Blocks α) (a : α) : ℕ × Blocks α :=
  (m.next,
    { block := Function.update m.block m.next (some a)
      next := m.next + 1
      fresh := fun p hp => by
        rw [Function.update_of_ne (by omega)]
        exact m.fresh p (by omega) })

/-- The content of a block that is alive. -/
def read (m : Blocks α) (p : ℕ) : Option α := m.block p

/-- The memory without a block that was alive. -/
def free (m : Blocks α) (p : ℕ) : Option (Blocks α) :=
  match m.block p with
  | none => none
  | some _ => some
    { block := Function.update m.block p none
      next := m.next
      fresh := fun q hq => by
        rw [Function.update_apply]
        split
        · rfl
        · exact m.fresh q hq }

variable {m m' : Blocks α} {p : ℕ} {a : α}

theorem block_alloc (m : Blocks α) (a : α) :
    (m.alloc a).2.block = Function.update m.block (m.alloc a).1 (some a) := rfl

/-- A new block was not alive. -/
theorem block_alloc_fst (m : Blocks α) (a : α) : m.block (m.alloc a).1 = none :=
  m.fresh _ (Nat.le_refl m.next)

theorem block_free (hf : m.free p = some m') : m'.block = Function.update m.block p none := by
  rw [free] at hf
  split at hf
  · cases hf
  · cases hf
    rfl

/-- What is alive can be freed. -/
theorem free_eq_some (hp : m.block p = some a) : ∃ m', m.free p = some m' := by
  rw [free, hp]
  exact ⟨_, rfl⟩

/-- What is allocated and freed at once leaves the other blocks. -/
theorem free_alloc (m : Blocks α) (a : α) : ∃ m',
    (m.alloc a).2.free (m.alloc a).1 = some m' ∧ m'.block = m.block := by
  obtain ⟨m', hf⟩ := free_eq_some (m := (m.alloc a).2) (p := (m.alloc a).1) (a := a) (by
    rw [block_alloc, Function.update_self])
  refine ⟨m', hf, ?_⟩
  rw [block_free hf, block_alloc, Function.update_idem, ← block_alloc_fst m a,
    Function.update_eq_self]

/-! ## Owners -/

/-- The pointers `ptr` of the owners lead to blocks with their values, each owner has its
    own block, and no other block is alive. -/
structure Stores (m : Blocks α) (ptr : ι → Option ℕ) (val : ι → Option α) : Prop where
  reads : ∀ x p, ptr x = some p → ∃ a, m.block p = some a ∧ val x = some a
  apart : ∀ x y p, ptr x = some p → ptr y = some p → x = y
  covered : ∀ p, m.block p ≠ none → ∃ x, ptr x = some p

variable {ptr : ι → Option ℕ} {val val' : ι → Option α}

theorem stores_empty : (empty : Blocks α).Stores (fun _ : ι => none) val where
  reads _ _ hp := by cases hp
  apart _ _ _ hp := by cases hp
  covered _ hp := absurd rfl hp

/-- The values of owners without a block do not matter. -/
theorem Stores.congr (h : m.Stores ptr val) (hval : ∀ x p, ptr x = some p → val' x = val x) :
    m.Stores ptr val' where
  reads x p hp := by
    obtain ⟨a, hblock, hx⟩ := h.reads x p hp
    exact ⟨a, hblock, (hval x p hp).trans hx⟩
  apart := h.apart
  covered := h.covered

/-- The blocks of owners are alive. -/
theorem Stores.ne_of_none (h : m.Stores ptr val) (hp : m.block p = none) (x : ι) :
    ptr x ≠ some p := by
  intro hx
  obtain ⟨a, hblock, _⟩ := h.reads x p hx
  rw [hp] at hblock
  cases hblock

/-- What the owners have is a matter of the blocks only. -/
theorem Stores.of_block_eq (h : m.Stores ptr val) (hblock : m'.block = m.block) :
    m'.Stores ptr val where
  reads := by
    rw [hblock]
    exact h.reads
  apart := h.apart
  covered := by
    rw [hblock]
    exact h.covered

variable [DecidableEq ι] {x : ι}

/-- An owner without a block gets a new one. -/
theorem Stores.alloc (h : m.Stores ptr val) (hx : ptr x = none) (a : α) :
    (m.alloc a).2.Stores (Function.update ptr x (some (m.alloc a).1))
      (Function.update val x (some a)) where
  reads y p hp := by
    rw [block_alloc]
    by_cases hy : y = x
    · subst hy
      rw [Function.update_self] at hp ⊢
      cases hp
      exact ⟨a, Function.update_self _ _ _, rfl⟩
    · rw [Function.update_of_ne hy] at hp ⊢
      have hne : p ≠ (m.alloc a).1 := fun heq => h.ne_of_none (block_alloc_fst m a) y (heq ▸ hp)
      rw [Function.update_of_ne hne]
      exact h.reads y p hp
  apart y z p hy hz := by
    have hnew := h.ne_of_none (block_alloc_fst m a)
    by_cases hyx : y = x <;> by_cases hzx : z = x
    · exact hyx.trans hzx.symm
    · subst hyx
      rw [Function.update_self] at hy
      rw [Function.update_of_ne hzx] at hz
      exact absurd (hz.trans hy.symm) (hnew z)
    · subst hzx
      rw [Function.update_self] at hz
      rw [Function.update_of_ne hyx] at hy
      exact absurd (hy.trans hz.symm) (hnew y)
    · rw [Function.update_of_ne hyx] at hy
      rw [Function.update_of_ne hzx] at hz
      exact h.apart y z p hy hz
  covered p hp := by
    rw [block_alloc] at hp
    by_cases hnew : p = (m.alloc a).1
    · exact ⟨x, by rw [Function.update_self, hnew]⟩
    · rw [Function.update_of_ne hnew] at hp
      obtain ⟨y, hy⟩ := h.covered p hp
      have hne : y ≠ x := by
        rintro rfl
        rw [hx] at hy
        cases hy
      exact ⟨y, (Function.update_of_ne hne _ _).trans hy⟩

/-- An owner gives its block back. -/
theorem Stores.free (h : m.Stores ptr val) (hx : ptr x = some p) : ∃ m',
    m.free p = some m' ∧ m'.Stores (Function.update ptr x none) val := by
  obtain ⟨a, hblock, _⟩ := h.reads x p hx
  obtain ⟨m', hf⟩ := free_eq_some hblock
  have hptr {y : ι} {q : ℕ} (hy : Function.update ptr x none y = some q) :
      y ≠ x ∧ ptr y = some q := by
    have hne : y ≠ x := by
      rintro rfl
      rw [Function.update_self] at hy
      cases hy
    exact ⟨hne, (Function.update_of_ne hne _ _).symm.trans hy⟩
  refine ⟨m', hf, fun y q hy => ?_, fun y z q hy hz => ?_, fun q hq => ?_⟩
  · obtain ⟨hne, hy⟩ := hptr hy
    have hqp : q ≠ p := fun heq => hne (h.apart y x q hy (heq ▸ hx))
    rw [block_free hf, Function.update_of_ne hqp]
    exact h.reads y q hy
  · exact h.apart y z q (hptr hy).2 (hptr hz).2
  · rw [block_free hf] at hq
    have hqp : q ≠ p := by
      rintro rfl
      exact hq (Function.update_self _ _ _)
    rw [Function.update_of_ne hqp] at hq
    obtain ⟨y, hy⟩ := h.covered q hq
    have hne : y ≠ x := by
      rintro rfl
      exact hqp (Option.some.inj (hy.symm.trans hx))
    exact ⟨y, (Function.update_of_ne hne _ _).trans hy⟩

end Blocks
