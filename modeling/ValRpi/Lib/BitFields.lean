import Mathlib.Algebra.Group.Nat.Defs
import Mathlib.Data.List.Basic
import Mathlib.Data.Nat.Basic
import Mathlib.Order.Basic

/-!
# Bit fields

Words made of fields of bits. Fields that have no bit in common
(`BitField.Apart`) keep their values: what is put into a word of fields is what
is got out of it (`get_pack`), and the word has no bits outside of its fields
(`pack_lt`).
-/

/-- Bits of a word: `length` of them, from the bit `offset` on. -/
structure BitField where
  length : ℕ
  offset : ℕ
  deriving DecidableEq, Repr

namespace BitField

/-- Two fields have no bit in common. -/
def Apart (f g : BitField) : Prop :=
  f.offset + f.length ≤ g.offset ∨ g.offset + g.length ≤ f.offset

instance (f g : BitField) : Decidable (f.Apart g) := inferInstanceAs (Decidable (_ ∨ _))

/-- A value in the place of the field. -/
def put (f : BitField) (v : ℕ) : ℕ := v <<< f.offset

/-- The value of the field in a word. -/
def get (f : BitField) (w : ℕ) : ℕ := (w >>> f.offset) % 2 ^ f.length

/-- The word of some fields with their values. -/
def pack : List (BitField × ℕ) → ℕ
  | [] => 0
  | p :: ps => p.1.put p.2 ||| pack ps

variable {f g : BitField} {v w i : ℕ}

theorem testBit_get :
    (f.get w).testBit i = (decide (i < f.length) && w.testBit (f.offset + i)) := by
  rw [get, Nat.testBit_mod_two_pow, Nat.testBit_shiftRight]

/-- A field that fits its value has no bits but its own. -/
theorem testBit_put (hv : v < 2 ^ f.length) (hi : i < f.offset ∨ f.offset + f.length ≤ i) :
    (f.put v).testBit i = false := by
  rw [put, Nat.testBit_shiftLeft]
  rcases hi with hi | hi
  · rw [decide_eq_false (by omega), Bool.false_and]
  · rw [Nat.testBit_lt_two_pow, Bool.and_false]
    exact hv.trans_le (Nat.pow_le_pow_right Nat.zero_lt_two (by omega))

theorem get_put (hv : v < 2 ^ f.length) : f.get (f.put v) = v := by
  rw [get, put, Nat.shiftLeft_shiftRight, Nat.mod_eq_of_lt hv]

theorem get_or : f.get (v ||| w) = f.get v ||| f.get w := by
  apply Nat.eq_of_testBit_eq
  intro i
  simp only [testBit_get, Nat.testBit_or, Bool.and_or_distrib_left]

/-- Another field has no bit of this one. -/
theorem get_put_of_apart (happart : f.Apart g) (hv : v < 2 ^ g.length) : f.get (g.put v) = 0 := by
  apply Nat.eq_of_testBit_eq
  intro i
  rw [testBit_get, Nat.zero_testBit]
  by_cases hi : i < f.length
  · rw [testBit_put hv (by unfold Apart at happart; omega), Bool.and_false]
  · rw [decide_eq_false hi, Bool.false_and]

/-- Fields whose values fit. -/
def Fits (ps : List (BitField × ℕ)) : Prop := ∀ p ∈ ps, p.2 < 2 ^ p.1.length

variable {ps : List (BitField × ℕ)}

/-- None of the fields has a bit of this one. -/
theorem get_pack_of_apart (hfits : Fits ps) (happart : ∀ p ∈ ps, f.Apart p.1) :
    f.get (pack ps) = 0 := by
  induction ps with
  | nil => rw [pack, get, Nat.zero_shiftRight, Nat.zero_mod]
  | cons p ps ih =>
    obtain ⟨hp, hfits⟩ := List.forall_mem_cons.1 hfits
    obtain ⟨hfp, happart⟩ := List.forall_mem_cons.1 happart
    rw [pack, get_or, get_put_of_apart hfp hp, ih hfits happart, Nat.or_self]

/-- What is put into a word is what is got out of it. -/
theorem get_pack (hfits : Fits ps) (happart : (ps.map Prod.fst).Pairwise Apart) :
    ∀ p ∈ ps, p.1.get (pack ps) = p.2 := by
  induction ps with
  | nil => simp
  | cons p ps ih =>
    obtain ⟨hp, hfits⟩ := List.forall_mem_cons.1 hfits
    rw [List.map_cons, List.pairwise_cons] at happart
    obtain ⟨hfirst, happart⟩ := happart
    refine List.forall_mem_cons.2 ⟨?_, fun q hq => ?_⟩
    · rw [pack, get_or, get_put hp, get_pack_of_apart hfits, Nat.or_zero]
      exact fun q hq => hfirst _ (List.mem_map_of_mem hq)
    · have hqp : q.1.Apart p.1 := (hfirst _ (List.mem_map_of_mem hq)).symm
      rw [pack, get_or, get_put_of_apart hqp hp, ih hfits happart q hq, Nat.zero_or]

/-- A word has no bits outside of its fields. -/
theorem pack_lt {n : ℕ} (hfits : Fits ps) (hle : ∀ p ∈ ps, p.1.offset + p.1.length ≤ n) :
    pack ps < 2 ^ n := by
  induction ps with
  | nil => exact Nat.two_pow_pos n
  | cons p ps ih =>
    obtain ⟨hp, hfits⟩ := List.forall_mem_cons.1 hfits
    obtain ⟨hpn, hle⟩ := List.forall_mem_cons.1 hle
    refine Nat.or_lt_two_pow ?_ (ih hfits hle)
    refine Nat.lt_pow_two_of_testBit _ fun i hi => testBit_put hp (.inr (hpn.trans hi))

end BitField
