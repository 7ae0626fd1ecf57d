import Mathlib.Data.Multiset.AddSub

/-!
# Leases

A log of entries, some of which acquire a resource and some of which release one
(`acquires`, `releases`), as in a ledger, but what was released may be acquired
again. `Leases.held` is what is held after the log.

* A log is *sound* for what owners hold (`Leases.Tracks`) if only what was held was
  ever released, and they hold what is left;
* entries may use a resource. They are guarded (`Leases.Guarded`) if it was held then.

The log has the newest entry first.
-/

namespace Leases

variable {E R A : Type} (acquires releases : E → Option R)

/-- An entry that neither acquires nor releases. -/
def Idle (e : E) : Prop := acquires e = none ∧ releases e = none

variable [DecidableEq R]

/-- What is held after a log. -/
def held : List E → List R
  | [] => []
  | e :: log =>
    match acquires e with
    | some r => r :: held log
    | none =>
      match releases e with
      | some r => (held log).erase r
      | none => held log

/-- Only what was held was released. -/
def Sound : List E → Prop
  | [] => True
  | e :: log => (∀ r ∈ releases e, r ∈ held acquires releases log) ∧ Sound log

variable (uses : E → Option A) (covers : R → A → Prop)

/-- What was used is covered by what was held at that time. -/
def Guarded : List E → Prop
  | [] => True
  | e :: log =>
    (∀ a ∈ uses e, ∃ r ∈ held acquires releases log, covers r a) ∧ Guarded log

variable {acquires releases uses covers} {log new : List E} {e : E} {r : R}

theorem held_idle (he : Idle acquires releases e) :
    held acquires releases (e :: log) = held acquires releases log := by
  simp only [held, he.1, he.2]

theorem held_acquire (ha : acquires e = some r) :
    held acquires releases (e :: log) = r :: held acquires releases log := by
  simp only [held, ha]

theorem held_release (ha : acquires e = none) (hr : releases e = some r) :
    held acquires releases (e :: log) = (held acquires releases log).erase r := by
  simp only [held, ha, hr]

theorem held_append_idle (hnew : ∀ e ∈ new, Idle acquires releases e) :
    held acquires releases (new ++ log) = held acquires releases log := by
  induction new with
  | nil => rfl
  | cons e new ih =>
    obtain ⟨he, hnew⟩ := List.forall_mem_cons.1 hnew
    rw [List.cons_append, held_idle he, ih hnew]

/-! ## Owners -/

variable (acquires releases) in
/-- Only what was held was released, and `owned` is what is held. -/
structure Tracks (log : List E) (owned : Multiset R) : Prop where
  sound : Sound acquires releases log
  held : (held acquires releases log : Multiset R) = owned

namespace Tracks

variable {owned : Multiset R}

theorem nil : Tracks acquires releases [] 0 := ⟨trivial, rfl⟩

theorem idle (h : Tracks acquires releases log owned) (he : Idle acquires releases e) :
    Tracks acquires releases (e :: log) owned := by
  refine ⟨⟨fun r hr => ?_, h.sound⟩, by rw [held_idle he]; exact h.held⟩
  rw [he.2] at hr
  cases hr

theorem append_idle (h : Tracks acquires releases log owned)
    (hnew : ∀ e ∈ new, Idle acquires releases e) :
    Tracks acquires releases (new ++ log) owned := by
  induction new with
  | nil => exact h
  | cons e new ih =>
    obtain ⟨he, hnew⟩ := List.forall_mem_cons.1 hnew
    exact (ih hnew).idle he

theorem acquire (h : Tracks acquires releases log owned) (ha : acquires e = some r)
    (hr : releases e = none) : Tracks acquires releases (e :: log) (r ::ₘ owned) := by
  refine ⟨⟨fun r' hr' => ?_, h.sound⟩, ?_⟩
  · rw [hr] at hr'
    cases hr'
  · rw [held_acquire ha, ← Multiset.cons_coe, h.held]

theorem release (h : Tracks acquires releases log (r ::ₘ owned)) (ha : acquires e = none)
    (hr : releases e = some r) : Tracks acquires releases (e :: log) owned := by
  refine ⟨⟨fun r' hr' => ?_, h.sound⟩, ?_⟩
  · cases Option.mem_unique hr hr'
    rw [← Multiset.mem_coe, h.held]
    exact Multiset.mem_cons_self r owned
  · rw [held_release ha hr, ← Multiset.coe_erase, h.held, Multiset.erase_cons_head]

end Tracks

/-! ## Uses -/

/-- Idle entries that use what is held. -/
theorem Guarded.append_idle (h : Guarded acquires releases uses covers log)
    (hnew : ∀ e ∈ new, Idle acquires releases e)
    (huse : ∀ e ∈ new, ∀ a ∈ uses e, ∃ r ∈ held acquires releases log, covers r a) :
    Guarded acquires releases uses covers (new ++ log) := by
  induction new with
  | nil => exact h
  | cons e new ih =>
    obtain ⟨he, hnew⟩ := List.forall_mem_cons.1 hnew
    obtain ⟨hue, huse⟩ := List.forall_mem_cons.1 huse
    refine ⟨fun a ha => ?_, ih hnew huse⟩
    rw [List.append_eq, held_append_idle hnew]
    exact hue a ha

/-- An entry that uses nothing. -/
theorem Guarded.cons (h : Guarded acquires releases uses covers log) (he : uses e = none) :
    Guarded acquires releases uses covers (e :: log) := by
  refine ⟨fun a ha => ?_, h⟩
  rw [he] at ha
  cases ha

end Leases
