import Mathlib.Data.Finset.Basic
import Mathlib.Data.List.Forall2
import Mathlib.Data.Multiset.AddSub

/-!
# Ledgers

A log of entries, some of which acquire a resource and some of which release
one (`acquires`, `releases`). The log is *proper* for what is held
(`Ledger.Proper`) when only new resources were ever acquired and only held
ones ever released.

* `Proper.balance`: what was acquired is what is held and what was released;
* hence nothing is released twice (`Proper.nodup_released`), nothing is held
  twice (`Proper.nodup_held`), and what is alive (`Ledger.live`) is exactly
  what is held (`Proper.mem_live`): nothing leaks and nothing held is dead;
* `Ledger.ReleasesLive` says that nothing dead is released from some time on;
* `Ledger.heldBy` is what a list of owners holds, at most one resource each;
* `Ledger.Covers` is weaker: what is alive is remembered, once each, but what is
  remembered may be dead, and so may be released again. It still rules out
  leaks (`Covers.count`).

The log has the newest entry first.
-/

namespace Ledger

variable {E R : Type} (acquires releases : E → Option R)

/-- The resources acquired in a log. -/
def acquired (log : List E) : List R := log.filterMap acquires

/-- The resources released in a log. -/
def released (log : List E) : List R := log.filterMap releases

/-- An entry that neither acquires nor releases. -/
def Idle (e : E) : Prop := acquires e = none ∧ releases e = none

/-- The log acquires only new resources and releases only held ones, and
    leaves `held` held. -/
inductive Proper : List E → Multiset R → Prop
  | nil : Proper [] 0
  | idle {log : List E} {held : Multiset R} {e : E} : Proper log held → Idle acquires releases e →
      Proper (e :: log) held
  | acquire {log : List E} {held : Multiset R} {e : E} {r : R} : Proper log held →
      acquires e = some r → releases e = none → r ∉ acquired acquires log →
      Proper (e :: log) (r ::ₘ held)
  | release {log : List E} {held : Multiset R} {e : E} {r : R} : Proper log (r ::ₘ held) →
      acquires e = none → releases e = some r → Proper (e :: log) held

variable {acquires releases} {log : List E} {held : Multiset R}

/-- Idle entries acquire nothing. -/
theorem acquired_append_idle {new : List E} (hnew : ∀ e ∈ new, Idle acquires releases e) :
    acquired acquires (new ++ log) = acquired acquires log := by
  rw [acquired, List.filterMap_append, List.filterMap_eq_nil_iff.2 fun e he => (hnew e he).1,
    List.nil_append, acquired]

/-! ## Proper logs -/

theorem Proper.append_idle {new : List E} (h : Proper acquires releases log held)
    (hnew : ∀ e ∈ new, Idle acquires releases e) : Proper acquires releases (new ++ log) held := by
  induction new with
  | nil => exact h
  | cons e new ih =>
    exact .idle (ih fun e he => hnew e (List.mem_cons_of_mem _ he)) (hnew e List.mem_cons_self)

/-- What was acquired is what is held and what was released. -/
theorem Proper.balance (h : Proper acquires releases log held) :
    (acquired acquires log : Multiset R) = held + (released releases log : Multiset R) := by
  induction h with
  | nil => rfl
  | @idle log held e _ he ih =>
    rw [acquired, released, List.filterMap_cons_none he.1, List.filterMap_cons_none he.2]
    exact ih
  | @acquire log held e r _ ha hr _ ih =>
    rw [acquired, released, List.filterMap_cons_some ha, List.filterMap_cons_none hr,
      ← Multiset.cons_coe, Multiset.cons_add]
    exact congrArg _ ih
  | @release log held e r _ ha hr ih =>
    rw [acquired, released, List.filterMap_cons_none ha, List.filterMap_cons_some hr,
      ← Multiset.cons_coe, Multiset.add_cons]
    rw [Multiset.cons_add] at ih
    exact ih

/-- No resource is acquired twice. -/
theorem Proper.nodup_acquired (h : Proper acquires releases log held) :
    (acquired acquires log).Nodup := by
  induction h with
  | nil => exact List.nodup_nil
  | idle _ he ih => rw [acquired, List.filterMap_cons_none he.1]; exact ih
  | acquire _ ha _ hr ih =>
    rw [acquired, List.filterMap_cons_some ha]
    exact List.nodup_cons.2 ⟨hr, ih⟩
  | release _ ha _ ih => rw [acquired, List.filterMap_cons_none ha]; exact ih

theorem Proper.nodup_add (h : Proper acquires releases log held) :
    (held + (released releases log : Multiset R)).Nodup :=
  h.balance ▸ Multiset.coe_nodup.2 h.nodup_acquired

/-- No resource is released twice. -/
theorem Proper.nodup_released (h : Proper acquires releases log held) :
    (released releases log).Nodup :=
  Multiset.coe_nodup.1 (Multiset.nodup_add.1 h.nodup_add).2.1

/-- No resource is held twice. -/
theorem Proper.nodup_held (h : Proper acquires releases log held) : held.Nodup :=
  (Multiset.nodup_add.1 h.nodup_add).1

/-- All that is held is released. -/
theorem Proper.release_all {ids : List R} {entry : R → E}
    (h : Proper acquires releases log (ids : Multiset R)) (hacq : ∀ r, acquires (entry r) = none)
    (hrel : ∀ r, releases (entry r) = some r) :
    Proper acquires releases ((ids.map entry).reverse ++ log) 0 := by
  induction ids generalizing log with
  | nil => exact h
  | cons r ids ih =>
    rw [List.map_cons, List.reverse_cons, List.append_assoc]
    exact ih (h.release (hacq r) (hrel r))

/-! ## What owners hold -/

section Held

variable {O : Type} {holds : O → Option R} {before after : List O} {o : O}

variable (holds) in
/-- What a list of owners holds, at most one resource each. -/
def heldBy (owners : List O) : Multiset R := owners.filterMap holds

theorem heldBy_some {r : R} (ho : holds o = some r) :
    heldBy holds (before ++ o :: after) = r ::ₘ heldBy holds (before ++ after) := by
  rw [heldBy, heldBy, List.filterMap_append, List.filterMap_cons_some ho, List.filterMap_append,
    ← Multiset.coe_add, ← Multiset.coe_add, ← Multiset.cons_coe, Multiset.add_cons]

theorem heldBy_none (ho : holds o = none) :
    heldBy holds (before ++ o :: after) = heldBy holds (before ++ after) := by
  rw [heldBy, heldBy, List.filterMap_append, List.filterMap_cons_none ho, List.filterMap_append]

theorem mem_heldBy {owners : List O} {r : R} (ho : o ∈ owners) (hr : holds o = some r) :
    r ∈ heldBy holds owners := by
  rw [heldBy, Multiset.mem_coe]
  exact List.mem_filterMap.2 ⟨o, ho, hr⟩

theorem heldBy_eq_zero {owners : List O} (h : ∀ o ∈ owners, holds o = none) :
    heldBy holds owners = 0 := by
  rw [heldBy, List.filterMap_eq_nil_iff.2 h]
  rfl

/-- How many owners hold a resource. -/
theorem count_heldBy [DecidableEq R] (owners : List O) (r : R) :
    (heldBy holds owners).count r = (owners.filter fun o => holds o = some r).length := by
  rw [heldBy, Multiset.coe_count, List.count_filterMap, List.countP_eq_length_filter]
  refine congrArg List.length (List.filter_congr fun o _ => ?_)
  rw [Bool.eq_iff_iff, beq_iff_eq, decide_eq_true_iff]

/-- Where no resource is held twice, it is held by one owner. -/
theorem eq_of_nodup_heldBy {owners : List O} {o' : O} {r : R} (h : (heldBy holds owners).Nodup)
    (ho : o ∈ owners) (ho' : o' ∈ owners) (hr : holds o = some r) (hr' : holds o' = some r) :
    o = o' := by
  obtain ⟨before, after, rfl⟩ := List.append_of_mem ho
  rw [heldBy_some hr, Multiset.nodup_cons] at h
  by_contra hne
  refine h.1 (mem_heldBy ?_ hr')
  rw [List.mem_append, List.mem_cons] at ho'
  rw [List.mem_append]
  exact ho'.imp_right fun ho' => ho'.resolve_left (Ne.symm hne)

/-- Owners that hold the same. -/
theorem heldBy_congr {owners owners' : List O}
    (h : List.Forall₂ (fun o o' => holds o' = holds o) owners owners') :
    heldBy holds owners' = heldBy holds owners := by
  have heq : owners'.filterMap holds = owners.filterMap holds := by
    induction h with
    | nil => rfl
    | cons ho _ ih => rw [List.filterMap_cons, List.filterMap_cons, ho, ih]
  rw [heldBy, heq, heldBy]

end Held

/-! ## What is alive -/

variable [DecidableEq R]

variable (acquires releases) in
/-- The resources alive after a log: an entry brings the one it acquires to
    life and ends the one it releases. -/
def live : List E → Finset R
  | [] => ∅
  | e :: log => match acquires e with
    | some r => insert r (live log)
    | none => match releases e with
      | some r => (live log).erase r
      | none => live log

theorem live_idle {e : E} (he : Idle acquires releases e) :
    live acquires releases (e :: log) = live acquires releases log := by
  simp only [live, he.1, he.2]

theorem live_acquire {e : E} {r : R} (he : acquires e = some r) :
    live acquires releases (e :: log) = insert r (live acquires releases log) := by
  simp only [live, he]

theorem live_release {e : E} {r : R} (ha : acquires e = none) (he : releases e = some r) :
    live acquires releases (e :: log) = (live acquires releases log).erase r := by
  simp only [live, ha, he]

/-- Idle entries end nothing and bring nothing to life. -/
theorem live_append_idle {new : List E} (hnew : ∀ e ∈ new, Idle acquires releases e) :
    live acquires releases (new ++ log) = live acquires releases log := by
  induction new with
  | nil => rfl
  | cons e new ih =>
    rw [List.cons_append, live_idle (hnew e List.mem_cons_self)]
    exact ih fun e he => hnew e (List.mem_cons_of_mem _ he)

/-- What is alive was acquired. -/
theorem mem_acquired_of_mem_live {r : R} (hr : r ∈ live acquires releases log) :
    r ∈ acquired acquires log := by
  induction log with
  | nil => simp [live] at hr
  | cons e log ih =>
    rw [acquired, List.filterMap_cons]
    cases ha : acquires e with
    | some r' =>
      rw [live_acquire ha, Finset.mem_insert] at hr
      rcases hr with rfl | hr
      exacts [List.mem_cons_self, List.mem_cons_of_mem _ (ih hr)]
    | none =>
      cases he : releases e with
      | some r' => rw [live_release ha he] at hr; exact ih (Finset.mem_of_mem_erase hr)
      | none => rw [live_idle ⟨ha, he⟩] at hr; exact ih hr

/-- What is alive is what is held. -/
theorem Proper.mem_live (h : Proper acquires releases log held) {r : R} :
    r ∈ live acquires releases log ↔ r ∈ held := by
  induction h with
  | nil => simp [live]
  | idle _ he ih => rw [live_idle he, ih]
  | acquire _ ha _ _ ih => rw [live_acquire ha, Finset.mem_insert, Multiset.mem_cons, ih]
  | release h ha hr ih =>
    rw [live_release ha hr, Finset.mem_erase, ih, Multiset.mem_cons]
    -- what is released was held only once
    have hn := (Multiset.nodup_cons.1 h.nodup_held).1
    constructor
    · rintro ⟨hne, rfl | hr⟩
      exacts [absurd rfl hne, hr]
    · exact fun hr => ⟨fun he => hn (he ▸ hr), .inr hr⟩

variable (acquires releases) in
/-- What was released since some time was alive then. -/
def ReleasesLive (since log : List E) : Prop :=
  ∀ e before r, e :: before <:+ log → since <:+ before → releases e = some r →
    r ∈ live acquires releases before

namespace ReleasesLive

variable {since : List E} {e : E} {r : R}

theorem refl : ReleasesLive acquires releases log log := by
  intro e before r hlog hsince _
  have hlen := hlog.length_le
  have hlen' := hsince.length_le
  rw [List.length_cons] at hlen
  omega

theorem cons_iff (hsuf : since <:+ log) : ReleasesLive acquires releases since (e :: log) ↔
    (∀ r, releases e = some r → r ∈ live acquires releases log) ∧
      ReleasesLive acquires releases since log := by
  constructor
  · intro h
    exact ⟨fun r hr => h e log r List.suffix_rfl hsuf hr,
      fun e' before r hlog => h e' before r (hlog.trans (List.suffix_cons _ _))⟩
  · rintro ⟨he, h⟩ e' before r hlog hsince hr
    rcases List.suffix_cons_iff.1 hlog with heq | hlog
    · obtain ⟨rfl, rfl⟩ := List.cons.inj heq
      exact he r hr
    · exact h e' before r hlog hsince hr

theorem idle_iff (hsuf : since <:+ log) (he : releases e = none) :
    ReleasesLive acquires releases since (e :: log) ↔
      ReleasesLive acquires releases since log := by
  rw [cons_iff hsuf, he]
  simp

theorem release_iff (hsuf : since <:+ log) (he : releases e = some r) :
    ReleasesLive acquires releases since (e :: log) ↔
      r ∈ live acquires releases log ∧ ReleasesLive acquires releases since log := by
  rw [cons_iff hsuf, he]
  simp

theorem append_idle {new : List E} (hnew : ∀ e ∈ new, Idle acquires releases e) :
    ReleasesLive acquires releases log (new ++ log) := by
  induction new with
  | nil => exact refl
  | cons e new ih =>
    have hrest := ih fun e he => hnew e (List.mem_cons_of_mem _ he)
    exact (idle_iff (List.suffix_append _ _) (hnew e List.mem_cons_self).2).2 hrest

end ReleasesLive

/-! ## What is remembered -/

variable (acquires releases) in
/-- Some resources that were acquired, each once, among which is all that is alive. -/
structure Covers (log : List E) (known : Multiset R) : Prop where
  nodup : known.Nodup
  acquired : ∀ r ∈ known, r ∈ acquired acquires log
  live : ∀ r ∈ live acquires releases log, r ∈ known

namespace Covers

variable {known : Multiset R} {e : E} {r : R}

theorem nil : Covers acquires releases [] 0 :=
  ⟨Multiset.nodup_zero, by simp, by simp [Ledger.live]⟩

theorem idle (h : Covers acquires releases log known) (he : Idle acquires releases e) :
    Covers acquires releases (e :: log) known := by
  refine ⟨h.nodup, fun r hr => ?_, fun r hr => h.live r (live_idle he ▸ hr)⟩
  rw [Ledger.acquired, List.filterMap_cons_none he.1]
  exact h.acquired r hr

theorem append_idle {new : List E} (h : Covers acquires releases log known)
    (hnew : ∀ e ∈ new, Idle acquires releases e) : Covers acquires releases (new ++ log) known := by
  induction new with
  | nil => exact h
  | cons e new ih =>
    exact (ih fun e he => hnew e (List.mem_cons_of_mem _ he)).idle (hnew e List.mem_cons_self)

/-- A new resource is remembered. -/
theorem acquire (h : Covers acquires releases log known) (ha : acquires e = some r)
    (hr : r ∉ Ledger.acquired acquires log) :
    Covers acquires releases (e :: log) (r ::ₘ known) := by
  refine ⟨Multiset.nodup_cons.2 ⟨fun hmem => hr (h.acquired r hmem), h.nodup⟩, fun x hx => ?_,
    fun x hx => ?_⟩
  · rw [Ledger.acquired, List.filterMap_cons_some ha]
    rcases Multiset.mem_cons.1 hx with rfl | hx
    exacts [List.mem_cons_self, List.mem_cons_of_mem _ (h.acquired x hx)]
  · rw [live_acquire ha, Finset.mem_insert] at hx
    exact Multiset.mem_cons.2 (hx.imp_right (h.live x))

/-- A resource that is released, for the first time or not, may be forgotten. -/
theorem release (h : Covers acquires releases log (r ::ₘ known)) (ha : acquires e = none)
    (hr : releases e = some r) : Covers acquires releases (e :: log) known := by
  refine ⟨(Multiset.nodup_cons.1 h.nodup).2, fun x hx => ?_, fun x hx => ?_⟩
  · rw [Ledger.acquired, List.filterMap_cons_none ha]
    exact h.acquired x (Multiset.mem_cons_of_mem hx)
  · rw [live_release ha hr, Finset.mem_erase] at hx
    exact (Multiset.mem_cons.1 (h.live x hx.2)).resolve_left hx.1

/-- A resource that was acquired, but is not remembered, may be remembered again. -/
theorem remember (h : Covers acquires releases log known) (hr : r ∈ Ledger.acquired acquires log)
    (hnew : r ∉ known) : Covers acquires releases log (r ::ₘ known) := by
  refine ⟨Multiset.nodup_cons.2 ⟨hnew, h.nodup⟩, fun x hx => ?_,
    fun x hx => Multiset.mem_cons_of_mem (h.live x hx)⟩
  rcases Multiset.mem_cons.1 hx with rfl | hx
  exacts [hr, h.acquired x hx]

/-- What is alive is remembered once. -/
theorem count (h : Covers acquires releases log known)
    (hr : r ∈ Ledger.live acquires releases log) : known.count r = 1 :=
  Multiset.count_eq_one_of_mem h.nodup (h.live r hr)

/-- An owner that gave up what it remembers, and got nothing new, may go on
    remembering it. -/
theorem restore {O : Type} {holds : O → Option R} {before after : List O} {o : O} {log' : List E}
    (h : Covers acquires releases log (heldBy holds (before ++ o :: after)))
    (h' : Covers acquires releases log' (heldBy holds (before ++ after))) (hsuf : log <:+ log') :
    Covers acquires releases log' (heldBy holds (before ++ o :: after)) := by
  cases ho : holds o with
  | none => rwa [heldBy_none ho]
  | some r =>
    rw [heldBy_some ho] at h ⊢
    refine h'.remember ?_ (Multiset.nodup_cons.1 h.nodup).1
    obtain ⟨new, rfl⟩ := hsuf
    rw [Ledger.acquired, List.filterMap_append]
    exact List.mem_append_right _ (h.acquired r (Multiset.mem_cons_self r _))

end Covers

end Ledger
