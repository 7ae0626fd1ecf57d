import ValRpi.Lib.Ledger

/-!
# Slots

A log of entries of which some put a resource in a slot (`puts`) and some take a resource
away, whatever the slot (`takes`). What slots show after a log is up to somebody else: all
that is known of it is that a slot shows only what was put there and was not taken away
since (`Slots.Honest`).

* `Slots.Owned` says that what slots show belongs to owners, which have one slot each, if
  any. It is kept as long as owners give up what they hold by taking it away and get new
  resources by putting them in their slots, and then no two slots show the same
  (`Owned.eq_of_shows`) and the slot of an owner that holds nothing is empty
  (`Owned.not_shows`).
* `Slots.shown` shows everything that was put last, until it is taken away.

The log has the newest entry first.
-/

namespace Slots

variable {E S R O : Type} (puts : E → Option (S × R)) (takes : E → Option R)
  (shows : List E → S → R → Prop)

/-- Slots show only what was put there, and not what was taken away since. -/
structure Honest : Prop where
  nil : ∀ s r, ¬ shows [] s r
  cons : ∀ e log s r, shows (e :: log) s r →
    puts e = some (s, r) ∨ shows log s r ∧ takes e ≠ some r

/-- An entry after which a slot may show something new is one that puts it there. -/
theorem Honest.append {puts : E → Option (S × R)} {takes : E → Option R}
    {shows : List E → S → R → Prop} (hon : Honest puts takes shows) {log new : List E} {s : S}
    {r : R} (hnew : ∀ e ∈ new, puts e ≠ some (s, r)) (hr : shows (new ++ log) s r) :
    shows log s r := by
  induction new with
  | nil => exact hr
  | cons e new ih =>
    obtain ⟨he, hnew⟩ := List.forall_mem_cons.1 hnew
    exact ih hnew ((hon.cons e _ s r hr).resolve_left he).1

/-! ## Owners -/

/-- What slots show belongs to owners. -/
def Owned (slot : O → Option S) (holds : O → Option R) (log : List E) (owners : List O) : Prop :=
  ∀ s r, shows log s r → ∃ o ∈ owners, slot o = some s ∧ holds o = some r

namespace Owned

variable {puts takes shows} {slot : O → Option S} {holds : O → Option R}
  {log : List E} {e : E} {s s' : S} {r r' : R} {owners before after : List O} {o o' : O}

theorem nil (hon : Honest puts takes shows) (owners : List O) :
    Owned shows slot holds [] owners :=
  fun s r hr => absurd hr (hon.nil s r)

/-- More owners do no harm. -/
theorem insert (h : Owned shows slot holds log (before ++ after)) (o : O) :
    Owned shows slot holds log (before ++ o :: after) := by
  intro s r hr
  obtain ⟨o', ho', hslot⟩ := h s r hr
  refine ⟨o', ?_, hslot⟩
  rw [List.mem_append, List.mem_cons]
  exact (List.mem_append.1 ho').imp_right .inr

/-- An owner that does not hold what a slot shows does not count. -/
theorem mem_rest (ho' : o' ∈ before ++ o :: after) (hholds : holds o' = some r)
    (hne : holds o ≠ some r) : o' ∈ before ++ after := by
  rcases List.mem_append.1 ho' with ho' | ho'
  · exact List.mem_append_left _ ho'
  rcases List.mem_cons.1 ho' with rfl | ho'
  · exact absurd hholds hne
  · exact List.mem_append_right _ ho'

/-- An owner that holds nothing does not count. -/
theorem forget (h : Owned shows slot holds log (before ++ o :: after)) (ho : holds o = none) :
    Owned shows slot holds log (before ++ after) := by
  intro s r hr
  obtain ⟨o', ho', hslot, hholds⟩ := h s r hr
  exact ⟨o', mem_rest ho' hholds (by simp [ho]), hslot, hholds⟩

/-- An owner gives up what it holds. -/
theorem take (h : Owned shows slot holds log (before ++ o :: after))
    (hon : Honest puts takes shows) (ho : holds o = some r) (hp : puts e = none)
    (ht : takes e = some r) : Owned shows slot holds (e :: log) (before ++ after) := by
  intro s r' hr'
  have hput : puts e ≠ some (s, r') := by simp [hp]
  obtain ⟨hr', htake⟩ := (hon.cons e log s r' hr').resolve_left hput
  obtain ⟨o', ho', hslot, hholds⟩ := h s r' hr'
  exact ⟨o', mem_rest ho' hholds (by rwa [ho, ← ht]), hslot, hholds⟩

/-- An owner puts what it holds in its slot. -/
theorem put (h : Owned shows slot holds log (before ++ o :: after))
    (hon : Honest puts takes shows) (ho : holds o = some r) (hs : slot o = some s)
    (hp : puts e = some (s, r)) : Owned shows slot holds (e :: log) (before ++ o :: after) := by
  intro s' r' hr'
  rcases hon.cons e log s' r' hr' with hput | ⟨hr', _⟩
  · obtain ⟨rfl, rfl⟩ := Prod.mk.inj (Option.some.inj (hp.symm.trans hput))
    exact ⟨o, by simp, hs, ho⟩
  · exact h s' r' hr'

/-- Owners with the same slots that hold the same. -/
theorem congr {owners' : List O} (h : Owned shows slot holds log owners)
    (hsame : List.Forall₂ (fun o o' => slot o' = slot o ∧ holds o' = holds o) owners owners') :
    Owned shows slot holds log owners' := by
  intro s r hr
  obtain ⟨o, ho, hslot, hholds⟩ := h s r hr
  clear h
  induction hsame with
  | nil => cases ho
  | @cons a b as bs hab _ ih =>
    rcases List.mem_cons.1 ho with rfl | ho
    · exact ⟨b, List.mem_cons_self, hab.1.trans hslot, hab.2.trans hholds⟩
    · obtain ⟨o', ho', hslot'⟩ := ih ho
      exact ⟨o', List.mem_cons_of_mem _ ho', hslot'⟩

/-- If no two owners hold the same, no two slots show it. -/
theorem eq_of_shows [DecidableEq R] (h : Owned shows slot holds log owners)
    (hnodup : (Ledger.heldBy holds owners).Nodup) (hr : shows log s r) (hr' : shows log s' r) :
    s = s' := by
  obtain ⟨o, ho, hs, hholds⟩ := h s r hr
  obtain ⟨o', ho', hs', hholds'⟩ := h s' r hr'
  obtain rfl := Ledger.eq_of_nodup_heldBy hnodup ho ho' hholds hholds'
  exact Option.some.inj (hs.symm.trans hs')

/-- A slot that no owner has shows nothing. -/
theorem not_shows (h : Owned shows slot holds log owners) (hnot : ∀ o ∈ owners, slot o ≠ some s)
    (r : R) : ¬ shows log s r := by
  intro hr
  obtain ⟨o, ho, hslot, _⟩ := h s r hr
  exact hnot o ho hslot

end Owned

/-! ## Slots that show all they are told to -/

variable [DecidableEq S] [DecidableEq R]

/-- What a slot shows after a log. -/
def shown : List E → S → Option R
  | [], _ => none
  | e :: log, s => match puts e with
    | some p => if p.1 = s then some p.2 else shown log s
    | none => if takes e = shown log s then none else shown log s

theorem honest_shown (hone : ∀ e, (puts e).isSome → takes e = none) :
    Honest puts takes fun log s r => shown puts takes log s = some r := by
  refine ⟨fun s r => by simp [shown], fun e log s r hr => ?_⟩
  rw [shown] at hr
  cases hp : puts e with
  | some p =>
    rw [hp] at hr
    dsimp only at hr
    split at hr
    next hs => exact .inl (by rw [← hs, ← Option.some.inj hr])
    · exact .inr ⟨hr, by simp [hone e (by simp [hp])]⟩
  | none =>
    rw [hp] at hr
    dsimp only at hr
    split at hr
    · cases hr
    next hne => exact .inr ⟨hr, hr ▸ hne⟩

end Slots
