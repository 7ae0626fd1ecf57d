import Mathlib.Data.List.Destutter
import Mathlib.Data.List.Nodup
import Mathlib.Data.List.Induction
import Mathlib.Data.List.Pairwise
import Mathlib.Data.List.Range

/-!
# Lists of objects

Four ways in which programs go through a list of objects.

* A relation between two lists, flattened: for each object of the first list,
  in turn, the related objects of the second. Every object occurs once if and
  only if it is related to one object at most (`nodup_flatMap_filter_iff`).
* A list without its adjacent duplicates: no element is lost (`mem_destutter_ne`),
  and one is listed once if and only if its occurrences stand together
  (`nodup_filter_destutter_iff`).
* A list of writes, in turn, to an object that some of them hit: the last one
  counts (`settle_eq`).
* A list up to the first object that fails a test, with that one
  (`takeThrough`), and without repetitions.
-/

namespace Lists

variable {α β κ : Type}

/-! ## One of the elements -/

section Middle

variable {a b : α} {before after : List α} {P : α → Prop}

theorem mem_middle : b ∈ before ++ a :: after ↔ b = a ∨ b ∈ before ++ after := by
  rw [List.perm_middle.mem_iff, List.mem_cons]

theorem forall_mem_middle :
    (∀ b ∈ before ++ a :: after, P b) ↔ P a ∧ ∀ b ∈ before ++ after, P b := by
  simp only [mem_middle, forall_eq_or_imp]

end Middle

/-! ## Flattened relations -/

/-- Objects told apart by their keys are told apart. -/
theorem eq_of_key_eq {key : β → κ} {l : List β} (hl : (l.map key).Nodup) {a b : β} (ha : a ∈ l)
    (hb : b ∈ l) (h : key a = key b) : a = b :=
  List.inj_on_of_nodup_map hl ha hb h

theorem of_find?_key [BEq κ] [LawfulBEq κ] {key : β → κ} {l : List β} {x : κ} {b : β}
    (h : l.find? (key · == x) = some b) : b ∈ l ∧ key b = x :=
  ⟨List.mem_of_find?_eq_some h, eq_of_beq (List.find?_some (p := (key · == x)) h)⟩

/-- An object is found by its key. -/
theorem find?_key [BEq κ] [LawfulBEq κ] {key : β → κ} {l : List β} (hl : (l.map key).Nodup) {a : β}
    (ha : a ∈ l) : l.find? (key · == key a) = some a := by
  cases hf : l.find? (key · == key a) with
  | none => exact absurd (BEq.rfl) (List.find?_eq_none.1 hf a ha)
  | some b =>
    obtain ⟨hb, hkey⟩ := of_find?_key hf
    rw [eq_of_key_eq hl hb ha hkey]

/-- The objects are found by the keys from 0 on, each key finding one and each
    object being found, if and only if these are their keys. -/
theorem find?_range_iff {key : β → ℕ} {l : List β} (hl : l.Nodup) (n : ℕ) :
    ((∀ x < n, ∃ b, l.find? (key · == x) = some b) ∧
      ∀ b ∈ l, ∃ x < n, l.find? (key · == x) = some b) ↔ (l.map key).Perm (List.range n) := by
  constructor
  · rintro ⟨hall, honto⟩
    -- two objects of one key would be found as one
    have hinj : (l.map key).Nodup := by
      refine hl.map_on fun a ha b hb hab => ?_
      obtain ⟨x, _, hx⟩ := honto a ha
      obtain ⟨y, _, hy⟩ := honto b hb
      have hxy : x = y := (of_find?_key hx).2.symm.trans (hab.trans (of_find?_key hy).2)
      rw [hxy, hy] at hx
      exact (Option.some.inj hx).symm
    refine (List.perm_ext_iff_of_nodup hinj List.nodup_range).2 fun x => ?_
    rw [List.mem_map, List.mem_range]
    constructor
    · rintro ⟨b, hb, rfl⟩
      obtain ⟨x, hx, hbx⟩ := honto b hb
      rwa [(of_find?_key hbx).2]
    · intro hx
      obtain ⟨b, hb⟩ := hall x hx
      exact ⟨b, of_find?_key hb⟩
  · intro hperm
    have hkey : (l.map key).Nodup := hperm.nodup_iff.2 List.nodup_range
    refine ⟨fun x hx => ?_, fun b hb => ⟨key b, ?_, find?_key hkey hb⟩⟩
    · obtain ⟨b, hb, rfl⟩ := List.mem_map.1 (hperm.mem_iff.2 (List.mem_range.2 hx))
      exact ⟨b, find?_key hkey hb⟩
    · exact List.mem_range.1 (hperm.mem_iff.1 (List.mem_map_of_mem hb))

/-- The first object is the last one if and only if it is the only one. -/
theorem head?_mem_getLast?_iff {l : List β} (hl : l.Nodup) (b : β) :
    l.head?.getD b ∈ l.getLast?.toList ↔ l.length = 1 := by
  rcases l with _ | ⟨x, _ | ⟨y, l⟩⟩
  · simp
  · simp
  · rw [List.getLast?_cons_cons, List.getLast?_eq_some_getLast (List.cons_ne_nil y l)]
    rw [List.head?_cons, Option.getD_some, Option.toList_some, List.mem_singleton]
    constructor
    · intro heq
      exact absurd (heq ▸ List.getLast_mem _) (List.nodup_cons.1 hl).1
    · intro hlen
      simp at hlen

theorem mem_of_lookup [BEq κ] [LawfulBEq κ] {l : List (κ × β)} {x : κ} {b : β}
    (h : l.lookup x = some b) : (x, b) ∈ l := by
  obtain ⟨before, after, rfl, _⟩ := List.lookup_eq_some_iff.1 h
  simp

theorem lookup_map {γ : Type} [BEq κ] (f : β → γ) (x : κ) (l : List (κ × β)) :
    (l.map fun p => (p.1, f p.2)).lookup x = (l.lookup x).map f := by
  induction l with
  | nil => rfl
  | cons p l ih =>
    rw [List.map_cons, List.lookup_cons, List.lookup_cons, ih]
    cases x == p.1 <;> rfl

/-- A table whose keys are numbered is looked up by position. -/
theorem lookup_of_keys_range' {l : List (ℕ × β)} {start n : ℕ}
    (hkeys : l.map Prod.fst = List.range' start n) (i : ℕ) :
    l.lookup (start + i) = l[i]?.map Prod.snd := by
  induction l generalizing start n i with
  | nil => rfl
  | cons p l ih =>
    obtain ⟨x, b⟩ := p
    rcases n with _ | n
    · cases hkeys
    rw [List.range'_succ, List.map_cons, List.cons.injEq] at hkeys
    obtain ⟨rfl, hkeys⟩ := hkeys
    rw [List.lookup_cons]
    rcases i with _ | i
    · simp
    · have hne : (x + (i + 1) == x) = false := by simp
      have hnext : x + (i + 1) = x + 1 + i := by omega
      rw [hne, List.getElem?_cons_succ, ← ih hkeys i, hnext]

theorem lookup_of_keys_range {l : List (ℕ × β)} {n : ℕ} (hkeys : l.map Prod.fst = List.range n)
    (i : ℕ) : l.lookup i = l[i]?.map Prod.snd := by
  rw [List.range_eq_range'] at hkeys
  rw [← lookup_of_keys_range' hkeys i, Nat.zero_add]

theorem mem_flatMap_filter {rel : α → β → Bool} {key : β → κ} {as : List α} {bs : List β} {x : κ} :
    x ∈ as.flatMap (fun a => (bs.filter (rel a)).map key) ↔
      ∃ b ∈ bs, key b = x ∧ ∃ a ∈ as, rel a b = true := by
  simp only [List.mem_flatMap, List.mem_map, List.mem_filter]
  constructor
  · rintro ⟨a, ha, b, ⟨hb, hab⟩, rfl⟩
    exact ⟨b, hb, rfl, a, ha, hab⟩
  · rintro ⟨b, hb, rfl, a, ha, hab⟩
    exact ⟨a, ha, b, ⟨hb, hab⟩, rfl⟩

/-- Every object occurs once in a flattened relation if and only if it is
    related to one object at most. -/
theorem nodup_flatMap_filter_iff {rel : α → β → Bool} {key : β → κ} {as : List α} {bs : List β}
    (hkey : (bs.map key).Nodup) : (as.flatMap fun a => (bs.filter (rel a)).map key).Nodup ↔
      ∀ b ∈ bs, (as.filter (rel · b)).length ≤ 1 := by
  rw [List.nodup_flatMap, List.pairwise_iff_forall_sublist]
  constructor
  · rintro ⟨-, hdisj⟩ b hb
    by_contra hlen
    -- two objects related to `b`, the one before the other
    obtain ⟨a, a', l, hl⟩ : ∃ a a' l, as.filter (rel · b) = a :: a' :: l := by
      match as.filter (rel · b), hlen with
      | [], hlen => simp at hlen
      | [_], hlen => simp at hlen
      | a :: a' :: l, _ => exact ⟨a, a', l, rfl⟩
    have hsub : [a, a'].Sublist as := by
      refine List.Sublist.trans ?_ (List.filter_sublist (p := (rel · b)))
      rw [hl]
      simp
    have hrel (x : α) (hx : x ∈ [a, a']) : key b ∈ (bs.filter (rel x)).map key := by
      have hmem : x ∈ as.filter (rel · b) := by
        rw [hl]
        simp only [List.mem_cons, List.not_mem_nil, or_false] at hx ⊢
        tauto
      exact List.mem_map_of_mem (List.mem_filter.2 ⟨hb, (List.mem_filter.1 hmem).2⟩)
    exact hdisj hsub (hrel a (by simp)) (hrel a' (by simp))
  · intro hone
    refine ⟨fun a _ => hkey.sublist (List.filter_sublist.map key), fun {a a'} hsub => ?_⟩
    intro x hx hx'
    obtain ⟨b, hb, rfl⟩ := List.mem_map.1 hx
    obtain ⟨b', hb', heq⟩ := List.mem_map.1 hx'
    obtain ⟨hb, hab⟩ := List.mem_filter.1 hb
    obtain ⟨hb', hab'⟩ := List.mem_filter.1 hb'
    obtain rfl := eq_of_key_eq hkey hb' hb heq
    have hlen := (hsub.filter (rel · b')).length_le
    simp only [List.filter_cons, hab, hab', if_true, List.filter_nil, List.length_cons,
      List.length_nil] at hlen
    have := hone b' hb
    omega

/-! ## Adjacent duplicates -/

/-- The occurrences of an element stand together: there is nothing else between
    two of them. -/
def Together (a : α) (l : List α) : Prop :=
  ∀ before between after, l = before ++ (a :: between ++ a :: after) → ∀ b ∈ between, b = a

theorem together_nil (a : α) : Together a [] := by
  intro before between after heq
  simp at heq

/-- They do if there is one only. -/
theorem together_of_nodup {a : α} {l : List α} (hl : l.Nodup) : Together a l := by
  rintro before between after rfl
  have hnot := (List.nodup_cons.1 (List.nodup_append.1 hl).2.1).1
  simp at hnot

theorem together_cons_of_ne {a b : α} {l : List α} (hb : b ≠ a) :
    Together a (b :: l) ↔ Together a l := by
  constructor
  · rintro h before between after rfl
    exact h (b :: before) between after rfl
  · intro h before between after heq
    rcases before with _ | ⟨c, before⟩
    · rw [List.nil_append, List.cons_append, List.cons.injEq] at heq
      exact absurd heq.1 hb
    · rw [List.cons_append, List.cons.injEq] at heq
      exact h before between after heq.2

/-- Nothing else comes before a later occurrence. -/
theorem together_cons_self {a : α} {l : List α} :
    Together a (a :: l) ↔ ∀ between after, l = between ++ a :: after → ∀ b ∈ between, b = a := by
  constructor
  · rintro h between after rfl
    exact h [] between after rfl
  · intro h before between after heq b hb
    rcases before with _ | ⟨c, before⟩
    · rw [List.nil_append, List.cons_append, List.cons.injEq] at heq
      exact h between after heq.2 b hb
    · rw [List.cons_append, List.cons.injEq] at heq
      refine h (before ++ a :: between) after ?_ b (by simp [hb])
      rw [heq.2]
      simp

theorem together_cons_cons_self {a : α} {l : List α} :
    Together a (a :: a :: l) ↔ Together a (a :: l) := by
  rw [together_cons_self, together_cons_self]
  constructor
  · rintro h between after rfl b hb
    exact h (a :: between) after rfl b (List.mem_cons_of_mem _ hb)
  · intro h between after heq b hb
    rcases between with _ | ⟨c, between⟩
    · cases hb
    rw [List.cons_append, List.cons.injEq] at heq
    rcases List.mem_cons.1 hb with rfl | hb
    · exact heq.1.symm
    · exact h between after heq.2 b hb

theorem together_cons_cons_of_ne {a b : α} {l : List α} (hb : b ≠ a) :
    Together a (a :: b :: l) ↔ a ∉ b :: l := by
  rw [together_cons_self]
  constructor
  · intro h hmem
    obtain ⟨between, after, heq⟩ := List.append_of_mem hmem
    rcases between with _ | ⟨c, between⟩
    · rw [List.nil_append, List.cons.injEq] at heq
      exact hb heq.1
    · have hc := h (c :: between) after heq c List.mem_cons_self
      rw [List.cons_append, List.cons.injEq] at heq
      exact hb (heq.1.trans hc)
  · intro hnot between after heq
    refine absurd ?_ hnot
    rw [heq]
    simp

section Destutter

variable [DecidableEq α]

theorem mem_destutter'_ne {a b : α} {l : List α} :
    b ∈ l.destutter' (· ≠ ·) a ↔ b = a ∨ b ∈ l := by
  induction l generalizing a with
  | nil => simp
  | cons c l ih =>
    by_cases hac : a = c
    · obtain rfl := hac
      rw [List.destutter'_cons_neg _ (fun h => h rfl), ih, List.mem_cons]
      tauto
    · rw [List.destutter'_cons_pos _ hac, List.mem_cons, ih, List.mem_cons]

/-- Without its adjacent duplicates a list has the same elements. -/
theorem mem_destutter_ne {b : α} {l : List α} : b ∈ l.destutter (· ≠ ·) ↔ b ∈ l := by
  cases l with
  | nil => simp
  | cons a l => rw [List.destutter_cons', mem_destutter'_ne, List.mem_cons]

theorem count_destutter'_ne_le_one_iff {a b : α} {l : List α} :
    (l.destutter' (· ≠ ·) b).count a ≤ 1 ↔ Together a (b :: l) := by
  induction l generalizing b with
  | nil =>
    refine iff_of_true (List.count_le_length.trans (by simp)) ?_
    intro before between after heq
    have hlen := congrArg List.length heq
    simp at hlen
    omega
  | cons c l ih =>
    by_cases hbc : b = c
    · obtain rfl := hbc
      rw [List.destutter'_cons_neg _ (fun h => h rfl), ih]
      by_cases hb : b = a
      · obtain rfl := hb
        exact together_cons_cons_self.symm
      · exact (together_cons_of_ne hb).symm
    rw [List.destutter'_cons_pos _ hbc]
    by_cases hb : b = a
    · obtain rfl := hb
      -- what comes before is another element
      rw [List.count_cons_self, together_cons_cons_of_ne (Ne.symm hbc), List.mem_cons,
        ← mem_destutter'_ne, ← List.count_eq_zero]
      omega
    · rw [List.count_cons_of_ne hb, ih, together_cons_of_ne hb]

theorem count_destutter_ne_le_one_iff {a : α} {l : List α} :
    (l.destutter (· ≠ ·)).count a ≤ 1 ↔ Together a l := by
  cases l with
  | nil => simpa using together_nil a
  | cons b l => rw [List.destutter_cons', count_destutter'_ne_le_one_iff]

instance (a : α) (l : List α) : Decidable (Together a l) :=
  decidable_of_iff _ count_destutter_ne_le_one_iff

/-- What passes a test is listed once, without adjacent duplicates, if and only if
    the occurrences of each stand together. -/
theorem nodup_filter_destutter_iff {p : α → Bool} {l : List α} :
    ((l.destutter (· ≠ ·)).filter p).Nodup ↔ ∀ a, p a = true → Together a l := by
  rw [List.nodup_iff_count_le_one]
  refine forall_congr' fun a => ?_
  by_cases ha : p a = true
  · rw [List.count_filter ha, count_destutter_ne_le_one_iff]
    exact ⟨fun h _ => h, fun h => h ha⟩
  · refine iff_of_true ?_ fun h => absurd h ha
    rw [List.count_eq_zero.2 fun h => ha (List.mem_filter.1 h).2]
    exact Nat.zero_le _

end Destutter

/-! ## The last write -/

section Settle

variable (hit : β → α → Bool) (write : β → α → α)

/-- The writes of a list that hit an object, in turn. -/
def settle (ws : List β) (a : α) : α := ws.foldl (fun a w => if hit w a then write w a else a) a

/-- The last write that hits counts, if a write replaces those before it and
    does not change what is hit. -/
theorem settle_eq (hwrite : ∀ w w' a, write w (write w' a) = write w a)
    (hhit : ∀ w w' a, hit w (write w' a) = hit w a) (ws : List β) (a : α) :
    settle hit write ws a = ((ws.filter (hit · a)).getLast?.map (write · a)).getD a := by
  induction ws using List.reverseRecOn with
  | nil => rfl
  | append_singleton ws w ih =>
    rw [settle, List.foldl_append, List.foldl_cons, List.foldl_nil, ← settle, ih,
      List.filter_append]
    have hsame : hit w (((ws.filter (hit · a)).getLast?.map (write · a)).getD a) = hit w a := by
      cases (ws.filter (hit · a)).getLast? with
      | none => rfl
      | some w' => exact hhit w w' a
    rw [hsame]
    -- a write that hits is the last one of those that do
    by_cases hw : hit w a
    · have hone : [w].filter (hit · a) = [w] := by simp [hw]
      rw [if_pos hw, hone, List.getLast?_concat]
      cases (ws.filter (hit · a)).getLast? with
      | none => rfl
      | some w' => exact hwrite w w' a
    · have hnone : [w].filter (hit · a) = [] := by simp [hw]
      rw [if_neg hw, hnone, List.append_nil]

/-- Writes that go through a list of objects, in turn. -/
theorem foldl_map_eq (ws : List β) (l : List α) :
    ws.foldl (fun l w => l.map fun a => if hit w a then write w a else a) l =
      l.map (settle hit write ws) := by
  induction ws generalizing l with
  | nil => exact (List.map_id l).symm
  | cons w ws ih =>
    rw [List.foldl_cons, ih, List.map_map]
    rfl

end Settle

/-! ## Up to a failure -/

/-- The elements up to the first one that fails a test, with that one. -/
def takeThrough (p : α → Bool) : List α → List α
  | [] => []
  | a :: l => a :: if p a then takeThrough p l else []

variable {p : α → Bool} {a : α} {l : List α}

theorem mem_of_mem_takeThrough (ha : a ∈ takeThrough p l) : a ∈ l := by
  induction l with
  | nil => exact ha
  | cons b l ih =>
    rw [takeThrough, List.mem_cons] at ha
    rcases ha with rfl | ha
    · exact List.mem_cons_self
    · split at ha
      · exact List.mem_cons_of_mem _ (ih ha)
      · cases ha

/-- Those of them that pass the test are before the first one that fails it. -/
theorem mem_takeThrough_iff (hp : p a) : a ∈ takeThrough p l ↔ a ∈ l.takeWhile p := by
  induction l with
  | nil => rfl
  | cons b l ih =>
    rw [takeThrough, List.takeWhile_cons, List.mem_cons]
    split
    · rw [List.mem_cons, ih]
    next hb =>
      simp only [List.not_mem_nil, or_false, iff_false]
      rintro rfl
      exact hb hp

/-- An element is added to those seen so far, unless it is one of them. -/
theorem eraseDups_concat [BEq α] [LawfulBEq α] (l : List α) (a : α) :
    (l ++ [a]).eraseDups = l.eraseDups ++ if l.contains a then [] else [a] := by
  rw [List.eraseDups_append, List.removeAll, List.filter_cons, List.filter_nil,
    List.elem_eq_contains]
  cases l.contains a <;> rfl

end Lists
