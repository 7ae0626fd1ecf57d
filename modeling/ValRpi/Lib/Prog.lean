import Mathlib.Data.List.Basic
import Mathlib.Data.List.Forall2

/-!
# Programs talking to an environment

A program that makes calls to an environment it does not control. The
environment `K` is a strategy: what it answers may depend on the whole log of
the calls made so far (`Prog.call`), so quantifying over environments
quantifies over every sequence of answers. A program ends in a value, with the
log extended by its calls, or in a fault, which nothing catches.

* `Prog.forEach` is a loop over a list that updates its elements in place and
  threads a state; `forEach_invariant` and `forEach_inPlace` are its invariant
  rules, the second one for an invariant of the whole list, and
  `forEach_eq_map` the one for a body that computes functions;
* `Prog.gather` is a loop that reads; `forEach_eq_gather` makes a loop that reads
  and writes one that reads, followed by the writes;
* `Prog.visitFirst` is the search for the first element passing a test, which
  is then updated in place; `visitFirst_eq` splits it into the search
  (`splitFirst`) and the update, and `visitFirst_eq_map` is the search by key;
* `visitFirst_map` and `forEach_map` are the same on images of the elements, or of
  the state, where their bodies are;
* `bind_eq_ok` takes a successful run of a sequence apart;
* `Prog.Ends` says that a run ends in a value; `ends_bind_iff` goes on after a
  part whose value does not matter for that;
* `Prog.Logs P` says that all the calls of a program satisfy `P`: it is the
  frame rule of what only looks at calls not in `P`; `Prog.Faults P` says the same
  of its faults;
* `Prog.Sees R` says that a program cannot tell two environments apart that have
  in common what `R` says.

The log has the newest entry first.
-/

/-- A computation that may fail ends in a value when its parts do. -/
theorem Except.bind_eq_ok {F α β : Type} {x : Except F α} {f : α → Except F β} {b : β} :
    (x >>= f) = .ok b ↔ ∃ a, x = .ok a ∧ f a = .ok b := by
  cases x with
  | error e => simp [bind, Except.bind]
  | ok a => simp [bind, Except.bind]

theorem Except.ok_bind {F α β : Type} (a : α) (f : α → Except F β) : (.ok a >>= f) = f a := rfl

/-- A program calling the environment `K`, logging entries `E`, that ends in a
    value `α` or in a fault `F`. -/
def Prog (K E F α : Type) := K → List E → Except F (α × List E)

namespace Prog

variable {K E F α β σ : Type}

instance : Monad (Prog K E F) where
  pure a := fun _ l => .ok (a, l)
  bind x f := fun k l => match x k l with
    | .ok (a, l) => f a k l
    | .error e => .error e

/-- A call: the environment answers, seeing the log, and the call is logged. -/
def call (answer : K → List E → α) (entry : α → E) : Prog K E F α :=
  fun k l => .ok (answer k l, entry (answer k l) :: l)

/-- A fault. -/
def fault (e : F) : Prog K E F α := fun _ _ => .error e

/-- A computation without calls. -/
def lift (x : Except F α) : Prog K E F α := fun _ l => x.map (·, l)

/-- The loop over a list that updates its elements and threads a state. -/
def forEach (f : α → σ → Prog K E F (α × σ)) : List α → σ → Prog K E F (List α × σ)
  | [], s => pure ([], s)
  | a :: l, s => do
    let (a, s) ← f a s
    let (l, s) ← forEach f l s
    pure (a :: l, s)

/-- The search for the first element of a list that passes the test, with the
    update of that element. -/
def visitFirst (test : α → Except F Bool) (f : α → Prog K E F (β × α)) :
    List α → Prog K E F (Option β × List α)
  | [] => pure (none, [])
  | a :: l => do
    if ← lift (test a) then
      let (b, a) ← f a
      pure (some b, a :: l)
    else
      let (b, l) ← visitFirst test f l
      pure (b, a :: l)

/-- The loop over a list that updates its elements and gathers what they yield. -/
def gather {ρ : Type} (read : α → Prog K E F (α × Option ρ)) :
    List α → Prog K E F (List α × List ρ)
  | [] => pure ([], [])
  | a :: l => do
    let (a, r) ← read a
    let (l, rs) ← gather read l
    pure (a :: l, r.toList ++ rs)

/-! ## Successful runs -/

variable {k : K} {l l' : List E}

@[simp]
theorem pure_eq_ok {a : α} {r : α × List E} :
    (pure a : Prog K E F α) k l = .ok r ↔ r = (a, l) := by
  simp only [pure, Except.ok.injEq, eq_comm]

@[simp]
theorem fault_eq_ok {e : F} {r : α × List E} : (fault e : Prog K E F α) k l = .ok r ↔ False := by
  simp [fault]

@[simp]
theorem call_eq_ok {answer : K → List E → α} {entry : α → E} {r : α × List E} :
    (call answer entry : Prog K E F α) k l = .ok r ↔
      r = (answer k l, entry (answer k l) :: l) := by
  simp only [call, Except.ok.injEq, eq_comm]

@[simp]
theorem lift_eq_ok {x : Except F α} {r : α × List E} :
    (lift x : Prog K E F α) k l = .ok r ↔ x = .ok r.1 ∧ r.2 = l := by
  obtain ⟨a, l₁⟩ := r
  cases x with
  | error e => simp [lift, Except.map]
  | ok b => simp [lift, Except.map, eq_comm]

theorem lift_ok (a : α) : (lift (.ok a) : Prog K E F α) = pure a := rfl

theorem bind_of_ok {x : Prog K E F α} {f : α → Prog K E F β} {a : α}
    (hx : x k l = .ok (a, l')) : (x >>= f) k l = f a k l' := by
  simp only [bind, hx]

theorem bind_of_error {x : Prog K E F α} {f : α → Prog K E F β} {e : F}
    (hx : x k l = .error e) : (x >>= f) k l = .error e := by
  simp only [bind, hx]

/-- A sequence succeeds when its parts do, the second from the log of the first. -/
@[simp]
theorem bind_eq_ok {x : Prog K E F α} {f : α → Prog K E F β} {r : β × List E} :
    (x >>= f) k l = .ok r ↔ ∃ a l₁, x k l = .ok (a, l₁) ∧ f a k l₁ = .ok r := by
  cases hx : x k l with
  | error e => simp [bind_of_error hx]
  | ok p =>
    obtain ⟨a, l₁⟩ := p
    rw [bind_of_ok hx]
    exact ⟨fun h => ⟨a, l₁, rfl, h⟩, fun ⟨_, _, he, h⟩ => by cases he; exact h⟩

/-- What a run is seen to end in, it ends in. -/
theorem exists_of_map_eq_ok {x : Except F α} {f : α → β} {b : β} (h : x.map f = .ok b) :
    ∃ a, x = .ok a ∧ f a = b := by
  cases x with
  | error _ => cases h
  | ok a => exact ⟨a, rfl, Except.ok.inj h⟩

/-! ## Runs that end -/

/-- The run ends in a value. -/
def Ends (x : Prog K E F α) (k : K) (l : List E) : Prop := ∃ r, x k l = .ok r

theorem ends_pure (a : α) : Ends (pure a : Prog K E F α) k l := ⟨_, rfl⟩

theorem ends_bind_of_ok {x : Prog K E F α} {f : α → Prog K E F β} {a : α}
    (hx : x k l = .ok (a, l')) : Ends (x >>= f) k l ↔ Ends (f a) k l' := by
  rw [Ends, bind_of_ok hx, Ends]

theorem ends_lift_bind_iff {x : Except F α} {f : α → Prog K E F β} :
    Ends (lift x >>= f) k l ↔ ∃ a, x = .ok a ∧ Ends (f a) k l := by
  cases x with
  | error e =>
    refine iff_of_false ?_ ?_
    · rintro ⟨r, hr⟩
      cases hr
    · rintro ⟨a, ha, _⟩
      cases ha
  | ok a =>
    rw [ends_bind_of_ok (a := a) rfl]
    exact ⟨fun h => ⟨a, rfl, h⟩, fun ⟨b, hb, h⟩ => Except.ok.inj hb ▸ h⟩

/-- A sequence ends if its first part does, and the rest does whatever that
    part yields. -/
theorem ends_bind_iff {x : Prog K E F α} {f : α → Prog K E F β} {Q : Prop}
    (hf : ∀ a l₁, x k l = .ok (a, l₁) → (Ends (f a) k l₁ ↔ Q)) :
    Ends (x >>= f) k l ↔ Ends x k l ∧ Q := by
  constructor
  · rintro ⟨r, hr⟩
    obtain ⟨a, l₁, hx, hr⟩ := bind_eq_ok.1 hr
    exact ⟨⟨_, hx⟩, (hf a l₁ hx).1 ⟨r, hr⟩⟩
  · rintro ⟨⟨⟨a, l₁⟩, hx⟩, hQ⟩
    exact (ends_bind_of_ok hx).2 ((hf a l₁ hx).2 hQ)

/-! ## Sequences and loops -/

protected theorem id_map (x : Prog K E F α) : id <$> x = x := by
  funext k l
  change (match x k l with | .ok (a, l) => .ok (a, l) | .error e => .error e) = x k l
  cases x k l <;> rfl

protected theorem bind_assoc {γ : Type} (x : Prog K E F α) (f : α → Prog K E F β)
    (g : β → Prog K E F γ) : x >>= f >>= g = x >>= fun a => f a >>= g := by
  funext k l
  cases hx : x k l with
  | error e => rw [bind_of_error hx, bind_of_error (bind_of_error hx)]
  | ok p =>
    rw [bind_of_ok hx]
    cases hf : f p.1 k p.2 with
    | error e => rw [bind_of_error hf, bind_of_error ((bind_of_ok hx).trans hf)]
    | ok q => rw [bind_of_ok hf, bind_of_ok ((bind_of_ok hx).trans hf)]

instance : LawfulMonad (Prog K E F) :=
  .mk' _ Prog.id_map (fun _ _ => rfl) Prog.bind_assoc

/-- The search of `visitFirst`: the element found, between those before and
    those after it. -/
def splitFirst (test : α → Except F Bool) : List α → Except F (Option (List α × α × List α))
  | [] => .ok none
  | a :: as => match test a with
    | .error e => .error e
    | .ok true => .ok (some ([], a, as))
    | .ok false => match splitFirst test as with
      | .error e => .error e
      | .ok none => .ok none
      | .ok (some (pre, x, post)) => .ok (some (a :: pre, x, post))

/-- The element found is the first one that passes the test. -/
theorem splitFirst_eq_some {test : α → Except F Bool} {as pre post : List α} {a : α}
    (h : splitFirst test as = .ok (some (pre, a, post))) :
    as = pre ++ a :: post ∧ test a = .ok true ∧ ∀ x ∈ pre, test x = .ok false := by
  induction as generalizing pre with
  | nil => simp [splitFirst] at h
  | cons b as ih =>
    rw [splitFirst] at h
    split at h
    · cases h
    next hb => cases h; exact ⟨rfl, hb, by simp⟩
    next hb =>
      split at h
      · cases h
      · cases h
      next hs =>
        cases h
        obtain ⟨rfl, ha, hpre⟩ := ih hs
        exact ⟨rfl, ha, List.forall_mem_cons.2 ⟨hb, hpre⟩⟩

/-- Nothing is found where no element passes the test. -/
theorem splitFirst_eq_none {test : α → Except F Bool} {as : List α}
    (h : splitFirst test as = .ok none) : ∀ x ∈ as, test x = .ok false := by
  induction as with
  | nil => simp
  | cons b as ih =>
    rw [splitFirst] at h
    split at h
    · cases h
    · cases h
    next hb =>
      split at h
      · cases h
      next hs => exact List.forall_mem_cons.2 ⟨hb, ih hs⟩
      · cases h

/-- A search by a test that never fails. -/
theorem splitFirst_of_ok {test : α → Except F Bool} {p : α → Bool} {as : List α}
    (htest : ∀ a ∈ as, test a = .ok (p a)) :
    ∃ found, splitFirst test as = .ok found ∧ found.map (·.2.1) = as.find? p := by
  induction as with
  | nil => exact ⟨none, rfl, rfl⟩
  | cons a as ih =>
    obtain ⟨ha, htest⟩ := List.forall_mem_cons.1 htest
    obtain ⟨found, hfound, hfind⟩ := ih htest
    rw [splitFirst, ha, List.find?_cons]
    cases p a with
    | true => exact ⟨_, rfl, rfl⟩
    | false =>
      dsimp only
      rw [hfound, ← hfind]
      cases found with
      | none => exact ⟨none, rfl, rfl⟩
      | some s => exact ⟨_, rfl, rfl⟩

/-- The search and the update of `visitFirst`. -/
theorem visitFirst_eq (test : α → Except F Bool) (f : α → Prog K E F (β × α)) (as : List α) :
    visitFirst test f as = lift (splitFirst test as) >>= fun
      | none => pure (none, as)
      | some (pre, a, post) => f a >>= fun r => pure (some r.1, pre ++ r.2 :: post) := by
  induction as with
  | nil => rfl
  | cons a as ih =>
    funext k l
    rw [visitFirst, splitFirst]
    cases test a with
    | error e => rfl
    | ok t =>
      cases t with
      | true => rfl
      | false =>
        change (visitFirst test f as >>= fun r => pure (r.1, a :: r.2)) k l = _
        rw [ih, bind_assoc]
        cases hs : splitFirst test as with
        | error e => rfl
        | ok o =>
          cases o with
          | none => rfl
          | some s =>
            obtain ⟨pre, x, post⟩ := s
            change (f x >>= _ >>= _) k l = (f x >>= _) k l
            rw [bind_assoc]
            rfl

/-- A search by key, where keys are not repeated, updates the element with the key. -/
theorem visitFirst_eq_map {κ : Type} [BEq κ] [LawfulBEq κ] {key : α → κ} {x : κ}
    {test : α → Except F Bool} {f : α → Prog K E F (β × α)} {g : α → α} {as as' : List α}
    {r : Option β} (htest : ∀ a ∈ as, test a = .ok (key a == x)) (hkey : (as.map key).Nodup)
    (hf : ∀ a ∈ as, key a = x → ∀ b a' l l', f a k l = .ok ((b, a'), l') → a' = g a)
    (h : visitFirst test f as k l = .ok ((r, as'), l')) :
    as' = as.map fun a => if key a == x then g a else a := by
  have hsame (bs : List α) (hbs : ∀ a ∈ bs, ¬ (key a == x) = true) :
      bs.map (fun a => if key a == x then g a else a) = bs := by
    conv_rhs => rw [← List.map_id bs]
    exact List.map_congr_left fun a ha => if_neg (hbs a ha)
  rw [visitFirst_eq, bind_eq_ok] at h
  obtain ⟨found, _, hlift, h⟩ := h
  obtain ⟨hs, rfl⟩ := lift_eq_ok.1 hlift
  rcases found with _ | ⟨pre, a, post⟩
  · simp only [pure_eq_ok, Prod.mk.injEq] at h
    obtain ⟨⟨_, rfl⟩, _⟩ := h
    refine (hsame _ fun a ha => ?_).symm
    simpa [htest a ha] using splitFirst_eq_none hs a ha
  · obtain ⟨rfl, ha, hpre⟩ := splitFirst_eq_some hs
    simp only [bind_eq_ok, pure_eq_ok, Prod.exists, Prod.mk.injEq] at h
    obtain ⟨b, a', _, hfa, ⟨_, rfl⟩, _⟩ := h
    have hmem : a ∈ pre ++ a :: post := by simp
    have hax : (key a == x) = true := by simpa [htest a hmem] using ha
    obtain rfl := hf a hmem (eq_of_beq hax) _ _ _ _ hfa
    rw [List.map_append, List.map_cons, if_pos hax, hsame pre fun b hb => ?_,
      hsame post fun b hb => ?_]
    · -- an element after the one found has another key
      rw [List.map_append, List.map_cons, List.nodup_append, List.nodup_cons] at hkey
      intro hbx
      refine hkey.2.1.1 ?_
      rw [eq_of_beq hax, ← eq_of_beq hbx]
      exact List.mem_map_of_mem hb
    · simpa [htest b (List.mem_append_left _ hb)] using hpre b hb

/-- The invariant rule of a loop: what its body keeps of the state and the log
    holds at its end. -/
theorem forEach_invariant {f : α → σ → Prog K E F (α × σ)} (Inv : σ → List E → Prop)
    {as as' : List α} {s s' : σ}
    (hf : ∀ a ∈ as, ∀ s a' s' l l', Inv s l → f a s k l = .ok ((a', s'), l') → Inv s' l')
    (h0 : Inv s l) (h : forEach f as s k l = .ok ((as', s'), l')) : Inv s' l' := by
  induction as generalizing s l as' with
  | nil =>
    simp only [forEach, pure_eq_ok, Prod.mk.injEq] at h
    obtain ⟨⟨_, rfl⟩, rfl⟩ := h
    exact h0
  | cons a as ih =>
    simp only [forEach, bind_eq_ok, pure_eq_ok, Prod.exists, Prod.mk.injEq] at h
    obtain ⟨a', s₁, l₁, ha, as₁, s₂, l₂, has, ⟨rfl, rfl⟩, rfl⟩ := h
    exact ih (fun b hb => hf b (List.mem_cons_of_mem _ hb))
      (hf a List.mem_cons_self _ _ _ _ _ h0 ha) has

/-- A loop whose body computes functions of its arguments, as long as the log
    keeps an invariant, is a map and a fold. -/
theorem forEach_eq_map {f : α → σ → Prog K E F (α × σ)} {g : α → α} {w : σ → α → σ}
    (Inv : σ → List E → Prop) {as as' : List α} {s s' : σ}
    (hf : ∀ a ∈ as, ∀ s a' s' l l', Inv s l → f a s k l = .ok ((a', s'), l') →
      a' = g a ∧ s' = w s a ∧ Inv s' l')
    (h0 : Inv s l) (h : forEach f as s k l = .ok ((as', s'), l')) :
    as' = as.map g ∧ s' = as.foldl w s := by
  induction as generalizing s l as' with
  | nil =>
    simp only [forEach, pure_eq_ok, Prod.mk.injEq] at h
    obtain ⟨⟨rfl, rfl⟩, _⟩ := h
    exact ⟨rfl, rfl⟩
  | cons a as ih =>
    simp only [forEach, bind_eq_ok, pure_eq_ok, Prod.exists, Prod.mk.injEq] at h
    obtain ⟨a', s₁, l₁, ha, as₁, s₂, l₂, has, ⟨rfl, rfl⟩, rfl⟩ := h
    obtain ⟨rfl, rfl, h₁⟩ := hf a List.mem_cons_self _ _ _ _ _ h0 ha
    obtain ⟨rfl, rfl⟩ := ih (fun b hb => hf b (List.mem_cons_of_mem _ hb)) h₁ has
    exact ⟨rfl, rfl⟩

/-- A loop that reads and then writes, element by element, is a loop that reads,
    and the writes after it. -/
theorem forEach_eq_gather {ρ : Type} {f : α → σ → Prog K E F (α × σ)}
    {read : α → Prog K E F (α × Option ρ)} {write : σ → ρ → σ} (Inv : σ → Prop)
    {as as' : List α} {s s' : σ}
    (hf : ∀ a ∈ as, ∀ s a' s' l l', Inv s → f a s k l = .ok ((a', s'), l') →
      ∃ r, read a k l = .ok ((a', r), l') ∧ s' = r.toList.foldl write s ∧ Inv s')
    (h0 : Inv s) (h : forEach f as s k l = .ok ((as', s'), l')) :
    ∃ rs, gather read as k l = .ok ((as', rs), l') ∧ s' = rs.foldl write s := by
  induction as generalizing s l as' with
  | nil =>
    simp only [forEach, pure_eq_ok, Prod.mk.injEq] at h
    obtain ⟨⟨rfl, rfl⟩, rfl⟩ := h
    exact ⟨[], rfl, rfl⟩
  | cons a as ih =>
    simp only [forEach, bind_eq_ok, pure_eq_ok, Prod.exists, Prod.mk.injEq] at h
    obtain ⟨a', s₁, l₁, ha, as₁, s₂, l₂, has, ⟨rfl, rfl⟩, rfl⟩ := h
    obtain ⟨r, hread, rfl, h₁⟩ := hf a List.mem_cons_self _ _ _ _ _ h0 ha
    obtain ⟨rs, hgather, rfl⟩ := ih (fun b hb => hf b (List.mem_cons_of_mem _ hb)) h₁ has
    refine ⟨r.toList ++ rs, ?_, (List.foldl_append).symm⟩
    rw [gather, bind_of_ok hread]
    exact (bind_of_ok hgather).trans rfl

/-- What is gathered was yielded by an element that the loop updated. -/
theorem mem_gather {ρ : Type} {read : α → Prog K E F (α × Option ρ)} (P : α → ρ → Prop)
    (hread : ∀ a a' r l l', read a k l = .ok ((a', some r), l') → P a' r) {as as' : List α}
    {rs : List ρ} (h : gather read as k l = .ok ((as', rs), l')) {r : ρ} (hr : r ∈ rs) :
    ∃ a' ∈ as', P a' r := by
  induction as generalizing l as' rs with
  | nil =>
    simp only [gather, pure_eq_ok, Prod.mk.injEq] at h
    obtain ⟨⟨rfl, rfl⟩, _⟩ := h
    cases hr
  | cons a as ih =>
    simp only [gather, bind_eq_ok, pure_eq_ok, Prod.exists, Prod.mk.injEq] at h
    obtain ⟨a₁, r₁, l₁, ha, as₁, rs₁, l₂, has, ⟨rfl, rfl⟩, rfl⟩ := h
    rcases List.mem_append.1 hr with hr | hr
    · obtain rfl := Option.mem_toList.1 hr
      exact ⟨a₁, List.mem_cons_self, hread _ _ _ _ _ ha⟩
    · obtain ⟨a', ha', hP⟩ := ih has hr
      exact ⟨a', List.mem_cons_of_mem _ ha', hP⟩

/-- The invariant rule of a loop for an invariant of the list that it updates,
    part of which lies behind it and part of it ahead. -/
theorem forEach_inPlace {f : α → σ → Prog K E F (α × σ)}
    (Inv : List α → List α → σ → List E → Prop)
    (hf : ∀ behind a ahead s a' s' l l', Inv behind (a :: ahead) s l →
      f a s k l = .ok ((a', s'), l') → Inv (behind ++ [a']) ahead s' l')
    {as as' : List α} {s s' : σ} (behind : List α) (h0 : Inv behind as s l)
    (h : forEach f as s k l = .ok ((as', s'), l')) : Inv (behind ++ as') [] s' l' := by
  induction as generalizing behind s l as' with
  | nil =>
    simp only [forEach, pure_eq_ok, Prod.mk.injEq] at h
    obtain ⟨⟨rfl, rfl⟩, rfl⟩ := h
    rw [List.append_nil]
    exact h0
  | cons a as ih =>
    simp only [forEach, bind_eq_ok, pure_eq_ok, Prod.exists, Prod.mk.injEq] at h
    obtain ⟨a', s₁, l₁, ha, as₁, s₂, l₂, has, ⟨rfl, rfl⟩, rfl⟩ := h
    rw [List.append_cons]
    exact ih (behind ++ [a']) (hf _ _ _ _ _ _ _ _ h0 ha) has

/-- What is kept of each element is kept of the list. -/
theorem map_eq_of_forall₂ {γ : Type} {R : α → α → Prop} {f : α → γ} (hf : ∀ a b, R a b → f b = f a)
    {as bs : List α} (h : List.Forall₂ R as bs) : bs.map f = as.map f := by
  induction h with
  | nil => rfl
  | cons hab _ ih => rw [List.map_cons, List.map_cons, hf _ _ hab, ih]

/-- Each element was made from one. -/
theorem exists_rel_of_mem {R : α → α → Prop} {as bs : List α} (h : List.Forall₂ R as bs) {b : α}
    (hb : b ∈ bs) : ∃ a ∈ as, R a b := by
  induction h with
  | nil => cases hb
  | @cons a b' _ _ hab _ ih =>
    rcases List.mem_cons.1 hb with rfl | hb
    · exact ⟨a, List.mem_cons_self, hab⟩
    · obtain ⟨a', ha', hab'⟩ := ih hb
      exact ⟨a', List.mem_cons_of_mem _ ha', hab'⟩

/-- What is done to each element, done twice. -/
theorem forall₂_trans {R : α → α → Prop} (htrans : ∀ a b c, R a b → R b c → R a c)
    {as bs cs : List α} (hab : List.Forall₂ R as bs) (hbc : List.Forall₂ R bs cs) :
    List.Forall₂ R as cs := by
  induction hab generalizing cs with
  | nil => exact hbc
  | cons h _ ih =>
    rcases hbc with _ | ⟨h', hbc⟩
    exact .cons (htrans _ _ _ h h') (ih hbc)

/-- What holds of a list still does once its elements are replaced, if it does
    when one of them is. -/
theorem forall₂_inPlace {R : α → α → Prop} (Inv : List α → Prop) {as bs : List α}
    (hone : ∀ behind a b ahead, a ∈ as → R a b → Inv (behind ++ a :: ahead) →
      Inv (behind ++ b :: ahead)) (h : List.Forall₂ R as bs) (h0 : Inv as) : Inv bs := by
  suffices hall : ∀ behind, Inv (behind ++ as) → Inv (behind ++ bs) from hall [] h0
  clear h0
  induction h with
  | nil => exact fun _ hinv => hinv
  | @cons a b as bs hab _ ih =>
    intro behind hinv
    rw [List.append_cons]
    refine ih (fun behind a' b' ahead ha' => hone behind a' b' ahead (List.mem_cons_of_mem _ ha'))
      (behind ++ [b]) ?_
    rw [← List.append_cons]
    exact hone behind a b as List.mem_cons_self hab hinv

/-- What a loop does to each element, given what its body does. -/
theorem forEach_forall₂ {f : α → σ → Prog K E F (α × σ)} {R : α → α → Prop}
    (hf : ∀ a s a' s' l l', f a s k l = .ok ((a', s'), l') → R a a') {as as' : List α} {s s' : σ}
    (h : forEach f as s k l = .ok ((as', s'), l')) : List.Forall₂ R as as' := by
  induction as generalizing s l as' with
  | nil =>
    simp only [forEach, pure_eq_ok, Prod.mk.injEq] at h
    obtain ⟨⟨rfl, _⟩, _⟩ := h
    exact .nil
  | cons a as ih =>
    simp only [forEach, bind_eq_ok, pure_eq_ok, Prod.exists, Prod.mk.injEq] at h
    obtain ⟨a', s₁, l₁, ha, as₁, s₂, l₂, has, ⟨rfl, rfl⟩, rfl⟩ := h
    exact .cons (hf _ _ _ _ _ _ ha) (ih has)

/-- What a search does to each element, given what its update does. -/
theorem visitFirst_forall₂ {test : α → Except F Bool} {f : α → Prog K E F (β × α)}
    {R : α → α → Prop} (hrefl : ∀ a, R a a)
    (hf : ∀ a b a' l l', f a k l = .ok ((b, a'), l') → R a a') {as as' : List α} {r : Option β}
    (h : visitFirst test f as k l = .ok ((r, as'), l')) : List.Forall₂ R as as' := by
  rw [visitFirst_eq, bind_eq_ok] at h
  obtain ⟨found, _, hlift, h⟩ := h
  obtain ⟨hs, rfl⟩ := lift_eq_ok.1 hlift
  have hsame (as : List α) : List.Forall₂ R as as := List.forall₂_same.2 fun a _ => hrefl a
  rcases found with _ | ⟨pre, a, post⟩
  · simp only [pure_eq_ok, Prod.mk.injEq] at h
    obtain ⟨⟨_, rfl⟩, _⟩ := h
    exact hsame _
  · simp only [bind_eq_ok, pure_eq_ok, Prod.exists, Prod.mk.injEq] at h
    obtain ⟨b, a', _, ha, ⟨_, rfl⟩, _⟩ := h
    rw [(splitFirst_eq_some hs).1]
    exact List.rel_append (hsame pre) (.cons (hf _ _ _ _ _ ha) (hsame post))

/-! ## Images -/

section Map

variable {γ τ : Type}

/-- A search among images. -/
theorem splitFirst_map (g : γ → α) (test : α → Except F Bool) (as : List γ) :
    splitFirst test (as.map g) = (splitFirst (fun a => test (g a)) as).map
      (Option.map fun s => (s.1.map g, g s.2.1, s.2.2.map g)) := by
  induction as with
  | nil => rfl
  | cons a as ih =>
    rw [List.map_cons, splitFirst, splitFirst, ih]
    cases test (g a) with
    | error e => rfl
    | ok t =>
      cases t with
      | true => rfl
      | false =>
        cases splitFirst (fun a => test (g a)) as with
        | error e => rfl
        | ok found => cases found <;> rfl

theorem visitFirst_map (g : γ → α) {test : α → Except F Bool} {f : α → Prog K E F (β × α)}
    {f' : γ → Prog K E F (β × γ)} (hf : ∀ a, f (g a) = (fun r => (r.1, g r.2)) <$> f' a)
    (as : List γ) : visitFirst test f (as.map g) =
      (fun r => (r.1, r.2.map g)) <$> visitFirst (fun a => test (g a)) f' as := by
  induction as with
  | nil => rfl
  | cons a as ih =>
    rw [List.map_cons, visitFirst, visitFirst, map_bind]
    refine bind_congr fun t => ?_
    cases t with
    | true => simp [hf]
    | false => simp [ih]

/-- A loop on an image of the state. -/
theorem forEach_map (g : τ → σ) {f : α → σ → Prog K E F (α × σ)}
    {f' : α → τ → Prog K E F (α × τ)}
    (hf : ∀ a s, f a (g s) = (fun r => (r.1, g r.2)) <$> f' a s) (as : List α) (s : τ) :
    forEach f as (g s) = (fun r => (r.1, g r.2)) <$> forEach f' as s := by
  induction as generalizing s with
  | nil => rfl
  | cons a as ih => simp [forEach, hf, ih, map_bind, bind_map_left]

end Map

/-! ## What a program logs -/

/-- Every entry the program logs satisfies `P`. -/
def Logs (P : E → Prop) (x : Prog K E F α) : Prop :=
  ∀ k l a l', x k l = .ok (a, l') → ∃ new, l' = new ++ l ∧ ∀ e ∈ new, P e

variable {P : E → Prop}

theorem Logs.pure (a : α) : Logs P (pure a : Prog K E F α) := by
  intro k l b l' h
  simp only [pure_eq_ok, Prod.mk.injEq] at h
  exact ⟨[], h.2, by simp⟩

theorem Logs.fault (e : F) : Logs P (fault e : Prog K E F α) := by
  intro k l b l' h
  simp at h

theorem Logs.lift (x : Except F α) : Logs P (lift x : Prog K E F α) := by
  intro k l b l' h
  exact ⟨[], (lift_eq_ok.1 h).2, by simp⟩

theorem Logs.call {answer : K → List E → α} {entry : α → E} (h : ∀ a, P (entry a)) :
    Logs P (call answer entry : Prog K E F α) := by
  intro k l b l' hc
  simp only [call_eq_ok, Prod.mk.injEq] at hc
  exact ⟨[entry (answer k l)], hc.2, by simpa using h _⟩

theorem Logs.bind {x : Prog K E F α} {f : α → Prog K E F β} (hx : Logs P x)
    (hf : ∀ a, Logs P (f a)) : Logs P (x >>= f) := by
  intro k l b l' h
  obtain ⟨a, l₁, h₁, h₂⟩ := bind_eq_ok.1 h
  obtain ⟨new₁, rfl, hn₁⟩ := hx _ _ _ _ h₁
  obtain ⟨new₂, rfl, hn₂⟩ := hf a _ _ _ _ h₂
  refine ⟨new₂ ++ new₁, by simp, fun e he => ?_⟩
  rcases List.mem_append.1 he with he | he
  exacts [hn₂ e he, hn₁ e he]

theorem Logs.forEach {f : α → σ → Prog K E F (α × σ)} (hf : ∀ a s, Logs P (f a s)) :
    ∀ (as : List α) (s : σ), Logs P (forEach f as s)
  | [], _ => .pure _
  | _ :: as, _ => .bind (hf _ _) fun _ => .bind (Logs.forEach hf as _) fun _ => .pure _

theorem Logs.visitFirst {test : α → Except F Bool} {f : α → Prog K E F (β × α)}
    (hf : ∀ a, Logs P (f a)) : ∀ as : List α, Logs P (visitFirst test f as)
  | [] => .pure _
  | a :: as => by
    refine .bind (.lift _) fun t => ?_
    cases t with
    | true => exact .bind (hf a) fun _ => .pure _
    | false => exact .bind (Logs.visitFirst hf as) fun _ => .pure _

/-! ## What a program faults with -/

/-- Every fault of the program satisfies `P`. -/
def Faults (P : F → Prop) (x : Prog K E F α) : Prop := ∀ k l e, x k l = .error e → P e

variable {P : F → Prop}

theorem Faults.pure (a : α) : Faults P (pure a : Prog K E F α) := by
  intro k l e h
  cases h

theorem Faults.call {answer : K → List E → α} {entry : α → E} :
    Faults P (call answer entry : Prog K E F α) := by
  intro k l e h
  cases h

theorem Faults.lift {x : Except F α} (hx : ∀ e, x = .error e → P e) :
    Faults P (lift x : Prog K E F α) := by
  intro k l e h
  cases x with
  | error e' =>
    cases h
    exact hx e rfl
  | ok a => cases h

theorem Faults.bind {x : Prog K E F α} {f : α → Prog K E F β} (hx : Faults P x)
    (hf : ∀ a, Faults P (f a)) : Faults P (x >>= f) := by
  intro k l e h
  cases hr : x k l with
  | error e' =>
    rw [bind_of_error hr] at h
    cases h
    exact hx _ _ _ hr
  | ok p =>
    rw [bind_of_ok hr] at h
    exact hf _ _ _ _ h

theorem Faults.forEach {f : α → σ → Prog K E F (α × σ)} (hf : ∀ a s, Faults P (f a s)) :
    ∀ (as : List α) (s : σ), Faults P (forEach f as s)
  | [], _ => .pure _
  | _ :: as, _ => .bind (hf _ _) fun _ => .bind (Faults.forEach hf as _) fun _ => .pure _

theorem Faults.visitFirst {test : α → Except F Bool} {f : α → Prog K E F (β × α)}
    (htest : ∀ a e, test a = .error e → P e) (hf : ∀ a, Faults P (f a)) :
    ∀ as : List α, Faults P (visitFirst test f as)
  | [] => .pure _
  | a :: as => by
    refine .bind (.lift (htest a)) fun t => ?_
    cases t with
    | true => exact .bind (hf a) fun _ => .pure _
    | false => exact .bind (Faults.visitFirst htest hf as) fun _ => .pure _

/-! ## What a program sees -/

/-- A run on one environment is a run on any other one that has in common with
    it what `R` says, as far as the run goes. -/
def Sees (R : K → K → List E → Prop) (x : Prog K E F α) : Prop :=
  ∀ k k' l a l', x k l = .ok (a, l') →
    l <:+ l' ∧ ((∀ l₁, l <:+ l₁ → l₁ <:+ l' → R k k' l₁) → x k' l = .ok (a, l'))

variable {R : K → K → List E → Prop}

theorem Sees.pure (a : α) : Sees R (pure a : Prog K E F α) := by
  intro k k' l b l' h
  obtain ⟨rfl, rfl⟩ := Prod.mk.inj (pure_eq_ok.1 h)
  exact ⟨List.suffix_refl _, fun _ => rfl⟩

theorem Sees.fault (e : F) : Sees R (fault e : Prog K E F α) := by
  intro k k' l b l' h
  simp at h

theorem Sees.lift (x : Except F α) : Sees R (lift x : Prog K E F α) := by
  intro k k' l b l' h
  obtain ⟨_, rfl⟩ := lift_eq_ok.1 h
  exact ⟨List.suffix_refl _, fun _ => h⟩

theorem Sees.call {answer : K → List E → α} {entry : α → E}
    (hR : ∀ k k' l, R k k' l → answer k' l = answer k l) :
    Sees R (call answer entry : Prog K E F α) := by
  intro k k' l b l' h
  obtain ⟨rfl, rfl⟩ := Prod.mk.inj (call_eq_ok.1 h)
  refine ⟨List.suffix_cons _ _, fun hcommon => ?_⟩
  rw [call_eq_ok, hR k k' l (hcommon l (List.suffix_refl _) (List.suffix_cons _ _))]

theorem Sees.bind {x : Prog K E F α} {f : α → Prog K E F β} (hx : Sees R x)
    (hf : ∀ a, Sees R (f a)) : Sees R (x >>= f) := by
  intro k k' l b l' h
  obtain ⟨a, l₁, h₁, h₂⟩ := bind_eq_ok.1 h
  obtain ⟨hle₁, hrun₁⟩ := hx k k' _ _ _ h₁
  obtain ⟨hle₂, hrun₂⟩ := hf a k k' _ _ _ h₂
  refine ⟨hle₁.trans hle₂, fun hcommon => bind_eq_ok.2 ⟨a, l₁, ?_, ?_⟩⟩
  · exact hrun₁ fun l₂ hfrom hto => hcommon l₂ hfrom (hto.trans hle₂)
  · exact hrun₂ fun l₂ hfrom hto => hcommon l₂ (hle₁.trans hfrom) hto

theorem Sees.forEach {f : α → σ → Prog K E F (α × σ)} (hf : ∀ a s, Sees R (f a s)) :
    ∀ (as : List α) (s : σ), Sees R (forEach f as s)
  | [], _ => .pure _
  | _ :: as, _ => .bind (hf _ _) fun _ => .bind (Sees.forEach hf as _) fun _ => .pure _

theorem Sees.visitFirst {test : α → Except F Bool} {f : α → Prog K E F (β × α)}
    (hf : ∀ a, Sees R (f a)) : ∀ as : List α, Sees R (visitFirst test f as)
  | [] => .pure _
  | a :: as => by
    refine .bind (.lift _) fun t => ?_
    cases t with
    | true => exact .bind (hf a) fun _ => .pure _
    | false => exact .bind (Sees.visitFirst hf as) fun _ => .pure _

end Prog
