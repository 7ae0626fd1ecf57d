import Mathlib.Data.Finmap
import Mathlib.Order.Lattice.Nat
import ValRpi.Lib.Prog

/-!
# Programs with a heap

Programs as in `Prog` that also keep objects on a heap: they allocate objects, read and
write them through pointers, and free them. Where an object is put is up to an allocator,
which may use the address of one that was freed again: a pointer to a freed object is then
a pointer to another one. An object that is not alive can be neither read nor written nor
freed: that is a fault (`HeapFault.dead`).

`HeapProg.Refines` compares such a program with one that has no heap and passes the objects
around as values: from the same log it makes the same calls and ends alike, in the same
fault or in values that are related. So it uses nothing that is dead.

* `Refines.bind` takes sequences apart, `Refines.lift` is for what does not use the heap,
  `Refines.new_bind`, `Refines.read_bind` and others for what only does that, and
  `Refines.forEach` for loops;
* `exists_of_refines` says what a program ends in that refines another one, and
  `ne_dead_of_refines` what it does not end in.
-/

/-- The objects that are alive, by their addresses. -/
abbrev Heap (A : Type) := Finmap fun _ : ℕ => A

/-- An allocator chooses an address that is not in use; it may look at the log. -/
structure Allocator (E : Type) where
  place : List E → Finset ℕ → ℕ
  place_notMem : ∀ l used, place l used ∉ used

/-- An allocator that uses one address whenever it can, and goes beyond those in use where
    it cannot. -/
def Allocator.reusing (E : Type) (p : ℕ) : Allocator E where
  place _ used := if p ∈ used then used.sup id + 1 else p
  place_notMem _ used := by
    split
    · intro hmem
      have hle : used.sup id + 1 ≤ used.sup id := Finset.le_sup (f := id) hmem
      omega
    next hp => exact hp

/-- A fault of a program without a heap, or the use of an object that is not alive. -/
inductive HeapFault (F : Type)
  | fault (e : F)
  | dead
  deriving DecidableEq, Repr

/-- A program calling the environment `K`, logging entries `E`, with objects `A`, that ends
    in a value `α` or in a fault. -/
def HeapProg (K E F A α : Type) := StateT (Heap A) (Prog K E (HeapFault F)) α

namespace HeapProg

variable {K E F A α β γ δ σ : Type}

instance : Monad (HeapProg K E F A) :=
  inferInstanceAs (Monad (StateT (Heap A) (Prog K E (HeapFault F))))

instance : LawfulMonad (HeapProg K E F A) :=
  inferInstanceAs (LawfulMonad (StateT (Heap A) (Prog K E (HeapFault F))))

/-- A program that does not use the heap. -/
def lift (x : Prog K E F α) : HeapProg K E F A α := fun m k l => match x k l with
  | .ok (a, l) => .ok ((a, m), l)
  | .error e => .error (.fault e)

/-- A new object, by its address. -/
def new (al : Allocator E) (a : A) : HeapProg K E F A ℕ := fun m _ l =>
  .ok ((al.place l m.keys, m.insert (al.place l m.keys) a), l)

/-- The object at an address. -/
def read (p : ℕ) : HeapProg K E F A A := fun m => match m.lookup p with
  | some a => pure (a, m)
  | none => .fault .dead

def write (p : ℕ) (a : A) : HeapProg K E F A Unit := fun m => match m.lookup p with
  | some _ => pure ((), m.insert p a)
  | none => .fault .dead

def free (p : ℕ) : HeapProg K E F A Unit := fun m => match m.lookup p with
  | some _ => pure ((), m.erase p)
  | none => .fault .dead

/-- The loop of `Prog.forEach`. -/
def forEach (f : α → σ → HeapProg K E F A (α × σ)) : List α → σ → HeapProg K E F A (List α × σ)
  | [], s => pure ([], s)
  | a :: l, s => do
    let (a, s) ← f a s
    let (l, s) ← forEach f l s
    pure (a :: l, s)

/-- The search of `Prog.visitFirst`. -/
def visitFirst (test : α → Except F Bool) (f : α → HeapProg K E F A (β × α)) :
    List α → HeapProg K E F A (Option β × List α)
  | [] => pure (none, [])
  | a :: l => do
    if ← lift (.lift (test a)) then
      let (b, a) ← f a
      pure (some b, a :: l)
    else
      let (b, l) ← visitFirst test f l
      pure (b, a :: l)

/-! ## Runs -/

variable {k : K} {l l' : List E} {m m' : Heap A} {p : ℕ} {a : A}

theorem bind_of_ok {x : HeapProg K E F A α} {f : α → HeapProg K E F A β} {b : α}
    (hx : x m k l = .ok ((b, m'), l')) : (x >>= f) m k l = f b m' k l' :=
  Prog.bind_of_ok hx

theorem bind_of_error {x : HeapProg K E F A α} {f : α → HeapProg K E F A β} {e : HeapFault F}
    (hx : x m k l = .error e) : (x >>= f) m k l = .error e :=
  Prog.bind_of_error hx

theorem lift_of_ok {x : Prog K E F α} {b : α} (hx : x k l = .ok (b, l')) :
    (lift x : HeapProg K E F A α) m k l = .ok ((b, m), l') := by
  rw [lift, hx]

theorem lift_of_error {x : Prog K E F α} {e : F} (hx : x k l = .error e) :
    (lift x : HeapProg K E F A α) m k l = .error (.fault e) := by
  rw [lift, hx]

/-- What does not use the heap does not change it. -/
theorem lift_eq_ok {x : Prog K E F α} {r : (α × Heap A) × List E} :
    lift x m k l = .ok r ↔ x k l = .ok (r.1.1, r.2) ∧ r.1.2 = m := by
  obtain ⟨⟨b, m'⟩, l'⟩ := r
  rw [lift]
  cases x k l with
  | error e => simp
  | ok q => simp [Prod.ext_iff, eq_comm, and_assoc, and_comm, and_left_comm]

theorem lift_pure (b : α) : (lift (pure b) : HeapProg K E F A α) = pure b := rfl

theorem lift_bind (x : Prog K E F α) (f : α → Prog K E F β) :
    (lift (x >>= f) : HeapProg K E F A β) = lift x >>= fun b => lift (f b) := by
  funext m k l
  cases hx : x k l with
  | error e => rw [lift_of_error (Prog.bind_of_error hx), bind_of_error (lift_of_error hx)]
  | ok q =>
    obtain ⟨b, l₁⟩ := q
    rw [bind_of_ok (lift_of_ok hx)]
    simp only [lift, Prog.bind_of_ok hx]

theorem new_bind {al : Allocator E} {f : ℕ → HeapProg K E F A α} :
    (new al a >>= f) m k l = f (al.place l m.keys) (m.insert (al.place l m.keys) a) k l := rfl

theorem read_bind {f : A → HeapProg K E F A α} (hp : m.lookup p = some a) :
    (read p >>= f) m k l = f a m k l := by
  refine bind_of_ok ?_
  rw [read, hp]
  rfl

theorem write_bind {f : Unit → HeapProg K E F A α} (hp : p ∈ m) :
    (write p a >>= f) m k l = f () (m.insert p a) k l := by
  obtain ⟨b, hb⟩ := Finmap.mem_iff.1 hp
  refine bind_of_ok ?_
  rw [write, hb]
  rfl

theorem free_of_mem (hp : p ∈ m) :
    (free p : HeapProg K E F A Unit) m k l = .ok (((), m.erase p), l) := by
  obtain ⟨b, hb⟩ := Finmap.mem_iff.1 hp
  rw [free, hb]
  rfl

theorem free_bind {f : Unit → HeapProg K E F A α} (hp : p ∈ m) :
    (free p >>= f) m k l = f () (m.erase p) k l :=
  bind_of_ok (free_of_mem hp)

/-- The search and the update of `visitFirst`. -/
theorem visitFirst_eq (test : α → Except F Bool) (f : α → HeapProg K E F A (β × α))
    (as : List α) :
    visitFirst test f as = lift (.lift (Prog.splitFirst test as)) >>= fun
      | none => pure (none, as)
      | some (pre, a, post) => f a >>= fun r => pure (some r.1, pre ++ r.2 :: post) := by
  induction as with
  | nil => rfl
  | cons a as ih =>
    funext m k l
    rw [visitFirst, Prog.splitFirst]
    cases test a with
    | error e => rfl
    | ok t =>
      cases t with
      | true => rfl
      | false =>
        change (visitFirst test f as >>= fun r => pure (r.1, a :: r.2)) m k l = _
        rw [ih, bind_assoc]
        cases hs : Prog.splitFirst test as with
        | error e => rfl
        | ok o =>
          cases o with
          | none => rfl
          | some s =>
            dsimp only
            rw [Prog.lift_ok, Prog.lift_ok, lift_pure, lift_pure, pure_bind, pure_bind, bind_assoc]
            rfl

/-! ## Heaps -/

/-- An object that is freed at once leaves no trace. -/
theorem erase_insert (hp : p ∉ m) : (m.insert p a).erase p = m := by
  refine Finmap.ext_lookup fun q => ?_
  by_cases hq : q = p
  · subst hq
    rw [Finmap.lookup_erase, Finmap.lookup_eq_none.2 hp]
  · rw [Finmap.lookup_erase_ne hq, Finmap.lookup_insert_of_ne _ hq]

theorem place_notMem (al : Allocator E) (l : List E) (m : Heap A) : al.place l m.keys ∉ m :=
  mt Finmap.mem_keys.2 (al.place_notMem l m.keys)

/-! ## Refinement -/

/-- From a heap and a log, a program ends as one without a heap does: in a fault of it, or
    in values that are related, with the same calls. -/
def Refines (x : HeapProg K E F A α) (m : Heap A) (y : Prog K E F β) (k : K) (l : List E)
    (post : α → Heap A → β → Prop) : Prop :=
  match y k l with
  | .ok (b, l') => ∃ a m', x m k l = .ok ((a, m'), l') ∧ post a m' b
  | .error e => x m k l = .error (.fault e)

section Refines

variable {x : HeapProg K E F A α} {y : Prog K E F β} {post : α → Heap A → β → Prop}

theorem refines_of_ok {b : β} {c : α} (hy : y k l = .ok (b, l'))
    (hx : x m k l = .ok ((c, m'), l')) (hpost : post c m' b) : Refines x m y k l post := by
  rw [Refines, hy]
  exact ⟨c, m', hx, hpost⟩

/-- What a program ends in, the one that it refines ends in. -/
theorem exists_of_refines (h : Refines x m y k l post) {c : α}
    (hx : x m k l = .ok ((c, m'), l')) : ∃ b, y k l = .ok (b, l') ∧ post c m' b := by
  rw [Refines] at h
  split at h
  next b l₁ hy =>
    obtain ⟨c', m₁, hx', hpost⟩ := h
    rw [hx] at hx'
    cases hx'
    exact ⟨b, hy, hpost⟩
  next e hy =>
    rw [hx] at h
    cases h

/-- A program uses nothing that is dead. -/
theorem ne_dead_of_refines (h : Refines x m y k l post) : x m k l ≠ .error .dead := by
  rw [Refines] at h
  split at h
  · obtain ⟨c, m₁, hx, _⟩ := h
    simp [hx]
  · simp [h]

namespace Refines

theorem pure {c : α} {b : β} (hpost : post c m b) :
    Refines (pure c) m (pure b : Prog K E F β) k l post :=
  refines_of_ok rfl rfl hpost

theorem bind {f : α → HeapProg K E F A γ} {g : β → Prog K E F δ} {post' : γ → Heap A → δ → Prop}
    (hx : Refines x m y k l post) (hf : ∀ c m' b l', x m k l = .ok ((c, m'), l') →
      y k l = .ok (b, l') → post c m' b → Refines (f c) m' (g b) k l' post') :
    Refines (x >>= f) m (y >>= g) k l post' := by
  rw [Refines] at hx
  split at hx
  next b l₁ hy =>
    obtain ⟨c, m₁, hx, hpost⟩ := hx
    rw [Refines, bind_of_ok hx, Prog.bind_of_ok hy]
    exact hf c m₁ b l₁ hx hy hpost
  next e hy =>
    rw [Refines, bind_of_error hx, Prog.bind_of_error hy]

/-- What does not use the heap, and so does what it does without. -/
theorem lift (y : Prog K E F β) :
    Refines (lift y) m y k l fun c m' b => c = b ∧ m' = m := by
  rw [Refines]
  split
  next b l₁ hy => exact ⟨b, m, lift_of_ok hy, rfl, rfl⟩
  next e hy => exact lift_of_error hy

/-- The same, on other values. -/
theorem lift_map {z : Prog K E F α} {φ : α → β} (hy : y = φ <$> z) :
    Refines (HeapProg.lift z) m y k l fun c m' b => b = φ c ∧ m' = m := by
  subst hy
  rw [map_eq_pure_bind]
  cases hz : z k l with
  | error e =>
    rw [Refines, Prog.bind_of_error hz]
    exact lift_of_error hz
  | ok q =>
    obtain ⟨c, l₁⟩ := q
    rw [Refines, Prog.bind_of_ok hz]
    exact ⟨c, m, lift_of_ok hz, rfl, rfl⟩

/-- A new object is put where there was none. -/
theorem new_bind {al : Allocator E} {f : ℕ → HeapProg K E F A α}
    (h : ∀ p ∉ m, Refines (f p) (m.insert p a) y k l post) :
    Refines (new al a >>= f) m y k l post := by
  rw [Refines, HeapProg.new_bind]
  exact h _ (place_notMem al l m)

theorem read_bind {f : A → HeapProg K E F A α} (hp : m.lookup p = some a)
    (h : Refines (f a) m y k l post) : Refines (read p >>= f) m y k l post := by
  rwa [Refines, HeapProg.read_bind hp]

theorem write_bind {f : Unit → HeapProg K E F A α} (hp : p ∈ m)
    (h : Refines (f ()) (m.insert p a) y k l post) : Refines (write p a >>= f) m y k l post := by
  rwa [Refines, HeapProg.write_bind hp]

theorem free_bind {f : Unit → HeapProg K E F A α} (hp : p ∈ m)
    (h : Refines (f ()) (m.erase p) y k l post) : Refines (free p >>= f) m y k l post := by
  rwa [Refines, HeapProg.free_bind hp]

/-- A loop whose body keeps a relation between the lists. -/
theorem forEach {f : α → σ → HeapProg K E F A (α × σ)} {g : β → σ → Prog K E F (β × σ)}
    (R : α → β → Prop) (I : Heap A → List α → List β → Prop)
    (hbody : ∀ pre a post pre' b post' s m l, R a b → pre.length = pre'.length →
      I m (pre ++ a :: post) (pre' ++ b :: post') → Refines (f a s) m (g b s) k l fun r m' r' =>
        r.2 = r'.2 ∧ I m' (pre ++ r.1 :: post) (pre' ++ r'.1 :: post'))
    {as : List α} {bs : List β} (hR : List.Forall₂ R as bs) (done : List α) (done' : List β)
    (hlen : done.length = done'.length) {s : σ} (h0 : I m (done ++ as) (done' ++ bs)) :
    Refines (forEach f as s) m (.forEach g bs s) k l fun r m' r' => r.2 = r'.2 ∧
      I m' (done ++ r.1) (done' ++ r'.1) := by
  induction hR generalizing m l done done' s with
  | nil => exact .pure ⟨rfl, h0⟩
  | @cons a b as bs hab _ ih =>
    refine .bind (hbody done a as done' b bs s m l hab hlen h0) fun r m₁ r' l₁ _ _ hr => ?_
    obtain ⟨c, s'⟩ := r
    obtain ⟨c', _⟩ := r'
    obtain ⟨rfl, h₁⟩ := hr
    have hrest := ih (l := l₁) (done ++ [c]) (done' ++ [c']) (by simp [hlen]) (s := s')
      (by simpa using h₁)
    refine hrest.bind fun q m₂ q' l₂ _ _ hq => .pure ⟨hq.1, ?_⟩
    simpa using hq.2

end Refines

end Refines

end HeapProg
