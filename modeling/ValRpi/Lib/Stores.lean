import Mathlib.Data.Nat.Basic
import Mathlib.Order.Basic
import ValRpi.Lib.Prog

/-!
# Stores to memory

Programs that store values at addresses. The log of such a program is all that is
known of the memory after it: `Stores.last` is what was stored last at an
address, if anything was.

* `Prog.Does` says that a program ends in a value with certain new entries in the
  log, whatever it is run on, and `Prog.Throws` that it ends in a fault; both come
  with the rules of sequences and of counted loops (`Prog.forUp`);
* `Stores.rounds` is the log of a loop, given that of each round;
  `last_rounds` says that the last round that stores at an address decides;
* `Stores.Only` says where the entries of a log store, and `Stores.Within` bounds it. The
  rounds of a loop over cells that lie `stride` apart do not meet (`last_rounds_cells`);
* `Stores.raster` is the log of two nested loops, over rows and the cells of a row, and
  `Cells.last` what is found in one of its cells.

The log has the newest entry first.
-/

namespace Prog

variable {K E F α β σ : Type}

/-! ## Counted loops -/

/-- A loop of `n` rounds. -/
def iter (f : σ → Prog K E F σ) : ℕ → σ → Prog K E F σ
  | 0, s => pure s
  | n + 1, s => do
    let s ← f s
    iter f n s

/-- The number of rounds of `for (; i < bound; i += step)`. -/
def trips (i bound step : ℕ) : ℕ := (bound - i + (step - 1)) / step

/-- `for (; i < bound; i += step)`, with a state that the body updates. -/
def forUp (bound step : ℕ) (body : ℕ → σ → Prog K E F σ) (i : ℕ) (s : σ) : Prog K E F (ℕ × σ) :=
  iter (fun (i, s) => do
    let s ← body i s
    pure (i + step, s)) (trips i bound step) (i, s)

theorem trips_one (i bound : ℕ) : trips i bound 1 = bound - i := by
  rw [trips, Nat.sub_self, Nat.add_zero, Nat.div_one]

/-- The values of the counter are those below the bound. -/
theorem lt_trips_iff {i bound step j : ℕ} (hstep : 0 < step) :
    j < trips i bound step ↔ i + step * j < bound := by
  rw [trips, Nat.lt_iff_add_one_le, Nat.le_div_iff_mul_le hstep, Nat.succ_mul, Nat.mul_comm]
  omega

/-- Where the loop stops, the next one with a greater bound goes on. -/
theorem trips_add (i : ℕ) {bound bound' step : ℕ} (hstep : 0 < step) (hle : bound ≤ bound') :
    trips i bound step + trips (i + step * trips i bound step) bound' step =
      trips i bound' step := by
  have hiff (j : ℕ) : j < trips i bound step + trips (i + step * trips i bound step) bound' step ↔
      j < trips i bound' step := by
    rw [lt_trips_iff hstep]
    rcases Nat.lt_or_ge j (trips i bound step) with hj | hj
    · have hlt := (lt_trips_iff hstep).1 hj
      omega
    · obtain ⟨j, rfl⟩ := Nat.exists_eq_add_of_le hj
      rw [Nat.add_lt_add_iff_left, lt_trips_iff hstep, Nat.mul_add, ← Nat.add_assoc]
  have hle₁ := (hiff (trips i bound' step)).not.2 (Nat.lt_irrefl _)
  have hle₂ := (hiff (trips i bound step + trips (i + step * trips i bound step) bound' step)).not.1
    (Nat.lt_irrefl _)
  omega

theorem Logs.iter {P : E → Prop} {f : σ → Prog K E F σ} (hf : ∀ s, Logs P (f s)) :
    ∀ (n : ℕ) (s : σ), Logs P (iter f n s)
  | 0, _ => .pure _
  | n + 1, s => .bind (hf s) fun s' => Logs.iter hf n s'

theorem Logs.forUp {P : E → Prop} {body : ℕ → σ → Prog K E F σ} (hbody : ∀ i s, Logs P (body i s))
    (bound step i : ℕ) (s : σ) : Logs P (forUp bound step body i s) :=
  .iter (fun ⟨i, s⟩ => .bind (hbody i s) fun _ => .pure _) _ _

/-! ## Programs with one outcome -/

/-- The program ends in `a`, with the new entries `new`, whatever it is run on. -/
def Does (x : Prog K E F α) (a : α) (new : List E) : Prop := ∀ k l, x k l = .ok (a, new ++ l)

/-- The program ends in the fault, whatever it is run on. -/
def Throws (x : Prog K E F α) (e : F) : Prop := ∀ k l, x k l = .error e

section Rules

variable {x : Prog K E F α} {f : α → Prog K E F β} {a : α} {b : β} {new new' : List E} {e : F}

theorem Does.pure (a : α) : Does (pure a : Prog K E F α) a [] := fun _ _ => rfl

theorem Does.lift {y : Except F α} (hy : y = .ok a) : Does (lift y : Prog K E F α) a [] := by
  intro k l
  rw [hy]
  rfl

theorem Does.bind (hx : Does x a new) (hf : Does (f a) b new') :
    Does (x >>= f) b (new' ++ new) := by
  intro k l
  rw [bind_of_ok (hx k l), hf, List.append_assoc]

/-- What comes after a computation without calls. -/
theorem Does.lift_bind {y : Except F α} (hy : y = .ok a) (hf : Does (f a) b new) :
    Does (Prog.lift y >>= f) b new := by
  have hbind := (Does.lift hy).bind hf
  rwa [List.append_nil] at hbind

/-- A result that is dropped. -/
theorem Does.drop (hx : Does x a new) (b : β) : Does (x >>= fun _ => Pure.pure b) b new :=
  hx.bind (f := fun _ => Pure.pure b) (Does.pure b)

theorem Throws.lift {y : Except F α} (hy : y = .error e) : Throws (lift y : Prog K E F α) e := by
  intro k l
  rw [hy]
  rfl

theorem Throws.bind (hx : Throws x e) : Throws (x >>= f) e := fun k l => bind_of_error (hx k l)

/-- A fault after what the program does. -/
theorem Does.throws (hx : Does x a new) (hf : Throws (f a) e) : Throws (x >>= f) e := by
  intro k l
  rw [bind_of_ok (hx k l), hf]

end Rules

end Prog

namespace Stores

variable {E A V : Type}

/-! ## Logs of loops -/

/-- The log of a loop, given that of each round. -/
def rounds (new : ℕ → List E) : ℕ → List E
  | 0 => []
  | n + 1 => new n ++ rounds new n

/-- The log of a loop that was taken up again. -/
theorem rounds_add (new : ℕ → List E) (n m : ℕ) :
    rounds new (n + m) = rounds (fun j => new (n + j)) m ++ rounds new n := by
  induction m with
  | zero => rfl
  | succ m ih => rw [Nat.add_succ, rounds, rounds, ih, List.append_assoc]

theorem rounds_congr {new new' : ℕ → List E} {n : ℕ} (h : ∀ j < n, new j = new' j) :
    rounds new n = rounds new' n := by
  induction n with
  | zero => rfl
  | succ n ih =>
    rw [rounds, rounds, h n (Nat.lt_succ_self n), ih fun j hj => h j (Nat.lt_succ_of_lt hj)]

theorem mem_rounds {new : ℕ → List E} {n : ℕ} {e : E} :
    e ∈ rounds new n ↔ ∃ j < n, e ∈ new j := by
  induction n with
  | zero => simp [rounds]
  | succ n ih =>
    rw [rounds, List.mem_append, ih]
    constructor
    · rintro (he | ⟨j, hj, he⟩)
      exacts [⟨n, Nat.lt_succ_self n, he⟩, ⟨j, Nat.lt_succ_of_lt hj, he⟩]
    · rintro ⟨j, hj, he⟩
      rcases Nat.lt_succ_iff_lt_or_eq.1 hj with hj | rfl
      exacts [.inr ⟨j, hj, he⟩, .inl he]

end Stores

namespace Prog

variable {K E F σ : Type} {body : ℕ → σ → Prog K E F σ} {bound step i : ℕ} {s : ℕ → σ}
  {new : ℕ → List E} {e : F}

/-- Rounds that go through the states `s`. -/
theorem Does.iter {f : σ → Prog K E F σ} {n : ℕ}
    (hf : ∀ j < n, Does (f (s j)) (s (j + 1)) (new j)) :
    Does (iter f n (s 0)) (s n) (Stores.rounds new n) := by
  suffices hall : ∀ m j, j + m = n → Does (Prog.iter f m (s j)) (s n)
      (Stores.rounds (fun i => new (j + i)) m) by
    simpa using hall n 0 (Nat.zero_add n)
  intro m
  induction m with
  | zero =>
    rintro j rfl
    exact .pure _
  | succ m ih =>
    intro j hj
    have hrest := ih (j + 1) (by omega)
    have hlog : Stores.rounds (fun i => new (j + i)) (m + 1) =
        Stores.rounds (fun i => new (j + 1 + i)) m ++ new j := by
      rw [Nat.add_comm m 1, Stores.rounds_add, Stores.rounds, Stores.rounds, List.append_nil]
      simp only [Nat.add_zero, Nat.add_assoc]
    rw [hlog]
    exact (hf j (by omega)).bind hrest

/-- The rule of a counted loop, whose state after `j` rounds is `s j`. -/
theorem Does.forUp
    (hbody : ∀ j < trips i bound step, Does (body (i + step * j) (s j)) (s (j + 1)) (new j)) :
    Does (forUp bound step body i (s 0)) (i + step * trips i bound step, s (trips i bound step))
      (Stores.rounds new (trips i bound step)) := by
  refine Does.iter (s := fun j => (i + step * j, s j)) fun j hj => ?_
  have hround := (hbody j hj).bind (f := fun s => Pure.pure (i + step * j + step, s))
      (Does.pure (i + step * j + step, s (j + 1)))
  rw [List.nil_append] at hround
  have hnext : i + step * (j + 1) = i + step * j + step := by rw [Nat.mul_succ, Nat.add_assoc]
  rw [hnext]
  exact hround

/-- A loop that keeps no state. -/
theorem Does.loop {body : ℕ → Prog K E F Unit}
    (hbody : ∀ j < trips i bound step, Does (body (i + step * j)) () (new j)) :
    Does (Prog.forUp bound step (fun i _ => body i) i ()) (i + step * trips i bound step, ())
      (Stores.rounds new (trips i bound step)) :=
  Does.forUp (s := fun _ => ()) hbody

/-- The loop over all numbers below a bound. -/
theorem Does.each {body : ℕ → Prog K E F Unit} (hbody : ∀ j < bound, Does (body j) () (new j)) :
    Does (Prog.forUp bound 1 (fun i _ => body i) 0 ()) (bound, ()) (Stores.rounds new bound) := by
  have htrips : trips 0 bound 1 = bound := trips_one 0 bound
  have hloop : Does (Prog.forUp bound 1 (fun i _ => body i) 0 ()) (0 + 1 * trips 0 bound 1, ())
      (Stores.rounds new (trips 0 bound 1)) := by
    refine Does.loop fun j hj => ?_
    rw [Nat.one_mul, Nat.zero_add]
    exact hbody j (htrips ▸ hj)
  rwa [htrips, Nat.one_mul, Nat.zero_add] at hloop

/-- A loop that goes on where one from 0 on stopped, in the same numbering of the rounds. -/
theorem Does.resume {body : ℕ → Prog K E F Unit} {n n' : ℕ}
    (hn : n + trips (step * n) bound step = n')
    (hbody : ∀ j, n ≤ j → j < n' → Does (body (step * j)) () (new j)) :
    ∃ new', Does (Prog.forUp bound step (fun i _ => body i) (step * n) ()) (step * n', ()) new' ∧
      Stores.rounds new n' = new' ++ Stores.rounds new n := by
  have hloop : Does (Prog.forUp bound step (fun i _ => body i) (step * n) ())
      (step * n + step * trips (step * n) bound step, ())
      (Stores.rounds (fun j => new (n + j)) (trips (step * n) bound step)) := by
    refine Does.loop fun j hj => ?_
    rw [← Nat.mul_add]
    exact hbody (n + j) (Nat.le_add_right _ _) (by omega)
  rw [← Nat.mul_add, hn] at hloop
  refine ⟨_, hloop, ?_⟩
  rw [← hn, Stores.rounds_add]

/-- A loop over rows, where a pointer goes on by `stride` after each. -/
theorem Does.rows {ρ : Type} {row : ℕ → ℕ → Prog K E F ρ} {r : ℕ → ρ} {stride : ℕ} (hi : i ≤ bound)
    (hrow : ∀ y, i ≤ y → y < bound → Does (row y (y * stride)) (r y) (new y)) :
    Does (Prog.forUp bound 1 (fun y far => row y far >>= fun _ => Pure.pure (far + stride)) i
        (i * stride)) (bound, bound * stride)
      (Stores.rounds (fun j => new (i + j)) (bound - i)) := by
  have hloop : Does (Prog.forUp bound 1
      (fun y far => row y far >>= fun _ => Pure.pure (far + stride)) i ((i + 0) * stride))
      (i + 1 * trips i bound 1, (i + trips i bound 1) * stride)
      (Stores.rounds (fun j => new (i + j)) (trips i bound 1)) := by
    refine Does.forUp (s := fun j => (i + j) * stride) fun j hj => ?_
    rw [trips_one] at hj
    have hround := (hrow (i + j) (Nat.le_add_right _ _) (by omega)).drop ((i + j) * stride + stride)
    rw [Nat.one_mul, ← Nat.add_assoc, Nat.succ_mul]
    exact hround
  rwa [trips_one, Nat.one_mul, Nat.add_sub_cancel' hi, Nat.add_zero] at hloop

/-- The loop over all numbers below a bound, with the state `s` before each round. -/
theorem Does.all {t : σ} (h0 : s 0 = t)
    (hbody : ∀ j < bound, Does (body j (s j)) (s (j + 1)) (new j)) :
    Does (Prog.forUp bound 1 body 0 t) (bound, s bound) (Stores.rounds new bound) := by
  subst h0
  have hloop : Does (Prog.forUp bound 1 body 0 (s 0)) (0 + 1 * trips 0 bound 1, s (trips 0 bound 1))
      (Stores.rounds new (trips 0 bound 1)) := by
    refine Does.forUp fun j hj => ?_
    rw [Nat.one_mul, Nat.zero_add]
    exact hbody j (by rwa [trips_one] at hj)
  rwa [trips_one, Nat.sub_zero, Nat.one_mul, Nat.zero_add] at hloop

/-- The loop over all rows. -/
theorem Does.allRows {ρ : Type} {row : ℕ → ℕ → Prog K E F ρ} {r : ℕ → ρ} {stride : ℕ}
    (hrow : ∀ y < bound, Does (row y (y * stride)) (r y) (new y)) :
    Does (Prog.forUp bound 1 (fun y far => row y far >>= fun _ => Pure.pure (far + stride)) 0 0)
      (bound, bound * stride) (Stores.rounds new bound) := by
  refine Does.all (s := fun y => y * stride) (Nat.zero_mul stride) fun y hy => ?_
  rw [Nat.succ_mul]
  exact (hrow y hy).drop _

/-- A fault in the first round of a loop. -/
theorem Throws.forUp {s : σ} (hlt : i < bound) (hstep : 0 < step) (hbody : Throws (body i s) e) :
    Throws (forUp bound step body i s) e := by
  have htrips : 0 < trips i bound step := (lt_trips_iff hstep).2 (by simpa using hlt)
  obtain ⟨n, hn⟩ := Nat.exists_eq_succ_of_ne_zero htrips.ne'
  rw [Prog.forUp, hn]
  exact hbody.bind.bind

end Prog

namespace Stores

variable {E A V : Type}

/-! ## Where is stored -/

variable (stores : E → Option (A × V)) in
/-- All entries store at addresses that satisfy `P`. -/
def Only (P : A → Prop) (log : List E) : Prop := ∀ e ∈ log, ∀ a v, stores e = some (a, v) → P a

variable (stores : E → Option (A × V)) in
/-- An entry stores at the address. -/
def Hits (log : List E) (a : A) : Prop := ∃ e ∈ log, ∃ v, stores e = some (a, v)

variable {stores : E → Option (A × V)} {log : List E} {new : ℕ → List E} {n : ℕ}

theorem only_iff_hits {P : A → Prop} : Only stores P log ↔ ∀ a, Hits stores log a → P a :=
  ⟨fun h _ ⟨e, he, v, hv⟩ => h e he _ v hv, fun h e he a v hv => h a ⟨e, he, v, hv⟩⟩

theorem hits_append {log' : List E} {a : A} :
    Hits stores (log' ++ log) a ↔ Hits stores log' a ∨ Hits stores log a := by
  simp only [Hits, List.mem_append, or_and_right, exists_or]

theorem hits_rounds {a : A} : Hits stores (rounds new n) a ↔ ∃ j < n, Hits stores (new j) a := by
  simp only [Hits, mem_rounds]
  constructor
  · rintro ⟨e, ⟨j, hj, he⟩, hv⟩
    exact ⟨j, hj, e, he, hv⟩
  · rintro ⟨j, hj, e, he, hv⟩
    exact ⟨e, ⟨j, hj, he⟩, hv⟩

theorem Only.rounds {P : A → Prop} (h : ∀ j < n, Only stores P (new j)) :
    Only stores P (rounds new n) := by
  intro e he
  obtain ⟨j, hj, he⟩ := mem_rounds.1 he
  exact h j hj e he

/-! ## What was stored last -/

variable [DecidableEq A] (stores)

/-- What an entry stores at an address. -/
def storedAt (a : A) (e : E) : Option V :=
  (stores e).bind fun p => if p.1 = a then some p.2 else none

/-- What was stored last at an address. -/
def last (log : List E) (a : A) : Option V := log.findSome? (storedAt stores a)

variable {stores} {a : A}

theorem last_append {log' : List E} :
    last stores (log' ++ log) a = (last stores log' a).or (last stores log a) :=
  List.findSome?_append

theorem last_rounds_eq_none (h : ∀ j < n, last stores (new j) a = none) :
    last stores (rounds new n) a = none := by
  induction n with
  | zero => rfl
  | succ n ih =>
    rw [rounds, last_append, h n (Nat.lt_succ_self n), Option.none_or]
    exact ih fun j hj => h j (Nat.lt_succ_of_lt hj)

/-- The last round that stores at an address decides. -/
theorem last_rounds {j : ℕ} (hj : j < n) (hsome : (last stores (new j) a).isSome)
    (hlater : ∀ i < n, j < i → last stores (new i) a = none) :
    last stores (rounds new n) a = last stores (new j) a := by
  induction n with
  | zero => omega
  | succ n ih =>
    rw [rounds, last_append]
    rcases Nat.lt_succ_iff_lt_or_eq.1 hj with hj | rfl
    · rw [hlater n (Nat.lt_succ_self n) hj, Option.none_or]
      exact ih hj fun i hi => hlater i (Nat.lt_succ_of_lt hi)
    · exact Option.or_of_isSome hsome

/-- The only round that may store at an address decides. -/
theorem last_rounds_of_unique {j : ℕ} (hj : j < n)
    (hother : ∀ i < n, i ≠ j → last stores (new i) a = none) :
    last stores (rounds new n) a = last stores (new j) a := by
  cases hlast : last stores (new j) a with
  | some v =>
    rw [← hlast]
    exact last_rounds hj (Option.isSome_of_eq_some hlast) fun i hi hne => hother i hi (by omega)
  | none =>
    refine last_rounds_eq_none fun i hi => ?_
    rcases eq_or_ne i j with rfl | hne
    exacts [hlast, hother i hi hne]

/-- Of rounds in groups of `g`, those of one group store at an address: the last one of
    the group decides. -/
theorem last_rounds_group {g c : ℕ} (hg : 0 < g) (hc : g * c < n)
    (hin : ∀ j < n, j / g = c → (last stores (new j) a).isSome)
    (hout : ∀ j < n, j / g ≠ c → last stores (new j) a = none) :
    last stores (rounds new n) a = last stores (new (min (g * c + g - 1) (n - 1))) a := by
  have hgroup : ∀ j, j / g = c ↔ g * c ≤ j ∧ j < g * c + g := by
    intro j
    rw [Nat.div_eq_iff hg, Nat.mul_comm c g]
    omega
  refine last_rounds (by omega) (hin _ (by omega) ((hgroup _).2 (by omega))) fun i hi hlater => ?_
  refine hout i hi fun hic => ?_
  rw [hgroup] at hic
  omega

/-- The log of a loop over rows, each of which is a loop over cells. -/
def raster (cell : ℕ → ℕ → List E) (cols rows : ℕ) : List E :=
  rounds (fun y => rounds (cell y) cols) rows

theorem raster_congr {cell cell' : ℕ → ℕ → List E} {cols rows : ℕ}
    (h : ∀ y < rows, ∀ x < cols, cell y x = cell' y x) :
    raster cell cols rows = raster cell' cols rows :=
  rounds_congr fun y hy => rounds_congr (h y hy)

/-- Of the cells of a raster, `gx * gy` store at an address: the last one of them decides. -/
theorem last_raster_group {cell : ℕ → ℕ → List E} {value : ℕ → ℕ → V} {gx gy cx cy cols rows : ℕ}
    (hgx : 0 < gx) (hgy : 0 < gy) (hcx : gx * cx < cols) (hcy : gy * cy < rows)
    (hcell : ∀ y < rows, ∀ x < cols, last stores (cell y x) a =
      if x / gx = cx ∧ y / gy = cy then some (value x y) else none) :
    last stores (raster cell cols rows) a =
      some (value (min (gx * cx + gx - 1) (cols - 1)) (min (gy * cy + gy - 1) (rows - 1))) := by
  have hmin {g c n : ℕ} (hg : 0 < g) (hc : g * c < n) :
      min (g * c + g - 1) (n - 1) < n ∧ min (g * c + g - 1) (n - 1) / g = c := by
    refine ⟨by omega, ?_⟩
    rw [Nat.div_eq_iff hg, Nat.mul_comm c g]
    omega
  obtain ⟨hx, hxc⟩ := hmin hgx hcx
  obtain ⟨hy, hyc⟩ := hmin hgy hcy
  have hrow (y : ℕ) (hy : y < rows) (hyc : y / gy = cy) : last stores (rounds (cell y) cols) a =
      some (value (min (gx * cx + gx - 1) (cols - 1)) y) := by
    rw [last_rounds_group hgx hcx (fun x hx hxc => ?_) fun x hx hxc => ?_, hcell y hy _ hx,
      if_pos ⟨hxc, hyc⟩]
    · rw [hcell y hy x hx, if_pos ⟨hxc, hyc⟩]
      rfl
    · rw [hcell y hy x hx, if_neg fun h => hxc h.1]
  rw [raster, last_rounds_group hgy hcy (fun y hy hyc => ?_) fun y hy hyc => ?_, hrow _ hy hyc]
  · rw [hrow y hy hyc]
    rfl
  · refine last_rounds_eq_none fun x hx => ?_
    rw [hcell y hy x hx, if_neg fun h => hyc h.2]

/-- What was stored last was stored by an entry. -/
theorem exists_of_last_eq_some {v : V} (h : last stores log a = some v) :
    ∃ e ∈ log, stores e = some (a, v) := by
  obtain ⟨e, he, hv⟩ := List.exists_of_findSome?_eq_some h
  refine ⟨e, he, ?_⟩
  obtain ⟨⟨b, w⟩, hs, hbw⟩ := Option.bind_eq_some_iff.1 hv
  obtain ⟨hba, hw⟩ := Option.ite_none_right_eq_some.1 hbw
  rw [hs, ← hba, ← Option.some.inj hw]

/-- Elsewhere nothing is stored. -/
theorem Only.last {P : A → Prop} (h : Only stores P log) (ha : ¬ P a) :
    last stores log a = none := by
  refine Option.eq_none_iff_forall_ne_some.2 fun v hv => ?_
  obtain ⟨e, he, hs⟩ := exists_of_last_eq_some hv
  exact ha (h e he a v hs)

/-! ## Bounds -/

section Within

variable {stores : E → Option (ℕ × V)} {lo hi lo' hi' a : ℕ}

variable (stores) in
/-- All entries store between two addresses. -/
def Within (lo hi : ℕ) (log : List E) : Prop := Only stores (fun a => lo ≤ a ∧ a < hi) log

theorem Within.mono (h : Within stores lo hi log) (hlo : lo' ≤ lo) (hhi : hi ≤ hi') :
    Within stores lo' hi' log := by
  intro e he a v hev
  obtain ⟨hle, hlt⟩ := h e he a v hev
  exact ⟨hlo.trans hle, hlt.trans_le hhi⟩

theorem Within.rounds (h : ∀ j < n, Within stores lo hi (new j)) :
    Within stores lo hi (rounds new n) := Only.rounds h

/-- Outside of where is stored, nothing is. -/
theorem Within.last (h : Within stores lo hi log) (ha : a < lo ∨ hi ≤ a) :
    Stores.last stores log a = none :=
  Only.last (P := fun a => lo ≤ a ∧ a < hi) h (by omega)

/-- Rounds that store in a cell each, the cells being `stride` apart. -/
theorem Within.rounds_cells {base stride : ℕ}
    (h : ∀ j < n, Within stores (base + j * stride) (base + (j + 1) * stride) (new j)) :
    Within stores base (base + n * stride) (Stores.rounds new n) := by
  refine .rounds fun j hj => (h j hj).mono (Nat.le_add_right _ _) ?_
  exact Nat.add_le_add_left (Nat.mul_le_mul_right _ hj) _

/-- The cell that an address is in decides what was stored there. -/
theorem last_rounds_cells {base stride j : ℕ} (hj : j < n)
    (h : ∀ j < n, Within stores (base + j * stride) (base + (j + 1) * stride) (new j))
    (hlo : base + j * stride ≤ a) (hhi : a < base + (j + 1) * stride) :
    Stores.last stores (Stores.rounds new n) a = Stores.last stores (new j) a := by
  refine last_rounds_of_unique hj fun i hi hne => (h i hi).last ?_
  rcases Nat.lt_or_gt_of_ne hne with hlt | hgt
  · exact .inr ((Nat.add_le_add_left (Nat.mul_le_mul_right _ hlt) _).trans hlo)
  · exact .inl (hhi.trans_le (Nat.add_le_add_left (Nat.mul_le_mul_right _ hgt) _))

/-! ## Rasters -/

variable {cell : ℕ → ℕ → List E} {cols rows base pitch unit : ℕ}

variable (stores) in
/-- The cells store in memory that is theirs: rows are `pitch` apart, and the cells of a
    row `unit`. -/
def Cells (base pitch unit cols rows : ℕ) (cell : ℕ → ℕ → List E) : Prop :=
  ∀ y < rows, ∀ x < cols,
    Within stores (base + y * pitch + x * unit) (base + y * pitch + (x + 1) * unit) (cell y x)

theorem Cells.row (h : Cells stores base pitch unit cols rows cell) {y : ℕ} (hy : y < rows) :
    Within stores (base + y * pitch) (base + y * pitch + cols * unit)
      (Stores.rounds (cell y) cols) :=
  .rounds_cells (h y hy)

/-- Where rows do not meet, a cell of a raster keeps what it stored. -/
theorem Cells.last (h : Cells stores base pitch unit cols rows cell) (hpitch : cols * unit ≤ pitch)
    {x y : ℕ} (hy : y < rows) (hx : x < cols) (hlo : base + y * pitch + x * unit ≤ a)
    (hhi : a < base + y * pitch + (x + 1) * unit) :
    Stores.last stores (raster cell cols rows) a = Stores.last stores (cell y x) a := by
  have hrow (j : ℕ) (hj : j < rows) : Within stores (base + j * pitch) (base + (j + 1) * pitch)
      (Stores.rounds (cell j) cols) := by
    refine (h.row hj).mono (Nat.le_refl _) ?_
    rw [Nat.succ_mul]
    omega
  have hend : (x + 1) * unit ≤ cols * unit := Nat.mul_le_mul_right _ hx
  have hnext : base + (y + 1) * pitch = base + y * pitch + pitch := by
    rw [Nat.succ_mul, Nat.add_assoc]
  rw [raster, last_rounds_cells hy hrow (by omega) (by omega),
    last_rounds_cells hx (h y hy) hlo hhi]

/-- Outside of the cells nothing is stored. -/
theorem Cells.last_eq_none (h : Cells stores base pitch unit cols rows cell)
    (ha : ∀ y < rows, ∀ x < cols,
      ¬ (base + y * pitch + x * unit ≤ a ∧ a < base + y * pitch + (x + 1) * unit)) :
    Stores.last stores (raster cell cols rows) a = none := by
  refine last_rounds_eq_none fun y hy => last_rounds_eq_none fun x hx => ?_
  have hxy := ha y hy x hx
  exact (h y hy x hx).last (by omega)

end Within

end Stores
