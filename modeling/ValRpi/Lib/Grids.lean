import ValRpi.Lib.Stores

/-!
# Grids of addresses

Addresses in rows that are `pitch` apart, the addresses of a row being `unit` apart. If
the rows do not meet (`Grid.Fits`), an address is that of one cell only (`addr_inj`).

A `Grid.Layer` says which values the cells of a raster store to the addresses of a grid,
of which there may be fewer: `gx * gy` cells of the raster go to one address of the grid.
The last of them is found there, and a raster of layers that do not meet shows a
`Grid.Picture` for each (`Layer.shown_raster`). Also where they meet, it stores at the
addresses of their grids, and at all of them (`Layer.hits_raster`).
-/

/-- A grid of `rows` times `cols` addresses. -/
structure Grid where
  base : ℕ
  pitch : ℕ
  unit : ℕ
  cols : ℕ
  rows : ℕ
  deriving DecidableEq, Repr

namespace Grid

variable {g g' : Grid} {a x y x' y' : ℕ}

/-- The address of a cell. -/
def addr (g : Grid) (x y : ℕ) : ℕ := g.base + y * g.pitch + x * g.unit

/-- An address of the grid. -/
def Has (g : Grid) (a : ℕ) : Prop := ∃ y < g.rows, ∃ x < g.cols, a = g.addr x y

theorem has_addr (hx : x < g.cols) (hy : y < g.rows) : g.Has (g.addr x y) := ⟨y, hy, x, hx, rfl⟩

/-- Two grids have no address in common. -/
def Apart (g g' : Grid) : Prop := ∀ a, g.Has a → ¬ g'.Has a

theorem Apart.symm (h : g.Apart g') : g'.Apart g := fun a ha ha' => h a ha' ha

/-- The last address of a grid that is not empty. -/
def top (g : Grid) : ℕ := g.addr (g.cols - 1) (g.rows - 1)

theorem Has.bounds (h : g.Has a) : g.base ≤ a ∧ a ≤ g.top := by
  obtain ⟨y, hy, x, hx, rfl⟩ := h
  have hrow : y * g.pitch ≤ (g.rows - 1) * g.pitch := Nat.mul_le_mul_right _ (by omega)
  have hcol : x * g.unit ≤ (g.cols - 1) * g.unit := Nat.mul_le_mul_right _ (by omega)
  rw [top, addr, addr]
  omega

/-- A grid whose rows are in memory of `pitch` bytes each. -/
theorem Has.in_rows {mem pitch unit cols rows : ℕ} (offset : ℕ)
    (h : Has ⟨mem + offset, pitch, unit, cols, rows⟩ a)
    (hrow : ∀ x < cols, offset + x * unit < pitch) : mem ≤ a ∧ a < mem + pitch * rows := by
  obtain ⟨y, hy, x, hx, rfl⟩ := h
  have hnext : pitch * (y + 1) ≤ pitch * rows := Nat.mul_le_mul_left _ hy
  have hin := hrow x hx
  rw [Nat.mul_succ, Nat.mul_comm pitch y] at hnext
  simp only [addr]
  omega

/-- The rows do not meet. -/
structure Fits (g : Grid) : Prop where
  unit_pos : 0 < g.unit
  le_pitch : g.cols * g.unit ≤ g.pitch

/-- Addresses of a grid whose rows do not meet are those of one cell. -/
theorem addr_inj (hg : g.Fits) (hx : x < g.cols) (hx' : x' < g.cols) :
    g.addr x y = g.addr x' y' ↔ x = x' ∧ y = y' := by
  have hbelow {x : ℕ} (hx : x < g.cols) : x * g.unit < g.pitch :=
    (Nat.mul_lt_mul_of_pos_right hx hg.unit_pos).trans_le hg.le_pitch
  have hrow {x y x' y' : ℕ} (hx : x < g.cols) (hlt : y < y') : g.addr x y < g.addr x' y' := by
    have hnext : (y + 1) * g.pitch ≤ y' * g.pitch := Nat.mul_le_mul_right _ hlt
    have hin := hbelow hx
    rw [Nat.succ_mul] at hnext
    rw [addr, addr]
    omega
  constructor
  · intro h
    rcases Nat.lt_trichotomy y y' with hlt | rfl | hgt
    · exact absurd h (hrow hx hlt).ne
    · refine ⟨Nat.eq_of_mul_eq_mul_right hg.unit_pos ?_, rfl⟩
      rw [addr, addr] at h
      omega
    · exact absurd h (hrow hx' hgt).ne'
  · rintro ⟨rfl, rfl⟩
    rfl

/-- Grids whose rows share memory, but not at the same distance from its start. -/
theorem apart_of_offsets (base offset offset' : ℕ) {pitch unit unit' cols cols' rows rows' : ℕ}
    (hin : ∀ x < cols, offset + x * unit < pitch) (hin' : ∀ x < cols', offset' + x * unit' < pitch)
    (hne : ∀ x < cols, ∀ x' < cols', offset + x * unit ≠ offset' + x' * unit') :
    Apart ⟨base + offset, pitch, unit, cols, rows⟩
      ⟨base + offset', pitch, unit', cols', rows'⟩ := by
  rintro a ⟨y, _, x, hx, rfl⟩ ⟨y', _, x', hx', h⟩
  simp only [addr] at h
  have hlt := hin x hx
  have hlt' := hin' x' hx'
  have hrow : y = y' := by
    rcases Nat.lt_trichotomy y y' with hyy | rfl | hyy
    · have hnext := Nat.mul_le_mul_right pitch hyy
      rw [Nat.succ_mul] at hnext
      omega
    · rfl
    · have hnext := Nat.mul_le_mul_right pitch hyy
      rw [Nat.succ_mul] at hnext
      omega
  subst hrow
  exact hne x hx x' hx' (by omega)

/-- Grids one of which ends before the other starts. -/
theorem apart_of_top_lt (h : g.top < g'.base) : g.Apart g' := by
  intro a ha ha'
  have hle := ha.bounds.2
  have hge := ha'.bounds.1
  omega

/-- Of the columns of a grid every `n`-th one, from the column `k` on. -/
def every (g : Grid) (n k : ℕ) : Grid :=
  ⟨g.base + k * g.unit, g.pitch, n * g.unit, g.cols / n, g.rows⟩

theorem addr_every (g : Grid) (n k x y : ℕ) : (g.every n k).addr x y = g.addr (n * x + k) y := by
  have hcol : (n * x + k) * g.unit = k * g.unit + x * (n * g.unit) := by
    rw [Nat.add_mul, Nat.add_comm, Nat.mul_comm n x, Nat.mul_assoc]
  rw [addr, addr, every, hcol]
  dsimp only
  omega

theorem Has.of_every {n k : ℕ} (hk : k < n) (h : (g.every n k).Has a) : g.Has a := by
  obtain ⟨y, hy, x, hx, rfl⟩ := h
  rw [addr_every]
  have hle : n * (x + 1) ≤ n * (g.cols / n) := Nat.mul_le_mul_left n hx
  have hcols : n * (g.cols / n) ≤ g.cols := Nat.mul_div_le _ _
  rw [Nat.mul_succ] at hle
  exact has_addr (by omega) hy

/-- The columns are those of the grids of every `n`-th one. -/
theorem has_iff_every {n : ℕ} (hn : 0 < n) (hdvd : n ∣ g.cols) :
    g.Has a ↔ ∃ k < n, (g.every n k).Has a := by
  refine ⟨?_, fun ⟨k, hk, h⟩ => h.of_every hk⟩
  rintro ⟨y, hy, x, hx, rfl⟩
  refine ⟨x % n, Nat.mod_lt _ hn, y, hy, x / n, Nat.div_lt_div_of_lt_of_dvd hdvd hx, ?_⟩
  rw [addr_every, Nat.div_add_mod]

/-! ## Pictures -/

/-- Values for the addresses of a grid. -/
structure Picture (V : Type) where
  grid : Grid
  value : ℕ → ℕ → V

/-- Values for the cells of a raster, `gx * gy` of which share an address of a grid. -/
structure Layer (V : Type) where
  grid : Grid
  gx : ℕ
  gy : ℕ
  value : ℕ → ℕ → V

variable {E V : Type} {stores : E → Option (ℕ × V)} {cols rows : ℕ} {log log' : List E}

variable (stores) in
/-- The values of the pictures are found in their grids, and nothing was stored elsewhere. -/
structure Shown (ps : List (Picture V)) (log : List E) : Prop where
  value : ∀ p ∈ ps, ∀ y < p.grid.rows, ∀ x < p.grid.cols,
    Stores.last stores log (p.grid.addr x y) = some (p.value x y)
  rest : ∀ a, (∀ p ∈ ps, ¬ p.grid.Has a) → Stores.last stores log a = none

/-- Pictures that do not meet may be shown one after the other. -/
theorem Shown.append {ps ps' : List (Picture V)} (h : Shown stores ps log)
    (h' : Shown stores ps' log') (hapart : ∀ p ∈ ps, ∀ p' ∈ ps', p.grid.Apart p'.grid) :
    Shown stores (ps ++ ps') (log' ++ log) := by
  refine ⟨fun p hp y hy x hx => ?_, fun a ha => ?_⟩
  · rw [Stores.last_append]
    rcases List.mem_append.1 hp with hp | hp
    · rw [h'.rest _ fun p' hp' => hapart p hp p' hp' _ (has_addr hx hy), Option.none_or]
      exact h.value p hp y hy x hx
    · rw [h'.value p hp y hy x hx, Option.some_or]
  · rw [Stores.last_append, h'.rest a fun p hp => ha p (List.mem_append_right _ hp),
      h.rest a fun p hp => ha p (List.mem_append_left _ hp), Option.none_or]

/-- What is shown in other grids with the same addresses. -/
theorem Shown.regrid {ps ps' : List (Picture V)} (h : Shown stores ps log)
    (hvalue : ∀ p' ∈ ps', ∀ y < p'.grid.rows, ∀ x < p'.grid.cols, ∃ p ∈ ps, ∃ y₀ < p.grid.rows,
      ∃ x₀ < p.grid.cols, p'.grid.addr x y = p.grid.addr x₀ y₀ ∧ p'.value x y = p.value x₀ y₀)
    (hgrid : ∀ p ∈ ps, ∀ a, p.grid.Has a → ∃ p' ∈ ps', p'.grid.Has a) : Shown stores ps' log := by
  refine ⟨fun p' hp' y hy x hx => ?_, fun a ha => h.rest a fun p hp hhas => ?_⟩
  · obtain ⟨p, hp, y₀, hy₀, x₀, hx₀, haddr, hval⟩ := hvalue p' hp' y hy x hx
    rw [haddr, hval]
    exact h.value p hp y₀ hy₀ x₀ hx₀
  · obtain ⟨p', hp', hhas'⟩ := hgrid p hp a hhas
    exact ha p' hp' hhas'

/-- The pictures may be given in another order, with other values outside of the grids. -/
theorem Shown.congr {ps ps' : List (Picture V)} (h : Shown stores ps log)
    (hvalue : ∀ p' ∈ ps', ∃ p ∈ ps, p'.grid = p.grid ∧
      ∀ y < p.grid.rows, ∀ x < p.grid.cols, p'.value x y = p.value x y)
    (hgrid : ∀ p ∈ ps, ∃ p' ∈ ps', p'.grid = p.grid) : Shown stores ps' log := by
  refine h.regrid (fun p' hp' y hy x hx => ?_) fun p hp a ha => ?_
  · obtain ⟨p, hp, hsame, hval⟩ := hvalue p' hp'
    rw [hsame] at hy hx ⊢
    exact ⟨p, hp, y, hy, x, hx, rfl, hval y hy x hx⟩
  · obtain ⟨p', hp', hsame⟩ := hgrid p hp
    exact ⟨p', hp', hsame ▸ ha⟩

namespace Layer

/-- Where a cell of the raster stores its value. -/
def addr (l : Layer V) (x y : ℕ) : ℕ := l.grid.addr (x / l.gx) (y / l.gy)

/-- The address is one of the grid for each of `cols` times `rows` cells. -/
structure Fits (l : Layer V) (cols rows : ℕ) : Prop where
  gx_pos : 0 < l.gx
  gy_pos : 0 < l.gy
  cols : l.grid.cols = (cols + l.gx - 1) / l.gx
  rows : l.grid.rows = (rows + l.gy - 1) / l.gy

/-- The last of the cells that share an address decides what is found there. -/
def picture (l : Layer V) (cols rows : ℕ) : Picture V where
  grid := l.grid
  value cx cy :=
    l.value (min (l.gx * cx + l.gx - 1) (cols - 1)) (min (l.gy * cy + l.gy - 1) (rows - 1))

variable {l : Layer V} {layers : List (Layer V)}

theorem lt_groups_iff {g n j : ℕ} (hg : 0 < g) : j < (n + g - 1) / g ↔ g * j < n := by
  rw [Nat.lt_iff_add_one_le, Nat.le_div_iff_mul_le hg, Nat.succ_mul, Nat.mul_comm]
  omega

theorem groups_of_dvd {g n : ℕ} (hg : 0 < g) (h : g ∣ n) : (n + g - 1) / g = n / g := by
  obtain ⟨k, rfl⟩ := h
  rw [Nat.mul_div_cancel_left _ hg, Nat.div_eq_iff hg, Nat.mul_comm k g]
  omega

theorem div_lt_groups {g n x : ℕ} (hg : 0 < g) (hx : x < n) : x / g < (n + g - 1) / g :=
  (lt_groups_iff hg).2 ((Nat.mul_div_le x g).trans_lt hx)

theorem Fits.has_addr (h : l.Fits cols rows) (hx : x < cols) (hy : y < rows) :
    l.grid.Has (l.addr x y) :=
  Grid.has_addr (h.cols ▸ div_lt_groups h.gx_pos hx) (h.rows ▸ div_lt_groups h.gy_pos hy)

/-- A layer where no cells share an address. -/
def single (g : Grid) (value : ℕ → ℕ → V) : Layer V := ⟨g, 1, 1, value⟩

theorem fits_single {value : ℕ → ℕ → V} (hcols : g.cols = cols) (hrows : g.rows = rows) :
    (single g value).Fits cols rows :=
  ⟨Nat.one_pos, Nat.one_pos, hcols.trans (Nat.div_one _).symm, hrows.trans (Nat.div_one _).symm⟩

theorem picture_single (g : Grid) (value : ℕ → ℕ → V) (cols rows : ℕ) : ∀ y < rows, ∀ x < cols,
    value x y = ((single g value).picture cols rows).value x y := by
  intro y hy x hx
  simp only [picture, single]
  rw [Nat.min_eq_left (by omega), Nat.min_eq_left (by omega), Nat.one_mul, Nat.one_mul,
    Nat.add_sub_cancel, Nat.add_sub_cancel]

/-- What a cell of the raster stores: a value in each layer. -/
def cell (put : ℕ → V → E) (layers : List (Layer V)) (y x : ℕ) : List E :=
  layers.map fun l => put (l.addr x y) (l.value x y)

variable {put : ℕ → V → E} (hput : ∀ a v, stores (put a v) = some (a, v))
include hput

theorem hits_cell : Stores.Hits stores (cell put layers y x) a ↔ ∃ l ∈ layers, l.addr x y = a := by
  simp only [Stores.Hits, cell, List.mem_map]
  constructor
  · rintro ⟨_, ⟨l, hl, rfl⟩, v, hv⟩
    rw [hput, Option.some.injEq, Prod.mk.injEq] at hv
    exact ⟨l, hl, hv.1⟩
  · rintro ⟨l, hl, rfl⟩
    exact ⟨_, ⟨l, hl, rfl⟩, _, hput _ _⟩

/-- A raster of layers stores at all the addresses of their grids, also where these meet. -/
theorem hits_raster (hfits : ∀ l ∈ layers, l.Fits cols rows) :
    Stores.Hits stores (Stores.raster (cell put layers) cols rows) a ↔
      ∃ l ∈ layers, l.grid.Has a := by
  simp only [Stores.raster, Stores.hits_rounds, hits_cell hput]
  constructor
  · rintro ⟨y, hy, x, hx, l, hl, rfl⟩
    exact ⟨l, hl, (hfits l hl).has_addr hx hy⟩
  · rintro ⟨l, hl, cy, hcy, cx, hcx, rfl⟩
    obtain ⟨hgx, hgy, hcols, hrows⟩ := hfits l hl
    refine ⟨l.gy * cy, (lt_groups_iff hgy).1 (hrows ▸ hcy), l.gx * cx,
      (lt_groups_iff hgx).1 (hcols ▸ hcx), l, hl, ?_⟩
    rw [addr, Nat.mul_div_cancel_left _ hgx, Nat.mul_div_cancel_left _ hgy]

theorem last_cell_cons (a : ℕ) :
    Stores.last stores (cell put (l :: layers) y x) a =
      if l.addr x y = a then some (l.value x y)
      else Stores.last stores (cell put layers y x) a := by
  rw [cell, List.map_cons, Stores.last, List.findSome?_cons, Stores.storedAt, hput,
    Option.bind_some]
  by_cases h : l.addr x y = a
  · rw [if_pos h, if_pos h]
  · rw [if_neg h, if_neg h]
    rfl

/-- Elsewhere a cell stores nothing. -/
theorem last_cell_eq_none (hfits : ∀ l ∈ layers, l.Fits cols rows) (hx : x < cols) (hy : y < rows)
    (ha : ∀ l ∈ layers, ¬ l.grid.Has a) : Stores.last stores (cell put layers y x) a = none := by
  induction layers with
  | nil => rfl
  | cons l layers ih =>
    obtain ⟨hl, hfits⟩ := List.forall_mem_cons.1 hfits
    obtain ⟨hal, ha⟩ := List.forall_mem_cons.1 ha
    rw [last_cell_cons hput, if_neg, ih hfits ha]
    rintro rfl
    exact hal (hl.has_addr hx hy)

/-- In the grid of a layer that has no address in common with the others, a cell stores at
    its address only. -/
theorem last_cell (hapart : layers.Pairwise fun l l' => l.grid.Apart l'.grid)
    (hfits : ∀ l ∈ layers, l.Fits cols rows) (hx : x < cols) (hy : y < rows) (hl : l ∈ layers)
    (ha : l.grid.Has a) :
    Stores.last stores (cell put layers y x) a =
      if l.addr x y = a then some (l.value x y) else none := by
  induction layers with
  | nil => cases hl
  | cons m layers ih =>
    obtain ⟨hm, hapart'⟩ := List.pairwise_cons.1 hapart
    obtain ⟨hmfits, hfits'⟩ := List.forall_mem_cons.1 hfits
    rw [last_cell_cons hput]
    rcases List.mem_cons.1 hl with rfl | hl
    · rw [last_cell_eq_none hput hfits' hx hy fun l' hl' => hm l' hl' a ha]
    · rw [if_neg, ih hapart' hfits' hl]
      rintro rfl
      exact hm l hl _ (hmfits.has_addr hx hy) ha

/-- A raster whose cells store a value in each of some layers shows their pictures. -/
theorem shown_raster (hapart : layers.Pairwise fun l l' => l.grid.Apart l'.grid)
    (hfits : ∀ l ∈ layers, l.Fits cols rows) (hgrids : ∀ l ∈ layers, l.grid.Fits) :
    Shown stores (layers.map (·.picture cols rows))
      (Stores.raster (cell put layers) cols rows) := by
  refine ⟨List.forall_mem_map.2 fun l hl cy hcy cx hcx => ?_, fun a ha => ?_⟩
  · have hlfits := hfits l hl
    have hgx := hlfits.gx_pos
    have hgy := hlfits.gy_pos
    have hcols : l.gx * cx < cols := (lt_groups_iff hgx).1 (hlfits.cols ▸ hcx)
    have hrows : l.gy * cy < rows := (lt_groups_iff hgy).1 (hlfits.rows ▸ hcy)
    have hcell (y : ℕ) (hy : y < rows) (x : ℕ) (hx : x < cols) :
        Stores.last stores (cell put layers y x) (l.grid.addr cx cy) =
          if x / l.gx = cx ∧ y / l.gy = cy then some (l.value x y) else none := by
      rw [last_cell hput hapart hfits hx hy hl (Grid.has_addr hcx hcy)]
      simp only [addr, addr_inj (hgrids l hl) (hlfits.cols ▸ div_lt_groups hgx hx) hcx]
    exact Stores.last_raster_group hgx hgy hcols hrows hcell
  · refine Stores.last_rounds_eq_none fun y hy => Stores.last_rounds_eq_none fun x hx => ?_
    exact last_cell_eq_none hput hfits hx hy fun l hl => ha _ (List.mem_map_of_mem hl)

end Layer

end Grid
