import ValRpi.Images

/-!
# Bars

The SMPTE pattern: seven bars, below them seven narrow ones, and below these a row of
eight.

* `Smpte.barAt` is the bar that a pixel belongs to; `does_smpteRows` says that the loops
  draw it for each column that is a multiple of the step;
* `throws_smpteRows`: for widths of 4, 5 and 6 the loops divide by zero.
-/

namespace ValRpi

section Bars

variable {C : Type} {table : List C} {width rows step i x : ℕ} {put : ℕ → C → Paint Unit}
  {cell : ℕ → C → List MemEvent}

/-- Which of the lowest bars a column is in. -/
def lowestBar (width x : ℕ) : ℕ :=
  if x < width * 5 / 7 then x * 4 / (width * 5 / 7)
  else if x < width * 6 / 7 then (x - width * 5 / 7) * 3 / (width / 7) + 4
  else 7

/-- The colour of a pixel of an image of `rows` rows. -/
def Smpte.barAt (colors : Smpte C) (width rows x y : ℕ) : Option C :=
  if y < rows * 6 / 9 then colors.top[x * 7 / width]?
  else if y < rows * 7 / 9 then colors.middle[x * 7 / width]?
  else colors.bottom[lowestBar width x]?

/-- As many colours as there are bars. -/
structure Smpte.Full (colors : Smpte C) : Prop where
  top : colors.top.length = 7
  middle : colors.middle.length = 7
  bottom : colors.bottom.length = 8

/-- A width for which the third of the loops over the lowest bars does not divide by zero. -/
def Barred (width : ℕ) : Prop := width < 4 ∨ 6 < width

/-- What is drawn in a column of a bar. -/
def drawn (cell : ℕ → C → List MemEvent) (bar : ℕ → Option C) (x : ℕ) : List MemEvent :=
  (bar x).elim [] (cell x)

theorem divide_of_ne {a b : ℕ} (hb : b ≠ 0) : divide a b = .ok (a / b) := if_neg hb

theorem entry_of_lt (hi : i < table.length) : entry table i = .ok table[i] := by
  rw [entry, List.getElem?_eq_getElem hi]

/-- One column is drawn. -/
theorem does_column (hput : ∀ x c, Prog.Does (put x c) () (cell x c)) {bar : ℕ → Option C}
    (hi : i < table.length) (hbar : bar x = table[i]?) :
    Prog.Does (do put x (← .lift (entry table i))) () (drawn cell bar x) := by
  refine Prog.Does.lift_bind (entry_of_lt hi) ?_
  rw [drawn, hbar, List.getElem?_eq_getElem hi]
  exact hput x _

theorem does_smpteRow (hput : ∀ x c, Prog.Does (put x c) () (cell x c)) (htable : table.length = 7)
    (hwidth : 0 < width) (hwidth16 : width < 2 ^ 16) (hstep : 0 < step) :
    Prog.Does (smpteRow table width step put) () (Stores.rounds
      (fun j => drawn cell (fun x => table[x * 7 / width]?) (step * j))
      (Prog.trips 0 width step)) := by
  refine Prog.Does.drop (Prog.Does.loop fun j hj => ?_) ()
  have hx := (Prog.lt_trips_iff hstep).1 hj
  rw [Nat.zero_add] at hx ⊢
  have hu : u32 (step * j * 7) = step * j * 7 := Nat.mod_eq_of_lt (by omega)
  refine Prog.Does.lift_bind (divide_of_ne hwidth.ne') (does_column hput ?_ (by rw [hu]))
  rw [htable, hu]
  exact Nat.div_lt_of_lt_mul (by omega)

/-- The columns from 0 to 4 of the lowest bars, those to 6, and the rest. -/
theorem lowestBar_bounds (hwidth : 0 < width) (hbarred : Barred width) (hx : x < width) :
    (x < width * 5 / 7 → x * 4 / (width * 5 / 7) < 8) ∧
      (width * 5 / 7 ≤ x → x < width * 6 / 7 →
        width / 7 ≠ 0 ∧ (x - width * 5 / 7) * 3 / (width / 7) + 4 < 8) := by
  constructor
  · intro h
    refine Nat.div_lt_of_lt_mul ?_
    omega
  · intro hlo hhi
    have hpos : width / 7 ≠ 0 := by
      rcases hbarred with hlow | hhigh
      · -- there is no column between those of the other two loops
        obtain rfl | rfl | rfl : width = 1 ∨ width = 2 ∨ width = 3 := by omega
        all_goals omega
      · omega
    refine ⟨hpos, ?_⟩
    have hdiv : (x - width * 5 / 7) * 3 / (width / 7) ≤ 3 := by
      refine Nat.div_le_of_le_mul ?_
      omega
    omega

theorem does_smpteLowest (hput : ∀ x c, Prog.Does (put x c) () (cell x c))
    (htable : table.length = 8) (hwidth : 0 < width) (hwidth16 : width < 2 ^ 16)
    (hbarred : Barred width) (hstep : 0 < step) :
    Prog.Does (smpteLowest table width step put) () (Stores.rounds
      (fun j => drawn cell (fun x => table[lowestBar width x]?) (step * j))
      (Prog.trips 0 width step)) := by
  have hfive : u32 (width * 5) = width * 5 := Nat.mod_eq_of_lt (by omega)
  have hsix : u32 (width * 6) = width * 6 := Nat.mod_eq_of_lt (by omega)
  -- the three loops go through the columns as one
  have hn₂ := Prog.trips_add 0 hstep (show width * 5 / 7 ≤ width * 6 / 7 by omega)
  have hn₃ := Prog.trips_add 0 hstep (show width * 6 / 7 ≤ width by omega)
  rw [Nat.zero_add] at hn₂ hn₃
  have hlt {bound j : ℕ} : j < Prog.trips 0 bound step ↔ step * j < bound := by
    rw [Prog.lt_trips_iff hstep, Nat.zero_add]
  have hlt₁ (j : ℕ) : j < Prog.trips 0 (width * 5 / 7) step ↔ _ := hlt
  have hlt₂ (j : ℕ) : j < Prog.trips 0 (width * 6 / 7) step ↔ _ := hlt
  have hlt₃ (j : ℕ) : j < Prog.trips 0 width step ↔ _ := hlt
  generalize hn₁ : Prog.trips 0 (width * 5 / 7) step = n₁ at *
  generalize Prog.trips 0 (width * 6 / 7) step = n₂ at *
  generalize Prog.trips 0 width step = n₃ at *
  let bar (x : ℕ) := table[lowestBar width x]?
  let new (j : ℕ) := drawn cell bar (step * j)
  obtain ⟨new₁, hfirst, hlog₁⟩ : ∃ new₁, Prog.Does (Prog.forUp (u32 (width * 5) / 7) step
      (fun x _ => do
        let i ← .lift (divide (u32 (x * 4)) (u32 (width * 5) / 7))
        put x (← .lift (entry table i))) (step * 0) ()) (step * n₁, ()) new₁ ∧
        Stores.rounds new n₁ = new₁ ++ Stores.rounds new 0 := by
    refine Prog.Does.resume (by rw [hfive, Nat.mul_zero, Nat.zero_add, hn₁]) fun j _ hj => ?_
    have hx := (hlt₁ j).1 hj
    have hu : u32 (step * j * 4) = step * j * 4 := Nat.mod_eq_of_lt (by omega)
    rw [hfive, hu]
    refine Prog.Does.lift_bind (divide_of_ne (by omega)) (does_column hput ?_ ?_)
    · rw [htable]
      exact (lowestBar_bounds hwidth hbarred (by omega)).1 hx
    · exact congrArg (table[·]?) (if_pos hx)
  obtain ⟨new₂, hsecond, hlog₂⟩ : ∃ new₂, Prog.Does (Prog.forUp (u32 (width * 6) / 7) step
      (fun x _ => do
        let i ← .lift (divide (u32 ((x - u32 (width * 5) / 7) * 3)) (width / 7))
        put x (← .lift (entry table (i + 4)))) (step * n₁) ()) (step * n₂, ()) new₂ ∧
        Stores.rounds new n₂ = new₂ ++ Stores.rounds new n₁ := by
    refine Prog.Does.resume (by rw [hsix]; exact hn₂) fun j hj hj' => ?_
    have hlo : width * 5 / 7 ≤ step * j :=
      Nat.le_of_not_lt fun h => absurd ((hlt₁ j).2 h) (Nat.not_lt.2 hj)
    have hhi := (hlt₂ j).1 hj'
    have hu : u32 ((step * j - width * 5 / 7) * 3) = (step * j - width * 5 / 7) * 3 :=
      Nat.mod_eq_of_lt (by omega)
    obtain ⟨hpos, hlt⟩ := (lowestBar_bounds hwidth hbarred (by omega)).2 hlo hhi
    rw [hfive, hu]
    refine Prog.Does.lift_bind (divide_of_ne hpos) (does_column hput (by rwa [htable]) ?_)
    exact congrArg (table[·]?) ((if_neg (Nat.not_lt.2 hlo)).trans (if_pos hhi))
  obtain ⟨new₃, hthird, hlog₃⟩ : ∃ new₃, Prog.Does (Prog.forUp width step (fun x _ => do
        put x (← .lift (entry table 7))) (step * n₂) ()) (step * n₃, ()) new₃ ∧
        Stores.rounds new n₃ = new₃ ++ Stores.rounds new n₂ := by
    refine Prog.Does.resume hn₃ fun j hj _ => does_column hput (by rw [htable]; decide) ?_
    have hlo : width * 6 / 7 ≤ step * j :=
      Nat.le_of_not_lt fun h => absurd ((hlt₂ j).2 h) (Nat.not_lt.2 hj)
    exact congrArg (table[·]?) ((if_neg (by omega)).trans (if_neg (Nat.not_lt.2 hlo)))
  rw [Stores.rounds, List.append_nil] at hlog₁
  rw [hlog₃, hlog₂, hlog₁, ← List.append_assoc]
  exact hfirst.bind (hsecond.bind (hthird.drop ()))

/-- What the loops draw: in each row, the bars of the columns that are multiples of the step. -/
def barsOf (colors : Smpte C) (width rows step stride : ℕ) (cell : ℕ → ℕ → C → List MemEvent) :
    List MemEvent :=
  Stores.raster (fun y j => drawn (cell (y * stride)) (colors.barAt width rows · y) (step * j))
    (Prog.trips 0 width step) rows

theorem does_smpteRows {colors : Smpte C} (stride : ℕ) (put : ℕ → ℕ → C → Paint Unit)
    {cell : ℕ → ℕ → C → List MemEvent} (hfull : colors.Full)
    (hput : ∀ far x c, Prog.Does (put far x c) () (cell far x c)) (hwidth : 0 < width)
    (hwidth16 : width < 2 ^ 16) (hrows16 : rows < 2 ^ 16) (hbarred : Barred width)
    (hstep : 0 < step) :
    Prog.Does (smpteRows colors width rows step stride put) ()
      (barsOf colors width rows step stride cell) := by
  have hsix : u32 (rows * 6) = rows * 6 := Nat.mod_eq_of_lt (by omega)
  have hseven : u32 (rows * 7) = rows * 7 := Nat.mod_eq_of_lt (by omega)
  let new (y : ℕ) := Stores.rounds (fun j =>
    drawn (cell (y * stride)) (colors.barAt width rows · y) (step * j)) (Prog.trips 0 width step)
  have htop (y : ℕ) (hy : y < rows * 6 / 9) :
      Prog.Does (smpteRow colors.top width step (put (y * stride))) () (new y) := by
    simp only [new, Smpte.barAt, if_pos hy]
    exact does_smpteRow (hput _) hfull.top hwidth hwidth16 hstep
  have hmiddle (y : ℕ) (hle : rows * 6 / 9 ≤ y) (hy : y < rows * 7 / 9) :
      Prog.Does (smpteRow colors.middle width step (put (y * stride))) () (new y) := by
    simp only [new, Smpte.barAt, if_neg (Nat.not_lt.2 hle), if_pos hy]
    exact does_smpteRow (hput _) hfull.middle hwidth hwidth16 hstep
  have hbottom (y : ℕ) (hle : rows * 7 / 9 ≤ y) (_ : y < rows) :
      Prog.Does (smpteLowest colors.bottom width step (put (y * stride))) () (new y) := by
    have hnot : ¬ y < rows * 6 / 9 := by omega
    simp only [new, Smpte.barAt, if_neg hnot, if_neg (Nat.not_lt.2 hle)]
    exact does_smpteLowest (hput _) hfull.bottom hwidth hwidth16 hbarred hstep
  have hlog : barsOf colors width rows step stride cell =
      Stores.rounds (fun j => new (rows * 7 / 9 + j)) (rows - rows * 7 / 9) ++
        Stores.rounds (fun j => new (rows * 6 / 9 + j)) (rows * 7 / 9 - rows * 6 / 9) ++
          Stores.rounds new (rows * 6 / 9) := by
    rw [List.append_assoc, ← Stores.rounds_add, Nat.add_sub_cancel' (by omega),
      ← Stores.rounds_add, Nat.add_sub_cancel' (by omega)]
    rfl
  rw [hlog, smpteRows, hsix, hseven]
  refine (Prog.Does.allRows htop).bind ?_
  refine (Prog.Does.rows (by omega) hmiddle).bind ?_
  exact (Prog.Does.rows (by omega) hbottom).drop ()

/-- For the other widths there is a column between those of the other two loops, and the
    seventh part of the width is 0. -/
theorem throws_smpteLowest (hput : ∀ x c, Prog.Does (put x c) () (cell x c))
    (htable : table.length = 8) (hlow : 4 ≤ width) (hhigh : width ≤ 6) :
    Prog.Throws (smpteLowest table width 1 put) .divByZero := by
  have hfive : u32 (width * 5) = width * 5 := Nat.mod_eq_of_lt (by omega)
  have hsix : u32 (width * 6) = width * 6 := Nat.mod_eq_of_lt (by omega)
  rw [smpteLowest, hfive, hsix]
  have hfirst : Prog.Does (Prog.forUp (width * 5 / 7) 1 (fun x _ => do
        let i ← .lift (divide (u32 (x * 4)) (width * 5 / 7))
        put x (← .lift (entry table i))) 0 ()) (width * 5 / 7, ())
      (Stores.rounds (drawn cell fun x => table[x * 4 / (width * 5 / 7)]?) (width * 5 / 7)) := by
    refine Prog.Does.each fun x hx => ?_
    have hu : u32 (x * 4) = x * 4 := Nat.mod_eq_of_lt (by omega)
    rw [hu]
    refine Prog.Does.lift_bind (divide_of_ne (by omega)) (does_column hput ?_ rfl)
    exact htable ▸ Nat.div_lt_of_lt_mul (by omega)
  have hcolumn : width * 5 / 7 < width * 6 / 7 := by
    obtain rfl | rfl | rfl : width = 4 ∨ width = 5 ∨ width = 6 := by omega
    all_goals decide
  refine hfirst.throws (Prog.Throws.bind (Prog.Throws.forUp hcolumn (by decide) ?_))
  refine Prog.Throws.bind (Prog.Throws.lift ?_)
  exact if_pos (by omega)

theorem throws_smpteRows {colors : Smpte C} {put : ℕ → ℕ → C → Paint Unit}
    {cell : ℕ → ℕ → C → List MemEvent} {stride : ℕ} (hfull : colors.Full)
    (hput : ∀ far x c, Prog.Does (put far x c) () (cell far x c)) (hlow : 4 ≤ width)
    (hhigh : width ≤ 6) (hrows : 0 < rows) (hrows16 : rows < 2 ^ 16) :
    Prog.Throws (smpteRows colors width rows 1 stride put) .divByZero := by
  have hsix : u32 (rows * 6) = rows * 6 := Nat.mod_eq_of_lt (by omega)
  have hseven : u32 (rows * 7) = rows * 7 := Nat.mod_eq_of_lt (by omega)
  have htop (y : ℕ) := does_smpteRow (hput (y * stride)) hfull.top
    (show 0 < width by omega) (by omega) Nat.one_pos
  have hmiddle (y : ℕ) := does_smpteRow (hput (y * stride)) hfull.middle
    (show 0 < width by omega) (by omega) Nat.one_pos
  rw [smpteRows, hsix, hseven]
  refine (Prog.Does.allRows fun y _ => htop y).throws ?_
  refine (Prog.Does.rows (by omega) fun y _ _ => hmiddle y).throws ?_
  refine Prog.Throws.bind (Prog.Throws.forUp (by omega) (by decide) ?_)
  exact (throws_smpteLowest (hput _) hfull.bottom hlow hhigh).bind

/-! ### Colours -/

/-- Every pixel is in a bar. -/
theorem exists_barAt {colors : Smpte C} (hfull : colors.Full) (rows : ℕ) (hwidth : 0 < width)
    (hbarred : Barred width) (hx : x < width) (y : ℕ) :
    ∃ c, colors.barAt width rows x y = some c := by
  have hupper : x * 7 / width < 7 := Nat.div_lt_of_lt_mul (by omega)
  have hlowest : lowestBar width x < 8 := by
    obtain ⟨hfirst, hsecond⟩ := lowestBar_bounds hwidth hbarred hx
    unfold lowestBar
    split
    next h => exact hfirst h
    next h =>
      split
      next h' => exact (hsecond (by omega) h').2
      · decide
  rw [Smpte.barAt]
  split
  · exact ⟨_, List.getElem?_eq_getElem (by rwa [hfull.top])⟩
  · split
    · exact ⟨_, List.getElem?_eq_getElem (by rwa [hfull.middle])⟩
    · exact ⟨_, List.getElem?_eq_getElem (by rwa [hfull.bottom])⟩

def Smpte.map {D : Type} (f : C → D) (colors : Smpte C) : Smpte D :=
  ⟨colors.top.map f, colors.middle.map f, colors.bottom.map f⟩

theorem Smpte.barAt_map {D : Type} (f : C → D) (colors : Smpte C) (width rows x y : ℕ) :
    (colors.map f).barAt width rows x y = (colors.barAt width rows x y).map f := by
  rw [barAt, barAt]
  split
  · exact List.getElem?_map
  · split
    · exact List.getElem?_map
    · exact List.getElem?_map

theorem Smpte.mem_of_barAt {colors : Smpte C} {y : ℕ} {c : C}
    (hc : colors.barAt width rows x y = some c) :
    c ∈ colors.top ++ (colors.middle ++ colors.bottom) := by
  rw [barAt] at hc
  split at hc
  · exact List.mem_append_left _ (List.mem_of_getElem? hc)
  · split at hc
    · exact List.mem_append_right _ (List.mem_append_left _ (List.mem_of_getElem? hc))
    · exact List.mem_append_right _ (List.mem_append_right _ (List.mem_of_getElem? hc))

theorem Smpte.Full.map {D : Type} {colors : Smpte C} (hfull : colors.Full) (f : C → D) :
    (colors.map f).Full :=
  ⟨(List.length_map f).trans hfull.top, (List.length_map f).trans hfull.middle,
    (List.length_map f).trans hfull.bottom⟩

end Bars

/-! ## Pixels of one plane -/

/-- The colours of the bars with their alpha. -/
def smpteColors (middle others : ℕ) : Smpte Rgba where
  top := [⟨192, 192, 192, others⟩, ⟨192, 192, 0, others⟩, ⟨0, 192, 192, others⟩,
    ⟨0, 192, 0, others⟩, ⟨192, 0, 192, others⟩, ⟨192, 0, 0, others⟩, ⟨0, 0, 192, others⟩]
  middle := [⟨0, 0, 192, middle⟩, ⟨19, 19, 19, middle⟩, ⟨192, 0, 192, middle⟩,
    ⟨19, 19, 19, middle⟩, ⟨0, 192, 192, middle⟩, ⟨19, 19, 19, middle⟩, ⟨192, 192, 192, middle⟩]
  bottom := [⟨0, 33, 76, others⟩, ⟨255, 255, 255, others⟩, ⟨50, 0, 106, others⟩,
    ⟨19, 19, 19, others⟩, ⟨9, 9, 9, others⟩, ⟨19, 19, 19, others⟩, ⟨29, 29, 29, others⟩,
    ⟨19, 19, 19, others⟩]

theorem full_smpteColors (middle others : ℕ) : (smpteColors middle others).Full := ⟨rfl, rfl, rfl⟩

theorem small_smpteColors {middle others : ℕ} (hmiddle : middle < 2 ^ 8) (hothers : others < 2 ^ 8)
    {width rows x y : ℕ} {c : Rgba}
    (hc : (smpteColors middle others).barAt width rows x y = some c) : c.Small := by
  have hall : ∀ c ∈ (smpteColors middle others).top ++
      ((smpteColors middle others).middle ++ (smpteColors middle others).bottom), c.Small := by
    simp only [smpteColors, List.cons_append, List.nil_append, List.forall_mem_cons, Rgba.Small,
      Rgba.components, List.not_mem_nil, false_implies, implies_true, and_true]
    omega
  exact hall c (Smpte.mem_of_barAt hc)

/-- The pixels of the bars are those of their colours. -/
theorem smpteRgb_eq {rgb : RgbInfo} (hdeep : ¬ rgb.Deep) (middle others : ℕ) :
    smpteRgb rgb middle others = .ok ((smpteColors middle others).map rgb.pixel) := by
  have hpixel (a : ℕ) : (fun ((r, g, b) : ℕ × ℕ × ℕ) => makeRgba rgb r g b a) =
      fun p => pure (rgb.pixel ⟨p.1, p.2.1, p.2.2, a⟩) := by
    funext p
    exact makeRgba_eq_pixel hdeep ⟨p.1, p.2.1, p.2.2, a⟩
  rw [smpteRgb, hpixel, hpixel, List.mapM_pure, List.mapM_pure, List.mapM_pure]
  rfl

/-- The colour of a pixel with its alpha, in the image of the bars. -/
def barColor (middle others width height x y : ℕ) : Rgba :=
  ((smpteColors middle others).barAt width height x y).getD ⟨0, 0, 0, 0⟩

theorem small_barColor {middle others : ℕ} (hmiddle : middle < 2 ^ 8) (hothers : others < 2 ^ 8)
    (width height x y : ℕ) : (barColor middle others width height x y).Small := by
  rw [barColor]
  cases hc : (smpteColors middle others).barAt width height x y with
  | none => simp [Rgba.Small, Rgba.components]
  | some c => exact small_smpteColors hmiddle hothers hc

section Rgb

variable {rgb : RgbInfo} {bytes middle others mem width height stride : ℕ}

/-- What `fillSmpteRgb` stores. -/
theorem does_fillSmpteRgb (hdeep : ¬ rgb.Deep) (bytes middle others : ℕ) (hmem : mem ≠ 0)
    (hwidth : 0 < width) (hwidth16 : width < 2 ^ 16) (hbarred : Barred width)
    (hheight : 0 < height) (hheight16 : height < 2 ^ 16) (hstride : stride ≠ 0) :
    Prog.Does (fillSmpteRgb bytes middle others rgb mem width height stride) ()
      (pixelsOf rgb bytes mem stride width height (barColor middle others width height)) := by
  rw [fillSmpteRgb, if_neg hmem, if_neg (by omega)]
  have hfull := (full_smpteColors middle others).map rgb.pixel
  have hrows := does_smpteRows stride
    (fun far x color => storeLE bytes (mem + far + x * bytes) color) hfull
    (fun far x color => does_storeLE bytes (mem + far + x * bytes) color) hwidth hwidth16 hheight16
    hbarred Nat.one_pos
  rw [barsOf, Prog.trips_one, Nat.sub_zero] at hrows
  have hlog : pixelsOf rgb bytes mem stride width height (barColor middle others width height) =
      Stores.raster (fun y j =>
        drawn (fun x color => bytesOf bytes (mem + y * stride + x * bytes) color)
          (((smpteColors middle others).map rgb.pixel).barAt width height · y) (1 * j))
        width height := by
    refine Stores.raster_congr fun y _ x hx => ?_
    obtain ⟨c, hc⟩ := exists_barAt (full_smpteColors middle others) height hwidth hbarred hx y
    rw [drawn, Nat.one_mul, Smpte.barAt_map, barColor, hc]
    rfl
  rw [hlog]
  exact Prog.Does.lift_bind (smpteRgb_eq hdeep middle others) hrows

/-- Without as many columns the loops divide by zero. -/
theorem throws_fillSmpteRgb (hdeep : ¬ rgb.Deep) (bytes middle others : ℕ) (hmem : mem ≠ 0)
    (hlow : 4 ≤ width) (hhigh : width ≤ 6) (hheight : 0 < height) (hheight16 : height < 2 ^ 16)
    (hstride : stride ≠ 0) :
    Prog.Throws (fillSmpteRgb bytes middle others rgb mem width height stride) .divByZero := by
  rw [fillSmpteRgb, if_neg hmem, if_neg (by omega)]
  refine (Prog.Does.lift (smpteRgb_eq hdeep middle others)).throws ?_
  exact throws_smpteRows ((full_smpteColors middle others).map rgb.pixel)
    (fun far x color => does_storeLE bytes (mem + far + x * bytes) color) hlow hhigh hheight
    hheight16

/-- A component too deep is found before anything is stored. -/
theorem throws_fillSmpteRgb_of_deep (hle : ∀ c ∈ rgb.components, c.length ≤ 32) (hdeep : rgb.Deep)
    (bytes middle others : ℕ) (hmem : mem ≠ 0) (hwidth : 0 < width) (hheight : 0 < height)
    (hstride : stride ≠ 0) :
    Prog.Throws (fillSmpteRgb bytes middle others rgb mem width height stride) .shiftTooFar := by
  rw [fillSmpteRgb, if_neg hmem, if_neg (by omega)]
  refine Prog.Throws.bind (Prog.Throws.lift ?_)
  rw [smpteRgb, List.mapM_cons]
  dsimp only
  rw [makeRgba_of_deep hle hdeep]
  rfl

end Rgb

/-! ## Luma and chroma -/

theorem full_smpteYuv : smpteYuv.Full := ⟨rfl, rfl, rfl⟩

/-- The luma and chroma of a pixel of an image of `rows` rows. -/
def barYuv (width rows x y : ℕ) : ColorYuv := (smpteYuv.barAt width rows x y).getD ⟨0, 0, 0⟩

/-- Bars that are drawn as layers. -/
theorem barsOf_smpteYuv {width rows step stride : ℕ} {cell : ℕ → ℕ → ColorYuv → List MemEvent}
    (layers : List (Grid.Layer UInt8)) (hwidth : 0 < width) (hbarred : Barred width)
    (hstep : 0 < step)
    (hcell : ∀ y < rows, ∀ j, step * j < width →
      cell (y * stride) (step * j) (barYuv width rows (step * j) y) =
        Grid.Layer.cell .store layers y j) :
    barsOf smpteYuv width rows step stride cell =
      Stores.raster (Grid.Layer.cell .store layers) ((width + step - 1) / step) rows := by
  have htrips : Prog.trips 0 width step = (width + step - 1) / step :=
    congrArg (· / step) (by omega)
  rw [barsOf, ← htrips]
  refine Stores.raster_congr fun y hy j hj => ?_
  have hx := (Prog.lt_trips_iff hstep).1 hj
  rw [Nat.zero_add] at hx
  obtain ⟨c, hc⟩ := exists_barAt full_smpteYuv rows hwidth hbarred hx y
  rw [← hcell y hy j hx, drawn, barYuv, hc]
  rfl

section Planar

variable {yuv : YuvInfo} {yMem uMem vMem width height stride : ℕ}

/-- The layer of the luma of the bars. -/
def barLuma (luma : Grid) (width height : ℕ) : List (Grid.Layer UInt8) :=
  [.single luma fun x y => (barYuv width height x y).y]

/-- The layers of their chroma, where a group of `step` columns has the colour of the
    first. -/
def barChroma (ug vg : Grid) (step width rows : ℕ) : List (Grid.Layer UInt8) :=
  [.single vg fun x y => (barYuv width rows (step * x) y).v,
    .single ug fun x y => (barYuv width rows (step * x) y).u]

theorem fits_barLuma {yg : Grid} (hcols : yg.cols = width) (hrows : yg.rows = height) :
    ∀ l ∈ barLuma yg width height, l.Fits width height :=
  List.forall_mem_singleton.2 (Grid.Layer.fits_single hcols hrows)

theorem fits_barChroma {ug vg : Grid} (step width : ℕ) {rows cols : ℕ} (hucols : ug.cols = cols)
    (hurows : ug.rows = rows) (hvcols : vg.cols = cols) (hvrows : vg.rows = rows) :
    ∀ l ∈ barChroma ug vg step width rows, l.Fits cols rows :=
  List.forall_mem_cons.2 ⟨Grid.Layer.fits_single hvcols hvrows,
    List.forall_mem_singleton.2 (Grid.Layer.fits_single hucols hurows)⟩

/-- All the luma of the bars, then all their chroma. -/
theorem showsYuv_bars {yg ug vg : Grid} (hsep : Separate yg ug vg) (step : ℕ)
    (hugcols : ug.cols = vg.cols) (hugrows : ug.rows = vg.rows) :
    ShowsYuv
      (Stores.raster (Grid.Layer.cell .store (barChroma ug vg step yg.cols vg.rows)) vg.cols
          vg.rows ++
        Stores.raster (Grid.Layer.cell .store (barLuma yg yg.cols yg.rows)) yg.cols yg.rows)
      yg ug vg (barYuv yg.cols yg.rows) fun x y => barYuv yg.cols vg.rows (step * x) y := by
  have hluma := Grid.Layer.shown_raster stores_store (List.pairwise_singleton _ _)
    (fits_barLuma (Eq.refl yg.cols) (Eq.refl yg.rows)) (List.forall_mem_singleton.2 hsep.fits_y)
  have hchroma := Grid.Layer.shown_raster stores_store (List.pairwise_pair.2 hsep.apart_uv.symm)
    (fits_barChroma step yg.cols hugcols hugrows rfl rfl)
    (List.forall_mem_cons.2 ⟨hsep.fits_v, List.forall_mem_singleton.2 hsep.fits_u⟩)
  have hshown := hluma.append hchroma ?_
  · refine hshown.congr ?_ ?_
    · simp only [yuvPictures, List.forall_mem_cons, List.not_mem_nil, false_implies, implies_true,
        and_true]
      exact ⟨⟨_, .head _, rfl,
          Grid.Layer.picture_single yg (fun x y => (barYuv yg.cols yg.rows x y).y) _ _⟩,
        ⟨_, .tail _ (.tail _ (.head _)), rfl, by
          dsimp only [Grid.Layer.picture, Grid.Layer.single]
          rw [hugcols, hugrows]
          exact Grid.Layer.picture_single ug
            (fun x y => (barYuv yg.cols vg.rows (step * x) y).u) _ _⟩,
        ⟨_, .tail _ (.head _), rfl,
          Grid.Layer.picture_single vg (fun x y => (barYuv yg.cols vg.rows (step * x) y).v) _ _⟩⟩
    · simp only [List.map_cons, List.map_nil, List.cons_append, List.nil_append,
        List.forall_mem_cons, List.not_mem_nil, false_implies, implies_true, and_true]
      exact ⟨⟨_, .head _, rfl⟩, ⟨_, .tail _ (.tail _ (.head _)), rfl⟩, ⟨_, .tail _ (.head _), rfl⟩⟩
  · simp only [List.map_cons, List.map_nil, List.forall_mem_cons,
      List.not_mem_nil, false_implies, implies_true, and_true]
    exact ⟨hsep.apart_yv, hsep.apart_yu⟩

/-- What `fillSmpteYuvPlanar` stores: all the luma, then all the chroma. -/
theorem does_fillSmpteYuvPlanar (hxsub : 0 < yuv.xsub) (hysub : 0 < yuv.ysub)
    (hcs : yuv.chromaStride ≤ 2) (hy : yMem ≠ 0) (hu : uMem ≠ 0) (hv : vMem ≠ 0)
    (hwidth : 0 < width) (hwidth16 : width < 2 ^ 16) (hbarred : Barred width)
    (hheight : 0 < height) (hheight16 : height < 2 ^ 16) (hstride : stride ≠ 0) :
    Prog.Does (fillSmpteYuvPlanar yuv yMem uMem vMem width height stride) ()
      (Stores.raster (Grid.Layer.cell .store (barChroma
          (yuv.chromaGrid uMem stride width (height / yuv.ysub))
          (yuv.chromaGrid vMem stride width (height / yuv.ysub)) yuv.xsub width
          (height / yuv.ysub))) ((width + yuv.xsub - 1) / yuv.xsub) (height / yuv.ysub) ++
        Stores.raster (Grid.Layer.cell .store
          (barLuma (lumaGrid yMem stride width height) width height)) width height) := by
  rw [fillSmpteYuvPlanar, if_neg (by tauto), if_neg (by omega)]
  have hrows : height / yuv.ysub < 2 ^ 16 := (Nat.div_le_self _ _).trans_lt hheight16
  have hluma := does_smpteRows stride (fun far x color => store (yMem + far + x) color.y)
    full_smpteYuv (fun far x color => does_store (yMem + far + x) color.y) hwidth hwidth16 hheight16
    hbarred Nat.one_pos
  have hchroma := does_smpteRows (u32 (stride * yuv.chromaStride) / yuv.xsub)
    (fun far x color => do
      let i ← .lift (divide (u32 (x * yuv.chromaStride)) yuv.xsub)
      store (uMem + far + i) color.u
      store (vMem + far + i) color.v) full_smpteYuv
    (fun far x color => Prog.Does.lift_bind (divide_of_ne hxsub.ne')
      (does_store_bind (does_store _ _) _ _)) hwidth hwidth16 hrows hbarred hxsub
  rw [barsOf_smpteYuv (barLuma (lumaGrid yMem stride width height) width height)
    hwidth hbarred Nat.one_pos fun y _ j _ => ?_, Nat.add_sub_cancel, Nat.div_one] at hluma
  rw [barsOf_smpteYuv (barChroma (yuv.chromaGrid uMem stride width (height / yuv.ysub))
    (yuv.chromaGrid vMem stride width (height / yuv.ysub)) yuv.xsub width (height / yuv.ysub))
    hwidth hbarred hxsub fun y _ j hj => ?_] at hchroma
  · refine hluma.bind (f := fun _ => _) ?_
    exact Prog.Does.lift_bind (divide_of_ne hysub.ne')
      (Prog.Does.lift_bind (divide_of_ne hxsub.ne') hchroma)
  · have hmul : yuv.xsub * j * yuv.chromaStride ≤ yuv.xsub * j * 2 := Nat.mul_le_mul_left _ hcs
    have hu : u32 (yuv.xsub * j * yuv.chromaStride) / yuv.xsub = j * yuv.chromaStride := by
      rw [u32, Nat.mod_eq_of_lt (by omega), Nat.mul_assoc, Nat.mul_div_cancel_left _ hxsub]
    simp only [hu, Grid.Layer.cell, barChroma, List.map_cons, List.map_nil, Grid.Layer.addr,
      Grid.addr, Grid.Layer.single, YuvInfo.chromaGrid, Nat.div_one, List.singleton_append]
  · simp only [Grid.Layer.cell, barLuma, List.map_cons, List.map_nil, Grid.Layer.addr, Grid.addr,
      Grid.Layer.single, lumaGrid, Nat.div_one, Nat.one_mul, Nat.mul_one]

theorem throws_fillSmpteYuvPlanar (hy : yMem ≠ 0) (hu : uMem ≠ 0) (hv : vMem ≠ 0)
    (hlow : 4 ≤ width) (hhigh : width ≤ 6) (hheight : 0 < height) (hheight16 : height < 2 ^ 16)
    (hstride : stride ≠ 0) :
    Prog.Throws (fillSmpteYuvPlanar yuv yMem uMem vMem width height stride) .divByZero := by
  rw [fillSmpteYuvPlanar, if_neg (by tauto), if_neg (by omega)]
  exact (throws_smpteRows full_smpteYuv (fun far x color => does_store (yMem + far + x) color.y)
    hlow hhigh hheight hheight16).bind

end Planar

section Packed

variable {yuv : YuvInfo} {mem width height stride : ℕ}

/-- What `fillSmpteYuvPacked` stores: all the luma, then all the chroma. -/
theorem does_fillSmpteYuvPacked (hmem : mem ≠ 0) (hwidth : 0 < width) (hwidth16 : width < 2 ^ 16)
    (hbarred : Barred width) (hheight : 0 < height) (hheight16 : height < 2 ^ 16)
    (hstride : stride ≠ 0) :
    Prog.Does (fillSmpteYuvPacked yuv mem width height stride) ()
      (Stores.raster (Grid.Layer.cell .store (barChroma
          (yuv.packedChroma yuv.uByte mem stride width height)
          (yuv.packedChroma yuv.vByte mem stride width height) 2 width height))
          ((width + 1) / 2) height ++
        Stores.raster (Grid.Layer.cell .store
          (barLuma (yuv.packedLuma mem stride width height) width height)) width height) := by
  rw [fillSmpteYuvPacked, if_neg hmem, if_neg (by omega)]
  have hluma := does_smpteRows stride
    (fun far x color => store (mem + yuv.yByte + far + u32 (2 * x)) color.y) full_smpteYuv
    (fun far x color => does_store (mem + yuv.yByte + far + u32 (2 * x)) color.y) hwidth hwidth16
    hheight16 hbarred Nat.one_pos
  have hchroma := does_smpteRows stride
    (fun far x color => do
      store (mem + yuv.cByte + far + u32 (2 * x + yuv.uByte)) color.u
      store (mem + yuv.cByte + far + u32 (2 * x + yuv.vByte)) color.v) full_smpteYuv
    (fun far x color => does_store_bind (does_store _ _) _ _) hwidth hwidth16 hheight16 hbarred
    Nat.two_pos
  have hbyte {b : Bool} : (if b then 2 else 0) ≤ 2 := by split <;> decide
  have hu {n x : ℕ} (hn : n ≤ 2) (hx : x < width) : u32 (2 * x + n) = 2 * x + n :=
    Nat.mod_eq_of_lt (by omega)
  rw [barsOf_smpteYuv (barLuma (yuv.packedLuma mem stride width height) width height)
    hwidth hbarred Nat.one_pos fun y _ j hj => ?_, Nat.add_sub_cancel, Nat.div_one] at hluma
  rw [barsOf_smpteYuv (barChroma (yuv.packedChroma yuv.uByte mem stride width height)
    (yuv.packedChroma yuv.vByte mem stride width height) 2 width height)
    hwidth hbarred Nat.two_pos fun y _ j hj => ?_] at hchroma
  · exact hluma.bind hchroma
  · rw [hu (n := yuv.uByte) hbyte hj, hu (n := yuv.vByte) hbyte hj]
    simp only [Grid.Layer.cell, barChroma, List.map_cons, List.map_nil, Grid.Layer.addr, Grid.addr,
      Grid.Layer.single, YuvInfo.packedChroma, Nat.div_one, List.singleton_append, List.cons.injEq,
      MemEvent.store.injEq, and_true]
    omega
  · rw [Nat.one_mul] at hj ⊢
    rw [show u32 (2 * j) = 2 * j from hu (Nat.zero_le 2) hj, Nat.mul_comm 2 j]
    simp only [Grid.Layer.cell, barLuma, List.map_cons, List.map_nil, Grid.Layer.addr, Grid.addr,
      Grid.Layer.single, YuvInfo.packedLuma, Nat.div_one]

theorem throws_fillSmpteYuvPacked (hmem : mem ≠ 0) (hlow : 4 ≤ width) (hhigh : width ≤ 6)
    (hheight : 0 < height) (hheight16 : height < 2 ^ 16) (hstride : stride ≠ 0) :
    Prog.Throws (fillSmpteYuvPacked yuv mem width height stride) .divByZero := by
  rw [fillSmpteYuvPacked, if_neg hmem, if_neg (by omega)]
  exact (throws_smpteRows full_smpteYuv
    (fun far x color => does_store (mem + yuv.yByte + far + u32 (2 * x)) color.y) hlow hhigh hheight
    hheight16).bind

end Packed

end ValRpi
