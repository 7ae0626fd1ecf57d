import ValRpi.Images

/-!
# Tiles
-/

namespace ValRpi

/-! ## The colours of the tiles -/

/-- The colour of a pixel: it changes every 64 pixels along a row, and every row starts
    one pixel further. -/
def tileRgb (width x y : ℕ) : ℕ :=
  0x00130502 * ((x + y) / width / 2 ^ 6) + 0x000a1120 * ((x + y) % width / 2 ^ 6)

theorem signed_of_lt {n : ℕ} (hn : n < 2 ^ 31) : signed n = .ok (n : ℤ) :=
  if_pos ⟨by omega, by omega⟩

/-- For the sizes of modes, which have 16 bits, nothing overflows. -/
theorem rgb32_eq {x y width : ℕ} (hx : x < width) (hwidth : width < 2 ^ 16) (hy : y < 2 ^ 16) :
    rgb32 x y width = .ok (tileRgb width x y) := by
  have hsum : toInt (u32 (x + y)) = ((x + y : ℕ) : ℤ) := by
    rw [u32, Nat.mod_eq_of_lt (by omega), toInt, if_pos (by omega)]
  have hdenom : toInt width = (width : ℤ) := if_pos (by omega)
  have hquot : (x + y) / width < 2 ^ 16 := by
    have hrows : 2 ^ 16 - 1 ≤ width * (2 ^ 16 - 1) := Nat.le_mul_of_pos_left _ (by omega)
    exact Nat.div_lt_of_lt_mul (by omega)
  have hrem : (x + y) % width < 2 ^ 16 := (Nat.mod_lt _ (by omega)).trans hwidth
  have htdiv : (((x + y : ℕ) : ℤ)).tdiv width = ((x + y) / width : ℕ) := (Int.ofNat_tdiv _ _).symm
  have htmod : (((x + y : ℕ) : ℤ)).tmod width = ((x + y) % width : ℕ) := (Int.ofNat_tmod _ _).symm
  rw [rgb32, hsum, hdenom, htdiv, htmod, tileRgb, signed_of_lt (by omega), Except.ok_bind]
  generalize (x + y) / width = quot at *
  generalize (x + y) % width = rem at *
  have hq : 0x00130502 * ((quot : ℤ) / 2 ^ 6) = (0x00130502 * (quot / 2 ^ 6) : ℕ) := by omega
  have hr : 0x000a1120 * ((rem : ℤ) / 2 ^ 6) = (0x000a1120 * (rem / 2 ^ 6) : ℕ) := by omega
  dsimp only
  rw [hq, hr, signed_of_lt (by omega), Except.ok_bind, signed_of_lt (by omega), Except.ok_bind,
    ← Int.natCast_add, signed_of_lt (by omega), Except.ok_bind]
  exact congrArg _ (by omega)

/-- The colour of a pixel with its alpha. -/
def tileColor (alpha : ℕ → ℕ → ℕ) (width x y : ℕ) : Rgba :=
  ⟨redOf (tileRgb width x y), greenOf (tileRgb width x y), blueOf (tileRgb width x y), alpha x y⟩

theorem small_tileColor {alpha : ℕ → ℕ → ℕ} (halpha : ∀ x y, alpha x y < 2 ^ 8) (width x y : ℕ) :
    (tileColor alpha width x y).Small := by
  simp only [Rgba.Small, tileColor, Rgba.components, List.forall_mem_cons]
  exact ⟨Nat.mod_lt _ (by decide), Nat.mod_lt _ (by decide), Nat.mod_lt _ (by decide),
    halpha x y, by simp⟩

/-! ## Pixels of one plane -/

section Rgb

variable {rgb : RgbInfo} {bytes mem width height stride : ℕ}

/-- What `fillTilesRgb` stores. -/
theorem does_fillTilesRgb (hdeep : ¬ rgb.Deep) (bytes : ℕ) (alpha : ℕ → ℕ → ℕ) (hmem : mem ≠ 0)
    (hwidth : 0 < width) (hwidth16 : width < 2 ^ 16) (hheight : 0 < height)
    (hheight16 : height < 2 ^ 16) (hstride : stride ≠ 0) :
    Prog.Does (fillTilesRgb bytes alpha rgb mem width height stride) ()
      (pixelsOf rgb bytes mem stride width height (tileColor alpha width)) := by
  rw [fillTilesRgb, if_neg hmem, if_neg (by omega)]
  refine Prog.Does.drop (Prog.Does.allRows fun y hy => Prog.Does.each fun x hx => ?_) ()
  refine Prog.Does.lift_bind (rgb32_eq hx hwidth16 (hy.trans hheight16)) ?_
  exact Prog.Does.lift_bind (makeRgba_eq_pixel hdeep (tileColor alpha width x y))
    (does_storeLE _ _ _)

/-- Where a component is too deep, the first pixel is the end. -/
theorem throws_fillTilesRgb (hle : ∀ c ∈ rgb.components, c.length ≤ 32) (hdeep : rgb.Deep)
    (bytes : ℕ) (alpha : ℕ → ℕ → ℕ) (hmem : mem ≠ 0) (hwidth : 0 < width)
    (hwidth16 : width < 2 ^ 16) (hheight : 0 < height) (hstride : stride ≠ 0) :
    Prog.Throws (fillTilesRgb bytes alpha rgb mem width height stride) .shiftTooFar := by
  rw [fillTilesRgb, if_neg hmem, if_neg (by omega)]
  refine Prog.Throws.bind (Prog.Throws.forUp hheight (by decide) (Prog.Throws.bind ?_))
  refine Prog.Throws.forUp hwidth (by decide) ?_
  refine (Prog.Does.lift (rgb32_eq hwidth hwidth16 (by decide))).throws ?_
  exact (Prog.Throws.lift (makeRgba_of_deep hle hdeep _ _ _ _)).bind

end Rgb

/-! ## Luma and chroma -/

/-- The luma and chroma of a pixel. -/
def tileYuv (width x y : ℕ) : ColorYuv := yuvOf (tileRgb width x y)

section Planar

variable {yuv : YuvInfo} {yMem uMem vMem width height stride : ℕ}

/-- What `fillTilesYuvPlanar` stores. -/
theorem does_fillTilesYuvPlanar (hxsub : 0 < yuv.xsub) (hysub : 0 < yuv.ysub)
    (hcs : yuv.chromaStride ≤ 2) (hy : yMem ≠ 0) (hu : uMem ≠ 0) (hv : vMem ≠ 0)
    (hwidth : 0 < width) (hwidth16 : width < 2 ^ 16) (hheight : 0 < height)
    (hheight16 : height < 2 ^ 16) (hstride : stride ≠ 0) :
    Prog.Does (fillTilesYuvPlanar yuv yMem uMem vMem width height stride) ()
      (Stores.raster (Grid.Layer.cell .store (yuvLayers (lumaGrid yMem stride width height)
        (yuv.chromaGrid uMem stride width ((height + yuv.ysub - 1) / yuv.ysub))
        (yuv.chromaGrid vMem stride width ((height + yuv.ysub - 1) / yuv.ysub)) yuv.xsub yuv.ysub
        (tileYuv width))) width height) := by
  rw [fillTilesYuvPlanar, if_neg (by tauto), if_neg (by omega), if_neg (by omega)]
  let chroma (y : ℕ) := y / yuv.ysub * (u32 (stride * yuv.chromaStride) / yuv.xsub)
  -- the pointers to the chroma go on after each `ysub` rows
  have hnext (y : ℕ) : chroma (y + 1) =
      if (y + 1) % yuv.ysub = 0 then chroma y + u32 (stride * yuv.chromaStride) / yuv.xsub
      else chroma y := by
    simp only [chroma, Nat.succ_div, Nat.dvd_iff_mod_eq_zero]
    split
    · rw [Nat.succ_mul]
    · rw [Nat.add_zero]
  refine Prog.Does.drop (Prog.Does.all (s := fun y => (y * stride, chroma y))
    (by rw [Nat.zero_mul]; simp only [chroma, Nat.zero_div, Nat.zero_mul]) fun y hy => ?_) ()
  rw [Nat.succ_mul, hnext]
  refine Prog.Does.drop (Prog.Does.each fun x hx => ?_) _
  have hle : x / yuv.xsub ≤ x := Nat.div_le_self _ _
  have hfar : u32 (x / yuv.xsub * yuv.chromaStride) = x / yuv.xsub * yuv.chromaStride := by
    refine Nat.mod_eq_of_lt ?_
    have hmul : x / yuv.xsub * yuv.chromaStride ≤ x * 2 := Nat.mul_le_mul hle hcs
    omega
  refine Prog.Does.lift_bind (rgb32_eq hx hwidth16 (hy.trans hheight16)) ?_
  rw [hfar]
  have hcell : Grid.Layer.cell MemEvent.store (yuvLayers (lumaGrid yMem stride width height)
      (yuv.chromaGrid uMem stride width ((height + yuv.ysub - 1) / yuv.ysub))
      (yuv.chromaGrid vMem stride width ((height + yuv.ysub - 1) / yuv.ysub)) yuv.xsub yuv.ysub
      (tileYuv width)) y x =
      [.store (vMem + chroma y + x / yuv.xsub * yuv.chromaStride) (tileYuv width x y).v,
        .store (uMem + chroma y + x / yuv.xsub * yuv.chromaStride) (tileYuv width x y).u,
        .store (yMem + y * stride + x) (tileYuv width x y).y] := by
    simp only [Grid.Layer.cell, yuvLayers, List.map_cons, List.map_nil, Grid.Layer.addr, Grid.addr,
      Grid.Layer.single, lumaGrid, YuvInfo.chromaGrid, Nat.div_one, Nat.mul_one, chroma]
  rw [hcell]
  exact does_store_bind (does_store_bind (does_store _ _) _ _) _ _

end Planar

/-- What is stored for a pair of pixels of a packed format: the luma of both, and the chroma
    that they share. -/
def pairLayers (yuv : YuvInfo) (mem stride width height : ℕ) (image : ℕ → ℕ → ColorYuv) :
    List (Grid.Layer UInt8) :=
  let luma := yuv.packedLuma mem stride (2 * ((width + 1) / 2)) height
  [.single (yuv.packedChroma yuv.vByte mem stride width height) fun x y => (image (2 * x) y).v,
    .single (luma.every 2 1) fun x y => (image (2 * x) y).y,
    .single (yuv.packedChroma yuv.uByte mem stride width height) fun x y => (image (2 * x) y).u,
    .single (luma.every 2 0) fun x y => (image (2 * x) y).y]

section Packed

variable {yuv : YuvInfo} {mem width height stride : ℕ} {image : ℕ → ℕ → ColorYuv}

/-- What `fillTilesYuvPacked` stores. -/
theorem does_fillTilesYuvPacked (hmem : mem ≠ 0) (hwidth : 0 < width) (hwidth16 : width < 2 ^ 16)
    (hheight : 0 < height) (hheight16 : height < 2 ^ 16) (hstride : stride ≠ 0) :
    Prog.Does (fillTilesYuvPacked yuv mem width height stride) ()
      (Stores.raster
        (Grid.Layer.cell .store (pairLayers yuv mem stride width height (tileYuv width)))
        ((width + 1) / 2) height) := by
  rw [fillTilesYuvPacked, if_neg hmem, if_neg (by omega)]
  have hpairs : Prog.trips 0 width 2 = (width + 1) / 2 := rfl
  rw [← hpairs]
  refine Prog.Does.drop (Prog.Does.allRows (r := fun _ => (0 + 2 * Prog.trips 0 width 2, ()))
    fun y hy => Prog.Does.loop fun j hj => ?_) ()
  have hx := (Prog.lt_trips_iff Nat.zero_lt_two).1 hj
  rw [Nat.zero_add] at hx ⊢
  have hu {n : ℕ} (hn : n ≤ 2) : u32 (2 * (2 * j) + n) = 2 * (2 * j) + n :=
    Nat.mod_eq_of_lt (by omega)
  have hbyte {b : Bool} : (if b then 2 else 0) ≤ 2 := by split <;> decide
  refine Prog.Does.lift_bind (rgb32_eq hx hwidth16 (hy.trans hheight16)) ?_
  rw [show u32 (2 * (2 * j)) = 2 * (2 * j) from hu (Nat.zero_le 2), hu (Nat.le_refl 2),
    hu (n := yuv.uByte) hbyte, hu (n := yuv.vByte) hbyte]
  have hcell : Grid.Layer.cell MemEvent.store
      (pairLayers yuv mem stride width height (tileYuv width)) y j =
      [.store (mem + yuv.cByte + y * stride + (2 * (2 * j) + yuv.vByte))
          (tileYuv width (2 * j) y).v,
        .store (mem + yuv.yByte + y * stride + (2 * (2 * j) + 2)) (tileYuv width (2 * j) y).y,
        .store (mem + yuv.cByte + y * stride + (2 * (2 * j) + yuv.uByte))
          (tileYuv width (2 * j) y).u,
        .store (mem + yuv.yByte + y * stride + 2 * (2 * j)) (tileYuv width (2 * j) y).y] := by
    simp only [Grid.Layer.cell, pairLayers, List.map_cons, List.map_nil, Grid.Layer.addr, Grid.addr,
      Grid.Layer.single, YuvInfo.packedLuma, YuvInfo.packedChroma, Grid.every, Nat.div_one,
      List.cons.injEq, MemEvent.store.injEq, and_true]
    omega
  rw [hcell]
  exact does_store_bind (does_store_bind (does_store_bind (does_store _ _) _ _) _ _) _ _

theorem cols_halves (k : ℕ) :
    ((yuv.packedLuma mem stride (2 * ((width + 1) / 2)) height).every 2 k).cols = (width + 1) / 2 :=
  Nat.mul_div_cancel_left _ Nat.zero_lt_two

theorem fits_pairLayers : ∀ l ∈ pairLayers yuv mem stride width height image,
    l.Fits ((width + 1) / 2) height := by
  simp only [pairLayers, List.forall_mem_cons, List.not_mem_nil, false_implies, implies_true,
    and_true]
  exact ⟨Grid.Layer.fits_single rfl rfl, Grid.Layer.fits_single (cols_halves 1) rfl,
    Grid.Layer.fits_single rfl rfl, Grid.Layer.fits_single (cols_halves 0) rfl⟩

/-- The offsets of the bytes of a pair, in the order in which they are stored last. -/
theorem grids_pairLayers : (pairLayers yuv mem stride width height image).map (·.grid) =
    [yuv.cByte + yuv.vByte, yuv.yByte + 2, yuv.cByte + yuv.uByte, yuv.yByte].map
      fun offset => ⟨mem + offset, stride, 4, (width + 1) / 2, height⟩ := by
  simp only [pairLayers, List.map_cons, List.map_nil, Grid.Layer.single, YuvInfo.packedChroma,
    YuvInfo.packedLuma, Grid.every, List.cons.injEq, Grid.mk.injEq, and_true, true_and]
  omega

/-- The four bytes of a pair are different ones. -/
theorem YuvInfo.Ordered.offsets (h : yuv.Ordered) :
    [yuv.cByte + yuv.vByte, yuv.yByte + 2, yuv.cByte + yuv.uByte, yuv.yByte].Pairwise
      fun o o' => o ≠ o' ∧ o < 4 ∧ o' < 4 := by
  obtain ⟨hluma, hchroma⟩ := h
  have heven {b : Bool} : (if b then 2 else 0) % 2 = 0 := by split <;> rfl
  have hu : yuv.uByte % 2 = 0 := heven
  have hv : yuv.vByte % 2 = 0 := heven
  simp only [List.pairwise_cons, List.forall_mem_cons, List.not_mem_nil, false_implies,
    implies_true, List.Pairwise.nil, and_true]
  omega

/-- Pairs of pixels that are painted one after the other, both with the colour of the
    first. -/
theorem showsYuv_pairs (hordered : yuv.Ordered) (hstride : 4 * ((width + 1) / 2) ≤ stride) :
    ShowsYuv (Stores.raster (Grid.Layer.cell .store (pairLayers yuv mem stride width height image))
        ((width + 1) / 2) height)
      (yuv.packedLuma mem stride (2 * ((width + 1) / 2)) height)
      (yuv.packedChroma yuv.uByte mem stride width height)
      (yuv.packedChroma yuv.vByte mem stride width height)
      (fun x y => image (2 * (x / 2)) y) fun x y => image (2 * x) y := by
  have hapart : (pairLayers yuv mem stride width height image).Pairwise
      fun l l' => l.grid.Apart l'.grid := by
    rw [← List.pairwise_map (f := fun l : Grid.Layer UInt8 => l.grid), grids_pairLayers,
      List.pairwise_map]
    refine hordered.offsets.imp fun {o o'} ⟨hne, ho, ho'⟩ => ?_
    exact Grid.apart_of_offsets _ _ _ (fun x hx => by omega) (fun x hx => by omega)
      fun x _ x' _ => by omega
  have hall : ∀ g ∈ (pairLayers yuv mem stride width height image).map (·.grid), g.Fits := by
    rw [grids_pairLayers, List.forall_mem_map]
    exact fun o _ => ⟨Nat.zero_lt_succ 3, by dsimp only; omega⟩
  have hshown := Grid.Layer.shown_raster stores_store hapart fits_pairLayers
    (List.forall_mem_map.1 hall)
  refine hshown.regrid ?_ ?_
  · simp only [yuvPictures, List.forall_mem_cons, List.not_mem_nil, false_implies, implies_true,
      and_true]
    refine ⟨fun y hy x hx => ?_, fun y hy x hx => ?_, fun y hy x hx => ?_⟩
    · -- the luma of a column is in the half of the columns that it belongs to
      have hcols (k : ℕ) : x / 2 <
          ((yuv.packedLuma mem stride (2 * ((width + 1) / 2)) height).every 2 k).cols := by
        rw [cols_halves]
        exact Nat.div_lt_of_lt_mul hx
      have haddr (k : ℕ) (hk : x % 2 = k) :
          (yuv.packedLuma mem stride (2 * ((width + 1) / 2)) height).addr x y =
            ((yuv.packedLuma mem stride (2 * ((width + 1) / 2)) height).every 2 k).addr
              (x / 2) y := by
        rw [Grid.addr_every, ← hk, Nat.div_add_mod]
      rcases Nat.mod_two_eq_zero_or_one x with hmod | hmod
      · exact ⟨_, .tail _ (.tail _ (.tail _ (.head _))), y, hy, x / 2, hcols 0, haddr 0 hmod,
          Grid.Layer.picture_single _ (fun x y => (image (2 * x) y).y) _ _ y hy _
            (Nat.div_lt_of_lt_mul hx)⟩
      · exact ⟨_, .tail _ (.head _), y, hy, x / 2, hcols 1, haddr 1 hmod,
          Grid.Layer.picture_single _ (fun x y => (image (2 * x) y).y) _ _ y hy _
            (Nat.div_lt_of_lt_mul hx)⟩
    · exact ⟨_, .tail _ (.tail _ (.head _)), y, hy, x, hx, rfl,
        Grid.Layer.picture_single _ (fun x y => (image (2 * x) y).u) _ _ y hy x hx⟩
    · exact ⟨_, .head _, y, hy, x, hx, rfl,
        Grid.Layer.picture_single _ (fun x y => (image (2 * x) y).v) _ _ y hy x hx⟩
  · simp only [pairLayers, List.map_cons, List.map_nil, List.forall_mem_cons, List.not_mem_nil,
      false_implies, implies_true, and_true]
    exact ⟨fun a ha => ⟨_, .tail _ (.tail _ (.head _)), ha⟩,
      fun a ha => ⟨_, .head _, ha.of_every (by decide)⟩,
      fun a ha => ⟨_, .tail _ (.head _), ha⟩, fun a ha => ⟨_, .head _, ha.of_every (by decide)⟩⟩

end Packed

end ValRpi
