import ValRpi.Fills

/-!
# Footprints

To which addresses `fill_pattern` stores, whatever the size of the image is.

* `fillPattern_footprint`: these are the addresses of the grids of
  `FormatInfo.footprint`, no more and no less, and they are in the buffer if the samples
  of the chroma divide the image;
* `fillPattern_tiles_inBuffer_iff`: without spare memory, those of the tiles are not
  otherwise.
-/

namespace ValRpi

/-- The log stores at an address. -/
abbrev StoresAt (log : List MemEvent) (a : ℕ) : Prop := Stores.Hits storedByte log a

/-- A plane of bytes. -/
def byteGrid (mem stride bytes height : ℕ) : Grid := ⟨mem, stride, 1, bytes, height⟩

theorem storesAt_store (addr a : ℕ) (byte : UInt8) :
    StoresAt [.store addr byte] a ↔ a = addr := by
  simp only [StoresAt, Stores.Hits, List.mem_singleton, exists_eq_left]
  constructor
  · rintro ⟨v, hv⟩
    cases hv
    rfl
  · rintro rfl
    exact ⟨byte, rfl⟩

theorem storesAt_bytesOf {n addr value a : ℕ} :
    StoresAt (bytesOf n addr value) a ↔ ∃ i < n, a = addr + i := by
  simp only [bytesOf, StoresAt, Stores.hits_rounds]
  exact exists_congr fun i => and_congr_right fun _ => storesAt_store _ _ _

/-- The pixels of an image fill the rows of a plane from their start on. -/
theorem storesAt_pixelsOf {rgb : RgbInfo} {bytes mem stride width height a : ℕ}
    {image : ℕ → ℕ → Rgba} :
    StoresAt (pixelsOf rgb bytes mem stride width height image) a ↔
      (byteGrid mem stride (width * bytes) height).Has a := by
  simp only [pixelsOf, StoresAt, Stores.raster, Stores.hits_rounds]
  refine exists_congr fun y => and_congr_right fun _ => ?_
  constructor
  · rintro ⟨x, hx, hstores⟩
    obtain ⟨i, hi, rfl⟩ := storesAt_bytesOf.1 hstores
    refine ⟨x * bytes + i, ?_, ?_⟩
    · have hle : (x + 1) * bytes ≤ width * bytes := Nat.mul_le_mul_right _ hx
      rw [Nat.succ_mul] at hle
      simp only [byteGrid]
      omega
    · simp only [Grid.addr, byteGrid]
      omega
  · rintro ⟨k, hk, rfl⟩
    have hbytes : 0 < bytes := Nat.pos_of_ne_zero fun h => by simp [byteGrid, h] at hk
    refine ⟨k / bytes, Nat.div_lt_of_lt_mul (Nat.mul_comm bytes width ▸ hk), storesAt_bytesOf.2
      ⟨k % bytes, Nat.mod_lt _ hbytes, ?_⟩⟩
    have hdiv := Nat.div_add_mod' k bytes
    simp only [Grid.addr, byteGrid]
    omega

/-- The program ends in a fault, or stores to the addresses of the grids. -/
def Touches (x : Paint Unit) (grids : List Grid) : Prop :=
  (∃ e, Prog.Throws x e) ∨
    ∃ new, Prog.Does x () new ∧ ∀ a, StoresAt new a ↔ ∃ g ∈ grids, g.Has a

section Touches

variable {yuv : YuvInfo} {rgb : RgbInfo} {mem yMem uMem vMem width height stride : ℕ}

theorem touches_fillPlain {planes : Planes} (hfirst : planes.first ≠ 0) (height stride : ℕ) :
    Touches (fillPlain planes height stride)
      [byteGrid planes.first 0 (u32 (stride * height)) 1] := by
  refine .inr ⟨_, does_fillPlain hfirst _ _, fun a => ?_⟩
  simp only [StoresAt, Stores.hits_rounds, storesAt_store, Grid.Has, Grid.addr, byteGrid]
  simp

/-! ### Tiles -/

theorem touches_fillTilesRgb (hle : ∀ c ∈ rgb.components, c.length ≤ 32) (bytes : ℕ)
    (alpha : ℕ → ℕ → ℕ) (hmem : mem ≠ 0) (hproper : Proper width height) (hstride : stride ≠ 0) :
    Touches (fillTilesRgb bytes alpha rgb mem width height stride)
      [byteGrid mem stride (width * bytes) height] := by
  obtain ⟨hwidth, hwidth16, hheight, hheight16⟩ := hproper
  by_cases hdeep : rgb.Deep
  · exact .inl ⟨_, throws_fillTilesRgb hle hdeep _ _ hmem hwidth hwidth16 hheight hstride⟩
  · refine .inr ⟨_, does_fillTilesRgb hdeep _ _ hmem hwidth hwidth16 hheight hheight16 hstride,
      fun a => ?_⟩
    simp only [storesAt_pixelsOf, List.mem_singleton, exists_eq_left]

theorem touches_fillTilesYuvPlanar (hxsub : 0 < yuv.xsub) (hysub : 0 < yuv.ysub)
    (hcs : yuv.chromaStride ≤ 2) (hy : yMem ≠ 0) (hu : uMem ≠ 0) (hv : vMem ≠ 0)
    (hproper : Proper width height) (hstride : stride ≠ 0) :
    Touches (fillTilesYuvPlanar yuv yMem uMem vMem width height stride)
      [lumaGrid yMem stride width height,
        yuv.chromaGrid uMem stride width ((height + yuv.ysub - 1) / yuv.ysub),
        yuv.chromaGrid vMem stride width ((height + yuv.ysub - 1) / yuv.ysub)] := by
  obtain ⟨hwidth, hwidth16, hheight, hheight16⟩ := hproper
  refine .inr ⟨_, does_fillTilesYuvPlanar hxsub hysub hcs hy hu hv hwidth hwidth16 hheight hheight16
    hstride, fun a => ?_⟩
  refine (Grid.Layer.hits_raster stores_store
    (fits_yuvLayers hxsub hysub ⟨rfl, rfl⟩ ⟨rfl, rfl⟩)).trans ?_
  simp only [yuvLayers, Grid.Layer.single, List.mem_cons, List.not_mem_nil, or_false, or_and_right,
    exists_or, exists_eq_left]
  tauto

/-- The luma of a pair is in two grids of every other column. -/
theorem touches_fillTilesYuvPacked (hmem : mem ≠ 0) (hproper : Proper width height)
    (hstride : stride ≠ 0) :
    Touches (fillTilesYuvPacked yuv mem width height stride)
      [yuv.packedLuma mem stride (2 * ((width + 1) / 2)) height,
        yuv.packedChroma yuv.uByte mem stride width height,
        yuv.packedChroma yuv.vByte mem stride width height] := by
  obtain ⟨hwidth, hwidth16, hheight, hheight16⟩ := hproper
  refine .inr ⟨_, does_fillTilesYuvPacked hmem hwidth hwidth16 hheight hheight16 hstride,
    fun a => ?_⟩
  refine (Grid.Layer.hits_raster stores_store fits_pairLayers).trans ?_
  have hhalves := Grid.has_iff_every (g := yuv.packedLuma mem stride (2 * ((width + 1) / 2)) height)
    (a := a) Nat.two_pos ⟨_, rfl⟩
  rw [Nat.exists_lt_succ_right, Nat.exists_lt_succ_right] at hhalves
  simp only [pairLayers, Grid.Layer.single, List.mem_cons, List.not_mem_nil, or_false, or_and_right,
    exists_or, exists_eq_left, hhalves]
  tauto

/-! ### Bars -/

theorem touches_fillSmpteRgb (hle : ∀ c ∈ rgb.components, c.length ≤ 32) (bytes middle others : ℕ)
    (hmem : mem ≠ 0) (hproper : Proper width height) (hstride : stride ≠ 0) :
    Touches (fillSmpteRgb bytes middle others rgb mem width height stride)
      [byteGrid mem stride (width * bytes) height] := by
  obtain ⟨hwidth, hwidth16, hheight, hheight16⟩ := hproper
  by_cases hdeep : rgb.Deep
  · exact .inl ⟨_, throws_fillSmpteRgb_of_deep hle hdeep _ _ _ hmem hwidth hheight hstride⟩
  rcases barred_or width with hbarred | ⟨hlow, hhigh⟩
  · refine .inr ⟨_, does_fillSmpteRgb hdeep _ _ _ hmem hwidth hwidth16 hbarred hheight hheight16
      hstride, fun a => ?_⟩
    simp only [storesAt_pixelsOf, List.mem_singleton, exists_eq_left]
  · exact .inl ⟨_, throws_fillSmpteRgb hdeep _ _ _ hmem hlow hhigh hheight hheight16 hstride⟩

/-- All the luma of the bars, then all their chroma. -/
theorem storesAt_bars {yg ug vg : Grid} {step cols rows a : ℕ} (hycols : yg.cols = width)
    (hyrows : yg.rows = height) (hucols : ug.cols = cols) (hurows : ug.rows = rows)
    (hvcols : vg.cols = cols) (hvrows : vg.rows = rows) :
    StoresAt (Stores.raster (Grid.Layer.cell .store (barChroma ug vg step width rows)) cols rows ++
        Stores.raster (Grid.Layer.cell .store (barLuma yg width height)) width height) a ↔
      ∃ g ∈ [yg, ug, vg], g.Has a := by
  rw [StoresAt, Stores.hits_append,
    Grid.Layer.hits_raster stores_store (fits_barChroma step width hucols hurows hvcols hvrows),
    Grid.Layer.hits_raster stores_store (fits_barLuma hycols hyrows)]
  simp only [barLuma, barChroma, Grid.Layer.single, List.mem_cons, List.not_mem_nil, or_false,
    or_and_right, exists_or, exists_eq_left]
  tauto

theorem touches_fillSmpteYuvPlanar (hxsub : 0 < yuv.xsub) (hysub : 0 < yuv.ysub)
    (hcs : yuv.chromaStride ≤ 2) (hy : yMem ≠ 0) (hu : uMem ≠ 0) (hv : vMem ≠ 0)
    (hproper : Proper width height) (hstride : stride ≠ 0) :
    Touches (fillSmpteYuvPlanar yuv yMem uMem vMem width height stride)
      [lumaGrid yMem stride width height, yuv.chromaGrid uMem stride width (height / yuv.ysub),
        yuv.chromaGrid vMem stride width (height / yuv.ysub)] := by
  obtain ⟨hwidth, hwidth16, hheight, hheight16⟩ := hproper
  rcases barred_or width with hbarred | ⟨hlow, hhigh⟩
  · exact .inr ⟨_, does_fillSmpteYuvPlanar hxsub hysub hcs hy hu hv hwidth hwidth16 hbarred hheight
      hheight16 hstride,
      fun a => storesAt_bars (by rfl) (by rfl) (by rfl) (by rfl) (by rfl) (by rfl)⟩
  · exact .inl ⟨_, throws_fillSmpteYuvPlanar hy hu hv hlow hhigh hheight hheight16 hstride⟩

theorem touches_fillSmpteYuvPacked (hmem : mem ≠ 0) (hproper : Proper width height)
    (hstride : stride ≠ 0) :
    Touches (fillSmpteYuvPacked yuv mem width height stride)
      [yuv.packedLuma mem stride width height, yuv.packedChroma yuv.uByte mem stride width height,
        yuv.packedChroma yuv.vByte mem stride width height] := by
  obtain ⟨hwidth, hwidth16, hheight, hheight16⟩ := hproper
  rcases barred_or width with hbarred | ⟨hlow, hhigh⟩
  · exact .inr ⟨_, does_fillSmpteYuvPacked hmem hwidth hwidth16 hbarred hheight hheight16 hstride,
      fun a => storesAt_bars (by rfl) (by rfl) (by rfl) (by rfl) (by rfl) (by rfl)⟩
  · exact .inl ⟨_, throws_fillSmpteYuvPacked hmem hlow hhigh hheight hheight16 hstride⟩

end Touches

/-! ## All formats -/

/-- The grids that a pattern stores to. -/
def FormatInfo.footprint (info : FormatInfo) (pattern : FillPattern) (planes : Planes)
    (stride width height : ℕ) : List Grid :=
  let packed (cols : ℕ) := [info.yuv.packedLuma planes.first stride cols height,
    info.yuv.packedChroma info.yuv.uByte planes.first stride width height,
    info.yuv.packedChroma info.yuv.vByte planes.first stride width height]
  let planar (rows : ℕ) := [lumaGrid planes.first stride width height,
    info.yuv.chromaGrid (info.format.chromaIn planes).1 stride width rows,
    info.yuv.chromaGrid (info.format.chromaIn planes).2 stride width rows]
  match pattern, info.format.kind with
  | .plain, _ => [byteGrid planes.first 0 (u32 (stride * height)) 1]
  | _, .rgb => [byteGrid planes.first stride (width * info.format.bytes) height]
  | .tiles, .packed => packed (2 * ((width + 1) / 2))
  | .smpte, .packed => packed width
  | .tiles, .planar => planar ((height + info.yuv.ysub - 1) / info.yuv.ysub)
  | .smpte, .planar => planar (height / info.yuv.ysub)
  | _, .unknown => []

section Formats

variable {info : FormatInfo} {planes : Planes} {stride width height : ℕ}

theorem kind_ne (hinfo : info ∈ formatInfo) : info.format.kind ≠ .unknown := by
  revert info
  decide +kernel

/-- A pattern of any format stores to the addresses of its grids. -/
theorem touches_utilFillPattern (hinfo : info ∈ formatInfo) (hproper : Proper width height)
    (hfirst : planes.first ≠ 0) (hchroma : info.format.kind = .planar →
      (info.format.chromaIn planes).1 ≠ 0 ∧ (info.format.chromaIn planes).2 ≠ 0)
    (hstride : stride ≠ 0) (pattern : FillPattern) :
    Touches (utilFillPattern info.format pattern planes width height stride)
      (info.footprint pattern planes stride width height) := by
  unfold FormatInfo.footprint
  cases hkind : info.format.kind with
  | rgb =>
    have hle := length_of_mem hinfo
    cases pattern with
    | tiles =>
      rw [util_tiles hinfo, fillTiles_of_rgb hkind]
      exact touches_fillTilesRgb hle _ _ hfirst hproper hstride
    | plain =>
      rw [util_plain hinfo]
      exact touches_fillPlain hfirst _ _
    | smpte =>
      rw [util_smpte hinfo, fillSmpte_of_rgb hkind]
      exact touches_fillSmpteRgb hle _ _ _ hfirst hproper hstride
  | packed =>
    cases pattern with
    | tiles =>
      rw [util_tiles hinfo, fillTiles_of_packed hkind]
      exact touches_fillTilesYuvPacked hfirst hproper hstride
    | plain =>
      rw [util_plain hinfo]
      exact touches_fillPlain hfirst _ _
    | smpte =>
      rw [util_smpte hinfo, fillSmpte_of_packed hkind]
      exact touches_fillSmpteYuvPacked hfirst hproper hstride
  | planar =>
    obtain ⟨hxsub, hysub, _⟩ := planar_of_mem info hinfo hkind
    obtain ⟨hu, hv⟩ := hchroma hkind
    have hcs := chromaStride_le hinfo hkind
    cases pattern with
    | tiles =>
      rw [util_tiles hinfo, fillTiles_of_planar hinfo hkind]
      exact touches_fillTilesYuvPlanar (by omega) (by omega) hcs hfirst hu hv hproper hstride
    | plain =>
      rw [util_plain hinfo]
      exact touches_fillPlain hfirst _ _
    | smpte =>
      rw [util_smpte hinfo, fillSmpte_of_planar hinfo hkind]
      exact touches_fillSmpteYuvPlanar (by omega) (by omega) hcs hfirst hu hv hproper hstride
  | unknown => exact absurd hkind (kind_ne hinfo)

end Formats

section Buffer

variable {info : FormatInfo} {m : Mapper} {l l' new : List MemEvent} {bo bo' : MappedBo}
  {map width height : ℕ} {pattern : FillPattern} {r : Option MappedBo}

section Runs

variable (hinfo : info ∈ formatInfo) (hmap : boMap bo m l = .ok ((.ok map, bo'), l'))
  (hmap0 : map ≠ 0) (hproper : Proper width height) (hroom : Roomy info.format bo.bo width height)
  (hfill : fillPattern info.format (some bo) width height pattern m l = .ok (r, new ++ l'))
include hinfo hmap hmap0 hproper hroom hfill

/-- A run of `fillPattern` that does not end in a fault stores to the addresses of the
    grids of its pattern, to all of them and to no others. -/
theorem storesAt_of_fill (a : ℕ) :
    StoresAt new a ↔ ∃ g ∈ info.footprint pattern (info.format.planesAt bo.bo.pitch map height).1
      bo.bo.pitch width height, g.Has a := by
  have hfirst := (first_planesAt (bpp_of_mem hinfo) bo.bo.pitch map height).1
  have hchroma (hkind : info.format.kind = .planar) :
      (info.format.chromaIn (info.format.planesAt bo.bo.pitch map height).1).1 ≠ 0 ∧
        (info.format.chromaIn (info.format.planesAt bo.bo.pitch map height).1).2 ≠ 0 :=
    chromaIn_planesAt hkind hroom hproper.height_pos map ▸ chromaIn_ne hmap0 _ _
  have htouches := touches_utilFillPattern hinfo hproper (hfirst.symm ▸ hmap0) hchroma
    (hroom.pitch_ne (bpp_of_mem hinfo) hproper.width_pos) pattern
  rw [fillPattern_eq hinfo hmap hproper hroom] at hfill
  rcases htouches with ⟨e, hthrows⟩ | ⟨new', hdoes, hstores⟩
  · rw [Prog.bind_of_error (hthrows m l')] at hfill
    cases hfill
  · rw [Prog.bind_of_ok (hdoes m l')] at hfill
    have hlog : new' ++ l' = new ++ l' := congrArg Prod.snd (Except.ok.inj hfill)
    rw [← List.append_cancel_right hlog]
    exact hstores a

end Runs

/-- The chroma is sampled a whole number of times. -/
def FormatInfo.Whole (info : FormatInfo) (width height : ℕ) : Prop :=
  match info.format.kind with
  | .packed => 2 ∣ width
  | .planar => 2 ∣ width ∧ info.yuv.ysub ∣ height
  | _ => True

theorem le_virtualHeight (format : Format) (hheight16 : height < 2 ^ 16) :
    height ≤ format.virtualHeight height := by
  have h3 : u32 (height * 3) = height * 3 := Nat.mod_eq_of_lt (by omega)
  have h2 : u32 (height * 2) = height * 2 := Nat.mod_eq_of_lt (by omega)
  unfold Format.virtualHeight
  rw [h3, h2]
  split <;> omega

theorem virtualHeight_packed {format : Format} (hkind : format.kind = .packed) :
    format.virtualHeight height = height := by
  cases format <;> first | rfl | cases hkind

/-- A buffer for a planar format has rows for the chroma. -/
theorem virtualHeight_planar (hinfo : info ∈ formatInfo) (hkind : info.format.kind = .planar)
    (hheight16 : height < 2 ^ 16) :
    info.format.virtualHeight height = height + height / info.yuv.ysub := by
  have h3 : u32 (height * 3) = height * 3 := Nat.mod_eq_of_lt (by omega)
  have h2 : u32 (height * 2) = height * 2 := Nat.mod_eq_of_lt (by omega)
  have hysub : ∀ info ∈ formatInfo, info.format.kind = .planar →
      info.yuv.ysub = if info.format ∈ [.nv16, .nv61] then 1 else 2 := by decide +kernel
  rw [hysub info hinfo hkind]
  generalize info.format = format at *
  cases format <;> first
    | (cases hkind; done)
    | rw [Format.virtualHeight, h3, if_neg (by decide)]
      omega
    | rw [Format.virtualHeight, h2, if_pos (by decide), Nat.div_one]
      omega

/-- A plane in the rows of a buffer is in its memory. -/
theorem in_size {bo : Bo} {mem unit cols rows first a : ℕ} (offset : ℕ)
    (hsize : bo.pitch * (first + rows) ≤ bo.size) (hmem : mem = map + bo.pitch * first)
    (hrow : ∀ x < cols, offset + x * unit < bo.pitch)
    (h : Grid.Has ⟨mem + offset, bo.pitch, unit, cols, rows⟩ a) : map ≤ a ∧ a < map + bo.size := by
  have hin := h.in_rows offset hrow
  rw [Nat.mul_add] at hsize
  omega

theorem in_plain {mem n a : ℕ} (h : (byteGrid mem 0 n 1).Has a) : mem ≤ a ∧ a < mem + n := by
  obtain ⟨y, hy, x, hx, rfl⟩ := h
  simp only [byteGrid] at hx
  simp only [Grid.addr, byteGrid]
  omega

theorem in_packed {yuv : YuvInfo} {bo : Bo} {cols a : ℕ} (hordered : yuv.Ordered)
    (hsize : bo.pitch * (0 + height) ≤ bo.size) (hcols : 2 * cols ≤ bo.pitch)
    (hpairs : 4 * ((width + 1) / 2) ≤ bo.pitch)
    (h : ∃ g ∈ [yuv.packedLuma map bo.pitch cols height,
      yuv.packedChroma yuv.uByte map bo.pitch width height,
      yuv.packedChroma yuv.vByte map bo.pitch width height], g.Has a) :
    map ≤ a ∧ a < map + bo.size := by
  obtain ⟨hluma, hchroma⟩ := hordered
  simp only [YuvInfo.packedLuma, YuvInfo.packedChroma, Nat.add_assoc, List.mem_cons,
    List.not_mem_nil, or_false, or_and_right, exists_or, exists_eq_left] at h
  rcases h with h | h | h
  · exact in_size _ hsize rfl (fun x hx => by omega) h
  · exact in_size _ hsize rfl (fun x hx => by omega) h
  · exact in_size _ hsize rfl (fun x hx => by omega) h

theorem in_planar (hinfo : info ∈ formatInfo) (hkind : info.format.kind = .planar)
    (hproper : Proper width height) (hroom : Roomy info.format bo.bo width height)
    (hcols : 2 ∣ width) (hrows : info.yuv.ysub ∣ height) {planes : Planes} {a : ℕ}
    (hplanes : info.format.chromaIn planes =
      info.format.chromaIn ((info.format.layout bo.bo height).planesAt map))
    (h : ∃ g ∈ [lumaGrid map bo.bo.pitch width height,
      info.yuv.chromaGrid (info.format.chromaIn planes).1 bo.bo.pitch width
        (height / info.yuv.ysub),
      info.yuv.chromaGrid (info.format.chromaIn planes).2 bo.bo.pitch width
        (height / info.yuv.ysub)], g.Has a) : map ≤ a ∧ a < map + bo.bo.size := by
  obtain ⟨hwidth, hwidth16, hheight, hheight16⟩ := hproper
  obtain ⟨hxsub, hysub, hown, hshared⟩ := planar_of_mem info hinfo hkind
  have hsmall := hroom.two_pitch_lt hkind hheight
  have hpitch := hroom.pitch
  rw [Format.bytes_of_planar hkind, Nat.mul_one] at hpitch
  have hsize := hroom.size
  rw [virtualHeight_planar hinfo hkind hheight16] at hsize
  have hluma : bo.bo.pitch * (0 + height) ≤ bo.bo.size := by
    rw [Nat.zero_add]
    exact (Nat.mul_le_mul_left _ (Nat.le_add_right _ _)).trans hsize
  simp only [List.mem_cons, List.not_mem_nil, or_false, or_and_right, exists_or, exists_eq_left,
    hplanes] at h
  rcases h with h | h
  · exact in_size 0 hluma rfl (fun x hx => by omega) h
  by_cases hmem : info.format ∈ [.yuv420, .yvu420]
  · obtain ⟨hy, hcs⟩ := hown hmem
    rw [YuvInfo.chromaGrid_own hxsub hcs hsmall, YuvInfo.chromaGrid_own hxsub hcs hsmall] at h
    rw [hy] at h hrows hsize
    -- both planes end where the rows of the chroma do
    obtain ⟨n, rfl⟩ := hrows
    have hhalf : bo.bo.pitch / 2 * (2 * n) / 2 = bo.bo.pitch / 2 * n := by
      rw [Nat.mul_left_comm, Nat.mul_div_cancel_left _ Nat.two_pos]
    have htwo : 2 * (bo.bo.pitch / 2 * n) ≤ bo.bo.pitch * n := by
      rw [← Nat.mul_assoc]
      exact Nat.mul_le_mul_right _ (Nat.mul_div_le _ _)
    rw [Nat.mul_div_cancel_left _ Nat.two_pos] at h hsize
    rw [Nat.mul_add] at hsize
    have hin {base : ℕ} (h : Grid.Has ⟨base, bo.bo.pitch / 2, 1, (width + 1) / 2, n⟩ a) :
        base ≤ a ∧ a < base + bo.bo.pitch / 2 * n :=
      h.in_rows 0 fun x hx => by omega
    rcases chromaIn_own hkind hmem hroom hheight map with hc | hc
    all_goals
      rw [hc, hhalf] at h
      rcases h with h | h
      all_goals
        have hbounds := hin h
        omega
  · rw [YuvInfo.chromaGrid_shared hxsub (hshared hmem) hsmall,
      YuvInfo.chromaGrid_shared hxsub (hshared hmem) hsmall] at h
    have hin {offset : ℕ} (hoffset : offset ≤ 1)
        (h : Grid.Has ⟨map + bo.bo.pitch * height + offset, bo.bo.pitch, 2, (width + 1) / 2,
          height / info.yuv.ysub⟩ a) : map ≤ a ∧ a < map + bo.bo.size :=
      in_size _ hsize rfl (fun x hx => by omega) h
    rcases chromaIn_shared hkind hmem hroom hheight map with hc | hc
    · rw [hc] at h
      exact h.elim (hin (Nat.zero_le 1)) (hin (Nat.le_refl 1))
    · rw [hc] at h
      exact h.elim (hin (Nat.le_refl 1)) (hin (Nat.zero_le 1))

/-- In a buffer with all planes in its memory, the pattern of an image whose chroma is
    sampled a whole number of times stays in it. -/
theorem within_footprint (hinfo : info ∈ formatInfo) (hproper : Proper width height)
    (hroom : Roomy info.format bo.bo width height) (hwhole : info.Whole width height) {map a : ℕ}
    (h : ∃ g ∈ info.footprint pattern (info.format.planesAt bo.bo.pitch map height).1 bo.bo.pitch
      width height, g.Has a) : map ≤ a ∧ a < map + bo.bo.size := by
  obtain ⟨hwidth, hwidth16, hheight, hheight16⟩ := id hproper
  have hvirtual := le_virtualHeight info.format hheight16
  have hluma : bo.bo.pitch * (0 + height) ≤ bo.bo.size :=
    (Nat.mul_le_mul_left _ (by omega)).trans hroom.size
  have hfirst := (first_planesAt (bpp_of_mem hinfo) bo.bo.pitch map height).1
  have hpitch := hroom.pitch
  unfold FormatInfo.Whole at hwhole
  have hplain {a : ℕ} (h : (byteGrid map 0 (u32 (bo.bo.pitch * height)) 1).Has a) :
      map ≤ a ∧ a < map + bo.bo.size := by
    have hin := in_plain h
    have hle : u32 (bo.bo.pitch * height) ≤ bo.bo.pitch * height := Nat.mod_le _ _
    rw [Nat.zero_add] at hluma
    omega
  have hrgb {a : ℕ} (h : (byteGrid map bo.bo.pitch (width * info.format.bytes) height).Has a) :
      map ≤ a ∧ a < map + bo.bo.size :=
    in_size 0 hluma rfl (fun x hx => by omega) h
  cases hkind : info.format.kind with
  | rgb =>
    cases pattern with
    | plain =>
      simp only [FormatInfo.footprint, hfirst, List.mem_singleton, exists_eq_left] at h
      exact hplain h
    | tiles | smpte =>
      simp only [FormatInfo.footprint, hkind, hfirst, List.mem_singleton, exists_eq_left] at h
      exact hrgb h
  | packed =>
    rw [hkind] at hwhole
    rw [Format.bytes_of_packed hkind] at hpitch
    have hordered := ordered_of_mem info hinfo hkind
    cases pattern with
    | plain =>
      simp only [FormatInfo.footprint, hfirst, List.mem_singleton, exists_eq_left] at h
      exact hplain h
    | tiles | smpte =>
      simp only [FormatInfo.footprint, hkind, hfirst] at h
      exact in_packed hordered hluma (by omega) (by omega) h
  | planar =>
    rw [hkind] at hwhole
    cases pattern with
    | plain =>
      simp only [FormatInfo.footprint, hfirst, List.mem_singleton, exists_eq_left] at h
      exact hplain h
    | tiles =>
      obtain ⟨_, hysub, _⟩ := planar_of_mem info hinfo hkind
      have hgroups := Grid.Layer.groups_of_dvd (by omega) hwhole.2
      simp only [FormatInfo.footprint, hkind, hfirst, hgroups] at h
      exact in_planar hinfo hkind hproper hroom hwhole.1 hwhole.2
        (chromaIn_planesAt hkind hroom hheight map) h
    | smpte =>
      simp only [FormatInfo.footprint, hkind, hfirst] at h
      exact in_planar hinfo hkind hproper hroom hwhole.1 hwhole.2
        (chromaIn_planesAt hkind hroom hheight map) h
  | unknown => exact absurd hkind (kind_ne hinfo)

/-- A run of `fillPattern` on a buffer with all planes in its memory stores to no byte
    outside, whatever the pattern is, for an image whose chroma is sampled a whole number
    of times. -/
theorem storesIn_of_fill (hinfo : info ∈ formatInfo)
    (hmap : boMap bo m l = .ok ((.ok map, bo'), l')) (hmap0 : map ≠ 0)
    (hproper : Proper width height) (hroom : Roomy info.format bo.bo width height)
    (hwhole : info.Whole width height)
    (hfill : fillPattern info.format (some bo) width height pattern m l = .ok (r, new ++ l')) :
    StoresIn map (map + bo.bo.size) new :=
  Stores.only_iff_hits.2 fun a ha => within_footprint hinfo hproper hroom hwhole
    ((storesAt_of_fill hinfo hmap hmap0 hproper hroom hfill a).1 ha)

/-- A run of `fillPattern` that does not end in a fault stores to the addresses of the
    grids of its pattern, to all of them and to no others. If the chroma is sampled a whole
    number of times, these are in the buffer. -/
theorem fillPattern_footprint (hinfo : info ∈ formatInfo)
    (hmap : boMap bo m l = .ok ((.ok map, bo'), l')) (hmap0 : map ≠ 0)
    (hproper : Proper width height) (hroom : Roomy info.format bo.bo width height)
    (hfill : fillPattern info.format (some bo) width height pattern m l = .ok (r, new ++ l')) :
    (∀ a, StoresAt new a ↔
      ∃ g ∈ info.footprint pattern (info.format.planesAt bo.bo.pitch map height).1 bo.bo.pitch
        width height, g.Has a) ∧
      (info.Whole width height → StoresIn map (map + bo.bo.size) new) :=
  ⟨storesAt_of_fill hinfo hmap hmap0 hproper hroom hfill,
    fun hwhole => storesIn_of_fill hinfo hmap hmap0 hproper hroom hwhole hfill⟩

theorem fillPattern_footprint_small : ∃ new,
    fillPattern nv12.format (some smallBo) 8 2 .tiles .willing [] =
      .ok (some ⟨smallBo.bo, 4096⟩, new ++ smallLog) ∧
    (∀ a, StoresAt new a ↔ ∃ g ∈ nv12.footprint .tiles (nv12.format.planesAt 16 4096 2).1 16 8 2,
      g.Has a) ∧ (nv12.Whole 8 2 → StoresIn 4096 (4096 + 64) new) := by
  have hroom := smallBo_roomy .nv12 (by decide) (by decide)
  have hfill := fill_tiles_planar mem_nv12 rfl boMap_smallBo (by decide) smallBo_proper hroom
  exact ⟨_, hfill, fillPattern_footprint mem_nv12 boMap_smallBo (by decide) smallBo_proper hroom
    hfill⟩

/-- A buffer of just the size that `bo_create` asks for. -/
structure Tight (format : Format) (bo : Bo) (width height : ℕ) : Prop where
  pitch : bo.pitch = width * format.bytes
  size : bo.size = bo.pitch * format.virtualHeight height

/-- In such a buffer the tiles of a format whose chroma is in one plane stay if and only
    if the chroma is sampled a whole number of times. -/
theorem fillPattern_tiles_inBuffer_iff (hinfo : info ∈ formatInfo)
    (hmap : boMap bo m l = .ok ((.ok map, bo'), l')) (hmap0 : map ≠ 0)
    (hproper : Proper width height) (hroom : Roomy info.format bo.bo width height)
    (htight : Tight info.format bo.bo width height)
    (hshared : info.format ≠ .yuv420 ∧ info.format ≠ .yvu420)
    (hfill : fillPattern info.format (some bo) width height .tiles m l = .ok (r, new ++ l')) :
    StoresIn map (map + bo.bo.size) new ↔ info.Whole width height := by
  refine ⟨fun hin => ?_, fun hwhole =>
    storesIn_of_fill hinfo hmap hmap0 hproper hroom hwhole hfill⟩
  have hbytes := Stores.only_iff_hits.1 hin
  obtain ⟨hwidth, hwidth16, hheight, hheight16⟩ := id hproper
  have hfirst := (first_planesAt (bpp_of_mem hinfo) bo.bo.pitch map height).1
  have hfoot := storesAt_of_fill hinfo hmap hmap0 hproper hroom hfill
  unfold FormatInfo.Whole
  cases hkind : info.format.kind with
  | rgb | unknown => trivial
  | packed =>
    simp only [FormatInfo.footprint, hkind, hfirst] at hfoot
    have hpitch := htight.pitch
    have hsize := htight.size
    rw [Format.bytes_of_packed hkind] at hpitch
    rw [virtualHeight_packed hkind] at hsize
    -- the last luma of the last pair
    have htop := (hbytes _ ((hfoot _).2 ⟨_, .head _, Grid.has_addr (x := 2 * ((width + 1) / 2) - 1)
      (y := height - 1) (by dsimp only [YuvInfo.packedLuma]; omega)
      (by dsimp only [YuvInfo.packedLuma]; omega)⟩)).2
    obtain ⟨n, rfl⟩ := Nat.exists_eq_succ_of_ne_zero hheight.ne'
    rw [hsize, Nat.mul_succ, Nat.mul_comm _ n] at htop
    simp only [Grid.addr, YuvInfo.packedLuma, Nat.succ_sub_one] at htop
    omega
  | planar =>
    obtain ⟨hxsub, hysub, _, hcs⟩ := planar_of_mem info hinfo hkind
    have hnot : info.format ∉ [.yuv420, .yvu420] := by
      simpa only [List.mem_cons, List.not_mem_nil, or_false, not_or] using hshared
    have hpitch := htight.pitch
    have hsize := htight.size
    rw [Format.bytes_of_planar hkind, Nat.mul_one] at hpitch
    rw [virtualHeight_planar hinfo hkind hheight16, Nat.mul_add, hpitch] at hsize
    simp only [FormatInfo.footprint, hkind, hfirst, chromaIn_planesAt hkind hroom hheight,
      YuvInfo.chromaGrid_shared hxsub (hcs hnot) (hroom.two_pitch_lt hkind hheight)] at hfoot
    -- the last byte of the component that comes second
    have hlast (hrows : 0 < (height + info.yuv.ysub - 1) / info.yuv.ysub) :
        StoresAt new (Grid.addr ⟨map + bo.bo.pitch * height + 1, bo.bo.pitch, 2, (width + 1) / 2,
          (height + info.yuv.ysub - 1) / info.yuv.ysub⟩ ((width + 1) / 2 - 1)
            ((height + info.yuv.ysub - 1) / info.yuv.ysub - 1)) := by
      have hhas := Grid.has_addr (g := ⟨map + bo.bo.pitch * height + 1, bo.bo.pitch, 2,
        (width + 1) / 2, (height + info.yuv.ysub - 1) / info.yuv.ysub⟩)
        (show (width + 1) / 2 - 1 < (width + 1) / 2 by omega) (Nat.sub_lt hrows Nat.one_pos)
      rcases chromaIn_shared hkind hnot hroom hheight map with hc | hc
      · exact (hfoot _).2 ⟨_, .tail _ (.tail _ (.head _)), hc ▸ hhas⟩
      · exact (hfoot _).2 ⟨_, .tail _ (.head _), hc ▸ hhas⟩
    have hbound := fun hrows => (hbytes _ (hlast hrows)).2
    rw [hsize, hpitch] at hbound
    simp only [Grid.addr] at hbound
    rcases hysub with hy | hy
    · rw [hy, Nat.add_sub_cancel, Nat.div_one] at hbound
      rw [hy]
      refine ⟨?_, Nat.one_dvd _⟩
      obtain ⟨n, rfl⟩ := Nat.exists_eq_succ_of_ne_zero hheight.ne'
      have htop := hbound hheight
      rw [Nat.mul_succ, Nat.succ_sub_one, Nat.mul_comm n] at htop
      omega
    · rw [hy] at hbound ⊢
      have htop := hbound (by omega)
      obtain ⟨n, rfl | rfl⟩ : ∃ n, height = 2 * n ∨ height = 2 * n + 1 := ⟨height / 2, by omega⟩
      · obtain ⟨k, rfl⟩ := Nat.exists_eq_succ_of_ne_zero (show n ≠ 0 by omega)
        rw [show (2 * (k + 1) + 2 - 1) / 2 - 1 = k by omega, show 2 * (k + 1) / 2 = k + 1 by omega,
          Nat.mul_comm k, Nat.mul_succ width k] at htop
        exact ⟨by omega, ⟨_, rfl⟩⟩
      · -- there is no row for the last one of the chroma
        rw [show (2 * n + 1 + 2 - 1) / 2 - 1 = n by omega, show (2 * n + 1) / 2 = n by omega,
          Nat.mul_comm n] at htop
        omega

/-- Images of two and of three rows, in buffers of three and of four rows: the tiles of the
    second leave the buffer. -/
theorem fillPattern_tiles_inBuffer_iff_tight :
    (∃ new, fillPattern nv12.format (some { bo := ⟨3, 24, 8, 1⟩ }) 8 2 .tiles .willing [] =
        .ok (some ⟨⟨3, 24, 8, 1⟩, 4096⟩,
          new ++ [.mmap 3 24 0 (some 4096), .mapDumb 3 1 (some 0)]) ∧
      StoresIn 4096 (4096 + 24) new) ∧
    ∃ new, fillPattern nv12.format (some { bo := ⟨3, 32, 8, 1⟩ }) 8 3 .tiles .willing [] =
        .ok (some ⟨⟨3, 32, 8, 1⟩, 4096⟩,
          new ++ [.mmap 3 32 0 (some 4096), .mapDumb 3 1 (some 0)]) ∧
      ¬ StoresIn 4096 (4096 + 32) new := by
  have hroomy {bo : Bo} {height : ℕ} (htight : Tight nv12.format bo 8 height)
      (hsmall : bo.pitch * (2 * height) < 2 ^ 32) : Roomy nv12.format bo 8 height :=
    ⟨htight.pitch.ge, htight.size.ge,
      lt_of_le_of_lt (Nat.mul_le_mul_left _ (Nat.le_mul_of_pos_left _ Nat.two_pos)) hsmall,
      fun _ => hsmall⟩
  refine ⟨?_, ?_⟩
  · have htight : Tight nv12.format ⟨3, 24, 8, 1⟩ 8 2 := ⟨rfl, rfl⟩
    have hroom := hroomy htight (by decide)
    have hmap : boMap { bo := ⟨3, 24, 8, 1⟩ } .willing [] =
      .ok ((.ok 4096, ⟨⟨3, 24, 8, 1⟩, 4096⟩), _) := rfl
    have hfill := fill_tiles_planar mem_nv12 rfl hmap (by decide) smallBo_proper hroom
    have hwhole : 2 ∣ 8 ∧ 2 ∣ 2 := by decide
    exact ⟨_, hfill, (fillPattern_tiles_inBuffer_iff mem_nv12 hmap (by decide) smallBo_proper
      hroom htight (by decide) hfill).2 hwhole⟩
  · have hproper : Proper 8 3 := by constructor <;> decide
    have htight : Tight nv12.format ⟨3, 32, 8, 1⟩ 8 3 := ⟨rfl, rfl⟩
    have hroom := hroomy htight (by decide)
    have hmap : boMap { bo := ⟨3, 32, 8, 1⟩ } .willing [] =
      .ok ((.ok 4096, ⟨⟨3, 32, 8, 1⟩, 4096⟩), _) := rfl
    have hfill := fill_tiles_planar mem_nv12 rfl hmap (by decide) hproper hroom
    have hnot : ¬ (2 ∣ 8 ∧ 2 ∣ 3) := by decide
    exact ⟨_, hfill, fun hin => hnot ((fillPattern_tiles_inBuffer_iff mem_nv12 hmap (by decide)
      hproper hroom htight (by decide) hfill).1 hin)⟩

end Buffer

end ValRpi
