import ValRpi.Bars
import ValRpi.Tiles

/-!
# Filled buffers

What `fill_pattern` leaves in a buffer that was mapped, for all formats of the table.
-/

namespace ValRpi

/-! ## The functions for a format -/

section Dispatch

variable {info : FormatInfo} {width height stride : ℕ}

/-- The alpha of the tiles. -/
def tileAlpha (bytes width height x y : ℕ) : ℕ :=
  match bytes with
  | 3 => 0
  | 4 => if y < height / 2 ∧ x < width / 2 then 127 else 255
  | _ => 255

theorem tileAlpha_lt (bytes width height x y : ℕ) : tileAlpha bytes width height x y < 2 ^ 8 := by
  unfold tileAlpha
  split
  · decide
  · split <;> decide
  · decide

/-- The alpha of the middle bars and of the others. -/
def barAlpha (bytes : ℕ) : ℕ × ℕ := if bytes = 3 then (0, 0) else (127, 255)

theorem barAlpha_lt (bytes : ℕ) : (barAlpha bytes).1 < 2 ^ 8 ∧ (barAlpha bytes).2 < 2 ^ 8 := by
  unfold barAlpha
  split <;> decide

theorem fillTiles_of_rgb (hkind : info.format.kind = .rgb) (planes : Planes)
    (width height stride : ℕ) :
    fillTiles info planes width height stride =
      fillTilesRgb info.format.bytes (tileAlpha info.format.bytes width height) info.rgb
        planes.first width height stride := by
  rw [fillTiles]
  generalize info.format = format at *
  cases format <;> first | (cases hkind; done) | rfl

theorem fillSmpte_of_rgb (hkind : info.format.kind = .rgb) (planes : Planes)
    (width height stride : ℕ) :
    fillSmpte info planes width height stride =
      fillSmpteRgb info.format.bytes (barAlpha info.format.bytes).1 (barAlpha info.format.bytes).2
        info.rgb planes.first width height stride := by
  rw [fillSmpte]
  generalize info.format = format at *
  cases format <;> first | (cases hkind; done) | rfl

theorem fillTiles_of_packed (hkind : info.format.kind = .packed) (planes : Planes)
    (width height stride : ℕ) :
    fillTiles info planes width height stride =
      fillTilesYuvPacked info.yuv planes.first width height stride := by
  rw [fillTiles]
  generalize info.format = format at *
  cases format <;> first | (cases hkind; done) | rfl

theorem fillSmpte_of_packed (hkind : info.format.kind = .packed) (planes : Planes)
    (width height stride : ℕ) :
    fillSmpte info planes width height stride =
      fillSmpteYuvPacked info.yuv planes.first width height stride := by
  rw [fillSmpte]
  generalize info.format = format at *
  cases format <;> first | (cases hkind; done) | rfl

/-- The components of the chroma are in the order that the format is named for. -/
theorem order_of_mem : ∀ info ∈ formatInfo,
    (info.format = .nv12 ∨ info.format = .nv16 → info.yuv.order = yuvYCbCr) ∧
      (info.format = .nv21 ∨ info.format = .nv61 → info.yuv.order = yuvYCrCb) := by
  decide +kernel

theorem chromaIn_of_mem (hinfo : info ∈ formatInfo) (planes : Planes)
    (hnv : info.format ∈ [.nv12, .nv21, .nv16, .nv61]) :
    info.format.chromaIn planes =
      (if info.yuv.has yuvYCbCr then planes.second else planes.second + 1,
        if info.yuv.has yuvYCrCb then planes.second else planes.second + 1) := by
  obtain ⟨hcb, hcr⟩ := order_of_mem info hinfo
  simp only [List.mem_cons, List.not_mem_nil, or_false] at hnv
  rcases hnv with h | h | h | h
  · rw [YuvInfo.has, YuvInfo.has, hcb (.inl h), h]
    rfl
  · rw [YuvInfo.has, YuvInfo.has, hcr (.inl h), h]
    rfl
  · rw [YuvInfo.has, YuvInfo.has, hcb (.inr h), h]
    rfl
  · rw [YuvInfo.has, YuvInfo.has, hcr (.inr h), h]
    rfl

theorem fillTiles_of_planar (hinfo : info ∈ formatInfo) (hkind : info.format.kind = .planar)
    (planes : Planes) (width height stride : ℕ) :
    fillTiles info planes width height stride =
      fillTilesYuvPlanar info.yuv planes.first (info.format.chromaIn planes).1
        (info.format.chromaIn planes).2 width height stride := by
  have hchroma := chromaIn_of_mem hinfo planes
  rw [fillTiles]
  generalize info.format = format at *
  cases format <;> first | (cases hkind; done) | rfl | (rw [hchroma (by decide)])

theorem fillSmpte_of_planar (hinfo : info ∈ formatInfo) (hkind : info.format.kind = .planar)
    (planes : Planes) (width height stride : ℕ) :
    fillSmpte info planes width height stride =
      fillSmpteYuvPlanar info.yuv planes.first (info.format.chromaIn planes).1
        (info.format.chromaIn planes).2 width height stride := by
  have hchroma := chromaIn_of_mem hinfo planes
  rw [fillSmpte]
  generalize info.format = format at *
  cases format <;> first | (cases hkind; done) | rfl | (rw [hchroma (by decide)])

end Dispatch

/-! ## The patterns of a format -/

section Patterns

variable {info : FormatInfo} {planes : Planes} {width height stride : ℕ}

theorem bpp_of_mem (hinfo : info ∈ formatInfo) : info.format.bpp.isSome :=
  (exists_info_iff _).1 ⟨info, hinfo, rfl⟩

theorem util_tiles (hinfo : info ∈ formatInfo) (planes : Planes) (width height stride : ℕ) :
    utilFillPattern info.format .tiles planes width height stride =
      fillTiles info planes width height stride := by
  rw [utilFillPattern, utilFormatInfoFind_eq_some_iff.2 ⟨hinfo, rfl⟩]

theorem util_smpte (hinfo : info ∈ formatInfo) (planes : Planes) (width height stride : ℕ) :
    utilFillPattern info.format .smpte planes width height stride =
      fillSmpte info planes width height stride := by
  rw [utilFillPattern, utilFormatInfoFind_eq_some_iff.2 ⟨hinfo, rfl⟩]

theorem util_plain (hinfo : info ∈ formatInfo) (planes : Planes) (width height stride : ℕ) :
    utilFillPattern info.format .plain planes width height stride =
      fillPlain planes height stride := by
  rw [utilFillPattern, utilFormatInfoFind_eq_some_iff.2 ⟨hinfo, rfl⟩]

theorem does_fillPlain (hfirst : planes.first ≠ 0) (height stride : ℕ) :
    Prog.Does (fillPlain planes height stride) ()
      (Stores.rounds (fun i => [.store (planes.first + i) 0x77]) (u32 (stride * height))) := by
  rw [fillPlain, if_neg hfirst]
  exact Prog.Does.drop (Prog.Does.each fun i _ => does_store (planes.first + i) 0x77) ()

/-- What is painted of the bars: widths of 4, 5 and 6 are not. -/
theorem barred_or (width : ℕ) : Barred width ∨ 4 ≤ width ∧ width ≤ 6 := by
  unfold Barred
  omega

end Patterns

/-! ## Planes that do not meet -/

/-- How the chroma of the planar formats of the table is sampled. -/
theorem planar_of_mem : ∀ info ∈ formatInfo, info.format.kind = .planar →
    info.yuv.xsub = 2 ∧ (info.yuv.ysub = 1 ∨ info.yuv.ysub = 2) ∧
      (info.format ∈ [.yuv420, .yvu420] → info.yuv.ysub = 2 ∧ info.yuv.chromaStride = 1) ∧
        (info.format ∉ [.yuv420, .yvu420] → info.yuv.chromaStride = 2) := by
  decide +kernel

theorem chromaStride_le {info : FormatInfo} (hinfo : info ∈ formatInfo)
    (hkind : info.format.kind = .planar) : info.yuv.chromaStride ≤ 2 := by
  obtain ⟨_, _, hown, hshared⟩ := planar_of_mem info hinfo hkind
  by_cases hmem : info.format ∈ [.yuv420, .yvu420]
  · rw [(hown hmem).2]
    decide
  · rw [hshared hmem]

theorem ordered_of_mem : ∀ info ∈ formatInfo, info.format.kind = .packed → info.yuv.Ordered := by
  decide +kernel

section Separate

variable {info : FormatInfo} {bo : Bo} {width height : ℕ}

/-- The luma ends before the second plane starts. -/
theorem apart_lumaGrid {map pitch : ℕ} {g : Grid} (hproper : Proper width height)
    (hwidth : width ≤ pitch) (hbase : map + pitch * height ≤ g.base) :
    (lumaGrid map pitch width height).Apart g := by
  refine Grid.apart_of_top_lt ?_
  have hwpos := hproper.width_pos
  obtain ⟨n, rfl⟩ := Nat.exists_eq_succ_of_ne_zero hproper.height_pos.ne'
  rw [Nat.mul_succ, Nat.mul_comm] at hbase
  simp only [Grid.top, Grid.addr, lumaGrid, Nat.succ_sub_one]
  omega

/-- The two components of the chroma in every other byte of a plane. -/
theorem separate_shared {map base pitch : ℕ} (rows : ℕ) (hproper : Proper width height)
    (hcols : 2 * ((width + 1) / 2) ≤ pitch) (hbase : map + pitch * height ≤ base) :
    Separate (lumaGrid map pitch width height) ⟨base, pitch, 2, (width + 1) / 2, rows⟩
      ⟨base + 1, pitch, 2, (width + 1) / 2, rows⟩ where
  fits_y := ⟨Nat.one_pos, by dsimp only [lumaGrid]; omega⟩
  fits_u := ⟨Nat.two_pos, by dsimp only; omega⟩
  fits_v := ⟨Nat.two_pos, by dsimp only; omega⟩
  apart_yu := apart_lumaGrid hproper (by omega) hbase
  apart_yv := apart_lumaGrid hproper (by omega) (Nat.le_succ_of_le hbase)
  apart_uv := Grid.apart_of_offsets base 0 1 (fun x hx => by omega) (fun x hx => by omega)
    fun x _ x' _ => by omega

/-- The two components of the chroma in a plane each. -/
theorem separate_own {map base base' pitch : ℕ} (rows : ℕ) (hproper : Proper width height)
    (hcols : 2 * ((width + 1) / 2) ≤ pitch) (hbase : map + pitch * height ≤ base)
    (hbase' : base + pitch / 2 * rows ≤ base') :
    Separate (lumaGrid map pitch width height) ⟨base, pitch / 2, 1, (width + 1) / 2, rows⟩
      ⟨base', pitch / 2, 1, (width + 1) / 2, rows⟩ where
  fits_y := ⟨Nat.one_pos, by dsimp only [lumaGrid]; omega⟩
  fits_u := ⟨Nat.one_pos, by dsimp only; omega⟩
  fits_v := ⟨Nat.one_pos, by dsimp only; omega⟩
  apart_yu := apart_lumaGrid hproper (by omega) hbase
  apart_yv := apart_lumaGrid hproper (by omega)
    (hbase.trans ((Nat.le_add_right _ _).trans hbase'))
  apart_uv := by
    rintro a ⟨y, hy, x, hx, rfl⟩ ha'
    have hle := ha'.bounds.1
    have hrow : (y + 1) * (pitch / 2) ≤ rows * (pitch / 2) := Nat.mul_le_mul_right _ hy
    rw [Nat.succ_mul, Nat.mul_comm rows] at hrow
    simp only [Grid.addr] at hle hx
    omega

/-- The planes of the chroma of a planar format, at the offsets that `bo_create` returned. -/
def FormatInfo.uGrid (info : FormatInfo) (bo : Bo) (map width height : ℕ) : Grid :=
  info.yuv.chromaGrid (info.format.chromaIn ((info.format.layout bo height).planesAt map)).1
    bo.pitch width (height / info.yuv.ysub)

def FormatInfo.vGrid (info : FormatInfo) (bo : Bo) (map width height : ℕ) : Grid :=
  info.yuv.chromaGrid (info.format.chromaIn ((info.format.layout bo height).planesAt map)).2
    bo.pitch width (height / info.yuv.ysub)

/-- One plane of chroma follows the luma. -/
theorem chromaIn_shared {format : Format} (hkind : format.kind = .planar)
    (hmem : format ∉ [.yuv420, .yvu420]) (hroom : Roomy format bo width height)
    (hheight : 0 < height) (map : ℕ) :
    format.chromaIn ((format.layout bo height).planesAt map) =
        (map + bo.pitch * height, map + bo.pitch * height + 1) ∨
      format.chromaIn ((format.layout bo height).planesAt map) =
        (map + bo.pitch * height + 1, map + bo.pitch * height) := by
  have hpitch : u32 bo.pitch = bo.pitch := Nat.mod_eq_of_lt (hroom.pitch_lt hheight)
  have hoffset : u32 (bo.pitch * height) = bo.pitch * height := Nat.mod_eq_of_lt hroom.small
  cases format <;> first
    | (cases hkind; done)
    | exact absurd (by decide) hmem
    | simp only [Format.layout, Layout.planesAt, Format.chromaIn, List.getD_cons_succ,
        List.getD_cons_zero, hpitch, hoffset, true_or, or_true]

/-- Two planes of chroma follow the luma, the second one where half of the rows of the
    first have their end. -/
theorem chromaIn_own {format : Format} (hkind : format.kind = .planar)
    (hmem : format ∈ [.yuv420, .yvu420]) (hroom : Roomy format bo width height)
    (hheight : 0 < height) (map : ℕ) :
    format.chromaIn ((format.layout bo height).planesAt map) =
        (map + bo.pitch * height, map + bo.pitch * height + bo.pitch / 2 * height / 2) ∨
      format.chromaIn ((format.layout bo height).planesAt map) =
        (map + bo.pitch * height + bo.pitch / 2 * height / 2, map + bo.pitch * height) := by
  have hall := hroom.small_planar hkind
  have hpitch : u32 bo.pitch = bo.pitch := Nat.mod_eq_of_lt (hroom.pitch_lt hheight)
  have hoffset : u32 (bo.pitch * height) = bo.pitch * height := Nat.mod_eq_of_lt hroom.small
  have hle : bo.pitch / 2 * height ≤ bo.pitch * height :=
    Nat.mul_le_mul_right _ (Nat.div_le_self _ _)
  rw [Nat.mul_left_comm] at hall
  have hhalf : u32 (bo.pitch / 2 * height) = bo.pitch / 2 * height := Nat.mod_eq_of_lt (by omega)
  have hthird : u32 (bo.pitch * height + bo.pitch / 2 * height / 2) =
      bo.pitch * height + bo.pitch / 2 * height / 2 := Nat.mod_eq_of_lt (by omega)
  simp only [List.mem_cons, List.not_mem_nil, or_false] at hmem
  rcases hmem with rfl | rfl
  all_goals
    simp only [Format.layout, Layout.planesAt, Format.chromaIn, List.getD_cons_succ,
      List.getD_cons_zero, hpitch, hoffset, hhalf, hthird, ← Nat.add_assoc, true_or, or_true]

theorem separate_planar (hinfo : info ∈ formatInfo) (hkind : info.format.kind = .planar)
    (hroom : Roomy info.format bo width height) (hproper : Proper width height)
    (hcols : 2 * ((width + 1) / 2) ≤ bo.pitch) (map : ℕ) :
    Separate (lumaGrid map bo.pitch width height) (info.uGrid bo map width height)
      (info.vGrid bo map width height) := by
  rw [FormatInfo.uGrid, FormatInfo.vGrid]
  obtain ⟨hxsub, hysub, hown, hshared⟩ := planar_of_mem info hinfo hkind
  have hsmall := hroom.two_pitch_lt hkind hproper.height_pos
  by_cases hmem : info.format ∈ [.yuv420, .yvu420]
  · obtain ⟨hy, hcs⟩ := hown hmem
    have hsep := separate_own (height / 2) hproper hcols (Nat.le_refl (map + bo.pitch * height))
      (Nat.add_le_add_left (Nat.mul_div_le_mul_div_assoc (bo.pitch / 2) height 2) _)
    rw [YuvInfo.chromaGrid_own hxsub hcs hsmall, YuvInfo.chromaGrid_own hxsub hcs hsmall, hy]
    rcases chromaIn_own hkind hmem hroom hproper.height_pos map with hc | hc
    · rw [hc]
      exact hsep
    · rw [hc]
      exact hsep.swap
  · have hsep := separate_shared (height / info.yuv.ysub) hproper hcols
      (Nat.le_refl (map + bo.pitch * height))
    rw [YuvInfo.chromaGrid_shared hxsub (hshared hmem) hsmall,
      YuvInfo.chromaGrid_shared hxsub (hshared hmem) hsmall]
    rcases chromaIn_shared hkind hmem hroom hproper.height_pos map with hc | hc
    · rw [hc]
      exact hsep
    · rw [hc]
      exact hsep.swap

/-- The luma and the chroma of a packed format, of which a row of the buffer holds all
    pairs. -/
theorem separate_packed {yuv : YuvInfo} {pitch : ℕ} (hordered : yuv.Ordered) (map height : ℕ)
    (hcols : 4 * ((width + 1) / 2) ≤ pitch) :
    Separate (yuv.packedLuma map pitch width height)
      (yuv.packedChroma yuv.uByte map pitch width height)
      (yuv.packedChroma yuv.vByte map pitch width height) := by
  obtain ⟨hluma, hchroma⟩ := hordered
  have heven {b : Bool} : (if b then 2 else 0) % 2 = 0 := by split <;> rfl
  have hu : yuv.uByte % 2 = 0 := heven
  have hv : yuv.vByte % 2 = 0 := heven
  have hapart {o o' u u' n n' : ℕ} (hin : ∀ x < n, o + x * u < pitch)
      (hin' : ∀ x < n', o' + x * u' < pitch) (hne : ∀ x < n, ∀ x' < n', o + x * u ≠ o' + x' * u') :
      Grid.Apart ⟨map + o, pitch, u, n, height⟩ ⟨map + o', pitch, u', n', height⟩ :=
    Grid.apart_of_offsets _ _ _ hin hin' hne
  simp only [YuvInfo.packedLuma, YuvInfo.packedChroma, Nat.add_assoc]
  refine ⟨⟨Nat.two_pos, ?_⟩, ⟨Nat.zero_lt_succ 3, ?_⟩, ⟨Nat.zero_lt_succ 3, ?_⟩, ?_, ?_, ?_⟩
  · dsimp only
    omega
  · dsimp only
    omega
  · dsimp only
    omega
  · exact hapart (fun x hx => by omega) (fun x hx => by omega) fun x _ x' _ => by omega
  · exact hapart (fun x hx => by omega) (fun x hx => by omega) fun x _ x' _ => by omega
  · exact hapart (fun x hx => by omega) (fun x hx => by omega) fun x _ x' _ => by omega

end Separate

/-! ## Patterns in a buffer -/

section Buffer

variable {info : FormatInfo} {m : Mapper} {l l' new : List MemEvent} {bo bo' : MappedBo}
  {map width height : ℕ} {pattern : FillPattern}

/-- What `fillPattern` does with a buffer that was mapped. -/
theorem fillPattern_eq (hinfo : info ∈ formatInfo)
    (hmap : boMap bo m l = .ok ((.ok map, bo'), l')) (hproper : Proper width height)
    (hroom : Roomy info.format bo.bo width height) :
    fillPattern info.format (some bo) width height pattern m l =
      (utilFillPattern info.format pattern (info.format.planesAt bo.bo.pitch map height).1 width
        height bo.bo.pitch >>= fun _ => pure (some bo')) m l' := by
  obtain rfl := eq_of_boMap hmap
  have hw : u32 width = width := Nat.mod_eq_of_lt (hproper.width_lt.trans (by decide))
  have hh : u32 height = height := Nat.mod_eq_of_lt (hproper.height_lt.trans (by decide))
  have hp : u32 bo.bo.pitch = bo.bo.pitch := Nat.mod_eq_of_lt (hroom.pitch_lt hproper.height_pos)
  rw [fillPattern, Prog.bind_of_ok hmap, hw, hh]
  dsimp only
  rw [(first_planesAt (bpp_of_mem hinfo) _ _ _).2, hp]

/-- Where the pattern can be painted, the buffer stays mapped. -/
theorem fillPattern_of_does (hinfo : info ∈ formatInfo)
    (hmap : boMap bo m l = .ok ((.ok map, bo'), l')) (hproper : Proper width height)
    (hroom : Roomy info.format bo.bo width height)
    (hdoes : Prog.Does (utilFillPattern info.format pattern
      (info.format.planesAt bo.bo.pitch map height).1 width height bo.bo.pitch) () new) :
    fillPattern info.format (some bo) width height pattern m l = .ok (some bo', new ++ l') := by
  rw [fillPattern_eq hinfo hmap hproper hroom, Prog.bind_of_ok (hdoes m l')]
  rfl

theorem fillPattern_of_throws {e : PaintFault} (hinfo : info ∈ formatInfo)
    (hmap : boMap bo m l = .ok ((.ok map, bo'), l')) (hproper : Proper width height)
    (hroom : Roomy info.format bo.bo width height)
    (hthrows : Prog.Throws (utilFillPattern info.format pattern
      (info.format.planesAt bo.bo.pitch map height).1 width height bo.bo.pitch) e) :
    fillPattern info.format (some bo) width height pattern m l = .error e := by
  rw [fillPattern_eq hinfo hmap hproper hroom, Prog.bind_of_error (hthrows m l')]

/-- A buffer for two rows of eight pixels, of two bytes at most. -/
def smallBo : MappedBo := { bo := ⟨3, 64, 16, 1⟩ }

def smallLog : List MemEvent := [.mmap 3 64 0 (some 4096), .mapDumb 3 1 (some 0)]

theorem boMap_smallBo :
    boMap smallBo .willing [] = .ok ((.ok 4096, ⟨smallBo.bo, 4096⟩), smallLog) := rfl

theorem smallBo_proper : Proper 8 2 := by constructor <;> decide

theorem smallBo_roomy (format : Format) (hbytes : format.bytes ≤ 2)
    (hvirtual : format.virtualHeight 2 ≤ 4) : Roomy format smallBo.bo 8 2 where
  pitch := Nat.mul_le_mul_left 8 hbytes
  size := Nat.mul_le_mul_left 16 hvirtual
  small := by decide
  small_planar _ := by decide

def rgb565 : FormatInfo := makeRgbInfo .rgb565 "RG16" 5 11 6 5 5 0 0 0

theorem mem_rgb565 : rgb565 ∈ formatInfo := by decide +kernel

def nv12 : FormatInfo := makeYuvInfo .nv12 "NV12" yuvYCbCr 2 2 2

theorem mem_nv12 : nv12 ∈ formatInfo := by decide +kernel

def yuyv : FormatInfo := makeYuvInfo .yuyv "YUYV" (yuvYCbCr ||| yuvYC) 2 2 2

theorem mem_yuyv : yuyv ∈ formatInfo := by decide +kernel

/-! ### One plane of RGB -/

section Rgb

variable (hinfo : info ∈ formatInfo) (hkind : info.format.kind = .rgb)
  (hmap : boMap bo m l = .ok ((.ok map, bo'), l')) (hmap0 : map ≠ 0)
  (hproper : Proper width height) (hroom : Roomy info.format bo.bo width height)
include hinfo hkind hmap hmap0 hproper hroom

/-- Tiles of pixels without a component that is too deep. -/
theorem exists_tiles_rgb (hdeep : ¬ info.rgb.Deep) : ∃ new,
    fillPattern info.format (some bo) width height .tiles m l = .ok (some bo', new ++ l') ∧
    Shows new info.rgb info.format.bytes map bo.bo.pitch width height
      (tileColor (tileAlpha info.format.bytes width height) width) := by
  obtain ⟨hwidth, hwidth16, hheight, hheight16⟩ := id hproper
  have hstride := hroom.pitch_ne (bpp_of_mem hinfo) hwidth
  have hfirst := (first_planesAt (bpp_of_mem hinfo) bo.bo.pitch map height).1
  refine ⟨pixelsOf info.rgb info.format.bytes map bo.bo.pitch width height
      (tileColor (tileAlpha info.format.bytes width height) width),
    fillPattern_of_does hinfo hmap hproper hroom ?_, ?_⟩
  · rw [util_tiles hinfo, fillTiles_of_rgb hkind, hfirst]
    exact does_fillTilesRgb hdeep _ _ hmap0 hwidth hwidth16 hheight hheight16 hstride
  · exact shows_pixelsOf hinfo hdeep (Format.bpp_of_rgb hkind) hroom.pitch
      (small_tileColor (tileAlpha_lt _ _ _) _)

/-- The tiles of an RGB format: a component of more than eight bits is the end, or else
    each pixel has the colour of its tile, and no other byte of the memory is stored to. -/
theorem fillPattern_tiles_rgb :
    if info.rgb.Deep then
      fillPattern info.format (some bo) width height .tiles m l = .error .shiftTooFar
    else ∃ new,
      fillPattern info.format (some bo) width height .tiles m l = .ok (some bo', new ++ l') ∧
      Shows new info.rgb info.format.bytes map bo.bo.pitch width height
        (tileColor (tileAlpha info.format.bytes width height) width) := by
  split
  next hdeep =>
    have hstride := hroom.pitch_ne (bpp_of_mem hinfo) hproper.width_pos
    have hfirst := (first_planesAt (bpp_of_mem hinfo) bo.bo.pitch map height).1
    refine fillPattern_of_throws hinfo hmap hproper hroom ?_
    rw [util_tiles hinfo, fillTiles_of_rgb hkind, hfirst]
    exact throws_fillTilesRgb (length_of_mem hinfo) hdeep _ _ hmap0 hproper.width_pos
      hproper.width_lt hproper.height_pos hstride
  next hdeep => exact exists_tiles_rgb hinfo hkind hmap hmap0 hproper hroom hdeep

/-- The bars of an RGB format: the same, and widths of 4, 5 and 6 end in a division by
    zero. -/
theorem fillPattern_smpte_rgb :
    if info.rgb.Deep then
      fillPattern info.format (some bo) width height .smpte m l = .error .shiftTooFar
    else if 4 ≤ width ∧ width ≤ 6 then
      fillPattern info.format (some bo) width height .smpte m l = .error .divByZero
    else ∃ new,
      fillPattern info.format (some bo) width height .smpte m l = .ok (some bo', new ++ l') ∧
      Shows new info.rgb info.format.bytes map bo.bo.pitch width height
        (barColor (barAlpha info.format.bytes).1 (barAlpha info.format.bytes).2 width height) := by
  obtain ⟨hwidth, hwidth16, hheight, hheight16⟩ := id hproper
  have hstride := hroom.pitch_ne (bpp_of_mem hinfo) hwidth
  have hfirst := (first_planesAt (bpp_of_mem hinfo) bo.bo.pitch map height).1
  split
  next hdeep =>
    refine fillPattern_of_throws hinfo hmap hproper hroom ?_
    rw [util_smpte hinfo, fillSmpte_of_rgb hkind, hfirst]
    exact throws_fillSmpteRgb_of_deep (length_of_mem hinfo) hdeep _ _ _ hmap0 hwidth hheight hstride
  next hdeep =>
    split
    next hnarrow =>
      refine fillPattern_of_throws hinfo hmap hproper hroom ?_
      rw [util_smpte hinfo, fillSmpte_of_rgb hkind, hfirst]
      exact throws_fillSmpteRgb hdeep _ _ _ hmap0 hnarrow.1 hnarrow.2 hheight hheight16 hstride
    next hnarrow =>
      have hbarred := (barred_or width).resolve_right hnarrow
      refine ⟨pixelsOf info.rgb info.format.bytes map bo.bo.pitch width height
          (barColor (barAlpha info.format.bytes).1 (barAlpha info.format.bytes).2 width height),
        fillPattern_of_does hinfo hmap hproper hroom ?_, ?_⟩
      · rw [util_smpte hinfo, fillSmpte_of_rgb hkind, hfirst]
        exact does_fillSmpteRgb hdeep _ _ _ hmap0 hwidth hwidth16 hbarred hheight hheight16 hstride
      · exact shows_pixelsOf hinfo hdeep (Format.bpp_of_rgb hkind) hroom.pitch
          (small_barColor (barAlpha_lt _).1 (barAlpha_lt _).2 _ _)

end Rgb

theorem fillPattern_tiles_rgb_small : ∃ new,
    fillPattern rgb565.format (some smallBo) 8 2 .tiles .willing [] =
      .ok (some ⟨smallBo.bo, 4096⟩, new ++ smallLog) ∧
    Shows new rgb565.rgb 2 4096 16 8 2 (tileColor (tileAlpha 2 8 2) 8) := by
  have htiles := fillPattern_tiles_rgb mem_rgb565 rfl boMap_smallBo (by decide) smallBo_proper
    (smallBo_roomy .rgb565 (by decide) (by decide))
  rwa [if_neg (by decide)] at htiles

theorem fillPattern_smpte_rgb_small : ∃ new,
    fillPattern rgb565.format (some smallBo) 8 2 .smpte .willing [] =
      .ok (some ⟨smallBo.bo, 4096⟩, new ++ smallLog) ∧
    Shows new rgb565.rgb 2 4096 16 8 2 (barColor (barAlpha 2).1 (barAlpha 2).2 8 2) := by
  have hbars := fillPattern_smpte_rgb mem_rgb565 rfl boMap_smallBo (by decide) smallBo_proper
    (smallBo_roomy .rgb565 (by decide) (by decide))
  rwa [if_neg (by decide), if_neg (by decide)] at hbars

/-! ### Planes of luma and chroma -/

section Planar

variable (hinfo : info ∈ formatInfo) (hkind : info.format.kind = .planar)
  (hmap : boMap bo m l = .ok ((.ok map, bo'), l')) (hmap0 : map ≠ 0)
  (hproper : Proper width height) (hroom : Roomy info.format bo.bo width height)
include hinfo hkind hmap hmap0 hproper hroom

/-- The tiles of a planar format, of any size. -/
theorem fill_tiles_planar :
    fillPattern info.format (some bo) width height .tiles m l = .ok (some bo',
      Stores.raster (Grid.Layer.cell .store (yuvLayers (lumaGrid map bo.bo.pitch width height)
        (info.yuv.chromaGrid (info.format.chromaIn ((info.format.layout bo.bo height).planesAt
          map)).1 bo.bo.pitch width ((height + info.yuv.ysub - 1) / info.yuv.ysub))
        (info.yuv.chromaGrid (info.format.chromaIn ((info.format.layout bo.bo height).planesAt
          map)).2 bo.bo.pitch width ((height + info.yuv.ysub - 1) / info.yuv.ysub))
        info.yuv.xsub info.yuv.ysub (tileYuv width))) width height ++ l') := by
  obtain ⟨hwidth, hwidth16, hheight, hheight16⟩ := id hproper
  obtain ⟨hxsub, hysub, _⟩ := planar_of_mem info hinfo hkind
  have hfirst := (first_planesAt (bpp_of_mem hinfo) bo.bo.pitch map height).1
  have hchroma := chromaIn_planesAt hkind hroom hheight map
  obtain ⟨hu, hv⟩ := chromaIn_ne hmap0 info.format (info.format.layout bo.bo height)
  refine fillPattern_of_does hinfo hmap hproper hroom ?_
  rw [util_tiles hinfo, fillTiles_of_planar hinfo hkind, hfirst, hchroma]
  exact does_fillTilesYuvPlanar (by omega) (by omega) (chromaStride_le hinfo hkind) hmap0 hu hv
    hwidth hwidth16 hheight hheight16 (hroom.pitch_ne (bpp_of_mem hinfo) hwidth)

/-- The tiles of a planar format, for a height that the rows of the chroma divide: each
    pixel has the luma of its tile, and the chroma is that of the last pixel of those that
    share it, in planes that do not meet. -/
theorem fillPattern_tiles_planar (hcols : 2 * ((width + 1) / 2) ≤ bo.bo.pitch)
    (hrows : info.yuv.ysub ∣ height) :
    Separate (lumaGrid map bo.bo.pitch width height) (info.uGrid bo.bo map width height)
      (info.vGrid bo.bo map width height) ∧
    ∃ new, fillPattern info.format (some bo) width height .tiles m l = .ok (some bo', new ++ l') ∧
      ShowsYuv new (lumaGrid map bo.bo.pitch width height) (info.uGrid bo.bo map width height)
        (info.vGrid bo.bo map width height) (tileYuv width)
        (sharedBy info.yuv.xsub info.yuv.ysub width height (tileYuv width)) := by
  obtain ⟨hxsub, hysub, _⟩ := planar_of_mem info hinfo hkind
  have hsep := separate_planar hinfo hkind hroom hproper hcols map
  have hgroups := Grid.Layer.groups_of_dvd (by omega) hrows
  have hfill := fill_tiles_planar hinfo hkind hmap hmap0 hproper hroom
  rw [hgroups] at hfill
  exact ⟨hsep, _, hfill,
    showsYuv_pixels hsep (by omega) (by omega) ⟨rfl, hgroups.symm⟩ ⟨rfl, hgroups.symm⟩⟩

/-- The bars of a planar format: a row of the chroma has the colours of the bars of an
    image of as many rows. -/
theorem fillPattern_smpte_planar (hcols : 2 * ((width + 1) / 2) ≤ bo.bo.pitch) :
    if 4 ≤ width ∧ width ≤ 6 then
      fillPattern info.format (some bo) width height .smpte m l = .error .divByZero
    else ∃ new,
      fillPattern info.format (some bo) width height .smpte m l = .ok (some bo', new ++ l') ∧
      ShowsYuv new (lumaGrid map bo.bo.pitch width height) (info.uGrid bo.bo map width height)
        (info.vGrid bo.bo map width height) (barYuv width height)
        fun x y => barYuv width (height / info.yuv.ysub) (info.yuv.xsub * x) y := by
  obtain ⟨hwidth, hwidth16, hheight, hheight16⟩ := id hproper
  obtain ⟨hxsub, hysub, hown, hshared⟩ := planar_of_mem info hinfo hkind
  have hstride := hroom.pitch_ne (bpp_of_mem hinfo) hwidth
  have hfirst := (first_planesAt (bpp_of_mem hinfo) bo.bo.pitch map height).1
  have hsep := separate_planar hinfo hkind hroom hproper hcols map
  have hchroma := chromaIn_planesAt hkind hroom hheight map
  obtain ⟨hu, hv⟩ := chromaIn_ne hmap0 info.format (info.format.layout bo.bo height)
  split
  next hnarrow =>
    refine fillPattern_of_throws hinfo hmap hproper hroom ?_
    rw [util_smpte hinfo, fillSmpte_of_planar hinfo hkind, hfirst, hchroma]
    exact throws_fillSmpteYuvPlanar hmap0 hu hv hnarrow.1 hnarrow.2 hheight hheight16 hstride
  next hnarrow =>
    have hbarred := (barred_or width).resolve_right hnarrow
    refine ⟨_, fillPattern_of_does hinfo hmap hproper hroom ?_,
      showsYuv_bars hsep info.yuv.xsub rfl rfl⟩
    rw [util_smpte hinfo, fillSmpte_of_planar hinfo hkind, hfirst, hchroma]
    exact does_fillSmpteYuvPlanar (by omega) (by omega) (chromaStride_le hinfo hkind) hmap0 hu hv
      hwidth hwidth16 hbarred hheight hheight16 hstride

end Planar

theorem fillPattern_tiles_planar_small :
    Separate (lumaGrid 4096 16 8 2) (nv12.uGrid smallBo.bo 4096 8 2)
      (nv12.vGrid smallBo.bo 4096 8 2) ∧
    ∃ new, fillPattern nv12.format (some smallBo) 8 2 .tiles .willing [] =
        .ok (some ⟨smallBo.bo, 4096⟩, new ++ smallLog) ∧
      ShowsYuv new (lumaGrid 4096 16 8 2) (nv12.uGrid smallBo.bo 4096 8 2)
        (nv12.vGrid smallBo.bo 4096 8 2) (tileYuv 8) (sharedBy 2 2 8 2 (tileYuv 8)) :=
  fillPattern_tiles_planar mem_nv12 rfl boMap_smallBo (by decide) smallBo_proper
    (smallBo_roomy .nv12 (by decide) (by decide)) (by decide) (by decide)

theorem fillPattern_smpte_planar_small : ∃ new,
    fillPattern nv12.format (some smallBo) 8 2 .smpte .willing [] =
      .ok (some ⟨smallBo.bo, 4096⟩, new ++ smallLog) ∧
    ShowsYuv new (lumaGrid 4096 16 8 2) (nv12.uGrid smallBo.bo 4096 8 2)
      (nv12.vGrid smallBo.bo 4096 8 2) (barYuv 8 2) fun x y => barYuv 8 1 (2 * x) y := by
  have hbars := fillPattern_smpte_planar mem_nv12 rfl boMap_smallBo (by decide) smallBo_proper
    (smallBo_roomy .nv12 (by decide) (by decide)) (by decide)
  rwa [if_neg (by decide)] at hbars

/-! ### One plane of luma and chroma -/

section Packed

variable (hinfo : info ∈ formatInfo) (hkind : info.format.kind = .packed)
  (hmap : boMap bo m l = .ok ((.ok map, bo'), l')) (hmap0 : map ≠ 0)
  (hproper : Proper width height) (hroom : Roomy info.format bo.bo width height)
include hinfo hkind hmap hmap0 hproper hroom

/-- The tiles of a packed format: pairs of pixels have the colour of the first one's tile,
    also a pair of which only the first pixel is in the image. -/
theorem fillPattern_tiles_packed (hcols : 4 * ((width + 1) / 2) ≤ bo.bo.pitch) :
    ∃ new, fillPattern info.format (some bo) width height .tiles m l = .ok (some bo', new ++ l') ∧
      ShowsYuv new (info.yuv.packedLuma map bo.bo.pitch (2 * ((width + 1) / 2)) height)
        (info.yuv.packedChroma info.yuv.uByte map bo.bo.pitch width height)
        (info.yuv.packedChroma info.yuv.vByte map bo.bo.pitch width height)
        (fun x y => tileYuv width (2 * (x / 2)) y) fun x y => tileYuv width (2 * x) y := by
  obtain ⟨hwidth, hwidth16, hheight, hheight16⟩ := id hproper
  have hstride := hroom.pitch_ne (bpp_of_mem hinfo) hwidth
  have hfirst := (first_planesAt (bpp_of_mem hinfo) bo.bo.pitch map height).1
  refine ⟨_, fillPattern_of_does hinfo hmap hproper hroom ?_,
    showsYuv_pairs (ordered_of_mem info hinfo hkind) hcols⟩
  rw [util_tiles hinfo, fillTiles_of_packed hkind, hfirst]
  exact does_fillTilesYuvPacked hmap0 hwidth hwidth16 hheight hheight16 hstride

/-- The bars of a packed format: each pixel has the luma of its bar, and a pair the chroma
    of the first one's. -/
theorem fillPattern_smpte_packed (hcols : 4 * ((width + 1) / 2) ≤ bo.bo.pitch) :
    if 4 ≤ width ∧ width ≤ 6 then
      fillPattern info.format (some bo) width height .smpte m l = .error .divByZero
    else ∃ new,
      fillPattern info.format (some bo) width height .smpte m l = .ok (some bo', new ++ l') ∧
      ShowsYuv new (info.yuv.packedLuma map bo.bo.pitch width height)
        (info.yuv.packedChroma info.yuv.uByte map bo.bo.pitch width height)
        (info.yuv.packedChroma info.yuv.vByte map bo.bo.pitch width height)
        (barYuv width height) fun x y => barYuv width height (2 * x) y := by
  obtain ⟨hwidth, hwidth16, hheight, hheight16⟩ := id hproper
  have hstride := hroom.pitch_ne (bpp_of_mem hinfo) hwidth
  have hfirst := (first_planesAt (bpp_of_mem hinfo) bo.bo.pitch map height).1
  split
  next hnarrow =>
    refine fillPattern_of_throws hinfo hmap hproper hroom ?_
    rw [util_smpte hinfo, fillSmpte_of_packed hkind, hfirst]
    exact throws_fillSmpteYuvPacked hmap0 hnarrow.1 hnarrow.2 hheight hheight16 hstride
  next hnarrow =>
    have hbarred := (barred_or width).resolve_right hnarrow
    have hsep := separate_packed (ordered_of_mem info hinfo hkind) map height hcols
    refine ⟨_, fillPattern_of_does hinfo hmap hproper hroom ?_, showsYuv_bars hsep 2 rfl rfl⟩
    rw [util_smpte hinfo, fillSmpte_of_packed hkind, hfirst]
    exact does_fillSmpteYuvPacked hmap0 hwidth hwidth16 hbarred hheight hheight16 hstride

end Packed

theorem fillPattern_tiles_packed_small : ∃ new,
    fillPattern yuyv.format (some smallBo) 8 2 .tiles .willing [] =
      .ok (some ⟨smallBo.bo, 4096⟩, new ++ smallLog) ∧
    ShowsYuv new (yuyv.yuv.packedLuma 4096 16 8 2)
      (yuyv.yuv.packedChroma yuyv.yuv.uByte 4096 16 8 2)
      (yuyv.yuv.packedChroma yuyv.yuv.vByte 4096 16 8 2)
      (fun x y => tileYuv 8 (2 * (x / 2)) y) fun x y => tileYuv 8 (2 * x) y :=
  fillPattern_tiles_packed mem_yuyv rfl boMap_smallBo (by decide) smallBo_proper
    (smallBo_roomy .yuyv (by decide) (by decide)) (by decide)

theorem fillPattern_smpte_packed_small : ∃ new,
    fillPattern yuyv.format (some smallBo) 8 2 .smpte .willing [] =
      .ok (some ⟨smallBo.bo, 4096⟩, new ++ smallLog) ∧
    ShowsYuv new (yuyv.yuv.packedLuma 4096 16 8 2)
      (yuyv.yuv.packedChroma yuyv.yuv.uByte 4096 16 8 2)
      (yuyv.yuv.packedChroma yuyv.yuv.vByte 4096 16 8 2)
      (barYuv 8 2) fun x y => barYuv 8 2 (2 * x) y := by
  have hbars := fillPattern_smpte_packed mem_yuyv rfl boMap_smallBo (by decide) smallBo_proper
    (smallBo_roomy .yuyv (by decide) (by decide)) (by decide)
  rwa [if_neg (by decide)] at hbars

/-! ### Plain memory -/

/-- The plain pattern: the rows of the first plane are filled, with what is between them,
    and no other byte is stored to, also not for formats of several planes. -/
theorem fillPattern_plain (hinfo : info ∈ formatInfo)
    (hmap : boMap bo m l = .ok ((.ok map, bo'), l')) (hmap0 : map ≠ 0)
    (hproper : Proper width height) (hroom : Roomy info.format bo.bo width height) :
    ∃ new, fillPattern info.format (some bo) width height .plain m l = .ok (some bo', new ++ l') ∧
      ∀ a, byteAt new a =
        if map ≤ a ∧ a < map + bo.bo.pitch * height then some 0x77 else none := by
  have hfirst := (first_planesAt (bpp_of_mem hinfo) bo.bo.pitch map height).1
  have hsmall : u32 (bo.bo.pitch * height) = bo.bo.pitch * height := Nat.mod_eq_of_lt hroom.small
  have hdoes := does_fillPlain (hfirst.symm ▸ hmap0) height bo.bo.pitch
  rw [hfirst, hsmall] at hdoes
  refine ⟨_, fillPattern_of_does hinfo hmap hproper hroom (util_plain hinfo _ _ _ _ ▸ hdoes),
    fun a => ?_⟩
  have hbyte (i : ℕ) : byteAt [.store (map + i) 0x77] a = if map + i = a then some 0x77 else none :=
    byteAt_store _ _ _
  split
  next hin =>
    rw [byteAt, Stores.last_rounds_of_unique (show a - map < bo.bo.pitch * height by omega)
      fun i _ hne => ?_, ← byteAt, hbyte, if_pos (by omega)]
    rw [← byteAt, hbyte, if_neg (by omega)]
  next hout =>
    refine Stores.last_rounds_eq_none fun i hi => ?_
    rw [← byteAt, hbyte, if_neg (by omega)]

theorem fillPattern_plain_small : ∃ new,
    fillPattern nv12.format (some smallBo) 8 2 .plain .willing [] =
      .ok (some ⟨smallBo.bo, 4096⟩, new ++ smallLog) ∧
    ∀ a, byteAt new a = if 4096 ≤ a ∧ a < 4096 + 16 * 2 then some 0x77 else none :=
  fillPattern_plain mem_nv12 boMap_smallBo (by decide) smallBo_proper
    (smallBo_roomy .nv12 (by decide) (by decide))

end Buffer

end ValRpi
