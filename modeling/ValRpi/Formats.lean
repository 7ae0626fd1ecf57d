import Mathlib.Algebra.Group.Int.Defs
import Mathlib.Algebra.Group.Nat.Defs
import Mathlib.Data.Nat.Basic
import Mathlib.Order.Basic
import Mathlib.Order.Interval.Set.Defs
import ValRpi.Buffer
import ValRpi.Lib.BitFields
import ValRpi.Lib.Lists

/-!
# Pixel formats

`tests/format.h`: the table of the formats that the test program can paint, with the
names it looks them up by, and the macros that make a pixel of a colour.

* `utilFormatFourcc_eq_some_iff`: a name is found if it is that of the code of a format
  for which `bo_create` makes buffers, and then this format is;
* `makeRgba_eq`: a pixel holds the upper bits of each of its components, in the bits that
  `bo_create` gives a pixel, unless a component has more bits than the colour;
* `MAKE_YUV_601` is expanded for signed and for unsigned arguments: they agree
  (`makeYuv601U_eq`).
-/

namespace ValRpi

/-- What painting a pattern may run into: what the language leaves undefined, and the
    exception of `at`, which nobody catches. -/
inductive PaintFault
  | divByZero
  | outOfTable
  | shiftTooFar
  | overflow
  | nullDeref
  | endDeref
  | outOfRange
  deriving DecidableEq, Repr

/-- `util_color_component`. -/
abbrev ColorComponent := BitField

/-- `util_rgb_info`. -/
structure RgbInfo where
  red : ColorComponent
  green : ColorComponent
  blue : ColorComponent
  alpha : ColorComponent
  deriving DecidableEq, Repr

/-- The flags of `util_yuv_order`, a number. -/
abbrev YuvOrder := ℕ

def yuvYCbCr : YuvOrder := 1
def yuvYCrCb : YuvOrder := 2
def yuvYC : YuvOrder := 4
def yuvCY : YuvOrder := 8

/-- `util_yuv_info`. -/
structure YuvInfo where
  order : YuvOrder
  xsub : ℕ
  ysub : ℕ
  chromaStride : ℕ
  deriving DecidableEq, Repr

/-- `util_format_info`. -/
structure FormatInfo where
  format : Format
  name : String
  rgb : RgbInfo
  yuv : YuvInfo
  deriving DecidableEq, Repr

/-- `MAKE_RGB_INFO`. -/
def makeRgbInfo (format : Format) (name : String) (rl ro gl go bl bo al ao : ℕ) : FormatInfo :=
  ⟨format, name, ⟨⟨rl, ro⟩, ⟨gl, go⟩, ⟨bl, bo⟩, ⟨al, ao⟩⟩, ⟨0, 0, 0, 0⟩⟩

/-- `MAKE_YUV_INFO`. -/
def makeYuvInfo (format : Format) (name : String) (order : YuvOrder)
    (xsub ysub chromaStride : ℕ) : FormatInfo :=
  ⟨format, name, ⟨⟨0, 0⟩, ⟨0, 0⟩, ⟨0, 0⟩, ⟨0, 0⟩⟩, ⟨order, xsub, ysub, chromaStride⟩⟩

/-- `format_info`. -/
def formatInfo : List FormatInfo := [
  -- YUV packed
  makeYuvInfo .uyvy "UYVY" (yuvYCbCr ||| yuvCY) 2 2 2,
  makeYuvInfo .vyuy "VYUY" (yuvYCrCb ||| yuvCY) 2 2 2,
  makeYuvInfo .yuyv "YUYV" (yuvYCbCr ||| yuvYC) 2 2 2,
  makeYuvInfo .yvyu "YVYU" (yuvYCrCb ||| yuvYC) 2 2 2,
  -- YUV semi-planar
  makeYuvInfo .nv12 "NV12" yuvYCbCr 2 2 2,
  makeYuvInfo .nv21 "NV21" yuvYCrCb 2 2 2,
  makeYuvInfo .nv16 "NV16" yuvYCbCr 2 1 2,
  makeYuvInfo .nv61 "NV61" yuvYCrCb 2 1 2,
  -- YUV planar
  makeYuvInfo .yuv420 "YU12" yuvYCbCr 2 2 1,
  makeYuvInfo .yvu420 "YV12" yuvYCrCb 2 2 1,
  -- RGB16
  makeRgbInfo .argb4444 "AR12" 4 8 4 4 4 0 4 12,
  makeRgbInfo .xrgb4444 "XR12" 4 8 4 4 4 0 0 0,
  makeRgbInfo .abgr4444 "AB12" 4 0 4 4 4 8 4 12,
  makeRgbInfo .xbgr4444 "XB12" 4 0 4 4 4 8 0 0,
  makeRgbInfo .rgba4444 "RA12" 4 12 4 8 4 4 4 0,
  makeRgbInfo .rgbx4444 "RX12" 4 12 4 8 4 4 0 0,
  makeRgbInfo .bgra4444 "BA12" 4 4 4 8 4 12 4 0,
  makeRgbInfo .bgrx4444 "BX12" 4 4 4 8 4 12 0 0,
  makeRgbInfo .argb1555 "AR15" 5 10 5 5 5 0 1 15,
  makeRgbInfo .xrgb1555 "XR15" 5 10 5 5 5 0 0 0,
  makeRgbInfo .abgr1555 "AB15" 5 0 5 5 5 10 1 15,
  makeRgbInfo .xbgr1555 "XB15" 5 0 5 5 5 10 0 0,
  makeRgbInfo .rgba5551 "RA15" 5 11 5 6 5 1 1 0,
  makeRgbInfo .rgbx5551 "RX15" 5 11 5 6 5 1 0 0,
  makeRgbInfo .bgra5551 "BA15" 5 1 5 6 5 11 1 0,
  makeRgbInfo .bgrx5551 "BX15" 5 1 5 6 5 11 0 0,
  makeRgbInfo .rgb565 "RG16" 5 11 6 5 5 0 0 0,
  makeRgbInfo .bgr565 "BG16" 5 0 6 5 5 11 0 0,
  -- RGB24
  makeRgbInfo .bgr888 "BG24" 8 0 8 8 8 16 0 0,
  makeRgbInfo .rgb888 "RG24" 8 16 8 8 8 0 0 0,
  -- RGB32
  makeRgbInfo .argb8888 "AR24" 8 16 8 8 8 0 8 24,
  makeRgbInfo .xrgb8888 "XR24" 8 16 8 8 8 0 0 0,
  makeRgbInfo .abgr8888 "AB24" 8 0 8 8 8 16 8 24,
  makeRgbInfo .xbgr8888 "XB24" 8 0 8 8 8 16 0 0,
  makeRgbInfo .rgba8888 "RA24" 8 24 8 16 8 8 8 0,
  makeRgbInfo .rgbx8888 "RX24" 8 24 8 16 8 8 0 0,
  makeRgbInfo .bgra8888 "BA24" 8 8 8 16 8 24 8 0,
  makeRgbInfo .bgrx8888 "BX24" 8 8 8 16 8 24 0 0,
  makeRgbInfo .argb2101010 "AR30" 10 20 10 10 10 0 2 30,
  makeRgbInfo .xrgb2101010 "XR30" 10 20 10 10 10 0 0 0,
  makeRgbInfo .abgr2101010 "AB30" 10 0 10 10 10 20 2 30,
  makeRgbInfo .xbgr2101010 "XB30" 10 0 10 10 10 20 0 0,
  makeRgbInfo .rgba1010102 "RA30" 10 22 10 12 10 2 2 0,
  makeRgbInfo .rgbx1010102 "RX30" 10 22 10 12 10 2 0 0,
  makeRgbInfo .bgra1010102 "BA30" 10 2 10 12 10 22 2 0,
  makeRgbInfo .bgrx1010102 "BX30" 10 2 10 12 10 22 0 0]

/-- `util_format_info_find`. -/
def utilFormatInfoFind (format : Format) : Option FormatInfo :=
  formatInfo.find? (·.format == format)

/-- `util_format_fourcc`, or none where it returns 0. -/
def utilFormatFourcc (name : String) : Option Format :=
  (formatInfo.find? (·.name == name)).map (·.format)

/-! ## Colours -/

/-- `MAKE_RGBA` for one component: of the eight bits of the colour the upper ones stay.
    The shift is computed without sign. -/
def ColorComponent.keep (c : ColorComponent) (color : ℕ) : Except PaintFault ℕ :=
  let shift := u32 (2 ^ 32 + 8 - c.length)
  if shift < 32 then .ok (color >>> shift) else .error .shiftTooFar

/-- `MAKE_RGBA`. -/
def makeRgba (rgb : RgbInfo) (r g b a : ℕ) : Except PaintFault ℕ := do
  let r ← ColorComponent.keep rgb.red r
  let g ← ColorComponent.keep rgb.green g
  let b ← ColorComponent.keep rgb.blue b
  let a ← ColorComponent.keep rgb.alpha a
  .ok (u32 (r <<< rgb.red.offset ||| (g <<< rgb.green.offset |||
    (b <<< rgb.blue.offset ||| a <<< rgb.alpha.offset))))

/-- `color_yuv`. -/
structure ColorYuv where
  y : UInt8
  u : UInt8
  v : UInt8
  deriving DecidableEq, Repr

/-- A number converted to `unsigned char`. -/
def uchar (n : ℤ) : UInt8 := (n % 2 ^ 8).toNat.toUInt8

/-- `MAKE_YUV_601` of signed numbers. -/
def makeYuv601 (r g b : ℤ) : ColorYuv where
  y := uchar ((66 * r + 129 * g + 25 * b + 128) / 2 ^ 8 + 16)
  u := uchar ((-38 * r - 74 * g + 112 * b + 128) / 2 ^ 8 + 128)
  v := uchar ((112 * r - 94 * g - 18 * b + 128) / 2 ^ 8 + 128)

/-- `MAKE_YUV_601` of unsigned numbers: the sums are those modulo `2 ^ 32`. -/
def makeYuv601U (r g b : ℕ) : ColorYuv where
  y := uchar ((66 * r + 129 * g + 25 * b + 128) % 2 ^ 32 / 2 ^ 8 + 16)
  u := uchar ((-38 * r - 74 * g + 112 * b + 128) % 2 ^ 32 / 2 ^ 8 + 128)
  v := uchar ((112 * r - 94 * g - 18 * b + 128) % 2 ^ 32 / 2 ^ 8 + 128)

/-! ## Names -/

/-- `fourcc_code` of `drm_fourcc.h`. -/
def fourccCode (a b c d : Char) : ℕ :=
  a.toNat ||| (b.toNat <<< 8 ||| (c.toNat <<< 16 ||| d.toNat <<< 24))

/-- The codes of `drm_fourcc.h`. -/
def Format.fourcc : Format → ℕ
  | .uyvy => fourccCode 'U' 'Y' 'V' 'Y'
  | .vyuy => fourccCode 'V' 'Y' 'U' 'Y'
  | .yuyv => fourccCode 'Y' 'U' 'Y' 'V'
  | .yvyu => fourccCode 'Y' 'V' 'Y' 'U'
  | .nv12 => fourccCode 'N' 'V' '1' '2'
  | .nv21 => fourccCode 'N' 'V' '2' '1'
  | .nv16 => fourccCode 'N' 'V' '1' '6'
  | .nv61 => fourccCode 'N' 'V' '6' '1'
  | .yuv420 => fourccCode 'Y' 'U' '1' '2'
  | .yvu420 => fourccCode 'Y' 'V' '1' '2'
  | .argb4444 => fourccCode 'A' 'R' '1' '2'
  | .xrgb4444 => fourccCode 'X' 'R' '1' '2'
  | .abgr4444 => fourccCode 'A' 'B' '1' '2'
  | .xbgr4444 => fourccCode 'X' 'B' '1' '2'
  | .rgba4444 => fourccCode 'R' 'A' '1' '2'
  | .rgbx4444 => fourccCode 'R' 'X' '1' '2'
  | .bgra4444 => fourccCode 'B' 'A' '1' '2'
  | .bgrx4444 => fourccCode 'B' 'X' '1' '2'
  | .argb1555 => fourccCode 'A' 'R' '1' '5'
  | .xrgb1555 => fourccCode 'X' 'R' '1' '5'
  | .abgr1555 => fourccCode 'A' 'B' '1' '5'
  | .xbgr1555 => fourccCode 'X' 'B' '1' '5'
  | .rgba5551 => fourccCode 'R' 'A' '1' '5'
  | .rgbx5551 => fourccCode 'R' 'X' '1' '5'
  | .bgra5551 => fourccCode 'B' 'A' '1' '5'
  | .bgrx5551 => fourccCode 'B' 'X' '1' '5'
  | .rgb565 => fourccCode 'R' 'G' '1' '6'
  | .bgr565 => fourccCode 'B' 'G' '1' '6'
  | .bgr888 => fourccCode 'B' 'G' '2' '4'
  | .rgb888 => fourccCode 'R' 'G' '2' '4'
  | .argb8888 => fourccCode 'A' 'R' '2' '4'
  | .xrgb8888 => fourccCode 'X' 'R' '2' '4'
  | .abgr8888 => fourccCode 'A' 'B' '2' '4'
  | .xbgr8888 => fourccCode 'X' 'B' '2' '4'
  | .rgba8888 => fourccCode 'R' 'A' '2' '4'
  | .rgbx8888 => fourccCode 'R' 'X' '2' '4'
  | .bgra8888 => fourccCode 'B' 'A' '2' '4'
  | .bgrx8888 => fourccCode 'B' 'X' '2' '4'
  | .argb2101010 => fourccCode 'A' 'R' '3' '0'
  | .xrgb2101010 => fourccCode 'X' 'R' '3' '0'
  | .abgr2101010 => fourccCode 'A' 'B' '3' '0'
  | .xbgr2101010 => fourccCode 'X' 'B' '3' '0'
  | .rgba1010102 => fourccCode 'R' 'A' '3' '0'
  | .rgbx1010102 => fourccCode 'R' 'X' '3' '0'
  | .bgra1010102 => fourccCode 'B' 'A' '3' '0'
  | .bgrx1010102 => fourccCode 'B' 'X' '3' '0'
  | .other fourcc => fourcc

/-- The characters of a code. -/
def fourccName (code : ℕ) : String :=
  String.ofList ((List.range 4).map fun i => Char.ofNat (code >>> (8 * i) % 2 ^ 8))

theorem nodup_format : (formatInfo.map (·.format)).Nodup := by decide +kernel

theorem nodup_name : (formatInfo.map (·.name)).Nodup := by decide +kernel

/-- The names of the table are those of the codes. -/
theorem name_of_mem : ∀ info ∈ formatInfo, info.name = fourccName info.format.fourcc := by
  decide +kernel

/-- The formats of the table are those that `bo_create` accepts. -/
theorem exists_info_iff (format : Format) :
    (∃ info ∈ formatInfo, info.format = format) ↔ format.bpp.isSome := by
  have hall : ∀ info ∈ formatInfo, info.format.bpp.isSome := by decide +kernel
  constructor
  · rintro ⟨info, hinfo, rfl⟩
    exact hall info hinfo
  · intro hbpp
    suffices hmem : format ∈ formatInfo.map (·.format) by simpa using hmem
    cases format with
    | other => cases hbpp
    | _ => decide +kernel

theorem utilFormatInfoFind_eq_some_iff {format : Format} {info : FormatInfo} :
    utilFormatInfoFind format = some info ↔ info ∈ formatInfo ∧ info.format = format := by
  constructor
  · exact Lists.of_find?_key
  · rintro ⟨hinfo, rfl⟩
    exact Lists.find?_key nodup_format hinfo

/-- A name is found if it is that of the code of a format that `bo_create` accepts,
    and then this format is. -/
theorem utilFormatFourcc_eq_some_iff {name : String} {format : Format} :
    utilFormatFourcc name = some format ↔
      format.bpp.isSome ∧ name = fourccName format.fourcc := by
  rw [utilFormatFourcc, Option.map_eq_some_iff]
  constructor
  · rintro ⟨info, hfind, rfl⟩
    obtain ⟨hinfo, rfl⟩ := Lists.of_find?_key hfind
    exact ⟨(exists_info_iff _).1 ⟨info, hinfo, rfl⟩, name_of_mem info hinfo⟩
  · rintro ⟨hbpp, rfl⟩
    obtain ⟨info, hinfo, rfl⟩ := (exists_info_iff format).2 hbpp
    refine ⟨info, ?_, rfl⟩
    rw [← name_of_mem info hinfo]
    exact Lists.find?_key nodup_name hinfo

/-! ## Pixels -/

namespace RgbInfo

variable (rgb : RgbInfo)

def components : List ColorComponent := [rgb.red, rgb.green, rgb.blue, rgb.alpha]

/-- A component has more bits than a colour. -/
def Deep : Prop := ∃ c ∈ rgb.components, 8 < c.length

instance : Decidable rgb.Deep := inferInstanceAs (Decidable (∃ c ∈ rgb.components, _))

/-- The components have no bit in common, and are in a pixel of so many bits. -/
structure In (bits : ℕ) : Prop where
  apart : rgb.components.Pairwise BitField.Apart
  le : ∀ c ∈ rgb.components, c.offset + c.length ≤ bits

instance (bits : ℕ) : Decidable (rgb.In bits) :=
  decidable_of_iff (_ ∧ _) ⟨fun h => ⟨h.1, h.2⟩, fun h => ⟨h.apart, h.le⟩⟩

end RgbInfo

/-- The components of a pixel are in the bits that `bo_create` gives it. -/
theorem in_bpp : ∀ info ∈ formatInfo, ∃ bpp ∈ info.format.bpp, bpp ≤ 32 ∧ info.rgb.In bpp := by
  decide +kernel

theorem length_of_mem {info : FormatInfo} (hinfo : info ∈ formatInfo) :
    ∀ c ∈ info.rgb.components, c.length ≤ 32 := by
  obtain ⟨bpp, _, h32, hin⟩ := in_bpp info hinfo
  intro c hc
  have hle := hin.le c hc
  omega

theorem ColorComponent.keep_of_le {c : ColorComponent} (hc : c.length ≤ 8) (color : ℕ) :
    c.keep color = .ok (color / 2 ^ (8 - c.length)) := by
  have hshift : u32 (2 ^ 32 + 8 - c.length) = 8 - c.length := by
    rw [u32]
    omega
  rw [keep, hshift, if_pos (by omega), Nat.shiftRight_eq_div_pow]

theorem ColorComponent.keep_of_lt {c : ColorComponent} (hc : 8 < c.length) (hle : c.length ≤ 32)
    (color : ℕ) : c.keep color = .error .shiftTooFar := by
  have hshift : u32 (2 ^ 32 + 8 - c.length) = 2 ^ 32 + 8 - c.length := by
    rw [u32]
    omega
  rw [keep, hshift, if_neg (by omega)]

/-- A component too deep is the end. -/
theorem makeRgba_of_deep {rgb : RgbInfo} (hle : ∀ c ∈ rgb.components, c.length ≤ 32)
    (hdeep : rgb.Deep) (r g b a : ℕ) : makeRgba rgb r g b a = .error .shiftTooFar := by
  simp only [RgbInfo.components, List.forall_mem_cons] at hle
  obtain ⟨hred, hgreen, hblue, halpha, _⟩ := hle
  rw [makeRgba]
  rcases Nat.lt_or_ge 8 rgb.red.length with h | hr
  · rw [ColorComponent.keep_of_lt h hred]
    rfl
  rw [ColorComponent.keep_of_le hr, Except.ok_bind]
  rcases Nat.lt_or_ge 8 rgb.green.length with h | hg
  · rw [ColorComponent.keep_of_lt h hgreen]
    rfl
  rw [ColorComponent.keep_of_le hg, Except.ok_bind]
  rcases Nat.lt_or_ge 8 rgb.blue.length with h | hb
  · rw [ColorComponent.keep_of_lt h hblue]
    rfl
  rw [ColorComponent.keep_of_le hb, Except.ok_bind]
  rcases Nat.lt_or_ge 8 rgb.alpha.length with h | ha
  · rw [ColorComponent.keep_of_lt h halpha]
    rfl
  · obtain ⟨c, hc, h8⟩ := hdeep
    simp only [RgbInfo.components, List.mem_cons, List.not_mem_nil, or_false] at hc
    rcases hc with rfl | rfl | rfl | rfl <;> omega

/-- Otherwise the pixel is the word of the components. -/
theorem makeRgba_of_not_deep {rgb : RgbInfo} (hdeep : ¬ rgb.Deep) (r g b a : ℕ) :
    makeRgba rgb r g b a = .ok (u32 (BitField.pack
      ((rgb.components.zip [r, g, b, a]).map fun p => (p.1, p.2 / 2 ^ (8 - p.1.length))))) := by
  have hle : ∀ c ∈ rgb.components, c.length ≤ 8 :=
    fun c hc => Nat.le_of_not_lt fun h => hdeep ⟨c, hc, h⟩
  simp only [RgbInfo.components, List.forall_mem_cons] at hle
  obtain ⟨hr, hg, hb, ha, _⟩ := hle
  rw [makeRgba, ColorComponent.keep_of_le hr, Except.ok_bind, ColorComponent.keep_of_le hg,
    Except.ok_bind, ColorComponent.keep_of_le hb, Except.ok_bind, ColorComponent.keep_of_le ha,
    Except.ok_bind]
  simp only [RgbInfo.components, List.zip_cons_cons, List.zip_nil_left, List.map_cons, List.map_nil,
    BitField.pack, BitField.put, Nat.or_zero]

/-- A pixel that was made holds the upper bits of each of its components, in the bits that
    `bo_create` gives a pixel. -/
theorem get_of_makeRgba {info : FormatInfo} (hinfo : info ∈ formatInfo) {r g b a pixel : ℕ}
    (hsmall : ∀ color ∈ [r, g, b, a], color < 2 ^ 8) (h : makeRgba info.rgb r g b a = .ok pixel) :
    (∀ bpp ∈ info.format.bpp, pixel < 2 ^ bpp) ∧
      ∀ p ∈ info.rgb.components.zip [r, g, b, a], p.1.get pixel = p.2 / 2 ^ (8 - p.1.length) := by
  obtain ⟨bpp, hbpp, h32, hin⟩ := in_bpp info hinfo
  have hdeep : ¬ info.rgb.Deep := by
    intro hdeep
    rw [makeRgba_of_deep (length_of_mem hinfo) hdeep] at h
    cases h
  let fields := (info.rgb.components.zip [r, g, b, a]).map
    fun p => (p.1, p.2 / 2 ^ (8 - p.1.length))
  have hkeys : fields.map Prod.fst = info.rgb.components := rfl
  have hfits : BitField.Fits fields := by
    intro p hp
    obtain ⟨⟨c, color⟩, hq, rfl⟩ := List.mem_map.1 hp
    have hcolor : color < 2 ^ 8 := hsmall color (List.of_mem_zip hq).2
    have hc : c.length ≤ 8 := Nat.le_of_not_lt fun h => hdeep ⟨c, (List.of_mem_zip hq).1, h⟩
    refine Nat.div_lt_of_lt_mul ?_
    rw [← Nat.pow_add, Nat.sub_add_cancel hc]
    exact hcolor
  have hlt : BitField.pack fields < 2 ^ bpp := by
    refine BitField.pack_lt hfits fun p hp => hin.le p.1 ?_
    rw [← hkeys]
    exact List.mem_map_of_mem hp
  have hword : u32 (BitField.pack fields) = BitField.pack fields :=
    Nat.mod_eq_of_lt (hlt.trans_le (Nat.pow_le_pow_right Nat.zero_lt_two h32))
  obtain rfl : BitField.pack fields = pixel :=
    Except.ok.inj (((makeRgba_of_not_deep hdeep r g b a).trans (congrArg _ hword)).symm.trans h)
  refine ⟨fun b hb => ?_, fun p hp => ?_⟩
  · cases Option.mem_unique hbpp hb
    exact hlt
  · exact BitField.get_pack hfits (hkeys ▸ hin.apart) _ (List.mem_map_of_mem hp)

/-- `MAKE_RGBA` for the formats of the table: a component with more bits than a colour is
    shifted too far; or else the pixel has the upper bits of each of its components, in the
    bits that `bo_create` gives a pixel. -/
theorem makeRgba_eq {info : FormatInfo} (hinfo : info ∈ formatInfo) {r g b a : ℕ}
    (hsmall : ∀ color ∈ [r, g, b, a], color < 2 ^ 8) :
    if info.rgb.Deep then makeRgba info.rgb r g b a = .error .shiftTooFar
    else ∃ pixel, makeRgba info.rgb r g b a = .ok pixel ∧
      (∀ bpp ∈ info.format.bpp, pixel < 2 ^ bpp) ∧
        ∀ p ∈ info.rgb.components.zip [r, g, b, a], p.1.get pixel = p.2 / 2 ^ (8 - p.1.length) := by
  split
  next hdeep => exact makeRgba_of_deep (length_of_mem hinfo) hdeep r g b a
  next hdeep =>
    have hmake := makeRgba_of_not_deep hdeep r g b a
    exact ⟨_, hmake, get_of_makeRgba hinfo hsmall hmake⟩

/-- White that is half transparent, with a single bit of alpha. -/
theorem makeRgba_eq_argb1555 : ∃ pixel,
    makeRgba ⟨⟨5, 10⟩, ⟨5, 5⟩, ⟨5, 0⟩, ⟨1, 15⟩⟩ 255 255 255 127 = .ok pixel ∧
      (∀ bpp ∈ Format.argb1555.bpp, pixel < 2 ^ bpp) ∧
        ∀ p ∈ [(⟨5, 10⟩, 255), (⟨5, 5⟩, 255), (⟨5, 0⟩, 255), ((⟨1, 15⟩ : ColorComponent), 127)],
          p.1.get pixel = p.2 / 2 ^ (8 - p.1.length) := by
  have hinfo : makeRgbInfo .argb1555 "AR15" 5 10 5 5 5 0 1 15 ∈ formatInfo := by decide +kernel
  have heq := makeRgba_eq hinfo (show ∀ color ∈ [255, 255, 255, 127], color < 2 ^ 8 by decide)
  rwa [if_neg (by decide)] at heq

/-! ## Luma and chroma -/

/-- Only the last eight bits count. -/
theorem uchar_congr {m n : ℤ} (h : m % 2 ^ 8 = n % 2 ^ 8) : uchar m = uchar n := by
  rw [uchar, uchar, h]

theorem toNat_uchar {n : ℤ} (h0 : 0 ≤ n) (h8 : n < 2 ^ 8) : ((uchar n).toNat : ℤ) = n := by
  rw [uchar, Int.emod_eq_of_lt h0 h8]
  have hlt : n.toNat < 2 ^ 8 := by omega
  rw [show n.toNat.toUInt8.toNat = n.toNat from UInt8.toNat_ofNat_of_lt' hlt,
    Int.toNat_of_nonneg h0]

/-- The bits of a sum that a shift and a conversion leave are those of the sum modulo
    `2 ^ 32`. -/
theorem uchar_emod (s c : ℤ) : uchar (s % 2 ^ 32 / 2 ^ 8 + c) = uchar (s / 2 ^ 8 + c) := by
  have hshift : s % 2 ^ 32 / 2 ^ 8 = s / 2 ^ 8 - 2 ^ 8 * (2 ^ 16 * (s / 2 ^ 32)) := by omega
  refine uchar_congr ?_
  rw [hshift]
  omega

/-- The macro is expanded for signed numbers and for unsigned ones, with the same
    outcome: the luma of a colour is in 16..235 and its chroma in 16..240, none of them
    being cut off. -/
theorem makeYuv601U_eq {r g b : ℕ} (hr : r < 2 ^ 8) (hg : g < 2 ^ 8) (hb : b < 2 ^ 8) :
    makeYuv601U r g b = makeYuv601 r g b ∧
      ((makeYuv601 r g b).y.toNat : ℤ) = (66 * r + 129 * g + 25 * b + 128) / 2 ^ 8 + 16 ∧
      ((makeYuv601 r g b).u.toNat : ℤ) = (-38 * r - 74 * g + 112 * b + 128) / 2 ^ 8 + 128 ∧
      ((makeYuv601 r g b).v.toNat : ℤ) = (112 * r - 94 * g - 18 * b + 128) / 2 ^ 8 + 128 ∧
      (makeYuv601 r g b).y.toNat ∈ Set.Icc 16 235 ∧ (makeYuv601 r g b).u.toNat ∈ Set.Icc 16 240 ∧
        (makeYuv601 r g b).v.toNat ∈ Set.Icc 16 240 := by
  have hsame : makeYuv601U r g b = makeYuv601 r g b := by
    rw [makeYuv601U, makeYuv601, ColorYuv.mk.injEq]
    exact ⟨uchar_emod _ _, uchar_emod _ _, uchar_emod _ _⟩
  have hy : ((makeYuv601 r g b).y.toNat : ℤ) = _ := toNat_uchar (by omega) (by omega)
  have hu : ((makeYuv601 r g b).u.toNat : ℤ) = _ := toNat_uchar (by omega) (by omega)
  have hv : ((makeYuv601 r g b).v.toNat : ℤ) = _ := toNat_uchar (by omega) (by omega)
  refine ⟨hsame, hy, hu, hv, ?_⟩
  simp only [Set.mem_Icc]
  omega

/-- Blue, the red chroma of which comes from a sum below 0. -/
theorem makeYuv601U_eq_blue :
    makeYuv601U 0 0 192 = makeYuv601 0 0 192 ∧
      ((makeYuv601 0 0 192).y.toNat : ℤ) = (66 * 0 + 129 * 0 + 25 * 192 + 128) / 2 ^ 8 + 16 ∧
      ((makeYuv601 0 0 192).u.toNat : ℤ) = (-38 * 0 - 74 * 0 + 112 * 192 + 128) / 2 ^ 8 + 128 ∧
      ((makeYuv601 0 0 192).v.toNat : ℤ) = (112 * 0 - 94 * 0 - 18 * 192 + 128) / 2 ^ 8 + 128 ∧
      (makeYuv601 0 0 192).y.toNat ∈ Set.Icc 16 235 ∧
        (makeYuv601 0 0 192).u.toNat ∈ Set.Icc 16 240 ∧
          (makeYuv601 0 0 192).v.toNat ∈ Set.Icc 16 240 :=
  makeYuv601U_eq (show 0 < 2 ^ 8 by decide) (show 0 < 2 ^ 8 by decide) (show 192 < 2 ^ 8 by decide)

end ValRpi
