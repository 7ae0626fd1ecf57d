import ValRpi.Lib.Grids
import ValRpi.Patterns

/-!
# Images in memory

What a painted buffer shows, in terms of pixels and their colours, without the loops
that painted it.

* `Shows` says that the pixels of one plane have the colours of an image, and that no
  other byte was stored to; `shows_pixelsOf` gives it for what is stored pixel by pixel;
* `ShowsYuv` says the same of planes of luma and chroma, which several pixels may share.
-/

namespace ValRpi

/-- A colour, of components of eight bits. -/
structure Rgba where
  r : ℕ
  g : ℕ
  b : ℕ
  a : ℕ
  deriving DecidableEq, Repr

namespace Rgba

def components (c : Rgba) : List ℕ := [c.r, c.g, c.b, c.a]

/-- The components have eight bits. -/
def Small (c : Rgba) : Prop := ∀ n ∈ c.components, n < 2 ^ 8

end Rgba

/-- The pixel of a colour, where no component is too deep. -/
def RgbInfo.pixel (rgb : RgbInfo) (c : Rgba) : ℕ :=
  u32 (BitField.pack ((rgb.components.zip c.components).map fun p =>
    (p.1, p.2 / 2 ^ (8 - p.1.length))))

theorem makeRgba_eq_pixel {rgb : RgbInfo} (hdeep : ¬ rgb.Deep) (c : Rgba) :
    makeRgba rgb c.r c.g c.b c.a = .ok (rgb.pixel c) := makeRgba_of_not_deep hdeep _ _ _ _

/-- The pixel has the upper bits of the components of the colour. -/
def RgbInfo.HasColor (rgb : RgbInfo) (pixel : ℕ) (c : Rgba) : Prop :=
  ∀ p ∈ rgb.components.zip c.components, p.1.get pixel = p.2 / 2 ^ (8 - p.1.length)

theorem hasColor_pixel {info : FormatInfo} (hinfo : info ∈ formatInfo) (hdeep : ¬ info.rgb.Deep)
    {c : Rgba} (hc : c.Small) {bpp : ℕ} (hbpp : info.format.bpp = some bpp) :
    info.rgb.pixel c < 2 ^ bpp ∧ info.rgb.HasColor (info.rgb.pixel c) c := by
  obtain ⟨hlt, hcolor⟩ := get_of_makeRgba hinfo hc (makeRgba_eq_pixel hdeep c)
  exact ⟨hlt bpp hbpp, hcolor⟩

/-- The plane at `mem` shows an image: its pixels, of `bytes` bytes, have the colours of
    the image, and no other byte was stored to. -/
structure Shows (log : List MemEvent) (rgb : RgbInfo) (bytes mem stride width height : ℕ)
    (image : ℕ → ℕ → Rgba) : Prop where
  pixel : ∀ y < height, ∀ x < width, ∃ pixel < 2 ^ (8 * bytes), rgb.HasColor pixel (image x y) ∧
    ∀ i < bytes, byteAt log (mem + y * stride + x * bytes + i) =
      some (pixel / 2 ^ (8 * i)).toUInt8
  rest : ∀ a, (∀ y < height, ∀ x < width, ¬ (mem + y * stride + x * bytes ≤ a ∧
    a < mem + y * stride + (x + 1) * bytes)) → byteAt log a = none

/-- What is stored for the pixels of an image. -/
def pixelsOf (rgb : RgbInfo) (bytes mem stride width height : ℕ) (image : ℕ → ℕ → Rgba) :
    List MemEvent :=
  Stores.raster (fun y x => bytesOf bytes (mem + y * stride + x * bytes) (rgb.pixel (image x y)))
    width height

theorem cells_bytesOf (bytes mem stride width height : ℕ) (pixel : ℕ → ℕ → ℕ) :
    Stores.Cells storedByte mem stride bytes width height fun y x =>
      bytesOf bytes (mem + y * stride + x * bytes) (pixel x y) := by
  intro y _ x _
  rw [Nat.succ_mul, ← Nat.add_assoc]
  exact storesIn_bytesOf _ _ _

theorem shows_pixelsOf {info : FormatInfo} (hinfo : info ∈ formatInfo) (hdeep : ¬ info.rgb.Deep)
    {bytes mem stride width height : ℕ} (hbpp : info.format.bpp = some (8 * bytes))
    (hstride : width * bytes ≤ stride) {image : ℕ → ℕ → Rgba} (himage : ∀ x y, (image x y).Small) :
    Shows (pixelsOf info.rgb bytes mem stride width height image) info.rgb bytes mem stride width
      height image := by
  have hcells := cells_bytesOf bytes mem stride width height fun x y => info.rgb.pixel (image x y)
  refine ⟨fun y hy x hx => ?_, fun a ha => hcells.last_eq_none ha⟩
  obtain ⟨hlt, hcolor⟩ := hasColor_pixel hinfo hdeep (himage x y) hbpp
  refine ⟨_, hlt, hcolor, fun i hi => ?_⟩
  have hend : (x + 1) * bytes = x * bytes + bytes := Nat.succ_mul _ _
  rw [pixelsOf, byteAt, hcells.last hstride hy hx (by omega) (by omega), ← byteAt,
    byteAt_bytesOf hi]

/-! ## Luma and chroma -/

/-- The pictures of three planes: the luma of an image and the two components of its chroma. -/
def yuvPictures (yg ug vg : Grid) (luma chroma : ℕ → ℕ → ColorYuv) : List (Grid.Picture UInt8) :=
  [⟨yg, fun x y => (luma x y).y⟩, ⟨ug, fun x y => (chroma x y).u⟩, ⟨vg, fun x y => (chroma x y).v⟩]

/-- The planes show an image by its luma and its chroma, and no other byte was stored to. -/
def ShowsYuv (log : List MemEvent) (yg ug vg : Grid) (luma chroma : ℕ → ℕ → ColorYuv) : Prop :=
  Grid.Shown storedByte (yuvPictures yg ug vg luma chroma) log

/-- The planes of an image: their rows do not meet, and no two planes do. -/
structure Separate (yg ug vg : Grid) : Prop where
  fits_y : yg.Fits
  fits_u : ug.Fits
  fits_v : vg.Fits
  apart_yu : yg.Apart ug
  apart_yv : yg.Apart vg
  apart_uv : ug.Apart vg

/-- What is stored for a pixel: its luma, and the chroma that it shares with the others of
    `gx` columns and `gy` rows. -/
def yuvLayers (yg ug vg : Grid) (gx gy : ℕ) (image : ℕ → ℕ → ColorYuv) : List (Grid.Layer UInt8) :=
  [⟨vg, gx, gy, fun x y => (image x y).v⟩, ⟨ug, gx, gy, fun x y => (image x y).u⟩,
    .single yg fun x y => (image x y).y]

/-- The last pixel of those that share their chroma decides. -/
def sharedBy (gx gy width height : ℕ) (image : ℕ → ℕ → ColorYuv) (cx cy : ℕ) : ColorYuv :=
  image (min (gx * cx + gx - 1) (width - 1)) (min (gy * cy + gy - 1) (height - 1))

theorem stores_store (a : ℕ) (v : UInt8) : storedByte (.store a v) = some (a, v) := rfl

/-- A plane of chroma has an address for each `gx * gy` pixels. -/
structure Subsamples (yg ug : Grid) (gx gy : ℕ) : Prop where
  cols : ug.cols = (yg.cols + gx - 1) / gx
  rows : ug.rows = (yg.rows + gy - 1) / gy

theorem Separate.swap {yg ug vg : Grid} (h : Separate yg ug vg) : Separate yg vg ug :=
  ⟨h.fits_y, h.fits_v, h.fits_u, h.apart_yv, h.apart_yu, h.apart_uv.symm⟩

section Pixels

variable {yg ug vg : Grid} {gx gy : ℕ} {image : ℕ → ℕ → ColorYuv}

theorem fits_yuvLayers (hgx : 0 < gx) (hgy : 0 < gy) (hu : Subsamples yg ug gx gy)
    (hv : Subsamples yg vg gx gy) :
    ∀ l ∈ yuvLayers yg ug vg gx gy image, l.Fits yg.cols yg.rows := by
  rw [yuvLayers, List.forall_mem_cons, List.forall_mem_cons, List.forall_mem_singleton]
  exact ⟨⟨hgx, hgy, hv.cols, hv.rows⟩, ⟨hgx, hgy, hu.cols, hu.rows⟩, Grid.Layer.fits_single rfl rfl⟩

/-- Pixels that are painted one after the other, each with its luma and chroma. -/
theorem showsYuv_pixels (hsep : Separate yg ug vg) (hgx : 0 < gx) (hgy : 0 < gy)
    (hu : Subsamples yg ug gx gy) (hv : Subsamples yg vg gx gy) :
    ShowsYuv
      (Stores.raster (Grid.Layer.cell .store (yuvLayers yg ug vg gx gy image)) yg.cols yg.rows)
      yg ug vg image (sharedBy gx gy yg.cols yg.rows image) := by
  have hapart : (yuvLayers yg ug vg gx gy image).Pairwise fun l l' => l.grid.Apart l'.grid := by
    simp only [yuvLayers, List.pairwise_cons, List.forall_mem_cons, List.not_mem_nil,
      false_implies, implies_true, List.Pairwise.nil, and_true]
    exact ⟨⟨hsep.apart_uv.symm, hsep.apart_yv.symm⟩, hsep.apart_yu.symm⟩
  have hgrids : ∀ l ∈ yuvLayers yg ug vg gx gy image, l.grid.Fits := by
    rw [yuvLayers, List.forall_mem_cons, List.forall_mem_cons, List.forall_mem_singleton]
    exact ⟨hsep.fits_v, hsep.fits_u, hsep.fits_y⟩
  have hshown := Grid.Layer.shown_raster stores_store hapart (fits_yuvLayers hgx hgy hu hv) hgrids
  refine hshown.congr ?_ ?_
  · simp only [yuvPictures, yuvLayers, List.map_cons, List.map_nil, List.forall_mem_cons,
      List.not_mem_nil, false_implies, implies_true, and_true]
    exact ⟨⟨_, .tail _ (.tail _ (.head _)), rfl, Grid.Layer.picture_single _ _ _ _⟩,
      ⟨_, .tail _ (.head _), rfl, fun _ _ _ _ => rfl⟩, ⟨_, .head _, rfl, fun _ _ _ _ => rfl⟩⟩
  · simp only [yuvPictures, yuvLayers, List.map_cons, List.map_nil, List.forall_mem_cons,
      List.not_mem_nil, false_implies, implies_true, and_true]
    exact ⟨⟨_, .tail _ (.tail _ (.head _)), rfl⟩, ⟨_, .tail _ (.head _), rfl⟩, ⟨_, .head _, rfl⟩⟩

end Pixels

/-! ### The planes of the formats -/

/-- The plane of the luma. -/
def lumaGrid (mem stride width height : ℕ) : Grid := ⟨mem, stride, 1, width, height⟩

namespace YuvInfo

variable (yuv : YuvInfo)

/-- A plane of the chroma, of so many rows. -/
def chromaGrid (mem stride width rows : ℕ) : Grid :=
  ⟨mem, u32 (stride * yuv.chromaStride) / yuv.xsub, yuv.chromaStride,
    (width + yuv.xsub - 1) / yuv.xsub, rows⟩

section Chroma

variable {yuv} {mem stride width rows : ℕ}

/-- Both components in one plane. -/
theorem chromaGrid_shared (hxsub : yuv.xsub = 2) (hcs : yuv.chromaStride = 2)
    (hstride : 2 * stride < 2 ^ 32) :
    yuv.chromaGrid mem stride width rows = ⟨mem, stride, 2, (width + 1) / 2, rows⟩ := by
  rw [chromaGrid, hxsub, hcs, u32, Nat.mod_eq_of_lt (by omega), Nat.mul_div_cancel _ Nat.two_pos]
  rfl

/-- A plane for each component. -/
theorem chromaGrid_own (hxsub : yuv.xsub = 2) (hcs : yuv.chromaStride = 1)
    (hstride : 2 * stride < 2 ^ 32) :
    yuv.chromaGrid mem stride width rows = ⟨mem, stride / 2, 1, (width + 1) / 2, rows⟩ := by
  rw [chromaGrid, hxsub, hcs, u32, Nat.mod_eq_of_lt (by omega), Nat.mul_one]
  rfl

end Chroma

/-- The luma of a packed format. -/
def packedLuma (mem stride width height : ℕ) : Grid :=
  ⟨mem + yuv.yByte, stride, 2, width, height⟩

/-- A component of its chroma, one for each pair of pixels. -/
def packedChroma (byte mem stride width height : ℕ) : Grid :=
  ⟨mem + yuv.cByte + byte, stride, 4, (width + 1) / 2, height⟩

/-- Luma and chroma are in different bytes. -/
structure Ordered : Prop where
  luma : yuv.yByte + yuv.cByte = 1
  chroma : yuv.uByte + yuv.vByte = 2

instance : Decidable yuv.Ordered :=
  decidable_of_iff (_ ∧ _) ⟨fun h => ⟨h.1, h.2⟩, fun h => ⟨h.luma, h.chroma⟩⟩

end YuvInfo

/-! ## Kinds of formats -/

/-- How the planes of a format are painted. -/
inductive Kind
  | packed
  | planar
  | rgb
  | unknown
  deriving DecidableEq, Repr

namespace Format

def kind : Format → Kind
  | .uyvy | .vyuy | .yuyv | .yvyu => .packed
  | .nv12 | .nv21 | .nv16 | .nv61 | .yuv420 | .yvu420 => .planar
  | .other _ => .unknown
  | _ => .rgb

/-- The bytes of a pixel in the first plane. -/
def bytes (format : Format) : ℕ := format.bpp.getD 0 / 8

/-- Where the two components of the chroma start. -/
def chromaIn (format : Format) (planes : Planes) : ℕ × ℕ :=
  match format with
  | .nv12 | .nv16 => (planes.second, planes.second + 1)
  | .nv21 | .nv61 => (planes.second + 1, planes.second)
  | .yvu420 => (planes.third, planes.second)
  | _ => (planes.second, planes.third)

theorem bpp_of_rgb {format : Format} (hkind : format.kind = .rgb) :
    format.bpp = some (8 * format.bytes) := by
  cases format <;> first | rfl | cases hkind

theorem bytes_of_packed {format : Format} (hkind : format.kind = .packed) : format.bytes = 2 := by
  cases format <;> first | rfl | cases hkind

theorem bytes_of_planar {format : Format} (hkind : format.kind = .planar) : format.bytes = 1 := by
  cases format <;> first | rfl | cases hkind

theorem bytes_pos {format : Format} (hknown : format.bpp.isSome) : 0 < format.bytes := by
  cases format <;> first | decide | cases hknown

end Format

/-- A size of 16 bits, as that of a mode, that is not empty. -/
structure Proper (width height : ℕ) : Prop where
  width_pos : 0 < width
  width_lt : width < 2 ^ 16
  height_pos : 0 < height
  height_lt : height < 2 ^ 16

/-- A buffer as `bo_create` asks for, which the kernel may make greater: a row of the
    image is in a row of the buffer, and all planes are in its memory. The offsets of the
    planes do not overflow 32 bits. -/
structure Roomy (format : Format) (bo : Bo) (width height : ℕ) : Prop where
  pitch : width * format.bytes ≤ bo.pitch
  size : bo.pitch * format.virtualHeight height ≤ bo.size
  small : bo.pitch * height < 2 ^ 32
  small_planar : format.kind = .planar → bo.pitch * (2 * height) < 2 ^ 32

namespace Roomy

variable {format : Format} {bo : Bo} {width height : ℕ}

theorem pitch_lt (hroom : Roomy format bo width height) (hheight : 0 < height) :
    bo.pitch < 2 ^ 32 :=
  (Nat.le_mul_of_pos_right _ hheight).trans_lt hroom.small

theorem two_pitch_lt (hroom : Roomy format bo width height) (hkind : format.kind = .planar)
    (hheight : 0 < height) : 2 * bo.pitch < 2 ^ 32 := by
  have hle : bo.pitch * 2 ≤ bo.pitch * (2 * height) := Nat.mul_le_mul_left _ (by omega)
  have hsmall := hroom.small_planar hkind
  omega

theorem pitch_ne (hroom : Roomy format bo width height) (hknown : format.bpp.isSome)
    (hwidth : 0 < width) : bo.pitch ≠ 0 :=
  ((Nat.mul_pos hwidth (Format.bytes_pos hknown)).trans_le hroom.pitch).ne'

end Roomy

/-- The planes of a buffer at `map`, at the offsets that `bo_create` returned. -/
def Layout.planesAt (layout : Layout) (map : ℕ) : Planes where
  first := map + layout.offsets.getD 0 0
  second := map + layout.offsets.getD 1 0
  third := map + layout.offsets.getD 2 0

section PlanesAt

variable {format : Format} {bo : Bo} {width height : ℕ}

theorem first_planesAt (hknown : format.bpp.isSome) (pitch map height : ℕ) :
    (format.planesAt pitch map height).1.first = map ∧
      (format.planesAt pitch map height).2 = u32 pitch := by
  cases format <;> first | exact ⟨rfl, rfl⟩ | cases hknown

/-- No plane is at the null pointer. -/
theorem chromaIn_ne {map : ℕ} (hmap0 : map ≠ 0) (format : Format) (layout : Layout) :
    (format.chromaIn (layout.planesAt map)).1 ≠ 0 ∧
      (format.chromaIn (layout.planesAt map)).2 ≠ 0 := by
  unfold Format.chromaIn Layout.planesAt
  split
  all_goals
    dsimp only
    omega

/-- The chroma is painted where `bo_create` said that it is: the products that it computes
    in 32 bits do not overflow. -/
theorem chromaIn_planesAt (hkind : format.kind = .planar) (hroom : Roomy format bo width height)
    (hheight : 0 < height) (map : ℕ) :
    format.chromaIn (format.planesAt bo.pitch map height).1 =
      format.chromaIn ((format.layout bo height).planesAt map) := by
  have hpitch : u32 bo.pitch = bo.pitch := Nat.mod_eq_of_lt (hroom.pitch_lt hheight)
  have hchroma : u32 (bo.pitch / 2 * height) = bo.pitch / 2 * height :=
    Nat.mod_eq_of_lt ((Nat.mul_le_mul_right _ (Nat.div_le_self _ _)).trans_lt hroom.small)
  cases format <;> first
    | (cases hkind; done)
    | simp only [Format.planesAt, Format.chromaIn, Format.layout, Layout.planesAt,
        List.getD_cons_succ, List.getD_cons_zero, hpitch, hchroma]

end PlanesAt

end ValRpi
