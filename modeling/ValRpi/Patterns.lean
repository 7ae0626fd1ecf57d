import ValRpi.Mappings

/-!
# Test patterns

`tests/pattern.cpp`: how the test program paints a buffer. What is painted is the log of
the stores. Signed sums that overflow, shifts by too many bits, divisions by zero and
reads beyond the end of a table are faults.

The three functions of each pattern for one plane of RGB differ in the size of a pixel
and the alpha of a colour only, which are the parameters of `fillSmpteRgb` and
`fillTilesRgb`. `make_pwetty` does nothing without Cairo.
-/

namespace ValRpi

/-- Division of unsigned numbers. -/
def divide (a b : ℕ) : Except PaintFault ℕ :=
  if b = 0 then .error .divByZero else .ok (a / b)

/-- An entry of a table. -/
def entry {C : Type} (table : List C) (i : ℕ) : Except PaintFault C :=
  match table[i]? with
  | some c => .ok c
  | none => .error .outOfTable

/-! ## SMPTE bars -/

/-- The colours of the bars: `colors_top`, `colors_middle` and `colors_bottom`. -/
structure Smpte (C : Type) where
  top : List C
  middle : List C
  bottom : List C

/-- The colours for luma and chroma; the first one is not quite grey. -/
def smpteYuv : Smpte ColorYuv where
  top := [makeYuv601 191 192 192, makeYuv601 192 192 0, makeYuv601 0 192 192,
    makeYuv601 0 192 0, makeYuv601 192 0 192, makeYuv601 192 0 0, makeYuv601 0 0 192]
  middle := [makeYuv601 0 0 192, makeYuv601 19 19 19, makeYuv601 192 0 192,
    makeYuv601 19 19 19, makeYuv601 0 192 192, makeYuv601 19 19 19, makeYuv601 192 192 192]
  bottom := [makeYuv601 0 33 76, makeYuv601 255 255 255, makeYuv601 50 0 106,
    makeYuv601 19 19 19, makeYuv601 9 9 9, makeYuv601 19 19 19, makeYuv601 29 29 29,
    makeYuv601 19 19 19]

/-- The colours as pixels, with the alpha of the middle ones and of the others. -/
def smpteRgb (rgb : RgbInfo) (middle others : ℕ) : Except PaintFault (Smpte ℕ) := do
  let top ← [(192, 192, 192), (192, 192, 0), (0, 192, 192), (0, 192, 0), (192, 0, 192),
    (192, 0, 0), (0, 0, 192)].mapM fun (r, g, b) => makeRgba rgb r g b others
  let middle ← [(0, 0, 192), (19, 19, 19), (192, 0, 192), (19, 19, 19), (0, 192, 192),
    (19, 19, 19), (192, 192, 192)].mapM fun (r, g, b) => makeRgba rgb r g b middle
  let bottom ← [(0, 33, 76), (255, 255, 255), (50, 0, 106), (19, 19, 19), (9, 9, 9),
    (19, 19, 19), (29, 29, 29), (19, 19, 19)].mapM fun (r, g, b) => makeRgba rgb r g b others
  .ok ⟨top, middle, bottom⟩

section Smpte

variable {C : Type}

/-- The loop over a row of the upper bars. -/
def smpteRow (table : List C) (width step : ℕ) (put : ℕ → C → Paint Unit) : Paint Unit := do
  let _ ← Prog.forUp width step (fun x _ => do
    let i ← .lift (divide (u32 (x * 7)) width)
    put x (← .lift (entry table i))) 0 ()

/-- The three loops over a row of the lowest bars. -/
def smpteLowest (table : List C) (width step : ℕ) (put : ℕ → C → Paint Unit) : Paint Unit := do
  let (x, _) ← Prog.forUp (u32 (width * 5) / 7) step (fun x _ => do
    let i ← .lift (divide (u32 (x * 4)) (u32 (width * 5) / 7))
    put x (← .lift (entry table i))) 0 ()
  let (x, _) ← Prog.forUp (u32 (width * 6) / 7) step (fun x _ => do
    let i ← .lift (divide (u32 ((x - u32 (width * 5) / 7) * 3)) (width / 7))
    put x (← .lift (entry table (i + 4)))) x ()
  let _ ← Prog.forUp width step (fun x _ => do
    put x (← .lift (entry table 7))) x ()

/-- The loops over the rows. All pointers go on by `stride` after a row, so `put` is
    told how far they are. -/
def smpteRows (colors : Smpte C) (width rows step stride : ℕ) (put : ℕ → ℕ → C → Paint Unit) :
    Paint Unit := do
  let (y, far) ← Prog.forUp (u32 (rows * 6) / 9) 1 (fun _ far => do
    smpteRow colors.top width step (put far)
    pure (far + stride)) 0 0
  let (y, far) ← Prog.forUp (u32 (rows * 7) / 9) 1 (fun _ far => do
    smpteRow colors.middle width step (put far)
    pure (far + stride)) y far
  let _ ← Prog.forUp rows 1 (fun _ far => do
    smpteLowest colors.bottom width step (put far)
    pure (far + stride)) y far

end Smpte

/-- `fill_smpte_yuv_planar`. -/
def fillSmpteYuvPlanar (yuv : YuvInfo) (yMem uMem vMem width height stride : ℕ) : Paint Unit :=
  if yMem = 0 ∨ uMem = 0 ∨ vMem = 0 then pure ()
  else if width = 0 ∨ height = 0 ∨ stride = 0 then pure ()
  else do
    smpteRows smpteYuv width height 1 stride fun far x color => store (yMem + far + x) color.y
    let rows ← .lift (divide height yuv.ysub)
    let chroma ← .lift (divide (u32 (stride * yuv.chromaStride)) yuv.xsub)
    smpteRows smpteYuv width rows yuv.xsub chroma fun far x color => do
      let i ← .lift (divide (u32 (x * yuv.chromaStride)) yuv.xsub)
      store (uMem + far + i) color.u
      store (vMem + far + i) color.v

namespace YuvInfo

variable (yuv : YuvInfo)

/-- A flag of the order. -/
def has (flag : YuvOrder) : Bool := yuv.order &&& flag != 0

/-- Where the luma of a packed format starts in a pixel. -/
def yByte : ℕ := if yuv.has yuvYC then 0 else 1

/-- Where its chroma starts. -/
def cByte : ℕ := if yuv.has yuvCY then 0 else 1

/-- How far from there the components of the chroma are. -/
def uByte : ℕ := if yuv.has yuvYCrCb then 2 else 0
def vByte : ℕ := if yuv.has yuvYCbCr then 2 else 0

end YuvInfo

/-- `fill_smpte_yuv_packed`. -/
def fillSmpteYuvPacked (yuv : YuvInfo) (mem width height stride : ℕ) : Paint Unit :=
  if mem = 0 then pure ()
  else if width = 0 ∨ height = 0 ∨ stride = 0 then pure ()
  else do
    smpteRows smpteYuv width height 1 stride fun far x color =>
      store (mem + yuv.yByte + far + u32 (2 * x)) color.y
    smpteRows smpteYuv width height 2 stride fun far x color => do
      store (mem + yuv.cByte + far + u32 (2 * x + yuv.uByte)) color.u
      store (mem + yuv.cByte + far + u32 (2 * x + yuv.vByte)) color.v

/-- The bars of pixels of `bytes` bytes. -/
def fillSmpteRgb (bytes middle others : ℕ) (rgb : RgbInfo) (mem width height stride : ℕ) :
    Paint Unit :=
  if mem = 0 then pure ()
  else if width = 0 ∨ height = 0 ∨ stride = 0 then pure ()
  else do
    let colors ← .lift (smpteRgb rgb middle others)
    smpteRows colors width height 1 stride fun far x color =>
      storeLE bytes (mem + far + x * bytes) color

/-- `fill_smpte_rgb16`. -/
def fillSmpteRgb16 : RgbInfo → ℕ → ℕ → ℕ → ℕ → Paint Unit := fillSmpteRgb 2 127 255

/-- `fill_smpte_rgb24`. -/
def fillSmpteRgb24 : RgbInfo → ℕ → ℕ → ℕ → ℕ → Paint Unit := fillSmpteRgb 3 0 0

/-- `fill_smpte_rgb32`. -/
def fillSmpteRgb32 : RgbInfo → ℕ → ℕ → ℕ → ℕ → Paint Unit := fillSmpteRgb 4 127 255

/-- The array `planes`. -/
structure Planes where
  first : ℕ := 0
  second : ℕ := 0
  third : ℕ := 0
  deriving DecidableEq, Repr

/-- `fill_smpte`. -/
def fillSmpte (info : FormatInfo) (planes : Planes) (width height stride : ℕ) : Paint Unit :=
  match info.format with
  | .uyvy | .vyuy | .yuyv | .yvyu => fillSmpteYuvPacked info.yuv planes.first width height stride
  | .nv12 | .nv21 | .nv16 | .nv61 =>
    let u := if info.yuv.has yuvYCbCr then planes.second else planes.second + 1
    let v := if info.yuv.has yuvYCrCb then planes.second else planes.second + 1
    fillSmpteYuvPlanar info.yuv planes.first u v width height stride
  | .yuv420 =>
    fillSmpteYuvPlanar info.yuv planes.first planes.second planes.third width height stride
  | .yvu420 =>
    fillSmpteYuvPlanar info.yuv planes.first planes.third planes.second width height stride
  | .argb4444 | .xrgb4444 | .abgr4444 | .xbgr4444 | .rgba4444 | .rgbx4444 | .bgra4444 | .bgrx4444
  | .rgb565 | .bgr565
  | .argb1555 | .xrgb1555 | .abgr1555 | .xbgr1555 | .rgba5551 | .rgbx5551 | .bgra5551 | .bgrx5551 =>
    fillSmpteRgb16 info.rgb planes.first width height stride
  | .bgr888 | .rgb888 => fillSmpteRgb24 info.rgb planes.first width height stride
  | .argb8888 | .xrgb8888 | .abgr8888 | .xbgr8888 | .rgba8888 | .rgbx8888 | .bgra8888 | .bgrx8888
  | .argb2101010 | .xrgb2101010 | .abgr2101010 | .xbgr2101010
  | .rgba1010102 | .rgbx1010102 | .bgra1010102 | .bgrx1010102 =>
    fillSmpteRgb32 info.rgb planes.first width height stride
  | .other _ => pure ()

/-! ## Tiles -/

/-- An unsigned number converted to `int`. -/
def toInt (n : ℕ) : ℤ := if n < 2 ^ 31 then n else n - 2 ^ 32

/-- A signed result, unless it overflows. -/
def signed (n : ℤ) : Except PaintFault ℤ :=
  if -2 ^ 31 ≤ n ∧ n < 2 ^ 31 then .ok n else .error .overflow

/-- `rgb32`, the colour of a pixel. The shifts keep the sign. -/
def rgb32 (x y width : ℕ) : Except PaintFault ℕ := do
  let quot ← signed ((toInt (u32 (x + y))).tdiv (toInt width))
  let rem := (toInt (u32 (x + y))).tmod (toInt width)
  let quot ← signed (0x00130502 * (quot / 2 ^ 6))
  let rem ← signed (0x000a1120 * (rem / 2 ^ 6))
  let sum ← signed (quot + rem)
  .ok (sum % 2 ^ 32).toNat

/-- The components of a colour. -/
def redOf (rgb : ℕ) : ℕ := rgb / 2 ^ 16 % 2 ^ 8
def greenOf (rgb : ℕ) : ℕ := rgb / 2 ^ 8 % 2 ^ 8
def blueOf (rgb : ℕ) : ℕ := rgb % 2 ^ 8

/-- The luma and chroma of a colour. -/
def yuvOf (rgb : ℕ) : ColorYuv := makeYuv601U (redOf rgb) (greenOf rgb) (blueOf rgb)

/-- `fill_tiles_yuv_planar`. -/
def fillTilesYuvPlanar (yuv : YuvInfo) (yMem uMem vMem width height stride : ℕ) : Paint Unit :=
  if yMem = 0 ∨ uMem = 0 ∨ vMem = 0 then pure ()
  else if width = 0 ∨ height = 0 ∨ stride = 0 then pure ()
  else if yuv.xsub = 0 ∨ yuv.ysub = 0 then pure ()
  else do
    let _ ← Prog.forUp height 1 (fun y (far, chroma) => do
      let _ ← Prog.forUp width 1 (fun x _ => do
        let color := yuvOf (← .lift (rgb32 x y width))
        store (yMem + far + x) color.y
        store (uMem + chroma + u32 (x / yuv.xsub * yuv.chromaStride)) color.u
        store (vMem + chroma + u32 (x / yuv.xsub * yuv.chromaStride)) color.v) 0 ()
      pure (far + stride,
        if (y + 1) % yuv.ysub = 0 then
          chroma + u32 (stride * yuv.chromaStride) / yuv.xsub
        else chroma)) 0 (0, 0)

/-- `fill_tiles_yuv_packed`: two pixels at a time. -/
def fillTilesYuvPacked (yuv : YuvInfo) (mem width height stride : ℕ) : Paint Unit :=
  if mem = 0 then pure ()
  else if width = 0 ∨ height = 0 ∨ stride = 0 then pure ()
  else do
    let _ ← Prog.forUp height 1 (fun y far => do
      let _ ← Prog.forUp width 2 (fun x _ => do
        let color := yuvOf (← .lift (rgb32 x y width))
        store (mem + yuv.yByte + far + u32 (2 * x)) color.y
        store (mem + yuv.cByte + far + u32 (2 * x + yuv.uByte)) color.u
        store (mem + yuv.yByte + far + u32 (2 * x + 2)) color.y
        store (mem + yuv.cByte + far + u32 (2 * x + yuv.vByte)) color.v) 0 ()
      pure (far + stride)) 0 0

/-- The tiles of pixels of `bytes` bytes. -/
def fillTilesRgb (bytes : ℕ) (alpha : ℕ → ℕ → ℕ) (rgb : RgbInfo) (mem width height stride : ℕ) :
    Paint Unit :=
  if mem = 0 then pure ()
  else if width = 0 ∨ height = 0 ∨ stride = 0 then pure ()
  else do
    let _ ← Prog.forUp height 1 (fun y far => do
      let _ ← Prog.forUp width 1 (fun x _ => do
        let color ← .lift (rgb32 x y width)
        let color ← .lift (makeRgba rgb (redOf color) (greenOf color) (blueOf color) (alpha x y))
        storeLE bytes (mem + far + x * bytes) color) 0 ()
      pure (far + stride)) 0 0

/-- `fill_tiles_rgb16`. -/
def fillTilesRgb16 : RgbInfo → ℕ → ℕ → ℕ → ℕ → Paint Unit := fillTilesRgb 2 fun _ _ => 255

/-- `fill_tiles_rgb24`. -/
def fillTilesRgb24 : RgbInfo → ℕ → ℕ → ℕ → ℕ → Paint Unit := fillTilesRgb 3 fun _ _ => 0

/-- `fill_tiles_rgb32`: the first quarter is translucent. -/
def fillTilesRgb32 (rgb : RgbInfo) (mem width height stride : ℕ) : Paint Unit :=
  fillTilesRgb 4 (fun x y => if y < height / 2 ∧ x < width / 2 then 127 else 255) rgb mem width
    height stride

/-- `fill_tiles`. -/
def fillTiles (info : FormatInfo) (planes : Planes) (width height stride : ℕ) : Paint Unit :=
  match info.format with
  | .uyvy | .vyuy | .yuyv | .yvyu => fillTilesYuvPacked info.yuv planes.first width height stride
  | .nv12 | .nv21 | .nv16 | .nv61 =>
    let u := if info.yuv.has yuvYCbCr then planes.second else planes.second + 1
    let v := if info.yuv.has yuvYCrCb then planes.second else planes.second + 1
    fillTilesYuvPlanar info.yuv planes.first u v width height stride
  | .yuv420 =>
    fillTilesYuvPlanar info.yuv planes.first planes.second planes.third width height stride
  | .yvu420 =>
    fillTilesYuvPlanar info.yuv planes.first planes.third planes.second width height stride
  | .argb4444 | .xrgb4444 | .abgr4444 | .xbgr4444 | .rgba4444 | .rgbx4444 | .bgra4444 | .bgrx4444
  | .rgb565 | .bgr565
  | .argb1555 | .xrgb1555 | .abgr1555 | .xbgr1555 | .rgba5551 | .rgbx5551 | .bgra5551 | .bgrx5551 =>
    fillTilesRgb16 info.rgb planes.first width height stride
  | .bgr888 | .rgb888 => fillTilesRgb24 info.rgb planes.first width height stride
  | .argb8888 | .xrgb8888 | .abgr8888 | .xbgr8888 | .rgba8888 | .rgbx8888 | .bgra8888 | .bgrx8888
  | .argb2101010 | .xrgb2101010 | .abgr2101010 | .xbgr2101010
  | .rgba1010102 | .rgbx1010102 | .bgra1010102 | .bgrx1010102 =>
    fillTilesRgb32 info.rgb planes.first width height stride
  | .other _ => pure ()

/-! ## Patterns -/

/-- `fill_plain`. -/
def fillPlain (planes : Planes) (height stride : ℕ) : Paint Unit :=
  if planes.first = 0 then
    .fault .nullDeref
  else do
    let _ ← Prog.forUp (u32 (stride * height)) 1 (fun i _ => store (planes.first + i) 0x77) 0 ()

/-- The patterns of `util_fill_pattern`. -/
inductive FillPattern
  | tiles
  | plain
  | smpte
  deriving DecidableEq, Repr

/-- `util_fill_pattern`. -/
def utilFillPattern (format : Format) (pattern : FillPattern) (planes : Planes)
    (width height stride : ℕ) : Paint Unit :=
  match utilFormatInfoFind format with
  | none => pure ()
  | some info =>
    match pattern with
    | .tiles => fillTiles info planes width height stride
    | .smpte => fillSmpte info planes width height stride
    | .plain => fillPlain planes height stride

/-- The planes of `fill_pattern` and the pitch of the first one: the products are those
    of 64 bits, of which 32 are kept. -/
def Format.planesAt (format : Format) (pitch map height : ℕ) : Planes × ℕ :=
  match format with
  | .nv12 | .nv21 | .nv16 | .nv61 =>
    ({ first := map, second := map + u32 (u32 pitch * height) }, u32 pitch)
  | .yuv420 | .yvu420 =>
    let pitch₁ := u32 pitch / 2
    let offset₁ := u32 (u32 pitch * height)
    ({ first := map, second := map + offset₁, third := map + u32 (offset₁ + pitch₁ * height / 2) },
      u32 pitch)
  | .other _ => ({}, 0)
  | _ => ({ first := map }, u32 pitch)

/-- `fill_pattern`: the buffer stays mapped. -/
def fillPattern (format : Format) (bo : Option MappedBo) (width height : ℕ)
    (pattern : FillPattern) : Paint (Option MappedBo) :=
  match bo with
  | none => pure none
  | some bo => do
    let (ret, bo) ← boMap bo
    match ret with
    | .error _ => pure (some bo)
    | .ok map =>
      let (planes, stride) := format.planesAt bo.bo.pitch map height
      utilFillPattern format pattern planes (u32 width) (u32 height) stride
      pure (some bo)

/-! ## What is logged -/

theorem logs_store (addr : ℕ) (byte : UInt8) :
    Prog.Logs MemEvent.IsStore (store addr byte) := .call fun _ => ⟨addr, byte, rfl⟩

theorem logs_storeLE (n addr value : ℕ) : Prog.Logs MemEvent.IsStore (storeLE n addr value) := by
  induction n generalizing addr value with
  | zero => exact .pure _
  | succ n ih => exact .bind (logs_store _ _) fun _ => ih _ _

section Logs

variable {C : Type} {table : List C} {put : ℕ → C → Paint Unit}

theorem logs_column (hput : ∀ x c, Prog.Logs MemEvent.IsStore (put x c)) (x i : ℕ) :
    Prog.Logs MemEvent.IsStore (do put x (← .lift (entry table i))) :=
  .bind (.lift _) fun c => hput x c

theorem logs_smpteRow (hput : ∀ x c, Prog.Logs MemEvent.IsStore (put x c)) (width step : ℕ) :
    Prog.Logs MemEvent.IsStore (smpteRow table width step put) :=
  .bind (.forUp (fun x _ => .bind (.lift _) fun i => logs_column hput x i) _ _ _ _) fun _ => .pure _

theorem logs_smpteLowest (hput : ∀ x c, Prog.Logs MemEvent.IsStore (put x c)) (width step : ℕ) :
    Prog.Logs MemEvent.IsStore (smpteLowest table width step put) := by
  refine .bind (.forUp (fun x _ => .bind (.lift _) fun i => logs_column hput x i) _ _ _ _) ?_
  rintro ⟨x₁, _⟩
  refine .bind (.forUp (fun x _ => .bind (.lift _) fun i => logs_column hput x _) _ _ _ _) ?_
  rintro ⟨x₂, _⟩
  exact .bind (.forUp (fun x _ => logs_column hput x 7) _ _ _ _) fun _ => .pure _

theorem logs_smpteRows {colors : Smpte C} {put : ℕ → ℕ → C → Paint Unit}
    (hput : ∀ far x c, Prog.Logs MemEvent.IsStore (put far x c)) (width rows step stride : ℕ) :
    Prog.Logs MemEvent.IsStore (smpteRows colors width rows step stride put) := by
  refine .bind (.forUp (fun _ far => .bind (logs_smpteRow (hput far) _ _) fun _ => .pure _)
    _ _ _ _) ?_
  rintro ⟨y₁, far₁⟩
  refine .bind (.forUp (fun _ far => .bind (logs_smpteRow (hput far) _ _) fun _ => .pure _)
    _ _ _ _) ?_
  rintro ⟨y₂, far₂⟩
  exact .bind (.forUp (fun _ far => .bind (logs_smpteLowest (hput far) _ _) fun _ => .pure _)
    _ _ _ _) fun _ => .pure _

end Logs

section Fills

variable (width height stride : ℕ)

/-- What is painted unless something is 0. -/
theorem logs_unless {P : Prop} [Decidable P] {x : Paint Unit} (hx : Prog.Logs MemEvent.IsStore x) :
    Prog.Logs MemEvent.IsStore (if P then pure () else x) := by
  split
  · exact .pure _
  · exact hx

theorem logs_fillSmpteYuvPlanar (yuv : YuvInfo) (yMem uMem vMem : ℕ) : Prog.Logs MemEvent.IsStore
    (fillSmpteYuvPlanar yuv yMem uMem vMem width height stride) :=
  logs_unless <| logs_unless <|
    .bind (logs_smpteRows (fun _ _ _ => logs_store _ _) _ _ _ _) fun _ =>
      .bind (.lift _) fun _ => .bind (.lift _) fun _ =>
        logs_smpteRows (fun _ _ _ => .bind (.lift _) fun _ =>
          .bind (logs_store _ _) fun _ => logs_store _ _) _ _ _ _

theorem logs_fillSmpteYuvPacked (yuv : YuvInfo) (mem : ℕ) :
    Prog.Logs MemEvent.IsStore (fillSmpteYuvPacked yuv mem width height stride) :=
  logs_unless <| logs_unless <|
    .bind (logs_smpteRows (fun _ _ _ => logs_store _ _) _ _ _ _) fun _ =>
      logs_smpteRows (fun _ _ _ => .bind (logs_store _ _) fun _ => logs_store _ _) _ _ _ _

theorem logs_fillSmpteRgb (bytes middle others : ℕ) (rgb : RgbInfo) (mem : ℕ) :
    Prog.Logs MemEvent.IsStore (fillSmpteRgb bytes middle others rgb mem width height stride) :=
  logs_unless <| logs_unless <|
    .bind (.lift _) fun _ => logs_smpteRows (fun _ _ _ => logs_storeLE _ _ _) _ _ _ _

theorem logs_fillTilesYuvPlanar (yuv : YuvInfo) (yMem uMem vMem : ℕ) : Prog.Logs MemEvent.IsStore
    (fillTilesYuvPlanar yuv yMem uMem vMem width height stride) :=
  logs_unless <| logs_unless <| logs_unless <|
    .bind (.forUp (fun _ _ => .bind (.forUp (fun _ _ => .bind (.lift _) fun _ =>
      .bind (logs_store _ _) fun _ => .bind (logs_store _ _) fun _ => logs_store _ _) _ _ _ _)
        fun _ => .pure _) _ _ _ _) fun _ => .pure _

theorem logs_fillTilesYuvPacked (yuv : YuvInfo) (mem : ℕ) :
    Prog.Logs MemEvent.IsStore (fillTilesYuvPacked yuv mem width height stride) :=
  logs_unless <| logs_unless <|
    .bind (.forUp (fun _ _ => .bind (.forUp (fun _ _ => .bind (.lift _) fun _ =>
      .bind (logs_store _ _) fun _ => .bind (logs_store _ _) fun _ =>
        .bind (logs_store _ _) fun _ => logs_store _ _) _ _ _ _)
        fun _ => .pure _) _ _ _ _) fun _ => .pure _

theorem logs_fillTilesRgb (bytes : ℕ) (alpha : ℕ → ℕ → ℕ) (rgb : RgbInfo) (mem : ℕ) :
    Prog.Logs MemEvent.IsStore (fillTilesRgb bytes alpha rgb mem width height stride) :=
  logs_unless <| logs_unless <|
    .bind (.forUp (fun _ _ => .bind (.forUp (fun _ _ => .bind (.lift _) fun _ =>
      .bind (.lift _) fun _ => logs_storeLE _ _ _) _ _ _ _) fun _ => .pure _) _ _ _ _)
      fun _ => .pure _

end Fills

end ValRpi
