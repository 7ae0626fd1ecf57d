import ValRpi.Kernel

/-!
# Buffer objects

`src/val/buffer.cpp`: dumb buffers of the kernel and the layout of the planes
of a pixel format in them. `struct bo` is its value, the buffer object in the
kernel being identified by its handle; `ValRpi.Pointers` has it on the heap. All
arithmetic is on 32 bits.
-/

namespace ValRpi

/-- `struct bo`. -/
structure Bo where
  fd : ℤ
  size : ℕ
  pitch : ℕ
  handle : ℕ
  deriving DecidableEq, Repr

/-- The arrays `handles`, `pitches` and `offsets` of four entries that
    `bo_create` fills. -/
structure Layout where
  handles : List ℕ := [0, 0, 0, 0]
  pitches : List ℕ := [0, 0, 0, 0]
  offsets : List ℕ := [0, 0, 0, 0]
  deriving DecidableEq, Repr

/-- A value of `unsigned int`. -/
def u32 (n : ℕ) : ℕ := n % 2 ^ 32

/-- `bo_create_dumb`; a failure to allocate the structure counts as one of the
    kernel to create the buffer. -/
def boCreateDumb (fd : ℤ) (width height bpp : ℕ) : Act (Except Errno Bo) := do
  match ← drmIoctlCreateDumb ⟨fd, width, height, bpp⟩ with
  | .error errno => pure (.error errno)
  | .ok arg => pure (.ok ⟨fd, arg.size, arg.pitch, arg.handle⟩)

/-- The bits per pixel `bo_create` asks for, or none for a format it does not support. -/
def Format.bpp : Format → Option ℕ
  | .nv12 | .nv21 | .nv16 | .nv61 | .yuv420 | .yvu420 => some 8
  | .argb4444 | .xrgb4444 | .abgr4444 | .xbgr4444 | .rgba4444 | .rgbx4444 | .bgra4444 | .bgrx4444
  | .argb1555 | .xrgb1555 | .abgr1555 | .xbgr1555 | .rgba5551 | .rgbx5551 | .bgra5551 | .bgrx5551
  | .rgb565 | .bgr565 | .uyvy | .vyuy | .yuyv | .yvyu => some 16
  | .bgr888 | .rgb888 => some 24
  | .argb8888 | .xrgb8888 | .abgr8888 | .xbgr8888 | .rgba8888 | .rgbx8888 | .bgra8888 | .bgrx8888
  | .argb2101010 | .xrgb2101010 | .abgr2101010 | .xbgr2101010
  | .rgba1010102 | .rgbx1010102 | .bgra1010102 | .bgrx1010102 => some 32
  | .other _ => none

/-- The height of the buffer that holds all planes of an image. -/
def Format.virtualHeight (format : Format) (height : ℕ) : ℕ :=
  match format with
  | .nv12 | .nv21 | .yuv420 | .yvu420 => u32 (height * 3) / 2
  | .nv16 | .nv61 => u32 (height * 2)
  | _ => height

/-- The handles, pitches and offsets `bo_create` returns. -/
def Format.layout (format : Format) (bo : Bo) (height : ℕ) : Layout :=
  match format with
  | .nv12 | .nv21 | .nv16 | .nv61 =>
    { handles := [bo.handle, bo.handle, 0, 0]
      pitches := [u32 bo.pitch, u32 bo.pitch, 0, 0]
      offsets := [0, u32 (u32 bo.pitch * height), 0, 0] }
  | .yuv420 | .yvu420 =>
    let pitch₁ := u32 bo.pitch / 2
    let offset₁ := u32 (u32 bo.pitch * height)
    { handles := [bo.handle, bo.handle, bo.handle, 0]
      pitches := [u32 bo.pitch, pitch₁, pitch₁, 0]
      offsets := [0, offset₁, u32 (offset₁ + u32 (pitch₁ * height) / 2), 0] }
  | .other _ => {}
  | _ =>
    { handles := [bo.handle, 0, 0, 0]
      pitches := [u32 bo.pitch, 0, 0, 0] }

/-- `bo_create`: the buffer and the layout of its planes, or the value of
    `errno`, which an unsupported format does not set. -/
def boCreate (fd : ℤ) (format : Format) (width height : ℕ) : Act (Except ℕ (Bo × Layout)) :=
  match format.bpp with
  | none => pure (.error 0)
  | some bpp => do
    match ← boCreateDumb fd width (format.virtualHeight height) bpp with
    | .error errno => pure (.error errno)
    | .ok bo => pure (.ok (bo, format.layout bo height))

/-- `bo_destroy`: whatever the kernel says, the structure is freed. -/
def boDestroy (bo : Bo) : Act Unit := drmIoctlDestroyDumb bo.fd bo.handle

end ValRpi
