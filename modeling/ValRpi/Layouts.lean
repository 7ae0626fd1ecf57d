import Mathlib.Order.Interval.Set.Disjoint
import ValRpi.Buffer

/-!
# Layouts of images

`bo_create` asks for a buffer object that holds all planes of an image, and
returns where they are in it. The rows of a subsampled plane are rounded up; the
height of the buffer object and the offset of the last plane are rounded down.

* `Bo.Holds` says that the planes are in the buffer object, apart from each other;
* `boCreate_holds_iff` says when they are: for odd heights, the subsampled formats
  need what the driver gives in addition to what it was asked for.
-/

namespace ValRpi

/-- A plane of an image: rows of bytes of a buffer object, from an offset on. -/
structure PlaneArea where
  handle : ℕ
  offset : ℕ
  pitch : ℕ
  rows : ℕ

namespace PlaneArea

/-- The offset of what follows the plane. -/
def stop (p : PlaneArea) : ℕ := p.offset + p.pitch * p.rows

/-- The bytes of the plane. -/
def bytes (p : PlaneArea) : Set ℕ := Set.Ico p.offset p.stop

/-- Two planes have no byte in common. -/
def Apart (p q : PlaneArea) : Prop := ∀ b ∈ p.bytes, b ∉ q.bytes

theorem apart_iff {p q : PlaneArea} :
    p.Apart q ↔ min p.stop q.stop ≤ max p.offset q.offset :=
  Set.disjoint_left.symm.trans Set.Ico_disjoint_Ico

end PlaneArea

namespace Layout

/-- The planes that a layout describes, by the rows of each. -/
def areas (layout : Layout) (rows : List ℕ) : List PlaneArea :=
  (rows.zip (layout.handles.zip (layout.offsets.zip layout.pitches))).map
    fun (rows, handle, offset, pitch) => ⟨handle, offset, pitch, rows⟩

end Layout

/-- Planes are in a buffer object, apart from each other. -/
structure Bo.Holds (bo : Bo) (areas : List PlaneArea) : Prop where
  handles : ∀ p ∈ areas, p.handle = bo.handle
  apart : areas.Pairwise PlaneArea.Apart
  inside : ∀ p ∈ areas, p.stop ≤ bo.size

theorem Bo.holds_nil (bo : Bo) : bo.Holds [] := ⟨by simp, .nil, by simp⟩

theorem Bo.holds_cons_iff {bo : Bo} {p : PlaneArea} {areas : List PlaneArea} :
    bo.Holds (p :: areas) ↔ (p.handle = bo.handle ∧ p.stop ≤ bo.size) ∧
      (∀ q ∈ areas, p.Apart q) ∧ bo.Holds areas := by
  constructor
  · rintro ⟨hhandles, hapart, hinside⟩
    obtain ⟨hhandle, hhandles⟩ := List.forall_mem_cons.1 hhandles
    obtain ⟨hp, hapart⟩ := List.pairwise_cons.1 hapart
    obtain ⟨hstop, hinside⟩ := List.forall_mem_cons.1 hinside
    exact ⟨⟨hhandle, hstop⟩, hp, hhandles, hapart, hinside⟩
  · rintro ⟨⟨hhandle, hstop⟩, hp, hhandles, hapart, hinside⟩
    exact ⟨List.forall_mem_cons.2 ⟨hhandle, hhandles⟩, List.pairwise_cons.2 ⟨hp, hapart⟩,
      List.forall_mem_cons.2 ⟨hstop, hinside⟩⟩

theorem Bo.holds_one {bo : Bo} {p : PlaneArea} :
    bo.Holds [p] ↔ p.handle = bo.handle ∧ p.stop ≤ bo.size := by
  simp [holds_cons_iff, holds_nil]

theorem Bo.holds_two {bo : Bo} {p q : PlaneArea} :
    bo.Holds [p, q] ↔ (p.handle = bo.handle ∧ p.stop ≤ bo.size) ∧
      p.Apart q ∧ q.handle = bo.handle ∧ q.stop ≤ bo.size := by
  simp [holds_cons_iff, holds_nil]

theorem Bo.holds_three {bo : Bo} {p q r : PlaneArea} :
    bo.Holds [p, q, r] ↔ (p.handle = bo.handle ∧ p.stop ≤ bo.size) ∧
      (p.Apart q ∧ p.Apart r) ∧
        (q.handle = bo.handle ∧ q.stop ≤ bo.size) ∧
          q.Apart r ∧ r.handle = bo.handle ∧ r.stop ≤ bo.size := by
  simp [holds_cons_iff, holds_nil]

/-- The planes of a format: one, or two or three with the chroma planes having half
    of the columns, and half of the rows (4:2:0) or all of them (4:2:2). -/
inductive Scheme
  | single
  | semiPlanar420
  | semiPlanar422
  | planar420
  deriving DecidableEq, Repr

namespace Scheme

/-- The rows of each plane of an image, at least half of them for 4:2:0. -/
def rows (height : ℕ) : Scheme → List ℕ
  | single => [height]
  | semiPlanar420 => [height, (height + 1) / 2]
  | semiPlanar422 => [height, height]
  | planar420 => [height, (height + 1) / 2, (height + 1) / 2]

/-- The height of the buffer object. -/
def virtualHeight (height : ℕ) : Scheme → ℕ
  | single => height
  | semiPlanar420 | planar420 => u32 (height * 3) / 2
  | semiPlanar422 => u32 (height * 2)

/-- The planes of an image in a buffer object. -/
def areas (bo : Bo) (height : ℕ) : Scheme → List PlaneArea
  | single => [⟨bo.handle, 0, u32 bo.pitch, height⟩]
  | semiPlanar420 => [⟨bo.handle, 0, u32 bo.pitch, height⟩,
      ⟨bo.handle, u32 (u32 bo.pitch * height), u32 bo.pitch, (height + 1) / 2⟩]
  | semiPlanar422 => [⟨bo.handle, 0, u32 bo.pitch, height⟩,
      ⟨bo.handle, u32 (u32 bo.pitch * height), u32 bo.pitch, height⟩]
  | planar420 => [⟨bo.handle, 0, u32 bo.pitch, height⟩,
      ⟨bo.handle, u32 (u32 bo.pitch * height), u32 bo.pitch / 2, (height + 1) / 2⟩,
      ⟨bo.handle, u32 (u32 (u32 bo.pitch * height) + u32 (u32 bo.pitch / 2 * height) / 2),
        u32 bo.pitch / 2, (height + 1) / 2⟩]

/-- There is room for the planes of an image: its height is even, or the driver
    gave enough for a row more, or the chroma planes have no columns. -/
def Roomy (bo : Bo) (height : ℕ) : Scheme → Prop
  | single | semiPlanar422 => True
  | semiPlanar420 => height % 2 = 0 ∨ bo.pitch * (height + (height + 1) / 2) ≤ bo.size
  | planar420 => height % 2 = 0 ∨ bo.pitch ≤ 1

end Scheme

/-- The planes of a format. -/
def Format.scheme : Format → Scheme
  | .nv12 | .nv21 => .semiPlanar420
  | .nv16 | .nv61 => .semiPlanar422
  | .yuv420 | .yvu420 => .planar420
  | _ => .single

theorem Format.virtualHeight_eq (format : Format) (height : ℕ) :
    format.virtualHeight height = format.scheme.virtualHeight height := by
  cases format <;> rfl

theorem Format.areas_layout {format : Format} (hbpp : format.bpp.isSome) (bo : Bo) (height : ℕ) :
    (format.layout bo height).areas (format.scheme.rows height) =
      format.scheme.areas bo height := by
  cases format with
  | other => cases hbpp
  | _ => rfl

variable {bo : Bo} {height : ℕ}

theorem u32_of_lt {n : ℕ} (hn : n < 2 ^ 32) : u32 n = n := Nat.mod_eq_of_lt hn

namespace Scheme

variable {scheme : Scheme}

/-- The height of the buffer object does not wrap around, -/
theorem virtualHeight_of_lt (hheight : height < 2 ^ 30) (scheme : Scheme) :
    scheme.virtualHeight height = match scheme with
      | single => height
      | semiPlanar420 | planar420 => height * 3 / 2
      | semiPlanar422 => height * 2 := by
  cases scheme with
  | single => rfl
  | semiPlanar420 | planar420 => rw [virtualHeight, u32_of_lt (by omega)]
  | semiPlanar422 => rw [virtualHeight, u32_of_lt (by omega)]

/-- nor what is computed from the pitch. -/
theorem u32_pitch (hpos : 1 ≤ height) (hheight : height < 2 ^ 30)
    (hpitch : bo.pitch * scheme.virtualHeight height < 2 ^ 32) :
    u32 bo.pitch = bo.pitch ∧ bo.pitch * height < 2 ^ 32 := by
  have hle : height ≤ scheme.virtualHeight height := by
    rw [virtualHeight_of_lt hheight]
    cases scheme <;> dsimp only <;> omega
  have hmul : bo.pitch * height ≤ bo.pitch * scheme.virtualHeight height :=
    Nat.mul_le_mul_left _ hle
  have hself : bo.pitch ≤ bo.pitch * height := Nat.le_mul_of_pos_right _ hpos
  exact ⟨u32_of_lt (hself.trans_lt (hmul.trans_lt hpitch)), hmul.trans_lt hpitch⟩

/-- Whole rows, by halves of them. -/
theorem mul_eq_halves (pitch height : ℕ) :
    pitch * height = 2 * (pitch * (height / 2)) + pitch * (height % 2) := by
  rw [Nat.mul_left_comm, ← Nat.mul_add, Nat.div_add_mod]

/-- What is asked for is enough for half of the rows, rounded down. -/
theorem mul_virtualHeight (pitch height : ℕ) :
    pitch * (height * 3 / 2) = pitch * height + pitch * (height / 2) := by
  rw [show height * 3 / 2 = height + height / 2 by omega, Nat.mul_add]

theorem holds_semiPlanar420_iff (hp : u32 bo.pitch = bo.pitch)
    (hlt : bo.pitch * height < 2 ^ 32) (hsize : bo.pitch * (height * 3 / 2) ≤ bo.size) :
    bo.Holds (semiPlanar420.areas bo height) ↔ semiPlanar420.Roomy bo height := by
  rw [areas, Bo.holds_two, PlaneArea.apart_iff]
  simp only [PlaneArea.stop, hp, u32_of_lt hlt, Roomy, true_and, Nat.mul_add]
  rw [mul_virtualHeight] at hsize
  rcases Nat.mod_two_eq_zero_or_one height with heven | hodd
  · rw [show (height + 1) / 2 = height / 2 by omega]
    omega
  · omega

theorem holds_planar420_iff (hp : u32 bo.pitch = bo.pitch) (hlt : bo.pitch * height < 2 ^ 32)
    (hpitch : bo.pitch * (height * 3 / 2) < 2 ^ 32)
    (hsize : bo.pitch * (height * 3 / 2) ≤ bo.size) :
    bo.Holds (planar420.areas bo height) ↔ planar420.Roomy bo height := by
  have hhalf : u32 (bo.pitch / 2 * height) = bo.pitch / 2 * height :=
    u32_of_lt ((Nat.mul_le_mul_right _ (Nat.div_le_self _ _)).trans_lt hlt)
  have hrows := mul_eq_halves (bo.pitch / 2) height
  have hle : 2 * (bo.pitch / 2 * (height / 2)) ≤ bo.pitch * (height / 2) := by
    rw [← Nat.mul_assoc]
    exact Nat.mul_le_mul_right _ (Nat.mul_div_le _ _)
  rw [mul_virtualHeight] at hpitch hsize
  rw [areas, Bo.holds_three]
  simp only [PlaneArea.apart_iff, PlaneArea.stop, hp, u32_of_lt hlt, hhalf, Roomy,
    true_and]
  rcases Nat.mod_two_eq_zero_or_one height with heven | hodd
  · -- the chroma planes stand one after the other
    rw [heven, Nat.mul_zero, Nat.add_zero] at hrows
    rw [show (height + 1) / 2 = height / 2 by omega, hrows,
      Nat.mul_div_cancel_left _ Nat.zero_lt_two, u32_of_lt (by omega)]
    exact iff_of_true ⟨by omega, ⟨by omega, by omega⟩, by omega, by omega, by omega⟩ (.inl heven)
  · rw [hodd, Nat.mul_one] at hrows
    rw [hrows] at hhalf
    rw [show (height + 1) / 2 = height / 2 + 1 by omega, hrows, Nat.mul_succ, u32]
    constructor
    · rintro ⟨_, ⟨_, hfirst⟩, _, hchroma, _⟩
      -- the last plane overlaps with one of the others
      omega
    · rintro (heven | hcolumns)
      · omega
      · have hzero : bo.pitch / 2 = 0 := by omega
        rw [hzero, Nat.zero_mul]
        exact ⟨by omega, ⟨by omega, by omega⟩, by omega, by omega, by omega⟩

/-- The planes are in the buffer object if and only if there is room for them. -/
theorem holds_areas_iff (hpos : 1 ≤ height) (hheight : height < 2 ^ 30)
    (hpitch : bo.pitch * scheme.virtualHeight height < 2 ^ 32)
    (hsize : bo.pitch * scheme.virtualHeight height ≤ bo.size) :
    bo.Holds (scheme.areas bo height) ↔ scheme.Roomy bo height := by
  obtain ⟨hp, hlt⟩ := u32_pitch hpos hheight hpitch
  rw [virtualHeight_of_lt hheight] at hpitch hsize
  cases scheme with
  | single =>
    rw [areas, Bo.holds_one, PlaneArea.stop, hp, Roomy, Nat.zero_add]
    exact iff_true_intro ⟨rfl, hsize⟩
  | semiPlanar420 => exact holds_semiPlanar420_iff hp hlt hsize
  | semiPlanar422 =>
    rw [areas, Bo.holds_two, PlaneArea.apart_iff]
    simp only [PlaneArea.stop, hp, u32_of_lt hlt, Roomy, true_and]
    dsimp only at hsize
    rw [← Nat.mul_assoc] at hsize
    exact iff_true_intro ⟨by omega, by omega, by omega⟩
  | planar420 => exact holds_planar420_iff hp hlt hpitch hsize

end Scheme

/-! ## Created buffers -/

variable {k : Kernel} {h h' : History} {fd : ℤ} {format : Format} {width : ℕ} {layout : Layout}

/-- What `bo_create` asks for, and what it returns. -/
theorem boCreate_eq_ok
    (hr : boCreate fd format width height k h = .ok (.ok (bo, layout), h')) :
    ∃ bpp, format.bpp = some bpp ∧ layout = format.layout bo height ∧
      h' = .createDumb ⟨fd, width, format.virtualHeight height, bpp⟩ (some bo.handle) :: h := by
  rw [boCreate] at hr
  cases hbpp : format.bpp with
  | none =>
    rw [hbpp] at hr
    cases hr
  | some bpp =>
    rw [hbpp, Prog.bind_eq_ok] at hr
    obtain ⟨r, h₁, hdumb, hr⟩ := hr
    rw [boCreateDumb, Prog.bind_eq_ok] at hdumb
    obtain ⟨arg, h₂, hcall, hdumb⟩ := hdumb
    rw [drmIoctlCreateDumb, Prog.call_eq_ok] at hcall
    obtain ⟨harg, rfl⟩ := Prod.mk.inj hcall
    rw [← harg] at hdumb
    cases arg with
    | error errno =>
      cases hdumb
      cases hr
    | ok arg =>
      cases hdumb
      cases hr
      exact ⟨bpp, rfl, rfl, rfl⟩

/-- The planes that `bo_create` returns are in the buffer object it creates, apart
    from each other, if and only if there is room for them. -/
theorem boCreate_holds_iff {req : CreateDumb}
    (hr : boCreate fd format width height k h =
      .ok (.ok (bo, layout), .createDumb req (some bo.handle) :: h))
    (hpos : 1 ≤ height) (hheight : height < 2 ^ 30) (hpitch : bo.pitch * req.height < 2 ^ 32)
    (hsize : bo.pitch * req.height ≤ bo.size) :
    bo.Holds (layout.areas (format.scheme.rows height)) ↔ format.scheme.Roomy bo height := by
  obtain ⟨bpp, hbpp, rfl, hreq⟩ := boCreate_eq_ok hr
  cases hreq
  dsimp only at hpitch hsize
  rw [Format.virtualHeight_eq] at hpitch hsize
  rw [Format.areas_layout (by rw [hbpp]; rfl), Scheme.holds_areas_iff hpos hheight hpitch hsize]

/-- An image of even height. -/
theorem boCreate_holds_even : ∃ bo layout h,
    boCreate 3 .yuv420 1280 720 (.willing fun _ => .oneDisplay) [] = .ok (.ok (bo, layout), h) ∧
      bo.Holds (layout.areas (Format.yuv420.scheme.rows 720)) := by
  have hr : boCreate 3 .yuv420 1280 720 (.willing fun _ => .oneDisplay) [] =
      .ok (.ok (⟨3, 5529600, 5120, 1⟩,
        ⟨[1, 1, 1, 0], [5120, 2560, 2560, 0], [0, 3686400, 4608000, 0]⟩),
          [.createDumb ⟨3, 1280, 1080, 8⟩ (some 1)]) := by
    decide +kernel
  exact ⟨_, _, _, hr,
    (boCreate_holds_iff hr (by decide) (by decide) (by decide) (by decide)).2 (.inl rfl)⟩

/-- An image of odd height, for which the driver gives what it is asked for: the
    last row of the second plane is not in the buffer object. -/
theorem boCreate_cuts_row : ∃ bo layout req,
    boCreate 3 .nv12 640 481 (.willing fun _ => .oneDisplay) [] =
      .ok (.ok (bo, layout), [.createDumb req (some bo.handle)]) ∧
        bo.size = bo.pitch * req.height ∧
          ¬ bo.Holds (layout.areas (Format.nv12.scheme.rows 481)) := by
  have hr : boCreate 3 .nv12 640 481 (.willing fun _ => .oneDisplay) [] =
      .ok (.ok (⟨3, 1845760, 2560, 1⟩, ⟨[1, 1, 0, 0], [2560, 2560, 0, 0], [0, 1231360, 0, 0]⟩),
        [.createDumb ⟨3, 640, 721, 8⟩ (some 1)]) := by
    decide +kernel
  refine ⟨_, _, _, hr, by decide, fun hholds => ?_⟩
  have hlast : (⟨1, 1231360, 2560, 241⟩ : PlaneArea) ∈
      Layout.areas ⟨[1, 1, 0, 0], [2560, 2560, 0, 0], [0, 1231360, 0, 0]⟩
        (Format.nv12.scheme.rows 481) :=
    List.mem_cons_of_mem _ List.mem_cons_self
  exact absurd (hholds.inside _ hlast) (by decide)

end ValRpi
