import Mathlib.Algebra.Group.Int.Defs
import Mathlib.Algebra.Group.Nat.Defs
import Mathlib.Data.Finset.Basic
import ValRpi.Lib.Ledger
import ValRpi.Lib.Prog

/-!
# The kernel

What the program sees of the DRM kernel driver, libdrm and udev, none of which
is part of the repository. The kernel is a parameter of the model: a strategy
that answers each call seeing the log of everything that happened before
(`Kernel`). So a theorem about every kernel is one about every sequence of
answers, where any call may fail at any time and a connector may change
between two queries. The entry `Event.hotplug` marks a change from outside,
between two operations of the program.

What the program relies on is stated by name, where a result needs it:

* `Kernel.Fresh`: the ids of framebuffers and buffer objects are not reused,
  and framebuffer ids are not zero;
* `Kernel.Steady`: a query does not change what queries answer;
* `Kernel.Sane`: the ids a card lists are distinct and those of CRTCs and
  planes not zero, listed CRTCs can be read, and udev lists a node once.

`Kernel.scripted` is an executable kernel that is all of these, on cards such as
`Card.ofTables`.
-/

namespace ValRpi

/-- Why the program ends without a result: it reads through a null pointer or
    beyond the end of a vector, or it throws. -/
inductive Fault
  | nullDeref
  | outOfBounds
  | fatalException (message : String)
  deriving DecidableEq, Repr

/-- `VAL_VIDEO_SIZE_T`. -/
@[ext]
structure Size where
  w : ℕ
  h : ℕ
  deriving DecidableEq, Repr

/-- Not larger than a limit, in either dimension. -/
def Size.Within (s limit : Size) : Prop := s.w ≤ limit.w ∧ s.h ≤ limit.h

instance (s limit : Size) : Decidable (s.Within limit) := inferInstanceAs (Decidable (_ ∧ _))

/-! ## DRM objects -/

/-- `drmModeModeInfo`. -/
structure ModeInfo where
  name : String
  hdisplay : ℕ
  vdisplay : ℕ
  vrefresh : ℕ
  flags : ℕ
  deriving DecidableEq, Repr, Inhabited

namespace ModeInfo

def size (m : ModeInfo) : Size := ⟨m.hdisplay, m.vdisplay⟩

/-- The flag `DRM_MODE_FLAG_INTERLACE`. -/
def interlaced (m : ModeInfo) : Bool := m.flags.testBit 4

end ModeInfo

/-- The name of a progressive mode, and the one the program looks modes up by. -/
def modeName (width height : ℕ) : String := toString width ++ "x" ++ toString height

/-- `drmModeConnection`. -/
inductive Connection
  | connected
  | disconnected
  | unknown
  deriving DecidableEq, Repr

/-- `drmModeConnector`. -/
structure Connector where
  connectorId : ℕ
  encoderId : ℕ
  connectorType : ℕ
  connection : Connection
  modes : List ModeInfo
  encoders : List ℕ
  deriving DecidableEq, Repr

/-- `drmModeEncoder`. -/
structure Encoder where
  encoderId : ℕ
  crtcId : ℕ
  possibleCrtcs : ℕ
  deriving DecidableEq, Repr

/-- `drmModeCrtc`. -/
structure Crtc where
  crtcId : ℕ
  deriving DecidableEq, Repr

/-- `drmModePlane`. -/
structure Plane where
  planeId : ℕ
  possibleCrtcs : ℕ
  deriving DecidableEq, Repr

/-- `drmModeRes`. -/
structure Resources where
  crtcs : List ℕ
  connectors : List ℕ
  encoders : List ℕ
  deriving DecidableEq, Repr

/-- `drmModePropertyRes`: the name of a property, and the value and name of each
    of its enums. -/
structure Property where
  name : String
  enums : List (ℕ × String)
  deriving DecidableEq, Repr

/-- The pixel formats of `drm_fourcc.h` that the program knows. -/
inductive Format
  | nv12 | nv21 | nv16 | nv61 | yuv420 | yvu420
  | argb4444 | xrgb4444 | abgr4444 | xbgr4444 | rgba4444 | rgbx4444 | bgra4444 | bgrx4444
  | argb1555 | xrgb1555 | abgr1555 | xbgr1555 | rgba5551 | rgbx5551 | bgra5551 | bgrx5551
  | rgb565 | bgr565
  | uyvy | vyuy | yuyv | yvyu
  | bgr888 | rgb888
  | argb8888 | xrgb8888 | abgr8888 | xbgr8888 | rgba8888 | rgbx8888 | bgra8888 | bgrx8888
  | argb2101010 | xrgb2101010 | abgr2101010 | xbgr2101010
  | rgba1010102 | rgbx1010102 | bgra1010102 | bgrx1010102
  | other (fourcc : ℕ)
  deriving DecidableEq, Repr

/-- What a card reports: the answer to each query, or none where it is a null
    pointer. The properties of a plane come as pairs of a property id and its
    current value. -/
structure Card where
  resources : Option Resources
  connector : ℕ → Option Connector
  encoder : ℕ → Option Encoder
  crtc : ℕ → Option Crtc
  planeResources : Option (List ℕ)
  plane : ℕ → Option Plane
  planeProperties : ℕ → Option (List (ℕ × ℕ))
  property : ℕ → Option Property
  dumbBuffers : Bool

/-! ## Calls -/

/-- Calls that only read. -/
inductive Query
  | devices
  | open (node : String)
  | resources (fd : ℤ)
  | connector (fd : ℤ) (id : ℕ)
  | encoder (fd : ℤ) (id : ℕ)
  | crtc (fd : ℤ) (id : ℕ)
  | planeResources (fd : ℤ)
  | plane (fd : ℤ) (id : ℕ)
  | planeProperties (fd : ℤ) (id : ℕ)
  | property (fd : ℤ) (id : ℕ)
  | dumbBuffers (fd : ℤ)
  deriving DecidableEq, Repr

/-- `drm_mode_create_dumb`, as passed to the kernel. -/
structure CreateDumb where
  fd : ℤ
  width : ℕ
  height : ℕ
  bpp : ℕ
  deriving DecidableEq, Repr

/-- `drm_mode_create_dumb`, as returned. -/
structure DumbBuffer where
  handle : ℕ
  pitch : ℕ
  size : ℕ
  deriving DecidableEq, Repr

/-- The arguments of `drmModeAddFB2`. -/
structure AddFB2 where
  fd : ℤ
  width : ℕ
  height : ℕ
  format : Format
  handles : List ℕ
  pitches : List ℕ
  offsets : List ℕ
  deriving DecidableEq, Repr

/-- The arguments of `drmModeSetCrtc`. -/
structure SetCrtc where
  fd : ℤ
  crtcId : ℕ
  fbId : ℕ
  x : ℕ
  y : ℕ
  connectors : List ℕ
  mode : ModeInfo
  deriving DecidableEq, Repr

/-- `scale_param_t` of `src/val/val_video_impl.cpp`, the value of the scaling
    property of a plane. -/
structure ScaleParam where
  crtcX : ℕ
  crtcY : ℕ
  crtcW : ℕ
  crtcH : ℕ
  srcX : ℕ
  srcY : ℕ
  srcH : ℕ
  srcW : ℕ
  deriving DecidableEq, Repr

/-- The arguments of `drmModeObjectSetProperty`, for a plane. -/
structure SetProperty where
  fd : ℤ
  planeId : ℕ
  property : ℕ
  value : ScaleParam
  deriving DecidableEq, Repr

/-- The arguments of `drmModeSetPlane`, without the flags, which are 0. -/
structure SetPlane where
  fd : ℤ
  planeId : ℕ
  crtcId : ℕ
  fbId : ℕ
  crtcX : ℕ
  crtcY : ℕ
  crtcW : ℕ
  crtcH : ℕ
  srcX : ℕ
  srcY : ℕ
  srcW : ℕ
  srcH : ℕ
  deriving DecidableEq, Repr

/-- What is logged: the calls, with the outcome of those that may be refused,
    and the changes from outside. -/
inductive Event
  | hotplug
  | query (q : Query)
  | createDumb (req : CreateDumb) (handle : Option ℕ)
  | destroyDumb (fd : ℤ) (handle : ℕ)
  | addFB2 (req : AddFB2) (fbId : Option ℕ)
  | rmFB (fd : ℤ) (fbId : ℕ)
  | setCrtc (req : SetCrtc) (done : Bool)
  | setProperty (req : SetProperty) (done : Bool)
  | setPlane (req : SetPlane) (done : Bool)
  deriving DecidableEq, Repr

/-- What happened so far, the newest event first. -/
abbrev History := List Event

/-- A value of `errno` after a failure. -/
abbrev Errno := {n : ℕ // 0 < n}

/-- The kernel: its answers to each call, given what happened so far. The calls
    that release something always succeed on what is alive, and the program
    does not look at their result. `firstKey` is which key of an unordered map
    its iteration starts with. -/
structure Kernel where
  devices : History → List String
  openNode : History → String → ℤ
  card : History → ℤ → Card
  createDumb : History → CreateDumb → Except Errno DumbBuffer
  addFB2 : History → AddFB2 → Except Errno ℕ
  setCrtc : History → SetCrtc → Option Errno
  setProperty : History → SetProperty → Option Errno
  setPlane : History → SetPlane → Option Errno
  firstKey : List String → ℕ

/-- What the program does: calls to the kernel, that end in a value or a fault. -/
abbrev Act := Prog Kernel Event Fault

/-- Reading through a pointer that may be null. -/
def deref {α : Type} : Option α → Except Fault α
  | some a => .ok a
  | none => .error .nullDeref

@[simp]
theorem deref_eq_ok {α : Type} {x : Option α} {a : α} : deref x = .ok a ↔ x = some a := by
  cases x <;> simp [deref]

/-- A query of a card. -/
def ask {α : Type} (fd : ℤ) (q : Query) (answer : Card → α) : Act α :=
  .call (fun k h => answer (k.card h fd)) fun _ => .query q

def drmModeGetResources (fd : ℤ) : Act (Option Resources) :=
  ask fd (.resources fd) Card.resources

/-- libdrm returns the object it was asked for. -/
def drmModeGetConnector (fd : ℤ) (id : ℕ) : Act (Option Connector) :=
  ask fd (.connector fd id) fun card => (card.connector id).map ({ · with connectorId := id })

def drmModeGetEncoder (fd : ℤ) (id : ℕ) : Act (Option Encoder) :=
  ask fd (.encoder fd id) fun card => (card.encoder id).map ({ · with encoderId := id })

def drmModeGetCrtc (fd : ℤ) (id : ℕ) : Act (Option Crtc) :=
  ask fd (.crtc fd id) fun card => (card.crtc id).map ({ · with crtcId := id })

def drmModeGetPlaneResources (fd : ℤ) : Act (Option (List ℕ)) :=
  ask fd (.planeResources fd) Card.planeResources

def drmModeGetPlane (fd : ℤ) (id : ℕ) : Act (Option Plane) :=
  ask fd (.plane fd id) fun card => (card.plane id).map ({ · with planeId := id })

def drmModeObjectGetProperties (fd : ℤ) (id : ℕ) : Act (Option (List (ℕ × ℕ))) :=
  ask fd (.planeProperties fd id) (Card.planeProperties · id)

def drmModeGetProperty (fd : ℤ) (id : ℕ) : Act (Option Property) :=
  ask fd (.property fd id) (Card.property · id)

/-- `drmGetCap(fd, DRM_CAP_DUMB_BUFFER, ..)` succeeds and reports dumb buffers. -/
def drmGetCapDumbBuffer (fd : ℤ) : Act Bool := ask fd (.dumbBuffers fd) Card.dumbBuffers

/-- `DRM_IOCTL_MODE_CREATE_DUMB`. -/
def drmIoctlCreateDumb (req : CreateDumb) : Act (Except Errno DumbBuffer) :=
  .call (fun k h => k.createDumb h req) fun r => .createDumb req (r.toOption.map (·.handle))

/-- `DRM_IOCTL_MODE_DESTROY_DUMB`. -/
def drmIoctlDestroyDumb (fd : ℤ) (handle : ℕ) : Act Unit :=
  .call (fun _ _ => ()) fun _ => .destroyDumb fd handle

def drmModeAddFB2 (req : AddFB2) : Act (Except Errno ℕ) :=
  .call (fun k h => k.addFB2 h req) fun r => .addFB2 req r.toOption

def drmModeRmFB (fd : ℤ) (fbId : ℕ) : Act Unit := .call (fun _ _ => ()) fun _ => .rmFB fd fbId

def drmModeSetCrtc (req : SetCrtc) : Act (Option Errno) :=
  .call (fun k h => k.setCrtc h req) fun r => .setCrtc req r.isNone

def drmModeObjectSetProperty (req : SetProperty) : Act (Option Errno) :=
  .call (fun k h => k.setProperty h req) fun r => .setProperty req r.isNone

def drmModeSetPlane (req : SetPlane) : Act (Option Errno) :=
  .call (fun k h => k.setPlane h req) fun r => .setPlane req r.isNone

/-! ## Framebuffers and buffer objects -/

/-- The framebuffer an event adds. -/
def addsFb : Event → Option ℕ
  | .addFB2 _ fbId => fbId
  | _ => none

/-- The framebuffer an event removes. -/
def removesFb : Event → Option ℕ
  | .rmFB _ fbId => some fbId
  | _ => none

/-- The buffer object an event creates. -/
def createsBo : Event → Option ℕ
  | .createDumb _ handle => handle
  | _ => none

/-- The buffer object an event destroys. -/
def destroysBo : Event → Option ℕ
  | .destroyDumb _ handle => some handle
  | _ => none

/-- The framebuffers alive in the kernel. -/
abbrev liveFbs (h : History) : Finset ℕ := Ledger.live addsFb removesFb h

/-- The buffer objects alive in the kernel. -/
abbrev liveBos (h : History) : Finset ℕ := Ledger.live createsBo destroysBo h

/-- An event that neither makes nor releases a framebuffer or a buffer object. -/
def Event.isQuery : Event → Bool
  | .query _ => true
  | _ => false

theorem Event.idle_fb {e : Event} (he : e.isQuery) : Ledger.Idle addsFb removesFb e := by
  cases e <;> simp_all [isQuery, Ledger.Idle, addsFb, removesFb]

theorem Event.idle_bo {e : Event} (he : e.isQuery) : Ledger.Idle createsBo destroysBo e := by
  cases e <;> simp_all [isQuery, Ledger.Idle, createsBo, destroysBo]

/-! ## What the program relies on -/

/-- Ids are not reused, and those of framebuffers are not zero. -/
structure Kernel.Fresh (k : Kernel) : Prop where
  createDumb : ∀ h req bo, k.createDumb h req = .ok bo → bo.handle ∉ Ledger.acquired createsBo h
  addFB2 : ∀ h req fbId, k.addFB2 h req = .ok fbId → fbId ∉ Ledger.acquired addsFb h
  addFB2_ne_zero : ∀ h req fbId, k.addFB2 h req = .ok fbId → fbId ≠ 0

/-- Asking does not change the answers. -/
def Kernel.Steady (k : Kernel) : Prop := ∀ h q fd, k.card (.query q :: h) fd = k.card h fd

/-- The ids of the objects of a card are those of distinct objects. -/
structure Card.Sane (card : Card) : Prop where
  crtcs : ∀ res, card.resources = some res → res.crtcs.Nodup ∧ 0 ∉ res.crtcs
  connectors : ∀ res, card.resources = some res → res.connectors.Nodup
  planes : ∀ ids, card.planeResources = some ids → ids.Nodup ∧ 0 ∉ ids
  crtc : ∀ id, (card.crtc id).isSome

/-- Every card is sane, and udev lists every node once. -/
structure Kernel.Sane (k : Kernel) : Prop where
  card : ∀ h fd, (k.card h fd).Sane
  devices : ∀ h, (k.devices h).Nodup

/-! ## A scripted kernel -/

/-- A card with the given objects, whose planes are all primary ones. -/
def Card.ofTables (crtcs : List ℕ) (connectors : List Connector) (encoders : List Encoder)
    (planes : List Plane) : Card where
  resources := some ⟨crtcs, connectors.map (·.connectorId), encoders.map (·.encoderId)⟩
  connector id := connectors.find? (·.connectorId == id)
  encoder id := encoders.find? (·.encoderId == id)
  crtc id := some ⟨id⟩
  planeResources := some (planes.map Plane.planeId)
  plane id := planes.find? (·.planeId == id)
  planeProperties _ := some [(5, 1)]
  property _ := some ⟨"type", [(1, "Primary")]⟩
  dumbBuffers := true

theorem Card.ofTables_sane {crtcs : List ℕ} {connectors : List Connector} {encoders : List Encoder}
    {planes : List Plane} (hcrtcs : crtcs.Nodup ∧ 0 ∉ crtcs)
    (hconnectors : (connectors.map (·.connectorId)).Nodup)
    (hplanes : (planes.map Plane.planeId).Nodup ∧ 0 ∉ planes.map Plane.planeId) :
    (Card.ofTables crtcs connectors encoders planes).Sane where
  crtcs res hres := by cases hres; exact hcrtcs
  connectors res hres := by cases hres; exact hconnectors
  planes ids hids := by cases hids; exact hplanes
  crtc _ := rfl

/-- A progressive mode at 60 Hz. -/
def ModeInfo.progressive (width height : ℕ) : ModeInfo :=
  ⟨modeName width height, width, height, 60, 0⟩

/-- An interlaced mode at 60 Hz. -/
def ModeInfo.interlacedAt (width height : ℕ) : ModeInfo :=
  ⟨modeName width height ++ "i", width, height, 60, 16⟩

/-- One display of two modes on one CRTC with one plane. -/
def Card.oneDisplay : Card :=
  .ofTables [31]
    [⟨21, 11, 11, .connected, [.progressive 1920 1080, .progressive 1280 720], [11]⟩]
    [⟨11, 31, 1⟩] [⟨41, 1⟩]

theorem Card.oneDisplay_sane : Card.oneDisplay.Sane :=
  ofTables_sane (by decide) (by decide) (by decide)

/-- The same card, the larger size of the display being interlaced. -/
def Card.interlacedDisplay : Card :=
  .ofTables [31]
    [⟨21, 11, 11, .connected, [.interlacedAt 1920 1080, .progressive 1280 720], [11]⟩]
    [⟨11, 31, 1⟩] [⟨41, 1⟩]

/-- The same card, the display having the smaller size only. -/
def Card.smallDisplay : Card :=
  .ofTables [31] [⟨21, 11, 11, .connected, [.progressive 1280 720], [11]⟩] [⟨11, 31, 1⟩] [⟨41, 1⟩]

theorem Card.smallDisplay_sane : Card.smallDisplay.Sane :=
  ofTables_sane (by decide) (by decide) (by decide)

/-- The same card, the larger size of the display being wider and lower than Full HD. -/
def Card.wideDisplay : Card :=
  .ofTables [31]
    [⟨21, 11, 11, .connected, [.progressive 2560 1000, .progressive 1280 720], [11]⟩]
    [⟨11, 31, 1⟩] [⟨41, 1⟩]

/-- The same card, the display preferring a mode that is not its largest one: the
    kernel lists it first, and the rest by their sizes. -/
def Card.preferredDisplay : Card :=
  .ofTables [31]
    [⟨21, 11, 11, .connected, [.progressive 1280 720, .progressive 1920 1080,
      ⟨modeName 1280 720, 1280, 720, 50, 0⟩], [11]⟩]
    [⟨11, 31, 1⟩] [⟨41, 1⟩]

/-- The same card with the display unplugged. -/
def Card.noDisplay : Card :=
  .ofTables [31] [⟨21, 0, 11, .disconnected, [], [11]⟩] [⟨11, 31, 1⟩] [⟨41, 1⟩]

theorem Card.noDisplay_sane : Card.noDisplay.Sane :=
  ofTables_sane (by decide) (by decide) (by decide)

/-- One display on the second of two CRTCs, and one plane for both. -/
def Card.secondCrtc : Card :=
  .ofTables [31, 32]
    [⟨21, 12, 11, .connected, [.progressive 1920 1080, .progressive 1280 720], [12]⟩]
    [⟨12, 32, 2⟩] [⟨41, 3⟩]

theorem Card.secondCrtc_sane : Card.secondCrtc.Sane :=
  ofTables_sane (by decide) (by decide) (by decide)

/-- The id after all those acquired so far. -/
def nextId (acquires : Event → Option ℕ) (h : History) : ℕ :=
  (Ledger.acquired acquires h).foldr max 0 + 1

theorem nextId_not_mem (acquires : Event → Option ℕ) (h : History) :
    nextId acquires h ∉ Ledger.acquired acquires h := by
  have hle : ∀ (l : List ℕ), ∀ x ∈ l, x ≤ l.foldr max 0 := by
    intro l
    induction l with
    | nil => simp
    | cons a l ih =>
      intro x hx
      rw [List.foldr_cons]
      rcases List.mem_cons.1 hx with rfl | hx
      exacts [le_max_left _ _, (ih x hx).trans (le_max_right _ _)]
  intro hmem
  have := hle _ _ hmem
  rw [nextId] at this
  omega

/-- How many changes from outside there were. -/
def hotplugs (h : History) : ℕ := h.count .hotplug

/-- Two such displays, each on a CRTC of its own, and one plane for both CRTCs. -/
def Card.twoDisplays : Card :=
  .ofTables [31, 32]
    [⟨21, 11, 11, .connected, [.progressive 1920 1080, .progressive 1280 720], [11]⟩,
      ⟨22, 12, 11, .connected, [.progressive 1920 1080, .progressive 1280 720], [12]⟩]
    [⟨11, 31, 1⟩, ⟨12, 32, 2⟩] [⟨41, 3⟩]

theorem Card.twoDisplays_sane : Card.twoDisplays.Sane :=
  ofTables_sane (by decide) (by decide) (by decide)

/-- Two displays, with a plane each. -/
def Card.planeEach : Card :=
  .ofTables [31, 32]
    [⟨21, 11, 11, .connected, [.progressive 1920 1080], [11]⟩,
      ⟨22, 12, 11, .connected, [.progressive 1920 1080], [12]⟩]
    [⟨11, 31, 1⟩, ⟨12, 32, 2⟩] [⟨41, 1⟩, ⟨42, 2⟩]

/-- Two such displays, the first one unplugged. -/
def Card.secondDisplay : Card :=
  .ofTables [31, 32]
    [⟨21, 0, 11, .disconnected, [], [11]⟩,
      ⟨22, 12, 11, .connected, [.progressive 1920 1080, .progressive 1280 720], [12]⟩]
    [⟨11, 0, 1⟩, ⟨12, 32, 2⟩] [⟨41, 3⟩]

/-- A kernel with one card, that reports `card n` after `n` changes from outside,
    hands out ids in order, and grants a buffer object, a framebuffer or a mode
    set as the history so far tells it. -/
def Kernel.scripted (card : ℕ → Card) (bo fb set : History → Bool) : Kernel where
  devices _ := ["/dev/dri/card0"]
  openNode _ _ := 3
  card h _ := card (hotplugs h)
  createDumb h req :=
    if bo h then .ok ⟨nextId createsBo h, 4 * req.width, 4 * req.width * req.height⟩
    else .error ⟨12, by decide⟩
  addFB2 h _ := if fb h then .ok (nextId addsFb h) else .error ⟨22, by decide⟩
  setCrtc h _ := if set h then none else some ⟨22, by decide⟩
  setProperty _ _ := none
  setPlane _ _ := none
  firstKey _ := 0

namespace Kernel

/-- A scripted kernel that grants everything. -/
abbrev willing (card : ℕ → Card) : Kernel :=
  scripted card (fun _ => true) (fun _ => true) fun _ => true

variable (card : ℕ → Card) (bo fb set : History → Bool)

theorem scripted_fresh : (scripted card bo fb set).Fresh where
  createDumb h req b hb := by
    simp only [scripted] at hb
    split at hb
    · cases hb; exact nextId_not_mem _ _
    · cases hb
  addFB2 h req b hb := by
    simp only [scripted] at hb
    split at hb
    · cases hb; exact nextId_not_mem _ _
    · cases hb
  addFB2_ne_zero h req b hb := by
    simp only [scripted] at hb
    split at hb
    · cases hb; exact Nat.succ_ne_zero _
    · cases hb

theorem scripted_steady : (scripted card bo fb set).Steady := by
  intro h q fd
  simp [scripted, hotplugs]

theorem scripted_sane (hcard : ∀ n, (card n).Sane) : (scripted card bo fb set).Sane where
  card _ _ := hcard _
  devices _ := List.nodup_singleton _

end Kernel

end ValRpi
