import ValRpi.Lib.Heaps
import ValRpi.Lib.Lists
import ValRpi.ModeChange

/-!
# Pointers

In the source, `boHandle` points to a `struct bo` on the heap, which `bo_create` allocates
and `bo_destroy` frees. `createScanoutFb` frees it before it has another one, and leaves the
pointer where it is when it fails. So the pointer may dangle, and once the allocator uses
the block again it points to the buffer of another CRTC. `DrmCrtc` with `boHandle` a value
knows nothing of that. Here is once more what deals with buffers, with `boHandle` a pointer
(`DrmCrtc ℕ`) and the heap:

* `Ptr.createScanoutFb`, and `bo_create` and `bo_destroy` in it;
* `Ptr.setActiveMode`, `Ptr.changeMode` and the constructor, `Ptr.new`;
* `Ptr.Step` is a step of a run.

Whatever does not look at `boHandle` is the same for pointers and for values.
`DRIElements.load` is the state with the buffers that are pointed to as values, and
`findTarget_mapBo` and `updateDevice_mapBo` say that the checks of a mode change and an
update do the same to both.
-/

namespace ValRpi

/-- A program with `struct bo`s on the heap. -/
abbrev HeapAct := HeapProg Kernel Event Fault Bo

/-! ## Other buffers -/

section MapBo

variable {β γ : Type}

/-- The CRTC with what stands for its buffer replaced. -/
def DrmCrtc.mapBo (f : β → Option γ) (c : DrmCrtc β) : DrmCrtc γ :=
  { c with boHandle := c.boHandle.bind f }

def DriDevice.mapBo (f : β → Option γ) (d : DriDevice β) : DriDevice γ :=
  { d with crtcList := d.crtcList.map (DrmCrtc.mapBo f) }

def DRIElements.mapBo (f : β → Option γ) (e : DRIElements β) : DRIElements γ :=
  { e with mDeviceList := e.mDeviceList.map fun p => (p.1, p.2.mapBo f) }

def Target.mapBo (f : β → Option γ) (t : Target β) : Target γ :=
  { t with
    pre := t.pre.map (DrmCrtc.mapBo f)
    crtc := t.crtc.mapBo f
    post := t.post.map (DrmCrtc.mapBo f) }

end MapBo

/-- The CRTC with the buffer that it points to as a value, if it is alive. -/
abbrev DrmCrtc.load (c : DrmCrtc ℕ) (m : Heap Bo) : DrmCrtc := c.mapBo fun p => m.lookup p

abbrev DriDevice.load (d : DriDevice ℕ) (m : Heap Bo) : DriDevice := d.mapBo fun p => m.lookup p

abbrev DRIElements.load (e : DRIElements ℕ) (m : Heap Bo) : DRIElements :=
  e.mapBo fun p => m.lookup p

namespace Ptr

/-! ## Buffers -/

variable (al : Allocator Event)

/-- `bo_create_dumb`. -/
def boCreateDumb (fd : ℤ) (width height bpp : ℕ) : HeapAct (Except Errno ℕ) := do
  -- `calloc`
  let bo ← .new al ⟨0, 0, 0, 0⟩
  match ← .lift (drmIoctlCreateDumb ⟨fd, width, height, bpp⟩) with
  | .error errno => do
    .free bo
    pure (.error errno)
  | .ok arg => do
    .write bo ⟨fd, arg.size, arg.pitch, arg.handle⟩
    pure (.ok bo)

/-- `bo_create`. -/
def boCreate (fd : ℤ) (format : Format) (width height : ℕ) :
    HeapAct (Except ℕ (ℕ × Layout)) :=
  match format.bpp with
  | none => pure (.error 0)
  | some bpp => do
    match ← boCreateDumb al fd width (format.virtualHeight height) bpp with
    | .error errno => pure (.error errno)
    | .ok bo => do
      let value ← .read bo
      pure (.ok (bo, format.layout value height))

/-- `bo_destroy`. -/
def boDestroy (bo : ℕ) : HeapAct Unit := do
  let value ← .read bo
  .lift (drmIoctlDestroyDumb value.fd value.handle)
  .free bo

/-! ## Framebuffers -/

/-- The first part of `createScanoutFb`: `boHandle` still points to what is freed. -/
def releaseScanoutFb (c : DrmCrtc ℕ) (fd : ℤ) : HeapAct Unit :=
  match c.owned with
  | some bo => do
    .lift (drmModeRmFB fd c.scanoutFbId)
    boDestroy bo
  | none => pure ()

/-- The rest of `createScanoutFb`. -/
def makeScanoutFb (c : DrmCrtc ℕ) (fd : ℤ) (width height : ℕ) :
    HeapAct (ℤ × DrmCrtc ℕ) := do
  match ← boCreate al fd defaultPixelFormat width height with
  | .error errno => pure (-errno, c)
  | .ok (bo, layout) =>
    match ← .lift (drmModeAddFB2
        ⟨fd, width, height, .xrgb8888, layout.handles, layout.pitches, layout.offsets⟩) with
    | .error errno => do
      boDestroy bo
      pure (-(errno : ℕ), c)
    | .ok fbId => pure (0, { c with scanoutFbId := fbId, boHandle := some bo })

/-- `createScanoutFb`. -/
def createScanoutFb (c : DrmCrtc ℕ) (fd : ℤ) (width height : ℕ) : HeapAct (ℤ × DrmCrtc ℕ) := do
  releaseScanoutFb c fd
  makeScanoutFb al c fd width height

/-- `DriDevice::setActiveMode`. -/
def setActiveMode (fd : ℤ) (conns : List DrmConnector) (crtc : DrmCrtc ℕ) (width height : ℕ)
    (_vRefresh : ℕ := 0) : HeapAct ((ℤ × List DrmConnector) × DrmCrtc ℕ) := do
  let crtcId ← .lift (.lift crtc.crtcId)
  if crtc.connectors.length = 0 then
    pure ((-1, conns), crtc)
  else
    let (mode, conns) ←
      .lift (checkConnectors (modeName width height) crtc.connectors none conns)
    match mode.join with
    | none => pure ((-1, conns), crtc)
    | some mode => do
      let (ret, crtc) ← createScanoutFb al crtc fd width height
      if ret ≠ 0 then
        pure ((-1, conns), crtc)
      else
        let _ ← .lift (drmModeSetCrtc ⟨fd, crtcId, crtc.scanoutFbId, 0, 0, crtc.connectors, mode⟩)
        pure ((0, conns), crtc)

/-! ## DRI elements -/

/-- `changeMode`. -/
def changeMode (e : DRIElements ℕ) (width height : ℕ) (displayPath : UInt8)
    (_vRefresh : ℕ := 0) : HeapAct (ℤ × DRIElements ℕ) := do
  let device := e.primary
  let (found, conns) ← .lift (DRIElements.findDisplay displayPath 0 device.connectorList)
  let crtcId := (found.map (·.crtcId)).getD 0
  let (set, crtcList) ← .visitFirst (DrmCrtc.hasId crtcId)
    (fun crtc => do
      let ((ret, conns), crtc) ← setActiveMode al device.drmModuleFd conns crtc width height
      pure ((ret, conns), if ret = 0 then { crtc with max := ⟨width, height⟩ } else crtc))
    device.crtcList
  match set with
  | none => pure (0, e.setPrimary { device with connectorList := conns })
  | some (ret, connectorList) =>
    let e := e.setPrimary { device with connectorList, crtcList }
    if ret = 0 then
      pure (1, { e with mConfiguredMode := ⟨width, height⟩ })
    else
      pure (0, e)

/-- The loop of the constructor that sets a mode on each CRTC. -/
def setActiveModes (d : DriDevice ℕ) : HeapAct (DriDevice ℕ) := do
  let (crtcList, connectorList) ← .forEach
    (fun crtc conns => do
      let ((_, conns), crtc) ←
        setActiveMode al d.drmModuleFd conns crtc crtc.max.w crtc.max.h
      pure (crtc, conns))
    d.crtcList d.connectorList
  pure { d with crtcList, connectorList }

/-- The constructor after the callback. -/
def finish (e : DRIElements ℕ) : Option String → HeapAct (DRIElements ℕ)
  | none => pure e
  | some name => do
    let d ← setActiveModes al ((e.mDeviceList.lookup name).getD {})
    pure { e with mPrimaryDev := name, mDeviceList := mapSet name d e.mDeviceList }

/-- The constructor: no CRTC has a buffer before it sets modes. -/
def new (defMode : Size) : HeapAct (DRIElements ℕ) := do
  let (device, e) ← .lift (DRIElements.startUp defMode)
  finish al (e.mapBo fun _ => none) device

/-- An operation, with its result, 0 if it has none. -/
def run (e : DRIElements ℕ) : DRIElements.Op → HeapAct (ℤ × DRIElements ℕ)
  | .hotplug => .lift (.call (fun _ _ => (0, e)) fun _ => .hotplug)
  | .updateDevice name => do
    let (_, e) ← .lift (e.updateDevice name)
    pure (0, e)
  | .changeMode width height displayPath vRefresh =>
    changeMode al e width height displayPath vRefresh

/-- A step: a state is that of the program, the heap, and what happened so far. -/
def Step (k : Kernel) (s : DRIElements ℕ × Heap Bo × History) (l : DRIElements.Op × ℤ)
    (s' : DRIElements ℕ × Heap Bo × History) : Prop :=
  run al s.1 l.1 s.2.1 k s.2.2 = .ok (((l.2, s'.1), s'.2.1), s'.2.2)

end Ptr

/-! ## The same for pointers and for values -/

section MapBo

variable {β γ : Type} (f : β → Option γ)

namespace DrmCrtc

@[simp]
theorem hasId_mapBo (id : ℕ) (c : DrmCrtc β) : (c.mapBo f).hasId id = c.hasId id := rfl

theorem owned_mapBo (c : DrmCrtc β) : (c.mapBo f).owned = c.owned.bind f := by
  change (if c.scanoutFbId ≠ 0 then c.boHandle.bind f else none) =
    (if c.scanoutFbId ≠ 0 then c.boHandle else none).bind f
  split <;> rfl

theorem assignRange_mapBo (connId : ℕ) (confMode : Size) (range : Option (ModeInfo × ModeInfo))
    (c : DrmCrtc β) : (c.mapBo f).assignRange connId confMode range =
      (fun r => (r.1, r.2.mapBo f)) <$> c.assignRange connId confMode range := by
  rw [assignRange, assignRange, map_bind]
  rfl

variable {f} {g : β → Option γ}

theorem mapBo_congr {c : DrmCrtc β} (h : ∀ bo, c.boHandle = some bo → f bo = g bo) :
    c.mapBo f = c.mapBo g := by
  rw [mapBo, mapBo]
  cases hbo : c.boHandle with
  | none => rfl
  | some bo => rw [Option.bind_some, Option.bind_some, h bo hbo]

end DrmCrtc

theorem setupConnector_mapBo (fd : ℤ) (confMode : Size) (conn : DrmConnector)
    (crtcs : List (DrmCrtc β)) :
    setupConnector fd confMode conn (crtcs.map (DrmCrtc.mapBo f)) =
      (fun r => (r.1, r.2.map (DrmCrtc.mapBo f))) <$> setupConnector fd confMode conn crtcs := by
  rw [setupConnector, setupConnector, map_bind]
  refine bind_congr fun r => ?_
  obtain ⟨plugged, conn⟩ := r
  cases plugged with
  | false => rfl
  | true =>
    simp only [Bool.not_true, Bool.false_eq_true, if_false, map_bind]
    refine bind_congr fun crtcId => ?_
    split
    · rfl
    · simp only [map_bind]
      refine bind_congr fun r => ?_
      rw [Prog.visitFirst_map (DrmCrtc.mapBo f) (DrmCrtc.assignRange_mapBo f _ _ _)]
      simp

namespace DriDevice

theorem setupDevice_mapBo (d : DriDevice β) (confMode : Size) :
    (d.mapBo f).setupDevice confMode = mapBo f <$> d.setupDevice confMode := by
  rw [setupDevice, setupDevice, map_bind]
  refine bind_congr fun _ => ?_
  have hloop := Prog.forEach_map (List.map (DrmCrtc.mapBo f))
    (setupConnector_mapBo f d.drmModuleFd confMode) d.connectorList d.crtcList
  dsimp only [mapBo]
  rw [hloop, bind_map_left, map_bind]
  rfl

end DriDevice

theorem findMode_mapBo (conns : List DrmConnector) (c : DrmCrtc β) (width height : ℕ) :
    findMode conns (c.mapBo f) width height = findMode conns c width height := rfl

theorem findTarget_mapBo (d : DriDevice β) (width height : ℕ) (displayPath : UInt8) :
    (d.mapBo f).findTarget width height displayPath =
      (fun r => (r.1.map (Target.mapBo f), r.2)) <$> d.findTarget width height displayPath := by
  rw [DriDevice.findTarget, DriDevice.findTarget, map_bind]
  refine bind_congr fun r => ?_
  obtain ⟨found, conns⟩ := r
  simp only [DriDevice.mapBo, Prog.splitFirst_map, DrmCrtc.hasId_mapBo]
  cases Prog.splitFirst (DrmCrtc.hasId ((found.map (·.crtcId)).getD 0)) d.crtcList with
  | error e => rfl
  | ok split =>
    cases split with
    | none => rfl
    | some s =>
      obtain ⟨pre, crtc, post⟩ := s
      rw [Except.map, Option.map_some, Prog.lift_ok, Prog.lift_ok, pure_bind, pure_bind]
      dsimp only
      rw [map_bind, findMode_mapBo]
      refine bind_congr fun r => ?_
      obtain ⟨mode, conns⟩ := r
      cases mode <;> rfl

namespace DRIElements

theorem updateDevice_mapBo (e : DRIElements β) (name : String) :
    (e.mapBo f).updateDevice name = (fun r => (r.1, r.2.mapBo f)) <$> e.updateDevice name := by
  rw [updateDevice, updateDevice, mapBo]
  dsimp only
  rw [Lists.lookup_map]
  cases e.mDeviceList.lookup name with
  | none => rfl
  | some d =>
    dsimp only [Option.map_some]
    rw [DriDevice.setupDevice_mapBo, bind_map_left, map_bind]
    refine bind_congr fun d => ?_
    rw [mapSet_map]
    rfl

theorem primary_mapBo (e : DRIElements β) : (e.mapBo f).primary = e.primary.mapBo f := by
  rw [primary, mapBo, Lists.lookup_map, primary]
  cases e.mDeviceList.lookup e.mPrimaryDev <;> rfl

theorem setPrimary_mapBo (e : DRIElements β) (d : DriDevice β) :
    (e.setPrimary d).mapBo f = (e.mapBo f).setPrimary (d.mapBo f) := by
  rw [setPrimary, setPrimary, mapBo, mapBo, mapSet_map]

theorem mapBo_mapBo {δ : Type} (g : γ → Option δ) (e : DRIElements β) :
    (e.mapBo f).mapBo g = e.mapBo fun bo => (f bo).bind g := by
  have hcrtc (c : DrmCrtc β) : (c.mapBo f).mapBo g = c.mapBo fun bo => (f bo).bind g := by
    rw [DrmCrtc.mapBo, DrmCrtc.mapBo, DrmCrtc.mapBo, Option.bind_assoc]
  simp only [mapBo, DriDevice.mapBo, List.map_map, Function.comp_def, hcrtc]

theorem mapBo_some (e : DRIElements β) : e.mapBo some = e := by
  have hcrtc (c : DrmCrtc β) : c.mapBo some = c := by simp [DrmCrtc.mapBo]
  have hcrtcs : DrmCrtc.mapBo (some : β → Option β) = id := funext hcrtc
  simp only [mapBo, DriDevice.mapBo, hcrtcs, List.map_id, List.map_id']

theorem crtcs_mapBo (e : DRIElements β) : (e.mapBo f).crtcs = e.crtcs.map (DrmCrtc.mapBo f) := by
  rw [crtcs, crtcs, mapBo, List.flatMap_map, List.map_flatMap]
  rfl

variable {f} {g : β → Option γ}

theorem mapBo_congr {e : DRIElements β} (h : ∀ c ∈ e.crtcs, c.mapBo f = c.mapBo g) :
    e.mapBo f = e.mapBo g := by
  have hdev : ∀ p ∈ e.mDeviceList, p.2.mapBo f = p.2.mapBo g := by
    intro p hp
    rw [DriDevice.mapBo, DriDevice.mapBo,
      List.map_congr_left fun c hc => h c (List.mem_flatMap.2 ⟨p, hp, hc⟩)]
  rw [mapBo, mapBo, List.map_congr_left fun p hp => by rw [hdev p hp]]

end DRIElements

end MapBo

end ValRpi
