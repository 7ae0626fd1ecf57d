import Mathlib.Data.List.Destutter
import Mathlib.Data.List.Infix
import ValRpi.Device
import ValRpi.Lib.Run

/-!
# DRI elements

`DRIElements` of `src/val/driElements.cpp`: the cards of the machine, one of
which is the primary device, and the mode they are to be set to.

* `DRIElements.new`, the constructor, reads what the cards have
  (`loadResources`), sets up the primary device and sets a mode on each of its
  CRTCs;
* `updateDevice` is called when udev reports a change, `changeMode` when a
  resolution is asked for;
* `getPlanes`, `getSupportedModes` and others look things up;
* `setPlane` shows a framebuffer on a plane.

The callback of `updateDevice` is the last thing it does. The result of the
model says whether it is called, and `ValVideoImpl` runs it. The constructor is
cut where it calls `updateDevice` for that reason.

`mDeviceList[key]` adds an empty device where there is none: `touch`.
-/

namespace ValRpi

/-- `PLANE_TYPES_T`. -/
inductive PlaneType
  | primary
  | overlay
  | cursor
  | none
  deriving DecidableEq, Repr

/-- `DRIElements`. `mDeviceList` is an unordered map. -/
structure DRIElements (β : Type := Bo) where
  mPrimaryDev : String := ""
  mDeviceList : List (String × DriDevice β) := []
  mInitialMode : Size
  mConfiguredMode : Size
  deriving DecidableEq, Repr

/-- Replacing the value of a key, or adding it. -/
def mapSet {α : Type} (key : String) (a : α) : List (String × α) → List (String × α)
  | [] => [(key, a)]
  | p :: l => if p.1 == key then (key, a) :: l else p :: mapSet key a l

theorem lookup_mapSet {α : Type} (key key' : String) (a : α) (l : List (String × α)) :
    (mapSet key a l).lookup key' = if key' == key then some a else l.lookup key' := by
  induction l with
  | nil =>
    rw [mapSet, List.lookup_cons, List.lookup_nil]
    cases key' == key <;> rfl
  | cons p l ih =>
    obtain ⟨key₁, b⟩ := p
    rw [mapSet]
    by_cases h₁ : key₁ == key
    · obtain rfl := eq_of_beq h₁
      rw [if_pos h₁, List.lookup_cons, List.lookup_cons]
      cases key' == key₁ <;> rfl
    · rw [if_neg h₁, List.lookup_cons, List.lookup_cons, ih]
      cases h₂ : key' == key₁ with
      | true => rw [eq_of_beq h₂, if_neg h₁, if_neg h₁]
      | false => rfl

/-- A value is replaced where it is, or added to none. -/
theorem exists_mapSet_eq {α : Type} (key : String) (l : List (String × α)) :
    ∃ pre post, l = pre ++ ((l.lookup key).map ((key, ·))).toList ++ post ∧
      ∀ a, mapSet key a l = pre ++ (key, a) :: post := by
  induction l with
  | nil => exact ⟨[], [], rfl, fun a => rfl⟩
  | cons p l ih =>
    obtain ⟨key₁, b⟩ := p
    by_cases h₁ : key₁ == key
    · obtain rfl := eq_of_beq h₁
      exact ⟨[], l, by simp, fun a => by simp [mapSet]⟩
    · obtain ⟨pre, post, hl, hset⟩ := ih
      have h₂ : (key == key₁) = false := by
        rw [beq_eq_false_iff_ne]
        exact fun h => h₁ (beq_iff_eq.2 h.symm)
      refine ⟨(key₁, b) :: pre, post, ?_, fun a => ?_⟩
      · rw [List.lookup_cons, h₂, List.cons_append, List.cons_append]
        exact congrArg _ hl
      · rw [mapSet, if_neg h₁, hset a, List.cons_append]

theorem mapSet_mapSet {α : Type} (key : String) (a b : α) (l : List (String × α)) :
    mapSet key b (mapSet key a l) = mapSet key b l := by
  induction l with
  | nil => simp [mapSet]
  | cons p l ih =>
    rw [mapSet, mapSet]
    split
    · simp [mapSet]
    next hne => rw [mapSet, if_neg hne, ih]

theorem mapSet_map {α β : Type} (f : α → β) (key : String) (a : α) (l : List (String × α)) :
    mapSet key (f a) (l.map fun p => (p.1, f p.2)) =
      (mapSet key a l).map fun p => (p.1, f p.2) := by
  induction l with
  | nil => rfl
  | cons p l ih =>
    rw [List.map_cons, mapSet, mapSet]
    split
    · rfl
    · rw [ih, List.map_cons]

/-- A key is added at the end, unless it is there. -/
theorem map_fst_mapSet {α : Type} (key : String) (a : α) (l : List (String × α)) :
    (mapSet key a l).map Prod.fst =
      l.map Prod.fst ++ if (l.map Prod.fst).contains key then [] else [key] := by
  induction l with
  | nil => rfl
  | cons p l ih =>
    rw [mapSet, List.map_cons, List.contains_cons, BEq.comm (a := key)]
    split
    next hkey => simp [eq_of_beq hkey]
    next hne => rw [List.map_cons, ih, List.cons_append, Bool.eq_false_iff.2 hne, Bool.false_or]

/-! ## Loading -/

/-- The type with the given name, as its position in `planeType`. -/
def planeTypeOfName (name : String) : PlaneType :=
  if name == "Primary" then .primary
  else if name == "Overlay" then .overlay
  else if name == "Cursor" then .cursor
  else .none

/-- The loop of `getPlaneType` over the properties of a plane: it returns at the
    first enum of any property whose value is the current one. -/
def planeTypeOfProperties (fd : ℤ) : List (ℕ × ℕ) → Act PlaneType
  | [] => pure .none
  | (id, value) :: props => do
    let prop ← drmModeGetProperty fd id
    let prop ← .lift (deref prop)
    match prop.enums.find? (·.1 == value) with
    | some enum => pure (planeTypeOfName enum.2)
    | none => planeTypeOfProperties fd props

def getPlaneType (fd : ℤ) (planeId : ℕ) : Act PlaneType := do
  let props ← drmModeObjectGetProperties fd planeId
  let props ← .lift (deref props)
  planeTypeOfProperties fd props

/-- The loops of `loadResources` over the ids of a kind of object: each is read
    and appended to the list of the device, unless it is left out. -/
def loadEach {α : Type} (read : ℕ → Act (Option α)) : List ℕ → List α → Act (List α)
  | [], loaded => pure loaded
  | id :: ids, loaded => do
    match ← read id with
    | some a => loadEach read ids (loaded ++ [a])
    | none => loadEach read ids loaded

/-- The loop of `loadResources` over the CRTCs, from index `i`. -/
def loadCrtcs (fd : ℤ) : List ℕ → ℕ → List DrmCrtc → Act (List DrmCrtc)
  | [], _, loaded => pure loaded
  | id :: ids, i, loaded => do
    let crtc ← drmModeGetCrtc fd id
    loadCrtcs fd ids (i + 1) (loaded ++ [{ mCrtc := crtc, crtcIndex := i }])

def loadConnector (fd : ℤ) (id : ℕ) : Act (Option DrmConnector) := do
  let connector ← drmModeGetConnector fd id
  let conn ← .lift (DrmConnector.new fd connector)
  pure (some conn)

def loadEncoder (fd : ℤ) (id : ℕ) : Act (Option (Option Encoder)) := do
  let encoder ← drmModeGetEncoder fd id
  pure (some encoder)

def loadPlane (fd : ℤ) (id : ℕ) : Act (Option Plane) := do
  let plane ← drmModeGetPlane fd id
  let plane ← .lift (deref plane)
  let type ← getPlaneType fd plane.planeId
  pure (if type ≠ .cursor then some plane else none)

/-- The body of `loadResources` on one card, with whether the loop goes on: it
    breaks where the card cannot be opened or read. -/
def loadDevice (node : String) (d : DriDevice) : Act (Bool × DriDevice) := do
  let fd ← .call (fun k h => k.openNode h node) fun _ => .query (.open node)
  let d := { d with deviceName := node, drmModuleFd := fd }
  if fd < 0 then
    pure (false, d)
  else
    match ← drmModeGetResources fd with
    | none => pure (false, d)
    | some res => do
      let crtcList ← loadCrtcs fd res.crtcs 0 d.crtcList
      let connectorList ← loadEach (loadConnector fd) res.connectors d.connectorList
      let encoderList ← loadEach (loadEncoder fd) res.encoders d.encoderList
      let d := { d with crtcList, connectorList, encoderList }
      match ← drmModeGetPlaneResources fd with
      | none => pure (false, d)
      | some planes => do
        let planeList ← loadEach (loadPlane fd) planes d.planeList
        pure (true, { d with planeList })

/-- The nodes `loadResources` reads. -/
def isCard (node : String) : Bool := decide ("card".toList <:+: node.toList)

/-- The loop of `loadResources` over the nodes. -/
def loadDevices : List String → List (String × DriDevice) → Act (List (String × DriDevice))
  | [], devices => pure devices
  | node :: nodes, devices =>
    if isCard node then do
      let (goOn, d) ← loadDevice node ((devices.lookup node).getD {})
      if goOn then loadDevices nodes (mapSet node d devices) else pure (mapSet node d devices)
    else
      loadDevices nodes devices

namespace DRIElements

def loadResources (e : DRIElements) : Act DRIElements := do
  let nodes ← .call (fun k h => k.devices h) fun _ => .query .devices
  let mDeviceList ← loadDevices nodes e.mDeviceList
  pure { e with mDeviceList }

/-! ## The primary device -/

variable {β : Type}

/-- `mDeviceList[mPrimaryDev]`. -/
def primary (e : DRIElements β) : DriDevice β := (e.mDeviceList.lookup e.mPrimaryDev).getD {}

/-- The device is written back where it is. -/
def setPrimary (e : DRIElements β) (d : DriDevice β) : DRIElements β :=
  { e with mDeviceList := mapSet e.mPrimaryDev d e.mDeviceList }

/-- The effect of reading `mDeviceList[mPrimaryDev]`. -/
def touch (e : DRIElements) : DRIElements := e.setPrimary e.primary

@[simp]
theorem primary_setPrimary (e : DRIElements β) (d : DriDevice β) :
    (e.setPrimary d).primary = d := by
  simp [primary, setPrimary, lookup_mapSet]

@[simp]
theorem primary_touch (e : DRIElements) : e.touch.primary = e.primary := primary_setPrimary _ _

/-- The CRTCs of all cards. -/
def crtcs (e : DRIElements β) : List (DrmCrtc β) := e.mDeviceList.flatMap (·.2.crtcList)

/-- The CRTCs of a card stand between those of others. -/
theorem exists_crtcs_eq (e : DRIElements β) (name : String) :
    ∃ pre post, e.crtcs = pre ++ ((e.mDeviceList.lookup name).getD {}).crtcList ++ post ∧
      ∀ d, (mapSet name d e.mDeviceList).flatMap (·.2.crtcList) = pre ++ d.crtcList ++ post := by
  obtain ⟨pre, post, hl, hset⟩ := exists_mapSet_eq name e.mDeviceList
  refine ⟨pre.flatMap (·.2.crtcList), post.flatMap (·.2.crtcList), ?_, fun d => ?_⟩
  · rw [crtcs]
    conv_lhs => rw [hl]
    cases e.mDeviceList.lookup name <;> simp
  · rw [hset d]
    simp

/-! ## Updates -/

/-- The mode `updateDevice` sets devices up for. -/
def confMode (e : DRIElements β) : Size :=
  if e.mConfiguredMode.w ≠ e.mInitialMode.w ∨ e.mConfiguredMode.h ≠ e.mInitialMode.h then
    -- not the configured mode: the two branches give the same size
    e.mInitialMode
  else
    e.mConfiguredMode

/-- Devices are always set up for the initial mode. -/
theorem confMode_eq (e : DRIElements β) : e.confMode = e.mInitialMode := by
  rw [confMode]
  split
  · rfl
  next heq =>
    rw [not_or, not_not, not_not] at heq
    ext
    exacts [heq.1, heq.2]

/-- `updateDevice`, with whether the callback is called. -/
def updateDevice (e : DRIElements β) (name : String) : Act (Bool × DRIElements β) :=
  match e.mDeviceList.lookup name with
  | some device => do
    let device ← device.setupDevice e.confMode
    pure (true, { e with mDeviceList := mapSet name device e.mDeviceList })
  | none => pure (false, e)

/-- The loop of `changeMode` over the connectors, counting in `dIdx`: it stops
    at a plugged connector counted as the display path. -/
def findDisplay (displayPath : UInt8) : UInt8 → List DrmConnector →
    Act (Option DrmConnector × List DrmConnector)
  | _, [] => pure (none, [])
  | dIdx, conn :: conns => do
    let (plugged, conn) ← conn.isPlugged
    if plugged && dIdx == displayPath then
      pure (some conn, conn :: conns)
    else
      let (found, conns) ← findDisplay displayPath (dIdx + 1) conns
      pure (found, conn :: conns)

/-- `changeMode`: 1 (`true`) on success, else 0 (`false`). The refresh rate is
    not used. -/
def changeMode (e : DRIElements) (width height : ℕ) (displayPath : UInt8) (_vRefresh : ℕ := 0) :
    Act (ℤ × DRIElements) := do
  let device := e.primary
  let (found, conns) ← findDisplay displayPath 0 device.connectorList
  -- where no display is found, a CRTC of id 0 is looked for
  let crtcId := (found.map (·.crtcId)).getD 0
  let (set, crtcList) ← .visitFirst (DrmCrtc.hasId crtcId)
    (fun crtc => do
      let ((ret, conns), crtc) ← setActiveMode device.drmModuleFd conns crtc width height
      pure ((ret, conns), if ret = 0 then { crtc with max := ⟨width, height⟩ } else crtc))
    device.crtcList
  match set with
  | none => pure (0, e.setPrimary { device with connectorList := conns })
  | some (ret, connectorList) =>
    let e := e.setPrimary { device with connectorList, crtcList }
    if ret = 0 then
      pure (1, { e with mConfiguredMode := ⟨width, height⟩ })
    else
      pure (0, e)

/-! ## The constructor -/

/-- The key `mDeviceList.begin()` points to. -/
def firstDevice (e : DRIElements) : Act (Option String) := fun k h =>
  -- the order of an `unordered_map` is that of its implementation
  let keys := e.mDeviceList.map Prod.fst
  .ok (keys[k.firstKey keys % keys.length]?, h)

/-- The constructor up to the callback of its `updateDevice`: the device that is
    set up, if any. -/
def startUp (defMode : Size) : Act (Option String × DRIElements) := do
  let e ← loadResources { mInitialMode := defMode, mConfiguredMode := defMode }
  match ← e.firstDevice with
  | none => pure (none, e)
  | some name => do
    let (_, e) ← e.updateDevice name
    pure (some name, e)

/-- The loop of the constructor that sets a mode on each CRTC. -/
def setActiveModes (d : DriDevice) : Act DriDevice := do
  let (crtcList, connectorList) ← .forEach
    (fun crtc conns => do
      let ((_, conns), crtc) ←
        setActiveMode d.drmModuleFd conns crtc crtc.max.w crtc.max.h
      pure (crtc, conns))
    d.crtcList d.connectorList
  pure { d with crtcList, connectorList }

/-- The constructor after the callback. -/
def finish (e : DRIElements) : Option String → Act DRIElements
  | none => pure e
  | some name => do
    let d ← setActiveModes ((e.mDeviceList.lookup name).getD {})
    pure { e with mPrimaryDev := name, mDeviceList := mapSet name d e.mDeviceList }

/-- The constructor. -/
def new (defMode : Size) : Act DRIElements := do
  let (device, e) ← startUp defMode
  e.finish device

/-! ## Lookups -/

/-- `getModeRange`: the least and the greatest size of a CRTC. -/
def getModeRange (e : DRIElements) (crtcId : ℕ) : Act (Option (Size × Size)) := do
  let (range, _) ← .visitFirst (DrmCrtc.hasId crtcId)
    (fun crtc => pure ((crtc.min, crtc.max), crtc)) e.primary.crtcList
  pure range

/-- A CRTC has a connector, and its bit is set in the mask. -/
def offers (crtc : DrmCrtc) (plane : Plane) : Bool :=
  crtc.connectors.length != 0 && plane.possibleCrtcs.testBit crtc.crtcIndex

/-- `getPlanes`: the planes of each CRTC with a connector, in turn. -/
def getPlanes (e : DRIElements) : List ℕ :=
  e.primary.crtcList.flatMap fun crtc =>
    if crtc.connectors.length ≠ 0 then
      (e.primary.planeList.filter (·.possibleCrtcs.testBit crtc.crtcIndex)).map Plane.planeId
    else
      []

/-- The body of the loop of `getSupportedNumConnector`. -/
def countPlugged (conn : DrmConnector) (ret : ℕ) : Act (DrmConnector × ℕ) := do
  let (plugged, conn) ← conn.isPlugged
  pure (conn, if plugged then ret + 1 else ret)

/-- `getSupportedNumConnector`: how many connectors are plugged. -/
def getSupportedNumConnector (e : DRIElements) : Act (ℕ × DRIElements) := do
  let device := e.primary
  let (connectorList, ret) ← .forEach countPlugged device.connectorList 0
  pure (ret, e.setPrimary { device with connectorList })

/-- `getSupportedModes`, without the sizes equal to the one before (`std::unique`):
    an index that names no connector reads beyond the end of the list, unless the
    list is empty. -/
def getSupportedModes (e : DRIElements) (connIndex : UInt8) : Except Fault (List Size) :=
  if e.primary.connectorList.length ≠ 0 then
    match e.primary.connectorList[connIndex.toNat]? with
    | some conn => .ok (conn.getSupportedModes.destutter (· ≠ ·))
    | none => .error .outOfBounds
  else
    .ok []

def getCrtcId (e : DRIElements) (planeId : ℕ) : Except Fault ℕ := e.primary.findCrtcOfPlane planeId

def getConnId (e : DRIElements) (planeId : ℕ) : Except Fault ℕ := e.primary.findConnector planeId

/-! ## Planes -/

/-- The loop of `setPlane` over the connectors: a request is made for the CRTC of
    the first one whose CRTC is in the list, and for none if there is none. -/
def setPlaneOn (crtcs : List DrmCrtc) (req : ℕ → SetPlane) : List DrmConnector → Act Bool
  | [] => pure true
  | conn :: conns => do
    let (crtcId, _) ← .visitFirst (DrmCrtc.hasId conn.crtcId)
      (fun crtc => do pure (← .lift crtc.crtcId, crtc)) crtcs
    match crtcId with
    | some crtcId => do
      let errno ← drmModeSetPlane (req crtcId)
      pure errno.isNone
    | none => setPlaneOn crtcs req conns

/-- `setPlane`: only the width and the height of the source are shifted. -/
def setPlane (e : DRIElements) (planeId fbId crtcX crtcY crtcW crtcH srcX srcY srcW srcH : ℕ) :
    Act (Bool × DRIElements) := do
  let device := e.primary
  let done ← setPlaneOn device.crtcList
    (fun crtcId => ⟨device.drmModuleFd, planeId, crtcId, fbId, crtcX, crtcY, crtcW, crtcH,
      srcX, srcY, u32 (srcW * 2 ^ 16), u32 (srcH * 2 ^ 16)⟩)
    device.connectorList
  pure (done, e.touch)

/-! ## Runs -/

/-- What changes the state: an update, a mode change, or a change from outside. -/
inductive Op
  | hotplug
  | updateDevice (name : String)
  | changeMode (width height : ℕ) (displayPath : UInt8) (vRefresh : ℕ)
  deriving DecidableEq, Repr

/-- An operation, with its result, 0 if it has none. -/
def run (e : DRIElements) : Op → Act (ℤ × DRIElements)
  | .hotplug => .call (fun _ _ => (0, e)) fun _ => .hotplug
  | .updateDevice name => do
    let (_, e) ← e.updateDevice name
    pure (0, e)
  | .changeMode width height displayPath vRefresh => e.changeMode width height displayPath vRefresh

/-- A step: a label is an operation with its result, a state comes with what
    happened so far. -/
def Step (k : Kernel) (s : DRIElements × History) (l : Op × ℤ) (s' : DRIElements × History) :
    Prop :=
  s.1.run l.1 k s.2 = .ok ((l.2, s'.1), s'.2)

end DRIElements

end ValRpi
