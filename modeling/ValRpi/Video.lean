import ValRpi.DriElements

/-!
# The video output

`val_video_impl` of `src/val/val_video_impl.cpp`: windows (`ValPlane`), each
with a sink (`SinkInfo`) that says which plane, CRTC and connector it goes to.

* `ValVideoImpl.new` is the constructor: it reserves a plane of the hardware
  for each window, as long as there are any;
* `setDisplayResolution` asks for a mode;
* `ValVideoImpl.Op` are the operations of the object, and `ValVideoImpl.Reachable`
  says which states they lead to.

The part of `DeviceCapability` that the object reads is a parameter, which
`DeviceCapability.new` reads from a file.
-/

namespace ValRpi

/-- `DeviceCapability`: the limits of the modes, and the names of the windows, a
    `std::set`. -/
structure DeviceCapability where
  mMaxResolution : Size
  mMinResolution : Size
  mPlaneNames : List String
  sorted : mPlaneNames.Pairwise (· < ·)

/-- Two windows, for modes up to Full HD. -/
def DeviceCapability.fullHd : DeviceCapability where
  mMaxResolution := ⟨1920, 1080⟩
  mMinResolution := ⟨320, 240⟩
  mPlaneNames := ["MAIN", "SUB0"]
  sorted := by decide

/-- `SinkInfo`. -/
structure SinkInfo where
  planeId : ℕ
  crtcId : ℕ
  connId : ℕ
  connected : Bool := false
  deriving DecidableEq, Repr

/-- `VAL_PLANE_T`. -/
structure ValPlane where
  wId : ℕ
  planeName : String
  minSizeT : Size
  maxSizeT : Size
  deriving DecidableEq, Repr

/-- `VAL_VIDEO_RECT_T`. -/
structure Rect where
  x : ℕ
  y : ℕ
  w : ℕ
  h : ℕ
  deriving DecidableEq, Repr

/-- `val_video_impl`. `videoSinks` is an unordered map. -/
structure ValVideoImpl where
  logicalPlanes : List ValPlane := []
  physicalPlanes : List ℕ := []
  videoSinks : List (ℕ × SinkInfo) := []
  mDeviceCapability : DeviceCapability
  driElements : DRIElements

/-- `SET_SCALING_T`. -/
def setScalingT : ℕ := 0xff03

/-- The controls of `getParam`. -/
inductive Control
  | drmResources
  | numConnector
  | other (name : String)
  deriving DecidableEq, Repr

/-- What `getParam` returns: the keys and values of an object. -/
abbrev Reply := List (String × ℤ)

namespace ValVideoImpl

variable (v : ValVideoImpl)

/-! ## Windows -/

/-- The loop of `updatePlanes`: a window takes the greatest size of its CRTC
    where the limits allow it, in one of the dimensions. -/
def updatePlane (p : ValPlane) : Act ValPlane := do
  let sink ← .lift (deref (v.videoSinks.lookup p.wId))
  match ← v.driElements.getModeRange sink.crtcId with
  | none => pure p
  | some (_, max) =>
    if v.mDeviceCapability.mMaxResolution.h ≥ max.h ∨
        v.mDeviceCapability.mMaxResolution.w ≥ max.w then
      pure { p with maxSizeT := max }
    else
      pure p

/-- `updatePlanes`, the callback. -/
def updatePlanes : Act ValVideoImpl := do
  let (logicalPlanes, _) ← .forEach (fun p _ => do pure (← v.updatePlane p, ())) v.logicalPlanes ()
  pure { v with
    logicalPlanes
    driElements := if v.logicalPlanes.length = 0 then v.driElements else v.driElements.touch }

/-- The windows the constructor makes, numbered from 0. -/
def makePlanes (caps : DeviceCapability) : List ValPlane :=
  caps.mPlaneNames.zipIdx.map fun p => ⟨p.2, p.1, caps.mMinResolution, caps.mMaxResolution⟩

/-- The loop of the constructor that gives the windows a sink each, in turn: for
    the next plane of the hardware, or a dummy after the last one. -/
def makeSinks (e : DRIElements) :
    List ValPlane → List ℕ → Except Fault (List ℕ × List (ℕ × SinkInfo))
  | [], _ => .ok ([], [])
  | plane :: planes, [] => do
    let (physical, sinks) ← makeSinks e planes []
    .ok (physical, (plane.wId, ⟨0, 0, 0, false⟩) :: sinks)
  | plane :: planes, id :: ids => do
    let crtcId ← e.getCrtcId id
    let connId ← e.getConnId id
    let (physical, sinks) ← makeSinks e planes ids
    .ok (id :: physical, (plane.wId, ⟨id, crtcId, connId, false⟩) :: sinks)

/-- The constructor after that of `driElements`. -/
def init (caps : DeviceCapability) (e : DRIElements) : Act ValVideoImpl := do
  let logicalPlanes := makePlanes caps
  let e := e.touch
  let (physicalPlanes, videoSinks) ← .lift (makeSinks e logicalPlanes e.getPlanes)
  updatePlanes
    { logicalPlanes, physicalPlanes, videoSinks, mDeviceCapability := caps, driElements := e }

/-- The constructor. The callback of `driElements` finds no windows yet. -/
def new (caps : DeviceCapability) : Act ValVideoImpl := do
  let (device, e) ← DRIElements.startUp caps.mMaxResolution
  let e ← match device with
    | none => pure e
    | some _ => do
      let half ← updatePlanes { mDeviceCapability := caps, driElements := e }
      pure half.driElements
  let e ← e.finish device
  init caps e

/-- `driElements.updateDevice` with its callback. -/
def updateDevice (name : String) : Act ValVideoImpl := do
  let (called, e) ← v.driElements.updateDevice name
  let v := { v with driElements := e }
  if called then v.updatePlanes else pure v

/-! ## Sinks -/

/-- `getVideoPlanes`. -/
def getVideoPlanes : List ValPlane := v.logicalPlanes

def isValidSink (wId : ℕ) : Bool := (v.videoSinks.lookup wId).isSome

def isSinkConnected (wId : ℕ) : Bool :=
  match v.videoSinks.lookup wId with
  | some sink => sink.connected
  | none => false

/-- The sink of a window is replaced. -/
def setSink (wId : ℕ) (sink : SinkInfo) : ValVideoImpl :=
  { v with videoSinks := v.videoSinks.map fun p => if p.1 = wId then (wId, sink) else p }

/-- `connect`, with the variable of the caller that `planeId` points to. -/
def connect (wId planeId : ℕ) : Bool × ℕ × ValVideoImpl :=
  match v.videoSinks.lookup wId with
  | none => (false, planeId, v)
  | some sink =>
    if sink.connected then (true, planeId, v)
    else (true, sink.planeId, v.setSink wId { sink with connected := true })

def disconnect (wId : ℕ) : Bool × ValVideoImpl :=
  match v.videoSinks.lookup wId with
  | none => (false, v)
  | some sink =>
    if sink.connected then (true, v.setSink wId { sink with connected := false }) else (false, v)

/-- `applyScaling`: a failure to set the property is only logged. -/
def applyScaling (wId : ℕ) (inputRegion outputRegion : Rect) : Act (Bool × ValVideoImpl) :=
  match v.videoSinks.lookup wId with
  | none => pure (false, v)
  | some sink =>
    if !sink.connected then pure (false, v)
    else if 1 < outputRegion.h ∧ outputRegion.h < 12 then pure (false, v)
    else do
      let scaleParam : ScaleParam :=
        ⟨outputRegion.x, outputRegion.y, outputRegion.w, outputRegion.h,
          inputRegion.x, inputRegion.y, inputRegion.h, inputRegion.w⟩
      let _ ← drmModeObjectSetProperty
        ⟨v.driElements.primary.drmModuleFd, sink.planeId, setScalingT, scaleParam⟩
      pure (true, { v with driElements := v.driElements.touch })

/-! ## Modes -/

/-- `isValidMode`. -/
def isValidMode (win : Size) : Bool :=
  decide (win.w ≤ v.mDeviceCapability.mMaxResolution.w ∧
    win.h ≤ v.mDeviceCapability.mMaxResolution.h ∧
    v.mDeviceCapability.mMinResolution.w ≤ win.w ∧ v.mDeviceCapability.mMinResolution.h ≤ win.h)

/-- `setDisplayResolution`: a result of `changeMode` other than 0 is taken for a
    failure. The number of displays is kept in 16 bits. -/
def setDisplayResolution (win : Size) (displayPath : UInt8) : Act (Bool × ValVideoImpl) :=
  if !v.isValidMode win then
    pure (false, v)
  else do
    let (numDisplay, e) ← v.driElements.getSupportedNumConnector
    if numDisplay % 2 ^ 16 ≤ displayPath.toNat then
      pure (false, { v with driElements := e })
    else
      let (ret, e) ← e.changeMode win.w win.h displayPath
      -- `changeMode` returns true, that is 1, on success
      pure (if ret ≠ 0 then false else true, { v with driElements := e })

/-- `getSupportedResolutions`. -/
def getSupportedResolutions (dispIndex : UInt8) : Except Fault (List Size) := do
  let modes ← v.driElements.getSupportedModes dispIndex
  pure (modes.filter v.isValidMode)

/-- `getParam`; `wId` is the value of the key of that name, if there is one. -/
def getParam (control : Control) (wId : Option ℤ) : Act (Reply × ValVideoImpl) :=
  match control with
  | .drmResources =>
    match wId with
    | none => pure ([("returnValue", 0)], v)
    | some wId =>
      match v.videoSinks.lookup (wId % 2 ^ 32).toNat with
      | some sink => pure ([("returnValue", 1), ("planeId", sink.planeId), ("crtcId", sink.crtcId),
          ("connId", sink.connId)], v)
      | none => pure ([("returnValue", 0)], v)
  | .numConnector => do
    let (numConnector, e) ← v.driElements.getSupportedNumConnector
    let v := { v with driElements := e }
    if numConnector > 0 then
      pure ([("returnValue", 1), ("numConnector", numConnector)], v)
    else
      pure ([("returnValue", 0)], v)
  | .other _ => pure ([("returnValue", 0)], v)

/-! ## Runs -/

/-- What happens to the object: its operations, and a change from outside. -/
inductive Op
  | hotplug
  | updateDevice (name : String)
  | setDisplayResolution (win : Size) (displayPath : UInt8)
  | getSupportedResolutions (dispIndex : UInt8)
  | connect (wId planeId : ℕ)
  | disconnect (wId : ℕ)
  | applyScaling (wId : ℕ) (inputRegion outputRegion : Rect)
  | getParam (control : Control) (wId : Option ℤ)
  | getVideoPlanes

/-- The state after an operation, its result left out. -/
def run : Op → Act ValVideoImpl
  | .hotplug => .call (fun _ _ => v) fun _ => .hotplug
  | .updateDevice name => v.updateDevice name
  | .setDisplayResolution win displayPath => do
    let (_, v) ← v.setDisplayResolution win displayPath
    pure v
  | .getSupportedResolutions dispIndex => do
    let _ ← .lift (v.getSupportedResolutions dispIndex)
    pure { v with driElements := v.driElements.touch }
  | .connect wId planeId => pure (v.connect wId planeId).2.2
  | .disconnect wId => pure (v.disconnect wId).2
  | .applyScaling wId inputRegion outputRegion => do
    let (_, v) ← v.applyScaling wId inputRegion outputRegion
    pure v
  | .getParam control wId => do
    let (_, v) ← v.getParam control wId
    pure v
  | .getVideoPlanes => pure v

/-- An operation takes a state, with what happened so far, to the next one. -/
def Step (k : Kernel) (s : ValVideoImpl × History) (op : Op) (s' : ValVideoImpl × History) : Prop :=
  s.1.run op k s.2 = .ok s'

/-- The states reached from the constructor. -/
def Reachable (k : Kernel) (caps : DeviceCapability) (s : ValVideoImpl × History) : Prop :=
  ∃ s₀ ops, new caps k [] = .ok s₀ ∧ Run (Step k) s₀ ops s

end ValVideoImpl

end ValRpi
