import ValRpi.Buffer
import ValRpi.Connector

/-!
# Devices

The parts of `src/val/driElements.h` and `src/val/driElements.cpp` that deal
with one card: its CRTCs with the framebuffer they scan out (`DrmCrtc`), and
the card (`DriDevice`) with its connectors, CRTCs and planes.

* `DriDevice.setupDevice` gives each plugged connector a CRTC;
* `setActiveMode` makes a framebuffer for a CRTC (`DrmCrtc.createScanoutFb`)
  and sets the mode;
* `DriDevice.findCrtcOfPlane` and `findConnector` look up where a plane goes.

Log messages are left out. Those that read `mCrtc->crtc_id` are why
`setActiveMode` reads it first.
-/

namespace ValRpi

/-- `DrmCrtc`. The set of connectors is in ascending order, without repetition. What
    stands for a `struct bo *` is a parameter. -/
structure DrmCrtc (β : Type := Bo) where
  mCrtc : Option Crtc
  connectors : List ℕ := []
  scanoutFbId : ℕ := 0
  crtcIndex : ℕ
  boHandle : Option β := none
  max : Size := ⟨0, 0⟩
  min : Size := ⟨0, 0⟩
  deriving DecidableEq, Repr

/-- `DEFAULT_PIXEL_FORMAT`. -/
def defaultPixelFormat : Format := .xrgb8888

namespace DrmCrtc

variable {β : Type}

/-- `mCrtc->crtc_id`. -/
def crtcId (c : DrmCrtc β) : Except Fault ℕ := (deref c.mCrtc).map Crtc.crtcId

/-- `mCrtc->crtc_id == id`. -/
def hasId (id : ℕ) (c : DrmCrtc β) : Except Fault Bool := c.crtcId.map (· == id)

/-- The framebuffer and the buffer that `createScanoutFb` gives up first. -/
def owned (c : DrmCrtc β) : Option β := if c.scanoutFbId ≠ 0 then c.boHandle else none

/-- The first part of `createScanoutFb`: the old framebuffer and buffer go. -/
def releaseScanoutFb (c : DrmCrtc) (fd : ℤ) : Act Unit :=
  match c.owned with
  | some bo => do
    drmModeRmFB fd c.scanoutFbId
    boDestroy bo
  | none => pure ()

/-- The rest of `createScanoutFb`: a new buffer and framebuffer are made. -/
def makeScanoutFb (c : DrmCrtc) (fd : ℤ) (width height : ℕ) : Act (ℤ × DrmCrtc) := do
  match ← boCreate fd defaultPixelFormat width height with
  | .error errno => pure (-errno, c)
  | .ok (bo, layout) =>
    match ← drmModeAddFB2
        ⟨fd, width, height, .xrgb8888, layout.handles, layout.pitches, layout.offsets⟩ with
    | .error errno =>
      -- the new buffer goes; `boHandle` still names the old one
      boDestroy bo
      pure (-(errno : ℕ), c)
    | .ok fbId => pure (0, { c with scanoutFbId := fbId, boHandle := some bo })

/-- `createScanoutFb`: 0, or a negative error. `boHandle` and `scanout_fbId` keep
    naming what is released until both new ones exist. -/
def createScanoutFb (c : DrmCrtc) (fd : ℤ) (width height : ℕ) : Act (ℤ × DrmCrtc) := do
  c.releaseScanoutFb fd
  c.makeScanoutFb fd width height

end DrmCrtc

/-- The loop of `setActiveMode` over the connectors of a CRTC: none where it
    returns, else the mode. Every connector is looked up and asked again. -/
def checkConnectors (name : String) : List ℕ → Option ModeInfo → List DrmConnector →
    Act (Option (Option ModeInfo) × List DrmConnector)
  | [], mode, conns => pure (some mode, conns)
  | connId :: ids, mode, conns => do
    let (found, conns) ← .visitFirst (fun c => .ok (c.connectorId == connId))
      (fun c => do let (plugged, c) ← c.isPlugged; pure ((plugged, c), c)) conns
    match found with
    | some (true, conn) =>
      if conn.isModeSupported name then
        checkConnectors name ids (if mode.isNone then conn.getMode name else mode) conns
      else
        pure (none, conns)
    -- a connector that is not known or not plugged is ignored
    | _ => checkConnectors name ids mode conns

/-- `DriDevice::setActiveMode`: 0, or -1. The result of `drmModeSetCrtc` is only
    logged, and `vRefresh` is not used. -/
def setActiveMode (fd : ℤ) (conns : List DrmConnector) (crtc : DrmCrtc) (width height : ℕ)
    (_vRefresh : ℕ := 0) : Act ((ℤ × List DrmConnector) × DrmCrtc) := do
  let crtcId ← .lift crtc.crtcId
  if crtc.connectors.length = 0 then
    pure ((-1, conns), crtc)
  else
    let (mode, conns) ← checkConnectors (modeName width height) crtc.connectors none conns
    match mode.join with
    | none => pure ((-1, conns), crtc)
    | some mode => do
      let (ret, crtc) ← crtc.createScanoutFb fd width height
      if ret ≠ 0 then
        pure ((-1, conns), crtc)
      else
        -- a mode set that is refused is not reported either
        let _ ← drmModeSetCrtc ⟨fd, crtcId, crtc.scanoutFbId, 0, 0, crtc.connectors, mode⟩
        pure ((0, conns), crtc)

/-- `DriDevice`. -/
structure DriDevice (β : Type := Bo) where
  deviceName : String := ""
  drmModuleFd : ℤ := -1
  hasDumbBuffChecked : Bool := false
  connectorList : List DrmConnector := []
  encoderList : List (Option Encoder) := []
  crtcList : List (DrmCrtc β) := []
  planeList : List Plane := []
  deriving DecidableEq, Repr

/-! ## Setup -/

/-- The scan of `findCrtc` over the CRTCs of a card, from index `j`, for one
    encoder: it stops at the first CRTC the encoder can drive whose id is not
    negative as a signed number. -/
def scanCrtcs (possibleCrtcs : ℕ) : ℕ → List ℕ → ℕ → ℕ
  | _, [], crtc => crtc
  | j, id :: ids, crtc =>
    if possibleCrtcs.testBit j then
      if id < 2 ^ 31 then id else scanCrtcs possibleCrtcs (j + 1) ids id
    else
      scanCrtcs possibleCrtcs (j + 1) ids crtc

/-- The scan of `findCrtc` over the encoders of a connector. What an encoder
    finds replaces what those before it found. -/
def scanEncoders (fd : ℤ) (res : Option Resources) : List ℕ → ℕ → Act ℕ
  | [], crtc => pure crtc
  | id :: ids, crtc => do
    match ← drmModeGetEncoder fd id with
    | none => scanEncoders fd res ids crtc
    | some enc => do
      let res' ← .lift (deref res)
      scanEncoders fd res ids (scanCrtcs enc.possibleCrtcs 0 res'.crtcs crtc)

/-- The current encoder of a connector, as `findCrtc` asks for it. -/
def currentEncoder (fd : ℤ) (conn : DrmConnector) : Act (Option Encoder) :=
  if conn.mConnectorPtr.encoderId ≠ 0 then
    drmModeGetEncoder fd conn.mConnectorPtr.encoderId
  else
    pure none

/-- `findCrtc(DrmConnector &)`: the CRTC of the current encoder, if there is one,
    else one that an encoder can drive. -/
def findCrtc (fd : ℤ) (conn : DrmConnector) : Act ℕ := do
  match ← currentEncoder fd conn with
  -- also where it is 0: there is no search then
  | some enc => pure enc.crtcId
  | none => do
    let res ← drmModeGetResources fd
    scanEncoders fd res conn.mConnectorPtr.encoders 0

/-- The mode of a CRTC: that of the connector where it is smaller, in either
    dimension, than the configured one. -/
def clampMode (mode : ModeInfo) (confMode : Size) : Size :=
  if (mode.hdisplay < confMode.w ∨ mode.vdisplay < confMode.h) ∧
      mode.hdisplay ≠ 0 ∧ mode.vdisplay ≠ 0 then
    mode.size
  else
    confMode

variable {β : Type}

/-- What `setupDevice` writes to the CRTC given to a connector. The set of its
    connectors is cleared first. -/
def DrmCrtc.assign (c : DrmCrtc β) (connId : ℕ) (confMode : Size) (min max : ModeInfo) :
    DrmCrtc β :=
  { c with
    connectors := (if c.connectors.length ≠ 0 then [] else c.connectors).insert connId
    max := clampMode max confMode
    min := min.size }

/-- The same, for a range of modes that may be null pointers. -/
def DrmCrtc.assignRange (connId : ℕ) (confMode : Size) (range : Option (ModeInfo × ModeInfo))
    (c : DrmCrtc β) : Act (Unit × DrmCrtc β) := do
  let (min, max) ← .lift (deref range)
  pure ((), c.assign connId confMode min max)

/-- The body of the loop of `setupDevice`, on one connector and the CRTCs. -/
def setupConnector (fd : ℤ) (confMode : Size) (conn : DrmConnector)
    (crtcs : List (DrmCrtc β)) : Act (DrmConnector × List (DrmCrtc β)) := do
  let connId := conn.connectorId
  let (plugged, conn) ← conn.isPlugged
  if !plugged then
    -- a CRTC that it was given before goes on naming it
    pure (conn, crtcs)
  else
    let crtcId ← findCrtc fd conn
    if crtcId = 0 then
      pure (conn, crtcs)
    else
      let conn := conn.setCrtcId crtcId
      let (range, conn) ← conn.getModeRange
      let (_, crtcs) ← .visitFirst (DrmCrtc.hasId crtcId)
        (DrmCrtc.assignRange connId confMode range) crtcs
      pure (conn, crtcs)

namespace DriDevice

/-- `hasDumbBuff`. -/
def hasDumbBuff (d : DriDevice β) : Act Unit := do
  if ← drmGetCapDumbBuffer d.drmModuleFd then
    pure ()
  else
    .fault (.fatalException "drm device  does not support dumb buffers!\n")

/-- The check of `setupDevice`, made once. -/
def checkDumbBuff (d : DriDevice β) : Act Unit :=
  if d.hasDumbBuffChecked then pure () else d.hasDumbBuff

/-- `setupDevice`, whose result is always 0. -/
def setupDevice (d : DriDevice β) (confMode : Size) : Act (DriDevice β) := do
  d.checkDumbBuff
  let (connectorList, crtcList) ←
    .forEach (setupConnector d.drmModuleFd confMode) d.connectorList d.crtcList
  pure { d with hasDumbBuffChecked := true, connectorList, crtcList }

/-! ## Planes -/

/-- `ffs(mask) - 1`, as an unsigned number: the index of the lowest bit of a
    mask of 32 bits. -/
def lowestBit (mask : ℕ) : ℕ := ((List.range 32).find? mask.testBit).getD (2 ^ 32 - 1)

/-- `findCrtc(planeId)`: the first CRTC of the mask of the plane. -/
def findCrtcOfPlane (d : DriDevice) (planeId : ℕ) : Except Fault ℕ :=
  let crtcIndex := match d.planeList.find? (·.planeId == planeId) with
    | some plane => lowestBit plane.possibleCrtcs
    | none => 0
  match d.crtcList.find? (·.crtcIndex == crtcIndex) with
  | some crtc => crtc.crtcId
  | none => .ok 0

/-- `findConnector(planeId)`: the first connector with that CRTC. -/
def findConnector (d : DriDevice) (planeId : ℕ) : Except Fault ℕ := do
  let crtcId ← d.findCrtcOfPlane planeId
  if crtcId ≠ 0 then
    pure (((d.connectorList.find? (·.crtcId == crtcId)).map (·.connectorId)).getD 0)
  else
    pure 0

end DriDevice

end ValRpi
