import ValRpi.Kernel

/-!
# Connectors

`src/val/connector.cpp`: `DrmConnector`, a connector of a card with what the
kernel last reported about it. Every `isPlugged` asks the kernel again, and the
other functions read what it answered.

`mConnectorPtr` is the structure it points to: the constructor throws on a null
pointer, and `isPlugged` reads through the pointer it has just been given.
-/

namespace ValRpi

/-- `DrmConnector`. -/
structure DrmConnector where
  mConnectorPtr : Connector
  mDrmModulefd : ℤ
  mName : String
  crtcId : ℕ := 0
  deriving DecidableEq, Repr

/-- `connector_type_names` of `src/val/utils.cpp`, by the values of
    `DRM_MODE_CONNECTOR_*`. -/
def connectorTypeNames : List (ℕ × String) :=
  [(0, "unknown"), (1, "VGA"), (2, "DVI-I"), (3, "DVI-D"), (4, "DVI-A"), (5, "composite"),
    (6, "s-video"), (7, "LVDS"), (8, "component"), (9, "9-pin DIN"), (10, "DP"), (11, "HDMI-A"),
    (12, "HDMI-B"), (13, "TV"), (14, "eDP"), (15, "Virtual"), (16, "DSI"), (17, "DPI")]

/-- `util_lookup_connector_type_name`. -/
def utilLookupConnectorTypeName (type : ℕ) : Option String := connectorTypeNames.lookup type

/-- Connected, with at least one mode. -/
def Connector.plugged (c : Connector) : Bool := c.connection == .connected && c.modes.length != 0

namespace DrmConnector

def connectorId (c : DrmConnector) : ℕ := c.mConnectorPtr.connectorId

/-- The constructor: it throws on a null pointer, and a type without a name is a
    string built from a null pointer. -/
def new (drmModulefd : ℤ) (pConnector : Option Connector) : Except Fault DrmConnector :=
  match pConnector with
  | none => .error (.fatalException "Invalid connector ")
  | some p =>
    if drmModulefd ≤ 0 then .error (.fatalException "Invalid connector ")
    else match utilLookupConnectorTypeName p.connectorType with
      | none => .error .nullDeref
      | some name => .ok { mConnectorPtr := p, mDrmModulefd := drmModulefd, mName := name }

def setCrtcId (c : DrmConnector) (id : ℕ) : DrmConnector := { c with crtcId := id }

/-- `isPlugged`, with the connector holding the new answer. -/
def isPlugged (c : DrmConnector) : Act (Bool × DrmConnector) := do
  let p ← drmModeGetConnector c.mDrmModulefd c.connectorId
  let p ← .lift (deref p)
  pure (p.plugged, { c with mConnectorPtr := p })

/-- The last and the first entry of a list of modes, taken as its least and
    greatest ones. -/
def modeRange (modes : List ModeInfo) : Option (ModeInfo × ModeInfo) :=
  modes.getLast?.bind fun min => modes.head?.map fun max => (min, max)

/-- `getModeRange`: `min` and `max`, if the connector is plugged, and so has modes. -/
def getModeRange (c : DrmConnector) : Act (Option (ModeInfo × ModeInfo) × DrmConnector) := do
  let (plugged, c) ← c.isPlugged
  pure (if plugged then modeRange c.mConnectorPtr.modes else none, c)

/-- The modes that `getMode` and `isModeSupported` look for. -/
def isMode (name : String) (vRefresh : ℕ) (m : ModeInfo) : Bool :=
  name == m.name && (vRefresh == 0 || m.vrefresh == vRefresh)

def getMode (c : DrmConnector) (name : String) (vRefresh : ℕ := 0) : Option ModeInfo :=
  c.mConnectorPtr.modes.find? (isMode name vRefresh)

def isModeSupported (c : DrmConnector) (name : String) (vRefresh : ℕ := 0) : Bool :=
  c.mConnectorPtr.modes.any (isMode name vRefresh)

def getSupportedModes (c : DrmConnector) : List Size := c.mConnectorPtr.modes.map ModeInfo.size

end DrmConnector

end ValRpi
