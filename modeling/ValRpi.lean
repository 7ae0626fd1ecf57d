import ValRpi.Lib.Lists
import ValRpi.Lib.Ledger
import ValRpi.Lib.Prog
import ValRpi.Lib.Run
import ValRpi.Lib.Blocks
import ValRpi.Kernel
import ValRpi.Buffer
import ValRpi.Connector
import ValRpi.Device
import ValRpi.DriElements
import ValRpi.Video
import ValRpi.Frame
import ValRpi.Load
import ValRpi.ModeChange
import ValRpi.Modes
import ValRpi.Planes
import ValRpi.Resolution
import ValRpi.Windows
import ValRpi.Setup
import ValRpi.NullReads
import ValRpi.Stable
import ValRpi.Effects
import ValRpi.Ownership
import ValRpi.Leaks
import ValRpi.ModeSets
import ValRpi.Reach
import ValRpi.Hotplug
import ValRpi.ModeRanges
import ValRpi.Routes
import ValRpi.Assignment
import ValRpi.Encoders
import ValRpi.SetPlanes
import ValRpi.Displays
import ValRpi.Rates
import ValRpi.Cards
import ValRpi.Inventory
import ValRpi.PlaneTypes
import ValRpi.Readings
import ValRpi.Choice
import ValRpi.BufferSizes
import ValRpi.Layouts
import ValRpi.Renewal
import ValRpi.Limits
import ValRpi.Capability
import ValRpi.Connections
import ValRpi.Scaling
import ValRpi.Polling
import ValRpi.Lookups
import ValRpi.Instance
import ValRpi.Edid
import ValRpi.Copies
import ValRpi.Lib.Stores
import ValRpi.Lib.BitFields
import ValRpi.Lib.Grids
import ValRpi.Lib.Leases
import ValRpi.Lib.Slots
import ValRpi.Formats
import ValRpi.Mappings
import ValRpi.Patterns
import ValRpi.Images
import ValRpi.Tiles
import ValRpi.Bars
import ValRpi.Fills
import ValRpi.Footprints
import ValRpi.Scanouts
import ValRpi.MappingRuns
import ValRpi.Moves
import ValRpi.Screens
import ValRpi.Pointers
import ValRpi.PointerRuns
import ValRpi.Lib.Heaps
