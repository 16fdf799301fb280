import BrThermal.Effect.Prog
import BrThermal.Effect.Threads
import BrThermal.Effect.Window
import BrThermal.Effect.Stops
import BrThermal.Effect.Holds
import BrThermal.Codec.PackBits
import BrThermal.Codec.CommandSet
import BrThermal.Codec.Bits
import BrThermal.Util.CompressLine
import BrThermal.Util.HeadLine
import BrThermal.Util.HeadDots
import BrThermal.Util.HeadBounds
import BrThermal.Util.Units
import BrThermal.Raster.Stream
import BrThermal.Search.FirstFit
import BrThermal.Drivers.Status
import BrThermal.Pappl.Call
import BrThermal.Pappl.World
import BrThermal.Pappl.View
import BrThermal.Pappl.Ledger
import BrThermal.Pappl.Hearing
import BrThermal.Drivers.Commands
import BrThermal.Drivers.Common
import BrThermal.Drivers.Td2000.Types
import BrThermal.Drivers.Td2000.Media
import BrThermal.Drivers.Td2000.Callbacks
import BrThermal.Drivers.Pte550w.Types
import BrThermal.Drivers.Pte550w.Callbacks
import BrThermal.Drivers.Driver
import BrThermal.Drivers.Footprint
import BrThermal.Drivers.Device
import BrThermal.Drivers.Written
import BrThermal.Drivers.Session
import BrThermal.Drivers.Bracket
import BrThermal.Drivers.Handles
import BrThermal.Drivers.StartJob
import BrThermal.Drivers.LineOnce
import BrThermal.Drivers.LineError
import BrThermal.Drivers.LineHold
import BrThermal.Drivers.StatusKept
import BrThermal.Drivers.StatusPoll
import BrThermal.Drivers.ErrorFlags
import BrThermal.Drivers.Isolation
import BrThermal.Drivers.RequestWindow
import BrThermal.Drivers.Sent
import BrThermal.Drivers.PrintJob
import BrThermal.Drivers.Wire
import BrThermal.Drivers.JobStream
import BrThermal.Drivers.Pagination
import BrThermal.Drivers.DriverData
import BrThermal.Drivers.Td2000.MediaChoice
import BrThermal.Drivers.Td2000.PageMedia
import BrThermal.Server.Selection
import BrThermal.Server.UriFallback
import BrThermal.Util.PackedLength
import BrThermal.Drivers.RasterCount
import BrThermal.Drivers.Attempt
import BrThermal.Codec.Truncation
import BrThermal.Drivers.JobDelivery
import BrThermal.Raster.Cancel
import BrThermal.Drivers.Recovery
import BrThermal.Drivers.Overlap
import BrThermal.Drivers.Connections
import BrThermal.Drivers.Progress
import BrThermal.Drivers.Success
import BrThermal.Drivers.Queue
import BrThermal.Drivers.Service
import BrThermal.Server.Offer
import BrThermal.Drivers.WorstCase
