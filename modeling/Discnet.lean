import Discnet.Lib.Word
import Discnet.Lib.Codec
import Discnet.Lib.Walk
import Discnet.Lib.Tracking
import Discnet.Lib.Framing
import Discnet.Lib.GrowVector
import Discnet.Lib.Entries
import Discnet.Lib.Selection
import Discnet.Lib.Stretch
import Discnet.Lib.Slots
import Discnet.Lib.Run
import Discnet.Lib.Heartbeat
import Discnet.Lib.Simulation
import Discnet.Lib.Upsert
import Discnet.Lib.Columns
import Discnet.Lib.Pointers
import Discnet.Lib.Numbering
import Discnet.Lib.Json
import Discnet.Lib.JsonText
import Discnet.Typedefs
import Discnet.Network.Buffer
import Discnet.Network.Messages
import Discnet.Network.WireFormat
import Discnet.Network.RoundTrip
import Discnet.Network.PacketImage
import Discnet.Network.MessageBodies
import Discnet.Network.Shortage
import Discnet.Network.DataStream
import Discnet.Network.Reassembly
import Discnet.Network.Passes
import Discnet.Network.PacketFraming
import Discnet.Network.DataHandler
import Discnet.Network.NetworkHandler
import Discnet.Network.UdpClient
import Discnet.Network.Delivery
import Discnet.Network.Arrivals
import Discnet.Network.Recovery
import Discnet.Network.Validation
import Discnet.Network.Progress
import Discnet.Network.BufferCalls
import Discnet.Network.RawBuffer
import Discnet.Network.ReadBuffer
import Discnet.Network.LengthFields
import Discnet.Network.AppendedPackets
import Discnet.AdapterManager
import Discnet.HexString
import Discnet.AdapterReplay
import Discnet.Network.ClientLaws
import Discnet.Network.Demultiplexing
import Discnet.Route
import Discnet.RouteManager
import Discnet.RouteHistory
import Discnet.RouteSignals
import Discnet.RouteMetrics
import Discnet.PersistentRoutes
import Discnet.DiscoveryOrder
import Discnet.TransmissionHandler
import Discnet.Network.ValidPackets
import Discnet.PackingBudget
import Discnet.RouteSelection
import Discnet.RouteLength
import Discnet.Clock
import Discnet.Cluster
import Discnet.LinuxAdapters
import Discnet.Readvertisement
import Discnet.AdapterPolling
import Discnet.Provenance
import Discnet.HopCount
import Discnet.Wire
import Discnet.Freshness
import Discnet.Beats
import Discnet.Liveness
import Discnet.Sim.NetworkTrafficManager
import Discnet.Sim.LinkedNetwork
import Discnet.Sim.LinkDelivery
import Discnet.Sim.Simulator
import Discnet.Sim.Isolation
import Discnet.Sim.NetworkSetup
import Discnet.Sim.SimulatedLinks
import Discnet.Sim.Scene
import Discnet.Sim.SceneEditor
import Discnet.Sim.SceneMirror
import Discnet.Sim.SceneFile
import Discnet.Sim.SavedScene
import Discnet.Sim.SceneReload
import Discnet.Sim.RouteModel
import Discnet.Convergence
