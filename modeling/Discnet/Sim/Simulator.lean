import Discnet.Sim.LinkDelivery
import Discnet.Wire

/-!
# The simulator

The simulator runs nodes whose sockets belong to the simulated network. A
node gets its adapters from a fetcher that the user fills. When it makes a
client for one, the traffic manager learns of it, and what the client writes
reaches the clients of the other nodes on its router at once.
-/

namespace Discnet

namespace Network

/-- The bytes go to the client that was made with the info. -/
def NetworkClient.receiveBytes (info : UdpInfo) (data : List Byte) (sender : Address)
    (client : NetworkClient) : NetworkClient :=
  if client.info = info then client.handleRead data sender else client

def AdapterInit.receiveBytes (info : UdpInfo) (data : List Byte) (sender : Address) :
    AdapterInit → AdapterInit
  | .pending client => .pending (client.receiveBytes info data sender)
  | .ready (.ok client) => .ready (.ok (client.receiveBytes info data sender))
  | init => init

namespace NetworkHandler

def receiveBytes (info : UdpInfo) (data : List Byte) (sender : Address) (h : NetworkHandler) :
    NetworkHandler :=
  { h with
    clients := h.clients.map (·.receiveBytes info data sender)
    initList := h.initList.map (·.receiveBytes info data sender) }

/-- The clients that an event made, if the handler was the other one before. -/
def created (before h : NetworkHandler) : List NetworkClient :=
  (h.initList.drop before.initList.length).filterMap AdapterInit.starting?

end NetworkHandler

end Network

namespace Sim

open Lib Network Network.Messages Std

-- ---------------------------------------------------------------------------
-- Adapters
-- ---------------------------------------------------------------------------

structure SimulatorAdapterEntry where
  identifier : AdapterIdentifier
  adapter : Adapter
  deriving DecidableEq, Repr

/-- The front of its addresses, if there is one. -/
def SimulatorAdapterEntry.address? (entry : SimulatorAdapterEntry) : Option Address :=
  (entry.adapter.addressList.map Prod.fst).head?

/-- The first adapter whose first address it is. There is no result where the
front of an empty list would be read on the way. -/
def findIdentifier (address : Address) : List SimulatorAdapterEntry → Option AdapterIdentifier
  | [] => some 0xffffffff
  | entry :: rest => do
    let front ← entry.address?
    if front = address then return entry.identifier else findIdentifier address rest

structure SimulatorAdapterFetcher where
  entries : List SimulatorAdapterEntry := []
  deriving DecidableEq, Repr

namespace SimulatorAdapterFetcher

def addAdapter (identifier : AdapterIdentifier) (adapter : Adapter)
    (f : SimulatorAdapterFetcher) : SimulatorAdapterFetcher :=
  ⟨f.entries ++ [⟨identifier, adapter⟩]⟩

def removeAdapter (identifier : AdapterIdentifier) (f : SimulatorAdapterFetcher) :
    SimulatorAdapterFetcher :=
  ⟨f.entries.filter (·.identifier ≠ identifier)⟩

def getAdapters (f : SimulatorAdapterFetcher) : List Adapter :=
  f.entries.map SimulatorAdapterEntry.adapter

def getIdentifier (address : Address) (f : SimulatorAdapterFetcher) :
    Option AdapterIdentifier :=
  findIdentifier address f.entries

end SimulatorAdapterFetcher

-- ---------------------------------------------------------------------------
-- The nodes and their network
-- ---------------------------------------------------------------------------

structure SimulatedNode where
  adapterFetcher : SimulatorAdapterFetcher := {}
  components : ClusterNode

namespace SimulatedNode

def new (configuration : Configuration) : SimulatedNode where
  components := { adapterManager := ⟨∅⟩, networkHandler := { configuration } }

def withHandler (handler : NetworkHandler) (node : SimulatedNode) : SimulatedNode :=
  { node with components := { node.components with networkHandler := handler } }

end SimulatedNode

inductive Happening
  | called (call : TrafficCall)
  | multicast (client : SimulatorUdpClient) (data : List Byte)
  | raised (node : NodeIdentifier) (event : NetworkEvent)
  deriving DecidableEq, Repr

/-- The history is what happened so far. -/
structure Simulator where
  nodes : TreeMap NodeIdentifier SimulatedNode := ∅
  trafficManager : NetworkTrafficManager := {}
  history : List Happening := []

namespace Simulator

def log (happenings : List Happening) (s : Simulator) : Simulator :=
  { s with history := s.history ++ happenings }

def call (call : TrafficCall) (s : Simulator) : Simulator :=
  { s.log [.called call] with trafficManager := s.trafficManager.call call }

/-- What `m_nodes.find` finds is changed in place. -/
def modifyNode (node : NodeIdentifier) (f : SimulatedNode → SimulatedNode) (s : Simulator) :
    Simulator :=
  { s with nodes := s.nodes.modify node f }

-- ---------------------------------------------------------------------------
-- Building the network
-- ---------------------------------------------------------------------------

/-- A node that is there already stays. -/
def addNode (node : NodeIdentifier) (configuration : Configuration) (s : Simulator) : Simulator :=
  { s with nodes := s.nodes.insertIfNew node (.new configuration) }

def removeNode (node : NodeIdentifier) (s : Simulator) : Simulator :=
  match s.nodes[node]? with
  | some _ => { s.call (.removeNode node) with nodes := s.nodes.erase node }
  | none => s

def addAdapter (node : NodeIdentifier) (identifier : AdapterIdentifier) (adapter : Adapter)
    (s : Simulator) : Simulator :=
  s.modifyNode node fun node =>
    { node with adapterFetcher := node.adapterFetcher.addAdapter identifier adapter }

def removeAdapter (node : NodeIdentifier) (identifier : AdapterIdentifier) (s : Simulator) :
    Simulator :=
  match s.nodes[node]? with
  | some _ =>
    (s.call (.removeLink node identifier)).modifyNode node fun node =>
      { node with adapterFetcher := node.adapterFetcher.removeAdapter identifier }
  | none => s

/-- The task that opens a client is done. Opening a simulated client succeeds
at once. -/
def complete (node : NodeIdentifier) (k : Nat) (time : TimePoint) (s : Simulator) : Simulator :=
  s.modifyNode node fun node =>
    node.withHandler (node.components.networkHandler.complete k (.always time true))

-- ---------------------------------------------------------------------------
-- Updating a node
-- ---------------------------------------------------------------------------

/-- The client creator tells the traffic manager of the client. -/
def create (node : NodeIdentifier) (s : Simulator) (client : NetworkClient) : Simulator :=
  match s.nodes[node]? with
  | some found =>
    match found.adapterFetcher.getIdentifier client.info.adapter with
    | some identifier => s.call (.addNode node identifier ⟨node, client.info⟩)
    | none => s
  | none => s

def handleAdapterEvent (node : NodeIdentifier) (s : Simulator) (event : AdapterEvent) :
    Simulator :=
  match s.nodes[node]? with
  | some found =>
    let handler := found.components.networkHandler.handleAdapterEvent event
    (found.components.networkHandler.created handler).foldl (create node)
      (s.modifyNode node (·.withHandler handler))
  | none => s

def updateAdapters (node : NodeIdentifier) (s : Simulator) : Simulator :=
  match s.nodes[node]? with
  | some found =>
    let updated := found.components.adapterManager.update found.adapterFetcher.getAdapters
    updated.1.foldl (handleAdapterEvent node) (s.modifyNode node fun node =>
      { node with components := { node.components with adapterManager := updated.2 } })
  | none => s

def updateRoutes (node : NodeIdentifier) (time : TimePoint) (s : Simulator) : Simulator :=
  s.modifyNode node fun node =>
    { node with components := { node.components with
        routeManager := (node.components.routeManager.update time).2 } }

def receive (s : Simulator) (reception : Reception) : Simulator :=
  s.modifyNode reception.client.identifier fun node =>
    node.withHandler (node.components.networkHandler.receiveBytes reception.client.info
      reception.data reception.sender)

/-- A client writes its bytes, and whoever hears it receives them. -/
def multicast (s : Simulator) (sent : SimulatorUdpClient × List Byte) : Simulator :=
  (s.trafficManager.dataSent sent.1.identifier sent.1.info sent.2).foldl receive
    (s.log [.multicast sent.1 sent.2])

end Simulator

section
variable (md5 : List Byte → Digest)

/-- What a node that transmits writes, and the clients it writes it to. -/
def SimulatedNode.multicasts (identifier : NodeIdentifier) (node : SimulatedNode) :
    List (SimulatorUdpClient × List Byte) :=
  let parts := node.components
  (TransmissionHandler.transmitDiscoveryMessage parts.networkHandler parts.adapterManager
    parts.routeManager).filterMap fun entry => do
      let client ← parts.networkHandler.multicastClient entry.1
      let datagram ← parts.networkHandler.transmitMulticast md5 entry.1 [.discovery entry.2]
      return (⟨identifier, client.info⟩, datagram.data)

namespace Simulator

def updateNetwork (node : NodeIdentifier) (time : TimePoint) (s : Simulator) : Simulator :=
  match s.nodes[node]? with
  | some found =>
    let events := (found.components.networkHandler.update md5 time).1
    (s.modifyNode node fun node =>
      { node with components := node.components.updateNetwork md5 time }).log
        (events.map (.raised node))
  | none => s

def transmit (node : NodeIdentifier) (time : TimePoint) (s : Simulator) : Simulator :=
  match s.nodes[node]? with
  | some found =>
    let updated := found.components.transmissionHandler.update time
    let s := s.modifyNode node fun node =>
      { node with components := { node.components with transmissionHandler := updated.2 } }
    if updated.1 then (found.multicasts md5 node).foldl multicast s else s
  | none => s

/-- An update of a node: its components one after the other. -/
def updateNode (time : TimePoint) (s : Simulator) (node : NodeIdentifier) : Simulator :=
  (((s.updateAdapters node).updateNetwork md5 node time).updateRoutes node time).transmit md5 node
    time

def update (time : TimePoint) (s : Simulator) : Simulator :=
  s.nodes.keys.foldl (updateNode md5 time) s

end Simulator

end

inductive SimulatorCall
  | addNode (node : NodeIdentifier) (configuration : Configuration)
  | removeNode (node : NodeIdentifier)
  | addRouter (router : RouterIdentifier)
  | removeRouter (router : RouterIdentifier)
  | addAdapter (node : NodeIdentifier) (identifier : AdapterIdentifier) (adapter : Adapter)
  | removeAdapter (node : NodeIdentifier) (identifier : AdapterIdentifier)
  | addLink (node : NodeIdentifier) (adapter : AdapterIdentifier) (router : RouterIdentifier)
  | removeLink (node : NodeIdentifier) (adapter : AdapterIdentifier)
  | complete (node : NodeIdentifier) (k : Nat) (time : TimePoint)
  | update (time : TimePoint)
  deriving DecidableEq, Repr

namespace Simulator

def step (md5 : List Byte → Digest) (s : Simulator) : SimulatorCall → Simulator
  | .addNode node configuration => s.addNode node configuration
  | .removeNode node => s.removeNode node
  | .addRouter router => s.call (.addRouter router)
  | .removeRouter router => s.call (.removeRouter router)
  | .addAdapter node identifier adapter => s.addAdapter node identifier adapter
  | .removeAdapter node identifier => s.removeAdapter node identifier
  | .addLink node adapter router => s.call (.addLink node adapter router)
  | .removeLink node adapter => s.call (.removeLink node adapter)
  | .complete node k time => s.complete node k time
  | .update time => s.update md5 time

end Simulator

end Sim

end Discnet
