import Discnet.Network.NetworkHandler

/-!
# The simulated network

The simulator connects the adapters of its nodes to routers. Which router an
adapter is linked to is kept twice: with the adapter, and in the router,
which knows its participants by node.
-/

namespace Discnet.Sim

open Network Std

abbrev NodeIdentifier := UInt32

abbrev AdapterIdentifier := UInt32

abbrev RouterIdentifier := UInt32

/-- The client of a simulated adapter. -/
structure SimulatorUdpClient where
  identifier : NodeIdentifier
  info : UdpInfo
  deriving DecidableEq, Repr

/-- A call of `receive_bytes`. -/
structure Reception where
  client : SimulatorUdpClient
  data : List Byte
  sender : Address
  deriving DecidableEq, Repr

-- ---------------------------------------------------------------------------
-- Routers
-- ---------------------------------------------------------------------------

/-- Of the properties of a router none is used. -/
structure NetworkRouter where
  participants : TreeMap NodeIdentifier SimulatorUdpClient := ∅

namespace NetworkRouter

/-- A participant that is there already stays. -/
def addParticipant (node : NodeIdentifier) (client : SimulatorUdpClient) (r : NetworkRouter) :
    NetworkRouter :=
  ⟨r.participants.insertIfNew node client⟩

def removeParticipant (node : NodeIdentifier) (r : NetworkRouter) : NetworkRouter :=
  ⟨r.participants.erase node⟩

def dataSent (node : NodeIdentifier) (info : UdpInfo) (data : List Byte) (r : NetworkRouter) :
    List Reception :=
  (r.participants.toList.filter fun participant => participant.1 ≠ node).map fun participant =>
    ⟨participant.2, data, info.adapter⟩

end NetworkRouter

-- ---------------------------------------------------------------------------
-- The manager
-- ---------------------------------------------------------------------------

structure AdapterEntry where
  adapterIdentifier : AdapterIdentifier
  router : Option RouterIdentifier := none
  client : SimulatorUdpClient
  deriving DecidableEq, Repr

abbrev Routers := TreeMap RouterIdentifier NetworkRouter

structure NetworkTrafficManager where
  nodes : TreeMap NodeIdentifier (List AdapterEntry) := ∅
  routers : Routers := ∅

/-- What `m_routers.find` finds is changed in place. -/
def modifyRouter (router : RouterIdentifier) (f : NetworkRouter → NetworkRouter)
    (routers : Routers) : Routers :=
  match routers[router]? with
  | some r => routers.insert router (f r)
  | none => routers

/-- The first entry of the adapter is changed in place. -/
def modifyEntry (adapter : AdapterIdentifier) (f : AdapterEntry → AdapterEntry) :
    List AdapterEntry → List AdapterEntry
  | [] => []
  | entry :: rest =>
    if entry.adapterIdentifier = adapter then f entry :: rest
    else entry :: modifyEntry adapter f rest

namespace NetworkTrafficManager

/-- A multicast from one of the adapters of a node. -/
def dataSent (node : NodeIdentifier) (info : UdpInfo) (data : List Byte)
    (m : NetworkTrafficManager) : List Reception :=
  match m.nodes[node]? with
  | none => []
  | some adapters =>
    adapters.flatMap fun adapter =>
      if adapter.client.info.adapter = info.adapter then
        match adapter.router with
        | some router =>
          match m.routers[router]? with
          | some r => r.dataSent node info data
          | none => []
        | none => []
      else []

def addNode (node : NodeIdentifier) (adapter : AdapterIdentifier) (client : SimulatorUdpClient)
    (m : NetworkTrafficManager) : NetworkTrafficManager :=
  let entry : AdapterEntry := { adapterIdentifier := adapter, client := client }
  match m.nodes[node]? with
  | some entries => { m with nodes := m.nodes.insert node (entries ++ [entry]) }
  | none => { m with nodes := m.nodes.insert node [entry] }

/-- The node is no participant any more of the routers its adapters are
linked to. -/
def leaveRouters (node : NodeIdentifier) (routers : Routers) (entry : AdapterEntry) : Routers :=
  match entry.router with
  | some router => modifyRouter router (·.removeParticipant node) routers
  | none => routers

def removeNode (node : NodeIdentifier) (m : NetworkTrafficManager) : NetworkTrafficManager :=
  match m.nodes[node]? with
  | some entries =>
    { nodes := m.nodes.erase node
      routers := entries.foldl (leaveRouters node) m.routers }
  | none => m

def addRouter (router : RouterIdentifier) (m : NetworkTrafficManager) : NetworkTrafficManager :=
  { m with routers := m.routers.insertIfNew router {} }

def unlinkFrom (router : RouterIdentifier) (entry : AdapterEntry) : AdapterEntry :=
  if entry.router = some router then { entry with router := none } else entry

def removeRouter (router : RouterIdentifier) (m : NetworkTrafficManager) :
    NetworkTrafficManager where
  nodes := m.nodes.map fun _ entries => entries.map (unlinkFrom router)
  routers := m.routers.erase router

def addLink (node : NodeIdentifier) (adapter : AdapterIdentifier) (router : RouterIdentifier)
    (m : NetworkTrafficManager) : Bool × NetworkTrafficManager :=
  match m.nodes[node]?, m.routers[router]? with
  | some entries, some r =>
    match entries.find? (·.adapterIdentifier = adapter) with
    | some entry =>
      (true,
        { nodes := m.nodes.insert node
            (modifyEntry adapter (fun entry => { entry with router := some router }) entries)
          routers := m.routers.insert router (r.addParticipant node entry.client) })
    | none => (false, m)
  | _, _ => (false, m)

def removeLink (node : NodeIdentifier) (adapter : AdapterIdentifier) (m : NetworkTrafficManager) :
    NetworkTrafficManager :=
  match m.nodes[node]? with
  | some entries =>
    match entries.find? (·.adapterIdentifier = adapter) with
    | some entry =>
      match entry.router with
      | some router =>
        { nodes := m.nodes.insert node
            (modifyEntry adapter (fun entry => { entry with router := none }) entries)
          routers := modifyRouter router (·.removeParticipant node) m.routers }
      | none => m
    | none => m
  | none => m

end NetworkTrafficManager

/-- What is called on the manager to build the network. -/
inductive TrafficCall
  | addNode (node : NodeIdentifier) (adapter : AdapterIdentifier) (client : SimulatorUdpClient)
  | removeNode (node : NodeIdentifier)
  | addRouter (router : RouterIdentifier)
  | removeRouter (router : RouterIdentifier)
  | addLink (node : NodeIdentifier) (adapter : AdapterIdentifier) (router : RouterIdentifier)
  | removeLink (node : NodeIdentifier) (adapter : AdapterIdentifier)
  deriving DecidableEq, Repr

namespace NetworkTrafficManager

def call (m : NetworkTrafficManager) : TrafficCall → NetworkTrafficManager
  | .addNode node adapter client => m.addNode node adapter client
  | .removeNode node => m.removeNode node
  | .addRouter router => m.addRouter router
  | .removeRouter router => m.removeRouter router
  | .addLink node adapter router => (m.addLink node adapter router).2
  | .removeLink node adapter => m.removeLink node adapter

end NetworkTrafficManager

end Discnet.Sim
