import Discnet.TransmissionHandler
import Discnet.Network.ClientLaws
import Mathlib.Data.Fin.VecNotation
import Mathlib.Data.List.Infix

/-!
# Clusters

Nodes poll their components one after the other. Their adapters are fixed, so
an update of the adapter manager changes nothing, see `update_of_known`. What
a node multicasts goes into the history of the run, and a poll may be handed
any transmission of the history on any of the node's clients: late, more
than once, in any order, or never. The messages themselves arrive unharmed,
see `decode_transmitMulticast`.
-/

namespace Discnet

open Lib Network Network.Messages

structure ClusterNode where
  adapterManager : AdapterManager
  networkHandler : NetworkHandler
  routeManager : RouteManager := {}
  transmissionHandler : TransmissionHandler := {}

namespace ClusterNode

def nodeId (node : ClusterNode) : NodeId := node.networkHandler.configuration.nodeId

/-- A node before its first poll. -/
def Fresh (node : ClusterNode) : Prop :=
  node.routeManager = {} ∧ node.transmissionHandler = {}

/-- The discovery messages a node multicasts, with the addresses they are
sent from. -/
def multicasts (node : ClusterNode) : List (Address × DiscoveryMessage) :=
  (TransmissionHandler.transmitDiscoveryMessage node.networkHandler node.adapterManager
    node.routeManager).filterMap fun entry =>
      (node.networkHandler.multicastClient entry.1).map fun client =>
        (client.info.adapter, entry.2)

end ClusterNode

structure Transmission (ι : Type) where
  node : ι
  sender : Address
  time : TimePoint
  message : DiscoveryMessage
  deriving DecidableEq, Repr

/-- What happened in a run. A reception names the transmission by its place
in the history. -/
inductive Entry (ι : Type)
  | polled (node : ι) (time : TimePoint)
  | sent (transmission : Transmission ι)
  | received (node : ι) (adapter : Address) (time : TimePoint) (position : Nat)
  deriving DecidableEq, Repr

structure Cluster (ι : Type) where
  nodes : ι → ClusterNode
  history : List (Entry ι) := []

/-- The transmission the network hands over, and the address of the
client that gets it. -/
structure Delivery where
  position : Nat
  adapter : Address
  deriving DecidableEq, Repr

inductive Action (ι : Type)
  | complete (node : ι) (k : Nat) (attempts : NetworkHandler.Attempts)
  | poll (node : ι) (time : TimePoint) (deliveries : List Delivery)
  deriving Repr

namespace Cluster

variable {ι : Type}

def routes (s : Cluster ι) (i : ι) : RouteManager := (s.nodes i).routeManager

section
variable [DecidableEq ι]

def set (s : Cluster ι) (i : ι) (node : ClusterNode) (entries : List (Entry ι)) : Cluster ι :=
  ⟨Function.update s.nodes i node, s.history ++ entries⟩

def complete (s : Cluster ι) (i : ι) (k : Nat) (attempts : NetworkHandler.Attempts) :
    Cluster ι :=
  let node := s.nodes i
  s.set i { node with networkHandler := node.networkHandler.complete k attempts } []

/-- The network handler's update, up to the messages. -/
def collect (s : Cluster ι) (i : ι) (time : TimePoint) : Cluster ι :=
  let node := s.nodes i
  s.set i { node with networkHandler := node.networkHandler.collectClients } [.polled i time]

/-- The transmission of a delivery, if it was sent and the node has a client
that can get it. -/
def delivered? (s : Cluster ι) (i : ι) (delivery : Delivery) : Option (Transmission ι) :=
  match s.history[delivery.position]? with
  | some (.sent transmission) =>
    if (s.nodes i).networkHandler.clients.any (·.info.adapter = delivery.adapter) then
      some transmission
    else none
  | _ => none

def networkInfo (s : Cluster ι) (i : ι) (time : TimePoint) (delivery : Delivery)
    (transmission : Transmission ι) : NetworkInfo where
  receptionTime := time
  sender := transmission.sender
  receiver := (s.nodes i).networkHandler.configuration.multicastAddress
  adapter := delivery.adapter

def receive (i : ι) (time : TimePoint) (s : Cluster ι) (delivery : Delivery) : Cluster ι :=
  match s.delivered? i delivery with
  | none => s
  | some transmission =>
    let node := s.nodes i
    let routeManager := (node.routeManager.processDiscoveryMessage node.adapterManager
      transmission.message (s.networkInfo i time delivery transmission)).2.2
    s.set i { node with routeManager } [.received i delivery.adapter time delivery.position]

def updateRoutes (s : Cluster ι) (i : ι) (time : TimePoint) : Cluster ι :=
  let node := s.nodes i
  s.set i { node with routeManager := (node.routeManager.update time).2 } []

def transmit (s : Cluster ι) (i : ι) (time : TimePoint) : Cluster ι :=
  let node := s.nodes i
  let updated := node.transmissionHandler.update time
  let entries := if updated.1 then
      node.multicasts.map fun entry => .sent ⟨i, entry.1, time, entry.2⟩
    else []
  s.set i { node with transmissionHandler := updated.2 } entries

/-- The state in which the route manager of a polling node is updated. -/
def beforeUpdate (s : Cluster ι) (i : ι) (time : TimePoint) (deliveries : List Delivery) :
    Cluster ι := deliveries.foldl (receive i time) (s.collect i time)

/-- The state in which a polling node transmits. -/
def afterUpdate (s : Cluster ι) (i : ι) (time : TimePoint) (deliveries : List Delivery) :
    Cluster ι := (s.beforeUpdate i time deliveries).updateRoutes i time

def step (s : Cluster ι) : Action ι → Cluster ι
  | .complete i k attempts => s.complete i k attempts
  | .poll i time deliveries => (s.afterUpdate i time deliveries).transmit i time

/-- What holds of each delivery at the moment it is processed. -/
def EachDelivery (P : Cluster ι → ι → TimePoint → Delivery → Prop) (s : Cluster ι) :
    Action ι → Prop
  | .complete _ _ _ => True
  | .poll i time deliveries =>
    Throughout (receive i time) (fun s delivery => P s i time delivery) (s.collect i time)
      deliveries

instance {P : Cluster ι → ι → TimePoint → Delivery → Prop}
    [∀ s i time delivery, Decidable (P s i time delivery)] (s : Cluster ι) :
    ∀ action : Action ι, Decidable (EachDelivery P s action)
  | .complete _ _ _ => .isTrue trivial
  | .poll _ _ _ => inferInstanceAs (Decidable (Throughout _ _ _ _))

end

/-- No node has polled yet. -/
structure Initial (s : Cluster ι) : Prop where
  fresh : ∀ i, (s.nodes i).Fresh
  history : s.history = []

-- ---------------------------------------------------------------------------
-- What the steps change
-- ---------------------------------------------------------------------------

variable {s : Cluster ι} {i j : ι} {time : TimePoint}

namespace Initial

theorem routes (hs : s.Initial) (i : ι) : s.routes i = {} := (hs.fresh i).1

theorem distinct (hs : s.Initial) (i : ι) : (s.routes i).Distinct := by
  rw [hs.routes]
  exact RouteManager.distinct_empty

theorem allRoutes {P : AdapterGuid → Route → Prop} (hs : s.Initial) (i : ι) :
    (s.routes i).AllRoutes P := by
  rw [hs.routes]
  exact RouteManager.allRoutes_empty

theorem getElem?_history_ne (hs : s.Initial) (q : Nat) (entry : Entry ι) :
    s.history[q]? ≠ some entry := by
  simp [hs.history]

theorem notMem_history (hs : s.Initial) (entry : Entry ι) : entry ∉ s.history := by
  simp [hs.history]

end Initial

@[simp] theorem nodes_set_self [DecidableEq ι] (s : Cluster ι) (i : ι) (node : ClusterNode)
    (entries : List (Entry ι)) : (s.set i node entries).nodes i = node := by
  simp [set]

@[simp] theorem nodes_set_of_ne [DecidableEq ι] (h : j ≠ i) (s : Cluster ι) (node : ClusterNode)
    (entries : List (Entry ι)) : (s.set i node entries).nodes j = s.nodes j := by
  simp [set, h]

/-- What holds of the changed node and held of the others. -/
theorem forall_set [DecidableEq ι] {P : ι → ClusterNode → Prop} {node : ClusterNode}
    {entries : List (Entry ι)} (hnode : P i node) (hothers : ∀ j, j ≠ i → P j (s.nodes j)) :
    ∀ j, P j ((s.set i node entries).nodes j) := by
  intro j
  by_cases h : j = i
  · subst h
    rwa [nodes_set_self]
  · rw [nodes_set_of_ne h]
    exact hothers j h

theorem routes_set [DecidableEq ι] (s : Cluster ι) (i : ι) (node : ClusterNode)
    (entries : List (Entry ι)) :
    (s.set i node entries).routes = Function.update s.routes i node.routeManager := by
  funext j
  by_cases h : j = i
  · subst h
    simp [routes]
  · simp [routes, h]

@[simp] theorem history_set [DecidableEq ι] (s : Cluster ι) (i : ι) (node : ClusterNode)
    (entries : List (Entry ι)) : (s.set i node entries).history = s.history ++ entries := rfl

theorem sent_of_delivered {delivery : Delivery} {tx : Transmission ι}
    (h : s.delivered? i delivery = some tx) : s.history[delivery.position]? = some (.sent tx) := by
  rw [delivered?] at h
  split at h
  · split_ifs at h
    cases h
    assumption
  · contradiction

theorem client_of_delivered {delivery : Delivery} {tx : Transmission ι}
    (h : s.delivered? i delivery = some tx) :
    ∃ client ∈ (s.nodes i).networkHandler.clients, client.info.adapter = delivery.adapter := by
  rw [delivered?] at h
  split at h
  · split_ifs at h with hclient
    simpa using hclient
  · contradiction

theorem mem_of_multicastClient {h : NetworkHandler} {adapter : Adapter} {client : NetworkClient}
    (hclient : h.multicastClient adapter = some client) : client ∈ h.clients := by
  obtain ⟨hfind, -⟩ := Option.filter_eq_some_iff.mp hclient
  exact List.mem_of_find?_eq_some hfind

/-- What a node sends is a discovery message about the routes it found for
one of its adapters, from the address of one of its clients. -/
theorem transmission_of_mem {tx : Transmission ι}
    (h : .sent tx ∈ if ((s.nodes i).transmissionHandler.update time).1 then
        (s.nodes i).multicasts.map fun entry => Entry.sent ⟨i, entry.1, time, entry.2⟩
      else []) :
    ∃ client ∈ (s.nodes i).networkHandler.clients, ∃ guid,
      tx = ⟨i, client.info.adapter, time, TransmissionHandler.discoveryMessage
        (s.nodes i).nodeId ((s.routes i).findRoutesForAdapter guid)⟩ := by
  split_ifs at h
  · obtain ⟨⟨sender, message⟩, hentry, heq⟩ := List.mem_map.mp h
    cases heq
    obtain ⟨⟨adapter, message'⟩, hmem, hclient⟩ := List.mem_filterMap.mp hentry
    obtain ⟨client, hfound, heq⟩ := Option.map_eq_some_iff.mp hclient
    cases heq
    obtain ⟨other, -, hother⟩ := List.mem_filterMap.mp hmem
    split at hother
    · contradiction
    · cases hother
      exact ⟨client, mem_of_multicastClient hfound, _, rfl⟩
  · contradiction

theorem sent_of_mem {e : Entry ι}
    (h : e ∈ if ((s.nodes i).transmissionHandler.update time).1 then
        (s.nodes i).multicasts.map fun entry => Entry.sent ⟨i, entry.1, time, entry.2⟩
      else []) : ∃ tx, e = .sent tx ∧ tx.node = i ∧ tx.time = time := by
  split_ifs at h
  · obtain ⟨_, -, rfl⟩ := List.mem_map.mp h
    exact ⟨_, rfl, rfl, rfl⟩
  · contradiction

variable [DecidableEq ι]

-- ---------------------------------------------------------------------------
-- Invariants
-- ---------------------------------------------------------------------------

/-- What holds of the start and is kept by every component of every step
holds in every state of every run. -/
theorem run_invariant {Inv : Cluster ι → Prop} (actions : List (Action ι)) (hs : Inv s)
    (hcomplete : ∀ s i k attempts, Inv s → Inv (s.complete i k attempts))
    (hcollect : ∀ s i time, Inv s → Inv (s.collect i time))
    (hreceive : ∀ s i time delivery, Inv s → Inv (s.receive i time delivery))
    (hupdate : ∀ s i time, Inv s → Inv (s.updateRoutes i time))
    (htransmit : ∀ s i time, Inv s → Inv (s.transmit i time)) :
    Inv (actions.foldl step s) := by
  induction actions generalizing s with
  | nil => exact hs
  | cons action actions ih =>
    refine ih ?_
    cases action with
    | complete i k attempts => exact hcomplete _ _ _ _ hs
    | poll i time deliveries =>
      have hreceived : Inv (s.beforeUpdate i time deliveries) :=
        List.foldlRecOn deliveries (receive i time) (hcollect _ _ _ hs)
          fun s hs delivery _ => hreceive _ _ _ _ hs
      exact htransmit _ _ _ (hupdate _ _ _ hreceived)

end Cluster

-- ---------------------------------------------------------------------------
-- Small networks
-- ---------------------------------------------------------------------------

def lanAdapter (name : String) (address : UInt32) : Adapter where
  guid := name
  macAddress := name
  name := name
  enabled := true
  addressList := [(⟨address⟩, ⟨0xffffff00⟩)]
  mtu := 1500

/-- A node whose clients are all up. -/
def lanNode (nodeId : NodeId) (adapters : List Adapter) : ClusterNode :=
  let started := (List.range adapters.length).map fun k => HandlerOp.complete k (.always 0 true)
  let host := (Host.new ⟨nodeId, ⟨0xefff0a0a⟩, 1024⟩).round (fun _ => default)
    ⟨adapters, started ++ [.update 0]⟩
  { adapterManager := host.manager, networkHandler := host.handler }

def pair : Cluster (Fin 2) where
  nodes := ![lanNode 7 [lanAdapter "a" 1], lanNode 8 [lanAdapter "b" 2]]

theorem initial_pair : pair.Initial where
  fresh := Fin.forall_fin_two.mpr ⟨⟨rfl, rfl⟩, ⟨rfl, rfl⟩⟩
  history := rfl

end Discnet
