import Discnet.HopCount
import Discnet.Network.Arrivals

/-!
# Nodes on the wire

Nodes that exchange datagrams. A datagram that was sent may reach any socket
of any node: late, more than once, in any order, or never, and a socket can
receive before its client joined the others. What a node receives waits in
its streams until the node updates. Up to the bytes such a network is a
cluster. The adapters of the nodes stay as they are: what is fetched again
between the updates is left out.
-/

namespace Discnet

open Lib Network Network.Messages

-- ---------------------------------------------------------------------------
-- Sockets
-- ---------------------------------------------------------------------------

inductive Socket
  | running (k : Nat)
  | starting (k : Nat)
  deriving DecidableEq, Repr

namespace Network

def AdapterInit.handleRead (data : List Byte) (sender : Address) : AdapterInit → AdapterInit
  | .pending client => .pending (client.handleRead data sender)
  | .ready (.ok client) => .ready (.ok (client.handleRead data sender))
  | init => init

namespace NetworkHandler

/-- A datagram reaches one of the handler's sockets. -/
def arrive (data : List Byte) (sender : Address) (h : NetworkHandler) : Socket → NetworkHandler
  | .running k => { h with clients := h.clients.modify k (·.handleRead data sender) }
  | .starting k => { h with initList := h.initList.modify k (·.handleRead data sender) }

/-- All clients that can receive, also those that are being started. -/
def openClients (h : NetworkHandler) : List NetworkClient :=
  h.clients ++ h.initList.filterMap AdapterInit.starting?

end NetworkHandler

end Network

-- ---------------------------------------------------------------------------
-- Nodes
-- ---------------------------------------------------------------------------

structure Dispatch (ι : Type) where
  node : ι
  sender : Address
  time : TimePoint
  datagram : Datagram
  deriving DecidableEq, Repr

/-- The slot of the route manager. Nothing listens to data messages. -/
def RouteManager.handleEvent (adapterManager : AdapterManager) (m : RouteManager) :
    NetworkEvent → RouteManager
  | .discoveryMessageReceived message info =>
    (m.processDiscoveryMessage adapterManager message info).2.2
  | .dataMessageReceived _ _ => m

namespace ClusterNode

def handleEvents (events : List NetworkEvent) (node : ClusterNode) : ClusterNode :=
  { node with
    routeManager := events.foldl (·.handleEvent node.adapterManager) node.routeManager }

section
variable (md5 : List Byte → Digest)

/-- The network handler's update, and what follows from what it raises. -/
def updateNetwork (time : TimePoint) (node : ClusterNode) : ClusterNode :=
  let updated := node.networkHandler.update md5 time
  { node with networkHandler := updated.2 }.handleEvents updated.1

/-- The datagrams of a node that transmits, from the sockets they leave by. -/
def dispatches {ι : Type} (i : ι) (time : TimePoint) (node : ClusterNode) : List (Dispatch ι) :=
  (TransmissionHandler.transmitDiscoveryMessage node.networkHandler node.adapterManager
    node.routeManager).filterMap fun entry => do
      let client ← node.networkHandler.multicastClient entry.1
      let datagram ← node.networkHandler.transmitMulticast md5 entry.1 [.discovery entry.2]
      return ⟨i, client.info.adapter, time, datagram⟩

end

end ClusterNode

structure Wire (ι : Type) where
  nodes : ι → ClusterNode
  history : List (Dispatch ι) := []

inductive WireAction (ι : Type)
  | complete (node : ι) (k : Nat) (attempts : NetworkHandler.Attempts)
  | arrive (node : ι) (socket : Socket) (position : Nat)
  | poll (node : ι) (time : TimePoint)
  deriving Repr

namespace Wire

variable {ι : Type}

section
variable [DecidableEq ι] (md5 : List Byte → Digest)

def set (w : Wire ι) (i : ι) (node : ClusterNode) (sent : List (Dispatch ι)) : Wire ι :=
  ⟨Function.update w.nodes i node, w.history ++ sent⟩

def complete (w : Wire ι) (i : ι) (k : Nat) (attempts : NetworkHandler.Attempts) : Wire ι :=
  let node := w.nodes i
  w.set i { node with networkHandler := node.networkHandler.complete k attempts } []

def arrive (w : Wire ι) (i : ι) (socket : Socket) (position : Nat) : Wire ι :=
  match w.history[position]? with
  | none => w
  | some sent =>
    let node := w.nodes i
    w.set i { node with
      networkHandler := node.networkHandler.arrive sent.datagram.data sent.sender socket } []

def updateNetwork (w : Wire ι) (i : ι) (time : TimePoint) : Wire ι :=
  w.set i ((w.nodes i).updateNetwork md5 time) []

def updateRoutes (w : Wire ι) (i : ι) (time : TimePoint) : Wire ι :=
  let node := w.nodes i
  w.set i { node with routeManager := (node.routeManager.update time).2 } []

def transmit (w : Wire ι) (i : ι) (time : TimePoint) : Wire ι :=
  let node := w.nodes i
  let updated := node.transmissionHandler.update time
  w.set i { node with transmissionHandler := updated.2 }
    (if updated.1 then node.dispatches md5 i time else [])

/-- An update of the application: its components one after the other. -/
def poll (w : Wire ι) (i : ι) (time : TimePoint) : Wire ι :=
  ((w.updateNetwork md5 i time).updateRoutes i time).transmit md5 i time

def step (w : Wire ι) : WireAction ι → Wire ι
  | .complete i k attempts => w.complete i k attempts
  | .arrive i socket position => w.arrive i socket position
  | .poll i time => w.poll md5 i time

end

/-- No node has polled and nothing was received. -/
structure Initial (w : Wire ι) : Prop where
  fresh : ∀ i, (w.nodes i).Fresh
  streams : ∀ i, ∀ client ∈ (w.nodes i).networkHandler.openClients,
    client.dataHandler = .new 4095
  history : w.history = []

/-- No stream is longer than a vector can be. -/
def InMemory (w : Wire ι) : Prop :=
  ∀ i, ∀ client ∈ (w.nodes i).networkHandler.openClients, client.InMemory

end Wire

-- ---------------------------------------------------------------------------
-- Without the streams
-- ---------------------------------------------------------------------------

namespace Network

def NetworkClient.quiet (client : NetworkClient) : NetworkClient :=
  { client with dataHandler := .new 4095 }

def AdapterInit.quiet : AdapterInit → AdapterInit
  | .pending client => .pending client.quiet
  | .ready (.ok client) => .ready (.ok client.quiet)
  | init => init

@[simp] theorem NetworkClient.quiet_handleRead (data : List Byte) (sender : Address)
    (client : NetworkClient) : (client.handleRead data sender).quiet = client.quiet := rfl

@[simp] theorem AdapterInit.quiet_complete (attempts : NetworkHandler.Attempts)
    (init : AdapterInit) : (init.complete attempts).quiet = init.quiet.complete attempts := by
  cases init with
  | pending client =>
    cases hopen : NetworkHandler.openClient (attempts.startTime + seconds 15) attempts.first
        attempts.startTime attempts.retries <;>
      simp [complete, quiet, NetworkHandler.processAdapter, hopen]
  | ready result => cases result <;> rfl
  | taken => rfl

@[simp] theorem AdapterInit.quiet_handleRead (data : List Byte) (sender : Address)
    (init : AdapterInit) : (init.handleRead data sender).quiet = init.quiet := by
  cases init with
  | pending client => rfl
  | ready result => cases result <;> rfl
  | taken => rfl

@[simp] theorem AdapterInit.client?_quiet (init : AdapterInit) :
    init.quiet.client? = init.client?.map NetworkClient.quiet := by
  cases init with
  | pending client => rfl
  | ready result => cases result <;> rfl
  | taken => rfl

@[simp] theorem AdapterInit.quiet_collected (init : AdapterInit) :
    init.collected.quiet = init.quiet.collected := by
  cases init with
  | pending client => rfl
  | ready result => cases result <;> rfl
  | taken => rfl

theorem map_modify_of_map_eq {α β : Type} {f : α → β} {g : α → α} (h : ∀ a, f (g a) = f a)
    (l : List α) (k : Nat) : (l.modify k g).map f = l.map f := by
  induction l generalizing k with
  | nil => rw [List.modify_nil]
  | cons a l ih => cases k <;> simp [h, ih]

namespace NetworkHandler

def quiet (h : NetworkHandler) : NetworkHandler :=
  { h with
    clients := h.clients.map NetworkClient.quiet
    initList := h.initList.map AdapterInit.quiet }

variable {h other : NetworkHandler}

@[simp] theorem configuration_quiet (h : NetworkHandler) :
    h.quiet.configuration = h.configuration := rfl

theorem quiet_complete (k : Nat) (attempts : Attempts) (h : NetworkHandler) :
    (h.complete k attempts).quiet = h.quiet.complete k attempts := by
  have hinits : (h.initList.modify k (AdapterInit.complete attempts)).map AdapterInit.quiet =
      (h.initList.map AdapterInit.quiet).modify k (AdapterInit.complete attempts) := by
    induction h.initList generalizing k with
    | nil => rw [List.modify_nil, List.map_nil, List.modify_nil]
    | cons init inits ih => cases k <;> simp [ih]
  simp only [quiet, complete, hinits]

theorem quiet_arrive (data : List Byte) (sender : Address) (h : NetworkHandler)
    (socket : Socket) : (h.arrive data sender socket).quiet = h.quiet := by
  cases socket with
  | running k =>
    simp only [quiet, arrive,
      map_modify_of_map_eq (NetworkClient.quiet_handleRead data sender)]
  | starting k =>
    simp only [quiet, arrive, map_modify_of_map_eq (AdapterInit.quiet_handleRead data sender)]

theorem quiet_collectClients (h : NetworkHandler) :
    h.collectClients.quiet = h.quiet.collectClients := by
  simp [quiet, collectClients, List.filterMap_map, List.map_filterMap, Function.comp_def]

theorem quiet_update (md5 : List Byte → Digest) (time : TimePoint) (h : NetworkHandler) :
    (h.update md5 time).2.quiet = h.quiet.collectClients := by
  rw [← quiet_collectClients]
  simp [quiet, update, NetworkClient.update, NetworkClient.quiet, Function.comp_def]

theorem any_quiet (address : Address) (h : NetworkHandler) :
    h.quiet.clients.any (·.info.adapter = address) = h.clients.any (·.info.adapter = address) := by
  rw [quiet, List.any_map]
  rfl

theorem findClient_quiet (adapter : Adapter) (h : NetworkHandler) :
    h.quiet.findClient adapter = (h.findClient adapter).map NetworkClient.quiet := by
  simp [findClient, quiet, List.find?_map, Function.comp_def, NetworkClient.quiet]

-- ---------------------------------------------------------------------------
-- The clients that can receive
-- ---------------------------------------------------------------------------

theorem openClients_complete {client : NetworkClient}
    (hclient : client ∈ (h.complete k attempts).openClients) : client ∈ h.openClients := by
  rcases List.mem_append.mp hclient with hclient | hclient
  · exact List.mem_append_left _ hclient
  · exact List.mem_append_right _ (mem_of_mem_modify
      (fun init => init.starting?_complete_of_any attempts) hclient)

theorem openClients_collectClients (h : NetworkHandler) :
    h.collectClients.openClients.Perm h.openClients := by
  have hperm := (collected_perm h.initList).append_left h.clients
  rwa [← List.append_assoc] at hperm

theorem openClients_update {md5 : List Byte → Digest} {client : NetworkClient}
    (hclient : client ∈ (h.update md5 time).2.openClients) :
    client ∈ h.openClients ∨ ∃ old ∈ h.openClients, client = (old.update md5 time).2 := by
  rcases List.mem_append.mp hclient with hclient | hclient
  · obtain ⟨updated, hupdated, rfl⟩ := List.mem_map.mp hclient
    obtain ⟨old, hold, rfl⟩ := List.mem_map.mp hupdated
    have hopen : old ∈ h.collectClients.openClients := List.mem_append_left _ hold
    exact .inr ⟨old, (openClients_collectClients h).mem_iff.mp hopen, rfl⟩
  · have hopen : client ∈ h.collectClients.openClients := List.mem_append_right _ hclient
    exact .inl ((openClients_collectClients h).mem_iff.mp hopen)

theorem mem_modify {α : Type} {f : α → α} {a : α} {l : List α} (ha : a ∈ l.modify k f) :
    a ∈ l ∨ ∃ old ∈ l, a = f old := by
  induction l generalizing k with
  | nil => simp at ha
  | cons first l ih =>
    cases k with
    | zero =>
      rw [List.modify_zero_cons] at ha
      rcases List.mem_cons.mp ha with rfl | ha
      · exact .inr ⟨first, List.mem_cons_self, rfl⟩
      · exact .inl (List.mem_cons_of_mem _ ha)
    | succ k =>
      rw [List.modify_succ_cons] at ha
      rcases List.mem_cons.mp ha with rfl | ha
      · exact .inl List.mem_cons_self
      · rcases ih ha with ha | ⟨old, hold, rfl⟩
        · exact .inl (List.mem_cons_of_mem _ ha)
        · exact .inr ⟨old, List.mem_cons_of_mem _ hold, rfl⟩

theorem starting?_handleRead (data : List Byte) (sender : Address) (init : AdapterInit) :
    (init.handleRead data sender).starting? = init.starting?.map (·.handleRead data sender) := by
  cases init with
  | pending client => rfl
  | ready result => cases result <;> rfl
  | taken => rfl

theorem openClients_arrive {socket : Socket} {client : NetworkClient}
    (hclient : client ∈ (h.arrive data sender socket).openClients) :
    client ∈ h.openClients ∨ ∃ old ∈ h.openClients, client = old.handleRead data sender := by
  cases socket with
  | running k =>
    rcases List.mem_append.mp hclient with hclient | hclient
    · rcases mem_modify hclient with hclient | ⟨old, hold, rfl⟩
      · exact .inl (List.mem_append_left _ hclient)
      · exact .inr ⟨old, List.mem_append_left _ hold, rfl⟩
    · exact .inl (List.mem_append_right _ hclient)
  | starting k =>
    rcases List.mem_append.mp hclient with hclient | hclient
    · exact .inl (List.mem_append_left _ hclient)
    · obtain ⟨init, hinit, hclient⟩ := List.mem_filterMap.mp hclient
      rcases mem_modify hinit with hinit | ⟨old, hold, rfl⟩
      · exact .inl (List.mem_append_right _ (List.mem_filterMap.mpr ⟨init, hinit, hclient⟩))
      · rw [starting?_handleRead, Option.map_eq_some_iff] at hclient
        obtain ⟨before, hbefore, rfl⟩ := hclient
        exact .inr ⟨before, List.mem_append_right _
          (List.mem_filterMap.mpr ⟨old, hold, hbefore⟩), rfl⟩

end NetworkHandler

end Network

namespace ClusterNode

def quiet (node : ClusterNode) : ClusterNode :=
  { node with networkHandler := node.networkHandler.quiet }

theorem transmitDiscoveryMessage_quiet (networkHandler : NetworkHandler)
    (adapterManager : AdapterManager) (routeManager : RouteManager) :
    TransmissionHandler.transmitDiscoveryMessage networkHandler.quiet adapterManager
        routeManager =
      TransmissionHandler.transmitDiscoveryMessage networkHandler adapterManager
        routeManager := by
  simp only [TransmissionHandler.transmitDiscoveryMessage, NetworkHandler.quiet,
    List.filterMap_map]
  rfl

theorem multicastClient_quiet (adapter : Adapter) (h : NetworkHandler) :
    h.quiet.multicastClient adapter = (h.multicastClient adapter).map NetworkClient.quiet := by
  rw [NetworkHandler.multicastClient, NetworkHandler.findClient_quiet,
    NetworkHandler.multicastClient]
  cases h.findClient adapter with
  | none => rfl
  | some client =>
    by_cases hmulticast : client.info.multicast = .any <;>
      simp [Option.filter, NetworkClient.quiet, hmulticast]

theorem multicasts_quiet (node : ClusterNode) : node.quiet.multicasts = node.multicasts := by
  simp only [multicasts, quiet, transmitDiscoveryMessage_quiet, multicastClient_quiet,
    Option.map_map, Function.comp_def]
  rfl

theorem quiet_eq {node other : ClusterNode} (h : node.quiet = other.quiet) :
    node.adapterManager = other.adapterManager ∧
      node.networkHandler.quiet = other.networkHandler.quiet ∧
      node.routeManager = other.routeManager ∧
      node.transmissionHandler = other.transmissionHandler := by
  simpa [quiet] using h

end ClusterNode

-- ---------------------------------------------------------------------------
-- The cluster of a network
-- ---------------------------------------------------------------------------

variable {ι : Type}

def Entry.transmission? : Entry ι → Option (Transmission ι)
  | .sent transmission => some transmission
  | _ => none

/-- All that was sent, in order. -/
def Cluster.transmissions (s : Cluster ι) : List (Transmission ι) :=
  s.history.filterMap Entry.transmission?

/-- The datagram in which a transmission went out. -/
structure Dispatch.Carries (md5 : List Byte → Digest) (sent : Dispatch ι) (tx : Transmission ι) :
    Prop where
  node : sent.node = tx.node
  sender : sent.sender = tx.sender
  time : sent.time = tx.time
  data : sent.datagram.data = transmission md5 [.discovery tx.message]

/-- The sender sent the packet. -/
def Cluster.Said (s : Cluster ι) (sender : Address) (packet : Packet) : Prop :=
  ∃ tx, .sent tx ∈ s.history ∧ tx.sender = sender ∧ packet = ⟨[.discovery tx.message]⟩

/-- The nodes are those of the cluster but for their streams, which hold what
was sent in it. -/
structure Wire.Refines (md5 : List Byte → Digest) (w : Wire ι) (s : Cluster ι) : Prop where
  nodes : ∀ i, (w.nodes i).quiet = (s.nodes i).quiet
  sent : List.Forall₂ (Dispatch.Carries md5) w.history s.transmissions
  streams : ∀ i, ∀ client ∈ (w.nodes i).networkHandler.openClients, client.Orderly md5 s.Said

theorem Cluster.mem_transmissions {s : Cluster ι} {tx : Transmission ι} :
    tx ∈ s.transmissions ↔ .sent tx ∈ s.history := by
  rw [transmissions, List.mem_filterMap]
  constructor
  · rintro ⟨entry, hentry, htx⟩
    cases entry with
    | sent other =>
      cases htx
      exact hentry
    | polled => contradiction
    | received => contradiction
  · exact fun h => ⟨_, h, rfl⟩

/-- The slot does not look at where a message was sent to. -/
theorem RouteManager.handleEvent_eq (m : RouteManager) (adapterManager : AdapterManager)
    {event : NetworkEvent} {message : DiscoveryMessage} (info : NetworkInfo)
    (hmessage : event.message = .discovery message) (hsender : event.info.sender = info.sender)
    (htime : event.info.receptionTime = info.receptionTime)
    (hadapter : event.info.adapter = info.adapter) :
    m.handleEvent adapterManager event =
      (m.processDiscoveryMessage adapterManager message info).2.2 := by
  cases event with
  | dataMessageReceived => contradiction
  | discoveryMessageReceived raised received =>
    obtain ⟨receptionTime, sender, receiver, adapter⟩ := received
    cases hmessage
    cases hsender
    cases htime
    cases hadapter
    rw [handleEvent]
    cases hfound : adapterManager.findAdapterByAddress info.adapter with
    | error text => simp [processDiscoveryMessage, hfound]
    | ok adapter =>
      have hraised := processDiscoveryMessage_eq hfound message m
      rw [hraised]
      exact @processDiscoveryMessage_eq _ _ ⟨_, _, receiver, _⟩ hfound message m

theorem Cluster.Said.mono {s t : Cluster ι} (h : s.history <+: t.history)
    {sender : Address} {packet : Packet} (hs : s.Said sender packet) : t.Said sender packet := by
  obtain ⟨tx, hsent, hsender, hpacket⟩ := hs
  exact ⟨tx, h.subset hsent, hsender, hpacket⟩

theorem exists_of_forall₂ {α β : Type} {R : α → β → Prop} {as : List α} {bs : List β} {a : α}
    (h : List.Forall₂ R as bs) (ha : a ∈ as) : ∃ b ∈ bs, R a b := by
  induction h with
  | nil => contradiction
  | cons hfirst _ ih =>
    rcases List.mem_cons.mp ha with rfl | ha
    · exact ⟨_, List.mem_cons_self, hfirst⟩
    · obtain ⟨b, hb, hr⟩ := ih ha
      exact ⟨b, List.mem_cons_of_mem _ hb, hr⟩

theorem ClusterNode.carries_dispatches (md5 : List Byte → Digest) (i : ι) (time : TimePoint)
    (node : ClusterNode) :
    List.Forall₂ (Dispatch.Carries md5) (node.dispatches md5 i time)
      (node.multicasts.map fun entry => ⟨i, entry.1, time, entry.2⟩) := by
  rw [dispatches, multicasts]
  induction TransmissionHandler.transmitDiscoveryMessage node.networkHandler node.adapterManager
      node.routeManager with
  | nil => exact .nil
  | cons entry entries ih =>
    simp only [NetworkHandler.transmitMulticast_eq] at ih ⊢
    cases hclient : node.networkHandler.multicastClient entry.1 with
    | none => simpa [hclient] using ih
    | some client =>
      simp only [List.filterMap_cons, hclient, Option.map_some, List.map_cons]
      exact .cons ⟨rfl, rfl, rfl, NetworkHandler.data_write ..⟩ ih

variable [DecidableEq ι]

@[simp] theorem Wire.nodes_set_self (w : Wire ι) (i : ι) (node : ClusterNode)
    (sent : List (Dispatch ι)) : (w.set i node sent).nodes i = node := by
  simp [Wire.set]

@[simp] theorem Wire.nodes_set_of_ne {i j : ι} (h : j ≠ i) (w : Wire ι) (node : ClusterNode)
    (sent : List (Dispatch ι)) : (w.set i node sent).nodes j = w.nodes j := by
  simp [Wire.set, h]

namespace Cluster

variable {s : Cluster ι} {i : ι} {time : TimePoint}

theorem set_self (s : Cluster ι) (i : ι) : s.set i (s.nodes i) [] = s := by
  simp [set]

theorem set_set (s : Cluster ι) (i : ι) (node other : ClusterNode)
    (entries others : List (Entry ι)) :
    (s.set i node entries).set i other others = s.set i other (entries ++ others) := by
  simp [set]

theorem receive_of_delivered {delivery : Delivery} {tx : Transmission ι}
    (h : s.delivered? i delivery = some tx) :
    s.receive i time delivery = s.set i { s.nodes i with
      routeManager := ((s.nodes i).routeManager.processDiscoveryMessage
        (s.nodes i).adapterManager tx.message (s.networkInfo i time delivery tx)).2.2 }
      [.received i delivery.adapter time delivery.position] := by
  rw [receive, h]

/-- What an update of the network handler raises can be delivered. -/
structure Raises (s : Cluster ι) (i : ι) (time : TimePoint) (event : NetworkEvent)
    (tx : Transmission ι) : Prop where
  sent : .sent tx ∈ s.history
  message : event.message = .discovery tx.message
  sender : event.info.sender = tx.sender
  receptionTime : event.info.receptionTime = time
  client : (s.nodes i).networkHandler.clients.any (·.info.adapter = event.info.adapter)

theorem Raises.set {event : NetworkEvent} {tx : Transmission ι} {node : ClusterNode}
    {entries : List (Entry ι)} (hs : s.Raises i time event tx)
    (h : node.networkHandler = (s.nodes i).networkHandler) :
    (s.set i node entries).Raises i time event tx where
  sent := List.mem_append_left _ hs.sent
  message := hs.message
  sender := hs.sender
  receptionTime := hs.receptionTime
  client := by
    rw [nodes_set_self, h]
    exact hs.client

theorem exists_deliveries {events : List NetworkEvent}
    (h : ∀ event ∈ events, ∃ tx, s.Raises i time event tx) :
    ∃ (deliveries : List Delivery) (entries : List (Entry ι)),
      entries.filterMap Entry.transmission? = [] ∧
      deliveries.foldl (receive i time) s = s.set i ((s.nodes i).handleEvents events) entries := by
  induction events generalizing s with
  | nil => exact ⟨[], [], rfl, (set_self s i).symm⟩
  | cons event events ih =>
    obtain ⟨⟨tx, htx⟩, hrest⟩ := List.forall_mem_cons.mp h
    obtain ⟨position, hposition⟩ := List.getElem?_of_mem htx.sent
    have hdelivered : s.delivered? i ⟨position, event.info.adapter⟩ = some tx := by
      rw [delivered?, hposition]
      exact if_pos htx.client
    have hstep : s.receive i time ⟨position, event.info.adapter⟩ =
        s.set i ((s.nodes i).handleEvents [event])
          [.received i event.info.adapter time position] := by
      have hevent := RouteManager.handleEvent_eq (s.nodes i).routeManager
        (s.nodes i).adapterManager (s.networkInfo i time ⟨position, event.info.adapter⟩ tx)
        htx.message htx.sender htx.receptionTime rfl
      rw [receive_of_delivered hdelivered, ← hevent]
      rfl
    obtain ⟨deliveries, entries, hquiet, hrun⟩ :=
      ih (s := s.set i ((s.nodes i).handleEvents [event])
        [.received i event.info.adapter time position]) fun other hother => by
          obtain ⟨tx, htx⟩ := hrest other hother
          exact ⟨tx, htx.set rfl⟩
    refine ⟨⟨position, event.info.adapter⟩ :: deliveries,
      .received i event.info.adapter time position :: entries, ?_, ?_⟩
    · exact hquiet
    · rw [List.foldl_cons, hstep, hrun, set_set, nodes_set_self]
      rfl

end Cluster

-- ---------------------------------------------------------------------------
-- The steps keep it
-- ---------------------------------------------------------------------------

namespace Wire.Refines

variable {md5 : List Byte → Digest} {w : Wire ι} {s : Cluster ι}

theorem set (hr : w.Refines md5 s) {i : ι} {node node' : ClusterNode}
    {sent : List (Dispatch ι)} {entries : List (Entry ι)} (hquiet : node.quiet = node'.quiet)
    (hsent : List.Forall₂ (Dispatch.Carries md5) sent (entries.filterMap Entry.transmission?))
    (hstreams : ∀ client ∈ node.networkHandler.openClients, client.Orderly md5 s.Said) :
    (w.set i node sent).Refines md5 (s.set i node' entries) := by
  have hgrows : s.history <+: (s.set i node' entries).history := List.prefix_append ..
  constructor
  case nodes =>
    intro j
    by_cases h : j = i
    · subst h
      simpa using hquiet
    · simpa [h] using hr.nodes j
  case sent =>
    rw [Cluster.transmissions, Cluster.history_set, List.filterMap_append]
    exact List.rel_append hr.sent hsent
  case streams =>
    intro j client hclient
    have horderly : client.Orderly md5 s.Said := by
      by_cases h : j = i
      · subst h
        rw [Wire.nodes_set_self] at hclient
        exact hstreams client hclient
      · rw [Wire.nodes_set_of_ne h] at hclient
        exact hr.streams j client hclient
    exact horderly.mono fun _ _ hsaid => hsaid.mono hgrows

theorem set_left (hr : w.Refines md5 s) {i : ι} {node : ClusterNode}
    (hquiet : node.quiet = (w.nodes i).quiet)
    (hstreams : ∀ client ∈ node.networkHandler.openClients, client.Orderly md5 s.Said) :
    (w.set i node []).Refines md5 s := by
  rw [← Cluster.set_self s i]
  exact hr.set (hquiet.trans (hr.nodes i)) .nil hstreams

theorem complete (hr : w.Refines md5 s) (i : ι) (k : Nat) (attempts : NetworkHandler.Attempts) :
    (w.complete i k attempts).Refines md5 (s.complete i k attempts) := by
  obtain ⟨hmanager, hhandler, hroutes, htransmission⟩ := ClusterNode.quiet_eq (hr.nodes i)
  refine hr.set ?_ .nil fun client hclient => ?_
  · simp only [ClusterNode.quiet, NetworkHandler.quiet_complete, hmanager, hhandler, hroutes,
      htransmission]
  · exact hr.streams i client (NetworkHandler.openClients_complete hclient)

theorem arrive (hr : w.Refines md5 s) (i : ι) (socket : Socket) (position : Nat) :
    (w.arrive i socket position).Refines md5 s := by
  rw [Wire.arrive]
  cases hsent : w.history[position]? with
  | none => exact hr
  | some sent =>
    have hquiet := NetworkHandler.quiet_arrive sent.datagram.data sent.sender
      (w.nodes i).networkHandler socket
    refine hr.set_left ?_ fun client hclient => ?_
    · simp only [ClusterNode.quiet, hquiet]
    · rcases NetworkHandler.openClients_arrive hclient with hclient | ⟨old, hold, rfl⟩
      · exact hr.streams i client hclient
      · obtain ⟨tx, htx, hcarries⟩ := exists_of_forall₂ hr.sent (List.mem_of_getElem? hsent)
        rw [hcarries.data]
        exact (hr.streams i old hold).handleRead
          ⟨tx, Cluster.mem_transmissions.mp htx, hcarries.sender.symm, rfl⟩

/-- Whatever an update raises was sent to the cluster. -/
theorem raises (hr : w.Refines md5 s) (hmemory : w.InMemory)
    (hmd5 : lastPartDigest (md5 []) ≠ 0) (i : ι) (time : TimePoint) :
    ∀ event ∈ ((w.nodes i).networkHandler.update md5 time).1,
      ∃ tx, (s.collect i time).Raises i time event tx := by
  intro event hevent
  rw [NetworkHandler.update_events] at hevent
  obtain ⟨client, hclient, hevent⟩ := List.mem_flatMap.mp hevent
  have hopen : client ∈ (w.nodes i).networkHandler.openClients :=
    (NetworkHandler.openClients_collectClients _).mem_iff.mp (List.mem_append_left _ hclient)
  obtain ⟨⟨packet, ⟨tx, hsent, hsender, rfl⟩, hmessage⟩, hinfo⟩ :=
    (hr.streams i client hopen).events_update (hmemory i client hopen) hmd5 hevent
  refine ⟨tx, ⟨?_, ?_, ?_, ?_, ?_⟩⟩
  · exact List.mem_append_left _ hsent
  · simpa using hmessage
  · exact hsender.symm
  · rw [hinfo]
  · have hquiet := (ClusterNode.quiet_eq (hr.nodes i)).2.1
    have hsame : (w.nodes i).networkHandler.collectClients.quiet =
        ((s.collect i time).nodes i).networkHandler.quiet := by
      rw [NetworkHandler.quiet_collectClients, hquiet, ← NetworkHandler.quiet_collectClients,
        Cluster.collect, Cluster.nodes_set_self]
    rw [← NetworkHandler.any_quiet, ← hsame, NetworkHandler.any_quiet, List.any_eq_true]
    exact ⟨client, hclient, by rw [hinfo]; exact decide_eq_true rfl⟩

theorem updateNetwork (hr : w.Refines md5 s) (hmemory : w.InMemory)
    (hmd5 : lastPartDigest (md5 []) ≠ 0) (i : ι) (time : TimePoint) :
    ∃ deliveries, (w.updateNetwork md5 i time).Refines md5 (s.beforeUpdate i time deliveries) := by
  obtain ⟨deliveries, entries, hquiet, hrun⟩ :=
    Cluster.exists_deliveries (hr.raises hmemory hmd5 i time)
  obtain ⟨hmanager, hhandler, hroutes, htransmission⟩ := ClusterNode.quiet_eq (hr.nodes i)
  refine ⟨deliveries, ?_⟩
  rw [Cluster.beforeUpdate, hrun, Cluster.collect, Cluster.set_set, Cluster.nodes_set_self]
  refine hr.set ?_ ?_ fun client hclient => ?_
  · simp only [ClusterNode.quiet, ClusterNode.updateNetwork, ClusterNode.handleEvents,
      NetworkHandler.quiet_update, NetworkHandler.quiet_collectClients, hmanager, hhandler,
      hroutes, htransmission]
  · rw [List.filterMap_append, hquiet]
    exact .nil
  · rcases NetworkHandler.openClients_update hclient with hclient | ⟨old, hold, rfl⟩
    · exact hr.streams i client hclient
    · exact (hr.streams i old hold).update (hmemory i old hold) hmd5 time

theorem updateRoutes (hr : w.Refines md5 s) (i : ι) (time : TimePoint) :
    (w.updateRoutes i time).Refines md5 (s.updateRoutes i time) := by
  obtain ⟨hmanager, hhandler, hroutes, htransmission⟩ := ClusterNode.quiet_eq (hr.nodes i)
  refine hr.set ?_ .nil (hr.streams i)
  simp only [ClusterNode.quiet, hmanager, hhandler, hroutes, htransmission]

theorem transmit (hr : w.Refines md5 s) (i : ι) (time : TimePoint) :
    (w.transmit md5 i time).Refines md5 (s.transmit i time) := by
  obtain ⟨hmanager, hhandler, hroutes, htransmission⟩ := ClusterNode.quiet_eq (hr.nodes i)
  have hmulticasts : (w.nodes i).multicasts = (s.nodes i).multicasts := by
    rw [← ClusterNode.multicasts_quiet, hr.nodes i, ClusterNode.multicasts_quiet]
  have hcarries := ClusterNode.carries_dispatches md5 i time (w.nodes i)
  rw [hmulticasts] at hcarries
  refine hr.set ?_ ?_ (hr.streams i)
  · simp only [ClusterNode.quiet, hmanager, hhandler, hroutes, htransmission]
  · rw [htransmission]
    split
    · simpa [List.filterMap_map, Function.comp_def, Entry.transmission?] using hcarries
    · exact .nil

theorem poll (hr : w.Refines md5 s) (hmemory : w.InMemory) (hmd5 : lastPartDigest (md5 []) ≠ 0)
    (i : ι) (time : TimePoint) :
    ∃ deliveries, (w.poll md5 i time).Refines md5 (s.step (.poll i time deliveries)) := by
  obtain ⟨deliveries, hupdated⟩ := hr.updateNetwork hmemory hmd5 i time
  exact ⟨deliveries, (hupdated.updateRoutes i time).transmit i time⟩

end Wire.Refines

-- ---------------------------------------------------------------------------
-- Runs
-- ---------------------------------------------------------------------------

/-- What the nodes do themselves. -/
def Action.withoutDeliveries : Action ι → Action ι
  | .complete i k attempts => .complete i k attempts
  | .poll i time _ => .poll i time []

def WireAction.actions : WireAction ι → List (Action ι)
  | .complete i k attempts => [.complete i k attempts]
  | .arrive _ _ _ => []
  | .poll i time => [.poll i time []]

namespace Wire

variable {md5 : List Byte → Digest} {w : Wire ι}

/-- The nodes as those of a cluster in which nothing happened yet. -/
def cluster (w : Wire ι) : Cluster ι := ⟨w.nodes, []⟩

omit [DecidableEq ι] in
theorem Initial.cluster (hw : w.Initial) : w.cluster.Initial := ⟨hw.fresh, rfl⟩

omit [DecidableEq ι] in
theorem Initial.refines (hw : w.Initial) (md5 : List Byte → Digest) :
    w.Refines md5 w.cluster where
  nodes _ := rfl
  sent := by
    rw [hw.history]
    exact .nil
  streams i client hclient := NetworkClient.orderly_new md5 _ (hw.streams i client hclient)

theorem Refines.step {s : Cluster ι} (hr : w.Refines md5 s) (hmemory : w.InMemory)
    (hmd5 : lastPartDigest (md5 []) ≠ 0) (action : WireAction ι) :
    ∃ answers : List (Action ι), answers.map Action.withoutDeliveries = action.actions ∧
      (w.step md5 action).Refines md5 (answers.foldl Cluster.step s) := by
  cases action with
  | complete i k attempts => exact ⟨[.complete i k attempts], rfl, hr.complete i k attempts⟩
  | arrive i socket position => exact ⟨[], rfl, hr.arrive i socket position⟩
  | poll i time =>
    obtain ⟨deliveries, hpoll⟩ := hr.poll hmemory hmd5 i time
    exact ⟨[.poll i time deliveries], rfl, hpoll⟩

/-- A run in which no stream outgrows the memory. -/
def Runs (md5 : List Byte → Digest) (w : Wire ι) (actions : List (WireAction ι)) : Prop :=
  Throughout (step md5) (fun w _ => w.InMemory) w actions

theorem Initial.run (hw : w.Initial) (hmd5 : lastPartDigest (md5 []) ≠ 0)
    {actions : List (WireAction ι)} (hrun : w.Runs md5 actions) :
    ∃ answers : List (Action ι),
      answers.map Action.withoutDeliveries = actions.flatMap WireAction.actions ∧
        (actions.foldl (Wire.step md5) w).Refines md5 (answers.foldl Cluster.step w.cluster) :=
  hrun.forward (hw.refines md5) fun _ _ action hr hmemory => hr.step hmemory hmd5 action

omit [DecidableEq ι] in
theorem Refines.exists_dispatch {s : Cluster ι} (hr : w.Refines md5 s) {tx : Transmission ι}
    (h : .sent tx ∈ s.history) : ∃ sent ∈ w.history, sent.Carries md5 tx := by
  have hflip : List.Forall₂ (fun tx (sent : Dispatch ι) => sent.Carries md5 tx) s.transmissions
      w.history := hr.sent.flip
  exact exists_of_forall₂ hflip (Cluster.mem_transmissions.mpr h)

omit [DecidableEq ι] in
theorem Refines.routes {s : Cluster ι} (hr : w.Refines md5 s) (i : ι) :
    (w.nodes i).routeManager = s.routes i := (ClusterNode.quiet_eq (hr.nodes i)).2.2.1

-- ---------------------------------------------------------------------------
-- What holds on the wire
-- ---------------------------------------------------------------------------

instance (md5 : List Byte → Digest) (w : Wire (Fin n)) (actions : List (WireAction (Fin n))) :
    Decidable (w.Runs md5 actions) :=
  @Throughout.decidable _ _ _ _ (fun w _ => inferInstanceAs (Decidable
    (∀ i, ∀ client ∈ (w.nodes i).networkHandler.openClients, client.InMemory))) w actions

def wirePair : Wire (Fin 2) := ⟨pair.nodes, []⟩

theorem initial_wirePair : wirePair.Initial where
  fresh := initial_pair.fresh
  streams := by
    refine Fin.forall_fin_two.mpr ⟨?_, ?_⟩
    · show ∀ client ∈ [_], _
      simp only [List.forall_mem_singleton]
      rfl
    · show ∀ client ∈ [_], _
      simp only [List.forall_mem_singleton]
      rfl
  history := rfl

/-- The second node receives twice what the first one sends. -/
def wireMeeting : List (WireAction (Fin 2)) :=
  let first := ⟨0, Nat.zero_lt_two⟩
  let second := ⟨1, Nat.one_lt_two⟩
  [.poll first 0, .arrive second (.running 0) 0, .arrive second (.running 0) 0, .poll second 0]

/-- A packet in which a node that knows no route announces itself, up to the
checksum. -/
def announcementBytes (high low : Byte) : List Byte :=
  [0, 0, 0, 20, 0, 1, 0, 0, 0, 10, 0, 1, high, low, 0, 0]

/-- The digests of the bytes that the two nodes hash. -/
def pairDigests (bytes : List Byte) : Digest :=
  if bytes = announcementBytes 0 7 then
    #v[0xac, 0x2f, 0xaa, 0xb2, 0x35, 0x67, 0x7c, 0xba,
      0x8f, 0x02, 0x75, 0xb4, 0x5d, 0xcc, 0x8c, 0xc3]
  else if bytes = announcementBytes 0 8 then
    #v[0x6c, 0x2c, 0xb5, 0x18, 0xed, 0x9c, 0xd4, 0x88,
      0x67, 0xdd, 0x01, 0x40, 0x01, 0xdf, 0x84, 0x03]
  else emptyDigest

/-- However the network treats the datagrams of a run, there is a run of the
cluster in which the nodes do the same, and which leaves the same tables, the
same timers and the same transmissions. -/
theorem refinement (md5 : List Byte → Digest) (hmd5 : lastPartDigest (md5 []) ≠ 0) (w : Wire ι)
    (hw : w.Initial) (actions : List (WireAction ι)) (hrun : w.Runs md5 actions) :
    ∃ answers : List (Action ι),
      answers.map Action.withoutDeliveries = actions.flatMap WireAction.actions ∧
      (∀ i, ((actions.foldl (step md5) w).nodes i).routeManager =
          ((answers.foldl Cluster.step w.cluster).nodes i).routeManager ∧
        ((actions.foldl (step md5) w).nodes i).transmissionHandler =
          ((answers.foldl Cluster.step w.cluster).nodes i).transmissionHandler) ∧
      List.Forall₂ (Dispatch.Carries md5) (actions.foldl (step md5) w).history
        (answers.foldl Cluster.step w.cluster).transmissions := by
  obtain ⟨answers, hanswers, hr⟩ := hw.run hmd5 hrun
  refine ⟨answers, hanswers, fun i => ?_, hr.sent⟩
  obtain ⟨-, -, hroutes, htransmission⟩ := ClusterNode.quiet_eq (hr.nodes i)
  exact ⟨hroutes, htransmission⟩

theorem refinement_pair :
    ∃ answers : List (Action (Fin 2)),
      answers.map Action.withoutDeliveries = [.poll 0 0 [], .poll 1 0 []] ∧
      (∀ i, ((wireMeeting.foldl (step pairDigests) wirePair).nodes i).routeManager =
          ((answers.foldl Cluster.step wirePair.cluster).nodes i).routeManager ∧
        ((wireMeeting.foldl (step pairDigests) wirePair).nodes i).transmissionHandler =
          ((answers.foldl Cluster.step wirePair.cluster).nodes i).transmissionHandler) ∧
      List.Forall₂ (Dispatch.Carries pairDigests)
        (wireMeeting.foldl (step pairDigests) wirePair).history
        (answers.foldl Cluster.step wirePair.cluster).transmissions :=
  refinement pairDigests (by decide) wirePair initial_wirePair wireMeeting
    (by decide +kernel)

/-- What an update raises is a discovery message that a node sent, with the
identifier of the node and from the address that it was sent from. -/
theorem events_genuine (md5 : List Byte → Digest) (hmd5 : lastPartDigest (md5 []) ≠ 0)
    (w : Wire ι) (hw : w.Initial) (actions : List (WireAction ι)) (i : ι) (time : TimePoint)
    (hrun : w.Runs md5 (actions ++ [.poll i time])) :
    ∀ event ∈ (((actions.foldl (step md5) w).nodes i).networkHandler.update md5 time).1,
      ∃ sent ∈ (actions.foldl (step md5) w).history, ∃ message : DiscoveryMessage,
        sent.datagram.data = transmission md5 [.discovery message] ∧
        message.identifier = (w.nodes sent.node).nodeId ∧
        event = .discoveryMessageReceived message event.info ∧
        event.info.sender = sent.sender ∧ event.info.receptionTime = time := by
  obtain ⟨answers, -, hr⟩ := hw.run hmd5 hrun.left
  have hsound := Sound.run hw.cluster answers
  intro event hevent
  obtain ⟨tx, htx⟩ := hr.raises hrun.step_after hmd5 i time event hevent
  have hsaid : .sent tx ∈ (answers.foldl Cluster.step w.cluster).history := by
    simpa [Cluster.collect] using htx.sent
  obtain ⟨position, hposition⟩ := List.getElem?_of_mem hsaid
  obtain ⟨sent, hsent, hcarries⟩ := hr.exists_dispatch hsaid
  refine ⟨sent, hsent, tx.message, hcarries.data, ?_, ?_, ?_, htx.receptionTime⟩
  · rw [hcarries.node]
    exact (hsound.messages position tx hposition).identifier
  · have hmessage := htx.message
    cases event with
    | discoveryMessageReceived message info =>
      cases hmessage
      rfl
    | dataMessageReceived => contradiction
  · rw [htx.sender, hcarries.sender]

/-- What the second node raises when it updates. -/
def heardFirst : NetworkEvent :=
  .discoveryMessageReceived ⟨7, []⟩ ⟨0, ⟨1⟩, ⟨4026468874⟩, ⟨2⟩⟩

theorem events_genuine_pair :
    ∃ sent ∈ ((wireMeeting.take 3).foldl (step pairDigests) wirePair).history,
      ∃ message : DiscoveryMessage,
        sent.datagram.data = transmission pairDigests [.discovery message] ∧
        message.identifier = (wirePair.nodes sent.node).nodeId ∧
        heardFirst = .discoveryMessageReceived message heardFirst.info ∧
        heardFirst.info.sender = sent.sender ∧ heardFirst.info.receptionTime = 0 :=
  events_genuine pairDigests (by decide) wirePair initial_wirePair
    (wireMeeting.take 3) 1 0 (by decide +kernel) heardFirst (by decide +kernel)

/-- Every route of a run leads to a node that announced itself with the
route's address, and was told by a node at the address of the reporter. Its
jumps are hops, of which there are no more than a bound that does not depend
on the run. -/
theorem routes_announced [Fintype ι] (md5 : List Byte → Digest)
    (hmd5 : lastPartDigest (md5 []) ≠ 0) (w : Wire ι) (hw : w.Initial) :
    ∃ bound, ∀ actions, w.Runs md5 actions → ∀ i guid route,
      ((actions.foldl (step md5) w).nodes i).routeManager.Holds guid route →
        (∃ k, 1 ≤ k ∧ k ≤ bound ∧ route.status.jumps = List.replicate k 256) ∧
        (∃ sent ∈ (actions.foldl (step md5) w).history,
          (w.nodes sent.node).nodeId = route.identifier.node.id ∧
            sent.sender = route.identifier.node.address) ∧
        ∃ sent ∈ (actions.foldl (step md5) w).history, sent.sender = route.identifier.reporter := by
  refine ⟨(possibleCombinations w.cluster).card, fun actions hrun i guid route hholds => ?_⟩
  obtain ⟨answers, -, hr⟩ := hw.run hmd5 hrun
  rw [hr.routes] at hholds
  have hsound := Sound.run hw.cluster answers
  have hshort := Short.run hw.cluster answers
  have hcard := Finset.card_le_card (combinations_subset hw.cluster answers)
  have hlength := (hshort.tables i).of_holds (hsound.distinct i) hholds
  obtain ⟨k, ⟨hk, hjumps⟩, p, r, tx, time, hrelayed, -, hsent, hreporter, -⟩ :=
    (hsound.tables i).of_holds (hsound.distinct i) hholds
  rw [hjumps, List.length_replicate] at hlength
  refine ⟨⟨k, hk, Nat.le_trans hlength hcard, hjumps⟩, ?_, ?_⟩
  · obtain ⟨q, first, hfirst, hid, haddress⟩ := hrelayed.announced
    obtain ⟨sent, hmem, hcarries⟩ := hr.exists_dispatch (List.mem_of_getElem? hfirst)
    exact ⟨sent, hmem, by rw [hcarries.node]; exact hid, hcarries.sender.trans haddress⟩
  · obtain ⟨sent, hmem, hcarries⟩ := hr.exists_dispatch (List.mem_of_getElem? hsent)
    exact ⟨sent, hmem, hcarries.sender.trans hreporter⟩

theorem routes_announced_pair :
    ∃ bound, ∀ actions, wirePair.Runs pairDigests actions → ∀ i guid route,
      ((actions.foldl (step pairDigests) wirePair).nodes i).routeManager.Holds guid
          route →
        (∃ k, 1 ≤ k ∧ k ≤ bound ∧ route.status.jumps = List.replicate k 256) ∧
        (∃ sent ∈ (actions.foldl (step pairDigests) wirePair).history,
          (wirePair.nodes sent.node).nodeId = route.identifier.node.id ∧
            sent.sender = route.identifier.node.address) ∧
        ∃ sent ∈ (actions.foldl (step pairDigests) wirePair).history,
          sent.sender = route.identifier.reporter :=
  routes_announced pairDigests (by decide) wirePair initial_wirePair

example : ((wireMeeting.foldl (step pairDigests) wirePair).nodes 1).routeManager.Holds
    "b" met := by
  unfold RouteManager.Holds
  decide +kernel

end Wire

end Discnet
