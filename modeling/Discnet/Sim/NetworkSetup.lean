import Discnet.Sim.Isolation

/-!
# What the network is built from

Of a simulated node only its adapters, those that its manager knows and its
configuration matter to the network. All that the traffic manager is told of
them, it is told while the adapters of a node are updated: the new ones are
announced, each by the client that was made for it.
-/

namespace Discnet

open Lib Network Network.Messages

-- ---------------------------------------------------------------------------
-- Adapters that do not change
-- ---------------------------------------------------------------------------

namespace AdapterManager

/-- Every fetched adapter is new, or known as it is. -/
def Steady (fetched : List Adapter) (m : AdapterManager) : Prop :=
  ∀ adapter ∈ fetched, m.adapters[adapter.macAddress]? = none ∨
    m.adapters[adapter.macAddress]? = some adapter

def unknown (fetched : List Adapter) (m : AdapterManager) : List Adapter :=
  fetched.filter fun adapter => m.adapters[adapter.macAddress]?.isNone

variable {m : AdapterManager} {fetched : List Adapter}

theorem updateAdapter_of_known {adapter : Adapter}
    (h : m.adapters[adapter.macAddress]? = some adapter) : m.updateAdapter adapter = ([], m) := by
  simp [updateAdapter, h]

theorem updateAdapter_of_unknown {adapter : Adapter}
    (h : m.adapters[adapter.macAddress]? = none) :
    m.updateAdapter adapter = ([.new adapter], ⟨m.adapters.insert adapter.macAddress adapter⟩) := by
  simp [updateAdapter, h]

/-- What is known about the others stays, so each is new at most once. -/
theorem updateAdapters_of_steady (hfetched : DistinctMacs fetched) (h : m.Steady fetched) :
    (m.updateAdapters fetched).1 = (m.unknown fetched).map .new := by
  induction fetched generalizing m with
  | nil => rfl
  | cons adapter rest ih =>
    obtain ⟨hadapter, hrest⟩ := List.nodup_cons.mp hfetched
    have hothers : ∀ other ∈ rest, adapter.macAddress ≠ other.macAddress := by
      intro other hother hmac
      exact hadapter (List.mem_map.mpr ⟨other, hother, hmac.symm⟩)
    obtain ⟨hfirst, hlater⟩ := List.forall_mem_cons.mp h
    rw [updateAdapters]
    rcases hfirst with hnone | hknown
    · have hsame : ∀ other ∈ rest, (m.adapters.insert adapter.macAddress adapter)[
          other.macAddress]? = m.adapters[other.macAddress]? := by
        intro other hother
        simp [Std.TreeMap.getElem?_insert, hothers other hother]
      rw [updateAdapter_of_unknown hnone]
      dsimp only
      rw [ih hrest fun other hother => by rw [hsame other hother]; exact hlater other hother,
        unknown, unknown, List.filter_cons_of_pos (by simp [hnone])]
      rw [List.filter_congr fun other hother => by rw [hsame other hother]]
      rfl
    · rw [updateAdapter_of_known hknown]
      dsimp only
      rw [ih hrest hlater, unknown, unknown, List.filter_cons_of_neg (by simp [hknown])]
      rfl

theorem update_of_steady (hfetched : DistinctMacs fetched) (h : m.Steady fetched) :
    ∃ removed : List Adapter,
      (m.update fetched).1 = (m.unknown fetched).map .new ++ removed.map .removed := by
  refine ⟨((m.updateAdapters fetched).2.adapters.toList.filter fun entry =>
    !isFetched fetched entry.1).map Prod.snd, ?_⟩
  rw [update, updateAdapters_of_steady hfetched h, removeMissing, List.map_map]
  rfl

/-- Afterwards the fetched adapters are known as they are. -/
theorem known_of_steady (hm : m.KeyedByMac) (hfetched : DistinctMacs fetched)
    (h : m.Steady fetched) (hadapter : adapter ∈ fetched) :
    (m.update fetched).2.adapters[adapter.macAddress]? = some adapter := by
  have hat : fetchedAt fetched adapter.macAddress = some adapter := by
    cases hfound : fetchedAt fetched adapter.macAddress with
    | none =>
      have hne := List.find?_eq_none.mp hfound adapter hadapter
      simp at hne
    | some other =>
      have hother : other ∈ fetched := List.mem_of_find?_eq_some hfound
      rw [List.inj_on_of_nodup_map hfetched hother hadapter (mac_of_fetchedAt hfound)]
  rw [adapters_update hm hfetched, hat]
  rcases h adapter hadapter with hnone | hknown
  · rw [hnone, knownAfter]
  · rw [hknown, knownAfter, if_pos (adapterDiff_self adapter)]

end AdapterManager

-- ---------------------------------------------------------------------------
-- Clients that are made
-- ---------------------------------------------------------------------------

namespace Network.NetworkHandler

variable {h : NetworkHandler}

theorem configuration_addClient (adapter : Adapter) (h : NetworkHandler) :
    (h.addClient adapter).configuration = h.configuration := by
  rw [addClient]
  cases adapter.addressList with
  | nil => split_ifs <;> rfl
  | cons front rest => split_ifs <;> rfl

theorem created_addClient (adapter : Adapter) (h : NetworkHandler) :
    h.created (h.addClient adapter) = adapter.listenAddresses.map fun address =>
      { adapterIdentifier := adapter.macAddress
        info := ⟨address, h.configuration.multicastPort, h.configuration.multicastAddress⟩
        dataHandler := .new 4095 } := by
  rw [created, addClient, Adapter.listenAddresses]
  cases hlist : adapter.addressList with
  | nil => cases adapter.enabled <;> simp
  | cons front rest =>
    cases adapter.enabled <;> cases adapter.loopback <;> simp [AdapterInit.starting?]

theorem created_self (h : NetworkHandler) : h.created h = [] := by simp [created]

end Network.NetworkHandler

-- ---------------------------------------------------------------------------
-- What the network is built from
-- ---------------------------------------------------------------------------

namespace Sim

open Std

/-- The adapters of a node, those that its manager knows, and the address its
clients listen for. -/
structure NodeSetup where
  entries : List SimulatorAdapterEntry
  manager : AdapterManager
  configuration : Configuration

def SimulatedNode.setup (node : SimulatedNode) : NodeSetup where
  entries := node.adapterFetcher.entries
  manager := node.components.adapterManager
  configuration := node.components.networkHandler.configuration

namespace Simulator

def setup (s : Simulator) (id : NodeIdentifier) : Option NodeSetup :=
  s.nodes[id]?.map SimulatedNode.setup

/-- What the traffic manager was told. -/
def trace (s : Simulator) : List TrafficCall := s.history.filterMap Happening.call?

def network (s : Simulator) : LinkedNetwork := s.trace.foldl LinkedNetwork.step {}

end Simulator

/-- Nothing has happened that matters to the network. -/
structure SameSetup (s t : Simulator) : Prop where
  setup : ∀ id, t.setup id = s.setup id
  trace : t.trace = s.trace
  manager : t.trafficManager = s.trafficManager

namespace SameSetup

variable {s t u : Simulator} {id : NodeIdentifier}

theorem refl (s : Simulator) : SameSetup s s := ⟨fun _ => rfl, rfl, rfl⟩

theorem trans (h : SameSetup s t) (h' : SameSetup t u) : SameSetup s u :=
  ⟨fun id => (h'.setup id).trans (h.setup id), h'.trace.trans h.trace,
    h'.manager.trans h.manager⟩

theorem modifyNode {f : SimulatedNode → SimulatedNode}
    (hf : ∀ node, s.nodes[id]? = some node → (f node).setup = node.setup) :
    SameSetup s (s.modifyNode id f) := by
  refine ⟨fun other => ?_, rfl, rfl⟩
  rw [Simulator.setup, Simulator.setup, Simulator.modifyNode, TreeMap.getElem?_modify]
  split
  · rename_i hsame
    obtain rfl := compare_eq_iff_eq.mp hsame
    cases hnode : s.nodes[id]? with
    | none => rfl
    | some node => simp [hf node hnode]
  · rfl

theorem log {happenings : List Happening} (h : happenings.filterMap Happening.call? = []) :
    SameSetup s (s.log happenings) := by
  refine ⟨fun _ => rfl, ?_, rfl⟩
  simp [Simulator.trace, Simulator.log, h]

theorem complete (k : Nat) (time : TimePoint) : SameSetup s (s.complete id k time) :=
  modifyNode fun _ _ => rfl

theorem updateRoutes (time : TimePoint) : SameSetup s (s.updateRoutes id time) :=
  modifyNode fun _ _ => rfl

theorem receive (reception : Reception) : SameSetup s (s.receive reception) :=
  modifyNode fun _ _ => rfl

theorem foldl {α : Type} {f : Simulator → α → Simulator} (hf : ∀ s a, SameSetup s (f s a))
    (s : Simulator) (inputs : List α) : SameSetup s (inputs.foldl f s) :=
  List.foldlRecOn inputs f (refl s) fun _ hs input _ => hs.trans (hf _ input)

theorem multicast (sent : SimulatorUdpClient × List Byte) : SameSetup s (s.multicast sent) :=
  (log rfl).trans (foldl (fun _ => receive) _ _)

variable {md5 : List Byte → Digest} {time : TimePoint}

theorem updateNetwork : SameSetup s (s.updateNetwork md5 id time) := by
  rw [Simulator.updateNetwork]
  cases s.nodes[id]? with
  | none => exact refl s
  | some node =>
    refine (?_ : SameSetup s _).trans (log ?_)
    · exact modifyNode fun _ _ => rfl
    · simp [List.filterMap_map, Function.comp_def, Happening.call?]

theorem transmit : SameSetup s (s.transmit md5 id time) := by
  rw [Simulator.transmit]
  cases s.nodes[id]? with
  | none => exact refl s
  | some node =>
    dsimp only
    split
    · refine (?_ : SameSetup s _).trans (foldl (fun _ => multicast) _ _)
      exact modifyNode fun _ _ => rfl
    · exact modifyNode fun _ _ => rfl

/-- Of an update of a node only the adapters matter. -/
theorem updateNode : SameSetup (s.updateAdapters id) (s.updateNode md5 time id) :=
  (updateNetwork.trans (updateRoutes time)).trans transmit

end SameSetup

-- ---------------------------------------------------------------------------
-- What an update tells the traffic manager
-- ---------------------------------------------------------------------------

/-- The client that is made to listen at the address. -/
def NodeSetup.client (setup : NodeSetup) (id : NodeIdentifier) (address : Address) :
    SimulatorUdpClient :=
  ⟨id, ⟨address, setup.configuration.multicastPort, setup.configuration.multicastAddress⟩⟩

/-- How the client is announced. -/
def NodeSetup.announcing (setup : NodeSetup) (id : NodeIdentifier) (info : UdpInfo) :
    List TrafficCall :=
  (findIdentifier info.adapter setup.entries).toList.map fun identifier =>
    .addNode id identifier ⟨id, info⟩

/-- What a new adapter is announced by. -/
def NodeSetup.added (setup : NodeSetup) (id : NodeIdentifier) (adapter : Adapter) :
    List TrafficCall :=
  adapter.listenAddresses.flatMap fun address => setup.announcing id (setup.client id address).info

namespace Simulator

variable {s : Simulator} {id : NodeIdentifier} {setup : NodeSetup}

theorem exists_of_setup (h : s.setup id = some setup) :
    ∃ node, s.nodes[id]? = some node ∧ node.setup = setup := Option.map_eq_some_iff.mp h

theorem trace_call (call : TrafficCall) : (s.call call).trace = s.trace ++ [call] := by
  simp [trace, Simulator.call, log, Happening.call?]

end Simulator

/-- The setups stay, and the traffic manager is told more. -/
structure Told (s : Simulator) (calls : List TrafficCall) (t : Simulator) : Prop where
  setup : ∀ id, t.setup id = s.setup id
  trace : t.trace = s.trace ++ calls
  manager : t.trafficManager = calls.foldl NetworkTrafficManager.call s.trafficManager

namespace Told

variable {s t u : Simulator} {id : NodeIdentifier} {setup : NodeSetup}
  {calls others : List TrafficCall}

theorem of_same (h : SameSetup s t) : Told s [] t :=
  ⟨h.setup, by rw [h.trace, List.append_nil], h.manager⟩

theorem call (s : Simulator) (call : TrafficCall) : Told s [call] (s.call call) :=
  ⟨fun _ => rfl, Simulator.trace_call call, rfl⟩

theorem trans (h : Told s calls t) (h' : Told t others u) : Told s (calls ++ others) u where
  setup id := (h'.setup id).trans (h.setup id)
  trace := by rw [h'.trace, h.trace, List.append_assoc]
  manager := by rw [h'.manager, h.manager, List.foldl_append]

theorem foldl {α : Type} {f : Simulator → α → Simulator} {calls : α → List TrafficCall}
    (hf : ∀ t a, t.setup id = s.setup id → Told t (calls a) (f t a)) (inputs : List α) :
    Told s (inputs.flatMap calls) (inputs.foldl f s) := by
  induction inputs generalizing s with
  | nil => exact of_same (.refl s)
  | cons input rest ih =>
    have hfirst := hf s input rfl
    refine hfirst.trans (ih fun t a ht => hf t a ?_)
    exact ht.trans (hfirst.setup id)

theorem create (h : s.setup id = some setup) (client : NetworkClient) :
    Told s (setup.announcing id client.info) (s.create id client) := by
  obtain ⟨node, hnode, rfl⟩ := Simulator.exists_of_setup h
  rw [Simulator.create, hnode, NodeSetup.announcing]
  dsimp only [SimulatorAdapterFetcher.getIdentifier, SimulatedNode.setup]
  cases findIdentifier client.info.adapter node.adapterFetcher.entries with
  | none => exact of_same (.refl s)
  | some identifier => exact call s _

theorem handle_new (h : s.setup id = some setup) (adapter : Adapter) :
    Told s (setup.added id adapter) (s.handleAdapterEvent id (.new adapter)) := by
  obtain ⟨node, hnode, rfl⟩ := Simulator.exists_of_setup h
  rw [Simulator.handleAdapterEvent, hnode]
  dsimp only
  have hhandler : SameSetup s (s.modifyNode id
      (·.withHandler (node.components.networkHandler.handleAdapterEvent (.new adapter)))) := by
    refine SameSetup.modifyNode fun found hfound => ?_
    obtain rfl := Option.some.inj (hnode.symm.trans hfound)
    rw [SimulatedNode.setup, SimulatedNode.setup, NodeSetup.mk.injEq]
    exact ⟨rfl, rfl, NetworkHandler.configuration_addClient ..⟩
  have hadded : node.setup.added id adapter = (node.components.networkHandler.created
      (node.components.networkHandler.handleAdapterEvent (.new adapter))).flatMap fun client =>
        node.setup.announcing id client.info := by
    rw [NetworkHandler.handleAdapterEvent, NetworkHandler.adapterAdded,
      NetworkHandler.created_addClient, List.flatMap_map, NodeSetup.added]
    rfl
  rw [hadded]
  exact (of_same hhandler).trans (foldl (fun t client ht =>
    create (ht.trans ((hhandler.setup id).trans h)) client) _)

theorem handle_removed (id : NodeIdentifier) (adapter : Adapter) (s : Simulator) :
    SameSetup s (s.handleAdapterEvent id (.removed adapter)) := by
  rw [Simulator.handleAdapterEvent]
  cases hnode : s.nodes[id]? with
  | none => exact .refl s
  | some node =>
    have hcreated : node.components.networkHandler.created
        (node.components.networkHandler.handleAdapterEvent (.removed adapter)) = [] :=
      NetworkHandler.created_self _
    dsimp only
    rw [hcreated]
    refine SameSetup.modifyNode fun found hfound => ?_
    obtain rfl := Option.some.inj (hnode.symm.trans hfound)
    rfl

end Told

/-- The manager of a node has fetched its adapters. -/
def NodeSetup.updated (setup : NodeSetup) : NodeSetup :=
  { setup with
    manager := (setup.manager.update (setup.entries.map SimulatorAdapterEntry.adapter)).2 }

def NodeSetup.unknown (setup : NodeSetup) : List Adapter :=
  setup.manager.unknown (setup.entries.map SimulatorAdapterEntry.adapter)

/-- The adapters of a node have addresses and are told apart by their macs, and
the manager knows them as they are. -/
structure NodeSetup.Steady (setup : NodeSetup) : Prop where
  addressed : ∀ entry ∈ setup.entries, entry.adapter.addressList ≠ []
  keyed : setup.manager.KeyedByMac
  macs : AdapterManager.DistinctMacs (setup.entries.map SimulatorAdapterEntry.adapter)
  steady : setup.manager.Steady (setup.entries.map SimulatorAdapterEntry.adapter)

/-- An update of the adapters announces those that the manager did not know. -/
theorem Simulator.updateAdapters_told {s : Simulator} {id : NodeIdentifier} {setup : NodeSetup}
    (h : s.setup id = some setup) (hsteady : setup.Steady) :
    ((s.updateAdapters id).setup id = some setup.updated ∧
      ∀ other, other ≠ id → (s.updateAdapters id).setup other = s.setup other) ∧
    (s.updateAdapters id).trace = s.trace ++ setup.unknown.flatMap (setup.added id) ∧
    (s.updateAdapters id).trafficManager =
      (setup.unknown.flatMap (setup.added id)).foldl NetworkTrafficManager.call
        s.trafficManager := by
  obtain ⟨node, hnode, rfl⟩ := exists_of_setup h
  obtain ⟨removed, hevents⟩ := AdapterManager.update_of_steady hsteady.macs hsteady.steady
  rw [updateAdapters, hnode]
  dsimp only
  generalize hs : s.modifyNode id (fun other => { other with components :=
    { other.components with adapterManager :=
      (node.components.adapterManager.update node.adapterFetcher.getAdapters).2 } }) = t
  have hsetup : t.setup id = some node.setup.updated := by
    rw [← hs, setup, modifyNode, TreeMap.getElem?_modify_self, hnode]
    rfl
  have hothers : ∀ other, other ≠ id → t.setup other = s.setup other := by
    intro other hne
    rw [← hs, setup, modifyNode, TreeMap.getElem?_modify, if_neg (by simpa using hne.symm)]
    rfl
  have hnews : Told t (node.setup.unknown.flatMap (node.setup.added id))
      ((node.setup.unknown.map .new).foldl (handleAdapterEvent id) t) := by
    rw [List.foldl_map]
    exact Told.foldl (fun u adapter hu => Told.handle_new (hu.trans hsetup) adapter) _
  have hremoved := SameSetup.foldl (fun u adapter => Told.handle_removed id adapter u)
    ((node.setup.unknown.map .new).foldl (handleAdapterEvent id) t) removed
  have htold := hnews.trans (Told.of_same hremoved)
  rw [← List.foldl_map (g := handleAdapterEvent id) (f := AdapterEvent.removed),
    ← List.foldl_append, List.append_nil] at htold
  have hall : (node.components.adapterManager.update node.adapterFetcher.getAdapters).1 =
      node.setup.unknown.map .new ++ removed.map .removed := hevents
  rw [hall]
  have htrace : t.trace = s.trace := by rw [← hs]; rfl
  have hmanager : t.trafficManager = s.trafficManager := by rw [← hs]; rfl
  refine ⟨⟨?_, fun other hne => ?_⟩, ?_, ?_⟩
  · rw [htold.setup, hsetup]
  · rw [htold.setup, hothers other hne]
  · rw [htold.trace, htrace]
  · rw [htold.manager, hmanager]

end Sim

end Discnet
