import Discnet.Sim.NetworkSetup

/-!
# The links of the simulator

An adapter is announced to the traffic manager once, by the first update after
it was added, and under the identifier it was added with. So the traffic
manager keeps the linked network of the adapters, and what one of them sends
reaches its hearers.
-/

namespace Discnet.Sim

open Lib Network Network.Messages Std

-- ---------------------------------------------------------------------------
-- Announcements
-- ---------------------------------------------------------------------------

theorem SimulatorAdapterEntry.address?_of_mem {entry : SimulatorAdapterEntry} {address : Address}
    (h : address ∈ entry.adapter.listenAddresses) : entry.address? = some address := by
  rw [Adapter.listenAddresses] at h
  split at h
  · rw [address?]
    cases hlist : entry.adapter.addressList.map Prod.fst with
    | nil => simp [hlist] at h
    | cons first rest =>
      rw [hlist, List.take_succ_cons, List.take_zero, List.mem_singleton] at h
      rw [h, List.head?_cons]
  · contradiction

theorem SimulatorAdapterEntry.exists_address {entry : SimulatorAdapterEntry}
    (h : entry.adapter.addressList ≠ []) : ∃ front, entry.address? = some front := by
  obtain ⟨first, rest, hlist⟩ := List.exists_cons_of_ne_nil h
  exact ⟨first.1, by rw [address?, hlist]; rfl⟩

/-- Where every adapter has an address, one is found under its own. -/
theorem findIdentifier_of_mem {entries : List SimulatorAdapterEntry}
    (hall : ∀ other ∈ entries, other.adapter.addressList ≠ []) {entry : SimulatorAdapterEntry}
    (hentry : entry ∈ entries)
    (hdistinct : ∀ other ∈ entries, other.address? = entry.address? → other = entry)
    {address : Address} (haddress : entry.address? = some address) :
    findIdentifier address entries = some entry.identifier := by
  induction entries with
  | nil => contradiction
  | cons first rest ih =>
    obtain ⟨hfirst, hrest⟩ := List.forall_mem_cons.mp hall
    obtain ⟨front, hfront⟩ := SimulatorAdapterEntry.exists_address hfirst
    rw [findIdentifier, hfront, Option.bind_eq_bind, Option.bind_some]
    by_cases hsame : front = address
    · have heq := hdistinct first List.mem_cons_self (by rw [hfront, haddress, hsame])
      rw [if_pos hsame, heq]
      rfl
    · rw [if_neg hsame]
      refine ih hrest ?_ fun other hother => hdistinct other (List.mem_cons_of_mem _ hother)
      rcases List.mem_cons.mp hentry with rfl | hmem
      · exact absurd (Option.some.inj (hfront.symm.trans haddress)) hsame
      · exact hmem

/-- An adapter that is to be announced, with the address it listens at. -/
abbrev Announcement := SimulatorAdapterEntry × Address

namespace NodeSetup

variable (setup : NodeSetup) (id : NodeIdentifier)

def announcements : List Announcement :=
  (setup.entries.filter fun entry =>
    setup.manager.adapters[entry.adapter.macAddress]?.isNone).flatMap fun entry =>
      entry.adapter.listenAddresses.map fun address => (entry, address)

def announce (announcement : Announcement) : TrafficCall :=
  .addNode id announcement.1.identifier (setup.client id announcement.2)

def port (announcement : Announcement) : Port :=
  { node := id
    adapter := announcement.1.identifier
    client := setup.client id announcement.2 }

variable {setup id}

theorem mem_announcements {entry : SimulatorAdapterEntry} {address : Address} :
    (entry, address) ∈ setup.announcements ↔ entry ∈ setup.entries ∧
      setup.manager.adapters[entry.adapter.macAddress]? = none ∧
      address ∈ entry.adapter.listenAddresses := by
  simp [announcements, and_assoc]

/-- Adapters are announced under the identifiers they were added with. -/
theorem flatMap_added (hsteady : setup.Steady)
    (hdistinct : ∀ entry ∈ setup.entries, ∀ other ∈ setup.entries,
      other.address? = entry.address? → other = entry) :
    setup.unknown.flatMap (setup.added id) = setup.announcements.map (setup.announce id) := by
  rw [unknown, AdapterManager.unknown, List.filter_map, List.flatMap_map, announcements,
    List.map_flatMap]
  refine List.flatMap_congr fun entry hentry => ?_
  have hmem := (List.mem_filter.mp hentry).1
  rw [added, List.map_map, List.map_eq_flatMap]
  refine List.flatMap_congr fun address haddress => ?_
  have hfound := findIdentifier_of_mem hsteady.addressed hmem (hdistinct entry hmem)
    (SimulatorAdapterEntry.address?_of_mem haddress)
  simp only [announcing, client, hfound]
  rfl

end NodeSetup

/-- New adapters are announced once each. -/
theorem announce_once (setup : NodeSetup) (id : NodeIdentifier) {net : LinkedNetwork}
    {announcements : List Announcement}
    (hfresh : ∀ new ∈ announcements, ∀ q ∈ net.ports,
      q.adapter ≠ new.1.identifier ∧ q.address ≠ new.2)
    (hapart : announcements.Pairwise fun new other =>
      new.1.identifier ≠ other.1.identifier ∧ new.2 ≠ other.2) :
    Throughout LinkedNetwork.step
        (fun net call => net.AddsOnce call ∧ net.LinksApart call) net
        (announcements.map (setup.announce id)) ∧
      (announcements.map (setup.announce id)).foldl LinkedNetwork.step net =
        { net with ports := net.ports ++ announcements.map (setup.port id) } := by
  induction announcements generalizing net with
  | nil => simp [Throughout]
  | cons new rest ih =>
    obtain ⟨hnew, hrest⟩ := List.forall_mem_cons.mp hfresh
    obtain ⟨hfirst, hlater⟩ := List.pairwise_cons.mp hapart
    have hstep : net.step (setup.announce id new) =
        { net with ports := net.ports ++ [setup.port id new] } := rfl
    have hnext : ∀ other ∈ rest, ∀ q ∈ (net.step (setup.announce id new)).ports,
        q.adapter ≠ other.1.identifier ∧ q.address ≠ other.2 := by
      intro other hother q hq
      rw [hstep] at hq
      rcases List.mem_append.mp hq with hq | hq
      · exact hrest other hother q hq
      · rw [List.mem_singleton.mp hq]
        exact hfirst other hother
    obtain ⟨honce, hports⟩ := ih hnext hlater
    refine ⟨⟨⟨hnew, trivial⟩, honce⟩, ?_⟩
    rw [List.map_cons, List.foldl_cons, hports, hstep]
    simp

-- ---------------------------------------------------------------------------
-- Adapters and their ports
-- ---------------------------------------------------------------------------

/-- The adapter was added to the node. -/
structure Simulator.HasAdapter (s : Simulator) (id : NodeIdentifier) (setup : NodeSetup)
    (entry : SimulatorAdapterEntry) : Prop where
  found : s.setup id = some setup
  mem : entry ∈ setup.entries

def NodeSetup.Knows (setup : NodeSetup) (entry : SimulatorAdapterEntry) : Prop :=
  setup.manager.adapters[entry.adapter.macAddress]? = some entry.adapter

/-- The adapters of the simulator and the ports of the network. Every adapter
that is known and can be listened on has its port, and every port that could
be taken for the one of an adapter is its port. -/
structure Tidy (s : Simulator) : Prop where
  manager : s.trafficManager = s.trace.foldl NetworkTrafficManager.call {}
  calls : Throughout LinkedNetwork.step
    (fun net call => net.AddsOnce call ∧ net.LinksApart call) {} s.trace
  steady : ∀ id setup, s.setup id = some setup → setup.Steady
  distinct : ∀ id setup entry id' setup' entry', s.HasAdapter id setup entry →
    s.HasAdapter id' setup' entry' →
    entry.identifier = entry'.identifier ∨ entry.address? = entry'.address? →
    id = id' ∧ entry = entry'
  ports : ∀ id setup entry, s.HasAdapter id setup entry → setup.Knows entry →
    ∀ address ∈ entry.adapter.listenAddresses, ∃ router,
      { setup.port id (entry, address) with router := router } ∈ s.network.ports
  own : ∀ id setup entry, s.HasAdapter id setup entry → ∀ p ∈ s.network.ports,
    p.adapter = entry.identifier ∨ some p.address = entry.address? →
    setup.Knows entry ∧ ∃ address ∈ entry.adapter.listenAddresses, ∃ router,
      p = { setup.port id (entry, address) with router := router }

namespace Tidy

variable {s t : Simulator} {id : NodeIdentifier}

theorem empty : Tidy {} := by
  have hnone : ∀ id setup, Simulator.setup {} id ≠ some setup := by simp [Simulator.setup]
  refine ⟨rfl, trivial, fun id setup h => absurd h (hnone id setup), ?_, ?_, ?_⟩
  · rintro id setup _ _ _ _ ⟨h, -⟩
    exact absurd h (hnone id setup)
  · rintro id setup _ ⟨h, -⟩
    exact absurd h (hnone id setup)
  · rintro id setup _ ⟨h, -⟩
    exact absurd h (hnone id setup)

/-- Where the network stays and no adapter comes. -/
theorem of_adapters (hs : Tidy s) (htrace : t.trace = s.trace)
    (hmanager : t.trafficManager = s.trafficManager)
    (hadapters : ∀ id setup entry, t.HasAdapter id setup entry →
      ∃ entries, s.HasAdapter id { setup with entries := entries } entry)
    (hsteady : ∀ id setup, t.setup id = some setup → setup.Steady) : Tidy t := by
  have hnetwork : t.network = s.network := by rw [Simulator.network, Simulator.network, htrace]
  constructor
  case manager => rw [hmanager, htrace, hs.manager]
  case calls => rw [htrace]; exact hs.calls
  case steady => exact hsteady
  case distinct =>
    intro id setup entry id' setup' entry' hentry hentry'
    obtain ⟨entries, hentry⟩ := hadapters _ _ _ hentry
    obtain ⟨entries', hentry'⟩ := hadapters _ _ _ hentry'
    exact hs.distinct _ _ _ _ _ _ hentry hentry'
  case ports =>
    intro id setup entry hentry
    obtain ⟨entries, hentry⟩ := hadapters _ _ _ hentry
    rw [hnetwork]
    exact hs.ports id { setup with entries := entries } entry hentry
  case own =>
    intro id setup entry hentry
    obtain ⟨entries, hentry⟩ := hadapters _ _ _ hentry
    rw [hnetwork]
    exact hs.own id { setup with entries := entries } entry hentry

theorem of_same (hs : Tidy s) (h : SameSetup s t) : Tidy t := by
  refine hs.of_adapters h.trace h.manager (fun id setup entry hentry => ?_)
    fun id setup hsetup => ?_
  · exact ⟨setup.entries, (h.setup id).symm.trans hentry.found, hentry.mem⟩
  · exact hs.steady id setup ((h.setup id).symm.trans hsetup)

end Tidy

namespace LinkedNetwork

variable {net : LinkedNetwork} {call : TrafficCall} {p : Port}

theorem exists_relink_eq {node : NodeIdentifier} {adapter : AdapterIdentifier}
    {router : Option RouterIdentifier} (p : Port) :
    ∃ r, p.relink node adapter router = { p with router := r } := by
  rw [Port.relink]
  split_ifs
  · exact ⟨_, rfl⟩
  · exact ⟨p.router, rfl⟩

theorem exists_unlinkFrom_eq (router : RouterIdentifier) (p : Port) :
    ∃ r, p.unlinkFrom router = { p with router := r } := by
  rw [Port.unlinkFrom]
  split_ifs
  · exact ⟨_, rfl⟩
  · exact ⟨p.router, rfl⟩

/-- A port keeps all but its router. -/
theorem exists_of_mem_map {f : Port → Port} (hf : ∀ p, ∃ r, f p = { p with router := r })
    (hp : p ∈ net.ports.map f) : ∃ q ∈ net.ports, ∃ r, p = { q with router := r } := by
  obtain ⟨q, hq, rfl⟩ := List.mem_map.mp hp
  exact ⟨q, hq, hf q⟩

theorem exists_mem_map {f : Port → Port} (hf : ∀ p, ∃ r, f p = { p with router := r })
    (hp : p ∈ net.ports) : ∃ r, { p with router := r } ∈ net.ports.map f := by
  obtain ⟨r, hr⟩ := hf p
  exact ⟨r, hr ▸ List.mem_map_of_mem hp⟩

theorem exists_of_mem_step (hcall : ∀ node adapter client, call ≠ .addNode node adapter client)
    (hp : p ∈ (net.step call).ports) : ∃ q ∈ net.ports, ∃ r, p = { q with router := r } := by
  cases call with
  | addNode node adapter client => exact absurd rfl (hcall node adapter client)
  | removeNode node => exact ⟨p, (List.mem_filter.mp hp).1, p.router, rfl⟩
  | addRouter router => exact ⟨p, hp, p.router, rfl⟩
  | removeRouter router => exact exists_of_mem_map (exists_unlinkFrom_eq router) hp
  | addLink node adapter router =>
    rw [step] at hp
    split_ifs at hp
    · exact exists_of_mem_map exists_relink_eq hp
    · exact ⟨p, hp, p.router, rfl⟩
  | removeLink node adapter => exact exists_of_mem_map exists_relink_eq hp

theorem exists_mem_step (hcall : call ≠ .removeNode p.node) (hp : p ∈ net.ports) :
    ∃ r, { p with router := r } ∈ (net.step call).ports := by
  cases call with
  | addNode node adapter client => exact ⟨p.router, List.mem_append_left _ hp⟩
  | removeNode node =>
    exact ⟨p.router, List.mem_filter.mpr ⟨hp, decide_eq_true fun h => hcall (h ▸ rfl)⟩⟩
  | addRouter router => exact ⟨p.router, hp⟩
  | removeRouter router => exact exists_mem_map (exists_unlinkFrom_eq router) hp
  | addLink node adapter router =>
    rw [step]
    split_ifs
    · exact exists_mem_map exists_relink_eq hp
    · exact ⟨p.router, hp⟩
  | removeLink node adapter => exact exists_mem_map exists_relink_eq hp

end LinkedNetwork

theorem Simulator.network_call (s : Simulator) (call : TrafficCall) :
    (s.call call).network = s.network.step call := by
  rw [network, trace_call, List.foldl_append]
  rfl

/-- A call that brings no adapter leaves to each what it has, unless it removes
the node. -/
theorem Tidy.called {s t : Simulator} (hs : Tidy s) {call : TrafficCall}
    (hadd : ∀ node adapter client, call ≠ .addNode node adapter client)
    (hlinks : s.network.LinksApart call) (ht : t.trace = s.trace ++ [call])
    (hmanager : t.trafficManager = s.trafficManager.call call)
    (hadapters : ∀ id setup entry, t.HasAdapter id setup entry →
      s.HasAdapter id setup entry ∧ call ≠ .removeNode id)
    (hsteady : ∀ id setup, t.setup id = some setup → setup.Steady) : Tidy t := by
  have hnetwork : t.network = s.network.step call := by
    rw [Simulator.network, ht, List.foldl_append]
    rfl
  constructor
  case manager => rw [hmanager, ht, List.foldl_append, hs.manager]; rfl
  case calls =>
    rw [ht]
    refine hs.calls.append ⟨⟨?_, hlinks⟩, trivial⟩
    cases call with
    | addNode node adapter client => exact absurd rfl (hadd node adapter client)
    | _ => trivial
  case steady => exact hsteady
  case distinct =>
    intro id setup entry id' setup' entry' hentry hentry'
    exact hs.distinct _ _ _ _ _ _ (hadapters _ _ _ hentry).1 (hadapters _ _ _ hentry').1
  case ports =>
    intro id setup entry hentry hknows address haddress
    obtain ⟨hentry, hkeeps⟩ := hadapters _ _ _ hentry
    obtain ⟨router, hport⟩ := hs.ports _ _ _ hentry hknows address haddress
    rw [hnetwork]
    exact LinkedNetwork.exists_mem_step
      (p := { setup.port id (entry, address) with router := router }) hkeeps hport
  case own =>
    intro id setup entry hentry p hp hsame
    rw [hnetwork] at hp
    obtain ⟨q, hq, r, rfl⟩ := LinkedNetwork.exists_of_mem_step hadd hp
    obtain ⟨hknows, address, haddress, r', rfl⟩ :=
      hs.own _ _ _ (hadapters _ _ _ hentry).1 q hq hsame
    exact ⟨hknows, address, haddress, r, rfl⟩

-- ---------------------------------------------------------------------------
-- Building the network
-- ---------------------------------------------------------------------------

namespace Simulator

variable {s : Simulator} {id : NodeIdentifier}

/-- What happens to the adapters of a node. -/
theorem setup_modifyNode (s : Simulator) (id : NodeIdentifier)
    {f : SimulatedNode → SimulatedNode}
    (g : List SimulatorAdapterEntry → List SimulatorAdapterEntry)
    (hf : ∀ node, (f node).setup = { node.setup with entries := g node.setup.entries })
    (other : NodeIdentifier) : (s.modifyNode id f).setup other =
      if id = other then (s.setup other).map fun setup => { setup with entries := g setup.entries }
      else s.setup other := by
  rw [setup, setup, modifyNode, TreeMap.getElem?_modify]
  by_cases hsame : id = other
  · subst hsame
    simp [Function.comp_def, hf]
  · simp [hsame]

end Simulator

namespace Tidy

variable {s : Simulator} {id : NodeIdentifier}

theorem call (hs : Tidy s) {call : TrafficCall}
    (hadd : ∀ node adapter client, call ≠ .addNode node adapter client)
    (hremove : ∀ node, call ≠ .removeNode node) (hlinks : s.network.LinksApart call) :
    Tidy (s.call call) :=
  hs.called hadd hlinks (Simulator.trace_call call) rfl
    (fun id _ _ hentry => ⟨⟨hentry.found, hentry.mem⟩, hremove id⟩) hs.steady

theorem addNode (hs : Tidy s) (configuration : Configuration) :
    Tidy (s.addNode id configuration) := by
  have hsetup : ∀ other, (s.addNode id configuration).setup other = s.setup other ∨
      (s.addNode id configuration).setup other = some ⟨[], ⟨∅⟩, configuration⟩ := by
    intro other
    rw [Simulator.setup, Simulator.addNode, TreeMap.getElem?_insertIfNew]
    split
    · exact .inr rfl
    · exact .inl rfl
  refine hs.of_adapters rfl rfl (fun other setup entry hentry => ?_) fun other setup hfound => ?_
  · rcases hsetup other with hsame | hnew
    · exact ⟨setup.entries, hsame.symm.trans hentry.found, hentry.mem⟩
    · have hmem := hentry.mem
      obtain rfl := Option.some.inj (hnew.symm.trans hentry.found)
      contradiction
  · rcases hsetup other with hsame | hnew
    · exact hs.steady other setup (hsame.symm.trans hfound)
    · obtain rfl := Option.some.inj (hnew.symm.trans hfound)
      refine ⟨fun _ h => absurd h List.not_mem_nil, fun mac adapter h => ?_, List.nodup_nil,
        fun _ h => absurd h List.not_mem_nil⟩
      simp at h

theorem removeNode (hs : Tidy s) : Tidy (s.removeNode id) := by
  rw [Simulator.removeNode]
  cases hnode : s.nodes[id]? with
  | none => exact hs
  | some node =>
    dsimp only
    have hsetup : ∀ other setup, ({ s.call (.removeNode id) with nodes := s.nodes.erase id } :
        Simulator).setup other = some setup → id ≠ other ∧ s.setup other = some setup := by
      intro other setup hfound
      rw [Simulator.setup, TreeMap.getElem?_erase] at hfound
      split at hfound
      · contradiction
      · rename_i hne
        exact ⟨by simpa using hne, hfound⟩
    have hlinks : s.network.LinksApart (.removeNode id) := trivial
    refine hs.called (by simp) hlinks (Simulator.trace_call _) rfl
      (fun other setup entry hentry => ?_) fun other setup hfound => ?_
    · obtain ⟨hne, hfound⟩ := hsetup other setup hentry.found
      exact ⟨⟨hfound, hentry.mem⟩, by simpa using hne⟩
    · exact hs.steady other setup (hsetup other setup hfound).2

theorem removeAdapter (hs : Tidy s) (identifier : AdapterIdentifier) :
    Tidy (s.removeAdapter id identifier) := by
  rw [Simulator.removeAdapter]
  cases hnode : s.nodes[id]? with
  | none => exact hs
  | some node =>
    have hcalled : Tidy (s.call (.removeLink id identifier)) := hs.call (by simp) (by simp) trivial
    dsimp only
    have hsetup := Simulator.setup_modifyNode (s.call (.removeLink id identifier)) id
      (f := fun node => { node with
        adapterFetcher := node.adapterFetcher.removeAdapter identifier })
      (fun entries => entries.filter (·.identifier ≠ identifier)) fun _ => rfl
    refine hcalled.of_adapters rfl rfl (fun other setup entry hentry => ?_)
      fun other setup hfound => ?_
    · have hfound := hentry.found
      rw [hsetup other] at hfound
      split_ifs at hfound with hsame
      · obtain ⟨before, hbefore, rfl⟩ := Option.map_eq_some_iff.mp hfound
        exact ⟨before.entries, hbefore, (List.mem_filter.mp hentry.mem).1⟩
      · exact ⟨setup.entries, hfound, hentry.mem⟩
    · rw [hsetup other] at hfound
      split_ifs at hfound with hsame
      · obtain ⟨before, hbefore, rfl⟩ := Option.map_eq_some_iff.mp hfound
        obtain ⟨haddressed, hkeyed, hmacs, hsteady⟩ := hcalled.steady other before hbefore
        have hsub : (before.entries.filter (·.identifier ≠ identifier)).Sublist before.entries :=
          List.filter_sublist
        refine ⟨fun entry hentry => haddressed entry (hsub.subset hentry), hkeyed,
          hmacs.sublist ((hsub.map _).map _), fun adapter hadapter => ?_⟩
        exact hsteady adapter ((hsub.map _).subset hadapter)
      · exact hcalled.steady other setup hfound

end Tidy

/-- An adapter that is added has an address. Neither the address nor the
identifier is in use, nor is its mac at the node. Links keep adapters apart. -/
def Simulator.AddsFresh (s : Simulator) : SimulatorCall → Prop
  | .addAdapter id identifier adapter =>
    adapter.addressList ≠ [] ∧
    (∀ node ∈ s.nodes.toList, ∀ entry ∈ node.2.adapterFetcher.entries,
      entry.identifier ≠ identifier ∧
        entry.address? ≠ SimulatorAdapterEntry.address? ⟨identifier, adapter⟩) ∧
    (∀ p ∈ s.network.ports, p.adapter ≠ identifier ∧
      some p.address ≠ SimulatorAdapterEntry.address? ⟨identifier, adapter⟩) ∧
    ∀ node ∈ s.nodes[id]?,
      node.components.adapterManager.adapters[adapter.macAddress]? = none ∧
        ∀ entry ∈ node.adapterFetcher.entries, entry.adapter.macAddress ≠ adapter.macAddress
  | .addLink node adapter router => s.network.LinksApart (.addLink node adapter router)
  | _ => True

instance (s : Simulator) : ∀ call, Decidable (s.AddsFresh call)
  | .addAdapter .. => inferInstanceAs (Decidable (_ ∧ _ ∧ _ ∧ _))
  | .addLink .. => inferInstanceAs (Decidable (s.network.LinksApart (.addLink ..)))
  | .addNode .. | .removeNode _ | .addRouter _ | .removeRouter _ | .removeAdapter .. |
    .removeLink .. | .complete .. | .update _ => instDecidableTrue

namespace Tidy

variable {s : Simulator} {id : NodeIdentifier}

theorem hasAdapter_addAdapter {identifier : AdapterIdentifier} {adapter : Adapter}
    {other : NodeIdentifier} {setup : NodeSetup} {entry : SimulatorAdapterEntry}
    (h : (s.addAdapter id identifier adapter).HasAdapter other setup entry) :
    (∃ entries, s.HasAdapter other { setup with entries := entries } entry) ∨
      (other = id ∧ entry = ⟨identifier, adapter⟩ ∧
        ∃ entries, s.setup id = some { setup with entries := entries }) := by
  obtain ⟨hfound, hmem⟩ := h
  rw [Simulator.addAdapter, Simulator.setup_modifyNode s id
    (fun entries => entries ++ [⟨identifier, adapter⟩]) fun _ => rfl] at hfound
  split_ifs at hfound with hsame
  · subst hsame
    obtain ⟨before, hbefore, rfl⟩ := Option.map_eq_some_iff.mp hfound
    rcases List.mem_append.mp hmem with hmem | hmem
    · exact .inl ⟨before.entries, hbefore, hmem⟩
    · exact .inr ⟨rfl, List.mem_singleton.mp hmem, before.entries, hbefore⟩
  · exact .inl ⟨setup.entries, hfound, hmem⟩

theorem addAdapter (hs : Tidy s) {identifier : AdapterIdentifier} {adapter : Adapter}
    (hfresh : s.AddsFresh (.addAdapter id identifier adapter)) :
    Tidy (s.addAdapter id identifier adapter) := by
  obtain ⟨haddress, hentries, hports, hmac⟩ := hfresh
  have hunused : ∀ other setup entry, s.HasAdapter other setup entry →
      entry.identifier ≠ identifier ∧
        entry.address? ≠ SimulatorAdapterEntry.address? ⟨identifier, adapter⟩ := by
    rintro other setup entry ⟨hfound, hmem⟩
    obtain ⟨node, hnode, rfl⟩ := Simulator.exists_of_setup hfound
    exact hentries (other, node) (TreeMap.mem_toList_iff_getElem?_eq_some.mpr hnode) entry hmem
  have hunknown : ∀ setup, s.setup id = some setup →
      setup.manager.adapters[adapter.macAddress]? = none ∧
        ∀ entry ∈ setup.entries, entry.adapter.macAddress ≠ adapter.macAddress := by
    intro setup hfound
    obtain ⟨node, hnode, rfl⟩ := Simulator.exists_of_setup hfound
    exact hmac node hnode
  refine ⟨hs.manager, hs.calls, ?_, ?_, ?_, ?_⟩
  · intro other setup hfound
    rw [Simulator.addAdapter, Simulator.setup_modifyNode s id
      (fun entries => entries ++ [⟨identifier, adapter⟩]) fun _ => rfl] at hfound
    split_ifs at hfound with hsame
    · subst hsame
      obtain ⟨before, hbefore, rfl⟩ := Option.map_eq_some_iff.mp hfound
      obtain ⟨haddressed, hkeyed, hmacs, hsteady⟩ := hs.steady id before hbefore
      obtain ⟨hnone, hothers⟩ := hunknown before hbefore
      refine ⟨fun entry hentry => ?_, hkeyed, ?_, fun known hknown => ?_⟩
      · rcases List.mem_append.mp hentry with hentry | hentry
        · exact haddressed entry hentry
        · rw [List.mem_singleton.mp hentry]
          exact haddress
      · rw [AdapterManager.DistinctMacs, List.map_append, List.map_append]
        refine List.nodup_append.mpr ⟨hmacs, List.nodup_singleton _, ?_⟩
        rintro mac hmem _ hnew rfl
        rw [List.map_map] at hmem
        obtain ⟨entry, hentry, heq⟩ := List.mem_map.mp hmem
        exact hothers entry hentry (heq.trans (List.mem_singleton.mp hnew))
      · rw [List.map_append] at hknown
        rcases List.mem_append.mp hknown with hknown | hknown
        · exact hsteady known hknown
        · rw [List.mem_singleton.mp hknown]
          exact .inl hnone
    · exact hs.steady other setup hfound
  · intro other setup entry other' setup' entry' hentry hentry' hsame
    rcases hasAdapter_addAdapter hentry with ⟨entries, hold⟩ | ⟨rfl, rfl, -⟩
    · rcases hasAdapter_addAdapter hentry' with ⟨entries', hold'⟩ | ⟨rfl, rfl, -⟩
      · exact hs.distinct _ _ _ _ _ _ hold hold' hsame
      · obtain ⟨hidentifier, haddress⟩ := hunused _ _ _ hold
        rcases hsame with hsame | hsame
        · exact absurd hsame hidentifier
        · exact absurd hsame haddress
    · rcases hasAdapter_addAdapter hentry' with ⟨entries', hold'⟩ | ⟨rfl, rfl, -⟩
      · obtain ⟨hidentifier, haddress⟩ := hunused _ _ _ hold'
        rcases hsame with hsame | hsame
        · exact absurd hsame.symm hidentifier
        · exact absurd hsame.symm haddress
      · exact ⟨rfl, rfl⟩
  · intro other setup entry hentry hknows
    rcases hasAdapter_addAdapter hentry with ⟨entries, hold⟩ | ⟨rfl, rfl, entries, hbefore⟩
    · exact hs.ports other { setup with entries := entries } entry hold hknows
    · have hnone := (hunknown _ hbefore).1
      rw [NodeSetup.Knows, hnone] at hknows
      contradiction
  · intro other setup entry hentry p hp hsame
    rcases hasAdapter_addAdapter hentry with ⟨entries, hold⟩ | ⟨rfl, rfl, -⟩
    · exact hs.own other { setup with entries := entries } entry hold p hp hsame
    · obtain ⟨hidentifier, haddress⟩ := hports p hp
      rcases hsame with hsame | hsame
      · exact absurd hsame hidentifier
      · exact absurd hsame haddress

/-- The announcements are as far apart as the adapters are. -/
theorem announcements_apart (hs : Tidy s) {setup : NodeSetup} (h : s.setup id = some setup) :
    setup.announcements.Pairwise fun new other =>
      new.1.identifier ≠ other.1.identifier ∧ new.2 ≠ other.2 := by
  have hentries : setup.entries.Nodup := (hs.steady id setup h).macs.of_map _ |>.of_map _
  rw [NodeSetup.announcements, List.pairwise_flatMap]
  constructor
  · intro entry _
    have hone := entry.adapter.length_listenAddresses
    match haddresses : entry.adapter.listenAddresses, hone with
    | [], _ => exact List.Pairwise.nil
    | [address], _ => exact List.pairwise_singleton ..
  · refine (hentries.filter _).imp_of_mem fun {entry other} hentry hother hne => ?_
    intro new hnew new' hnew'
    obtain ⟨address, haddress, rfl⟩ := List.mem_map.mp hnew
    obtain ⟨address', haddress', rfl⟩ := List.mem_map.mp hnew'
    have happly := hs.distinct id setup entry id setup other ⟨h, (List.mem_filter.mp hentry).1⟩
      ⟨h, (List.mem_filter.mp hother).1⟩
    constructor
    · intro hidentifier
      exact hne (happly (.inl hidentifier)).2
    · rintro rfl
      have hsame := (SimulatorAdapterEntry.address?_of_mem haddress).trans
        (SimulatorAdapterEntry.address?_of_mem haddress').symm
      exact hne (happly (.inr hsame)).2

/-- No port could be taken for the one that is announced. -/
theorem announcements_fresh (hs : Tidy s) {setup : NodeSetup} (h : s.setup id = some setup) :
    ∀ new ∈ setup.announcements, ∀ q ∈ s.network.ports,
      q.adapter ≠ new.1.identifier ∧ q.address ≠ new.2 := by
  rintro ⟨entry, address⟩ hnew q hq
  obtain ⟨hentry, hunknown, haddress⟩ := NodeSetup.mem_announcements.mp hnew
  have hnotknown : ¬ setup.Knows entry := by
    rw [NodeSetup.Knows, hunknown]
    exact Option.some_ne_none _ ∘ Eq.symm
  have hown := hs.own id setup entry ⟨h, hentry⟩ q hq
  constructor
  · intro hidentifier
    exact hnotknown (hown (.inl hidentifier)).1
  · rintro rfl
    exact hnotknown (hown (.inr (SimulatorAdapterEntry.address?_of_mem haddress).symm)).1

theorem knows_updated {setup : NodeSetup} (h : setup.Steady) {entry : SimulatorAdapterEntry}
    (hentry : entry ∈ setup.entries) : setup.updated.Knows entry :=
  AdapterManager.known_of_steady h.keyed h.macs h.steady (List.mem_map_of_mem hentry)

theorem steady_updated {setup : NodeSetup} (h : setup.Steady) : setup.updated.Steady where
  addressed := h.addressed
  keyed := h.keyed.update h.macs
  macs := h.macs
  steady adapter hadapter := by
    obtain ⟨entry, hentry, rfl⟩ := List.mem_map.mp hadapter
    exact .inr (knows_updated h hentry)

/-- Each adapter that is new is announced once. -/
theorem updateAdapters_announced (hs : Tidy s) {setup : NodeSetup} (h : s.setup id = some setup) :
    (s.updateAdapters id).trace = s.trace ++ setup.announcements.map (setup.announce id) ∧
      (s.updateAdapters id).trafficManager =
        (setup.announcements.map (setup.announce id)).foldl NetworkTrafficManager.call
          s.trafficManager := by
  rw [← NodeSetup.flatMap_added (hs.steady id setup h) fun entry hentry other hother hsame =>
    (hs.distinct id setup other id setup entry ⟨h, hother⟩ ⟨h, hentry⟩ (.inr hsame)).2]
  exact (Simulator.updateAdapters_told h (hs.steady id setup h)).2

theorem network_updateAdapters (hs : Tidy s) {setup : NodeSetup} (h : s.setup id = some setup) :
    (s.updateAdapters id).network = { s.network with
      ports := s.network.ports ++ setup.announcements.map (setup.port id) } := by
  rw [Simulator.network, (hs.updateAdapters_announced h).1, List.foldl_append]
  exact (announce_once setup id (hs.announcements_fresh h) (hs.announcements_apart h)).2

/-- After its adapters were updated a node has their ports. -/
theorem updateAdapters_of_setup (hs : Tidy s) {setup : NodeSetup} (h : s.setup id = some setup) :
    Tidy (s.updateAdapters id) ∧ (s.updateAdapters id).setup id = some setup.updated ∧
      ∀ other, other ≠ id → (s.updateAdapters id).setup other = s.setup other := by
  have hsteady := hs.steady id setup h
  obtain ⟨⟨hself, hothers⟩, -⟩ := Simulator.updateAdapters_told h hsteady
  obtain ⟨htrace, hmanager⟩ := hs.updateAdapters_announced h
  have hnetwork := hs.network_updateAdapters h
  have hcalls := (announce_once setup id (hs.announcements_fresh h)
    (hs.announcements_apart h)).1
  generalize s.updateAdapters id = t at *
  have hadapter : ∀ other setup' entry, t.HasAdapter other setup' entry →
      (other ≠ id ∧ s.HasAdapter other setup' entry) ∨
        (other = id ∧ setup' = setup.updated ∧ s.HasAdapter id setup entry) := by
    rintro other setup' entry ⟨hfound, hmem⟩
    by_cases hne : other = id
    · subst hne
      obtain rfl := Option.some.inj (hself.symm.trans hfound)
      exact .inr ⟨rfl, rfl, h, hmem⟩
    · exact .inl ⟨hne, (hothers other hne).symm.trans hfound, hmem⟩
  have hbefore : ∀ other setup' entry, t.HasAdapter other setup' entry →
      ∃ before, s.HasAdapter other before entry := by
    intro other setup' entry hentry
    rcases hadapter _ _ _ hentry with ⟨-, hold⟩ | ⟨rfl, -, hold⟩
    · exact ⟨_, hold⟩
    · exact ⟨_, hold⟩
  refine ⟨?_, hself, hothers⟩
  constructor
  case manager => rw [hmanager, htrace, List.foldl_append, hs.manager]
  case calls =>
    rw [htrace]
    exact hs.calls.append hcalls
  case steady =>
    intro other setup' hfound
    by_cases hne : other = id
    · subst hne
      obtain rfl := Option.some.inj (hself.symm.trans hfound)
      exact steady_updated hsteady
    · exact hs.steady other setup' ((hothers other hne).symm.trans hfound)
  case distinct =>
    intro other setup' entry other' setup'' entry' hentry hentry'
    obtain ⟨before, hold⟩ := hbefore _ _ _ hentry
    obtain ⟨before', hold'⟩ := hbefore _ _ _ hentry'
    exact hs.distinct _ _ _ _ _ _ hold hold'
  case ports =>
    intro other setup' entry hentry hknows address haddress
    rw [hnetwork]
    rcases hadapter _ _ _ hentry with ⟨-, hold⟩ | ⟨rfl, rfl, hold⟩
    · obtain ⟨router, hport⟩ := hs.ports _ _ _ hold hknows address haddress
      exact ⟨router, List.mem_append_left _ hport⟩
    · rcases hsteady.steady entry.adapter (List.mem_map_of_mem hold.mem) with hnone | hknown
      · refine ⟨none, List.mem_append_right _ (List.mem_map.mpr ⟨(entry, address), ?_, rfl⟩)⟩
        exact NodeSetup.mem_announcements.mpr ⟨hold.mem, hnone, haddress⟩
      · obtain ⟨router, hport⟩ := hs.ports _ _ _ hold hknown address haddress
        exact ⟨router, List.mem_append_left _ hport⟩
  case own =>
    intro other setup' entry hentry p hp hsame
    rw [hnetwork] at hp
    rcases List.mem_append.mp hp with hpold | hpnew
    · rcases hadapter _ _ _ hentry with ⟨-, hold⟩ | ⟨rfl, rfl, hold⟩
      · exact hs.own _ _ _ hold p hpold hsame
      · obtain ⟨-, hport⟩ := hs.own _ _ _ hold p hpold hsame
        exact ⟨knows_updated hsteady hold.mem, hport⟩
    · obtain ⟨⟨entry', address⟩, hnew, rfl⟩ := List.mem_map.mp hpnew
      obtain ⟨hentry', -, haddress⟩ := NodeSetup.mem_announcements.mp hnew
      have hsame' : entry'.identifier = entry.identifier ∨ entry'.address? = entry.address? :=
        hsame.imp_right fun hsame =>
          (SimulatorAdapterEntry.address?_of_mem haddress).trans hsame
      obtain ⟨before, hold⟩ := hbefore _ _ _ hentry
      obtain ⟨rfl, rfl⟩ := hs.distinct id setup entry' _ _ entry ⟨h, hentry'⟩ hold hsame'
      obtain rfl := Option.some.inj (hself.symm.trans hentry.found)
      exact ⟨knows_updated hsteady hentry', address, haddress, none, rfl⟩

theorem updateAdapters_of_none (h : s.setup id = none) : s.updateAdapters id = s := by
  rw [Simulator.setup, Option.map_eq_none_iff] at h
  rw [Simulator.updateAdapters, h]

theorem updateAdapters (hs : Tidy s) : Tidy (s.updateAdapters id) := by
  cases h : s.setup id with
  | none => rwa [updateAdapters_of_none h]
  | some setup => exact (hs.updateAdapters_of_setup h).1

variable {md5 : List Byte → Digest} {time : TimePoint}

theorem updateNode (hs : Tidy s) : Tidy (s.updateNode md5 time id) :=
  hs.updateAdapters.of_same .updateNode

theorem step (hs : Tidy s) {call : SimulatorCall} (hfresh : s.AddsFresh call) :
    Tidy (s.step md5 call) := by
  cases call with
  | addNode node configuration => exact hs.addNode configuration
  | removeNode node => exact hs.removeNode
  | addRouter router => exact hs.call (by simp) (by simp) trivial
  | removeRouter router => exact hs.call (by simp) (by simp) trivial
  | addAdapter node identifier adapter => exact hs.addAdapter hfresh
  | removeAdapter node identifier => exact hs.removeAdapter identifier
  | addLink node adapter router => exact hs.call (by simp) (by simp) hfresh
  | removeLink node adapter => exact hs.call (by simp) (by simp) trivial
  | complete node k time => exact hs.of_same (.complete k time)
  | update time => exact List.foldlRecOn _ _ hs fun _ hs _ _ => hs.updateNode

theorem setup_updateNode (hs : Tidy s) {setup : NodeSetup} (other : NodeIdentifier)
    (h : (s.updateNode md5 time id).setup other = some setup) :
    (other = id ∧ ∃ before, s.setup id = some before ∧ setup = before.updated) ∨
      (other ≠ id ∧ s.setup other = some setup) := by
  rw [SameSetup.updateNode.setup] at h
  cases hid : s.setup id with
  | none =>
    rw [updateAdapters_of_none hid] at h
    refine .inr ⟨?_, h⟩
    rintro rfl
    rw [hid] at h
    contradiction
  | some before =>
    obtain ⟨-, hself, hothers⟩ := hs.updateAdapters_of_setup hid
    by_cases hne : other = id
    · subst hne
      exact .inl ⟨rfl, before, rfl, Option.some.inj (h.symm.trans hself)⟩
    · exact .inr ⟨hne, (hothers other hne).symm.trans h⟩

/-- What is left of an update is known when it is over. -/
theorem knows_of_updates (hs : Tidy s) (nodes : List NodeIdentifier)
    (hrest : ∀ id setup entry, id ∉ nodes → s.HasAdapter id setup entry → setup.Knows entry) :
    ∀ id setup entry, (nodes.foldl (Simulator.updateNode md5 time) s).HasAdapter id setup entry →
      setup.Knows entry := by
  induction nodes generalizing s with
  | nil => exact fun id setup entry hentry => hrest id setup entry List.not_mem_nil hentry
  | cons node nodes ih =>
    refine ih hs.updateNode fun id setup entry hid hentry => ?_
    rcases hs.setup_updateNode id hentry.found with ⟨rfl, before, hbefore, rfl⟩ | ⟨hne, hfound⟩
    · exact knows_updated (hs.steady _ _ hbefore) hentry.mem
    · refine hrest id setup entry (fun hmem => ?_) ⟨hfound, hentry.mem⟩
      rcases List.mem_cons.mp hmem with heq | hmem
      · exact hne heq
      · exact hid hmem

theorem knows_update (hs : Tidy s) {setup : NodeSetup} {entry : SimulatorAdapterEntry}
    (hentry : (s.update md5 time).HasAdapter id setup entry) : setup.Knows entry := by
  refine hs.knows_of_updates s.nodes.keys (fun other setup entry hother hentry => ?_) id setup
    entry hentry
  obtain ⟨node, hnode, -⟩ := Simulator.exists_of_setup hentry.found
  exact absurd (TreeMap.mem_keys.mpr (TreeMap.mem_iff_isSome_getElem?.mpr (by simp [hnode]))) hother

theorem simulates (hs : Tidy s) : Simulates s.trafficManager s.network := by
  rw [hs.manager]
  exact simulates_run (hs.calls.imp fun _ _ h => h.1) (hs.calls.imp fun _ _ h => h.2)

end Tidy

/-- In every run in which adapters are added afresh and linked apart, an
adapter that its node knows has a port in the linked network, and what its
client writes is received once by the adapters of other nodes on its router
and by nobody else. After an update every adapter is known. -/
theorem adapters_reach_hearers (md5 : List Byte → Digest) (calls : List SimulatorCall)
    (hrun : Throughout (Simulator.step md5) Simulator.AddsFresh {} calls) :
    (∀ id setup entry, (calls.foldl (Simulator.step md5) {}).HasAdapter id setup entry →
      setup.Knows entry → ∀ address ∈ entry.adapter.listenAddresses,
        ∃ p ∈ (calls.foldl (Simulator.step md5) {}).network.ports,
          p.node = id ∧ p.adapter = entry.identifier ∧ p.client = setup.client id address ∧
          ∀ data, ((calls.foldl (Simulator.step md5) {}).trafficManager.dataSent id
              (setup.client id address).info data).Perm
            (((calls.foldl (Simulator.step md5) {}).network.hearers p).map fun q =>
              ⟨q.client, data, address⟩)) ∧
    ∀ before time, calls = before ++ [.update time] →
      ∀ id setup entry, (calls.foldl (Simulator.step md5) {}).HasAdapter id setup entry →
        setup.Knows entry := by
  have htidy : Tidy (calls.foldl (Simulator.step md5) {}) :=
    hrun.invariant .empty fun s call _ hs hfresh => hs.step hfresh
  refine ⟨fun id setup entry hentry hknows address haddress => ?_, ?_⟩
  · obtain ⟨router, hport⟩ := htidy.ports _ _ _ hentry hknows address haddress
    refine ⟨_, hport, rfl, rfl, rfl, fun data => ?_⟩
    obtain ⟨hkeeps, hwellFormed, -⟩ := htidy.simulates
    exact hkeeps.dataSent_perm hwellFormed hport rfl data
  · rintro before time rfl id setup entry hentry
    rw [List.foldl_append] at hentry
    have hbefore : Tidy (before.foldl (Simulator.step md5) {}) :=
      hrun.left.invariant .empty fun s call _ hs hfresh => hs.step hfresh
    exact hbefore.knows_update hentry

theorem adapters_reach_hearers_routed :
    (∀ id setup entry, (routed.foldl (Simulator.step Wire.pairDigests) {}).HasAdapter id setup
        entry → setup.Knows entry → ∀ address ∈ entry.adapter.listenAddresses,
        ∃ p ∈ (routed.foldl (Simulator.step Wire.pairDigests) {}).network.ports,
          p.node = id ∧ p.adapter = entry.identifier ∧ p.client = setup.client id address ∧
          ∀ data, ((routed.foldl (Simulator.step Wire.pairDigests) {}).trafficManager.dataSent
              id (setup.client id address).info data).Perm
            (((routed.foldl (Simulator.step Wire.pairDigests) {}).network.hearers p).map
              fun q => ⟨q.client, data, address⟩)) ∧
    ∀ before time, routed = before ++ [.update time] →
      ∀ id setup entry, (routed.foldl (Simulator.step Wire.pairDigests) {}).HasAdapter id setup
        entry → setup.Knows entry :=
  adapters_reach_hearers Wire.pairDigests routed (by decide +kernel)

/-- The second node is the only hearer of the first. -/
example : (routed.foldl (Simulator.step Wire.pairDigests) {}).trafficManager.dataSent 0
      ⟨⟨1⟩, 1337, ⟨0xe0010102⟩⟩ [7] =
    [⟨⟨1, ⟨⟨2⟩, 1337, ⟨0xe0010102⟩⟩⟩, [7], ⟨1⟩⟩] := by
  decide +kernel

end Discnet.Sim
