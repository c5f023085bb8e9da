import Discnet.Provenance
import Mathlib.Data.Finset.Prod
import Mathlib.Data.Fintype.Card
import Mathlib.Data.Fintype.Prod

/-!
# Hop counts

No route and no message has more jumps than there are different routes in
all tables. A route that is new adds one to that number and one jump to what
some node told before; a route that is known keeps its jumps.
-/

namespace Discnet

open Lib Network Network.Messages RouteManager

variable {ι : Type}

section
variable [Fintype ι] [DecidableEq ι]

/-- The identifiers that occur in the tables, with the nodes that hold
them. -/
def combinations (tables : ι → RouteManager) : Finset (ι × RouteIdentifier) :=
  Finset.univ.biUnion fun i => (tables i).identifiers.toFinset.image (Prod.mk i)

theorem mem_combinations {tables : ι → RouteManager} {i : ι} {routeId : RouteIdentifier} :
    (i, routeId) ∈ combinations tables ↔
      ∃ guid route, (tables i).find guid routeId = some route := by
  rw [← mem_identifiers]
  simp [combinations]

section
variable {tables : ι → RouteManager} {i : ι} {m : RouteManager} {adapter : Adapter}
  {time : TimePoint}

theorem mem_combinations_update {j : ι} {routeId : RouteIdentifier} :
    (j, routeId) ∈ combinations (Function.update tables i m) ↔
      if j = i then ∃ guid route, m.find guid routeId = some route
      else (j, routeId) ∈ combinations tables := by
  rw [mem_combinations]
  by_cases h : j = i
  · subst h
    simp
  · simp [h, mem_combinations]

theorem combinations_report_of_known {r : Report} {existing : Route}
    (h : m.find adapter.guid r.routeId = some existing) :
    combinations (Function.update tables i (m.report adapter time r)) =
      combinations (Function.update tables i m) := by
  ext ⟨j, routeId⟩
  rw [mem_combinations_update, mem_combinations_update]
  split_ifs
  · constructor
    · rintro ⟨guid, route, hfind⟩
      rw [report, find_processRoute] at hfind
      split_ifs at hfind with hcase
      · exact ⟨adapter.guid, existing, hcase.2 ▸ h⟩
      · exact ⟨guid, route, hfind⟩
    · rintro ⟨guid, route, hfind⟩
      rw [report]
      by_cases hcase : adapter.guid = guid ∧ r.routeId = routeId
      · exact ⟨guid, _, by rw [find_processRoute, if_pos hcase]⟩
      · exact ⟨guid, route, by rw [find_processRoute, if_neg hcase, hfind]⟩
  · rfl

/-- A report of a new route adds one. -/
theorem combinations_report_of_new {adapterManager : AdapterManager} {r : Report}
    (hm : m.AllRoutes (Located adapterManager))
    (hadapter : adapterManager.findAdapterByAddress r.routeId.adapter = .ok adapter)
    (h : m.find adapter.guid r.routeId = none) :
    (combinations (Function.update tables i (m.report adapter time r))).card =
      (combinations (Function.update tables i m)).card + 1 := by
  have hnew : (i, r.routeId) ∉ combinations (Function.update tables i m) := by
    rw [mem_combinations_update, if_pos rfl]
    rintro ⟨guid, route, hfind⟩
    obtain ⟨other, hother, hguid⟩ := hm guid _ route hfind
    rw [identifier_of_find hfind, hadapter] at hother
    cases hother
    rw [← hguid, h] at hfind
    contradiction
  rw [← Finset.card_insert_of_notMem hnew]
  congr 1
  ext ⟨j, routeId⟩
  rw [Finset.mem_insert, mem_combinations_update, mem_combinations_update, Prod.mk.injEq]
  by_cases hj : j = i
  · rw [if_pos hj, if_pos hj]
    constructor
    · rintro ⟨guid, route, hfind⟩
      rw [report, find_processRoute] at hfind
      split_ifs at hfind with hcase
      · exact .inl ⟨hj, hcase.2.symm⟩
      · exact .inr ⟨guid, route, hfind⟩
    · rintro (⟨-, rfl⟩ | ⟨guid, route, hfind⟩)
      · exact ⟨adapter.guid, _, by rw [report, find_processRoute, if_pos ⟨rfl, rfl⟩]⟩
      · by_cases hcase : adapter.guid = guid ∧ r.routeId = routeId
        · exact ⟨guid, _, by rw [report, find_processRoute, if_pos hcase]⟩
        · exact ⟨guid, route, by rw [report, find_processRoute, if_neg hcase, hfind]⟩
  · simp [hj]

/-- What the reports of a message keep, if each has at most one jump more
than there are combinations. -/
structure ShortTable (adapterManager : AdapterManager) (tables : ι → RouteManager) (i : ι)
    (bound : Nat) (m : RouteManager) : Prop where
  located : m.AllRoutes (Located adapterManager)
  short : m.AllRoutes fun _ route =>
    route.status.jumps.length ≤ (combinations (Function.update tables i m)).card
  bound : bound ≤ (combinations (Function.update tables i m)).card

theorem ShortTable.report {adapterManager : AdapterManager} {bound : Nat} {r : Report}
    (hm : ShortTable adapterManager tables i bound m)
    (hadapter : adapterManager.findAdapterByAddress r.routeId.adapter = .ok adapter)
    (hr : r.jumps.length ≤ bound + 1) :
    ShortTable adapterManager tables i bound (m.report adapter time r) := by
  have hlocated : (m.report adapter time r).AllRoutes (Located adapterManager) :=
    hm.located.report (fun _ => ⟨adapter, hadapter, rfl⟩) fun _ _ h => h
  cases hfind : m.find adapter.guid r.routeId with
  | some existing =>
    have hsame : combinations (Function.update tables i (m.report adapter time r)) =
        combinations (Function.update tables i m) := combinations_report_of_known hfind
    constructor
    case located => exact hlocated
    case short =>
      rw [hsame]
      exact hm.short.report (fun hnone => by simp [hfind] at hnone) fun _ _ h => h
    case bound =>
      rw [hsame]
      exact hm.bound
  | none =>
    have hmore : (combinations (Function.update tables i (m.report adapter time r))).card =
        (combinations (Function.update tables i m)).card + 1 :=
      combinations_report_of_new hm.located hadapter hfind
    have hbound := hm.bound
    constructor
    case located => exact hlocated
    case short =>
      rw [hmore]
      have hshort := hm.short.mono fun _ route h =>
        (Nat.le_succ_of_le h : route.status.jumps.length ≤ _)
      exact hshort.report (fun _ => Nat.le_trans hr (Nat.succ_le_succ hbound)) fun _ _ h => h
    case bound =>
      rw [hmore]
      exact Nat.le_succ_of_le hbound

end

-- ---------------------------------------------------------------------------
-- The invariant
-- ---------------------------------------------------------------------------

/-- All jumps are at most as many as there are combinations. -/
structure Short (s : Cluster ι) : Prop where
  distinct : ∀ i, (s.routes i).Distinct
  located : ∀ i, (s.routes i).AllRoutes (Located (s.nodes i).adapterManager)
  tables : ∀ i, (s.routes i).AllRoutes fun _ route =>
    route.status.jumps.length ≤ (combinations s.routes).card
  messages : ∀ (q : Nat) (tx : Transmission ι), s.history[q]? = some (.sent tx) →
    ∀ node ∈ tx.message.nodes, node.jumps.length ≤ (combinations s.routes).card

namespace Short

variable {s : Cluster ι} {i : ι}

theorem set (hs : Short s) {node : ClusterNode} {entries : List (Entry ι)}
    (hdistinct : node.routeManager.Distinct)
    (htable : ShortTable node.adapterManager s.routes i (combinations s.routes).card
      node.routeManager)
    (hmessages : ∀ tx, .sent tx ∈ entries → ∀ node ∈ tx.message.nodes,
      node.jumps.length ≤ (combinations s.routes).card) :
    Short (s.set i node entries) := by
  have hroutes := Cluster.routes_set s i node entries
  have hcard := htable.bound
  rw [← hroutes] at hcard
  constructor
  case distinct =>
    exact Cluster.forall_set (P := fun _ node => node.routeManager.Distinct)
      hdistinct fun j _ => hs.distinct j
  case located =>
    exact Cluster.forall_set
      (P := fun _ node => node.routeManager.AllRoutes (Located node.adapterManager))
      htable.located fun j _ => hs.located j
  case tables =>
    have hshort := htable.short
    rw [← hroutes] at hshort
    generalize (combinations (s.set i node entries).routes).card = bound at hshort hcard
    exact Cluster.forall_set
      (P := fun _ node => node.routeManager.AllRoutes fun _ route =>
        route.status.jumps.length ≤ bound)
      hshort fun j _ => (hs.tables j).mono fun _ _ h => Nat.le_trans h hcard
  case messages =>
    intro q tx hsent node hnode
    rcases sent_append hsent with hsent | ⟨-, htx⟩
    · exact Nat.le_trans (hs.messages q tx hsent node hnode) hcard
    · exact Nat.le_trans (hmessages tx htx node hnode) hcard

theorem shortTable (hs : Short s) (i : ι) :
    ShortTable (s.nodes i).adapterManager s.routes i (combinations s.routes).card
      (s.nodes i).routeManager := by
  have hself : Function.update s.routes i (s.nodes i).routeManager = s.routes :=
    Function.update_eq_self ..
  constructor
  case located => exact hs.located i
  case short =>
    rw [hself]
    exact hs.tables i
  case bound => rw [hself]

theorem complete (hs : Short s) (i : ι) (k : Nat) (attempts : NetworkHandler.Attempts) :
    Short (s.complete i k attempts) := hs.set (hs.distinct i) (hs.shortTable i) (by simp)

theorem collect (hs : Short s) (i : ι) (time : TimePoint) : Short (s.collect i time) :=
  hs.set (hs.distinct i) (hs.shortTable i) (by simp)

theorem updateRoutes (hs : Short s) (i : ι) (time : TimePoint) : Short (s.updateRoutes i time) := by
  have htable := hs.shortTable i
  have hsame : combinations (Function.update s.routes i ((s.nodes i).routeManager.update time).2) =
      combinations (Function.update s.routes i (s.nodes i).routeManager) := by
    ext ⟨j, routeId⟩
    simp only [mem_combinations_update, find_update, Option.map_eq_some_iff]
    split_ifs
    · constructor
      · rintro ⟨guid, -, route, hfind, -⟩
        exact ⟨guid, route, hfind⟩
      · rintro ⟨guid, route, hfind⟩
        exact ⟨guid, _, route, hfind, rfl⟩
    · rfl
  refine hs.set ((hs.distinct i).update time) ⟨?_, ?_, ?_⟩ (by simp)
  · refine htable.located.update fun _ route h => ?_
    rw [updateRoute_eq]
    exact h
  · rw [hsame]
    refine htable.short.update fun _ route h => ?_
    rw [updateRoute_eq]
    exact h
  · rw [hsame]
    exact htable.bound

theorem receive (hs : Short s) (i : ι) (time : TimePoint) (delivery : Delivery) :
    Short (s.receive i time delivery) := by
  rw [Cluster.receive]
  cases hdelivered : s.delivered? i delivery with
  | none => exact hs
  | some tx =>
    have hsent := Cluster.sent_of_delivered hdelivered
    refine hs.set ((hs.distinct i).processDiscoveryMessage _ _ _) ?_ (by simp)
    cases hadapter : (s.nodes i).adapterManager.findAdapterByAddress
        (s.networkInfo i time delivery tx).adapter with
    | error text =>
      rw [processDiscoveryMessage, hadapter]
      exact hs.shortTable i
    | ok adapter =>
      rw [processDiscoveryMessage_eq hadapter]
      refine List.foldlRecOn _ _ (hs.shortTable i) fun m hm r hr => ?_
      rcases List.mem_cons.mp hr with rfl | hr
      · exact hm.report hadapter (Nat.le_add_left 1 _)
      · obtain ⟨node, hnode, rfl⟩ := List.mem_map.mp hr
        refine hm.report hadapter ?_
        rw [List.length_append, Nat.add_comm]
        exact Nat.succ_le_succ (hs.messages _ tx hsent node hnode)

theorem transmit (hs : Short s) (i : ι) (time : TimePoint) : Short (s.transmit i time) := by
  rw [Cluster.transmit]
  refine hs.set (hs.distinct i) (hs.shortTable i) fun tx htx node hnode => ?_
  obtain ⟨client, -, guid, rfl⟩ := Cluster.transmission_of_mem htx
  obtain ⟨other, route, -, hholds, -, rfl⟩ :=
    TransmissionHandler.holds_of_mem_discoveryMessage hnode
  exact (hs.tables i).of_holds (hs.distinct i) hholds

theorem initial (hs : s.Initial) : Short s where
  distinct := hs.distinct
  located i := hs.allRoutes i
  tables i := hs.allRoutes i
  messages q _ hsent := absurd hsent (hs.getElem?_history_ne q _)

theorem run (hs : s.Initial) (actions : List (Action ι)) : Short (actions.foldl Cluster.step s) :=
  Cluster.run_invariant actions (initial hs) (fun _ i k attempts hs => hs.complete i k attempts)
    (fun _ i time hs => hs.collect i time) (fun _ i time delivery hs => hs.receive i time delivery)
    (fun _ i time hs => hs.updateRoutes i time) fun _ i time hs => hs.transmit i time

end Short

end

-- ---------------------------------------------------------------------------
-- How many combinations there can be
-- ---------------------------------------------------------------------------

/-- The addresses of a node's clients, also of those that are being
started. -/
def clientAddresses (h : NetworkHandler) : List Address :=
  (h.clients ++ h.initList.filterMap AdapterInit.starting?).map (·.info.adapter)

/-- All that was sent and received went through addresses of the pool. -/
structure Pooled (pool : Finset Address) (s : Cluster ι) : Prop where
  clients : ∀ i, ∀ address ∈ clientAddresses (s.nodes i).networkHandler, address ∈ pool
  sent : ∀ tx, .sent tx ∈ s.history → tx.sender ∈ pool
  received : ∀ i adapter time position, .received i adapter time position ∈ s.history →
    adapter ∈ pool

namespace Pooled

variable {pool : Finset Address} {s : Cluster ι} {i : ι}

theorem mem_of_client (hs : Pooled pool s) {client : NetworkClient}
    (h : client ∈ (s.nodes i).networkHandler.clients) : client.info.adapter ∈ pool :=
  hs.clients i _ (List.mem_map_of_mem (List.mem_append_left _ h))

variable [DecidableEq ι]

theorem set (hs : Pooled pool s) {node : ClusterNode} {entries : List (Entry ι)}
    (hclients : ∀ address ∈ clientAddresses node.networkHandler, address ∈ pool)
    (hsent : ∀ tx, .sent tx ∈ entries → tx.sender ∈ pool)
    (hreceived : ∀ i adapter time position, .received i adapter time position ∈ entries →
      adapter ∈ pool) :
    Pooled pool (s.set i node entries) := by
  constructor
  case clients =>
    exact Cluster.forall_set
      (P := fun _ node => ∀ address ∈ clientAddresses node.networkHandler, address ∈ pool)
      hclients fun j _ => hs.clients j
  case sent =>
    intro tx htx
    rcases List.mem_append.mp htx with htx | htx
    · exact hs.sent tx htx
    · exact hsent tx htx
  case received =>
    intro j adapter time position h
    rcases List.mem_append.mp h with h | h
    · exact hs.received j adapter time position h
    · exact hreceived j adapter time position h

theorem complete (hs : Pooled pool s) (i : ι) (k : Nat) (attempts : NetworkHandler.Attempts) :
    Pooled pool (s.complete i k attempts) := by
  refine hs.set (fun address haddress => ?_) (by simp) (by simp)
  obtain ⟨client, hclient, rfl⟩ := List.mem_map.mp haddress
  apply hs.clients i _ (List.mem_map_of_mem _)
  rcases List.mem_append.mp hclient with hclient | hclient
  · exact List.mem_append_left _ hclient
  · exact List.mem_append_right _ (mem_of_mem_modify
      (fun init => init.starting?_complete_of_any attempts) hclient)

theorem collect (hs : Pooled pool s) (i : ι) (time : TimePoint) :
    Pooled pool (s.collect i time) := by
  refine hs.set (fun address haddress => ?_) (by simp) (by simp)
  obtain ⟨client, hclient, rfl⟩ := List.mem_map.mp haddress
  apply hs.clients i _ (List.mem_map_of_mem _)
  have hperm := (collected_perm (s.nodes i).networkHandler.initList).append_left
    (s.nodes i).networkHandler.clients
  rw [← List.append_assoc] at hperm
  exact hperm.mem_iff.mp hclient

theorem receive (hs : Pooled pool s) (i : ι) (time : TimePoint) (delivery : Delivery) :
    Pooled pool (s.receive i time delivery) := by
  rw [Cluster.receive]
  cases hdelivered : s.delivered? i delivery with
  | none => exact hs
  | some tx =>
    obtain ⟨client, hclient, haddress⟩ := Cluster.client_of_delivered hdelivered
    refine hs.set (hs.clients i) (by simp) fun j adapter time' position h => ?_
    cases List.mem_singleton.mp h
    exact haddress ▸ hs.mem_of_client hclient

theorem updateRoutes (hs : Pooled pool s) (i : ι) (time : TimePoint) :
    Pooled pool (s.updateRoutes i time) := hs.set (hs.clients i) (by simp) (by simp)

theorem transmit (hs : Pooled pool s) (i : ι) (time : TimePoint) :
    Pooled pool (s.transmit i time) := by
  refine hs.set (hs.clients i) (fun tx htx => ?_) (by simp)
  obtain ⟨client, hclient, guid, rfl⟩ := Cluster.transmission_of_mem htx
  exact hs.mem_of_client hclient

theorem run (hs : Pooled pool s) (actions : List (Action ι)) :
    Pooled pool (actions.foldl Cluster.step s) :=
  Cluster.run_invariant actions hs (fun _ i k attempts hs => hs.complete i k attempts)
    (fun _ i time hs => hs.collect i time) (fun _ i time delivery hs => hs.receive i time delivery)
    (fun _ i time hs => hs.updateRoutes i time) fun _ i time hs => hs.transmit i time

end Pooled

section
variable [Fintype ι]

def addressPool (s : Cluster ι) : Finset Address :=
  Finset.univ.biUnion fun i => (clientAddresses (s.nodes i).networkHandler).toFinset

theorem pooled_initial {s : Cluster ι} (hs : s.Initial) : Pooled (addressPool s) s where
  clients i address h := by
    rw [addressPool, Finset.mem_biUnion]
    exact ⟨i, Finset.mem_univ i, List.mem_toFinset.mpr h⟩
  sent _ h := absurd h (hs.notMem_history _)
  received _ _ _ _ h := absurd h (hs.notMem_history _)

variable [DecidableEq ι]

def possibleCombinations (s : Cluster ι) : Finset (ι × RouteIdentifier) :=
  (Finset.univ ×ˢ Finset.univ ×ˢ addressPool s ×ˢ addressPool s ×ˢ addressPool s).image
    fun entry : ι × ι × Address × Address × Address =>
      (entry.1, ⟨⟨(s.nodes entry.2.1).nodeId, entry.2.2.1⟩, entry.2.2.2.1, entry.2.2.2.2⟩)

theorem combinations_subset {s : Cluster ι} (hs : s.Initial) (actions : List (Action ι)) :
    combinations (actions.foldl Cluster.step s).routes ⊆ possibleCombinations s := by
  have hsound := Sound.run hs actions
  have hpooled := (pooled_initial hs).run actions
  rintro ⟨i, routeId⟩ h
  obtain ⟨guid, route, hfind⟩ := mem_combinations.mp h
  obtain ⟨k, -, p, r, tx, time, hrelayed, -, hsent, hreporter, hreceived⟩ :=
    hsound.tables i guid routeId route hfind
  obtain ⟨q, first, hfirst, hid, haddress⟩ := hrelayed.announced
  rw [identifier_of_find hfind] at *
  rw [possibleCombinations, Finset.mem_image]
  refine ⟨(i, first.node, routeId.node.address, routeId.adapter, routeId.reporter), ?_, ?_⟩
  · simp only [Finset.mem_product, Finset.mem_univ, true_and]
    refine ⟨?_, ?_, ?_⟩
    · exact haddress ▸ hpooled.sent first (List.mem_of_getElem? hfirst)
    · exact hpooled.received i _ _ _ (List.mem_of_getElem? hreceived)
    · exact hreporter ▸ hpooled.sent tx (List.mem_of_getElem? hsent)
  · simp [hid]

/-- In every run the jumps of all routes and of all nodes in messages are at
most as many as there are combinations in the tables, whose number has a bound
that does not depend on the run. -/
theorem hop_count (s : Cluster ι) (hs : s.Initial) :
    ∃ bound, ∀ actions : List (Action ι),
      (∀ i guid route, ((actions.foldl Cluster.step s).routes i).Holds guid route →
        route.status.jumps.length ≤
          (combinations (actions.foldl Cluster.step s).routes).card) ∧
      (∀ tx, .sent tx ∈ (actions.foldl Cluster.step s).history → ∀ node ∈ tx.message.nodes,
        node.jumps.length ≤ (combinations (actions.foldl Cluster.step s).routes).card) ∧
      (combinations (actions.foldl Cluster.step s).routes).card ≤ bound := by
  refine ⟨(possibleCombinations s).card, fun actions => ?_⟩
  have hshort := Short.run hs actions
  refine ⟨fun i guid route h => ?_, fun tx htx => ?_, ?_⟩
  · exact (hshort.tables i).of_holds (hshort.distinct i) h
  · obtain ⟨q, hq⟩ := List.getElem?_of_mem htx
    exact hshort.messages q tx hq
  · exact Finset.card_le_card (combinations_subset hs actions)

theorem hop_count_pair :
    ∃ bound, ∀ actions : List (Action (Fin 2)),
      (∀ i guid route, ((actions.foldl Cluster.step pair).routes i).Holds guid route →
        route.status.jumps.length ≤
          (combinations (actions.foldl Cluster.step pair).routes).card) ∧
      (∀ tx, .sent tx ∈ (actions.foldl Cluster.step pair).history →
        ∀ node ∈ tx.message.nodes, node.jumps.length ≤
          (combinations (actions.foldl Cluster.step pair).routes).card) ∧
      (combinations (actions.foldl Cluster.step pair).routes).card ≤ bound :=
  hop_count pair initial_pair

end

end Discnet
