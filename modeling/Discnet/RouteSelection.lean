import Discnet.RouteHistory
import Discnet.TransmissionHandler
import Discnet.Lib.Selection

/-!
# Which routes are told of

Of the routes that are online on the other adapters, one is kept for each
route identifier, the shortest. The identifier has the reporter and the
adapter in it: of a node that several neighbours tell of, a route from each
of them is kept.
-/

namespace Discnet

open Lib Network Network.Messages Std

namespace RouteManager

variable {m : RouteManager} {outbound : AdapterGuid}

/-- The length that routes are compared by. -/
def intLength (route : Route) : Int := route.status.jumps.accumulated.toInt

theorem isShorterRoute_iff {lhs rhs : Route} :
    isShorterRoute lhs rhs = true ↔ intLength lhs < intLength rhs := by
  simp [isShorterRoute, intLength, Int32.lt_iff_toInt_lt]

/-- The routes that may be told of on an adapter, in the order in which they
are looked at. -/
def candidates (outbound : AdapterGuid) (m : RouteManager) : Routes :=
  m.adapterRoutes.toList.flatMap fun entry =>
    if entry.1 ≠ outbound then entry.2.filter (·.status.online) else []

theorem mem_candidates {route : Route} :
    route ∈ m.candidates outbound ↔
      ∃ guid, guid ≠ outbound ∧ m.Holds guid route ∧ route.status.online = true := by
  simp only [candidates, List.mem_flatMap]
  constructor
  · rintro ⟨⟨guid, routes⟩, hentry, hroute⟩
    rw [TreeMap.mem_toList_iff_getElem?_eq_some] at hentry
    split_ifs at hroute with hguid
    · obtain ⟨hmem, honline⟩ := List.mem_filter.mp hroute
      refine ⟨guid, hguid, ?_, honline⟩
      simpa [Holds, findRoutesOnAdapter, hentry] using hmem
    · contradiction
  · rintro ⟨guid, hguid, hholds, honline⟩
    cases hroutes : m.adapterRoutes[guid]? with
    | none => simp [Holds, findRoutesOnAdapter, hroutes] at hholds
    | some routes =>
      refine ⟨(guid, routes), TreeMap.mem_toList_iff_getElem?_eq_some.mpr hroutes, ?_⟩
      simpa [hguid, honline, Holds, findRoutesOnAdapter, hroutes] using hholds

theorem collectRoute_eq (result : Routes) (route : Route) :
    collectRoute result route =
      if route.status.online then keepBest Route.identifier intLength result route else result := by
  rw [collectRoute, keepBest]
  cases result.find? (·.identifier = route.identifier) with
  | none => rfl
  | some existing => simp only [isShorterRoute_iff]

theorem foldl_collectRoute (routes result : Routes) :
    routes.foldl collectRoute result =
      (routes.filter (·.status.online)).foldl (keepBest Route.identifier intLength) result := by
  induction routes generalizing result with
  | nil => rfl
  | cons route rest ih =>
    rw [List.foldl_cons, collectRoute_eq, ih]
    cases honline : route.status.online <;> simp [honline]

theorem findRoutesForAdapter_eq (outbound : AdapterGuid) (m : RouteManager) :
    m.findRoutesForAdapter outbound =
      (m.candidates outbound).foldl (keepBest Route.identifier intLength) [] := by
  have hentries : ∀ (entries : List (AdapterGuid × Routes)) (result : Routes),
      entries.foldl (collectRoutes outbound) result =
        (entries.flatMap fun entry =>
          if entry.1 ≠ outbound then entry.2.filter (·.status.online) else []).foldl
            (keepBest Route.identifier intLength) result := by
    intro entries
    induction entries with
    | nil => exact fun _ => rfl
    | cons entry rest ih =>
      intro result
      rw [List.foldl_cons, ih, collectRoutes, List.flatMap_cons, List.foldl_append]
      split_ifs
      · rw [foldl_collectRoute]
      · rfl
  exact hentries _ _

theorem selected_findRoutesForAdapter (outbound : AdapterGuid) (m : RouteManager) :
    Selected Route.identifier intLength (m.candidates outbound)
      (m.findRoutesForAdapter outbound) := by
  rw [findRoutesForAdapter_eq]
  exact selected_foldl _

-- ---------------------------------------------------------------------------
-- The shortest route to each node
-- ---------------------------------------------------------------------------

/-- A route that is online and was discovered on another adapter. -/
def Elsewhere (outbound : AdapterGuid) (m : RouteManager) (route : Route) : Prop :=
  ∃ guid, guid ≠ outbound ∧ m.Holds guid route ∧ route.status.online = true

/-- The route is as short as any other one to its node. -/
def Shortest (outbound : AdapterGuid) (m : RouteManager) (route : Route) : Prop :=
  ∀ other, m.Elsewhere outbound other → other.identifier.node = route.identifier.node →
    route.status.jumps.total ≤ other.status.jumps.total

/-- A message lists each node that can be told of once, with a shortest
route to it. -/
structure TellsShortest (outbound : AdapterGuid) (m : RouteManager) (nodes : List Node) :
    Prop where
  once : (nodes.map fun node => (⟨node.identifier, node.address⟩ : NodeIdentifier)).Nodup
  complete : ∀ route, m.Elsewhere outbound route →
    ∃ node ∈ nodes, route.identifier.node = ⟨node.identifier, node.address⟩
  shortest : ∀ node ∈ nodes, ∃ route, m.Elsewhere outbound route ∧
    route.identifier.node = ⟨node.identifier, node.address⟩ ∧ route.status.jumps = node.jumps ∧
    m.Shortest outbound route

/-- All routes to a node have the same identifier, and among them the first
one that the comparison takes for the shortest is the shortest. -/
structure OneRouteEach (outbound : AdapterGuid) (m : RouteManager) : Prop where
  sameIdentifier : ∀ route other, m.Elsewhere outbound route → m.Elsewhere outbound other →
    route.identifier.node = other.identifier.node → route.identifier = other.identifier
  shortest : ∀ before route after, m.candidates outbound = before ++ route :: after →
    (∀ other ∈ before, other.identifier = route.identifier → isShorterRoute route other = true) →
    (∀ other ∈ after, other.identifier = route.identifier →
      ¬ isShorterRoute other route = true) →
    ∀ other ∈ m.candidates outbound, other.identifier = route.identifier →
      route.status.jumps.total ≤ other.status.jumps.total

theorem elsewhere_iff {route : Route} :
    m.Elsewhere outbound route ↔ route ∈ m.candidates outbound := mem_candidates.symm

theorem mem_findRoutesForAdapter {route : Route} :
    route ∈ m.findRoutesForAdapter outbound ↔
      ∃ before after, m.candidates outbound = before ++ route :: after ∧
        (∀ other ∈ before, other.identifier = route.identifier →
          isShorterRoute route other = true) ∧
        ∀ other ∈ after, other.identifier = route.identifier →
          ¬ isShorterRoute other route = true := by
  rw [(selected_findRoutesForAdapter outbound m).mem_iff, FirstBest]
  simp only [isShorterRoute_iff, Int.not_lt]

theorem elsewhere_of_mem_findRoutesForAdapter {route : Route}
    (h : route ∈ m.findRoutesForAdapter outbound) : m.Elsewhere outbound route := by
  obtain ⟨before, after, hcandidates, -⟩ := mem_findRoutesForAdapter.mp h
  rw [elsewhere_iff, hcandidates]
  simp

theorem exists_findRoutesForAdapter {route : Route} (h : m.Elsewhere outbound route) :
    ∃ found ∈ m.findRoutesForAdapter outbound, found.identifier = route.identifier := by
  have hkey : route.identifier ∈ (m.findRoutesForAdapter outbound).map Route.identifier := by
    rw [(selected_findRoutesForAdapter outbound m).key_mem_iff]
    exact List.mem_map_of_mem (elsewhere_iff.mp h)
  exact List.mem_map.mp hkey

/-- For each identifier that is online on another adapter one of its routes,
which none of the others is shorter than. -/
structure SelectsById (outbound : AdapterGuid) (m : RouteManager) (routes : Routes) : Prop where
  once : (routes.map Route.identifier).Nodup
  complete : ∀ routeId, routeId ∈ routes.map Route.identifier ↔
    ∃ route, m.Elsewhere outbound route ∧ route.identifier = routeId
  stored : ∀ route ∈ routes, m.Elsewhere outbound route
  shortest : ∀ route ∈ routes, ∀ other, m.Elsewhere outbound other →
    other.identifier = route.identifier → ¬ isShorterRoute other route = true

/-- A route that was kept takes the place of no shorter one. -/
theorem not_isShorterRoute_of_mem {route other : Route}
    (h : route ∈ m.findRoutesForAdapter outbound) (hother : m.Elsewhere outbound other)
    (hid : other.identifier = route.identifier) : ¬ isShorterRoute other route = true := by
  have hbest := (selected_findRoutesForAdapter outbound m).mem_iff.mp h
  rw [isShorterRoute_iff, Int.not_lt]
  exact hbest.le (elsewhere_iff.mp hother) hid

/-- Whatever the tables hold, the routes for an adapter are selected by their
identifiers. -/
theorem findRoutesForAdapter_selects (m : RouteManager) (outbound : AdapterGuid) :
    m.SelectsById outbound (m.findRoutesForAdapter outbound) where
  once := (selected_findRoutesForAdapter outbound m).nodup
  complete := by
    intro routeId
    rw [(selected_findRoutesForAdapter outbound m).key_mem_iff, List.mem_map]
    simp only [elsewhere_iff]
  stored := fun _ => elsewhere_of_mem_findRoutesForAdapter
  shortest := fun _ h _ => not_isShorterRoute_of_mem h

theorem tellsShortest_of_oneRouteEach (h : m.OneRouteEach outbound) :
    m.TellsShortest outbound
      ((m.findRoutesForAdapter outbound).map TransmissionHandler.indirectNode) where
  once := by
    have hnodup := (selected_findRoutesForAdapter outbound m).nodup
    rw [List.map_map]
    refine List.Nodup.map_on ?_ hnodup.of_map
    intro route hroute other hother hsame
    have hid := h.sameIdentifier route other (elsewhere_of_mem_findRoutesForAdapter hroute)
      (elsewhere_of_mem_findRoutesForAdapter hother) hsame
    exact List.inj_on_of_nodup_map hnodup hroute hother hid
  complete := by
    intro route hroute
    obtain ⟨found, hfound, hid⟩ := exists_findRoutesForAdapter hroute
    refine ⟨_, List.mem_map_of_mem hfound, ?_⟩
    rw [← hid]
    rfl
  shortest := by
    intro node hnode
    obtain ⟨route, hroute, rfl⟩ := List.mem_map.mp hnode
    have helsewhere := elsewhere_of_mem_findRoutesForAdapter hroute
    refine ⟨route, helsewhere, rfl, rfl, fun other hother hsame => ?_⟩
    obtain ⟨before, after, hcandidates, hbefore, hafter⟩ := mem_findRoutesForAdapter.mp hroute
    exact h.shortest before route after hcandidates hbefore hafter other
      (elsewhere_iff.mp hother) (h.sameIdentifier other route hother helsewhere hsame)

theorem oneRouteEach_of_tellsShortest
    (h : m.TellsShortest outbound
      ((m.findRoutesForAdapter outbound).map TransmissionHandler.indirectNode)) :
    m.OneRouteEach outbound where
  sameIdentifier := by
    intro route other hroute hother hsame
    obtain ⟨found, hfound, hid⟩ := exists_findRoutesForAdapter hroute
    obtain ⟨foundOther, hfoundOther, hidOther⟩ := exists_findRoutesForAdapter hother
    rw [← hid, ← hidOther] at hsame ⊢
    have hnodup := h.once
    rw [List.map_map] at hnodup
    rw [List.inj_on_of_nodup_map hnodup hfound hfoundOther hsame]
  shortest := by
    intro before route after hcandidates hbefore hafter other hother hid
    have hroute : route ∈ m.findRoutesForAdapter outbound :=
      mem_findRoutesForAdapter.mpr ⟨before, after, hcandidates, hbefore, hafter⟩
    obtain ⟨told, -, hnode, hjumps, hleast⟩ := h.shortest _ (List.mem_map_of_mem hroute)
    have hle := hleast other (elsewhere_iff.mpr hother) (by rw [hid, hnode]; rfl)
    rw [hjumps] at hle
    exact hle

/-- As long as no sum of hops overflows, only the identifiers matter. -/
theorem oneRouteEach_of_total_lt
    (hsum : ∀ route, m.Elsewhere outbound route → route.status.jumps.total < 2 ^ 31)
    (hsame : ∀ route other, m.Elsewhere outbound route → m.Elsewhere outbound other →
      route.identifier.node = other.identifier.node → route.identifier = other.identifier) :
    m.OneRouteEach outbound where
  sameIdentifier := hsame
  shortest := by
    intro before route after hcandidates hbefore hafter other hother hid
    have hfound : route ∈ m.findRoutesForAdapter outbound :=
      mem_findRoutesForAdapter.mpr ⟨before, after, hcandidates, hbefore, hafter⟩
    have hroute := elsewhere_of_mem_findRoutesForAdapter hfound
    have helsewhere := elsewhere_iff.mpr hother
    have hlength := not_isShorterRoute_of_mem hfound helsewhere hid
    rw [isShorterRoute_iff, Int.not_lt, intLength, intLength,
      Jumps.toInt_accumulated (hsum route hroute),
      Jumps.toInt_accumulated (hsum other helsewhere)] at hlength
    exact_mod_cast hlength

end RouteManager

-- ---------------------------------------------------------------------------
-- The messages that go out
-- ---------------------------------------------------------------------------

namespace TransmissionHandler

open RouteManager

/-- After any calls, the message for an adapter lists each node that is
online elsewhere once, with a shortest route to it, if and only if the routes
to a node all have one identifier and the comparison of their lengths finds
the shortest. -/
theorem tellsShortest_iff_oneRouteEach {networkHandler : NetworkHandler}
    {adapterManager : AdapterManager} {history : List RouteCall} {adapter : Adapter}
    {message : DiscoveryMessage}
    (h : (adapter, message) ∈
      transmitDiscoveryMessage networkHandler adapterManager (run history)) :
    (run history).TellsShortest adapter.guid message.nodes ↔
      (run history).OneRouteEach adapter.guid := by
  obtain ⟨client, -, hmessage⟩ := List.mem_filterMap.mp h
  cases hadapter : adapterManager.findAdapter client.adapterIdentifier with
  | error text =>
    rw [hadapter] at hmessage
    contradiction
  | ok found =>
    rw [hadapter] at hmessage
    cases hmessage
    exact ⟨oneRouteEach_of_tellsShortest, tellsShortest_of_oneRouteEach⟩

def uplink (guid mac : String) (n : UInt32) : Adapter where
  guid := guid
  macAddress := mac
  addressList := [(⟨n⟩, ⟨0xffffff00⟩)]

/-- Two adapters with a client on the second one. -/
def uplinks : AdapterManager := ((⟨∅⟩ : AdapterManager).update
  [uplink "lan" "02:00:00:00:00:01" 0x0a000001, uplink "wan" "02:00:00:00:00:02" 0x0b000001]).2

def wanHandler : NetworkHandler where
  configuration := ⟨1, ⟨0xefff0001⟩, 1024⟩
  clients := [⟨"02:00:00:00:00:02", ⟨⟨0x0b000001⟩, 1024, ⟨0xefff0001⟩⟩, .new 4095⟩]

def heard (sender : UInt32) (message : DiscoveryMessage) : RouteCall :=
  .discoveryMessage uplinks message
    { receptionTime := 0, sender := ⟨sender⟩, receiver := ⟨0xefff0001⟩, adapter := ⟨0x0a000001⟩ }

/-- Node 5 is a neighbour and another neighbour, node 6, tells of it too. -/
def heardTwice : List RouteCall :=
  [heard 0x0a000005 { identifier := 5 },
    heard 0x0a000006 { identifier := 6, nodes := [⟨5, ⟨0x0a000005⟩, [256]⟩] }]

def wanMessage : DiscoveryMessage where
  identifier := 1
  nodes := [⟨5, ⟨0x0a000005⟩, [256]⟩, ⟨6, ⟨0x0a000006⟩, [256]⟩, ⟨5, ⟨0x0a000005⟩, [256, 256]⟩]

theorem node_told_of_twice :
    (uplink "wan" "02:00:00:00:00:02" 0x0b000001, wanMessage) ∈
      transmitDiscoveryMessage wanHandler uplinks (run heardTwice) ∧
      ¬ (run heardTwice).TellsShortest "wan" wanMessage.nodes := by
  refine ⟨by decide +kernel, fun h => ?_⟩
  have honce := h.once
  revert honce
  decide

theorem tellsShortest_iff_oneRouteEach_wan :
    (run heardTwice).TellsShortest "wan" wanMessage.nodes ↔
      (run heardTwice).OneRouteEach "wan" :=
  @tellsShortest_iff_oneRouteEach wanHandler uplinks heardTwice
    (uplink "wan" "02:00:00:00:00:02" 0x0b000001) wanMessage (by decide +kernel)

end TransmissionHandler

end Discnet
