import Discnet.Route
import Discnet.AdapterManager
import Discnet.Network.NetworkHandler
import Discnet.Lib.Run

/-!
# The route manager

The routes are kept for each adapter they were discovered on. A discovery
message tells of its sender and of the nodes the sender heard of; each is a
route of its own. A route that is known already only gets its time of last
discovery refreshed: its hops stay what they were when it was new.
-/

namespace Discnet

open Lib Network Network.Messages Std

inductive RouteEvent
  | new (route : Route)
  | onlineStateChanged (current : Route) (previous : Bool)
  deriving DecidableEq, Repr

def RouteEvent.route : RouteEvent → Route
  | new route => route
  | onlineStateChanged current _ => current

abbrev Routes := List Route

structure RouteManager where
  adapterRoutes : TreeMap AdapterGuid Routes := ∅

namespace RouteManager

-- ---------------------------------------------------------------------------
-- Updates
-- ---------------------------------------------------------------------------

/-- One pass of the loop over the routes. -/
def updateRoute (currentTime : TimePoint) (route : Route) : List RouteEvent × Route :=
  if isRouteOnline route currentTime then
    if !route.status.online then
      let route := { route with status.online := true }
      ([.onlineStateChanged route false], route)
    else ([], route)
  else
    if route.status.online then
      let route := { route with status.online := false }
      ([.onlineStateChanged route true], route)
    else ([], route)

def update (currentTime : TimePoint) (m : RouteManager) : List RouteEvent × RouteManager :=
  (m.adapterRoutes.toList.flatMap fun entry =>
      entry.2.flatMap fun route => (updateRoute currentTime route).1,
    ⟨m.adapterRoutes.map fun _ routes =>
      routes.map fun route => (updateRoute currentTime route).2⟩)

-- ---------------------------------------------------------------------------
-- Discovery
-- ---------------------------------------------------------------------------

def newRoute (adapter : Adapter) (time : TimePoint) (routeId : RouteIdentifier) (jumps : Jumps) :
    Route where
  identifier := routeId
  lastDiscovery := time
  status := { online := true, mtu := adapter.mtu, jumps := jumps }

def refreshed (time : TimePoint) (existing : Route) : Route :=
  { existing with lastDiscovery := time }

def modifyRoute (routeId : RouteIdentifier) (f : Route → Route) : Routes → Routes
  | [] => []
  | route :: rest =>
    if route.identifier = routeId then f route :: rest
    else route :: modifyRoute routeId f rest

def processRoute (adapter : Adapter) (time : TimePoint) (routeId : RouteIdentifier)
    (jumps : Jumps) (m : RouteManager) : Bool × List RouteEvent × RouteManager :=
  let route := newRoute adapter time routeId jumps
  match m.adapterRoutes[adapter.guid]? with
  | none => (true, [.new route], ⟨m.adapterRoutes.insert adapter.guid [route]⟩)
  | some routes =>
    match routes.find? (·.identifier = routeId) with
    | none => (true, [.new route], ⟨m.adapterRoutes.insert adapter.guid (routes ++ [route])⟩)
    | some _ =>
      (true, [], ⟨m.adapterRoutes.insert adapter.guid
        (modifyRoute routeId (refreshed time) routes)⟩)

def directJumps : Jumps := [256]

/-- The loop over the nodes a message tells of. -/
def processNodes (adapter : Adapter) (info : NetworkInfo) :
    Bool → RouteManager → List Node → Bool × List RouteEvent × RouteManager
  | result, m, [] => (result, [], m)
  | result, m, indirectNode :: rest =>
    let routeId : RouteIdentifier :=
      { node := { id := indirectNode.identifier, address := indirectNode.address }
        adapter := info.adapter
        reporter := info.sender }
    let first := m.processRoute adapter info.receptionTime routeId
      (directJumps ++ indirectNode.jumps)
    let others := processNodes adapter info (result && first.1) first.2.2 rest
    (others.1, first.2.1 ++ others.2.1, others.2.2)

def processDiscoveryMessage (adapterManager : AdapterManager) (message : DiscoveryMessage)
    (info : NetworkInfo) (m : RouteManager) : Bool × List RouteEvent × RouteManager :=
  match adapterManager.findAdapterByAddress info.adapter with
  | .error _ => (false, [], m)
  | .ok adapter =>
    let routeId : RouteIdentifier :=
      { node := { id := message.identifier, address := info.sender }
        adapter := info.adapter
        reporter := info.sender }
    let first := m.processRoute adapter info.receptionTime routeId directJumps
    let others := processNodes adapter info first.1 first.2.2 message.nodes
    (others.1, first.2.1 ++ others.2.1, others.2.2)

def processPersistentRoute (adapterManager : AdapterManager) (route : PersistentRoute)
    (time : TimePoint) (m : RouteManager) : Bool × List RouteEvent × RouteManager :=
  match adapterManager.findAdapterByAddress route.identifier.adapter with
  | .error _ => (false, [], m)
  | .ok adapter =>
    let processed := m.processRoute adapter time route.identifier [route.metric]
    if processed.1 then
      match processed.2.2.adapterRoutes[adapter.guid]? with
      | none => (false, processed.2.1, processed.2.2)
      | some routes =>
        (processed.1, processed.2.1, ⟨processed.2.2.adapterRoutes.insert adapter.guid
          (modifyRoute route.identifier
            (fun existing => { existing with status.persistent := route.enabled }) routes)⟩)
    else processed

-- ---------------------------------------------------------------------------
-- Queries
-- ---------------------------------------------------------------------------

/-- One pass of the loop that collects routes: a route takes the place of a
longer one to the same node. -/
def collectRoute (result : Routes) (route : Route) : Routes :=
  if route.status.online then
    match result.find? (·.identifier = route.identifier) with
    | some existing =>
      if isShorterRoute route existing then
        result.eraseP (·.identifier = route.identifier) ++ [route]
      else result
    | none => result ++ [route]
  else result

def collectRoutes (outboundAdapter : AdapterGuid) (result : Routes)
    (entry : AdapterGuid × Routes) : Routes :=
  if entry.1 ≠ outboundAdapter then entry.2.foldl collectRoute result else result

def findRoutesForAdapter (outboundAdapter : AdapterGuid) (m : RouteManager) : Routes :=
  m.adapterRoutes.toList.foldl (collectRoutes outboundAdapter) []

def findRoutesOnAdapter (outboundAdapter : AdapterGuid) (m : RouteManager) : Routes :=
  (m.adapterRoutes[outboundAdapter]?).getD []

-- ---------------------------------------------------------------------------
-- Looking routes up
-- ---------------------------------------------------------------------------

def Holds (m : RouteManager) (guid : AdapterGuid) (route : Route) : Prop :=
  route ∈ m.findRoutesOnAdapter guid

/-- The first route with the identifier in the table of the adapter. -/
def find (m : RouteManager) (guid : AdapterGuid) (routeId : RouteIdentifier) : Option Route :=
  (m.findRoutesOnAdapter guid).find? (·.identifier = routeId)

def identifiers (m : RouteManager) : List RouteIdentifier :=
  m.adapterRoutes.toList.flatMap fun entry => entry.2.map Route.identifier

/-- No table holds two routes with the same identifier. -/
def Distinct (m : RouteManager) : Prop :=
  ∀ guid, ((m.findRoutesOnAdapter guid).map Route.identifier).Nodup

variable {m : RouteManager} {adapter : Adapter} {time : TimePoint} {routeId : RouteIdentifier}
  {jumps : Jumps}

@[simp] theorem find_empty (guid : AdapterGuid) (routeId : RouteIdentifier) :
    find {} guid routeId = none := by
  simp [find, findRoutesOnAdapter]

theorem distinct_empty : Distinct {} := by
  simp [Distinct, findRoutesOnAdapter]

theorem mem_identifiers {m : RouteManager} {routeId : RouteIdentifier} :
    routeId ∈ m.identifiers ↔ ∃ guid route, m.find guid routeId = some route := by
  simp only [identifiers, List.mem_flatMap, List.mem_map, ← Option.isSome_iff_exists, find,
    findRoutesOnAdapter, List.find?_isSome, decide_eq_true_eq]
  constructor
  · rintro ⟨⟨guid, routes⟩, hentry, route, hroute, hid⟩
    refine ⟨guid, route, ?_, hid⟩
    rw [TreeMap.mem_toList_iff_getElem?_eq_some.mp hentry]
    exact hroute
  · rintro ⟨guid, route, hroute, hid⟩
    cases hroutes : m.adapterRoutes[guid]? with
    | none =>
      rw [hroutes] at hroute
      contradiction
    | some routes =>
      rw [hroutes] at hroute
      exact ⟨(guid, routes), TreeMap.mem_toList_iff_getElem?_eq_some.mpr hroutes, route, hroute,
        hid⟩

theorem identifier_of_find (h : m.find guid routeId = some route) : route.identifier = routeId := by
  simpa using List.find?_some h

theorem holds_of_find (h : m.find guid routeId = some route) : m.Holds guid route :=
  List.mem_of_find?_eq_some h

theorem Distinct.find_eq (hm : m.Distinct) (h : m.Holds guid route) :
    m.find guid route.identifier = some route := find?_of_nodup_keys (hm guid) h

theorem findRoutesOnAdapter_insert (m : RouteManager) (guid other : AdapterGuid)
    (routes : Routes) :
    findRoutesOnAdapter other ⟨m.adapterRoutes.insert guid routes⟩ =
      if guid = other then routes else m.findRoutesOnAdapter other := by
  by_cases h : guid = other <;>
    simp [findRoutesOnAdapter, TreeMap.getElem?_insert, h]

-- ---------------------------------------------------------------------------
-- One report
-- ---------------------------------------------------------------------------

/-- What a report makes of the route that is known, if any. -/
def reported (adapter : Adapter) (time : TimePoint) (routeId : RouteIdentifier) (jumps : Jumps) :
    Option Route → Route
  | none => newRoute adapter time routeId jumps
  | some existing => refreshed time existing

/-- What a report makes of the routes of its adapter. -/
def reportedRoutes (adapter : Adapter) (time : TimePoint) (routeId : RouteIdentifier)
    (jumps : Jumps) (routes : Routes) : Routes :=
  match routes.find? (·.identifier = routeId) with
  | none => routes ++ [newRoute adapter time routeId jumps]
  | some _ => modifyRoute routeId (refreshed time) routes

theorem findRoutesOnAdapter_processRoute (m : RouteManager) (adapter : Adapter) (time : TimePoint)
    (routeId : RouteIdentifier) (jumps : Jumps) (guid : AdapterGuid) :
    (m.processRoute adapter time routeId jumps).2.2.findRoutesOnAdapter guid =
      if adapter.guid = guid then
        reportedRoutes adapter time routeId jumps (m.findRoutesOnAdapter adapter.guid)
      else m.findRoutesOnAdapter guid := by
  rw [processRoute, reportedRoutes]
  cases hroutes : m.adapterRoutes[adapter.guid]? with
  | none =>
    have hown : m.findRoutesOnAdapter adapter.guid = [] := by simp [findRoutesOnAdapter, hroutes]
    rw [hown]
    exact findRoutesOnAdapter_insert ..
  | some routes =>
    have hown : m.findRoutesOnAdapter adapter.guid = routes := by
      simp [findRoutesOnAdapter, hroutes]
    rw [hown]
    dsimp only
    cases routes.find? (·.identifier = routeId) with
    | none => exact findRoutesOnAdapter_insert ..
    | some existing => exact findRoutesOnAdapter_insert ..

theorem find?_modifyRoute {f : Route → Route}
    (hf : ∀ route, (f route).identifier = route.identifier) (routes : Routes)
    (routeId other : RouteIdentifier) :
    (modifyRoute routeId f routes).find? (·.identifier = other) =
      if routeId = other then (routes.find? (·.identifier = other)).map f
      else routes.find? (·.identifier = other) := by
  induction routes with
  | nil => simp [modifyRoute]
  | cons first rest ih =>
    rw [modifyRoute]
    by_cases hfirst : first.identifier = routeId
    · by_cases hother : routeId = other <;> simp [hf, hfirst, hother]
    · rw [if_neg hfirst, List.find?_cons, List.find?_cons, ih]
      by_cases hother : routeId = other
      · simp [← hother, hfirst]
      · simp [hother]

theorem map_identifier_modifyRoute {f : Route → Route}
    (hf : ∀ route, (f route).identifier = route.identifier) (routeId : RouteIdentifier)
    (routes : Routes) :
    (modifyRoute routeId f routes).map Route.identifier = routes.map Route.identifier := by
  induction routes with
  | nil => rfl
  | cons first rest ih =>
    rw [modifyRoute]
    split_ifs <;> simp [hf, ih]

theorem find?_reportedRoutes (adapter : Adapter) (time : TimePoint) (routeId : RouteIdentifier)
    (jumps : Jumps) (routes : Routes) (other : RouteIdentifier) :
    (reportedRoutes adapter time routeId jumps routes).find? (·.identifier = other) =
      if routeId = other then
        some (reported adapter time routeId jumps (routes.find? (·.identifier = other)))
      else routes.find? (·.identifier = other) := by
  rw [reportedRoutes]
  by_cases hid : routeId = other
  · subst hid
    cases hknown : routes.find? (·.identifier = routeId) with
    | none => simp [hknown, reported, newRoute]
    | some existing =>
      dsimp only
      rw [find?_modifyRoute (f := refreshed time) fun _ => rfl]
      simp [hknown, reported]
  · cases routes.find? (·.identifier = routeId) with
    | none => simp [hid, newRoute]
    | some existing =>
      dsimp only
      rw [find?_modifyRoute (f := refreshed time) fun _ => rfl, if_neg hid, if_neg hid]

theorem nodup_reportedRoutes {routes : Routes} (hroutes : (routes.map Route.identifier).Nodup)
    (adapter : Adapter) (time : TimePoint) (routeId : RouteIdentifier) (jumps : Jumps) :
    ((reportedRoutes adapter time routeId jumps routes).map Route.identifier).Nodup := by
  rw [reportedRoutes]
  cases hknown : routes.find? (·.identifier = routeId) with
  | none =>
    dsimp only
    rw [List.map_append, List.nodup_append_comm]
    refine List.nodup_cons.mpr ⟨fun hmem => ?_, hroutes⟩
    obtain ⟨route, hroute, heq⟩ := List.mem_map.mp hmem
    exact List.find?_eq_none.mp hknown route hroute (decide_eq_true heq)
  | some existing =>
    dsimp only
    rw [map_identifier_modifyRoute (f := refreshed time) fun _ => rfl]
    exact hroutes

theorem find_processRoute (m : RouteManager) (adapter : Adapter) (time : TimePoint)
    (routeId : RouteIdentifier) (jumps : Jumps) (guid : AdapterGuid) (other : RouteIdentifier) :
    (m.processRoute adapter time routeId jumps).2.2.find guid other =
      if adapter.guid = guid ∧ routeId = other then
        some (reported adapter time routeId jumps (m.find guid other))
      else m.find guid other := by
  rw [find, find, findRoutesOnAdapter_processRoute]
  by_cases hguid : adapter.guid = guid
  · subst hguid
    simp only [if_true, true_and]
    exact find?_reportedRoutes ..
  · simp [hguid]

theorem Distinct.processRoute (hm : m.Distinct) (adapter : Adapter) (time : TimePoint)
    (routeId : RouteIdentifier) (jumps : Jumps) :
    (m.processRoute adapter time routeId jumps).2.2.Distinct := by
  intro guid
  rw [findRoutesOnAdapter_processRoute]
  split_ifs
  · exact nodup_reportedRoutes (hm adapter.guid) ..
  · exact hm guid

-- ---------------------------------------------------------------------------
-- A message
-- ---------------------------------------------------------------------------

/-- What a node reports: a route and the hops to its node. -/
structure Report where
  routeId : RouteIdentifier
  jumps : Jumps
  deriving DecidableEq, Repr

/-- What a message reports to the node that received it, first about its
sender, then about the nodes it tells of. -/
def reports (message : DiscoveryMessage) (info : NetworkInfo) : List Report :=
  ⟨⟨⟨message.identifier, info.sender⟩, info.adapter, info.sender⟩, directJumps⟩ ::
    message.nodes.map fun node =>
      ⟨⟨⟨node.identifier, node.address⟩, info.adapter, info.sender⟩, directJumps ++ node.jumps⟩

def report (adapter : Adapter) (time : TimePoint) (m : RouteManager) (r : Report) :
    RouteManager := (m.processRoute adapter time r.routeId r.jumps).2.2

theorem processNodes_eq (adapter : Adapter) (info : NetworkInfo) (result : Bool)
    (m : RouteManager) (nodes : List Node) :
    (processNodes adapter info result m nodes).2.2 =
      (nodes.map fun node : Node =>
        (⟨⟨⟨node.identifier, node.address⟩, info.adapter, info.sender⟩,
          directJumps ++ node.jumps⟩ : Report)).foldl (report adapter info.receptionTime) m := by
  induction nodes generalizing result m with
  | nil => rfl
  | cons node nodes ih => exact ih _ _

theorem processDiscoveryMessage_of_error {adapterManager : AdapterManager} {info : NetworkInfo}
    (h : adapterManager.findAdapterByAddress info.adapter = .error text)
    (message : DiscoveryMessage) (m : RouteManager) :
    m.processDiscoveryMessage adapterManager message info = (false, [], m) := by
  rw [processDiscoveryMessage, h]

theorem processDiscoveryMessage_eq {adapterManager : AdapterManager} {info : NetworkInfo}
    (h : adapterManager.findAdapterByAddress info.adapter = .ok adapter)
    (message : DiscoveryMessage) (m : RouteManager) :
    (m.processDiscoveryMessage adapterManager message info).2.2 =
      (reports message info).foldl (report adapter info.receptionTime) m := by
  rw [processDiscoveryMessage, h]
  exact processNodes_eq ..

theorem new_of_mem_processRoute {event : RouteEvent}
    (h : event ∈ (m.processRoute adapter time routeId jumps).2.1) :
    ∃ route, event = .new route := by
  rw [processRoute] at h
  cases hroutes : m.adapterRoutes[adapter.guid]? with
  | none =>
    rw [hroutes] at h
    exact ⟨_, List.mem_singleton.mp h⟩
  | some routes =>
    rw [hroutes] at h
    dsimp only at h
    cases hknown : routes.find? (·.identifier = routeId) with
    | none =>
      rw [hknown] at h
      exact ⟨_, List.mem_singleton.mp h⟩
    | some existing =>
      rw [hknown] at h
      contradiction

theorem new_of_mem_processNodes {info : NetworkInfo} {result : Bool} {nodes : List Node}
    {event : RouteEvent} (h : event ∈ (processNodes adapter info result m nodes).2.1) :
    ∃ route, event = .new route := by
  induction nodes generalizing result m with
  | nil => contradiction
  | cons node nodes ih =>
    rcases List.mem_append.mp h with h | h
    · exact new_of_mem_processRoute h
    · exact ih h

theorem new_of_mem_processDiscoveryMessage {adapterManager : AdapterManager}
    {message : DiscoveryMessage} {info : NetworkInfo} {event : RouteEvent}
    (h : event ∈ (m.processDiscoveryMessage adapterManager message info).2.1) :
    ∃ route, event = .new route := by
  cases hadapter : adapterManager.findAdapterByAddress info.adapter with
  | error text =>
    rw [processDiscoveryMessage_of_error hadapter] at h
    contradiction
  | ok adapter =>
    rw [processDiscoveryMessage, hadapter] at h
    rcases List.mem_append.mp h with h | h
    · exact new_of_mem_processRoute h
    · exact new_of_mem_processNodes h

-- ---------------------------------------------------------------------------
-- An update, and what goes out
-- ---------------------------------------------------------------------------

@[simp] theorem identifier_updateRoute (currentTime : TimePoint) (route : Route) :
    (updateRoute currentTime route).2.identifier = route.identifier := by
  rw [updateRoute]
  split_ifs <;> rfl

/-- An update only sets the flag. -/
theorem updateRoute_eq (currentTime : TimePoint) (route : Route) :
    (updateRoute currentTime route).2 =
      { route with status.online := isRouteOnline route currentTime } := by
  rw [updateRoute]
  obtain ⟨identifier, lastDiscovery, lastDataMessage, online, persistent, silent, jumps, mtu⟩ :=
    route
  cases online <;> split_ifs <;> simp_all

theorem events_updateRoute {currentTime : TimePoint} {route : Route}
    (honline : route.status.online = true) (hstays : isRouteOnline route currentTime = true) :
    (updateRoute currentTime route).1 = [] := by
  simp [updateRoute, honline, hstays]

theorem holds_of_mem_update {currentTime : TimePoint} {event : RouteEvent}
    (h : event ∈ (m.update currentTime).1) :
    ∃ guid route, m.Holds guid route ∧ event ∈ (updateRoute currentTime route).1 ∧
      event.route.identifier = route.identifier := by
  obtain ⟨⟨guid, routes⟩, hentry, hevent⟩ := List.mem_flatMap.mp h
  obtain ⟨route, hroute, hevent⟩ := List.mem_flatMap.mp hevent
  refine ⟨guid, route, ?_, hevent, ?_⟩
  · rw [Holds, findRoutesOnAdapter, TreeMap.mem_toList_iff_getElem?_eq_some.mp hentry]
    exact hroute
  · rw [updateRoute] at hevent
    split_ifs at hevent <;> simp_all [RouteEvent.route]

theorem findRoutesOnAdapter_update (currentTime : TimePoint) (m : RouteManager)
    (guid : AdapterGuid) :
    (m.update currentTime).2.findRoutesOnAdapter guid =
      (m.findRoutesOnAdapter guid).map fun route => (updateRoute currentTime route).2 := by
  simp only [update, findRoutesOnAdapter, TreeMap.getElem?_map]
  cases m.adapterRoutes[guid]? <;> rfl

theorem find_update (currentTime : TimePoint) (m : RouteManager) (guid : AdapterGuid)
    (routeId : RouteIdentifier) :
    (m.update currentTime).2.find guid routeId =
      (m.find guid routeId).map fun route => (updateRoute currentTime route).2 := by
  have hid : (fun route : Route => decide (route.identifier = routeId)) ∘
      (fun route => (updateRoute currentTime route).2) =
      fun route => decide (route.identifier = routeId) := by
    funext route
    simp
  rw [find, findRoutesOnAdapter_update, List.find?_map, hid, find]

theorem Distinct.update (hm : m.Distinct) (currentTime : TimePoint) :
    (m.update currentTime).2.Distinct := by
  intro guid
  simpa [findRoutesOnAdapter_update, Function.comp_def] using hm guid

theorem mem_collectRoute {result : Routes} {route other : Route}
    (h : other ∈ collectRoute result route) :
    other ∈ result ∨ other = route ∧ route.status.online = true := by
  rw [collectRoute] at h
  split_ifs at h with honline
  · cases hknown : result.find? (·.identifier = route.identifier) with
    | none =>
      rw [hknown] at h
      rcases List.mem_append.mp h with h | h
      · exact .inl h
      · exact .inr ⟨List.mem_singleton.mp h, honline⟩
    | some existing =>
      rw [hknown] at h
      dsimp only at h
      split_ifs at h
      · rcases List.mem_append.mp h with h | h
        · exact .inl (List.mem_of_mem_eraseP h)
        · exact .inr ⟨List.mem_singleton.mp h, honline⟩
      · exact .inl h
  · exact .inl h

theorem mem_foldl_collectRoute {routes result : Routes} {other : Route}
    (h : other ∈ routes.foldl collectRoute result) :
    other ∈ result ∨ other ∈ routes ∧ other.status.online = true := by
  induction routes generalizing result with
  | nil => exact .inl h
  | cons route routes ih =>
    rcases ih h with h | ⟨hmem, honline⟩
    · rcases mem_collectRoute h with h | ⟨rfl, honline⟩
      · exact .inl h
      · exact .inr ⟨List.mem_cons_self, honline⟩
    · exact .inr ⟨List.mem_cons_of_mem _ hmem, honline⟩

theorem mem_foldl_collectRoutes {outbound : AdapterGuid} {entries : List (AdapterGuid × Routes)}
    {result : Routes} {other : Route} (h : other ∈ entries.foldl (collectRoutes outbound) result) :
    other ∈ result ∨ ∃ entry ∈ entries, entry.1 ≠ outbound ∧ other ∈ entry.2 ∧
      other.status.online = true := by
  induction entries generalizing result with
  | nil => exact .inl h
  | cons entry entries ih =>
    rcases ih h with h | ⟨found, hfound, hrest⟩
    · rw [collectRoutes] at h
      split_ifs at h with hne
      · rcases mem_foldl_collectRoute h with h | ⟨hmem, honline⟩
        · exact .inl h
        · exact .inr ⟨entry, List.mem_cons_self, hne, hmem, honline⟩
      · exact .inl h
    · exact .inr ⟨found, List.mem_cons_of_mem _ hfound, hrest⟩

/-- What is told on an adapter are routes that are online and were discovered
on another one. -/
theorem holds_of_mem_findRoutesForAdapter {outbound : AdapterGuid} {route : Route}
    (h : route ∈ m.findRoutesForAdapter outbound) :
    ∃ guid, guid ≠ outbound ∧ m.Holds guid route ∧ route.status.online = true := by
  rcases mem_foldl_collectRoutes h with h | ⟨⟨guid, routes⟩, hentry, hne, hmem, honline⟩
  · contradiction
  · refine ⟨guid, hne, ?_, honline⟩
    rw [Holds, findRoutesOnAdapter, TreeMap.mem_toList_iff_getElem?_eq_some.mp hentry]
    exact hmem

-- ---------------------------------------------------------------------------
-- Properties of all routes
-- ---------------------------------------------------------------------------

/-- Every route that can be looked up has the property. -/
def AllRoutes (P : AdapterGuid → Route → Prop) (m : RouteManager) : Prop :=
  ∀ guid routeId route, m.find guid routeId = some route → P guid route

/-- A route stands in the table of the adapter that has its address. -/
def Located (adapterManager : AdapterManager) (guid : AdapterGuid) (route : Route) : Prop :=
  ∃ adapter, adapterManager.findAdapterByAddress route.identifier.adapter = .ok adapter ∧
    adapter.guid = guid

variable {P Q : AdapterGuid → Route → Prop}

theorem allRoutes_empty : AllRoutes P {} := by
  intro guid routeId route h
  simp at h

theorem AllRoutes.mono (hm : m.AllRoutes P) (h : ∀ guid route, P guid route → Q guid route) :
    m.AllRoutes Q := fun guid routeId route hfind => h guid route (hm guid routeId route hfind)

theorem AllRoutes.of_holds (hm : m.AllRoutes P) (hdistinct : m.Distinct)
    (h : m.Holds guid route) : P guid route := hm guid _ route (hdistinct.find_eq h)

theorem AllRoutes.report (hm : m.AllRoutes P) {r : Report}
    (hnew : m.find adapter.guid r.routeId = none →
      P adapter.guid (newRoute adapter time r.routeId r.jumps))
    (hrefresh : ∀ existing, m.find adapter.guid r.routeId = some existing →
      P adapter.guid existing → P adapter.guid (refreshed time existing)) :
    (m.report adapter time r).AllRoutes P := by
  intro guid routeId route h
  rw [RouteManager.report, find_processRoute] at h
  split_ifs at h with hcase
  · obtain ⟨rfl, rfl⟩ := hcase
    cases hfind : m.find adapter.guid r.routeId with
    | none =>
      rw [hfind] at h
      cases h
      exact hnew hfind
    | some existing =>
      rw [hfind] at h
      cases h
      exact hrefresh existing hfind (hm _ _ _ hfind)
  · exact hm guid routeId route h

theorem AllRoutes.reports (hm : m.AllRoutes P) {rs : List Report}
    (hnew : ∀ r ∈ rs, P adapter.guid (newRoute adapter time r.routeId r.jumps))
    (hrefresh : ∀ existing, P adapter.guid existing → P adapter.guid (refreshed time existing)) :
    (rs.foldl (RouteManager.report adapter time) m).AllRoutes P :=
  List.foldlRecOn rs _ hm fun _ hm r hr =>
    hm.report (fun _ => hnew r hr) fun existing _ => hrefresh existing

theorem Distinct.reports (hm : m.Distinct) (adapter : Adapter) (time : TimePoint)
    (rs : List Report) : (rs.foldl (report adapter time) m).Distinct :=
  List.foldlRecOn rs _ hm fun _ hm r _ => hm.processRoute adapter time r.routeId r.jumps

theorem AllRoutes.processDiscoveryMessage (hm : m.AllRoutes P) {adapterManager : AdapterManager}
    {message : DiscoveryMessage} {info : NetworkInfo}
    (hnew : ∀ adapter, adapterManager.findAdapterByAddress info.adapter = .ok adapter →
      ∀ r ∈ RouteManager.reports message info,
        P adapter.guid (newRoute adapter info.receptionTime r.routeId r.jumps))
    (hrefresh : ∀ guid existing, P guid existing →
      P guid (refreshed info.receptionTime existing)) :
    (m.processDiscoveryMessage adapterManager message info).2.2.AllRoutes P := by
  cases hadapter : adapterManager.findAdapterByAddress info.adapter with
  | error text =>
    rw [RouteManager.processDiscoveryMessage, hadapter]
    exact hm
  | ok adapter =>
    rw [processDiscoveryMessage_eq hadapter]
    exact hm.reports (hnew adapter hadapter) (hrefresh adapter.guid)

theorem Distinct.processDiscoveryMessage (hm : m.Distinct) (adapterManager : AdapterManager)
    (message : DiscoveryMessage) (info : NetworkInfo) :
    (m.processDiscoveryMessage adapterManager message info).2.2.Distinct := by
  cases hadapter : adapterManager.findAdapterByAddress info.adapter with
  | error text =>
    rw [RouteManager.processDiscoveryMessage, hadapter]
    exact hm
  | ok adapter =>
    rw [processDiscoveryMessage_eq hadapter]
    exact hm.reports adapter info.receptionTime _

theorem AllRoutes.update (hm : m.AllRoutes P) {currentTime : TimePoint}
    (h : ∀ guid route, P guid route → Q guid (updateRoute currentTime route).2) :
    (m.update currentTime).2.AllRoutes Q := by
  intro guid routeId route hfind
  rw [find_update, Option.map_eq_some_iff] at hfind
  obtain ⟨existing, hexisting, rfl⟩ := hfind
  exact h guid existing (hm guid routeId existing hexisting)

end RouteManager

end Discnet
