import Discnet.RouteSignals
import Discnet.Lib.Upsert
import Mathlib.Data.Set.Basic

/-!
# The route view of a simulated node

The view has a row for each route identifier, and shows what was signalled
last about a route with it. The route manager may have several such routes,
on different adapters: then one of them may go offline while another stays
online, and the row shows the one that went.
-/

namespace Discnet

open Lib

namespace Sim

/-- The table behind the view, a row for each identifier. -/
structure RouteModel where
  data : List Route := []
  nodup : (data.map Route.identifier).Nodup := by simp

namespace RouteModel

def update (entry : Route) (model : RouteModel) : RouteModel where
  data := upsert Route.identifier entry model.data
  nodup := nodup_upsert model.nodup

/-- Whether the row of the identifier shows online, if there is one. -/
def shown (routeId : RouteIdentifier) (model : RouteModel) : Option Bool :=
  (model.data.find? (·.identifier = routeId)).map (·.status.online)

end RouteModel

/-- A simulated node: its route manager, and the table of the view. -/
structure DiscnetNode where
  routeManager : RouteManager := {}
  routesModel : RouteModel := {}

namespace DiscnetNode

def routeChanged (route : Route) (_prev : Bool) (node : DiscnetNode) : DiscnetNode :=
  { node with routesModel := node.routesModel.update route }

/-- The slots that are connected to the signals. -/
def slot (node : DiscnetNode) : RouteEvent → DiscnetNode
  | .new route => node.routeChanged route true
  | .onlineStateChanged current previous => node.routeChanged current previous

/-- A call of the route manager, with all the signals it raises. -/
def call (node : DiscnetNode) (routeCall : RouteCall) : DiscnetNode :=
  (node.routeManager.call routeCall).2.1.foldl slot
    { node with routeManager := node.routeManager.after routeCall }

/-- The view tells what the route manager has: the identifiers it knows, each
in one row, and which of them are online. -/
structure Mirrors (node : DiscnetNode) : Prop where
  oneRow : (node.routesModel.data.map Route.identifier).Nodup
  known : ∀ routeId, routeId ∈ node.routesModel.data.map Route.identifier ↔
    routeId ∈ node.routeManager.identifiers
  online : ∀ row ∈ node.routesModel.data, row.status.online = true ↔
    ∃ guid route, node.routeManager.Holds guid route ∧ route.identifier = row.identifier ∧
      route.status.online = true

-- ---------------------------------------------------------------------------
-- What the view shows
-- ---------------------------------------------------------------------------

variable {node : DiscnetNode} {routeId : RouteIdentifier}

theorem slot_eq (node : DiscnetNode) (event : RouteEvent) :
    node.slot event = { node with routesModel := node.routesModel.update event.route } := by
  cases event <;> rfl

@[simp] theorem routeManager_foldl_slot (events : List RouteEvent) (node : DiscnetNode) :
    (events.foldl slot node).routeManager = node.routeManager := by
  induction events generalizing node with
  | nil => rfl
  | cons event rest ih => rw [List.foldl_cons, ih, slot_eq]

theorem data_foldl_slot (events : List RouteEvent) (node : DiscnetNode) :
    (events.foldl slot node).routesModel.data =
      (events.map RouteEvent.route).foldl (fun rows row => upsert Route.identifier row rows)
        node.routesModel.data := by
  induction events generalizing node with
  | nil => rfl
  | cons event rest ih =>
    rw [List.foldl_cons, ih, slot_eq]
    rfl

/-- The row shows the last signal. -/
theorem shown_foldl_slot (events : List RouteEvent) (node : DiscnetNode)
    (routeId : RouteIdentifier) :
    (events.foldl slot node).routesModel.shown routeId =
      ((RouteManager.eventsAbout routeId events).getLast?.map (·.route.status.online)).or
        (node.routesModel.shown routeId) := by
  rw [RouteModel.shown, data_foldl_slot, find?_foldl_upsert, List.filter_map, List.getLast?_map,
    Option.map_or, Option.map_map]
  rfl

end DiscnetNode

-- ---------------------------------------------------------------------------
-- One identifier
-- ---------------------------------------------------------------------------

/-- What is shown tells of a set of flags: whether there are any, and whether
one of them is set. -/
structure Reflects (shown : Option Bool) (flags : Set Bool) : Prop where
  none_iff : shown = none ↔ ∀ b, b ∉ flags
  true_iff : shown = some true ↔ true ∈ flags

variable {flags : Set Bool} {b : Bool}

theorem reflects_some_iff (h : b ∈ flags) : Reflects (some b) flags ↔ b = true ∨ true ∉ flags := by
  constructor
  · rintro ⟨-, htrue⟩
    cases b with
    | true => exact .inl rfl
    | false => exact .inr fun hmem => by simpa using htrue.mpr hmem
  · intro hor
    constructor
    · exact iff_of_false (Option.some_ne_none b) fun hnone => hnone b h
    · rcases hor with rfl | hnot
      · simpa using h
      · have hfalse : b ≠ true := by
          rintro rfl
          exact hnot h
        simp [hfalse, hnot]

/-- The online flags of the routes with an identifier, on all adapters. -/
def onlineFlags (routeId : RouteIdentifier) (m : RouteManager) : Set Bool :=
  { b | ∃ guid, m.onlineState guid routeId = some b }

namespace RouteModel

variable {model : RouteModel} {routeId : RouteIdentifier}

theorem shown_of_mem {row : Route} (h : row ∈ model.data) :
    model.shown row.identifier = some row.status.online := by
  rw [shown, find?_of_nodup_keys model.nodup h, Option.map_some]

theorem shown_eq_none_iff :
    model.shown routeId = none ↔ routeId ∉ model.data.map Route.identifier := by
  simp [shown]

theorem exists_row_of_mem (h : routeId ∈ model.data.map Route.identifier) :
    ∃ row ∈ model.data, row.identifier = routeId ∧
      model.shown routeId = some row.status.online := by
  obtain ⟨row, hrow, rfl⟩ := List.mem_map.mp h
  exact ⟨row, hrow, rfl, shown_of_mem hrow⟩

end RouteModel

section
variable {m : RouteManager} {routeId : RouteIdentifier}

theorem mem_identifiers_iff : routeId ∈ m.identifiers ↔ ∃ b, b ∈ onlineFlags routeId m := by
  rw [RouteManager.mem_identifiers]
  constructor
  · rintro ⟨guid, route, hroute⟩
    exact ⟨route.status.online, guid, by rw [RouteManager.onlineState, hroute, Option.map_some]⟩
  · rintro ⟨b, guid, hstate⟩
    obtain ⟨route, hroute, -⟩ := Option.map_eq_some_iff.mp hstate
    exact ⟨guid, route, hroute⟩

theorem mem_onlineFlags_iff (hm : m.Distinct) : b ∈ onlineFlags routeId m ↔
    ∃ guid route, m.Holds guid route ∧ route.identifier = routeId ∧ route.status.online = b := by
  constructor
  · rintro ⟨guid, hstate⟩
    obtain ⟨route, hroute, hflag⟩ := Option.map_eq_some_iff.mp hstate
    exact ⟨guid, route, RouteManager.holds_of_find hroute, RouteManager.identifier_of_find hroute,
      hflag⟩
  · rintro ⟨guid, route, hholds, rfl, hflag⟩
    exact ⟨guid, by rw [RouteManager.onlineState, hm.find_eq hholds, Option.map_some, hflag]⟩

end

namespace DiscnetNode

/-- The view mirrors the manager if and only if it does for each identifier. -/
theorem mirrors_iff {node : DiscnetNode} (hm : node.routeManager.Distinct) :
    Mirrors node ↔ ∀ routeId,
      Reflects (node.routesModel.shown routeId) (onlineFlags routeId node.routeManager) := by
  constructor
  · rintro ⟨-, hknown, honline⟩ routeId
    have hnone : node.routesModel.shown routeId = none ↔
        ∀ b, b ∉ onlineFlags routeId node.routeManager := by
      rw [RouteModel.shown_eq_none_iff, hknown, mem_identifiers_iff, not_exists]
    refine ⟨hnone, ?_⟩
    by_cases hmem : routeId ∈ node.routesModel.data.map Route.identifier
    · obtain ⟨row, hrow, rfl, hshown⟩ := RouteModel.exists_row_of_mem hmem
      rw [hshown, Option.some_inj, honline row hrow, mem_onlineFlags_iff hm]
    · rw [← RouteModel.shown_eq_none_iff] at hmem
      exact iff_of_false (by simp [hmem]) (hnone.mp hmem true)
  · intro h
    refine ⟨node.routesModel.nodup, fun routeId => ?_, fun row hrow => ?_⟩
    · rw [mem_identifiers_iff, ← not_iff_not, ← RouteModel.shown_eq_none_iff,
        (h routeId).none_iff, not_exists]
    · rw [← mem_onlineFlags_iff hm, ← (h row.identifier).true_iff, RouteModel.shown_of_mem hrow,
        Option.some_inj]

end DiscnetNode

-- ---------------------------------------------------------------------------
-- Reports
-- ---------------------------------------------------------------------------

open RouteManager

/-- What a view of the routes with an identifier shows after some events. -/
def shownAfter (routeId : RouteIdentifier) (events : List RouteEvent) (shown : Option Bool) :
    Option Bool :=
  ((eventsAbout routeId events).getLast?.map (·.route.status.online)).or shown

/-- With the events, a view follows from one manager to the other. -/
def Follows (routeId : RouteIdentifier) (m : RouteManager) (events : List RouteEvent)
    (m' : RouteManager) : Prop :=
  ∀ shown, Reflects shown (onlineFlags routeId m) →
    Reflects (shownAfter routeId events shown) (onlineFlags routeId m')

section
variable {m m' m'' : RouteManager} {events others : List RouteEvent} {routeId : RouteIdentifier}

theorem follows_of_quiet (hevents : eventsAbout routeId events = [])
    (hflags : ∀ guid, m'.onlineState guid routeId = m.onlineState guid routeId) :
    Follows routeId m events m' := by
  intro shown h
  rw [shownAfter, hevents]
  simpa [onlineFlags, hflags] using h

theorem Follows.append (h : Follows routeId m events m') (h' : Follows routeId m' others m'') :
    Follows routeId m (events ++ others) m'' := by
  intro shown hshown
  have hlast := h' _ (h shown hshown)
  have hsame : shownAfter routeId (events ++ others) shown =
      shownAfter routeId others (shownAfter routeId events shown) := by
    simp [shownAfter, eventsAbout, List.getLast?_append, Option.or_assoc, Option.map_or]
  rwa [hsame]

/-- A new route is shown online, and so it is. -/
theorem follows_processRoute (routeId : RouteIdentifier) (m : RouteManager) (adapter : Adapter)
    (time : TimePoint) (other : RouteIdentifier) (jumps : Jumps) :
    Follows routeId m (m.processRoute adapter time other jumps).2.1
      (m.processRoute adapter time other jumps).2.2 := by
  rw [events_processRoute]
  cases hfound : m.find adapter.guid other with
  | some existing =>
    apply follows_of_quiet rfl
    intro guid
    rw [onlineState, onlineState, find_processRoute]
    split
    case isTrue h =>
      obtain ⟨rfl, rfl⟩ := h
      rw [hfound]
      rfl
    case isFalse => rfl
  | none =>
    by_cases hid : other = routeId
    · subst hid
      intro shown _
      have hshown : shownAfter other [.new (newRoute adapter time other jumps)] shown =
          some true := by
        simp [shownAfter, eventsAbout, RouteEvent.route, newRoute]
      have hflag : true ∈ onlineFlags other (m.processRoute adapter time other jumps).2.2 := by
        refine ⟨adapter.guid, ?_⟩
        rw [onlineState, find_processRoute, if_pos ⟨rfl, rfl⟩, hfound]
        rfl
      rw [Option.elim_none, hshown]
      exact (reflects_some_iff hflag).mpr (.inl rfl)
    · apply follows_of_quiet
      · simp [eventsAbout, RouteEvent.route, newRoute, hid]
      · intro guid
        rw [onlineState, onlineState, find_processRoute, if_neg fun h => hid h.2]

theorem follows_processNodes (adapter : Adapter) (info : Network.NetworkInfo) (result : Bool)
    (m : RouteManager) (nodes : List Network.Messages.Node) :
    Follows routeId m (processNodes adapter info result m nodes).2.1
      (processNodes adapter info result m nodes).2.2 := by
  induction nodes generalizing result m with
  | nil => exact follows_of_quiet rfl fun _ => rfl
  | cons node rest ih => exact Follows.append (follows_processRoute _ _ _ _ _ _) (ih _ _)

/-- Every call but an update is followed by the view. -/
theorem follows_call {routeCall : RouteCall} (hne : ∀ time, routeCall ≠ .update time)
    (m : RouteManager) : Follows routeId m (m.call routeCall).2.1 (m.after routeCall) := by
  cases routeCall with
  | update time => exact absurd rfl (hne time)
  | discoveryMessage adapterManager message info =>
    simp only [after, RouteManager.call, processDiscoveryMessage]
    cases adapterManager.findAdapterByAddress info.adapter with
    | error text => exact follows_of_quiet rfl fun _ => rfl
    | ok adapter =>
      exact Follows.append (follows_processRoute _ _ _ _ _ _) (follows_processNodes _ _ _ _ _)
  | persistentRoute adapterManager route time =>
    simp only [after, RouteManager.call]
    cases hfound : adapterManager.findAdapterByAddress route.identifier.adapter with
    | error text =>
      rw [processPersistentRoute, hfound]
      exact follows_of_quiet rfl fun _ => rfl
    | ok adapter =>
      have hevents : (m.processPersistentRoute adapterManager route time).2.1 =
          (m.processRoute adapter time route.identifier [route.metric]).2.1 := by
        rw [processPersistentRoute_eq hfound]
      have hflag : Follows routeId (m.processRoute adapter time route.identifier [route.metric]).2.2
          [] (m.processPersistentRoute adapterManager route time).2.2 :=
        follows_of_quiet rfl fun guid => onlineState_processPersistentRoute hfound ..
      rw [hevents, ← List.append_nil (processRoute ..).2.1]
      exact Follows.append (follows_processRoute _ _ _ _ _ _) hflag

end

-- ---------------------------------------------------------------------------
-- Updates
-- ---------------------------------------------------------------------------

/-- The routes with an identifier on all adapters, in the order in which an
update comes to them. -/
def routesWith (routeId : RouteIdentifier) (m : RouteManager) : Routes :=
  m.adapterRoutes.toList.flatMap fun entry => entry.2.filter (·.identifier = routeId)

/-- The update signals that the route went online or offline. -/
def changesAt (currentTime : TimePoint) (route : Route) : Bool :=
  route.status.online != isRouteOnline route currentTime

/-- Of the routes with an identifier that change at the time, the last one is
online then, or none of them is. -/
def LastIsOnline (currentTime : TimePoint) (routes : Routes) : Prop :=
  ∀ last, (routes.filter (changesAt currentTime)).getLast? = some last →
    isRouteOnline last currentTime = true ∨
      ∀ route ∈ routes, isRouteOnline route currentTime = false

section
variable {m : RouteManager} {routeId : RouteIdentifier} {currentTime : TimePoint}

theorem mem_routesWith {route : Route} :
    route ∈ routesWith routeId m ↔ ∃ guid, m.Holds guid route ∧ route.identifier = routeId := by
  simp only [routesWith, List.mem_flatMap, List.mem_filter, decide_eq_true_eq, Holds,
    findRoutesOnAdapter]
  constructor
  · rintro ⟨⟨guid, routes⟩, hentry, hroute, hid⟩
    rw [Std.TreeMap.mem_toList_iff_getElem?_eq_some] at hentry
    exact ⟨guid, by rwa [hentry], hid⟩
  · rintro ⟨guid, hroute, hid⟩
    cases hroutes : m.adapterRoutes[guid]? with
    | none => simp [hroutes] at hroute
    | some routes =>
      rw [hroutes] at hroute
      exact ⟨(guid, routes), Std.TreeMap.mem_toList_iff_getElem?_eq_some.mpr hroutes, hroute, hid⟩

theorem mem_onlineFlags_routesWith (hm : m.Distinct) :
    b ∈ onlineFlags routeId m ↔ ∃ route ∈ routesWith routeId m, route.status.online = b := by
  rw [mem_onlineFlags_iff hm]
  constructor
  · rintro ⟨guid, route, hholds, hid, hflag⟩
    exact ⟨route, mem_routesWith.mpr ⟨guid, hholds, hid⟩, hflag⟩
  · rintro ⟨route, hroute, hflag⟩
    obtain ⟨guid, hholds, hid⟩ := mem_routesWith.mp hroute
    exact ⟨guid, route, hholds, hid, hflag⟩

theorem online_updateRoute (currentTime : TimePoint) (route : Route) :
    (updateRoute currentTime route).2.status.online = isRouteOnline route currentTime := by
  rw [updateRoute_eq]

/-- After the update each route is online as it is at the time. -/
theorem mem_onlineFlags_update (hm : m.Distinct) :
    b ∈ onlineFlags routeId (m.update currentTime).2 ↔
      ∃ route ∈ routesWith routeId m, isRouteOnline route currentTime = b := by
  rw [mem_onlineFlags_iff (hm.update currentTime)]
  simp only [Holds, findRoutesOnAdapter_update, List.mem_map]
  constructor
  · rintro ⟨guid, _, ⟨route, hroute, rfl⟩, hid, hflag⟩
    rw [identifier_updateRoute] at hid
    rw [online_updateRoute] at hflag
    exact ⟨route, mem_routesWith.mpr ⟨guid, hroute, hid⟩, hflag⟩
  · rintro ⟨route, hroute, hflag⟩
    obtain ⟨guid, hholds, hid⟩ := mem_routesWith.mp hroute
    refine ⟨guid, _, ⟨route, hholds, rfl⟩, ?_, ?_⟩
    · rw [identifier_updateRoute, hid]
    · rw [online_updateRoute, hflag]

theorem eventsAbout_update (routeId : RouteIdentifier) (currentTime : TimePoint)
    (m : RouteManager) :
    eventsAbout routeId (m.update currentTime).1 =
      (routesWith routeId m).flatMap fun route => (updateRoute currentTime route).1 := by
  have hroute : ∀ routes : Routes,
      eventsAbout routeId (routes.flatMap fun route => (updateRoute currentTime route).1) =
        (routes.filter (·.identifier = routeId)).flatMap fun route =>
          (updateRoute currentTime route).1 := by
    intro routes
    induction routes with
    | nil => rfl
    | cons route rest ih =>
      rw [List.flatMap_cons, eventsAbout, List.filter_append, ← eventsAbout, ← eventsAbout, ih,
        eventsAbout_updateRoute]
      by_cases hid : route.identifier = routeId <;> simp [hid]
  simp only [update, routesWith, List.flatMap_assoc, ← hroute, eventsAbout, List.filter_flatMap]

/-- The flags the update signals are those of the routes that change. -/
theorem flags_eventsAbout_update (routes : Routes) :
    (routes.flatMap fun route => (updateRoute currentTime route).1).map (·.route.status.online) =
      (routes.filter (changesAt currentTime)).map (isRouteOnline · currentTime) := by
  induction routes with
  | nil => rfl
  | cons route rest ih =>
    rw [List.flatMap_cons, List.map_append, ih, List.filter_cons, changesAt, updateRoute]
    cases honline : isRouteOnline route currentTime <;> cases h : route.status.online <;>
      simp_all [RouteEvent.route]

/-- The view follows over an update if and only if the last change tells
whether a route is online. -/
theorem follows_update_iff (hm : m.Distinct) {shown : Option Bool}
    (h : Reflects shown (onlineFlags routeId m)) :
    Reflects (shownAfter routeId (m.update currentTime).1 shown)
        (onlineFlags routeId (m.update currentTime).2) ↔
      LastIsOnline currentTime (routesWith routeId m) := by
  have hshown : shownAfter routeId (m.update currentTime).1 shown =
      (((routesWith routeId m).filter (changesAt currentTime)).getLast?.map
        (isRouteOnline · currentTime)).or shown := by
    rw [shownAfter, eventsAbout_update, ← List.getLast?_map, flags_eventsAbout_update,
      List.getLast?_map]
  rw [hshown, LastIsOnline]
  cases hlast : ((routesWith routeId m).filter (changesAt currentTime)).getLast? with
  | none =>
    -- nothing changes, neither what is shown nor what is online
    have hsame : ∀ route ∈ routesWith routeId m,
        isRouteOnline route currentTime = route.status.online := by
      intro route hroute
      have hnot := List.filter_eq_nil_iff.mp (List.getLast?_eq_none_iff.mp hlast) route hroute
      have heq : route.status.online = isRouteOnline route currentTime := by
        simpa [changesAt] using hnot
      exact heq.symm
    have hflags : onlineFlags routeId (m.update currentTime).2 = onlineFlags routeId m := by
      ext b
      rw [mem_onlineFlags_update hm, mem_onlineFlags_routesWith hm]
      constructor
      · rintro ⟨route, hroute, rfl⟩
        exact ⟨route, hroute, (hsame route hroute).symm⟩
      · rintro ⟨route, hroute, rfl⟩
        exact ⟨route, hroute, hsame route hroute⟩
    rw [hflags]
    exact iff_of_true h (by simp)
  | some last =>
    have hmem : last ∈ routesWith routeId m :=
      (List.mem_filter.mp (List.mem_of_getLast? hlast)).1
    have hflag : isRouteOnline last currentTime ∈ onlineFlags routeId (m.update currentTime).2 :=
      (mem_onlineFlags_update hm).mpr ⟨last, hmem, rfl⟩
    rw [Option.map_some, Option.some_or, reflects_some_iff hflag, mem_onlineFlags_update hm]
    simp

end

-- ---------------------------------------------------------------------------
-- Runs
-- ---------------------------------------------------------------------------

namespace DiscnetNode

/-- The view mirrors the manager after an update. -/
def MirrorsAfter (node : DiscnetNode) : RouteCall → Prop
  | .update currentTime => Mirrors (node.call (.update currentTime))
  | .discoveryMessage .. => True
  | .persistentRoute .. => True

/-- At an update, the last change of an identifier tells whether one of its
routes is online. -/
def LastTells (node : DiscnetNode) : RouteCall → Prop
  | .update currentTime =>
    ∀ routeId, LastIsOnline currentTime (routesWith routeId node.routeManager)
  | .discoveryMessage .. => True
  | .persistentRoute .. => True

/-- The manager has no route twice on an adapter, and the view mirrors it. -/
structure Synchronous (node : DiscnetNode) : Prop where
  distinct : node.routeManager.Distinct
  mirrors : Mirrors node

theorem synchronous_initial : Synchronous {} := by
  refine ⟨distinct_empty, (mirrors_iff distinct_empty).mpr fun routeId => ?_⟩
  constructor <;> simp [RouteModel.shown, onlineFlags, onlineState]

variable {node : DiscnetNode}

@[simp] theorem routeManager_call (node : DiscnetNode) (routeCall : RouteCall) :
    (node.call routeCall).routeManager = node.routeManager.after routeCall := by
  rw [call, routeManager_foldl_slot]

theorem shown_call (node : DiscnetNode) (routeCall : RouteCall) (routeId : RouteIdentifier) :
    (node.call routeCall).routesModel.shown routeId =
      shownAfter routeId (node.routeManager.call routeCall).2.1
        (node.routesModel.shown routeId) := by
  rw [call, shown_foldl_slot, shownAfter]

theorem Synchronous.call_of_follows (h : node.Synchronous) {routeCall : RouteCall}
    (hfollows : ∀ routeId, Reflects
      (shownAfter routeId (node.routeManager.call routeCall).2.1 (node.routesModel.shown routeId))
      (onlineFlags routeId (node.routeManager.after routeCall))) :
    (node.call routeCall).Synchronous := by
  have hdistinct : (node.call routeCall).routeManager.Distinct := by
    rw [routeManager_call]
    exact h.distinct.after routeCall
  refine ⟨hdistinct, (mirrors_iff hdistinct).mpr fun routeId => ?_⟩
  rw [shown_call, routeManager_call]
  exact hfollows routeId

theorem Synchronous.call_report (h : node.Synchronous) {routeCall : RouteCall}
    (hne : ∀ time, routeCall ≠ .update time) : (node.call routeCall).Synchronous :=
  h.call_of_follows fun routeId =>
    follows_call hne node.routeManager _ ((mirrors_iff h.distinct).mp h.mirrors routeId)

theorem Synchronous.mirrors_update_iff (h : node.Synchronous) (currentTime : TimePoint) :
    Mirrors (node.call (.update currentTime)) ↔
      ∀ routeId, LastIsOnline currentTime (routesWith routeId node.routeManager) := by
  have hdistinct : (node.call (.update currentTime)).routeManager.Distinct := by
    rw [routeManager_call]
    exact h.distinct.after _
  rw [mirrors_iff hdistinct]
  refine forall_congr' fun routeId => ?_
  rw [shown_call, routeManager_call]
  exact follows_update_iff h.distinct ((mirrors_iff h.distinct).mp h.mirrors routeId)

/-- In a run the view mirrors the manager after every update if and only if,
at each, the last change of an identifier tells whether one of its routes is
online. -/
theorem route_view_iff (history : List RouteCall) :
    Throughout call MirrorsAfter {} history ↔ Throughout call LastTells {} history := by
  refine throughout_congr synchronous_initial ?_ ?_
  · intro node routeCall h hmirrors
    cases routeCall with
    | update currentTime =>
      refine ⟨?_, hmirrors⟩
      rw [routeManager_call]
      exact h.distinct.after _
    | discoveryMessage adapterManager message info => exact h.call_report nofun
    | persistentRoute adapterManager route time => exact h.call_report nofun
  · intro node routeCall h
    cases routeCall with
    | update currentTime => exact h.mirrors_update_iff currentTime
    | discoveryMessage adapterManager message info => exact Iff.rfl
    | persistentRoute adapterManager route time => exact Iff.rfl

def adapterA : Adapter where
  guid := "a"
  macAddress := "a"
  addressList := [(⟨0x0A000001⟩, ⟨0xFFFFFF00⟩)]
  enabled := true

def adapterZ : Adapter := { adapterA with guid := "z", macAddress := "z" }

/-- A message of the node 2, with the address 10.0.0.1 on the adapter. -/
def messageOn (adapter : Adapter) (time : TimePoint) : RouteCall :=
  .discoveryMessage ((⟨∅⟩ : AdapterManager).update [adapter]).2 { identifier := 2, nodes := [] }
    { sender := ⟨0x0A000002⟩, receiver := .any, adapter := ⟨0x0A000001⟩, receptionTime := time }

/-- The address moves from one adapter to the other between two messages, and
then the first route times out. -/
def addressMoved : List RouteCall :=
  [messageOn adapterA 0, messageOn adapterZ (seconds 50), .update (seconds 100)]

theorem online_shown_offline : ¬ Throughout call MirrorsAfter {} addressMoved := by
  rintro ⟨-, -, hmirrors, -⟩
  have hrow : ∃ row ∈ (addressMoved.foldl call {}).routesModel.data,
      row.identifier = ⟨⟨2, ⟨0x0A000002⟩⟩, ⟨0x0A000001⟩, ⟨0x0A000002⟩⟩ ∧
        row.status.online = false := by
    decide +kernel
  have hroute : ∃ route ∈ (addressMoved.foldl call {}).routeManager.findRoutesOnAdapter "z",
      route.identifier = ⟨⟨2, ⟨0x0A000002⟩⟩, ⟨0x0A000001⟩, ⟨0x0A000002⟩⟩ ∧
        route.status.online = true := by
    decide +kernel
  obtain ⟨row, hrow, hid, hoffline⟩ := hrow
  obtain ⟨route, hholds, hid', honline⟩ := hroute
  have hshown := (hmirrors.online row hrow).mpr
    ⟨"z", route, hholds, hid'.trans hid.symm, honline⟩
  rw [hoffline] at hshown
  contradiction

end DiscnetNode

end Sim

end Discnet
