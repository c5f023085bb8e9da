import Discnet.RouteHistory

/-!
# Persistent routes

Whether a route is persistent is set by hand: only a call that names the
route on its adapter changes it. A persistent route is online after every
update.
-/

namespace Discnet

open Lib Network Network.Messages Std

/-- What a call sets the flag of the route to, if it sets it. -/
def RouteCall.setting (guid : AdapterGuid) (routeId : RouteIdentifier) (routeCall : RouteCall) :
    Option Bool :=
  match routeCall with
  | persistentRoute _ route _ => (routeCall.namedAt guid routeId).map fun _ => route.enabled
  | _ => none

namespace RouteManager

variable {m : RouteManager} {guid : AdapterGuid} {routeId : RouteIdentifier}

/-- What the flag of the route was set to, call by call. -/
def settings (guid : AdapterGuid) (routeId : RouteIdentifier) (history : List RouteCall) :
    List Bool :=
  history.filterMap (RouteCall.setting guid routeId)

/-- As `processPersistentRoute`, but without a result where the iterator that
is followed is the end of the list. -/
def checkedPersistentRoute (adapterManager : AdapterManager) (route : PersistentRoute)
    (time : TimePoint) (m : RouteManager) : Option (Bool × List RouteEvent × RouteManager) :=
  match adapterManager.findAdapterByAddress route.identifier.adapter with
  | .error _ => some (false, [], m)
  | .ok adapter =>
    let processed := m.processRoute adapter time route.identifier [route.metric]
    if processed.1 then
      match processed.2.2.adapterRoutes[adapter.guid]? with
      | none => some (false, processed.2.1, processed.2.2)
      | some routes =>
        match routes.find? (·.identifier = route.identifier) with
        | none => none
        | some _ =>
          some (processed.1, processed.2.1, ⟨processed.2.2.adapterRoutes.insert adapter.guid
            (modifyRoute route.identifier
              (fun existing => { existing with status.persistent := route.enabled }) routes)⟩)
    else some processed

-- ---------------------------------------------------------------------------
-- The flag of one route
-- ---------------------------------------------------------------------------

/-- The flag of a route, which is not set as long as the route is not
there. -/
def persistence (known : Option Route) : Bool := known.elim false (·.status.persistent)

theorem persistence_reported (adapter : Adapter) (time : TimePoint) (routeId : RouteIdentifier)
    (jumps : Jumps) (known : Option Route) :
    (reported adapter time routeId jumps known).status.persistent = persistence known := by
  cases known <;> rfl

theorem setting_persistentRoute {adapterManager : AdapterManager} {route : PersistentRoute}
    {time : TimePoint} {adapter : Adapter}
    (h : adapterManager.findAdapterByAddress route.identifier.adapter = .ok adapter) :
    (RouteCall.persistentRoute adapterManager route time).setting guid routeId =
      if adapter.guid = guid ∧ route.identifier = routeId then some route.enabled else none := by
  by_cases hnamed : adapter.guid = guid ∧ route.identifier = routeId
  · obtain ⟨rfl, rfl⟩ := hnamed
    simp [RouteCall.setting, RouteCall.namedAt, RouteCall.announcement, h, Option.filter]
  · simp [RouteCall.setting, RouteCall.namedAt, RouteCall.announcement, h, Option.filter, hnamed,
      eq_comm (a := routeId)]

/-- A report takes the flag over, an update does not touch it. -/
theorem persistence_entryAfter (known : Option Route) (routeCall : RouteCall) :
    persistence (entryAfter guid routeId known routeCall) =
      (routeCall.setting guid routeId).getD (persistence known) := by
  cases routeCall with
  | discoveryMessage adapterManager message info =>
    simp only [entryAfter, RouteCall.setting, Option.getD_none]
    cases adapterManager.findAdapterByAddress info.adapter with
    | error text => rfl
    | ok adapter =>
      dsimp only
      split_ifs
      · cases (reports message info).find? (·.routeId = routeId) with
        | none => rfl
        | some r => exact persistence_reported ..
      · rfl
  | persistentRoute adapterManager route time =>
    cases h : adapterManager.findAdapterByAddress route.identifier.adapter with
    | error text =>
      simp [entryAfter, h, RouteCall.setting, RouteCall.namedAt, RouteCall.announcement]
    | ok adapter =>
      rw [setting_persistentRoute h, entryAfter, h]
      dsimp only
      split_ifs <;> rfl
  | update currentTime => cases known <;> simp [persistence, entryAfter, RouteCall.setting,
      updateRoute_eq]

theorem persistence_run (history : List RouteCall) (guid : AdapterGuid)
    (routeId : RouteIdentifier) :
    persistence ((run history).find guid routeId) =
      (settings guid routeId history).getLast?.getD false := by
  induction history using List.reverseRecOn with
  | nil => simp [run, settings, persistence]
  | append_singleton history routeCall ih =>
    rw [run_concat, find_after, persistence_entryAfter, ih, settings, settings,
      List.filterMap_append]
    cases h : routeCall.setting guid routeId <;> simp [h]

-- ---------------------------------------------------------------------------
-- The calls
-- ---------------------------------------------------------------------------

theorem online_of_persistent {currentTime : TimePoint} {route : Route}
    (h : (m.update currentTime).2.Holds guid route) (hpersistent : route.status.persistent = true) :
    route.status.online = true := by
  rw [Holds, findRoutesOnAdapter_update] at h
  obtain ⟨existing, -, rfl⟩ := List.mem_map.mp h
  rw [updateRoute_eq] at hpersistent ⊢
  have hexisting : existing.status.persistent = true := hpersistent
  simp [isRouteOnline, hexisting]

theorem after_of_failed {routeCall : RouteCall} (h : (m.call routeCall).1 = false) :
    m.after routeCall = m := by
  cases routeCall with
  | discoveryMessage adapterManager message info =>
    cases hfound : adapterManager.findAdapterByAddress info.adapter with
    | error text => simp [after, call, processDiscoveryMessage_of_error hfound]
    | ok adapter =>
      simp [call, processDiscoveryMessage, hfound, processNodes_fst, processRoute_fst] at h
  | persistentRoute adapterManager route time =>
    cases hfound : adapterManager.findAdapterByAddress route.identifier.adapter with
    | error text => simp [after, call, processPersistentRoute, hfound]
    | ok adapter => simp [call, processPersistentRoute_eq hfound] at h
  | update currentTime => contradiction

theorem call_fst_of_setting {routeCall : RouteCall} {enabled : Bool}
    (h : routeCall.setting guid routeId = some enabled) : (m.call routeCall).1 = true := by
  cases routeCall with
  | persistentRoute adapterManager route time =>
    obtain ⟨announcedAt, hnamed, -⟩ := Option.map_eq_some_iff.mp h
    obtain ⟨announced, hannounced, -⟩ := Option.map_eq_some_iff.mp hnamed
    rw [call_fst_iff m (by intro t; simp)]
    rw [Option.filter_eq_some_iff] at hannounced
    exact Option.isSome_of_mem hannounced.1
  | discoveryMessage adapterManager message info => contradiction
  | update currentTime => contradiction

/-- The route that was just reported is in the list the flag is set in. -/
theorem checkedPersistentRoute_eq (adapterManager : AdapterManager) (route : PersistentRoute)
    (time : TimePoint) (m : RouteManager) :
    m.checkedPersistentRoute adapterManager route time =
      some (m.processPersistentRoute adapterManager route time) := by
  cases h : adapterManager.findAdapterByAddress route.identifier.adapter with
  | error text => simp [checkedPersistentRoute, processPersistentRoute, h]
  | ok adapter =>
    simp only [checkedPersistentRoute, h, processRoute_fst, adapterRoutes_processRoute, if_true,
      find?_reportedRoutes]
    rw [processPersistentRoute_eq h]
    rfl

/-- After any calls a route is persistent if the last successful call that set
it for the route on its adapter enabled it. Persistent routes are online after an
update at any time, a call that fails leaves the table as it is, and the
route whose flag is set is always found. -/
theorem persistent_flag (history : List RouteCall) :
    (∀ guid route, (run history).Holds guid route →
      route.status.persistent = (settings guid route.identifier history).getLast?.getD false) ∧
    (∀ m routeCall guid routeId enabled,
      RouteCall.setting guid routeId routeCall = some enabled → (call m routeCall).1 = true) ∧
    (∀ m currentTime guid route, (update currentTime m).2.Holds guid route →
      route.status.persistent = true → route.status.online = true) ∧
    (∀ m routeCall, (call m routeCall).1 = false → after m routeCall = m) ∧
    ∀ m adapterManager route time,
      checkedPersistentRoute adapterManager route time m =
        some (processPersistentRoute adapterManager route time m) := by
  refine ⟨?_, ?_, ?_, ?_, ?_⟩
  · intro guid route hroute
    have hflag := persistence_run history guid route.identifier
    rw [(distinct_run history).find_eq hroute] at hflag
    exact hflag
  · intro m routeCall guid routeId enabled
    exact call_fst_of_setting
  · intro m currentTime guid route
    exact online_of_persistent
  · intro m routeCall
    exact after_of_failed
  · intro m adapterManager route time
    exact checkedPersistentRoute_eq adapterManager route time m

end RouteManager

end Discnet
