import Discnet.RouteManager
import Mathlib.Data.List.Induction

/-!
# The history of a route

The table of an adapter only grows: a report appends a route or refreshes
the one that is there, and an update sets the flags. What the table says
about a route can therefore be told from the calls it went through, with
whatever adapters the adapter manager had at each of them.
-/

namespace Discnet

open Lib Network Network.Messages Std

-- ---------------------------------------------------------------------------
-- The calls
-- ---------------------------------------------------------------------------

/-- What is called on a route manager, with the adapters that are known at
the time. -/
inductive RouteCall
  | discoveryMessage (adapterManager : AdapterManager) (message : DiscoveryMessage)
      (info : NetworkInfo)
  | persistentRoute (adapterManager : AdapterManager) (route : PersistentRoute) (time : TimePoint)
  | update (currentTime : TimePoint)

namespace RouteManager

/-- Whether the call succeeded, what it raised, and the manager afterwards.
An update has no result. -/
def call (m : RouteManager) : RouteCall → Bool × List RouteEvent × RouteManager
  | .discoveryMessage adapterManager message info =>
    m.processDiscoveryMessage adapterManager message info
  | .persistentRoute adapterManager route time => m.processPersistentRoute adapterManager route time
  | .update currentTime => (true, m.update currentTime)

def after (m : RouteManager) (routeCall : RouteCall) : RouteManager := (m.call routeCall).2.2

def run (history : List RouteCall) : RouteManager := history.foldl after {}

end RouteManager

/-- The reports of a call, and the adapter they are about. -/
structure Announcement where
  adapter : Adapter
  time : TimePoint
  reports : List RouteManager.Report

namespace RouteCall

/-- What a call announces, if the address resolves to an adapter. -/
def announcement : RouteCall → Option Announcement
  | discoveryMessage adapterManager message info =>
    match adapterManager.findAdapterByAddress info.adapter with
    | .ok adapter => some ⟨adapter, info.receptionTime, RouteManager.reports message info⟩
    | .error _ => none
  | persistentRoute adapterManager route time =>
    match adapterManager.findAdapterByAddress route.identifier.adapter with
    | .ok adapter => some ⟨adapter, time, [⟨route.identifier, [route.metric]⟩]⟩
    | .error _ => none
  | update _ => none

/-- The time of the call, if it named the route and the address resolved to
the adapter. -/
def namedAt (guid : AdapterGuid) (routeId : RouteIdentifier) (routeCall : RouteCall) :
    Option TimePoint :=
  (routeCall.announcement.filter fun announced =>
    announced.adapter.guid = guid ∧ routeId ∈ announced.reports.map (·.routeId)).map (·.time)

end RouteCall

namespace RouteManager

variable {m : RouteManager} {guid : AdapterGuid} {routeId : RouteIdentifier}

-- ---------------------------------------------------------------------------
-- What a call does to one route
-- ---------------------------------------------------------------------------

@[simp] theorem refreshed_refreshed (time : TimePoint) (route : Route) :
    refreshed time (refreshed time route) = refreshed time route := rfl

@[simp] theorem refreshed_newRoute (adapter : Adapter) (time : TimePoint)
    (routeId : RouteIdentifier) (jumps : Jumps) :
    refreshed time (newRoute adapter time routeId jumps) = newRoute adapter time routeId jumps :=
  rfl

/-- Of several reports about one node in a message, the first one counts. -/
theorem find_reports (m : RouteManager) (adapter : Adapter) (time : TimePoint)
    (reports : List Report) (guid : AdapterGuid) (routeId : RouteIdentifier) :
    (reports.foldl (report adapter time) m).find guid routeId =
      if adapter.guid = guid then
        ((reports.find? (·.routeId = routeId)).map fun r =>
          reported adapter time routeId r.jumps (m.find guid routeId)).or (m.find guid routeId)
      else m.find guid routeId := by
  induction reports generalizing m with
  | nil => simp
  | cons r rest ih =>
    rw [List.foldl_cons, ih, report, find_processRoute, List.find?_cons]
    by_cases hguid : adapter.guid = guid
    · by_cases hid : r.routeId = routeId
      · -- the later reports refresh what the first one left
        have hsame : ∀ jumps, reported adapter time routeId jumps
            (some (reported adapter time routeId r.jumps (m.find guid routeId))) =
            reported adapter time routeId r.jumps (m.find guid routeId) := by
          intro jumps
          cases m.find guid routeId <;> rfl
        cases rest.find? (·.routeId = routeId) <;> simp [hguid, hid, hsame]
      · simp [hguid, hid]
    · simp [hguid]

theorem processRoute_fst (m : RouteManager) (adapter : Adapter) (time : TimePoint)
    (routeId : RouteIdentifier) (jumps : Jumps) :
    (m.processRoute adapter time routeId jumps).1 = true := by
  simp only [processRoute]
  cases m.adapterRoutes[adapter.guid]? with
  | none => rfl
  | some routes =>
    dsimp only
    cases routes.find? (·.identifier = routeId) <;> rfl

theorem adapterRoutes_processRoute (m : RouteManager) (adapter : Adapter) (time : TimePoint)
    (routeId : RouteIdentifier) (jumps : Jumps) :
    (m.processRoute adapter time routeId jumps).2.2.adapterRoutes[adapter.guid]? =
      some (reportedRoutes adapter time routeId jumps (m.findRoutesOnAdapter adapter.guid)) := by
  have hfound := findRoutesOnAdapter_processRoute m adapter time routeId jumps adapter.guid
  rw [if_pos rfl] at hfound
  rw [← hfound, findRoutesOnAdapter]
  have hsome : ((m.processRoute adapter time routeId jumps).2.2.adapterRoutes[adapter.guid]?).isSome
      = true := by
    simp only [processRoute]
    cases m.adapterRoutes[adapter.guid]? with
    | none => simp
    | some routes =>
      dsimp only
      cases routes.find? (·.identifier = routeId) <;> simp
  obtain ⟨routes, hroutes⟩ := Option.isSome_iff_exists.mp hsome
  simp [hroutes]

theorem processNodes_fst (adapter : Adapter) (info : NetworkInfo) (result : Bool)
    (m : RouteManager) (nodes : List Node) :
    (processNodes adapter info result m nodes).1 = result := by
  induction nodes generalizing result m with
  | nil => rfl
  | cons node rest ih => simp [processNodes, ih, processRoute_fst]

def withPersistent (enabled : Bool) (route : Route) : Route :=
  { route with status.persistent := enabled }

/-- After the report the routes of the adapter are there, so that the flag
is always set. -/
theorem processPersistentRoute_eq {adapterManager : AdapterManager} {route : PersistentRoute}
    {adapter : Adapter}
    (h : adapterManager.findAdapterByAddress route.identifier.adapter = .ok adapter)
    (m : RouteManager) (time : TimePoint) :
    m.processPersistentRoute adapterManager route time =
      (true, (m.processRoute adapter time route.identifier [route.metric]).2.1,
        ⟨(m.processRoute adapter time route.identifier [route.metric]).2.2.adapterRoutes.insert
          adapter.guid (modifyRoute route.identifier (withPersistent route.enabled)
            (reportedRoutes adapter time route.identifier [route.metric]
              (m.findRoutesOnAdapter adapter.guid)))⟩) := by
  simp only [processPersistentRoute, h, processRoute_fst, adapterRoutes_processRoute, if_true]
  rfl

theorem findRoutesOnAdapter_processPersistentRoute {adapterManager : AdapterManager}
    {route : PersistentRoute} {adapter : Adapter}
    (h : adapterManager.findAdapterByAddress route.identifier.adapter = .ok adapter)
    (m : RouteManager) (time : TimePoint) (guid : AdapterGuid) :
    (m.processPersistentRoute adapterManager route time).2.2.findRoutesOnAdapter guid =
      if adapter.guid = guid then
        modifyRoute route.identifier (withPersistent route.enabled)
          (reportedRoutes adapter time route.identifier [route.metric]
            (m.findRoutesOnAdapter adapter.guid))
      else m.findRoutesOnAdapter guid := by
  rw [processPersistentRoute_eq h, findRoutesOnAdapter_insert, findRoutesOnAdapter_processRoute]
  split_ifs <;> rfl

theorem find_processPersistentRoute {adapterManager : AdapterManager} {route : PersistentRoute}
    {adapter : Adapter}
    (h : adapterManager.findAdapterByAddress route.identifier.adapter = .ok adapter)
    (m : RouteManager) (time : TimePoint) (guid : AdapterGuid) (routeId : RouteIdentifier) :
    (m.processPersistentRoute adapterManager route time).2.2.find guid routeId =
      if adapter.guid = guid ∧ route.identifier = routeId then
        some (withPersistent route.enabled
          (reported adapter time routeId [route.metric] (m.find guid routeId)))
      else m.find guid routeId := by
  rw [find, find, findRoutesOnAdapter_processPersistentRoute h]
  by_cases hguid : adapter.guid = guid
  · subst hguid
    rw [if_pos rfl, find?_modifyRoute (f := withPersistent route.enabled) fun _ => rfl,
      find?_reportedRoutes]
    by_cases hid : route.identifier = routeId <;> simp [hid]
  · simp [hguid]

/-- The life of one route: what a call makes of it depends on no other
route. -/
def entryAfter (guid : AdapterGuid) (routeId : RouteIdentifier) (known : Option Route) :
    RouteCall → Option Route
  | .discoveryMessage adapterManager message info =>
    match adapterManager.findAdapterByAddress info.adapter with
    | .ok adapter =>
      if adapter.guid = guid then
        (((reports message info).find? (·.routeId = routeId)).map fun r =>
          reported adapter info.receptionTime routeId r.jumps known).or known
      else known
    | .error _ => known
  | .persistentRoute adapterManager route time =>
    match adapterManager.findAdapterByAddress route.identifier.adapter with
    | .ok adapter =>
      if adapter.guid = guid ∧ route.identifier = routeId then
        some (withPersistent route.enabled (reported adapter time routeId [route.metric] known))
      else known
    | .error _ => known
  | .update currentTime => known.map fun route => (updateRoute currentTime route).2

theorem find_after (m : RouteManager) (routeCall : RouteCall) (guid : AdapterGuid)
    (routeId : RouteIdentifier) :
    (m.after routeCall).find guid routeId =
      entryAfter guid routeId (m.find guid routeId) routeCall := by
  cases routeCall with
  | discoveryMessage adapterManager message info =>
    simp only [after, call, entryAfter]
    cases h : adapterManager.findAdapterByAddress info.adapter with
    | error text => simp [processDiscoveryMessage_of_error h]
    | ok adapter =>
      rw [processDiscoveryMessage_eq h]
      exact find_reports ..
  | persistentRoute adapterManager route time =>
    simp only [after, call, entryAfter]
    cases h : adapterManager.findAdapterByAddress route.identifier.adapter with
    | error text => simp [processPersistentRoute, h]
    | ok adapter => exact find_processPersistentRoute h ..
  | update currentTime => exact find_update ..

/-- What a report leaves of a route: it was discovered just now, and is as
much online as it was. -/
structure Refreshes (time : TimePoint) (known : Option Route) (route : Route) : Prop where
  lastDiscovery : route.lastDiscovery = time
  online : route.status.online = known.elim true (·.status.online)

theorem refreshes_reported (adapter : Adapter) (time : TimePoint) (routeId : RouteIdentifier)
    (jumps : Jumps) (known : Option Route) :
    Refreshes time known (reported adapter time routeId jumps known) := by
  cases known <;> exact ⟨rfl, rfl⟩

/-- A call names the route and refreshes it, or is an update, or leaves it as
it is. -/
theorem entryAfter_cases (guid : AdapterGuid) (routeId : RouteIdentifier) (known : Option Route)
    (routeCall : RouteCall) :
    (∃ time route, routeCall.namedAt guid routeId = some time ∧
        entryAfter guid routeId known routeCall = some route ∧ Refreshes time known route ∧
        ∀ t, routeCall ≠ .update t) ∨
      (∃ t, routeCall = .update t) ∨
      (routeCall.namedAt guid routeId = none ∧ entryAfter guid routeId known routeCall = known ∧
        ∀ t, routeCall ≠ .update t) := by
  cases routeCall with
  | update t => exact .inr (.inl ⟨t, rfl⟩)
  | discoveryMessage adapterManager message info =>
    simp only [RouteCall.namedAt, RouteCall.announcement, entryAfter]
    cases h : adapterManager.findAdapterByAddress info.adapter with
    | error text => simp
    | ok adapter =>
      by_cases hguid : adapter.guid = guid
      · cases hr : (reports message info).find? (·.routeId = routeId) with
        | none =>
          have hnot : ∀ r ∈ reports message info, r.routeId ≠ routeId := by simpa using hr
          simp_all [Option.filter]
        | some r =>
          have hmem : ∃ r ∈ reports message info, r.routeId = routeId :=
            ⟨r, List.mem_of_find?_eq_some hr, by simpa using List.find?_some hr⟩
          left
          refine ⟨info.receptionTime, reported adapter info.receptionTime routeId r.jumps known, ?_⟩
          simp [Option.filter, hguid, hmem, refreshes_reported]
      · simp [Option.filter, hguid]
  | persistentRoute adapterManager route time =>
    simp only [RouteCall.namedAt, RouteCall.announcement, entryAfter]
    cases h : adapterManager.findAdapterByAddress route.identifier.adapter with
    | error text => simp
    | ok adapter =>
      by_cases hnamed : adapter.guid = guid ∧ route.identifier = routeId
      · obtain ⟨hlast, honline⟩ := refreshes_reported adapter time routeId [route.metric] known
        left
        refine ⟨time, withPersistent route.enabled
          (reported adapter time routeId [route.metric] known), ?_⟩
        simp [Option.filter, hnamed]
        exact ⟨hlast, honline⟩
      · simp [Option.filter, hnamed, eq_comm (a := routeId)]

theorem entryAfter_of_namedAt_none {known : Option Route} {routeCall : RouteCall}
    (h : routeCall.namedAt guid routeId = none) (hne : ∀ t, routeCall ≠ .update t) :
    entryAfter guid routeId known routeCall = known := by
  rcases entryAfter_cases guid routeId known routeCall with
    ⟨time, route, hnamed, -⟩ | ⟨t, rfl⟩ | ⟨-, hsame, -⟩
  · rw [h] at hnamed
    contradiction
  · exact absurd rfl (hne t)
  · exact hsame

-- ---------------------------------------------------------------------------
-- What a call does to the identifiers
-- ---------------------------------------------------------------------------

/-- The identifiers of an adapter's routes, in the order of the list. -/
def identifiersOn (guid : AdapterGuid) (m : RouteManager) : List RouteIdentifier :=
  (m.findRoutesOnAdapter guid).map Route.identifier

theorem mem_identifiersOn_iff {m : RouteManager} :
    routeId ∈ m.identifiersOn guid ↔ ∃ route, m.find guid routeId = some route := by
  simp [identifiersOn, find, ← Option.isSome_iff_exists]

theorem identifiers_reportedRoutes (adapter : Adapter) (time : TimePoint)
    (routeId : RouteIdentifier) (jumps : Jumps) (routes : Routes) :
    routes.map Route.identifier <+:
      (reportedRoutes adapter time routeId jumps routes).map Route.identifier := by
  rw [reportedRoutes]
  cases routes.find? (·.identifier = routeId) with
  | none => simp
  | some existing =>
    have hsame : (modifyRoute routeId (refreshed time) routes).map Route.identifier =
        routes.map Route.identifier :=
      map_identifier_modifyRoute (f := refreshed time) (fun _ => rfl) routeId routes
    exact hsame ▸ List.prefix_rfl

theorem identifiersOn_processRoute (m : RouteManager) (adapter : Adapter) (time : TimePoint)
    (routeId : RouteIdentifier) (jumps : Jumps) (guid : AdapterGuid) :
    m.identifiersOn guid <+:
      (m.processRoute adapter time routeId jumps).2.2.identifiersOn guid := by
  simp only [identifiersOn, findRoutesOnAdapter_processRoute]
  split_ifs with hguid
  · subst hguid
    exact identifiers_reportedRoutes ..
  · exact List.prefix_rfl

theorem identifiersOn_reports (m : RouteManager) (adapter : Adapter) (time : TimePoint)
    (reports : List Report) (guid : AdapterGuid) :
    m.identifiersOn guid <+: (reports.foldl (report adapter time) m).identifiersOn guid := by
  induction reports generalizing m with
  | nil => exact List.prefix_rfl
  | cons r rest ih => exact (identifiersOn_processRoute ..).trans (ih _)

theorem identifiersOn_after (m : RouteManager) (routeCall : RouteCall) (guid : AdapterGuid) :
    m.identifiersOn guid <+: (m.after routeCall).identifiersOn guid := by
  cases routeCall with
  | discoveryMessage adapterManager message info =>
    simp only [after, call]
    cases h : adapterManager.findAdapterByAddress info.adapter with
    | error text => simp [processDiscoveryMessage_of_error h]
    | ok adapter =>
      rw [processDiscoveryMessage_eq h]
      exact identifiersOn_reports ..
  | persistentRoute adapterManager route time =>
    simp only [after, call]
    cases h : adapterManager.findAdapterByAddress route.identifier.adapter with
    | error text => simp [processPersistentRoute, h]
    | ok adapter =>
      simp only [identifiersOn, findRoutesOnAdapter_processPersistentRoute h]
      split_ifs with hguid
      · subst hguid
        rw [map_identifier_modifyRoute (f := withPersistent route.enabled) fun _ => rfl]
        exact identifiers_reportedRoutes ..
      · exact List.prefix_rfl
  | update currentTime =>
    simp [after, call, identifiersOn, findRoutesOnAdapter_update, Function.comp_def]

theorem Distinct.after (hm : m.Distinct) (routeCall : RouteCall) :
    (m.after routeCall).Distinct := by
  cases routeCall with
  | discoveryMessage adapterManager message info =>
    exact hm.processDiscoveryMessage adapterManager message info
  | persistentRoute adapterManager route time =>
    simp only [RouteManager.after, call]
    cases h : adapterManager.findAdapterByAddress route.identifier.adapter with
    | error text =>
      rw [processPersistentRoute, h]
      exact hm
    | ok adapter =>
      intro guid
      rw [findRoutesOnAdapter_processPersistentRoute h]
      split_ifs
      · rw [map_identifier_modifyRoute (f := withPersistent route.enabled) fun _ => rfl]
        exact nodup_reportedRoutes (hm adapter.guid) ..
      · exact hm guid
  | update currentTime => exact hm.update currentTime

-- ---------------------------------------------------------------------------
-- Runs
-- ---------------------------------------------------------------------------

theorem run_concat (history : List RouteCall) (routeCall : RouteCall) :
    run (history ++ [routeCall]) = (run history).after routeCall := by
  simp [run]

theorem distinct_run (history : List RouteCall) : (run history).Distinct :=
  List.foldlRecOn history _ distinct_empty fun _ hm routeCall _ => hm.after routeCall

theorem identifiersOn_run (history more : List RouteCall) (guid : AdapterGuid) :
    (run history).identifiersOn guid <+: (run (history ++ more)).identifiersOn guid := by
  induction more using List.reverseRecOn with
  | nil => simp
  | append_singleton more routeCall ih =>
    rw [← List.append_assoc, run_concat]
    exact ih.trans (identifiersOn_after ..)

/-- The times at which a route was named, in the order of the calls. -/
def namings (guid : AdapterGuid) (routeId : RouteIdentifier) (history : List RouteCall) :
    List TimePoint :=
  history.filterMap (RouteCall.namedAt guid routeId)

/-- What an update finds about a route, if it is there. -/
def verdict (guid : AdapterGuid) (routeId : RouteIdentifier) (m : RouteManager) :
    RouteCall → Option Bool
  | .update currentTime => (m.find guid routeId).map (isRouteOnline · currentTime)
  | _ => none

/-- What the updates found about a route since it is there. -/
def verdicts (guid : AdapterGuid) (routeId : RouteIdentifier) :
    RouteManager → List RouteCall → List Bool
  | _, [] => []
  | m, routeCall :: rest =>
    (verdict guid routeId m routeCall).toList ++ verdicts guid routeId (m.after routeCall) rest

theorem verdict_of_ne {routeCall : RouteCall} (h : ∀ t, routeCall ≠ .update t) :
    verdict guid routeId m routeCall = none := by
  cases routeCall with
  | update t => exact absurd rfl (h t)
  | discoveryMessage adapterManager message info => rfl
  | persistentRoute adapterManager route time => rfl

theorem verdicts_append (m : RouteManager) (history more : List RouteCall) :
    verdicts guid routeId m (history ++ more) =
      verdicts guid routeId m history ++ verdicts guid routeId (history.foldl after m) more := by
  induction history generalizing m with
  | nil => rfl
  | cons routeCall rest ih => simp [verdicts, ih]

theorem verdicts_concat (history : List RouteCall) (routeCall : RouteCall) :
    verdicts guid routeId {} (history ++ [routeCall]) =
      verdicts guid routeId {} history ++
        (verdict guid routeId (run history) routeCall).toList := by
  simp [verdicts_append, verdicts, run]

/-- What the calls tell about a route. -/
structure Tells (namings : List TimePoint) (verdicts : List Bool) (route : Route) : Prop where
  lastDiscovery : namings.getLast? = some route.lastDiscovery
  online : route.status.online = verdicts.getLast?.getD true

/-- What they tell about a route that may not be there yet. -/
def TellsOf (namings : List TimePoint) (verdicts : List Bool) : Option Route → Prop
  | none => namings = [] ∧ verdicts = []
  | some route => Tells namings verdicts route

theorem tellsOf_after {history : List RouteCall} (routeCall : RouteCall)
    (h : TellsOf (namings guid routeId history) (verdicts guid routeId {} history)
      ((run history).find guid routeId)) :
    TellsOf (namings guid routeId (history ++ [routeCall]))
      (verdicts guid routeId {} (history ++ [routeCall]))
      ((run (history ++ [routeCall])).find guid routeId) := by
  rw [verdicts_concat, run_concat, find_after, namings, List.filterMap_append]
  rw [namings] at h
  rcases entryAfter_cases guid routeId ((run history).find guid routeId) routeCall with
    ⟨time, route, hnamed, hroute, hrefresh, hne⟩ | ⟨t, rfl⟩ | ⟨hnamed, hsame, hne⟩
  · rw [hroute, verdict_of_ne hne]
    cases hknown : (run history).find guid routeId with
    | none =>
      rw [hknown] at h hrefresh
      obtain ⟨-, hverdicts⟩ := h
      constructor
      · simp [hnamed, hrefresh.lastDiscovery]
      · simp [hverdicts, hrefresh.online]
    | some existing =>
      rw [hknown] at h hrefresh
      constructor
      · simp [hnamed, hrefresh.lastDiscovery]
      · simp [hrefresh.online, h.online]
  · have hnamed : (RouteCall.update t).namedAt guid routeId = none := rfl
    cases hknown : (run history).find guid routeId with
    | none =>
      rw [hknown] at h
      simpa [hnamed, verdict, hknown, entryAfter] using h
    | some existing =>
      rw [hknown] at h
      simp only [verdict, hknown, entryAfter, Option.map_some, updateRoute_eq]
      constructor
      · simpa [hnamed] using h.lastDiscovery
      · simp
  · simpa [hnamed, hsame, verdict_of_ne hne] using h

theorem tellsOf_run (history : List RouteCall) (guid : AdapterGuid) (routeId : RouteIdentifier) :
    TellsOf (namings guid routeId history) (verdicts guid routeId {} history)
      ((run history).find guid routeId) := by
  induction history using List.reverseRecOn with
  | nil => simp [run, TellsOf, namings, verdicts]
  | append_singleton history routeCall ih => exact tellsOf_after routeCall ih

/-- A route is there exactly if a successful call named it. -/
theorem find_run_eq_none_iff (history : List RouteCall) (guid : AdapterGuid)
    (routeId : RouteIdentifier) :
    (run history).find guid routeId = none ↔ namings guid routeId history = [] := by
  have htells := tellsOf_run history guid routeId
  cases hfound : (run history).find guid routeId with
  | none =>
    rw [hfound] at htells
    simp [htells.1]
  | some route =>
    rw [hfound] at htells
    have hnamed : namings guid routeId history ≠ [] := by
      intro hnil
      have hlast := htells.lastDiscovery
      rw [hnil] at hlast
      contradiction
    simp [hnamed]

theorem mem_identifiersOn_run_iff (history : List RouteCall) (guid : AdapterGuid)
    (routeId : RouteIdentifier) :
    routeId ∈ (run history).identifiersOn guid ↔ namings guid routeId history ≠ [] := by
  rw [mem_identifiersOn_iff, ← Option.isSome_iff_exists, Option.isSome_iff_ne_none, ne_eq,
    find_run_eq_none_iff]

/-- A call that reports has a result, which says whether the address was
resolved. -/
theorem call_fst_iff (m : RouteManager) {routeCall : RouteCall}
    (h : ∀ t, routeCall ≠ .update t) :
    (m.call routeCall).1 = true ↔ routeCall.announcement.isSome := by
  cases routeCall with
  | update t => exact absurd rfl (h t)
  | discoveryMessage adapterManager message info =>
    simp only [call, RouteCall.announcement]
    cases hfound : adapterManager.findAdapterByAddress info.adapter with
    | error text => simp [processDiscoveryMessage_of_error hfound]
    | ok adapter =>
      simp [processDiscoveryMessage, hfound, processNodes_fst, processRoute_fst]
  | persistentRoute adapterManager route time =>
    simp only [call, RouteCall.announcement]
    cases hfound : adapterManager.findAdapterByAddress route.identifier.adapter with
    | error text => simp [processPersistentRoute, hfound]
    | ok adapter => simp [processPersistentRoute_eq hfound]

end RouteManager

open RouteManager

/-- The table of routes after any calls, whatever adapters were known at
each: no list names a route twice, lists have only grown at their end, every
route is there that a successful call named, and no other, with the time of
the last successful call that named it on an address of its adapter, and the
state the last update found it in since it is there. -/
theorem route_table_history (history : List RouteCall) :
    (∀ m routeCall, (∀ t, routeCall ≠ .update t) →
      ((call m routeCall).1 = true ↔ routeCall.announcement.isSome)) ∧
    ∀ guid : AdapterGuid,
      ((run history).identifiersOn guid).Nodup ∧
      (∀ before more, before ++ more = history →
        (run before).identifiersOn guid <+: (run history).identifiersOn guid) ∧
      (∀ routeId, routeId ∈ (run history).identifiersOn guid ↔
        namings guid routeId history ≠ []) ∧
      ∀ route, (run history).Holds guid route →
        (namings guid route.identifier history).getLast? = some route.lastDiscovery ∧
        route.status.online = ((verdicts guid route.identifier {} history).getLast?).getD true := by
  refine ⟨fun m routeCall hne => call_fst_iff m hne, fun guid =>
    ⟨distinct_run history guid, ?_, mem_identifiersOn_run_iff history guid, ?_⟩⟩
  · rintro before more rfl
    exact identifiersOn_run before more guid
  · intro route hroute
    have htells := tellsOf_run history guid route.identifier
    rw [(distinct_run history).find_eq hroute] at htells
    exact ⟨htells.lastDiscovery, htells.online⟩

end Discnet
