import Discnet.RouteSignals

/-!
# The order of discovery messages

What a message makes of a route depends on what is known of that route
alone, and a message only names routes of its sender on the adapter it was
received on. So messages of different senders, or on different adapters, do
not get in each other's way.
-/

namespace Discnet

open Lib Network Network.Messages Std

namespace RouteManager

variable {m m' : RouteManager} {adapter : Adapter} {time : TimePoint} {guid : AdapterGuid}
  {routeId : RouteIdentifier} {adapterManager : AdapterManager}

/-- The same routes under the same adapters, in whatever order. -/
structure SameRoutes (m m' : RouteManager) : Prop where
  adapters : ∀ guid, guid ∈ m.adapterRoutes ↔ guid ∈ m'.adapterRoutes
  routes : ∀ guid, (m.findRoutesOnAdapter guid).Perm (m'.findRoutesOnAdapter guid)

-- ---------------------------------------------------------------------------
-- Routes with one identifier
-- ---------------------------------------------------------------------------

/-- All routes of the adapter with the identifier. -/
def findAll (m : RouteManager) (guid : AdapterGuid) (routeId : RouteIdentifier) : Routes :=
  (m.findRoutesOnAdapter guid).filter (·.identifier = routeId)

theorem head?_findAll (m : RouteManager) (guid : AdapterGuid) (routeId : RouteIdentifier) :
    (m.findAll guid routeId).head? = m.find guid routeId :=
  List.head?_filter ..

theorem filter_modifyRoute {f : Route → Route}
    (hf : ∀ route, (f route).identifier = route.identifier) (routes : Routes)
    (routeId other : RouteIdentifier) :
    (modifyRoute routeId f routes).filter (·.identifier = other) =
      if routeId = other then modifyRoute routeId f (routes.filter (·.identifier = other))
      else routes.filter (·.identifier = other) := by
  induction routes with
  | nil => simp [modifyRoute]
  | cons first rest ih =>
    rw [modifyRoute]
    by_cases hfirst : first.identifier = routeId
    · subst hfirst
      by_cases hother : first.identifier = other <;> simp [modifyRoute, hf, hother]
    · rw [if_neg hfirst, List.filter_cons, List.filter_cons, ih]
      by_cases hother : routeId = other
      · subst hother
        simp [hfirst]
      · simp [hother]

theorem filter_reportedRoutes (adapter : Adapter) (time : TimePoint) (routeId : RouteIdentifier)
    (jumps : Jumps) (routes : Routes) (other : RouteIdentifier) :
    (reportedRoutes adapter time routeId jumps routes).filter (·.identifier = other) =
      if routeId = other then
        reportedRoutes adapter time routeId jumps (routes.filter (·.identifier = other))
      else routes.filter (·.identifier = other) := by
  have hfind : (routes.filter (·.identifier = routeId)).find? (·.identifier = routeId) =
      routes.find? (·.identifier = routeId) := by simp [List.find?_filter]
  by_cases hid : routeId = other
  · subst hid
    rw [if_pos rfl, reportedRoutes, reportedRoutes, hfind]
    cases routes.find? (·.identifier = routeId) with
    | none => simp [newRoute]
    | some existing =>
      dsimp only
      rw [filter_modifyRoute (f := refreshed time) fun _ => rfl, if_pos rfl]
  · rw [if_neg hid, reportedRoutes]
    cases routes.find? (·.identifier = routeId) with
    | none => simp [newRoute, hid]
    | some existing =>
      dsimp only
      rw [filter_modifyRoute (f := refreshed time) fun _ => rfl, if_neg hid]

theorem findAll_processRoute (m : RouteManager) (adapter : Adapter) (time : TimePoint)
    (routeId : RouteIdentifier) (jumps : Jumps) (guid : AdapterGuid) (other : RouteIdentifier) :
    (m.processRoute adapter time routeId jumps).2.2.findAll guid other =
      if adapter.guid = guid ∧ routeId = other then
        reportedRoutes adapter time routeId jumps (m.findAll guid other)
      else m.findAll guid other := by
  rw [findAll, findAll, findRoutesOnAdapter_processRoute]
  by_cases hguid : adapter.guid = guid
  · subst hguid
    simp only [if_true, true_and]
    exact filter_reportedRoutes ..
  · simp [hguid]

theorem findAll_reports_congr (reports : List Report)
    (h : m.findAll guid routeId = m'.findAll guid routeId) :
    (reports.foldl (report adapter time) m).findAll guid routeId =
      (reports.foldl (report adapter time) m').findAll guid routeId := by
  induction reports generalizing m m' with
  | nil => exact h
  | cons r rest ih =>
    apply ih
    rw [report, report, findAll_processRoute, findAll_processRoute, h]

theorem findAll_reports_of_ne {reports : List Report} (h : ∀ r ∈ reports, r.routeId ≠ routeId) :
    (reports.foldl (report adapter time) m).findAll guid routeId = m.findAll guid routeId := by
  induction reports generalizing m with
  | nil => rfl
  | cons r rest ih =>
    obtain ⟨hfirst, hrest⟩ := List.forall_mem_cons.mp h
    rw [List.foldl_cons, ih hrest, report, findAll_processRoute,
      if_neg fun hcase => hfirst hcase.2]

-- ---------------------------------------------------------------------------
-- The routes of a message
-- ---------------------------------------------------------------------------

theorem findAll_message_congr (message : DiscoveryMessage) (info : NetworkInfo)
    (h : m.findAll guid routeId = m'.findAll guid routeId) :
    (m.processDiscoveryMessage adapterManager message info).2.2.findAll guid routeId =
      (m'.processDiscoveryMessage adapterManager message info).2.2.findAll guid routeId := by
  cases hfound : adapterManager.findAdapterByAddress info.adapter with
  | error text => simpa [processDiscoveryMessage_of_error hfound] using h
  | ok adapter =>
    rw [processDiscoveryMessage_eq hfound, processDiscoveryMessage_eq hfound]
    exact findAll_reports_congr _ h

theorem findAll_message_of_ne {message : DiscoveryMessage} {info : NetworkInfo}
    (h : ∀ r ∈ reports message info, r.routeId ≠ routeId) :
    (m.processDiscoveryMessage adapterManager message info).2.2.findAll guid routeId =
      m.findAll guid routeId := by
  cases hfound : adapterManager.findAdapterByAddress info.adapter with
  | error text => simp [processDiscoveryMessage_of_error hfound]
  | ok adapter =>
    rw [processDiscoveryMessage_eq hfound]
    exact findAll_reports_of_ne h

/-- Every route of a message has its sender for reporter, and its adapter. -/
theorem reporter_of_mem_reports {message : DiscoveryMessage} {info : NetworkInfo} {r : Report}
    (h : r ∈ reports message info) :
    r.routeId.reporter = info.sender ∧ r.routeId.adapter = info.adapter := by
  rcases List.mem_cons.mp h with rfl | h
  · exact ⟨rfl, rfl⟩
  · obtain ⟨node, -, rfl⟩ := List.mem_map.mp h
    exact ⟨rfl, rfl⟩

/-- No route is named by both of two messages with different sources. -/
theorem reports_disjoint {first second : DiscoveryMessage} {firstInfo secondInfo : NetworkInfo}
    (h : firstInfo.sender ≠ secondInfo.sender ∨ firstInfo.adapter ≠ secondInfo.adapter)
    {r other : Report} (hr : r ∈ reports first firstInfo)
    (hother : other ∈ reports second secondInfo) : r.routeId ≠ other.routeId := by
  intro heq
  obtain ⟨hsender, hadapter⟩ := reporter_of_mem_reports hr
  obtain ⟨hsender', hadapter'⟩ := reporter_of_mem_reports hother
  rcases h with h | h
  · exact h (by rw [← hsender, ← hsender', heq])
  · exact h (by rw [← hadapter, ← hadapter', heq])

theorem mem_adapterRoutes_processRoute (m : RouteManager) (adapter : Adapter) (time : TimePoint)
    (routeId : RouteIdentifier) (jumps : Jumps) (guid : AdapterGuid) :
    guid ∈ (m.processRoute adapter time routeId jumps).2.2.adapterRoutes ↔
      adapter.guid = guid ∨ guid ∈ m.adapterRoutes := by
  simp only [processRoute]
  cases m.adapterRoutes[adapter.guid]? with
  | none => simp
  | some routes =>
    dsimp only
    cases routes.find? (·.identifier = routeId) <;> simp

theorem mem_adapterRoutes_message (m : RouteManager) (adapterManager : AdapterManager)
    (message : DiscoveryMessage) (info : NetworkInfo) (guid : AdapterGuid) :
    guid ∈ (m.processDiscoveryMessage adapterManager message info).2.2.adapterRoutes ↔
      (∃ adapter, adapterManager.findAdapterByAddress info.adapter = .ok adapter ∧
        adapter.guid = guid) ∨ guid ∈ m.adapterRoutes := by
  cases hfound : adapterManager.findAdapterByAddress info.adapter with
  | error text => simp [processDiscoveryMessage_of_error hfound]
  | ok adapter =>
    have hreports : ∀ (rs : List Report) (m : RouteManager), rs ≠ [] →
        (guid ∈ (rs.foldl (report adapter info.receptionTime) m).adapterRoutes ↔
          adapter.guid = guid ∨ guid ∈ m.adapterRoutes) := by
      intro rs
      induction rs with
      | nil => simp
      | cons r rest ih =>
        intro m _
        rw [List.foldl_cons]
        by_cases hrest : rest = []
        · subst hrest
          exact mem_adapterRoutes_processRoute ..
        · rw [ih _ hrest, report, mem_adapterRoutes_processRoute]
          tauto
    rw [processDiscoveryMessage_eq hfound, hreports _ _ (by simp [reports])]
    simp

-- ---------------------------------------------------------------------------
-- The signals of a message
-- ---------------------------------------------------------------------------

/-- What is raised by report after report. -/
def reportEvents (adapter : Adapter) (time : TimePoint) :
    RouteManager → List Report → List RouteEvent
  | _, [] => []
  | m, r :: rest =>
    (m.processRoute adapter time r.routeId r.jumps).2.1 ++
      reportEvents adapter time (m.report adapter time r) rest

theorem events_processNodes (adapter : Adapter) (info : NetworkInfo) (result : Bool)
    (m : RouteManager) (nodes : List Node) :
    (processNodes adapter info result m nodes).2.1 =
      reportEvents adapter info.receptionTime m (nodes.map fun node : Node =>
        (⟨⟨⟨node.identifier, node.address⟩, info.adapter, info.sender⟩,
          directJumps ++ node.jumps⟩ : Report)) := by
  induction nodes generalizing result m with
  | nil => rfl
  | cons node nodes ih =>
    rw [processNodes, ih]
    rfl

theorem events_processDiscoveryMessage {info : NetworkInfo}
    (h : adapterManager.findAdapterByAddress info.adapter = .ok adapter)
    (message : DiscoveryMessage) (m : RouteManager) :
    (m.processDiscoveryMessage adapterManager message info).2.1 =
      reportEvents adapter info.receptionTime m (reports message info) := by
  rw [processDiscoveryMessage, h]
  dsimp only
  rw [events_processNodes]
  rfl

theorem reportEvents_congr {reports : List Report}
    (h : ∀ r ∈ reports, m.find adapter.guid r.routeId = m'.find adapter.guid r.routeId) :
    reportEvents adapter time m reports = reportEvents adapter time m' reports := by
  induction reports generalizing m m' with
  | nil => rfl
  | cons r rest ih =>
    obtain ⟨hfirst, hrest⟩ := List.forall_mem_cons.mp h
    rw [reportEvents, reportEvents, events_processRoute, events_processRoute, hfirst]
    refine congrArg _ (ih fun other hother => ?_)
    rw [report, report, find_processRoute, find_processRoute, hrest other hother]

/-- The signals of a message do not depend on one from another source before
it. -/
theorem events_message_after {first second : DiscoveryMessage}
    {firstInfo secondInfo : NetworkInfo}
    (h : firstInfo.sender ≠ secondInfo.sender ∨ firstInfo.adapter ≠ secondInfo.adapter)
    (m : RouteManager) (adapterManager : AdapterManager) :
    ((m.processDiscoveryMessage adapterManager first firstInfo).2.2.processDiscoveryMessage
        adapterManager second secondInfo).2.1 =
      (m.processDiscoveryMessage adapterManager second secondInfo).2.1 := by
  cases hfound : adapterManager.findAdapterByAddress secondInfo.adapter with
  | error text => simp [processDiscoveryMessage_of_error hfound]
  | ok adapter =>
    rw [events_processDiscoveryMessage hfound, events_processDiscoveryMessage hfound]
    refine reportEvents_congr fun r hr => ?_
    rw [← head?_findAll, ← head?_findAll,
      findAll_message_of_ne fun other hother => reports_disjoint h hother hr]

-- ---------------------------------------------------------------------------
-- A message that was processed already
-- ---------------------------------------------------------------------------

theorem modifyRoute_of_fixed {f : Route → Route} {routes : Routes} {existing : Route}
    (h : routes.find? (·.identifier = routeId) = some existing) (hf : f existing = existing) :
    modifyRoute routeId f routes = routes := by
  induction routes with
  | nil => rfl
  | cons first rest ih =>
    rw [List.find?_cons] at h
    rw [modifyRoute]
    by_cases hfirst : first.identifier = routeId
    · simp only [hfirst, decide_true, Option.some.injEq] at h
      subst h
      rw [if_pos hfirst, hf]
    · simp only [hfirst, decide_false] at h
      rw [if_neg hfirst, ih h]

/-- The route was heard of at the time. -/
def HeardAt (time : TimePoint) (guid : AdapterGuid) (m : RouteManager) (r : Report) : Prop :=
  ∃ existing, m.find guid r.routeId = some existing ∧ existing.lastDiscovery = time

theorem adapterRoutes_report_of_heardAt {r : Report} (h : HeardAt time adapter.guid m r)
    (guid : AdapterGuid) :
    (m.report adapter time r).adapterRoutes[guid]? = m.adapterRoutes[guid]? := by
  obtain ⟨existing, hexisting, htime⟩ := h
  have hsame : refreshed time existing = existing := by rw [← htime]; rfl
  rw [find, findRoutesOnAdapter] at hexisting
  simp only [report, processRoute]
  cases hroutes : m.adapterRoutes[adapter.guid]? with
  | none =>
    rw [hroutes] at hexisting
    contradiction
  | some routes =>
    rw [hroutes, Option.getD_some] at hexisting
    dsimp only
    rw [hexisting]
    dsimp only
    rw [modifyRoute_of_fixed hexisting hsame, TreeMap.getElem?_insert]
    split_ifs with hguid
    · rw [← hroutes, Std.compare_eq_iff_eq.mp hguid]
    · rfl

theorem adapterRoutes_reports_of_heardAt {reports : List Report}
    (h : ∀ r ∈ reports, HeardAt time adapter.guid m r) :
    reportEvents adapter time m reports = [] ∧
      ∀ guid : AdapterGuid, (reports.foldl (report adapter time) m).adapterRoutes[guid]? =
        m.adapterRoutes[guid]? := by
  induction reports generalizing m with
  | nil => exact ⟨rfl, fun _ => rfl⟩
  | cons r rest ih =>
    obtain ⟨hfirst, hrest⟩ := List.forall_mem_cons.mp h
    have hsame := adapterRoutes_report_of_heardAt hfirst
    have hstill : ∀ other ∈ rest, HeardAt time adapter.guid (m.report adapter time r) other := by
      intro other hother
      rw [HeardAt, find, findRoutesOnAdapter, hsame]
      exact hrest other hother
    obtain ⟨hevents, hroutes⟩ := ih hstill
    obtain ⟨existing, hexisting, -⟩ := hfirst
    refine ⟨?_, fun guid => (hroutes guid).trans (hsame guid)⟩
    rw [reportEvents, events_processRoute, hexisting, hevents]
    rfl

/-- After a message all its routes were heard of at its time. -/
theorem heardAt_reports {reports : List Report} {r : Report} (h : r ∈ reports) :
    HeardAt time adapter.guid (reports.foldl (report adapter time) m) r := by
  have hfirst : (reports.find? (·.routeId = r.routeId)).isSome := by
    rw [List.find?_isSome]
    exact ⟨r, h, by simp⟩
  obtain ⟨first, hfirst⟩ := Option.isSome_iff_exists.mp hfirst
  refine ⟨reported adapter time r.routeId first.jumps (m.find adapter.guid r.routeId), ?_, ?_⟩
  · rw [find_reports, if_pos rfl, hfirst]
    rfl
  · exact (refreshes_reported ..).lastDiscovery

theorem processDiscoveryMessage_twice (m : RouteManager) (adapterManager : AdapterManager)
    (message : DiscoveryMessage) (info : NetworkInfo) :
    ((m.processDiscoveryMessage adapterManager message info).2.2.processDiscoveryMessage
        adapterManager message info).2.1 = [] ∧
      ∀ guid : AdapterGuid,
        ((m.processDiscoveryMessage adapterManager message info).2.2.processDiscoveryMessage
          adapterManager message info).2.2.adapterRoutes[guid]? =
        (m.processDiscoveryMessage adapterManager message info).2.2.adapterRoutes[guid]? := by
  cases hfound : adapterManager.findAdapterByAddress info.adapter with
  | error text => simp [processDiscoveryMessage_of_error hfound]
  | ok adapter =>
    rw [events_processDiscoveryMessage hfound, processDiscoveryMessage_eq hfound,
      processDiscoveryMessage_eq hfound]
    exact adapterRoutes_reports_of_heardAt fun r hr => heardAt_reports hr

-- ---------------------------------------------------------------------------
-- Routes that are new
-- ---------------------------------------------------------------------------

/-- The first of the reports about a route that is not there raises that it
is new. -/
theorem new_mem_reportEvents {reports : List Report} {first : Report}
    (hfirst : reports.find? (·.routeId = routeId) = some first)
    (hnone : m.find adapter.guid routeId = none) :
    .new (newRoute adapter time routeId first.jumps) ∈ reportEvents adapter time m reports := by
  induction reports generalizing m with
  | nil => contradiction
  | cons r rest ih =>
    rw [reportEvents, List.mem_append]
    rw [List.find?_cons] at hfirst
    by_cases hid : r.routeId = routeId
    · simp only [hid, decide_true, Option.some.injEq] at hfirst
      subst hfirst
      left
      rw [events_processRoute, hid, hnone]
      exact List.mem_singleton_self _
    · simp only [hid, decide_false] at hfirst
      right
      apply ih hfirst
      rw [report, find_processRoute, if_neg fun hcase => hid hcase.2]
      exact hnone

/-- A message that was received on the address of an adapter stores the routes
that it tells of, and raises those that were not there before. -/
theorem stored_of_mem_reports {info : NetworkInfo}
    (hfound : adapterManager.findAdapterByAddress info.adapter = .ok adapter)
    (m : RouteManager) {message : DiscoveryMessage} {r : Report}
    (hr : r ∈ reports message info) :
    ∃ route, (m.processDiscoveryMessage adapterManager message info).2.2.find adapter.guid
        r.routeId = some route ∧
      (m.find adapter.guid r.routeId = none →
        .new route ∈ (m.processDiscoveryMessage adapterManager message info).2.1) := by
  have hsome : ((reports message info).find? (·.routeId = r.routeId)).isSome := by
    rw [List.find?_isSome]
    exact ⟨r, hr, by simp⟩
  obtain ⟨first, hfirst⟩ := Option.isSome_iff_exists.mp hsome
  refine ⟨reported adapter info.receptionTime r.routeId first.jumps
    (m.find adapter.guid r.routeId), ?_, fun hnone => ?_⟩
  · rw [processDiscoveryMessage_eq hfound, find_reports, if_pos rfl, hfirst]
    rfl
  · rw [events_processDiscoveryMessage hfound, hnone]
    exact new_mem_reportEvents hfirst hnone

-- ---------------------------------------------------------------------------
-- Two messages
-- ---------------------------------------------------------------------------

theorem sameRoutes_of_sources {first second : DiscoveryMessage}
    {firstInfo secondInfo : NetworkInfo}
    (h : firstInfo.sender ≠ secondInfo.sender ∨ firstInfo.adapter ≠ secondInfo.adapter)
    (m : RouteManager) (adapterManager : AdapterManager) :
    ((m.processDiscoveryMessage adapterManager first firstInfo).2.2.processDiscoveryMessage
        adapterManager second secondInfo).2.2.SameRoutes
      ((m.processDiscoveryMessage adapterManager second secondInfo).2.2.processDiscoveryMessage
        adapterManager first firstInfo).2.2 where
  adapters := by
    intro guid
    simp only [mem_adapterRoutes_message]
    exact or_left_comm
  routes := by
    intro guid
    refine perm_of_filter_key Route.identifier fun routeId => ?_
    by_cases hsecond : ∀ r ∈ reports second secondInfo, r.routeId ≠ routeId
    · -- the second message adds nothing to either side
      exact (findAll_message_of_ne hsecond).trans
        (findAll_message_congr first firstInfo (findAll_message_of_ne hsecond)).symm
    · have hfirst : ∀ r ∈ reports first firstInfo, r.routeId ≠ routeId := by
        intro r hr heq
        apply hsecond
        intro other hother hid
        exact reports_disjoint h hr hother (heq.trans hid.symm)
      exact (findAll_message_congr second secondInfo (findAll_message_of_ne hfirst)).trans
        (findAll_message_of_ne hfirst).symm

/-- A discovery message that is received on the address of an adapter stores
all routes that it tells of, and raises the new ones. One that is processed
again changes nothing and raises nothing. Two messages from different senders
or on different adapters leave the same routes and raise the same signals in
either order. -/
theorem discovery_order (m : RouteManager) (adapterManager : AdapterManager) :
    (∀ message info adapter, adapterManager.findAdapterByAddress info.adapter = .ok adapter →
      ∀ r ∈ reports message info,
        let once := m.processDiscoveryMessage adapterManager message info
        ∃ route, once.2.2.find adapter.guid r.routeId = some route ∧
          (m.find adapter.guid r.routeId = none → .new route ∈ once.2.1)) ∧
    (∀ message info,
      let once := m.processDiscoveryMessage adapterManager message info
      let twice := once.2.2.processDiscoveryMessage adapterManager message info
      twice.2.1 = [] ∧ ∀ guid : AdapterGuid,
        twice.2.2.adapterRoutes[guid]? = once.2.2.adapterRoutes[guid]?) ∧
    ∀ (first second : DiscoveryMessage) (firstInfo secondInfo : NetworkInfo),
      firstInfo.sender ≠ secondInfo.sender ∨ firstInfo.adapter ≠ secondInfo.adapter →
      let afterFirst := m.processDiscoveryMessage adapterManager first firstInfo
      let afterSecond := m.processDiscoveryMessage adapterManager second secondInfo
      let firstLast := afterSecond.2.2.processDiscoveryMessage adapterManager first firstInfo
      let secondLast := afterFirst.2.2.processDiscoveryMessage adapterManager second secondInfo
      secondLast.2.2.SameRoutes firstLast.2.2 ∧
        (afterFirst.2.1 ++ secondLast.2.1).Perm (afterSecond.2.1 ++ firstLast.2.1) := by
  refine ⟨fun message info adapter hfound r hr => stored_of_mem_reports hfound m hr,
    processDiscoveryMessage_twice m adapterManager, ?_⟩
  intro first second firstInfo secondInfo h
  refine ⟨sameRoutes_of_sources h m adapterManager, ?_⟩
  have hreversed : secondInfo.sender ≠ firstInfo.sender ∨ secondInfo.adapter ≠ firstInfo.adapter :=
    h.imp Ne.symm Ne.symm
  rw [events_message_after h, events_message_after hreversed]
  exact List.perm_append_comm

end RouteManager

end Discnet
