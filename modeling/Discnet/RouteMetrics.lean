import Discnet.RouteHistory

/-!
# The metric of a route

A report carries the hops to its node, but only the first one about a route
of an adapter is stored. What the table says is the latest metric as long as
the reports agree.
-/

namespace Discnet

open Lib Network Network.Messages Std

namespace RouteManager

variable {guid : AdapterGuid} {routeId : RouteIdentifier}

/-- A report, and the adapter it was heard on. -/
structure HeardReport where
  guid : AdapterGuid
  report : Report
  deriving DecidableEq, Repr

end RouteManager

/-- The reports of a call that resolved its address. -/
def RouteCall.heardReports (routeCall : RouteCall) : List RouteManager.HeardReport :=
  match routeCall.announcement with
  | some announced => announced.reports.map (⟨announced.adapter.guid, ·⟩)
  | none => []

namespace RouteManager

def HeardReport.Names (guid : AdapterGuid) (routeId : RouteIdentifier) (heard : HeardReport) :
    Prop :=
  heard.guid = guid ∧ heard.report.routeId = routeId

instance (guid : AdapterGuid) (routeId : RouteIdentifier) (heard : HeardReport) :
    Decidable (heard.Names guid routeId) := inferInstanceAs (Decidable (_ ∧ _))

/-- The first report that named the route on the adapter. -/
def firstReport (guid : AdapterGuid) (routeId : RouteIdentifier) (history : List RouteCall) :
    Option Report :=
  ((history.flatMap RouteCall.heardReports).find? (·.Names guid routeId)).map (·.report)

/-- The last report that named the route, on whatever adapter. -/
def lastReport (routeId : RouteIdentifier) (history : List RouteCall) : Option Report :=
  ((history.flatMap RouteCall.heardReports).reverse.find? (·.report.routeId = routeId)).map
    (·.report)

/-- The hops of a route that may not be there. -/
def jumpsOf (known : Option Route) : Option Jumps := known.map (·.status.jumps)

theorem jumpsOf_reported (adapter : Adapter) (time : TimePoint) (routeId : RouteIdentifier)
    (jumps : Jumps) (known : Option Route) :
    some (reported adapter time routeId jumps known).status.jumps =
      (jumpsOf known).or (some jumps) := by
  cases known <;> rfl

theorem find?_heardOn (reports : List Report) (adapter : Adapter) :
    (reports.map (HeardReport.mk adapter.guid)).find? (·.Names guid routeId) =
      if adapter.guid = guid then
        (reports.find? (·.routeId = routeId)).map (HeardReport.mk adapter.guid)
      else none := by
  have hnames : (fun heard : HeardReport => decide (heard.Names guid routeId)) ∘
      HeardReport.mk adapter.guid =
      fun r => decide (adapter.guid = guid ∧ r.routeId = routeId) := rfl
  rw [List.find?_map, hnames]
  by_cases hguid : adapter.guid = guid <;> simp [hguid]

/-- A call stores hops only where there are none. -/
theorem jumpsOf_entryAfter (known : Option Route) (routeCall : RouteCall) :
    jumpsOf (entryAfter guid routeId known routeCall) =
      (jumpsOf known).or
        ((routeCall.heardReports.find? (·.Names guid routeId)).map (·.report.jumps)) := by
  cases routeCall with
  | discoveryMessage adapterManager message info =>
    simp only [entryAfter, RouteCall.heardReports, RouteCall.announcement]
    cases adapterManager.findAdapterByAddress info.adapter with
    | error text => simp
    | ok adapter =>
      simp only [find?_heardOn]
      split_ifs with hguid
      · cases (reports message info).find? (·.routeId = routeId) with
        | none => simp
        | some r => exact jumpsOf_reported ..
      · simp
  | persistentRoute adapterManager route time =>
    simp only [entryAfter, RouteCall.heardReports, RouteCall.announcement]
    cases adapterManager.findAdapterByAddress route.identifier.adapter with
    | error text => simp
    | ok adapter =>
      simp only [find?_heardOn]
      by_cases hnamed : adapter.guid = guid ∧ route.identifier = routeId
      · have hstored := jumpsOf_reported adapter time routeId [route.metric] known
        simpa [hnamed, jumpsOf, withPersistent] using hstored
      · by_cases hguid : adapter.guid = guid <;> simp_all
  | update currentTime =>
    cases known with
    | none => rfl
    | some route => simp [jumpsOf, entryAfter, updateRoute_eq, RouteCall.heardReports,
        RouteCall.announcement]

/-- The hops of a route are those of the first report that named it on its
adapter. -/
theorem jumpsOf_run (history : List RouteCall) (guid : AdapterGuid) (routeId : RouteIdentifier) :
    jumpsOf ((run history).find guid routeId) =
      (firstReport guid routeId history).map (·.jumps) := by
  induction history using List.reverseRecOn with
  | nil => simp [run, firstReport, jumpsOf]
  | append_singleton history routeCall ih =>
    rw [run_concat, find_after, jumpsOf_entryAfter, ih]
    simp [firstReport, Function.comp_def, Option.map_or]

theorem exists_lastReport {history : List RouteCall} {first : Report}
    (h : firstReport guid routeId history = some first) :
    ∃ last, lastReport routeId history = some last := by
  obtain ⟨heard, hheard, -⟩ := Option.map_eq_some_iff.mp h
  have hnames : heard.Names guid routeId := by simpa using List.find?_some hheard
  have hlast : ((history.flatMap RouteCall.heardReports).reverse.find?
      (·.report.routeId = routeId)).isSome := by
    rw [List.find?_isSome]
    exact ⟨heard, List.mem_reverse.mpr (List.mem_of_find?_eq_some hheard), by simp [hnames.2]⟩
  obtain ⟨last, hlast⟩ := Option.isSome_iff_exists.mp hlast
  exact ⟨last.report, by rw [lastReport, hlast]; rfl⟩

/-- After any calls, the hops of every route are those of the last report
that named it if and only if they are those of the first one on its
adapter. -/
theorem latest_jumps_iff (history : List RouteCall) :
    (∀ guid route, (run history).Holds guid route →
      ∃ last, lastReport route.identifier history = some last ∧
        route.status.jumps = last.jumps) ↔
    ∀ guid routeId first last, firstReport guid routeId history = some first →
      lastReport routeId history = some last → first.jumps = last.jumps := by
  constructor
  · intro h guid routeId first last hfirst hlast
    have hjumps := jumpsOf_run history guid routeId
    rw [hfirst] at hjumps
    obtain ⟨route, hroute, hsame⟩ := Option.map_eq_some_iff.mp hjumps
    obtain ⟨found, hfound, heq⟩ := h guid route (holds_of_find hroute)
    rw [identifier_of_find hroute, hlast] at hfound
    cases hfound
    exact hsame.symm.trans heq
  · intro h guid route hroute
    have hjumps := jumpsOf_run history guid route.identifier
    rw [(distinct_run history).find_eq hroute] at hjumps
    obtain ⟨first, hfirst, hsame⟩ := Option.map_eq_some_iff.mp hjumps.symm
    obtain ⟨last, hlast⟩ := exists_lastReport hfirst
    exact ⟨last, hlast, hsame.symm.trans (h guid _ first last hfirst hlast)⟩

/-- One adapter, on which node 6 tells of node 5. -/
def lan : AdapterManager := ((⟨∅⟩ : AdapterManager).update
  [{ guid := "lan", macAddress := "02:00:00:00:00:01",
      addressList := [(⟨0x0a000001⟩, ⟨0xffffff00⟩)] }]).2

def toldOfFive (jumps : Jumps) (time : TimePoint) : RouteCall :=
  .discoveryMessage lan { identifier := 6, nodes := [⟨5, ⟨0x0a000005⟩, jumps⟩] }
    { receptionTime := time, sender := ⟨0x0a000006⟩, receiver := ⟨0xefff0001⟩
      adapter := ⟨0x0a000001⟩ }

/-- The way from node 6 to node 5 gets longer. -/
def longerWay : List RouteCall := [toldOfFive [256] 0, toldOfFive [256, 256] (seconds 30)]

/-- What is known of node 5 then. -/
def wayToFive : Route where
  identifier := ⟨⟨5, ⟨0x0a000005⟩⟩, ⟨0x0a000001⟩, ⟨0x0a000006⟩⟩
  lastDiscovery := seconds 30
  status := { online := true, jumps := [256, 256] }

theorem longer_way_not_stored :
    (run longerWay).Holds "lan" wayToFive ∧
      ¬ ∃ last, lastReport wayToFive.identifier longerWay = some last ∧
        wayToFive.status.jumps = last.jumps := by
  have hlast : lastReport wayToFive.identifier longerWay =
      some ⟨wayToFive.identifier, [256, 256, 256]⟩ := by decide +kernel
  have hroute : wayToFive ∈ (run longerWay).findRoutesOnAdapter "lan" := by decide +kernel
  refine ⟨hroute, ?_⟩
  rintro ⟨last, hsome, hjumps⟩
  rw [hlast] at hsome
  cases hsome
  contradiction

end RouteManager

end Discnet
