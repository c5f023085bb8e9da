import Discnet.AdapterReplay
import Discnet.LinuxAdapters
import Discnet.RouteSelection

/-!
# Passing routes on to the other adapters

The adapters are known by their mac address, and the clients with them; the
routes are stored under the guid of the adapter. A route is passed on to the
other adapters and not echoed on its own as long as the guid tells the
adapters apart as the mac address does. What the fetcher for Linux returns
has no guid at all.
-/

namespace Discnet

open Lib Network Network.Messages Std

-- ---------------------------------------------------------------------------
-- Adapters that are known
-- ---------------------------------------------------------------------------

namespace AdapterManager

variable {m : AdapterManager} {mac : AdapterGuid} {adapter : Adapter}

/-- No address belongs to two adapters. -/
def DisjointAddresses (m : AdapterManager) : Prop :=
  ∀ (mac other : AdapterGuid) (adapter adapter' : Adapter) (address : Address),
    m.adapters[mac]? = some adapter → m.adapters[other]? = some adapter' →
    address ∈ adapter.addressList.map Prod.fst → address ∈ adapter'.addressList.map Prod.fst →
    mac = other

theorem known_or_fetched_updateAdapters {fetched : List Adapter}
    (h : (m.updateAdapters fetched).2.adapters[mac]? = some adapter) :
    m.adapters[mac]? = some adapter ∨ adapter ∈ fetched := by
  induction fetched generalizing m with
  | nil => exact .inl h
  | cons current rest ih =>
    rcases ih h with h | h
    · rw [adapters_updateAdapter] at h
      split_ifs at h
      · cases hknown : m.adapters[mac]? with
        | none =>
          rw [hknown] at h
          cases h
          exact .inr List.mem_cons_self
        | some existing =>
          rw [hknown, knownAfter] at h
          split_ifs at h
          · exact .inl h
          · cases h
            exact .inr List.mem_cons_self
      · exact .inl h
    · exact .inr (List.mem_cons_of_mem _ h)

theorem known_or_fetched_update {fetched : List Adapter}
    (h : (m.update fetched).2.adapters[mac]? = some adapter) :
    m.adapters[mac]? = some adapter ∨ adapter ∈ fetched := by
  rw [update, adapters_removeMissing] at h
  split_ifs at h
  exact known_or_fetched_updateAdapters h

theorem findAdapter_eq_ok : m.findAdapter mac = .ok adapter ↔ m.adapters[mac]? = some adapter := by
  rw [findAdapter]
  cases m.adapters[mac]? <;> simp

/-- An address that belongs to a known adapter is found there. -/
theorem findAdapterByAddress_eq (hm : m.DisjointAddresses) {address : Address}
    (hknown : m.adapters[mac]? = some adapter)
    (haddress : address ∈ adapter.addressList.map Prod.fst) :
    m.findAdapterByAddress address = .ok adapter := by
  have hhas : ∀ a : Adapter, a.addressList.any (·.1 == address) = true ↔
      address ∈ a.addressList.map Prod.fst := by
    intro a
    simp only [List.any_eq_true, beq_iff_eq, List.mem_map]
  rw [findAdapterByAddress]
  cases hfound : m.adapters.values.find? fun a => a.addressList.any (·.1 == address) with
  | none =>
    have hnot := List.find?_eq_none.mp hfound adapter (mem_values_iff.mpr ⟨mac, hknown⟩)
    exact absurd ((hhas adapter).mpr haddress) hnot
  | some found =>
    obtain ⟨other, hother⟩ := mem_values_iff.mp (List.mem_of_find?_eq_some hfound)
    have hhere := List.find?_some hfound
    have hsame := hm other mac found adapter address hother hknown ((hhas found).mp hhere) haddress
    rw [hsame, hknown] at hother
    cases hother
    rfl

end AdapterManager

-- ---------------------------------------------------------------------------
-- Routes of one guid
-- ---------------------------------------------------------------------------

namespace RouteManager

variable {m : RouteManager} {guid : AdapterGuid} {route : Route}

/-- No route identifier is online in the lists of two adapters. -/
def OnlineOnce (m : RouteManager) : Prop :=
  ∀ guid other route route', m.Holds guid route → m.Holds other route' →
    route.status.online = true → route'.status.online = true →
    route.identifier = route'.identifier → guid = other

theorem holds_iff_mem_toList :
    m.Holds guid route ↔ ∃ routes, (guid, routes) ∈ m.adapterRoutes.toList ∧ route ∈ routes := by
  simp only [TreeMap.mem_toList_iff_getElem?_eq_some, Holds, findRoutesOnAdapter]
  cases m.adapterRoutes[guid]? <;> simp

theorem onlineOnce_of_toList
    (h : ∀ entry ∈ m.adapterRoutes.toList, ∀ entry' ∈ m.adapterRoutes.toList, ∀ route ∈ entry.2,
      ∀ route' ∈ entry'.2, route.status.online = true → route'.status.online = true →
        route.identifier = route'.identifier → entry.1 = entry'.1) : m.OnlineOnce := by
  intro guid other route route' hroute hroute' honline honline' hid
  obtain ⟨routes, hentry, hmem⟩ := holds_iff_mem_toList.mp hroute
  obtain ⟨routes', hentry', hmem'⟩ := holds_iff_mem_toList.mp hroute'
  exact h _ hentry _ hentry' route hmem route' hmem' honline honline' hid

/-- A route is told of on the adapters that have another guid, and nothing
with its identifier is told of on the others. -/
theorem mem_findRoutesForAdapter_iff (outbound : AdapterGuid) (hdistinct : m.Distinct)
    (honce : m.OnlineOnce) (hroute : m.Holds guid route)
    (honline : route.status.online = true) :
    (route ∈ m.findRoutesForAdapter outbound ↔ guid ≠ outbound) ∧
      (route.identifier ∈ (m.findRoutesForAdapter outbound).map Route.identifier ↔
        guid ≠ outbound) := by
  have hnot : ∀ found ∈ m.findRoutesForAdapter outbound, found.identifier = route.identifier →
      guid ≠ outbound := by
    intro found hfound hid
    obtain ⟨other, hne, hholds, hfoundOnline⟩ := elsewhere_of_mem_findRoutesForAdapter hfound
    rw [honce guid other route found hroute hholds honline hfoundOnline hid.symm]
    exact hne
  have htold : guid ≠ outbound → route ∈ m.findRoutesForAdapter outbound := by
    intro hne
    obtain ⟨found, hfound, hid⟩ := exists_findRoutesForAdapter ⟨guid, hne, hroute, honline⟩
    obtain ⟨other, -, hholds, hfoundOnline⟩ := elsewhere_of_mem_findRoutesForAdapter hfound
    obtain rfl := honce guid other route found hroute hholds honline hfoundOnline hid.symm
    have hfind := hdistinct.find_eq hholds
    rw [hid, hdistinct.find_eq hroute] at hfind
    cases hfind
    exact hfound
  refine ⟨⟨fun h => hnot route h rfl, htold⟩, ⟨fun h => ?_, fun hne => ?_⟩⟩
  · obtain ⟨found, hfound, hid⟩ := List.mem_map.mp h
    exact hnot found hfound hid
  · exact List.mem_map_of_mem (htold hne)

end RouteManager

-- ---------------------------------------------------------------------------
-- Runs
-- ---------------------------------------------------------------------------

/-- The two managers that decide what is passed on. -/
structure Relay where
  adapterManager : AdapterManager := ⟨∅⟩
  routeManager : RouteManager := {}

/-- What happens to them: the adapters are updated with what the fetcher
returned, or the routes are. -/
inductive RelayOp
  | fetch (adapters : List Adapter)
  | discoveryMessage (message : DiscoveryMessage) (info : NetworkInfo)
  | persistentRoute (route : PersistentRoute) (time : TimePoint)
  | updateRoutes (currentTime : TimePoint)

def RelayOp.fetched : RelayOp → List Adapter
  | fetch adapters => adapters
  | _ => []

namespace Relay

def step (s : Relay) : RelayOp → Relay
  | .fetch adapters => { s with adapterManager := (s.adapterManager.update adapters).2 }
  | .discoveryMessage message info =>
    { s with routeManager :=
        s.routeManager.after (.discoveryMessage s.adapterManager message info) }
  | .persistentRoute route time =>
    { s with routeManager := s.routeManager.after (.persistentRoute s.adapterManager route time) }
  | .updateRoutes currentTime =>
    { s with routeManager := s.routeManager.after (.update currentTime) }

def run (history : List RelayOp) : Relay := history.foldl step {}

def fetchedIn (history : List RelayOp) : List Adapter := history.flatMap RelayOp.fetched

/-- A message that was received on an address of the adapter named the
route, which is stored under the guid the adapter had then. -/
def LearnedOn (history : List RelayOp) (mac guid : AdapterGuid) (routeId : RouteIdentifier) :
    Prop :=
  ∃ before message info after adapter,
    history = before ++ .discoveryMessage message info :: after ∧
    (run before).adapterManager.adapters[mac]? = some adapter ∧
    info.adapter ∈ adapter.addressList.map Prod.fst ∧ adapter.guid = guid ∧
    routeId ∈ (RouteManager.reports message info).map (·.routeId)

theorem run_concat (history : List RelayOp) (op : RelayOp) :
    run (history ++ [op]) = (run history).step op := by
  simp [run]

theorem distinct_run (history : List RelayOp) : (run history).routeManager.Distinct := by
  induction history using List.reverseRecOn with
  | nil => exact RouteManager.distinct_empty
  | append_singleton history op ih =>
    rw [run_concat]
    cases op with
    | fetch adapters => exact ih
    | discoveryMessage message info => exact ih.after _
    | persistentRoute route time => exact ih.after _
    | updateRoutes currentTime => exact ih.after _

theorem fetchedIn_append (history more : List RelayOp) :
    fetchedIn (history ++ more) = fetchedIn history ++ fetchedIn more :=
  List.flatMap_append

theorem keyedByMac_step {s : Relay} (hs : s.adapterManager.KeyedByMac) (op : RelayOp) :
    (s.step op).adapterManager.KeyedByMac := by
  cases op with
  | fetch adapters => exact (AdapterManager.follows_update hs adapters).1
  | discoveryMessage message info => exact hs
  | persistentRoute route time => exact hs
  | updateRoutes currentTime => exact hs

theorem keyedByMac_run (history : List RelayOp) : (run history).adapterManager.KeyedByMac := by
  induction history using List.reverseRecOn with
  | nil =>
    intro mac adapter h
    simp [run] at h
  | append_singleton history op ih =>
    rw [run_concat]
    exact keyedByMac_step ih op

/-- What is known was fetched before. -/
theorem mem_fetchedIn_of_known (history : List RelayOp) {mac : AdapterGuid} {adapter : Adapter}
    (h : (run history).adapterManager.adapters[mac]? = some adapter) :
    adapter ∈ fetchedIn history := by
  induction history using List.reverseRecOn with
  | nil => simp [run] at h
  | append_singleton history op ih =>
    rw [run_concat] at h
    rw [fetchedIn_append]
    cases op with
    | fetch adapters =>
      rcases AdapterManager.known_or_fetched_update h with h | h
      · exact List.mem_append_left _ (ih h)
      · exact List.mem_append_right _ (by simpa [fetchedIn, RelayOp.fetched] using h)
    | discoveryMessage message info => exact List.mem_append_left _ (ih h)
    | persistentRoute route time => exact List.mem_append_left _ (ih h)
    | updateRoutes currentTime => exact List.mem_append_left _ (ih h)

/-- Adapters that were never fetched with a common address never have one. -/
theorem disjointAddresses_of_fetched {history : List RelayOp}
    (h : ∀ adapter ∈ fetchedIn history, ∀ other ∈ fetchedIn history,
      ∀ address ∈ adapter.addressList.map Prod.fst,
        address ∈ other.addressList.map Prod.fst → adapter.macAddress = other.macAddress)
    {before more : List RelayOp} (hgrown : before ++ more = history) :
    (run before).adapterManager.DisjointAddresses := by
  subst hgrown
  intro mac other adapter adapter' address hknown hknown' haddress haddress'
  have hadapter := List.mem_append_left (fetchedIn more) (mem_fetchedIn_of_known before hknown)
  have hadapter' := List.mem_append_left (fetchedIn more) (mem_fetchedIn_of_known before hknown')
  rw [← fetchedIn_append] at hadapter hadapter'
  rw [← keyedByMac_run before mac adapter hknown, ← keyedByMac_run before other adapter' hknown']
  exact h adapter hadapter adapter' hadapter' address haddress haddress'

/-- The guid an adapter had when a route was learned on it is one of an
adapter that was fetched with its mac address. -/
theorem LearnedOn.exists_fetched {history : List RelayOp} {mac guid : AdapterGuid}
    {routeId : RouteIdentifier} (h : LearnedOn history mac guid routeId) :
    ∃ adapter ∈ fetchedIn history, adapter.macAddress = mac ∧ adapter.guid = guid := by
  obtain ⟨before, message, info, after, adapter, rfl, hknown, -, hguid, -⟩ := h
  refine ⟨adapter, ?_, keyedByMac_run before mac adapter hknown, hguid⟩
  rw [fetchedIn_append]
  exact List.mem_append_left _ (mem_fetchedIn_of_known before hknown)

theorem identifiersOn_step (s : Relay) (op : RelayOp) (guid : AdapterGuid) :
    s.routeManager.identifiersOn guid <+: (s.step op).routeManager.identifiersOn guid := by
  cases op with
  | fetch adapters => exact List.prefix_rfl
  | discoveryMessage message info => exact RouteManager.identifiersOn_after ..
  | persistentRoute route time => exact RouteManager.identifiersOn_after ..
  | updateRoutes currentTime => exact RouteManager.identifiersOn_after ..

theorem identifiersOn_run (history more : List RelayOp) (guid : AdapterGuid) :
    (run history).routeManager.identifiersOn guid <+:
      (run (history ++ more)).routeManager.identifiersOn guid := by
  induction more using List.reverseRecOn with
  | nil => simp
  | append_singleton more op ih =>
    rw [← List.append_assoc, run_concat]
    exact ih.trans (identifiersOn_step ..)

/-- A route that was learned is there from then on. -/
theorem LearnedOn.exists_route {history : List RelayOp} {mac guid : AdapterGuid}
    {routeId : RouteIdentifier} (h : LearnedOn history mac guid routeId)
    (hdisjoint : ∀ before more, before ++ more = history →
      (run before).adapterManager.DisjointAddresses) :
    ∃ route, (run history).routeManager.find guid routeId = some route := by
  obtain ⟨before, message, info, after, adapter, rfl, hknown, haddress, hguid, hnamed⟩ := h
  have hfound := AdapterManager.findAdapterByAddress_eq (hdisjoint before _ rfl) hknown haddress
  have hnamedAt : RouteCall.namedAt guid routeId (.discoveryMessage (run before).adapterManager
      message info) = some info.receptionTime := by
    simp only [RouteCall.namedAt, RouteCall.announcement, hfound, Option.filter, hguid, hnamed]
    rfl
  have hthere : ∃ route, (run (before ++ [.discoveryMessage message info])).routeManager.find guid
      routeId = some route := by
    simp only [run_concat, step, RouteManager.find_after]
    rcases RouteManager.entryAfter_cases guid routeId ((run before).routeManager.find guid routeId)
      (.discoveryMessage (run before).adapterManager message info) with
      ⟨time, route, -, hroute, -⟩ | ⟨t, ht⟩ | ⟨hnone, -⟩
    · exact ⟨route, hroute⟩
    · cases ht
    · rw [hnone] at hnamedAt
      contradiction
  have hgrown := identifiersOn_run (before ++ [.discoveryMessage message info]) after guid
  rw [List.append_assoc, List.singleton_append] at hgrown
  exact RouteManager.mem_identifiersOn_iff.mp
    (hgrown.subset (RouteManager.mem_identifiersOn_iff.mpr hthere))

end Relay

open Relay TransmissionHandler

/-- In every run whose adapters have guids that tell them apart as the mac
addresses do, a route that was learned on an adapter is in the message for
every adapter with another mac address, and nothing with its identifier is
in the one for the adapter itself, as long as the identifier is not online
under two guids. -/
theorem passed_on_by_mac {history : List RelayOp} {networkHandler : NetworkHandler}
    {outbound : Adapter} {message : DiscoveryMessage} {mac guid : AdapterGuid}
    {routeId : RouteIdentifier}
    (hdisjoint : ∀ before more, before ++ more = history →
      (run before).adapterManager.DisjointAddresses)
    (hguids : ∀ adapter ∈ fetchedIn history, ∀ other ∈ fetchedIn history,
      adapter.guid = other.guid ↔ adapter.macAddress = other.macAddress)
    (honce : (run history).routeManager.OnlineOnce)
    (hmessage : (outbound, message) ∈ transmitDiscoveryMessage networkHandler
      (run history).adapterManager (run history).routeManager)
    (hlearned : LearnedOn history mac guid routeId) :
    ∃ route, (run history).routeManager.find guid routeId = some route ∧
      message.nodes =
        ((run history).routeManager.findRoutesForAdapter outbound.guid).map indirectNode ∧
      (route.status.online = true →
        (route ∈ (run history).routeManager.findRoutesForAdapter outbound.guid ↔
          mac ≠ outbound.macAddress) ∧
        (routeId ∈ ((run history).routeManager.findRoutesForAdapter outbound.guid).map
          Route.identifier ↔ mac ≠ outbound.macAddress)) := by
  obtain ⟨route, hroute⟩ := hlearned.exists_route hdisjoint
  obtain ⟨adapter, hadapter, rfl, rfl⟩ := hlearned.exists_fetched
  obtain ⟨client, -, hclient⟩ := List.mem_filterMap.mp hmessage
  cases hfound : (run history).adapterManager.findAdapter client.adapterIdentifier with
  | error text =>
    rw [hfound] at hclient
    contradiction
  | ok found =>
    rw [hfound] at hclient
    cases hclient
    have houtbound := mem_fetchedIn_of_known history (AdapterManager.findAdapter_eq_ok.mp hfound)
    refine ⟨route, hroute, rfl, fun honline => ?_⟩
    have htold := RouteManager.mem_findRoutesForAdapter_iff outbound.guid
      (distinct_run history) honce (RouteManager.holds_of_find hroute) honline
    rw [RouteManager.identifier_of_find hroute, ne_eq, hguids adapter hadapter outbound houtbound]
      at htold
    exact htold

/-- Two adapters, and a neighbour on the first one. -/
def neighbourOn (adapters : List Adapter) : List RelayOp :=
  [.fetch adapters, .discoveryMessage { identifier := 5 }
    { receptionTime := 0, sender := ⟨0x0a000005⟩, receiver := ⟨0xefff0001⟩,
      adapter := ⟨0x0a000001⟩ }]

def neighbour : RouteIdentifier where
  node := ⟨5, ⟨0x0a000005⟩⟩
  adapter := ⟨0x0a000001⟩
  reporter := ⟨0x0a000005⟩

def lan : Adapter := uplink "lan" "02:00:00:00:00:01" 0x0a000001

def wan : Adapter := uplink "wan" "02:00:00:00:00:02" 0x0b000001

/-- A client on each of the two. -/
def lanAndWanHandler : NetworkHandler where
  configuration := wanHandler.configuration
  clients :=
    ⟨"02:00:00:00:00:01", ⟨⟨0x0a000001⟩, 1024, ⟨0xefff0001⟩⟩, .new 4095⟩ :: wanHandler.clients

/-- What was learned on one adapter is told on the other, and on that one only. -/
theorem passed_on_lan_to_wan :
    ∃ route, (run (neighbourOn [lan, wan])).routeManager.find "lan" neighbour = some route ∧
      route ∈ (run (neighbourOn [lan, wan])).routeManager.findRoutesForAdapter "wan" ∧
      neighbour ∉ ((run (neighbourOn [lan, wan])).routeManager.findRoutesForAdapter "lan").map
        Route.identifier := by
  have hdisjoint (before more : List RelayOp) (hgrown : before ++ more = neighbourOn [lan, wan]) :
      (run before).adapterManager.DisjointAddresses :=
    disjointAddresses_of_fetched (by decide +kernel) hgrown
  have honce : (run (neighbourOn [lan, wan])).routeManager.OnlineOnce :=
    RouteManager.onlineOnce_of_toList (by decide +kernel)
  have hlearned : LearnedOn (neighbourOn [lan, wan]) "02:00:00:00:00:01" "lan" neighbour :=
    ⟨[.fetch [lan, wan]], _, _, [], lan, rfl, by decide +kernel⟩
  have honline : ((run (neighbourOn [lan, wan])).routeManager.find "lan" neighbour).map
      (·.status.online) = some true := by
    decide +kernel
  obtain ⟨route, hroute, -, hwan⟩ := @passed_on_by_mac _ lanAndWanHandler wan
    { identifier := 1, nodes := [⟨5, ⟨0x0a000005⟩, [256]⟩] } _ _ _ hdisjoint (by decide +kernel)
    honce (by decide +kernel) hlearned
  obtain ⟨route', hroute', -, hlan⟩ := @passed_on_by_mac _ lanAndWanHandler lan
    { identifier := 1, nodes := [] } _ _ _ hdisjoint (by decide +kernel) honce
    (by decide +kernel) hlearned
  obtain rfl : route = route' := Option.some.inj (hroute.symm.trans hroute')
  rw [hroute, Option.map_some, Option.some_inj] at honline
  exact ⟨route, hroute, (hwan honline).1.mpr (by decide),
    fun h => (hlan honline).2.mp h rfl⟩

def linuxRun : List RelayOp :=
  neighbourOn (Linux.getAdapters Linux.twoCards (Linux.twoCards.listed ["eth0", "eth1"]))

/-- Without guids all routes are stored under the empty one, and no message
tells of any. -/
theorem not_passed_on_linux :
    (∀ before more, before ++ more = linuxRun →
      (run before).adapterManager.DisjointAddresses) ∧
    LearnedOn linuxRun "02:00:00:00:00:01" "" neighbour ∧
    (((run linuxRun).routeManager.find "" neighbour).map (·.status.online)) = some true ∧
    (∃ outbound, (outbound, { identifier := 1, nodes := [] }) ∈ transmitDiscoveryMessage
        wanHandler (run linuxRun).adapterManager (run linuxRun).routeManager ∧
      "02:00:00:00:00:01" ≠ outbound.macAddress) ∧
    (run linuxRun).routeManager.findRoutesForAdapter "" = [] := by
  refine ⟨fun before more => disjointAddresses_of_fetched (by decide +kernel), ?_,
    by decide +kernel, ⟨Linux.twoCards.adapter "eth1" (some 2) (some 2), by decide +kernel,
      by decide +kernel⟩, by decide +kernel⟩
  exact ⟨[.fetch (Linux.getAdapters Linux.twoCards (Linux.twoCards.listed ["eth0", "eth1"]))], _,
    _, [], Linux.twoCards.adapter "eth0" (some 4163) (some 1500), rfl, by decide +kernel⟩

end Discnet
