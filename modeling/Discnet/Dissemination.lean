import Discnet.Liveness
import Discnet.Readvertisement
import Discnet.Wire

/-!
# Discovery along a way

Nodes tell their neighbours of a node they heard of, and these tell theirs.
Where few messages in a row are lost on each hop of a way, a node that stands
at its end knows of the node it starts at: from some time on, and from then on
always.
-/

namespace Discnet

open Lib Network Network.Messages RouteManager

variable {ι : Type}

-- ---------------------------------------------------------------------------
-- Ways
-- ---------------------------------------------------------------------------

/-- What a node sends from one of its addresses and another one receives on
one of its own, which belongs to the inbound adapter. -/
structure Hop (ι : Type) where
  sender : ι
  source : Address
  receiver : ι
  adapter : Address
  inbound : Adapter
  deriving DecidableEq, Repr

namespace Hop

def Sends (hop : Hop ι) (tx : Transmission ι) : Prop :=
  tx.node = hop.sender ∧ tx.sender = hop.source

/-- What was sent at the place `p` was received at the place `r`. -/
def Carries (hop : Hop ι) (history : List (Entry ι)) (p r : Nat) : Prop :=
  p < r ∧ (∃ tx, history[p]? = some (.sent tx) ∧ hop.Sends tx) ∧
    ∃ time, history[r]? = some (.received hop.receiver hop.adapter time p)

/-- The route the receiver gets to a node that the sender tells of. -/
def routeId (hop : Hop ι) (node : NodeIdentifier) : RouteIdentifier :=
  ⟨node, hop.adapter, hop.source⟩

end Hop

/-- Before the place `q` messages went all the way, over each hop after they
went over the one before. The last hop is in front. -/
def Gone (history : List (Entry ι)) : List (Hop ι) → Nat → Prop
  | [], _ => True
  | hop :: way, q => ∃ p r, Gone history way p ∧ hop.Carries history p r ∧ r < q

def Transmission.Tells (tx : Transmission ι) (node : NodeIdentifier) : Prop :=
  node ∈ ⟨tx.message.identifier, tx.sender⟩ ::
    tx.message.nodes.map fun told => (⟨told.identifier, told.address⟩ : NodeIdentifier)

section
variable {history entries : List (Entry ι)} {hop : Hop ι} {way : List (Hop ι)} {q q' : Nat}

theorem Hop.Carries.append (h : hop.Carries history p r) :
    hop.Carries (history ++ entries) p r := by
  obtain ⟨hpr, ⟨tx, hsent, hsends⟩, time, hreceived⟩ := h
  have hgrown := List.prefix_append history entries
  exact ⟨hpr, ⟨tx, getElem?_of_isPrefix hgrown hsent, hsends⟩, time,
    getElem?_of_isPrefix hgrown hreceived⟩

theorem Hop.Carries.of_append (h : hop.Carries (history ++ entries) p r)
    (hr : r < history.length) : hop.Carries history p r := by
  obtain ⟨hpr, ⟨tx, hsent, hsends⟩, time, hreceived⟩ := h
  rw [List.getElem?_append_left (Nat.lt_trans hpr hr)] at hsent
  rw [List.getElem?_append_left hr] at hreceived
  exact ⟨hpr, ⟨tx, hsent, hsends⟩, time, hreceived⟩

theorem Gone.later (h : Gone history way q) (hq : q ≤ q') : Gone history way q' := by
  cases way with
  | nil => trivial
  | cons hop way =>
    obtain ⟨p, r, hgone, hcarries, hr⟩ := h
    exact ⟨p, r, hgone, hcarries, Nat.lt_of_lt_of_le hr hq⟩

theorem Gone.append (h : Gone history way q) : Gone (history ++ entries) way q := by
  induction way generalizing q with
  | nil => trivial
  | cons hop way ih =>
    obtain ⟨p, r, hgone, hcarries, hr⟩ := h
    exact ⟨p, r, ih hgone, hcarries.append, hr⟩

/-- What went before a place is in the history up to there. -/
theorem Gone.of_append (h : Gone (history ++ entries) way q) (hq : q ≤ history.length) :
    Gone history way q := by
  induction way generalizing q with
  | nil => trivial
  | cons hop way ih =>
    obtain ⟨p, r, hgone, hcarries, hr⟩ := h
    have hlength := Nat.lt_of_lt_of_le hr hq
    have hp := Nat.le_of_lt (Nat.lt_trans hcarries.1 hlength)
    exact ⟨p, r, ih hgone hp, hcarries.of_append hlength, hr⟩

theorem Gone.before_quiet (h : Gone (history ++ entries) way q)
    (hquiet : ∀ n c time p, .received n c time p ∉ entries) : Gone history way history.length := by
  cases way with
  | nil => trivial
  | cons hop way =>
    obtain ⟨p, r, hgone, hcarries, -⟩ := h
    have hr : r < history.length := by
      by_contra hlater
      obtain ⟨-, -, time, hreceived⟩ := hcarries
      rw [List.getElem?_append_right (Nat.le_of_not_lt hlater)] at hreceived
      exact hquiet _ _ _ _ (List.mem_of_getElem? hreceived)
    have hgone' : Gone (history ++ entries) (hop :: way) history.length :=
      ⟨p, r, hgone, hcarries, hr⟩
    exact hgone'.of_append (Nat.le_refl _)

end

-- ---------------------------------------------------------------------------
-- What a message does to the routes
-- ---------------------------------------------------------------------------

section
variable {m : RouteManager} {adapter : Adapter} {time t : TimePoint} {rs : List Report}
  {routeId : RouteIdentifier} {guid : AdapterGuid} {route : Route}

/-- The table has the route, discovered at the time or later. -/
def RouteManager.FreshAt (m : RouteManager) (guid : AdapterGuid) (routeId : RouteIdentifier)
    (t : TimePoint) : Prop :=
  ∃ route, m.find guid routeId = some route ∧ t ≤ route.lastDiscovery

theorem RouteManager.FreshAt.reports (h : m.FreshAt guid routeId t) (ht : t ≤ time)
    (adapter : Adapter) (rs : List Report) :
    (rs.foldl (report adapter time) m).FreshAt guid routeId t := by
  refine List.foldlRecOn (motive := fun m' : RouteManager => m'.FreshAt guid routeId t) rs
    (report adapter time) h fun m' hm' r _ => ?_
  obtain ⟨route, hroute, hlast⟩ := hm'
  rw [FreshAt, report, find_processRoute]
  split_ifs with hcase
  · rw [hroute]
    exact ⟨_, rfl, ht⟩
  · exact ⟨route, hroute, hlast⟩

theorem freshAt_reports {r : Report} (hr : r ∈ rs) (m : RouteManager) (adapter : Adapter)
    (time : TimePoint) :
    (rs.foldl (report adapter time) m).FreshAt adapter.guid r.routeId time := by
  obtain ⟨before, after, rfl⟩ := List.append_of_mem hr
  rw [List.foldl_append]
  obtain ⟨route, hroute, hlast⟩ := find_reports_of_first (before.foldl (report adapter time) m)
    adapter time r after
  exact ⟨route, hroute, Int.le_of_eq hlast.symm⟩

theorem RouteManager.FreshAt.processDiscoveryMessage (h : m.FreshAt guid routeId t)
    {info : NetworkInfo} (ht : t ≤ info.receptionTime) (adapterManager : AdapterManager)
    (message : DiscoveryMessage) :
    (m.processDiscoveryMessage adapterManager message info).2.2.FreshAt guid routeId t := by
  cases hfound : adapterManager.findAdapterByAddress info.adapter with
  | error text =>
    rw [RouteManager.processDiscoveryMessage, hfound]
    exact h
  | ok found =>
    rw [processDiscoveryMessage_eq hfound]
    exact h.reports ht found _

/-- What a message tells of is discovered when it is received. -/
theorem freshAt_of_tells {tx : Transmission ι} {node : NodeIdentifier} (h : tx.Tells node)
    (info : NetworkInfo) {adapterManager : AdapterManager}
    (hfound : adapterManager.findAdapterByAddress info.adapter = .ok adapter)
    (hsender : info.sender = tx.sender) (m : RouteManager) :
    (m.processDiscoveryMessage adapterManager tx.message info).2.2.FreshAt adapter.guid
      ⟨node, info.adapter, tx.sender⟩ info.receptionTime := by
  have hreport : ∃ r ∈ reports tx.message info, r.routeId = ⟨node, info.adapter, tx.sender⟩ := by
    rcases List.mem_cons.mp h with rfl | h
    · exact ⟨_, List.mem_cons_self, by rw [hsender]⟩
    · obtain ⟨told, htold, rfl⟩ := List.mem_map.mp h
      exact ⟨_, List.mem_cons_of_mem _ (List.mem_map_of_mem htold), by rw [hsender]⟩
  obtain ⟨r, hr, hid⟩ := hreport
  rw [processDiscoveryMessage_eq hfound, ← hid]
  exact freshAt_reports hr m adapter info.receptionTime

theorem RouteManager.FreshAt.update (h : m.FreshAt guid routeId t) (currentTime : TimePoint) :
    (m.update currentTime).2.FreshAt guid routeId t := by
  obtain ⟨route, hroute, hlast⟩ := h
  refine ⟨(updateRoute currentTime route).2, ?_, ?_⟩
  · rw [find_update, hroute]
    rfl
  · rw [updateRoute_eq]
    exact hlast

end

-- ---------------------------------------------------------------------------
-- Relays
-- ---------------------------------------------------------------------------

/-- The clients a node has or starts on the address are of adapters that have
another guid than the inbound one. -/
structure Relays (inbound : Adapter) (source : Address) (node : ClusterNode) : Prop where
  keyed : node.adapterManager.KeyedByMac
  elsewhere : ∀ client ∈ node.networkHandler.openClients, client.info.adapter = source →
    ∀ adapter ∈ node.adapterManager.adapters[client.adapterIdentifier]?,
      adapter.guid ≠ inbound.guid

theorem Relays.of_openClients {node node' : ClusterNode} {inbound : Adapter} {source : Address}
    (h : Relays inbound source node) (hmanager : node'.adapterManager = node.adapterManager)
    (hclients : ∀ client ∈ node'.networkHandler.openClients,
      client ∈ node.networkHandler.openClients) : Relays inbound source node' where
  keyed := hmanager ▸ h.keyed
  elsewhere client hclient hsource adapter hadapter :=
    h.elsewhere client (hclients client hclient) hsource adapter (hmanager ▸ hadapter)

/-- A relay tells, from its address, of what it holds under the guid of the
inbound adapter. -/
theorem Relays.tells {s : Cluster ι} {i : ι} {time : TimePoint} {tx : Transmission ι}
    {inbound : Adapter} {source : Address} {routeId : RouteIdentifier} {route : Route}
    (h : Relays inbound source (s.nodes i))
    (htx : .sent tx ∈ (s.nodes i).multicasts.map fun entry =>
      Entry.sent ⟨i, entry.1, time, entry.2⟩) (hsource : tx.sender = source)
    (hroute : (s.routes i).find inbound.guid routeId = some route)
    (honline : route.status.online = true) : tx.Tells routeId.node := by
  obtain ⟨⟨sender, message⟩, hentry, heq⟩ := List.mem_map.mp htx
  cases heq
  obtain ⟨⟨adapter, message'⟩, hmem, hclient⟩ := List.mem_filterMap.mp hentry
  obtain ⟨through, hthrough, heq⟩ := Option.map_eq_some_iff.mp hclient
  cases heq
  obtain ⟨other, -, hother⟩ := List.mem_filterMap.mp hmem
  split at hother
  · contradiction
  · rename_i found hfound
    cases hother
    obtain ⟨hfind, -⟩ := Option.filter_eq_some_iff.mp hthrough
    have hid : through.adapterIdentifier = adapter.macAddress := by
      simpa using List.find?_some hfind
    have hknown := AdapterManager.findAdapter_eq_ok.mp hfound
    have hknown' : (s.nodes i).adapterManager.adapters[through.adapterIdentifier]? =
        some adapter := by
      rw [hid, h.keyed _ adapter hknown]
      exact hknown
    have hopen : through ∈ (s.nodes i).networkHandler.openClients :=
      List.mem_append_left _ (List.mem_of_find?_eq_some hfind)
    have hne := h.elsewhere through hopen hsource adapter hknown'
    obtain ⟨told, htold, hsame⟩ :=
      exists_findRoutesForAdapter ⟨inbound.guid, hne.symm, holds_of_find hroute, honline⟩
    rw [← identifier_of_find hroute, ← hsame]
    have hnode := List.mem_map_of_mem (f := TransmissionHandler.indirectNode) htold
    exact List.mem_cons_of_mem _ (List.mem_map.mpr ⟨_, hnode, rfl⟩)

-- ---------------------------------------------------------------------------
-- What the nodes on the way hold
-- ---------------------------------------------------------------------------

/-- Whatever was received was sent before. -/
def Placed (s : Cluster ι) : Prop :=
  ∀ (r : Nat) n c time p, s.history[r]? = some (.received n c time p) → p < r

/-- The way starts at the node, and who is told of it on one hop tells of it
on the next. -/
structure Hop.Joins (ids : ι → NodeId) (node : NodeIdentifier) (hop : Hop ι) (way : List (Hop ι))
    (s : Cluster ι) : Prop where
  found : (s.nodes hop.receiver).adapterManager.findAdapterByAddress hop.adapter =
    .ok hop.inbound
  starts : way = [] → node = ⟨ids hop.sender, hop.source⟩
  passes : ∀ prev ∈ way.head?, hop.sender = prev.receiver ∧
    Relays prev.inbound hop.source (s.nodes hop.sender)

/-- The receiver knows of the node since it was told last. -/
def Hop.Kept (node : NodeIdentifier) (hop : Hop ι) (s : Cluster ι) : Prop :=
  ∀ p tx time, s.history[p]? = some (.sent tx) → hop.Sends tx → tx.Tells node →
    .received hop.receiver hop.adapter time p ∈ s.history →
    tx.time ≤ time ∧ (s.routes hop.receiver).FreshAt hop.inbound.guid (hop.routeId node) time

structure OnWay (ids : ι → NodeId) (node : NodeIdentifier) (hop : Hop ι) (way : List (Hop ι))
    (s : Cluster ι) : Prop where
  joins : hop.Joins ids node way s
  kept : hop.Kept node s
  told : ∀ q tx, s.history[q]? = some (.sent tx) → hop.Sends tx → Gone s.history way q →
    tx.Tells node

theorem OnWay.fresh_of_heard {ids : ι → NodeId} {node : NodeIdentifier} {hop : Hop ι}
    {way : List (Hop ι)} {s : Cluster ι} (h : OnWay ids node hop way s) {p : Nat}
    {tx : Transmission ι} (hsent : s.history[p]? = some (.sent tx)) (hsends : hop.Sends tx)
    (hgone : Gone s.history way p) {t : TimePoint}
    (hheard : .received hop.receiver hop.adapter t p ∈ s.history) :
    tx.time ≤ t ∧ (s.routes hop.receiver).FreshAt hop.inbound.guid (hop.routeId node) t := by
  have htells := h.told p tx hsent hsends hgone
  exact h.kept p tx t hsent hsends htells hheard

section
variable [DecidableEq ι] {ids : ι → NodeId} {node : NodeIdentifier} {hop : Hop ι}
  {way : List (Hop ι)} {s : Cluster ι} {i : ι} {changed : ClusterNode} {entries : List (Entry ι)}

theorem Placed.set (h : Placed s)
    (hentries : ∀ n c time p, .received n c time p ∈ entries → p < s.history.length) :
    Placed (s.set i changed entries) := by
  intro r n c time p hreceived
  rw [Cluster.history_set] at hreceived
  rcases Nat.lt_or_ge r s.history.length with hr | hr
  · rw [List.getElem?_append_left hr] at hreceived
    exact h r n c time p hreceived
  · rw [List.getElem?_append_right hr] at hreceived
    exact Nat.lt_of_lt_of_le (hentries n c time p (List.mem_of_getElem? hreceived)) hr

theorem Hop.Joins.set (h : hop.Joins ids node way s)
    (hmanager : changed.adapterManager = (s.nodes i).adapterManager)
    (hclients : ∀ client ∈ changed.networkHandler.openClients,
      client ∈ (s.nodes i).networkHandler.openClients) :
    hop.Joins ids node way (s.set i changed entries) := by
  constructor
  case found =>
    have hmanagers : ∀ j, ((s.set i changed entries).nodes j).adapterManager =
        (s.nodes j).adapterManager :=
      Cluster.forall_set
        (P := fun j node => node.adapterManager = (s.nodes j).adapterManager) hmanager
        fun _ _ => rfl
    rw [hmanagers, h.found]
  case starts => exact h.starts
  case passes =>
    intro prev hprev
    obtain ⟨hjoined, hrelays⟩ := h.passes prev hprev
    refine ⟨hjoined, ?_⟩
    by_cases hsender : hop.sender = i
    · subst hsender
      rw [Cluster.nodes_set_self]
      exact hrelays.of_openClients hmanager hclients
    · rw [Cluster.nodes_set_of_ne hsender]
      exact hrelays

theorem freshAt_set {guid : AdapterGuid} {routeId : RouteIdentifier} {t : TimePoint}
    (hroutes : (s.routes i).FreshAt guid routeId t → changed.routeManager.FreshAt guid routeId t)
    {j : ι} (h : (s.routes j).FreshAt guid routeId t) :
    ((s.set i changed entries).routes j).FreshAt guid routeId t := by
  rw [Cluster.routes_set]
  by_cases hj : j = i
  · subst hj
    rw [Function.update_self]
    exact hroutes h
  · rw [Function.update_of_ne hj]
    exact h

/-- Nothing is received, no route gets older, and what is sent tells of the
node if messages went over the way. -/
theorem OnWay.set (h : OnWay ids node hop way s) (hplaced : Placed s)
    (hmanager : changed.adapterManager = (s.nodes i).adapterManager)
    (hclients : ∀ client ∈ changed.networkHandler.openClients,
      client ∈ (s.nodes i).networkHandler.openClients)
    (hroutes : ∀ guid routeId t, (s.routes i).FreshAt guid routeId t →
      changed.routeManager.FreshAt guid routeId t)
    (hquiet : ∀ n c time p, .received n c time p ∉ entries)
    (htold : ∀ tx, .sent tx ∈ entries → hop.Sends tx → Gone s.history way s.history.length →
      tx.Tells node) : OnWay ids node hop way (s.set i changed entries) := by
  constructor
  case joins => exact h.joins.set hmanager hclients
  case kept =>
    intro p tx time hsent hsends htells hreceived
    have hold := (List.mem_append.mp hreceived).resolve_right (hquiet _ _ _ _)
    obtain ⟨r, hr⟩ := List.getElem?_of_mem hold
    have hp := Nat.lt_trans (hplaced _ _ _ _ _ hr) (List.getElem?_eq_some_iff.mp hr).1
    rw [Cluster.history_set, List.getElem?_append_left hp] at hsent
    obtain ⟨htime, hfresh⟩ := h.kept p tx time hsent hsends htells hold
    exact ⟨htime, freshAt_set (hroutes _ _ _) hfresh⟩
  case told =>
    intro q tx hsent hsends hgone
    rw [Cluster.history_set] at hsent hgone
    rcases Nat.lt_or_ge q s.history.length with hq | hq
    · rw [List.getElem?_append_left hq] at hsent
      exact h.told q tx hsent hsends (hgone.of_append (Nat.le_of_lt hq))
    · rw [List.getElem?_append_right hq] at hsent
      exact htold tx (List.mem_of_getElem? hsent) hsends (hgone.before_quiet hquiet)

theorem OnWay.receive (h : OnWay ids node hop way s) {time : TimePoint}
    (hclock : ∀ e ∈ s.history, e.time ≤ time) (i : ι) (delivery : Delivery) :
    OnWay ids node hop way (s.receive i time delivery) := by
  rw [Cluster.receive]
  cases hdelivered : s.delivered? i delivery with
  | none => exact h
  | some tx =>
    have hsent := Cluster.sent_of_delivered hdelivered
    have hold : ∀ p tx', (s.history ++
        [.received i delivery.adapter time delivery.position])[p]? = some (.sent tx') →
        p < s.history.length ∧ s.history[p]? = some (.sent tx') := by
      intro p tx' hsent'
      rcases Nat.lt_or_ge p s.history.length with hp | hp
      · rw [List.getElem?_append_left hp] at hsent'
        exact ⟨hp, hsent'⟩
      · rw [List.getElem?_append_right hp] at hsent'
        cases List.mem_singleton.mp (List.mem_of_getElem? hsent')
    constructor
    case joins => exact h.joins.set rfl fun _ hclient => hclient
    case kept =>
      intro p tx' time' hsentAfter hsends htells hreceived
      obtain ⟨-, hsent'⟩ := hold p tx' hsentAfter
      rcases List.mem_append.mp hreceived with hreceived | hreceived
      · obtain ⟨htime, hfresh⟩ := h.kept p tx' time' hsent' hsends htells hreceived
        have hpast : time' ≤ time := hclock _ hreceived
        exact ⟨htime, freshAt_set (fun hfresh => hfresh.processDiscoveryMessage hpast _ _) hfresh⟩
      · obtain ⟨hreceiver, hadapter, rfl, rfl⟩ :=
          Entry.received.inj (List.mem_singleton.mp hreceived)
        rw [hsent] at hsent'
        cases hsent'
        refine ⟨hclock _ (List.mem_of_getElem? hsent), ?_⟩
        rw [Cluster.routes_set, ← hreceiver, Function.update_self, Hop.routeId, ← hsends.2,
          hadapter]
        refine freshAt_of_tells htells (s.networkInfo hop.receiver time' delivery tx) ?_ rfl _
        rw [← h.joins.found, hadapter]
        rfl
    case told =>
      intro q tx' hsentAfter hsends hgone
      obtain ⟨hq, hsent'⟩ := hold q tx' hsentAfter
      exact h.told q tx' hsent' hsends (hgone.of_append (Nat.le_of_lt hq))

end

-- ---------------------------------------------------------------------------
-- Runs
-- ---------------------------------------------------------------------------

structure Spreads (ids : ι → NodeId) (node : NodeIdentifier) (path : List (Hop ι))
    (s : Cluster ι) : Prop where
  sound : Sound ids s
  placed : Placed s
  onWay : ∀ hop way, hop :: way <:+ path → OnWay ids node hop way s

/-- The receiver holds the route to the node that goes through the sender,
and takes it for online. -/
def Hop.Knows (hop : Hop ι) (node : NodeIdentifier) (s : Cluster ι) : Prop :=
  ∃ route, (s.routes hop.receiver).find hop.inbound.guid (hop.routeId node) = some route ∧
    route.status.online = true

namespace Spreads

variable {ids : ι → NodeId} {node : NodeIdentifier} {path : List (Hop ι)} {s : Cluster ι} {i : ι}
  {time : TimePoint}

theorem initial (hs : s.Initial)
    (hjoins : ∀ hop way, hop :: way <:+ path → hop.Joins (fun i => (s.nodes i).nodeId) node way s) :
    Spreads (fun i => (s.nodes i).nodeId) node path s where
  sound := Sound.initial hs
  placed r _ _ _ _ h := absurd h (hs.getElem?_history_ne r _)
  onWay hop way hpath := {
    joins := hjoins hop way hpath
    kept := fun p _ _ hsent => absurd hsent (hs.getElem?_history_ne p _)
    told := fun q _ hsent => absurd hsent (hs.getElem?_history_ne q _) }

variable [DecidableEq ι]

theorem complete (h : Spreads ids node path s) (i : ι) (k : Nat)
    (attempts : NetworkHandler.Attempts) : Spreads ids node path (s.complete i k attempts) where
  sound := h.sound.complete i k attempts
  placed := h.placed.set (by simp)
  onWay hop way hpath := (h.onWay hop way hpath).set h.placed rfl
    (fun _ hclient => NetworkHandler.openClients_complete hclient) (fun _ _ _ hfresh => hfresh)
    (by simp) (by simp)

theorem collect (h : Spreads ids node path s) (i : ι) (time : TimePoint) :
    Spreads ids node path (s.collect i time) where
  sound := h.sound.collect i time
  placed := h.placed.set (by simp)
  onWay hop way hpath := (h.onWay hop way hpath).set h.placed rfl
    (fun _ hclient => (NetworkHandler.openClients_collectClients _).mem_iff.mp hclient)
    (fun _ _ _ hfresh => hfresh) (by simp) (by simp)

theorem receive (h : Spreads ids node path s) (hclock : ∀ e ∈ s.history, e.time ≤ time) (i : ι)
    (delivery : Delivery) : Spreads ids node path (s.receive i time delivery) where
  sound := h.sound.receive i time delivery
  placed := by
    rw [Cluster.receive]
    cases hdelivered : s.delivered? i delivery with
    | none => exact h.placed
    | some tx =>
      have hsent := Cluster.sent_of_delivered hdelivered
      refine h.placed.set fun n c t p hp => ?_
      obtain ⟨-, -, -, rfl⟩ := Entry.received.inj (List.mem_singleton.mp hp)
      exact (List.getElem?_eq_some_iff.mp hsent).1
  onWay hop way hpath := (h.onWay hop way hpath).receive hclock i delivery

theorem updateRoutes (h : Spreads ids node path s) (i : ι) (time : TimePoint) :
    Spreads ids node path (s.updateRoutes i time) where
  sound := h.sound.updateRoutes i time
  placed := h.placed.set (by simp)
  onWay hop way hpath := (h.onWay hop way hpath).set h.placed rfl (fun _ hclient => hclient)
    (fun _ _ _ hfresh => hfresh.update time) (by simp) (by simp)

/-- A node that knows of the node, once messages went over the way to it,
tells of it. -/
theorem transmit (h : Spreads ids node path s) (time : TimePoint)
    (hknows : ∀ hop way, hop :: way <:+ path → hop.receiver = i →
      Gone s.history (hop :: way) s.history.length → hop.Knows node s) :
    Spreads ids node path (s.transmit i time) where
  sound := h.sound.transmit i time
  placed := by
    refine h.placed.set fun n c t p hp => ?_
    obtain ⟨tx, heq, -⟩ := Cluster.sent_of_mem hp
    contradiction
  onWay hop way hpath := by
    have hway := h.onWay hop way hpath
    refine hway.set h.placed rfl (fun _ hclient => hclient) (fun _ _ _ hfresh => hfresh) ?_ ?_
    · intro n c t p hp
      obtain ⟨tx, heq, -⟩ := Cluster.sent_of_mem hp
      contradiction
    · intro tx htx hsends hgone
      obtain ⟨client, -, guid, heq⟩ := Cluster.transmission_of_mem htx
      have hsender : hop.sender = i := by rw [← hsends.1, heq]
      cases way with
      | nil =>
        have hid : tx.message.identifier = ids hop.sender := by
          rw [heq, hsender, ← h.sound.nodeId i]
          rfl
        rw [hway.joins.starts rfl, Transmission.Tells, hid, hsends.2]
        exact List.mem_cons_self
      | cons prev way =>
        obtain ⟨hjoined, hrelays⟩ := hway.joins.passes prev rfl
        have hreceiver : prev.receiver = i := hjoined.symm.trans hsender
        obtain ⟨route, hroute, honline⟩ :=
          hknows prev way ((List.suffix_cons hop _).trans hpath) hreceiver hgone
        rw [hreceiver] at hroute
        split_ifs at htx
        · exact (hsender ▸ hrelays).tells htx hsends.2 hroute honline
        · contradiction

theorem beforeUpdate (h : Spreads ids node path s) (hclock : ∀ e ∈ s.history, e.time ≤ time)
    (i : ι) (deliveries : List Delivery) :
    Spreads ids node path (s.beforeUpdate i time deliveries) := by
  have hstart : Spreads ids node path (s.collect i time) ∧
      Cluster.Gathered s i time (s.collect i time) :=
    ⟨h.collect i time, Cluster.gathered_collect s i time⟩
  refine (List.foldlRecOn (motive := fun s' : Cluster ι =>
    Spreads ids node path s' ∧ Cluster.Gathered s i time s') deliveries
    (Cluster.receive i time) hstart fun s' hs' delivery _ => ?_).1
  exact ⟨hs'.1.receive (hs'.2.past hclock) i delivery, hs'.2.receive delivery⟩

end Spreads

-- ---------------------------------------------------------------------------
-- Beats from some place on
-- ---------------------------------------------------------------------------

section
variable [DecidableEq ι] {i j : ι} {a b : Address} {history : List (Entry ι)}

theorem beats_split (i : ι) (a : Address) {c : Nat} (hc : c ≤ history.length) :
    ∃ early late, beats i a history = early ++ late ∧
      (∀ x ∈ early, x ∈ beats i a (history.take c)) ∧ ∀ x ∈ late, c ≤ x.position := by
  have hsplit := beats_append i a (history.take c) (history.drop c)
  rw [List.take_append_drop] at hsplit
  refine ⟨_, _, hsplit, fun x hx => hx, fun x hx => ?_⟩
  obtain ⟨⟨e, position⟩, hmem, hbeat⟩ := List.mem_filterMap.mp hx
  have hplace := List.le_snd_of_mem_zipIdx hmem
  rw [List.length_take_of_le hc] at hplace
  cases e with
  | polled _ _ => contradiction
  | received _ _ _ _ => contradiction
  | sent tx =>
    rw [beat?] at hbeat
    split_ifs at hbeat
    cases hbeat
    exact hplace

theorem place_of_mem_beats_take {c : Nat} {x : Beat} (h : x ∈ beats i a (history.take c)) :
    x.position < c := by
  obtain ⟨tx, hentry, -⟩ := mem_beats.mp h
  exact Nat.lt_of_lt_of_le (List.getElem?_eq_some_iff.mp hentry).1 (List.length_take_le c history)

end

-- ---------------------------------------------------------------------------
-- Few losses on each hop
-- ---------------------------------------------------------------------------

/-- What a hop promises for the time: few losses, and a sender that polled
lately. -/
structure Hop.Watched [DecidableEq ι] (k : Nat) (g d : Int) (hop : Hop ι) (s : Cluster ι)
    (t : TimePoint) : Prop where
  losses : FewLosses Beat.time (HeardInTime d hop.receiver hop.adapter s.history) k d t
    (beats hop.sender hop.source s.history)
  polled : (∃ x ∈ beats hop.sender hop.source s.history, x.time < t) →
    ∃ t', .polled hop.sender t' ∈ s.history ∧ t ≤ t' + g

section
variable [DecidableEq ι] {ids : ι → NodeId} {node : NodeIdentifier} {path way : List (Hop ι)}
  {hop : Hop ι} {s : Cluster ι} {i : ι} {time t : TimePoint} {k : Nat} {g d : Int}

theorem Hop.Watched.last (h : hop.Watched k g d s t) (hbeating : Beating g hop.sender hop.source s)
    (hg : 0 ≤ g) :
    ∀ x ∈ (beats hop.sender hop.source s.history).getLast?, t ≤ x.time + (seconds 20 + g) := by
  intro x hx
  rcases lt_or_ge x.time t with hearlier | hlater
  · obtain ⟨t', ht', hlate⟩ := h.polled ⟨x, List.mem_of_getLast? hx, hearlier⟩
    have hpolled := (hbeating.last x hx).polled t' ht'
    linarith
  · linarith [twentySeconds_nonneg]

theorem Hop.watched_now {deliveries : List Delivery} (hbeating : Beating g hop.sender hop.source s)
    (hreceiver : hop.receiver = i)
    (hpolls : s.PollsEvery g hop.sender hop.receiver (.poll i time deliveries))
    (hloses : s.LosesFew k d hop.sender hop.source hop.receiver hop.adapter
      (.poll i time deliveries)) : hop.Watched k g d s time where
  losses := hloses hreceiver.symm
  polled := by
    rintro ⟨x, hx, -⟩
    obtain ⟨last, hlast⟩ : ∃ last, (beats hop.sender hop.source s.history).getLast? = some last :=
      Option.isSome_iff_exists.mp (List.getLast?_isSome.mpr (List.ne_nil_of_mem hx))
    exact hpolls (.inr hreceiver.symm) (hbeating.last last hlast).started

/-- Where a message went over the hop, one that was sent there or later was
heard lately. -/
theorem exists_heard_since (hbeating : Beating g hop.sender hop.source s)
    (hwatched : hop.Watched k g d s time) (hg : 0 ≤ g) (hd : 0 ≤ d) {p r : Nat}
    (hcarries : hop.Carries s.history p r) :
    ∃ q tx t, p ≤ q ∧ s.history[q]? = some (.sent tx) ∧ hop.Sends tx ∧
      .received hop.receiver hop.adapter t q ∈ s.history ∧
      time ≤ tx.time + d + (k + 1 : Nat) * (seconds 20 + g) := by
  obtain ⟨-, ⟨tx, hsent, hsends⟩, t, hreceived⟩ := hcarries
  have hplace := (List.getElem?_eq_some_iff.mp hsent).1
  obtain ⟨early, late, hsplit, hearly, hlate⟩ :=
    beats_split hop.sender hop.source (Nat.le_of_lt hplace)
  -- the beat that went over the hop is one of those from its place on
  have hbeat : (⟨p, tx.time⟩ : Beat) ∈ late := by
    have hmem : (⟨p, tx.time⟩ : Beat) ∈ early ++ late :=
      hsplit ▸ mem_beats.mpr ⟨tx, hsent, hsends.1, hsends.2, rfl⟩
    refine (List.mem_append.mp hmem).resolve_left fun hold => ?_
    exact absurd (place_of_mem_beats_take (hearly _ hold)) (Nat.lt_irrefl p)
  have hlosses := hwatched.losses.mono fun _ ⟨time', hheard, _⟩ =>
    (⟨time', hheard⟩ : HeardBeat hop.receiver hop.adapter s.history _)
  have hspaced := hbeating.spaced
  have hlast := hwatched.last hbeating hg
  rw [hsplit] at hlosses hspaced hlast
  obtain ⟨y, hy, ⟨t', hheard⟩, hage⟩ := exists_late_heard_lately hspaced
    (Int.add_nonneg twentySeconds_nonneg hg) hd hlast hlosses
    ⟨_, hbeat, t, List.mem_of_getElem? hreceived⟩
  obtain ⟨tx', hsent', hnode, hsource, htime⟩ :=
    mem_beats.mp (hsplit ▸ List.mem_append_right early hy)
  exact ⟨y.position, tx', t', hlate y hy, hsent', ⟨hnode, hsource⟩, hheard, htime ▸ hage⟩

/-- The receiver was told lately, if messages ever went over the way. -/
theorem fresh_of_gone {deliveries : List Delivery}
    (h : Spreads ids node path (s.beforeUpdate i time deliveries)) (hpath : hop :: way <:+ path)
    (hbeating : Beating g hop.sender hop.source s) (hwatched : hop.Watched k g d s time)
    (hg : 0 ≤ g) (hd : 0 ≤ d) (hbound : (k + 1) * (seconds 20 + g) + d < seconds 90)
    (hgone : Gone (s.beforeUpdate i time deliveries).history (hop :: way)
      (s.beforeUpdate i time deliveries).history.length) :
    ∃ t, time < t + seconds 90 ∧
      ((s.beforeUpdate i time deliveries).routes hop.receiver).FreshAt hop.inbound.guid
        (hop.routeId node) t := by
  have hway := h.onWay hop way hpath
  obtain ⟨received, hhistory, hreceived⟩ :=
    (Cluster.gathered_beforeUpdate s i time deliveries).history
  obtain ⟨p, r, hgone, hcarries, -⟩ := hgone
  rcases Nat.lt_or_ge r s.history.length with hr | hr
  · have hgrown : s.history <+: (s.beforeUpdate i time deliveries).history :=
      ⟨_, hhistory.symm⟩
    rw [hhistory] at hcarries
    obtain ⟨q, tx, t, hq, hsent, hsends, hheard, hage⟩ :=
      exists_heard_since hbeating hwatched hg hd (hcarries.of_append hr)
    obtain ⟨hpast, hfresh⟩ := hway.fresh_of_heard (getElem?_of_isPrefix hgrown hsent) hsends
      (hgone.later hq) (hgrown.subset hheard)
    refine ⟨t, ?_, hfresh⟩
    push_cast at hage
    linarith
  · -- what is received in this very poll is not old
    obtain ⟨-, ⟨tx, hsent, hsends⟩, t, ht⟩ := hcarries
    obtain ⟨-, hfresh⟩ := hway.fresh_of_heard hsent hsends hgone (List.mem_of_getElem? ht)
    rw [hhistory, List.getElem?_append_right hr] at ht
    have hnow : t = time := by
      rcases List.mem_cons.mp (List.mem_of_getElem? ht) with heq | hmem
      · contradiction
      · obtain ⟨c, q, heq⟩ := hreceived _ hmem
        cases heq
        rfl
    refine ⟨t, ?_, hfresh⟩
    have hpositive : 0 < seconds 90 := by decide
    linarith

theorem knows_of_gone {deliveries : List Delivery}
    (h : Spreads ids node path (s.beforeUpdate i time deliveries)) (hpath : hop :: way <:+ path)
    (hreceiver : hop.receiver = i) (hbeating : Beating g hop.sender hop.source s)
    (hwatched : hop.Watched k g d s time) (hg : 0 ≤ g) (hd : 0 ≤ d)
    (hbound : (k + 1) * (seconds 20 + g) + d < seconds 90)
    (hgone : Gone (s.beforeUpdate i time deliveries).history (hop :: way)
      (s.beforeUpdate i time deliveries).history.length) :
    hop.Knows node (s.afterUpdate i time deliveries) := by
  obtain ⟨t, hlately, route, hroute, hlast⟩ :=
    fresh_of_gone h hpath hbeating hwatched hg hd hbound hgone
  have honline : isRouteOnline route time = true := by
    have hlimit : time - routeTimeout < route.lastDiscovery := by
      rw [routeTimeout]
      linarith
    rw [isRouteOnline]
    split_ifs
    · rfl
    · simp [hlimit]
  subst hreceiver
  refine ⟨(updateRoute time route).2, ?_, ?_⟩
  · rw [Cluster.afterUpdate, Cluster.updateRoutes, Cluster.routes_set, Function.update_self]
    have hfind := find_update time ((s.beforeUpdate hop.receiver time deliveries).routes
      hop.receiver) hop.inbound.guid (hop.routeId node)
    rw [hroute] at hfind
    exact hfind
  · rw [updateRoute_eq]
    exact honline

end

end Discnet
