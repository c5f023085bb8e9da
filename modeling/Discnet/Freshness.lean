import Discnet.Provenance
import Mathlib.Tactic.Linarith

/-!
# Freshness of routes

A route stays online for 90 seconds after it was last reported, and the
report may come from a node that lives on an old report itself. If every
report that refreshes a route comes with no more jumps than the route has,
each jump adds at most one such stretch to the age of the news.
-/

namespace Discnet

open Lib Network Network.Messages RouteManager

variable {ι : Type}

namespace Cluster

def Prompt (d : Int) (s : Cluster ι) (i : ι) (time : TimePoint) (delivery : Delivery) : Prop :=
  ∀ tx ∈ s.delivered? i delivery, time ≤ tx.time + d

/-- No report of a message refreshes a route that has fewer jumps than are
reported. -/
def ReportsNoLonger (s : Cluster ι) (i : ι) (time : TimePoint) (delivery : Delivery) : Prop :=
  ∀ tx ∈ s.delivered? i delivery,
    ∀ adapter ∈ ((s.nodes i).adapterManager.findAdapterByAddress delivery.adapter).toOption,
      Throughout (report adapter time) (fun m r => ∀ existing ∈ m.find adapter.guid r.routeId,
        r.jumps.length ≤ existing.status.jumps.length) (s.nodes i).routeManager
        (reports tx.message (s.networkInfo i time delivery tx))

instance (d : Int) (s : Cluster ι) (i : ι) (time : TimePoint) (delivery : Delivery) :
    Decidable (s.Prompt d i time delivery) :=
  inferInstanceAs (Decidable (∀ tx ∈ s.delivered? i delivery, time ≤ tx.time + d))

instance (s : Cluster ι) (i : ι) (time : TimePoint) (delivery : Delivery) :
    Decidable (s.ReportsNoLonger i time delivery) := by
  unfold ReportsNoLonger
  infer_instance

end Cluster

def Action.InRange : Action ι → Prop
  | .complete _ _ _ => True
  | .poll _ time _ => time.InRange

/-- The node sent a message from its address, and since then no more time
than `age` has passed. -/
def AnnouncedWithin (ids : ι → NodeId) (history : List (Entry ι)) (node : NodeIdentifier)
    (age : Int) (time : TimePoint) : Prop :=
  ∃ tx, .sent tx ∈ history ∧ ids tx.node = node.id ∧ tx.sender = node.address ∧
    time ≤ tx.time + age

/-- How old the news of a node may be when a node with that many jumps to it
tells of it. -/
def ageOf (d : Int) (jumps : Jumps) : Int := jumps.length * (d + routeTimeout)

structure RecentRoute (d : Int) (ids : ι → NodeId) (history : List (Entry ι)) (route : Route) :
    Prop where
  discovered : route.Discovered
  announced : AnnouncedWithin ids history route.identifier.node
    (ageOf d route.status.jumps - routeTimeout) route.lastDiscovery

/-- All news in tables and messages is as recent as the jumps allow. -/
structure Recent (d : Int) (ids : ι → NodeId) (s : Cluster ι) : Prop where
  sound : Sound ids s
  tables : ∀ i, (s.routes i).AllRoutes fun _ route => RecentRoute d ids s.history route
  messages : ∀ (q : Nat) (tx : Transmission ι), s.history[q]? = some (.sent tx) →
    ∀ node ∈ tx.message.nodes,
      AnnouncedWithin ids s.history ⟨node.identifier, node.address⟩ (ageOf d node.jumps) tx.time

/-- Routes that are online were reported within the last 90 seconds. -/
def UpToDate (time : TimePoint) (m : RouteManager) : Prop :=
  m.AllRoutes fun _ route => route.status.online = true → time - routeTimeout < route.lastDiscovery

section
variable {d : Int} {ids : ι → NodeId} {history history' : List (Entry ι)} {node : NodeIdentifier}

theorem AnnouncedWithin.mono (h : history <+: history')
    (hnode : AnnouncedWithin ids history node age time) :
    AnnouncedWithin ids history' node age time := by
  obtain ⟨tx, hsent, hid, haddress, hage⟩ := hnode
  exact ⟨tx, h.mem hsent, hid, haddress, hage⟩

theorem AnnouncedWithin.older (hnode : AnnouncedWithin ids history node age time)
    (h : time' - age' ≤ time - age) : AnnouncedWithin ids history node age' time' := by
  obtain ⟨tx, hsent, hid, haddress, hage⟩ := hnode
  exact ⟨tx, hsent, hid, haddress, by linarith⟩

theorem ageOf_append (d : Int) (jumps jumps' : Jumps) :
    ageOf d (jumps ++ jumps') = ageOf d jumps + ageOf d jumps' := by
  rw [ageOf, ageOf, ageOf, List.length_append, Nat.cast_add, Int.add_mul]

theorem ageOf_le (hd : 0 ≤ d) {jumps jumps' : Jumps} (h : jumps.length ≤ jumps'.length) :
    ageOf d jumps ≤ ageOf d jumps' := by
  have hstretch : 0 ≤ d + routeTimeout := Int.add_nonneg hd (by decide)
  exact Int.mul_le_mul_of_nonneg_right (Int.ofNat_le.mpr h) hstretch

theorem RecentRoute.mono (h : history <+: history') (hroute : RecentRoute d ids history route) :
    RecentRoute d ids history' route := ⟨hroute.discovered, hroute.announced.mono h⟩

theorem upToDate_update {m : RouteManager} {time : TimePoint}
    (hm : m.AllRoutes fun _ route => route.Discovered) (htime : time.InRange) :
    UpToDate time (m.update time).2 := by
  refine AllRoutes.update hm fun _ route hroute honline => ?_
  rw [updateRoute_eq] at honline ⊢
  exact (hroute.isRouteOnline_iff htime).mp honline

/-- What a node reports about the nodes a message tells of is as recent as
the jumps it adds. -/
theorem announced_of_reports {tx : Transmission ι} {info : NetworkInfo}
    (hsent : .sent tx ∈ history) (hid : tx.message.identifier = ids tx.node)
    (hnodes : ∀ node ∈ tx.message.nodes,
      AnnouncedWithin ids history ⟨node.identifier, node.address⟩ (ageOf d node.jumps) tx.time)
    (hsender : info.sender = tx.sender) (hprompt : info.receptionTime ≤ tx.time + d) :
    ∀ r ∈ reports tx.message info, AnnouncedWithin ids history r.routeId.node
      (ageOf d r.jumps - routeTimeout) info.receptionTime := by
  have hdirect : ageOf d directJumps = d + routeTimeout := by simp [ageOf, directJumps]
  intro r hr
  rcases List.mem_cons.mp hr with rfl | hr
  · exact ⟨tx, hsent, hid.symm, hsender.symm, by linarith⟩
  · obtain ⟨node, hnode, rfl⟩ := List.mem_map.mp hr
    refine (hnodes node hnode).older ?_
    rw [ageOf_append]
    linarith

namespace Recent

variable {s : Cluster ι} {i : ι}

theorem initial (d : Int) (hs : s.Initial) : Recent d (fun i => (s.nodes i).nodeId) s where
  sound := Sound.initial hs
  tables i := hs.allRoutes i
  messages q _ hsent := absurd hsent (hs.getElem?_history_ne q _)

theorem table_append (hs : Recent d ids s) (i : ι) (entries : List (Entry ι)) :
    (s.routes i).AllRoutes fun _ route => RecentRoute d ids (s.history ++ entries) route :=
  (hs.tables i).mono fun _ _ hroute => hroute.mono (List.prefix_append ..)

variable [DecidableEq ι]

theorem set (hs : Recent d ids s) {node : ClusterNode} {entries : List (Entry ι)}
    (hsound : Sound ids (s.set i node entries))
    (htable : node.routeManager.AllRoutes fun _ route =>
      RecentRoute d ids (s.history ++ entries) route)
    (hmessages : ∀ tx, .sent tx ∈ entries → ∀ node ∈ tx.message.nodes,
      AnnouncedWithin ids s.history ⟨node.identifier, node.address⟩ (ageOf d node.jumps) tx.time) :
    Recent d ids (s.set i node entries) := by
  have hgrows : s.history <+: s.history ++ entries := List.prefix_append ..
  constructor
  case sound => exact hsound
  case tables =>
    exact Cluster.forall_set
      (P := fun _ node => node.routeManager.AllRoutes fun _ route =>
        RecentRoute d ids (s.history ++ entries) route)
      htable fun j _ => (hs.tables j).mono fun _ _ hroute => hroute.mono hgrows
  case messages =>
    intro q tx hsent node hnode
    rcases sent_append hsent with hsent | ⟨-, htx⟩
    · exact (hs.messages q tx hsent node hnode).mono hgrows
    · exact (hmessages tx htx node hnode).mono hgrows

theorem complete (hs : Recent d ids s) (i : ι) (k : Nat) (attempts : NetworkHandler.Attempts) :
    Recent d ids (s.complete i k attempts) :=
  hs.set (hs.sound.complete i k attempts) (hs.table_append i _) (by simp)

theorem collect (hs : Recent d ids s) (i : ι) (time : TimePoint) :
    Recent d ids (s.collect i time) :=
  hs.set (hs.sound.collect i time) (hs.table_append i _) (by simp)

theorem receive (hs : Recent d ids s) (hd : 0 ≤ d) {delivery : Delivery}
    (hprompt : s.Prompt d i time delivery) (hlength : s.ReportsNoLonger i time delivery) :
    Recent d ids (s.receive i time delivery) := by
  have hsound := hs.sound.receive i time delivery
  rw [Cluster.receive] at hsound ⊢
  cases hdelivered : s.delivered? i delivery with
  | none => exact hs
  | some tx =>
    rw [hdelivered] at hsound
    have hsent := Cluster.sent_of_delivered hdelivered
    refine hs.set hsound ?_ (by simp)
    have htable := hs.table_append i [.received i delivery.adapter time delivery.position]
    cases hadapter : (s.nodes i).adapterManager.findAdapterByAddress
        (s.networkInfo i time delivery tx).adapter with
    | error text =>
      rw [processDiscoveryMessage, hadapter]
      exact htable
    | ok adapter =>
      have hadapter' : (s.nodes i).adapterManager.findAdapterByAddress delivery.adapter =
        .ok adapter := hadapter
      have hrun := hlength tx hdelivered adapter (by rw [hadapter']; rfl)
      have hreports : ∀ r ∈ reports tx.message (s.networkInfo i time delivery tx),
          AnnouncedWithin ids (s.history ++ [.received i delivery.adapter time delivery.position])
            r.routeId.node (ageOf d r.jumps - routeTimeout) time := fun r hr =>
        (announced_of_reports (List.mem_of_getElem? hsent)
          (hs.sound.messages _ tx hsent).identifier (hs.messages _ tx hsent) rfl
          (hprompt tx hdelivered) r hr).mono (List.prefix_append ..)
      rw [processDiscoveryMessage_eq hadapter]
      refine hrun.invariant htable fun m r hr hm hnolonger => hm.report ?_ ?_
      · intro _
        exact ⟨⟨rfl, rfl⟩, hreports r hr⟩
      · intro existing hfind hroute
        have hage := ageOf_le hd (hnolonger existing hfind)
        refine ⟨⟨hroute.discovered.1, hroute.discovered.2⟩, ?_⟩
        have hreported := hreports r hr
        rw [← identifier_of_find hfind] at hreported
        refine hreported.older ?_
        change time - (ageOf d existing.status.jumps - routeTimeout) ≤ time - _
        linarith

theorem updateRoutes (hs : Recent d ids s) (i : ι) (time : TimePoint) :
    Recent d ids (s.updateRoutes i time) := by
  refine hs.set (hs.sound.updateRoutes i time) ?_ (by simp)
  refine AllRoutes.update (hs.table_append i []) fun _ route hroute => ?_
  rw [updateRoute_eq]
  exact ⟨⟨hroute.discovered.1, hroute.discovered.2⟩, hroute.announced⟩

/-- What an up-to-date node tells is at most a stretch older than its own
news. -/
theorem transmit (hs : Recent d ids s) (hi : UpToDate time (s.routes i)) :
    Recent d ids (s.transmit i time) := by
  refine hs.set (hs.sound.transmit i time) (hs.table_append i _) fun tx htx node hnode => ?_
  obtain ⟨client, -, guid, rfl⟩ := Cluster.transmission_of_mem htx
  obtain ⟨other, route, -, hholds, honline, rfl⟩ :=
    TransmissionHandler.holds_of_mem_discoveryMessage hnode
  have hroute := (hs.tables i).of_holds (hs.sound.distinct i) hholds
  have hlately := hi.of_holds (hs.sound.distinct i) hholds honline
  refine hroute.announced.older ?_
  change time - ageOf d route.status.jumps ≤ _
  linarith

theorem beforeUpdate (hs : Recent d ids s) (hd : 0 ≤ d) {deliveries : List Delivery}
    (hprompt : Cluster.EachDelivery (Cluster.Prompt d) s (.poll i time deliveries))
    (hlength : Cluster.EachDelivery Cluster.ReportsNoLonger s (.poll i time deliveries)) :
    Recent d ids (s.beforeUpdate i time deliveries) :=
  (Throughout.and hprompt hlength).invariant (hs.collect i time)
    fun _ _ _ hs h => hs.receive hd h.1 h.2

theorem upToDate_afterUpdate {deliveries : List Delivery}
    (hs : Recent d ids (s.beforeUpdate i time deliveries)) (htime : time.InRange) :
    UpToDate time ((s.afterUpdate i time deliveries).routes i) := by
  rw [Cluster.afterUpdate, Cluster.updateRoutes, Cluster.routes_set, Function.update_self]
  exact upToDate_update ((hs.tables i).mono fun _ _ h => h.discovered) htime

end Recent

end

namespace Cluster

variable [DecidableEq ι]

/-- Once the polling node has updated its routes, the destination of each
that is online sent a message within a stretch of 90 seconds and a delay for
each jump. -/
def NoGhosts (d : Int) (ids : ι → NodeId) (s : Cluster ι) : Action ι → Prop
  | .complete _ _ _ => True
  | .poll i time deliveries =>
    ∀ guid route, ((s.afterUpdate i time deliveries).routes i).Holds guid route →
      route.status.online = true →
      ∃ tx, .sent tx ∈ (s.afterUpdate i time deliveries).history ∧
        ids tx.node = route.identifier.node.id ∧ tx.sender = route.identifier.node.address ∧
        tx.time > time - route.status.jumps.length * (seconds 90 + d)

/-- As long as no report refreshes a route of fewer jumps, no run has ghost
routes. -/
theorem no_ghost_routes (s : Cluster ι) (hs : s.Initial) (d : Int) (hd : 0 ≤ d)
    (actions : List (Action ι)) (htimes : ∀ action ∈ actions, action.InRange)
    (hprompt : Throughout step (EachDelivery (Prompt d)) s actions)
    (hlength : Throughout step (EachDelivery ReportsNoLonger) s actions) :
    Throughout step (NoGhosts d fun i => (s.nodes i).nodeId) s actions := by
  refine ((hprompt.and hlength).and (throughout_of_forall htimes s)).derive (Recent.initial d hs) ?_
  rintro s' action hs' ⟨⟨hprompt, hlength⟩, htime⟩
  cases action with
  | complete i k attempts => exact ⟨hs'.complete i k attempts, trivial⟩
  | poll i time deliveries =>
    have hbefore := hs'.beforeUpdate hd hprompt hlength
    have hafter := hbefore.updateRoutes i time
    have huptodate := hbefore.upToDate_afterUpdate htime
    refine ⟨hafter.transmit huptodate, fun guid route hholds honline => ?_⟩
    have hroute := (hafter.tables i).of_holds (hafter.sound.distinct i) hholds
    have hlately := huptodate.of_holds (hafter.sound.distinct i) hholds honline
    obtain ⟨tx, hsent, hid, haddress, hage⟩ := hroute.announced
    refine ⟨tx, hsent, hid, haddress, ?_⟩
    have hstretch : ageOf d route.status.jumps =
        route.status.jumps.length * (seconds 90 + d) := by
      rw [ageOf, Int.add_comm, routeTimeout]
    linarith

/-- Two routers between the same two networks, and a node on one of them. -/
def triangle : Cluster (Fin 3) where
  nodes := ![lanNode 1 [lanAdapter "x1" 1],
    lanNode 2 [lanAdapter "a1" 2, lanAdapter "a2" 12],
    lanNode 3 [lanAdapter "b1" 3, lanAdapter "b2" 13]]

theorem initial_triangle : triangle.Initial where
  fresh := Fin.forall_fin_succ.mpr
    ⟨⟨rfl, rfl⟩, Fin.forall_fin_two.mpr ⟨⟨rfl, rfl⟩, ⟨rfl, rfl⟩⟩⟩
  history := rfl

/-- The third node hears of the first one by the second, and again after 30
seconds. -/
def refreshingRun : List (Action (Fin 3)) :=
  [.poll 0 0 [], .poll 1 (seconds 1) [⟨1, ⟨2⟩⟩], .poll 2 (seconds 2) [⟨5, ⟨13⟩⟩],
    .poll 0 (seconds 30) [], .poll 1 (seconds 31) [⟨11, ⟨2⟩⟩], .poll 2 (seconds 32) [⟨15, ⟨13⟩⟩]]

theorem no_ghost_routes_refreshing :
    Throughout step (NoGhosts (seconds 1) fun i => (triangle.nodes i).nodeId) triangle
      refreshingRun :=
  no_ghost_routes triangle initial_triangle (seconds 1) (by decide) refreshingRun
    (by simp [refreshingRun, Action.InRange]; decide) (by decide +kernel) (by decide +kernel)

example : ((refreshingRun.foldl step triangle).nodes 2).routeManager.Holds "b2"
    { identifier := ⟨⟨1, ⟨1⟩⟩, ⟨13⟩, ⟨12⟩⟩
      lastDiscovery := seconds 32
      status := { online := true, jumps := [256, 256], mtu := 1500 } } := by
  unfold RouteManager.Holds
  decide +kernel

def ghostRun : List (Action (Fin 3)) :=
  [.poll 0 0 [], .poll 2 0 [⟨1, ⟨3⟩⟩], .poll 1 0 [⟨5, ⟨12⟩⟩], .poll 1 (seconds 89) [],
    .poll 2 (seconds 89) [⟨11, ⟨3⟩⟩], .poll 2 (seconds 178) [], .poll 1 (seconds 178) [⟨19, ⟨12⟩⟩]]

/-- It is no message the first node sent after the first 20 seconds. -/
def sentEarly : Entry (Fin 3) → Bool
  | .sent tx => (triangle.nodes tx.node).nodeId ≠ 1 ∨ tx.time ≤ seconds 20
  | _ => true

def ghost : Route where
  identifier := ⟨⟨1, ⟨1⟩⟩, ⟨12⟩, ⟨13⟩⟩
  lastDiscovery := seconds 178
  status := { online := true, jumps := [256, 256], mtu := 1500 }

/-- A router holds the first node online after 200 seconds, two jumps away,
though that node sent nothing since the start. -/
theorem ghost_route :
    triangle.Initial ∧
      (∀ action ∈ ghostRun ++ [.poll 1 (seconds 200) []], action.InRange) ∧
      Throughout step (EachDelivery (Prompt 0)) triangle
        (ghostRun ++ [.poll 1 (seconds 200) []]) ∧
      ¬ Throughout step (NoGhosts 0 fun i => (triangle.nodes i).nodeId) triangle
        (ghostRun ++ [.poll 1 (seconds 200) []]) := by
  refine ⟨initial_triangle, ?_, by decide +kernel, fun h => ?_⟩
  · simp only [ghostRun, List.cons_append, List.nil_append, List.forall_mem_cons,
      List.not_mem_nil, false_implies, implies_true, and_true, Action.InRange]
    decide
  · have hholds : (((ghostRun.foldl step triangle).afterUpdate 1 (seconds 200) []).routes 1).Holds
        "a2" ghost := by
      unfold RouteManager.Holds
      decide +kernel
    obtain ⟨tx, hsent, hid, -, htime⟩ := h.step_after "a2" ghost hholds rfl
    have hold : ∀ e ∈ ((ghostRun.foldl step triangle).afterUpdate 1 (seconds 200) []).history,
        sentEarly e = true := by
      decide +kernel
    have htx := hold _ hsent
    rw [sentEarly, decide_eq_true_eq] at htx
    rcases htx with htx | htx
    · exact htx hid
    · have hlimit : seconds 200 - ghost.status.jumps.length * (seconds 90 + 0) = seconds 20 := by
        decide +kernel
      rw [hlimit] at htime
      exact absurd htime (not_lt.mpr htx)

end Cluster

end Discnet
