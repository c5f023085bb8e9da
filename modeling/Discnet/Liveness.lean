import Discnet.Beats
import Discnet.Provenance

/-!
# Routes that stay online

If few enough heartbeats of a node are lost in a row, the direct route to it
is always refreshed before its 90 seconds are over.
-/

namespace Discnet

open Lib Network Network.Messages RouteManager

variable {ι : Type}

-- ---------------------------------------------------------------------------
-- The receiver
-- ---------------------------------------------------------------------------

/-- The route to the sender that its own messages report. -/
def directRoute (nodeId : NodeId) (a b : Address) : RouteIdentifier := ⟨⟨nodeId, a⟩, b, a⟩

section
variable {m : RouteManager} {adapter : Adapter} {time : TimePoint} {rs : List Report}
  {routeId : RouteIdentifier}

theorem find_reports_of_other (h : ∀ r ∈ rs, r.routeId ≠ routeId) (m : RouteManager)
    (guid : AdapterGuid) :
    (rs.foldl (report adapter time) m).find guid routeId = m.find guid routeId := by
  refine List.foldlRecOn (motive := fun m' : RouteManager =>
    m'.find guid routeId = m.find guid routeId) rs (report adapter time) rfl fun m' hm' r hr => ?_
  rw [report, find_processRoute, if_neg fun hcase => h r hr hcase.2, hm']

theorem find_reports_of_first (m : RouteManager) (adapter : Adapter) (time : TimePoint)
    (r : Report) (rs : List Report) :
    ∃ route, ((r :: rs).foldl (report adapter time) m).find adapter.guid r.routeId = some route ∧
      route.lastDiscovery = time := by
  have hreported : ∀ known,
      (reported adapter time r.routeId r.jumps known).lastDiscovery = time := by
    intro known
    cases known <;> rfl
  refine List.foldlRecOn (motive := fun m' : RouteManager =>
    ∃ route, m'.find adapter.guid r.routeId = some route ∧ route.lastDiscovery = time)
    rs (report adapter time) ?_ fun m' hm' other _ => ?_
  · exact ⟨_, by rw [report, find_processRoute, if_pos ⟨rfl, rfl⟩], hreported _⟩
  · obtain ⟨route, hroute, htime⟩ := hm'
    rw [report, find_processRoute]
    split_ifs with hcase
    · rw [hroute]
      exact ⟨_, rfl, rfl⟩
    · exact ⟨route, hroute, htime⟩

theorem reporter_of_mem_reports {message : DiscoveryMessage} {info : NetworkInfo} {r : Report}
    (h : r ∈ reports message info) :
    r.routeId.adapter = info.adapter ∧ r.routeId.reporter = info.sender := by
  rcases List.mem_cons.mp h with rfl | h
  · exact ⟨rfl, rfl⟩
  · obtain ⟨node, -, rfl⟩ := List.mem_map.mp h
    exact ⟨rfl, rfl⟩

theorem find_of_other {adapterManager : AdapterManager} {message : DiscoveryMessage}
    {info : NetworkInfo}
    (hother : ¬ (info.adapter = routeId.adapter ∧ info.sender = routeId.reporter))
    (guid : AdapterGuid) :
    (m.processDiscoveryMessage adapterManager message info).2.2.find guid routeId =
      m.find guid routeId := by
  cases hfound : adapterManager.findAdapterByAddress info.adapter with
  | error text => rw [processDiscoveryMessage, hfound]
  | ok found =>
    rw [processDiscoveryMessage_eq hfound]
    refine find_reports_of_other (fun r hr heq => hother ?_) _ guid
    obtain ⟨hadapter, hreporter⟩ := reporter_of_mem_reports hr
    rw [heq] at hadapter hreporter
    exact ⟨hadapter.symm, hreporter.symm⟩

end

variable [DecidableEq ι]

/-- What the receiver holds of the sender. -/
structure Tracked (ids : ι → NodeId) (i : ι) (a : Address) (j : ι) (b : Address)
    (adapter : Adapter) (s : Cluster ι) : Prop where
  sound : Sound ids s
  adapterOf : (s.nodes j).adapterManager.findAdapterByAddress b = .ok adapter
  located : (s.routes j).AllRoutes (Located (s.nodes j).adapterManager)
  online : (s.routes j).AllRoutes fun _ route =>
    route.identifier = directRoute (ids i) a b → route.status.online = true
  known : ∀ route, (s.routes j).find adapter.guid (directRoute (ids i) a b) = some route →
    ∃ x ∈ beats i a s.history, HeardBeat j b s.history x
  heard : ∀ x ∈ beats i a s.history, ∀ time, .received j b time x.position ∈ s.history →
    x.time ≤ time ∧ ∃ route,
      (s.routes j).find adapter.guid (directRoute (ids i) a b) = some route ∧
      time ≤ route.lastDiscovery
  placed : ∀ n c time p, .received n c time p ∈ s.history → p < s.history.length

namespace Tracked

variable {ids : ι → NodeId} {i j n : ι} {a b : Address} {adapter : Adapter} {s s' : Cluster ι}
  {time : TimePoint}

theorem initial (i : ι) (a : Address) (hs : s.Initial)
    (hadapter : (s.nodes j).adapterManager.findAdapterByAddress b = .ok adapter) :
    Tracked (fun i => (s.nodes i).nodeId) i a j b adapter s := by
  constructor
  case sound => exact Sound.initial hs
  case adapterOf => exact hadapter
  case located => exact hs.allRoutes j
  case online => exact hs.allRoutes j
  case known =>
    intro route h
    rw [hs.routes, find_empty] at h
    contradiction
  case heard =>
    intro x hx
    rw [hs.history] at hx
    contradiction
  case placed =>
    intro n c time p h
    exact absurd h (hs.notMem_history _)

theorem quiet (h : Tracked ids i a j b adapter s) {entries : List (Entry ι)}
    (hsound : Sound ids s') (hroutes : s'.routes j = s.routes j)
    (hmanager : (s'.nodes j).adapterManager = (s.nodes j).adapterManager)
    (hhistory : s'.history = s.history ++ entries)
    (hquiet : ∀ time p, .received j b time p ∉ entries)
    (hplaced : ∀ n c time p, .received n c time p ∈ entries → p < s.history.length) :
    Tracked ids i a j b adapter s' := by
  have hreceived : ∀ time p, .received j b time p ∈ s'.history →
      .received j b time p ∈ s.history := by
    intro time p hp
    rw [hhistory] at hp
    exact (List.mem_append.mp hp).resolve_right (hquiet time p)
  constructor
  case sound => exact hsound
  case adapterOf => rw [hmanager, h.adapterOf]
  case located =>
    rw [hroutes, hmanager]
    exact h.located
  case online =>
    rw [hroutes]
    exact h.online
  case known =>
    intro route hroute
    rw [hroutes] at hroute
    obtain ⟨x, hx, t, ht⟩ := h.known route hroute
    rw [hhistory]
    exact ⟨x, mem_beats_append hx, t, List.mem_append_left _ ht⟩
  case heard =>
    intro x hx t ht
    have hold := hreceived t _ ht
    rw [hhistory] at hx
    rw [hroutes]
    exact h.heard x (mem_beats_of_append hx (h.placed j b t _ hold)) t hold
  case placed =>
    intro n c t p hp
    rw [hhistory] at hp ⊢
    rw [List.length_append]
    rcases List.mem_append.mp hp with hp | hp
    · exact Nat.lt_add_right _ (h.placed n c t p hp)
    · exact Nat.lt_add_right _ (hplaced n c t p hp)

/-- A message of the sender sets the time of its route. -/
theorem find_of_own (h : Tracked ids i a j b adapter s) (time : TimePoint) {delivery : Delivery}
    {tx : Transmission ι} (hsent : s.history[delivery.position]? = some (.sent tx))
    (hnode : tx.node = i) (hadapter : delivery.adapter = b) (hsender : tx.sender = a) :
    ∃ route, ((s.routes j).processDiscoveryMessage (s.nodes j).adapterManager tx.message
        (s.networkInfo j time delivery tx)).2.2.find adapter.guid (directRoute (ids i) a b) =
          some route ∧ route.lastDiscovery = time := by
  have hfound : (s.nodes j).adapterManager.findAdapterByAddress
      (s.networkInfo j time delivery tx).adapter = .ok adapter := by
    rw [← h.adapterOf, ← hadapter]
    rfl
  have hid : directRoute (ids i) a b =
      ⟨⟨tx.message.identifier, tx.sender⟩, delivery.adapter, tx.sender⟩ := by
    rw [(h.sound.messages _ tx hsent).identifier, hnode, hsender, hadapter, directRoute]
  rw [processDiscoveryMessage_eq hfound, hid]
  exact find_reports_of_first _ adapter time _ _

theorem receive (h : Tracked ids i a j b adapter s) {delivery : Delivery}
    (hshares : s.SharesNetwork i a j b j time delivery)
    (hclock : ∀ e ∈ s.history, e.time ≤ time) :
    Tracked ids i a j b adapter (s.receive j time delivery) := by
  have hsound := h.sound.receive j time delivery
  rw [Cluster.receive] at hsound ⊢
  cases hdelivered : s.delivered? j delivery with
  | none => exact h
  | some tx =>
    rw [hdelivered] at hsound
    dsimp only at hsound ⊢
    have hsent := Cluster.sent_of_delivered hdelivered
    have hplace := (List.getElem?_eq_some_iff.mp hsent).1
    have hnode := fun hadapter => hshares rfl hadapter tx hdelivered
    have hreport : ∀ found, (s.nodes j).adapterManager.findAdapterByAddress
        (s.networkInfo j time delivery tx).adapter = .ok found →
        ∀ r ∈ reports tx.message (s.networkInfo j time delivery tx),
          (s.nodes j).adapterManager.findAdapterByAddress r.routeId.adapter = .ok found := by
      intro found hfound r hr
      rw [(reporter_of_mem_reports hr).1, hfound]
    have hkept : ¬ (delivery.adapter = b ∧ tx.sender = a) →
        ((s.routes j).processDiscoveryMessage (s.nodes j).adapterManager tx.message
          (s.networkInfo j time delivery tx)).2.2.find adapter.guid (directRoute (ids i) a b) =
        (s.routes j).find adapter.guid (directRoute (ids i) a b) :=
      fun hown => find_of_other hown adapter.guid
    have hbeats : beats i a (s.history ++
        [.received j delivery.adapter time delivery.position]) = beats i a s.history :=
      beats_append_quiet (by simp)
    constructor
    case sound => exact hsound
    case adapterOf => rw [Cluster.nodes_set_self, h.adapterOf]
    case located =>
      rw [Cluster.routes_set, Function.update_self, Cluster.nodes_set_self]
      exact AllRoutes.processDiscoveryMessage h.located
        (fun found hfound r hr => ⟨found, hreport found hfound r hr, rfl⟩) fun _ _ hroute => hroute
    case online =>
      rw [Cluster.routes_set, Function.update_self]
      exact AllRoutes.processDiscoveryMessage h.online (fun _ _ _ _ _ => rfl)
        fun _ _ hroute => hroute
    case known =>
      intro route hroute
      rw [Cluster.routes_set, Function.update_self] at hroute
      rw [Cluster.history_set, hbeats]
      by_cases hown : delivery.adapter = b ∧ tx.sender = a
      · refine ⟨⟨delivery.position, tx.time⟩, ?_, time, ?_⟩
        · exact mem_beats.mpr ⟨tx, hsent, hnode hown.1 hown.2, hown.2, rfl⟩
        · rw [← hown.1]
          exact List.mem_append_right _ List.mem_cons_self
      · obtain ⟨x, hx, t, ht⟩ := h.known route (hkept hown ▸ hroute)
        exact ⟨x, hx, t, List.mem_append_left _ ht⟩
    case heard =>
      intro x hx t ht
      rw [Cluster.history_set, hbeats] at hx
      rw [Cluster.routes_set, Function.update_self]
      obtain ⟨tx', hsent', hnode', hsender', htime'⟩ := mem_beats.mp hx
      have hage : x.time ≤ time := htime' ▸ hclock _ (List.mem_of_getElem? hsent')
      rcases List.mem_append.mp ht with ht | ht
      · obtain ⟨hxt, route, hroute, hlast⟩ := h.heard x hx t ht
        refine ⟨hxt, ?_⟩
        by_cases hown : delivery.adapter = b ∧ tx.sender = a
        · obtain ⟨route', hroute', hlast'⟩ :=
            h.find_of_own time hsent (hnode hown.1 hown.2) hown.1 hown.2
          exact ⟨route', hroute', hlast' ▸ hclock _ ht⟩
        · exact ⟨route, (hkept hown).trans hroute, hlast⟩
      · obtain ⟨-, hadapter, htime, hposition⟩ := Entry.received.inj (List.mem_singleton.mp ht)
        rw [hposition, hsent] at hsent'
        cases hsent'
        obtain ⟨route, hroute, hlast⟩ :=
          h.find_of_own time hsent hnode' hadapter.symm hsender'
        exact ⟨htime ▸ hage, route, hroute, by rw [htime, hlast]⟩
    case placed =>
      intro n c t p hp
      rw [Cluster.history_set, List.length_append]
      rcases List.mem_append.mp hp with hp | hp
      · exact Nat.lt_add_right _ (h.placed n c t p hp)
      · obtain ⟨-, -, -, hposition⟩ := Entry.received.inj (List.mem_singleton.mp hp)
        exact Nat.lt_add_right _ (hposition ▸ hplace)

theorem receive_other (h : Tracked ids i a j b adapter s) (hn : n ≠ j) (time : TimePoint)
    (delivery : Delivery) : Tracked ids i a j b adapter (s.receive n time delivery) := by
  have hsound := h.sound.receive n time delivery
  rw [Cluster.receive] at hsound ⊢
  cases hdelivered : s.delivered? n delivery with
  | none => exact h
  | some tx =>
    rw [hdelivered] at hsound
    have hsent := Cluster.sent_of_delivered hdelivered
    refine h.quiet hsound ?_ ?_ rfl ?_ ?_
    · rw [Cluster.routes_set, Function.update_of_ne hn.symm]
    · rw [Cluster.nodes_set_of_ne hn.symm]
    · intro t p hp
      obtain ⟨heq, -⟩ := Entry.received.inj (List.mem_singleton.mp hp)
      exact hn heq.symm
    · intro m c t p hp
      obtain ⟨-, -, -, hposition⟩ := Entry.received.inj (List.mem_singleton.mp hp)
      exact hposition ▸ (List.getElem?_eq_some_iff.mp hsent).1

theorem set_quiet (h : Tracked ids i a j b adapter s) {node : ClusterNode}
    {entries : List (Entry ι)} (hsound : Sound ids (s.set n node entries))
    (hroutes : node.routeManager = s.routes n)
    (hmanager : node.adapterManager = (s.nodes n).adapterManager)
    (hquiet : ∀ m c t p, .received m c t p ∉ entries) :
    Tracked ids i a j b adapter (s.set n node entries) := by
  refine h.quiet hsound ?_ ?_ rfl (hquiet j b) fun m c t p hp => absurd hp (hquiet m c t p)
  · rw [Cluster.routes_set, hroutes, Function.update_eq_self]
  · exact Cluster.forall_set
      (P := fun m node => node.adapterManager = (s.nodes m).adapterManager)
      hmanager (fun _ _ => rfl) j

theorem complete (h : Tracked ids i a j b adapter s) (n : ι) (k : Nat)
    (attempts : NetworkHandler.Attempts) :
    Tracked ids i a j b adapter (s.complete n k attempts) :=
  h.set_quiet (h.sound.complete n k attempts) rfl rfl (by simp)

theorem collect (h : Tracked ids i a j b adapter s) (n : ι) (time : TimePoint) :
    Tracked ids i a j b adapter (s.collect n time) :=
  h.set_quiet (h.sound.collect n time) rfl rfl (by simp)

theorem transmit (h : Tracked ids i a j b adapter s) (n : ι) (time : TimePoint) :
    Tracked ids i a j b adapter (s.transmit n time) := by
  refine h.set_quiet (h.sound.transmit n time) rfl rfl fun m c t p hp => ?_
  obtain ⟨tx, heq, -⟩ := Cluster.sent_of_mem hp
  contradiction

theorem updateRoutes_other (h : Tracked ids i a j b adapter s) (hn : n ≠ j) (time : TimePoint) :
    Tracked ids i a j b adapter (s.updateRoutes n time) := by
  refine h.quiet (h.sound.updateRoutes n time) ?_ ?_ rfl (by simp) (by simp)
  · rw [Cluster.updateRoutes, Cluster.routes_set, Function.update_of_ne hn.symm]
  · rw [Cluster.updateRoutes, Cluster.nodes_set_of_ne hn.symm]

theorem guid_of_find (h : Tracked ids i a j b adapter s) {guid : AdapterGuid} {route : Route}
    (hfind : (s.routes j).find guid (directRoute (ids i) a b) = some route) :
    guid = adapter.guid := by
  obtain ⟨other, hother, hguid⟩ := h.located guid _ route hfind
  rw [identifier_of_find hfind, directRoute, h.adapterOf] at hother
  cases hother
  exact hguid.symm

theorem updateRoutes_self (h : Tracked ids i a j b adapter s)
    (hfresh : ∀ route, (s.routes j).find adapter.guid (directRoute (ids i) a b) = some route →
      isRouteOnline route time = true) :
    Tracked ids i a j b adapter (s.updateRoutes j time) := by
  have hfind : ∀ guid routeId, ((s.updateRoutes j time).routes j).find guid routeId =
      ((s.routes j).find guid routeId).map fun route => (updateRoute time route).2 := by
    intro guid routeId
    rw [Cluster.updateRoutes, Cluster.routes_set, Function.update_self]
    exact find_update time (s.routes j) guid routeId
  have hhistory : (s.updateRoutes j time).history = s.history := List.append_nil _
  constructor
  case sound => exact h.sound.updateRoutes j time
  case adapterOf =>
    rw [Cluster.updateRoutes, Cluster.nodes_set_self]
    exact h.adapterOf
  case located =>
    rw [Cluster.updateRoutes, Cluster.routes_set, Function.update_self, Cluster.nodes_set_self]
    refine h.located.update fun guid route hroute => ?_
    rw [updateRoute_eq]
    exact hroute
  case online =>
    intro guid routeId route hroute hid
    have hroute' := identifier_of_find hroute
    rw [hid] at hroute'
    subst hroute'
    rw [hfind, Option.map_eq_some_iff] at hroute
    obtain ⟨existing, hexisting, rfl⟩ := hroute
    rw [updateRoute_eq]
    have hguid := h.guid_of_find hexisting
    exact hfresh existing (hguid ▸ hexisting)
  case known =>
    intro route hroute
    rw [hfind, Option.map_eq_some_iff] at hroute
    obtain ⟨existing, hexisting, -⟩ := hroute
    rw [hhistory]
    exact h.known existing hexisting
  case heard =>
    intro x hx t ht
    rw [hhistory] at hx ht
    obtain ⟨hage, route, hroute, hlast⟩ := h.heard x hx t ht
    refine ⟨hage, (updateRoute time route).2, ?_, ?_⟩
    · rw [hfind, hroute]
      rfl
    · rw [updateRoute_eq]
      exact hlast
  case placed =>
    rw [hhistory]
    exact h.placed

/-- The receiver at the time of a poll. -/
structure At (ids : ι → NodeId) (i : ι) (a : Address) (j : ι) (b : Address) (adapter : Adapter)
    (time : TimePoint) (s : Cluster ι) : Prop where
  tracked : Tracked ids i a j b adapter s
  past : ∀ e ∈ s.history, e.time ≤ time

theorem At.append (h : At ids i a j b adapter time s) (hs' : Tracked ids i a j b adapter s')
    {e : Entry ι} (hhistory : s'.history = s.history ++ [e]) (htime : e.time = time) :
    At ids i a j b adapter time s' := by
  refine ⟨hs', fun e' he' => ?_⟩
  rw [hhistory] at he'
  rcases List.mem_append.mp he' with he' | he'
  · exact h.past e' he'
  · rw [List.mem_singleton.mp he']
    exact le_of_eq htime

theorem At.receive (h : At ids i a j b adapter time s) {delivery : Delivery}
    (hshares : s.SharesNetwork i a j b n time delivery) :
    At ids i a j b adapter time (s.receive n time delivery) := by
  have htracked : Tracked ids i a j b adapter (s.receive n time delivery) := by
    by_cases hn : n = j
    · subst hn
      exact h.tracked.receive hshares h.past
    · exact h.tracked.receive_other hn time delivery
  rw [Cluster.receive] at htracked ⊢
  cases hdelivered : s.delivered? n delivery with
  | none => exact h
  | some tx =>
    rw [hdelivered] at htracked
    exact h.append htracked rfl rfl

theorem beforeUpdate (h : Tracked ids i a j b adapter s) (n : ι) {deliveries : List Delivery}
    (hshares : Cluster.EachDelivery (Cluster.SharesNetwork i a j b) s (.poll n time deliveries))
    (hclock : ∀ e ∈ s.history, e.time ≤ time) :
    Tracked ids i a j b adapter (s.beforeUpdate n time deliveries) := by
  have hstart : At ids i a j b adapter time s := ⟨h, hclock⟩
  have hcollected := hstart.append (h.collect n time) rfl rfl
  exact (hshares.invariant hcollected fun _ _ _ hs hshares => hs.receive hshares).tracked

end Tracked

-- ---------------------------------------------------------------------------
-- The two together
-- ---------------------------------------------------------------------------

section
variable {ids : ι → NodeId} {i j n : ι} {a b : Address} {adapter : Adapter} {s : Cluster ι}
  {time : TimePoint} {k : Nat} {g d : Int}

/-- Before the receiver updates its routes, the one to the sender is fresh. -/
theorem online_of_beating (hbeating : Beating g i a s) (hg : 0 ≤ g) (hd : 0 ≤ d)
    (hbound : (k + 1) * (seconds 20 + g) + d < seconds 90) {deliveries : List Delivery}
    (htracked : Tracked ids i a j b adapter (s.beforeUpdate j time deliveries))
    (hpolls : s.PollsEvery g i j (.poll j time deliveries))
    (hloses : s.LosesFew k d i a j b (.poll j time deliveries)) (route : Route)
    (hroute : ((s.beforeUpdate j time deliveries).routes j).find adapter.guid
      (directRoute (ids i) a b) = some route) : isRouteOnline route time = true := by
  have hgathered := Cluster.gathered_beforeUpdate s j time deliveries
  have hbeats : beats i a (s.beforeUpdate j time deliveries).history = beats i a s.history :=
    Beating.beats_gathered hgathered
  obtain ⟨received, hhistory, hreceived⟩ := hgathered.history
  -- a beat heard at `t` and sent at most `k + 1` periods ago is enough
  have hlately : time - routeTimeout < route.lastDiscovery := by
    obtain ⟨x, hx, t, ht⟩ := htracked.known route hroute
    have hroutes : ∀ y ∈ beats i a s.history, ∀ t,
        .received j b t y.position ∈ (s.beforeUpdate j time deliveries).history →
        y.time ≤ t ∧ t ≤ route.lastDiscovery := by
      intro y hy t ht
      obtain ⟨hage, route', hroute', hlast⟩ := htracked.heard y (hbeats ▸ hy) t ht
      rw [hroute] at hroute'
      cases hroute'
      exact ⟨hage, hlast⟩
    have hnow : 0 < routeTimeout := by decide
    rw [hbeats] at hx
    rw [hhistory] at ht
    rcases List.mem_append.mp ht with ht | ht
    · have hperiod : 0 ≤ seconds 20 + g := Int.add_nonneg twentySeconds_nonneg hg
      have hlosses : FewLosses Beat.time (HeardBeat j b s.history) k d time
          (beats i a s.history) := (hloses rfl).mono fun y ⟨t, ht, _⟩ => ⟨t, ht⟩
      obtain ⟨y, hy, ⟨t, ht⟩, hage⟩ := exists_heard_lately hbeating.spaced hperiod hd
        (fun y hy => hbeating.inTime hy (hpolls (.inr rfl))) hlosses ⟨x, hx, t, ht⟩
      have hy' := hroutes y hy t (hhistory ▸ List.mem_append_left _ ht)
      rw [routeTimeout]
      push_cast at hage
      linarith
    · rcases List.mem_cons.mp ht with ht' | ht'
      · contradiction
      · obtain ⟨c, p, heq⟩ := hreceived _ ht'
        cases heq
        have hx' := hroutes x hx time (hhistory ▸ List.mem_append_right _ ht)
        linarith
  rw [isRouteOnline]
  split_ifs
  · rfl
  · simp [hlately]

theorem Beating.poll (hbeating : Beating g i a s) (hg : 0 ≤ g) {deliveries : List Delivery}
    (hclock : s.ClockForward (.poll n time deliveries))
    (hpolls : s.PollsEvery g i j (.poll n time deliveries)) :
    Beating g i a ((s.afterUpdate n time deliveries).transmit n time) := by
  have hgathered := Cluster.gathered_afterUpdate s n time deliveries
  by_cases hn : n = i
  · subst hn
    exact hbeating.poll_self hg hgathered hclock (hpolls (.inl rfl))
  · obtain ⟨entries, hhistory, hentries⟩ := hgathered.history_transmit
    refine hbeating.quiet ?_ ?_ ?_ hhistory fun e he => (hentries e he).1 ▸ hn
    · rw [Cluster.transmit, Cluster.nodes_set_of_ne (Ne.symm hn), hgathered.transmissionHandler]
    · rw [Cluster.transmit, Cluster.nodes_set_of_ne (Ne.symm hn), hgathered.adapterManager]
    · rw [Cluster.transmit, Cluster.nodes_set_of_ne (Ne.symm hn)]
      exact Beating.clients_gathered hgathered i

end

namespace Cluster

variable {s : Cluster ι} {i n : ι} {time : TimePoint}

/-- The events a delivery raises. -/
def receiveEvents (i : ι) (time : TimePoint) (s : Cluster ι) (delivery : Delivery) :
    List RouteEvent :=
  match s.delivered? i delivery with
  | none => []
  | some transmission =>
    let node := s.nodes i
    (node.routeManager.processDiscoveryMessage node.adapterManager transmission.message
      (s.networkInfo i time delivery transmission)).2.1

def receivesEvents (i : ι) (time : TimePoint) : Cluster ι → List Delivery → List RouteEvent
  | _, [] => []
  | s, delivery :: rest =>
    s.receiveEvents i time delivery ++ receivesEvents i time (s.receive i time delivery) rest

def raised (s : Cluster ι) (i : ι) (time : TimePoint) (deliveries : List Delivery) :
    List RouteEvent :=
  (s.collect i time).receivesEvents i time deliveries ++
    (((s.beforeUpdate i time deliveries).routes i).update time).1

theorem new_of_mem_receivesEvents {deliveries : List Delivery} {event : RouteEvent}
    (h : event ∈ s.receivesEvents i time deliveries) : ∃ route, event = .new route := by
  induction deliveries generalizing s with
  | nil => contradiction
  | cons delivery rest ih =>
    rcases List.mem_append.mp h with h | h
    · rw [receiveEvents] at h
      cases hdelivered : s.delivered? i delivery with
      | none =>
        rw [hdelivered] at h
        contradiction
      | some tx =>
        rw [hdelivered] at h
        exact new_of_mem_processDiscoveryMessage h
    · exact ih h

/-- After each update of the receiver its direct route to the sender is
online, once it processed a message, and no event says that this changed. -/
def StaysOnline (ids : ι → NodeId) (i : ι) (a : Address) (j : ι) (b : Address) (s : Cluster ι) :
    Action ι → Prop
  | .complete _ _ _ => True
  | .poll n time deliveries => n = j →
    ((∃ x ∈ beats i a (s.beforeUpdate n time deliveries).history,
        HeardBeat j b (s.beforeUpdate n time deliveries).history x) →
      ∃ guid route, ((s.afterUpdate n time deliveries).routes j).Holds guid route ∧
        route.identifier = directRoute (ids i) a b) ∧
    (∀ guid route, ((s.afterUpdate n time deliveries).routes j).Holds guid route →
      route.identifier = directRoute (ids i) a b → route.status.online = true) ∧
    ∀ current previous, .onlineStateChanged current previous ∈ s.raised n time deliveries →
      current.identifier ≠ directRoute (ids i) a b

structure Alive (g : Int) (ids : ι → NodeId) (i : ι) (a : Address) (j : ι) (b : Address)
    (adapter : Adapter) (s : Cluster ι) : Prop where
  beating : Beating g i a s
  tracked : Tracked ids i a j b adapter s

/-- A node that loses few messages of another one in a row does not take it
for offline. -/
theorem no_false_offline (s : Cluster ι) (hs : s.Initial) (i j : ι) (a b : Address)
    (adapter : Adapter) (hadapter : (s.nodes j).adapterManager.findAdapterByAddress b = .ok adapter)
    (k : Nat) (g d : Int) (hg : 0 ≤ g) (hd : 0 ≤ d)
    (hbound : (k + 1) * (seconds 20 + g) + d < seconds 90) (actions : List (Action ι))
    (hclock : Throughout step ClockForward s actions)
    (hpolls : Throughout step (PollsEvery g i j) s actions)
    (hshares : Throughout step (EachDelivery (SharesNetwork i a j b)) s actions)
    (hloses : Throughout step (LosesFew k d i a j b) s actions) :
    Throughout step (StaysOnline (fun i => (s.nodes i).nodeId) i a j b) s actions := by
  have hstart : Alive g (fun i => (s.nodes i).nodeId) i a j b adapter s :=
    ⟨Beating.initial g i a hs, Tracked.initial i a hs hadapter⟩
  refine ((hclock.and hpolls).and (hshares.and hloses)).derive hstart ?_
  rintro s' action ⟨hbeating, htracked⟩ ⟨⟨hclock, hpolls⟩, hshares, hloses⟩
  cases action with
  | complete n m attempts =>
    refine ⟨⟨hbeating.complete n m attempts, htracked.complete n m attempts⟩, trivial⟩
  | poll n time deliveries =>
    have hbefore := htracked.beforeUpdate n hshares hclock
    by_cases hn : n = j
    · subst hn
      have honline := online_of_beating hbeating hg hd hbound hbefore hpolls hloses
      have hafter := hbefore.updateRoutes_self honline
      refine ⟨⟨hbeating.poll hg hclock hpolls, hafter.transmit n time⟩, fun _ => ⟨?_, ?_, ?_⟩⟩
      · rintro ⟨x, hx, t, ht⟩
        have hhistory : (s'.afterUpdate n time deliveries).history =
            (s'.beforeUpdate n time deliveries).history := List.append_nil _
        rw [← hhistory] at hx ht
        obtain ⟨-, route, hroute, -⟩ := hafter.heard x hx t ht
        exact ⟨adapter.guid, route, holds_of_find hroute, identifier_of_find hroute⟩
      · intro guid route hholds
        exact hafter.online.of_holds (hafter.sound.distinct n) hholds
      · intro current previous hevent hid
        rcases List.mem_append.mp hevent with hevent | hevent
        · obtain ⟨route, heq⟩ := new_of_mem_receivesEvents hevent
          contradiction
        · obtain ⟨guid, route, hholds, hevent, hroute⟩ := holds_of_mem_update hevent
          have hdirect : route.identifier = directRoute (s.nodes i).nodeId a b :=
            hroute.symm.trans hid
          have hwas := hbefore.online.of_holds (hbefore.sound.distinct n) hholds hdirect
          have hfind := (hbefore.sound.distinct n).find_eq hholds
          rw [hdirect] at hfind
          have hguid := hbefore.guid_of_find hfind
          rw [events_updateRoute hwas (honline route (hguid ▸ hfind))] at hevent
          contradiction
    · exact ⟨⟨hbeating.poll hg hclock hpolls, (hbefore.updateRoutes_other hn time).transmit n time⟩,
        fun h => absurd h hn⟩

theorem no_false_offline_pair :
    Throughout step (StaysOnline (fun i => (pair.nodes i).nodeId) 0 ⟨1⟩ 1 ⟨2⟩) pair
      [.poll 0 0 [], .poll 1 0 [⟨1, ⟨2⟩⟩], .poll 0 (seconds 30) [],
        .poll 1 (seconds 60) [⟨6, ⟨2⟩⟩]] :=
  no_false_offline pair initial_pair 0 1 ⟨1⟩ ⟨2⟩ (lanAdapter "b" 2) (by decide +kernel) 0
    (seconds 30) (seconds 30) (by decide) (by decide) (by decide)
    [.poll 0 0 [], .poll 1 0 [⟨1, ⟨2⟩⟩], .poll 0 (seconds 30) [],
      .poll 1 (seconds 60) [⟨6, ⟨2⟩⟩]]
    (by decide +kernel) (by decide +kernel) (by decide +kernel) (by decide +kernel)

end Cluster

end Discnet
