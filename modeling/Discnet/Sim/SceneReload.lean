import Discnet.Lib.JsonText
import Discnet.Sim.SavedScene

/-!
# Loading a scene

A scene that was mirrored when it was saved is loaded into a new simulator,
item by item and in the order of the old ids. What is drawn then is what was
drawn, under other numbers, and the simulator mirrors it again.
-/

namespace Discnet.Sim

open Function Lib Network Network.Messages Std

-- ---------------------------------------------------------------------------
-- What can be simulated
-- ---------------------------------------------------------------------------

namespace Drawing

/-- The adapters have addresses and can be told apart, those that are connected
can be listened on, and no two of a node are on a router. -/
structure Proper (d : Drawing) : Prop where
  addressed : ∀ a drawn, d.adapters a = some drawn → drawn.adapter.addressList ≠ []
  addresses : ∀ a b drawn other, d.adapters a = some drawn → d.adapters b = some other →
    firstAddress drawn.adapter = firstAddress other.adapter → a = b
  macs : ∀ a b drawn other, d.adapters a = some drawn → d.adapters b = some other →
    drawn.node = other.node → drawn.adapter.macAddress = other.adapter.macAddress → a = b
  listens : ∀ a drawn, d.adapters a = some drawn → drawn.router.isSome →
    drawn.adapter.listenAddresses ≠ []
  apart : ∀ a b drawn other r, d.adapters a = some drawn → d.adapters b = some other →
    drawn.node = other.node → drawn.router = some r → other.router = some r → a = b

variable {d d' : Drawing} {ρ : Renumbering}

/-- The adapter of another drawing that is drawn here. -/
theorem Renumbers.exists_adapter (h : d.Renumbers ρ d') (ha : d'.adapters k = some drawn) :
    ∃ a before, d.adapters a = some before ∧ ρ .adapter a = k ∧ before.renumber ρ = drawn := by
  obtain ⟨a, hk, hbefore⟩ := (h.adapters.iff k drawn).mp ha
  obtain ⟨before, hfound, hdrawn⟩ := Option.map_eq_some_iff.mp hbefore
  exact ⟨a, before, hfound, hk, hdrawn⟩

theorem Renumbers.proper (h : d.Renumbers ρ d') (hd : d.Sound) (hproper : d.Proper) :
    d'.Proper := by
  have hnode : ∀ {a b : ItemNumber} {x y : Drawn}, d.adapters a = some x → d.adapters b = some y →
      (x.renumber ρ).node = (y.renumber ρ).node → x.node = y.node := by
    intro a b x y hx hy
    exact h.nodes.inj _ _ (hd.node a x hx) (hd.node b y hy)
  constructor
  case addressed =>
    rintro k _ hk
    obtain ⟨a, x, hx, rfl, rfl⟩ := h.exists_adapter hk
    exact hproper.addressed a x hx
  case addresses =>
    rintro k k' _ _ hk hk' hsame
    obtain ⟨a, x, hx, rfl, rfl⟩ := h.exists_adapter hk
    obtain ⟨b, y, hy, rfl, rfl⟩ := h.exists_adapter hk'
    rw [hproper.addresses a b x y hx hy hsame]
  case macs =>
    rintro k k' _ _ hk hk' hthere hsame
    obtain ⟨a, x, hx, rfl, rfl⟩ := h.exists_adapter hk
    obtain ⟨b, y, hy, rfl, rfl⟩ := h.exists_adapter hk'
    rw [hproper.macs a b x y hx hy (hnode hx hy hthere) hsame]
  case listens =>
    rintro k _ hk hsome
    obtain ⟨a, x, hx, rfl, rfl⟩ := h.exists_adapter hk
    exact hproper.listens a x hx (by simpa [Drawn.renumber] using hsome)
  case apart =>
    rintro k k' _ _ r hk hk' hthere hr hr'
    obtain ⟨a, x, hx, rfl, rfl⟩ := h.exists_adapter hk
    obtain ⟨b, y, hy, rfl, rfl⟩ := h.exists_adapter hk'
    obtain ⟨q, hq, hrq⟩ := Option.map_eq_some_iff.mp hr
    obtain ⟨q', hq', hrq'⟩ := Option.map_eq_some_iff.mp hr'
    have hsame := h.routers.inj q q' (hd.router a x q hx hq) (hd.router b y q' hy hq')
      (hrq.trans hrq'.symm)
    rw [hproper.apart a b x y q hx hy (hnode hx hy hthere) hq (hsame ▸ hq')]

end Drawing

/-- What is drawn of a scene can be told apart by internal ids. -/
theorem Scene.Consistent.sound {s : Scene} (hs : s.Consistent) (hn : s.nextNode ≤ 2 ^ 32)
    (hr : s.nextRouter ≤ 2 ^ 32) (ha : s.nextAdapter ≤ 2 ^ 32) : s.drawing.Sound where
  nodesBelow k hk := by simp [drawing, hs.nodesBelow k hk]
  routersBelow k hk := by simp [drawing, hs.routersBelow k hk]
  adaptersBelow k hk := by simp [drawing, hs.adaptersBelow k hk]
  nodes_le := hn
  routers_le := hr
  adapters_le := ha
  node a drawn hdrawn := by
    obtain ⟨item, hitem, rfl⟩ := Option.map_eq_some_iff.mp hdrawn
    obtain ⟨list, hlist, -⟩ := hs.nodes.mem (a := a) (i := item.node) (by
      simp [adapterNode, hitem])
    obtain ⟨node, hnode, -⟩ := Option.map_eq_some_iff.mp hlist
    simp [drawing, Scene.drawn, hnode]
  router a drawn r hdrawn hrouter := by
    obtain ⟨item, hitem, rfl⟩ := Option.map_eq_some_iff.mp hdrawn
    obtain ⟨c, -, hc⟩ := Option.bind_eq_some_iff.mp hrouter
    obtain ⟨connection, hconnection, rfl⟩ := Option.map_eq_some_iff.mp hc
    obtain ⟨-, router, hfound⟩ := hs.ends hconnection
    simp [drawing, hfound]

namespace Mirrors

variable {d : Drawing} {s : Simulator}

/-- What is mirrored can be simulated. -/
theorem proper (h : Mirrors d s) : d.Proper := by
  have hsame : ∀ {a b : ItemNumber} {x y : Drawn}, d.adapters a = some x → d.adapters b = some y →
      internalId a = internalId b → a = b := fun hx hy =>
    internalId_inj (h.sound.adapter_lt hx) (h.sound.adapter_lt hy)
  constructor
  case addressed =>
    intro a x hx
    obtain ⟨_, _, hentry, -⟩ := h.hasAdapter hx
    exact (h.tidy.steady _ _ hentry.found).addressed _ hentry.mem
  case addresses =>
    intro a b x y hx hy haddress
    obtain ⟨_, _, hentry, -⟩ := h.hasAdapter hx
    obtain ⟨_, _, hentry', -⟩ := h.hasAdapter hy
    obtain ⟨-, heq⟩ := h.tidy.distinct _ _ _ _ _ _ hentry hentry' (.inr haddress)
    exact hsame hx hy (congrArg SimulatorAdapterEntry.identifier heq)
  case macs =>
    intro a b x y hx hy hnode hmac
    obtain ⟨setup, _, hentry, -⟩ := h.hasAdapter hx
    obtain ⟨_, _, hentry', -⟩ := h.hasAdapter hy
    rw [← hnode] at hentry'
    obtain rfl := Option.some.inj (hentry.found.symm.trans hentry'.found)
    have hmacs := (h.tidy.steady _ _ hentry.found).macs
    rw [AdapterManager.DistinctMacs, List.map_map] at hmacs
    have heq := List.inj_on_of_nodup_map hmacs hentry.mem hentry'.mem hmac
    exact hsame hx hy (congrArg SimulatorAdapterEntry.identifier heq)
  case listens =>
    intro a x hx hsome
    obtain ⟨p, hp, hadapter⟩ := h.linked a x hx hsome
    obtain ⟨-, -, -, address, haddress, -⟩ := h.port hx hp (.inl hadapter)
    exact List.ne_nil_of_mem haddress
  case apart =>
    intro a b x y r hx hy hnode hr hr'
    obtain ⟨p, hp, hadapter⟩ := h.linked a x hx (by rw [hr]; rfl)
    obtain ⟨q, hq, hadapter'⟩ := h.linked b y hy (by rw [hr']; rfl)
    obtain ⟨hpnode, -, hprouter, -⟩ := h.port hx hp (.inl hadapter)
    obtain ⟨hqnode, -, hqrouter, -⟩ := h.port hy hq (.inl hadapter')
    obtain ⟨-, -, hapart⟩ := h.tidy.simulates
    have heq := hapart p hp q hq (by rw [hpnode, hqnode, hnode])
      (by rw [hprouter, hqrouter, hr, hr']) (by rw [hprouter, hr]; rfl)
    exact hsame hx hy (by rw [← hadapter, ← hadapter', heq])

end Mirrors

-- ---------------------------------------------------------------------------
-- Before the update
-- ---------------------------------------------------------------------------

/-- No adapter was announced yet. -/
structure Unannounced (s : Simulator) : Prop where
  ports : s.network.ports = []
  managers : ∀ id setup, s.setup id = some setup → setup.manager = ⟨∅⟩

namespace Unannounced

variable {s : Simulator}

theorem empty : Unannounced {} where
  ports := rfl
  managers := by simp [Simulator.setup]

theorem addRouter (h : Unannounced s) (router : RouterIdentifier) :
    Unannounced (s.call (.addRouter router)) where
  ports := by
    rw [Simulator.network_call]
    exact h.ports
  managers := h.managers

theorem addNode (h : Unannounced s) (id : NodeIdentifier) (configuration : Configuration) :
    Unannounced (s.addNode id configuration) where
  ports := h.ports
  managers := by
    intro other setup hfound
    rw [Simulator.setup, Simulator.addNode, TreeMap.getElem?_insertIfNew] at hfound
    split at hfound
    · obtain rfl := Option.some.inj hfound
      rfl
    · exact h.managers other setup hfound

theorem addAdapter (h : Unannounced s) (id : NodeIdentifier) (identifier : AdapterIdentifier)
    (adapter : Adapter) : Unannounced (s.addAdapter id identifier adapter) where
  ports := h.ports
  managers := by
    intro other setup hfound
    rw [Simulator.addAdapter, Simulator.setup_modifyNode s id
      (fun entries => entries ++ [⟨identifier, adapter⟩]) fun _ => rfl] at hfound
    split_ifs at hfound
    · obtain ⟨before, hbefore, rfl⟩ := Option.map_eq_some_iff.mp hfound
      exact h.managers other before hbefore
    · exact h.managers other setup hfound

end Unannounced

-- ---------------------------------------------------------------------------
-- What is simulated
-- ---------------------------------------------------------------------------

namespace LoadedItems

variable {l : LoadedItems} {s : Simulator}

theorem simulateRouters (h : l.Complete)
    (hmirrors : Mirrors { l.scene.drawing with
      nodes := fun _ => none
      adapters := fun _ => none
      routers := fun _ => none } s) (hs : Unannounced s) :
    ∃ t, l.routers.values.foldlM l.simulateRouter s = some t ∧
      Mirrors { l.scene.drawing with nodes := fun _ => none, adapters := fun _ => none } t ∧
      Unannounced t := by
  obtain ⟨t, hdone, hmirrors, ht⟩ := foldlM_once (f := l.simulateRouter) (b := s)
    (P := fun done s => Mirrors { l.scene.drawing with
      nodes := fun _ => none
      adapters := fun _ => none
      routers := part done l.scene.drawing.routers } s ∧ Unannounced s)
    h.routers.nodup ⟨by rwa [part_nil], hs⟩ (by
      rintro done r s hmem - ⟨hmirrors, hs⟩
      obtain ⟨router, hr⟩ := Scene.exists_router ((h.routers.mem_iff r).mp hmem)
      refine ⟨s.call (.addRouter (internalId r)), by simp [simulateRouter, hr], ?_, hs.addRouter _⟩
      have hname : l.scene.drawing.routers r = some router.name := by simp [Scene.drawing, hr]
      rw [part_append, hname]
      exact hmirrors.drawRouter (h.consistent.routersBelow.lt hr) _)
  rw [part_eq_self fun r _ hr => (h.routers.mem_iff r).mpr (by rw [hr]; rfl)] at hmirrors
  exact ⟨t, hdone, hmirrors, ht⟩

theorem simulateNodes (h : l.Complete)
    (hmirrors : Mirrors { l.scene.drawing with
      nodes := fun _ => none
      adapters := fun _ => none } s) (hs : Unannounced s) :
    ∃ t, l.nodes.values.foldlM l.simulateNode s = some t ∧
      Mirrors { l.scene.drawing with adapters := fun _ => none } t ∧ Unannounced t := by
  obtain ⟨t, hdone, hmirrors, ht⟩ := foldlM_once (f := l.simulateNode) (b := s)
    (P := fun done s => Mirrors { l.scene.drawing with
      nodes := part done l.scene.drawing.nodes
      adapters := fun _ => none } s ∧ Unannounced s)
    h.nodes.nodup ⟨by rwa [part_nil], hs⟩ (by
      rintro done n s hmem hnew ⟨hmirrors, hs⟩
      obtain ⟨node, hn⟩ := Scene.exists_node ((h.nodes.mem_iff n).mp hmem)
      refine ⟨s.addNode (internalId n) (sceneConfiguration node.nodeId), by
        simp [simulateNode, hn], ?_, hs.addNode _ _⟩
      have hid : l.scene.drawing.nodes n = some node.nodeId := by simp [Scene.drawing, hn]
      rw [part_append, hid]
      exact hmirrors.drawNode (h.consistent.nodesBelow.lt hn) (part_of_not_mem hnew) _)
  rw [part_eq_self fun n _ hn => (h.nodes.mem_iff n).mpr (by rw [hn]; rfl)] at hmirrors
  exact ⟨t, hdone, hmirrors, ht⟩

theorem simulateAdapters (h : l.Complete) (hd : l.scene.drawing.Sound)
    (hproper : l.scene.drawing.Proper)
    (hmirrors : Mirrors { l.scene.drawing with adapters := fun _ => none } s)
    (hs : Unannounced s) :
    ∃ t, l.adapters.values.foldlM l.simulateAdapter s = some t ∧
      Mirrors { l.scene.drawing with adapters := l.scene.plugged [] } t := by
  obtain ⟨t, hdone, hmirrors, -⟩ := foldlM_once (f := l.simulateAdapter) (b := s)
    (P := fun done s => Mirrors { l.scene.drawing with
      adapters := part done (l.scene.plugged []) } s ∧ Unannounced s)
    h.adapters.nodup ⟨by rwa [part_nil], hs⟩ (by
      rintro done a s hmem hnew ⟨hmirrors, hs⟩
      obtain ⟨item, ha, hdrawn, -⟩ :=
        SceneEditor.exists_drawn h.consistent ((h.adapters.mem_iff a).mp hmem)
      have hothers : ∀ b other, part done (l.scene.plugged []) b = some other →
          firstAddress other.adapter ≠ firstAddress item.adapter ∧
            (other.node = item.node → other.adapter.macAddress ≠ item.adapter.macAddress) := by
        intro b other hb
        obtain ⟨hmem, hb⟩ := part_eq_some.mp hb
        have hne : b ≠ a := fun heq => hnew (heq ▸ hmem)
        obtain ⟨whole, hwhole, hthere, hsame, -⟩ := Scene.drawn_of_plugged hb
        rw [← hthere, ← hsame]
        exact ⟨fun haddress => hne (hproper.addresses b a whole _ hwhole hdrawn haddress),
          fun hthere hmac => hne (hproper.macs b a whole _ hwhole hdrawn hthere hmac)⟩
      refine ⟨s.addAdapter (internalId item.node) (internalId a) item.adapter, by
        simp [simulateAdapter, ha, SceneEditor.nodeId_eq h.consistent ha], ?_, hs.addAdapter _ _ _⟩
      have hlt : a < l.scene.drawing.nextAdapter := h.consistent.adaptersBelow.lt ha
      have hnone : part done (l.scene.plugged []) a = none := part_of_not_mem hnew
      have hthere := hd.node a _ hdrawn
      rw [part_append, Scene.plugged_nil ha]
      refine hmirrors.drawAdapter hlt hnone hthere ?_
      refine hmirrors.addsFresh (hproper.addressed a _ hdrawn) hnone hlt hthere hothers
        (by simp [hs.ports]) fun setup hsetup => ?_
      rw [hs.managers _ setup hsetup]
      exact TreeMap.getElem?_emptyc)
  have hall : part l.adapters.values (l.scene.plugged []) = l.scene.plugged [] := by
    refine part_eq_self fun a drawn ha => (h.adapters.mem_iff a).mpr ?_
    obtain ⟨whole, hwhole, -⟩ := Scene.drawn_of_plugged ha
    rw [hwhole]
    rfl
  rw [hall] at hmirrors
  exact ⟨t, hdone, hmirrors⟩

/-- After an update the adapters that can be listened on have their ports. -/
theorem ports_of_update {d : Drawing} (hmirrors : Mirrors d s) (md5 : List Byte → Digest)
    (now : TimePoint) (ha : d.adapters a = some drawn)
    (hlistens : drawn.adapter.listenAddresses ≠ []) :
    ∃ p ∈ (s.update md5 now).network.ports, p.adapter = internalId a := by
  have hupdated := hmirrors.update md5 now
  obtain ⟨setup, _, hentry, -⟩ := hupdated.hasAdapter ha
  obtain ⟨address, haddress⟩ := List.exists_mem_of_ne_nil _ hlistens
  obtain ⟨router, hport⟩ := hupdated.tidy.ports _ _ _ hentry (hmirrors.tidy.knows_update hentry)
    address haddress
  exact ⟨_, hport, rfl⟩

theorem simulateConnections (h : l.Complete) (hd : l.scene.drawing.Sound)
    (hproper : l.scene.drawing.Proper)
    (hmirrors : Mirrors { l.scene.drawing with adapters := l.scene.plugged [] } s)
    (hports : ∀ a drawn, l.scene.drawing.adapters a = some drawn → drawn.router.isSome →
      ∃ p ∈ s.network.ports, p.adapter = internalId a) :
    ∃ t, l.connections.values.foldlM l.simulateConnection s = some t ∧
      Mirrors l.scene.drawing t := by
  obtain ⟨t, hdone, hmirrors, -⟩ := foldlM_once (f := l.simulateConnection) (b := s)
    (P := fun done s => Mirrors { l.scene.drawing with adapters := l.scene.plugged done } s ∧
      ∀ a drawn, l.scene.drawing.adapters a = some drawn → drawn.router.isSome →
        ∃ p ∈ s.network.ports, p.adapter = internalId a)
    h.connections.nodup ⟨hmirrors, hports⟩ (by
      rintro done c s hmem hnew ⟨hmirrors, hports⟩
      obtain ⟨⟨a, r⟩, hc⟩ := Option.isSome_iff_exists.mp ((h.connections.mem_iff c).mp hmem)
      obtain ⟨⟨item, ha, hplug⟩, router, hr⟩ := h.consistent.ends hc
      have hdrawn : l.scene.drawing.adapters a = some ⟨item.node, item.adapter, some r⟩ := by
        simp [Scene.drawing, Scene.drawn, Scene.connectionRouter, ha, hplug, hc]
      refine ⟨s.call (.addLink (internalId item.node) (internalId a) (internalId r)), by
        simp [simulateConnection, hc, ha, hr, SceneEditor.nodeId_eq h.consistent ha], ?_, ?_⟩
      · rw [Scene.plugged_append h.consistent hc ha hplug]
        refine hmirrors.addLink (Scene.plugged_of_open ha hplug hnew) rfl
          (hd.router a _ r hdrawn rfl) (hports a _ hdrawn rfl) fun b other hb hthere hother => ?_
        obtain ⟨whole, hwhole, hnode, -, hrouter⟩ := Scene.drawn_of_plugged hb
        exact hproper.apart b a whole _ r hwhole hdrawn (hnode.trans hthere) (hrouter r hother) rfl
      · intro b other hb hsome
        obtain ⟨p, hp, hadapter⟩ := hports b other hb hsome
        have hkept : ∃ router, { p with router := router } ∈ (s.network.step
            (.addLink (internalId item.node) (internalId a) (internalId r))).ports :=
          LinkedNetwork.exists_mem_step (by simp) hp
        obtain ⟨_, hport⟩ := hkept
        rw [Simulator.network_call]
        exact ⟨_, hport, hadapter⟩)
  rw [Scene.plugged_of_all h.consistent fun c hshown => (h.connections.mem_iff c).mpr hshown]
    at hmirrors
  exact ⟨t, hdone, hmirrors⟩

/-- The new simulator mirrors what is drawn. -/
theorem simulate_eq (h : l.Complete) (hd : l.scene.drawing.Sound) (hproper : l.scene.drawing.Proper)
    (md5 : List Byte → Digest) (now : TimePoint) :
    ∃ t, l.simulate md5 now = some t ∧ Mirrors l.scene.drawing t := by
  have hblank := Mirrors.empty.reserve (Nat.zero_le _) (Nat.zero_le _) (Nat.zero_le _) hd.nodes_le
    hd.routers_le hd.adapters_le
  obtain ⟨s₁, hrouters, hmirrors, hs₁⟩ := simulateRouters h hblank .empty
  obtain ⟨s₂, hnodes, hmirrors, hs₂⟩ := simulateNodes h hmirrors hs₁
  obtain ⟨s₃, hadapters, hmirrors⟩ := simulateAdapters h hd hproper hmirrors hs₂
  have hports : ∀ a drawn, l.scene.drawing.adapters a = some drawn → drawn.router.isSome →
      ∃ p ∈ (s₃.update md5 now).network.ports, p.adapter = internalId a := by
    intro a drawn ha hsome
    obtain ⟨item, hitem, rfl⟩ := Option.map_eq_some_iff.mp ha
    exact ports_of_update hmirrors md5 now (Scene.plugged_nil hitem)
      (hproper.listens a (l.scene.drawn item) ha hsome)
  obtain ⟨s₄, hconnections, hmirrors⟩ :=
    simulateConnections h hd hproper (hmirrors.update md5 now) hports
  exact ⟨s₄, by simp [simulate, hrouters, hnodes, hadapters, hconnections], hmirrors⟩

end LoadedItems

-- ---------------------------------------------------------------------------
-- The same network
-- ---------------------------------------------------------------------------

namespace Drawing.Renumbers

variable {d d' : Drawing} {ρ : Renumbering} {a b : ItemNumber} {drawn other : Drawn}

theorem adapter (h : d.Renumbers ρ d') (ha : d.adapters a = some drawn) :
    d'.adapters (ρ .adapter a) = some (drawn.renumber ρ) :=
  (h.adapters.iff _ _).mpr ⟨a, rfl, by rw [Function.comp_apply, ha, Option.map_some]⟩

/-- Who hears whom does not depend on the numbers. -/
theorem heardBy_iff (h : d.Renumbers ρ d') (hd : d.Sound) (ha : d.adapters a = some drawn)
    (hb : d.adapters b = some other) :
    (drawn.renumber ρ).HeardBy (other.renumber ρ) ↔ drawn.HeardBy other := by
  have hnodes : (other.renumber ρ).node = (drawn.renumber ρ).node ↔ other.node = drawn.node :=
    ⟨h.nodes.inj _ _ (hd.node b other hb) (hd.node a drawn ha), congrArg (ρ .node)⟩
  have hrouters : (other.renumber ρ).router = (drawn.renumber ρ).router ↔
      other.router = drawn.router := by
    constructor
    · intro hsame
      cases hr : drawn.router with
      | none =>
        rw [Drawn.renumber, Drawn.renumber, hr, Option.map_none, Option.map_eq_none_iff] at hsame
        exact hsame
      | some r =>
        rw [Drawn.renumber, Drawn.renumber, hr, Option.map_some] at hsame
        obtain ⟨r', hr', heq⟩ := Option.map_eq_some_iff.mp hsame
        rw [hr', h.routers.inj r' r (hd.router b other r' hb hr') (hd.router a drawn r ha hr) heq]
    · exact congrArg (Option.map (ρ .router))
  rw [Drawn.HeardBy, Drawn.HeardBy, Ne, hnodes, hrouters, Drawn.renumber, Option.isSome_map]

end Drawing.Renumbers

/-- What is received at a node under its new number. -/
def Reception.renumber (ρ : Renumbering) (reception : Reception) : Reception :=
  { reception with
    client := { reception.client with
      identifier := internalId (ρ .node reception.client.identifier.toNat) } }

theorem Reception.renumber_drawnClient (ρ : Renumbering) {n : ItemNumber} (hn : n < 2 ^ 32)
    (x : Address) (data : List Byte) (sender : Address) :
    Reception.renumber ρ ⟨drawnClient n x, data, sender⟩ =
      ⟨drawnClient (ρ .node n) x, data, sender⟩ := by
  simp [Reception.renumber, drawnClient, toNat_internalId hn]

/-- Where the same is drawn under other numbers the same is received. -/
theorem Mirrors.dataSent_renumber {d d' : Drawing} {s s' : Simulator} {ρ : Renumbering}
    (h : Mirrors d s) (h' : Mirrors d' s') (hρ : d.Renumbers ρ d')
    (ha : d.adapters a = some drawn) {address : Address}
    (haddress : address ∈ drawn.adapter.listenAddresses) (data : List Byte) :
    (s'.trafficManager.dataSent (internalId (ρ .node drawn.node))
      (drawnClient (ρ .node drawn.node) address).info data).Perm
    ((s.trafficManager.dataSent (internalId drawn.node) (drawnClient drawn.node address).info
      data).map (Reception.renumber ρ)) := by
  obtain ⟨hnodup, hmem⟩ := h.dataSent ha haddress data
  obtain ⟨hnodup', hmem'⟩ := h'.dataSent (hρ.adapter ha) haddress data
  have hrenumber : ∀ {b other x}, d.adapters b = some other →
      Reception.renumber ρ ⟨drawnClient other.node x, data, address⟩ =
        ⟨drawnClient (ρ .node other.node) x, data, address⟩ := fun hb =>
    Reception.renumber_drawnClient ρ (h.sound.node_lt (h.sound.node _ _ hb)) _ data address
  have hinj : ∀ reception ∈ s.trafficManager.dataSent (internalId drawn.node)
        (drawnClient drawn.node address).info data,
      ∀ reception' ∈ s.trafficManager.dataSent (internalId drawn.node)
        (drawnClient drawn.node address).info data,
      reception.renumber ρ = reception'.renumber ρ → reception = reception' := by
    intro reception hreception reception' hreception' hsame
    obtain ⟨b, other, x, hb, -, -, rfl⟩ := (hmem _).mp hreception
    obtain ⟨b', other', x', hb', -, -, rfl⟩ := (hmem _).mp hreception'
    rw [hrenumber hb, hrenumber hb', Reception.mk.injEq, drawnClient, drawnClient,
      SimulatorUdpClient.mk.injEq] at hsame
    obtain ⟨⟨hid, hinfo⟩, -⟩ := hsame
    have hnode : other.node = other'.node := by
      refine hρ.nodes.inj _ _ (h.sound.node b other hb) (h.sound.node b' other' hb') ?_
      exact internalId_inj (h'.sound.node_lt (h'.sound.node _ _ (hρ.adapter hb)))
        (h'.sound.node_lt (h'.sound.node _ _ (hρ.adapter hb'))) hid
    rw [drawnClient, drawnClient, hnode, hinfo]
  refine (List.perm_ext_iff_of_nodup hnodup' (hnodup.map_on hinj)).mpr fun reception => ?_
  rw [List.mem_map]
  constructor
  · intro hreception
    obtain ⟨k, _, x, hk, hhears, hx, rfl⟩ := (hmem' reception).mp hreception
    obtain ⟨b, other, hb, rfl, rfl⟩ := hρ.exists_adapter hk
    exact ⟨_, (hmem _).mpr ⟨b, other, x, hb, (hρ.heardBy_iff h.sound ha hb).mp hhears, hx, rfl⟩,
      hrenumber hb⟩
  · rintro ⟨_, hreception, rfl⟩
    obtain ⟨b, other, x, hb, hhears, hx, rfl⟩ := (hmem _).mp hreception
    rw [hrenumber hb]
    exact (hmem' _).mpr ⟨_, _, x, hρ.adapter hb, (hρ.heardBy_iff h.sound ha hb).mpr hhears, hx, rfl⟩

-- ---------------------------------------------------------------------------
-- Sessions
-- ---------------------------------------------------------------------------

/-- There are internal ids left for the items. -/
structure Scene.Room (t : Scene) (items : List Item) : Prop where
  nodes : t.nextNode + (ItemKind.node.numbers items).length ≤ 2 ^ 32
  routers : t.nextRouter + (ItemKind.router.numbers items).length ≤ 2 ^ 32
  adapters : t.nextAdapter + (ItemKind.adapter.numbers items).length ≤ 2 ^ 32

namespace SceneEditor

variable {J : Type} [JsonLibrary J] {makeAddress : String → Option Address}
  {md5 : List Byte → Digest} {e f t : SceneEditor} {items : List Item}

/-- What comes of edits that are allowed and of scenes that were saved before. -/
inductive Reached (J : Type) [JsonLibrary J] (makeAddress : String → Option Address)
    (md5 : List Byte → Digest) : SceneEditor → Prop
  | new : Reached J makeAddress md5 {}
  | edit {e t : SceneEditor} {call : EditorCall} (he : Reached J makeAddress md5 e)
    (hallows : e.board.Allows call) (hstep : e.step md5 call = some t) :
    Reached J makeAddress md5 t
  | load {e f t : SceneEditor} {items : List Item} {text : String} {now : TimePoint}
    (he : Reached J makeAddress md5 e) (hitems : e.scene.Lists items)
    (hids : e.scene.nextConnection ≤ 2 ^ 32) (hsaved : e.scene.serialize J items = some text)
    (hf : Reached J makeAddress md5 f) (hroom : f.scene.Room items)
    (hload : f.load J makeAddress md5 now text = some t) : Reached J makeAddress md5 t

/-- What is drawn makes sense and is simulated. -/
structure Faithful (e : SceneEditor) : Prop where
  consistent : e.scene.Consistent
  mirrored : Mirrors e.scene.drawing e.simulator

theorem Faithful.hasIds (he : e.Faithful) (hids : e.scene.nextConnection ≤ 2 ^ 32) :
    e.scene.HasIds :=
  ⟨he.mirrored.sound.nodes_le, he.mirrored.sound.routers_le, he.mirrored.sound.adapters_le, hids⟩

theorem Faithful.step (he : e.Faithful) {call : EditorCall} (hallows : e.board.Allows call) :
    ∃ t, e.step md5 call = some t ∧ t.Faithful ∧ t.board = e.board.step md5 call := by
  obtain ⟨t, hstep, ht, hboard⟩ := step_eq md5 he.consistent hallows.shows
  refine ⟨t, hstep, ⟨ht, ?_⟩, hboard⟩
  have hmirrored : (e.board.step md5 call).Mirrored :=
    Board.Mirrored.step (b := e.board) he.mirrored md5 hallows
  rw [← hboard] at hmirrored
  exact hmirrored

section
variable [LawfulJson J] (hmake : ∀ address, makeAddress address.toString = some address)
include hmake

theorem Faithful.load (he : e.Faithful) (hitems : e.scene.Lists items)
    (hids : e.scene.nextConnection ≤ 2 ^ 32) (f : SceneEditor) (hroom : f.scene.Room items)
    (md5 : List Byte → Digest) (now : TimePoint) :
    ∃ text t, e.scene.serialize J items = some text ∧
      f.load J makeAddress md5 now text = some t ∧ t.Faithful ∧
      e.scene.drawing.Renumbers (f.scene.renumbering items) t.scene.drawing := by
  obtain ⟨l, hload, hl, hrenumbers, hn, hr, ha⟩ :=
    Scene.loadItems_saved he.consistent hitems (he.hasIds hids) f.scene
  have hsound := hl.consistent.sound (hn.trans_le hroom.nodes) (hr.trans_le hroom.routers)
    (ha.trans_le hroom.adapters)
  obtain ⟨simulator, hdone, hmirrors⟩ := LoadedItems.simulate_eq hl hsound
    (hrenumbers.proper he.mirrored.sound he.mirrored.proper) md5 now
  have hparse := LawfulJson.parse_dump (SavedScene.made_serialize (J := J) (e.scene.saved items)) 4
  refine ⟨_, { f with scene := l.scene, simulator }, Scene.serialize_eq J he.consistent hitems, ?_,
    ⟨hl.consistent, hmirrors⟩, hrenumbers⟩
  simp [SceneEditor.load, hparse, SavedScene.deserialize_serialize hmake, hload, hdone]

theorem Reached.faithful (h : Reached J makeAddress md5 e) : e.Faithful := by
  induction h with
  | new => exact ⟨Scene.consistent_empty, .empty⟩
  | edit _ hallows hstep ih =>
    obtain ⟨t, hdone, ht, -⟩ := ih.step hallows
    rwa [← Option.some.inj (hdone.symm.trans hstep)]
  | @load _ f _ _ _ now _ hitems hids hsaved _ hroom hload ih _ =>
    obtain ⟨text, t, hdone, hloaded, ht, -⟩ :=
      ih.load (J := J) hmake hitems hids f hroom md5 now
    obtain rfl := Option.some.inj (hdone.symm.trans hsaved)
    rwa [← Option.some.inj (hloaded.symm.trans hload)]

theorem Reached.run (he : Reached J makeAddress md5 e) {calls : List EditorCall}
    (h : Throughout (Board.step md5) Board.Allows e.board calls) :
    ∃ t, calls.foldlM (step md5) e = some t ∧ Reached J makeAddress md5 t := by
  obtain ⟨t, hdone, ht, -⟩ := Throughout.total (f := board) h he fun e call he hallows => by
    obtain ⟨t, hstep, -, hboard⟩ := (he.faithful hmake).step hallows
    exact ⟨t, hstep, .edit he hallows hstep, hboard⟩
  exact ⟨t, hdone, ht⟩

end

/-- However edits that are allowed and scenes that are saved and loaded follow
one another: the next edit follows no pointer to an item that is gone, and what
an adapter that is drawn sends is received, once each, by the clients of the
adapters of other nodes that are drawn on its router, and by nobody else. -/
theorem sessions_are_simulated (J : Type) [JsonLibrary J] [LawfulJson J]
    (makeAddress : String → Option Address)
    (hmake : ∀ address, makeAddress address.toString = some address) (md5 : List Byte → Digest)
    {e : SceneEditor} (he : Reached J makeAddress md5 e) :
    e.scene.Consistent ∧
    (∀ call, e.board.Allows call →
      ∃ t, e.step md5 call = some t ∧ Reached J makeAddress md5 t) ∧
    ∀ a drawn, e.scene.drawing.adapters a = some drawn →
      ∀ address ∈ drawn.adapter.listenAddresses, ∀ data,
        (e.simulator.trafficManager.dataSent (internalId drawn.node)
          (drawnClient drawn.node address).info data).Nodup ∧
        ∀ reception, reception ∈ e.simulator.trafficManager.dataSent (internalId drawn.node)
            (drawnClient drawn.node address).info data ↔
          ∃ b other x, e.scene.drawing.adapters b = some other ∧ drawn.HeardBy other ∧
            x ∈ other.adapter.listenAddresses ∧
            reception = ⟨drawnClient other.node x, data, address⟩ := by
  have hfaithful := he.faithful hmake
  refine ⟨hfaithful.consistent, fun call hallows => ?_, fun a drawn ha address haddress data => ?_⟩
  · obtain ⟨t, hstep, -⟩ := hfaithful.step hallows
    exact ⟨t, hstep, .edit he hallows hstep⟩
  · exact hfaithful.mirrored.dataSent ha haddress data

/-- A scene that comes of a session is saved without following a pointer to an
item that is gone, and loaded into any editor that has internal ids left. The
same is drawn then under the numbers that the items got in the order in which
they were listed, and what is sent is received as before. -/
theorem load_serialize (J : Type) [JsonLibrary J] [LawfulJson J]
    (makeAddress : String → Option Address)
    (hmake : ∀ address, makeAddress address.toString = some address) (md5 : List Byte → Digest)
    {e : SceneEditor} (he : Reached J makeAddress md5 e) {items : List Item}
    (hitems : e.scene.Lists items) (hids : e.scene.nextConnection ≤ 2 ^ 32) (f : SceneEditor)
    (hroom : f.scene.Room items) (now : TimePoint) :
    ∃ text t, e.scene.serialize J items = some text ∧
      f.load J makeAddress md5 now text = some t ∧ t.scene.Consistent ∧
      e.scene.drawing.Renumbers (f.scene.renumbering items) t.scene.drawing ∧
      ∀ a drawn, e.scene.drawing.adapters a = some drawn →
        ∀ address ∈ drawn.adapter.listenAddresses, ∀ data,
          (t.simulator.trafficManager.dataSent
            (internalId (f.scene.renumbering items .node drawn.node))
            (drawnClient (f.scene.renumbering items .node drawn.node) address).info data).Perm
          ((e.simulator.trafficManager.dataSent (internalId drawn.node)
            (drawnClient drawn.node address).info data).map
              (Reception.renumber (f.scene.renumbering items))) := by
  have hfaithful := he.faithful hmake
  obtain ⟨text, t, hsaved, hload, ht, hrenumbers⟩ :=
    hfaithful.load (J := J) hmake hitems hids f hroom md5 now
  refine ⟨text, t, hsaved, hload, ht.consistent, hrenumbers,
    fun a drawn ha address haddress data => ?_⟩
  exact hfaithful.mirrored.dataSent_renumber ht.mirrored hrenumbers ha haddress data

-- ---------------------------------------------------------------------------
-- A session
-- ---------------------------------------------------------------------------

def digitValue (digit : Char) : Nat := digit.toNat - '0'.toNat

/-- A number below 256 in at most three digits, without a leading zero. -/
def readOctet (digits : List Char) : Option Nat :=
  let value := digits.foldl (fun n digit => 10 * n + digitValue digit) 0
  if digits ≠ [] ∧ digits.length ≤ 3 ∧ digits.all Char.isDigit ∧ value < 256 ∧
      (digits.head? = some '0' → digits.length = 1) then some value else none

/-- The address that is written in dotted decimals. -/
def readAddress (text : String) : Option Address :=
  match text.toList.splitOn '.' with
  | [a, b, c, d] => do
    let a ← readOctet a
    let b ← readOctet b
    let c ← readOctet c
    let d ← readOctet d
    return ⟨.ofNat (((a * 256 + b) * 256 + c) * 256 + d)⟩
  | _ => none

theorem readOctet_toString (h : n < 256) : readOctet (toString n).toList = some n := by
  have hall : ∀ n : Fin 256, readOctet (Nat.toDigits 10 n.val) = some n.val := by decide +kernel
  rw [Nat.toString_eq_repr, Nat.toList_repr]
  exact hall ⟨n, h⟩

theorem dot_not_mem_of_readOctet {digits : List Char} (h : readOctet digits = some n) :
    '.' ∉ digits := by
  rw [readOctet, Option.ite_none_right_eq_some] at h
  intro hdot
  have hdigit := List.all_eq_true.mp h.1.2.2.1 '.' hdot
  contradiction

theorem splitOn_dotted (ha : a < 256) (hb : b < 256) (hc : c < 256) (hd : d < 256) :
    (s!"{a}.{b}.{c}.{d}").toList.splitOn '.' =
      [(toString a).toList, (toString b).toList, (toString c).toList, (toString d).toList] := by
  have hpieces : ∀ piece ∈
      [(toString a).toList, (toString b).toList, (toString c).toList, (toString d).toList],
      '.' ∉ piece := by
    simp only [List.forall_mem_cons]
    exact ⟨dot_not_mem_of_readOctet (readOctet_toString ha),
      dot_not_mem_of_readOctet (readOctet_toString hb),
      dot_not_mem_of_readOctet (readOctet_toString hc),
      dot_not_mem_of_readOctet (readOctet_toString hd), by simp⟩
  have hdot : (toString ".").toList = ['.'] := by decide
  rw [← List.splitOn_intercalate '.' hpieces (by simp)]
  refine congrArg (List.splitOn '.') ?_
  simp [List.intercalate, hdot]

theorem readAddress_toString (address : Address) :
    readAddress address.toString = some address := by
  obtain ⟨value⟩ := address
  have hlt := value.toNat_lt
  have ha : value.toNat / 2 ^ 24 < 256 := by omega
  have hb : value.toNat / 2 ^ 16 % 2 ^ 8 < 256 := by omega
  have hc : value.toNat / 2 ^ 8 % 2 ^ 8 < 256 := by omega
  have hd : value.toNat % 2 ^ 8 < 256 := by omega
  have hvalue : ((value.toNat / 2 ^ 24 * 256 + value.toNat / 2 ^ 16 % 2 ^ 8) * 256 +
      value.toNat / 2 ^ 8 % 2 ^ 8) * 256 + value.toNat % 2 ^ 8 = value.toNat := by omega
  rw [readAddress, Address.toString, splitOn_dotted ha hb hc hd]
  simp only [readOctet_toString ha, readOctet_toString hb, readOctet_toString hc,
    readOctet_toString hd, Option.bind_eq_bind, Option.bind_some, hvalue, UInt32.ofNat_toNat]
  rfl

/-- The editor in which two nodes were drawn. -/
def drawnEditor : SceneEditor := (drawnPair.foldlM (step drawnDigests) {}).getD {}

theorem reached_drawnEditor : Reached Json readAddress drawnDigests drawnEditor := by
  have hrun : Throughout (Board.step drawnDigests) Board.Allows {} drawnPair := by
    decide +kernel
  obtain ⟨t, hdone, ht⟩ := Reached.run (J := Json) readAddress_toString .new hrun
  rwa [drawnEditor, hdone]

/-- The items that were drawn, the last ones first. -/
def drawnItems : List Item :=
  [⟨.connection, 1⟩, ⟨.connection, 0⟩, ⟨.adapter, 1⟩, ⟨.adapter, 0⟩, ⟨.router, 0⟩, ⟨.node, 1⟩,
    ⟨.node, 0⟩]

theorem lists_drawnItems : drawnEditor.scene.Lists drawnItems := by
  refine (reached_drawnEditor.faithful readAddress_toString).consistent.lists (by decide)
    (by decide +kernel) ?_
  rintro (_ | _ | _ | _) <;> decide +kernel

theorem sessions_are_simulated_pair :
    drawnEditor.scene.Consistent ∧
    (∀ call, drawnEditor.board.Allows call →
      ∃ t, drawnEditor.step drawnDigests call = some t ∧
        Reached Json readAddress drawnDigests t) ∧
    ∀ a drawn, drawnEditor.scene.drawing.adapters a = some drawn →
      ∀ address ∈ drawn.adapter.listenAddresses, ∀ data,
        (drawnEditor.simulator.trafficManager.dataSent (internalId drawn.node)
          (drawnClient drawn.node address).info data).Nodup ∧
        ∀ reception, reception ∈ drawnEditor.simulator.trafficManager.dataSent
            (internalId drawn.node) (drawnClient drawn.node address).info data ↔
          ∃ b other x, drawnEditor.scene.drawing.adapters b = some other ∧ drawn.HeardBy other ∧
            x ∈ other.adapter.listenAddresses ∧
            reception = ⟨drawnClient other.node x, data, address⟩ :=
  sessions_are_simulated Json readAddress readAddress_toString drawnDigests reached_drawnEditor

theorem load_serialize_pair :
    ∃ text t, drawnEditor.scene.serialize Json drawnItems = some text ∧
      drawnEditor.load Json readAddress drawnDigests 9 text = some t ∧ t.scene.Consistent ∧
      drawnEditor.scene.drawing.Renumbers (drawnEditor.scene.renumbering drawnItems)
        t.scene.drawing ∧
      ∀ a drawn, drawnEditor.scene.drawing.adapters a = some drawn →
        ∀ address ∈ drawn.adapter.listenAddresses, ∀ data,
          (t.simulator.trafficManager.dataSent
            (internalId (drawnEditor.scene.renumbering drawnItems .node drawn.node))
            (drawnClient (drawnEditor.scene.renumbering drawnItems .node drawn.node)
              address).info data).Perm
          ((drawnEditor.simulator.trafficManager.dataSent (internalId drawn.node)
            (drawnClient drawn.node address).info data).map
              (Reception.renumber (drawnEditor.scene.renumbering drawnItems))) :=
  load_serialize Json readAddress readAddress_toString drawnDigests reached_drawnEditor
    lists_drawnItems (by decide +kernel) drawnEditor
    ⟨by decide +kernel, by decide +kernel, by decide +kernel⟩ 9

/-- The first node gets a number after the second. -/
example : ((drawnItems.foldlM drawnEditor.scene.serializeItem {}).bind fun saved =>
      (saved.loadItems drawnEditor.scene.clear).bind fun loaded =>
        (loaded.simulate drawnDigests 9).map fun simulator =>
          (loaded.scene.drawing.adapters 2,
            simulator.trafficManager.dataSent 3 (drawnClient 3 ⟨1⟩).info [7])) =
    some (some ⟨2, lanAdapter "b" 2, some 1⟩, [⟨drawnClient 2 ⟨2⟩, [7], ⟨1⟩⟩]) := by
  decide +kernel

end SceneEditor

end Discnet.Sim
