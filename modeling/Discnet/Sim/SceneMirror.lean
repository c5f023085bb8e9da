import Discnet.Sim.SceneEditor

/-!
# What is drawn is what is simulated

As long as an adapter is connected after its client was made and the adapters
of a node are connected to different routers, the simulated network is the one
that is drawn: what an adapter sends reaches the adapters of the other nodes
that are drawn on its router.
-/

namespace Discnet.Sim

open Function Lib Network Network.Messages Std

-- ---------------------------------------------------------------------------
-- Internal ids
-- ---------------------------------------------------------------------------

theorem toNat_internalId {n : ItemNumber} (h : n < 2 ^ 32) : (internalId n).toNat = n := by
  rw [internalId, UInt32.toNat_ofNat', Nat.mod_eq_of_lt h]

@[simp] theorem internalId_toNat (id : UInt32) : internalId id.toNat = id := UInt32.ofNat_toNat

theorem internalId_inj {n k : ItemNumber} (hn : n < 2 ^ 32) (hk : k < 2 ^ 32)
    (h : internalId n = internalId k) : n = k := by
  rw [← toNat_internalId hn, h, toNat_internalId hk]

theorem eq_internalId_iff {n : ItemNumber} (h : n < 2 ^ 32) (id : UInt32) :
    id = internalId n ↔ id.toNat = n := by
  constructor
  · rintro rfl
    exact toNat_internalId h
  · rintro rfl
    exact (internalId_toNat id).symm

-- ---------------------------------------------------------------------------
-- Drawings
-- ---------------------------------------------------------------------------

namespace Drawing

@[simp] theorem node_unplug (r : ItemNumber) (drawn : Drawn) :
    (unplug r drawn).node = drawn.node := by
  rw [unplug]
  split_ifs <;> rfl

@[simp] theorem adapter_unplug (r : ItemNumber) (drawn : Drawn) :
    (unplug r drawn).adapter = drawn.adapter := by
  rw [unplug]
  split_ifs <;> rfl

theorem router_unplug (r : ItemNumber) (drawn : Drawn) :
    (unplug r drawn).router = if drawn.router = some r then none else drawn.router := by
  rw [unplug]
  split_ifs <;> rfl

/-- There is an internal id left for another item. -/
def Room (d : Drawing) : SceneCall → Prop
  | .addNode _ => d.nextNode < 2 ^ 32
  | .addRouter _ => d.nextRouter < 2 ^ 32
  | .addAdapter .. => d.nextAdapter < 2 ^ 32
  | _ => True

/-- Numbers are set aside. -/
def reserve (n r a : ItemNumber) (d : Drawing) : Drawing :=
  { d with nextNode := n, nextRouter := r, nextAdapter := a }

/-- The nodes and routers of the adapters are drawn, and the numbers of all
items can be told apart by their internal ids. -/
structure Sound (d : Drawing) : Prop where
  nodesBelow : Below d.nodes d.nextNode
  routersBelow : Below d.routers d.nextRouter
  adaptersBelow : Below d.adapters d.nextAdapter
  nodes_le : d.nextNode ≤ 2 ^ 32
  routers_le : d.nextRouter ≤ 2 ^ 32
  adapters_le : d.nextAdapter ≤ 2 ^ 32
  node : ∀ a drawn, d.adapters a = some drawn → (d.nodes drawn.node).isSome
  router : ∀ a drawn r, d.adapters a = some drawn → drawn.router = some r →
    (d.routers r).isSome

namespace Sound

variable {d : Drawing} {n a r : ItemNumber} {drawn : Drawn}

theorem empty : Sound {} := by
  constructor
  case nodesBelow => exact .empty
  case routersBelow => exact .empty
  case adaptersBelow => exact .empty
  case node => simp
  case router => simp
  all_goals simp

theorem node_lt (hd : d.Sound) (h : (d.nodes n).isSome) : n < 2 ^ 32 := by
  obtain ⟨_, hn⟩ := Option.isSome_iff_exists.mp h
  exact (hd.nodesBelow.lt hn).trans_le hd.nodes_le

theorem router_lt (hd : d.Sound) (h : (d.routers r).isSome) : r < 2 ^ 32 := by
  obtain ⟨_, hr⟩ := Option.isSome_iff_exists.mp h
  exact (hd.routersBelow.lt hr).trans_le hd.routers_le

theorem adapter_lt (hd : d.Sound) (h : d.adapters a = some drawn) : a < 2 ^ 32 :=
  (hd.adaptersBelow.lt h).trans_le hd.adapters_le

theorem reserve (hd : d.Sound) (hn : d.nextNode ≤ n) (hr : d.nextRouter ≤ r)
    (ha : d.nextAdapter ≤ a) (hn' : n ≤ 2 ^ 32) (hr' : r ≤ 2 ^ 32) (ha' : a ≤ 2 ^ 32) :
    (d.reserve n r a).Sound :=
  { hd with
    nodesBelow := hd.nodesBelow.mono hn
    routersBelow := hd.routersBelow.mono hr
    adaptersBelow := hd.adaptersBelow.mono ha
    nodes_le := hn'
    routers_le := hr'
    adapters_le := ha' }

theorem drawNode (hd : d.Sound) (hn : n < d.nextNode) (nodeId : UInt16) :
    Sound { d with nodes := update d.nodes n (some nodeId) } := by
  refine { hd with nodesBelow := hd.nodesBelow.set hn _, node := ?_ }
  intro a drawn ha
  simp only [update_apply]
  split_ifs
  · rfl
  · exact hd.node a drawn ha

theorem drawRouter (hd : d.Sound) (hr : r < d.nextRouter) (name : String) :
    Sound { d with routers := update d.routers r (some name) } := by
  refine { hd with routersBelow := hd.routersBelow.set hr _, router := ?_ }
  intro a drawn r' ha hr'
  simp only [update_apply]
  split_ifs
  · rfl
  · exact hd.router a drawn r' ha hr'

theorem drawAdapter (hd : d.Sound) (ha : a < d.nextAdapter) (hn : (d.nodes drawn.node).isSome)
    (hr : ∀ r, drawn.router = some r → (d.routers r).isSome) :
    Sound { d with adapters := update d.adapters a (some drawn) } := by
  refine { hd with adaptersBelow := hd.adaptersBelow.set ha _, node := ?_, router := ?_ }
  · intro b other hb
    simp only [update_apply] at hb
    split_ifs at hb
    · obtain rfl := Option.some.inj hb
      exact hn
    · exact hd.node b other hb
  · intro b other r hb hrouter
    simp only [update_apply] at hb
    split_ifs at hb
    · obtain rfl := Option.some.inj hb
      exact hr r hrouter
    · exact hd.router b other r hb hrouter

theorem step (hd : d.Sound) {call : SceneCall} (hshows : d.Shows call) (hroom : d.Room call) :
    (d.step call).Sound := by
  cases call with
  | addNode nodeId =>
    have hmore := hd.reserve (Nat.le_succ _) le_rfl le_rfl hroom hd.routers_le hd.adapters_le
    exact hmore.drawNode (Nat.lt_succ_self _) nodeId
  | addRouter name =>
    have hmore := hd.reserve le_rfl (Nat.le_succ _) le_rfl hd.nodes_le hroom hd.adapters_le
    exact hmore.drawRouter (Nat.lt_succ_self _) name
  | addAdapter n adapter =>
    have hmore := hd.reserve le_rfl le_rfl (Nat.le_succ _) hd.nodes_le hd.routers_le hroom
    refine hmore.drawAdapter (Nat.lt_succ_self _) hshows ?_
    intro r hr
    contradiction
  | connect a r =>
    obtain ⟨drawn, ha⟩ := Option.isSome_iff_exists.mp hshows.1
    rw [Drawing.step, ha, Option.map_some]
    refine hd.drawAdapter (hd.adaptersBelow.lt ha) (hd.node a drawn ha) ?_
    rintro r' ⟨⟩
    exact hshows.2
  | removeAdapter a =>
    obtain ⟨drawn, ha⟩ := Option.isSome_iff_exists.mp hshows
    refine { hd with adaptersBelow := hd.adaptersBelow.update ha _, node := ?_, router := ?_ }
    · intro b other hb
      simp only [Drawing.step, update_apply] at hb
      split_ifs at hb
      exact hd.node b other hb
    · intro b other r' hb hr'
      simp only [Drawing.step, update_apply] at hb
      split_ifs at hb
      exact hd.router b other r' hb hr'
  | removeRouter r =>
    obtain ⟨name, hr⟩ := Option.isSome_iff_exists.mp hshows
    refine { hd with
      routersBelow := hd.routersBelow.update hr _
      adaptersBelow := fun k hk => by simp [Drawing.step, hd.adaptersBelow k hk]
      node := ?_
      router := ?_ }
    · intro b other hb
      obtain ⟨drawn, hdrawn, rfl⟩ := Option.map_eq_some_iff.mp hb
      rw [node_unplug]
      exact hd.node b drawn hdrawn
    · intro b other r' hb hr'
      obtain ⟨drawn, hdrawn, rfl⟩ := Option.map_eq_some_iff.mp hb
      rw [router_unplug] at hr'
      split_ifs at hr' with hplug
      have hne : r' ≠ r := by
        rintro rfl
        exact hplug hr'
      simp only [Drawing.step, update_of_ne hne]
      exact hd.router b drawn r' hdrawn hr'
  | removeNode n =>
    obtain ⟨nodeId, hn⟩ := Option.isSome_iff_exists.mp hshows
    refine { hd with
      nodesBelow := hd.nodesBelow.update hn _
      adaptersBelow := fun k hk => by simp [Drawing.step, hd.adaptersBelow k hk]
      node := ?_
      router := ?_ }
    · intro b other hb
      obtain ⟨hother, hne⟩ := Option.filter_eq_some_iff.mp hb
      simp only [Drawing.step, update_of_ne (of_decide_eq_true hne)]
      exact hd.node b other hother
    · intro b other r' hb hr'
      exact hd.router b other r' (Option.filter_eq_some_iff.mp hb).1 hr'

end Sound

end Drawing

/-- Who hears what an adapter sends, as it is drawn: the adapters of the other
nodes on its router. -/
def Drawn.HeardBy (drawn other : Drawn) : Prop :=
  other.node ≠ drawn.node ∧ drawn.router.isSome ∧ other.router = drawn.router

-- ---------------------------------------------------------------------------
-- The mirror
-- ---------------------------------------------------------------------------

/-- The simulator has the nodes, the adapters and the routers that are drawn,
and a port is linked to the router that its adapter is drawn with. -/
structure Mirrors (d : Drawing) (s : Simulator) : Prop where
  tidy : Tidy s
  sound : d.Sound
  configured : ∀ id : NodeIdentifier,
    (s.setup id).map NodeSetup.configuration = (d.nodes id.toNat).map sceneConfiguration
  entries : ∀ id setup, s.setup id = some setup → ∀ entry, entry ∈ setup.entries ↔
    ∃ drawn, d.adapters entry.identifier.toNat = some drawn ∧ internalId drawn.node = id ∧
      drawn.adapter = entry.adapter
  routers : ∀ router, router ∈ s.network.routers ↔ (d.routers router.toNat).isSome
  links : ∀ p ∈ s.network.ports,
    p.router = ((d.adapters p.adapter.toNat).bind Drawn.router).map internalId
  linked : ∀ a drawn, d.adapters a = some drawn → drawn.router.isSome →
    ∃ p ∈ s.network.ports, p.adapter = internalId a
  numbered : ∀ p ∈ s.network.ports, p.adapter.toNat < d.nextAdapter

/-- The address an adapter is told apart by. -/
def firstAddress (adapter : Adapter) : Option Address :=
  (adapter.addressList.map Prod.fst).head?

/-- The client of an adapter that is drawn at the node. -/
def drawnClient (n : ItemNumber) (address : Address) : SimulatorUdpClient :=
  ⟨internalId n, ⟨address, 1337, ⟨0xe0010102⟩⟩⟩

namespace Mirrors

variable {d : Drawing} {s t : Simulator} {a n r : ItemNumber} {drawn : Drawn}

theorem empty : Mirrors {} {} where
  tidy := .empty
  sound := .empty
  configured := by simp [Simulator.setup]
  entries := by simp [Simulator.setup]
  routers := by simp [Simulator.network, Simulator.trace]
  links := by simp [Simulator.network, Simulator.trace]
  linked := by simp
  numbered := by simp [Simulator.network, Simulator.trace]

theorem of_same (h : Mirrors d s) (hsame : SameSetup s t) : Mirrors d t := by
  have hnetwork : t.network = s.network := by
    rw [Simulator.network, Simulator.network, hsame.trace]
  constructor
  case tidy => exact h.tidy.of_same hsame
  case sound => exact h.sound
  case configured => simpa only [hsame.setup] using h.configured
  case entries => simpa only [hsame.setup] using h.entries
  all_goals rw [hnetwork]
  · exact h.routers
  · exact h.links
  · exact h.linked
  · exact h.numbered

/-- The setup of a node that is drawn. -/
theorem exists_setup (h : Mirrors d s) (hn : (d.nodes n).isSome) :
    ∃ setup nodeId, s.setup (internalId n) = some setup ∧
      setup.configuration = sceneConfiguration nodeId := by
  obtain ⟨nodeId, hnode⟩ := Option.isSome_iff_exists.mp hn
  have hconfigured := h.configured (internalId n)
  rw [toNat_internalId (h.sound.node_lt hn), hnode, Option.map_some] at hconfigured
  obtain ⟨setup, hsetup, hconfiguration⟩ := Option.map_eq_some_iff.mp hconfigured
  exact ⟨setup, nodeId, hsetup, hconfiguration⟩

/-- An adapter that is drawn is an adapter of its node. -/
theorem hasAdapter (h : Mirrors d s) (ha : d.adapters a = some drawn) :
    ∃ setup nodeId, s.HasAdapter (internalId drawn.node) setup ⟨internalId a, drawn.adapter⟩ ∧
      setup.configuration = sceneConfiguration nodeId := by
  obtain ⟨setup, nodeId, hsetup, hconfiguration⟩ := h.exists_setup (h.sound.node a drawn ha)
  refine ⟨setup, nodeId, ⟨hsetup, (h.entries _ _ hsetup _).mpr ⟨drawn, ?_, rfl, rfl⟩⟩, ?_⟩
  · rw [toNat_internalId (h.sound.adapter_lt ha), ha]
  · exact hconfiguration

/-- The port of an adapter that is drawn. -/
theorem port (h : Mirrors d s) (ha : d.adapters a = some drawn) {p : Port}
    (hp : p ∈ s.network.ports) (hadapter : p.adapter = internalId a ∨
      some p.address = firstAddress drawn.adapter) :
    p.node = internalId drawn.node ∧ p.adapter = internalId a ∧
      p.router = drawn.router.map internalId ∧
      ∃ address ∈ drawn.adapter.listenAddresses, p.client = drawnClient drawn.node address := by
  obtain ⟨setup, nodeId, hentry, hconfiguration⟩ := h.hasAdapter ha
  obtain ⟨-, address, haddress, router, rfl⟩ := h.tidy.own _ _ _ hentry p hp hadapter
  refine ⟨rfl, rfl, ?_, address, haddress, ?_⟩
  · rw [h.links _ hp]
    change ((d.adapters (internalId a).toNat).bind Drawn.router).map internalId = _
    rw [toNat_internalId (h.sound.adapter_lt ha), ha, Option.bind_some]
  · simp [NodeSetup.port, NodeSetup.client, hconfiguration, sceneConfiguration, drawnClient]

theorem heard_iff (h : Mirrors d s) (ha : d.adapters a = some drawn) {p q : Port}
    (hp : p ∈ s.network.ports) (hadapter : p.adapter = internalId a) :
    q ∈ s.network.hearers p ↔ q ∈ s.network.ports ∧ ∃ b other,
      d.adapters b = some other ∧ drawn.HeardBy other ∧ q.adapter = internalId b := by
  obtain ⟨hnode, -, hrouter, -⟩ := h.port ha hp (.inl hadapter)
  rw [LinkedNetwork.hearers, List.mem_filter, and_congr_right_iff]
  intro hq
  constructor
  · intro hhears
    obtain ⟨hne, hsome, hsame⟩ := of_decide_eq_true hhears
    rw [hrouter] at hsome hsame
    obtain ⟨id, hid⟩ := Option.isSome_iff_exists.mp hsome
    have hlinks := h.links q hq
    rw [hsame, hid] at hlinks
    obtain ⟨r, hr, rfl⟩ := Option.map_eq_some_iff.mp hlinks.symm
    obtain ⟨other, hother, hthere⟩ := Option.bind_eq_some_iff.mp hr
    obtain ⟨hqnode, -⟩ := h.port hother hq (.inl (internalId_toNat q.adapter).symm)
    refine ⟨_, other, hother, ⟨?_, by simpa using hsome, ?_⟩, (internalId_toNat _).symm⟩
    · intro hthis
      rw [hqnode, hnode, hthis] at hne
      exact hne rfl
    · obtain ⟨r', hr', hid'⟩ := Option.map_eq_some_iff.mp hid
      rw [hthere, hr', internalId_inj (h.sound.router_lt (h.sound.router a drawn r' ha hr'))
        (h.sound.router_lt (h.sound.router _ other r hother hthere)) hid']
  · rintro ⟨b, other, hother, ⟨hne, hsome, hsame⟩, hqadapter⟩
    obtain ⟨hqnode, -, hqrouter, -⟩ := h.port hother hq (.inl hqadapter)
    refine decide_eq_true ⟨?_, by rw [hrouter, Option.isSome_map, hsome], by
      rw [hqrouter, hrouter, hsame]⟩
    rw [hqnode, hnode]
    exact fun hid => hne (internalId_inj (h.sound.node_lt (h.sound.node b other hother))
      (h.sound.node_lt (h.sound.node a drawn ha)) hid)

/-- What is sent is received by the clients of those who hear it as drawn. -/
theorem dataSent (h : Mirrors d s) (ha : d.adapters a = some drawn) {address : Address}
    (haddress : address ∈ drawn.adapter.listenAddresses) (data : List Byte) :
    (s.trafficManager.dataSent (internalId drawn.node) (drawnClient drawn.node address).info
      data).Nodup ∧
    ∀ reception, reception ∈ s.trafficManager.dataSent (internalId drawn.node)
        (drawnClient drawn.node address).info data ↔
      ∃ b other x, d.adapters b = some other ∧ drawn.HeardBy other ∧
        x ∈ other.adapter.listenAddresses ∧
        reception = ⟨drawnClient other.node x, data, address⟩ := by
  obtain ⟨hkeeps, hwellFormed, -⟩ := h.tidy.simulates
  have honly : ∀ {adapter : Adapter} {x y : Address}, x ∈ adapter.listenAddresses →
      y ∈ adapter.listenAddresses → x = y := by
    intro adapter x y hx hy
    have hone := adapter.length_listenAddresses
    match hlist : adapter.listenAddresses, hone with
    | [z], _ =>
      rw [hlist, List.mem_singleton] at hx hy
      rw [hx, hy]
    | [], _ => simp [hlist] at hx
  by_cases hport : ∃ p ∈ s.network.ports, p.adapter = internalId a
  · obtain ⟨p, hp, hadapter⟩ := hport
    obtain ⟨hnode, -, -, x, hx, hclient⟩ := h.port ha hp (.inl hadapter)
    obtain rfl := honly hx haddress
    have hinfo : p.address = (drawnClient drawn.node x).info.adapter := by
      rw [Port.address, hclient]
    have hperm := hkeeps.dataSent_perm hwellFormed hp hinfo data
    rw [hnode] at hperm
    constructor
    · rw [hperm.nodup_iff]
      refine ((hwellFormed.adapters.of_map _).filter _).map_on fun q hq q' hq' hsame => ?_
      refine hwellFormed.eq_of_address (List.mem_filter.mp hq).1 (List.mem_filter.mp hq').1 ?_
      rw [Port.address, Port.address, (Reception.mk.inj hsame).1]
    · intro reception
      rw [hperm.mem_iff, List.mem_map]
      constructor
      · rintro ⟨q, hq, rfl⟩
        obtain ⟨hq, b, other, hother, hhears, hqadapter⟩ := (h.heard_iff ha hp hadapter).mp hq
        obtain ⟨-, -, -, y, hy, hqclient⟩ := h.port hother hq (.inl hqadapter)
        exact ⟨b, other, y, hother, hhears, hy, by rw [hqclient]; rfl⟩
      · rintro ⟨b, other, y, hother, hhears, hy, rfl⟩
        obtain ⟨q, hq, hqadapter⟩ := h.linked b other hother (by
          rw [hhears.2.2, hhears.2.1])
        obtain ⟨-, -, -, z, hz, hqclient⟩ := h.port hother hq (.inl hqadapter)
        obtain rfl := honly hz hy
        exact ⟨q, (h.heard_iff ha hp hadapter).mpr ⟨hq, b, other, hother, hhears, hqadapter⟩, by
          rw [hqclient]; rfl⟩
  · have hunlinked : drawn.router.isSome = false := by
      rw [Bool.eq_false_iff]
      exact fun hsome => hport (h.linked a drawn ha hsome)
    have hnil : s.trafficManager.dataSent (internalId drawn.node)
        (drawnClient drawn.node address).info data = [] := by
      refine hkeeps.dataSent_eq_nil (fun p hp _ hsame => hport ⟨p, hp, ?_⟩) data
      have hhead : SimulatorAdapterEntry.address? ⟨internalId a, drawn.adapter⟩ = some address :=
        SimulatorAdapterEntry.address?_of_mem haddress
      exact (h.port ha hp (.inr ((congrArg some hsame).trans hhead.symm))).2.1
    rw [hnil]
    refine ⟨List.nodup_nil, fun reception => ⟨fun hmem => absurd hmem List.not_mem_nil, ?_⟩⟩
    rintro ⟨b, other, x, -, ⟨-, hsome, -⟩, -⟩
    rw [hunlinked] at hsome
    contradiction

end Mirrors

-- ---------------------------------------------------------------------------
-- Edits
-- ---------------------------------------------------------------------------

/-- An adapter whose address nobody has or had, and whose mac is new at its node. -/
structure Unused (d : Drawing) (s : Simulator) (n : ItemNumber) (adapter : Adapter) : Prop where
  addressed : adapter.addressList ≠ []
  drawn : ∀ b < d.nextAdapter, ∀ other ∈ d.adapters b,
    firstAddress other.adapter ≠ firstAddress adapter ∧
      (other.node = n → other.adapter.macAddress ≠ adapter.macAddress)
  ports : ∀ p ∈ s.network.ports, some p.address ≠ firstAddress adapter
  unknown : ∀ setup ∈ s.setup (internalId n), setup.manager.adapters[adapter.macAddress]? = none

instance (d : Drawing) (s : Simulator) (n : ItemNumber) (adapter : Adapter) :
    Decidable (Unused d s n adapter) :=
  decidable_of_iff (adapter.addressList ≠ [] ∧ (∀ b < d.nextAdapter, ∀ other ∈ d.adapters b,
        firstAddress other.adapter ≠ firstAddress adapter ∧
          (other.node = n → other.adapter.macAddress ≠ adapter.macAddress)) ∧
      (∀ p ∈ s.network.ports, some p.address ≠ firstAddress adapter) ∧
      ∀ setup ∈ s.setup (internalId n), setup.manager.adapters[adapter.macAddress]? = none)
    ⟨fun h => ⟨h.1, h.2.1, h.2.2.1, h.2.2.2⟩,
      fun h => ⟨h.addressed, h.drawn, h.ports, h.unknown⟩⟩

namespace Mirrors

variable {d : Drawing} {s t : Simulator} {a n r : ItemNumber} {drawn : Drawn}

theorem reserve (h : Mirrors d s) (hn : d.nextNode ≤ n) (hr : d.nextRouter ≤ r)
    (ha : d.nextAdapter ≤ a) (hn' : n ≤ 2 ^ 32) (hr' : r ≤ 2 ^ 32) (ha' : a ≤ 2 ^ 32) :
    Mirrors (d.reserve n r a) s :=
  { h with
    sound := h.sound.reserve hn hr ha hn' hr' ha'
    numbered := fun p hp => (h.numbered p hp).trans_le ha }

theorem drawNode (h : Mirrors d s) (hn : n < d.nextNode) (hnone : d.nodes n = none)
    (nodeId : UInt16) :
    Mirrors { d with nodes := update d.nodes n (some nodeId) }
      (s.addNode (internalId n) (sceneConfiguration nodeId)) := by
  have hlt : n < 2 ^ 32 := hn.trans_le h.sound.nodes_le
  have hfree : s.setup (internalId n) = none := by
    have hconfigured := h.configured (internalId n)
    rw [toNat_internalId hlt, hnone, Option.map_none, Option.map_eq_none_iff] at hconfigured
    exact hconfigured
  have hsetup : ∀ id, (s.addNode (internalId n) (sceneConfiguration nodeId)).setup id =
      if id = internalId n then some ⟨[], ⟨∅⟩, sceneConfiguration nodeId⟩ else s.setup id := by
    intro id
    rw [Simulator.setup, Option.map_eq_none_iff] at hfree
    rw [Simulator.setup, Simulator.addNode, TreeMap.getElem?_insertIfNew]
    by_cases hid : id = internalId n
    · subst hid
      simp [TreeMap.mem_iff_isSome_getElem?, hfree]
      rfl
    · simp [hid, Ne.symm hid, Simulator.setup]
  constructor
  case tidy => exact h.tidy.addNode _
  case sound => exact h.sound.drawNode hn nodeId
  case configured =>
    intro id
    simp only [hsetup, update_apply, eq_internalId_iff hlt]
    split_ifs
    · rfl
    · exact h.configured id
  case entries =>
    intro id setup hfound entry
    rw [hsetup] at hfound
    split_ifs at hfound with hid
    · obtain rfl := Option.some.inj hfound
      refine ⟨fun hmem => absurd hmem List.not_mem_nil, ?_⟩
      rintro ⟨drawn, hdrawn, hnode, -⟩
      have hshown := h.sound.node _ drawn hdrawn
      have hsame := internalId_inj (h.sound.node_lt hshown) hlt (hnode.trans hid)
      rw [hsame, hnone] at hshown
      contradiction
    · exact h.entries id setup hfound entry
  case routers => exact h.routers
  case links => exact h.links
  case linked => exact h.linked
  case numbered => exact h.numbered

theorem addNode (h : Mirrors d s) (hroom : d.nextNode < 2 ^ 32) (nodeId : UInt16) :
    Mirrors (d.step (.addNode nodeId))
      (s.addNode (internalId d.nextNode) (sceneConfiguration nodeId)) := by
  have hmore := h.reserve (Nat.le_succ _) le_rfl le_rfl hroom h.sound.routers_le h.sound.adapters_le
  exact hmore.drawNode (Nat.lt_succ_self _) (h.sound.nodesBelow _ le_rfl) nodeId

theorem drawRouter (h : Mirrors d s) (hr : r < d.nextRouter) (name : String) :
    Mirrors { d with routers := update d.routers r (some name) }
      (s.call (.addRouter (internalId r))) := by
  have hlt : r < 2 ^ 32 := hr.trans_le h.sound.routers_le
  constructor
  case tidy => exact h.tidy.call (by simp) (by simp) trivial
  case sound => exact h.sound.drawRouter hr name
  case configured => exact h.configured
  case entries => exact h.entries
  case routers =>
    intro router
    have hmem : router ∈ (s.network.step (.addRouter (internalId r))).routers ↔
        router = internalId r ∨ router ∈ s.network.routers := by
      simp only [LinkedNetwork.step]
      split_ifs with hknown
      · exact ⟨.inr, fun hor => hor.elim (fun heq => heq ▸ hknown) id⟩
      · exact List.mem_cons
    rw [Simulator.network_call, hmem, h.routers, eq_internalId_iff hlt]
    simp only [update_apply]
    split_ifs with heq <;> simp [heq]
  case links =>
    rw [Simulator.network_call]
    exact h.links
  case linked =>
    rw [Simulator.network_call]
    exact h.linked
  case numbered =>
    rw [Simulator.network_call]
    exact h.numbered

theorem addRouter (h : Mirrors d s) (hroom : d.nextRouter < 2 ^ 32) (name : String) :
    Mirrors (d.step (.addRouter name)) (s.call (.addRouter (internalId d.nextRouter))) := by
  have hmore := h.reserve le_rfl (Nat.le_succ _) le_rfl h.sound.nodes_le hroom h.sound.adapters_le
  exact hmore.drawRouter (Nat.lt_succ_self _) name

theorem removeRouter (h : Mirrors d s) (hr : (d.routers r).isSome) :
    Mirrors (d.step (.removeRouter r)) (s.call (.removeRouter (internalId r))) := by
  have hlt := h.sound.router_lt hr
  have hdrawn : ∀ b, (d.step (.removeRouter r)).adapters b =
      (d.adapters b).map (Drawing.unplug r) := fun _ => rfl
  constructor
  case tidy => exact h.tidy.call (by simp) (by simp) trivial
  case sound => exact h.sound.step hr trivial
  case configured => exact h.configured
  case entries =>
    intro id setup hsetup entry
    rw [h.entries id setup hsetup entry, hdrawn]
    cases d.adapters entry.identifier.toNat <;> simp
  case routers =>
    intro router
    rw [Simulator.network_call]
    simp only [LinkedNetwork.step, Drawing.step, List.mem_filter, decide_eq_true_eq, h.routers,
      update_apply, ne_eq, eq_internalId_iff hlt]
    split_ifs with heq <;> simp [heq]
  case links =>
    intro p' hp'
    rw [Simulator.network_call] at hp'
    obtain ⟨p, hp, rfl⟩ := List.mem_map.mp hp'
    rw [Port.adapter_unlinkFrom, Port.router_unlinkFrom, hdrawn, h.links p hp]
    cases hb : d.adapters p.adapter.toNat with
    | none => rfl
    | some drawn =>
      cases hrouter : drawn.router with
      | none => simp [Drawing.router_unplug, hrouter]
      | some r' =>
        have hlt' := h.sound.router_lt (h.sound.router _ drawn r' hb hrouter)
        have hsame : internalId r' = internalId r ↔ r' = r :=
          ⟨internalId_inj hlt' hlt, congrArg internalId⟩
        by_cases heq : r' = r <;> simp [Drawing.router_unplug, hrouter, hsame, heq]
  case linked =>
    intro b other hb hsome
    obtain ⟨drawn, hbefore, rfl⟩ := Option.map_eq_some_iff.mp hb
    rw [Drawing.router_unplug] at hsome
    split_ifs at hsome
    · contradiction
    · obtain ⟨p, hp, hadapter⟩ := h.linked b drawn hbefore hsome
      rw [Simulator.network_call]
      exact ⟨_, List.mem_map_of_mem hp, Port.adapter_unlinkFrom.trans hadapter⟩
  case numbered =>
    intro p' hp'
    rw [Simulator.network_call] at hp'
    obtain ⟨p, hp, rfl⟩ := List.mem_map.mp hp'
    rw [Port.adapter_unlinkFrom]
    exact h.numbered p hp

theorem removeNode (h : Mirrors d s) (hn : (d.nodes n).isSome) :
    Mirrors (d.step (.removeNode n)) (s.removeNode (internalId n)) := by
  have hlt := h.sound.node_lt hn
  obtain ⟨setup, -, hsetup, -⟩ := h.exists_setup hn
  obtain ⟨node, hnode, -⟩ := Simulator.exists_of_setup hsetup
  have hremoved : s.removeNode (internalId n) =
      { s.call (.removeNode (internalId n)) with nodes := s.nodes.erase (internalId n) } := by
    rw [Simulator.removeNode, hnode]
  have hnetwork : (s.removeNode (internalId n)).network =
      s.network.step (.removeNode (internalId n)) := by
    rw [hremoved]
    exact s.network_call _
  have hsetups : ∀ id, (s.removeNode (internalId n)).setup id =
      if id = internalId n then none else s.setup id := by
    intro id
    rw [hremoved, Simulator.setup, TreeMap.getElem?_erase]
    by_cases hid : id = internalId n
    · simp [hid]
    · simp [hid, Ne.symm hid, Simulator.setup]
  have hdrawn : ∀ b, (d.step (.removeNode n)).adapters b =
      (d.adapters b).filter (·.node ≠ n) := fun _ => rfl
  constructor
  case tidy => exact h.tidy.removeNode
  case sound => exact h.sound.step hn trivial
  case configured =>
    intro id
    simp only [hsetups, Drawing.step, update_apply, eq_internalId_iff hlt]
    split_ifs
    · rfl
    · exact h.configured id
  case entries =>
    intro id setup hfound entry
    rw [hsetups] at hfound
    split_ifs at hfound with hid
    rw [h.entries id setup hfound entry, hdrawn]
    simp only [Option.filter_eq_some_iff]
    constructor
    · rintro ⟨drawn, hdrawn, hthere, hadapter⟩
      refine ⟨drawn, ⟨hdrawn, decide_eq_true ?_⟩, hthere, hadapter⟩
      rintro rfl
      exact hid hthere.symm
    · rintro ⟨drawn, ⟨hdrawn, -⟩, hthere, hadapter⟩
      exact ⟨drawn, hdrawn, hthere, hadapter⟩
  case routers =>
    rw [hnetwork]
    exact h.routers
  case links =>
    intro p hp
    rw [hnetwork] at hp
    obtain ⟨hp, hne⟩ := List.mem_filter.mp hp
    rw [h.links p hp, hdrawn]
    cases hfound : d.adapters p.adapter.toNat with
    | none => rfl
    | some drawn =>
      obtain ⟨hthere, -⟩ := h.port hfound hp (.inl (internalId_toNat _).symm)
      have hkept : drawn.node ≠ n := by
        rintro rfl
        exact of_decide_eq_true hne hthere
      simp [Option.filter, hkept]
  case linked =>
    intro b other hb hsome
    obtain ⟨hother, hkept⟩ := Option.filter_eq_some_iff.mp hb
    obtain ⟨p, hp, hadapter⟩ := h.linked b other hother hsome
    rw [hnetwork]
    refine ⟨p, List.mem_filter.mpr ⟨hp, decide_eq_true ?_⟩, hadapter⟩
    rw [(h.port hother hp (.inl hadapter)).1]
    exact fun hid => of_decide_eq_true hkept (internalId_inj
      (h.sound.node_lt (h.sound.node b other hother)) hlt hid)
  case numbered =>
    intro p hp
    rw [hnetwork] at hp
    exact h.numbered p (List.mem_filter.mp hp).1

/-- An adapter is drawn with another router, and its port is linked to it. -/
theorem replug (h : Mirrors d s) (ha : d.adapters a = some drawn) (router : Option ItemNumber)
    (ht : Tidy t) (hsetup : ∀ id, t.setup id = s.setup id)
    (hports : t.network.ports = s.network.ports.map
      (Port.relink (internalId drawn.node) (internalId a) (router.map internalId)))
    (hrouters : t.network.routers = s.network.routers)
    (hrouter : ∀ r, router = some r → (d.routers r).isSome)
    (hlinked : router.isSome → ∃ p ∈ s.network.ports, p.adapter = internalId a) :
    Mirrors { d with adapters := update d.adapters a (some { drawn with router := router }) }
      t := by
  have hlt := h.sound.adapter_lt ha
  constructor
  case tidy => exact ht
  case sound =>
    exact h.sound.drawAdapter (h.sound.adaptersBelow.lt ha) (h.sound.node a drawn ha) hrouter
  case configured => simpa only [hsetup] using h.configured
  case entries =>
    intro id setup hfound entry
    rw [h.entries id setup (hsetup id ▸ hfound) entry]
    simp only [update_apply]
    split_ifs with heq
    · simp [heq, ha]
    · rfl
  case routers =>
    rw [hrouters]
    exact h.routers
  case links =>
    intro p' hp'
    rw [hports] at hp'
    obtain ⟨p, hp, rfl⟩ := List.mem_map.mp hp'
    rw [Port.router_relink, Port.adapter_relink]
    simp only [update_apply, eq_internalId_iff hlt]
    by_cases heq : p.adapter.toNat = a
    · have hthere := (h.port ha hp (.inl ((eq_internalId_iff hlt _).mpr heq))).1
      simp [heq, hthere]
    · simp [heq, h.links p hp]
  case linked =>
    intro b other hb hsome
    have hport : ∃ p ∈ s.network.ports, p.adapter = internalId b := by
      simp only [update_apply] at hb
      split_ifs at hb with hba
      · obtain rfl := Option.some.inj hb
        rw [hba]
        exact hlinked hsome
      · exact h.linked b other hb hsome
    obtain ⟨p, hp, hadapter⟩ := hport
    rw [hports]
    exact ⟨_, List.mem_map_of_mem hp, Port.adapter_relink.trans hadapter⟩
  case numbered =>
    intro p' hp'
    rw [hports] at hp'
    obtain ⟨p, hp, rfl⟩ := List.mem_map.mp hp'
    rw [Port.adapter_relink]
    exact h.numbered p hp

theorem removeLink (h : Mirrors d s) (ha : d.adapters a = some drawn) :
    Mirrors { d with adapters := update d.adapters a (some { drawn with router := none }) }
      (s.call (.removeLink (internalId drawn.node) (internalId a))) := by
  refine h.replug ha none (h.tidy.call (by simp) (by simp) trivial) (fun _ => rfl) ?_ ?_ ?_ ?_
  · rw [Simulator.network_call]
    rfl
  · rw [Simulator.network_call]
    rfl
  · simp
  · simp

theorem addLink (h : Mirrors d s) (ha : d.adapters a = some drawn) (hfree : drawn.router = none)
    (hr : (d.routers r).isSome) (hport : ∃ p ∈ s.network.ports, p.adapter = internalId a)
    (halone : ∀ b other, d.adapters b = some other → other.node = drawn.node →
      other.router = some r → b = a) :
    Mirrors { d with adapters := update d.adapters a (some { drawn with router := some r }) }
      (s.call (.addLink (internalId drawn.node) (internalId a) (internalId r))) := by
  have hlt := h.sound.router_lt hr
  have hknown : internalId r ∈ s.network.routers := by
    rw [h.routers, toNat_internalId hlt]
    exact hr
  have hstep : s.network.step (.addLink (internalId drawn.node) (internalId a) (internalId r)) =
      { s.network with
        ports := s.network.ports.map
          (Port.relink (internalId drawn.node) (internalId a) (some (internalId r))) } :=
    if_pos hknown
  have hlinks : s.network.LinksApart
      (.addLink (internalId drawn.node) (internalId a) (internalId r)) := by
    rintro p hp ⟨-, hadapter, -⟩
    constructor
    · have hrouter := (h.port ha hp (.inl hadapter)).2.2.1
      rw [hfree] at hrouter
      exact .inl hrouter
    · rintro q hq ⟨hnode, hrouter⟩
      have hlinked := h.links q hq
      rw [hrouter] at hlinked
      obtain ⟨r', hr', hid⟩ := Option.map_eq_some_iff.mp hlinked.symm
      obtain ⟨other, hother, hthere⟩ := Option.bind_eq_some_iff.mp hr'
      obtain ⟨hqnode, hqadapter, -⟩ := h.port hother hq (.inl (internalId_toNat _).symm)
      have hsame := internalId_inj
        (h.sound.router_lt (h.sound.router _ other r' hother hthere)) hlt hid
      have hnodes := internalId_inj (h.sound.node_lt (h.sound.node _ other hother))
        (h.sound.node_lt (h.sound.node a drawn ha)) (hqnode.symm.trans hnode)
      rw [hqadapter, halone _ other hother hnodes (hthere.trans (congrArg some hsame))]
  refine h.replug ha (some r) (h.tidy.call (by simp) (by simp) hlinks) (fun _ => rfl) ?_ ?_ ?_ ?_
  · rw [Simulator.network_call, hstep]
    rfl
  · rw [Simulator.network_call, hstep]
  · rintro r' ⟨⟩
    exact hr
  · exact fun _ => hport

/-- An adapter is connected, whatever router it was on. -/
theorem connect (h : Mirrors d s) (ha : d.adapters a = some drawn) (hr : (d.routers r).isSome)
    (hport : ∃ p ∈ s.network.ports, p.adapter = internalId a)
    (halone : ∀ b other, d.adapters b = some other → other.node = drawn.node →
      other.router = some r → b = a) :
    Mirrors (d.step (.connect a r)) (Board.relink a r drawn s) := by
  rw [Drawing.step, ha, Option.map_some, Board.relink]
  split_ifs with hlinked
  · have hfree := h.removeLink ha
    obtain ⟨p, hp, hadapter⟩ := hport
    have hkept : Port.relink (internalId drawn.node) (internalId a) none p ∈
        (s.call (.removeLink (internalId drawn.node) (internalId a))).network.ports := by
      rw [Simulator.network_call]
      exact List.mem_map_of_mem hp
    have hplugged := hfree.addLink (a := a) (r := r) (update_self ..) rfl hr
      ⟨_, hkept, Port.adapter_relink.trans hadapter⟩ fun b other hb hnode hrouter => by
        simp only [update_apply] at hb
        split_ifs at hb with hba
        · exact hba
        · exact halone b other hb hnode hrouter
    simpa only [update_idem] using hplugged
  · exact h.addLink ha (by simpa using hlinked) hr hport halone

theorem removeAdapter (h : Mirrors d s) (ha : d.adapters a = some drawn) :
    Mirrors (d.step (.removeAdapter a))
      (s.removeAdapter (internalId drawn.node) (internalId a)) := by
  have hlt := h.sound.adapter_lt ha
  obtain ⟨setup, -, hsetup, -⟩ := h.exists_setup (h.sound.node a drawn ha)
  obtain ⟨node, hnode, -⟩ := Simulator.exists_of_setup hsetup
  have hfree := h.removeLink ha
  have hremoved : s.removeAdapter (internalId drawn.node) (internalId a) =
      (s.call (.removeLink (internalId drawn.node) (internalId a))).modifyNode
        (internalId drawn.node) fun node =>
          { node with adapterFetcher := node.adapterFetcher.removeAdapter (internalId a) } := by
    rw [Simulator.removeAdapter, hnode]
  have hsetups := Simulator.setup_modifyNode
    (s.call (.removeLink (internalId drawn.node) (internalId a))) (internalId drawn.node)
    (f := fun node =>
      { node with adapterFetcher := node.adapterFetcher.removeAdapter (internalId a) })
    (fun entries => entries.filter (·.identifier ≠ internalId a)) fun _ => rfl
  rw [← hremoved] at hsetups
  have hnetwork : (s.removeAdapter (internalId drawn.node) (internalId a)).network =
      (s.call (.removeLink (internalId drawn.node) (internalId a))).network := by
    rw [hremoved]
    rfl
  constructor
  case tidy => exact h.tidy.removeAdapter _
  case sound => exact h.sound.step (by rw [Drawing.Shows, ha]; rfl) trivial
  case configured =>
    intro id
    have hconfigured := h.configured id
    rw [hsetups]
    split_ifs
    · rw [Option.map_map]
      exact hconfigured
    · exact hconfigured
  case entries =>
    intro id setup hfound entry
    simp only [Drawing.step, update_apply]
    rw [hsetups] at hfound
    split_ifs at hfound with hid
    · obtain ⟨before, hbefore, rfl⟩ := Option.map_eq_some_iff.mp hfound
      rw [List.mem_filter, h.entries id before hbefore, decide_eq_true_eq, Ne,
        eq_internalId_iff hlt]
      split_ifs with heq <;> simp [heq]
    · rw [h.entries id setup hfound]
      split_ifs with heq
      · simp [heq, ha, hid]
      · rfl
  case routers =>
    rw [hnetwork]
    exact hfree.routers
  case links =>
    intro p hp
    rw [hnetwork] at hp
    rw [hfree.links p hp]
    simp only [Drawing.step, update_apply]
    split_ifs <;> rfl
  case linked =>
    intro b other hb hsome
    simp only [Drawing.step, update_apply] at hb
    split_ifs at hb with hba
    rw [hnetwork]
    exact hfree.linked b other (by simpa only [update_of_ne hba] using hb) hsome
  case numbered =>
    rw [hnetwork]
    exact hfree.numbered

theorem addsFresh (h : Mirrors d s) {adapter : Adapter} (haddress : adapter.addressList ≠ [])
    (hnone : d.adapters a = none) (ha : a < d.nextAdapter) (hn : (d.nodes n).isSome)
    (hothers : ∀ b other, d.adapters b = some other →
      firstAddress other.adapter ≠ firstAddress adapter ∧
        (other.node = n → other.adapter.macAddress ≠ adapter.macAddress))
    (hports : ∀ p ∈ s.network.ports,
      p.adapter ≠ internalId a ∧ some p.address ≠ firstAddress adapter)
    (hunknown : ∀ setup, s.setup (internalId n) = some setup →
      setup.manager.adapters[adapter.macAddress]? = none) :
    s.AddsFresh (.addAdapter (internalId n) (internalId a) adapter) := by
  have hlt : a < 2 ^ 32 := ha.trans_le h.sound.adapters_le
  have hdrawn : ∀ {id : NodeIdentifier} {node : SimulatedNode}, s.nodes[id]? = some node →
      ∀ entry ∈ node.adapterFetcher.entries, ∃ drawn,
        d.adapters entry.identifier.toNat = some drawn ∧ internalId drawn.node = id ∧
          drawn.adapter = entry.adapter := by
    intro id node hnode entry hentry
    exact (h.entries id node.setup (by rw [Simulator.setup, hnode]; rfl) entry).mp hentry
  refine ⟨haddress, ?_, hports, ?_⟩
  · rintro ⟨id, node⟩ hnode entry hentry
    obtain ⟨drawn, hfound, -, hsame⟩ :=
      hdrawn (TreeMap.mem_toList_iff_getElem?_eq_some.mp hnode) entry hentry
    constructor
    · intro heq
      rw [heq, toNat_internalId hlt, hnone] at hfound
      contradiction
    · have hother := (hothers _ drawn hfound).1
      rwa [hsame] at hother
  · intro node hnode
    refine ⟨hunknown node.setup (by rw [Simulator.setup, hnode]; rfl), ?_⟩
    intro entry hentry
    obtain ⟨drawn, hfound, hthere, hsame⟩ := hdrawn hnode entry hentry
    have hsamenode := internalId_inj (h.sound.node_lt (h.sound.node _ drawn hfound))
      (h.sound.node_lt hn) hthere
    have hother := (hothers _ drawn hfound).2 hsamenode
    rwa [hsame] at hother

theorem drawAdapter (h : Mirrors d s) {adapter : Adapter} (ha : a < d.nextAdapter)
    (hnone : d.adapters a = none) (hn : (d.nodes n).isSome)
    (hfresh : s.AddsFresh (.addAdapter (internalId n) (internalId a) adapter)) :
    Mirrors { d with adapters := update d.adapters a (some { node := n, adapter }) }
      (s.addAdapter (internalId n) (internalId a) adapter) := by
  have hlt : a < 2 ^ 32 := ha.trans_le h.sound.adapters_le
  have hsetups := Simulator.setup_modifyNode s (internalId n)
    (f := fun node => { node with
      adapterFetcher := node.adapterFetcher.addAdapter (internalId a) adapter })
    (fun entries => entries ++ [⟨internalId a, adapter⟩]) fun _ => rfl
  constructor
  case tidy => exact h.tidy.addAdapter hfresh
  case sound => exact h.sound.drawAdapter ha hn (by simp)
  case configured =>
    intro id
    have hconfigured := h.configured id
    rw [Simulator.addAdapter, hsetups]
    split_ifs
    · rw [Option.map_map]
      exact hconfigured
    · exact hconfigured
  case entries =>
    intro id setup hfound entry
    simp only [update_apply]
    rw [Simulator.addAdapter, hsetups] at hfound
    split_ifs at hfound with hid
    · obtain ⟨before, hbefore, rfl⟩ := Option.map_eq_some_iff.mp hfound
      obtain ⟨identifier, known⟩ := entry
      rw [List.mem_append, h.entries id before hbefore, List.mem_singleton,
        SimulatorAdapterEntry.mk.injEq, eq_internalId_iff hlt]
      dsimp only
      split_ifs with heq
      · simp [heq, hnone, hid, eq_comm]
      · simp [heq]
    · rw [h.entries id setup hfound]
      split_ifs with heq
      · simp [heq, hnone, hid]
      · rfl
  case routers => exact h.routers
  case links =>
    intro p hp
    rw [h.links p hp]
    simp only [update_apply]
    split_ifs with heq
    · rw [heq, hnone]
      rfl
    · rfl
  case linked =>
    intro b other hb hsome
    simp only [update_apply] at hb
    split_ifs at hb
    · obtain rfl := Option.some.inj hb
      contradiction
    · exact h.linked b other hb hsome
  case numbered => exact h.numbered

theorem addAdapter (h : Mirrors d s) (hroom : d.nextAdapter < 2 ^ 32) {adapter : Adapter}
    (hn : (d.nodes n).isSome) (hunused : Unused d s n adapter) :
    Mirrors (d.step (.addAdapter n adapter))
      (s.addAdapter (internalId n) (internalId d.nextAdapter) adapter) := by
  have hmore := h.reserve le_rfl le_rfl (Nat.le_succ _) h.sound.nodes_le h.sound.routers_le hroom
  have hnone : d.adapters d.nextAdapter = none := h.sound.adaptersBelow _ le_rfl
  refine hmore.drawAdapter (Nat.lt_succ_self _) hnone hn ?_
  refine hmore.addsFresh hunused.addressed hnone (Nat.lt_succ_self _) hn ?_ ?_ hunused.unknown
  · exact fun b other hb => hunused.drawn b (h.sound.adaptersBelow.lt hb) other hb
  · intro p hp
    refine ⟨fun heq => ?_, hunused.ports p hp⟩
    have hold := h.numbered p hp
    rw [heq, toNat_internalId hroom] at hold
    exact absurd hold (lt_irrefl _)

theorem updateAdapters (h : Mirrors d s) (id : NodeIdentifier) :
    Mirrors d (s.updateAdapters id) := by
  cases hsetup : s.setup id with
  | none => rwa [Tidy.updateAdapters_of_none hsetup]
  | some setup =>
    obtain ⟨htidy, hself, hothers⟩ := h.tidy.updateAdapters_of_setup hsetup
    have hnetwork := h.tidy.network_updateAdapters hsetup
    have hports : ∀ p ∈ (s.updateAdapters id).network.ports, p ∈ s.network.ports ∨
        ∃ new ∈ setup.announcements, p = setup.port id new := by
      intro p hp
      rw [hnetwork] at hp
      rcases List.mem_append.mp hp with hp | hp
      · exact .inl hp
      · obtain ⟨new, hnew, rfl⟩ := List.mem_map.mp hp
        exact .inr ⟨new, hnew, rfl⟩
    have hdrawn : ∀ new ∈ setup.announcements, ∃ drawn,
        d.adapters new.1.identifier.toNat = some drawn := by
      intro new hnew
      have hentry := (NodeSetup.mem_announcements.mp hnew).1
      obtain ⟨drawn, hfound, -⟩ := (h.entries id setup hsetup new.1).mp hentry
      exact ⟨drawn, hfound⟩
    constructor
    case tidy => exact htidy
    case sound => exact h.sound
    case configured =>
      intro other
      have hconfigured := h.configured other
      by_cases hne : other = id
      · subst hne
        rw [hsetup] at hconfigured
        rw [hself]
        exact hconfigured
      · rwa [hothers other hne]
    case entries =>
      intro other setup' hfound entry
      by_cases hne : other = id
      · subst hne
        obtain rfl := Option.some.inj (hself.symm.trans hfound)
        exact h.entries other setup hsetup entry
      · exact h.entries other setup' ((hothers other hne).symm.trans hfound) entry
    case routers =>
      rw [hnetwork]
      exact h.routers
    case links =>
      intro p hp
      rcases hports p hp with hp | ⟨new, hnew, rfl⟩
      · exact h.links p hp
      · obtain ⟨drawn, hfound⟩ := hdrawn new hnew
        -- an adapter that is drawn with a router has a port and is not announced
        have hunlinked : drawn.router = none := by
          cases hrouter : drawn.router with
          | none => rfl
          | some r =>
            obtain ⟨q, hq, hadapter⟩ := h.linked _ drawn hfound (by rw [hrouter]; rfl)
            rw [internalId_toNat] at hadapter
            exact absurd hadapter (h.tidy.announcements_fresh hsetup new hnew q hq).1
        change none = ((d.adapters new.1.identifier.toNat).bind Drawn.router).map internalId
        rw [hfound, Option.bind_some, hunlinked, Option.map_none]
    case linked =>
      intro b other hb hsome
      obtain ⟨p, hp, hadapter⟩ := h.linked b other hb hsome
      rw [hnetwork]
      exact ⟨p, List.mem_append_left _ hp, hadapter⟩
    case numbered =>
      intro p hp
      rcases hports p hp with hp | ⟨new, hnew, rfl⟩
      · exact h.numbered p hp
      · obtain ⟨drawn, hfound⟩ := hdrawn new hnew
        exact h.sound.adaptersBelow.lt hfound

theorem update (h : Mirrors d s) (md5 : List Byte → Digest) (time : TimePoint) :
    Mirrors d (s.update md5 time) :=
  List.foldlRecOn _ _ h fun _ h id _ => (h.updateAdapters id).of_same .updateNode

end Mirrors

-- ---------------------------------------------------------------------------
-- Runs
-- ---------------------------------------------------------------------------

/-- Items can be told apart, adapters are added with an address and a mac that
are not in use, and an adapter is connected when its client was made, to a
router that no other adapter of its node is on. -/
def Board.Allows (b : Board) : EditorCall → Prop
  | .dropNode => b.drawing.nextNode < 2 ^ 32
  | .dropRouter => b.drawing.nextRouter < 2 ^ 32
  | .adapterEvent id adapter => b.drawing.nextAdapter < 2 ^ 32 ∧
    ∀ n ∈ b.drawing.nodesWith id, Unused b.drawing b.simulator n adapter
  | .mouseRelease a r => b.drawing.Shows (.connect a r) ∧
    ∀ drawn ∈ b.drawing.adapters a,
      (∃ p ∈ b.simulator.network.ports, p.adapter = internalId a) ∧
      ∀ k < b.drawing.nextAdapter, ∀ other ∈ b.drawing.adapters k,
        other.node = drawn.node → other.router = some r → k = a
  | .deleteAdapter a => b.drawing.Shows (.removeAdapter a)
  | .deleteRouter r => b.drawing.Shows (.removeRouter r)
  | .deleteNode n => b.drawing.Shows (.removeNode n)
  | .complete .. | .update _ => True

instance (b : Board) : ∀ call, Decidable (b.Allows call)
  | .dropNode => inferInstanceAs (Decidable (b.drawing.nextNode < 2 ^ 32))
  | .dropRouter => inferInstanceAs (Decidable (b.drawing.nextRouter < 2 ^ 32))
  | .adapterEvent .. => inferInstanceAs (Decidable (_ ∧ ∀ _ ∈ _, Unused ..))
  | .mouseRelease a r => inferInstanceAs (Decidable (b.drawing.Shows (.connect a r) ∧
      ∀ drawn ∈ b.drawing.adapters a,
        (∃ p ∈ b.simulator.network.ports, p.adapter = internalId a) ∧
        ∀ k < b.drawing.nextAdapter, ∀ other ∈ b.drawing.adapters k,
          other.node = drawn.node → other.router = some r → k = a))
  | .deleteAdapter a => inferInstanceAs (Decidable (b.drawing.Shows (.removeAdapter a)))
  | .deleteRouter r => inferInstanceAs (Decidable (b.drawing.Shows (.removeRouter r)))
  | .deleteNode n => inferInstanceAs (Decidable (b.drawing.Shows (.removeNode n)))
  | .complete .. | .update _ => instDecidableTrue

namespace Board

theorem Allows.shows {b : Board} {call : EditorCall} (h : b.Allows call) : b.Shows call := by
  cases call with
  | mouseRelease a r => exact h.1
  | deleteAdapter a => exact h
  | deleteRouter r => exact h
  | deleteNode n => exact h
  | _ => trivial

def Mirrored (b : Board) : Prop := Mirrors b.drawing b.simulator

/-- An internal id belongs to one node at most. -/
theorem Mirrored.nodesWith {b : Board} (h : b.Mirrored) (id : UInt16) :
    b.drawing.nodesWith id = [] ∨
      ∃ n, b.drawing.nodesWith id = [n] ∧ (b.drawing.nodes n).isSome := by
  have hmem : ∀ n ∈ b.drawing.nodesWith id,
      (b.drawing.nodes n).isSome ∧ internalId n = id.toUInt32 := by
    intro n hn
    exact of_decide_eq_true (List.mem_filter.mp hn).2
  have hnodup : (b.drawing.nodesWith id).Nodup := List.nodup_range.filter _
  cases hlist : b.drawing.nodesWith id with
  | nil => exact .inl rfl
  | cons n rest =>
    rw [hlist] at hmem hnodup
    obtain ⟨hn, hrest⟩ := List.forall_mem_cons.mp hmem
    have hempty : rest = [] := by
      rw [List.eq_nil_iff_forall_not_mem]
      intro k hk
      obtain ⟨hshown, hid⟩ := hrest k hk
      have hsame := internalId_inj (h.sound.node_lt hshown) (h.sound.node_lt hn.1)
        (hid.trans hn.2.symm)
      exact (List.nodup_cons.mp hnodup).1 (hsame ▸ hk)
    exact .inr ⟨n, by rw [hempty], hn.1⟩

theorem Mirrored.step {b : Board} (h : b.Mirrored) (md5 : List Byte → Digest) {call : EditorCall}
    (hallows : b.Allows call) : (b.step md5 call).Mirrored := by
  cases call with
  | dropNode => exact h.addNode hallows _
  | dropRouter => exact h.addRouter hallows _
  | adapterEvent id adapter =>
    obtain ⟨hroom, hunused⟩ := hallows
    rw [Board.step]
    rcases h.nodesWith id with hnone | ⟨n, hone, hn⟩
    · rw [hnone]
      exact h
    · rw [hone] at hunused ⊢
      exact h.addAdapter hroom hn (hunused n (List.mem_singleton_self n))
  | mouseRelease a r =>
    obtain ⟨⟨ha, hr⟩, hclient⟩ := hallows
    obtain ⟨drawn, ha⟩ := Option.isSome_iff_exists.mp ha
    obtain ⟨hport, halone⟩ := hclient drawn ha
    rw [Board.step, ha]
    refine h.connect ha hr hport fun k other hk => ?_
    exact halone k (h.sound.adaptersBelow.lt hk) other hk
  | deleteAdapter a =>
    obtain ⟨drawn, ha⟩ := Option.isSome_iff_exists.mp hallows
    rw [Board.step, ha]
    exact h.removeAdapter ha
  | deleteRouter r => exact h.removeRouter hallows
  | deleteNode n => exact h.removeNode hallows
  | complete node k time => exact h.of_same (.complete k time)
  | update time => exact h.update md5 time

end Board

/-- In every run of the editor in which items can be told apart, adapters are
new when they are added, and an adapter is connected after its client was made
and away from the others of its node: no pointer is followed to an item that
is gone, and what an adapter that is drawn sends is received, once each, by
the clients of the adapters of other nodes that are drawn on its router, and
by nobody else. -/
theorem drawn_is_simulated (md5 : List Byte → Digest) (calls : List EditorCall)
    (hrun : Throughout (Board.step md5) Board.Allows {} calls) :
    ∃ e, calls.foldlM (SceneEditor.step md5) {} = some e ∧ e.scene.Consistent ∧
      ∀ a drawn, e.scene.drawing.adapters a = some drawn →
        ∀ address ∈ drawn.adapter.listenAddresses, ∀ data,
          (e.simulator.trafficManager.dataSent (internalId drawn.node)
            (drawnClient drawn.node address).info data).Nodup ∧
          ∀ reception, reception ∈ e.simulator.trafficManager.dataSent (internalId drawn.node)
              (drawnClient drawn.node address).info data ↔
            ∃ b other x, e.scene.drawing.adapters b = some other ∧ drawn.HeardBy other ∧
              x ∈ other.adapter.listenAddresses ∧
              reception = ⟨drawnClient other.node x, data, address⟩ := by
  have hmirrored : (calls.foldl (Board.step md5) {}).Mirrored :=
    hrun.invariant Mirrors.empty fun b call _ hb hallows => hb.step md5 hallows
  obtain ⟨e, hdone, he, hboard⟩ :=
    SceneEditor.refines_board md5 (hrun.imp fun _ _ hallows => hallows.shows)
  refine ⟨e, hdone, he, fun a drawn ha address haddress data => ?_⟩
  rw [← hboard] at hmirrored
  exact hmirrored.dataSent ha haddress data

/-- Two nodes with an adapter each, both connected to a router, that announce
themselves to each other. -/
def drawnPair : List EditorCall :=
  [.dropNode, .dropNode, .dropRouter, .adapterEvent 0 (lanAdapter "a" 1),
    .adapterEvent 1 (lanAdapter "b" 2), .update 0, .mouseRelease 0 0, .mouseRelease 1 0,
    .complete 0 0 0, .complete 1 0 0, .update (seconds 30)]

/-- The digests of the bytes that the two nodes hash. -/
def drawnDigests (bytes : List Byte) : Digest :=
  if bytes = Wire.announcementBytes 3 232 then
    #v[0x9a, 0xd7, 0x32, 0x0c, 0xb1, 0xb7, 0x68, 0xf0,
      0x38, 0x3b, 0xf5, 0x97, 0x96, 0xff, 0xc9, 0x71]
  else if bytes = Wire.announcementBytes 3 233 then
    #v[0x86, 0x51, 0xf3, 0x38, 0xd1, 0x0c, 0x6b, 0x78,
      0x5c, 0x07, 0xfa, 0x37, 0x88, 0xbf, 0xd8, 0xdc]
  else emptyDigest

theorem drawn_is_simulated_pair :
    ∃ e, drawnPair.foldlM (SceneEditor.step drawnDigests) {} = some e ∧
      e.scene.Consistent ∧
      ∀ a drawn, e.scene.drawing.adapters a = some drawn →
        ∀ address ∈ drawn.adapter.listenAddresses, ∀ data,
          (e.simulator.trafficManager.dataSent (internalId drawn.node)
            (drawnClient drawn.node address).info data).Nodup ∧
          ∀ reception, reception ∈ e.simulator.trafficManager.dataSent (internalId drawn.node)
              (drawnClient drawn.node address).info data ↔
            ∃ b other x, e.scene.drawing.adapters b = some other ∧ drawn.HeardBy other ∧
              x ∈ other.adapter.listenAddresses ∧
              reception = ⟨drawnClient other.node x, data, address⟩ :=
  drawn_is_simulated drawnDigests drawnPair (by decide +kernel)

/-- A connection that is drawn before the client is made is not simulated. -/
example : ([.dropNode, .dropNode, .dropRouter, .adapterEvent 0 (lanAdapter "a" 1),
      .adapterEvent 1 (lanAdapter "b" 2), .mouseRelease 0 0, .mouseRelease 1 0, .update 0].foldlM
      (SceneEditor.step drawnDigests) {}).map (fun e => (e.scene.drawing.adapters 0,
        e.simulator.trafficManager.dataSent 0 (drawnClient 0 ⟨1⟩).info [7])) =
    some (some ⟨0, lanAdapter "a" 1, some 0⟩, []) := by
  decide +kernel

end Discnet.Sim
