import Discnet.Sim.NetworkTrafficManager
import Discnet.Lib.Run
import Mathlib.Data.List.Nodup

/-!
# Who hears whom in the simulated network

A network is the adapters that are there, each linked to a router or to none.
A multicast should reach the adapters of the other nodes on the same router.
What an adapter is linked to is well formed over all runs, and no router has
two adapters of a node when they are linked one at a time.
-/

namespace Discnet.Sim

open Lib Network Std

-- ---------------------------------------------------------------------------
-- The network
-- ---------------------------------------------------------------------------

/-- An adapter with its client, and the router it is linked to. -/
structure Port where
  node : NodeIdentifier
  adapter : AdapterIdentifier
  client : SimulatorUdpClient
  router : Option RouterIdentifier := none
  deriving DecidableEq, Repr

namespace Port

def address (p : Port) : Address := p.client.info.adapter

def relink (node : NodeIdentifier) (adapter : AdapterIdentifier)
    (router : Option RouterIdentifier) (p : Port) : Port :=
  if p.node = node ∧ p.adapter = adapter then { p with router := router } else p

def unlinkFrom (router : RouterIdentifier) (p : Port) : Port :=
  if p.router = some router then { p with router := none } else p

def entry (p : Port) : AdapterEntry := ⟨p.adapter, p.router, p.client⟩

end Port

structure LinkedNetwork where
  ports : List Port := []
  routers : List RouterIdentifier := []
  deriving DecidableEq, Repr

namespace LinkedNetwork

/-- An adapter is linked to the router of the last link, until the link, its
node or the router is removed. -/
def step (net : LinkedNetwork) : TrafficCall → LinkedNetwork
  | .addNode node adapter client => { net with ports := net.ports ++ [{ node, adapter, client }] }
  | .removeNode node => { net with ports := net.ports.filter (·.node ≠ node) }
  | .addRouter router =>
    { net with routers := if router ∈ net.routers then net.routers else router :: net.routers }
  | .removeRouter router =>
    { ports := net.ports.map (Port.unlinkFrom router)
      routers := net.routers.filter (· ≠ router) }
  | .addLink node adapter router =>
    if router ∈ net.routers then
      { net with ports := net.ports.map (Port.relink node adapter (some router)) }
    else net
  | .removeLink node adapter =>
    { net with ports := net.ports.map (Port.relink node adapter none) }

/-- The adapters of the other nodes on the router of an adapter. -/
def hearers (net : LinkedNetwork) (p : Port) : List Port :=
  net.ports.filter fun q => q.node ≠ p.node ∧ p.router.isSome ∧ q.router = p.router

/-- Every adapter is added once. -/
def AddsOnce (net : LinkedNetwork) : TrafficCall → Prop
  | .addNode _ adapter client =>
    ∀ q ∈ net.ports, q.adapter ≠ adapter ∧ q.address ≠ client.info.adapter
  | _ => True

/-- The adapter is not linked to another router, and no other adapter of its
node is linked to this one. -/
def LinksApart (net : LinkedNetwork) : TrafficCall → Prop
  | .addLink node adapter router =>
    ∀ p ∈ net.ports, p.node = node ∧ p.adapter = adapter ∧ router ∈ net.routers →
      (p.router = none ∨ p.router = some router) ∧
      ∀ q ∈ net.ports, q.node = node ∧ q.router = some router → q.adapter = adapter
  | _ => True

instance (net : LinkedNetwork) : ∀ call, Decidable (net.AddsOnce call)
  | .addNode _ adapter client => inferInstanceAs (Decidable
      (∀ q ∈ net.ports, q.adapter ≠ adapter ∧ q.address ≠ client.info.adapter))
  | .removeNode _ | .addRouter _ | .removeRouter _ | .addLink .. | .removeLink .. =>
    instDecidableTrue

instance (net : LinkedNetwork) : ∀ call, Decidable (net.LinksApart call)
  | .addLink node adapter router => inferInstanceAs (Decidable
      (∀ p ∈ net.ports, p.node = node ∧ p.adapter = adapter ∧ router ∈ net.routers →
        (p.router = none ∨ p.router = some router) ∧
        ∀ q ∈ net.ports, q.node = node ∧ q.router = some router → q.adapter = adapter))
  | .addNode .. | .removeNode _ | .addRouter _ | .removeRouter _ | .removeLink .. =>
    instDecidableTrue

structure WellFormed (net : LinkedNetwork) : Prop where
  adapters : (net.ports.map Port.adapter).Nodup
  addresses : (net.ports.map Port.address).Nodup
  routers : ∀ p ∈ net.ports, ∀ router, p.router = some router → router ∈ net.routers

/-- No router has two adapters of a node. -/
def Apart (net : LinkedNetwork) : Prop :=
  ∀ p ∈ net.ports, ∀ q ∈ net.ports, p.node = q.node → p.router = q.router → p.router.isSome →
    p = q

end LinkedNetwork

-- ---------------------------------------------------------------------------
-- Ports
-- ---------------------------------------------------------------------------

namespace Port

variable {node : NodeIdentifier} {adapter : AdapterIdentifier} {router : Option RouterIdentifier}
  {r : RouterIdentifier} {p : Port}

@[simp] theorem node_relink : (p.relink node adapter router).node = p.node := by
  rw [relink]
  split_ifs <;> rfl

@[simp] theorem adapter_relink : (p.relink node adapter router).adapter = p.adapter := by
  rw [relink]
  split_ifs <;> rfl

@[simp] theorem client_relink : (p.relink node adapter router).client = p.client := by
  rw [relink]
  split_ifs <;> rfl

@[simp] theorem node_unlinkFrom : (p.unlinkFrom r).node = p.node := by
  rw [unlinkFrom]
  split_ifs <;> rfl

@[simp] theorem adapter_unlinkFrom : (p.unlinkFrom r).adapter = p.adapter := by
  rw [unlinkFrom]
  split_ifs <;> rfl

@[simp] theorem client_unlinkFrom : (p.unlinkFrom r).client = p.client := by
  rw [unlinkFrom]
  split_ifs <;> rfl

@[simp] theorem address_relink : (p.relink node adapter router).address = p.address := by
  simp [address]

@[simp] theorem address_unlinkFrom : (p.unlinkFrom r).address = p.address := by
  simp [address]

theorem router_relink : (p.relink node adapter router).router =
    if p.node = node ∧ p.adapter = adapter then router else p.router := by
  rw [relink]
  split_ifs <;> rfl

theorem router_unlinkFrom : (p.unlinkFrom r).router =
    if p.router = some r then none else p.router := by
  rw [unlinkFrom]
  split_ifs <;> rfl

theorem entry_unlinkFrom : (p.unlinkFrom r).entry = NetworkTrafficManager.unlinkFrom r p.entry := by
  by_cases h : p.router = some r <;> simp [unlinkFrom, NetworkTrafficManager.unlinkFrom, entry, h]

theorem map_relink_eq_self {ports : List Port}
    (h : ∀ p ∈ ports, p.node = node → p.adapter = adapter → p.router = router) :
    ports.map (relink node adapter router) = ports := by
  have hself : ∀ p ∈ ports, p.relink node adapter router = p := by
    intro p hp
    rw [relink]
    split_ifs with hport
    · rw [← h p hp hport.1 hport.2]
    · rfl
  rw [List.map_congr_left hself, List.map_id']

end Port

namespace LinkedNetwork

variable {net : LinkedNetwork}

theorem WellFormed.eq_of_adapter (h : net.WellFormed) {p q : Port} (hp : p ∈ net.ports)
    (hq : q ∈ net.ports) (hpq : p.adapter = q.adapter) : p = q :=
  List.inj_on_of_nodup_map h.adapters hp hq hpq

theorem WellFormed.eq_of_address (h : net.WellFormed) {p q : Port} (hp : p ∈ net.ports)
    (hq : q ∈ net.ports) (hpq : p.address = q.address) : p = q :=
  List.inj_on_of_nodup_map h.addresses hp hq hpq

theorem wellFormed_empty : WellFormed {} := ⟨List.nodup_nil, List.nodup_nil, by simp⟩

theorem apart_empty : Apart {} := by
  intro p hp
  contradiction

theorem WellFormed.map (h : net.WellFormed) {f : Port → Port} {routers : List RouterIdentifier}
    (hadapter : ∀ p, (f p).adapter = p.adapter) (haddress : ∀ p, (f p).address = p.address)
    (hrouters : ∀ p ∈ net.ports, ∀ router, (f p).router = some router → router ∈ routers) :
    WellFormed ⟨net.ports.map f, routers⟩ := by
  constructor
  · simpa [Function.comp_def, hadapter] using h.adapters
  · simpa [Function.comp_def, haddress] using h.addresses
  · simpa using hrouters

/-- Where linked adapters stay as they are, they stay apart. -/
theorem Apart.map (h : net.Apart) {f : Port → Port} {routers : List RouterIdentifier}
    (hf : ∀ p, (f p).router.isSome → f p = p) : Apart ⟨net.ports.map f, routers⟩ := by
  intro p' hp' q' hq' hnode hrouter hsome
  obtain ⟨p, hp, rfl⟩ := List.mem_map.mp hp'
  obtain ⟨q, hq, rfl⟩ := List.mem_map.mp hq'
  have hpsame := hf p hsome
  have hqsame := hf q (hrouter ▸ hsome)
  rw [hpsame, hqsame] at hnode hrouter ⊢
  rw [hpsame] at hsome
  exact h p hp q hq hnode hrouter hsome

theorem WellFormed.step (h : net.WellFormed) {call : TrafficCall} (honce : net.AddsOnce call) :
    (net.step call).WellFormed := by
  cases call with
  | addNode node adapter client =>
    have hadapter : adapter ∉ net.ports.map Port.adapter := by
      intro hmem
      obtain ⟨q, hq, hadapter⟩ := List.mem_map.mp hmem
      exact (honce q hq).1 hadapter
    have haddress : client.info.adapter ∉ net.ports.map Port.address := by
      intro hmem
      obtain ⟨q, hq, haddress⟩ := List.mem_map.mp hmem
      exact (honce q hq).2 haddress
    constructor
    · simpa [LinkedNetwork.step, List.nodup_append, h.adapters] using hadapter
    · simpa [LinkedNetwork.step, List.nodup_append, h.addresses, Port.address] using haddress
    · intro p hp router hrouter
      rcases List.mem_append.mp hp with hp | hp
      · exact h.routers p hp router hrouter
      · obtain rfl := List.mem_singleton.mp hp
        contradiction
  | removeNode node =>
    have hsub : (net.ports.filter (·.node ≠ node)).Sublist net.ports := List.filter_sublist
    constructor
    · exact h.adapters.sublist (hsub.map _)
    · exact h.addresses.sublist (hsub.map _)
    · exact fun p hp => h.routers p (hsub.subset hp)
  | addRouter router =>
    refine ⟨h.adapters, h.addresses, fun p hp r hr => ?_⟩
    have hmem := h.routers p hp r hr
    simp only [LinkedNetwork.step]
    split_ifs
    · exact hmem
    · exact List.mem_cons_of_mem _ hmem
  | removeRouter router =>
    refine h.map (fun _ => Port.adapter_unlinkFrom) (fun _ => Port.address_unlinkFrom) ?_
    intro p hp r hr
    rw [Port.router_unlinkFrom] at hr
    split_ifs at hr with hlinked
    have hne : r ≠ router := fun heq => hlinked (heq ▸ hr)
    simpa [hne] using h.routers p hp r hr
  | addLink node adapter router =>
    simp only [LinkedNetwork.step]
    split_ifs with hrouter
    · refine h.map (fun _ => Port.adapter_relink) (fun _ => Port.address_relink) ?_
      intro p hp r hr
      rw [Port.router_relink] at hr
      split_ifs at hr
      · cases hr
        exact hrouter
      · exact h.routers p hp r hr
    · exact h
  | removeLink node adapter =>
    refine h.map (fun _ => Port.adapter_relink) (fun _ => Port.address_relink) ?_
    intro p hp r hr
    rw [Port.router_relink] at hr
    split_ifs at hr
    exact h.routers p hp r hr

theorem Apart.step (h : net.Apart) (hw : net.WellFormed) {call : TrafficCall}
    (hlinks : net.LinksApart call) : (net.step call).Apart := by
  cases call with
  | addNode node adapter client =>
    intro p hp q hq hnode hrouter hsome
    rcases List.mem_append.mp hp with hp | hp
    · rcases List.mem_append.mp hq with hq | hq
      · exact h p hp q hq hnode hrouter hsome
      · rw [hrouter, List.mem_singleton.mp hq] at hsome
        contradiction
    · rw [List.mem_singleton.mp hp] at hsome
      contradiction
  | removeNode node =>
    intro p hp q hq
    exact h p (List.mem_filter.mp hp).1 q (List.mem_filter.mp hq).1
  | addRouter router => exact h
  | removeRouter router =>
    apply h.map
    intro p hp
    rw [Port.router_unlinkFrom] at hp
    split_ifs at hp with hlinked
    · contradiction
    · rw [Port.unlinkFrom, if_neg hlinked]
  | removeLink node adapter =>
    apply h.map
    intro p hp
    rw [Port.router_relink] at hp
    split_ifs at hp with hport
    · contradiction
    · rw [Port.relink, if_neg hport]
  | addLink node adapter router =>
    simp only [LinkedNetwork.step]
    split_ifs with hknown
    · -- an adapter of the node that is on the router is the one that is linked
      have hother : ∀ p ∈ net.ports, ∀ q ∈ net.ports, p.node = node ∧ p.adapter = adapter →
          q.node = node → q.router = some router → q.adapter = adapter := by
        intro p hp q hq hport hnode hrouter
        exact (hlinks p hp ⟨hport.1, hport.2, hknown⟩).2 q hq ⟨hnode, hrouter⟩
      intro p' hp' q' hq' hnode hrouter hsome
      obtain ⟨p, hp, rfl⟩ := List.mem_map.mp hp'
      obtain ⟨q, hq, rfl⟩ := List.mem_map.mp hq'
      rw [Port.node_relink, Port.node_relink] at hnode
      rw [Port.router_relink, Port.router_relink] at hrouter
      rw [Port.router_relink] at hsome
      congr 1
      split_ifs at hrouter hsome with hpport hqport hqport
      · exact hw.eq_of_adapter hp hq (hpport.2.trans hqport.2.symm)
      · have hqnode := hnode.symm.trans hpport.1
        exact absurd ⟨hqnode, hother p hp q hq hpport hqnode hrouter.symm⟩ hqport
      · have hpnode := hnode.trans hqport.1
        exact absurd ⟨hpnode, hother q hq p hp hqport hpnode hrouter⟩ hpport
      · exact h p hp q hq hnode hrouter hsome
    · exact h

end LinkedNetwork

end Discnet.Sim
