import Discnet.Sim.LinkedNetwork
import Discnet.Lib.Entries
import Mathlib.Data.List.Perm.Basic

/-!
# Delivery in the simulated network

The traffic manager keeps the linked network: its entries are the adapters,
and the participants of its routers the adapters linked to them. It does as
long as a router has one adapter of a node, and an adapter is unlinked before
it is linked to another router.
-/

namespace Discnet.Sim

open Lib Network Std

-- ---------------------------------------------------------------------------
-- Participants
-- ---------------------------------------------------------------------------

/-- The client that takes part in a router for a node. -/
def participant (routers : Routers) (router : RouterIdentifier) (node : NodeIdentifier) :
    Option SimulatorUdpClient :=
  routers[router]?.bind fun r => r.participants[node]?

section
variable {routers : Routers} {router r : RouterIdentifier} {node n : NodeIdentifier}

theorem participant_remove (routers : Routers) (router : RouterIdentifier)
    (node : NodeIdentifier) (r : RouterIdentifier) (n : NodeIdentifier) :
    participant (modifyRouter router (·.removeParticipant node) routers) r n =
      if router = r ∧ node = n then none else participant routers r n := by
  rw [modifyRouter]
  cases h : routers[router]? with
  | none =>
    by_cases hr : router = r
    · subst hr
      simp [participant, h]
    · simp [hr]
  | some found =>
    by_cases hr : router = r
    · subst hr
      simp [participant, h, NetworkRouter.removeParticipant, TreeMap.getElem?_erase]
    · simp [participant, TreeMap.getElem?_insert, hr]

theorem mem_modifyRouter (router : RouterIdentifier) (f : NetworkRouter → NetworkRouter)
    (routers : Routers) (r : RouterIdentifier) :
    r ∈ modifyRouter router f routers ↔ r ∈ routers := by
  rw [modifyRouter]
  cases h : routers[router]? with
  | none => rfl
  | some found =>
    simp only [TreeMap.mem_insert, Std.compare_eq_iff_eq]
    constructor
    · rintro (rfl | hmem)
      · exact TreeMap.mem_iff_isSome_getElem?.mpr (by simp [h])
      · exact hmem
    · exact .inr

theorem mem_leaveRouters (entries : List AdapterEntry) (routers : Routers)
    (node : NodeIdentifier) (r : RouterIdentifier) :
    r ∈ entries.foldl (NetworkTrafficManager.leaveRouters node) routers ↔ r ∈ routers := by
  induction entries generalizing routers with
  | nil => rfl
  | cons entry rest ih =>
    rw [List.foldl_cons, ih, NetworkTrafficManager.leaveRouters]
    cases entry.router with
    | none => rfl
    | some router => exact mem_modifyRouter ..

theorem participant_leaveRouters (entries : List AdapterEntry) (routers : Routers)
    (node : NodeIdentifier) (r : RouterIdentifier) (n : NodeIdentifier) :
    participant (entries.foldl (NetworkTrafficManager.leaveRouters node) routers) r n =
      if node = n ∧ some r ∈ entries.map AdapterEntry.router then none
      else participant routers r n := by
  induction entries generalizing routers with
  | nil => simp
  | cons entry rest ih =>
    rw [List.foldl_cons, ih, NetworkTrafficManager.leaveRouters]
    cases hrouter : entry.router with
    | none => simp [hrouter]
    | some router =>
      dsimp only
      rw [participant_remove]
      by_cases hn : node = n
      · by_cases hrest : some r ∈ rest.map AdapterEntry.router
        · simp [hn, hrest]
        · simp [hn, hrest, hrouter, eq_comm (a := r)]
      · simp [hn]

theorem participant_add (routers : Routers) {found : NetworkRouter}
    (h : routers[router]? = some found) (node : NodeIdentifier) (client : SimulatorUdpClient)
    (r : RouterIdentifier) (n : NodeIdentifier) :
    participant (routers.insert router (found.addParticipant node client)) r n =
      if router = r ∧ node = n then (participant routers r n).or (some client)
      else participant routers r n := by
  by_cases hr : router = r
  · subst hr
    have hget : (found.participants.insertIfNew node client)[n]? =
        if node = n then (found.participants[n]?).or (some client) else found.participants[n]? := by
      rw [TreeMap.getElem?_insertIfNew]
      by_cases hn : node = n
      · subst hn
        cases hknown : found.participants[node]? <;>
          simp [TreeMap.mem_iff_isSome_getElem?, hknown]
      · simp [hn]
    simp [participant, h, NetworkRouter.addParticipant, hget]
  · simp [participant, TreeMap.getElem?_insert, hr]

theorem participant_insertIfNew (routers : Routers) (router r : RouterIdentifier)
    (n : NodeIdentifier) :
    participant (routers.insertIfNew router {}) r n = participant routers r n := by
  rw [participant, participant, TreeMap.getElem?_insertIfNew]
  by_cases hr : router = r
  · subst hr
    by_cases hmem : router ∈ routers
    · simp [hmem]
    · simp [hmem]
  · simp [hr]

theorem participant_erase (routers : Routers) (router r : RouterIdentifier)
    (n : NodeIdentifier) :
    participant (routers.erase router) r n =
      if router = r then none else participant routers r n := by
  by_cases hr : router = r <;> simp [participant, TreeMap.getElem?_erase, hr]

end

-- ---------------------------------------------------------------------------
-- The manager keeps the network
-- ---------------------------------------------------------------------------

def LinkedNetwork.portsOf (net : LinkedNetwork) (node : NodeIdentifier) : List Port :=
  net.ports.filter (·.node = node)

/-- The entries of a node are its adapters, and the participants of a router
the adapters that are linked to it. -/
structure Keeps (m : NetworkTrafficManager) (net : LinkedNetwork) : Prop where
  entries : ∀ n, (m.nodes[n]?).getD [] = (net.portsOf n).map Port.entry
  routers : ∀ r, r ∈ m.routers ↔ r ∈ net.routers
  participants : ∀ r n client, participant m.routers r n = some client ↔
    ∃ p ∈ net.ports, p.node = n ∧ p.client = client ∧ p.router = some r

theorem keeps_empty : Keeps {} {} := by
  constructor <;> simp [LinkedNetwork.portsOf, participant]

theorem modifyEntry_map {ports : List Port} {node : NodeIdentifier}
    (hports : (ports.map Port.adapter).Nodup) (hnode : ∀ p ∈ ports, p.node = node)
    (adapter : AdapterIdentifier) (router : Option RouterIdentifier) :
    modifyEntry adapter (fun entry => { entry with router := router }) (ports.map Port.entry) =
      (ports.map (Port.relink node adapter router)).map Port.entry := by
  induction ports with
  | nil => rfl
  | cons first rest ih =>
    obtain ⟨hfirst, hrest⟩ := List.nodup_cons.mp hports
    obtain ⟨hhead, htail⟩ := List.forall_mem_cons.mp hnode
    rw [List.map_cons, modifyEntry]
    by_cases hadapter : first.adapter = adapter
    · -- no other adapter has the identifier
      have hothers : rest.map (Port.relink node adapter router) = rest := by
        apply Port.map_relink_eq_self
        intro p hp _ hp'
        exact absurd (hadapter.trans hp'.symm ▸ List.mem_map_of_mem hp) hfirst
      simp [Port.entry, Port.relink, hadapter, hhead, hothers]
    · have hkept : first.relink node adapter router = first := by simp [Port.relink, hadapter]
      simp [Port.entry, hadapter, hkept, ih hrest htail]

theorem portsOf_map {net : LinkedNetwork} {f : Port → Port} (hf : ∀ p, (f p).node = p.node)
    (n : NodeIdentifier) :
    LinkedNetwork.portsOf { net with ports := net.ports.map f } n = (net.portsOf n).map f := by
  simp [LinkedNetwork.portsOf, List.filter_map, Function.comp_def, hf]

theorem find?_entries {m : NetworkTrafficManager} {net : LinkedNetwork} (hk : Keeps m net)
    {node : NodeIdentifier} {entries : List AdapterEntry} (h : m.nodes[node]? = some entries)
    (adapter : AdapterIdentifier) :
    entries.find? (·.adapterIdentifier = adapter) =
      ((net.portsOf node).find? (·.adapter = adapter)).map Port.entry := by
  have hentries := hk.entries node
  rw [h, Option.getD_some] at hentries
  rw [hentries, List.find?_map]
  rfl

section
variable {m : NetworkTrafficManager} {net : LinkedNetwork}

theorem Keeps.addNode (hk : Keeps m net) (node : NodeIdentifier) (adapter : AdapterIdentifier)
    (client : SimulatorUdpClient) :
    Keeps (m.addNode node adapter client) (net.step (.addNode node adapter client)) := by
  have hnodes : (m.addNode node adapter client).nodes = m.nodes.insert node
      ((m.nodes[node]?).getD [] ++ [{ adapterIdentifier := adapter, client := client }]) := by
    rw [NetworkTrafficManager.addNode]
    cases m.nodes[node]? <;> rfl
  have hrouters : (m.addNode node adapter client).routers = m.routers := by
    rw [NetworkTrafficManager.addNode]
    cases m.nodes[node]? <;> rfl
  constructor
  · intro n
    rw [hnodes, TreeMap.getElem?_insert]
    by_cases hn : node = n
    · subst hn
      simp [LinkedNetwork.step, LinkedNetwork.portsOf, hk.entries, Port.entry]
    · simp [LinkedNetwork.step, LinkedNetwork.portsOf, hk.entries, hn]
  · intro r
    rw [hrouters]
    exact hk.routers r
  · intro r n c
    rw [hrouters, hk.participants]
    simp [LinkedNetwork.step]

theorem Keeps.removeNode (hk : Keeps m net) (node : NodeIdentifier) :
    Keeps (m.removeNode node) (net.step (.removeNode node)) := by
  have hnodes : ∀ n, ((m.removeNode node).nodes[n]?).getD [] =
      if node = n then [] else (m.nodes[n]?).getD [] := by
    intro n
    rw [NetworkTrafficManager.removeNode]
    cases hknown : m.nodes[node]? with
    | none =>
      by_cases hn : node = n
      · subst hn
        simp [hknown]
      · simp [hn]
    | some entries => by_cases hn : node = n <;> simp [TreeMap.getElem?_erase, hn]
  have hparticipant : ∀ r n, participant (m.removeNode node).routers r n =
      if node = n ∧ some r ∈ ((m.nodes[node]?).getD []).map AdapterEntry.router then none
      else participant m.routers r n := by
    intro r n
    rw [NetworkTrafficManager.removeNode]
    cases hknown : m.nodes[node]? with
    | none => simp
    | some entries => exact participant_leaveRouters ..
  have hmem : ∀ r, r ∈ (m.removeNode node).routers ↔ r ∈ m.routers := by
    intro r
    rw [NetworkTrafficManager.removeNode]
    cases m.nodes[node]? with
    | none => rfl
    | some entries => exact mem_leaveRouters ..
  constructor
  · intro n
    have hports : (net.step (.removeNode node)).portsOf n =
        (net.ports.filter (·.node ≠ node)).filter (·.node = n) := rfl
    rw [hnodes, hk.entries, hports, List.filter_filter]
    split_ifs with hn
    · subst hn
      simp
    · congr 1
      apply List.filter_congr
      intro p _
      by_cases hp : p.node = n <;> simp [hp, Ne.symm hn]
  · intro r
    rw [hmem]
    exact hk.routers r
  · intro r n client
    rw [hparticipant, hk.entries]
    constructor
    · intro h
      split_ifs at h with hleft
      obtain ⟨p, hp, rfl, rfl, hrouter⟩ := (hk.participants r n client).mp h
      refine ⟨p, List.mem_filter.mpr ⟨hp, ?_⟩, rfl, rfl, hrouter⟩
      apply decide_eq_true
      rintro rfl
      refine hleft ⟨rfl, List.mem_map.mpr ⟨p.entry, ?_, hrouter⟩⟩
      exact List.mem_map_of_mem (List.mem_filter.mpr ⟨hp, decide_eq_true rfl⟩)
    · rintro ⟨p, hp, rfl, rfl, hrouter⟩
      obtain ⟨hp, hne⟩ := List.mem_filter.mp hp
      rw [if_neg fun h => of_decide_eq_true hne h.1.symm]
      exact (hk.participants r p.node p.client).mpr ⟨p, hp, rfl, rfl, hrouter⟩

theorem Keeps.addRouter (hk : Keeps m net) (router : RouterIdentifier) :
    Keeps (m.addRouter router) (net.step (.addRouter router)) := by
  constructor
  · exact hk.entries
  · intro r
    simp only [NetworkTrafficManager.addRouter, TreeMap.mem_insertIfNew, LinkedNetwork.step,
      hk.routers, Std.compare_eq_iff_eq]
    split_ifs with hknown
    · constructor
      · rintro (rfl | h)
        · exact hknown
        · exact h
      · exact .inr
    · simp [eq_comm]
  · intro r n client
    rw [NetworkTrafficManager.addRouter, participant_insertIfNew]
    exact hk.participants r n client

theorem Keeps.removeRouter (hk : Keeps m net) (router : RouterIdentifier) :
    Keeps (m.removeRouter router) (net.step (.removeRouter router)) := by
  constructor
  · intro n
    have hports : (net.step (.removeRouter router)).portsOf n =
        (net.portsOf n).map (Port.unlinkFrom router) :=
      portsOf_map (fun _ => Port.node_unlinkFrom) n
    have hnodes : ((m.removeRouter router).nodes[n]?).getD [] =
        ((m.nodes[n]?).getD []).map (NetworkTrafficManager.unlinkFrom router) := by
      rw [NetworkTrafficManager.removeRouter, TreeMap.getElem?_map]
      cases m.nodes[n]? <;> rfl
    rw [hnodes, hports, hk.entries, List.map_map, List.map_map]
    congr 1
    funext p
    exact Port.entry_unlinkFrom.symm
  · intro r
    simp only [NetworkTrafficManager.removeRouter, TreeMap.mem_erase, LinkedNetwork.step,
      List.mem_filter, decide_eq_true_eq, hk.routers, ne_eq, Std.compare_eq_iff_eq]
    rw [and_comm, eq_comm]
  · intro r n client
    rw [NetworkTrafficManager.removeRouter, participant_erase]
    constructor
    · intro h
      split_ifs at h with hr
      obtain ⟨p, hp, rfl, rfl, hrouter⟩ := (hk.participants r n client).mp h
      refine ⟨p.unlinkFrom router, List.mem_map_of_mem hp, Port.node_unlinkFrom,
        Port.client_unlinkFrom, ?_⟩
      rw [Port.router_unlinkFrom, hrouter, if_neg]
      exact fun heq => hr (Option.some.inj heq).symm
    · rintro ⟨p', hp', rfl, rfl, hrouter⟩
      obtain ⟨p, hp, rfl⟩ := List.mem_map.mp hp'
      rw [Port.router_unlinkFrom] at hrouter
      split_ifs at hrouter with hlinked
      have hr : router ≠ r := fun heq => hlinked (heq ▸ hrouter)
      rw [if_neg hr, Port.node_unlinkFrom, Port.client_unlinkFrom]
      exact (hk.participants r p.node p.client).mpr ⟨p, hp, rfl, rfl, hrouter⟩

/-- The entry of an adapter is found. -/
theorem Keeps.find?_of_port (hk : Keeps m net) (hw : net.WellFormed) {p : Port}
    (hp : p ∈ net.ports) :
    ∃ entries, m.nodes[p.node]? = some entries ∧
      entries.find? (·.adapterIdentifier = p.adapter) = some p.entry := by
  have hmem : p ∈ net.portsOf p.node := List.mem_filter.mpr ⟨hp, decide_eq_true rfl⟩
  have hentries := hk.entries p.node
  cases hnode : m.nodes[p.node]? with
  | none =>
    rw [hnode, Option.getD_none] at hentries
    have hnone : net.portsOf p.node = [] := List.map_eq_nil_iff.mp hentries.symm
    rw [hnone] at hmem
    contradiction
  | some entries =>
    refine ⟨entries, rfl, ?_⟩
    rw [find?_entries hk hnode]
    cases hfind : (net.portsOf p.node).find? (·.adapter = p.adapter) with
    | none => exact absurd (decide_eq_true rfl) (List.find?_eq_none.mp hfind p hmem)
    | some q =>
      have hq := (List.mem_filter.mp (List.mem_of_find?_eq_some hfind)).1
      have hadapter : q.adapter = p.adapter := by simpa using List.find?_some hfind
      rw [hw.eq_of_adapter hq hp hadapter]
      rfl

theorem Keeps.find?_of_no_port (hk : Keeps m net) {node : NodeIdentifier}
    {adapter : AdapterIdentifier} (hno : ∀ p ∈ net.ports, p.node = node → p.adapter ≠ adapter)
    {entries : List AdapterEntry} (h : m.nodes[node]? = some entries) :
    entries.find? (·.adapterIdentifier = adapter) = none := by
  rw [find?_entries hk h, Option.map_eq_none_iff, List.find?_eq_none]
  intro p hp hadapter
  obtain ⟨hp, hnode⟩ := List.mem_filter.mp hp
  exact hno p hp (of_decide_eq_true hnode) (of_decide_eq_true hadapter)

theorem Keeps.entries_relink (hk : Keeps m net) (hw : net.WellFormed) {node : NodeIdentifier}
    {entries : List AdapterEntry} (h : m.nodes[node]? = some entries)
    (adapter : AdapterIdentifier) (router : Option RouterIdentifier) (n : NodeIdentifier) :
    ((m.nodes.insert node
        (modifyEntry adapter (fun entry => { entry with router := router }) entries))[n]?).getD [] =
      ((net.portsOf n).map (Port.relink node adapter router)).map Port.entry := by
  rw [TreeMap.getElem?_insert]
  by_cases hn : node = n
  · subst hn
    have hentries := hk.entries node
    rw [h, Option.getD_some] at hentries
    have hdistinct : ((net.portsOf node).map Port.adapter).Nodup :=
      hw.adapters.sublist (List.filter_sublist.map _)
    have hnode : ∀ p ∈ net.portsOf node, p.node = node := fun p hp =>
      of_decide_eq_true (List.mem_filter.mp hp).2
    simp [hentries, modifyEntry_map hdistinct hnode]
  · have hothers : (net.portsOf n).map (Port.relink node adapter router) = net.portsOf n := by
      apply Port.map_relink_eq_self
      intro p hp hnode
      exact absurd (hnode.symm.trans (of_decide_eq_true (List.mem_filter.mp hp).2)) hn
    simp [hn, hothers, hk.entries]

/-- After an adapter is relinked, a router has it, if it was linked to that one,
and the others that it had before. -/
theorem exists_relinked_iff (hw : net.WellFormed) {p : Port} (hp : p ∈ net.ports)
    {router : Option RouterIdentifier} {r : RouterIdentifier} {n : NodeIdentifier}
    {client : SimulatorUdpClient} :
    (∃ q ∈ net.ports.map (Port.relink p.node p.adapter router),
        q.node = n ∧ q.client = client ∧ q.router = some r) ↔
      (router = some r ∧ p.node = n ∧ p.client = client) ∨
        ∃ q ∈ net.ports, q ≠ p ∧ q.node = n ∧ q.client = client ∧ q.router = some r := by
  constructor
  · rintro ⟨q', hq', rfl, rfl, hrouter⟩
    obtain ⟨q, hq, rfl⟩ := List.mem_map.mp hq'
    simp only [Port.node_relink, Port.client_relink, Port.router_relink] at hrouter ⊢
    by_cases hqp : q = p
    · subst hqp
      exact .inl ⟨by simpa using hrouter, rfl, rfl⟩
    · right
      split_ifs at hrouter with hsame
      · exact absurd (hw.eq_of_adapter hq hp hsame.2) hqp
      · exact ⟨q, hq, hqp, rfl, rfl, hrouter⟩
  · rintro (⟨rfl, rfl, rfl⟩ | ⟨q, hq, hqp, rfl, rfl, hrouter⟩)
    · exact ⟨_, List.mem_map_of_mem hp, by simp, by simp, by simp [Port.router_relink]⟩
    · refine ⟨_, List.mem_map_of_mem hq, Port.node_relink, Port.client_relink, ?_⟩
      rw [Port.router_relink, if_neg, hrouter]
      rintro ⟨-, hadapter⟩
      exact hqp (hw.eq_of_adapter hq hp hadapter)

/-- The adapter is the only one of its node on the router, and is on no other
one. -/
theorem Keeps.participants_addLink (hk : Keeps m net) (hw : net.WellFormed) {p : Port}
    (hp : p ∈ net.ports) {router : RouterIdentifier} {found : NetworkRouter}
    (hfound : m.routers[router]? = some found)
    (hbefore : p.router = none ∨ p.router = some router)
    (honly : ∀ q ∈ net.ports, q.node = p.node → q.router = some router → q = p)
    (r : RouterIdentifier) (n : NodeIdentifier) (client : SimulatorUdpClient) :
    participant (m.routers.insert router (found.addParticipant p.node p.client)) r n =
        some client ↔
      ∃ q ∈ net.ports.map (Port.relink p.node p.adapter (some router)),
        q.node = n ∧ q.client = client ∧ q.router = some r := by
  rw [participant_add _ hfound, exists_relinked_iff hw hp]
  split_ifs with hthis
  · obtain ⟨rfl, rfl⟩ := hthis
    have hclient : (participant m.routers router p.node).or (some p.client) = some p.client := by
      cases hpart : participant m.routers router p.node with
      | none => rfl
      | some c =>
        obtain ⟨q, hq, hnode, rfl, hrouter⟩ := (hk.participants _ _ _).mp hpart
        rw [honly q hq hnode hrouter]
        rfl
    rw [hclient]
    constructor
    · intro h
      exact .inl ⟨rfl, rfl, Option.some.inj h⟩
    · rintro (⟨-, -, rfl⟩ | ⟨q, hq, hqp, hnode, -, hrouter⟩)
      · rfl
      · exact absurd (honly q hq hnode hrouter) hqp
  · rw [hk.participants]
    constructor
    · rintro ⟨q, hq, hnode, hclient, hrouter⟩
      refine .inr ⟨q, hq, ?_, hnode, hclient, hrouter⟩
      rintro rfl
      rcases hbefore with hnone | hsome
      · rw [hnone] at hrouter
        contradiction
      · exact hthis ⟨Option.some.inj (hsome.symm.trans hrouter), hnode⟩
    · rintro (⟨hrouter, hnode, -⟩ | ⟨q, hq, -, h⟩)
      · exact absurd ⟨Option.some.inj hrouter, hnode⟩ hthis
      · exact ⟨q, hq, h⟩

theorem Keeps.participants_removeLink (hk : Keeps m net) (hw : net.WellFormed) (ha : net.Apart)
    {p : Port} (hp : p ∈ net.ports) {router : RouterIdentifier} (hrouter : p.router = some router)
    (r : RouterIdentifier) (n : NodeIdentifier) (client : SimulatorUdpClient) :
    participant (modifyRouter router (·.removeParticipant p.node) m.routers) r n =
        some client ↔
      ∃ q ∈ net.ports.map (Port.relink p.node p.adapter none),
        q.node = n ∧ q.client = client ∧ q.router = some r := by
  rw [participant_remove, exists_relinked_iff hw hp]
  split_ifs with hthis
  · obtain ⟨rfl, rfl⟩ := hthis
    constructor
    · intro h
      contradiction
    · rintro (⟨hnone, -⟩ | ⟨q, hq, hqp, hnode, -, hqrouter⟩)
      · contradiction
      · have hsome : q.router.isSome := by simp [hqrouter]
        exact absurd (ha q hq p hp hnode (hqrouter.trans hrouter.symm) hsome) hqp
  · rw [hk.participants]
    constructor
    · rintro ⟨q, hq, hnode, hclient, hqrouter⟩
      refine .inr ⟨q, hq, ?_, hnode, hclient, hqrouter⟩
      rintro rfl
      exact hthis ⟨Option.some.inj (hrouter.symm.trans hqrouter), hnode⟩
    · rintro (⟨hnone, -⟩ | ⟨q, hq, -, h⟩)
      · contradiction
      · exact ⟨q, hq, h⟩

theorem Keeps.addLink (hk : Keeps m net) (hw : net.WellFormed) {node : NodeIdentifier}
    {adapter : AdapterIdentifier} {router : RouterIdentifier}
    (hlinks : net.LinksApart (.addLink node adapter router)) :
    Keeps (m.addLink node adapter router).2 (net.step (.addLink node adapter router)) := by
  by_cases hknown : router ∈ net.routers
  · have hstep : net.step (.addLink node adapter router) =
        { net with ports := net.ports.map (Port.relink node adapter (some router)) } :=
      if_pos hknown
    obtain ⟨found, hfound⟩ := Option.isSome_iff_exists.mp
      (TreeMap.mem_iff_isSome_getElem?.mp ((hk.routers router).mpr hknown))
    by_cases hport : ∃ p ∈ net.ports, p.node = node ∧ p.adapter = adapter
    · obtain ⟨p, hp, rfl, rfl⟩ := hport
      obtain ⟨entries, hnode, hfind⟩ := hk.find?_of_port hw hp
      obtain ⟨hbefore, hother⟩ := hlinks p hp ⟨rfl, rfl, hknown⟩
      have hadd : (m.addLink p.node p.adapter router).2 =
          { nodes := m.nodes.insert p.node
              (modifyEntry p.adapter (fun entry => { entry with router := some router }) entries)
            routers := m.routers.insert router (found.addParticipant p.node p.client) } := by
        simp [NetworkTrafficManager.addLink, hnode, hfound, hfind, Port.entry]
      rw [hstep, hadd]
      constructor
      · intro n
        rw [hk.entries_relink hw hnode, portsOf_map fun _ => Port.node_relink]
      · intro r
        rw [TreeMap.mem_insert, Std.compare_eq_iff_eq, hk.routers]
        constructor
        · rintro (rfl | h)
          · exact hknown
          · exact h
        · exact .inr
      · apply hk.participants_addLink hw hp hfound hbefore
        intro q hq hnode hrouter
        exact hw.eq_of_adapter hq hp (hother q hq ⟨hnode, hrouter⟩)
    · have hno : ∀ p ∈ net.ports, p.node = node → p.adapter ≠ adapter := by
        intro p hp hnode hadapter
        exact hport ⟨p, hp, hnode, hadapter⟩
      have hadd : (m.addLink node adapter router).2 = m := by
        rw [NetworkTrafficManager.addLink]
        cases hnode : m.nodes[node]? with
        | none => rfl
        | some entries => simp only [hfound, hk.find?_of_no_port hno hnode]
      have hports : net.ports.map (Port.relink node adapter (some router)) = net.ports :=
        Port.map_relink_eq_self fun p hp hnode hadapter => absurd hadapter (hno p hp hnode)
      rw [hstep, hadd, hports]
      exact hk
  · have hstep : net.step (.addLink node adapter router) = net := if_neg hknown
    have hnone : m.routers[router]? = none :=
      TreeMap.getElem?_eq_none fun h => hknown ((hk.routers router).mp h)
    have hadd : (m.addLink node adapter router).2 = m := by
      rw [NetworkTrafficManager.addLink, hnone]
      cases m.nodes[node]? <;> rfl
    rw [hstep, hadd]
    exact hk

theorem Keeps.removeLink (hk : Keeps m net) (hw : net.WellFormed) (ha : net.Apart)
    (node : NodeIdentifier) (adapter : AdapterIdentifier) :
    Keeps (m.removeLink node adapter) (net.step (.removeLink node adapter)) := by
  have hstep : net.step (.removeLink node adapter) =
      { net with ports := net.ports.map (Port.relink node adapter none) } := rfl
  by_cases hport : ∃ p ∈ net.ports, p.node = node ∧ p.adapter = adapter
  · obtain ⟨p, hp, rfl, rfl⟩ := hport
    obtain ⟨entries, hnode, hfind⟩ := hk.find?_of_port hw hp
    cases hrouter : p.router with
    | none =>
      have hremove : m.removeLink p.node p.adapter = m := by
        simp [NetworkTrafficManager.removeLink, hnode, hfind, Port.entry, hrouter]
      have hports : net.ports.map (Port.relink p.node p.adapter none) = net.ports := by
        apply Port.map_relink_eq_self
        intro q hq _ hadapter
        rw [hw.eq_of_adapter hq hp hadapter, hrouter]
      rw [hstep, hremove, hports]
      exact hk
    | some router =>
      have hremove : m.removeLink p.node p.adapter =
          { nodes := m.nodes.insert p.node
              (modifyEntry p.adapter (fun entry => { entry with router := none }) entries)
            routers := modifyRouter router (·.removeParticipant p.node) m.routers } := by
        simp [NetworkTrafficManager.removeLink, hnode, hfind, Port.entry, hrouter]
      rw [hstep, hremove]
      constructor
      · intro n
        rw [hk.entries_relink hw hnode, portsOf_map fun _ => Port.node_relink]
      · intro r
        rw [mem_modifyRouter]
        exact hk.routers r
      · exact hk.participants_removeLink hw ha hp hrouter
  · have hno : ∀ p ∈ net.ports, p.node = node → p.adapter ≠ adapter := by
      intro p hp hnode hadapter
      exact hport ⟨p, hp, hnode, hadapter⟩
    have hremove : m.removeLink node adapter = m := by
      rw [NetworkTrafficManager.removeLink]
      cases hnode : m.nodes[node]? with
      | none => rfl
      | some entries => simp only [hk.find?_of_no_port hno hnode]
    have hports : net.ports.map (Port.relink node adapter none) = net.ports :=
      Port.map_relink_eq_self fun p hp hnode hadapter => absurd hadapter (hno p hp hnode)
    rw [hstep, hremove, hports]
    exact hk

theorem Keeps.call (hk : Keeps m net) (hw : net.WellFormed) (ha : net.Apart) {call : TrafficCall}
    (hlinks : net.LinksApart call) : Keeps (m.call call) (net.step call) := by
  cases call with
  | addNode node adapter client => exact hk.addNode node adapter client
  | removeNode node => exact hk.removeNode node
  | addRouter router => exact hk.addRouter router
  | removeRouter router => exact hk.removeRouter router
  | addLink node adapter router => exact hk.addLink hw hlinks
  | removeLink node adapter => exact hk.removeLink hw ha node adapter

end

structure Simulates (m : NetworkTrafficManager) (net : LinkedNetwork) : Prop where
  keeps : Keeps m net
  wellFormed : net.WellFormed
  apart : net.Apart

theorem simulates_run {calls : List TrafficCall}
    (honce : Throughout LinkedNetwork.step LinkedNetwork.AddsOnce {} calls)
    (hlinks : Throughout LinkedNetwork.step LinkedNetwork.LinksApart {} calls) :
    Simulates (calls.foldl NetworkTrafficManager.call {})
      (calls.foldl LinkedNetwork.step {}) := by
  have hempty : Simulates {} {} :=
    ⟨keeps_empty, LinkedNetwork.wellFormed_empty, LinkedNetwork.apart_empty⟩
  refine (honce.and hlinks).simulation hempty ?_
  rintro m net call ⟨hk, hw, ha⟩ ⟨hadds, hapart⟩
  exact ⟨hk.call hw ha hapart, hw.step hadds, ha.step hw hapart⟩

-- ---------------------------------------------------------------------------
-- Delivery
-- ---------------------------------------------------------------------------

section
variable {m : NetworkTrafficManager} {net : LinkedNetwork}

/-- The participants of other nodes are the hearers. -/
theorem Keeps.participants_perm (hk : Keeps m net) (hw : net.WellFormed) {p : Port}
    {router : RouterIdentifier} {r : NetworkRouter} (hr : m.routers[router]? = some r)
    (hrouter : p.router = some router) :
    (r.participants.toList.filter fun participant => participant.1 ≠ p.node).Perm
      ((net.hearers p).map fun q => (q.node, q.client)) := by
  have hports : net.ports.Nodup := hw.adapters.of_map _
  have hclients : ((net.hearers p).map fun q => (q.node, q.client)).Nodup := by
    refine (hports.filter _).map_on ?_
    intro q hq q' hq' heq
    have hclient := congrArg Prod.snd heq
    exact hw.eq_of_address (List.mem_filter.mp hq).1 (List.mem_filter.mp hq').1
      (congrArg (fun client => client.info.adapter) hclient)
  rw [List.perm_ext_iff_of_nodup ((nodup_toList _).filter _) hclients]
  rintro ⟨n, client⟩
  have hpart : r.participants[n]? = participant m.routers router n := by
    rw [participant, hr]
    rfl
  rw [List.mem_filter, TreeMap.mem_toList_iff_getElem?_eq_some, hpart, hk.participants,
    List.mem_map]
  constructor
  · rintro ⟨⟨q, hq, rfl, rfl, hqrouter⟩, hne⟩
    refine ⟨q, List.mem_filter.mpr ⟨hq, ?_⟩, rfl⟩
    have hother : q.node ≠ p.node := of_decide_eq_true hne
    simp [hother, hrouter, hqrouter]
  · rintro ⟨q, hq, heq⟩
    obtain ⟨rfl, rfl⟩ := Prod.mk.inj heq
    obtain ⟨hq, hhears⟩ := List.mem_filter.mp hq
    obtain ⟨hne, -, hqrouter⟩ := of_decide_eq_true hhears
    exact ⟨⟨q, hq, rfl, rfl, hqrouter.trans hrouter⟩, decide_eq_true hne⟩

theorem LinkedNetwork.hearers_of_unlinked {p : Port} (h : p.router = none) :
    net.hearers p = [] := by
  simp [hearers, h]

/-- What one of the adapters sends goes to its hearers. -/
theorem Keeps.dataSent_perm (hk : Keeps m net) (hw : net.WellFormed) {p : Port}
    (hp : p ∈ net.ports) {info : UdpInfo} (hinfo : p.address = info.adapter) (data : List Byte) :
    (m.dataSent p.node info data).Perm
      ((net.hearers p).map fun q => ⟨q.client, data, info.adapter⟩) := by
  obtain ⟨entries, hnode, -⟩ := hk.find?_of_port hw hp
  have hentries := hk.entries p.node
  rw [hnode, Option.getD_some] at hentries
  have hmem : p ∈ net.portsOf p.node := List.mem_filter.mpr ⟨hp, decide_eq_true rfl⟩
  have hdistinct : (net.portsOf p.node).Nodup := (hw.adapters.of_map _).filter _
  rw [NetworkTrafficManager.dataSent, hnode]
  dsimp only
  -- no other adapter of the node has the address
  rw [hentries, List.flatMap_map, flatMap_of_mem hdistinct _ hmem]
  · have haddress : p.entry.client.info.adapter = info.adapter := hinfo
    rw [if_pos haddress]
    cases hrouter : p.router with
    | none =>
      rw [LinkedNetwork.hearers_of_unlinked hrouter]
      simp [Port.entry, hrouter]
    | some router =>
      have hknown : router ∈ m.routers := (hk.routers router).mpr (hw.routers p hp router hrouter)
      obtain ⟨r, hr⟩ := Option.isSome_iff_exists.mp (TreeMap.mem_iff_isSome_getElem?.mp hknown)
      simp only [Port.entry, hrouter, hr, NetworkRouter.dataSent]
      have hperm := (hk.participants_perm hw hr hrouter).map fun participant =>
        (⟨participant.2, data, info.adapter⟩ : Reception)
      rwa [List.map_map] at hperm
  · intro q hq hne
    rw [if_neg]
    intro haddress
    exact hne (hw.eq_of_address (List.mem_filter.mp hq).1 hp (haddress.trans hinfo.symm))

theorem Keeps.dataSent_eq_nil (hk : Keeps m net) {node : NodeIdentifier} {info : UdpInfo}
    (hno : ∀ p ∈ net.ports, p.node = node → p.address ≠ info.adapter) (data : List Byte) :
    m.dataSent node info data = [] := by
  rw [NetworkTrafficManager.dataSent]
  cases hnode : m.nodes[node]? with
  | none => rfl
  | some entries =>
    have hentries := hk.entries node
    rw [hnode, Option.getD_some] at hentries
    dsimp only
    rw [hentries, List.flatMap_map, List.flatMap_eq_nil_iff]
    intro p hp
    obtain ⟨hp, hthis⟩ := List.mem_filter.mp hp
    exact if_neg (hno p hp (of_decide_eq_true hthis))

end

/-- In all runs in which no adapter is linked to a second router and no router
to a second adapter of a node, a multicast is received once by the adapters of
the other nodes on the router of its sender, and by nobody else. -/
theorem delivered_to_hearers {calls : List TrafficCall}
    (honce : Throughout LinkedNetwork.step LinkedNetwork.AddsOnce {} calls)
    (hlinks : Throughout LinkedNetwork.step LinkedNetwork.LinksApart {} calls)
    (node : NodeIdentifier) (info : UdpInfo) (data : List Byte) :
    (∀ p ∈ (calls.foldl LinkedNetwork.step {}).ports, p.node = node → p.address = info.adapter →
      ((calls.foldl NetworkTrafficManager.call {}).dataSent node info data).Perm
        (((calls.foldl LinkedNetwork.step {}).hearers p).map fun q =>
          ⟨q.client, data, info.adapter⟩)) ∧
    ((∀ p ∈ (calls.foldl LinkedNetwork.step {}).ports, p.node = node →
        p.address = info.adapter → p.router = none) →
      (calls.foldl NetworkTrafficManager.call {}).dataSent node info data = []) := by
  obtain ⟨hk, hw, -⟩ := simulates_run honce hlinks
  constructor
  · rintro p hp rfl hinfo
    exact hk.dataSent_perm hw hp hinfo data
  · intro hunlinked
    by_cases hport : ∃ p ∈ (calls.foldl LinkedNetwork.step {}).ports,
        p.node = node ∧ p.address = info.adapter
    · obtain ⟨p, hp, rfl, hinfo⟩ := hport
      have hperm := hk.dataSent_perm hw hp hinfo data
      rw [LinkedNetwork.hearers_of_unlinked (hunlinked p hp rfl hinfo)] at hperm
      exact hperm.eq_nil
    · apply hk.dataSent_eq_nil
      intro p hp hnode hinfo
      exact hport ⟨p, hp, hnode, hinfo⟩

/-- The client of an adapter with this address. -/
def clientAt (node : NodeIdentifier) (address : UInt32) : SimulatorUdpClient :=
  ⟨node, ⟨⟨address⟩, 1024, ⟨3758096385⟩⟩⟩

def twoNodes : List TrafficCall :=
  [.addRouter 8, .addRouter 9, .addNode 1 10 (clientAt 1 100), .addNode 2 20 (clientAt 2 200),
    .addLink 1 10 9, .addLink 2 20 9]

/-- The adapter of node 2 goes from router 9 to router 8. -/
def relinked : List TrafficCall := twoNodes ++ [.addLink 2 20 8]

def secondAdapter : List TrafficCall :=
  twoNodes ++ [.addNode 2 21 (clientAt 2 201), .addLink 2 21 9]

theorem delivered_to_hearers_twoNodes :
    ((twoNodes.foldl NetworkTrafficManager.call {}).dataSent 1 (clientAt 1 100).info [7]).Perm
      [⟨clientAt 2 200, [7], ⟨100⟩⟩] :=
  (delivered_to_hearers (by decide +kernel) (by decide +kernel) 1
    (clientAt 1 100).info [7]).1 ⟨1, 10, clientAt 1 100, some 9⟩ (by decide +kernel) rfl rfl

/-- The adapter that is on router 8 now still hears what is sent on router 9. -/
theorem relinked_adapter_reached :
    Throughout LinkedNetwork.step LinkedNetwork.AddsOnce {} relinked ∧
      ⟨1, 10, clientAt 1 100, some 9⟩ ∈ (relinked.foldl LinkedNetwork.step {}).ports ∧
      (relinked.foldl LinkedNetwork.step {}).hearers ⟨1, 10, clientAt 1 100, some 9⟩ = [] ∧
      (relinked.foldl NetworkTrafficManager.call {}).dataSent 1 (clientAt 1 100).info [7] =
        [⟨clientAt 2 200, [7], ⟨100⟩⟩] := by
  decide +kernel

/-- The second adapter of node 2 on router 9 hears nothing. -/
example :
    (secondAdapter.foldl LinkedNetwork.step {}).hearers ⟨1, 10, clientAt 1 100, some 9⟩ =
        [⟨2, 20, clientAt 2 200, some 9⟩, ⟨2, 21, clientAt 2 201, some 9⟩] ∧
      (secondAdapter.foldl NetworkTrafficManager.call {}).dataSent 1 (clientAt 1 100).info [7] =
        [⟨clientAt 2 200, [7], ⟨100⟩⟩] := by
  decide +kernel

end Discnet.Sim
