import Discnet.Sim.Simulator

/-!
# Isolation

A simulated node hears over routers and in no other way. Whatever its network
handler raises was written by a client of another node while its adapter was
linked to a router that had the client it came in by. As long as no adapter is
linked anew before its link is removed, that one is linked to the router, too.
-/

namespace Discnet

open Lib Network Network.Messages

-- ---------------------------------------------------------------------------
-- The clients of a handler
-- ---------------------------------------------------------------------------

namespace Network

theorem AdapterInit.starting?_receiveBytes (info : UdpInfo) (data : List Byte) (sender : Address)
    (init : AdapterInit) : (init.receiveBytes info data sender).starting? =
      init.starting?.map (·.receiveBytes info data sender) := by
  cases init with
  | pending client => rfl
  | ready result => cases result <;> rfl
  | taken => rfl

namespace NetworkHandler

variable {h : NetworkHandler} {client : NetworkClient}

theorem openClients_receiveBytes (info : UdpInfo) (data : List Byte) (sender : Address)
    (h : NetworkHandler) : (h.receiveBytes info data sender).openClients =
      h.openClients.map (·.receiveBytes info data sender) := by
  simp [openClients, receiveBytes, List.filterMap_map, AdapterInit.starting?_receiveBytes,
    List.map_filterMap]

theorem openClients_addClient {adapter : Adapter}
    (hclient : client ∈ (h.addClient adapter).openClients) :
    client ∈ h.openClients ∨ client.dataHandler = .new 4095 := by
  rw [addClient] at hclient
  cases hlist : adapter.addressList with
  | nil =>
    rw [hlist] at hclient
    split_ifs at hclient <;> exact .inl hclient
  | cons front rest =>
    rw [hlist] at hclient
    split_ifs at hclient
    · exact .inl hclient
    · exact .inl hclient
    · rw [openClients, List.filterMap_append, ← List.append_assoc] at hclient
      rcases List.mem_append.mp hclient with hclient | hclient
      · exact .inl hclient
      · obtain rfl : client = _ := List.mem_singleton.mp hclient
        exact .inr rfl

theorem openClients_removeClient {adapter : Adapter}
    (hclient : client ∈ (h.removeClient adapter).openClients) : client ∈ h.openClients := by
  rcases List.mem_append.mp hclient with hclient | hclient
  · exact List.mem_append_left _ (List.mem_of_mem_eraseP hclient)
  · exact List.mem_append_right _ hclient

/-- An event about an adapter makes new clients only. -/
theorem openClients_handleAdapterEvent {event : AdapterEvent}
    (hclient : client ∈ (h.handleAdapterEvent event).openClients) :
    client ∈ h.openClients ∨ client.dataHandler = .new 4095 := by
  cases event with
  | new adapter => exact openClients_addClient hclient
  | removed adapter => exact .inl (openClients_removeClient hclient)
  | changed previous current =>
    simp only [handleAdapterEvent, adapterChanged] at hclient
    split at hclient
    · exact .inl hclient
    · split_ifs at hclient
      · rcases openClients_addClient hclient with hclient | hclient
        · exact .inl (openClients_removeClient hclient)
        · exact .inr hclient
      · exact .inl hclient

end NetworkHandler

end Network

namespace Sim

open Std

-- ---------------------------------------------------------------------------
-- What can be heard
-- ---------------------------------------------------------------------------

def Happening.call? : Happening → Option TrafficCall
  | .called call => some call
  | _ => none

/-- A client that is added belongs to its node. -/
def TrafficCall.AddsOwn : TrafficCall → Prop
  | .addNode node _ client => client.identifier = node
  | _ => True

/-- The router that the adapter is linked to. -/
def NetworkTrafficManager.linkOf (m : NetworkTrafficManager) (node : NodeIdentifier)
    (adapter : AdapterIdentifier) : Option RouterIdentifier := do
  let entries ← m.nodes[node]?
  let entry ← entries.find? (·.adapterIdentifier = adapter)
  entry.router

/-- An adapter is linked while it is linked to no other router. -/
def NetworkTrafficManager.LinksFree (m : NetworkTrafficManager) : TrafficCall → Prop
  | .addLink node adapter router =>
    m.linkOf node adapter = none ∨ m.linkOf node adapter = some router
  | _ => True

instance (m : NetworkTrafficManager) : ∀ call, Decidable (m.LinksFree call)
  | .addLink .. => inferInstanceAs (Decidable (_ ∨ _))
  | .addNode .. | .removeNode _ | .addRouter _ | .removeRouter _ | .removeLink .. =>
    instDecidableTrue

/-- What is called, where `free` says whether adapters are linked freely. -/
def NetworkTrafficManager.Careful (free : Prop) (m : NetworkTrafficManager) (call : TrafficCall) :
    Prop :=
  call.AddsOwn ∧ (free → m.LinksFree call)

/-- The traffic manager after what happened. -/
def managerAfter (history : List Happening) : NetworkTrafficManager :=
  (history.filterMap Happening.call?).foldl NetworkTrafficManager.call {}

/-- The packet was written by a client with the address of the sender, and by
the links of the time it reached the receiver. -/
def Heard (md5 : List Byte → Digest) (history : List Happening) (receiver : SimulatorUdpClient)
    (sender : Address) (packet : Packet) : Prop :=
  ∃ q client message, history[q]? = some (.multicast client
      (transmission md5 [.discovery message])) ∧
    client.info.adapter = sender ∧ packet = ⟨[.discovery message]⟩ ∧
    ⟨receiver, transmission md5 [.discovery message], sender⟩ ∈
      (managerAfter (history.take q)).dataSent client.identifier client.info
        (transmission md5 [.discovery message])

/-- The event comes from a packet that one of the node's clients heard. -/
def Overheard (md5 : List Byte → Digest) (history : List Happening) (node : NodeIdentifier)
    (event : NetworkEvent) : Prop :=
  ∃ info packet, Heard md5 history ⟨node, info⟩ event.info.sender packet ∧
    event.message ∈ packet.messages ∧ event.info.adapter = info.adapter

def SimulatedNode.sockets (node : SimulatedNode) : List NetworkClient :=
  node.components.networkHandler.openClients

/-- All that waits in the streams was heard, and all that was raised. -/
structure Genuine (md5 : List Byte → Digest) (free : Prop) (s : Simulator) : Prop where
  manager : s.trafficManager = managerAfter s.history
  calls : Throughout NetworkTrafficManager.call (NetworkTrafficManager.Careful free) {}
    (s.history.filterMap Happening.call?)
  streams : ∀ (id : NodeIdentifier) node, s.nodes[id]? = some node → ∀ client ∈ node.sockets,
    client.Orderly md5 (Heard md5 s.history ⟨id, client.info⟩)
  raised : ∀ p id event, s.history[p]? = some (.raised id event) →
    Overheard md5 (s.history.take p) id event

/-- The client creator reads the first address of every adapter. -/
def SimulatorCall.AddsAddressed : SimulatorCall → Prop
  | .addAdapter _ _ adapter => adapter.addressList ≠ []
  | _ => True

namespace Simulator

/-- When the node updates, none of its streams is longer than a vector can
be. -/
def InMemory (s : Simulator) (id : NodeIdentifier) : Prop :=
  ∀ node, (s.updateAdapters id).nodes[id]? = some node → ∀ client ∈ node.sockets, client.InMemory

/-- What holds whenever a node updates. -/
def EachNode (md5 : List Byte → Digest) (P : Simulator → NodeIdentifier → Prop) (s : Simulator) :
    SimulatorCall → Prop
  | .update time => Throughout (updateNode md5 time) P s s.nodes.keys
  | _ => True

/-- A run in which adapters are added with an address and no stream outgrows
the memory. -/
def Runs (md5 : List Byte → Digest) (calls : List SimulatorCall) : Prop :=
  Throughout (step md5) (fun s call => call.AddsAddressed ∧ s.EachNode md5 InMemory call) {} calls

def LinksFree (s : Simulator) : SimulatorCall → Prop
  | .addLink node adapter router => s.trafficManager.LinksFree (.addLink node adapter router)
  | _ => True

instance (s : Simulator) (id : NodeIdentifier) : Decidable (s.InMemory id) :=
  match h : (s.updateAdapters id).nodes[id]? with
  | none => .isTrue (by simp [InMemory, h])
  | some node => decidable_of_iff (∀ client ∈ node.sockets, client.InMemory) (by simp [InMemory, h])

instance {P : Simulator → NodeIdentifier → Prop} [∀ s id, Decidable (P s id)]
    (md5 : List Byte → Digest) (s : Simulator) : ∀ call, Decidable (s.EachNode md5 P call)
  | .update _ => inferInstanceAs (Decidable (Throughout _ _ _ _))
  | .addNode .. | .removeNode _ | .addRouter _ | .removeRouter _ | .addAdapter .. |
    .removeAdapter .. | .addLink .. | .removeLink .. | .complete .. => instDecidableTrue

instance : ∀ call : SimulatorCall, Decidable call.AddsAddressed
  | .addAdapter .. => inferInstanceAs (Decidable (_ ≠ _))
  | .addNode .. | .removeNode _ | .addRouter _ | .removeRouter _ | .removeAdapter .. |
    .addLink .. | .removeLink .. | .complete .. | .update _ => instDecidableTrue

instance (md5 : List Byte → Digest) (calls : List SimulatorCall) : Decidable (Runs md5 calls) :=
  inferInstanceAs (Decidable (Throughout _ _ _ _))

instance (s : Simulator) : ∀ call, Decidable (s.LinksFree call)
  | .addLink node adapter router =>
    inferInstanceAs (Decidable (s.trafficManager.LinksFree (.addLink node adapter router)))
  | .addNode .. | .removeNode _ | .addRouter _ | .removeRouter _ | .addAdapter .. |
    .removeAdapter .. | .removeLink .. | .complete .. | .update _ => instDecidableTrue

end Simulator

variable {md5 : List Byte → Digest} {history history' : List Happening}

theorem take_of_isPrefix {α : Type} {l l' : List α} {q : Nat} (h : l <+: l') (hq : q ≤ l.length) :
    l'.take q = l.take q := by
  obtain ⟨rest, rfl⟩ := h
  rw [List.take_append_of_le_length hq]

theorem Heard.mono (h : history <+: history') {receiver : SimulatorUdpClient}
    {sender : Address} {packet : Packet} (hs : Heard md5 history receiver sender packet) :
    Heard md5 history' receiver sender packet := by
  obtain ⟨q, client, message, hq, hrest⟩ := hs
  have hlt := (List.getElem?_eq_some_iff.mp hq).1
  refine ⟨q, client, message, getElem?_of_isPrefix h hq, ?_⟩
  rwa [take_of_isPrefix h (Nat.le_of_lt hlt)]

theorem managerAfter_append (history happenings : List Happening) :
    managerAfter (history ++ happenings) =
      (happenings.filterMap Happening.call?).foldl NetworkTrafficManager.call
        (managerAfter history) := by
  rw [managerAfter, List.filterMap_append, List.foldl_append, managerAfter]

/-- What is received comes over a router of one of the sender's adapters. -/
theorem of_mem_dataSent {m : NetworkTrafficManager} {node : NodeIdentifier} {info : UdpInfo}
    {data : List Byte} {reception : Reception} (h : reception ∈ m.dataSent node info data) :
    reception.data = data ∧ reception.sender = info.adapter ∧
      ∃ entries, m.nodes[node]? = some entries ∧ ∃ entry ∈ entries,
        entry.client.info.adapter = info.adapter ∧ ∃ router, entry.router = some router ∧
          ∃ n, n ≠ node ∧ participant m.routers router n = some reception.client := by
  rw [NetworkTrafficManager.dataSent] at h
  cases hnode : m.nodes[node]? with
  | none => simp [hnode] at h
  | some entries =>
    simp only [hnode, List.mem_flatMap] at h
    obtain ⟨entry, hentry, h⟩ := h
    split_ifs at h with haddress
    cases hrouter : entry.router with
    | none => simp [hrouter] at h
    | some router =>
      cases hr : m.routers[router]? with
      | none => simp [hrouter, hr] at h
      | some r =>
        simp only [hrouter, hr, NetworkRouter.dataSent] at h
        obtain ⟨⟨n, client⟩, hmem, rfl⟩ := List.mem_map.mp h
        obtain ⟨hmem, hne⟩ := List.mem_filter.mp hmem
        refine ⟨rfl, rfl, entries, rfl, entry, hentry, haddress, router, hrouter, n,
          of_decide_eq_true hne, ?_⟩
        rw [participant, hr]
        exact TreeMap.mem_toList_iff_getElem?_eq_some.mp hmem
    · contradiction

theorem of_mem_multicasts {node : SimulatedNode} {id : NodeIdentifier}
    {sent : SimulatorUdpClient × List Byte} (h : sent ∈ node.multicasts md5 id) :
    sent.1.identifier = id ∧
      ∃ message : DiscoveryMessage, sent.2 = transmission md5 [.discovery message] := by
  simp only [SimulatedNode.multicasts, List.mem_filterMap, Option.bind_eq_bind,
    Option.bind_eq_some_iff, NetworkHandler.transmitMulticast_eq] at h
  obtain ⟨entry, -, client, hclient, datagram, hdatagram, hsent⟩ := h
  rw [hclient, Option.map_some, Option.some.injEq] at hdatagram
  have heq := Option.some.inj hsent
  rw [← heq, ← hdatagram]
  refine ⟨rfl, entry.2, ?_⟩
  dsimp only
  rw [NetworkHandler.data_write]

-- ---------------------------------------------------------------------------
-- Whose clients the manager has
-- ---------------------------------------------------------------------------

/-- The manager knows every client by its node. -/
structure Named (m : NetworkTrafficManager) : Prop where
  entries : ∀ (node : NodeIdentifier) entries, m.nodes[node]? = some entries →
    ∀ entry ∈ entries, entry.client.identifier = node
  participants : ∀ router node client, participant m.routers router node = some client →
    client.identifier = node

theorem mem_modifyEntry {f : AdapterEntry → AdapterEntry}
    (hf : ∀ entry, (f entry).client = entry.client) {adapter : AdapterIdentifier}
    {entries : List AdapterEntry} {entry : AdapterEntry}
    (h : entry ∈ modifyEntry adapter f entries) :
    ∃ old ∈ entries, entry.client = old.client := by
  induction entries with
  | nil => contradiction
  | cons first rest ih =>
    rw [modifyEntry] at h
    split_ifs at h
    · rcases List.mem_cons.mp h with rfl | h
      · exact ⟨first, List.mem_cons_self, hf first⟩
      · exact ⟨entry, List.mem_cons_of_mem _ h, rfl⟩
    · rcases List.mem_cons.mp h with rfl | h
      · exact ⟨entry, List.mem_cons_self, rfl⟩
      · obtain ⟨old, hold, heq⟩ := ih h
        exact ⟨old, List.mem_cons_of_mem _ hold, heq⟩

namespace Named

variable {m : NetworkTrafficManager} {node : NodeIdentifier}

theorem empty : Named {} := by
  constructor <;> simp [participant]

theorem insert (hm : Named m) {entries : List AdapterEntry} {routers : Routers}
    (hentries : ∀ entry ∈ entries, entry.client.identifier = node)
    (hrouters : ∀ r n client, participant routers r n = some client → client.identifier = n) :
    Named ⟨m.nodes.insert node entries, routers⟩ := by
  refine ⟨fun other others hother => ?_, hrouters⟩
  rw [TreeMap.getElem?_insert] at hother
  split at hother
  · rename_i hsame
    obtain rfl := compare_eq_iff_eq.mp hsame
    obtain rfl := Option.some.inj hother
    exact hentries
  · exact hm.entries other others hother

theorem removed (hm : Named m) (router : RouterIdentifier) (r : RouterIdentifier)
    (n : NodeIdentifier) (client : SimulatorUdpClient)
    (h : participant (modifyRouter router (·.removeParticipant node) m.routers) r n =
      some client) : client.identifier = n := by
  rw [participant_remove] at h
  split_ifs at h
  exact hm.participants r n client h

theorem addNode (hm : Named m) (adapter : AdapterIdentifier) {client : SimulatorUdpClient}
    (hown : client.identifier = node) : Named (m.addNode node adapter client) := by
  rw [NetworkTrafficManager.addNode]
  cases hnode : m.nodes[node]? with
  | none => exact hm.insert (by simpa using hown) hm.participants
  | some entries =>
    refine hm.insert (fun entry hentry => ?_) hm.participants
    rcases List.mem_append.mp hentry with hentry | hentry
    · exact hm.entries node entries hnode entry hentry
    · rw [List.mem_singleton.mp hentry]
      exact hown

theorem removeNode (hm : Named m) : Named (m.removeNode node) := by
  rw [NetworkTrafficManager.removeNode]
  cases hnode : m.nodes[node]? with
  | none => exact hm
  | some entries =>
    constructor
    · intro other others hother
      rw [TreeMap.getElem?_erase] at hother
      split at hother
      · contradiction
      · exact hm.entries other others hother
    · intro r n client h
      rw [participant_leaveRouters] at h
      split_ifs at h
      exact hm.participants r n client h

theorem removeRouter (hm : Named m) (router : RouterIdentifier) :
    Named (m.removeRouter router) := by
  constructor
  · intro other others hother entry hentry
    rw [NetworkTrafficManager.removeRouter, TreeMap.getElem?_map, Option.map_eq_some_iff] at hother
    obtain ⟨entries, hentries, rfl⟩ := hother
    obtain ⟨old, hold, rfl⟩ := List.mem_map.mp hentry
    rw [NetworkTrafficManager.unlinkFrom]
    split_ifs <;> exact hm.entries other entries hentries old hold
  · intro r n client h
    rw [NetworkTrafficManager.removeRouter, participant_erase] at h
    split_ifs at h
    exact hm.participants r n client h

theorem relinked (hm : Named m) {entries : List AdapterEntry}
    (hentries : m.nodes[node]? = some entries) (adapter : AdapterIdentifier)
    (router : Option RouterIdentifier) :
    ∀ entry ∈ modifyEntry adapter (fun entry => { entry with router := router }) entries,
      entry.client.identifier = node := by
  intro entry hentry
  obtain ⟨old, hold, heq⟩ :=
    mem_modifyEntry (f := fun entry => { entry with router := router }) (fun _ => rfl) hentry
  rw [heq]
  exact hm.entries node entries hentries old hold

theorem addLink (hm : Named m) (adapter : AdapterIdentifier) (router : RouterIdentifier) :
    Named (m.addLink node adapter router).2 := by
  rw [NetworkTrafficManager.addLink]
  cases hnode : m.nodes[node]? with
  | none => exact hm
  | some entries =>
    cases hrouter : m.routers[router]? with
    | none => exact hm
    | some found =>
      dsimp only
      cases hentry : entries.find? (·.adapterIdentifier = adapter) with
      | none => exact hm
      | some linked =>
        refine hm.insert (hm.relinked hnode adapter (some router)) fun r n client h => ?_
        rw [participant_add _ hrouter] at h
        split_ifs at h with hsame
        · obtain ⟨-, rfl⟩ := hsame
          cases hbefore : participant m.routers r node with
          | none =>
            rw [hbefore] at h
            cases h
            exact hm.entries node entries hnode linked (List.mem_of_find?_eq_some hentry)
          | some other =>
            rw [hbefore] at h
            cases h
            exact hm.participants r node _ hbefore
        · exact hm.participants r n client h

theorem removeLink (hm : Named m) (adapter : AdapterIdentifier) :
    Named (m.removeLink node adapter) := by
  rw [NetworkTrafficManager.removeLink]
  cases hnode : m.nodes[node]? with
  | none => exact hm
  | some entries =>
    dsimp only
    cases hentry : entries.find? (·.adapterIdentifier = adapter) with
    | none => exact hm
    | some linked =>
      dsimp only
      cases hrouter : linked.router with
      | none => exact hm
      | some router => exact hm.insert (hm.relinked hnode adapter none) (hm.removed router)

theorem call (hm : Named m) {call : TrafficCall} (hown : call.AddsOwn) : Named (m.call call) := by
  cases call with
  | addNode node adapter client => exact hm.addNode adapter hown
  | removeNode node => exact hm.removeNode
  | addRouter router =>
    refine ⟨hm.entries, fun r n client h => ?_⟩
    rw [NetworkTrafficManager.call, NetworkTrafficManager.addRouter,
      participant_insertIfNew] at h
    exact hm.participants r n client h
  | removeRouter router => exact hm.removeRouter router
  | addLink node adapter router => exact hm.addLink adapter router
  | removeLink node adapter => exact hm.removeLink adapter

end Named

-- ---------------------------------------------------------------------------
-- Whose adapters the routers have
-- ---------------------------------------------------------------------------

/-- Whoever takes part in a router has an adapter that is linked to it. -/
def Linked (m : NetworkTrafficManager) : Prop :=
  ∀ router node client, participant m.routers router node = some client →
    ∃ entries, m.nodes[node]? = some entries ∧
      ∃ entry ∈ entries, entry.client = client ∧ entry.router = some router

/-- An entry stays, or is the one that is changed. -/
theorem modifyEntry_keeps (f : AdapterEntry → AdapterEntry) (adapter : AdapterIdentifier)
    {entries : List AdapterEntry} {entry : AdapterEntry} (h : entry ∈ entries) :
    entry ∈ modifyEntry adapter f entries ∨
      entries.find? (·.adapterIdentifier = adapter) = some entry := by
  induction entries with
  | nil => contradiction
  | cons first rest ih =>
    rw [modifyEntry, List.find?_cons]
    by_cases hfirst : first.adapterIdentifier = adapter
    · rw [if_pos hfirst, decide_eq_true hfirst]
      rcases List.mem_cons.mp h with rfl | h
      · exact .inr rfl
      · exact .inl (List.mem_cons_of_mem _ h)
    · rw [if_neg hfirst, decide_eq_false hfirst]
      rcases List.mem_cons.mp h with rfl | h
      · exact .inl List.mem_cons_self
      · exact (ih h).imp_left (List.mem_cons_of_mem _)

theorem mem_modifyEntry_of_find? {f : AdapterEntry → AdapterEntry} {adapter : AdapterIdentifier}
    {entries : List AdapterEntry} {entry : AdapterEntry}
    (h : entries.find? (·.adapterIdentifier = adapter) = some entry) :
    f entry ∈ modifyEntry adapter f entries := by
  induction entries with
  | nil => contradiction
  | cons first rest ih =>
    rw [List.find?_cons] at h
    rw [modifyEntry]
    by_cases hfirst : first.adapterIdentifier = adapter
    · rw [decide_eq_true hfirst] at h
      cases h
      rw [if_pos hfirst]
      exact List.mem_cons_self
    · rw [decide_eq_false hfirst] at h
      rw [if_neg hfirst]
      exact List.mem_cons_of_mem _ (ih h)

namespace Linked

variable {m : NetworkTrafficManager} {node : NodeIdentifier}

theorem empty : Linked {} := by
  intro router node client h
  simp [participant] at h

/-- Where the entries of one node change. -/
theorem insert (hm : Linked m) {entries : List AdapterEntry} {routers : Routers}
    (hself : ∀ router client, participant routers router node = some client →
      ∃ entry ∈ entries, entry.client = client ∧ entry.router = some router)
    (hothers : ∀ router other client, other ≠ node →
      participant routers router other = some client →
        participant m.routers router other = some client) :
    Linked ⟨m.nodes.insert node entries, routers⟩ := by
  intro router other client h
  rw [TreeMap.getElem?_insert]
  by_cases hsame : other = node
  · subst hsame
    exact ⟨entries, by simp, hself router client h⟩
  · rw [if_neg (by simpa using Ne.symm hsame)]
    exact hm router other client (hothers router other client hsame h)

theorem addNode (hm : Linked m) (adapter : AdapterIdentifier) (client : SimulatorUdpClient) :
    Linked (m.addNode node adapter client) := by
  rw [NetworkTrafficManager.addNode]
  cases hnode : m.nodes[node]? with
  | none =>
    refine hm.insert (fun router client h => ?_) fun _ _ _ _ h => h
    obtain ⟨entries, hentries, -⟩ := hm router node client h
    rw [hnode] at hentries
    contradiction
  | some entries =>
    refine hm.insert (fun router client h => ?_) fun _ _ _ _ h => h
    obtain ⟨others, hothers, entry, hentry, hlinked⟩ := hm router node client h
    obtain rfl := Option.some.inj (hnode.symm.trans hothers)
    exact ⟨entry, List.mem_append_left _ hentry, hlinked⟩

/-- The node leaves every router that it takes part in. -/
theorem removeNode (hm : Linked m) : Linked (m.removeNode node) := by
  rw [NetworkTrafficManager.removeNode]
  cases hnode : m.nodes[node]? with
  | none => exact hm
  | some entries =>
    intro router other client h
    rw [participant_leaveRouters] at h
    split_ifs at h with hleft
    obtain ⟨others, hothers, entry, hentry, hclient, hrouter⟩ := hm router other client h
    by_cases hsame : node = other
    · subst hsame
      obtain rfl := Option.some.inj (hnode.symm.trans hothers)
      exact absurd ⟨rfl, List.mem_map.mpr ⟨entry, hentry, hrouter⟩⟩ hleft
    · refine ⟨others, ?_, entry, hentry, hclient, hrouter⟩
      rw [TreeMap.getElem?_erase, if_neg (by simpa using hsame)]
      exact hothers

theorem removeRouter (hm : Linked m) (router : RouterIdentifier) :
    Linked (m.removeRouter router) := by
  intro r node client h
  rw [NetworkTrafficManager.removeRouter, participant_erase] at h
  split_ifs at h with hne
  obtain ⟨entries, hentries, entry, hentry, hclient, hrouter⟩ := hm r node client h
  refine ⟨entries.map (NetworkTrafficManager.unlinkFrom router), ?_, entry,
    List.mem_map.mpr ⟨entry, hentry, ?_⟩, hclient, hrouter⟩
  · rw [NetworkTrafficManager.removeRouter, TreeMap.getElem?_map, hentries]
    rfl
  · rw [NetworkTrafficManager.unlinkFrom, hrouter,
      if_neg fun heq => hne (Option.some.inj heq).symm]

/-- While an adapter is linked freely, the links of its node stay. -/
theorem stays (hm : Linked m) {adapter : AdapterIdentifier} {router : RouterIdentifier}
    (hfree : m.LinksFree (.addLink node adapter router)) {entries : List AdapterEntry}
    (hnode : m.nodes[node]? = some entries) {linked : AdapterEntry}
    (hentry : entries.find? (·.adapterIdentifier = adapter) = some linked)
    {r : RouterIdentifier} {client : SimulatorUdpClient}
    (h : participant m.routers r node = some client) :
    ∃ entry ∈ modifyEntry adapter (fun entry => { entry with router := some router }) entries,
      entry.client = client ∧ entry.router = some r := by
  obtain ⟨others, hothers, entry, hmem, hclient, hr⟩ := hm r node client h
  obtain rfl := Option.some.inj (hnode.symm.trans hothers)
  rcases modifyEntry_keeps (fun entry => { entry with router := some router }) adapter
    hmem with hstays | hsame
  · exact ⟨entry, hstays, hclient, hr⟩
  · obtain rfl := Option.some.inj (hentry.symm.trans hsame)
    have hlink : m.linkOf node adapter = some r := by
      simp [NetworkTrafficManager.linkOf, hnode, hentry, hr]
    obtain rfl : r = router := by
      rcases hfree with hnone | hsome
      · exact absurd (hlink.symm.trans hnone) (Option.some_ne_none r)
      · exact Option.some.inj (hlink.symm.trans hsome)
    exact ⟨_, mem_modifyEntry_of_find? hentry, hclient, rfl⟩

/-- An adapter that was linked to no other router takes its place in no other. -/
theorem addLink (hm : Linked m) {adapter : AdapterIdentifier} {router : RouterIdentifier}
    (hfree : m.LinksFree (.addLink node adapter router)) :
    Linked (m.addLink node adapter router).2 := by
  rw [NetworkTrafficManager.addLink]
  cases hnode : m.nodes[node]? with
  | none => exact hm
  | some entries =>
    cases hrouter : m.routers[router]? with
    | none => exact hm
    | some found =>
      dsimp only
      cases hentry : entries.find? (·.adapterIdentifier = adapter) with
      | none => exact hm
      | some linked =>
        refine hm.insert (fun r client h => ?_) fun r other client hne h => ?_
        · rw [participant_add _ hrouter] at h
          split_ifs at h with hsame
          · obtain ⟨rfl, -⟩ := hsame
            cases hbefore : participant m.routers router node with
            | none =>
              rw [hbefore] at h
              cases h
              exact ⟨_, mem_modifyEntry_of_find? hentry, rfl, rfl⟩
            | some other =>
              rw [hbefore] at h
              cases h
              exact hm.stays hfree hnode hentry hbefore
          · exact hm.stays hfree hnode hentry h
        · rw [participant_add _ hrouter, if_neg fun hsame => hne hsame.2.symm] at h
          exact h

theorem removeLink (hm : Linked m) (adapter : AdapterIdentifier) :
    Linked (m.removeLink node adapter) := by
  rw [NetworkTrafficManager.removeLink]
  cases hnode : m.nodes[node]? with
  | none => exact hm
  | some entries =>
    dsimp only
    cases hentry : entries.find? (·.adapterIdentifier = adapter) with
    | none => exact hm
    | some linked =>
      dsimp only
      cases hrouter : linked.router with
      | none => exact hm
      | some router =>
        refine hm.insert (fun r client h => ?_) fun r other client hne h => ?_
        · rw [participant_remove] at h
          split_ifs at h with hleft
          obtain ⟨others, hothers, entry, hmem, hclient, hr⟩ := hm r node client h
          obtain rfl := Option.some.inj (hnode.symm.trans hothers)
          rcases modifyEntry_keeps (fun entry => { entry with router := none }) adapter
            hmem with hstays | hsame
          · exact ⟨entry, hstays, hclient, hr⟩
          · obtain rfl := Option.some.inj (hentry.symm.trans hsame)
            exact absurd ⟨Option.some.inj (hrouter.symm.trans hr), rfl⟩ hleft
        · rw [participant_remove, if_neg fun hsame => hne hsame.2.symm] at h
          exact h

theorem call (hm : Linked m) {call : TrafficCall} (hfree : m.LinksFree call) :
    Linked (m.call call) := by
  cases call with
  | addNode node adapter client => exact hm.addNode adapter client
  | removeNode node => exact hm.removeNode
  | addRouter router =>
    intro r node client h
    rw [NetworkTrafficManager.call, NetworkTrafficManager.addRouter,
      participant_insertIfNew] at h
    exact hm r node client h
  | removeRouter router => exact hm.removeRouter router
  | addLink node adapter router => exact hm.addLink hfree
  | removeLink node adapter => exact hm.removeLink adapter

end Linked

section
variable {free : Prop} (h : Throughout NetworkTrafficManager.call
  (NetworkTrafficManager.Careful free) {} (history.filterMap Happening.call?))
include h

theorem named_managerAfter : Named (managerAfter history) :=
  h.invariant .empty fun _ _ _ hm hcall => hm.call hcall.1

theorem linked_managerAfter (hfree : free) : Linked (managerAfter history) :=
  h.invariant .empty fun _ _ _ hm hcall => hm.call (hcall.2 hfree)

end

-- ---------------------------------------------------------------------------
-- Small steps
-- ---------------------------------------------------------------------------

theorem genuine_empty (md5 : List Byte → Digest) (free : Prop) : Genuine md5 free {} := by
  constructor <;> simp [managerAfter, Throughout]

namespace Genuine

variable {free : Prop} {s : Simulator} {id : NodeIdentifier} {time : TimePoint}

theorem modifyNode (hs : Genuine md5 free s) {f : SimulatedNode → SimulatedNode}
    (hf : ∀ node, s.nodes[id]? = some node → ∀ client ∈ (f node).sockets,
      client.Orderly md5 (Heard md5 s.history ⟨id, client.info⟩)) :
    Genuine md5 free (s.modifyNode id f) := by
  refine ⟨hs.manager, hs.calls, fun other node hnode => ?_, hs.raised⟩
  rw [Simulator.modifyNode, TreeMap.getElem?_modify] at hnode
  split at hnode
  · rename_i hsame
    obtain rfl := compare_eq_iff_eq.mp hsame
    obtain ⟨found, hfound, rfl⟩ := Option.map_eq_some_iff.mp hnode
    exact hf found hfound
  · exact hs.streams other node hnode

/-- Where the clients stay the same. -/
theorem modifyNode_of_sockets (hs : Genuine md5 free s) {f : SimulatedNode → SimulatedNode}
    (hf : ∀ node, ∀ client ∈ (f node).sockets, client ∈ node.sockets) :
    Genuine md5 free (s.modifyNode id f) :=
  hs.modifyNode fun node hnode client hclient =>
    hs.streams id node hnode client (hf node client hclient)

theorem append (hs : Genuine md5 free s) {happenings : List Happening} {m : NetworkTrafficManager}
    (hm : m = (happenings.filterMap Happening.call?).foldl NetworkTrafficManager.call
      s.trafficManager)
    (hcalls : Throughout NetworkTrafficManager.call (NetworkTrafficManager.Careful free)
      s.trafficManager (happenings.filterMap Happening.call?))
    (hraised : ∀ id event, .raised id event ∈ happenings → Overheard md5 s.history id event) :
    Genuine md5 free { s with trafficManager := m, history := s.history ++ happenings } := by
  have hgrows : s.history <+: s.history ++ happenings := List.prefix_append ..
  constructor
  case manager => rw [managerAfter_append, ← hs.manager, hm]
  case calls =>
    rw [List.filterMap_append]
    refine hs.calls.append ?_
    rwa [hs.manager] at hcalls
  case streams =>
    intro id node hnode client hclient
    exact (hs.streams id node hnode client hclient).mono fun _ _ hheard => hheard.mono hgrows
  case raised =>
    intro p id event hevent
    rw [List.getElem?_append] at hevent
    split_ifs at hevent with hp
    · rw [take_of_isPrefix hgrows (Nat.le_of_lt hp)]
      exact hs.raised p id event hevent
    · obtain ⟨info, packet, hheard, hrest⟩ := hraised id event (List.mem_of_getElem? hevent)
      have hprefix : s.history <+: (s.history ++ happenings).take p := by
        rw [List.take_append, List.take_of_length_le (Nat.le_of_not_lt hp)]
        exact List.prefix_append ..
      exact ⟨info, packet, hheard.mono hprefix, hrest⟩

theorem call (hs : Genuine md5 free s) {call : TrafficCall}
    (hcall : s.trafficManager.Careful free call) : Genuine md5 free (s.call call) :=
  hs.append rfl ⟨hcall, trivial⟩ (by simp)

theorem addNode (hs : Genuine md5 free s) (configuration : Configuration) :
    Genuine md5 free (s.addNode id configuration) := by
  refine ⟨hs.manager, hs.calls, fun other node hnode => ?_, hs.raised⟩
  rw [Simulator.addNode, TreeMap.getElem?_insertIfNew] at hnode
  split at hnode
  · obtain rfl := Option.some.inj hnode
    intro client hclient
    contradiction
  · exact hs.streams other node hnode

theorem removeNode (hs : Genuine md5 free s) : Genuine md5 free (s.removeNode id) := by
  rw [Simulator.removeNode]
  cases hnode : s.nodes[id]? with
  | none => exact hs
  | some node =>
    have hcalled : Genuine md5 free (s.call (.removeNode id)) := hs.call ⟨trivial, fun _ => trivial⟩
    refine ⟨hcalled.manager, hcalled.calls, fun other node hother => ?_, hcalled.raised⟩
    rw [TreeMap.getElem?_erase] at hother
    split at hother
    · contradiction
    · exact hcalled.streams other node hother

theorem removeAdapter (hs : Genuine md5 free s) (identifier : AdapterIdentifier) :
    Genuine md5 free (s.removeAdapter id identifier) := by
  rw [Simulator.removeAdapter]
  cases hnode : s.nodes[id]? with
  | none => exact hs
  | some node =>
    have hcalled : Genuine md5 free (s.call (.removeLink id identifier)) :=
      hs.call ⟨trivial, fun _ => trivial⟩
    exact hcalled.modifyNode_of_sockets fun _ _ hclient => hclient

theorem complete (hs : Genuine md5 free s) (k : Nat) : Genuine md5 free (s.complete id k time) :=
  hs.modifyNode_of_sockets fun _ _ hclient => NetworkHandler.openClients_complete hclient

-- ---------------------------------------------------------------------------
-- An update
-- ---------------------------------------------------------------------------

theorem create (hs : Genuine md5 free s) (client : NetworkClient) :
    Genuine md5 free (s.create id client) := by
  rw [Simulator.create]
  cases s.nodes[id]? with
  | none => exact hs
  | some node =>
    dsimp only
    split
    · exact hs.call ⟨rfl, fun _ => trivial⟩
    · exact hs

theorem handleAdapterEvent (hs : Genuine md5 free s) (event : AdapterEvent) :
    Genuine md5 free (s.handleAdapterEvent id event) := by
  rw [Simulator.handleAdapterEvent]
  cases hnode : s.nodes[id]? with
  | none => exact hs
  | some node =>
    refine List.foldlRecOn _ _ (hs.modifyNode ?_) fun s hs client _ => hs.create client
    intro found hfound client hclient
    obtain rfl := Option.some.inj (hnode.symm.trans hfound)
    rcases NetworkHandler.openClients_handleAdapterEvent hclient with hclient | hnew
    · exact hs.streams id node hnode client hclient
    · exact NetworkClient.orderly_new md5 _ hnew

theorem updateAdapters (hs : Genuine md5 free s) : Genuine md5 free (s.updateAdapters id) := by
  rw [Simulator.updateAdapters]
  cases s.nodes[id]? with
  | none => exact hs
  | some node =>
    exact List.foldlRecOn _ _ (hs.modifyNode_of_sockets fun _ _ hclient => hclient)
      fun s hs event _ => hs.handleAdapterEvent event

theorem updateRoutes (hs : Genuine md5 free s) : Genuine md5 free (s.updateRoutes id time) :=
  hs.modifyNode_of_sockets fun _ _ hclient => hclient

theorem receive (hs : Genuine md5 free s) {reception : Reception} {message : DiscoveryMessage}
    (hdata : reception.data = transmission md5 [.discovery message])
    (hheard : Heard md5 s.history reception.client reception.sender ⟨[.discovery message]⟩) :
    Genuine md5 free (s.receive reception) := by
  refine hs.modifyNode fun node hnode client hclient => ?_
  rw [SimulatedNode.sockets, SimulatedNode.withHandler,
    NetworkHandler.openClients_receiveBytes] at hclient
  obtain ⟨old, hold, rfl⟩ := List.mem_map.mp hclient
  have horderly := hs.streams _ node hnode old hold
  rw [NetworkClient.receiveBytes]
  split_ifs with hinfo
  · rw [hdata]
    refine horderly.handleRead ?_
    rw [hinfo]
    exact hheard
  · exact horderly

/-- What a client writes is heard where it is received. -/
theorem multicast (hs : Genuine md5 free s) {sent : SimulatorUdpClient × List Byte}
    {message : DiscoveryMessage} (hsent : sent.2 = transmission md5 [.discovery message]) :
    Genuine md5 free (s.multicast sent) := by
  have hlogged : Genuine md5 free (s.log [.multicast sent.1 sent.2]) :=
    hs.append rfl trivial (by simp)
  refine (List.foldlRecOn (motive := fun t => Genuine md5 free t ∧
    t.history = s.history ++ [.multicast sent.1 sent.2]) _ _ ⟨hlogged, rfl⟩ ?_).1
  rintro t ⟨ht, hhistory⟩ reception hmem
  obtain ⟨hdata, hsender, -⟩ := of_mem_dataSent hmem
  refine ⟨ht.receive (hdata.trans hsent) ?_, hhistory⟩
  have htake : t.history.take s.history.length = s.history := by
    rw [hhistory, List.take_left]
  refine ⟨s.history.length, sent.1, message, ?_, hsender.symm, rfl, ?_⟩
  · rw [hhistory, List.getElem?_concat_length, hsent]
  · rw [htake, ← hs.manager, ← hsent, ← hdata]
    rwa [← hdata] at hmem

theorem transmit (hs : Genuine md5 free s) : Genuine md5 free (s.transmit md5 id time) := by
  rw [Simulator.transmit]
  cases s.nodes[id]? with
  | none => exact hs
  | some node =>
    have hupdated : Genuine md5 free (s.modifyNode id fun other => { other with components :=
        { other.components with
          transmissionHandler := (node.components.transmissionHandler.update time).2 } }) :=
      hs.modifyNode_of_sockets fun _ _ hclient => hclient
    dsimp only
    split
    · refine List.foldlRecOn _ _ hupdated fun t ht sent hsent => ?_
      obtain ⟨-, message, hmessage⟩ := of_mem_multicasts hsent
      exact ht.multicast hmessage
    · exact hupdated

theorem updateNetwork (hs : Genuine md5 free s) (hmd5 : lastPartDigest (md5 []) ≠ 0)
    (hmemory : ∀ node, s.nodes[id]? = some node → ∀ client ∈ node.sockets, client.InMemory) :
    Genuine md5 free (s.updateNetwork md5 id time) := by
  rw [Simulator.updateNetwork]
  cases hnode : s.nodes[id]? with
  | none => exact hs
  | some node =>
    have hupdated : Genuine md5 free (s.modifyNode id fun node =>
        { node with components := node.components.updateNetwork md5 time }) := by
      refine hs.modifyNode fun found hfound client hclient => ?_
      rcases NetworkHandler.openClients_update hclient with hclient | ⟨old, hold, rfl⟩
      · exact hs.streams id found hfound client hclient
      · exact (hs.streams id found hfound old hold).update (hmemory found hfound old hold) hmd5
          time
    have hcalls : (((node.components.networkHandler.update md5 time).1.map
        (Happening.raised id)).filterMap Happening.call?) = [] := by
      simp [List.filterMap_map, Function.comp_def, Happening.call?]
    refine hupdated.append (by rw [hcalls]; rfl) (by rw [hcalls]; trivial)
      fun other event hevent => ?_
    obtain ⟨raised, hraised, heq⟩ := List.mem_map.mp hevent
    cases heq
    rw [NetworkHandler.update_events] at hraised
    obtain ⟨client, hclient, hraised⟩ := List.mem_flatMap.mp hraised
    have hopen : client ∈ node.sockets :=
      (NetworkHandler.openClients_collectClients _).mem_iff.mp (List.mem_append_left _ hclient)
    obtain ⟨⟨packet, hheard, hmessage⟩, hinfo⟩ := (hs.streams id node hnode client
      hopen).events_update (hmemory node hnode client hopen) hmd5 hraised
    refine ⟨client.info, packet, hheard, hmessage, ?_⟩
    rw [hinfo]

theorem updateNode (hs : Genuine md5 free s) (hmd5 : lastPartDigest (md5 []) ≠ 0)
    (hmemory : s.InMemory id) : Genuine md5 free (s.updateNode md5 time id) :=
  ((hs.updateAdapters.updateNetwork hmd5 hmemory).updateRoutes).transmit

theorem step (hs : Genuine md5 free s) (hmd5 : lastPartDigest (md5 []) ≠ 0) {call : SimulatorCall}
    (hmemory : s.EachNode md5 Simulator.InMemory call) (hfree : free → s.LinksFree call) :
    Genuine md5 free (s.step md5 call) := by
  cases call with
  | addNode node configuration => exact hs.addNode configuration
  | removeNode node => exact hs.removeNode
  | addRouter router => exact hs.call ⟨trivial, fun _ => trivial⟩
  | removeRouter router => exact hs.call ⟨trivial, fun _ => trivial⟩
  | addAdapter node identifier adapter => exact hs.modifyNode_of_sockets fun _ _ hclient => hclient
  | removeAdapter node identifier => exact hs.removeAdapter identifier
  | addLink node adapter router => exact hs.call ⟨trivial, hfree⟩
  | removeLink node adapter => exact hs.call ⟨trivial, fun _ => trivial⟩
  | complete node k time => exact hs.complete k
  | update time =>
    exact Throughout.invariant hmemory hs fun s node _ hs hmemory => hs.updateNode hmd5 hmemory

theorem of_runs {calls : List SimulatorCall} (hmd5 : lastPartDigest (md5 []) ≠ 0)
    (hrun : Simulator.Runs md5 calls) : Genuine md5
      (Throughout (Simulator.step md5) Simulator.LinksFree {} calls)
      (calls.foldl (Simulator.step md5) {}) := by
  by_cases hfree : Throughout (Simulator.step md5) Simulator.LinksFree {} calls
  · exact (hrun.and hfree).invariant (genuine_empty md5 _) fun s call _ hs hstep =>
      hs.step hmd5 hstep.1.2 fun _ => hstep.2
  · exact hrun.invariant (genuine_empty md5 _) fun s call _ hs hstep =>
      hs.step hmd5 hstep.2 fun h => absurd h hfree

end Genuine

/-- The node of the client has an adapter with its address that is linked to
the router. -/
def OnRouter (m : NetworkTrafficManager) (client : SimulatorUdpClient)
    (router : RouterIdentifier) : Prop :=
  ∃ entries, m.nodes[client.identifier]? = some entries ∧ ∃ entry ∈ entries,
    entry.client.info.adapter = client.info.adapter ∧ entry.router = some router

/-- The sender is on a router that has the receiver for another node. -/
def Reaches (m : NetworkTrafficManager) (sender receiver : SimulatorUdpClient) : Prop :=
  receiver.identifier ≠ sender.identifier ∧ ∃ router, OnRouter m sender router ∧
    participant m.routers router receiver.identifier = some receiver

def OnCommonRouter (m : NetworkTrafficManager) (sender receiver : SimulatorUdpClient) : Prop :=
  receiver.identifier ≠ sender.identifier ∧ ∃ router, OnRouter m sender router ∧
    OnRouter m receiver router

theorem Named.reaches {m : NetworkTrafficManager} (hm : Named m) {sender : SimulatorUdpClient}
    {data : List Byte} {reception : Reception}
    (h : reception ∈ m.dataSent sender.identifier sender.info data) :
    Reaches m sender reception.client := by
  obtain ⟨-, -, entries, hentries, entry, hentry, haddress, router, hrouter, n, hne, hpart⟩ :=
    of_mem_dataSent h
  have hn := hm.participants router n reception.client hpart
  rw [Reaches, hn]
  exact ⟨hne, router, ⟨entries, hentries, entry, hentry, haddress, hrouter⟩, hpart⟩

theorem Reaches.onCommonRouter {m : NetworkTrafficManager} {sender receiver : SimulatorUdpClient}
    (h : Reaches m sender receiver) (hm : Linked m) : OnCommonRouter m sender receiver := by
  obtain ⟨hne, router, hsender, hpart⟩ := h
  obtain ⟨entries, hentries, entry, hentry, hclient, hrouter⟩ := hm router _ receiver hpart
  refine ⟨hne, router, hsender, entries, hentries, entry, hentry, ?_, hrouter⟩
  rw [hclient]

/-- In every run, whatever a node raises is a discovery message that a client
of another node wrote before. When it did, it was on a router that had the
client by which the node heard it, and where no adapter is linked anew before
its link is removed, that client was on the router as well. -/
theorem isolation (md5 : List Byte → Digest) (hmd5 : lastPartDigest (md5 []) ≠ 0)
    (calls : List SimulatorCall) (hrun : Simulator.Runs md5 calls) (p : Nat)
    (id : NodeIdentifier) (event : NetworkEvent)
    (hevent : (calls.foldl (Simulator.step md5) {}).history[p]? = some (.raised id event)) :
    ∃ q sender info message, q < p ∧
      (calls.foldl (Simulator.step md5) {}).history[q]? =
        some (.multicast sender (transmission md5 [.discovery message])) ∧
      event = .discoveryMessageReceived message event.info ∧
      event.info.sender = sender.info.adapter ∧ event.info.adapter = info.adapter ∧
      Reaches (managerAfter ((calls.foldl (Simulator.step md5) {}).history.take q)) sender
        ⟨id, info⟩ ∧
      (Throughout (Simulator.step md5) Simulator.LinksFree {} calls →
        OnCommonRouter (managerAfter ((calls.foldl (Simulator.step md5) {}).history.take q))
          sender ⟨id, info⟩) := by
  have hs := Genuine.of_runs hmd5 hrun
  obtain ⟨info, packet, ⟨q, sender, message, hq, hsender, rfl, hreception⟩, hmessage, hadapter⟩ :=
    hs.raised p id event hevent
  rw [List.getElem?_take] at hq
  split_ifs at hq with hlt
  rw [List.take_take, Nat.min_eq_left (Nat.le_of_lt hlt)] at hreception
  have hbefore := hs.calls
  rw [← List.take_append_drop q (calls.foldl (Simulator.step md5) {}).history,
    List.filterMap_append] at hbefore
  have hreaches := (named_managerAfter hbefore.left).reaches hreception
  refine ⟨q, sender, info, message, hlt, hq, ?_, hsender.symm, hadapter, hreaches, fun hfree =>
    hreaches.onCommonRouter (linked_managerAfter hbefore.left hfree)⟩
  cases event with
  | discoveryMessageReceived raised received =>
    cases List.mem_singleton.mp hmessage
    rfl
  | dataMessageReceived => simp [NetworkEvent.message] at hmessage

/-- Two nodes on a router, of which the second hears the first. -/
def routed : List SimulatorCall :=
  [.addNode 0 ⟨7, ⟨0xe0010102⟩, 1337⟩, .addNode 1 ⟨8, ⟨0xe0010102⟩, 1337⟩, .addRouter 0,
    .addAdapter 0 0 (lanAdapter "a" 1), .addAdapter 1 1 (lanAdapter "b" 2), .update 0,
    .addLink 0 0 0, .addLink 1 1 0, .complete 0 0 0, .complete 1 0 0, .update (seconds 30)]

theorem isolation_routed : ∃ q sender info message, q < 6 ∧
    (routed.foldl (Simulator.step Wire.pairDigests) {}).history[q]? =
      some (.multicast sender (transmission Wire.pairDigests [.discovery message])) ∧
    NetworkEvent.discoveryMessageReceived ⟨7, []⟩ ⟨seconds 30, ⟨1⟩, ⟨0xe0010102⟩, ⟨2⟩⟩ =
      .discoveryMessageReceived message ⟨seconds 30, ⟨1⟩, ⟨0xe0010102⟩, ⟨2⟩⟩ ∧
    ⟨1⟩ = sender.info.adapter ∧ ⟨2⟩ = info.adapter ∧
    Reaches (managerAfter
      ((routed.foldl (Simulator.step Wire.pairDigests) {}).history.take q)) sender ⟨1, info⟩ ∧
    OnCommonRouter (managerAfter
      ((routed.foldl (Simulator.step Wire.pairDigests) {}).history.take q)) sender ⟨1, info⟩ := by
  obtain ⟨q, sender, info, message, hq, hwritten, hevent, hsender, hinfo, hreaches, hcommon⟩ :=
    isolation Wire.pairDigests (by decide) routed (by decide +kernel) 6 1
      (.discoveryMessageReceived ⟨7, []⟩ ⟨seconds 30, ⟨1⟩, ⟨0xe0010102⟩, ⟨2⟩⟩) (by decide +kernel)
  exact ⟨q, sender, info, message, hq, hwritten, hevent, hsender, hinfo, hreaches,
    hcommon (by decide +kernel)⟩

end Sim

end Discnet
