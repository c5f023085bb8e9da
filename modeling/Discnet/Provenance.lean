import Discnet.Cluster

/-!
# Provenance of routes

Every route comes from its destination: the destination multicast a message,
and each later sender had received the one before. The hops of a route count
the messages on the way.
-/

namespace Discnet

open Lib Network Network.Messages RouteManager

variable {ι : Type}

/-- A chain of `k` transmissions that starts at the node `nodeId` with the
address and ends with the one at the place `p` of the history. -/
inductive Relayed (ids : ι → NodeId) (history : List (Entry ι)) (nodeId : NodeId)
    (address : Address) : Nat → Nat → Prop
  | origin (hsent : history[p]? = some (.sent tx)) (hid : ids tx.node = nodeId)
      (haddress : tx.sender = address) : Relayed ids history nodeId address 1 p
  | relay (hprevious : Relayed ids history nodeId address k p)
      (hreceived : history[r]? = some (.received tx.node adapter time p)) (hpr : p < r)
      (hsent : history[q]? = some (.sent tx)) (hrq : r < q) :
      Relayed ids history nodeId address (k + 1) q

/-- Before the place `q` of the history the node received the last message of
a chain. -/
def HeardBefore (ids : ι → NodeId) (history : List (Entry ι)) (i : ι) (node : NodeIdentifier)
    (k q : Nat) : Prop :=
  ∃ p r adapter time, Relayed ids history node.id node.address k p ∧ p < r ∧ r < q ∧
    history[r]? = some (.received i adapter time p)

/-- The node received the last message of a chain as the route says: from
its reporter, on its adapter. -/
def HeardOf (ids : ι → NodeId) (history : List (Entry ι)) (i : ι) (routeId : RouteIdentifier)
    (k : Nat) : Prop :=
  ∃ p r tx time, Relayed ids history routeId.node.id routeId.node.address k p ∧ p < r ∧
    history[p]? = some (.sent tx) ∧ tx.sender = routeId.reporter ∧
    history[r]? = some (.received i routeId.adapter time p)

def CountHops (jumps : Jumps) (k : Nat) : Prop := 1 ≤ k ∧ jumps = List.replicate k 256

variable {ids : ι → NodeId} {history history' : List (Entry ι)} {i : ι}

theorem getElem?_of_isPrefix {α : Type} {l l' : List α} {a : α} {p : Nat} (h : l <+: l')
    (hp : l[p]? = some a) : l'[p]? = some a := by
  obtain ⟨rest, rfl⟩ := h
  rw [List.getElem?_append_left (List.getElem?_eq_some_iff.mp hp).1, hp]

theorem Relayed.mono (h : history <+: history') (hr : Relayed ids history nodeId address k p) :
    Relayed ids history' nodeId address k p := by
  induction hr with
  | origin hsent hid haddress => exact .origin (getElem?_of_isPrefix h hsent) hid haddress
  | relay _ hreceived hpr hsent hrq ih =>
    exact .relay ih (getElem?_of_isPrefix h hreceived) hpr (getElem?_of_isPrefix h hsent) hrq

theorem HeardBefore.mono (h : history <+: history') (hheard : HeardBefore ids history i node k q) :
    HeardBefore ids history' i node k q := by
  obtain ⟨p, r, adapter, time, hrelayed, hpr, hrq, hreceived⟩ := hheard
  exact ⟨p, r, adapter, time, hrelayed.mono h, hpr, hrq, getElem?_of_isPrefix h hreceived⟩

theorem HeardOf.mono (h : history <+: history') (hheard : HeardOf ids history i routeId k) :
    HeardOf ids history' i routeId k := by
  obtain ⟨p, r, tx, time, hrelayed, hpr, hsent, hsender, hreceived⟩ := hheard
  exact ⟨p, r, tx, time, hrelayed.mono h, hpr, getElem?_of_isPrefix h hsent, hsender,
    getElem?_of_isPrefix h hreceived⟩

theorem HeardOf.before (h : HeardOf ids history i routeId k) (hq : history.length ≤ q) :
    HeardBefore ids history i routeId.node k q := by
  obtain ⟨p, r, tx, time, hrelayed, hpr, -, -, hreceived⟩ := h
  have hr := (List.getElem?_eq_some_iff.mp hreceived).1
  exact ⟨p, r, _, time, hrelayed, hpr, Nat.lt_of_lt_of_le hr hq, hreceived⟩

theorem HeardBefore.relayed (h : HeardBefore ids history tx.node node k q)
    (hsent : history[q]? = some (.sent tx)) :
    Relayed ids history node.id node.address (k + 1) q := by
  obtain ⟨p, r, adapter, time, hrelayed, hpr, hrq, hreceived⟩ := h
  exact .relay hrelayed hreceived hpr hsent hrq

theorem Relayed.announced (h : Relayed ids history nodeId address k p) :
    ∃ (q : Nat) (tx : Transmission ι), history[q]? = some (.sent tx) ∧ ids tx.node = nodeId ∧
      tx.sender = address := by
  induction h with
  | origin hsent hid haddress => exact ⟨_, _, hsent, hid, haddress⟩
  | relay _ _ _ _ _ ih => exact ih

-- ---------------------------------------------------------------------------
-- The invariant
-- ---------------------------------------------------------------------------

/-- A message tells of its sender and of what its sender heard of before. -/
structure Truthful (ids : ι → NodeId) (history : List (Entry ι)) (q : Nat)
    (tx : Transmission ι) : Prop where
  identifier : tx.message.identifier = ids tx.node
  nodes : ∀ node ∈ tx.message.nodes, ∃ k, CountHops node.jumps k ∧
    HeardBefore ids history tx.node ⟨node.identifier, node.address⟩ k q

def Proven (ids : ι → NodeId) (history : List (Entry ι)) (i : ι) (route : Route) : Prop :=
  ∃ k, CountHops route.status.jumps k ∧ HeardOf ids history i route.identifier k

/-- All tables and all messages are as the history says. -/
structure Sound (ids : ι → NodeId) (s : Cluster ι) : Prop where
  nodeId : ∀ i, (s.nodes i).nodeId = ids i
  distinct : ∀ i, (s.routes i).Distinct
  tables : ∀ i, (s.routes i).AllRoutes fun _ route => Proven ids s.history i route
  messages : ∀ q tx, s.history[q]? = some (.sent tx) → Truthful ids s.history q tx

theorem Proven.mono (h : history <+: history') (hroute : Proven ids history i route) :
    Proven ids history' i route := by
  obtain ⟨k, hjumps, hheard⟩ := hroute
  exact ⟨k, hjumps, hheard.mono h⟩

theorem Truthful.mono (h : history <+: history') (htx : Truthful ids history q tx) :
    Truthful ids history' q tx where
  identifier := htx.identifier
  nodes node hnode := by
    obtain ⟨k, hjumps, hheard⟩ := htx.nodes node hnode
    exact ⟨k, hjumps, hheard.mono h⟩

theorem Truthful.reports (htx : Truthful ids history p tx)
    (hsent : history[p]? = some (.sent tx)) (hpr : p < r)
    (hreceived : history[r]? = some (.received i info.adapter time p))
    (hsender : info.sender = tx.sender) :
    ∀ report ∈ RouteManager.reports tx.message info, ∃ k, CountHops report.jumps k ∧
      HeardOf ids history i report.routeId k := by
  intro report hreport
  rcases List.mem_cons.mp hreport with rfl | hreport
  · have hrelayed : Relayed ids history tx.message.identifier info.sender 1 p :=
      .origin hsent htx.identifier.symm hsender.symm
    exact ⟨1, ⟨Nat.le_refl 1, rfl⟩, p, r, tx, time, hrelayed, hpr, hsent, hsender.symm, hreceived⟩
  · obtain ⟨node, hnode, rfl⟩ := List.mem_map.mp hreport
    obtain ⟨k, ⟨hk, hjumps⟩, hheard⟩ := htx.nodes node hnode
    refine ⟨k + 1, ⟨Nat.le_add_left .., ?_⟩, p, r, tx, time, hheard.relayed hsent, hpr, hsent,
      hsender.symm, hreceived⟩
    rw [hjumps, List.replicate_succ]
    rfl

-- ---------------------------------------------------------------------------
-- The steps keep it
-- ---------------------------------------------------------------------------

theorem sent_append {entries : List (Entry ι)}
    (h : (history ++ entries)[q]? = some (.sent tx)) :
    history[q]? = some (.sent tx) ∨ history.length ≤ q ∧ .sent tx ∈ entries := by
  rw [List.getElem?_append] at h
  split_ifs at h with hq
  · exact .inl h
  · exact .inr ⟨Nat.le_of_not_lt hq, List.mem_of_getElem? h⟩

namespace Sound

variable {s : Cluster ι}

theorem initial (hs : s.Initial) : Sound (fun i => (s.nodes i).nodeId) s where
  nodeId _ := rfl
  distinct := hs.distinct
  tables i := hs.allRoutes i
  messages q _ hsent := absurd hsent (hs.getElem?_history_ne q _)

variable [DecidableEq ι]

theorem set (hs : Sound ids s) {node : ClusterNode} {entries : List (Entry ι)}
    (hid : node.nodeId = (s.nodes i).nodeId) (hdistinct : node.routeManager.Distinct)
    (htable : node.routeManager.AllRoutes fun _ route =>
      Proven ids (s.history ++ entries) i route)
    (hmessages : ∀ tx q, .sent tx ∈ entries → s.history.length ≤ q →
      Truthful ids s.history q tx) :
    Sound ids (s.set i node entries) := by
  have hgrows : s.history <+: s.history ++ entries := List.prefix_append ..
  constructor
  case nodeId =>
    exact Cluster.forall_set (P := fun j node => node.nodeId = ids j)
      (hid.trans (hs.nodeId i)) fun j _ => hs.nodeId j
  case distinct =>
    exact Cluster.forall_set (P := fun _ node => node.routeManager.Distinct)
      hdistinct fun j _ => hs.distinct j
  case tables =>
    exact Cluster.forall_set
      (P := fun j node => node.routeManager.AllRoutes fun _ route =>
        Proven ids (s.history ++ entries) j route)
      htable fun j _ => (hs.tables j).mono fun _ _ hroute => hroute.mono hgrows
  case messages =>
    intro q tx hsent
    rcases sent_append hsent with hsent | ⟨hq, htx⟩
    · exact (hs.messages q tx hsent).mono hgrows
    · exact (hmessages tx q htx hq).mono hgrows

theorem set_quiet (hs : Sound ids s) {node : ClusterNode} {entries : List (Entry ι)}
    (hid : node.nodeId = (s.nodes i).nodeId)
    (hroutes : node.routeManager = (s.nodes i).routeManager)
    (hquiet : ∀ tx, .sent tx ∉ entries) : Sound ids (s.set i node entries) := by
  refine hs.set hid ?_ ?_ fun tx q htx => absurd htx (hquiet tx)
  · rw [hroutes]
    exact hs.distinct i
  · rw [hroutes]
    exact (hs.tables i).mono fun _ _ hroute => hroute.mono (List.prefix_append ..)

theorem complete (hs : Sound ids s) (i : ι) (k : Nat) (attempts : NetworkHandler.Attempts) :
    Sound ids (s.complete i k attempts) := hs.set_quiet rfl rfl (by simp)

theorem collect (hs : Sound ids s) (i : ι) (time : TimePoint) : Sound ids (s.collect i time) :=
  hs.set_quiet rfl rfl (by simp)

theorem updateRoutes (hs : Sound ids s) (i : ι) (time : TimePoint) :
    Sound ids (s.updateRoutes i time) := by
  refine hs.set rfl ((hs.distinct i).update time) ?_ (by simp)
  rw [List.append_nil]
  refine (hs.tables i).update fun _ route hroute => ?_
  rw [updateRoute_eq]
  exact hroute

theorem receive (hs : Sound ids s) (i : ι) (time : TimePoint) (delivery : Delivery) :
    Sound ids (s.receive i time delivery) := by
  rw [Cluster.receive]
  cases hdelivered : s.delivered? i delivery with
  | none => exact hs
  | some tx =>
    have hsent := Cluster.sent_of_delivered hdelivered
    have hgrows : s.history <+:
        s.history ++ [.received i delivery.adapter time delivery.position] :=
      List.prefix_append ..
    refine hs.set rfl ((hs.distinct i).processDiscoveryMessage _ _ _) ?_ (by simp)
    refine AllRoutes.processDiscoveryMessage
      ((hs.tables i).mono fun _ _ hroute => hroute.mono hgrows) ?_ fun _ _ hroute => hroute
    intro adapter _
    have hreceived : (s.history ++ [.received i delivery.adapter time delivery.position])[
        s.history.length]? = some (.received i delivery.adapter time delivery.position) :=
      List.getElem?_concat_length
    exact ((hs.messages _ tx hsent).mono hgrows).reports (getElem?_of_isPrefix hgrows hsent)
      (List.getElem?_eq_some_iff.mp hsent).1 hreceived rfl

theorem transmit (hs : Sound ids s) (i : ι) (time : TimePoint) :
    Sound ids (s.transmit i time) := by
  rw [Cluster.transmit]
  refine hs.set rfl (hs.distinct i)
    ((hs.tables i).mono fun _ _ hroute => hroute.mono (List.prefix_append ..)) ?_
  intro tx q htx hq
  obtain ⟨client, -, guid, rfl⟩ := Cluster.transmission_of_mem htx
  refine ⟨hs.nodeId i, fun node hnode => ?_⟩
  obtain ⟨other, route, -, hholds, -, rfl⟩ :=
    TransmissionHandler.holds_of_mem_discoveryMessage hnode
  obtain ⟨k, hjumps, hheard⟩ := (hs.tables i).of_holds (hs.distinct i) hholds
  exact ⟨k, hjumps, hheard.before hq⟩

theorem run (hs : s.Initial) (actions : List (Action ι)) :
    Sound (fun i => (s.nodes i).nodeId) (actions.foldl Cluster.step s) :=
  Cluster.run_invariant actions (initial hs) (fun _ i k attempts hs => hs.complete i k attempts)
    (fun _ i time hs => hs.collect i time) (fun _ i time delivery hs => hs.receive i time delivery)
    (fun _ i time hs => hs.updateRoutes i time) fun _ i time hs => hs.transmit i time

end Sound

/-- In every state of every run, every route was brought by a chain of as
many transmissions as it has jumps, from its destination to its reporter. -/
theorem route_provenance [DecidableEq ι] (s : Cluster ι) (hs : s.Initial)
    (actions : List (Action ι)) (i : ι) (guid : AdapterGuid) (route : Route)
    (h : ((actions.foldl Cluster.step s).routes i).Holds guid route) :
    (∃ k, 1 ≤ k ∧ route.status.jumps = List.replicate k 256 ∧
      HeardOf (fun i => (s.nodes i).nodeId) (actions.foldl Cluster.step s).history i
        route.identifier k) ∧
    ∃ (p : Nat) (tx : Transmission ι),
      (actions.foldl Cluster.step s).history[p]? = some (.sent tx) ∧
        (s.nodes tx.node).nodeId = route.identifier.node.id ∧
        tx.sender = route.identifier.node.address := by
  have hsound := Sound.run hs actions
  obtain ⟨k, ⟨hk, hjumps⟩, hheard⟩ := (hsound.tables i).of_holds (hsound.distinct i) h
  refine ⟨⟨k, hk, hjumps, hheard⟩, ?_⟩
  obtain ⟨_, _, _, _, hrelayed, -⟩ := hheard
  exact hrelayed.announced

def meeting : List (Action (Fin 2)) := [.poll 0 0 [], .poll 1 0 [⟨1, ⟨2⟩⟩]]

/-- The route that the second node holds after it met the first one. -/
def met : Route where
  identifier := ⟨⟨7, ⟨1⟩⟩, ⟨2⟩, ⟨1⟩⟩
  lastDiscovery := 0
  status := { online := true, jumps := [256], mtu := 1500 }

theorem route_provenance_pair :
    (∃ k, 1 ≤ k ∧ met.status.jumps = List.replicate k 256 ∧
      HeardOf (fun i => (pair.nodes i).nodeId) (meeting.foldl Cluster.step pair).history 1
        met.identifier k) ∧
    ∃ (p : Nat) (tx : Transmission (Fin 2)),
      (meeting.foldl Cluster.step pair).history[p]? = some (.sent tx) ∧
        (pair.nodes tx.node).nodeId = met.identifier.node.id ∧
        tx.sender = met.identifier.node.address :=
  route_provenance pair initial_pair meeting 1 "b" met (by
    unfold RouteManager.Holds
    decide +kernel)

end Discnet
