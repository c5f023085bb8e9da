import Discnet.Cluster
import Discnet.Lib.Heartbeat

/-!
# Discovery messages as heartbeats

The discovery messages of a node are heartbeats for the nodes that share a
network with it. Once it sent one from an address, it does so whenever more
than twenty seconds went by.
-/

namespace Discnet

open Lib Network Network.Messages

variable {ι : Type}

-- ---------------------------------------------------------------------------
-- Heartbeats in the history
-- ---------------------------------------------------------------------------

namespace Entry

def time : Entry ι → TimePoint
  | polled _ time => time
  | sent transmission => transmission.time
  | received _ _ time _ => time

def node : Entry ι → ι
  | polled node _ => node
  | sent transmission => transmission.node
  | received node _ _ _ => node

end Entry

theorem exists_time_iff {history : List (Entry ι)} {entry : TimePoint → Entry ι}
    {P : TimePoint → Prop} (htime : ∀ t, (entry t).time = t) :
    (∃ t, entry t ∈ history ∧ P t) ↔ ∃ e ∈ history, e = entry e.time ∧ P e.time := by
  constructor
  · rintro ⟨t, ht, hp⟩
    exact ⟨entry t, ht, by rw [htime], by rwa [htime]⟩
  · rintro ⟨e, he, heq, hp⟩
    exact ⟨e.time, heq ▸ he, hp⟩

/-- A message a node sent on the shared network. -/
structure Beat where
  position : Nat
  time : TimePoint
  deriving DecidableEq, Repr

section
variable [DecidableEq ι]

def beat? (i : ι) (a : Address) : Entry ι × Nat → Option Beat
  | (.sent tx, position) => if tx.node = i ∧ tx.sender = a then some ⟨position, tx.time⟩ else none
  | _ => none

def beats (i : ι) (a : Address) (history : List (Entry ι)) : List Beat :=
  history.zipIdx.filterMap (beat? i a)

end

def HeardBeat (j : ι) (b : Address) (history : List (Entry ι)) (x : Beat) : Prop :=
  ∃ time, .received j b time x.position ∈ history

/-- It processed it soon after it was sent. -/
def HeardInTime (d : Int) (j : ι) (b : Address) (history : List (Entry ι)) (x : Beat) : Prop :=
  ∃ time, .received j b time x.position ∈ history ∧ time ≤ x.time + d

section
variable [DecidableEq ι] {i : ι} {a : Address} {history entries : List (Entry ι)} {x : Beat}

instance (d : Int) (j : ι) (b : Address) (history : List (Entry ι)) :
    DecidablePred (HeardInTime d j b history) := fun _ =>
  decidable_of_iff _ (exists_time_iff fun _ => rfl).symm

theorem mem_beats : x ∈ beats i a history ↔ ∃ tx, history[x.position]? = some (.sent tx) ∧
    tx.node = i ∧ tx.sender = a ∧ tx.time = x.time := by
  rw [beats, List.mem_filterMap]
  constructor
  · rintro ⟨⟨e, position⟩, hmem, hbeat⟩
    have hentry := List.mem_zipIdx_iff_getElem?.mp hmem
    cases e with
    | polled _ _ => contradiction
    | received _ _ _ _ => contradiction
    | sent tx =>
      rw [beat?] at hbeat
      split_ifs at hbeat with hown
      cases hbeat
      exact ⟨tx, hentry, hown.1, hown.2, rfl⟩
  · rintro ⟨tx, hentry, hnode, hsender, htime⟩
    refine ⟨(.sent tx, x.position), List.mem_zipIdx_iff_getElem?.mpr hentry, ?_⟩
    rw [beat?, if_pos ⟨hnode, hsender⟩, htime]

theorem beats_append (i : ι) (a : Address) (history entries : List (Entry ι)) :
    beats i a (history ++ entries) =
      beats i a history ++ (entries.zipIdx history.length).filterMap (beat? i a) := by
  rw [beats, List.zipIdx_append, List.filterMap_append, Nat.zero_add, beats]

theorem beats_append_quiet (h : ∀ tx, .sent tx ∈ entries → tx.node ≠ i) :
    beats i a (history ++ entries) = beats i a history := by
  have hnone : (entries.zipIdx history.length).filterMap (beat? i a) = [] := by
    apply List.filterMap_eq_nil_iff.mpr
    rintro ⟨e, position⟩ hmem
    have hentry := List.fst_mem_of_mem_zipIdx hmem
    cases e with
    | polled _ _ => rfl
    | received _ _ _ _ => rfl
    | sent tx => rw [beat?, if_neg fun hown => h tx hentry hown.1]
  rw [beats_append, hnone, List.append_nil]

theorem mem_beats_append (h : x ∈ beats i a history) : x ∈ beats i a (history ++ entries) := by
  rw [beats_append]
  exact List.mem_append_left _ h

theorem mem_beats_of_append (h : x ∈ beats i a (history ++ entries))
    (hplace : x.position < history.length) : x ∈ beats i a history := by
  obtain ⟨tx, hentry, hown⟩ := mem_beats.mp h
  rw [List.getElem?_append_left hplace] at hentry
  exact mem_beats.mpr ⟨tx, hentry, hown⟩

end

-- ---------------------------------------------------------------------------
-- The runs
-- ---------------------------------------------------------------------------

namespace Cluster

/-- The clocks of all nodes agree and do not go back. -/
def ClockForward (s : Cluster ι) : Action ι → Prop
  | .complete _ _ _ => True
  | .poll _ time _ => ∀ e ∈ s.history, e.time ≤ time

/-- Whenever one of the two nodes polls, the sender has polled within `g`,
unless it did not start yet. -/
def PollsEvery (g : Int) (i j : ι) (s : Cluster ι) : Action ι → Prop
  | .complete _ _ _ => True
  | .poll n time _ => n = i ∨ n = j → (∃ t, .polled i t ∈ s.history) →
    ∃ t, .polled i t ∈ s.history ∧ time ≤ t + g

variable [DecidableEq ι]

/-- Whenever the receiver polls, it has missed no more than `k` messages in a
row of those that should have reached it. -/
def LosesFew (k : Nat) (d : Int) (i : ι) (a : Address) (j : ι) (b : Address) (s : Cluster ι) :
    Action ι → Prop
  | .complete _ _ _ => True
  | .poll n time _ => n = j →
    FewLosses Beat.time (HeardInTime d j b s.history) k d time (beats i a s.history)

instance (s : Cluster ι) : ∀ action : Action ι, Decidable (s.ClockForward action)
  | .complete _ _ _ => .isTrue trivial
  | .poll _ _ _ => inferInstanceAs (Decidable (∀ e ∈ s.history, _))

instance (g : Int) (i j : ι) (s : Cluster ι) :
    ∀ action : Action ι, Decidable (s.PollsEvery g i j action)
  | .complete _ _ _ => .isTrue trivial
  | .poll n time _ =>
    have : Decidable (∃ t, .polled i t ∈ s.history) :=
      decidable_of_iff (∃ e ∈ s.history, e = .polled i e.time)
        ⟨fun ⟨e, he, heq⟩ => ⟨e.time, heq ▸ he⟩, fun ⟨_, ht⟩ => ⟨_, ht, rfl⟩⟩
    have : Decidable (∃ t, .polled i t ∈ s.history ∧ time ≤ t + g) :=
      decidable_of_iff _ (exists_time_iff fun _ => rfl).symm
    inferInstanceAs (Decidable (n = i ∨ n = j → _ → _))

instance (k : Nat) (d : Int) (i : ι) (a : Address) (j : ι) (b : Address) (s : Cluster ι) :
    ∀ action : Action ι, Decidable (s.LosesFew k d i a j b action)
  | .complete _ _ _ => .isTrue trivial
  | .poll n _ _ => inferInstanceAs (Decidable (n = j → _))

/-- On the network of the receiver's address, the sender's address is its
own. -/
def SharesNetwork (i : ι) (a : Address) (j : ι) (b : Address) (s : Cluster ι) (n : ι)
    (_time : TimePoint) (delivery : Delivery) : Prop :=
  n = j → delivery.adapter = b → ∀ tx ∈ s.delivered? j delivery, tx.sender = a → tx.node = i

instance (i : ι) (a : Address) (j : ι) (b : Address) (s : Cluster ι) (n : ι) (time : TimePoint)
    (delivery : Delivery) : Decidable (s.SharesNetwork i a j b n time delivery) :=
  inferInstanceAs (Decidable (_ → _ → ∀ tx ∈ s.delivered? j delivery, _))

-- ---------------------------------------------------------------------------
-- What a poll leaves alone
-- ---------------------------------------------------------------------------

/-- The poll of a node up to its transmission. -/
structure Gathered (s : Cluster ι) (n : ι) (time : TimePoint) (s' : Cluster ι) : Prop where
  history : ∃ received, s'.history = s.history ++ .polled n time :: received ∧
    ∀ e ∈ received, ∃ c p, e = .received n c time p
  transmissionHandler : ∀ m, (s'.nodes m).transmissionHandler = (s.nodes m).transmissionHandler
  networkHandler : ∀ m, (s'.nodes m).networkHandler =
    if m = n then (s.nodes m).networkHandler.collectClients else (s.nodes m).networkHandler
  adapterManager : ∀ m, (s'.nodes m).adapterManager = (s.nodes m).adapterManager

variable {s s' : Cluster ι} {n : ι} {time : TimePoint}

theorem gathered_collect (s : Cluster ι) (n : ι) (time : TimePoint) :
    Gathered s n time (s.collect n time) := by
  constructor
  case history => exact ⟨[], rfl, by simp⟩
  all_goals
    intro m
    by_cases hm : m = n
    · subst hm
      simp [collect]
    · simp [collect, hm]

theorem Gathered.setRoutes (h : Gathered s n time s') (routeManager : RouteManager)
    {entries : List (Entry ι)} (hentries : ∀ e ∈ entries, ∃ c p, e = .received n c time p) :
    Gathered s n time (s'.set n { s'.nodes n with routeManager } entries) := by
  constructor
  case history =>
    obtain ⟨received, hhistory, hreceived⟩ := h.history
    refine ⟨received ++ entries, ?_, ?_⟩
    · rw [history_set, hhistory, List.append_assoc, List.cons_append]
    · intro e he
      rcases List.mem_append.mp he with he | he
      · exact hreceived e he
      · exact hentries e he
  case transmissionHandler =>
    exact forall_set
      (P := fun m node => node.transmissionHandler = (s.nodes m).transmissionHandler)
      (h.transmissionHandler n) fun m _ => h.transmissionHandler m
  case networkHandler =>
    exact forall_set
      (P := fun m node => node.networkHandler =
        if m = n then (s.nodes m).networkHandler.collectClients else (s.nodes m).networkHandler)
      (h.networkHandler n) fun m _ => h.networkHandler m
  case adapterManager =>
    exact forall_set (P := fun m node => node.adapterManager = (s.nodes m).adapterManager)
      (h.adapterManager n) fun m _ => h.adapterManager m

theorem Gathered.receive (h : Gathered s n time s') (delivery : Delivery) :
    Gathered s n time (s'.receive n time delivery) := by
  rw [Cluster.receive]
  cases s'.delivered? n delivery with
  | none => exact h
  | some tx => exact h.setRoutes _ (by simp)

theorem gathered_beforeUpdate (s : Cluster ι) (n : ι) (time : TimePoint)
    (deliveries : List Delivery) : Gathered s n time (s.beforeUpdate n time deliveries) :=
  List.foldlRecOn deliveries _ (gathered_collect s n time) fun _ h delivery _ => h.receive delivery

theorem gathered_afterUpdate (s : Cluster ι) (n : ι) (time : TimePoint)
    (deliveries : List Delivery) : Gathered s n time (s.afterUpdate n time deliveries) :=
  (gathered_beforeUpdate s n time deliveries).setRoutes _ (by simp)

/-- When a node has gathered what came in, nothing that happened lies ahead. -/
theorem Gathered.past (h : Gathered s n time s') (hclock : ∀ e ∈ s.history, e.time ≤ time) :
    ∀ e ∈ s'.history, e.time ≤ time := by
  obtain ⟨received, hhistory, hreceived⟩ := h.history
  intro e he
  rw [hhistory] at he
  rcases List.mem_append.mp he with he | he
  · exact hclock e he
  · rcases List.mem_cons.mp he with rfl | he
    · exact Int.le_refl time
    · obtain ⟨c, p, rfl⟩ := hreceived e he
      exact Int.le_refl time

theorem Gathered.history_transmit (h : Gathered s n time s') :
    ∃ entries, (s'.transmit n time).history = s.history ++ entries ∧
      ∀ e ∈ entries, e.node = n ∧ e.time = time := by
  obtain ⟨received, hhistory, hreceived⟩ := h.history
  refine ⟨_, by rw [transmit, history_set, hhistory, List.append_assoc], fun e he => ?_⟩
  rcases List.mem_append.mp he with he | he
  · rcases List.mem_cons.mp he with rfl | he
    · exact ⟨rfl, rfl⟩
    · obtain ⟨c, p, rfl⟩ := hreceived e he
      exact ⟨rfl, rfl⟩
  · obtain ⟨tx, rfl, hnode, htime⟩ := sent_of_mem he
    exact ⟨hnode, htime⟩

end Cluster

-- ---------------------------------------------------------------------------
-- The sender
-- ---------------------------------------------------------------------------

/-- The node multicasts from the address whenever it transmits. -/
def Sends (node : ClusterNode) (a : Address) : Prop :=
  ∃ client ∈ node.networkHandler.clients, ∃ adapter,
    node.adapterManager.findAdapter client.adapterIdentifier = .ok adapter ∧
    ∃ through, node.networkHandler.multicastClient adapter = some through ∧
      through.info.adapter = a

section
variable {node node' : ClusterNode} {a : Address}

theorem sends_iff : Sends node a ↔ ∃ message, (a, message) ∈ node.multicasts := by
  simp only [Sends, ClusterNode.multicasts, TransmissionHandler.transmitDiscoveryMessage,
    List.mem_filterMap, Option.map_eq_some_iff]
  constructor
  · rintro ⟨client, hclient, adapter, hadapter, through, hthrough, rfl⟩
    exact ⟨_, _, ⟨client, hclient, by rw [hadapter]⟩, through, hthrough, rfl⟩
  · rintro ⟨message, ⟨adapter, message'⟩, ⟨client, hclient, hfound⟩, through, hthrough, heq⟩
    cases heq
    cases hadapter : node.adapterManager.findAdapter client.adapterIdentifier with
    | error text =>
      rw [hadapter] at hfound
      contradiction
    | ok found =>
      rw [hadapter] at hfound
      cases hfound
      exact ⟨client, hclient, _, hadapter, through, hthrough, rfl⟩

theorem Sends.mono (h : Sends node a) (hmanager : node'.adapterManager = node.adapterManager)
    (hclients : node.networkHandler.clients <+: node'.networkHandler.clients) :
    Sends node' a := by
  obtain ⟨client, hclient, adapter, hadapter, through, hthrough, haddress⟩ := h
  refine ⟨client, hclients.mem hclient, adapter, hmanager ▸ hadapter, through, ?_, haddress⟩
  obtain ⟨joined, hjoined⟩ := hclients
  rw [NetworkHandler.multicastClient, Option.filter_eq_some_iff] at hthrough ⊢
  refine ⟨?_, hthrough.2⟩
  rw [NetworkHandler.findClient, ← hjoined, List.find?_append,
    show node.networkHandler.clients.find? _ = _ from hthrough.1]
  rfl

end

variable [DecidableEq ι]

/-- What is known of the sender once it sent. -/
structure LastBeat (i : ι) (a : Address) (s : Cluster ι) (x : Beat) : Prop where
  lastDiscovery : x.time = (s.nodes i).transmissionHandler.lastDiscovery
  sends : Sends (s.nodes i) a
  started : ∃ t, .polled i t ∈ s.history
  polled : ∀ t, .polled i t ∈ s.history → t ≤ x.time + seconds 20

structure Beating (g : Int) (i : ι) (a : Address) (s : Cluster ι) : Prop where
  interval : (s.nodes i).transmissionHandler.interval = seconds 20
  spaced : Spaced Beat.time (seconds 20 + g) (beats i a s.history)
  last : ∀ x ∈ (beats i a s.history).getLast?, LastBeat i a s x

theorem twentySeconds_nonneg : 0 ≤ seconds 20 := by decide

namespace Beating

variable {g : Int} {i n : ι} {a : Address} {s s' : Cluster ι} {time : TimePoint}

theorem initial (g : Int) (i : ι) (a : Address) (hs : s.Initial) : Beating g i a s := by
  constructor
  case interval => rw [(hs.fresh i).2]
  case spaced =>
    rw [hs.history]
    exact List.isChain_nil
  case last =>
    rw [hs.history]
    simp [beats]

theorem quiet (h : Beating g i a s) {entries : List (Entry ι)}
    (htransmission : (s'.nodes i).transmissionHandler = (s.nodes i).transmissionHandler)
    (hmanager : (s'.nodes i).adapterManager = (s.nodes i).adapterManager)
    (hclients : (s.nodes i).networkHandler.clients <+: (s'.nodes i).networkHandler.clients)
    (hhistory : s'.history = s.history ++ entries) (hquiet : ∀ e ∈ entries, e.node ≠ i) :
    Beating g i a s' := by
  have hbeats : beats i a s'.history = beats i a s.history := by
    rw [hhistory]
    exact beats_append_quiet fun tx htx => hquiet _ htx
  constructor
  case interval => rw [htransmission, h.interval]
  case spaced =>
    rw [hbeats]
    exact h.spaced
  case last =>
    intro x hx
    rw [hbeats] at hx
    have hlast := h.last x hx
    constructor
    case lastDiscovery => rw [htransmission, hlast.lastDiscovery]
    case sends => exact hlast.sends.mono hmanager hclients
    case started =>
      obtain ⟨t, ht⟩ := hlast.started
      exact ⟨t, hhistory ▸ List.mem_append_left _ ht⟩
    case polled =>
      intro t ht
      rw [hhistory] at ht
      rcases List.mem_append.mp ht with ht | ht
      · exact hlast.polled t ht
      · exact absurd rfl (hquiet _ ht)

theorem inTime (h : Beating g i a s) {x : Beat} (hx : x ∈ (beats i a s.history).getLast?)
    (hpolls : (∃ t, .polled i t ∈ s.history) → ∃ t, .polled i t ∈ s.history ∧ time ≤ t + g) :
    time ≤ x.time + (seconds 20 + g) := by
  have hlast := h.last x hx
  obtain ⟨t, ht, htime⟩ := hpolls hlast.started
  have hpolled := hlast.polled t ht
  linarith

theorem complete (h : Beating g i a s) (n : ι) (k : Nat) (attempts : NetworkHandler.Attempts) :
    Beating g i a (s.complete n k attempts) := by
  refine h.quiet ?_ ?_ ?_ rfl (by simp)
  all_goals
    rw [Cluster.complete]
    by_cases hn : i = n
    · subst hn
      simp [NetworkHandler.complete]
    · simp [hn]

theorem clients_gathered (h : Cluster.Gathered s n time s') (m : ι) :
    (s.nodes m).networkHandler.clients <+: (s'.nodes m).networkHandler.clients := by
  rw [h.networkHandler]
  split_ifs
  · exact List.prefix_append ..
  · exact List.prefix_rfl

theorem beats_gathered (h : Cluster.Gathered s n time s') :
    beats i a s'.history = beats i a s.history := by
  obtain ⟨received, hhistory, hreceived⟩ := h.history
  rw [hhistory]
  apply beats_append_quiet
  intro tx htx
  rcases List.mem_cons.mp htx with htx | htx
  · contradiction
  · obtain ⟨c, p, heq⟩ := hreceived _ htx
    contradiction

theorem time_of_new {multicasts : List (Address × DiscoveryMessage)} {k : Nat} {x : Beat}
    (h : x ∈ ((multicasts.map fun entry => Entry.sent ⟨n, entry.1, time, entry.2⟩).zipIdx
      k).filterMap (beat? i a)) :
    x.time = time ∧ ∃ message, (a, message) ∈ multicasts := by
  obtain ⟨⟨e, position⟩, hmem, hbeat⟩ := List.mem_filterMap.mp h
  obtain ⟨⟨sender, message⟩, hentry, heq⟩ := List.mem_map.mp (List.fst_mem_of_mem_zipIdx hmem)
  dsimp only at heq
  subst heq
  rw [beat?] at hbeat
  split_ifs at hbeat with hown
  cases hbeat
  exact ⟨rfl, message, hown.2 ▸ hentry⟩

theorem new_ne_nil {node : ClusterNode} (h : Sends node a) (time : TimePoint) (k : Nat) :
    ((node.multicasts.map fun entry => Entry.sent ⟨i, entry.1, time, entry.2⟩).zipIdx k).filterMap
      (beat? i a) ≠ [] := by
  obtain ⟨message, hmessage⟩ := sends_iff.mp h
  have hentry := List.mem_map_of_mem (f := fun entry : Address × DiscoveryMessage =>
    Entry.sent (⟨i, entry.1, time, entry.2⟩ : Transmission ι)) hmessage
  obtain ⟨position, hposition⟩ := List.getElem?_of_mem hentry
  have hindexed := List.mk_add_mem_zipIdx_iff_getElem? (k := k).mpr hposition
  intro hnil
  have hnone := List.filterMap_eq_nil_iff.mp hnil _ hindexed
  simp [beat?] at hnone

/-- The sender's own poll: it beats if more than twenty seconds went by. -/
theorem poll_self (h : Beating g i a s) (hg : 0 ≤ g) {s₁ : Cluster ι}
    (hgathered : Cluster.Gathered s i time s₁) (hclock : ∀ e ∈ s.history, e.time ≤ time)
    (hpolls : (∃ t, .polled i t ∈ s.history) → ∃ t, .polled i t ∈ s.history ∧ time ≤ t + g) :
    Beating g i a (s₁.transmit i time) := by
  obtain ⟨received, hhistory, -⟩ := hgathered.history
  have hsends : Sends (s.nodes i) a → Sends (s₁.nodes i) a := fun hsends =>
    hsends.mono (hgathered.adapterManager i) (clients_gathered hgathered i)
  have hpolled : .polled i time ∈ s₁.history := by
    rw [hhistory]
    exact List.mem_append_right _ List.mem_cons_self
  have hearlier : ∀ t, .polled i t ∈ s₁.history → t ≤ time :=
    fun _ ht => hgathered.past hclock _ ht
  rw [Cluster.transmit, TransmissionHandler.update_eq, hgathered.transmissionHandler, h.interval]
  by_cases htransmits : (s.nodes i).transmissionHandler.lastDiscovery + seconds 20 < time
  · rw [if_pos htransmits]
    dsimp only
    rw [if_pos rfl]
    have hbeats := beats_append i a s₁.history ((s₁.nodes i).multicasts.map fun entry =>
      Entry.sent ⟨i, entry.1, time, entry.2⟩)
    rw [beats_gathered hgathered] at hbeats
    constructor
    case interval => rw [Cluster.nodes_set_self]
    case spaced =>
      rw [Cluster.history_set, hbeats]
      refine h.spaced.append (by linarith [twentySeconds_nonneg])
        (fun x hx => (time_of_new hx).1) fun x hx => ⟨?_, h.inTime hx hpolls⟩
      have hlast := (h.last x hx).lastDiscovery
      linarith [twentySeconds_nonneg]
    case last =>
      intro x hx
      rw [Cluster.history_set, hbeats, List.getLast?_append] at hx
      rcases Option.or_eq_some_iff.mp hx with hx | ⟨hnone, hx⟩
      · obtain ⟨htime, message, hmessage⟩ := time_of_new (List.mem_of_getLast? hx)
        constructor
        case lastDiscovery => rw [Cluster.nodes_set_self, htime]
        case sends =>
          rw [Cluster.nodes_set_self]
          exact (sends_iff.mpr ⟨message, hmessage⟩).mono rfl List.prefix_rfl
        case started => exact ⟨time, List.mem_append_left _ hpolled⟩
        case polled =>
          intro t ht
          rcases List.mem_append.mp ht with ht | ht
          · linarith [hearlier t ht, twentySeconds_nonneg]
          · obtain ⟨_, _, heq⟩ := List.mem_map.mp ht
            contradiction
      · -- a node that sent once does so whenever it transmits
        have hnew := new_ne_nil (i := i) (hsends (h.last x hx).sends) time s₁.history.length
        exact absurd (List.getLast?_eq_none_iff.mp hnone) hnew
  · rw [if_neg htransmits]
    dsimp only
    rw [if_neg Bool.false_ne_true]
    constructor
    case interval => rw [Cluster.nodes_set_self, h.interval]
    case spaced =>
      rw [Cluster.history_set, List.append_nil, beats_gathered hgathered]
      exact h.spaced
    case last =>
      intro x hx
      rw [Cluster.history_set, List.append_nil, beats_gathered hgathered] at hx
      have hlast := h.last x hx
      constructor
      case lastDiscovery => rw [Cluster.nodes_set_self, hlast.lastDiscovery]
      case sends =>
        rw [Cluster.nodes_set_self]
        exact (hsends hlast.sends).mono rfl List.prefix_rfl
      case started =>
        rw [Cluster.history_set, List.append_nil]
        exact ⟨time, hpolled⟩
      case polled =>
        intro t ht
        rw [Cluster.history_set, List.append_nil] at ht
        rw [hlast.lastDiscovery]
        exact le_trans (hearlier t ht) (not_lt.mp htransmits)

end Beating

end Discnet
