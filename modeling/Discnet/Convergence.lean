import Discnet.Dissemination

/-!
# Convergence

Where every hop of a way keeps up, all nodes on it know of the node it starts
at: a bounded time after the senders started, and from then on after each of
their updates.
-/

namespace Discnet

open Lib Network Network.Messages RouteManager

variable {ι : Type} [DecidableEq ι]

-- ---------------------------------------------------------------------------
-- The conditions
-- ---------------------------------------------------------------------------

/-- The clocks agree, and on every hop the sender polls often enough and the
receiver loses few messages in a row. -/
def Cluster.KeepsUp (k : Nat) (g d : Int) (path : List (Hop ι)) (s : Cluster ι)
    (action : Action ι) : Prop :=
  s.ClockForward action ∧ ∀ hop ∈ path, s.PollsEvery g hop.sender hop.receiver action ∧
    s.LosesFew k d hop.sender hop.source hop.receiver hop.adapter action

instance (k : Nat) (g d : Int) (path : List (Hop ι)) (s : Cluster ι) (action : Action ι) :
    Decidable (s.KeepsUp k g d path action) :=
  inferInstanceAs (Decidable (_ ∧ ∀ hop ∈ path, _))

-- ---------------------------------------------------------------------------
-- What a poll adds to the history
-- ---------------------------------------------------------------------------

section
variable {s s' : Cluster ι} {n : ι} {time t : TimePoint} {entries : List (Entry ι)} {hop : Hop ι}
  {k : Nat} {g d : Int}

theorem le_time_of_new {i : ι} {a : Address} {place : Nat} {x : Beat}
    (h : x ∈ (entries.zipIdx place).filterMap (beat? i a)) (hlater : ∀ e ∈ entries, t ≤ e.time) :
    t ≤ x.time := by
  obtain ⟨⟨e, position⟩, hmem, hbeat⟩ := List.mem_filterMap.mp h
  have hentry := hlater e (List.fst_mem_of_mem_zipIdx hmem)
  cases e with
  | polled _ _ => contradiction
  | received _ _ _ _ => contradiction
  | sent tx =>
    rw [beat?] at hbeat
    split_ifs at hbeat
    cases hbeat
    exact hentry

/-- What a hop promised for a time is not undone by what comes later. -/
theorem Hop.Watched.append (h : hop.Watched k g d s t) (hd : 0 ≤ d)
    (hhistory : s'.history = s.history ++ entries) (hlater : ∀ e ∈ entries, t ≤ e.time) :
    hop.Watched k g d s' t := by
  constructor
  case losses =>
    have hlosses : FewLosses Beat.time (HeardInTime d hop.receiver hop.adapter s'.history) k d t
        (beats hop.sender hop.source s.history) := by
      refine h.losses.mono fun x ⟨time, hheard, hage⟩ => ⟨time, ?_, hage⟩
      rw [hhistory]
      exact List.mem_append_left _ hheard
    rw [hhistory, beats_append]
    rw [hhistory] at hlosses
    exact hlosses.append fun x hx => by linarith [le_time_of_new hx hlater]
  case polled =>
    rintro ⟨x, hx, hearlier⟩
    rw [hhistory, beats_append] at hx
    rcases List.mem_append.mp hx with hold | hnew
    · obtain ⟨t', ht', hlate⟩ := h.polled ⟨x, hold, hearlier⟩
      exact ⟨t', hhistory ▸ List.mem_append_left _ ht', hlate⟩
    · exact absurd hearlier (not_lt.mpr (le_time_of_new hnew hlater))

end

-- ---------------------------------------------------------------------------
-- Runs
-- ---------------------------------------------------------------------------

structure Disseminates (k : Nat) (g d : Int) (ids : ι → NodeId) (node : NodeIdentifier)
    (path : List (Hop ι)) (s : Cluster ι) : Prop where
  spreads : Spreads ids node path s
  beating : ∀ hop ∈ path, Beating g hop.sender hop.source s
  watched : ∀ hop ∈ path, ∀ t, .polled hop.receiver t ∈ s.history → hop.Watched k g d s t
  sorted : s.history.Pairwise fun e e' => e.time ≤ e'.time

namespace Disseminates

variable {k : Nat} {g d : Int} {ids : ι → NodeId} {node : NodeIdentifier} {path : List (Hop ι)}
  {s : Cluster ι} {n : ι} {time : TimePoint}

theorem initial (hs : s.Initial)
    (hjoins : ∀ hop way, hop :: way <:+ path → hop.Joins (fun i => (s.nodes i).nodeId) node way s) :
    Disseminates k g d (fun i => (s.nodes i).nodeId) node path s where
  spreads := Spreads.initial hs hjoins
  beating hop _ := Beating.initial g hop.sender hop.source hs
  watched _ _ _ ht := absurd ht (hs.notMem_history _)
  sorted := by
    rw [hs.history]
    exact List.Pairwise.nil

theorem complete (h : Disseminates k g d ids node path s) (hd : 0 ≤ d) (n : ι) (m : Nat)
    (attempts : NetworkHandler.Attempts) :
    Disseminates k g d ids node path (s.complete n m attempts) where
  spreads := h.spreads.complete n m attempts
  beating hop hhop := (h.beating hop hhop).complete n m attempts
  watched hop hhop t ht := by
    have hhistory : (s.complete n m attempts).history = s.history ++ [] := rfl
    rw [hhistory, List.append_nil] at ht
    exact (h.watched hop hhop t ht).append hd hhistory (by simp)
  sorted := by
    have hhistory : (s.complete n m attempts).history = s.history := List.append_nil _
    rw [hhistory]
    exact h.sorted

theorem poll (h : Disseminates k g d ids node path s) (hg : 0 ≤ g) (hd : 0 ≤ d)
    (hbound : (k + 1) * (seconds 20 + g) + d < seconds 90) {deliveries : List Delivery}
    (hkeeps : s.KeepsUp k g d path (.poll n time deliveries)) :
    Disseminates k g d ids node path ((s.afterUpdate n time deliveries).transmit n time) := by
  obtain ⟨hclock, hhops⟩ := hkeeps
  have hbefore := h.spreads.beforeUpdate hclock n deliveries
  obtain ⟨entries, hhistory, hentries⟩ :=
    (Cluster.gathered_afterUpdate s n time deliveries).history_transmit
  have hnow : ∀ hop ∈ path, hop.receiver = n → hop.Watched k g d s time := fun hop hhop hreceiver =>
    hop.watched_now (h.beating hop hhop) hreceiver (hhops hop hhop).1 (hhops hop hhop).2
  constructor
  case spreads =>
    refine (hbefore.updateRoutes n time).transmit time fun hop way hpath hreceiver hgone => ?_
    have hhop := hpath.subset List.mem_cons_self
    rw [Cluster.updateRoutes, Cluster.history_set, List.append_nil] at hgone
    exact knows_of_gone hbefore hpath hreceiver (h.beating hop hhop) (hnow hop hhop hreceiver) hg hd
      hbound hgone
  case beating =>
    intro hop hhop
    exact (h.beating hop hhop).poll hg hclock (hhops hop hhop).1
  case watched =>
    intro hop hhop t ht
    rw [hhistory] at ht
    rcases List.mem_append.mp ht with hold | hnew
    · have hlater : ∀ e ∈ entries, t ≤ e.time := fun e he => by
        rw [(hentries e he).2]
        exact hclock _ hold
      exact (h.watched hop hhop t hold).append hd hhistory hlater
    · obtain ⟨hreceiver, htime⟩ := hentries _ hnew
      have htime : t = time := htime
      subst htime
      exact (hnow hop hhop hreceiver).append hd hhistory fun e he => (hentries e he).2.ge
  case sorted =>
    rw [hhistory]
    refine List.pairwise_append.mpr ⟨h.sorted, ?_, fun e he e' he' => ?_⟩
    · refine List.pairwise_of_forall_mem_list fun e he e' he' => ?_
      rw [(hentries e he).2, (hentries e' he').2]
    · rw [(hentries e' he').2]
      exact hclock e he

end Disseminates

-- ---------------------------------------------------------------------------
-- How long it takes
-- ---------------------------------------------------------------------------

/-- Messages went over the way by the time. -/
def GoneBy (history : List (Entry ι)) (way : List (Hop ι)) (t : TimePoint) : Prop :=
  ∃ c ≤ history.length, Gone history way c ∧ ∀ e ∈ history.take c, e.time ≤ t

/-- The time that one hop takes. -/
def hopTime (k : Nat) (g d : Int) : Int := (k + 1 : Nat) * (seconds 20 + g) + d

theorem le_hopTime {k : Nat} {g d : Int} (hg : 0 ≤ g) (hd : 0 ≤ d) : g ≤ hopTime k g d := by
  have hperiod : 0 ≤ seconds 20 + g := Int.add_nonneg twentySeconds_nonneg hg
  have hnonneg : 0 ≤ (k : Int) * (seconds 20 + g) := Int.mul_nonneg (Int.natCast_nonneg k) hperiod
  rw [hopTime, Nat.cast_add, Nat.cast_one, Int.add_mul, Int.one_mul]
  linarith [twentySeconds_nonneg]

omit [DecidableEq ι] in
theorem time_le_of_mem_take {history : List (Entry ι)} {e : Entry ι} {r : Nat}
    (hsorted : history.Pairwise fun e e' => e.time ≤ e'.time) (he : history[r]? = some e) :
    ∀ e' ∈ history.take (r + 1), e'.time ≤ e.time := by
  obtain ⟨hlength, rfl⟩ := List.getElem?_eq_some_iff.mp he
  intro e' he'
  obtain ⟨i, hi, rfl⟩ := List.mem_take_iff_getElem.mp he'
  rcases Nat.lt_or_ge i r with hir | hir
  · exact List.pairwise_iff_getElem.mp hsorted i r (by omega) hlength hir
  · obtain rfl : i = r := by omega
    exact Int.le_refl _

/-- All senders had started by the time. -/
def Started (path : List (Hop ι)) (s : Cluster ι) (start : TimePoint) : Prop :=
  ∀ hop ∈ path, ∃ x ∈ beats hop.sender hop.source s.history, x.time ≤ start

namespace Disseminates

variable {k : Nat} {g d : Int} {ids : ι → NodeId} {node : NodeIdentifier}
  {path way : List (Hop ι)} {hop : Hop ι} {s : Cluster ι} {start t : TimePoint}

/-- Once messages went over the way, one goes over the next hop before its
time is over. -/
theorem goneBy_cons (h : Disseminates k g d ids node path s) (hhop : hop ∈ path) (hg : 0 ≤ g)
    (hd : 0 ≤ d) (hgone : GoneBy s.history way start)
    (hstarted : ∃ x ∈ beats hop.sender hop.source s.history, x.time ≤ start)
    (hwatched : hop.Watched k g d s t) (hlate : start + hopTime k g d < t) :
    GoneBy s.history (hop :: way) (start + hopTime k g d) := by
  obtain ⟨c, hc, hgone, hpast⟩ := hgone
  obtain ⟨early, late, hsplit, hearly, hplaces⟩ := beats_split hop.sender hop.source hc
  have hbefore : ∀ x ∈ early, x.time ≤ start := by
    intro x hx
    obtain ⟨tx, hsent, -, -, htime⟩ := mem_beats.mp (hearly x hx)
    exact htime ▸ hpast _ (List.mem_of_getElem? hsent)
  have hlosses := hwatched.losses
  have hspaced := (h.beating hop hhop).spaced
  have hlast := hwatched.last (h.beating hop hhop) hg
  rw [hsplit] at hlosses hspaced hlast hstarted
  rw [hopTime] at hlate
  obtain ⟨x, hx, ⟨t', hheard, hage⟩, hsoon⟩ := exists_late_heard hspaced
    (Int.add_nonneg twentySeconds_nonneg hg) hd hbefore hstarted hlast hlosses (by linarith)
  obtain ⟨tx, hsent, hnode, hsource, -⟩ :=
    mem_beats.mp (hsplit ▸ List.mem_append_right early hx)
  obtain ⟨r, hr⟩ := List.getElem?_of_mem hheard
  have hplace := h.spreads.placed r _ _ _ _ hr
  have hlength := (List.getElem?_eq_some_iff.mp hr).1
  refine ⟨r + 1, hlength, ⟨x.position, r, hgone.later (hplaces x hx),
    ⟨hplace, ⟨tx, hsent, hnode, hsource⟩, t', hr⟩, Nat.lt_succ_self r⟩, fun e he => ?_⟩
  have horder : e.time ≤ t' := time_le_of_mem_take h.sorted hr e he
  rw [hopTime]
  linarith

/-- All hops of a way take their time one after the other. -/
theorem goneBy_of_started (h : Disseminates k g d ids node path s) (hg : 0 ≤ g) (hd : 0 ≤ d)
    (hpath : hop :: way <:+ path) (hstarted : Started (hop :: way) s start)
    (hwatched : hop.Watched k g d s t)
    (hlate : start + (way.length + 1 : Nat) * hopTime k g d < t) :
    GoneBy s.history (hop :: way) (start + (way.length + 1 : Nat) * hopTime k g d) := by
  have hlong : g ≤ hopTime k g d := le_hopTime hg hd
  induction way generalizing hop t with
  | nil =>
    have hnone : GoneBy s.history ([] : List (Hop ι)) start :=
      ⟨0, Nat.zero_le _, trivial, by simp⟩
    rw [List.length_nil, Nat.zero_add, Nat.cast_one, Int.one_mul] at hlate ⊢
    exact h.goneBy_cons (hpath.subset List.mem_cons_self) hg hd hnone
      (hstarted hop List.mem_cons_self) hwatched hlate
  | cons prev way ih =>
    have hrest : prev :: way <:+ path := (List.suffix_cons hop _).trans hpath
    have hgrow : start + ((prev :: way).length + 1 : Nat) * hopTime k g d =
        start + (way.length + 1 : Nat) * hopTime k g d + hopTime k g d := by
      rw [List.length_cons, Nat.cast_add, Nat.cast_one, Int.add_mul, Int.one_mul, Int.add_assoc]
    have hnonneg : 0 ≤ ((way.length + 1 : Nat) : Int) * hopTime k g d :=
      Int.mul_nonneg (Int.natCast_nonneg _) (Int.le_trans hg hlong)
    rw [hgrow] at hlate ⊢
    -- the sender polled lately, and what it received on the hop before was in time
    obtain ⟨x, hx, hearly⟩ := hstarted hop List.mem_cons_self
    obtain ⟨t', ht', hpolled⟩ := hwatched.polled ⟨x, hx, by linarith⟩
    have hjoined := ((h.spreads.onWay hop _ hpath).joins.passes prev rfl).1
    rw [hjoined] at ht'
    have hprev := h.watched prev (hrest.subset List.mem_cons_self) t' ht'
    have hgone := ih hrest (fun other hother => hstarted other (List.mem_cons_of_mem _ hother))
      hprev (by linarith)
    exact h.goneBy_cons (hpath.subset List.mem_cons_self) hg hd hgone
      ⟨x, hx, by linarith⟩ hwatched hlate

end Disseminates

-- ---------------------------------------------------------------------------
-- Everybody on the way knows
-- ---------------------------------------------------------------------------

namespace Cluster

/-- After an update, who stands at the end of a part of the path knows of the
node at its start if messages went over that part. -/
def SpreadsTo (node : NodeIdentifier) (path : List (Hop ι)) (s : Cluster ι) : Action ι → Prop
  | .complete _ _ _ => True
  | .poll n time deliveries => ∀ hop way, hop :: way <:+ path → hop.receiver = n →
    Gone (s.beforeUpdate n time deliveries).history (hop :: way)
      (s.beforeUpdate n time deliveries).history.length →
    hop.Knows node (s.afterUpdate n time deliveries)

/-- After an update, who stands at the end of a part of the path knows of the
node at its start if all senders started long enough before. -/
def ConvergesTo (k : Nat) (g d : Int) (start : TimePoint) (node : NodeIdentifier)
    (path : List (Hop ι)) (s : Cluster ι) : Action ι → Prop
  | .complete _ _ _ => True
  | .poll n time deliveries => ∀ hop way, hop :: way <:+ path → hop.receiver = n →
    Started (hop :: way) s start → start + (way.length + 1 : Nat) * hopTime k g d < time →
    hop.Knows node (s.afterUpdate n time deliveries)

section
variable {s : Cluster ι} {node : NodeIdentifier} {path : List (Hop ι)} {k : Nat} {g d : Int}
  {ids : ι → NodeId} {action : Action ι}

theorem spreads_of_disseminates (h : Disseminates k g d ids node path s) (hg : 0 ≤ g) (hd : 0 ≤ d)
    (hbound : (k + 1) * (seconds 20 + g) + d < seconds 90)
    (hkeeps : s.KeepsUp k g d path action) : s.SpreadsTo node path action := by
  cases action with
  | complete n m attempts => trivial
  | poll n time deliveries =>
    intro hop way hpath hreceiver hgone
    have hhop := hpath.subset List.mem_cons_self
    have hwatched := hop.watched_now (h.beating hop hhop) hreceiver (hkeeps.2 hop hhop).1
      (hkeeps.2 hop hhop).2
    exact knows_of_gone (h.spreads.beforeUpdate hkeeps.1 n deliveries) hpath hreceiver
      (h.beating hop hhop) hwatched hg hd hbound hgone

theorem converges_of_disseminates (h : Disseminates k g d ids node path s) (hg : 0 ≤ g)
    (hd : 0 ≤ d) (hbound : (k + 1) * (seconds 20 + g) + d < seconds 90)
    (hkeeps : s.KeepsUp k g d path action) (start : TimePoint) :
    s.ConvergesTo k g d start node path action := by
  have hspreads := spreads_of_disseminates h hg hd hbound hkeeps
  cases action with
  | complete n m attempts => trivial
  | poll n time deliveries =>
    intro hop way hpath hreceiver hstarted hlate
    have hhop := hpath.subset List.mem_cons_self
    have hwatched := hop.watched_now (h.beating hop hhop) hreceiver (hkeeps.2 hop hhop).1
      (hkeeps.2 hop hhop).2
    obtain ⟨c, hc, hgone, -⟩ := h.goneBy_of_started hg hd hpath hstarted hwatched hlate
    refine hspreads hop way hpath hreceiver ?_
    -- what went over the way before the poll still did when its messages are in
    obtain ⟨received, hhistory, -⟩ := (gathered_beforeUpdate s n time deliveries).history
    rw [hhistory]
    exact hgone.append.later (Nat.le_trans hc (by simp))

theorem step_disseminates (h : Disseminates k g d ids node path s) (hg : 0 ≤ g) (hd : 0 ≤ d)
    (hbound : (k + 1) * (seconds 20 + g) + d < seconds 90)
    (hkeeps : s.KeepsUp k g d path action) : Disseminates k g d ids node path (s.step action) := by
  cases action with
  | complete n m attempts => exact h.complete hd n m attempts
  | poll n time deliveries => exact h.poll hg hd hbound hkeeps

end

/-- Along a path of hops that keep up, whoever messages about a node went
all the way to knows of it from then on. -/
theorem discovery_spreads (s : Cluster ι) (hs : s.Initial) (node : NodeIdentifier)
    (path : List (Hop ι))
    (hjoins : ∀ hop way, hop :: way <:+ path → hop.Joins (fun i => (s.nodes i).nodeId) node way s)
    (k : Nat) (g d : Int) (hg : 0 ≤ g) (hd : 0 ≤ d)
    (hbound : (k + 1) * (seconds 20 + g) + d < seconds 90) (actions : List (Action ι))
    (hkeeps : Throughout step (KeepsUp k g d path) s actions) :
    Throughout step (SpreadsTo node path) s actions := by
  have hstart : Disseminates k g d (fun i => (s.nodes i).nodeId) node path s :=
    Disseminates.initial hs hjoins
  exact hkeeps.derive hstart fun s' action hs' hkeeps =>
    ⟨step_disseminates hs' hg hd hbound hkeeps, spreads_of_disseminates hs' hg hd hbound hkeeps⟩

/-- Along a path of hops that keep up, everybody knows of the node at its
start after a time for each hop, and from then on. -/
theorem discovery_converges (s : Cluster ι) (hs : s.Initial) (node : NodeIdentifier)
    (path : List (Hop ι))
    (hjoins : ∀ hop way, hop :: way <:+ path → hop.Joins (fun i => (s.nodes i).nodeId) node way s)
    (k : Nat) (g d : Int) (hg : 0 ≤ g) (hd : 0 ≤ d)
    (hbound : (k + 1) * (seconds 20 + g) + d < seconds 90) (start : TimePoint)
    (actions : List (Action ι)) (hkeeps : Throughout step (KeepsUp k g d path) s actions) :
    Throughout step (ConvergesTo k g d start node path) s actions := by
  have hstart : Disseminates k g d (fun i => (s.nodes i).nodeId) node path s :=
    Disseminates.initial hs hjoins
  exact hkeeps.derive hstart fun s' action hs' hkeeps =>
    ⟨step_disseminates hs' hg hd hbound hkeeps,
      converges_of_disseminates hs' hg hd hbound hkeeps start⟩

end Cluster

-- ---------------------------------------------------------------------------
-- A chain of three nodes
-- ---------------------------------------------------------------------------

theorem keyed_lanNode (nodeId : NodeId) (adapters : List Adapter) :
    (lanNode nodeId adapters).adapterManager.KeyedByMac := by
  have hempty : AdapterManager.KeyedByMac ⟨∅⟩ := by
    intro mac adapter h
    simp at h
  exact (AdapterManager.follows_update hempty adapters).1

inductive ChainNode
  | near | middle | far
  deriving DecidableEq, Repr

def chain : Cluster ChainNode where
  nodes
    | .near => lanNode 7 [lanAdapter "a" 1]
    | .middle => lanNode 8 [lanAdapter "b" 2, lanAdapter "c" 3]
    | .far => lanNode 9 [lanAdapter "d" 4]

def chainHops : List (Hop ChainNode) :=
  [⟨.middle, ⟨3⟩, .far, ⟨4⟩, lanAdapter "d" 4⟩, ⟨.near, ⟨1⟩, .middle, ⟨2⟩, lanAdapter "b" 2⟩]

theorem initial_chain : chain.Initial where
  fresh
    | .near => ⟨rfl, rfl⟩
    | .middle => ⟨rfl, rfl⟩
    | .far => ⟨rfl, rfl⟩
  history := rfl

theorem joins_chain (hop : Hop ChainNode) (way : List (Hop ChainNode))
    (h : hop :: way <:+ chainHops) :
    hop.Joins (fun i => (chain.nodes i).nodeId) ⟨7, ⟨1⟩⟩ way chain := by
  rcases List.suffix_cons_iff.mp h with heq | h
  · cases heq
    refine ⟨by decide +kernel, by simp, fun prev hprev => ?_⟩
    cases Option.some.inj hprev
    exact ⟨rfl, keyed_lanNode 8 [lanAdapter "b" 2, lanAdapter "c" 3], by decide +kernel⟩
  · rcases List.suffix_cons_iff.mp h with heq | h
    · cases heq
      exact ⟨by decide +kernel, fun _ => rfl, by simp⟩
    · simp at h

def chainRound (round : Nat) : List (Action ChainNode) :=
  let time := seconds (60 * round)
  [.poll .near time [], .poll .middle time [⟨9 * round + 1, ⟨2⟩⟩],
    .poll .far time [⟨9 * round + 5, ⟨4⟩⟩]]

namespace Cluster

theorem discovery_spreads_chain :
    Throughout step (SpreadsTo ⟨7, ⟨1⟩⟩ chainHops) chain ((List.range 4).flatMap chainRound) :=
  discovery_spreads chain initial_chain ⟨7, ⟨1⟩⟩ chainHops joins_chain 0 (seconds 60) 0 (by decide)
    (by decide) (by decide) ((List.range 4).flatMap chainRound) (by decide +kernel)

theorem discovery_converges_chain :
    Throughout step (ConvergesTo 0 (seconds 60) 0 0 ⟨7, ⟨1⟩⟩ chainHops) chain
      ((List.range 4).flatMap chainRound) :=
  discovery_converges chain initial_chain ⟨7, ⟨1⟩⟩ chainHops joins_chain 0 (seconds 60) 0
    (by decide) (by decide) (by decide) 0 ((List.range 4).flatMap chainRound) (by decide +kernel)

end Cluster

end Discnet
