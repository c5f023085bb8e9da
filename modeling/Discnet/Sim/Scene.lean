import Discnet.AdapterManager
import Discnet.Lib.Pointers
import Discnet.Lib.Run

/-!
# The scene

The scene of the simulator is a graph of items that point to one another: a
node to its adapters and back, a connection to its adapter and its router, and
both of them to the connection. Editing takes items apart in pieces. No piece
follows a pointer to an item that is gone, and as a drawing of adapters with
the routers they are connected to the scene changes as it should.
-/

namespace Discnet.Sim

open Lib

/-- Items are told apart by their number among those of their kind. -/
abbrev ItemNumber := Nat

structure NodeItem where
  nodeId : UInt16
  adapters : List ItemNumber := []
  deriving DecidableEq, Repr

structure AdapterItem where
  adapter : Adapter
  node : ItemNumber
  connection : Option ItemNumber := none
  deriving DecidableEq, Repr

structure RouterItem where
  name : String
  connections : List ItemNumber := []
  deriving DecidableEq, Repr

structure ConnectionItem where
  adapter : ItemNumber
  router : ItemNumber
  deriving DecidableEq, Repr

/-- The items of a scene. The counters are the sequence numbers of the items. -/
structure Scene where
  nodes : ItemNumber → Option NodeItem := fun _ => none
  adapters : ItemNumber → Option AdapterItem := fun _ => none
  routers : ItemNumber → Option RouterItem := fun _ => none
  connections : ItemNumber → Option ConnectionItem := fun _ => none
  nextNode : ItemNumber := 0
  nextAdapter : ItemNumber := 0
  nextRouter : ItemNumber := 0
  nextConnection : ItemNumber := 0

namespace Scene

open Function

-- ---------------------------------------------------------------------------
-- Editing
-- ---------------------------------------------------------------------------

-- Where an item is not there, a pointer to it is followed that should not be.

def addNode (nodeId : UInt16) (s : Scene) : Scene :=
  { s with
    nodes := update s.nodes s.nextNode (some { nodeId })
    nextNode := s.nextNode + 1 }

def addRouter (name : String) (s : Scene) : Scene :=
  { s with
    routers := update s.routers s.nextRouter (some { name })
    nextRouter := s.nextRouter + 1 }

def addAdapter (n : ItemNumber) (adapter : Adapter) (s : Scene) : Option Scene := do
  let node ← s.nodes n
  return { s with
    nodes := update s.nodes n (some { node with adapters := node.adapters ++ [s.nextAdapter] })
    adapters := update s.adapters s.nextAdapter (some { adapter, node := n })
    nextAdapter := s.nextAdapter + 1 }

/-- Takes the connection of an adapter off its router and out of the scene.
The adapter is not told. -/
def disconnect (item : AdapterItem) (s : Scene) : Option Scene :=
  match item.connection with
  | none => some s
  | some c => do
    let connection ← s.connections c
    let router ← s.routers connection.router
    return { s with
      routers := update s.routers connection.router
        (some { router with connections := router.connections.erase c })
      connections := update s.connections c none }

/-- A connection item points its adapter and its router to itself. -/
def newConnection (a r : ItemNumber) (s : Scene) : Option Scene := do
  let item ← s.adapters a
  let router ← s.routers r
  return { s with
    adapters := update s.adapters a (some { item with connection := some s.nextConnection })
    routers := update s.routers r
      (some { router with connections := router.connections ++ [s.nextConnection] })
    connections := update s.connections s.nextConnection (some ⟨a, r⟩)
    nextConnection := s.nextConnection + 1 }

/-- Drawing a line from an adapter to a router replaces the adapter's
connection. -/
def connect (a r : ItemNumber) (s : Scene) : Option Scene := do
  let item ← s.adapters a
  let s ← s.disconnect item
  s.newConnection a r

def removeAdapter (a : ItemNumber) (s : Scene) : Option Scene := do
  let item ← s.adapters a
  let s ← s.disconnect item
  let node ← s.nodes item.node
  return { s with
    nodes := update s.nodes item.node (some { node with adapters := node.adapters.erase a })
    adapters := update s.adapters a none }

def dropConnection (s : Scene) (c : ItemNumber) : Option Scene := do
  let connection ← s.connections c
  let item ← s.adapters connection.adapter
  return { s with
    adapters := update s.adapters connection.adapter (some { item with connection := none })
    connections := update s.connections c none }

def removeRouter (r : ItemNumber) (s : Scene) : Option Scene := do
  let router ← s.routers r
  let s ← router.connections.foldlM dropConnection s
  return { s with routers := update s.routers r none }

def removeNode (n : ItemNumber) (s : Scene) : Option Scene := do
  let node ← s.nodes n
  let s ← node.adapters.foldlM (fun s a => s.removeAdapter a) s
  return { s with nodes := update s.nodes n none }

end Scene

inductive SceneCall
  | addNode (nodeId : UInt16)
  | addRouter (name : String)
  | addAdapter (n : ItemNumber) (adapter : Adapter)
  | connect (a r : ItemNumber)
  | removeAdapter (a : ItemNumber)
  | removeRouter (r : ItemNumber)
  | removeNode (n : ItemNumber)
  deriving DecidableEq, Repr

def Scene.step (s : Scene) : SceneCall → Option Scene
  | .addNode nodeId => some (s.addNode nodeId)
  | .addRouter name => some (s.addRouter name)
  | .addAdapter n adapter => s.addAdapter n adapter
  | .connect a r => s.connect a r
  | .removeAdapter a => s.removeAdapter a
  | .removeRouter r => s.removeRouter r
  | .removeNode n => s.removeNode n

-- ---------------------------------------------------------------------------
-- The drawing
-- ---------------------------------------------------------------------------

/-- An adapter as it is drawn: at its node, and with the router that it is
connected to. -/
structure Drawn where
  node : ItemNumber
  adapter : Adapter
  router : Option ItemNumber := none
  deriving DecidableEq, Repr

/-- What the scene shows. -/
@[ext]
structure Drawing where
  nodes : ItemNumber → Option UInt16 := fun _ => none
  routers : ItemNumber → Option String := fun _ => none
  adapters : ItemNumber → Option Drawn := fun _ => none
  nextNode : ItemNumber := 0
  nextRouter : ItemNumber := 0
  nextAdapter : ItemNumber := 0

namespace Drawing

open Function

/-- What is left of an adapter when a router goes. -/
def unplug (r : ItemNumber) (drawn : Drawn) : Drawn :=
  if drawn.router = some r then { drawn with router := none } else drawn

def step (d : Drawing) : SceneCall → Drawing
  | .addNode nodeId =>
    { d with nodes := update d.nodes d.nextNode (some nodeId), nextNode := d.nextNode + 1 }
  | .addRouter name =>
    { d with routers := update d.routers d.nextRouter (some name), nextRouter := d.nextRouter + 1 }
  | .addAdapter n adapter =>
    { d with
      adapters := update d.adapters d.nextAdapter (some { node := n, adapter })
      nextAdapter := d.nextAdapter + 1 }
  | .connect a r =>
    { d with
      adapters := update d.adapters a
        ((d.adapters a).map fun drawn => { drawn with router := some r }) }
  | .removeAdapter a => { d with adapters := update d.adapters a none }
  | .removeRouter r =>
    { d with
      routers := update d.routers r none
      adapters := Option.map (unplug r) ∘ d.adapters }
  | .removeNode n =>
    { d with
      nodes := update d.nodes n none
      adapters := Option.filter (·.node ≠ n) ∘ d.adapters }

/-- Only what is shown can be picked. -/
def Shows (d : Drawing) : SceneCall → Prop
  | .addNode _ | .addRouter _ => True
  | .addAdapter n _ | .removeNode n => (d.nodes n).isSome
  | .connect a r => (d.adapters a).isSome ∧ (d.routers r).isSome
  | .removeAdapter a => (d.adapters a).isSome
  | .removeRouter r => (d.routers r).isSome

instance (d : Drawing) : ∀ call, Decidable (d.Shows call)
  | .addNode _ | .addRouter _ => instDecidableTrue
  | .addAdapter n _ | .removeNode n => inferInstanceAs (Decidable ((d.nodes n).isSome = true))
  | .connect a r =>
    inferInstanceAs (Decidable ((d.adapters a).isSome = true ∧ (d.routers r).isSome = true))
  | .removeAdapter a => inferInstanceAs (Decidable ((d.adapters a).isSome = true))
  | .removeRouter r => inferInstanceAs (Decidable ((d.routers r).isSome = true))

end Drawing

-- ---------------------------------------------------------------------------
-- Pointers
-- ---------------------------------------------------------------------------

namespace Scene

open Function

def nodeAdapters (s : Scene) : ItemNumber → Option (List ItemNumber) :=
  Option.map NodeItem.adapters ∘ s.nodes

def adapterNode (s : Scene) : ItemNumber → Option ItemNumber :=
  Option.map AdapterItem.node ∘ s.adapters

def adapterConnection (s : Scene) : ItemNumber → Option ItemNumber :=
  (Option.bind · AdapterItem.connection) ∘ s.adapters

def routerConnections (s : Scene) : ItemNumber → Option (List ItemNumber) :=
  Option.map RouterItem.connections ∘ s.routers

def connectionAdapter (s : Scene) : ItemNumber → Option ItemNumber :=
  Option.map ConnectionItem.adapter ∘ s.connections

def connectionRouter (s : Scene) : ItemNumber → Option ItemNumber :=
  Option.map ConnectionItem.router ∘ s.connections

/-- Items point to each other, and to no item that is gone. -/
structure Consistent (s : Scene) : Prop where
  nodes : Owned s.nodeAdapters s.adapterNode
  routers : Owned s.routerConnections s.connectionRouter
  connections : Paired s.adapterConnection s.connectionAdapter
  nodesBelow : Below s.nodes s.nextNode
  adaptersBelow : Below s.adapters s.nextAdapter
  routersBelow : Below s.routers s.nextRouter
  connectionsBelow : Below s.connections s.nextConnection

def drawn (s : Scene) (item : AdapterItem) : Drawn :=
  ⟨item.node, item.adapter, item.connection.bind s.connectionRouter⟩

def drawing (s : Scene) : Drawing where
  nodes := Option.map NodeItem.nodeId ∘ s.nodes
  routers := Option.map RouterItem.name ∘ s.routers
  adapters := Option.map s.drawn ∘ s.adapters
  nextNode := s.nextNode
  nextRouter := s.nextRouter
  nextAdapter := s.nextAdapter

theorem consistent_empty : Consistent {} :=
  ⟨.empty, .empty, .empty, .empty, .empty, .empty, .empty⟩

-- ---------------------------------------------------------------------------
-- What an edit does
-- ---------------------------------------------------------------------------

theorem drawing_adapters (s : Scene) (b : ItemNumber) :
    s.drawing.adapters b = (s.adapters b).map s.drawn := rfl

theorem exists_node {s : Scene} {n : ItemNumber} (h : (s.drawing.nodes n).isSome) :
    ∃ node, s.nodes n = some node := by
  simpa [drawing, Option.isSome_iff_exists] using h

theorem exists_adapter {s : Scene} {a : ItemNumber} (h : (s.drawing.adapters a).isSome) :
    ∃ item, s.adapters a = some item := by
  simpa [drawing, Option.isSome_iff_exists] using h

theorem exists_router {s : Scene} {r : ItemNumber} (h : (s.drawing.routers r).isSome) :
    ∃ router, s.routers r = some router := by
  simpa [drawing, Option.isSome_iff_exists] using h

/-- Where the other adapters keep their routers, only one adapter is drawn anew. -/
theorem drawing_replug {s : Scene} {a r next : ItemNumber} (item : AdapterItem)
    {router : RouterItem} {connections : ItemNumber → Option ConnectionItem}
    (hr : s.routers r = some router) (list : List ItemNumber)
    (hothers : ∀ b other, b ≠ a → s.adapters b = some other → ∀ c, other.connection = some c →
      connections c = s.connections c) :
    drawing { s with
      adapters := update s.adapters a (some item)
      routers := update s.routers r (some { router with connections := list })
      connections := connections
      nextConnection := next } =
      { s.drawing with
        adapters := update s.drawing.adapters a (some ⟨item.node, item.adapter,
          item.connection.bind (Option.map ConnectionItem.router ∘ connections)⟩) } := by
  ext1
  case nodes => rfl
  case routers =>
    have hsame : update (Option.map RouterItem.name ∘ s.routers) r (some router.name) =
        Option.map RouterItem.name ∘ s.routers := by
      rw [update_eq_self_iff]
      simp [hr]
    simpa [drawing, comp_update] using hsame
  case adapters =>
    funext b
    rw [drawing_adapters]
    by_cases hb : b = a
    · subst hb
      simp only [update_self]
      rfl
    · simp only [update_of_ne hb]
      cases hother : s.adapters b with
      | none => simp [drawing, hother]
      | some other =>
        cases hc : other.connection with
        | none => simp [drawing, drawn, hother, hc]
        | some c =>
          have hsame := hothers b other hb hother c hc
          simp [drawing, drawn, connectionRouter, hother, hc, hsame]
  all_goals rfl

namespace Consistent

variable {s : Scene} {n a r c : ItemNumber} {node : NodeItem} {item : AdapterItem}
  {router : RouterItem}

theorem addNode (hs : s.Consistent) (nodeId : UInt16) : (s.addNode nodeId).Consistent ∧
    (s.addNode nodeId).drawing = s.drawing.step (.addNode nodeId) := by
  have hnew : s.nodeAdapters s.nextNode = none := by
    simp [nodeAdapters, hs.nodesBelow _ le_rfl]
  constructor
  · refine { hs with nodes := ?_, nodesBelow := hs.nodesBelow.push _ }
    simpa [nodeAdapters, adapterNode, Scene.addNode, comp_update] using hs.nodes.addOwner hnew
  · simp only [drawing, Drawing.step, Scene.addNode, comp_update]
    rfl

theorem addRouter (hs : s.Consistent) (name : String) : (s.addRouter name).Consistent ∧
    (s.addRouter name).drawing = s.drawing.step (.addRouter name) := by
  have hnew : s.routerConnections s.nextRouter = none := by
    simp [routerConnections, hs.routersBelow _ le_rfl]
  constructor
  · refine { hs with routers := ?_, routersBelow := hs.routersBelow.push _ }
    simpa [routerConnections, connectionRouter, Scene.addRouter, comp_update] using
      hs.routers.addOwner hnew
  · simp only [drawing, Drawing.step, Scene.addRouter, comp_update]
    rfl

theorem addAdapter (hs : s.Consistent) (hn : s.nodes n = some node) (adapter : Adapter) :
    ∃ t, s.addAdapter n adapter = some t ∧ t.Consistent ∧
      t.drawing = s.drawing.step (.addAdapter n adapter) := by
  have hnone : s.adapters s.nextAdapter = none := hs.adaptersBelow _ le_rfl
  have hnode : s.nodeAdapters n = some node.adapters := by simp [nodeAdapters, hn]
  have hnew : s.adapterNode s.nextAdapter = none := by simp [adapterNode, hnone]
  have hfree : s.adapterConnection s.nextAdapter = none := by simp [adapterConnection, hnone]
  refine ⟨_, by rw [Scene.addAdapter, hn]; rfl, ?_, ?_⟩
  · constructor
    case nodes =>
      simpa [nodeAdapters, adapterNode, comp_update] using hs.nodes.addMember hnode hnew
    case routers => exact hs.routers
    case connections =>
      have hsame := hs.connections
      rw [← update_eq_self s.nextAdapter s.adapterConnection, hfree] at hsame
      simpa [adapterConnection, connectionAdapter, comp_update] using hsame
    case nodesBelow => exact hs.nodesBelow.update hn _
    case adaptersBelow => exact hs.adaptersBelow.push _
    case routersBelow => exact hs.routersBelow
    case connectionsBelow => exact hs.connectionsBelow
  · have hsame : update (Option.map NodeItem.nodeId ∘ s.nodes) n (some node.nodeId) =
        Option.map NodeItem.nodeId ∘ s.nodes := by
      rw [update_eq_self_iff]
      simp [hn]
    simp only [drawing, Drawing.step, comp_update, Option.map_some, hsame]
    rfl

/-- Where the connection of an adapter goes, the router forgets it. -/
theorem unplug (hs : s.Consistent) (ha : s.adapters a = some item)
    (hc : item.connection = some c) (hconnection : s.connections c = some ⟨a, r⟩)
    (hr : s.routers r = some router) :
    Consistent { s with
      adapters := update s.adapters a (some { item with connection := none })
      routers := update s.routers r
        (some { router with connections := router.connections.erase c })
      connections := update s.connections c none } := by
  have hlist : s.routerConnections r = some router.connections := by simp [routerConnections, hr]
  have howner : s.connectionRouter c = some r := by simp [connectionRouter, hconnection]
  have hplug : s.adapterConnection a = some c := by simp [adapterConnection, ha, hc]
  constructor
  case nodes =>
    have hsame := hs.nodes
    rw [← update_eq_self a s.adapterNode] at hsame
    simpa [nodeAdapters, adapterNode, comp_update, ha] using hsame
  case routers =>
    simpa [routerConnections, connectionRouter, comp_update] using
      hs.routers.removeMember howner hlist
  case connections =>
    simpa [adapterConnection, connectionAdapter, comp_update] using hs.connections.unpair hplug
  case nodesBelow => exact hs.nodesBelow
  case adaptersBelow => exact hs.adaptersBelow.update ha _
  case routersBelow => exact hs.routersBelow.update hr _
  case connectionsBelow => exact hs.connectionsBelow.update hconnection _

theorem drawing_unplug (hs : s.Consistent) (ha : s.adapters a = some item)
    (hc : item.connection = some c) (hr : s.routers r = some router) :
    drawing { s with
      adapters := update s.adapters a (some { item with connection := none })
      routers := update s.routers r
        (some { router with connections := router.connections.erase c })
      connections := update s.connections c none } =
      { s.drawing with
        adapters := update s.drawing.adapters a (some ⟨item.node, item.adapter, none⟩) } := by
  refine drawing_replug _ hr _ fun b other hb hother c' hc' => update_of_ne ?_ _ _
  rintro rfl
  have hplug : s.adapterConnection a = some c' := by simp [adapterConnection, ha, hc]
  exact hb (hs.connections.unique (by simp [adapterConnection, hother, hc']) hplug)

/-- Where a connection comes, an adapter that has none is connected. -/
theorem plug (hs : s.Consistent) (ha : s.adapters a = some item) (hfree : item.connection = none)
    (hr : s.routers r = some router) :
    Consistent { s with
      adapters := update s.adapters a (some { item with connection := some s.nextConnection })
      routers := update s.routers r
        (some { router with connections := router.connections ++ [s.nextConnection] })
      connections := update s.connections s.nextConnection (some ⟨a, r⟩)
      nextConnection := s.nextConnection + 1 } := by
  have hnone : s.connections s.nextConnection = none := hs.connectionsBelow _ le_rfl
  have hlist : s.routerConnections r = some router.connections := by simp [routerConnections, hr]
  have hnew : s.connectionRouter s.nextConnection = none := by simp [connectionRouter, hnone]
  have hopen : s.connectionAdapter s.nextConnection = none := by simp [connectionAdapter, hnone]
  have hplug : s.adapterConnection a = none := by simp [adapterConnection, ha, hfree]
  constructor
  case nodes =>
    have hsame := hs.nodes
    rw [← update_eq_self a s.adapterNode] at hsame
    simpa [nodeAdapters, adapterNode, comp_update, ha] using hsame
  case routers =>
    simpa [routerConnections, connectionRouter, comp_update] using hs.routers.addMember hlist hnew
  case connections =>
    simpa [adapterConnection, connectionAdapter, comp_update] using
      hs.connections.pair hplug hopen
  case nodesBelow => exact hs.nodesBelow
  case adaptersBelow => exact hs.adaptersBelow.update ha _
  case routersBelow => exact hs.routersBelow.update hr _
  case connectionsBelow => exact hs.connectionsBelow.push _

theorem drawing_plug (hs : s.Consistent) (a : ItemNumber) (item : AdapterItem)
    (hr : s.routers r = some router) :
    drawing { s with
      adapters := update s.adapters a (some { item with connection := some s.nextConnection })
      routers := update s.routers r
        (some { router with connections := router.connections ++ [s.nextConnection] })
      connections := update s.connections s.nextConnection (some ⟨a, r⟩)
      nextConnection := s.nextConnection + 1 } =
      { s.drawing with
        adapters := update s.drawing.adapters a (some ⟨item.node, item.adapter, some r⟩) } := by
  have hnone : s.connections s.nextConnection = none := hs.connectionsBelow _ le_rfl
  refine (drawing_replug { item with connection := some s.nextConnection } hr _ ?_).trans ?_
  · intro b other hb hother c hc
    have hplug := (hs.connections b c).mp (by simp [adapterConnection, hother, hc])
    refine update_of_ne ?_ _ _
    rintro rfl
    simp [connectionAdapter, hnone] at hplug
  · simp

/-- An adapter that has no connection can be taken off its node. -/
theorem takeOff (hs : s.Consistent) (ha : s.adapters a = some item)
    (hfree : item.connection = none) (hn : s.nodes item.node = some node) :
    Consistent { s with
      nodes := update s.nodes item.node (some { node with adapters := node.adapters.erase a })
      adapters := update s.adapters a none } := by
  have hlist : s.nodeAdapters item.node = some node.adapters := by simp [nodeAdapters, hn]
  have howner : s.adapterNode a = some item.node := by simp [adapterNode, ha]
  have hnone : s.adapterConnection a = none := by simp [adapterConnection, ha, hfree]
  constructor
  case nodes =>
    simpa [nodeAdapters, adapterNode, comp_update] using hs.nodes.removeMember howner hlist
  case routers => exact hs.routers
  case connections =>
    have hsame := hs.connections
    rw [← update_eq_self a s.adapterConnection, hnone] at hsame
    simpa [adapterConnection, connectionAdapter, comp_update] using hsame
  case nodesBelow => exact hs.nodesBelow.update hn _
  case adaptersBelow => exact hs.adaptersBelow.update ha _
  case routersBelow => exact hs.routersBelow
  case connectionsBelow => exact hs.connectionsBelow

theorem drawing_takeOff (hn : s.nodes n = some node) :
    drawing { s with
      nodes := update s.nodes n (some { node with adapters := node.adapters.erase a })
      adapters := update s.adapters a none } =
      { s.drawing with adapters := update s.drawing.adapters a none } := by
  have hsame : update (Option.map NodeItem.nodeId ∘ s.nodes) n (some node.nodeId) =
      Option.map NodeItem.nodeId ∘ s.nodes := by
    rw [update_eq_self_iff]
    simp [hn]
  simp only [drawing, comp_update, Option.map_some, Option.map_none, hsame]
  rfl

/-- Pulling the plug of an adapter. -/
theorem disconnect (hs : s.Consistent) (ha : s.adapters a = some item) :
    ∃ routers connections,
      s.disconnect item = some { s with routers := routers, connections := connections } ∧
      Consistent { s with
        adapters := update s.adapters a (some { item with connection := none })
        routers := routers
        connections := connections } ∧
      drawing { s with
        adapters := update s.adapters a (some { item with connection := none })
        routers := routers
        connections := connections } =
        { s.drawing with
          adapters := update s.drawing.adapters a (some ⟨item.node, item.adapter, none⟩) } := by
  cases hc : item.connection with
  | none =>
    have hitem : { item with connection := none } = item := by rw [← hc]
    have hsame : update s.adapters a (some item) = s.adapters := by rw [← ha, update_eq_self]
    refine ⟨s.routers, s.connections, by rw [Scene.disconnect, hc], ?_, ?_⟩
    · rw [hitem, hsame]
      exact hs
    · rw [hitem, hsame]
      have hdrawn : s.drawing.adapters a = some ⟨item.node, item.adapter, none⟩ := by
        simp [drawing, drawn, ha, hc]
      rw [← hdrawn, update_eq_self]
  | some c =>
    have hback : s.connectionAdapter c = some a :=
      (hs.connections a c).mp (by simp [adapterConnection, ha, hc])
    obtain ⟨⟨a', r⟩, hconnection, rfl⟩ := Option.map_eq_some_iff.mp hback
    obtain ⟨list, hlist, -⟩ := hs.routers.mem (a := c) (i := r)
      (by simp [connectionRouter, hconnection])
    obtain ⟨router, hr, -⟩ := Option.map_eq_some_iff.mp hlist
    have hdone : s.disconnect item = some { s with
        routers := update s.routers r
          (some { router with connections := router.connections.erase c })
        connections := update s.connections c none } := by
      simp [Scene.disconnect, hc, hconnection, hr]
    refine ⟨_, _, hdone, ?_, ?_⟩
    · exact hs.unplug ha hc hconnection hr
    · exact hs.drawing_unplug ha hc hr

theorem connect (hs : s.Consistent) (ha : s.adapters a = some item)
    (hr : s.routers r = some router) :
    ∃ t, s.connect a r = some t ∧ t.Consistent ∧ t.drawing = s.drawing.step (.connect a r) := by
  obtain ⟨routers, connections, hdone, hfree, hdrawing⟩ := hs.disconnect ha
  have hshown := congrFun (congrArg Drawing.routers hdrawing) r
  simp only [drawing, Function.comp_apply, hr, Option.map_some] at hshown
  obtain ⟨router', hr', -⟩ := Option.map_eq_some_iff.mp hshown
  refine ⟨_, by simp [Scene.connect, newConnection, ha, hdone, hr']; rfl, ?_, ?_⟩
  · simpa only [update_idem] using hfree.plug (update_self ..) rfl hr'
  · have hplug := hfree.drawing_plug a item hr'
    rw [hdrawing] at hplug
    simp only [update_idem] at hplug
    rw [hplug, Drawing.step, drawing_adapters, ha]
    rfl

theorem removeAdapter (hs : s.Consistent) (ha : s.adapters a = some item) :
    ∃ t, s.removeAdapter a = some t ∧ t.Consistent ∧
      t.drawing = s.drawing.step (.removeAdapter a) ∧
      ∃ list, s.nodeAdapters item.node = some list ∧
        t.nodeAdapters = update s.nodeAdapters item.node (some (list.erase a)) := by
  obtain ⟨routers, connections, hdone, hfree, hdrawing⟩ := hs.disconnect ha
  obtain ⟨list, hlist, -⟩ := hs.nodes.mem (a := a) (i := item.node) (by simp [adapterNode, ha])
  obtain ⟨node, hn, rfl⟩ := Option.map_eq_some_iff.mp hlist
  refine ⟨_, by simp [Scene.removeAdapter, ha, hdone, hn]; rfl, ?_, ?_, ?_⟩
  · simpa only [update_idem] using hfree.takeOff (update_self ..) rfl hn
  · have htaken := drawing_takeOff (s := { s with
        adapters := update s.adapters a (some { item with connection := none })
        routers := routers
        connections := connections }) (a := a) hn
    rw [hdrawing] at htaken
    simp only [update_idem] at htaken
    exact htaken
  · exact ⟨_, hlist, by simp [nodeAdapters, comp_update]⟩

/-- The adapters of a node are removed one after the other. -/
theorem removeAdapters (hs : s.Consistent) {list : List ItemNumber}
    (hn : s.nodeAdapters n = some list) :
    ∃ t, list.foldlM (fun s a => s.removeAdapter a) s = some t ∧ t.Consistent ∧
      t.nodeAdapters n = some [] ∧ t.drawing = { s.drawing with
        adapters := Option.filter (·.node ≠ n) ∘ s.drawing.adapters } := by
  induction list generalizing s with
  | nil =>
    refine ⟨s, rfl, hs, hn, ?_⟩
    ext1
    case adapters =>
      funext b
      cases hb : s.adapters b with
      | none => simp [drawing, hb]
      | some item =>
        have hne : item.node ≠ n := by
          rintro rfl
          have hmem := (hs.nodes.mem_iff _ [] b hn).mpr (by simp [adapterNode, hb])
          contradiction
        simp [drawing, drawn, Option.filter, hb, hne]
    all_goals rfl
  | cons a rest ih =>
    have howner := (hs.nodes.mem_iff n _ a hn).mp List.mem_cons_self
    obtain ⟨item, ha, rfl⟩ := Option.map_eq_some_iff.mp howner
    obtain ⟨t, hdone, ht, hdrawing, list, hlist, hleft⟩ := hs.removeAdapter ha
    obtain rfl := Option.some.inj (hlist.symm.trans hn)
    have hrest : t.nodeAdapters item.node = some rest := by
      rw [hleft, update_self, List.erase_cons_head]
    obtain ⟨u, hothers, hu, hempty, hdrawn⟩ := ih ht hrest
    refine ⟨u, by simp [hdone, hothers], hu, hempty, ?_⟩
    have hgone : (s.drawing.adapters a).filter (·.node ≠ item.node) = none := by
      simp [drawing_adapters, ha, drawn]
    have hsame : Option.filter (·.node ≠ item.node) ∘ update s.drawing.adapters a none =
        Option.filter (·.node ≠ item.node) ∘ s.drawing.adapters := by
      rw [comp_update, Option.filter_none, ← hgone]
      exact update_eq_self a (Option.filter (·.node ≠ item.node) ∘ s.drawing.adapters)
    rw [hdrawn, hdrawing, Drawing.step, hsame]

theorem removeNode (hs : s.Consistent) (hn : s.nodes n = some node) :
    ∃ t, s.removeNode n = some t ∧ t.Consistent ∧ t.drawing = s.drawing.step (.removeNode n) := by
  have hlist : s.nodeAdapters n = some node.adapters := by simp [nodeAdapters, hn]
  obtain ⟨t, hdone, ht, hempty, hdrawing⟩ := hs.removeAdapters hlist
  obtain ⟨node', hnode', -⟩ := Option.map_eq_some_iff.mp hempty
  refine ⟨_, by simp [Scene.removeNode, hn, hdone]; rfl, ?_, ?_⟩
  · refine { ht with nodes := ?_, nodesBelow := ht.nodesBelow.update hnode' _ }
    simpa [nodeAdapters, adapterNode, comp_update] using ht.nodes.removeOwner hempty
  · have hshown : drawing { t with nodes := update t.nodes n none } =
        { t.drawing with nodes := update t.drawing.nodes n none } := by
      simp only [drawing, comp_update]
      rfl
    rw [hshown, hdrawing]
    rfl

/-- The connections of a router are removed one after the other. The router
keeps its list, so what is consistent is the scene with the rest of it. -/
theorem dropConnections {list : List ItemNumber}
    (hs : Consistent { s with
      routers := update s.routers r (some { router with connections := list }) }) :
    ∃ adapters connections,
      list.foldlM dropConnection s =
        some { s with adapters := adapters, connections := connections } ∧
      Consistent { s with
        adapters := adapters
        routers := update s.routers r (some { router with connections := [] })
        connections := connections } ∧
      drawing { s with
        adapters := adapters
        routers := update s.routers r (some { router with connections := [] })
        connections := connections } =
        { s.drawing with
          routers := update s.drawing.routers r (some router.name)
          adapters := Option.map (Drawing.unplug r) ∘ Option.map s.drawn ∘ s.adapters } := by
  induction list generalizing s with
  | nil =>
    refine ⟨s.adapters, s.connections, rfl, hs, ?_⟩
    ext1
    case routers => simp [drawing, comp_update]
    case adapters =>
      funext b
      cases hb : s.adapters b with
      | none => simp [drawing, hb]
      | some item =>
        have hne : item.connection.bind s.connectionRouter ≠ some r := by
          intro hr
          obtain ⟨c, -, hc⟩ := Option.bind_eq_some_iff.mp hr
          have hmem := (hs.routers.mem_iff r [] c (by simp [routerConnections])).mpr hc
          contradiction
        have hsame : Drawing.unplug r (s.drawn item) = s.drawn item := if_neg hne
        simp [drawing, hb, hsame]
        rfl
    all_goals rfl
  | cons c rest ih =>
    have hfound : update s.routers r (some { router with connections := c :: rest }) r =
        some { router with connections := c :: rest } := update_self ..
    obtain ⟨⟨a, r'⟩, hconnection, rfl⟩ := Option.map_eq_some_iff.mp
      ((hs.routers.mem_iff r (c :: rest) c (by simp [routerConnections])).mp List.mem_cons_self)
    have hconnection : s.connections c = some ⟨a, r'⟩ := hconnection
    have hback : s.connectionAdapter c = some a := by simp [connectionAdapter, hconnection]
    obtain ⟨item, ha, hc⟩ := Option.bind_eq_some_iff.mp ((hs.connections a c).mpr hback)
    have ha : s.adapters a = some item := ha
    have hstep : s.dropConnection c = some { s with
        adapters := update s.adapters a (some { item with connection := none })
        connections := update s.connections c none } := by
      simp [dropConnection, hconnection, ha]
    have hnext := hs.unplug ha hc hconnection (update_self ..)
    have hdrawn := hs.drawing_unplug ha hc (r := r') (update_self ..)
    simp only [update_idem, List.erase_cons_head] at hnext hdrawn
    obtain ⟨adapters, connections, hrest, hdone, hdrawing⟩ := ih (s := { s with
      adapters := update s.adapters a (some { item with connection := none })
      connections := update s.connections c none }) hnext
    refine ⟨adapters, connections, by simp [hstep, hrest], hdone, ?_⟩
    have hadapters := congrArg Drawing.adapters hdrawn
    have hgone : (Option.map (Drawing.unplug r') ∘ Option.map s.drawn ∘ s.adapters) a =
        some ⟨item.node, item.adapter, none⟩ := by
      simp [ha, hc, hconnection, drawn, connectionRouter, Drawing.unplug]
    have hsame : Option.map (Drawing.unplug r') ∘ update (Option.map s.drawn ∘ s.adapters) a
        (some ⟨item.node, item.adapter, none⟩) =
        Option.map (Drawing.unplug r') ∘ Option.map s.drawn ∘ s.adapters := by
      rw [comp_update, Option.map_some, Drawing.unplug, if_neg (by simp), update_eq_self_iff, hgone]
    rw [hdrawing]
    ext1
    case adapters => exact (congrArg (Option.map (Drawing.unplug r') ∘ ·) hadapters).trans hsame
    all_goals rfl

theorem removeRouter (hs : s.Consistent) (hr : s.routers r = some router) :
    ∃ t, s.removeRouter r = some t ∧ t.Consistent ∧
      t.drawing = s.drawing.step (.removeRouter r) := by
  have hwhole : Consistent { s with
      routers := update s.routers r (some { router with connections := router.connections }) } := by
    rwa [← hr, update_eq_self]
  obtain ⟨adapters, connections, hrest, hdone, hdrawing⟩ := dropConnections hwhole
  refine ⟨_, by simp [Scene.removeRouter, hr, hrest]; rfl, ?_, ?_⟩
  · have hempty := hdone.routers.removeOwner (i := r) (by simp [routerConnections])
    have hbelow := hdone.routersBelow.update (update_self ..) none
    simp only [update_idem] at hbelow
    refine { hdone with routers := ?_, routersBelow := hbelow }
    simpa [routerConnections, connectionRouter, comp_update] using hempty
  · have hadapters := congrArg Drawing.adapters hdrawing
    ext1
    case routers => simp [drawing, Drawing.step, comp_update]
    case adapters => exact hadapters
    all_goals rfl

/-- No call follows a pointer to an item that is gone. -/
theorem step (hs : s.Consistent) {call : SceneCall} (h : s.drawing.Shows call) :
    ∃ t, s.step call = some t ∧ t.Consistent ∧ t.drawing = s.drawing.step call := by
  cases call with
  | addNode nodeId => exact ⟨_, rfl, hs.addNode nodeId⟩
  | addRouter name => exact ⟨_, rfl, hs.addRouter name⟩
  | addAdapter n adapter =>
    obtain ⟨node, hn⟩ := exists_node h
    exact hs.addAdapter hn adapter
  | connect a r =>
    obtain ⟨item, ha⟩ := exists_adapter h.1
    obtain ⟨router, hr⟩ := exists_router h.2
    exact hs.connect ha hr
  | removeAdapter a =>
    obtain ⟨item, ha⟩ := exists_adapter h
    obtain ⟨t, hdone, ht, hdrawing, -⟩ := hs.removeAdapter ha
    exact ⟨t, hdone, ht, hdrawing⟩
  | removeRouter r =>
    obtain ⟨router, hr⟩ := exists_router h
    exact hs.removeRouter hr
  | removeNode n =>
    obtain ⟨node, hn⟩ := exists_node h
    exact hs.removeNode hn

end Consistent

-- ---------------------------------------------------------------------------
-- Runs
-- ---------------------------------------------------------------------------

/-- In every run of edits of what is drawn no pointer is followed to an item
that is gone, and what is drawn changes as the edits say. -/
theorem refines_drawing (calls : List SceneCall)
    (h : Throughout Drawing.step Drawing.Shows {} calls) :
    ∃ t, calls.foldlM step {} = some t ∧ t.Consistent ∧
      t.drawing = calls.foldl Drawing.step {} :=
  Throughout.total (f := drawing) h consistent_empty fun _ _ hs hshows => hs.step hshows

/-- Three adapters of two nodes on two routers, of which a router and a node go. -/
def sketch : List SceneCall :=
  [.addNode 1000, .addNode 1001, .addRouter "router_1", .addRouter "router_2", .addAdapter 0 {},
    .addAdapter 0 {}, .addAdapter 1 {}, .connect 0 0, .connect 1 0, .connect 2 1, .connect 0 1,
    .removeRouter 0, .removeNode 0]

theorem refines_drawing_sketch : ∃ t, sketch.foldlM step {} = some t ∧ t.Consistent ∧
    t.drawing = sketch.foldl Drawing.step {} :=
  refines_drawing sketch (by decide)

/-- Of the connections of the second router one is left. -/
example : (sketch.foldlM step {}).bind (·.routers 1) = some ⟨"router_2", [2]⟩ := by decide

end Scene

end Discnet.Sim
