import Discnet.Sim.Scene
import Discnet.Sim.SimulatedLinks

/-!
# The scene editor

Every edit of the scene is passed on to the simulator, which knows the items
by their internal ids. Looked at from outside the editor is a board: a drawing
and a simulator, where an edit draws and simulates.
-/

namespace Discnet.Sim

open Lib Network Network.Messages Std

/-- The number of an item as the simulator is told it. -/
def internalId (number : ItemNumber) : UInt32 := .ofNat number

/-- What a node that is dropped on the scene runs with. -/
def sceneConfiguration (nodeId : UInt16) : Configuration := ⟨nodeId, ⟨0xe0010102⟩, 1337⟩

def routerName (sequenceNumber : UInt16) : String := "router_" ++ toString sequenceNumber

inductive EditorCall
  | dropNode
  | dropRouter
  | adapterEvent (internalId : UInt16) (adapter : Adapter)
  | mouseRelease (a r : ItemNumber)
  | deleteAdapter (a : ItemNumber)
  | deleteRouter (r : ItemNumber)
  | deleteNode (n : ItemNumber)
  | complete (node : NodeIdentifier) (k : Nat) (time : TimePoint)
  | update (time : TimePoint)
  deriving DecidableEq, Repr

-- ---------------------------------------------------------------------------
-- The editor
-- ---------------------------------------------------------------------------

structure SceneEditor where
  scene : Scene := {}
  simulator : Simulator := {}
  nodeIdSequenceNumber : UInt16 := 1000
  routerSequenceNumber : UInt16 := 1

/-- The node items with the internal id. -/
def Scene.nodesWith (id : UInt16) (s : Scene) : List ItemNumber :=
  (List.range s.nextNode).filter fun n => (s.nodes n).isSome ∧ internalId n = id.toUInt32

/-- The internal id of the node of an adapter is read from the node. -/
def Scene.nodeId (item : AdapterItem) (s : Scene) : Option NodeIdentifier :=
  (s.nodes item.node).map fun _ => internalId item.node

namespace SceneEditor

def dropNode (e : SceneEditor) : SceneEditor :=
  { e with
    scene := e.scene.addNode e.nodeIdSequenceNumber
    simulator := e.simulator.addNode (internalId e.scene.nextNode)
      (sceneConfiguration e.nodeIdSequenceNumber)
    nodeIdSequenceNumber := e.nodeIdSequenceNumber + 1 }

def dropRouter (e : SceneEditor) : SceneEditor :=
  { e with
    scene := e.scene.addRouter (routerName e.routerSequenceNumber)
    simulator := e.simulator.call (.addRouter (internalId e.scene.nextRouter))
    routerSequenceNumber := e.routerSequenceNumber + 1 }

def addAdapter (adapter : Adapter) (e : SceneEditor) (n : ItemNumber) : Option SceneEditor := do
  let scene ← e.scene.addAdapter n adapter
  return { e with
    scene
    simulator :=
      e.simulator.addAdapter (internalId n) (internalId e.scene.nextAdapter) adapter }

def adapterEvent (id : UInt16) (adapter : Adapter) (e : SceneEditor) : Option SceneEditor :=
  (e.scene.nodesWith id).foldlM (addAdapter adapter) e

/-- A line was drawn from an adapter to a router. -/
def mouseRelease (a r : ItemNumber) (e : SceneEditor) : Option SceneEditor := do
  let item ← e.scene.adapters a
  let node ← e.scene.nodeId item
  let scene ← e.scene.connect a r
  let simulator :=
    if item.connection.isSome then e.simulator.call (.removeLink node (internalId a))
    else e.simulator
  return { e with
    scene
    simulator := simulator.call (.addLink node (internalId a) (internalId r)) }

def deleteAdapter (a : ItemNumber) (e : SceneEditor) : Option SceneEditor := do
  let item ← e.scene.adapters a
  let node ← e.scene.nodeId item
  let scene ← e.scene.removeAdapter a
  return { e with scene, simulator := e.simulator.removeAdapter node (internalId a) }

def deleteRouter (r : ItemNumber) (e : SceneEditor) : Option SceneEditor := do
  let scene ← e.scene.removeRouter r
  return { e with scene, simulator := e.simulator.call (.removeRouter (internalId r)) }

def deleteNode (n : ItemNumber) (e : SceneEditor) : Option SceneEditor := do
  let scene ← e.scene.removeNode n
  return { e with scene, simulator := e.simulator.removeNode (internalId n) }

def step (md5 : List Byte → Digest) (e : SceneEditor) : EditorCall → Option SceneEditor
  | .dropNode => some e.dropNode
  | .dropRouter => some e.dropRouter
  | .adapterEvent id adapter => e.adapterEvent id adapter
  | .mouseRelease a r => e.mouseRelease a r
  | .deleteAdapter a => e.deleteAdapter a
  | .deleteRouter r => e.deleteRouter r
  | .deleteNode n => e.deleteNode n
  | .complete node k time => some { e with simulator := e.simulator.complete node k time }
  | .update time => some { e with simulator := e.simulator.update md5 time }

end SceneEditor

-- ---------------------------------------------------------------------------
-- The board
-- ---------------------------------------------------------------------------

structure Board where
  drawing : Drawing := {}
  simulator : Simulator := {}
  nodeIdSequenceNumber : UInt16 := 1000
  routerSequenceNumber : UInt16 := 1

def Drawing.nodesWith (id : UInt16) (d : Drawing) : List ItemNumber :=
  (List.range d.nextNode).filter fun n => (d.nodes n).isSome ∧ internalId n = id.toUInt32

namespace Board

/-- An edit is drawn, and the simulator is called. -/
def edit (call : SceneCall) (f : Simulator → Simulator) (b : Board) : Board :=
  { b with drawing := b.drawing.step call, simulator := f b.simulator }

def addAdapter (adapter : Adapter) (b : Board) (n : ItemNumber) : Board :=
  b.edit (.addAdapter n adapter) fun s =>
    s.addAdapter (internalId n) (internalId b.drawing.nextAdapter) adapter

/-- The adapter is taken off its router before it is linked to the other. -/
def relink (a r : ItemNumber) (drawn : Drawn) (s : Simulator) : Simulator :=
  (if drawn.router.isSome then s.call (.removeLink (internalId drawn.node) (internalId a))
    else s).call (.addLink (internalId drawn.node) (internalId a) (internalId r))

def step (md5 : List Byte → Digest) (b : Board) : EditorCall → Board
  | .dropNode =>
    { b.edit (.addNode b.nodeIdSequenceNumber) (·.addNode (internalId b.drawing.nextNode)
        (sceneConfiguration b.nodeIdSequenceNumber)) with
      nodeIdSequenceNumber := b.nodeIdSequenceNumber + 1 }
  | .dropRouter =>
    { b.edit (.addRouter (routerName b.routerSequenceNumber))
        (·.call (.addRouter (internalId b.drawing.nextRouter))) with
      routerSequenceNumber := b.routerSequenceNumber + 1 }
  | .adapterEvent id adapter => (b.drawing.nodesWith id).foldl (addAdapter adapter) b
  | .mouseRelease a r =>
    match b.drawing.adapters a with
    | some drawn => b.edit (.connect a r) (relink a r drawn)
    | none => b
  | .deleteAdapter a =>
    match b.drawing.adapters a with
    | some drawn =>
      b.edit (.removeAdapter a) (·.removeAdapter (internalId drawn.node) (internalId a))
    | none => b
  | .deleteRouter r => b.edit (.removeRouter r) (·.call (.removeRouter (internalId r)))
  | .deleteNode n => b.edit (.removeNode n) (·.removeNode (internalId n))
  | .complete node k time => { b with simulator := b.simulator.complete node k time }
  | .update time => { b with simulator := b.simulator.update md5 time }

/-- Only what is drawn can be picked. -/
def Shows (b : Board) : EditorCall → Prop
  | .mouseRelease a r => b.drawing.Shows (.connect a r)
  | .deleteAdapter a => b.drawing.Shows (.removeAdapter a)
  | .deleteRouter r => b.drawing.Shows (.removeRouter r)
  | .deleteNode n => b.drawing.Shows (.removeNode n)
  | .dropNode | .dropRouter | .adapterEvent .. | .complete .. | .update _ => True

end Board

-- ---------------------------------------------------------------------------
-- The editor is a board
-- ---------------------------------------------------------------------------

namespace SceneEditor

def board (e : SceneEditor) : Board where
  drawing := e.scene.drawing
  simulator := e.simulator
  nodeIdSequenceNumber := e.nodeIdSequenceNumber
  routerSequenceNumber := e.routerSequenceNumber

variable {e : SceneEditor}

theorem nodesWith_drawing (s : Scene) (id : UInt16) : s.drawing.nodesWith id = s.nodesWith id := by
  simp [Drawing.nodesWith, Scene.nodesWith, Scene.drawing]

theorem nodeId_eq {s : Scene} (hs : s.Consistent) {a : ItemNumber} {item : AdapterItem}
    (ha : s.adapters a = some item) : s.nodeId item = some (internalId item.node) := by
  obtain ⟨list, hlist, -⟩ := hs.nodes.mem (a := a) (i := item.node) (by
    simp [Scene.adapterNode, ha])
  obtain ⟨node, hn, -⟩ := Option.map_eq_some_iff.mp hlist
  simp [Scene.nodeId, hn]

theorem exists_drawn {s : Scene} (hs : s.Consistent) {a : ItemNumber}
    (h : (s.drawing.adapters a).isSome) : ∃ item, s.adapters a = some item ∧
      s.drawing.adapters a = some (s.drawn item) ∧
      s.nodeId item = some (internalId (s.drawn item).node) ∧
      (s.drawn item).router.isSome = item.connection.isSome := by
  obtain ⟨item, ha⟩ := Scene.exists_adapter h
  refine ⟨item, ha, by rw [Scene.drawing_adapters, ha, Option.map_some], nodeId_eq hs ha, ?_⟩
  · cases hc : item.connection with
    | none => simp [Scene.drawn, hc]
    | some c =>
      have hback := (hs.connections a c).mp (by simp [Scene.adapterConnection, ha, hc])
      obtain ⟨connection, hconnection, -⟩ := Option.map_eq_some_iff.mp hback
      simp [Scene.drawn, Scene.connectionRouter, hc, hconnection]

theorem addAdapter_eq (he : e.scene.Consistent) (hn : (e.scene.drawing.nodes n).isSome)
    (adapter : Adapter) :
    ∃ t, e.addAdapter adapter n = some t ∧ t.scene.Consistent ∧
      t.board = e.board.addAdapter adapter n := by
  obtain ⟨node, hnode⟩ := Scene.exists_node hn
  obtain ⟨scene, hdone, hscene, hdrawing⟩ := he.addAdapter hnode adapter
  refine ⟨_, by simp [addAdapter, hdone]; rfl, hscene, ?_⟩
  simp only [board, Board.addAdapter, Board.edit, hdrawing]
  rfl

theorem addAdapters_eq (he : e.scene.Consistent) {nodes : List ItemNumber}
    (hnodes : ∀ n ∈ nodes, (e.scene.drawing.nodes n).isSome) (adapter : Adapter) :
    ∃ t, nodes.foldlM (addAdapter adapter) e = some t ∧ t.scene.Consistent ∧
      t.board = nodes.foldl (Board.addAdapter adapter) e.board := by
  induction nodes generalizing e with
  | nil => exact ⟨e, rfl, he, rfl⟩
  | cons n rest ih =>
    obtain ⟨hn, hrest⟩ := List.forall_mem_cons.mp hnodes
    obtain ⟨t, hdone, ht, hboard⟩ := addAdapter_eq he hn adapter
    have hsame : t.scene.drawing.nodes = e.scene.drawing.nodes :=
      congrArg (fun b => b.drawing.nodes) hboard
    obtain ⟨u, hothers, hu, hdrawn⟩ := ih ht (by rwa [hsame])
    exact ⟨u, by simp [hdone, hothers], hu, by rw [hdrawn, hboard, List.foldl_cons]⟩

/-- The editor follows no pointer to an item that is gone, and does what the
board does. -/
theorem step_eq (md5 : List Byte → Digest) (he : e.scene.Consistent) {call : EditorCall}
    (h : e.board.Shows call) : ∃ t, e.step md5 call = some t ∧ t.scene.Consistent ∧
      t.board = e.board.step md5 call := by
  cases call with
  | dropNode =>
    obtain ⟨hscene, hdrawing⟩ := he.addNode e.nodeIdSequenceNumber
    refine ⟨_, rfl, hscene, ?_⟩
    simp only [board, dropNode, hdrawing]
    rfl
  | dropRouter =>
    obtain ⟨hscene, hdrawing⟩ := he.addRouter (routerName e.routerSequenceNumber)
    refine ⟨_, rfl, hscene, ?_⟩
    simp only [board, dropRouter, hdrawing]
    rfl
  | adapterEvent id adapter =>
    have hnodes : ∀ n ∈ e.scene.nodesWith id, (e.scene.drawing.nodes n).isSome := by
      intro n hn
      rw [← nodesWith_drawing] at hn
      exact (of_decide_eq_true (List.mem_filter.mp hn).2).1
    obtain ⟨t, hdone, ht, hboard⟩ := addAdapters_eq he hnodes adapter
    refine ⟨t, hdone, ht, hboard.trans ?_⟩
    rw [← nodesWith_drawing]
    rfl
  | mouseRelease a r =>
    obtain ⟨item, ha, hdrawn, hnode, hlinked⟩ := exists_drawn he h.1
    obtain ⟨router, hr⟩ := Scene.exists_router h.2
    obtain ⟨scene, hdone, hscene, hdrawing⟩ := he.connect ha hr
    refine ⟨_, by simp [step, mouseRelease, ha, hnode, hdone]; rfl, hscene, ?_⟩
    have hstep : e.board.step md5 (.mouseRelease a r) =
        e.board.edit (.connect a r) (Board.relink a r (e.scene.drawn item)) := by
      simp [Board.step, board, hdrawn]
    rw [hstep]
    simp only [board, Board.edit, Board.relink, hdrawing, hlinked]
  | deleteAdapter a =>
    obtain ⟨item, ha, hdrawn, hnode, -⟩ := exists_drawn he h
    obtain ⟨scene, hdone, hscene, hdrawing, -⟩ := he.removeAdapter ha
    refine ⟨_, by simp [step, deleteAdapter, ha, hnode, hdone]; rfl, hscene, ?_⟩
    have hstep : e.board.step md5 (.deleteAdapter a) = e.board.edit (.removeAdapter a)
        (·.removeAdapter (internalId (e.scene.drawn item).node) (internalId a)) := by
      simp [Board.step, board, hdrawn]
    rw [hstep]
    simp only [board, Board.edit, hdrawing]
  | deleteRouter r =>
    obtain ⟨router, hr⟩ := Scene.exists_router h
    obtain ⟨scene, hdone, hscene, hdrawing⟩ := he.removeRouter hr
    refine ⟨_, by simp [step, deleteRouter, hdone]; rfl, hscene, ?_⟩
    simp only [board, Board.step, Board.edit, hdrawing]
  | deleteNode n =>
    obtain ⟨node, hn⟩ := Scene.exists_node h
    obtain ⟨scene, hdone, hscene, hdrawing⟩ := he.removeNode hn
    refine ⟨_, by simp [step, deleteNode, hdone]; rfl, hscene, ?_⟩
    simp only [board, Board.step, Board.edit, hdrawing]
  | complete node k time => exact ⟨_, rfl, he, rfl⟩
  | update time => exact ⟨_, rfl, he, rfl⟩

theorem refines_board (md5 : List Byte → Digest) {calls : List EditorCall}
    (h : Throughout (Board.step md5) Board.Shows {} calls) :
    ∃ t, calls.foldlM (step md5) {} = some t ∧ t.scene.Consistent ∧
      t.board = calls.foldl (Board.step md5) {} :=
  Throughout.total (f := board) (t := {}) h Scene.consistent_empty fun _ _ he hshows =>
    step_eq md5 he hshows

end SceneEditor

end Discnet.Sim
