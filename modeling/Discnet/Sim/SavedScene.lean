import Discnet.Lib.Numbering
import Discnet.Sim.SceneFile
import Discnet.Sim.SceneMirror

/-!
# Saved scenes

A scene is saved as records of its items, which name each other by their
internal ids. Loading makes the items anew: they get other numbers, and maps
from the old ids to the new items put the pointers right.
-/

namespace Discnet.Sim

open Function Lib Network Network.Messages Std

-- ---------------------------------------------------------------------------
-- Saving
-- ---------------------------------------------------------------------------

inductive ItemKind
  | node
  | adapter
  | router
  | connection
  deriving DecidableEq, Repr

/-- An item as the scene lists it. -/
structure Item where
  kind : ItemKind
  number : ItemNumber
  deriving DecidableEq, Repr

namespace Scene

def serializeItem (s : Scene) (saved : SavedScene) : Item → Option SavedScene
  | ⟨.node, n⟩ => do
    let node ← s.nodes n
    return { saved with nodes := saved.nodes ++ [⟨internalId n, node.nodeId⟩] }
  | ⟨.adapter, a⟩ => do
    let item ← s.adapters a
    let node ← s.nodeId item
    return { saved with adapters := saved.adapters ++ [⟨internalId a, node, item.adapter⟩] }
  | ⟨.router, r⟩ => do
    let router ← s.routers r
    return { saved with routers := saved.routers ++ [⟨internalId r, router.name⟩] }
  | ⟨.connection, c⟩ => do
    let connection ← s.connections c
    let _ ← s.adapters connection.adapter
    let _ ← s.routers connection.router
    return { saved with
      connections := saved.connections ++
        [⟨internalId c, internalId connection.adapter, internalId connection.router⟩] }

/-- The text for the file, written with the library for the documents `J`. -/
def serialize (J : Type) [JsonLibrary J] (items : List Item) (s : Scene) : Option String := do
  let saved ← items.foldlM s.serializeItem {}
  return JsonLibrary.dump 4 (saved.serialize : J)

-- ---------------------------------------------------------------------------
-- Loading
-- ---------------------------------------------------------------------------

/-- New items by the internal ids of the old ones. -/
abbrev Entries := TreeMap UInt32 ItemNumber

/-- The items are gone, the sequence numbers go on. -/
def clear (s : Scene) : Scene where
  nextNode := s.nextNode
  nextAdapter := s.nextAdapter
  nextRouter := s.nextRouter
  nextConnection := s.nextConnection

def loadRouter (s : Scene × Entries) (saved : SavedRouter) : Option (Scene × Entries) :=
  some (s.1.addRouter saved.name, s.2.insertIfNew saved.internalId s.1.nextRouter)

def loadNode (s : Scene × Entries) (saved : SavedNode) : Option (Scene × Entries) :=
  some (s.1.addNode saved.nodeId, s.2.insertIfNew saved.internalId s.1.nextNode)

def loadAdapter (nodes : Entries) (s : Scene × Entries) (saved : SavedAdapter) :
    Option (Scene × Entries) := do
  let n ← nodes[saved.nodeInternalId]?
  let scene ← s.1.addAdapter n saved.adapter
  return (scene, s.2.insertIfNew saved.internalId s.1.nextAdapter)

def loadConnection (adapters routers : Entries) (s : Scene × Entries) (saved : SavedConnection) :
    Option (Scene × Entries) := do
  let a ← adapters[saved.adapter]?
  let r ← routers[saved.router]?
  let scene ← s.1.newConnection a r
  return (scene, s.2.insertIfNew saved.internalId s.1.nextConnection)

end Scene

structure LoadedItems where
  scene : Scene
  routers : Scene.Entries
  nodes : Scene.Entries
  adapters : Scene.Entries
  connections : Scene.Entries

namespace SavedScene

/-- The items of the file are made in a scene without others. -/
def loadItems (saved : SavedScene) (s : Scene) : Option LoadedItems := do
  let routers ← saved.routers.foldlM Scene.loadRouter (s, ∅)
  let nodes ← saved.nodes.foldlM Scene.loadNode (routers.1, ∅)
  let adapters ← saved.adapters.foldlM (Scene.loadAdapter nodes.2) (nodes.1, ∅)
  let connections ←
    saved.connections.foldlM (Scene.loadConnection adapters.2 routers.2) (adapters.1, ∅)
  return ⟨connections.1, routers.2, nodes.2, adapters.2, connections.2⟩

end SavedScene

/-- The new items, in the order of the old ids. -/
def Scene.Entries.values (entries : Scene.Entries) : List ItemNumber :=
  entries.toList.map Prod.snd

namespace LoadedItems

variable (l : LoadedItems)

def simulateRouter (s : Simulator) (r : ItemNumber) : Option Simulator := do
  let _ ← l.scene.routers r
  return s.call (.addRouter (internalId r))

def simulateNode (s : Simulator) (n : ItemNumber) : Option Simulator := do
  let node ← l.scene.nodes n
  return s.addNode (internalId n) (sceneConfiguration node.nodeId)

def simulateAdapter (s : Simulator) (a : ItemNumber) : Option Simulator := do
  let item ← l.scene.adapters a
  let node ← l.scene.nodeId item
  return s.addAdapter node (internalId a) item.adapter

def simulateConnection (s : Simulator) (c : ItemNumber) : Option Simulator := do
  let connection ← l.scene.connections c
  let item ← l.scene.adapters connection.adapter
  let node ← l.scene.nodeId item
  let _ ← l.scene.routers connection.router
  return s.call
    (.addLink node (internalId connection.adapter) (internalId connection.router))

/-- A simulator for the new items. Adapters are linked after an update, which
makes their clients. -/
def simulate (md5 : List Byte → Digest) (now : TimePoint) : Option Simulator := do
  let s ← l.routers.values.foldlM l.simulateRouter {}
  let s ← l.nodes.values.foldlM l.simulateNode s
  let s ← l.adapters.values.foldlM l.simulateAdapter s
  l.connections.values.foldlM l.simulateConnection (s.update md5 now)

end LoadedItems

def SceneEditor.load (J : Type) [JsonLibrary J] (makeAddress : String → Option Address)
    (md5 : List Byte → Digest) (now : TimePoint) (text : String) (e : SceneEditor) :
    Option SceneEditor := do
  let json : J ← JsonLibrary.parse text
  let saved ← SavedScene.deserialize makeAddress json
  let loaded ← saved.loadItems e.scene.clear
  let simulator ← loaded.simulate md5 now
  return { e with scene := loaded.scene, simulator }

-- ---------------------------------------------------------------------------
-- What is saved
-- ---------------------------------------------------------------------------

/-- The numbers of the items of a kind. -/
def ItemKind.numbers (kind : ItemKind) (items : List Item) : List ItemNumber :=
  items.filterMap fun item => if item.kind = kind then some item.number else none

section
variable {kind : ItemKind} {items : List Item}

theorem ItemKind.mem_numbers (k : ItemNumber) : k ∈ kind.numbers items ↔ ⟨kind, k⟩ ∈ items := by
  rw [numbers, List.mem_filterMap]
  constructor
  · rintro ⟨item, hitem, hk⟩
    split_ifs at hk with hkind
    obtain rfl := Option.some.inj hk
    exact hkind ▸ hitem
  · exact fun hmem => ⟨_, hmem, if_pos rfl⟩

theorem ItemKind.nodup_numbers (h : items.Nodup) : (kind.numbers items).Nodup := by
  refine h.filterMap fun x y k hx hy => ?_
  obtain ⟨xkind, x⟩ := x
  obtain ⟨ykind, y⟩ := y
  simp only [Option.mem_def, Option.ite_none_right_eq_some, Option.some.injEq] at hx hy
  rw [hx.1, hx.2, hy.1, hy.2]

end

/-- New numbers for the items of each kind. -/
abbrev Renumbering := ItemKind → ItemNumber → ItemNumber

def Drawn.renumber (ρ : Renumbering) (drawn : Drawn) : Drawn :=
  ⟨ρ .node drawn.node, drawn.adapter, drawn.router.map (ρ .router)⟩

def ConnectionItem.renumber (ρ : Renumbering) (connection : ConnectionItem) : ConnectionItem :=
  ⟨ρ .adapter connection.adapter, ρ .router connection.router⟩

namespace Scene

def Has (s : Scene) : Item → Prop
  | ⟨.node, n⟩ => (s.nodes n).isSome
  | ⟨.adapter, a⟩ => (s.adapters a).isSome
  | ⟨.router, r⟩ => (s.routers r).isSome
  | ⟨.connection, c⟩ => (s.connections c).isSome

instance (s : Scene) : ∀ item, Decidable (s.Has item)
  | ⟨.node, n⟩ => inferInstanceAs (Decidable ((s.nodes n).isSome = true))
  | ⟨.adapter, a⟩ => inferInstanceAs (Decidable ((s.adapters a).isSome = true))
  | ⟨.router, r⟩ => inferInstanceAs (Decidable ((s.routers r).isSome = true))
  | ⟨.connection, c⟩ => inferInstanceAs (Decidable ((s.connections c).isSome = true))

/-- The items of the scene are listed, each once. -/
structure Lists (s : Scene) (items : List Item) : Prop where
  nodup : items.Nodup
  mem_iff : ∀ item, item ∈ items ↔ s.Has item

def savedNode (s : Scene) (n : ItemNumber) : Option SavedNode :=
  (s.nodes n).map fun node => ⟨internalId n, node.nodeId⟩

def savedAdapter (s : Scene) (a : ItemNumber) : Option SavedAdapter :=
  (s.adapters a).map fun item => ⟨internalId a, internalId item.node, item.adapter⟩

def savedRouter (s : Scene) (r : ItemNumber) : Option SavedRouter :=
  (s.routers r).map fun router => ⟨internalId r, router.name⟩

def savedConnection (s : Scene) (c : ItemNumber) : Option SavedConnection :=
  (s.connections c).map fun connection =>
    ⟨internalId c, internalId connection.adapter, internalId connection.router⟩

def saved (s : Scene) (items : List Item) : SavedScene where
  nodes := (ItemKind.node.numbers items).filterMap s.savedNode
  adapters := (ItemKind.adapter.numbers items).filterMap s.savedAdapter
  routers := (ItemKind.router.numbers items).filterMap s.savedRouter
  connections := (ItemKind.connection.numbers items).filterMap s.savedConnection

/-- Both ends of a connection are there. -/
theorem Consistent.ends {s : Scene} (hs : s.Consistent) {c : ItemNumber}
    {connection : ConnectionItem} (hc : s.connections c = some connection) :
    (∃ item, s.adapters connection.adapter = some item ∧ item.connection = some c) ∧
      ∃ router, s.routers connection.router = some router := by
  constructor
  · have hback := (hs.connections connection.adapter c).mpr (by simp [connectionAdapter, hc])
    exact Option.bind_eq_some_iff.mp hback
  · obtain ⟨list, hlist, -⟩ := hs.routers.mem (a := c) (i := connection.router)
      (by simp [connectionRouter, hc])
    obtain ⟨router, hr, -⟩ := Option.map_eq_some_iff.mp hlist
    exact ⟨router, hr⟩

theorem serializeItem_eq {s : Scene} (hs : s.Consistent) (done : List Item) {item : Item}
    (h : s.Has item) : s.serializeItem (s.saved done) item = some (s.saved (done ++ [item])) := by
  obtain ⟨kind, k⟩ := item
  cases kind with
  | node =>
    obtain ⟨node, hn⟩ := Option.isSome_iff_exists.mp h
    simp [serializeItem, saved, ItemKind.numbers, savedNode, hn]
  | adapter =>
    obtain ⟨item, ha⟩ := Option.isSome_iff_exists.mp h
    simp [serializeItem, saved, ItemKind.numbers, savedAdapter, ha, SceneEditor.nodeId_eq hs ha]
  | router =>
    obtain ⟨router, hr⟩ := Option.isSome_iff_exists.mp h
    simp [serializeItem, saved, ItemKind.numbers, savedRouter, hr]
  | connection =>
    obtain ⟨connection, hc⟩ := Option.isSome_iff_exists.mp h
    obtain ⟨⟨item, ha, -⟩, router, hr⟩ := hs.ends hc
    simp [serializeItem, saved, ItemKind.numbers, savedConnection, hc, ha, hr]

/-- Saving follows no pointer to an item that is gone. -/
theorem serialize_eq (J : Type) [JsonLibrary J] {s : Scene} (hs : s.Consistent)
    {items : List Item} (h : s.Lists items) :
    s.serialize J items = some (JsonLibrary.dump 4 ((s.saved items).serialize : J)) := by
  obtain ⟨result, hdone, rfl⟩ := foldlM_prefix (f := s.serializeItem)
    (P := fun done result => result = s.saved done) (l := items) (b := {}) rfl (by
      rintro done item rest _ hitems rfl
      have hmem : item ∈ items := hitems ▸ List.mem_append_right _ List.mem_cons_self
      exact ⟨_, serializeItem_eq hs done ((h.mem_iff item).mp hmem), rfl⟩)
  rw [serialize, hdone]
  rfl

-- ---------------------------------------------------------------------------
-- Connections that are drawn anew
-- ---------------------------------------------------------------------------

/-- An adapter as it is drawn with some of the connections. -/
def partlyDrawn (s : Scene) (cs : List ItemNumber) (item : AdapterItem) : Drawn :=
  ⟨item.node, item.adapter, (item.connection.filter (· ∈ cs)).bind s.connectionRouter⟩

/-- The adapters as they are drawn with some of the connections. -/
def plugged (s : Scene) (cs : List ItemNumber) : ItemNumber → Option Drawn :=
  Option.map (s.partlyDrawn cs) ∘ s.adapters

section
variable {s : Scene} {cs : List ItemNumber} {a c : ItemNumber} {item : AdapterItem}
  {connection : ConnectionItem}

theorem plugged_nil (ha : s.adapters a = some item) :
    s.plugged [] a = some ⟨item.node, item.adapter, none⟩ := by
  cases hc : item.connection <;> simp [plugged, partlyDrawn, ha, hc, Option.filter]

theorem plugged_of_open (ha : s.adapters a = some item) (hplug : item.connection = some c)
    (hcs : c ∉ cs) : s.plugged cs a = some ⟨item.node, item.adapter, none⟩ := by
  simp [plugged, partlyDrawn, ha, hplug, Option.filter, hcs]

theorem plugged_of_all (hs : s.Consistent) (hcs : ∀ c, (s.connections c).isSome → c ∈ cs) :
    s.plugged cs = s.drawing.adapters := by
  funext a
  refine Option.map_congr fun item ha => ?_
  rw [partlyDrawn, drawn]
  cases hc : item.connection with
  | none => rfl
  | some c =>
    have hback := (hs.connections a c).mp (by simp [adapterConnection, ha, hc])
    obtain ⟨_, hconnection, -⟩ := Option.map_eq_some_iff.mp hback
    simp [Option.filter, hcs c (by rw [hconnection]; rfl)]

/-- What is drawn with some of the connections is drawn with all of them. -/
theorem drawn_of_plugged {drawn : Drawn} (h : s.plugged cs a = some drawn) :
    ∃ whole, s.drawing.adapters a = some whole ∧ whole.node = drawn.node ∧
      whole.adapter = drawn.adapter ∧ ∀ r, drawn.router = some r → whole.router = some r := by
  obtain ⟨item, ha, rfl⟩ := Option.map_eq_some_iff.mp h
  refine ⟨s.drawn item, by rw [drawing_adapters, ha, Option.map_some], rfl, rfl, fun r hr => ?_⟩
  obtain ⟨c, hc, hrouter⟩ := Option.bind_eq_some_iff.mp hr
  rw [drawn, (Option.filter_eq_some_iff.mp hc).1]
  exact hrouter

/-- One more connection plugs its adapter and no other. -/
theorem plugged_append (hs : s.Consistent) (hc : s.connections c = some connection)
    (ha : s.adapters connection.adapter = some item) (hplug : item.connection = some c) :
    s.plugged (cs ++ [c]) = update (s.plugged cs) connection.adapter
      (some ⟨item.node, item.adapter, some connection.router⟩) := by
  funext b
  rw [update_apply]
  split_ifs with hb
  · simp [hb, plugged, partlyDrawn, ha, hplug, Option.filter, connectionRouter, hc]
  · refine Option.map_congr fun other hother => ?_
    rw [partlyDrawn, partlyDrawn]
    cases hc' : other.connection with
    | none => rfl
    | some c' =>
      have hne : c' ≠ c := by
        rintro rfl
        have hthis : s.adapterConnection connection.adapter = some c' := by
          simp [adapterConnection, ha, hplug]
        exact hb (hs.connections.unique (by simp [adapterConnection, hother, hc']) hthis)
      simp [Option.filter, hne]

/-- A new connection connects an adapter that is not connected. -/
theorem Consistent.newConnection (hs : s.Consistent) {r : ItemNumber} {drawn : Drawn}
    (ha : s.drawing.adapters a = some drawn) (hfree : drawn.router = none)
    (hr : (s.drawing.routers r).isSome) :
    ∃ t, s.newConnection a r = some t ∧ t.Consistent ∧
      t.drawing = s.drawing.step (.connect a r) ∧
      t.connections = update s.connections s.nextConnection (some ⟨a, r⟩) ∧
      t.nextConnection = s.nextConnection + 1 := by
  obtain ⟨item, hitem, hdrawn, -, hlinked⟩ := SceneEditor.exists_drawn hs (a := a) (by rw [ha]; rfl)
  obtain rfl := Option.some.inj (hdrawn.symm.trans ha)
  have hopen : item.connection = none := by
    rwa [hfree, Option.isSome_none, eq_comm, Option.isSome_eq_false_iff, Option.isNone_iff_eq_none]
      at hlinked
  obtain ⟨router, hrouter⟩ := exists_router hr
  obtain ⟨t, hdone, ht, hdrawing⟩ := hs.connect hitem hrouter
  have hnew : s.newConnection a r = some t := by
    rw [← hdone, Scene.connect, hitem]
    simp [Scene.disconnect, hopen]
  refine ⟨t, hnew, ht, hdrawing, ?_⟩
  simp only [Scene.newConnection, hitem, hrouter] at hnew
  obtain rfl := Option.some.inj hnew
  exact ⟨rfl, rfl⟩

end

-- ---------------------------------------------------------------------------
-- What is loaded
-- ---------------------------------------------------------------------------

/-- A scene in which items were made. -/
structure Loaded (d : Drawing) (connections : ItemNumber → Option ConnectionItem)
    (nextConnection : ItemNumber) (s : Scene) : Prop where
  consistent : s.Consistent
  drawing : s.drawing = d
  connections : s.connections = connections
  nextConnection : s.nextConnection = nextConnection

section
variable {s t : Scene}

theorem loadRouters {rs : List ItemNumber} (hrs : rs.Nodup) (hlt : ∀ r ∈ rs, r < 2 ^ 32)
    (hshown : ∀ r ∈ rs, (s.routers r).isSome) (ht : t.Consistent)
    (hnone : t.drawing.routers = fun _ => none) :
    ∃ u routers, (rs.filterMap s.savedRouter).foldlM loadRouter (t, ∅) = some (u, routers) ∧
      Loaded { t.drawing with
          routers := place t.nextRouter rs s.drawing.routers
          nextRouter := t.nextRouter + rs.length } t.connections t.nextConnection u ∧
      Indexes internalId (number t.nextRouter rs) rs routers := by
  refine foldlM_indexes (P := fun done => Loaded { t.drawing with
      routers := place t.nextRouter done s.drawing.routers
      nextRouter := t.nextRouter + done.length } t.connections t.nextConnection)
    hrs (fun x hx y hy => internalId_inj (hlt x hx) (hlt y hy)) ?_ ?_
  · refine ⟨ht, ?_, rfl, rfl⟩
    rw [place_nil, ← hnone]
    rfl
  · rintro done r rest u entries rfl ⟨hu, hdrawing, hconnections, hnext⟩
    obtain ⟨router, hr⟩ := Option.isSome_iff_exists.mp
      (hshown r (List.mem_append_right _ List.mem_cons_self))
    obtain ⟨hadded, hdrawn⟩ := hu.addRouter router.name
    have hnumber : u.nextRouter = t.nextRouter + done.length :=
      congrArg Drawing.nextRouter hdrawing
    refine ⟨_, u.addRouter router.name, by rw [savedRouter, hr]; rfl,
      by rw [loadRouter, hnumber], hadded, ?_, hconnections, hnext⟩
    have hname : s.drawing.routers r = some router.name := by simp [Scene.drawing, hr]
    rw [hdrawn, hdrawing, Drawing.step, place_append, hname, List.length_append]
    rfl

theorem loadNodes {ns : List ItemNumber} (hns : ns.Nodup) (hlt : ∀ n ∈ ns, n < 2 ^ 32)
    (hshown : ∀ n ∈ ns, (s.nodes n).isSome) (ht : t.Consistent)
    (hnone : t.drawing.nodes = fun _ => none) :
    ∃ u nodes, (ns.filterMap s.savedNode).foldlM loadNode (t, ∅) = some (u, nodes) ∧
      Loaded { t.drawing with
          nodes := place t.nextNode ns s.drawing.nodes
          nextNode := t.nextNode + ns.length } t.connections t.nextConnection u ∧
      Indexes internalId (number t.nextNode ns) ns nodes := by
  refine foldlM_indexes (P := fun done => Loaded { t.drawing with
      nodes := place t.nextNode done s.drawing.nodes
      nextNode := t.nextNode + done.length } t.connections t.nextConnection)
    hns (fun x hx y hy => internalId_inj (hlt x hx) (hlt y hy)) ?_ ?_
  · refine ⟨ht, ?_, rfl, rfl⟩
    rw [place_nil, ← hnone]
    rfl
  · rintro done n rest u entries rfl ⟨hu, hdrawing, hconnections, hnext⟩
    obtain ⟨node, hn⟩ := Option.isSome_iff_exists.mp
      (hshown n (List.mem_append_right _ List.mem_cons_self))
    obtain ⟨hadded, hdrawn⟩ := hu.addNode node.nodeId
    have hnumber : u.nextNode = t.nextNode + done.length := congrArg Drawing.nextNode hdrawing
    refine ⟨_, u.addNode node.nodeId, by rw [savedNode, hn]; rfl, by rw [loadNode, hnumber],
      hadded, ?_, hconnections, hnext⟩
    have hid : s.drawing.nodes n = some node.nodeId := by simp [Scene.drawing, hn]
    rw [hdrawn, hdrawing, Drawing.step, place_append, hid, List.length_append]
    rfl

variable (ρ : Renumbering) {ns rs as cs : List ItemNumber}

/-- The adapters of another scene as they are drawn anew with some of the connections. -/
def redrawn (s : Scene) (cs : List ItemNumber) : ItemNumber → Option Drawn :=
  Option.map (Drawn.renumber ρ) ∘ s.plugged cs

theorem loadAdapters {nodes : Entries} (hnodes : Indexes internalId (ρ .node) ns nodes)
    (has : as.Nodup) (hlt : ∀ a ∈ as, a < 2 ^ 32)
    (hshown : ∀ a ∈ as, ∃ item, s.adapters a = some item ∧ item.node ∈ ns)
    (hns : ∀ n ∈ ns, (t.drawing.nodes (ρ .node n)).isSome) (ht : t.Consistent)
    (hnone : t.drawing.adapters = fun _ => none) :
    ∃ u adapters, (as.filterMap s.savedAdapter).foldlM (loadAdapter nodes) (t, ∅) =
        some (u, adapters) ∧
      Loaded { t.drawing with
          adapters := place t.nextAdapter as (redrawn ρ s [])
          nextAdapter := t.nextAdapter + as.length } t.connections t.nextConnection u ∧
      Indexes internalId (number t.nextAdapter as) as adapters := by
  refine foldlM_indexes (P := fun done => Loaded { t.drawing with
      adapters := place t.nextAdapter done (redrawn ρ s [])
      nextAdapter := t.nextAdapter + done.length } t.connections t.nextConnection)
    has (fun x hx y hy => internalId_inj (hlt x hx) (hlt y hy)) ?_ ?_
  · refine ⟨ht, ?_, rfl, rfl⟩
    rw [place_nil, ← hnone]
    rfl
  · rintro done a rest u entries rfl ⟨hu, hdrawing, hconnections, hnext⟩
    obtain ⟨item, ha, hnode⟩ := hshown a (List.mem_append_right _ List.mem_cons_self)
    have hthere : (u.drawing.nodes (ρ .node item.node)).isSome := by
      rw [hdrawing]
      exact hns _ hnode
    obtain ⟨found, hfound⟩ := exists_node hthere
    obtain ⟨v, hdone, hv, hdrawn⟩ := hu.addAdapter hfound item.adapter
    have hnumber : u.nextAdapter = t.nextAdapter + done.length :=
      congrArg Drawing.nextAdapter hdrawing
    have hkept : v.connections = u.connections ∧ v.nextConnection = u.nextConnection := by
      simp only [addAdapter, hfound] at hdone
      obtain rfl := Option.some.inj hdone
      exact ⟨rfl, rfl⟩
    refine ⟨_, v, by rw [savedAdapter, ha]; rfl,
      by simp [loadAdapter, hnodes.get hnode, hdone, hnumber], hv, ?_,
      hkept.1.trans hconnections, hkept.2.trans hnext⟩
    have hmoved : redrawn ρ s [] a = some ⟨ρ .node item.node, item.adapter, none⟩ := by
      simp [redrawn, plugged_nil ha, Drawn.renumber]
    rw [hdrawn, hdrawing, Drawing.step, place_append, hmoved, List.length_append]
    rfl

theorem loadConnections {base : ItemNumber} {adapters routers : Entries} (hs : s.Consistent)
    (hbase : ρ .adapter = number base as) (hadapters : Indexes internalId (ρ .adapter) as adapters)
    (hrouters : Indexes internalId (ρ .router) rs routers) (has : as.Nodup) (hcs : cs.Nodup)
    (hlt : ∀ c ∈ cs, c < 2 ^ 32)
    (hshown : ∀ c ∈ cs, ∃ connection, s.connections c = some connection ∧
      connection.adapter ∈ as ∧ connection.router ∈ rs)
    (hrs : ∀ r ∈ rs, (t.drawing.routers (ρ .router r)).isSome) (ht : t.Consistent)
    (hdrawn : t.drawing.adapters = place base as (redrawn ρ s []))
    (hnone : t.connections = fun _ => none) :
    ∃ u connections, (cs.filterMap s.savedConnection).foldlM (loadConnection adapters routers)
        (t, ∅) = some (u, connections) ∧
      Loaded { t.drawing with adapters := place base as (redrawn ρ s cs) }
        (place t.nextConnection cs (Option.map (ConnectionItem.renumber ρ) ∘ s.connections))
        (t.nextConnection + cs.length) u ∧
      Indexes internalId (number t.nextConnection cs) cs connections := by
  refine foldlM_indexes (P := fun done =>
      Loaded { t.drawing with adapters := place base as (redrawn ρ s done) }
        (place t.nextConnection done (Option.map (ConnectionItem.renumber ρ) ∘ s.connections))
        (t.nextConnection + done.length))
    hcs (fun x hx y hy => internalId_inj (hlt x hx) (hlt y hy)) ?_ ?_
  · refine ⟨ht, ?_, ?_, rfl⟩
    · rw [← hdrawn]
    · rw [place_nil, hnone]
  · rintro done c rest u entries rfl ⟨hu, hdrawing, hconnections, hnext⟩
    obtain ⟨connection, hc, ha, hr⟩ := hshown c (List.mem_append_right _ List.mem_cons_self)
    obtain ⟨item, hitem, hplug⟩ := (hs.ends hc).1
    have hnew : c ∉ done := fun hmem =>
      List.disjoint_of_nodup_append hcs hmem List.mem_cons_self
    have hopen : u.drawing.adapters (ρ .adapter connection.adapter) =
        some ⟨ρ .node item.node, item.adapter, none⟩ := by
      rw [hdrawing]
      dsimp only
      rw [hbase, place_number ha]
      simp [redrawn, plugged_of_open hitem hplug hnew, Drawn.renumber]
    have hthere : (u.drawing.routers (ρ .router connection.router)).isSome := by
      rw [hdrawing]
      exact hrs _ hr
    obtain ⟨v, hdone, hv, hconnected, hkept, hlater⟩ := hu.newConnection hopen rfl hthere
    refine ⟨_, v, by rw [savedConnection, hc]; rfl,
      by simp [loadConnection, hadapters.get ha, hrouters.get hr, hdone, hnext], hv, ?_, ?_, ?_⟩
    · have hplugged : redrawn ρ s (done ++ [c]) = update (redrawn ρ s done) connection.adapter
          (some ⟨ρ .node item.node, item.adapter, some (ρ .router connection.router)⟩) := by
        rw [redrawn, plugged_append hs hc hitem hplug, comp_update]
        rfl
      rw [hconnected, Drawing.step, hopen, Option.map_some, hdrawing, hbase,
        update_place has ha, hplugged]
    · rw [hkept, hconnections, hnext, place_append, Function.comp_apply, hc]
      rfl
    · rw [hlater, hnext, List.length_append]
      rfl

end

end Scene

-- ---------------------------------------------------------------------------
-- The file is the scene
-- ---------------------------------------------------------------------------

/-- The same is drawn under other numbers. -/
structure Drawing.Renumbers (ρ : Renumbering) (d d' : Drawing) : Prop where
  nodes : Lib.Renumbers (ρ .node) d.nodes d'.nodes
  routers : Lib.Renumbers (ρ .router) d.routers d'.routers
  adapters : Lib.Renumbers (ρ .adapter) (Option.map (Drawn.renumber ρ) ∘ d.adapters) d'.adapters

/-- The entries lead to what is there, once each. -/
structure Scene.Entries.Hold {β : Type} (entries : Scene.Entries) (there : ItemNumber → Option β) :
    Prop where
  nodup : entries.values.Nodup
  mem_iff : ∀ k, k ∈ entries.values ↔ (there k).isSome

theorem Scene.Entries.hold_place {β : Type} {g : ItemNumber → Option β} {l : List ItemNumber}
    {entries : Scene.Entries} (h : Indexes internalId (number base l) l entries) (hl : l.Nodup)
    (hg : ∀ x ∈ l, (g x).isSome) : entries.Hold (place base l g) where
  nodup := h.nodup_values fun _ hx _ _ => number_inj hx
  mem_iff := h.mem_values_place hl hg

/-- The items that were made are the items of the scene. -/
structure LoadedItems.Complete (l : LoadedItems) : Prop where
  consistent : l.scene.Consistent
  routers : l.routers.Hold l.scene.drawing.routers
  nodes : l.nodes.Hold l.scene.drawing.nodes
  adapters : l.adapters.Hold l.scene.drawing.adapters
  connections : l.connections.Hold l.scene.connections

namespace Scene

theorem consistent_clear (s : Scene) : s.clear.Consistent where
  nodes := .empty
  routers := .empty
  connections := .empty
  nodesBelow _ _ := rfl
  adaptersBelow _ _ := rfl
  routersBelow _ _ := rfl
  connectionsBelow _ _ := rfl

/-- Every internal id stands for one item. -/
structure HasIds (s : Scene) : Prop where
  nodes : s.nextNode ≤ 2 ^ 32
  routers : s.nextRouter ≤ 2 ^ 32
  adapters : s.nextAdapter ≤ 2 ^ 32
  connections : s.nextConnection ≤ 2 ^ 32

section
variable {s : Scene} {items : List Item}

/-- The number that the next item of the kind gets. -/
def next (t : Scene) : ItemKind → ItemNumber
  | .node => t.nextNode
  | .adapter => t.nextAdapter
  | .router => t.nextRouter
  | .connection => t.nextConnection

/-- Only what is there can have been given a number. -/
theorem Consistent.lists (hs : s.Consistent) (hnodup : items.Nodup)
    (hhas : ∀ item ∈ items, s.Has item)
    (hall : ∀ kind, ∀ k < s.next kind, s.Has ⟨kind, k⟩ → ⟨kind, k⟩ ∈ items) : s.Lists items := by
  refine ⟨hnodup, fun ⟨kind, k⟩ => ⟨hhas ⟨kind, k⟩, fun h => hall kind k ?_ h⟩⟩
  cases kind with
  | node => exact hs.nodesBelow.lt (Option.some_get h).symm
  | adapter => exact hs.adaptersBelow.lt (Option.some_get h).symm
  | router => exact hs.routersBelow.lt (Option.some_get h).symm
  | connection => exact hs.connectionsBelow.lt (Option.some_get h).symm

theorem Lists.nodup_numbers (h : s.Lists items) (kind : ItemKind) : (kind.numbers items).Nodup :=
  ItemKind.nodup_numbers h.nodup

theorem Lists.mem_numbers (h : s.Lists items) (kind : ItemKind) (k : ItemNumber) :
    k ∈ kind.numbers items ↔ s.Has ⟨kind, k⟩ :=
  (ItemKind.mem_numbers k).trans (h.mem_iff _)

/-- The numbers of what is listed have internal ids of their own. -/
theorem Lists.numbers_lt {β : Type} {g : ItemNumber → Option β} {next : ItemNumber}
    (h : s.Lists items) (kind : ItemKind) (hg : Below g next) (hnext : next ≤ 2 ^ 32)
    (hhas : ∀ k, s.Has ⟨kind, k⟩ → (g k).isSome) : ∀ k ∈ kind.numbers items, k < 2 ^ 32 := by
  intro k hk
  obtain ⟨_, hv⟩ := Option.isSome_iff_exists.mp (hhas k ((h.mem_numbers kind k).mp hk))
  exact (hg.lt hv).trans_le hnext

/-- The node of an adapter is listed. -/
theorem Lists.node_mem (h : s.Lists items) (hs : s.Consistent) {a : ItemNumber}
    {item : AdapterItem} (ha : s.adapters a = some item) :
    item.node ∈ ItemKind.node.numbers items := by
  rw [h.mem_numbers]
  obtain ⟨list, hlist, -⟩ := hs.nodes.mem (a := a) (i := item.node) (by simp [adapterNode, ha])
  obtain ⟨node, hn, -⟩ := Option.map_eq_some_iff.mp hlist
  exact Option.isSome_iff_exists.mpr ⟨node, hn⟩

/-- The numbers that the items get. -/
def renumbering (t : Scene) (items : List Item) : Renumbering := fun kind =>
  number (t.next kind) (kind.numbers items)

theorem loadItems_eq (hs : s.Consistent) (h : s.Lists items) (hids : s.HasIds) (t : Scene) :
    ∃ l, (s.saved items).loadItems t.clear = some l ∧ l.scene.Consistent ∧
      l.scene.drawing = {
        nodes := place t.nextNode (ItemKind.node.numbers items) s.drawing.nodes
        routers := place t.nextRouter (ItemKind.router.numbers items) s.drawing.routers
        adapters := place t.nextAdapter (ItemKind.adapter.numbers items)
          (redrawn (t.renumbering items) s (ItemKind.connection.numbers items))
        nextNode := t.nextNode + (ItemKind.node.numbers items).length
        nextRouter := t.nextRouter + (ItemKind.router.numbers items).length
        nextAdapter := t.nextAdapter + (ItemKind.adapter.numbers items).length } ∧
      l.scene.connections = place t.nextConnection (ItemKind.connection.numbers items)
        (Option.map (ConnectionItem.renumber (t.renumbering items)) ∘ s.connections) ∧
      Indexes internalId (t.renumbering items .router) (ItemKind.router.numbers items) l.routers ∧
      Indexes internalId (t.renumbering items .node) (ItemKind.node.numbers items) l.nodes ∧
      Indexes internalId (t.renumbering items .adapter) (ItemKind.adapter.numbers items)
        l.adapters ∧
      Indexes internalId (t.renumbering items .connection) (ItemKind.connection.numbers items)
        l.connections := by
  have hlisted := h.mem_numbers
  obtain ⟨s₁, routers, hrouters, h₁, hroutersAt⟩ := loadRouters (h.nodup_numbers .router)
    (h.numbers_lt .router hs.routersBelow hids.routers fun _ hk => hk)
    (fun r hmem => (hlisted .router r).mp hmem) t.consistent_clear rfl
  obtain ⟨s₂, nodes, hnodes, h₂, hnodesAt⟩ := loadNodes (h.nodup_numbers .node)
    (h.numbers_lt .node hs.nodesBelow hids.nodes fun _ hk => hk)
    (fun n hmem => (hlisted .node n).mp hmem) h₁.consistent (by rw [h₁.drawing]; rfl)
  have hnext₁ : s₁.nextNode = t.nextNode := congrArg Drawing.nextNode h₁.drawing
  rw [hnext₁] at h₂ hnodesAt
  obtain ⟨s₃, adapters, hadapters, h₃, hadaptersAt⟩ := loadAdapters (t.renumbering items) hnodesAt
    (h.nodup_numbers .adapter)
    (h.numbers_lt .adapter hs.adaptersBelow hids.adapters fun _ hk => hk)
    (by
      intro a hmem
      obtain ⟨item, hitem⟩ := Option.isSome_iff_exists.mp ((hlisted .adapter a).mp hmem)
      exact ⟨item, hitem, h.node_mem hs hitem⟩)
    (by
      intro n hmem
      have hhas : (s.nodes n).isSome := (hlisted .node n).mp hmem
      rw [h₂.drawing]
      exact isSome_place hmem (by simpa [Scene.drawing] using hhas))
    h₂.consistent (by rw [h₂.drawing, h₁.drawing]; rfl)
  have hnext₂ : s₂.nextAdapter = t.nextAdapter :=
    (congrArg Drawing.nextAdapter h₂.drawing).trans (congrArg Drawing.nextAdapter h₁.drawing)
  rw [hnext₂] at h₃ hadaptersAt
  obtain ⟨s₄, connections, hconnections, h₄, hconnectionsAt⟩ := loadConnections
    (t.renumbering items) hs rfl hadaptersAt hroutersAt (h.nodup_numbers .adapter) (h.nodup_numbers .connection)
    (h.numbers_lt .connection hs.connectionsBelow hids.connections fun _ hk => hk)
    (by
      intro c hmem
      obtain ⟨connection, hc⟩ := Option.isSome_iff_exists.mp ((hlisted .connection c).mp hmem)
      obtain ⟨⟨item, ha, -⟩, router, hr⟩ := hs.ends hc
      exact ⟨connection, hc, (hlisted .adapter _).mpr (Option.isSome_iff_exists.mpr ⟨item, ha⟩),
        (hlisted .router _).mpr (Option.isSome_iff_exists.mpr ⟨router, hr⟩)⟩)
    (by
      intro r hmem
      have hhas : (s.routers r).isSome := (hlisted .router r).mp hmem
      rw [h₃.drawing, h₂.drawing, h₁.drawing]
      exact isSome_place hmem (by simpa [Scene.drawing] using hhas))
    h₃.consistent (by rw [h₃.drawing]; rfl)
    (by rw [h₃.connections, h₂.connections, h₁.connections]; rfl)
  have hnext₃ : s₃.nextConnection = t.nextConnection :=
    h₃.nextConnection.trans (h₂.nextConnection.trans h₁.nextConnection)
  rw [hnext₃] at h₄ hconnectionsAt
  refine ⟨⟨s₄, routers, nodes, adapters, connections⟩, ?_, h₄.consistent, ?_, h₄.connections,
    hroutersAt, hnodesAt, hadaptersAt, hconnectionsAt⟩
  · simp [SavedScene.loadItems, saved, hrouters, hnodes, hadapters, hconnections]
  · rw [h₄.drawing, h₃.drawing, h₂.drawing, h₁.drawing]
    rfl

/-- A saved scene is loaded again, under other numbers. -/
theorem loadItems_saved (hs : s.Consistent) (h : s.Lists items) (hids : s.HasIds) (t : Scene) :
    ∃ l, (s.saved items).loadItems t.clear = some l ∧ l.Complete ∧
      s.drawing.Renumbers (t.renumbering items) l.scene.drawing ∧
      l.scene.nextNode = t.nextNode + (ItemKind.node.numbers items).length ∧
      l.scene.nextRouter = t.nextRouter + (ItemKind.router.numbers items).length ∧
      l.scene.nextAdapter = t.nextAdapter + (ItemKind.adapter.numbers items).length := by
  obtain ⟨l, hload, hl, hdrawing, hconnections, hr, hn, ha, hc⟩ := loadItems_eq hs h hids t
  have hlisted := h.mem_numbers
  have hall := plugged_of_all hs fun c hshown => (hlisted .connection c).mpr hshown
  rw [redrawn, hall] at hdrawing
  have hnodes : ∀ n, n ∈ ItemKind.node.numbers items ↔ (s.drawing.nodes n).isSome := by
    simpa [Has, Scene.drawing] using hlisted .node
  have hrouters : ∀ r, r ∈ ItemKind.router.numbers items ↔ (s.drawing.routers r).isSome := by
    simpa [Has, Scene.drawing] using hlisted .router
  have hadapters : ∀ a, a ∈ ItemKind.adapter.numbers items ↔
      ((Option.map (Drawn.renumber (t.renumbering items)) ∘ s.drawing.adapters) a).isSome := by
    simpa [Has, Scene.drawing] using hlisted .adapter
  have hplugs : ∀ c, c ∈ ItemKind.connection.numbers items ↔
      ((Option.map (ConnectionItem.renumber (t.renumbering items)) ∘ s.connections) c).isSome := by
    simpa [Has] using hlisted .connection
  refine ⟨l, hload, ⟨hl, ?_, ?_, ?_, ?_⟩, ?_, ?_⟩
  · rw [hdrawing]
    exact Entries.hold_place hr (h.nodup_numbers .router) fun r => (hrouters r).mp
  · rw [hdrawing]
    exact Entries.hold_place hn (h.nodup_numbers .node) fun n => (hnodes n).mp
  · rw [hdrawing]
    exact Entries.hold_place ha (h.nodup_numbers .adapter) fun a => (hadapters a).mp
  · rw [hconnections]
    exact Entries.hold_place hc (h.nodup_numbers .connection) fun c => (hplugs c).mp
  · rw [hdrawing]
    exact ⟨renumbers_place (h.nodup_numbers .node) fun n => (hnodes n).mpr,
      renumbers_place (h.nodup_numbers .router) fun r => (hrouters r).mpr,
      renumbers_place (h.nodup_numbers .adapter) fun a => (hadapters a).mpr⟩
  · exact ⟨congrArg Drawing.nextNode hdrawing, congrArg Drawing.nextRouter hdrawing,
      congrArg Drawing.nextAdapter hdrawing⟩

end

end Scene

end Discnet.Sim
