import Discnet.Lib.Json
import Discnet.Sim.SceneEditor

/-!
# The file of a scene

What the items write of themselves into the file, and what is read of it. Items
name each other by their internal ids, addresses are written as texts. The
library for the documents and the function that makes an address of a text are
not part of the program.
-/

namespace Discnet

open Lib

namespace Sim

-- ---------------------------------------------------------------------------
-- Items
-- ---------------------------------------------------------------------------

structure SavedNode where
  internalId : UInt32
  nodeId : UInt16
  deriving DecidableEq, Repr

structure SavedAdapter where
  internalId : UInt32
  nodeInternalId : UInt32
  adapter : Adapter
  deriving DecidableEq, Repr

structure SavedRouter where
  internalId : UInt32
  name : String
  deriving DecidableEq, Repr

structure SavedConnection where
  internalId : UInt32
  adapter : UInt32
  router : UInt32
  deriving DecidableEq, Repr

structure SavedScene where
  nodes : List SavedNode := []
  adapters : List SavedAdapter := []
  routers : List SavedRouter := []
  connections : List SavedConnection := []
  deriving DecidableEq, Repr

section
variable {J : Type} [JsonLibrary J]

open JsonLibrary

namespace SavedNode

def serialize (node : SavedNode) : J :=
  object [
    ("internal_id", unsigned node.internalId.toUInt64),
    ("node_id", unsigned node.nodeId.toUInt64)]

def deserialize (json : J) : Option SavedNode := do
  let nodeId ← getUInt16 (← field "node_id" json)
  let internalId ← getUInt32 (← field "internal_id" json)
  return { internalId, nodeId }

theorem made_serialize (node : SavedNode) : Made (serialize node : J) :=
  .object (by simp) (by simp [Made.unsigned])

theorem deserialize_serialize [LawfulJson J] (node : SavedNode) :
    deserialize (serialize node : J) = some node := by
  simp [deserialize, serialize, LawfulJson.field_object, List.lookup_cons]

end SavedNode

namespace SavedAdapter

def serializeAddress (address : Address × Address) : J :=
  object [("address", string address.1.toString), ("mask", string address.2.toString)]

def serialize (saved : SavedAdapter) : J :=
  object [
    ("internal_id", unsigned saved.internalId.toUInt64),
    ("node_internal_id", unsigned saved.nodeInternalId.toUInt64),
    ("guid", string saved.adapter.guid),
    ("mac", string saved.adapter.macAddress),
    ("index", unsigned saved.adapter.index.toUInt64),
    ("name", string saved.adapter.name),
    ("description", string saved.adapter.description),
    ("loopback", boolean saved.adapter.loopback),
    ("enabled", boolean saved.adapter.enabled),
    ("addresses", writeList serializeAddress saved.adapter.addressList),
    ("gateway", string saved.adapter.gateway.toString),
    ("mtu", unsigned saved.adapter.mtu.toUInt64)]

section
variable (makeAddress : String → Option Address)

def deserializeAddress (json : J) : Option (Address × Address) := do
  let address ← makeAddress (← getString (← field "address" json))
  let mask ← makeAddress (← getString (← field "mask" json))
  return (address, mask)

def deserialize (json : J) : Option SavedAdapter := do
  let nodeInternalId ← getUInt32 (← field "node_internal_id" json)
  let internalId ← getUInt32 (← field "internal_id" json)
  let guid ← getString (← field "guid" json)
  let macAddress ← getString (← field "mac" json)
  let index ← getUInt8 (← field "index" json)
  let name ← getString (← field "name" json)
  let description ← getString (← field "description" json)
  let loopback ← getBool (← field "loopback" json)
  let enabled ← getBool (← field "enabled" json)
  let addressList ← readList (deserializeAddress makeAddress) (← field "addresses" json)
  let gateway ← makeAddress (← getString (← field "gateway" json))
  let mtu ← getUInt64 (← field "mtu" json)
  return {
    internalId
    nodeInternalId
    adapter := {
      guid, macAddress, index, name, description, loopback, enabled, addressList, gateway,
      mtu := mtu.toUInt32 } }

end

theorem made_serialize (saved : SavedAdapter) : Made (serialize saved : J) := by
  have haddress : ∀ address, Made (serializeAddress address : J) := fun address =>
    .object (by simp) (by simp [Made.string])
  exact .object (by simp) (by simp [Made.boolean, Made.unsigned, Made.string,
    made_writeList haddress])

variable [LawfulJson J] {makeAddress : String → Option Address}

theorem deserializeAddress_serializeAddress
    (hmake : ∀ address, makeAddress address.toString = some address)
    (address : Address × Address) :
    deserializeAddress makeAddress (serializeAddress address : J) = some address := by
  simp [deserializeAddress, serializeAddress, LawfulJson.field_object, List.lookup_cons, hmake]

theorem deserialize_serialize (hmake : ∀ address, makeAddress address.toString = some address)
    (saved : SavedAdapter) : deserialize makeAddress (serialize saved : J) = some saved := by
  have haddress := deserializeAddress_serializeAddress (J := J) hmake
  simp [deserialize, serialize, LawfulJson.field_object, List.lookup_cons, hmake, haddress]

end SavedAdapter

namespace SavedRouter

def serialize (router : SavedRouter) : J :=
  object [("internal_id", unsigned router.internalId.toUInt64), ("name", string router.name)]

def deserialize (json : J) : Option SavedRouter := do
  let name ← getString (← field "name" json)
  let internalId ← getUInt32 (← field "internal_id" json)
  return { internalId, name }

theorem made_serialize (router : SavedRouter) : Made (serialize router : J) :=
  .object (by simp) (by simp [Made.unsigned, Made.string])

theorem deserialize_serialize [LawfulJson J] (router : SavedRouter) :
    deserialize (serialize router : J) = some router := by
  simp [deserialize, serialize, LawfulJson.field_object, List.lookup_cons]

end SavedRouter

namespace SavedConnection

def serialize (connection : SavedConnection) : J :=
  object [
    ("internal_id", unsigned connection.internalId.toUInt64),
    ("adapter", unsigned connection.adapter.toUInt64),
    ("router", unsigned connection.router.toUInt64)]

def deserialize (json : J) : Option SavedConnection := do
  let adapter ← getUInt32 (← field "adapter" json)
  let router ← getUInt32 (← field "router" json)
  let internalId ← getUInt32 (← field "internal_id" json)
  return { internalId, adapter, router }

theorem made_serialize (connection : SavedConnection) : Made (serialize connection : J) :=
  .object (by simp) (by simp [Made.unsigned])

theorem deserialize_serialize [LawfulJson J] (connection : SavedConnection) :
    deserialize (serialize connection : J) = some connection := by
  simp [deserialize, serialize, LawfulJson.field_object, List.lookup_cons]

end SavedConnection

-- ---------------------------------------------------------------------------
-- Scenes
-- ---------------------------------------------------------------------------

namespace SavedScene

def serialize (saved : SavedScene) : J :=
  object [
    ("nodes", writeList SavedNode.serialize saved.nodes),
    ("adapters", writeList SavedAdapter.serialize saved.adapters),
    ("routers", writeList SavedRouter.serialize saved.routers),
    ("connections", writeList SavedConnection.serialize saved.connections)]

def deserialize (makeAddress : String → Option Address) (json : J) : Option SavedScene := do
  let routers ← readList SavedRouter.deserialize (← fieldOrNew "routers" json)
  let nodes ← readList SavedNode.deserialize (← fieldOrNew "nodes" json)
  let adapters ← readList (SavedAdapter.deserialize makeAddress) (← fieldOrNew "adapters" json)
  let connections ← readList SavedConnection.deserialize (← fieldOrNew "connections" json)
  return { nodes, adapters, routers, connections }

theorem made_serialize (saved : SavedScene) : Made (serialize saved : J) :=
  .object (by simp) (by simp [made_writeList, SavedNode.made_serialize,
    SavedAdapter.made_serialize, SavedRouter.made_serialize, SavedConnection.made_serialize])

/-- What is written into a file is read back. -/
theorem deserialize_serialize [LawfulJson J] {makeAddress : String → Option Address}
    (hmake : ∀ address, makeAddress address.toString = some address) (saved : SavedScene) :
    deserialize makeAddress (serialize saved : J) = some saved := by
  simp [deserialize, serialize, LawfulJson.fieldOrNew_object, List.lookup_cons,
    SavedRouter.deserialize_serialize, SavedNode.deserialize_serialize,
    SavedAdapter.deserialize_serialize hmake, SavedConnection.deserialize_serialize]

end SavedScene

end

end Sim

end Discnet
