import Discnet.RouteManager
import Discnet.Network.Delivery

/-!
# The transmission handler

Every twenty seconds a discovery message goes out on each adapter that has a
client. It tells of the routes that are online and were discovered on the
other adapters.
-/

namespace Discnet

open Lib Network Network.Messages

structure TransmissionHandler where
  lastDiscovery : TimePoint := .min
  interval : Int := seconds 20
  deriving DecidableEq, Repr

namespace TransmissionHandler

def indirectNode (route : Route) : Node where
  identifier := route.identifier.node.id
  address := route.identifier.node.address
  jumps := route.status.jumps

def discoveryMessage (nodeId : NodeId) (routes : Routes) : DiscoveryMessage where
  identifier := nodeId
  nodes := routes.map indirectNode

/-- The adapters a message goes out on, each with its message. -/
def transmitDiscoveryMessage (networkHandler : NetworkHandler) (adapterManager : AdapterManager)
    (routeManager : RouteManager) : List (Adapter × DiscoveryMessage) :=
  networkHandler.clients.filterMap fun client =>
    match adapterManager.findAdapter client.adapterIdentifier with
    | .error _ => none
    | .ok adapter =>
      some (adapter, discoveryMessage networkHandler.configuration.nodeId
        (routeManager.findRoutesForAdapter adapter.guid))

/-- Whether it is time to transmit, and the handler afterwards. The second
test catches a clock that was moved forward. -/
def update (currentTime : TimePoint) (h : TransmissionHandler) : Bool × TransmissionHandler :=
  let nextDiscoveryTime := h.lastDiscovery + h.interval
  if nextDiscoveryTime < currentTime then (true, { h with lastDiscovery := currentTime })
  else
    let diffForward := currentTime - h.lastDiscovery
    if diffForward > h.interval then (true, { h with lastDiscovery := currentTime })
    else (false, h)

theorem update_eq (currentTime : TimePoint) (h : TransmissionHandler) :
    h.update currentTime =
      if h.lastDiscovery + h.interval < currentTime then
        (true, { h with lastDiscovery := currentTime })
      else (false, h) := by
  rw [update]
  split_ifs with hnext
  · rfl
  · have hdiff : ¬ currentTime - h.lastDiscovery > h.interval := by grind
    rw [if_neg hdiff]

/-- A message tells of routes that are online and come from elsewhere. -/
theorem holds_of_mem_discoveryMessage {m : RouteManager} {nodeId : NodeId} {guid : AdapterGuid}
    {node : Node} (h : node ∈ (discoveryMessage nodeId (m.findRoutesForAdapter guid)).nodes) :
    ∃ other route, other ≠ guid ∧ m.Holds other route ∧ route.status.online = true ∧
      node = indirectNode route := by
  obtain ⟨route, hroute, rfl⟩ := List.mem_map.mp h
  obtain ⟨other, hne, hholds, honline⟩ := RouteManager.holds_of_mem_findRoutesForAdapter hroute
  exact ⟨other, route, hne, hholds, honline, rfl⟩

end TransmissionHandler

namespace Network.NetworkHandler

/-- The client a multicast on the adapter goes through. -/
def multicastClient (adapter : Adapter) (h : NetworkHandler) : Option NetworkClient :=
  (h.findClient adapter).filter (·.info.multicast ≠ .any)

theorem transmitMulticast_eq (md5 : List Byte → Digest) (adapter : Adapter)
    (messages : MessageList) (h : NetworkHandler) :
    h.transmitMulticast md5 adapter messages =
      (h.multicastClient adapter).map fun client =>
        client.write md5 messages client.info.multicast := by
  rw [transmitMulticast, multicastClient]
  cases h.findClient adapter with
  | none => rfl
  | some client =>
    dsimp only
    by_cases hmulticast : client.info.multicast = .any <;> simp [Option.filter, hmulticast]

theorem data_write (md5 : List Byte → Digest) (messages : MessageList) (recipient : Address)
    (client : NetworkClient) :
    (client.write md5 messages recipient).data = transmission md5 messages := by
  rw [NetworkClient.write, transmission]

/-- What a multicast puts on the network is what a receiver reads back, as
long as it fits the buffer. -/
theorem decode_transmitMulticast {md5 : List Byte → Digest} {adapter : Adapter}
    {messages : MessageList} {h : NetworkHandler} {datagram : Datagram} {b : Buffer}
    (hfits : Transmittable md5 messages)
    (hsent : h.transmitMulticast md5 adapter messages = some datagram) (hb : b.readOffset = 0)
    (hdata : b.data = datagram.data) :
    (Scanner.runOn (PacketCodec.decode md5) b).1 = .ok { messages } := by
  rw [transmitMulticast_eq, Option.map_eq_some_iff] at hsent
  obtain ⟨client, -, rfl⟩ := hsent
  rw [data_write, transmission_eq hfits, ← List.append_nil (packetBytes md5 messages)] at hdata
  have hdeliverable := deliverable_of_transmittable hfits
  have hsize := hdeliverable.2
  rw [decode_packetBytes md5 hdeliverable.1 (by omega) hb hdata]

end Network.NetworkHandler

end Discnet
