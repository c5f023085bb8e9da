import Discnet.Network.Delivery

/-!
# Arrivals

Whole transmissions arrive in any order and at any time, whether or not there
is room for them. A stream then holds the packets of its transmissions, or it
is spoiled: it starts with the zeros of a buffer that had to grow. An update
raises messages of the transmissions only, and leaves nothing unread.
-/

namespace Discnet.Network

open Lib Messages DataStream Std

section
variable {md5 : List Byte → Digest}

/-- A transmission that did not fit the sender's buffer arrives empty. -/
theorem transmission_of_not_transmittable {messages : MessageList}
    (h : ¬ Transmittable md5 messages) : transmission md5 messages = [] := by
  have hlt : 4096 < PacketCodec.totalPacketSize messages := by
    rw [Transmittable, encode_new, decide_eq_true_eq] at h
    exact Nat.not_le.mp h
  rw [transmission, encode_of_lt md5 _ _ (by rwa [Buffer.remainingBytes_new])]
  rfl

end

-- ---------------------------------------------------------------------------
-- Streams
-- ---------------------------------------------------------------------------

namespace DataStream

/-- The stream holds the encodings of packets with the property. -/
def Packed (md5 : List Byte → Digest) (P : Packet → Prop) (s : DataStream) : Prop :=
  ∃ packets, (∀ packet ∈ packets, Deliverable packet.messages ∧ P packet) ∧
    s.buffer.items = packetsBytes md5 packets

/-- Zeros stand where the header of a packet should be. -/
def Spoiled (s : DataStream) : Prop :=
  ∃ n rest, 10 ≤ n ∧ s.buffer.items = List.replicate n 0 ++ rest

def Orderly (md5 : List Byte → Digest) (P : Packet → Prop) (s : DataStream) : Prop :=
  s.Packed md5 P ∨ s.Spoiled

variable {md5 : List Byte → Digest} {P Q : Packet → Prop} {s : DataStream}

theorem Packed.mono (h : ∀ packet, P packet → Q packet) (hs : s.Packed md5 P) :
    s.Packed md5 Q := by
  obtain ⟨packets, hpackets, hitems⟩ := hs
  refine ⟨packets, fun packet hpacket => ?_, hitems⟩
  obtain ⟨hdeliverable, hp⟩ := hpackets packet hpacket
  exact ⟨hdeliverable, h packet hp⟩

theorem Orderly.mono (h : ∀ packet, P packet → Q packet) (hs : s.Orderly md5 P) :
    s.Orderly md5 Q := hs.imp_left (·.mono h)

theorem packed_of_items_nil (h : s.buffer.items = []) : s.Packed md5 P :=
  ⟨[], by simp, by rw [h]; rfl⟩

theorem orderly_new (md5 : List Byte → Digest) (P : Packet → Prop) (bufferSize : Nat) :
    (new bufferSize).Orderly md5 P := .inl (packed_of_items_nil (items_new bufferSize))

theorem Spoiled.handleReceive (hs : s.Spoiled) (data : List Byte) :
    (s.handleReceive data).Spoiled := by
  obtain ⟨n, rest, hn, hitems⟩ := hs
  by_cases h : data.length + s.buffer.items.length ≤ s.buffer.capacity
  · exact ⟨n, rest ++ data, hn, by rw [items_handleReceive h, hitems, List.append_assoc]⟩
  · refine ⟨_, _, ?_, items_handleReceive_of_gt (Nat.not_le.mp h)⟩
    rw [hitems, List.length_append, List.length_replicate]
    omega

theorem Packed.handleReceive {messages : MessageList} (hs : s.Packed md5 P)
    (hm : Deliverable messages) (hp : P ⟨messages⟩) :
    (s.handleReceive (packetBytes md5 messages)).Orderly md5 P := by
  by_cases h : (packetBytes md5 messages).length + s.buffer.items.length ≤ s.buffer.capacity
  · obtain ⟨packets, hpackets, hitems⟩ := hs
    refine .inl ⟨packets ++ [⟨messages⟩], fun packet hpacket => ?_, ?_⟩
    · rcases List.mem_append.mp hpacket with hpacket | hpacket
      · exact hpackets packet hpacket
      · obtain rfl := List.mem_singleton.mp hpacket
        exact ⟨hm, hp⟩
    · rw [items_handleReceive h, hitems]
      simp [packetsBytes]
  · refine .inr ⟨_, _, ?_, items_handleReceive_of_gt (Nat.not_le.mp h)⟩
    have h10 : 10 ≤ (packetBytes md5 messages).length := by
      rw [length_packetBytes]
      exact Nat.le_add_right ..
    omega

theorem handleReceive_nil (s : DataStream) : s.handleReceive [] = s := by
  have hfits := s.buffer.fits
  rw [handleReceive, if_neg (by simpa using hfits)]
  rfl

/-- Whatever arrives, a stream stays orderly. -/
theorem Orderly.handleReceive {messages : MessageList} (hs : s.Orderly md5 P)
    (hp : P ⟨messages⟩) : (s.handleReceive (transmission md5 messages)).Orderly md5 P := by
  by_cases ht : Transmittable md5 messages
  · rw [transmission_eq ht]
    rcases hs with hs | hs
    · exact hs.handleReceive (deliverable_of_transmittable ht) hp
    · exact .inr (hs.handleReceive _)
  · rw [transmission_of_not_transmittable ht, handleReceive_nil]
    exact hs

/-- Processing gives out packets of transmissions only, and leaves nothing. -/
theorem Orderly.process (hs : s.Orderly md5 P) (hlen : s.buffer.items.length < 2 ^ 63)
    (hmd5 : lastPartDigest (md5 []) ≠ 0) :
    (∀ packet ∈ (s.process md5).1, P packet) ∧ (s.process md5).2.buffer.items = [] := by
  rcases hs with ⟨packets, hpackets, hitems⟩ | ⟨n, rest, hn, hitems⟩
  · have hdrain : (s.process md5).1 = packets ∧ (s.process md5).2.buffer.items = [] :=
      (receiver_cuts md5).drain (fun packet hpacket => (hpackets packet hpacket).1) hitems
    rw [hdrain.1]
    exact ⟨fun packet hpacket => (hpackets packet hpacket).2, hdrain.2⟩
  · rw [process_zeros hitems hn (by omega) hmd5]
    exact ⟨by simp, rfl⟩

end DataStream

-- ---------------------------------------------------------------------------
-- Clients
-- ---------------------------------------------------------------------------

namespace NetworkClient

/-- Every stream is orderly, where the property may depend on the sender. -/
structure Orderly (md5 : List Byte → Digest) (P : Address → Packet → Prop)
    (client : NetworkClient) : Prop where
  ownStreams : client.OwnStreams
  streams : ∀ sender, (client.streamOf sender).Orderly md5 (P sender)

/-- No stream is longer than a vector can be. -/
def InMemory (client : NetworkClient) : Prop :=
  ∀ entry ∈ client.dataHandler.streams.toList, entry.2.buffer.items.length < 2 ^ 63

instance (client : NetworkClient) : Decidable client.InMemory :=
  inferInstanceAs (Decidable (∀ entry ∈ client.dataHandler.streams.toList, _))

variable {md5 : List Byte → Digest} {P Q : Address → Packet → Prop} {client : NetworkClient}

theorem Orderly.mono (h : ∀ sender packet, P sender packet → Q sender packet)
    (hc : client.Orderly md5 P) : client.Orderly md5 Q :=
  ⟨hc.ownStreams, fun sender => (hc.streams sender).mono (h sender)⟩

theorem orderly_new (md5 : List Byte → Digest) (P : Address → Packet → Prop)
    (h : client.dataHandler = .new bufferSize) : client.Orderly md5 P := by
  refine ⟨ownStreams_new h, fun sender => ?_⟩
  have hnew : client.streamOf sender = .new bufferSize := by
    simp [streamOf, h, DataHandler.new]
  rw [hnew]
  exact DataStream.orderly_new ..

theorem Orderly.handleRead {messages : MessageList} (hc : client.Orderly md5 P)
    (hp : P sender ⟨messages⟩) :
    (client.handleRead (transmission md5 messages) sender).Orderly md5 P := by
  refine ⟨hc.ownStreams.handleRead _ _, fun other => ?_⟩
  rw [streamOf_handleRead]
  split
  · rename_i hother
    subst hother
    exact (hc.streams other).handleReceive hp
  · exact hc.streams other

theorem InMemory.unreadBytes_lt (h : client.InMemory) (sender : Address) :
    client.unreadBytes sender < 2 ^ 63 := by
  rw [unreadBytes, streamOf]
  cases hstream : client.dataHandler.streams[(⟨sender, client.info.multicast⟩ :
      DataStreamIdentifier)]? with
  | none =>
    rw [Option.getD_none, items_new]
    decide
  | some stream => exact h _ (TreeMap.mem_toList_iff_getElem?_eq_some.mpr hstream)

theorem Orderly.update (hc : client.Orderly md5 P) (hmemory : client.InMemory)
    (hmd5 : lastPartDigest (md5 []) ≠ 0) (current : TimePoint) :
    (client.update md5 current).2.Orderly md5 P := by
  refine ⟨hc.ownStreams.update md5 current, fun sender => .inl (packed_of_items_nil ?_)⟩
  rw [streamOf_update]
  exact ((hc.streams sender).process (hmemory.unreadBytes_lt sender) hmd5).2

theorem streamOf_of_mem {entry : DataStreamIdentifier × DataStream} (hc : client.OwnStreams)
    (h : entry ∈ client.dataHandler.streams.toList) :
    client.streamOf entry.1.senderIp = entry.2 := by
  have hid : (⟨entry.1.senderIp, client.info.multicast⟩ : DataStreamIdentifier) = entry.1 := by
    rw [← hc entry h]
  rw [streamOf, hid, TreeMap.mem_toList_iff_getElem?_eq_some.mp h]
  rfl

/-- An update raises messages of transmissions only, as received from their
senders on the adapter of the client. -/
theorem Orderly.events_update (hc : client.Orderly md5 P) (hmemory : client.InMemory)
    (hmd5 : lastPartDigest (md5 []) ≠ 0) {e : NetworkEvent}
    (he : e ∈ (client.update md5 current).1) :
    (∃ packet, P e.info.sender packet ∧ e.message ∈ packet.messages) ∧
      e.info = ⟨current, e.info.sender, client.info.multicast, client.info.adapter⟩ := by
  rw [update_events] at he
  obtain ⟨entry, hentry, he⟩ := List.mem_flatMap.mp he
  have hinfo := sender_of_mem_streamEvents he
  obtain ⟨packet, hpacket, hmessage⟩ := List.mem_flatMap.mp he
  obtain ⟨message, hmem, rfl⟩ := List.mem_map.mp hmessage
  have hstream := hc.streams entry.1.senderIp
  have hlen := hmemory.unreadBytes_lt entry.1.senderIp
  rw [unreadBytes] at hlen
  rw [streamOf_of_mem hc.ownStreams hentry] at hstream hlen
  rw [hinfo]
  refine ⟨⟨packet, (hstream.process hlen hmd5).1 packet hpacket, ?_⟩, ?_⟩
  · rwa [message_messageEvent]
  · rw [hc.ownStreams entry hentry]

end NetworkClient

end Discnet.Network
