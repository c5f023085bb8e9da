import Discnet.TransmissionHandler

/-!
# What the senders write

A sender encodes its messages into a buffer of 4096 bytes. Where they fit,
what is written is decoded to the same messages; where they do not, the
failure is logged and the buffer is written all the same, without a byte in
it.
-/

namespace Discnet.Network

open Lib Messages Buffer DataStream

/-- What is written decodes to the messages, and nothing is written if they
do not fit. -/
structure SendsOnlyValid (md5 : List Byte → Digest) (messages : MessageList)
    (sent : Option Datagram) : Prop where
  decodes : ∀ datagram, sent = some datagram → ∀ b : Buffer, b.readOffset = 0 →
    b.data = datagram.data → (Scanner.runOn (PacketCodec.decode md5) b).1 = .ok { messages }
  refuses : 4096 < PacketCodec.totalPacketSize messages → sent = none

section
variable {md5 : List Byte → Digest} {messages : MessageList}

theorem transmittable_iff :
    Transmittable md5 messages ↔ PacketCodec.totalPacketSize messages ≤ 4096 := by
  simp [Transmittable, encode_new]

/-- The buffer that could not be encoded into is empty. -/
theorem transmission_of_lt (h : 4096 < PacketCodec.totalPacketSize messages) :
    transmission md5 messages = [] := by
  unfold transmission
  rw [encode_of_lt md5 _ _ (by simpa [remainingBytes_new] using h)]
  rfl

theorem decode_transmission (h : PacketCodec.totalPacketSize messages ≤ 4096) {b : Buffer}
    (hb : b.readOffset = 0) (hdata : b.data = transmission md5 messages) :
    (Scanner.runOn (PacketCodec.decode md5) b).1 = .ok { messages } := by
  have hfits : Transmittable md5 messages := transmittable_iff.mpr h
  obtain ⟨hcounts, hsize⟩ := deliverable_of_transmittable hfits
  rw [transmission_eq hfits, ← List.append_nil (packetBytes md5 messages)] at hdata
  rw [decode_packetBytes md5 hcounts (by omega) hb hdata]

theorem sendsOnlyValid_none : SendsOnlyValid md5 messages none where
  decodes _ h := by cases h
  refuses _ := rfl

/-- A client writes what decodes as long as it fits, and writes in any
case. -/
theorem sendsOnlyValid_write_iff (client : NetworkClient) (recipient : Address) :
    SendsOnlyValid md5 messages (some (client.write md5 messages recipient)) ↔
      PacketCodec.totalPacketSize messages ≤ 4096 := by
  constructor
  · rintro ⟨-, hrefuses⟩
    by_contra hlong
    cases hrefuses (Nat.not_le.mp hlong)
  · intro h
    constructor
    case decodes =>
      intro datagram hsent b hb hdata
      rw [← Option.some.inj hsent, NetworkHandler.data_write] at hdata
      exact decode_transmission h hb hdata
    case refuses =>
      intro hlong
      exact absurd h (Nat.not_le.mpr hlong)

namespace NetworkHandler

/-- Only valid packets are sent on an adapter if and only if the messages fit
the buffer or there is no client that sends. -/
theorem sendsOnlyValid_iff (md5 : List Byte → Digest) (h : NetworkHandler) (adapter : Adapter)
    (messages : MessageList) :
    (SendsOnlyValid md5 messages (h.transmitMulticast md5 adapter messages) ↔
      PacketCodec.totalPacketSize messages ≤ 4096 ∨ h.multicastClient adapter = none) ∧
    ∀ recipient, SendsOnlyValid md5 messages (h.transmitUnicast md5 adapter recipient messages) ↔
      PacketCodec.totalPacketSize messages ≤ 4096 ∨ h.findClient adapter = none := by
  constructor
  · rw [transmitMulticast_eq]
    cases h.multicastClient adapter with
    | none => simp [sendsOnlyValid_none]
    | some client => simp [sendsOnlyValid_write_iff]
  · intro recipient
    rw [transmitUnicast]
    cases h.findClient adapter with
    | none => simp [sendsOnlyValid_none]
    | some client => simp [sendsOnlyValid_write_iff]

def lanAdapter : Adapter where
  macAddress := "02:00:00:00:00:01"
  enabled := true
  addressList := [(⟨0x0a000001⟩, ⟨0xffffff00⟩)]

def lanClient : NetworkClient where
  adapterIdentifier := "02:00:00:00:00:01"
  info := ⟨⟨0x0a000001⟩, 1024, ⟨0xefff0001⟩⟩
  dataHandler := .new 4095

def lanHandler : NetworkHandler where
  configuration := ⟨1, ⟨0xefff0001⟩, 1024⟩
  clients := [lanClient]

/-- A payload of 4096 bytes fills the buffer by itself, and an empty datagram
goes out. -/
theorem empty_datagram_sent :
    4096 < PacketCodec.totalPacketSize (dataMessages 1 4096) ∧
      (lanHandler.transmitMulticast (fun _ => Vector.replicate 16 0) lanAdapter
        (dataMessages 1 4096)).map Datagram.data = some [] ∧
      (lanHandler.transmitUnicast (fun _ => Vector.replicate 16 0) lanAdapter ⟨0x0a000002⟩
        (dataMessages 1 4096)).map Datagram.data = some [] := by
  have hlong : 4096 < PacketCodec.totalPacketSize (dataMessages 1 4096) := by
    rw [totalPacketSize_dataMessages]
    decide
  have hmulticast : lanHandler.multicastClient lanAdapter = some lanClient := rfl
  have hunicast : lanHandler.findClient lanAdapter = some lanClient := rfl
  refine ⟨hlong, ?_, ?_⟩
  · rw [transmitMulticast_eq, hmulticast, Option.map_some, Option.map_some, data_write,
      transmission_of_lt hlong]
  · rw [transmitUnicast, hunicast, Option.map_some, Option.map_some, data_write,
      transmission_of_lt hlong]

end NetworkHandler

end

end Discnet.Network
