import Discnet.Lib.Slots
import Discnet.Network.Reassembly

/-!
# The lengths in a packet

Encoding computes the size of a packet before it writes a byte, and nothing
it writes then fails. Every length it writes goes into a field of two or four
bytes, whatever it is: only the room in the buffer is checked.
-/

namespace Discnet.Network.Messages

open Lib Buffer DataStream

-- ---------------------------------------------------------------------------
-- Encoding with every step checked
-- ---------------------------------------------------------------------------

/-! The encoders, without a result where an append or a message fails whose
outcome they do not look at. -/

namespace HeaderCodec

def encodeOrFail (size : Nat) (messageType : MessageType) : StateT Buffer Option PUnit := do
  if (← get).remainingBytes < headerSize then
    failure
  else
    insist (append (nativeToNetwork (UInt32.ofNat size)))
    insist (append (nativeToNetwork messageType.toUInt16))

end HeaderCodec

namespace DataMessageCodec

def encodeOrFail (message : DataMessage) : StateT Buffer Option PUnit := do
  let messageSize := encodedSize message
  if (← get).remainingBytes < messageSize then
    failure
  else
    HeaderCodec.encodeOrFail messageSize .dataMessage
    insist (append (nativeToNetwork message.identifier))
    insist (append (nativeToNetwork (UInt16.ofNat message.buffer.length)))
    insist (appendSpan message.buffer)

end DataMessageCodec

namespace DiscoveryMessageCodec

def encodeJumpOrFail (jump : Metric) : StateT Buffer Option PUnit :=
  insist (append (nativeToNetwork jump))

def encodeNodeOrFail (node : Node) : StateT Buffer Option PUnit := do
  insist (append (nativeToNetwork node.identifier))
  insist (append (nativeToNetwork node.address.toUInt))
  insist (append (nativeToNetwork (UInt16.ofNat node.jumps.length)))
  forM node.jumps encodeJumpOrFail

def encodeOrFail (message : DiscoveryMessage) : StateT Buffer Option PUnit := do
  let messageSize := encodedSize message
  if (← get).remainingBytes < messageSize then
    failure
  else
    HeaderCodec.encodeOrFail messageSize .discoveryMessage
    insist (append (nativeToNetwork message.identifier))
    insist (append (nativeToNetwork (UInt16.ofNat message.nodes.length)))
    forM message.nodes encodeNodeOrFail

end DiscoveryMessageCodec

def visitMessageEncodeOrFail : Message → StateT Buffer Option PUnit
  | .discovery message => DiscoveryMessageCodec.encodeOrFail message
  | .data message => DataMessageCodec.encodeOrFail message

section
variable (md5 : List Byte → Digest)

def PacketCodec.encodeOrFail (messages : MessageList) : StateT Buffer Option Bool := do
  let totalPacketSize := totalPacketSize messages
  if totalPacketSize > (← get).remainingBytes then
    return false
  else
    insist (append (nativeToNetwork (UInt32.ofNat totalPacketSize)))
    insist (append (nativeToNetwork (UInt16.ofNat messages.length)))
    forM messages visitMessageEncodeOrFail
    let digest := md5 (← get).data
    insist (append (nativeToNetwork (lastPartDigest digest)))
    return true

variable {b : Buffer}

theorem insists_append {α : Type} [Word α] (v : α) :
    WritesIn b (insist (append (nativeToNetwork v))) (wordBytes v) ⟨⟩ := (writes_append v).insist

theorem insists_header (n : Nat) (type : MessageType) :
    WritesIn b (HeaderCodec.encodeOrFail n type) (headerBytes n type) ⟨⟩ := by
  refine .get (.check (fun h => ?_) ((insists_append _).bind fun _ => insists_append _))
  rw [length_headerBytes] at h
  exact Nat.not_lt.mpr h

theorem insists_data (message : DataMessage) :
    WritesIn b (DataMessageCodec.encodeOrFail message) (messageBytes (.data message)) ⟨⟩ := by
  refine .get (.check (fun h => ?_) ((insists_header _ _).bind fun _ => ?_))
  · rw [length_messageBytes] at h
    exact Nat.not_lt.mpr h
  · exact (insists_append _).bind fun _ => (insists_append _).bind fun _ =>
      (writes_appendSpan _).insist

theorem insists_node (node : Node) :
    WritesIn b (DiscoveryMessageCodec.encodeNodeOrFail node) (nodeBytes node) ⟨⟩ :=
  (insists_append _).bind fun _ => (insists_append _).bind fun _ =>
    (insists_append _).bind fun _ => .forM fun _ jump _ => insists_append jump

theorem insists_discovery (message : DiscoveryMessage) :
    WritesIn b (DiscoveryMessageCodec.encodeOrFail message) (messageBytes (.discovery message))
      ⟨⟩ := by
  refine .get (.check (fun h => ?_) ((insists_header _ _).bind fun _ => ?_))
  · rw [length_messageBytes] at h
    exact Nat.not_lt.mpr h
  · exact (insists_append _).bind fun _ => (insists_append _).bind fun _ =>
      .forM fun _ node _ => insists_node node

theorem insists_message (message : Message) :
    WritesIn b (visitMessageEncodeOrFail message) (messageBytes message) ⟨⟩ := by
  cases message with
  | discovery message => exact insists_discovery message
  | data message => exact insists_data message

theorem insists_packet (b : Buffer) (messages : MessageList) :
    WritesIn b (PacketCodec.encodeOrFail md5 messages) (addedBytes md5 b messages) true := by
  refine .get (.check (fun h => ?_) ?_)
  · rw [length_addedBytes] at h
    exact Nat.not_lt.mpr h
  · rw [addedBytes, packetBody, List.append_assoc, List.append_assoc]
    refine (insists_append _).bind fun h1 => (insists_append _).bind fun h2 =>
      (WritesIn.forM fun _ message _ => insists_message message).bind fun h3 => .get ?_
    rw [data_push h3, data_push h2, data_push h1, checksumBytes]
    simp only [List.append_assoc]
    exact (insists_append _).bind_pure fun _ => true

theorem encodeOrFail_of_lt {messages : MessageList}
    (h : b.remainingBytes < PacketCodec.totalPacketSize messages) :
    (PacketCodec.encodeOrFail md5 messages).run b = some (false, b) := by
  rw [PacketCodec.encodeOrFail, StateT.run_bind, StateT.run_get, pure_bind, if_pos h]
  rfl

/-- No step of an encoding fails whose outcome is not looked at. -/
theorem encodeOrFail_eq (b : Buffer) (messages : MessageList) :
    (PacketCodec.encodeOrFail md5 messages).run b =
      some ((PacketCodec.encode md5 messages).run b) := by
  rcases Nat.lt_or_ge b.remainingBytes (PacketCodec.totalPacketSize messages) with h | h
  · rw [encodeOrFail_of_lt md5 h, encode_of_lt md5 b messages h]
  · rw [encode_of_le md5 h]
    apply insists_packet md5 b messages
    rw [length_addedBytes]
    exact h

end

-- ---------------------------------------------------------------------------
-- The fields
-- ---------------------------------------------------------------------------

def nodeSize (node : Node) : Nat :=
  DiscoveryMessageCodec.nodesArrayElementSize + node.jumps.length * 2

/-- The count behind the identifier and the address of a node. -/
def nodeSlots (node : Node) : List Slot := [⟨6, 2, node.jumps.length⟩]

/-- The size in the header of a message, and the lengths in its body. -/
def messageSlots : Message → List Slot
  | .discovery message =>
    [⟨0, 4, visitMessageSize (.discovery message)⟩, ⟨8, 2, message.nodes.length⟩] ++
      (Slot.placed nodeSize nodeSlots message.nodes).map (Slot.behind 10)
  | .data message =>
    [⟨0, 4, visitMessageSize (.data message)⟩, ⟨8, 2, message.buffer.length⟩]

/-- Every size, count and length in a packet. -/
def packetSlots (messages : MessageList) : List Slot :=
  [⟨0, 4, PacketCodec.totalPacketSize messages⟩, ⟨4, 2, messages.length⟩] ++
    (Slot.placed visitMessageSize messageSlots messages).map (Slot.behind 6)

theorem records_uint16 (n : Nat) : Records (wordBytes (UInt16.ofNat n)) [⟨0, 2, n⟩] :=
  records_ofNat UInt16 n

theorem records_uint32 (n : Nat) : Records (wordBytes (UInt32.ofNat n)) [⟨0, 4, n⟩] :=
  records_ofNat UInt32 n

theorem records_header (n : Nat) (type : MessageType) :
    Records (headerBytes n type) [⟨0, 4, n⟩] := (records_uint32 n).left _

theorem records_nodes (nodes : List Node) :
    Records (nodes.flatMap nodeBytes) (Slot.placed nodeSize nodeSlots nodes) := by
  refine Records.flatMap (fun node _ => ?_) fun node _ => ?_
  · exact length_nodeBytes node
  · have hcount := (records_uint16 node.jumps.length).left (node.jumps.flatMap wordBytes)
    exact (hcount.right (wordBytes node.address.toUInt)).right (wordBytes node.identifier)

theorem records_message (message : Message) :
    Records (messageBytes message) (messageSlots message) := by
  cases message with
  | discovery message =>
    have hbody := ((records_uint16 message.nodes.length).append
      (records_nodes message.nodes)).right (wordBytes message.identifier)
    have hmessage := (records_header (visitMessageSize (.discovery message))
      .discoveryMessage).append hbody
    rw [messageBytes, discoveryBytes]
    simpa [messageSlots, HeaderCodec.size, HeaderCodec.headerSize] using hmessage
  | data message =>
    have hbody := ((records_uint16 message.buffer.length).left message.buffer).right
      (wordBytes message.identifier)
    have hmessage := (records_header (visitMessageSize (.data message)) .dataMessage).append hbody
    rw [messageBytes, dataBytes]
    simpa [messageSlots, HeaderCodec.size, HeaderCodec.headerSize] using hmessage

theorem records_packetBody (messages : MessageList) :
    Records (packetBody messages) (packetSlots messages) := by
  have hmessages : Records (messages.flatMap messageBytes)
      (Slot.placed visitMessageSize messageSlots messages) :=
    Records.flatMap (fun message _ => length_messageBytes message) fun message _ =>
      records_message message
  have hbody := (records_uint32 (PacketCodec.totalPacketSize messages)).append
    ((records_uint16 messages.length).append hmessages)
  rw [packetBody]
  simpa [packetSlots] using hbody

theorem fits_messageSlots {message : Message} (h : visitMessageSize message < 2 ^ 32) :
    (∀ slot ∈ messageSlots message, slot.Fits) ↔ message.CountsFit := by
  cases message with
  | discovery message =>
    have hsize : (⟨0, 4, visitMessageSize (.discovery message)⟩ : Slot).Fits := h
    have hcount : (⟨8, 2, message.nodes.length⟩ : Slot).Fits ↔
        message.nodes.length ≤ maxCount := Nat.lt_succ_iff
    have hnodes : (∀ slot ∈ Slot.placed nodeSize nodeSlots message.nodes, slot.Fits) ↔
        ∀ node ∈ message.nodes, node.jumps.length ≤ maxCount := by
      rw [fits_placed]
      simp only [nodeSlots, List.forall_mem_singleton]
      exact forall₂_congr fun node _ => Nat.lt_succ_iff
    simp only [messageSlots, List.forall_mem_append, List.forall_mem_cons, List.forall_mem_map,
      Slot.fits_behind, hsize, hcount, hnodes, List.not_mem_nil, Message.CountsFit]
    simp
  | data message =>
    have hsize : (⟨0, 4, visitMessageSize (.data message)⟩ : Slot).Fits := h
    have hcount : (⟨8, 2, message.buffer.length⟩ : Slot).Fits ↔
        message.buffer.length ≤ maxCount := Nat.lt_succ_iff
    simp only [messageSlots, List.forall_mem_cons, hsize, hcount, Message.CountsFit]
    simp

/-- All lengths of a packet fit their fields if the counts do and the size
does. -/
theorem fits_packetSlots (messages : MessageList) :
    (∀ slot ∈ packetSlots messages, slot.Fits) ↔
      CountsFit messages ∧ PacketCodec.totalPacketSize messages < 2 ^ 32 := by
  have hcount : (⟨4, 2, messages.length⟩ : Slot).Fits ↔ messages.length ≤ maxCount :=
    Nat.lt_succ_iff
  have hsize : (⟨0, 4, PacketCodec.totalPacketSize messages⟩ : Slot).Fits ↔
      PacketCodec.totalPacketSize messages < 2 ^ 32 := Iff.rfl
  have hmessages (h : PacketCodec.totalPacketSize messages < 2 ^ 32) :
      (∀ slot ∈ Slot.placed visitMessageSize messageSlots messages, slot.Fits) ↔
        ∀ message ∈ messages, message.CountsFit := by
    rw [fits_placed]
    exact forall₂_congr fun message hmem =>
      fits_messageSlots (Nat.lt_of_le_of_lt (visitMessageSize_le hmem) h)
  simp only [packetSlots, List.forall_mem_append, List.forall_mem_cons, List.forall_mem_map,
    Slot.fits_behind, hsize, hcount, List.not_mem_nil, CountsFit]
  constructor
  · rintro ⟨⟨hlt, hlength, -⟩, hslots⟩
    exact ⟨⟨hlength, (hmessages hlt).mp hslots⟩, hlt⟩
  · rintro ⟨⟨hlength, hfit⟩, hlt⟩
    exact ⟨⟨hlt, hlength, by simp⟩, (hmessages hlt).mpr hfit⟩

-- ---------------------------------------------------------------------------
-- What an encoding leaves in the buffer
-- ---------------------------------------------------------------------------

section
variable (md5 : List Byte → Digest) {b : Buffer} {messages : MessageList}

theorem data_after_encode (h : PacketCodec.totalPacketSize messages ≤ b.remainingBytes) :
    ((PacketCodec.encode md5 messages).run b).2.data = b.data ++ addedBytes md5 b messages := by
  rw [encode_of_le md5 h, data_pushed]
  rwa [length_addedBytes]

/-- The bytes behind the old ones have the lengths in their fields, modulo
what the fields can hold. -/
theorem records_encode (h : PacketCodec.totalPacketSize messages ≤ b.remainingBytes) :
    Records (((PacketCodec.encode md5 messages).run b).2.data.drop b.writeOffset)
      (packetSlots messages) := by
  rw [data_after_encode md5 h, List.drop_left' (length_data b)]
  exact (records_packetBody messages).left _

theorem encode_fst (b : Buffer) (messages : MessageList) :
    ((PacketCodec.encode md5 messages).run b).1 = false ↔
      b.remainingBytes < PacketCodec.totalPacketSize messages := by
  rcases Nat.lt_or_ge b.remainingBytes (PacketCodec.totalPacketSize messages) with h | h
  · simp [encode_of_lt md5 b messages h, h]
  · simp [encode_of_le md5 h, h]

theorem encode_of_false (h : ((PacketCodec.encode md5 messages).run b).1 = false) :
    ((PacketCodec.encode md5 messages).run b).2 = b := by
  rw [encode_of_lt md5 b messages ((encode_fst md5 b messages).mp h)]

theorem encode_fst_true (h : ((PacketCodec.encode md5 messages).run b).1 = true) :
    PacketCodec.totalPacketSize messages ≤ b.remainingBytes := by
  by_contra hlt
  rw [(encode_fst md5 b messages).mpr (Nat.not_le.mp hlt)] at h
  contradiction

/-- Encoding fails exactly if the packet does not fit, and leaves the buffer
as it is. Otherwise no step of it fails, and it adds the precomputed number
of bytes with the lengths in their fields, the size of the packet and those
of its messages among them. -/
theorem encode_all_or_nothing (b : Buffer) (messages : MessageList) :
    let result := (PacketCodec.encode md5 messages).run b
    (result.1 = false ↔ b.remainingBytes < 10 + (messages.map visitMessageSize).sum) ∧
    (result.1 = false → result.2 = b) ∧
    (PacketCodec.encodeOrFail md5 messages).run b = some result ∧
    (result.1 = true →
      result.2.writeOffset = b.writeOffset + (10 + (messages.map visitMessageSize).sum) ∧
      result.2.readOffset = b.readOffset ∧
      result.2.data.take b.writeOffset = b.data ∧
      ∀ slot ∈ packetSlots messages,
        slot.written (result.2.data.drop b.writeOffset) = slot.number % 256 ^ slot.width) := by
  refine ⟨encode_fst md5 b messages, encode_of_false md5, encodeOrFail_eq md5 b messages, ?_⟩
  intro htrue
  have hfits := encode_fst_true md5 htrue
  have hlength := length_addedBytes md5 b messages
  refine ⟨?_, ?_, ?_, fun slot hslot => (records_encode md5 hfits slot hslot).written⟩
  · rw [encode_of_le md5 hfits, writeOffset_pushed (by rwa [hlength]), hlength]
    rfl
  · rw [encode_of_le md5 hfits, readOffset_pushed]
  · rw [data_after_encode md5 hfits, List.take_left' (length_data b)]

/-- What is encoded says the real lengths, and what the format cannot hold is
refused. -/
structure KeepsLengths (b : Buffer) (messages : MessageList) : Prop where
  real : ((PacketCodec.encode md5 messages).run b).1 = true → ∀ slot ∈ packetSlots messages,
    slot.written (((PacketCodec.encode md5 messages).run b).2.data.drop b.writeOffset) =
      slot.number
  refused : ¬ CountsFit messages → (PacketCodec.encode md5 messages).run b = (false, b)

/-- Every length in an encoded packet is the real one, and messages whose
counts do not fit are refused, if and only if the packet does not fit the
buffer or all counts and the size of the packet fit their fields. -/
theorem keepsLengths_iff (b : Buffer) (messages : MessageList) :
    KeepsLengths md5 b messages ↔
      b.remainingBytes < PacketCodec.totalPacketSize messages ∨
        CountsFit messages ∧ PacketCodec.totalPacketSize messages < 2 ^ 32 := by
  constructor
  · rintro ⟨hwritten, -⟩
    rcases Nat.lt_or_ge b.remainingBytes (PacketCodec.totalPacketSize messages) with hlt | hfits
    · exact .inl hlt
    · have htrue : ((PacketCodec.encode md5 messages).run b).1 = true := by
        rw [encode_of_le md5 hfits]
      refine .inr ((fits_packetSlots messages).mp fun slot hslot => ?_)
      have hmod := (records_encode md5 hfits slot hslot).written
      rw [hwritten htrue slot hslot] at hmod
      rw [Slot.Fits, hmod]
      exact Nat.mod_lt _ (Nat.pow_pos (by decide))
  · rintro (hlt | hfit)
    · have hrefused := encode_of_lt md5 b messages hlt
      exact ⟨fun htrue => by simp [hrefused] at htrue, fun _ => hrefused⟩
    · refine ⟨fun htrue slot hslot => ?_, fun hnot => absurd hfit.1 hnot⟩
      rw [(records_encode md5 (encode_fst_true md5 htrue) slot hslot).written]
      exact Nat.mod_eq_of_lt ((fits_packetSlots messages).mpr hfit slot hslot)

end

theorem not_countsFit_dataMessages (h : maxCount < length) :
    ¬ CountsFit (dataMessages 1 length) := by
  rintro ⟨-, hfit⟩
  have hlong := hfit _ (List.mem_replicate.mpr ⟨by decide, rfl⟩)
  rw [Message.CountsFit, List.length_replicate] at hlong
  exact absurd hlong (Nat.not_le.mpr h)

theorem mem_packetSlots_dataMessages (length : Nat) :
    (⟨14, 2, length⟩ : Slot) ∈ packetSlots (dataMessages 1 length) := by
  simp [packetSlots, dataMessages, Slot.placed, messageSlots]

/-- A payload of 65536 bytes is written behind a length of 0. -/
theorem long_payload_accepted :
    ((PacketCodec.encode (fun _ => Vector.replicate 16 0) (dataMessages 1 65536)).run
        (.new 70000)).1 = true ∧
      ¬ CountsFit (dataMessages 1 65536) ∧
      (⟨14, 2, 65536⟩ : Slot) ∈ packetSlots (dataMessages 1 65536) ∧
      (⟨14, 2, 65536⟩ : Slot).written (((PacketCodec.encode (fun _ => Vector.replicate 16 0)
        (dataMessages 1 65536)).run (.new 70000)).2.data) = 0 := by
  have hsize : PacketCodec.totalPacketSize (dataMessages 1 65536) ≤ 70000 := by
    rw [totalPacketSize_dataMessages]
    decide
  have hroom : PacketCodec.totalPacketSize (dataMessages 1 65536) ≤
      (Buffer.new 70000).remainingBytes := by rwa [remainingBytes_new]
  have hstart : (Buffer.new 70000).writeOffset = 0 := rfl
  have hwritten := (records_encode (fun _ => Vector.replicate 16 0) hroom _
    (mem_packetSlots_dataMessages 65536)).written
  rw [hstart, List.drop_zero] at hwritten
  refine ⟨?_, not_countsFit_dataMessages (by decide), mem_packetSlots_dataMessages 65536,
    hwritten.trans (by decide)⟩
  rw [encode_new]
  exact decide_eq_true hsize

end Discnet.Network.Messages
