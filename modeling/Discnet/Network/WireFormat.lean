import Discnet.Network.Messages

/-!
# The wire format

`packetBytes` states the format on its own: a packet as a list of bytes,
without buffers or offsets. The encoders write exactly these bytes, and the
sizes they announce are the numbers of bytes written.
-/

namespace Discnet.Network.Messages

open Lib Buffer

-- ---------------------------------------------------------------------------
-- The format
-- ---------------------------------------------------------------------------

def wordBytes {α : Type} [Word α] (v : α) : List Byte := Word.toBigEndian v

def nodeBytes (node : Node) : List Byte :=
  wordBytes node.identifier ++ (wordBytes node.address.toUInt ++
    (wordBytes (UInt16.ofNat node.jumps.length) ++ node.jumps.flatMap wordBytes))

def discoveryBytes (message : DiscoveryMessage) : List Byte :=
  wordBytes message.identifier ++ (wordBytes (UInt16.ofNat message.nodes.length) ++
    message.nodes.flatMap nodeBytes)

def dataBytes (message : DataMessage) : List Byte :=
  wordBytes message.identifier ++ (wordBytes (UInt16.ofNat message.buffer.length) ++
    message.buffer)

def headerBytes (size : Nat) (type : MessageType) : List Byte :=
  wordBytes (UInt32.ofNat size) ++ wordBytes type.toUInt16

def messageBytes : Message → List Byte
  | .discovery message =>
    headerBytes (visitMessageSize (.discovery message)) .discoveryMessage ++ discoveryBytes message
  | .data message =>
    headerBytes (visitMessageSize (.data message)) .dataMessage ++ dataBytes message

def Message.type : Message → MessageType
  | .discovery _ => .discoveryMessage
  | .data _ => .dataMessage

def bodyBytes : Message → List Byte
  | .discovery message => discoveryBytes message
  | .data message => dataBytes message

theorem messageBytes_eq (message : Message) :
    messageBytes message = wordBytes (UInt32.ofNat (visitMessageSize message)) ++
      (wordBytes message.type.toUInt16 ++ bodyBytes message) := by
  cases message with
  | discovery message => exact List.append_assoc _ _ _
  | data message => exact List.append_assoc _ _ _

/-- A message behind a header that gives any size. -/
def sizedBytes (size : UInt32) (message : Message) : List Byte :=
  wordBytes size ++ (wordBytes message.type.toUInt16 ++ bodyBytes message)

def withSizes (messages : MessageList) : List (UInt32 × Message) :=
  messages.map fun message => (UInt32.ofNat (visitMessageSize message), message)

theorem flatMap_withSizes (messages : MessageList) :
    (withSizes messages).flatMap (fun item => sizedBytes item.1 item.2) =
      messages.flatMap messageBytes := by
  rw [withSizes, List.flatMap_map]
  exact congrArg messages.flatMap (funext fun message => (messageBytes_eq message).symm)

theorem map_withSizes (messages : MessageList) : (withSizes messages).map Prod.snd = messages := by
  rw [withSizes, List.map_map]
  exact List.map_id messages

theorem length_withSizes (messages : MessageList) :
    (withSizes messages).length = messages.length := List.length_map _

def packetBody (messages : MessageList) : List Byte :=
  wordBytes (UInt32.ofNat (PacketCodec.totalPacketSize messages)) ++
    (wordBytes (UInt16.ofNat messages.length) ++ messages.flatMap messageBytes)

def checksumBytes (md5 : List Byte → Digest) (bytes : List Byte) : List Byte :=
  wordBytes (lastPartDigest (md5 bytes))

def packetBytes (md5 : List Byte → Digest) (messages : MessageList) : List Byte :=
  packetBody messages ++ checksumBytes md5 (packetBody messages)

@[simp] theorem length_wordBytes {α : Type} [Word α] (v : α) :
    (wordBytes v).length = Word.size α := Word.length_toBigEndian v

theorem length_flatMap_wordBytes (jumps : Jumps) :
    (jumps.flatMap wordBytes).length = jumps.length * 2 := by
  induction jumps with
  | nil => rfl
  | cons jump jumps ih =>
    simp only [List.flatMap_cons, List.length_append, ih, length_wordBytes, size_uint16,
      List.length_cons]
    omega

theorem length_nodeBytes (node : Node) : (nodeBytes node).length = 8 + node.jumps.length * 2 := by
  simp only [nodeBytes, List.length_append, length_wordBytes, size_uint16, size_uint32,
    length_flatMap_wordBytes]
  omega

theorem length_flatMap_nodeBytes (nodes : List Node) :
    (nodes.flatMap nodeBytes).length =
      8 * nodes.length + (nodes.map fun node => node.jumps.length * 2).sum := by
  induction nodes with
  | nil => rfl
  | cons node nodes ih =>
    simp only [List.flatMap_cons, List.length_append, ih, length_nodeBytes, List.length_cons,
      List.map_cons, List.sum_cons]
    omega

theorem length_discoveryBytes (message : DiscoveryMessage) :
    HeaderCodec.size + (discoveryBytes message).length =
      DiscoveryMessageCodec.encodedSize message := by
  simp only [discoveryBytes, List.length_append, length_wordBytes, size_uint16,
    length_flatMap_nodeBytes, DiscoveryMessageCodec.encodedSize, DiscoveryMessageCodec.nodeIdSize,
    DiscoveryMessageCodec.nodesArraySize, DiscoveryMessageCodec.nodesArrayElementSize]
  omega

theorem length_dataBytes (message : DataMessage) :
    HeaderCodec.size + (dataBytes message).length = DataMessageCodec.encodedSize message := by
  simp only [dataBytes, List.length_append, length_wordBytes, size_uint16,
    DataMessageCodec.encodedSize, DataMessageCodec.dataMessageHeaderSize]
  omega

@[simp] theorem length_headerBytes (n : Nat) (type : MessageType) :
    (headerBytes n type).length = HeaderCodec.size := by
  simp only [headerBytes, List.length_append, length_wordBytes, size_uint16, size_uint32]
  rfl

@[simp] theorem length_messageBytes (message : Message) :
    (messageBytes message).length = visitMessageSize message := by
  cases message with
  | discovery message =>
    simp only [messageBytes, List.length_append, length_headerBytes, length_discoveryBytes,
      visitMessageSize]
  | data message =>
    simp only [messageBytes, List.length_append, length_headerBytes, length_dataBytes,
      visitMessageSize]

theorem length_flatMap_messageBytes (messages : MessageList) :
    (messages.flatMap messageBytes).length = (messages.map visitMessageSize).sum := by
  simp [List.length_flatMap]

theorem length_packetBody (messages : MessageList) :
    (packetBody messages).length + PacketCodec.checksumSize =
      PacketCodec.totalPacketSize messages := by
  simp only [packetBody, List.length_append, length_wordBytes, size_uint16, size_uint32,
    length_flatMap_messageBytes, PacketCodec.totalPacketSize, PacketCodec.headerSize,
    PacketCodec.packetSizeFieldSize, PacketCodec.messageCountFieldSize]
  omega

/-- The size a packet announces is the number of its bytes. -/
theorem length_packetBytes (md5 : List Byte → Digest) (messages : MessageList) :
    (packetBytes md5 messages).length = PacketCodec.totalPacketSize messages := by
  rw [← length_packetBody, packetBytes, List.length_append, checksumBytes, length_wordBytes]
  rfl

-- ---------------------------------------------------------------------------
-- The encoders write the format
-- ---------------------------------------------------------------------------

section
variable {b : Buffer}

theorem writes_appendSpan (w : List Byte) : Writes b (appendSpan w) w true :=
  fun h => appendSpan_of_le h

theorem writes_append {α : Type} [Word α] (v : α) :
    Writes b (append (nativeToNetwork v)) (wordBytes v) true := by
  rw [append, toBytes_nativeToNetwork]
  exact writes_appendSpan _

theorem writes_header (n : Nat) (type : MessageType) :
    Writes b (HeaderCodec.encode n type) (headerBytes n type) true := by
  refine .get (.check (fun h => ?_) ((writes_append _).bind fun _ => ?_))
  · rw [length_headerBytes] at h
    exact Nat.not_lt.mpr h
  · exact (writes_append _).bind_pure fun _ => true

theorem writes_data (message : DataMessage) :
    Writes b (DataMessageCodec.encode message) (messageBytes (.data message)) true := by
  refine .get (.check (fun h => ?_) ((writes_header _ _).bind fun _ => ?_))
  · rw [length_messageBytes] at h
    exact Nat.not_lt.mpr h
  · exact (writes_append _).bind fun _ => (writes_append _).bind fun _ =>
      (writes_appendSpan _).bind_pure fun _ => true

theorem writes_node (node : Node) :
    Writes b (DiscoveryMessageCodec.encodeNode node) (nodeBytes node) ⟨⟩ := by
  refine (writes_append _).bind fun _ => (writes_append _).bind fun _ =>
    (writes_append _).bind fun _ => .forM fun s jump _ => ?_
  exact (writes_append _).bind_pure fun _ => PUnit.unit

theorem writes_discovery (message : DiscoveryMessage) :
    Writes b (DiscoveryMessageCodec.encode message) (messageBytes (.discovery message)) true := by
  refine .get (.check (fun h => ?_) ((writes_header _ _).bind fun _ => ?_))
  · rw [length_messageBytes] at h
    exact Nat.not_lt.mpr h
  · exact (writes_append _).bind fun _ => (writes_append _).bind fun _ =>
      (Writes.forM fun _ node _ => writes_node node).bind_pure fun _ => true

theorem writes_message (message : Message) :
    Writes b (visitMessageEncode message) (messageBytes message) true := by
  cases message with
  | discovery message => exact writes_discovery message
  | data message => exact writes_data message

theorem writes_messages (messages : MessageList) :
    Writes b (PacketCodec.encodeMessages messages) (messages.flatMap messageBytes) true := by
  induction messages generalizing b with
  | nil => exact .pure true
  | cons message messages ih => exact (writes_message message).bind fun _ => ih

end

section
variable (md5 : List Byte → Digest)

/-- The bytes a packet adds to a buffer. The checksum covers what the buffer
holds too. -/
def addedBytes (b : Buffer) (messages : MessageList) : List Byte :=
  packetBody messages ++ checksumBytes md5 (b.data ++ packetBody messages)

theorem length_addedBytes (b : Buffer) (messages : MessageList) :
    (addedBytes md5 b messages).length = PacketCodec.totalPacketSize messages := by
  rw [← length_packetBody, addedBytes, List.length_append, checksumBytes, length_wordBytes]
  rfl

theorem addedBytes_new (n : Nat) (messages : MessageList) :
    addedBytes md5 (.new n) messages = packetBytes md5 messages := by
  rw [addedBytes, data_new, List.nil_append, packetBytes]

theorem writes_packet (b : Buffer) (messages : MessageList) :
    Writes b (PacketCodec.encode md5 messages) (addedBytes md5 b messages) true := by
  refine .get (.check (fun h => ?_) ?_)
  · rw [length_addedBytes] at h
    exact Nat.not_lt.mpr h
  · rw [addedBytes, packetBody, List.append_assoc, List.append_assoc]
    refine (writes_append _).bind fun h1 => (writes_append _).bind fun h2 =>
      (writes_messages messages).bind fun h3 => .get ?_
    -- by now the buffer holds the whole body
    rw [data_push h3, data_push h2, data_push h1, checksumBytes]
    simp only [List.append_assoc]
    exact (writes_append _).bind_pure fun _ => true

theorem encode_of_lt (b : Buffer) (messages : MessageList)
    (h : b.remainingBytes < PacketCodec.totalPacketSize messages) :
    (PacketCodec.encode md5 messages).run b = (false, b) := by
  rw [PacketCodec.encode, StateT.run_bind]
  show StateT.run (if _ > b.remainingBytes then _ else _) b = _
  rw [if_pos h]
  rfl

theorem encode_of_le {messages : MessageList}
    (h : PacketCodec.totalPacketSize messages ≤ b.remainingBytes) :
    (PacketCodec.encode md5 messages).run b = (true, b.pushed (addedBytes md5 b messages)) := by
  apply writes_packet md5 b messages
  rw [length_addedBytes]
  exact h

theorem encode_new_of_le {messages : MessageList}
    (h : PacketCodec.totalPacketSize messages ≤ n) :
    (PacketCodec.encode md5 messages).run (.new n) =
      (true, (Buffer.new n).pushed (packetBytes md5 messages)) := by
  rw [encode_of_le md5 (by rwa [remainingBytes_new]), addedBytes_new]

theorem encode_new (messages : MessageList) (n : Nat) :
    ((PacketCodec.encode md5 messages).run (.new n)).1 =
      decide (PacketCodec.totalPacketSize messages ≤ n) := by
  rcases Nat.lt_or_ge n (PacketCodec.totalPacketSize messages) with h | h
  · rw [encode_of_lt md5 _ _ (by rwa [remainingBytes_new])]
    simpa using h
  · rw [encode_new_of_le md5 h]
    simpa using h

theorem data_encode_new {messages : MessageList}
    (h : (PacketCodec.encode md5 messages).run (.new n) = (true, b)) :
    PacketCodec.totalPacketSize messages ≤ n ∧ b.data = packetBytes md5 messages := by
  have hle : PacketCodec.totalPacketSize messages ≤ n := by
    have hd := encode_new md5 messages n
    rw [h] at hd
    simpa using hd.symm
  rw [encode_new_of_le md5 hle, Prod.mk.injEq] at h
  refine ⟨hle, ?_⟩
  rw [← h.2, data_pushed (by rwa [length_packetBytes, remainingBytes_new]), data_new]
  rfl

theorem data_of_encode_new {messages : MessageList}
    (h : ((PacketCodec.encode md5 messages).run (.new n)).1 = true) :
    PacketCodec.totalPacketSize messages ≤ n ∧
      ((PacketCodec.encode md5 messages).run (.new n)).2.data = packetBytes md5 messages :=
  data_encode_new md5 (Prod.ext h rfl)

end

end Discnet.Network.Messages
