import Discnet.Network.Buffer

/-!
# Messages and packets

A packet is its size, the number of messages, the messages and a checksum;
every message is a header and a body. All numbers travel in network byte
order. The encoders refuse what does not fit the buffer; the decoders leave
it wherever they stopped.
-/

namespace Discnet.Network.Messages

open Lib Buffer

/-- Reads from a buffer, and stops with a text where it cannot go on. -/
abbrev DecodeM := Scanner String Buffer

-- ---------------------------------------------------------------------------
-- Headers
-- ---------------------------------------------------------------------------

inductive MessageType
  | discoveryMessage
  | dataMessage
  | commandMessage
  | other (value : UInt16)
  deriving DecidableEq, Repr

namespace MessageType

def toUInt16 : MessageType → UInt16
  | .discoveryMessage => 1
  | .dataMessage => 2
  | .commandMessage => 3
  | .other value => value

/-- The conversion accepts every value, named or not. -/
def ofUInt16 (value : UInt16) : MessageType :=
  if value = 1 then .discoveryMessage
  else if value = 2 then .dataMessage
  else if value = 3 then .commandMessage
  else .other value

end MessageType

structure Header where
  size : UInt32
  type : MessageType
  deriving DecidableEq, Repr

namespace HeaderCodec

def headerSize : Nat := 6

def size : Nat := headerSize

def encode (size : Nat) (messageType : MessageType) : StateM Buffer Bool := do
  if (← get).remainingBytes < headerSize then
    return false
  let _ ← append (nativeToNetwork (UInt32.ofNat size))
  let _ ← append (nativeToNetwork messageType.toUInt16)
  return true

def decode : DecodeM Header := do
  if (← get).bytesLeftToRead < headerSize then
    throw "not enough bytes in buffer to read header."
  let size ← readUInt32
  let type ← readUInt16
  return { size := networkToNative size, type := .ofUInt16 (networkToNative type) }

end HeaderCodec

-- ---------------------------------------------------------------------------
-- Data messages
-- ---------------------------------------------------------------------------

structure DataMessage where
  identifier : UInt16 := 0
  buffer : List Byte := []
  deriving DecidableEq, Repr

namespace DataMessageCodec

def dataMessageHeaderSize : Nat := 4

def encodedSize (message : DataMessage) : Nat :=
  HeaderCodec.size + (dataMessageHeaderSize + message.buffer.length)

def encode (message : DataMessage) : StateM Buffer Bool := do
  let messageSize := encodedSize message
  if (← get).remainingBytes < messageSize then
    return false
  let _ ← HeaderCodec.encode messageSize .dataMessage
  let _ ← append (nativeToNetwork message.identifier)
  let _ ← append (nativeToNetwork (UInt16.ofNat message.buffer.length))
  let _ ← appendSpan message.buffer
  return true

def decode : DecodeM DataMessage := do
  if (← get).bytesLeftToRead < dataMessageHeaderSize then
    throw "not enough bytes in buffer to read data_message."
  let identifier ← readUInt16
  let size ← readUInt16
  let data ← readBuffer (networkToNative size).toNat
  return { identifier := networkToNative identifier, buffer := data }

end DataMessageCodec

-- ---------------------------------------------------------------------------
-- Discovery messages
-- ---------------------------------------------------------------------------

structure Node where
  identifier : UInt16
  address : Address
  jumps : Jumps := []
  deriving DecidableEq, Repr

structure DiscoveryMessage where
  identifier : UInt16 := 0
  nodes : List Node := []
  deriving DecidableEq, Repr

namespace DiscoveryMessageCodec

def nodeIdSize : Nat := 2

def nodesArraySize : Nat := 2

def nodesArrayElementSize : Nat := 2 + 4 + 2

def encodedSize (message : DiscoveryMessage) : Nat :=
  let messageSize := nodeIdSize + nodesArraySize + nodesArrayElementSize * message.nodes.length
  let messageDynamicSize := (message.nodes.map fun node => node.jumps.length * 2).sum
  HeaderCodec.size + messageSize + messageDynamicSize

def encodeJump (jump : Metric) : StateM Buffer PUnit := do
  let _ ← append (nativeToNetwork jump)

def encodeNode (node : Node) : StateM Buffer PUnit := do
  let _ ← append (nativeToNetwork node.identifier)
  let _ ← append (nativeToNetwork node.address.toUInt)
  let _ ← append (nativeToNetwork (UInt16.ofNat node.jumps.length))
  forM node.jumps encodeJump

def encode (message : DiscoveryMessage) : StateM Buffer Bool := do
  let messageSize := encodedSize message
  if (← get).remainingBytes < messageSize then
    return false
  let _ ← HeaderCodec.encode messageSize .discoveryMessage
  let _ ← append (nativeToNetwork message.identifier)
  let _ ← append (nativeToNetwork (UInt16.ofNat message.nodes.length))
  forM message.nodes encodeNode
  return true

def decodeJump (_ : Nat) : DecodeM Metric := do
  let jump ← readUInt16
  return networkToNative jump

def decodeNode (_ : Nat) : DecodeM Node := do
  let nodeId ← readUInt16
  let ipAddress ← readUInt32
  let jumpCount ← readUInt16
  let jumps ← Scanner.collect decodeJump 0 (networkToNative jumpCount).toNat
  return { identifier := networkToNative nodeId, address := ⟨networkToNative ipAddress⟩, jumps }

/-- The reads inside the loops are not checked: where the buffer runs short
they give 0 and stay where they are. -/
def decode : DecodeM DiscoveryMessage := do
  if (← get).bytesLeftToRead < nodeIdSize + nodesArraySize then
    throw "not enough bytes in buffer to read discovery_message."
  let identifier ← readUInt16
  let size ← readUInt16
  let nodes ← Scanner.collect decodeNode 0 (networkToNative size).toNat
  return { identifier := networkToNative identifier, nodes }

end DiscoveryMessageCodec

-- ---------------------------------------------------------------------------
-- Packets
-- ---------------------------------------------------------------------------

inductive Message
  | discovery (message : DiscoveryMessage)
  | data (message : DataMessage)
  deriving DecidableEq, Repr

abbrev MessageList := List Message

structure Packet where
  messages : MessageList := []
  deriving DecidableEq, Repr

def visitMessageSize : Message → Nat
  | .discovery message => DiscoveryMessageCodec.encodedSize message
  | .data message => DataMessageCodec.encodedSize message

def visitMessageEncode : Message → StateM Buffer Bool
  | .discovery message => DiscoveryMessageCodec.encode message
  | .data message => DataMessageCodec.encode message

abbrev Digest := Vector Byte 16

/-- The last four bytes of a digest, as the host reads them. -/
def lastPartDigest (digest : Digest) : UInt32 := Word.ofBytes (digest.toList.drop 12)

namespace PacketCodec

def packetSizeFieldSize : Nat := 4

def messageCountFieldSize : Nat := 2

def checksumSize : Nat := 4

def headerSize : Nat := packetSizeFieldSize + messageCountFieldSize + checksumSize

def totalPacketSize (messages : MessageList) : Nat :=
  headerSize + (messages.map visitMessageSize).sum

def encodeMessages : MessageList → StateM Buffer Bool
  | [] => return true
  | message :: messages => do
    if !(← visitMessageEncode message) then
      return false
    encodeMessages messages

/-- One pass of the loop over the messages, the `i`-th. -/
def decodeMessage (i : Nat) : DecodeM Message := do
  let header ← HeaderCodec.decode.mapError
    fun error => s!"message header number {i} failed to parse: {error}."
  match header.type with
  | .discoveryMessage =>
    let message ← DiscoveryMessageCodec.decode.mapError
      fun error => s!"failed to parse message number {i}. error: {error}"
    return .discovery message
  | .dataMessage =>
    let message ← DataMessageCodec.decode.mapError
      fun error => s!"failed to parse message number {i}. error: {error}"
    return .data message
  | type => throw s!"received message of unknown message type {type.toUInt16}."

/-- What decoding a packet does once it was found valid. -/
def decodeContents : DecodeM Packet := do
  let _size ← readUInt32
  let messages ← readUInt16
  let result ← Scanner.collect decodeMessage 0 (networkToNative messages).toNat
  let _checksum ← readUInt32
  return { messages := result }

def checksumFailed (checksum : UInt32) (digest : Digest) : String :=
  s!"packet checksum validation failed. encoded digest: {checksum}, " ++
    s!"calculated digest: {digest[3]}"

section
variable (md5 : List Byte → Digest)

def validatePacket : DecodeM Bool := do
  if (← get).bytesLeftToRead < packetSizeFieldSize then
    throw "not enough bytes in buffer to read packet. (header missing)"
  let size ← readUInt32
  let size := networkToNative size
  resetRead
  if (← get).bytesLeftToRead < size.toNat then
    throw "not enough bytes in buffer to read packet. (data missing)"
  let completeMessage ← readBuffer (sizeSub size.toNat checksumSize)
  let checksum ← readUInt32
  let checksum := networkToNative checksum
  let digest := md5 completeMessage
  if checksum ≠ lastPartDigest digest then
    throw (checksumFailed checksum digest)
  return true

def encode (messages : MessageList) : StateM Buffer Bool := do
  let totalPacketSize := totalPacketSize messages
  if totalPacketSize > (← get).remainingBytes then
    return false
  let _ ← append (nativeToNetwork (UInt32.ofNat totalPacketSize))
  let _ ← append (nativeToNetwork (UInt16.ofNat messages.length))
  if !(← encodeMessages messages) then
    return false
  -- the hash covers everything the buffer holds
  let digest := md5 (← get).data
  let _ ← append (nativeToNetwork (lastPartDigest digest))
  return true

def decode : DecodeM Packet := do
  let valid ← (validatePacket md5).attempt
  resetRead
  match valid with
  | .error error => throw error
  | .ok _ => decodeContents

end

end PacketCodec

-- ---------------------------------------------------------------------------
-- Decoding only reads
-- ---------------------------------------------------------------------------

section
open Scanner

theorem advances_read {α : Type} [Word α] (hp : 0 < Word.size α) :
    Advances (liftM (Buffer.read α) : DecodeM α) := .lift (read_advances hp)

theorem advances_uint16 : Advances (liftM readUInt16 : DecodeM UInt16) := advances_read (by decide)

theorem advances_uint32 : Advances (liftM readUInt32 : DecodeM UInt32) := advances_read (by decide)

theorem advances_header : Advances HeaderCodec.decode :=
  .check (advances_uint32.bind fun _ => advances_uint16.bind fun _ => .pure _)

theorem advances_data : Advances DataMessageCodec.decode :=
  .check (advances_uint16.bind fun _ => advances_uint16.bind fun _ =>
    (Advances.lift (readBuffer_advances _)).bind fun _ => .pure _)

theorem advances_jump (i : Nat) : Advances (DiscoveryMessageCodec.decodeJump i) :=
  advances_uint16.bind fun _ => .pure _

theorem advances_node (i : Nat) : Advances (DiscoveryMessageCodec.decodeNode i) :=
  advances_uint16.bind fun _ => advances_uint32.bind fun _ => advances_uint16.bind fun _ =>
    (Advances.collect advances_jump).bind fun _ => .pure _

theorem advances_discovery : Advances DiscoveryMessageCodec.decode :=
  .check (advances_uint16.bind fun _ => advances_uint16.bind fun _ =>
    (Advances.collect advances_node).bind fun _ => .pure _)

theorem advances_message (i : Nat) : Advances (PacketCodec.decodeMessage i) := by
  refine (advances_header.mapError _).bind fun header => ?_
  cases header.type with
  | discoveryMessage => exact (advances_discovery.mapError _).bind fun _ => .pure _
  | dataMessage => exact (advances_data.mapError _).bind fun _ => .pure _
  | commandMessage => exact .throw _
  | other value => exact .throw _

theorem advances_contents : Advances PacketCodec.decodeContents :=
  advances_uint32.bind fun _ => advances_uint16.bind fun _ =>
    (Advances.collect advances_message).bind fun _ => advances_uint32.bind fun _ => .pure _

theorem keeps_rewound {x : DecodeM α} (hx : Advances x) : Keeps rewound x :=
  hx.keeps rewound_skip

theorem keeps_resetRead : Keeps rewound (liftM resetRead : DecodeM Unit) := fun _ => rfl

theorem keeps_validatePacket (md5 : List Byte → Digest) :
    Keeps rewound (PacketCodec.validatePacket md5) :=
  .check ((keeps_rewound advances_uint32).bind fun _ => keeps_resetRead.bind fun _ => .check
    ((keeps_rewound (.lift (readBuffer_advances _))).bind fun _ =>
      (keeps_rewound advances_uint32).bind fun _ =>
        .ite ((Keeps.throw _).bind fun _ => .pure _) (.pure _)))

theorem keeps_decode (md5 : List Byte → Digest) : Keeps rewound (PacketCodec.decode md5) := by
  refine (keeps_validatePacket md5).attempt.bind fun valid => keeps_resetRead.bind fun _ => ?_
  cases valid with
  | error e => exact .throw e
  | ok v => exact keeps_rewound advances_contents

/-- From the front of a buffer, decoding validates it and then reads the
contents from the front again. -/
theorem decode_of_readOffset (md5 : List Byte → Digest) {b : Buffer} (hb : b.readOffset = 0) :
    Scanner.runOn (PacketCodec.decode md5) b =
      match (Scanner.runOn (PacketCodec.validatePacket md5) b).1 with
      | .error error => (.error error, b)
      | .ok _ => Scanner.runOn PacketCodec.decodeContents b := by
  have hreset : resetRead.run (Scanner.runOn (PacketCodec.validatePacket md5) b).2 = ((), b) := by
    refine Prod.ext rfl ?_
    exact (keeps_validatePacket md5 b).trans (rewound_of_readOffset hb)
  rw [PacketCodec.decode, Scanner.runOn_bind_ok (Scanner.runOn_attempt _ b),
    Scanner.runOn_bind_ok (by rw [Scanner.runOn_lift, hreset])]
  cases (Scanner.runOn (PacketCodec.validatePacket md5) b).1 <;> rfl

end

end Discnet.Network.Messages
