import Discnet.Network.RoundTrip
import Discnet.Lib.Walk

/-!
# What decoding accepts

Decoding looks at counts only: it passes over the size in a message header,
and reads past the end give zeros. The walks below step over the declared
bytes by the same counts, but compare each header with what follows it and
stop at a body that is cut off. Where such a walk comes out at the end of
the packet, and only there, encoding gives the bytes back.
-/

namespace Discnet.Network.Messages

open Lib Buffer Walk

-- ---------------------------------------------------------------------------
-- Walking over a packet
-- ---------------------------------------------------------------------------

def word (α : Type) [Word α] : Walk Byte α := fun bytes =>
  if Word.size α ≤ bytes.length then
    some (Word.ofBigEndian (bytes.take (Word.size α)), bytes.drop (Word.size α))
  else none

def walkNode : Walk Byte Unit := do
  let _ ← word UInt16
  let _ ← word UInt32
  let jumps ← word UInt16
  Walk.skip (2 * jumps.toNat)

def walkDiscovery : Walk Byte Unit := do
  let _ ← word UInt16
  let nodes ← word UInt16
  times walkNode nodes.toNat

def walkData : Walk Byte Unit := do
  let _ ← word UInt16
  let size ← word UInt16
  Walk.skip size.toNat

def walkBody : MessageType → Walk Byte Unit
  | .discoveryMessage => walkDiscovery
  | .dataMessage => walkData
  | _ => failure

/-- A header and the body its type announces, and the size it gives. -/
def walkHeaderAndBody : Walk Byte UInt32 := do
  let size ← word UInt32
  let type ← word UInt16
  walkBody (.ofUInt16 type)
  return size

/-- A message whose header gives the size of the whole message. -/
def walkMessage : Walk Byte Unit := do
  let message ← measure walkHeaderAndBody
  guard (message.1.toNat = message.2)

def walkPacket : Walk Byte Unit := do
  let _ ← word UInt32
  let messages ← word UInt16
  times walkMessage messages.toNat
  let _ ← word UInt32

def SizesAgree (bytes : List Byte) : Prop :=
  walkPacket.run (bytes.take (declaredSize bytes)) = some ((), [])

instance : DecidablePred SizesAgree := fun _ => inferInstanceAs (Decidable (_ = _))

-- ---------------------------------------------------------------------------
-- What the walks take
-- ---------------------------------------------------------------------------

theorem eq_wordBytes {α : Type} [Word α] {bytes : List Byte} (h : bytes.length = Word.size α) :
    bytes = wordBytes (Word.ofBigEndian bytes : α) := (Word.toBigEndian_ofBigEndian h).symm

theorem takes_word (α : Type) [Word α] : Takes (word α) fun v w => w = wordBytes v := by
  intro bytes v rest
  simp only [StateT.run, word]
  constructor
  · intro h
    split at h
    · rename_i hn
      obtain ⟨rfl, rfl⟩ := Prod.mk.inj (Option.some.inj h)
      refine ⟨_, rfl, ?_⟩
      rw [← eq_wordBytes (List.length_take_of_le hn), List.take_append_drop]
    · contradiction
  · rintro ⟨_, rfl, rfl⟩
    have hl := length_wordBytes v
    rw [if_pos (by rw [List.length_append]; omega), List.take_left' hl, List.drop_left' hl,
      wordBytes, Word.ofBigEndian_toBigEndian]

theorem exists_jumps {bytes : List Byte} (h : bytes.length = 2 * n) :
    ∃ jumps : Jumps, jumps.length = n ∧ bytes = jumps.flatMap wordBytes := by
  induction n generalizing bytes with
  | zero => exact ⟨[], rfl, List.eq_nil_of_length_eq_zero h⟩
  | succ n ih =>
    have hrest : (bytes.drop 2).length = 2 * n := by
      rw [List.length_drop]
      omega
    have hword : bytes.take 2 = wordBytes (Word.ofBigEndian (bytes.take 2) : UInt16) :=
      eq_wordBytes (List.length_take_of_le (by omega))
    obtain ⟨jumps, rfl, hjumps⟩ := ih hrest
    refine ⟨Word.ofBigEndian (bytes.take 2) :: jumps, rfl, ?_⟩
    rw [List.flatMap_cons, ← hjumps, ← hword, List.take_append_drop]

theorem toNat_le_maxCount (n : UInt16) : n.toNat ≤ maxCount := Nat.le_of_lt_succ n.toNat_lt

theorem ofNat_toNat_count (n : UInt16) : UInt16.ofNat n.toNat = n := UInt16.ofNat_toNat

theorem takes_node :
    Takes walkNode fun _ w => ∃ node : Node, node.jumps.length ≤ maxCount ∧ w = nodeBytes node := by
  refine ((takes_word _).bind fun _ => (takes_word _).bind fun _ => (takes_word _).bind fun n =>
    takes_skip _).congr fun _ w => ?_
  constructor
  · rintro ⟨identifier, _, _, rfl, ⟨address, _, _, rfl, ⟨n, _, bytes, rfl, hbytes, rfl⟩, rfl⟩, rfl⟩
    obtain ⟨jumps, hlen, rfl⟩ := exists_jumps hbytes
    refine ⟨⟨identifier, ⟨address⟩, jumps⟩, hlen ▸ toNat_le_maxCount n, ?_⟩
    rw [nodeBytes, hlen, ofNat_toNat_count]
  · rintro ⟨node, hn, rfl⟩
    refine ⟨_, _, _, rfl, ⟨_, _, _, rfl, ⟨_, _, _, rfl, ?_, rfl⟩, rfl⟩, rfl⟩
    rw [length_flatMap_wordBytes, toNat_count hn, Nat.mul_comm]

theorem takes_discovery :
    Takes walkDiscovery fun _ w => ∃ message : DiscoveryMessage,
      (Message.discovery message).CountsFit ∧ w = discoveryBytes message := by
  refine ((takes_word _).bind fun _ => (takes_word _).bind fun _ =>
    takes_node.times _).congr fun _ w => ?_
  constructor
  · rintro ⟨identifier, _, _, rfl, ⟨n, _, _, rfl, ⟨nodes, hlen, hnodes, rfl⟩, rfl⟩, rfl⟩
    refine ⟨⟨identifier, nodes⟩, ⟨hlen ▸ toNat_le_maxCount n, hnodes⟩, ?_⟩
    rw [discoveryBytes, hlen, ofNat_toNat_count]
  · rintro ⟨message, ⟨hn, hnodes⟩, rfl⟩
    exact ⟨_, _, _, rfl, ⟨_, _, _, rfl, ⟨_, (toNat_count hn).symm, hnodes, rfl⟩, rfl⟩, rfl⟩

theorem takes_data :
    Takes walkData fun _ w => ∃ message : DataMessage,
      (Message.data message).CountsFit ∧ w = dataBytes message := by
  refine ((takes_word _).bind fun _ => (takes_word _).bind fun _ =>
    takes_skip _).congr fun _ w => ?_
  constructor
  · rintro ⟨identifier, _, _, rfl, ⟨n, _, bytes, rfl, hbytes, rfl⟩, rfl⟩
    refine ⟨⟨identifier, bytes⟩, Nat.le_trans (Nat.le_of_eq hbytes) (toNat_le_maxCount n), ?_⟩
    rw [dataBytes, hbytes, ofNat_toNat_count]
  · rintro ⟨message, hn, rfl⟩
    exact ⟨_, _, _, rfl, ⟨_, _, _, rfl, (toNat_count hn).symm, rfl⟩, rfl⟩

theorem toUInt16_ofUInt16 (value : UInt16) : (MessageType.ofUInt16 value).toUInt16 = value := by
  unfold MessageType.ofUInt16
  split
  · simp [*, MessageType.toUInt16]
  split
  · simp [*, MessageType.toUInt16]
  split <;> simp [*, MessageType.toUInt16]

theorem ofUInt16_toUInt16_type (message : Message) :
    MessageType.ofUInt16 message.type.toUInt16 = message.type := by
  cases message <;> rfl

theorem takes_body (type : MessageType) :
    Takes (walkBody type) fun _ w => ∃ message : Message,
      (message.type = type ∧ message.CountsFit) ∧ w = bodyBytes message := by
  cases type with
  | discoveryMessage =>
    refine takes_discovery.congr fun _ w => ⟨?_, ?_⟩
    · rintro ⟨message, hm, rfl⟩
      exact ⟨.discovery message, ⟨rfl, hm⟩, rfl⟩
    · rintro ⟨message, ⟨htype, hm⟩, rfl⟩
      cases message with
      | discovery message => exact ⟨message, hm, rfl⟩
      | data message => contradiction
  | dataMessage =>
    refine takes_data.congr fun _ w => ⟨?_, ?_⟩
    · rintro ⟨message, hm, rfl⟩
      exact ⟨.data message, ⟨rfl, hm⟩, rfl⟩
    · rintro ⟨message, ⟨htype, hm⟩, rfl⟩
      cases message with
      | discovery message => contradiction
      | data message => exact ⟨message, hm, rfl⟩
  | commandMessage =>
    refine takes_failure.congr fun _ w => ⟨False.elim, ?_⟩
    rintro ⟨message, ⟨htype, -⟩, -⟩
    cases message <;> contradiction
  | other value =>
    refine takes_failure.congr fun _ w => ⟨False.elim, ?_⟩
    rintro ⟨message, ⟨htype, -⟩, -⟩
    cases message <;> contradiction

theorem takes_headerAndBody :
    Takes walkHeaderAndBody fun size w => ∃ message : Message, message.CountsFit ∧
      w = wordBytes size ++ (wordBytes message.type.toUInt16 ++ bodyBytes message) := by
  refine ((takes_word _).bind fun _ => (takes_word _).bind fun _ => (takes_body _).bind fun _ =>
    takes_pure _).congr fun size w => ?_
  constructor
  · rintro ⟨_, _, _, rfl, ⟨type, _, _, rfl, ⟨_, _, _, ⟨message, ⟨htype, hm⟩, rfl⟩, ⟨rfl, rfl⟩, rfl⟩,
      rfl⟩, rfl⟩
    refine ⟨message, hm, ?_⟩
    rw [htype, toUInt16_ofUInt16, List.append_nil]
  · rintro ⟨message, hm, rfl⟩
    exact ⟨_, _, _, rfl, ⟨_, _, _, rfl, ⟨(), _, _, ⟨message, ⟨(ofUInt16_toUInt16_type _).symm, hm⟩,
      rfl⟩, ⟨rfl, rfl⟩, rfl⟩, rfl⟩, by rw [List.append_nil]⟩

/-- A message whose counts fit and whose size fits its header. -/
def Message.Encodable (message : Message) : Prop :=
  message.CountsFit ∧ visitMessageSize message < 2 ^ 32

theorem length_headerAndBody (size : UInt32) (message : Message) :
    (wordBytes size ++ (wordBytes message.type.toUInt16 ++ bodyBytes message)).length =
      visitMessageSize message := by
  rw [← length_messageBytes, messageBytes_eq]
  simp only [List.length_append, length_wordBytes]

theorem takes_message :
    Takes walkMessage fun _ w =>
      ∃ message : Message, message.Encodable ∧ w = messageBytes message := by
  refine (takes_headerAndBody.measure.bind fun p => takes_guard _).congr fun _ w => ?_
  constructor
  · rintro ⟨⟨size, n⟩, _, _, ⟨⟨message, hm, rfl⟩, hn⟩, ⟨hsize, rfl⟩, rfl⟩
    rw [length_headerAndBody] at hn
    have heq : size = UInt32.ofNat (visitMessageSize message) := by
      rw [hn, ← hsize, UInt32.ofNat_toNat]
    refine ⟨message, ⟨hm, ?_⟩, ?_⟩
    · rw [hn, ← hsize]
      exact size.toNat_lt
    · rw [messageBytes_eq, List.append_nil, heq]
  · rintro ⟨message, ⟨hm, hs⟩, rfl⟩
    refine ⟨(.ofNat (visitMessageSize message), visitMessageSize message), messageBytes message, [],
      ⟨⟨message, hm, messageBytes_eq message⟩, length_messageBytes message⟩,
      ⟨toNat_size hs, rfl⟩, (List.append_nil _).symm⟩

/-- What a packet holds, whatever its messages are. -/
theorem takes_framed {α : Type} {walk : Walk Byte Unit} {P : α → Prop} {bytes : α → List Byte}
    (hwalk : Takes walk fun _ w => ∃ a, P a ∧ w = bytes a) :
    Takes (do
      let _ ← word UInt32
      let messages ← word UInt16
      times walk messages.toNat
      let _ ← word UInt32) fun _ w => ∃ (size checksum : UInt32) (items : List α),
        (items.length ≤ maxCount ∧ ∀ item ∈ items, P item) ∧
          w = wordBytes size ++ (wordBytes (UInt16.ofNat items.length) ++
            (items.flatMap bytes ++ wordBytes checksum)) := by
  refine ((takes_word _).bind fun _ => (takes_word _).bind fun _ =>
    (hwalk.times _).bind fun _ => (takes_word _).bind fun _ =>
      takes_pure _).congr fun _ w => ?_
  constructor
  · rintro ⟨size, _, _, rfl, ⟨n, _, _, rfl, ⟨_, _, _, ⟨items, hlen, hitems, rfl⟩,
      ⟨checksum, _, _, rfl, ⟨-, rfl⟩, rfl⟩, rfl⟩, rfl⟩, rfl⟩
    refine ⟨size, checksum, items, ⟨hlen ▸ toNat_le_maxCount n, hitems⟩, ?_⟩
    rw [hlen, ofNat_toNat_count, List.append_nil]
  · rintro ⟨size, checksum, items, ⟨hlen, hitems⟩, rfl⟩
    exact ⟨_, _, _, rfl, ⟨_, _, _, rfl, ⟨(), _, _, ⟨items, (toNat_count hlen).symm, hitems, rfl⟩,
      ⟨checksum, _, _, rfl, ⟨rfl, rfl⟩, (List.append_nil _).symm⟩, rfl⟩, rfl⟩, rfl⟩

theorem takes_packet :
    Takes walkPacket fun _ w => ∃ (size checksum : UInt32) (messages : MessageList),
      (messages.length ≤ maxCount ∧ ∀ message ∈ messages, message.Encodable) ∧
        w = wordBytes size ++ (wordBytes (UInt16.ofNat messages.length) ++
          (messages.flatMap messageBytes ++ wordBytes checksum)) :=
  takes_framed takes_message

-- ---------------------------------------------------------------------------
-- What decoding gives
-- ---------------------------------------------------------------------------

theorem length_collect_le {α : Type} {f : Nat → DecodeM α} {n : UInt16} {as : List α}
    (h : Scanner.runOn (Scanner.collect f i n.toNat) b = (.ok as, b')) : as.length ≤ maxCount := by
  have hlen := (Scanner.collect_eq_ok (P := fun _ => True) (fun _ _ _ _ _ => trivial) h).1
  rw [hlen]
  exact toNat_le_maxCount n

theorem length_jumps_le
    (h : Scanner.runOn (DiscoveryMessageCodec.decodeNode i) b = (.ok node, b')) :
    node.jumps.length ≤ maxCount := by
  simp only [DiscoveryMessageCodec.decodeNode, Scanner.runOn_bind_eq_ok, Scanner.runOn_pure,
    Prod.mk.injEq, Except.ok.injEq] at h
  obtain ⟨_, _, -, _, _, -, _, _, -, jumps, _, hjumps, rfl, -⟩ := h
  exact length_collect_le hjumps

theorem countsFit_discovery (h : Scanner.runOn DiscoveryMessageCodec.decode b = (.ok message, b')) :
    (Message.discovery message).CountsFit := by
  have hrest := (Scanner.runOn_of_check h).2
  simp only [Scanner.runOn_bind_eq_ok, Scanner.runOn_pure, Prod.mk.injEq, Except.ok.injEq] at hrest
  obtain ⟨_, _, -, _, _, -, nodes, _, hnodes, rfl, -⟩ := hrest
  exact ⟨length_collect_le hnodes,
    (Scanner.collect_eq_ok (fun _ _ _ _ h => length_jumps_le h) hnodes).2⟩

theorem length_readBuffer_le (b : Buffer) : ((readBuffer n).run b).1.length ≤ n := by
  rcases Nat.lt_or_ge n b.unread.length with h | h
  · rw [readBuffer_of_lt h]
    exact List.length_take_le _ _
  · rw [readBuffer_of_le h]
    exact Nat.zero_le n

theorem countsFit_data (h : Scanner.runOn DataMessageCodec.decode b = (.ok message, b')) :
    (Message.data message).CountsFit := by
  have hrest := (Scanner.runOn_of_check h).2
  simp only [Scanner.runOn_bind_eq_ok, Scanner.runOn_pure, Scanner.runOn_lift, Prod.mk.injEq,
    Except.ok.injEq] at hrest
  obtain ⟨_, _, -, size, _, -, bytes, _, ⟨rfl, -⟩, rfl, -⟩ := hrest
  exact Nat.le_trans (length_readBuffer_le _) (toNat_le_maxCount _)

theorem countsFit_message (h : Scanner.runOn (PacketCodec.decodeMessage i) b = (.ok message, b')) :
    message.CountsFit := by
  rw [PacketCodec.decodeMessage, Scanner.runOn_bind_eq_ok] at h
  obtain ⟨header, s, -, h⟩ := h
  cases htype : header.type with
  | discoveryMessage =>
    simp only [htype, Scanner.runOn_bind_eq_ok, Scanner.runOn_pure, Prod.mk.injEq,
      Except.ok.injEq] at h
    obtain ⟨message, _, hm, rfl, -⟩ := h
    exact countsFit_discovery (Scanner.runOn_of_mapError hm)
  | dataMessage =>
    simp only [htype, Scanner.runOn_bind_eq_ok, Scanner.runOn_pure, Prod.mk.injEq,
      Except.ok.injEq] at h
    obtain ⟨message, _, hm, rfl, -⟩ := h
    exact countsFit_data (Scanner.runOn_of_mapError hm)
  | commandMessage => simp [htype] at h
  | other value => simp [htype] at h

theorem countsFit_contents (h : Scanner.runOn PacketCodec.decodeContents b = (.ok packet, b')) :
    CountsFit packet.messages := by
  simp only [PacketCodec.decodeContents, Scanner.runOn_bind_eq_ok, Scanner.runOn_pure,
    Prod.mk.injEq, Except.ok.injEq] at h
  obtain ⟨_, _, -, _, _, -, messages, _, hmessages, _, _, -, rfl, -⟩ := h
  exact ⟨length_collect_le hmessages,
    (Scanner.collect_eq_ok (fun _ _ _ _ h => countsFit_message h) hmessages).2⟩

section
variable (md5 : List Byte → Digest)

theorem declaredSize_le_of_valid {b : Buffer} (hb : b.readOffset = 0)
    (h : Scanner.runOn (PacketCodec.validatePacket md5) b = (.ok v, b')) :
    4 ≤ b.data.length ∧ declaredSize b.data ≤ b.data.length := by
  have hu := unread_of_readOffset hb
  obtain ⟨h4, h⟩ := Scanner.runOn_of_check h
  rw [bytesLeftToRead_eq, hu, Nat.not_lt] at h4
  rw [Scanner.runOn_bind_ok (runOn_readUInt32 (by rwa [hu])), hu, networkToNative_take h4,
    Scanner.runOn_bind_ok (by rw [Scanner.runOn_lift, resetRead_skip hb])] at h
  have hl := (Scanner.runOn_of_check h).1
  rw [bytesLeftToRead_eq, hu, Nat.not_lt] at hl
  exact ⟨h4, hl⟩

theorem checksumOk_of_valid {b : Buffer} (hb : b.readOffset = 0) (h4 : 4 ≤ b.data.length)
    (hd : 4 ≤ declaredSize b.data) (hl : declaredSize b.data ≤ b.data.length)
    (h : Scanner.runOn (PacketCodec.validatePacket md5) b = (.ok v, b')) :
    ChecksumOk md5 b.data := by
  rw [validatePacket_eq md5 hb h4 hd hl] at h
  by_contra hc
  rw [if_neg hc] at h
  simp at h

theorem valid_of_decode {b : Buffer}
    (h : Scanner.runOn (PacketCodec.decode md5) b = (.ok packet, b')) :
    (∃ v t, Scanner.runOn (PacketCodec.validatePacket md5) b = (.ok v, t)) ∧
      CountsFit packet.messages := by
  rw [PacketCodec.decode, Scanner.runOn_bind_ok (Scanner.runOn_attempt _ b), Scanner.runOn_bind,
    Scanner.runOn_lift] at h
  dsimp only at h
  rcases hv : Scanner.runOn (PacketCodec.validatePacket md5) b with ⟨e | v, t⟩
  · rw [hv] at h
    simp at h
  · rw [hv] at h
    exact ⟨⟨v, t, rfl⟩, countsFit_contents h⟩

/-- Encoding the messages gives back the declared bytes, and they were all
read. -/
def ExactImage (bytes : List Byte) (messages : MessageList) (readOffset : Nat) : Prop :=
  ((PacketCodec.encode md5 messages).run (.new (PacketCodec.totalPacketSize messages))).2.data =
      bytes.take (declaredSize bytes) ∧
    declaredSize bytes = PacketCodec.totalPacketSize messages ∧
    readOffset = declaredSize bytes

theorem data_encode (messages : MessageList) :
    ((PacketCodec.encode md5 messages).run (.new (PacketCodec.totalPacketSize messages))).2.data =
      packetBytes md5 messages := by
  have hencode := encode_new_of_le md5 (Nat.le_refl (PacketCodec.totalPacketSize messages))
  rw [hencode]
  exact (data_encode_new md5 hencode).2

theorem sizesAgree_of_image {bytes : List Byte} (hfit : CountsFit messages)
    (h : ExactImage md5 bytes messages n) : SizesAgree bytes := by
  obtain ⟨hbytes, hsize, -⟩ := h
  have hlt : PacketCodec.totalPacketSize messages < 2 ^ 32 := by
    rw [← hsize]
    exact UInt32.toNat_lt _
  rw [data_encode] at hbytes
  refine (takes_packet _ _ _).mpr ⟨_, ⟨.ofNat (PacketCodec.totalPacketSize messages),
    lastPartDigest (md5 (packetBody messages)), messages,
    ⟨hfit.1, fun message h => ⟨hfit.2 _ h, ?_⟩⟩, rfl⟩, ?_⟩
  · exact Nat.lt_of_le_of_lt (visitMessageSize_le h) hlt
  · rw [← hbytes, packetBytes, packetBody, checksumBytes]
    simp only [List.append_assoc, List.append_nil]

/-- Bytes that are walked over completely are a packet, if the checksum is
right. -/
theorem eq_packetBytes_of_sizesAgree {bytes : List Byte} (h : SizesAgree bytes)
    (hl : declaredSize bytes ≤ bytes.length)
    (hc : 4 ≤ declaredSize bytes → ChecksumOk md5 bytes) :
    ∃ messages, CountsFit messages ∧ PacketCodec.totalPacketSize messages = declaredSize bytes ∧
      bytes.take (declaredSize bytes) = packetBytes md5 messages := by
  obtain ⟨w, ⟨size, checksum, messages, hm, rfl⟩, hbytes⟩ := (takes_packet _ _ _).mp h
  have hfit : CountsFit messages := ⟨hm.1, fun message h => (hm.2 message h).1⟩
  have hn : declaredSize bytes = PacketCodec.totalPacketSize messages := by
    rw [← List.length_take_of_le hl, hbytes, ← length_packetBody, packetBody]
    simp only [List.length_append, List.length_nil, length_wordBytes, PacketCodec.checksumSize]
    simp only [size_uint32]
    omega
  have h4 : 4 ≤ declaredSize bytes := by
    rw [hn]
    exact checksumSize_le messages
  have hsize : size = .ofNat (PacketCodec.totalPacketSize messages) := by
    have htake : bytes.take 4 = wordBytes size := by
      rw [← Nat.min_eq_left h4, ← List.take_take, hbytes]
      simp only [List.append_assoc]
      exact List.take_left' (length_wordBytes _)
    rw [← hn, declaredSize, htake, wordBytes, Word.ofBigEndian_toBigEndian, UInt32.ofNat_toNat]
  have hbody : bytes.take (declaredSize bytes) = packetBody messages ++ wordBytes checksum := by
    rw [hbytes, packetBody, hsize]
    simp only [List.append_assoc, List.append_nil]
  have hlen := length_packetBody_eq messages
  have hchecked : bytes.take (declaredSize bytes - 4) = packetBody messages := by
    rw [← Nat.min_eq_left (Nat.sub_le (declaredSize bytes) 4), ← List.take_take, hbody, hn,
      List.take_left' hlen]
  have hchecksum : declaredChecksum bytes = checksum := by
    have hdrop : (bytes.drop (declaredSize bytes - 4)).take 4 = wordBytes checksum := by
      have hleft : (packetBody messages ++ wordBytes checksum).drop
          (PacketCodec.totalPacketSize messages - 4) = wordBytes checksum := List.drop_left' hlen
      rw [← hleft, ← hn, ← hbody, List.drop_take]
      congr 1
      omega
    rw [declaredChecksum, hdrop, wordBytes, Word.ofBigEndian_toBigEndian]
  have hok : declaredChecksum bytes = lastPartDigest (md5 (bytes.take (declaredSize bytes - 4))) :=
    hc h4
  rw [hchecksum, hchecked] at hok
  exact ⟨messages, hfit, hn.symm, by rw [hbody, hok, packetBytes, checksumBytes]⟩

/-- Decoding that succeeds has read the encoding of its messages exactly
where the sizes agree. -/
theorem decode_image_iff (b : Buffer) (hb : b.readOffset = 0) (packet : Packet) (rest : Buffer)
    (h : Scanner.runOn (PacketCodec.decode md5) b = (.ok packet, rest)) :
    ExactImage md5 b.data packet.messages rest.readOffset ↔ SizesAgree b.data := by
  obtain ⟨⟨v, t, hv⟩, hfit⟩ := valid_of_decode md5 h
  refine ⟨sizesAgree_of_image md5 hfit, ?_⟩
  intro hagree
  obtain ⟨h4, hl⟩ := declaredSize_le_of_valid md5 hb hv
  obtain ⟨messages, hcounts, hsize, hbytes⟩ :=
    eq_packetBytes_of_sizesAgree md5 hagree hl fun hd => checksumOk_of_valid md5 hb h4 hd hl hv
  have hdecode := decode_packetBytes md5 hcounts (by rw [hsize]; exact UInt32.toNat_lt _) hb
    (by rw [← hbytes, List.take_append_drop])
  rw [hdecode] at h
  obtain ⟨⟨⟩, rfl⟩ := Prod.mk.inj h
  refine ⟨?_, hsize.symm, ?_⟩
  · rw [data_encode, hbytes]
  · rw [readOffset_skip, hb, hsize, Nat.zero_add]
    rw [unread_of_readOffset hb, hsize]
    exact hl

end

/-- A route in a discovery message, and a data message of two bytes. -/
def routeAndPayload : MessageList :=
  [.discovery ⟨7, [⟨8, ⟨0xc0c80102⟩, [256]⟩]⟩, .data ⟨9, [0x68, 0x69]⟩]

def routeAndPayloadDigest : Digest :=
  #v[0x24, 0x8d, 0xd8, 0x88, 0x61, 0xc9, 0xfb, 0x72, 0x3c, 0xf5, 0x7d, 0x31, 0xb8, 0x6f, 0xfb, 0x24]

def routeAndPayloadBytes : List Byte :=
  [0, 0, 0, 42, 0, 2, 0, 0, 0, 20, 0, 1, 0, 7, 0, 1, 0, 8, 192, 200, 1, 2, 0, 1, 1, 0, 0, 0, 0, 12,
    0, 2, 0, 9, 0, 2, 0x68, 0x69, 0x24, 0xfb, 0x6f, 0xb8]

theorem decode_image_iff_routeAndPayload :
    ExactImage (fun _ => routeAndPayloadDigest) (routeAndPayloadBytes ++ [1, 2]) routeAndPayload
        42 ↔
      SizesAgree (routeAndPayloadBytes ++ [1, 2]) := by
  have hbytes : packetBytes (fun _ => routeAndPayloadDigest) routeAndPayload =
      routeAndPayloadBytes := by decide +kernel
  have hdecode : Scanner.runOn (PacketCodec.decode fun _ => routeAndPayloadDigest)
      (.holding (routeAndPayloadBytes ++ [1, 2])) = (.ok { messages := routeAndPayload },
        (holding (routeAndPayloadBytes ++ [1, 2])).skip 42) :=
    decode_packetBytes _ (by decide) (by decide) (readOffset_holding _)
      (by rw [data_holding, hbytes])
  have hoffset : ((holding (routeAndPayloadBytes ++ [1, 2])).skip 42).readOffset = 42 := by
    decide +kernel
  have himage := decode_image_iff _ _ (readOffset_holding _) _ _ hdecode
  rwa [data_holding, hoffset] at himage

-- ---------------------------------------------------------------------------
-- A packet that is cut off
-- ---------------------------------------------------------------------------

theorem decodeData_of_le {b : Buffer} {identifier n : UInt16} {rest : List Byte}
    (hb : Cursor.unread b = wordBytes identifier ++ (wordBytes n ++ rest)) (hr : rest ≠ [])
    (hn : rest.length ≤ n.toNat) :
    ∃ b', Scanner.runOn DataMessageCodec.decode b = (.ok ⟨identifier, []⟩, b') ∧
      Cursor.unread b' = rest := by
  have hleft : ¬ b.bytesLeftToRead < DataMessageCodec.dataMessageHeaderSize := by
    refine bytesLeftToRead_not_lt ?_ (hb.trans (List.append_assoc _ _ _).symm)
    simp [DataMessageCodec.dataMessageHeaderSize]
  obtain ⟨h1, hb1⟩ := (reads_uint16 identifier).runOn_bind hb (by simp [hr])
  obtain ⟨h2, hb2⟩ := (reads_uint16 n).runOn_bind hb1 hr
  refine ⟨_, ?_, hb2⟩
  rw [DataMessageCodec.decode, Scanner.runOn_bind_ok (Scanner.runOn_get b), if_neg hleft, h1, h2,
    networkToNative_nativeToNetwork, networkToNative_nativeToNetwork,
    Scanner.runOn_bind_ok (by
      rw [Scanner.runOn_lift, readBuffer_of_le]
      exact Nat.le_trans (Nat.le_of_eq (congrArg List.length hb2)) hn),
    Scanner.runOn_pure]

/-- A data message that announces 100 bytes, in a packet that ends before
them. -/
def cutOffBody : List Byte := [0, 0, 0, 20, 0, 1, 0, 0, 0, 110, 0, 2, 0, 7, 0, 100]

theorem cutOffBody_eq : cutOffBody = wordBytes (20 : UInt32) ++ (wordBytes (1 : UInt16) ++
    (headerBytes 110 .dataMessage ++ (wordBytes (7 : UInt16) ++ wordBytes (100 : UInt16)))) := by
  decide

theorem decodeMessage_of_le {b : Buffer} {identifier n : UInt16} {rest : List Byte}
    (hb : Cursor.unread b = headerBytes m .dataMessage ++
      (wordBytes identifier ++ (wordBytes n ++ rest)))
    (hr : rest ≠ []) (hn : rest.length ≤ n.toNat) :
    ∃ b', Scanner.runOn (PacketCodec.decodeMessage i) b = (.ok (.data ⟨identifier, []⟩), b') ∧
      Cursor.unread b' = rest := by
  obtain ⟨h1, hb1⟩ :=
    ((reads_header (.ofNat m) .dataMessage).mapError _).runOn_bind hb (by simp [hr])
  obtain ⟨b', h2, hb2⟩ := decodeData_of_le hb1 hr hn
  refine ⟨b', ?_, hb2⟩
  rw [PacketCodec.decodeMessage, h1]
  exact Scanner.runOn_bind_ok (Scanner.runOn_mapError_ok h2)

theorem decodeContents_cutOff {b : Buffer} {checksum : UInt32}
    (hb : b.unread = cutOffBody ++ wordBytes checksum) :
    ∃ rest, Scanner.runOn PacketCodec.decodeContents b =
      (.ok { messages := [.data ⟨7, []⟩] }, rest) := by
  have hlen : (wordBytes checksum).length = 4 := length_wordBytes checksum
  have hne : wordBytes checksum ≠ [] := List.ne_nil_of_length_pos (by omega)
  simp only [cutOffBody_eq, List.append_assoc] at hb
  obtain ⟨h1, hb1⟩ := (reads_uint32 20).runOn_bind hb (by simp [hne])
  obtain ⟨h2, hb2⟩ := (reads_uint16 1).runOn_bind hb1 (by simp [hne])
  obtain ⟨b', h3, hb3⟩ := decodeMessage_of_le (n := 100) (i := 0) hb2 hne (by rw [hlen]; decide)
  have hcollect : Scanner.runOn (Scanner.collect PacketCodec.decodeMessage 0 1) _ =
      (.ok [.data ⟨7, []⟩], b') := Scanner.runOn_bind_ok h3
  refine ⟨b'.skip 4, ?_⟩
  rw [PacketCodec.decodeContents, h1, h2, networkToNative_nativeToNetwork]
  refine (Scanner.runOn_bind_ok hcollect).trans (Scanner.runOn_bind_ok (runOn_readUInt32 ?_))
  exact Nat.le_of_eq (((congrArg List.length hb3).trans hlen).symm)

/-- With the right checksum that packet is accepted, and encoding what it is
read as gives other bytes. -/
theorem cutOff_not_image :
    ¬ ∃ md5 : List Byte → Digest, ∀ packet rest, Scanner.runOn (PacketCodec.decode md5)
        (.holding (cutOffBody ++ checksumBytes md5 cutOffBody)) = (.ok packet, rest) →
      ExactImage md5 (cutOffBody ++ checksumBytes md5 cutOffBody) packet.messages
        rest.readOffset := by
  rintro ⟨md5, himage⟩
  have hlen : (checksumBytes md5 cutOffBody).length = 4 := length_wordBytes _
  have hbody : cutOffBody.length = 20 - 4 := rfl
  have hdata := data_holding (cutOffBody ++ checksumBytes md5 cutOffBody)
  have hn : declaredSize (cutOffBody ++ checksumBytes md5 cutOffBody) = 20 := by
    rw [declaredSize, List.take_append_of_le_length (by decide)]
    rfl
  have hcheck : ChecksumOk md5 (cutOffBody ++ checksumBytes md5 cutOffBody) := by
    have hdrop : ((cutOffBody ++ checksumBytes md5 cutOffBody).drop (20 - 4)).take 4 =
        checksumBytes md5 cutOffBody := by
      rw [List.drop_left' hbody, ← hlen, List.take_length]
    rw [ChecksumOk, declaredChecksum, hn, hdrop, List.take_left' hbody, checksumBytes, wordBytes,
      Word.ofBigEndian_toBigEndian]
  obtain ⟨rest, hdecode⟩ := decodeContents_cutOff (unread_holding (cutOffBody ++
    wordBytes (lastPartDigest (md5 cutOffBody))))
  have haccepted : Scanner.runOn (PacketCodec.decode md5)
      (.holding (cutOffBody ++ checksumBytes md5 cutOffBody)) =
        (.ok { messages := [.data ⟨7, []⟩] }, rest) := by
    rw [decode_eq md5 (readOffset_holding _), checksumBytes, hdecode]
    all_goals rw [hdata]
    · rw [List.length_append, hlen]
      omega
    · omega
    · rw [hn, List.length_append, hlen, hbody]
    · exact hcheck
  obtain ⟨hbytes, -⟩ := himage _ _ haccepted
  rw [data_encode, hn] at hbytes
  have htake := congrArg (List.take 16) hbytes
  rw [packetBytes, List.take_left' (by decide), List.take_take, Nat.min_eq_left (by decide),
    List.take_left' (by decide)] at htake
  revert htake
  decide

end Discnet.Network.Messages
