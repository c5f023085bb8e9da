import Discnet.Network.WireFormat

/-!
# What the decoders make of the format

Each decoder gives back the value whose bytes it is put in front of, as long
as the counts fit their 16-bit fields and something follows. A packet starts
with its size and ends with its checksum, so decoding finds both and stops
right behind the packet, whatever comes after it.
-/

namespace Discnet.Network.Messages

open Lib Buffer

-- ---------------------------------------------------------------------------
-- Counts
-- ---------------------------------------------------------------------------

def maxCount : Nat := 65535

def Message.CountsFit : Message → Prop
  | .discovery message =>
    message.nodes.length ≤ maxCount ∧ ∀ node ∈ message.nodes, node.jumps.length ≤ maxCount
  | .data message => message.buffer.length ≤ maxCount

instance : DecidablePred Message.CountsFit
  | .discovery message => inferInstanceAs (Decidable (message.nodes.length ≤ maxCount ∧
      ∀ node ∈ message.nodes, node.jumps.length ≤ maxCount))
  | .data message => inferInstanceAs (Decidable (message.buffer.length ≤ maxCount))

def CountsFit (messages : MessageList) : Prop :=
  messages.length ≤ maxCount ∧ ∀ message ∈ messages, message.CountsFit

instance : DecidablePred CountsFit := fun messages =>
  inferInstanceAs (Decidable (messages.length ≤ maxCount ∧ ∀ m ∈ messages, m.CountsFit))

theorem toNat_count (h : n ≤ maxCount) : (UInt16.ofNat n).toNat = n := by
  unfold maxCount at h
  simp only [UInt16.toNat_ofNat']
  omega

theorem visitMessageSize_le {messages : MessageList} (h : message ∈ messages) :
    visitMessageSize message ≤ PacketCodec.totalPacketSize messages := by
  obtain ⟨before, after, rfl⟩ := List.append_of_mem h
  simp only [PacketCodec.totalPacketSize, List.map_append, List.map_cons, List.sum_append,
    List.sum_cons]
  omega

theorem length_le_totalPacketSize (messages : MessageList) :
    messages.length ≤ PacketCodec.totalPacketSize messages := by
  have hmap : messages.length ≤ (messages.map visitMessageSize).sum := by
    induction messages with
    | nil => exact Nat.le_refl 0
    | cons message messages ih =>
      have hpos : 6 ≤ visitMessageSize message := by
        rw [← length_messageBytes, messageBytes_eq]
        simp only [List.length_append, length_wordBytes, size_uint16, size_uint32]
        omega
      simp only [List.length_cons, List.map_cons, List.sum_cons]
      omega
  exact Nat.le_trans hmap (Nat.le_add_left _ _)

theorem Message.countsFit_of_le {message : Message} (h : visitMessageSize message ≤ maxCount) :
    message.CountsFit := by
  cases message with
  | discovery message =>
    simp only [visitMessageSize, DiscoveryMessageCodec.encodedSize,
      DiscoveryMessageCodec.nodesArrayElementSize] at h
    refine ⟨by omega, fun node hnode => ?_⟩
    obtain ⟨before, after, hnodes⟩ := List.append_of_mem hnode
    simp only [hnodes, List.map_append, List.map_cons, List.sum_append, List.sum_cons] at h
    omega
  | data message =>
    simp only [visitMessageSize, DataMessageCodec.encodedSize] at h
    simp only [Message.CountsFit]
    omega

theorem countsFit_of_le {messages : MessageList}
    (h : PacketCodec.totalPacketSize messages ≤ maxCount) : CountsFit messages :=
  ⟨Nat.le_trans (length_le_totalPacketSize messages) h, fun _ hm =>
    Message.countsFit_of_le (Nat.le_trans (visitMessageSize_le hm) h)⟩

@[simp] theorem networkToNative_nativeToNetwork {α : Type} [Word α] (v : α) :
    networkToNative (nativeToNetwork v) = v := Word.byteSwap_byteSwap v

@[simp] theorem ofUInt16_toUInt16_discoveryMessage :
    MessageType.ofUInt16 (MessageType.toUInt16 .discoveryMessage) = .discoveryMessage := rfl

@[simp] theorem ofUInt16_toUInt16_dataMessage :
    MessageType.ofUInt16 (MessageType.toUInt16 .dataMessage) = .dataMessage := rfl

-- ---------------------------------------------------------------------------
-- Reading back what was written
-- ---------------------------------------------------------------------------

theorem bytesLeftToRead_not_lt {b : Buffer} (hk : k ≤ w.length)
    (hb : Cursor.unread b = w ++ rest) : ¬ b.bytesLeftToRead < k := by
  have hb : b.unread = w ++ rest := hb
  apply not_bytesLeftToRead_lt
  rw [hb, List.length_append]
  omega

theorem readsAnywhere_read {α : Type} [Word α] (hp : 0 < Word.size α) (v : α) :
    ReadsAnywhere (liftM (read α) : DecodeM α) (wordBytes v) (nativeToNetwork v) := by
  intro b rest hb
  have hb : b.unread = wordBytes v ++ rest := hb
  have hlen := length_wordBytes v
  have htake : b.unread.take (Word.size α) = wordBytes v := by
    rw [hb, ← hlen, List.take_left]
  rw [Scanner.runOn_lift, read_of_le hp (by rw [hb, List.length_append]; omega), htake, hlen]
  rfl

theorem readsAnywhere_uint16 (v : UInt16) :
    ReadsAnywhere (liftM readUInt16 : DecodeM UInt16) (wordBytes v) (nativeToNetwork v) :=
  readsAnywhere_read (by decide) v

theorem readsAnywhere_uint32 (v : UInt32) :
    ReadsAnywhere (liftM readUInt32 : DecodeM UInt32) (wordBytes v) (nativeToNetwork v) :=
  readsAnywhere_read (by decide) v

theorem reads_uint16 (v : UInt16) :
    Reads (liftM readUInt16 : DecodeM UInt16) (wordBytes v) (nativeToNetwork v) :=
  (readsAnywhere_uint16 v).reads

theorem reads_uint32 (v : UInt32) :
    Reads (liftM readUInt32 : DecodeM UInt32) (wordBytes v) (nativeToNetwork v) :=
  (readsAnywhere_uint32 v).reads

/-- A span is read only because something follows it. -/
theorem reads_readBuffer (w : List Byte) :
    Reads (liftM (readBuffer w.length) : DecodeM (List Byte)) w w := by
  intro b rest hr hb
  have hb : b.unread = w ++ rest := hb
  have hpos := List.length_pos_of_ne_nil hr
  rw [Scanner.runOn_lift, readBuffer_of_lt (by rw [hb, List.length_append]; omega), hb,
    List.take_left]
  rfl

theorem reads_header (size : UInt32) (type : MessageType) :
    Reads HeaderCodec.decode (wordBytes size ++ wordBytes type.toUInt16)
      ⟨size, .ofUInt16 type.toUInt16⟩ := by
  refine .check (fun b rest _ hb => bytesLeftToRead_not_lt ?_ hb) ((reads_uint32 _).bind ?_)
  · simp only [List.length_append, length_wordBytes, size_uint16, size_uint32]
    exact Nat.le_refl _
  · exact (reads_uint16 _).bind_pure (by simp)

theorem reads_data (message : DataMessage) (hm : (Message.data message).CountsFit) :
    Reads DataMessageCodec.decode (dataBytes message) message := by
  have hcount := toNat_count hm
  refine .check (fun b rest _ hb => bytesLeftToRead_not_lt ?_ hb)
    ((reads_uint16 _).bind ((reads_uint16 _).bind ?_))
  · simp only [dataBytes, List.length_append, length_wordBytes, size_uint16]
    unfold DataMessageCodec.dataMessageHeaderSize
    omega
  · rw [networkToNative_nativeToNetwork, hcount]
    exact (reads_readBuffer _).bind_pure (by simp)

theorem readsAnywhere_jump (i : Nat) (jump : Metric) :
    ReadsAnywhere (DiscoveryMessageCodec.decodeJump i) (wordBytes jump) jump :=
  (readsAnywhere_uint16 _).bind_pure (by simp)

theorem readsAnywhere_node (i : Nat) (node : Node) (hn : node.jumps.length ≤ maxCount) :
    ReadsAnywhere (DiscoveryMessageCodec.decodeNode i) (nodeBytes node) node := by
  have hcount := toNat_count hn
  refine (readsAnywhere_uint16 _).bind ((readsAnywhere_uint32 _).bind
    ((readsAnywhere_uint16 _).bind ?_))
  rw [networkToNative_nativeToNetwork, hcount]
  exact (ReadsAnywhere.collect fun i jump _ => readsAnywhere_jump i jump).bind_pure (by simp)

theorem readsAnywhere_discovery (message : DiscoveryMessage)
    (hm : (Message.discovery message).CountsFit) :
    ReadsAnywhere DiscoveryMessageCodec.decode (discoveryBytes message) message := by
  have hcount := toNat_count hm.1
  refine .check (fun b rest hb => bytesLeftToRead_not_lt ?_ hb)
    ((readsAnywhere_uint16 _).bind ((readsAnywhere_uint16 _).bind ?_))
  · simp only [discoveryBytes, List.length_append, length_wordBytes, size_uint16]
    unfold DiscoveryMessageCodec.nodeIdSize DiscoveryMessageCodec.nodesArraySize
    omega
  · rw [networkToNative_nativeToNetwork, hcount]
    exact (ReadsAnywhere.collect fun i node h =>
      readsAnywhere_node i node (hm.2 node h)).bind_pure (by simp)

theorem reads_discovery (message : DiscoveryMessage) (hm : (Message.discovery message).CountsFit) :
    Reads DiscoveryMessageCodec.decode (discoveryBytes message) message :=
  (readsAnywhere_discovery message hm).reads

/-- The size in the header of a message does not matter. -/
theorem reads_sized (i : Nat) (size : UInt32) (message : Message) (hm : message.CountsFit) :
    Reads (PacketCodec.decodeMessage i) (sizedBytes size message) message := by
  rw [sizedBytes, ← List.append_assoc]
  cases message with
  | discovery message =>
    exact ((reads_header _ .discoveryMessage).mapError _).bind
      (((reads_discovery message hm).mapError _).bind_pure rfl)
  | data message =>
    exact ((reads_header _ .dataMessage).mapError _).bind
      (((reads_data message hm).mapError _).bind_pure rfl)

-- ---------------------------------------------------------------------------
-- Validation
-- ---------------------------------------------------------------------------

/-- The size a packet declares in its first four bytes. -/
def declaredSize (bytes : List Byte) : Nat :=
  (Word.ofBigEndian (bytes.take 4) : UInt32).toNat

theorem declaredSize_append {bytes : List Byte} (h : 4 ≤ bytes.length) (more : List Byte) :
    declaredSize (bytes ++ more) = declaredSize bytes := by
  rw [declaredSize, declaredSize, List.take_append_of_le_length h]

def declaredChecksum (bytes : List Byte) : UInt32 :=
  Word.ofBigEndian ((bytes.drop (declaredSize bytes - 4)).take 4)

section
variable (md5 : List Byte → Digest)

def ChecksumOk (bytes : List Byte) : Prop :=
  declaredChecksum bytes = lastPartDigest (md5 (bytes.take (declaredSize bytes - 4)))

instance (bytes : List Byte) : Decidable (ChecksumOk md5 bytes) :=
  inferInstanceAs (Decidable (_ = _))

theorem unread_of_readOffset {b : Buffer} (h : b.readOffset = 0) : b.unread = b.data := by
  simp [unread, h]

theorem runOn_readUInt32 {b : Buffer} (h : 4 ≤ b.unread.length) :
    Scanner.runOn (liftM readUInt32 : DecodeM UInt32) b =
      (.ok (Word.ofBytes (b.unread.take 4)), b.skip 4) := by
  rw [Scanner.runOn_lift, readUInt32, read_of_le (by decide) h]
  rfl

theorem networkToNative_take {bytes : List Byte} (h : 4 ≤ bytes.length) :
    networkToNative (Word.ofBytes (bytes.take 4) : UInt32) = Word.ofBigEndian (bytes.take 4) :=
  networkToNative_ofBytes (by rw [List.length_take]; exact Nat.min_eq_left h)

theorem resetRead_skip {b : Buffer} (hb : b.readOffset = 0) :
    resetRead.run (b.skip n) = ((), b) :=
  Prod.ext rfl (Buffer.ext rfl hb.symm rfl)

/-- Of a packet that is complete, the checksum behind what is read is compared
with the digest of it. -/
theorem validatePacket_of_read {b rest : Buffer} {message : List Byte} (hb : b.readOffset = 0)
    (h4 : 4 ≤ b.data.length) (hl : declaredSize b.data ≤ b.data.length)
    (hread : (readBuffer (sizeSub (declaredSize b.data) PacketCodec.checksumSize)).run b =
      (message, rest))
    (hrest : 4 ≤ rest.unread.length) :
    Scanner.runOn (PacketCodec.validatePacket md5) b =
      (if (Word.ofBigEndian (rest.unread.take 4) : UInt32) = lastPartDigest (md5 message) then
        .ok true
      else
        .error (PacketCodec.checksumFailed (Word.ofBigEndian (rest.unread.take 4)) (md5 message)),
      rest.skip 4) := by
  have hu := unread_of_readOffset hb
  have hfirst := not_bytesLeftToRead_lt (n := PacketCodec.packetSizeFieldSize) (hu ▸ h4)
  have hall : ¬ b.bytesLeftToRead < declaredSize b.data := not_bytesLeftToRead_lt (hu ▸ hl)
  have hsize : (networkToNative (Word.ofBytes (b.unread.take 4) : UInt32)).toNat =
      declaredSize b.data := by
    rw [hu, networkToNative_take h4, declaredSize]
  have hmessage : Scanner.runOn (liftM (readBuffer (sizeSub (declaredSize b.data)
      PacketCodec.checksumSize)) : DecodeM (List Byte)) b = (.ok message, rest) := by
    rw [Scanner.runOn_lift, hread]
  rw [PacketCodec.validatePacket, Scanner.runOn_bind_ok (Scanner.runOn_get b), if_neg hfirst,
    Scanner.runOn_bind_ok (runOn_readUInt32 (by rwa [hu]))]
  dsimp only
  rw [Scanner.runOn_bind_ok (by rw [Scanner.runOn_lift, resetRead_skip hb]),
    Scanner.runOn_bind_ok (Scanner.runOn_get b), hsize, if_neg hall,
    Scanner.runOn_bind_ok hmessage, Scanner.runOn_bind_ok (runOn_readUInt32 hrest),
    networkToNative_take hrest]
  by_cases hsame : (Word.ofBigEndian (rest.unread.take 4) : UInt32) = lastPartDigest (md5 message)
  · rw [if_neg (not_not.mpr hsame), if_pos hsame, Scanner.runOn_pure]
  · rw [if_pos hsame, if_neg hsame, Scanner.runOn_bind_error (Scanner.runOn_throw _ _)]

/-- From the front of a buffer that holds the declared bytes, validation
compares the checksum and stops behind them. -/
theorem validatePacket_eq {b : Buffer} (hb : b.readOffset = 0) (h4 : 4 ≤ b.data.length)
    (hd : 4 ≤ declaredSize b.data) (hl : declaredSize b.data ≤ b.data.length) :
    Scanner.runOn (PacketCodec.validatePacket md5) b =
      (if ChecksumOk md5 b.data then .ok true else .error
        (PacketCodec.checksumFailed (declaredChecksum b.data)
          (md5 (b.data.take (declaredSize b.data - 4)))),
      b.skip (declaredSize b.data)) := by
  have hu := unread_of_readOffset hb
  have hn : declaredSize b.data < 2 ^ 64 := by
    have := (Word.ofBigEndian (b.data.take 4) : UInt32).toNat_lt
    unfold declaredSize
    omega
  have hsub : sizeSub (declaredSize b.data) PacketCodec.checksumSize = declaredSize b.data - 4 :=
    sizeSub_of_le hd hn
  have hread : (readBuffer (sizeSub (declaredSize b.data) PacketCodec.checksumSize)).run b =
      (b.data.take (declaredSize b.data - 4), b.skip (declaredSize b.data - 4)) := by
    rw [hsub, readBuffer_of_lt (by rw [hu]; omega), hu]
  have hrest : 4 ≤ (b.skip (declaredSize b.data - 4)).unread.length := by
    rw [unread_skip, hu, List.length_drop]
    omega
  have hend : (b.skip (declaredSize b.data - 4)).skip 4 = b.skip (declaredSize b.data) := by
    have h := Cursor.skip_skip (declaredSize b.data - 4) 4 b
    rwa [Nat.sub_add_cancel hd] at h
  rw [validatePacket_of_read md5 hb h4 hl hread hrest, hend, unread_skip, hu]
  rfl

/-- Decoding compares the checksum and then reads the contents from where it
started. -/
theorem decode_eq {b : Buffer} (hb : b.readOffset = 0) (h4 : 4 ≤ b.data.length)
    (hd : 4 ≤ declaredSize b.data) (hl : declaredSize b.data ≤ b.data.length)
    (hc : ChecksumOk md5 b.data) :
    Scanner.runOn (PacketCodec.decode md5) b = Scanner.runOn PacketCodec.decodeContents b := by
  rw [decode_of_readOffset md5 hb, validatePacket_eq md5 hb h4 hd hl, if_pos hc]

theorem decode_of_invalid {b : Buffer} (hb : b.readOffset = 0)
    (h : Scanner.runOn (PacketCodec.validatePacket md5) b = (.error e, b.skip n)) :
    Scanner.runOn (PacketCodec.decode md5) b = (.error e, b) := by
  rw [decode_of_readOffset md5 hb, h]

-- ---------------------------------------------------------------------------
-- Packets
-- ---------------------------------------------------------------------------

theorem toNat_size (h : n < 2 ^ 32) : (UInt32.ofNat n).toNat = n := by
  rw [UInt32.toNat_ofNat']
  exact Nat.mod_eq_of_lt h

theorem packetBody_eq (messages : MessageList) :
    ∃ rest, packetBody messages =
      wordBytes (UInt32.ofNat (PacketCodec.totalPacketSize messages)) ++ rest := ⟨_, rfl⟩

theorem checksumSize_le (messages : MessageList) :
    PacketCodec.checksumSize ≤ PacketCodec.totalPacketSize messages := by
  rw [← length_packetBody]
  exact Nat.le_add_left _ _

theorem headerSize_le (messages : MessageList) :
    PacketCodec.headerSize ≤ PacketCodec.totalPacketSize messages := Nat.le_add_right _ _

theorem length_packetBody_eq (messages : MessageList) :
    (packetBody messages).length = PacketCodec.totalPacketSize messages - 4 :=
  (Nat.sub_eq_of_eq_add (length_packetBody messages).symm).symm

section
variable {messages : MessageList} (hs : PacketCodec.totalPacketSize messages < 2 ^ 32)
include hs

theorem declaredSize_packetBody (rest : List Byte) :
    declaredSize (packetBody messages ++ rest) = PacketCodec.totalPacketSize messages := by
  obtain ⟨more, hbody⟩ := packetBody_eq messages
  have htake : (packetBody messages ++ rest).take 4 =
      wordBytes (UInt32.ofNat (PacketCodec.totalPacketSize messages)) := by
    simp only [hbody, List.append_assoc]
    exact List.take_left' (length_wordBytes _)
  rw [declaredSize, htake, wordBytes, Word.ofBigEndian_toBigEndian, toNat_size hs]

/-- The checksum behind a packet is compared with the digest of the packet
alone. -/
theorem checksumOk_packetBody_iff (checksum : UInt32) (trailing : List Byte) :
    ChecksumOk md5 (packetBody messages ++ (wordBytes checksum ++ trailing)) ↔
      checksum = lastPartDigest (md5 (packetBody messages)) := by
  have hbody := length_packetBody_eq messages
  have hdrop : ((packetBody messages ++ (wordBytes checksum ++ trailing)).drop
      (PacketCodec.totalPacketSize messages - 4)).take 4 = wordBytes checksum := by
    rw [List.drop_left' hbody]
    exact List.take_left' (length_wordBytes _)
  rw [ChecksumOk, declaredChecksum, declaredSize_packetBody hs, hdrop, List.take_left' hbody,
    wordBytes, Word.ofBigEndian_toBigEndian]

theorem declaredSize_packetBytes (trailing : List Byte) :
    declaredSize (packetBytes md5 messages ++ trailing) =
      PacketCodec.totalPacketSize messages := by
  rw [packetBytes, List.append_assoc, declaredSize_packetBody hs]

theorem checksumOk_packetBytes (trailing : List Byte) :
    ChecksumOk md5 (packetBytes md5 messages ++ trailing) := by
  rw [packetBytes, List.append_assoc, checksumBytes, checksumOk_packetBody_iff md5 hs]

end

/-- Reading the contents of a packet gives its messages, whatever the sizes
in their headers, and stops behind the checksum. -/
theorem decodeContents_sized {size : UInt32} (items : List (UInt32 × Message))
    (hcount : items.length ≤ maxCount) (hfit : ∀ item ∈ items, item.2.CountsFit) {b : Buffer}
    {word trailing : List Byte} (hword : word.length = 4)
    (hb : b.unread = wordBytes size ++ (wordBytes (UInt16.ofNat items.length) ++
      (items.flatMap (fun item => sizedBytes item.1 item.2) ++ (word ++ trailing)))) :
    Scanner.runOn PacketCodec.decodeContents b = (.ok { messages := items.map Prod.snd },
      b.skip (10 + (items.flatMap fun item => sizedBytes item.1 item.2).length)) := by
  have hne : word ++ trailing ≠ [] := by
    apply List.ne_nil_of_length_pos
    rw [List.length_append]
    omega
  have hn := toNat_count hcount
  obtain ⟨h1, hb1⟩ := (reads_uint32 size).runOn_bind hb (by simp [hne])
  obtain ⟨h2, hb2⟩ := (reads_uint16 (.ofNat items.length)).runOn_bind hb1 (by simp [hne])
  obtain ⟨h3, hb3⟩ := (Reads.collect (i := 0) fun i item h =>
    reads_sized i item.1 item.2 (hfit item h)).runOn_bind hb2 hne
  have hlast : ∀ s : Buffer, Cursor.unread s = word ++ trailing → 4 ≤ s.unread.length := by
    intro s hs
    have hl : s.unread.length = (word ++ trailing).length := congrArg List.length hs
    rw [hl, List.length_append]
    omega
  have hend : (wordBytes size).length + (wordBytes (UInt16.ofNat items.length)).length +
      (items.flatMap fun item => sizedBytes item.1 item.2).length + 4 =
        10 + (items.flatMap fun item => sizedBytes item.1 item.2).length := by
    rw [length_wordBytes, length_wordBytes, size_uint16, size_uint32]
    omega
  rw [PacketCodec.decodeContents, h1, h2, networkToNative_nativeToNetwork, hn, h3,
    Scanner.runOn_bind_ok (runOn_readUInt32 (hlast _ hb3)), Scanner.runOn_pure]
  show (_, Cursor.skip 4 (Cursor.skip _ (Cursor.skip _ (Cursor.skip _ b)))) = (_, Cursor.skip _ b)
  rw [Cursor.skip_skip, Cursor.skip_skip, Cursor.skip_skip, ← Nat.add_assoc, ← Nat.add_assoc, hend]

theorem decodeContents_eq {messages : MessageList} (hfit : CountsFit messages) {b : Buffer}
    {word trailing : List Byte} (hword : word.length = 4)
    (hb : b.unread = packetBody messages ++ (word ++ trailing)) :
    Scanner.runOn PacketCodec.decodeContents b =
      (.ok { messages }, b.skip (PacketCodec.totalPacketSize messages)) := by
  have hcontents : b.unread = wordBytes (UInt32.ofNat (PacketCodec.totalPacketSize messages)) ++
      (wordBytes (UInt16.ofNat (withSizes messages).length) ++
        ((withSizes messages).flatMap (fun item => sizedBytes item.1 item.2) ++
          (word ++ trailing))) := by
    rw [hb, flatMap_withSizes, length_withSizes, packetBody, List.append_assoc, List.append_assoc]
  have hfits : ∀ item ∈ withSizes messages, item.2.CountsFit := by
    simpa [withSizes] using hfit.2
  rw [decodeContents_sized _ (length_withSizes messages ▸ hfit.1) hfits hword hcontents,
    map_withSizes, flatMap_withSizes, length_flatMap_messageBytes]
  rfl

/-- Decoding a packet with anything behind it gives its messages and stops
behind the packet. -/
theorem decode_packetBytes {messages : MessageList} (hfit : CountsFit messages)
    (hs : PacketCodec.totalPacketSize messages < 2 ^ 32) {b : Buffer} (hb : b.readOffset = 0)
    (hdata : b.data = packetBytes md5 messages ++ trailing) :
    Scanner.runOn (PacketCodec.decode md5) b =
      (.ok { messages }, b.skip (PacketCodec.totalPacketSize messages)) := by
  have hsize := declaredSize_packetBytes md5 hs trailing
  have hcheck := checksumOk_packetBytes md5 hs trailing
  have h4 : 4 ≤ PacketCodec.totalPacketSize messages := checksumSize_le messages
  have hl : PacketCodec.totalPacketSize messages ≤ b.data.length := by
    rw [hdata, List.length_append, length_packetBytes]
    exact Nat.le_add_right _ _
  rw [← hdata] at hsize hcheck
  rw [decode_eq md5 hb (Nat.le_trans h4 hl) (hsize ▸ h4) (hsize ▸ hl) hcheck]
  have hunread : b.unread = packetBody messages ++
      (checksumBytes md5 (packetBody messages) ++ trailing) := by
    rw [unread_of_readOffset hb, hdata, packetBytes, List.append_assoc]
  exact decodeContents_eq hfit (length_wordBytes _) hunread

/-- A packet encoded into a fresh buffer is decoded to its messages wherever
it stands in front of other bytes, and the read offset ends behind it. -/
theorem packet_round_trip (messages : MessageList) (hfit : CountsFit messages)
    (hs : PacketCodec.totalPacketSize messages < 2 ^ 31)
    (hroom : PacketCodec.totalPacketSize messages ≤ n) :
    ∃ encoded : Buffer, (PacketCodec.encode md5 messages).run (.new n) = (true, encoded) ∧
      encoded.appendedBytes = PacketCodec.totalPacketSize messages ∧
      ∀ (b : Buffer) (trailing : List Byte), b.readOffset = 0 → b.data = encoded.data ++ trailing →
        ∃ rest : Buffer, Scanner.runOn (PacketCodec.decode md5) b = (.ok { messages }, rest) ∧
          rest.readOffset = encoded.appendedBytes ∧ rest.data = b.data := by
  have hencode := encode_new_of_le md5 hroom
  have hdata := (data_encode_new md5 hencode).2
  have hend : ((Buffer.new n).pushed (packetBytes md5 messages)).appendedBytes =
      PacketCodec.totalPacketSize messages := by
    rw [appendedBytes, ← length_data, hdata, length_packetBytes]
  refine ⟨_, hencode, hend, ?_⟩
  intro b trailing hb hbytes
  rw [hdata] at hbytes
  refine ⟨_, decode_packetBytes md5 hfit (by omega) hb hbytes, ?_, data_skip b⟩
  rw [readOffset_skip, hb, hend, Nat.zero_add]
  rw [unread_of_readOffset hb, hbytes, List.length_append, length_packetBytes]
  exact Nat.le_add_right _ _

end

theorem packet_round_trip_two : ∃ encoded : Buffer,
    (PacketCodec.encode (fun _ => Vector.replicate 16 0)
      [.discovery ⟨1024, [⟨1025, ⟨0x0a000001⟩, [256, 512]⟩]⟩, .data ⟨1, [1, 2, 3, 4, 5]⟩]).run
        (.new 4096) = (true, encoded) ∧ encoded.appendedBytes = 47 ∧
      ∀ (b : Buffer) (trailing : List Byte), b.readOffset = 0 → b.data = encoded.data ++ trailing →
        ∃ rest : Buffer, Scanner.runOn (PacketCodec.decode fun _ => Vector.replicate 16 0) b =
            (.ok { messages := [.discovery ⟨1024, [⟨1025, ⟨0x0a000001⟩, [256, 512]⟩]⟩,
              .data ⟨1, [1, 2, 3, 4, 5]⟩] }, rest) ∧
          rest.readOffset = encoded.appendedBytes ∧ rest.data = b.data :=
  packet_round_trip _ _ (by decide) (by decide) (by decide)

end Discnet.Network.Messages
