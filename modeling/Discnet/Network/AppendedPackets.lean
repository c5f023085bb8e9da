import Discnet.Network.LengthFields
import Discnet.Network.Recovery

/-!
# Packets one behind the other

A packet is appended to whatever the buffer holds, as long as there is room.
Its checksum is taken of all these bytes, but a receiver takes it of the
packet alone: what was in the buffer before decides whether the packet can be
read.
-/

namespace Discnet.Network.Messages

open Lib Buffer DataStream

section
variable (md5 : List Byte → Digest)

/-- Encodes packet after packet, as long as they fit. -/
def encodeAll : List MessageList → StateM Buffer Bool
  | [] => return true
  | messages :: rest => do
    if !(← PacketCodec.encode md5 messages) then
      return false
    encodeAll rest

/-- The bytes that stand before a packet do not show in its checksum. -/
def ChecksumAgrees (before : List Byte) (messages : MessageList) : Prop :=
  lastPartDigest (md5 (before ++ packetBody messages)) = lastPartDigest (md5 (packetBody messages))

/-- The same for each of several packets, encoded one behind the other. -/
def ChecksumsAgree (before : List Byte) : List MessageList → Prop
  | [] => True
  | messages :: rest =>
    ChecksumAgrees md5 before messages ∧
      ChecksumsAgree (before ++ packetBytes md5 messages) rest

instance (before : List Byte) (messages : MessageList) :
    Decidable (ChecksumAgrees md5 before messages) := inferInstanceAs (Decidable (_ = _))

/-- The bytes that several packets add. -/
def addedByAll (before : List Byte) : List MessageList → List Byte
  | [] => []
  | messages :: rest =>
    let added := packetBody messages ++ checksumBytes md5 (before ++ packetBody messages)
    added ++ addedByAll (before ++ added) rest

end

variable {md5 : List Byte → Digest} {b : Buffer} {messages : MessageList}

-- ---------------------------------------------------------------------------
-- One packet
-- ---------------------------------------------------------------------------

theorem checksumAgrees_nil (md5 : List Byte → Digest) (messages : MessageList) :
    ChecksumAgrees md5 [] messages := rfl

theorem checksumBytes_eq_iff {bytes bytes' : List Byte} :
    checksumBytes md5 bytes = checksumBytes md5 bytes' ↔
      lastPartDigest (md5 bytes) = lastPartDigest (md5 bytes') := by
  constructor
  · intro h
    have hread := congrArg (Word.ofBigEndian : List Byte → UInt32) h
    simpa [checksumBytes, wordBytes] using hread
  · intro h
    rw [checksumBytes, checksumBytes, h]

theorem added_eq_packetBytes_iff {before : List Byte} :
    packetBody messages ++ checksumBytes md5 (before ++ packetBody messages) =
        packetBytes md5 messages ↔ ChecksumAgrees md5 before messages := by
  rw [packetBytes, List.append_cancel_left_eq, checksumBytes_eq_iff, ChecksumAgrees]

/-- A packet is appended as it would be written into an empty buffer if and
only if its checksum does not show what stands before it. -/
theorem encode_independent_iff (hroom : PacketCodec.totalPacketSize messages ≤ b.remainingBytes)
    (hn : PacketCodec.totalPacketSize messages ≤ n) :
    ((PacketCodec.encode md5 messages).run b).2.data.drop b.writeOffset =
        ((PacketCodec.encode md5 messages).run (.new n)).2.data ↔
      ChecksumAgrees md5 b.data messages := by
  have hempty := (data_encode_new md5 (encode_new_of_le md5 hn)).2
  rw [data_after_encode md5 hroom, List.drop_left' (length_data b), encode_new_of_le md5 hn, hempty,
    addedBytes, added_eq_packetBytes_iff]

-- ---------------------------------------------------------------------------
-- Several packets
-- ---------------------------------------------------------------------------

theorem data_encodeAll {batches : List MessageList} {filled : Buffer}
    (h : (encodeAll md5 batches).run b = (true, filled)) :
    filled.data = b.data ++ addedByAll md5 b.data batches := by
  induction batches generalizing b with
  | nil =>
    cases h
    simp [addedByAll]
  | cons messages rest ih =>
    rw [encodeAll, StateT.run_bind] at h
    rcases Nat.lt_or_ge b.remainingBytes (PacketCodec.totalPacketSize messages) with hlt | hroom
    · rw [encode_of_lt md5 b messages hlt] at h
      cases h
    · have hdata := data_after_encode md5 hroom
      rw [encode_of_le md5 hroom] at h hdata
      rw [ih h, hdata, addedBytes, addedByAll]
      simp only [List.append_assoc]

end Discnet.Network.Messages

namespace Discnet.Network.DataStream

open Lib Buffer Messages

variable {md5 : List Byte → Digest} {s : DataStream} {messages : MessageList} {packet : Packet}

theorem packets_of_finds {n : Nat} (h : Finds md5 s packet n) :
    ∃ t : DataStream, t.buffer.items = s.buffer.items.drop n ∧
      (process md5 s).1 = packet :: (process md5 t).1 := by
  obtain ⟨hpacket, hitems, hmore⟩ := h.pass
  refine ⟨(processPass md5 s).stream, hitems, ?_⟩
  by_cases hread : (processPass md5 s).readMore = true
  · rw [process_of_readMore md5 hread, hpacket]
    rfl
  · have hnil : (processPass md5 s).stream.buffer.items = [] := by
      rw [hitems]
      exact Classical.not_not.mp (mt hmore.mpr hread)
    have hpass := processPass_of_lt md5 (s := (processPass md5 s).stream) (by rw [hnil]; decide)
    have hempty : (process md5 (processPass md5 s).stream).1 = [] := by
      rw [process_of_not_readMore md5 (by simp [hpass]), hpass]
      rfl
    rw [process_of_not_readMore md5 hread, hpacket, hempty]
    rfl

theorem packets_of_rejects (h : Rejects md5 s) : (process md5 s).1 = [] := by
  have h4 : 4 ≤ s.buffer.items.length := Nat.le_trans (by decide) h.header
  obtain ⟨error, herror⟩ := h.error
  have hpacket : (processPass md5 s).packet = none := by
    rw [processPass_of_le md5 h.header, if_pos h.complete, packet_decodePass,
      resetRead_readInt32 h4, herror]
    rfl
  rw [process_of_not_readMore md5 (by simp [h.pass.1]), hpacket]
  rfl

/-- A packet whose checksum is another one than its own is rejected. -/
theorem rejects_of_checksum {checksum : UInt32} {trailing : List Byte} (hm : Deliverable messages)
    (h : s.buffer.items = packetBody messages ++ (wordBytes checksum ++ trailing))
    (hne : checksum ≠ lastPartDigest (md5 (packetBody messages))) : Rejects md5 s := by
  have hlt := Nat.lt_trans hm.2 (by decide : 2 ^ 31 < 2 ^ 32)
  have h10 := headerSize_le messages
  obtain ⟨hlen, hsize, hcomplete⟩ := complete_of_packetBody hm h
  have h4 : 4 ≤ PacketCodec.totalPacketSize messages := Nat.le_trans (by decide) h10
  have hvalid := validatePacket_eq md5 (readOffset_holding s.buffer.items)
    (by rw [data_holding]; omega) (by rw [data_holding, hsize]; exact h4)
    (by rw [data_holding, hsize]; exact hlen)
  have hbad : ¬ ChecksumOk md5 s.buffer.items := by
    rw [h, checksumOk_packetBody_iff md5 hlt]
    exact hne
  rw [data_holding, if_neg hbad] at hvalid
  constructor
  case header => exact Nat.le_trans h10 hlen
  case complete => exact hcomplete
  case error => exact ⟨_, by rw [decode_of_invalid md5 (readOffset_holding _) hvalid]⟩

/-- Of packets encoded one behind the other, a stream gives out all if and
only if no checksum shows what stands before its packet. -/
theorem packets_of_appended {batches : List MessageList} {before : List Byte}
    (hbatches : ∀ messages ∈ batches, Deliverable messages)
    (h : s.buffer.items = addedByAll md5 before batches) :
    (process md5 s).1 = batches.map Packet.mk ↔ ChecksumsAgree md5 before batches := by
  induction batches generalizing before s with
  | nil =>
    have hnil : s.buffer.items = [] := h
    have hpass := processPass_of_lt md5 (s := s) (by rw [hnil]; decide)
    rw [process_of_not_readMore md5 (by simp [hpass]), hpass]
    simp [ChecksumsAgree]
  | cons messages rest ih =>
    obtain ⟨hm, hrest⟩ := List.forall_mem_cons.mp hbatches
    by_cases hagrees : ChecksumAgrees md5 before messages
    · rw [addedByAll, added_eq_packetBytes_iff.mpr hagrees] at h
      obtain ⟨t, ht, hprocess⟩ := packets_of_finds (finds_packetBytes md5 hm h)
      rw [h, List.drop_left' (length_packetBytes md5 messages)] at ht
      rw [hprocess, List.map_cons, List.cons.injEq, ih hrest ht, ChecksumsAgree]
      simp [hagrees]
    · rw [addedByAll, List.append_assoc] at h
      have hrejects := rejects_of_checksum hm h hagrees
      rw [packets_of_rejects hrejects, ChecksumsAgree]
      simp [hagrees]

theorem countsFit_of_mem_process (h : packet ∈ (process md5 s).1) : CountsFit packet.messages := by
  rw [← map_returned] at h
  obtain ⟨found, hfound, rfl⟩ := List.mem_map.mp h
  obtain ⟨n, hfinds⟩ := finds_of_packet (packet_of_mem_returned md5 hfound)
  exact (valid_of_decode md5 hfinds.decode).2

/-- Encoding into a buffer that holds any bytes adds what it would write into
an empty one if and only if those bytes do not show in the checksum; and a
stream that receives a buffer filled by several encodings gives out all their
packets if and only if this holds of each and the counts fit their fields. -/
theorem appended_packets_iff (md5 : List Byte → Digest) :
    (∀ (b : Buffer) (messages : MessageList) (n : Nat),
      PacketCodec.totalPacketSize messages ≤ b.remainingBytes →
      PacketCodec.totalPacketSize messages ≤ n →
      (((PacketCodec.encode md5 messages).run b).2.data.drop b.writeOffset =
          ((PacketCodec.encode md5 messages).run (.new n)).2.data ↔
        ChecksumAgrees md5 b.data messages)) ∧
    ∀ (batches : List MessageList) (n bufferSize : Nat) (filled : Buffer),
      (∀ messages ∈ batches, PacketCodec.totalPacketSize messages < 2 ^ 31) →
      (encodeAll md5 batches).run (.new n) = (true, filled) →
      filled.data.length ≤ bufferSize →
      ((process md5 ((new bufferSize).handleReceive filled.data)).1 = batches.map Packet.mk ↔
        ChecksumsAgree md5 [] batches ∧ ∀ messages ∈ batches, CountsFit messages) := by
  refine ⟨fun b messages n => encode_independent_iff, ?_⟩
  intro batches n bufferSize filled hsizes hencode hroom
  have hdata := data_encodeAll hencode
  rw [data_new, List.nil_append] at hdata
  have hitems : ((new bufferSize).handleReceive filled.data).buffer.items =
      addedByAll md5 [] batches := by
    rw [items_handleReceive (by simpa using hroom), items_new, List.nil_append, hdata]
  constructor
  · intro hall
    have hcounts (messages) (hmem : messages ∈ batches) : CountsFit messages := by
      have hpacket : (⟨messages⟩ : Packet) ∈ batches.map Packet.mk := List.mem_map_of_mem hmem
      rw [← hall] at hpacket
      exact countsFit_of_mem_process hpacket
    exact ⟨(packets_of_appended (fun messages hmem => ⟨hcounts messages hmem,
      hsizes messages hmem⟩) hitems).mp hall, hcounts⟩
  · rintro ⟨hagree, hcounts⟩
    exact (packets_of_appended (fun messages hmem => ⟨hcounts messages hmem,
      hsizes messages hmem⟩) hitems).mpr hagree

/-- Behind `routeAndPayload` its packet gets the checksum that it gets alone. -/
def agreeing : MessageList := [.data ⟨9, [98, 98, 74, 87, 56, 19, 33, 33]⟩]

/-- The digests of the bytes that are hashed here. -/
def batchDigests (bytes : List Byte) : Digest :=
  if bytes = routeAndPayloadBytes.take 38 then routeAndPayloadDigest
  else if bytes = routeAndPayloadBytes ++ packetBody agreeing then
    #v[0x9f, 0xe8, 0x1f, 0x6c, 0x45, 0x1a, 0xb9, 0xe5,
      0x58, 0xb8, 0x17, 0xaf, 0x26, 0x1e, 0xa2, 0x1b]
  else if bytes = packetBody agreeing then
    #v[0xbb, 0x18, 0x6c, 0xdc, 0x4d, 0xb3, 0x5f, 0x54,
      0xf0, 0x65, 0x38, 0xc4, 0x26, 0x1e, 0xa2, 0x1b]
  else if bytes = routeAndPayloadBytes ++ noMessages.take 6 then
    #v[0x79, 0xfe, 0x28, 0x1e, 0x3f, 0x98, 0xc7, 0x95,
      0x64, 0x3d, 0x25, 0x8d, 0x13, 0xab, 0xf2, 0x0d]
  else if bytes = noMessages.take 6 then noMessagesDigest
  else emptyDigest

def filledWith (batches : List MessageList) : Buffer :=
  ((encodeAll batchDigests batches).run (Buffer.new 80)).2

theorem run_filledWith {batches : List MessageList}
    (h : ((encodeAll batchDigests batches).run (Buffer.new 80)).1 = true) :
    (encodeAll batchDigests batches).run (Buffer.new 80) = (true, filledWith batches) :=
  Prod.ext h rfl

/-- Of two packets that are appended to the first, both are encoded into the
same number of bytes as alone, but only one into the same bytes. -/
theorem appended_packets_iff_batches :
    ((PacketCodec.encode batchDigests agreeing).run (filledWith [routeAndPayload])).2.data.drop
          (filledWith [routeAndPayload]).writeOffset =
        ((PacketCodec.encode batchDigests agreeing).run (Buffer.new 28)).2.data ∧
      ((PacketCodec.encode batchDigests []).run (filledWith [routeAndPayload])).2.data.drop
          (filledWith [routeAndPayload]).writeOffset ≠
        ((PacketCodec.encode batchDigests []).run (Buffer.new 10)).2.data ∧
      (process batchDigests ((new 80).handleReceive
        (filledWith [routeAndPayload, agreeing]).data)).1 = [⟨routeAndPayload⟩, ⟨agreeing⟩] ∧
      (process batchDigests ((new 80).handleReceive
        (filledWith [routeAndPayload, []]).data)).1 ≠ [⟨routeAndPayload⟩, ⟨[]⟩] := by
  obtain ⟨hencode, hstream⟩ := appended_packets_iff batchDigests
  have hagreeing := hencode (filledWith [routeAndPayload]) agreeing 28 (by decide +kernel)
    (by decide +kernel)
  have hempty := hencode (filledWith [routeAndPayload]) [] 10 (by decide +kernel)
    (by decide +kernel)
  have hboth := hstream [routeAndPayload, agreeing] 80 80 (filledWith [routeAndPayload, agreeing])
    (by decide +kernel) (run_filledWith (by decide +kernel)) (by decide +kernel)
  have hlost := hstream [routeAndPayload, []] 80 80 (filledWith [routeAndPayload, []])
    (by decide +kernel) (run_filledWith (by decide +kernel)) (by decide +kernel)
  have hagree : ChecksumAgrees batchDigests
      ([] ++ packetBytes batchDigests routeAndPayload) agreeing := by decide +kernel
  have hdiffers : ¬ ChecksumAgrees batchDigests
      ([] ++ packetBytes batchDigests routeAndPayload) [] := by decide +kernel
  have hcounts : ∀ messages ∈ [routeAndPayload, agreeing], CountsFit messages := by decide
  refine ⟨hagreeing.mpr (by decide +kernel), fun h => ?_, hboth.mpr ?_, fun h => ?_⟩
  · have hagrees := hempty.mp h
    revert hagrees
    decide +kernel
  · exact ⟨⟨checksumAgrees_nil _ _, hagree, trivial⟩, hcounts⟩
  · exact hdiffers (hlost.mp h).1.2.1

def twoPacketsDigest : Digest :=
  #v[0x51, 0xb2, 0xac, 0xf6, 0xb6, 0xc4, 0x89, 0x6c, 0x32, 0x4a, 0x64, 0xbb, 0x17, 0xb6, 0xb2, 0x10]

/-- The digests of the bytes that are hashed here. -/
def appendedDigests (bytes : List Byte) : Digest :=
  if bytes = noMessages.take 6 then noMessagesDigest else twoPacketsDigest

/-- The second of two empty packets gets another checksum than the first, and
only the first is returned. -/
theorem second_packet_lost :
    ((PacketCodec.encode appendedDigests []).run (Buffer.new 10)).2.data = noMessages ∧
      ((encodeAll appendedDigests [[], []]).run (Buffer.new 20)).1 = true ∧
      ((encodeAll appendedDigests [[], []]).run (Buffer.new 20)).2.data =
        noMessages ++ [0, 0, 0, 10, 0, 0, 0x10, 0xb2, 0xb6, 0x17] ∧
      (process appendedDigests ((new 20).handleReceive
        ((encodeAll appendedDigests [[], []]).run (Buffer.new 20)).2.data)).1 ≠ [{}, {}] := by
  refine ⟨by decide +kernel, by decide +kernel, by decide +kernel, ?_⟩
  have hsize : Deliverable [] := ⟨by decide, by decide⟩
  have hall := @packets_of_appended appendedDigests ((new 20).handleReceive
    ((encodeAll appendedDigests [[], []]).run (Buffer.new 20)).2.data) [[], []] []
    (by simp [hsize]) (by decide +kernel)
  intro hprocess
  have hchecksum := (hall.mp hprocess).2.1
  revert hchecksum
  decide +kernel

end Discnet.Network.DataStream
