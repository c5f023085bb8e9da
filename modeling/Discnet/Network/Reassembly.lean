import Discnet.Network.Passes
import Discnet.Lib.Framing

/-!
# Stream reassembly

A pass over a stream that starts with a complete packet takes exactly that
packet off, and a pass over less than a packet leaves everything as it is.
This holds as long as the packets are shorter than 2^31 bytes: `process`
reads the size in front of a packet as a signed number, and waits forever
for one that is longer.
-/

namespace Discnet.Network

open Lib Buffer Messages

namespace DataStream

section
variable (md5 : List Byte → Digest)

/-- A packet a stream can take: its counts fit their fields, and its size is
a positive signed number. -/
def Deliverable (messages : MessageList) : Prop :=
  CountsFit messages ∧ PacketCodec.totalPacketSize messages < 2 ^ 31

variable {s : DataStream} {messages : MessageList} (hm : Deliverable messages)
include hm

/-- In front of a packet, with whatever checksum, all its bytes are there. -/
theorem complete_of_packetBody {checksum : UInt32} {trailing : List Byte}
    (h : s.buffer.items = packetBody messages ++ (wordBytes checksum ++ trailing)) :
    PacketCodec.totalPacketSize messages ≤ s.buffer.items.length ∧
      declaredSize s.buffer.items = PacketCodec.totalPacketSize messages ∧
      signedSize s.buffer.items ≤ s.buffer.items.length := by
  have hlt := Nat.lt_trans hm.2 (by decide : 2 ^ 31 < 2 ^ 32)
  have hlen : PacketCodec.totalPacketSize messages ≤ s.buffer.items.length := by
    rw [h, ← length_packetBody]
    simp only [List.length_append, length_wordBytes, size_uint32, PacketCodec.checksumSize]
    omega
  have hsize : declaredSize s.buffer.items = PacketCodec.totalPacketSize messages := by
    rw [h, declaredSize_packetBody hlt]
  refine ⟨hlen, hsize, ?_⟩
  rwa [signedSize_of_lt (by rw [hsize]; exact hm.2), hsize]

/-- In front of a packet, the pass finds just that. -/
theorem finds_packetBytes (h : s.buffer.items = packetBytes md5 messages ++ rest) :
    Finds md5 s { messages } (PacketCodec.totalPacketSize messages) := by
  have hlt := Nat.lt_trans hm.2 (by decide : 2 ^ 31 < 2 ^ 32)
  have h10 := headerSize_le messages
  have hdecode := decode_packetBytes md5 hm.1 hlt (readOffset_holding s.buffer.items)
    ((data_holding _).trans h)
  rw [packetBytes, List.append_assoc, checksumBytes] at h
  obtain ⟨hlen, -, hcomplete⟩ := complete_of_packetBody hm h
  constructor
  · exact Nat.le_trans h10 hlen
  · exact hcomplete
  · exact hdecode
  · exact Nat.lt_of_lt_of_le (by decide) h10
  · exact hlen

theorem processPass_incomplete (h : s.buffer.items ++ future = packetBytes md5 messages ++ more)
    (hlt : s.buffer.items.length < PacketCodec.totalPacketSize messages) :
    processPass md5 s = ⟨none, s, false⟩ := by
  rcases Nat.lt_or_ge s.buffer.items.length PacketCodec.headerSize with h10 | h10
  · exact processPass_of_lt md5 h10
  · have hsize : declaredSize s.buffer.items = PacketCodec.totalPacketSize messages := by
      rw [← declaredSize_packetBytes md5 (Nat.lt_trans hm.2 (by decide)) more, ← h,
        declaredSize_append (Nat.le_trans (by decide) h10)]
    rw [processPass_of_le md5 h10, signedSize, hsize, if_pos hm.2, if_neg (Nat.not_le.mpr hlt)]

end

-- ---------------------------------------------------------------------------
-- Draining
-- ---------------------------------------------------------------------------

/-- The bytes of packets, one after the other. -/
def packetsBytes (md5 : List Byte → Digest) (packets : List Packet) : List Byte :=
  packets.flatMap fun packet => packetBytes md5 packet.messages

section
variable (md5 : List Byte → Digest) {todo : List Packet}

theorem length_packetBytes_pos (messages : MessageList) :
    0 < (packetBytes md5 messages).length := by
  rw [length_packetBytes]
  exact Nat.lt_of_lt_of_le (by decide) (headerSize_le messages)

/-- Where what is pending and what is to come make up packets, a pass either
finds less than a packet or takes the first one. -/
theorem processPass_cases {s : DataStream}
    (hgood : ∀ packet ∈ todo, Deliverable packet.messages)
    (h : s.buffer.items ++ future = packetsBytes md5 todo) :
    (processPass md5 s = ⟨none, s, false⟩ ∧ ∀ packet packets, todo = packet :: packets →
      s.buffer.items.length < (packetBytes md5 packet.messages).length) ∨
    ∃ packet packets s' more, todo = packet :: packets ∧
      processPass md5 s = ⟨some packet, s', more⟩ ∧
      s'.buffer.items ++ future = packetsBytes md5 packets ∧
      (more = false → s'.buffer.items = []) := by
  cases todo with
  | nil =>
    have hnil : s.buffer.items = [] := (List.append_eq_nil_iff.mp h).1
    exact .inl ⟨processPass_of_lt md5 (by rw [hnil]; decide), by simp⟩
  | cons packet packets =>
    have hm := hgood packet List.mem_cons_self
    rw [packetsBytes, List.flatMap_cons, ← packetsBytes] at h
    rcases Nat.lt_or_ge s.buffer.items.length (packetBytes md5 packet.messages).length
      with hlt | hge
    · left
      refine ⟨processPass_incomplete md5 hm h (by rwa [← length_packetBytes md5]), ?_⟩
      rintro _ _ ⟨⟩
      exact hlt
    · right
      obtain ⟨rest, hitems, hrest⟩ : ∃ rest,
          s.buffer.items = packetBytes md5 packet.messages ++ rest ∧
            packetsBytes md5 packets = rest ++ future := by
        have hprefix := List.prefix_of_prefix_length_le ⟨_, rfl⟩ ⟨future, h⟩ hge
        obtain ⟨rest, hrest⟩ := hprefix
        refine ⟨rest, hrest.symm, ?_⟩
        rwa [← hrest, List.append_assoc, List.append_cancel_left_eq, eq_comm] at h
      obtain ⟨hpacket, hleft, hmore⟩ := (finds_packetBytes md5 hm hitems).pass
      rw [hitems, List.drop_left' (length_packetBytes md5 _)] at hleft hmore
      refine ⟨packet, packets, _, _, rfl, by rw [← hpacket], by rw [hleft, hrest], ?_⟩
      intro hlast
      rw [hleft]
      by_contra hne
      exact absurd (hlast.symm.trans (hmore.mpr hne)) (by decide)

/-- Where what is pending and what is to come make up packets, `process`
takes the complete ones off the front. -/
theorem process_spec (s : DataStream) (todo : List Packet) (future : List Byte)
    (hgood : ∀ packet ∈ todo, Deliverable packet.messages)
    (h : s.buffer.items ++ future = packetsBytes md5 todo) :
    ∃ rest, todo = (process md5 s).1 ++ rest ∧
      (process md5 s).2.buffer.items ++ future = packetsBytes md5 rest ∧
      ∀ packet packets, rest = packet :: packets →
        (process md5 s).2.buffer.items.length < (packetBytes md5 packet.messages).length := by
  induction s using process.induct md5 generalizing todo with
  | case1 s pass hmore ih =>
    rw [process_of_readMore md5 hmore]
    rcases processPass_cases md5 hgood h with
      ⟨hpass, -⟩ | ⟨packet, packets, s', more, rfl, hpass, hs', -⟩
    · simp [pass, hpass] at hmore
    · simp only [pass, hpass] at ih ⊢
      obtain ⟨rest, hdone, hrest⟩ := ih packets
        (fun p hp => hgood p (List.mem_cons_of_mem _ hp)) hs'
      exact ⟨rest, by rw [hdone]; rfl, hrest⟩
  | case2 s pass hmore =>
    rw [process_of_not_readMore md5 hmore]
    rcases processPass_cases md5 hgood h with
      ⟨hpass, hshort⟩ | ⟨packet, packets, s', more, rfl, hpass, hs', hnil⟩
    · rw [hpass]
      exact ⟨todo, rfl, h, hshort⟩
    · simp only [pass, hpass, Bool.not_eq_true] at hmore
      rw [hpass]
      refine ⟨packets, rfl, hs', ?_⟩
      intro next _ _
      simp only [hnil hmore, List.length_nil]
      exact length_packetBytes_pos md5 _

end

-- ---------------------------------------------------------------------------
-- Any cuts, any interleaving
-- ---------------------------------------------------------------------------

@[simp] theorem items_new (bufferSize : Nat) : (new bufferSize).buffer.items = [] :=
  GrowVector.items_resize_of_le (Nat.zero_le _)

@[simp] theorem capacity_new (bufferSize : Nat) : (new bufferSize).buffer.capacity = bufferSize :=
  GrowVector.capacity_resize_of_le (Nat.zero_le _)

theorem process_new (md5 : List Byte → Digest) (bufferSize : Nat) :
    process md5 (new bufferSize) = ([], new bufferSize) := by
  have hpass : processPass md5 (new bufferSize) = ⟨none, new bufferSize, false⟩ :=
    processPass_of_lt md5 (by rw [items_new]; decide)
  rw [process_of_not_readMore md5 (by simp [hpass]), hpass]
  rfl

theorem items_handleReceive {s : DataStream} {data : List Byte}
    (h : data.length + s.buffer.items.length ≤ s.buffer.capacity) :
    (handleReceive data s).buffer.items = s.buffer.items ++ data := by
  rw [handleReceive, if_neg (Nat.not_lt.mpr h)]
  exact GrowVector.items_pushAll _ _

theorem capacity_handleReceive {s : DataStream} {data : List Byte}
    (h : data.length + s.buffer.items.length ≤ s.buffer.capacity) :
    (handleReceive data s).buffer.capacity = s.buffer.capacity := by
  rw [handleReceive, if_neg (Nat.not_lt.mpr h)]
  exact GrowVector.capacity_pushAll_of_le (by omega)

/-- A chunk that does not fit goes behind a block of zeros. -/
theorem items_handleReceive_of_gt {s : DataStream} {data : List Byte}
    (h : data.length + s.buffer.items.length > s.buffer.capacity) :
    (handleReceive data s).buffer.items =
      List.replicate ((data.length + s.buffer.items.length) * 2) 0 ++ (s.buffer.items ++ data) := by
  rw [handleReceive, if_pos h]
  simp [GrowVector.replicate]

/-- What is received is appended if and only if it fits the allocation. -/
theorem handleReceive_appends_iff (s : DataStream) (data : List Byte) :
    (handleReceive data s).buffer.items = s.buffer.items ++ data ↔
      data.length + s.buffer.items.length ≤ s.buffer.capacity := by
  constructor
  · intro h
    by_contra hfull
    rw [items_handleReceive_of_gt (Nat.not_le.mp hfull)] at h
    have hlength := congrArg List.length h
    simp only [List.length_append, List.length_replicate] at hlength
    omega
  · exact items_handleReceive

theorem chunk_behind_zeros :
    ((new 4).handleReceive [1, 2, 3, 4, 5]).buffer.items =
        [0, 0, 0, 0, 0, 0, 0, 0, 0, 0, 1, 2, 3, 4, 5] ∧
      ((new 4).handleReceive [1, 2, 3, 4, 5]).buffer.items ≠
        (new 4).buffer.items ++ [1, 2, 3, 4, 5] := by
  decide +kernel

/-- A stream, as something that is fed bytes and gives out packets. -/
def receiver (md5 : List Byte → Digest) : Receiver DataStream Packet Byte where
  pending s := s.buffer.items
  feed := handleReceive
  drain := process md5

/-- As long as they fit the allocation, pieces of deliverable packets are
put together again. -/
theorem receiver_cuts (md5 : List Byte → Digest) :
    (receiver md5).Cuts (fun packet => packetBytes md5 packet.messages)
      (fun packet => Deliverable packet.messages) fun s => s.buffer.capacity where
  pending_feed _ _ h := items_handleReceive h
  pending_drain := process_spec md5

/-- Some fresh buffer holds these bytes once the messages were encoded into
it. -/
def EncodesTo (md5 : List Byte → Digest) (messages : MessageList) (bytes : List Byte) : Prop :=
  ∃ n buffer, (PacketCodec.encode md5 messages).run (.new n) = (true, buffer) ∧
    buffer.data = bytes

theorem flatten_of_encodesTo (h : List.Forall₂ (EncodesTo md5) packets parts) :
    parts.flatten = packetsBytes md5 (packets.map Packet.mk) := by
  induction h with
  | nil => rfl
  | cons hd _ ih =>
    obtain ⟨n, buffer, hencode, rfl⟩ := hd
    rw [List.flatten_cons, ih, (data_encode_new md5 hencode).2]
    rfl

/-- However the encodings of some packets are cut into chunks, and whenever
they are processed in between: if each chunk fits the allocation and each
packet is shorter than 2^31 bytes, exactly the packets come out, and nothing
is left. -/
theorem reassembly (md5 : List Byte → Digest) (packets : List MessageList)
    (parts : List (List Byte)) (hencoded : List.Forall₂ (EncodesTo md5) packets parts)
    (hfit : ∀ messages ∈ packets, CountsFit messages)
    (hsize : ∀ messages ∈ packets, PacketCodec.totalPacketSize messages < 2 ^ 31)
    (bufferSize : Nat) (ops : List (Receiver.Op Byte)) (hops : Receiver.fed ops = parts.flatten)
    (hroom : (receiver md5).Fits (fun s => s.buffer.capacity) (new bufferSize) ops) :
    ((receiver md5).run (new bufferSize) (ops ++ [.drain])).1 = packets.map Packet.mk ∧
      ((receiver md5).run (new bufferSize) (ops ++ [.drain])).2.buffer.items = [] := by
  refine (receiver_cuts md5).run_drain ?_ hroom ?_
  · intro packet h
    obtain ⟨messages, hm, rfl⟩ := List.mem_map.mp h
    exact ⟨hfit messages hm, hsize messages hm⟩
  · show (new bufferSize).buffer.items ++ Receiver.fed ops = _
    rw [items_new, List.nil_append, hops]
    exact flatten_of_encodesTo hencoded

theorem reassembly_two_pieces :
    ((receiver fun _ => Vector.replicate 16 0).run (new 22)
      ([.feed [0, 0, 0, 22, 0, 1, 0, 0, 0, 12], .feed [0, 2, 0, 7, 0, 2, 1, 2, 0, 0, 0, 0]] ++
        [.drain])).1 = [⟨[.data ⟨7, [1, 2]⟩]⟩] ∧
    ((receiver fun _ => Vector.replicate 16 0).run (new 22)
      ([.feed [0, 0, 0, 22, 0, 1, 0, 0, 0, 12], .feed [0, 2, 0, 7, 0, 2, 1, 2, 0, 0, 0, 0]] ++
        [.drain])).2.buffer.items = [] :=
  reassembly _ [[.data ⟨7, [1, 2]⟩]]
    [[0, 0, 0, 22, 0, 1, 0, 0, 0, 12, 0, 2, 0, 7, 0, 2, 1, 2, 0, 0, 0, 0]]
    (.cons ⟨22, _, rfl, by decide⟩ .nil) (by decide) (by decide) 22 _ rfl
    ⟨by decide, by decide, trivial⟩

-- ---------------------------------------------------------------------------
-- Packets that are too long
-- ---------------------------------------------------------------------------

/-- A pass never finds a packet of 2^31 bytes or more complete. -/
theorem processPass_long {md5 : List Byte → Digest} {s : DataStream} {messages : MessageList}
    (hl : 2 ^ 31 ≤ PacketCodec.totalPacketSize messages)
    (hu : PacketCodec.totalPacketSize messages < 2 ^ 32)
    (h : s.buffer.items ++ future = packetBytes md5 messages ++ more)
    (hlt : s.buffer.items.length < 2 ^ 63) : processPass md5 s = ⟨none, s, false⟩ := by
  rcases Nat.lt_or_ge s.buffer.items.length PacketCodec.headerSize with h10 | h10
  · exact processPass_of_lt md5 h10
  · have hsize : declaredSize s.buffer.items = PacketCodec.totalPacketSize messages := by
      rw [← declaredSize_packetBytes md5 hu more, ← h,
        declaredSize_append (Nat.le_trans (by decide) h10)]
    rw [processPass_of_le md5 h10, signedSize, hsize, if_neg (Nat.not_lt.mpr hl), if_neg (by omega)]

/-- Such a packet keeps the stream from giving out anything, in every run. -/
theorem run_long {md5 : List Byte → Digest} {messages : MessageList}
    (hl : 2 ^ 31 ≤ PacketCodec.totalPacketSize messages)
    (hu : PacketCodec.totalPacketSize messages < 2 ^ 32) {s : DataStream}
    (h : s.buffer.items ++ Receiver.fed ops ++ future = packetBytes md5 messages ++ more)
    (hlt : (s.buffer.items ++ Receiver.fed ops).length < 2 ^ 63)
    (hroom : (receiver md5).Fits (fun s => s.buffer.capacity) s ops) :
    ((receiver md5).run s ops).1 = [] := by
  induction ops generalizing s with
  | nil => rfl
  | cons op ops ih =>
    cases op with
    | feed data =>
      have hitems : ((receiver md5).feed data s).buffer.items = s.buffer.items ++ data :=
        items_handleReceive hroom.1
      refine ih ?_ ?_ hroom.2
      · rw [hitems, ← h]
        simp only [Receiver.fed, List.append_assoc]
      · rw [hitems]
        simpa only [Receiver.fed, List.append_assoc] using hlt
    | drain =>
      have hpass : processPass md5 s = ⟨none, s, false⟩ := by
        refine processPass_long hl hu ((List.append_assoc _ _ _).symm.trans h) ?_
        rw [List.length_append] at hlt
        omega
      have hdrain : (receiver md5).drain s = ([], s) := by
        show process md5 s = _
        rw [process_of_not_readMore md5 (by simp [hpass]), hpass]
        rfl
      have hrun : ((receiver md5).run s (.drain :: ops)).1 = ((receiver md5).run s ops).1 := by
        simp only [Receiver.run, hdrain, List.nil_append]
      simp only [Receiver.Fits, hdrain] at hroom
      rw [hrun]
      exact ih h hlt hroom

/-- `count` data messages of `length` bytes each. -/
def dataMessages (count length : Nat) : MessageList :=
  List.replicate count (.data ⟨0, List.replicate length 0⟩)

theorem countsFit_dataMessages (hc : count ≤ maxCount) (hl : length ≤ maxCount) :
    CountsFit (dataMessages count length) := by
  refine ⟨by rwa [dataMessages, List.length_replicate], fun message h => ?_⟩
  obtain rfl := List.eq_of_mem_replicate h
  rwa [Message.CountsFit, List.length_replicate]

theorem totalPacketSize_dataMessages (count length : Nat) :
    PacketCodec.totalPacketSize (dataMessages count length) = 10 + count * (10 + length) := by
  have hm : visitMessageSize (.data ⟨0, List.replicate length 0⟩) = 10 + length := by
    rw [visitMessageSize, DataMessageCodec.encodedSize, List.length_replicate, ← Nat.add_assoc]
    rfl
  rw [PacketCodec.totalPacketSize, dataMessages, List.map_replicate, hm, List.sum_replicate_nat]
  rfl

/-- A stream with just the room for it receives such a packet in one piece,
and gives out nothing. -/
theorem run_long_piece {md5 : List Byte → Digest} {messages : MessageList}
    (hl : 2 ^ 31 ≤ PacketCodec.totalPacketSize messages)
    (hu : PacketCodec.totalPacketSize messages < 2 ^ 32) :
    (receiver md5).Fits (fun s => s.buffer.capacity) (new (packetBytes md5 messages).length)
        [.feed (packetBytes md5 messages)] ∧
      ((receiver md5).run (new (packetBytes md5 messages).length)
        ([.feed (packetBytes md5 messages)] ++ [.drain])).1 = [] := by
  have hroom : (packetBytes md5 messages).length +
      (new (packetBytes md5 messages).length).buffer.items.length ≤
        (new (packetBytes md5 messages).length).buffer.capacity := by
    rw [items_new, capacity_new, List.length_nil, Nat.add_zero]
  have hfed : (new (packetBytes md5 messages).length).buffer.items ++
      Receiver.fed [.feed (packetBytes md5 messages), .drain] ++ [] =
        packetBytes md5 messages ++ [] := by
    simp [Receiver.fed]
  have hlt : ((new (packetBytes md5 messages).length).buffer.items ++
      Receiver.fed [.feed (packetBytes md5 messages), .drain]).length < 2 ^ 63 := by
    rw [← List.append_nil (_ ++ _), hfed, List.append_nil, length_packetBytes]
    omega
  exact ⟨⟨hroom, trivial⟩, run_long hl hu hfed hlt ⟨hroom, trivial⟩⟩

/-- 33000 data messages of 65535 bytes each are within every count, but more
than 2^31 bytes. Received in one piece by a stream with the room for them,
they are not delivered. -/
theorem dataMessages_not_delivered : CountsFit (dataMessages 33000 65535) ∧
    ¬ ∃ md5 : List Byte → Digest, ∀ bytes, EncodesTo md5 (dataMessages 33000 65535) bytes →
      (receiver md5).Fits (fun s => s.buffer.capacity) (new bytes.length) [.feed bytes] →
      ((receiver md5).run (new bytes.length) ([.feed bytes] ++ [.drain])).1 =
        [⟨dataMessages 33000 65535⟩] := by
  have hsize := totalPacketSize_dataMessages 33000 65535
  have hfit : CountsFit (dataMessages 33000 65535) :=
    countsFit_dataMessages (by decide) (Nat.le_refl maxCount)
  generalize dataMessages 33000 65535 = messages at hsize hfit ⊢
  refine ⟨hfit, ?_⟩
  rintro ⟨md5, hdelivered⟩
  have hencode := encode_new_of_le md5 (Nat.le_refl (PacketCodec.totalPacketSize messages))
  obtain ⟨hfits, hnothing⟩ := @run_long_piece md5 messages (by omega) (by omega)
  have hmessages := hdelivered (packetBytes md5 messages)
    ⟨_, _, hencode, (data_encode_new md5 hencode).2⟩ hfits
  rw [hnothing] at hmessages
  contradiction

end DataStream

end Discnet.Network
