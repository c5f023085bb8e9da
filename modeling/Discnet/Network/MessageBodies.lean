import Discnet.Network.PacketImage

/-!
# What the message decoders read

Once its first four bytes are there, no body fails to decode. A discovery
message then takes what is missing for zeros, and a data message whose
payload would take all that is left comes out empty.
-/

namespace Discnet.Network.Messages

open Lib Buffer Walk

-- ---------------------------------------------------------------------------
-- Discovery messages
-- ---------------------------------------------------------------------------

/-- The number of bytes a discovery message is read from. -/
def bodySize (message : DiscoveryMessage) : Nat :=
  4 + (message.nodes.map fun node => 8 + 2 * node.jumps.length).sum

/-- Decoding gives what is there, or an error where that is not enough. -/
structure DiscoveryExact (b : Buffer) : Prop where
  read : ∀ message rest, Scanner.runOn DiscoveryMessageCodec.decode b = (.ok message, rest) →
    bodySize message ≤ b.unread.length ∧ rest = b.skip (bodySize message) ∧
      b.unread.take (bodySize message) = discoveryBytes message
  short : walkDiscovery.run b.unread = none →
    ∃ error rest, Scanner.runOn DiscoveryMessageCodec.decode b = (.error error, rest)

theorem length_discoveryBytes_eq (message : DiscoveryMessage) :
    (discoveryBytes message).length = bodySize message := by
  have hnodes : (message.nodes.flatMap nodeBytes).length =
      (message.nodes.map fun node => 8 + 2 * node.jumps.length).sum := by
    simp [List.length_flatMap, length_nodeBytes, Nat.mul_comm]
  simp only [discoveryBytes, List.length_append, length_wordBytes, size_uint16, hnodes, bodySize]
  omega

theorem total_node (i : Nat) : Scanner.Total (DiscoveryMessageCodec.decodeNode i) :=
  (Scanner.Total.lift _).bind fun _ => (Scanner.Total.lift _).bind fun _ =>
    (Scanner.Total.lift _).bind fun _ =>
      (Scanner.Total.collect fun _ => (Scanner.Total.lift _).bind fun _ => .pure _).bind
        fun _ => .pure _

theorem discovery_ok {b : Buffer} (h : 4 ≤ b.unread.length) :
    ∃ message rest, Scanner.runOn DiscoveryMessageCodec.decode b = (.ok message, rest) := by
  have hleft := not_bytesLeftToRead_lt
    (n := DiscoveryMessageCodec.nodeIdSize + DiscoveryMessageCodec.nodesArraySize) h
  rw [DiscoveryMessageCodec.decode, Scanner.runOn_bind_ok (Scanner.runOn_get b), if_neg hleft]
  exact (Scanner.Total.lift _).bind (fun _ => (Scanner.Total.lift _).bind fun _ =>
    (Scanner.Total.collect total_node).bind fun _ => .pure _) b

theorem discovery_error {b : Buffer} (h : b.unread.length < 4) :
    ∃ error, Scanner.runOn DiscoveryMessageCodec.decode b = (.error error, b) :=
  ⟨_, Scanner.runOn_check_of (bytesLeftToRead_lt h)⟩

theorem discovery_of_walk {b : Buffer} {rest : List Byte}
    (h : walkDiscovery.run b.unread = some ((), rest)) :
    ∃ message, b.unread = discoveryBytes message ++ rest ∧
      Scanner.runOn DiscoveryMessageCodec.decode b = (.ok message, b.skip (bodySize message)) := by
  obtain ⟨_, ⟨message, hm, rfl⟩, hbytes⟩ := (takes_discovery _ _ _).mp h
  refine ⟨message, hbytes, ?_⟩
  rw [← length_discoveryBytes_eq]
  exact readsAnywhere_discovery message hm b rest hbytes

theorem discoveryExact_iff (b : Buffer) :
    DiscoveryExact b ↔ b.unread.length < 4 ∨ (walkDiscovery.run b.unread).isSome := by
  constructor
  · intro h
    rcases Nat.lt_or_ge b.unread.length 4 with h4 | h4
    · exact .inl h4
    · right
      obtain ⟨message, rest, hdecode⟩ := discovery_ok h4
      obtain ⟨-, -, hbytes⟩ := h.read message rest hdecode
      have hwalk : walkDiscovery.run b.unread = some ((), b.unread.drop (bodySize message)) := by
        refine (takes_discovery _ _ _).mpr ⟨_, ⟨message, countsFit_discovery hdecode, rfl⟩, ?_⟩
        rw [← hbytes, List.take_append_drop]
      rw [hwalk]
      rfl
  · rintro (h4 | hsome)
    · obtain ⟨error, herror⟩ := discovery_error h4
      refine ⟨fun message rest hdecode => ?_, fun _ => ⟨error, b, herror⟩⟩
      rw [herror] at hdecode
      simp at hdecode
    · obtain ⟨⟨⟨⟩, left⟩, hwalk⟩ := Option.isSome_iff_exists.mp hsome
      obtain ⟨message, hbytes, hdecode⟩ := discovery_of_walk hwalk
      have hlen := length_discoveryBytes_eq message
      refine ⟨fun other rest hother => ?_, fun hnone => ?_⟩
      · rw [hdecode] at hother
        obtain ⟨⟨⟩, rfl⟩ := Prod.mk.inj hother
        refine ⟨?_, rfl, ?_⟩
        · rw [hbytes, List.length_append]
          omega
        · rw [hbytes, List.take_left' hlen]
      · rw [hwalk] at hnone
        contradiction

-- ---------------------------------------------------------------------------
-- Data messages
-- ---------------------------------------------------------------------------

/-- The number of payload bytes a data message announces. -/
def announcedLength (bytes : List Byte) : Nat :=
  (Word.ofBigEndian ((bytes.drop 2).take 2) : UInt16).toNat

structure DataExact (b : Buffer) : Prop where
  read : ∀ message rest, Scanner.runOn DataMessageCodec.decode b = (.ok message, rest) →
    message.buffer.length = announcedLength b.unread ∧
      message.buffer = (b.unread.drop 4).take (announcedLength b.unread)
  short : b.unread.length < 4 + announcedLength b.unread →
    ∃ error rest, Scanner.runOn DataMessageCodec.decode b = (.error error, rest)

theorem runOn_readUInt16 {b : Buffer} (h : 2 ≤ b.unread.length) :
    Scanner.runOn (liftM readUInt16 : DecodeM UInt16) b =
      (.ok (Word.ofBytes (b.unread.take 2)), b.skip 2) := by
  rw [Scanner.runOn_lift, readUInt16, read_of_le (by decide) h]
  rfl

theorem networkToNative_take_two {bytes : List Byte} (h : 2 ≤ bytes.length) :
    networkToNative (Word.ofBytes (bytes.take 2) : UInt16) = Word.ofBigEndian (bytes.take 2) :=
  networkToNative_ofBytes (List.length_take_of_le h)

/-- The payload is what `readBuffer` gives behind the first four bytes. -/
theorem data_eq {b : Buffer} (h : 4 ≤ b.unread.length) :
    Scanner.runOn DataMessageCodec.decode b =
      (.ok ⟨Word.ofBigEndian (b.unread.take 2),
        ((readBuffer (announcedLength b.unread)).run (b.skip 4)).1⟩,
      ((readBuffer (announcedLength b.unread)).run (b.skip 4)).2) := by
  have hrest : 2 ≤ (b.skip 2).unread.length := by
    rw [unread_skip, List.length_drop]
    omega
  have hskip : (b.skip 2).skip 2 = b.skip 4 := Cursor.skip_skip 2 2 b
  have hleft := not_bytesLeftToRead_lt (n := DataMessageCodec.dataMessageHeaderSize) h
  rw [DataMessageCodec.decode, Scanner.runOn_bind_ok (Scanner.runOn_get b), if_neg hleft,
    Scanner.runOn_bind_ok (runOn_readUInt16 (Nat.le_trans (by decide) h)),
    Scanner.runOn_bind_ok (runOn_readUInt16 hrest), networkToNative_take_two hrest,
    networkToNative_take_two (Nat.le_trans (by decide) h), unread_skip, hskip]
  exact Scanner.runOn_bind_ok (Scanner.runOn_lift _ _)

theorem data_error {b : Buffer} (h : b.unread.length < 4) :
    ∃ error, Scanner.runOn DataMessageCodec.decode b = (.error error, b) :=
  ⟨_, Scanner.runOn_check_of (bytesLeftToRead_lt h)⟩

theorem dataExact_iff (b : Buffer) :
    DataExact b ↔ b.unread.length < 4 ∨ announcedLength b.unread = 0 ∨
      4 + announcedLength b.unread < b.unread.length := by
  rcases Nat.lt_or_ge b.unread.length 4 with h4 | h4
  · obtain ⟨error, herror⟩ := data_error h4
    refine ⟨fun _ => .inl h4, fun _ =>
      ⟨fun message rest hdecode => ?_, fun _ => ⟨error, b, herror⟩⟩⟩
    rw [herror] at hdecode
    simp at hdecode
  have hdecode := data_eq h4
  have hrest : (b.skip 4).unread = b.unread.drop 4 := unread_skip 4 b
  constructor
  · intro h
    right
    rcases Nat.lt_or_ge (announcedLength b.unread) (b.unread.drop 4).length with hlt | hle
    · right
      rw [List.length_drop] at hlt
      omega
    · -- nothing was read, so nothing was announced
      left
      have hlen := (h.read _ _ hdecode).1
      rw [readBuffer_of_le (by rw [hrest]; exact hle)] at hlen
      exact hlen.symm
  · intro h
    refine ⟨fun message rest hmessage => ?_, fun hshort => by omega⟩
    rw [hdecode] at hmessage
    obtain ⟨⟨⟩, -⟩ := Prod.mk.inj hmessage
    dsimp only
    rcases Nat.lt_or_ge (announcedLength b.unread) (b.unread.drop 4).length with hlt | hle
    · rw [readBuffer_of_lt (by rw [hrest]; exact hlt), hrest]
      exact ⟨List.length_take_of_le (Nat.le_of_lt hlt), rfl⟩
    · have hzero : announcedLength b.unread = 0 := by
        rw [List.length_drop] at hle
        omega
      rw [readBuffer_of_le (by rw [hrest]; exact hle), hzero]
      exact ⟨rfl, rfl⟩

/-- From any buffer a discovery message is read exactly if and only if all
that its counts announce is there or not even they are, and a data message
if and only if something follows its payload or that is empty. -/
theorem decodes_exactly_iff (b : Buffer) :
    (DiscoveryExact b ↔ b.unread.length < 4 ∨ (walkDiscovery.run b.unread).isSome) ∧
      (DataExact b ↔ b.unread.length < 4 ∨ announcedLength b.unread = 0 ∨
        4 + announcedLength b.unread < b.unread.length) :=
  ⟨discoveryExact_iff b, dataExact_iff b⟩

/-- Five bytes of a payload end the buffer, and the message comes out empty. -/
theorem payload_at_the_end_dropped :
    ¬ DataExact (.holding [0, 1, 0, 5, 1, 2, 3, 4, 5]) ∧
      ¬ DiscoveryExact (.holding [0, 1, 0, 2]) := by
  constructor
  · rw [dataExact_iff, unread_holding]
    decide
  · rw [discoveryExact_iff, unread_holding]
    decide

end Discnet.Network.Messages
