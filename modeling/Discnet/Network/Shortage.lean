import Discnet.Network.MessageBodies
import Discnet.Lib.Tracking

/-!
# Where decoding gives up

Decoding asks for missing bytes in front of a header and of a body only. In
between, an integer that is cut off counts as 0 and stays unread, and so does
a payload behind which nothing follows. The bytes alone tell where the next
message would start, and whether anything is left where decoding gives up.
-/

namespace Discnet.Network.Messages

open Lib Buffer

-- ---------------------------------------------------------------------------
-- The bytes behind a message
-- ---------------------------------------------------------------------------

/-- The bytes behind an integer, which is passed over if it is there. -/
def behindWord (size : Nat) (bytes : List Byte) : List Byte :=
  if size ≤ bytes.length then bytes.drop size else bytes

def countAt (bytes : List Byte) : Nat :=
  if 2 ≤ bytes.length then (Word.ofBigEndian (bytes.take 2) : UInt16).toNat else 0

def behindNode (bytes : List Byte) : List Byte :=
  let jumps := behindWord 4 (behindWord 2 bytes)
  (behindWord 2)^[countAt jumps] (behindWord 2 jumps)

def behindDiscovery (bytes : List Byte) : List Byte :=
  let nodes := behindWord 2 bytes
  behindNode^[countAt nodes] (behindWord 2 nodes)

def behindData (bytes : List Byte) : List Byte :=
  let size := behindWord 2 bytes
  let payload := behindWord 2 size
  if countAt size < payload.length then payload.drop (countAt size) else payload

/-- The type in a header. -/
def typeAt (bytes : List Byte) : MessageType := .ofUInt16 (Word.ofBigEndian ((bytes.drop 4).take 2))

/-- A header of a known type, and the four bytes every body starts with. -/
def HasMessage (bytes : List Byte) : Prop :=
  10 ≤ bytes.length ∧ (typeAt bytes = .discoveryMessage ∨ typeAt bytes = .dataMessage)

instance : DecidablePred HasMessage := fun _ => inferInstanceAs (Decidable (_ ∧ (_ ∨ _)))

def behindMessage (bytes : List Byte) : List Byte :=
  if typeAt bytes = .discoveryMessage then behindDiscovery (bytes.drop 6)
  else behindData (bytes.drop 6)

/-- One of the announced messages would start where the bytes end, or its
header is the end of them. -/
def EndsAtMessage : Nat → List Byte → Prop
  | 0, _ => False
  | announced + 1, bytes => bytes.length = 0 ∨ bytes.length = 6 ∨
      (HasMessage bytes ∧ EndsAtMessage announced (behindMessage bytes))

instance decidableEndsAtMessage : ∀ announced, DecidablePred (EndsAtMessage announced)
  | 0 => fun _ => inferInstanceAs (Decidable False)
  | announced + 1 => fun bytes =>
    have := decidableEndsAtMessage announced (behindMessage bytes)
    inferInstanceAs (Decidable (_ ∨ _ ∨ (_ ∧ _)))

-- ---------------------------------------------------------------------------
-- Messages that are there
-- ---------------------------------------------------------------------------

theorem leaves_read {α : Type} [Word α] (hp : 0 < Word.size α) (bytes : List Byte) :
    Leaves (liftM (read α) : DecodeM α) bytes (behindWord (Word.size α) bytes) fun _ => True := by
  refine .lift fun b hb => ⟨?_, trivial⟩
  have hb : b.unread = bytes := hb
  rw [behindWord, ← hb]
  split
  · rw [read_of_le hp ‹_›]
    exact unread_skip _ b
  · rw [read_of_lt (Nat.not_le.mp ‹_›)]
    rfl

theorem leaves_uint16 (bytes : List Byte) :
    Leaves (liftM readUInt16 : DecodeM UInt16) bytes (behindWord 2 bytes) fun _ => True :=
  leaves_read (by decide) bytes

theorem leaves_uint32 (bytes : List Byte) :
    Leaves (liftM readUInt32 : DecodeM UInt32) bytes (behindWord 4 bytes) fun _ => True :=
  leaves_read (by decide) bytes

theorem leaves_count (bytes : List Byte) :
    Leaves (liftM readUInt16 : DecodeM UInt16) bytes (behindWord 2 bytes) fun count =>
      (networkToNative count).toNat = countAt bytes := by
  intro b count b' hb hrun
  refine ⟨(leaves_uint16 bytes b count b' hb hrun).1, ?_⟩
  have hb : b.unread = bytes := hb
  rw [countAt, ← hb]
  split
  · rw [runOn_readUInt16 ‹_›] at hrun
    obtain ⟨⟨⟩, -⟩ := Prod.mk.inj hrun
    exact congrArg UInt16.toNat (networkToNative_take_two ‹_›)
  · rw [Scanner.runOn_lift, readUInt16, read_of_lt (Nat.not_le.mp ‹_›)] at hrun
    obtain ⟨⟨⟩, -⟩ := Prod.mk.inj hrun
    have hzero : networkToNative (Word.ofNat 0 : UInt16) = 0 := by decide
    exact congrArg UInt16.toNat hzero

theorem leaves_readBuffer (n : Nat) (bytes : List Byte) :
    Leaves (liftM (readBuffer n) : DecodeM (List Byte)) bytes
      (if n < bytes.length then bytes.drop n else bytes) fun _ => True := by
  refine .lift fun b hb => ⟨?_, trivial⟩
  have hb : b.unread = bytes := hb
  rw [← hb]
  split
  · rw [readBuffer_of_lt ‹_›]
    exact unread_skip _ b
  · rw [readBuffer_of_le (Nat.not_lt.mp ‹_›)]
    rfl

theorem leaves_node (i : Nat) (bytes : List Byte) :
    Leaves (DiscoveryMessageCodec.decodeNode i) bytes (behindNode bytes) fun _ => True := by
  refine (leaves_uint16 _).bind fun _ _ => (leaves_uint32 _).bind fun _ _ =>
    (leaves_count _).bind fun count hcount => ?_
  rw [hcount]
  exact (Leaves.collect fun _ _ => (leaves_uint16 _).bind_pure fun _ _ => trivial).bind_pure
    fun _ _ => trivial

theorem leaves_discovery (bytes : List Byte) :
    Leaves DiscoveryMessageCodec.decode bytes (behindDiscovery bytes) fun _ => True := by
  refine .check ((leaves_uint16 _).bind fun _ _ => (leaves_count _).bind fun count hcount => ?_)
  rw [hcount]
  exact (Leaves.collect leaves_node).bind_pure fun _ _ => trivial

theorem leaves_data (bytes : List Byte) :
    Leaves DataMessageCodec.decode bytes (behindData bytes) fun _ => True := by
  refine .check ((leaves_uint16 _).bind fun _ _ => (leaves_count _).bind fun count hcount => ?_)
  rw [hcount]
  exact (leaves_readBuffer _ _).bind_pure fun _ _ => trivial

-- ---------------------------------------------------------------------------
-- Giving up
-- ---------------------------------------------------------------------------

theorem header_ok {b : Buffer} (h : 6 ≤ b.unread.length) :
    Scanner.runOn HeaderCodec.decode b =
      (.ok ⟨Word.ofBigEndian (b.unread.take 4), typeAt b.unread⟩, b.skip 6) := by
  have hsize : 4 ≤ b.unread.length := Nat.le_trans (by decide) h
  have htype : 2 ≤ (b.skip 4).unread.length := by
    rw [unread_skip, List.length_drop]
    omega
  have hskip : (b.skip 4).skip 2 = b.skip 6 := Cursor.skip_skip 4 2 b
  have hleft := not_bytesLeftToRead_lt (n := HeaderCodec.headerSize) h
  rw [HeaderCodec.decode, Scanner.runOn_bind_ok (Scanner.runOn_get b), if_neg hleft,
    Scanner.runOn_bind_ok (runOn_readUInt32 hsize), Scanner.runOn_bind_ok (runOn_readUInt16 htype),
    networkToNative_take hsize, networkToNative_take_two htype, unread_skip, hskip]
  rfl

theorem header_error {b : Buffer} (h : b.unread.length < 6) :
    ∃ error, Scanner.runOn HeaderCodec.decode b = (.error error, b) :=
  ⟨_, Scanner.runOn_check_of (bytesLeftToRead_lt h)⟩

/-- A message that is there is decoded. -/
theorem message_ok {b : Buffer} (h : HasMessage b.unread) :
    ∃ message b', Scanner.runOn (PacketCodec.decodeMessage i) b = (.ok message, b') ∧
      b'.unread = behindMessage b.unread := by
  obtain ⟨hlen, htype⟩ := h
  have hbody : 4 ≤ (b.skip 6).unread.length := by
    rw [unread_skip, List.length_drop]
    omega
  have hheader := header_ok (Nat.le_trans (by decide) hlen)
  rcases htype with htype | htype
  · obtain ⟨message, b', hmessage⟩ := discovery_ok hbody
    refine ⟨.discovery message, b', ?_, ?_⟩
    · rw [PacketCodec.decodeMessage, Scanner.runOn_bind_ok (Scanner.runOn_mapError_ok hheader)]
      simp only [htype]
      exact Scanner.runOn_bind_ok (Scanner.runOn_mapError_ok hmessage)
    · rw [behindMessage, if_pos htype, ← unread_skip]
      exact (leaves_discovery _ _ _ _ rfl hmessage).1
  · obtain ⟨message, b', hmessage⟩ : ∃ message b',
        Scanner.runOn DataMessageCodec.decode (b.skip 6) = (.ok message, b') :=
      ⟨_, _, data_eq hbody⟩
    refine ⟨.data message, b', ?_, ?_⟩
    · rw [PacketCodec.decodeMessage, Scanner.runOn_bind_ok (Scanner.runOn_mapError_ok hheader)]
      simp only [htype]
      exact Scanner.runOn_bind_ok (Scanner.runOn_mapError_ok hmessage)
    · rw [behindMessage, if_neg (by rw [htype]; decide), ← unread_skip]
      exact (leaves_data _ _ _ _ rfl hmessage).1

/-- Decoding gives up in front of a header that is cut off, and right behind
any other. -/
theorem message_error {b : Buffer} (h : ¬ HasMessage b.unread) :
    ∃ error b', Scanner.runOn (PacketCodec.decodeMessage i) b = (.error error, b') ∧
      (b'.unread = [] ↔ b.unread.length = 0 ∨ b.unread.length = 6) := by
  rcases Nat.lt_or_ge b.unread.length 6 with hlt | hle
  · obtain ⟨error, herror⟩ := header_error hlt
    refine ⟨_, b, Scanner.runOn_bind_error (Scanner.runOn_mapError_error herror), ?_⟩
    rw [← List.length_eq_zero_iff]
    omega
  · have hrest : (b.skip 6).unread = [] ↔ b.unread.length = 0 ∨ b.unread.length = 6 := by
      rw [unread_skip, List.drop_eq_nil_iff]
      omega
    have hstop : ∃ error, Scanner.runOn (PacketCodec.decodeMessage i) b =
        (.error error, b.skip 6) := by
      rw [PacketCodec.decodeMessage,
        Scanner.runOn_bind_ok (Scanner.runOn_mapError_ok (header_ok hle))]
      have hbody (htype : typeAt b.unread = .discoveryMessage ∨ typeAt b.unread = .dataMessage) :
          (b.skip 6).unread.length < 4 := by
        have hshort : ¬ 10 ≤ b.unread.length := fun hlen => h ⟨hlen, htype⟩
        rw [unread_skip, List.length_drop]
        omega
      cases htype : typeAt b.unread with
      | discoveryMessage =>
        obtain ⟨error, herror⟩ := discovery_error (hbody (.inl htype))
        exact ⟨_, Scanner.runOn_bind_error (Scanner.runOn_mapError_error herror)⟩
      | dataMessage =>
        obtain ⟨error, herror⟩ := data_error (hbody (.inr htype))
        exact ⟨_, Scanner.runOn_bind_error (Scanner.runOn_mapError_error herror)⟩
      | commandMessage => exact ⟨_, Scanner.runOn_throw _ _⟩
      | other value => exact ⟨_, Scanner.runOn_throw _ _⟩
    obtain ⟨error, herror⟩ := hstop
    exact ⟨error, _, herror, hrest⟩

theorem messages_error {b : Buffer} (h : Scanner.runOn
    (Scanner.collect PacketCodec.decodeMessage i announced) b = (.error error, b')) :
    b'.unread = [] ↔ EndsAtMessage announced b.unread := by
  induction announced generalizing i b with
  | zero =>
    rw [Scanner.collect, Scanner.runOn_pure] at h
    simp at h
  | succ announced ih =>
    rw [Scanner.collect] at h
    by_cases hmessage : HasMessage b.unread
    · obtain ⟨message, t, hok, hleft⟩ := message_ok (i := i) hmessage
      rw [Scanner.runOn_bind_ok hok] at h
      have hrest : Scanner.runOn (Scanner.collect PacketCodec.decodeMessage (i + 1) announced) t =
          (.error error, b') := Scanner.runOn_of_bind_error (fun _ => .pure _) h
      have hlen := hmessage.1
      rw [ih hrest, hleft, EndsAtMessage]
      constructor
      · intro hends
        exact .inr (.inr ⟨hmessage, hends⟩)
      · rintro (hnone | hheader | ⟨-, hends⟩)
        · omega
        · omega
        · exact hends
    · obtain ⟨e, t, herror, hends⟩ := message_error (i := i) hmessage
      rw [Scanner.runOn_bind_error herror] at h
      obtain ⟨-, rfl⟩ := Prod.mk.inj h
      rw [hends, EndsAtMessage]
      constructor
      · rintro (hnone | hheader)
        · exact .inl hnone
        · exact .inr (.inl hheader)
      · rintro (hnone | hheader | ⟨hhas, -⟩)
        · exact .inl hnone
        · exact .inr hheader
        · contradiction

/-- Where the contents do not decode, nothing is left if and only if the
bytes end at one of the messages. -/
theorem contents_error {b : Buffer} (hb : 6 ≤ b.unread.length)
    (h : Scanner.runOn PacketCodec.decodeContents b = (.error error, b')) :
    b'.unread = [] ↔ EndsAtMessage (countAt (b.unread.drop 4)) (b.unread.drop 6) := by
  have hcount : 2 ≤ (b.skip 4).unread.length := by
    rw [unread_skip, List.length_drop]
    omega
  have hskip : (b.skip 4).skip 2 = b.skip 6 := Cursor.skip_skip 4 2 b
  rw [PacketCodec.decodeContents,
    Scanner.runOn_bind_ok (runOn_readUInt32 (Nat.le_trans (by decide) hb)),
    Scanner.runOn_bind_ok (runOn_readUInt16 hcount), networkToNative_take_two hcount, hskip] at h
  have hmessages := Scanner.runOn_of_bind_error
    (fun _ => (Scanner.Total.lift _).bind fun _ => .pure _) h
  rw [messages_error hmessages, ← unread_skip 4, ← unread_skip 6, countAt, if_pos hcount]

/-- The header of the second message is the end. -/
example : EndsAtMessage 2 [0, 0, 0, 10, 0, 2, 0, 7, 0, 0, 0, 0, 0, 6, 0, 9] := by decide

end Discnet.Network.Messages
