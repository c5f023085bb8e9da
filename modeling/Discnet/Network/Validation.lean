import Discnet.Network.Recovery

/-!
# Which packets are valid

Validation accepts a packet whose declared bytes are there and end in the
checksum of the others. A declared size below the size of a checksum wraps
around; the read that follows is too long for any buffer and gives nothing,
and what is compared then is the size itself.
-/

namespace Discnet.Network.Messages

open Lib Buffer DataStream

variable {md5 : List Byte → Digest} {b : Buffer}

/-- The bytes end, at the declared size, in the checksum of those before. -/
structure EndsInChecksum (md5 : List Byte → Digest) (bytes : List Byte) : Prop where
  header : 4 ≤ bytes.length
  checksumFits : 4 ≤ declaredSize bytes
  complete : declaredSize bytes ≤ bytes.length
  checksum : (Word.ofBigEndian ((bytes.drop (declaredSize bytes - 4)).take 4) : UInt32) =
    lastPartDigest (md5 (bytes.take (declaredSize bytes - 4)))

theorem sizeSub_of_lt {m n : Nat} (h : m < n) (hn : n ≤ 2 ^ 64) :
    sizeSub m n = 2 ^ 64 - (n - m) := by
  unfold sizeSub
  omega

theorem bytesLeftToRead_of_readOffset (hb : b.readOffset = 0) :
    b.bytesLeftToRead = b.data.length := by
  rw [bytesLeftToRead_eq, unread_of_readOffset hb]

/-- No buffer has as many bytes as the wrapped size asks for. -/
theorem readBuffer_wrapped (hsize : b.data.length ≤ 2 ^ 64 - 4) (h : declaredSize b.data < 4) :
    (readBuffer (sizeSub (declaredSize b.data) PacketCodec.checksumSize)).run b = ([], b) := by
  have hwrapped : sizeSub (declaredSize b.data) PacketCodec.checksumSize =
      2 ^ 64 - (4 - declaredSize b.data) := sizeSub_of_lt h (by decide)
  apply readBuffer_of_le
  rw [hwrapped, length_unread, ← length_data]
  omega

theorem validatePacket_of_header (h : b.unread.length < 4) :
    Scanner.runOn (PacketCodec.validatePacket md5) b =
      (.error "not enough bytes in buffer to read packet. (header missing)", b) := by
  have hleft : b.bytesLeftToRead < PacketCodec.packetSizeFieldSize := bytesLeftToRead_lt h
  exact Scanner.runOn_check_of hleft

theorem validatePacket_of_incomplete (hb : b.readOffset = 0) (h4 : 4 ≤ b.data.length)
    (h : b.data.length < declaredSize b.data) :
    Scanner.runOn (PacketCodec.validatePacket md5) b =
      (.error "not enough bytes in buffer to read packet. (data missing)", b) := by
  have hu := unread_of_readOffset hb
  have hheader := not_bytesLeftToRead_lt (n := PacketCodec.packetSizeFieldSize) (hu ▸ h4)
  rw [PacketCodec.validatePacket, Scanner.runOn_bind_ok (Scanner.runOn_get b), if_neg hheader,
    Scanner.runOn_bind_ok (runOn_readUInt32 (by rwa [hu]))]
  dsimp only
  rw [Scanner.runOn_bind_ok (by rw [Scanner.runOn_lift, resetRead_skip hb]), hu,
    networkToNative_take h4]
  apply Scanner.runOn_check_of
  rwa [bytesLeftToRead_of_readOffset hb]

/-- A size that leaves no room for a checksum is compared, as a checksum,
with the digest of no bytes. -/
theorem validatePacket_of_wrapped (hsize : b.data.length ≤ 2 ^ 64 - 4) (hb : b.readOffset = 0)
    (h4 : 4 ≤ b.data.length) (h : declaredSize b.data < 4) :
    (Scanner.runOn (PacketCodec.validatePacket md5) b).1 =
      if (Word.ofBigEndian (b.data.take 4) : UInt32) = lastPartDigest (md5 []) then .ok true
      else .error (PacketCodec.checksumFailed (Word.ofBigEndian (b.data.take 4)) (md5 [])) := by
  have hu := unread_of_readOffset hb
  have hl : declaredSize b.data ≤ b.data.length := by omega
  rw [validatePacket_of_read md5 hb h4 hl (readBuffer_wrapped hsize h) (by rwa [hu]), hu]

/-- Validation accepts just the bytes that end in their checksum. With a
declared size below that of a checksum the message is read as no bytes at
all, and nothing is accepted as long as the digest of no bytes does not end
in one of these sizes. -/
theorem validatePacket_accepts_iff (md5 : List Byte → Digest)
    (hmd5 : 3 < (lastPartDigest (md5 [])).toNat) (b : Buffer) (hb : b.readOffset = 0)
    (hsize : b.data.length ≤ 2 ^ 64 - 4) :
    ((∃ accepted, (Scanner.runOn (PacketCodec.validatePacket md5) b).1 = .ok accepted) ↔
      EndsInChecksum md5 b.data) ∧
    (declaredSize b.data < 4 →
      (readBuffer (sizeSub (declaredSize b.data) PacketCodec.checksumSize)).run b = ([], b)) := by
  refine ⟨?_, readBuffer_wrapped hsize⟩
  have hu := unread_of_readOffset hb
  rcases Nat.lt_or_ge b.data.length 4 with hshort | h4
  · rw [validatePacket_of_header (by rwa [hu])]
    constructor
    · rintro ⟨accepted, haccepted⟩
      cases haccepted
    · intro h
      exact absurd h.header (Nat.not_le.mpr hshort)
  rcases Nat.lt_or_ge b.data.length (declaredSize b.data) with hlong | hl
  · rw [validatePacket_of_incomplete hb h4 hlong]
    constructor
    · rintro ⟨accepted, haccepted⟩
      cases haccepted
    · intro h
      exact absurd h.complete (Nat.not_le.mpr hlong)
  rcases Nat.lt_or_ge (declaredSize b.data) 4 with hwrapped | hd
  · have hne : (Word.ofBigEndian (b.data.take 4) : UInt32) ≠ lastPartDigest (md5 []) := by
      intro hsame
      rw [declaredSize, hsame] at hwrapped
      exact absurd hmd5 (Nat.not_lt.mpr (Nat.le_of_lt_succ hwrapped))
    rw [validatePacket_of_wrapped hsize hb h4 hwrapped, if_neg hne]
    constructor
    · rintro ⟨accepted, haccepted⟩
      cases haccepted
    · intro h
      exact absurd h.checksumFits (Nat.not_le.mpr hwrapped)
  · rw [validatePacket_eq md5 hb h4 hd hl]
    constructor
    · rintro ⟨accepted, haccepted⟩
      dsimp only at haccepted
      split_ifs at haccepted with hchecksum
      exact ⟨h4, hd, hl, hchecksum⟩
    · intro h
      exact ⟨true, if_pos h.checksum⟩

theorem validatePacket_accepts_iff_noMessages :
    (∃ accepted, (Scanner.runOn (PacketCodec.validatePacket knownDigests)
        (Buffer.holding noMessages)).1 = .ok accepted) ↔
      EndsInChecksum knownDigests (Buffer.holding noMessages).data :=
  (validatePacket_accepts_iff knownDigests (by decide +kernel) (Buffer.holding noMessages)
    (readOffset_holding _) (by rw [data_holding]; decide)).1

end Discnet.Network.Messages
