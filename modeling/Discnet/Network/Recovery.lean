import Discnet.Network.PacketFraming
import Discnet.Network.Shortage
import Discnet.Network.Delivery

/-!
# After a bad packet

A packet that does not decode takes everything with it that was received,
but what decoding left unread comes back as zeros, and no packet behind them
is found. Nothing comes back where decoding left all or nothing unread.
-/

namespace Discnet.Network.DataStream

open Lib Buffer Messages

-- ---------------------------------------------------------------------------
-- Bad packets and good ones
-- ---------------------------------------------------------------------------

section
variable (md5 : List Byte → Digest)

/-- The stream starts with a complete packet that does not decode. -/
structure Rejects (s : DataStream) : Prop where
  header : PacketCodec.headerSize ≤ s.buffer.items.length
  complete : signedSize s.buffer.items ≤ s.buffer.items.length
  error : ∃ error, (Scanner.runOn (PacketCodec.decode md5)
    (Buffer.holding s.buffer.items)).1 = .error error

/-- The packet is refused by its validation, or the bytes end at one of the
messages it announces. -/
def LeavesNothing (s : DataStream) : Prop :=
  (∃ error, (Scanner.runOn (PacketCodec.validatePacket md5)
      (Buffer.holding s.buffer.items)).1 = .error error) ∨
    EndsAtMessage (countAt (s.buffer.items.drop 4)) (s.buffer.items.drop 6)

/-- The bytes are just a packet that decodes. -/
structure ValidPacket (bytes : List Byte) (packet : Packet) : Prop where
  header : PacketCodec.headerSize ≤ bytes.length
  size : declaredSize bytes = bytes.length
  decodes : (Scanner.runOn (PacketCodec.decode md5) (Buffer.holding bytes)).1 = .ok packet

/-- `process` leaves nothing behind, and returns a packet that is received
next. -/
structure Recovers (s : DataStream) (bytes : List Byte) (packet : Packet) : Prop where
  empty : (process md5 s).2.buffer.items = []
  next : packet ∈ (process md5 ((process md5 s).2.handleReceive bytes)).1

end

-- ---------------------------------------------------------------------------
-- A pass that fails
-- ---------------------------------------------------------------------------

variable {md5 : List Byte → Digest} {s t : DataStream} {bytes : List Byte} {packet : Packet}
  {n : Nat}

/-- What a pass makes of a complete packet that does not decode. -/
theorem decodePass_error {buffer : Buffer} {error : String}
    (hbuffer : (resetRead.run buffer).2 = Buffer.holding s.buffer.items)
    (hdecode : Scanner.runOn (PacketCodec.decode md5) (Buffer.holding s.buffer.items) =
      (.error error, (Buffer.holding s.buffer.items).skip n)) :
    (decodePass md5 s buffer).readMore = false ∧
      (decodePass md5 s buffer).stream.buffer.items =
        if n = 0 then [] else List.replicate (s.buffer.items.length - n) 0 := by
  have hleft : ((Buffer.holding s.buffer.items).skip n).bytesLeftToRead =
      s.buffer.items.length - n := by
    rw [bytesLeftToRead_eq, unread_skip, unread_holding, List.length_drop]
  rw [decodePass, hbuffer, hdecode]
  simp only [hleft, size_skip, size_holding]
  split
  · rename_i hall
    refine ⟨rfl, ?_⟩
    split
    · rfl
    · have hnone : s.buffer.items.length - n = 0 := by omega
      rw [hnone]
      rfl
  · rename_i hsome
    have hn : n ≠ 0 := by omega
    rw [if_neg hn]
    split
    · rename_i hnone
      rw [hnone]
      exact ⟨rfl, rfl⟩
    · exact ⟨rfl, GrowVector.items_resize_shiftLeft_clear _⟩

/-- A pass that fails leaves nothing in the stream if decoding left all or
nothing unread, and the bytes tell whether it did. -/
theorem Rejects.pass (h : Rejects md5 t) :
    (processPass md5 t).readMore = false ∧
      ((processPass md5 t).stream.buffer.items = [] ↔ LeavesNothing md5 t) := by
  have h4 : 4 ≤ t.buffer.items.length := Nat.le_trans (by decide) h.header
  have hdecode := decode_of_readOffset md5 (readOffset_holding t.buffer.items)
  obtain ⟨error, herror⟩ := h.error
  rw [processPass_of_le md5 h.header, if_pos h.complete]
  cases hvalid : (Scanner.runOn (PacketCodec.validatePacket md5)
      (Buffer.holding t.buffer.items)).1 with
  | error refusal =>
    -- decoding starts over before it gives up, so that all is unread
    rw [hvalid] at hdecode
    obtain ⟨hmore, hitems⟩ := decodePass_error (n := 0) (resetRead_readInt32 h4)
      (by rw [hdecode, skip_zero])
    exact ⟨hmore, fun _ => .inl ⟨refusal, hvalid⟩, fun _ => hitems⟩
  | ok valid =>
    obtain ⟨n, hn, -, hrest⟩ := contents_advance
      (b := Buffer.holding t.buffer.items) (by rwa [unread_holding])
    rw [hvalid] at hdecode
    have hstop : Scanner.runOn (PacketCodec.decode md5) (Buffer.holding t.buffer.items) =
        (.error error, (Buffer.holding t.buffer.items).skip n) :=
      Prod.ext herror (by rw [hdecode]; exact hrest)
    have h6 : 6 ≤ t.buffer.items.length := Nat.le_trans (by decide) h.header
    have hends := contents_error (by rwa [unread_holding]) (hdecode.symm.trans hstop)
    rw [unread_skip, unread_holding, List.drop_eq_nil_iff] at hends
    obtain ⟨hmore, hitems⟩ := decodePass_error (resetRead_readInt32 h4) hstop
    have hpos : n ≠ 0 := by omega
    rw [if_neg hpos] at hitems
    refine ⟨hmore, ?_⟩
    rw [hitems, List.replicate_eq_nil_iff, Nat.sub_eq_zero_iff_le, hends, LeavesNothing, hvalid]
    constructor
    · exact .inr
    · rintro (⟨refusal, hrefused⟩ | hend)
      · cases hrefused
      · exact hend

-- ---------------------------------------------------------------------------
-- The next packet
-- ---------------------------------------------------------------------------

/-- A packet that is alone in the stream is returned if its size is a
positive signed number. -/
theorem packet_of_alone (hw : ValidPacket md5 bytes packet) (ht : t.buffer.items = bytes) :
    packet ∈ (process md5 t).1 ↔ bytes.length < 2 ^ 31 := by
  subst ht
  constructor
  · intro hmem
    by_contra hlong
    have hsigned : ¬ signedSize t.buffer.items ≤ t.buffer.items.length := by
      rw [signedSize, hw.size, if_neg hlong]
      omega
    have hpass : processPass md5 t = ⟨none, t, false⟩ := by
      rw [processPass_of_le md5 hw.header, if_neg hsigned]
    rw [process_of_not_readMore md5 (by simp [hpass]), hpass] at hmem
    simp at hmem
  · intro hsmall
    have hcomplete : signedSize t.buffer.items = t.buffer.items.length := by
      rw [signedSize_of_lt (by rwa [hw.size]), hw.size]
    obtain ⟨n, hfinds⟩ := finds_of_decode hw.header (Nat.le_of_eq hcomplete) hw.decodes
    exact hfinds.mem_process

/-- After any pass that fails, the stream is empty and the next packet is
returned if and only if validation refused the packet or the bytes end at one
of its messages, and the next one fits the allocation and has a positive
signed size. -/
theorem recovers_iff (hempty : lastPartDigest (md5 []) ≠ 0) (ht : t ∈ passes md5 s)
    (hrejects : Rejects md5 t) (hw : ValidPacket md5 bytes packet) :
    Recovers md5 s bytes packet ↔
      LeavesNothing md5 t ∧ bytes.length ≤ s.buffer.capacity ∧ bytes.length < 2 ^ 31 := by
  obtain ⟨hmore, hleaves⟩ := hrejects.pass
  have hcapacity := capacity_process md5 s
  have hstream := stream_process md5 ht hmore
  rw [← hstream] at hleaves
  constructor
  · rintro ⟨hnil, hnext⟩
    have hfits : bytes.length ≤ s.buffer.capacity := by
      by_contra hlong
      have hlen : bytes.length < 2 ^ 32 := hw.size ▸ UInt32.toNat_lt _
      have hheader : 10 ≤ bytes.length := hw.header
      have hlost : (process md5 ((process md5 s).2.handleReceive bytes)).1 = [] :=
        process_overflow (by rw [hnil, hcapacity]; exact Nat.not_le.mp hlong) (by omega)
          (by rw [hnil, List.length_nil]; omega) hempty
      rw [hlost] at hnext
      simp at hnext
    have hitems : ((process md5 s).2.handleReceive bytes).buffer.items = bytes := by
      rw [items_handleReceive (by rw [hnil, hcapacity]; exact hfits), hnil, List.nil_append]
    exact ⟨hleaves.mp hnil, hfits, (packet_of_alone hw hitems).mp hnext⟩
  · rintro ⟨hnothing, hfits, hsmall⟩
    have hnil := hleaves.mpr hnothing
    have hitems : ((process md5 s).2.handleReceive bytes).buffer.items = bytes := by
      rw [items_handleReceive (by rw [hnil, hcapacity]; exact hfits), hnil, List.nil_append]
    exact ⟨hnil, (packet_of_alone hw hitems).mpr hsmall⟩

/-- The digest of the first six bytes of a packet without messages. -/
def noMessagesDigest : Digest :=
  #v[0xba, 0xe1, 0xd4, 0x95, 0x00, 0xcb, 0x92, 0x1e, 0x1e, 0x19, 0x74, 0x57, 0xb5, 0xfb, 0x73, 0x75]

def noMessages : List Byte := [0, 0, 0, 10, 0, 0, 0x75, 0x73, 0xfb, 0xb5]

/-- A packet whose only message is of type 9. -/
def unknownType : List Byte := [0, 0, 0, 16, 0, 1, 0, 0, 0, 6, 0, 9, 0x6d, 0x77, 0x80, 0x2b]

def unknownTypeDigest : Digest :=
  #v[0x76, 0x5c, 0x4f, 0x32, 0x59, 0xdd, 0xb1, 0x89, 0x01, 0x9a, 0x42, 0xed, 0x2b, 0x80, 0x77, 0x6d]

/-- The digests of the bytes that are hashed here. -/
def knownDigests (bytes : List Byte) : Digest :=
  if bytes = [] then emptyDigest
  else if bytes = noMessages.take 6 then noMessagesDigest
  else unknownTypeDigest

def badChecksum : List Byte := [0, 0, 0, 10, 0, 0, 0, 0, 0, 0]

theorem exists_error {ε α : Type} {x : Except ε α} (h : x.toOption = none) :
    ∃ error, x = .error error := by
  cases x with
  | error error => exact ⟨error, rfl⟩
  | ok a => cases h

theorem recovers_iff_badChecksum :
    Recovers knownDigests (streamHolding badChecksum) noMessages {} ↔
      LeavesNothing knownDigests (streamHolding badChecksum) ∧ 10 ≤ 10 ∧ 10 < 2 ^ 31 :=
  recovers_iff (by decide) (mem_passes _ _)
    ⟨by decide, by decide, exists_error (by decide +kernel)⟩
    ⟨by decide, by decide, by decide +kernel⟩

/-- The four bytes behind the message come back as zeros, and the packet that
is received next is lost. -/
theorem unknownType_not_recovered :
    Rejects knownDigests (streamHolding unknownType) ∧
      ValidPacket knownDigests noMessages {} ∧
      (process knownDigests (streamHolding unknownType)).2.buffer.items = [0, 0, 0, 0] ∧
      (process knownDigests ((process knownDigests (streamHolding unknownType)).2.handleReceive
        noMessages)).1 = [] := by
  have hfirst : process knownDigests (streamHolding unknownType) =
      ((processPass knownDigests (streamHolding unknownType)).packet.toList,
        (processPass knownDigests (streamHolding unknownType)).stream) :=
    process_of_not_readMore knownDigests (by decide +kernel)
  refine ⟨⟨by decide, by decide, exists_error (by decide +kernel)⟩,
    ⟨by decide, by decide, by decide +kernel⟩, ?_, ?_⟩
  · rw [hfirst]
    decide +kernel
  · rw [hfirst, process_of_not_readMore knownDigests (by decide +kernel)]
    decide +kernel

end Discnet.Network.DataStream
