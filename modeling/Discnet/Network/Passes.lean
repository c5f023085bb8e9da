import Discnet.Network.DataStream
import Discnet.Network.RoundTrip

/-!
# The passes of `process`

A pass decodes the bytes it has only when the packet they start with is
complete. What it takes off the front, or leaves behind, depends on where
decoding stopped.
-/

namespace Discnet.Network.Messages

open Lib Buffer

theorem contents_advance {b : Buffer} (h : 4 ≤ b.unread.length) :
    ∃ n, 4 ≤ n ∧ n ≤ b.unread.length ∧
      (Scanner.runOn PacketCodec.decodeContents b).2 = b.skip n := by
  rw [PacketCodec.decodeContents, Scanner.runOn_bind_ok (runOn_readUInt32 h)]
  obtain ⟨n, hn, hrest⟩ := (advances_uint16.bind fun _ =>
    (Advances.collect advances_message).bind fun _ => advances_uint32.bind fun _ => .pure _)
      (b.skip 4)
  have hn : n ≤ (b.skip 4).unread.length := hn
  rw [unread_skip, List.length_drop] at hn
  refine ⟨4 + n, Nat.le_add_right _ _, by omega, hrest.trans (Cursor.skip_skip 4 n b)⟩

end Discnet.Network.Messages

namespace Discnet.Network

open Lib Buffer Messages

namespace DataStream

-- ---------------------------------------------------------------------------
-- The declared size
-- ---------------------------------------------------------------------------

theorem sizeOfInt32_toInt32 (v : UInt32) :
    sizeOfInt32 v.toInt32 = if v.toNat < 2 ^ 31 then v.toNat else 2 ^ 64 - 2 ^ 32 + v.toNat := by
  have hlt := v.toNat_lt
  have hint : v.toInt32.toInt =
      if 2 * v.toNat < 2 ^ 32 then (v.toNat : Int) else v.toNat - 2 ^ 32 := by
    show v.toInt32.toBitVec.toInt = _
    rw [UInt32.toBitVec_toInt32, BitVec.toInt_eq_toNat_cond]
    simp
  rw [sizeOfInt32, hint]
  split <;> split <;> omega

/-- The declared size as a pass reads it, through a signed number. -/
def signedSize (bytes : List Byte) : Nat :=
  if declaredSize bytes < 2 ^ 31 then declaredSize bytes
  else 2 ^ 64 - 2 ^ 32 + declaredSize bytes

theorem signedSize_of_lt {bytes : List Byte} (h : declaredSize bytes < 2 ^ 31) :
    signedSize bytes = declaredSize bytes := if_pos h

theorem declaredSize_le_signedSize (bytes : List Byte) : declaredSize bytes ≤ signedSize bytes := by
  rw [signedSize]
  split
  · exact Nat.le_refl _
  · omega

theorem declaredSize_lt_of_signedSize_le {bytes : List Byte}
    (h : signedSize bytes ≤ declaredSize bytes) : declaredSize bytes < 2 ^ 31 := by
  rw [signedSize] at h
  split at h
  · assumption
  · omega

theorem sizeOfInt32_readInt32 {bytes : List Byte} (h : 4 ≤ bytes.length) :
    sizeOfInt32 (networkToNative (readInt32.run (Buffer.holding bytes)).1) =
      signedSize bytes := by
  have hread : (readInt32.run (Buffer.holding bytes)).1 = Word.ofBytes (bytes.take 4) := by
    rw [readInt32, read_of_le (by decide) (by rwa [unread_holding]), unread_holding]
    rfl
  have hnative : networkToNative (Word.ofBytes (bytes.take 4) : Int32) =
      (Word.ofBigEndian (bytes.take 4) : UInt32).toInt32 :=
    networkToNative_ofBytes (List.length_take_of_le h)
  rw [hread, hnative]
  exact sizeOfInt32_toInt32 _

theorem resetRead_readInt32 {bytes : List Byte} (h : 4 ≤ bytes.length) :
    (resetRead.run (readInt32.run (Buffer.holding bytes)).2).2 = Buffer.holding bytes := by
  rw [readInt32, read_of_le (by decide) (by rwa [unread_holding])]
  exact congrArg Prod.snd (resetRead_skip (readOffset_holding bytes))

variable (md5 : List Byte → Digest)

theorem processPass_of_lt {s : DataStream}
    (h : s.buffer.items.length < PacketCodec.headerSize) :
    processPass md5 s = ⟨none, s, false⟩ := by
  simp only [processPass, bytesLeftToRead_eq, unread_holding]
  rw [if_neg (Nat.not_le.mpr h)]

theorem processPass_of_le {s : DataStream}
    (h : PacketCodec.headerSize ≤ s.buffer.items.length) :
    processPass md5 s =
      if signedSize s.buffer.items ≤ s.buffer.items.length then
        decodePass md5 s (readInt32.run (Buffer.holding s.buffer.items)).2
      else ⟨none, s, false⟩ := by
  have h4 : 4 ≤ s.buffer.items.length := Nat.le_trans (by decide) h
  simp only [processPass, bytesLeftToRead_eq, unread_holding, sizeOfInt32_readInt32 h4]
  rw [if_pos h]

-- ---------------------------------------------------------------------------
-- All passes
-- ---------------------------------------------------------------------------

/-- The stream as it is at the start of each pass of `process`. -/
def passes (s : DataStream) : List DataStream :=
  let pass := processPass md5 s
  if _ : pass.readMore then s :: passes pass.stream else [s]
termination_by s.buffer.items.length
decreasing_by exact length_processPass md5 ‹_›

theorem mem_passes (s : DataStream) : s ∈ passes md5 s := by
  rw [passes]
  split <;> simp

theorem packets_process (s : DataStream) :
    (process md5 s).1 = (passes md5 s).flatMap fun t => (processPass md5 t).packet.toList := by
  induction s using process.induct md5 with
  | case1 s pass hmore ih =>
    rw [process_of_readMore md5 hmore, passes, dif_pos hmore, List.flatMap_cons]
    exact congrArg _ ih
  | case2 s pass hmore =>
    rw [process_of_not_readMore md5 hmore, passes, dif_neg hmore, List.flatMap_singleton]

/-- A pass that does not read more is the last one. -/
theorem stream_process {s t : DataStream} (h : t ∈ passes md5 s)
    (hlast : (processPass md5 t).readMore = false) :
    (process md5 s).2 = (processPass md5 t).stream := by
  induction s using process.induct md5 with
  | case1 s pass hmore ih =>
    rw [passes, dif_pos hmore] at h
    rw [process_of_readMore md5 hmore]
    rcases List.mem_cons.mp h with rfl | h
    · exact absurd (hmore.symm.trans hlast) (by decide)
    · exact ih h
  | case2 s pass hmore =>
    rw [passes, dif_neg hmore, List.mem_singleton] at h
    subst h
    rw [process_of_not_readMore md5 hmore]

/-- The packets `process` returns, each with the stream its pass started
with. -/
def returned (s : DataStream) : List (DataStream × Packet) :=
  (passes md5 s).flatMap fun t => (processPass md5 t).packet.toList.map fun packet => (t, packet)

theorem map_returned (s : DataStream) : (returned md5 s).map Prod.snd = (process md5 s).1 := by
  rw [packets_process, returned, List.map_flatMap]
  congr 1
  funext t
  cases (processPass md5 t).packet <;> rfl

theorem mem_returned {s : DataStream} {packet : Packet}
    (h : (processPass md5 s).packet = some packet) : (s, packet) ∈ returned md5 s :=
  List.mem_flatMap.mpr ⟨s, mem_passes md5 s, by simp [h]⟩

theorem packet_of_mem_returned {s : DataStream} {found : DataStream × Packet}
    (h : found ∈ returned md5 s) : (processPass md5 found.1).packet = some found.2 := by
  obtain ⟨t, -, h⟩ := List.mem_flatMap.mp h
  obtain ⟨packet, hpacket, rfl⟩ := List.mem_map.mp h
  exact Option.mem_toList.mp hpacket

-- ---------------------------------------------------------------------------
-- A pass that finds a packet
-- ---------------------------------------------------------------------------

/-- What a pass makes of a complete packet that decodes. -/
theorem decodePass_ok {s : DataStream} {buffer : Buffer} {packet : Packet} {n : Nat}
    (hbuffer : (resetRead.run buffer).2 = Buffer.holding s.buffer.items)
    (hdecode : Scanner.runOn (PacketCodec.decode md5) (Buffer.holding s.buffer.items) =
      (.ok packet, (Buffer.holding s.buffer.items).skip n))
    (hpos : 0 < n) (hn : n ≤ s.buffer.items.length) :
    (decodePass md5 s buffer).packet = some packet ∧
      (decodePass md5 s buffer).stream.buffer.items = s.buffer.items.drop n ∧
      ((decodePass md5 s buffer).readMore = true ↔ s.buffer.items.drop n ≠ []) := by
  have hleft : ((Buffer.holding s.buffer.items).skip n).bytesLeftToRead =
      s.buffer.items.length - n := by
    rw [bytesLeftToRead_eq, unread_skip, unread_holding, List.length_drop]
  have hread : ¬ s.buffer.items.length - n ≥ s.buffer.items.length := by omega
  rw [decodePass, hbuffer, hdecode]
  simp only [hleft, size_skip, size_holding]
  rw [if_neg hread]
  split
  · rename_i hnone
    have hnil : s.buffer.items.drop n = [] := List.drop_eq_nil_of_le (by omega)
    simp [hnil]
  · rename_i hsome
    have hrest : s.buffer.items.length - (s.buffer.items.length - n) = n := by omega
    have hlt : n < s.buffer.items.length := by omega
    refine ⟨rfl, ?_, ?_⟩
    · dsimp only
      rw [hrest]
      exact GrowVector.items_resize_shiftLeft hlt
    · simp only [true_iff]
      exact List.ne_nil_of_length_pos (by rw [List.length_drop]; omega)

theorem packet_decodePass (s : DataStream) (buffer : Buffer) :
    (decodePass md5 s buffer).packet =
      (Scanner.runOn (PacketCodec.decode md5) (resetRead.run buffer).2).1.toOption := by
  simp only [decodePass]
  cases (Scanner.runOn (PacketCodec.decode md5) (resetRead.run buffer).2).1 with
  | error error =>
    dsimp only
    split
    · rfl
    split <;> rfl
  | ok packet =>
    dsimp only
    split
    · rfl
    split <;> rfl

/-- The stream starts with a complete packet, which is read from its first
`n` bytes. -/
structure Finds (s : DataStream) (packet : Packet) (n : Nat) : Prop where
  header : PacketCodec.headerSize ≤ s.buffer.items.length
  complete : signedSize s.buffer.items ≤ s.buffer.items.length
  decode : Scanner.runOn (PacketCodec.decode md5) (Buffer.holding s.buffer.items) =
    (.ok packet, (Buffer.holding s.buffer.items).skip n)
  positive : 0 < n
  within : n ≤ s.buffer.items.length

variable {md5} {s : DataStream} {packet : Packet} {n : Nat}

theorem Finds.pass (h : Finds md5 s packet n) :
    (processPass md5 s).packet = some packet ∧
      (processPass md5 s).stream.buffer.items = s.buffer.items.drop n ∧
      ((processPass md5 s).readMore = true ↔ s.buffer.items.drop n ≠ []) := by
  have h4 : 4 ≤ s.buffer.items.length := Nat.le_trans (by decide) h.header
  rw [processPass_of_le md5 h.header, if_pos h.complete]
  exact decodePass_ok md5 (resetRead_readInt32 h4) h.decode h.positive h.within

/-- A packet that decodes was found valid, and then its contents were read. -/
theorem Finds.contents (h : Finds md5 s packet n) :
    (∃ v, (Scanner.runOn (PacketCodec.validatePacket md5)
        (Buffer.holding s.buffer.items)).1 = .ok v) ∧
      Scanner.runOn PacketCodec.decodeContents (Buffer.holding s.buffer.items) =
        (.ok packet, (Buffer.holding s.buffer.items).skip n) := by
  have hdecode := h.decode
  rw [decode_of_readOffset md5 (readOffset_holding _)] at hdecode
  cases hvalid : (Scanner.runOn (PacketCodec.validatePacket md5)
      (Buffer.holding s.buffer.items)).1 with
  | error error =>
    rw [hvalid] at hdecode
    simp at hdecode
  | ok v =>
    rw [hvalid] at hdecode
    exact ⟨⟨v, rfl⟩, hdecode⟩

theorem finds_of_decode (hheader : PacketCodec.headerSize ≤ s.buffer.items.length)
    (hcomplete : signedSize s.buffer.items ≤ s.buffer.items.length)
    (hdecode : (Scanner.runOn (PacketCodec.decode md5) (Buffer.holding s.buffer.items)).1 =
      .ok packet) : ∃ n, Finds md5 s packet n := by
  have h4 : 4 ≤ (Buffer.holding s.buffer.items).unread.length := by
    rw [unread_holding]
    exact Nat.le_trans (by decide) hheader
  have hcontents := decode_of_readOffset md5 (readOffset_holding s.buffer.items)
  cases hvalid : (Scanner.runOn (PacketCodec.validatePacket md5)
      (Buffer.holding s.buffer.items)).1 with
  | error error =>
    rw [hcontents, hvalid] at hdecode
    simp at hdecode
  | ok v =>
    rw [hvalid] at hcontents
    obtain ⟨n, hn, hwithin, hrest⟩ := contents_advance h4
    rw [unread_holding] at hwithin
    refine ⟨n, hheader, hcomplete, Prod.ext hdecode ?_, by omega, hwithin⟩
    rw [hcontents]
    exact hrest

theorem finds_of_packet (h : (processPass md5 s).packet = some packet) :
    ∃ n, Finds md5 s packet n := by
  rcases Nat.lt_or_ge s.buffer.items.length PacketCodec.headerSize with hlt | hheader
  · rw [processPass_of_lt md5 hlt] at h
    contradiction
  have h4 : 4 ≤ s.buffer.items.length := Nat.le_trans (by decide) hheader
  rw [processPass_of_le md5 hheader] at h
  split at h
  · rename_i hcomplete
    rw [packet_decodePass, resetRead_readInt32 h4] at h
    apply finds_of_decode hheader hcomplete
    cases hdecode : (Scanner.runOn (PacketCodec.decode md5)
        (Buffer.holding s.buffer.items)).1 with
    | error error =>
      rw [hdecode] at h
      contradiction
    | ok found =>
      rw [hdecode] at h
      rw [Option.some.inj h]
  · contradiction

theorem Finds.mem_process (h : Finds md5 s packet n) : packet ∈ (process md5 s).1 := by
  rw [← map_returned]
  exact List.mem_map_of_mem (mem_returned md5 h.pass.1)

end DataStream

end Discnet.Network
