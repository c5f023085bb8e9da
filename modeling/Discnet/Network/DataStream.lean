import Discnet.Network.Messages
import Discnet.Lib.GrowVector

/-!
# The data stream

A stream collects the bytes of one sender and cuts them into packets. One
pass of the loop in `process` either takes a packet off the front or finds
that there is no complete one; it runs again only if bytes are left, which
are fewer than before.
-/

namespace Discnet.Network

open Lib Buffer Messages

/-- The value of a signed 32-bit number as a `size_t`. -/
def sizeOfInt32 (v : Int32) : Nat := (v.toInt % 2 ^ 64).toNat

structure DataStream where
  buffer : GrowVector Byte

namespace DataStream

def new (bufferSize : Nat) : DataStream := ⟨(GrowVector.replicate bufferSize 0).resize 0 0⟩

/-- What a pass of the loop leaves: the packet it found, the stream, and
whether to read more. -/
structure Pass where
  packet : Option Packet
  stream : DataStream
  readMore : Bool

section
variable (md5 : List Byte → Digest)

/-- The part of a pass that follows a complete packet. -/
def decodePass (s : DataStream) (buffer : Buffer) : Pass :=
  let decoded := Scanner.runOn (PacketCodec.decode md5) (resetRead.run buffer).2
  let (packet, streamBuffer, readMore) := match decoded.1 with
    | .ok packet => (some packet, s.buffer, true)
    -- an invalid packet takes all the bytes that were received with it
    | .error _ => (none, s.buffer.clear, false)
  let remainingBytes := decoded.2.bytesLeftToRead
  if remainingBytes ≥ decoded.2.size then
    ⟨packet, ⟨streamBuffer⟩, false⟩
  else if remainingBytes = 0 then
    ⟨packet, ⟨streamBuffer.clear⟩, false⟩
  else
    let bytesRead := decoded.2.size - remainingBytes
    ⟨packet, ⟨(streamBuffer.shiftLeft bytesRead).resize remainingBytes 0⟩, readMore⟩

/-- One pass of the loop. The stream is copied into a buffer for it. -/
def processPass (s : DataStream) : Pass :=
  let buffer := Buffer.holding s.buffer.items
  let bufferSize := buffer.bytesLeftToRead
  if bufferSize ≥ PacketCodec.headerSize then
    let value := readInt32.run buffer
    let packetSize := sizeOfInt32 (networkToNative value.1)
    if bufferSize ≥ packetSize then decodePass md5 s value.2 else ⟨none, s, false⟩
  else ⟨none, s, false⟩

theorem size_decoded (buffer : Buffer) :
    (Scanner.runOn (PacketCodec.decode md5) (resetRead.run buffer).2).2.size = buffer.size := by
  have hkeeps := congrArg size (keeps_decode md5 (resetRead.run buffer).2)
  exact hkeeps

theorem length_decodePass {s : DataStream} {buffer : Buffer}
    (h : (decodePass md5 s buffer).readMore = true) :
    (decodePass md5 s buffer).stream.buffer.items.length < buffer.size := by
  have hsize := size_decoded md5 buffer
  simp only [decodePass] at h ⊢
  split at h
  · contradiction
  · rename_i hlt
    rw [if_neg hlt]
    split at h
    · contradiction
    · rename_i hne
      rw [if_neg hne, GrowVector.length_resize]
      omega

theorem size_readInt32 (s : DataStream) :
    (readInt32.run (Buffer.holding s.buffer.items)).2.size = s.buffer.items.length := by
  obtain ⟨n, -, hskip⟩ := read_advances (α := Int32) (by decide) (Buffer.holding s.buffer.items)
  rw [readInt32, hskip, size_skip, size_holding]

theorem length_processPass {s : DataStream} (h : (processPass md5 s).readMore = true) :
    (processPass md5 s).stream.buffer.items.length < s.buffer.items.length := by
  simp only [processPass] at h ⊢
  split at h
  · rename_i h10
    rw [if_pos h10]
    split at h
    · rename_i hcomplete
      rw [if_pos hcomplete, ← size_readInt32 s]
      exact length_decodePass md5 h
    · contradiction
  · contradiction

def process (s : DataStream) : List Packet × DataStream :=
  let pass := processPass md5 s
  if _ : pass.readMore then
    let rest := process pass.stream
    (pass.packet.toList ++ rest.1, rest.2)
  else (pass.packet.toList, pass.stream)
termination_by s.buffer.items.length
decreasing_by exact length_processPass md5 ‹_›

theorem process_of_readMore {s : DataStream} (h : (processPass md5 s).readMore = true) :
    process md5 s =
      ((processPass md5 s).packet.toList ++ (process md5 (processPass md5 s).stream).1,
        (process md5 (processPass md5 s).stream).2) := by
  rw [process, dif_pos h]

theorem process_of_not_readMore {s : DataStream} (h : ¬ (processPass md5 s).readMore = true) :
    process md5 s = ((processPass md5 s).packet.toList, (processPass md5 s).stream) := by
  rw [process, dif_neg h]

-- ---------------------------------------------------------------------------
-- The allocation stays
-- ---------------------------------------------------------------------------

theorem capacity_decodePass {s : DataStream} {buffer : Buffer}
    (h : buffer.size = s.buffer.items.length) :
    (decodePass md5 s buffer).stream.buffer.capacity = s.buffer.capacity := by
  have hsize := size_decoded md5 buffer
  have hfits := s.buffer.fits
  have hclear := GrowVector.capacity_clear s.buffer
  simp only [decodePass]
  cases (Scanner.runOn (PacketCodec.decode md5) (resetRead.run buffer).2).1 <;> dsimp only
  all_goals
    split
    · rfl
    split
    · rfl
    · refine GrowVector.capacity_resize_shiftLeft ?_
      omega

theorem capacity_processPass (s : DataStream) :
    (processPass md5 s).stream.buffer.capacity = s.buffer.capacity := by
  simp only [processPass]
  split
  · split
    · exact capacity_decodePass md5 (size_readInt32 s)
    · rfl
  · rfl

theorem capacity_process (s : DataStream) :
    (process md5 s).2.buffer.capacity = s.buffer.capacity := by
  induction s using process.induct md5 with
  | case1 s pass hmore ih =>
    rw [process_of_readMore md5 hmore]
    exact ih.trans (capacity_processPass md5 s)
  | case2 s pass hmore =>
    rw [process_of_not_readMore md5 hmore]
    exact capacity_processPass md5 s

end

/-- Appends what was received. Where it does not fit the allocation, the
bytes collected so far go behind a new block of zeros. -/
def handleReceive (data : List Byte) (s : DataStream) : DataStream :=
  let newUnreadSize := data.length + s.buffer.items.length
  let buffer :=
    if newUnreadSize > s.buffer.capacity then
      let newBufferSize := newUnreadSize * 2
      let newBuffer := (GrowVector.replicate newBufferSize 0).pushAll s.buffer.items
      s.buffer.assign newBuffer
    else s.buffer
  ⟨buffer.pushAll data⟩

end DataStream

end Discnet.Network
