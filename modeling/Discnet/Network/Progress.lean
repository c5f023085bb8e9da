import Discnet.Network.MessageBodies
import Discnet.Network.Passes

/-!
# Every pass makes progress

A packet that decodes takes at least the ten bytes of an empty one off the
stream, however malformed it is: its messages may be read where no bytes are
left, but each of them has a header that is there.
-/

namespace Discnet.Network.Messages

open Lib Buffer

theorem unread_skip_length (n : Nat) (b : Buffer) :
    (b.skip n).unread.length = b.unread.length - n := by
  rw [unread_skip, List.length_drop]

theorem consumes_header : Consumes HeaderCodec.headerSize HeaderCodec.decode := by
  intro b header rest h
  obtain ⟨hleft, h⟩ := Scanner.runOn_of_check h
  have hleft : 6 ≤ b.unread.length := by
    rw [bytesLeftToRead_eq] at hleft
    exact Nat.not_lt.mp hleft
  have hmore : 2 ≤ (b.skip 4).unread.length := by
    rw [unread_skip_length]
    omega
  rw [Scanner.runOn_bind_ok (runOn_readUInt32 (Nat.le_trans (by decide) hleft)),
    Scanner.runOn_bind_ok (runOn_readUInt16 hmore), Scanner.runOn_pure] at h
  cases h
  show ((b.skip 4).skip 2).unread.length + 6 ≤ b.unread.length
  rw [unread_skip_length, unread_skip_length]
  omega

theorem consumes_message (i : Nat) :
    Consumes HeaderCodec.headerSize (PacketCodec.decodeMessage i) := by
  refine (consumes_header.mapError _).bind fun header => ?_
  cases header.type with
  | discoveryMessage => exact (advances_discovery.mapError _).bind fun _ => .pure _
  | dataMessage => exact (advances_data.mapError _).bind fun _ => .pure _
  | commandMessage => exact .throw _
  | other value => exact .throw _

/-- Contents that are read without a message take their size, their count
and the checksum; with messages, the size, the count and a header. -/
theorem length_decodeContents {b rest : Buffer} {packet : Packet}
    (h10 : PacketCodec.headerSize ≤ b.unread.length)
    (h : Scanner.runOn PacketCodec.decodeContents b = (.ok packet, rest)) :
    rest.unread.length + PacketCodec.headerSize ≤ b.unread.length := by
  have h10 : 10 ≤ b.unread.length := h10
  have h6 : 2 ≤ (b.skip 4).unread.length := by
    rw [unread_skip_length]
    omega
  rw [PacketCodec.decodeContents,
    Scanner.runOn_bind_ok (runOn_readUInt32 (Nat.le_trans (by decide) h10)),
    Scanner.runOn_bind_ok (runOn_readUInt16 h6)] at h
  generalize hn : (networkToNative (Word.ofBytes ((b.skip 4).unread.take 2) : UInt16)).toNat = n
    at h
  show rest.unread.length + 10 ≤ b.unread.length
  have hcounted : ((b.skip 4).skip 2).unread.length + 6 = b.unread.length := by
    rw [unread_skip_length, unread_skip_length]
    omega
  cases n with
  | zero =>
    have hchecksum : 4 ≤ ((b.skip 4).skip 2).unread.length := by omega
    rw [Scanner.collect, Scanner.runOn_bind_ok (Scanner.runOn_pure _ _),
      Scanner.runOn_bind_ok (runOn_readUInt32 hchecksum), Scanner.runOn_pure] at h
    cases h
    rw [unread_skip_length]
    omega
  | succ n =>
    have hmessages : Consumes HeaderCodec.headerSize (do
        let result ← Scanner.collect PacketCodec.decodeMessage 0 (n + 1)
        let _checksum ← readUInt32
        return { messages := result } : DecodeM Packet) :=
      (Consumes.collect_succ consumes_message advances_message).bind fun _ =>
        advances_uint32.bind fun _ => .pure _
    have hconsumed : rest.unread.length + 6 ≤ ((b.skip 4).skip 2).unread.length := hmessages _ _ _ h
    omega

end Discnet.Network.Messages

namespace Discnet.Network.DataStream

open Lib Buffer Messages

variable {md5 : List Byte → Digest} {s : DataStream} {packet : Packet} {n : Nat}

theorem Finds.headerSize_le (h : Finds md5 s packet n) : PacketCodec.headerSize ≤ n := by
  have hcontents := length_decodeContents (by rw [unread_holding]; exact h.header) h.contents.2
  have hwithin := h.within
  rw [unread_skip_length, unread_holding] at hcontents
  omega

/-- Without a packet there is no other pass. -/
theorem readMore_of_packet_none (h : (processPass md5 s).packet = none) :
    (processPass md5 s).readMore = false := by
  rcases Nat.lt_or_ge s.buffer.items.length PacketCodec.headerSize with hlt | hheader
  · rw [processPass_of_lt md5 hlt]
  rw [processPass_of_le md5 hheader] at h ⊢
  split at h
  · rename_i hcomplete
    rw [if_pos hcomplete]
    rw [packet_decodePass] at h
    rw [decodePass]
    cases hdecode : (Scanner.runOn (PacketCodec.decode md5)
        (resetRead.run (readInt32.run (Buffer.holding s.buffer.items)).2).2).1 with
    | error error =>
      dsimp only
      split_ifs <;> rfl
    | ok packet =>
      rw [hdecode] at h
      contradiction
  · rename_i hincomplete
    rw [if_neg hincomplete]

/-- A pass that is followed by another one found a packet. -/
theorem finds_of_readMore (h : (processPass md5 s).readMore = true) :
    ∃ packet n, Finds md5 s packet n := by
  cases hpacket : (processPass md5 s).packet with
  | some packet =>
    obtain ⟨n, hfinds⟩ := finds_of_packet hpacket
    exact ⟨packet, n, hfinds⟩
  | none =>
    rw [readMore_of_packet_none hpacket] at h
    contradiction

/-- A pass that is followed by another one has taken ten bytes or more. -/
theorem length_stream_of_readMore (h : (processPass md5 s).readMore = true) :
    (processPass md5 s).stream.buffer.items.length + PacketCodec.headerSize ≤
      s.buffer.items.length := by
  obtain ⟨packet, n, hfinds⟩ := finds_of_readMore h
  have hsize := hfinds.headerSize_le
  have hwithin := hfinds.within
  rw [hfinds.pass.2.1, List.length_drop]
  omega

/-- What goes up by one with a pass at most is bounded by the bytes, if it is
for the last pass. -/
theorem count_le {count : DataStream → Nat}
    (hmore : ∀ s, (processPass md5 s).readMore = true →
      count s ≤ count (processPass md5 s).stream + 1)
    (hlast : ∀ s, ¬ (processPass md5 s).readMore = true →
      count s * PacketCodec.headerSize ≤ s.buffer.items.length)
    (s : DataStream) : count s * PacketCodec.headerSize ≤ s.buffer.items.length := by
  induction s using process.induct md5 with
  | case1 s pass h ih =>
    have hlength := length_stream_of_readMore h
    have hcount := Nat.mul_le_mul_right PacketCodec.headerSize (hmore s h)
    rw [Nat.add_mul, Nat.one_mul] at hcount
    exact Nat.le_trans hcount (Nat.le_trans (Nat.add_le_add_right ih _) hlength)
  | case2 s pass h => exact hlast s h

/-- Every pass finds a packet of ten bytes or more, but for the last one,
which may find none. -/
theorem length_passes_le (md5 : List Byte → Digest) (s : DataStream) :
    ((passes md5 s).length - 1) * PacketCodec.headerSize ≤ s.buffer.items.length := by
  refine @count_le md5 (fun s => (passes md5 s).length - 1) (fun s hmore => ?_)
    (fun s hlast => ?_) s
  · show (passes md5 s).length - 1 ≤ (passes md5 (processPass md5 s).stream).length - 1 + 1
    rw [passes, dif_pos hmore, List.length_cons]
    omega
  · show ((passes md5 s).length - 1) * PacketCodec.headerSize ≤ _
    rw [passes, dif_neg hlast]
    simp

theorem length_packet_le (md5 : List Byte → Digest) (s : DataStream) :
    (processPass md5 s).packet.toList.length * PacketCodec.headerSize ≤ s.buffer.items.length := by
  cases hpacket : (processPass md5 s).packet with
  | none => simp
  | some packet =>
    obtain ⟨n, hfinds⟩ := finds_of_packet hpacket
    simpa using hfinds.header

theorem length_packets_le (md5 : List Byte → Digest) (s : DataStream) :
    (process md5 s).1.length * PacketCodec.headerSize ≤ s.buffer.items.length := by
  refine @count_le md5 (fun s => (process md5 s).1.length) (fun s hmore => ?_)
    (fun s hlast => ?_) s
  · have hpacket : (processPass md5 s).packet.toList.length ≤ 1 := by
      cases (processPass md5 s).packet <;> simp
    show (process md5 s).1.length ≤ (process md5 (processPass md5 s).stream).1.length + 1
    rw [process_of_readMore md5 hmore, List.length_append]
    omega
  · show (process md5 s).1.length * PacketCodec.headerSize ≤ _
    rw [process_of_not_readMore md5 hlast]
    exact length_packet_le md5 s

/-- Processing ends, after at most a tenth as many packets as there are
bytes: each pass that is followed by another one leaves at least ten bytes
fewer. -/
theorem process_makes_progress (md5 : List Byte → Digest) (s : DataStream) :
    (∀ t ∈ passes md5 s, (processPass md5 t).readMore = true →
      (processPass md5 t).stream.buffer.items.length + 10 ≤ t.buffer.items.length) ∧
    (passes md5 s).length ≤ s.buffer.items.length / 10 + 1 ∧
    (process md5 s).1.length ≤ s.buffer.items.length / 10 := by
  have hpasses := length_passes_le md5 s
  have hpackets := length_packets_le md5 s
  have hten : PacketCodec.headerSize = 10 := rfl
  rw [hten] at hpasses hpackets
  refine ⟨fun t _ hmore => length_stream_of_readMore hmore, by omega, by omega⟩

end Discnet.Network.DataStream
