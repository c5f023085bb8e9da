import Discnet.Network.PacketImage
import Discnet.Network.Passes
import Discnet.Lib.Tracking

/-!
# Where a packet ends

A packet says how long it is, but its contents are read by their counts from
all the bytes that are there. A packet comes from its own bytes alone exactly
where a walk over them by these counts ends with them.
-/

namespace Discnet.Network.Messages

open Lib Buffer Walk

-- ---------------------------------------------------------------------------
-- Walking over the contents
-- ---------------------------------------------------------------------------

/-- A message, whatever size its header gives. -/
def walkSized : Walk Byte Unit := do
  let _ ← walkHeaderAndBody

def walkContents : Walk Byte Unit := do
  let _ ← word UInt32
  let messages ← word UInt16
  times walkSized messages.toNat
  let _ ← word UInt32

/-- The counts in the declared bytes of a packet lead to their end. -/
def CountsAgree (bytes : List Byte) : Prop :=
  declaredSize bytes < 2 ^ 31 ∧
    walkContents.run (bytes.take (declaredSize bytes)) = some ((), [])

instance : DecidablePred CountsAgree := fun _ => inferInstanceAs (Decidable (_ ∧ _ = _))

theorem takes_sized :
    Takes walkSized fun _ w => ∃ item : UInt32 × Message,
      item.2.CountsFit ∧ w = sizedBytes item.1 item.2 := by
  refine (takes_headerAndBody.bind fun _ => takes_pure _).congr fun _ w => ?_
  constructor
  · rintro ⟨size, _, _, ⟨message, hm, rfl⟩, ⟨-, rfl⟩, rfl⟩
    exact ⟨(size, message), hm, List.append_nil _⟩
  · rintro ⟨⟨size, message⟩, hm, rfl⟩
    exact ⟨size, _, _, ⟨message, hm, rfl⟩, ⟨rfl, rfl⟩, (List.append_nil _).symm⟩

theorem takes_contents :
    Takes walkContents fun _ w => ∃ (size checksum : UInt32) (items : List (UInt32 × Message)),
      (items.length ≤ maxCount ∧ ∀ item ∈ items, item.2.CountsFit) ∧
        w = wordBytes size ++ (wordBytes (UInt16.ofNat items.length) ++
          (items.flatMap (fun item => sizedBytes item.1 item.2) ++ wordBytes checksum)) :=
  takes_framed takes_sized

-- ---------------------------------------------------------------------------
-- Decoding follows the walk
-- ---------------------------------------------------------------------------

/-- More than any single read asks for. -/
def ample : Nat := 65536

theorem follows_read {α : Type} [Word α] (hp : 0 < Word.size α) (hn : Word.size α < n) :
    Follows n (liftM (read α) : DecodeM α) (word α) fun a v => networkToNative a = v := by
  intro b a b' hrun hleft
  rw [Scanner.runOn_lift] at hrun
  rcases Nat.lt_or_ge b.unread.length (Word.size α) with hlt | hle
  · rw [read_of_lt hlt] at hrun
    obtain ⟨-, rfl⟩ := Prod.mk.inj hrun
    exact absurd (Nat.le_trans (Nat.le_of_lt hn) hleft) (Nat.not_le.mpr hlt)
  · rw [read_of_le hp hle] at hrun
    obtain ⟨⟨⟩, rfl⟩ := Prod.mk.inj hrun
    refine ⟨_, ?_, networkToNative_ofBytes (List.length_take_of_le hle)⟩
    have hword : (word α).run b.unread = some (Word.ofBigEndian (b.unread.take (Word.size α)),
      b.unread.drop (Word.size α)) := if_pos hle
    exact hword.trans (by rw [← unread_skip]; rfl)

theorem follows_readBuffer {k : Nat} (hk : k < n) :
    Follows n (liftM (readBuffer k) : DecodeM (List Byte)) (Walk.skip k) fun _ _ => True := by
  intro b a b' hrun hleft
  rw [Scanner.runOn_lift] at hrun
  rcases Nat.lt_or_ge k b.unread.length with hlt | hle
  · rw [readBuffer_of_lt hlt] at hrun
    obtain ⟨-, rfl⟩ := Prod.mk.inj hrun
    have hskip : (Walk.skip k).run b.unread = some ((), b.unread.drop k) :=
      if_pos (Nat.le_of_lt hlt)
    exact ⟨(), hskip.trans (by rw [← unread_skip]; rfl), trivial⟩
  · rw [readBuffer_of_le hle] at hrun
    obtain ⟨-, rfl⟩ := Prod.mk.inj hrun
    exact absurd (Nat.le_trans hleft hle) (Nat.not_le.mpr hk)

theorem follows_uint16 :
    Follows ample (liftM readUInt16 : DecodeM UInt16) (word UInt16) fun a v =>
      networkToNative a = v := follows_read (by decide) (by decide)

theorem follows_uint32 :
    Follows ample (liftM readUInt32 : DecodeM UInt32) (word UInt32) fun a v =>
      networkToNative a = v := follows_read (by decide) (by decide)

def walkHeader : Walk Byte Header := do
  let size ← word UInt32
  let type ← word UInt16
  return ⟨size, .ofUInt16 type⟩

theorem walkSized_eq : walkSized = (do
    let header ← walkHeader
    walkBody header.type) := by
  simp [walkSized, walkHeaderAndBody, walkHeader]

theorem follows_header : Follows ample HeaderCodec.decode walkHeader Eq := by
  refine .check (follows_uint32.bind (fun _ => advances_uint16.bind fun _ => .pure _) ?_)
  rintro size _ rfl
  refine follows_uint16.bind (fun _ => .pure _) ?_
  rintro type _ rfl
  exact .pure rfl

theorem follows_data : Follows ample DataMessageCodec.decode walkData fun _ _ => True := by
  refine .check (follows_uint16.bind (fun _ => advances_uint16.bind fun _ =>
    (Advances.lift (readBuffer_advances _)).bind fun _ => .pure _) ?_)
  rintro identifier _ rfl
  refine follows_uint16.bind (fun _ => (Advances.lift (readBuffer_advances _)).bind fun _ =>
    .pure _) ?_
  rintro size _ rfl
  exact (follows_readBuffer (networkToNative size).toNat_lt).bind_pure fun _ _ _ => trivial

theorem word_bind_skip (k : Nat) :
    (word UInt16 >>= fun _ => Walk.skip k) = (Walk.skip (2 + k) : Walk Byte Unit) := by
  funext bytes
  show (word UInt16 bytes).bind (fun p => Walk.skip k p.2) = Walk.skip (2 + k) bytes
  by_cases h : 2 ≤ bytes.length
  · have hrest : k ≤ bytes.length - 2 ↔ 2 + k ≤ bytes.length := by omega
    simp [word, Walk.skip, h, hrest, List.drop_drop]
  · have hshort : ¬ 2 + k ≤ bytes.length := by omega
    simp [word, Walk.skip, h, hshort]

theorem follows_jumps (i k : Nat) :
    Follows ample (Scanner.collect DiscoveryMessageCodec.decodeJump i k) (Walk.skip (2 * k))
      fun _ _ => True := by
  induction k generalizing i with
  | zero =>
    have hskip : (Walk.skip (2 * 0) : Walk Byte Unit) = pure () := rfl
    rw [hskip]
    exact .pure trivial
  | succ k ih =>
    have hskip : 2 * (k + 1) = 2 + 2 * k := by omega
    rw [hskip, ← word_bind_skip]
    refine (follows_uint16.bind_pure fun _ _ h => h).bind
      (fun _ => (Advances.collect advances_jump).bind fun _ => .pure _) ?_
    intro jump _ _
    exact (ih (i + 1)).bind_pure fun _ _ _ => trivial

theorem follows_node (i : Nat) :
    Follows ample (DiscoveryMessageCodec.decodeNode i) walkNode fun _ _ => True := by
  refine follows_uint16.bind (fun _ => advances_uint32.bind fun _ => advances_uint16.bind fun _ =>
    (Advances.collect advances_jump).bind fun _ => .pure _) ?_
  intro identifier _ _
  refine follows_uint32.bind (fun _ => advances_uint16.bind fun _ =>
    (Advances.collect advances_jump).bind fun _ => .pure _) ?_
  intro address _ _
  refine follows_uint16.bind (fun _ => (Advances.collect advances_jump).bind fun _ => .pure _) ?_
  rintro count _ rfl
  exact (follows_jumps 0 _).bind_pure fun _ _ _ => trivial

theorem follows_discovery :
    Follows ample DiscoveryMessageCodec.decode walkDiscovery fun _ _ => True := by
  refine .check (follows_uint16.bind (fun _ => advances_uint16.bind fun _ =>
    (Advances.collect advances_node).bind fun _ => .pure _) ?_)
  rintro identifier _ rfl
  refine follows_uint16.bind (fun _ => (Advances.collect advances_node).bind fun _ => .pure _) ?_
  rintro count _ rfl
  exact (Follows.collect follows_node advances_node).bind_pure fun _ _ _ => trivial

theorem follows_message (i : Nat) :
    Follows ample (PacketCodec.decodeMessage i) walkSized fun _ _ => True := by
  rw [walkSized_eq]
  refine (follows_header.mapError _).bind (fun header => ?_) ?_
  · cases header.type with
    | discoveryMessage => exact (advances_discovery.mapError _).bind fun _ => .pure _
    | dataMessage => exact (advances_data.mapError _).bind fun _ => .pure _
    | commandMessage => exact .throw _
    | other value => exact .throw _
  · rintro header _ rfl
    cases header.type with
    | discoveryMessage =>
      exact (follows_discovery.mapError _).bind_pure fun _ _ _ => trivial
    | dataMessage => exact (follows_data.mapError _).bind_pure fun _ _ _ => trivial
    | commandMessage => exact .throw _ _
    | other value => exact .throw _ _

theorem follows_contents :
    Follows ample PacketCodec.decodeContents walkContents fun _ _ => True := by
  refine follows_uint32.bind (fun _ => advances_uint16.bind fun _ =>
    (Advances.collect advances_message).bind fun _ => advances_uint32.bind fun _ => .pure _) ?_
  rintro size _ rfl
  refine follows_uint16.bind (fun _ => (Advances.collect advances_message).bind fun _ =>
    advances_uint32.bind fun _ => .pure _) ?_
  rintro count _ rfl
  refine (Follows.collect follows_message advances_message).bind
    (fun _ => advances_uint32.bind fun _ => .pure _) ?_
  intro messages _ _
  exact follows_uint32.bind (fun _ => .pure _) fun _ _ _ => .pure trivial

end Discnet.Network.Messages

namespace Discnet.Network

open Lib Buffer Messages

namespace DataStream

variable {md5 : List Byte → Digest} {s : DataStream} {packet : Packet} {n : Nat}

-- ---------------------------------------------------------------------------
-- Packets that come from their own bytes
-- ---------------------------------------------------------------------------

variable (md5) in
/-- Whatever follows the declared bytes, the pass gives the packet and goes on
with what follows. -/
def Framed (s : DataStream) (packet : Packet) : Prop :=
  ∀ (t : DataStream) (following : List Byte),
    t.buffer.items = s.buffer.items.take (declaredSize s.buffer.items) ++ following →
      (processPass md5 t).packet = some packet ∧
        (processPass md5 t).stream.buffer.items = following ∧
        ((processPass md5 t).readMore = true ↔ following ≠ [])

section
variable {bytes : List Byte} (h4 : 4 ≤ declaredSize bytes)
  (hl : declaredSize bytes ≤ bytes.length)
include h4 hl

theorem declaredSize_take_append (following : List Byte) :
    declaredSize (bytes.take (declaredSize bytes) ++ following) = declaredSize bytes := by
  have hlen := List.length_take_of_le hl
  rw [declaredSize_append (by omega), declaredSize, List.take_take, Nat.min_eq_left h4,
    declaredSize]

theorem checksumOk_take_append (following : List Byte) :
    ChecksumOk md5 (bytes.take (declaredSize bytes) ++ following) ↔ ChecksumOk md5 bytes := by
  have hsize := declaredSize_take_append h4 hl following
  have hlen := List.length_take_of_le hl
  have hbody : (bytes.take (declaredSize bytes) ++ following).take (declaredSize bytes - 4) =
      bytes.take (declaredSize bytes - 4) := by
    rw [List.take_append_of_le_length (by omega), List.take_take, Nat.min_eq_left (by omega)]
  have hword : ((bytes.take (declaredSize bytes) ++ following).drop
      (declaredSize bytes - 4)).take 4 = (bytes.drop (declaredSize bytes - 4)).take 4 := by
    have hfour : declaredSize bytes - (declaredSize bytes - 4) = 4 := by omega
    rw [List.drop_append_of_le_length (by omega), List.take_append_of_le_length, List.drop_take,
      hfour, List.take_take, Nat.min_self]
    rw [List.length_drop]
    omega
  rw [ChecksumOk, ChecksumOk, declaredChecksum, declaredChecksum, hsize, hbody, hword]

end

theorem Finds.checksumOk (h : Finds md5 s packet n) (h4 : 4 ≤ declaredSize s.buffer.items)
    (hl : declaredSize s.buffer.items ≤ s.buffer.items.length) :
    ChecksumOk md5 s.buffer.items := by
  obtain ⟨v, hvalid⟩ := h.contents.1
  have hdata := data_holding s.buffer.items
  have hok := checksumOk_of_valid md5 (readOffset_holding _)
    (by rw [hdata]; exact Nat.le_trans h4 hl) (by rwa [hdata]) (by rwa [hdata])
    (Prod.ext hvalid rfl)
  rwa [hdata] at hok

/-- Where the counts agree with the size, the same packet is found in front of
anything. -/
theorem finds_of_countsAgree (h : Finds md5 s packet n) (hagree : CountsAgree s.buffer.items) :
    ∃ found, ∀ (t : DataStream) (following : List Byte),
      t.buffer.items = s.buffer.items.take (declaredSize s.buffer.items) ++ following →
        Finds md5 t found (declaredSize s.buffer.items) := by
  obtain ⟨hsmall, hwalk⟩ := hagree
  have hl : declaredSize s.buffer.items ≤ s.buffer.items.length :=
    signedSize_of_lt hsmall ▸ h.complete
  obtain ⟨_, ⟨size, checksum, items, ⟨hcount, hfit⟩, rfl⟩, hbytes⟩ :=
    (takes_contents _ _ _).mp hwalk
  rw [List.append_nil] at hbytes
  have hn : declaredSize s.buffer.items =
      10 + (items.flatMap fun item => sizedBytes item.1 item.2).length := by
    have hlen := congrArg List.length hbytes
    rw [List.length_take_of_le hl] at hlen
    simp only [List.length_append, length_wordBytes, size_uint16, size_uint32] at hlen
    omega
  have h4 : 4 ≤ declaredSize s.buffer.items := by omega
  refine ⟨{ messages := items.map Prod.snd }, fun t following ht => ?_⟩
  have hsize : declaredSize t.buffer.items = declaredSize s.buffer.items := by
    rw [ht, declaredSize_take_append h4 hl]
  have hlen : declaredSize s.buffer.items ≤ t.buffer.items.length := by
    rw [ht, List.length_append, List.length_take_of_le hl]
    exact Nat.le_add_right _ _
  have hok : ChecksumOk md5 t.buffer.items := by
    rw [ht, checksumOk_take_append h4 hl]
    exact h.checksumOk h4 hl
  have hdata := data_holding t.buffer.items
  have hunread : (Buffer.holding t.buffer.items).unread =
      wordBytes size ++ (wordBytes (UInt16.ofNat items.length) ++
        (items.flatMap (fun item => sizedBytes item.1 item.2) ++
          (wordBytes checksum ++ following))) := by
    rw [unread_holding, ht, hbytes]
    simp only [List.append_assoc]
  constructor
  · exact Nat.le_trans (by rw [hn]; exact Nat.le_add_right _ _) hlen
  · rw [signedSize_of_lt (by rwa [hsize]), hsize]
    exact hlen
  · rw [decode_eq md5 (readOffset_holding _) (by rw [hdata]; omega) (by rw [hdata]; omega)
      (by rw [hdata]; omega) (by rwa [hdata]),
      decodeContents_sized items hcount hfit (length_wordBytes checksum) hunread, ← hn]
  · omega
  · exact hlen

theorem framed_of_countsAgree (h : Finds md5 s packet n) (hagree : CountsAgree s.buffer.items) :
    Framed md5 s packet := by
  have hl : declaredSize s.buffer.items ≤ s.buffer.items.length :=
    signedSize_of_lt hagree.1 ▸ h.complete
  obtain ⟨found, hfinds⟩ := finds_of_countsAgree h hagree
  have hthis := (hfinds s _ (List.take_append_drop _ _).symm).pass.1
  rw [h.pass.1] at hthis
  obtain rfl := Option.some.inj hthis
  intro t following ht
  obtain ⟨hpacket, hitems, hmore⟩ := (hfinds t following ht).pass
  rw [ht, List.drop_left' (List.length_take_of_le hl)] at hitems hmore
  exact ⟨hpacket, hitems, hmore⟩

def streamHolding (bytes : List Byte) : DataStream := ⟨⟨bytes, bytes.length, Nat.le_refl _⟩⟩

theorem countsAgree_of_framed (h : Finds md5 s packet n) (hframed : Framed md5 s packet) :
    CountsAgree s.buffer.items := by
  have hl : declaredSize s.buffer.items ≤ s.buffer.items.length :=
    Nat.le_trans (declaredSize_le_signedSize _) h.complete
  have hlen := List.length_take_of_le hl
  constructor
  · -- the packet is complete with nothing behind it
    obtain ⟨k, halone⟩ := finds_of_packet (hframed
      (streamHolding (s.buffer.items.take (declaredSize s.buffer.items))) []
      (List.append_nil _).symm).1
    have hheader : PacketCodec.headerSize ≤
        (s.buffer.items.take (declaredSize s.buffer.items)).length := halone.header
    have hcomplete : signedSize (s.buffer.items.take (declaredSize s.buffer.items)) ≤
        (s.buffer.items.take (declaredSize s.buffer.items)).length := halone.complete
    rw [hlen] at hheader hcomplete
    have hsize := declaredSize_take_append (Nat.le_trans (by decide) hheader) hl []
    rw [List.append_nil] at hsize
    rw [← hsize]
    exact declaredSize_lt_of_signedSize_le (by rwa [hsize])
  · -- with ample bytes behind it, decoding never runs short
    have hfollowing : (List.replicate ample (0 : Byte)).length = ample := List.length_replicate
    obtain ⟨hpacket, hitems, -⟩ := hframed (streamHolding (s.buffer.items.take
      (declaredSize s.buffer.items) ++ List.replicate ample 0)) (List.replicate ample 0) rfl
    obtain ⟨k, hfinds⟩ := finds_of_packet hpacket
    rw [hfinds.pass.2.1] at hitems
    have hrest : ((Buffer.holding (streamHolding (s.buffer.items.take
        (declaredSize s.buffer.items) ++ List.replicate ample 0)).buffer.items).skip k).unread =
          List.replicate ample 0 := by
      rw [unread_skip, unread_holding, hitems]
    obtain ⟨v, hwalk, -⟩ := follows_contents _ _ _ hfinds.contents.2 (by
      show ample ≤ (Buffer.unread _).length
      rw [hrest, hfollowing])
    have hwalk : walkContents.run (s.buffer.items.take (declaredSize s.buffer.items) ++
        List.replicate ample 0) = some ((), List.replicate ample 0) := by
      have hunread : Cursor.unread (Buffer.holding (streamHolding (s.buffer.items.take
          (declaredSize s.buffer.items) ++ List.replicate ample 0)).buffer.items) =
            s.buffer.items.take (declaredSize s.buffer.items) ++ List.replicate ample 0 :=
        unread_holding _
      rw [hunread] at hwalk
      exact hwalk.trans (congrArg (fun rest => some ((), rest)) hrest)
    obtain ⟨w, hw, hbytes⟩ := (takes_contents _ _ _).mp hwalk
    refine (takes_contents _ _ _).mpr ⟨w, hw, ?_⟩
    rw [List.append_nil]
    exact List.append_cancel_right hbytes

/-- Of the packets a stream gives out, those come from their own bytes alone
whose counts agree with their size. -/
theorem framed_iff_countsAgree (md5 : List Byte → Digest) (s : DataStream) :
    (returned md5 s).map Prod.snd = (process md5 s).1 ∧
      ∀ found ∈ returned md5 s,
        (Framed md5 found.1 found.2 ↔ CountsAgree found.1.buffer.items) := by
  refine ⟨map_returned md5 s, fun found hfound => ?_⟩
  obtain ⟨n, hfinds⟩ := finds_of_packet (packet_of_mem_returned md5 hfound)
  exact ⟨countsAgree_of_framed hfinds, framed_of_countsAgree hfinds⟩

/-- The packet is followed by the first bytes of another one. -/
theorem framed_iff_countsAgree_routeAndPayload :
    Framed (fun _ => routeAndPayloadDigest) (streamHolding (routeAndPayloadBytes ++ [0, 0, 0]))
        { messages := routeAndPayload } ↔
      CountsAgree (routeAndPayloadBytes ++ [0, 0, 0]) :=
  (framed_iff_countsAgree (fun _ => routeAndPayloadDigest)
    (streamHolding (routeAndPayloadBytes ++ [0, 0, 0]))).2
      (streamHolding (routeAndPayloadBytes ++ [0, 0, 0]), { messages := routeAndPayload })
      (mem_returned _ (by decide +kernel))

/-- A packet of one data message that announces four bytes of payload, where
only the checksum is left. -/
def shortPayload : List Byte :=
  [0, 0, 0, 20, 0, 1, 0, 0, 0, 14, 0, 2, 0, 7, 0, 4, 0x53, 0x5b, 0xd3, 0x09]

def shortPayloadDigest : Digest :=
  #v[0x99, 0x20, 0x81, 0xb0, 0xe6, 0x51, 0xd8, 0xed, 0x86, 0xd0, 0x08, 0xbb, 0x09, 0xd3, 0x5b, 0x53]

/-- With anything behind it the checksum is read as the payload. -/
theorem shortPayload_not_framed :
    (streamHolding shortPayload, { messages := [.data ⟨7, []⟩] }) ∈
      returned (fun _ => shortPayloadDigest) (streamHolding shortPayload) ∧
    ¬ Framed (fun _ => shortPayloadDigest) (streamHolding shortPayload)
      { messages := [.data ⟨7, []⟩] } := by
  refine ⟨mem_returned _ (by decide +kernel), fun h => ?_⟩
  have hpacket := (h (streamHolding (shortPayload ++ [0])) [0] rfl).1
  revert hpacket
  decide +kernel

end DataStream

end Discnet.Network
