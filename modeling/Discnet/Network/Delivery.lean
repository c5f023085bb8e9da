import Discnet.Network.NetworkHandler
import Discnet.Network.Reassembly
import Discnet.Lib.Entries
import Mathlib.Logic.Function.Basic

/-!
# Delivery of datagrams

A receiver gets whole datagrams from any senders and updates now and then.
For each sender its stream holds the packets that came since the last
update, and an update raises their messages in order. This takes room: a
datagram that does not fit what is left of the allocation is lost, with
everything that is pending before it.
-/

namespace Discnet.Network

open Lib Messages DataStream Std

-- ---------------------------------------------------------------------------
-- What transmit_multicast sends
-- ---------------------------------------------------------------------------

/-- The messages fit the buffer of a transmission. -/
def Transmittable (md5 : List Byte → Digest) (messages : MessageList) : Prop :=
  ((PacketCodec.encode md5 messages).run (.new 4096)).1 = true

def transmission (md5 : List Byte → Digest) (messages : MessageList) : List Byte :=
  ((PacketCodec.encode md5 messages).run (.new 4096)).2.data

section
variable {md5 : List Byte → Digest} {messages : MessageList}

theorem totalPacketSize_of_transmittable (h : Transmittable md5 messages) :
    PacketCodec.totalPacketSize messages ≤ 4096 := (data_of_encode_new md5 h).1

theorem transmission_eq (h : Transmittable md5 messages) :
    transmission md5 messages = packetBytes md5 messages := (data_of_encode_new md5 h).2

theorem deliverable_of_transmittable (h : Transmittable md5 messages) : Deliverable messages := by
  have hsize := totalPacketSize_of_transmittable h
  exact ⟨countsFit_of_le (Nat.le_trans hsize (by decide)), by omega⟩

end

-- ---------------------------------------------------------------------------
-- What a client holds
-- ---------------------------------------------------------------------------

namespace NetworkClient

/-- The stream of what came from a sender, or the one that would be made
for it. -/
def streamOf (sender : Address) (client : NetworkClient) : DataStream :=
  client.dataHandler.streams[(⟨sender, client.info.multicast⟩ : DataStreamIdentifier)]?.getD
    (.new client.dataHandler.bufferSize)

def unreadBytes (sender : Address) (client : NetworkClient) : Nat :=
  (client.streamOf sender).buffer.items.length

/-- Everything came through the multicast group. -/
def OwnStreams (client : NetworkClient) : Prop :=
  ∀ entry ∈ client.dataHandler.streams.toList, entry.1.recipientIp = client.info.multicast

/-- The streams hold the encodings of the packets that are pending for each
sender, in the allocation they were made with. -/
structure Holds (md5 : List Byte → Digest) (client : NetworkClient)
    (pending : Address → List Packet) : Prop where
  bufferSize : client.dataHandler.bufferSize = 4095
  ownStreams : client.OwnStreams
  items : ∀ sender, (client.streamOf sender).buffer.items = packetsBytes md5 (pending sender)
  capacity : ∀ sender, (client.streamOf sender).buffer.capacity = 4095
  deliverable : ∀ sender, ∀ packet ∈ pending sender, Deliverable packet.messages

section
variable {md5 : List Byte → Digest} {client : NetworkClient} {pending : Address → List Packet}

theorem ownStreams_new (h : client.dataHandler = .new bufferSize) : client.OwnStreams := by
  simp [OwnStreams, h, DataHandler.new]

theorem unreadBytes_new (h : client.dataHandler = .new bufferSize) (sender : Address) :
    client.unreadBytes sender = 0 := by
  simp [unreadBytes, streamOf, h, DataHandler.new]

theorem holds_new (md5 : List Byte → Digest) (h : client.dataHandler = .new 4095) :
    client.Holds md5 fun _ => [] := by
  constructor
  case bufferSize => rw [h]; rfl
  case ownStreams => exact ownStreams_new h
  case items => simp [streamOf, h, DataHandler.new, packetsBytes]
  case capacity => simp [streamOf, h, DataHandler.new]
  case deliverable => simp

theorem streamOf_handleRead (data : List Byte) (sender other : Address) :
    (client.handleRead data sender).streamOf other =
      if other = sender then (client.streamOf other).handleReceive data
      else client.streamOf other := by
  simp only [streamOf, handleRead, DataHandler.getElem?_handleReceive,
    DataStreamIdentifier.mk.injEq, and_true]
  split <;> rfl

theorem OwnStreams.handleRead (hc : client.OwnStreams) (data : List Byte) (sender : Address) :
    (client.handleRead data sender).OwnStreams := by
  rintro ⟨id, stream⟩ hentry
  rw [TreeMap.mem_toList_iff_getElem?_eq_some] at hentry
  rw [NetworkClient.handleRead, DataHandler.getElem?_handleReceive] at hentry
  split at hentry
  · rename_i hid
    rw [hid]
    rfl
  · exact hc (id, stream) (TreeMap.mem_toList_iff_getElem?_eq_some.mpr hentry)

/-- A datagram that finds room is pending afterwards, behind what was
pending before. -/
theorem Holds.handleRead {messages : MessageList} (hc : client.Holds md5 pending)
    (hm : Deliverable messages)
    (hroom : client.unreadBytes sender + (packetBytes md5 messages).length ≤ 4095) :
    (client.handleRead (packetBytes md5 messages) sender).Holds md5
      (Function.update pending sender (pending sender ++ [⟨messages⟩])) := by
  have hfits : (packetBytes md5 messages).length +
      (client.streamOf sender).buffer.items.length ≤ (client.streamOf sender).buffer.capacity := by
    rw [hc.capacity, Nat.add_comm]
    exact hroom
  constructor
  case bufferSize => exact hc.bufferSize
  case ownStreams => exact hc.ownStreams.handleRead _ _
  case items =>
    intro other
    rw [streamOf_handleRead]
    by_cases h : other = sender
    · subst h
      rw [if_pos rfl, items_handleReceive hfits, Function.update_self, hc.items]
      simp [packetsBytes]
    · rw [if_neg h, Function.update_of_ne h]
      exact hc.items other
  case capacity =>
    intro other
    rw [streamOf_handleRead]
    by_cases h : other = sender
    · subst h
      rw [if_pos rfl, capacity_handleReceive hfits]
      exact hc.capacity other
    · rw [if_neg h]
      exact hc.capacity other
  case deliverable =>
    intro other packet hp
    by_cases h : other = sender
    · subst h
      rw [Function.update_self] at hp
      rcases List.mem_append.mp hp with hp | hp
      · exact hc.deliverable _ _ hp
      · obtain rfl := List.mem_singleton.mp hp
        exact hm
    · rw [Function.update_of_ne h] at hp
      exact hc.deliverable _ _ hp

/-- Processing a stream gives out everything that is pending. -/
theorem Holds.process (hc : client.Holds md5 pending) (sender : Address) :
    ((client.streamOf sender).process md5).1 = pending sender ∧
      ((client.streamOf sender).process md5).2.buffer.items = [] :=
  (receiver_cuts md5).drain (hc.deliverable sender) (hc.items sender)

theorem streamOf_update (current : TimePoint) (sender : Address) :
    (client.update md5 current).2.streamOf sender =
      ((client.streamOf sender).process md5).2 := by
  simp only [streamOf, NetworkClient.update, DataHandler.getElem?_process]
  cases client.dataHandler.streams[(⟨sender, client.info.multicast⟩ : DataStreamIdentifier)]? with
  | none => exact (congrArg Prod.snd (process_new md5 _)).symm
  | some stream => rfl

theorem OwnStreams.update (hc : client.OwnStreams) (md5 : List Byte → Digest)
    (current : TimePoint) : (client.update md5 current).2.OwnStreams := by
  intro entry hentry
  obtain ⟨old, hold, rfl⟩ := List.mem_map.mp (TreeMap.toList_map ▸ hentry)
  exact hc old hold

theorem Holds.update (hc : client.Holds md5 pending) (current : TimePoint) :
    (client.update md5 current).2.Holds md5 fun _ => [] := by
  constructor
  case bufferSize => exact hc.bufferSize
  case ownStreams => exact hc.ownStreams.update md5 current
  case items =>
    intro sender
    rw [streamOf_update]
    exact (hc.process sender).2
  case capacity =>
    intro sender
    rw [streamOf_update, capacity_process]
    exact hc.capacity sender
  case deliverable => simp

theorem update_events (current : TimePoint) :
    (client.update md5 current).1 = client.dataHandler.streams.toList.flatMap fun entry =>
      streamEvents current client ⟨entry.1, (entry.2.process md5).1⟩ :=
  List.flatMap_map _ _ _

theorem sender_of_mem_streamEvents {e : NetworkEvent} {stream : DataStreamPackets}
    (h : e ∈ streamEvents current client stream) :
    e.info = ⟨current, stream.identifier.senderIp, stream.identifier.recipientIp,
      client.info.adapter⟩ := by
  obtain ⟨packet, -, he⟩ := List.mem_flatMap.mp h
  obtain ⟨message, -, rfl⟩ := List.mem_map.mp he
  exact info_messageEvent _ _

theorem filter_streamEvents (stream : DataStreamPackets) (sender : Address) :
    ((streamEvents current client stream).filter fun e => e.info.sender = sender).map
        NetworkEvent.message =
      if stream.identifier.senderIp = sender then stream.packets.flatMap Packet.messages
      else [] := by
  split
  · rename_i h
    rw [List.filter_eq_self.mpr fun e he => by simp [sender_of_mem_streamEvents he, h]]
    simp only [streamEvents, List.map_flatMap, List.map_map, Function.comp_def,
      message_messageEvent, List.map_id']
  · rename_i h
    rw [List.filter_eq_nil_iff.mpr fun e he => by simp [sender_of_mem_streamEvents he, h],
      List.map_nil]

theorem OwnStreams.messages_update (hc : client.OwnStreams) (current : TimePoint)
    (sender : Address) :
    ((client.update md5 current).1.filter fun e => e.info.sender = sender).map
        NetworkEvent.message =
      ((client.streamOf sender).process md5).1.flatMap Packet.messages := by
  rw [update_events, List.filter_flatMap, List.map_flatMap]
  simp only [filter_streamEvents]
  rw [flatMap_toList_of_key (k := (⟨sender, client.info.multicast⟩ : DataStreamIdentifier))]
  · rw [streamOf]
    cases client.dataHandler.streams[(⟨sender, client.info.multicast⟩ : DataStreamIdentifier)]? with
    | none =>
      rw [Option.getD_none, process_new]
      rfl
    | some stream => exact if_pos rfl
  · rintro ⟨⟨senderIp, recipientIp⟩, stream⟩ hentry hne
    have hrecipient : recipientIp = client.info.multicast := hc _ hentry
    refine if_neg ?_
    rintro rfl
    exact hne (by rw [hrecipient])

theorem OwnStreams.info_update (hc : client.OwnStreams) {e : NetworkEvent}
    (h : e ∈ (client.update md5 current).1) :
    e.info.adapter = client.info.adapter ∧ e.info.receiver = client.info.multicast := by
  rw [update_events] at h
  obtain ⟨entry, hentry, he⟩ := List.mem_flatMap.mp h
  rw [sender_of_mem_streamEvents he]
  exact ⟨rfl, hc entry hentry⟩

theorem Holds.messages_update (hc : client.Holds md5 pending) (current : TimePoint)
    (sender : Address) :
    ((client.update md5 current).1.filter fun e => e.info.sender = sender).map
      NetworkEvent.message = (pending sender).flatMap Packet.messages := by
  rw [hc.ownStreams.messages_update, (hc.process sender).1]

end

end NetworkClient

-- ---------------------------------------------------------------------------
-- Runs
-- ---------------------------------------------------------------------------

namespace NetworkHandler

/-- What happens to a receiver: a transmission arrives at its `i`-th client,
or it updates. -/
inductive ReceiverOp
  | receive (i : Nat) (sender : Address) (messages : MessageList)
  | update (current : TimePoint)

section
variable (md5 : List Byte → Digest)

def receive (i : Nat) (sender : Address) (messages : MessageList) (h : NetworkHandler) :
    NetworkHandler :=
  { h with clients := h.clients.modify i (·.handleRead (transmission md5 messages) sender) }

def receiverStep (h : NetworkHandler) : ReceiverOp → NetworkHandler
  | .receive i sender messages => h.receive md5 i sender messages
  | .update current => (h.update md5 current).2

def stepEvents (i : Nat) (h : NetworkHandler) : ReceiverOp → List NetworkEvent
  | .receive _ _ _ => []
  | .update current =>
    h.collectClients.clients[i]?.elim [] fun client => (client.update md5 current).1

def eventsOf (i : Nat) : NetworkHandler → List ReceiverOp → List NetworkEvent
  | _, [] => []
  | h, op :: ops => h.stepEvents md5 i op ++ eventsOf i (h.receiverStep md5 op) ops

/-- Whatever arrives at the `i`-th client finds room behind what is unread
of its sender. -/
def FindsRoom (i : Nat) : NetworkHandler → List ReceiverOp → Prop
  | _, [] => True
  | h, .receive j sender messages :: ops =>
    (j = i → ∀ client, h.clients[i]? = some client →
      client.unreadBytes sender + (transmission md5 messages).length ≤ 4095) ∧
    FindsRoom i (h.receive md5 j sender messages) ops
  | h, .update current :: ops => FindsRoom i (h.update md5 current).2 ops

end

def sentTo (i : Nat) (sender : Address) : List ReceiverOp → MessageList
  | [] => []
  | .receive j from_ messages :: ops =>
    (if j = i ∧ from_ = sender then messages else []) ++ sentTo i sender ops
  | .update _ :: ops => sentTo i sender ops

section
variable {md5 : List Byte → Digest} {h : NetworkHandler} {client : NetworkClient}
  {pending : Address → List Packet} {i : Nat}

theorem clients_collectClients (hi : h.clients[i]? = some client) :
    h.collectClients.clients[i]? = some client := by
  obtain ⟨hlt, -⟩ := List.getElem?_eq_some_iff.mp hi
  rw [collectClients, List.getElem?_append_left hlt, hi]

theorem clients_update (md5 : List Byte → Digest) (hi : h.clients[i]? = some client)
    (current : TimePoint) :
    (h.update md5 current).2.clients[i]? = some (client.update md5 current).2 := by
  simp only [update, List.map_map, List.getElem?_map, clients_collectClients hi, Option.map_some,
    Function.comp_apply]

theorem clients_receive (md5 : List Byte → Digest) (hi : h.clients[i]? = some client) (j : Nat)
    (sender : Address) (messages : MessageList) :
    (h.receive md5 j sender messages).clients[i]? =
      some (if j = i then client.handleRead (transmission md5 messages) sender else client) := by
  rw [receive, List.getElem?_modify, hi]
  split <;> rfl

theorem update_events (current : TimePoint) :
    (h.update md5 current).1 =
      h.collectClients.clients.flatMap fun client => (client.update md5 current).1 :=
  List.flatMap_map _ _ _

/-- What a run raises for a client is what was pending and what was sent. -/
theorem messages_eventsOf (hi : h.clients[i]? = some client) (hc : client.Holds md5 pending)
    (ht : ∀ sender messages, .receive i sender messages ∈ ops → Transmittable md5 messages)
    (hroom : h.FindsRoom md5 i ops) (current : TimePoint) (sender : Address) :
    ((h.eventsOf md5 i (ops ++ [.update current])).filter fun e => e.info.sender = sender).map
        NetworkEvent.message =
      (pending sender).flatMap Packet.messages ++ sentTo i sender ops := by
  induction ops generalizing h client pending with
  | nil =>
    simp only [List.nil_append, eventsOf, stepEvents, clients_collectClients hi, Option.elim_some,
      List.append_nil, sentTo]
    exact hc.messages_update current sender
  | cons op ops ih =>
    have htail : ∀ sender messages, .receive i sender messages ∈ ops →
        Transmittable md5 messages :=
      fun sender messages hm => ht sender messages (List.mem_cons_of_mem _ hm)
    cases op with
    | receive j from_ messages =>
      have hclients := clients_receive md5 hi j from_ messages
      simp only [List.cons_append, eventsOf, stepEvents, receiverStep, List.nil_append, sentTo]
      by_cases hj : j = i
      · subst hj
        rw [if_pos rfl] at hclients
        have hm := ht from_ messages List.mem_cons_self
        have hfits := hroom.1 rfl client hi
        rw [transmission_eq hm] at hclients hfits
        rw [ih hclients (hc.handleRead (deliverable_of_transmittable hm) hfits) htail hroom.2]
        by_cases hs : from_ = sender
        · subst hs
          simp
        · simp [Function.update_of_ne (Ne.symm hs), hs]
      · rw [if_neg hj] at hclients
        rw [ih hclients hc htail hroom.2, if_neg (fun hand => hj hand.1), List.nil_append]
    | update earlier =>
      have hclients := clients_update md5 hi earlier
      simp only [List.cons_append, eventsOf, stepEvents, receiverStep, clients_collectClients hi,
        Option.elim_some, List.filter_append, List.map_append, sentTo]
      rw [ih hclients (hc.update earlier) htail hroom, hc.messages_update]
      rfl

theorem info_eventsOf (hi : h.clients[i]? = some client) (hc : client.OwnStreams)
    (hinfo : client.info = info) (he : e ∈ h.eventsOf md5 i ops) :
    e.info.adapter = info.adapter ∧ e.info.receiver = info.multicast := by
  induction ops generalizing h client with
  | nil => simp [eventsOf] at he
  | cons op ops ih =>
    simp only [eventsOf, List.mem_append] at he
    cases op with
    | receive j from_ messages =>
      have hclients := clients_receive md5 hi j from_ messages
      simp only [stepEvents, List.not_mem_nil, false_or] at he
      by_cases hj : j = i
      · rw [if_pos hj] at hclients
        exact ih hclients (hc.handleRead _ _) hinfo he
      · rw [if_neg hj] at hclients
        exact ih hclients hc hinfo he
    | update earlier =>
      simp only [stepEvents, clients_collectClients hi, Option.elim_some] at he
      rcases he with he | he
      · rw [← hinfo]
        exact hc.info_update he
      · exact ih (clients_update md5 hi earlier) (hc.update md5 earlier) hinfo he

end

/-- Whole transmissions reach a new client in any order across the senders,
with any number of them between two updates. If each finds room, the client
raises for every sender exactly the messages it sent, in order. -/
theorem delivery (md5 : List Byte → Digest) (h : NetworkHandler) (i : Nat)
    (client : NetworkClient) (hi : h.clients[i]? = some client)
    (hnew : client.dataHandler = .new 4095) (ops : List ReceiverOp)
    (ht : ∀ sender messages, .receive i sender messages ∈ ops → Transmittable md5 messages)
    (hroom : h.FindsRoom md5 i ops) (current : TimePoint) :
    (∀ sender, ((h.eventsOf md5 i (ops ++ [.update current])).filter fun e =>
        e.info.sender = sender).map NetworkEvent.message = sentTo i sender ops) ∧
      ∀ e ∈ h.eventsOf md5 i (ops ++ [.update current]),
        e.info.adapter = client.info.adapter ∧ e.info.receiver = client.info.multicast :=
  ⟨messages_eventsOf hi (NetworkClient.holds_new md5 hnew) ht hroom current, fun _ he =>
    info_eventsOf hi (NetworkClient.ownStreams_new hnew) rfl he⟩

theorem delivery_two_senders :
    let h : NetworkHandler := ⟨⟨1, ⟨0xefc8c801⟩, 1010⟩,
      [⟨"adapter", ⟨⟨0x0a000001⟩, 1010, ⟨0xefc8c801⟩⟩, .new 4095⟩], []⟩
    let ops : List ReceiverOp := [.receive 0 ⟨0x0a000003⟩ [.data ⟨7, [1, 2]⟩],
      .receive 0 ⟨0x0a000002⟩ [.data ⟨8, []⟩]]
    (∀ sender, ((h.eventsOf (fun _ => Vector.replicate 16 0) 0 (ops ++ [.update 0])).filter fun e =>
        e.info.sender = sender).map NetworkEvent.message = sentTo 0 sender ops) ∧
      ∀ e ∈ h.eventsOf (fun _ => Vector.replicate 16 0) 0 (ops ++ [.update 0]),
        e.info.adapter = ⟨0x0a000001⟩ ∧ e.info.receiver = ⟨0xefc8c801⟩ := by
  intro h ops
  have ht : ∀ sender messages, .receive 0 sender messages ∈ ops →
      Transmittable (fun _ => Vector.replicate 16 0) messages := by
    intro sender messages hm
    simp only [ops, List.mem_cons, ReceiverOp.receive.injEq, true_and, List.not_mem_nil,
      or_false] at hm
    rcases hm with ⟨-, rfl⟩ | ⟨-, rfl⟩ <;> rw [Transmittable, encode_new] <;> decide
  refine delivery _ h 0 _ rfl rfl ops ht ⟨?_, ?_, trivial⟩ 0
  · rintro - client hi
    obtain rfl := Option.some.inj hi
    rw [transmission_eq (ht _ _ List.mem_cons_self), length_packetBytes,
      NetworkClient.unreadBytes_new rfl]
    decide
  · rintro - client hi
    rw [clients_receive _ rfl, if_pos rfl] at hi
    obtain rfl := Option.some.inj hi
    rw [transmission_eq (ht _ _ (List.mem_cons_of_mem _ List.mem_cons_self)), length_packetBytes,
      NetworkClient.unreadBytes, NetworkClient.streamOf_handleRead, if_neg (by decide),
      ← NetworkClient.unreadBytes, NetworkClient.unreadBytes_new rfl]
    decide

end NetworkHandler

-- ---------------------------------------------------------------------------
-- A datagram that finds no room
-- ---------------------------------------------------------------------------

/-- Where zeros stand in front, the declared size is zero, the bytes to check
are none and the checksum read is zero. -/
theorem validatePacket_zeros {md5 : List Byte → Digest} {b : Buffer} (hb : b.readOffset = 0)
    (hzeros : b.data.take 4 = [0, 0, 0, 0]) (hlen : b.data.length ≤ 2 ^ 64 - 4)
    (hmd5 : lastPartDigest (md5 []) ≠ 0) :
    Scanner.runOn (PacketCodec.validatePacket md5) b =
      (.error (PacketCodec.checksumFailed 0 (md5 [])), b.skip 4) := by
  have hu := unread_of_readOffset hb
  have h4 : 4 ≤ b.data.length := by
    have h := congrArg List.length hzeros
    simp only [List.length_take, List.length_cons, List.length_nil] at h
    omega
  have hzero : (Word.ofBigEndian (b.data.take 4) : UInt32) = 0 := by
    rw [hzeros]
    decide
  have hsize : declaredSize b.data = 0 := by
    rw [declaredSize, hzero]
    rfl
  have hempty : (Buffer.readBuffer (sizeSub (declaredSize b.data) PacketCodec.checksumSize)).run b =
      ([], b) := by
    apply Buffer.readBuffer_of_le
    rw [hsize, hu]
    exact hlen
  rw [validatePacket_of_read md5 hb h4 (hsize ▸ Nat.zero_le _) hempty (by rwa [hu]), hu, hzero,
    if_neg hmd5.symm]

theorem process_zeros {md5 : List Byte → Digest} {s : DataStream}
    (hitems : s.buffer.items = List.replicate n 0 ++ rest) (hn : 10 ≤ n)
    (hlen : s.buffer.items.length ≤ 2 ^ 64 - 4) (hmd5 : lastPartDigest (md5 []) ≠ 0) :
    s.process md5 = ([], ⟨s.buffer.clear⟩) := by
  have h10 : 10 ≤ s.buffer.items.length := by
    rw [hitems, List.length_append, List.length_replicate]
    omega
  have hzeros : s.buffer.items.take 4 = [0, 0, 0, 0] := by
    have hmin : min 4 n = 4 := by omega
    rw [hitems, List.take_append_of_le_length (by rw [List.length_replicate]; omega),
      List.take_replicate, hmin]
    rfl
  have hsize : declaredSize s.buffer.items = 0 := by
    rw [declaredSize, hzeros]
    decide
  have hvalid := validatePacket_zeros (Buffer.readOffset_holding s.buffer.items)
    (by rw [Buffer.data_holding, hzeros]) (by rwa [Buffer.data_holding]) hmd5
  have hdecode := decode_of_invalid md5 (Buffer.readOffset_holding _) hvalid
  have hpass : processPass md5 s = ⟨none, ⟨s.buffer.clear⟩, false⟩ := by
    have hcomplete : signedSize s.buffer.items ≤ s.buffer.items.length := by
      rw [signedSize, hsize]
      exact Nat.zero_le _
    rw [processPass_of_le md5 h10, if_pos hcomplete, decodePass,
      resetRead_readInt32 (Nat.le_trans (by decide) h10), hdecode]
    simp only [Buffer.bytesLeftToRead_eq, Buffer.unread_holding, Buffer.size_holding]
    rw [if_pos (Nat.le_refl _)]
  rw [process_of_not_readMore md5 (by simp [hpass]), hpass]
  rfl

/-- A datagram that does not fit the allocation is lost at the next update,
and so is all that is unread of its sender. -/
theorem process_overflow {md5 : List Byte → Digest} {s : DataStream} {data : List Byte}
    (h : s.buffer.capacity < data.length + s.buffer.items.length)
    (h5 : 5 ≤ data.length + s.buffer.items.length)
    (hlen : 3 * (data.length + s.buffer.items.length) ≤ 2 ^ 64 - 4)
    (hmd5 : lastPartDigest (md5 []) ≠ 0) : ((s.handleReceive data).process md5).1 = [] := by
  have hitems := items_handleReceive_of_gt h
  rw [process_zeros hitems (by omega) _ hmd5]
  rw [hitems]
  simp only [List.length_append, List.length_replicate]
  omega

namespace NetworkClient

theorem messages_update_overflow {md5 : List Byte → Digest} {client : NetworkClient}
    (hc : client.OwnStreams) {data : List Byte} (sender : Address)
    (h : (client.streamOf sender).buffer.capacity < client.unreadBytes sender + data.length)
    (h5 : 5 ≤ client.unreadBytes sender + data.length)
    (hlen : 3 * (client.unreadBytes sender + data.length) ≤ 2 ^ 64 - 4)
    (hmd5 : lastPartDigest (md5 []) ≠ 0) (current : TimePoint) :
    (((client.handleRead data sender).update md5 current).1.filter fun e =>
      e.info.sender = sender).map NetworkEvent.message = [] := by
  rw [Nat.add_comm, unreadBytes] at h h5 hlen
  rw [(hc.handleRead data sender).messages_update, streamOf_handleRead, if_pos rfl,
    process_overflow h h5 hlen hmd5]
  rfl

end NetworkClient

/-- The digest of no bytes at all. -/
def emptyDigest : Digest :=
  #v[0xd4, 0x1d, 0x8c, 0xd9, 0x8f, 0x00, 0xb2, 0x04, 0xe9, 0x80, 0x09, 0x98, 0xec, 0xf8, 0x42, 0x7e]

namespace NetworkHandler

/-- A transmission longer than the allocation never comes out of a new
client. -/
theorem messages_eventsOf_overflow {md5 : List Byte → Digest} {h : NetworkHandler}
    {client : NetworkClient} {messages : MessageList} (hi : h.clients[0]? = some client)
    (hnew : client.dataHandler = .new 4095) (ht : Transmittable md5 messages)
    (hlong : 4095 < PacketCodec.totalPacketSize messages) (hmd5 : lastPartDigest (md5 []) ≠ 0)
    (sender : Address) (current : TimePoint) :
    ((h.eventsOf md5 0 ([.receive 0 sender messages] ++ [.update current])).filter fun e =>
      e.info.sender = sender).map NetworkEvent.message = [] := by
  have hclients := clients_receive md5 hi 0 sender messages
  have hle := totalPacketSize_of_transmittable ht
  have hlen : (transmission md5 messages).length = PacketCodec.totalPacketSize messages := by
    rw [transmission_eq ht, length_packetBytes]
  have hunread := NetworkClient.unreadBytes_new hnew sender
  have hcapacity := (NetworkClient.holds_new md5 hnew).capacity sender
  rw [if_pos rfl] at hclients
  simp only [List.singleton_append, eventsOf, stepEvents, receiverStep,
    clients_collectClients hclients, Option.elim_some, List.nil_append, List.append_nil]
  exact NetworkClient.messages_update_overflow (NetworkClient.ownStreams_new hnew) sender
    (by omega) (by omega) (by omega) hmd5 current

/-- A data message that fills the buffer of a transmission reaches a new
client and is never raised. -/
theorem fullTransmission_lost : (∀ md5, Transmittable md5 (dataMessages 1 4076)) ∧
    ¬ ∃ md5 : List Byte → Digest, md5 [] = emptyDigest ∧
      (((NetworkHandler.mk ⟨1, ⟨0xefc8c801⟩, 1010⟩
        [⟨"adapter", ⟨⟨0x0a000001⟩, 1010, ⟨0xefc8c801⟩⟩, .new 4095⟩] []).eventsOf md5 0
          ([.receive 0 ⟨0x0a000002⟩ (dataMessages 1 4076)] ++ [.update 0])).filter fun e =>
            e.info.sender = ⟨0x0a000002⟩).map NetworkEvent.message = dataMessages 1 4076 := by
  have hsize := totalPacketSize_dataMessages 1 4076
  have hne : dataMessages 1 4076 ≠ [] := List.cons_ne_nil _ _
  generalize dataMessages 1 4076 = messages at hsize hne ⊢
  have ht : ∀ md5, Transmittable md5 messages := fun md5 => by
    rw [Transmittable, encode_new, hsize]
    decide
  refine ⟨ht, ?_⟩
  rintro ⟨md5, hempty, hmessages⟩
  have hdigest : lastPartDigest (md5 []) ≠ 0 := by
    rw [hempty]
    decide
  rw [messages_eventsOf_overflow rfl rfl (ht md5) (by rw [hsize]; decide) hdigest] at hmessages
  exact hne hmessages.symm

end NetworkHandler

end Discnet.Network
