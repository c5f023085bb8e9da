import Discnet.Network.DataStream
import Std.Data.TreeMap.AdditionalOperations
import Std.Data.TreeMap.Lemmas

/-!
# The data handler

A data handler keeps one stream for every sender and recipient, made when
the first bytes between them arrive.
-/

namespace Discnet.Network

open Messages Std

structure DataStreamIdentifier where
  senderIp : Address
  recipientIp : Address
  deriving DecidableEq, Repr

namespace DataStreamIdentifier

/-- Streams are ordered by the sender, then by the recipient. -/
def compareIps : DataStreamIdentifier → DataStreamIdentifier → Ordering :=
  compareLex (compareOn fun id => id.senderIp.toUInt) (compareOn fun id => id.recipientIp.toUInt)

instance : Ord DataStreamIdentifier := ⟨compareIps⟩

instance : TransOrd DataStreamIdentifier :=
  inferInstanceAs (TransCmp (compareLex (compareOn fun id : DataStreamIdentifier =>
    id.senderIp.toUInt) (compareOn fun id : DataStreamIdentifier => id.recipientIp.toUInt)))

instance : LawfulEqOrd DataStreamIdentifier where
  eq_of_compare {x y} h := by
    obtain ⟨⟨a⟩, ⟨b⟩⟩ := x
    obtain ⟨⟨c⟩, ⟨d⟩⟩ := y
    obtain ⟨h1, h2⟩ := compareLex_eq_eq.mp (h : compareLex _ _ _ _ = _)
    have hsender : a = c := LawfulEqCmp.eq_of_compare (h1 : compare a c = .eq)
    have hrecipient : b = d := LawfulEqCmp.eq_of_compare (h2 : compare b d = .eq)
    rw [hsender, hrecipient]

end DataStreamIdentifier

structure DataStreamPackets where
  identifier : DataStreamIdentifier
  packets : List Packet := []
  deriving DecidableEq, Repr

structure DataHandler where
  streams : Std.TreeMap DataStreamIdentifier DataStream
  bufferSize : Nat

namespace DataHandler

def new (bufferSize : Nat) : DataHandler := ⟨∅, bufferSize⟩

def process (md5 : List Byte → Digest) (h : DataHandler) : List DataStreamPackets × DataHandler :=
  (h.streams.toList.map fun entry => ⟨entry.1, (entry.2.process md5).1⟩,
    { h with streams := h.streams.map fun _ stream => (stream.process md5).2 })

def handleReceive (data : List Byte) (sender recipient : Address) (h : DataHandler) :
    DataHandler :=
  let identifier : DataStreamIdentifier := ⟨sender, recipient⟩
  let stream := match h.streams[identifier]? with
    | some stream => stream
    | none => DataStream.new h.bufferSize
  { h with streams := h.streams.insert identifier (stream.handleReceive data) }

theorem getElem?_handleReceive (h : DataHandler) (data : List Byte) (sender recipient : Address)
    (id : DataStreamIdentifier) :
    (h.handleReceive data sender recipient).streams[id]? =
      if id = ⟨sender, recipient⟩ then
        some ((h.streams[id]?.getD (.new h.bufferSize)).handleReceive data)
      else h.streams[id]? := by
  simp only [handleReceive, TreeMap.getElem?_insert, Std.compare_eq_iff_eq]
  by_cases hid : id = ⟨sender, recipient⟩
  · subst hid
    cases h.streams[(⟨sender, recipient⟩ : DataStreamIdentifier)]? <;> simp
  · simp [hid, Ne.symm hid]

theorem getElem?_process (h : DataHandler) (md5 : List Byte → Digest)
    (id : DataStreamIdentifier) :
    (h.process md5).2.streams[id]? = h.streams[id]?.map fun stream => (stream.process md5).2 :=
  TreeMap.getElem?_map

end DataHandler

end Discnet.Network
