import Discnet.Network.DataHandler
import Discnet.Network.Reassembly
import Discnet.Lib.Entries
import Mathlib.Order.Defs.Unbundled

/-!
# One stream for each pair of addresses

A data handler is as good as one data stream for every sender and recipient:
the packets under an identifier are those of a stream that gets nothing but
the bytes between the two, however the calls are interleaved.
-/

namespace Discnet.Network

open Lib Messages Std

-- ---------------------------------------------------------------------------
-- The order of the identifiers
-- ---------------------------------------------------------------------------

namespace DataStreamIdentifier

/-- `operator<`, which `m_streams` is sorted by. -/
def less (lhs rhs : DataStreamIdentifier) : Bool :=
  lhs.senderIp.toUInt < rhs.senderIp.toUInt ||
    (lhs.senderIp.toUInt == rhs.senderIp.toUInt && lhs.recipientIp.toUInt < rhs.recipientIp.toUInt)

/-- The model sorts its streams in the same way. -/
theorem less_iff_compare {lhs rhs : DataStreamIdentifier} :
    lhs.less rhs = true ↔ compare lhs rhs = .lt := by
  have hcompare : compare lhs rhs =
      (compare lhs.senderIp.toUInt rhs.senderIp.toUInt).then
        (compare lhs.recipientIp.toUInt rhs.recipientIp.toUInt) := rfl
  simp [hcompare, less, Ordering.then_eq_lt, Std.compare_eq_lt]

theorem not_less_both_iff {lhs rhs : DataStreamIdentifier} :
    ¬ lhs.less rhs = true ∧ ¬ rhs.less lhs = true ↔ lhs = rhs := by
  simp only [less_iff_compare]
  constructor
  · rintro ⟨hlt, hgt⟩
    apply LawfulEqOrd.eq_of_compare
    cases h : compare lhs rhs with
    | lt => contradiction
    | eq => rfl
    | gt => exact absurd (OrientedCmp.lt_of_gt h) hgt
  · rintro rfl
    simp

instance : IsStrictWeakOrder DataStreamIdentifier (fun a b => a.less b = true) where
  irrefl a h := by simp [less_iff_compare] at h
  trans a b c hab hbc := by
    rw [less_iff_compare] at hab hbc ⊢
    exact TransCmp.lt_trans hab hbc
  incomp_trans a b c hab hbc := by
    obtain rfl := not_less_both_iff.mp hab
    exact hbc

end DataStreamIdentifier

-- ---------------------------------------------------------------------------
-- The calls
-- ---------------------------------------------------------------------------

/-- What is called on a data stream. -/
inductive StreamCall
  | handleReceive (data : List Byte)
  | process
  deriving DecidableEq, Repr

inductive HandlerCall
  | handleReceive (data : List Byte) (sender recipient : Address)
  | process
  deriving DecidableEq, Repr

/-- What a stream of its own would be called with. -/
def HandlerCall.streamCall (id : DataStreamIdentifier) : HandlerCall → Option StreamCall
  | handleReceive data sender recipient =>
    if id = ⟨sender, recipient⟩ then some (.handleReceive data) else none
  | process => some .process

def HandlerCall.Concerns (id : DataStreamIdentifier) : HandlerCall → Prop
  | handleReceive _ sender recipient => id = ⟨sender, recipient⟩
  | process => False

instance (id : DataStreamIdentifier) (call : HandlerCall) : Decidable (call.Concerns id) :=
  match call with
  | .handleReceive _ sender recipient => inferInstanceAs (Decidable (id = ⟨sender, recipient⟩))
  | .process => inferInstanceAs (Decidable False)

def streamCalls (id : DataStreamIdentifier) (calls : List HandlerCall) : List StreamCall :=
  calls.filterMap (HandlerCall.streamCall id)

/-- Something was received under the identifier. -/
def Received (id : DataStreamIdentifier) (calls : List HandlerCall) : Prop :=
  ∃ call ∈ calls, call.Concerns id

instance (id : DataStreamIdentifier) (calls : List HandlerCall) : Decidable (Received id calls) :=
  inferInstanceAs (Decidable (∃ call ∈ calls, call.Concerns id))

section
variable (md5 : List Byte → Digest)

def DataStream.call (s : DataStream) : StreamCall → DataStream
  | .handleReceive data => s.handleReceive data
  | .process => (s.process md5).2

def DataHandler.call (h : DataHandler) : HandlerCall → DataHandler
  | .handleReceive data sender recipient => h.handleReceive data sender recipient
  | .process => (h.process md5).2

end

-- ---------------------------------------------------------------------------
-- One step, and a run
-- ---------------------------------------------------------------------------

namespace DataHandler

variable {md5 : List Byte → Digest} {h : DataHandler} {id : DataStreamIdentifier}

/-- The stream of an identifier, or the one that would be made for it. -/
def streamOf (id : DataStreamIdentifier) (h : DataHandler) : DataStream :=
  h.streams[id]?.getD (.new h.bufferSize)

theorem bufferSize_calls (h : DataHandler) (calls : List HandlerCall) :
    (calls.foldl (DataHandler.call md5) h).bufferSize = h.bufferSize := by
  induction calls generalizing h with
  | nil => rfl
  | cons call rest ih =>
    rw [List.foldl_cons, ih]
    cases call <;> rfl

/-- A call does to the stream of an identifier what the call for that stream
alone would do. -/
theorem streamOf_call (h : DataHandler) (call : HandlerCall) :
    (h.call md5 call).streamOf id =
      (streamCalls id [call]).foldl (DataStream.call md5) (h.streamOf id) := by
  cases call with
  | handleReceive data sender recipient =>
    simp only [DataHandler.call, streamOf, getElem?_handleReceive, streamCalls]
    by_cases hid : id = ⟨sender, recipient⟩
    · simp [HandlerCall.streamCall, DataStream.call, hid]
    · simp [HandlerCall.streamCall, hid, handleReceive]
  | process =>
    -- without a stream there is one that holds nothing and stays as it is
    simp only [DataHandler.call, streamOf, getElem?_process, streamCalls]
    cases h.streams[id]? with
    | none => simp [HandlerCall.streamCall, DataStream.call, DataStream.process_new, process]
    | some stream => simp [HandlerCall.streamCall, DataStream.call]

theorem mem_streams_call (h : DataHandler) (call : HandlerCall) :
    id ∈ (h.call md5 call).streams ↔ id ∈ h.streams ∨ call.Concerns id := by
  cases call with
  | handleReceive data sender recipient =>
    simp only [TreeMap.mem_iff_isSome_getElem?, DataHandler.call, getElem?_handleReceive,
      HandlerCall.Concerns]
    by_cases hid : id = ⟨sender, recipient⟩ <;> simp [hid]
  | process => simp [DataHandler.call, process, HandlerCall.Concerns]

theorem streamOf_calls (h : DataHandler) (calls : List HandlerCall) :
    (calls.foldl (DataHandler.call md5) h).streamOf id =
      (streamCalls id calls).foldl (DataStream.call md5) (h.streamOf id) := by
  induction calls generalizing h with
  | nil => rfl
  | cons call rest ih =>
    have hsplit : streamCalls id (call :: rest) = streamCalls id [call] ++ streamCalls id rest :=
      List.filterMap_append (l := [call])
    rw [List.foldl_cons, ih, streamOf_call, hsplit, List.foldl_append]

theorem mem_streams_calls (h : DataHandler) (calls : List HandlerCall) :
    id ∈ (calls.foldl (DataHandler.call md5) h).streams ↔
      id ∈ h.streams ∨ Received id calls := by
  induction calls generalizing h with
  | nil => simp [Received]
  | cons call rest ih => simp [ih, mem_streams_call, Received, or_assoc]

theorem filter_process (h : DataHandler) :
    (h.process md5).1.filter (·.identifier = id) =
      (h.streams[id]?).elim [] fun stream => [⟨id, (stream.process md5).1⟩] := by
  rw [process, List.filter_map, filter_toList_of_key (k := id)]
  · cases h.streams[id]? <;> simp
  · rintro ⟨key, stream⟩ - hkey
    simpa using hkey

end DataHandler

-- ---------------------------------------------------------------------------
-- Demultiplexing
-- ---------------------------------------------------------------------------

section
variable (md5 : List Byte → Digest) (bufferSize : Nat)

def DataHandler.after (calls : List HandlerCall) : DataHandler :=
  calls.foldl (DataHandler.call md5) (.new bufferSize)

/-- A stream that is there from the start and gets only the bytes of its
pair. -/
def dedicatedStream (id : DataStreamIdentifier) (calls : List HandlerCall) : DataStream :=
  (streamCalls id calls).foldl (DataStream.call md5) (.new bufferSize)

end

section
variable {md5 : List Byte → Digest} {bufferSize : Nat} {id : DataStreamIdentifier}

theorem streamOf_after (calls : List HandlerCall) :
    (DataHandler.after md5 bufferSize calls).streamOf id =
      dedicatedStream md5 bufferSize id calls := by
  rw [DataHandler.after, DataHandler.streamOf_calls]
  simp [dedicatedStream, DataHandler.streamOf, DataHandler.new]

theorem streams_after (calls : List HandlerCall) :
    (DataHandler.after md5 bufferSize calls).streams[id]? =
      if Received id calls then some (dedicatedStream md5 bufferSize id calls) else none := by
  have hmem : id ∈ (DataHandler.after md5 bufferSize calls).streams ↔ Received id calls := by
    rw [DataHandler.after, DataHandler.mem_streams_calls]
    simp [DataHandler.new]
  rw [← streamOf_after]
  cases h : (DataHandler.after md5 bufferSize calls).streams[id]? with
  | none =>
    have hnone : ¬ Received id calls := by simp [← hmem, TreeMap.mem_iff_isSome_getElem?, h]
    rw [if_neg hnone]
  | some stream =>
    have hreceived : Received id calls :=
      hmem.mp (TreeMap.mem_iff_isSome_getElem?.mpr (by simp [h]))
    rw [if_pos hreceived, DataHandler.streamOf, h, Option.getD_some]

/-- Until something is received, the stream is left as it was made. -/
theorem dedicatedStream_of_not_received {calls : List HandlerCall} (h : ¬ Received id calls) :
    dedicatedStream md5 bufferSize id calls = .new bufferSize := by
  rw [← streamOf_after, DataHandler.streamOf, streams_after, if_neg h]
  rw [DataHandler.after, DataHandler.bufferSize_calls]
  rfl

theorem received_iff {calls : List HandlerCall} :
    Received id calls ↔ ∃ data, StreamCall.handleReceive data ∈ streamCalls id calls := by
  simp only [Received, streamCalls, List.mem_filterMap]
  constructor
  · rintro ⟨call, hmem, hcall⟩
    cases call with
    | handleReceive data sender recipient =>
      exact ⟨data, _, hmem, if_pos hcall⟩
    | process => exact hcall.elim
  · rintro ⟨data, call, hmem, hcall⟩
    cases call with
    | handleReceive _ sender recipient =>
      refine ⟨_, hmem, ?_⟩
      simp only [HandlerCall.streamCall, Option.ite_none_right_eq_some] at hcall
      exact hcall.1
    | process => cases hcall

end

/-- Streams are kept apart by both addresses. Whatever was called before,
`process` lists each pair something was received from once, with the packets
that a stream of its own would give at this point, and lists no other; so it
gives the same for calls that differ in the bytes of other pairs only. -/
theorem demultiplexing (md5 : List Byte → Digest) (bufferSize : Nat) :
    (IsStrictWeakOrder DataStreamIdentifier (fun a b => a.less b = true) ∧
      ∀ a b : DataStreamIdentifier, ¬ a.less b = true ∧ ¬ b.less a = true ↔ a = b) ∧
    ∀ (id : DataStreamIdentifier) (calls : List HandlerCall),
      ((DataHandler.after md5 bufferSize calls).process md5).1.filter (·.identifier = id) =
          (if Received id calls then
            [⟨id, ((dedicatedStream md5 bufferSize id calls).process md5).1⟩]
          else []) ∧
        (¬ Received id calls → ((dedicatedStream md5 bufferSize id calls).process md5).1 = []) ∧
        ∀ others : List HandlerCall, streamCalls id others = streamCalls id calls →
          ((DataHandler.after md5 bufferSize others).process md5).1.filter (·.identifier = id) =
            ((DataHandler.after md5 bufferSize calls).process md5).1.filter
              (·.identifier = id) := by
  have hpackets : ∀ (id : DataStreamIdentifier) (calls : List HandlerCall),
      ((DataHandler.after md5 bufferSize calls).process md5).1.filter (·.identifier = id) =
        if Received id calls then
          [⟨id, ((dedicatedStream md5 bufferSize id calls).process md5).1⟩]
        else [] := by
    intro id calls
    rw [DataHandler.filter_process, streams_after]
    split_ifs <;> rfl
  refine ⟨⟨inferInstance, fun a b => DataStreamIdentifier.not_less_both_iff⟩, ?_⟩
  intro id calls
  refine ⟨hpackets id calls, ?_, ?_⟩
  · intro hnone
    rw [dedicatedStream_of_not_received hnone, DataStream.process_new]
  · intro others hsame
    have hreceived : Received id others ↔ Received id calls := by
      rw [received_iff, received_iff, hsame]
    have hstream : dedicatedStream md5 bufferSize id others =
        dedicatedStream md5 bufferSize id calls := congrArg (List.foldl _ _) hsame
    rw [hpackets, hpackets, hstream]
    simp only [hreceived]

end Discnet.Network
