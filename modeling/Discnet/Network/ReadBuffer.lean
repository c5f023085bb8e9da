import Discnet.Lib.Simulation
import Discnet.Network.BufferCalls
import Discnet.Network.Messages

/-!
# Reading in place

A read buffer reads bytes where they are and never appends. It is bounded by
their number, where a buffer is bounded by its write offset; as long as both
are only read, nothing they return tells them apart. The decoders only read.
-/

namespace Discnet.Network

open Lib

structure ReadBuffer where
  readOffset : Nat
  buffer : List Byte
  deriving DecidableEq, Repr

namespace ReadBuffer

def new (buffer : List Byte) : ReadBuffer := ⟨0, buffer⟩

/-- The bytes at an offset, all of which are in the memory. -/
def bytesAt (b : ReadBuffer) (offset length : Nat) : Option (List Byte) :=
  if offset + length ≤ b.buffer.length then some ((b.buffer.drop offset).take length) else none

def bytesLeftToRead (b : ReadBuffer) : Option Nat :=
  if b.readOffset ≥ b.buffer.length then some 0 else difference b.buffer.length b.readOffset

def read (α : Type) [Word α] : StateT ReadBuffer Option α := fun b =>
  if b.readOffset ≥ b.buffer.length then some (Word.ofNat 0, b)
  else do
    let remaining ← difference b.buffer.length b.readOffset
    if remaining ≥ Word.size α then
      let bytes ← b.bytesAt b.readOffset (Word.size α)
      return (Word.ofBytes bytes, { b with readOffset := b.readOffset + Word.size α })
    else
      return (Word.ofNat 0, b)

def readBuffer (length : Nat) : StateT ReadBuffer Option (List Byte) := fun b =>
  if b.readOffset ≥ b.buffer.length then some ([], b)
  else do
    let remaining ← difference b.buffer.length b.readOffset
    if remaining > length then
      let bytes ← b.bytesAt b.readOffset length
      return (bytes, { b with readOffset := b.readOffset + length })
    else
      return ([], b)

def resetRead : StateT ReadBuffer Option Unit := fun b => some ((), { b with readOffset := 0 })

def readInt : IntType → StateT ReadBuffer Option IntValue
  | .uint16 => return .uint16 (← read UInt16)
  | .uint32 => return .uint32 (← read UInt32)
  | .uint64 => return .uint64 (← read UInt64)
  | .int16 => return .int16 (← read Int16)
  | .int32 => return .int32 (← read Int32)
  | .int64 => return .int64 (← read Int64)

end ReadBuffer

-- ---------------------------------------------------------------------------
-- The calls that only read
-- ---------------------------------------------------------------------------

inductive ReadCall
  | read (type : IntType)
  | readBuffer (length : Nat)
  | resetRead
  | bytesLeftToRead
  deriving DecidableEq, Repr

inductive ReadResult
  | int (val : IntValue)
  | span (bytes : List Byte)
  | done
  | bytesLeft (count : Nat)
  deriving DecidableEq, Repr

def Buffer.readCall : ReadCall → StateM Buffer ReadResult
  | .read type => return .int (← readInt type)
  | .readBuffer length => return .span (← readBuffer length)
  | .resetRead => do
    resetRead
    return .done
  | .bytesLeftToRead => return .bytesLeft (← get).bytesLeftToRead

def ReadBuffer.readCall : ReadCall → StateT ReadBuffer Option ReadResult
  | .read type => return .int (← readInt type)
  | .readBuffer length => return .span (← readBuffer length)
  | .resetRead => do
    resetRead
    return .done
  | .bytesLeftToRead => return .bytesLeft (← (← get).bytesLeftToRead)

-- ---------------------------------------------------------------------------
-- A buffer as a read buffer
-- ---------------------------------------------------------------------------

/-- The read buffer that stands where the buffer stands. -/
def Buffer.reader (b : Buffer) : ReadBuffer := ⟨b.readOffset, b.data⟩

namespace ReadBuffer

def ReadsAs (reader : ReadBuffer) (b : Buffer) : Prop := reader = b.reader

@[simp] theorem readOffset_reader (b : Buffer) : b.reader.readOffset = b.readOffset := rfl

@[simp] theorem length_reader (b : Buffer) : b.reader.buffer.length = b.writeOffset :=
  Buffer.length_data b

theorem bytesAt_of_le {b : Buffer} {length : Nat} (h : b.readOffset + length ≤ b.writeOffset) :
    b.reader.bytesAt b.readOffset length = some ((b.buffer.drop b.readOffset).take length) := by
  have hunread : length ≤ b.unread.length := by
    rw [Buffer.length_unread]
    omega
  rw [Buffer.take_drop_buffer hunread, bytesAt, length_reader, if_pos h]
  rfl

theorem bytesLeftToRead_reader (b : Buffer) :
    b.reader.bytesLeftToRead = some b.bytesLeftToRead := by
  rw [bytesLeftToRead, length_reader]
  exact zero_or_difference b.read_le_write

theorem simulates_read (α : Type) [Word α] : Simulates ReadsAs (read α) (Buffer.read α) := by
  apply Simulates.of_run
  intro b
  have hread := b.read_le_write
  by_cases hnone : b.readOffset ≥ b.writeOffset
  · simp [read, Buffer.read, StateT.run, hnone]
  · by_cases hsize : b.writeOffset - b.readOffset ≥ Word.size α
    · have hbytes : b.reader.bytesAt b.readOffset (Word.size α) = _ := bytesAt_of_le (by omega)
      simp [read, Buffer.read, StateT.run, hnone, hsize, difference_of_le hread, hbytes]
      rfl
    · simp [read, Buffer.read, StateT.run, hnone, hsize, difference_of_le hread]

theorem simulates_readBuffer (length : Nat) :
    Simulates ReadsAs (readBuffer length) (Buffer.readBuffer length) := by
  apply Simulates.of_run
  intro b
  have hread := b.read_le_write
  by_cases hnone : b.readOffset ≥ b.writeOffset
  · simp [readBuffer, Buffer.readBuffer, StateT.run, hnone]
  · by_cases hsize : b.writeOffset - b.readOffset > length
    · have hbytes : b.reader.bytesAt b.readOffset length = _ := bytesAt_of_le (by omega)
      simp [readBuffer, Buffer.readBuffer, StateT.run, hnone, hsize, difference_of_le hread, hbytes]
      rfl
    · simp [readBuffer, Buffer.readBuffer, StateT.run, hnone, hsize, difference_of_le hread]

theorem simulates_resetRead : Simulates ReadsAs resetRead Buffer.resetRead :=
  Simulates.of_run fun _ => rfl

theorem simulates_readInt (type : IntType) :
    Simulates ReadsAs (readInt type) (Buffer.readInt type) := by
  cases type <;> exact (simulates_read _).bind fun _ => .pure _

theorem simulates_bytesLeftToRead :
    Simulates ReadsAs (readCall .bytesLeftToRead) (Buffer.readCall .bytesLeftToRead) := by
  apply Simulates.of_run
  intro b
  simp [readCall, Buffer.readCall, bytesLeftToRead_reader]
  exact ⟨rfl, rfl⟩

theorem simulates_readCall (call : ReadCall) :
    Simulates ReadsAs (readCall call) (Buffer.readCall call) := by
  cases call with
  | read type => exact (simulates_readInt type).bind fun _ => .pure _
  | readBuffer length => exact (simulates_readBuffer length).bind fun _ => .pure _
  | resetRead => exact simulates_resetRead.bind fun _ => .pure _
  | bytesLeftToRead => exact simulates_bytesLeftToRead

end ReadBuffer

-- ---------------------------------------------------------------------------
-- Decoders are made of these calls
-- ---------------------------------------------------------------------------

section
open Messages Scanner

/-- What the decoder does with the buffer is to read it. -/
abbrev OnlyReads {α : Type} (x : DecodeM α) : Prop := Calls Buffer.readCall x

namespace OnlyReads

theorem uint16 : OnlyReads (liftM Buffer.readUInt16 : DecodeM UInt16) := by
  refine .lift ⟨.call (.read .uint16) fun
    | .int (.uint16 val) => .done val
    | _ => .done 0, ?_⟩
  rfl

theorem uint32 : OnlyReads (liftM Buffer.readUInt32 : DecodeM UInt32) := by
  refine .lift ⟨.call (.read .uint32) fun
    | .int (.uint32 val) => .done val
    | _ => .done 0, ?_⟩
  rfl

theorem span (length : Nat) :
    OnlyReads (liftM (Buffer.readBuffer length) : DecodeM (List Byte)) := by
  refine .lift ⟨.call (.readBuffer length) fun
    | .span bytes => .done bytes
    | _ => .done [], ?_⟩
  rfl

theorem resetRead : OnlyReads (liftM Buffer.resetRead : DecodeM Unit) :=
  .lift ⟨.call .resetRead fun _ => .done (), rfl⟩

theorem check {α β : Type} {n : Nat} {error : String} {y : β → DecodeM α} {x : DecodeM α}
    (hx : OnlyReads x) :
    OnlyReads (get >>= fun b => if b.bytesLeftToRead < n then throw error >>= y else x) := by
  obtain ⟨program, hprogram⟩ := hx
  refine ⟨.call .bytesLeftToRead fun
    | .bytesLeft count => if count < n then .done (.error error) else program
    | _ => program, ?_⟩
  funext b
  change (if b.bytesLeftToRead < n then Program.done (.error error) else program).runWith
      Buffer.readCall b = runOn (get >>= fun b => if b.bytesLeftToRead < n then _ else x) b
  rw [runOn_bind_ok (runOn_get b)]
  split
  case isTrue => rfl
  case isFalse => exact congrFun hprogram b

theorem header : OnlyReads HeaderCodec.decode :=
  check (uint32.bind fun _ => uint16.bind fun _ => .pure _)

theorem data : OnlyReads DataMessageCodec.decode :=
  check (uint16.bind fun _ => uint16.bind fun _ => (span _).bind fun _ => .pure _)

theorem jump (i : Nat) : OnlyReads (DiscoveryMessageCodec.decodeJump i) :=
  uint16.bind fun _ => .pure _

theorem node (i : Nat) : OnlyReads (DiscoveryMessageCodec.decodeNode i) :=
  uint16.bind fun _ => uint32.bind fun _ => uint16.bind fun _ =>
    (Calls.collect jump).bind fun _ => .pure _

theorem discovery : OnlyReads DiscoveryMessageCodec.decode :=
  check (uint16.bind fun _ => uint16.bind fun _ => (Calls.collect node).bind fun _ => .pure _)

theorem message (i : Nat) : OnlyReads (PacketCodec.decodeMessage i) := by
  refine (header.mapError _).bind fun header => ?_
  cases header.type with
  | discoveryMessage => exact (discovery.mapError _).bind fun _ => .pure _
  | dataMessage => exact (data.mapError _).bind fun _ => .pure _
  | commandMessage => exact .throw _
  | other value => exact .throw _

theorem contents : OnlyReads PacketCodec.decodeContents :=
  uint32.bind fun _ => uint16.bind fun _ =>
    (Calls.collect message).bind fun _ => uint32.bind fun _ => .pure _

theorem validatePacket (md5 : List Byte → Digest) : OnlyReads (PacketCodec.validatePacket md5) := by
  refine check (uint32.bind fun _ => resetRead.bind fun _ => check ?_)
  refine (span _).bind fun _ => uint32.bind fun checksum => ?_
  dsimp only
  split
  case isTrue => exact (Calls.throw _).bind fun _ => .pure _
  case isFalse => exact .pure _

theorem packet (md5 : List Byte → Digest) : OnlyReads (PacketCodec.decode md5) := by
  refine (validatePacket md5).attempt.bind fun valid => resetRead.bind fun _ => ?_
  cases valid with
  | error e => exact .throw e
  | ok v => exact contents

end OnlyReads

end

-- ---------------------------------------------------------------------------
-- Reading in place is reading a buffer
-- ---------------------------------------------------------------------------

namespace ReadBuffer

/-- The two give the same result, and leave as many bytes to read. -/
def AgreeOn {α : Type} (x : StateT ReadBuffer Option α) (y : StateM Buffer α)
    (reader : ReadBuffer) (b : Buffer) : Prop :=
  ∃ after, x.run reader = some ((y.run b).1, after) ∧
    after.bytesLeftToRead = some (y.run b).2.bytesLeftToRead

/-- Any calls one after the other, and any program that goes on by what its
calls give. -/
def Agree (reader : ReadBuffer) (b : Buffer) : Prop :=
  (∀ calls : List ReadCall,
    AgreeOn (calls.mapM readCall) (calls.mapM Buffer.readCall) reader b) ∧
  ∀ (α : Type) (program : Program ReadCall ReadResult α),
    AgreeOn (program.runWith readCall) (program.runWith Buffer.readCall) reader b

theorem agreeOn_of_simulates {α : Type} {x : StateT ReadBuffer Option α} {y : StateM Buffer α}
    (h : Simulates ReadsAs x y) (b : Buffer) : AgreeOn x y b.reader b := by
  obtain ⟨after, hrun, hafter⟩ := h b.reader b rfl
  refine ⟨after, hrun, ?_⟩
  obtain rfl : after = (y.run b).2.reader := hafter
  exact bytesLeftToRead_reader _

theorem agree_reader (b : Buffer) : Agree b.reader b := by
  constructor
  · intro calls
    exact agreeOn_of_simulates (.mapM simulates_readCall calls) b
  · intro α program
    exact agreeOn_of_simulates (program.simulates simulates_readCall) b

/-- A read buffer over the bytes of a buffer agrees with it where both are at
the front, and anywhere else where both stand at the same place. Decoding a
packet is one of the programs on which they agree. -/
theorem agrees_with_buffer (bytes : List Byte) (b : Buffer) (hdata : b.data = bytes) :
    (b.readOffset = 0 → Agree (new bytes) b) ∧ Agree ⟨b.readOffset, bytes⟩ b ∧
      ∀ md5, ∃ decoder : Program ReadCall ReadResult (Except String Messages.Packet),
        decoder.runWith Buffer.readCall = ExceptT.run (Messages.PacketCodec.decode md5) := by
  subst hdata
  refine ⟨?_, agree_reader b, OnlyReads.packet⟩
  intro hfront
  have hreader : new b.data = b.reader := by rw [new, Buffer.reader, hfront]
  rw [hreader]
  exact agree_reader b

/-- Five bytes at the front of a buffer for sixteen. -/
theorem agrees_with_larger_buffer :
    Agree (new [1, 2, 3, 4, 5]) ((Buffer.new 16).pushed [1, 2, 3, 4, 5]) := by
  have hdata : ((Buffer.new 16).pushed [1, 2, 3, 4, 5]).data = [1, 2, 3, 4, 5] := by decide
  exact (agrees_with_buffer [1, 2, 3, 4, 5] _ hdata).1 rfl

end ReadBuffer

end Discnet.Network
