import Discnet.Lib.Simulation
import Discnet.Network.BufferCalls

/-!
# A buffer without guarantees

`RawBuffer` has the memory and the two offsets of a buffer, and nothing says
how they lie. An operation that subtracts below zero or leaves the memory has
no result. From a new buffer none ever does, and every operation gives what it
gives on a `Buffer`.
-/

namespace Discnet.Network

open Lib

structure RawBuffer where
  writeOffset : Nat
  readOffset : Nat
  buffer : List Byte
  deriving DecidableEq, Repr

namespace RawBuffer

def new (size : Nat) : RawBuffer := ⟨0, 0, List.replicate size 0⟩

/-- The bytes at an offset, all of which are in the memory. -/
def bytesAt (b : RawBuffer) (offset length : Nat) : Option (List Byte) :=
  if offset + length ≤ b.buffer.length then some ((b.buffer.drop offset).take length) else none

/-- The memory with bytes written over it, which are all inside. -/
def written (b : RawBuffer) (offset : Nat) (bytes : List Byte) : Option (List Byte) :=
  if offset + bytes.length ≤ b.buffer.length then
    some (b.buffer.take offset ++ bytes ++ b.buffer.drop (offset + bytes.length))
  else none

def remainingBytes (b : RawBuffer) : Option Nat := difference b.buffer.length b.writeOffset

def bytesLeftToRead (b : RawBuffer) : Option Nat :=
  if b.readOffset ≥ b.writeOffset then some 0 else difference b.writeOffset b.readOffset

def read (α : Type) [Word α] : StateT RawBuffer Option α := fun b =>
  if b.readOffset ≥ b.writeOffset then some (Word.ofNat 0, b)
  else do
    let remaining ← difference b.writeOffset b.readOffset
    if remaining ≥ Word.size α then
      let bytes ← b.bytesAt b.readOffset (Word.size α)
      return (Word.ofBytes bytes, { b with readOffset := b.readOffset + Word.size α })
    else
      return (Word.ofNat 0, b)

def readBuffer (length : Nat) : StateT RawBuffer Option (List Byte) := fun b =>
  if b.readOffset ≥ b.writeOffset then some ([], b)
  else do
    let remaining ← difference b.writeOffset b.readOffset
    if remaining > length then
      let bytes ← b.bytesAt b.readOffset length
      return (bytes, { b with readOffset := b.readOffset + length })
    else
      return ([], b)

def appendSpan (val : List Byte) : StateT RawBuffer Option Bool := fun b => do
  let remaining ← b.remainingBytes
  if val.length > remaining then
    return (false, b)
  else
    let buffer ← b.written b.writeOffset val
    return (true, { b with buffer, writeOffset := b.writeOffset + val.length })

def append {α : Type} [Word α] (val : α) : StateT RawBuffer Option Bool :=
  appendSpan (Word.toBytes val)

def resetWrite : StateT RawBuffer Option Unit := fun b => do
  let buffer ← b.written 0 (List.replicate b.buffer.length 0)
  return ((), ⟨0, 0, buffer⟩)

def resetRead : StateT RawBuffer Option Unit := fun b => some ((), { b with readOffset := 0 })

def resize (newSize : Nat) : StateT RawBuffer Option Unit := fun b =>
  some ((), ⟨0, 0, b.buffer.take newSize ++ List.replicate (newSize - b.buffer.length) 0⟩)

def readInt : IntType → StateT RawBuffer Option IntValue
  | .uint16 => return .uint16 (← read UInt16)
  | .uint32 => return .uint32 (← read UInt32)
  | .uint64 => return .uint64 (← read UInt64)
  | .int16 => return .int16 (← read Int16)
  | .int32 => return .int32 (← read Int32)
  | .int64 => return .int64 (← read Int64)

def appendInt : IntValue → StateT RawBuffer Option Bool
  | .uint16 val => append val
  | .uint32 val => append val
  | .uint64 val => append val
  | .int16 val => append val
  | .int32 val => append val
  | .int64 val => append val

end RawBuffer

-- ---------------------------------------------------------------------------
-- The calls of a buffer
-- ---------------------------------------------------------------------------

inductive BufferCall
  | read (type : IntType)
  | readBuffer (length : Nat)
  | append (val : IntValue)
  | appendSpan (val : List Byte)
  | resetRead
  | resetWrite
  | resize (newSize : Nat)
  deriving DecidableEq, Repr

inductive BufferResult
  | int (val : IntValue)
  | span (bytes : List Byte)
  | appended (success : Bool)
  | done
  deriving DecidableEq, Repr

def Buffer.call : BufferCall → StateM Buffer BufferResult
  | .read type => return .int (← readInt type)
  | .readBuffer length => return .span (← readBuffer length)
  | .append val => return .appended (← appendInt val)
  | .appendSpan val => return .appended (← appendSpan val)
  | .resetRead => do
    resetRead
    return .done
  | .resetWrite => do
    resetWrite
    return .done
  | .resize newSize => do
    resize newSize
    return .done

def RawBuffer.call : BufferCall → StateT RawBuffer Option BufferResult
  | .read type => return .int (← readInt type)
  | .readBuffer length => return .span (← readBuffer length)
  | .append val => return .appended (← appendInt val)
  | .appendSpan val => return .appended (← appendSpan val)
  | .resetRead => do
    resetRead
    return .done
  | .resetWrite => do
    resetWrite
    return .done
  | .resize newSize => do
    resize newSize
    return .done

/-- The index at which a call looks up a byte of the memory. `resetWrite` fills
the memory from the first one on, and looks it up even where there is none. -/
def RawBuffer.indexed (b : RawBuffer) : BufferCall → Option Nat
  | .read type =>
    if b.readOffset < b.writeOffset ∧ type.size ≤ b.writeOffset - b.readOffset then
      some b.readOffset
    else none
  | .readBuffer length =>
    if b.readOffset < b.writeOffset ∧ length < b.writeOffset - b.readOffset then
      some b.readOffset
    else none
  | .resetWrite => some 0
  | _ => none

theorem RawBuffer.indexed_lt {b : RawBuffer} (hwrite : b.writeOffset ≤ b.buffer.length)
    {next : BufferCall} {index : Nat} (h : b.indexed next = some index) :
    index < b.buffer.length ∨ next = .resetWrite ∧ b.buffer = [] := by
  cases next with
  | read type =>
    rw [indexed, Option.ite_none_right_eq_some] at h
    obtain ⟨⟨hunread, -⟩, ⟨⟩⟩ := h
    exact .inl (Nat.lt_of_lt_of_le hunread hwrite)
  | readBuffer length =>
    rw [indexed, Option.ite_none_right_eq_some] at h
    obtain ⟨⟨hunread, -⟩, ⟨⟩⟩ := h
    exact .inl (Nat.lt_of_lt_of_le hunread hwrite)
  | resetWrite =>
    cases h
    rcases List.eq_nil_or_concat b.buffer with hempty | ⟨_, _, hbuffer⟩
    · exact .inr ⟨rfl, hempty⟩
    · exact .inl (by simp [hbuffer])
  | append val => contradiction
  | appendSpan val => contradiction
  | resetRead => contradiction
  | resize newSize => contradiction

-- ---------------------------------------------------------------------------
-- A raw buffer is a buffer
-- ---------------------------------------------------------------------------

/-- The buffer without what it says of itself. -/
def Buffer.raw (b : Buffer) : RawBuffer := ⟨b.writeOffset, b.readOffset, b.buffer⟩

namespace RawBuffer

def LiesAs (raw : RawBuffer) (b : Buffer) : Prop := raw = b.raw

@[simp] theorem writeOffset_raw (b : Buffer) : b.raw.writeOffset = b.writeOffset := rfl

@[simp] theorem readOffset_raw (b : Buffer) : b.raw.readOffset = b.readOffset := rfl

@[simp] theorem buffer_raw (b : Buffer) : b.raw.buffer = b.buffer := rfl

variable {α : Type} {b : Buffer} {offset length : Nat} {bytes : List Byte}

theorem bytesAt_of_le (h : offset + length ≤ b.buffer.length) :
    b.raw.bytesAt offset length = some ((b.buffer.drop offset).take length) := if_pos h

theorem written_of_le (h : offset + bytes.length ≤ b.buffer.length) :
    b.raw.written offset bytes =
      some (b.buffer.take offset ++ bytes ++ b.buffer.drop (offset + bytes.length)) := if_pos h

theorem remainingBytes_raw (b : Buffer) : b.raw.remainingBytes = some b.remainingBytes :=
  difference_of_le b.write_le_size

theorem bytesLeftToRead_raw (b : Buffer) : b.raw.bytesLeftToRead = some b.bytesLeftToRead :=
  zero_or_difference b.read_le_write

theorem simulates_read (α : Type) [Word α] : Simulates LiesAs (read α) (Buffer.read α) := by
  apply Simulates.of_run
  intro b
  have hread := b.read_le_write
  have hwrite := b.write_le_size
  by_cases hnone : b.readOffset ≥ b.writeOffset
  · simp [read, Buffer.read, StateT.run, hnone]
  · by_cases hsize : b.writeOffset - b.readOffset ≥ Word.size α
    · have hbytes : b.raw.bytesAt b.readOffset (Word.size α) = _ := bytesAt_of_le (by omega)
      simp [read, Buffer.read, StateT.run, hnone, hsize, difference_of_le hread, hbytes]
      rfl
    · simp [read, Buffer.read, StateT.run, hnone, hsize, difference_of_le hread]

theorem simulates_readBuffer (length : Nat) :
    Simulates LiesAs (readBuffer length) (Buffer.readBuffer length) := by
  apply Simulates.of_run
  intro b
  have hread := b.read_le_write
  have hwrite := b.write_le_size
  by_cases hnone : b.readOffset ≥ b.writeOffset
  · simp [readBuffer, Buffer.readBuffer, StateT.run, hnone]
  · by_cases hsize : b.writeOffset - b.readOffset > length
    · have hbytes : b.raw.bytesAt b.readOffset length = _ := bytesAt_of_le (by omega)
      simp [readBuffer, Buffer.readBuffer, StateT.run, hnone, hsize, difference_of_le hread, hbytes]
      rfl
    · simp [readBuffer, Buffer.readBuffer, StateT.run, hnone, hsize, difference_of_le hread]

theorem simulates_appendSpan (val : List Byte) :
    Simulates LiesAs (appendSpan val) (Buffer.appendSpan val) := by
  apply Simulates.of_run
  intro b
  have hwrite := b.write_le_size
  by_cases hsize : val.length > b.remainingBytes
  · simp [appendSpan, Buffer.appendSpan, StateT.run, remainingBytes_raw, hsize]
  · have hroom : b.writeOffset + val.length ≤ b.buffer.length := by
      rw [Buffer.remainingBytes] at hsize
      omega
    simp [appendSpan, Buffer.appendSpan, StateT.run, remainingBytes_raw, hsize,
      written_of_le hroom]
    rfl

theorem simulates_resetRead : Simulates LiesAs resetRead Buffer.resetRead :=
  Simulates.of_run fun _ => rfl

theorem simulates_resetWrite : Simulates LiesAs resetWrite Buffer.resetWrite := by
  apply Simulates.of_run
  intro b
  have hwritten : b.raw.written 0 (List.replicate b.buffer.length 0) = _ :=
    written_of_le (by simp)
  simp [resetWrite, Buffer.resetWrite, StateT.run, hwritten]
  rfl

theorem simulates_resize (newSize : Nat) :
    Simulates LiesAs (resize newSize) (Buffer.resize newSize) :=
  Simulates.of_run fun _ => rfl

theorem simulates_readInt (type : IntType) :
    Simulates LiesAs (readInt type) (Buffer.readInt type) := by
  cases type <;> exact (simulates_read _).bind fun _ => .pure _

theorem simulates_appendInt (val : IntValue) :
    Simulates LiesAs (appendInt val) (Buffer.appendInt val) := by
  cases val <;> exact simulates_appendSpan _

theorem simulates_call (call : BufferCall) :
    Simulates LiesAs (RawBuffer.call call) (Buffer.call call) := by
  cases call with
  | read type => exact (simulates_readInt type).bind fun _ => .pure _
  | readBuffer length => exact (simulates_readBuffer length).bind fun _ => .pure _
  | append val => exact (simulates_appendInt val).bind fun _ => .pure _
  | appendSpan val => exact (simulates_appendSpan val).bind fun _ => .pure _
  | resetRead => exact simulates_resetRead.bind fun _ => .pure _
  | resetWrite => exact simulates_resetWrite.bind fun _ => .pure _
  | resize newSize => exact (simulates_resize newSize).bind fun _ => .pure _

end RawBuffer

-- ---------------------------------------------------------------------------
-- What the calls have appended
-- ---------------------------------------------------------------------------

/-- The appended bytes after one more call, as its result tells. -/
def appendedBy (appended : List Byte) : BufferCall × BufferResult → List Byte
  | (.append val, .appended true) => appended ++ val.bytes
  | (.appendSpan val, .appended true) => appended ++ val
  | (.resetWrite, _) => []
  | (.resize _, _) => []
  | _ => appended

/-- The bytes appended since the last `resetWrite` or `resize`. -/
def appendedSince (history : List (BufferCall × BufferResult)) : List Byte :=
  history.foldl appendedBy []

namespace Buffer

theorem run_call_read (type : IntType) (b : Buffer) :
    (call (.read type)).run b =
      if b.unread.length < type.size then (.int (.ofBytes [] type), b)
      else (.int (.ofBytes (b.unread.take type.size) type), b.skip type.size) := by
  rw [call, StateT.run_bind]
  split
  case isTrue h => rw [readInt_of_lt h]; rfl
  case isFalse h => rw [readInt_of_le (Nat.not_lt.mp h)]; rfl

theorem run_call_readBuffer (length : Nat) (b : Buffer) :
    (call (.readBuffer length)).run b =
      if length < b.unread.length then (.span (b.unread.take length), b.skip length)
      else (.span [], b) := by
  rw [call, StateT.run_bind]
  split
  case isTrue h => rw [readBuffer_of_lt h]; rfl
  case isFalse h => rw [readBuffer_of_le (Nat.not_lt.mp h)]; rfl

theorem run_call_appendSpan (val : List Byte) (b : Buffer) :
    (call (.appendSpan val)).run b =
      if b.remainingBytes < val.length then (.appended false, b)
      else (.appended true, b.pushed val) := by
  rw [call, StateT.run_bind]
  split
  case isTrue h => rw [appendSpan_of_lt h]; rfl
  case isFalse h => rw [appendSpan_of_le (Nat.not_lt.mp h)]; rfl

theorem run_call_append (val : IntValue) (b : Buffer) :
    (call (.append val)).run b =
      if b.remainingBytes < val.bytes.length then (.appended false, b)
      else (.appended true, b.pushed val.bytes) := by
  rw [← run_call_appendSpan, call, call, appendInt_eq]

theorem data_call (next : BufferCall) (b : Buffer) :
    ((call next).run b).2.data = appendedBy b.data (next, ((call next).run b).1) := by
  cases next with
  | read type =>
    rw [run_call_read]
    split <;> simp [appendedBy]
  | readBuffer length =>
    rw [run_call_readBuffer]
    split <;> simp [appendedBy]
  | append val =>
    rw [run_call_append]
    split
    case isTrue h => simp [appendedBy]
    case isFalse h => simp [appendedBy, data_pushed (Nat.not_lt.mp h)]
  | appendSpan val =>
    rw [run_call_appendSpan]
    split
    case isTrue h => simp [appendedBy]
    case isFalse h => simp [appendedBy, data_pushed (Nat.not_lt.mp h)]
  | resetRead => rfl
  | resetWrite => exact List.take_zero
  | resize newSize => exact List.take_zero

theorem data_mapM_call (calls : List BufferCall) (b : Buffer) :
    ((calls.mapM call).run b).2.data =
      (calls.zip ((calls.mapM call).run b).1).foldl appendedBy b.data := by
  induction calls generalizing b with
  | nil => rfl
  | cons next rest ih => rw [run_mapM_cons, ih, data_call, List.zip_cons_cons, List.foldl_cons]

end Buffer

-- ---------------------------------------------------------------------------
-- Clean calls
-- ---------------------------------------------------------------------------

namespace RawBuffer

/-- What the call returns was appended, and where it fails the buffer is
what it was. An integer that runs short has no bytes of the buffer. -/
def IsClean (appended : List Byte) (before after : RawBuffer) :
    BufferCall → BufferResult → Prop
  | .read type, .int val =>
    if before.writeOffset - before.readOffset < type.size then
      val = .ofBytes [] type ∧ after = before
    else val.type = type ∧ val.bytes <:+: appended
  | .readBuffer length, .span bytes =>
    bytes <:+: appended ∧ (bytes = [] → length ≠ 0 → after = before)
  | .append _, .appended success => success = false → after = before
  | .appendSpan _, .appended success => success = false → after = before
  | .resetRead, .done => True
  | .resetWrite, .done => True
  | .resize _, .done => True
  | _, _ => False

end RawBuffer

namespace Buffer

theorem infix_data_take_unread (n : Nat) (b : Buffer) : b.unread.take n <:+: b.data :=
  (List.take_prefix n _).isInfix.trans (List.drop_suffix _ _).isInfix

theorem isClean_call (next : BufferCall) (b : Buffer) :
    RawBuffer.IsClean b.data b.raw ((call next).run b).2.raw next ((call next).run b).1 := by
  cases next with
  | read type =>
    have hleft := length_unread b
    rw [run_call_read]
    split
    case isTrue h => simp [RawBuffer.IsClean, ← hleft, h]
    case isFalse h =>
      have hsize : (b.unread.take type.size).length = type.size := by
        rw [List.length_take, Nat.min_eq_left (Nat.not_lt.mp h)]
      simp only [RawBuffer.IsClean, RawBuffer.writeOffset_raw, RawBuffer.readOffset_raw, ← hleft, h,
        ↓reduceIte]
      refine ⟨IntValue.type_ofBytes _ type, ?_⟩
      rw [IntValue.bytes_ofBytes hsize]
      exact infix_data_take_unread _ b
  | readBuffer length =>
    rw [run_call_readBuffer]
    split
    case isTrue h =>
      refine ⟨infix_data_take_unread length b, ?_⟩
      intro hempty hlength
      rcases List.take_eq_nil_iff.mp hempty with hzero | hnil
      · exact absurd hzero hlength
      · simp [hnil] at h
    case isFalse h => exact ⟨List.nil_infix, fun _ _ => rfl⟩
  | append val =>
    rw [run_call_append]
    split
    case isTrue h => exact fun _ => rfl
    case isFalse h => exact nofun
  | appendSpan val =>
    rw [run_call_appendSpan]
    split
    case isTrue h => exact fun _ => rfl
    case isFalse h => exact nofun
  | resetRead => trivial
  | resetWrite => trivial
  | resize newSize => trivial

end Buffer

namespace RawBuffer

/-- Whatever is called on a new buffer, it is called without fail, and so is
anything after it: the offsets lie in order inside the memory, what lies
before the write offset was appended, and the next call is clean. Every byte
it looks up is there, unless it fills a memory of no bytes. -/
theorem calls_are_clean (capacity : Nat) (calls : List BufferCall) :
    ∃ results state, (calls.mapM call).run (new capacity) = some (results, state) ∧
      state.readOffset ≤ state.writeOffset ∧ state.writeOffset ≤ state.buffer.length ∧
      state.remainingBytes = some (state.buffer.length - state.writeOffset) ∧
      state.bytesLeftToRead = some (state.writeOffset - state.readOffset) ∧
      state.buffer.take state.writeOffset = appendedSince (calls.zip results) ∧
      (∀ next index, state.indexed next = some index →
        index < state.buffer.length ∨ next = .resetWrite ∧ state.buffer = []) ∧
      ∀ next, ∃ result after, (call next).run state = some (result, after) ∧
        IsClean (appendedSince (calls.zip results)) state after next result := by
  obtain ⟨state, hrun, hlies⟩ :=
    Simulates.mapM simulates_call calls (new capacity) (.new capacity) rfl
  have hdata := Buffer.data_mapM_call calls (.new capacity)
  rw [Buffer.data_new] at hdata
  generalize (calls.mapM Buffer.call).run (.new capacity) = ran at hrun hlies hdata
  obtain ⟨results, b⟩ := ran
  subst hlies
  have hleft : b.raw.bytesLeftToRead = some (b.writeOffset - b.readOffset) := by
    rw [bytesLeftToRead_raw, Buffer.bytesLeftToRead_eq, Buffer.length_unread]
  refine ⟨results, b.raw, hrun, b.read_le_write, b.write_le_size, remainingBytes_raw b, hleft,
    hdata, fun next index => indexed_lt b.write_le_size, ?_⟩
  intro next
  obtain ⟨after, hnext, hafter⟩ := simulates_call next b.raw b rfl
  have hclean := Buffer.isClean_call next b
  rw [hdata, ← hafter] at hclean
  exact ⟨_, after, hnext, hclean⟩

end RawBuffer

end Discnet.Network
