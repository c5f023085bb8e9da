import Discnet.Typedefs
import Discnet.Lib.Codec

/-!
# The packet buffer

`Buffer` is a block of memory with a write offset and a read offset. An
append that does not fit and an integer read that runs short leave it as it
is; so does a span read of everything that is left, which compares the
lengths strictly.
-/

namespace Discnet.Network

open Lib

/-- A block of bytes. What lies before the write offset was appended; what
lies between the two offsets has not been read. -/
@[ext] structure Buffer where
  writeOffset : Nat
  readOffset : Nat
  buffer : List Byte
  read_le_write : readOffset ≤ writeOffset
  write_le_size : writeOffset ≤ buffer.length
  deriving DecidableEq

namespace Buffer

def new (size : Nat) : Buffer := ⟨0, 0, List.replicate size 0, by simp, by simp⟩

def data (b : Buffer) : List Byte := b.buffer.take b.writeOffset

def remainingBytes (b : Buffer) : Nat := b.buffer.length - b.writeOffset

def appendedBytes (b : Buffer) : Nat := b.writeOffset

def bytesLeftToRead (b : Buffer) : Nat :=
  if b.readOffset ≥ b.writeOffset then 0 else b.writeOffset - b.readOffset

def size (b : Buffer) : Nat := b.buffer.length

/-- The integer at the read offset, or 0 where fewer bytes than it has are
left. -/
def read (α : Type) [Word α] : StateM Buffer α := fun b =>
  if b.readOffset ≥ b.writeOffset then (Word.ofNat 0, b)
  else
    let remaining := b.writeOffset - b.readOffset
    if h : remaining ≥ Word.size α then
      (Word.ofBytes ((b.buffer.drop b.readOffset).take (Word.size α)),
        { b with
          readOffset := b.readOffset + Word.size α
          read_le_write := by have := b.read_le_write; omega })
    else (Word.ofNat 0, b)

def readUInt16 : StateM Buffer UInt16 := read UInt16

def readUInt32 : StateM Buffer UInt32 := read UInt32

def readUInt64 : StateM Buffer UInt64 := read UInt64

def readInt16 : StateM Buffer Int16 := read Int16

def readInt32 : StateM Buffer Int32 := read Int32

def readInt64 : StateM Buffer Int64 := read Int64

/-- The next `length` bytes, or none of them where there are not more than
that. -/
def readBuffer (length : Nat) : StateM Buffer (List Byte) := fun b =>
  if b.readOffset ≥ b.writeOffset then ([], b)
  else
    let remaining := b.writeOffset - b.readOffset
    if h : remaining > length then
      ((b.buffer.drop b.readOffset).take length,
        { b with
          readOffset := b.readOffset + length
          read_le_write := by have := b.read_le_write; omega })
    else ([], b)

def appendSpan (val : List Byte) : StateM Buffer Bool := fun b =>
  if h : val.length > b.remainingBytes then (false, b)
  else
    (true,
      { b with
        buffer := b.buffer.take b.writeOffset ++ val ++ b.buffer.drop (b.writeOffset + val.length)
        writeOffset := b.writeOffset + val.length
        read_le_write := by have := b.read_le_write; omega
        write_le_size := by
          have := b.write_le_size
          simp only [List.length_append, List.length_take, List.length_drop]
          omega })

def append {α : Type} [Word α] (val : α) : StateM Buffer Bool := appendSpan (Word.toBytes val)

def resetWrite : StateM Buffer Unit := fun b =>
  ((), ⟨0, 0, List.replicate b.buffer.length 0, by simp, by simp⟩)

def resetRead : StateM Buffer Unit := fun b =>
  ((), { b with readOffset := 0, read_le_write := Nat.zero_le _ })

def resize (newSize : Nat) : StateM Buffer Unit := fun b =>
  ((), ⟨0, 0, b.buffer.take newSize ++ List.replicate (newSize - b.buffer.length) 0,
    by simp, by simp⟩)

-- ---------------------------------------------------------------------------
-- What is unread
-- ---------------------------------------------------------------------------

def unread (b : Buffer) : List Byte := b.data.drop b.readOffset

def skip (n : Nat) (b : Buffer) : Buffer :=
  { b with readOffset := min (b.readOffset + n) b.writeOffset, read_le_write := by omega }

@[simp] theorem length_data (b : Buffer) : b.data.length = b.writeOffset := by
  rw [data, List.length_take, Nat.min_eq_left b.write_le_size]

theorem length_unread (b : Buffer) : b.unread.length = b.writeOffset - b.readOffset := by
  simp [unread]

theorem bytesLeftToRead_eq (b : Buffer) : b.bytesLeftToRead = b.unread.length := by
  rw [length_unread, bytesLeftToRead]
  split <;> omega

theorem not_bytesLeftToRead_lt {b : Buffer} (h : n ≤ b.unread.length) :
    ¬ b.bytesLeftToRead < n := by
  rw [bytesLeftToRead_eq]
  exact Nat.not_lt.mpr h

theorem bytesLeftToRead_lt {b : Buffer} (h : b.unread.length < n) : b.bytesLeftToRead < n := by
  rwa [bytesLeftToRead_eq]

@[simp] theorem data_skip (b : Buffer) : (b.skip n).data = b.data := rfl

@[simp] theorem size_skip (b : Buffer) : (b.skip n).size = b.size := rfl

@[simp] theorem writeOffset_skip (b : Buffer) : (b.skip n).writeOffset = b.writeOffset := rfl

theorem readOffset_skip {b : Buffer} (h : n ≤ b.unread.length) :
    (b.skip n).readOffset = b.readOffset + n := by
  have := b.read_le_write
  rw [length_unread] at h
  simp only [skip]
  omega

theorem unread_skip (n : Nat) (b : Buffer) : (b.skip n).unread = b.unread.drop n := by
  show b.data.drop (min (b.readOffset + n) b.writeOffset) = (b.data.drop b.readOffset).drop n
  rw [List.drop_drop]
  rcases Nat.le_total (b.readOffset + n) b.writeOffset with h | h
  · rw [Nat.min_eq_left h]
  · rw [Nat.min_eq_right h, List.drop_eq_nil_of_le (by simp), List.drop_eq_nil_of_le (by simpa)]

theorem advance_eq_skip {b : Buffer} (h : n ≤ b.unread.length)
    (hr : b.readOffset + n ≤ b.writeOffset) :
    { b with readOffset := b.readOffset + n, read_le_write := hr } = b.skip n :=
  Buffer.ext rfl (readOffset_skip h).symm rfl

instance : Cursor Buffer Byte where
  unread := unread
  skip := skip
  unread_skip := unread_skip
  skip_skip m n b := by
    ext1 <;> simp only [skip]
    omega
  skip_zero b := by
    have := b.read_le_write
    ext1 <;> simp only [skip]
    omega

theorem take_drop_buffer {b : Buffer} (h : n ≤ b.unread.length) :
    (b.buffer.drop b.readOffset).take n = b.unread.take n := by
  have := b.read_le_write
  rw [length_unread] at h
  rw [unread, data, List.drop_take, List.take_take, Nat.min_eq_left h]

theorem read_of_le {α : Type} [Word α] {b : Buffer} (hp : 0 < Word.size α)
    (h : Word.size α ≤ b.unread.length) :
    (read α).run b = (Word.ofBytes (b.unread.take (Word.size α)), b.skip (Word.size α)) := by
  have hl := h
  rw [length_unread] at hl
  have hlt : ¬ b.readOffset ≥ b.writeOffset := by omega
  simp only [read, StateT.run, hlt, ↓reduceIte, ge_iff_le, hl, ↓reduceDIte, take_drop_buffer h,
    advance_eq_skip h]

theorem read_of_lt {α : Type} [Word α] {b : Buffer} (h : b.unread.length < Word.size α) :
    (read α).run b = (Word.ofNat 0, b) := by
  rw [length_unread] at h
  have hn : ¬ b.writeOffset - b.readOffset ≥ Word.size α := by omega
  simp [read, StateT.run, hn]

theorem readBuffer_of_lt {b : Buffer} (h : n < b.unread.length) :
    (readBuffer n).run b = (b.unread.take n, b.skip n) := by
  have hl := h
  rw [length_unread] at hl
  have hlt : ¬ b.readOffset ≥ b.writeOffset := by omega
  simp only [readBuffer, StateT.run, hlt, ↓reduceIte, gt_iff_lt, hl, ↓reduceDIte,
    take_drop_buffer (Nat.le_of_lt h), advance_eq_skip (Nat.le_of_lt h)]

theorem readBuffer_of_le {b : Buffer} (h : b.unread.length ≤ n) :
    (readBuffer n).run b = ([], b) := by
  rw [length_unread] at h
  have hn : ¬ b.writeOffset - b.readOffset > n := by omega
  simp [readBuffer, StateT.run, hn]

/-- The buffer with everything unread again. -/
def rewound (b : Buffer) : Buffer := (resetRead.run b).2

@[simp] theorem rewound_skip (n : Nat) (b : Buffer) : (b.skip n).rewound = b.rewound := rfl

@[simp] theorem size_rewound (b : Buffer) : b.rewound.size = b.size := rfl

theorem skip_zero (b : Buffer) : b.skip 0 = b := Cursor.skip_zero b

/-- Reading an integer moves past it or stays. -/
theorem read_advances {α : Type} [Word α] (hp : 0 < Word.size α) (b : Buffer) :
    ∃ n, n ≤ b.unread.length ∧ ((read α).run b).2 = b.skip n := by
  rcases Nat.lt_or_ge b.unread.length (Word.size α) with h | h
  · exact ⟨0, Nat.zero_le _, by rw [read_of_lt h, skip_zero]⟩
  · exact ⟨Word.size α, h, by rw [read_of_le hp h]⟩

theorem readBuffer_advances (length : Nat) (b : Buffer) :
    ∃ n, n ≤ b.unread.length ∧ ((readBuffer length).run b).2 = b.skip n := by
  rcases Nat.lt_or_ge length b.unread.length with h | h
  · exact ⟨length, Nat.le_of_lt h, by rw [readBuffer_of_lt h]⟩
  · exact ⟨0, Nat.zero_le _, by rw [readBuffer_of_le h, skip_zero]⟩

theorem rewound_of_readOffset {b : Buffer} (h : b.readOffset = 0) : b.rewound = b :=
  Buffer.ext rfl h.symm rfl

@[simp] theorem unread_resetRead (b : Buffer) : ((resetRead.run b).2).unread = b.data := rfl

@[simp] theorem data_resetRead (b : Buffer) : ((resetRead.run b).2).data = b.data := rfl

-- ---------------------------------------------------------------------------
-- What was appended
-- ---------------------------------------------------------------------------

/-- The buffer after bytes were appended, unchanged where they do not fit. -/
def pushed (w : List Byte) (b : Buffer) : Buffer := ((appendSpan w).run b).2

theorem appendSpan_of_le {b : Buffer} (h : w.length ≤ b.remainingBytes) :
    (appendSpan w).run b = (true, b.pushed w) := by
  simp [pushed, appendSpan, StateT.run, Nat.not_lt.mpr h]

theorem buffer_pushed {b : Buffer} (h : w.length ≤ b.remainingBytes) :
    (b.pushed w).buffer =
      b.buffer.take b.writeOffset ++ w ++ b.buffer.drop (b.writeOffset + w.length) := by
  simp [pushed, appendSpan, StateT.run, Nat.not_lt.mpr h]

theorem writeOffset_pushed {b : Buffer} (h : w.length ≤ b.remainingBytes) :
    (b.pushed w).writeOffset = b.writeOffset + w.length := by
  simp [pushed, appendSpan, StateT.run, Nat.not_lt.mpr h]

theorem readOffset_pushed (b : Buffer) : (b.pushed w).readOffset = b.readOffset := by
  simp only [pushed, appendSpan, StateT.run]
  split <;> rfl

/-- The old bytes and the new ones take up the memory before the new write
offset. -/
theorem length_take_append (b : Buffer) (w : List Byte) :
    (b.buffer.take b.writeOffset ++ w).length = b.writeOffset + w.length := by
  rw [List.length_append, List.length_take, Nat.min_eq_left b.write_le_size]

theorem data_pushed {b : Buffer} (h : w.length ≤ b.remainingBytes) :
    (b.pushed w).data = b.data ++ w := by
  rw [data, buffer_pushed h, writeOffset_pushed h, ← length_take_append b w, List.take_left, data]

theorem drop_pushed {b : Buffer} (h : w.length ≤ b.remainingBytes) :
    (b.pushed w).buffer.drop (b.writeOffset + (w.length + n)) =
      b.buffer.drop (b.writeOffset + (w.length + n)) := by
  have hl := length_take_append b w
  rw [buffer_pushed h, ← Nat.add_assoc, ← hl, List.drop_append, hl, List.drop_drop,
    List.drop_eq_nil_of_le (by omega), List.nil_append]
  congr 1
  omega

theorem size_pushed (b : Buffer) : (b.pushed w).size = b.size := by
  have := b.write_le_size
  simp only [pushed, appendSpan, StateT.run, size]
  split
  · rfl
  · rename_i h
    rw [remainingBytes] at h
    simp only [List.length_append, List.length_take, List.length_drop]
    omega

instance : Sink Buffer Byte where
  room := remainingBytes
  push := pushed
  room_push w b h := by
    have hs := size_pushed (w := w) b
    have hw := writeOffset_pushed h
    simp only [remainingBytes, size] at *
    omega
  push_push v w b h := by
    have hl : (v ++ w).length = v.length + w.length := List.length_append
    have hv : v.length ≤ b.remainingBytes := by omega
    have hov := writeOffset_pushed hv
    have hs := size_pushed (w := v) b
    have hw : w.length ≤ (b.pushed v).remainingBytes := by
      simp only [remainingBytes, size] at *
      omega
    have hd := data_pushed hv
    rw [data] at hd
    ext1
    · rw [writeOffset_pushed hw, writeOffset_pushed h, hov, hl, Nat.add_assoc]
    · rw [readOffset_pushed, readOffset_pushed, readOffset_pushed]
    · rw [buffer_pushed hw, hd, hov, Nat.add_assoc, drop_pushed hv, buffer_pushed h, hl, data]
      simp only [List.append_assoc]
  push_nil b := by
    have h : ([] : List Byte).length ≤ b.remainingBytes := Nat.zero_le _
    ext1
    · rw [writeOffset_pushed h]
      rfl
    · rw [readOffset_pushed]
    · rw [buffer_pushed h]
      simp

/-- A buffer that holds just these bytes. -/
def holding (bytes : List Byte) : Buffer := (new bytes.length).pushed bytes

theorem remainingBytes_new (n : Nat) : (new n).remainingBytes = n := by
  simp [new, remainingBytes]

theorem data_new (n : Nat) : (new n).data = [] := by
  simp [new, data]

@[simp] theorem data_holding (bytes : List Byte) : (holding bytes).data = bytes := by
  rw [holding, data_pushed (by rw [remainingBytes_new]), data_new, List.nil_append]

@[simp] theorem readOffset_holding (bytes : List Byte) : (holding bytes).readOffset = 0 :=
  readOffset_pushed _

@[simp] theorem size_holding (bytes : List Byte) : (holding bytes).size = bytes.length := by
  rw [holding, size_pushed]
  simp [new, size]

@[simp] theorem unread_holding (bytes : List Byte) : (holding bytes).unread = bytes := by
  rw [unread, data_holding, readOffset_holding, List.drop_zero]

theorem data_push {b : Buffer} (h : w.length ≤ Sink.room b) :
    (Sink.push w b).data = b.data ++ w := data_pushed h

end Buffer

end Discnet.Network
