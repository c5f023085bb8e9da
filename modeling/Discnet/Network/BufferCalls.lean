import Discnet.Network.Buffer

/-!
# Calls of a buffer

Integers of six types and spans of bytes go into a buffer, and come out of
it again in the order they went in, all but a span with which everything
ends: the read of it asks for all that is left, and gets nothing.
-/

namespace Discnet.Network

open Lib

-- ---------------------------------------------------------------------------
-- The six integer types
-- ---------------------------------------------------------------------------

inductive IntType
  | uint16
  | uint32
  | uint64
  | int16
  | int32
  | int64
  deriving DecidableEq, Repr

inductive IntValue
  | uint16 (val : UInt16)
  | uint32 (val : UInt32)
  | uint64 (val : UInt64)
  | int16 (val : Int16)
  | int32 (val : Int32)
  | int64 (val : Int64)
  deriving DecidableEq, Repr

def IntType.size : IntType → Nat
  | uint16 | int16 => 2
  | uint32 | int32 => 4
  | uint64 | int64 => 8

namespace IntValue

def type : IntValue → IntType
  | uint16 _ => .uint16
  | uint32 _ => .uint32
  | uint64 _ => .uint64
  | int16 _ => .int16
  | int32 _ => .int32
  | int64 _ => .int64

/-- The value in memory. -/
def bytes : IntValue → List Byte
  | uint16 val => Word.toBytes val
  | uint32 val => Word.toBytes val
  | uint64 val => Word.toBytes val
  | int16 val => Word.toBytes val
  | int32 val => Word.toBytes val
  | int64 val => Word.toBytes val

def ofBytes (bytes : List Byte) : IntType → IntValue
  | .uint16 => .uint16 (Word.ofBytes bytes)
  | .uint32 => .uint32 (Word.ofBytes bytes)
  | .uint64 => .uint64 (Word.ofBytes bytes)
  | .int16 => .int16 (Word.ofBytes bytes)
  | .int32 => .int32 (Word.ofBytes bytes)
  | .int64 => .int64 (Word.ofBytes bytes)

@[simp] theorem length_bytes (v : IntValue) : v.bytes.length = v.type.size := by
  cases v <;> exact Word.length_toBytes _

@[simp] theorem ofBytes_bytes (v : IntValue) : ofBytes v.bytes v.type = v := by
  cases v <;> simp [bytes, ofBytes, type]

theorem bytes_ofBytes {bytes : List Byte} {type : IntType} (h : bytes.length = type.size) :
    (ofBytes bytes type).bytes = bytes := by
  cases type <;> exact Word.toBytes_ofBytes h

@[simp] theorem type_ofBytes (bytes : List Byte) (type : IntType) :
    (ofBytes bytes type).type = type := by
  cases type <;> rfl

end IntValue

namespace Buffer

def readInt : IntType → StateM Buffer IntValue
  | .uint16 => return .uint16 (← readUInt16)
  | .uint32 => return .uint32 (← readUInt32)
  | .uint64 => return .uint64 (← readUInt64)
  | .int16 => return .int16 (← readInt16)
  | .int32 => return .int32 (← readInt32)
  | .int64 => return .int64 (← readInt64)

def appendInt : IntValue → StateM Buffer Bool
  | .uint16 val => append val
  | .uint32 val => append val
  | .uint64 val => append val
  | .int16 val => append val
  | .int32 val => append val
  | .int64 val => append val

variable {b : Buffer} {type : IntType}

theorem appendInt_eq (v : IntValue) : appendInt v = appendSpan v.bytes := by cases v <;> rfl

theorem run_read_of_le {α : Type} [Word α] (wrap : α → IntValue) (hp : 0 < Word.size α)
    (h : Word.size α ≤ b.unread.length) :
    (do return wrap (← read α) : StateM Buffer IntValue).run b =
      (wrap (Word.ofBytes (b.unread.take (Word.size α))), b.skip (Word.size α)) := by
  rw [StateT.run_bind, read_of_le hp h]
  rfl

theorem run_read_of_lt {α : Type} [Word α] (wrap : α → IntValue)
    (h : b.unread.length < Word.size α) :
    (do return wrap (← read α) : StateM Buffer IntValue).run b = (wrap (Word.ofBytes []), b) := by
  rw [StateT.run_bind, read_of_lt h]
  rfl

theorem readInt_of_le (h : type.size ≤ b.unread.length) :
    (readInt type).run b = (.ofBytes (b.unread.take type.size) type, b.skip type.size) := by
  cases type <;> exact run_read_of_le _ (by decide) h

/-- Where bytes are missing the value is 0. -/
theorem readInt_of_lt (h : b.unread.length < type.size) :
    (readInt type).run b = (.ofBytes [] type, b) := by
  cases type <;> exact run_read_of_lt _ h

-- ---------------------------------------------------------------------------
-- First in, first out
-- ---------------------------------------------------------------------------

end Buffer

/-- What goes into a buffer: an integer, or a span of bytes. -/
inductive Item
  | int (val : IntValue)
  | span (bytes : List Byte)
  deriving DecidableEq, Repr

def Item.bytes : Item → List Byte
  | int val => val.bytes
  | span bytes => bytes

namespace Buffer

variable {b filled : Buffer} {item : Item} {items : List Item}

def appendItem : Item → StateM Buffer Bool
  | .int val => appendInt val
  | .span bytes => appendSpan bytes

/-- The read that matches an append. -/
def readItem : Item → StateM Buffer Item
  | .int val => return .int (← readInt val.type)
  | .span bytes => return .span (← readBuffer bytes.length)

/-- Appends the items, as long as that succeeds. -/
def appendAll : List Item → StateM Buffer Bool
  | [] => return true
  | item :: rest => do
    if !(← appendItem item) then
      return false
    appendAll rest

def readAll : List Item → StateM Buffer (List Item)
  | [] => return []
  | item :: rest => return (← readItem item) :: (← readAll rest)

theorem appendItem_eq (item : Item) : appendItem item = appendSpan item.bytes := by
  cases item with
  | int val => exact appendInt_eq val
  | span bytes => rfl

theorem appendSpan_of_lt {w : List Byte} (h : b.remainingBytes < w.length) :
    (appendSpan w).run b = (false, b) := by
  simp [appendSpan, StateT.run, h]

theorem data_appendAll (h : (appendAll items).run b = (true, filled)) :
    filled.data = b.data ++ items.flatMap Item.bytes ∧ filled.readOffset = b.readOffset := by
  induction items generalizing b with
  | nil =>
    cases h
    simp
  | cons item rest ih =>
    rw [appendAll, StateT.run_bind, appendItem_eq] at h
    rcases Nat.lt_or_ge b.remainingBytes item.bytes.length with hlt | hle
    · rw [appendSpan_of_lt hlt] at h
      cases h
    · rw [appendSpan_of_le hle] at h
      obtain ⟨hdata, hread⟩ := ih h
      rw [hdata, hread, data_pushed hle, readOffset_pushed]
      simp

/-- An integer comes back as it was appended. -/
theorem readItem_int {val : IntValue} (h : b.unread = val.bytes ++ after) :
    (readItem (.int val)).run b = (.int val, b.skip val.bytes.length) := by
  have hsize := val.length_bytes
  have hle : val.type.size ≤ b.unread.length := by
    rw [h, List.length_append, hsize]
    exact Nat.le_add_right _ _
  rw [readItem, StateT.run_bind, readInt_of_le hle, h, List.take_left' hsize,
    IntValue.ofBytes_bytes, hsize]
  rfl

/-- So does a span with something behind it. -/
theorem readItem_span {bytes : List Byte} (h : b.unread = bytes ++ after) (hafter : after ≠ []) :
    (readItem (.span bytes)).run b = (.span bytes, b.skip bytes.length) := by
  have hpos := List.length_pos_of_ne_nil hafter
  rw [readItem, StateT.run_bind, readBuffer_of_lt (by rw [h, List.length_append]; omega), h,
    List.take_left]
  rfl

/-- A span with nothing behind it comes back empty and stays. -/
theorem readItem_last {bytes : List Byte} (h : b.unread = bytes) :
    (readItem (.span bytes)).run b = (.span [], b) := by
  rw [readItem, StateT.run_bind, readBuffer_of_le (by rw [h])]
  rfl

/-- Behind every span that is not empty there is another item that is not. -/
def SpansFollowed (items : List Item) : Prop :=
  ∀ before bytes after, items = before ++ .span bytes :: after → bytes ≠ [] →
    ∃ item ∈ after, item.bytes ≠ []

theorem spansFollowed_nil : SpansFollowed [] := by
  intro before bytes after h
  simp at h

theorem spansFollowed_int {val : IntValue} :
    SpansFollowed (.int val :: items) ↔ SpansFollowed items := by
  constructor
  · rintro h before bytes after rfl
    exact h (.int val :: before) bytes after rfl
  · intro h before bytes after heq
    cases before with
    | nil => simp at heq
    | cons first before =>
      obtain ⟨-, rfl⟩ := List.cons.inj heq
      exact h before bytes after rfl

theorem flatMap_bytes_ne_nil : items.flatMap Item.bytes ≠ [] ↔ ∃ item ∈ items, item.bytes ≠ [] := by
  simp [List.flatMap_eq_nil_iff]

theorem spansFollowed_span {bytes : List Byte} :
    SpansFollowed (.span bytes :: items) ↔
      (bytes ≠ [] → items.flatMap Item.bytes ≠ []) ∧ SpansFollowed items := by
  rw [flatMap_bytes_ne_nil]
  constructor
  · intro h
    refine ⟨h [] bytes items rfl, ?_⟩
    rintro before other after rfl
    exact h (.span bytes :: before) other after rfl
  · rintro ⟨hfirst, hrest⟩ before other after heq
    cases before with
    | nil =>
      cases heq
      exact hfirst
    | cons first before =>
      obtain ⟨-, rfl⟩ := List.cons.inj heq
      exact hrest before other after rfl

theorem run_readAll_cons (item : Item) (rest : List Item) (b : Buffer) :
    (readAll (item :: rest)).run b =
      (((readItem item).run b).1 :: ((readAll rest).run ((readItem item).run b).2).1,
        ((readAll rest).run ((readItem item).run b).2).2) := rfl

theorem unread_skip_left {w after : List Byte} (h : b.unread = w ++ after) :
    (b.skip w.length).unread = after := by
  rw [unread_skip, h, List.drop_left]

theorem readAll_iff (h : b.unread = items.flatMap Item.bytes) :
    (((readAll items).run b).1 = items ∧ ((readAll items).run b).2.unread = []) ↔
      SpansFollowed items := by
  induction items generalizing b with
  | nil => exact iff_of_true ⟨rfl, h⟩ spansFollowed_nil
  | cons item rest ih =>
    rw [List.flatMap_cons] at h
    rw [run_readAll_cons, List.cons.injEq]
    cases item with
    | int val =>
      have hval : b.unread = val.bytes ++ rest.flatMap Item.bytes := h
      rw [readItem_int hval, spansFollowed_int, ← ih (unread_skip_left hval)]
      simp only [true_and]
    | span bytes =>
      have hspan : b.unread = bytes ++ rest.flatMap Item.bytes := h
      rw [spansFollowed_span]
      by_cases hrest : rest.flatMap Item.bytes = []
      · have hunread : b.unread = bytes := by rw [hspan, hrest, List.append_nil]
        rw [readItem_last hunread]
        by_cases hbytes : bytes = []
        · subst hbytes
          rw [← ih (hunread.trans hrest.symm)]
          simp
        · simp [hbytes, hrest, Ne.symm hbytes]
      · rw [readItem_span hspan hrest, ← ih (unread_skip_left hspan)]
        simp [hrest]

/-- What was appended is read back, in order and up to the last byte, if and
only if the last bytes are those of an integer: a span is followed by
something. -/
theorem queue_iff (capacity : Nat) (items : List Item) (filled : Buffer)
    (h : (appendAll items).run (.new capacity) = (true, filled)) :
    (((readAll items).run (resetRead.run filled).2).1 = items ∧
        ((readAll items).run (resetRead.run filled).2).2.bytesLeftToRead = 0) ↔
      SpansFollowed items := by
  have hdata := (data_appendAll h).1
  rw [data_new, List.nil_append] at hdata
  rw [← readAll_iff ((unread_resetRead filled).trans hdata), bytesLeftToRead_eq,
    List.length_eq_zero_iff]

def numberAndSpan : List Item := [.int (.uint16 7), .span [1, 2, 3]]

def spanAndNumber : List Item := [.span [1, 2, 3], .int (.int64 (-1)), .span []]

theorem queue_iff_spanAndNumber :
    (((readAll spanAndNumber).run
        (resetRead.run ((appendAll spanAndNumber).run (.new 11)).2).2).1 = spanAndNumber ∧
      ((readAll spanAndNumber).run
        (resetRead.run ((appendAll spanAndNumber).run (.new 11)).2).2).2.bytesLeftToRead = 0) ↔
      SpansFollowed spanAndNumber :=
  queue_iff 11 spanAndNumber _ (Prod.ext (by decide +kernel) rfl)

/-- The span that was appended last is not read. -/
theorem last_span_not_read :
    ((appendAll numberAndSpan).run (.new 5)).1 = true ∧
      ((readAll numberAndSpan).run
        (resetRead.run ((appendAll numberAndSpan).run (.new 5)).2).2).1 =
          [.int (.uint16 7), .span []] ∧
      ((readAll numberAndSpan).run
        (resetRead.run ((appendAll numberAndSpan).run (.new 5)).2).2).2.bytesLeftToRead = 3 := by
  decide +kernel

end Buffer

end Discnet.Network
