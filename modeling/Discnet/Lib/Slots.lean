import Discnet.Lib.Word

/-!
# Numbers at fixed places

A format puts numbers at places that follow from what stands before them. A
`Slot` is such a place, with the number that belongs there. Bytes record it
if they have the number there, modulo what the slot can hold.
-/

namespace Discnet.Lib

structure Slot where
  offset : Nat
  width : Nat
  number : Nat
  deriving DecidableEq, Repr

namespace Slot

/-- The slot with `n` more bytes before it. -/
def behind (n : Nat) (slot : Slot) : Slot := { slot with offset := n + slot.offset }

/-- What stands in the slot, the most significant byte first. -/
def written (bytes : List UInt8) (slot : Slot) : Nat :=
  fromLittleEndian ((bytes.drop slot.offset).take slot.width).reverse

def Fits (slot : Slot) : Prop := slot.number < 256 ^ slot.width

/-- The slots of items that follow one another. -/
def placed {α : Type} (size : α → Nat) (slots : α → List Slot) : List α → List Slot
  | [] => []
  | a :: rest => slots a ++ (placed size slots rest).map (behind (size a))

@[simp] theorem behind_mk (n offset width number : Nat) :
    behind n ⟨offset, width, number⟩ = ⟨n + offset, width, number⟩ := rfl

@[simp] theorem behind_comp_behind (m n : Nat) : behind n ∘ behind m = behind (n + m) := by
  funext slot
  simp [behind, Nat.add_assoc]

@[simp] theorem fits_behind (n : Nat) (slot : Slot) : (slot.behind n).Fits ↔ slot.Fits := Iff.rfl

end Slot

structure RecordsSlot (bytes : List UInt8) (slot : Slot) : Prop where
  within : slot.offset + slot.width ≤ bytes.length
  written : slot.written bytes = slot.number % 256 ^ slot.width

def Records (bytes : List UInt8) (slots : List Slot) : Prop :=
  ∀ slot ∈ slots, RecordsSlot bytes slot

variable {v w : List UInt8} {slots others : List Slot}

theorem RecordsSlot.append {slot : Slot} (h : RecordsSlot v slot) (w : List UInt8) :
    RecordsSlot (v ++ w) slot := by
  obtain ⟨hwithin, hwritten⟩ := h
  constructor
  · rw [List.length_append]
    omega
  · have htake : ((v ++ w).drop slot.offset).take slot.width =
        (v.drop slot.offset).take slot.width := by
      rw [List.drop_append_of_le_length (by omega),
        List.take_append_of_le_length (by rw [List.length_drop]; omega)]
    simpa [Slot.written, htake] using hwritten

theorem RecordsSlot.behind {slot : Slot} (v : List UInt8) (h : RecordsSlot w slot) :
    RecordsSlot (v ++ w) (slot.behind v.length) := by
  obtain ⟨hwithin, hwritten⟩ := h
  constructor
  · simp only [Slot.behind, List.length_append]
    omega
  · have hdrop : (v ++ w).drop (v.length + slot.offset) = w.drop slot.offset := by simp
    simpa [Slot.written, Slot.behind, hdrop] using hwritten

theorem Records.left (h : Records v slots) (w : List UInt8) : Records (v ++ w) slots :=
  fun slot hslot => (h slot hslot).append w

theorem Records.right (v : List UInt8) (h : Records w slots) :
    Records (v ++ w) (slots.map (Slot.behind v.length)) := by
  intro moved hmoved
  obtain ⟨slot, hslot, rfl⟩ := List.mem_map.mp hmoved
  exact (h slot hslot).behind v

theorem Records.append (hv : Records v slots) (hw : Records w others) :
    Records (v ++ w) (slots ++ others.map (Slot.behind v.length)) := by
  intro slot hslot
  rcases List.mem_append.mp hslot with hslot | hslot
  · exact hv.left w slot hslot
  · exact hw.right v slot hslot

theorem records_ofNat (α : Type) [Word α] (n : Nat) :
    Records (Word.toBigEndian (Word.ofNat n : α)) [⟨0, Word.size α, n⟩] := by
  intro slot hslot
  obtain rfl := List.mem_singleton.mp hslot
  constructor
  · simp
  · have hall : (Word.toBigEndian (Word.ofNat n : α)).take (Word.size α) =
        Word.toBigEndian (Word.ofNat n : α) :=
      List.take_of_length_le (Nat.le_of_eq (Word.length_toBigEndian _))
    rw [Slot.written, List.drop_zero, hall, Word.toBigEndian, List.reverse_reverse, Word.toBytes,
      fromLittleEndian_littleEndian, Word.toNat_ofNat, Nat.mod_mod]

variable {α : Type} {size : α → Nat} {slotsOf : α → List Slot}

theorem Records.flatMap {bytes : α → List UInt8} {as : List α}
    (hsize : ∀ a ∈ as, (bytes a).length = size a)
    (h : ∀ a ∈ as, Records (bytes a) (slotsOf a)) :
    Records (as.flatMap bytes) (Slot.placed size slotsOf as) := by
  induction as with
  | nil =>
    intro slot hslot
    cases hslot
  | cons a rest ih =>
    obtain ⟨hfirst, hrest⟩ := List.forall_mem_cons.mp h
    obtain ⟨hfirstSize, hrestSize⟩ := List.forall_mem_cons.mp hsize
    rw [List.flatMap_cons, Slot.placed, ← hfirstSize]
    exact hfirst.append (ih hrestSize hrest)

theorem fits_placed {as : List α} :
    (∀ slot ∈ Slot.placed size slotsOf as, slot.Fits) ↔
      ∀ a ∈ as, ∀ slot ∈ slotsOf a, slot.Fits := by
  induction as with
  | nil => simp [Slot.placed]
  | cons a rest ih =>
    rw [Slot.placed, List.forall_mem_append, List.forall_mem_map, List.forall_mem_cons, ← ih]
    simp

end Discnet.Lib
