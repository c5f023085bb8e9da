import Mathlib.Data.List.Basic

/-!
# Columns

Cells of one width are written over a blank row, each at its own offset and
with one blank between two of them. No write leaves the row, and what it holds
in the end is the cells, joined by blanks.
-/

namespace Discnet.Lib

variable {α β : Type}

/-- The list with `w` written over it from an offset on, if all of `w` ends
up inside. -/
def overwrite (l : List α) (offset : Nat) (w : List α) : Option (List α) :=
  if offset + w.length ≤ l.length then
    some (l.take offset ++ w ++ l.drop (offset + w.length))
  else none

theorem overwrite_append {before old w : List α} {offset : Nat} (after : List α)
    (hbefore : before.length = offset) (hold : old.length = w.length) :
    overwrite (before ++ (old ++ after)) offset w = some (before ++ w ++ after) := by
  subst hbefore
  have hinside : before.length + w.length ≤ (before ++ (old ++ after)).length := by simp [hold]
  rw [overwrite, if_pos hinside, List.take_left, List.drop_length_add_append, ← hold,
    List.drop_left]

/-- How much room `n` cells take, and the blanks between them. -/
def rowLength (n width : Nat) : Nat := n * (width + 1) - 1

theorem rowLength_one (width : Nat) : rowLength 1 width = width := by simp [rowLength]

theorem rowLength_add_two (n width : Nat) :
    rowLength (n + 2) width = width + (1 + rowLength (n + 1) width) := by
  simp only [rowLength, Nat.add_mul]
  omega

section
variable {width : Nat} {cell : β → List α} {items : List β} (blank : α)

theorem length_intercalate_cells (hcell : ∀ b, (cell b).length = width) (hitems : items ≠ []) :
    ([blank].intercalate (items.map cell)).length = rowLength items.length width := by
  induction items with
  | nil => exact absurd rfl hitems
  | cons b rest ih =>
    cases rest with
    | nil => simp [rowLength_one, hcell]
    | cons c rest =>
      have hrest := ih (List.cons_ne_nil c rest)
      simp only [List.map_cons, List.length_cons] at hrest
      simp [rowLength_add_two, List.intercalate_cons_cons, hcell, hrest]
      omega

/-- What the loop does from the `k`-th cell on, behind those already written. -/
theorem foldlM_overwrite (hcell : ∀ b, (cell b).length = width) (hitems : items ≠ [])
    {k : Nat} {written : List α} (hwritten : written.length = k * (width + 1)) :
    (items.zipIdx k).foldlM (fun row (b, i) => overwrite row (i * (width + 1)) (cell b))
      (written ++ List.replicate (rowLength items.length width) blank) =
        some (written ++ [blank].intercalate (items.map cell)) := by
  induction items generalizing k written with
  | nil => exact absurd rfl hitems
  | cons b rest ih =>
    have hold : (List.replicate width blank).length = (cell b).length := by simp [hcell]
    cases rest with
    | nil =>
      have hrow := overwrite_append [] hwritten hold
      simp only [List.append_nil] at hrow
      simp [rowLength_one, hrow]
    | cons c rest =>
      have hrow := overwrite_append
        ([blank] ++ List.replicate (rowLength (rest.length + 1) width) blank) hwritten hold
      have hnext : (written ++ cell b ++ [blank]).length = (k + 1) * (width + 1) := by
        simp [hcell, hwritten, Nat.add_mul]
      rw [List.length_cons, List.length_cons, rowLength_add_two, List.replicate_add,
        List.replicate_add, List.replicate_one, List.zipIdx_cons, List.foldlM_cons, List.map_cons,
        List.map_cons, List.intercalate_cons_cons]
      dsimp only
      rw [hrow]
      have hrest := ih (List.cons_ne_nil c rest) hnext
      simp only [List.append_assoc] at hrest ⊢
      exact hrest

end

end Discnet.Lib
