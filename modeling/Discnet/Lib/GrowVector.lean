import Mathlib.Data.List.Basic
import Mathlib.Tactic.Common

/-!
# Growable arrays

A `GrowVector` is a list of items with the number of items its allocation
holds. Operations that stay within the allocation keep it; one that outgrows
it gets one and a half times the size, or what it needs if that is more.
-/

namespace Discnet.Lib

/-- A growable array: its items, and how many fit before it reallocates. -/
structure GrowVector (α : Type) where
  items : List α
  capacity : Nat
  fits : items.length ≤ capacity

namespace GrowVector

variable {α : Type}

/-- The allocation after room for `needed` items was asked for. -/
def reserve (room needed : Nat) : Nat :=
  if needed ≤ room then room else max needed (room + room / 2)

theorem le_reserve : needed ≤ reserve room needed := by
  unfold reserve
  split <;> omega

@[simp] theorem reserve_of_le (h : needed ≤ room) : reserve room needed = room := by
  simp [reserve, h]

def replicate (n : Nat) (a : α) : GrowVector α := ⟨List.replicate n a, n, by simp⟩

def clear (v : GrowVector α) : GrowVector α := ⟨[], v.capacity, by simp⟩

/-- The first `n` items, filled up with copies of `a`. -/
def resize (v : GrowVector α) (n : Nat) (a : α) : GrowVector α :=
  ⟨v.items.take n ++ List.replicate (n - v.items.length) a, reserve v.capacity n, by
    have h : n ≤ reserve v.capacity n := le_reserve
    simp only [List.length_append, List.length_take, List.length_replicate]
    omega⟩

/-- Moves the items `n` places to the front. The last `n` places keep what
they held, and nothing moves if there are no more than `n`. -/
def shiftLeft (v : GrowVector α) (n : Nat) : GrowVector α :=
  if n < v.items.length then
    ⟨v.items.drop n ++ v.items.drop (v.items.length - n), v.capacity, by
      have h := v.fits
      simp only [List.length_append, List.length_drop]
      omega⟩
  else v

def pushBack (v : GrowVector α) (a : α) : GrowVector α :=
  ⟨v.items ++ [a], reserve v.capacity (v.items.length + 1), by
    rw [List.length_append, List.length_singleton]
    exact le_reserve⟩

def pushAll (v : GrowVector α) (as : List α) : GrowVector α := as.foldl pushBack v

/-- Takes over the items of `w`, and its size where the allocation is too
small for them. -/
def assign (v w : GrowVector α) : GrowVector α :=
  ⟨w.items, reserve v.capacity w.items.length, le_reserve⟩

@[simp] theorem items_clear (v : GrowVector α) : v.clear.items = [] := rfl

@[simp] theorem capacity_clear (v : GrowVector α) : v.clear.capacity = v.capacity := rfl

@[simp] theorem items_assign (v w : GrowVector α) : (v.assign w).items = w.items := rfl

@[simp] theorem items_pushBack (v : GrowVector α) (a : α) :
    (v.pushBack a).items = v.items ++ [a] := rfl

@[simp] theorem length_resize (v : GrowVector α) (n : Nat) (a : α) :
    (v.resize n a).items.length = n := by
  simp only [resize, List.length_append, List.length_take, List.length_replicate]
  omega

theorem items_resize_of_le {v : GrowVector α} (h : n ≤ v.items.length) :
    (v.resize n a).items = v.items.take n := by
  simp [resize, Nat.sub_eq_zero_of_le h]

theorem capacity_resize_of_le {v : GrowVector α} (h : n ≤ v.capacity) :
    (v.resize n a).capacity = v.capacity := by
  simp [resize, h]

@[simp] theorem capacity_shiftLeft (v : GrowVector α) : (v.shiftLeft n).capacity = v.capacity := by
  unfold shiftLeft
  split <;> rfl

@[simp] theorem length_shiftLeft (v : GrowVector α) :
    (v.shiftLeft n).items.length = v.items.length := by
  unfold shiftLeft
  split
  · simp only [List.length_append, List.length_drop]
    omega
  · rfl

theorem capacity_resize_shiftLeft {v : GrowVector α} (h : n ≤ v.capacity) :
    ((v.shiftLeft k).resize n a).capacity = v.capacity := by
  rw [capacity_resize_of_le (by rwa [capacity_shiftLeft]), capacity_shiftLeft]

/-- Shifting out the first `n` items and dropping as many at the end leaves
the others. -/
theorem items_resize_shiftLeft {v : GrowVector α} (h : n < v.items.length) :
    ((v.shiftLeft n).resize (v.items.length - n) a).items = v.items.drop n := by
  rw [items_resize_of_le (by simp)]
  simp [shiftLeft, h]

/-- An empty vector has nothing to shift, and is filled up. -/
theorem items_resize_shiftLeft_clear (v : GrowVector α) :
    ((v.clear.shiftLeft k).resize n a).items = List.replicate n a := by
  simp [clear, shiftLeft, resize]

@[simp] theorem items_pushAll (v : GrowVector α) (as : List α) :
    (v.pushAll as).items = v.items ++ as := by
  induction as generalizing v with
  | nil => simp [pushAll]
  | cons a as ih =>
    have h := ih (v.pushBack a)
    simp only [pushAll, List.foldl_cons, items_pushBack, List.append_assoc,
      List.singleton_append] at h ⊢
    exact h

theorem capacity_pushAll_of_le {v : GrowVector α} {as : List α}
    (h : v.items.length + as.length ≤ v.capacity) : (v.pushAll as).capacity = v.capacity := by
  induction as generalizing v with
  | nil => rfl
  | cons a as ih =>
    simp only [List.length_cons] at h
    have hb : (v.pushBack a).capacity = v.capacity := reserve_of_le (by omega)
    have hr : ((v.pushBack a).pushAll as).capacity = (v.pushBack a).capacity := by
      apply ih
      rw [hb, items_pushBack, List.length_append, List.length_singleton]
      omega
    exact hr.trans hb

end GrowVector

end Discnet.Lib
