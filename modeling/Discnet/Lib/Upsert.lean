import Mathlib.Data.List.Basic
import Mathlib.Data.List.Nodup
import Mathlib.Tactic.Tauto

/-!
# Rows by their keys

A row that comes in takes the place of the one with its key, or comes behind
all others. Then there is one row for each key, the one that came in last.
-/

namespace Discnet.Lib

variable {α β : Type} [DecidableEq β] {key : α → β} {row : α} {rows : List α}

/-- The row takes the place of the first one with its key, or comes last. -/
def upsert (key : α → β) (row : α) : List α → List α
  | [] => [row]
  | existing :: rest =>
    if key existing = key row then row :: rest else existing :: upsert key row rest

theorem mem_keys_upsert {k : β} :
    k ∈ (upsert key row rows).map key ↔ k = key row ∨ k ∈ rows.map key := by
  induction rows with
  | nil => simp [upsert]
  | cons existing rest ih =>
    rw [upsert]
    split
    case isTrue h =>
      simp only [List.map_cons, List.mem_cons, h]
      tauto
    case isFalse =>
      simp only [List.map_cons, List.mem_cons, ih]
      tauto

theorem nodup_upsert (h : (rows.map key).Nodup) : ((upsert key row rows).map key).Nodup := by
  induction rows with
  | nil => exact List.nodup_singleton _
  | cons existing rest ih =>
    obtain ⟨hexisting, hrest⟩ := List.nodup_cons.mp h
    rw [upsert]
    split
    case isTrue hkey => exact List.nodup_cons.mpr ⟨hkey ▸ hexisting, hrest⟩
    case isFalse hkey =>
      refine List.nodup_cons.mpr ⟨?_, ih hrest⟩
      rw [mem_keys_upsert]
      exact not_or.mpr ⟨hkey, hexisting⟩

theorem find?_upsert (k : β) : (upsert key row rows).find? (key · = k) =
    if key row = k then some row else rows.find? (key · = k) := by
  induction rows with
  | nil => by_cases hk : key row = k <;> simp [upsert, hk]
  | cons existing rest ih =>
    rw [upsert]
    split
    case isTrue hkey => by_cases hk : key row = k <;> simp [hkey, hk]
    case isFalse hkey =>
      rw [List.find?_cons, List.find?_cons, ih]
      by_cases hk : key existing = k
      · have hne : key row ≠ k := fun h => hkey (hk.trans h.symm)
        simp [hk, hne]
      · simp [hk]

/-- Of all rows that came in for a key, the last one is there. -/
theorem find?_foldl_upsert (changes : List α) (k : β) :
    (changes.foldl (fun rows row => upsert key row rows) rows).find? (key · = k) =
      ((changes.filter (key · = k)).getLast?).or (rows.find? (key · = k)) := by
  induction changes generalizing rows with
  | nil => rfl
  | cons change rest ih =>
    rw [List.foldl_cons, ih, find?_upsert]
    by_cases hk : key change = k
    · cases hlast : (rest.filter (key · = k)).getLast? <;>
        simp [hk, List.getLast?_cons, hlast]
    · simp [hk]

end Discnet.Lib
