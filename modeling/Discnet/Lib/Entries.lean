import Std.Data.TreeMap.AdditionalOperations
import Std.Data.TreeMap.Lemmas
import Mathlib.Data.List.Basic

/-!
# The entries of a map

A walk over all entries of a map to which only the entry of one key
contributes gives what that entry gives.
-/

namespace Discnet.Lib

variable {α β γ : Type}

/-- Over a list without duplicates, only `a` contributes. -/
theorem flatMap_of_mem {l : List α} {a : α} {g : α → List γ} (hl : l.Nodup)
    (hg : ∀ b ∈ l, b ≠ a → g b = []) (h : a ∈ l) : l.flatMap g = g a := by
  induction l with
  | nil => contradiction
  | cons b l ih =>
    obtain ⟨hb, hl⟩ := List.nodup_cons.mp hl
    obtain ⟨hhead, htail⟩ := List.forall_mem_cons.mp hg
    rw [List.flatMap_cons]
    rcases List.mem_cons.mp h with rfl | h
    · have hrest : l.flatMap g = [] := by
        apply List.flatMap_eq_nil_iff.mpr
        intro other hother
        exact htail other hother (ne_of_mem_of_not_mem hother hb)
      rw [hrest, List.append_nil]
    · rw [hhead (ne_of_mem_of_not_mem h hb).symm, List.nil_append, ih hl htail h]

/-- A key leads to the one element that has it. -/
theorem find?_of_nodup_keys [DecidableEq β] {key : α → β} {l : List α}
    (hl : (l.map key).Nodup) {a : α} (ha : a ∈ l) : l.find? (key · = key a) = some a := by
  induction l with
  | nil => contradiction
  | cons first rest ih =>
    obtain ⟨hfirst, hrest⟩ := List.nodup_cons.mp hl
    rcases List.mem_cons.mp ha with rfl | ha
    · simp
    · have hne : key first ≠ key a := fun heq => hfirst (heq ▸ List.mem_map_of_mem ha)
      simpa [hne] using ih hrest ha

/-- Lists that agree key by key differ in their order only. -/
theorem perm_of_filter_key [DecidableEq α] [DecidableEq β] (key : α → β) {l l' : List α}
    (h : ∀ b, l.filter (key · = b) = l'.filter (key · = b)) : l.Perm l' := by
  refine List.perm_iff_count.mpr fun a => ?_
  have hcount : ∀ l : List α, (l.filter (key · = key a)).count a = l.count a := fun l =>
    List.count_filter (by simp)
  rw [← hcount l, h (key a), hcount l']

theorem filter_eq_flatMap (l : List α) (p : α → Bool) :
    l.filter p = l.flatMap fun a => [a].filter p := by
  induction l with
  | nil => rfl
  | cons a l ih => cases hp : p a <;> simp [hp, ih]

open Std

theorem values_eq_map_toList [Ord α] (m : TreeMap α β) : m.values = m.toList.map Prod.snd := by
  have hfoldr : m.values = m.foldr (fun _ v l => v :: l) [] := rfl
  rw [hfoldr, TreeMap.foldr_eq_foldr_toList]
  induction m.toList with
  | nil => rfl
  | cons entry rest ih => simp [ih]

variable [Ord α] [TransOrd α] [LawfulEqOrd α]

theorem pairwise_keys_toList (m : TreeMap α β) : m.toList.Pairwise fun a b => a.1 ≠ b.1 := by
  refine TreeMap.distinct_keys_toList.imp ?_
  rintro a b h heq
  exact h (by rw [heq]; exact ReflCmp.compare_self)

theorem nodup_toList (m : TreeMap α β) : m.toList.Nodup := by
  refine (pairwise_keys_toList m).imp ?_
  rintro a b h rfl
  exact h rfl

theorem mem_values_iff {m : TreeMap α β} {v : β} : v ∈ m.values ↔ ∃ k : α, m[k]? = some v := by
  simp [values_eq_map_toList, TreeMap.mem_toList_iff_getElem?_eq_some]

theorem flatMap_toList_of_key {m : TreeMap α β} {g : α × β → List γ}
    (hg : ∀ entry ∈ m.toList, entry.1 ≠ k → g entry = []) :
    m.toList.flatMap g = (m[k]?).elim [] fun v => g (k, v) := by
  cases hk : m[k]? with
  | some v =>
    have hmem : (k, v) ∈ m.toList := TreeMap.mem_toList_iff_getElem?_eq_some.mpr hk
    apply flatMap_of_mem (nodup_toList m) _ hmem
    rintro ⟨key, w⟩ hother hne
    refine hg _ hother fun hkey => hne ?_
    subst hkey
    rw [TreeMap.mem_toList_iff_getElem?_eq_some.mp hother, Option.some.injEq] at hk
    rw [hk]
  | none =>
    apply List.flatMap_eq_nil_iff.mpr
    rintro ⟨key, v⟩ h
    refine hg _ h ?_
    rintro rfl
    rw [TreeMap.mem_toList_iff_getElem?_eq_some.mp h] at hk
    contradiction

theorem filter_toList_of_key {m : TreeMap α β} {p : α × β → Bool}
    (hp : ∀ entry ∈ m.toList, p entry = true → entry.1 = k) :
    m.toList.filter p = (m[k]?).elim [] fun v => [(k, v)].filter p := by
  rw [filter_eq_flatMap]
  apply flatMap_toList_of_key
  intro entry hentry hne
  have hfalse : p entry ≠ true := fun h => hne (hp entry hentry h)
  simp [hfalse]

end Discnet.Lib
