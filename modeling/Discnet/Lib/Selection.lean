import Discnet.Lib.Entries
import Mathlib.Data.List.MinMax
import Mathlib.Data.List.Nodup

/-!
# Keeping the best of each kind

Candidates come one after the other, and of those with the same key the
cheapest is kept, the earlier one if two cost the same. In the end there is
one candidate for each key that occurred, and it is the cheapest.
-/

namespace Discnet.Lib

variable {α κ β : Type} [DecidableEq κ] [LinearOrder β] (key : α → κ) (cost : α → β)

/-- One more candidate: it takes the place of a more expensive one. -/
def keepBest (result : List α) (a : α) : List α :=
  match result.find? (key · = key a) with
  | some existing =>
    if cost a < cost existing then result.eraseP (key · = key a) ++ [a] else result
  | none => result ++ [a]

/-- The result holds the best candidate for each key, once. -/
structure Selected (candidates result : List α) : Prop where
  nodup : (result.map key).Nodup
  find : ∀ k, result.find? (key · = k) = (candidates.filter (key · = k)).argmin cost

variable {key cost}

theorem find?_key_eq_none {l : List α} {k : κ} : l.find? (key · = k) = none ↔ k ∉ l.map key := by
  simp

theorem map_eraseP_key (l : List α) (k : κ) :
    (l.eraseP (key · = k)).map key = (l.map key).erase k := by
  rw [List.erase_eq_eraseP, List.eraseP_map]
  congr 2
  funext a
  simp [eq_comm (a := k), beq_eq_decide]

theorem find?_eraseP_of_ne {l : List α} {k k' : κ} (h : k ≠ k') :
    (l.eraseP (key · = k)).find? (key · = k') = l.find? (key · = k') := by
  induction l with
  | nil => rfl
  | cons a rest ih =>
    by_cases ha : key a = k
    · have hne : key a ≠ k' := fun heq => h (ha.symm.trans heq)
      simp [ha, h]
    · by_cases ha' : key a = k'
      · simp [ha', h.symm]
      · simp [ha, ha', ih]

theorem selected_nil : Selected key cost [] [] := ⟨List.nodup_nil, fun _ => rfl⟩

theorem Selected.nodup_keepBest {candidates result : List α}
    (h : Selected key cost candidates result) (a : α) :
    ((keepBest key cost result a).map key).Nodup := by
  rw [keepBest]
  cases hknown : result.find? (key · = key a) with
  | none =>
    have hnew := find?_key_eq_none.mp hknown
    simpa [List.nodup_append, h.nodup] using hnew
  | some existing =>
    dsimp only
    split_ifs
    · rw [List.map_append, map_eraseP_key]
      refine List.nodup_append.mpr ⟨h.nodup.erase _, by simp, ?_⟩
      rintro k hk _ hsame rfl
      obtain rfl := List.mem_singleton.mp hsame
      exact h.nodup.not_mem_erase hk
    · exact h.nodup

theorem Selected.keepBest {candidates result : List α} (h : Selected key cost candidates result)
    (a : α) : Selected key cost (candidates ++ [a]) (keepBest key cost result a) := by
  refine ⟨h.nodup_keepBest a, fun k => ?_⟩
  rw [Lib.keepBest, List.filter_append]
  by_cases hk : key a = k
  · subst hk
    have hbest := h.find (key a)
    rw [List.filter_singleton, decide_eq_true rfl, cond_true, List.argmin_concat, ← hbest]
    cases hknown : result.find? (key · = key a) with
    | none => simp [List.find?_append, hknown]
    | some existing =>
      dsimp only
      split_ifs
      · have herased : (result.eraseP (key · = key a)).find? (key · = key a) = none := by
          rw [find?_key_eq_none, map_eraseP_key]
          exact h.nodup.not_mem_erase
        simp [List.find?_append, herased]
      · exact hknown
  · have hother := h.find k
    rw [List.filter_singleton, decide_eq_false hk, cond_false, List.append_nil,
      ← hother]
    cases result.find? (key · = key a) with
    | none => simp [List.find?_append, hk]
    | some existing =>
      dsimp only
      split_ifs
      · simp [List.find?_append, find?_eraseP_of_ne hk, hk]
      · rfl

/-- What is kept of any candidates. -/
theorem selected_foldl (candidates : List α) :
    Selected key cost candidates (candidates.foldl (Lib.keepBest key cost) []) := by
  induction candidates using List.reverseRecOn with
  | nil => exact selected_nil
  | append_singleton candidates a ih =>
    rw [List.foldl_append]
    exact ih.keepBest a

-- ---------------------------------------------------------------------------
-- Which candidate is kept
-- ---------------------------------------------------------------------------

/-- Cheaper than all that came before, and none after is cheaper. -/
def FirstLeast (cost : α → β) (l : List α) (a : α) : Prop :=
  ∃ before after, l = before ++ a :: after ∧ (∀ b ∈ before, cost a < cost b) ∧
    ∀ b ∈ after, cost a ≤ cost b

theorem argmin_eq_some_iff_firstLeast {l : List α} {a : α} :
    l.argmin cost = some a ↔ FirstLeast cost l a := by
  induction l generalizing a with
  | nil => simp [FirstLeast]
  | cons first rest ih =>
    rw [List.argmin_cons]
    constructor
    · intro h
      cases hrest : rest.argmin cost with
      | none =>
        obtain rfl := List.argmin_eq_none.mp hrest
        cases h
        exact ⟨[], [], rfl, by simp, by simp⟩
      | some best =>
        rw [hrest] at h
        dsimp only at h
        split_ifs at h with hlt
        · cases h
          obtain ⟨before, after, rfl, hbefore, hafter⟩ := ih.mp hrest
          exact ⟨first :: before, after, rfl, List.forall_mem_cons.mpr ⟨hlt, hbefore⟩, hafter⟩
        · cases h
          refine ⟨[], rest, rfl, by simp, fun b hb => ?_⟩
          exact le_trans (le_of_not_gt hlt) (List.le_of_mem_argmin hb hrest)
    · rintro ⟨before, after, hl, hbefore, hafter⟩
      cases before with
      | nil =>
        cases hl
        cases hrest : rest.argmin cost with
        | none => rfl
        | some best =>
          exact if_neg (not_lt_of_ge (hafter best (List.argmin_mem hrest)))
      | cons _ before =>
        cases hl
        obtain ⟨hfirst, hbefore⟩ := List.forall_mem_cons.mp hbefore
        rw [ih.mpr ⟨before, after, rfl, hbefore, hafter⟩]
        exact if_pos hfirst

/-- Cheaper than all with its key that came before, and none with its key
that came after is cheaper. -/
def FirstBest (key : α → κ) (cost : α → β) (l : List α) (a : α) : Prop :=
  ∃ before after, l = before ++ a :: after ∧ (∀ b ∈ before, key b = key a → cost a < cost b) ∧
    ∀ b ∈ after, key b = key a → cost a ≤ cost b

omit [DecidableEq κ] in
theorem FirstBest.le {l : List α} {a b : α} (h : FirstBest key cost l a) (hb : b ∈ l)
    (hkey : key b = key a) : cost a ≤ cost b := by
  obtain ⟨before, after, rfl, hbefore, hafter⟩ := h
  rcases List.mem_append.mp hb with hb | hb
  · exact le_of_lt (hbefore b hb hkey)
  · rcases List.mem_cons.mp hb with rfl | hb
    · exact le_refl _
    · exact hafter b hb hkey

theorem firstLeast_filter_iff {l : List α} {a : α} :
    FirstLeast cost (l.filter (key · = key a)) a ↔ FirstBest key cost l a := by
  constructor
  · rintro ⟨before, after, hl, hbefore, hafter⟩
    obtain ⟨before, rest, rfl, rfl, hrest⟩ := List.filter_eq_append_iff.mp hl
    obtain ⟨skipped, after, rfl, hskipped, -, rfl⟩ := List.filter_eq_cons_iff.mp hrest
    refine ⟨before ++ skipped, after, by simp, ?_, ?_⟩
    · intro b hb hkey
      rcases List.mem_append.mp hb with hb | hb
      · exact hbefore b (by simp [hb, hkey])
      · exact absurd (decide_eq_true hkey) (hskipped b hb)
    · intro b hb hkey
      exact hafter b (by simp [hb, hkey])
  · rintro ⟨before, after, rfl, hbefore, hafter⟩
    refine ⟨before.filter (key · = key a), after.filter (key · = key a), by simp, ?_, ?_⟩
    · intro b hb
      simp only [List.mem_filter, decide_eq_true_eq] at hb
      exact hbefore b hb.1 hb.2
    · intro b hb
      simp only [List.mem_filter, decide_eq_true_eq] at hb
      exact hafter b hb.1 hb.2

namespace Selected

variable {candidates result : List α}

theorem mem_iff (h : Selected key cost candidates result) {a : α} :
    a ∈ result ↔ FirstBest key cost candidates a := by
  rw [← firstLeast_filter_iff, ← argmin_eq_some_iff_firstLeast, ← h.find]
  exact ⟨find?_of_nodup_keys h.nodup, List.mem_of_find?_eq_some⟩

theorem key_mem_iff (h : Selected key cost candidates result) {k : κ} :
    k ∈ result.map key ↔ k ∈ candidates.map key := by
  rw [← not_iff_not, ← find?_key_eq_none, h.find, List.argmin_eq_none, List.filter_eq_nil_iff]
  simp

end Selected

end Discnet.Lib
