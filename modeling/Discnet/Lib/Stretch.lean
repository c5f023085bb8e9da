import Mathlib.Data.List.Induction
import Mathlib.Data.List.TakeWhile

/-!
# Keeping the first of each stretch

Items come one after the other, and one that is equivalent to the item that
is kept is passed over. What is kept in the end is the first item of the
last stretch of equivalent ones.
-/

namespace Discnet.Lib

variable {α : Type} (r : α → α → Prop) [DecidableRel r]

/-- One more item: it takes the place of one that it is not equivalent to. -/
def keepFirst (kept : Option α) (a : α) : Option α :=
  match kept with
  | none => some a
  | some first => if r first a then some first else some a

/-- The first of the items at the end that are equivalent to the last one. -/
def stretchStart (l : List α) : Option α :=
  l.getLast?.bind fun last => (l.reverse.takeWhile (r · last)).getLast?

variable {r}

theorem stretchStart_concat (hr : Equivalence r) (l : List α) (a : α) :
    stretchStart r (l ++ [a]) = some ((l.reverse.takeWhile (r · a)).getLast?.getD a) := by
  simp [stretchStart, hr.refl a, List.getLast?_cons]

theorem rel_of_stretchStart {l : List α} {first last : α} (h : stretchStart r l = some first)
    (hlast : l.getLast? = some last) : r first last := by
  rw [stretchStart, hlast] at h
  simpa using List.mem_takeWhile_imp (List.mem_of_getLast? h)

theorem exists_stretchStart (hr : Equivalence r) {l : List α} (h : l ≠ []) :
    ∃ first, stretchStart r l = some first := by
  induction l using List.reverseRecOn with
  | nil => contradiction
  | append_singleton l a _ => exact ⟨_, stretchStart_concat hr l a⟩

theorem foldl_keepFirst (hr : Equivalence r) (l : List α) :
    l.foldl (keepFirst r) none = stretchStart r l := by
  induction l using List.reverseRecOn with
  | nil => rfl
  | append_singleton l a ih =>
    rw [List.foldl_append, ih, stretchStart_concat hr, List.foldl_cons, List.foldl_nil]
    rcases List.eq_nil_or_concat l with rfl | ⟨before, last, rfl⟩
    · rfl
    · rw [List.concat_eq_append]
      obtain ⟨first, hfirst⟩ := exists_stretchStart hr (l := before ++ [last]) (by simp)
      have hlast : r first last := rel_of_stretchStart hfirst (by simp)
      rw [hfirst]
      by_cases hsame : r first a
      · -- the stretch goes on
        have hstretch : (fun x => decide (r x a)) = fun x => decide (r x last) := by
          funext x
          have hiff : r x a ↔ r x last :=
            ⟨fun h => hr.trans h (hr.trans (hr.symm hsame) hlast),
              fun h => hr.trans h (hr.trans (hr.symm hlast) hsame)⟩
          simp [hiff]
        rw [stretchStart, List.getLast?_concat, Option.bind_some] at hfirst
        rw [hstretch, hfirst]
        simp [keepFirst, hsame]
      · have hends : ¬ r last a := fun h => hsame (hr.trans hlast h)
        simp [keepFirst, hsame, hends]

end Discnet.Lib
