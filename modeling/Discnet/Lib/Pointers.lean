import Mathlib.Data.List.Nodup
import Mathlib.Logic.Function.Basic

/-!
# Pointers

Records that point to each other: owners that list their members while every
member points back to its owner, and records in pairs. Each change of both
sides together keeps the pointers matched.
-/

namespace Discnet.Lib

open Function

variable {α β ι : Type} {a : α}

-- ---------------------------------------------------------------------------
-- Records by number
-- ---------------------------------------------------------------------------

/-- Nothing is stored from `next` on. -/
def Below (f : Nat → Option α) (next : Nat) : Prop := ∀ k, next ≤ k → f k = none

namespace Below

variable {f : Nat → Option α} {next k : Nat}

theorem empty : Below (fun _ => none : Nat → Option α) 0 := fun _ _ => rfl

theorem lt (h : Below f next) (hk : f k = some a) : k < next := by
  apply Nat.lt_of_not_le
  intro hle
  rw [h k hle] at hk
  contradiction

theorem mono (h : Below f next) {next' : Nat} (hle : next ≤ next') : Below f next' :=
  fun k hk => h k (Nat.le_trans hle hk)

theorem set (h : Below f next) (hk : k < next) (v : Option α) :
    Below (Function.update f k v) next := by
  intro j hj
  rw [update_of_ne (Nat.ne_of_gt (Nat.lt_of_lt_of_le hk hj))]
  exact h j hj

theorem push (h : Below f next) (v : Option α) :
    Below (Function.update f next v) (next + 1) :=
  (h.mono (Nat.le_succ _)).set (Nat.lt_succ_self _) v

theorem update (h : Below f next) (hk : f k = some a) (v : Option α) :
    Below (Function.update f k v) next :=
  h.set (h.lt hk) v

end Below

-- ---------------------------------------------------------------------------
-- Owners and members
-- ---------------------------------------------------------------------------

/-- Every owner lists its members once, and every member points to its owner. -/
structure Owned (members : ι → Option (List α)) (owner : α → Option ι) : Prop where
  nodup : ∀ i list, members i = some list → list.Nodup
  mem_iff : ∀ i list a, members i = some list → (a ∈ list ↔ owner a = some i)
  exists_owner : ∀ a i, owner a = some i → ∃ list, members i = some list

namespace Owned

variable {members : ι → Option (List α)} {owner : α → Option ι} {i : ι} {list : List α}

theorem empty : Owned (fun _ => none : ι → Option (List α)) (fun _ => none) where
  nodup _ _ h := by contradiction
  mem_iff _ _ _ h := by contradiction
  exists_owner _ _ h := by contradiction

theorem mem (h : Owned members owner) (ha : owner a = some i) :
    ∃ list, members i = some list ∧ a ∈ list := by
  obtain ⟨list, hlist⟩ := h.exists_owner a i ha
  exact ⟨list, hlist, (h.mem_iff i list a hlist).mpr ha⟩

variable [DecidableEq ι]

theorem addOwner (h : Owned members owner) (hi : members i = none) :
    Owned (update members i (some [])) owner := by
  have hnone : ∀ a, owner a ≠ some i := by
    intro a ha
    obtain ⟨list, hlist⟩ := h.exists_owner a i ha
    rw [hi] at hlist
    contradiction
  constructor
  case nodup =>
    intro j list hj
    rw [update_apply] at hj
    split_ifs at hj
    · obtain rfl := Option.some.inj hj
      exact List.nodup_nil
    · exact h.nodup j list hj
  case mem_iff =>
    intro j list a hj
    rw [update_apply] at hj
    split_ifs at hj with hji
    · obtain rfl := Option.some.inj hj
      simp [hji, hnone]
    · exact h.mem_iff j list a hj
  case exists_owner =>
    intro a j ha
    have hji : j ≠ i := by
      rintro rfl
      exact hnone a ha
    rw [update_of_ne hji]
    exact h.exists_owner a j ha

theorem removeOwner (h : Owned members owner) (hi : members i = some []) :
    Owned (update members i none) owner := by
  have hnone : ∀ a, owner a ≠ some i := by
    intro a ha
    exact List.not_mem_nil ((h.mem_iff i [] a hi).mpr ha)
  constructor
  case nodup =>
    intro j list hj
    rw [update_apply] at hj
    split_ifs at hj
    exact h.nodup j list hj
  case mem_iff =>
    intro j list a hj
    rw [update_apply] at hj
    split_ifs at hj
    exact h.mem_iff j list a hj
  case exists_owner =>
    intro a j ha
    have hji : j ≠ i := by
      rintro rfl
      exact hnone a ha
    rw [update_of_ne hji]
    exact h.exists_owner a j ha

variable [DecidableEq α]

theorem addMember (h : Owned members owner) (hi : members i = some list) (ha : owner a = none) :
    Owned (update members i (some (list ++ [a]))) (update owner a (some i)) := by
  have hnotmem : ∀ j other, members j = some other → a ∉ other := by
    intro j other hj hmem
    rw [(h.mem_iff j other a hj).mp hmem] at ha
    contradiction
  constructor
  case nodup =>
    intro j other hj
    rw [update_apply] at hj
    split_ifs at hj
    · obtain rfl := Option.some.inj hj
      rw [← List.concat_eq_append]
      exact (h.nodup i list hi).concat (hnotmem i list hi)
    · exact h.nodup j other hj
  case mem_iff =>
    intro j other b hj
    rw [update_apply] at hj
    rw [update_apply]
    split_ifs at hj with hji
    · obtain rfl := Option.some.inj hj
      by_cases hba : b = a
      · simp [hba, hji]
      · simp [hba, hji, h.mem_iff i list b hi]
    · by_cases hba : b = a
      · simp [hba, hnotmem j other hj, Ne.symm hji]
      · simp [hba, h.mem_iff j other b hj]
  case exists_owner =>
    intro b j hb
    rw [update_apply]
    split_ifs with hji
    · exact ⟨_, rfl⟩
    · rw [update_apply] at hb
      split_ifs at hb
      · exact absurd (Option.some.inj hb).symm hji
      · exact h.exists_owner b j hb

theorem removeMember (h : Owned members owner) (ha : owner a = some i)
    (hi : members i = some list) :
    Owned (update members i (some (list.erase a))) (update owner a none) := by
  have hnodup := h.nodup i list hi
  constructor
  case nodup =>
    intro j other hj
    rw [update_apply] at hj
    split_ifs at hj
    · obtain rfl := Option.some.inj hj
      exact hnodup.erase a
    · exact h.nodup j other hj
  case mem_iff =>
    intro j other b hj
    rw [update_apply] at hj
    rw [update_apply]
    split_ifs at hj with hji
    · obtain rfl := Option.some.inj hj
      rw [hnodup.mem_erase_iff]
      by_cases hba : b = a
      · simp [hba]
      · simp [hba, hji, h.mem_iff i list b hi]
    · by_cases hba : b = a
      · simp [hba, h.mem_iff j other a hj, ha, Ne.symm hji]
      · simp [hba, h.mem_iff j other b hj]
  case exists_owner =>
    intro b j hb
    rw [update_apply]
    split_ifs
    · exact ⟨_, rfl⟩
    · rw [update_apply] at hb
      split_ifs at hb
      exact h.exists_owner b j hb

end Owned

-- ---------------------------------------------------------------------------
-- Pairs
-- ---------------------------------------------------------------------------

/-- Whatever points to a record is what that record points to. -/
def Paired (f : α → Option β) (g : β → Option α) : Prop := ∀ a b, f a = some b ↔ g b = some a

namespace Paired

variable {f : α → Option β} {g : β → Option α} {a' : α} {b : β}

theorem empty : Paired (fun _ => none : α → Option β) (fun _ => none) := fun _ _ => by simp

theorem unique (h : Paired f g) (ha : f a = some b) (ha' : f a' = some b) : a = a' := by
  have hb := ((h a b).mp ha).symm.trans ((h a' b).mp ha')
  exact Option.some.inj hb

variable [DecidableEq α] [DecidableEq β]

theorem pair (h : Paired f g) (ha : f a = none) (hb : g b = none) :
    Paired (update f a (some b)) (update g b (some a)) := by
  intro x y
  rw [update_apply, update_apply]
  by_cases hx : x = a <;> by_cases hy : y = b
  · simp [hx, hy]
  · simp [hx, hy, Ne.symm hy, ← h a y, ha]
  · simp [hx, hy, Ne.symm hx, h x b, hb]
  · simp [hx, hy, h x y]

theorem unpair (h : Paired f g) (hab : f a = some b) :
    Paired (update f a none) (update g b none) := by
  have hba := (h a b).mp hab
  intro x y
  rw [update_apply, update_apply]
  by_cases hx : x = a <;> by_cases hy : y = b
  · simp [hx, hy]
  · simp [hx, hy, ← h a y, hab, Ne.symm hy]
  · simp [hx, hy, h x b, hba, Ne.symm hx]
  · simp [hx, hy, h x y]

end Paired

end Discnet.Lib
