import Mathlib.Data.List.Nodup
import Mathlib.Logic.Function.Basic
import Std.Data.TreeMap.Lemmas

/-!
# Numbering anew

Records that were told apart by old numbers get new ones, one after the other.
What is stored under a new number is what was stored under the old one, and an
index leads from the old keys to the new numbers.
-/

namespace Discnet.Lib

open Function Std

variable {α β : Type}

/-- In a run over a list that never fails the part that is done grows. -/
theorem foldlM_prefix {f : β → α → Option β} {P : List α → β → Prop} {l : List α} {b : β}
    (h : P [] b) (hstep : ∀ done x rest b, l = done ++ x :: rest → P done b →
      ∃ b', f b x = some b' ∧ P (done ++ [x]) b') : ∃ b', l.foldlM f b = some b' ∧ P l b' := by
  suffices hrest : ∀ rest done b, l = done ++ rest → P done b →
      ∃ b', rest.foldlM f b = some b' ∧ P l b' from hrest l [] b rfl h
  intro rest
  induction rest with
  | nil =>
    intro done b hl hdone
    rw [List.append_nil] at hl
    exact ⟨b, rfl, hl ▸ hdone⟩
  | cons x rest ih =>
    intro done b hl hdone
    obtain ⟨b', hx, hnext⟩ := hstep done x rest b hl hdone
    obtain ⟨b'', hrest, hlast⟩ := ih (done ++ [x]) b' (by simp [hl]) hnext
    exact ⟨b'', by simp [hx, hrest], hlast⟩

/-- In a run over a list without repetitions each element is met once. -/
theorem foldlM_once {f : β → α → Option β} {P : List α → β → Prop} {l : List α} {b : β}
    (hl : l.Nodup) (h : P [] b) (hstep : ∀ done x b, x ∈ l → x ∉ done → P done b →
      ∃ b', f b x = some b' ∧ P (done ++ [x]) b') : ∃ b', l.foldlM f b = some b' ∧ P l b' := by
  refine foldlM_prefix h ?_
  rintro done x rest b rfl hdone
  refine hstep done x b (List.mem_append_right _ List.mem_cons_self) (fun hmem => ?_) hdone
  exact List.disjoint_of_nodup_append hl hmem List.mem_cons_self

-- ---------------------------------------------------------------------------
-- New numbers
-- ---------------------------------------------------------------------------

section
variable {base k : Nat} {l : List Nat} {g : Nat → Option β}

/-- The new number of an old one: the list is numbered from `base` on. -/
def number (base : Nat) (l : List Nat) (x : Nat) : Nat := base + l.idxOf x

theorem number_inj (hx : x ∈ l) (h : number base l x = number base l y) : x = y :=
  (List.idxOf_inj hx).mp (Nat.add_left_cancel h)

theorem number_of_append (hl : (done ++ x :: rest).Nodup) :
    number base (done ++ x :: rest) x = base + done.length := by
  have hx : x ∉ done := by
    intro hmem
    exact List.disjoint_of_nodup_append hl hmem List.mem_cons_self
  rw [number, List.idxOf_append_of_notMem hx, List.idxOf_cons_self, Nat.add_zero]

/-- What is stored under the new numbers. -/
def place (base : Nat) (l : List Nat) (g : Nat → Option β) (k : Nat) : Option β :=
  if base ≤ k then l[k - base]?.bind g else none

theorem place_nil : place base [] g = fun _ => none := by
  funext k
  simp [place]

theorem place_append :
    place base (l ++ [x]) g = update (place base l g) (base + l.length) (g x) := by
  funext k
  rw [update_apply, place, place]
  split_ifs with hk heq heq
  · simp [heq]
  · rcases Nat.lt_or_gt_of_ne (show k - base ≠ l.length by omega) with hlt | hgt
    · rw [List.getElem?_append_left hlt]
    · rw [List.getElem?_eq_none (by simp; omega), List.getElem?_eq_none (by omega)]
  · omega
  · rfl

theorem place_number (hx : x ∈ l) : place base l g (number base l x) = g x := by
  rw [place, number, if_pos (Nat.le_add_right ..), Nat.add_sub_cancel_left,
    List.getElem?_idxOf hx, Option.bind_some]

theorem isSome_place (hx : x ∈ l) (h : (g x).isSome) :
    (place base l g (number base l x)).isSome := by
  rwa [place_number hx]

theorem update_place (hl : l.Nodup) (hx : x ∈ l) (v : Option β) :
    update (place base l g) (number base l x) v = place base l (update g x v) := by
  funext k
  rw [update_apply]
  split_ifs with hk
  · rw [hk, place_number hx, update_self]
  · rw [place, place]
    split_ifs with hle
    · cases hy : l[k - base]? with
      | none => rfl
      | some y =>
        obtain ⟨hlt, rfl⟩ := List.getElem?_eq_some_iff.mp hy
        have hne : l[k - base] ≠ x := by
          rintro rfl
          rw [number, hl.idxOf_getElem, Nat.add_sub_cancel' hle] at hk
          exact hk rfl
        rw [Option.bind_some, Option.bind_some, update_of_ne hne]
    · rfl

theorem exists_of_place (hl : l.Nodup) (h : place base l g k = some v) :
    ∃ x ∈ l, number base l x = k ∧ g x = some v := by
  rw [place] at h
  split_ifs at h with hk
  obtain ⟨x, hx, hv⟩ := Option.bind_eq_some_iff.mp h
  obtain ⟨hlt, rfl⟩ := List.getElem?_eq_some_iff.mp hx
  refine ⟨_, List.getElem_mem hlt, ?_, hv⟩
  rw [number, hl.idxOf_getElem, Nat.add_sub_cancel' hk]

theorem place_eq_some (hl : l.Nodup) :
    place base l g k = some v ↔ ∃ x ∈ l, number base l x = k ∧ g x = some v := by
  constructor
  · exact exists_of_place hl
  · rintro ⟨x, hx, rfl, hv⟩
    rw [place_number hx, hv]

/-- What is stored is stored under the new numbers, and nothing else is. -/
structure Renumbers (f : Nat → Nat) (g g' : Nat → Option β) : Prop where
  iff : ∀ k v, g' k = some v ↔ ∃ x, f x = k ∧ g x = some v
  inj : ∀ x y, (g x).isSome → (g y).isSome → f x = f y → x = y

theorem renumbers_place (hl : l.Nodup) (hg : ∀ x, (g x).isSome → x ∈ l) :
    Renumbers (number base l) g (place base l g) where
  iff k v := by
    rw [place_eq_some hl]
    constructor
    · rintro ⟨x, -, hx⟩
      exact ⟨x, hx⟩
    · rintro ⟨x, hk, hx⟩
      exact ⟨x, hg x (by rw [hx]; rfl), hk, hx⟩
  inj x _ hx _ h := number_inj (hg x hx) h

end

-- ---------------------------------------------------------------------------
-- Parts
-- ---------------------------------------------------------------------------

section
variable [DecidableEq α] {l : List α} {g : α → Option β} {x : α}

/-- What is stored of the part. -/
def part (l : List α) (g : α → Option β) (k : α) : Option β := if k ∈ l then g k else none

theorem part_nil : part [] g = fun _ => none := by
  funext k
  simp [part]

theorem part_append : part (l ++ [x]) g = update (part l g) x (g x) := by
  funext k
  rw [update_apply, part, part]
  by_cases hk : k = x <;> simp [hk]

theorem part_of_not_mem (hx : x ∉ l) : part l g x = none := if_neg hx

theorem part_eq_some : part l g x = some v ↔ x ∈ l ∧ g x = some v := by
  rw [part]
  split_ifs with hx <;> simp [hx]

theorem part_eq_self (h : ∀ k v, g k = some v → k ∈ l) : part l g = g := by
  funext k
  rw [part]
  split_ifs with hk
  · rfl
  · cases hg : g k with
    | none => rfl
    | some v => exact absurd (h k v hg) hk

end

-- ---------------------------------------------------------------------------
-- Indexes
-- ---------------------------------------------------------------------------

section
variable {κ : Type} [Ord κ] {key : Nat → κ} {f : Nat → Nat} {l : List Nat} {m : TreeMap κ Nat}
  {x : Nat}

/-- The index leads from the keys of what is in the list to its new numbers. -/
def Indexes (key : Nat → κ) (f : Nat → Nat) (l : List Nat) (m : TreeMap κ Nat) : Prop :=
  ∀ id k, m[id]? = some k ↔ ∃ x ∈ l, key x = id ∧ f x = k

namespace Indexes

theorem get (h : Indexes key f l m) (hx : x ∈ l) : m[key x]? = some (f x) :=
  (h (key x) (f x)).mpr ⟨x, hx, rfl, rfl⟩

variable [TransOrd κ]

theorem empty : Indexes key f [] ∅ := by
  intro id k
  simp

variable [LawfulEqOrd κ]

theorem insert (h : Indexes key f l m) (hx : ∀ y ∈ l, key y ≠ key x) :
    Indexes key f (l ++ [x]) (m.insertIfNew (key x) (f x)) := by
  have hnew : key x ∉ m := by
    rw [TreeMap.mem_iff_isSome_getElem?]
    intro hsome
    obtain ⟨k, hk⟩ := Option.isSome_iff_exists.mp hsome
    obtain ⟨y, hy, hsame, -⟩ := (h (key x) k).mp hk
    exact hx y hy hsame
  intro id k
  rw [TreeMap.getElem?_insertIfNew]
  by_cases hid : key x = id
  · subst hid
    have hnone : ∀ y ∈ l, ¬ (key y = key x ∧ f y = k) := fun y hy hboth => hx y hy hboth.1
    simp only [compare_self, hnew, not_false_eq_true, and_self, if_true, Option.some.injEq,
      List.mem_append, List.mem_singleton, or_and_right, exists_or, exists_eq_left, true_and]
    exact ⟨.inr, fun hor => hor.elim (fun ⟨y, hy, hboth⟩ => absurd hboth (hnone y hy)) id⟩
  · simp [hid, h id k, or_and_right, exists_or]

theorem mem_values (h : Indexes key f l m) (k : Nat) :
    k ∈ m.toList.map Prod.snd ↔ ∃ x ∈ l, f x = k := by
  constructor
  · intro hk
    obtain ⟨⟨id, _⟩, hmem, rfl⟩ := List.mem_map.mp hk
    obtain ⟨x, hx, -, hf⟩ := (h id _).mp (TreeMap.mem_toList_iff_getElem?_eq_some.mp hmem)
    exact ⟨x, hx, hf⟩
  · rintro ⟨x, hx, rfl⟩
    exact List.mem_map.mpr ⟨(key x, f x), TreeMap.mem_toList_iff_getElem?_eq_some.mpr (h.get hx),
      rfl⟩

theorem mem_values_place {β : Type} {base : Nat} {g : Nat → Option β}
    (h : Indexes key (number base l) l m) (hl : l.Nodup) (hg : ∀ x ∈ l, (g x).isSome) (k : Nat) :
    k ∈ m.toList.map Prod.snd ↔ (place base l g k).isSome := by
  rw [h.mem_values, Option.isSome_iff_exists]
  simp only [place_eq_some hl]
  constructor
  · rintro ⟨x, hx, hk⟩
    obtain ⟨v, hv⟩ := Option.isSome_iff_exists.mp (hg x hx)
    exact ⟨v, x, hx, hk, hv⟩
  · rintro ⟨_, x, hx, hk, -⟩
    exact ⟨x, hx, hk⟩

theorem nodup_values (h : Indexes key f l m) (hf : ∀ x ∈ l, ∀ y ∈ l, f x = f y → x = y) :
    (m.toList.map Prod.snd).Nodup := by
  rw [List.Nodup, List.pairwise_map]
  refine TreeMap.distinct_keys_toList.imp_of_mem fun {p q} hp hq hne hsame => hne ?_
  obtain ⟨x, hx, hpx, hfx⟩ := (h _ _).mp (TreeMap.mem_toList_iff_getElem?_eq_some.mp hp)
  obtain ⟨y, hy, hqy, hfy⟩ := (h _ _).mp (TreeMap.mem_toList_iff_getElem?_eq_some.mp hq)
  rw [Std.compare_eq_iff_eq, ← hpx, ← hqy, hf x hx y hy (hfx.trans (hsame.trans hfy.symm))]

end Indexes

/-- Records are made anew one after the other, and an index is made with them. -/
theorem foldlM_indexes [TransOrd κ] [LawfulEqOrd κ] {σ τ : Type} {P : List Nat → σ → Prop}
    {f : σ × TreeMap κ Nat → τ → Option (σ × TreeMap κ Nat)} {record : Nat → Option τ} {base : Nat}
    {s : σ} (hl : l.Nodup) (hkey : ∀ x ∈ l, ∀ y ∈ l, key x = key y → x = y) (hs : P [] s)
    (hstep : ∀ done x rest s m, l = done ++ x :: rest → P done s → ∃ r s', record x = some r ∧
      f (s, m) r = some (s', m.insertIfNew (key x) (base + done.length)) ∧ P (done ++ [x]) s') :
    ∃ s' m, (l.filterMap record).foldlM f (s, ∅) = some (s', m) ∧ P l s' ∧
      Indexes key (number base l) l m := by
  rw [List.foldlM_filterMap]
  obtain ⟨⟨s', m⟩, hdone, hlast, hindexes⟩ := foldlM_prefix (l := l) (b := (s, ∅))
    (f := fun b x => match record x with | some r => f b r | none => pure b)
    (P := fun done b => P done b.1 ∧ Indexes key (number base l) done b.2) ⟨hs, .empty⟩ (by
      rintro done x rest ⟨s, m⟩ rfl ⟨hp, hindexes⟩
      obtain ⟨r, s', hr, hmade, hnext⟩ := hstep done x rest s m rfl hp
      refine ⟨_, by simp only [hr]; exact hmade, hnext, ?_⟩
      rw [← number_of_append hl]
      refine hindexes.insert fun y hy hsame => ?_
      have hx : x ∈ done ++ x :: rest := List.mem_append_right _ List.mem_cons_self
      obtain rfl := hkey y (List.mem_append_left _ hy) x hx hsame
      exact List.disjoint_of_nodup_append hl hy List.mem_cons_self)
  exact ⟨s', m, hdone, hlast, hindexes⟩

end

end Discnet.Lib
