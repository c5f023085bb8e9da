import Mathlib.Data.List.Basic
import Mathlib.Tactic.Common

/-!
# Walks

A `Walk` takes a prefix off a list or refuses it. `Takes x L` says exactly
which prefixes `x` takes, and what it makes of them: a walk is determined by
its language, and the languages of a sequence, a repetition and a measured
walk come from those of the parts.
-/

namespace Discnet.Lib

/-- Takes a prefix off a list, or refuses it. -/
abbrev Walk (β α : Type) := StateT (List β) Option α

namespace Walk

variable {α α' β γ : Type}

def skip (n : Nat) : Walk β Unit := fun items =>
  if n ≤ items.length then some ((), items.drop n) else none

def times (x : Walk β Unit) : Nat → Walk β Unit
  | 0 => pure ()
  | n + 1 => do
    x
    times x n

/-- The result of a walk together with the number of items it took. -/
def measure (x : Walk β α) : Walk β (α × Nat) := do
  let start ← get
  let a ← x
  let rest ← get
  return (a, start.length - rest.length)

/-- The prefixes `x` takes with result `a` are those in `L a`. -/
def Takes (x : Walk β α) (L : α → List β → Prop) : Prop :=
  ∀ items a rest, x.run items = some (a, rest) ↔ ∃ w, L a w ∧ items = w ++ rest

theorem Takes.congr {x : Walk β α} {L M : α → List β → Prop} (hx : Takes x L)
    (h : ∀ a w, L a w ↔ M a w) : Takes x M := by
  intro items a rest
  simp only [hx items a rest, h]

theorem takes_pure (a : α) : Takes (pure a : Walk β α) fun b w => b = a ∧ w = [] := by
  intro items b rest
  simp [StateT.run_pure, eq_comm]

theorem takes_failure : Takes (failure : Walk β α) fun _ _ => False := by
  intro items a rest
  simp [failure, StateT.run, StateT.failure]

theorem takes_guard (c : Prop) [Decidable c] :
    Takes (guard c : Walk β Unit) fun _ w => c ∧ w = [] := by
  intro items a rest
  by_cases hc : c
  · simp [guard, hc, eq_comm]
  · simp [guard, hc]

theorem takes_skip (n : Nat) : Takes (skip n : Walk β Unit) fun _ w => w.length = n := by
  intro items a rest
  simp only [StateT.run, skip]
  constructor
  · intro h
    split at h
    · rename_i hn
      obtain ⟨-, rfl⟩ := Prod.mk.inj (Option.some.inj h)
      exact ⟨items.take n, List.length_take_of_le hn, (List.take_append_drop n items).symm⟩
    · contradiction
  · rintro ⟨w, rfl, rfl⟩
    simp

/-- A sequence takes what its parts take, one after the other. -/
theorem Takes.bind {x : Walk β α} {f : α → Walk β α'} {L : α → List β → Prop}
    {M : α → α' → List β → Prop} (hx : Takes x L) (hf : ∀ a, Takes (f a) (M a)) :
    Takes (x >>= f) fun b w => ∃ a u v, L a u ∧ M a b v ∧ w = u ++ v := by
  intro items b rest
  rw [StateT.run_bind, Option.bind_eq_bind, Option.bind_eq_some_iff]
  constructor
  · rintro ⟨⟨a, mid⟩, h1, h2⟩
    obtain ⟨u, hu, rfl⟩ := (hx _ _ _).mp h1
    obtain ⟨v, hv, rfl⟩ := (hf a _ _ _).mp h2
    exact ⟨u ++ v, ⟨a, u, v, hu, hv, rfl⟩, (List.append_assoc u v rest).symm⟩
  · rintro ⟨_, ⟨a, u, v, hu, hv, rfl⟩, rfl⟩
    exact ⟨(a, v ++ rest), (hx _ _ _).mpr ⟨u, hu, List.append_assoc u v rest⟩,
      (hf a _ _ _).mpr ⟨v, hv, rfl⟩⟩

theorem Takes.measure {x : Walk β α} {L : α → List β → Prop} (hx : Takes x L) :
    Takes (measure x) fun p w => L p.1 w ∧ w.length = p.2 := by
  intro items ⟨a, n⟩ rest
  have hrun : (Walk.measure x).run items =
      (x.run items).map fun p => ((p.1, items.length - p.2.length), p.2) := by
    simp only [Walk.measure, StateT.run_bind, StateT.run_get, Option.bind_eq_bind,
      Option.pure_def, Option.bind_some]
    cases x.run items <;> rfl
  rw [hrun, Option.map_eq_some_iff]
  constructor
  · rintro ⟨⟨a, rest⟩, h, heq⟩
    obtain ⟨w, hw, rfl⟩ := (hx _ _ _).mp h
    simp only [List.length_append, Nat.add_sub_cancel, Prod.mk.injEq] at heq
    obtain ⟨⟨rfl, rfl⟩, rfl⟩ := heq
    exact ⟨w, ⟨hw, rfl⟩, rfl⟩
  · rintro ⟨w, ⟨hw, rfl⟩, rfl⟩
    exact ⟨(a, rest), (hx _ _ _).mpr ⟨w, hw, rfl⟩, by simp⟩

/-- Repeating a walk that takes printed values takes a printed list. -/
theorem Takes.times {x : Walk β Unit} {P : γ → Prop} {print : γ → List β}
    (hx : Takes x fun _ w => ∃ c, P c ∧ w = print c) (n : Nat) :
    Takes (times x n) fun _ w =>
      ∃ cs : List γ, cs.length = n ∧ (∀ c ∈ cs, P c) ∧ w = cs.flatMap print := by
  induction n with
  | zero =>
    refine (takes_pure ()).congr fun _ w => ?_
    simp
  | succ n ih =>
    refine (hx.bind fun _ => ih).congr fun _ w => ?_
    constructor
    · rintro ⟨_, _, _, ⟨c, hc, rfl⟩, ⟨cs, rfl, hcs, rfl⟩, rfl⟩
      exact ⟨c :: cs, rfl, List.forall_mem_cons.mpr ⟨hc, hcs⟩, rfl⟩
    · rintro ⟨cs, hlen, hcs, rfl⟩
      cases cs with
      | nil => contradiction
      | cons c cs =>
        obtain ⟨hc, hcs⟩ := List.forall_mem_cons.mp hcs
        exact ⟨(), _, _, ⟨c, hc, rfl⟩, ⟨cs, Nat.succ.inj hlen, hcs, rfl⟩, rfl⟩

end Walk

end Discnet.Lib
