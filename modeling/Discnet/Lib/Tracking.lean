import Discnet.Lib.Codec
import Discnet.Lib.Walk
import Mathlib.Logic.Function.Iterate

/-!
# Scanners that follow a walk

A walk refuses where items are missing, a scanner may go on all the same.
`Follows n x w R` says that where `x` succeeds and leaves `n` items, it did
what `w` does, with a related result: `n` is more than any single read of
`x` asks for.

`Leaves x l rest P` says it without a walk: in front of `l`, where `x`
succeeds, it leaves `rest`, with a result in `P`.
-/

namespace Discnet.Lib

variable {ε σ α α' β γ γ' : Type} [Cursor σ β] {n : Nat} {R : α → γ → Prop}

open Cursor Scanner

theorem Advances.length_unread_le {x : Scanner ε σ α} (hx : Advances x)
    (h : runOn x s = (a, s')) : (unread s').length ≤ (unread s).length := by
  obtain ⟨k, -, hs⟩ := hx s
  rw [h] at hs
  obtain rfl : s' = skip k s := hs
  rw [unread_skip, List.length_drop]
  exact Nat.sub_le _ _

def Follows (n : Nat) (x : Scanner ε σ α) (w : Walk β γ) (R : α → γ → Prop) : Prop :=
  ∀ s a s', runOn x s = (.ok a, s') → n ≤ (unread s').length →
    ∃ v, w.run (unread s) = some (v, unread s') ∧ R a v

namespace Follows

theorem pure {a : α} {v : γ} (h : R a v) :
    Follows n (pure a : Scanner ε σ α) (pure v : Walk β γ) R := by
  intro s a' s' hrun _
  rw [runOn_pure] at hrun
  obtain ⟨⟨⟩, rfl⟩ := Prod.mk.inj hrun
  exact ⟨v, rfl, h⟩

theorem throw (e : ε) (w : Walk β γ) : Follows n (throw e : Scanner ε σ α) w R := by
  intro s a s' hrun _
  rw [runOn_throw] at hrun
  simp at hrun

/-- What the first part leaves is at least what the second leaves. -/
theorem bind {x : Scanner ε σ α} {f : α → Scanner ε σ α'} {w : Walk β γ} {g : γ → Walk β γ'}
    {S : α' → γ' → Prop} (hx : Follows n x w R) (hadvances : ∀ a, Advances (f a))
    (hf : ∀ a v, R a v → Follows n (f a) (g v) S) : Follows n (x >>= f) (w >>= g) S := by
  intro s b s' hrun hn
  obtain ⟨a, t, ha, hb⟩ := runOn_bind_eq_ok.mp hrun
  have hleft := (hadvances a).length_unread_le hb
  obtain ⟨v, hv, hrelated⟩ := hx s a t ha (Nat.le_trans hn hleft)
  obtain ⟨v', hv', hrelated'⟩ := hf a v hrelated t b s' hb hn
  refine ⟨v', ?_, hrelated'⟩
  rw [StateT.run_bind, hv]
  exact hv'

theorem bind_pure {x : Scanner ε σ α} {w : Walk β γ} {f : α → α'} {S : α' → γ → Prop}
    (hx : Follows n x w R) (hf : ∀ a v, R a v → S (f a) v) :
    Follows n (x >>= fun a => Pure.pure (f a)) w S := by
  intro s b s' hrun hn
  obtain ⟨a, t, ha, hb⟩ := runOn_bind_eq_ok.mp hrun
  obtain ⟨⟨⟩, rfl⟩ := Prod.mk.inj hb
  obtain ⟨v, hv, hrelated⟩ := hx s a t ha hn
  exact ⟨v, hv, hf a v hrelated⟩

theorem check {c : σ → Prop} [DecidablePred c] {y : α' → Scanner ε σ α} {x : Scanner ε σ α}
    {w : Walk β γ} (hx : Follows n x w R) :
    Follows n (MonadState.get >>= fun s => if c s then MonadExcept.throw e >>= y else x) w R :=
  fun s a s' hrun => hx s a s' (runOn_of_check hrun).2

theorem mapError {x : Scanner ε σ α} {w : Walk β γ} (g : ε → ε) (hx : Follows n x w R) :
    Follows n (Scanner.mapError g x) w R := fun s a s' hrun => hx s a s' (runOn_of_mapError hrun)

theorem collect {x : Nat → Scanner ε σ α} {w : Walk β Unit}
    (hx : ∀ i, Follows n (x i) w fun _ _ => True) (hadvances : ∀ i, Advances (x i)) :
    Follows n (Scanner.collect x i k) (Walk.times w k) fun _ _ => True := by
  induction k generalizing i with
  | zero => exact .pure trivial
  | succ k ih =>
    refine (hx i).bind (fun _ => (Advances.collect hadvances).bind fun _ => .pure _) ?_
    intro a _ _
    exact ih.bind_pure fun _ _ _ => trivial

end Follows

-- ---------------------------------------------------------------------------
-- What is left
-- ---------------------------------------------------------------------------

def Leaves (x : Scanner ε σ α) (l rest : List β) (P : α → Prop) : Prop :=
  ∀ s a s', unread s = l → runOn x s = (.ok a, s') → unread s' = rest ∧ P a

namespace Leaves

variable {l rest rest' : List β} {P : α → Prop} {Q : α' → Prop}

theorem pure (h : P a) : Leaves (pure a : Scanner ε σ α) l l P := by
  intro s a' s' hs hrun
  rw [runOn_pure] at hrun
  obtain ⟨⟨⟩, rfl⟩ := Prod.mk.inj hrun
  exact ⟨hs, h⟩

theorem lift {x : StateM σ α}
    (h : ∀ s, unread s = l → unread (x.run s).2 = rest ∧ P (x.run s).1) :
    Leaves (liftM x : Scanner ε σ α) l rest P := by
  intro s a s' hs hrun
  rw [runOn_lift] at hrun
  obtain ⟨⟨⟩, rfl⟩ := Prod.mk.inj hrun
  exact h s hs

theorem bind {x : Scanner ε σ α} {f : α → Scanner ε σ α'} (hx : Leaves x l rest P)
    (hf : ∀ a, P a → Leaves (f a) rest rest' Q) : Leaves (x >>= f) l rest' Q := by
  intro s b s' hs hrun
  obtain ⟨a, t, ha, hb⟩ := runOn_bind_eq_ok.mp hrun
  obtain ⟨hrest, hP⟩ := hx s a t hs ha
  exact hf a hP t b s' hrest hb

theorem bind_pure {x : Scanner ε σ α} {f : α → α'} (hx : Leaves x l rest P)
    (hf : ∀ a, P a → Q (f a)) : Leaves (x >>= fun a => Pure.pure (f a)) l rest Q :=
  hx.bind fun a ha => .pure (hf a ha)

theorem check {c : σ → Prop} [DecidablePred c] {y : α' → Scanner ε σ α} {x : Scanner ε σ α}
    (hx : Leaves x l rest P) :
    Leaves (MonadState.get >>= fun s => if c s then MonadExcept.throw e >>= y else x) l rest P :=
  fun s a s' hs hrun => hx s a s' hs (runOn_of_check hrun).2

theorem mapError {x : Scanner ε σ α} (g : ε → ε) (hx : Leaves x l rest P) :
    Leaves (Scanner.mapError g x) l rest P :=
  fun s a s' hs hrun => hx s a s' hs (runOn_of_mapError hrun)

theorem collect {x : Nat → Scanner ε σ α} {g : List β → List β}
    (hx : ∀ i l, Leaves (x i) l (g l) fun _ => True) :
    Leaves (Scanner.collect x i k) l (g^[k] l) fun _ => True := by
  induction k generalizing i l with
  | zero => exact .pure trivial
  | succ k ih =>
    rw [Function.iterate_succ_apply]
    exact (hx i l).bind fun _ _ => ih.bind_pure fun _ _ => trivial

end Leaves

end Discnet.Lib
