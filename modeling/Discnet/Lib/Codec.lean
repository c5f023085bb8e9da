import Mathlib.Data.List.Basic
import Mathlib.Tactic.Common

/-!
# Writing and scanning sequences

A `Sink` is a state with room for more items. `Writes s x w a` says that
from `s`, if there is room for `w`, `x` appends exactly `w` and gives `a`;
`WritesIn` says it over any monad.

A `Cursor` is a state that still has a list of items to read. A `Scanner`
reads some of them and may fail; the state it leaves behind survives the
failure. `Reads x w a` says that wherever `w` is followed by something more,
`x` gives `a` and moves just past `w`; `ReadsAnywhere x w a` says it also
where nothing follows.

Both have one rule for each way of composing a computation. How items are
stored and what they mean is left to the user.
-/

namespace Discnet.Lib

-- ---------------------------------------------------------------------------
-- Writing
-- ---------------------------------------------------------------------------

/-- A state items are appended to while there is room. -/
class Sink (σ : Type) (β : outParam Type) where
  room : σ → Nat
  push : List β → σ → σ
  room_push : ∀ w s, w.length ≤ room s → room (push w s) = room s - w.length
  push_push : ∀ v w s, (v ++ w).length ≤ room s → push w (push v s) = push (v ++ w) s
  push_nil : ∀ s, push [] s = s

section
variable {σ α α' β : Type} [Sink σ β] {m : Type → Type} [Monad m]

open Sink

/-- From `s`, if there is room for `w`, `x` appends exactly `w` and gives
`a`, whatever else the monad below could do. -/
def WritesIn (s : σ) (x : StateT σ m α) (w : List β) (a : α) : Prop :=
  w.length ≤ room s → x.run s = pure (a, push w s)

theorem WritesIn.pure (a : α) : WritesIn s (pure a : StateT σ m α) ([] : List β) a := by
  intro _
  rw [push_nil]
  rfl

theorem WritesIn.check {c : Prop} [Decidable c] {x y : StateT σ m α} {w : List β}
    (hc : w.length ≤ room s → ¬ c) (hx : WritesIn s x w a) :
    WritesIn s (if c then y else x) w a := by
  intro hs
  rw [if_neg (hc hs)]
  exact hx hs

variable [LawfulMonad m]

theorem WritesIn.bind {x : StateT σ m α} {f : α → StateT σ m α'} {v w : List β}
    (hx : WritesIn s x v a) (hf : v.length ≤ room s → WritesIn (push v s) (f a) w b) :
    WritesIn s (x >>= f) (v ++ w) b := by
  intro hs
  have hl : (v ++ w).length = v.length + w.length := List.length_append
  have hv : v.length ≤ room s := by omega
  have hw : w.length ≤ room (push v s) := by
    rw [room_push v s hv]
    omega
  rw [StateT.run_bind, hx hv, pure_bind, ← push_push v w s hs]
  exact hf hv hw

theorem WritesIn.get {f : σ → StateT σ m α} {w : List β} (hf : WritesIn s (f s) w a) :
    WritesIn s (get >>= f) w a := by
  intro hs
  rw [StateT.run_bind, StateT.run_get, pure_bind]
  exact hf hs

theorem WritesIn.bind_pure {x : StateT σ m α} {w : List β} (f : α → α') (hx : WritesIn s x w a) :
    WritesIn s (x >>= fun a => Pure.pure (f a)) w (f a) := by
  have h := hx.bind (f := fun a => Pure.pure (f a)) fun _ => .pure (f a)
  rwa [List.append_nil] at h

theorem WritesIn.forM {f : α → StateT σ m PUnit} {w : α → List β} {as : List α}
    (hf : ∀ s, ∀ a ∈ as, WritesIn s (f a) (w a) ⟨⟩) : WritesIn s (forM as f) (as.flatMap w) ⟨⟩ := by
  induction as generalizing s with
  | nil => exact .pure _
  | cons a as ih =>
    rw [List.forM_cons, List.flatMap_cons]
    exact (hf s a List.mem_cons_self).bind fun _ =>
      ih fun t b hb => hf t b (List.mem_cons_of_mem _ hb)

/-- The computation, without a result where it says that it failed. -/
def insist (x : StateM σ Bool) : StateT σ Option PUnit := fun s =>
  if (x.run s).1 then some (⟨⟩, (x.run s).2) else none

/-- From `s`, if there is room for `w`, `x` appends exactly `w` and gives
`a`. -/
def Writes (s : σ) (x : StateM σ α) (w : List β) (a : α) : Prop :=
  w.length ≤ room s → x.run s = (a, push w s)

/-- A plain computation is one over the monad that does nothing. -/
theorem writes_iff {x : StateM σ α} {w : List β} : Writes s x w a ↔ WritesIn (m := Id) s x w a :=
  Iff.rfl

theorem Writes.insist {x : StateM σ Bool} {w : List β} (hx : Writes s x w true) :
    WritesIn s (insist x) w ⟨⟩ := by
  intro hs
  show (if (x.run s).1 then some (PUnit.unit, (x.run s).2) else none) = _
  rw [hx hs]
  rfl

theorem Writes.pure (a : α) : Writes s (pure a : StateM σ α) ([] : List β) a := by
  rw [writes_iff]
  exact .pure a

theorem Writes.bind {x : StateM σ α} {f : α → StateM σ α'} {v w : List β}
    (hx : Writes s x v a) (hf : v.length ≤ room s → Writes (push v s) (f a) w b) :
    Writes s (x >>= f) (v ++ w) b := by
  rw [writes_iff] at hx ⊢
  exact hx.bind hf

theorem Writes.bind_pure {x : StateM σ α} {w : List β} (f : α → α') (hx : Writes s x w a) :
    Writes s (x >>= fun a => Pure.pure (f a)) w (f a) := by
  rw [writes_iff] at hx ⊢
  exact hx.bind_pure f

theorem Writes.get {f : σ → StateM σ α} {w : List β} (hf : Writes s (f s) w a) :
    Writes s (get >>= f) w a := hf

theorem Writes.check {c : Prop} [Decidable c] {x y : StateM σ α} {w : List β}
    (hc : w.length ≤ room s → ¬ c) (hx : Writes s x w a) :
    Writes s (if c then y else x) w a := by
  rw [writes_iff] at hx ⊢
  exact hx.check hc

theorem Writes.forM {f : α → StateM σ PUnit} {w : α → List β} {as : List α}
    (hf : ∀ s, ∀ a ∈ as, Writes s (f a) (w a) ⟨⟩) : Writes s (forM as f) (as.flatMap w) ⟨⟩ := by
  rw [writes_iff]
  exact .forM hf

end

-- ---------------------------------------------------------------------------
-- Scanning
-- ---------------------------------------------------------------------------

/-- A state read from the front: what is unread, and moving past `n` items. -/
class Cursor (σ : Type) (β : outParam Type) where
  unread : σ → List β
  skip : Nat → σ → σ
  unread_skip : ∀ n s, unread (skip n s) = (unread s).drop n
  skip_skip : ∀ m n s, skip n (skip m s) = skip (m + n) s
  skip_zero : ∀ s, skip 0 s = s

attribute [simp] Cursor.unread_skip Cursor.skip_zero

/-- A computation that reads from `σ` and may stop with an error. -/
abbrev Scanner (ε σ α : Type) := ExceptT ε (StateM σ) α

namespace Scanner

variable {ε σ α α' : Type}

/-- The outcome from a state, with the state left behind either way. -/
def runOn (x : Scanner ε σ α) (s : σ) : Except ε α × σ := (ExceptT.run x).run s

@[simp] theorem runOn_pure (a : α) (s : σ) : runOn (pure a : Scanner ε σ α) s = (.ok a, s) := rfl

@[simp] theorem runOn_throw (e : ε) (s : σ) :
    runOn (throw e : Scanner ε σ α) s = (.error e, s) := rfl

@[simp] theorem runOn_get (s : σ) : runOn (get : Scanner ε σ σ) s = (.ok s, s) := rfl

@[simp] theorem runOn_lift (x : StateM σ α) (s : σ) :
    runOn (liftM x : Scanner ε σ α) s = (.ok (x.run s).1, (x.run s).2) := rfl

theorem runOn_bind (x : Scanner ε σ α) (f : α → Scanner ε σ α') (s : σ) :
    runOn (x >>= f) s = match runOn x s with
      | (.ok a, s') => runOn (f a) s'
      | (.error e, s') => (.error e, s') := by
  simp only [runOn, ExceptT.run_bind, StateT.run_bind]
  rcases h : (ExceptT.run x).run s with ⟨_ | _, t⟩ <;> rfl

theorem runOn_bind_ok {x : Scanner ε σ α} {f : α → Scanner ε σ α'} (h : runOn x s = (.ok a, s')) :
    runOn (x >>= f) s = runOn (f a) s' := by
  rw [runOn_bind, h]

theorem runOn_bind_error {x : Scanner ε σ α} {f : α → Scanner ε σ α'}
    (h : runOn x s = (.error e, s')) : runOn (x >>= f) s = (.error e, s') := by
  rw [runOn_bind, h]

/-- A sequence that succeeds succeeds in its first part, and then in its
second from where the first stopped. -/
theorem runOn_bind_eq_ok {x : Scanner ε σ α} {f : α → Scanner ε σ α'} :
    runOn (x >>= f) s = (.ok b, s') ↔
      ∃ a t, runOn x s = (.ok a, t) ∧ runOn (f a) t = (.ok b, s') := by
  rw [runOn_bind]
  cases hx : runOn x s with
  | mk result t =>
    cases result with
    | ok a => simp
    | error e => simp

/-- A check that throws did not do so in a sequence that succeeds. -/
theorem runOn_of_check {c : σ → Prop} [DecidablePred c] {y : α' → Scanner ε σ α}
    {x : Scanner ε σ α} (h : runOn (get >>= fun s => if c s then throw e >>= y else x) s =
      (.ok a, s')) : ¬ c s ∧ runOn x s = (.ok a, s') := by
  rw [runOn_bind_ok (runOn_get s)] at h
  split at h
  · rw [runOn_bind_error (runOn_throw e s)] at h
    simp at h
  · exact ⟨‹_›, h⟩

theorem runOn_check_of {c : σ → Prop} [DecidablePred c] {y : α' → Scanner ε σ α}
    {x : Scanner ε σ α} (h : c s) :
    runOn (get >>= fun s => if c s then throw e >>= y else x) s = (.error e, s) := by
  rw [runOn_bind_ok (runOn_get s), if_pos h, runOn_bind_error (runOn_throw e s)]

/-- The outcome of `x` as a value; only what `x` did to the state happens. -/
def attempt (x : Scanner ε σ α) : Scanner ε σ (Except ε α) :=
  ExceptT.mk (Except.ok <$> ExceptT.run x)

@[simp] theorem runOn_attempt (x : Scanner ε σ α) (s : σ) :
    runOn (attempt x) s = (.ok (runOn x s).1, (runOn x s).2) := rfl

def mapError (f : ε → ε) (x : Scanner ε σ α) : Scanner ε σ α := do
  match ← attempt x with
  | .ok a => return a
  | .error e => throw (f e)

theorem runOn_mapError (f : ε → ε) (x : Scanner ε σ α) (s : σ) :
    runOn (mapError f x) s = ((runOn x s).1.mapError f, (runOn x s).2) := by
  simp only [mapError, runOn_bind, runOn_attempt]
  cases (runOn x s).1 <;> rfl

theorem runOn_mapError_ok {f : ε → ε} {x : Scanner ε σ α} (h : runOn x s = (.ok a, s')) :
    runOn (mapError f x) s = (.ok a, s') := by
  rw [runOn_mapError, h]
  rfl

theorem runOn_mapError_error {f : ε → ε} {x : Scanner ε σ α} (h : runOn x s = (.error e, s')) :
    runOn (mapError f x) s = (.error (f e), s') := by
  rw [runOn_mapError, h]
  rfl

theorem runOn_of_mapError {f : ε → ε} {x : Scanner ε σ α}
    (h : runOn (mapError f x) s = (.ok a, s')) : runOn x s = (.ok a, s') := by
  rw [runOn_mapError] at h
  rcases hx : runOn x s with ⟨_ | _, t⟩
  · rw [hx] at h
    simp [Except.mapError] at h
  · rw [hx] at h
    exact h

/-- The results of `f i`, `f (i + 1)`, …, `n` of them, in order. -/
def collect (f : Nat → Scanner ε σ α) : Nat → Nat → Scanner ε σ (List α)
  | _, 0 => pure []
  | i, n + 1 => do
    let a ← f i
    let as ← collect f (i + 1) n
    return a :: as

/-- A collection that succeeds holds as many results as were asked for,
and anything every single result is sure to satisfy. -/
theorem collect_eq_ok {f : Nat → Scanner ε σ α} {P : α → Prop}
    (hf : ∀ i s a s', runOn (f i) s = (.ok a, s') → P a)
    (h : runOn (collect f i n) s = (.ok as, s')) : as.length = n ∧ ∀ a ∈ as, P a := by
  induction n generalizing i s as with
  | zero =>
    simp only [collect, runOn_pure, Prod.mk.injEq, Except.ok.injEq] at h
    obtain ⟨rfl, -⟩ := h
    simp
  | succ n ih =>
    simp only [collect, runOn_bind_eq_ok, runOn_pure, Prod.mk.injEq, Except.ok.injEq] at h
    obtain ⟨a, t, ha, rest, t', hrest, rfl, rfl⟩ := h
    obtain ⟨hlen, hall⟩ := ih hrest
    refine ⟨by simp [hlen], ?_⟩
    intro b hb
    rcases List.mem_cons.mp hb with rfl | hb
    · exact hf _ _ _ _ ha
    · exact hall b hb

/-- `x` never stops with an error. -/
def Total (x : Scanner ε σ α) : Prop := ∀ s, ∃ a s', runOn x s = (.ok a, s')

theorem Total.pure (a : α) : Total (pure a : Scanner ε σ α) := fun s => ⟨a, s, rfl⟩

theorem Total.lift (x : StateM σ α) : Total (liftM x : Scanner ε σ α) :=
  fun s => ⟨_, _, runOn_lift x s⟩

theorem Total.bind {x : Scanner ε σ α} {f : α → Scanner ε σ α'} (hx : Total x)
    (hf : ∀ a, Total (f a)) : Total (x >>= f) := by
  intro s
  obtain ⟨a, t, ha⟩ := hx s
  obtain ⟨b, s', hb⟩ := hf a t
  exact ⟨b, s', by rw [runOn_bind_ok ha, hb]⟩

theorem Total.collect {f : Nat → Scanner ε σ α} (hf : ∀ i, Total (f i)) :
    Total (collect f i n) := by
  induction n generalizing i with
  | zero => exact .pure []
  | succ n ih => exact (hf i).bind fun _ => ih.bind fun _ => .pure _

/-- A sequence whose second part never stops with an error stopped in its
first. -/
theorem runOn_of_bind_error {x : Scanner ε σ α} {f : α → Scanner ε σ α'} (hf : ∀ a, Total (f a))
    (h : runOn (x >>= f) s = (.error e, s')) : runOn x s = (.error e, s') := by
  rw [runOn_bind] at h
  cases hx : runOn x s with
  | mk result t =>
    rw [hx] at h
    cases result with
    | ok a =>
      obtain ⟨b, t', hb⟩ := hf a t
      have hok := hb.symm.trans h
      cases hok
    | error e' =>
      obtain ⟨⟨⟩, rfl⟩ := Prod.mk.inj h
      rfl

-- ---------------------------------------------------------------------------
-- What a scanner leaves alone
-- ---------------------------------------------------------------------------

/-- However it ends, `x` leaves the `f` of the state as it is. -/
def Keeps {γ : Type} (f : σ → γ) (x : Scanner ε σ α) : Prop := ∀ s, f (runOn x s).2 = f s

section
variable {γ : Type} {f : σ → γ}

theorem Keeps.pure (a : α) : Keeps f (pure a : Scanner ε σ α) := fun _ => rfl

theorem Keeps.throw (e : ε) : Keeps f (throw e : Scanner ε σ α) := fun _ => rfl

theorem Keeps.get : Keeps f (get : Scanner ε σ σ) := fun _ => rfl

theorem Keeps.lift {x : StateM σ α} (h : ∀ s, f (x.run s).2 = f s) :
    Keeps f (liftM x : Scanner ε σ α) := h

theorem Keeps.bind {x : Scanner ε σ α} {y : α → Scanner ε σ α'} (hx : Keeps f x)
    (hy : ∀ a, Keeps f (y a)) : Keeps f (x >>= y) := by
  intro s
  have h := hx s
  rw [runOn_bind]
  cases hr : runOn x s with
  | mk result t =>
    rw [hr] at h
    cases result with
    | ok a => exact (hy a t).trans h
    | error e => exact h

theorem Keeps.ite {c : Prop} [Decidable c] {x y : Scanner ε σ α} (hx : Keeps f x)
    (hy : Keeps f y) : Keeps f (if c then x else y) := by
  split
  · exact hx
  · exact hy

theorem Keeps.check {c : σ → Prop} [DecidablePred c] {y : α' → Scanner ε σ α}
    {x : Scanner ε σ α} (hx : Keeps f x) :
    Keeps f (MonadState.get >>= fun s => if c s then MonadExcept.throw e >>= y else x) := by
  intro s
  rw [runOn_bind_ok (runOn_get s)]
  split
  · rw [runOn_bind_error (runOn_throw e s)]
  · exact hx s

theorem Keeps.attempt {x : Scanner ε σ α} (hx : Keeps f x) : Keeps f (attempt x) := hx

end

end Scanner

-- ---------------------------------------------------------------------------
-- Only moving on
-- ---------------------------------------------------------------------------

section
variable {ε σ α α' β : Type} [Cursor σ β]

open Cursor Scanner

/-- However it ends, all that `x` does is move on. -/
def Advances (x : Scanner ε σ α) : Prop :=
  ∀ s, ∃ n, n ≤ (unread s).length ∧ (runOn x s).2 = skip n s

namespace Advances

theorem pure (a : α) : Advances (pure a : Scanner ε σ α) := fun s => ⟨0, Nat.zero_le _, by simp⟩

theorem throw (e : ε) : Advances (throw e : Scanner ε σ α) := fun s => ⟨0, Nat.zero_le _, by simp⟩

theorem lift {x : StateM σ α} (h : ∀ s, ∃ n, n ≤ (unread s).length ∧ (x.run s).2 = skip n s) :
    Advances (liftM x : Scanner ε σ α) := h

theorem bind {x : Scanner ε σ α} {y : α → Scanner ε σ α'} (hx : Advances x)
    (hy : ∀ a, Advances (y a)) : Advances (x >>= y) := by
  intro s
  obtain ⟨n, hn, hs⟩ := hx s
  rw [runOn_bind]
  cases hr : runOn x s with
  | mk result t =>
    rw [hr] at hs
    cases result with
    | ok a =>
      obtain ⟨m, hm, ht⟩ := hy a t
      obtain rfl : t = skip n s := hs
      rw [unread_skip, List.length_drop] at hm
      exact ⟨n + m, by omega, by rw [ht, skip_skip]⟩
    | error e => exact ⟨n, hn, hs⟩

theorem check {c : σ → Prop} [DecidablePred c] {y : α' → Scanner ε σ α} {x : Scanner ε σ α}
    (hx : Advances x) :
    Advances (MonadState.get >>= fun s => if c s then MonadExcept.throw e >>= y else x) := by
  intro s
  rw [runOn_bind_ok (runOn_get s)]
  split
  · rw [runOn_bind_error (runOn_throw e s)]
    exact ⟨0, Nat.zero_le _, by simp⟩
  · exact hx s

theorem mapError {x : Scanner ε σ α} (g : ε → ε) (hx : Advances x) :
    Advances (Scanner.mapError g x) := by
  intro s
  rw [runOn_mapError]
  exact hx s

theorem collect {x : Nat → Scanner ε σ α} (hx : ∀ i, Advances (x i)) :
    Advances (Scanner.collect x i n) := by
  induction n generalizing i with
  | zero => exact .pure []
  | succ n ih => exact (hx i).bind fun a => ih.bind fun as => .pure _

theorem keeps {γ : Type} {f : σ → γ} {x : Scanner ε σ α} (hx : Advances x)
    (hf : ∀ n s, f (skip n s) = f s) : Keeps f x := by
  intro s
  obtain ⟨n, -, hs⟩ := hx s
  rw [hs, hf]

theorem length_le {x : Scanner ε σ α} (hx : Advances x) (s : σ) :
    (unread (runOn x s).2).length ≤ (unread s).length := by
  obtain ⟨n, -, hs⟩ := hx s
  rw [hs, unread_skip, List.length_drop]
  exact Nat.sub_le _ _

end Advances

/-- Where `x` succeeds it has moved on by `k` or more. -/
def Consumes (k : Nat) (x : Scanner ε σ α) : Prop :=
  ∀ s a s', runOn x s = (.ok a, s') → (unread s').length + k ≤ (unread s).length

namespace Consumes

variable {k : Nat}

theorem bind {x : Scanner ε σ α} {y : α → Scanner ε σ α'} (hx : Consumes k x)
    (hy : ∀ a, Advances (y a)) : Consumes k (x >>= y) := by
  intro s b s' h
  obtain ⟨a, t, ha, hb⟩ := runOn_bind_eq_ok.mp h
  have hfirst := hx s a t ha
  have hrest := (hy a).length_le t
  rw [hb] at hrest
  exact Nat.le_trans (Nat.add_le_add_right hrest k) hfirst

theorem mapError {x : Scanner ε σ α} (g : ε → ε) (hx : Consumes k x) :
    Consumes k (Scanner.mapError g x) := fun s a s' h => hx s a s' (runOn_of_mapError h)

/-- A collection of one or more moves on by what the first one does. -/
theorem collect_succ {x : Nat → Scanner ε σ α} (hx : ∀ i, Consumes k (x i))
    (hadvances : ∀ i, Advances (x i)) : Consumes k (Scanner.collect x i (n + 1)) :=
  (hx i).bind fun _ => (Advances.collect hadvances).bind fun _ => .pure _

end Consumes

end

-- ---------------------------------------------------------------------------
-- Reading exactly a given list
-- ---------------------------------------------------------------------------

section
variable {ε σ α α' β : Type} [Cursor σ β]

open Cursor Scanner

/-- Wherever `w` is followed by something more, `x` gives `a` and moves
just past `w`. -/
def Reads (x : Scanner ε σ α) (w : List β) (a : α) : Prop :=
  ∀ s rest, rest ≠ [] → unread s = w ++ rest → runOn x s = (.ok a, skip w.length s)

/-- Wherever `w` stands, `x` gives `a` and moves just past `w`. -/
def ReadsAnywhere (x : Scanner ε σ α) (w : List β) (a : α) : Prop :=
  ∀ s rest, unread s = w ++ rest → runOn x s = (.ok a, skip w.length s)

theorem ReadsAnywhere.reads {x : Scanner ε σ α} {w : List β} (hx : ReadsAnywhere x w a) :
    Reads x w a := fun s rest _ hs => hx s rest hs

theorem ReadsAnywhere.pure (a : α) : ReadsAnywhere (pure a : Scanner ε σ α) ([] : List β) a := by
  intro s rest _
  simp

theorem ReadsAnywhere.bind {x : Scanner ε σ α} {f : α → Scanner ε σ α'} {v w : List β}
    (hx : ReadsAnywhere x v a) (hf : ReadsAnywhere (f a) w b) :
    ReadsAnywhere (x >>= f) (v ++ w) b := by
  intro s rest hs
  have h1 := hx s (w ++ rest) (by rw [hs, List.append_assoc])
  have h2 := hf (skip v.length s) rest (by simp [hs])
  rw [runOn_bind_ok h1, h2, skip_skip, List.length_append]

theorem ReadsAnywhere.bind_pure {x : Scanner ε σ α} {w : List β} {f : α → α'}
    (hx : ReadsAnywhere x w a) (hb : f a = b) :
    ReadsAnywhere (x >>= fun a => Pure.pure (f a)) w b := by
  have h := hx.bind (f := fun a => Pure.pure (f a)) (.pure (f a))
  rwa [List.append_nil, hb] at h

theorem ReadsAnywhere.check {c : σ → Prop} [DecidablePred c] {x y : Scanner ε σ α} {w : List β}
    (hc : ∀ s rest, unread s = w ++ rest → ¬ c s) (hx : ReadsAnywhere x w a) :
    ReadsAnywhere (MonadState.get >>= fun s => if c s then y else x) w a := by
  intro s rest hs
  rw [runOn_bind_ok (runOn_get s), if_neg (hc s rest hs)]
  exact hx s rest hs

theorem ReadsAnywhere.collect {f : Nat → Scanner ε σ α} {w : α → List β} {as : List α}
    (hf : ∀ i, ∀ a ∈ as, ReadsAnywhere (f i) (w a) a) :
    ReadsAnywhere (Scanner.collect f i as.length) (as.flatMap w) as := by
  induction as generalizing i with
  | nil => exact .pure []
  | cons a as ih =>
    exact (hf i a List.mem_cons_self).bind
      ((ih fun j b hb => hf j b (List.mem_cons_of_mem _ hb)).bind_pure rfl)

theorem Reads.pure (a : α) : Reads (pure a : Scanner ε σ α) ([] : List β) a := by
  intro s rest _ _
  simp

theorem Reads.bind {x : Scanner ε σ α} {f : α → Scanner ε σ α'} {v w : List β}
    (hx : Reads x v a) (hf : Reads (f a) w b) : Reads (x >>= f) (v ++ w) b := by
  intro s rest hr hs
  have h1 := hx s (w ++ rest) (by simp [hr]) (by rw [hs, List.append_assoc])
  have h2 := hf (skip v.length s) rest hr (by simp [hs])
  rw [runOn_bind_ok h1, h2, skip_skip, List.length_append]

theorem Reads.runOn_bind {x : Scanner ε σ α} {f : α → Scanner ε σ α'} {w rest : List β}
    (hx : Reads x w a) (hs : unread s = w ++ rest) (hr : rest ≠ []) :
    runOn (x >>= f) s = runOn (f a) (skip w.length s) ∧ unread (skip w.length s) = rest :=
  ⟨runOn_bind_ok (hx s rest hr hs), by rw [unread_skip, hs, List.drop_left]⟩

theorem Reads.bind_pure {x : Scanner ε σ α} {w : List β} {f : α → α'} (hx : Reads x w a)
    (hb : f a = b) : Reads (x >>= fun a => Pure.pure (f a)) w b := by
  have h := hx.bind (f := fun a => Pure.pure (f a)) (.pure (f a))
  rwa [List.append_nil, hb] at h

theorem Reads.check {c : σ → Prop} [DecidablePred c] {x y : Scanner ε σ α} {w : List β}
    (hc : ∀ s rest, rest ≠ [] → unread s = w ++ rest → ¬ c s) (hx : Reads x w a) :
    Reads (MonadState.get >>= fun s => if c s then y else x) w a := by
  intro s rest hr hs
  rw [runOn_bind_ok (runOn_get s), if_neg (hc s rest hr hs)]
  exact hx s rest hr hs

theorem Reads.mapError {x : Scanner ε σ α} {w : List β} (f : ε → ε) (hx : Reads x w a) :
    Reads (Scanner.mapError f x) w a := by
  intro s rest hr hs
  exact runOn_mapError_ok (hx s rest hr hs)

theorem Reads.collect {γ : Type} {f : Nat → Scanner ε σ α} {w : γ → List β} {v : γ → α}
    {items : List γ} (hf : ∀ i, ∀ c ∈ items, Reads (f i) (w c) (v c)) :
    Reads (Scanner.collect f i items.length) (items.flatMap w) (items.map v) := by
  induction items generalizing i with
  | nil => exact .pure []
  | cons c items ih =>
    exact (hf i c List.mem_cons_self).bind
      ((ih fun j b hb => hf j b (List.mem_cons_of_mem _ hb)).bind_pure rfl)

end

end Discnet.Lib
