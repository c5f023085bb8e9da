import Mathlib.Data.List.Basic
import Discnet.Lib.Codec

/-!
# Simulation

A program that could fail runs along one that cannot. As long as their
states are related it does not fail either, and both give the same results:
call by call, and so for every program that is made of the calls.
-/

namespace Discnet.Lib

variable {σ τ ι α β : Type} {R : τ → σ → Prop}

/-- The first call of many runs first. -/
theorem run_mapM_cons (x : ι → StateM σ α) (i : ι) (rest : List ι) (s : σ) :
    ((i :: rest).mapM x).run s =
      (((x i).run s).1 :: ((rest.mapM x).run ((x i).run s).2).1,
        ((rest.mapM x).run ((x i).run s).2).2) := by
  rw [List.mapM_cons]
  rfl

/-- From related states `x` gives the result of `y`, and leaves related
states. -/
def Simulates (R : τ → σ → Prop) (x : StateT τ Option α) (y : StateM σ α) : Prop :=
  ∀ t s, R t s → ∃ t', x.run t = some ((y.run s).1, t') ∧ R t' (y.run s).2

namespace Simulates

theorem pure (a : α) : Simulates R (pure a) (pure a) := fun t _ h => ⟨t, rfl, h⟩

theorem bind {x : StateT τ Option α} {y : StateM σ α} {f : α → StateT τ Option β}
    {g : α → StateM σ β} (hx : Simulates R x y) (hf : ∀ a, Simulates R (f a) (g a)) :
    Simulates R (x >>= f) (y >>= g) := by
  intro t s h
  obtain ⟨t', hrun, h'⟩ := hx t s h
  obtain ⟨t'', hrun', h''⟩ := hf (y.run s).1 t' (y.run s).2 h'
  refine ⟨t'', ?_, h''⟩
  rw [StateT.run_bind, hrun]
  exact hrun'

/-- What holds of every call holds of any number of calls. -/
theorem mapM {x : ι → StateT τ Option α} {y : ι → StateM σ α} (h : ∀ i, Simulates R (x i) (y i))
    (inputs : List ι) : Simulates R (inputs.mapM x) (inputs.mapM y) := by
  induction inputs with
  | nil => exact .pure []
  | cons i rest ih =>
    rw [List.mapM_cons, List.mapM_cons]
    exact (h i).bind fun a => ih.bind fun as => .pure (a :: as)

/-- The states of one program as a function of those of the other. -/
theorem of_run {f : σ → τ} {x : StateT τ Option α} {y : StateM σ α}
    (h : ∀ s, x.run (f s) = some ((y.run s).1, f (y.run s).2)) :
    Simulates (fun t s => t = f s) x y := by
  rintro t s rfl
  exact ⟨_, h s, rfl⟩

end Simulates

/-- A program that goes on by what its calls give. -/
inductive Program (ι ο α : Type)
  | done (a : α)
  | call (input : ι) (next : ο → Program ι ο α)

namespace Program

variable {ο : Type} {m : Type → Type} [Monad m]

def runWith (x : ι → m ο) : Program ι ο α → m α
  | done a => pure a
  | call input next => x input >>= fun output => (next output).runWith x

def bind (f : α → Program ι ο β) : Program ι ο α → Program ι ο β
  | done a => f a
  | call input next => call input fun output => (next output).bind f

theorem runWith_bind [LawfulMonad m] (x : ι → m ο) (f : α → Program ι ο β)
    (program : Program ι ο α) :
    (program.bind f).runWith x = program.runWith x >>= fun a => (f a).runWith x := by
  induction program with
  | done a => simp [bind, runWith]
  | call input next ih => simp [bind, runWith, ih]

theorem simulates {x : ι → StateT τ Option ο} {y : ι → StateM σ ο}
    (h : ∀ i, Simulates R (x i) (y i)) (program : Program ι ο α) :
    Simulates R (program.runWith x) (program.runWith y) := by
  induction program with
  | done a => exact .pure a
  | call input next ih => exact (h input).bind ih

end Program

/-- All that `y` does is the calls `x`. -/
def MadeOf {ο : Type} {m : Type → Type} [Monad m] (x : ι → m ο) (y : m α) : Prop :=
  ∃ program : Program ι ο α, program.runWith x = y

namespace MadeOf

variable {ο : Type} {m : Type → Type} [Monad m] {x : ι → m ο}

theorem pure (a : α) : MadeOf x (pure a : m α) := ⟨.done a, rfl⟩

variable [LawfulMonad m]

theorem bind {y : m α} {f : α → m β} (hy : MadeOf x y) (hf : ∀ a, MadeOf x (f a)) :
    MadeOf x (y >>= f) := by
  obtain ⟨program, rfl⟩ := hy
  choose next hnext using hf
  refine ⟨program.bind next, ?_⟩
  simp [Program.runWith_bind, hnext]

theorem map {y : m α} (f : α → β) (hy : MadeOf x y) : MadeOf x (f <$> y) := by
  rw [← bind_pure_comp]
  exact hy.bind fun a => .pure (f a)

end MadeOf

-- ---------------------------------------------------------------------------
-- Scanners that are made of calls
-- ---------------------------------------------------------------------------

namespace Scanner

variable {ε ο : Type} {x : ι → StateM σ ο}

def Calls (x : ι → StateM σ ο) (y : Scanner ε σ α) : Prop := MadeOf x (ExceptT.run y)

namespace Calls

theorem pure (a : α) : Calls x (pure a : Scanner ε σ α) := MadeOf.pure _

theorem throw (e : ε) : Calls x (throw e : Scanner ε σ α) := MadeOf.pure _

theorem lift {y : StateM σ α} (hy : MadeOf x y) : Calls x (liftM y : Scanner ε σ α) :=
  hy.bind fun _ => .pure _

theorem bind {y : Scanner ε σ α} {f : α → Scanner ε σ β} (hy : Calls x y)
    (hf : ∀ a, Calls x (f a)) : Calls x (y >>= f) := by
  change MadeOf x (ExceptT.run y >>= ExceptT.bindCont f)
  refine MadeOf.bind hy fun result => ?_
  cases result with
  | ok a => exact hf a
  | error e => exact .pure _

theorem attempt {y : Scanner ε σ α} (hy : Calls x y) : Calls x (attempt y) := by
  unfold Calls Scanner.attempt
  exact MadeOf.map Except.ok hy

theorem mapError {y : Scanner ε σ α} (g : ε → ε) (hy : Calls x y) : Calls x (mapError g y) := by
  refine hy.attempt.bind fun result => ?_
  cases result with
  | ok a => exact .pure a
  | error e => exact .throw _

theorem collect {f : Nat → Scanner ε σ α} (hf : ∀ i, Calls x (f i)) :
    Calls x (collect f i n) := by
  induction n generalizing i with
  | zero => exact .pure []
  | succ n ih => exact (hf i).bind fun _ => ih.bind fun _ => .pure _

end Calls

end Scanner

end Discnet.Lib
