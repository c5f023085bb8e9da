import Mathlib.Data.List.Basic
import Mathlib.Tactic.Common

/-!
# Framed streams

A receiver is fed a sequence of frames in pieces of any size and drained now
and then. If feeding appends to what is pending, and draining takes complete
frames off the front until less than a frame is left, then it does not
matter where the pieces were cut or when they were drained: what was given
out is a prefix of the sequence, and a last drain gives out the rest.
-/

namespace Discnet.Lib

/-- Collects items `β`, and gives out the values `α` they stand for. -/
structure Receiver (σ α β : Type) where
  pending : σ → List β
  feed : List β → σ → σ
  drain : σ → List α × σ

namespace Receiver

inductive Op (β : Type)
  | feed (items : List β)
  | drain

variable {σ α β : Type}

def run (r : Receiver σ α β) : σ → List (Op β) → List α × σ
  | s, [] => ([], s)
  | s, .feed items :: ops => r.run (r.feed items s) ops
  | s, .drain :: ops =>
    let drained := r.drain s
    let rest := r.run drained.2 ops
    (drained.1 ++ rest.1, rest.2)

def fed : List (Op β) → List β
  | [] => []
  | .feed items :: ops => items ++ fed ops
  | .drain :: ops => fed ops

/-- Whenever a run is fed, there is room for what is pending by then. -/
def Fits (r : Receiver σ α β) (room : σ → Nat) : σ → List (Op β) → Prop
  | _, [] => True
  | s, .feed items :: ops =>
    items.length + (r.pending s).length ≤ room s ∧ r.Fits room (r.feed items s) ops
  | s, .drain :: ops => r.Fits room (r.drain s).2 ops

theorem run_append (r : Receiver σ α β) (s : σ) (ops more : List (Op β)) :
    r.run s (ops ++ more) =
      ((r.run s ops).1 ++ (r.run (r.run s ops).2 more).1, (r.run (r.run s ops).2 more).2) := by
  induction ops generalizing s with
  | nil => rfl
  | cons op ops ih =>
    cases op with
    | feed items => exact ih _
    | drain => simp [run, ih]

/-- Feeding appends; draining takes off the complete frames. -/
structure Cuts (r : Receiver σ α β) (frame : α → List β) (Good : α → Prop) (room : σ → Nat) :
    Prop where
  pending_feed : ∀ s items, items.length + (r.pending s).length ≤ room s →
    r.pending (r.feed items s) = r.pending s ++ items
  pending_drain : ∀ s todo future, (∀ a ∈ todo, Good a) →
    r.pending s ++ future = todo.flatMap frame →
      ∃ rest, todo = (r.drain s).1 ++ rest ∧
        r.pending (r.drain s).2 ++ future = rest.flatMap frame ∧
        ∀ a as, rest = a :: as → (r.pending (r.drain s).2).length < (frame a).length

variable {r : Receiver σ α β} {frame : α → List β} {Good : α → Prop} {room : σ → Nat}

/-- At the end of a run, what was given out and what is pending make up
what came in. -/
theorem Cuts.run (hr : r.Cuts frame Good room) {todo : List α} {future : List β}
    (hgood : ∀ a ∈ todo, Good a) (hfits : r.Fits room s ops)
    (h : r.pending s ++ (fed ops ++ future) = todo.flatMap frame) :
    ∃ rest, todo = (r.run s ops).1 ++ rest ∧
      r.pending (r.run s ops).2 ++ future = rest.flatMap frame := by
  induction ops generalizing s todo with
  | nil => exact ⟨todo, rfl, h⟩
  | cons op ops ih =>
    cases op with
    | feed items =>
      refine ih hgood hfits.2 ?_
      rw [hr.pending_feed s items hfits.1, ← h]
      simp only [fed, List.append_assoc]
    | drain =>
      obtain ⟨left, rfl, hpending, -⟩ := hr.pending_drain s todo _ hgood h
      have hleft : ∀ a ∈ left, Good a := fun a ha => hgood a (List.mem_append_right _ ha)
      obtain ⟨rest, rfl, hrest⟩ := ih hleft hfits hpending
      exact ⟨rest, (List.append_assoc _ _ _).symm, hrest⟩

theorem Cuts.drain (hr : r.Cuts frame Good room) {todo : List α} (hgood : ∀ a ∈ todo, Good a)
    (h : r.pending s = todo.flatMap frame) :
    (r.drain s).1 = todo ∧ r.pending (r.drain s).2 = [] := by
  obtain ⟨rest, rfl, hpending, hshort⟩ :=
    hr.pending_drain s todo [] hgood (by rw [List.append_nil, h])
  rw [List.append_nil] at hpending
  cases rest with
  | nil => exact ⟨by rw [List.append_nil], hpending⟩
  | cons a as =>
    -- what is pending would hold a frame more than it does
    have hlt := hshort a as rfl
    rw [hpending, List.flatMap_cons, List.length_append] at hlt
    omega

/-- Once everything was fed, a last drain has given out all values, and
nothing is pending. -/
theorem Cuts.run_drain (hr : r.Cuts frame Good room) {todo : List α} (hgood : ∀ a ∈ todo, Good a)
    (hfits : r.Fits room s ops) (h : r.pending s ++ fed ops = todo.flatMap frame) :
    (r.run s (ops ++ [.drain])).1 = todo ∧ r.pending (r.run s (ops ++ [.drain])).2 = [] := by
  rw [← List.append_nil (fed ops)] at h
  obtain ⟨left, rfl, hleft⟩ := hr.run hgood hfits h
  have hg : ∀ a ∈ left, Good a := fun a ha => hgood a (List.mem_append_right _ ha)
  obtain ⟨hlast, hpending⟩ := hr.drain hg (by rw [← hleft, List.append_nil])
  have hdrain : r.run (r.run s ops).2 [.drain] = r.drain (r.run s ops).2 := by
    simp [Receiver.run]
  rw [run_append, hdrain, hlast]
  exact ⟨rfl, hpending⟩

end Receiver

end Discnet.Lib
