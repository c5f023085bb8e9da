import Mathlib.Data.List.Chain
import Mathlib.Data.List.Infix
import Mathlib.Tactic.Linarith

/-!
# Heartbeats

Something beats, never with more than a period between two beats, and of so
many beats in a row one is heard. Then, at any time, a beat was heard that is
not older than that many periods and the delay of the last ones.
-/

namespace Discnet.Lib

variable {α : Type} {time : α → Int} {period delay now start : Int} {Heard : α → Prop}
  {beats early late : List α}

/-- No more than a period passes between two beats. -/
def Spaced (time : α → Int) (period : Int) (beats : List α) : Prop :=
  beats.IsChain fun first second => time first ≤ time second ∧ time second ≤ time first + period

/-- Of any `k + 1` beats in a row that are older than the delay, one was
heard. -/
def FewLosses (time : α → Int) (Heard : α → Prop) (k : Nat) (delay now : Int) (beats : List α) :
    Prop :=
  ∀ window, window <:+: beats → window.length = k + 1 →
    (∀ beat ∈ window, time beat + delay < now) → ∃ beat ∈ window, Heard beat

theorem fewLosses_iff : FewLosses time Heard k delay now beats ↔ ∀ rest ∈ beats.tails,
    (rest.take (k + 1)).length = k + 1 →
    (∀ beat ∈ rest.take (k + 1), time beat + delay < now) →
    ∃ beat ∈ rest.take (k + 1), Heard beat := by
  constructor
  · intro h rest hrest
    exact h _ ((List.take_prefix ..).isInfix.trans ((List.mem_tails ..).mp hrest).isInfix)
  · intro h window hwindow hlength
    obtain ⟨rest, hprefix, hsuffix⟩ := List.infix_iff_prefix_suffix.mp hwindow
    have htake : rest.take (k + 1) = window := by
      rw [← hlength, ← List.prefix_iff_eq_take.mp hprefix]
    have hrest := h rest ((List.mem_tails ..).mpr hsuffix)
    rw [htake] at hrest
    exact hrest hlength

instance [DecidablePred Heard] : Decidable (FewLosses time Heard k delay now beats) :=
  decidable_of_iff _ fewLosses_iff.symm

theorem FewLosses.mono {Heard' : α → Prop} (h : FewLosses time Heard k delay now beats)
    (himp : ∀ beat, Heard beat → Heard' beat) : FewLosses time Heard' k delay now beats := by
  intro window hwindow hlength hexpired
  obtain ⟨beat, hbeat, hheard⟩ := h window hwindow hlength hexpired
  exact ⟨beat, hbeat, himp beat hheard⟩

/-- Beats that are not older than the delay do not count. -/
theorem FewLosses.append {more : List α} (h : FewLosses time Heard k delay now beats)
    (hmore : ∀ beat ∈ more, now ≤ time beat + delay) :
    FewLosses time Heard k delay now (beats ++ more) := by
  intro window hwindow hlength hexpired
  have hnone : ∀ beat ∈ window, beat ∉ more := fun beat hbeat hnew =>
    absurd (hexpired beat hbeat) (not_lt.mpr (hmore beat hnew))
  rcases List.infix_append_iff_ne_nil.mp hwindow with hold | hnew | ⟨_, new, _, hne, rfl, _, hnew⟩
  · exact h window hold hlength hexpired
  · have hpos : 0 < window.length := by omega
    obtain ⟨beat, hbeat⟩ := List.exists_mem_of_length_pos hpos
    exact absurd (hnew.subset hbeat) (hnone beat hbeat)
  · obtain ⟨beat, hbeat⟩ := List.exists_mem_of_ne_nil new hne
    exact absurd (hnew.subset hbeat) (hnone beat (List.mem_append_right _ hbeat))

theorem FewLosses.right (h : FewLosses time Heard k delay now (early ++ late)) :
    FewLosses time Heard k delay now late :=
  fun window hwindow => h window (hwindow.trans (List.suffix_append early late).isInfix)

theorem Spaced.append {more : List α} (h : Spaced time period beats) (hperiod : 0 ≤ period)
    (hmore : ∀ beat ∈ more, time beat = now)
    (hlast : ∀ beat ∈ beats.getLast?, time beat ≤ now ∧ now ≤ time beat + period) :
    Spaced time period (beats ++ more) := by
  refine List.isChain_append.mpr ⟨h, ?_, fun beat hbeat next hnext => ?_⟩
  · refine (List.pairwise_of_forall_mem_list fun beat hbeat next hnext => ?_).isChain
    rw [hmore beat hbeat, hmore next hnext]
    exact ⟨le_refl _, by linarith⟩
  · rw [hmore next (List.mem_of_mem_head? hnext)]
    exact hlast beat hbeat

theorem Spaced.sorted (h : Spaced time period beats) :
    beats.Pairwise fun first second => time first ≤ time second := by
  have hchain : beats.IsChain fun first second => time first ≤ time second :=
    h.imp fun _ _ hstep => hstep.1
  exact List.isChain_iff_pairwise.mp hchain

theorem Spaced.right (h : Spaced time period (early ++ late)) : Spaced time period late :=
  (List.isChain_append.mp h).2.1

/-- Counted back from the last beat of a window, each may be a period
older. -/
theorem Spaced.age_of_mem {window : List α} (h : Spaced time period window) (hperiod : 0 ≤ period)
    (hlast : ∀ beat ∈ window.getLast?, now ≤ time beat + age + period) :
    ∀ beat ∈ window, now ≤ time beat + age + window.length * period := by
  induction window with
  | nil => simp
  | cons first rest ih =>
    cases rest with
    | nil =>
      have hfirst := hlast first rfl
      simpa using hfirst
    | cons second rest =>
      obtain ⟨⟨-, hstep⟩, hrest⟩ := List.isChain_cons_cons.mp h
      have ih := ih hrest hlast
      have hgrow : ((first :: second :: rest).length : Int) * period =
          ((second :: rest).length : Int) * period + period := by
        rw [List.length_cons, Nat.cast_add, Nat.cast_one, Int.add_mul, Int.one_mul]
      rw [hgrow]
      intro beat hbeat
      rcases List.mem_cons.mp hbeat with rfl | hbeat
      · have hsecond := ih second List.mem_cons_self
        linarith
      · have hother := ih beat hbeat
        linarith

/-- Counted from the first beat, each is at most a period later. -/
theorem Spaced.time_of_mem_take (h : Spaced time period beats) (hperiod : 0 ≤ period)
    (hfirst : ∀ beat ∈ beats.head?, time beat ≤ start + period) (n : Nat) :
    ∀ beat ∈ beats.take n, time beat ≤ start + n * period := by
  induction beats generalizing start n with
  | nil => simp
  | cons first rest ih =>
    cases n with
    | zero => simp
    | succ n =>
      have hstart := hfirst first rfl
      have hgrow : start + ((n + 1 : Nat) : Int) * period = (start + period) + n * period := by
        rw [Nat.cast_add, Nat.cast_one, Int.add_mul, Int.one_mul]
        linarith
      rw [List.take_succ_cons, hgrow]
      intro beat hbeat
      rcases List.mem_cons.mp hbeat with rfl | hbeat
      · have hnonneg : 0 ≤ (n : Int) * period := Int.mul_nonneg (Int.natCast_nonneg n) hperiod
        linarith
      · refine ih (List.isChain_of_isChain_cons h) (fun second hsecond => ?_) n beat hbeat
        have hstep := (List.isChain_cons.mp h).1 second hsecond
        linarith [hstep.2]

theorem Spaced.split (h : Spaced time period beats) (delay now : Int) :
    ∃ expired fresh, beats = expired ++ fresh ∧ (∀ beat ∈ expired, time beat + delay < now) ∧
      ∀ beat ∈ fresh, now ≤ time beat + delay := by
  have hsorted := h.sorted
  clear h
  induction beats with
  | nil => exact ⟨[], [], rfl, by simp, by simp⟩
  | cons first rest ih =>
    obtain ⟨hfirst, hrest⟩ := List.pairwise_cons.mp hsorted
    by_cases hover : time first + delay < now
    · obtain ⟨expired, fresh, rfl, hexpired, hfresh⟩ := ih hrest
      exact ⟨first :: expired, fresh, rfl, List.forall_mem_cons.mpr ⟨hover, hexpired⟩, hfresh⟩
    · refine ⟨[], first :: rest, rfl, by simp, List.forall_mem_cons.mpr ⟨not_lt.mp hover, ?_⟩⟩
      intro beat hbeat
      have hle := hfirst beat hbeat
      linarith

theorem Spaced.age_of_last_expired {expired fresh : List α}
    (h : Spaced time period (expired ++ fresh)) (hdelay : 0 ≤ delay)
    (hfresh : ∀ beat ∈ fresh, now ≤ time beat + delay)
    (hlast : ∀ beat ∈ (expired ++ fresh).getLast?, now ≤ time beat + period) :
    ∀ beat ∈ expired.getLast?, now ≤ time beat + delay + period := by
  intro beat hbeat
  cases fresh with
  | nil =>
    rw [List.append_nil] at hlast
    have hnow := hlast beat hbeat
    linarith
  | cons next rest =>
    obtain ⟨-, -, hjoint⟩ := List.isChain_append.mp h
    obtain ⟨-, hstep⟩ := hjoint beat hbeat next rfl
    have hnow := hfresh next List.mem_cons_self
    linarith

/-- Once a beat was heard, there is always one that was heard and is not
older than `k + 1` periods and the delay. -/
theorem exists_heard_lately (hspaced : Spaced time period beats) (hperiod : 0 ≤ period)
    (hdelay : 0 ≤ delay) (hlast : ∀ beat ∈ beats.getLast?, now ≤ time beat + period)
    (hlosses : FewLosses time Heard k delay now beats) (hheard : ∃ beat ∈ beats, Heard beat) :
    ∃ beat ∈ beats, Heard beat ∧ now ≤ time beat + delay + (k + 1 : Nat) * period := by
  obtain ⟨expired, fresh, rfl, hexpired, hfresh⟩ := hspaced.split delay now
  have hlastExpired := hspaced.age_of_last_expired hdelay hfresh hlast
  -- of the expired beats only the last `k + 1` matter
  obtain ⟨early, window, rfl, hlength⟩ : ∃ early window, expired = early ++ window ∧
      window.length = min (k + 1) expired.length :=
    ⟨_, _, (List.take_append_drop (expired.length - (k + 1)) expired).symm, by
      rw [List.length_drop]; omega⟩
  have hwindow : Spaced time period window :=
    (List.isChain_append.mp (List.isChain_append.mp hspaced).1).2.1
  have hlastWindow : ∀ beat ∈ window.getLast?, now ≤ time beat + delay + period := by
    intro beat hbeat
    apply hlastExpired beat
    rw [List.getLast?_append, hbeat]
    rfl
  have hage : ∀ beat ∈ window, now ≤ time beat + delay + (k + 1 : Nat) * period := by
    intro beat hbeat
    have hall := hwindow.age_of_mem hperiod hlastWindow beat hbeat
    have hcount : (window.length : Int) * period ≤ (k + 1 : Nat) * period :=
      Int.mul_le_mul_of_nonneg_right (by omega) hperiod
    linarith
  by_cases hfull : window.length = k + 1
  · have hinfix : window <:+: early ++ window ++ fresh := ⟨early, fresh, rfl⟩
    obtain ⟨beat, hbeat, hheard⟩ := hlosses window hinfix hfull fun beat hbeat =>
      hexpired beat (List.mem_append_right early hbeat)
    exact ⟨beat, hinfix.subset hbeat, hheard, hage beat hbeat⟩
  · have hearly : early = [] := by
      rw [List.length_append] at hlength
      exact List.length_eq_zero_iff.mp (by omega)
    obtain ⟨beat, hbeat, hheard⟩ := hheard
    refine ⟨beat, hbeat, hheard, ?_⟩
    rcases List.mem_append.mp hbeat with hold | hnew
    · rw [hearly, List.nil_append] at hold
      exact hage beat hold
    · have hnow := hfresh beat hnew
      have hnonneg : 0 ≤ ((k + 1 : Nat) : Int) * period :=
        Int.mul_nonneg (Int.natCast_nonneg _) hperiod
      linarith

/-- The same of the beats from some point on. -/
theorem exists_late_heard_lately (hspaced : Spaced time period (early ++ late))
    (hperiod : 0 ≤ period) (hdelay : 0 ≤ delay)
    (hlast : ∀ beat ∈ (early ++ late).getLast?, now ≤ time beat + period)
    (hlosses : FewLosses time Heard k delay now (early ++ late))
    (hheard : ∃ beat ∈ late, Heard beat) :
    ∃ beat ∈ late, Heard beat ∧ now ≤ time beat + delay + (k + 1 : Nat) * period := by
  refine exists_heard_lately hspaced.right hperiod hdelay (fun beat hbeat => hlast beat ?_)
    hlosses.right hheard
  rw [List.getLast?_append, hbeat]
  rfl

/-- What beats since the start has been heard, from the start on, `k + 1`
periods and the delay later. -/
theorem exists_late_heard (hspaced : Spaced time period (early ++ late)) (hperiod : 0 ≤ period)
    (hdelay : 0 ≤ delay) (hearly : ∀ beat ∈ early, time beat ≤ start)
    (hstarted : ∃ beat ∈ early ++ late, time beat ≤ start)
    (hlast : ∀ beat ∈ (early ++ late).getLast?, now ≤ time beat + period)
    (hlosses : FewLosses time Heard k delay now (early ++ late))
    (hnow : start + (k + 1 : Nat) * period + delay < now) :
    ∃ beat ∈ late, Heard beat ∧ time beat ≤ start + (k + 1 : Nat) * period := by
  have hfirst : ∀ beat ∈ late.head?, time beat ≤ start + period := by
    intro first hfirst
    cases hlatest : early.getLast? with
    | none =>
      rw [List.getLast?_eq_none_iff.mp hlatest, List.nil_append] at hspaced hstarted
      obtain ⟨beat, hbeat, hstart⟩ := hstarted
      obtain ⟨rest, rfl⟩ := List.head?_eq_some_iff.mp hfirst
      rcases List.mem_cons.mp hbeat with rfl | hbeat
      · linarith
      · have hle := (List.pairwise_cons.mp hspaced.sorted).1 beat hbeat
        linarith
    | some beat =>
      have hstep := (List.isChain_append.mp hspaced).2.2 beat hlatest first hfirst
      have hstart := hearly beat (List.mem_of_getLast? hlatest)
      linarith [hstep.2]
  have htake := hspaced.right.time_of_mem_take hperiod hfirst (k + 1)
  -- the last beat is too young to be among `k` that are counted from the start
  have hfull : (late.take (k + 1)).length = k + 1 := by
    by_contra hshort
    have hcount : late.take k = late := by
      rw [List.length_take] at hshort
      exact List.take_of_length_le (by omega)
    have hgrow : start + (k + 1 : Nat) * period = start + k * period + period := by
      rw [Nat.cast_add, Nat.cast_one, Int.add_mul, Int.one_mul]
      linarith
    have hnonneg : 0 ≤ (k : Int) * period := Int.mul_nonneg (Int.natCast_nonneg k) hperiod
    have hyoung := hspaced.right.time_of_mem_take hperiod hfirst k
    rw [hcount] at hyoung
    cases hlatest : (early ++ late).getLast? with
    | none =>
      obtain ⟨beat, hbeat, -⟩ := hstarted
      rw [List.getLast?_eq_none_iff.mp hlatest] at hbeat
      contradiction
    | some beat =>
      have hage := hlast beat hlatest
      rcases List.mem_append.mp (List.mem_of_getLast? hlatest) with hbeat | hbeat
      · have hstart := hearly beat hbeat
        linarith
      · have hstart := hyoung beat hbeat
        linarith
  obtain ⟨beat, hbeat, hheard⟩ := hlosses.right (late.take (k + 1))
    (List.take_prefix ..).isInfix hfull fun beat hbeat => by linarith [htake beat hbeat]
  exact ⟨beat, List.mem_of_mem_take hbeat, hheard, htake beat hbeat⟩

end Discnet.Lib
