import Discnet.Route

/-!
# Comparing route lengths

The hops of a route add up to its length, in an `int`. As long as all sums
stay in its range the shorter route is the one with the smaller sum. From
2^31 on the sum is negative, and the longest route is taken for the shortest.
-/

namespace Discnet

namespace Jumps

/-- No sum on the way over the hops leaves the range of `int`. -/
def SumsFit (jumps : Jumps) : Prop := ∀ start, start <+: jumps → total start < 2 ^ 31

theorem total_append (jumps more : Jumps) : total (jumps ++ more) = jumps.total + total more := by
  simp [total]

theorem sumsFit_iff {jumps : Jumps} : jumps.SumsFit ↔ jumps.total < 2 ^ 31 := by
  constructor
  · intro h
    exact h jumps List.prefix_rfl
  · rintro h start ⟨rest, rfl⟩
    rw [total_append] at h
    omega

theorem total_replicate (n : Nat) (metric : Metric) :
    total (List.replicate n metric) = n * metric.toNat := by
  simp [total]

theorem total_le_length (jumps : Jumps) : jumps.total ≤ jumps.length * 65535 := by
  induction jumps with
  | nil => simp [total]
  | cons metric rest ih =>
    have hmetric := metric.toNat_lt
    simp only [total, List.map_cons, List.sum_cons, List.length_cons] at ih ⊢
    omega

/-- Up to 32768 hops add up in an `int`, whatever they are. -/
theorem sumsFit_of_length_le {jumps : Jumps} (h : jumps.length ≤ 32768) : jumps.SumsFit := by
  have htotal := total_le_length jumps
  rw [sumsFit_iff]
  omega

end Jumps

theorem isShorterRoute_iff_total {lhs rhs : Route} (hlhs : lhs.status.jumps.total < 2 ^ 31)
    (hrhs : rhs.status.jumps.total < 2 ^ 31) :
    isShorterRoute lhs rhs = true ↔ lhs.status.jumps.total < rhs.status.jumps.total := by
  simp [isShorterRoute, Int32.lt_iff_toInt_lt, Jumps.toInt_accumulated hlhs,
    Jumps.toInt_accumulated hrhs]

/-- The two routes are compared by what their hops add up to, and nothing
gets out of range for it. A route is not shorter for one more hop. -/
structure ComparesExactly (lhs rhs : Route) : Prop where
  isShorter_iff : isShorterRoute lhs rhs = true ↔
    lhs.status.jumps.total < rhs.status.jumps.total
  lhsFits : lhs.status.jumps.SumsFit
  rhsFits : rhs.status.jumps.SumsFit
  appended : ∀ hop, lhs.status.jumps = rhs.status.jumps ++ [hop] → isShorterRoute lhs rhs = false

theorem comparesExactly_iff (lhs rhs : Route) :
    ComparesExactly lhs rhs ↔
      lhs.status.jumps.total < 2 ^ 31 ∧ rhs.status.jumps.total < 2 ^ 31 := by
  constructor
  · intro h
    exact ⟨Jumps.sumsFit_iff.mp h.lhsFits, Jumps.sumsFit_iff.mp h.rhsFits⟩
  · rintro ⟨hlhs, hrhs⟩
    have hshorter := isShorterRoute_iff_total hlhs hrhs
    refine ⟨hshorter, Jumps.sumsFit_iff.mpr hlhs, Jumps.sumsFit_iff.mpr hrhs, ?_⟩
    intro hop happended
    have htotal := Jumps.total_append rhs.status.jumps [hop]
    rw [← happended] at htotal
    rw [← Bool.not_eq_true, hshorter]
    omega

/-- A route to one node, over the reporter and the hops behind it. -/
def routeOver (hops : Jumps) : Route where
  identifier := ⟨⟨1, ⟨0x0A000003⟩⟩, ⟨0x0A000001⟩, ⟨0x0A000002⟩⟩
  status := { jumps := [256] ++ hops }

def nearRoute : Route := routeOver []

def farRoute : Route := routeOver (List.replicate 32769 65535)

theorem total_farRoute : farRoute.status.jumps.total = 2147516671 := by
  rw [farRoute, routeOver, Jumps.total_append, Jumps.total_replicate]
  decide

/-- The sum of the longer route is out of range, and less than that of the
shorter one. -/
theorem far_shorter_than_near :
    farRoute.status.jumps.length ≤ 65536 ∧ isShorterRoute farRoute nearRoute = true ∧
      ¬ ComparesExactly farRoute nearRoute := by
  have hlength : farRoute.status.jumps.length ≤ 65536 := by
    rw [farRoute, routeOver, List.length_append, List.length_replicate]
    decide
  refine ⟨hlength, ?_, ?_⟩
  · rw [isShorterRoute, Jumps.accumulated_eq, total_farRoute]
    decide
  · intro h
    have hfits := Jumps.sumsFit_iff.mp h.lhsFits
    rw [total_farRoute] at hfits
    omega

end Discnet
