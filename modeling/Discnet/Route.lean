import Discnet.Typedefs

/-!
# Routes

A route says how a node was heard of: which node, on which of the own
addresses, and from whom. It is online as long as it was heard of within the
last 90 seconds, or if it is persistent.
-/

namespace Discnet

abbrev NodeId := UInt16

structure NodeIdentifier where
  id : NodeId := 0
  address : Address
  deriving DecidableEq, Repr

structure RouteIdentifier where
  node : NodeIdentifier
  adapter : Address
  reporter : Address
  deriving DecidableEq, Repr

structure RouteStatus where
  online : Bool := false
  persistent : Bool := false
  silent : Bool := false
  jumps : Jumps := []
  mtu : UInt32 := 0
  deriving DecidableEq, Repr

structure Route where
  identifier : RouteIdentifier
  lastDiscovery : TimePoint := .min
  lastDataMessage : TimePoint := .min
  status : RouteStatus := {}
  deriving DecidableEq, Repr

structure PersistentRoute where
  identifier : RouteIdentifier
  gateway : Address
  metric : Metric
  enabled : Bool
  deriving DecidableEq, Repr

def Jumps.total (jumps : Jumps) : Nat := (jumps.map UInt16.toNat).sum

/-- The hops as an `int` adds them up: it wraps around. -/
def Jumps.accumulated (jumps : Jumps) : Int32 :=
  jumps.foldl (fun length metric => length + .ofNat metric.toNat) 0

theorem Jumps.accumulated_eq (jumps : Jumps) : jumps.accumulated = .ofNat jumps.total := by
  have hsum : ∀ (rest : Jumps) (length : Int32),
      rest.foldl (fun length metric => length + .ofNat metric.toNat) length =
        length + .ofNat rest.total := by
    intro rest
    induction rest with
    | nil => simp [total]
    | cons metric rest ih =>
      intro length
      have htotal : total (metric :: rest) = metric.toNat + total rest := by simp [total]
      rw [List.foldl_cons, ih, htotal, Int32.ofNat_add, Int32.add_assoc]
  rw [accumulated, hsum, Int32.zero_add]

theorem Jumps.toInt_accumulated {jumps : Jumps} (h : jumps.total < 2 ^ 31) :
    jumps.accumulated.toInt = jumps.total := by
  rw [accumulated_eq, Int32.toInt_ofNat_of_lt h]

def isShorterRoute (lhs rhs : Route) : Bool :=
  let lhsLength := lhs.status.jumps.accumulated
  let rhsLength := rhs.status.jumps.accumulated
  lhsLength < rhsLength

def routeTimeout : Int := seconds 90

def isRouteOnline (route : Route) (currentTime : TimePoint) : Bool :=
  if route.status.persistent then true
  else
    let timeoutLimit := currentTime - routeTimeout
    decide (route.lastDiscovery > timeoutLimit) || decide (route.lastDataMessage > timeoutLimit)

/-- What holds of a route that only discovery messages brought about. -/
structure Route.Discovered (route : Route) : Prop where
  notPersistent : route.status.persistent = false
  noData : route.lastDataMessage = .min

/-- The times that lie a timeout or more behind the smallest one. Earlier
ones are beyond what the subtraction can represent. -/
def TimePoint.InRange (time : TimePoint) : Prop := TimePoint.min + routeTimeout ≤ time

instance (time : TimePoint) : Decidable time.InRange :=
  inferInstanceAs (Decidable (_ ≤ _))

theorem Route.Discovered.isRouteOnline_iff {route : Route} {currentTime : TimePoint}
    (h : route.Discovered) (htime : currentTime.InRange) :
    isRouteOnline route currentTime = true ↔ currentTime - routeTimeout < route.lastDiscovery := by
  have hmin : ¬ currentTime - routeTimeout < TimePoint.min := by
    rw [TimePoint.InRange] at htime
    grind
  simp [isRouteOnline, h.notPersistent, h.noData, hmin]

end Discnet
