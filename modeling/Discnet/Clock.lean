import Discnet.TransmissionHandler
import Discnet.RouteHistory
import Mathlib.Algebra.Order.Group.Abs
import Mathlib.Algebra.Order.Group.Int

/-!
# The system clock

The updates take the time from a clock that may be set. A clock that is set
forward brings the next discovery message at once; one that is set back does
not, as the transmission handler tests the same difference twice. What it
computes with the times always fits a tick count.
-/

namespace Discnet

open Lib

namespace TransmissionHandler

/-- The handler after an update. -/
def updated (h : TransmissionHandler) (currentTime : TimePoint) : TransmissionHandler :=
  (h.update currentTime).2

theorem updated_eq (h : TransmissionHandler) (currentTime : TimePoint) :
    h.updated currentTime =
      if h.lastDiscovery + h.interval < currentTime then { h with lastDiscovery := currentTime }
      else h := by
  rw [updated, update_eq]
  split <;> rfl

@[simp] theorem interval_updated (h : TransmissionHandler) (currentTime : TimePoint) :
    (h.updated currentTime).interval = h.interval := by
  rw [updated_eq]
  split <;> rfl

-- ---------------------------------------------------------------------------
-- A clock that is set
-- ---------------------------------------------------------------------------

/-- After an update, it and the last discovery are no more than 20 seconds
apart. -/
def InTouch (h : TransmissionHandler) (currentTime : TimePoint) : Prop :=
  |currentTime - (h.updated currentTime).lastDiscovery| ≤ seconds 20

/-- After an update, any one that is more than 20 seconds later transmits. -/
def DueInTime (h : TransmissionHandler) (currentTime : TimePoint) : Prop :=
  ∀ later, currentTime + seconds 20 < later → ((h.updated currentTime).update later).1 = true

/-- The last discovery lies so far ahead of the time, at most. -/
def AheadBy (ahead : Int) (h : TransmissionHandler) (currentTime : TimePoint) : Prop :=
  h.lastDiscovery ≤ currentTime + ahead

instance (ahead : Int) (h : TransmissionHandler) (currentTime : TimePoint) :
    Decidable (AheadBy ahead h currentTime) :=
  inferInstanceAs (Decidable (_ ≤ _))

section
variable {h : TransmissionHandler} (hinterval : h.interval = seconds 20)
include hinterval

theorem inTouch_iff (currentTime : TimePoint) :
    InTouch h currentTime ↔ AheadBy (seconds 20) h currentTime := by
  have hseconds : 0 ≤ seconds 20 := by decide
  rw [InTouch, AheadBy, updated_eq, hinterval, abs_le]
  split
  · grind
  · grind

theorem dueInTime_iff (currentTime : TimePoint) :
    DueInTime h currentTime ↔ AheadBy 0 h currentTime := by
  have hdue : DueInTime h currentTime ↔ (h.updated currentTime).lastDiscovery ≤ currentTime := by
    simp only [DueInTime, update_eq, interval_updated, hinterval]
    constructor
    · intro hdue
      have hnext := hdue (currentTime + seconds 20 + 1) (by grind)
      split at hnext
      case isTrue hlt => grind
      case isFalse => contradiction
    · intro hlast later hlater
      rw [if_pos (by grind)]
  have hseconds : 0 ≤ seconds 20 := by decide
  rw [hdue, AheadBy, updated_eq, hinterval]
  split
  · grind
  · grind

end

theorem throughout_updated_iff {P Q : TransmissionHandler → TimePoint → Prop}
    (h : ∀ h : TransmissionHandler, h.interval = seconds 20 → ∀ time, P h time ↔ Q h time)
    (times : List TimePoint) :
    Throughout updated P {} times ↔ Throughout updated Q {} times := by
  have hkept : ∀ (handler : TransmissionHandler) (time : TimePoint),
      handler.interval = seconds 20 → P handler time →
        (handler.updated time).interval = seconds 20 := by
    intro handler time hinterval _
    rw [interval_updated, hinterval]
  refine throughout_congr ?_ hkept fun handler time hinterval => h handler hinterval time
  rfl

/-- In a run of updates, the last discovery stays within 20 seconds of the
time if and only if no update comes more than 20 seconds before it. The next
discovery message is also due within 20 seconds if and only if no update
comes before it at all. -/
theorem clock_steps_iff (times : List TimePoint) :
    (Throughout updated InTouch {} times ↔
        Throughout updated (AheadBy (seconds 20)) {} times) ∧
      (Throughout updated (fun h time => InTouch h time ∧ DueInTime h time) {} times ↔
        Throughout updated (AheadBy 0) {} times) := by
  constructor
  · exact throughout_updated_iff (fun h hinterval => inTouch_iff hinterval) times
  · refine throughout_updated_iff (fun h hinterval time => ?_) times
    have hseconds : 0 ≤ seconds 20 := by decide
    rw [inTouch_iff hinterval, dueInTime_iff hinterval, AheadBy, AheadBy]
    grind

/-- The clock is set back from 100 seconds to 0. For two minutes nothing
is sent. -/
theorem clock_set_back :
    ¬ Throughout updated InTouch {} [seconds 100, 0] ∧
      ((({} : TransmissionHandler).updated (seconds 100)).updated 0).update (seconds 120) =
        (false, { lastDiscovery := seconds 100 }) := by
  constructor
  · rintro ⟨-, hback, -⟩
    exact absurd hback (by unfold InTouch; decide)
  · decide

end TransmissionHandler

-- ---------------------------------------------------------------------------
-- Tick counts
-- ---------------------------------------------------------------------------

namespace TimePoint

/-- `time_point::max()`, the largest signed 64-bit tick count. -/
def max : TimePoint := 2 ^ 63 - 1

/-- The tick count, if it is one. -/
def ticks (n : Int) : Option Int := if TimePoint.min ≤ n ∧ n ≤ TimePoint.max then some n else none

/-- The time lies between the epoch and 20 seconds before the last one. -/
def Usual (time : TimePoint) : Prop := 0 ≤ time ∧ time ≤ TimePoint.max - seconds 20

instance (time : TimePoint) : Decidable time.Usual := inferInstanceAs (Decidable (_ ∧ _))

/-- The times that are fixed, in ticks. -/
theorem inTicks : TimePoint.min = -2 ^ 63 ∧ TimePoint.max = 2 ^ 63 - 1 ∧ seconds 20 = 200000000 ∧
    routeTimeout = 900000000 :=
  ⟨rfl, rfl, rfl, rfl⟩

theorem ticks_eq {n : Int} (h : TimePoint.min ≤ n ∧ n ≤ TimePoint.max) : ticks n = some n :=
  if_pos h

end TimePoint

open TimePoint (ticks)

/-- `TransmissionHandler.update`, unless a tick count overflows. -/
def TransmissionHandler.checkedUpdate (currentTime : TimePoint) (h : TransmissionHandler) :
    Option (Bool × TransmissionHandler) := do
  let nextDiscoveryTime ← ticks (h.lastDiscovery + h.interval)
  if nextDiscoveryTime < currentTime then
    return (true, { h with lastDiscovery := currentTime })
  else
    let diffForward ← ticks (currentTime - h.lastDiscovery)
    if diffForward > h.interval then
      return (true, { h with lastDiscovery := currentTime })
    else
      return (false, h)

/-- `isRouteOnline`, unless a tick count overflows. -/
def checkedIsRouteOnline (route : Route) (currentTime : TimePoint) : Option Bool :=
  if route.status.persistent then some true
  else do
    let timeoutLimit ← ticks (currentTime - routeTimeout)
    return decide (route.lastDiscovery > timeoutLimit) ||
      decide (route.lastDataMessage > timeoutLimit)

/-- What takes a time from the clock. -/
inductive ClockEvent
  | routeManager (routeCall : RouteCall)
  | transmissionHandler (currentTime : TimePoint)

def RouteCall.time : RouteCall → TimePoint
  | discoveryMessage _ _ info => info.receptionTime
  | persistentRoute _ _ time => time
  | update currentTime => currentTime

def ClockEvent.time : ClockEvent → TimePoint
  | routeManager routeCall => routeCall.time
  | transmissionHandler currentTime => currentTime

/-- The parts of a node that remember times. -/
structure Timekeeping where
  routes : RouteManager := {}
  transmissions : TransmissionHandler := {}

namespace Timekeeping

def step (s : Timekeeping) : ClockEvent → Timekeeping
  | .routeManager routeCall => { s with routes := s.routes.after routeCall }
  | .transmissionHandler currentTime =>
    { s with transmissions := s.transmissions.updated currentTime }

/-- What is computed at the event stays within the tick counts. -/
def NoOverflow (s : Timekeeping) : ClockEvent → Prop
  | .transmissionHandler currentTime =>
    s.transmissions.checkedUpdate currentTime = some (s.transmissions.update currentTime)
  | .routeManager (.update currentTime) =>
    ∀ guid route, s.routes.Holds guid route →
      checkedIsRouteOnline route currentTime = some (isRouteOnline route currentTime)
  | .routeManager (.discoveryMessage ..) => True
  | .routeManager (.persistentRoute ..) => True

end Timekeeping

namespace TransmissionHandler

/-- There was no discovery message yet, or one at a usual time. -/
structure Sound (h : TransmissionHandler) : Prop where
  interval : h.interval = seconds 20
  lastDiscovery : h.lastDiscovery = TimePoint.min ∨ h.lastDiscovery.Usual

theorem sound_initial : Sound {} := ⟨rfl, .inl rfl⟩

variable {h : TransmissionHandler} {currentTime : TimePoint}

theorem Sound.updated (hs : h.Sound) (htime : currentTime.Usual) :
    (h.updated currentTime).Sound := by
  constructor
  · rw [interval_updated, hs.interval]
  · rw [updated_eq]
    split
    · exact .inr htime
    · exact hs.lastDiscovery

theorem Sound.ticks_next (hs : h.Sound) :
    ticks (h.lastDiscovery + h.interval) = some (h.lastDiscovery + h.interval) := by
  obtain ⟨hmin, hmax, hseconds, -⟩ := TimePoint.inTicks
  apply TimePoint.ticks_eq
  rw [hs.interval]
  rcases hs.lastDiscovery with hfirst | ⟨hlow, hhigh⟩
  · grind
  · grind

/-- The difference to the smallest time is not computed: the first test has
transmitted before. -/
theorem Sound.ticks_diff (hs : h.Sound) (htime : currentTime.Usual)
    (hlate : ¬ h.lastDiscovery + h.interval < currentTime) :
    ticks (currentTime - h.lastDiscovery) = some (currentTime - h.lastDiscovery) := by
  obtain ⟨hmin, hmax, hseconds, -⟩ := TimePoint.inTicks
  obtain ⟨hlow, hhigh⟩ := htime
  apply TimePoint.ticks_eq
  rw [hs.interval] at hlate
  rcases hs.lastDiscovery with hfirst | ⟨hlow', hhigh'⟩
  · grind
  · grind

theorem Sound.checkedUpdate_eq (hs : h.Sound) (htime : currentTime.Usual) :
    h.checkedUpdate currentTime = some (h.update currentTime) := by
  simp only [checkedUpdate, update, hs.ticks_next, Option.bind_eq_bind, Option.bind_some]
  split
  case isTrue => rfl
  case isFalse hlate =>
    rw [hs.ticks_diff htime hlate, Option.bind_some]
    split <;> rfl

end TransmissionHandler

theorem checkedIsRouteOnline_eq (route : Route) {currentTime : TimePoint}
    (htime : currentTime.Usual) :
    checkedIsRouteOnline route currentTime = some (isRouteOnline route currentTime) := by
  obtain ⟨hmin, hmax, hseconds, htimeout⟩ := TimePoint.inTicks
  obtain ⟨hlow, hhigh⟩ := htime
  have hticks : ticks (currentTime - routeTimeout) = some (currentTime - routeTimeout) :=
    TimePoint.ticks_eq (by grind)
  rw [checkedIsRouteOnline, isRouteOnline, hticks]
  split <;> rfl

namespace Timekeeping

def Sound (s : Timekeeping) : Prop := s.transmissions.Sound

/-- One event at a usual time overflows nothing, and leaves the next no worse
off. -/
theorem Sound.step (s : Timekeeping) (event : ClockEvent) (hs : s.Sound)
    (htime : event.time.Usual) : (s.step event).Sound ∧ s.NoOverflow event := by
  cases event with
  | transmissionHandler currentTime =>
    exact ⟨TransmissionHandler.Sound.updated hs htime,
      TransmissionHandler.Sound.checkedUpdate_eq hs htime⟩
  | routeManager routeCall =>
    cases routeCall with
    | update currentTime => exact ⟨hs, fun _ route _ => checkedIsRouteOnline_eq route htime⟩
    | discoveryMessage adapterManager message info => exact ⟨hs, trivial⟩
    | persistentRoute adapterManager route time => exact ⟨hs, trivial⟩

/-- Whatever the order of the times, nothing that is computed with them
overflows a tick count. -/
theorem no_overflow (events : List ClockEvent) (htimes : ∀ event ∈ events, event.time.Usual) :
    Throughout step NoOverflow {} events := by
  have husual : Throughout step (fun _ event => event.time.Usual) {} events :=
    throughout_of_forall htimes _
  refine husual.derive ?_ Sound.step
  exact TransmissionHandler.sound_initial

theorem no_overflow_backwards :
    Throughout step NoOverflow {}
      [.transmissionHandler (seconds 1000), .routeManager (.update (seconds 1000)),
        .transmissionHandler 0, .routeManager (.update 0), .transmissionHandler (seconds 21)] :=
  no_overflow _ (by decide)

end Timekeeping

end Discnet
