import Discnet.RouteHistory

/-!
# What is signalled about a route

Somebody who listens to the signals about a route hears of it once when it
is new, and then in turn that it went offline and that it is back online.
What was heard last is what the table says.
-/

namespace Discnet

open Lib Network Network.Messages Std

namespace RouteEvent

/-- The state a listener has in mind after an event. -/
def announce (_ : Option Bool) (event : RouteEvent) : Option Bool := some event.route.status.online

/-- A route is new if nothing was heard of it, and a change is one from what
was heard last. -/
def Expects (announced : Option Bool) : RouteEvent → Prop
  | new route => announced = none ∧ route.status.online = true
  | onlineStateChanged current previous =>
    announced = some previous ∧ current.status.online = !previous

/-- Changes of the online state, each from what the one before led to. -/
inductive Alternates : Bool → List RouteEvent → Bool → Prop
  | nil : Alternates online [] online
  | cons (hchange : current.status.online = !online) (hrest : Alternates (!online) rest last) :
    Alternates online (onlineStateChanged current online :: rest) last

theorem alternates_of_leads {events : List RouteEvent}
    (h : Leads announce Expects (some online) events (some last)) :
    Alternates online events last := by
  induction events generalizing online with
  | nil =>
    obtain ⟨-, hends⟩ := h
    cases hends
    exact .nil
  | cons event rest ih =>
    obtain ⟨⟨hevent, hrest⟩, hends⟩ := h
    cases event with
    | new route => exact absurd hevent.1 (by simp)
    | onlineStateChanged current previous =>
      obtain ⟨hprevious, hcurrent⟩ := hevent
      cases hprevious
      refine .cons hcurrent (ih ?_)
      rw [← hcurrent]
      exact ⟨hrest, hends⟩

/-- Nothing is heard of a route that is not there, and of one that is there
first that it is new. -/
theorem leads_from_none {events : List RouteEvent} {last : Option Bool}
    (h : Leads announce Expects none events last) :
    (events = [] ∧ last = none) ∨
      ∃ first rest, events = new first :: rest ∧ first.status.online = true ∧
        Leads announce Expects (some true) rest last := by
  cases events with
  | nil => exact .inl ⟨rfl, h.ends.symm⟩
  | cons event rest =>
    obtain ⟨⟨hevent, hrest⟩, hends⟩ := h
    cases event with
    | new first =>
      refine .inr ⟨first, rest, rfl, hevent.2, ?_⟩
      rw [← hevent.2]
      exact ⟨hrest, hends⟩
    | onlineStateChanged current previous => exact absurd hevent.1 (by simp)

theorem some_of_leads {events : List RouteEvent} {last : Option Bool}
    (h : Leads announce Expects (some online) events last) : ∃ b, last = some b := by
  induction events generalizing online with
  | nil => exact ⟨online, h.ends.symm⟩
  | cons event rest ih => exact ih ⟨h.throughout.2, h.ends⟩

end RouteEvent

namespace RouteManager

variable {m : RouteManager} {guid : AdapterGuid} {routeId : RouteIdentifier}

-- ---------------------------------------------------------------------------
-- Signals and the entries they are about
-- ---------------------------------------------------------------------------

/-- The signals of a call with the adapter in whose list the route is. -/
def signalled (m : RouteManager) : RouteCall → List (AdapterGuid × RouteEvent)
  | .update currentTime =>
    m.adapterRoutes.toList.flatMap fun entry =>
      entry.2.flatMap fun route => (updateRoute currentTime route).1.map fun event =>
        (entry.1, event)
  | routeCall =>
    routeCall.announcement.elim [] fun announced =>
      (m.call routeCall).2.1.map fun event => (announced.adapter.guid, event)

theorem events_of_announcement_none {routeCall : RouteCall} (hne : ∀ t, routeCall ≠ .update t)
    (h : routeCall.announcement = none) : (m.call routeCall).2.1 = [] := by
  cases routeCall with
  | update t => exact absurd rfl (hne t)
  | discoveryMessage adapterManager message info =>
    cases hfound : adapterManager.findAdapterByAddress info.adapter with
    | error text => simp [call, processDiscoveryMessage_of_error hfound]
    | ok adapter => simp [RouteCall.announcement, hfound] at h
  | persistentRoute adapterManager route time =>
    cases hfound : adapterManager.findAdapterByAddress route.identifier.adapter with
    | error text => simp [call, processPersistentRoute, hfound]
    | ok adapter => simp [RouteCall.announcement, hfound] at h

/-- These are the signals that are raised, in order. -/
theorem map_snd_signalled (m : RouteManager) (routeCall : RouteCall) :
    (m.signalled routeCall).map Prod.snd = (m.call routeCall).2.1 := by
  have hannounced : ∀ c : RouteCall, (∀ t, c ≠ .update t) →
      (c.announcement.elim [] fun announced =>
        (m.call c).2.1.map fun event => (announced.adapter.guid, event)).map Prod.snd =
        (m.call c).2.1 := by
    intro c hne
    cases h : c.announcement with
    | none => simp [events_of_announcement_none hne h]
    | some announced => simp [Function.comp_def]
  cases routeCall with
  | update t => simp [signalled, call, update, List.map_flatMap, Function.comp_def]
  | discoveryMessage adapterManager message info =>
    exact hannounced (.discoveryMessage adapterManager message info) (by simp)
  | persistentRoute adapterManager route time =>
    exact hannounced (.persistentRoute adapterManager route time) (by simp)

/-- The signals about the route in the list of the adapter. -/
def signalsAbout (guid : AdapterGuid) (routeId : RouteIdentifier)
    (signals : List (AdapterGuid × RouteEvent)) : List RouteEvent :=
  (signals.filter fun signal => signal.1 = guid ∧ signal.2.route.identifier = routeId).map Prod.snd

def eventsAbout (routeId : RouteIdentifier) (events : List RouteEvent) : List RouteEvent :=
  events.filter (·.route.identifier = routeId)

@[simp] theorem signalsAbout_append (signals others : List (AdapterGuid × RouteEvent)) :
    signalsAbout guid routeId (signals ++ others) =
      signalsAbout guid routeId signals ++ signalsAbout guid routeId others := by
  simp [signalsAbout]

theorem signalsAbout_flatMap {α : Type} (l : List α) (f : α → List (AdapterGuid × RouteEvent)) :
    signalsAbout guid routeId (l.flatMap f) =
      l.flatMap fun a => signalsAbout guid routeId (f a) := by
  simp [signalsAbout, List.filter_flatMap, List.map_flatMap]

theorem signalsAbout_map (other : AdapterGuid) (events : List RouteEvent) :
    signalsAbout guid routeId (events.map fun event => (other, event)) =
      if other = guid then eventsAbout routeId events else [] := by
  by_cases h : other = guid <;>
    simp [signalsAbout, eventsAbout, List.filter_map, Function.comp_def, h]

def onlineState (guid : AdapterGuid) (routeId : RouteIdentifier) (m : RouteManager) : Option Bool :=
  (m.find guid routeId).map (·.status.online)

-- ---------------------------------------------------------------------------
-- Calls that report
-- ---------------------------------------------------------------------------

open RouteEvent

/-- Signals that lead from one announced state to another. -/
abbrev Announces (before : Option Bool) (events : List RouteEvent) (after : Option Bool) : Prop :=
  Leads announce Expects before events after

theorem events_processRoute (m : RouteManager) (adapter : Adapter) (time : TimePoint)
    (routeId : RouteIdentifier) (jumps : Jumps) :
    (m.processRoute adapter time routeId jumps).2.1 =
      (m.find adapter.guid routeId).elim [.new (newRoute adapter time routeId jumps)]
        fun _ => [] := by
  simp only [processRoute, find, findRoutesOnAdapter]
  cases m.adapterRoutes[adapter.guid]? with
  | none => rfl
  | some routes =>
    simp only [Option.getD_some]
    cases routes.find? (·.identifier = routeId) <;> rfl

theorem announces_processRoute (routeId : RouteIdentifier) (m : RouteManager) (adapter : Adapter)
    (time : TimePoint) (other : RouteIdentifier) (jumps : Jumps) :
    Announces (m.onlineState adapter.guid routeId)
      (eventsAbout routeId (m.processRoute adapter time other jumps).2.1)
      ((m.processRoute adapter time other jumps).2.2.onlineState adapter.guid routeId) := by
  rw [events_processRoute, onlineState, onlineState, find_processRoute]
  by_cases hid : other = routeId
  · subst hid
    cases m.find adapter.guid other with
    | none =>
      have hexpected : RouteEvent.Expects none (.new (newRoute adapter time other jumps)) :=
        ⟨rfl, rfl⟩
      simpa [eventsAbout, RouteEvent.route, newRoute, reported] using
        Leads.single (t := some true) hexpected rfl
    | some existing => simpa [eventsAbout, reported, refreshed] using Leads.nil _
  · have hnone : eventsAbout routeId ((m.find adapter.guid other).elim
        [.new (newRoute adapter time other jumps)] fun _ => []) = [] := by
      cases m.find adapter.guid other <;> simp [eventsAbout, RouteEvent.route, newRoute, hid]
    simpa [hnone, hid] using Leads.nil _

theorem announces_processNodes (adapter : Adapter) (info : NetworkInfo) (result : Bool)
    (m : RouteManager) (nodes : List Node) :
    Announces (m.onlineState adapter.guid routeId)
      (eventsAbout routeId (processNodes adapter info result m nodes).2.1)
      ((processNodes adapter info result m nodes).2.2.onlineState adapter.guid routeId) := by
  induction nodes generalizing result m with
  | nil => exact .nil _
  | cons node rest ih =>
    have hfirst := announces_processRoute routeId m adapter info.receptionTime
      ⟨⟨node.identifier, node.address⟩, info.adapter, info.sender⟩ (directJumps ++ node.jumps)
    simpa [processNodes, eventsAbout] using hfirst.append (ih _ _)

/-- Setting the persistent flag leaves the online flag as it is. -/
theorem onlineState_processPersistentRoute {adapterManager : AdapterManager}
    {route : PersistentRoute} {adapter : Adapter}
    (h : adapterManager.findAdapterByAddress route.identifier.adapter = .ok adapter)
    (m : RouteManager) (time : TimePoint) (guid : AdapterGuid) (routeId : RouteIdentifier) :
    (m.processPersistentRoute adapterManager route time).2.2.onlineState guid routeId =
      (m.processRoute adapter time route.identifier [route.metric]).2.2.onlineState guid
        routeId := by
  rw [onlineState, onlineState, find_processPersistentRoute h, find_processRoute]
  split_ifs with hnamed
  · obtain ⟨-, rfl⟩ := hnamed
    rfl
  · rfl

/-- A call that reports, about a route of the adapter it reports on. -/
theorem announces_call {routeCall : RouteCall} {announced : Announcement}
    (h : routeCall.announcement = some announced) (m : RouteManager) :
    Announces (m.onlineState announced.adapter.guid routeId)
      (eventsAbout routeId (m.call routeCall).2.1)
      ((m.after routeCall).onlineState announced.adapter.guid routeId) := by
  cases routeCall with
  | update t => contradiction
  | discoveryMessage adapterManager message info =>
    cases hfound : adapterManager.findAdapterByAddress info.adapter with
    | error text => simp [RouteCall.announcement, hfound] at h
    | ok adapter =>
      obtain rfl : ⟨adapter, info.receptionTime, reports message info⟩ = announced := by
        simpa [RouteCall.announcement, hfound] using h
      have hfirst := announces_processRoute routeId m adapter info.receptionTime
        ⟨⟨message.identifier, info.sender⟩, info.adapter, info.sender⟩ directJumps
      simpa [after, call, processDiscoveryMessage, hfound, eventsAbout] using
        hfirst.append (announces_processNodes adapter info _ _ message.nodes)
  | persistentRoute adapterManager route time =>
    cases hfound : adapterManager.findAdapterByAddress route.identifier.adapter with
    | error text => simp [RouteCall.announcement, hfound] at h
    | ok adapter =>
      obtain rfl : ⟨adapter, time, [⟨route.identifier, [route.metric]⟩]⟩ = announced := by
        simpa [RouteCall.announcement, hfound] using h
      have hevents : (m.call (.persistentRoute adapterManager route time)).2.1 =
          (m.processRoute adapter time route.identifier [route.metric]).2.1 := by
        rw [call, processPersistentRoute_eq hfound]
      rw [hevents]
      have hreport := announces_processRoute routeId m adapter time route.identifier [route.metric]
      exact hreport.of_eq (onlineState_processPersistentRoute hfound ..).symm

-- ---------------------------------------------------------------------------
-- Updates
-- ---------------------------------------------------------------------------

theorem identifier_of_mem_updateRoute {currentTime : TimePoint} {route : Route}
    {event : RouteEvent} (h : event ∈ (updateRoute currentTime route).1) :
    event.route.identifier = route.identifier := by
  rw [updateRoute] at h
  split_ifs at h <;> simp_all [RouteEvent.route]

theorem eventsAbout_updateRoute (currentTime : TimePoint) (route : Route) :
    eventsAbout routeId (updateRoute currentTime route).1 =
      if route.identifier = routeId then (updateRoute currentTime route).1 else [] := by
  split_ifs with hid
  · apply List.filter_eq_self.mpr
    intro event hevent
    simp [identifier_of_mem_updateRoute hevent, hid]
  · apply List.filter_eq_nil_iff.mpr
    intro event hevent
    simp [identifier_of_mem_updateRoute hevent, hid]

theorem flatMap_of_nodup {routes : Routes} (hroutes : (routes.map Route.identifier).Nodup)
    (f : Route → List RouteEvent) (routeId : RouteIdentifier) :
    (routes.flatMap fun route => if route.identifier = routeId then f route else []) =
      (routes.find? (·.identifier = routeId)).elim [] f := by
  induction routes with
  | nil => rfl
  | cons first rest ih =>
    obtain ⟨hfirst, hrest⟩ := List.nodup_cons.mp hroutes
    by_cases hid : first.identifier = routeId
    · have hnone : (rest.flatMap fun route =>
          if route.identifier = routeId then f route else []) = [] := by
        apply List.flatMap_eq_nil_iff.mpr
        intro route hroute
        apply if_neg
        intro heq
        exact hfirst (hid ▸ heq ▸ List.mem_map_of_mem hroute)
      simp [hid, hnone]
    · simp [hid, ih hrest]

theorem signalsAbout_update (hm : m.Distinct) (currentTime : TimePoint) :
    signalsAbout guid routeId (m.signalled (.update currentTime)) =
      (m.find guid routeId).elim [] fun route => (updateRoute currentTime route).1 := by
  have hentries : signalsAbout guid routeId (m.signalled (.update currentTime)) =
      m.adapterRoutes.toList.flatMap fun entry =>
        if entry.1 = guid then entry.2.flatMap fun route =>
          if route.identifier = routeId then (updateRoute currentTime route).1 else []
        else [] := by
    simp only [signalled, signalsAbout_flatMap, signalsAbout_map, eventsAbout_updateRoute]
    congr 1
    funext entry
    split_ifs <;> simp
  rw [hentries, flatMap_toList_of_key (k := guid)]
  · rw [find, ← flatMap_of_nodup (hm guid), findRoutesOnAdapter]
    cases m.adapterRoutes[guid]? <;> simp
  · rintro entry - hne
    exact if_neg hne

theorem announces_updateRoute (currentTime : TimePoint) (route : Route) :
    Announces (some route.status.online) (updateRoute currentTime route).1
      (some (updateRoute currentTime route).2.status.online) := by
  rw [updateRoute]
  cases honline : route.status.online <;> cases isRouteOnline route currentTime
  all_goals simp [honline]
  · exact .nil _
  · exact .single ⟨rfl, rfl⟩ rfl
  · exact .single ⟨rfl, rfl⟩ rfl
  · exact .nil _

-- ---------------------------------------------------------------------------
-- Runs
-- ---------------------------------------------------------------------------

theorem announces_after (hm : m.Distinct) (routeCall : RouteCall) :
    Announces (m.onlineState guid routeId) (signalsAbout guid routeId (m.signalled routeCall))
      ((m.after routeCall).onlineState guid routeId) := by
  have hreport : ∀ c : RouteCall, (∀ t, c ≠ .update t) →
      Announces (m.onlineState guid routeId)
        (signalsAbout guid routeId (c.announcement.elim [] fun announced =>
          (m.call c).2.1.map fun event => (announced.adapter.guid, event)))
        ((m.after c).onlineState guid routeId) := by
    intro c hne
    have hsame : c.namedAt guid routeId = none →
        Announces (m.onlineState guid routeId) [] ((m.after c).onlineState guid routeId) := by
      intro hnamed
      rw [onlineState, onlineState, find_after, entryAfter_of_namedAt_none hnamed hne]
      exact .nil _
    cases h : c.announcement with
    | none => exact hsame (by simp [RouteCall.namedAt, h])
    | some announced =>
      simp only [Option.elim_some, signalsAbout_map]
      split_ifs with hguid
      · subst hguid
        exact announces_call h m
      · exact hsame (by simp [RouteCall.namedAt, h, Option.filter, hguid])
  cases routeCall with
  | update t =>
    rw [signalsAbout_update hm, onlineState, onlineState, find_after, entryAfter]
    cases m.find guid routeId with
    | none => exact .nil _
    | some route => exact announces_updateRoute t route
  | discoveryMessage adapterManager message info =>
    exact hreport (.discoveryMessage adapterManager message info) (by simp)
  | persistentRoute adapterManager route time =>
    exact hreport (.persistentRoute adapterManager route time) (by simp)

def signals : RouteManager → List RouteCall → List (AdapterGuid × RouteEvent)
  | _, [] => []
  | m, routeCall :: rest => m.signalled routeCall ++ signals (m.after routeCall) rest

theorem announces_signals (hm : m.Distinct) (history : List RouteCall) (guid : AdapterGuid)
    (routeId : RouteIdentifier) :
    Announces (m.onlineState guid routeId) (signalsAbout guid routeId (m.signals history))
      ((history.foldl after m).onlineState guid routeId) := by
  induction history generalizing m with
  | nil => exact .nil _
  | cons routeCall rest ih =>
    rw [signals, signalsAbout_append]
    exact (announces_after hm routeCall).append (ih (hm.after routeCall))

theorem announces_run (history : List RouteCall) (guid : AdapterGuid) (routeId : RouteIdentifier) :
    Announces none (signalsAbout guid routeId (signals {} history))
      ((run history).onlineState guid routeId) := by
  have hannounced := announces_signals distinct_empty history guid routeId
  have hstart : onlineState guid routeId {} = none := by simp [onlineState]
  rw [hstart] at hannounced
  exact hannounced

/-- Everything that is raised by the calls. -/
def raised : RouteManager → List RouteCall → List RouteEvent
  | _, [] => []
  | m, routeCall :: rest => (m.call routeCall).2.1 ++ raised (m.after routeCall) rest

theorem map_snd_signals (m : RouteManager) (history : List RouteCall) :
    (m.signals history).map Prod.snd = m.raised history := by
  induction history generalizing m with
  | nil => rfl
  | cons routeCall rest ih => simp [signals, raised, ih, map_snd_signalled]

end RouteManager

open RouteManager RouteEvent

/-- What is raised from the start on, over any calls. Something was raised
about a route exactly if a successful call named it. About a route that is
not in the list of an adapter nothing was raised. About one that is the
first signal told that it is new, and the others that it went offline and
online in turn, each from the state it was in, and the last one to the state
it is in now. -/
theorem route_signals (history : List RouteCall) :
    (signals {} history).map Prod.snd = raised {} history ∧
    ∀ (guid : AdapterGuid) (routeId : RouteIdentifier),
      (signalsAbout guid routeId (signals {} history) ≠ [] ↔
        namings guid routeId history ≠ []) ∧
      ((run history).find guid routeId = none →
        signalsAbout guid routeId (signals {} history) = []) ∧
      ∀ route, (run history).find guid routeId = some route →
        ∃ first rest, signalsAbout guid routeId (signals {} history) = .new first :: rest ∧
          first.status.online = true ∧ Alternates true rest route.status.online := by
  refine ⟨map_snd_signals {} history, fun guid routeId => ?_⟩
  have hannounced := announces_run history guid routeId
  cases hfound : (run history).find guid routeId with
  | none =>
    have hstate : onlineState guid routeId (run history) = none := by simp [onlineState, hfound]
    have hnil : signalsAbout guid routeId (signals {} history) = [] := by
      rw [hstate] at hannounced
      rcases leads_from_none hannounced with ⟨hnil, -⟩ | ⟨first, rest, -, -, hrest⟩
      · exact hnil
      · obtain ⟨online, honline⟩ := some_of_leads hrest
        contradiction
    have hnamings := (find_run_eq_none_iff history guid routeId).mp hfound
    exact ⟨by simp [hnil, hnamings], fun _ => hnil, by simp⟩
  | some route =>
    have hstate : onlineState guid routeId (run history) = some route.status.online := by
      simp [onlineState, hfound]
    have hnamings : namings guid routeId history ≠ [] := by
      simp [← find_run_eq_none_iff, hfound]
    rw [hstate] at hannounced
    rcases leads_from_none hannounced with ⟨-, hnone⟩ | ⟨first, rest, hsignals, honline, hrest⟩
    · contradiction
    · refine ⟨by simp [hsignals, hnamings], by simp, ?_⟩
      rintro _ ⟨⟩
      exact ⟨first, rest, hsignals, honline, alternates_of_leads hrest⟩

end Discnet
