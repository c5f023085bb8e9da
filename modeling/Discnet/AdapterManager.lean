import Discnet.Typedefs
import Discnet.Lib.Entries
import Mathlib.Data.List.Nodup

/-!
# Adapters

The adapter manager keeps the adapters of the host by mac address. An update
compares what was fetched with what is known and raises one event for each
adapter that is new, changed or gone. A change of the loopback flag alone is
no change to it: the comparison that decides about the event leaves it out.
-/

namespace Discnet

abbrev AdapterGuid := String

structure Adapter where
  guid : AdapterGuid := ""
  macAddress : String := ""
  index : UInt8 := 0
  name : String := ""
  description : String := ""
  loopback : Bool := false
  enabled : Bool := false
  addressList : List (Address × Address) := []
  gateway : Address := .any
  mtu : UInt32 := 0
  deriving DecidableEq, Repr

instance : ToString Address := ⟨Address.toString⟩

namespace Adapter

-- ---------------------------------------------------------------------------
-- Differences
-- ---------------------------------------------------------------------------

def countBits : Nat → Nat → Nat
  | 0, _ => 0
  | k + 1, n => n % 2 + countBits k (n / 2)

def maskToCidr (mask : Address) : Nat := countBits 32 mask.toUInt.toNat

def ipv4Info (adapter : Adapter) : String :=
  let result := adapter.addressList.foldl (fun result entry =>
    (if result.isEmpty then result ++ "\x7b" else result ++ " ") ++
      s!"{entry.1}/{maskToCidr entry.2}") ""
  (if result.isEmpty then result ++ "\x7b" else result) ++ "\x7d"

def ipv4Diff (lhs rhs : Adapter) : List String :=
  [s!"  prev: {ipv4Info lhs}", s!"  curr: {ipv4Info rhs}"]

/-- The line about a field of two adapters, if they differ in it. -/
def fieldDiff {α : Type} [DecidableEq α] [ToString α] (field : String) (lhs rhs : α) :
    List String :=
  if lhs ≠ rhs then [s!"{field}: {lhs} => {rhs}"] else []

/-- What differs between two adapters, field by field. The loopback flag is
not among the fields. -/
def adapterDiff (lhs rhs : Adapter) : List String :=
  fieldDiff "guid" lhs.guid rhs.guid ++
  fieldDiff "mac" lhs.macAddress rhs.macAddress ++
  fieldDiff "name" lhs.name rhs.name ++
  fieldDiff "index" lhs.index rhs.index ++
  fieldDiff "description" lhs.description rhs.description ++
  fieldDiff "adapter enabled" lhs.enabled rhs.enabled ++
  fieldDiff "mtu" lhs.mtu rhs.mtu ++
  fieldDiff "gateway" lhs.gateway rhs.gateway ++
  if lhs.addressList ≠ rhs.addressList then "ipv4: changed (*)" :: ipv4Diff lhs rhs else []

/-- The adapters agree in everything but the loopback flag. -/
def AgreeUpToLoopback (lhs rhs : Adapter) : Prop :=
  { lhs with loopback := rhs.loopback } = rhs

@[simp] theorem fieldDiff_eq_nil {α : Type} [DecidableEq α] [ToString α] {field : String}
    {lhs rhs : α} : fieldDiff field lhs rhs = [] ↔ lhs = rhs := by
  by_cases h : lhs = rhs <;> simp [fieldDiff, h]

theorem adapterDiff_eq_nil {lhs rhs : Adapter} :
    adapterDiff lhs rhs = [] ↔ lhs.AgreeUpToLoopback rhs := by
  cases lhs
  cases rhs
  simp only [adapterDiff, AgreeUpToLoopback, List.append_eq_nil_iff, fieldDiff_eq_nil,
    Adapter.mk.injEq, ite_eq_right_iff, reduceCtorEq, imp_false, ne_eq, not_not]
  tauto

theorem AgreeUpToLoopback.addressList_eq {lhs rhs : Adapter} (h : lhs.AgreeUpToLoopback rhs) :
    lhs.addressList = rhs.addressList := by
  have hfield := congrArg addressList (show { lhs with loopback := rhs.loopback } = rhs from h)
  exact hfield

end Adapter

-- ---------------------------------------------------------------------------
-- The manager
-- ---------------------------------------------------------------------------

/-- What the manager tells its listeners. -/
inductive AdapterEvent
  | new (adapter : Adapter)
  | changed (previous current : Adapter)
  | removed (adapter : Adapter)
  deriving DecidableEq, Repr

def AdapterEvent.macAddress : AdapterEvent → AdapterGuid
  | new adapter => adapter.macAddress
  | changed _ current => current.macAddress
  | removed adapter => adapter.macAddress

/-- A change does not concern two adapters. -/
def AdapterEvent.AboutOne : AdapterEvent → Prop
  | changed previous current => previous.macAddress = current.macAddress
  | _ => True

structure AdapterManager where
  adapters : Std.TreeMap AdapterGuid Adapter

open Lib

namespace AdapterManager

/-- One pass of the loop over the fetched adapters. -/
def updateAdapter (m : AdapterManager) (current : Adapter) : List AdapterEvent × AdapterManager :=
  match m.adapters[current.macAddress]? with
  | some existing =>
    if current ≠ existing then
      if (Adapter.adapterDiff existing current).length ≠ 0 then
        ([.changed existing current], ⟨m.adapters.insert current.macAddress current⟩)
      else ([], m)
    else ([], m)
  | none => ([.new current], ⟨m.adapters.insert current.macAddress current⟩)

def updateAdapters : AdapterManager → List Adapter → List AdapterEvent × AdapterManager
  | m, [] => ([], m)
  | m, current :: rest =>
    let first := m.updateAdapter current
    let others := updateAdapters first.2 rest
    (first.1 ++ others.1, others.2)

def isFetched (fetched : List Adapter) (mac : AdapterGuid) : Bool :=
  fetched.any fun adapter => adapter.macAddress == mac

/-- The loop over the known adapters: those that were not fetched go. -/
def removeMissing (fetched : List Adapter) (m : AdapterManager) :
    List AdapterEvent × AdapterManager :=
  ((m.adapters.toList.filter fun entry => !isFetched fetched entry.1).map fun entry =>
      .removed entry.2,
    ⟨m.adapters.filter fun mac _ => isFetched fetched mac⟩)

def update (fetched : List Adapter) (m : AdapterManager) : List AdapterEvent × AdapterManager :=
  let updated := m.updateAdapters fetched
  let removed := removeMissing fetched updated.2
  (updated.1 ++ removed.1, removed.2)

/-- The first adapter, in the order of the mac addresses, that has the
address. -/
def findAdapterByAddress (m : AdapterManager) (address : Address) : Except String Adapter :=
  match m.adapters.values.find? fun adapter => adapter.addressList.any (·.1 == address) with
  | some adapter => .ok adapter
  | none => .error s!"failed to find adapter by address: {address}"

def findAdapter (m : AdapterManager) (id : AdapterGuid) : Except String Adapter :=
  match m.adapters[id]? with
  | some adapter => .ok adapter
  | none => .error s!"failed to find adapter by id: {id}"

-- ---------------------------------------------------------------------------
-- What an update does to one adapter
-- ---------------------------------------------------------------------------

def fetchedAt (fetched : List Adapter) (mac : AdapterGuid) : Option Adapter :=
  fetched.find? fun adapter => adapter.macAddress == mac

def DistinctMacs (fetched : List Adapter) : Prop := (fetched.map Adapter.macAddress).Nodup

def KeyedByMac (m : AdapterManager) : Prop :=
  ∀ (mac : AdapterGuid) (adapter : Adapter),
    m.adapters[mac]? = some adapter → adapter.macAddress = mac

/-- What is raised about an adapter, given what is known and what was
fetched. -/
def eventsBetween : Option Adapter → Option Adapter → List AdapterEvent
  | none, none => []
  | none, some current => [.new current]
  | some existing, some current =>
    if Adapter.adapterDiff existing current = [] then [] else [.changed existing current]
  | some existing, none => [.removed existing]

/-- What is known about it afterwards. -/
def knownAfter : Option Adapter → Option Adapter → Option Adapter
  | _, none => none
  | none, some current => some current
  | some existing, some current =>
    if Adapter.adapterDiff existing current = [] then some existing else some current

def eventsFor (mac : AdapterGuid) (events : List AdapterEvent) : List AdapterEvent :=
  events.filter (·.macAddress = mac)

@[simp] theorem eventsFor_append (mac : AdapterGuid) (events others : List AdapterEvent) :
    eventsFor mac (events ++ others) = eventsFor mac events ++ eventsFor mac others :=
  List.filter_append ..

theorem adapterDiff_self (adapter : Adapter) : Adapter.adapterDiff adapter adapter = [] :=
  Adapter.adapterDiff_eq_nil.mpr rfl

theorem mac_of_fetchedAt (h : fetchedAt fetched mac = some adapter) :
    adapter.macAddress = mac := by
  simpa using List.find?_some h

theorem fetchedAt_cons (current : Adapter) (rest : List Adapter) (mac : AdapterGuid) :
    fetchedAt (current :: rest) mac =
      if current.macAddress = mac then some current else fetchedAt rest mac := by
  by_cases h : current.macAddress = mac <;> simp [fetchedAt, h]

theorem isFetched_eq (fetched : List Adapter) (mac : AdapterGuid) :
    isFetched fetched mac = (fetchedAt fetched mac).isSome := by
  rw [isFetched, fetchedAt, List.isSome_find?]

variable {m : AdapterManager} {mac : AdapterGuid} {fetched : List Adapter}

theorem eventsFor_updateAdapter (m : AdapterManager) (current : Adapter) (mac : AdapterGuid) :
    eventsFor mac (m.updateAdapter current).1 =
      if current.macAddress = mac then eventsBetween m.adapters[mac]? (some current) else [] := by
  rw [updateAdapter]
  by_cases hmac : current.macAddress = mac
  · subst hmac
    rw [if_pos rfl]
    cases h : m.adapters[current.macAddress]? with
    | none => simp [eventsBetween, eventsFor, AdapterEvent.macAddress]
    | some existing =>
      by_cases hdiff : Adapter.adapterDiff existing current = []
      · simp [eventsBetween, eventsFor, hdiff]
      · have hne : current ≠ existing := by
          rintro rfl
          exact hdiff (adapterDiff_self _)
        simp [eventsBetween, eventsFor, hdiff, hne, AdapterEvent.macAddress]
  · rw [if_neg hmac]
    cases h : m.adapters[current.macAddress]? with
    | none => simp [eventsFor, AdapterEvent.macAddress, hmac]
    | some existing =>
      dsimp only
      split_ifs <;> simp [eventsFor, AdapterEvent.macAddress, hmac]

theorem adapters_updateAdapter (current : Adapter) (mac : AdapterGuid) :
    (m.updateAdapter current).2.adapters[mac]? =
      if current.macAddress = mac then knownAfter m.adapters[mac]? (some current)
      else m.adapters[mac]? := by
  have hinsert : (m.adapters.insert current.macAddress current)[mac]? =
      if current.macAddress = mac then some current else m.adapters[mac]? := by
    simp only [Std.TreeMap.getElem?_insert, Std.compare_eq_iff_eq]
  rw [updateAdapter]
  by_cases hmac : current.macAddress = mac
  · subst hmac
    rw [if_pos rfl] at hinsert ⊢
    cases h : m.adapters[current.macAddress]? with
    | none => exact hinsert
    | some existing =>
      by_cases hdiff : Adapter.adapterDiff existing current = []
      · simp [knownAfter, hdiff, h]
      · have hne : current ≠ existing := by
          rintro rfl
          exact hdiff (adapterDiff_self _)
        simp [knownAfter, hdiff, hne]
  · rw [if_neg hmac] at hinsert ⊢
    cases h : m.adapters[current.macAddress]? with
    | none => exact hinsert
    | some existing =>
      dsimp only
      split_ifs
      · exact hinsert
      · rfl
      · rfl

/-- What is known afterwards was known before or is current. -/
theorem mac_knownAfter {before now : Option Adapter}
    (hbefore : ∀ adapter, before = some adapter → adapter.macAddress = mac)
    (hnow : ∀ adapter, now = some adapter → adapter.macAddress = mac)
    (h : knownAfter before now = some adapter) : adapter.macAddress = mac := by
  cases now with
  | none => simp [knownAfter] at h
  | some current =>
    cases before with
    | none => exact hnow adapter h
    | some existing =>
      rw [knownAfter] at h
      split_ifs at h
      · exact hbefore adapter h
      · exact hnow adapter h

theorem KeyedByMac.updateAdapter (hm : m.KeyedByMac) (current : Adapter) :
    (m.updateAdapter current).2.KeyedByMac := by
  intro mac adapter h
  rw [adapters_updateAdapter] at h
  split_ifs at h with hmac
  · refine mac_knownAfter (hm mac) ?_ h
    rintro _ ⟨⟩
    exact hmac
  · exact hm _ _ h

theorem fetchedAt_of_notMem (h : mac ∉ fetched.map Adapter.macAddress) :
    fetchedAt fetched mac = none := by
  rw [fetchedAt, List.find?_eq_none]
  intro adapter hadapter heq
  exact h (List.mem_map.mpr ⟨adapter, hadapter, by simpa using heq⟩)

theorem updateAdapters_at (hm : m.KeyedByMac) (hfetched : DistinctMacs fetched)
    (mac : AdapterGuid) :
    (m.updateAdapters fetched).2.KeyedByMac ∧
      eventsFor mac (m.updateAdapters fetched).1 =
        (fetchedAt fetched mac).elim [] (fun current =>
          eventsBetween m.adapters[mac]? (some current)) ∧
      (m.updateAdapters fetched).2.adapters[mac]? =
        (fetchedAt fetched mac).elim m.adapters[mac]? (fun current =>
          knownAfter m.adapters[mac]? (some current)) := by
  induction fetched generalizing m with
  | nil => exact ⟨hm, rfl, rfl⟩
  | cons current rest ih =>
    obtain ⟨hcurrent, hrest⟩ := List.nodup_cons.mp hfetched
    obtain ⟨hkeyed, hevents, hknown⟩ := ih (hm.updateAdapter current) hrest
    refine ⟨hkeyed, ?_⟩
    rw [updateAdapters, eventsFor_append, eventsFor_updateAdapter, hevents, hknown,
      adapters_updateAdapter, fetchedAt_cons]
    by_cases hmac : current.macAddress = mac
    · have hnone : fetchedAt rest mac = none := fetchedAt_of_notMem (hmac ▸ hcurrent)
      simp [hmac, hnone]
    · simp [hmac]

theorem eventsFor_removeMissing (hm : m.KeyedByMac) (fetched : List Adapter) (mac : AdapterGuid) :
    eventsFor mac (removeMissing fetched m).1 =
      if isFetched fetched mac then [] else (m.adapters[mac]?).elim [] fun known =>
        [.removed known] := by
  have hkeys : ∀ entry ∈ m.adapters.toList, entry.2.macAddress = entry.1 := by
    intro entry hentry
    exact hm _ _ (Std.TreeMap.mem_toList_iff_getElem?_eq_some.mp hentry)
  rw [eventsFor, removeMissing, List.filter_map, List.filter_filter,
    filter_toList_of_key (k := mac)]
  · cases h : m.adapters[mac]? with
    | none => simp
    | some known =>
      have hmac := hm _ _ h
      cases hf : isFetched fetched mac <;> simp [AdapterEvent.macAddress, hmac, hf]
  · intro entry hentry hp
    obtain ⟨hmac, -⟩ := Bool.and_eq_true_iff.mp hp
    exact (hkeys entry hentry).symm.trans (of_decide_eq_true hmac)

theorem adapters_removeMissing (m : AdapterManager) (fetched : List Adapter) (mac : AdapterGuid) :
    (removeMissing fetched m).2.adapters[mac]? =
      if isFetched fetched mac then m.adapters[mac]? else none := by
  rw [removeMissing, Std.TreeMap.getElem?_filter']
  cases m.adapters[mac]? <;> cases isFetched fetched mac <;> rfl

/-- What an update raises about an adapter is what happened to it. -/
theorem eventsFor_update (hm : m.KeyedByMac) (hfetched : DistinctMacs fetched)
    (mac : AdapterGuid) :
    eventsFor mac (m.update fetched).1 =
      eventsBetween m.adapters[mac]? (fetchedAt fetched mac) := by
  obtain ⟨hkeyed, hevents, hknown⟩ := updateAdapters_at hm hfetched mac
  rw [update, eventsFor_append, hevents, eventsFor_removeMissing hkeyed, hknown, isFetched_eq]
  cases fetchedAt fetched mac with
  | some current => simp
  | none => cases m.adapters[mac]? <;> rfl

theorem adapters_update (hm : m.KeyedByMac) (hfetched : DistinctMacs fetched)
    (mac : AdapterGuid) :
    (m.update fetched).2.adapters[mac]? =
      knownAfter m.adapters[mac]? (fetchedAt fetched mac) := by
  obtain ⟨-, -, hknown⟩ := updateAdapters_at hm hfetched mac
  rw [update, adapters_removeMissing, hknown, isFetched_eq]
  cases fetchedAt fetched mac with
  | some current => rfl
  | none => cases m.adapters[mac]? <;> rfl

theorem KeyedByMac.update (hm : m.KeyedByMac) (hfetched : DistinctMacs fetched) :
    (m.update fetched).2.KeyedByMac := by
  intro mac adapter h
  rw [adapters_update hm hfetched] at h
  exact mac_knownAfter (hm mac) (fun _ => mac_of_fetchedAt) h

theorem aboutOne_of_mem_update (hm : m.KeyedByMac) (hfetched : DistinctMacs fetched)
    {e : AdapterEvent} (he : e ∈ (m.update fetched).1) : e.AboutOne := by
  have hfor : e ∈ eventsFor e.macAddress (m.update fetched).1 :=
    List.mem_filter.mpr ⟨he, decide_eq_true rfl⟩
  rw [eventsFor_update hm hfetched] at hfor
  cases e with
  | new _ => trivial
  | removed _ => trivial
  | changed previous current =>
    cases hk : m.adapters[(AdapterEvent.changed previous current).macAddress]? with
    | none => cases hf : fetchedAt fetched (AdapterEvent.changed previous current).macAddress <;>
        simp [hk, hf, eventsBetween] at hfor
    | some existing =>
      cases hf : fetchedAt fetched (AdapterEvent.changed previous current).macAddress with
      | none => simp [hk, hf, eventsBetween] at hfor
      | some other =>
        rw [hk, hf, eventsBetween] at hfor
        split_ifs at hfor
        · contradiction
        · cases List.mem_singleton.mp hfor
          exact hm _ _ hk

/-- As long as the same adapters are fetched nothing happens. -/
theorem update_of_known (hm : m.KeyedByMac) (hfetched : DistinctMacs fetched)
    (hknown : ∀ mac : AdapterGuid, m.adapters[mac]? = fetchedAt fetched mac) :
    (m.update fetched).1 = [] ∧
      ∀ mac : AdapterGuid, (m.update fetched).2.adapters[mac]? = m.adapters[mac]? := by
  constructor
  · apply List.eq_nil_iff_forall_not_mem.mpr
    intro e he
    have hfor : e ∈ eventsFor e.macAddress (m.update fetched).1 :=
      List.mem_filter.mpr ⟨he, decide_eq_true rfl⟩
    rw [eventsFor_update hm hfetched, hknown] at hfor
    cases hf : fetchedAt fetched e.macAddress <;>
      simp [hf, eventsBetween, adapterDiff_self] at hfor
  · intro mac
    rw [adapters_update hm hfetched, hknown]
    cases fetchedAt fetched mac with
    | none => rfl
    | some current => rw [knownAfter, if_pos (adapterDiff_self current)]

theorem knownAfter_agrees (existing : Option Adapter) (current : Adapter) :
    ∃ known, knownAfter existing (some current) = some known ∧
      known.AgreeUpToLoopback current := by
  cases existing with
  | none => exact ⟨current, rfl, rfl⟩
  | some existing =>
    rw [knownAfter]
    split_ifs with hdiff
    · exact ⟨existing, rfl, Adapter.adapterDiff_eq_nil.mp hdiff⟩
    · exact ⟨current, rfl, rfl⟩

end AdapterManager

end Discnet
