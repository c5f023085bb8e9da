import Discnet.AdapterManager
import Discnet.Lib.Run
import Mathlib.Logic.Function.Basic

/-!
# Listening to the adapters

A listener that knows nothing at first and follows the events knows what the
manager knows: every event finds the listener with the table the manager
had when it raised the event.
-/

namespace Discnet

open Lib

/-- The adapters by mac address, as somebody outside keeps them. -/
abbrev AdapterTable := AdapterGuid → Option Adapter

namespace AdapterTable

def empty : AdapterTable := fun _ => none

def follow (held : AdapterTable) : AdapterEvent → AdapterTable
  | .new adapter => Function.update held adapter.macAddress (some adapter)
  | .changed _ current => Function.update held current.macAddress (some current)
  | .removed adapter => Function.update held adapter.macAddress none

/-- What is new is not held yet, and what changes or goes is held as the
event says. -/
def Expects (held : AdapterTable) : AdapterEvent → Prop
  | .new adapter => held adapter.macAddress = none
  | .changed previous current =>
    previous.macAddress = current.macAddress ∧ held previous.macAddress = some previous ∧
      current ≠ previous
  | .removed adapter => held adapter.macAddress = some adapter

/-- Each event is one the table expects, and together they lead to the other
table. -/
abbrev Follows (held : AdapterTable) (events : List AdapterEvent) (known : AdapterTable) : Prop :=
  Leads follow Expects held events known

end AdapterTable

namespace AdapterManager

open AdapterTable

def table (m : AdapterManager) : AdapterTable := fun mac => m.adapters[mac]?

def updates : List (List Adapter) → AdapterManager → List AdapterEvent × AdapterManager
  | [], m => ([], m)
  | fetched :: rest, m =>
    let first := m.update fetched
    let others := updates rest first.2
    (first.1 ++ others.1, others.2)

theorem table_insert (m : AdapterManager) (current : Adapter) :
    table ⟨m.adapters.insert current.macAddress current⟩ =
      Function.update m.table current.macAddress (some current) := by
  funext mac
  simp only [table, Std.TreeMap.getElem?_insert, Std.compare_eq_iff_eq, Function.update_apply,
    eq_comm (a := mac)]

/-- One pass of the first loop. -/
theorem follows_updateAdapter (hm : KeyedByMac m) (current : Adapter) :
    m.table.Follows (m.updateAdapter current).1 (m.updateAdapter current).2.table := by
  simp only [updateAdapter]
  cases h : m.adapters[current.macAddress]? with
  | none => exact .single h (table_insert m current).symm
  | some existing =>
    have hmac : existing.macAddress = current.macAddress := hm _ _ h
    dsimp only
    split_ifs with hne hdiff
    · refine .single ⟨hmac, ?_, hne⟩ (table_insert m current).symm
      rw [hmac]
      exact h
    · exact .nil _
    · exact .nil _

theorem follows_updateAdapters (hm : KeyedByMac m) (fetched : List Adapter) :
    KeyedByMac (m.updateAdapters fetched).2 ∧
      m.table.Follows (m.updateAdapters fetched).1 (m.updateAdapters fetched).2.table := by
  induction fetched generalizing m with
  | nil => exact ⟨hm, .nil _⟩
  | cons current rest ih =>
    obtain ⟨hkeyed, hrest⟩ := ih (hm.updateAdapter current)
    exact ⟨hkeyed, (follows_updateAdapter hm current).append hrest⟩

/-- Entries with different keys are removed one after the other: what is
removed is still held. -/
theorem follows_removed {entries : List (AdapterGuid × Adapter)} {held : AdapterTable}
    (hkeys : entries.Pairwise fun a b => a.1 ≠ b.1)
    (hheld : ∀ entry ∈ entries, held entry.1 = some entry.2 ∧ entry.2.macAddress = entry.1) :
    held.Follows (entries.map fun entry => .removed entry.2)
      fun mac => if mac ∈ entries.map Prod.fst then none else held mac := by
  induction entries generalizing held with
  | nil => exact (Leads.nil held).of_eq (by simp)
  | cons entry rest ih =>
    obtain ⟨hentry, hrest⟩ := List.pairwise_cons.mp hkeys
    obtain ⟨⟨hhead, hmac⟩, htail⟩ := List.forall_mem_cons.mp hheld
    have hfirst : held.Expects (.removed entry.2) := by
      rw [← hmac] at hhead
      exact hhead
    refine .cons hfirst ((ih hrest ?_).of_eq ?_)
    · intro other hother
      obtain ⟨hsome, hmacOther⟩ := htail other hother
      have hne : other.1 ≠ entry.2.macAddress := hmac ▸ (hentry other hother).symm
      exact ⟨by simp [follow, Function.update_of_ne hne, hsome], hmacOther⟩
    · funext mac
      simp only [follow, hmac, Function.update_apply, List.map_cons, List.mem_cons]
      by_cases hmem : mac ∈ rest.map Prod.fst
      · simp [hmem]
      · simp [hmem]

/-- The second loop. -/
theorem follows_removeMissing (hm : KeyedByMac m) (fetched : List Adapter) :
    m.table.Follows (removeMissing fetched m).1 (removeMissing fetched m).2.table := by
  have hmissing : ∀ mac adapter, (mac, adapter) ∈ m.adapters.toList.filter
      (fun entry => !isFetched fetched entry.1) ↔
      m.adapters[mac]? = some adapter ∧ isFetched fetched mac = false := by
    simp [Std.TreeMap.mem_toList_iff_getElem?_eq_some]
  refine (follows_removed ((pairwise_keys_toList m.adapters).filter _) ?_).of_eq ?_
  · rintro ⟨mac, adapter⟩ hentry
    obtain ⟨hsome, -⟩ := (hmissing mac adapter).mp hentry
    exact ⟨hsome, hm _ _ hsome⟩
  · funext mac
    simp only [table, adapters_removeMissing, List.mem_map, Prod.exists, hmissing]
    cases hfetched : isFetched fetched mac with
    | true => simp [hfetched]
    | false => cases h : m.adapters[mac]? <;> simp [h, hfetched]

theorem KeyedByMac.removeMissing (hm : KeyedByMac m) (fetched : List Adapter) :
    KeyedByMac (removeMissing fetched m).2 := by
  intro mac adapter h
  rw [adapters_removeMissing] at h
  split_ifs at h
  exact hm _ _ h

/-- What holds after an update whatever was fetched, the same mac address
more than once included. -/
theorem follows_update (hm : KeyedByMac m) (fetched : List Adapter) :
    KeyedByMac (m.update fetched).2 ∧
      m.table.Follows (m.update fetched).1 (m.update fetched).2.table := by
  obtain ⟨hkeyed, hupdated⟩ := follows_updateAdapters hm fetched
  exact ⟨hkeyed.removeMissing fetched, hupdated.append (follows_removeMissing hkeyed fetched)⟩

theorem follows_updates (hm : KeyedByMac m) (history : List (List Adapter)) :
    m.table.Follows (updates history m).1 (updates history m).2.table := by
  induction history generalizing m with
  | nil => exact .nil _
  | cons fetched rest ih =>
    obtain ⟨hkeyed, hfirst⟩ := follows_update hm fetched
    exact hfirst.append (ih hkeyed)

end AdapterManager

open AdapterManager AdapterTable

/-- The events of any number of updates, with whatever the fetcher returned,
replay to the adapters of the manager: each is one that the listener expects
when it is raised, and after them the listener holds what the manager holds. -/
theorem adapter_events_replay (history : List (List Adapter)) :
    empty.Follows (updates history ⟨∅⟩).1 fun mac => (updates history ⟨∅⟩).2.adapters[mac]? := by
  have hnone : table ⟨∅⟩ = empty := by
    funext mac
    simp [table, empty]
  have hkeyed : KeyedByMac ⟨∅⟩ := by
    intro mac adapter h
    simp at h
  rw [← hnone]
  exact follows_updates hkeyed history

end Discnet
