import Discnet.Lib.Stretch
import Discnet.AdapterReplay
import Discnet.LinuxAdapters

/-!
# Polling the adapters

The adapters are polled over and over. Of the adapters that come with one
mac address only the last should count, but what is compared leaves the
loopback flag out, and an adapter that comes with two addresses is compared
with itself.
-/

namespace Discnet

open Lib Network

namespace Adapter

instance : DecidableRel AgreeUpToLoopback := fun lhs rhs =>
  inferInstanceAs (Decidable ({ lhs with loopback := rhs.loopback } = rhs))

theorem equivalence_agreeUpToLoopback : Equivalence AgreeUpToLoopback where
  refl _ := rfl
  symm := by
    intro lhs rhs h
    rw [AgreeUpToLoopback] at h ⊢
    rw [← h]
  trans := by
    intro first second third h h'
    rw [AgreeUpToLoopback] at h h' ⊢
    rw [← h', ← h]

theorem AgreeUpToLoopback.eq_iff {lhs rhs : Adapter} (h : lhs.AgreeUpToLoopback rhs) :
    lhs = rhs ↔ lhs.loopback = rhs.loopback := by
  constructor
  · rintro rfl
    rfl
  · intro hloopback
    have hsame : { lhs with loopback := rhs.loopback } = rhs := h
    rw [← hsame, ← hloopback]

end Adapter

namespace AdapterManager

open Adapter

variable {m : AdapterManager} {mac : AdapterGuid} {fetched : List Adapter}

def fetchedWith (mac : AdapterGuid) (fetched : List Adapter) : List Adapter :=
  fetched.filter (·.macAddress = mac)

-- ---------------------------------------------------------------------------
-- What an update leaves
-- ---------------------------------------------------------------------------

theorem knownAfter_eq_keepFirst (known : Option Adapter) (current : Adapter) :
    knownAfter known (some current) = keepFirst AgreeUpToLoopback known current := by
  cases known <;> simp [knownAfter, keepFirst, adapterDiff_eq_nil]

theorem adapters_updateAdapters (m : AdapterManager) (fetched : List Adapter)
    (mac : AdapterGuid) :
    (m.updateAdapters fetched).2.adapters[mac]? =
      (fetchedWith mac fetched).foldl (keepFirst AgreeUpToLoopback) m.adapters[mac]? := by
  induction fetched generalizing m with
  | nil => rfl
  | cons current rest ih =>
    rw [updateAdapters, ih, adapters_updateAdapter]
    by_cases hmac : current.macAddress = mac <;>
      simp [fetchedWith, hmac, knownAfter_eq_keepFirst]

/-- The adapters that were seen with a mac address: the one that is known,
and those that are fetched. -/
def seenWith (m : AdapterManager) (mac : AdapterGuid) (fetched : List Adapter) : List Adapter :=
  m.adapters[mac]?.toList ++ fetchedWith mac fetched

theorem adapters_updateAdapters_eq_stretchStart (m : AdapterManager) (fetched : List Adapter)
    (mac : AdapterGuid) :
    (m.updateAdapters fetched).2.adapters[mac]? =
      stretchStart AgreeUpToLoopback (m.seenWith mac fetched) := by
  rw [adapters_updateAdapters, ← foldl_keepFirst equivalence_agreeUpToLoopback, seenWith]
  cases m.adapters[mac]? <;> rfl

theorem isFetched_iff : isFetched fetched mac = true ↔ fetchedWith mac fetched ≠ [] := by
  simp [isFetched, fetchedWith, List.filter_eq_nil_iff]

theorem getLast?_seenWith {last : Adapter} (m : AdapterManager)
    (h : (fetchedWith mac fetched).getLast? = some last) :
    (m.seenWith mac fetched).getLast? = some last := by
  rw [seenWith, List.getLast?_append, h]
  rfl

theorem exists_stretchStart_seenWith {last : Adapter} (m : AdapterManager)
    (h : (fetchedWith mac fetched).getLast? = some last) :
    ∃ first, stretchStart AgreeUpToLoopback (m.seenWith mac fetched) = some first ∧
      first.AgreeUpToLoopback last := by
  have hseen := getLast?_seenWith m h
  have hne : m.seenWith mac fetched ≠ [] := by
    rintro hnil
    rw [hnil] at hseen
    contradiction
  obtain ⟨first, hfirst⟩ := exists_stretchStart equivalence_agreeUpToLoopback hne
  exact ⟨first, hfirst, rel_of_stretchStart hfirst hseen⟩

theorem exists_last_fetchedWith {current : Adapter} (h : current ∈ fetched) :
    ∃ last, (fetchedWith current.macAddress fetched).getLast? = some last ∧ last ∈ fetched ∧
      last.macAddress = current.macAddress := by
  have hmem : current ∈ fetchedWith current.macAddress fetched := by simp [fetchedWith, h]
  have hlast := List.getLast?_eq_some_getLast (List.ne_nil_of_mem hmem)
  obtain ⟨hfetched, hmac⟩ := List.mem_filter.mp (List.mem_of_getLast? hlast)
  exact ⟨_, hlast, hfetched, of_decide_eq_true hmac⟩

/-- The adapter that is kept is the first of those at the end that agree up
to the loopback flag with the last one. -/
theorem adapters_update_of_getLast? {last : Adapter}
    (h : (fetchedWith mac fetched).getLast? = some last) :
    (m.update fetched).2.adapters[mac]? =
      stretchStart AgreeUpToLoopback (m.seenWith mac fetched) := by
  have hfetched : isFetched fetched mac = true := by
    rw [isFetched_iff]
    rintro hnil
    rw [hnil] at h
    contradiction
  rw [update, adapters_removeMissing, hfetched, if_pos rfl,
    adapters_updateAdapters_eq_stretchStart]

theorem adapters_update_of_nil (h : fetchedWith mac fetched = []) :
    (m.update fetched).2.adapters[mac]? = none := by
  have hfetched : isFetched fetched mac ≠ true := fun hf => isFetched_iff.mp hf h
  rw [update, adapters_removeMissing, if_neg hfetched]

/-- An update maps each fetched mac address to the last adapter fetched with
it, and no other, if and only if the first adapter of the final stretch has
the loopback flag of the last one. The comparison of adapters misses this
one field. -/
theorem table_of_last_fetch_iff (m : AdapterManager) (fetched : List Adapter) :
    ((∀ mac : AdapterGuid,
      (m.update fetched).2.adapters[mac]? = (fetchedWith mac fetched).getLast?) ↔
      ∀ mac first last, (fetchedWith mac fetched).getLast? = some last →
        stretchStart AgreeUpToLoopback (m.seenWith mac fetched) = some first →
        first.loopback = last.loopback) ∧
    ∀ lhs rhs, (adapterDiff lhs rhs = [] → lhs = rhs) ↔
      (lhs.AgreeUpToLoopback rhs → lhs.loopback = rhs.loopback) := by
  refine ⟨⟨?_, ?_⟩, ?_⟩
  · intro h mac first last hlast hfirst
    have hkept := h mac
    rw [adapters_update_of_getLast? hlast, hfirst, hlast] at hkept
    cases hkept
    rfl
  · intro h mac
    cases hlast : (fetchedWith mac fetched).getLast? with
    | none => exact adapters_update_of_nil (List.getLast?_eq_none_iff.mp hlast)
    | some last =>
      obtain ⟨first, hfirst, hagree⟩ := exists_stretchStart_seenWith m hlast
      rw [adapters_update_of_getLast? hlast, hfirst,
        hagree.eq_iff.mpr (h mac first last hlast hfirst)]
  · intro lhs rhs
    rw [adapterDiff_eq_nil]
    exact forall_congr' fun hagree => hagree.eq_iff

/-- A network card that turns into a loopback device. -/
def card : Adapter where
  macAddress := "02:00:00:00:00:01"
  addressList := [(⟨0x0a000001⟩, ⟨0xffffff00⟩)]
  enabled := true

def loopbackCard : Adapter := { card with loopback := true }

theorem loopback_not_noticed :
    (((⟨∅⟩ : AdapterManager).update [card]).2.update [loopbackCard]).2.adapters[card.macAddress]? =
        some card ∧
      (fetchedWith card.macAddress [loopbackCard]).getLast? = some loopbackCard ∧
      card ≠ loopbackCard ∧ adapterDiff card loopbackCard = [] := by
  decide +kernel

-- ---------------------------------------------------------------------------
-- Fetching the same again
-- ---------------------------------------------------------------------------

/-- The adapter is known as it was fetched, or but for the loopback flag. -/
def Knows (m : AdapterManager) (current : Adapter) : Prop :=
  ∃ known, m.adapters[current.macAddress]? = some known ∧ known.AgreeUpToLoopback current

theorem updateAdapter_silent_iff {current : Adapter} :
    (m.updateAdapter current).1 = [] ↔ m.Knows current := by
  rw [updateAdapter, Knows]
  cases m.adapters[current.macAddress]? with
  | none => simp
  | some existing =>
    by_cases hagree : existing.AgreeUpToLoopback current
    · simp [adapterDiff_eq_nil.mpr hagree, hagree]
    · have hdiff := mt adapterDiff_eq_nil.mp hagree
      have hne : current ≠ existing := by
        rintro rfl
        exact hagree rfl
      simp [hdiff, hne, hagree]

theorem updateAdapter_of_silent {current : Adapter} (h : (m.updateAdapter current).1 = []) :
    (m.updateAdapter current).2 = m := by
  simp only [updateAdapter] at h ⊢
  cases hk : m.adapters[current.macAddress]? with
  | none =>
    rw [hk] at h
    contradiction
  | some existing =>
    rw [hk] at h
    dsimp only at h ⊢
    split_ifs at h ⊢ <;> first | contradiction | rfl

theorem updateAdapters_silent_iff :
    (m.updateAdapters fetched).1 = [] ↔ ∀ current ∈ fetched, m.Knows current := by
  induction fetched with
  | nil => simp [updateAdapters]
  | cons current rest ih =>
    rw [updateAdapters, List.append_eq_nil_iff, updateAdapter_silent_iff, List.forall_mem_cons]
    refine and_congr_right fun hknown => ?_
    rw [updateAdapter_of_silent (updateAdapter_silent_iff.mpr hknown), ih]

theorem updateAdapters_of_silent (h : (m.updateAdapters fetched).1 = []) :
    (m.updateAdapters fetched).2 = m := by
  induction fetched with
  | nil => rfl
  | cons current rest ih =>
    rw [updateAdapters, List.append_eq_nil_iff] at h
    obtain ⟨hfirst, hrest⟩ := h
    rw [updateAdapter_of_silent hfirst] at hrest
    rw [updateAdapters, updateAdapter_of_silent hfirst]
    exact ih hrest

/-- An update is silent if no adapter is new, changed or gone. -/
theorem update_silent_iff :
    (m.update fetched).1 = [] ↔
      (∀ current ∈ fetched, m.Knows current) ∧
        ∀ mac adapter, m.adapters[mac]? = some adapter → isFetched fetched mac = true := by
  rw [update, List.append_eq_nil_iff, updateAdapters_silent_iff]
  refine and_congr_right fun hknown => ?_
  rw [updateAdapters_of_silent (updateAdapters_silent_iff.mpr hknown), removeMissing,
    List.map_eq_nil_iff, List.filter_eq_nil_iff]
  simp [Prod.forall, Std.TreeMap.mem_toList_iff_getElem?_eq_some]

theorem isFetched_of_update {adapter : Adapter}
    (h : (m.update fetched).2.adapters[mac]? = some adapter) : isFetched fetched mac = true := by
  rw [update, adapters_removeMissing] at h
  split_ifs at h with hfetched
  exact hfetched

theorem adapters_update_of_silent (h : (m.update fetched).1 = []) (mac : AdapterGuid) :
    (m.update fetched).2.adapters[mac]? = m.adapters[mac]? := by
  obtain ⟨hknown, hfetched⟩ := update_silent_iff.mp h
  rw [update, adapters_removeMissing,
    updateAdapters_of_silent (updateAdapters_silent_iff.mpr hknown)]
  split_ifs with hmac
  · rfl
  · cases hk : m.adapters[mac]? with
    | none => rfl
    | some adapter => exact absurd (hfetched mac adapter hk) hmac

/-- After an update a fetched adapter is known as the last one with its mac
address. -/
theorem knows_after_update_iff {current : Adapter} (hcurrent : current ∈ fetched) :
    (m.update fetched).2.Knows current ↔
      ∃ last, (fetchedWith current.macAddress fetched).getLast? = some last ∧
        last.AgreeUpToLoopback current := by
  obtain ⟨last, hlast, -⟩ := exists_last_fetchedWith hcurrent
  obtain ⟨first, hfirst, hagree⟩ := exists_stretchStart_seenWith m hlast
  rw [Knows, adapters_update_of_getLast? hlast, hfirst, hlast]
  constructor
  · rintro ⟨known, hknown, hsame⟩
    cases hknown
    exact ⟨last, rfl, equivalence_agreeUpToLoopback.trans
      (equivalence_agreeUpToLoopback.symm hagree) hsame⟩
  · rintro ⟨other, hother, hsame⟩
    cases hother
    exact ⟨first, rfl, equivalence_agreeUpToLoopback.trans hagree hsame⟩

/-- A second update with the same adapters raises nothing, changes nothing
and leaves the clients of a network handler alone, if and only if adapters
with one mac address are the same up to the loopback flag. -/
theorem second_update_silent_iff (m : AdapterManager) (fetched : List Adapter) :
    (let once := m.update fetched
      let twice := once.2.update fetched
      twice.1 = [] ∧ (∀ mac : AdapterGuid, twice.2.adapters[mac]? = once.2.adapters[mac]?) ∧
        ∀ handler : NetworkHandler,
          twice.1.foldl NetworkHandler.handleAdapterEvent handler = handler) ↔
    ∀ adapter ∈ fetched, ∀ other ∈ fetched, adapter.macAddress = other.macAddress →
      adapter.AgreeUpToLoopback other := by
  constructor
  · rintro ⟨hsilent, -⟩ adapter hadapter other hother hmac
    obtain ⟨hknown, -⟩ := update_silent_iff.mp hsilent
    obtain ⟨last, hlast, hagree⟩ := (knows_after_update_iff hadapter).mp (hknown adapter hadapter)
    obtain ⟨last', hlast', hagree'⟩ := (knows_after_update_iff hother).mp (hknown other hother)
    rw [hmac, hlast'] at hlast
    cases hlast
    exact equivalence_agreeUpToLoopback.trans (equivalence_agreeUpToLoopback.symm hagree) hagree'
  · intro h
    have hsilent : ((m.update fetched).2.update fetched).1 = [] := by
      refine update_silent_iff.mpr ⟨?_, fun mac adapter => isFetched_of_update⟩
      intro current hcurrent
      obtain ⟨last, hlast, hfetched, hmac⟩ := exists_last_fetchedWith hcurrent
      exact (knows_after_update_iff hcurrent).mpr
        ⟨last, hlast, h last hfetched current hcurrent hmac⟩
    refine ⟨hsilent, adapters_update_of_silent hsilent, fun handler => ?_⟩
    rw [hsilent]
    rfl

/-- An interface with a second address, as it is fetched on Linux. -/
def twoAddresses : List Adapter :=
  Linux.getAdapters Linux.twoCards (Linux.twoCards.listed ["eth0", "eth0:1"])

def clientOfTwo : NetworkHandler where
  configuration := ⟨1, ⟨0xefff0001⟩, 1024⟩
  clients := [⟨"02:00:00:00:00:01", ⟨⟨0x0a000002⟩, 1024, ⟨0xefff0001⟩⟩, .new 4095⟩]

/-- The interface keeps changing from one address to the other, and its
client is dropped each time. -/
theorem two_addresses_flap :
    let twice := ((⟨∅⟩ : AdapterManager).update twoAddresses).2.update twoAddresses
    twice.1.map AdapterEvent.macAddress = ["02:00:00:00:00:01", "02:00:00:00:00:01"] ∧
      (twice.1.foldl NetworkHandler.handleAdapterEvent clientOfTwo).clients.length = 0 ∧
      clientOfTwo.clients.length = 1 := by
  decide +kernel

end AdapterManager

end Discnet
