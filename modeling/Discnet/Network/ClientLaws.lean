import Discnet.Network.NetworkHandler
import Discnet.Lib.Run

/-!
# Clients and adapters

A client should run on the first address of each adapter that is enabled,
not the loopback and has an address. Seen from one adapter, the handler is
a small machine: the addresses clients are bound to, and the addresses for
which a client is being started. The events about other adapters leave it
alone.
-/

namespace Discnet

/-- Where a client should listen on the adapter, at most one address. -/
def Adapter.listenAddresses (adapter : Adapter) : List Address :=
  if adapter.enabled && !adapter.loopback then (adapter.addressList.map Prod.fst).take 1 else []

def Adapter.Listenable (adapter : Adapter) : Prop := adapter.listenAddresses ≠ []

instance (adapter : Adapter) : Decidable adapter.Listenable :=
  inferInstanceAs (Decidable (adapter.listenAddresses ≠ []))

theorem Adapter.length_listenAddresses (adapter : Adapter) :
    adapter.listenAddresses.length ≤ 1 := by
  rw [listenAddresses]
  split_ifs
  · rw [List.length_take]
    exact Nat.min_le_left ..
  · exact Nat.zero_le _

theorem length_elim_listenAddresses (adapter : Option Adapter) :
    (adapter.elim [] Adapter.listenAddresses).length ≤ 1 := by
  cases adapter with
  | none => exact Nat.zero_le _
  | some adapter => exact adapter.length_listenAddresses

/-- Listenable adapters with the same addresses are listened to at the same
address. -/
theorem Adapter.Listenable.listenAddresses_eq {lhs rhs : Adapter} (hl : lhs.Listenable)
    (hr : rhs.Listenable) (h : lhs.addressList = rhs.addressList) :
    lhs.listenAddresses = rhs.listenAddresses := by
  rw [Listenable, listenAddresses] at hl hr
  rw [listenAddresses, listenAddresses, h]
  split_ifs at hl hr ⊢ <;> first | rfl | contradiction

namespace Network

open Lib AdapterManager Messages

-- ---------------------------------------------------------------------------
-- One adapter's view of the handler
-- ---------------------------------------------------------------------------

/-- The client in a slot of the list of inits, unless an update took it. -/
def AdapterInit.starting? : AdapterInit → Option NetworkClient
  | .pending client => some client
  | .ready (.ok client) => some client
  | _ => none

def AdapterInit.isTaken : AdapterInit → Bool
  | .taken => true
  | _ => false

/-- The addresses the clients of an adapter are bound to. -/
def addressesFor (mac : AdapterGuid) (clients : List NetworkClient) : List Address :=
  (clients.filter (·.adapterIdentifier = mac)).map (·.info.adapter)

structure ClientView where
  bound : List Address
  starting : List Address
  deriving DecidableEq, Repr

namespace ClientView

/-- What an event about the adapter does. A change of addresses is only
noticed by a client that is already bound. -/
def apply (v : ClientView) : AdapterEvent → ClientView
  | .new adapter => { v with starting := v.starting ++ adapter.listenAddresses }
  | .changed previous current =>
    if v.bound ≠ [] ∧ previous.addressList ≠ current.addressList then
      ⟨v.bound.tail, v.starting ++ current.listenAddresses⟩
    else v
  | .removed _ => { v with bound := v.bound.tail }

end ClientView

namespace NetworkHandler

def view (mac : AdapterGuid) (h : NetworkHandler) : ClientView where
  bound := addressesFor mac h.clients
  starting := addressesFor mac (h.initList.filterMap AdapterInit.starting?)

/-- Nothing is being started, and nothing waits for an update. -/
def Settled (h : NetworkHandler) : Prop := ∀ init ∈ h.initList, init.isTaken

instance (h : NetworkHandler) : Decidable h.Settled :=
  inferInstanceAs (Decidable (∀ init ∈ h.initList, init.isTaken = true))

/-- There is one client for each listenable adapter, bound to its first
address, and no other client. -/
def Follows (adapters : AdapterGuid → Option Adapter) (h : NetworkHandler) : Prop :=
  ∀ mac, (h.view mac).bound = (adapters mac).elim [] Adapter.listenAddresses

end NetworkHandler

@[simp] theorem addressesFor_append (mac : AdapterGuid) (clients others : List NetworkClient) :
    addressesFor mac (clients ++ others) = addressesFor mac clients ++ addressesFor mac others := by
  simp [addressesFor]

theorem eq_of_perm_of_length_le_one {α : Type} {l l' : List α} (h : l.Perm l')
    (hone : l'.length ≤ 1) : l = l' := by
  match l', hone with
  | [], _ => exact List.perm_nil.mp h
  | [a], _ => exact List.perm_singleton.mp h

theorem addressesFor_perm {clients others : List NetworkClient} (mac : AdapterGuid)
    (h : clients.Perm others) : (addressesFor mac clients).Perm (addressesFor mac others) :=
  (h.filter _).map _

theorem addressesFor_eraseP (mac : AdapterGuid) (id : AdapterGuid) (clients : List NetworkClient) :
    addressesFor mac (clients.eraseP (·.adapterIdentifier == id)) =
      if id = mac then (addressesFor mac clients).tail else addressesFor mac clients := by
  induction clients with
  | nil => simp [addressesFor]
  | cons client clients ih =>
    by_cases hid : client.adapterIdentifier = id
    · by_cases hmac : id = mac
      · simp [addressesFor, hid, hmac]
      · simp [addressesFor, hid, hmac]
    · by_cases hmac : client.adapterIdentifier = mac
      · have hne : id ≠ mac := fun h => hid (hmac.trans h.symm)
        simp_all [addressesFor]
      · simp_all [addressesFor]

namespace NetworkHandler

variable {h : NetworkHandler} {mac : AdapterGuid}

theorem findClient_eq_none (adapter : Adapter) (h : NetworkHandler) :
    h.findClient adapter = none ↔ (h.view adapter.macAddress).bound = [] := by
  simp [findClient, view, addressesFor, List.find?_eq_none]

theorem view_addClient (adapter : Adapter) (h : NetworkHandler) (mac : AdapterGuid) :
    (h.addClient adapter).view mac =
      if adapter.macAddress = mac then (h.view mac).apply (.new adapter) else h.view mac := by
  rw [addClient, ClientView.apply, Adapter.listenAddresses]
  cases hlist : adapter.addressList with
  | nil => simp
  | cons front rest =>
    by_cases henabled : adapter.enabled
    · by_cases hloopback : adapter.loopback
      · simp [henabled, hloopback]
      · by_cases hmac : adapter.macAddress = mac <;>
          simp [henabled, hloopback, hmac, view, addressesFor, AdapterInit.starting?]
    · simp [henabled]

theorem view_removeClient (adapter : Adapter) (h : NetworkHandler) (mac : AdapterGuid) :
    (h.removeClient adapter).view mac =
      if adapter.macAddress = mac then (h.view mac).apply (.removed adapter) else h.view mac := by
  rw [removeClient, view, addressesFor_eraseP]
  split_ifs <;> rfl

theorem view_adapterChanged {previous current : Adapter}
    (hmac : previous.macAddress = current.macAddress) (h : NetworkHandler) (mac : AdapterGuid) :
    (h.adapterChanged previous current).view mac =
      if current.macAddress = mac then (h.view mac).apply (.changed previous current)
      else h.view mac := by
  have hfind := findClient_eq_none current h
  rw [adapterChanged]
  cases hclient : h.findClient current with
  | none =>
    rw [hclient] at hfind
    have hbound := hfind.mp rfl
    by_cases hcurrent : current.macAddress = mac
    · subst hcurrent
      simp [ClientView.apply, hbound]
    · simp [hcurrent]
  | some client =>
    have hbound : (h.view current.macAddress).bound ≠ [] := fun hnil => by
      rw [hfind.mpr hnil] at hclient
      contradiction
    by_cases haddresses : previous.addressList = current.addressList
    · simp [haddresses, ClientView.apply]
    · dsimp only
      rw [if_pos haddresses, view_addClient, view_removeClient, hmac]
      by_cases hcurrent : current.macAddress = mac
      · subst hcurrent
        simp [ClientView.apply, hbound, haddresses]
      · simp [hcurrent]

theorem view_handleAdapterEvent {e : AdapterEvent} (he : e.AboutOne) (h : NetworkHandler)
    (mac : AdapterGuid) :
    (h.handleAdapterEvent e).view mac =
      if e.macAddress = mac then (h.view mac).apply e else h.view mac := by
  cases e with
  | new adapter => exact view_addClient adapter h mac
  | changed previous current => exact view_adapterChanged he h mac
  | removed adapter => exact view_removeClient adapter h mac

theorem view_handleAdapterEvents {events : List AdapterEvent}
    (hevents : ∀ e ∈ events, e.AboutOne) (h : NetworkHandler) (mac : AdapterGuid) :
    (events.foldl handleAdapterEvent h).view mac =
      (eventsFor mac events).foldl ClientView.apply (h.view mac) := by
  induction events generalizing h with
  | nil => rfl
  | cons e events ih =>
    obtain ⟨he, hevents⟩ := List.forall_mem_cons.mp hevents
    rw [List.foldl_cons, ih hevents, view_handleAdapterEvent he, eventsFor, eventsFor]
    by_cases hmac : e.macAddress = mac <;> simp [hmac]

-- ---------------------------------------------------------------------------
-- Starting clients
-- ---------------------------------------------------------------------------

/-- How the background task that starts a client fares. -/
abbrev Attempts := OpenAttempts Bool

def Attempts.Succeed (attempts : Attempts) : Prop :=
  openClient (attempts.startTime + seconds 15) attempts.first attempts.startTime
    attempts.retries = true

instance (attempts : Attempts) : Decidable attempts.Succeed :=
  inferInstanceAs (Decidable (_ = true))

end NetworkHandler

open NetworkHandler

def AdapterInit.complete (attempts : Attempts) : AdapterInit → AdapterInit
  | .pending client =>
    .ready (processAdapter attempts client)
  | init => init

def NetworkHandler.complete (k : Nat) (attempts : Attempts) (h : NetworkHandler) :
    NetworkHandler :=
  { h with initList := h.initList.modify k (AdapterInit.complete attempts) }

/-- What happens between two updates of the adapter manager. -/
inductive HandlerOp
  | complete (k : Nat) (attempts : Attempts)
  | update (current : TimePoint)
  deriving Repr

def HandlerOp.Succeeds : HandlerOp → Prop
  | complete _ attempts => attempts.Succeed
  | update _ => True

def NetworkHandler.work (md5 : List Byte → Digest) (h : NetworkHandler) :
    HandlerOp → NetworkHandler
  | .complete k attempts => h.complete k attempts
  | .update current => (h.update md5 current).2

theorem AdapterInit.starting?_complete {attempts : Attempts} (h : attempts.Succeed)
    (init : AdapterInit) : (init.complete attempts).starting? = init.starting? := by
  cases init with
  | pending client =>
    have hopen : openClient (attempts.startTime + seconds 15) attempts.first attempts.startTime
        attempts.retries = true := h
    rw [complete, processAdapter, if_pos hopen]
    rfl
  | ready result => rfl
  | taken => rfl

theorem filterMap_modify {α β : Type} {g : α → Option β} {f : α → α} (h : ∀ a, g (f a) = g a)
    (l : List α) (k : Nat) : (l.modify k f).filterMap g = l.filterMap g := by
  induction l generalizing k with
  | nil => rw [List.modify_nil]
  | cons a l ih => cases k <;> simp [List.filterMap_cons, h, ih]

theorem AdapterInit.starting?_complete_of_any (attempts : Attempts) (init : AdapterInit)
    {client : NetworkClient} (h : (init.complete attempts).starting? = some client) :
    init.starting? = some client := by
  cases init with
  | pending other =>
    rw [complete, processAdapter] at h
    split_ifs at h
    · exact h
    · contradiction
  | ready result => exact h
  | taken => exact h

theorem mem_of_mem_modify {α β : Type} {g : α → Option β} {f : α → α} {b : β}
    (h : ∀ a, g (f a) = some b → g a = some b) {l : List α} {k : Nat}
    (hb : b ∈ (l.modify k f).filterMap g) : b ∈ l.filterMap g := by
  induction l generalizing k with
  | nil => simp at hb
  | cons a l ih =>
    cases k with
    | zero =>
      rw [List.modify_zero_cons, List.mem_filterMap] at hb
      obtain ⟨other, hother, heq⟩ := hb
      rcases List.mem_cons.mp hother with rfl | hother
      · exact List.mem_filterMap.mpr ⟨a, List.mem_cons_self, h a heq⟩
      · exact List.mem_filterMap.mpr ⟨other, List.mem_cons_of_mem _ hother, heq⟩
    | succ k =>
      rw [List.modify_succ_cons, List.filterMap_cons] at hb
      rw [List.filterMap_cons]
      cases hg : g a with
      | none =>
        rw [hg] at hb
        exact ih hb
      | some other =>
        rw [hg] at hb
        rcases List.mem_cons.mp hb with rfl | hb
        · exact List.mem_cons_self
        · exact List.mem_cons_of_mem _ (ih hb)

/-- What was being started is collected or still being started. -/
theorem collected_perm (inits : List AdapterInit) :
    (inits.filterMap AdapterInit.client? ++
      (inits.map AdapterInit.collected).filterMap AdapterInit.starting?).Perm
      (inits.filterMap AdapterInit.starting?) := by
  induction inits with
  | nil => exact .nil
  | cons init inits ih =>
    cases init with
    | pending client => exact List.perm_middle.trans (ih.cons client)
    | taken => exact ih
    | ready result =>
      cases result with
      | error message => exact ih
      | ok client => exact ih.cons client

namespace ClientView

/-- All addresses of clients that are bound or will be. -/
def all (v : ClientView) : List Address := v.bound ++ v.starting

end ClientView

namespace NetworkHandler

variable {h : NetworkHandler}

theorem addressesFor_update (md5 : List Byte → Digest) (current : TimePoint) (mac : AdapterGuid)
    (clients : List NetworkClient) :
    addressesFor mac ((clients.map (NetworkClient.update md5 current)).map Prod.snd) =
      addressesFor mac clients := by
  induction clients with
  | nil => rfl
  | cons client clients ih =>
    by_cases hmac : client.adapterIdentifier = mac <;>
      simp_all [addressesFor, NetworkClient.update]

theorem all_update (md5 : List Byte → Digest) (current : TimePoint) (h : NetworkHandler)
    (mac : AdapterGuid) : ((h.update md5 current).2.view mac).all.Perm (h.view mac).all := by
  have hperm := addressesFor_perm mac (collected_perm h.initList)
  rw [addressesFor_append] at hperm
  rw [ClientView.all, view, update, addressesFor_update, collectClients, addressesFor_append,
    List.append_assoc]
  exact hperm.append_left _

theorem all_work {op : HandlerOp} (hop : op.Succeeds) (md5 : List Byte → Digest)
    (h : NetworkHandler) (mac : AdapterGuid) :
    ((h.work md5 op).view mac).all.Perm (h.view mac).all := by
  cases op with
  | update current => exact all_update md5 current h mac
  | complete k attempts =>
    rw [ClientView.all, view, work, complete, filterMap_modify (AdapterInit.starting?_complete hop)]
    exact .refl _

theorem all_foldl_work {ops : List HandlerOp} (hops : ∀ op ∈ ops, op.Succeeds)
    (md5 : List Byte → Digest) (h : NetworkHandler) (mac : AdapterGuid) :
    ((ops.foldl (work md5) h).view mac).all.Perm (h.view mac).all := by
  induction ops generalizing h with
  | nil => exact .refl _
  | cons op ops ih =>
    obtain ⟨hop, hops⟩ := List.forall_mem_cons.mp hops
    exact (ih hops (h.work md5 op)).trans (all_work hop md5 h mac)

theorem Settled.starting (hs : h.Settled) (mac : AdapterGuid) : (h.view mac).starting = [] := by
  have hnone : h.initList.filterMap AdapterInit.starting? = [] := by
    apply List.filterMap_eq_nil_iff.mpr
    intro init hinit
    have htaken := hs init hinit
    cases init with
    | taken => rfl
    | pending client => contradiction
    | ready result => contradiction
  rw [view, hnone]
  rfl

/-- Once nothing is being started, the bound addresses are the ones that
were bound or to be bound. -/
theorem Settled.bound {ops : List HandlerOp} (md5 : List Byte → Digest)
    (hs : (ops.foldl (work md5) h).Settled) (hops : ∀ op ∈ ops, op.Succeeds)
    (hone : (h.view mac).all.length ≤ 1) :
    ((ops.foldl (work md5) h).view mac).bound = (h.view mac).all := by
  have hperm := all_foldl_work hops md5 h mac
  rw [ClientView.all, hs.starting mac, List.append_nil] at hperm
  exact eq_of_perm_of_length_le_one hperm hone

end NetworkHandler

-- ---------------------------------------------------------------------------
-- The host
-- ---------------------------------------------------------------------------

structure Host where
  manager : AdapterManager
  handler : NetworkHandler

/-- What the adapter manager fetches, and what happens until it fetches
again. -/
structure Round where
  fetched : List Adapter
  ops : List HandlerOp
  deriving Repr

namespace Round

/-- The adapters that were fetched differ, and all clients can be opened. -/
structure Regular (r : Round) : Prop where
  distinct : DistinctMacs r.fetched
  succeeds : ∀ op ∈ r.ops, op.Succeeds

end Round

namespace Host

def new (configuration : Configuration) : Host :=
  ⟨⟨∅⟩, { configuration := configuration }⟩

def updateAdapters (fetched : List Adapter) (s : Host) : Host :=
  let updated := s.manager.update fetched
  ⟨updated.2, updated.1.foldl handleAdapterEvent s.handler⟩

def round (md5 : List Byte → Digest) (s : Host) (r : Round) : Host :=
  let updated := s.updateAdapters r.fetched
  { updated with handler := r.ops.foldl (work md5) updated.handler }

variable {s : Host} {fetched : List Adapter} {mac : AdapterGuid}

theorem view_updateAdapters (hm : s.manager.KeyedByMac) (hfetched : DistinctMacs fetched)
    (mac : AdapterGuid) :
    (s.updateAdapters fetched).handler.view mac =
      (eventsBetween s.manager.adapters[mac]? (fetchedAt fetched mac)).foldl ClientView.apply
        (s.handler.view mac) := by
  have hevents := view_handleAdapterEvents (fun _ => aboutOne_of_mem_update hm hfetched)
    s.handler mac
  rw [eventsFor_update hm hfetched] at hevents
  exact hevents

-- ---------------------------------------------------------------------------
-- Settled rounds
-- ---------------------------------------------------------------------------

/-- A change of an adapter that the clients follow: it stays one to listen
on or stays none, or its addresses change while it is one. -/
def Followable (previous current : Adapter) : Prop :=
  (previous.Listenable ↔ current.Listenable) ∨
    previous.Listenable ∧ previous.addressList ≠ current.addressList

def AllFollowable (previous current : List Adapter) : Prop :=
  ∀ mac before after, fetchedAt previous mac = some before → fetchedAt current mac = some after →
    Followable before after

/-- The manager knows what was fetched, up to the loopback flags. -/
def Knows (fetched : List Adapter) (m : AdapterManager) : Prop :=
  ∀ mac, Option.Rel Adapter.AgreeUpToLoopback m.adapters[mac]? (fetchedAt fetched mac)

/-- The addresses a settled view is left with when the adapter changes from
what the first option holds to the second. -/
def addressesAfter : Option Adapter → Option Adapter → List Address
  | some before, some after =>
    if before.Listenable ∧ before.addressList = after.addressList then before.listenAddresses
    else if before.Listenable then after.listenAddresses
    else []
  | none, some after => after.listenAddresses
  | _, none => []

theorem length_addressesAfter (before after : Option Adapter) :
    (addressesAfter before after).length ≤ 1 := by
  cases after with
  | none => cases before <;> exact Nat.zero_le _
  | some after =>
    cases before with
    | none => exact after.length_listenAddresses
    | some before =>
      rw [addressesAfter]
      split_ifs
      · exact before.length_listenAddresses
      · exact after.length_listenAddresses
      · exact Nat.zero_le _

theorem tail_listenAddresses (adapter : Adapter) : adapter.listenAddresses.tail = [] := by
  apply List.eq_nil_of_length_eq_zero
  have hlength := adapter.length_listenAddresses
  rw [List.length_tail]
  omega

/-- The views that follow are left with the right addresses exactly by the
changes that can be followed. -/
theorem addressesAfter_eq_iff (before after : Adapter) :
    addressesAfter (some before) (some after) = after.listenAddresses ↔
      Followable before after := by
  rw [addressesAfter, Followable]
  by_cases hb : before.Listenable
  · by_cases hlist : before.addressList = after.addressList
    · by_cases ha : after.Listenable
      · simp [hb, ha, hlist, hb.listenAddresses_eq ha hlist]
      · have hnil : after.listenAddresses = [] := not_not.mp ha
        have hne : before.listenAddresses ≠ [] := hb
        simp [hb, ha, hlist, hnil, hne]
    · simp [hb, hlist]
  · by_cases ha : after.Listenable
    · have hne : after.listenAddresses ≠ [] := ha
      simp [hb, ha, hne.symm]
    · have hnil : after.listenAddresses = [] := not_not.mp ha
      simp [hb, ha, hnil]

theorem Knows.updateAdapters (hm : s.manager.KeyedByMac) (hfetched : DistinctMacs fetched) :
    Knows fetched (s.updateAdapters fetched).manager := by
  intro mac
  have hknown := adapters_update hm hfetched mac
  rw [Host.updateAdapters, hknown]
  cases hf : fetchedAt fetched mac with
  | none => cases s.manager.adapters[mac]? <;> exact .none
  | some current =>
    obtain ⟨known, hafter, hagree⟩ := knownAfter_agrees s.manager.adapters[mac]? current
    rw [hafter]
    exact .some hagree

/-- What the events about an adapter do to its view, if that is settled and
follows what was fetched before. -/
theorem all_apply_eventsBetween {known before : Option Adapter} (after : Option Adapter)
    (hrel : Option.Rel Adapter.AgreeUpToLoopback known before) {v : ClientView}
    (hbound : v.bound = before.elim [] Adapter.listenAddresses) (hstarting : v.starting = []) :
    ((eventsBetween known after).foldl ClientView.apply v).all = addressesAfter before after := by
  obtain ⟨bound, starting⟩ := v
  subst hbound hstarting
  cases hrel with
  | none => cases after <;> simp [eventsBetween, ClientView.apply, ClientView.all, addressesAfter]
  | @some known before hagree =>
    cases after with
    | none =>
      simp [eventsBetween, ClientView.apply, ClientView.all, addressesAfter, tail_listenAddresses]
    | some after =>
      have hlist := hagree.addressList_eq
      rw [eventsBetween, addressesAfter]
      unfold Adapter.Listenable
      by_cases hdiff : Adapter.adapterDiff known after = []
      · have hsame := (Adapter.adapterDiff_eq_nil.mp hdiff).addressList_eq
        rw [if_pos hdiff, List.foldl_nil, ClientView.all]
        by_cases hb : before.listenAddresses = [] <;> simp [hb, ← hlist, hsame]
      · rw [if_neg hdiff, List.foldl_cons, List.foldl_nil, ClientView.apply]
        by_cases hb : before.listenAddresses = []
        · simp [hb, ClientView.all]
        · by_cases hsame : before.addressList = after.addressList <;>
            simp [hb, hlist, hsame, ClientView.all, tail_listenAddresses]

/-- A round brings every view that follows to the addresses it should have
exactly when all changes can be followed. -/
theorem follows_round_iff {previous : List Adapter} {r : Round} (md5 : List Byte → Digest)
    (hm : s.manager.KeyedByMac) (hr : r.Regular) (hknows : Knows previous s.manager)
    (hfollows : s.handler.Follows (fetchedAt previous)) (hsettled : s.handler.Settled)
    (hafter : (s.round md5 r).handler.Settled) :
    (s.round md5 r).handler.Follows (fetchedAt r.fetched) ↔ AllFollowable previous r.fetched := by
  have hbound : ∀ mac, ((s.round md5 r).handler.view mac).bound =
      addressesAfter (fetchedAt previous mac) (fetchedAt r.fetched mac) := by
    intro mac
    have hall := all_apply_eventsBetween (fetchedAt r.fetched mac) (hknows mac) (hfollows mac)
      (hsettled.starting mac)
    rw [← view_updateAdapters hm hr.distinct] at hall
    rw [← hall]
    refine hafter.bound md5 hr.succeeds ?_
    rw [hall]
    exact length_addressesAfter ..
  constructor
  · intro hnext mac before after hb ha
    have hview := hnext mac
    rw [hbound, hb, ha] at hview
    exact (addressesAfter_eq_iff before after).mp hview
  · intro hall mac
    rw [hbound]
    cases ha : fetchedAt r.fetched mac with
    | none => cases fetchedAt previous mac <;> rfl
    | some after =>
      cases hb : fetchedAt previous mac with
      | none => rfl
      | some before => exact (addressesAfter_eq_iff before after).mpr (hall mac _ _ hb ha)

/-- Every round leaves nothing behind that is being started. -/
def Settles (md5 : List Byte → Digest) (s : Host) (r : Round) : Prop :=
  (s.round md5 r).handler.Settled

def FollowsAfter (md5 : List Byte → Digest) (s : Host) (r : Round) : Prop :=
  (s.round md5 r).handler.Follows (fetchedAt r.fetched)

theorem throughout_follows_iff {previous : List Adapter} {rounds : List Round}
    (md5 : List Byte → Digest) (hm : s.manager.KeyedByMac) (hr : ∀ r ∈ rounds, r.Regular)
    (hknows : Knows previous s.manager) (hfollows : s.handler.Follows (fetchedAt previous))
    (hsettled : s.handler.Settled)
    (hsettles : Throughout (round md5) (Settles md5) s rounds) :
    Throughout (round md5) (FollowsAfter md5) s rounds ↔
      (previous :: rounds.map Round.fetched).IsChain AllFollowable := by
  induction rounds generalizing s previous with
  | nil => simp [Throughout]
  | cons r rounds ih =>
    obtain ⟨hregular, hr⟩ := List.forall_mem_cons.mp hr
    obtain ⟨hafter, hsettles⟩ := hsettles
    have hiff := follows_round_iff md5 hm hregular hknows hfollows hsettled hafter
    rw [Throughout, List.map_cons, List.isChain_cons_cons, ← hiff]
    refine and_congr_right fun hnext => ?_
    exact ih (hm.update hregular.distinct) hr (Knows.updateAdapters hm hregular.distinct) hnext
      hafter hsettles

/-- From the start on, the clients follow the adapters after every round
exactly if every adapter that stays only ever changes in a way they can
follow. -/
theorem clients_follow_iff (md5 : List Byte → Digest) (configuration : Configuration)
    (rounds : List Round) (hr : ∀ r ∈ rounds, r.Regular)
    (hsettles : Throughout (round md5) (Settles md5) (new configuration) rounds) :
    Throughout (round md5) (FollowsAfter md5) (new configuration) rounds ↔
      (rounds.map Round.fetched).IsChain AllFollowable := by
  have hm : (new configuration).manager.KeyedByMac := by
    intro mac adapter h
    simp [new] at h
  have hknows : Knows [] (new configuration).manager := by
    intro mac
    simp [new, fetchedAt]
  have hfollows : (new configuration).handler.Follows (fetchedAt []) := fun _ => rfl
  have hsettled : (new configuration).handler.Settled := by
    intro init hinit
    contradiction
  rw [throughout_follows_iff md5 hm hr hknows hfollows hsettled hsettles]
  cases rounds with
  | nil => simp
  | cons r rounds =>
    rw [List.map_cons, List.isChain_cons_cons]
    refine and_iff_right fun mac before after hb => ?_
    simp [fetchedAt] at hb

/-- An adapter for the examples. -/
def ethernet (enabled : Bool) (address : UInt32) : Adapter where
  guid := "\x7b1\x7d"
  macAddress := "02:00:00:00:00:01"
  name := "ethernet"
  enabled := enabled
  addressList := [(⟨address⟩, ⟨0xffffff00⟩)]
  mtu := 1500

def startAtOnce (k : Nat) : List HandlerOp := [.complete k (.always 0 true), .update 0]

theorem clients_follow_iff_readdressed :
    Throughout (round fun _ => default) (FollowsAfter fun _ => default) (new ⟨1, ⟨2⟩, 1024⟩)
        [⟨[ethernet true 10], startAtOnce 0⟩, ⟨[ethernet true 11], startAtOnce 1⟩] ↔
      [[ethernet true 10], [ethernet true 11]].IsChain AllFollowable := by
  refine clients_follow_iff (fun _ => default) _
    [⟨[ethernet true 10], startAtOnce 0⟩, ⟨[ethernet true 11], startAtOnce 1⟩] ?_ ?_
  · intro r hr
    obtain rfl | rfl : r = ⟨[ethernet true 10], startAtOnce 0⟩ ∨
        r = ⟨[ethernet true 11], startAtOnce 1⟩ := by simpa using hr
    · exact ⟨List.nodup_singleton _, by simp [startAtOnce, HandlerOp.Succeeds]; decide⟩
    · exact ⟨List.nodup_singleton _, by simp [startAtOnce, HandlerOp.Succeeds]; decide⟩
  · refine ⟨?_, ?_, trivial⟩ <;> (unfold Settles; decide +kernel)

theorem enabledLater_not_followed :
    (∀ r ∈ ([⟨[ethernet false 10], []⟩, ⟨[ethernet true 10], []⟩] : List Round), r.Regular) ∧
      Throughout (round fun _ => default) (Settles fun _ => default) (new ⟨1, ⟨2⟩, 1024⟩)
        [⟨[ethernet false 10], []⟩, ⟨[ethernet true 10], []⟩] ∧
      ¬ Throughout (round fun _ => default) (FollowsAfter fun _ => default) (new ⟨1, ⟨2⟩, 1024⟩)
        [⟨[ethernet false 10], []⟩, ⟨[ethernet true 10], []⟩] := by
  refine ⟨?_, ⟨?_, ?_, trivial⟩, ?_⟩
  · intro r hr
    obtain rfl | rfl : r = ⟨[ethernet false 10], []⟩ ∨ r = ⟨[ethernet true 10], []⟩ := by
      simpa using hr
    · exact ⟨List.nodup_singleton _, by simp⟩
    · exact ⟨List.nodup_singleton _, by simp⟩
  · unfold Settles
    decide +kernel
  · unfold Settles
    decide +kernel
  · rintro ⟨-, hfollows, -⟩
    have hview := hfollows "02:00:00:00:00:01"
    revert hview
    decide +kernel

-- ---------------------------------------------------------------------------
-- Rounds that do not settle
-- ---------------------------------------------------------------------------

/-- What is known and what clients run or start for it belong together. -/
structure Accounted (s : Host) : Prop where
  keyed : s.manager.KeyedByMac
  listenable : ∀ (mac : AdapterGuid) (known : Adapter),
    s.manager.adapters[mac]? = some known → known.Listenable
  all : ∀ mac, (s.handler.view mac).all.Perm
    ((s.manager.adapters[mac]?).elim [] Adapter.listenAddresses)

/-- No adapter goes or changes its first address while a client is being
started for it. -/
def NotInterrupted (s : Host) (r : Round) : Prop :=
  ∀ mac, ∀ address ∈ (s.handler.view mac).starting, ∃ current,
    fetchedAt r.fetched mac = some current ∧ current.listenAddresses = [address]

theorem mem_of_fetchedAt {adapter : Adapter} (h : fetchedAt fetched mac = some adapter) :
    adapter ∈ fetched := List.mem_of_find?_eq_some h

/-- What the events about an adapter do to its view when no start is
interrupted. -/
theorem all_apply_of_notInterrupted {known after : Option Adapter} {v : ClientView}
    (hknown : ∀ adapter, known = some adapter → adapter.Listenable)
    (hafter : ∀ adapter, after = some adapter → adapter.Listenable)
    (hall : v.all = known.elim [] Adapter.listenAddresses)
    (hstarting : ∀ address ∈ v.starting, ∃ current,
      after = some current ∧ current.listenAddresses = [address]) :
    ((eventsBetween known after).foldl ClientView.apply v).all =
      (knownAfter known after).elim [] Adapter.listenAddresses := by
  obtain ⟨bound, starting⟩ := v
  cases known with
  | none =>
    obtain ⟨rfl, rfl⟩ := List.append_eq_nil_iff.mp hall
    cases after <;> simp [eventsBetween, knownAfter, ClientView.apply, ClientView.all]
  | some known =>
    have hknown : known.listenAddresses ≠ [] := hknown known rfl
    have hlength := known.length_listenAddresses
    have hall : bound ++ starting = known.listenAddresses := hall
    cases after with
    | none =>
      cases starting with
      | nil =>
        rw [List.append_nil] at hall
        simp [eventsBetween, knownAfter, ClientView.apply, ClientView.all, hall,
          tail_listenAddresses]
      | cons address rest =>
        obtain ⟨current, hcurrent, -⟩ := hstarting address List.mem_cons_self
        contradiction
    | some after =>
      have hafter : after.Listenable := hafter after rfl
      rw [eventsBetween, knownAfter]
      by_cases hdiff : Adapter.adapterDiff known after = []
      · rw [if_pos hdiff, if_pos hdiff]
        exact hall
      · rw [if_neg hdiff, if_neg hdiff, List.foldl_cons, List.foldl_nil, ClientView.apply,
          Option.elim_some]
        cases starting with
        | nil =>
          rw [List.append_nil] at hall
          subst hall
          by_cases hsame : known.addressList = after.addressList
          · simp [hsame, ClientView.all,
              Adapter.Listenable.listenAddresses_eq hknown hafter hsame]
          · simp [hknown, hsame, ClientView.all, tail_listenAddresses]
        | cons address rest =>
          -- the client that is being started is the only one
          obtain ⟨current, hcurrent, haddress⟩ := hstarting address List.mem_cons_self
          cases hcurrent
          rw [← hall, List.length_append, List.length_cons] at hlength
          have hbound : bound = [] := List.length_eq_zero_iff.mp (by omega)
          have hrest : rest = [] := List.length_eq_zero_iff.mp (by omega)
          simp [hbound, hrest, ClientView.all, haddress]

theorem accounted_new (configuration : Configuration) : (new configuration).Accounted where
  keyed mac adapter h := by simp [new] at h
  listenable mac known h := by simp [new] at h
  all mac := by simp [new, ClientView.all, view, addressesFor]

theorem Accounted.round {r : Round} (hs : s.Accounted) (md5 : List Byte → Digest)
    (hr : r.Regular) (hlisten : ∀ adapter ∈ r.fetched, adapter.Listenable)
    (hstarts : s.NotInterrupted r) : (s.round md5 r).Accounted where
  keyed := hs.keyed.update hr.distinct
  listenable mac known h := by
    rw [Host.round, updateAdapters, adapters_update hs.keyed hr.distinct] at h
    cases hf : fetchedAt r.fetched mac with
    | none => cases hk : s.manager.adapters[mac]? <;> rw [hf, hk] at h <;> contradiction
    | some current =>
      have hcurrent := hlisten current (mem_of_fetchedAt hf)
      cases hk : s.manager.adapters[mac]? with
      | none =>
        rw [hf, hk] at h
        cases h
        exact hcurrent
      | some existing =>
        rw [hf, hk, knownAfter] at h
        split_ifs at h
        · cases h
          exact hs.listenable mac _ hk
        · cases h
          exact hcurrent
  all mac := by
    have hlength := length_elim_listenAddresses s.manager.adapters[mac]?
    have hall : (s.handler.view mac).all =
        (s.manager.adapters[mac]?).elim [] Adapter.listenAddresses :=
      eq_of_perm_of_length_le_one (hs.all mac) hlength
    have happly := all_apply_of_notInterrupted (hs.listenable mac)
      (fun adapter h => hlisten adapter (mem_of_fetchedAt h)) hall (hstarts mac)
    rw [← view_updateAdapters hs.keyed hr.distinct, ← adapters_update hs.keyed hr.distinct]
      at happly
    exact happly ▸ all_foldl_work hr.succeeds md5 _ mac

/-- As long as no start is interrupted, the clients follow the known adapters
whenever nothing is being started. -/
theorem clients_follow_known (md5 : List Byte → Digest) (configuration : Configuration)
    (rounds : List Round) (hr : ∀ r ∈ rounds, r.Regular)
    (hlisten : ∀ r ∈ rounds, ∀ adapter ∈ r.fetched, adapter.Listenable)
    (hstarts : Throughout (round md5) NotInterrupted (new configuration) rounds)
    (hsettled : (rounds.foldl (round md5) (new configuration)).handler.Settled) :
    (rounds.foldl (round md5) (new configuration)).handler.Follows
      fun mac => (rounds.foldl (round md5) (new configuration)).manager.adapters[mac]? := by
  have haccounted := hstarts.invariant (accounted_new configuration) fun s r hmem hs h =>
    hs.round md5 (hr r hmem) (hlisten r hmem) h
  intro mac
  have hperm := haccounted.all mac
  rw [ClientView.all, hsettled.starting mac, List.append_nil] at hperm
  exact eq_of_perm_of_length_le_one hperm (length_elim_listenAddresses _)

/-- The adapter is fetched again before its client has started, and has another
address after that. No bytes arrive, so nothing is hashed. -/
def fetchedWhileStarting : List Round :=
  [⟨[ethernet true 10], []⟩, ⟨[{ ethernet true 10 with mtu := 9000 }], startAtOnce 0⟩,
    ⟨[ethernet true 11], startAtOnce 1⟩]

theorem clients_follow_known_fetchedWhileStarting :
    (fetchedWhileStarting.foldl (round fun _ => default) (new ⟨1, ⟨2⟩, 1024⟩)).handler.Follows
      fun mac => (fetchedWhileStarting.foldl (round fun _ => default)
        (new ⟨1, ⟨2⟩, 1024⟩)).manager.adapters[mac]? := by
  refine clients_follow_known (fun _ => default) _ fetchedWhileStarting ?_ ?_ ?_ ?_
  · intro r hr
    simp only [fetchedWhileStarting, List.mem_cons, List.not_mem_nil, or_false] at hr
    rcases hr with rfl | rfl | rfl
    · exact ⟨List.nodup_singleton _, by simp⟩
    · exact ⟨List.nodup_singleton _, by simp [startAtOnce, HandlerOp.Succeeds]; decide⟩
    · exact ⟨List.nodup_singleton _, by simp [startAtOnce, HandlerOp.Succeeds]; decide⟩
  · simp [fetchedWhileStarting, ethernet, Adapter.Listenable, Adapter.listenAddresses]
  · refine ⟨fun mac address h => ?_, fun mac address h => ?_, fun mac address h => ?_, trivial⟩
    · simp [new, view, addressesFor] at h
    · -- only the adapter that is fetched again is being started
      have hstarting : (((new ⟨1, ⟨2⟩, 1024⟩).round (fun _ => default)
          ⟨[ethernet true 10], []⟩).handler.view mac).starting =
            if "02:00:00:00:00:01" = mac then [⟨10⟩] else [] := by
        have hinit : ((new ⟨1, ⟨2⟩, 1024⟩).round (fun _ => default)
            ⟨[ethernet true 10], []⟩).handler.initList.filterMap AdapterInit.starting? =
              [⟨"02:00:00:00:00:01", ⟨⟨10⟩, 1024, ⟨2⟩⟩, .new 4095⟩] := rfl
        simp only [view, hinit]
        split_ifs with hmac <;> simp [addressesFor, hmac]
      rw [hstarting] at h
      split_ifs at h with hmac
      · subst hmac
        rw [List.mem_singleton.mp h]
        exact ⟨_, rfl, rfl⟩
      · contradiction
    · have hsettled : (((new ⟨1, ⟨2⟩, 1024⟩).round (fun _ => default)
          ⟨[ethernet true 10], []⟩).round (fun _ => default)
            ⟨[{ ethernet true 10 with mtu := 9000 }], startAtOnce 0⟩).handler.Settled := by
        decide +kernel
      rw [hsettled.starting] at h
      contradiction
  · decide +kernel

/-- An adapter that goes while its client is being started leaves a client
behind. -/
theorem removedWhileStarting_stays :
    (∀ r ∈ ([⟨[ethernet true 10], []⟩, ⟨[], startAtOnce 0⟩] : List Round),
        r.Regular ∧ ∀ adapter ∈ r.fetched, adapter.Listenable) ∧
      ([⟨[ethernet true 10], []⟩, ⟨[], startAtOnce 0⟩].foldl (round fun _ => default)
        (new ⟨1, ⟨2⟩, 1024⟩)).handler.Settled ∧
      ¬ ([⟨[ethernet true 10], []⟩, ⟨[], startAtOnce 0⟩].foldl (round fun _ => default)
        (new ⟨1, ⟨2⟩, 1024⟩)).handler.Follows fun mac =>
          ([⟨[ethernet true 10], []⟩, ⟨[], startAtOnce 0⟩].foldl (round fun _ => default)
            (new ⟨1, ⟨2⟩, 1024⟩)).manager.adapters[mac]? := by
  refine ⟨?_, ?_, ?_⟩
  · intro r hr
    obtain rfl | rfl : r = ⟨[ethernet true 10], []⟩ ∨ r = ⟨[], startAtOnce 0⟩ := by
      simpa using hr
    · exact ⟨⟨List.nodup_singleton _, by simp⟩,
        by simp [ethernet, Adapter.Listenable, Adapter.listenAddresses]⟩
    · exact ⟨⟨List.nodup_nil, by simp [startAtOnce, HandlerOp.Succeeds]; decide⟩, by simp⟩
  · decide +kernel
  · intro hfollows
    have hview := hfollows "02:00:00:00:00:01"
    revert hview
    decide +kernel

end Host

end Network

end Discnet
