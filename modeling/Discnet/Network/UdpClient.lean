import Discnet.Network.NetworkHandler
import Discnet.Lib.Run

/-!
# The socket of a client

A client listens by one asynchronous receive after the other. The handler of
the first receive and those of the sends keep the client alive, the handlers of
the later receives do not: once the network handler has dropped the client and
no send is under way they run on a destroyed one.
-/

namespace Discnet.Network

open Lib

/-- How a call on a socket, or a receive, can fail. -/
inductive ErrorCode
  | alreadyOpen
  | connectionAborted
  | operationAborted
  | other (value : Nat)
  deriving DecidableEq, Repr

/-- What the system answers to the calls that set up a socket. -/
structure SocketAnswers where
  opened : Option ErrorCode := none
  reuseAddress : Option ErrorCode := none
  bound : Option ErrorCode := none
  joinGroup : Option ErrorCode := none
  outboundInterface : Option ErrorCode := none
  enableLoopback : Option ErrorCode := none
  deriving DecidableEq, Repr

/-- A receive that is under way, and whether its handler shares the client. -/
structure Receive where
  shared : Bool
  deriving DecidableEq, Repr

structure UdpClient where
  info : UdpInfo
  isOpen : Bool := false
  receives : List Receive := []
  deriving DecidableEq, Repr

/-- The bytes of a datagram with their sender, or why there are none. -/
abbrev ReceiveResult := Except ErrorCode (List Byte × Address)

namespace UdpClient

-- ---------------------------------------------------------------------------
-- Opening
-- ---------------------------------------------------------------------------

def close (client : UdpClient) : UdpClient := { client with isOpen := false }

/-- Joining the group is the one call that takes no error code. It throws. -/
def internalOpen (answers : SocketAnswers) (client : UdpClient) :
    Except ErrorCode Bool × UdpClient :=
  if client.isOpen || answers.opened.isSome then (.ok false, client)
  else
    let client := { client with isOpen := true }
    if answers.reuseAddress.isSome then (.ok false, client)
    else if answers.bound.isSome then (.ok false, client)
    else
      match answers.joinGroup with
      | some error => (.error error, client)
      | none =>
        if answers.outboundInterface.isSome then (.ok false, client)
        else if answers.enableLoopback.isSome then (.ok false, client)
        else (.ok true, client)

/-- `open`. An exception leaves the socket as it is. -/
def openSocket (answers : SocketAnswers) (client : UdpClient) :
    Except ErrorCode Bool × UdpClient :=
  match client.internalOpen answers with
  | (.ok true, client) => (.ok true, { client with receives := client.receives ++ [⟨true⟩] })
  | (.ok false, client) => (.ok false, client.close)
  | (.error error, client) => (.error error, client)

/-- The loop of `process_adapter`. -/
def retryOpen (timeout : TimePoint) : Except ErrorCode Bool × UdpClient → TimePoint →
    List (SocketAnswers × TimePoint) → Except ErrorCode Bool × UdpClient
  | (.ok false, client), currentTime, (answers, time) :: retries =>
    if currentTime < timeout then retryOpen timeout (client.openSocket answers) time retries
    else (.ok false, client)
  | result, _, _ => result

/-- The attempts of `process_adapter`, and the client as they leave it. -/
def attemptOpen (attempts : OpenAttempts SocketAnswers) (client : UdpClient) :
    Except ErrorCode Bool × UdpClient :=
  retryOpen (attempts.startTime + seconds 15) (client.openSocket attempts.first)
    attempts.startTime attempts.retries

def processAdapter (attempts : OpenAttempts SocketAnswers) (client : UdpClient) :
    Except ErrorCode (Except String UdpClient) :=
  match client.attemptOpen attempts with
  | (.ok true, client) => .ok (.ok client)
  | (.ok false, _) => .ok (.error "failed to start udp client. dropping client for adapter")
  | (.error error, _) => .error error

-- ---------------------------------------------------------------------------
-- Receiving
-- ---------------------------------------------------------------------------

/-- What the client passes on, and the client after it. The next receive is
bound to the bare client. -/
def handleRead (received : ReceiveResult) (client : UdpClient) :
    Option (List Byte × Address) × UdpClient :=
  match received with
  | .ok datagram => (some datagram, { client with receives := client.receives ++ [⟨false⟩] })
  | .error .connectionAborted => (none, client.close)
  | .error _ => (none, client)

-- ---------------------------------------------------------------------------
-- Getting enabled
-- ---------------------------------------------------------------------------

end UdpClient

/-- What the answers make of a socket that was closed before. -/
def SocketAnswers.outcome (answers : SocketAnswers) : Except ErrorCode Bool :=
  if answers.opened.isSome || answers.reuseAddress.isSome || answers.bound.isSome then .ok false
  else
    match answers.joinGroup with
    | some error => .error error
    | none => .ok (!(answers.outboundInterface.isSome || answers.enableLoopback.isSome))

namespace UdpClient

variable {client : UdpClient} {answers : SocketAnswers}

/-- The client as it listens for the first time. -/
def listening (client : UdpClient) : UdpClient :=
  { client with isOpen := true, receives := client.receives ++ [⟨true⟩] }

theorem close_of_closed (h : client.isOpen = false) : client.close = client := by
  cases client
  cases h
  rfl

/-- What fails without an exception leaves a closed client as it was. -/
theorem openSocket_of_closed (h : client.isOpen = false) (answers : SocketAnswers) :
    client.openSocket answers =
      match answers.outcome with
      | .ok true => (.ok true, client.listening)
      | .ok false => (.ok false, client)
      | .error error => (.error error, { client with isOpen := true }) := by
  have hclose := close_of_closed h
  obtain ⟨opened, reuseAddress, bound, joinGroup, outboundInterface, enableLoopback⟩ := answers
  cases opened <;> cases reuseAddress <;> cases bound <;> cases joinGroup <;>
    cases outboundInterface <;> cases enableLoopback <;>
    simp_all [openSocket, internalOpen, SocketAnswers.outcome, close, listening]

/-- The retries that are made as long as none of them gets anywhere. -/
def retriesMade (timeout : TimePoint) : TimePoint → List (SocketAnswers × TimePoint) →
    List SocketAnswers
  | _, [] => []
  | currentTime, (answers, time) :: retries =>
    if currentTime < timeout then answers :: retriesMade timeout time retries else []

/-- The first attempt that does not just fail decides. -/
def decisive (attempts : List SocketAnswers) : Option SocketAnswers :=
  attempts.find? fun answers => !(answers.outcome matches .ok false)

theorem decisive_of_failed {attempts : List SocketAnswers} (h : answers.outcome = .ok false) :
    decisive (answers :: attempts) = decisive attempts := by
  simp [decisive, h]

theorem decisive_of_ne {attempts : List SocketAnswers} (h : answers.outcome ≠ .ok false) :
    decisive (answers :: attempts) = some answers := by
  rw [decisive, List.find?_cons_of_pos]
  split
  · contradiction
  · rfl

theorem outcome_decisive {attempts : List SocketAnswers} (h : decisive attempts = some answers) :
    answers.outcome ≠ .ok false := by
  intro hfailed
  have hfound := List.find?_some h
  simp [hfailed] at hfound

theorem retryOpen_of_ne {result : Except ErrorCode Bool × UdpClient} (h : result.1 ≠ .ok false)
    (timeout currentTime : TimePoint) (retries : List (SocketAnswers × TimePoint)) :
    retryOpen timeout result currentTime retries = result := by
  obtain ⟨outcome, client⟩ := result
  rw [retryOpen]
  rintro _ _ _ _ ⟨⟩ -
  exact h rfl

theorem openSocket_ne (h : client.isOpen = false) (hfailed : answers.outcome ≠ .ok false) :
    (client.openSocket answers).1 ≠ .ok false := by
  rw [openSocket_of_closed h]
  cases houtcome : answers.outcome with
  | error error => simp
  | ok enabled =>
    cases enabled with
    | true => simp
    | false => exact absurd houtcome hfailed

theorem retryOpen_eq (h : client.isOpen = false) (timeout currentTime : TimePoint)
    (answers : SocketAnswers) (retries : List (SocketAnswers × TimePoint)) :
    retryOpen timeout (client.openSocket answers) currentTime retries =
      match decisive (answers :: retriesMade timeout currentTime retries) with
      | none => (.ok false, client)
      | some answers => client.openSocket answers := by
  induction retries generalizing answers currentTime with
  | nil =>
    by_cases hfailed : answers.outcome = .ok false
    · rw [retriesMade, decisive_of_failed hfailed, openSocket_of_closed h, hfailed]
      rfl
    · rw [decisive_of_ne hfailed, retryOpen_of_ne (openSocket_ne h hfailed)]
  | cons retry retries ih =>
    obtain ⟨next, time⟩ := retry
    by_cases hfailed : answers.outcome = .ok false
    · rw [decisive_of_failed hfailed, openSocket_of_closed h, hfailed]
      simp only [retryOpen, retriesMade]
      split
      · exact ih time next
      · rfl
    · rw [decisive_of_ne hfailed, retryOpen_of_ne (openSocket_ne h hfailed)]

/-- The attempts that are made as long as none of them gets anywhere. -/
def attemptsMade (attempts : OpenAttempts SocketAnswers) : List SocketAnswers :=
  attempts.first ::
    retriesMade (attempts.startTime + seconds 15) attempts.startTime attempts.retries

theorem attemptOpen_eq (h : client.isOpen = false) (attempts : OpenAttempts SocketAnswers) :
    client.attemptOpen attempts =
      match decisive (attemptsMade attempts) with
      | none => (.ok false, client)
      | some answers => client.openSocket answers := retryOpen_eq h ..

theorem processAdapter_of_decisive (h : client.isOpen = false)
    (attempts : OpenAttempts SocketAnswers) :
    client.processAdapter attempts =
      match decisive (attemptsMade attempts) with
      | none => .ok (.error "failed to start udp client. dropping client for adapter")
      | some answers => answers.outcome.map fun _ => .ok client.listening := by
  rw [processAdapter, attemptOpen_eq h]
  cases hfirst : decisive (attemptsMade attempts) with
  | none => rfl
  | some answers =>
    have hne := outcome_decisive hfirst
    simp only [openSocket_of_closed h]
    cases houtcome : answers.outcome with
    | error error => rfl
    | ok enabled =>
      cases enabled with
      | true => rfl
      | false => exact absurd houtcome hne

/-- A client is enabled by its first attempt that does not just fail, and
dropped if there is none in time, closed as it was. What that attempt throws
ends the task. -/
theorem processAdapter_eq (h : client.isOpen = false) (attempts : OpenAttempts SocketAnswers) :
    client.processAdapter attempts =
        (match decisive (attemptsMade attempts) with
        | none => .ok (.error "failed to start udp client. dropping client for adapter")
        | some answers => answers.outcome.map fun _ => .ok client.listening) ∧
      (decisive (attemptsMade attempts) = none → (client.attemptOpen attempts).2 = client) := by
  refine ⟨processAdapter_of_decisive h attempts, fun hnone => ?_⟩
  rw [attemptOpen_eq h, hnone]

/-- A socket that cannot join its group at the second attempt. -/
def unjoined : OpenAttempts SocketAnswers where
  startTime := 0
  first := { bound := some (.other 1) }
  retries := [({ joinGroup := some (.other 2) }, seconds 1), ({}, seconds 2), ({}, seconds 16)]
  timeUp := by decide

/-- It gets no third attempt. -/
theorem processAdapter_throws :
    processAdapter unjoined ⟨⟨⟨1⟩, 2, ⟨3⟩⟩, false, []⟩ = .error (.other 2) ∧
      (decisive (attemptsMade unjoined) = none →
        (attemptOpen unjoined ⟨⟨⟨1⟩, 2, ⟨3⟩⟩, false, []⟩).2 = ⟨⟨⟨1⟩, 2, ⟨3⟩⟩, false, []⟩) :=
  processAdapter_eq rfl unjoined

end UdpClient

def SocketAnswers.enables (answers : SocketAnswers) : Bool := answers.outcome matches .ok true

namespace UdpClient

variable {client : UdpClient} {answers : SocketAnswers}

theorem openClient_eq (timeout currentTime : TimePoint) (answers : SocketAnswers)
    (retries : List (SocketAnswers × TimePoint))
    (h : ∀ made ∈ answers :: retriesMade timeout currentTime retries,
      made.outcome = .ok made.enables) :
    NetworkHandler.openClient timeout answers.enables currentTime
        (retries.map fun retry => (retry.1.enables, retry.2)) =
      (decisive (answers :: retriesMade timeout currentTime retries)).isSome := by
  induction retries generalizing answers currentTime with
  | nil =>
    have hanswers := h answers List.mem_cons_self
    cases henables : answers.enables with
    | true => rw [decisive_of_ne (by simp [hanswers, henables])]; rfl
    | false => rw [decisive_of_failed (by rw [hanswers, henables])]; rfl
  | cons retry retries ih =>
    obtain ⟨next, time⟩ := retry
    have hanswers := h answers List.mem_cons_self
    simp only [List.map_cons, NetworkHandler.openClient]
    cases henables : answers.enables with
    | true => rw [decisive_of_ne (by simp [hanswers, henables])]; rfl
    | false =>
      rw [decisive_of_failed (by rw [hanswers, henables])]
      simp only [retriesMade, Bool.not_false, Bool.true_and, decide_eq_true_eq] at h ⊢
      split at h
      · rename_i hlt
        rw [if_pos hlt, if_pos hlt]
        exact ih time next fun made hmade => h made (List.mem_cons_of_mem _ hmade)
      · rename_i hlt
        rw [if_neg hlt, if_neg hlt]
        rfl

theorem outcome_of_joined (h : answers.joinGroup = none) :
    answers.outcome = .ok answers.enables := by
  unfold SocketAnswers.enables SocketAnswers.outcome
  rw [h]
  split_ifs
  · rfl
  · cases answers.outboundInterface.isSome || answers.enableLoopback.isSome <;> rfl

/-- As long as no attempt fails to join the group, a client is started as the
network handler expects it, and listens by one receive. -/
theorem processAdapter_refines (h : client.isOpen = false) (attempts : OpenAttempts SocketAnswers)
    (hjoin : ∀ made ∈ attemptsMade attempts, made.joinGroup = none)
    (networkClient : NetworkClient) :
    client.processAdapter attempts =
      .ok ((NetworkHandler.processAdapter (attempts.map SocketAnswers.enables) networkClient).map
        fun _ => client.listening) := by
  have houtcome made (hmade : made ∈ attemptsMade attempts) := outcome_of_joined (hjoin made hmade)
  have hopens : NetworkHandler.openClient (attempts.startTime + seconds 15)
      attempts.first.enables attempts.startTime
      (attempts.retries.map fun retry => (retry.1.enables, retry.2)) =
        (decisive (attemptsMade attempts)).isSome := openClient_eq _ _ _ _ houtcome
  rw [processAdapter_of_decisive h, NetworkHandler.processAdapter, OpenAttempts.map, hopens]
  cases hfirst : decisive (attemptsMade attempts) with
  | none => rfl
  | some made =>
    simp only [outcome_of_joined (hjoin made (List.mem_of_find?_eq_some hfirst))]
    rfl

end UdpClient

/-- A client from the moment it is enabled: its socket, its streams, whether
the network handler or the task that started it refers to it, and how many
sends are under way, whose handlers share the client. -/
structure ListeningClient where
  socket : UdpClient
  networkClient : NetworkClient
  referenced : Bool := true
  sends : Nat := 0

inductive SocketAction
  | completed (k : Nat) (received : ReceiveResult)
  | removed
  | wrote
  | sent

namespace ListeningClient

/-- A client lives as long as somebody shares it. -/
def alive (c : ListeningClient) : Bool :=
  c.referenced || 0 < c.sends || c.socket.receives.any Receive.shared

/-- The handler of the `k`th receive runs. -/
def completed (k : Nat) (received : ReceiveResult) (c : ListeningClient) : ListeningClient :=
  match ({ c.socket with receives := c.socket.receives.eraseIdx k }).handleRead received with
  | (some datagram, socket) =>
    { c with socket := socket, networkClient := c.networkClient.handleRead datagram.1 datagram.2 }
  | (none, socket) => { c with socket := socket }

/-- `remove_client` closes the client and drops it. -/
def removed (c : ListeningClient) : ListeningClient :=
  { c with socket := c.socket.close, referenced := false }

/-- `write` begins a send, to the group or to one recipient. -/
def wrote (c : ListeningClient) : ListeningClient := { c with sends := c.sends + 1 }

/-- `handle_write` does nothing, but it is the last to need its share. -/
def sent (c : ListeningClient) : ListeningClient := { c with sends := c.sends - 1 }

def step (c : ListeningClient) : SocketAction → ListeningClient
  | .completed k received => c.completed k received
  | .removed => c.removed
  | .wrote => c.wrote
  | .sent => c.sent

/-- A handler runs only for what is under way, and the network handler uses
only a client that it has. -/
def UnderWay (c : ListeningClient) : SocketAction → Prop
  | .completed k _ => k < c.socket.receives.length
  | .removed => c.referenced = true
  | .wrote => c.referenced = true
  | .sent => 0 < c.sends

/-- The handler runs on a client that was destroyed. That of a send shares
the client. -/
def Stray (c : ListeningClient) : SocketAction → Prop
  | .completed _ _ => c.alive = false
  | .removed => False
  | .wrote => False
  | .sent => False

instance (c : ListeningClient) : DecidablePred c.UnderWay
  | .completed k _ => inferInstanceAs (Decidable (k < c.socket.receives.length))
  | .removed => inferInstanceAs (Decidable (c.referenced = true))
  | .wrote => inferInstanceAs (Decidable (c.referenced = true))
  | .sent => inferInstanceAs (Decidable (0 < c.sends))

instance (c : ListeningClient) : DecidablePred c.Stray
  | .completed .. => inferInstanceAs (Decidable (c.alive = false))
  | .removed => inferInstanceAs (Decidable False)
  | .wrote => inferInstanceAs (Decidable False)
  | .sent => inferInstanceAs (Decidable False)

/-- A run without undefined behaviour. -/
def Runs (c : ListeningClient) (actions : List SocketAction) : Prop :=
  Throughout step (fun c action => c.UnderWay action ∧ ¬ c.Stray action) c actions

instance (c : ListeningClient) (actions : List SocketAction) : Decidable (c.Runs actions) :=
  inferInstanceAs (Decidable (Throughout step _ c actions))

end ListeningClient

namespace SocketAction

def datagram? : SocketAction → Option (List Byte × Address)
  | .completed _ (.ok datagram) => some datagram
  | _ => none

def fails : SocketAction → Bool
  | .completed _ (.error _) => true
  | _ => false

def aborts : SocketAction → Bool
  | .completed _ (.error .connectionAborted) => true
  | _ => false

def removes (action : SocketAction) : Bool := action matches .removed

def writes (action : SocketAction) : Bool := action matches .wrote

def sends (action : SocketAction) : Bool := action matches .sent

/-- What a client heard. -/
def datagrams (actions : List SocketAction) : List (List Byte × Address) :=
  actions.filterMap datagram?

def failed (actions : List SocketAction) : Bool := actions.any fails

def aborted (actions : List SocketAction) : Bool := actions.any aborts

def dropped (actions : List SocketAction) : Bool := actions.any removes

def written (actions : List SocketAction) : Nat := actions.countP writes

def sentOut (actions : List SocketAction) : Nat := actions.countP sends

@[simp] theorem datagrams_append (actions : List SocketAction) (action : SocketAction) :
    datagrams (actions ++ [action]) = datagrams actions ++ action.datagram?.toList := by
  unfold datagrams
  rw [List.filterMap_append, List.filterMap_cons]
  cases action.datagram? <;> rfl

@[simp] theorem failed_append (actions : List SocketAction) (action : SocketAction) :
    failed (actions ++ [action]) = (failed actions || action.fails) := by
  simp [failed]

@[simp] theorem aborted_append (actions : List SocketAction) (action : SocketAction) :
    aborted (actions ++ [action]) = (aborted actions || action.aborts) := by
  simp [aborted]

@[simp] theorem dropped_append (actions : List SocketAction) (action : SocketAction) :
    dropped (actions ++ [action]) = (dropped actions || action.removes) := by
  simp [dropped]

@[simp] theorem written_append (actions : List SocketAction) (action : SocketAction) :
    written (actions ++ [action]) = written actions + action.writes.toNat := by
  cases h : action.writes <;> simp [written, h]

@[simp] theorem sentOut_append (actions : List SocketAction) (action : SocketAction) :
    sentOut (actions ++ [action]) = sentOut actions + action.sends.toNat := by
  cases h : action.sends <;> simp [sentOut, h]

theorem dropped_iff : dropped actions = true ↔ .removed ∈ actions := by
  rw [dropped, List.any_eq_true]
  constructor
  · rintro ⟨action, haction, hremoves⟩
    cases action with
    | removed => exact haction
    | _ => contradiction
  · exact fun h => ⟨.removed, h, rfl⟩

theorem datagrams_ne_nil_iff :
    datagrams actions ≠ [] ↔ ∃ k datagram, .completed k (.ok datagram) ∈ actions := by
  rw [datagrams, ne_eq, List.filterMap_eq_nil_iff]
  constructor
  · intro h
    simp only [not_forall] at h
    obtain ⟨action, haction, hsome⟩ := h
    cases action with
    | completed k received =>
      cases received with
      | error => contradiction
      | ok datagram => exact ⟨k, datagram, haction⟩
    | _ => contradiction
  · rintro ⟨k, datagram, hmem⟩ h
    exact Option.some_ne_none _ (h _ hmem)

end SocketAction

namespace ListeningClient

-- ---------------------------------------------------------------------------
-- One receive after the other
-- ---------------------------------------------------------------------------

/-- A client that was just enabled. -/
def started (info : UdpInfo) (networkClient : NetworkClient) : ListeningClient where
  socket := UdpClient.listening ⟨info, false, []⟩
  networkClient := networkClient

def hear (client : NetworkClient) (datagram : List Byte × Address) : NetworkClient :=
  client.handleRead datagram.1 datagram.2

/-- How far a client got. The one receive that may be under way shares the
client as long as it is the first. -/
structure After (start : NetworkClient) (actions : List SocketAction) (c : ListeningClient) :
    Prop where
  receives : c.socket.receives =
    if SocketAction.failed actions then [] else [⟨(SocketAction.datagrams actions).isEmpty⟩]
  heard : c.networkClient = (SocketAction.datagrams actions).foldl hear start
  referenced : c.referenced = !SocketAction.dropped actions
  isOpen : c.socket.isOpen = !(SocketAction.dropped actions || SocketAction.aborted actions)
  sends : SocketAction.written actions = c.sends + SocketAction.sentOut actions

namespace After

open SocketAction

variable {start : NetworkClient} {actions : List SocketAction} {c : ListeningClient}

theorem started (info : UdpInfo) (start : NetworkClient) :
    After start [] (started info start) := ⟨rfl, rfl, rfl, rfl, rfl⟩

theorem removed (h : After start actions c) :
    After start (actions ++ [.removed]) c.removed where
  receives := by
    simpa [ListeningClient.removed, UdpClient.close, fails, datagram?] using h.receives
  heard := by simpa [ListeningClient.removed, datagram?] using h.heard
  referenced := by simp [ListeningClient.removed, removes]
  isOpen := by simp [ListeningClient.removed, UdpClient.close, removes]
  sends := by simpa [ListeningClient.removed, writes, SocketAction.sends] using h.sends

theorem wrote (h : After start actions c) : After start (actions ++ [.wrote]) c.wrote where
  receives := by simpa [ListeningClient.wrote, fails, datagram?] using h.receives
  heard := by simpa [ListeningClient.wrote, datagram?] using h.heard
  referenced := by simpa [ListeningClient.wrote, removes] using h.referenced
  isOpen := by simpa [ListeningClient.wrote, removes, aborts] using h.isOpen
  sends := by
    simp [ListeningClient.wrote, writes, SocketAction.sends, h.sends]
    omega

theorem sent (h : After start actions c) (hsends : 0 < c.sends) :
    After start (actions ++ [.sent]) c.sent where
  receives := by simpa [ListeningClient.sent, fails, datagram?] using h.receives
  heard := by simpa [ListeningClient.sent, datagram?] using h.heard
  referenced := by simpa [ListeningClient.sent, removes] using h.referenced
  isOpen := by simpa [ListeningClient.sent, removes, aborts] using h.isOpen
  sends := by
    simp [ListeningClient.sent, writes, SocketAction.sends, h.sends]
    omega

/-- While a receive is under way, none has failed yet, and it is the only one. -/
theorem of_underWay (h : After start actions c) (hk : k < c.socket.receives.length) :
    failed actions = false ∧ k = 0 ∧ c.socket.receives = [⟨(datagrams actions).isEmpty⟩] := by
  have hreceives := h.receives
  cases hfailed : failed actions with
  | true => simp [hreceives, hfailed] at hk
  | false =>
    rw [hfailed] at hreceives
    rw [hreceives] at hk
    exact ⟨rfl, Nat.lt_one_iff.mp hk, hreceives⟩

theorem completed (h : After start actions c) (hk : k < c.socket.receives.length)
    (received : ReceiveResult) :
    After start (actions ++ [.completed k received]) (c.completed k received) := by
  obtain ⟨hfailed, rfl, hreceives⟩ := h.of_underWay hk
  cases received with
  | ok datagram =>
    constructor <;> simp [ListeningClient.completed, UdpClient.handleRead, hreceives, hfailed,
      h.heard, h.referenced, h.isOpen, h.sends, fails, aborts, datagram?, removes, writes,
      SocketAction.sends, hear]
  | error error =>
    cases error <;> constructor <;>
      simp [ListeningClient.completed, UdpClient.handleRead, UdpClient.close, hreceives, h.heard,
        h.referenced, h.isOpen, h.sends, fails, aborts, datagram?, removes, writes,
        SocketAction.sends]

theorem step (h : After start actions c) {action : SocketAction} (hunder : c.UnderWay action) :
    After start (actions ++ [action]) (c.step action) := by
  cases action with
  | completed k received => exact h.completed hunder received
  | removed => exact h.removed
  | wrote => exact h.wrote
  | sent => exact h.sent hunder

theorem run {before : List SocketAction} (h : After start before c) (hrun : c.Runs actions) :
    After start (before ++ actions) (actions.foldl ListeningClient.step c) := by
  induction actions generalizing before c with
  | nil => simpa using h
  | cons action actions ih =>
    obtain ⟨⟨hunder, -⟩, hrest⟩ := hrun
    simpa using ih (h.step hunder) hrest

/-- What the handler of a receive needs is gone once the client was dropped
and all that was written was sent, unless the handler is the first. -/
theorem alive_eq (h : After start actions c) (hk : k < c.socket.receives.length) :
    c.alive = (!dropped actions || decide (written actions ≠ sentOut actions) ||
      (datagrams actions).isEmpty) := by
  obtain ⟨-, -, hreceives⟩ := h.of_underWay hk
  simp [alive, h.referenced, hreceives, h.sends, Nat.pos_iff_ne_zero]

end After

open SocketAction

/-- A client has one receive under way until one fails, and none from then on.
It passes on what it received in between, each datagram once and in order. It
is kept until it is removed, and its socket is open until then if no receive
was aborted. -/
theorem listens_until_failure (info : UdpInfo) (start : NetworkClient)
    (actions : List SocketAction) (hrun : (started info start).Runs actions) :
    (actions.foldl step (started info start)).socket.receives.length =
        (if failed actions then 0 else 1) ∧
      (actions.foldl step (started info start)).networkClient =
        (datagrams actions).foldl hear start ∧
      (∀ before action after, actions = before ++ action :: after → action.fails →
        ∀ k received, .completed k received ∉ after) ∧
      (actions.foldl step (started info start)).referenced = !dropped actions ∧
      (actions.foldl step (started info start)).socket.isOpen =
        !(dropped actions || aborted actions) := by
  have h : After start actions _ := (After.started info start).run hrun
  refine ⟨?_, h.heard, fun before action after hactions hfails k received hlater => ?_,
    h.referenced, h.isOpen⟩
  · rw [h.receives]
    split <;> rfl
  · obtain ⟨middle, rest, rfl⟩ := List.append_of_mem hlater
    rw [hactions, List.append_cons, ← List.append_assoc] at hrun
    have hsofar := (After.started info start).run hrun.left
    obtain ⟨hunder, -⟩ := hrun.step_after
    obtain ⟨hfailed, -⟩ := hsofar.of_underWay hunder
    simp [failed, hfails] at hfailed

/-- A client that heard one datagram, and writes on when its next receive
failed. -/
def heardOnce : List SocketAction :=
  [.completed 0 (.ok ([1], ⟨2⟩)), .completed 0 (.error (.other 0)), .wrote, .sent, .removed]

def lanInfo : UdpInfo := ⟨⟨1⟩, 1337, ⟨0xe0010102⟩⟩

def lanStart : NetworkClient := ⟨"a", lanInfo, .new 4095⟩

theorem listens_until_failure_once :
    (heardOnce.foldl step (started lanInfo lanStart)).socket.receives.length = 0 ∧
      (heardOnce.foldl step (started lanInfo lanStart)).networkClient =
        lanStart.handleRead [1] ⟨2⟩ ∧
      (∀ before action after, heardOnce = before ++ action :: after → action.fails →
        ∀ k received, .completed k received ∉ after) ∧
      (heardOnce.foldl step (started lanInfo lanStart)).referenced = false ∧
      (heardOnce.foldl step (started lanInfo lanStart)).socket.isOpen = false :=
  listens_until_failure lanInfo lanStart heardOnce (by decide)

/-- The handler of the next receive runs on a destroyed client exactly if the
network handler dropped the client, a datagram was received before, and no
send is under way. -/
theorem stray_iff (info : UdpInfo) (start : NetworkClient) (actions : List SocketAction)
    (hrun : (started info start).Runs actions) (k : Nat) (received : ReceiveResult)
    (hunder : (actions.foldl step (started info start)).UnderWay (.completed k received)) :
    (actions.foldl step (started info start)).Stray (.completed k received) ↔
      .removed ∈ actions ∧ (∃ j datagram, .completed j (.ok datagram) ∈ actions) ∧
        written actions = sentOut actions := by
  have h : After start actions _ := (After.started info start).run hrun
  rw [Stray, h.alive_eq hunder, ← dropped_iff, ← datagrams_ne_nil_iff]
  simp [and_left_comm, and_comm]

/-- A client that heard one datagram before it was dropped, and sent all it
wrote. Closing its socket then aborts a receive whose handler has nothing left
to run on. -/
def heardAndDropped : List SocketAction :=
  [.completed 0 (.ok ([1], ⟨2⟩)), .wrote, .removed, .sent]

theorem stray_after_datagram :
    (heardAndDropped.foldl step (started lanInfo lanStart)).Stray
        (.completed 0 (.error .operationAborted)) ↔
      .removed ∈ heardAndDropped ∧
        (∃ j datagram, .completed j (.ok datagram) ∈ heardAndDropped) ∧
        written heardAndDropped = sentOut heardAndDropped :=
  stray_iff lanInfo lanStart heardAndDropped (by decide) 0 (.error .operationAborted) (by decide)

/-- Before the send is over its handler keeps the client. -/
example : ¬ ((heardAndDropped.take 3).foldl step (started lanInfo lanStart)).Stray
    (.completed 0 (.error .operationAborted)) := by
  decide

end ListeningClient

end Discnet.Network
