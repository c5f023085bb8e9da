import Discnet.Lib.Simulation
import Discnet.AdapterManager
import Discnet.Route
import Discnet.Network.Messages
import Mathlib.Data.List.Forall2

/-!
# The packing budget

A call for the messages of an adapter packs up to 1024 bytes of payload: one
copy of a message for each recipient nothing was sent to yet. Whether a
message fits is tested once, and then all its copies are packed.
-/

namespace Discnet

open Lib Network.Messages

structure RecipientStatus where
  node : NodeIdentifier
  sent : Bool
  deriving DecidableEq, Repr

namespace RecipientStatus

/-- Nothing was sent yet, and the node has an identifier. -/
def isDue (recipient : RecipientStatus) : Bool := !recipient.sent && recipient.node.id ≠ 0

end RecipientStatus

structure MessageStatus where
  message : DataMessage
  recipients : List RecipientStatus
  deriving DecidableEq, Repr

structure MessageQueue where
  messageStatusList : List MessageStatus
  deriving DecidableEq, Repr

/-- What the loop over the queue carries along. -/
structure Packing where
  remainingPacketSize : Nat := 1024
  messages : MessageList := []
  deriving DecidableEq, Repr

namespace MessageQueue

section
variable {m : Type → Type} [Monad m] (sub : Nat → Nat → m Nat)

def packRecipient (message : DataMessage) (recipient : RecipientStatus) :
    StateT Packing m RecipientStatus := do
  if recipient.isDue then
    let packing ← get
    let remaining ← sub packing.remainingPacketSize message.buffer.length
    set (⟨remaining, packing.messages ++ [.data message]⟩ : Packing)
    return { recipient with sent := true }
  else
    return recipient

/-- The message for all its recipients, as long as it fits once. -/
def packMessage (status : MessageStatus) : StateT Packing m MessageStatus := do
  if status.message.buffer.length ≤ (← get).remainingPacketSize then
    let recipients ← status.recipients.mapM (packRecipient sub status.message)
    return { status with recipients }
  else
    return status

def packQueue : List MessageStatus → StateT Packing m (List MessageStatus)
  | [] => return []
  | status :: rest => do
    let status ← packMessage sub status
    if (← get).remainingPacketSize = 0 then
      return status :: rest
    return status :: (← packQueue rest)

/-- The packed messages and the queue afterwards, with `sub` to subtract what
is packed from what remains. -/
def pack (queue : MessageQueue) : m (MessageList × MessageQueue) := do
  let (list, packing) ← (packQueue sub queue.messageStatusList).run {}
  return (packing.messages, ⟨list⟩)

end

def getMessagesForAdapter (_adapterIdentifier : AdapterGuid) (queue : MessageQueue) :
    MessageList × MessageQueue :=
  queue.pack (m := Id) sizeSub

/-- The same with subtractions that do not wrap around. -/
def checkedMessagesForAdapter (_adapterIdentifier : AdapterGuid) (queue : MessageQueue) :
    Option (MessageList × MessageQueue) :=
  queue.pack difference

def payloadSize : Message → Nat
  | .data message => message.buffer.length
  | .discovery _ => 0

def payloadSizes (messages : MessageList) : Nat := (messages.map payloadSize).sum

/-- One copy of each message for every recipient it was sent to meanwhile. -/
def copies (before after : List MessageStatus) : MessageList :=
  (before.zip after).flatMap fun (old, new) =>
    (old.recipients.zip new.recipients).flatMap fun (r, r') =>
      if !r.sent && r'.sent then [.data old.message] else []

end MessageQueue

-- ---------------------------------------------------------------------------
-- Packing what fits
-- ---------------------------------------------------------------------------

/-- The recipient after its message was packed, where it was due. -/
def RecipientStatus.packed (recipient : RecipientStatus) : RecipientStatus :=
  if recipient.isDue then { recipient with sent := true } else recipient

namespace MessageStatus

def copyCount (status : MessageStatus) : Nat := status.recipients.countP RecipientStatus.isDue

/-- What all copies of the message take up. -/
def cost (status : MessageStatus) : Nat := status.copyCount * status.message.buffer.length

def packed (status : MessageStatus) : MessageStatus :=
  { status with recipients := status.recipients.map RecipientStatus.packed }

end MessageStatus

/-- The packing with so many copies of a message in it. -/
def Packing.packed (message : DataMessage) (count : Nat) (packing : Packing) : Packing where
  remainingPacketSize := packing.remainingPacketSize - count * message.buffer.length
  messages := packing.messages ++ List.replicate count (.data message)

theorem Packing.packed_zero (message : DataMessage) (packing : Packing) :
    packing.packed message 0 = packing := by
  simp [packed]

theorem Packing.packed_packed (message : DataMessage) (packing : Packing) :
    (packing.packed message 1).packed message n = packing.packed message (n + 1) := by
  simp only [packed, Packing.mk.injEq, Nat.add_mul, List.append_assoc,
    List.replicate_append_replicate, Nat.add_comm 1 n, and_true]
  omega

namespace MessageQueue

/-- On what fits, the subtraction is that of numbers. -/
def ExactSub {m : Type → Type} [Monad m] (sub : Nat → Nat → m Nat) : Prop :=
  ∀ a b, b ≤ a → a ≤ 1024 → sub a b = pure (a - b)

theorem exactSub_sizeSub : ExactSub (m := Id) sizeSub :=
  fun _ _ hb ha => sizeSub_of_le hb (by omega)

theorem exactSub_difference : ExactSub difference := fun _ _ hb _ => difference_of_le hb

section
variable {m : Type → Type} [Monad m] [LawfulMonad m] {sub : Nat → Nat → m Nat}
  (hsub : ExactSub sub) {packing : Packing} (hp : packing.remainingPacketSize ≤ 1024)
include hsub hp

theorem run_packRecipient {message : DataMessage} {recipient : RecipientStatus}
    (hdue : recipient.isDue) (hfits : message.buffer.length ≤ packing.remainingPacketSize) :
    (packRecipient sub message recipient).run packing =
      pure (recipient.packed, packing.packed message 1) := by
  simp [packRecipient, RecipientStatus.packed, hdue, hsub _ _ hfits hp, Packing.packed]

theorem run_packRecipients {message : DataMessage} {recipients : List RecipientStatus}
    (hfits : recipients.countP RecipientStatus.isDue * message.buffer.length ≤
      packing.remainingPacketSize) :
    (recipients.mapM (packRecipient sub message)).run packing =
      pure (recipients.map RecipientStatus.packed,
        packing.packed message (recipients.countP RecipientStatus.isDue)) := by
  induction recipients generalizing packing with
  | nil => simp [Packing.packed_zero]
  | cons recipient rest ih =>
    rw [List.mapM_cons, StateT.run_bind]
    cases hdue : recipient.isDue with
    | true =>
      rw [List.countP_cons_of_pos hdue, Nat.add_mul, Nat.one_mul] at hfits
      rw [run_packRecipient hsub hp hdue (by omega), pure_bind, StateT.run_bind,
        ih (by simp only [Packing.packed]; omega) (by simp only [Packing.packed]; omega)]
      simp [hdue, Packing.packed_packed]
    | false =>
      have hnot : ¬ recipient.isDue = true := by simp [hdue]
      rw [List.countP_cons_of_neg hnot] at hfits
      simp [packRecipient, hdue, ih hp hfits, RecipientStatus.packed]

theorem run_packMessage_of_le {status : MessageStatus}
    (hsize : status.message.buffer.length ≤ packing.remainingPacketSize)
    (hcost : status.cost ≤ packing.remainingPacketSize) :
    (packMessage sub status).run packing =
      pure (status.packed, packing.packed status.message status.copyCount) := by
  simp [packMessage, hsize, run_packRecipients hsub hp hcost, MessageStatus.packed,
    MessageStatus.copyCount]

end

section
variable {m : Type → Type} [Monad m] [LawfulMonad m] {sub : Nat → Nat → m Nat}

theorem run_packMessage_of_gt {packing : Packing} {status : MessageStatus}
    (hsize : packing.remainingPacketSize < status.message.buffer.length) :
    (packMessage sub status).run packing = pure (status, packing) := by
  simp [packMessage, Nat.not_le.mpr hsize]

theorem run_packQueue_cons (status : MessageStatus) (rest : List MessageStatus)
    (packing : Packing) :
    (packQueue sub (status :: rest)).run packing = do
      let (status, packing) ← (packMessage sub status).run packing
      if packing.remainingPacketSize = 0 then
        return (status :: rest, packing)
      let (rest, packing) ← (packQueue sub rest).run packing
      return (status :: rest, packing) := by
  rw [packQueue, StateT.run_bind]
  congr
  funext ⟨status, packing⟩
  rw [StateT.run_bind, StateT.run_get, pure_bind]
  by_cases hzero : packing.remainingPacketSize = 0 <;> simp [hzero]

end

/-- What remains behind a message. -/
def left (remaining : Nat) (status : MessageStatus) : Nat :=
  if status.message.buffer.length ≤ remaining then remaining - status.cost else remaining

/-- Where a message fits once, it fits for all its recipients. -/
def Fits : Nat → List MessageStatus → Prop
  | _, [] => True
  | remaining, status :: rest =>
    (status.message.buffer.length ≤ remaining → status.cost ≤ remaining) ∧
      (left remaining status = 0 ∨ Fits (left remaining status) rest)

theorem payloadSizes_append (messages others : MessageList) :
    payloadSizes (messages ++ others) = payloadSizes messages + payloadSizes others := by
  simp [payloadSizes]

theorem payloadSizes_replicate (count : Nat) (message : DataMessage) :
    payloadSizes (List.replicate count (.data message)) = count * message.buffer.length := by
  simp [payloadSizes, payloadSize]

/-- A message that fits for all its recipients, or not at all, takes its
copies from what remains. -/
theorem exists_run_packMessage {packing : Packing} {status : MessageStatus}
    (hp : packing.remainingPacketSize ≤ 1024)
    (hcost : status.message.buffer.length ≤ packing.remainingPacketSize →
      status.cost ≤ packing.remainingPacketSize) :
    ∃ status' packing', packing'.remainingPacketSize = left packing.remainingPacketSize status ∧
      payloadSizes packing'.messages + packing'.remainingPacketSize =
        payloadSizes packing.messages + packing.remainingPacketSize ∧
      ∀ (m : Type → Type) [Monad m] [LawfulMonad m] (sub : Nat → Nat → m Nat), ExactSub sub →
        (packMessage sub status).run packing = pure (status', packing') := by
  by_cases hsize : status.message.buffer.length ≤ packing.remainingPacketSize
  · refine ⟨status.packed, packing.packed status.message status.copyCount, ?_, ?_, ?_⟩
    · rw [left, if_pos hsize]
      rfl
    · have := hcost hsize
      simp only [Packing.packed, payloadSizes_append, payloadSizes_replicate]
      rw [MessageStatus.cost] at this
      omega
    · intro m _ _ sub hsub
      exact run_packMessage_of_le hsub hp hsize (hcost hsize)
  · refine ⟨status, packing, ?_, rfl, ?_⟩
    · rw [left, if_neg hsize]
    · intro m _ _ sub hsub
      exact run_packMessage_of_gt (Nat.not_le.mp hsize)

theorem left_le (remaining : Nat) (status : MessageStatus) : left remaining status ≤ remaining := by
  rw [left]
  split <;> omega

/-- As long as everything fits, no subtraction goes below zero. -/
theorem exists_run_packQueue {queue : List MessageStatus} (packing : Packing)
    (hp : packing.remainingPacketSize ≤ 1024) (hfits : Fits packing.remainingPacketSize queue) :
    ∃ queue' packing',
      payloadSizes packing'.messages + packing'.remainingPacketSize =
        payloadSizes packing.messages + packing.remainingPacketSize ∧
      ∀ (m : Type → Type) [Monad m] [LawfulMonad m] (sub : Nat → Nat → m Nat), ExactSub sub →
        (packQueue sub queue).run packing = pure (queue', packing') := by
  induction queue generalizing packing with
  | nil => exact ⟨[], packing, rfl, fun m _ _ sub _ => rfl⟩
  | cons status rest ih =>
    obtain ⟨hcost, hrest⟩ := hfits
    obtain ⟨status', packing', hleft, hsum, hrun⟩ := exists_run_packMessage hp hcost
    rw [← hleft] at hrest
    by_cases hzero : packing'.remainingPacketSize = 0
    · refine ⟨status' :: rest, packing', hsum, ?_⟩
      intro m _ _ sub hsub
      rw [run_packQueue_cons, hrun m sub hsub, pure_bind]
      simp [hzero]
    · have hp' : packing'.remainingPacketSize ≤ 1024 := by
        rw [hleft]
        exact Nat.le_trans (left_le _ _) hp
      obtain ⟨rest', packing'', hsum', hrun'⟩ := ih packing' hp' (hrest.resolve_left hzero)
      refine ⟨status' :: rest', packing'', hsum'.trans hsum, ?_⟩
      intro m _ _ sub hsub
      rw [run_packQueue_cons, hrun m sub hsub, pure_bind]
      simp [hzero, hrun' m sub hsub]

-- ---------------------------------------------------------------------------
-- What is packed
-- ---------------------------------------------------------------------------

/-- A recipient keeps its node, and its mark. -/
def Marks (old new : RecipientStatus) : Prop := new.node = old.node ∧ (old.sent → new.sent)

/-- A message keeps its content and its recipients. -/
def Updates (old new : MessageStatus) : Prop :=
  new.message = old.message ∧ List.Forall₂ Marks old.recipients new.recipients

theorem marks_packed (recipient : RecipientStatus) : Marks recipient recipient.packed := by
  unfold RecipientStatus.packed
  split
  · exact ⟨rfl, fun _ => rfl⟩
  · exact ⟨rfl, id⟩

theorem updates_refl (status : MessageStatus) : Updates status status :=
  ⟨rfl, List.forall₂_same.mpr fun _ _ => ⟨rfl, id⟩⟩

theorem updates_packed (status : MessageStatus) : Updates status status.packed :=
  ⟨rfl, List.forall₂_map_right_iff.mpr (List.forall₂_same.mpr fun r _ => marks_packed r)⟩

theorem copies_cons (old new : MessageStatus) (before after : List MessageStatus) :
    copies (old :: before) (new :: after) = copies [old] [new] ++ copies before after := by
  simp [copies]

theorem copies_self (queue : List MessageStatus) : copies queue queue = [] := by
  simp only [copies, List.zip, List.zipWith_self, List.flatMap_map, List.flatMap_eq_nil_iff]
  intro status _ recipient _
  simp

theorem copies_packed (status : MessageStatus) :
    copies [status] [status.packed] = List.replicate status.copyCount (.data status.message) := by
  simp only [copies, MessageStatus.packed, MessageStatus.copyCount, List.zip_cons_cons,
    List.zip_nil_right, List.flatMap_cons, List.flatMap_nil, List.append_nil]
  induction status.recipients with
  | nil => rfl
  | cons recipient rest ih =>
    rw [List.map_cons, List.zip_cons_cons, List.flatMap_cons, ih]
    cases hsent : recipient.sent <;> cases hid : decide (recipient.node.id ≠ 0) <;>
      simp_all [RecipientStatus.packed, RecipientStatus.isDue, List.replicate_succ]

section
variable (sub : Nat → Nat → Id Nat)

/-- Whatever the subtraction gives, a due recipient gets its copy. -/
theorem messages_packRecipient (message : DataMessage) (recipient : RecipientStatus)
    (packing : Packing) :
    ((packRecipient sub message recipient).run packing).1 = recipient.packed ∧
      ((packRecipient sub message recipient).run packing).2.messages =
        packing.messages ++ if recipient.isDue then [.data message] else [] := by
  unfold packRecipient RecipientStatus.packed
  split
  · exact ⟨rfl, rfl⟩
  · exact ⟨rfl, (List.append_nil _).symm⟩

theorem messages_packRecipients (message : DataMessage) (recipients : List RecipientStatus)
    (packing : Packing) :
    ((recipients.mapM (packRecipient sub message)).run packing).1 =
        recipients.map RecipientStatus.packed ∧
      ((recipients.mapM (packRecipient sub message)).run packing).2.messages =
        packing.messages ++
          List.replicate (recipients.countP RecipientStatus.isDue) (.data message) := by
  induction recipients generalizing packing with
  | nil => exact ⟨rfl, (List.append_nil _).symm⟩
  | cons recipient rest ih =>
    obtain ⟨hfirst, hmessages⟩ := messages_packRecipient sub message recipient packing
    have hrun := run_mapM_cons (packRecipient sub message) recipient rest packing
    rw [hrun, (ih _).1, (ih _).2, hfirst, hmessages]
    refine ⟨rfl, ?_⟩
    cases hdue : recipient.isDue <;> simp [hdue, List.replicate_succ]

theorem run_packMessage_of_fits {status : MessageStatus} {packing : Packing}
    (hsize : status.message.buffer.length ≤ packing.remainingPacketSize) :
    (packMessage sub status).run packing =
      (status.packed,
        ((status.recipients.mapM (packRecipient sub status.message)).run packing).2) := by
  rw [packMessage, StateT.run_bind, StateT.run_get, pure_bind, if_pos hsize, MessageStatus.packed,
    ← (messages_packRecipients sub status.message status.recipients packing).1]
  rfl

theorem run_packQueue_cons_eq (status : MessageStatus) (rest : List MessageStatus)
    (packing : Packing) :
    (packQueue sub (status :: rest)).run packing =
      if ((packMessage sub status).run packing).2.remainingPacketSize = 0 then
        (((packMessage sub status).run packing).1 :: rest, ((packMessage sub status).run packing).2)
      else
        (((packMessage sub status).run packing).1 ::
            ((packQueue sub rest).run ((packMessage sub status).run packing).2).1,
          ((packQueue sub rest).run ((packMessage sub status).run packing).2).2) :=
  run_packQueue_cons status rest packing

/-- A packed message comes with a copy for each recipient it is new to. -/
theorem messages_packMessage (status : MessageStatus) (packing : Packing) :
    Updates status ((packMessage sub status).run packing).1 ∧
      ((packMessage sub status).run packing).2.messages =
        packing.messages ++ copies [status] [((packMessage sub status).run packing).1] := by
  rcases Nat.lt_or_ge packing.remainingPacketSize status.message.buffer.length with hlt | hle
  · rw [run_packMessage_of_gt hlt]
    refine ⟨updates_refl status, ?_⟩
    show packing.messages = packing.messages ++ copies [status] [status]
    rw [copies_self, List.append_nil]
  · obtain ⟨hrecipients, hmessages⟩ :=
      messages_packRecipients sub status.message status.recipients packing
    rw [run_packMessage_of_fits sub hle]
    refine ⟨updates_packed status, ?_⟩
    rw [hmessages, copies_packed, MessageStatus.copyCount]

/-- No message is taken back, and each new one is for a recipient that is
marked with it. -/
theorem messages_packQueue (queue : List MessageStatus) (packing : Packing) :
    List.Forall₂ Updates queue ((packQueue sub queue).run packing).1 ∧
      ((packQueue sub queue).run packing).2.messages =
        packing.messages ++ copies queue ((packQueue sub queue).run packing).1 := by
  induction queue generalizing packing with
  | nil => exact ⟨.nil, (List.append_nil _).symm⟩
  | cons status rest ih =>
    obtain ⟨hupdates, hmessages⟩ := messages_packMessage sub status packing
    rw [run_packQueue_cons_eq]
    split
    · refine ⟨.cons hupdates (List.forall₂_same.mpr fun status _ => updates_refl status), ?_⟩
      rw [hmessages, copies_cons status _ rest, copies_self rest, List.append_nil]
    · obtain ⟨hrest, hmessages'⟩ := ih ((packMessage sub status).run packing).2
      refine ⟨.cons hupdates hrest, ?_⟩
      rw [hmessages', hmessages, copies_cons status _ rest, List.append_assoc]

end

-- ---------------------------------------------------------------------------
-- The budget
-- ---------------------------------------------------------------------------

/-- The payload packed before stays. -/
theorem payloadSizes_le_packQueue (sub : Nat → Nat → Id Nat) (queue : List MessageStatus)
    (packing : Packing) :
    payloadSizes packing.messages ≤
      payloadSizes ((packQueue sub queue).run packing).2.messages := by
  rw [(messages_packQueue sub queue packing).2, payloadSizes_append]
  exact Nat.le_add_right _ _

/-- A message that fits once but not for all its recipients goes over the
budget. -/
theorem lt_payloadSizes_packMessage (sub : Nat → Nat → Id Nat) {status : MessageStatus}
    {packing : Packing} (hsize : status.message.buffer.length ≤ packing.remainingPacketSize)
    (hcost : packing.remainingPacketSize < status.cost) :
    payloadSizes packing.messages + packing.remainingPacketSize <
      payloadSizes ((packMessage sub status).run packing).2.messages := by
  rw [run_packMessage_of_fits sub hsize,
    (messages_packRecipients sub status.message status.recipients packing).2, payloadSizes_append,
    payloadSizes_replicate]
  rw [MessageStatus.cost, MessageStatus.copyCount] at hcost
  omega

theorem payloadSizes_packMessage_le (sub : Nat → Nat → Id Nat) (status : MessageStatus)
    (rest : List MessageStatus) (packing : Packing) :
    payloadSizes ((packMessage sub status).run packing).2.messages ≤
      payloadSizes ((packQueue sub (status :: rest)).run packing).2.messages := by
  rw [run_packQueue_cons_eq]
  split
  · exact Nat.le_refl _
  · exact payloadSizes_le_packQueue sub rest _

theorem fits_of_payloadSizes_le {queue : List MessageStatus} (packing : Packing)
    (hp : packing.remainingPacketSize ≤ 1024)
    (hsum : payloadSizes ((packQueue (m := Id) sizeSub queue).run packing).2.messages ≤
      payloadSizes packing.messages + packing.remainingPacketSize) :
    Fits packing.remainingPacketSize queue := by
  induction queue generalizing packing with
  | nil => trivial
  | cons status rest ih =>
    have hcost : status.message.buffer.length ≤ packing.remainingPacketSize →
        status.cost ≤ packing.remainingPacketSize := by
      intro hsize
      by_contra hover
      have hlt := lt_payloadSizes_packMessage sizeSub hsize (Nat.not_le.mp hover)
      have hle := payloadSizes_packMessage_le sizeSub status rest packing
      omega
    obtain ⟨status', packing', hleft, hkeep, hrun⟩ := exists_run_packMessage hp hcost
    have hrun' := hrun Id sizeSub exactSub_sizeSub
    refine ⟨hcost, ?_⟩
    rw [← hleft]
    by_cases hzero : packing'.remainingPacketSize = 0
    · exact .inl hzero
    · right
      apply ih
      · rw [hleft]
        exact Nat.le_trans (left_le _ _) hp
      · rw [hkeep]
        rw [run_packQueue_cons_eq, hrun'] at hsum
        split at hsum
        case isTrue h => exact absurd h hzero
        case isFalse => exact hsum

/-- What a call is meant to keep to: at most 1024 bytes of payload, no
subtraction below zero, and one copy for each recipient that is marked as
sent, of the others none. -/
structure KeepsBudget (adapterIdentifier : AdapterGuid) (queue : MessageQueue) : Prop where
  sum_le : payloadSizes (queue.getMessagesForAdapter adapterIdentifier).1 ≤ 1024
  exact : queue.checkedMessagesForAdapter adapterIdentifier =
    some (queue.getMessagesForAdapter adapterIdentifier)
  updates : List.Forall₂ Updates queue.messageStatusList
    (queue.getMessagesForAdapter adapterIdentifier).2.messageStatusList
  copies : (queue.getMessagesForAdapter adapterIdentifier).1 =
    copies queue.messageStatusList
      (queue.getMessagesForAdapter adapterIdentifier).2.messageStatusList

theorem run_pack (queue : MessageQueue) {m : Type → Type} [Monad m] [LawfulMonad m]
    {sub : Nat → Nat → m Nat} {list : List MessageStatus} {packing : Packing}
    (h : (packQueue sub queue.messageStatusList).run {} = pure (list, packing)) :
    queue.pack sub = pure (packing.messages, ⟨list⟩) := by
  simp [pack, h]

/-- A call keeps to its budget if and only if, of all messages it comes to,
those that fit in what remains fit for all their recipients. -/
theorem keepsBudget_iff (adapterIdentifier : AdapterGuid) (queue : MessageQueue) :
    KeepsBudget adapterIdentifier queue ↔ Fits 1024 queue.messageStatusList := by
  obtain ⟨hupdates, hcopies⟩ :=
    messages_packQueue sizeSub queue.messageStatusList {}
  constructor
  · intro h
    exact fits_of_payloadSizes_le {} (Nat.le_refl _) h.sum_le
  · intro hfits
    obtain ⟨list, packing, hsum, hrun⟩ := exists_run_packQueue {} (Nat.le_refl _) hfits
    have hmessages := run_pack queue (hrun Id sizeSub exactSub_sizeSub)
    have hchecked := run_pack queue (hrun Option difference exactSub_difference)
    constructor
    · have hbudget : payloadSizes packing.messages + packing.remainingPacketSize = 0 + 1024 := hsum
      rw [getMessagesForAdapter, hmessages]
      show payloadSizes packing.messages ≤ 1024
      omega
    · rw [checkedMessagesForAdapter, getMessagesForAdapter, hmessages, hchecked]
      rfl
    · exact hupdates
    · exact hcopies

def twoRecipients : MessageQueue where
  messageStatusList := [{
    message := { identifier := 1, buffer := List.replicate 600 0 }
    recipients := [⟨⟨1, ⟨0x0A000001⟩⟩, false⟩, ⟨⟨2, ⟨0x0A000002⟩⟩, false⟩] }]

/-- The second copy does not fit. -/
theorem second_copy_over_budget :
    payloadSizes (twoRecipients.getMessagesForAdapter "").1 = 1200 ∧
      twoRecipients.checkedMessagesForAdapter "" = none ∧ ¬ KeepsBudget "" twoRecipients := by
  have hsum : payloadSizes (twoRecipients.getMessagesForAdapter "").1 = 1200 := by decide +kernel
  refine ⟨hsum, by decide +kernel, ?_⟩
  intro h
  have hle := h.sum_le
  omega

end MessageQueue

end Discnet
