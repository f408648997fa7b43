import CallingService.Backend.Rtp.Packet
import Mathlib.Data.List.Perm.Basic
import Mathlib.Data.List.Perm.Subperm

/-!
# The pacer

Packets wait in two queues until the send rate admits them; retransmissions go
first.  When there is nothing to send the pacer asks for padding.

Rates are in bits per second and sizes in bits.  The source multiplies and
divides them in floating point; the two operations are parameters here.
-/

namespace CallingService.Backend

open Foundation Rtp

abbrev DataRate := Nat

abbrev DataSize := Nat

/-- The floating-point operations on rates. -/
structure RateArithmetic where
  sizeOver : DataRate → Duration → DataSize
  timeFor : DataSize → DataRate → Duration

structure PacerConfig where
  mediaSendRate : DataRate
  paddingSendRate : DataRate
  paddingSsrc : Option Ssrc

structure Pacer where
  config : PacerConfig
  videoQueue : List Packet
  rtxQueue : List Packet
  queuedSize : DataSize
  lastSent : Option Instant
  mediaDebt : DataSize
  paddingDebt : DataSize

namespace Pacer

def maxDebtInTime : Duration := fromMillis 500

def new (config : PacerConfig) : Pacer where
  config := config
  videoQueue := []
  rtxQueue := []
  queuedSize := 0
  lastSent := none
  mediaDebt := 0
  paddingDebt := 0

def queueIsEmpty (pacer : Pacer) : Bool :=
  pacer.videoQueue.isEmpty && pacer.rtxQueue.isEmpty

def pastSendTime (sendTime : Option Instant) (now : Instant) : Bool :=
  match sendTime with
  | some time => time ≤ now
  | none => false

variable (rates : RateArithmetic)

def calculateNextMediaSendTime (pacer : Pacer) (now : Instant) :
    Option Instant :=
  if 0 < pacer.config.mediaSendRate then
    match pacer.lastSent with
    | some lastSent =>
        some (lastSent + rates.timeFor pacer.mediaDebt pacer.config.mediaSendRate)
    | none => some now
  else none

def calculateNextPaddingSendTime (pacer : Pacer) (now : Instant) :
    Option Instant :=
  if 0 < pacer.config.paddingSendRate ∧ 0 < pacer.config.mediaSendRate then
    match pacer.lastSent with
    | some lastSent =>
        let mediaDrainTime :=
          rates.timeFor pacer.mediaDebt pacer.config.mediaSendRate
        let paddingDrainTime :=
          rates.timeFor pacer.paddingDebt pacer.config.paddingSendRate
        some (lastSent + max mediaDrainTime paddingDrainTime)
    | none => some now
  else none

def calculateNextSendTime (pacer : Pacer) (now : Instant) : Option Instant :=
  if pacer.queueIsEmpty then pacer.calculateNextPaddingSendTime rates now
  else pacer.calculateNextMediaSendTime rates now

def updateBudgetWithTime (pacer : Pacer) (now : Instant) : Pacer :=
  match pacer.lastSent with
  | some lastSent =>
      if lastSent ≤ now then
        { pacer with
          mediaDebt := pacer.mediaDebt -
            rates.sizeOver pacer.config.mediaSendRate (now - lastSent)
          paddingDebt := pacer.paddingDebt -
            rates.sizeOver pacer.config.paddingSendRate (now - lastSent)
          lastSent := some now }
      else pacer
  | none => { pacer with lastSent := some now }

/-- A debt grows with the sent data, up to what the rate pays off in
`MAX_DEBT_IN_TIME`. -/
def increaseDebt (debt : DataSize) (rate : DataRate) (size : DataSize) :
    DataSize :=
  if rate ≠ 0 then min (debt + size) (rates.sizeOver rate maxDebtInTime)
  else debt + size

def updateBudgetWithSentPadding (pacer : Pacer) (size : DataSize) : Pacer :=
  { pacer with
    paddingDebt :=
      increaseDebt rates pacer.paddingDebt pacer.config.paddingSendRate size }

def updateBudgetWithSentData (pacer : Pacer) (size : DataSize) : Pacer :=
  let charged := { pacer with
    mediaDebt :=
      increaseDebt rates pacer.mediaDebt pacer.config.mediaSendRate size }
  charged.updateBudgetWithSentPadding rates size

def setConfig (pacer : Pacer) (config : PacerConfig) (now : Instant) :
    Pacer × Option Instant :=
  let oldSchedule := pacer.calculateNextSendTime rates now
  let configured :=
    { pacer with config := config }.updateBudgetWithSentData rates 0
  match configured.calculateNextSendTime rates now with
  | none => (configured, none)
  | some newSchedule =>
      match oldSchedule with
      | none =>
          if newSchedule < now then
            (configured.updateBudgetWithTime rates now, some now)
          else (configured, some newSchedule)
      | some oldSchedule =>
          if newSchedule ≤ now then
            (configured.updateBudgetWithTime rates
              (if now < oldSchedule then now else oldSchedule), some now)
          else (configured, some newSchedule)

/-- Put a packet at the end of its queue. -/
def push (pacer : Pacer) (media : Packet) : Pacer :=
  let counted := { pacer with queuedSize := pacer.queuedSize + media.size }
  if media.isRtx then
    { counted with rtxQueue := counted.rtxQueue ++ [media] }
  else { counted with videoQueue := counted.videoQueue ++ [media] }

def forceEnqueue (pacer : Pacer) (media : Packet) : Pacer := pacer.push media

def enqueue (pacer : Pacer) (media : Packet) (now : Instant) :
    Pacer × Option Packet × Option Instant :=
  let nextMediaSendTime := pacer.calculateNextMediaSendTime rates now
  let wasEmpty := pacer.queueIsEmpty
  if wasEmpty && pastSendTime nextMediaSendTime now then
    let sent := (pacer.updateBudgetWithTime rates now).updateBudgetWithSentData
      rates media.size
    (sent, some media, sent.calculateNextSendTime rates now)
  else
    let queued := pacer.push media
    (queued, none,
      if wasEmpty then queued.calculateNextSendTime rates now else none)

/-- Drop the packets past their deadline and take the first one left: the rest
of the queue, the remaining size and the packet. -/
def popQueue : List Packet → DataSize → Instant →
    List Packet × DataSize × Option Packet
  | [], queuedSize, _ => ([], queuedSize, none)
  | media :: rest, queuedSize, now =>
      if media.isPastDeadline now then
        popQueue rest (queuedSize - media.size) now
      else (rest, queuedSize - media.size, some media)

def popRtx (pacer : Pacer) (now : Instant) : Pacer × Option Packet :=
  let popped := popQueue pacer.rtxQueue pacer.queuedSize now
  ({ pacer with rtxQueue := popped.1, queuedSize := popped.2.1 }, popped.2.2)

def popVideo (pacer : Pacer) (now : Instant) : Pacer × Option Packet :=
  let popped := popQueue pacer.videoQueue pacer.queuedSize now
  ({ pacer with videoQueue := popped.1, queuedSize := popped.2.1 },
    popped.2.2)

def popRtxOrVideo (pacer : Pacer) (now : Instant) : Pacer × Option Packet :=
  let popped := pacer.popRtx now
  match popped.2 with
  | some media => (popped.1, some media)
  | none => popped.1.popVideo now

section Dequeue

-- the padding generator works on a state of its own
variable {Generator : Type}
variable (generatePadding :
  Generator → Ssrc → Except Panic (Generator × Option Packet))

/-- The last part of `dequeue`, which sends padding. -/
def dequeuePadding (pacer : Pacer) (generator : Generator) (wasEmpty : Bool)
    (now : Instant) :
    Except Panic (Pacer × Generator × Option Packet × Option Instant) :=
  match pacer.config.paddingSsrc with
  | none => .ok (pacer, generator, none, none)
  | some paddingSsrc =>
      if pastSendTime (pacer.calculateNextPaddingSendTime rates now) now then do
        let (next, generated) ← generatePadding generator paddingSsrc
        match generated with
        | some padding =>
            let sent := (pacer.updateBudgetWithTime rates now
              ).updateBudgetWithSentPadding rates padding.size
            return (sent, next, some padding,
              sent.calculateNextSendTime rates now)
        | none => return (pacer, next, none, none)
      else if !wasEmpty then
        .ok (pacer, generator, none, pacer.calculateNextSendTime rates now)
      else .ok (pacer, generator, none, none)

def dequeue (pacer : Pacer) (generator : Generator) (now : Instant) :
    Except Panic (Pacer × Generator × Option Packet × Option Instant) :=
  if pacer.queueIsEmpty then
    pacer.dequeuePadding rates generatePadding generator true now
  else if pastSendTime (pacer.calculateNextMediaSendTime rates now) now then
    let popped := pacer.popRtxOrVideo now
    match popped.2 with
    | some media =>
        let sent := (popped.1.updateBudgetWithTime rates now
          ).updateBudgetWithSentData rates media.size
        .ok (sent, generator, some media, sent.calculateNextSendTime rates now)
    | none =>
        popped.1.dequeuePadding rates generatePadding generator false now
  else .ok (pacer, generator, none, none)

end Dequeue

/-! ## What happens to the queued packets -/

/-- All packets that wait to be sent. -/
def queued (pacer : Pacer) : List Packet := pacer.rtxQueue ++ pacer.videoQueue

@[simp] theorem queued_new (config : PacerConfig) : (new config).queued = [] :=
  rfl

@[simp] theorem queued_updateBudgetWithTime (pacer : Pacer) (now : Instant) :
    (pacer.updateBudgetWithTime rates now).queued = pacer.queued := by
  unfold updateBudgetWithTime
  split
  · split
    · rfl
    · rfl
  · rfl

@[simp] theorem queued_updateBudgetWithSentPadding (pacer : Pacer)
    (size : DataSize) :
    (pacer.updateBudgetWithSentPadding rates size).queued = pacer.queued := rfl

@[simp] theorem queued_updateBudgetWithSentData (pacer : Pacer)
    (size : DataSize) :
    (pacer.updateBudgetWithSentData rates size).queued = pacer.queued := rfl

/-- `set_config` may bring the budget up to date once it has the new rates. -/
theorem setConfig_cases (pacer : Pacer) (config : PacerConfig)
    (now : Instant) :
    (pacer.setConfig rates config now).1 =
        { pacer with config := config }.updateBudgetWithSentData rates 0 ∨
      ∃ time, (pacer.setConfig rates config now).1 =
        ({ pacer with config := config }.updateBudgetWithSentData rates
          0).updateBudgetWithTime rates time := by
  unfold setConfig
  dsimp only
  split
  · exact .inl rfl
  · split
    · split
      · exact .inr ⟨_, rfl⟩
      · exact .inl rfl
    · split
      · exact .inr ⟨_, rfl⟩
      · exact .inl rfl

@[simp] theorem queued_setConfig (pacer : Pacer) (config : PacerConfig)
    (now : Instant) :
    (pacer.setConfig rates config now).1.queued = pacer.queued := by
  rcases pacer.setConfig_cases rates config now with same | ⟨time, updated⟩
  · rw [same]
    rfl
  · rw [updated, queued_updateBudgetWithTime]
    rfl

theorem queued_push (pacer : Pacer) (media : Packet) :
    (pacer.push media).queued.Perm (media :: pacer.queued) := by
  unfold push queued
  dsimp only
  split
  · rw [List.append_assoc]
    exact List.perm_middle
  · rw [← List.append_assoc]
    exact List.perm_append_singleton media _

/-- A packet given to `enqueue` is handed out at once or waits. -/
theorem enqueue_perm (pacer : Pacer) (media : Packet) (now : Instant) :
    ((pacer.enqueue rates media now).2.1.toList ++
      (pacer.enqueue rates media now).1.queued).Perm
        (media :: pacer.queued) := by
  unfold enqueue
  dsimp only
  split
  · rw [queued_updateBudgetWithSentData, queued_updateBudgetWithTime]
    exact .refl _
  · exact queued_push pacer media

theorem popQueue_sublist (now : Instant) :
    ∀ (queue : List Packet) (queuedSize : DataSize),
      ((popQueue queue queuedSize now).2.2.toList ++
        (popQueue queue queuedSize now).1).Sublist queue := by
  intro queue
  induction queue with
  | nil =>
      intro _
      exact .slnil
  | cons media rest ih =>
      intro queuedSize
      unfold popQueue
      split
      · exact (ih _).trans (List.sublist_cons_self media rest)
      · exact .refl _

theorem popRtx_sublist (pacer : Pacer) (now : Instant) :
    ((pacer.popRtx now).2.toList ++ (pacer.popRtx now).1.queued).Sublist
      pacer.queued := by
  unfold popRtx queued
  dsimp only
  rw [← List.append_assoc]
  exact (popQueue_sublist now _ _).append_right _

theorem popVideo_subperm (pacer : Pacer) (now : Instant) :
    ((pacer.popVideo now).2.toList ++ (pacer.popVideo now).1.queued).Subperm
      pacer.queued := by
  unfold popVideo queued
  dsimp only
  refine ⟨_, ?_, (popQueue_sublist now pacer.videoQueue
    pacer.queuedSize).append_left pacer.rtxQueue⟩
  rw [← List.append_assoc, ← List.append_assoc]
  exact List.perm_append_comm.append_right _

theorem popRtxOrVideo_subperm (pacer : Pacer) (now : Instant) :
    ((pacer.popRtxOrVideo now).2.toList ++
      (pacer.popRtxOrVideo now).1.queued).Subperm pacer.queued := by
  have first := (popRtx_sublist pacer now).subperm
  unfold popRtxOrVideo
  dsimp only
  cases popped : (pacer.popRtx now).2 with
  | some media =>
      rw [popped] at first
      exact first
  | none =>
      rw [popped] at first
      exact (popVideo_subperm _ now).trans first

section Dequeue

variable {Generator : Type} {pacer after : Pacer}
variable {generator next : Generator} {now : Instant}
variable {result : Option Packet} {schedule : Option Instant}
variable {generatePadding :
  Generator → Ssrc → Except Panic (Generator × Option Packet)}

/-- `dequeue` hands out a queued packet, or what the generator returns. -/
def DequeueOutcome (pacer : Pacer) (generator : Generator) (after : Pacer)
    (next : Generator) (result : Option Packet) : Prop :=
  (next = generator ∧ (result.toList ++ after.queued).Subperm pacer.queued) ∨
    (∃ ssrc, generatePadding generator ssrc = .ok (next, result)) ∧
      after.queued.Subperm pacer.queued

theorem dequeuePadding_outcome {wasEmpty : Bool}
    (dequeued : pacer.dequeuePadding rates generatePadding generator wasEmpty
      now = .ok (after, next, result, schedule)) :
    @DequeueOutcome Generator generatePadding pacer generator after next
      result := by
  unfold dequeuePadding at dequeued
  split at dequeued
  case h_1 =>
    cases dequeued
    exact .inl ⟨rfl, .refl _⟩
  case h_2 paddingSsrc _ =>
    split at dequeued
    case isTrue =>
      obtain ⟨⟨generated, padding⟩, drew, rest⟩ :=
        bind_eq_ok_iff.mp dequeued
      cases padding with
      | some padding =>
          cases rest
          refine .inr ⟨⟨paddingSsrc, drew⟩, ?_⟩
          rw [queued_updateBudgetWithSentPadding, queued_updateBudgetWithTime]
      | none =>
          cases rest
          exact .inr ⟨⟨paddingSsrc, drew⟩, .refl _⟩
    case isFalse =>
      split at dequeued
      · cases dequeued
        exact .inl ⟨rfl, .refl _⟩
      · cases dequeued
        exact .inl ⟨rfl, .refl _⟩

theorem dequeue_outcome
    (dequeued : pacer.dequeue rates generatePadding generator now =
      .ok (after, next, result, schedule)) :
    @DequeueOutcome Generator generatePadding pacer generator after next
      result := by
  unfold dequeue at dequeued
  split at dequeued
  · exact dequeuePadding_outcome rates dequeued
  · split at dequeued
    · have popped := popRtxOrVideo_subperm pacer now
      dsimp only at dequeued
      split at dequeued
      case h_1 media found =>
        cases dequeued
        rw [found] at popped
        refine .inl ⟨rfl, ?_⟩
        rw [queued_updateBudgetWithSentData, queued_updateBudgetWithTime]
        exact popped
      case h_2 found =>
        rw [found] at popped
        rcases dequeuePadding_outcome rates dequeued with
          ⟨same, kept⟩ | ⟨generated, kept⟩
        · exact .inl ⟨same, kept.trans popped⟩
        · exact .inr ⟨generated, kept.trans popped⟩
    · cases dequeued
      exact .inl ⟨rfl, .refl _⟩

end Dequeue

end Pacer

end CallingService.Backend
