import CallingService.Backend.Pacer
import CallingService.Foundation.Run

/-!
# Runs of the pacer

The operations of the pacer in any order.  An event records what the caller
gets, and what becomes of the packets in the queues: media that leaves to be
sent, and packets dropped past their deadline.
-/

namespace CallingService.Backend

open Foundation Rtp

inductive PacerOperation where
  | enqueue (media : Packet) (now : Instant)
  | forceEnqueue (media : Packet)
  | dequeue (now : Instant)
  | setConfig (config : PacerConfig) (now : Instant)

structure PacerEvent where
  operation : PacerOperation
  result : Option Packet
  schedule : Option Instant
  /-- The media packet handed out; a result may be padding as well. -/
  media : Option Packet
  expired : List Packet

namespace PacerEvent

/-- The packet that the caller hands over. -/
def given (event : PacerEvent) : List Packet :=
  match event.operation with
  | .enqueue media _ => [media]
  | .forceEnqueue media => [media]
  | _ => []

/-- The packets that leave the pacer, in their order. -/
def departed (event : PacerEvent) : List Packet :=
  event.expired ++ event.media.toList

end PacerEvent

namespace Pacer

variable (rates : RateArithmetic)

/-- Whether `dequeue` looks into the queues. -/
def mediaIsDue (pacer : Pacer) (now : Instant) : Bool :=
  !pacer.queueIsEmpty &&
    pastSendTime (pacer.calculateNextMediaSendTime rates now) now

/-- The media packet that `dequeue` takes from a queue. -/
def dequeuedMedia (pacer : Pacer) (now : Instant) : Option Packet :=
  if pacer.mediaIsDue rates now then (pacer.popRtxOrVideo now).2 else none

/-- The packets that are dropped while one is looked for. -/
def droppedPackets (pacer : Pacer) (now : Instant) : List Packet :=
  pacer.rtxQueue.takeWhile (·.isPastDeadline now) ++
    if (pacer.popRtx now).2.isSome then []
    else pacer.videoQueue.takeWhile (·.isPastDeadline now)

def expiredPackets (pacer : Pacer) (now : Instant) : List Packet :=
  if pacer.mediaIsDue rates now then pacer.droppedPackets now else []

variable {Generator : Type}
variable (generatePadding :
  Generator → Ssrc → Except Panic (Generator × Option Packet))

inductive Step : Pacer × Generator → PacerEvent → Pacer × Generator → Prop where
  | enqueue {pacer after : Pacer} {generator : Generator} {media : Packet}
      {now : Instant} {result : Option Packet} {schedule : Option Instant} :
      pacer.enqueue rates media now = (after, result, schedule) →
      Step (pacer, generator)
        ⟨.enqueue media now, result, schedule, result, []⟩ (after, generator)
  | forceEnqueue (pacer : Pacer) (generator : Generator) (media : Packet) :
      Step (pacer, generator) ⟨.forceEnqueue media, none, none, none, []⟩
        (pacer.forceEnqueue media, generator)
  | dequeue {pacer after : Pacer} {generator next : Generator} {now : Instant}
      {result : Option Packet} {schedule : Option Instant} :
      pacer.dequeue rates generatePadding generator now =
        .ok (after, next, result, schedule) →
      Step (pacer, generator)
        ⟨.dequeue now, result, schedule, pacer.dequeuedMedia rates now,
          pacer.expiredPackets rates now⟩ (after, next)
  | setConfig {pacer after : Pacer} {generator : Generator}
      {config : PacerConfig} {now : Instant} {schedule : Option Instant} :
      pacer.setConfig rates config now = (after, schedule) →
      Step (pacer, generator) ⟨.setConfig config now, none, schedule, none, []⟩
        (after, generator)

/-! ## The parts of `dequeue` -/

variable {pacer after : Pacer} {generator next : Generator} {now : Instant}
variable {result : Option Packet} {schedule : Option Instant}

/-- `dequeue` hands out media. -/
theorem dequeue_of_media {media : Packet}
    (taken : pacer.dequeuedMedia rates now = some media) :
    pacer.dequeue rates generatePadding generator now =
      .ok (((pacer.popRtxOrVideo now).1.updateBudgetWithTime rates now
            ).updateBudgetWithSentData rates media.size,
        generator, some media,
        (((pacer.popRtxOrVideo now).1.updateBudgetWithTime rates now
            ).updateBudgetWithSentData rates media.size).calculateNextSendTime
          rates now) := by
  unfold dequeuedMedia mediaIsDue at taken
  split at taken
  · rename_i due
    rw [Bool.and_eq_true, Bool.not_eq_true'] at due
    unfold dequeue
    rw [due.1, due.2]
    dsimp only
    rw [taken]
    rfl
  · cases taken

/-- `dequeue` finds nothing but expired packets, or nothing is queued. -/
theorem dequeue_of_no_media (noMedia : pacer.dequeuedMedia rates now = none)
    (notEarly : pacer.queueIsEmpty = true ∨ pacer.mediaIsDue rates now = true) :
    pacer.dequeue rates generatePadding generator now =
      (if pacer.queueIsEmpty then pacer else (pacer.popRtxOrVideo now).1
        ).dequeuePadding rates generatePadding generator pacer.queueIsEmpty
          now := by
  unfold dequeuedMedia mediaIsDue at *
  cases isEmpty : pacer.queueIsEmpty with
  | true =>
      unfold dequeue
      rw [isEmpty]
      rfl
  | false =>
      rw [isEmpty] at notEarly noMedia
      rcases notEarly with absurdity | due
      · cases absurdity
      · rw [due, if_pos rfl] at noMedia
        rw [Bool.and_eq_true] at due
        unfold dequeue
        rw [isEmpty, due.2]
        dsimp only
        rw [noMedia]
        rfl

/-- `dequeue` is too early for the packets that wait. -/
theorem dequeue_of_early (waits : pacer.queueIsEmpty = false)
    (early : pacer.mediaIsDue rates now = false) :
    pacer.dequeue rates generatePadding generator now =
      .ok (pacer, generator, none, none) := by
  unfold mediaIsDue at early
  rw [waits, Bool.not_false, Bool.true_and] at early
  unfold dequeue
  rw [waits, early]
  rfl

/-- A call of `dequeue` that returns, by what becomes of the media. -/
inductive Dequeues (pacer : Pacer) (generator : Generator) (now : Instant) :
    Pacer → Generator → Option Packet → Option Instant → Prop where
  | media {media : Packet} :
      pacer.dequeuedMedia rates now = some media →
      Dequeues pacer generator now
        (((pacer.popRtxOrVideo now).1.updateBudgetWithTime rates now
          ).updateBudgetWithSentData rates media.size)
        generator (some media)
        ((((pacer.popRtxOrVideo now).1.updateBudgetWithTime rates now
          ).updateBudgetWithSentData rates media.size).calculateNextSendTime
            rates now)
  | noMedia {after : Pacer} {next : Generator} {result : Option Packet}
      {schedule : Option Instant} :
      pacer.dequeuedMedia rates now = none →
      (pacer.queueIsEmpty = true ∨ pacer.mediaIsDue rates now = true) →
      (if pacer.queueIsEmpty then pacer else (pacer.popRtxOrVideo now).1
        ).dequeuePadding rates generatePadding generator pacer.queueIsEmpty
          now = .ok (after, next, result, schedule) →
      Dequeues pacer generator now after next result schedule
  | early :
      pacer.dequeuedMedia rates now = none →
      pacer.queueIsEmpty = false →
      pacer.mediaIsDue rates now = false →
      Dequeues pacer generator now pacer generator none none

theorem dequeues_of_ok
    (dequeued : pacer.dequeue rates generatePadding generator now =
      .ok (after, next, result, schedule)) :
    Dequeues rates generatePadding pacer generator now after next result
      schedule := by
  cases taken : pacer.dequeuedMedia rates now with
  | some media =>
      rw [dequeue_of_media rates generatePadding taken] at dequeued
      cases dequeued
      exact .media taken
  | none =>
      by_cases notEarly : pacer.queueIsEmpty = true ∨
          pacer.mediaIsDue rates now = true
      · rw [dequeue_of_no_media rates generatePadding taken notEarly]
          at dequeued
        exact .noMedia taken notEarly dequeued
      · rw [not_or, Bool.not_eq_true, Bool.not_eq_true] at notEarly
        rw [dequeue_of_early rates generatePadding notEarly.1 notEarly.2]
          at dequeued
        cases dequeued
        exact .early taken notEarly.1 notEarly.2

/-- What `enqueue` may do. -/
theorem enqueue_cases {media : Packet}
    (enqueued : pacer.enqueue rates media now = (after, result, schedule)) :
    (pacer.queueIsEmpty = true ∧
      pastSendTime (pacer.calculateNextMediaSendTime rates now) now = true ∧
      result = some media ∧
      after = (pacer.updateBudgetWithTime rates now
        ).updateBudgetWithSentData rates media.size ∧
      schedule = after.calculateNextSendTime rates now) ∨
    (result = none ∧ after = pacer.push media ∧
      (schedule = none ∨ schedule = after.calculateNextSendTime rates now)) := by
  unfold enqueue at enqueued
  dsimp only at enqueued
  split at enqueued
  · rename_i immediate
    rw [Bool.and_eq_true] at immediate
    cases enqueued
    exact .inl ⟨immediate.1, immediate.2, rfl, rfl, rfl⟩
  · simp only [Prod.mk.injEq] at enqueued
    obtain ⟨rfl, rfl, scheduled⟩ := enqueued
    refine .inr ⟨rfl, rfl, ?_⟩
    split at scheduled
    · exact .inr scheduled.symm
    · exact .inl scheduled.symm

/-- What `dequeuePadding` may do. -/
theorem dequeuePadding_cases {wasEmpty : Bool}
    (dequeued : pacer.dequeuePadding rates generatePadding generator wasEmpty
      now = .ok (after, next, result, schedule)) :
    (after = pacer ∧ result = none ∧
      (schedule = none ∨ schedule = pacer.calculateNextSendTime rates now)) ∨
    ∃ ssrc padding, pacer.config.paddingSsrc = some ssrc ∧
      pastSendTime (pacer.calculateNextPaddingSendTime rates now) now = true ∧
      generatePadding generator ssrc = .ok (next, some padding) ∧
      result = some padding ∧
      after = (pacer.updateBudgetWithTime rates now
        ).updateBudgetWithSentPadding rates padding.size ∧
      schedule = after.calculateNextSendTime rates now := by
  unfold dequeuePadding at dequeued
  split at dequeued
  case h_1 =>
    cases dequeued
    exact .inl ⟨rfl, rfl, .inl rfl⟩
  case h_2 paddingSsrc configured =>
    split at dequeued
    case isTrue due =>
      obtain ⟨⟨generated, padding⟩, drew, rest⟩ := bind_eq_ok_iff.mp dequeued
      cases padding with
      | some padding =>
          cases rest
          exact .inr ⟨paddingSsrc, padding, configured, due, drew, rfl, rfl,
            rfl⟩
      | none =>
          cases rest
          exact .inl ⟨rfl, rfl, .inl rfl⟩
    case isFalse =>
      split at dequeued
      · cases dequeued
        exact .inl ⟨rfl, rfl, .inr rfl⟩
      · cases dequeued
        exact .inl ⟨rfl, rfl, .inl rfl⟩

/-! ## The budget -/

/-- What the send times depend on, but for the queues. -/
structure SameBudget (before after : Pacer) : Prop where
  config : after.config = before.config
  lastSent : after.lastSent = before.lastSent
  mediaDebt : after.mediaDebt = before.mediaDebt
  paddingDebt : after.paddingDebt = before.paddingDebt

theorem sameBudget_push (pacer : Pacer) (media : Packet) :
    SameBudget pacer (pacer.push media) := by
  unfold push
  dsimp only
  split <;> exact ⟨rfl, rfl, rfl, rfl⟩

theorem sameBudget_popRtxOrVideo (pacer : Pacer) (now : Instant) :
    SameBudget pacer (pacer.popRtxOrVideo now).1 := by
  unfold popRtxOrVideo
  dsimp only
  split <;> exact ⟨rfl, rfl, rfl, rfl⟩

end Pacer

/-! ## Exact arithmetic -/

namespace RateArithmetic

def nanosPerSecond : Nat := 10 ^ 9

/-- Products are rounded down to a whole bit, quotients to the nearest
nanosecond. -/
structure Exact (rates : RateArithmetic) : Prop where
  sizeOver : ∀ rate duration,
    rates.sizeOver rate duration = rate * duration / nanosPerSecond
  timeForLower : ∀ size rate, 0 < rate →
    2 * (size * nanosPerSecond) ≤ 2 * (rates.timeFor size rate * rate) + rate
  timeForUpper : ∀ size rate, 0 < rate →
    2 * (rates.timeFor size rate * rate) ≤ 2 * (size * nanosPerSecond) + rate

/-- The exact arithmetic that rounds halves up. -/
def exactArithmetic : RateArithmetic where
  sizeOver rate duration := rate * duration / nanosPerSecond
  timeFor size rate := (2 * (size * nanosPerSecond) + rate) / (2 * rate)

/-- A quotient rounded to the nearest number is off by at most one half. -/
private theorem nearest_quotient (dividend divisor : Nat)
    (positive : 0 < divisor) :
    2 * dividend ≤
        2 * ((2 * dividend + divisor) / (2 * divisor) * divisor) + divisor ∧
      2 * ((2 * dividend + divisor) / (2 * divisor) * divisor) ≤
        2 * dividend + divisor := by
  have twice : 0 < 2 * divisor := Nat.mul_pos Nat.two_pos positive
  have below : 2 * dividend + divisor <
      (2 * dividend + divisor) / (2 * divisor) * (2 * divisor) + 2 * divisor :=
    Nat.lt_div_mul_add twice
  have within := Nat.div_mul_le_self (2 * dividend + divisor) (2 * divisor)
  rw [Nat.mul_left_comm] at below within
  omega

theorem exact_exactArithmetic : Exact exactArithmetic where
  sizeOver := fun _ _ => rfl
  timeForLower := fun size rate positive =>
    (nearest_quotient (size * nanosPerSecond) rate positive).1
  timeForUpper := fun size rate positive =>
    (nearest_quotient (size * nanosPerSecond) rate positive).2

end RateArithmetic

/-- A media packet of the given length, with a deadline in the far future. -/
def mediaPacket (length : Nat) : Packet where
  marker := false
  payloadTypeInHeader := vp8PayloadType
  ssrcInHeader := 18
  seqnumInHeader := 1
  seqnumInPayload := none
  pendingRetransmission := false
  timestamp := 0
  videoRotation := none
  audioLevel := none
  dependencyDescriptor := none
  tccSeqnum := none
  tccSeqnumRange := none
  payloadRangeInHeader := ⟨12, 12⟩
  encrypted := false
  deadline := some (10 ^ 12)
  paddingByteCount := 0
  serialized := List.replicate length 0

theorem size_mediaPacket (length : Nat) :
    (mediaPacket length).size = 8 * length := by
  unfold mediaPacket Packet.size
  rw [List.length_replicate]

end CallingService.Backend
