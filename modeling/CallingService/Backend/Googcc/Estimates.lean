import CallingService.Backend.Googcc.AckRates
import CallingService.Common.FloatingPoint
import CallingService.Common.RingBuffer
import CallingService.Foundation.Pipeline

/-!
# Estimates

What the congestion controller estimates besides the direction of the delay:
the round-trip time of the feedback and the rate of the acknowledged data.
-/

namespace CallingService.Backend.Googcc

open Foundation Tcc FloatingPoint

/-! ## Round-trip times -/

def feedbackRttsHistoryLen : Nat := 32

def feedbackRtt (ack : Ack) : Duration := ack.feedbackArrival - ack.departure

/-- The longest round-trip time of a report, if it is not empty. -/
def maxFeedbackRtt (acks : List Ack) : Option Duration :=
  (acks.map feedbackRtt).max?

def meanDuration (durations : List Duration) : Duration :=
  durations.sum / durations.length

def estimateFeedbackRttsTurn (history : RingBuffer Duration)
    (acks : List Ack) : Option Duration × RingBuffer Duration :=
  match maxFeedbackRtt acks with
  | some longest =>
      let history := (history.push longest).1
      (some (meanDuration history.values), history)
  | none => (none, history)

/-- The step of `estimate_feedback_rtts`. -/
def estimateFeedbackRttsStep : RingBuffer Duration → List Ack →
    Option Duration × Except Panic (RingBuffer Duration) :=
  unfailing estimateFeedbackRttsTurn

/-- Each report yields the mean over the newest reports. -/
theorem estimateFeedbackRtts_turn {history : RingBuffer Duration}
    {reports : List (List Ack)}
    (limit : history.limit = feedbackRttsHistoryLen)
    (holds : history.Holds (reports.filterMap maxFeedbackRtt))
    (acks : List Ack) :
    (estimateFeedbackRttsTurn history acks).2.limit =
        feedbackRttsHistoryLen ∧
      (estimateFeedbackRttsTurn history acks).2.Holds
        ((reports ++ [acks]).filterMap maxFeedbackRtt) ∧
      (estimateFeedbackRttsTurn history acks).1 =
        (maxFeedbackRtt acks).map fun _ =>
          meanDuration (((reports ++ [acks]).filterMap maxFeedbackRtt).rtake
            feedbackRttsHistoryLen) := by
  unfold estimateFeedbackRttsTurn
  rw [List.filterMap_append, List.filterMap_cons, List.filterMap_nil]
  cases maxFeedbackRtt acks with
  | none =>
      rw [List.append_nil]
      exact ⟨limit, holds, rfl⟩
  | some longest =>
      have pushed := holds.push longest
      refine ⟨(RingBuffer.limit_push _ _).trans limit, pushed, ?_⟩
      unfold RingBuffer.Holds at pushed
      rw [RingBuffer.limit_push, limit] at pushed
      rw [Option.map_some, ← pushed]

/-! ## Acknowledged rates -/

section Rates

variable {F : Type} [FloatingPoint F]

/-- `DataRate * f64`. -/
def timesF64 (rate : DataRate) (factor : F) : DataRate :=
  asU64 (asF64 rate * factor)

/-- `DataRate / f64`. -/
def overF64 (rate : DataRate) (divisor : F) : DataRate :=
  asU64 (asF64 rate / divisor)

variable (F)

/-- `DataSize / Duration`. -/
def sizeOverDuration (size : DataSize) (duration : Duration) : DataRate :=
  asU64 (asF64 size / asSecsF64 duration : F)

/-- `abs_diff` of two rates, over the second one. -/
def relativeDifference (sample estimate : DataRate) : F :=
  asF64 (if estimate < sample then sample - estimate else estimate - sample) /
    asF64 estimate

/-- What `estimate_acked_rates_from_groups` keeps between two groups. -/
structure RateEstimate where
  estimate : DataRate
  variance : F

namespace RateEstimate

/-- The estimate after one more group, weighted by the variances. -/
def update (profile : BuildProfile) (state : RateEstimate F)
    (size : DataSize) (duration : Duration) :
    Except Panic (RateEstimate F) := do
  let sample := sizeOverDuration F size duration
  let sampleVariance : F :=
    square (relativeDifference F sample state.estimate * 10.0)
  let predVariance : F := state.variance + 5.0
  let weighted ← profile.addU64 (timesF64 state.estimate sampleVariance)
    (timesF64 sample predVariance)
  return {
    estimate := overF64 weighted (sampleVariance + predVariance)
    variance :=
      sampleVariance * predVariance / (sampleVariance + predVariance) }

end RateEstimate

/-- The step of `estimate_acked_rates_from_groups`. -/
def estimateAckedRatesFromGroupsStep (profile : BuildProfile) :
    Option (RateEstimate F) → DataSize × Duration →
      Option DataRate × Except Panic (Option (RateEstimate F))
  | none, (size, duration) =>
      let estimate := sizeOverDuration F size duration
      (some estimate, .ok (some { estimate := estimate, variance := 50.0 }))
  | some state, (size, duration) =>
      match state.update F profile size duration with
      | .error panic => (none, .error panic)
      | .ok state => (some state.estimate, .ok (some state))

/-- The step of `accumulate_acked_sizes`. -/
def accumulateAckedSizesStep (profile : BuildProfile) :
    Option AckGroup → Ack →
      Option (DataSize × Duration) × Except Panic (Option AckGroup)
  | none, ack1 => (none, .ok (some (.start ack1)))
  | some group, ack2 =>
      ((group.turn profile ack2).1, (group.turn profile ack2).2.map some)

def estimateAckedRatesStep (profile : BuildProfile) :
    Option AckGroup × Option (RateEstimate F) → Ack →
      Option DataRate ×
        Except Panic (Option AckGroup × Option (RateEstimate F)) :=
  chain (accumulateAckedSizesStep profile)
    (estimateAckedRatesFromGroupsStep F profile)

end Rates

/-- After the first acknowledgement the step is that of a group. -/
theorem transduce_accumulateAckedSizesStep (profile : BuildProfile)
    (acks : List Ack) :
    transduce (accumulateAckedSizesStep profile) none acks =
      accumulateAckedSizes profile acks := by
  cases acks with
  | nil => rfl
  | cons first acks =>
      have moved : Proceeds (accumulateAckedSizesStep profile) none first
          (some (.start first)) := rfl
      rw [transduce_ok moved, accumulateAckedSizes_cons]
      change transduce (accumulateAckedSizesStep profile)
        (some (AckGroup.start first)) acks = _
      generalize AckGroup.start first = group
      induction acks generalizing group with
      | nil => rfl
      | cons ack acks ih =>
          cases moved : (group.turn profile ack).2 with
          | error panic =>
              have failed : (accumulateAckedSizesStep profile (some group)
                  ack).2 = .error panic := by
                change (group.turn profile ack).2.map some = _
                rw [moved]
                rfl
              rw [transduce_error failed, transduce_error moved]
              rfl
          | ok next =>
              have proceeds : Proceeds (accumulateAckedSizesStep profile)
                  (some group) ack (some next) := by
                change (group.turn profile ack).2.map some = _
                rw [moved]
                rfl
              rw [transduce_ok proceeds, transduce_ok moved, ih]
              rfl

end CallingService.Backend.Googcc
