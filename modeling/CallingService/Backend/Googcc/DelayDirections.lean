import CallingService.Backend.Googcc.AckDeltas
import CallingService.Common.RingBuffer

/-!
# Delay directions

The differences between departures and arrivals are summed up and smoothed, and
a line is fitted through the newest sums.  A slope above a threshold is a sign
that the delay increases; a slope below its negation, that it decreases.  An
increase is signalled only after several signs in a row.  The threshold follows
the slopes slowly.
-/

namespace CallingService.Backend.Googcc

open Foundation Tcc FloatingPoint

variable (F : Type) [FloatingPoint F]

/-! ## Slopes -/

section Regression

variable {F}

def mean (values : List F) : Option F :=
  if values.length = 0 then none
  else some (FloatingPoint.sum values / asF64 values.length)

/-- Nothing if there are no points, or if the slope would be infinite. -/
def linearRegression (xys : List (F × F)) : Option F := do
  let xs := xys.map Prod.fst
  let ys := xys.map Prod.snd
  let xAvg ← mean xs
  let yAvg ← mean ys
  let xDiffs := xs.map (· - xAvg)
  let yDiffs := ys.map (· - yAvg)
  let numerator := FloatingPoint.sum (List.zipWith (· * ·) xDiffs yDiffs)
  let denominator :=
    FloatingPoint.sum (xDiffs.map fun xDiff => xDiff * xDiff)
  if denominator == 0.0 then none else some (numerator / denominator)

end Regression

/-- What `calculate_delay_slopes` keeps between two differences. -/
structure DelayHistory where
  firstAck : Ack
  sampleCount : Nat
  accumulatedDelay : F
  smoothedDelay : F
  history : RingBuffer (F × F)

namespace DelayHistory

def historyLen : Nat := 20

def maxSampleCount : Nat := 1000

def start (firstAck : Ack) (firstDepartureDelta : Duration)
    (firstArrivalDelta : F) : DelayHistory F :=
  let accumulatedDelay := firstArrivalDelta - asSecsF64 firstDepartureDelta
  { firstAck := firstAck
    sampleCount := 1
    accumulatedDelay := accumulatedDelay
    smoothedDelay := accumulatedDelay
    history := ((RingBuffer.new historyLen).push (0.0, accumulatedDelay)).1 }

/-- The history with one more point. -/
def add (state : DelayHistory F) (latestAck : Ack) (departureDelta : Duration)
    (arrivalDelta : F) : DelayHistory F :=
  let relativeArrival : F :=
    timeDeltaSince F latestAck.arrival state.firstAck.arrival
  let accumulatedDelay :=
    state.accumulatedDelay + (arrivalDelta - asSecsF64 departureDelta)
  let smoothedDelay :=
    exponentialMovingAverage state.smoothedDelay 0.9 accumulatedDelay
  { state with
    sampleCount :=
      if state.sampleCount < maxSampleCount then state.sampleCount + 1
      else state.sampleCount
    accumulatedDelay := accumulatedDelay
    smoothedDelay := smoothedDelay
    history := (state.history.push (relativeArrival, smoothedDelay)).1 }

def degenerate : String :=
  "after the first group, the history should never have all arrival times the same"

end DelayHistory

/-- The step of `calculate_delay_slopes`.  If no line can be fitted, a debug
build panics. -/
def calculateDelaySlopesStep (profile : BuildProfile) :
    Option (DelayHistory F) → Ack × Duration × F →
      Option (Instant × F × Duration × Nat) ×
        Except Panic (Option (DelayHistory F))
  | none, (firstAck, firstDepartureDelta, firstArrivalDelta) =>
      let state :=
        DelayHistory.start F firstAck firstDepartureDelta firstArrivalDelta
      (some (firstAck.feedbackArrival, 0.0, firstDepartureDelta,
        state.sampleCount), .ok (some state))
  | some state, (latestAck, departureDelta, arrivalDelta) =>
      let state := state.add F latestAck departureDelta arrivalDelta
      if state.history.isFull then
        match linearRegression state.history.values with
        | some delaySlope =>
            (some (latestAck.feedbackArrival, delaySlope, departureDelta,
              state.sampleCount), .ok (some state))
        | none =>
            (none,
              if profile = .debug then
                .error (.assertion DelayHistory.degenerate)
              else .ok (some state))
      else (none, .ok (some state))

def calculateDelaySlopes (profile : BuildProfile)
    (ackDeltas : List (Ack × Duration × F)) :
    List (Instant × F × Duration × Nat) × Option Panic :=
  transduce (calculateDelaySlopesStep F profile) none ackDeltas

/-! ## Directions -/

inductive DelayDirection where
  | increasing
  | decreasing
  | steady
deriving DecidableEq, Repr

variable (F : Type) [FloatingPoint F]

def initialDelaySlopeThreshold : F := 0.052

def minDelaySlopeThreshold : F := 0.025

def maxDelaySlopeThreshold : F := 2.5

def slopeThresholdAdaptationMaxDifference : F := 0.0625

/-- What `calculate_delay_directions_from_slopes` keeps between two slopes. -/
structure DelayTrend where
  prevDelaySlope : F
  direction : DelayDirection
  increasingCount : Nat
  increasingDuration : Option Duration
  slopeThreshold : F
  slopeThresholdUpdated : Instant

/-- The time of a slope, the slope, the departure delta and the number of
samples. -/
abbrev DelaySlope := Instant × F × Duration × Nat

namespace DelayTrend

def increasingDurationThreshold : Duration := fromMillis 10

def start (startTime : Instant) (prevDelaySlope : F) : DelayTrend F where
  prevDelaySlope := prevDelaySlope
  direction := .steady
  increasingCount := 0
  increasingDuration := none
  slopeThreshold := initialDelaySlopeThreshold F
  slopeThresholdUpdated := startTime

variable {F}

/-- A slope of few samples counts for less. -/
def shrunkDelaySlope (delaySlope : F) (sampleCount : Nat) : F :=
  delaySlope * asF64 (min 60 sampleCount) / asF64 60

/-- For how long the delay has been growing. -/
def grownDuration : Option Duration → Duration → Duration
  | some previousIncreasingDuration, departureDelta =>
      previousIncreasingDuration + departureDelta
  | none, departureDelta => departureDelta / 2

def SignalsIncrease (trend : DelayTrend F) (delaySlope : F)
    (departureDelta : Duration) : Prop :=
  1 < trend.increasingCount + 1 ∧
    increasingDurationThreshold <
      grownDuration trend.increasingDuration departureDelta ∧
    trend.prevDelaySlope ≤ delaySlope

instance (trend : DelayTrend F) (delaySlope : F) (departureDelta : Duration) :
    Decidable (trend.SignalsIncrease delaySlope departureDelta) :=
  inferInstanceAs (Decidable (_ ∧ _ ∧ _))

/-- The direction after one more slope. -/
def turned (trend : DelayTrend F) (shrunk delaySlope : F)
    (departureDelta : Duration) : DelayTrend F :=
  if trend.slopeThreshold < shrunk then
    if trend.SignalsIncrease delaySlope departureDelta then
      { trend with
        direction := .increasing
        increasingCount := 0
        increasingDuration := some 0 }
    -- Wait for more signs of an increase.
    else
      { trend with
        increasingCount := trend.increasingCount + 1
        increasingDuration :=
          some (grownDuration trend.increasingDuration departureDelta) }
  else if shrunk < -trend.slopeThreshold then
    { trend with
      direction := .decreasing
      increasingCount := 0
      increasingDuration := none }
  else
    { trend with
      direction := .steady
      increasingCount := 0
      increasingDuration := none }

/-- The threshold after one more slope.  It is kept away from slopes that are
far above it. -/
def adaptedThreshold (slopeThreshold : F) (slopeThresholdUpdated now : Instant)
    (shrunk : F) : F :=
  let slopeThresholdDiff := FloatingPoint.abs shrunk - slopeThreshold
  if slopeThresholdDiff < slopeThresholdAdaptationMaxDifference F then
    let adaptionDuration :=
      min (fromMillis 100) (now - slopeThresholdUpdated)
    let adaptationDiffPartPerSecond : F :=
      if 0.0 < slopeThresholdDiff then 8.7 else 39.0
    let adaptation := adaptationDiffPartPerSecond * slopeThresholdDiff *
      asSecsF64 adaptionDuration
    clamp (slopeThreshold + adaptation) (minDelaySlopeThreshold F)
      (maxDelaySlopeThreshold F)
  else slopeThreshold

/-- One turn of the loop. -/
def next (trend : DelayTrend F) (slope : DelaySlope F) : DelayTrend F :=
  let (now, delaySlope, departureDelta, sampleCount) := slope
  let shrunk := shrunkDelaySlope delaySlope sampleCount
  { trend.turned shrunk delaySlope departureDelta with
    slopeThreshold := adaptedThreshold trend.slopeThreshold
      trend.slopeThresholdUpdated now shrunk
    slopeThresholdUpdated := now
    prevDelaySlope := delaySlope }

/-- The direction is always yielded, also if it is the same as before. -/
def turn : Option (DelayTrend F) → DelaySlope F →
    Option (Instant × DelayDirection) × Option (DelayTrend F)
  | none, (startTime, prevDelaySlope, _, _) =>
      (some (startTime, .steady), some (start F startTime prevDelaySlope))
  | some trend, slope =>
      (some (slope.1, (trend.next slope).direction), some (trend.next slope))

end DelayTrend

/-- The step of `calculate_delay_directions_from_slopes`. -/
def calculateDelayDirectionsFromSlopesStep : Option (DelayTrend F) →
    DelaySlope F →
      Option (Instant × DelayDirection) ×
        Except Panic (Option (DelayTrend F)) :=
  unfailing DelayTrend.turn

def calculateDelayDirectionsFromSlopes (slopes : List (DelaySlope F)) :
    List (Instant × DelayDirection) :=
  (transduce (calculateDelayDirectionsFromSlopesStep F) none slopes).1

end CallingService.Backend.Googcc
