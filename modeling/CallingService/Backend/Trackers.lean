import CallingService.Backend.Pacer

/-!
# Rate and level trackers

What a call remembers about the incoming media of a client: the rate of each
video layer and the recent audio levels.  Both compute in floating point; these
operations are parameters.
-/

namespace CallingService.Backend

open Rtp

/-- Higher is louder. -/
abbrev Level := UInt8

/-- The floating-point operations of the trackers. -/
structure TrackerArithmetic where
  /-- A size over a duration. -/
  rateOver : DataSize → Duration → DataRate
  /-- The exponential average of the last stable rate and the new rate. -/
  smoothed : DataRate → DataRate → DataRate
  /-- The geometric mean of two levels. -/
  averageFloor : Level → Level → Level

/-! ## Data rates -/

structure DataRateTracker where
  /-- The newest entry comes first. -/
  history : List (Instant × DataSize)
  accumulatedSize : DataSize
  rate : Option DataRate
  stableRate : Option DataRate
  lastStableRate : Option DataRate
deriving DecidableEq, Repr

namespace DataRateTracker

def default : DataRateTracker := ⟨[], 0, none, none, none⟩

def maxDuration : Duration := fromMillis 5000

def minDuration : Duration := fromMillis 500

def push (tracker : DataRateTracker) (size : DataSize) (time : Instant) :
    DataRateTracker :=
  { tracker with
    history := (time, size) :: tracker.history
    accumulatedSize := tracker.accumulatedSize + size }

def pushBytes (tracker : DataRateTracker) (bytes : Nat) (time : Instant) :
    DataRateTracker :=
  tracker.push (8 * bytes) time

/-- The number of entries, from the oldest one, that are out of the window. -/
def countToRemove (tracker : DataRateTracker) (now : Instant) : Nat :=
  (tracker.history.reverse.takeWhile fun entry =>
    decide (entry.1 < now - maxDuration)).length

def withoutOld (tracker : DataRateTracker) (now : Instant) : DataRateTracker :=
  let kept := tracker.history.length - tracker.countToRemove now
  { tracker with
    history := tracker.history.take kept
    accumulatedSize := tracker.accumulatedSize -
      ((tracker.history.drop kept).map (·.2)).sum }

def observedDuration (tracker : DataRateTracker) (now : Instant) : Duration :=
  match tracker.history.getLast? with
  | some (oldest, _) => now - oldest
  | none => 0

def update (arithmetic : TrackerArithmetic) (tracker : DataRateTracker)
    (now : Instant) : DataRateTracker :=
  let recent := tracker.withoutOld now
  let duration := recent.observedDuration now
  let rate :=
    if minDuration ≤ duration then
      some (arithmetic.rateOver recent.accumulatedSize duration)
    else none
  { recent with
    rate := rate
    lastStableRate := tracker.stableRate
    stableRate := rate.map fun current =>
      match tracker.stableRate with
      | some last => arithmetic.smoothed last current
      | none => current }

end DataRateTracker

/-! ## Audio levels -/

structure LevelFloorTracker where
  floor : Option Level
  floorSinceReset : Option Level
  samplesSinceReset : Nat
deriving DecidableEq, Repr

namespace LevelFloorTracker

def default : LevelFloorTracker := ⟨none, none, 0⟩

/-- Fifteen seconds of samples of twenty milliseconds each. -/
def samplesPerRecalculation : Nat := 750

def reset (floor : Level) : LevelFloorTracker :=
  { default with floor := some floor }

/-- A sample at or above the floor. -/
def track (arithmetic : TrackerArithmetic) (tracker : LevelFloorTracker)
    (floor sample : Level) : LevelFloorTracker :=
  match tracker.floorSinceReset with
  | none => ⟨some floor, some sample, 1⟩
  | some since =>
      let floorSinceReset := if sample ≤ since then sample else since
      let samplesSinceReset := tracker.samplesSinceReset + 1
      if samplesPerRecalculation ≤ samplesSinceReset then
        reset (arithmetic.averageFloor floor floorSinceReset)
      else ⟨some floor, some floorSinceReset, samplesSinceReset⟩

/-- Samples of level 0 are ignored: the input is likely muted. -/
def update (arithmetic : TrackerArithmetic) (tracker : LevelFloorTracker)
    (sample : Level) : LevelFloorTracker :=
  if sample = 0 then tracker
  else match tracker.floor with
    | none => reset sample
    | some floor =>
        if sample < floor then reset sample
        else tracker.track arithmetic floor sample

end LevelFloorTracker

structure LevelsTracker where
  floor : LevelFloorTracker
  /-- The ring buffer, from the oldest level to the newest one. -/
  levels : List Level
deriving DecidableEq, Repr

namespace LevelsTracker

def default : LevelsTracker := ⟨LevelFloorTracker.default, []⟩

def limit : Nat := 50

def chunkSize : Nat := 5

def high : Level := 70

def low : Level := 40

/-- Push to the ring buffer, which drops its oldest value when full. -/
def pushLevel (levels : List Level) (sample : Level) : List Level :=
  let pushed := levels ++ [sample]
  if limit < pushed.length then pushed.drop 1 else pushed

/-- Anything near the floor counts as silence. -/
def push (arithmetic : TrackerArithmetic) (tracker : LevelsTracker)
    (sample : Level) : LevelsTracker :=
  let floor := tracker.floor.update arithmetic sample
  let threshold := floor.floor.getD 0 + 10
  ⟨floor, pushLevel tracker.levels (if sample ≤ threshold then 0 else sample)⟩

def latest (tracker : LevelsTracker) : Option Level := tracker.levels.getLast?

def countLatestChunkAboveThreshold (tracker : LevelsTracker) (count : Nat)
    (threshold : Level) : Nat :=
  (tracker.levels.reverse.take count).countP fun level =>
    decide (threshold < level)

/-- The whole chunks of a list; values beyond the last whole chunk are
ignored. -/
def chunksExact (size : Nat) : Nat → List Level → List (List Level)
  | 0, _ => []
  | fuel + 1, levels =>
      if levels.length < size then []
      else levels.take size :: chunksExact size fuel (levels.drop size)

def countChunksAboveThreshold (tracker : LevelsTracker) (size : Nat)
    (threshold : Level) : Nat :=
  (chunksExact size tracker.levels.length tracker.levels.reverse).countP
    fun chunk => chunk.all fun level => decide (threshold < level)

def moreActiveThanMostActive (tracker mostActive : LevelsTracker) : Bool :=
  let firstChunk := tracker.countLatestChunkAboveThreshold chunkSize high
  let mostActiveFirstChunk :=
    mostActive.countLatestChunkAboveThreshold chunkSize high
  if tracker.latest.getD 0 ≤ low then false
  else if low ≤ mostActive.latest.getD 0 then false
  else if firstChunk < chunkSize then false
  else if 0 < mostActiveFirstChunk then false
  else if firstChunk < mostActiveFirstChunk then false
  else mostActive.countChunksAboveThreshold chunkSize high <
    tracker.countChunksAboveThreshold chunkSize high

end LevelsTracker

end CallingService.Backend
