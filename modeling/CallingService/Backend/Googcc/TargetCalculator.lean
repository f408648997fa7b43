import CallingService.Backend.Googcc.DelayDirections
import CallingService.Backend.Googcc.Estimates

/-!
# The target send rate

The target follows the direction of the delay: it is held while the delay
decreases, raised while it is steady and lowered while it increases.
-/

namespace CallingService.Backend.Googcc

open Foundation Tcc FloatingPoint

def fromKbps (kbps : Nat) : DataRate := kbps * 1000

structure Config where
  initialTargetSendRate : DataRate
  minTargetSendRate : DataRate
  maxTargetSendRate : DataRate
deriving DecidableEq, Repr

/-- `Config::default`. -/
def Config.initial : Config where
  initialTargetSendRate := fromKbps 800
  minTargetSendRate := fromKbps 100
  maxTargetSendRate := fromKbps 30000

/-- `Ord::clamp`, which asserts that the bounds are in order. -/
def Config.clampTargetSendRate (config : Config) (rate : DataRate) :
    Except Panic DataRate :=
  if config.minTargetSendRate ≤ config.maxTargetSendRate then
    .ok (if rate < config.minTargetSendRate then config.minTargetSendRate
      else if config.maxTargetSendRate < rate then config.maxTargetSendRate
      else rate)
  else .error (.assertion "assertion failed: min <= max")

structure Request where
  base : DataRate
  ideal : DataRate
deriving DecidableEq, Repr

variable (F : Type) [FloatingPoint F] (profile : BuildProfile)

/-! ## The average rate when overusing -/

structure RateAverager where
  average : Option DataRate
  variance : DataRate
deriving DecidableEq, Repr

namespace RateAverager

def new : RateAverager where
  average := none
  variance := 400

/-- The average after one more sample. -/
def nextAverage (averager : RateAverager) (sample : DataRate) :
    Except Panic DataRate :=
  let alpha : F := 0.05
  match averager.average with
  | some average =>
      profile.addU64 (timesF64 sample alpha) (timesF64 average (1.0 - alpha))
  | none => .ok sample

def nextVariance (averager : RateAverager) (average sample : DataRate) :
    DataRate :=
  let alpha : F := 0.05
  let var : F := asF64 averager.variance
  let avg : F := asF64 average
  let sample : F := asF64 sample
  asU64 (clamp
    ((1.0 - alpha) * var +
      alpha * square (avg - sample) / FloatingPoint.max avg 1.0)
    400.0 2500.0)

def addSample (averager : RateAverager) (sample : DataRate) :
    Except Panic RateAverager := do
  let average ← averager.nextAverage F profile sample
  return {
    average := some average
    variance := averager.nextVariance F average sample }

def resetIfSampleOutOfBounds (averager : RateAverager) (sample : DataRate) :
    Except Panic RateAverager :=
  match averager.average with
  | some average => do
      let var : F := asF64 averager.variance
      let avg : F := asF64 average
      let relativeBound : DataRate := asU64 (3.0 * sqrt (var * avg))
      let upper ← profile.addU64 average relativeBound
      if upper < sample ∨ sample < average - relativeBound then return new
      else return averager
  | none => .ok averager

end RateAverager

/-! ## The calculator -/

structure TargetCalculator where
  ackedRate : Option DataRate
  ackedRateWhenOverusing : RateAverager
  config : Config
  previousDirection : Option DelayDirection
  requested : Request
  rtt : Duration
  targetSendRate : DataRate
  targetSendRateUpdated : Instant

namespace TargetCalculator

def new (config : Config) (startTime : Instant) : TargetCalculator where
  ackedRate := none
  ackedRateWhenOverusing := .new
  previousDirection := none
  requested := { base := 0, ideal := config.maxTargetSendRate }
  rtt := fromMillis 100
  targetSendRate := config.initialTargetSendRate
  targetSendRateUpdated := startTime
  config := config

/-- The new values of the other streams, if there are any. -/
def observe (calculator : TargetCalculator) (rtt : Option Duration)
    (ackedRate : Option DataRate) : TargetCalculator :=
  { calculator with
    rtt := rtt.getD calculator.rtt
    ackedRate := ackedRate.or calculator.ackedRate }

/-- The rate to which the target goes back after a tiny ideal rate. -/
def resetRate (calculator : TargetCalculator) : DataRate :=
  max calculator.config.initialTargetSendRate
    (timesF64 calculator.requested.base (0.5 : F))

/-- Take the current request, and tell whether the target has been reset. -/
def takeRequest (calculator : TargetCalculator) :
    Option Request → TargetCalculator × Bool
  | none => (calculator, false)
  | some request =>
      let previouslyRequested := calculator.requested
      let calculator := { calculator with requested := request }
      let tinySendRate := fromKbps 150
      let initialTargetSendRate := calculator.resetRate F
      if previouslyRequested.ideal ≤ tinySendRate ∧
          ¬calculator.requested.ideal ≤ tinySendRate ∧
          calculator.targetSendRate < initialTargetSendRate then
        ({ calculator with targetSendRate := initialTargetSendRate }, true)
      else (calculator, false)

/-- By how much the target grows while the delay is steady. -/
def increase (calculator : TargetCalculator) (now : Instant) : DataRate :=
  -- The first steady step after another direction hardly increases the rate.
  let increaseDuration : F := asSecsF64
    (if calculator.previousDirection ≠ some .steady then 0
      else now - calculator.targetSendRateUpdated)
  if calculator.ackedRateWhenOverusing.average.isNone then
    let multiplicativeIncreasePerSecond : F :=
      if calculator.targetSendRate < calculator.requested.base then 0.08 * 2.0
      else 0.08
    let multiplier : F :=
      powf (1.0 + multiplicativeIncreasePerSecond)
        (FloatingPoint.min increaseDuration 1.0) - 1.0
    max (fromKbps 1) (timesF64 calculator.targetSendRate multiplier)
  else
    let paddedRtt := calculator.rtt + fromMillis 100
    let increasePerSecond :=
      max (fromKbps 4) (sizeOverDuration F (1200 * 8) paddedRtt)
    timesF64 increasePerSecond increaseDuration

/-- The bound that the acknowledged rate sets on an increase. -/
def limitIncrease (ackedRate : Option DataRate) (increasedRate : DataRate) :
    Except Panic DataRate :=
  match ackedRate with
  | some ackedRate => do
      let ackedRateBasedLimit ←
        profile.addU64 (timesF64 ackedRate (1.5 : F)) (fromKbps 10)
      return min ackedRateBasedLimit increasedRate
  | none => .ok increasedRate

/-- The average, reset if the acknowledged rate is out of its bounds. -/
def checkedAverager (calculator : TargetCalculator) :
    Except Panic RateAverager :=
  match calculator.ackedRate with
  | some ackedRate =>
      calculator.ackedRateWhenOverusing.resetIfSampleOutOfBounds F profile
        ackedRate
  | none => .ok calculator.ackedRateWhenOverusing

def whileSteady (calculator : TargetCalculator) (now : Instant) :
    Except Panic (TargetCalculator × Option DataRate) := do
  let averager ← calculator.checkedAverager F profile
  let calculator := { calculator with ackedRateWhenOverusing := averager }
  let increasedRate ← profile.addU64 calculator.targetSendRate
    (calculator.increase F now)
  let increasedRate ←
    limitIncrease F profile calculator.ackedRate increasedRate
  return (calculator, some (max calculator.targetSendRate increasedRate))

/-- `clamp(MIN_RTT_FOR_DECREASE, MAX_RTT_FOR_DECREASE)`. -/
def rttForDecrease (calculator : TargetCalculator) : Duration :=
  if calculator.rtt < fromMillis 10 then fromMillis 10
  else if fromMillis 200 < calculator.rtt then fromMillis 200
  else calculator.rtt

/-- The rate that is considered when the delay increases, before it is kept
from rising. -/
def decreasedRate (calculator : TargetCalculator) (ackedRate : DataRate) :
    DataRate :=
  let decreasedRate := timesF64 ackedRate (0.85 : F)
  if calculator.targetSendRate < decreasedRate then
    match calculator.ackedRateWhenOverusing.average with
    | some average => timesF64 average (0.85 : F)
    | none => decreasedRate
  else decreasedRate

def whileIncreasing (calculator : TargetCalculator) (now : Instant) :
    Except Panic (TargetCalculator × Option DataRate) :=
  match calculator.ackedRate with
  | some ackedRate =>
      if calculator.targetSendRateUpdated + calculator.rttForDecrease ≤ now ∨
          ackedRate ≤ timesF64 calculator.targetSendRate (0.5 : F) then do
        let decreasedRate := calculator.decreasedRate F ackedRate
        let averager ← calculator.ackedRateWhenOverusing
          |>.resetIfSampleOutOfBounds F profile ackedRate
        let averager ← averager.addSample F profile ackedRate
        return ({ calculator with ackedRateWhenOverusing := averager },
          some (min calculator.targetSendRate decreasedRate))
      -- The update time stays, so that the wait goes on.
      else .ok (calculator, none)
  | none =>
      .ok (calculator, some (overF64 calculator.targetSendRate (2.0 : F)))

/-- The changed rate for a direction, if there is one. -/
def follow (calculator : TargetCalculator) (now : Instant) :
    DelayDirection → Except Panic (TargetCalculator × Option DataRate)
  | .decreasing => .ok (calculator, none)
  | .steady => calculator.whileSteady F profile now
  | .increasing => calculator.whileIncreasing F profile now

/-- Any change of the rate is clamped, also that by a reset. -/
def apply (calculator : TargetCalculator) (now : Instant)
    (direction : DelayDirection) (changed : Option DataRate) (reset : Bool) :
    Except Panic (TargetCalculator × Option DataRate) :=
  let calculator := { calculator with previousDirection := some direction }
  if changed.isSome ∨ reset then do
    let target ← calculator.config.clampTargetSendRate
      (changed.getD calculator.targetSendRate)
    return ({ calculator with
      targetSendRate := target
      targetSendRateUpdated := now }, some target)
  else .ok (calculator, none)

/-- The request stays where it is as long as there is no new direction. -/
def next (calculator : TargetCalculator) (request : Option Request)
    (delayDirections : Option (Instant × DelayDirection))
    (rtt : Option Duration) (ackedRate : Option DataRate) :
    Except Panic (TargetCalculator × Option Request × Option DataRate) :=
  let calculator := calculator.observe rtt ackedRate
  match delayDirections with
  | some (now, direction) => do
      let (calculator, resetToInitial) := calculator.takeRequest F request
      let (calculator, changed) ← calculator.follow F profile now direction
      let (calculator, returned) ←
        calculator.apply now direction changed resetToInitial
      return (calculator, none, returned)
  | none => .ok (calculator, request, none)

end TargetCalculator

/-! ## How the target moves -/

/-- The value of `clamp_target_send_rate`. -/
def Config.clamped (config : Config) (rate : DataRate) : DataRate :=
  if rate < config.minTargetSendRate then config.minTargetSendRate
  else if config.maxTargetSendRate < rate then config.maxTargetSendRate
  else rate

def Config.Admits (config : Config) (rate : DataRate) : Prop :=
  config.minTargetSendRate ≤ rate ∧ rate ≤ config.maxTargetSendRate

theorem Config.clamped_mono (config : Config)
    (ordered : config.minTargetSendRate ≤ config.maxTargetSendRate)
    {lower upper : DataRate} (le : lower ≤ upper) :
    config.clamped lower ≤ config.clamped upper := by
  unfold clamped
  have plain : ∀ least most low high : Nat, least ≤ most → low ≤ high →
      (if low < least then least else if most < low then most else low) ≤
        if high < least then least else if most < high then most
          else high := by
    intro least most low high order le
    split <;> split <;> (try split) <;> (try split) <;> omega
  exact plain _ _ _ _ ordered le

theorem Config.admits_clamped (config : Config)
    (ordered : config.minTargetSendRate ≤ config.maxTargetSendRate)
    (rate : DataRate) : config.Admits (config.clamped rate) := by
  unfold Admits clamped
  split
  · exact ⟨Nat.le_refl _, ordered⟩
  · rename_i enough
    split
    · exact ⟨ordered, Nat.le_refl _⟩
    · rename_i within
      exact ⟨Nat.not_lt.mp enough, Nat.not_lt.mp within⟩

theorem Config.clampTargetSendRate_eq_ok {config : Config}
    {rate clamped : DataRate}
    (ok : config.clampTargetSendRate rate = .ok clamped) :
    config.minTargetSendRate ≤ config.maxTargetSendRate ∧
      clamped = config.clamped rate := by
  unfold clampTargetSendRate at ok
  split at ok
  · rename_i ordered
    cases ok
    exact ⟨ordered, rfl⟩
  · cases ok

theorem BuildProfile.addU64_le {profile : BuildProfile}
    {left right sum : Nat} (added : profile.addU64 left right = .ok sum) :
    sum ≤ left + right := by
  unfold BuildProfile.addU64 at added
  split at added
  · cases added
    exact Nat.le_refl _
  · split at added
    · cases added
    · cases added
      exact Nat.mod_le _ _

/-- Half of a rate is not more than the rate. -/
def Halves (F : Type) [FloatingPoint F] : Prop :=
  ∀ rate : DataRate, overF64 rate (2.0 : F) ≤ rate

/-- How a rate that is returned for a direction compares with the one it
started from. -/
def Moved (config : Config) (ackedRate : Option DataRate)
    (base rate : DataRate) : DelayDirection → Prop
  | .decreasing => rate = config.clamped base
  | .steady =>
      config.clamped base ≤ rate ∧
        ∀ acked ∈ ackedRate, rate ≤ config.clamped
          (max base (timesF64 acked (1.5 : F) + fromKbps 10))
  | .increasing => rate ≤ config.clamped base

namespace TargetCalculator

variable {F profile}
variable {calculator after : TargetCalculator}
variable {now : Instant} {changed : Option DataRate}

theorem whileSteady_moves
    (followed : calculator.whileSteady F profile now = .ok (after, changed)) :
    ∃ rate, changed = some rate ∧ calculator.targetSendRate ≤ rate ∧
      (∀ acked ∈ calculator.ackedRate, rate ≤ max calculator.targetSendRate
        (timesF64 acked (1.5 : F) + fromKbps 10)) ∧
      ∃ averager,
        after = { calculator with ackedRateWhenOverusing := averager } := by
  unfold whileSteady at followed
  obtain ⟨averager, _, followed⟩ := bind_eq_ok_iff.mp followed
  obtain ⟨increased, _, followed⟩ := bind_eq_ok_iff.mp followed
  obtain ⟨limited, isLimited, followed⟩ := bind_eq_ok_iff.mp followed
  cases followed
  refine ⟨_, rfl, Nat.le_max_left _ _, ?_, averager, rfl⟩
  intro acked isAcked
  apply Nat.max_le.mpr ⟨Nat.le_max_left _ _, ?_⟩
  change limitIncrease F profile calculator.ackedRate increased = _
    at isLimited
  rw [Option.mem_def.mp isAcked] at isLimited
  obtain ⟨limit, added, same⟩ := bind_eq_ok_iff.mp isLimited
  cases same
  exact (Nat.min_le_left _ _).trans
    ((BuildProfile.addU64_le added).trans (Nat.le_max_right _ _))

theorem whileIncreasing_moves
    (followed : calculator.whileIncreasing F profile now =
      .ok (after, changed)) :
    (Halves F → ∀ rate ∈ changed, rate ≤ calculator.targetSendRate) ∧
      ∃ averager,
        after = { calculator with ackedRateWhenOverusing := averager } := by
  unfold whileIncreasing at followed
  split at followed
  · split at followed
    · obtain ⟨_, _, followed⟩ := bind_eq_ok_iff.mp followed
      obtain ⟨averager, _, followed⟩ := bind_eq_ok_iff.mp followed
      cases followed
      refine ⟨?_, averager, rfl⟩
      rintro _ rate ⟨⟩
      exact Nat.min_le_left _ _
    · cases followed
      exact ⟨fun _ _ isRate => (Option.not_mem_none _ isRate).elim, _, rfl⟩
  · cases followed
    refine ⟨?_, _, rfl⟩
    rintro halves rate ⟨⟩
    exact halves _

variable {direction : DelayDirection}

theorem apply_moves {changed returned : Option DataRate} {reset : Bool}
    (applied : calculator.apply now direction changed reset =
      .ok (after, returned)) :
    (∃ target updated, after = { calculator with
      previousDirection := some direction
      targetSendRate := target
      targetSendRateUpdated := updated }) ∧
      (returned = none → changed = none ∧ reset = false ∧
        after.targetSendRate = calculator.targetSendRate) ∧
      ∀ rate ∈ returned, after.targetSendRate = rate ∧
        calculator.config.minTargetSendRate ≤
          calculator.config.maxTargetSendRate ∧
        (changed.isSome ∨ reset = true) ∧
        rate = calculator.config.clamped
          (changed.getD calculator.targetSendRate) := by
  unfold apply at applied
  dsimp only at applied
  split at applied
  · rename_i changes
    obtain ⟨target, clamped, same⟩ := bind_eq_ok_iff.mp applied
    cases same
    obtain ⟨ordered, value⟩ := Config.clampTargetSendRate_eq_ok clamped
    refine ⟨⟨_, _, rfl⟩,
      fun absent => absurd absent (Option.some_ne_none _), ?_⟩
    rintro rate ⟨⟩
    exact ⟨rfl, ordered, changes, value⟩
  · rename_i unchanged
    cases applied
    obtain ⟨notChanged, notReset⟩ := not_or.mp unchanged
    refine ⟨⟨_, _, rfl⟩,
      fun _ => ⟨Option.not_isSome_iff_eq_none.mp notChanged,
        Bool.eq_false_of_not_eq_true notReset, rfl⟩, ?_⟩
    exact fun rate isRate => (Option.not_mem_none _ isRate).elim

/-- The target that a direction starts from: the current one, or the one to
which a request resets it. -/
inductive StartsFrom (F : Type) [FloatingPoint F]
    (calculator : TargetCalculator) (request : Option Request) :
    DataRate → Bool → Prop where
  | current :
      StartsFrom F calculator request calculator.targetSendRate false
  | reset (latest : Request) :
      request = some latest →
      calculator.requested.ideal ≤ fromKbps 150 →
      fromKbps 150 < latest.ideal →
      calculator.targetSendRate <
        max calculator.config.initialTargetSendRate
          (timesF64 latest.base (0.5 : F)) →
      StartsFrom F calculator request
        (max calculator.config.initialTargetSendRate
          (timesF64 latest.base (0.5 : F))) true

theorem takeRequest_startsFrom (calculator : TargetCalculator)
    (request : Option Request) :
    StartsFrom F calculator request
        (calculator.takeRequest F request).1.targetSendRate
        (calculator.takeRequest F request).2 ∧
      ∃ requested target, (calculator.takeRequest F request).1 =
        { calculator with
          requested := requested
          targetSendRate := target } := by
  unfold takeRequest
  split
  · exact ⟨.current, _, _, rfl⟩
  · rename_i latest
    dsimp only
    split
    · rename_i crossed
      exact ⟨.reset latest rfl crossed.1 (Nat.not_le.mp crossed.2.1)
        crossed.2.2, _, _, rfl⟩
    · exact ⟨.current, _, _, rfl⟩

/-- What a step does with the target. -/
structure TargetStep (F : Type) [FloatingPoint F]
    (calculator : TargetCalculator) (request : Option Request)
    (direction : DelayDirection) (after : TargetCalculator)
    (returned : Option DataRate) : Prop where
  config : after.config = calculator.config
  remembered : after.previousDirection = some direction
  held : returned = none →
    after.targetSendRate = calculator.targetSendRate
  moved : ∀ rate ∈ returned, after.targetSendRate = rate ∧
    calculator.config.minTargetSendRate ≤
      calculator.config.maxTargetSendRate ∧
    calculator.config.Admits rate ∧
    ∃ base reset, StartsFrom F calculator request base reset ∧
      (direction = .decreasing → reset = true) ∧
      Moved F calculator.config after.ackedRate base rate direction

/-- How a direction changes the rate, before it is clamped. -/
structure Followed (F : Type) [FloatingPoint F]
    (calculator : TargetCalculator) (direction : DelayDirection)
    (changed : Option DataRate) : Prop where
  decreasing : direction = .decreasing → changed = none
  steady : direction = .steady → ∃ rate, changed = some rate ∧
    calculator.targetSendRate ≤ rate ∧
    ∀ acked ∈ calculator.ackedRate, rate ≤ max calculator.targetSendRate
      (timesF64 acked (1.5 : F) + fromKbps 10)
  increasing : direction = .increasing →
    ∀ rate ∈ changed, rate ≤ calculator.targetSendRate

/-- Only the average is updated before the rate is clamped. -/
theorem follow_moves (followed : calculator.follow F profile now direction =
      .ok (after, changed)) :
    (Halves F → Followed F calculator direction changed) ∧
      ∃ averager,
        after = { calculator with ackedRateWhenOverusing := averager } := by
  cases direction with
  | decreasing =>
      cases followed
      exact ⟨fun _ => ⟨fun _ => rfl, nofun, nofun⟩, _, rfl⟩
  | steady =>
      obtain ⟨rate, isRate, grown, limited, kept⟩ := whileSteady_moves followed
      exact ⟨fun _ => ⟨nofun, fun _ => ⟨rate, isRate, grown, limited⟩, nofun⟩,
        kept⟩
  | increasing =>
      obtain ⟨lowers, kept⟩ := whileIncreasing_moves followed
      exact ⟨fun halves => ⟨nofun, nofun, fun _ => lowers halves⟩, kept⟩

/-- The rate that is returned, compared with the one that was followed. -/
theorem Followed.moved {rate : DataRate}
    (followed : Followed F calculator direction changed)
    (ordered : calculator.config.minTargetSendRate ≤
      calculator.config.maxTargetSendRate)
    (clamped : rate = calculator.config.clamped
      (changed.getD calculator.targetSendRate)) :
    Moved F calculator.config calculator.ackedRate calculator.targetSendRate
      rate direction := by
  cases direction with
  | decreasing =>
      rw [followed.decreasing rfl] at clamped
      exact clamped
  | steady =>
      obtain ⟨grown, rfl, above, limited⟩ := followed.steady rfl
      rw [clamped]
      constructor
      · exact calculator.config.clamped_mono ordered above
      · intro acked isAcked
        exact calculator.config.clamped_mono ordered (limited acked isAcked)
  | increasing =>
      rw [clamped]
      apply calculator.config.clamped_mono ordered
      cases changed with
      | none => exact Nat.le_refl _
      | some lowered => exact followed.increasing rfl lowered rfl

theorem StartsFrom.of_observe {rtt : Option Duration}
    {ackedRate : Option DataRate} {request : Option Request}
    {base : DataRate} {reset : Bool}
    (starts : StartsFrom F (calculator.observe rtt ackedRate) request base
      reset) :
    StartsFrom F calculator request base reset := by
  cases starts with
  | current => exact .current
  | reset latest isLatest wasTiny isNotTiny below =>
      exact .reset latest isLatest wasTiny isNotTiny below

/-- One step with a new direction. -/
theorem targetStep_of_next (halves : Halves F) {request left : Option Request}
    {rtt : Option Duration} {ackedRate returned : Option DataRate}
    (stepped : calculator.next F profile request (some (now, direction)) rtt
      ackedRate = .ok (after, left, returned)) :
    left = none ∧
      TargetStep F calculator request direction after returned := by
  unfold next at stepped
  dsimp only at stepped
  obtain ⟨⟨followed, changed⟩, follows, stepped⟩ := bind_eq_ok_iff.mp stepped
  obtain ⟨⟨applied, result⟩, applies, stepped⟩ := bind_eq_ok_iff.mp stepped
  cases stepped
  obtain ⟨starts, requested, base, taken⟩ := @takeRequest_startsFrom F _
    (calculator.observe rtt ackedRate) request
  have starts := starts.of_observe
  obtain ⟨moves, averager, rfl⟩ := follow_moves follows
  have moves := moves halves
  obtain ⟨⟨target, updated, rfl⟩, absent, present⟩ := apply_moves applies
  generalize (calculator.observe rtt ackedRate).takeRequest F request = both
    at *
  obtain ⟨_, reset⟩ := both
  dsimp only at taken
  subst taken
  refine ⟨rfl, rfl, rfl, ?_, ?_⟩
  · intro isNone
    obtain ⟨_, notReset, kept⟩ := absent isNone
    rw [kept]
    dsimp only at starts notReset ⊢
    generalize base = start at starts
    cases starts with
    | current => rfl
    | reset => cases notReset
  · intro rate isRate
    obtain ⟨same, ordered, changes, value⟩ := present rate isRate
    refine ⟨same, ordered, ?_, base, reset, starts, ?_,
      moves.moved ordered value⟩
    · rw [value]
      exact calculator.config.admits_clamped ordered _
    · intro decreasing
      rw [moves.decreasing decreasing] at changes
      exact changes.resolve_left (fun isSome => Bool.false_ne_true isSome)

/-- What is kept of the values that are given to the calculator. -/
theorem next_reads {request left : Option Request}
    {delayDirections : Option (Instant × DelayDirection)}
    {rtt : Option Duration} {ackedRate returned : Option DataRate}
    (stepped : calculator.next F profile request delayDirections rtt
      ackedRate = .ok (after, left, returned)) :
    after.rtt = rtt.getD calculator.rtt ∧
      after.ackedRate = ackedRate.or calculator.ackedRate ∧
      after.previousDirection =
        (delayDirections.map Prod.snd).or calculator.previousDirection := by
  unfold next at stepped
  dsimp only at stepped
  split at stepped
  · rename_i now direction
    obtain ⟨⟨followed, changed⟩, follows, stepped⟩ :=
      bind_eq_ok_iff.mp stepped
    obtain ⟨⟨applied, result⟩, applies, stepped⟩ := bind_eq_ok_iff.mp stepped
    cases stepped
    obtain ⟨-, averager, rfl⟩ := follow_moves follows
    obtain ⟨⟨target, updated, rfl⟩, -⟩ := apply_moves applies
    obtain ⟨-, requested, base, taken⟩ := @takeRequest_startsFrom F _
      (calculator.observe rtt ackedRate) request
    rw [taken]
    exact ⟨rfl, rfl, rfl⟩
  · cases stepped
    exact ⟨rfl, rfl, rfl⟩

end TargetCalculator

end CallingService.Backend.Googcc
