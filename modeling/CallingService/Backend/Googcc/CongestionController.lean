import CallingService.Backend.Googcc.TargetCalculator
import Mathlib.Data.List.Sort
import Mathlib.Tactic.Linarith

/-!
# The congestion controller

Each report of acknowledgements is sent down three pipelines, and the latest
value that comes out of each is given to the calculator.
-/

namespace CallingService.Backend.Googcc

open Foundation Tcc FloatingPoint

variable (F : Type) [FloatingPoint F] (profile : BuildProfile)

/-- What the four stages of `calculate_delay_directions` keep. -/
abbrev DelayState :=
  ((Option OpenGroup × Option DeltaBase) × Option (DelayHistory F)) ×
    Option (DelayTrend F)

def calculateDelayDirectionsStep : DelayState F → Ack →
    Option (Instant × DelayDirection) × Except Panic (DelayState F) :=
  chain
    (chain (chain (accumulateAckGroupsStep F) (calculateAckDeltasStep F))
      (calculateDelaySlopesStep F profile))
    (calculateDelayDirectionsFromSlopesStep F)

structure CongestionController where
  currentRequest : Option Request
  feedbackRtts : RingBuffer Duration
  ackedRates : Option AckGroup × Option (RateEstimate F)
  delayDirections : DelayState F
  calculator : TargetCalculator

namespace CongestionController

def new (config : Config) (now : Instant) : CongestionController F where
  currentRequest := none
  feedbackRtts := .new feedbackRttsHistoryLen
  ackedRates := (none, none)
  delayDirections := (((none, none), none), none)
  calculator := .new config now

variable {F}

def request (controller : CongestionController F) (request : Request) :
    CongestionController F :=
  { controller with currentRequest := some request }

/-- `sort_by_key(|ack| ack.arrival)`. -/
def sortByArrival (acks : List Ack) : List Ack :=
  acks.insertionSort fun earlier later => earlier.arrival ≤ later.arrival

def recalculateTargetSendRate (controller : CongestionController F)
    (acks : List Ack) :
    Except Panic (CongestionController F × Option DataRate) :=
  if acks.isEmpty then .ok (controller, none)
  else do
    let acks := sortByArrival acks
    let (rtt, feedbackRtts) ←
      drain estimateFeedbackRttsStep controller.feedbackRtts [acks]
    let (ackedRate, ackedRates) ←
      drain (estimateAckedRatesStep F profile) controller.ackedRates acks
    let (delayDirection, delayDirections) ←
      drain (calculateDelayDirectionsStep F profile)
        controller.delayDirections acks
    let (calculator, currentRequest, returned) ←
      controller.calculator.next F profile controller.currentRequest
        delayDirection rtt ackedRate
    return ({
      currentRequest := currentRequest
      feedbackRtts := feedbackRtts
      ackedRates := ackedRates
      delayDirections := delayDirections
      calculator := calculator }, returned)

def rtt (controller : CongestionController F) : Duration :=
  controller.calculator.rtt

end CongestionController

/-! ## Runs -/

inductive ControllerEvent where
  | request (request : Request)
  | report (acks : List Ack)

/-- One operation of a controller, and the target rate that it returns. -/
inductive ControllerStep : CongestionController F →
    ControllerEvent × Option DataRate → CongestionController F → Prop where
  | request (controller : CongestionController F) (request : Request) :
      ControllerStep controller (.request request, none)
        (controller.request request)
  | report {before after : CongestionController F} {acks : List Ack}
      {returned : Option DataRate} :
      before.recalculateTargetSendRate profile acks = .ok (after, returned) →
      ControllerStep before (.report acks, returned) after

/-- The sorted reports that are not empty. -/
def reportsOf (labels : List (ControllerEvent × Option DataRate)) :
    List (List Ack) :=
  labels.filterMap fun label =>
    match label.1 with
    | .request _ => none
    | .report [] => none
    | .report (ack :: acks) =>
        some (CongestionController.sortByArrival (ack :: acks))

/-- The rates of the groups of all the acknowledgements. -/
def estimateAckedRates (acks : List Ack) : List DataRate :=
  (transduce (estimateAckedRatesFromGroupsStep F profile) none
    (accumulateAckedSizes profile acks).1).1

/-- The directions of all the acknowledgements. -/
def calculateDelayDirections (acks : List Ack) :
    List (Instant × DelayDirection) :=
  calculateDelayDirectionsFromSlopes F
    (calculateDelaySlopes F profile
      (calculateAckDeltas F (accumulateAckGroups F acks))).1

/-- The mean of the longest round-trip times of the newest reports. -/
def feedbackRttOf (reports : List (List Ack)) : Duration :=
  if reports.filterMap maxFeedbackRtt = [] then fromMillis 100
  else meanDuration
    ((reports.filterMap maxFeedbackRtt).rtake feedbackRttsHistoryLen)

variable {F profile} {acks : List Ack}

theorem transduce_estimateAckedRatesStep
    {state : Option AckGroup × Option (RateEstimate F)}
    (run : Run (Proceeds (estimateAckedRatesStep F profile)) (none, none) acks
      state) :
    (transduce (estimateAckedRatesStep F profile) (none, none) acks).1 =
      estimateAckedRates F profile acks := by
  obtain ⟨sizes, estimate⟩ := state
  unfold estimateAckedRatesStep estimateAckedRates at *
  rw [transduce_chain run, transduce_accumulateAckedSizesStep]

theorem transduce_calculateDelayDirectionsStep {state : DelayState F}
    (run : Run (Proceeds (calculateDelayDirectionsStep F profile))
      (((none, none), none), none) acks state) :
    (transduce (calculateDelayDirectionsStep F profile)
      (((none, none), none), none) acks).1 =
        calculateDelayDirections F profile acks := by
  obtain ⟨⟨⟨groups, deltas⟩, slopes⟩, directions⟩ := state
  unfold calculateDelayDirectionsStep at *
  have slopesRun := (run_chain_iff.mp run).1
  have deltasRun := (run_chain_iff.mp slopesRun).1
  rw [transduce_chain run, transduce_chain slopesRun,
    transduce_chain deltasRun]
  rfl

/-! ## The pipelines -/

/-- The pipelines have read the reports, and the calculator knows the latest
values that came out of them. -/
structure Reads (reports : List (List Ack))
    (controller : CongestionController F) : Prop where
  limit : controller.feedbackRtts.limit = feedbackRttsHistoryLen
  history : controller.feedbackRtts.Holds (reports.filterMap maxFeedbackRtt)
  ackedRates : Run (Proceeds (estimateAckedRatesStep F profile)) (none, none)
    reports.flatten controller.ackedRates
  delayDirections : Run (Proceeds (calculateDelayDirectionsStep F profile))
    (((none, none), none), none) reports.flatten controller.delayDirections
  rtt : controller.calculator.rtt = feedbackRttOf reports
  ackedRate : controller.calculator.ackedRate =
    (transduce (estimateAckedRatesStep F profile) (none, none)
      reports.flatten).1.getLast?
  previousDirection : controller.calculator.previousDirection =
    (transduce (calculateDelayDirectionsStep F profile)
      (((none, none), none), none) reports.flatten).1.getLast?.map Prod.snd

theorem reads_new (config : Config) (now : Instant) :
    @Reads F _ profile [] (CongestionController.new F config now) where
  limit := rfl
  history := RingBuffer.holds_new _
  ackedRates := .nil
  delayDirections := .nil
  rtt := rfl
  ackedRate := rfl
  previousDirection := rfl

theorem feedbackRttOf_snoc (reports : List (List Ack)) (acks : List Ack) :
    feedbackRttOf (reports ++ [acks]) =
      ((maxFeedbackRtt acks).map fun _ =>
        meanDuration (((reports ++ [acks]).filterMap maxFeedbackRtt).rtake
          feedbackRttsHistoryLen)).getD (feedbackRttOf reports) := by
  unfold feedbackRttOf
  rw [List.filterMap_append, List.filterMap_cons, List.filterMap_nil]
  cases maxFeedbackRtt acks with
  | none => rw [List.append_nil, Option.map_none, Option.getD_none]
  | some longest =>
      rw [if_neg (List.append_ne_nil_of_right_ne_nil _
        (List.cons_ne_nil _ _))]
      rfl

variable {before after : CongestionController F}

/-- A report goes through the three pipelines. -/
theorem reads_report {reports : List (List Ack)} {returned : Option DataRate}
    (reads : @Reads F _ profile reports before) (nonempty : acks ≠ [])
    (stepped : before.recalculateTargetSendRate profile acks =
      .ok (after, returned)) :
    @Reads F _ profile
      (reports ++ [CongestionController.sortByArrival acks]) after := by
  unfold CongestionController.recalculateTargetSendRate at stepped
  rw [if_neg (by simpa using nonempty)] at stepped
  dsimp only at stepped
  generalize CongestionController.sortByArrival acks = sorted at stepped ⊢
  obtain ⟨⟨rtt, feedbackRtts⟩, rtts, stepped⟩ := bind_eq_ok_iff.mp stepped
  obtain ⟨⟨rate, ackedRates⟩, rates, stepped⟩ := bind_eq_ok_iff.mp stepped
  obtain ⟨⟨direction, delayDirections⟩, directions, stepped⟩ :=
    bind_eq_ok_iff.mp stepped
  obtain ⟨⟨calculator, currentRequest, result⟩, next, stepped⟩ :=
    bind_eq_ok_iff.mp stepped
  cases stepped
  obtain ⟨ratesRun, rfl⟩ := drain_eq_ok_iff.mp rates
  obtain ⟨directionsRun, rfl⟩ := drain_eq_ok_iff.mp directions
  obtain ⟨keptRtt, keptRate, remembered⟩ :=
    TargetCalculator.next_reads next
  unfold estimateFeedbackRttsStep at rtts
  rw [drain_unfailing_singleton] at rtts
  obtain ⟨limit, history, yielded⟩ :=
    estimateFeedbackRtts_turn reads.limit reads.history sorted
  rw [Except.ok.inj rtts] at limit history yielded
  have whole : (reports ++ [sorted]).flatten = reports.flatten ++ sorted := by
    rw [List.flatten_append, List.flatten_singleton]
  constructor
  case limit => exact limit
  case history => exact history
  case ackedRates => exact whole ▸ Run.append reads.ackedRates ratesRun
  case delayDirections =>
    exact whole ▸ Run.append reads.delayDirections directionsRun
  case rtt =>
    rw [keptRtt, yielded, feedbackRttOf_snoc, reads.rtt]
  case ackedRate =>
    rw [keptRate, whole, getLast?_transduce_append reads.ackedRates,
      reads.ackedRate]
  case previousDirection =>
    rw [remembered, whole, getLast?_transduce_append reads.delayDirections,
      reads.previousDirection, Option.map_or]

theorem reads_step {reports : List (List Ack)}
    {label : ControllerEvent × Option DataRate}
    (reads : @Reads F _ profile reports before)
    (stepped : ControllerStep F profile before label after) :
    @Reads F _ profile (reports ++ reportsOf [label]) after := by
  cases stepped with
  | request latest =>
      rw [show reportsOf [(.request latest, none)] = [] from rfl,
        List.append_nil]
      exact ⟨reads.limit, reads.history, reads.ackedRates,
        reads.delayDirections, reads.rtt, reads.ackedRate,
        reads.previousDirection⟩
  | @report _ acks returned recalculated =>
      cases acks with
      | nil =>
          cases recalculated
          rw [show reportsOf [(.report [], none)] = [] from rfl,
            List.append_nil]
          exact reads
      | cons ack acks =>
          exact reads_report reads (List.cons_ne_nil _ _) recalculated

theorem reportsOf_append
    (earlier later : List (ControllerEvent × Option DataRate)) :
    reportsOf (earlier ++ later) = reportsOf earlier ++ reportsOf later :=
  List.filterMap_append

/-- After any run, what the controller knows is what the stages compute for all
the reports at once: the mean of the newest round-trip times, the last rate of
the acknowledged data and the last direction of the delay. -/
theorem controller_reads_whole_streams {config : Config} {start : Instant}
    {labels : List (ControllerEvent × Option DataRate)}
    {finish : CongestionController F}
    (run : Run (ControllerStep F profile) (.new F config start) labels finish) :
    finish.rtt = feedbackRttOf (reportsOf labels) ∧
      finish.calculator.ackedRate =
        (estimateAckedRates F profile
          (reportsOf labels).flatten).getLast? ∧
      finish.calculator.previousDirection =
        (calculateDelayDirections F profile
          (reportsOf labels).flatten).getLast?.map Prod.snd := by
  have reads : @Reads F _ profile (reportsOf labels) finish := by
    apply run.history_invariant (reads_new config start)
    intro past label before after reads stepped
    rw [reportsOf_append]
    exact reads_step reads stepped
  refine ⟨reads.rtt, ?_, ?_⟩
  · rw [reads.ackedRate, transduce_estimateAckedRatesStep reads.ackedRates]
  · rw [reads.previousDirection,
      transduce_calculateDelayDirectionsStep reads.delayDirections]

/-- A controller that gets a request and then a report of three bursts. -/
def firstRequested : CongestionController ℚ :=
  (CongestionController.new ℚ .initial 0).request
    ⟨fromKbps 500, fromKbps 2000⟩

theorem exists_of_map_snd {State Failure Output : Type}
    {result : Except Failure (State × Output)} {output : Output}
    (same : result.map Prod.snd = .ok output) :
    ∃ state, result = .ok (state, output) := by
  cases result with
  | error failure => cases same
  | ok both =>
      cases same
      exact ⟨both.1, rfl⟩

theorem exists_firstReported :
    ∃ after, @CongestionController.recalculateTargetSendRate ℚ exactRationals
      .debug firstRequested burstAcks = .ok (after, some (fromKbps 801)) := by
  apply exists_of_map_snd
  decide +kernel

theorem run_firstRequested :
    Run (@ControllerStep ℚ exactRationals .debug)
      (CongestionController.new ℚ .initial 0)
      [(.request ⟨fromKbps 500, fromKbps 2000⟩, none)] firstRequested :=
  @Run.snoc _ _ _ _ [] _ _ _ .nil
    (@ControllerStep.request ℚ exactRationals .debug _ _)

theorem controller_reads_whole_streams_three_bursts :
    ∃ labels finish,
      labels = [(.request ⟨fromKbps 500, fromKbps 2000⟩, none),
        (.report burstAcks, some (fromKbps 801))] ∧
      Run (@ControllerStep ℚ exactRationals .debug)
        (CongestionController.new ℚ .initial 0) labels
        finish ∧
      finish.rtt = feedbackRttOf (reportsOf labels) ∧
      finish.calculator.ackedRate =
        (@estimateAckedRates ℚ exactRationals .debug
          (reportsOf labels).flatten).getLast? ∧
      finish.calculator.previousDirection =
        (@calculateDelayDirections ℚ exactRationals .debug
          (reportsOf labels).flatten).getLast?.map Prod.snd := by
  obtain ⟨after, reported⟩ := exists_firstReported
  have run := Run.snoc run_firstRequested
    (@ControllerStep.report ℚ exactRationals .debug _ _ _ _ reported)
  exact ⟨_, after, rfl, run,
    @controller_reads_whole_streams ℚ exactRationals .debug _ _ _ _ run⟩

/-! ## The target rate over a run -/

def returnedRates (labels : List (ControllerEvent × Option DataRate)) :
    List DataRate :=
  labels.filterMap Prod.snd

/-- A report gives the calculator a new direction or leaves the target. -/
theorem report_moves (halves : Halves F) {returned : Option DataRate}
    (stepped : before.recalculateTargetSendRate profile acks =
      .ok (after, returned)) :
    (returned = none ∧ after.calculator.config = before.calculator.config ∧
        after.calculator.targetSendRate =
          before.calculator.targetSendRate) ∨
      ∃ direction, TargetCalculator.TargetStep F before.calculator
        before.currentRequest direction after.calculator returned := by
  unfold CongestionController.recalculateTargetSendRate at stepped
  split at stepped
  · cases stepped
    exact .inl ⟨rfl, rfl, rfl⟩
  · dsimp only at stepped
    obtain ⟨⟨rtt, feedbackRtts⟩, _, stepped⟩ := bind_eq_ok_iff.mp stepped
    obtain ⟨⟨rate, ackedRates⟩, _, stepped⟩ := bind_eq_ok_iff.mp stepped
    obtain ⟨⟨polled, delayDirections⟩, _, stepped⟩ :=
      bind_eq_ok_iff.mp stepped
    obtain ⟨⟨calculator, currentRequest, result⟩, next, stepped⟩ :=
      bind_eq_ok_iff.mp stepped
    cases stepped
    cases polled with
    | none =>
        cases next
        exact .inl ⟨rfl, rfl, rfl⟩
    | some timed =>
        obtain ⟨now, direction⟩ := timed
        exact .inr ⟨direction,
          (TargetCalculator.targetStep_of_next halves next).2⟩

/-- The rates that have been returned, and the target. -/
structure Targets (config : Config) (returned : List DataRate)
    (controller : CongestionController F) : Prop where
  configured : controller.calculator.config = config
  admitted : ∀ rate ∈ returned, config.Admits rate
  latest : controller.calculator.targetSendRate =
    returned.getLastD config.initialTargetSendRate

theorem targets_step (halves : Halves F) {config : Config}
    {rates : List DataRate} {label : ControllerEvent × Option DataRate}
    (targets : Targets config rates before)
    (stepped : ControllerStep F profile before label after) :
    Targets config (rates ++ label.2.toList) after := by
  cases stepped with
  | request latest =>
      rw [Option.toList_none, List.append_nil]
      exact ⟨targets.configured, targets.admitted, targets.latest⟩
  | @report _ acks returned recalculated =>
      change Targets config (rates ++ returned.toList) after
      rcases report_moves halves recalculated with
        ⟨rfl, sameConfig, kept⟩ | ⟨direction, step⟩
      · rw [Option.toList_none, List.append_nil]
        exact ⟨sameConfig.trans targets.configured, targets.admitted,
          kept.trans targets.latest⟩
      · have sameConfig := step.config.trans targets.configured
        cases returned with
        | none =>
            rw [Option.toList_none, List.append_nil]
            exact ⟨sameConfig, targets.admitted,
              (step.held rfl).trans targets.latest⟩
        | some rate =>
            obtain ⟨target, _, admits, _⟩ := step.moved rate rfl
            refine ⟨sameConfig, ?_, ?_⟩
            · intro other member
              rcases List.mem_append.mp member with earlier | isNew
              · exact targets.admitted other earlier
              · rw [List.mem_singleton.mp isNew, ← targets.configured]
                exact admits
            · rw [target, Option.toList_some, List.getLastD_concat]

/-- Over any run the returned rates stay within the bounds of the
configuration and the last of them is the target.  The next one is raised only
while the delay is steady, and then to one and a half times the acknowledged
rate and 10 kbps at most, and lowered only while it increases, compared with the
target or the rate to which a request has reset it. -/
theorem target_send_rate_moves (halves : Halves F) {config : Config}
    {start : Instant} {labels : List (ControllerEvent × Option DataRate)}
    {finish : CongestionController F}
    (run : Run (ControllerStep F profile) (.new F config start) labels
      finish) :
    (∀ rate ∈ returnedRates labels, config.Admits rate) ∧
      finish.calculator.targetSendRate =
        (returnedRates labels).getLastD config.initialTargetSendRate ∧
      ∀ acks rate after,
        ControllerStep F profile finish (.report acks, some rate) after →
        ∃ direction base reset,
          after.calculator.previousDirection = some direction ∧
          TargetCalculator.StartsFrom F finish.calculator
            finish.currentRequest base reset ∧
          (direction = .decreasing → reset = true) ∧
          Moved F config after.calculator.ackedRate base rate direction := by
  have targets : Targets config (returnedRates labels) finish := by
    induction run with
    | nil => exact ⟨rfl, fun _ member => absurd member List.not_mem_nil, rfl⟩
    | @snoc past label before after run stepped targets =>
        have appended : returnedRates (past ++ [label]) =
            returnedRates past ++ label.2.toList := by
          unfold returnedRates
          rw [List.filterMap_append]
          cases label with
          | mk event returned => cases returned <;> rfl
        rw [appended]
        exact targets_step halves targets stepped
  refine ⟨targets.admitted, targets.latest, ?_⟩
  intro acks rate after stepped
  cases stepped with
  | report recalculated =>
      rcases report_moves halves recalculated with
        ⟨absent, _⟩ | ⟨direction, step⟩
      · cases absent
      · obtain ⟨_, _, _, base, reset, starts, isReset, moved⟩ :=
          step.moved rate rfl
        rw [targets.configured] at moved
        exact ⟨direction, base, reset, step.remembered, starts, isReset,
          moved⟩

theorem halves_exactRationals : @Halves ℚ exactRationals := by
  intro rate
  have half : (rate : ℚ) / 2.0 ≤ rate := by
    have nonneg : (0 : ℚ) ≤ rate := Nat.cast_nonneg rate
    rw [div_le_iff₀ (by norm_num)]
    linarith
  have floored : (((rate : ℚ) / 2.0).floor : ℚ) ≤ rate :=
    (Rat.floor_le _).trans half
  apply (Nat.min_le_left _ _).trans
  exact Int.toNat_le.mpr (by exact_mod_cast floored)

theorem target_send_rate_moves_three_bursts :
    ∃ labels finish,
      Run (@ControllerStep ℚ exactRationals .debug)
        (CongestionController.new ℚ .initial 0) labels
        finish ∧
      (∃ after, @ControllerStep ℚ exactRationals .debug finish
        (.report burstAcks, some (fromKbps 801)) after) ∧
      (∀ rate ∈ returnedRates labels, Config.initial.Admits rate) ∧
      finish.calculator.targetSendRate =
        (returnedRates labels).getLastD (fromKbps 800) ∧
      ∀ acks rate after,
        @ControllerStep ℚ exactRationals .debug finish
          (.report acks, some rate) after →
        ∃ direction base reset,
          after.calculator.previousDirection = some direction ∧
          @TargetCalculator.StartsFrom ℚ exactRationals finish.calculator
            finish.currentRequest base reset ∧
          (direction = .decreasing → reset = true) ∧
          @Moved ℚ exactRationals .initial after.calculator.ackedRate base
            rate direction := by
  obtain ⟨after, reported⟩ := exists_firstReported
  exact ⟨_, _, run_firstRequested, ⟨after,
      @ControllerStep.report ℚ exactRationals .debug _ _ _ _ reported⟩,
    @target_send_rate_moves ℚ exactRationals .debug halves_exactRationals
      _ _ _ _ run_firstRequested⟩

end CallingService.Backend.Googcc
