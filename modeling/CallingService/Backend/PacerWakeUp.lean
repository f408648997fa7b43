import CallingService.Backend.PacerQueues

/-!
# The wake-ups of the pacer

Whoever drives the pacer calls `dequeue` at the time that the last operation
returned.  A `dequeue` that comes too early is refused and returns no new
time, so nobody wakes the pacer again.
-/

namespace CallingService.Backend

open Foundation Rtp

namespace RateArithmetic.Exact

variable {rates : RateArithmetic} {rate : DataRate} {size : DataSize}

theorem timeFor_zero (exact : rates.Exact) (positive : 0 < rate) :
    rates.timeFor 0 rate = 0 := by
  have upper := exact.timeForUpper 0 rate positive
  rw [Nat.zero_mul, Nat.mul_zero, Nat.zero_add] at upper
  by_contra notZero
  have atLeast : 1 * rate ≤ rates.timeFor 0 rate * rate :=
    Nat.mul_le_mul_right rate (Nat.pos_of_ne_zero notZero)
  have larger := Nat.mul_le_mul_left 2 atLeast
  have absurdity := Nat.le_trans larger upper
  rw [Nat.one_mul, Nat.two_mul] at absurdity
  exact Nat.not_lt.mpr absurdity (Nat.lt_add_of_pos_left positive)

private theorem le_of_doubled {owed paid rest all : Nat}
    (lower : 2 * owed ≤ 2 * paid + rest) (longer : paid + rest ≤ all) :
    owed ≤ all := by
  omega

/-- A debt that takes less than an interval is paid off in it. -/
theorem paid_of_timeFor_lt (exact : rates.Exact) (positive : 0 < rate)
    {duration : Duration} (shorter : rates.timeFor size rate < duration) :
    size ≤ rates.sizeOver rate duration := by
  rw [exact.sizeOver, Nat.le_div_iff_mul_le (by decide : 0 < nanosPerSecond)]
  have lower := exact.timeForLower size rate positive
  have longer : (rates.timeFor size rate + 1) * rate ≤ duration * rate :=
    Nat.mul_le_mul_right rate shorter
  rw [Nat.add_mul, Nat.one_mul] at longer
  rw [Nat.mul_comm rate duration]
  exact le_of_doubled lower longer

end RateArithmetic.Exact

namespace PacerOperation

def time : PacerOperation → Option Instant
  | .enqueue _ now => some now
  | .forceEnqueue _ => none
  | .dequeue now => some now
  | .setConfig _ now => some now

end PacerOperation

namespace Pacer

variable (rates : RateArithmetic)

/-- The time that the configured rates need to pay off the debts that count
for what comes next. -/
def drainTime (pacer : Pacer) : Option Duration :=
  if pacer.queueIsEmpty then
    if 0 < pacer.config.paddingSendRate ∧ 0 < pacer.config.mediaSendRate then
      some (max (rates.timeFor pacer.mediaDebt pacer.config.mediaSendRate)
        (rates.timeFor pacer.paddingDebt pacer.config.paddingSendRate))
    else none
  else if 0 < pacer.config.mediaSendRate then
    some (rates.timeFor pacer.mediaDebt pacer.config.mediaSendRate)
  else none

theorem calculateNextSendTime_of_lastSent {pacer : Pacer}
    {lastSent : Instant} (sent : pacer.lastSent = some lastSent)
    (now : Instant) :
    pacer.calculateNextSendTime rates now =
      (pacer.drainTime rates).map (lastSent + ·) := by
  unfold calculateNextSendTime drainTime calculateNextPaddingSendTime
    calculateNextMediaSendTime
  rw [sent]
  split
  · split <;> rfl
  · split <;> rfl

theorem calculateNextSendTime_of_nothing_sent {pacer : Pacer}
    (nothing : pacer.lastSent = none) (now : Instant) :
    pacer.calculateNextSendTime rates now =
      (pacer.drainTime rates).map fun _ => now := by
  unfold calculateNextSendTime drainTime calculateNextPaddingSendTime
    calculateNextMediaSendTime
  rw [nothing]
  split
  · split <;> rfl
  · split <;> rfl

/-- The debts after an interval without sending. -/
def payOff (pacer : Pacer) (duration : Duration) : Pacer :=
  { pacer with
    mediaDebt := pacer.mediaDebt -
      rates.sizeOver pacer.config.mediaSendRate duration
    paddingDebt := pacer.paddingDebt -
      rates.sizeOver pacer.config.paddingSendRate duration }

/-- The configuration with which `set_config` goes on: its debts are at most
what the new rates pay off in `MAX_DEBT_IN_TIME`. -/
def configured (pacer : Pacer) (config : PacerConfig) : Pacer :=
  { pacer with config := config }.updateBudgetWithSentData rates 0

/-- There is something to send, and `dequeue` says that it is too early. -/
def Refused (pacer : Pacer) (now : Instant) : Prop :=
  (pacer.queueIsEmpty = false ∨ pacer.config.paddingSsrc.isSome) ∧
    pastSendTime (pacer.calculateNextSendTime rates now) now = false

/-- Before `set_config` there is a schedule and the new one has come; the
debts that the new rates leave at the earlier of the old schedule and now take
longer than until now. -/
def SetsBack (pacer : Pacer) (config : PacerConfig) (now : Instant) : Prop :=
  (pacer.queueIsEmpty = false ∨ config.paddingSsrc.isSome) ∧
    ∃ lastSent old drain left,
      pacer.lastSent = some lastSent ∧
      pacer.calculateNextSendTime rates now = some old ∧
      (pacer.configured rates config).drainTime rates = some drain ∧
      lastSent + drain ≤ now ∧
      ((pacer.configured rates config).payOff rates
        (min old now - lastSent)).drainTime rates = some left ∧
      now < min old now + left

section Refusals

variable {Generator : Type} {pacer : Pacer} {generator : Generator}
variable {now : Instant}
variable (generatePadding :
  Generator → Ssrc → Except Panic (Generator × Option Packet))

/-- Packets that wait are looked at unless `dequeue` is refused. -/
theorem mediaIsDue_of_not_refused (waits : pacer.queueIsEmpty = false)
    (notRefused : ¬ Refused rates pacer now) :
    pacer.mediaIsDue rates now = true := by
  unfold Refused calculateNextSendTime at notRefused
  rw [waits, if_neg Bool.false_ne_true] at notRefused
  unfold mediaIsDue
  rw [waits, Bool.not_false, Bool.true_and]
  by_contra early
  exact notRefused ⟨.inl rfl, Bool.eq_false_iff.mpr early⟩

theorem not_refused_of_past {time : Instant}
    (next : pacer.calculateNextSendTime rates now = some time)
    (past : time ≤ now) : ¬ Refused rates pacer now := by
  intro refused
  have early := refused.2
  rw [next] at early
  exact of_decide_eq_false early past

/-- The time that is calculated is not too early, also when it is over. -/
theorem not_refused_of_scheduled {time : Instant}
    (next : pacer.calculateNextSendTime rates now = some time) :
    ¬ Refused rates pacer (max time now) := by
  cases sent : pacer.lastSent with
  | none =>
      rw [calculateNextSendTime_of_nothing_sent rates sent,
        Option.map_eq_some_iff] at next
      obtain ⟨drain, drains, rfl⟩ := next
      have later : pacer.calculateNextSendTime rates (max now now) =
          some (max now now) := by
        rw [calculateNextSendTime_of_nothing_sent rates sent, drains]
        rfl
      exact not_refused_of_past rates later (Nat.le_refl _)
  | some lastSent =>
      have later : pacer.calculateNextSendTime rates (max time now) =
          some time := by
        rw [calculateNextSendTime_of_lastSent rates sent] at next ⊢
        exact next
      exact not_refused_of_past rates later (Nat.le_max_left _ _)

end Refusals

/-! ## The operations -/

section Steps

variable {rates} {Generator : Type}
variable {generatePadding :
  Generator → Ssrc → Except Panic (Generator × Option Packet)}
variable {pacer after : Pacer} {generator next : Generator} {now : Instant}
variable {result : Option Packet} {time : Instant}

theorem schedule_of_enqueue {media : Packet}
    (enqueued : pacer.enqueue rates media now = (after, result, some time)) :
    after.calculateNextSendTime rates now = some time := by
  rcases enqueue_cases rates enqueued with
    ⟨-, -, -, -, scheduled⟩ | ⟨-, -, missing | scheduled⟩
  · exact scheduled.symm
  · cases missing
  · exact scheduled.symm

theorem schedule_of_dequeuePadding {wasEmpty : Bool}
    (dequeued : pacer.dequeuePadding rates generatePadding generator wasEmpty
      now = .ok (after, next, result, some time)) :
    after.calculateNextSendTime rates now = some time := by
  rcases dequeuePadding_cases rates generatePadding dequeued with
    ⟨rfl, -, missing | scheduled⟩ | ⟨ssrc, padding, -, -, -, -, -, scheduled⟩
  · cases missing
  · exact scheduled.symm
  · exact scheduled.symm

theorem schedule_of_dequeue
    (dequeued : pacer.dequeue rates generatePadding generator now =
      .ok (after, next, result, some time)) :
    after.calculateNextSendTime rates now = some time := by
  generalize isTime : some time = schedule at dequeued
  cases dequeues_of_ok rates generatePadding dequeued with
  | media _ => rfl
  | noMedia _ _ padding =>
      subst isTime
      exact schedule_of_dequeuePadding padding
  | early _ _ _ => cases isTime

/-- Nothing is owed as long as nothing has been sent. -/
def OwesOnlySent (pacer : Pacer) : Prop :=
  pacer.lastSent = none → pacer.mediaDebt = 0 ∧ pacer.paddingDebt = 0

theorem lastSent_updateBudgetWithTime (pacer : Pacer) (now : Instant) :
    (pacer.updateBudgetWithTime rates now).lastSent.isSome := by
  unfold updateBudgetWithTime
  split
  · rename_i lastSent sent
    split
    · rfl
    · rw [sent]
      rfl
  · rfl

theorem owesOnlySent_of_isSome (sent : pacer.lastSent.isSome) :
    pacer.OwesOnlySent := by
  intro nothing
  rw [nothing] at sent
  cases sent

theorem increaseDebt_zero (rate : DataRate) :
    increaseDebt rates 0 rate 0 = 0 := by
  unfold increaseDebt
  split
  · exact Nat.zero_min _
  · rfl

theorem OwesOnlySent.configured (owes : pacer.OwesOnlySent)
    (config : PacerConfig) : (pacer.configured rates config).OwesOnlySent := by
  intro nothing
  obtain ⟨media, padding⟩ := owes nothing
  unfold Pacer.configured updateBudgetWithSentData updateBudgetWithSentPadding
  dsimp only
  rw [media, padding]
  exact ⟨increaseDebt_zero _, increaseDebt_zero _⟩

variable {config : PacerConfig}

theorem setConfig_of_no_schedule
    (next : (pacer.configured rates config).calculateNextSendTime rates now =
      none) :
    pacer.setConfig rates config now = (pacer.configured rates config, none) := by
  unfold setConfig
  unfold configured at next ⊢
  dsimp only
  rw [next]

theorem setConfig_of_no_old_schedule {schedule : Instant}
    (next : (pacer.configured rates config).calculateNextSendTime rates now =
      some schedule) (noOld : pacer.calculateNextSendTime rates now = none) :
    pacer.setConfig rates config now =
      if schedule < now then
        ((pacer.configured rates config).updateBudgetWithTime rates now,
          some now)
      else (pacer.configured rates config, some schedule) := by
  unfold setConfig
  unfold configured at next ⊢
  dsimp only
  rw [next, noOld]

theorem setConfig_of_old_schedule {schedule old : Instant}
    (next : (pacer.configured rates config).calculateNextSendTime rates now =
      some schedule) (hasOld : pacer.calculateNextSendTime rates now = some old) :
    pacer.setConfig rates config now =
      if schedule ≤ now then
        ((pacer.configured rates config).updateBudgetWithTime rates
          (min old now), some now)
      else (pacer.configured rates config, some schedule) := by
  have earlier : (if now < old then now else old) = min old now := by
    rw [Nat.min_def]
    split
    · rename_i before
      rw [if_neg (Nat.not_le.mpr before)]
    · rename_i notBefore
      rw [if_pos (Nat.not_lt.mp notBefore)]
  rw [← earlier]
  unfold setConfig
  unfold configured at next ⊢
  dsimp only
  rw [next, hasOld]

theorem updateBudgetWithTime_of_le {lastSent : Instant}
    (sent : pacer.lastSent = some lastSent) (earlier : lastSent ≤ now) :
    pacer.updateBudgetWithTime rates now =
      { pacer.payOff rates (now - lastSent) with lastSent := some now } := by
  unfold updateBudgetWithTime
  rw [sent]
  exact if_pos earlier

/-- After the debts have been brought up to date, they are what is left. -/
theorem calculateNextSendTime_updated (rates : RateArithmetic) {pacer : Pacer}
    {now lastSent : Instant}
    (sent : pacer.lastSent = some lastSent) (earlier : lastSent ≤ now)
    (later : Instant) :
    (pacer.updateBudgetWithTime rates now).calculateNextSendTime rates later =
      ((pacer.payOff rates (now - lastSent)).drainTime rates).map
        (now + ·) := by
  rw [updateBudgetWithTime_of_le sent earlier]
  exact calculateNextSendTime_of_lastSent rates rfl later

theorem drainTime_isSome_payOff (duration : Duration) :
    ((pacer.payOff rates duration).drainTime rates).isSome =
      (pacer.drainTime rates).isSome := by
  unfold drainTime payOff queueIsEmpty
  dsimp only
  split
  · split <;> rfl
  · split <;> rfl

/-- Debts that take less than an interval are gone after it. -/
theorem drainTime_payOff_of_lt (exact : rates.Exact) {drain duration : Duration}
    (drains : pacer.drainTime rates = some drain) (shorter : drain < duration) :
    (pacer.payOff rates duration).drainTime rates = some 0 := by
  have paid {rate : DataRate} {debt : DataSize} (positive : 0 < rate)
      (less : rates.timeFor debt rate < duration) :
      rates.timeFor (debt - rates.sizeOver rate duration) rate = 0 := by
    rw [Nat.sub_eq_zero_of_le (exact.paid_of_timeFor_lt positive less)]
    exact exact.timeFor_zero positive
  unfold drainTime payOff queueIsEmpty at *
  dsimp only
  split at drains
  · rename_i isEmpty
    rw [if_pos isEmpty]
    split at drains
    · rename_i positive
      cases drains
      have media := Nat.lt_of_le_of_lt (Nat.le_max_left _ _) shorter
      have padding := Nat.lt_of_le_of_lt (Nat.le_max_right _ _) shorter
      rw [if_pos positive, paid positive.2 media, paid positive.1 padding]
      rfl
    · cases drains
  · rename_i notEmpty
    rw [if_neg notEmpty]
    split at drains
    · rename_i positive
      cases drains
      rw [if_pos positive, paid positive shorter]
    · cases drains

/-- The next send time is the last one plus what the debts take. -/
theorem drainTime_of_next {lastSent schedule : Instant}
    (sent : pacer.lastSent = some lastSent)
    (next : pacer.calculateNextSendTime rates now = some schedule) :
    ∃ drain, pacer.drainTime rates = some drain ∧
      schedule = lastSent + drain := by
  rw [calculateNextSendTime_of_lastSent rates sent,
    Option.map_eq_some_iff] at next
  obtain ⟨drain, drains, rfl⟩ := next
  exact ⟨drain, drains, rfl⟩

theorem lastSent_configured (pacer : Pacer) (config : PacerConfig) :
    (pacer.configured rates config).lastSent = pacer.lastSent := rfl

theorem queueIsEmpty_configured (pacer : Pacer) (config : PacerConfig) :
    (pacer.configured rates config).queueIsEmpty = pacer.queueIsEmpty := rfl

theorem queueIsEmpty_updateBudgetWithTime (pacer : Pacer) (now : Instant) :
    (pacer.updateBudgetWithTime rates now).queueIsEmpty =
      pacer.queueIsEmpty := by
  unfold updateBudgetWithTime
  split
  · split <;> rfl
  · rfl

theorem config_updateBudgetWithTime (pacer : Pacer) (now : Instant) :
    (pacer.updateBudgetWithTime rates now).config = pacer.config := by
  unfold updateBudgetWithTime
  split
  · split <;> rfl
  · rfl

/-- A pacer that starts now with nothing owed may send now. -/
theorem not_refused_of_nothing_sent (exact : rates.Exact)
    (owes : pacer.OwesOnlySent) (nothing : pacer.lastSent = none)
    {schedule : Instant}
    (next : pacer.calculateNextSendTime rates now = some schedule) :
    ¬ Refused rates (pacer.updateBudgetWithTime rates now) now := by
  obtain ⟨media, padding⟩ := owes nothing
  rw [calculateNextSendTime_of_nothing_sent rates nothing,
    Option.map_eq_some_iff] at next
  obtain ⟨drain, drains, -⟩ := next
  have noDrain : drain = 0 := by
    unfold drainTime at drains
    rw [media, padding] at drains
    split at drains
    · split at drains
      · rename_i positive
        cases drains
        rw [exact.timeFor_zero positive.1, exact.timeFor_zero positive.2]
        rfl
      · cases drains
    · split at drains
      · rename_i positive
        cases drains
        exact exact.timeFor_zero positive
      · cases drains
  subst noDrain
  have updated : pacer.updateBudgetWithTime rates now =
      { pacer with lastSent := some now } := by
    unfold updateBudgetWithTime
    rw [nothing]
  have afterwards : (pacer.updateBudgetWithTime rates now).calculateNextSendTime
      rates now = some now := by
    rw [updated]
    refine (calculateNextSendTime_of_lastSent rates rfl now).trans ?_
    exact congrArg (Option.map (now + ·)) drains
  exact not_refused_of_past rates afterwards (Nat.le_refl now)

/-- A late schedule without an old one: everything has been paid off. -/
theorem not_refused_of_late (exact : rates.Exact)
    (owes : pacer.OwesOnlySent) {schedule : Instant}
    (next : pacer.calculateNextSendTime rates now = some schedule)
    (late : schedule < now) :
    ¬ Refused rates (pacer.updateBudgetWithTime rates now) now := by
  cases sent : pacer.lastSent with
  | none => exact not_refused_of_nothing_sent exact owes sent next
  | some lastSent =>
      obtain ⟨drain, drains, rfl⟩ := drainTime_of_next sent next
      have earlier : lastSent ≤ now :=
        Nat.le_trans (Nat.le_add_right _ _) (Nat.le_of_lt late)
      have shorter : drain < now - lastSent :=
        Nat.lt_sub_iff_add_lt'.mpr late
      have afterwards : (pacer.updateBudgetWithTime rates
          now).calculateNextSendTime rates now = some now := by
        rw [calculateNextSendTime_updated rates sent earlier,
          drainTime_payOff_of_lt exact drains shorter]
        rfl
      exact not_refused_of_past rates afterwards (Nat.le_refl now)

/-- After `set_config` has brought the debts up to the earlier of the old
schedule and now, it is too early exactly if what is left takes longer. -/
theorem refused_updated_iff {lastSent old schedule : Instant}
    (sent : pacer.lastSent = some lastSent)
    (hasOld : pacer.calculateNextSendTime rates now = some old)
    (next : (pacer.configured rates config).calculateNextSendTime rates now =
      some schedule) (come : schedule ≤ now) :
    Refused rates ((pacer.configured rates config).updateBudgetWithTime rates
        (min old now)) now ↔
      SetsBack rates pacer config now := by
  obtain ⟨oldDrain, -, oldIs⟩ := drainTime_of_next sent hasOld
  obtain ⟨drain, drains, scheduleIs⟩ :=
    drainTime_of_next ((lastSent_configured pacer config).trans sent) next
  have earlier : lastSent ≤ min old now := by
    apply le_min
    · exact oldIs ▸ Nat.le_add_right _ _
    · exact Nat.le_trans (scheduleIs ▸ Nat.le_add_right _ _) come
  have configuredSent : (pacer.configured rates config).lastSent =
      some lastSent := sent
  have afterwards :=
    calculateNextSendTime_updated rates configuredSent earlier now
  obtain ⟨left, leaves⟩ : ∃ left, ((pacer.configured rates config).payOff rates
      (min old now - lastSent)).drainTime rates = some left := by
    apply Option.isSome_iff_exists.mp
    rw [drainTime_isSome_payOff, drains]
    rfl
  rw [leaves, Option.map_some] at afterwards
  have somethingIff :
      (((pacer.configured rates config).updateBudgetWithTime rates
            (min old now)).queueIsEmpty = false ∨
          ((pacer.configured rates config).updateBudgetWithTime rates
            (min old now)).config.paddingSsrc.isSome) ↔
        (pacer.queueIsEmpty = false ∨ config.paddingSsrc.isSome) := by
    rw [queueIsEmpty_updateBudgetWithTime, config_updateBudgetWithTime,
      queueIsEmpty_configured]
    rfl
  unfold Refused
  rw [afterwards, somethingIff]
  constructor
  · rintro ⟨something, early⟩
    have tooEarly : now < min old now + left :=
      Nat.not_le.mp (of_decide_eq_false early)
    exact ⟨something, lastSent, old, drain, left, sent, hasOld, drains,
      scheduleIs ▸ come, leaves, tooEarly⟩
  · rintro ⟨something, otherSent, otherOld, otherDrain, otherLeft, isSent,
      isOld, -, -, isLeft, tooEarly⟩
    cases sent.symm.trans isSent
    cases hasOld.symm.trans isOld
    cases leaves.symm.trans isLeft
    exact ⟨something, decide_eq_false (Nat.not_le.mpr tooEarly)⟩

theorem refused_setConfig_iff (exact : rates.Exact) (owes : pacer.OwesOnlySent)
    (isSet : pacer.setConfig rates config now = (after, some time)) :
    Refused rates after (max time now) ↔ SetsBack rates pacer config now := by
  cases next : (pacer.configured rates config).calculateNextSendTime rates now
    with
  | none =>
      rw [setConfig_of_no_schedule next] at isSet
      cases isSet
  | some schedule =>
      cases old : pacer.calculateNextSendTime rates now with
      | none =>
          have notBack : ¬ SetsBack rates pacer config now := by
            rintro ⟨-, lastSent, other, -, -, -, isOld, -⟩
            rw [old] at isOld
            cases isOld
          rw [setConfig_of_no_old_schedule next old] at isSet
          split at isSet
          · rename_i late
            cases isSet
            rw [Nat.max_self]
            exact iff_of_false
              (not_refused_of_late exact (owes.configured config) next late)
              notBack
          · cases isSet
            exact iff_of_false (not_refused_of_scheduled rates next) notBack
      | some old' =>
          rw [setConfig_of_old_schedule next old] at isSet
          split at isSet
          · rename_i come
            cases isSet
            rw [Nat.max_self]
            cases sent : pacer.lastSent with
            | some lastSent => exact refused_updated_iff sent old next come
            | none =>
                have oldIsNow : old' = now := by
                  rw [calculateNextSendTime_of_nothing_sent rates sent,
                    Option.map_eq_some_iff] at old
                  obtain ⟨-, -, same⟩ := old
                  exact same.symm
                rw [oldIsNow, Nat.min_self]
                apply iff_of_false
                · exact not_refused_of_nothing_sent exact
                    (owes.configured config)
                    ((lastSent_configured pacer config).trans sent) next
                · rintro ⟨-, lastSent, other, -, -, isSent, -⟩
                  rw [sent] at isSent
                  cases isSent
          · rename_i notCome
            cases isSet
            apply iff_of_false (not_refused_of_scheduled rates next)
            rintro ⟨-, lastSent, other, drain, -, sent, -, drains, come, -⟩
            obtain ⟨otherDrain, otherDrains, scheduleIs⟩ :=
              drainTime_of_next ((lastSent_configured pacer config).trans sent)
                next
            rw [drains] at otherDrains
            cases otherDrains
            exact notCome (scheduleIs ▸ come)

/-! ## Runs -/

theorem owesOnlySent_updated (pacer : Pacer) (now : Instant) :
    (pacer.updateBudgetWithTime rates now).OwesOnlySent :=
  owesOnlySent_of_isSome (lastSent_updateBudgetWithTime pacer now)

theorem owesOnlySent_sentData (pacer : Pacer) (now : Instant)
    (size : DataSize) :
    ((pacer.updateBudgetWithTime rates now).updateBudgetWithSentData rates
      size).OwesOnlySent :=
  owesOnlySent_of_isSome (lastSent_updateBudgetWithTime pacer now)

theorem owesOnlySent_sentPadding (pacer : Pacer) (now : Instant)
    (size : DataSize) :
    ((pacer.updateBudgetWithTime rates now).updateBudgetWithSentPadding rates
      size).OwesOnlySent :=
  owesOnlySent_of_isSome (lastSent_updateBudgetWithTime pacer now)

theorem SameBudget.owesOnlySent (same : SameBudget pacer after)
    (owes : pacer.OwesOnlySent) : after.OwesOnlySent := by
  intro nothing
  rw [same.lastSent] at nothing
  rw [same.mediaDebt, same.paddingDebt]
  exact owes nothing

theorem owesOnlySent_dequeuePadding {wasEmpty : Bool}
    {schedule : Option Instant} (owes : pacer.OwesOnlySent)
    (dequeued : pacer.dequeuePadding rates generatePadding generator wasEmpty
      now = .ok (after, next, result, schedule)) : after.OwesOnlySent := by
  rcases dequeuePadding_cases rates generatePadding dequeued with
    ⟨rfl, -⟩ | ⟨ssrc, padding, -, -, -, -, rfl, -⟩
  · exact owes
  · exact owesOnlySent_sentPadding pacer now padding.size

theorem owesOnlySent_step {before final : Pacer × Generator}
    {event : PacerEvent} (owes : before.1.OwesOnlySent)
    (step : Step rates generatePadding before event final) :
    final.1.OwesOnlySent := by
  cases step with
  | enqueue enqueued =>
      rename_i pacer after generator media now result schedule
      rcases enqueue_cases rates enqueued with
        ⟨-, -, -, sent, -⟩ | ⟨-, queued, -⟩
      · rw [sent]
        exact owesOnlySent_sentData pacer now media.size
      · rw [queued]
        exact (sameBudget_push pacer media).owesOnlySent owes
  | forceEnqueue pacer generator media =>
      exact (sameBudget_push pacer media).owesOnlySent owes
  | dequeue dequeued =>
      rename_i pacer after generator next now result schedule
      cases dequeues_of_ok rates generatePadding dequeued with
      | media _ => exact owesOnlySent_sentData _ now _
      | noMedia _ _ padding =>
          refine owesOnlySent_dequeuePadding ?_ padding
          split
          · exact owes
          · exact (sameBudget_popRtxOrVideo pacer now).owesOnlySent owes
      | early _ _ _ => exact owes
  | setConfig isSet =>
      rename_i pacer after generator config now schedule
      have isAfter : (pacer.setConfig rates config now).1 = after :=
        congrArg Prod.fst isSet
      rcases pacer.setConfig_cases rates config now with same | ⟨time, updated⟩
      · rw [← isAfter, same]
        exact owes.configured config
      · rw [← isAfter, updated]
        exact owesOnlySent_updated _ time

theorem owesOnlySent_run {history : List PacerEvent} {state : Pacer × Generator}
    (run : Run (Step rates generatePadding) (new config, generator) history
      state) : state.1.OwesOnlySent := by
  induction run with
  | nil => exact fun _ => ⟨rfl, rfl⟩
  | snoc _ step ih => exact owesOnlySent_step ih step

/-- Which operation returned a time decides whether `dequeue` may be refused
then. -/
theorem refused_step_iff (exact : rates.Exact)
    {before final : Pacer × Generator} {event : PacerEvent}
    (owes : before.1.OwesOnlySent)
    (step : Step rates generatePadding before event final)
    (happens : event.operation.time = some now)
    (scheduled : event.schedule = some time) :
    Refused rates final.1 (max time now) ↔
      ∃ config, event.operation = .setConfig config now ∧
        SetsBack rates before.1 config now := by
  cases step with
  | enqueue enqueued =>
      cases happens
      cases scheduled
      apply iff_of_false
      · exact not_refused_of_scheduled rates (schedule_of_enqueue enqueued)
      · rintro ⟨config, isSetConfig, -⟩
        cases isSetConfig
  | forceEnqueue pacer generator media => cases happens
  | dequeue dequeued =>
      cases happens
      cases scheduled
      apply iff_of_false
      · exact not_refused_of_scheduled rates (schedule_of_dequeue dequeued)
      · rintro ⟨config, isSetConfig, -⟩
        cases isSetConfig
  | setConfig isSet =>
      rename_i pacer after generator config other schedule
      cases happens
      cases scheduled
      rw [refused_setConfig_iff exact owes isSet]
      constructor
      · intro setsBack
        exact ⟨config, rfl, setsBack⟩
      · rintro ⟨otherConfig, same, setsBack⟩
        cases same
        exact setsBack

/-- One wake-up after the other: `dequeue` is called at each time that the last
one returned, or at once if that time is over. -/
inductive WakeUps (rates : RateArithmetic)
    (generatePadding :
      Generator → Ssrc → Except Panic (Generator × Option Packet))
    (start : Pacer × Generator) (begun : Instant) (first : Option Instant) :
    Pacer × Generator → Instant → Option Instant → Prop where
  | start : WakeUps rates generatePadding start begun first start begun first
  | dequeue {pacer after : Pacer} {generator next : Generator}
      {now time : Instant} {result : Option Packet}
      {schedule : Option Instant} :
      WakeUps rates generatePadding start begun first (pacer, generator) now
        (some time) →
      pacer.dequeue rates generatePadding generator (max time now) =
        .ok (after, next, result, schedule) →
      WakeUps rates generatePadding start begun first (after, next)
        (max time now) schedule

theorem SameQueues.queueIsEmpty (same : SameQueues pacer after) :
    after.queueIsEmpty = pacer.queueIsEmpty := by
  unfold Pacer.queueIsEmpty
  rw [same.rtx, same.video]

/-- The queues are empty when nothing but expired packets was found. -/
theorem queueIsEmpty_of_exhausted
    (noMedia : (pacer.popRtxOrVideo now).2 = none) :
    (pacer.popRtxOrVideo now).1.queueIsEmpty = true := by
  cases found : (pacer.popRtx now).2 with
  | some media =>
      rw [popRtxOrVideo_of_rtx found] at noMedia
      cases noMedia
  | none =>
      rw [popRtxOrVideo_of_no_rtx found] at noMedia ⊢
      have rtx := (popQueue_popped now pacer.rtxQueue
        pacer.queuedSize).exhausted found
      have video := (popQueue_popped now (pacer.popRtx now).1.videoQueue
        (pacer.popRtx now).1.queuedSize).exhausted noMedia
      unfold Pacer.queueIsEmpty
      rw [Bool.and_eq_true, List.isEmpty_iff, List.isEmpty_iff]
      exact ⟨video, rtx⟩

theorem queueIsEmpty_of_no_media {schedule : Option Instant}
    (noMedia : pacer.dequeuedMedia rates now = none)
    (notEarly : pacer.queueIsEmpty = true ∨ pacer.mediaIsDue rates now = true)
    (padding : (if pacer.queueIsEmpty then pacer else (pacer.popRtxOrVideo
      now).1).dequeuePadding rates generatePadding generator
        pacer.queueIsEmpty now = .ok (after, next, result, schedule)) :
    after.queueIsEmpty = true := by
  rw [(sameQueues_dequeuePadding padding).queueIsEmpty]
  split
  · assumption
  · rename_i notEmpty
    have due := notEarly.resolve_left notEmpty
    unfold dequeuedMedia at noMedia
    rw [due, if_pos rfl] at noMedia
    exact queueIsEmpty_of_exhausted noMedia

theorem isSome_calculateNextSendTime (waits : pacer.queueIsEmpty = false)
    (positive : 0 < pacer.config.mediaSendRate) (now : Instant) :
    (pacer.calculateNextSendTime rates now).isSome := by
  unfold calculateNextSendTime calculateNextMediaSendTime
  rw [waits, if_neg Bool.false_ne_true, if_pos positive]
  split <;> rfl

/-- A `dequeue` that is not refused returns a time if packets go on waiting. -/
theorem isSome_schedule_of_dequeue {schedule : Option Instant}
    (notRefused : ¬ Refused rates pacer now)
    (dequeued : pacer.dequeue rates generatePadding generator now =
      .ok (after, next, result, schedule))
    (waits : after.queueIsEmpty = false)
    (positive : 0 < after.config.mediaSendRate) : schedule.isSome := by
  cases dequeues_of_ok rates generatePadding dequeued with
  | media _ => exact isSome_calculateNextSendTime waits positive now
  | noMedia noMedia notEarly padding =>
      rw [queueIsEmpty_of_no_media noMedia notEarly padding] at waits
      cases waits
  | early _ isWaiting early =>
      rw [mediaIsDue_of_not_refused rates isWaiting notRefused] at early
      cases early

theorem WakeUps.not_refused {start finish : Pacer × Generator}
    {begun finished first : Instant} {last : Option Instant}
    (wakeUps : WakeUps rates generatePadding start begun (some first) finish
      finished last)
    (notRefused : ¬ Refused rates start.1 (max first begun)) :
    (∀ time, last = some time → ¬ Refused rates finish.1 (max time finished)) ∧
      (finish.1.queueIsEmpty = false → 0 < finish.1.config.mediaSendRate →
        last.isSome) := by
  induction wakeUps with
  | start =>
      refine ⟨?_, fun _ _ => rfl⟩
      rintro time ⟨⟩
      exact notRefused
  | dequeue earlier dequeued ih =>
      have here := ih.1 _ rfl
      refine ⟨?_, isSome_schedule_of_dequeue here dequeued⟩
      rintro time rfl
      exact not_refused_of_scheduled rates (schedule_of_dequeue dequeued)

/-- In every reachable state, the `dequeue` at the time that an operation
returned is refused exactly if the operation was a `set_config` that sets the
schedule back; otherwise the wake-ups go on while packets wait. -/
theorem wake_up_refused_iff (exact : rates.Exact) {config : PacerConfig}
    {history : List PacerEvent} {state final : Pacer × Generator}
    {event : PacerEvent}
    (run : Run (Step rates generatePadding) (new config, generator) history
      state)
    (step : Step rates generatePadding state event final)
    (happens : event.operation.time = some now)
    (scheduled : event.schedule = some time) :
    (Refused rates final.1 (max time now) ↔
      ∃ config, event.operation = .setConfig config now ∧
        SetsBack rates state.1 config now) ∧
    ((¬ ∃ config, event.operation = .setConfig config now ∧
        SetsBack rates state.1 config now) →
      ∀ finish finished last,
        WakeUps rates generatePadding final now (some time) finish finished
          last →
        (∀ later, last = some later →
          ¬ Refused rates finish.1 (max later finished)) ∧
        (finish.1.queueIsEmpty = false → 0 < finish.1.config.mediaSendRate →
          last.isSome)) := by
  have refusedIff := refused_step_iff exact (owesOnlySent_run run) step happens
    scheduled
  refine ⟨refusedIff, ?_⟩
  intro notSetBack finish finished last wakeUps
  exact wakeUps.not_refused fun refused => notSetBack (refusedIff.mp refused)

end Steps

/-! ## A leftover of one bit -/

section RaisedRate

open RateArithmetic

def slowPacer : Pacer := new ⟨1000000, 0, none⟩

def noPadding (_ : Unit) (_ : Ssrc) : Except Panic (Unit × Option Packet) :=
  .ok ((), none)

def enqueued (pacer : Pacer) (media : Packet) (now : Instant) : Pacer :=
  (pacer.enqueue exactArithmetic media now).1

def enqueueEvent (pacer : Pacer) (media : Packet) (now : Instant) :
    PacerEvent where
  operation := .enqueue media now
  result := (pacer.enqueue exactArithmetic media now).2.1
  schedule := (pacer.enqueue exactArithmetic media now).2.2
  media := (pacer.enqueue exactArithmetic media now).2.1
  expired := []

theorem step_enqueue (pacer : Pacer) (media : Packet) (now : Instant) :
    Step exactArithmetic noPadding (pacer, ()) (enqueueEvent pacer media now)
      (enqueued pacer media now, ()) :=
  .enqueue rfl

def firstSent : Pacer := enqueued slowPacer (mediaPacket 1000) 0

def secondWaits : Pacer := enqueued firstSent (mediaPacket 1000) 0

def rateRaised : Pacer :=
  (secondWaits.setConfig exactArithmetic ⟨7000000, 0, none⟩ 1142857).1

theorem run_firstSent :
    Run (Step exactArithmetic noPadding) (slowPacer, ())
      ([] ++ [enqueueEvent slowPacer (mediaPacket 1000) 0])
      (firstSent, ()) :=
  .snoc .nil (step_enqueue slowPacer (mediaPacket 1000) 0)

theorem schedule_secondWaits :
    (enqueueEvent firstSent (mediaPacket 1000) 0).schedule = some 8000000 := by
  decide +kernel

theorem schedule_rateRaised :
    (secondWaits.setConfig exactArithmetic ⟨7000000, 0, none⟩ 1142857).2 =
      some 1142857 := by
  decide +kernel

/-- The second of two packets waits; the wake-up for it is not refused. -/
theorem wake_up_of_second_packet_not_refused :
    ¬ Refused exactArithmetic secondWaits (max 8000000 0) := by
  have step : Step exactArithmetic noPadding (firstSent, ())
      (enqueueEvent firstSent (mediaPacket 1000) 0) (secondWaits, ()) :=
    step_enqueue firstSent (mediaPacket 1000) 0
  have happens :
      (enqueueEvent firstSent (mediaPacket 1000) 0).operation.time = some 0 :=
    rfl
  have refusedIff := (wake_up_refused_iff exact_exactArithmetic run_firstSent
    step happens schedule_secondWaits).1
  dsimp only at refusedIff
  intro refused
  obtain ⟨config, isSetConfig, -⟩ := refusedIff.mp refused
  have isEnqueue : (enqueueEvent firstSent (mediaPacket 1000) 0).operation =
      .enqueue (mediaPacket 1000) 0 := rfl
  rw [isEnqueue] at isSetConfig
  cases isSetConfig

/-- The rate is raised at the very nanosecond of the new schedule: one bit of
the debt is left, and the wake-up that `set_config` returns is refused. -/
theorem wake_up_refused_after_rate_is_raised :
    (∃ history, Run (Step exactArithmetic noPadding) (slowPacer, ()) history
      (secondWaits, ())) ∧
    Step exactArithmetic noPadding (secondWaits, ())
      ⟨.setConfig ⟨7000000, 0, none⟩ 1142857, none, some 1142857, none, []⟩
      (rateRaised, ()) ∧
    rateRaised.queueIsEmpty = false ∧
    rateRaised.dequeue exactArithmetic noPadding () (max 1142857 1142857) =
      .ok (rateRaised, (), none, none) := by
  have isSet : secondWaits.setConfig exactArithmetic ⟨7000000, 0, none⟩
      1142857 = (rateRaised, some 1142857) := by
    rw [← schedule_rateRaised]
    unfold rateRaised
    exact Prod.mk.eta.symm
  have waits : rateRaised.queueIsEmpty = false := by
    decide +kernel
  have early : rateRaised.mediaIsDue exactArithmetic
      (max 1142857 1142857) = false := by
    decide +kernel
  refine ⟨⟨_, .snoc run_firstSent (step_enqueue firstSent _ 0)⟩,
    .setConfig isSet, waits, ?_⟩
  exact dequeue_of_early exactArithmetic noPadding waits early

end RaisedRate

end Pacer

end CallingService.Backend
