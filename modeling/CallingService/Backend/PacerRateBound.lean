import CallingService.Backend.PacerWakeUp

/-!
# The rate at which the pacer sends

As long as the configuration stays, the media of any window fits into the
media rate, up to one packet and the rounding of one send time.  The debt and
what the rate has paid off since the start of the window cover the media sent
in it.
-/

namespace CallingService.Backend

open Foundation Rtp RateArithmetic

namespace RateArithmetic

private theorem lt_succ_quotient_mul (dividend : Nat) {divisor : Nat}
    (positive : 0 < divisor) :
    dividend < dividend / divisor * divisor + divisor :=
  Nat.lt_div_mul_add positive

private theorem unpaid_lt {owed drained paid rest unit : Nat}
    (positive : 0 < unit) (covered : 2 * (owed * unit) ≤ 2 * drained + rest)
    (above : drained < paid * unit + unit) :
    2 * ((owed - paid) * unit) < rest + 2 * unit := by
  rw [Nat.sub_mul]
  omega

private theorem unpaid_le {unpaid rest unit : Nat} (positive : 0 < unit)
    (less : 2 * (unpaid * unit) < rest + 2 * unit) :
    unpaid ≤ rest / unit + 1 := by
  have above := lt_succ_quotient_mul rest positive
  have within : unpaid * unit < (rest / unit + 2) * unit := by
    rw [Nat.add_mul]
    omega
  exact Nat.lt_succ_iff.mp (Nat.lt_of_mul_lt_mul_right within)

private theorem sent_le {sent earned rest unit : Nat} (positive : 0 < unit)
    (less : 2 * (sent * unit) < 2 * earned + rest + 2 * unit) :
    sent ≤ earned / unit + rest / unit + 2 := by
  have earnedAbove := lt_succ_quotient_mul earned positive
  have restAbove := lt_succ_quotient_mul rest positive
  have within : sent * unit < (earned / unit + rest / unit + 3) * unit := by
    rw [Nat.add_mul, Nat.add_mul]
    omega
  exact Nat.lt_succ_iff.mp (Nat.lt_of_mul_lt_mul_right within)

/-- What a debt leaves that has been paid off for as long as it takes. -/
theorem Exact.unpaid_lt {rates : RateArithmetic} (exact : rates.Exact)
    {rate debt duration : Nat} (positive : 0 < rate)
    (paid : rates.timeFor debt rate ≤ duration) :
    2 * ((debt - rates.sizeOver rate duration) * nanosPerSecond) <
      rate + 2 * nanosPerSecond := by
  have covered := exact.timeForLower debt rate positive
  have longer := Nat.mul_le_mul_right rate paid
  rw [exact.sizeOver]
  have drained : 2 * (debt * nanosPerSecond) ≤ 2 * (rate * duration) + rate := by
    rw [Nat.mul_comm rate duration]
    exact Nat.le_trans covered
      (Nat.add_le_add_right (Nat.mul_le_mul_left 2 longer) rate)
  exact RateArithmetic.unpaid_lt (by decide) drained
    (lt_succ_quotient_mul _ (by decide))

theorem Exact.unpaid_le {rates : RateArithmetic} (exact : rates.Exact)
    {rate unpaid : Nat}
    (less : 2 * (unpaid * nanosPerSecond) < rate + 2 * nanosPerSecond) :
    unpaid ≤ rates.sizeOver rate 1 + 1 := by
  rw [exact.sizeOver, Nat.mul_one]
  exact RateArithmetic.unpaid_le (by decide) less

/-- What the rate earns in an interval, and one send time too early. -/
theorem Exact.sent_le {rates : RateArithmetic} (exact : rates.Exact)
    {rate duration sent : Nat}
    (less : 2 * (sent * nanosPerSecond) <
      2 * (rate * duration) + rate + 2 * nanosPerSecond) :
    sent ≤ rates.sizeOver rate duration + rates.sizeOver rate 1 + 2 := by
  rw [exact.sizeOver, exact.sizeOver, Nat.mul_one]
  exact RateArithmetic.sent_le (by decide) less

/-- Paying off in whole bits takes no more than the rate earns. -/
theorem Exact.owed_le {rates : RateArithmetic} (exact : rates.Exact)
    (rate debt duration : Nat) :
    debt * nanosPerSecond ≤
      (debt - rates.sizeOver rate duration) * nanosPerSecond +
        rate * duration := by
  rw [exact.sizeOver, Nat.sub_mul]
  have within := Nat.div_mul_le_self (rate * duration) nanosPerSecond
  omega

end RateArithmetic

namespace Pacer

/-- The size of the media that is handed out at certain times. -/
def mediaSize (during : Instant → Bool) (history : List PacerEvent) : Nat :=
  (history.map fun event =>
    if event.operation.time.any during then totalSize event.media.toList
    else 0).sum

def since (start : Instant) (time : Instant) : Bool := start ≤ time

/-- The closed window of the given length. -/
def withinWindow (start : Instant) (length : Duration) (time : Instant) :
    Bool :=
  start ≤ time && time ≤ start + length

theorem mediaSize_snoc (during : Instant → Bool) (history : List PacerEvent)
    (event : PacerEvent) :
    mediaSize during (history ++ [event]) = mediaSize during history +
      if event.operation.time.any during then totalSize event.media.toList
      else 0 := by
  unfold mediaSize
  rw [List.map_append, List.sum_append, List.map_singleton, List.sum_singleton]

theorem mediaSize_snoc_of_no_media {during : Instant → Bool}
    {history : List PacerEvent} {event : PacerEvent}
    (noMedia : event.media = none) :
    mediaSize during (history ++ [event]) = mediaSize during history := by
  rw [mediaSize_snoc, noMedia]
  simp

theorem mediaSize_mono {first second : Instant → Bool}
    (implies : ∀ time, first time = true → second time = true)
    (history : List PacerEvent) :
    mediaSize first history ≤ mediaSize second history := by
  apply List.sum_le_sum
  intro event _
  split
  · rename_i during
    have also : event.operation.time.any second = true := by
      cases happens : event.operation.time with
      | none =>
          rw [happens] at during
          cases during
      | some time =>
          rw [happens] at during
          exact implies time during
    rw [if_pos also]
  · exact Nat.zero_le _

section Steps

variable {rates : RateArithmetic} {Generator : Type}
variable {generatePadding :
  Generator → Ssrc → Except Panic (Generator × Option Packet)}
variable {pacer after : Pacer} {generator next : Generator} {now : Instant}
variable {result : Option Packet} {schedule : Option Instant}

/-- The budget is not touched. -/
structure Rests (before after : Pacer) (event : PacerEvent) : Prop where
  noMedia : event.media = none
  lastSent : after.lastSent = before.lastSent
  mediaDebt : after.mediaDebt = before.mediaDebt

/-- Padding is sent: the budget is brought up to date. -/
structure Pads (rates : RateArithmetic) (before after : Pacer)
    (event : PacerEvent) (now : Instant) : Prop where
  noMedia : event.media = none
  happens : event.operation.time = some now
  lastSent :
    after.lastSent = (before.updateBudgetWithTime rates now).lastSent
  mediaDebt :
    after.mediaDebt = (before.updateBudgetWithTime rates now).mediaDebt

/-- Media is handed out when it is due, and charged. -/
structure Sends (rates : RateArithmetic) (before after : Pacer)
    (event : PacerEvent) (media : Packet) (now : Instant) : Prop where
  handsOut : event.media = some media
  happens : event.operation.time = some now
  due : pastSendTime (before.calculateNextMediaSendTime rates now) now = true
  lastSent :
    after.lastSent = (before.updateBudgetWithTime rates now).lastSent
  mediaDebt : after.mediaDebt = increaseDebt rates
    (before.updateBudgetWithTime rates now).mediaDebt
    before.config.mediaSendRate media.size

theorem SameBudget.updated (rates : RateArithmetic) {pacer after : Pacer}
    (same : SameBudget pacer after) (now : Instant) :
    (after.updateBudgetWithTime rates now).lastSent =
        (pacer.updateBudgetWithTime rates now).lastSent ∧
      (after.updateBudgetWithTime rates now).mediaDebt =
        (pacer.updateBudgetWithTime rates now).mediaDebt := by
  unfold updateBudgetWithTime
  rw [same.lastSent]
  split
  · split
    · dsimp only
      rw [same.config, same.mediaDebt]
      exact ⟨rfl, rfl⟩
    · exact ⟨same.lastSent, same.mediaDebt⟩
  · exact ⟨rfl, same.mediaDebt⟩

theorem due_of_dequeuedMedia {media : Packet}
    (taken : pacer.dequeuedMedia rates now = some media) :
    pastSendTime (pacer.calculateNextMediaSendTime rates now) now = true := by
  have due := mediaIsDue_of_dequeuedMedia taken
  unfold mediaIsDue at due
  rw [Bool.and_eq_true] at due
  exact due.2

theorem dequeuePadding_budget {wasEmpty : Bool}
    (dequeued : pacer.dequeuePadding rates generatePadding generator wasEmpty
      now = .ok (after, next, result, schedule)) :
    after = pacer ∨
      after.lastSent = (pacer.updateBudgetWithTime rates now).lastSent ∧
        after.mediaDebt = (pacer.updateBudgetWithTime rates now).mediaDebt ∧
        after.config = pacer.config := by
  rcases dequeuePadding_cases rates generatePadding dequeued with
    ⟨same, -⟩ | ⟨ssrc, padding, -, -, -, -, sent, -⟩
  · exact .inl same
  · rw [sent]
    exact .inr ⟨rfl, rfl, config_updateBudgetWithTime pacer now⟩

/-- What an operation does to the budget of the media, but for
`set_config`. -/
theorem budget_step {before final : Pacer × Generator} {event : PacerEvent}
    (step : Step rates generatePadding before event final)
    (fixed : ∀ config now, event.operation ≠ .setConfig config now) :
    final.1.config = before.1.config ∧
      (Rests before.1 final.1 event ∨
        (∃ now, Pads rates before.1 final.1 event now) ∨
        ∃ media now, Sends rates before.1 final.1 event media now) := by
  cases step with
  | enqueue enqueued =>
      rename_i pacer after generator media now result schedule
      rcases enqueue_cases rates enqueued with
        ⟨-, due, isResult, sent, -⟩ | ⟨isResult, queued, -⟩
      · have config : (pacer.updateBudgetWithTime rates now).config =
            pacer.config := config_updateBudgetWithTime pacer now
        rw [sent]
        refine ⟨config, .inr (.inr ⟨media, now, isResult, rfl, due, rfl, ?_⟩)⟩
        unfold updateBudgetWithSentData updateBudgetWithSentPadding
        dsimp only
        rw [config]
      · have same := sameBudget_push pacer media
        rw [queued]
        exact ⟨same.config, .inl ⟨isResult, same.lastSent, same.mediaDebt⟩⟩
  | forceEnqueue pacer generator media =>
      have same := sameBudget_push pacer media
      exact ⟨same.config, .inl ⟨rfl, same.lastSent, same.mediaDebt⟩⟩
  | dequeue dequeued =>
      rename_i pacer after generator next now result schedule
      have popped := sameBudget_popRtxOrVideo pacer now
      have updated := popped.updated rates now
      cases dequeues_of_ok rates generatePadding dequeued with
      | media taken =>
          have config : ((pacer.popRtxOrVideo now).1.updateBudgetWithTime rates
              now).config = pacer.config :=
            (config_updateBudgetWithTime _ now).trans popped.config
          refine ⟨config, .inr (.inr ⟨_, now, taken, rfl,
            due_of_dequeuedMedia taken, updated.1, ?_⟩)⟩
          unfold updateBudgetWithSentData updateBudgetWithSentPadding
          dsimp only
          rw [config, updated.2]
      | noMedia noMedia _ padding =>
          have budget := dequeuePadding_budget padding
          split at budget
          · rcases budget with rfl | ⟨lastSent, mediaDebt, config⟩
            · exact ⟨rfl, .inl ⟨noMedia, rfl, rfl⟩⟩
            · exact ⟨config,
                .inr (.inl ⟨now, noMedia, rfl, lastSent, mediaDebt⟩)⟩
          · rcases budget with rfl | ⟨lastSent, mediaDebt, config⟩
            · exact ⟨popped.config,
                .inl ⟨noMedia, popped.lastSent, popped.mediaDebt⟩⟩
            · exact ⟨config.trans popped.config,
                .inr (.inl ⟨now, noMedia, rfl, lastSent.trans updated.1,
                  mediaDebt.trans updated.2⟩)⟩
      | early noMedia _ _ => exact ⟨rfl, .inl ⟨noMedia, rfl, rfl⟩⟩
  | setConfig isSet => exact absurd rfl (fixed _ _)

/-! ## The debt covers what was sent -/

/-- What the history of a pacer with one configuration says about its
budget. -/
structure Paced (rate : DataRate) (history : List PacerEvent)
    (pacer : Pacer) : Prop where
  hasRate : pacer.config.mediaSendRate = rate
  owes : pacer.OwesOnlySent
  sentAt : ∀ lastSent, pacer.lastSent = some lastSent →
    lastSent ∈ history.filterMap (·.operation.time)
  quiet : ∀ start,
    (∀ lastSent, pacer.lastSent = some lastSent → lastSent < start) →
      mediaSize (since start) history = 0
  covered : ∀ start lastSent, pacer.lastSent = some lastSent →
    start ≤ lastSent →
      mediaSize (since start) history * nanosPerSecond + rate * start ≤
        pacer.mediaDebt * nanosPerSecond + rate * lastSent

theorem paced_new (config : PacerConfig) :
    Paced config.mediaSendRate [] (new config) where
  hasRate := rfl
  owes := fun _ => ⟨rfl, rfl⟩
  sentAt := by
    intro lastSent sent
    cases sent
  quiet := fun _ _ => rfl
  covered := by
    intro start lastSent sent
    cases sent

variable {rate : DataRate} {history : List PacerEvent} {event : PacerEvent}

/-- The budget when it has been brought up to date: the debt still covers what
was sent since any moment. -/
theorem Paced.updated (exact : rates.Exact) (paced : Paced rate history pacer)
    (later : ∀ time ∈ history.filterMap (·.operation.time), time ≤ now) :
    (pacer.updateBudgetWithTime rates now).lastSent = some now ∧
      ∀ start, start ≤ now →
        mediaSize (since start) history * nanosPerSecond + rate * start ≤
          (pacer.updateBudgetWithTime rates now).mediaDebt * nanosPerSecond +
            rate * now := by
  cases sent : pacer.lastSent with
  | none =>
      have updated : pacer.updateBudgetWithTime rates now =
          { pacer with lastSent := some now } := by
        unfold updateBudgetWithTime
        rw [sent]
      rw [updated]
      refine ⟨rfl, ?_⟩
      intro start early
      have nothing : mediaSize (since start) history = 0 := by
        apply paced.quiet
        intro lastSent isSent
        rw [sent] at isSent
        cases isSent
      rw [nothing, Nat.zero_mul, Nat.zero_add]
      exact Nat.le_trans (Nat.mul_le_mul_left rate early) (Nat.le_add_left _ _)
  | some lastSent =>
      have earlier := later lastSent (paced.sentAt lastSent sent)
      rw [updateBudgetWithTime_of_le sent earlier]
      refine ⟨rfl, ?_⟩
      intro start early
      unfold payOff
      dsimp only
      rw [paced.hasRate]
      have paidOff := exact.owed_le rate pacer.mediaDebt (now - lastSent)
      have elapsed : rate * lastSent + rate * (now - lastSent) = rate * now := by
        rw [← Nat.mul_add, Nat.add_sub_cancel' earlier]
      by_cases before : start ≤ lastSent
      · have covered := paced.covered start lastSent sent before
        calc
          mediaSize (since start) history * nanosPerSecond + rate * start ≤
              pacer.mediaDebt * nanosPerSecond + rate * lastSent := covered
          _ ≤ (pacer.mediaDebt - rates.sizeOver rate (now - lastSent)) *
                nanosPerSecond + rate * (now - lastSent) + rate * lastSent :=
              Nat.add_le_add_right paidOff _
          _ = (pacer.mediaDebt - rates.sizeOver rate (now - lastSent)) *
                nanosPerSecond + rate * now := by
              rw [Nat.add_assoc, Nat.add_comm (rate * _), elapsed]
      · have nothing : mediaSize (since start) history = 0 := by
          apply paced.quiet
          intro other isSent
          rw [sent] at isSent
          cases isSent
          exact Nat.not_le.mp before
        rw [nothing, Nat.zero_mul, Nat.zero_add]
        exact Nat.le_trans (Nat.mul_le_mul_left rate early)
          (Nat.le_add_left _ _)

/-- When media is due, all but one bit of its debt has been paid off, up to
the rounding of the send time. -/
theorem unpaid_of_due (exact : rates.Exact) (paced : Paced rate history pacer)
    (positive : 0 < rate)
    (due : pastSendTime (pacer.calculateNextMediaSendTime rates now) now =
      true) :
    2 * ((pacer.updateBudgetWithTime rates now).mediaDebt * nanosPerSecond) <
      rate + 2 * nanosPerSecond := by
  unfold calculateNextMediaSendTime at due
  rw [paced.hasRate, if_pos positive] at due
  cases sent : pacer.lastSent with
  | none =>
      have updated : pacer.updateBudgetWithTime rates now =
          { pacer with lastSent := some now } := by
        unfold updateBudgetWithTime
        rw [sent]
      rw [updated]
      dsimp only
      rw [(paced.owes sent).1, Nat.zero_mul, Nat.mul_zero]
      exact Nat.lt_of_lt_of_le positive (Nat.le_add_right _ _)
  | some lastSent =>
      rw [sent] at due
      have come : lastSent + rates.timeFor pacer.mediaDebt rate ≤ now :=
        of_decide_eq_true due
      have earlier : lastSent ≤ now :=
        Nat.le_trans (Nat.le_add_right _ _) come
      rw [updateBudgetWithTime_of_le sent earlier]
      unfold payOff
      dsimp only
      rw [paced.hasRate]
      exact exact.unpaid_lt positive (Nat.le_sub_of_add_le' come)

/-- Nothing was sent after the last send. -/
theorem Paced.quiet_after (paced : Paced rate history pacer)
    (later : ∀ time ∈ history.filterMap (·.operation.time), time ≤ now)
    {start : Instant} (after : now < start) :
    mediaSize (since start) history = 0 := by
  apply paced.quiet
  intro lastSent sent
  exact Nat.lt_of_le_of_lt (later lastSent (paced.sentAt lastSent sent)) after

theorem mem_times_snoc (happens : event.operation.time = some now)
    (history : List PacerEvent) :
    now ∈ (history ++ [event]).filterMap (·.operation.time) := by
  rw [List.filterMap_append, List.mem_append]
  right
  simp [happens]

theorem Paced.rests {before after : Pacer} (paced : Paced rate history before)
    (config : after.config = before.config) (owes : after.OwesOnlySent)
    (rests : Rests before after event) : Paced rate (history ++ [event]) after := by
  refine ⟨config ▸ paced.hasRate, owes, ?_, ?_, ?_⟩
  · intro lastSent sent
    rw [rests.lastSent] at sent
    rw [List.filterMap_append]
    exact List.mem_append_left _ (paced.sentAt lastSent sent)
  · intro start quiet
    rw [mediaSize_snoc_of_no_media rests.noMedia]
    rw [rests.lastSent] at quiet
    exact paced.quiet start quiet
  · intro start lastSent sent early
    rw [rests.lastSent] at sent
    rw [mediaSize_snoc_of_no_media rests.noMedia, rests.mediaDebt]
    exact paced.covered start lastSent sent early

theorem Paced.pads (exact : rates.Exact) {before after : Pacer}
    (paced : Paced rate history before)
    (later : ∀ time ∈ history.filterMap (·.operation.time), time ≤ now)
    (config : after.config = before.config) (owes : after.OwesOnlySent)
    (pads : Pads rates before after event now) :
    Paced rate (history ++ [event]) after := by
  obtain ⟨isNow, covered⟩ := paced.updated exact later
  have sentNow := pads.lastSent.trans isNow
  refine ⟨config ▸ paced.hasRate, owes, ?_, ?_, ?_⟩
  · intro lastSent sent
    rw [sentNow] at sent
    cases sent
    exact mem_times_snoc pads.happens history
  · intro start quiet
    rw [mediaSize_snoc_of_no_media pads.noMedia]
    exact paced.quiet_after later (quiet now sentNow)
  · intro start lastSent sent early
    rw [sentNow] at sent
    cases sent
    rw [mediaSize_snoc_of_no_media pads.noMedia, pads.mediaDebt]
    exact covered start early

/-- The size of a packet that is handed out now counts since any moment up to
now. -/
theorem mediaSize_since_snoc {media : Packet}
    (handsOut : event.media = some media)
    (happens : event.operation.time = some now) (start : Instant)
    (history : List PacerEvent) :
    mediaSize (since start) (history ++ [event]) =
      mediaSize (since start) history +
        if start ≤ now then media.size else 0 := by
  rw [mediaSize_snoc, happens, handsOut]
  simp [since]

section Send

variable {before after : Pacer} {media : Packet} {limit : Nat}

/-- The cap on the debt does not bind. -/
theorem mediaDebt_of_send (exact : rates.Exact)
    (paced : Paced rate history before) (positive : 0 < rate)
    (room : limit + 2 + rates.sizeOver rate 1 ≤
      rates.sizeOver rate maxDebtInTime)
    (small : media.size ≤ limit)
    (sends : Sends rates before after event media now) :
    after.mediaDebt =
      (before.updateBudgetWithTime rates now).mediaDebt + media.size := by
  have unpaid := exact.unpaid_le (unpaid_of_due exact paced positive sends.due)
  have below : (before.updateBudgetWithTime rates now).mediaDebt + media.size ≤
      rates.sizeOver rate maxDebtInTime :=
    Nat.le_trans (Nat.le_trans (Nat.add_le_add unpaid small) (by omega)) room
  rw [sends.mediaDebt, paced.hasRate]
  unfold increaseDebt
  rw [if_pos (Nat.ne_of_gt positive)]
  exact Nat.min_eq_left below

theorem Paced.sends (exact : rates.Exact) (paced : Paced rate history before)
    (later : ∀ time ∈ history.filterMap (·.operation.time), time ≤ now)
    (config : after.config = before.config) (owes : after.OwesOnlySent)
    (sends : Sends rates before after event media now)
    (charged : after.mediaDebt =
      (before.updateBudgetWithTime rates now).mediaDebt + media.size) :
    Paced rate (history ++ [event]) after := by
  obtain ⟨isNow, covered⟩ := paced.updated exact later
  have sentNow := sends.lastSent.trans isNow
  refine ⟨config ▸ paced.hasRate, owes, ?_, ?_, ?_⟩
  · intro lastSent sent
    rw [sentNow] at sent
    cases sent
    exact mem_times_snoc sends.happens history
  · intro start quiet
    have after := quiet now sentNow
    rw [mediaSize_since_snoc sends.handsOut sends.happens,
      if_neg (Nat.not_le.mpr after), paced.quiet_after later after]
  · intro start lastSent sent early
    rw [sentNow] at sent
    cases sent
    rw [mediaSize_since_snoc sends.handsOut sends.happens, if_pos early,
      charged, Nat.add_mul, Nat.add_mul]
    have before := covered start early
    omega

private theorem sent_lt {sent owed earned first last rest unit : Nat}
    (covered : sent + first ≤ owed + last) (elapsed : first + earned = last)
    (unpaid : 2 * owed < rest + unit) :
    2 * sent < 2 * earned + rest + unit := by
  omega

/-- What has been handed out since any moment, with the packet that is handed
out now. -/
theorem mediaSize_since_le (exact : rates.Exact)
    (paced : Paced rate history before) (positive : 0 < rate)
    (later : ∀ time ∈ history.filterMap (·.operation.time), time ≤ now)
    (small : media.size ≤ limit)
    (sends : Sends rates before after event media now) {start : Instant}
    (early : start ≤ now) :
    mediaSize (since start) (history ++ [event]) ≤
      rates.sizeOver rate (now - start) + limit + 2 +
        rates.sizeOver rate 1 := by
  have covered := (paced.updated exact later).2 start early
  have unpaid := unpaid_of_due exact paced positive sends.due
  have elapsed : rate * start + rate * (now - start) = rate * now := by
    rw [← Nat.mul_add, Nat.add_sub_cancel' early]
  have less : 2 * (mediaSize (since start) history * nanosPerSecond) <
      2 * (rate * (now - start)) + rate + 2 * nanosPerSecond :=
    sent_lt covered elapsed unpaid
  have sent := exact.sent_le less
  rw [mediaSize_since_snoc sends.handsOut sends.happens, if_pos early]
  omega

end Send

/-! ## Every window -/

theorem times_before {history : List PacerEvent}
    (ordered : ((history ++ [event]).filterMap (·.operation.time)).Pairwise
      (· ≤ ·)) (happens : event.operation.time = some now) :
    ∀ time ∈ history.filterMap (·.operation.time), time ≤ now := by
  intro time member
  rw [List.filterMap_append] at ordered
  exact (List.pairwise_append.mp ordered).2.2 time member now
    (by simp [happens])

theorem mediaSize_withinWindow_snoc_le {limit : Nat} (exact : rates.Exact)
    (start : Instant) (length : Duration)
    (earlier : mediaSize (withinWindow start length) history ≤
      rates.sizeOver rate length + limit + 2 + rates.sizeOver rate 1)
    (bounded : ∀ media now, event.media = some media →
      event.operation.time = some now → start ≤ now →
        mediaSize (since start) (history ++ [event]) ≤
          rates.sizeOver rate (now - start) + limit + 2 +
            rates.sizeOver rate 1) :
    mediaSize (withinWindow start length) (history ++ [event]) ≤
      rates.sizeOver rate length + limit + 2 + rates.sizeOver rate 1 := by
  cases handsOut : event.media with
  | none =>
      rw [mediaSize_snoc_of_no_media handsOut]
      exact earlier
  | some media =>
      by_cases inWindow :
          event.operation.time.any (withinWindow start length) = true
      · obtain ⟨now, happens⟩ : ∃ now, event.operation.time = some now := by
          cases happens : event.operation.time with
          | none =>
              rw [happens] at inWindow
              cases inWindow
          | some now => exact ⟨now, rfl⟩
        rw [happens] at inWindow
        obtain ⟨notBefore, notAfter⟩ :=
          (Bool.and_eq_true _ _).mp (inWindow : withinWindow start length now = _)
        have early : start ≤ now := of_decide_eq_true notBefore
        have late : now ≤ start + length := of_decide_eq_true notAfter
        have short : now - start ≤ length := Nat.sub_le_of_le_add (by
          rw [Nat.add_comm]
          exact late)
        have less : rates.sizeOver rate (now - start) ≤
            rates.sizeOver rate length := by
          rw [exact.sizeOver, exact.sizeOver]
          exact Nat.div_le_div_right (Nat.mul_le_mul_left rate short)
        have whole : mediaSize (withinWindow start length)
            (history ++ [event]) ≤ mediaSize (since start)
              (history ++ [event]) := by
          apply mediaSize_mono
          intro time holds
          exact ((Bool.and_eq_true _ _).mp holds).1
        have total := Nat.le_trans whole (bounded media now handsOut happens early)
        exact Nat.le_trans total
          (Nat.add_le_add_right (Nat.add_le_add_right (Nat.add_le_add_right
            less _) _) _)
      · rw [mediaSize_snoc, if_neg inWindow]
        exact earlier

theorem paced_run (exact : rates.Exact) {config : PacerConfig}
    (positive : 0 < config.mediaSendRate) {limit : Nat}
    (room : limit + 2 + rates.sizeOver config.mediaSendRate 1 ≤
      rates.sizeOver config.mediaSendRate maxDebtInTime)
    {state : Pacer × Generator}
    (run : Run (Step rates generatePadding) (new config, generator) history
      state)
    (fixed : ∀ event ∈ history, ∀ config now,
      event.operation ≠ .setConfig config now)
    (small : ∀ packet ∈ given history, packet.size ≤ limit)
    (ordered : (history.filterMap (·.operation.time)).Pairwise (· ≤ ·)) :
    Paced config.mediaSendRate history state.1 ∧
      ∀ start length, mediaSize (withinWindow start length) history ≤
        rates.sizeOver config.mediaSendRate length + limit + 2 +
          rates.sizeOver config.mediaSendRate 1 := by
  induction run with
  | nil => exact ⟨paced_new config, fun _ _ => Nat.zero_le _⟩
  | snoc earlier step ih =>
      rename_i past event before final
      have pastOrdered : (past.filterMap (·.operation.time)).Pairwise
          (· ≤ ·) := by
        rw [List.filterMap_append] at ordered
        exact (List.pairwise_append.mp ordered).1
      obtain ⟨paced, windows⟩ := ih
        (fun event member => fixed event (List.mem_append_left _ member))
        (fun packet member => small packet (by
          unfold given at *
          rw [List.flatMap_append]
          exact List.mem_append_left _ member)) pastOrdered
      have accounts := (accounts_run earlier).step step
      have handed : ∀ media, event.media = some media → media.size ≤ limit := by
        intro media handsOut
        apply small
        have counted := accounts.count media
        have isHanded : media ∈ handedOut (past ++ [event]) := by
          unfold handedOut
          rw [List.flatMap_append, List.mem_append]
          right
          simp [handsOut]
        have positive := List.count_pos_iff.mpr isHanded
        exact List.count_pos_iff.mp (by omega)
      have owes := owesOnlySent_step paced.owes step
      obtain ⟨config', rests | ⟨now, pads⟩ | ⟨media, now, sends⟩⟩ :=
        budget_step step (fixed event (by simp))
      · refine ⟨paced.rests config' owes rests, ?_⟩
        intro start length
        rw [mediaSize_snoc_of_no_media rests.noMedia]
        exact windows start length
      · refine ⟨paced.pads exact (times_before ordered pads.happens) config'
          owes pads, ?_⟩
        intro start length
        rw [mediaSize_snoc_of_no_media pads.noMedia]
        exact windows start length
      · have later := times_before ordered sends.happens
        have fits := handed media sends.handsOut
        have charged := mediaDebt_of_send exact paced positive room fits sends
        refine ⟨paced.sends exact later config' owes sends charged, ?_⟩
        intro start length
        apply mediaSize_withinWindow_snoc_le exact start length
          (windows start length)
        intro other time handsOut happens early
        cases sends.handsOut.symm.trans handsOut
        cases sends.happens.symm.trans happens
        exact mediaSize_since_le exact paced positive later fits sends early

/-- The media handed out in any closed window fits into the media rate, up to
one packet, two bits and what the rate earns in a nanosecond. -/
theorem media_in_window_le (exact : rates.Exact) {config : PacerConfig}
    (positive : 0 < config.mediaSendRate) {limit : Nat}
    (room : limit + 2 + rates.sizeOver config.mediaSendRate 1 ≤
      rates.sizeOver config.mediaSendRate maxDebtInTime)
    {state : Pacer × Generator}
    (run : Run (Step rates generatePadding) (new config, generator) history
      state)
    (fixed : ∀ event ∈ history, ∀ config now,
      event.operation ≠ .setConfig config now)
    (small : ∀ packet ∈ given history, packet.size ≤ limit)
    (ordered : (history.filterMap (·.operation.time)).Pairwise (· ≤ ·))
    (start : Instant) (length : Duration) :
    mediaSize (withinWindow start length) history ≤
      rates.sizeOver config.mediaSendRate length + limit + 2 +
        rates.sizeOver config.mediaSendRate 1 :=
  (paced_run exact positive room run fixed small ordered).2 start length

end Steps

/-- The second of two packets waits for the time of its schedule. -/
theorem media_in_window_le_of_two_packets :
    ∃ history state,
      Run (Step exactArithmetic noPadding) (slowPacer, ()) history state ∧
      mediaSize (withinWindow 0 8000000) history = 16000 ∧
      mediaSize (withinWindow 0 8000000) history ≤
        exactArithmetic.sizeOver 1000000 8000000 + 8000 + 2 +
          exactArithmetic.sizeOver 1000000 1 := by
  have positive : 0 < (⟨1000000, 0, none⟩ : PacerConfig).mediaSendRate := by
    decide
  have room : 8000 + 2 + exactArithmetic.sizeOver
      (⟨1000000, 0, none⟩ : PacerConfig).mediaSendRate 1 ≤
        exactArithmetic.sizeOver
          (⟨1000000, 0, none⟩ : PacerConfig).mediaSendRate maxDebtInTime := by
    decide
  have taken : secondWaits.dequeuedMedia exactArithmetic 8000000 =
      some (mediaPacket 1000) := by
    decide +kernel
  have run := (run_firstSent.snoc (step_enqueue firstSent (mediaPacket 1000)
    0)).snoc (.dequeue (dequeue_of_media _ _ taken))
  refine ⟨_, _, run, by decide +kernel, ?_⟩
  apply media_in_window_le exact_exactArithmetic positive room run
  · intro event member config now
    simp only [List.nil_append, List.cons_append, List.mem_cons,
      List.not_mem_nil, or_false] at member
    rcases member with rfl | rfl | rfl <;> exact nofun
  · decide +kernel
  · decide +kernel

end Pacer

end CallingService.Backend
