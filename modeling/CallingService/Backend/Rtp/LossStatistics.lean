import CallingService.Backend.Rtp.ReportRoundTrip

/-!
# Lost and expected packets

A report says which part of the packets since the last one has been lost.  The
loss grows by what is missing below a new maximum, which itself counts as
expected, so that fewer packets are lost than expected; packets that come late
or twice only make the loss smaller.
-/

namespace CallingService.Backend.Rtp

open Foundation

/-- What happens to the statistics of one SSRC. -/
inductive StatisticsEvent where
  | rememberReceived (fullSeqnum : FullSequenceNumber)
      (payloadType : PayloadType) (rtpTimestamp : TruncatedTimestamp)
      (receiveTime : Instant)
  | rememberSent (outgoing : Packet) (now : Instant)
  | writeReceiverReport (history : SenderReportHistory) (ssrc : Ssrc)
      (now : Instant) (block : Bytes)
  | writeSenderReport (history : SenderReportHistory) (ssrc : Ssrc)
      (now : Instant)

/-- A step ends the run when the source panics. -/
def StatisticsStep (profile : BuildProfile) (before : RtcpReportSender)
    (event : StatisticsEvent) (after : RtcpReportSender) : Prop :=
  match event with
  | .rememberReceived fullSeqnum payloadType rtpTimestamp receiveTime =>
      after = before.rememberReceived fullSeqnum payloadType rtpTimestamp
        receiveTime
  | .rememberSent outgoing now => after = before.rememberSent outgoing now
  | .writeReceiverReport history ssrc now block =>
      before.writeReceiverReportBlock profile history ssrc now =
        .ok (after, block)
  | .writeSenderReport history ssrc now =>
      after = (before.writeSenderReportBlock history ssrc now).1

namespace RtcpReportSender

def expectedSinceLast (report : RtcpReportSender) : Nat :=
  report.maxSeqnum.getD 0 - report.maxSeqnumInLast.getD 0

def lostSinceLast (report : RtcpReportSender) : Nat :=
  report.cumulativeLoss - report.cumulativeLossInLast

/-- What the loss may be, given the numbers since the last report. -/
def LossBounded (report : RtcpReportSender) : Prop :=
  match report.maxSeqnum, report.maxSeqnumInLast with
  | none, none => report.cumulativeLoss = 0
  | some maxSeqnum, some maxSeqnumInLast =>
      maxSeqnumInLast ≤ maxSeqnum ∧
        report.cumulativeLoss ≤ report.cumulativeLossInLast +
          (maxSeqnum - maxSeqnumInLast - 1)
  | _, _ => False

/-- The counters that the bound is about. -/
structure SameLoss (before after : RtcpReportSender) : Prop where
  maxSeqnum : after.maxSeqnum = before.maxSeqnum
  maxSeqnumInLast : after.maxSeqnumInLast = before.maxSeqnumInLast
  cumulativeLoss : after.cumulativeLoss = before.cumulativeLoss
  cumulativeLossInLast :
    after.cumulativeLossInLast = before.cumulativeLossInLast

variable {profile : BuildProfile} {before after report : RtcpReportSender}

theorem LossBounded.of_same (bounded : before.LossBounded)
    (same : SameLoss before after) : after.LossBounded := by
  unfold LossBounded at bounded ⊢
  rw [same.maxSeqnum, same.maxSeqnumInLast, same.cumulativeLoss,
    same.cumulativeLossInLast]
  exact bounded

theorem lossBounded_new (now : Instant) : (new now).LossBounded := rfl

theorem sameLoss_updateJitter (report : RtcpReportSender)
    (payloadType : PayloadType) (rtpTimestamp : TruncatedTimestamp)
    (receiveTime : Instant) :
    SameLoss report
      (report.updateJitter payloadType rtpTimestamp receiveTime) := by
  unfold updateJitter
  dsimp only
  split
  · exact ⟨rfl, rfl, rfl, rfl⟩
  · exact ⟨rfl, rfl, rfl, rfl⟩

theorem sameLoss_rememberSent (report : RtcpReportSender) (outgoing : Packet)
    (now : Instant) : SameLoss report (report.rememberSent outgoing now) := by
  have noted : SameLoss report (report.noteSentSeqnum outgoing.seqnum
      outgoing.timestamp now) := by
    unfold noteSentSeqnum
    dsimp only
    split
    · exact ⟨rfl, rfl, rfl, rfl⟩
    · split
      · split
        · exact ⟨rfl, rfl, rfl, rfl⟩
        · exact ⟨rfl, rfl, rfl, rfl⟩
      · split
        · exact ⟨rfl, rfl, rfl, rfl⟩
        · exact ⟨rfl, rfl, rfl, rfl⟩
  unfold rememberSent
  split
  · exact ⟨rfl, rfl, rfl, rfl⟩
  · exact ⟨noted.maxSeqnum, noted.maxSeqnumInLast, noted.cumulativeLoss,
      noted.cumulativeLossInLast⟩

theorem lossBounded_iff_of_none (isMax : report.maxSeqnum = none) :
    report.LossBounded ↔
      report.maxSeqnumInLast = none ∧ report.cumulativeLoss = 0 := by
  unfold LossBounded
  rw [isMax]
  cases report.maxSeqnumInLast with
  | none => simp
  | some maxSeqnumInLast => simp

theorem lossBounded_iff_of_some {maxSeqnum : Nat}
    (isMax : report.maxSeqnum = some maxSeqnum) :
    report.LossBounded ↔ ∃ maxSeqnumInLast,
      report.maxSeqnumInLast = some maxSeqnumInLast ∧
        maxSeqnumInLast ≤ maxSeqnum ∧
        report.cumulativeLoss ≤ report.cumulativeLossInLast +
          (maxSeqnum - maxSeqnumInLast - 1) := by
  unfold LossBounded
  rw [isMax]
  cases report.maxSeqnumInLast with
  | none => simp
  | some maxSeqnumInLast => simp

/-- A packet raises the maximum together with the loss, or lowers the loss,
or everything restarts. -/
theorem LossBounded.rememberReceived (bounded : report.LossBounded)
    (fullSeqnum : FullSequenceNumber) (payloadType : PayloadType)
    (rtpTimestamp : TruncatedTimestamp) (receiveTime : Instant) :
    (report.rememberReceived fullSeqnum payloadType rtpTimestamp
      receiveTime).LossBounded := by
  unfold RtcpReportSender.rememberReceived
  dsimp only
  cases isMax : report.maxSeqnum with
  | none =>
      obtain ⟨-, noLoss⟩ := (lossBounded_iff_of_none isMax).mp bounded
      refine (lossBounded_iff_of_some rfl).mpr ⟨_, rfl, Nat.sub_le _ _, ?_⟩
      dsimp only
      rw [noLoss]
      exact Nat.zero_le _
  | some maxSeqnum =>
      obtain ⟨maxSeqnumInLast, isInLast, ordered, atMost⟩ :=
        (lossBounded_iff_of_some isMax).mp bounded
      dsimp only
      split
      · exact (lossBounded_iff_of_some rfl).mpr
          ⟨_, rfl, Nat.sub_le _ _, Nat.zero_le _⟩
      · split
        · rename_i larger
          have saturated : saturateU32 (report.cumulativeLoss +
              (fullSeqnum % 2 ^ 32 - maxSeqnum - 1)) ≤
              report.cumulativeLoss +
                (fullSeqnum % 2 ^ 32 - maxSeqnum - 1) :=
            Nat.min_le_left _ _
          have counted : LossBounded { report with
              cumulativeLoss := saturateU32 (report.cumulativeLoss +
                (fullSeqnum % 2 ^ 32 - maxSeqnum - 1))
              maxSeqnum := some (fullSeqnum % 2 ^ 32) } := by
            refine (lossBounded_iff_of_some rfl).mpr
              ⟨maxSeqnumInLast, isInLast, ?_, ?_⟩
            · omega
            · dsimp only
              omega
          have jittered := counted.of_same
            (sameLoss_updateJitter _ payloadType rtpTimestamp receiveTime)
          exact jittered.of_same ⟨rfl, rfl, rfl, rfl⟩
        · refine (lossBounded_iff_of_some rfl).mpr
            ⟨maxSeqnumInLast, isInLast, ordered, ?_⟩
          dsimp only
          omega

/-- A report takes the maximum and the loss over. -/
theorem LossBounded.writeReceiverReportBlock (bounded : report.LossBounded)
    {history : SenderReportHistory} {ssrc : Ssrc} {now : Instant}
    {block : Bytes}
    (wrote : report.writeReceiverReportBlock profile history ssrc now =
      .ok (after, block)) :
    after.LossBounded := by
  unfold RtcpReportSender.writeReceiverReportBlock at wrote
  split at wrote
  · rename_i maxSeqnum maxSeqnumInLast isMax isInLast
    obtain ⟨fraction, _, returned⟩ := bind_eq_ok_iff.mp wrote
    cases returned
    unfold LossBounded
    dsimp only
    rw [isMax]
    exact ⟨Nat.le_refl _, Nat.le_add_right _ _⟩
  · cases wrote
    exact bounded

theorem LossBounded.step {event : StatisticsEvent}
    (bounded : before.LossBounded)
    (step : StatisticsStep profile before event after) :
    after.LossBounded := by
  cases event with
  | rememberReceived fullSeqnum payloadType rtpTimestamp receiveTime =>
      cases step
      exact bounded.rememberReceived fullSeqnum payloadType rtpTimestamp
        receiveTime
  | rememberSent outgoing now =>
      cases step
      exact bounded.of_same (sameLoss_rememberSent before outgoing now)
  | writeReceiverReport history ssrc now block =>
      exact bounded.writeReceiverReportBlock step
  | writeSenderReport history ssrc now =>
      cases step
      exact bounded.of_same ⟨rfl, rfl, rfl, rfl⟩

theorem LossBounded.lost_lt (bounded : report.LossBounded)
    (expected : 0 < report.expectedSinceLast) :
    report.lostSinceLast < report.expectedSinceLast := by
  unfold lostSinceLast
  unfold expectedSinceLast at expected ⊢
  cases isMax : report.maxSeqnum with
  | none =>
      rw [isMax] at expected
      exact absurd expected (by simp)
  | some maxSeqnum =>
      obtain ⟨maxSeqnumInLast, isInLast, ordered, atMost⟩ :=
        (lossBounded_iff_of_some isMax).mp bounded
      rw [isMax, isInLast, Option.getD_some, Option.getD_some] at expected
      rw [isInLast, Option.getD_some, Option.getD_some]
      omega

theorem lossBounded_of_run {start : Instant} {events : List StatisticsEvent}
    (run : Run (StatisticsStep profile) (new start) events report) :
    report.LossBounded :=
  run.invariant (lossBounded_new start) fun bounded step => bounded.step step

/-! ## The fraction that is written -/

/-- A part of less than one fits into a byte. -/
theorem toNat_fraction {lost expected : Nat} (fewer : lost < expected)
    (small : lost < 2 ^ 24) :
    (256 * lost % 2 ^ 32 / expected).toUInt8.toNat =
      256 * lost / expected := by
  have product : 256 * lost % 2 ^ 32 = 256 * lost :=
    Nat.mod_eq_of_lt (by omega)
  have byte : 256 * lost / expected < 256 :=
    Nat.div_lt_of_lt_mul (by rw [Nat.mul_comm expected]; omega)
  rw [product]
  exact Nat.mod_eq_of_lt byte

theorem drop_receiverReportBlock {history : SenderReportHistory} {ssrc : Ssrc}
    {now : Instant} {block : Bytes} {maxSeqnum maxSeqnumInLast : Nat}
    (isMax : report.maxSeqnum = some maxSeqnum)
    (isInLast : report.maxSeqnumInLast = some maxSeqnumInLast)
    (wrote : report.writeReceiverReportBlock profile history ssrc now =
      .ok (after, block)) :
    ReportBlock.fromBytes (block.drop 4) = .ok (.ok
      (report.pendingBlock history ssrc now maxSeqnum maxSeqnumInLast)) := by
  have isBlock := block_writeReceiverReportBlock isMax isInLast wrote
  dsimp only at isBlock
  have isRead := @ReportBlock.fromBytes_write
    (report.pendingBlock history ssrc now maxSeqnum maxSeqnumInLast) []
    (fits_pendingBlock maxSeqnum maxSeqnumInLast)
  rw [List.append_nil] at isRead
  rw [isBlock, List.drop_left' (length_toBigEndian 4 _)]
  exact isRead

/-- Fewer packets are lost than expected, so that the receiver of a report
reads the exact part of them and a loss of 23 bits. -/
theorem fewer_lost_than_expected {start : Instant}
    {events : List StatisticsEvent}
    (run : Run (StatisticsStep profile) (new start) events report) :
    (0 < report.expectedSinceLast →
      report.lostSinceLast < report.expectedSinceLast) ∧
    (report.lostSinceLast < 2 ^ 24 → ∀ history ssrc now, ∃ after block,
      report.writeReceiverReportBlock profile history ssrc now =
        .ok (after, block)) ∧
    ∀ history ssrc now after block, report.maxSeqnum.isSome →
      report.writeReceiverReportBlock profile history ssrc now =
        .ok (after, block) →
      ∃ received, ReportBlock.fromBytes (block.drop 4) = .ok (.ok received) ∧
        (0 < report.expectedSinceLast → report.lostSinceLast < 2 ^ 24 →
          received.fractionLoss.toNat =
            256 * report.lostSinceLast / report.expectedSinceLast) ∧
        received.cumulativeLossCount < 2 ^ 23 := by
  have bounded := lossBounded_of_run run
  refine ⟨bounded.lost_lt, ?_, ?_⟩
  · intro few history ssrc now
    unfold lostSinceLast at few
    unfold writeReceiverReportBlock
    split
    · rename_i maxSeqnum maxSeqnumInLast _ _
      obtain ⟨fraction, isFraction⟩ := @exists_fractionLost profile _
        (maxSeqnum - maxSeqnumInLast) fun _ =>
          (by omega : 256 * (report.cumulativeLoss -
            report.cumulativeLossInLast) < 2 ^ 32)
      dsimp only
      rw [isFraction]
      exact ⟨_, _, rfl⟩
    · exact ⟨_, _, rfl⟩
  · intro history ssrc now after block received wrote
    obtain ⟨maxSeqnum, isMax⟩ := Option.isSome_iff_exists.mp received
    obtain ⟨maxSeqnumInLast, isInLast, -, -⟩ :=
      (lossBounded_iff_of_some isMax).mp bounded
    refine ⟨_, drop_receiverReportBlock isMax isInLast wrote, ?_, ?_⟩
    · intro expected few
      have fewer := bounded.lost_lt expected
      have isExpected : report.expectedSinceLast =
          maxSeqnum - maxSeqnumInLast := by
        unfold expectedSinceLast
        rw [isMax, isInLast]
        rfl
      rw [isExpected] at expected fewer ⊢
      unfold pendingBlock
      dsimp only
      rw [if_neg (Nat.pos_iff_ne_zero.mp expected)]
      exact toNat_fraction fewer few
    · unfold pendingBlock
      dsimp only
      omega

/-- Four of six packets are missing. -/
theorem fewer_lost_than_expected_four_of_six :
    ∃ report : RtcpReportSender, report.lostSinceLast = 4 ∧
      report.expectedSinceLast = 6 ∧
      ∃ after block received,
        report.writeReceiverReportBlock .debug (.new 0) 1 0 =
          .ok (after, block) ∧
        ReportBlock.fromBytes (block.drop 4) = .ok (.ok received) ∧
        received.fractionLoss.toNat = 170 := by
  have run : Run (StatisticsStep .debug) (new 0)
      [.rememberReceived 10 opusPayloadType 0 0,
        .rememberReceived 15 opusPayloadType 0 0]
      (((new 0).rememberReceived 10 opusPayloadType 0 0).rememberReceived 15
        opusPayloadType 0 0) :=
    (Run.nil.snoc rfl).snoc rfl
  obtain ⟨-, writes, isRead⟩ := fewer_lost_than_expected run
  obtain ⟨after, block, wrote⟩ := writes (by decide) (.new 0) 1 0
  obtain ⟨received, readBack, exact, -⟩ :=
    isRead (.new 0) 1 0 after block rfl wrote
  exact ⟨_, rfl, rfl, after, block, received, wrote, readBack,
    exact (by decide) (by decide)⟩

end RtcpReportSender

end CallingService.Backend.Rtp
