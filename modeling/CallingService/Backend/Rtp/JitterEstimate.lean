import CallingService.Backend.Rtp.RtcpReport
import CallingService.Foundation.Run

/-!
# The jitter of shifted timestamps

RTP timestamps start anywhere and wrap around, so that only their differences
mean anything.  The estimate subtracts them with saturation, and is the same
for shifted timestamps as long as no difference wraps in one of the two
sequences only.
-/

namespace CallingService.Backend.Rtp

open Foundation

structure ReceivedPacket where
  fullSeqnum : FullSequenceNumber
  payloadType : PayloadType
  rtpTimestamp : TruncatedTimestamp
  receiveTime : Instant

def ReceivedPacket.shift (constant : TruncatedTimestamp)
    (packet : ReceivedPacket) : ReceivedPacket :=
  { packet with rtpTimestamp := packet.rtpTimestamp + constant }

namespace RtcpReportSender

def receive (report : RtcpReportSender) (packet : ReceivedPacket) :
    RtcpReportSender :=
  report.rememberReceived packet.fullSeqnum packet.payloadType
    packet.rtpTimestamp packet.receiveTime

/-- The packet is compared with the one that set the maximum before it. -/
def Advances (report : RtcpReportSender) (packet : ReceivedPacket) : Prop :=
  ∃ maxSeqnum, report.maxSeqnum = some maxSeqnum ∧
    maybeReceiveStreamRestart (packet.fullSeqnum % 2 ^ 32) maxSeqnum = false ∧
    maxSeqnum < packet.fullSeqnum % 2 ^ 32

/-- From one timestamp to the other, the two sequences go the same way. -/
def WrapsAlike (constant : TruncatedTimestamp) (report : RtcpReportSender)
    (packet : ReceivedPacket) : Prop :=
  report.Advances packet →
    (report.lastRtpTimestamp ≤ packet.rtpTimestamp ↔
      report.lastRtpTimestamp + constant ≤ packet.rtpTimestamp + constant)

/-- The saturating difference is kept if and only if the order is. -/
theorem sub_shift_eq_iff {last next constant : TruncatedTimestamp} :
    (next + constant).toNat - (last + constant).toNat =
        next.toNat - last.toNat ↔
      (last ≤ next ↔ last + constant ≤ next + constant) := by
  have lastBound := last.toNat_lt
  have nextBound := next.toNat_lt
  have constantBound := constant.toNat_lt
  rw [UInt32.le_iff_toNat_le, UInt32.le_iff_toNat_le, UInt32.toNat_add,
    UInt32.toNat_add]
  omega

theorem updateJitter_shift {report : RtcpReportSender}
    {payloadType : PayloadType} {next constant : TruncatedTimestamp}
    {receiveTime : Instant}
    (alike : report.lastRtpTimestamp ≤ next ↔
      report.lastRtpTimestamp + constant ≤ next + constant) :
    updateJitter { report with
        lastRtpTimestamp := report.lastRtpTimestamp + constant }
        payloadType (next + constant) receiveTime =
      { report.updateJitter payloadType next receiveTime with
        lastRtpTimestamp := report.lastRtpTimestamp + constant } := by
  have difference := sub_shift_eq_iff.mpr alike
  unfold updateJitter
  dsimp only
  rw [difference]
  split
  · rfl
  · rfl

theorem updateJitter_maxSeqnum {report : RtcpReportSender}
    {payloadType : PayloadType} {rtpTimestamp : TruncatedTimestamp}
    {receiveTime : Instant} :
    (report.updateJitter payloadType rtpTimestamp receiveTime).maxSeqnum =
      report.maxSeqnum := by
  unfold updateJitter
  dsimp only
  split
  · rfl
  · rfl

/-- The statistics of the shifted timestamps.  The first packet has not been
compared with anything. -/
def shifted (constant : TruncatedTimestamp) (report : RtcpReportSender) :
    RtcpReportSender :=
  if report.maxSeqnum = none then report
  else { report with
    lastRtpTimestamp := report.lastRtpTimestamp + constant }

theorem receive_shift {report : RtcpReportSender} {packet : ReceivedPacket}
    {constant : TruncatedTimestamp}
    (alike : report.WrapsAlike constant packet) :
    (report.shifted constant).receive (packet.shift constant) =
      (report.receive packet).shifted constant := by
  unfold shifted
  cases isMax : report.maxSeqnum with
  | none =>
      rw [if_pos rfl]
      unfold receive rememberReceived ReceivedPacket.shift
      simp only [isMax]
      rw [if_neg (Option.some_ne_none _)]
  | some maxSeqnum =>
      rw [if_neg (Option.some_ne_none _)]
      unfold receive rememberReceived ReceivedPacket.shift
      simp only [isMax]
      split
      · rw [if_neg (Option.some_ne_none _)]
      · rename_i goesOn
        split
        · rename_i larger
          rw [Bool.not_eq_true] at goesOn
          have advances : report.Advances packet :=
            ⟨maxSeqnum, isMax, goesOn, larger⟩
          have jittered := @updateJitter_shift { report with
              cumulativeLoss := saturateU32 (report.cumulativeLoss +
                (packet.fullSeqnum % 2 ^ 32 - maxSeqnum - 1))
              maxSeqnum := some (packet.fullSeqnum % 2 ^ 32) }
            packet.payloadType packet.rtpTimestamp constant packet.receiveTime
            (alike advances)
          dsimp only at jittered
          have isSet : ∀ counted : RtcpReportSender, counted.maxSeqnum ≠ none →
              (counted.updateJitter packet.payloadType packet.rtpTimestamp
                packet.receiveTime).maxSeqnum ≠ none := by
            intro counted countedSet
            rw [updateJitter_maxSeqnum]
            exact countedSet
          rw [if_neg (isSet _ (Option.some_ne_none _)), jittered]
        · rw [if_neg (Option.some_ne_none _)]

def receiveAll (start : Instant) (packets : List ReceivedPacket) :
    RtcpReportSender :=
  packets.foldl receive (new start)

theorem receiveAll_shift {start : Instant} {constant : TruncatedTimestamp}
    {packets : List ReceivedPacket} {report : RtcpReportSender}
    (run : Run (Guarded (WrapsAlike constant) (Stepping receive)) (new start)
      packets report) :
    receiveAll start (packets.map (.shift constant)) =
      report.shifted constant := by
  unfold receiveAll
  induction run with
  | nil => rfl
  | snoc _ last ih =>
      obtain ⟨alike, rfl⟩ := last
      rw [List.map_append, List.foldl_append, ih]
      exact receive_shift alike

/-- After every packet, the shifted timestamps have led to the same
estimate. -/
theorem jitter_of_shifted_run {start : Instant} {constant : TruncatedTimestamp}
    {packets : List ReceivedPacket} {report : RtcpReportSender}
    (run : Run (Guarded (WrapsAlike constant) (Stepping receive)) (new start)
      packets report) :
    (receiveAll start (packets.map (.shift constant))).jitterQ4 =
      report.jitterQ4 := by
  rw [receiveAll_shift run]
  unfold shifted
  split
  · rfl
  · rfl

/-- Two packets of audio that arrive as they were sent. -/
def twoPackets : List ReceivedPacket :=
  [⟨1, opusPayloadType, 0, 0⟩,
    ⟨2, opusPayloadType, 960, fromMillis 20⟩]

theorem jitter_of_shifted_run_two_packets :
    (receiveAll 0 (twoPackets.map (.shift 1000))).jitterQ4 =
      (receiveAll 0 twoPackets).jitterQ4 := by
  have first : WrapsAlike 1000 (new 0) ⟨1, opusPayloadType, 0, 0⟩ := by
    rintro ⟨maxSeqnum, isMax, -⟩
    cases isMax
  have second : WrapsAlike 1000
      ((new 0).receive ⟨1, opusPayloadType, 0, 0⟩)
      ⟨2, opusPayloadType, 960, fromMillis 20⟩ :=
    fun _ => iff_of_true (by decide) (by decide)
  exact jitter_of_shifted_run
    ((Run.nil.snoc ⟨first, rfl⟩).snoc ⟨second, rfl⟩)

/-- The second of the shifted timestamps has wrapped around. -/
theorem jitter_of_wrapped_timestamps :
    ¬ ∀ (start : Instant) (constant : TruncatedTimestamp)
      (packets : List ReceivedPacket),
      (receiveAll start (packets.map (.shift constant))).jitterQ4 =
        (receiveAll start packets).jitterQ4 := by
  intro always
  have same := always 0 4294967295 twoPackets
  revert same
  decide

end RtcpReportSender

end CallingService.Backend.Rtp
