import CallingService.Backend.Rtp.ControlRoundTrip
import CallingService.Backend.Rtp.SrtcpIndices

/-!
# Written reports are read back

The compound packet has one report for each SSRC that has one pending.  The
buffer is sized by a pass over the same statistics, so that nothing but the
space for the tag and the footer follows the last report.
-/

namespace CallingService.Backend.Rtp

open Foundation

/-! ## The parts of a report -/

namespace SenderInfo

/-- What a receiver finds; the time is a word of 64 bits. -/
def asRead (info : SenderInfo) : SenderInfo :=
  { info with ntpTs := info.ntpTs % 2 ^ 64 }

theorem asRead_write (info : SenderInfo) : info.asRead.write = info.write := by
  have sameWord : toBigEndian 8 (info.ntpTs % 2 ^ 64) =
      toBigEndian 8 info.ntpTs :=
    toBigEndian_eq_iff.mpr (Nat.mod_mod _ _)
  unfold asRead write
  rw [sameWord]

theorem asRead_asRead (info : SenderInfo) : info.asRead.asRead = info.asRead := by
  unfold asRead
  rw [Nat.mod_mod]

theorem length_write (info : SenderInfo) :
    info.write.length = SenderInfo.length := by
  unfold write SenderInfo.length
  simp

theorem fromBytes_write (info : SenderInfo) (rest : Bytes) :
    fromBytes (info.write ++ rest) = .ok info.asRead := by
  obtain ⟨ssrc, ntpTs, rtpTs, packetCount, octetCount⟩ := info
  have first := @numberAt_word [] (toBigEndian 8 ntpTs ++
    (toBigEndian 4 rtpTs.toNat ++ (toBigEndian 4 packetCount.toNat ++
      (toBigEndian 4 octetCount.toNat ++ rest)))) 4 ssrc.toNat 0 4 rfl rfl
  have second := @numberAt_word (toBigEndian 4 ssrc.toNat)
    (toBigEndian 4 rtpTs.toNat ++ (toBigEndian 4 packetCount.toNat ++
      (toBigEndian 4 octetCount.toNat ++ rest))) 8 ntpTs 4 12 (by simp) rfl
  have third := @numberAt_word (toBigEndian 4 ssrc.toNat ++
    toBigEndian 8 ntpTs) (toBigEndian 4 packetCount.toNat ++
      (toBigEndian 4 octetCount.toNat ++ rest)) 4 rtpTs.toNat 12 16
    (by simp) rfl
  have fourth := @numberAt_word (toBigEndian 4 ssrc.toNat ++
    (toBigEndian 8 ntpTs ++ toBigEndian 4 rtpTs.toNat))
    (toBigEndian 4 octetCount.toNat ++ rest) 4 packetCount.toNat 16 20
    (by simp) rfl
  have fifth := @numberAt_word (toBigEndian 4 ssrc.toNat ++
    (toBigEndian 8 ntpTs ++ (toBigEndian 4 rtpTs.toNat ++
      toBigEndian 4 packetCount.toNat))) rest 4 octetCount.toNat 20 24
    (by simp) rfl
  unfold fromBytes write
  simp only [List.append_assoc, List.nil_append] at first third fourth fifth ⊢
  rw [first, ok_bind, second, ok_bind, third, ok_bind, fourth, ok_bind, fifth]
  simp only [ok_bind, toUInt32_mod]
  rfl

end SenderInfo

namespace ReportBlock

def write (block : ReportBlock) : Bytes :=
  toBigEndian 4 block.ssrc.toNat ++ ([block.fractionLoss] ++
    (toBigEndian 3 block.cumulativeLossCount ++
      (toBigEndian 4 block.highestSequenceNum.toNat ++
        (toBigEndian 4 block.jitter.toNat ++
          (toBigEndian 4 block.lastSenderReport.toNat ++
            toBigEndian 4 block.delayLastSenderReport.toNat)))))

theorem length_write (block : ReportBlock) :
    block.write.length = reportBlockLength := by
  unfold write reportBlockLength
  simp

theorem fromBytes_write {block : ReportBlock} (rest : Bytes)
    (fits : block.cumulativeLossCount < 2 ^ 24) :
    fromBytes (block.write ++ rest) = .ok (.ok block) := by
  have long : ¬ (block.write ++ rest).length < reportBlockLength := by
    rw [List.length_append, length_write]
    omega
  obtain ⟨ssrc, fractionLoss, cumulativeLossCount, highestSequenceNum, jitter,
    lastSenderReport, delayLastSenderReport⟩ := block
  dsimp only at fits
  have first := @numberAt_word [] ([fractionLoss] ++
    (toBigEndian 3 cumulativeLossCount ++
      (toBigEndian 4 highestSequenceNum.toNat ++ (toBigEndian 4 jitter.toNat ++
        (toBigEndian 4 lastSenderReport.toNat ++
          (toBigEndian 4 delayLastSenderReport.toNat ++ rest))))))
    4 ssrc.toNat 0 4 rfl rfl
  have second := @byteOf_middle (toBigEndian 4 ssrc.toNat)
    (toBigEndian 3 cumulativeLossCount ++
      (toBigEndian 4 highestSequenceNum.toNat ++ (toBigEndian 4 jitter.toNat ++
        (toBigEndian 4 lastSenderReport.toNat ++
          (toBigEndian 4 delayLastSenderReport.toNat ++ rest)))))
    fractionLoss 4 (by simp)
  have third := @numberAt_word (toBigEndian 4 ssrc.toNat ++ [fractionLoss])
    (toBigEndian 4 highestSequenceNum.toNat ++ (toBigEndian 4 jitter.toNat ++
      (toBigEndian 4 lastSenderReport.toNat ++
        (toBigEndian 4 delayLastSenderReport.toNat ++ rest))))
    3 cumulativeLossCount 5 8 (by simp) rfl
  have fourth := @numberAt_word (toBigEndian 4 ssrc.toNat ++
    ([fractionLoss] ++ toBigEndian 3 cumulativeLossCount))
    (toBigEndian 4 jitter.toNat ++ (toBigEndian 4 lastSenderReport.toNat ++
      (toBigEndian 4 delayLastSenderReport.toNat ++ rest)))
    4 highestSequenceNum.toNat 8 12 (by simp) rfl
  have fifth := @numberAt_word (toBigEndian 4 ssrc.toNat ++
    ([fractionLoss] ++ (toBigEndian 3 cumulativeLossCount ++
      toBigEndian 4 highestSequenceNum.toNat)))
    (toBigEndian 4 lastSenderReport.toNat ++
      (toBigEndian 4 delayLastSenderReport.toNat ++ rest))
    4 jitter.toNat 12 16 (by simp) rfl
  have sixth := @numberAt_word (toBigEndian 4 ssrc.toNat ++
    ([fractionLoss] ++ (toBigEndian 3 cumulativeLossCount ++
      (toBigEndian 4 highestSequenceNum.toNat ++
        toBigEndian 4 jitter.toNat))))
    (toBigEndian 4 delayLastSenderReport.toNat ++ rest)
    4 lastSenderReport.toNat 16 20 (by simp) rfl
  have seventh := @numberAt_word (toBigEndian 4 ssrc.toNat ++
    ([fractionLoss] ++ (toBigEndian 3 cumulativeLossCount ++
      (toBigEndian 4 highestSequenceNum.toNat ++ (toBigEndian 4 jitter.toNat ++
        toBigEndian 4 lastSenderReport.toNat)))))
    rest 4 delayLastSenderReport.toNat 20 24 (by simp) rfl
  have whole : cumulativeLossCount % 256 ^ 3 = cumulativeLossCount :=
    Nat.mod_eq_of_lt fits
  unfold fromBytes
  rw [if_neg long]
  unfold write
  simp only [List.append_assoc, List.nil_append] at first second third fourth fifth sixth seventh ⊢
  rw [first, ok_bind, second, ok_bind, third, ok_bind, fourth, ok_bind, fifth,
    ok_bind, sixth, ok_bind, seventh]
  simp only [ok_bind, toUInt32_mod, whole]
  rfl

end ReportBlock

/-! ## Pending reports -/

inductive PendingReport where
  | sender (report : SenderReport)
  | receiver (report : ReceiverReport)

namespace PendingReport

@[simp]
def ssrc : PendingReport → Ssrc
  | sender report => report.ssrc
  | receiver report => report.ssrc

@[simp]
def senderReport : PendingReport → Option SenderReport
  | sender report => some report
  | receiver _ => none

@[simp]
def receiverReport : PendingReport → Option ReceiverReport
  | sender _ => none
  | receiver report => some report

/-- The bytes of a report in a compound packet. -/
def bytes : PendingReport → Bytes
  | sender report => report.header.write ++ report.senderInfo.write
  | receiver report => report.header.write ++
      (toBigEndian 4 report.senderSsrc.toNat ++
        report.reportBlocks.flatMap ReportBlock.write)

end PendingReport

namespace RtcpReportSender

/-- The values of the block about what has been received. -/
def pendingBlock (report : RtcpReportSender) (history : SenderReportHistory)
    (ssrc : Ssrc) (now : Instant) (maxSeqnum maxSeqnumInLast : Nat) :
    ReportBlock :=
  let expected := maxSeqnum - maxSeqnumInLast
  let lost := report.cumulativeLoss - report.cumulativeLossInLast
  { ssrc := ssrc
    fractionLoss := if expected = 0 then 0
      else (256 * lost % 2 ^ 32 / expected).toUInt8
    cumulativeLossCount := min report.cumulativeLoss (2 ^ 23 - 1)
    highestSequenceNum := maxSeqnum.toUInt32
    jitter := (report.jitterQ4 >>> 4).toUInt32
    lastSenderReport := (history.lastReceivedSenderInfo.elim 0
      fun info => getLsr info.ntpTs).toUInt32
    delayLastSenderReport := (history.lastReceivedSenderInfo.elim 0
      fun _ => calculateDlsr history.lastSenderReportReceivedTime now).toUInt32 }

/-- The values about what has been sent. -/
def pendingInfo (report : RtcpReportSender) (history : SenderReportHistory)
    (ssrc : Ssrc) : SenderInfo where
  ssrc := ssrc
  ntpTs := history.lastReceivedSenderInfo.elim 0 SenderInfo.ntpTs
  rtpTs := history.lastReceivedSenderInfo.elim report.lastSentRtpTimestamp
    SenderInfo.rtpTs
  packetCount := report.packetsSent
  octetCount := report.totalPayloadBytesSent

/-- The report that one SSRC has pending, as it should be found: about what
has been sent if that is anything, else about what has been received. -/
def pendingReport (report : RtcpReportSender) (history : SenderReportHistory)
    (ssrc : Ssrc) (now : Instant) : Option PendingReport :=
  if report.sentSinceLastReport then
    some (.sender {
      header := ⟨false, 0, rtcpTypeSenderReport, 6⟩
      senderInfo := (report.pendingInfo history ssrc).asRead
      reportBlocks := [] })
  else match report.maxSeqnum, report.maxSeqnumInLast with
    | some maxSeqnum, some maxSeqnumInLast =>
        some (.receiver {
          header := ⟨false, 1, rtcpTypeReceiverReport, 7⟩
          senderSsrc := ssrc
          reportBlocks := [report.pendingBlock history ssrc now maxSeqnum
            maxSeqnumInLast] })
    | _, _ => none

end RtcpReportSender

namespace ControlPacket

/-- Reports are added in the order in which they are found. -/
def withReports (incoming : ControlPacket) (reports : List PendingReport) :
    ControlPacket :=
  { incoming with
    senderReports := incoming.senderReports ++
      reports.filterMap PendingReport.senderReport
    receiverReports := incoming.receiverReports ++
      reports.filterMap PendingReport.receiverReport }

theorem withReports_nil (incoming : ControlPacket) :
    incoming.withReports [] = incoming := by
  simp [withReports]

theorem withReports_sender (incoming : ControlPacket) (report : SenderReport) :
    incoming.withReports [.sender report] = { incoming with
      senderReports := incoming.senderReports ++ [report] } := by
  simp [withReports]

theorem withReports_receiver (incoming : ControlPacket)
    (report : ReceiverReport) :
    incoming.withReports [.receiver report] = { incoming with
      receiverReports := incoming.receiverReports ++ [report] } := by
  simp [withReports]

theorem withReports_cons (incoming : ControlPacket) (report : PendingReport)
    (reports : List PendingReport) :
    incoming.withReports (report :: reports) =
      (incoming.withReports [report]).withReports reports := by
  cases report with
  | sender report =>
      rw [withReports_sender]
      simp [withReports, List.filterMap_cons]
  | receiver report =>
      rw [withReports_receiver]
      simp [withReports, List.filterMap_cons]

theorem add_senderReport (incoming : ControlPacket) (info : SenderInfo)
    (feedback : Bytes) :
    incoming.add ⟨false, 0, rtcpTypeSenderReport, 6⟩ info.write feedback =
      .ok (some (incoming.withReports [.sender
        ⟨⟨false, 0, rtcpTypeSenderReport, 6⟩, info.asRead, []⟩])) := by
  have wellFormed : malformedReport "Sender" rtcpTypeSenderReport
      SenderInfo.length info.write ⟨false, 0, rtcpTypeSenderReport, 6⟩ =
      none := by
    unfold malformedReport
    rw [info.length_write]
    rfl
  have isInfo := info.fromBytes_write []
  rw [List.append_nil] at isInfo
  have long : SenderInfo.length ≤ info.write.length :=
    Nat.le_of_eq info.length_write.symm
  have report : SenderReport.fromBytesAfterHeader info.write
      ⟨false, 0, rtcpTypeSenderReport, 6⟩ = .ok (.ok
        ⟨⟨false, 0, rtcpTypeSenderReport, 6⟩, info.asRead, []⟩) := by
    unfold SenderReport.fromBytesAfterHeader
    rw [wellFormed]
    dsimp only
    rw [isInfo, ok_bind, sliceFrom_eq long]
    rfl
  unfold add
  dsimp only
  rw [if_pos rfl, report, withReports_sender]
  rfl

theorem add_receiverReport (incoming : ControlPacket) (ssrc : Ssrc)
    {block : ReportBlock} (feedback : Bytes)
    (fits : block.cumulativeLossCount < 2 ^ 24) :
    incoming.add ⟨false, 1, rtcpTypeReceiverReport, 7⟩
        (toBigEndian 4 ssrc.toNat ++ block.write) feedback =
      .ok (some (incoming.withReports [.receiver
        ⟨⟨false, 1, rtcpTypeReceiverReport, 7⟩, ssrc, [block]⟩])) := by
  have length : (toBigEndian 4 ssrc.toNat ++ block.write).length = 28 := by
    rw [List.length_append, length_toBigEndian, block.length_write]
    rfl
  have wellFormed : malformedReport "Receiver" rtcpTypeReceiverReport
      ReceiverReport.ssrcLength (toBigEndian 4 ssrc.toNat ++ block.write)
      ⟨false, 1, rtcpTypeReceiverReport, 7⟩ = none := by
    unfold malformedReport
    rw [length]
    rfl
  have long : ReceiverReport.ssrcLength ≤
      (toBigEndian 4 ssrc.toNat ++ block.write).length := by
    rw [length]
    decide
  have isSsrc : numberAt (toBigEndian 4 ssrc.toNat ++ block.write)
      ⟨0, ReceiverReport.ssrcLength⟩ = .ok (ssrc.toNat % 256 ^ 4) :=
    @numberAt_word [] block.write 4 ssrc.toNat 0 4 rfl rfl
  have isBlock := ReportBlock.fromBytes_write [] fits
  have blockLength := block.length_write
  rw [List.append_nil] at isBlock
  have isBlocks : readReportBlocks 1 block.write = .ok (.ok [block]) := by
    unfold readReportBlocks
    rw [isBlock, ok_bind]
    dsimp only
    rw [sliceFrom_eq (Nat.le_of_eq blockLength.symm), ok_bind]
    rfl
  have behind : (toBigEndian 4 ssrc.toNat ++ block.write).drop
      ReceiverReport.ssrcLength = block.write :=
    List.drop_left' (length_toBigEndian 4 _)
  have report : ReceiverReport.fromBytesAfterHeader
      (toBigEndian 4 ssrc.toNat ++ block.write)
      ⟨false, 1, rtcpTypeReceiverReport, 7⟩ = .ok (.ok
        ⟨⟨false, 1, rtcpTypeReceiverReport, 7⟩,
          (ssrc.toNat % 256 ^ 4).toUInt32, [block]⟩) := by
    unfold ReceiverReport.fromBytesAfterHeader
    rw [wellFormed]
    dsimp only
    rw [isSsrc, ok_bind, sliceFrom_eq long, behind, ok_bind]
    change (readReportBlocks 1 block.write >>= _) = _
    rw [isBlocks]
    rfl
  rw [toUInt32_mod] at report
  unfold add
  dsimp only
  rw [if_neg (by decide), if_pos rfl, report, withReports_receiver]
  rfl

end ControlPacket

/-! ## Writing what is pending -/

theorem toBigEndian_toUInt32 (value : Nat) :
    toBigEndian 4 value.toUInt32.toNat = toBigEndian 4 value := by
  apply toBigEndian_eq_iff.mpr
  simp only [Nat.toUInt32_eq, UInt32.toNat_ofNat']
  exact Nat.mod_mod _ _

theorem fractionLost_eq {profile : BuildProfile} {lost expected : Nat}
    {fraction : UInt8}
    (computed : fractionLost profile lost expected = .ok fraction) :
    fraction = if expected = 0 then 0
      else (256 * lost % 2 ^ 32 / expected).toUInt8 := by
  unfold fractionLost at computed
  split at computed
  · rename_i nothing
    cases computed
    rw [if_pos nothing]
  · rename_i something
    split at computed
    · cases computed
    · cases computed
      rw [if_neg something]

namespace RtcpReportSender

variable {profile : BuildProfile} {report : RtcpReportSender}
  {history : SenderReportHistory} {ssrc : Ssrc} {now : Instant}

theorem fits_pendingBlock (maxSeqnum maxSeqnumInLast : Nat) :
    (report.pendingBlock history ssrc now maxSeqnum
      maxSeqnumInLast).cumulativeLossCount < 2 ^ 24 := by
  unfold pendingBlock
  dsimp only
  omega

theorem block_writeSenderReportBlock :
    (report.writeSenderReportBlock history ssrc now).2.2 =
      (report.pendingInfo history ssrc).write := by
  unfold writeSenderReportBlock pendingInfo
  cases history.lastReceivedSenderInfo with
  | none => rfl
  | some info => rfl

theorem block_writeReceiverReportBlock {maxSeqnum maxSeqnumInLast : Nat}
    {written : RtcpReportSender × Bytes}
    (isMax : report.maxSeqnum = some maxSeqnum)
    (isInLast : report.maxSeqnumInLast = some maxSeqnumInLast)
    (wrote : report.writeReceiverReportBlock profile history ssrc now =
      .ok written) :
    written.2 = toBigEndian 4 ssrc.toNat ++
      (report.pendingBlock history ssrc now maxSeqnum
        maxSeqnumInLast).write := by
  unfold writeReceiverReportBlock at wrote
  rw [isMax, isInLast] at wrote
  obtain ⟨fraction, computed, returned⟩ := bind_eq_ok_iff.mp wrote
  have isFraction := fractionLost_eq computed
  cases returned
  unfold pendingBlock ReportBlock.write
  simp only [toBigEndian_toUInt32, ← isFraction]
  cases history.lastReceivedSenderInfo with
  | none => rfl
  | some info => rfl

/-- The block that is written is the one of the pending report. -/
theorem bytes_writeReportBlock {outcome : Option WrittenBlock}
    (wrote : report.writeReportBlock profile history ssrc now =
      .ok outcome) :
    outcome.map WrittenBlock.bytes =
      (report.pendingReport history ssrc now).map PendingReport.bytes := by
  unfold writeReportBlock rtcpReportPayloadType at wrote
  unfold pendingReport
  by_cases sent : report.sentSinceLastReport = true
  · rw [if_pos sent] at wrote ⊢
    dsimp only at wrote
    rw [if_pos rfl] at wrote
    cases wrote
    have whole : (report.pendingInfo history ssrc).write.take
        SenderInfo.length = (report.pendingInfo history ssrc).write :=
      List.take_of_length_le (Nat.le_of_eq (SenderInfo.length_write _))
    have words : (SenderInfo.length >>> 2).toUInt16 = 6 := by decide
    rw [Option.map_some, Option.map_some]
    unfold WrittenBlock.bytes WrittenBlock.header PendingReport.bytes
    dsimp only
    rw [block_writeSenderReportBlock, whole, SenderInfo.asRead_write, words]
  · rw [if_neg sent] at wrote ⊢
    cases isMax : report.maxSeqnum with
    | none =>
        simp only [isMax, Option.isSome_none, Bool.false_and,
          Bool.false_eq_true, if_false] at wrote
        cases wrote
        rfl
    | some maxSeqnum =>
        cases isInLast : report.maxSeqnumInLast with
        | none =>
            simp only [isInLast, Option.isSome_none, Bool.and_false,
              Bool.false_eq_true, if_false] at wrote
            cases wrote
            rfl
        | some maxSeqnumInLast =>
            simp only [isMax, isInLast, Option.isSome_some, Bool.and_true,
              if_true] at wrote
            rw [if_neg (by decide)] at wrote
            obtain ⟨written, received, returned⟩ := bind_eq_ok_iff.mp wrote
            cases returned
            have block := block_writeReceiverReportBlock isMax isInLast received
            have whole : written.2.take rtcpReceiverReportBlockLen =
                written.2 := by
              apply List.take_of_length_le
              rw [block, List.length_append, length_toBigEndian,
                ReportBlock.length_write]
              decide
            have words : (rtcpReceiverReportBlockLen >>> 2).toUInt16 = 7 := by
              decide
            rw [Option.map_some, Option.map_some]
            unfold WrittenBlock.bytes WrittenBlock.header PendingReport.bytes
            dsimp only
            rw [whole, block, List.flatMap_singleton, words]

/-- If a receiver report is due, the product for its fraction of lost packets
is a word of 32 bits. -/
def LossFits (report : RtcpReportSender) : Prop :=
  report.rtcpReportPayloadType = some rtcpTypeReceiverReport →
    256 * (report.cumulativeLoss - report.cumulativeLossInLast) < 2 ^ 32

theorem exists_fractionLost {lost : Nat} (expected : Nat)
    (fits : profile = .debug → 256 * lost < 2 ^ 32) :
    ∃ fraction, fractionLost profile lost expected = .ok fraction := by
  have noOverflow : ¬ (profile = .debug ∧ 2 ^ 32 ≤ 256 * lost) :=
    fun overflows => Nat.not_lt.mpr overflows.2 (fits overflows.1)
  unfold fractionLost
  rw [if_neg noOverflow]
  split
  · exact ⟨_, rfl⟩
  · exact ⟨_, rfl⟩

theorem exists_writeReportBlock
    (fits : profile = .debug → report.LossFits) :
    ∃ outcome,
      report.writeReportBlock profile history ssrc now = .ok outcome := by
  unfold writeReportBlock
  cases due : report.rtcpReportPayloadType with
  | none => exact ⟨_, rfl⟩
  | some payloadType =>
      dsimp only
      split
      · exact ⟨_, rfl⟩
      · rename_i notSender
        obtain ⟨maxSeqnum, maxSeqnumInLast, isMax, isInLast⟩ :=
          received_of_payloadType due notSender
        split
        · rename_i isReceiver
          obtain ⟨fraction, isFraction⟩ := exists_fractionLost
            (maxSeqnum - maxSeqnumInLast) fun isDebug =>
              fits isDebug (due.trans (congrArg some isReceiver))
          unfold writeReceiverReportBlock
          rw [isMax, isInLast]
          dsimp only
          rw [isFraction]
          exact ⟨_, rfl⟩
        · exact ⟨_, rfl⟩

/-- The loop finds a pending report that is in front. -/
theorem run_pendingReport {pending : PendingReport}
    (isPending : report.pendingReport history ssrc now = some pending)
    (rest : Bytes) (incoming : ControlPacket) :
    ControlPacket.compoundLoop.run (pending.bytes ++ rest, incoming) =
      ControlPacket.compoundLoop.run
        (rest, incoming.withReports [pending]) := by
  unfold pendingReport at isPending
  split at isPending
  · cases isPending
    unfold PendingReport.bytes
    rw [List.append_assoc]
    apply ControlPacket.run_write rest
    · dsimp only
      decide
    · dsimp only
      decide
    · exact SenderInfo.length_write _
    · rw [ControlPacket.add_senderReport, SenderInfo.asRead_asRead]
  · split at isPending
    · cases isPending
      unfold PendingReport.bytes
      rw [List.append_assoc, List.flatMap_singleton]
      apply ControlPacket.run_write rest
      · dsimp only
        decide
      · dsimp only
        decide
      · rw [List.length_append, length_toBigEndian, ReportBlock.length_write]
        rfl
      · exact ControlPacket.add_receiverReport incoming ssrc _
          (fits_pendingBlock _ _)
    · cases isPending

end RtcpReportSender

theorem PendingReport.length_bytes_sender (header : RtcpHeader)
    (info : SenderInfo) (blocks : List ReportBlock) :
    (PendingReport.sender ⟨header, info, blocks⟩).bytes.length =
      senderReportMinLength := by
  unfold bytes
  rw [List.length_append, RtcpHeader.length_write, SenderInfo.length_write]
  rfl

theorem PendingReport.length_bytes_receiver (header : RtcpHeader)
    (ssrc : Ssrc) (block : ReportBlock) :
    (PendingReport.receiver ⟨header, ssrc, [block]⟩).bytes.length =
      receiverReportMinLength + reportBlockLength := by
  unfold bytes
  dsimp only
  rw [List.flatMap_singleton, List.length_append, List.length_append,
    RtcpHeader.length_write, length_toBigEndian, ReportBlock.length_write]
  rfl

/-- A report that was pending for some statistics. -/
def PendingReport.Arises (pending : PendingReport) : Prop :=
  ∃ (report : RtcpReportSender) (history : SenderReportHistory) (ssrc : Ssrc)
    (now : Instant), report.pendingReport history ssrc now = some pending

/-- The loop finds all reports, in their order. -/
theorem run_pendingReports {reports : List PendingReport}
    (arise : ∀ pending ∈ reports, pending.Arises) (incoming : ControlPacket) :
    ControlPacket.compoundLoop.run
        (reports.flatMap PendingReport.bytes, incoming) =
      .ok (some (incoming.withReports reports)) := by
  induction reports generalizing incoming with
  | nil =>
      rw [List.flatMap_nil, ControlPacket.run_nil,
        ControlPacket.withReports_nil]
  | cons pending reports ih =>
      obtain ⟨report, history, ssrc, now, isPending⟩ :=
        arise pending List.mem_cons_self
      rw [List.flatMap_cons,
        RtcpReportSender.run_pendingReport isPending,
        ih fun other member => arise other (List.mem_cons_of_mem _ member),
        ← ControlPacket.withReports_cons]

/-! ## The reports of an endpoint -/

namespace ControlEndpoint

variable {profile : BuildProfile} {aead : Aead}
  {endpoint after : ControlEndpoint} {order : List Ssrc} {now : Instant}
  {blocks : List (Ssrc × Bytes)}

/-- The report that an SSRC has pending. -/
def pendingReport (endpoint : ControlEndpoint) (now : Instant) (ssrc : Ssrc) :
    Option PendingReport :=
  (endpoint.stateByIncomingSsrc.lookup ssrc).bind fun state =>
    state.rtcpReportSender.pendingReport
      (endpoint.senderReportHistory ssrc now) ssrc now

theorem arises_of_pendingReport {pending : PendingReport} {ssrc : Ssrc}
    (isPending : endpoint.pendingReport now ssrc = some pending) :
    pending.Arises := by
  obtain ⟨state, -, found⟩ := Option.bind_eq_some_iff.mp isPending
  exact ⟨_, _, _, _, found⟩

/-- Writing the report of one SSRC leaves those of the others pending. -/
theorem pendingReport_setReport {ssrc other : Ssrc}
    (different : other ≠ ssrc) (state : IncomingSsrcState)
    (block : RtcpReportSender.WrittenBlock) :
    (endpoint.setReport ssrc state block).pendingReport now other =
      endpoint.pendingReport now other := by
  unfold pendingReport senderReportHistory setReport setState
  dsimp only
  rw [AList.lookup_insert_ne different, AList.lookup_insert_ne different]

theorem bytes_writeReports (distinct : order.Nodup)
    (wrote : writeReports profile now order endpoint = .ok (after, blocks)) :
    blocks.map Prod.snd =
        (order.filterMap (endpoint.pendingReport now)).map
          PendingReport.bytes ∧
      after.encrypt = endpoint.encrypt ∧
      after.nextOutgoingSrtcpIndex = endpoint.nextOutgoingSrtcpIndex := by
  induction order generalizing endpoint blocks with
  | nil =>
      cases wrote
      exact ⟨rfl, rfl, rfl⟩
  | cons ssrc order ih =>
      obtain ⟨notLater, distinctRest⟩ := List.nodup_cons.mp distinct
      unfold writeReports at wrote
      cases found : endpoint.stateByIncomingSsrc.lookup ssrc with
      | none =>
          have noReport : endpoint.pendingReport now ssrc = none := by
            unfold pendingReport
            rw [found, Option.bind_none]
          rw [found] at wrote
          rw [List.filterMap_cons_none noReport]
          exact ih distinctRest wrote
      | some state =>
          rw [found] at wrote
          obtain ⟨written, isWritten, later⟩ := bind_eq_ok_iff.mp wrote
          have bytes := RtcpReportSender.bytes_writeReportBlock isWritten
          have isReport : endpoint.pendingReport now ssrc =
              state.rtcpReportSender.pendingReport
                (endpoint.senderReportHistory ssrc now) ssrc now := by
            unfold pendingReport
            rw [found, Option.bind_some]
          rw [← isReport] at bytes
          cases written with
          | none =>
              rw [List.filterMap_cons_none
                (Option.map_eq_none_iff.mp bytes.symm)]
              exact ih distinctRest later
          | some block =>
              obtain ⟨rest, isRest, returned⟩ := bind_eq_ok_iff.mp later
              cases returned
              obtain ⟨pending, isPending, sameBytes⟩ :=
                Option.map_eq_some_iff.mp bytes.symm
              obtain ⟨others, sameKeys, sameIndex⟩ := ih distinctRest isRest
              have unchanged : order.filterMap ((endpoint.setReport ssrc state
                  block).pendingReport now) =
                  order.filterMap (endpoint.pendingReport now) := by
                apply List.filterMap_congr
                intro other member
                apply pendingReport_setReport
                rintro rfl
                exact notLater member
              rw [unchanged] at others
              rw [List.filterMap_cons_some isPending, List.map_cons,
                List.map_cons, others, sameBytes]
              exact ⟨rfl, sameKeys, sameIndex⟩

theorem length_bytes_of_pending {report : RtcpReportSender}
    {history : SenderReportHistory} {ssrc : Ssrc} {pending : PendingReport}
    (isPending : report.pendingReport history ssrc now = some pending) :
    report.rtcpReportPayloadType = some rtcpTypeSenderReport ∧
        pending.bytes.length = senderReportMinLength ∨
      report.rtcpReportPayloadType = some rtcpTypeReceiverReport ∧
        pending.bytes.length = receiverReportMinLength + reportBlockLength := by
  unfold RtcpReportSender.pendingReport at isPending
  unfold RtcpReportSender.rtcpReportPayloadType
  split at isPending
  · rename_i sent
    cases isPending
    rw [if_pos sent]
    exact .inl ⟨rfl, PendingReport.length_bytes_sender _ _ _⟩
  · rename_i notSent
    split at isPending
    · rename_i isMax isInLast
      cases isPending
      rw [if_neg notSent, isMax, isInLast]
      exact .inr ⟨rfl, PendingReport.length_bytes_receiver _ _ _⟩
    · cases isPending

theorem payloadType_of_not_pending {report : RtcpReportSender}
    {history : SenderReportHistory} {ssrc : Ssrc}
    (notPending : report.pendingReport history ssrc now = none) :
    report.rtcpReportPayloadType = none := by
  unfold RtcpReportSender.pendingReport at notPending
  unfold RtcpReportSender.rtcpReportPayloadType
  split at notPending
  · cases notPending
  · rename_i notSent
    rw [if_neg notSent]
    cases isMax : report.maxSeqnum with
    | none => rfl
    | some maxSeqnum =>
        cases isInLast : report.maxSeqnumInLast with
        | none => rfl
        | some maxSeqnumInLast =>
            rw [isMax, isInLast] at notPending
            cases notPending

/-- The pass that sizes the buffer counts the bytes of what is pending. -/
theorem length_pendingReport (endpoint : ControlEndpoint) (now : Instant)
    (ssrc : Ssrc) :
    (endpoint.pendingReport now ssrc).elim 0 (fun pending =>
        pending.bytes.length) =
      (endpoint.stateByIncomingSsrc.lookup ssrc).elim 0
        expectedReportSize := by
  unfold pendingReport
  cases endpoint.stateByIncomingSsrc.lookup ssrc with
  | none => rfl
  | some state =>
      rw [Option.bind_some, Option.elim_some]
      unfold expectedReportSize
      cases isPending : state.rtcpReportSender.pendingReport
          (endpoint.senderReportHistory ssrc now) ssrc now with
      | none =>
          rw [payloadType_of_not_pending isPending]
          rfl
      | some pending =>
          rcases length_bytes_of_pending isPending with
            ⟨isSender, length⟩ | ⟨isReceiver, length⟩
          · rw [isSender, Option.elim_some, length]
            rfl
          · rw [isReceiver, Option.elim_some, length]
            rfl

theorem length_pendingReports {reports : List PendingReport}
    (isReports : reports = order.filterMap (endpoint.pendingReport now))
    (iteration : order.Perm endpoint.stateByIncomingSsrc.keys) :
    (reports.flatMap PendingReport.bytes).length =
      Table.total expectedReportSize endpoint.stateByIncomingSsrc := by
  have summed : ∀ ssrcs : List Ssrc,
      ((ssrcs.filterMap (endpoint.pendingReport now)).flatMap
        PendingReport.bytes).length =
      (ssrcs.map fun ssrc =>
        (endpoint.stateByIncomingSsrc.lookup ssrc).elim 0
          expectedReportSize).sum := by
    intro ssrcs
    induction ssrcs with
    | nil => rfl
    | cons ssrc ssrcs ih =>
        have length := endpoint.length_pendingReport now ssrc
        rw [List.map_cons, List.sum_cons, ← ih, ← length]
        cases isPending : endpoint.pendingReport now ssrc with
        | none =>
            rw [List.filterMap_cons_none isPending, Option.elim_none,
              Nat.zero_add]
        | some pending =>
            rw [List.filterMap_cons_some isPending, List.flatMap_cons,
              List.length_append, Option.elim_some]
  rw [isReports, summed order, Table.sum_of_perm_keys _ iteration]

theorem le_length_pendingReports {reports : List PendingReport}
    (arise : ∀ pending ∈ reports, pending.Arises) (nonempty : reports ≠ []) :
    rtcpHeaderLen ≤ (reports.flatMap PendingReport.bytes).length := by
  cases reports with
  | nil => exact absurd rfl nonempty
  | cons pending reports =>
      obtain ⟨_, _, _, _, isPending⟩ := arise pending List.mem_cons_self
      have long : rtcpHeaderLen ≤ pending.bytes.length := by
        rcases length_bytes_of_pending isPending with
          ⟨-, length⟩ | ⟨-, length⟩
        · rw [length]
          decide
        · rw [length]
          decide
      rw [List.flatMap_cons, List.length_append]
      exact Nat.le_trans long (Nat.le_add_right _ _)

section Send

variable {written : ControlEndpoint} {reports : List PendingReport}
  (isReports : order.filterMap (endpoint.pendingReport now) = reports)
  (iteration : order.Perm endpoint.stateByIncomingSsrc.keys)
include isReports iteration

theorem sendRtcpReport_of_nothing (nothing : reports = []) :
    endpoint.sendRtcpReport profile aead order 0 now =
      .ok (endpoint, none) := by
  have length := length_pendingReports isReports.symm iteration
  rw [nothing, List.flatMap_nil, List.length_nil] at length
  unfold sendRtcpReport createBufferForRtcpReports
  dsimp only
  rw [if_pos length.symm]

/-- Once the reports have been written, the packet is sent, and the parser
finds what was pending. -/
theorem sendRtcpReport_of_pending (total : aead.IsTotal)
    (small : endpoint.nextOutgoingSrtcpIndex.toNat < 2 ^ 31)
    (nonempty : reports ≠ [])
    (wrote : writeReports profile now order endpoint =
      .ok (written, blocks)) :
    ∃ after serialized,
      endpoint.sendRtcpReport profile aead order 0 now =
        .ok (after, some serialized) ∧
      ControlPacket.parseAndDecryptInPlace aead serialized
          endpoint.encrypt.rtcp =
        .ok (some (ControlPacket.empty.withReports reports)) := by
  have arise : ∀ pending ∈ reports, pending.Arises := by
    intro pending member
    rw [← isReports] at member
    obtain ⟨ssrc, -, isPending⟩ := List.mem_filterMap.mp member
    exact arises_of_pendingReport isPending
  have length := length_pendingReports isReports.symm iteration
  have long := le_length_pendingReports arise nonempty
  have eight : rtcpHeaderLen = 8 := rfl
  have distinct : order.Nodup :=
    iteration.nodup_iff.mpr endpoint.stateByIncomingSsrc.keys_nodup
  obtain ⟨bytes, sameKeys, sameIndex⟩ := bytes_writeReports distinct wrote
  have isWritten : blocks.flatMap Prod.snd =
      reports.flatMap PendingReport.bytes := by
    rw [List.flatMap_def, bytes, isReports, ← List.flatMap_def]
  -- the buffer has been sized exactly
  have behind : List.replicate (Table.total expectedReportSize
      endpoint.stateByIncomingSsrc + srtpAuthTagLen + srtcpFooterLen + 0 -
        (reports.flatMap PendingReport.bytes).length) (0 : UInt8) =
      ControlPacket.tagAndFooter := by
    unfold ControlPacket.tagAndFooter
    congr 1
    omega
  have named := @senderSsrc_of_reports blocks
    (Table.total expectedReportSize endpoint.stateByIncomingSsrc +
      srtpAuthTagLen + srtcpFooterLen + 0)
    (@sends_writeReports profile aead _ _ now order blocks wrote).2
  rw [isWritten, behind] at named
  obtain ⟨serialized, encrypted, parsed⟩ :=
    @ControlPacket.parseAndDecryptInPlace_encrypt aead endpoint.encrypt.rtcp
      _ _ _ total long named small
  have incremented : profile.addU32 endpoint.nextOutgoingSrtcpIndex 1 =
      .ok (endpoint.nextOutgoingSrtcpIndex + 1) := by
    have noOverflow : ¬ 2 ^ 32 ≤
        endpoint.nextOutgoingSrtcpIndex.toNat + (1 : UInt32).toNat := by
      rw [UInt32.toNat_one]
      omega
    exact if_neg fun overflows => noOverflow overflows.2
  refine ⟨written.setIndex (endpoint.nextOutgoingSrtcpIndex + 1), serialized,
    ?_, parsed.trans (run_pendingReports arise ControlPacket.empty)⟩
  unfold sendRtcpReport createBufferForRtcpReports
  dsimp only
  rw [if_neg (by omega)]
  dsimp only
  rw [wrote, ok_bind]
  dsimp only
  rw [isWritten, behind]
  unfold encryptRtcpPacketAndIncrementIndex
  rw [sameKeys, sameIndex, encrypted, ok_bind]
  dsimp only
  rw [incremented, ok_bind]
  rfl

end Send

/-- Only the product for a fraction of lost packets can overflow. -/
theorem exists_writeReports (distinct : order.Nodup)
    (fits : profile = .debug → ∀ ssrc ∈ order, ∀ state,
      endpoint.stateByIncomingSsrc.lookup ssrc = some state →
      state.rtcpReportSender.LossFits) :
    ∃ result, writeReports profile now order endpoint = .ok result := by
  induction order generalizing endpoint with
  | nil => exact ⟨_, rfl⟩
  | cons ssrc order ih =>
      obtain ⟨notLater, distinctRest⟩ := List.nodup_cons.mp distinct
      unfold writeReports
      cases found : endpoint.stateByIncomingSsrc.lookup ssrc with
      | none =>
          exact ih distinctRest fun isDebug other member =>
            fits isDebug other (List.mem_cons_of_mem _ member)
      | some state =>
          obtain ⟨outcome, isOutcome⟩ :=
            @RtcpReportSender.exists_writeReportBlock profile
              state.rtcpReportSender (endpoint.senderReportHistory ssrc now)
              ssrc now fun isDebug =>
                fits isDebug ssrc List.mem_cons_self state found
          dsimp only
          rw [isOutcome, ok_bind]
          cases outcome with
          | none =>
              exact ih distinctRest fun isDebug other member =>
                fits isDebug other (List.mem_cons_of_mem _ member)
          | some block =>
              obtain ⟨rest, isRest⟩ :=
                @ih (endpoint.setReport ssrc state block) distinctRest (by
                  intro isDebug other member later isLater
                  have different : other ≠ ssrc := by
                    rintro rfl
                    exact notLater member
                  unfold setReport setState at isLater
                  dsimp only at isLater
                  rw [AList.lookup_insert_ne different] at isLater
                  exact fits isDebug other (List.mem_cons_of_mem _ member)
                    later isLater)
              dsimp only
              rw [isRest]
              exact ⟨_, rfl⟩

end ControlEndpoint

end CallingService.Backend.Rtp
