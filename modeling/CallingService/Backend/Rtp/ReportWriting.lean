import CallingService.Backend.Rtp.ControlPacket
import CallingService.Backend.Rtp.RtcpReport

/-!
# Writing reports

The block of one SSRC in a compound packet: a sender report if packets have
been sent since the last one, else a receiver report.
-/

namespace CallingService.Backend.Rtp

open Foundation

structure RtcpHeader where
  hasPadding : Bool
  countOrFormat : UInt8
  payloadType : UInt8
  lengthInWords : UInt16

def RtcpHeader.write (header : RtcpHeader) : Bytes :=
  [version <<< 6 ||| isPaddedMask header.hasPadding ||| header.countOrFormat,
    header.payloadType] ++ toBigEndian 2 header.lengthInWords.toNat

def rtcpHeaderLength : Nat := 4

theorem RtcpHeader.length_write (header : RtcpHeader) :
    header.write.length = rtcpHeaderLength := by
  unfold RtcpHeader.write rtcpHeaderLength
  simp

def reportBlockLength : Nat := 24

def rtcpReceiverReportBlockLen : Nat := 28

def receiverReportMinLength : Nat := rtcpHeaderLength + 4

/-- The NTP timestamp is a 64-bit value. -/
structure SenderInfo where
  ssrc : Ssrc
  ntpTs : Nat
  rtpTs : TruncatedTimestamp
  packetCount : UInt32
  octetCount : UInt32

def SenderInfo.length : Nat := 24

def SenderInfo.write (info : SenderInfo) : Bytes :=
  toBigEndian 4 info.ssrc.toNat ++ (toBigEndian 8 info.ntpTs ++
    (toBigEndian 4 info.rtpTs.toNat ++
      (toBigEndian 4 info.packetCount.toNat ++
        toBigEndian 4 info.octetCount.toNat)))

def senderReportMinLength : Nat := rtcpHeaderLength + SenderInfo.length

/-- The part of the statistics of one SSRC that only sender reports, in either
direction, read or write. -/
structure SenderReportHistory where
  lastReceivedSenderInfo : Option SenderInfo
  lastSenderReportReceivedTime : Instant
  lastSenderReportSentTime : Instant
  lastSenderReportSentTimeNtp : Nat
  lastReceiverReportDlsr : Nat

def SenderReportHistory.new (now : Instant) : SenderReportHistory where
  lastReceivedSenderInfo := none
  lastSenderReportReceivedTime := now
  lastSenderReportSentTime := now
  lastSenderReportSentTimeNtp := 0
  lastReceiverReportDlsr := 0

/-- The middle 32 bits of an NTP timestamp. -/
def getLsr (lastNtpTimestamp : Nat) : Nat :=
  (lastNtpTimestamp &&& 0x0000FFFFFFFF0000) >>> 16

/-- In units of about 1/2^16 seconds; zero once it does not fit. -/
def calculateDlsr (senderReportReceivedTime now : Instant) : Nat :=
  let delay := (now - senderReportReceivedTime) / 15259
  if delay < 2 ^ 32 then delay else 0

/-- `256 * lost / expected`, cut to eight bits. -/
def fractionLost (profile : BuildProfile) (lost expected : Nat) :
    Except Panic UInt8 :=
  if expected = 0 then .ok 0
  else if profile = .debug ∧ 2 ^ 32 ≤ 256 * lost then .error .overflow
  else .ok (256 * lost % 2 ^ 32 / expected).toUInt8

namespace RtcpReportSender

def rtcpReportPayloadType (report : RtcpReportSender) : Option UInt8 :=
  if report.sentSinceLastReport then some rtcpTypeSenderReport
  else if report.maxSeqnum.isSome && report.maxSeqnumInLast.isSome then
    some rtcpTypeReceiverReport
  else none

def writeReceiverReportBlock (profile : BuildProfile)
    (report : RtcpReportSender) (history : SenderReportHistory) (ssrc : Ssrc)
    (now : Instant) : Except Panic (RtcpReportSender × Bytes) :=
  match report.maxSeqnum, report.maxSeqnumInLast with
  | some maxSeqnum, some maxSeqnumInLast => do
      let expectedSinceLast := maxSeqnum - maxSeqnumInLast
      let lostSinceLast := report.cumulativeLoss - report.cumulativeLossInLast
      let fractionLostSinceLast ←
        fractionLost profile lostSinceLast expectedSinceLast
      let written := { report with
        maxSeqnumInLast := report.maxSeqnum
        cumulativeLossInLast := report.cumulativeLoss }
      let (lastSenderReportTimestamp, delaySinceLastSenderReport) :=
        match history.lastReceivedSenderInfo with
        | none => (0, 0)
        | some info => (getLsr info.ntpTs,
            calculateDlsr history.lastSenderReportReceivedTime now)
      return (written,
        toBigEndian 4 ssrc.toNat ++ (toBigEndian 4 ssrc.toNat ++
          ([fractionLostSinceLast] ++
            (toBigEndian 3 (min report.cumulativeLoss (2 ^ 23 - 1)) ++
              (toBigEndian 4 maxSeqnum ++
                (toBigEndian 4 (report.jitterQ4 >>> 4) ++
                  (toBigEndian 4 lastSenderReportTimestamp ++
                    toBigEndian 4 delaySinceLastSenderReport)))))))
  | _, _ => .ok (report, [])

def writeSenderReportBlock (report : RtcpReportSender)
    (history : SenderReportHistory) (ssrc : Ssrc) (now : Instant) :
    RtcpReportSender × SenderReportHistory × Bytes :=
  let (ntpTs, rtpTs) := match history.lastReceivedSenderInfo with
    | none => (0, report.lastSentRtpTimestamp)
    | some info => (info.ntpTs, info.rtpTs)
  ({ report with sentSinceLastReport := false },
    { history with
      lastSenderReportSentTimeNtp := ntpTs
      lastReceiverReportDlsr := 0
      lastSenderReportSentTime := now },
    SenderInfo.write {
      ssrc := ssrc
      ntpTs := ntpTs
      rtpTs := rtpTs
      packetCount := report.packetsSent
      octetCount := report.totalPayloadBytesSent })

/-- The block with its payload type and count, and the length that goes into
the header. -/
structure WrittenBlock where
  report : RtcpReportSender
  history : SenderReportHistory
  payloadType : UInt8
  blockCount : UInt8
  reportLength : Nat
  block : Bytes

def writeReportBlock (profile : BuildProfile) (report : RtcpReportSender)
    (history : SenderReportHistory) (ssrc : Ssrc) (now : Instant) :
    Except Panic (Option WrittenBlock) :=
  match report.rtcpReportPayloadType with
  | none => .ok none
  | some payloadType =>
      if payloadType = rtcpTypeSenderReport then
        let written := report.writeSenderReportBlock history ssrc now
        .ok (some {
          report := written.1
          history := written.2.1
          payloadType := rtcpTypeSenderReport
          blockCount := 0
          reportLength := SenderInfo.length
          block := written.2.2 })
      else if payloadType = rtcpTypeReceiverReport then do
        let written ←
          report.writeReceiverReportBlock profile history ssrc now
        return some {
          report := written.1
          history := history
          payloadType := rtcpTypeReceiverReport
          blockCount := 1
          reportLength := rtcpReceiverReportBlockLen
          block := written.2 }
      else .ok none

/-- A receiver report is only due when there is something to report. -/
theorem received_of_payloadType {report : RtcpReportSender}
    {payloadType : UInt8}
    (due : report.rtcpReportPayloadType = some payloadType)
    (notSender : payloadType ≠ rtcpTypeSenderReport) :
    ∃ maxSeqnum maxSeqnumInLast, report.maxSeqnum = some maxSeqnum ∧
      report.maxSeqnumInLast = some maxSeqnumInLast := by
  unfold rtcpReportPayloadType at due
  split at due
  · cases due
    exact absurd rfl notSender
  · split at due
    · rename_i received
      rw [Bool.and_eq_true] at received
      obtain ⟨maxSeqnum, isMax⟩ := Option.isSome_iff_exists.mp received.1
      obtain ⟨inLast, isInLast⟩ := Option.isSome_iff_exists.mp received.2
      exact ⟨maxSeqnum, inLast, isMax, isInLast⟩
    · cases due

namespace WrittenBlock

def header (written : WrittenBlock) : RtcpHeader where
  hasPadding := false
  countOrFormat := written.blockCount
  payloadType := written.payloadType
  lengthInWords := (written.reportLength >>> 2).toUInt16

/-- The header and the block, as they go into the compound packet. -/
def bytes (written : WrittenBlock) : Bytes :=
  written.header.write ++ written.block.take written.reportLength

end WrittenBlock

end RtcpReportSender

end CallingService.Backend.Rtp
