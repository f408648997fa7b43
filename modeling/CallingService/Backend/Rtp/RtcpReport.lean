import CallingService.Backend.Rtp.Packet

/-!
# Statistics for reports

What a receiver or sender report of one SSRC is computed from.
-/

namespace CallingService.Backend.Rtp

open Foundation

def seqnumGapThreshold : Nat := 500

def fullSeqnumGapThreshold : Nat := 500

def fullSeqnumRolloverThreshold : Nat := 150

/-- The numbers of the receiver part are 32-bit values. -/
structure RtcpReportSender where
  maxSeqnum : Option Nat
  maxSeqnumInLast : Option Nat
  cumulativeLoss : Nat
  cumulativeLossInLast : Nat
  lastReceiveTime : Instant
  lastRtpTimestamp : TruncatedTimestamp
  jitterQ4 : Nat
  sentSinceLastReport : Bool
  packetsSent : UInt32
  totalPayloadBytesSent : UInt32
  maxSentSeqnum : Option FullSequenceNumber
  lastSentTime : Instant
  lastSentRtpTimestamp : TruncatedTimestamp
  sentSampleFreq : Nat

def absDiff (left right : Nat) : Nat := (left - right) + (right - left)

def maybeReceiveStreamRestart (seqnum maxSeqnum : Nat) : Bool :=
  seqnumGapThreshold < absDiff seqnum maxSeqnum

def maybeSendStreamRestart (seqnum maxSeqnum : Nat) : Bool :=
  fullSeqnumGapThreshold < absDiff seqnum maxSeqnum

def maybeStreamRollover (seqnum maxSeqnum : Nat) : Bool :=
  seqnum < maxSeqnum ∧
    2 ^ 64 - 1 - absDiff seqnum maxSeqnum < maxSeqnum ∧
    seqnum < fullSeqnumRolloverThreshold ∧
    2 ^ 64 - 1 - maxSeqnum < fullSeqnumRolloverThreshold

namespace RtcpReportSender

def new (now : Instant) : RtcpReportSender where
  maxSeqnum := none
  maxSeqnumInLast := none
  cumulativeLoss := 0
  cumulativeLossInLast := 0
  lastReceiveTime := now
  lastRtpTimestamp := 0
  jitterQ4 := 0
  sentSinceLastReport := false
  packetsSent := 0
  totalPayloadBytesSent := 0
  maxSentSeqnum := none
  lastSentTime := now
  lastSentRtpTimestamp := 0
  sentSampleFreq := 90000

def estimateSampleFreq (payloadType : PayloadType) : Nat :=
  if payloadType = opusPayloadType then 48000 else 90000

def saturateU32 (value : Nat) : Nat := min value (2 ^ 32 - 1)

def durationToRtpDuration (duration : Duration) (sampleFreq : Nat) : Nat :=
  saturateU32 (duration / 1000000 % 2 ^ 32 * sampleFreq) / 1000

/-- The estimate is kept with four fractional bits. -/
def updateJitter (report : RtcpReportSender) (payloadType : PayloadType)
    (rtpTimestamp : TruncatedTimestamp) (receiveTime : Instant) :
    RtcpReportSender :=
  let sampleFreq := estimateSampleFreq payloadType
  let receiveDiff :=
    durationToRtpDuration (receiveTime - report.lastReceiveTime) sampleFreq
  let timestampDiff := rtpTimestamp.toNat - report.lastRtpTimestamp.toNat
  let txDiff := absDiff receiveDiff timestampDiff
  if txDiff < 10 * sampleFreq then
    let jitterDiff : Int := txDiff * 16 - report.jitterQ4
    { report with
      jitterQ4 :=
        saturateU32 (report.jitterQ4 + (jitterDiff + 8) / 16).toNat }
  else report

def rememberReceived (report : RtcpReportSender)
    (fullSeqnum : FullSequenceNumber) (payloadType : PayloadType)
    (rtpTimestamp : TruncatedTimestamp) (receiveTime : Instant) :
    RtcpReportSender :=
  let seqnum := fullSeqnum % 2 ^ 32
  match report.maxSeqnum with
  | none =>
      { report with
        maxSeqnum := some seqnum
        maxSeqnumInLast := some (seqnum - 1)
        lastReceiveTime := receiveTime
        lastRtpTimestamp := rtpTimestamp }
  | some maxSeqnum =>
      if maybeReceiveStreamRestart seqnum maxSeqnum then
        { report with
          cumulativeLoss := 0
          cumulativeLossInLast := 0
          maxSeqnum := some seqnum
          maxSeqnumInLast := some (seqnum - 1)
          lastReceiveTime := receiveTime
          lastRtpTimestamp := rtpTimestamp
          jitterQ4 := 0 }
      else if maxSeqnum < seqnum then
        let counted := { report with
          cumulativeLoss :=
            saturateU32 (report.cumulativeLoss + (seqnum - maxSeqnum - 1))
          maxSeqnum := some seqnum }
        { counted.updateJitter payloadType rtpTimestamp receiveTime with
          lastReceiveTime := receiveTime
          lastRtpTimestamp := rtpTimestamp }
      else { report with cumulativeLoss := report.cumulativeLoss - 1 }

/-- The largest number sent and its time, and whether the counts restart. -/
def noteSentSeqnum (report : RtcpReportSender) (seqnum : FullSequenceNumber)
    (timestamp : TruncatedTimestamp) (now : Instant) : RtcpReportSender :=
  let noted := { report with
    maxSentSeqnum := some seqnum
    lastSentRtpTimestamp := timestamp
    lastSentTime := now }
  match report.maxSentSeqnum with
  | none => noted
  | some maxSeqnum =>
      let restarted := maybeSendStreamRestart seqnum maxSeqnum
      let rolledover := maybeStreamRollover seqnum maxSeqnum
      let moved := if maxSeqnum < seqnum || rolledover || restarted then noted
        else report
      if restarted && !rolledover then
        { moved with packetsSent := 0, totalPayloadBytesSent := 0 }
      else moved

def rememberSent (report : RtcpReportSender) (outgoing : Packet)
    (now : Instant) : RtcpReportSender :=
  if outgoing.isRtx || outgoing.isData then report
  else
    let noted := report.noteSentSeqnum outgoing.seqnum outgoing.timestamp now
    let netBytes := outgoing.payloadSizeBytes % 2 ^ 32 -
      outgoing.paddingByteCount.toNat
    { noted with
      sentSinceLastReport := true
      packetsSent := noted.packetsSent + 1
      totalPayloadBytesSent := noted.totalPayloadBytesSent + netBytes.toUInt32
      sentSampleFreq :=
        if outgoing.isAudio || outgoing.isVideo then
          estimateSampleFreq outgoing.payloadType
        else noted.sentSampleFreq }

end RtcpReportSender

end CallingService.Backend.Rtp
