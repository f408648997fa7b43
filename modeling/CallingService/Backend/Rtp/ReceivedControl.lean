import CallingService.Backend.Rtp.ControlParser
import CallingService.Backend.Rtp.SrtcpIndices

/-!
# Receiving control packets

Feedback goes to the transport-cc sender, sender reports to the statistics of
their SSRC, and the blocks of receiver reports to the round trip times of the
SSRCs that they are about.  The numbers of media packets stay as they are.
-/

namespace CallingService.Backend.Rtp

open Foundation

def rttEstimateAgeLimit : Duration := fromSecs 11

/-- The part of the statistics of one SSRC that only the blocks of receiver
reports read or write. -/
structure RoundTrip where
  lastReceiverReportReceivedTime : Instant
  rttEstimate : Option Duration
  rttEstimateLastUpdated : Option Instant

def RoundTrip.new (now : Instant) : RoundTrip where
  lastReceiverReportReceivedTime := now
  rttEstimate := none
  rttEstimateLastUpdated := none

/-- `weight * old + (1 - weight) * new`, computed on `f64` seconds.  The
weight is the first argument as a part of the age limit. -/
abbrev Smoothing := Duration → Duration → Duration → Duration

/-- `update_rtt_estimate`. -/
def RoundTrip.updateRttEstimate (smooth : Smoothing) (trip : RoundTrip)
    (newRttEstimate : Duration) (now : Instant) : RoundTrip :=
  let estimate := match trip.rttEstimate with
    | some oldRttEstimate =>
        let estimateAge := now - trip.lastReceiverReportReceivedTime
        smooth (rttEstimateAgeLimit - estimateAge) oldRttEstimate
          newRttEstimate
    | none => newRttEstimate
  { trip with
    rttEstimate := some estimate
    rttEstimateLastUpdated := some now }

def dlsrToDuration (delaySinceSr : UInt32) : Duration :=
  delaySinceSr.toNat * 15259

namespace SenderReportHistory

/-- Older sender reports are ignored. -/
def rememberReceivedSenderReport (history : SenderReportHistory)
    (senderReport : SenderReport) (receiveTime : Instant) :
    SenderReportHistory :=
  if history.lastReceivedSenderInfo.any fun info =>
      senderReport.senderInfo.ntpTs ≤ info.ntpTs then history
  else { history with
    lastSenderReportReceivedTime := receiveTime
    lastReceivedSenderInfo := some senderReport.senderInfo }

/-- A block counts if it answers the last sender report, and not before an
answer that has been received already. -/
def Counts (history : SenderReportHistory) (block : ReportBlock) : Prop :=
  ¬ (block.delayLastSenderReport = 0 ∨ block.lastSenderReport = 0) ∧
    block.lastSenderReport.toNat =
      getLsr history.lastSenderReportSentTimeNtp ∧
    history.lastReceiverReportDlsr ≤ block.delayLastSenderReport.toNat

instance (history : SenderReportHistory) (block : ReportBlock) :
    Decidable (history.Counts block) :=
  inferInstanceAs (Decidable (_ ∧ _ ∧ _))

/-- The time since the sender report, without the delay at the receiver. -/
def newRttEstimate (history : SenderReportHistory) (block : ReportBlock)
    (now : Instant) : Duration :=
  now - history.lastSenderReportSentTime -
    dlsrToDuration block.delayLastSenderReport

end SenderReportHistory

/-- `remember_report_block`. -/
def rememberReportBlock (smooth : Smoothing) (history : SenderReportHistory)
    (trip : RoundTrip) (block : ReportBlock) (now : Instant) :
    SenderReportHistory × RoundTrip :=
  if history.Counts block then
    ({ history with
        lastReceiverReportDlsr := block.delayLastSenderReport.toNat },
      { trip.updateRttEstimate smooth (history.newRttEstimate block now) now
        with lastReceiverReportReceivedTime := now })
  else (history, trip)

structure ProcessedControlPacket where
  keyFrameRequests : List KeyFrameRequest
  acks : List Tcc.Ack
  nacks : List Nack

/-- The endpoint with the round trip times of its streams. -/
structure ReportingEndpoint extends ControlEndpoint where
  roundTripBySsrc : Table Ssrc RoundTrip

namespace ReportingEndpoint

def new (decrypt encrypt : KeysAndSalts) (now : Instant)
    (rtcpSenderSsrc ackSenderSsrc : Ssrc) : ReportingEndpoint where
  toControlEndpoint :=
    .new decrypt encrypt now rtcpSenderSsrc ackSenderSsrc
  roundTripBySsrc := ∅

def roundTrip (endpoint : ReportingEndpoint) (ssrc : Ssrc) (now : Instant) :
    RoundTrip :=
  (endpoint.roundTripBySsrc.lookup ssrc).getD (.new now)

/-- The loop over sender reports creates the state of their SSRCs. -/
def rememberSenderReport (now : Instant) (endpoint : ReportingEndpoint)
    (senderReport : SenderReport) : ReportingEndpoint :=
  let ssrc := senderReport.ssrc
  let history := endpoint.senderReportHistory ssrc now
  { endpoint with
    stateByIncomingSsrc := endpoint.stateByIncomingSsrc.insert ssrc
      (endpoint.incomingSsrcState ssrc now)
    senderReportHistoryBySsrc := endpoint.senderReportHistoryBySsrc.insert
      ssrc (history.rememberReceivedSenderReport senderReport now) }

/-- A block about an unknown SSRC is ignored. -/
def rememberBlock (smooth : Smoothing) (now : Instant)
    (endpoint : ReportingEndpoint) (block : ReportBlock) :
    ReportingEndpoint :=
  if block.ssrc ∈ endpoint.stateByIncomingSsrc then
    let remembered := rememberReportBlock smooth
      (endpoint.senderReportHistory block.ssrc now)
      (endpoint.roundTrip block.ssrc now) block now
    { endpoint with
      senderReportHistoryBySsrc :=
        endpoint.senderReportHistoryBySsrc.insert block.ssrc remembered.1
      roundTripBySsrc :=
        endpoint.roundTripBySsrc.insert block.ssrc remembered.2 }
  else endpoint

/-- The loop of `remember_receiver_reports`. -/
def rememberReceiverReport (smooth : Smoothing) (now : Instant)
    (endpoint : ReportingEndpoint) (report : ReceiverReport) :
    ReportingEndpoint :=
  if report.ssrc ∈ endpoint.stateByIncomingSsrc then
    report.reportBlocks.foldl (rememberBlock smooth now) endpoint
  else endpoint

def receiveRtcp (profile : BuildProfile) (aead : Aead) (smooth : Smoothing)
    (endpoint : ReportingEndpoint) (encrypted : Bytes) (now : Instant) :
    Except Panic (ReportingEndpoint × Option ProcessedControlPacket) := do
  let parsed ← ControlPacket.parseAndDecryptInPlace aead encrypted
    endpoint.decrypt.rtcp
  match parsed with
  | none => return (endpoint, none)
  | some incoming =>
      let (tccSender, acks) ←
        endpoint.tccSender.processFeedbackAndCorrelateAcks profile now
          incoming.tccFeedbacks
      let acknowledged := { endpoint with tccSender }
      let reported := incoming.senderReports.foldl (rememberSenderReport now)
        acknowledged
      let answered := incoming.receiverReports.foldl
        (rememberReceiverReport smooth now) reported
      return (answered, some {
        keyFrameRequests := incoming.keyFrameRequests
        acks
        nacks := incoming.nacks })

end ReportingEndpoint

end CallingService.Backend.Rtp
