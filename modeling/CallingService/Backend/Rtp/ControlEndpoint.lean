import CallingService.Backend.Rtp.Endpoint
import CallingService.Backend.Rtp.ReportWriting
import CallingService.Backend.Tcc.Feedback

/-!
# Sending control packets

Acknowledgements, requests for missing packets and key frames, and reports.
They all draw from one index, which moves on only when a packet has been
encrypted.
-/

namespace CallingService.Backend.Rtp

open Foundation

/-- The endpoint with what only its control packets need.  The history belongs
to the statistics of the same SSRC. -/
structure ControlEndpoint extends Endpoint where
  rtcpSenderSsrc : Ssrc
  nextOutgoingSrtcpIndex : UInt32
  senderReportHistoryBySsrc : Table Ssrc SenderReportHistory

/-- `send_rtcp_and_increment_index`, with the next index. -/
def sendRtcpAndIncrementIndex (profile : BuildProfile) (aead : Aead)
    (pt countOrFormat : UInt8) (isPadded : Bool) (senderSsrc : Ssrc)
    (payload : Bytes) (nextIndex : UInt32) (keys : KeyAndSalt) :
    Except Panic (UInt32 × Option Bytes) := do
  let serialized ← ControlPacket.serializeAndEncrypt aead pt countOrFormat
    isPadded senderSsrc payload nextIndex keys
  match serialized with
  | none => return (nextIndex, none)
  | some packet =>
      let incremented ← profile.addU32 nextIndex 1
      return (incremented, some packet)

namespace ControlEndpoint

def new (decrypt encrypt : KeysAndSalts) (now : Instant)
    (rtcpSenderSsrc ackSenderSsrc : Ssrc) : ControlEndpoint where
  toEndpoint := .new decrypt encrypt now ackSenderSsrc
  rtcpSenderSsrc := rtcpSenderSsrc
  nextOutgoingSrtcpIndex := 1
  senderReportHistoryBySsrc := ∅

def setIndex (endpoint : ControlEndpoint) (index : UInt32) :
    ControlEndpoint :=
  { endpoint with nextOutgoingSrtcpIndex := index }

def setState (endpoint : ControlEndpoint) (ssrc : Ssrc)
    (state : IncomingSsrcState) : ControlEndpoint :=
  { endpoint with
    stateByIncomingSsrc := endpoint.stateByIncomingSsrc.insert ssrc state }

/-! ## Acknowledgements -/

/-- The packets of the first payloads that the writer is asked for. -/
def sendAckPackets (profile : BuildProfile) (aead : Aead)
    (rtcpSenderSsrc : Ssrc) (keys : KeyAndSalt) :
    Nat → Tcc.FeedbackWriter → UInt32 →
      Except Panic (Tcc.FeedbackWriter × UInt32 × List Bytes)
  | 0, writer, index => .ok (writer, index, [])
  | asked + 1, writer, index => do
      let written ← writer.next profile
      match written with
      | none => return (writer, index, [])
      | some (payload, after) =>
          let sent ← sendRtcpAndIncrementIndex profile aead
            rtcpTypeGenericFeedback rtcpFormatTransportCc false rtcpSenderSsrc
            payload index keys
          let rest ← sendAckPackets profile aead rtcpSenderSsrc keys asked
            after sent.1
          return (rest.1, rest.2.1, sent.2.toList ++ rest.2.2)

/-- The caller decides how many payloads it asks the lazy iterator for. -/
def sendAcks (profile : BuildProfile) (aead : Aead)
    (endpoint : ControlEndpoint) (asked : Nat) :
    Except Panic (ControlEndpoint × List Bytes) := do
  let (writer, receiver) := endpoint.tccReceiver.sendAcks
  let sent ← sendAckPackets profile aead endpoint.rtcpSenderSsrc
    endpoint.encrypt.rtcp asked writer endpoint.nextOutgoingSrtcpIndex
  return ({ endpoint with
      tccReceiver :=
        { receiver with nextFeedbackSeqnum := sent.1.nextFeedbackSeqnum }
      nextOutgoingSrtcpIndex := sent.2.1 }, sent.2.2)

/-! ## Requests for missing packets -/

/-- The request for the missing packets of one SSRC, if there are any. -/
def sendNack (profile : BuildProfile) (aead : Aead)
    (endpoint : ControlEndpoint) (ssrc : Ssrc)
    (seqnums : Option (List FullSequenceNumber)) :
    Except Panic (ControlEndpoint × Option Bytes) :=
  match seqnums with
  | none => .ok (endpoint, none)
  | some missing => do
      let sent ← sendRtcpAndIncrementIndex profile aead
        rtcpTypeGenericFeedback rtcpFormatNack false endpoint.rtcpSenderSsrc
        (writeNack ssrc missing) endpoint.nextOutgoingSrtcpIndex
        endpoint.encrypt.rtcp
      return (endpoint.setIndex sent.1, sent.2)

/-- The lazy iterator goes through the SSRCs in the order of the hash map, for
as long as the caller asks it to. -/
def sendNacks (profile : BuildProfile) (aead : Aead) (now : Instant)
    (rtt : Duration) :
    List Ssrc → ControlEndpoint →
      Except Panic (ControlEndpoint × List Bytes)
  | [], endpoint => .ok (endpoint, [])
  | ssrc :: visited, endpoint =>
      match endpoint.stateByIncomingSsrc.lookup ssrc with
      | none => sendNacks profile aead now rtt visited endpoint
      | some state => do
          let (nackSender, seqnums) ← state.nackSender.sendNacks now rtt
          let marked := endpoint.setState ssrc { state with nackSender }
          let sent ← marked.sendNack profile aead ssrc seqnums
          let rest ← sendNacks profile aead now rtt visited sent.1
          return (rest.1, sent.2.toList ++ rest.2)

/-! ## Requests for key frames -/

def sendRtcp (profile : BuildProfile) (aead : Aead)
    (endpoint : ControlEndpoint) (pt countOrFormat : UInt8) (isPadded : Bool)
    (payload : Bytes) : Except Panic (ControlEndpoint × Option Bytes) := do
  let sent ← sendRtcpAndIncrementIndex profile aead pt countOrFormat isPadded
    endpoint.rtcpSenderSsrc payload endpoint.nextOutgoingSrtcpIndex
    endpoint.encrypt.rtcp
  return (endpoint.setIndex sent.1, sent.2)

def sendPli (profile : BuildProfile) (aead : Aead)
    (endpoint : ControlEndpoint) (pliSsrc : Ssrc) :
    Except Panic (ControlEndpoint × Option Bytes) :=
  endpoint.sendRtcp profile aead rtcpTypeSpecificFeedback rtcpFormatPli false
    (toBigEndian 4 pliSsrc.toNat)

/-! ## Reports -/

/-- The bytes that the next report of one SSRC takes. -/
def expectedReportSize (state : IncomingSsrcState) : Nat :=
  match state.rtcpReportSender.rtcpReportPayloadType with
  | none => 0
  | some payloadType =>
      if payloadType = rtcpTypeSenderReport then senderReportMinLength
      else if payloadType = rtcpTypeReceiverReport then
        receiverReportMinLength + reportBlockLength
      else 0

/-- The capacity that `create_buffer_for_rtcp_reports` asks for. -/
def createBufferForRtcpReports (endpoint : ControlEndpoint) : Option Nat :=
  let expected := Table.total expectedReportSize endpoint.stateByIncomingSsrc
  if expected = 0 then none
  else some (expected + srtpAuthTagLen + srtcpFooterLen)

def senderReportHistory (endpoint : ControlEndpoint) (ssrc : Ssrc)
    (now : Instant) : SenderReportHistory :=
  (endpoint.senderReportHistoryBySsrc.lookup ssrc).getD (.new now)

/-- What the block of one SSRC has changed. -/
def setReport (endpoint : ControlEndpoint) (ssrc : Ssrc)
    (state : IncomingSsrcState) (written : RtcpReportSender.WrittenBlock) :
    ControlEndpoint :=
  { endpoint.setState ssrc { state with rtcpReportSender := written.report }
    with
    senderReportHistoryBySsrc :=
      endpoint.senderReportHistoryBySsrc.insert ssrc written.history }

/-- The blocks of all SSRCs, in the order of the hash map. -/
def writeReports (profile : BuildProfile) (now : Instant) :
    List Ssrc → ControlEndpoint →
      Except Panic (ControlEndpoint × List (Ssrc × Bytes))
  | [], endpoint => .ok (endpoint, [])
  | ssrc :: order, endpoint =>
      match endpoint.stateByIncomingSsrc.lookup ssrc with
      | none => writeReports profile now order endpoint
      | some state => do
          let written ← state.rtcpReportSender.writeReportBlock profile
            (endpoint.senderReportHistory ssrc now) ssrc now
          match written with
          | none => writeReports profile now order endpoint
          | some block =>
              let rest ← writeReports profile now order
                (endpoint.setReport ssrc state block)
              return (rest.1, (ssrc, block.bytes) :: rest.2)

/-- `encrypt_rtcp_packet_and_increment_index`. -/
def encryptRtcpPacketAndIncrementIndex (profile : BuildProfile) (aead : Aead)
    (endpoint : ControlEndpoint) (senderSsrc : Ssrc) (packet : Bytes) :
    Except Panic (ControlEndpoint × Option Bytes) := do
  let encrypted ← ControlPacket.encrypt aead packet senderSsrc
    endpoint.nextOutgoingSrtcpIndex endpoint.encrypt.rtcp
  match encrypted with
  | none => return (endpoint, none)
  | some serialized =>
      let incremented ← profile.addU32 endpoint.nextOutgoingSrtcpIndex 1
      return (endpoint.setIndex incremented, some serialized)

/-- The buffer is filled up to its capacity, which is the requested one and
what the allocator adds to it. -/
def sendRtcpReport (profile : BuildProfile) (aead : Aead)
    (endpoint : ControlEndpoint) (order : List Ssrc) (spare : Nat)
    (now : Instant) : Except Panic (ControlEndpoint × Option Bytes) :=
  match endpoint.createBufferForRtcpReports with
  | none => .ok (endpoint, none)
  | some requested => do
      let written ← writeReports profile now order endpoint
      let firstSsrc := (written.2.head?.map Prod.fst).getD 0
      let reports := written.2.flatMap Prod.snd
      written.1.encryptRtcpPacketAndIncrementIndex profile aead firstSsrc
        (reports ++
          List.replicate (requested + spare - reports.length) 0)

end ControlEndpoint

end CallingService.Backend.Rtp
