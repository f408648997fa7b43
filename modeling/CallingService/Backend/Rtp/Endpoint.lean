import CallingService.Common.Counters
import CallingService.Backend.Rtp.Nack
import CallingService.Backend.Rtp.ReuseDetector
import CallingService.Backend.Rtp.RtcpReport
import CallingService.Backend.Rtp.Rtx

/-!
# The RTP endpoint

One side of an SRTP session: it expands and checks the numbers of incoming
packets, decrypts them, and numbers, remembers and encrypts outgoing ones.
-/

namespace CallingService.Backend.Rtp

open Foundation

structure IncomingSsrcState where
  maxSeqnum : FullSequenceNumber
  seqnumReuseDetector : SequenceNumberReuseDetector
  nackSender : NackSender
  rtcpReportSender : RtcpReportSender

/-- The entry that `get_incoming_ssrc_state_mut` creates. -/
def IncomingSsrcState.new (now : Instant) : IncomingSsrcState where
  maxSeqnum := 0
  seqnumReuseDetector := .default
  nackSender := .new 250
  rtcpReportSender := .new now

structure Endpoint where
  decrypt : KeysAndSalts
  encrypt : KeysAndSalts
  stateByIncomingSsrc : Table Ssrc IncomingSsrcState
  tccReceiver : Tcc.Receiver
  tccSender : Tcc.Sender
  maxReceivedTccSeqnum : FullSequenceNumber
  rtxSender : RtxSender

/-- `expand_seqnum`: the full number and the new maximum. -/
def expandSeqnum (seqnum : TruncatedSequenceNumber)
    (maxSeqnum : FullSequenceNumber) :
    FullSequenceNumber × FullSequenceNumber :=
  expandTruncatedCounter seqnum.toNat maxSeqnum 16

namespace Endpoint

def new (decrypt encrypt : KeysAndSalts) (now : Instant)
    (ackSenderSsrc : Ssrc) : Endpoint where
  decrypt := decrypt
  encrypt := encrypt
  stateByIncomingSsrc := ∅
  tccReceiver := .new ackSenderSsrc now
  tccSender := .new now
  maxReceivedTccSeqnum := 0
  rtxSender := .new packetLifetime now

/-! ## Receiving -/

def incomingSsrcState (endpoint : Endpoint) (ssrc : Ssrc) (now : Instant) :
    IncomingSsrcState :=
  (endpoint.stateByIncomingSsrc.lookup ssrc).getD (.new now)

/-- A change through `get_incoming_ssrc_state_mut`. -/
def setIncomingSsrcState (endpoint : Endpoint) (ssrc : Ssrc)
    (state : IncomingSsrcState) : Endpoint :=
  { endpoint with
    stateByIncomingSsrc := endpoint.stateByIncomingSsrc.insert ssrc state }

def setMaxReceivedTccSeqnum (endpoint : Endpoint)
    (maxSeqnum : FullSequenceNumber) : Endpoint :=
  { endpoint with maxReceivedTccSeqnum := maxSeqnum }

/-- The expanded numbers of a packet and what the detector says of it. -/
structure Arrival where
  tccSeqnum : Option FullSequenceNumber
  seqnumInHeader : FullSequenceNumber
  reuse : SequenceNumberReuse

def expandTccSeqnum (endpoint : Endpoint) (header : Header) :
    Endpoint × Option FullSequenceNumber :=
  match header.tccSeqnum with
  | none => (endpoint, none)
  | some truncated =>
      let expansion := expandSeqnum truncated endpoint.maxReceivedTccSeqnum
      (endpoint.setMaxReceivedTccSeqnum expansion.2, some expansion.1)

/-- The first part of `receive_rtp`: everything it records before it
decrypts. -/
def recordArrival (endpoint : Endpoint) (header : Header) (now : Instant) :
    Endpoint × Arrival :=
  let expanded := endpoint.expandTccSeqnum header
  let state := expanded.1.incomingSsrcState header.ssrc now
  let expansion := expandSeqnum header.seqnum state.maxSeqnum
  let detection := state.seqnumReuseDetector.rememberUsed expansion.1
  (expanded.1.setIncomingSsrcState header.ssrc { state with
      maxSeqnum := expansion.2
      seqnumReuseDetector := detection.1 },
    { tccSeqnum := expanded.2
      seqnumInHeader := expansion.1
      reuse := detection.2 })

/-- The packet as it is handed to the cipher. -/
def incomingPacket (header : Header) (arrival : Arrival) (encrypted : Bytes)
    (now : Instant) : Packet :=
  Packet.new header arrival.seqnumInHeader none false arrival.tccSeqnum true
    (some (now + packetLifetime)) 0 encrypted

def readPaddingByteCount (header : Header) (incoming : Packet) :
    Except Panic Packet :=
  if header.hasPadding then do
    let payload ← incoming.payload
    let count ← okOr payload.getLast? Panic.outOfBounds
    return { incoming with paddingByteCount := count }
  else .ok incoming

/-- Read the original number of an RTX packet.  `none` means that the packet
is dropped. -/
def unwrapRtx (endpoint : Endpoint) (header : Header) (incoming : Packet)
    (now : Instant) : Except Panic (Endpoint × Option Packet) :=
  if isRtxPayloadType header.payloadType then do
    let payload ← incoming.payload
    -- padding packets have no number in their payload
    if payload.length ≤ incoming.paddingByteCount.toNat then
      return (endpoint, some incoming)
    else match payload with
      | high :: low :: _ =>
          let ssrc := fromRtxSsrc header.ssrc
          let state := endpoint.incomingSsrcState ssrc now
          let expansion := expandSeqnum (fromBigEndian [high, low]).toUInt16
            state.maxSeqnum
          return (endpoint.setIncomingSsrcState ssrc
              { state with maxSeqnum := expansion.2 },
            some { incoming with seqnumInPayload := some expansion.1 })
      | _ => return (endpoint, none)
  else .ok (endpoint, some incoming)

def rememberReceivedForNacks (endpoint : Endpoint) (incoming : Packet)
    (now : Instant) : Endpoint :=
  if isRtxablePayloadType incoming.payloadType then
    let state := endpoint.incomingSsrcState incoming.ssrc now
    endpoint.setIncomingSsrcState incoming.ssrc { state with
      nackSender := state.nackSender.rememberReceived incoming.seqnum }
  else endpoint

def rememberReceivedForReports (endpoint : Endpoint) (incoming : Packet)
    (now : Instant) : Endpoint :=
  if isMediaPayloadType incoming.payloadType then
    let state := endpoint.incomingSsrcState incoming.ssrc now
    endpoint.setIncomingSsrcState incoming.ssrc { state with
      rtcpReportSender := state.rtcpReportSender.rememberReceived
        incoming.seqnum incoming.payloadType incoming.timestamp now }
  else endpoint

def rememberReceivedForTcc (endpoint : Endpoint) (incoming : Packet)
    (now : Instant) : Endpoint :=
  match incoming.tccSeqnum with
  | none => endpoint
  | some tccSeqnum =>
      { endpoint with
        tccReceiver := endpoint.tccReceiver.rememberReceived tccSeqnum now }

/-- The last part of `receive_rtp`, for a packet that authenticates. -/
def acceptDecrypted (endpoint : Endpoint) (header : Header)
    (decrypted : Packet) (now : Instant) :
    Except Panic (Endpoint × Option Packet) := do
  let padded ← readPaddingByteCount header decrypted
  let (unwrapped, result) ← endpoint.unwrapRtx header padded now
  match result with
  | none => return (unwrapped, none)
  | some incoming =>
      let nacked := unwrapped.rememberReceivedForNacks incoming now
      let reported := nacked.rememberReceivedForReports incoming now
      return (reported.rememberReceivedForTcc incoming now, some incoming)

/-- Decrypt and accept a packet whose number is new. -/
def acceptNew (aead : Aead) (endpoint : Endpoint) (header : Header)
    (arrival : Arrival) (encrypted : Bytes) (now : Instant) :
    Except Panic (Endpoint × Option Packet) := do
  let decrypted ← (incomingPacket header arrival encrypted now).decryptInPlace
    aead endpoint.decrypt.rtp
  match decrypted with
  | none => return (endpoint, none)
  | some packet => endpoint.acceptDecrypted header packet now

/-- The part of `receive_rtp` after the numbers have been recorded. -/
def acceptArrival (aead : Aead) (recorded : Endpoint × Arrival)
    (header : Header) (encrypted : Bytes) (now : Instant) :
    Except Panic (Endpoint × Option Packet) :=
  match recorded.2.reuse with
  | .usedBefore => .ok (recorded.1, none)
  | .tooOldToKnow _ => .ok (recorded.1, none)
  | .notUsedBefore =>
      recorded.1.acceptNew aead header recorded.2 encrypted now

def receiveRtp (aead : Aead) (endpoint : Endpoint) (encrypted : Bytes)
    (now : Instant) : Except Panic (Endpoint × Option Packet) := do
  let parsed ← Header.parse encrypted
  match parsed with
  | none => return (endpoint, none)
  | some header =>
      acceptArrival aead (endpoint.recordArrival header now) header encrypted
        now

/-! ## Sending -/

/-- The part of `send_rtp` for packets that are retransmissions already. -/
def numberIfRtx (rtxSender : RtxSender) (packet : Packet) :
    Except Panic (RtxSender × Packet) :=
  if packet.isRtx then do
    let (incremented, seqnum) ← rtxSender.incrementSeqnum packet.ssrcInHeader
    let numbered ← packet.setSeqnumInHeader seqnum
    return (incremented, numbered)
  else .ok (rtxSender, packet)

/-- The numbers that `send_rtp` writes into a packet. -/
def stampRtp (endpoint : Endpoint) (incoming : Packet) :
    Except Panic (Endpoint × Packet) := do
  let (rtxSender, numbered) ← numberIfRtx endpoint.rtxSender incoming
  let (tccSender, stamped) ←
    numbered.setTccSeqnumInHeaderIfPresent endpoint.tccSender
  return ({ endpoint with rtxSender, tccSender }, stamped)

/-- The retransmission that `resend_rtp` encrypts, if there is one. -/
def makeRtx (endpoint : Endpoint) (ssrc : Ssrc)
    (seqnum : TruncatedSequenceNumber) (now : Instant) :
    Except Panic (Endpoint × Option Packet) := do
  let (rtxSender, tccSender, rtx) ←
    endpoint.rtxSender.resendAsRtx endpoint.tccSender ssrc seqnum now
  return ({ endpoint with rtxSender, tccSender }, rtx)

/-- The padding packet that `send_padding` encrypts. -/
def makePadding (endpoint : Endpoint) (rtxSsrc : Ssrc) :
    Except Panic (Endpoint × Packet) := do
  let (tccSender, tccSeqnum) ← endpoint.tccSender.incrementSeqnum
  let (rtxSender, padding) ← endpoint.rtxSender.sendPadding rtxSsrc tccSeqnum
  return ({ endpoint with rtxSender, tccSender }, padding)

/-- A packet is remembered before it is encrypted. -/
def rememberForRtx (endpoint : Endpoint) (outgoing : Packet)
    (now : Instant) : Endpoint :=
  if isRtxablePayloadType outgoing.payloadType then
    { endpoint with
      rtxSender := endpoint.rtxSender.rememberSent outgoing now }
  else endpoint

def encryptAndSendRtp (aead : Aead) (endpoint : Endpoint) (outgoing : Packet)
    (now : Instant) : Except Panic (Endpoint × Option Packet) := do
  let encrypted ← outgoing.encryptInPlace aead endpoint.encrypt.rtp
  return (endpoint.rememberForRtx outgoing now, encrypted)

def sendRtp (aead : Aead) (endpoint : Endpoint) (incoming : Packet)
    (now : Instant) : Except Panic (Endpoint × Option Packet) := do
  let (stamped, outgoing) ← endpoint.stampRtp incoming
  stamped.encryptAndSendRtp aead outgoing now

def resendRtp (aead : Aead) (endpoint : Endpoint) (ssrc : Ssrc)
    (seqnum : TruncatedSequenceNumber) (now : Instant) :
    Except Panic (Endpoint × Option Packet) := do
  let (made, rtx) ← endpoint.makeRtx ssrc seqnum now
  match rtx with
  | none => return (made, none)
  | some outgoing => made.encryptAndSendRtp aead outgoing now

def sendPadding (aead : Aead) (endpoint : Endpoint) (rtxSsrc : Ssrc)
    (now : Instant) : Except Panic (Endpoint × Option Packet) := do
  let (made, padding) ← endpoint.makePadding rtxSsrc
  made.encryptAndSendRtp aead padding now

def markAsSent (endpoint : Endpoint) (ssrc : Ssrc)
    (seqnum : TruncatedSequenceNumber) : Endpoint :=
  { endpoint with rtxSender := endpoint.rtxSender.markAsSent ssrc seqnum }

def rememberSentForTcc (endpoint : Endpoint) (outgoing : Packet)
    (now : Instant) : Endpoint :=
  match outgoing.tccSeqnum with
  | none => endpoint
  | some tccSeqnum =>
      { endpoint with
        tccSender :=
          endpoint.tccSender.rememberSent tccSeqnum outgoing.size now }

def rememberSentForReports (endpoint : Endpoint) (outgoing : Packet)
    (now : Instant) : Endpoint :=
  if outgoing.isRtx || outgoing.isData then endpoint
  else
    let state := endpoint.incomingSsrcState outgoing.ssrc now
    endpoint.setIncomingSsrcState outgoing.ssrc { state with
      rtcpReportSender := state.rtcpReportSender.rememberSent outgoing now }

def rememberSent (endpoint : Endpoint) (outgoing : Packet) (now : Instant) :
    Endpoint :=
  (endpoint.rememberSentForTcc outgoing now).rememberSentForReports outgoing
    now

end Endpoint

end CallingService.Backend.Rtp
