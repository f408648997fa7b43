import CallingService.Backend.Call.KeyFrames

/-!
# Messages of the server

A tick tells the clients who joined or left, who speaks, what is forwarded to
them and whose hands are raised.  Every message takes the next sequence number
of its client.
-/

namespace CallingService.Backend

open Foundation Rtp

def statsMessageInterval : Duration := fromSecs 1
def mrpSendTimeoutInterval : Duration := fromSecs 1

structure CurrentDevices where
  demuxIdsWithVideo : List UInt32
  /-- Left empty outside of tests. -/
  allDemuxIds : List UInt32
  allocatedHeights : List UInt32
deriving DecidableEq, Repr

structure SendRateStats where
  targetSendRateKbps : UInt32
  idealSendRateKbps : UInt32
  allocatedSendRateKbps : UInt32
deriving DecidableEq, Repr

structure RaisedHandsUpdate where
  demuxIds : List UInt32
  seqnums : List UInt32
  targetSeqnum : Option UInt32
deriving DecidableEq, Repr

structure SfuToDevice where
  speaker : Option UInt32
  deviceJoinedOrLeft : Bool
  currentDevices : Option CurrentDevices
  stats : Option SendRateStats
  removed : Bool
  raisedHands : Option RaisedHandsUpdate
  mrpHeader : Option MrpHeader
deriving DecidableEq, Repr

def SfuToDevice.default : SfuToDevice :=
  ⟨none, false, none, none, false, none, none⟩

/-- What sending takes from outside of the repository: the encoder of messages
and the sending half of the reliable streams. -/
structure ServerMessaging (externals : CallExternals) where
  encodeToVec : SfuToDevice → Bytes
  /-- The acknowledgement that is due, if there is one. -/
  trySendAck : externals.MrpStream → externals.MrpStream × Option MrpHeader
  /-- The messages to repeat now; each of them is due again at the second
  time. -/
  tryResend : externals.MrpStream → Instant → Instant →
    externals.MrpStream × List SfuToDevice

variable {externals : CallExternals}

/-- The next sequence number and the packet. -/
def encodeSfuToDevice (messaging : ServerMessaging externals)
    (update : SfuToDevice) (seqnum : FullSequenceNumber) :
    Except Panic (FullSequenceNumber × Packet) := do
  let next ← incrementU64 seqnum
  return (next, Packet.withEmptyTag clientServerDataPayloadType seqnum
    seqnum.toUInt32 clientServerDataSsrc none none
    (messaging.encodeToVec update))

/-- Encode one message after the other. -/
def encodeAll (messaging : ServerMessaging externals) :
    List SfuToDevice → FullSequenceNumber →
      Except Panic (FullSequenceNumber × List Packet)
  | [], seqnum => .ok (seqnum, [])
  | update :: rest, seqnum => do
      let first ← encodeSfuToDevice messaging update seqnum
      let others ← encodeAll messaging rest first.1
      return (others.1, first.2 :: others.2)

/-- Send what each addressee is to be told. -/
def sendToEach {Addressee : Type} (demuxIdOf : Addressee → DemuxId)
    (send : Addressee → Except Panic (Addressee × List Packet)) :
    List Addressee → Except Panic (List Addressee × List RtpToSend)
  | [] => .ok ([], [])
  | addressee :: rest => do
      let sent ← send addressee
      let others ← sendToEach demuxIdOf send rest
      return (sent.1 :: others.1,
        sent.2.map (demuxIdOf addressee, ·) ++ others.2)

namespace NonParticipantClient

def setNextSeqnum (client : NonParticipantClient)
    (seqnum : FullSequenceNumber) : NonParticipantClient :=
  { client with nextServerToClientDataRtpSeqnum := seqnum }

def send (messaging : ServerMessaging externals) (update : SfuToDevice)
    (client : NonParticipantClient) :
    Except Panic (NonParticipantClient × List Packet) := do
  let encoded ← encodeSfuToDevice messaging update
    client.nextServerToClientDataRtpSeqnum
  return (client.setNextSeqnum encoded.1, [encoded.2])

end NonParticipantClient

namespace Client

def setNextSeqnum (client : Client externals) (seqnum : FullSequenceNumber) :
    Client externals :=
  { client with nextServerToClientDataRtpSeqnum := seqnum }

def send (messaging : ServerMessaging externals)
    (update : Client externals → SfuToDevice) (client : Client externals) :
    Except Panic (Client externals × List Packet) := do
  let encoded ← encodeSfuToDevice messaging (update client)
    client.nextServerToClientDataRtpSeqnum
  return (client.setNextSeqnum encoded.1, [encoded.2])

/-- A stream counts as forwarded while its key frame is still missing, so that
no empty box is drawn. -/
def currentDevices (client : Client externals) : CurrentDevices :=
  let shown := client.videoForwarderBySenderDemuxId.entries.filter fun entry =>
    entry.2.forwardingSsrc.isSome || entry.2.needsKeyFrame.isSome
  { demuxIdsWithVideo := shown.map (·.1.raw)
    allDemuxIds := []
    allocatedHeights := shown.map fun entry =>
      ((client.allocatedHeightBySenderDemuxId.lookup entry.1).getD
        0).toUInt32 }

def sendRateStats (client : Client externals) : SendRateStats where
  targetSendRateKbps := (client.targetSendRate / 1000).toUInt32
  idealSendRateKbps := (client.idealSendRate / 1000).toUInt32
  allocatedSendRateKbps := (client.allocatedSendRate / 1000).toUInt32

/-- Acknowledge and repeat what is due on the reliable stream. -/
def sendMrpUpdates (messaging : ServerMessaging externals) (now : Instant)
    (client : Client externals) :
    Except Panic (Client externals × List Packet) := do
  let acked := messaging.trySendAck client.reliableMrpStream
  let ack := acked.2.toList.map fun header =>
    { SfuToDevice.default with mrpHeader := some header }
  let resent := messaging.tryResend acked.1 now (now + mrpSendTimeoutInterval)
  let encoded ← encodeAll messaging (ack ++ resent.2)
    client.nextServerToClientDataRtpSeqnum
  return ({ client with
      reliableMrpStream := resent.1
      nextServerToClientDataRtpSeqnum := encoded.1 }, encoded.2)

end Client

namespace Call

/-- Clients that join or leave, a new active speaker or the time that passed
make the speaker part of an update. -/
def speakerIsDue (call : Call externals)
    (clientWasAddedOrRemoved activeSpeakerJustChanged : Bool)
    (now : Instant) : Bool :=
  activeSpeakerJustChanged || clientWasAddedOrRemoved ||
    call.activeSpeakerUpdateSent + call.activeSpeakerMessageInterval ≤ now

/-- The part of the update that is the same for all participants. -/
def participantsUpdate (call : Call externals)
    (clientWasAddedOrRemoved activeSpeakerJustChanged : Bool)
    (now : Instant) : SfuToDevice :=
  { SfuToDevice.default with
    deviceJoinedOrLeft := clientWasAddedOrRemoved
    speaker :=
      if call.speakerIsDue clientWasAddedOrRemoved activeSpeakerJustChanged
          now then call.activeSpeakerId.map (·.raw)
      else none }

def participantUpdate (common : SfuToDevice) (sendStats : Bool)
    (client : Client externals) : SfuToDevice :=
  { common with
    currentDevices := some client.currentDevices
    stats := if sendStats then some client.sendRateStats else none }

def sendUpdateProtoToParticipatingClients
    (messaging : ServerMessaging externals) (call : Call externals)
    (clientWasAddedOrRemoved activeSpeakerJustChanged : Bool)
    (now : Instant) : Except Panic (List RtpToSend × Call externals) :=
  let common := call.participantsUpdate clientWasAddedOrRemoved
    activeSpeakerJustChanged now
  let announced := { call with
    activeSpeakerUpdateSent :=
      if call.speakerIsDue clientWasAddedOrRemoved activeSpeakerJustChanged
          now then now
      else call.activeSpeakerUpdateSent }
  let sendStats := decide (call.statsUpdateSent + statsMessageInterval ≤ now)
  if common.deviceJoinedOrLeft || common.speaker.isSome || sendStats then do
    let sent ← sendToEach Client.demuxId
      (Client.send messaging (participantUpdate common sendStats)) call.clients
    return (sent.2, { announced with
      clients := sent.1
      statsUpdateSent := if sendStats then now else call.statsUpdateSent })
  else .ok ([], announced)

def sendUpdateProtoToPendingClients (messaging : ServerMessaging externals)
    (call : Call externals) (clientWasAddedOrRemoved : Bool) :
    Except Panic (List RtpToSend × Call externals) :=
  if clientWasAddedOrRemoved then do
    let sent ← sendToEach NonParticipantClient.demuxId
      (NonParticipantClient.send messaging
        { SfuToDevice.default with deviceJoinedOrLeft := true })
      call.pendingClients
    return (sent.2, { call with pendingClients := sent.1 })
  else .ok ([], call)

def sendUpdateProtoToRemovedClients (messaging : ServerMessaging externals)
    (call : Call externals) (now : Instant) :
    Except Panic (List RtpToSend × Call externals) :=
  if call.removedClients = [] ∨
      now < call.removedClientsUpdateSent + removedClientsUpdateInterval then
    .ok ([], call)
  else do
    let sent ← sendToEach NonParticipantClient.demuxId
      (NonParticipantClient.send messaging
        { SfuToDevice.default with removed := true })
      call.removedClients
    return (sent.2, { call with
      removedClients := sent.1
      removedClientsUpdateSent := now })

/-- The raised hands, with the latest number that the client itself sent. -/
def raisedHandsUpdate (call : Call externals) (hands : List RaisedHand)
    (client : Client externals) : SfuToDevice :=
  let raised := hands.filter (·.raise)
  let seqnumOf := fun demuxId : DemuxId =>
    (call.raisedHandsSeqnums.lookup demuxId).getD 0
  { SfuToDevice.default with
    raisedHands := some {
      demuxIds := raised.map (·.demuxId.raw)
      seqnums := raised.map fun hand => seqnumOf hand.demuxId
      targetSeqnum := some (seqnumOf client.demuxId) } }

def sendRaisedHandsProtoToClients (messaging : ServerMessaging externals)
    (call : Call externals) (now : Instant) :
    Except Panic (List RtpToSend × Call externals) :=
  if call.raisedHandsSent + raisedHandsMessageInterval ≤ now then
    match call.raisedHands with
    | none => .ok ([], call)
    | some hands => do
        let sent ← sendToEach Client.demuxId
          (Client.send messaging (call.raisedHandsUpdate hands)) call.clients
        return (sent.2, { call with
          clients := sent.1
          raisedHandsSent := now })
  else .ok ([], call)

def sendMrpUpdates (messaging : ServerMessaging externals)
    (call : Call externals) (now : Instant) :
    Except Panic (List RtpToSend × Call externals) := do
  let sent ← sendToEach Client.demuxId (Client.sendMrpUpdates messaging now)
    call.clients
  return (sent.2, { call with clients := sent.1 })

/-! ## The tick -/

/-- Look for a new active speaker, but not too often. -/
def calculateActiveSpeakerIfItsBeenTooLong (call : Call externals)
    (now : Instant) : Option DemuxId × Call externals :=
  if call.activeSpeakerCalculated + activeSpeakerCalculationInterval <
      now then
    { call with activeSpeakerCalculated := now }.calculateActiveSpeaker now
  else (none, call)

/-- A new active speaker is asked for its higher layers at once if anybody
wants them. -/
def activeSpeakerKeyFrameRequests (call : Call externals)
    (newActiveSpeaker : Option DemuxId) :
    Except Panic (List (DemuxId × Ssrc)) :=
  match newActiveSpeaker with
  | none => .ok []
  | some speakerId => do
      let requested :=
        ((call.clients.filter (·.demuxId ≠ speakerId)).map
          (·.activeSpeakerHeight)).foldl max 0
      let speaker ← okOr (call.findClient speakerId) Panic.unwrapNone
      match (speaker.incomingVideo LayerId.baseLayerIndex).height with
      | none => return []
      | some height =>
          if height < requested then
            return [(speakerId, LayerId.video1.toSsrc speakerId),
              (speakerId, LayerId.video2.toSsrc speakerId)]
          else return []

/-- The messages of a tick, in the order in which they are sent; only the
reliable streams come later. -/
def sendUpdates (messaging : ServerMessaging externals) (call : Call externals)
    (clientWasAddedOrRemoved activeSpeakerJustChanged : Bool)
    (now : Instant) : Except Panic (List RtpToSend × Call externals) := do
  let participating ← call.sendUpdateProtoToParticipatingClients messaging
    clientWasAddedOrRemoved activeSpeakerJustChanged now
  let pending ← participating.2.sendUpdateProtoToPendingClients messaging
    clientWasAddedOrRemoved
  let removed ← pending.2.sendUpdateProtoToRemovedClients messaging now
  let hands ← removed.2.sendRaisedHandsProtoToClients messaging now
  return (participating.1 ++ pending.1 ++ removed.1 ++ hands.1, hands.2)

/-- Whether a client was added or removed since the last update. -/
def noteClientsUpdate (call : Call externals) (now : Instant) :
    Bool × Call externals :=
  if call.clientsUpdateSent < call.clientAddedOrRemoved then
    (true, { call with clientsUpdateSent := now })
  else (false, call)

/-- What a tick does before it sends anything; `tickForwarding` is the part of
it that does not concern the messages. -/
def prepareTick (call : Call externals) (now : Instant) :
    Bool × Option DemuxId × Call externals :=
  let spoken := (call.updateIncomingRates
    now).calculateActiveSpeakerIfItsBeenTooLong now
  let noted := spoken.2.noteClientsUpdate now
  (noted.1, spoken.1,
    noted.2.reallocateTargetSendRatesIfItsBeenTooLong now)

/-- What every part of `prepareTick` does, it does. -/
theorem prepareTick_rule {related : Call externals → Call externals → Prop}
    (append : ∀ {first second third}, related first second →
      related second third → related first third)
    (times : ∀ (call : Call externals) calculated sent, related call
      { call with
        activeSpeakerCalculated := calculated
        clientsUpdateSent := sent })
    (measured : ∀ call now, related call (call.updateIncomingRates now))
    (spoken : ∀ call now, related call (call.calculateActiveSpeaker now).2)
    (allocated : ∀ call receivers now,
      related call (call.allocateForReceivers receivers now))
    (call : Call externals) (now : Instant) :
    related call (call.prepareTick now).2.2 := by
  have spokenIfDue : ∀ call : Call externals, related call
      (call.calculateActiveSpeakerIfItsBeenTooLong now).2 := by
    intro call
    unfold calculateActiveSpeakerIfItsBeenTooLong
    split
    · exact append (times call now call.clientsUpdateSent) (spoken _ now)
    · exact times call call.activeSpeakerCalculated call.clientsUpdateSent
  have noted : ∀ call : Call externals,
      related call (call.noteClientsUpdate now).2 := by
    intro call
    unfold noteClientsUpdate
    split
    · exact times call call.activeSpeakerCalculated now
    · exact times call call.activeSpeakerCalculated call.clientsUpdateSent
  exact append (append (append (measured call now) (spokenIfDue _)) (noted _))
    (allocated _ _ now)

/-- The packets and the key-frame requests of a tick.  The persistence of the
approved users, which `tick` also drives, is not part of this. -/
def tick (messaging : ServerMessaging externals) (call : Call externals)
    (now : Instant) :
    Except Panic ((List RtpToSend × List (DemuxId × Ssrc)) ×
      Call externals) := do
  let prepared := call.prepareTick now
  let updated ← prepared.2.2.sendUpdates messaging prepared.1
    prepared.2.1.isSome now
  let requested := updated.2.sendKeyFrameRequestsIfItsBeenTooLong now
  let forSpeaker ← requested.2.activeSpeakerKeyFrameRequests prepared.2.1
  let streams ← requested.2.sendMrpUpdates messaging now
  return ((updated.1 ++ streams.1, requested.1 ++ forSpeaker), streams.2)

end Call

end CallingService.Backend
