import CallingService.Backend.Call.Membership

/-!
# Packets of a call

A packet from a client is a message for the server or media for the other
clients.  A message may ask for video, act on other clients if its sender is
an admin, or raise a hand; media is forwarded to every other active client.
-/

namespace CallingService.Backend

open Foundation Rtp

/-- A packet for the client with the demux id. -/
abbrev RtpToSend := DemuxId × Packet

def clientServerDataSsrc : Ssrc := 1

namespace Call

variable {externals : CallExternals}

/-! ## Messages for the server -/

def pushRaisedHand (call : Call externals) (hands : List RaisedHand)
    (sender : DemuxId) (raise : Bool) (seqnum : UInt32) (now : Instant) :
    Call externals :=
  { call with
    raisedHands := some (hands ++ [RaisedHand.mk sender raise])
    raisedHandsSeqnums :=
      call.raisedHandsSeqnums.insert sender seqnum }.sendRaisedHandsOnNextTick
        now

def handleRaiseHand (call : Call externals) (now : Instant)
    (message : RaiseHand) (sender : DemuxId) : Call externals :=
  match message.raise, message.seqnum with
  | some raise, some seqnum =>
      let hands := call.raisedHands.getD []
      let started := { call with raisedHands := some hands }
      if hands.any (·.demuxId = sender) then
        match call.raisedHandsSeqnums.lookup sender with
        | some current =>
            if current < seqnum then
              started.pushRaisedHand (hands.eraseP (·.demuxId = sender)) sender
                raise seqnum now
            else started
        | none => started
      else started.pushRaisedHand hands sender raise seqnum now
  | _, _ => call

/-- Only the hands change, with their sequence numbers and the time of their
last message. -/
theorem handleRaiseHand_frame (call : Call externals) (now : Instant)
    (message : RaiseHand) (sender : DemuxId) :
    call.handleRaiseHand now message sender =
      { call with
        raisedHands := (call.handleRaiseHand now message sender).raisedHands
        raisedHandsSeqnums :=
          (call.handleRaiseHand now message sender).raisedHandsSeqnums
        raisedHandsSent :=
          (call.handleRaiseHand now message sender).raisedHandsSent } := by
  unfold handleRaiseHand
  split
  · dsimp only
    split
    · split
      · split
        · rfl
        · rfl
      · rfl
    · rfl
  · rfl

/-- The heights that a request names; malformed entries are skipped. -/
def requestedHeights (message : VideoRequestMessage) :
    Table DemuxId VideoHeight :=
  message.requests.foldl (fun heights request =>
    match request.height, request.demuxId.bind DemuxId.tryFrom with
    | some height, some demuxId => heights.insert demuxId height.toUInt16
    | _, _ => heights) ∅

def applyVideoRequest (defaultRequestedMaxSendRate : DataRate)
    (message : VideoRequestMessage) (sender : Client externals) :
    Client externals :=
  { sender with
    requestedHeightByDemuxId := requestedHeights message
    requestedMaxSendRate := match message.maxKbps with
      | some kbps => 1000 * kbps.toNat
      | none => defaultRequestedMaxSendRate
    activeSpeakerHeight := match message.activeSpeakerHeight with
      | some height => height.toUInt16
      | none => 0
    videoRequestProto := some message }

/-- The client resends its request periodically; only a change counts. -/
def handleVideoRequest (call : Call externals) (sender : Client externals)
    (request : Option VideoRequestMessage) (now : Instant) : Call externals :=
  match request with
  | none => call
  | some message =>
      if request = sender.videoRequestProto then call
      else
        (call.modifyClient sender.demuxId
          (applyVideoRequest call.defaultRequestedMaxSendRate
            message)).allocateVideoLayers sender.demuxId sender.targetSendRate
              sender.minTargetSendRate now

/-- Apply an action to every well-formed target. -/
def forTargets (act : Call externals → DemuxId → Instant → Call externals)
    (actions : List GenericAdminAction) (call : Call externals)
    (now : Instant) : Call externals :=
  (actions.filterMap fun action =>
    action.targetDemuxId.bind DemuxId.tryFrom).foldl
      (fun changed target => act changed target now) call

def handleAdminActions (call : Call externals) (proto : DeviceToSfu)
    (now : Instant) : Call externals :=
  let approved := forTargets approvePendingClient proto.approve call now
  let denied := forTargets denyPendingClient proto.deny approved now
  let removed := forTargets forceRemoveClient proto.remove denied now
  forTargets blockClient proto.block removed now

/-- One message of an active client; `sender` is its state before. -/
def handleReadyProto (call : Call externals) (sender : Client externals)
    (proto : DeviceToSfu) (now : Instant) : Call externals :=
  let requested := call.handleVideoRequest sender proto.videoRequest now
  let acted :=
    if sender.isAdmin then requested.handleAdminActions proto now
    else requested
  match proto.raiseHand with
  | some message => acted.handleRaiseHand now message sender.demuxId
  | none => acted

/-- The sender may have been removed by one of its own messages. -/
def handleReadyProtos (senderDemuxId : DemuxId) (now : Instant) :
    List DeviceToSfu → Call externals →
      Except (CallError externals) (List RtpToSend) × Call externals
  | [], call => (.ok [], call)
  | proto :: rest, call =>
      match call.findClient senderDemuxId with
      | none => (.error (.unknownDemuxId senderDemuxId), call)
      | some sender =>
          handleReadyProtos senderDemuxId now rest
            (call.handleReadyProto sender proto now)

def setMrpStream (stream : externals.MrpStream) (client : Client externals) :
    Client externals :=
  { client with reliableMrpStream := stream }

/-- Leaving is allowed for clients that are not active, too. -/
def handleDeviceToSfu (call : Call externals) (proto : DeviceToSfu)
    (senderDemuxId : DemuxId) (now : Instant) :
    Except (CallError externals) (List RtpToSend) × Call externals :=
  if proto.leave then
    (.error .leave, call.dropClient senderDemuxId now)
  else
    match call.findClient senderDemuxId with
    | none => (.error (.unknownDemuxId senderDemuxId), call)
    | some sender =>
        match proto.mrpHeader with
        | none => handleReadyProtos senderDemuxId now [proto] call
        | some header =>
            let received :=
              externals.mrpReceive sender.reliableMrpStream header proto
            let updated :=
              call.modifyClient senderDemuxId (setMrpStream received.1)
            match received.2 with
            | .error cause => (.error (.invalidMrpHeader cause), updated)
            | .ok readyProtos =>
                handleReadyProtos senderDemuxId now readyProtos updated

/-! ## Media -/

/-- Forward one packet to one receiver; silence is not forwarded. -/
def forwardMedia (layer : LayerId) (incomingRtp : Packet)
    (incomingVp8 : Option VideoHeader) (receiver : Client externals) :
    Except Panic (Client externals × Option Packet) :=
  match layer with
  | .audio =>
      if incomingRtp.audioLevel = some 0 then .ok (receiver, none)
      else receiver.forwardAudioRtp incomingRtp
  | .rtpData => receiver.forwardDataRtp incomingRtp
  | .video0 => receiver.forwardVideoRtp incomingRtp incomingVp8
  | .video1 => receiver.forwardVideoRtp incomingRtp incomingVp8
  | .video2 => receiver.forwardVideoRtp incomingRtp incomingVp8

/-- Forward to every client but the sender. -/
def forwardToReceivers (senderDemuxId : DemuxId)
    (forward : Client externals →
      Except Panic (Client externals × Option Packet)) :
    List (Client externals) →
      Except Panic (List (Client externals) × List RtpToSend)
  | [] => .ok ([], [])
  | receiver :: rest =>
      if receiver.demuxId = senderDemuxId then do
        let others ← forwardToReceivers senderDemuxId forward rest
        return (receiver :: others.1, others.2)
      else do
        let forwarded ← forward receiver
        let others ← forwardToReceivers senderDemuxId forward rest
        return (forwarded.1 :: others.1,
          (forwarded.2.map (receiver.demuxId, ·)).toList ++ others.2)

/-- The header of a video packet, and the sender after it. -/
def receiveVideo (sender : Client externals) (incomingRtp : Packet)
    (now : Instant) :
    Except Panic
      (Except (CallError externals)
        (Option VideoHeader × Client externals)) :=
  if incomingRtp.isVideo then do
    match ← sender.parseVp8HeaderAndUpdate incomingRtp now with
    | .error failure => return .error failure
    | .ok (header, updated) => return .ok (some header, updated)
  else .ok (.ok (none, sender))

def pushAudioLevel (incomingRtp : Packet) (sender : Client externals) :
    Client externals :=
  match incomingRtp.audioLevel with
  | some level =>
      { sender with
        incomingAudioLevels :=
          sender.incomingAudioLevels.push externals.arithmetic level }
  | none => sender

/-- Forward a packet that its sender was authorized to send. -/
def forwardFromSender (call : Call externals) (senderDemuxId : DemuxId)
    (incomingRtp : Packet) (incomingVp8 : Option VideoHeader) :
    Except Panic
      (Except (CallError externals) (List RtpToSend) × Call externals) :=
  match LayerId.fromSsrc incomingRtp.ssrc with
  | none => .ok (.error .invalidRtpLayerId, call)
  | some layer => do
      let forwarded ← forwardToReceivers senderDemuxId
        (forwardMedia layer incomingRtp incomingVp8) call.clients
      return (.ok forwarded.2, { call with clients := forwarded.1 })

def handleMediaRtp (call : Call externals) (senderDemuxId : DemuxId)
    (incomingRtp : Packet) (now : Instant) :
    Except Panic
      (Except (CallError externals) (List RtpToSend) × Call externals) :=
  match call.findClient senderDemuxId with
  | none => .ok (.error (.unknownDemuxId senderDemuxId), call)
  | some sender =>
      let authorized := DemuxId.fromSsrc incomingRtp.ssrc
      if authorized ≠ senderDemuxId then
        .ok (.error (.unauthorizedRtpSsrc authorized senderDemuxId), call)
      else do
        match ← receiveVideo sender incomingRtp now with
        | .error failure => return (.error failure, call)
        | .ok (incomingVp8, updated) =>
            (call.modifyClient senderDemuxId fun _ =>
              pushAudioLevel incomingRtp updated).forwardFromSender
                senderDemuxId incomingRtp incomingVp8

def handleRtp (call : Call externals) (senderDemuxId : DemuxId)
    (incomingRtp : Packet) (now : Instant) :
    Except Panic
      (Except (CallError externals) (List RtpToSend) × Call externals) :=
  if incomingRtp.ssrc = clientServerDataSsrc ∧
      incomingRtp.payloadType = clientServerDataPayloadType then do
    let payload ← incomingRtp.payload
    match externals.decodeDeviceToSfu payload with
    | none => return (.error .invalidClientToServerProtobuf, call)
    | some proto => return call.handleDeviceToSfu proto senderDemuxId now
  else call.handleMediaRtp senderDemuxId incomingRtp now

/-! ## Regular updates -/

def updateIncomingRates (call : Call externals) (now : Instant) :
    Call externals :=
  { call with
    clients := call.clients.map fun sender =>
      { sender with
        incomingVideo := fun index =>
          { sender.incomingVideo index with
            rateTracker := (sender.incomingVideo index).rateTracker.update
              externals.arithmetic now } } }

/-- The active client with the most active audio, if there is any client. -/
def mostActiveSpeaker (call : Call externals) : Option (Client externals) :=
  match call.clients with
  | [] => none
  | first :: rest =>
      let start := (call.activeSpeakerId.bind call.findClient).getD first
      some ((first :: rest).foldl (fun mostActive contender =>
        if contender.demuxId ≠ mostActive.demuxId ∧
            contender.incomingAudioLevels.moreActiveThanMostActive
              mostActive.incomingAudioLevels then contender
        else mostActive) start)

/-- The new active speaker, if it changed. -/
def calculateActiveSpeaker (call : Call externals) (now : Instant) :
    Option DemuxId × Call externals :=
  match call.mostActiveSpeaker with
  | none => (none, call)
  | some mostActive =>
      if call.activeSpeakerId = some mostActive.demuxId then (none, call)
      else
        let marked := call.modifyClient mostActive.demuxId fun client =>
          { client with becameActiveSpeaker := some now }
        (some mostActive.demuxId,
          { marked with activeSpeakerId := some mostActive.demuxId })

/-- The speaker stays, or another client is marked and becomes it. -/
theorem calculateActiveSpeaker_cases (call : Call externals) (now : Instant) :
    call.calculateActiveSpeaker now = (none, call) ∨
      ∃ mostActive, call.mostActiveSpeaker = some mostActive ∧
        call.activeSpeakerId ≠ some mostActive.demuxId ∧
        call.calculateActiveSpeaker now = (some mostActive.demuxId,
          { call.modifyClient mostActive.demuxId fun client =>
              { client with becameActiveSpeaker := some now } with
            activeSpeakerId := some mostActive.demuxId }) := by
  unfold calculateActiveSpeaker
  cases call.mostActiveSpeaker with
  | none => exact .inl rfl
  | some mostActive =>
      by_cases same : call.activeSpeakerId = some mostActive.demuxId
      · exact .inl (if_pos same)
      · exact .inr ⟨mostActive, rfl, same, if_neg same⟩

/-- The part of `tick` that decides what is forwarded: the incoming rates, the
active speaker and the reallocation of old allocations.  The rest of `tick`
produces messages for the clients. -/
def tickForwarding (call : Call externals) (now : Instant) : Call externals :=
  let measured := call.updateIncomingRates now
  let spoken :=
    if measured.activeSpeakerCalculated + activeSpeakerCalculationInterval <
        now then
      ({ measured with
        activeSpeakerCalculated := now }.calculateActiveSpeaker now).2
    else measured
  spoken.reallocateTargetSendRatesIfItsBeenTooLong now

end Call

end CallingService.Backend
