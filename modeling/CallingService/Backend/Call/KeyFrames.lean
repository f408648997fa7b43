import CallingService.Backend.Call.RosterMoves

/-!
# Feedback of receivers and the activity of a call

RTCP packets of a client set its target send rate and ask for key frames of
the streams it receives.  The requests are passed on to the senders, but not
too often.  A call without any clients is kept for a while.
-/

namespace CallingService.Backend

open Foundation Rtp

def minTargetSendRateGenerationInterval : Duration := fromMillis 2500
def keyFrameRequestResendInterval : Duration := fromMillis 200
def highResKeyFrameRequestResendInterval : Duration := fromMillis 500

variable {externals : CallExternals}

/-- The smallest target of the last two generations is remembered. -/
def Client.setTargetSendRate (receiver : Client externals)
    (newTargetSendRate : DataRate) (now : Instant) : Client externals :=
  let targeted := { receiver with targetSendRate := newTargetSendRate }
  if receiver.nextMinTargetGenerationUpdateTime < now then
    { targeted with
      oldGenerationMinTargetSendRate :=
        receiver.currentGenerationMinTargetSendRate
      currentGenerationMinTargetSendRate := newTargetSendRate
      nextMinTargetGenerationUpdateTime :=
        now + minTargetSendRateGenerationInterval }
  else if newTargetSendRate < receiver.currentGenerationMinTargetSendRate then
    { targeted with currentGenerationMinTargetSendRate := newTargetSendRate }
  else targeted

theorem Client.toNonParticipant_setTargetSendRate
    (receiver : Client externals) (newTargetSendRate : DataRate)
    (now : Instant) :
    (receiver.setTargetSendRate newTargetSendRate now).toNonParticipant =
      receiver.toNonParticipant := by
  unfold setTargetSendRate
  dsimp only
  split
  · rfl
  · split
    · rfl
    · rfl

/-- The smallest target is never above the latest one. -/
theorem Client.minTargetSendRate_le_setTargetSendRate
    (receiver : Client externals) (newTargetSendRate : DataRate)
    (now : Instant) :
    (receiver.setTargetSendRate newTargetSendRate now).minTargetSendRate ≤
      (receiver.setTargetSendRate newTargetSendRate now).targetSendRate := by
  unfold setTargetSendRate minTargetSendRate
  dsimp only
  split
  · exact Nat.min_le_left _ _
  · split
    · exact Nat.min_le_left _ _
    · rename_i noLess
      exact Nat.le_trans (Nat.min_le_left _ _) (Nat.le_of_not_lt noLess)

/-- Mark the forwarder of the sender of the requested stream. -/
def Client.requestKeyFrame (requester : Client externals) (ssrc : Ssrc) :
    Client externals :=
  let sender := DemuxId.fromSsrc ssrc
  match requester.videoForwarderBySenderDemuxId.lookup sender with
  | none => requester
  | some forwarder =>
      { requester with
        videoForwarderBySenderDemuxId :=
          requester.videoForwarderBySenderDemuxId.insert sender
            forwarder.setNeedsKeyFrame }

theorem Client.toNonParticipant_requestKeyFrames (ssrcs : List Ssrc)
    (requester : Client externals) :
    (ssrcs.foldl Client.requestKeyFrame requester).toNonParticipant =
      requester.toNonParticipant := by
  induction ssrcs generalizing requester with
  | nil => rfl
  | cons ssrc rest ih =>
      rw [List.foldl_cons, ih]
      unfold requestKeyFrame
      dsimp only
      split
      · rfl
      · rfl

namespace Call

/-- An error means that the client is gone, and is ignored by the callers. -/
def setTargetSendRate (call : Call externals) (receiverDemuxId : DemuxId)
    (newTargetSendRate : DataRate) (now : Instant) : Call externals :=
  call.modifyClient receiverDemuxId
    (·.setTargetSendRate newTargetSendRate now)

def setOutgoingQueueDrainRate (call : Call externals)
    (receiverDemuxId : DemuxId) (outgoingQueueDrainRate : DataRate) :
    Call externals :=
  call.modifyClient receiverDemuxId fun receiver =>
    { receiver with outgoingQueueDrainRate := outgoingQueueDrainRate }

/-! ## Key frames -/

def incomingVideoHeight (call : Call externals) (ssrc : Ssrc) :
    Option VideoHeight := do
  let client ← call.findClient (DemuxId.fromSsrc ssrc)
  let layer ← LayerId.layerIndexFromSsrc ssrc
  (client.incomingVideo layer).height

/-- The source collects them in a set. -/
def desiredIncomingSsrcs (call : Call externals) : List Ssrc :=
  (call.clients.flatMap fun receiver =>
    receiver.videoForwarderBySenderDemuxId.values.filterMap
      Vp8SimulcastRtpForwarder.needsKeyFrame).dedup

/-- Whether a key frame may be asked for again. -/
def keyFrameRequestIsDue (call : Call externals) (now : Instant)
    (ssrc : Ssrc) : Bool :=
  match call.keyFrameRequestSentBySsrc.lookup ssrc with
  | none => true
  | some sent =>
      sent + keyFrameRequestResendInterval ≤ now &&
        ((call.incomingVideoHeight ssrc).getD 0 ≤ 720 ||
          sent + highResKeyFrameRequestResendInterval ≤ now)

def sendKeyFrameRequestsIfItsBeenTooLong (call : Call externals)
    (now : Instant) : List (DemuxId × Ssrc) × Call externals :=
  if now < call.keyFrameRequestsSent + keyFrameRequestCalculationInterval then
    ([], call)
  else
    let due := call.desiredIncomingSsrcs.filter (call.keyFrameRequestIsDue now)
    (due.map fun ssrc => (DemuxId.fromSsrc ssrc, ssrc),
      { call with
        keyFrameRequestSentBySsrc := due.foldl
          (fun sent ssrc => sent.insert ssrc now)
          call.keyFrameRequestSentBySsrc
        keyFrameRequestsSent := now })

def handleKeyFrameRequests (call : Call externals) (requesterId : DemuxId)
    (keyFrameRequests : List Ssrc) (now : Instant) :
    List (DemuxId × Ssrc) × Call externals :=
  match call.findClient requesterId with
  | none => ([], call)
  | some _ =>
      (call.modifyClient requesterId fun requester =>
        keyFrameRequests.foldl Client.requestKeyFrame
          requester).sendKeyFrameRequestsIfItsBeenTooLong now

@[simp] theorem roster_setTargetSendRate (call : Call externals)
    (receiverDemuxId : DemuxId) (newTargetSendRate : DataRate)
    (now : Instant) :
    (call.setTargetSendRate receiverDemuxId newTargetSendRate now).roster =
      call.roster := by
  apply roster_modifyClient
  intro client _
  exact client.toNonParticipant_setTargetSendRate newTargetSendRate now

@[simp] theorem roster_setOutgoingQueueDrainRate (call : Call externals)
    (receiverDemuxId : DemuxId) (outgoingQueueDrainRate : DataRate) :
    (call.setOutgoingQueueDrainRate receiverDemuxId
      outgoingQueueDrainRate).roster = call.roster := by
  apply roster_modifyClient
  intro client _
  rfl

@[simp] theorem roster_handleKeyFrameRequests (call : Call externals)
    (requesterId : DemuxId) (keyFrameRequests : List Ssrc) (now : Instant) :
    (call.handleKeyFrameRequests requesterId keyFrameRequests now).2.roster =
      call.roster := by
  unfold handleKeyFrameRequests
  split
  · rfl
  · have marked : (call.modifyClient requesterId fun requester =>
        keyFrameRequests.foldl Client.requestKeyFrame requester).roster =
        call.roster := by
      apply roster_modifyClient
      intro client _
      exact client.toNonParticipant_requestKeyFrames keyFrameRequests
    rw [← marked]
    unfold sendKeyFrameRequestsIfItsBeenTooLong
    split
    · rfl
    · rfl

/-! ## Activity -/

inductive Activity where
  | active
  | waiting
  | inactive
deriving DecidableEq, Repr

/-- `approvedUsersBusy` says whether the approved users are still being
persisted. -/
def activity (call : Call externals) (now : Instant)
    (inactivityTimeout : Duration) (approvedUsersBusy : Bool) : Activity :=
  if call.clients ≠ [] ∨ call.pendingClients ≠ [] ∨
      call.removedClients ≠ [] then .active
  else if approvedUsersBusy = false ∧
      call.clientAddedOrRemoved + inactivityTimeout ≤ now then .inactive
  else .waiting

end Call

end CallingService.Backend
