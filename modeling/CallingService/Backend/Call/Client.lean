import CallingService.Backend.Call.Allocation
import CallingService.Backend.Call.Forwarding

/-!
# Clients of a call

The state that a call keeps for each active client, and what a client does
with the media of another one.  The reliable message streams and the decoding
of protobufs come from other crates and are parameters.
-/

namespace CallingService.Backend

open Foundation Rtp

abbrev UserId := String

inductive RegionRelation where
  | unknown
  | sameRegion
  | sameArea
  | differentArea
deriving DecidableEq, Repr

/-! ## Messages from clients -/

structure MrpHeader where
  seqnum : Option Nat
  ackNum : Option Nat
deriving DecidableEq, Repr

structure VideoRequest where
  height : Option UInt32
  demuxId : Option UInt32
deriving DecidableEq, Repr

structure VideoRequestMessage where
  requests : List VideoRequest
  maxKbps : Option UInt32
  activeSpeakerHeight : Option UInt32
deriving DecidableEq, Repr

structure GenericAdminAction where
  targetDemuxId : Option UInt32
deriving DecidableEq, Repr

structure RaiseHand where
  raise : Option Bool
  seqnum : Option UInt32
deriving DecidableEq, Repr

structure DeviceToSfu where
  videoRequest : Option VideoRequestMessage
  leave : Bool
  approve : List GenericAdminAction
  deny : List GenericAdminAction
  remove : List GenericAdminAction
  block : List GenericAdminAction
  raiseHand : Option RaiseHand
  mrpHeader : Option MrpHeader
deriving DecidableEq, Repr

def DeviceToSfu.default : DeviceToSfu :=
  ⟨none, false, [], [], [], [], none, none⟩

/-- What a call takes from outside of the repository: the streams of the
reliable protocol, the decoder of messages and the floating-point
operations. -/
structure CallExternals where
  MrpStream : Type
  MrpReceiveError : Type
  newMrpStream : Nat → MrpStream
  /-- The messages that are ready after one more arrived. -/
  mrpReceive : MrpStream → MrpHeader → DeviceToSfu →
    MrpStream × Except MrpReceiveError (List DeviceToSfu)
  decodeDeviceToSfu : Bytes → Option DeviceToSfu
  arithmetic : TrackerArithmetic
  /-- Multiplication by `TARGET_RATE_MINIMUM_ALLOCATION_RATIO`. -/
  minimumAllocation : DataRate → DataRate

inductive CallError (externals : CallExternals) where
  | invalidClientToServerProtobuf
  | unauthorizedRtpSsrc (authorized received : DemuxId)
  | invalidVp8Header
  | invalidMrpHeader (cause : externals.MrpReceiveError)
  | invalidRtpLayerId
  | unknownDemuxId (demuxId : DemuxId)
  | leave

def maxMrpWindowSize : Nat := 64

/-! ## The state of a client -/

/-- A client that is not part of the call: one that waits for approval or that
has been removed but has not left yet. -/
structure NonParticipantClient where
  demuxId : DemuxId
  userId : UserId
  isAdmin : Bool
  regionRelation : RegionRelation
  nextServerToClientDataRtpSeqnum : FullSequenceNumber
deriving DecidableEq, Repr

structure IncomingVideoState where
  rateTracker : DataRateTracker
  /-- The resolution, ignoring rotation. -/
  originalResolution : Option PixelSize
  /-- The height, taking rotation into account. -/
  height : Option VideoHeight
deriving DecidableEq, Repr

namespace IncomingVideoState

def default : IncomingVideoState := ⟨DataRateTracker.default, none, none⟩

def rate (video : IncomingVideoState) : Option DataRate :=
  video.rateTracker.stableRate

def applyRotation (video : IncomingVideoState) (rotation : VideoRotation) :
    IncomingVideoState :=
  match video.originalResolution with
  | none => video
  | some resolution =>
      { video with
        height := some (match rotation with
          | .none => resolution.height
          | .clockwise180 => resolution.height
          | .clockwise90 => resolution.width
          | .clockwise270 => resolution.width) }

def clearResolution (video : IncomingVideoState) : IncomingVideoState :=
  { video with originalResolution := none, height := none }

/-- What the tracker computes is a word. -/
def asAllocatableLayer (video : IncomingVideoState) :
    AllocatableVideoLayer where
  incomingRate := video.rate.getD 0 % 2 ^ 64
  incomingHeight := video.height.getD 0
  inWord := Nat.mod_lt _ (Nat.two_pow_pos 64)

end IncomingVideoState

structure Client (externals : CallExternals) where
  demuxId : DemuxId
  userId : UserId
  isAdmin : Bool
  regionRelation : RegionRelation
  /-- The three incoming layers. -/
  incomingVideo : Fin 3 → IncomingVideoState
  videoRotation : VideoRotation
  incomingAudioLevels : LevelsTracker
  becameActiveSpeaker : Option Instant
  videoRequestProto : Option VideoRequestMessage
  requestedHeightByDemuxId : Table DemuxId VideoHeight
  activeSpeakerHeight : UInt16
  targetSendRate : DataRate
  currentGenerationMinTargetSendRate : DataRate
  oldGenerationMinTargetSendRate : DataRate
  nextMinTargetGenerationUpdateTime : Instant
  outgoingQueueDrainRate : DataRate
  requestedMaxSendRate : DataRate
  sendRateAllocated : Instant
  requestedBaseRate : DataRate
  idealSendRate : DataRate
  allocatedSendRate : DataRate
  paddingSsrc : Option Ssrc
  audioForwarderBySenderDemuxId : Table DemuxId SingleSsrcRtpForwarder
  videoForwarderBySenderDemuxId : Table DemuxId Vp8SimulcastRtpForwarder
  dataForwarderBySenderDemuxId : Table DemuxId SingleSsrcRtpForwarder
  allocatedHeightBySenderDemuxId : Table DemuxId VideoHeight
  reliableMrpStream : externals.MrpStream
  nextServerToClientDataRtpSeqnum : FullSequenceNumber

variable {externals : CallExternals}

namespace Client

def new (pending : NonParticipantClient)
    (initialTargetSendRate requestedMaxSendRate : DataRate) (now : Instant) :
    Client externals where
  demuxId := pending.demuxId
  userId := pending.userId
  isAdmin := pending.isAdmin
  regionRelation := pending.regionRelation
  incomingVideo := fun _ => IncomingVideoState.default
  videoRotation := .none
  incomingAudioLevels := LevelsTracker.default
  becameActiveSpeaker := none
  videoRequestProto := none
  requestedHeightByDemuxId := ∅
  activeSpeakerHeight := 0
  targetSendRate := initialTargetSendRate
  currentGenerationMinTargetSendRate := initialTargetSendRate
  oldGenerationMinTargetSendRate := initialTargetSendRate
  nextMinTargetGenerationUpdateTime := now
  outgoingQueueDrainRate := 0
  requestedMaxSendRate := requestedMaxSendRate
  sendRateAllocated := now
  requestedBaseRate := 0
  idealSendRate := 0
  allocatedSendRate := 0
  paddingSsrc := none
  audioForwarderBySenderDemuxId := ∅
  videoForwarderBySenderDemuxId := ∅
  dataForwarderBySenderDemuxId := ∅
  allocatedHeightBySenderDemuxId := ∅
  reliableMrpStream := externals.newMrpStream maxMrpWindowSize
  nextServerToClientDataRtpSeqnum := pending.nextServerToClientDataRtpSeqnum

/-- `NonParticipantClient::from`. -/
def toNonParticipant (client : Client externals) : NonParticipantClient where
  demuxId := client.demuxId
  userId := client.userId
  isAdmin := client.isAdmin
  regionRelation := client.regionRelation
  nextServerToClientDataRtpSeqnum := client.nextServerToClientDataRtpSeqnum

@[simp] theorem toNonParticipant_new (pending : NonParticipantClient)
    (initialTargetSendRate requestedMaxSendRate : DataRate) (now : Instant) :
    (Client.new pending initialTargetSendRate requestedMaxSendRate now :
      Client externals).toNonParticipant = pending := rfl

def minTargetSendRate (client : Client externals) : DataRate :=
  min client.currentGenerationMinTargetSendRate
    client.oldGenerationMinTargetSendRate

/-! ## Incoming video -/

/-- Rotation and resolution may come in different packets.  A change clears
the resolutions of the higher layers. -/
def updateResolutions (client : Client externals) (layer : Fin 3) :
    Client externals :=
  { client with
    incomingVideo := fun index =>
      let rotated :=
        (client.incomingVideo index).applyRotation client.videoRotation
      if layer < index then rotated.clearResolution else rotated }

def setIncomingVideo (client : Client externals) (layer : Fin 3)
    (video : IncomingVideoState) : Client externals :=
  { client with
    incomingVideo := fun index =>
      if index = layer then video else client.incomingVideo index }

/-- Count the packet and take over its resolution and rotation. -/
def updateIncomingVideo (client : Client externals) (layer : Fin 3)
    (incomingRtp : Packet) (incomingVp8 : VideoHeader) (now : Instant) :
    Client externals :=
  let video := client.incomingVideo layer
  let newResolution := incomingVp8.resolution.or video.originalResolution
  let newRotation := incomingRtp.videoRotation.getD client.videoRotation
  let updated := { client.setIncomingVideo layer { video with
      rateTracker :=
        video.rateTracker.pushBytes (incomingRtp.size / 8) now
      originalResolution := newResolution } with
    videoRotation := newRotation }
  if video.originalResolution ≠ newResolution ∨
      client.videoRotation ≠ newRotation then
    updated.updateResolutions layer
  else updated

/-- The header of a video packet. -/
def parseVideoHeader (incomingRtp : Packet) :
    Except Panic (Except (CallError externals) VideoHeader) :=
  match incomingRtp.dependencyDescriptor with
  | some (descriptor, _) => .ok (.ok (.dependencyDescriptor descriptor))
  | none => do
      let payload ← incomingRtp.payload
      match Vp8.ParsedHeader.read payload with
      | .ok header => return .ok (.vp8 header)
      | .error _ => return .error .invalidVp8Header

/-- `parse_vp8_header_and_update_incoming_video_rate_and_resolution`. -/
def parseVp8HeaderAndUpdate (client : Client externals)
    (incomingRtp : Packet) (now : Instant) :
    Except Panic
      (Except (CallError externals) (VideoHeader × Client externals)) := do
  match ← parseVideoHeader incomingRtp with
  | .error failure => return .error failure
  | .ok incomingVp8 =>
      match LayerId.layerIndexFromSsrc incomingRtp.ssrc with
      | none => return .error .invalidRtpLayerId
      | some layer =>
          return .ok (incomingVp8,
            client.updateIncomingVideo layer incomingRtp incomingVp8 now)

/-! ## Forwarding -/

/-- Forward through the forwarder of the sender, which is created when the
first packet arrives.  The SSRC and the timestamp are kept. -/
def forwardSingleSsrc (forwarders : Table DemuxId SingleSsrcRtpForwarder)
    (incomingRtp : Packet) :
    Except Panic (Table DemuxId SingleSsrcRtpForwarder × Option Packet) := do
  let sender := DemuxId.fromSsrc incomingRtp.ssrc
  let forwarder :=
    (forwarders.lookup sender).getD SingleSsrcRtpForwarder.default
  let forwarded ← forwarder.forwardRtp incomingRtp.seqnum
  match forwarded.2 with
  | none => return (forwarders.insert sender forwarded.1, none)
  | some outgoingSeqnum =>
      let outgoing ← incomingRtp.rewrite incomingRtp.ssrc outgoingSeqnum
        incomingRtp.timestamp
      return (forwarders.insert sender forwarded.1, some outgoing)

def forwardAudioRtp (client : Client externals) (incomingRtp : Packet) :
    Except Panic (Client externals × Option Packet) := do
  let forwarded ←
    forwardSingleSsrc client.audioForwarderBySenderDemuxId incomingRtp
  return ({ client with audioForwarderBySenderDemuxId := forwarded.1 },
    forwarded.2)

def forwardDataRtp (client : Client externals) (incomingRtp : Packet) :
    Except Panic (Client externals × Option Packet) := do
  let forwarded ←
    forwardSingleSsrc client.dataForwarderBySenderDemuxId incomingRtp
  return ({ client with dataForwarderBySenderDemuxId := forwarded.1 },
    forwarded.2)

def setDescriptorFrameNumber (packet : Packet)
    (frameNumber : FullFrameNumber) : Packet :=
  match packet.dependencyDescriptor with
  | none => packet
  | some (descriptor, range) =>
      { packet with
        dependencyDescriptor := some
          ({ descriptor with truncatedFrameNumber := some frameNumber.toUInt16 },
            range) }

def rewriteFrameNumber (packet : Packet)
    (frameNumber : Option FullFrameNumber) : Except Panic Packet :=
  match frameNumber with
  | none => .ok packet
  | some number =>
      (setDescriptorFrameNumber packet number).setFrameNumberInHeader number

def rewriteVp8Ids (packet : Packet) (pictureId : Option Vp8.FullPictureId)
    (tl0PicIdx : Option Vp8.FullTl0PicIdx) : Except Panic Packet :=
  match pictureId, tl0PicIdx with
  | some picture, some base =>
      Vp8.modifyHeader packet picture.toUInt16 base.toUInt8
  | _, _ => .ok packet

def rewriteVideo (incomingRtp : Packet) (outgoingSsrc : Ssrc)
    (outgoing : Vp8RewrittenIds) : Except Panic Packet := do
  let rewritten ← incomingRtp.rewrite outgoingSsrc outgoing.seqnum
    outgoing.timestamp.toUInt32
  let numbered ← rewriteFrameNumber rewritten outgoing.frameNumber
  rewriteVp8Ids numbered outgoing.pictureId outgoing.tl0PicIdx

/-- Video is forwarded only through a forwarder that an allocation has
created. -/
def forwardVideoSsrc (forwarders : Table DemuxId Vp8SimulcastRtpForwarder)
    (incomingRtp : Packet) (incomingVp8 : VideoHeader) :
    Except Panic (Table DemuxId Vp8SimulcastRtpForwarder × Option Packet) :=
  let sender := DemuxId.fromSsrc incomingRtp.ssrc
  match forwarders.lookup sender with
  | none => .ok (forwarders, none)
  | some forwarder =>
      let forwarded := forwarder.forwardVp8Rtp incomingRtp incomingVp8
      match forwarded.2 with
      | none => .ok (forwarders.insert sender forwarded.1, none)
      | some (outgoingSsrc, outgoing) => do
          let rewritten ← rewriteVideo incomingRtp outgoingSsrc outgoing
          return (forwarders.insert sender forwarded.1, some rewritten)

def forwardVideoRtp (client : Client externals) (incomingRtp : Packet)
    (incomingVp8 : Option VideoHeader) :
    Except Panic (Client externals × Option Packet) :=
  match incomingVp8 with
  | none => .ok (client, none)
  | some header => do
      let forwarded ← forwardVideoSsrc client.videoForwarderBySenderDemuxId
        incomingRtp header
      return ({ client with videoForwarderBySenderDemuxId := forwarded.1 },
        forwarded.2)

end Client

end CallingService.Backend
