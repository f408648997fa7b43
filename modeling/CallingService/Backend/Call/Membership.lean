import CallingService.Backend.Call.Client
import CallingService.Foundation.Vectors
import Mathlib.Data.Finset.Insert
import Mathlib.Data.Finset.Erase

/-!
# Calls and their clients

A client of a call is active, waits for the approval of an admin, or has been
removed and not left yet.  Users can be approved, denied and blocked.  Whenever
the active clients change, the send rates are allocated again.
-/

namespace CallingService.Backend

open Foundation Rtp

abbrev RoomId := String

inductive ClientStatus where
  | active
  | pending
  | blocked
deriving DecidableEq, Repr

structure ApprovedUsers where
  set : Finset UserId
  /-- Whether the set has changed since it was persisted. -/
  modified : Bool
deriving DecidableEq

namespace ApprovedUsers

def new (users : List UserId) : ApprovedUsers := ⟨users.toFinset, false⟩

def insert (approved : ApprovedUsers) (user : UserId) : ApprovedUsers :=
  if user ∈ approved.set then approved
  else ⟨Insert.insert user approved.set, true⟩

def remove (approved : ApprovedUsers) (user : UserId) : ApprovedUsers :=
  if user ∈ approved.set then ⟨approved.set.erase user, true⟩ else approved

@[simp] theorem insert_set (approved : ApprovedUsers) (user : UserId) :
    (approved.insert user).set = Insert.insert user approved.set := by
  unfold insert
  split
  · rename_i member
    exact (Finset.insert_eq_of_mem member).symm
  · rfl

@[simp] theorem remove_set (approved : ApprovedUsers) (user : UserId) :
    (approved.remove user).set = approved.set.erase user := by
  unfold remove
  split
  · rfl
  · rename_i absent
    exact (Finset.erase_eq_of_notMem absent).symm

end ApprovedUsers

/-- How long a call had no client, one, two, or more of them. -/
structure CallTimeStats where
  empty : Duration
  solo : Duration
  pair : Duration
  many : Duration
deriving DecidableEq, Repr

structure RaisedHand where
  demuxId : DemuxId
  raise : Bool
deriving DecidableEq, Repr

def activeSpeakerCalculationInterval : Duration := fromMillis 300
def removedClientsUpdateInterval : Duration := fromSecs 1
def raisedHandsMessageInterval : Duration := fromSecs 1
def keyFrameRequestCalculationInterval : Duration := fromMillis 5
def sendRateReallocationInterval : Duration := fromMillis 1000

structure Call (externals : CallExternals) where
  roomId : Option RoomId
  creatorId : UserId
  newClientsRequireApproval : Bool
  persistApprovalForAllUsersWhoJoin : Bool
  created : SystemTime
  activeSpeakerMessageInterval : Duration
  initialTargetSendRate : DataRate
  defaultRequestedMaxSendRate : DataRate
  clients : List (Client externals)
  pendingClients : List NonParticipantClient
  removedClients : List NonParticipantClient
  clientAddedOrRemoved : Instant
  clientsUpdateSent : Instant
  approvedUsers : ApprovedUsers
  /-- A repeated denial becomes a block; approval clears it. -/
  deniedUsers : Finset UserId
  /-- Takes precedence over the approved users. -/
  blockedUsers : Finset UserId
  activeSpeakerId : Option DemuxId
  activeSpeakerCalculated : Instant
  activeSpeakerUpdateSent : Instant
  raisedHands : Option (List RaisedHand)
  raisedHandsSeqnums : Table DemuxId UInt32
  statsUpdateSent : Instant
  removedClientsUpdateSent : Instant
  raisedHandsSent : Instant
  keyFrameRequestsSent : Instant
  keyFrameRequestSentBySsrc : Table Ssrc Instant
  callTime : CallTimeStats

namespace Call

variable {externals : CallExternals}

def new (roomId : Option RoomId) (creatorId : UserId)
    (newClientsRequireApproval persistApprovalForAllUsersWhoJoin : Bool)
    (activeSpeakerMessageInterval : Duration)
    (initialTargetSendRate defaultRequestedMaxSendRate : DataRate)
    (now : Instant) (systemNow : SystemTime)
    (approvedUsers : Option (List UserId)) : Call externals where
  roomId := roomId
  creatorId := creatorId
  newClientsRequireApproval := newClientsRequireApproval
  persistApprovalForAllUsersWhoJoin := persistApprovalForAllUsersWhoJoin
  created := systemNow
  activeSpeakerMessageInterval := activeSpeakerMessageInterval
  initialTargetSendRate := initialTargetSendRate
  defaultRequestedMaxSendRate := defaultRequestedMaxSendRate
  clients := []
  pendingClients := []
  removedClients := []
  clientAddedOrRemoved := now
  clientsUpdateSent := now
  approvedUsers := ApprovedUsers.new (approvedUsers.getD [])
  deniedUsers := ∅
  blockedUsers := ∅
  activeSpeakerId := none
  activeSpeakerCalculated := now - activeSpeakerCalculationInterval
  activeSpeakerUpdateSent := now
  raisedHands := none
  raisedHandsSeqnums := ∅
  statsUpdateSent := now
  removedClientsUpdateSent := now - removedClientsUpdateInterval
  raisedHandsSent := now - raisedHandsMessageInterval
  keyFrameRequestsSent := now - keyFrameRequestCalculationInterval
  keyFrameRequestSentBySsrc := ∅
  callTime := ⟨0, 0, 0, 0⟩

def hasClient (call : Call externals) (demuxId : DemuxId) : Bool :=
  call.clients.any (·.demuxId = demuxId) ||
    call.pendingClients.any (·.demuxId = demuxId) ||
    call.removedClients.any (·.demuxId = demuxId)

def findClient (call : Call externals) (demuxId : DemuxId) :
    Option (Client externals) :=
  call.clients.find? (·.demuxId = demuxId)

/-- Change the client that `find_client_mut` finds. -/
def modifyClient (call : Call externals) (demuxId : DemuxId)
    (change : Client externals → Client externals) : Call externals :=
  { call with
    clients := modifyFirst (·.demuxId = demuxId) change call.clients }

/-! ## Allocation of video layers -/

/-- The height that the receiver wants of the sender; that of the active
speaker can be requested in advance. -/
def requestedHeight (call : Call externals)
    (receiver sender : Client externals) : VideoHeight :=
  let requested :=
    (receiver.requestedHeightByDemuxId.lookup sender.demuxId).getD 1
  if some sender.demuxId = call.activeSpeakerId ∧
      requested < receiver.activeSpeakerHeight then
    receiver.activeSpeakerHeight
  else requested

def allocatableVideo (call : Call externals)
    (receiver sender : Client externals) : AllocatableVideo where
  senderDemuxId := sender.demuxId
  layers := fun index => (sender.incomingVideo index).asAllocatableLayer
  requestedHeight := call.requestedHeight receiver sender
  allocatedLayerIndex := do
    let forwarder ←
      receiver.videoForwarderBySenderDemuxId.lookup sender.demuxId
    let ssrc ← forwarder.forwardingSsrc
    LayerId.layerIndexFromSsrc ssrc
  interesting := sender.becameActiveSpeaker

/-- The videos of all other clients. -/
def allocatableVideos (call : Call externals) (receiver : Client externals) :
    List AllocatableVideo :=
  (call.clients.filter (·.demuxId ≠ receiver.demuxId)).map
    (call.allocatableVideo receiver)

def desiredIncomingSsrc (allocated : Table DemuxId AllocatedVideo)
    (sender : DemuxId) : Option Ssrc :=
  (allocated.lookup sender).map fun video =>
    (LayerId.fromVideoLayerIndex video.layerIndex).toSsrc video.senderDemuxId

/-- Tell the forwarder of one sender what to forward. -/
def retuneForwarder (allocated : Table DemuxId AllocatedVideo)
    (forwarders : Table DemuxId Vp8SimulcastRtpForwarder) (sender : DemuxId) :
    Table DemuxId Vp8SimulcastRtpForwarder :=
  let forwarder := (forwarders.lookup sender).getD
    (Vp8SimulcastRtpForwarder.new (LayerId.video0.toSsrc sender))
  forwarders.insert sender
    (forwarder.setDesiredSsrc (desiredIncomingSsrc allocated sender))

def recordHeight (allocated : Table DemuxId AllocatedVideo)
    (heights : Table DemuxId VideoHeight) (sender : DemuxId) :
    Table DemuxId VideoHeight :=
  match allocated.lookup sender with
  | some video => heights.insert sender video.height
  | none => heights

/-- The receiver after an allocation of the given videos, in a release build:
sums wrap around, and nothing panics. -/
def allocatedReceiver (receiver : Client externals)
    (videos : List AllocatableVideo)
    (newTargetSendRate minTargetSendRate : DataRate) (now : Instant) :
    Client externals :=
  let ideal := inRelease fun profile =>
    idealSendRate profile videos receiver.requestedMaxSendRate
  let allocated := inRelease fun profile => allocateSendRate profile
    externals.minimumAllocation newTargetSendRate minTargetSendRate ideal
    receiver.outgoingQueueDrainRate videos
  let senders := videos.map (·.senderDemuxId)
  { receiver with
    allocatedHeightBySenderDemuxId :=
      senders.foldl (recordHeight allocated) ∅
    videoForwarderBySenderDemuxId :=
      senders.foldl (retuneForwarder allocated)
        receiver.videoForwarderBySenderDemuxId
    targetSendRate := newTargetSendRate
    requestedBaseRate := inRelease fun profile =>
      requestedBaseRate profile videos receiver.requestedMaxSendRate
    idealSendRate := ideal
    allocatedSendRate := Table.total (·.rate) allocated % 2 ^ 64
    sendRateAllocated := now }

/-- The receiver is an active client wherever this is called; the source
panics otherwise. -/
def allocateVideoLayers (call : Call externals) (receiverDemuxId : DemuxId)
    (newTargetSendRate minTargetSendRate : DataRate) (now : Instant) :
    Call externals :=
  call.modifyClient receiverDemuxId fun receiver =>
    allocatedReceiver receiver (call.allocatableVideos receiver)
      newTargetSendRate minTargetSendRate now

/-- Allocate for the given clients with the rates they have now. -/
def allocateForReceivers (call : Call externals)
    (receivers : List (Client externals)) (now : Instant) : Call externals :=
  receivers.foldl (fun allocated receiver =>
    allocated.allocateVideoLayers receiver.demuxId receiver.targetSendRate
      receiver.minTargetSendRate now) call

/-- Only the clients change. -/
theorem allocateForReceivers_frame (call : Call externals)
    (receivers : List (Client externals)) (now : Instant) :
    call.allocateForReceivers receivers now =
      { call with
        clients := (call.allocateForReceivers receivers now).clients } := by
  unfold allocateForReceivers
  induction receivers generalizing call with
  | nil => rfl
  | cons receiver rest ih =>
      rw [List.foldl_cons, ih]
      rfl

def reallocateTargetSendRates (call : Call externals) (now : Instant) :
    Call externals :=
  call.allocateForReceivers call.clients now

def reallocateTargetSendRatesIfItsBeenTooLong (call : Call externals)
    (now : Instant) : Call externals :=
  call.allocateForReceivers
    (call.clients.filter fun receiver =>
      decide (receiver.sendRateAllocated + sendRateReallocationInterval < now))
    now

def setPaddingSsrc (ssrc : Option Ssrc) (client : Client externals) :
    Client externals :=
  { client with paddingSsrc := ssrc }

/-- Padding is sent on the RTX SSRC of the base layer of another client: the
first one, or the second one for the first. -/
def updatePaddingSsrcs (call : Call externals) : Call externals :=
  { call with
    clients := match call.clients with
      | [] => []
      | [lonely] => [setPaddingSsrc none lonely]
      | first :: second :: rest =>
          let ofFirst := some (LayerId.video0.toRtxSsrc first.demuxId)
          let ofSecond := some (LayerId.video0.toRtxSsrc second.demuxId)
          setPaddingSsrc ofSecond first :: setPaddingSsrc ofFirst second ::
            rest.map (setPaddingSsrc ofFirst) }

/-! ## Joining and leaving -/

def addCallTime (stats : CallTimeStats) (clientCount : Nat)
    (increment : Duration) : CallTimeStats :=
  match clientCount with
  | 0 => { stats with empty := stats.empty + increment }
  | 1 => { stats with solo := stats.solo + increment }
  | 2 => { stats with pair := stats.pair + increment }
  | _ => { stats with many := stats.many + increment }

def willAddOrRemoveClient (call : Call externals) (now : Instant) :
    Call externals :=
  { call with
    callTime := addCallTime call.callTime call.clients.length
      (now - call.clientAddedOrRemoved)
    clientAddedOrRemoved := now }

def pushClient (call : Call externals) (pending : NonParticipantClient)
    (now : Instant) : Call externals :=
  { call with
    clients := call.clients ++ [Client.new pending call.initialTargetSendRate
      call.defaultRequestedMaxSendRate now] }

def promoteClient (call : Call externals) (pending : NonParticipantClient)
    (now : Instant) : Call externals :=
  (((call.willAddOrRemoveClient now).pushClient pending now).allocateVideoLayers
    pending.demuxId call.initialTargetSendRate call.initialTargetSendRate
    now).updatePaddingSsrcs

def addClient (call : Call externals) (demuxId : DemuxId) (userId : UserId)
    (isAdmin : Bool) (regionRelation : RegionRelation) (now : Instant) :
    ClientStatus × Call externals :=
  let pending : NonParticipantClient := {
    demuxId := demuxId
    userId := userId
    isAdmin := isAdmin
    regionRelation := regionRelation
    nextServerToClientDataRtpSeqnum := 1 }
  if userId ∈ call.blockedUsers then
    (.blocked,
      { call with removedClients := call.removedClients ++ [pending] })
  else if isAdmin ∨ call.newClientsRequireApproval = false ∨
      userId ∈ call.approvedUsers.set then
    let approved :=
      if call.persistApprovalForAllUsersWhoJoin then
        { call with approvedUsers := call.approvedUsers.insert userId }
      else call
    (.active, approved.promoteClient pending now)
  else
    let announced := call.willAddOrRemoveClient now
    (.pending,
      { announced with pendingClients := call.pendingClients ++ [pending] })

/-- The pending client with the demux id. -/
def findPending (call : Call externals) (demuxId : DemuxId) :
    Option NonParticipantClient :=
  call.pendingClients.find? (·.demuxId = demuxId)

/-- Approve every pending client of the same user. -/
def approvePendingClient (call : Call externals) (demuxId : DemuxId)
    (now : Instant) : Call externals :=
  match call.findPending demuxId with
  | none => call
  | some client =>
      let matching := call.pendingClients.filter (·.userId = client.userId)
      let drained := { call with
        pendingClients := call.pendingClients.filter (·.userId ≠ client.userId) }
      let promoted := matching.foldl (fun promoted pending =>
        promoted.promoteClient pending now) drained
      { promoted with
        deniedUsers := promoted.deniedUsers.erase client.userId
        approvedUsers := promoted.approvedUsers.insert client.userId }

/-- Remove every pending client of the same user.  The second denial of a user
blocks it. -/
def denyPendingClient (call : Call externals) (demuxId : DemuxId)
    (now : Instant) : Call externals :=
  match call.findPending demuxId with
  | none => call
  | some client =>
      let announced := call.willAddOrRemoveClient now
      { announced with
        pendingClients := call.pendingClients.filter (·.userId ≠ client.userId)
        removedClients := call.removedClients ++
          call.pendingClients.filter (·.userId = client.userId)
        deniedUsers := insert client.userId call.deniedUsers
        blockedUsers :=
          if client.userId ∈ call.deniedUsers then
            insert client.userId call.blockedUsers
          else call.blockedUsers }

/-- Drop the forwarders of the removed clients. -/
def forgetSenders (removed : List DemuxId) (client : Client externals) :
    Client externals :=
  { client with
    audioForwarderBySenderDemuxId :=
      Table.eraseAll removed client.audioForwarderBySenderDemuxId
    videoForwarderBySenderDemuxId :=
      Table.eraseAll removed client.videoForwarderBySenderDemuxId
    dataForwarderBySenderDemuxId :=
      Table.eraseAll removed client.dataForwarderBySenderDemuxId }

def dropForwarders (call : Call externals) (removed : List DemuxId) :
    Call externals :=
  { call with
    clients := call.clients.map (forgetSenders removed)
    keyFrameRequestSentBySsrc := Table.retainKeys
      (fun ssrc => DemuxId.fromSsrc ssrc ∉ removed)
      call.keyFrameRequestSentBySsrc }

def updateForRemovedClients (call : Call externals) (removed : List DemuxId)
    (now : Instant) : Call externals :=
  ((call.reallocateTargetSendRates now).updatePaddingSsrcs).dropForwarders
    removed

/-- The removed client, and the call without it. -/
def removeClient (call : Call externals) (demuxId : DemuxId)
    (now : Instant) : Option (Client externals × Call externals) := do
  let index ← call.clients.findIdx? (·.demuxId = demuxId)
  let removed ← call.clients[index]?
  let announced := call.willAddOrRemoveClient now
  return (removed,
    { announced with
      clients := swapRemove call.clients index }.updateForRemovedClients
        [demuxId] now)

def sendRaisedHandsOnNextTick (call : Call externals) (now : Instant) :
    Call externals :=
  { call with raisedHandsSent := now - raisedHandsMessageInterval }

def lowerRaisedHand (call : Call externals) (demuxId : DemuxId)
    (now : Instant) : Call externals :=
  match call.raisedHands with
  | none => call
  | some hands =>
      match hands.find? (·.demuxId = demuxId) with
      | none => call
      | some hand =>
          if hand.raise then
            { call with
              raisedHands := some (modifyFirst (·.demuxId = demuxId)
                (fun raised => { raised with raise := false })
                hands) }.sendRaisedHandsOnNextTick now
          else call

/-- Only the hands and the time of their last message change. -/
theorem lowerRaisedHand_frame (call : Call externals) (demuxId : DemuxId)
    (now : Instant) :
    call.lowerRaisedHand demuxId now =
      { call with
        raisedHands := (call.lowerRaisedHand demuxId now).raisedHands
        raisedHandsSent :=
          (call.lowerRaisedHand demuxId now).raisedHandsSent } := by
  unfold lowerRaisedHand
  split
  · rfl
  · split
    · rfl
    · split
      · rfl
      · rfl

/-- Drop a client that is not active. -/
def dropNonParticipant (call : Call externals) (demuxId : DemuxId)
    (now : Instant) : Call externals :=
  match call.pendingClients.findIdx? (·.demuxId = demuxId) with
  | some index =>
      let announced := call.willAddOrRemoveClient now
      { announced with pendingClients := swapRemove call.pendingClients index }
  | none =>
      match call.removedClients.findIdx? (·.demuxId = demuxId) with
      | some index =>
          { call with removedClients := swapRemove call.removedClients index }
      | none => call

def dropClient (call : Call externals) (demuxId : DemuxId) (now : Instant) :
    Call externals :=
  match call.removeClient demuxId now with
  | some (_, remaining) => remaining.lowerRaisedHand demuxId now
  | none => (call.dropNonParticipant demuxId now).lowerRaisedHand demuxId now

/-- Like `drop_client`, but the client stays in the removed list until it
leaves.  Approval is revoked when this was the user's only device. -/
def forceRemoveClient (call : Call externals) (demuxId : DemuxId)
    (now : Instant) : Call externals :=
  match call.removeClient demuxId now with
  | none => call
  | some (client, remaining) =>
      { remaining with
        approvedUsers :=
          if remaining.clients.any (·.userId = client.userId) then
            remaining.approvedUsers
          else remaining.approvedUsers.remove client.userId
        removedClients :=
          remaining.removedClients ++ [client.toNonParticipant] }.lowerRaisedHand
            demuxId now

/-- Remove every active client of the user and block it. -/
def blockClient (call : Call externals) (demuxId : DemuxId) (now : Instant) :
    Call externals :=
  match call.findClient demuxId with
  | none => call
  | some client =>
      let announced := call.willAddOrRemoveClient now
      let blocked := call.clients.filter (·.userId = client.userId)
      let updated := { announced with
        clients := call.clients.filter (·.userId ≠ client.userId)
        removedClients := call.removedClients ++
          blocked.map Client.toNonParticipant }.updateForRemovedClients
            (blocked.map Client.demuxId) now
      { updated with
        approvedUsers := updated.approvedUsers.remove client.userId
        blockedUsers := insert client.userId updated.blockedUsers }

end Call

end CallingService.Backend
