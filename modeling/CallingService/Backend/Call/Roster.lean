import CallingService.Backend.Call.MessageRules

/-!
# The roster of a call

The roster forgets the media of a call: it keeps who is active, who waits, who
has been removed, and which users are approved, denied and blocked.  Every
operation of a call does on the roster what its counterpart here does; what
belongs to media does nothing.
-/

namespace CallingService.Backend

open Foundation

structure Roster where
  newClientsRequireApproval : Bool
  persistApprovalForAllUsersWhoJoin : Bool
  active : List NonParticipantClient
  pending : List NonParticipantClient
  removed : List NonParticipantClient
  approved : Finset UserId
  denied : Finset UserId
  blocked : Finset UserId
deriving DecidableEq

inductive AdminAction where
  | approve (target : DemuxId)
  | deny (target : DemuxId)
  | remove (target : DemuxId)
  | block (target : DemuxId)
deriving DecidableEq, Repr

/-- The targets that are demux ids. -/
def wellFormedTargets (actions : List GenericAdminAction) : List DemuxId :=
  actions.filterMap fun action => action.targetDemuxId.bind DemuxId.tryFrom

/-- The actions of a message in the order in which they are carried out. -/
def DeviceToSfu.adminActions (proto : DeviceToSfu) : List AdminAction :=
  (wellFormedTargets proto.approve).map .approve ++
    (wellFormedTargets proto.deny).map .deny ++
    (wellFormedTargets proto.remove).map .remove ++
    (wellFormedTargets proto.block).map .block

namespace Roster

def findActive (roster : Roster) (demuxId : DemuxId) :
    Option NonParticipantClient :=
  roster.active.find? (·.demuxId = demuxId)

def findPending (roster : Roster) (demuxId : DemuxId) :
    Option NonParticipantClient :=
  roster.pending.find? (·.demuxId = demuxId)

def hasActive (roster : Roster) (user : UserId) : Prop :=
  ∃ client ∈ roster.active, client.userId = user

def hasPending (roster : Roster) (user : UserId) : Prop :=
  ∃ client ∈ roster.pending, client.userId = user

instance (roster : Roster) (user : UserId) : Decidable (roster.hasActive user) :=
  inferInstanceAs (Decidable (∃ client ∈ roster.active, client.userId = user))

instance (roster : Roster) (user : UserId) :
    Decidable (roster.hasPending user) :=
  inferInstanceAs (Decidable (∃ client ∈ roster.pending, client.userId = user))

/-! ## Operations -/

def add (roster : Roster) (client : NonParticipantClient) : Roster :=
  if client.userId ∈ roster.blocked then
    { roster with removed := roster.removed ++ [client] }
  else if client.isAdmin ∨ roster.newClientsRequireApproval = false ∨
      client.userId ∈ roster.approved then
    { roster with
      active := roster.active ++ [client]
      approved :=
        if roster.persistApprovalForAllUsersWhoJoin then
          insert client.userId roster.approved
        else roster.approved }
  else { roster with pending := roster.pending ++ [client] }

/-- Take an active client out. -/
def takeActive (roster : Roster) (demuxId : DemuxId) :
    Option (NonParticipantClient × Roster) := do
  let index ← roster.active.findIdx? (·.demuxId = demuxId)
  let client ← roster.active[index]?
  return (client, { roster with active := swapRemove roster.active index })

def dropNonParticipant (roster : Roster) (demuxId : DemuxId) : Roster :=
  match roster.pending.findIdx? (·.demuxId = demuxId) with
  | some index => { roster with pending := swapRemove roster.pending index }
  | none =>
      match roster.removed.findIdx? (·.demuxId = demuxId) with
      | some index => { roster with removed := swapRemove roster.removed index }
      | none => roster

def drop (roster : Roster) (demuxId : DemuxId) : Roster :=
  match roster.takeActive demuxId with
  | some (_, remaining) => remaining
  | none => roster.dropNonParticipant demuxId

def approve (roster : Roster) (demuxId : DemuxId) : Roster :=
  match roster.findPending demuxId with
  | none => roster
  | some client =>
      { roster with
        active := roster.active ++
          roster.pending.filter (·.userId = client.userId)
        pending := roster.pending.filter (·.userId ≠ client.userId)
        denied := roster.denied.erase client.userId
        approved := insert client.userId roster.approved }

def deny (roster : Roster) (demuxId : DemuxId) : Roster :=
  match roster.findPending demuxId with
  | none => roster
  | some client =>
      { roster with
        pending := roster.pending.filter (·.userId ≠ client.userId)
        removed := roster.removed ++
          roster.pending.filter (·.userId = client.userId)
        denied := insert client.userId roster.denied
        blocked :=
          if client.userId ∈ roster.denied then
            insert client.userId roster.blocked
          else roster.blocked }

def remove (roster : Roster) (demuxId : DemuxId) : Roster :=
  match roster.takeActive demuxId with
  | none => roster
  | some (client, remaining) =>
      { remaining with
        approved :=
          if remaining.active.any (·.userId = client.userId) then
            remaining.approved
          else remaining.approved.erase client.userId
        removed := remaining.removed ++ [client] }

def block (roster : Roster) (demuxId : DemuxId) : Roster :=
  match roster.findActive demuxId with
  | none => roster
  | some client =>
      { roster with
        active := roster.active.filter (·.userId ≠ client.userId)
        removed := roster.removed ++
          roster.active.filter (·.userId = client.userId)
        approved := roster.approved.erase client.userId
        blocked := insert client.userId roster.blocked }

def act (roster : Roster) : AdminAction → Roster
  | .approve target => roster.approve target
  | .deny target => roster.deny target
  | .remove target => roster.remove target
  | .block target => roster.block target

/-- The messages of an active client; only those of an admin act. -/
def handleProtos (senderDemuxId : DemuxId) :
    List DeviceToSfu → Roster → Roster
  | [], roster => roster
  | proto :: rest, roster =>
      match roster.findActive senderDemuxId with
      | none => roster
      | some sender =>
          handleProtos senderDemuxId rest
            (if sender.isAdmin then proto.adminActions.foldl act roster
              else roster)

end Roster

namespace Call

variable {externals : CallExternals}

def roster (call : Call externals) : Roster where
  newClientsRequireApproval := call.newClientsRequireApproval
  persistApprovalForAllUsersWhoJoin := call.persistApprovalForAllUsersWhoJoin
  active := call.clients.map Client.toNonParticipant
  pending := call.pendingClients
  removed := call.removedClients
  approved := call.approvedUsers.set
  denied := call.deniedUsers
  blocked := call.blockedUsers

/-! ## Operations that keep the roster -/

theorem roster_modifyClient {call : Call externals} {demuxId : DemuxId}
    {change : Client externals → Client externals}
    (kept : ∀ {client}, call.findClient demuxId = some client →
      (change client).toNonParticipant = client.toNonParticipant) :
    (call.modifyClient demuxId change).roster = call.roster := by
  have same : (modifyFirst (·.demuxId = demuxId) change call.clients).map
      Client.toNonParticipant = call.clients.map Client.toNonParticipant :=
    map_modifyFirst kept
  unfold roster modifyClient
  dsimp only
  rw [same]

@[simp] theorem roster_allocateVideoLayers (call : Call externals)
    (receiver : DemuxId) (target minTarget : DataRate) (now : Instant) :
    (call.allocateVideoLayers receiver target minTarget now).roster =
      call.roster := by
  apply roster_modifyClient
  intro client _
  rfl

@[simp] theorem roster_allocateForReceivers (call : Call externals)
    (receivers : List (Client externals)) (now : Instant) :
    (call.allocateForReceivers receivers now).roster = call.roster := by
  unfold allocateForReceivers
  induction receivers generalizing call with
  | nil => rfl
  | cons receiver rest ih => rw [List.foldl_cons, ih, roster_allocateVideoLayers]

@[simp] theorem roster_updatePaddingSsrcs (call : Call externals) :
    call.updatePaddingSsrcs.roster = call.roster := by
  unfold roster updatePaddingSsrcs
  dsimp only
  congr 1
  split
  · rename_i empty
    rw [empty]
  · rename_i single
    rw [single]
    rfl
  · rename_i several
    rw [several]
    simp [setPaddingSsrc, Client.toNonParticipant]

@[simp] theorem roster_dropForwarders (call : Call externals)
    (removed : List DemuxId) :
    (call.dropForwarders removed).roster = call.roster := by
  unfold roster dropForwarders
  simp [forgetSenders, Client.toNonParticipant]

@[simp] theorem roster_updateForRemovedClients (call : Call externals)
    (removed : List DemuxId) (now : Instant) :
    (call.updateForRemovedClients removed now).roster = call.roster := by
  unfold updateForRemovedClients reallocateTargetSendRates
  simp

@[simp] theorem roster_willAddOrRemoveClient (call : Call externals)
    (now : Instant) : (call.willAddOrRemoveClient now).roster = call.roster :=
  rfl

@[simp] theorem roster_lowerRaisedHand (call : Call externals)
    (demuxId : DemuxId) (now : Instant) :
    (call.lowerRaisedHand demuxId now).roster = call.roster := by
  rw [lowerRaisedHand_frame]
  rfl

@[simp] theorem roster_handleRaiseHand (call : Call externals) (now : Instant)
    (message : RaiseHand) (sender : DemuxId) :
    (call.handleRaiseHand now message sender).roster = call.roster := by
  rw [handleRaiseHand_frame]
  rfl

@[simp] theorem roster_handleVideoRequest (call : Call externals)
    (sender : Client externals) (request : Option VideoRequestMessage)
    (now : Instant) :
    (call.handleVideoRequest sender request now).roster = call.roster := by
  unfold handleVideoRequest
  split
  · rfl
  · split
    · rfl
    · rw [roster_allocateVideoLayers]
      apply roster_modifyClient
      intro client _
      rfl

/-! ## Operations on the roster -/

@[simp] theorem findActive_roster (call : Call externals) (demuxId : DemuxId) :
    call.roster.findActive demuxId =
      (call.findClient demuxId).map Client.toNonParticipant := by
  unfold Roster.findActive findClient roster
  rw [List.find?_map]
  rfl

theorem roster_promoteClient (call : Call externals)
    (pending : NonParticipantClient) (now : Instant) :
    (call.promoteClient pending now).roster =
      { call.roster with active := call.roster.active ++ [pending] } := by
  unfold promoteClient
  rw [roster_updatePaddingSsrcs, roster_allocateVideoLayers]
  unfold roster pushClient willAddOrRemoveClient
  simp

theorem roster_addClient (call : Call externals) (demuxId : DemuxId)
    (userId : UserId) (isAdmin : Bool) (regionRelation : RegionRelation)
    (now : Instant) :
    (call.addClient demuxId userId isAdmin regionRelation now).2.roster =
      call.roster.add ⟨demuxId, userId, isAdmin, regionRelation, 1⟩ := by
  have blocked : call.roster.blocked = call.blockedUsers := rfl
  have approved : call.roster.approved = call.approvedUsers.set := rfl
  have approval : call.roster.newClientsRequireApproval =
      call.newClientsRequireApproval := rfl
  unfold addClient Roster.add
  rw [blocked, approved, approval]
  dsimp only
  split
  · rfl
  · split
    · rw [roster_promoteClient]
      cases persist : call.persistApprovalForAllUsersWhoJoin with
      | true => simp [roster, persist]
      | false => simp [roster, persist]
    · rfl

theorem roster_promoteAll (pending : List NonParticipantClient)
    (call : Call externals) (now : Instant) :
    (pending.foldl (fun promoted client => promoted.promoteClient client now)
        call).roster =
      { call.roster with active := call.roster.active ++ pending } := by
  induction pending generalizing call with
  | nil => simp
  | cons client rest ih =>
      rw [List.foldl_cons, ih, roster_promoteClient]
      simp

theorem roster_approvePendingClient (call : Call externals)
    (demuxId : DemuxId) (now : Instant) :
    (call.approvePendingClient demuxId now).roster =
      call.roster.approve demuxId := by
  have found : call.roster.findPending demuxId = call.findPending demuxId := rfl
  unfold approvePendingClient Roster.approve
  rw [found]
  cases call.findPending demuxId with
  | none => rfl
  | some client =>
      have promoted := roster_promoteAll
        (call.pendingClients.filter (·.userId = client.userId))
        { call with
          pendingClients :=
            call.pendingClients.filter (·.userId ≠ client.userId) } now
      simp only [roster, Roster.mk.injEq] at promoted
      obtain ⟨approval, persist, active, pending, removed, approved, denied,
        blocked⟩ := promoted
      simp only [roster, approval, persist, active, pending, removed, approved,
        denied, blocked, ApprovedUsers.insert_set]

theorem roster_denyPendingClient (call : Call externals) (demuxId : DemuxId)
    (now : Instant) :
    (call.denyPendingClient demuxId now).roster =
      call.roster.deny demuxId := by
  have found : call.roster.findPending demuxId = call.findPending demuxId := rfl
  unfold denyPendingClient Roster.deny
  rw [found]
  cases call.findPending demuxId with
  | none => rfl
  | some client => rfl

theorem roster_removeClient (call : Call externals) (demuxId : DemuxId)
    (now : Instant) :
    call.roster.takeActive demuxId =
      (call.removeClient demuxId now).map fun removed =>
        (removed.1.toNonParticipant, removed.2.roster) := by
  unfold Roster.takeActive removeClient
  have active : call.roster.active =
      call.clients.map Client.toNonParticipant := rfl
  rw [active, List.findIdx?_map]
  simp only [Option.bind_eq_bind]
  have sameTest : ((fun client : NonParticipantClient =>
      decide (client.demuxId = demuxId)) ∘ Client.toNonParticipant) =
        fun client : Client externals => decide (client.demuxId = demuxId) := rfl
  rw [sameTest]
  cases call.clients.findIdx? (fun client => decide (client.demuxId = demuxId))
    with
  | none => rfl
  | some index =>
      simp only [Option.bind_some, List.getElem?_map]
      cases call.clients[index]? with
      | none => rfl
      | some client =>
          simp only [Option.map_some, Option.bind_some, pure,
            roster_updateForRemovedClients, ← map_swapRemove]
          rfl

theorem roster_dropClient (call : Call externals) (demuxId : DemuxId)
    (now : Instant) :
    (call.dropClient demuxId now).roster = call.roster.drop demuxId := by
  unfold dropClient Roster.drop
  rw [roster_removeClient call demuxId now]
  cases call.removeClient demuxId now with
  | some removed => simp
  | none =>
      simp only [Option.map_none, roster_lowerRaisedHand]
      unfold dropNonParticipant Roster.dropNonParticipant
      have pending : call.roster.pending = call.pendingClients := rfl
      have removed : call.roster.removed = call.removedClients := rfl
      rw [pending, removed]
      cases call.pendingClients.findIdx? (·.demuxId = demuxId) with
      | some index => rfl
      | none =>
          cases call.removedClients.findIdx? (·.demuxId = demuxId) with
          | some index => rfl
          | none => rfl

theorem roster_forceRemoveClient (call : Call externals) (demuxId : DemuxId)
    (now : Instant) :
    (call.forceRemoveClient demuxId now).roster =
      call.roster.remove demuxId := by
  unfold forceRemoveClient Roster.remove
  rw [roster_removeClient call demuxId now]
  cases call.removeClient demuxId now with
  | none => rfl
  | some removed =>
      obtain ⟨client, remaining⟩ := removed
      simp only [Option.map_some, roster_lowerRaisedHand]
      have others : remaining.roster.active.any
          (fun other => other.userId = client.userId) =
            remaining.clients.any fun other => other.userId = client.userId := by
        unfold roster
        rw [List.any_map]
        rfl
      unfold Client.toNonParticipant at others ⊢
      dsimp only at others ⊢
      rw [others]
      split
      · rfl
      · simp [roster]

theorem roster_blockClient (call : Call externals) (demuxId : DemuxId)
    (now : Instant) :
    (call.blockClient demuxId now).roster = call.roster.block demuxId := by
  unfold blockClient Roster.block
  rw [findActive_roster]
  cases call.findClient demuxId with
  | none => rfl
  | some client =>
      have kept := roster_updateForRemovedClients
        { call.willAddOrRemoveClient now with
          clients := call.clients.filter (·.userId ≠ client.userId)
          removedClients := call.removedClients ++
            (call.clients.filter (·.userId = client.userId)).map
              Client.toNonParticipant }
        ((call.clients.filter (·.userId = client.userId)).map Client.demuxId)
        now
      simp only [roster, Roster.mk.injEq] at kept
      obtain ⟨approval, persist, active, pending, removed, approved, denied,
        blocked⟩ := kept
      simp only [roster, Option.map_some, approval, persist, active, pending,
        removed, approved, denied, blocked, ApprovedUsers.remove_set,
        List.filter_map]
      rfl

/-! ## Messages on the roster -/

theorem roster_forTargets
    {act : Call externals → DemuxId → Instant → Call externals}
    (action : DemuxId → AdminAction)
    (simulated : ∀ call target now,
      (act call target now).roster = call.roster.act (action target))
    (actions : List GenericAdminAction) (call : Call externals)
    (now : Instant) :
    (forTargets act actions call now).roster =
      ((wellFormedTargets actions).map action).foldl Roster.act
        call.roster := by
  unfold forTargets wellFormedTargets
  generalize actions.filterMap
    (fun action => action.targetDemuxId.bind DemuxId.tryFrom) = targets
  induction targets generalizing call with
  | nil => rfl
  | cons target rest ih =>
      rw [List.foldl_cons, ih, List.map_cons, List.foldl_cons, simulated]

theorem roster_handleAdminActions (call : Call externals)
    (proto : DeviceToSfu) (now : Instant) :
    (call.handleAdminActions proto now).roster =
      proto.adminActions.foldl Roster.act call.roster := by
  unfold handleAdminActions DeviceToSfu.adminActions
  rw [roster_forTargets .block roster_blockClient,
    roster_forTargets .remove roster_forceRemoveClient,
    roster_forTargets .deny roster_denyPendingClient,
    roster_forTargets .approve roster_approvePendingClient]
  simp only [List.foldl_append]

theorem roster_handleReadyProto (call : Call externals)
    (sender : Client externals) (proto : DeviceToSfu) (now : Instant) :
    (call.handleReadyProto sender proto now).roster =
      if sender.isAdmin then proto.adminActions.foldl Roster.act call.roster
      else call.roster := by
  have acted : (if sender.isAdmin then
        (call.handleVideoRequest sender proto.videoRequest
          now).handleAdminActions proto now
      else call.handleVideoRequest sender proto.videoRequest now).roster =
        if sender.isAdmin then proto.adminActions.foldl Roster.act call.roster
        else call.roster := by
    split
    · rw [roster_handleAdminActions, roster_handleVideoRequest]
    · rw [roster_handleVideoRequest]
  unfold handleReadyProto
  cases proto.raiseHand with
  | none => exact acted
  | some message =>
      rw [← acted]
      exact roster_handleRaiseHand _ now message sender.demuxId

theorem roster_handleReadyProtos (senderDemuxId : DemuxId) (now : Instant)
    (protos : List DeviceToSfu) (call : Call externals) :
    (handleReadyProtos senderDemuxId now protos call).2.roster =
      call.roster.handleProtos senderDemuxId protos := by
  induction protos generalizing call with
  | nil => rfl
  | cons proto rest ih =>
      unfold handleReadyProtos Roster.handleProtos
      rw [findActive_roster]
      cases call.findClient senderDemuxId with
      | none => rfl
      | some sender =>
          simp only [Option.map_some]
          rw [ih, roster_handleReadyProto]
          rfl

/-- The messages that one packet makes ready. -/
def readyProtos (call : Call externals) (proto : DeviceToSfu)
    (senderDemuxId : DemuxId) : List DeviceToSfu :=
  match call.findClient senderDemuxId, proto.mrpHeader with
  | none, _ => []
  | some _, none => [proto]
  | some sender, some header =>
      match (externals.mrpReceive sender.reliableMrpStream header proto).2 with
      | .error _ => []
      | .ok ready => ready

theorem roster_handleDeviceToSfu (call : Call externals)
    (proto : DeviceToSfu) (senderDemuxId : DemuxId) (now : Instant) :
    (call.handleDeviceToSfu proto senderDemuxId now).2.roster =
      if proto.leave then call.roster.drop senderDemuxId
      else call.roster.handleProtos senderDemuxId
        (call.readyProtos proto senderDemuxId) := by
  unfold handleDeviceToSfu readyProtos
  split
  · exact roster_dropClient call senderDemuxId now
  · cases found : call.findClient senderDemuxId with
    | none => rfl
    | some sender =>
        cases proto.mrpHeader with
        | none => exact roster_handleReadyProtos senderDemuxId now [proto] call
        | some header =>
            have kept : (call.modifyClient senderDemuxId
                (setMrpStream (externals.mrpReceive sender.reliableMrpStream
                  header proto).1)).roster = call.roster :=
              roster_modifyClient (fun _ => rfl)
            dsimp only
            cases (externals.mrpReceive sender.reliableMrpStream header
                proto).2 with
            | error cause => exact kept
            | ok ready =>
                dsimp only
                rw [roster_handleReadyProtos, kept]

/-! ## Media keeps the roster -/

theorem map_forwardToReceivers {senderDemuxId : DemuxId}
    {forward : Client externals →
      Except Panic (Client externals × Option Rtp.Packet)}
    (kept : ∀ {receiver forwarded}, forward receiver = .ok forwarded →
      forwarded.1.toNonParticipant = receiver.toNonParticipant)
    {clients : List (Client externals)}
    {result : List (Client externals) × List RtpToSend}
    (forwarded : forwardToReceivers senderDemuxId forward clients =
      .ok result) :
    result.1.map Client.toNonParticipant =
      clients.map Client.toNonParticipant := by
  induction clients generalizing result with
  | nil =>
      cases forwarded
      rfl
  | cons receiver rest ih =>
      unfold forwardToReceivers at forwarded
      split at forwarded
      · obtain ⟨others, fromRest, returned⟩ := bind_eq_ok_iff.mp forwarded
        cases returned
        simp [ih fromRest]
      · obtain ⟨first, fromFirst, rest⟩ := bind_eq_ok_iff.mp forwarded
        obtain ⟨others, fromRest, returned⟩ := bind_eq_ok_iff.mp rest
        cases returned
        simp [kept fromFirst, ih fromRest]

theorem toNonParticipant_forwardMedia {layer : LayerId}
    {incomingRtp : Rtp.Packet} {incomingVp8 : Option VideoHeader}
    {receiver : Client externals}
    {forwarded : Client externals × Option Rtp.Packet}
    (succeeded : forwardMedia layer incomingRtp incomingVp8 receiver =
      .ok forwarded) :
    forwarded.1.toNonParticipant = receiver.toNonParticipant := by
  have audio : ∀ {result}, receiver.forwardAudioRtp incomingRtp = .ok result →
      result.1.toNonParticipant = receiver.toNonParticipant := by
    intro result forwarded
    obtain ⟨_, _, returned⟩ := bind_eq_ok_iff.mp forwarded
    cases returned
    rfl
  have data : ∀ {result}, receiver.forwardDataRtp incomingRtp = .ok result →
      result.1.toNonParticipant = receiver.toNonParticipant := by
    intro result forwarded
    obtain ⟨_, _, returned⟩ := bind_eq_ok_iff.mp forwarded
    cases returned
    rfl
  have video : ∀ {result},
      receiver.forwardVideoRtp incomingRtp incomingVp8 = .ok result →
        result.1.toNonParticipant = receiver.toNonParticipant := by
    intro result forwarded
    cases incomingVp8 with
    | none =>
        cases forwarded
        rfl
    | some header =>
        obtain ⟨_, _, returned⟩ := bind_eq_ok_iff.mp forwarded
        cases returned
        rfl
  cases layer with
  | audio =>
      unfold forwardMedia at succeeded
      dsimp only at succeeded
      split at succeeded
      · cases succeeded
        rfl
      · exact audio succeeded
  | rtpData => exact data succeeded
  | video0 => exact video succeeded
  | video1 => exact video succeeded
  | video2 => exact video succeeded

theorem toNonParticipant_updateIncomingVideo (client : Client externals)
    (layer : Fin 3) (incomingRtp : Rtp.Packet) (incomingVp8 : VideoHeader)
    (now : Instant) :
    (client.updateIncomingVideo layer incomingRtp incomingVp8
      now).toNonParticipant = client.toNonParticipant := by
  unfold Client.updateIncomingVideo
  dsimp only
  split
  · rfl
  · rfl

theorem toNonParticipant_receiveVideo {sender : Client externals}
    {incomingRtp : Rtp.Packet} {now : Instant}
    {result : Option VideoHeader × Client externals}
    (received : receiveVideo sender incomingRtp now = .ok (.ok result)) :
    result.2.toNonParticipant = sender.toNonParticipant := by
  rcases receiveVideo_eq_ok received with
    ⟨_, rfl⟩ | ⟨layer, incomingVp8, _, rfl⟩
  · rfl
  · exact toNonParticipant_updateIncomingVideo sender layer incomingRtp
      incomingVp8 now

theorem toNonParticipant_pushAudioLevel (incomingRtp : Rtp.Packet)
    (sender : Client externals) :
    (pushAudioLevel incomingRtp sender).toNonParticipant =
      sender.toNonParticipant := by
  unfold pushAudioLevel
  split
  · rfl
  · rfl

theorem roster_forwardFromSender {call after : Call externals}
    {senderDemuxId : DemuxId} {incomingRtp : Rtp.Packet}
    {incomingVp8 : Option VideoHeader}
    {result : Except (CallError externals) (List RtpToSend)}
    (handled : call.forwardFromSender senderDemuxId incomingRtp incomingVp8 =
      .ok (result, after)) : after.roster = call.roster := by
  rcases forwardFromSender_eq_ok handled with
    ⟨_, _, rfl⟩ | ⟨layer, forwarded, _, succeeded, _, rfl⟩
  · rfl
  · have kept := map_forwardToReceivers toNonParticipant_forwardMedia succeeded
    unfold roster
    dsimp only
    rw [kept]

theorem roster_handleMediaRtp {call after : Call externals}
    {senderDemuxId : DemuxId} {incomingRtp : Rtp.Packet} {now : Instant}
    {result : Except (CallError externals) (List RtpToSend)}
    (handled : call.handleMediaRtp senderDemuxId incomingRtp now =
      .ok (result, after)) : after.roster = call.roster := by
  rcases handleMediaRtp_eq_ok handled with
    ⟨_, _, rfl⟩ | ⟨sender, updated, found, _, received, forwarded⟩
  · rfl
  · rw [roster_forwardFromSender forwarded]
    apply roster_modifyClient
    intro client isSender
    rw [found] at isSender
    cases isSender
    rw [toNonParticipant_pushAudioLevel, toNonParticipant_receiveVideo received]

theorem roster_updateIncomingRates (call : Call externals) (now : Instant) :
    (call.updateIncomingRates now).roster = call.roster := by
  unfold roster updateIncomingRates
  simp [Client.toNonParticipant]

theorem roster_calculateActiveSpeaker (call : Call externals)
    (now : Instant) :
    (call.calculateActiveSpeaker now).2.roster = call.roster := by
  rcases call.calculateActiveSpeaker_cases now with
    same | ⟨mostActive, _, _, changed⟩
  · rw [same]
  · have marked : (call.modifyClient mostActive.demuxId fun client =>
        { client with becameActiveSpeaker := some now }).roster =
          call.roster := roster_modifyClient (fun _ => rfl)
    rw [changed]
    exact marked

theorem roster_tickForwarding (call : Call externals) (now : Instant) :
    (call.tickForwarding now).roster = call.roster := by
  unfold tickForwarding reallocateTargetSendRatesIfItsBeenTooLong
  rw [roster_allocateForReceivers]
  split
  · rw [roster_calculateActiveSpeaker]
    exact roster_updateIncomingRates call now
  · exact roster_updateIncomingRates call now

end Call

end CallingService.Backend
