import CallingService.Backend.Call.Ledger

/-!
# When the clients of a call changed

A call remembers when a client was added or removed last, and when its clients
were told so.  Whatever changes the active or the pending clients writes the
first time; only a tick writes the second one.
-/

namespace CallingService.Backend

open Foundation Rtp

variable {externals : CallExternals}

namespace Roster

/-- The demux ids of the active and of the pending clients. -/
def joinedIds (roster : Roster) : List DemuxId × List DemuxId :=
  (roster.active.map NonParticipantClient.demuxId,
    roster.pending.map NonParticipantClient.demuxId)

/-- How often the clients can still be approved, denied or removed. -/
def moves (roster : Roster) : Nat :=
  roster.active.length + 2 * roster.pending.length

theorem moves_of_joinedIds {before after : Roster}
    (same : after.joinedIds = before.joinedIds) :
    after.moves = before.moves := by
  have active := congrArg (fun ids => ids.1.length) same
  have pending := congrArg (fun ids => ids.2.length) same
  simp only [joinedIds, List.length_map] at active pending
  simp [moves, active, pending]

/-- A client that is not blocked joins at the end of one of the lists. -/
theorem joinedIds_add_ne {roster : Roster} {client : NonParticipantClient}
    (allowed : client.userId ∉ roster.blocked) :
    (roster.add client).joinedIds ≠ roster.joinedIds := by
  unfold add
  rw [if_neg allowed]
  intro same
  split at same
  · have active := congrArg (fun ids => ids.1.length) same
    simp [joinedIds] at active
  · have pending := congrArg (fun ids => ids.2.length) same
    simp [joinedIds] at pending

end Roster

def Ledger.updateTimes (ledger : Ledger) : Instant × Instant :=
  (ledger.clientAddedOrRemoved, ledger.clientsUpdateSent)

theorem Ledger.updateTimes_recalculate (ledger : Ledger)
    (newActiveSpeaker : Option DemuxId) (now : Instant) :
    (ledger.recalculate newActiveSpeaker now).updateTimes =
      ledger.updateTimes := by
  unfold recalculate
  split
  · rfl
  · rfl

theorem Ledger.RequestsNoted.updateTimes {before after : Ledger}
    (noted : before.RequestsNoted after) :
    after.updateTimes = before.updateTimes := by
  obtain ⟨requestsSent, table, rfl⟩ := noted
  rfl

namespace Call

/-- The times that decide whether the clients are told about a change. -/
def updateTimes (call : Call externals) : Instant × Instant :=
  (call.clientAddedOrRemoved, call.clientsUpdateSent)

@[simp] theorem clients_willAddOrRemoveClient (call : Call externals)
    (now : Instant) :
    (call.willAddOrRemoveClient now).clients = call.clients := rfl

@[simp] theorem pendingClients_willAddOrRemoveClient (call : Call externals)
    (now : Instant) :
    (call.willAddOrRemoveClient now).pendingClients = call.pendingClients :=
  rfl

theorem updateTimes_ledger (call : Call externals) :
    call.ledger.updateTimes = call.updateTimes := rfl

/-- What leaves the ledger alone leaves the times alone. -/
theorem updateTimes_of_ledger {before after : Call externals}
    (same : after.ledger = before.ledger) :
    after.updateTimes = before.updateTimes :=
  congrArg Ledger.updateTimes same

theorem updateTimes_tickForwarding (call : Call externals) (now : Instant) :
    (call.tickForwarding now).updateTimes = call.updateTimes := by
  rw [← updateTimes_ledger, ledger_tickForwarding,
    Ledger.updateTimes_recalculate, updateTimes_ledger]

/-! ## Moves -/

/-- Nobody has moved, or somebody has, at the given time.  Nobody can move
forever, so that moves cannot cancel each other out. -/
inductive Moves (now : Instant) (before after : Call externals) : Prop where
  | stayed : after.roster.joinedIds = before.roster.joinedIds →
      after.updateTimes = before.updateTimes → Moves now before after
  | moved : after.roster.moves < before.roster.moves →
      after.updateTimes = (now, before.clientsUpdateSent) →
      Moves now before after

namespace Moves

variable {now : Instant} {first second third before after : Call externals}

theorem of_same (roster : after.roster = before.roster)
    (times : after.updateTimes = before.updateTimes) :
    Moves now before after :=
  .stayed (congrArg Roster.joinedIds roster) times

theorem refl (call : Call externals) : Moves now call call :=
  .stayed rfl rfl

theorem clientsUpdateSent (moves : Moves now before after) :
    after.clientsUpdateSent = before.clientsUpdateSent := by
  cases moves with
  | stayed _ times => exact congrArg Prod.snd times
  | moved _ times => exact congrArg Prod.snd times

theorem trans (one : Moves now first second) (two : Moves now second third) :
    Moves now first third := by
  have sameSent := one.clientsUpdateSent
  cases one with
  | stayed sameIds sameTimes =>
      cases two with
      | stayed laterIds laterTimes =>
          exact .stayed (laterIds.trans sameIds) (laterTimes.trans sameTimes)
      | moved fewer times =>
          rw [Roster.moves_of_joinedIds sameIds] at fewer
          rw [sameSent] at times
          exact .moved fewer times
  | moved fewer times =>
      cases two with
      | stayed laterIds laterTimes =>
          rw [← Roster.moves_of_joinedIds laterIds] at fewer
          exact .moved fewer (laterTimes.trans times)
      | moved evenFewer laterTimes =>
          rw [sameSent] at laterTimes
          exact .moved (evenFewer.trans fewer) laterTimes

/-- One of the two lists has become shorter. -/
theorem of_roster {active pending : List NonParticipantClient}
    (isActive : after.roster.active = active)
    (isPending : after.roster.pending = pending)
    (shorter : active.length + 2 * pending.length < before.roster.moves)
    (times : after.updateTimes = (now, before.clientsUpdateSent)) :
    Moves now before after := by
  refine .moved ?_ times
  unfold Roster.moves
  rw [isActive, isPending]
  exact shorter

end Moves

/-! ### Joining and leaving -/

theorem addClient_moves (call : Call externals) (demuxId : DemuxId)
    (userId : UserId) (isAdmin : Bool) (regionRelation : RegionRelation)
    (now : Instant) :
    let after := (call.addClient demuxId userId isAdmin regionRelation now).2
    (after.roster.joinedIds = call.roster.joinedIds ∧
        after.updateTimes = call.updateTimes) ∨
      (after.roster.joinedIds ≠ call.roster.joinedIds ∧
        after.updateTimes = (now, call.clientsUpdateSent)) := by
  intro after
  by_cases blocked : userId ∈ call.blockedUsers
  · left
    have same : after = { call with removedClients := call.removedClients ++
        [⟨demuxId, userId, isAdmin, regionRelation, 1⟩] } := by
      simp [after, addClient, blocked]
    rw [same]
    exact ⟨rfl, rfl⟩
  · right
    have roster : after.roster = call.roster.add
        ⟨demuxId, userId, isAdmin, regionRelation, 1⟩ :=
      call.roster_addClient demuxId userId isAdmin regionRelation now
    constructor
    · rw [roster]
      exact Roster.joinedIds_add_ne blocked
    · have ledger : after.ledger = _ := ledger_addClient
      rw [if_neg blocked] at ledger
      exact congrArg Ledger.updateTimes ledger

theorem moves_approvePendingClient (call : Call externals) (target : DemuxId)
    (now : Instant) :
    Moves now call (call.approvePendingClient target now) := by
  have roster := call.roster_approvePendingClient target now
  cases found : call.findPending target with
  | none =>
      have same : call.approvePendingClient target now = call := by
        simp [approvePendingClient, found]
      rw [same]
      exact .refl call
  | some client =>
      have member : client ∈ call.pendingClients.filter
          (·.userId = client.userId) := by
        simp [List.mem_of_find?_eq_some found]
      have lengths := @List.length_eq_length_filter_add _ call.pendingClients
        (fun pending => decide (pending.userId = client.userId))
      have positive := List.length_pos_of_mem member
      have foundInRoster : call.roster.findPending target = some client := found
      rw [Roster.approve, foundInRoster] at roster
      dsimp only at roster
      apply Moves.of_roster (congrArg Roster.active roster)
        (congrArg Roster.pending roster)
      · simp only [Roster.moves, List.length_append, Call.roster,
          List.length_map, ne_eq, decide_not] at lengths positive ⊢
        omega
      · have ledger := @ledger_approvePendingClient _ now call target
        rw [found] at ledger
        exact congrArg Ledger.updateTimes ledger

theorem moves_denyPendingClient (call : Call externals) (target : DemuxId)
    (now : Instant) :
    Moves now call (call.denyPendingClient target now) := by
  unfold denyPendingClient
  cases found : call.findPending target with
  | none => exact .refl call
  | some client =>
      have fewer : (call.pendingClients.filter
          (·.userId ≠ client.userId)).length < call.pendingClients.length := by
        rw [List.length_filter_lt_length_iff_exists]
        exact ⟨client, List.mem_of_find?_eq_some found, by simp⟩
      apply Moves.of_roster rfl rfl
      · simp only [Roster.moves, Call.roster, List.length_map,
          clients_willAddOrRemoveClient]
        omega
      · rfl

theorem moves_removeClient {call remaining : Call externals}
    {target : DemuxId} {now : Instant} {client : Client externals}
    (removed : call.removeClient target now = some (client, remaining)) :
    remaining.roster.moves < call.roster.moves ∧
      remaining.updateTimes = (now, call.clientsUpdateSent) := by
  obtain ⟨index, position, rest⟩ := Option.bind_eq_some_iff.mp removed
  obtain ⟨same, found, returned⟩ := Option.bind_eq_some_iff.mp rest
  cases returned
  obtain ⟨first, _, _, split⟩ := swapRemove_of_findIdx? position
  have lengths := split.length_eq
  rw [List.length_cons] at lengths
  constructor
  · rw [roster_updateForRemovedClients]
    simp only [Roster.moves, Call.roster, List.length_map,
      pendingClients_willAddOrRemoveClient]
    omega
  · exact congrArg Ledger.updateTimes (ledger_removeClient removed)

theorem moves_dropNonParticipant (call : Call externals) (demuxId : DemuxId)
    (now : Instant) : Moves now call (call.dropNonParticipant demuxId now) := by
  unfold dropNonParticipant
  cases position : call.pendingClients.findIdx? (·.demuxId = demuxId) with
  | some index =>
      obtain ⟨first, _, _, split⟩ := swapRemove_of_findIdx? position
      have lengths := split.length_eq
      rw [List.length_cons] at lengths
      apply Moves.of_roster rfl rfl
      · simp only [Roster.moves, Call.roster, List.length_map,
          clients_willAddOrRemoveClient]
        omega
      · rfl
  | none =>
      dsimp only
      split
      · exact .stayed rfl rfl
      · exact .refl call

theorem Moves.lowerRaisedHand {before after : Call externals} {now : Instant}
    (moves : Moves now before after) (demuxId : DemuxId) (later : Instant) :
    Moves now before (after.lowerRaisedHand demuxId later) :=
  moves.trans (.of_same (roster_lowerRaisedHand after demuxId later)
    (updateTimes_of_ledger (after.ledger_lowerRaisedHand demuxId later)))

theorem moves_dropClient (call : Call externals) (demuxId : DemuxId)
    (now : Instant) : Moves now call (call.dropClient demuxId now) := by
  unfold dropClient
  cases removed : call.removeClient demuxId now with
  | none => exact (call.moves_dropNonParticipant demuxId now).lowerRaisedHand _ _
  | some pair =>
      obtain ⟨client, remaining⟩ := pair
      obtain ⟨fewer, times⟩ := moves_removeClient removed
      exact (Moves.moved fewer times).lowerRaisedHand _ _

theorem moves_forceRemoveClient (call : Call externals) (demuxId : DemuxId)
    (now : Instant) : Moves now call (call.forceRemoveClient demuxId now) := by
  unfold forceRemoveClient
  cases removed : call.removeClient demuxId now with
  | none => exact .refl call
  | some pair =>
      obtain ⟨client, remaining⟩ := pair
      obtain ⟨fewer, times⟩ := moves_removeClient removed
      apply Moves.lowerRaisedHand
      exact .moved fewer times

theorem moves_blockClient (call : Call externals) (demuxId : DemuxId)
    (now : Instant) : Moves now call (call.blockClient demuxId now) := by
  have roster := call.roster_blockClient demuxId now
  cases found : call.findClient demuxId with
  | none =>
      have same : call.blockClient demuxId now = call := by
        simp [blockClient, found]
      rw [same]
      exact .refl call
  | some client =>
      have member : client.toNonParticipant ∈ call.roster.active :=
        List.mem_map_of_mem (List.mem_of_find?_eq_some found)
      have foundInRoster : call.roster.findActive demuxId =
          some client.toNonParticipant := by
        unfold Roster.findActive Call.roster
        dsimp only
        rw [List.find?_map]
        exact congrArg (Option.map Client.toNonParticipant) found
      have fewer : (call.roster.active.filter (·.userId ≠
          client.toNonParticipant.userId)).length <
            call.roster.active.length := by
        rw [List.length_filter_lt_length_iff_exists]
        exact ⟨_, member, by simp⟩
      rw [Roster.block, foundInRoster] at roster
      dsimp only at roster
      apply Moves.of_roster (congrArg Roster.active roster)
        (congrArg Roster.pending roster)
      · simp only [Roster.moves]
        omega
      · exact congrArg Ledger.updateTimes (ledger_blockClient found)

/-! ### Messages -/

theorem messageRelation_moves (now : Instant) :
    MessageRelation now (@Moves externals now) where
  refl := Moves.refl
  trans := Moves.trans
  handleVideoRequest := fun call sender request =>
    .of_same (call.roster_handleVideoRequest sender request now)
      (updateTimes_of_ledger
        (call.ledger_handleVideoRequest sender request now))
  setMrpStream := fun _ _ _ => .of_same (roster_modifyClient fun _ => rfl) rfl
  approvePendingClient := fun call target =>
    call.moves_approvePendingClient target now
  denyPendingClient := fun call target =>
    call.moves_denyPendingClient target now
  forceRemoveClient := fun call target =>
    call.moves_forceRemoveClient target now
  blockClient := fun call target => call.moves_blockClient target now
  dropClient := fun call demuxId => call.moves_dropClient demuxId now
  handleRaiseHand := fun call message sender =>
    .of_same (roster_handleRaiseHand call now message sender)
      (updateTimes_of_ledger
        (call.ledger_handleRaiseHand now message sender))

theorem moves_handleDeviceToSfu (call : Call externals) (proto : DeviceToSfu)
    (sender : DemuxId) (now : Instant) :
    Moves now call (call.handleDeviceToSfu proto sender now).2 :=
  (messageRelation_moves now).handleDeviceToSfu call proto sender

end Call

/-! ## Operations -/

def CallEvent.time : CallEvent externals → Instant
  | .addClient _ _ _ _ now => now
  | .dropClient _ now => now
  | .handleDeviceToSfu _ _ now => now
  | .handleMediaRtp _ _ now _ => now
  | .tickForwarding now => now

def CallOperation.time : CallOperation externals → Option Instant
  | .event clientEvent => some clientEvent.time
  | .setTargetSendRate _ _ now => some now
  | .setOutgoingQueueDrainRate _ _ => none
  | .handleKeyFrameRequests _ _ now => some now
  | .tick now _ => some now

def CallOperation.isTick : CallOperation externals → Bool
  | .tick _ _ => true
  | _ => false

/-- What an operation other than a tick does to the clients and the times. -/
inductive ClientsChange (operation : CallOperation externals)
    (before after : Call externals) : Prop where
  | kept : after.roster.joinedIds = before.roster.joinedIds →
      after.updateTimes = before.updateTimes →
      ClientsChange operation before after
  | changed (now : Instant) : operation.time = some now →
      after.roster.joinedIds ≠ before.roster.joinedIds →
      after.updateTimes = (now, before.clientsUpdateSent) →
      ClientsChange operation before after

variable {messaging : ServerMessaging externals}
variable {before after : Call externals}

theorem ClientsChange.of_moves {operation : CallOperation externals}
    {now : Instant} (timed : operation.time = some now)
    (moves : Call.Moves now before after) :
    ClientsChange operation before after := by
  cases moves with
  | stayed same times => exact .kept same times
  | moved fewer times =>
      refine .changed now timed ?_ times
      intro same
      rw [Roster.moves_of_joinedIds same] at fewer
      exact Nat.lt_irrefl _ fewer

theorem clientsChange_of_event {event : CallEvent externals}
    (step : CallStep before event after) :
    ClientsChange (.event event) before after := by
  cases event with
  | addClient demuxId userId isAdmin regionRelation now =>
      rw [show after = _ from step]
      rcases before.addClient_moves demuxId userId isAdmin regionRelation now
        with ⟨same, times⟩ | ⟨different, times⟩
      · exact .kept same times
      · exact .changed now rfl different times
  | dropClient demuxId now =>
      rw [show after = _ from step]
      exact .of_moves rfl (before.moves_dropClient demuxId now)
  | handleDeviceToSfu proto sender now =>
      rw [show after = _ from step]
      exact .of_moves rfl (before.moves_handleDeviceToSfu proto sender now)
  | handleMediaRtp sender incomingRtp now result =>
      exact .kept
        (congrArg Roster.joinedIds (Call.roster_handleMediaRtp step))
        (Call.updateTimes_of_ledger (Call.ledger_handleMediaRtp step))
  | tickForwarding now =>
      rw [show after = _ from step]
      exact .kept
        (congrArg Roster.joinedIds (before.roster_tickForwarding now))
        (before.updateTimes_tickForwarding now)

theorem clientsChange_of_operation {operation : CallOperation externals}
    (step : OperationStep messaging before operation after)
    (notTick : operation.isTick = false) :
    ClientsChange operation before after := by
  cases operation with
  | event event => exact clientsChange_of_event step
  | setTargetSendRate receiver newTargetSendRate now =>
      rw [show after = _ from step]
      exact .kept (congrArg Roster.joinedIds
        (before.roster_setTargetSendRate receiver newTargetSendRate now)) rfl
  | setOutgoingQueueDrainRate receiver outgoingQueueDrainRate =>
      rw [show after = _ from step]
      exact .kept (congrArg Roster.joinedIds
        (before.roster_setOutgoingQueueDrainRate receiver
          outgoingQueueDrainRate)) rfl
  | handleKeyFrameRequests requester keyFrameRequests now =>
      rw [show after = _ from step]
      exact .kept (congrArg Roster.joinedIds
        (before.roster_handleKeyFrameRequests requester keyFrameRequests now))
        (before.requestsNoted_handleKeyFrameRequests requester
          keyFrameRequests now).updateTimes
  | tick now sent => cases notTick

end CallingService.Backend
