import CallingService.Backend.ConnectionRun
import CallingService.Backend.SfuSystem
import CallingService.Foundation.Index

/-!
# The tables of the SFU agree

While nobody holds the lock of the SFU, every client of a call has a
connection, and the connections can be found by their usernames.  A client is
dropped from its call before its connection is removed, and a call is removed
when nobody is in it.
-/

namespace CallingService.Backend

open Foundation Rtp

variable {externals : CallExternals}

/-! ## Connections keep their identity -/

namespace Connection

/-- What binding requests are checked against. -/
def identity (connection : Connection) : Bytes × Bytes :=
  (connection.ice.requestUsername, connection.ice.pwd)

variable {rates : RateArithmetic} {aead : Aead} {before after : Connection}

theorem identity_of_ice (same : after.ice = before.ice) :
    after.identity = before.identity := by
  unfold identity
  rw [same]

theorem SendsRtcp.identity_eq (sends : before.SendsRtcp after) :
    after.identity = before.identity := by
  obtain ⟨endpoint, rfl⟩ := sends
  rfl

theorem Handles.identity_eq {work : AddressedWork} {next : Option CallWork}
    (handles : Handles rates aead work before after next) :
    after.identity = before.identity := by
  cases handles with
  | rtp _ _ => rfl
  | rtcp _ answered =>
      have same := ice_handleNacks answered
      exact identity_of_ice same
  | invalidRtcp => rfl
  | dequeue dequeued => exact identity_of_ice (ice_dequeueOutgoingRtp dequeued)

theorem Sends.identity_eq {output : CallOutput}
    (sends : Sends rates aead output before after) :
    after.identity = before.identity := by
  cases sends with
  | rtp sent => exact identity_of_ice (ice_sendOrEnqueueRtp sent)
  | keyFrameRequest sent => exact sent.identity_eq

theorem identity_of_accepted {senderAddr : SocketLocator}
    {request : BindingRequest} {now : Instant}
    (accepted : before.handleIceBindingRequest senderAddr request now =
      .ok after) : after.identity = before.identity := by
  obtain ⟨_, _, sameUsername, samePwd⟩ := handleIceBindingRequest_ok accepted
  unfold identity
  rw [sameUsername, samePwd]

end Connection

/-! ## What is in a call -/

namespace SfuSystem

/-- The demux ids in the call with the id; there are none without a call. -/
def demuxIdsAt (system : SfuSystem externals) (callId : CallId) :
    List DemuxId :=
  ((system.sfu.callByCallId.lookup callId).map Call.demuxIds).getD []

theorem demuxIdsAt_of_lookup {system : SfuSystem externals} {callId : CallId}
    {call : Call externals}
    (found : system.sfu.callByCallId.lookup callId = some call) :
    system.demuxIdsAt callId = call.demuxIds := by
  unfold demuxIdsAt
  rw [found]
  rfl

theorem demuxIdsAt_congr {before after : SfuSystem externals}
    (same : after.sfu.callByCallId = before.sfu.callByCallId)
    (callId : CallId) : after.demuxIdsAt callId = before.demuxIdsAt callId := by
  unfold demuxIdsAt
  rw [same]

theorem demuxIdsAt_insertCall (system : SfuSystem externals)
    (callId : CallId) (call : Call externals) (other : CallId) :
    (system.insertCall callId call).demuxIdsAt other =
      if other = callId then call.demuxIds else system.demuxIdsAt other := by
  unfold demuxIdsAt insertCall
  dsimp only
  split
  · rename_i same
    rw [same, AList.lookup_insert]
    rfl
  · rename_i different
    rw [AList.lookup_insert_ne different]

/-- A change of one call that brings nobody in. -/
theorem subperm_insertCall {system : SfuSystem externals} {callId : CallId}
    {call changed : Call externals}
    (found : system.sfu.callByCallId.lookup callId = some call)
    (shrinks : changed.demuxIds.Subperm call.demuxIds) (other : CallId) :
    ((system.insertCall callId changed).demuxIdsAt other).Subperm
      (system.demuxIdsAt other) := by
  rw [demuxIdsAt_insertCall]
  split
  · rename_i same
    rw [same, demuxIdsAt_of_lookup found]
    exact shrinks
  · exact .refl _

/-- What a task does to its connection leaves everything else alone. -/
theorem setConnectionAt_eq (system : SfuSystem externals)
    (id : ConnectionId) (connection : Connection) :
    ∃ connections detached, system.setConnectionAt id connection =
      { system with
        sfu := { system.sfu with connectionById := connections }
        detachedConnections := detached } := by
  unfold setConnectionAt
  split
  · exact ⟨_, _, rfl⟩
  · exact ⟨_, _, rfl⟩

@[simp] theorem callByCallId_setConnectionAt (system : SfuSystem externals)
    (id : ConnectionId) (connection : Connection) :
    (system.setConnectionAt id connection).sfu.callByCallId =
      system.sfu.callByCallId := by
  obtain ⟨connections, detached, isSet⟩ :=
    system.setConnectionAt_eq id connection
  rw [isSet]

@[simp] theorem usernames_setConnectionAt (system : SfuSystem externals)
    (id : ConnectionId) (connection : Connection) :
    (system.setConnectionAt id
        connection).sfu.connectionIdByIceRequestUsername =
      system.sfu.connectionIdByIceRequestUsername := by
  obtain ⟨connections, detached, isSet⟩ :=
    system.setConnectionAt_eq id connection
  rw [isSet]

theorem lock_setConnectionAt (system : SfuSystem externals)
    (id : ConnectionId) (connection : Connection) :
    (system.setConnectionAt id connection).lock = system.lock := by
  obtain ⟨connections, detached, isSet⟩ :=
    system.setConnectionAt_eq id connection
  rw [isSet]

/-- What a task does to its call leaves everything else alone. -/
theorem setCallAt_eq (system : SfuSystem externals) (ref : CallRef)
    (call : Call externals) :
    ∃ calls detached, system.setCallAt ref call =
      { system with
        sfu := { system.sfu with callByCallId := calls }
        detachedCalls := detached } := by
  unfold setCallAt
  split
  · exact ⟨_, _, rfl⟩
  · exact ⟨_, _, rfl⟩

/-- A join up to its connection touches calls and the lock only. -/
theorem addClientToCall_eq (agreement : KeyAgreement)
    (system : SfuSystem externals) (join : Join)
    (surroundings : JoinSurroundings) :
    ∃ calls serials next lock,
      system.addClientToCall agreement join surroundings =
        { system with
          sfu := { system.sfu with callByCallId := calls }
          callSerials := serials
          nextSerial := next
          lock := lock } := by
  unfold addClientToCall numberCall
  dsimp only
  split
  · exact ⟨_, _, _, _, rfl⟩
  · split
    · split
      · exact ⟨_, _, _, _, rfl⟩
      · exact ⟨_, _, _, _, rfl⟩
    · split
      · exact ⟨_, _, _, _, rfl⟩
      · exact ⟨_, _, _, _, rfl⟩

theorem dropClient_eq (system : SfuSystem externals) (id : ConnectionId)
    (now : Instant) :
    ∃ calls, system.dropClient id now =
      { system with sfu := { system.sfu with callByCallId := calls } } := by
  unfold dropClient
  split
  · exact ⟨_, rfl⟩
  · exact ⟨_, rfl⟩

@[simp] theorem callByCallId_removeConnection (system : SfuSystem externals)
    (id : ConnectionId) :
    (system.removeConnection id).sfu.callByCallId =
      system.sfu.callByCallId := by
  unfold removeConnection Sfu.removeConnection
  dsimp only
  split
  · rfl
  · rfl

end SfuSystem

theorem subperm_dropAll (dropped : List DemuxId) (now : Instant)
    (call : Call externals) :
    (dropped.foldl (fun call demuxId => call.dropClient demuxId now)
      call).demuxIds.Subperm call.demuxIds := by
  induction dropped generalizing call with
  | nil => exact .refl _
  | cons demuxId rest ih =>
      apply (ih _).trans
      exact (Call.demuxIds_dropClient call demuxId now).subperm.trans
        List.erase_sublist.subperm

theorem subperm_dropExpired (progress : TickProgress) (callId : CallId)
    (call : Call externals) :
    (progress.dropExpired callId call).demuxIds.Subperm call.demuxIds :=
  subperm_dropAll _ progress.now call

namespace Call

theorem outcomeOf_eq_leave
    {result : Except (CallError externals) (List RtpToSend)}
    (leaves : outcomeOf result = .leave) : result = .error .leave := by
  unfold outcomeOf at leaves
  split at leaves
  · cases leaves
  · rfl
  · cases leaves

theorem demuxIds_handleWork {call handled : Call externals}
    {sender : DemuxId} {now : Instant} {work : CallWork}
    {outcome : CallOutcome}
    (handles : call.handleWork sender now work = .ok (outcome, handled)) :
    handled.demuxIds.Subperm call.demuxIds ∧
      (outcome = .leave →
        handled.demuxIds.Perm (call.demuxIds.erase sender)) := by
  cases work with
  | rtp incoming =>
      unfold handleWork at handles
      dsimp only at handles
      cases isHandled : call.handleRtp sender incoming now with
      | error failure =>
          rw [isHandled] at handles
          cases handles
      | ok result =>
          rw [isHandled] at handles
          cases handles
          rcases demuxIds_handleRtp isHandled with
            ⟨stays, kept⟩ | ⟨leaves, erased⟩
          · exact ⟨kept.subperm, fun left =>
              absurd (outcomeOf_eq_leave left) stays⟩
          · exact ⟨erased.subperm.trans List.erase_sublist.subperm,
              fun _ => erased⟩
  | rtcp newTargetSendRate keyFrameRequests rtcpNow =>
      cases handles
      refine ⟨?_, fun leaves => by cases leaves⟩
      unfold demuxIds
      rw [roster_handleKeyFrameRequests]
      cases newTargetSendRate with
      | none => exact .refl _
      | some rate =>
          dsimp only
          rw [roster_setTargetSendRate]

theorem demuxIds_eq (call : Call externals) :
    call.demuxIds = call.clients.map Client.demuxId ++
      call.pendingClients.map NonParticipantClient.demuxId ++
      call.removedClients.map NonParticipantClient.demuxId := by
  unfold demuxIds Roster.demuxIds Roster.members Roster.participants roster
  rw [List.map_append, List.map_append, List.map_map]
  rfl

theorem Ticks.demuxIds_eq {now : Instant} {before after : Call externals}
    (ticks : before.Ticks now after) : after.demuxIds = before.demuxIds := by
  obtain ⟨drainRates, sends⟩ := ticks
  have sameRates : (drainRates.foldl (fun call rate =>
      call.setOutgoingQueueDrainRate rate.1 rate.2) before).roster =
      before.roster := by
    clear sends
    induction drainRates generalizing before with
    | nil => rfl
    | cons rate rest ih =>
        rw [List.foldl_cons, ih, roster_setOutgoingQueueDrainRate]
  rw [Call.demuxIds_eq after, sends.active, sends.pending, sends.removed,
    ← Call.demuxIds_eq]
  unfold demuxIds
  rw [roster_tickForwarding, sameRates]

end Call

/-! ## What a step does to the calls -/

/-- The demux id that a step brings into the call. -/
def SfuEvent.newcomers (event : SfuEvent) (callId : CallId) : List DemuxId :=
  match event with
  | .join request _ =>
      if callId = request.callId then [request.demuxId] else []
  | _ => []

namespace SfuSystem

theorem demuxIdsAt_addClientToCall (agreement : KeyAgreement)
    (system : SfuSystem externals) (join : Join)
    (surroundings : JoinSurroundings) (callId : CallId) :
    ((system.addClientToCall agreement join surroundings).demuxIdsAt
      callId).Subperm
      ((SfuEvent.join join surroundings).newcomers callId ++
        system.demuxIdsAt callId) := by
  -- The entry is the call of the table, or a new one without clients.
  have entryIds : (system.sfu.callEntry join surroundings).1.demuxIds =
      system.demuxIdsAt join.callId := by
    unfold Sfu.callEntry demuxIdsAt
    cases found : system.sfu.callByCallId.lookup join.callId with
    | none => rfl
    | some call => rfl
  have others : ∀ {call}, callId ≠ join.callId →
      ((system.sfu.callEntry join surroundings).2.insert join.callId
        call).lookup callId = system.sfu.callByCallId.lookup callId := by
    intro call different
    rw [AList.lookup_insert_ne different]
    unfold Sfu.callEntry
    split
    · rfl
    · exact AList.lookup_insert_ne different
  unfold addClientToCall
  dsimp only
  split
  · rename_i alreadyIn
    rw [demuxIdsAt_congr
      (Sfu.callEntry_of_hasClient alreadyIn).2]
    exact (List.sublist_append_right _ _).subperm
  · have joined : ∀ {after : SfuSystem externals},
        after.sfu.callByCallId =
          (system.sfu.callEntry join surroundings).2.insert join.callId
            ((system.sfu.callEntry join surroundings).1.addClient join.demuxId
              join.userId join.isAdmin
              (system.sfu.getRegionRelation join.region)
              surroundings.afterLock).2 →
        (after.demuxIdsAt callId).Subperm
          ((SfuEvent.join join surroundings).newcomers callId ++
            system.demuxIdsAt callId) := by
      intro after isTable
      unfold SfuEvent.newcomers
      dsimp only
      split
      · rename_i same
        rw [same, demuxIdsAt_of_lookup (by rw [isTable, AList.lookup_insert]),
          ← entryIds]
        exact (Call.demuxIds_addClient _ _ _ _ _ _).subperm
      · rename_i different
        unfold demuxIdsAt
        rw [isTable, others different]
        exact .refl _
    split
    · exact joined rfl
    · exact joined rfl

theorem subperm_setCallAt {system : SfuSystem externals} {ref : CallRef}
    {call changed : Call externals} (found : system.callAt ref = some call)
    (shrinks : changed.demuxIds.Subperm call.demuxIds) (callId : CallId) :
    ((system.setCallAt ref changed).demuxIdsAt callId).Subperm
      (system.demuxIdsAt callId) := by
  unfold callAt at found
  unfold setCallAt
  split
  · rename_i current
    rw [if_pos current] at found
    exact subperm_insertCall found shrinks callId
  · exact .refl _

end SfuSystem

namespace SfuStep

variable {agreement : KeyAgreement} {rates : RateArithmetic} {aead : Aead}
variable {before after : SfuSystem externals} {event : SfuEvent}

/-- Only a join brings somebody into a call. -/
theorem demuxIds (step : SfuStep agreement rates aead before event after)
    (callId : CallId) :
    (after.demuxIdsAt callId).Subperm
      (event.newcomers callId ++ before.demuxIdsAt callId) := by
  have kept : after.sfu.callByCallId = before.sfu.callByCallId →
      (after.demuxIdsAt callId).Subperm
        (event.newcomers callId ++ before.demuxIdsAt callId) := by
    intro same
    rw [SfuSystem.demuxIdsAt_congr same]
    exact (List.sublist_append_right _ _).subperm
  cases step with
  | join _ =>
      exact SfuSystem.demuxIdsAt_addClientToCall agreement before _ _ callId
  | @removeClientFromCall id now _ =>
      change ((before.dropClient id now).demuxIdsAt callId).Subperm _
      unfold SfuSystem.dropClient
      split
      · exact .refl _
      · rename_i call found
        exact SfuSystem.subperm_insertCall found
          ((Call.demuxIds_dropClient call id.demuxId now).subperm.trans
            List.erase_sublist.subperm) callId
  | @removeInactiveCall progress removed call _ _ _ found _ =>
      change (((before.sfu.callByCallId.erase removed).lookup callId).map
        Call.demuxIds |>.getD []).Subperm (before.demuxIdsAt callId)
      by_cases same : callId = removed
      · rw [same, AList.lookup_erase]
        exact List.nil_subperm
      · rw [AList.lookup_erase_ne same]
        exact .refl _
  | @keepWaitingCall progress waiting call _ _ _ _ _ found _ =>
      apply SfuSystem.subperm_insertCall found _ callId
      exact subperm_dropExpired progress waiting call
  | @tickCall progress _ call ticked _ _ _ _ found _ ticks =>
      apply SfuSystem.subperm_insertCall found _ callId
      rw [ticks.demuxIds_eq]
      exact subperm_dropExpired progress _ call
  | handledInCall found handles _ =>
      exact SfuSystem.subperm_setCallAt found
        (Call.demuxIds_handleWork handles).1 callId
  | removeConnection _ | expireConnection _ _ _ _ =>
      exact kept (SfuSystem.callByCallId_removeConnection _ _)
  | left _ _ => exact kept (SfuSystem.callByCallId_removeConnection _ _)
  | handled _ _ _ | accepted _ _ _ | sent _ _ _ =>
      exact kept (SfuSystem.callByCallId_setConnectionAt _ _ _)
  | _ => exact kept rfl

end SfuStep

/-! ## What a step does to the connections -/

namespace SfuSystem

/-- Who has a connection, and under which username and password. -/
def identityAt (system : SfuSystem externals) (id : ConnectionId) :
    Option (Bytes × Bytes) :=
  (system.sfu.connectionById.lookup id).map Connection.identity

theorem identityAt_isSome {system : SfuSystem externals} {id : ConnectionId} :
    (system.identityAt id).isSome =
      (system.sfu.connectionById.lookup id).isSome := by
  unfold identityAt
  rw [Option.isSome_map]

theorem identityAt_insertConnection {system : SfuSystem externals}
    {id : ConnectionId} {connection changed : Connection}
    (found : system.sfu.connectionById.lookup id = some connection)
    (same : changed.identity = connection.identity) (other : ConnectionId) :
    (system.insertConnection id changed).identityAt other =
      system.identityAt other := by
  unfold identityAt insertConnection
  dsimp only
  by_cases isId : other = id
  · rw [isId, AList.lookup_insert, found, Option.map_some, Option.map_some,
      same]
  · rw [AList.lookup_insert_ne isId]

theorem identityAt_setConnectionAt {system : SfuSystem externals}
    {id : ConnectionId} {connection changed : Connection}
    (found : system.connectionAt id = some connection)
    (same : changed.identity = connection.identity) (other : ConnectionId) :
    (system.setConnectionAt id changed).identityAt other =
      system.identityAt other := by
  unfold setConnectionAt
  split
  · rename_i present
    obtain ⟨stored, isStored⟩ := Option.isSome_iff_exists.mp present
    unfold connectionAt at found
    rw [isStored, Option.some_or, Option.some_inj] at found
    rw [found] at isStored
    exact identityAt_insertConnection isStored same other
  · rfl

theorem identityAt_removeConnection (system : SfuSystem externals)
    (id other : ConnectionId) :
    (system.removeConnection id).identityAt other =
      if other = id then none else system.identityAt other := by
  unfold identityAt removeConnection Sfu.removeConnection
  dsimp only
  cases found : system.sfu.connectionById.lookup id with
  | none =>
      dsimp only
      split
      · rename_i same
        rw [same, found]
        rfl
      · rfl
  | some connection =>
      dsimp only
      split
      · rename_i same
        rw [same, AList.lookup_erase]
        rfl
      · rename_i different
        rw [AList.lookup_erase_ne different]

theorem identityAt_of_removed {before after : SfuSystem externals}
    {removed : ConnectionId}
    (isRemoved : after.sfu.connectionById =
      (before.sfu.removeConnection removed).connectionById)
    (id : ConnectionId) :
    after.identityAt id =
      if id = removed then none else before.identityAt id := by
  rw [← before.identityAt_removeConnection removed id]
  unfold identityAt
  rw [isRemoved]
  rfl

end SfuSystem

/-- Why a connection is removed. -/
inductive Removes (before after : SfuSystem externals) (id : ConnectionId) :
    Prop where
  | byRequest : before.lock = .removing id → Removes before after id
  | byLeave : .leaving id ∈ before.tasks → Removes before after id
  | byExpiry {progress : TickProgress} :
      before.lock = .ticking progress →
      id ∈ progress.connectionsLeft →
      after.lock = .ticking ((progress.visitConnection id).expire id) →
      Removes before after id

/-- The tables of connections before and after a step. -/
inductive ConnectionsEffect (before after : SfuSystem externals) : Prop where
  | kept : (∀ id, after.identityAt id = before.identityAt id) →
      after.sfu.connectionIdByIceRequestUsername =
        before.sfu.connectionIdByIceRequestUsername →
      ConnectionsEffect before after
  | removed {id : ConnectionId} : Removes before after id →
      after.sfu.connectionById =
        (before.sfu.removeConnection id).connectionById →
      after.sfu.connectionIdByIceRequestUsername =
        (before.sfu.removeConnection id).connectionIdByIceRequestUsername →
      ConnectionsEffect before after
  | inserted {join : Join} {connection : Connection} :
      before.lock = .joining join connection →
      after.lock = .free →
      after.sfu.connectionById =
        (before.sfu.insertConnection join connection).connectionById →
      after.sfu.connectionIdByIceRequestUsername =
        (before.sfu.insertConnection join
          connection).connectionIdByIceRequestUsername →
      ConnectionsEffect before after

theorem Continues.mem {tasks after : List SfuTask} {task : SfuTask}
    {next : Option SfuTask} (continues : Continues tasks task next after) :
    task ∈ tasks := by
  obtain ⟨earlier, later, rfl, _⟩ := continues
  simp

theorem Continues.mem_after {tasks after : List SfuTask}
    {task other : SfuTask} {next : Option SfuTask}
    (continues : Continues tasks task next after) (isTask : other ∈ after) :
    other ∈ tasks ∨ next = some other := by
  obtain ⟨earlier, later, rfl, rfl⟩ := continues
  simp only [List.mem_append, Option.mem_toList, List.mem_cons] at isTask ⊢
  rcases isTask with (first | isNext) | last
  · exact .inl (.inl first)
  · exact .inr isNext
  · exact .inl (.inr (.inr last))

namespace SfuStep

variable {agreement : KeyAgreement} {rates : RateArithmetic} {aead : Aead}
variable {before after : SfuSystem externals} {event : SfuEvent}

theorem connectionTables_addClientToCall (system : SfuSystem externals)
    (join : Join) (surroundings : JoinSurroundings) :
    (system.addClientToCall agreement join
        surroundings).sfu.connectionById = system.sfu.connectionById ∧
      (system.addClientToCall agreement join
          surroundings).sfu.connectionIdByIceRequestUsername =
        system.sfu.connectionIdByIceRequestUsername := by
  obtain ⟨calls, serials, next, lock, isJoined⟩ :=
    system.addClientToCall_eq agreement join surroundings
  rw [isJoined]
  exact ⟨rfl, rfl⟩

theorem connections (step : SfuStep agreement rates aead before event after) :
    ConnectionsEffect before after := by
  cases step with
  | join _ =>
      obtain ⟨sameConnections, sameIndex⟩ :=
        @connectionTables_addClientToCall _ agreement before _ _
      exact .kept (fun id => by
        unfold SfuSystem.identityAt
        rw [sameConnections]) sameIndex
  | insertConnection isJoining => exact .inserted isJoining rfl rfl rfl
  | @removeClientFromCall id now _ =>
      obtain ⟨calls, isDropped⟩ := before.dropClient_eq id now
      rw [isDropped]
      exact .kept (fun _ => rfl) rfl
  | removeConnection isRemoving => exact .removed (.byRequest isRemoving) rfl rfl
  | expireConnection isTicking isLeft _ _ =>
      exact .removed (.byExpiry isTicking isLeft rfl) rfl rfl
  | keepConnection _ _ found _ ticked =>
      exact .kept (SfuSystem.identityAt_insertConnection found
        ticked.identity_eq) rfl
  | tickConfigure _ _ _ found =>
      exact .kept (SfuSystem.identityAt_insertConnection found rfl) rfl
  | tickSend _ _ _ found sends =>
      exact .kept (SfuSystem.identityAt_insertConnection found
        sends.identity_eq) rfl
  | handled found handles _ =>
      exact .kept (SfuSystem.identityAt_setConnectionAt found
        handles.identity_eq) (SfuSystem.usernames_setConnectionAt _ _ _)
  | accepted found accepted _ =>
      exact .kept (SfuSystem.identityAt_setConnectionAt found
        (Connection.identity_of_accepted accepted))
        (SfuSystem.usernames_setConnectionAt _ _ _)
  | @handledInCall id ref _ _ handled _ _ _ _ _ _ =>
      obtain ⟨calls, detached, isSet⟩ := before.setCallAt_eq ref handled
      rw [isSet]
      exact .kept (fun _ => rfl) rfl
  | left _ continues => exact .removed (.byLeave continues.mem) rfl rfl
  | sent found sends _ =>
      exact .kept (SfuSystem.identityAt_setConnectionAt found
        sends.identity_eq) (SfuSystem.usernames_setConnectionAt _ _ _)
  | _ => exact .kept (fun _ => rfl) rfl

end SfuStep

/-! ## The invariant -/

def joinedIds (events : List SfuEvent) : List ConnectionId :=
  events.filterMap fun
    | .join join _ => some ⟨join.callId, join.demuxId⟩
    | _ => none

def joinedUsernames (events : List SfuEvent) : List Bytes :=
  events.filterMap fun
    | .join join _ => some (joinUsername join.clientIceUfrag join.serverIceUfrag)
    | _ => none

/-- The id is in no list of its call. -/
def Gone (system : SfuSystem externals) (id : ConnectionId) : Prop :=
  id.demuxId ∉ system.demuxIdsAt id.callId

/-- The holder of the lock will insert the connection, or drop the client. -/
def SfuLock.Excuses (lock : SfuLock) (id : ConnectionId) : Prop :=
  match lock with
  | .joining join _ => id = ⟨join.callId, join.demuxId⟩
  | .ticking progress =>
      id ∈ progress.expired ∧ id.callId ∈ progress.callsLeft
  | _ => False

structure JoinInProgress (past : List SfuEvent)
    (system : SfuSystem externals) (join : Join) (connection : Connection) :
    Prop where
  joined : ⟨join.callId, join.demuxId⟩ ∈ joinedIds past
  named : connection.ice.requestUsername =
    joinUsername join.clientIceUfrag join.serverIceUfrag
  username : connection.ice.requestUsername ∈ joinedUsernames past
  newId : system.identityAt ⟨join.callId, join.demuxId⟩ = none
  newName : system.sfu.connectionIdByIceRequestUsername.lookup
    connection.ice.requestUsername = none

def LockInvariant (past : List SfuEvent) (system : SfuSystem externals) :
    SfuLock → Prop
  | .free => True
  | .joining join connection => JoinInProgress past system join connection
  | .removing id => Gone system id
  | .ticking progress =>
      progress.connectionsLeft ≠ [] → ∀ callId,
        system.demuxIdsAt callId ≠ [] → callId ∈ progress.callsLeft

/-- A client that leaves is out of its call.  A task may hold a call that is
no longer in the table; its client then is in no call of the table. -/
def TaskInvariant (past : List SfuEvent) (system : SfuSystem externals) :
    SfuTask → Prop
  | .addressed _ id _ => id ∈ joinedIds past
  | .received id _ => id ∈ joinedIds past
  | .inCall id ref _ => id ∈ joinedIds past ∧ ref.callId = id.callId ∧
      (system.IsCurrent ref ∨ Gone system id)
  | .leaving id => id ∈ joinedIds past ∧ Gone system id
  | _ => True

structure Consistent (past : List SfuEvent) (system : SfuSystem externals) :
    Prop where
  joined : ∀ callId, ∀ demuxId ∈ system.demuxIdsAt callId,
    ⟨callId, demuxId⟩ ∈ joinedIds past
  distinct : ∀ callId, (system.demuxIdsAt callId).Nodup
  connected : ∀ id username pwd,
    system.identityAt id = some (username, pwd) →
      id ∈ joinedIds past ∧ username ∈ joinedUsernames past
  indexed : IsIndex (fun connection => connection.ice.requestUsername)
    system.sfu.connectionById system.sfu.connectionIdByIceRequestUsername
  covered : ∀ callId, ∀ demuxId ∈ system.demuxIdsAt callId,
    (system.identityAt ⟨callId, demuxId⟩).isSome ∨
      system.lock.Excuses ⟨callId, demuxId⟩
  locked : LockInvariant past system system.lock
  tasks : ∀ task ∈ system.tasks, TaskInvariant past system task

/-! ## Joins happen once -/

theorem joinedIds_append (past : List SfuEvent) (event : SfuEvent) :
    joinedIds (past ++ [event]) = joinedIds past ++ joinedIds [event] := by
  unfold joinedIds
  rw [List.filterMap_append]

/-- Who has joined once has joined ever since. -/
theorem stillJoined {past : List SfuEvent} {id : ConnectionId}
    (joined : id ∈ joinedIds past) (event : SfuEvent) :
    id ∈ joinedIds (past ++ [event]) := by
  rw [joinedIds_append]
  exact List.mem_append_left _ joined

theorem joinedUsernames_append (past : List SfuEvent) (event : SfuEvent) :
    joinedUsernames (past ++ [event]) =
      joinedUsernames past ++ joinedUsernames [event] := by
  unfold joinedUsernames
  rw [List.filterMap_append]

theorem mem_joinedIds_of_newcomer {event : SfuEvent} {callId : CallId}
    {demuxId : DemuxId} (new : demuxId ∈ event.newcomers callId) :
    ⟨callId, demuxId⟩ ∈ joinedIds [event] := by
  unfold SfuEvent.newcomers at new
  split at new
  · split at new
    · rename_i same
      rw [List.mem_singleton.mp new, same]
      simp [joinedIds]
    · cases new
  · cases new

namespace Gone

variable {agreement : KeyAgreement} {rates : RateArithmetic} {aead : Aead}
variable {before after : SfuSystem externals} {event : SfuEvent}

/-- Who is out of the call and has joined before stays out. -/
theorem step {id : ConnectionId} (gone : Gone before id)
    (notJoining : id ∉ joinedIds [event])
    (step : SfuStep agreement rates aead before event after) :
    Gone after id := by
  intro isIn
  rcases List.mem_append.mp ((step.demuxIds id.callId).subset isIn) with
    new | old
  · exact notJoining (mem_joinedIds_of_newcomer new)
  · exact gone old

end Gone

/-! ## One step -/

namespace SfuStep

variable {agreement : KeyAgreement} {rates : RateArithmetic} {aead : Aead}
variable {before after : SfuSystem externals} {event : SfuEvent}

/-- A call in the table stays the same object until it is removed. -/
theorem current (step : SfuStep agreement rates aead before event after)
    {ref : CallRef} (isCurrent : before.IsCurrent ref) :
    after.IsCurrent ref ∨ after.demuxIdsAt ref.callId = [] := by
  cases step with
  | @join join surroundings _ =>
      left
      have numbered : (before.numberCall join.callId).callSerials.lookup
          ref.callId = some ref.serial := by
        unfold SfuSystem.numberCall
        split
        · exact isCurrent
        · rename_i unnumbered
          have different : ref.callId ≠ join.callId := by
            intro same
            rw [SfuSystem.IsCurrent, same, unnumbered] at isCurrent
            cases isCurrent
          dsimp only
          rw [AList.lookup_insert_ne different]
          exact isCurrent
      unfold SfuSystem.IsCurrent SfuSystem.addClientToCall
      dsimp only
      split
      · exact isCurrent
      · split
        · exact numbered
        · exact numbered
  | @removeClientFromCall id now _ =>
      left
      obtain ⟨calls, isDropped⟩ := before.dropClient_eq id now
      rw [isDropped]
      exact isCurrent
  | @removeInactiveCall progress removed call _ _ _ _ _ =>
      by_cases same : ref.callId = removed
      · right
        rw [same]
        change (((before.sfu.callByCallId.erase removed).lookup removed).map
          Call.demuxIds).getD [] = []
        rw [AList.lookup_erase]
        rfl
      · left
        change (before.callSerials.erase removed).lookup ref.callId = _
        rw [AList.lookup_erase_ne same]
        exact isCurrent
  | @handled _ id _ _ handled _ _ _ _ _ =>
      left
      obtain ⟨connections, detached, isSet⟩ :=
        before.setConnectionAt_eq id handled
      rw [isSet]
      exact isCurrent
  | @accepted _ id _ _ accepted _ _ _ _ _ =>
      left
      obtain ⟨connections, detached, isSet⟩ :=
        before.setConnectionAt_eq id accepted
      rw [isSet]
      exact isCurrent
  | @sent id _ _ _ sent _ _ _ _ =>
      left
      obtain ⟨connections, detached, isSet⟩ :=
        before.setConnectionAt_eq id sent
      rw [isSet]
      exact isCurrent
  | @handledInCall id held _ _ handled _ _ _ _ _ _ =>
      left
      obtain ⟨calls, detached, isSet⟩ := before.setCallAt_eq held handled
      rw [isSet]
      exact isCurrent
  | _ => exact .inl isCurrent

end SfuStep

/-! ## The lock -/

/-- What a step does to the lock, and what the tables are then. -/
inductive LockEffect (agreement : KeyAgreement)
    (before : SfuSystem externals) (event : SfuEvent)
    (after : SfuSystem externals) : Prop where
  | free : after.lock = .free → (∀ id, ¬ before.lock.Excuses id) →
      LockEffect agreement before event after
  | kept : after.lock = before.lock →
      (∀ callId, event.newcomers callId = []) →
      (∀ id, after.identityAt id = before.identityAt id) →
      after.sfu.connectionIdByIceRequestUsername =
        before.sfu.connectionIdByIceRequestUsername →
      LockEffect agreement before event after
  | joined {join : Join} {surroundings : JoinSurroundings} :
      before.lock = .free → event = .join join surroundings →
      after = before.addClientToCall agreement join surroundings →
      LockEffect agreement before event after
  | inserted {join : Join} {connection : Connection} :
      before.lock = .joining join connection → after.lock = .free →
      (after.identityAt ⟨join.callId, join.demuxId⟩).isSome →
      LockEffect agreement before event after
  | dropped {id : ConnectionId} {now : Instant} :
      before.lock = .free →
      after = (before.dropClient id now).withLock (.removing id) →
      LockEffect agreement before event after
  | started {now : Instant} :
      before.lock = .free → after = before.startTick now →
      LockEffect agreement before event after
  | visitedConnection {progress later : TickProgress} :
      before.lock = .ticking progress → after.lock = .ticking later →
      progress.connectionsLeft ≠ [] → later.callsLeft = progress.callsLeft →
      progress.expired ⊆ later.expired →
      (∀ callId, event.newcomers callId = []) →
      LockEffect agreement before event after
  | visitedCall {progress : TickProgress} {callId : CallId}
      {call : Call externals} :
      before.lock = .ticking progress →
      after.lock = .ticking (progress.visitCall callId) →
      progress.connectionsLeft = [] →
      before.sfu.callByCallId.lookup callId = some call →
      after.demuxIdsAt callId ⊆
        (progress.dropExpired callId call).demuxIds →
      LockEffect agreement before event after

theorem SfuStep.lockEffect {agreement : KeyAgreement} {rates : RateArithmetic}
    {aead : Aead} {before after : SfuSystem externals} {event : SfuEvent}
    (step : SfuStep agreement rates aead before event after) :
    LockEffect agreement before event after := by
  have free : before.lock = .free → after.lock = .free →
      LockEffect agreement before event after := by
    intro isFree stillFree
    apply LockEffect.free stillFree
    rw [isFree]
    exact fun _ excused => excused
  cases step with
  | join isFree => exact .joined isFree rfl rfl
  | insertConnection isJoining =>
      apply LockEffect.inserted isJoining rfl
      change (((before.sfu.connectionById.insert _ _).lookup _).map
        _).isSome = true
      rw [AList.lookup_insert]
      rfl
  | removeClientFromCall isFree => exact .dropped isFree rfl
  | removeConnection isRemoving =>
      apply LockEffect.free rfl
      rw [isRemoving]
      exact fun _ excused => excused
  | startTick isFree => exact .started isFree rfl
  | expireConnection isTicking isLeft _ _ =>
      exact .visitedConnection isTicking rfl (List.ne_nil_of_mem isLeft) rfl
        (List.subset_append_left _ _) fun _ => rfl
  | keepConnection isTicking isLeft _ _ _ =>
      exact .visitedConnection isTicking rfl (List.ne_nil_of_mem isLeft) rfl
        (List.Subset.refl _) fun _ => rfl
  | @removeInactiveCall progress callId _ isTicking noneLeft _ found _ =>
      apply LockEffect.visitedCall isTicking rfl noneLeft found
      intro demuxId isIn
      change demuxId ∈ (((before.sfu.callByCallId.erase callId).lookup
        callId).map Call.demuxIds).getD [] at isIn
      rw [AList.lookup_erase] at isIn
      cases isIn
  | @keepWaitingCall progress callId _ _ _ isTicking noneLeft _ found _ =>
      apply LockEffect.visitedCall isTicking rfl noneLeft found
      intro demuxId isIn
      change demuxId ∈ (before.insertCall callId _).demuxIdsAt callId at isIn
      rw [SfuSystem.demuxIdsAt_insertCall, if_pos rfl] at isIn
      exact isIn
  | @tickCall progress callId _ _ _ isTicking noneLeft _ found _ ticks =>
      apply LockEffect.visitedCall isTicking rfl noneLeft found
      intro demuxId isIn
      change demuxId ∈ (before.insertCall callId _).demuxIdsAt callId at isIn
      rw [SfuSystem.demuxIdsAt_insertCall, if_pos rfl,
        ticks.demuxIds_eq] at isIn
      exact isIn
  | tickConfigure _ _ _ found =>
      exact .kept rfl (fun _ => rfl)
        (SfuSystem.identityAt_insertConnection found rfl) rfl
  | tickSend _ _ _ found sends =>
      exact .kept rfl (fun _ => rfl)
        (SfuSystem.identityAt_insertConnection found sends.identity_eq) rfl
  | endTick isTicking _ noneLeft =>
      apply LockEffect.free rfl
      rw [isTicking]
      intro id excused
      have isLeft := excused.2
      rw [noneLeft] at isLeft
      cases isLeft
  | handled found handles _ =>
      exact .kept (before.lock_setConnectionAt _ _) (fun _ => rfl)
        (SfuSystem.identityAt_setConnectionAt found handles.identity_eq)
        (before.usernames_setConnectionAt _ _)
  | accepted found accepted _ =>
      exact .kept (before.lock_setConnectionAt _ _) (fun _ => rfl)
        (SfuSystem.identityAt_setConnectionAt found
          (Connection.identity_of_accepted accepted))
        (before.usernames_setConnectionAt _ _)
  | rejected _ _ _ => exact .kept rfl (fun _ => rfl) (fun _ => rfl) rfl
  | @handledInCall _ held _ _ handled _ _ _ _ _ _ =>
      obtain ⟨calls, detached, isSet⟩ := before.setCallAt_eq held handled
      rw [isSet]
      exact .kept rfl (fun _ => rfl) (fun _ => rfl) rfl
  | sent found sends _ =>
      exact .kept (before.lock_setConnectionAt _ _) (fun _ => rfl)
        (SfuSystem.identityAt_setConnectionAt found sends.identity_eq)
        (before.usernames_setConnectionAt _ _)
  | addressed isFree _ | named isFree _ | recorded isFree _
  | left isFree _ => exact free isFree isFree
  | gotCall isFree _ _ | missedCall isFree _ _ | gotConnection isFree _ _
  | missedConnection isFree _ _ => exact free isFree isFree

/-! ## Dropped clients -/

/-- Dropping an id from a list without repetitions takes it out. -/
theorem gone_dropClient {system : SfuSystem externals} {id : ConnectionId}
    (distinct : ∀ callId, (system.demuxIdsAt callId).Nodup) (now : Instant) :
    Gone (system.dropClient id now) id := by
  have noRepetition := distinct id.callId
  unfold Gone SfuSystem.dropClient
  split
  · rename_i absent
    unfold SfuSystem.demuxIdsAt
    rw [absent]
    exact List.not_mem_nil
  · rename_i call found
    rw [SfuSystem.demuxIdsAt_of_lookup found] at noRepetition
    rw [SfuSystem.demuxIdsAt_insertCall, if_pos rfl,
      (Call.demuxIds_dropClient call id.demuxId now).mem_iff]
    exact noRepetition.not_mem_erase

theorem not_mem_dropExpired {progress : TickProgress} {callId : CallId}
    {demuxId : DemuxId} (expired : ⟨callId, demuxId⟩ ∈ progress.expired)
    {call : Call externals} (distinct : call.demuxIds.Nodup) :
    demuxId ∉ (progress.dropExpired callId call).demuxIds := by
  have isExpired : demuxId ∈ progress.expiredOf callId := by
    apply List.mem_map.mpr
    exact ⟨⟨callId, demuxId⟩, List.mem_filter.mpr ⟨expired, by simp⟩, rfl⟩
  unfold TickProgress.dropExpired
  generalize progress.expiredOf callId = dropped at isExpired
  induction dropped generalizing call with
  | nil => cases isExpired
  | cons first rest ih =>
      rw [List.foldl_cons]
      have erased := Call.demuxIds_dropClient call first progress.now
      have stillDistinct := erased.nodup_iff.mpr (distinct.erase first)
      by_cases isFirst : demuxId = first
      · intro isIn
        -- Once it is out, dropping others does not bring it back.
        have stillIn := (subperm_dropAll rest progress.now _).subset isIn
        rw [erased.mem_iff, isFirst] at stillIn
        exact distinct.not_mem_erase stillIn
      · exact ih stillDistinct ((List.mem_cons.mp isExpired).resolve_left
          isFirst)

namespace Consistent

variable {agreement : KeyAgreement} {rates : RateArithmetic} {aead : Aead}
variable {before after : SfuSystem externals} {event : SfuEvent}
variable {past : List SfuEvent}

theorem joinInProgress (consistent : Consistent past before) {join : Join}
    {connection : Connection}
    (isJoining : before.lock = .joining join connection) :
    JoinInProgress past before join connection := by
  have locked := consistent.locked
  rw [isJoining] at locked
  exact locked

theorem distinct_step (consistent : Consistent past before)
    (step : SfuStep agreement rates aead before event after)
    (joinedOnce : (joinedIds (past ++ [event])).Nodup) (callId : CallId) :
    (after.demuxIdsAt callId).Nodup := by
  rw [joinedIds_append] at joinedOnce
  have newcomersOnce : (event.newcomers callId).Nodup := by
    unfold SfuEvent.newcomers
    split
    · split
      · exact List.nodup_singleton _
      · exact List.nodup_nil
    · exact List.nodup_nil
  have together : (event.newcomers callId ++
      before.demuxIdsAt callId).Nodup := by
    apply List.nodup_append.mpr
    refine ⟨newcomersOnce, consistent.distinct callId, ?_⟩
    rintro demuxId isNew other isOld rfl
    exact (List.nodup_append.mp joinedOnce).2.2 _
      (consistent.joined callId demuxId isOld) _
      (mem_joinedIds_of_newcomer isNew) rfl
  obtain ⟨_, isPerm, isSublist⟩ := step.demuxIds callId
  exact isPerm.nodup_iff.mp (together.sublist isSublist)

theorem joined_step (consistent : Consistent past before)
    (step : SfuStep agreement rates aead before event after)
    (callId : CallId) :
    ∀ demuxId ∈ after.demuxIdsAt callId,
      ⟨callId, demuxId⟩ ∈ joinedIds (past ++ [event]) := by
  intro demuxId isIn
  rw [joinedIds_append]
  rcases List.mem_append.mp ((step.demuxIds callId).subset isIn) with
    new | old
  · exact List.mem_append_right _ (mem_joinedIds_of_newcomer new)
  · exact List.mem_append_left _ (consistent.joined callId demuxId old)

theorem connected_step (consistent : Consistent past before)
    (step : SfuStep agreement rates aead before event after)
    (id : ConnectionId) (username pwd : Bytes)
    (found : after.identityAt id = some (username, pwd)) :
    id ∈ joinedIds (past ++ [event]) ∧
      username ∈ joinedUsernames (past ++ [event]) := by
  rw [joinedIds_append, joinedUsernames_append]
  suffices inPast : id ∈ joinedIds past ∧ username ∈ joinedUsernames past from
    ⟨List.mem_append_left _ inPast.1, List.mem_append_left _ inPast.2⟩
  cases step.connections with
  | kept same _ =>
      rw [same] at found
      exact consistent.connected id username pwd found
  | @removed removedId _ isRemoved _ =>
      rw [SfuSystem.identityAt_of_removed isRemoved] at found
      split at found
      · cases found
      · exact consistent.connected id username pwd found
  | @inserted join connection isJoining _ isInserted _ =>
      have inProgress := consistent.joinInProgress isJoining
      unfold SfuSystem.identityAt at found
      rw [isInserted] at found
      change ((before.sfu.connectionById.insert _ _).lookup id).map _ = _
        at found
      by_cases isNew : id = ⟨join.callId, join.demuxId⟩
      · rw [isNew, AList.lookup_insert] at found
        cases found
        rw [isNew]
        exact ⟨inProgress.joined, inProgress.username⟩
      · rw [AList.lookup_insert_ne isNew] at found
        exact consistent.connected id username pwd found

theorem indexed_step (consistent : Consistent past before)
    (step : SfuStep agreement rates aead before event after) :
    IsIndex (fun connection => connection.ice.requestUsername)
      after.sfu.connectionById
      after.sfu.connectionIdByIceRequestUsername := by
  cases step.connections with
  | kept same sameIndex =>
      rw [sameIndex]
      apply consistent.indexed.congr
      intro id
      have names := congrArg (Option.map Prod.fst) (same id)
      unfold SfuSystem.identityAt at names
      rw [Option.map_map, Option.map_map] at names
      exact names
  | @removed id _ isRemoved sameIndex =>
      rw [isRemoved, sameIndex]
      unfold Sfu.removeConnection
      cases found : before.sfu.connectionById.lookup id with
      | none => exact consistent.indexed
      | some connection => exact consistent.indexed.erase found
  | @inserted join connection isJoining _ isInserted sameIndex =>
      have inProgress := consistent.joinInProgress isJoining
      rw [isInserted, sameIndex]
      unfold Sfu.insertConnection
      dsimp only
      rw [← inProgress.named]
      exact consistent.indexed.insert
        (Option.map_eq_none_iff.mp inProgress.newId) inProgress.newName

variable {id : ConnectionId}

theorem joined_of_connected (consistent : Consistent past before)
    (connected : (before.identityAt id).isSome) :
    id ∈ joinedIds past := by
  obtain ⟨identity, found⟩ := Option.isSome_iff_exists.mp connected
  exact (consistent.connected id identity.1 identity.2 found).1

theorem username_eq_none (consistent : Consistent past before)
    {username : Bytes} (newName : username ∉ joinedUsernames past) :
    before.sfu.connectionIdByIceRequestUsername.lookup username = none := by
  cases found :
      before.sfu.connectionIdByIceRequestUsername.lookup username with
  | none => rfl
  | some id =>
      obtain ⟨present, stored, isNamed⟩ :=
        (consistent.indexed username id).mp found
      have identified : before.identityAt id =
          some (username, present.ice.pwd) := by
        unfold SfuSystem.identityAt
        rw [stored, ← isNamed]
        rfl
      exact absurd (consistent.connected id _ _ identified).2 newName

/-- A client that has not joined before is not in the call that it joins. -/
theorem not_hasClient (consistent : Consistent past before) {join : Join}
    {surroundings : JoinSurroundings}
    (newId : ⟨join.callId, join.demuxId⟩ ∉ joinedIds past) :
    (before.sfu.callEntry join surroundings).1.hasClient join.demuxId ≠
      true := by
  intro isIn
  obtain ⟨⟨call, found, hasClient⟩, _⟩ := Sfu.callEntry_of_hasClient isIn
  apply newId
  apply consistent.joined
  rw [SfuSystem.demuxIdsAt_of_lookup found]
  exact Call.mem_demuxIds.mpr hasClient

/-- A join whose keys agree is left with its connection to insert. -/
theorem join_step (consistent : Consistent past before) {join : Join}
    {surroundings : JoinSurroundings}
    (joinedOnce :
      (joinedIds (past ++ [.join join surroundings])).Nodup)
    (namedOnce :
      (joinedUsernames (past ++ [.join join surroundings])).Nodup)
    (keysAgree : Sfu.KeysAgree agreement join surroundings) :
    ∃ connection,
      (before.addClientToCall agreement join surroundings).lock =
        .joining join connection ∧
      JoinInProgress (past ++ [.join join surroundings])
        (before.addClientToCall agreement join surroundings) join
        connection := by
  rw [joinedIds_append] at joinedOnce
  rw [joinedUsernames_append] at namedOnce
  have newId : ⟨join.callId, join.demuxId⟩ ∉ joinedIds past := fun isOld =>
    (List.nodup_append.mp joinedOnce).2.2 _ isOld ⟨join.callId, join.demuxId⟩
      (by simp [joinedIds]) rfl
  have newName : joinUsername join.clientIceUfrag join.serverIceUfrag ∉
      joinedUsernames past := fun isOld =>
    (List.nodup_append.mp namedOnce).2.2 _ isOld
      (joinUsername join.clientIceUfrag join.serverIceUfrag)
      (by simp [joinedUsernames]) rfl
  obtain ⟨keys, agreed⟩ := Sfu.agreeOnKeys_isOk_iff.mpr keysAgree
  have tables := @SfuStep.connectionTables_addClientToCall _ agreement before
    join surroundings
  have isJoining : ∃ connection,
      (before.addClientToCall agreement join surroundings).lock =
        .joining join connection ∧
      connection.ice.requestUsername =
        joinUsername join.clientIceUfrag join.serverIceUfrag := by
    unfold SfuSystem.addClientToCall
    dsimp only
    rw [if_neg (consistent.not_hasClient newId), agreed]
    exact ⟨_, rfl, rfl⟩
  obtain ⟨connection, isLocked, named⟩ := isJoining
  refine ⟨connection, isLocked, ?_⟩
  constructor
  · rw [joinedIds_append]
    apply List.mem_append_right
    simp [joinedIds]
  · exact named
  · rw [joinedUsernames_append, named]
    apply List.mem_append_right
    simp [joinedUsernames]
  · unfold SfuSystem.identityAt
    rw [tables.1]
    exact Option.not_isSome_iff_eq_none.mp
      (mt consistent.joined_of_connected newId)
  · rw [tables.2, named]
    exact consistent.username_eq_none newName

/-- Who lost the connection is out of the call, or is about to be. -/
theorem removed_step (consistent : Consistent past before)
    (removes : Removes before after id)
    (isIn : id.demuxId ∈ before.demuxIdsAt id.callId) :
    after.lock.Excuses id := by
  cases removes with
  | byRequest isRemoving =>
      have gone := consistent.locked
      rw [isRemoving] at gone
      exact absurd isIn gone
  | byLeave isLeaving =>
      exact absurd isIn (consistent.tasks _ isLeaving).2
  | @byExpiry progress isTicking isLeft isExpired =>
      have locked := consistent.locked
      rw [isTicking] at locked
      rw [isExpired]
      refine ⟨List.mem_append_right _ (List.mem_singleton.mpr rfl), ?_⟩
      apply locked
      · exact List.ne_nil_of_mem isLeft
      · exact List.ne_nil_of_mem isIn

/-- A visited call has dropped its expired clients. -/
theorem excused_visitCall (consistent : Consistent past before)
    {progress : TickProgress} {callId : CallId} {call : Call externals}
    (found : before.sfu.callByCallId.lookup callId = some call)
    (excused : (SfuLock.ticking progress).Excuses id)
    (stays : id.callId = callId →
      id.demuxId ∈ (progress.dropExpired callId call).demuxIds) :
    (SfuLock.ticking (progress.visitCall callId)).Excuses id := by
  refine ⟨excused.1, ?_⟩
  apply List.mem_filter.mpr
  refine ⟨excused.2, ?_⟩
  have different : id.callId ≠ callId := by
    intro same
    have isIn := stays same
    subst same
    have noRepetition := consistent.distinct id.callId
    rw [SfuSystem.demuxIdsAt_of_lookup found] at noRepetition
    exact not_mem_dropExpired excused.1 noRepetition isIn
  simpa using different

/-- An excuse holds until the connection is there or the client is out. -/
theorem excused_step (consistent : Consistent past before)
    (step : SfuStep agreement rates aead before event after)
    (isIn : id.demuxId ∈ after.demuxIdsAt id.callId)
    (excused : before.lock.Excuses id) :
    (after.identityAt id).isSome ∨ after.lock.Excuses id := by
  cases step.lockEffect with
  | free _ nobody => exact absurd excused (nobody id)
  | joined isFree | dropped isFree | started isFree =>
      rw [isFree] at excused
      exact excused.elim
  | kept sameLock =>
      right
      rw [sameLock]
      exact excused
  | inserted isJoining _ isConnected =>
      left
      rw [isJoining] at excused
      rw [show id = _ from excused]
      exact isConnected
  | visitedConnection isTicking stillTicking _ sameCalls stillExpired =>
      right
      rw [isTicking] at excused
      rw [stillTicking]
      refine ⟨stillExpired excused.1, ?_⟩
      rw [sameCalls]
      exact excused.2
  | visitedCall isTicking stillTicking _ found stays =>
      right
      rw [isTicking] at excused
      rw [stillTicking]
      apply consistent.excused_visitCall found excused
      intro same
      rw [same] at isIn
      exact stays isIn

theorem covered_step (consistent : Consistent past before)
    (step : SfuStep agreement rates aead before event after)
    (joinedOnce : (joinedIds (past ++ [event])).Nodup)
    (namedOnce : (joinedUsernames (past ++ [event])).Nodup)
    (keysAgree : ∀ join surroundings, event = .join join surroundings →
      Sfu.KeysAgree agreement join surroundings)
    (callId : CallId) :
    ∀ demuxId ∈ after.demuxIdsAt callId,
      (after.identityAt ⟨callId, demuxId⟩).isSome ∨
        after.lock.Excuses ⟨callId, demuxId⟩ := by
  intro demuxId isIn
  rcases List.mem_append.mp ((step.demuxIds callId).subset isIn) with
    isNew | wasIn
  · -- The client of a join waits for its connection.
    cases event with
    | join join surroundings =>
        obtain ⟨connection, isJoining, _⟩ := consistent.join_step joinedOnce
          namedOnce (keysAgree join surroundings rfl)
        cases step
        right
        rw [isJoining]
        unfold SfuEvent.newcomers at isNew
        dsimp only at isNew
        split at isNew
        · rename_i same
          rw [same, List.mem_singleton.mp isNew]
          exact rfl
        · cases isNew
    | _ => cases isNew
  · rcases consistent.covered callId demuxId wasIn with connected | excused
    · cases step.connections with
      | kept same _ =>
          left
          rw [same]
          exact connected
      | @removed id removes isRemoved _ =>
          by_cases isId : ⟨callId, demuxId⟩ = id
          · right
            subst isId
            exact consistent.removed_step removes wasIn
          · left
            rw [SfuSystem.identityAt_of_removed isRemoved, if_neg isId]
            exact connected
      | @inserted join connection _ _ isInserted _ =>
          left
          rw [SfuSystem.identityAt_isSome] at connected ⊢
          rw [isInserted]
          change ((before.sfu.connectionById.insert _ _).lookup _).isSome = true
          by_cases isId : (⟨callId, demuxId⟩ : ConnectionId) =
              ⟨join.callId, join.demuxId⟩
          · rw [isId, AList.lookup_insert]
            rfl
          · rw [AList.lookup_insert_ne isId]
            exact connected
    · exact consistent.excused_step step isIn excused

/-- A section of a task does not disturb the holder of the lock. -/
theorem locked_of_kept {lock : SfuLock}
    (locked : LockInvariant past before lock)
    (shrinks : ∀ callId,
      (after.demuxIdsAt callId).Subperm (before.demuxIdsAt callId))
    (sameIdentities : ∀ id, after.identityAt id = before.identityAt id)
    (sameIndex : after.sfu.connectionIdByIceRequestUsername =
      before.sfu.connectionIdByIceRequestUsername) :
    LockInvariant (past ++ [event]) after lock := by
  cases lock with
  | free => trivial
  | joining join connection =>
      constructor
      · exact stillJoined locked.joined event
      · exact locked.named
      · rw [joinedUsernames_append]
        exact List.mem_append_left _ locked.username
      · rw [sameIdentities]
        exact locked.newId
      · rw [sameIndex]
        exact locked.newName
  | removing id =>
      intro isIn
      exact locked ((shrinks id.callId).subset isIn)
  | ticking progress =>
      intro someLeft callId someIn
      apply locked someLeft
      intro noneBefore
      apply someIn
      have shrunk := shrinks callId
      rw [noneBefore] at shrunk
      exact List.subperm_nil.mp shrunk

theorem locked_step (consistent : Consistent past before)
    (step : SfuStep agreement rates aead before event after)
    (joinedOnce : (joinedIds (past ++ [event])).Nodup)
    (namedOnce : (joinedUsernames (past ++ [event])).Nodup)
    (keysAgree : ∀ join surroundings, event = .join join surroundings →
      Sfu.KeysAgree agreement join surroundings) :
    LockInvariant (past ++ [event]) after after.lock := by
  have brings := step.demuxIds
  -- Nobody comes in unless a client joins.
  have shrinks : (∀ callId, event.newcomers callId = []) → ∀ callId,
      (after.demuxIdsAt callId).Subperm (before.demuxIdsAt callId) := by
    intro nobody callId
    have bringsIn := brings callId
    rw [nobody, List.nil_append] at bringsIn
    exact bringsIn
  cases step.lockEffect with
  | free isFree =>
      rw [isFree]
      trivial
  | inserted _ isFree =>
      rw [isFree]
      trivial
  | kept sameLock nobody sameIdentities sameIndex =>
      rw [sameLock]
      exact locked_of_kept consistent.locked (shrinks nobody) sameIdentities
        sameIndex
  | @joined join surroundings _ isJoin isJoined =>
      subst isJoin
      obtain ⟨connection, isJoining, inProgress⟩ := consistent.join_step
        joinedOnce namedOnce (keysAgree join surroundings rfl)
      rw [isJoined, isJoining]
      exact inProgress
  | @dropped id now _ isDropped =>
      rw [isDropped]
      exact gone_dropClient consistent.distinct now
  | started _ isStarted =>
      rw [isStarted]
      intro _ callId someIn
      apply AList.mem_keys.mp
      apply AList.lookup_isSome.mp
      cases found : before.sfu.callByCallId.lookup callId with
      | none =>
          apply absurd _ someIn
          change ((before.sfu.callByCallId.lookup callId).map
            Call.demuxIds).getD [] = []
          rw [found]
          rfl
      | some call => rfl
  | visitedConnection isTicking stillTicking someLeft sameCalls _ nobody =>
      have locked := consistent.locked
      rw [isTicking] at locked
      rw [stillTicking]
      intro _ callId someIn
      rw [sameCalls]
      apply locked someLeft
      intro noneBefore
      have shrunk := shrinks nobody callId
      rw [noneBefore] at shrunk
      exact someIn (List.subperm_nil.mp shrunk)
  | visitedCall _ stillTicking noneLeft =>
      rw [stillTicking]
      intro someLeft
      exact absurd noneLeft someLeft

theorem notJoining_of_joined (joinedOnce : (joinedIds (past ++ [event])).Nodup)
    (joined : id ∈ joinedIds past) : id ∉ joinedIds [event] := by
  intro joining
  rw [joinedIds_append] at joinedOnce
  exact (List.nodup_append.mp joinedOnce).2.2 id joined id joining rfl

theorem task_step {task : SfuTask} (promised : TaskInvariant past before task)
    (step : SfuStep agreement rates aead before event after)
    (joinedOnce : (joinedIds (past ++ [event])).Nodup) :
    TaskInvariant (past ++ [event]) after task := by
  cases task with
  | addressed address id work => exact stillJoined promised event
  | received id work => exact stillJoined promised event
  | inCall id ref work =>
      obtain ⟨joined, sameCall, currentOrGone⟩ := promised
      refine ⟨stillJoined joined event, sameCall, ?_⟩
      rcases currentOrGone with isCurrent | gone
      · rcases step.current isCurrent with stillCurrent | empty
        · exact .inl stillCurrent
        · right
          unfold Gone
          rw [← sameCall, empty]
          exact List.not_mem_nil
      · exact .inr (gone.step (notJoining_of_joined joinedOnce joined) step)
  | leaving id =>
      obtain ⟨joined, gone⟩ := promised
      exact ⟨stillJoined joined event,
        gone.step (notJoining_of_joined joinedOnce joined) step⟩
  | sending callId toSend => trivial
  | sendingTo id output rest => trivial
  | ice address id request => trivial
  | recording address id => trivial

/-- A client that leaves the call a task holds is out of the call in the
table. -/
theorem gone_of_leave (consistent : Consistent past before) {ref : CallRef}
    {call handled : Call externals} (sameCall : ref.callId = id.callId)
    (currentOrGone : before.IsCurrent ref ∨ Gone before id)
    (found : before.callAt ref = some call)
    (left : handled.demuxIds.Perm (call.demuxIds.erase id.demuxId)) :
    Gone (before.setCallAt ref handled) id := by
  unfold Gone
  by_cases isCurrent : before.IsCurrent ref
  · unfold SfuSystem.callAt at found
    rw [if_pos isCurrent] at found
    unfold SfuSystem.setCallAt
    rw [if_pos isCurrent, SfuSystem.demuxIdsAt_insertCall,
      if_pos sameCall.symm, left.mem_iff]
    have noRepetition := consistent.distinct ref.callId
    rw [SfuSystem.demuxIdsAt_of_lookup found] at noRepetition
    exact noRepetition.not_mem_erase
  · unfold SfuSystem.setCallAt
    rw [if_neg isCurrent]
    exact currentOrGone.resolve_left isCurrent

theorem joined_of_address (consistent : Consistent past before)
    {address : SocketLocator}
    (found : before.getConnectionFromAddress address = some id) :
    id ∈ joinedIds past := by
  obtain ⟨_, _, rest⟩ := Option.bind_eq_some_iff.mp found
  obtain ⟨connection, stored, returned⟩ := Option.bind_eq_some_iff.mp rest
  cases returned
  apply consistent.joined_of_connected
  rw [SfuSystem.identityAt_isSome, stored]
  rfl

theorem tasks_of_continues {task : SfuTask} {next : Option SfuTask}
    {tasks : List SfuTask} (continues : Continues before.tasks task next tasks)
    (old : ∀ other ∈ before.tasks,
      TaskInvariant (past ++ [event]) after other)
    (new : ∀ other, next = some other →
      TaskInvariant (past ++ [event]) after other) :
    ∀ other ∈ tasks, TaskInvariant (past ++ [event]) after other := by
  intro other isTask
  rcases continues.mem_after isTask with isOld | isNext
  · exact old other isOld
  · exact new other isNext

/-- The task that goes on after the call has handled its work. -/
theorem outcome_step (consistent : Consistent past before) {ref : CallRef}
    {work : CallWork} {call handled : Call externals} {now : Instant}
    {outcome : CallOutcome} (isTask : .inCall id ref work ∈ before.tasks)
    (found : before.callAt ref = some call)
    (handles : call.handleWork id.demuxId now work = .ok (outcome, handled))
    {other : SfuTask} (isNext : outcome.next id = some other) :
    TaskInvariant (past ++ [event]) (before.setCallAt ref handled) other := by
  obtain ⟨joined, sameCall, currentOrGone⟩ := consistent.tasks _ isTask
  cases outcome with
  | leave =>
      cases isNext
      exact ⟨stillJoined joined _, consistent.gone_of_leave sameCall
        currentOrGone found ((Call.demuxIds_handleWork handles).2 rfl)⟩
  | failed => cases isNext
  | outputs toSend =>
      cases isNext
      trivial

theorem tasks_step (consistent : Consistent past before)
    (step : SfuStep agreement rates aead before event after)
    (joinedOnce : (joinedIds (past ++ [event])).Nodup) :
    ∀ task ∈ after.tasks, TaskInvariant (past ++ [event]) after task := by
  have old : ∀ task ∈ before.tasks,
      TaskInvariant (past ++ [event]) after task := fun task isTask =>
    task_step (consistent.tasks task isTask) step joinedOnce
  have appended : ∀ task, TaskInvariant (past ++ [event]) after task →
      ∀ other ∈ before.tasks ++ [task],
        TaskInvariant (past ++ [event]) after other := by
    intro task new other isTask
    rcases List.mem_append.mp isTask with isOld | isNew
    · exact old other isOld
    · rw [List.mem_singleton.mp isNew]
      exact new
  cases step with
  | @join join surroundings _ =>
      obtain ⟨calls, serials, next, lock, isJoined⟩ :=
        before.addClientToCall_eq agreement join surroundings
      rw [isJoined] at old ⊢
      exact old
  | @removeClientFromCall id now _ =>
      obtain ⟨calls, isDropped⟩ := before.dropClient_eq id now
      rw [isDropped] at old ⊢
      exact old
  | @addressed address id work _ found =>
      exact appended _ (stillJoined (consistent.joined_of_address found) _)
  | named _ _ => exact appended _ trivial
  | @handled address id work _ _ next _ _ _ continues =>
      apply tasks_of_continues continues old
      intro other isNext
      obtain ⟨callWork, _, rfl⟩ := Option.map_eq_some_iff.mp isNext
      exact stillJoined (consistent.tasks _ continues.mem) _
  | @gotCall id work serial _ _ found continues =>
      apply tasks_of_continues continues old
      rintro other ⟨⟩
      exact ⟨stillJoined (consistent.tasks _ continues.mem) _, rfl,
        .inl found⟩
  | handledInCall found handles continues =>
      exact tasks_of_continues continues old fun other isNext =>
        consistent.outcome_step continues.mem found handles isNext
  | accepted _ _ continues | gotConnection _ _ continues
  | missedConnection _ _ continues | sent _ _ continues =>
      apply tasks_of_continues continues old
      rintro other ⟨⟩
      trivial
  | rejected _ _ continues | missedCall _ _ continues
  | recorded _ continues | left _ continues =>
      apply tasks_of_continues continues old
      rintro other ⟨⟩
  | _ => exact old

theorem step (consistent : Consistent past before)
    (step : SfuStep agreement rates aead before event after)
    (joinedOnce : (joinedIds (past ++ [event])).Nodup)
    (namedOnce : (joinedUsernames (past ++ [event])).Nodup)
    (keysAgree : ∀ join surroundings, event = .join join surroundings →
      Sfu.KeysAgree agreement join surroundings) :
    Consistent (past ++ [event]) after where
  joined := consistent.joined_step step
  distinct := consistent.distinct_step step joinedOnce
  connected := consistent.connected_step step
  indexed := consistent.indexed_step step
  covered := consistent.covered_step step joinedOnce namedOnce keysAgree
  locked := consistent.locked_step step joinedOnce namedOnce keysAgree
  tasks := consistent.tasks_step step joinedOnce

end Consistent

/-! ## Every run -/

theorem consistent_new (config : SfuConfig)
    (inactivityCheckInterval : Duration) (region : Region) (now : Instant) :
    Consistent [] (SfuSystem.new config inactivityCheckInterval region now :
      SfuSystem externals) where
  joined := by
    intro callId demuxId isIn
    cases isIn
  distinct := fun _ => List.nodup_nil
  connected := by
    intro id username pwd found
    cases found
  indexed := .empty
  covered := by
    intro callId demuxId isIn
    cases isIn
  locked := trivial
  tasks := by
    intro task isTask
    cases isTask

section Runs

variable {agreement : KeyAgreement} {rates : RateArithmetic} {aead : Aead}

theorem Consistent.of_run {start system : SfuSystem externals}
    {events : List SfuEvent} (consistent : Consistent [] start)
    (run : Run (SfuStep agreement rates aead) start events system)
    (joinedOnce : (joinedIds events).Nodup)
    (namedOnce : (joinedUsernames events).Nodup)
    (keysAgree : ∀ join surroundings, .join join surroundings ∈ events →
      Sfu.KeysAgree agreement join surroundings) :
    Consistent events system := by
  induction run with
  | nil => exact consistent
  | @snoc past event middle finish _ last ih =>
      have shorter : past.Sublist (past ++ [event]) :=
        List.sublist_append_left _ _
      have before := ih (joinedOnce.sublist (shorter.filterMap _))
        (namedOnce.sublist (shorter.filterMap _))
        fun join surroundings isJoin =>
          keysAgree join surroundings (List.mem_append_left _ isJoin)
      apply before.step last joinedOnce namedOnce
      rintro join surroundings rfl
      exact keysAgree join surroundings
        (List.mem_append_right _ (List.mem_singleton.mpr rfl))

/-- The call of a join is inserted, the others stay. -/
theorem SfuSystem.lookup_addClientToCall_ne_none
    {system : SfuSystem externals} (join : Join)
    (surroundings : JoinSurroundings) {callId : CallId}
    {call : Call externals}
    (found : system.sfu.callByCallId.lookup callId = some call) :
    (system.addClientToCall agreement join
      surroundings).sfu.callByCallId.lookup callId ≠ none := by
  have stays : ∀ changed,
      ((system.sfu.callEntry join surroundings).2.insert join.callId
        changed).lookup callId ≠ none := by
    intro changed
    by_cases isJoined : callId = join.callId
    · rw [isJoined, AList.lookup_insert]
      exact Option.some_ne_none changed
    · rw [AList.lookup_insert_ne isJoined]
      unfold Sfu.callEntry
      split
      · rw [found]
        exact Option.some_ne_none call
      · rw [AList.lookup_insert_ne isJoined, found]
        exact Option.some_ne_none call
  unfold SfuSystem.addClientToCall
  dsimp only
  split
  · rename_i alreadyIn
    dsimp only
    rw [(Sfu.callEntry_of_hasClient alreadyIn).2, found]
    exact Option.some_ne_none call
  · split
    · exact stays _
    · exact stays _

/-- A call is removed by a tick, and only when it is empty. -/
theorem SfuStep.removed_call {before after : SfuSystem externals}
    {event : SfuEvent}
    (step : SfuStep agreement rates aead before event after)
    {callId : CallId} {call : Call externals}
    (found : before.sfu.callByCallId.lookup callId = some call)
    (removed : after.sfu.callByCallId.lookup callId = none) :
    ∃ progress, before.lock = .ticking progress ∧
      (progress.dropExpired callId call).clients = [] ∧
      (progress.dropExpired callId call).pendingClients = [] ∧
      (progress.dropExpired callId call).removedClients = [] := by
  have kept : after.sfu.callByCallId = before.sfu.callByCallId → False := by
    intro same
    rw [same, found] at removed
    cases removed
  have inserted : ∀ {other changed},
      after.sfu.callByCallId =
        before.sfu.callByCallId.insert other changed → False := by
    intro other changed same
    rw [same] at removed
    by_cases isOther : callId = other
    · rw [isOther, AList.lookup_insert] at removed
      cases removed
    · rw [AList.lookup_insert_ne isOther, found] at removed
      cases removed
  cases step with
  | @removeInactiveCall progress other stored isTicking _ _ isStored inactive =>
      change (before.sfu.callByCallId.erase other).lookup callId = none
        at removed
      have same : callId = other := by
        by_contra different
        rw [AList.lookup_erase_ne different, found] at removed
        cases removed
      subst same
      rw [isStored, Option.some_inj] at found
      subst found
      refine ⟨progress, isTicking, ?_⟩
      unfold Call.activity at inactive
      split at inactive
      · cases inactive
      · rename_i allEmpty
        simpa only [not_or, not_not] using allEmpty
  | @join join surroundings _ =>
      exact (SfuSystem.lookup_addClientToCall_ne_none join surroundings
        found removed).elim
  | @removeClientFromCall id now _ =>
      exfalso
      have dropped : (before.dropClient id now).sfu.callByCallId =
            before.sfu.callByCallId ∨
          ∃ other changed, (before.dropClient id now).sfu.callByCallId =
            before.sfu.callByCallId.insert other changed := by
        unfold SfuSystem.dropClient
        split
        · exact .inl rfl
        · exact .inr ⟨_, _, rfl⟩
      rcases dropped with same | ⟨other, changed, isInserted⟩
      · exact kept same
      · exact inserted isInserted
  | keepWaitingCall _ _ _ _ _ | tickCall _ _ _ _ _ _ =>
      exact (inserted rfl).elim
  | removeConnection _ | expireConnection _ _ _ _ =>
      exact (kept (SfuSystem.callByCallId_removeConnection _ _)).elim
  | left _ _ => exact (kept (SfuSystem.callByCallId_removeConnection _ _)).elim
  | handled _ _ _ | accepted _ _ _ | sent _ _ _ =>
      exact (kept (SfuSystem.callByCallId_setConnectionAt _ _ _)).elim
  | @handledInCall id ref _ _ handled _ _ _ _ _ _ =>
      exfalso
      have set : (before.setCallAt ref handled).sfu.callByCallId =
            before.sfu.callByCallId ∨
          (before.setCallAt ref handled).sfu.callByCallId =
            before.sfu.callByCallId.insert ref.callId handled := by
        unfold SfuSystem.setCallAt
        split
        · exact .inr rfl
        · exact .inl rfl
      rcases set with same | isInserted
      · exact kept same
      · exact inserted isInserted
  | _ => exact (kept rfl).elim

/-- If clients join once, with usernames of their own and keys that agree, the
tables agree: while the lock is free every client of a call has a connection,
and the usernames are those of the connections.  A call that is removed is
empty. -/
theorem sfu_tables_agree {config : SfuConfig}
    {inactivityCheckInterval : Duration} {region : Region} {now : Instant}
    {system : SfuSystem externals} {events : List SfuEvent}
    (run : Run (SfuStep agreement rates aead)
      (.new config inactivityCheckInterval region now) events system)
    (joinedOnce : (joinedIds events).Nodup)
    (namedOnce : (joinedUsernames events).Nodup)
    (keysAgree : ∀ join surroundings, .join join surroundings ∈ events →
      Sfu.KeysAgree agreement join surroundings) :
    (system.lock = .free → ∀ callId call demuxId,
      system.sfu.callByCallId.lookup callId = some call →
        call.hasClient demuxId = true →
          (system.sfu.connectionById.lookup ⟨callId, demuxId⟩).isSome) ∧
    (∀ username id,
      system.sfu.connectionIdByIceRequestUsername.lookup username =
          some id ↔
        ∃ connection, system.sfu.connectionById.lookup id =
          some connection ∧ connection.ice.requestUsername = username) ∧
    (∀ event after callId call,
      SfuStep agreement rates aead system event after →
        system.sfu.callByCallId.lookup callId = some call →
          after.sfu.callByCallId.lookup callId = none →
            ∃ progress, system.lock = .ticking progress ∧
              (progress.dropExpired callId call).clients = [] ∧
              (progress.dropExpired callId call).pendingClients = [] ∧
              (progress.dropExpired callId call).removedClients = []) := by
  have consistent := (consistent_new config inactivityCheckInterval region
    now).of_run run joinedOnce namedOnce keysAgree
  refine ⟨?_, consistent.indexed, ?_⟩
  · intro isFree callId call demuxId found hasClient
    have isIn : demuxId ∈ system.demuxIdsAt callId := by
      rw [SfuSystem.demuxIdsAt_of_lookup found]
      exact Call.mem_demuxIds.mpr hasClient
    rcases consistent.covered callId demuxId isIn with connected | excused
    · rw [SfuSystem.identityAt_isSome] at connected
      exact connected
    · rw [isFree] at excused
      exact excused.elim
  · intro event after callId call step found removed
    exact step.removed_call found removed

end Runs

/-- The join sends a point of the curve. -/
def joinWithPoint : Join :=
  { Sfu.joinWithoutPoint with
    clientDhePublicKey := ⟨0x02 :: List.replicate 32 0, rfl⟩ }

/-- One client has joined. -/
theorem sfu_tables_agree_joined :
    ∃ (events : List SfuEvent) (system : SfuSystem directExternals),
      Run (SfuStep Sfu.prefixAgreement exactRates videoAead)
        (.new Sfu.emptySfu.config (fromSecs 5) .unknown 0) events system ∧
      ∃ call, system.sfu.callByCallId.lookup [1] = some call ∧
        call.hasClient ⟨16, rfl⟩ = true ∧
        (system.sfu.connectionById.lookup ⟨[1], ⟨16, rfl⟩⟩).isSome := by
  let start : SfuSystem directExternals :=
    .new Sfu.emptySfu.config (fromSecs 5) .unknown 0
  have isJoining : ∃ connection,
      (start.addClientToCall Sfu.prefixAgreement joinWithPoint
        Sfu.joinNow).lock = .joining joinWithPoint connection := ⟨_, rfl⟩
  obtain ⟨connection, isJoining⟩ := isJoining
  have joins : SfuStep Sfu.prefixAgreement exactRates videoAead start
      (.join joinWithPoint Sfu.joinNow)
      (start.addClientToCall Sfu.prefixAgreement joinWithPoint Sfu.joinNow) :=
    .join rfl
  have run := Run.snoc (.snoc .nil joins) (.insertConnection isJoining)
  have agree := sfu_tables_agree run (List.nodup_singleton _)
    (List.nodup_singleton _) (by
    intro join surroundings isJoin
    simp only [List.nil_append, List.cons_append, List.mem_cons,
      SfuEvent.join.injEq, reduceCtorEq, List.not_mem_nil, or_false]
      at isJoin
    obtain ⟨rfl, rfl⟩ := isJoin
    exact ⟨_, _, _, _, rfl, rfl, rfl⟩)
  obtain ⟨call, found, hasClient⟩ : ∃ call,
      (start.addClientToCall Sfu.prefixAgreement joinWithPoint
        Sfu.joinNow).sfu.callByCallId.lookup [1] = some call ∧
      call.hasClient ⟨16, rfl⟩ = true := ⟨_, rfl, rfl⟩
  exact ⟨_, _, run, call, found, hasClient,
    agree.1 rfl [1] call ⟨16, rfl⟩ found hasClient⟩

end CallingService.Backend
