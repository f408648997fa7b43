import CallingService.Backend.SfuTables

/-!
# Who is behind an address

An address stands for the connection whose binding request from it was
recorded last.  The lookup, the check and the record of a binding request are
sections of their own, as are the lookup of an address and the handling of
what came from it.
-/

namespace CallingService.Backend

open Foundation Rtp

variable {externals : CallExternals}

/-! ## Histories -/

/-- A binding request from the address named the connection, verified under
its password and was accepted by it. -/
def AcceptedFrom (past : List SfuEvent) (address : SocketLocator)
    (id : ConnectionId) : Prop :=
  ∃ earlier request later username pwd,
    past = earlier ++ .accepted address id request :: later ∧
    .insertConnection id username pwd ∈ earlier ∧
    request.username = username ∧ request.verifyHmac pwd = true

/-- Such a request was recorded for the address, and later none for another
connection. -/
def OwnsAddress (past : List SfuEvent) (address : SocketLocator)
    (id : ConnectionId) : Prop :=
  ∃ earlier later, past = earlier ++ .recorded address id :: later ∧
    AcceptedFrom earlier address id ∧
    ∀ other, .recorded address other ∈ later → other = id

/-- The connection owned the address when the address was looked up. -/
def LookedUp (past : List SfuEvent) (address : SocketLocator)
    (id : ConnectionId) (work : AddressedWork) : Prop :=
  ∃ earlier later, past = earlier ++ .addressed address id work :: later ∧
    OwnsAddress earlier address id

/-- What is handled was looked up before. -/
def Authorized (past : List SfuEvent) (event : SfuEvent) : Prop :=
  ∀ address id work, event = .handled address id work →
    LookedUp past address id work

section Histories

variable {past : List SfuEvent} {address : SocketLocator} {id : ConnectionId}

theorem AcceptedFrom.append (accepted : AcceptedFrom past address id)
    (event : SfuEvent) : AcceptedFrom (past ++ [event]) address id := by
  obtain ⟨earlier, request, later, username, pwd, rfl, rest⟩ := accepted
  exact ⟨earlier, request, later ++ [event], username, pwd, by simp, rest⟩

theorem LookedUp.append {work : AddressedWork}
    (lookedUp : LookedUp past address id work) (event : SfuEvent) :
    LookedUp (past ++ [event]) address id work := by
  obtain ⟨earlier, later, rfl, owns⟩ := lookedUp
  exact ⟨earlier, later ++ [event], by simp, owns⟩

theorem OwnsAddress.append (owns : OwnsAddress past address id)
    {event : SfuEvent}
    (notForOther : ∀ other, event = .recorded address other → other = id) :
    OwnsAddress (past ++ [event]) address id := by
  obtain ⟨earlier, later, rfl, accepted, latest⟩ := owns
  refine ⟨earlier, later ++ [event], by simp, accepted, ?_⟩
  intro other isRecorded
  rcases List.mem_append.mp isRecorded with before | last
  · exact latest other before
  · exact notForOther other (List.mem_singleton.mp last).symm

end Histories

/-- What a task under way owes to the past. -/
def TaskProvenance (past : List SfuEvent) : SfuTask → Prop
  | .addressed address id work => LookedUp past address id work
  | .recording address id => AcceptedFrom past address id
  | _ => True

theorem TaskProvenance.append {past : List SfuEvent} {task : SfuTask}
    (promised : TaskProvenance past task) (event : SfuEvent) :
    TaskProvenance (past ++ [event]) task := by
  cases task with
  | addressed address id work => exact LookedUp.append promised event
  | recording address id => exact AcceptedFrom.append promised event
  | _ => trivial

/-! ## Shared connections -/

namespace SfuSystem

theorem connectionAt_setConnectionAt (system : SfuSystem externals)
    (id : ConnectionId) (connection : Connection) (other : ConnectionId) :
    (system.setConnectionAt id connection).connectionAt other =
      if other = id then some connection else system.connectionAt other := by
  unfold setConnectionAt
  split
  · unfold connectionAt insertConnection
    dsimp only
    split
    · rename_i same
      rw [same, AList.lookup_insert, Option.some_or]
    · rename_i different
      rw [AList.lookup_insert_ne different]
  · rename_i detached
    unfold connectionAt
    dsimp only
    split
    · rename_i same
      rw [same, Option.not_isSome_iff_eq_none.mp detached, Option.none_or,
        AList.lookup_insert]
    · rename_i different
      rw [AList.lookup_insert_ne different]

theorem connectionAt_insertConnection (system : SfuSystem externals)
    (id : ConnectionId) (connection : Connection) (other : ConnectionId) :
    (system.insertConnection id connection).connectionAt other =
      if other = id then some connection else system.connectionAt other := by
  unfold connectionAt insertConnection
  dsimp only
  split
  · rename_i same
    rw [same, AList.lookup_insert, Option.some_or]
  · rename_i different
    rw [AList.lookup_insert_ne different]

theorem connectionAt_of_lookup {system : SfuSystem externals}
    {id : ConnectionId} {connection : Connection}
    (found : system.sfu.connectionById.lookup id = some connection) :
    system.connectionAt id = some connection := by
  unfold connectionAt
  rw [found, Option.some_or]

/-- A removed connection can still be held. -/
theorem connectionAt_removeConnection (system : SfuSystem externals)
    (id other : ConnectionId) :
    (system.removeConnection id).connectionAt other =
      system.connectionAt other := by
  unfold connectionAt removeConnection Sfu.removeConnection
  dsimp only
  cases found : system.sfu.connectionById.lookup id with
  | none => rfl
  | some connection =>
      dsimp only
      by_cases same : other = id
      · rw [same, AList.lookup_erase, AList.lookup_insert, found,
          Option.none_or, Option.some_or]
      · rw [AList.lookup_erase_ne same, AList.lookup_insert_ne same]

end SfuSystem

namespace SfuStep

variable {agreement : KeyAgreement} {rates : RateArithmetic} {aead : Aead}
variable {before after : SfuSystem externals} {event : SfuEvent}

/-- A connection is what it was, or has just been inserted. -/
theorem connectionAt_cases
    (step : SfuStep agreement rates aead before event after)
    {id : ConnectionId} {connection : Connection}
    (found : after.connectionAt id = some connection) :
    (∃ earlier, before.connectionAt id = some earlier ∧
      connection.identity = earlier.identity) ∨
    event = .insertConnection id connection.ice.requestUsername
      connection.ice.pwd := by
  have kept : (∀ other, after.connectionAt other =
      before.connectionAt other) → ∃ earlier,
      before.connectionAt id = some earlier ∧
        connection.identity = earlier.identity := by
    intro same
    rw [same] at found
    exact ⟨connection, found, rfl⟩
  have changed : ∀ {changedId old new},
      (∀ other, after.connectionAt other =
        if other = changedId then some new else before.connectionAt other) →
      before.connectionAt changedId = some old →
      Connection.identity new = Connection.identity old →
      ∃ earlier, before.connectionAt id = some earlier ∧
        connection.identity = earlier.identity := by
    intro changedId old new isChange isOld same
    rw [isChange] at found
    split at found
    · rename_i isChanged
      cases found
      exact ⟨old, by rw [isChanged, isOld], same⟩
    · exact ⟨connection, found, rfl⟩
  cases step with
  | @join join surroundings _ =>
      left
      obtain ⟨calls, serials, next, lock, isJoined⟩ :=
        before.addClientToCall_eq agreement join surroundings
      rw [isJoined] at found
      exact ⟨connection, found, rfl⟩
  | @insertConnection join inserted _ =>
      change ((before.sfu.connectionById.insert ⟨join.callId, join.demuxId⟩
        inserted).lookup id).or (before.detachedConnections.lookup id) = _
        at found
      by_cases same : id = ⟨join.callId, join.demuxId⟩
      · right
        rw [same, AList.lookup_insert, Option.some_or] at found
        cases found
        rw [same]
      · left
        rw [AList.lookup_insert_ne same] at found
        exact ⟨connection, found, rfl⟩
  | @removeClientFromCall dropped now _ =>
      left
      obtain ⟨calls, isDropped⟩ := before.dropClient_eq dropped now
      rw [isDropped] at found
      exact ⟨connection, found, rfl⟩
  | removeConnection _ | expireConnection _ _ _ _ =>
      exact .inl (kept (before.connectionAt_removeConnection _))
  | left _ _ => exact .inl (kept (before.connectionAt_removeConnection _))
  | keepConnection _ _ stored _ ticked =>
      exact .inl (changed (before.connectionAt_insertConnection _ _)
        (SfuSystem.connectionAt_of_lookup stored) ticked.identity_eq)
  | tickConfigure _ _ _ stored =>
      exact .inl (changed (before.connectionAt_insertConnection _ _)
        (SfuSystem.connectionAt_of_lookup stored) rfl)
  | tickSend _ _ _ stored sends =>
      exact .inl (changed (before.connectionAt_insertConnection _ _)
        (SfuSystem.connectionAt_of_lookup stored) sends.identity_eq)
  | handled stored handles _ =>
      exact .inl (changed (before.connectionAt_setConnectionAt _ _) stored
        handles.identity_eq)
  | accepted stored accepted _ =>
      exact .inl (changed (before.connectionAt_setConnectionAt _ _) stored
        (Connection.identity_of_accepted accepted))
  | sent stored sends _ =>
      exact .inl (changed (before.connectionAt_setConnectionAt _ _) stored
        sends.identity_eq)
  | @handledInCall _ ref _ _ handled _ _ _ _ _ _ =>
      left
      obtain ⟨calls, detached, isSet⟩ := before.setCallAt_eq ref handled
      rw [isSet] at found
      exact ⟨connection, found, rfl⟩
  | _ => exact .inl (kept fun _ => rfl)

/-- Only a record changes what an address stands for. -/
theorem owner_cases (step : SfuStep agreement rates aead before event after)
    {address : SocketLocator} {id : ConnectionId}
    (found : after.connectionIdByAddress.get address = some id) :
    before.connectionIdByAddress.get address = some id ∧
        (∀ other, event = .recorded address other → other = id) ∨
      event = .recorded address id ∧ .recording address id ∈ before.tasks := by
  cases step with
  | @recorded recordedAddress recordedId _ _ continues =>
      change (before.connectionIdByAddress.insertWithoutRemovingOld
        recordedAddress recordedId).get address = some id at found
      rw [TwoGenerationCache.get_insertWithoutRemovingOld] at found
      split at found
      · rename_i same
        cases found
        right
        rw [same]
        exact ⟨rfl, continues.mem⟩
      · rename_i different
        refine .inl ⟨found, ?_⟩
        rintro other ⟨⟩
        exact absurd rfl different
  | endTick _ _ _ =>
      refine .inl ⟨TwoGenerationCache.get_removeOld found, ?_⟩
      rintro other ⟨⟩
  | @join join surroundings _ =>
      obtain ⟨calls, serials, next, lock, isJoined⟩ :=
        before.addClientToCall_eq agreement join surroundings
      rw [isJoined] at found
      refine .inl ⟨found, ?_⟩
      rintro other ⟨⟩
  | @removeClientFromCall dropped now _ =>
      obtain ⟨calls, isDropped⟩ := before.dropClient_eq dropped now
      rw [isDropped] at found
      refine .inl ⟨found, ?_⟩
      rintro other ⟨⟩
  | @handled _ changed _ _ handled _ _ _ _ _ =>
      obtain ⟨connections, detached, isSet⟩ :=
        before.setConnectionAt_eq changed handled
      rw [isSet] at found
      refine .inl ⟨found, ?_⟩
      rintro other ⟨⟩
  | @accepted _ changed _ _ accepted _ _ _ _ _ =>
      obtain ⟨connections, detached, isSet⟩ :=
        before.setConnectionAt_eq changed accepted
      rw [isSet] at found
      refine .inl ⟨found, ?_⟩
      rintro other ⟨⟩
  | @sent changed _ _ _ sent _ _ _ _ =>
      obtain ⟨connections, detached, isSet⟩ :=
        before.setConnectionAt_eq changed sent
      rw [isSet] at found
      refine .inl ⟨found, ?_⟩
      rintro other ⟨⟩
  | @handledInCall _ ref _ _ handled _ _ _ _ _ _ =>
      obtain ⟨calls, detached, isSet⟩ := before.setCallAt_eq ref handled
      rw [isSet] at found
      refine .inl ⟨found, ?_⟩
      rintro other ⟨⟩
  | _ =>
      refine .inl ⟨found, ?_⟩
      rintro other ⟨⟩

/-- Where a task under way comes from: it was there before, a connection was
found by its address, or it accepted a binding request. -/
inductive TaskOrigin (before : SfuSystem externals) (event : SfuEvent) :
    SfuTask → Prop where
  | kept {task : SfuTask} : task ∈ before.tasks → TaskOrigin before event task
  | found {address : SocketLocator} {id : ConnectionId}
      {work : AddressedWork} :
      event = .addressed address id work →
      before.connectionIdByAddress.get address = some id →
      TaskOrigin before event (.addressed address id work)
  | accepted {address : SocketLocator} {id : ConnectionId}
      {request : BindingRequest} {connection : Connection} :
      event = .accepted address id request →
      before.connectionAt id = some connection →
      request.username = connection.ice.requestUsername →
      request.verifyHmac connection.ice.pwd = true →
      TaskOrigin before event (.recording address id)
  | free {task : SfuTask} :
      (∀ past, TaskProvenance past task) → TaskOrigin before event task

theorem task_origin (step : SfuStep agreement rates aead before event after)
    {task : SfuTask} (isTask : task ∈ after.tasks) :
    TaskOrigin before event task := by
  have continued : ∀ {old next tasks},
      Continues before.tasks old next tasks → task ∈ tasks →
      (∀ other, next = some other → ∀ past, TaskProvenance past other) →
      TaskOrigin before event task := by
    intro old next tasks continues isIn promised
    rcases continues.mem_after isIn with isOld | isNext
    · exact .kept isOld
    · exact .free (promised task isNext)
  cases step with
  | @join join surroundings _ =>
      obtain ⟨calls, serials, next, lock, isJoined⟩ :=
        before.addClientToCall_eq agreement join surroundings
      rw [isJoined] at isTask
      exact .kept isTask
  | @removeClientFromCall dropped now _ =>
      obtain ⟨calls, isDropped⟩ := before.dropClient_eq dropped now
      rw [isDropped] at isTask
      exact .kept isTask
  | addressed _ found =>
      rcases List.mem_append.mp isTask with isOld | isNew
      · exact .kept isOld
      · obtain ⟨_, isOwner, rest⟩ := Option.bind_eq_some_iff.mp found
        obtain ⟨connection, stored, returned⟩ :=
          Option.bind_eq_some_iff.mp rest
        cases returned
        rw [List.mem_singleton.mp isNew]
        exact .found rfl isOwner
  | accepted stored accepted continues =>
      rcases continues.mem_after isTask with isOld | isNext
      · exact .kept isOld
      · obtain ⟨named, verified, _, _⟩ :=
          Connection.handleIceBindingRequest_ok accepted
        cases isNext
        exact .accepted rfl stored named verified
  | named _ _ =>
      rcases List.mem_append.mp isTask with isOld | isNew
      · exact .kept isOld
      · rw [List.mem_singleton.mp isNew]
        exact .free fun _ => trivial
  | @handled _ _ _ _ _ next _ _ _ continues =>
      apply continued continues isTask
      intro other isNext past
      obtain ⟨callWork, _, rfl⟩ := Option.map_eq_some_iff.mp isNext
      trivial
  | @handledInCall _ _ _ _ _ _ outcome _ _ _ continues =>
      apply continued continues isTask
      intro other isNext past
      cases outcome with
      | leave =>
          cases isNext
          trivial
      | failed => cases isNext
      | outputs toSend =>
          cases isNext
          trivial
  | rejected _ _ continues | recorded _ continues | missedCall _ _ continues
  | left _ continues =>
      apply continued continues isTask
      rintro other ⟨⟩
  | gotCall _ _ continues | gotConnection _ _ continues
  | missedConnection _ _ continues | sent _ _ continues =>
      apply continued continues isTask
      rintro other ⟨⟩ past
      trivial
  | _ => exact .kept isTask

/-- What is handled was waiting for it. -/
theorem mem_of_handled
    (step : SfuStep agreement rates aead before event after)
    {address : SocketLocator} {id : ConnectionId} {work : AddressedWork}
    (isHandled : event = .handled address id work) :
    .addressed address id work ∈ before.tasks := by
  subst isHandled
  cases step with
  | handled _ _ continues => exact continues.mem

end SfuStep

/-! ## The invariant -/

/-- What the tables and the tasks owe to the past. -/
structure Provenance (past : List SfuEvent) (system : SfuSystem externals) :
    Prop where
  authorized : Throughout Authorized past
  inserted : ∀ id connection, system.connectionAt id = some connection →
    .insertConnection id connection.ice.requestUsername connection.ice.pwd ∈
      past
  owned : ∀ address id, system.connectionIdByAddress.get address = some id →
    OwnsAddress past address id
  tasks : ∀ task ∈ system.tasks, TaskProvenance past task

namespace Provenance

variable {agreement : KeyAgreement} {rates : RateArithmetic} {aead : Aead}
variable {before after : SfuSystem externals} {event : SfuEvent}
variable {past : List SfuEvent}

theorem authorized_step (provenance : Provenance past before)
    (step : SfuStep agreement rates aead before event after) :
    Throughout Authorized (past ++ [event]) := by
  refine throughout_snoc.mpr ⟨provenance.authorized, ?_⟩
  intro address id work isHandled
  exact provenance.tasks _ (step.mem_of_handled isHandled)

theorem inserted_step (provenance : Provenance past before)
    (step : SfuStep agreement rates aead before event after)
    (id : ConnectionId) (connection : Connection)
    (found : after.connectionAt id = some connection) :
    .insertConnection id connection.ice.requestUsername connection.ice.pwd ∈
      past ++ [event] := by
  rcases step.connectionAt_cases found with
    ⟨earlier, wasThere, same⟩ | isInserted
  · apply List.mem_append_left
    obtain ⟨sameUsername, samePwd⟩ := Prod.mk.inj same
    rw [sameUsername, samePwd]
    exact provenance.inserted id earlier wasThere
  · rw [← isInserted]
    exact List.mem_append_right _ (List.mem_singleton.mpr rfl)

theorem owned_step (provenance : Provenance past before)
    (step : SfuStep agreement rates aead before event after)
    (address : SocketLocator) (id : ConnectionId)
    (found : after.connectionIdByAddress.get address = some id) :
    OwnsAddress (past ++ [event]) address id := by
  rcases step.owner_cases found with
    ⟨wasOwner, notForOther⟩ | ⟨rfl, isRecording⟩
  · exact (provenance.owned address id wasOwner).append notForOther
  · refine ⟨past, [], rfl, provenance.tasks _ isRecording, ?_⟩
    intro other isRecorded
    cases isRecorded

theorem tasks_step (provenance : Provenance past before)
    (step : SfuStep agreement rates aead before event after) :
    ∀ task ∈ after.tasks, TaskProvenance (past ++ [event]) task := by
  intro task isTask
  cases step.task_origin isTask with
  | kept isOld => exact (provenance.tasks task isOld).append event
  | @found address id work isLookup isOwner =>
      rw [isLookup]
      exact ⟨past, [], rfl, provenance.owned address id isOwner⟩
  | @accepted address id request connection isAccepted stored named verified =>
      rw [isAccepted]
      exact ⟨past, request, [], _, _, rfl, provenance.inserted id _ stored,
        named, verified⟩
  | free promised => exact promised _

theorem step (provenance : Provenance past before)
    (step : SfuStep agreement rates aead before event after) :
    Provenance (past ++ [event]) after where
  authorized := provenance.authorized_step step
  inserted := provenance.inserted_step step
  owned := provenance.owned_step step
  tasks := provenance.tasks_step step

end Provenance

theorem provenance_new (config : SfuConfig)
    (inactivityCheckInterval : Duration) (region : Region) (now : Instant) :
    Provenance [] (SfuSystem.new config inactivityCheckInterval region now :
      SfuSystem externals) where
  authorized := throughout_nil
  inserted := by
    intro id connection found
    cases found
  owned := by
    intro address id found
    rw [SfuSystem.new, TwoGenerationCache.get_new] at found
    cases found
  tasks := by
    intro task isTask
    cases isTask

/-! ## Every id gets one connection -/

def insertedIds (events : List SfuEvent) : List ConnectionId :=
  events.filterMap fun
    | .insertConnection id _ _ => some id
    | _ => none

theorem insertedIds_append (past : List SfuEvent) (event : SfuEvent) :
    insertedIds (past ++ [event]) =
      insertedIds past ++ insertedIds [event] := by
  unfold insertedIds
  rw [List.filterMap_append]

/-- The connection a join is about to insert. -/
def SfuLock.joiningIds : SfuLock → List ConnectionId
  | .joining join _ => [⟨join.callId, join.demuxId⟩]
  | _ => []

theorem SfuSystem.joiningIds_addClientToCall (agreement : KeyAgreement)
    {system : SfuSystem externals} (isFree : system.lock = .free)
    (join : Join) (surroundings : JoinSurroundings) :
    (system.addClientToCall agreement join
      surroundings).lock.joiningIds.Sublist [⟨join.callId, join.demuxId⟩] := by
  have numbered : (system.numberCall join.callId).lock = .free := by
    unfold numberCall
    split
    · exact isFree
    · exact isFree
  have nobody : SfuLock.free.joiningIds = [] := rfl
  unfold addClientToCall
  dsimp only
  split
  · rw [isFree, nobody]
    exact List.nil_sublist _
  · split
    · rw [numbered, nobody]
      exact List.nil_sublist _
    · exact .refl _

section Runs

variable {agreement : KeyAgreement} {rates : RateArithmetic} {aead : Aead}
variable {before after : SfuSystem externals} {event : SfuEvent}

/-- A connection is inserted for a join, once. -/
theorem SfuStep.insertedIds_sublist
    (step : SfuStep agreement rates aead before event after) :
    (insertedIds [event] ++ after.lock.joiningIds).Sublist
      (before.lock.joiningIds ++ joinedIds [event]) := by
  have unlocked : insertedIds [event] = [] → after.lock.joiningIds = [] →
      (insertedIds [event] ++ after.lock.joiningIds).Sublist
        (before.lock.joiningIds ++ joinedIds [event]) := by
    intro nothing nobody
    rw [nothing, nobody]
    exact List.nil_sublist _
  have kept : insertedIds [event] = [] → after.lock = before.lock →
      (insertedIds [event] ++ after.lock.joiningIds).Sublist
        (before.lock.joiningIds ++ joinedIds [event]) := by
    intro nothing same
    rw [nothing, same]
    exact List.sublist_append_left _ _
  cases step with
  | join isFree =>
      rw [isFree]
      exact SfuSystem.joiningIds_addClientToCall agreement isFree _ _
  | insertConnection isJoining =>
      rw [isJoining]
      exact .refl _
  | handled _ _ _ | accepted _ _ _ | sent _ _ _ =>
      exact kept rfl (before.lock_setConnectionAt _ _)
  | @handledInCall _ ref _ _ handled _ _ _ _ _ _ =>
      obtain ⟨calls, detached, isSet⟩ := before.setCallAt_eq ref handled
      rw [isSet] at kept ⊢
      exact kept rfl rfl
  | removeClientFromCall _ => exact unlocked rfl rfl
  | removeConnection _ => exact unlocked rfl rfl
  | startTick _ => exact unlocked rfl rfl
  | expireConnection _ _ _ _ => exact unlocked rfl rfl
  | keepConnection _ _ _ _ _ => exact unlocked rfl rfl
  | removeInactiveCall _ _ _ _ _ => exact unlocked rfl rfl
  | keepWaitingCall _ _ _ _ _ => exact unlocked rfl rfl
  | tickCall _ _ _ _ _ _ => exact unlocked rfl rfl
  | endTick _ _ _ => exact unlocked rfl rfl
  | _ => exact kept rfl rfl

theorem insertedIds_subperm {start system : SfuSystem externals}
    {events : List SfuEvent} (isFree : start.lock = .free)
    (run : Run (SfuStep agreement rates aead) start events system) :
    (insertedIds events ++ system.lock.joiningIds).Subperm
      (joinedIds events) := by
  induction run with
  | nil =>
      rw [isFree]
      exact .refl _
  | @snoc past event middle finish _ last ih =>
      rw [insertedIds_append, joinedIds_append, List.append_assoc]
      have extended := (List.Sublist.append (.refl (insertedIds past))
        last.insertedIds_sublist).subperm
      apply extended.trans
      rw [← List.append_assoc]
      exact ih.append (.refl _)

end Runs

/-! ## Two requests from one address -/

namespace SfuSystem

theorem getConnectionFromAddress_eq {system : SfuSystem externals}
    {address : SocketLocator} {id : ConnectionId} {connection : Connection}
    (isOwner : system.connectionIdByAddress.get address = some id)
    (stored : system.sfu.connectionById.lookup id = some connection) :
    system.getConnectionFromAddress address = some id := by
  unfold getConnectionFromAddress
  rw [isOwner, Option.bind_eq_bind, Option.bind_some, stored]
  rfl

end SfuSystem

theorem Sfu.getConnectionFromIceRequestUsername_eq {sfu : Sfu externals}
    {username : Bytes} {id : ConnectionId} {connection : Connection}
    (named : sfu.connectionIdByIceRequestUsername.lookup username = some id)
    (stored : sfu.connectionById.lookup id = some connection) :
    sfu.getConnectionFromIceRequestUsername username = some id := by
  unfold getConnectionFromIceRequestUsername
  rw [named, Option.bind_eq_bind, Option.bind_some, stored]
  rfl

section Runs

variable {agreement : KeyAgreement} {rates : RateArithmetic} {aead : Aead}

/-- The sections of a join. -/
theorem run_join {system : SfuSystem externals} {join : Join}
    {surroundings : JoinSurroundings} {connection : Connection}
    (isFree : system.lock = .free)
    (isJoining : (system.addClientToCall agreement join surroundings).lock =
      .joining join connection) :
    Run (SfuStep agreement rates aead) system
      [.join join surroundings, .insertConnection ⟨join.callId, join.demuxId⟩
        connection.ice.requestUsername connection.ice.pwd]
      (system.addClientToCall agreement join surroundings).finishJoin := by
  have joins : Run (SfuStep agreement rates aead) system
      [.join join surroundings]
      (system.addClientToCall agreement join surroundings) :=
    .snoc .nil (.join isFree)
  have finished : (system.addClientToCall agreement join
      surroundings).finishJoin =
      { system.addClientToCall agreement join surroundings with
        sfu := (system.addClientToCall agreement join
          surroundings).sfu.insertConnection join connection
        lock := .free } := by
    unfold SfuSystem.finishJoin
    rw [isJoining]
  rw [finished]
  exact .snoc joins (.insertConnection isJoining)

/-- The sections of a binding request that is accepted. -/
theorem run_request {system : SfuSystem externals} {address : SocketLocator}
    {id : ConnectionId} {request : BindingRequest}
    {connection accepted : Connection} {now : Instant}
    (isFree : system.lock = .free)
    (named : system.sfu.getConnectionFromIceRequestUsername
      request.username = some id)
    (stored : system.sfu.connectionById.lookup id = some connection)
    (isAccepted : connection.handleIceBindingRequest address request now =
      .ok accepted) :
    Run (SfuStep agreement rates aead) system
      [.named address id request, .accepted address id request,
        .recorded address id]
      { system.insertConnection id accepted with
        connectionIdByAddress :=
          system.connectionIdByAddress.insertWithoutRemovingOld address
            id } := by
  have found : Run (SfuStep agreement rates aead) system
      [.named address id request]
      (system.withTasks (system.tasks ++ [.ice address id request])) :=
    .snoc .nil (.named isFree named)
  have accepts : SfuStep agreement rates aead
      (system.withTasks (system.tasks ++ [.ice address id request]))
      (.accepted address id request)
      ((system.insertConnection id accepted).withTasks
        (system.tasks ++ [.recording address id])) := by
    have kept : ((system.withTasks (system.tasks ++
        [.ice address id request])).setConnectionAt id accepted).withTasks
          (system.tasks ++ [.recording address id]) =
        (system.insertConnection id accepted).withTasks
          (system.tasks ++ [.recording address id]) := by
      unfold SfuSystem.setConnectionAt SfuSystem.withTasks
      rw [if_pos (by rw [stored]; rfl)]
      rfl
    rw [← kept]
    exact .accepted (SfuSystem.connectionAt_of_lookup stored) isAccepted
      ⟨system.tasks, [], rfl, by simp⟩
  exact .snoc (.snoc found accepts)
    (.recorded isFree ⟨system.tasks, [], rfl, by
      rw [Option.toList_none, List.append_nil, List.append_nil]
      rfl⟩)

/-- What came from the address is looked up for one connection, while a
request for another one is under way. -/
def crossedRequests (address : SocketLocator) (id otherId : ConnectionId)
    (request otherRequest : BindingRequest) : List SfuEvent :=
  [.named address id request, .accepted address id request,
    .recorded address id, .addressed address id .dequeue,
    .named address otherId otherRequest,
    .accepted address otherId otherRequest]

theorem run_crossedRequests {system : SfuSystem externals}
    {address : SocketLocator} {id otherId : ConnectionId}
    {request otherRequest : BindingRequest}
    {connection other accepted otherAccepted : Connection} {now : Instant}
    (isFree : system.lock = .free) (isIdle : system.tasks = [])
    (different : id ≠ otherId)
    (named : system.sfu.connectionIdByIceRequestUsername.lookup
      request.username = some id)
    (otherNamed : system.sfu.connectionIdByIceRequestUsername.lookup
      otherRequest.username = some otherId)
    (stored : system.sfu.connectionById.lookup id = some connection)
    (otherStored : system.sfu.connectionById.lookup otherId = some other)
    (isAccepted : connection.handleIceBindingRequest address request now =
      .ok accepted)
    (isOtherAccepted : other.handleIceBindingRequest address otherRequest
      now = .ok otherAccepted)
    (unnominated : accepted.outgoingAddr = none) :
    ∃ after, Run (SfuStep agreement rates aead) system
      (crossedRequests address id otherId request otherRequest ++
        [.recorded address otherId] ++ [.handled address id .dequeue])
      after := by
  let owned := { system.insertConnection id accepted with
    connectionIdByAddress :=
      system.connectionIdByAddress.insertWithoutRemovingOld address id }
  have owns : Run (SfuStep agreement rates aead) system _ owned :=
    run_request isFree (Sfu.getConnectionFromIceRequestUsername_eq named
      stored) stored isAccepted
  have isOwner : owned.connectionIdByAddress.get address = some id := by
    change (system.connectionIdByAddress.insertWithoutRemovingOld _ _).get _ =
      _
    rw [TwoGenerationCache.get_insertWithoutRemovingOld, if_pos rfl]
  have isThere : owned.sfu.connectionById.lookup id = some accepted :=
    AList.lookup_insert system.sfu.connectionById
  let lookedUp := owned.withTasks [.addressed address id .dequeue]
  have looksUp : SfuStep agreement rates aead owned
      (.addressed address id .dequeue) lookedUp := by
    have queued : owned.withTasks (owned.tasks ++
        [.addressed address id .dequeue]) = lookedUp := by
      change owned.withTasks (system.tasks ++ _) = _
      rw [isIdle]
      rfl
    rw [← queued]
    exact .addressed isFree
      (SfuSystem.getConnectionFromAddress_eq isOwner isThere)
  have otherIsThere : lookedUp.sfu.connectionById.lookup otherId =
      some other := by
    rw [← otherStored]
    exact AList.lookup_insert_ne different.symm
  have stillNamed : lookedUp.sfu.connectionIdByIceRequestUsername.lookup
      otherRequest.username = some otherId := otherNamed
  have crosses := @run_request _ agreement rates aead lookedUp _ _ _ _ _ _
    isFree
    (Sfu.getConnectionFromIceRequestUsername_eq stillNamed otherIsThere)
    otherIsThere isOtherAccepted
  have isStillThere : (lookedUp.insertConnection otherId
      otherAccepted).connectionAt id = some accepted := by
    rw [SfuSystem.connectionAt_insertConnection, if_neg different]
    exact SfuSystem.connectionAt_of_lookup isThere
  have dequeues : accepted.dequeueOutgoingRtp rates aead now =
      .ok (accepted, none) := by
    unfold Connection.dequeueOutgoingRtp
    rw [unnominated]
  exact ⟨_, ((owns.snoc looksUp).append crosses).snoc
    (.handled isStillThere (.dequeue dequeues) ⟨[], [], rfl, rfl⟩)⟩

end Runs

def joinOfOther : Join :=
  { joinWithPoint with
    userId := "alice"
    demuxId := ⟨32, rfl⟩
    clientIceUfrag := ascii "other" }

def requestFor (join : Join) : BindingRequest where
  username := joinUsername join.clientIceUfrag join.serverIceUfrag
  hmac := []
  nominated := false
  verifyHmac := fun pwd => pwd = join.serverIcePwd

def sharedAddress : SocketLocator := .udp [10, 0, 0, 1] 4000

/-- Two clients have joined. -/
def bothJoined : SfuSystem directExternals :=
  (((SfuSystem.new Sfu.emptySfu.config (fromSecs 5) .unknown 0).addClientToCall
    Sfu.prefixAgreement joinWithPoint Sfu.joinNow).finishJoin.addClientToCall
    Sfu.prefixAgreement joinOfOther Sfu.joinNow).finishJoin

theorem exists_run_bothJoined :
    ∃ events, Run (SfuStep Sfu.prefixAgreement exactRates videoAead)
        (.new Sfu.emptySfu.config (fromSecs 5) .unknown 0) events
        bothJoined ∧
      joinedIds events = [⟨[1], ⟨16, rfl⟩⟩, ⟨[1], ⟨32, rfl⟩⟩] := by
  obtain ⟨connection, isJoining⟩ : ∃ connection,
      ((SfuSystem.new Sfu.emptySfu.config (fromSecs 5) .unknown
        0 : SfuSystem directExternals).addClientToCall Sfu.prefixAgreement
          joinWithPoint Sfu.joinNow).lock =
        .joining joinWithPoint connection := ⟨_, rfl⟩
  obtain ⟨other, otherIsJoining⟩ : ∃ connection,
      (((SfuSystem.new Sfu.emptySfu.config (fromSecs 5) .unknown
        0 : SfuSystem directExternals).addClientToCall Sfu.prefixAgreement
          joinWithPoint Sfu.joinNow).finishJoin.addClientToCall
          Sfu.prefixAgreement joinOfOther Sfu.joinNow).lock =
        .joining joinOfOther connection := ⟨_, rfl⟩
  exact ⟨_, (run_join rfl isJoining).append (run_join rfl otherIsJoining),
    rfl⟩

/-- A run in which the address changes its owner between a lookup and the
handling of what came from it. -/
theorem exists_crossed_run :
    ∃ (past : List SfuEvent) (system : SfuSystem directExternals),
      Run (SfuStep Sfu.prefixAgreement exactRates videoAead)
        (.new Sfu.emptySfu.config (fromSecs 5) .unknown 0)
        (past ++ [.recorded sharedAddress ⟨[1], ⟨32, rfl⟩⟩] ++
          [.handled sharedAddress ⟨[1], ⟨16, rfl⟩⟩ .dequeue]) system ∧
      (joinedIds (past ++ [.recorded sharedAddress ⟨[1], ⟨32, rfl⟩⟩] ++
        [.handled sharedAddress ⟨[1], ⟨16, rfl⟩⟩ .dequeue])).Nodup := by
  obtain ⟨events, joins, joined⟩ := exists_run_bothJoined
  obtain ⟨connection, accepted, stored, isAccepted, unnominated⟩ :
      ∃ connection accepted,
        bothJoined.sfu.connectionById.lookup ⟨[1], ⟨16, rfl⟩⟩ =
          some connection ∧
        connection.handleIceBindingRequest sharedAddress
          (requestFor joinWithPoint) 1 = .ok accepted ∧
        accepted.outgoingAddr = none := ⟨_, _, rfl, rfl, rfl⟩
  obtain ⟨other, otherAccepted, otherStored, isOtherAccepted⟩ :
      ∃ connection accepted,
        bothJoined.sfu.connectionById.lookup ⟨[1], ⟨32, rfl⟩⟩ =
          some connection ∧
        connection.handleIceBindingRequest sharedAddress
          (requestFor joinOfOther) 1 = .ok accepted := ⟨_, _, rfl, rfl⟩
  obtain ⟨after, crosses⟩ := @run_crossedRequests _ Sfu.prefixAgreement
    exactRates videoAead _ _ _ _ _ _ _ _ _ _ _ rfl rfl (by decide) rfl rfl
    stored otherStored isAccepted isOtherAccepted unnominated
  have run := joins.append crosses
  rw [← List.append_assoc, ← List.append_assoc] at run
  refine ⟨_, after, run, ?_⟩
  unfold joinedIds at joined ⊢
  rw [List.filterMap_append, List.filterMap_append, List.filterMap_append,
    joined]
  decide

/-! ## Every run -/

section Runs

variable {agreement : KeyAgreement} {rates : RateArithmetic} {aead : Aead}

/-- If clients join once, every id stands for one connection, and a packet or
a dequeue for an address is handled by the connection that owned the address
when it was looked up. -/
theorem handled_by_owner {config : SfuConfig}
    {inactivityCheckInterval : Duration} {region : Region} {now : Instant}
    {system : SfuSystem externals} {events : List SfuEvent}
    (run : Run (SfuStep agreement rates aead)
      (.new config inactivityCheckInterval region now) events system)
    (joinedOnce : (joinedIds events).Nodup) :
    (insertedIds events).Nodup ∧ Throughout Authorized events := by
  constructor
  · obtain ⟨inserted, isPerm, isSublist⟩ := insertedIds_subperm rfl run
    have insertedOnce := isPerm.nodup_iff.mp (joinedOnce.sublist isSublist)
    exact (List.nodup_append.mp insertedOnce).1
  · have provenance := run.history_invariant
      (provenance_new config inactivityCheckInterval region now)
      fun provenance step => provenance.step step
    exact provenance.authorized

end Runs

/-- What was looked up for a connection is handled by it, even though another
connection owns the address by then. -/
theorem handled_by_owner_crossed :
    ∃ (past : List SfuEvent) (system : SfuSystem directExternals),
      Run (SfuStep Sfu.prefixAgreement exactRates videoAead)
        (.new Sfu.emptySfu.config (fromSecs 5) .unknown 0)
        (past ++ [.recorded sharedAddress ⟨[1], ⟨32, rfl⟩⟩] ++
          [.handled sharedAddress ⟨[1], ⟨16, rfl⟩⟩ .dequeue]) system ∧
      LookedUp (past ++ [.recorded sharedAddress ⟨[1], ⟨32, rfl⟩⟩])
        sharedAddress ⟨[1], ⟨16, rfl⟩⟩ .dequeue := by
  obtain ⟨past, system, run, joinedOnce⟩ := exists_crossed_run
  exact ⟨past, system, run, (handled_by_owner run joinedOnce).2 _ _ [] rfl _ _
    _ rfl⟩

/-- The connection still owns the address when it handles what came from
there. -/
def AuthorizedAtHandling (past : List SfuEvent) (event : SfuEvent) : Prop :=
  ∀ address id work, event = .handled address id work →
    ∃ earlier request later username pwd,
      past = earlier ++ .accepted address id request :: later ∧
      .insertConnection id username pwd ∈ earlier ∧
      request.username = username ∧ request.verifyHmac pwd = true ∧
      ∀ other, .recorded address other ∈ later → other = id

/-- The lookup and the handling are under different locks. -/
theorem owner_changes_before_handling :
    ∃ (events : List SfuEvent) (system : SfuSystem directExternals),
      Run (SfuStep Sfu.prefixAgreement exactRates videoAead)
        (.new Sfu.emptySfu.config (fromSecs 5) .unknown 0) events system ∧
      (joinedIds events).Nodup ∧
      ¬ Throughout AuthorizedAtHandling events := by
  obtain ⟨past, system, run, joinedOnce⟩ := exists_crossed_run
  refine ⟨_, system, run, joinedOnce, ?_⟩
  intro authorized
  obtain ⟨earlier, request, later, _, _, split, _, _, _, latest⟩ :=
    authorized _ _ [] rfl _ _ _ rfl
  -- The record of the other connection comes after every acceptance.
  rcases List.eq_nil_or_concat later with rfl | ⟨rest, final, rfl⟩
  · obtain ⟨_, same⟩ := List.append_inj' split rfl
    cases same
  · rw [List.concat_eq_append, ← List.cons_append, ← List.append_assoc]
      at split
    obtain ⟨_, same⟩ := List.append_inj' split rfl
    cases same
    have isSame := latest ⟨[1], ⟨32, rfl⟩⟩ (by simp)
    exact absurd isSame (by decide)

end CallingService.Backend
