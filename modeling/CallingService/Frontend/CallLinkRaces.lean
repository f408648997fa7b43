import CallingService.Frontend.CallLinkApi
import CallingService.Frontend.CallLinkProtection

/-!
# Races between requests about a call link

A join reads the link and creates the record of its call later.  A deletion
that comes in between leaves a call without a link, and a change of the
restrictions that was checked before a call began is still written.  Without
such interleavings a call has a link, and its restrictions stay.
-/

namespace CallingService.Frontend

open Foundation

/-! ## What the requests write -/

/-- Nothing, or the item of one call link. -/
def WritesLink (roomId : RoomId) (before after : DynamoTable) : Prop :=
  after = before ∨ ∃ item, after = before.insert (callLinkKey roomId) item

theorem writesLink_updateItemIf (table : DynamoTable) (fault : Option Fault)
    (roomId : RoomId) (condition : Condition) (update : UpdateExpression)
    (values : Item) :
    WritesLink roomId table
      (updateItemIf table fault (callLinkKey roomId) condition update
        values).1 := by
  rcases updateItemIf_cases table fault (callLinkKey roomId) condition update
      values with same | ⟨item, _, _, written⟩
  · exact .inl same
  · exact .inr ⟨item, written⟩

variable {fault : Option Fault} {roomId : RoomId} {now : SystemTime}

theorem writesLink_updateCallLink {timestampSeconds : SystemTime → Int}
    {before after : DynamoTable} {newAttributes : CallLinkUpdate}
    {zkparamsForCreation : Option Bytes} {progress : UpdateProgress}
    (updated : updateCallLink timestampSeconds before fault roomId
      newAttributes zkparamsForCreation now = .ok (after, progress)) :
    WritesLink roomId before after := by
  obtain ⟨request, _, rest⟩ := bind_eq_ok_iff.mp updated
  obtain ⟨expression, _, returned⟩ := bind_eq_ok_iff.mp rest
  cases returned
  exact writesLink_updateItemIf _ _ _ _ _ _

theorem writesLink_resetCallLinkExpiration {timestampSeconds : SystemTime → Int}
    {before after : DynamoTable} {outcome : Except CallLinkUpdateError Unit}
    (reset : resetCallLinkExpiration timestampSeconds before fault roomId
      now = .ok (after, outcome)) :
    WritesLink roomId before after := by
  obtain ⟨times, _, returned⟩ := bind_eq_ok_iff.mp reset
  cases returned
  exact writesLink_updateItemIf _ _ _ _ _ _

theorem WritesLink.record {before after : DynamoTable}
    (writes : WritesLink roomId before after) (room : RoomId) :
    after.lookup (room, .activeCall) = before.lookup (room, .activeCall) := by
  rcases writes with same | ⟨item, written⟩
  · rw [same]
  · rw [written]
    apply AList.lookup_insert_ne
    intro same
    cases same

theorem WritesLink.of_absent {before after : DynamoTable}
    (writes : WritesLink roomId before after) {key : ItemKey}
    (absent : after.lookup key = none) : before.lookup key = none := by
  rcases writes with same | ⟨item, written⟩
  · rw [← same]
    exact absent
  · rw [written] at absent
    by_cases isKey : key = callLinkKey roomId
    · rw [isKey, AList.lookup_insert] at absent
      cases absent
    · rw [AList.lookup_insert_ne isKey] at absent
      exact absent

theorem WritesLink.other {before after : DynamoTable}
    (writes : WritesLink roomId before after) {key : ItemKey}
    (other : key ≠ callLinkKey roomId) :
    after.lookup key = before.lookup key := by
  rcases writes with same | ⟨item, written⟩
  · rw [same]
  · rw [written]
    exact AList.lookup_insert_ne other

theorem lookup_getOrAddCallRecord {before after : DynamoTable}
    {call : CallRecord} {outcome : Except StorageError CallRecord}
    (added : getOrAddCallRecord before fault call = .ok (after, outcome))
    {key : ItemKey} (other : key ≠ (call.roomId, .activeCall)) :
    after.lookup key = before.lookup key := by
  obtain ⟨expression, _, rest⟩ := bind_eq_ok_iff.mp added
  have written : ∀ {response},
      updateItem before fault (call.roomId, .activeCall) expression
        (UpsertableItem.withDefaults call.toItem).intoAttributeValues =
          response → response.1.lookup key = before.lookup key := by
    rintro _ rfl
    unfold updateItem
    cases fault with
    | some injected => rfl
    | none =>
        dsimp only
        split
        · rfl
        · exact AList.lookup_insert_ne other
  split at rest
  · rename_i next item isResponse
    split at rest
    · cases rest
      exact written isResponse
    · cases rest
      exact written isResponse
  · rename_i next failure isResponse
    cases rest
    exact written isResponse

theorem lookup_removeCallRecord (table : DynamoTable) (fault : Option Fault)
    (key : CallRecordKey) (itemKey : ItemKey) :
    (removeCallRecord table fault key).1.lookup itemKey =
        table.lookup itemKey ∨
      itemKey = (key.roomId, .activeCall) ∧
        (removeCallRecord table fault key).1.lookup itemKey = none := by
  unfold removeCallRecord deleteItem
  cases fault with
  | some injected => exact .inl rfl
  | none =>
      dsimp only
      split
      · by_cases isKey : itemKey = (key.roomId, .activeCall)
        · right
          exact ⟨isKey, by rw [isKey, AList.lookup_erase]⟩
        · left
          exact AList.lookup_erase_ne isKey
      · exact .inl rfl

/-- A deletion takes the link of a room without a call. -/
theorem deleteCallLink_cases (table : DynamoTable) (fault : Option Fault)
    (roomId : RoomId) (adminPasskey : Bytes) :
    (deleteCallLink table fault roomId adminPasskey).1 = table ∨
    (deleteCallLink table fault roomId adminPasskey).1 =
        table.erase (callLinkKey roomId) ∧
      table.lookup (linkCallKey roomId) = none := by
  unfold deleteCallLink transactDeleteAndCheck
  cases fault with
  | some injected => exact .inl rfl
  | none =>
      dsimp only
      split
      · rename_i passes
        right
        refine ⟨rfl, ?_⟩
        have noRoomId := (Bool.and_eq_true_iff.mp passes).2
        have isNone : ((storedAttributes table (linkCallKey roomId)).lookup
          "roomId").isNone = true := noRoomId
        cases stored : table.lookup (linkCallKey roomId) with
        | none => rfl
        | some item =>
            have isKey : "roomId" ∈ keyAttributes (linkCallKey roomId) := by
              apply AList.lookup_isSome.mp
              unfold keyAttributes
              rw [AList.lookup_insert_ne (by decide), AList.lookup_insert]
              rfl
            unfold storedAttributes at isNone
            rw [stored] at isNone
            dsimp only at isNone
            rw [AList.lookup_union_left isKey] at isNone
            unfold keyAttributes at isNone
            rw [AList.lookup_insert_ne (by decide), AList.lookup_insert]
              at isNone
            cases isNone
      · exact .inl rfl

/-! ## What the reads find -/

theorem getCallLinkAndRecord_ok {table : DynamoTable} {peek : Bool}
    {state : Option CallLinkState} {call : Option CallRecord}
    (read : getCallLinkAndRecord table fault roomId peek =
      .ok (state, call)) :
    state.isSome = (table.lookup (callLinkKey roomId)).isSome ∧
      call.isSome = (table.lookup (linkCallKey roomId)).isSome := by
  unfold getCallLinkAndRecord at read
  cases fault with
  | some injected => cases read
  | none =>
      obtain ⟨foundCall, readCall, rest⟩ := bind_eq_ok_iff.mp read
      obtain ⟨foundState, readState, returned⟩ := bind_eq_ok_iff.mp rest
      cases returned
      exact ⟨convertItem_eq_ok readState, convertItem_eq_ok readCall⟩

variable {externals : LinkExternals}

/-- A join that will create a record has seen the link. -/
theorem link_of_joinRead {table : DynamoTable}
    {request : LinkJoinRequest externals} {join : LinkJoin}
    (progress : joinRead externals table fault request = .create join) :
    (table.lookup (callLinkKey request.roomId)).isSome := by
  unfold joinRead at progress
  split at progress
  · cases progress
  · cases progress
  · rename_i state call read
    rw [← (getCallLinkAndRecord_ok read).1]
    rfl

/-- An update that was admitted by an auth credential and that changes the
restrictions has seen no call. -/
theorem noCall_of_authPrecondition {table : DynamoTable}
    {request : LinkUpdateRequest} {credential : externals.AuthCredential}
    {update : CallLinkUpdate} {zkparamsForCreation : Option Bytes}
    (admitted : authPrecondition externals table fault request credential
      now = .ok (update, zkparamsForCreation))
    (changes : update.restrictions.isSome = true) :
    table.lookup (linkCallKey request.roomId) = none := by
  obtain ⟨_, _, rest⟩ := bind_eq_ok_iff.mp admitted
  obtain ⟨⟨state, call⟩, isRead, rest⟩ := bind_eq_ok_iff.mp rest
  obtain ⟨_, _, rest⟩ := bind_eq_ok_iff.mp rest
  obtain ⟨_, _, rest⟩ := bind_eq_ok_iff.mp rest
  obtain ⟨_, noConflict, returned⟩ := bind_eq_ok_iff.mp rest
  cases returned
  have noConflict := ensure_eq_ok_iff.mp noConflict
  have noCall : call.isSome = false := by
    cases isCall : call.isSome with
    | false => rfl
    | true => exact absurd ⟨isCall, changes⟩ noConflict
  rw [(getCallLinkAndRecord_ok (mapError_eq_ok_iff.mp isRead)).2] at noCall
  exact Option.not_isSome_iff_eq_none.mp (by simp [noCall])

theorem zkparams_of_createPrecondition {request : LinkUpdateRequest}
    {roomIdBytes : Bytes} {credential : externals.CreateCredential}
    {update : CallLinkUpdate}
    (admitted : createPrecondition externals request roomIdBytes credential
      now = .ok (update, none)) : False := by
  obtain ⟨params, isParams, rest⟩ := bind_eq_ok_iff.mp admitted
  obtain ⟨_, _, returned⟩ := bind_eq_ok_iff.mp rest
  have deserialized := okOr_eq_ok_iff.mp isParams
  obtain ⟨zkparams, isZkparams, _⟩ := Option.bind_eq_some_iff.mp deserialized
  injection returned with isPair
  have isNone : request.zkparams = none := (Prod.ext_iff.mp isPair).2
  rw [isNone] at isZkparams
  cases isZkparams

theorem noCall_of_updatePrecondition {table : DynamoTable}
    {request : LinkUpdateRequest} {credential : UpdateCredential externals}
    {update : CallLinkUpdate}
    (admitted : updatePrecondition externals table fault request credential
      now = .ok (update, none)) (changes : update.restrictions.isSome = true) :
    table.lookup (linkCallKey request.roomId) = none := by
  obtain ⟨roomIdBytes, _, rest⟩ := bind_eq_ok_iff.mp admitted
  cases credential with
  | create created => exact (zkparams_of_createPrecondition rest).elim
  | auth presented => exact noCall_of_authPrecondition rest changes
  | missing => cases rest

/-! ## The tasks of a step -/

theorem LinkSystem.mem_start {before : LinkSystem} {next : Option LinkTask}
    {task : LinkTask} (pending : task ∈ (before.start next).tasks) :
    task ∈ before.tasks ∨ next = some task := by
  rcases List.mem_append.mp pending with old | new
  · exact .inl old
  · exact .inr (Option.mem_toList.mp new)

variable {before after : LinkSystem}

theorem Performs.done_mem {done : LinkTask} {table : DynamoTable}
    {next : Option LinkTask} (performs : Performs before done table next after) :
    done ∈ before.tasks := by
  obtain ⟨earlier, later, isBefore, _⟩ := performs
  rw [isBefore]
  simp

theorem Performs.table_eq {done : LinkTask} {table : DynamoTable}
    {next : Option LinkTask} (performs : Performs before done table next after) :
    after.table = table := by
  obtain ⟨earlier, later, _, rfl⟩ := performs
  rfl

theorem Performs.mem {done task : LinkTask} {table : DynamoTable}
    {next : Option LinkTask} (performs : Performs before done table next after)
    (pending : task ∈ after.tasks) :
    task ∈ before.tasks ∨ next = some task := by
  obtain ⟨earlier, later, isBefore, rfl⟩ := performs
  rcases List.mem_append.mp pending with old | new
  · left
    rw [isBefore]
    rcases List.mem_append.mp old with first | last
    · exact List.mem_append_left _ first
    · exact List.mem_append_right _ (List.mem_cons_of_mem _ last)
  · exact .inr (Option.mem_toList.mp new)

/-- What a handler has read when it leaves the task. -/
def LinkTask.Seen (table : DynamoTable) : LinkTask → Prop
  | .createRecord roomId _ _ => (table.lookup (callLinkKey roomId)).isSome
  | .updateLink roomId update none =>
      update.restrictions.isSome = true →
        table.lookup (linkCallKey roomId) = none
  | _ => True

variable {event : LinkEvent externals}

/-- A task of a step is old, has just been left by a read, or resets the
expiration of a link. -/
theorem LinkSystemStep.task_mem {task : LinkTask}
    (step : LinkSystemStep externals before event after)
    (pending : task ∈ after.tasks) :
    task ∈ before.tasks ∨
      after.table = before.table ∧ task.Seen before.table ∨
      ∃ roomId now, task = .resetExpiration roomId now := by
  cases event with
  | join request fault =>
      rw [show after = _ from step] at pending ⊢
      rcases LinkSystem.mem_start pending with old | new
      · exact .inl old
      · refine .inr (.inl ⟨rfl, ?_⟩)
        unfold joinTask at new
        split at new
        · rename_i created progress
          cases new
          exact link_of_joinRead progress
        · cases new
  | createRecord room join time eraId backendIp backendRegion fault =>
      obtain ⟨table, outcome, _, performs⟩ := step
      rcases performs.mem pending with old | new
      · exact .inl old
      · cases outcome with
        | error failure => cases new
        | ok record =>
            cases new
            exact .inr (.inr ⟨room, time, rfl⟩)
  | resetExpiration room time fault =>
      obtain ⟨table, outcome, _, performs⟩ := step
      rcases performs.mem pending with old | new
      · exact .inl old
      · cases new
  | update request credential time fault =>
      rw [show after = _ from step] at pending ⊢
      rcases LinkSystem.mem_start pending with old | new
      · exact .inl old
      · refine .inr (.inl ⟨rfl, ?_⟩)
        unfold updateTask at new
        split at new
        · rename_i update zkparamsForCreation admitted
          cases new
          cases zkparamsForCreation with
          | some zkparams => trivial
          | none => exact noCall_of_updatePrecondition admitted
        · cases new
  | updateLink room update zkparamsForCreation time fault =>
      obtain ⟨table, progress, _, performs⟩ := step
      rcases performs.mem pending with old | new
      · exact .inl old
      · cases new
  | delete request credential time fault =>
      rw [show after = _ from step] at pending ⊢
      rcases LinkSystem.mem_start pending with old | new
      · exact .inl old
      · refine .inr (.inl ⟨rfl, ?_⟩)
        unfold deleteTask at new
        split at new
        · cases new
          trivial
        · cases new
  | deleteLink room adminPasskey fault =>
      rcases Performs.mem step pending with old | new
      · exact .inl old
      · cases new
  | removeCallRecord key fault =>
      rw [show after = _ from step] at pending
      exact .inl pending

/-! ## The record of a room -/

theorem callLinkKey_inj {roomId other : RoomId} :
    callLinkKey roomId = callLinkKey other ↔
      callLinkRoomKey roomId = callLinkRoomKey other := by
  simp [callLinkKey]

theorem linkCallKey_inj {roomId other : RoomId} :
    linkCallKey roomId = linkCallKey other ↔
      callLinkRoomKey roomId = callLinkRoomKey other := by
  simp [linkCallKey]

theorem linkCallKey_ne_callLinkKey (roomId other : RoomId) :
    linkCallKey roomId ≠ callLinkKey other := by
  simp [linkCallKey, callLinkKey]

/-- The record of a room is kept, is removed, or a join of the room gets or
creates it. -/
theorem LinkSystemStep.record_cases
    (step : LinkSystemStep externals before event after) (roomId : RoomId) :
    after.table.lookup (linkCallKey roomId) =
        before.table.lookup (linkCallKey roomId) ∨
      after.table.lookup (linkCallKey roomId) = none ∨
      ∃ joined join now eraId backendIp backendRegion fault,
        event = .createRecord joined join now eraId backendIp backendRegion
          fault ∧ callLinkRoomKey joined = callLinkRoomKey roomId := by
  cases event with
  | join _ _ | update _ _ _ _ | delete _ _ _ _ =>
      rw [show after = _ from step]
      exact .inl rfl
  | createRecord room join time eraId backendIp backendRegion fault =>
      obtain ⟨table, outcome, added, performs⟩ := step
      by_cases sameRoom : callLinkRoomKey room = callLinkRoomKey roomId
      · exact .inr (.inr ⟨room, join, time, eraId, backendIp, backendRegion,
          fault, rfl, sameRoom⟩)
      · left
        rw [performs.table_eq]
        apply lookup_getOrAddCallRecord added
        intro sameKey
        exact sameRoom (linkCallKey_inj.mp sameKey).symm
  | resetExpiration room time fault =>
      obtain ⟨table, outcome, reset, performs⟩ := step
      left
      rw [performs.table_eq]
      exact (writesLink_resetCallLinkExpiration reset).record _
  | updateLink room update zkparamsForCreation time fault =>
      obtain ⟨table, progress, updated, performs⟩ := step
      left
      rw [performs.table_eq]
      exact (writesLink_updateCallLink updated).record _
  | deleteLink room adminPasskey fault =>
      left
      rw [Performs.table_eq step]
      rcases deleteCallLink_cases before.table fault room adminPasskey with
        same | ⟨erased, _⟩
      · rw [same]
      · rw [erased]
        exact AList.lookup_erase_ne (linkCallKey_ne_callLinkKey roomId room)
  | removeCallRecord key fault =>
      rw [show after = _ from step]
      rcases lookup_removeCallRecord before.table fault key
          (linkCallKey roomId) with kept | ⟨_, removed⟩
      · exact .inl kept
      · exact .inr (.inl removed)

/-! ## Calls without a link -/

/-- A join of the room has seen the link and is still to create the
record. -/
def JoinPending (roomId : RoomId) (system : LinkSystem) : Prop :=
  ∃ joined join now, LinkTask.createRecord joined join now ∈ system.tasks ∧
    callLinkRoomKey joined = callLinkRoomKey roomId

/-- The transaction of a deletion does not come between the two requests of a
join. -/
def DeletesAlone (before : LinkSystem) : LinkEvent externals → Prop
  | .deleteLink roomId _ _ => ¬ JoinPending roomId before
  | _ => True

/-- Without its link a room has no call, and is about to get none. -/
def CallNeedsLink (roomId : RoomId) (system : LinkSystem) : Prop :=
  system.table.lookup (callLinkKey roomId) = none →
    system.table.lookup (linkCallKey roomId) = none ∧
      ¬ JoinPending roomId system

theorem LinkSystemStep.joinPending_before
    (step : LinkSystemStep externals before event after)
    (absent : after.table.lookup (callLinkKey roomId) = none)
    (pending : JoinPending roomId after) : JoinPending roomId before := by
  obtain ⟨joined, join, now, isTask, sameRoom⟩ := pending
  rcases step.task_mem isTask with
    old | ⟨sameTable, seen⟩ | ⟨_, _, isReset⟩
  · exact ⟨joined, join, now, old, sameRoom⟩
  · have present : (before.table.lookup (callLinkKey joined)).isSome := seen
    rw [sameTable, ← callLinkKey_inj.mpr sameRoom] at absent
    rw [absent] at present
    cases present
  · cases isReset

/-- A room without a link had none before, or it has just been deleted. -/
theorem LinkSystemStep.link_before
    (step : LinkSystemStep externals before event after)
    (absent : after.table.lookup (callLinkKey roomId) = none) :
    before.table.lookup (callLinkKey roomId) = none ∨
      before.table.lookup (linkCallKey roomId) = none ∧
        ∃ room adminPasskey fault,
          event = .deleteLink room adminPasskey fault ∧
          callLinkRoomKey room = callLinkRoomKey roomId := by
  cases event with
  | join _ _ | update _ _ _ _ | delete _ _ _ _ =>
      rw [show after = _ from step] at absent
      exact .inl absent
  | createRecord room join time eraId backendIp backendRegion fault =>
      obtain ⟨table, outcome, added, performs⟩ := step
      rw [performs.table_eq, lookup_getOrAddCallRecord added
        (linkCallKey_ne_callLinkKey room roomId).symm] at absent
      exact .inl absent
  | resetExpiration room time fault =>
      obtain ⟨table, outcome, reset, performs⟩ := step
      rw [performs.table_eq] at absent
      exact .inl ((writesLink_resetCallLinkExpiration reset).of_absent absent)
  | updateLink room update zkparamsForCreation time fault =>
      obtain ⟨table, progress, updated, performs⟩ := step
      rw [performs.table_eq] at absent
      exact .inl ((writesLink_updateCallLink updated).of_absent absent)
  | deleteLink room adminPasskey fault =>
      rw [Performs.table_eq step] at absent
      rcases deleteCallLink_cases before.table fault room adminPasskey with
        same | ⟨erased, noCall⟩
      · rw [same] at absent
        exact .inl absent
      · by_cases sameRoom : callLinkRoomKey room = callLinkRoomKey roomId
        · rw [linkCallKey_inj.mpr sameRoom] at noCall
          exact .inr ⟨noCall, room, adminPasskey, fault, rfl, sameRoom⟩
        · rw [erased, AList.lookup_erase_ne fun same =>
            sameRoom (callLinkKey_inj.mp same).symm] at absent
          exact .inl absent
  | removeCallRecord key fault =>
      rw [show after = _ from step] at absent
      rcases lookup_removeCallRecord before.table fault key
          (callLinkKey roomId) with kept | ⟨isKey, _⟩
      · exact .inl (kept.symm.trans absent)
      · cases (Prod.ext_iff.mp isKey).2

theorem LinkSystemStep.callNeedsLink (needsLink : CallNeedsLink roomId before)
    (alone : DeletesAlone before event)
    (step : LinkSystemStep externals before event after) :
    CallNeedsLink roomId after := by
  intro absent
  have wasFree : before.table.lookup (linkCallKey roomId) = none ∧
      ¬ JoinPending roomId before := by
    rcases step.link_before absent with wasAbsent |
      ⟨noCall, room, adminPasskey, fault, isDeletion, sameRoom⟩
    · exact needsLink wasAbsent
    · refine ⟨noCall, ?_⟩
      rintro ⟨joined, join, now, isTask, joinedRoom⟩
      rw [isDeletion] at alone
      exact alone ⟨joined, join, now, isTask, joinedRoom.trans sameRoom.symm⟩
  obtain ⟨noCall, notPending⟩ := wasFree
  refine ⟨?_, fun pending =>
    notPending (step.joinPending_before absent pending)⟩
  rcases step.record_cases roomId with kept | removed | ⟨joined, join, now,
    eraId, backendIp, backendRegion, fault, isCreation, sameRoom⟩
  · rw [kept, noCall]
  · exact removed
  · -- The creation would have been the second request of a pending join.
    rw [isCreation] at step
    obtain ⟨table, outcome, _, performs⟩ := step
    exact absurd ⟨joined, join, now, performs.done_mem, sameRoom⟩ notPending

/-- If deletions do not come between the requests of a join, a room that had a
link in some state and has lost it since has no call. -/
theorem noCall_after_deletion {start finish : LinkSystem}
    {events : List (LinkEvent externals)} {roomId : RoomId}
    (run : Run (Guarded DeletesAlone (LinkSystemStep externals)) start
      events finish)
    (existed : (start.table.lookup (callLinkKey roomId)).isSome)
    (deleted : finish.table.lookup (callLinkKey roomId) = none) :
    finish.table.lookup (linkCallKey roomId) = none := by
  have atFirst : CallNeedsLink roomId start := by
    intro absent
    rw [absent] at existed
    cases existed
  have atLast : CallNeedsLink roomId finish := by
    apply run.invariant atFirst
    rintro before event after needsLink ⟨alone, step⟩
    exact step.callNeedsLink needsLink alone
  exact (atLast deleted).1

/-- Every credential is good. -/
def permissive : LinkExternals where
  AuthCredential := Unit
  CreateCredential := Unit
  PublicParams := Unit
  deserialize _ := some ()
  deserializeFixint _ := some ()
  verifyAuth _ _ _ := true
  verifyCreate _ _ _ _ := true
  userIdOf _ := "alice"
  timestampSeconds time := time.nanos / nanosPerSec

def sampleCreation : LinkUpdateRequest :=
  ⟨"00", [1], some [7], none, none, none⟩

def sampleJoinRequest : LinkJoinRequest permissive :=
  ⟨"00", (), some [1], SystemTime.unixEpoch⟩

def sampleJoin : LinkJoin := ⟨"alice", .adminApproval, true, []⟩

/-- The link of a room is created by two requests. -/
def sampleCreationEvents : List (LinkEvent permissive) :=
  [.update sampleCreation (.create ()) SystemTime.unixEpoch none,
    .updateLink "00" ⟨[1], some .adminApproval, none, none⟩ (some [7])
      SystemTime.unixEpoch none]

theorem run_sampleCreation {created : DynamoTable} {progress : UpdateProgress}
    (updated : updateCallLink permissive.timestampSeconds ∅ none "00"
      ⟨[1], some .adminApproval, none, none⟩ (some [7])
      SystemTime.unixEpoch = .ok (created, progress)) :
    Run (LinkSystemStep permissive) ⟨∅, []⟩ sampleCreationEvents
      ⟨created, []⟩ := by
  have admitted : LinkSystemStep permissive ⟨∅, []⟩
      (.update sampleCreation (.create ()) SystemTime.unixEpoch none)
      ⟨∅, [.updateLink "00" ⟨[1], some .adminApproval, none, none⟩
        (some [7])]⟩ := rfl
  have written : LinkSystemStep permissive
      ⟨∅, [.updateLink "00" ⟨[1], some .adminApproval, none, none⟩
        (some [7])]⟩
      (.updateLink "00" ⟨[1], some .adminApproval, none, none⟩ (some [7])
        SystemTime.unixEpoch none) ⟨created, []⟩ :=
    ⟨created, progress, updated, [], [], rfl, rfl⟩
  exact .snoc (.snoc .nil admitted) written

/-- A link is deleted between the two requests of a join: the call has no
link. -/
theorem call_created_after_deletion :
    ∃ (earlier later : List (LinkEvent permissive))
      (middle finish : LinkSystem),
      Run (LinkSystemStep permissive) ⟨∅, []⟩ earlier middle ∧
      Run (LinkSystemStep permissive) middle later finish ∧
      (middle.table.lookup (callLinkKey "00")).isSome ∧
      finish.table.lookup (callLinkKey "00") = none ∧
      (finish.table.lookup (linkCallKey "00")).isSome := by
  have evaluation : ∃ created progress,
      updateCallLink permissive.timestampSeconds ∅ none "00"
          ⟨[1], some .adminApproval, none, none⟩ (some [7])
          SystemTime.unixEpoch = .ok (created, progress) ∧
        (created.lookup (callLinkKey "00")).isSome ∧
        joinRead permissive created none sampleJoinRequest =
          .create sampleJoin ∧
        deletePrecondition permissive created none ⟨"00", [1]⟩ (some ())
          SystemTime.unixEpoch = .ok true ∧
        ∃ table outcome,
          getOrAddCallRecord (deleteCallLink created none "00" [1]).1 none
              (proposedRecord "00" sampleJoin "era" "ip" "region") =
            .ok (table, outcome) ∧
          table.lookup (callLinkKey "00") = none ∧
          (table.lookup (linkCallKey "00")).isSome :=
    ⟨_, _, rfl, by decide +kernel, by decide +kernel, by decide +kernel, _, _,
      rfl, by decide +kernel, by decide +kernel⟩
  obtain ⟨created, progress, updated, present, read, admitted, table, outcome,
    added, noLink, hasCall⟩ := evaluation
  let creating : LinkTask :=
    .createRecord "00" sampleJoin SystemTime.unixEpoch
  have joined : LinkSystemStep permissive ⟨created, []⟩
      (.join sampleJoinRequest none) ⟨created, [creating]⟩ := by
    simp only [LinkSystemStep, read]
    rfl
  have deleting : LinkSystemStep permissive ⟨created, [creating]⟩
      (.delete ⟨"00", [1]⟩ (some ()) SystemTime.unixEpoch none)
      ⟨created, [creating, .deleteLink "00" [1]]⟩ := by
    simp only [LinkSystemStep, admitted]
    rfl
  have deleted : LinkSystemStep permissive
      ⟨created, [creating, .deleteLink "00" [1]]⟩ (.deleteLink "00" [1] none)
      ⟨(deleteCallLink created none "00" [1]).1, [creating]⟩ :=
    ⟨[creating], [], rfl, rfl⟩
  have recorded : LinkSystemStep permissive
      ⟨(deleteCallLink created none "00" [1]).1, [creating]⟩
      (.createRecord "00" sampleJoin SystemTime.unixEpoch "era" "ip" "region"
        none)
      ⟨table, [] ++ [] ++ (resetTask "00" SystemTime.unixEpoch
        outcome).toList⟩ :=
    ⟨table, outcome, added, [], [], rfl, rfl⟩
  exact ⟨_, _, _, _, run_sampleCreation updated,
    .snoc (.snoc (.snoc (.snoc .nil joined) deleting) deleted) recorded,
    present, noLink, hasCall⟩

/-- A call begins and ends, and then the link is deleted. -/
theorem noCall_after_deletion_of_ended_call :
    ∃ (earlier later : List (LinkEvent permissive))
      (start called finish : LinkSystem),
      Run (Guarded DeletesAlone (LinkSystemStep permissive)) start earlier
        called ∧
      Run (Guarded DeletesAlone (LinkSystemStep permissive)) start
        (earlier ++ later) finish ∧
      (called.table.lookup (linkCallKey "00")).isSome ∧
      finish.table.lookup (callLinkKey "00") = none ∧
      finish.table.lookup (linkCallKey "00") = none := by
  have evaluation : ∃ created progress,
      updateCallLink permissive.timestampSeconds ∅ none "00"
          ⟨[1], some .adminApproval, none, none⟩ (some [7])
          SystemTime.unixEpoch = .ok (created, progress) ∧
        (created.lookup (callLinkKey "00")).isSome ∧
        joinRead permissive created none sampleJoinRequest =
          .create sampleJoin ∧
        ∃ called outcome,
          getOrAddCallRecord created none
              (proposedRecord "00" sampleJoin "era" "ip" "region") =
            .ok (called, outcome) ∧
          (called.lookup (linkCallKey "00")).isSome ∧
          deletePrecondition permissive (removeCallRecord called none
              ⟨callLinkRoomKey "00", "era"⟩).1 none ⟨"00", [1]⟩ (some ())
              SystemTime.unixEpoch = .ok true ∧
          (deleteCallLink (removeCallRecord called none
              ⟨callLinkRoomKey "00", "era"⟩).1 none "00" [1]).1.lookup
            (callLinkKey "00") = none :=
    ⟨_, _, rfl, by decide +kernel, by decide +kernel, _, _, rfl,
      by decide +kernel, by decide +kernel, by decide +kernel⟩
  obtain ⟨created, progress, _, present, read, called, outcome, added,
    hasCall, admitted, absent⟩ := evaluation
  let creating : LinkTask :=
    .createRecord "00" sampleJoin SystemTime.unixEpoch
  let resetting := (resetTask "00" SystemTime.unixEpoch outcome).toList
  let ended := (removeCallRecord called none ⟨callLinkRoomKey "00", "era"⟩).1
  have joined : Guarded DeletesAlone (LinkSystemStep permissive)
      ⟨created, []⟩ (.join sampleJoinRequest none) ⟨created, [creating]⟩ := by
    refine ⟨trivial, ?_⟩
    simp only [LinkSystemStep, read]
    rfl
  have recorded : Guarded DeletesAlone (LinkSystemStep permissive)
      ⟨created, [creating]⟩
      (.createRecord "00" sampleJoin SystemTime.unixEpoch "era" "ip" "region"
        none) ⟨called, [] ++ [] ++ resetting⟩ :=
    ⟨trivial, called, outcome, added, [], [], rfl, rfl⟩
  have removed : Guarded DeletesAlone (LinkSystemStep permissive)
      ⟨called, [] ++ [] ++ resetting⟩
      (.removeCallRecord ⟨callLinkRoomKey "00", "era"⟩ none)
      ⟨ended, resetting⟩ := ⟨trivial, rfl⟩
  have deleting : Guarded DeletesAlone (LinkSystemStep permissive)
      ⟨ended, resetting⟩
      (.delete ⟨"00", [1]⟩ (some ()) SystemTime.unixEpoch none)
      ⟨ended, resetting ++ [.deleteLink "00" [1]]⟩ := by
    refine ⟨trivial, ?_⟩
    simp only [LinkSystemStep, ended, admitted]
    rfl
  have deleted : Guarded DeletesAlone (LinkSystemStep permissive)
      ⟨ended, resetting ++ [.deleteLink "00" [1]]⟩
      (.deleteLink "00" [1] none)
      ⟨(deleteCallLink ended none "00" [1]).1, resetting ++ [] ++ []⟩ := by
    refine ⟨?_, resetting, [], rfl, rfl⟩
    rintro ⟨joined, join, now, isTask, _⟩
    cases outcome <;> simp [resetting, resetTask] at isTask
  have earlier := Run.snoc (.snoc .nil joined) recorded
  have run := (earlier.snoc removed |>.snoc deleting).snoc deleted
  exact ⟨_, _, _, _, _, earlier, run, hasCall, absent,
    noCall_after_deletion run present absent⟩

/-! ## Changes of the restrictions -/

/-- The restrictions of a link that stays are the same. -/
def KeepsRestrictions (roomId : RoomId) (before after : DynamoTable) : Prop :=
  ∀ old new, before.lookup (callLinkKey roomId) = some old →
    after.lookup (callLinkKey roomId) = some new →
      new.lookup "restrictions" = old.lookup "restrictions"

theorem KeepsRestrictions.of_lookup {before after : DynamoTable}
    (same : after.lookup (callLinkKey roomId) =
      before.lookup (callLinkKey roomId)) :
    KeepsRestrictions roomId before after := by
  intro old new isOld isNew
  rw [same, isOld] at isNew
  cases isNew
  rfl

theorem keepsRestrictions_updateItemIf {table : DynamoTable}
    {room roomId : RoomId} {condition : Condition} {update : UpdateExpression}
    {values : Item} (kept : ∀ {old new}, update.apply values old = some new →
      new.lookup "restrictions" = old.lookup "restrictions") :
    KeepsRestrictions roomId table
      (updateItemIf table fault (callLinkKey room) condition update
        values).1 := by
  rcases updateItemIf_cases table fault (callLinkKey room) condition update
      values with same | ⟨item, _, applied, written⟩
  · rw [same]
    exact .of_lookup rfl
  · rw [written]
    by_cases sameKey : callLinkKey roomId = callLinkKey room
    · intro old new isOld isNew
      rw [sameKey, AList.lookup_insert] at isNew
      cases isNew
      rw [← sameKey, isOld, Option.getD_some] at applied
      exact kept applied
    · exact .of_lookup (AList.lookup_insert_ne sameKey)

theorem keepsRestrictions_reset {timestampSeconds : SystemTime → Int}
    {before after : DynamoTable} {room roomId : RoomId}
    {outcome : Except CallLinkUpdateError Unit}
    (reset : resetCallLinkExpiration timestampSeconds before fault room
      now = .ok (after, outcome)) :
    KeepsRestrictions roomId before after := by
  obtain ⟨times, _, returned⟩ := bind_eq_ok_iff.mp reset
  cases returned
  apply keepsRestrictions_updateItemIf
  intro old new applied
  exact @lookup_apply_assign _ _ _ ["expiration", "deleteAt"] applied _
    (by decide)

theorem lookup_toItem_restrictions {update : CallLinkUpdate}
    (unchanged : update.restrictions = none) :
    update.toItem.lookup "restrictions" = none := by
  unfold CallLinkUpdate.toItem
  rw [lookup_insertIfSome_ne (by decide), lookup_insertIfSome_ne (by decide),
    unchanged]
  exact AList.lookup_insert_ne (by decide)

/-- An update of an existing link changes the restrictions only if it names
them. -/
theorem keepsRestrictions_updateCallLink {timestampSeconds : SystemTime → Int}
    {before after : DynamoTable} {room roomId : RoomId}
    {newAttributes : CallLinkUpdate} {progress : UpdateProgress}
    (unchanged : newAttributes.restrictions = none)
    (updated : updateCallLink timestampSeconds before fault room
      newAttributes none now = .ok (after, progress)) :
    KeepsRestrictions roomId before after := by
  obtain ⟨request, built, rest⟩ := bind_eq_ok_iff.mp updated
  obtain ⟨expression, generated, returned⟩ := bind_eq_ok_iff.mp rest
  cases returned
  cases built
  apply keepsRestrictions_updateItemIf
  intro old new applied
  have notUpdated : "restrictions" ∉ newAttributes.toItem.keys := by
    intro isKey
    have isSome := AList.lookup_isSome.mpr isKey
    rw [lookup_toItem_restrictions unchanged] at isSome
    cases isSome
  rcases lookup_applySetActions applied "restrictions" with
    kept | ⟨assigned, _⟩ | ⟨_, defaulted⟩
  · exact kept
  · exact absurd (mem_updateAttributes_of_assign generated assigned) notUpdated
  · -- There are no defaults to give.
    rw [defaulted, UpsertableItem.intoAttributeValues,
      AList.lookup_union_right notUpdated]
    exact Option.or_none

/-- A change of the restrictions was checked against the call of the room and
is still to be written. -/
def ChangePending (roomId : RoomId) (system : LinkSystem) : Prop :=
  ∃ room update, LinkTask.updateLink room update none ∈ system.tasks ∧
    update.restrictions.isSome = true ∧
    callLinkRoomKey room = callLinkRoomKey roomId

/-- The request of a join creates the record: it is not refused, and there is
none yet. -/
def CreatesRecord (before : DynamoTable) (fault : Option Fault)
    (call : CallRecord) : Prop :=
  before.lookup (call.roomId, .activeCall) = none ∧
    ∃ after outcome, getOrAddCallRecord before fault call =
        .ok (after, outcome) ∧
      (after.lookup (call.roomId, .activeCall)).isSome

/-- The request of an update writes a link that is there already. -/
def WritesExisting (timestampSeconds : SystemTime → Int)
    (before : DynamoTable) (fault : Option Fault) (roomId : RoomId)
    (update : CallLinkUpdate) (zkparamsForCreation : Option Bytes)
    (now : SystemTime) : Prop :=
  (before.lookup (callLinkKey roomId)).isSome ∧
    ∃ after progress, updateCallLink timestampSeconds before fault roomId
        update zkparamsForCreation now = .ok (after, progress) ∧
      after ≠ before

/-- No record of a call is created between the check and the write of a
change, and no creation is written to the link of a room during its call. -/
def CallsBeginAlone (before : LinkSystem) : LinkEvent externals → Prop
  | .createRecord roomId join _ eraId backendIp backendRegion fault =>
      CreatesRecord before.table fault
          (proposedRecord roomId join eraId backendIp backendRegion) →
        ¬ ChangePending roomId before
  | .updateLink roomId update (some zkparams) now fault =>
      WritesExisting externals.timestampSeconds before.table fault roomId
          update (some zkparams) now →
        before.table.lookup (linkCallKey roomId) = none
  | _ => True

/-- What was checked still holds. -/
def CheckedChanges (system : LinkSystem) : Prop :=
  ∀ roomId, ChangePending roomId system →
    system.table.lookup (linkCallKey roomId) = none

theorem LinkSystemStep.checkedChanges (checked : CheckedChanges before)
    (alone : CallsBeginAlone before event)
    (step : LinkSystemStep externals before event after) :
    CheckedChanges after := by
  intro roomId pending
  obtain ⟨room, update, isTask, changes, sameRoom⟩ := pending
  rcases step.task_mem isTask with
    isOld | ⟨sameTable, seen⟩ | ⟨_, _, isReset⟩
  · have wasPending : ChangePending roomId before :=
      ⟨room, update, isOld, changes, sameRoom⟩
    rcases step.record_cases roomId with kept | removed | ⟨joined, join, time,
      eraId, backendIp, backendRegion, fault, isCreation, joinedRoom⟩
    · rw [kept]
      exact checked roomId wasPending
    · exact removed
    · rw [isCreation] at alone step
      obtain ⟨table, outcome, added, performs⟩ := step
      by_contra created
      have noCall := checked roomId wasPending
      rw [performs.table_eq] at created
      rw [← linkCallKey_inj.mpr joinedRoom] at created noCall
      exact alone ⟨noCall, table, outcome, added,
        Option.isSome_iff_ne_none.mpr created⟩
        ⟨room, update, isOld, changes, sameRoom.trans joinedRoom.symm⟩
  · rw [sameTable, ← linkCallKey_inj.mpr sameRoom]
    exact seen changes
  · cases isReset

/-- The restrictions change only by the write of an update that names them. -/
theorem LinkSystemStep.restrictions_cases
    (step : LinkSystemStep externals before event after) (roomId : RoomId) :
    KeepsRestrictions roomId before.table after.table ∨
      ∃ room update zkparamsForCreation now fault,
        event = .updateLink room update zkparamsForCreation now fault ∧
        callLinkRoomKey room = callLinkRoomKey roomId ∧
        (zkparamsForCreation = none → update.restrictions.isSome = true) := by
  cases event with
  | join _ _ | update _ _ _ _ | delete _ _ _ _ =>
      rw [show after = _ from step]
      exact .inl (.of_lookup rfl)
  | createRecord room join time eraId backendIp backendRegion fault =>
      obtain ⟨table, outcome, added, performs⟩ := step
      left
      rw [performs.table_eq]
      exact .of_lookup (lookup_getOrAddCallRecord added
        (linkCallKey_ne_callLinkKey room roomId).symm)
  | resetExpiration room time fault =>
      obtain ⟨table, outcome, reset, performs⟩ := step
      left
      rw [performs.table_eq]
      exact keepsRestrictions_reset reset
  | updateLink room update zkparamsForCreation time fault =>
      obtain ⟨table, progress, updated, performs⟩ := step
      by_cases sameRoom : callLinkRoomKey room = callLinkRoomKey roomId
      · by_cases unnamed : zkparamsForCreation = none ∧
          update.restrictions = none
        · left
          rw [unnamed.1] at updated
          rw [performs.table_eq]
          exact keepsRestrictions_updateCallLink unnamed.2 updated
        · right
          refine ⟨room, update, zkparamsForCreation, time, fault, rfl,
            sameRoom, fun noZkparams => ?_⟩
          apply Option.isSome_iff_ne_none.mpr
          intro noRestrictions
          exact unnamed ⟨noZkparams, noRestrictions⟩
      · left
        rw [performs.table_eq]
        apply KeepsRestrictions.of_lookup
        apply (writesLink_updateCallLink updated).other
        intro sameKey
        exact sameRoom (callLinkKey_inj.mp sameKey).symm
  | deleteLink room adminPasskey fault =>
      left
      rw [Performs.table_eq step]
      rcases deleteCallLink_cases before.table fault room adminPasskey with
        same | ⟨erased, _⟩
      · rw [same]
        exact .of_lookup rfl
      · rw [erased]
        by_cases sameKey : callLinkKey roomId = callLinkKey room
        · intro old new _ isNew
          rw [sameKey, AList.lookup_erase] at isNew
          cases isNew
        · exact .of_lookup (AList.lookup_erase_ne sameKey)
  | removeCallRecord key fault =>
      left
      rw [show after = _ from step]
      rcases lookup_removeCallRecord before.table fault key
          (callLinkKey roomId) with kept | ⟨isKey, _⟩
      · exact .of_lookup kept
      · cases (Prod.ext_iff.mp isKey).2

/-- If no record is created between the check and the write of a change, and no
creation is written to a link during its call, the restrictions of a link change
only while its room has no call. -/
theorem restrictions_kept_during_call {start before after : LinkSystem}
    {events : List (LinkEvent externals)} {event : LinkEvent externals}
    {roomId : RoomId} (idle : start.tasks = [])
    (run : Run (Guarded CallsBeginAlone (LinkSystemStep externals)) start
      events before)
    (step : Guarded CallsBeginAlone (LinkSystemStep externals) before event
      after)
    (called : (before.table.lookup (linkCallKey roomId)).isSome ∨
      (after.table.lookup (linkCallKey roomId)).isSome) :
    KeepsRestrictions roomId before.table after.table := by
  have checkedAtFirst : CheckedChanges start := by
    rintro _ ⟨room, update, isTask, _⟩
    rw [idle] at isTask
    cases isTask
  have checked : CheckedChanges before := by
    apply run.invariant checkedAtFirst
    rintro state label next stateChecked ⟨alone, stateStep⟩
    exact stateStep.checkedChanges stateChecked alone
  obtain ⟨alone, step⟩ := step
  rcases step.restrictions_cases roomId with kept | ⟨room, update,
    zkparamsForCreation, now, fault, rfl, sameRoom, names⟩
  · exact kept
  obtain ⟨table, progress, updated, performs⟩ := step
  -- An update leaves the record of the call as it is.
  have sameRecord : after.table.lookup (linkCallKey roomId) =
      before.table.lookup (linkCallKey roomId) := by
    rw [performs.table_eq]
    exact (writesLink_updateCallLink updated).record _
  rw [sameRecord, or_self] at called
  cases zkparamsForCreation with
  | none =>
      have noCall := checked roomId
        ⟨room, update, performs.done_mem, names rfl, sameRoom⟩
      rw [noCall] at called
      cases called
  | some zkparams =>
      intro old new isOld isNew
      rw [performs.table_eq] at isNew
      by_cases unwritten : table = before.table
      · rw [unwritten, isOld] at isNew
        cases isNew
        rfl
      · have present : (before.table.lookup (callLinkKey room)).isSome := by
          rw [callLinkKey_inj.mpr sameRoom, isOld]
          rfl
        have noCall := alone ⟨present, table, progress, updated, unwritten⟩
        rw [linkCallKey_inj.mpr sameRoom] at noCall
        rw [noCall] at called
        cases called

/-- A call begins between the check and the write of a change of its
restrictions. -/
theorem restrictions_changed_during_call :
    ∃ (events : List (LinkEvent permissive)) (event : LinkEvent permissive)
      (before after : LinkSystem),
      Run (LinkSystemStep permissive) ⟨∅, []⟩ events before ∧
      LinkSystemStep permissive before event after ∧
      (before.table.lookup (linkCallKey "00")).isSome ∧
      (after.table.lookup (linkCallKey "00")).isSome ∧
      ¬ KeepsRestrictions "00" before.table after.table := by
  have evaluation : ∃ created progress,
      updateCallLink permissive.timestampSeconds ∅ none "00"
          ⟨[1], some .adminApproval, none, none⟩ (some [7])
          SystemTime.unixEpoch = .ok (created, progress) ∧
        updatePrecondition permissive created none
            ⟨"00", [1], none, some .none, none, none⟩ (.auth ())
            SystemTime.unixEpoch =
          .ok (⟨[1], some .none, none, none⟩, none) ∧
        joinRead permissive created none sampleJoinRequest =
          .create sampleJoin ∧
        ∃ called outcome,
          getOrAddCallRecord created none
              (proposedRecord "00" sampleJoin "era" "ip" "region") =
            .ok (called, outcome) ∧
          (called.lookup (linkCallKey "00")).isSome ∧
          (called.lookup (callLinkKey "00")).bind
              (·.lookup "restrictions") = some (.s "adminApproval") ∧
          ∃ changed written,
            updateCallLink permissive.timestampSeconds called none "00"
                ⟨[1], some .none, none, none⟩ none SystemTime.unixEpoch =
              .ok (changed, written) ∧
            (changed.lookup (linkCallKey "00")).isSome ∧
            (changed.lookup (callLinkKey "00")).bind
              (·.lookup "restrictions") = some (.s "none") :=
    ⟨_, _, rfl, by decide +kernel, by decide +kernel, _, _, rfl,
      by decide +kernel, by decide +kernel, _, _, rfl, by decide +kernel,
      by decide +kernel⟩
  obtain ⟨created, progress, updated, admitted, read, called, outcome, added,
    hasCall, isOld, changed, written, isWritten, stillCalled, isNew⟩ :=
    evaluation
  let changing : LinkTask :=
    .updateLink "00" ⟨[1], some .none, none, none⟩ none
  let creating : LinkTask :=
    .createRecord "00" sampleJoin SystemTime.unixEpoch
  let resetting := (resetTask "00" SystemTime.unixEpoch outcome).toList
  have checked : LinkSystemStep permissive ⟨created, []⟩
      (.update ⟨"00", [1], none, some .none, none, none⟩ (.auth ())
        SystemTime.unixEpoch none) ⟨created, [changing]⟩ := by
    simp only [LinkSystemStep, admitted]
    rfl
  have joined : LinkSystemStep permissive ⟨created, [changing]⟩
      (.join sampleJoinRequest none) ⟨created, [changing, creating]⟩ := by
    simp only [LinkSystemStep, read]
    rfl
  have recorded : LinkSystemStep permissive ⟨created, [changing, creating]⟩
      (.createRecord "00" sampleJoin SystemTime.unixEpoch "era" "ip" "region"
        none) ⟨called, [changing] ++ [] ++ resetting⟩ :=
    ⟨called, outcome, added, [changing], [], rfl, rfl⟩
  have changes : LinkSystemStep permissive
      ⟨called, [changing] ++ [] ++ resetting⟩
      (.updateLink "00" ⟨[1], some .none, none, none⟩ none
        SystemTime.unixEpoch none) ⟨changed, [] ++ resetting ++ []⟩ :=
    ⟨changed, written, isWritten, [], resetting, rfl, rfl⟩
  have run := ((run_sampleCreation updated).snoc checked |>.snoc joined).snoc
    recorded
  refine ⟨_, _, _, _, run, changes, hasCall, stillCalled, ?_⟩
  intro keeps
  obtain ⟨old, oldItem, oldRestrictions⟩ := Option.bind_eq_some_iff.mp isOld
  obtain ⟨new, newItem, newRestrictions⟩ := Option.bind_eq_some_iff.mp isNew
  have same := keeps old new oldItem newItem
  rw [oldRestrictions, newRestrictions] at same
  exact absurd same (by decide)

/-- A link gets a name during its call. -/
theorem restrictions_kept_when_named :
    ∃ (events : List (LinkEvent permissive)) (event : LinkEvent permissive)
      (start before after : LinkSystem),
      start.tasks = [] ∧
      Run (Guarded CallsBeginAlone (LinkSystemStep permissive)) start events
        before ∧
      Guarded CallsBeginAlone (LinkSystemStep permissive) before event after ∧
      (before.table.lookup (linkCallKey "00")).isSome ∧
      KeepsRestrictions "00" before.table after.table := by
  have evaluation : ∃ created progress,
      updateCallLink permissive.timestampSeconds ∅ none "00"
          ⟨[1], some .adminApproval, none, none⟩ (some [7])
          SystemTime.unixEpoch = .ok (created, progress) ∧
        joinRead permissive created none sampleJoinRequest =
          .create sampleJoin ∧
        ∃ called outcome,
          getOrAddCallRecord created none
              (proposedRecord "00" sampleJoin "era" "ip" "region") =
            .ok (called, outcome) ∧
          (called.lookup (linkCallKey "00")).isSome ∧
          updatePrecondition permissive called none
              ⟨"00", [1], none, none, some [3], none⟩ (.auth ())
              SystemTime.unixEpoch =
            .ok (⟨[1], none, some [3], none⟩, none) ∧
          ∃ named written,
            updateCallLink permissive.timestampSeconds called none "00"
                ⟨[1], none, some [3], none⟩ none SystemTime.unixEpoch =
              .ok (named, written) :=
    ⟨_, _, rfl, by decide +kernel, _, _, rfl, by decide +kernel,
      by decide +kernel, _, _, rfl⟩
  obtain ⟨created, progress, _, read, called, outcome, added, hasCall,
    admitted, named, written, isWritten⟩ := evaluation
  let creating : LinkTask :=
    .createRecord "00" sampleJoin SystemTime.unixEpoch
  let resetting := (resetTask "00" SystemTime.unixEpoch outcome).toList
  let naming : LinkTask := .updateLink "00" ⟨[1], none, some [3], none⟩ none
  have joined : Guarded CallsBeginAlone (LinkSystemStep permissive)
      ⟨created, []⟩ (.join sampleJoinRequest none) ⟨created, [creating]⟩ := by
    refine ⟨trivial, ?_⟩
    simp only [LinkSystemStep, read]
    rfl
  have recorded : Guarded CallsBeginAlone (LinkSystemStep permissive)
      ⟨created, [creating]⟩
      (.createRecord "00" sampleJoin SystemTime.unixEpoch "era" "ip" "region"
        none) ⟨called, [] ++ [] ++ resetting⟩ := by
    refine ⟨?_, called, outcome, added, [], [], rfl, rfl⟩
    rintro - ⟨room, update, isTask, _⟩
    simp [creating] at isTask
  have checked : Guarded CallsBeginAlone (LinkSystemStep permissive)
      ⟨called, [] ++ [] ++ resetting⟩
      (.update ⟨"00", [1], none, none, some [3], none⟩ (.auth ())
        SystemTime.unixEpoch none) ⟨called, resetting ++ [naming]⟩ := by
    refine ⟨trivial, ?_⟩
    simp only [LinkSystemStep, admitted]
    rfl
  have renamed : Guarded CallsBeginAlone (LinkSystemStep permissive)
      ⟨called, resetting ++ [naming]⟩
      (.updateLink "00" ⟨[1], none, some [3], none⟩ none
        SystemTime.unixEpoch none) ⟨named, resetting ++ [] ++ []⟩ :=
    ⟨trivial, named, written, isWritten, resetting, [], rfl, rfl⟩
  have run := Run.snoc (.snoc (.snoc .nil joined) recorded) checked
  exact ⟨_, _, _, _, _, rfl, run, renamed, hasCall,
    restrictions_kept_during_call rfl run renamed (.inl hasCall)⟩

end CallingService.Frontend
