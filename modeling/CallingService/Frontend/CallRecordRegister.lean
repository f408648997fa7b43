import CallingService.Foundation.CreateOnce
import CallingService.Frontend.Storage

/-!
# The call record of a room as a create-once cell

The storage operations on call records refine the create-once cells: an upsert
of defaults is a proposal, a conditional delete and a transaction of
conditional deletes discard by era id.  The properties of the record over
whole runs then follow from those of the cells.
-/

namespace CallingService.Frontend

open Foundation

/-! ## The items of call records -/

/-- The item holds the fields of the record, whatever else it holds. -/
structure IsRecordItem (item : Item) (call : CallRecord) : Prop where
  roomId : item.lookup "roomId" = some (.s call.roomId)
  eraId : item.lookup "eraId" = some (.s call.eraId)
  backendIp : item.lookup "backendIp" = some (.s call.backendIp)
  backendRegion : item.lookup "region" = some (.s call.backendRegion)
  creator : item.lookup "creator" = some (.s call.creator)

variable {item : Item} {call : CallRecord}

theorem IsRecordItem.fromItem_eq (holds : IsRecordItem item call) :
    CallRecord.fromItem item = some call := by
  simp [CallRecord.fromItem, Item.text, holds.roomId, holds.eraId,
    holds.backendIp, holds.backendRegion, holds.creator]

def RecordsWellFormed (table : DynamoTable) : Prop :=
  ∀ room item, table.lookup (room, .activeCall) = some item →
    ∃ call, call.roomId = room ∧ IsRecordItem item call

/-- The record of each room as `get_call_record` reads it. -/
def storedRecords (table : DynamoTable) : Cells RoomId CallRecord :=
  fun room =>
    (table.lookup (room, .activeCall)).bind CallRecord.fromItem

/-! ## Evaluation of an upsert -/

/-- Writing defaults keeps what the old item has and adds what it lacks. -/
theorem applySetActions_ifNotExists {values : Item} (old item : Item)
    {names : List String} (given : ∀ name ∈ names, name ∈ values) :
    ∃ result,
      applySetActions values old (names.map .assignIfNotExists) item =
        some result ∧
      ∀ name, result.lookup name =
        if name ∈ names then (old.lookup name).or (values.lookup name)
        else item.lookup name := by
  induction names generalizing item with
  | nil => exact ⟨item, rfl, by simp⟩
  | cons first rest ih =>
      have known := given first List.mem_cons_self
      obtain ⟨value, valueEq⟩ : ∃ value,
          (old.lookup first).or (values.lookup first) = some value := by
        obtain ⟨fallback, fallbackEq⟩ :=
          Option.isSome_iff_exists.mp (AList.lookup_isSome.mpr known)
        cases old.lookup first with
        | none => exact ⟨fallback, by simp [fallbackEq]⟩
        | some kept => exact ⟨kept, by simp⟩
      obtain ⟨result, applied, lookups⟩ := ih (item.insert first value)
        fun name member => given name (List.mem_cons_of_mem _ member)
      refine ⟨result, ?_, ?_⟩
      · rw [List.map_cons, applySetActions]
        simp [SetAction.evaluate, valueEq, applied]
      · intro name
        rw [lookups name]
        by_cases later : name ∈ rest
        · simp [later]
        · by_cases same : name = first
          · subst same
            simp [later, valueEq]
          · simp [later, same, AList.lookup_insert_ne same]

def recordNames : List String := ["eraId", "backendIp", "region", "creator"]

theorem toItem_keys (call : CallRecord) :
    call.toItem.keys = recordNames := by
  rfl

theorem toItem_lookup (call : CallRecord) :
    call.toItem.lookup "eraId" = some (.s call.eraId) ∧
    call.toItem.lookup "backendIp" = some (.s call.backendIp) ∧
    call.toItem.lookup "region" = some (.s call.backendRegion) ∧
    call.toItem.lookup "creator" = some (.s call.creator) :=
  ⟨rfl, rfl, rfl, rfl⟩

theorem generateUpdateExpression_withDefaults (call : CallRecord) :
    (UpsertableItem.withDefaults call.toItem).generateUpdateExpression =
      .ok (recordNames.map .assignIfNotExists) := by
  unfold UpsertableItem.generateUpdateExpression UpsertableItem.withDefaults
  rw [toItem_keys]
  rfl

variable {table : DynamoTable} {room : RoomId}

theorem storedRecords_of_item
    (found : table.lookup (room, .activeCall) = some item)
    (holds : IsRecordItem item call) :
    storedRecords table room = some call := by
  simp [storedRecords, found, holds.fromItem_eq]

theorem RecordsWellFormed.lookup_of_stored
    (wellFormed : RecordsWellFormed table)
    (stored : storedRecords table room = some call) :
    ∃ item, table.lookup (room, .activeCall) = some item ∧
      call.roomId = room ∧ IsRecordItem item call := by
  obtain ⟨item, found, decoded⟩ := Option.bind_eq_some_iff.mp stored
  obtain ⟨known, roomEq, holds⟩ := wellFormed room item found
  rw [holds.fromItem_eq] at decoded
  cases decoded
  exact ⟨item, found, roomEq, holds⟩

theorem RecordsWellFormed.lookup_eq_none_iff
    (wellFormed : RecordsWellFormed table) (room : RoomId) :
    table.lookup (room, .activeCall) = none ↔
      storedRecords table room = none := by
  constructor
  · intro absent
    simp [storedRecords, absent]
  · intro absent
    cases found : table.lookup (room, .activeCall) with
    | none => rfl
    | some item =>
        obtain ⟨call, -, holds⟩ := wellFormed room item found
        rw [storedRecords_of_item found holds] at absent
        cases absent

/-- The upsert of a call leaves the record that was there, or the whole call
where there was none. -/
theorem updateItem_of_call (wellFormed : RecordsWellFormed table)
    (call : CallRecord) :
    ∃ item,
      updateItem table none (call.roomId, .activeCall)
        (recordNames.map .assignIfNotExists) call.toItem =
          (table.insert (call.roomId, .activeCall) item, .ok item) ∧
      IsRecordItem item
        ((storedRecords table call.roomId).getD call) := by
  have given : ∀ name ∈ recordNames, name ∈ call.toItem := by
    intro name member
    rw [AList.mem_keys, toItem_keys]
    exact member
  obtain ⟨era, ip, region, creator⟩ := toItem_lookup call
  obtain ⟨item, applied, lookups⟩ := applySetActions_ifNotExists
    ((table.lookup (call.roomId, .activeCall)).getD
      (keyAttributes (call.roomId, .activeCall)))
    ((table.lookup (call.roomId, .activeCall)).getD
      (keyAttributes (call.roomId, .activeCall))) given
  refine ⟨item, by simp [updateItem, applied], ?_⟩
  cases found : table.lookup (call.roomId, .activeCall) with
  | none =>
      have absent := (wellFormed.lookup_eq_none_iff call.roomId).mp found
      rw [found, Option.getD_none] at lookups
      rw [absent, Option.getD_none]
      refine ⟨?_, ?_, ?_, ?_, ?_⟩
      · rw [lookups, if_neg (by decide)]
        rfl
      · rw [lookups, if_pos (by decide), era]
        rfl
      · rw [lookups, if_pos (by decide), ip]
        rfl
      · rw [lookups, if_pos (by decide), region]
        rfl
      · rw [lookups, if_pos (by decide), creator]
        rfl
  | some old =>
      obtain ⟨known, -, holds⟩ := wellFormed call.roomId old found
      rw [storedRecords_of_item found holds, Option.getD_some]
      rw [found, Option.getD_some] at lookups
      refine ⟨?_, ?_, ?_, ?_, ?_⟩
      · rw [lookups, if_neg (by decide), holds.roomId]
      · rw [lookups, if_pos (by decide), holds.eraId, Option.some_or]
      · rw [lookups, if_pos (by decide), holds.backendIp, Option.some_or]
      · rw [lookups, if_pos (by decide), holds.backendRegion, Option.some_or]
      · rw [lookups, if_pos (by decide), holds.creator, Option.some_or]

theorem getOrAddCallRecord_eq (wellFormed : RecordsWellFormed table)
    (call : CallRecord) :
    ∃ item,
      getOrAddCallRecord table none call =
        .ok (table.insert (call.roomId, .activeCall) item,
          .ok ((storedRecords table call.roomId).getD call)) ∧
      IsRecordItem item ((storedRecords table call.roomId).getD call) := by
  obtain ⟨item, updated, holds⟩ := updateItem_of_call wellFormed call
  refine ⟨item, ?_, holds⟩
  have values : (UpsertableItem.withDefaults call.toItem).intoAttributeValues =
      call.toItem := AList.empty_union
  simp only [getOrAddCallRecord, generateUpdateExpression_withDefaults, values,
    updated, holds.fromItem_eq, bind, Except.bind, pure, Except.pure]

/-! ## Events of the store -/

inductive StorageEvent where
  | getOrAdd (call : CallRecord) (fault : Option Fault)
      (answer : Except StorageError CallRecord)
  | remove (key : CallRecordKey) (fault : Option Fault)
      (answer : Except StorageError Unit)
  | removeBatch (keys : List CallRecordKey) (fault : Option Fault)
      (answer : Except StorageError Unit)

def StorageStep (table : DynamoTable) :
    StorageEvent → DynamoTable → Prop
  | .getOrAdd call fault answer, next =>
      getOrAddCallRecord table fault call = .ok (next, answer)
  | .remove key fault answer, next =>
      removeCallRecord table fault key = (next, answer)
  | .removeBatch keys fault answer, next =>
      removeBatchCallRecords table fault keys = (next, answer)

def CallRecordKey.cellKey (key : CallRecordKey) : RoomId × EraId :=
  (key.roomId, key.eraId)

/-- The keys an event asks to remove. -/
def StorageEvent.removedKeys : StorageEvent → List CallRecordKey
  | .getOrAdd _ _ _ => []
  | .remove key _ _ => [key]
  | .removeBatch keys _ _ => keys

/-- What an event is for the cells. -/
def StorageEvent.cellEvent : StorageEvent → CellEvent RoomId CallRecord EraId
  | .getOrAdd call _ (.ok stored) => .proposed call.roomId call stored
  | .remove key _ (.ok ()) => .discarded [key.cellKey]
  | .removeBatch keys _ (.ok ()) =>
      .discarded (keys.map CallRecordKey.cellKey)
  | _ => .failed

theorem StorageEvent.removedKeys_of_discarded (event : StorageEvent)
    {keys : List (RoomId × EraId)}
    (discards : event.cellEvent = .discarded keys) :
    keys = event.removedKeys.map CallRecordKey.cellKey := by
  cases event with
  | getOrAdd call fault answer =>
      cases answer <;> cases discards
  | remove key fault answer =>
      cases answer <;> cases discards
      rfl
  | removeBatch keys fault answer =>
      cases answer <;> cases discards
      rfl

/-! ## Refinement of the cells -/

section Refinement

variable {table next : DynamoTable} {event : StorageEvent}

theorem RecordsWellFormed.insert (wellFormed : RecordsWellFormed table)
    (roomEq : call.roomId = room) (holds : IsRecordItem item call) :
    RecordsWellFormed (table.insert (room, .activeCall) item) := by
  intro other otherItem found
  by_cases same : other = room
  · subst same
    rw [AList.lookup_insert] at found
    cases found
    exact ⟨call, roomEq, holds⟩
  · rw [AList.lookup_insert_ne (by simpa using same)] at found
    exact wellFormed other otherItem found

theorem storedRecords_insert (holds : IsRecordItem item call) :
    storedRecords (table.insert (room, .activeCall) item) =
      Function.update (storedRecords table) room (some call) := by
  funext other
  by_cases same : other = room
  · subst same
    rw [Function.update_self]
    exact storedRecords_of_item (AList.lookup_insert _) holds
  · rw [Function.update_of_ne same]
    unfold storedRecords
    rw [AList.lookup_insert_ne (by simpa using same)]

theorem RecordsWellFormed.erase (wellFormed : RecordsWellFormed table)
    (room : RoomId) :
    RecordsWellFormed (table.erase (room, .activeCall)) := by
  intro other item found
  by_cases same : other = room
  · subst same
    rw [AList.lookup_erase] at found
    cases found
  · rw [AList.lookup_erase_ne (by simpa using same)] at found
    exact wellFormed other item found

theorem storedRecords_erase (table : DynamoTable) (room other : RoomId) :
    storedRecords (table.erase (room, .activeCall)) other =
      if other = room then none else storedRecords table other := by
  unfold storedRecords
  split
  case isTrue same =>
    rw [same, AList.lookup_erase]
    rfl
  case isFalse different =>
    rw [AList.lookup_erase_ne (by simpa using different)]

theorem eraMatches_iff (wellFormed : RecordsWellFormed table)
    (key : CallRecordKey) :
    eraMatches table key = true ↔
      ∃ call, storedRecords table key.roomId = some call ∧
        call.eraId = key.eraId := by
  unfold eraMatches
  cases found : table.lookup (key.roomId, .activeCall) with
  | none =>
      rw [(wellFormed.lookup_eq_none_iff key.roomId).mp found]
      simp
  | some item =>
      obtain ⟨call, -, holds⟩ := wellFormed key.roomId item found
      rw [storedRecords_of_item found holds]
      simp [holds.eraId]

theorem deleteItems_spec (wellFormed : RecordsWellFormed table)
    (keys : List CallRecordKey) :
    RecordsWellFormed (deleteItems table keys) ∧
      ∀ room, storedRecords (deleteItems table keys) room =
        if room ∈ keys.map (·.roomId) then none
        else storedRecords table room := by
  induction keys generalizing table with
  | nil => exact ⟨wellFormed, by simp [deleteItems]⟩
  | cons key keys ih =>
      obtain ⟨rest, records⟩ := ih (wellFormed.erase key.roomId)
      refine ⟨rest, ?_⟩
      intro room
      rw [deleteItems, List.foldl_cons, ← deleteItems, records,
        storedRecords_erase]
      by_cases later : room ∈ keys.map (·.roomId)
      · simp [later]
      · by_cases same : room = key.roomId
        · simp [same]
        · simp [later, same]

variable {keys : List CallRecordKey}

/-- Where no key of a list matches, discarding changes nothing. -/
theorem discardTagged_of_no_match (wellFormed : RecordsWellFormed table)
    (unmatched : ∀ key ∈ keys, eraMatches table key = false) :
    discardTagged CallRecord.eraId (storedRecords table)
      (keys.map CallRecordKey.cellKey) = storedRecords table := by
  funext room
  apply discardTagged_of_ne
  intro call stored member
  obtain ⟨key, keyMember, keyEq⟩ := List.mem_map.mp member
  obtain ⟨rfl, eraEq⟩ := Prod.mk.inj keyEq
  have matched :=
    (eraMatches_iff wellFormed key).mpr ⟨call, stored, eraEq.symm⟩
  rw [unmatched key keyMember] at matched
  cases matched

/-- Where every key matches, discarding empties exactly their rooms. -/
theorem storedRecords_deleteItems (wellFormed : RecordsWellFormed table)
    (matched : ∀ key ∈ keys, eraMatches table key = true) :
    storedRecords (deleteItems table keys) =
      discardTagged CallRecord.eraId (storedRecords table)
        (keys.map CallRecordKey.cellKey) := by
  funext room
  rw [(deleteItems_spec wellFormed keys).2 room]
  split
  case isTrue listed =>
    obtain ⟨key, keyMember, rfl⟩ := List.mem_map.mp listed
    obtain ⟨call, stored, eraEq⟩ :=
      (eraMatches_iff wellFormed key).mp (matched key keyMember)
    have removed : (key.roomId, call.eraId) ∈
        keys.map CallRecordKey.cellKey := by
      rw [eraEq]
      exact List.mem_map_of_mem keyMember
    exact (discardTagged_of_mem stored removed).symm
  case isFalse unlisted =>
    symm
    apply discardTagged_of_ne
    intro call stored member
    obtain ⟨key, keyMember, keyEq⟩ := List.mem_map.mp member
    obtain ⟨rfl, -⟩ := Prod.mk.inj keyEq
    exact unlisted (List.mem_map_of_mem keyMember)

/-- What one operation may do to the records, and that a failed one does
nothing. -/
structure Refines (table : DynamoTable) (event : StorageEvent)
    (next : DynamoTable) : Prop where
  wellFormed : RecordsWellFormed next
  cell : CellStep CallRecord.eraId (storedRecords table) event.cellEvent
    (storedRecords next)
  unchanged : event.cellEvent = .failed → next = table

theorem getOrAdd_refines (wellFormed : RecordsWellFormed table)
    {fault : Option Fault} {answer : Except StorageError CallRecord}
    (step : StorageStep table (.getOrAdd call fault answer) next) :
    Refines table (.getOrAdd call fault answer) next := by
  cases fault with
  | some injected =>
      have failed : next = table ∧ ∃ failure, answer = .error failure := by
        simp only [StorageStep, getOrAddCallRecord,
          generateUpdateExpression_withDefaults, updateItem, bind,
          Except.bind, pure, Except.pure, Except.ok.injEq,
          Prod.mk.injEq] at step
        exact ⟨step.1.symm, _, step.2.symm⟩
      obtain ⟨rfl, failure, rfl⟩ := failed
      exact ⟨wellFormed, rfl, fun _ => rfl⟩
  | none =>
      obtain ⟨item, added, holds⟩ := getOrAddCallRecord_eq wellFormed call
      have same := added.symm.trans step
      cases same
      have roomEq :
          ((storedRecords table call.roomId).getD call).roomId =
            call.roomId := by
        cases stored : storedRecords table call.roomId with
        | none => rfl
        | some known =>
            obtain ⟨-, -, same, -⟩ := wellFormed.lookup_of_stored stored
            exact same
      exact ⟨wellFormed.insert roomEq holds,
        ⟨rfl, storedRecords_insert holds⟩, fun failed => by cases failed⟩

/-- The outcome of a removal: the records under the given keys are discarded,
or the operation fails and leaves the table alone. -/
def Removes (table : DynamoTable) (keys : List CallRecordKey)
    (answer : Except StorageError Unit) (next : DynamoTable) : Prop :=
  (answer = .ok () ∧ storedRecords next =
    discardTagged CallRecord.eraId (storedRecords table)
      (keys.map CallRecordKey.cellKey)) ∨
  (∃ failure, answer = .error failure) ∧ next = table

theorem removes_of_no_match (wellFormed : RecordsWellFormed table)
    (unmatched : ∀ key ∈ keys, eraMatches table key = false) :
    Removes table keys (.ok ()) table :=
  .inl ⟨rfl, (discardTagged_of_no_match wellFormed unmatched).symm⟩

theorem remove_refines (wellFormed : RecordsWellFormed table)
    {key : CallRecordKey} {fault : Option Fault}
    {answer : Except StorageError Unit}
    (step : removeCallRecord table fault key = (next, answer)) :
    RecordsWellFormed next ∧ Removes table [key] answer next := by
  obtain ⟨rfl, rfl⟩ := Prod.mk.inj step
  cases fault with
  | some injected =>
      refine ⟨wellFormed, .inr ⟨?_, rfl⟩⟩
      cases injected with
      | unavailable context => exact ⟨_, rfl⟩
      | conflict before after => exact ⟨_, rfl⟩
  | none =>
      by_cases matched : eraMatches table key = true
      · have all : ∀ other ∈ [key], eraMatches table other = true := by
          simpa using matched
        simp only [matched, if_true]
        exact ⟨wellFormed.erase key.roomId,
          .inl ⟨rfl, storedRecords_deleteItems wellFormed all⟩⟩
      · rw [Bool.not_eq_true] at matched
        have none : ∀ other ∈ [key], eraMatches table other = false := by
          simpa using matched
        simp only [matched, Bool.false_eq_true, if_false]
        exact ⟨wellFormed, removes_of_no_match wellFormed none⟩

private theorem transaction_refines (wellFormed : RecordsWellFormed table)
    (keys : List CallRecordKey) (fault : Option Fault) :
    RecordsWellFormed (transactDeleteItems table fault keys).1 ∧
      Removes table keys
        (transactionOutcome (transactDeleteItems table fault keys).2)
        (transactDeleteItems table fault keys).1 := by
  cases fault with
  | some injected =>
      refine ⟨wellFormed, .inr ⟨?_, rfl⟩⟩
      cases injected with
      | unavailable context => exact ⟨_, rfl⟩
      | conflict before after =>
          simp [transactDeleteItems, Fault.error, transactionOutcome]
  | none =>
      unfold transactDeleteItems
      dsimp only
      split
      case isFalse repeated =>
        exact ⟨wellFormed, .inr ⟨⟨_, rfl⟩, rfl⟩⟩
      case isTrue distinct =>
        split
        case isTrue all =>
          rw [List.all_eq_true] at all
          exact ⟨(deleteItems_spec wellFormed keys).1,
            .inl ⟨rfl, storedRecords_deleteItems wellFormed all⟩⟩
        case isFalse some =>
          refine ⟨wellFormed, ?_⟩
          unfold transactionOutcome
          dsimp only
          split
          case isTrue reasons =>
            apply removes_of_no_match wellFormed
            intro key member
            rw [List.all_map, List.all_eq_true] at reasons
            have reason := reasons key member
            by_contra matched
            rw [Bool.not_eq_false] at matched
            simp [cancellationReason, matched] at reason
          case isFalse reasons =>
            exact .inr ⟨⟨_, rfl⟩, rfl⟩

theorem removeBatch_refines (wellFormed : RecordsWellFormed table)
    {fault : Option Fault} {answer : Except StorageError Unit}
    (step : removeBatchCallRecords table fault keys = (next, answer)) :
    RecordsWellFormed next ∧ Removes table keys answer next := by
  unfold removeBatchCallRecords at step
  split at step
  · cases step
    exact ⟨wellFormed, removes_of_no_match wellFormed (by simp)⟩
  · exact remove_refines wellFormed step
  · split at step
    · cases step
      exact ⟨wellFormed, .inr ⟨⟨_, rfl⟩, rfl⟩⟩
    · obtain ⟨rfl, rfl⟩ := Prod.mk.inj step
      exact transaction_refines wellFormed keys fault

theorem storageStep_refines (wellFormed : RecordsWellFormed table)
    (step : StorageStep table event next) : Refines table event next := by
  cases event with
  | getOrAdd call fault answer => exact getOrAdd_refines wellFormed step
  | remove key fault answer =>
      obtain ⟨preserved, ⟨rfl, records⟩ | ⟨⟨failure, rfl⟩, rfl⟩⟩ :=
        remove_refines wellFormed step
      · exact ⟨preserved, records, fun failed => by cases failed⟩
      · exact ⟨preserved, rfl, fun _ => rfl⟩
  | removeBatch keys fault answer =>
      obtain ⟨preserved, ⟨rfl, records⟩ | ⟨⟨failure, rfl⟩, rfl⟩⟩ :=
        removeBatch_refines wellFormed step
      · exact ⟨preserved, records, fun failed => by cases failed⟩
      · exact ⟨preserved, rfl, fun _ => rfl⟩

theorem wellFormed_of_run {start : DynamoTable} {events : List StorageEvent}
    (initial : RecordsWellFormed start)
    (run : Run StorageStep start events table) :
    RecordsWellFormed table :=
  run.invariant initial fun known step =>
    (storageStep_refines known step).wellFormed

/-- A run of the store is a run of the cells. -/
theorem cellRun_of_run {start : DynamoTable} {events : List StorageEvent}
    (initial : RecordsWellFormed start)
    (run : Run StorageStep start events table) :
    Run (CellStep CallRecord.eraId) (storedRecords start)
      (events.map StorageEvent.cellEvent) (storedRecords table) := by
  induction run with
  | nil => exact .nil
  | snoc earlier last ih =>
      rw [List.map_append]
      exact .snoc ih
        (storageStep_refines (wellFormed_of_run initial earlier) last).cell

/-- The steps that do not delete the record of a room. -/
def KeepsRecord (room : RoomId) (before : DynamoTable)
    (event : StorageEvent) (after : DynamoTable) : Prop :=
  StorageStep before event after ∧
    ((storedRecords before room).isSome → (storedRecords after room).isSome)

theorem keepsCell_of_keepsRecord {start : DynamoTable}
    {events : List StorageEvent} (initial : RecordsWellFormed start)
    (run : Run (KeepsRecord room) start events table) :
    RecordsWellFormed table ∧
      Run (KeepsCell CallRecord.eraId room) (storedRecords start)
        (events.map StorageEvent.cellEvent) (storedRecords table) := by
  induction run with
  | nil => exact ⟨initial, .nil⟩
  | snoc earlier last ih =>
      obtain ⟨known, cells⟩ := ih
      have refined := storageStep_refines known last.1
      rw [List.map_append]
      exact ⟨refined.wellFormed, .snoc cells ⟨refined.cell, last.2⟩⟩

/-! ## The record of a room over runs -/

/-- What the frontends may rely on about the record of one room. -/
structure RecordGuarantees (room : RoomId) (events : List StorageEvent)
    (table : DynamoTable) : Prop where
  absentOrProposed : table.lookup (room, .activeCall) = none ∨
    ∃! call, (∃ fault answer, .getOrAdd call fault answer ∈ events) ∧
      call.roomId = room ∧
      ∃ item, table.lookup (room, .activeCall) = some item ∧
        IsRecordItem item call
  sameAnswer : ∀ later final, Run (KeepsRecord room) table later final →
    ∀ call fault answer, call.roomId = room →
      .getOrAdd call fault (.ok answer) ∈ later →
        storedRecords final room = some answer
  otherEra : ∀ event next, StorageStep table event next →
    ∀ record, storedRecords table room = some record →
      ⟨room, record.eraId⟩ ∉ event.removedKeys →
        storedRecords next room = some record
  batchOk : ∀ keys fault next,
    removeBatchCallRecords table fault keys = (next, .ok ()) →
      ∀ key ∈ keys, ∀ record, storedRecords next key.roomId = some record →
        record.eraId ≠ key.eraId
  batchErr : ∀ keys fault failure next,
    removeBatchCallRecords table fault keys = (next, .error failure) →
      next = table

theorem recordGuarantees_of_run {start : DynamoTable}
    {events : List StorageEvent}
    (empty : ∀ room, start.lookup (room, .activeCall) = none)
    (run : Run StorageStep start events table) (room : RoomId) :
    RecordGuarantees room events table := by
  have initial : RecordsWellFormed start := by
    intro other item found
    rw [empty other] at found
    cases found
  have wellFormed := wellFormed_of_run initial run
  refine ⟨?_, ?_, ?_, ?_, ?_⟩
  · cases found : table.lookup (room, .activeCall) with
    | none => exact .inl rfl
    | some item =>
        right
        obtain ⟨call, roomEq, holds⟩ := wellFormed room item found
        have stored := storedRecords_of_item found holds
        have absent : storedRecords start room = none := by
          simp [storedRecords, empty room]
        have proposed := proposed_of_stored (cellRun_of_run initial run)
          absent stored
        obtain ⟨event, member, eventEq⟩ := List.mem_map.mp proposed
        refine ⟨call, ⟨?_, roomEq, item, rfl, holds⟩, ?_⟩
        · cases event with
          | getOrAdd proposal fault answer =>
              cases answer with
              | ok kept =>
                  cases eventEq
                  exact ⟨fault, _, member⟩
              | error failure => cases eventEq
          | remove key fault answer =>
              cases answer <;> cases eventEq
          | removeBatch keys fault answer =>
              cases answer <;> cases eventEq
        · rintro other ⟨-, -, otherItem, otherFound, otherHolds⟩
          cases otherFound
          have decoded := otherHolds.fromItem_eq
          rw [holds.fromItem_eq] at decoded
          exact (Option.some.inj decoded).symm
  · intro later final segment call fault answer roomEq member
    obtain ⟨-, cells⟩ := keepsCell_of_keepsRecord wellFormed segment
    subst roomEq
    exact answer_eq_stored cells
      (List.mem_map_of_mem member)
  · intro event next step record stored unlisted
    apply (storageStep_refines wellFormed step).cell.keeps_value stored
    intro keys discards listed
    rw [event.removedKeys_of_discarded discards] at listed
    obtain ⟨key, member, keyEq⟩ := List.mem_map.mp listed
    cases key
    cases keyEq
    exact unlisted member
  · intro keys fault next removed key member record stored same
    obtain ⟨-, ⟨-, records⟩ | ⟨⟨failure, wrong⟩, -⟩⟩ :=
      removeBatch_refines wellFormed removed
    · rw [records] at stored
      apply (discardTagged_eq_some stored).2
      rw [same]
      exact List.mem_map_of_mem member
    · cases wrong
  · intro keys fault failure next removed
    obtain ⟨-, ⟨wrong, -⟩ | ⟨-, unchanged⟩⟩ :=
      removeBatch_refines wellFormed removed
    · cases wrong
    · exact unchanged

def firstProposal : CallRecord :=
  ⟨"room", "era1", "10.0.0.1", "eu", "alice"⟩

def secondProposal : CallRecord :=
  ⟨"room", "era2", "10.0.0.2", "us", "bob"⟩

/-- The table after a proposal. -/
def afterProposal (table : DynamoTable) (call : CallRecord) : DynamoTable :=
  match getOrAddCallRecord table none call with
  | .ok (next, _) => next
  | .error _ => table

/-- Two frontends propose calls for one room, and a late removal carries the
era of an older call. -/
theorem recordGuarantees_two_proposals :
    RecordGuarantees "room"
      [.getOrAdd firstProposal none (.ok firstProposal),
        .getOrAdd secondProposal none (.ok firstProposal),
        .remove ⟨"room", "era0"⟩ none (.ok ())]
      (afterProposal (afterProposal ∅ firstProposal) secondProposal) := by
  have first : StorageStep ∅ (.getOrAdd firstProposal none
      (.ok firstProposal)) (afterProposal ∅ firstProposal) := by
    rfl
  have second : StorageStep (afterProposal ∅ firstProposal)
      (.getOrAdd secondProposal none (.ok firstProposal))
      (afterProposal (afterProposal ∅ firstProposal) secondProposal) := by
    rfl
  have late : StorageStep
      (afterProposal (afterProposal ∅ firstProposal) secondProposal)
      (.remove ⟨"room", "era0"⟩ none (.ok ()))
      (afterProposal (afterProposal ∅ firstProposal) secondProposal) := by
    rfl
  exact recordGuarantees_of_run (fun _ => rfl)
    (.snoc (.snoc (.snoc .nil first) second) late) "room"

end Refinement

end CallingService.Frontend
