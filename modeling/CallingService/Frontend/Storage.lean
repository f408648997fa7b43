import CallingService.Foundation.Table
import CallingService.Common.Basics

/-!
# Call records in DynamoDB

The record store as the frontend uses it.  A table maps a room and a record
type to an item, which is a map of attributes.  A request to the service is
atomic: it reads and writes the whole table, or it reports a fault and leaves
the table alone.
-/

namespace CallingService.Frontend

open Foundation

abbrev RoomId := String
abbrev EraId := String
abbrev UserId := String

structure CallRecord where
  roomId : RoomId
  eraId : EraId
  backendIp : String
  backendRegion : String
  creator : UserId
deriving DecidableEq, Repr

structure CallRecordKey where
  roomId : RoomId
  eraId : EraId
deriving DecidableEq, Repr

inductive StorageError where
  | batchLimitExceeded (provided limit : Nat)
  | unexpectedError (context : String)
deriving DecidableEq, Repr

/-! ## The service -/

inductive AttributeValue where
  | s (text : String)
  | n (number : Int)
  | b (bytes : Bytes)
  | bool (flag : Bool)
  | l (texts : List String)
  | ss (texts : List String)
deriving DecidableEq, Repr

abbrev Item := Table String AttributeValue

inductive RecordType where
  | activeCall
  | callLinkState
deriving DecidableEq, Repr

def RecordType.name : RecordType → String
  | .activeCall => "ActiveCall"
  | .callLinkState => "CallLinkState"

abbrev ItemKey := RoomId × RecordType

abbrev DynamoTable := Table ItemKey Item

inductive CancellationReason where
  | none
  | conditionalCheckFailed
  | transactionConflict
deriving DecidableEq, Repr

/-- A failure that the environment injects: the request had no effect. -/
inductive Fault where
  | unavailable (context : String)
  | conflict (before after : List CancellationReason)
deriving DecidableEq, Repr

inductive ServiceError where
  | conditionalCheckFailed
  | transactionCanceled (reasons : List CancellationReason)
  | validation
  | other (context : String)
deriving DecidableEq, Repr

def Fault.error : Fault → ServiceError
  | .unavailable context => .other context
  | .conflict before after =>
      .transactionCanceled (before ++ .transactionConflict :: after)

/-- One assignment of a `SET` expression. -/
inductive SetAction where
  | assign (name : String)
  | assignIfNotExists (name : String)
deriving DecidableEq, Repr

/-- The attribute and the value it receives, read from the item before the
update. -/
def SetAction.evaluate (values : Item) (old : Item) :
    SetAction → Option (String × AttributeValue)
  | .assign name =>
      (values.lookup name).map (name, ·)
  | .assignIfNotExists name =>
      ((old.lookup name).or (values.lookup name)).map (name, ·)

/-- Evaluate all assignments against the old item, then write them. -/
def applySetActions (values old : Item) :
    List SetAction → Item → Option Item
  | [], item => some item
  | action :: actions, item => do
      let (name, value) ← action.evaluate values old
      applySetActions values old actions (item.insert name value)

def keyAttributes (key : ItemKey) : Item :=
  ((∅ : Item).insert "roomId" (.s key.1)).insert "recordType" (.s key.2.name)

/-- `update_item` with `ReturnValue::AllNew`; an absent item starts with its
key attributes. -/
def updateItem (table : DynamoTable) (fault : Option Fault) (key : ItemKey)
    (actions : List SetAction) (values : Item) :
    DynamoTable × Except ServiceError Item :=
  match fault with
  | some injected => (table, .error injected.error)
  | none =>
      let old := (table.lookup key).getD (keyAttributes key)
      match applySetActions values old actions old with
      | none => (table, .error .validation)
      | some item => (table.insert key item, .ok item)

/-- The condition `eraId = :value` on the item of a key. -/
def eraMatches (table : DynamoTable) (key : CallRecordKey) : Bool :=
  match table.lookup (key.roomId, .activeCall) with
  | none => false
  | some item => item.lookup "eraId" = some (.s key.eraId)

def deleteItem (table : DynamoTable) (fault : Option Fault)
    (key : CallRecordKey) : DynamoTable × Except ServiceError Unit :=
  match fault with
  | some injected => (table, .error injected.error)
  | none =>
      if eraMatches table key then
        (table.erase (key.roomId, .activeCall), .ok ())
      else (table, .error .conditionalCheckFailed)

def cancellationReason (table : DynamoTable) (key : CallRecordKey) :
    CancellationReason :=
  if eraMatches table key then .none else .conditionalCheckFailed

def deleteItems (table : DynamoTable) (keys : List CallRecordKey) :
    DynamoTable :=
  keys.foldl (fun rest key => rest.erase (key.roomId, .activeCall)) table

/-- `transact_write_items` over conditional deletes: two operations on one
item are refused, and one failed condition cancels all of them. -/
def transactDeleteItems (table : DynamoTable) (fault : Option Fault)
    (keys : List CallRecordKey) : DynamoTable × Except ServiceError Unit :=
  match fault with
  | some injected => (table, .error injected.error)
  | none =>
      if (keys.map (·.roomId)).Nodup then
        if keys.all (eraMatches table) then (deleteItems table keys, .ok ())
        else (table,
          .error (.transactionCanceled (keys.map (cancellationReason table))))
      else (table, .error .validation)

/-! ## Upserts -/

structure UpsertableItem where
  updateAttributes : Item
  defaultAttributes : Item

def UpsertableItem.withDefaults (attributes : Item) : UpsertableItem where
  updateAttributes := ∅
  defaultAttributes := attributes

/-- The assignments of `generate_update_expression`.  The source sorts their
texts, which does not change what they assign. -/
def UpsertableItem.generateUpdateExpression (item : UpsertableItem) :
    Except Panic (List SetAction) :=
  let updates := item.updateAttributes.keys.map SetAction.assign
  let defaults := (item.defaultAttributes.keys.filter
    (· ∉ item.updateAttributes.keys)).map SetAction.assignIfNotExists
  if updates ++ defaults = [] then
    .error (.assertion "no attributes besides primary keys, no need for upsert")
  else .ok (updates ++ defaults)

/-- Update attributes override default attributes of the same name. -/
def UpsertableItem.intoAttributeValues (item : UpsertableItem) : Item :=
  item.updateAttributes ∪ item.defaultAttributes

/-! ## The storage operations -/

/-- `to_item` of a call record; the room id is not serialised. -/
def CallRecord.toItem (call : CallRecord) : Item :=
  ((((∅ : Item).insert "creator" (.s call.creator)).insert "region"
    (.s call.backendRegion)).insert "backendIp" (.s call.backendIp)).insert
      "eraId" (.s call.eraId)

def Item.text (item : Item) (name : String) : Option String :=
  match item.lookup name with
  | some (.s text) => some text
  | _ => none

/-- `from_item` of a call record; other attributes are ignored. -/
def CallRecord.fromItem (item : Item) : Option CallRecord := do
  let roomId ← Item.text item "roomId"
  let eraId ← Item.text item "eraId"
  let backendIp ← Item.text item "backendIp"
  let backendRegion ← Item.text item "region"
  let creator ← Item.text item "creator"
  return { roomId, eraId, backendIp, backendRegion, creator }

def getCallRecord (table : DynamoTable) (fault : Option Fault)
    (roomId : RoomId) : Except StorageError (Option CallRecord) :=
  match fault with
  | some _ => .error (.unexpectedError "failed to get_item from storage")
  | none =>
      match table.lookup (roomId, .activeCall) with
      | none => .ok none
      | some item =>
          match CallRecord.fromItem item with
          | some call => .ok (some call)
          | none => .error
              (.unexpectedError "failed to convert item to CallRecord")

def getOrAddCallRecord (table : DynamoTable) (fault : Option Fault)
    (call : CallRecord) :
    Except Panic (DynamoTable × Except StorageError CallRecord) := do
  let callAsItem := UpsertableItem.withDefaults call.toItem
  let expression ← callAsItem.generateUpdateExpression
  match updateItem table fault (call.roomId, .activeCall) expression
      callAsItem.intoAttributeValues with
  | (next, .ok item) =>
      match CallRecord.fromItem item with
      | some stored => return (next, .ok stored)
      | none => return (next, .error
          (.unexpectedError "failed to convert item to CallRecord"))
  | (next, .error _) => return (next, .error (.unexpectedError
      "failed to update_item in storage for get_or_add_call_record"))

/-- A record that is gone or that has another era counts as removed. -/
def deleteOutcome : Except ServiceError Unit → Except StorageError Unit
  | .ok () => .ok ()
  | .error .conditionalCheckFailed => .ok ()
  | .error _ => .error (.unexpectedError "delete_item")

def removeCallRecord (table : DynamoTable) (fault : Option Fault)
    (key : CallRecordKey) : DynamoTable × Except StorageError Unit :=
  let (next, response) := deleteItem table fault key
  (next, deleteOutcome response)

def transactWriteItemsLimit : Nat := 100

/-- A transaction all of whose conditions failed counts as an earlier removal
of the batch. -/
def transactionOutcome : Except ServiceError Unit → Except StorageError Unit
  | .ok () => .ok ()
  | .error (.transactionCanceled reasons) =>
      if reasons.all (· = .conditionalCheckFailed) then .ok ()
      else .error (.unexpectedError "transact_write_items")
  | .error _ => .error (.unexpectedError "transact_write_items")

def removeBatchCallRecords (table : DynamoTable) (fault : Option Fault) :
    List CallRecordKey → DynamoTable × Except StorageError Unit
  | [] => (table, .ok ())
  | [key] => removeCallRecord table fault key
  | callKeys =>
      if transactWriteItemsLimit < callKeys.length then
        (table, .error
          (.batchLimitExceeded callKeys.length transactWriteItemsLimit))
      else
        let (next, response) := transactDeleteItems table fault callKeys
        (next, transactionOutcome response)

end CallingService.Frontend
