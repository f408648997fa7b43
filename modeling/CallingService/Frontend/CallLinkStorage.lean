import CallingService.Frontend.Storage

/-!
# Call links in DynamoDB

A call link is a second item beside the call record of its room.  Its requests
carry conditions, which the service evaluates on the item before it writes.
-/

namespace CallingService.Frontend

open Foundation

inductive CallLinkRestrictions where
  | none
  | adminApproval
deriving DecidableEq, Repr

def CallLinkRestrictions.text : CallLinkRestrictions → String
  | .none => "none"
  | .adminApproval => "adminApproval"

def CallLinkRestrictions.fromText (text : String) :
    Option CallLinkRestrictions :=
  if text = "none" then some .none
  else if text = "adminApproval" then some .adminApproval
  else Option.none

/-- Times are the seconds that are stored. -/
structure CallLinkState where
  adminPasskey : Bytes
  zkparams : Bytes
  restrictions : CallLinkRestrictions
  encryptedName : Bytes
  revoked : Bool
  expiration : Int
  deleteAt : Int
  /-- Empty unless the request asked for them. -/
  approvedUsers : List UserId
deriving DecidableEq, Repr

structure CallLinkUpdate where
  adminPasskey : Bytes
  restrictions : Option CallLinkRestrictions
  encryptedName : Option Bytes
  revoked : Option Bool
deriving DecidableEq, Repr

inductive CallLinkUpdateError where
  | roomDoesNotExist
  | adminPasskeyDidNotMatch
  | unexpectedError (context : String)
deriving DecidableEq, Repr

inductive CallLinkDeleteError where
  | roomDoesNotExist
  | adminPasskeyDidNotMatch
  | callRecordConflict
  | unexpectedError (context : String)
deriving DecidableEq, Repr

def callLinkRoomKey (roomId : RoomId) : RoomId :=
  if "adhoc:".toList.isPrefixOf roomId.toList then roomId
  else "adhoc:" ++ roomId

/-- The key of a call link, of the room that a client names. -/
def callLinkKey (roomId : RoomId) : ItemKey :=
  (callLinkRoomKey roomId, .callLinkState)

/-- The key of the call record of a call link. -/
def linkCallKey (roomId : RoomId) : ItemKey :=
  (callLinkRoomKey roomId, .activeCall)

/-! ## Conditional requests -/

/-- A condition expression; values are named as in the expression. -/
inductive Condition where
  | equals (name : String) (placeholder : String)
  | attributeExists (name : String)
  | attributeNotExists (name : String)
  | and (left right : Condition)
  | or (left right : Condition)
deriving DecidableEq, Repr

/-- Whether the item meets the condition; an item that does not exist has no
attributes, and a placeholder without a value equals nothing. -/
def Condition.holds (values : Item) (item : Item) : Condition → Bool
  | equals name placeholder =>
      (item.lookup name).isSome && item.lookup name = values.lookup placeholder
  | attributeExists name => (item.lookup name).isSome
  | attributeNotExists name => (item.lookup name).isNone
  | .and left right => left.holds values item && right.holds values item
  | .or left right => left.holds values item || right.holds values item

/-- The attributes that a condition sees: an item that exists has those of its
key. -/
def storedAttributes (table : DynamoTable) (key : ItemKey) : Item :=
  match table.lookup key with
  | none => ∅
  | some item => keyAttributes key ∪ item

def conditionHolds (table : DynamoTable) (key : ItemKey) (values : Item)
    (condition : Condition) : Bool :=
  condition.holds values (storedAttributes table key)

inductive UpdateExpression where
  | set (actions : List SetAction)
  | remove (names : List String)
deriving DecidableEq, Repr

def removeAttributes (item : Item) (names : List String) : Item :=
  names.foldl (fun rest name => rest.erase name) item

def UpdateExpression.apply (values old : Item) :
    UpdateExpression → Option Item
  | set actions => applySetActions values old actions old
  | .remove names => some (removeAttributes old names)

/-- A set of strings holds each of them once, and at least one. -/
def validValue : AttributeValue → Bool
  | .ss texts => texts ≠ [] && texts.Nodup
  | _ => true

/-- `update_item` with a condition. -/
def updateItemIf (table : DynamoTable) (fault : Option Fault) (key : ItemKey)
    (condition : Condition) (update : UpdateExpression) (values : Item) :
    DynamoTable × Except ServiceError Item :=
  match fault with
  | some injected => (table, .error injected.error)
  | none =>
      if values.values.all validValue = false then (table, .error .validation)
      else if conditionHolds table key values condition then
        match update.apply values
            ((table.lookup key).getD (keyAttributes key)) with
        | none => (table, .error .validation)
        | some item => (table.insert key item, .ok item)
      else (table, .error .conditionalCheckFailed)

def checkReason (passed : Bool) : CancellationReason :=
  if passed then .none else .conditionalCheckFailed

/-- `transact_write_items` with a conditional delete of one item and a check
of another one. -/
def transactDeleteAndCheck (table : DynamoTable) (fault : Option Fault)
    (deleteKey : ItemKey) (deleteCondition : Condition) (values : Item)
    (checkKey : ItemKey) (checkCondition : Condition) :
    DynamoTable × Except ServiceError Unit :=
  match fault with
  | some injected => (table, .error injected.error)
  | none =>
      let mayDelete := conditionHolds table deleteKey values deleteCondition
      let passes := conditionHolds table checkKey ∅ checkCondition
      if mayDelete && passes then (table.erase deleteKey, .ok ())
      else (table, .error (.transactionCanceled
        [checkReason mayDelete, checkReason passes]))

/-! ## Items -/

def secsPerDay : Nat := 60 * 60 * 24

namespace CallLinkState

def expirationTimer : Duration := fromSecs (secsPerDay * 90)

def deletionTimer : Duration := fromSecs (secsPerDay * 90)

/-- `now + EXPIRATION_TIMER` and then `+ DELETION_TIMER`, in seconds as they
are serialised. -/
def timesFrom (timestampSeconds : SystemTime → Int) (now : SystemTime) :
    Except Panic (Int × Int) := do
  let expiration ← okOr (now.checkedAdd expirationTimer) Panic.overflow
  let deleteAt ← okOr (expiration.checkedAdd deletionTimer) Panic.overflow
  return (timestampSeconds expiration, timestampSeconds deleteAt)

def new (timestampSeconds : SystemTime → Int) (adminPasskey zkparams : Bytes)
    (now : SystemTime) : Except Panic CallLinkState := do
  let times ← timesFrom timestampSeconds now
  return {
    adminPasskey := adminPasskey
    zkparams := zkparams
    restrictions := .none
    encryptedName := []
    revoked := false
    expiration := times.1
    deleteAt := times.2
    approvedUsers := [] }

/-- The list of approved users is left out when it is empty. -/
def toItem (state : CallLinkState) : Item :=
  let base := (((((((∅ : Item).insert "deleteAt" (.n state.deleteAt)).insert
    "expiration" (.n state.expiration)).insert
    "revoked" (.bool state.revoked)).insert
    "encryptedName" (.b state.encryptedName)).insert
    "restrictions" (.s state.restrictions.text)).insert
    "zkparams" (.b state.zkparams)).insert
    "adminPasskey" (.b state.adminPasskey)
  if state.approvedUsers = [] then base
  else base.insert "approvedUsers" (.l state.approvedUsers)

def bytesOf (item : Item) (name : String) : Option Bytes :=
  match item.lookup name with
  | some (.b bytes) => some bytes
  | _ => none

def numberOf (item : Item) (name : String) : Option Int :=
  match item.lookup name with
  | some (.n number) => some number
  | _ => none

def flagOf (item : Item) (name : String) : Option Bool :=
  match item.lookup name with
  | some (.bool flag) => some flag
  | _ => none

/-- A missing list is empty; a list and a set are read alike. -/
def approvedUsersOf (item : Item) : Option (List UserId) :=
  match item.lookup "approvedUsers" with
  | none => some []
  | some (.ss users) => some users
  | some (.l users) => some users
  | some _ => none

def fromItem (item : Item) : Option CallLinkState := do
  let adminPasskey ← bytesOf item "adminPasskey"
  let zkparams ← bytesOf item "zkparams"
  let restrictions ←
    (Item.text item "restrictions").bind CallLinkRestrictions.fromText
  let encryptedName ← bytesOf item "encryptedName"
  let revoked ← flagOf item "revoked"
  let expiration ← numberOf item "expiration"
  let deleteAt ← numberOf item "deleteAt"
  let approvedUsers ← approvedUsersOf item
  return {
    adminPasskey, zkparams, restrictions, encryptedName, revoked, expiration
    deleteAt, approvedUsers }

/-- The projection to `PEEK_ATTRIBUTES` leaves the approved users out. -/
def peeked (item : Item) : Item := item.erase "approvedUsers"

end CallLinkState

def insertIfSome (name : String) (value : Option AttributeValue)
    (item : Item) : Item :=
  match value with
  | some present => item.insert name present
  | none => item

/-- `to_item` of an update; what is not updated is left out. -/
def CallLinkUpdate.toItem (update : CallLinkUpdate) : Item :=
  insertIfSome "revoked" (update.revoked.map .bool)
    (insertIfSome "encryptedName" (update.encryptedName.map .b)
      (insertIfSome "restrictions"
        (update.restrictions.map fun restrictions => .s restrictions.text)
        ((∅ : Item).insert "adminPasskey" (.b update.adminPasskey))))

/-! ## The storage operations -/

/-- `from_item` of an item that may be missing. -/
def convertItem {α : Type} (fromItem : Item → Option α) (context : String) :
    Option Item → Except StorageError (Option α)
  | none => .ok none
  | some item => (okOr (fromItem item) (.unexpectedError context)).map some

/-- Both items of the room in one query. -/
def getCallLinkAndRecord (table : DynamoTable) (fault : Option Fault)
    (roomId : RoomId) (peekInfoOnly : Bool) :
    Except StorageError (Option CallLinkState × Option CallRecord) :=
  match fault with
  | some _ => .error (.unexpectedError
      "failed to query for call link and record from storage")
  | none => do
      let call ← convertItem CallRecord.fromItem
        "failed to convert item to CallRecord"
        (table.lookup (linkCallKey roomId))
      let state ← convertItem
        (fun item => CallLinkState.fromItem
          (if peekInfoOnly then CallLinkState.peeked item else item))
        "failed to convert item to CallLinkState"
        (table.lookup (callLinkKey roomId))
      return (state, call)

theorem convertItem_eq_ok {α : Type} {fromItem : Item → Option α}
    {context : String} {item : Option Item} {result : Option α}
    (converted : convertItem fromItem context item = .ok result) :
    result.isSome = item.isSome := by
  cases item with
  | none =>
      cases converted
      rfl
  | some present =>
      change (okOr (fromItem present)
        (StorageError.unexpectedError context)).map some = _ at converted
      cases value : fromItem present with
      | none =>
          rw [value] at converted
          cases converted
      | some found =>
          rw [value] at converted
          cases converted
          rfl

/-- The item to upsert and the condition on it. -/
def updateCallLinkRequest (timestampSeconds : SystemTime → Int)
    (newAttributes : CallLinkUpdate) (zkparamsForCreation : Option Bytes)
    (now : SystemTime) : Except Panic (UpsertableItem × Condition) :=
  match zkparamsForCreation with
  | some zkparams => do
      let created ← CallLinkState.new timestampSeconds
        newAttributes.adminPasskey zkparams now
      return (⟨newAttributes.toItem, created.toItem⟩,
        .and (.or (.equals "adminPasskey" "adminPasskey")
            (.attributeNotExists "adminPasskey"))
          (.or (.equals "zkparams" "zkparams")
            (.attributeNotExists "zkparams")))
  | none => .ok (⟨newAttributes.toItem, ∅⟩,
      .equals "adminPasskey" "adminPasskey")

/-- How a call of `update_call_link` goes on after its first request. -/
inductive UpdateProgress where
  | updated (state : CallLinkState)
  | failed (error : CallLinkUpdateError)
  /-- The condition failed: check whether the room exists. -/
  | checkRoom
deriving DecidableEq, Repr

def updateProgress (mustExist : Bool) :
    Except ServiceError Item → UpdateProgress
  | .ok item =>
      match CallLinkState.fromItem item with
      | some state => .updated state
      | none => .failed
          (.unexpectedError "failed to convert item to CallLinkState")
  | .error .conditionalCheckFailed =>
      if mustExist then .checkRoom else .failed .adminPasskeyDidNotMatch
  | .error _ => .failed (.unexpectedError
      "failed to update_item in storage for update_call_link")

/-- The first request of `update_call_link`. -/
def updateCallLink (timestampSeconds : SystemTime → Int)
    (table : DynamoTable) (fault : Option Fault) (roomId : RoomId)
    (newAttributes : CallLinkUpdate) (zkparamsForCreation : Option Bytes)
    (now : SystemTime) : Except Panic (DynamoTable × UpdateProgress) := do
  let request ← updateCallLinkRequest timestampSeconds newAttributes
    zkparamsForCreation now
  let expression ← request.1.generateUpdateExpression
  let response := updateItemIf table fault (callLinkKey roomId) request.2
    (.set expression) request.1.intoAttributeValues
  return (response.1,
    updateProgress zkparamsForCreation.isNone response.2)

/-- How a call of `delete_call_link` goes on after its transaction. -/
inductive DeleteProgress where
  | deleted
  | failed (error : CallLinkDeleteError)
  | checkRoom
deriving DecidableEq, Repr

def deleteProgress : Except ServiceError Unit → DeleteProgress
  | .ok () => .deleted
  | .error (.transactionCanceled (.conditionalCheckFailed :: _)) => .checkRoom
  | .error (.transactionCanceled (_ :: .conditionalCheckFailed :: _)) =>
      .failed .callRecordConflict
  | .error _ => .failed (.unexpectedError "transact_write_items")

/-- The transaction of `delete_call_link`. -/
def deleteCallLink (table : DynamoTable) (fault : Option Fault)
    (roomId : RoomId) (adminPasskey : Bytes) :
    DynamoTable × DeleteProgress :=
  let response := transactDeleteAndCheck table fault (callLinkKey roomId)
    (.equals "adminPasskey" "adminPassKey")
    ((∅ : Item).insert "adminPassKey" (.b adminPasskey))
    (linkCallKey roomId) (.attributeNotExists "roomId")
  (response.1, deleteProgress response.2)

/-- The error of an update that needs an existing room. -/
def existingRoomOutcome (context : String) :
    Except ServiceError Item → Except CallLinkUpdateError Unit
  | .ok _ => .ok ()
  | .error .conditionalCheckFailed => .error .roomDoesNotExist
  | .error _ => .error (.unexpectedError context)

def resetCallLinkExpiration (timestampSeconds : SystemTime → Int)
    (table : DynamoTable) (fault : Option Fault) (roomId : RoomId)
    (now : SystemTime) :
    Except Panic (DynamoTable × Except CallLinkUpdateError Unit) := do
  let times ← CallLinkState.timesFrom timestampSeconds now
  let response := updateItemIf table fault (callLinkKey roomId)
    (.attributeExists "recordType")
    (.set [.assign "expiration", .assign "deleteAt"])
    (((∅ : Item).insert "deleteAt" (.n times.2)).insert "expiration"
      (.n times.1))
  return (response.1, existingRoomOutcome
    "failed to update_item in storage for reset_call_link_expiration"
    response.2)

def updateCallLinkApprovedUsers (table : DynamoTable) (fault : Option Fault)
    (roomId : RoomId) (approvedUsers : List UserId) :
    DynamoTable × Except CallLinkUpdateError Unit :=
  let response :=
    if approvedUsers = [] then
      updateItemIf table fault (callLinkKey roomId)
        (.attributeExists "recordType") (.remove ["approvedUsers"]) ∅
    else
      updateItemIf table fault (callLinkKey roomId)
        (.attributeExists "recordType") (.set [.assign "approvedUsers"])
        ((∅ : Item).insert "approvedUsers" (.ss approvedUsers))
  (response.1, existingRoomOutcome
    "failed to update_item in storage for update_call_link_approved_users"
    response.2)

end CallingService.Frontend
