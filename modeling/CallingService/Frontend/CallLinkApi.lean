import CallingService.Foundation.Run
import CallingService.Frontend.CallLinkStorage

/-!
# Requests about call links

A join, an update and a deletion each take several requests to the store, with
requests of others in between.  The state of the frontends is the table and
the requests that are still to be made.
-/

namespace CallingService.Frontend

open Foundation

inductive StatusCode where
  | badRequest
  | payloadTooLarge
  | unauthorized
  | forbidden
  | conflict
  | internalServerError
deriving DecidableEq, Repr

/-- What the handlers take from outside of the repository: credentials, their
parameters and the serialisation of times. -/
structure LinkExternals where
  AuthCredential : Type
  CreateCredential : Type
  PublicParams : Type
  deserialize : Bytes → Option PublicParams
  /-- With fixed-size integers. -/
  deserializeFixint : Bytes → Option PublicParams
  verifyAuth : AuthCredential → SystemTime → PublicParams → Bool
  verifyCreate : CreateCredential → Bytes → SystemTime → PublicParams → Bool
  userIdOf : AuthCredential → UserId
  timestampSeconds : SystemTime → Int

def adminPasskeyLimit : Nat := 32

def callLinkNameLimit : Nat := 256

def aesTagAndSaltOverhead : Nat := 32

/-- `hex::decode` of a room id. -/
def decodeRoomId (roomId : RoomId) : Option Bytes :=
  if roomId.toList.all (·.toNat < 128) then
    decodeHex (roomId.toList.map (·.toNat.toUInt8))
  else none

variable (externals : LinkExternals)

def verifyAuthCredentialAgainstZkparams
    (credential : externals.AuthCredential) (existing : CallLinkState)
    (now : SystemTime) : Except StatusCode Unit := do
  let params ← okOr (externals.deserialize existing.zkparams)
    .internalServerError
  ensure (externals.verifyAuth credential now params = true) .forbidden

/-! ## Joins -/

structure LinkJoinRequest where
  roomId : RoomId
  credential : externals.AuthCredential
  adminPasskey : Option Bytes
  now : SystemTime

/-- What the backend is told about the client. -/
structure LinkJoin where
  userId : UserId
  restrictions : CallLinkRestrictions
  isAdmin : Bool
  approvedUsers : List UserId
deriving DecidableEq, Repr

inductive JoinProgress where
  | refused (status : StatusCode)
  | notFound (reason : String)
  | found (call : CallRecord) (join : LinkJoin)
  /-- There is no call: its record is to be created. -/
  | create (join : LinkJoin)
deriving DecidableEq, Repr

def CallLinkState.isOver (state : CallLinkState) (now : SystemTime) : Bool :=
  state.revoked || decide (state.expiration * nanosPerSec < now.nanos)

def joinRead (table : DynamoTable) (fault : Option Fault)
    (request : LinkJoinRequest externals) : JoinProgress :=
  match getCallLinkAndRecord table fault request.roomId false with
  | .error _ => .refused .internalServerError
  | .ok (none, _) => .notFound "invalid"
  | .ok (some state, call) =>
      match verifyAuthCredentialAgainstZkparams externals request.credential
          state request.now with
      | .error status => .refused status
      | .ok () =>
          if state.isOver request.now then .notFound "expired"
          else
            let join : LinkJoin := {
              userId := externals.userIdOf request.credential
              restrictions := state.restrictions
              isAdmin := request.adminPasskey = some state.adminPasskey
              approvedUsers := state.approvedUsers }
            match call with
            | some existing => .found existing join
            | none => .create join

/-- The record that a join proposes. -/
def proposedRecord (roomId : RoomId) (join : LinkJoin)
    (eraId backendIp backendRegion : String) : CallRecord where
  roomId := callLinkRoomKey roomId
  eraId := eraId
  backendIp := backendIp
  backendRegion := backendRegion
  creator := join.userId

/-! ## Updates -/

structure LinkUpdateRequest where
  roomId : RoomId
  adminPasskey : Bytes
  zkparams : Option Bytes
  restrictions : Option CallLinkRestrictions
  name : Option Bytes
  revoked : Option Bool
deriving DecidableEq, Repr

inductive UpdateCredential where
  | create (credential : externals.CreateCredential)
  | auth (credential : externals.AuthCredential)
  | missing

def LinkUpdateRequest.toUpdate (request : LinkUpdateRequest) :
    CallLinkUpdate where
  adminPasskey := request.adminPasskey
  restrictions := request.restrictions
  encryptedName := request.name
  revoked := request.revoked

/-- The bytes of the room id, if the request is well-formed. -/
def LinkUpdateRequest.validate (request : LinkUpdateRequest) :
    Except StatusCode Bytes := do
  let roomIdBytes ← okOr (decodeRoomId request.roomId) .badRequest
  ensure (request.adminPasskey.length ≤ adminPasskeyLimit) .payloadTooLarge
  ensure (∀ name ∈ request.name,
    name.length ≤ callLinkNameLimit + aesTagAndSaltOverhead) .payloadTooLarge
  return roomIdBytes

/-- A creation brings its own parameters, and asks for approval by an admin
unless it says otherwise. -/
def createPrecondition (request : LinkUpdateRequest) (roomIdBytes : Bytes)
    (credential : externals.CreateCredential) (now : SystemTime) :
    Except StatusCode (CallLinkUpdate × Option Bytes) := do
  let params ← okOr (request.zkparams.bind externals.deserializeFixint)
    .badRequest
  ensure (externals.verifyCreate credential roomIdBytes now params = true)
    .unauthorized
  return ({ request.toUpdate with
    restrictions := some (request.restrictions.getD .adminApproval) },
    request.zkparams)

/-- An update of an existing link reads it and the record of its call. -/
def authPrecondition (table : DynamoTable) (fault : Option Fault)
    (request : LinkUpdateRequest) (credential : externals.AuthCredential)
    (now : SystemTime) : Except StatusCode (CallLinkUpdate × Option Bytes) := do
  ensure (request.zkparams = none) .badRequest
  let read ← (getCallLinkAndRecord table fault request.roomId true).mapError
    fun _ => .internalServerError
  let existing ← okOr read.1 .unauthorized
  verifyAuthCredentialAgainstZkparams externals credential existing now
  ensure (¬ (read.2.isSome = true ∧ request.restrictions.isSome = true))
    .conflict
  return (request.toUpdate, none)

/-- The update to write and the parameters of a creation. -/
def updatePrecondition (table : DynamoTable) (fault : Option Fault)
    (request : LinkUpdateRequest) (credential : UpdateCredential externals)
    (now : SystemTime) : Except StatusCode (CallLinkUpdate × Option Bytes) := do
  let roomIdBytes ← request.validate
  match credential with
  | .create created =>
      createPrecondition externals request roomIdBytes created now
  | .auth presented =>
      authPrecondition externals table fault request presented now
  | .missing => .error .unauthorized

/-! ## Deletions -/

structure LinkDeleteRequest where
  roomId : RoomId
  adminPasskey : Bytes
deriving DecidableEq, Repr

/-- Whether there is a link to delete; a missing one counts as deleted. -/
def deletePrecondition (table : DynamoTable) (fault : Option Fault)
    (request : LinkDeleteRequest)
    (credential : Option externals.AuthCredential) (now : SystemTime) :
    Except StatusCode Bool := do
  let _ ← okOr (decodeRoomId request.roomId) .badRequest
  ensure (request.adminPasskey.length ≤ adminPasskeyLimit) .payloadTooLarge
  let presented ← okOr credential .unauthorized
  let read ← (getCallLinkAndRecord table fault request.roomId true).mapError
    fun _ => .internalServerError
  match read.1 with
  | none => return false
  | some existing => do
      verifyAuthCredentialAgainstZkparams externals presented existing now
      ensure (read.2.isSome = false) .conflict
      return true

/-! ## The frontends -/

/-- A request to the store that a handler is about to make. -/
inductive LinkTask where
  | createRecord (roomId : RoomId) (join : LinkJoin) (now : SystemTime)
  | resetExpiration (roomId : RoomId) (now : SystemTime)
  | updateLink (roomId : RoomId) (update : CallLinkUpdate)
      (zkparamsForCreation : Option Bytes)
  | deleteLink (roomId : RoomId) (adminPasskey : Bytes)

structure LinkSystem where
  table : DynamoTable
  tasks : List LinkTask

inductive LinkEvent where
  | join (request : LinkJoinRequest externals) (fault : Option Fault)
  | createRecord (roomId : RoomId) (join : LinkJoin) (now : SystemTime)
      (eraId backendIp backendRegion : String) (fault : Option Fault)
  | resetExpiration (roomId : RoomId) (now : SystemTime)
      (fault : Option Fault)
  | update (request : LinkUpdateRequest)
      (credential : UpdateCredential externals) (now : SystemTime)
      (fault : Option Fault)
  | updateLink (roomId : RoomId) (update : CallLinkUpdate)
      (zkparamsForCreation : Option Bytes) (now : SystemTime)
      (fault : Option Fault)
  | delete (request : LinkDeleteRequest)
      (credential : Option externals.AuthCredential) (now : SystemTime)
      (fault : Option Fault)
  | deleteLink (roomId : RoomId) (adminPasskey : Bytes)
      (fault : Option Fault)
  /-- A record whose call has ended is removed. -/
  | removeCallRecord (key : CallRecordKey) (fault : Option Fault)

/-- The first request of a handler, and what it leaves to do. -/
def LinkSystem.start (before : LinkSystem) (task : Option LinkTask) :
    LinkSystem :=
  { before with tasks := before.tasks ++ task.toList }

/-- `before` makes the request of the task and gets the table. -/
def Performs (before : LinkSystem) (task : LinkTask) (table : DynamoTable)
    (next : Option LinkTask) (after : LinkSystem) : Prop :=
  ∃ earlier later, before.tasks = earlier ++ task :: later ∧
    after = ⟨table, earlier ++ later ++ next.toList⟩

/-- What a join leaves to do after its read. -/
def joinTask (request : LinkJoinRequest externals) :
    JoinProgress → Option LinkTask
  | .create join => some (.createRecord request.roomId join request.now)
  | _ => none

/-- The expiration is reset in the background when a call has been
started. -/
def resetTask (roomId : RoomId) (now : SystemTime) :
    Except StorageError CallRecord → Option LinkTask
  | .ok _ => some (.resetExpiration roomId now)
  | .error _ => none

def updateTask (roomId : RoomId) :
    Except StatusCode (CallLinkUpdate × Option Bytes) → Option LinkTask
  | .ok (update, zkparamsForCreation) =>
      some (.updateLink roomId update zkparamsForCreation)
  | .error _ => none

def deleteTask (request : LinkDeleteRequest) :
    Except StatusCode Bool → Option LinkTask
  | .ok true => some (.deleteLink request.roomId request.adminPasskey)
  | _ => none

def LinkSystemStep (before : LinkSystem) (event : LinkEvent externals)
    (after : LinkSystem) : Prop :=
  match event with
  | .join request fault =>
      after = before.start (joinTask externals request
        (joinRead externals before.table fault request))
  | .createRecord roomId join now eraId backendIp backendRegion fault =>
      ∃ table outcome,
        getOrAddCallRecord before.table fault
          (proposedRecord roomId join eraId backendIp backendRegion) =
            .ok (table, outcome) ∧
        Performs before (.createRecord roomId join now) table
          (resetTask roomId now outcome) after
  | .resetExpiration roomId now fault =>
      ∃ table outcome,
        resetCallLinkExpiration externals.timestampSeconds before.table fault
          roomId now = .ok (table, outcome) ∧
        Performs before (.resetExpiration roomId now) table none after
  | .update request credential now fault =>
      after = before.start (updateTask request.roomId
        (updatePrecondition externals before.table fault request credential
          now))
  | .updateLink roomId update zkparamsForCreation now fault =>
      ∃ table progress,
        updateCallLink externals.timestampSeconds before.table fault roomId
          update zkparamsForCreation now = .ok (table, progress) ∧
        Performs before (.updateLink roomId update zkparamsForCreation) table
          none after
  | .delete request credential now fault =>
      after = before.start (deleteTask request
        (deletePrecondition externals before.table fault request credential
          now))
  | .deleteLink roomId adminPasskey fault =>
      Performs before (.deleteLink roomId adminPasskey)
        (deleteCallLink before.table fault roomId adminPasskey).1 none after
  | .removeCallRecord key fault =>
      after = { before with
        table := (removeCallRecord before.table fault key).1 }

end CallingService.Frontend
