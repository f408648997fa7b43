import CallingService.Backend.Call.Layer
import CallingService.Foundation.Handlers
import CallingService.Foundation.Slices
import CallingService.Frontend.Authenticator
import CallingService.Frontend.CallLinkApi

/-!
# Requests about conferences

The handlers of joins, of lists of participants and of removals, and a pass of
the cleaner.  They ask the store, the backends, the clock and the generator of
identifiers, one question at a time.
-/

namespace CallingService.Frontend

open Foundation Foundation.FallibleHandler Backend

/-! ## Data -/

structure Config where
  region : String
  regionalUrlTemplate : String
  maxClientsPerCall : UInt32
deriving DecidableEq, Repr

/-- A name of a room that is no key of a call link.  `authorize` refuses a
header with a colon. -/
structure PlainRoomId where
  text : RoomId
  noColon : ':' ∉ text.toList
deriving DecidableEq

/-- `UserAuthorization` with its fields as texts. -/
structure GroupAuthorization where
  userId : UserId
  roomId : PlainRoomId
  userPermission : UserPermission
deriving DecidableEq

/-- `str::from_utf8`. -/
def textOf (bytes : Bytes) : Option String :=
  String.fromUTF8? bytes.toByteArray

theorem colon_mem_of_textOf {bytes : Bytes} {text : String}
    (read : textOf bytes = some text) (member : ':' ∈ text.toList) :
    colon ∈ bytes := by
  unfold textOf String.fromUTF8? at read
  split at read
  · cases read
    rename_i valid
    have encoded : (String.fromUTF8 bytes.toByteArray valid).toList.utf8Encode
        = bytes.toByteArray := String.utf8Encode_toList
    rw [List.utf8Encode, List.toByteArray_inj] at encoded
    rw [← encoded]
    exact List.mem_flatMap.mpr ⟨':', member, by decide⟩
  · cases read

/-- The room that a token names has no colon, as the token is split there. -/
theorem noColon_of_fromStr {crypto : AuthCrypto} {password : Bytes}
    {token : GroupAuthToken} {text : String}
    (parsed : GroupAuthToken.fromStr crypto password = .ok token)
    (read : textOf token.groupId = some text) : ':' ∉ text.toList := by
  intro member
  obtain ⟨before, _, known⟩ := fromStr_eq_ok parsed
  obtain ⟨version, timeUnixSecs, permission, _, fields, -⟩ := known.fields
  have isField : token.groupId ∈ before.splitOn colon := by
    rw [fields]
    simp
  exact not_mem_of_mem_splitOn isField (colon_mem_of_textOf read member)

/-- Addresses and texts of the network libraries. -/
structure ConferenceExternals extends LinkExternals where
  Address : Type
  parseAddress : String → Option Address
  encode : String → String
  isHeaderValue : String → Bool

inductive BackendError where
  | callNotFound
  | unexpectedError
  | timeout
deriving DecidableEq, Repr

/-- `JoinRequest` of the API. -/
structure JoinRequest where
  adminPasskey : Option Bytes
  iceUfrag : String
  dhePublicKey : String
  hkdfExtraInfo : Option String
deriving DecidableEq, Repr

structure JoinRequestWrapper where
  iceUfrag : String
  dhePublicKey : String
  hkdfExtraInfo : Option String
  region : String
  restrictions : CallLinkRestrictions
  isAdmin : Bool
  approvedUsers : Option (List UserId)
deriving DecidableEq, Repr

/-- `JoinRequest` of the backend. -/
structure BackendJoinRequest where
  userId : UserId
  iceUfrag : String
  dhePublicKey : Option String
  hkdfExtraInfo : Option String
  region : String
  newClientsRequireApproval : Bool
  isAdmin : Bool
  roomId : RoomId
  approvedUsers : Option (List UserId)
deriving DecidableEq, Repr

/-- `JoinResponse` of the backend. -/
structure BackendJoinResponse where
  ips : List String
  port : UInt16
  portTcp : UInt16
  portTls : Option UInt16
  hostname : Option String
  iceUfrag : String
  icePwd : String
  dhePublicKey : String
  clientStatus : String
deriving DecidableEq, Repr

structure JoinResponseWrapper extends BackendJoinResponse where
  demuxId : UInt32
deriving DecidableEq, Repr

/-- `JoinResponse` of the API. -/
structure JoinResponse extends JoinResponseWrapper where
  callCreator : UserId
  eraId : EraId
deriving DecidableEq, Repr

structure BackendClientInfo where
  demuxId : UInt32
  userId : Option UserId
deriving DecidableEq, Repr

structure ClientsResponse where
  userIds : List UserId
  demuxIds : List UInt32
  pendingClients : List BackendClientInfo
deriving DecidableEq, Repr

structure ClientInfo where
  opaqueUserId : Option UserId
  demuxId : DemuxId
deriving DecidableEq, Repr

structure ClientsResponseWrapper where
  activeClients : List ClientInfo
  pendingClients : List ClientInfo
deriving DecidableEq, Repr

structure Participant where
  opaqueUserId : Option UserId
  demuxId : UInt32
deriving DecidableEq, Repr

/-- The state of a call link as the API gives it. -/
structure LinkStateResponse where
  restrictions : CallLinkRestrictions
  name : Bytes
  revoked : Bool
  expiration : Int
  deleteAt : Int
deriving DecidableEq, Repr

def CallLinkState.response (state : CallLinkState) : LinkStateResponse where
  restrictions := state.restrictions
  name := state.encryptedName
  revoked := state.revoked
  expiration := state.expiration
  deleteAt := state.deleteAt

structure ParticipantsResponse where
  eraId : EraId
  maxDevices : UInt32
  participants : List Participant
  creator : UserId
  pendingClients : List Participant
  callLinkState : Option LinkStateResponse
deriving DecidableEq, Repr

inductive FrontendError where
  | callNotFound
  | noPermissionToCreateCall
  | internalError
deriving DecidableEq, Repr

/-- A response other than success. -/
inductive Refusal where
  | status (code : StatusCode)
  | notFound (reason : Option String)
  | temporaryRedirect (uri : String)
deriving DecidableEq, Repr

def FrontendError.refusal : FrontendError → Refusal
  | .callNotFound => .notFound none
  | .noPermissionToCreateCall => .status .forbidden
  | .internalError => .status .internalServerError

inductive Reply where
  | refused (refusal : Refusal)
  | joined (response : JoinResponse)
  | participants (response : ParticipantsResponse)
  | ok
deriving DecidableEq, Repr

/-! ## Questions -/

variable (externals : ConferenceExternals)

inductive Question where
  | now
  | randomU32
  | randomHexString (length : Nat)
  | selectIp
  | joinClient (address : externals.Address) (eraId : EraId)
      (demuxId : DemuxId) (request : BackendJoinRequest)
  | getClients (address : externals.Address) (eraId : EraId)
      (userId : Option UserId)
  | getCallRecord (roomId : RoomId)
  | getOrAddCallRecord (call : CallRecord)
  | removeCallRecord (key : CallRecordKey)
  | removeBatchCallRecords (keys : List CallRecordKey)
  | getCallRecordsForRegion (region : String)
  | getCallLinkAndRecord (roomId : RoomId) (peekInfoOnly : Bool)
  | updateCallLinkApprovedUsers (roomId : RoomId)
      (approvedUsers : List UserId)
  /-- Reset the expiration of a link in a task of its own. -/
  | spawnReset (roomId : RoomId) (now : SystemTime)
  /-- The order in which concurrent tasks about these calls complete. -/
  | completionOrder (calls : List CallRecord)

@[reducible] def Question.Answer : Question externals → Type
  | .now => SystemTime
  | .randomU32 => UInt32
  | .randomHexString _ => String
  | .selectIp => Except BackendError String
  | .joinClient _ _ _ _ => Except BackendError BackendJoinResponse
  | .getClients _ _ _ => Except BackendError ClientsResponse
  | .getCallRecord _ => Except StorageError (Option CallRecord)
  | .getOrAddCallRecord _ => Except StorageError CallRecord
  | .removeCallRecord _ => Except StorageError Unit
  | .removeBatchCallRecords _ => Except StorageError Unit
  | .getCallRecordsForRegion _ => Except StorageError (List CallRecord)
  | .getCallLinkAndRecord _ _ =>
      Except StorageError (Option CallLinkState × Option CallRecord)
  | .updateCallLinkApprovedUsers _ _ => Except CallLinkUpdateError Unit
  | .spawnReset _ _ => Unit
  | .completionOrder calls =>
      { ordered : List CallRecord // ordered.Perm calls }

abbrev ConferenceHandler :=
  Handler (Question externals) (Question.Answer externals)

abbrev FallibleConference (ε : Type) :=
  FallibleHandler (Question externals) (Question.Answer externals) ε

variable {externals}

def ask (question : Question externals) :
    ConferenceHandler externals (question.Answer externals) :=
  Handler.question question

/-! ## The calls of the frontend -/

variable (externals)

/-- `get_random_demux_id`; the mask is that of an SSRC. -/
def getRandomDemuxId {ε : Type} : FallibleConference externals ε DemuxId := do
  let unmaskedId ← query .randomU32
  return DemuxId.fromSsrc unmaskedId

def getCallRecordOrNotFound (roomId : RoomId) :
    FallibleConference externals FrontendError CallRecord := do
  let found ← orFail .internalError (ask (.getCallRecord roomId))
  ofResult (okOr found .callNotFound)

def getOrCreateCallRecord (config : Config) (roomId : RoomId)
    (canCreate : Bool) (userId : UserId) :
    FallibleConference externals FrontendError CallRecord :=
  if canCreate then do
    let backendIp ← orFail .internalError (ask .selectIp)
    let eraId ← query (.randomHexString 16)
    let callRecord : CallRecord := {
      roomId := roomId
      eraId := eraId
      backendIp := backendIp
      backendRegion := config.region
      creator := userId }
    orFail .internalError (ask (.getOrAddCallRecord callRecord))
  else do
    let found ← orFail .internalError (ask (.getCallRecord roomId))
    ofResult (okOr found .noPermissionToCreateCall)

def getOrCreateCallLinkCallRecord (config : Config) (roomId : RoomId)
    (canCreate : Bool) (userId : UserId) :
    FallibleConference externals FrontendError CallRecord :=
  getOrCreateCallRecord externals config (callLinkRoomKey roomId) canCreate
    userId

/-- `DemuxId::try_from`. -/
def demuxIdOf (raw : UInt32) : Option DemuxId :=
  if lowBitsClear : raw &&& 0b1111 = 0 then some ⟨raw, lowBitsClear⟩ else none

def clientsOf (response : ClientsResponse) : Option ClientsResponseWrapper :=
  if response.demuxIds.length ≠ response.userIds.length then none
  else do
    let activeClients ← (response.userIds.zip response.demuxIds).mapM
      fun (userId, raw) => (demuxIdOf raw).map (⟨some userId, ·⟩)
    let pendingClients ← response.pendingClients.mapM
      fun client => (demuxIdOf client.demuxId).map (⟨client.userId, ·⟩)
    return ⟨activeClients, pendingClients⟩

/-- A call that the backend does not know loses its record. -/
def clientsOutcome (call : CallRecord) :
    Except BackendError ClientsResponse →
      FallibleConference externals FrontendError ClientsResponseWrapper
  | .ok response => ofResult (okOr (clientsOf response) .internalError)
  | .error .callNotFound => do
      let _ ← query (.removeCallRecord ⟨call.roomId, call.eraId⟩)
      throw .callNotFound
  | .error _ => throw .internalError

def getClientIdsInCall (call : CallRecord) (userId : UserId) :
    FallibleConference externals FrontendError ClientsResponseWrapper := do
  let backendAddress ←
    ofResult (okOr (externals.parseAddress call.backendIp) .internalError)
  let answer ← query (.getClients backendAddress call.eraId (some userId))
  clientsOutcome externals call answer

def backendJoinRequest (userId : UserId) (call : CallRecord)
    (request : JoinRequestWrapper) : BackendJoinRequest where
  userId := userId
  iceUfrag := request.iceUfrag
  dhePublicKey := some request.dhePublicKey
  hkdfExtraInfo := request.hkdfExtraInfo
  region := request.region
  newClientsRequireApproval := request.restrictions = .adminApproval
  isAdmin := request.isAdmin
  roomId := call.roomId
  approvedUsers := request.approvedUsers

def joinClientToCall (userId : UserId) (call : CallRecord)
    (request : JoinRequestWrapper) :
    FallibleConference externals FrontendError JoinResponseWrapper := do
  let demuxId ← getRandomDemuxId externals
  let backendAddress ←
    ofResult (okOr (externals.parseAddress call.backendIp) .internalError)
  let response ← orFail .internalError
    (ask (.joinClient backendAddress call.eraId demuxId
      (backendJoinRequest userId call request)))
  return { response with demuxId := demuxId.raw }

/-- `get_redirect_uri`. -/
def getRedirectUri (config : Config) (backendRegion path : String) :
    Option String :=
  if backendRegion ≠ config.region then
    some (config.regionalUrlTemplate.replace "<region>" backendRegion ++ path
      ++ "?region=" ++ externals.encode config.region)
  else none

def temporaryRedirect (uri : String) : Refusal :=
  if externals.isHeaderValue uri then .temporaryRedirect uri
  else .status .internalServerError

/-- A call of another region is left to the frontend there. -/
def redirected (config : Config) (call : CallRecord) (path : String) :
    Except Refusal Unit :=
  match getRedirectUri externals config call.backendRegion path with
  | some uri => .error (temporaryRedirect externals uri)
  | none => .ok ()

/-! ## Joins -/

/-- What a handler knows of the client once its credential is accepted. -/
structure Admission where
  call : CallRecord
  userId : UserId
  restrictions : CallLinkRestrictions
  isAdmin : Bool
  approvedUsers : Option (List UserId)
deriving DecidableEq, Repr

def groupAdmission (config : Config) (authorization : GroupAuthorization) :
    FallibleConference externals Refusal Admission := do
  let call ← (getOrCreateCallRecord externals config
    authorization.roomId.text authorization.userPermission.canCreate
    authorization.userId).adapt FrontendError.refusal
  return ⟨call, authorization.userId, .none, false, none⟩

/-- Start the call of a link. -/
def startLinkCall (config : Config) (roomId : RoomId) (userId : UserId)
    (now : SystemTime) : FallibleConference externals Refusal CallRecord := do
  let call ← (getOrCreateCallLinkCallRecord externals config roomId true
    userId).adapt FrontendError.refusal
  let _ ← query (.spawnReset roomId now)
  return call

/-- The link that was read, of which there must be one. -/
def readLink :
    Except StorageError (Option CallLinkState × Option CallRecord) →
      Except Refusal (CallLinkState × Option CallRecord)
  | .ok (some state, call) => .ok (state, call)
  | .ok (none, _) => .error (.notFound (some "invalid"))
  | .error _ => .error (.status .internalServerError)

def verifyCredential (credential : externals.AuthCredential)
    (state : CallLinkState) (now : SystemTime) : Except Refusal Unit :=
  (verifyAuthCredentialAgainstZkparams externals.toLinkExternals credential
    state now).mapError .status

def linkAdmission (config : Config) (credential : externals.AuthCredential)
    (roomId : PlainRoomId) (adminPasskey : Option Bytes) (now : SystemTime) :
    FallibleConference externals Refusal Admission := do
  let answer ← query (.getCallLinkAndRecord roomId.text false)
  let (state, found) ← ofResult (readLink answer)
  let currentTime ← query .now
  ofResult (verifyCredential externals credential state currentTime)
  ofResult (ensure (state.isOver now = false) (.notFound (some "expired")))
  let userId := externals.userIdOf credential
  let call ← found.elim
    (startLinkCall externals config roomId.text userId now) pure
  return {
    call := call
    userId := userId
    restrictions := state.restrictions
    isAdmin := adminPasskey = some state.adminPasskey
    approvedUsers := some state.approvedUsers }

/-- Who asks for which room: the extensions that the middleware adds and the
header of the room. -/
structure Caller where
  groupAuth : Option GroupAuthorization
  callLinksAuth : Option externals.AuthCredential
  roomId : Option PlainRoomId

def admission (config : Config) (caller : Caller externals)
    (adminPasskey : Option Bytes) (now : SystemTime) :
    FallibleConference externals Refusal Admission :=
  match caller with
  | ⟨some authorization, none, none⟩ =>
      groupAdmission externals config authorization
  | ⟨none, some credential, some roomId⟩ =>
      linkAdmission externals config credential roomId adminPasskey now
  | ⟨_, none, some _⟩ => throw (.status .unauthorized)
  | _ => throw (.status .badRequest)

def joinRequestWrapper (request : JoinRequest) (region : String)
    (admitted : Admission) : JoinRequestWrapper where
  iceUfrag := request.iceUfrag
  dhePublicKey := request.dhePublicKey
  hkdfExtraInfo := request.hkdfExtraInfo
  region := region
  restrictions := admitted.restrictions
  isAdmin := admitted.isAdmin
  approvedUsers := admitted.approvedUsers

def join (config : Config) (caller : Caller externals) (path : String)
    (region : Option String) (request : JoinRequest) :
    FallibleConference externals Refusal JoinResponse := do
  ofResult (ensure (request.dhePublicKey ≠ "") (.status .badRequest))
  let now ← query .now
  let admitted ← admission externals config caller request.adminPasskey now
  ofResult (redirected externals config admitted.call path)
  let response ← (joinClientToCall externals admitted.userId admitted.call
    (joinRequestWrapper request (region.getD config.region)
      admitted)).adapt FrontendError.refusal
  return { response with
    callCreator := admitted.call.creator
    eraId := admitted.call.eraId }

/-! ## Participants -/

/-- The call of a link, which may be over or not have begun. -/
def linkCall (state : CallLinkState) :
    Option CallRecord → FallibleConference externals Refusal CallRecord
  | some call => return call
  | none => do
      let now ← query .now
      throw (.notFound (if state.isOver now then some "expired" else none))

def participantsTarget (caller : Caller externals) :
    FallibleConference externals Refusal
      (CallRecord × UserId × Option CallLinkState) :=
  match caller with
  | ⟨some authorization, none, none⟩ => do
      let call ← (getCallRecordOrNotFound externals
        authorization.roomId.text).adapt FrontendError.refusal
      return (call, authorization.userId, none)
  | ⟨none, some credential, some roomId⟩ => do
      let answer ← query (.getCallLinkAndRecord roomId.text true)
      let (state, found) ← ofResult (readLink answer)
      let currentTime ← query .now
      ofResult (verifyCredential externals credential state currentTime)
      let call ← linkCall externals state found
      return (call, externals.userIdOf credential, some state)
  | ⟨_, none, some _⟩ => throw (.status .unauthorized)
  | _ => throw (.status .badRequest)

def ClientInfo.participant (client : ClientInfo) : Participant :=
  ⟨client.opaqueUserId, client.demuxId.raw⟩

def getParticipants (config : Config) (caller : Caller externals)
    (path : String) :
    FallibleConference externals Refusal ParticipantsResponse := do
  let (call, userId, state) ← participantsTarget externals caller
  ofResult (redirected externals config call path)
  let clients ← (getClientIdsInCall externals call userId).adapt
    FrontendError.refusal
  return {
    eraId := call.eraId
    maxDevices := config.maxClientsPerCall
    participants := clients.activeClients.map ClientInfo.participant
    creator := call.creator
    pendingClients := clients.pendingClients.map ClientInfo.participant
    callLinkState := state.map CallLinkState.response }

/-! ## Requests of the backends -/

def removeCallRecordHandler (key : CallRecordKey) :
    FallibleConference externals Refusal Unit := do
  ofResult (ensure (key.roomId ≠ "" ∧ key.eraId ≠ "") (.status .badRequest))
  orFail (.status .internalServerError) (ask (.removeCallRecord key))

def removeBatchCallRecordsHandler (keys : List CallRecordKey) :
    FallibleConference externals Refusal Unit :=
  if keys = [] then return ()
  else orFail (.status .internalServerError)
    (ask (.removeBatchCallRecords keys))

def approvalOutcome : Except CallLinkUpdateError Unit → Except Refusal Unit
  | .ok () => .ok ()
  | .error .roomDoesNotExist => .error (.notFound none)
  | .error _ => .error (.status .internalServerError)

def updateApproval (roomId : RoomId) (approvedUsers : List UserId) :
    FallibleConference externals Refusal Unit := do
  let answer ← query (.updateCallLinkApprovedUsers roomId approvedUsers)
  ofResult (approvalOutcome answer)

/-! ## The cleaner -/

/-- `does_call_exist_on_backend`; an address that cannot be read counts as no
call, and so does an error. -/
def doesCallExistOnBackend (call : CallRecord) :
    ConferenceHandler externals Bool :=
  match externals.parseAddress call.backendIp with
  | none => return false
  | some address => do
      let answer ← ask (.getClients address call.eraId none)
      return answer.isOk

def callsToRemove : List CallRecord →
    ConferenceHandler externals (List CallRecordKey)
  | [] => return []
  | call :: calls => do
      let exist ← doesCallExistOnBackend externals call
      let rest ← callsToRemove calls
      return if exist then rest else ⟨call.roomId, call.eraId⟩ :: rest

def removeEach : List CallRecordKey → ConferenceHandler externals Unit
  | [] => return ()
  | key :: keys => do
      let _ ← ask (.removeCallRecord key)
      removeEach keys

/-- One batch, or its keys one by one where that fails. -/
def removeChunk (chunk : List CallRecordKey) :
    ConferenceHandler externals Unit := do
  let answer ← ask (.removeBatchCallRecords chunk)
  if answer.isOk then return () else removeEach externals chunk

def removeChunks : List (List CallRecordKey) →
    ConferenceHandler externals Unit
  | [] => return ()
  | chunk :: chunks => do
      removeChunk externals chunk
      removeChunks chunks

def cleanCalls (calls : List CallRecord) :
    ConferenceHandler externals Unit := do
  let ordered ← ask (.completionOrder calls)
  let keys ← callsToRemove externals ordered.val
  removeChunks externals (chunks 100 keys)

/-- One turn of the loop. -/
def cleanerPass (config : Config) : ConferenceHandler externals Unit := do
  let answer ← ask (.getCallRecordsForRegion config.region)
  match answer with
  | .ok calls => if calls = [] then return () else cleanCalls externals calls
  | .error _ => return ()

/-! ## The frontends -/

/-- What a frontend is asked to do. -/
inductive ConferenceRequest where
  | join (caller : Caller externals) (path : String) (region : Option String)
      (request : JoinRequest)
  | getParticipants (caller : Caller externals) (path : String)
  | removeCallRecord (key : CallRecordKey)
  | removeBatchCallRecords (keys : List CallRecordKey)
  | updateApproval (roomId : RoomId) (approvedUsers : List UserId)
  | clean

def replyOf {α : Type} (form : α → Reply)
    (handler : FallibleConference externals Refusal α) :
    ConferenceHandler externals Reply := do
  match ← handler.run with
  | .ok value => return form value
  | .error refusal => return .refused refusal

def handle (config : Config) :
    ConferenceRequest externals → ConferenceHandler externals Reply
  | .join caller path region request =>
      replyOf externals .joined
        (join externals config caller path region request)
  | .getParticipants caller path =>
      replyOf externals .participants
        (getParticipants externals config caller path)
  | .removeCallRecord key =>
      replyOf externals (fun _ => .ok) (removeCallRecordHandler externals key)
  | .removeBatchCallRecords keys =>
      replyOf externals (fun _ => .ok)
        (removeBatchCallRecordsHandler externals keys)
  | .updateApproval roomId approvedUsers =>
      replyOf externals (fun _ => .ok)
        (updateApproval externals roomId approvedUsers)
  | .clean => do
      cleanerPass externals config
      return .ok

/-- The store, and the resets of links that have been spawned. -/
structure ConferenceState where
  table : DynamoTable
  resets : List (RoomId × SystemTime)

/-- What others do to the store. -/
inductive LinkAction where
  | resetExpiration (roomId : RoomId) (now : SystemTime)
      (fault : Option Fault)
  | updateCallLink (roomId : RoomId) (update : CallLinkUpdate)
      (zkparamsForCreation : Option Bytes) (now : SystemTime)
      (fault : Option Fault)
  | deleteCallLink (roomId : RoomId) (adminPasskey : Bytes)
      (fault : Option Fault)

/-- The store answers with any fault; the backends, the clock and the
generators answer as they like. -/
def answersQuestion (before : ConferenceState) :
    Exchange (Question externals) (Question.Answer externals) →
      ConferenceState → Prop
  | ⟨.getCallRecord roomId, answer⟩, after =>
      after = before ∧ ∃ fault, getCallRecord before.table fault roomId = answer
  | ⟨.getOrAddCallRecord call, answer⟩, after =>
      after.resets = before.resets ∧
        ∃ fault, getOrAddCallRecord before.table fault call =
          .ok (after.table, answer)
  | ⟨.removeCallRecord key, answer⟩, after =>
      after.resets = before.resets ∧
        ∃ fault, removeCallRecord before.table fault key =
          (after.table, answer)
  | ⟨.removeBatchCallRecords keys, answer⟩, after =>
      after.resets = before.resets ∧
        ∃ fault, removeBatchCallRecords before.table fault keys =
          (after.table, answer)
  | ⟨.getCallLinkAndRecord roomId peekInfoOnly, answer⟩, after =>
      after = before ∧
        ∃ fault, getCallLinkAndRecord before.table fault roomId
          peekInfoOnly = answer
  | ⟨.updateCallLinkApprovedUsers roomId approvedUsers, answer⟩, after =>
      after.resets = before.resets ∧
        ∃ fault, updateCallLinkApprovedUsers before.table fault roomId
          approvedUsers = (after.table, answer)
  | ⟨.spawnReset roomId now, _⟩, after =>
      after = { before with resets := before.resets ++ [(roomId, now)] }
  | _, after => after = before

def actsOnLinks (before : ConferenceState) (action : LinkAction)
    (after : ConferenceState) : Prop :=
  match action with
  | .resetExpiration roomId now fault =>
      ∃ earlier later outcome,
        before.resets = earlier ++ (roomId, now) :: later ∧
        after.resets = earlier ++ later ∧
        resetCallLinkExpiration externals.timestampSeconds before.table fault
          roomId now = .ok (after.table, outcome)
  | .updateCallLink roomId update zkparamsForCreation now fault =>
      after.resets = before.resets ∧
        ∃ progress, updateCallLink externals.timestampSeconds before.table
          fault roomId update zkparamsForCreation now =
            .ok (after.table, progress)
  | .deleteCallLink roomId adminPasskey fault =>
      after.resets = before.resets ∧
        ∃ progress, deleteCallLink before.table fault roomId adminPasskey =
          (after.table, progress)

def conferenceService : Service ConferenceState (Question externals)
    (Question.Answer externals) LinkAction where
  answers := answersQuestion externals
  acts := actsOnLinks externals

abbrev ConferenceEvent :=
  PoolEvent (ConferenceRequest externals) (Question externals)
    (Question.Answer externals) Reply LinkAction

abbrev Conferences (config : Config) :=
  Pool (handle externals config) ConferenceState

/-- Any number of frontends of one region serve requests at once. -/
abbrev ConferenceStep (config : Config) :
    Conferences externals config → ConferenceEvent externals →
      Conferences externals config → Prop :=
  PoolStep (conferenceService externals)

end CallingService.Frontend
