import CallingService.Backend.SfuTables
import CallingService.Frontend.CallRecordRegister

/-!
# Frontends, record store and backends

Frontends keep nothing between their requests: what they do for a client is a
task that is handed from one request to the next.  Every request to the store
is atomic, a backend is an SFU with its own steps, and between any two steps
others may happen.
-/

namespace CallingService.Rooms

open Foundation Frontend

/-! ## Call ids in URLs -/

def asciiByte (character : Char) : Option UInt8 :=
  if character.toNat < 128 then some character.toNat.toUInt8 else none

def callIdFromHex (callId : String) : Option Backend.CallId :=
  if callId = "" then none
  else (callId.toList.mapM asciiByte).bind decodeHex

def hexDigit (value : UInt8) : Char :=
  if value < 10 then Char.ofNat (48 + value.toNat)
  else Char.ofNat (87 + value.toNat)

def encodeHex (callId : Backend.CallId) : String :=
  String.ofList (callId.flatMap fun byte =>
    [hexDigit (byte / 16), hexDigit (byte % 16)])

/-! ## The state -/

/-- What a frontend still has to do for a client. -/
inductive FrontendTask where
  | joining (call : CallRecord)
  | peeking (call : CallRecord)
  | removing (key : CallRecordKey)
deriving DecidableEq, Repr

/-- A connection of one of the backends. -/
structure Client (Address : Type) where
  address : Address
  id : Backend.ConnectionId
deriving DecidableEq

variable {Address : Type} [DecidableEq Address]
variable {externals : Backend.CallExternals}

structure Service (Address : Type) [DecidableEq Address]
    (externals : Backend.CallExternals) where
  table : DynamoTable
  backends : Address → Backend.SfuSystem externals
  tasks : List FrontendTask
  /-- The calls that have ended at their backends; the lifecycle task may ask
  for the removal of a record more than once, in a batch and by itself. -/
  ended : List CallRecordKey
  /-- The room that the request of each client named. -/
  joinedFrom : Table (Client Address) Frontend.RoomId

namespace Service

def new (table : DynamoTable) (config : Backend.SfuConfig)
    (inactivityCheckInterval : Duration)
    (region : Address → Backend.Region) (now : Instant) :
    Service Address externals where
  table := table
  backends := fun address =>
    .new config inactivityCheckInterval (region address) now
  tasks := []
  ended := []
  joinedFrom := ∅

/-- The client is in one of the lists of its call. -/
def HasClient (service : Service Address externals)
    (client : Client Address) : Prop :=
  client.id.demuxId ∈
    (service.backends client.address).demuxIdsAt client.id.callId

instance (service : Service Address externals) (client : Client Address) :
    Decidable (service.HasClient client) :=
  inferInstanceAs (Decidable (_ ∈ _))

/-- A client that is refused because of its demux id does not change the room
of the one that is there. -/
def afterJoin (service : Service Address externals)
    (client : Client Address) (roomId : Frontend.RoomId) :
    Table (Client Address) Frontend.RoomId :=
  if service.HasClient client then service.joinedFrom
  else service.joinedFrom.insert client roomId

def setBackend (service : Service Address externals) (address : Address)
    (backend : Backend.SfuSystem externals) : Service Address externals :=
  { service with
    backends := Function.update service.backends address backend }

end Service

/-! ## Requests -/

def joinsOf : Except StorageError CallRecord → List FrontendTask
  | .ok stored => [.joining stored]
  | .error _ => []

/-- What the backend makes of a join request for the call of a record; the
other fields of the request are those of the client. -/
structure Arrives (call : CallRecord) (join : Backend.Join) : Prop where
  callId : callIdFromHex call.eraId = some join.callId
  roomId : join.roomId = some call.roomId
  validRoomId : call.roomId ≠ ""

/-- The notice that the lifecycle task gets when a tick removes a call. -/
def endedCalls (before after : Backend.SfuSystem externals) :
    Backend.SfuEvent → List CallRecordKey
  | .tickCall callId =>
      match before.sfu.callByCallId.lookup callId,
          after.sfu.callByCallId.lookup callId with
      | some call, none =>
          call.roomId.toList.map fun roomId => ⟨roomId, encodeHex callId⟩
      | _, _ => []
  | _ => []

/-! ## Steps -/

inductive ServiceEvent (Address : Type) where
  | storage (event : StorageEvent)
  | read (task : FrontendTask)
  /-- A join request arrives at the backend. -/
  | joined (client : Client Address)
  | answered (call : CallRecord) (found : Bool)
  | failed (task : FrontendTask)
  | backend (address : Address) (event : Backend.SfuEvent)

/-- `addressOf` parses the address in a record. -/
inductive ServiceStep (addressOf : String → Option Address)
    (agreement : Backend.KeyAgreement) (rates : Backend.RateArithmetic)
    (aead : Backend.Rtp.Aead) :
    Service Address externals → ServiceEvent Address →
      Service Address externals → Prop where
  | getOrAdd {before : Service Address externals} {call : CallRecord}
      {fault : Option Fault} {answer : Except StorageError CallRecord}
      {next : DynamoTable} :
      StorageStep before.table (.getOrAdd call fault answer) next →
      ServiceStep addressOf agreement rates aead before
        (.storage (.getOrAdd call fault answer))
        { before with
          table := next, tasks := before.tasks ++ joinsOf answer }
  /-- A client that may not create a call, or that found one with the link. -/
  | readToJoin {before : Service Address externals}
      {roomId : Frontend.RoomId} {call : CallRecord} :
      getCallRecord before.table none roomId = .ok (some call) →
      ServiceStep addressOf agreement rates aead before (.read (.joining call))
        { before with tasks := before.tasks ++ [.joining call] }
  | readToPeek {before : Service Address externals}
      {roomId : Frontend.RoomId} {call : CallRecord} :
      getCallRecord before.table none roomId = .ok (some call) →
      ServiceStep addressOf agreement rates aead before (.read (.peeking call))
        { before with tasks := before.tasks ++ [.peeking call] }
  | joined {before : Service Address externals} {call : CallRecord}
      {address : Address} {join : Backend.Join}
      {surroundings : Backend.JoinSurroundings}
      {after : Backend.SfuSystem externals} :
      .joining call ∈ before.tasks →
      addressOf call.backendIp = some address →
      Arrives call join →
      Backend.SfuStep agreement rates aead (before.backends address)
        (.join join surroundings) after →
      ServiceStep addressOf agreement rates aead before
        (.joined ⟨address, ⟨join.callId, join.demuxId⟩⟩)
        { before.setBackend address after with
          tasks := before.tasks.erase (.joining call)
          joinedFrom := before.afterJoin
            ⟨address, ⟨join.callId, join.demuxId⟩⟩ call.roomId }
  | found {before : Service Address externals} {call : CallRecord}
      {address : Address} {callId : Backend.CallId} :
      .peeking call ∈ before.tasks →
      addressOf call.backendIp = some address →
      callIdFromHex call.eraId = some callId →
      (before.backends address).lock = .free →
      ((before.backends address).sfu.callByCallId.lookup callId).isSome →
      ServiceStep addressOf agreement rates aead before (.answered call true)
        { before with tasks := before.tasks.erase (.peeking call) }
  | notFound {before : Service Address externals} {call : CallRecord}
      {address : Address} {callId : Backend.CallId} :
      .peeking call ∈ before.tasks →
      addressOf call.backendIp = some address →
      callIdFromHex call.eraId = some callId →
      (before.backends address).lock = .free →
      (before.backends address).sfu.callByCallId.lookup callId = none →
      ServiceStep addressOf agreement rates aead before (.answered call false)
        { before with
          tasks := before.tasks.erase (.peeking call) ++
            [.removing ⟨call.roomId, call.eraId⟩] }
  | failed {before : Service Address externals} {task : FrontendTask} :
      task ∈ before.tasks →
      ServiceStep addressOf agreement rates aead before (.failed task)
        { before with tasks := before.tasks.erase task }
  | remove {before : Service Address externals} {key : CallRecordKey}
      {fault : Option Fault} {answer : Except StorageError Unit}
      {next : DynamoTable} :
      .removing key ∈ before.tasks →
      StorageStep before.table (.remove key fault answer) next →
      ServiceStep addressOf agreement rates aead before
        (.storage (.remove key fault answer))
        { before with
          table := next, tasks := before.tasks.erase (.removing key) }
  | removeEnded {before : Service Address externals} {key : CallRecordKey}
      {fault : Option Fault} {answer : Except StorageError Unit}
      {next : DynamoTable} :
      key ∈ before.ended →
      StorageStep before.table (.remove key fault answer) next →
      ServiceStep addressOf agreement rates aead before
        (.storage (.remove key fault answer)) { before with table := next }
  | removeBatch {before : Service Address externals}
      {keys : List CallRecordKey} {fault : Option Fault}
      {answer : Except StorageError Unit} {next : DynamoTable} :
      (∀ key ∈ keys, key ∈ before.ended) →
      StorageStep before.table (.removeBatch keys fault answer) next →
      ServiceStep addressOf agreement rates aead before
        (.storage (.removeBatch keys fault answer))
        { before with table := next }
  | backend {before : Service Address externals} {address : Address}
      {event : Backend.SfuEvent} {after : Backend.SfuSystem externals} :
      (∀ join surroundings, event ≠ .join join surroundings) →
      Backend.SfuStep agreement rates aead (before.backends address) event
        after →
      ServiceStep addressOf agreement rates aead before
        (.backend address event)
        { before.setBackend address after with
          ended := before.ended ++
            endedCalls (before.backends address) after event }

end CallingService.Rooms
