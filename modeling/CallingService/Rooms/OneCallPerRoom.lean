import CallingService.Rooms.Parties

/-!
# One call per room

While a join with a record is on its way, or a client that joined with it is
in its call, the record must stay.  As long as it does, all clients of a room
are in one call.
-/

namespace CallingService.Rooms

open Foundation Frontend

variable {Address : Type} [DecidableEq Address]
variable {externals : Backend.CallExternals}
variable {addressOf : String → Option Address}

/-- The client is in the call that the record names. -/
structure Names (addressOf : String → Option Address) (call : CallRecord)
    (client : Client Address) : Prop where
  address : addressOf call.backendIp = some client.address
  callId : callIdFromHex call.eraId = some client.id.callId

namespace Service

/-- The record is in use: a join with it is on its way, or a client that
joined from its room is in its call. -/
def Uses (service : Service Address externals)
    (addressOf : String → Option Address) (call : CallRecord) : Prop :=
  .joining call ∈ service.tasks ∨
    ∃ client, service.HasClient client ∧
      service.joinedFrom.lookup client = some call.roomId ∧
      Names addressOf call client

end Service

/-- No request deletes a record that is in use. -/
def KeepsUsedRecords (addressOf : String → Option Address)
    (before : Service Address externals) : ServiceEvent Address → Prop
  | .storage event =>
      ∀ keys, event.cellEvent = .discarded keys →
        ∀ call, storedRecords before.table call.roomId = some call →
          (call.roomId, call.eraId) ∈ keys → ¬ before.Uses addressOf call
  | _ => True

/-! ## The invariant -/

/-- What is in use is stored. -/
structure Placed (addressOf : String → Option Address)
    (service : Service Address externals) : Prop where
  wellFormed : RecordsWellFormed service.table
  joining : ∀ call, .joining call ∈ service.tasks →
    storedRecords service.table call.roomId = some call
  origin : ∀ client, service.HasClient client →
    ∃ roomId, service.joinedFrom.lookup client = some roomId
  clients : ∀ client roomId, service.HasClient client →
    service.joinedFrom.lookup client = some roomId →
      ∃ call, storedRecords service.table roomId = some call ∧
        Names addressOf call client

variable {call : CallRecord}

theorem roomId_of_stored {table : DynamoTable}
    (wellFormed : RecordsWellFormed table) {roomId : Frontend.RoomId}
    (stored : storedRecords table roomId = some call) :
    call.roomId = roomId := by
  obtain ⟨_, _, same, _⟩ := wellFormed.lookup_of_stored stored
  exact same

theorem stored_of_getCallRecord {table : DynamoTable} {roomId : Frontend.RoomId}
    (read : getCallRecord table none roomId = .ok (some call)) :
    storedRecords table roomId = some call := by
  unfold getCallRecord at read
  unfold storedRecords
  cases found : table.lookup (roomId, .activeCall) with
  | none =>
      rw [found] at read
      cases read
  | some item =>
      rw [found] at read
      dsimp only at read
      rw [Option.bind_some]
      cases decoded : CallRecord.fromItem item with
      | none =>
          rw [decoded] at read
          cases read
      | some other =>
          rw [decoded] at read
          cases read
          rfl

/-- The answer of an upsert is what is stored afterwards. -/
theorem stored_of_getOrAdd {table next : DynamoTable}
    (wellFormed : RecordsWellFormed table) {call answer : CallRecord}
    {fault : Option Fault}
    (step : StorageStep table (.getOrAdd call fault (.ok answer)) next) :
    storedRecords next answer.roomId = some answer := by
  have refined := storageStep_refines wellFormed step
  obtain ⟨_, isNext⟩ := refined.cell
  have stored : storedRecords next call.roomId = some answer := by
    rw [isNext, Function.update_self]
  rw [roomId_of_stored refined.wellFormed stored]
  exact stored

namespace Placed

variable {before : Service Address externals}

theorem kept_of_uses (placed : Placed addressOf before) {event : StorageEvent}
    {next : DynamoTable} (step : StorageStep before.table event next)
    (keeps : KeepsUsedRecords addressOf before (.storage event))
    (stored : storedRecords before.table call.roomId = some call)
    (used : before.Uses addressOf call) :
    storedRecords next call.roomId = some call := by
  apply (storageStep_refines placed.wellFormed step).cell.keeps_value stored
  intro keys discards listed
  exact keeps keys discards call stored listed used

/-- A request to the store that keeps what is in use. -/
theorem storage_step (placed : Placed addressOf before)
    {event : StorageEvent} {next : DynamoTable} {tasks : List FrontendTask}
    (step : StorageStep before.table event next)
    (keeps : KeepsUsedRecords addressOf before (.storage event))
    (source : ∀ call, .joining call ∈ tasks →
      .joining call ∈ before.tasks ∨
        storedRecords next call.roomId = some call) :
    Placed addressOf { before with table := next, tasks := tasks } where
  wellFormed := (storageStep_refines placed.wellFormed step).wellFormed
  joining := by
    intro call isJoining
    rcases source call isJoining with isOld | isStored
    · exact placed.kept_of_uses step keeps (placed.joining call isOld)
        (.inl isOld)
    · exact isStored
  origin := placed.origin
  clients := by
    intro client roomId isClient joined
    obtain ⟨call, stored, names⟩ :=
      placed.clients client roomId isClient joined
    have same := roomId_of_stored placed.wellFormed stored
    subst same
    exact ⟨call, placed.kept_of_uses step keeps stored
      (.inr ⟨client, isClient, joined, names⟩), names⟩

theorem tasks_step (placed : Placed addressOf before)
    {tasks : List FrontendTask}
    (source : ∀ call, .joining call ∈ tasks →
      .joining call ∈ before.tasks ∨
        storedRecords before.table call.roomId = some call) :
    Placed addressOf { before with tasks := tasks } where
  wellFormed := placed.wellFormed
  joining := by
    intro call isJoining
    rcases source call isJoining with isOld | isStored
    · exact placed.joining call isOld
    · exact isStored
  origin := placed.origin
  clients := placed.clients

theorem read_step (placed : Placed addressOf before) {roomId : Frontend.RoomId}
    (read : getCallRecord before.table none roomId = .ok (some call))
    {task : FrontendTask} (isTask : task = .joining call ∨ task = .peeking call) :
    Placed addressOf { before with tasks := before.tasks ++ [task] } := by
  apply placed.tasks_step
  intro other isJoining
  rcases List.mem_append.mp isJoining with isOld | isNew
  · exact .inl isOld
  · right
    have stored := stored_of_getCallRecord read
    rcases isTask with rfl | rfl
    · cases List.mem_singleton.mp isNew
      rw [roomId_of_stored placed.wellFormed stored]
      exact stored
    · cases List.mem_singleton.mp isNew

end Placed

section Steps

variable {agreement : Backend.KeyAgreement} {rates : Backend.RateArithmetic}
variable {aead : Backend.Rtp.Aead}
variable {before after : Service Address externals}

/-- Whoever is in a call of the backend was there before, or has just
joined. -/
theorem Service.hasClient_setBackend {address : Address}
    {backend : Backend.SfuSystem externals} {event : Backend.SfuEvent}
    (step : Backend.SfuStep agreement rates aead (before.backends address)
      event backend)
    {client : Client Address}
    (isClient : (before.setBackend address backend).HasClient client) :
    before.HasClient client ∨
      client.address = address ∧
        client.id.demuxId ∈ event.newcomers client.id.callId := by
  unfold HasClient setBackend at isClient
  dsimp only at isClient
  by_cases same : client.address = address
  · rw [same, Function.update_self] at isClient
    rcases List.mem_append.mp ((step.demuxIds _).subset isClient) with
      isNew | isOld
    · exact .inr ⟨same, isNew⟩
    · left
      unfold HasClient
      rw [same]
      exact isOld
  · rw [Function.update_of_ne same] at isClient
    exact .inl isClient

/-- A backend on its own lets nobody in. -/
theorem Placed.backend_step (placed : Placed addressOf before)
    {address : Address} {event : Backend.SfuEvent}
    {backend : Backend.SfuSystem externals} {ended : List CallRecordKey}
    (noJoin : ∀ join surroundings, event ≠ .join join surroundings)
    (step : Backend.SfuStep agreement rates aead (before.backends address)
      event backend) :
    Placed addressOf { before.setBackend address backend with
      ended := ended } := by
  have wasClient : ∀ client,
      (before.setBackend address backend).HasClient client →
        before.HasClient client := by
    intro client isClient
    rcases Service.hasClient_setBackend step isClient with isOld | ⟨_, isNew⟩
    · exact isOld
    · cases event with
      | join join surroundings => exact absurd rfl (noJoin join surroundings)
      | _ => cases isNew
  constructor
  · exact placed.wellFormed
  · exact placed.joining
  · intro client isClient
    exact placed.origin client (wasClient client isClient)
  · intro client roomId isClient joined
    exact placed.clients client roomId (wasClient client isClient) joined

/-- The record of a join is stored when the request arrives. -/
theorem Placed.joined_step (placed : Placed addressOf before)
    {address : Address} {join : Backend.Join}
    {surroundings : Backend.JoinSurroundings}
    {backend : Backend.SfuSystem externals}
    (isJoining : .joining call ∈ before.tasks)
    (isAddress : addressOf call.backendIp = some address)
    (arrives : Arrives call join)
    (step : Backend.SfuStep agreement rates aead (before.backends address)
      (.join join surroundings) backend) :
    Placed addressOf { before.setBackend address backend with
      tasks := before.tasks.erase (.joining call)
      joinedFrom := before.afterJoin
        ⟨address, ⟨join.callId, join.demuxId⟩⟩ call.roomId } := by
  -- Only a client that was not there before gets the room of the record.
  have cases : ∀ client,
      (before.setBackend address backend).HasClient client →
        (before.HasClient client ∧
          (before.afterJoin ⟨address, ⟨join.callId, join.demuxId⟩⟩
            call.roomId).lookup client = before.joinedFrom.lookup client) ∨
        (client = ⟨address, ⟨join.callId, join.demuxId⟩⟩ ∧
          (before.afterJoin ⟨address, ⟨join.callId, join.demuxId⟩⟩
            call.roomId).lookup client = some call.roomId) := by
    intro client isClient
    unfold Service.afterJoin
    by_cases wasClient : before.HasClient client
    · left
      refine ⟨wasClient, ?_⟩
      split
      · rfl
      · rename_i isNew
        rw [AList.lookup_insert_ne]
        rintro rfl
        exact isNew wasClient
    · right
      have isNew := (Service.hasClient_setBackend step
        isClient).resolve_left wasClient
      obtain ⟨sameAddress, isNewcomer⟩ := isNew
      unfold Backend.SfuEvent.newcomers at isNewcomer
      dsimp only at isNewcomer
      split at isNewcomer
      · rename_i sameCall
        have sameClient :
            client = ⟨address, ⟨join.callId, join.demuxId⟩⟩ := by
          obtain ⟨clientAddress, clientId⟩ := client
          obtain ⟨callId, demuxId⟩ := clientId
          cases sameAddress
          cases sameCall
          cases List.mem_singleton.mp isNewcomer
          rfl
        refine ⟨sameClient, ?_⟩
        rw [sameClient] at wasClient ⊢
        rw [if_neg wasClient, AList.lookup_insert]
      · cases isNewcomer
  constructor
  · exact placed.wellFormed
  · intro other isTask
    exact placed.joining other (List.mem_of_mem_erase isTask)
  · intro client isClient
    rcases cases client isClient with ⟨wasClient, sameRoom⟩ | ⟨_, isRoom⟩
    · obtain ⟨roomId, joined⟩ := placed.origin client wasClient
      exact ⟨roomId, sameRoom.trans joined⟩
    · exact ⟨call.roomId, isRoom⟩
  · intro client roomId isClient joined
    rcases cases client isClient with ⟨wasClient, sameRoom⟩ | ⟨rfl, isRoom⟩
    · exact placed.clients client roomId wasClient (sameRoom.symm.trans joined)
    · rw [isRoom] at joined
      cases joined
      exact ⟨call, placed.joining call isJoining, isAddress, arrives.callId⟩

theorem Placed.step {event : ServiceEvent Address}
    (placed : Placed addressOf before)
    (keeps : KeepsUsedRecords addressOf before event)
    (step : ServiceStep addressOf agreement rates aead before event after) :
    Placed addressOf after := by
  have erased : ∀ {tasks task} {call : CallRecord},
      FrontendTask.joining call ∈ List.erase tasks task →
        .joining call ∈ tasks := List.mem_of_mem_erase
  cases step with
  | @getOrAdd call fault answer next stores =>
      apply placed.storage_step stores keeps
      intro other isTask
      rcases List.mem_append.mp isTask with isOld | isNew
      · exact .inl isOld
      · right
        cases answer with
        | error failure => cases isNew
        | ok stored =>
            cases List.mem_singleton.mp isNew
            exact stored_of_getOrAdd placed.wellFormed stores
  | readToJoin read => exact placed.read_step read (.inl rfl)
  | readToPeek read => exact placed.read_step read (.inr rfl)
  | joined isJoining isAddress arrives joins =>
      exact placed.joined_step isJoining isAddress arrives joins
  | found _ _ _ _ _ | failed _ =>
      apply placed.tasks_step
      intro call isTask
      exact .inl (erased isTask)
  | notFound _ _ _ _ _ =>
      apply placed.tasks_step
      intro call isTask
      rcases List.mem_append.mp isTask with isOld | isNew
      · exact .inl (erased isOld)
      · cases List.mem_singleton.mp isNew
  | remove _ removes =>
      apply placed.storage_step removes keeps
      intro call isTask
      exact .inl (erased isTask)
  | removeEnded _ removes | removeBatch _ removes =>
      apply placed.storage_step removes keeps
      intro call isTask
      exact .inl isTask
  | backend noJoin steps => exact placed.backend_step noJoin steps

/-! ## Every run -/

theorem placed_new {table : DynamoTable}
    (wellFormed : RecordsWellFormed table) (config : Backend.SfuConfig)
    (inactivityCheckInterval : Duration) (region : Address → Backend.Region)
    (now : Instant) :
    Placed addressOf (Service.new table config inactivityCheckInterval region
      now : Service Address externals) where
  wellFormed := wellFormed
  joining := by
    intro call isTask
    cases isTask
  origin := by
    intro client isClient
    cases isClient
  clients := by
    intro client roomId isClient
    cases isClient

/-- As long as no request deletes a record that is in use, every client is in
the one call of the room it joined from. -/
theorem one_call_per_room {table : DynamoTable}
    (wellFormed : RecordsWellFormed table) {config : Backend.SfuConfig}
    {inactivityCheckInterval : Duration} {region : Address → Backend.Region}
    {now : Instant} {service : Service Address externals}
    {events : List (ServiceEvent Address)}
    (run : Run (Guarded (KeepsUsedRecords addressOf)
        (ServiceStep addressOf agreement rates aead))
      (.new table config inactivityCheckInterval region now) events service) :
    (∀ client, service.HasClient client →
      ∃ roomId, service.joinedFrom.lookup client = some roomId) ∧
    ∀ first second roomId,
      service.HasClient first → service.HasClient second →
        service.joinedFrom.lookup first = some roomId →
          service.joinedFrom.lookup second = some roomId →
            first.address = second.address ∧
              first.id.callId = second.id.callId := by
  have placed : Placed addressOf service := by
    apply run.invariant (placed_new wellFormed config inactivityCheckInterval
      region now)
    intro before label after placed step
    exact placed.step step.1 step.2
  refine ⟨placed.origin, ?_⟩
  intro first second roomId isFirst isSecond firstJoined secondJoined
  obtain ⟨call, stored, names⟩ := placed.clients first roomId isFirst
    firstJoined
  obtain ⟨other, otherStored, otherNames⟩ := placed.clients second roomId
    isSecond secondJoined
  cases stored.symm.trans otherStored
  exact ⟨Option.some.inj (names.address.symm.trans otherNames.address),
    Option.some.inj (names.callId.symm.trans otherNames.callId)⟩

end Steps

/-! ## Two runs -/

def emptyService : Service String Backend.directExternals :=
  .new ∅ Backend.Sfu.emptySfu.config (fromSecs 5) (fun _ => .unknown) 0

/-- The steps with records that hold the addresses themselves. -/
abbrev DirectStep : Service String Backend.directExternals →
    ServiceEvent String → Service String Backend.directExternals → Prop :=
  ServiceStep some Backend.Sfu.prefixAgreement Backend.exactRates
    Backend.videoAead

def Service.afterRequest (service : Service String Backend.directExternals)
    (call : CallRecord) (join : Backend.Join) :
    Service String Backend.directExternals :=
  { service.setBackend call.backendIp
      ((service.backends call.backendIp).addClientToCall
        Backend.Sfu.prefixAgreement join Backend.Sfu.joinNow) with
    tasks := service.tasks.erase (.joining call)
    joinedFrom := service.afterJoin
      ⟨call.backendIp, ⟨join.callId, join.demuxId⟩⟩ call.roomId }

theorem directStep_joined {service : Service String Backend.directExternals}
    {join : Backend.Join} (isJoining : .joining call ∈ service.tasks)
    (arrives : Arrives call join)
    (isFree : (service.backends call.backendIp).lock = .free) :
    DirectStep service
      (.joined ⟨call.backendIp, ⟨join.callId, join.demuxId⟩⟩)
      (service.afterRequest call join) :=
  .joined isJoining rfl arrives (.join isFree)

def firstCall : CallRecord := ⟨"room", "01", "10.0.0.1", "eu", "alice"⟩

def secondCall : CallRecord := ⟨"room", "02", "10.0.0.2", "eu", "bob"⟩

def firstJoin : Backend.Join :=
  { Backend.joinWithPoint with roomId := some "room" }

def secondJoin : Backend.Join :=
  { firstJoin with demuxId := ⟨48, rfl⟩ }

/-- The join of a client that was given the other record. -/
def otherJoin : Backend.Join := { secondJoin with callId := [2] }

/-- The second client is given the record of the first one. -/
theorem one_call_per_room_two_clients :
    ∃ (events : List (ServiceEvent String))
      (service : Service String Backend.directExternals)
      (first second : Client String),
      Run (Guarded (KeepsUsedRecords some) DirectStep) emptyService events
        service ∧
      service.HasClient first ∧ service.HasClient second ∧
      first ≠ second ∧ first.id.callId = second.id.callId := by
  let created : Service String Backend.directExternals :=
    { emptyService with
      table := afterProposal ∅ firstCall, tasks := [.joining firstCall] }
  have creates : Guarded (KeepsUsedRecords some) DirectStep emptyService
      (.storage (.getOrAdd firstCall none (.ok firstCall))) created := by
    refine ⟨?_, .getOrAdd rfl⟩
    intro keys discards
    cases discards
  let joined := created.afterRequest firstCall firstJoin
  have joins : Guarded (KeepsUsedRecords some) DirectStep created
      (.joined ⟨"10.0.0.1", ⟨[1], ⟨16, rfl⟩⟩⟩) joined :=
    ⟨trivial, @directStep_joined firstCall created firstJoin (.head _)
      ⟨rfl, rfl, by decide⟩ rfl⟩
  obtain ⟨connection, isJoining⟩ : ∃ connection,
      (joined.backends "10.0.0.1").lock = .joining firstJoin connection :=
    ⟨_, rfl⟩
  let backend := joined.backends "10.0.0.1"
  let connected := joined.setBackend "10.0.0.1" ({ backend with
    sfu := backend.sfu.insertConnection firstJoin connection }.withLock .free)
  have connects : Guarded (KeepsUsedRecords some) DirectStep joined
      (.backend "10.0.0.1" (.insertConnection ⟨[1], ⟨16, rfl⟩⟩
        connection.ice.requestUsername connection.ice.pwd)) connected := by
    refine ⟨trivial, .backend ?_ (.insertConnection isJoining)⟩
    rintro join surroundings ⟨⟩
  let answered : Service String Backend.directExternals :=
    { connected with
      table := afterProposal (afterProposal ∅ firstCall) secondCall
      tasks := [.joining firstCall] }
  have answers : Guarded (KeepsUsedRecords some) DirectStep connected
      (.storage (.getOrAdd secondCall none (.ok firstCall))) answered := by
    refine ⟨?_, .getOrAdd rfl⟩
    intro keys discards
    cases discards
  let both := answered.afterRequest firstCall secondJoin
  have joinsToo : Guarded (KeepsUsedRecords some) DirectStep answered
      (.joined ⟨"10.0.0.1", ⟨[1], ⟨48, rfl⟩⟩⟩) both :=
    ⟨trivial, @directStep_joined firstCall answered secondJoin (.head _)
      ⟨rfl, rfl, by decide⟩ rfl⟩
  have run := ((((Run.snoc .nil creates).snoc joins).snoc connects).snoc
    answers).snoc joinsToo
  have noRecords : RecordsWellFormed ∅ := by
    intro room item found
    cases found
  have isFirst : both.HasClient ⟨"10.0.0.1", ⟨[1], ⟨16, rfl⟩⟩⟩ := .head _
  have isSecond : both.HasClient ⟨"10.0.0.1", ⟨[1], ⟨48, rfl⟩⟩⟩ :=
    .tail _ (.head _)
  refine ⟨_, both, _, _, run, isFirst, isSecond, by decide, ?_⟩
  exact ((one_call_per_room noRecords run).2 _ _ "room" isFirst isSecond rfl
    rfl).2

/-- A peek deletes the record of a call that the first client is about to
join, so the second client is sent to another call. -/
theorem room_splits :
    ∃ (events : List (ServiceEvent String))
      (service : Service String Backend.directExternals)
      (first second : Client String),
      Run (ServiceStep some Backend.Sfu.prefixAgreement Backend.exactRates
        Backend.videoAead) emptyService events service ∧
      service.HasClient first ∧ service.HasClient second ∧
      service.joinedFrom.lookup first = some "room" ∧
      service.joinedFrom.lookup second = some "room" ∧
      first.id.callId ≠ second.id.callId := by
  let created : Service String Backend.directExternals :=
    { emptyService with
      table := afterProposal ∅ firstCall, tasks := [.joining firstCall] }
  have creates : DirectStep emptyService
      (.storage (.getOrAdd firstCall none (.ok firstCall))) created :=
    .getOrAdd rfl
  let peeking : Service String Backend.directExternals :=
    { created with tasks := [.joining firstCall, .peeking firstCall] }
  have peeks : DirectStep created (.read (.peeking firstCall)) peeking :=
    @ServiceStep.readToPeek _ _ _ _ _ _ _ _ "room" _ rfl
  let missed : Service String Backend.directExternals :=
    { peeking with
      tasks := [.joining firstCall, .removing ⟨"room", "01"⟩] }
  have misses : DirectStep peeking (.answered firstCall false) missed :=
    .notFound (.tail _ (.head _)) rfl rfl rfl rfl
  let joined := missed.afterRequest firstCall firstJoin
  have joins : DirectStep missed (.joined ⟨"10.0.0.1", ⟨[1], ⟨16, rfl⟩⟩⟩)
      joined :=
    @directStep_joined firstCall missed firstJoin (.head _)
      ⟨rfl, rfl, by decide⟩ rfl
  let removed : Service String Backend.directExternals :=
    { joined with table := ∅, tasks := [] }
  have removes : DirectStep joined
      (.storage (.remove ⟨"room", "01"⟩ none (.ok ()))) removed :=
    .remove (.head _) rfl
  let recreated : Service String Backend.directExternals :=
    { removed with
      table := afterProposal ∅ secondCall, tasks := [.joining secondCall] }
  have recreates : DirectStep removed
      (.storage (.getOrAdd secondCall none (.ok secondCall))) recreated :=
    .getOrAdd rfl
  let split := recreated.afterRequest secondCall otherJoin
  have splits : DirectStep recreated
      (.joined ⟨"10.0.0.2", ⟨[2], ⟨48, rfl⟩⟩⟩) split :=
    @directStep_joined secondCall recreated otherJoin (.head _)
      ⟨rfl, rfl, by decide⟩ rfl
  have run := ((((((Run.snoc .nil creates).snoc peeks).snoc misses).snoc
    joins).snoc removes).snoc recreates).snoc splits
  exact ⟨_, split, ⟨"10.0.0.1", ⟨[1], ⟨16, rfl⟩⟩⟩,
    ⟨"10.0.0.2", ⟨[2], ⟨48, rfl⟩⟩⟩, run, .head _, .head _, rfl, rfl,
    by decide⟩

end CallingService.Rooms
