import CallingService.Frontend.CallLinkRaces
import CallingService.Frontend.CallRecordRegister
import CallingService.Frontend.ConferenceContracts

/-!
# Runs of the frontends

Any number of requests are served at once, and call links change meanwhile.
In every such run a client joins only a call that was stored while it asked,
a record is created only by who may start the call, and a record goes only
for a reason.
-/

namespace CallingService.Frontend

open Foundation Foundation.Handler Backend

variable {externals : ConferenceExternals} {config : Config}

/-! ## Records in one step -/

/-- The call records of both tables are the same. -/
def SameRecords (before after : DynamoTable) : Prop :=
  ∀ room, after.lookup (room, .activeCall) = before.lookup (room, .activeCall)

theorem SameRecords.refl (table : DynamoTable) : SameRecords table table :=
  fun _ => rfl

variable {before after : DynamoTable}

theorem SameRecords.storedRecords_eq (same : SameRecords before after) :
    storedRecords after = storedRecords before := by
  funext room
  unfold storedRecords
  rw [same room]

theorem SameRecords.wellFormed (same : SameRecords before after)
    (wellFormed : RecordsWellFormed before) : RecordsWellFormed after := by
  intro room item found
  rw [same room] at found
  exact wellFormed room item found

variable {fault : Option Fault}

theorem sameRecords_updateApprovedUsers {roomId : RoomId} {users : List UserId}
    {answer : Except CallLinkUpdateError Unit}
    (updated : updateCallLinkApprovedUsers before fault roomId users =
      (after, answer)) : SameRecords before after := by
  intro room
  obtain ⟨rfl, -⟩ := Prod.mk.inj updated
  refine WritesLink.record (?_ : WritesLink roomId _ _) room
  split
  · exact writesLink_updateItemIf _ _ _ _ _ _
  · exact writesLink_updateItemIf _ _ _ _ _ _

theorem sameRecords_of_acts {before after : ConferenceState}
    {action : LinkAction}
    (acts : actsOnLinks externals before action after) :
    SameRecords before.table after.table := by
  intro room
  cases action with
  | resetExpiration roomId now fault =>
      obtain ⟨_, _, _, -, -, reset⟩ := acts
      exact (writesLink_resetCallLinkExpiration reset).record room
  | updateCallLink roomId update zkparamsForCreation now fault =>
      obtain ⟨-, _, updated⟩ := acts
      exact (writesLink_updateCallLink updated).record room
  | deleteCallLink roomId adminPasskey fault =>
      obtain ⟨-, _, deleted⟩ := acts
      rcases deleteCallLink_cases before.table fault roomId adminPasskey with
        same | ⟨erased, -⟩
      · rw [deleted] at same
        exact congrArg (·.lookup (room, .activeCall)) same
      · rw [deleted] at erased
        dsimp only at erased
        rw [erased]
        apply AList.lookup_erase_ne
        simp [callLinkKey]

/-- The keys whose records a question asks to remove. -/
def Question.removedKeys : Question externals → List CallRecordKey
  | .removeCallRecord key => [key]
  | .removeBatchCallRecords keys => keys
  | _ => []

/-- An answer leaves the records alone, adds one, or removes some. -/
inductive ChangesRecords (before after : DynamoTable) :
    Exchange (Question externals) (Question.Answer externals) → Prop where
  | kept {exchange : Exchange (Question externals) (Question.Answer externals)}
      (same : SameRecords before after) : ChangesRecords before after exchange
  | added {call : CallRecord} {answer : Except StorageError CallRecord}
      (fault : Option Fault)
      (step : StorageStep before (.getOrAdd call fault answer) after) :
      ChangesRecords before after ⟨.getOrAddCallRecord call, answer⟩
  | removed {exchange : Exchange (Question externals)
        (Question.Answer externals)} {event : StorageEvent}
      (step : StorageStep before event after)
      (keys : event.removedKeys = exchange.question.removedKeys)
      (isRemoval : ∀ call fault answer, event ≠ .getOrAdd call fault answer) :
      ChangesRecords before after exchange

variable {exchange : Exchange (Question externals) (Question.Answer externals)}

theorem changesRecords_of_answers {before after : ConferenceState}
    (answers : answersQuestion externals before exchange after) :
    ChangesRecords before.table after.table exchange := by
  obtain ⟨question, answer⟩ := exchange
  cases question with
  | getOrAddCallRecord call =>
      obtain ⟨-, fault, step⟩ := answers
      exact .added fault step
  | removeCallRecord key =>
      obtain ⟨-, fault, step⟩ := answers
      have storage : StorageStep before.table (.remove key fault answer)
        after.table := step
      exact .removed storage rfl fun _ _ _ same => by cases same
  | removeBatchCallRecords keys =>
      obtain ⟨-, fault, step⟩ := answers
      have storage : StorageStep before.table (.removeBatch keys fault answer)
        after.table := step
      exact .removed storage rfl fun _ _ _ same => by cases same
  | updateCallLinkApprovedUsers roomId users =>
      obtain ⟨-, fault, updated⟩ := answers
      exact .kept (sameRecords_updateApprovedUsers updated)
  | getCallRecord roomId =>
      obtain ⟨rfl, -⟩ := answers
      exact .kept (.refl _)
  | getCallLinkAndRecord roomId peekInfoOnly =>
      obtain ⟨rfl, -⟩ := answers
      exact .kept (.refl _)
  | spawnReset roomId now =>
      cases answers
      exact .kept (.refl _)
  | now | randomU32 | randomHexString _ | selectIp | joinClient _ _ _ _
  | getClients _ _ _ | getCallRecordsForRegion _ | completionOrder _ =>
      cases answers
      exact .kept (.refl _)

theorem ChangesRecords.wellFormed
    (changes : ChangesRecords before after exchange)
    (wellFormed : RecordsWellFormed before) : RecordsWellFormed after := by
  cases changes with
  | kept same => exact same.wellFormed wellFormed
  | added fault step => exact (storageStep_refines wellFormed step).wellFormed
  | removed step _ _ => exact (storageStep_refines wellFormed step).wellFormed

variable {call : CallRecord}

/-- A new record is the one that was proposed. -/
theorem ChangesRecords.source {key : RoomId}
    (changes : ChangesRecords before after exchange)
    (wellFormed : RecordsWellFormed before)
    (stored : storedRecords after key = some call) :
    storedRecords before key = some call ∨
      call.roomId = key ∧ exchange.question = .getOrAddCallRecord call := by
  cases changes with
  | kept same =>
      rw [same.storedRecords_eq] at stored
      exact .inl stored
  | @added proposed answer fault step =>
      have cell := (storageStep_refines wellFormed step).cell
      rcases cell.value_source stored with old | proposal
      · exact .inl old
      · cases answer with
        | error failure => cases proposal
        | ok answered =>
            cases proposal
            exact .inr ⟨rfl, rfl⟩
  | @removed _ event step _ isRemoval =>
      have cell := (storageStep_refines wellFormed step).cell
      rcases cell.value_source stored with old | proposal
      · exact .inl old
      · cases event with
        | getOrAdd proposed fault answer =>
            exact absurd rfl (isRemoval proposed fault answer)
        | remove key fault answer => cases answer <;> cases proposal
        | removeBatch keys fault answer => cases answer <;> cases proposal

/-- A record goes only under its own key. -/
theorem ChangesRecords.removed_key {key : RoomId}
    (changes : ChangesRecords before after exchange)
    (wellFormed : RecordsWellFormed before)
    (stored : storedRecords before key = some call)
    (gone : storedRecords after key ≠ some call) :
    ⟨key, call.eraId⟩ ∈ exchange.question.removedKeys := by
  by_contra unlisted
  apply gone
  cases changes with
  | kept same => rw [same.storedRecords_eq, stored]
  | @added proposed answer fault step =>
      have cell := (storageStep_refines wellFormed step).cell
      apply cell.keeps_value stored
      intro keys discards
      cases answer <;> cases discards
  | @removed _ event step sameKeys _ =>
      have cell := (storageStep_refines wellFormed step).cell
      apply cell.keeps_value stored
      intro keys discards listed
      rw [event.removedKeys_of_discarded discards] at listed
      obtain ⟨⟨room, era⟩, member, keyEq⟩ := List.mem_map.mp listed
      cases keyEq
      rw [sameKeys] at member
      exact unlisted member

/-! ## Records that are read -/

theorem storedRecords_of_read {table : DynamoTable} {key : RoomId}
    (read : getCallRecord table fault key = .ok (some call)) :
    storedRecords table key = some call := by
  unfold getCallRecord at read
  unfold storedRecords
  cases fault with
  | some injected => cases read
  | none =>
      cases found : table.lookup (key, .activeCall) with
      | none =>
          simp only [found] at read
          cases read
      | some item =>
          simp only [found] at read
          split at read
          · cases read
            assumption
          · cases read

theorem storedRecords_of_added {proposed call : CallRecord}
    (wellFormed : RecordsWellFormed before)
    (added : getOrAddCallRecord before fault proposed =
      .ok (after, .ok call)) :
    storedRecords after proposed.roomId = some call := by
  have step : StorageStep before (.getOrAdd proposed fault (.ok call)) after :=
    added
  obtain ⟨-, records⟩ := (storageStep_refines wellFormed step).cell
  rw [records, Function.update_self]

theorem storedRecords_of_linkRead {table : DynamoTable} {roomId : RoomId}
    {peek : Bool} {link : Option CallLinkState}
    (read : getCallLinkAndRecord table fault roomId peek =
      .ok (link, some call)) :
    storedRecords table (callLinkRoomKey roomId) = some call := by
  unfold getCallLinkAndRecord at read
  cases fault with
  | some injected => cases read
  | none =>
      obtain ⟨found, readCall, rest⟩ := bind_eq_ok_iff.mp read
      obtain ⟨state, -, returned⟩ := bind_eq_ok_iff.mp rest
      cases returned
      unfold storedRecords
      change _ = Except.ok (some call) at readCall
      change (table.lookup (linkCallKey roomId)).bind _ = _
      cases item : table.lookup (linkCallKey roomId) with
      | none =>
          rw [item] at readCall
          cases readCall
      | some present =>
          rw [item, convertItem] at readCall
          cases decoded : CallRecord.fromItem present with
          | none =>
              rw [decoded] at readCall
              cases readCall
          | some known =>
              rw [decoded] at readCall
              cases readCall
              exact decoded

theorem linkRead_of_fault {table : DynamoTable} {roomId : RoomId} {peek : Bool}
    {result : Option CallLinkState × Option CallRecord}
    (read : getCallLinkAndRecord table fault roomId peek = .ok result) :
    getCallLinkAndRecord table none roomId peek = .ok result := by
  cases fault with
  | some injected => cases read
  | none => exact read

/-! ## Runs -/

section Runs

variable {start : ConferenceState} {finish : Conferences externals config}
variable {events before since : List (ConferenceEvent externals)}
variable {origin : ConferenceRequest externals} {call : CallRecord}
variable {past : ConferenceExchanges externals} {key : RoomId}

def ConferenceState.WellFormed (state : ConferenceState) : Prop :=
  RecordsWellFormed state.table

theorem wellFormed_of_conferences
    (run : Run (ConferenceStep externals config) ⟨start, []⟩ events finish)
    (initial : start.WellFormed) : finish.state.WellFormed :=
  run.service_invariant initial
    (fun known answers => (changesRecords_of_answers answers).wellFormed known)
    (fun known acts => (sameRecords_of_acts acts).wellFormed known)

/-- A question was permitted to the request that asked it. -/
theorem permitted_of_run {question : Question externals}
    {answer : question.Answer externals}
    (run : Run (ConferenceStep externals config) ⟨start, []⟩
      (events ++ [.answered ⟨question, answer⟩]) finish) :
    ∃ origin past next, BeganIn events origin past ∧
      Reaches (handle externals config origin) past (.ask question next) ∧
      Permitted config origin past question := by
  obtain ⟨origin, past, next, began, reached⟩ := run.answered_reached
  exact ⟨origin, past, next, began, reached,
    ((keeps_handle origin).of_reaches reached).1⟩

/-- At some moment since the request began. -/
def Sometime (config : Config) (start : ConferenceState)
    (before : List (ConferenceEvent externals))
    (origin : ConferenceRequest externals)
    (since : List (ConferenceEvent externals))
    (holds : ConferenceState → Prop) : Prop :=
  ∃ during later pool, since = during ++ later ∧
    Run (ConferenceStep externals config) ⟨start, []⟩
      (before ++ .began origin :: during) pool ∧
    holds pool.state

/-- What was stored at some moment since the request began, and which answers
it has been given. -/
def storedSince (config : Config) (start : ConferenceState)
    (before : List (ConferenceEvent externals))
    (origin : ConferenceRequest externals)
    (since : List (ConferenceEvent externals))
    (past : ConferenceExchanges externals) : Knowledge externals where
  call key call := call.roomId = key ∧
    Sometime config start before origin since fun state =>
      storedRecords state.table key = some call
  link roomId link found := Sometime config start before origin since
    fun state => getCallLinkAndRecord state.table none roomId false =
      .ok (some link, found)
  heard exchange := exchange ∈ past

theorem Sometime.mono {holds weaker : ConferenceState → Prop}
    (sometime : Sometime config start before origin since holds)
    (implied : ∀ state, state.WellFormed → holds state → weaker state)
    (initial : start.WellFormed) :
    Sometime config start before origin since weaker := by
  obtain ⟨during, later, pool, split, reached, holding⟩ := sometime
  exact ⟨during, later, pool, split, reached,
    implied _ (wellFormed_of_conferences reached initial) holding⟩

theorem sometime_of_heard
    (run : Run (ConferenceStep externals config) ⟨start, []⟩
      (before ++ .began origin :: since) finish) (initial : start.WellFormed)
    (among : exchange ∈ exchangesOf since) :
    ∃ asking answering, asking.WellFormed ∧
      Sometime config start before origin since (· = asking) ∧
      Sometime config start before origin since (· = answering) ∧
      answersQuestion externals asking exchange answering := by
  rw [← List.singleton_append, ← List.append_assoc] at run
  obtain ⟨during, later, asking, answering, rfl, asked, step, answers⟩ :=
    run.exchange_answered among
  refine ⟨asking.state, answering.state,
    wellFormed_of_conferences asked initial, ?_, ?_, answers⟩
  · exact ⟨during, _, asking, rfl, by simpa using asked, rfl⟩
  · refine ⟨during ++ [.answered exchange], later, answering, by simp, ?_,
      rfl⟩
    simpa using asked.snoc step

/-- What a request was told was stored while it asked. -/
theorem told_implies_stored
    (run : Run (ConferenceStep externals config) ⟨start, []⟩
      (before ++ .began origin :: since) finish)
    (initial : start.WellFormed) (among : past.Sublist (exchangesOf since)) :
    (told past).Implies
      (storedSince config start before origin since past) where
  call key call isCall := by
    have stored : Sometime config start before origin since fun state =>
        storedRecords state.table key = some call := by
      rcases isCall with heard | ⟨roomId, link, rfl, heard⟩ |
        ⟨proposed, rfl, heard⟩
      · obtain ⟨asking, _, -, asked, -, rfl, fault, read⟩ :=
          sometime_of_heard run initial (among.subset heard)
        exact asked.mono (fun state _ same => same ▸ storedRecords_of_read read)
          initial
      · obtain ⟨asking, _, -, asked, -, rfl, fault, read⟩ :=
          sometime_of_heard run initial (among.subset heard)
        exact asked.mono
          (fun state _ same => same ▸ storedRecords_of_linkRead read) initial
      · obtain ⟨asking, answering, known, -, answered, -, fault, added⟩ :=
          sometime_of_heard run initial (among.subset heard)
        exact answered.mono
          (fun state _ same => same ▸ storedRecords_of_added known added)
          initial
    refine ⟨?_, stored⟩
    obtain ⟨_, _, pool, -, reached, found⟩ := stored
    have known := wellFormed_of_conferences reached initial
    obtain ⟨_, -, room, -⟩ := RecordsWellFormed.lookup_of_stored known found
    exact room
  link roomId link found heard := by
    obtain ⟨asking, _, -, asked, -, rfl, fault, read⟩ :=
      sometime_of_heard run initial (among.subset heard)
    have stored : Sometime config start before origin since fun state =>
        getCallLinkAndRecord state.table none roomId false =
          .ok (some link, found) :=
      asked.mono (fun state _ same => same ▸ linkRead_of_fault read) initial
    exact stored
  heard _ heard := heard

/-- A client is sent only to a backend of this region and to a call there that
was stored for its room while it asked, and with what lets it in. -/
theorem clients_join_stored_calls {address : externals.Address}
    {eraId : EraId} {demuxId : DemuxId} {message : BackendJoinRequest}
    {answer : Except BackendError BackendJoinResponse}
    (run : Run (ConferenceStep externals config) ⟨start, []⟩
      (events ++ [.answered ⟨.joinClient address eraId demuxId message,
        answer⟩]) finish)
    (initial : start.WellFormed) :
    ∃ before origin since past next admitted,
      events = before ++ .began origin :: since ∧
      past.Sublist (exchangesOf since) ∧
      Reaches (handle externals config origin) past
        (.ask (.joinClient address eraId demuxId message) next) ∧
      Sends config admitted origin address eraId message ∧
      Admits (storedSince config start before origin since past) origin
        admitted := by
  obtain ⟨origin, past, next, ⟨before, since, rfl, among⟩, reached, admitted,
    admits, sends⟩ := permitted_of_run run
  obtain ⟨pool, earlier, -⟩ := run.last
  exact ⟨before, origin, since, past, next, admitted, rfl, among, reached, sends,
    admits.mono (told_implies_stored earlier initial among)⟩

/-- Every credential and every text is accepted. -/
def plainConference : ConferenceExternals where
  toLinkExternals := permissive
  Address := String
  parseAddress := some
  encode := id
  isHeaderValue _ := true

def localConfig : Config := ⟨"eu", "https://<region>", 8⟩

def sampleMember : GroupAuthorization :=
  ⟨"alice", ⟨"group", by decide⟩, .createAndJoin⟩

def sampleClient : JoinRequest := ⟨none, "ufrag", "key", none⟩

def sampleCall : CallRecord := ⟨"group", "era", "10.0.0.1", "eu", "alice"⟩

def memberJoins : ConferenceRequest plainConference :=
  .join ⟨some sampleMember, none, none⟩ "/" none sampleClient

/-- The member creates the record of the call. -/
def creation : ConferenceExchanges plainConference :=
  [⟨.now, SystemTime.unixEpoch⟩, ⟨.selectIp, .ok "10.0.0.1"⟩,
    ⟨.randomHexString 16, "era"⟩,
    ⟨.getOrAddCallRecord sampleCall, .ok sampleCall⟩]

def emptyState : ConferenceState := ⟨∅, []⟩

def createdState : ConferenceState := ⟨afterProposal ∅ sampleCall, []⟩

theorem wellFormed_emptyState : emptyState.WellFormed := by
  intro room item found
  cases found

theorem served_creation :
    Run (answersQuestion plainConference) emptyState creation
      createdState := by
  have adds : answersQuestion plainConference emptyState
      ⟨.getOrAddCallRecord sampleCall, .ok sampleCall⟩ createdState :=
    ⟨rfl, none, rfl⟩
  exact .cons rfl (.cons rfl (.cons rfl (.cons adds .nil)))

def sampleMessage : BackendJoinRequest :=
  ⟨"alice", "ufrag", some "key", none, "eu", false, false, "group", none⟩

/-- The member asks the backend of the call to let it in. -/
def admitting : ConferenceExchanges plainConference :=
  creation ++ [⟨.randomU32, 16⟩]

def eventsOf (origin : ConferenceRequest plainConference)
    (exchanges : ConferenceExchanges plainConference) :
    List (ConferenceEvent plainConference) :=
  .began origin :: exchanges.map fun exchange => .answered exchange

theorem clients_join_stored_calls_sample :
    ∃ before origin since past next admitted,
      eventsOf memberJoins admitting = before ++ .began origin :: since ∧
      past.Sublist (exchangesOf since) ∧
      Reaches (handle plainConference localConfig origin) past
        (.ask (.joinClient "10.0.0.1" "era" (DemuxId.fromSsrc 16)
          sampleMessage) next) ∧
      Sends localConfig admitted origin "10.0.0.1" "era" sampleMessage ∧
      Admits (storedSince localConfig emptyState before origin since past)
        origin admitted := by
  have reached : ∃ next, Reaches (handle plainConference localConfig
      memberJoins) admitting (.ask (.joinClient "10.0.0.1" "era"
        (DemuxId.fromSsrc 16) sampleMessage) next) :=
    ⟨_, .head (.head (.head (.head (.head .start))))⟩
  obtain ⟨next, reached⟩ := reached
  have served : Run (conferenceService plainConference).answers emptyState
      admitting createdState := .snoc served_creation rfl
  have run : Run (ConferenceStep plainConference localConfig) ⟨emptyState, []⟩
      (eventsOf memberJoins admitting ++ [.answered ⟨.joinClient "10.0.0.1"
        "era" (DemuxId.fromSsrc 16) sampleMessage, .error .timeout⟩]) _ :=
    Run.alone (.answered reached (.error .timeout)) (.snoc served rfl)
  exact clients_join_stored_calls run wellFormed_emptyState

/-- A record that was not there from the start was proposed by a request that
may start its call. -/
def HasMaker (config : Config) (start : ConferenceState) (call : CallRecord)
    (history : List (ConferenceEvent externals)) : Prop :=
  ∃ before origin since past next answer later,
    history = before ++ .began origin ::
      (since ++ .answered ⟨.getOrAddCallRecord call, answer⟩ :: later) ∧
    past.Sublist (exchangesOf since) ∧
    Reaches (handle externals config origin) past
      (.ask (.getOrAddCallRecord call) next) ∧
    Proposes config (storedSince config start before origin since past) origin
      call

theorem HasMaker.snoc (hasMaker : HasMaker config start call events)
    (event : ConferenceEvent externals) :
    HasMaker config start call (events ++ [event]) := by
  obtain ⟨before, origin, since, past, next, answer, later, rfl, asked⟩ :=
    hasMaker
  exact ⟨before, origin, since, past, next, answer, later ++ [event], by simp,
    asked⟩

/-- Every record that is stored is under the key of its room, and was there
from the start or was made by who may start the call. -/
theorem records_have_makers
    (run : Run (ConferenceStep externals config) ⟨start, []⟩ events finish)
    (initial : start.WellFormed)
    (stored : storedRecords finish.state.table key = some call) :
    call.roomId = key ∧
      (storedRecords start.table key = some call ∨
        HasMaker config start call events) := by
  have known := wellFormed_of_conferences run initial
  obtain ⟨_, -, room, -⟩ := RecordsWellFormed.lookup_of_stored known stored
  refine ⟨room, ?_⟩
  clear known room
  induction run with
  | nil => exact .inl stored
  | @snoc past event middle last earlier step ih =>
      have known := wellFormed_of_conferences earlier initial
      cases event with
      | began origin =>
          cases step
          exact (ih stored).imp_right fun made => made.snoc _
      | ended origin outcome =>
          obtain ⟨_, _, _, -, -, -, rfl⟩ := step
          exact (ih stored).imp_right fun made => made.snoc _
      | acted action =>
          obtain ⟨_, acts, rfl⟩ := step
          rw [(sameRecords_of_acts acts).storedRecords_eq] at stored
          exact (ih stored).imp_right fun made => made.snoc _
      | answered exchange =>
          have whole := earlier.snoc step
          obtain ⟨_, _, _, _, _, state, -, answers, rfl⟩ := step
          rcases (changesRecords_of_answers answers).source known stored with
            old | ⟨-, proposed⟩
          · exact (ih old).imp_right fun made => made.snoc _
          · obtain ⟨question, answer⟩ := exchange
            cases proposed
            obtain ⟨origin, heard, next, ⟨before, since, rfl, among⟩, reached,
              proposes⟩ := permitted_of_run whole
            exact .inr ⟨before, origin, since, heard, next, answer, [],
              by simp, among, reached,
              proposes.mono (told_implies_stored earlier initial among)⟩

theorem records_have_makers_sample :
    sampleCall.roomId = "group" ∧
      (storedRecords emptyState.table "group" = some sampleCall ∨
        HasMaker localConfig emptyState sampleCall
          (eventsOf memberJoins creation)) := by
  have reached : ∃ next, Reaches (handle plainConference localConfig
      memberJoins) creation next :=
    ⟨_, .head (.head (.head (.head .start)))⟩
  obtain ⟨next, reached⟩ := reached
  have served : Run (conferenceService plainConference).answers emptyState
      creation createdState := served_creation
  exact records_have_makers (Run.alone reached served) wellFormed_emptyState
    rfl

/-- A record goes only when its removal is asked for, for a reason that lies
in the request that asks. -/
theorem records_removed_for_reason {event : ConferenceEvent externals}
    {middle : Conferences externals config}
    (run : Run (ConferenceStep externals config) ⟨start, []⟩ events middle)
    (initial : start.WellFormed)
    (step : ConferenceStep externals config middle event finish)
    (stored : storedRecords middle.state.table key = some call)
    (gone : storedRecords finish.state.table key ≠ some call) :
    ∃ question answer origin past next,
      event = .answered ⟨question, answer⟩ ∧
      ⟨key, call.eraId⟩ ∈ question.removedKeys ∧
      BeganIn events origin past ∧
      Reaches (handle externals config origin) past (.ask question next) ∧
      Removal (told past) origin ⟨key, call.eraId⟩ := by
  have known := wellFormed_of_conferences run initial
  cases event with
  | began origin =>
      cases step
      exact absurd stored gone
  | ended origin outcome =>
      obtain ⟨_, _, _, -, -, -, rfl⟩ := step
      exact absurd stored gone
  | acted action =>
      obtain ⟨_, acts, rfl⟩ := step
      rw [(sameRecords_of_acts acts).storedRecords_eq] at gone
      exact absurd stored gone
  | answered exchange =>
      have whole := run.snoc step
      obtain ⟨_, _, _, _, _, state, -, answers, rfl⟩ := step
      have listed := (changesRecords_of_answers answers).removed_key known
        stored gone
      obtain ⟨question, answer⟩ := exchange
      obtain ⟨origin, past, next, began, reached, permitted⟩ :=
        permitted_of_run whole
      refine ⟨question, answer, origin, past, next, rfl, listed, began, reached,
        ?_⟩
      cases question with
      | removeCallRecord other =>
          rw [List.mem_singleton.mp listed]
          exact permitted
      | removeBatchCallRecords keys => exact permitted _ listed
      | _ => cases listed

def removedState : ConferenceState :=
  ⟨(removeCallRecord createdState.table none sampleCall.key).1, []⟩

/-- The backend denies the call that its record names. -/
def denial : ConferenceExchanges plainConference :=
  [⟨.getCallRecord "group", .ok (some sampleCall)⟩,
    ⟨.getClients "10.0.0.1" "era" (some "alice"), .error .callNotFound⟩]

theorem wellFormed_createdState : createdState.WellFormed := by
  have made : StorageStep ∅ (.getOrAdd sampleCall none (.ok sampleCall))
      createdState.table := rfl
  exact (storageStep_refines wellFormed_emptyState made).wellFormed

def memberLists : ConferenceRequest plainConference :=
  .getParticipants ⟨some sampleMember, none, none⟩ "/"

theorem records_removed_for_reason_sample :
    ∃ question answer origin past next,
      (.answered ⟨.removeCallRecord sampleCall.key, .ok ()⟩ :
        ConferenceEvent plainConference) = .answered ⟨question, answer⟩ ∧
      ⟨"group", sampleCall.eraId⟩ ∈ question.removedKeys ∧
      BeganIn (eventsOf memberLists denial) origin past ∧
      Reaches (handle plainConference localConfig origin) past
        (.ask question next) ∧
      Removal (told past) origin ⟨"group", sampleCall.eraId⟩ := by
  have reached : ∃ next, Reaches (handle plainConference localConfig
      memberLists) denial (.ask (.removeCallRecord sampleCall.key) next) :=
    ⟨_, .head (.head .start)⟩
  obtain ⟨next, reached⟩ := reached
  have served : Run (conferenceService plainConference).answers createdState
      denial createdState :=
    .cons ⟨rfl, none, rfl⟩ (.cons rfl .nil)
  have removes : answersQuestion plainConference createdState
      ⟨.removeCallRecord sampleCall.key, .ok ()⟩ removedState :=
    ⟨rfl, none, rfl⟩
  have step : ConferenceStep plainConference localConfig
      ⟨createdState, [⟨memberLists, denial, _, reached⟩]⟩
      (.answered ⟨.removeCallRecord sampleCall.key, .ok ()⟩)
      ⟨removedState,
        [Task.answered ⟨memberLists, denial, _, reached⟩ rfl (.ok ())]⟩ :=
    ⟨[], [], _, next, rfl, removedState, rfl, removes, rfl⟩
  have gone : storedRecords removedState.table "group" ≠ some sampleCall := by
    decide
  exact records_removed_for_reason (Run.alone reached served)
    wellFormed_createdState step rfl gone

/-- When a pass of the cleaner has ended, each record that it read is confirmed
by its backend or its removal has been attempted. -/
theorem cleaner_covers_records {outcome : Reply}
    (run : Run (ConferenceStep externals config) ⟨start, []⟩
      (events ++ [.ended .clean outcome]) finish) :
    ∃ past, BeganIn events .clean past ∧
      Reaches (handle externals config .clean) past (.done outcome) ∧
      PassCovers config past := by
  obtain ⟨past, began, reached⟩ := run.ended_reached
  exact ⟨past, began, reached, (keeps_handle .clean).of_reaches reached⟩

/-- A pass over one record whose backend does not answer, and whose batch
fails. -/
def cleaning : ConferenceExchanges plainConference :=
  [⟨.getCallRecordsForRegion "eu", .ok [sampleCall]⟩,
    ⟨.completionOrder [sampleCall], ⟨[sampleCall], .refl _⟩⟩,
    ⟨.getClients "10.0.0.1" "era" none, .error .timeout⟩,
    ⟨.removeBatchCallRecords [sampleCall.key],
      .error (.unexpectedError "delete_item")⟩,
    ⟨.removeCallRecord sampleCall.key, .ok ()⟩]

theorem cleaner_covers_records_sample :
    ∃ past, BeganIn (eventsOf .clean cleaning) .clean past ∧
      Reaches (handle plainConference localConfig .clean) past (.done .ok) ∧
      PassCovers localConfig past := by
  have reached : Reaches (handle plainConference localConfig .clean) cleaning
      (.done .ok) :=
    .head (.head (.head (.head (.head .start))))
  have served : Run (conferenceService plainConference).answers createdState
      cleaning removedState := by
    have fails : answersQuestion plainConference createdState
        ⟨.removeBatchCallRecords [sampleCall.key],
          .error (.unexpectedError "delete_item")⟩ createdState :=
      ⟨rfl, some (.unavailable ""), rfl⟩
    have removes : answersQuestion plainConference createdState
        ⟨.removeCallRecord sampleCall.key, .ok ()⟩ removedState :=
      ⟨rfl, none, rfl⟩
    exact .cons rfl (.cons rfl (.cons rfl (.cons fails (.cons removes .nil))))
  exact cleaner_covers_records ((Run.alone reached served).snoc
    ⟨[], [], _, rfl, rfl, rfl, rfl⟩)

end Runs

end CallingService.Frontend
