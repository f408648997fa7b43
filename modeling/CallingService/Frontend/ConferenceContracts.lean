import CallingService.Frontend.Conference

/-!
# What a request may ask for

A request creates a record only with the permission to, joins a client only
to a call that it was told of, and removes a record only after its backend
has denied the call or where it is asked to.  Each handler keeps to this
whatever it is answered.
-/

namespace CallingService.Frontend

open Foundation Foundation.Handler Foundation.FallibleHandler Backend

variable {externals : ConferenceExternals}

/-! ## What a request knows -/

abbrev ConferenceExchanges (externals : ConferenceExternals) :=
  Exchanges (Question externals) (Question.Answer externals)

/-- What is known of the records under their keys, of the links of rooms and
the calls found there, and which answers have been heard. -/
structure Knowledge (externals : ConferenceExternals) where
  call : RoomId → CallRecord → Prop
  link : RoomId → CallLinkState → Option CallRecord → Prop
  heard : Exchange (Question externals) (Question.Answer externals) → Prop

structure Knowledge.Implies (known other : Knowledge externals) : Prop where
  call : ∀ key call, known.call key call → other.call key call
  link : ∀ roomId link found,
    known.link roomId link found → other.link roomId link found
  heard : ∀ exchange, known.heard exchange → other.heard exchange

/-- What the exchanges of a request tell it. -/
def told (past : ConferenceExchanges externals) : Knowledge externals where
  call key call :=
    ⟨.getCallRecord key, .ok (some call)⟩ ∈ past ∨
    (∃ roomId link, callLinkRoomKey roomId = key ∧
      ⟨.getCallLinkAndRecord roomId false, .ok (link, some call)⟩ ∈ past) ∨
    ∃ proposed : CallRecord, proposed.roomId = key ∧
      ⟨.getOrAddCallRecord proposed, .ok call⟩ ∈ past
  link roomId link found :=
    ⟨.getCallLinkAndRecord roomId false, .ok (some link, found)⟩ ∈ past
  heard exchange := exchange ∈ past

theorem told_implies {past later : ConferenceExchanges externals}
    (grown : past <+: later) : (told past).Implies (told later) where
  call := by
    rintro key call (read | ⟨roomId, link, isKey, read⟩ | ⟨proposed, isKey, added⟩)
    · exact .inl (grown.subset read)
    · exact .inr (.inl ⟨roomId, link, isKey, grown.subset read⟩)
    · exact .inr (.inr ⟨proposed, isKey, grown.subset added⟩)
  link _ _ _ read := grown.subset read
  heard _ heard := grown.subset heard

/-! ## Joins -/

/-- The link of the room is known with what is found of its call, it accepts
the credential, and it is not over. -/
structure LinkAccepts (known : Knowledge externals)
    (credential : externals.AuthCredential) (roomId : PlainRoomId)
    (link : CallLinkState) (found : Option CallRecord) : Prop where
  isLink : known.link roomId.text link found
  verified : ∃ currentTime, known.heard ⟨.now, currentTime⟩ ∧
    verifyCredential externals credential link currentTime = .ok ()
  running : ∃ now, known.heard ⟨.now, now⟩ ∧ link.isOver now = false

/-- The user may start a call in the room of this key. -/
inductive MayCreate (known : Knowledge externals) :
    ConferenceRequest externals → RoomId → UserId → Prop where
  | group {authorization : GroupAuthorization} {path : String}
      {region : Option String} {request : JoinRequest}
      (permission : authorization.userPermission = .createAndJoin) :
      MayCreate known
        (.join ⟨some authorization, none, none⟩ path region request)
        authorization.roomId.text authorization.userId
  | link {credential : externals.AuthCredential} {roomId : PlainRoomId}
      {path : String} {region : Option String} {request : JoinRequest}
      {link : CallLinkState}
      (accepts : LinkAccepts known credential roomId link none) :
      MayCreate known
        (.join ⟨none, some credential, some roomId⟩ path region request)
        ("adhoc:" ++ roomId.text) (externals.userIdOf credential)

/-- The record of a call that a request proposes. -/
structure Proposes (config : Config) (known : Knowledge externals)
    (origin : ConferenceRequest externals) (call : CallRecord) : Prop where
  permission : MayCreate known origin call.roomId call.creator
  backendIp : known.heard ⟨.selectIp, .ok call.backendIp⟩
  eraId : known.heard ⟨.randomHexString 16, call.eraId⟩
  backendRegion : call.backendRegion = config.region

/-- What a client is let in with, by who asks: a member of the group is no
admin and is not held up; a user of the link is let in as the link says. -/
inductive Admits (known : Knowledge externals) :
    ConferenceRequest externals → Admission → Prop where
  | group {authorization : GroupAuthorization} {path : String}
      {region : Option String} {request : JoinRequest} {call : CallRecord}
      (isCall : known.call authorization.roomId.text call) :
      Admits known
        (.join ⟨some authorization, none, none⟩ path region request)
        ⟨call, authorization.userId, .none, false, none⟩
  | link {credential : externals.AuthCredential} {roomId : PlainRoomId}
      {path : String} {region : Option String} {request : JoinRequest}
      {link : CallLinkState} {found : Option CallRecord} {call : CallRecord}
      (accepts : LinkAccepts known credential roomId link found)
      (isCall : known.call ("adhoc:" ++ roomId.text) call) :
      Admits known
        (.join ⟨none, some credential, some roomId⟩ path region request)
        ⟨call, externals.userIdOf credential, link.restrictions,
          decide (request.adminPasskey = some link.adminPasskey),
          some link.approvedUsers⟩

/-- The message that a join sends to the backend of the call. -/
inductive Sends (config : Config) (admitted : Admission) :
    ConferenceRequest externals → externals.Address → EraId →
      BackendJoinRequest → Prop where
  | mk {caller : Caller externals} {path : String} {region : Option String}
      {request : JoinRequest} {address : externals.Address}
      (here : admitted.call.backendRegion = config.region)
      (parsed : externals.parseAddress admitted.call.backendIp = some address) :
      Sends config admitted (.join caller path region request) address
        admitted.call.eraId
        (backendJoinRequest admitted.userId admitted.call
          (joinRequestWrapper request (region.getD config.region) admitted))

/-! ## Removals -/

def CallRecord.key (call : CallRecord) : CallRecordKey :=
  ⟨call.roomId, call.eraId⟩

/-- The backend of the call has answered with an error. -/
def Denied (known : Knowledge externals) (userId : Option UserId)
    (call : CallRecord) (failure : BackendError) : Prop :=
  ∃ address, externals.parseAddress call.backendIp = some address ∧
    known.heard ⟨.getClients address call.eraId userId, .error failure⟩

/-- Why a request removes the record of a key. -/
inductive Removal (known : Knowledge externals) :
    ConferenceRequest externals → CallRecordKey → Prop where
  | asked {key : CallRecordKey} : Removal known (.removeCallRecord key) key
  | askedInBatch {key : CallRecordKey} {keys : List CallRecordKey}
      (listed : key ∈ keys) : Removal known (.removeBatchCallRecords keys) key
  | denied {caller : Caller externals} {path : String} {userId : UserId}
      {call : CallRecord}
      (denial : Denied known (some userId) call .callNotFound) :
      Removal known (.getParticipants caller path) call.key
  | cleaned {calls : List CallRecord} {region : String} {call : CallRecord}
      (read : known.heard ⟨.getCallRecordsForRegion region, .ok calls⟩)
      (listed : call ∈ calls)
      (denial : externals.parseAddress call.backendIp = none ∨
        ∃ failure, Denied known none call failure) :
      Removal known .clean call.key

/-- What a request may ask for after these exchanges. -/
def Permitted (config : Config) (origin : ConferenceRequest externals)
    (past : ConferenceExchanges externals) : Question externals → Prop
  | .joinClient address eraId _ request =>
      ∃ admitted, Admits (told past) origin admitted ∧
        Sends config admitted origin address eraId request
  | .getOrAddCallRecord call => Proposes config (told past) origin call
  | .removeCallRecord key => Removal (told past) origin key
  | .removeBatchCallRecords keys =>
      ∀ key ∈ keys, Removal (told past) origin key
  | _ => True

/-! ## More knowledge -/

section Growth

variable {known other : Knowledge externals}
variable {origin : ConferenceRequest externals}

theorem LinkAccepts.mono {credential : externals.AuthCredential}
    {roomId : PlainRoomId} {link : CallLinkState} {found : Option CallRecord}
    (accepts : LinkAccepts known credential roomId link found)
    (implies : known.Implies other) :
    LinkAccepts other credential roomId link found where
  isLink := implies.link _ _ _ accepts.isLink
  verified := accepts.verified.imp fun _ => And.imp_left (implies.heard _)
  running := accepts.running.imp fun _ => And.imp_left (implies.heard _)

theorem MayCreate.mono {key : RoomId} {userId : UserId}
    (may : MayCreate known origin key userId) (implies : known.Implies other) :
    MayCreate other origin key userId := by
  cases may with
  | group permission => exact .group permission
  | link accepts => exact .link (accepts.mono implies)

theorem Proposes.mono {config : Config} {call : CallRecord}
    (proposes : Proposes config known origin call)
    (implies : known.Implies other) : Proposes config other origin call where
  permission := proposes.permission.mono implies
  backendIp := implies.heard _ proposes.backendIp
  eraId := implies.heard _ proposes.eraId
  backendRegion := proposes.backendRegion

theorem Admits.mono {admitted : Admission}
    (admits : Admits known origin admitted) (implies : known.Implies other) :
    Admits other origin admitted := by
  cases admits with
  | group isCall => exact .group (implies.call _ _ isCall)
  | link accepts isCall =>
      exact .link (accepts.mono implies) (implies.call _ _ isCall)

theorem Denied.mono {userId : Option UserId} {call : CallRecord}
    {failure : BackendError} (denied : Denied known userId call failure)
    (implies : known.Implies other) : Denied other userId call failure :=
  denied.imp fun _ => And.imp_right (implies.heard _)

theorem Removal.mono {key : CallRecordKey} (removal : Removal known origin key)
    (implies : known.Implies other) : Removal other origin key := by
  cases removal with
  | asked => exact .asked
  | askedInBatch listed => exact .askedInBatch listed
  | denied denial => exact .denied (denial.mono implies)
  | cleaned read listed denial =>
      refine .cleaned (implies.heard _ read) listed (denial.imp_right ?_)
      exact Exists.imp fun failure answered => answered.mono implies

end Growth

/-! ## Calls -/

section Contracts

variable {config : Config} {origin : ConferenceRequest externals}
variable {past : ConferenceExchanges externals}
variable {caller : Caller externals} {path : String} {region : Option String}
variable {request : JoinRequest} {call : CallRecord} {roomId : PlainRoomId}
variable {credential : externals.AuthCredential} {now : SystemTime}

theorem yields_getOrCreateCallRecord {roomId : RoomId} {canCreate : Bool}
    {userId : UserId}
    (may : canCreate = true → MayCreate (told past) origin roomId userId) :
    Yields (Permitted config origin)
      (fun later call => (told later).call roomId call) past
      (getOrCreateCallRecord externals config roomId canCreate userId) := by
  unfold getOrCreateCallRecord
  split
  case isTrue canCreate =>
    have selected : Yields (Permitted config origin)
        (fun later backendIp => ⟨.selectIp, .ok backendIp⟩ ∈ later) past
        (orFail FrontendError.internalError (@ask externals .selectIp)) := by
      refine yields_orFail ⟨trivial, ?_⟩
      rintro _ backendIp rfl
      exact List.mem_append_right _ List.mem_cons_self
    refine yields_bind selected ?_
    intro later backendIp grown heardIp
    refine yields_query_bind trivial fun eraId => yields_orFail ⟨?_, ?_⟩
    · exact {
        permission := (may canCreate).mono
          (told_implies (grown.trans (List.prefix_append _ _)))
        backendIp := List.mem_append_left _ heardIp
        eraId := List.mem_append_right _ List.mem_cons_self
        backendRegion := rfl }
    · rintro _ call rfl
      exact .inr (.inr ⟨_, rfl, List.mem_append_right _ List.mem_cons_self⟩)
  case isFalse cannotCreate =>
    have read : Yields (Permitted config origin)
        (fun later found => ⟨.getCallRecord roomId, .ok found⟩ ∈ later) past
        (orFail FrontendError.internalError
          (@ask externals (.getCallRecord roomId))) := by
      refine yields_orFail ⟨trivial, ?_⟩
      rintro _ found rfl
      exact List.mem_append_right _ List.mem_cons_self
    refine yields_bind read ?_
    intro later found grown heard
    refine yields_ofResult fun call isCall => ?_
    rw [okOr_eq_ok_iff.mp isCall] at heard
    exact .inl heard

theorem yields_groupAdmission {authorization : GroupAuthorization}
    (isOrigin : origin =
      .join ⟨some authorization, none, none⟩ path region request) :
    Yields (Permitted config origin)
      (fun later => Admits (told later) origin) past
      (groupAdmission externals config authorization) := by
  subst isOrigin
  refine yields_bind (yields_adapt (yields_getOrCreateCallRecord ?_)) ?_
  · intro canCreate
    apply MayCreate.group
    cases permission : authorization.userPermission with
    | joinAlreadyCreated =>
        rw [permission] at canCreate
        cases canCreate
    | createAndJoin => rfl
  · intro later call _ isCall
    exact yields_pure (.group isCall)

theorem callLinkRoomKey_plain (roomId : PlainRoomId) :
    callLinkRoomKey roomId.text = "adhoc:" ++ roomId.text := by
  unfold callLinkRoomKey
  apply if_neg
  intro isPrefix
  apply roomId.noColon
  exact (List.isPrefixOf_iff_prefix.mp isPrefix).subset (by decide)

theorem readLink_eq_ok
    {answer : Except StorageError (Option CallLinkState × Option CallRecord)}
    {link : CallLinkState} {found : Option CallRecord}
    (read : readLink answer = .ok (link, found)) :
    answer = .ok (some link, found) := by
  unfold readLink at read
  split at read
  · cases read
    rfl
  · cases read
  · cases read

/-- The call of an accepted link is known or is started. -/
theorem yields_linkCall {link : CallLinkState} {found : Option CallRecord}
    (accepts : LinkAccepts (told past) credential roomId link found) :
    Yields (Permitted config
        (.join ⟨none, some credential, some roomId⟩ path region request))
      (fun later call => (told later).call ("adhoc:" ++ roomId.text) call) past
      (found.elim (startLinkCall externals config roomId.text
        (externals.userIdOf credential) now) pure) := by
  rw [← callLinkRoomKey_plain]
  cases found with
  | some call =>
      exact yields_pure (.inr (.inl ⟨_, _, rfl, accepts.isLink⟩))
  | none =>
      refine yields_bind (yields_adapt (yields_getOrCreateCallRecord ?_)) ?_
      · rw [callLinkRoomKey_plain]
        exact fun _ => .link accepts
      · intro later call _ isCall
        refine yields_query_bind trivial fun _ => yields_pure ?_
        exact (told_implies (List.prefix_append _ _)).call _ _ isCall

theorem yields_linkAdmission
    (isOrigin : origin =
      .join ⟨none, some credential, some roomId⟩ path region request)
    (isNow : ⟨.now, now⟩ ∈ past) :
    Yields (Permitted config origin)
      (fun later => Admits (told later) origin) past
      (linkAdmission externals config credential roomId request.adminPasskey
        now) := by
  subst isOrigin
  refine yields_query_bind trivial fun answer => ?_
  refine yields_ofResult_bind fun (link, found) read => ?_
  refine yields_query_bind trivial fun currentTime => ?_
  refine yields_ofResult_bind fun _ verified => ?_
  refine yields_ofResult_bind fun _ running => ?_
  have accepts : LinkAccepts
      (told (past ++ [⟨.getCallLinkAndRecord roomId.text false, answer⟩] ++
        [⟨.now, currentTime⟩])) credential roomId link found := {
    isLink := by
      rw [readLink_eq_ok read]
      simp [told]
    verified := ⟨currentTime, by simp [told], verified⟩
    running := ⟨now, by simp [told, isNow], ensure_eq_ok_iff.mp running⟩ }
  apply yields_bind (yields_linkCall accepts)
  intro later call grown isCall
  exact yields_pure (.link (accepts.mono (told_implies grown)) isCall)

theorem yields_admission (isNow : ⟨.now, now⟩ ∈ past) :
    Yields (Permitted config (.join caller path region request))
      (fun later => Admits (told later) (.join caller path region request))
      past (admission externals config caller request.adminPasskey now) := by
  unfold admission
  split
  · exact yields_groupAdmission rfl
  · exact yields_linkAdmission rfl isNow
  · exact yields_throw
  · exact yields_throw

theorem redirected_eq_ok {stay : Unit}
    (stays : redirected externals config call path = .ok stay) :
    call.backendRegion = config.region := by
  unfold redirected getRedirectUri at stays
  by_contra elsewhere
  rw [if_pos elsewhere] at stays
  cases stays

theorem yields_joinClientToCall {admitted : Admission}
    (admits : Admits (told past) (.join caller path region request) admitted)
    (here : admitted.call.backendRegion = config.region) :
    Yields (Permitted config (.join caller path region request))
      (fun _ _ => True) past
      (joinClientToCall externals admitted.userId admitted.call
        (joinRequestWrapper request (region.getD config.region)
          admitted)) := by
  refine yields_query_bind trivial fun unmaskedId => ?_
  refine yields_ofResult_bind fun address parsed => ?_
  refine yields_any_bind (yields_orFail ⟨?_, fun _ _ _ => trivial⟩)
    fun _ _ => yields_pure trivial
  exact ⟨admitted, admits.mono (told_implies (List.prefix_append _ _)),
    .mk here (okOr_eq_ok_iff.mp parsed)⟩

theorem yields_join :
    Yields (Permitted config (.join caller path region request))
      (fun _ _ => True) past
      (join externals config caller path region request) := by
  refine yields_ofResult_bind fun _ _ => ?_
  refine yields_query_bind trivial fun now => ?_
  apply yields_bind (yields_admission (by simp))
  intro later admitted _ admits
  refine yields_ofResult_bind fun _ stays => ?_
  exact yields_any_bind (yields_adapt
    (yields_joinClientToCall admits (redirected_eq_ok stays)))
    fun _ _ => yields_pure trivial

/-! ## Participants -/

theorem yields_getClientIdsInCall {userId : UserId} :
    Yields (Permitted config (.getParticipants caller path))
      (fun _ _ => True) past (getClientIdsInCall externals call userId) := by
  refine yields_ofResult_bind fun address parsed => ?_
  refine yields_query_bind trivial fun answer => ?_
  unfold clientsOutcome
  split
  · exact yields_ofResult fun _ _ => trivial
  · have denied : Denied (told (past ++ [⟨.getClients address call.eraId
        (some userId), .error .callNotFound⟩])) (some userId) call
          .callNotFound :=
      ⟨address, okOr_eq_ok_iff.mp parsed, by simp [told]⟩
    exact yields_query_bind (.denied denied) fun _ => yields_throw
  · exact yields_throw

theorem yields_participantsTarget :
    Yields (Permitted config (.getParticipants caller path))
      (fun _ _ => True) past (participantsTarget externals caller) := by
  unfold participantsTarget
  split
  · refine yields_any_bind (yields_adapt ?_) fun _ _ => yields_pure trivial
    exact yields_any_bind (yields_orFail ⟨trivial, fun _ _ _ => trivial⟩)
      fun _ _ => yields_ofResult fun _ _ => trivial
  · refine yields_query_bind trivial fun answer => ?_
    refine yields_ofResult_bind fun (link, found) _ => ?_
    refine yields_query_bind trivial fun currentTime => ?_
    refine yields_ofResult_bind fun _ _ => ?_
    refine yields_any_bind ?_ fun _ _ => yields_pure trivial
    cases found with
    | some call => exact yields_pure trivial
    | none => exact yields_query_bind trivial fun _ => yields_throw
  · exact yields_throw
  · exact yields_throw

theorem yields_getParticipants :
    Yields (Permitted config (.getParticipants caller path))
      (fun _ _ => True) past
      (getParticipants externals config caller path) := by
  refine yields_any_bind yields_participantsTarget fun later target => ?_
  refine yields_ofResult_bind fun _ _ => ?_
  exact yields_any_bind (yields_adapt yields_getClientIdsInCall)
    fun _ _ => yields_pure trivial

/-! ## The cleaner -/

/-- The calls were read for the cleaner. -/
def WereRead (past : ConferenceExchanges externals)
    (calls : List CallRecord) : Prop :=
  ∃ region, ⟨.getCallRecordsForRegion region, .ok calls⟩ ∈ past

/-- The backend of the call has confirmed it. -/
def Confirmed (past : ConferenceExchanges externals)
    (call : CallRecord) : Prop :=
  ∃ address response, externals.parseAddress call.backendIp = some address ∧
    ⟨.getClients address call.eraId none, .ok response⟩ ∈ past

/-- The key was in a batch that failed, and this came after it. -/
def AfterFailedBatch (past : ConferenceExchanges externals)
    (key : CallRecordKey) (since : ConferenceExchanges externals) : Prop :=
  ∃ before keys failure, key ∈ keys ∧
    past = before ++ ⟨.removeBatchCallRecords keys, .error failure⟩ :: since

/-- The record of the key was removed in a batch, or was asked to be removed
by itself after its batch failed. -/
def Attempted (past : ConferenceExchanges externals)
    (key : CallRecordKey) : Prop :=
  (∃ keys, key ∈ keys ∧ ⟨.removeBatchCallRecords keys, .ok ()⟩ ∈ past) ∨
    ∃ since answer, AfterFailedBatch past key since ∧
      ⟨.removeCallRecord key, answer⟩ ∈ since

theorem AfterFailedBatch.append {since more : ConferenceExchanges externals}
    {key : CallRecordKey} (failed : AfterFailedBatch past key since) :
    AfterFailedBatch (past ++ more) key (since ++ more) := by
  obtain ⟨before, keys, failure, listed, rfl⟩ := failed
  exact ⟨before, keys, failure, listed, by simp⟩

theorem Confirmed.mono {later : ConferenceExchanges externals} {call : CallRecord}
    (confirmed : Confirmed past call) (grown : past <+: later) :
    Confirmed later call := by
  obtain ⟨address, response, parsed, heard⟩ := confirmed
  exact ⟨address, response, parsed, grown.subset heard⟩

theorem Attempted.mono {later : ConferenceExchanges externals}
    {key : CallRecordKey}
    (attempted : Attempted past key) (grown : past <+: later) :
    Attempted later key := by
  rcases attempted with ⟨keys, listed, heard⟩ | ⟨since, answer, failed, heard⟩
  · exact .inl ⟨keys, listed, grown.subset heard⟩
  · obtain ⟨more, rfl⟩ := grown
    exact .inr ⟨since ++ more, answer, failed.append,
      List.mem_append_left _ heard⟩

theorem keeps_doesCallExistOnBackend {calls : List CallRecord}
    {call : CallRecord} (read : WereRead past calls) (listed : call ∈ calls) :
    (doesCallExistOnBackend externals call).Keeps (Permitted config .clean)
      (fun later exist => exist = true ∧ Confirmed later call ∨
        exist = false ∧ Removal (told later) .clean call.key) past := by
  obtain ⟨region, heard⟩ := read
  unfold doesCallExistOnBackend
  split
  case h_1 unreadable =>
    exact .inr ⟨rfl, .cleaned heard listed (.inl unreadable)⟩
  case h_2 address parsed =>
    refine ⟨trivial, fun answer => ?_⟩
    cases answer with
    | ok response =>
        exact .inl ⟨rfl, address, response, parsed, by simp⟩
    | error failure =>
        exact .inr ⟨rfl, .cleaned (List.mem_append_left _ heard) listed
          (.inr ⟨failure, address, parsed, by simp [told]⟩)⟩

/-- Each call is confirmed or is to be removed, and there is a reason for each
key that is. -/
theorem keeps_callsToRemove {calls remaining : List CallRecord}
    (read : WereRead past calls) (listed : remaining ⊆ calls) :
    (callsToRemove externals remaining).Keeps (Permitted config .clean)
      (fun later keys => (∀ key ∈ keys, Removal (told later) .clean key) ∧
        ∀ call ∈ remaining, Confirmed later call ∨ call.key ∈ keys) past := by
  induction remaining generalizing past with
  | nil => exact ⟨by simp, by simp⟩
  | cons call remaining ih =>
      rw [List.cons_subset] at listed
      apply keeps_bind.mpr
      apply (keeps_doesCallExistOnBackend read listed.1).prefixed.mono
      rintro later exist ⟨grown, known⟩
      obtain ⟨region, heard⟩ := read
      apply keeps_bind.mpr
      apply (ih ⟨region, grown.subset heard⟩ listed.2).prefixed.mono
      rintro latest keys ⟨further, reasons, covered⟩
      rcases known with ⟨rfl, confirmed⟩ | ⟨rfl, reason⟩
      · refine ⟨reasons, fun other member => ?_⟩
        rcases List.mem_cons.mp member with rfl | rest
        · exact .inl (confirmed.mono further)
        · exact covered other rest
      · refine ⟨fun key member => ?_, fun other member => ?_⟩
        · rcases List.mem_cons.mp member with rfl | rest
          · exact reason.mono (told_implies further)
          · exact reasons key rest
        · rcases List.mem_cons.mp member with rfl | rest
          · exact .inr List.mem_cons_self
          · exact (covered other rest).imp_right (List.mem_cons_of_mem _)

theorem keeps_removeEach {keys : List CallRecordKey}
    (reasons : ∀ key ∈ keys, Removal (told past) .clean key)
    (failed : ∀ key ∈ keys, ∃ since, AfterFailedBatch past key since) :
    (removeEach externals keys).Keeps (Permitted config .clean)
      (fun later _ => ∀ key ∈ keys, Attempted later key) past := by
  induction keys generalizing past with
  | nil => simp [removeEach, pure, Handler.Keeps]
  | cons key keys ih =>
      refine ⟨reasons key List.mem_cons_self, fun answer => ?_⟩
      have remaining : ∀ other ∈ keys, Removal
          (told (past ++ [⟨.removeCallRecord key, answer⟩])) .clean other :=
        fun other member => (reasons other (List.mem_cons_of_mem _ member)).mono
          (told_implies (List.prefix_append _ _))
      have others : ∀ other ∈ keys, ∃ since, AfterFailedBatch
          (past ++ [⟨.removeCallRecord key, answer⟩]) other since :=
        fun other member =>
          have ⟨_, failure⟩ := failed other (List.mem_cons_of_mem _ member)
          ⟨_, failure.append⟩
      apply (ih remaining others).prefixed.mono
      rintro later _ ⟨grown, attempted⟩ other member
      rcases List.mem_cons.mp member with rfl | rest
      · obtain ⟨since, failure⟩ := failed other List.mem_cons_self
        have asked : Attempted
            (past ++ [⟨.removeCallRecord other, answer⟩]) other :=
          .inr ⟨_, answer, failure.append, by simp⟩
        exact asked.mono grown
      · exact attempted other rest

theorem keeps_removeChunk {chunk : List CallRecordKey}
    (reasons : ∀ key ∈ chunk, Removal (told past) .clean key) :
    (removeChunk externals chunk).Keeps (Permitted config .clean)
      (fun later _ => ∀ key ∈ chunk, Attempted later key) past := by
  refine ⟨reasons, fun answer => ?_⟩
  cases answer with
  | ok done =>
      exact fun key member => .inl ⟨chunk, member, by simp⟩
  | error failure =>
      apply keeps_removeEach
      · exact fun key member =>
          (reasons key member).mono (told_implies (List.prefix_append _ _))
      · exact fun key member => ⟨[], past, chunk, failure, member, rfl⟩

theorem keeps_removeChunks {chunks : List (List CallRecordKey)}
    (reasons : ∀ key ∈ chunks.flatten, Removal (told past) .clean key) :
    (removeChunks externals chunks).Keeps (Permitted config .clean)
      (fun later _ => ∀ key ∈ chunks.flatten, Attempted later key) past := by
  induction chunks generalizing past with
  | nil => simp [removeChunks, pure, Handler.Keeps]
  | cons chunk chunks ih =>
      rw [List.flatten_cons, List.forall_mem_append] at reasons
      apply keeps_bind.mpr
      apply (keeps_removeChunk reasons.1).prefixed.mono
      rintro later _ ⟨grown, attempted⟩
      apply (ih fun key member =>
        (reasons.2 key member).mono (told_implies grown)).prefixed.mono
      rintro latest _ ⟨further, others⟩
      rw [List.flatten_cons, List.forall_mem_append]
      exact ⟨fun key member => (attempted key member).mono further, others⟩

theorem keeps_cleanCalls {calls : List CallRecord}
    (read : WereRead past calls) :
    (cleanCalls externals calls).Keeps (Permitted config .clean)
      (fun later _ =>
        ∀ call ∈ calls, Confirmed later call ∨ Attempted later call.key)
      past := by
  refine ⟨trivial, fun ordered => ?_⟩
  obtain ⟨region, heard⟩ := read
  have stillRead : WereRead
      (past ++ [⟨.completionOrder calls, ordered⟩]) calls :=
    ⟨region, List.mem_append_left _ heard⟩
  change (Handler.bind (callsToRemove externals ordered.val)
    fun keys => removeChunks externals (chunks 100 keys)).Keeps _ _ _
  apply keeps_bind.mpr
  apply (keeps_callsToRemove stillRead ordered.property.subset).mono
  rintro later keys ⟨reasons, covered⟩
  have whole := flatten_chunks (by decide : 0 < 100) keys
  apply (keeps_removeChunks (whole.symm ▸ reasons)).prefixed.mono
  rintro latest _ ⟨grown, attempted⟩ call member
  rw [whole] at attempted
  rcases covered call (ordered.property.mem_iff.mpr member) with
    confirmed | listed
  · exact .inl (confirmed.mono grown)
  · exact .inr (attempted call.key listed)

/-- A pass reads the calls first.  After it each of them is confirmed by its
backend, or the removal of its record has been attempted. -/
def PassCovers (config : Config) (past : ConferenceExchanges externals) : Prop :=
  ∃ answer rest,
    past = ⟨.getCallRecordsForRegion config.region, answer⟩ :: rest ∧
    ∀ calls, answer = .ok calls →
      ∀ call ∈ calls, Confirmed past call ∨ Attempted past call.key

theorem keeps_cleanerPass :
    (cleanerPass externals config).Keeps (Permitted config .clean)
      (fun later _ => PassCovers config later) [] := by
  refine ⟨trivial, fun answer => ?_⟩
  cases answer with
  | error failure => exact ⟨_, [], rfl, fun calls same => by cases same⟩
  | ok calls =>
      change Handler.Keeps _ _ _ (if calls = [] then _ else _)
      split
      case isTrue empty =>
        refine ⟨_, [], rfl, ?_⟩
        rintro others ⟨⟩ call member
        rw [empty] at member
        cases member
      case isFalse =>
        apply (keeps_cleanCalls
          ⟨config.region, List.mem_cons_self⟩).prefixed.mono
        rintro later _ ⟨⟨rest, rfl⟩, covered⟩
        refine ⟨_, rest, rfl, ?_⟩
        rintro others ⟨⟩
        exact covered

/-! ## All requests -/

theorem keeps_replyOf {α : Type} {form : α → Reply}
    {handler : FallibleConference externals Refusal α}
    (yields : Yields (Permitted config origin) (fun _ _ => True) past
      handler) :
    (replyOf externals form handler).Keeps (Permitted config origin)
      (fun _ _ => True) past := by
  apply keeps_bind.mpr
  apply Keeps.mono yields
  intro later result _
  cases result with
  | ok value => trivial
  | error refusal => trivial

/-- What a request has done when it ends. -/
def Completes (config : Config) (past : ConferenceExchanges externals) :
    ConferenceRequest externals → Prop
  | .clean => PassCovers config past
  | _ => True

theorem keeps_handle (origin : ConferenceRequest externals) :
    (handle externals config origin).Keeps (Permitted config origin)
      (fun later _ => Completes config later origin) [] := by
  cases origin with
  | join caller path region request => exact keeps_replyOf yields_join
  | getParticipants caller path => exact keeps_replyOf yields_getParticipants
  | removeCallRecord key =>
      apply keeps_replyOf
      refine yields_ofResult_bind fun _ _ => ?_
      exact yields_orFail ⟨.asked, fun _ _ _ => trivial⟩
  | removeBatchCallRecords keys =>
      apply keeps_replyOf
      unfold removeBatchCallRecordsHandler
      split
      · exact yields_pure trivial
      · exact yields_orFail
          ⟨fun key listed => .askedInBatch listed, fun _ _ _ => trivial⟩
  | updateApproval roomId approvedUsers =>
      apply keeps_replyOf
      exact yields_query_bind trivial fun _ =>
        yields_ofResult fun _ _ => trivial
  | clean =>
      apply keeps_bind.mpr
      apply keeps_cleanerPass.mono
      exact fun later _ covers => covers

end Contracts

end CallingService.Frontend
