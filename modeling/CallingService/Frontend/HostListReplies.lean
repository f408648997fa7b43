import CallingService.Foundation.WaitingCaller
import CallingService.Frontend.LoadBalancerCounters

/-!
# The replies to host lists

A caller that sends a host list waits until every host of its list has
reported a weight.  The history of the task shows its messages and effects; the
task serves its callers like a server with one waiting caller.
-/

namespace CallingService.Frontend

open Foundation

structure LoadBalancerEvent where
  message : LoadBalancerMessage
  effects : List LoadBalancerEffect

def LoadBalancerMessage.request :
    LoadBalancerMessage → Option (HostListReplySender × List Ipv4Addr)
  | .hostList sender hosts => some (sender, hosts)
  | .choose _ _ => none
  | .hostWeight _ _ => none

def LoadBalancerEffect.reply :
    LoadBalancerEffect → Option (HostListReplySender × Except String Unit)
  | .hostListReply sender reply => some (sender, reply)
  | .chosen _ => none
  | .startHealthcheck _ => none

namespace LoadBalancerEvent

/-- The part of an event that concerns the callers. -/
def turn (event : LoadBalancerEvent) :
    WaitingCaller.Turn HostListReplySender (Except String Unit) where
  call := event.message.request.map Prod.fst
  replies := event.effects.filterMap LoadBalancerEffect.reply

theorem mem_replies {event : LoadBalancerEvent} {sender : HostListReplySender}
    {reply : Except String Unit} :
    (sender, reply) ∈ event.turn.replies ↔
      .hostListReply sender reply ∈ event.effects := by
  unfold turn
  rw [List.mem_filterMap]
  constructor
  · rintro ⟨effect, member, shown⟩
    cases effect with
    | hostListReply other given =>
        cases shown
        exact member
    | chosen host => cases shown
    | startHealthcheck host => cases shown
  · intro member
    exact ⟨_, member, rfl⟩

end LoadBalancerEvent

namespace LoadBalancerTask

def turns (history : List LoadBalancerEvent) :
    List (WaitingCaller.Turn HostListReplySender (Except String Unit)) :=
  history.map LoadBalancerEvent.turn

@[simp] theorem turns_snoc (history : List LoadBalancerEvent)
    (event : LoadBalancerEvent) :
    turns (history ++ [event]) = turns history ++ [event.turn] := by
  simp [turns]

/-- The newest request and its hosts. -/
def latestList (history : List LoadBalancerEvent) :
    Option (HostListReplySender × List Ipv4Addr) :=
  (history.filterMap fun event => event.message.request).getLast?

theorem latestList_snoc (history : List LoadBalancerEvent)
    (event : LoadBalancerEvent) :
    latestList (history ++ [event]) =
      event.message.request.or (latestList history) := by
  unfold latestList
  cases requested : event.message.request <;>
    simp [List.filterMap_append, requested]

theorem getLast?_calls (history : List LoadBalancerEvent) :
    (WaitingCaller.calls (turns history)).getLast? =
      (latestList history).map Prod.fst := by
  unfold WaitingCaller.calls turns latestList
  rw [← List.getLast?_map, List.filterMap_map, List.map_filterMap]
  rfl

def Handling (profile : BuildProfile) (task : LoadBalancerTask)
    (event : LoadBalancerEvent) (next : LoadBalancerTask) : Prop :=
  task.Legal event.message ∧
    task.recv profile event.message = .ok (next, event.effects)

/-- A request waits as long as there are unchecked hosts. -/
def Settled (task : LoadBalancerTask) : Prop :=
  task.hostListReply = none ↔ task.uncheckedServers = 0

abbrev served : Except String Unit := .ok ()

abbrev superseded : Except String Unit := .error "concurrent updates"

/-! ## One message -/

variable {effects : List LoadBalancerEffect}

theorem reply_takeHosts {profile : BuildProfile} {hosts : List Ipv4Addr}
    {sorted final : HostSort}
    (taken : takeHosts profile hosts sorted = .ok (final, effects)) :
    effects.filterMap LoadBalancerEffect.reply = [] := by
  induction hosts generalizing sorted effects with
  | nil =>
      cases taken
      simp
  | cons head hosts ih =>
      unfold takeHosts at taken
      cases found : sorted.oldMap.lookup head with
      | some health =>
          simp only [found] at taken
          exact ih taken
      | none =>
          simp only [found, bind_eq_ok_iff] at taken
          obtain ⟨unchecked, -, ⟨rest, started⟩, restTaken, returned⟩ := taken
          cases returned
          simpa [LoadBalancerEffect.reply] using ih restTaken

theorem reply_supersededReply (task : LoadBalancerTask) :
    task.supersededReply.filterMap LoadBalancerEffect.reply =
      WaitingCaller.displacing superseded task.hostListReply := by
  unfold supersededReply
  cases task.hostListReply <;> rfl

/-- What `maybe_send_host_list_reply` shows while somebody waits. -/
theorem maybeSendHostListReply_of_some {task : LoadBalancerTask}
    {sender : HostListReplySender}
    (waiting : task.hostListReply = some sender) :
    (task.uncheckedServers = 0 ∧
        task.maybeSendHostListReply.1.hostListReply = none ∧
        task.maybeSendHostListReply.2 = [.hostListReply sender served]) ∨
      (task.uncheckedServers ≠ 0 ∧
        task.maybeSendHostListReply.1.hostListReply = some sender ∧
        task.maybeSendHostListReply.2 = []) := by
  unfold maybeSendHostListReply
  by_cases checked : task.uncheckedServers = 0
  · left
    simp [checked, waiting]
  · right
    simp [checked, waiting]

variable {profile : BuildProfile} {task next : LoadBalancerTask}
variable {host : Ipv4Addr}

private theorem answers_hostWeight (fit : task.CountersFit)
    (settled : task.Settled) {weight : UInt8}
    (updates : UpdatesWeight profile task host weight next effects) :
    WaitingCaller.Step served superseded task.hostListReply
        ⟨none, effects.filterMap LoadBalancerEffect.reply⟩
        next.hostListReply ∧
      next.Settled := by
  cases updates with
  | unlisted _ same =>
      rw [same]
      exact ⟨.idle, settled⟩
  | again _ _ _ _ _ unchecked reply =>
      unfold Settled
      rw [unchecked, reply]
      exact ⟨.idle, settled⟩
  | first found unknown _ _ _ settledUnchecked settledReply reply =>
      have unsettled : task.uncheckedServers ≠ 0 := by
        intro zero
        exact fit.uncheckedServers_eq_zero_iff.mp zero found unknown
      obtain ⟨sender, waiting⟩ :=
        Option.ne_none_iff_exists'.mp (mt settled.mp unsettled)
      unfold Settled
      rcases maybeSendHostListReply_of_some (settledReply.trans waiting) with
        ⟨checked, answered, sent⟩ | ⟨unchecked, kept, nothing⟩
      · rw [reply, answered, sent, waiting, ← settledUnchecked]
        exact ⟨.serve, by simp [checked]⟩
      · rw [reply, kept, nothing, waiting, ← settledUnchecked]
        exact ⟨.idle, by simp [unchecked]⟩

private theorem answers_hostList {sender : HostListReplySender}
    {hosts : List Ipv4Addr} {effects started : List LoadBalancerEffect}
    {sorted : HostSort} {left : WeightCounters} {settled : LoadBalancerTask}
    (replaces : ReplacesMap profile
      { task with hostListReply := some sender } hosts next effects sorted
      started left settled) :
    WaitingCaller.Step served superseded task.hostListReply
        ⟨some sender, (task.supersededReply ++ effects).filterMap
          LoadBalancerEffect.reply⟩
        next.hostListReply ∧
      next.Settled := by
  have shown : (task.supersededReply ++ effects).filterMap
        LoadBalancerEffect.reply =
      WaitingCaller.displacing superseded task.hostListReply ++
        settled.maybeSendHostListReply.2.filterMap
          LoadBalancerEffect.reply := by
    rw [replaces.effects]
    simp [List.filterMap_append, reply_supersededReply,
      reply_takeHosts replaces.taken]
  unfold Settled
  rw [shown, replaces.reply, replaces.unchecked, ← replaces.settledUnchecked]
  rcases maybeSendHostListReply_of_some replaces.settledReply with
    ⟨checked, answered, sent⟩ | ⟨unchecked, kept, nothing⟩
  · rw [answered, sent]
    exact ⟨.callServed, by simp [checked]⟩
  · rw [kept, nothing]
    simp only [List.filterMap_nil, List.append_nil]
    exact ⟨.call, by simp [unchecked]⟩

variable {event : LoadBalancerEvent}

theorem answers_of_handling (fit : task.CountersFit) (settled : task.Settled)
    (handling : Handling profile task event next) :
    WaitingCaller.Step served superseded task.hostListReply event.turn
        next.hostListReply ∧
      next.Settled := by
  obtain ⟨message, effects⟩ := event
  obtain ⟨legal, received⟩ := handling
  dsimp only at legal received
  cases message with
  | choose draw iteration =>
      simp only [recv, bind_eq_ok_iff] at received
      obtain ⟨⟨drawn, reply⟩, chosen, returned⟩ := received
      cases returned
      have draws := draws_of_choose chosen
      unfold Settled
      rw [draws.reply, draws.unchecked]
      exact ⟨.idle, settled⟩
  | hostList sender hosts =>
      simp only [recv, bind_eq_ok_iff] at received
      obtain ⟨⟨replaced, rest⟩, replacedEq, returned⟩ := received
      cases returned
      obtain ⟨sorted, started, left, settledTask, replaces⟩ :=
        replacesMap_of_ok replacedEq
      exact answers_hostList replaces
  | hostWeight host weight =>
      exact answers_hostWeight fit settled (updatesWeight_of_ok received)

/-! ## The table along a history -/

theorem Draws.mem_iff (draws : Draws task next) (host : Ipv4Addr) :
    host ∈ next.map ↔ host ∈ task.map := by
  have known := congrArg Option.isSome (draws.lookups host)
  simp only [Option.isSome_map] at known
  rw [← AList.lookup_isSome, ← AList.lookup_isSome, known]

theorem UpdatesWeight.mem_iff {weight : UInt8}
    (updates : UpdatesWeight profile task host weight next effects)
    (other : Ipv4Addr) : other ∈ next.map ↔ other ∈ task.map := by
  cases updates with
  | unlisted _ same => rw [same]
  | again found _ _ _ map | first found _ _ _ map =>
      rw [map, AList.mem_insert]
      apply or_iff_right_of_imp
      rintro rfl
      exact Table.mem_of_lookup found

/-- The host has reported the weight that is known of it. -/
def HasReported (history : List LoadBalancerEvent) (task : LoadBalancerTask)
    (host : Ipv4Addr) : Prop :=
  ∃ health weight, task.map.lookup host = some health ∧
    health.weight = some weight ∧
      .hostWeight host weight ∈ history.map LoadBalancerEvent.message

def Knows (task : LoadBalancerTask) (host : Ipv4Addr) (weight : UInt8) :
    Prop :=
  ∃ health, task.map.lookup host = some health ∧ health.weight = some weight

theorem UpdatesWeight.knows {weight : UInt8}
    (updates : UpdatesWeight profile task host weight next effects)
    {other : Ipv4Addr} {known : UInt8} (knows : next.Knows other known) :
    task.Knows other known ∨ (other = host ∧ known = weight) := by
  obtain ⟨health, found, weighed⟩ := knows
  have inserted : ∀ {before : ServerHealth}, next.map = task.map.insert host
      (task.reported before weight) →
        task.Knows other known ∨ (other = host ∧ known = weight) := by
    intro before map
    rw [map] at found
    by_cases same : other = host
    · subst same
      rw [AList.lookup_insert] at found
      cases found
      cases weighed
      exact .inr ⟨rfl, rfl⟩
    · rw [AList.lookup_insert_ne same] at found
      exact .inl ⟨health, found, weighed⟩
  cases updates with
  | unlisted _ same => exact .inl ⟨health, same ▸ found, weighed⟩
  | again _ _ _ _ map => exact inserted map
  | first _ _ _ _ map => exact inserted map

theorem Draws.knows (draws : Draws task next) {known : UInt8}
    (knows : next.Knows host known) :
    task.Knows host known := by
  obtain ⟨health, found, weighed⟩ := knows
  have before := draws.lookups host
  rw [found, Option.map_some, weighed] at before
  obtain ⟨old, foundOld, same⟩ := Option.map_eq_some_iff.mp before.symm
  exact ⟨old, foundOld, same⟩

/-- The task remembers the newest host list and the reports of its hosts. -/
structure Remembers (history : List LoadBalancerEvent)
    (task : LoadBalancerTask) : Prop where
  fit : task.CountersFit
  settled : task.Settled
  listed : ∀ {sender hosts}, latestList history = some (sender, hosts) →
    ∀ host, host ∈ task.map ↔ host ∈ hosts
  reported : ∀ {host weight}, task.Knows host weight →
    .hostWeight host weight ∈ history.map LoadBalancerEvent.message

theorem remembers_nil : Remembers [] default where
  fit := countersFit_default
  settled := by simp [Settled, default]
  listed := by simp [latestList]
  reported := by
    rintro host weight ⟨health, found, -⟩
    cases found

variable {history : List LoadBalancerEvent}

theorem Remembers.step (remembers : Remembers history task)
    (handling : Handling profile task event next) :
    Remembers (history ++ [event]) next := by
  obtain ⟨-, settled⟩ :=
    answers_of_handling remembers.fit remembers.settled handling
  obtain ⟨message, effects⟩ := event
  obtain ⟨legal, received⟩ := handling
  dsimp only at legal received
  have fit := remembers.fit.received legal received
  have earlier : ∀ {host weight}, task.Knows host weight →
      LoadBalancerMessage.hostWeight host weight ∈
        (history ++ [LoadBalancerEvent.mk message effects]).map
          LoadBalancerEvent.message := by
    intro host weight knows
    rw [List.map_append]
    exact List.mem_append_left _ (remembers.reported knows)
  refine ⟨fit, settled, ?_, ?_⟩
  · intro sender hosts latest host
    rw [latestList_snoc] at latest
    cases message with
    | choose draw iteration =>
        simp only [recv, bind_eq_ok_iff] at received
        obtain ⟨⟨drawn, reply⟩, chosen, returned⟩ := received
        cases returned
        rw [(draws_of_choose chosen).mem_iff]
        exact remembers.listed latest host
    | hostList other list =>
        cases latest
        simp only [recv, bind_eq_ok_iff] at received
        obtain ⟨⟨replaced, rest⟩, replacedEq, returned⟩ := received
        cases returned
        obtain ⟨sorted, started, left, settledTask, replaces⟩ :=
          replacesMap_of_ok replacedEq
        rw [replaces.map, mem_newMap_of_takeHosts replaces.taken]
        simp
    | hostWeight other weight =>
        rw [(updatesWeight_of_ok received).mem_iff]
        exact remembers.listed latest host
  · intro host weight knows
    cases message with
    | choose draw iteration =>
        simp only [recv, bind_eq_ok_iff] at received
        obtain ⟨⟨drawn, reply⟩, chosen, returned⟩ := received
        cases returned
        exact earlier ((draws_of_choose chosen).knows knows)
    | hostList other list =>
        simp only [recv, bind_eq_ok_iff] at received
        obtain ⟨⟨replaced, rest⟩, replacedEq, returned⟩ := received
        cases returned
        obtain ⟨sorted, started, left, settledTask, replaces⟩ :=
          replacesMap_of_ok replacedEq
        have waiting :
            CountersFit { task with hostListReply := some other } :=
          ⟨remembers.fit.totalWeight, remembers.fit.unchecked,
            remembers.fit.size⟩
        have sorts := waiting.sortsHosts legal.2 legal.1 replaces.taken
        obtain ⟨health, found, weighed⟩ := knows
        rw [replaces.map] at found
        rcases sorts.known found with old | new
        · exact earlier ⟨health, old, weighed⟩
        · rw [new] at weighed
          cases weighed
    | hostWeight other reportedWeight =>
        rcases (updatesWeight_of_ok received).knows knows with
          old | ⟨rfl, rfl⟩
        · exact earlier old
        · simp

theorem remembers_of_run (run : Run (Handling profile) default history task) :
    Remembers history task := by
  induction run with
  | nil => exact remembers_nil
  | snoc _ handling ih => exact ih.step handling

/-- The run of the task as a run of the server with one waiting caller. -/
theorem turns_of_run (run : Run (Handling profile) default history task) :
    Run (WaitingCaller.Step served superseded) none (turns history)
      task.hostListReply := by
  induction run with
  | nil => exact .nil
  | snoc earlier handling ih =>
      have remembers := remembers_of_run earlier
      rw [turns_snoc]
      exact .snoc ih
        (answers_of_handling remembers.fit remembers.settled handling).1

/-- Nobody needs to wait exactly when every host of the newest list has
reported. -/
theorem Remembers.unchecked_iff (remembers : Remembers history task)
    {sender : HostListReplySender} {hosts : List Ipv4Addr}
    (latest : latestList history = some (sender, hosts)) :
    task.uncheckedServers = 0 ↔
      ∀ host ∈ hosts, HasReported history task host := by
  rw [remembers.fit.uncheckedServers_eq_zero_iff]
  constructor
  · intro known host member
    have listed := (remembers.listed latest host).mpr member
    obtain ⟨health, found⟩ :=
      Option.isSome_iff_exists.mp (AList.lookup_isSome.mpr listed)
    obtain ⟨weight, weighed⟩ := Option.ne_none_iff_exists'.mp (known found)
    exact ⟨health, weight, found, weighed,
      remembers.reported ⟨health, found, weighed⟩⟩
  · intro reported host health found
    have member :=
      (remembers.listed latest host).mp (Table.mem_of_lookup found)
    obtain ⟨known, weight, foundKnown, weighed, -⟩ := reported host member
    rw [found] at foundKnown
    cases foundKnown
    simp [weighed]

/-! ## The replies of a run -/

/-- The replies that the sender has received. -/
def repliesTo (sender : HostListReplySender)
    (history : List LoadBalancerEvent) : List (Except String Unit) :=
  WaitingCaller.repliesTo sender (turns history)

def requesters (history : List LoadBalancerEvent) :
    List HostListReplySender :=
  WaitingCaller.calls (turns history)

/-- Counters and replies as the callers of the task may expect them. -/
structure Dependable (profile : BuildProfile)
    (history : List LoadBalancerEvent) (task : LoadBalancerTask) : Prop where
  totalWeight : task.totalWeight.toNat = Table.total weightOf task.map
  fits : Table.total weightOf task.map < 2 ^ 16
  unchecked : task.uncheckedServers.toNat = Table.total uncheckedOf task.map
  subtractions : ∀ message, task.Legal message →
    SubtractionsFit profile task message
  once : ∀ sender, (repliesTo sender history).length ≤ 1
  okReply : ∀ earlier event later moment,
    history = earlier ++ event :: later →
    Run (Handling profile) default (earlier ++ [event]) moment →
    ∀ sender, .hostListReply sender (.ok ()) ∈ event.effects ↔
      repliesTo sender earlier = [] ∧
        ∃ hosts, latestList (earlier ++ [event]) = some (sender, hosts) ∧
          ∀ host ∈ hosts, HasReported (earlier ++ [event]) moment host
  errorReply : ∀ earlier event later, history = earlier ++ event :: later →
    ∀ sender text, .hostListReply sender (.error text) ∈ event.effects ↔
      text = "concurrent updates" ∧ event.message.request ≠ none ∧
        sender ∈ requesters earlier ∧ repliesTo sender earlier = []

theorem nodup_requesters_of_split {history earlier later :
    List LoadBalancerEvent} (distinct : (requesters history).Nodup)
    (split : history = earlier ++ event :: later) :
    (requesters (earlier ++ [event])).Nodup := by
  rw [split, List.append_cons] at distinct
  unfold requesters turns WaitingCaller.calls at distinct ⊢
  rw [List.map_append, List.filterMap_append] at distinct
  exact (List.nodup_append.mp distinct).1

theorem okReply_iff {earlier : List LoadBalancerEvent}
    {moment : LoadBalancerTask}
    (run : Run (Handling profile) default (earlier ++ [event]) moment)
    (distinct : (requesters (earlier ++ [event])).Nodup)
    (sender : HostListReplySender) :
    .hostListReply sender (.ok ()) ∈ event.effects ↔
      repliesTo sender earlier = [] ∧
        ∃ hosts, latestList (earlier ++ [event]) = some (sender, hosts) ∧
          ∀ host ∈ hosts, HasReported (earlier ++ [event]) moment host := by
  obtain ⟨before, past, handling⟩ := run.last
  have remembers := remembers_of_run past
  have after := remembers.step handling
  obtain ⟨answers, -⟩ :=
    answers_of_handling remembers.fit remembers.settled handling
  unfold requesters at distinct
  rw [turns_snoc] at distinct
  have earlierDistinct := distinct
  rw [WaitingCaller.calls_snoc] at earlierDistinct
  have fits := WaitingCaller.fits_of_run (turns_of_run past)
    (List.nodup_append.mp earlierDistinct).1
  rw [← LoadBalancerEvent.mem_replies,
    WaitingCaller.served_iff (by simp) fits distinct answers, ← turns_snoc,
    getLast?_calls, show moment.hostListReply = none ↔ _ from after.settled]
  constructor
  · rintro ⟨checked, last, unanswered⟩
    obtain ⟨⟨requester, hosts⟩, latest, same⟩ :=
      Option.map_eq_some_iff.mp last
    cases same
    exact ⟨unanswered, hosts, latest,
      (after.unchecked_iff latest).mp checked⟩
  · rintro ⟨unanswered, hosts, latest, reported⟩
    exact ⟨(after.unchecked_iff latest).mpr reported, by simp [latest],
      unanswered⟩

theorem errorReply_iff {earlier : List LoadBalancerEvent}
    {moment : LoadBalancerTask}
    (run : Run (Handling profile) default (earlier ++ [event]) moment)
    (distinct : (requesters (earlier ++ [event])).Nodup)
    (sender : HostListReplySender) (text : String) :
    .hostListReply sender (.error text) ∈ event.effects ↔
      text = "concurrent updates" ∧ event.message.request ≠ none ∧
        sender ∈ requesters earlier ∧ repliesTo sender earlier = [] := by
  obtain ⟨before, past, handling⟩ := run.last
  have remembers := remembers_of_run past
  obtain ⟨answers, -⟩ :=
    answers_of_handling remembers.fit remembers.settled handling
  unfold requesters at distinct
  rw [turns_snoc, WaitingCaller.calls_snoc] at distinct
  have fits := WaitingCaller.fits_of_run (turns_of_run past)
    (List.nodup_append.mp distinct).1
  have called : event.turn.call ≠ none ↔ event.message.request ≠ none := by
    simp [LoadBalancerEvent.turn]
  have displaced := WaitingCaller.displaced_iff (by simp) fits answers sender
  rw [called, LoadBalancerEvent.mem_replies] at displaced
  constructor
  · intro sent
    have same : text = "concurrent updates" := by
      have shown := LoadBalancerEvent.mem_replies.mpr sent
      simpa using WaitingCaller.reply_cases answers shown
    subst same
    exact ⟨rfl, displaced.mp sent⟩
  · rintro ⟨rfl, newer⟩
    exact displaced.mpr newer

theorem dependable_of_run {history : List LoadBalancerEvent}
    (run : Run (Handling profile) default history task)
    (distinct : (requesters history).Nodup) :
    Dependable profile history task := by
  have remembers := remembers_of_run run
  have fits := WaitingCaller.fits_of_run (turns_of_run run) distinct
  have total := remembers.fit.totalWeight
  refine ⟨total, ?_, remembers.fit.unchecked, ?_, fits.once, ?_, ?_⟩
  · rw [← total]
    exact task.totalWeight.toNat_lt
  · intro message legal
    exact remembers.fit.subtractionsFit profile legal
  · intro earlier event later moment split reached sender
    exact okReply_iff reached (nodup_requesters_of_split distinct split)
      sender
  · intro earlier event later split sender text
    rw [split, List.append_cons] at run
    obtain ⟨moment, reached, -⟩ := run.split
    exact errorReply_iff reached (nodup_requesters_of_split distinct split)
      sender text

/-- The second request displaces the first one and waits for the report. -/
theorem dependable_of_displaced_request : Dependable .debug
    [⟨.hostList 0 [1], [.startHealthcheck 1]⟩,
      ⟨.hostList 1 [1], [.hostListReply 0 (.error "concurrent updates")]⟩,
      ⟨.hostWeight 1 5, [.hostListReply 1 (.ok ())]⟩] restartedUrn := by
  have listing : Handling .debug default
      ⟨.hostList 0 [1], [.startHealthcheck 1]⟩ listedHost :=
    ⟨⟨by decide, by decide⟩, rfl⟩
  have displacing : Handling .debug listedHost
      ⟨.hostList 1 [1], [.hostListReply 0 (.error "concurrent updates")]⟩
      { listedHost with hostListReply := some 1 } :=
    ⟨⟨by decide, by decide⟩, rfl⟩
  have checking : Handling .debug { listedHost with hostListReply := some 1 }
      ⟨.hostWeight 1 5, [.hostListReply 1 (.ok ())]⟩ restartedUrn :=
    ⟨trivial, rfl⟩
  exact dependable_of_run
    (.snoc (.snoc (.snoc .nil listing) displacing) checking) (by decide)

end LoadBalancerTask

end CallingService.Frontend
