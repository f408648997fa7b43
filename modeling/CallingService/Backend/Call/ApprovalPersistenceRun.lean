import CallingService.Backend.Call.ApprovalPersistence

/-!
# Nothing that was approved is lost

The requests of a call are made one after the other, and the newest one has
the current users unless a change still waits for its request.
-/

namespace CallingService.Backend.ApprovalPersistence

open Foundation

/-- The users of the newest request. -/
def lastBody (initial : Finset UserId) (tasks : List PersistTask) :
    Finset UserId :=
  (tasks.getLast?.map fun task => task.body.approvedUsers).getD initial

@[simp] theorem lastBody_snoc (initial : Finset UserId)
    (tasks : List PersistTask) (task : PersistTask) :
    lastBody initial (tasks ++ [task]) = task.body.approvedUsers := by
  simp [lastBody]

/-- The number of requests that repeat an earlier one. -/
def retries (tasks : List PersistTask) : Nat :=
  tasks.countP fun task => task.wait.isSome

@[simp] theorem retries_snoc (tasks : List PersistTask) (task : PersistTask) :
    retries (tasks ++ [task]) =
      retries tasks + if task.wait.isSome then 1 else 0 := by
  simp [retries, List.countP_cons]

/-! ## One request after the other -/

structure Sequential (users : ApprovedUsers) (runtime : Runtime) : Prop where
  mode : users.persistenceMode ≠ .off
  inside : runtime.current = true
  handle : ∀ {handle}, users.future = some handle →
    handle + 1 = runtime.tasks.length
  settled : users.future = none →
    ∀ {task}, task ∈ runtime.tasks → task.status ≠ none
  earlier : ∀ {earlier last}, runtime.tasks = earlier ++ [last] →
    ∀ {task}, task ∈ earlier → task.status ≠ none

namespace Sequential

variable {users : ApprovedUsers} {runtime : Runtime}

/-- A task without a status is the newest one. -/
theorem split_of_unfinished (sequential : Sequential users runtime)
    {handle : JoinHandle} {task : PersistTask}
    (found : runtime.tasks[handle]? = some task)
    (unfinished : task.status = none) :
    ∃ earlier, runtime.tasks = earlier ++ [task] ∧
      handle = earlier.length := by
  rcases List.eq_nil_or_concat runtime.tasks with empty | ⟨earlier, last, split⟩
  · simp [empty] at found
  · rw [List.concat_eq_append] at split
    refine ⟨earlier, ?_⟩
    rw [split] at found
    by_cases before : handle < earlier.length
    · rw [List.getElem?_append_left before] at found
      exact absurd unfinished
        (sequential.earlier split (List.mem_of_getElem? found))
    · have bound := (List.getElem?_eq_some_iff.mp found).1
      simp only [List.length_append, List.length_singleton] at bound
      have same : handle = earlier.length :=
        Nat.le_antisymm (Nat.le_of_lt_succ bound) (Nat.not_lt.mp before)
      subst same
      simp only [List.getElem?_concat_length, Option.some.injEq] at found
      exact ⟨found ▸ split, rfl⟩

/-- Once the handle has been found finished, no request is under way. -/
theorem taken (sequential : Sequential users runtime) {handle : JoinHandle}
    {status : Except JoinError StatusCode} (future : users.future = some handle)
    (finished : runtime.finished handle = some status) :
    Sequential { users with future := none } runtime where
  mode := sequential.mode
  inside := sequential.inside
  handle := by
    intro other absurd
    cases absurd
  settled := by
    intro _ task member unfinished
    obtain ⟨index, found⟩ := List.mem_iff_getElem?.mp member
    obtain ⟨earlier, split, -⟩ :=
      sequential.split_of_unfinished found unfinished
    have last := sequential.handle future
    have same : handle = earlier.length := by
      rw [split] at last
      simpa using last
    subst same
    simp [Runtime.finished, split, unfinished] at finished
  earlier := sequential.earlier

theorem spawn_eq (sequential : Sequential users runtime)
    (wait : Option Duration) :
    users.spawn runtime wait =
      ({ users with future := some runtime.tasks.length },
        { runtime with tasks := runtime.tasks ++
          [⟨users.persistenceMode, wait, ⟨users.set⟩, false, none⟩] }) := by
  simp [ApprovedUsers.spawn, sequential.mode, sequential.inside,
    Runtime.spawn]

theorem spawned (sequential : Sequential users runtime)
    (idle : users.future = none) (task : PersistTask) :
    Sequential { users with future := some runtime.tasks.length }
      { runtime with tasks := runtime.tasks ++ [task] } where
  mode := sequential.mode
  inside := sequential.inside
  handle := by
    intro handle future
    cases future
    simp
  settled := by
    intro absurd
    cases absurd
  earlier := by
    intro earlier last split other member
    obtain ⟨same, -⟩ := List.append_inj' split rfl
    rw [← same] at member
    exact sequential.settled idle member

/-- Changing the newest task while it is under way. -/
theorem replaced (sequential : Sequential users runtime)
    {earlier : List PersistTask} {task changed : PersistTask}
    (split : runtime.tasks = earlier ++ [task])
    (unfinished : task.status = none) :
    Sequential users { runtime with tasks := earlier ++ [changed] } where
  mode := sequential.mode
  inside := sequential.inside
  handle := by
    intro handle future
    have last := sequential.handle future
    rw [split] at last
    simpa using last
  settled := by
    intro idle
    have member : task ∈ runtime.tasks := by simp [split]
    exact (sequential.settled idle member unfinished).elim
  earlier := by
    intro others last resplit other member
    obtain ⟨same, -⟩ := List.append_inj' resplit rfl
    rw [← same] at member
    exact sequential.earlier split member

theorem atMostOne (sequential : Sequential users runtime) :
    (runtime.tasks.filter fun task => task.status.isNone).length ≤ 1 := by
  rcases List.eq_nil_or_concat runtime.tasks with empty | ⟨earlier, last, split⟩
  · simp [empty]
  · rw [List.concat_eq_append] at split
    have finished : earlier.filter (fun task => task.status.isNone) = [] := by
      rw [List.filter_eq_nil_iff]
      intro task member
      simpa using sequential.earlier split member
    rw [split, List.filter_append, finished, List.nil_append]
    exact List.length_filter_le _ [last]

end Sequential

/-! ## The tick -/

/-- The newest request has the current users unless they are modified, and is
repeated three times at most. -/
structure Tracked (initial : Finset UserId) (users : ApprovedUsers)
    (runtime : Runtime) : Prop where
  sequential : Sequential users runtime
  body : users.modified = false →
    lastBody initial runtime.tasks = users.set
  retryCount : users.retryCount ≤ 4
  exhausted : users.retryCount = 4 → users.future = none

/-- How many retries may still follow before the next change. -/
def retriesLeft (users : ApprovedUsers) : Nat :=
  if users.modified = true then 3
  else if users.future = none then 0
  else 3 - users.retryCount

theorem retriesLeft_le (users : ApprovedUsers) : retriesLeft users ≤ 3 := by
  unfold retriesLeft
  split
  · omega
  · split
    · omega
    · omega

namespace Tracked

variable {initial : Finset UserId} {users : ApprovedUsers} {runtime : Runtime}

/-- What `tick` may leave behind. -/
structure Advances (initial : Finset UserId) (users : ApprovedUsers)
    (runtime : Runtime) (after : ApprovedUsers × Runtime) : Prop where
  tracked : Tracked initial after.1 after.2
  set : after.1.set = users.set
  retries : retries after.2.tasks + retriesLeft after.1 ≤
    retries runtime.tasks + retriesLeft users
  tasks : ∃ added, after.2.tasks = runtime.tasks ++ added ∧
    ∀ {task}, task ∈ added → task.performed = false ∧ task.status = none

theorem refl (tracked : Tracked initial users runtime) :
    Advances initial users runtime (users, runtime) :=
  ⟨tracked, rfl, Nat.le_refl _, [], by simp, by simp⟩

theorem noticeStatus (tracked : Tracked initial users runtime)
    (backoff : Nat → Duration) {handle : JoinHandle}
    {status : Except JoinError StatusCode} (future : users.future = some handle)
    (finished : runtime.finished handle = some status) :
    Advances initial users runtime
      ({ users with future := none }.noticeStatus runtime backoff status) := by
  have idle := tracked.sequential.taken future finished
  have few : users.retryCount ≤ 3 := by
    have bound := tracked.retryCount
    have notExhausted : users.retryCount ≠ 4 := by
      intro exhausted
      rw [tracked.exhausted exhausted] at future
      cases future
    omega
  unfold ApprovedUsers.noticeStatus
  split
  · rename_i retrying
    have unmodified : users.modified = false := retrying.2
    have counted : Sequential
        { users with future := none, retryCount := users.retryCount + 1 }
        runtime :=
      ⟨idle.mode, idle.inside, idle.handle, idle.settled, idle.earlier⟩
    dsimp only
    split
    · refine ⟨⟨counted, tracked.body, by dsimp only; omega, fun _ => rfl⟩, rfl,
        ?_, [], by simp, by simp⟩
      simp [retriesLeft, unmodified]
    · rename_i notTooMany
      rw [counted.spawn_eq]
      refine ⟨⟨counted.spawned rfl _, by simp, by dsimp only; omega, ?_⟩, rfl,
        ?_, _, rfl, by simp⟩
      · intro exhausted
        dsimp only at exhausted
        omega
      · simp only [retries_snoc, Option.isSome_some, if_true, retriesLeft,
          unmodified, future, Bool.false_eq_true, if_false, reduceCtorEq]
        omega
  · refine ⟨⟨idle, tracked.body, tracked.retryCount, fun _ => rfl⟩, rfl, ?_,
      [], by simp, by simp⟩
    simp only [retriesLeft, future, if_true, reduceCtorEq, if_false]
    split
    · exact Nat.le_refl _
    · omega

theorem takeFinished (tracked : Tracked initial users runtime)
    (backoff : Nat → Duration) :
    Advances initial users runtime (users.takeFinished runtime backoff) := by
  unfold ApprovedUsers.takeFinished
  cases taken : users.future.bind runtime.finished with
  | none => exact tracked.refl
  | some status =>
      obtain ⟨handle, future, finished⟩ := Option.bind_eq_some_iff.mp taken
      exact tracked.noticeStatus backoff future finished

theorem persistModified (tracked : Tracked initial users runtime) :
    Advances initial users runtime (users.persistModified runtime) := by
  unfold ApprovedUsers.persistModified
  split
  · rename_i due
    have idle : Sequential { users with modified := false, retryCount := 0 }
        runtime :=
      ⟨tracked.sequential.mode, tracked.sequential.inside,
        tracked.sequential.handle, tracked.sequential.settled,
        tracked.sequential.earlier⟩
    rw [idle.spawn_eq]
    refine ⟨⟨idle.spawned due.2 _, by simp, by simp, by simp⟩, rfl, ?_,
      _, rfl, by simp⟩
    simp [retriesLeft, due.1]
  · exact tracked.refl

theorem tick (tracked : Tracked initial users runtime)
    (backoff : Nat → Duration) :
    Advances initial users runtime (users.tick runtime backoff) := by
  have first := tracked.takeFinished backoff
  have second := first.tracked.persistModified
  obtain ⟨early, earlyTasks, earlyFresh⟩ := first.tasks
  obtain ⟨late, lateTasks, lateFresh⟩ := second.tasks
  refine ⟨second.tracked, second.set.trans first.set,
    second.retries.trans first.retries, early ++ late, ?_, ?_⟩
  · rw [← List.append_assoc, ← earlyTasks]
    exact lateTasks
  · intro task member
    rcases List.mem_append.mp member with inEarly | inLate
    · exact earlyFresh inEarly
    · exact lateFresh inLate

end Tracked

/-! ## Changes -/

namespace PersistenceEvent

/-- Whether the event has changed the set. -/
def modifies : PersistenceEvent → Bool
  | .insert _ isNew => isNew
  | .remove _ wasMember => wasMember
  | .tick _ => false
  | .perform _ => false
  | .complete _ _ => false

/-- The status that the event reports. -/
def completion : PersistenceEvent → Option (Except JoinError StatusCode)
  | .complete _ ending => some ending.joined
  | .insert _ _ => none
  | .remove _ _ => none
  | .tick _ => none
  | .perform _ => none

end PersistenceEvent

/-- The status of the last completed request. -/
def lastCompletion (history : List PersistenceEvent) :
    Option (Except JoinError StatusCode) :=
  (history.filterMap PersistenceEvent.completion).getLast?

theorem lastCompletion_snoc (history : List PersistenceEvent)
    (event : PersistenceEvent) :
    lastCompletion (history ++ [event]) =
      event.completion.or (lastCompletion history) := by
  unfold lastCompletion
  cases completed : event.completion <;>
    simp [List.filterMap_append, completed]

/-- What an insertion or a removal may do to the users. -/
inductive Changes (users : ApprovedUsers) : ApprovedUsers × Bool → Prop where
  | unchanged : Changes users (users, false)
  | changed (set : Finset UserId) :
      Changes users ({ users with set := set, modified := true }, true)

theorem changes_insert (users : ApprovedUsers) (user : UserId) :
    Changes users (users.insert user) := by
  unfold ApprovedUsers.insert
  split
  · exact .unchanged
  · exact .changed _

theorem changes_remove (users : ApprovedUsers) (user : UserId) :
    Changes users (users.remove user) := by
  unfold ApprovedUsers.remove
  split
  · exact .changed _
  · exact .unchanged

namespace Tracked

variable {initial : Finset UserId} {users : ApprovedUsers} {runtime : Runtime}

theorem changed (tracked : Tracked initial users runtime)
    {after : ApprovedUsers × Bool} (changes : Changes users after) :
    Tracked initial after.1 runtime := by
  cases changes with
  | unchanged => exact tracked
  | changed set =>
      have sequential := tracked.sequential
      exact ⟨⟨sequential.mode, sequential.inside, sequential.handle,
        sequential.settled, sequential.earlier⟩, by simp, tracked.retryCount,
        tracked.exhausted⟩

theorem replaced (tracked : Tracked initial users runtime)
    {earlier : List PersistTask} {task changed : PersistTask}
    (split : runtime.tasks = earlier ++ [task])
    (unfinished : task.status = none) (sameBody : changed.body = task.body) :
    Tracked initial users { runtime with tasks := earlier ++ [changed] } where
  sequential := tracked.sequential.replaced split unfinished
  body := by
    intro unmodified
    have body := tracked.body unmodified
    rw [split] at body
    simpa [sameBody] using body
  retryCount := tracked.retryCount
  exhausted := tracked.exhausted

end Tracked

theorem retriesLeft_of_changes {users : ApprovedUsers}
    {after : ApprovedUsers × Bool} (changes : Changes users after) :
    retriesLeft after.1 ≤ retriesLeft users + if after.2 then 3 else 0 := by
  cases changes with
  | unchanged => simp
  | changed set => simp [retriesLeft]

/-! ## Runs -/

/-- The history of the requests fits the state. -/
structure Persisting (initial : Finset UserId)
    (history : List PersistenceEvent) (state : PersistenceState) : Prop where
  tracked : Tracked initial state.users state.runtime
  stored : ∀ {earlier last}, state.runtime.tasks = earlier ++ [last] →
    last.performed = true → state.persisted = last.body.approvedUsers
  performed : ∀ {task}, task ∈ state.runtime.tasks →
    task.status = some (.ok StatusCode.ok) → task.performed = true
  reported : ∀ {earlier last status},
    state.runtime.tasks = earlier ++ [last] → last.status = some status →
      lastCompletion history = some status
  unreported : state.runtime.tasks = [] → lastCompletion history = none

namespace Persisting

variable {initial : Finset UserId} {history : List PersistenceEvent}
variable {state next : PersistenceState}

theorem of_initial (users : List UserId) (url : String) (roomId : RoomId) :
    Persisting users.toFinset []
      (PersistenceState.initial users url roomId) where
  tracked :=
    { sequential :=
        { mode := by
            intro off
            cases off
          inside := rfl
          handle := by
            intro handle future
            cases future
          settled := by simp [PersistenceState.initial]
          earlier := by simp [PersistenceState.initial] }
      body := by
        intro _
        rfl
      retryCount := by simp [PersistenceState.initial, ApprovedUsers.new]
      exhausted := by simp [PersistenceState.initial, ApprovedUsers.new] }
  stored := by simp [PersistenceState.initial]
  performed := by simp [PersistenceState.initial]
  reported := by simp [PersistenceState.initial]
  unreported := by simp [lastCompletion]

variable {event : PersistenceEvent}

theorem changed (persisting : Persisting initial history state)
    {after : ApprovedUsers × Bool} (changes : Changes state.users after)
    (silent : event.completion = none) :
    Persisting initial (history ++ [event])
      { state with users := after.1 } where
  tracked := persisting.tracked.changed changes
  stored := persisting.stored
  performed := persisting.performed
  reported := by
    rw [lastCompletion_snoc, silent]
    exact persisting.reported
  unreported := by
    rw [lastCompletion_snoc, silent]
    exact persisting.unreported

theorem ticked (persisting : Persisting initial history state)
    {after : ApprovedUsers × Runtime}
    (advances : Tracked.Advances initial state.users state.runtime after)
    (silent : event.completion = none) :
    Persisting initial (history ++ [event])
      { state with users := after.1, runtime := after.2 } := by
  obtain ⟨added, tasks, fresh⟩ := advances.tasks
  have unchanged : lastCompletion (history ++ [event]) =
      lastCompletion history := by
    rw [lastCompletion_snoc, silent]
    rfl
  rcases List.eq_nil_or_concat added with rfl | ⟨others, newest, rfl⟩
  · rw [List.append_nil] at tasks
    refine ⟨advances.tracked, ?_, ?_, ?_, ?_⟩
    · simp only [tasks]
      exact persisting.stored
    · simp only [tasks]
      exact persisting.performed
    · simp only [tasks, unchanged]
      exact persisting.reported
    · simp only [tasks, unchanged]
      exact persisting.unreported
  · rw [List.concat_eq_append] at fresh tasks
    obtain ⟨notPerformed, unfinished⟩ := @fresh newest (by simp)
    have last : ∀ {earlier last}, after.2.tasks = earlier ++ [last] →
        last = newest := by
      intro earlier last split
      rw [tasks, ← List.append_assoc] at split
      obtain ⟨-, same⟩ := List.append_inj' split rfl
      exact (List.cons.inj same).1.symm
    refine ⟨advances.tracked, ?_, ?_, ?_, ?_⟩
    · intro earlier task split isPerformed
      rw [last split, notPerformed] at isPerformed
      cases isPerformed
    · intro task member status
      rw [tasks] at member
      rcases List.mem_append.mp member with old | new
      · exact persisting.performed old status
      · rw [(fresh new).2] at status
        cases status
    · intro earlier task status split finished
      rw [last split, unfinished] at finished
      cases finished
    · intro empty
      rw [tasks] at empty
      simp at empty

/-- The request under way changes: it takes effect, or it ends. -/
theorem replaced (persisting : Persisting initial history state)
    {earlier : List PersistTask} {task : PersistTask} (changed : PersistTask)
    {persisted : Finset UserId}
    (split : state.runtime.tasks = earlier ++ [task])
    (unfinished : task.status = none) (sameBody : changed.body = task.body)
    (stored : changed.performed = true →
      persisted = changed.body.approvedUsers)
    (performed : changed.status = some (.ok StatusCode.ok) →
      changed.performed = true)
    (reported : ∀ {status}, changed.status = some status →
      event.completion = some status) :
    Persisting initial (history ++ [event])
      { state with
        runtime := { state.runtime with tasks := earlier ++ [changed] }
        persisted := persisted } where
  tracked := persisting.tracked.replaced split unfinished sameBody
  stored := by
    intro others last resplit isPerformed
    obtain ⟨-, same⟩ := List.append_inj' resplit rfl
    cases same
    exact stored isPerformed
  performed := by
    intro other member status
    rcases List.mem_append.mp member with old | new
    · apply persisting.performed _ status
      rw [split]
      exact List.mem_append_left _ old
    · rw [List.mem_singleton.mp new] at status ⊢
      exact performed status
  reported := by
    intro others last status resplit finished
    obtain ⟨-, same⟩ := List.append_inj' resplit rfl
    cases same
    rw [lastCompletion_snoc, reported finished]
    rfl
  unreported := by simp

theorem replaceTask_of_split {earlier : List PersistTask}
    {task changed : PersistTask}
    (split : state.runtime.tasks = earlier ++ [task]) :
    state.replaceTask earlier.length changed =
      { state with
        runtime := { state.runtime with tasks := earlier ++ [changed] } } := by
  simp [PersistenceState.replaceTask, split]

theorem step (persisting : Persisting initial history state)
    (stepped : PersistenceStep state event next) :
    Persisting initial (history ++ [event]) next := by
  cases stepped with
  | insert => exact persisting.changed (changes_insert _ _) rfl
  | remove => exact persisting.changed (changes_remove _ _) rfl
  | tick => exact persisting.ticked (persisting.tracked.tick _) rfl
  | perform found unfinished =>
      rename_i task _
      obtain ⟨earlier, split, rfl⟩ :=
        persisting.tracked.sequential.split_of_unfinished found unfinished
      rw [replaceTask_of_split split]
      dsimp only
      apply persisting.replaced { task with performed := true } split
        unfinished rfl
      · intro _
        rfl
      · simp
      · intro status finished
        rw [unfinished] at finished
        cases finished
  | complete found unfinished effective =>
      rename_i task ending
      obtain ⟨earlier, split, rfl⟩ :=
        persisting.tracked.sequential.split_of_unfinished found unfinished
      rw [replaceTask_of_split split]
      apply persisting.replaced { task with status := some ending.joined }
        split unfinished rfl
      · have stored := persisting.stored split
        exact stored
      · intro status
        exact effective (Option.some.inj status)
      · exact id

/-- Without a change the retries that may follow are used up. -/
theorem retries_step (persisting : Persisting initial history state)
    (stepped : PersistenceStep state event next) :
    retries next.runtime.tasks + retriesLeft next.users ≤
      retries state.runtime.tasks + retriesLeft state.users +
        if event.modifies then 3 else 0 := by
  have replacedEq : ∀ {handle task} (changed : PersistTask),
      state.runtime.tasks[handle]? = some task → task.status = none →
        changed.wait = task.wait →
          retries (state.replaceTask handle changed).runtime.tasks =
            retries state.runtime.tasks := by
    intro handle task changed found unfinished sameWait
    obtain ⟨earlier, split, rfl⟩ :=
      persisting.tracked.sequential.split_of_unfinished found unfinished
    rw [replaceTask_of_split split]
    simp [split, sameWait]
  cases stepped with
  | insert =>
      rename_i user
      have left := retriesLeft_of_changes (changes_insert state.users user)
      rw [Nat.add_assoc]
      exact Nat.add_le_add_left left _
  | remove =>
      rename_i user
      have left := retriesLeft_of_changes (changes_remove state.users user)
      rw [Nat.add_assoc]
      exact Nat.add_le_add_left left _
  | tick =>
      rename_i backoff
      have advanced := (persisting.tracked.tick backoff).retries
      simpa [PersistenceEvent.modifies] using advanced
  | perform found unfinished =>
      rename_i task _
      have same :=
        replacedEq { task with performed := true } found unfinished rfl
      exact Nat.le_of_eq (congrArg (· + retriesLeft state.users) same)
  | complete found unfinished =>
      rename_i task ending _
      have same := replacedEq { task with status := some ending.joined }
        found unfinished rfl
      exact Nat.le_of_eq (congrArg (· + retriesLeft state.users) same)

theorem persisted_of_idle (persisting : Persisting initial history state)
    (idle : state.users.isBusy = false)
    (succeeded : lastCompletion history = some (.ok StatusCode.ok)) :
    state.persisted = state.users.set := by
  simp only [ApprovedUsers.isBusy, Bool.or_eq_false_iff,
    Option.isSome_eq_false_iff, Option.isNone_iff_eq_none] at idle
  obtain ⟨unmodified, noFuture⟩ := idle
  rcases List.eq_nil_or_concat state.runtime.tasks with
    empty | ⟨earlier, last, split⟩
  · rw [persisting.unreported empty] at succeeded
    cases succeeded
  · rw [List.concat_eq_append] at split
    have member : last ∈ state.runtime.tasks := by simp [split]
    obtain ⟨status, finished⟩ := Option.ne_none_iff_exists'.mp
      (persisting.tracked.sequential.settled noFuture member)
    have same := persisting.reported split finished
    rw [succeeded] at same
    cases same
    have body := persisting.tracked.body unmodified
    rw [split, lastBody_snoc] at body
    rw [← body]
    exact persisting.stored split (persisting.performed member finished)

end Persisting

section Runs

variable {users : List UserId} {url : String} {roomId : RoomId}
variable {history : List PersistenceEvent} {state : PersistenceState}

theorem persisting_of_run
    (run : Run PersistenceStep (.initial users url roomId) history state) :
    Persisting users.toFinset history state := by
  induction run with
  | nil => exact Persisting.of_initial users url roomId
  | snoc _ stepped ih => exact ih.step stepped

theorem retries_of_run
    (run : Run PersistenceStep (.initial users url roomId) history state) :
    retries state.runtime.tasks + retriesLeft state.users ≤
      3 * history.countP PersistenceEvent.modifies := by
  induction run with
  | nil => simp [PersistenceState.initial, ApprovedUsers.new, retries,
      retriesLeft]
  | snoc earlier stepped ih =>
      have step := (persisting_of_run earlier).retries_step stepped
      rw [List.countP_append, List.countP_singleton]
      split at step
      · rename_i modifies
        simp only [modifies, if_true]
        omega
      · rename_i keeps
        simp only [keeps, Bool.false_eq_true, if_false]
        omega

theorem retries_of_stretch {past between : List PersistenceEvent}
    {before : PersistenceState}
    (first : Run PersistenceStep (.initial users url roomId) past before)
    (second : Run PersistenceStep before between state)
    (unchanged : ∀ event ∈ between, event.modifies = false) :
    retries state.runtime.tasks + retriesLeft state.users ≤
      retries before.runtime.tasks + retriesLeft before.users := by
  induction second with
  | nil => exact Nat.le_refl _
  | snoc earlier stepped ih =>
      rename_i label middle finish
      have later := ih fun event member =>
        unchanged event (List.mem_append_left _ member)
      have keeps := unchanged label (by simp)
      have step :=
        (persisting_of_run (first.append earlier)).retries_step stepped
      rw [keeps] at step
      simp only [Bool.false_eq_true, if_false, Nat.add_zero] at step
      exact step.trans later

/-- What holds of the requests in every state of a run. -/
structure KeepsApprovals (users : List UserId) (url : String)
    (roomId : RoomId) (history : List PersistenceEvent)
    (state : PersistenceState) : Prop where
  oneInFlight : (state.runtime.tasks.filter fun task =>
    task.status.isNone).length ≤ 1
  body : state.users.modified = false →
    lastBody users.toFinset state.runtime.tasks = state.users.set
  persisted : state.users.isBusy = false →
    lastCompletion history = some (.ok StatusCode.ok) →
      state.persisted = state.users.set
  retriesOfChange : ∀ past between before,
    Run PersistenceStep (.initial users url roomId) past before →
    Run PersistenceStep before between state →
    (∀ event ∈ between, event.modifies = false) →
      retries state.runtime.tasks ≤ retries before.runtime.tasks + 3
  retriesOfChanges : retries state.runtime.tasks ≤
    3 * history.countP PersistenceEvent.modifies
  retryCount : state.users.retryCount ≤ 4

theorem approvals_kept
    (run : Run PersistenceStep (.initial users url roomId) history state) :
    KeepsApprovals users url roomId history state := by
  have persisting := persisting_of_run run
  refine ⟨persisting.tracked.sequential.atMostOne, persisting.tracked.body,
    persisting.persisted_of_idle, ?_, ?_, persisting.tracked.retryCount⟩
  · intro past between before first second unchanged
    have stretch := retries_of_stretch first second unchanged
    have bound := retriesLeft_le before.users
    omega
  · have total := retries_of_run run
    omega

end Runs

/-- The users of a call after Bob has been approved. -/
def bobApproved (modified : Bool) (future : Option JoinHandle) :
    ApprovedUsers :=
  ⟨{"bob"}, future, modified, .url "url" "room", 0⟩

def bobsTask (performed : Bool)
    (status : Option (Except JoinError StatusCode)) : PersistTask :=
  ⟨.url "url" "room", none, ⟨{"bob"}⟩, performed, status⟩

/-- The change is stored by the request of the next tick. -/
theorem approvals_kept_of_one_change :
    KeepsApprovals [] "url" "room"
      [.insert "bob" true, .tick fun _ => 0, .perform 0,
        .complete 0 (.responded StatusCode.ok), .tick fun _ => 0]
      ⟨bobApproved false none,
        ⟨true, [bobsTask true (some (.ok StatusCode.ok))]⟩, {"bob"}⟩ := by
  have inserted : PersistenceStep (.initial [] "url" "room")
      (.insert "bob" true) ⟨bobApproved true none, ⟨true, []⟩, ∅⟩ :=
    PersistenceStep.insert
  have spawned : PersistenceStep ⟨bobApproved true none, ⟨true, []⟩, ∅⟩
      (.tick fun _ => 0)
      ⟨bobApproved false (some 0), ⟨true, [bobsTask false none]⟩, ∅⟩ :=
    PersistenceStep.tick
  have performed : PersistenceStep
      ⟨bobApproved false (some 0), ⟨true, [bobsTask false none]⟩, ∅⟩
      (.perform 0)
      ⟨bobApproved false (some 0), ⟨true, [bobsTask true none]⟩, {"bob"}⟩ :=
    @PersistenceStep.perform _ 0 (bobsTask false none) rfl rfl rfl
  have completed : PersistenceStep
      ⟨bobApproved false (some 0), ⟨true, [bobsTask true none]⟩, {"bob"}⟩
      (.complete 0 (.responded StatusCode.ok))
      ⟨bobApproved false (some 0),
        ⟨true, [bobsTask true (some (.ok StatusCode.ok))]⟩, {"bob"}⟩ :=
    @PersistenceStep.complete _ 0 (bobsTask true none) _ rfl rfl fun _ => rfl
  have noticed : PersistenceStep
      ⟨bobApproved false (some 0),
        ⟨true, [bobsTask true (some (.ok StatusCode.ok))]⟩, {"bob"}⟩
      (.tick fun _ => 0)
      ⟨bobApproved false none,
        ⟨true, [bobsTask true (some (.ok StatusCode.ok))]⟩, {"bob"}⟩ :=
    PersistenceStep.tick
  exact approvals_kept
    (.snoc (.snoc (.snoc (.snoc (.snoc .nil inserted) spawned) performed)
      completed) noticed)

end CallingService.Backend.ApprovalPersistence
