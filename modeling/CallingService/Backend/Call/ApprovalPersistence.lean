import CallingService.Backend.Call.Membership
import CallingService.Foundation.Run

/-!
# Persisting the approved users

The approved users of a call are stored by requests to the frontend.  A request
is a task of the asynchronous runtime; its handle is kept until `tick` finds it
finished.  Changes that arrive meanwhile are stored by a later request, and a
request that fails is repeated a few times.
-/

namespace CallingService.Backend.ApprovalPersistence

open Foundation

abbrev StatusCode := Nat

namespace StatusCode

def ok : StatusCode := 200

def requestTimeout : StatusCode := 408

def internalServerError : StatusCode := 500

end StatusCode

inductive JoinError where
  | cancelled
  | panicked
deriving DecidableEq, Repr

structure FlatApprovedUsers where
  approvedUsers : Finset UserId
deriving DecidableEq

inductive PersistenceMode where
  | off
  | url (url : String) (roomId : RoomId)
deriving DecidableEq, Repr

/-! ## The runtime -/

/-- A spawned request.  It may wait before it is sent, takes effect when the
frontend performs it, and reports a status when it ends. -/
structure PersistTask where
  mode : PersistenceMode
  wait : Option Duration
  body : FlatApprovedUsers
  performed : Bool
  status : Option (Except JoinError StatusCode)

/-- How the task of a request ends. -/
inductive TaskEnd where
  | responded (status : StatusCode)
  | timedOut
  | notSent
  | aborted (error : JoinError)
deriving DecidableEq, Repr

/-- What awaiting the handle of the task returns. -/
def TaskEnd.joined : TaskEnd → Except JoinError StatusCode
  | .responded status => .ok status
  | .timedOut => .ok StatusCode.requestTimeout
  | .notSent => .ok StatusCode.internalServerError
  | .aborted error => .error error

abbrev JoinHandle := Nat

structure Runtime where
  /-- Whether the caller runs inside the runtime. -/
  current : Bool
  tasks : List PersistTask

namespace Runtime

def spawn (runtime : Runtime) (task : PersistTask) : JoinHandle × Runtime :=
  (runtime.tasks.length, { runtime with tasks := runtime.tasks ++ [task] })

/-- The status of a finished task. -/
def finished (runtime : Runtime) (handle : JoinHandle) :
    Option (Except JoinError StatusCode) :=
  runtime.tasks[handle]?.bind PersistTask.status

end Runtime

/-! ## Approved users -/

structure ApprovedUsers where
  set : Finset UserId
  future : Option JoinHandle
  modified : Bool
  persistenceMode : PersistenceMode
  retryCount : Nat

namespace ApprovedUsers

def new (users : List UserId) (persistenceMode : PersistenceMode) :
    ApprovedUsers where
  set := users.toFinset
  future := none
  modified := false
  persistenceMode := persistenceMode
  retryCount := 0

def insert (users : ApprovedUsers) (user : UserId) : ApprovedUsers × Bool :=
  if user ∈ users.set then (users, false)
  else ({ users with set := Insert.insert user users.set, modified := true },
    true)

def remove (users : ApprovedUsers) (user : UserId) : ApprovedUsers × Bool :=
  if user ∈ users.set then
    ({ users with set := users.set.erase user, modified := true }, true)
  else (users, false)

def spawn (users : ApprovedUsers) (runtime : Runtime)
    (wait : Option Duration) : ApprovedUsers × Runtime :=
  if users.persistenceMode = .off ∨ runtime.current = false then
    ({ users with modified := false }, runtime)
  else
    let (handle, runtime) := runtime.spawn {
      mode := users.persistenceMode
      wait
      body := ⟨users.set⟩
      performed := false
      status := none }
    ({ users with future := some handle }, runtime)

def isBusy (users : ApprovedUsers) : Bool :=
  users.modified || users.future.isSome

def needsRetry : Except JoinError StatusCode → Bool
  | .ok status => decide (status ≠ StatusCode.ok)
  | .error _ => false

/-- A failed request is repeated up to three times, unless its users are out
of date.  `backoff` draws the waiting time for the given retry. -/
def noticeStatus (users : ApprovedUsers) (runtime : Runtime)
    (backoff : Nat → Duration) (status : Except JoinError StatusCode) :
    ApprovedUsers × Runtime :=
  if needsRetry status ∧ users.modified = false then
    let users := { users with retryCount := users.retryCount + 1 }
    if 3 < users.retryCount then (users, runtime)
    else users.spawn runtime (some (backoff users.retryCount))
  else (users, runtime)

def takeFinished (users : ApprovedUsers) (runtime : Runtime)
    (backoff : Nat → Duration) : ApprovedUsers × Runtime :=
  match users.future.bind runtime.finished with
  | none => (users, runtime)
  | some status =>
      { users with future := none }.noticeStatus runtime backoff status

def persistModified (users : ApprovedUsers) (runtime : Runtime) :
    ApprovedUsers × Runtime :=
  if users.modified = true ∧ users.future = none then
    { users with modified := false, retryCount := 0 }.spawn runtime none
  else (users, runtime)

def tick (users : ApprovedUsers) (runtime : Runtime)
    (backoff : Nat → Duration) : ApprovedUsers × Runtime :=
  let (users, runtime) := users.takeFinished runtime backoff
  users.persistModified runtime

/-- The part that the other functions of a call see. -/
def reduced (users : ApprovedUsers) : Backend.ApprovedUsers :=
  ⟨users.set, users.modified⟩

theorem reduced_insert (users : ApprovedUsers) (user : UserId) :
    (users.insert user).1.reduced = users.reduced.insert user := by
  unfold insert Backend.ApprovedUsers.insert
  by_cases member : user ∈ users.set
  · simp [reduced, member]
  · simp [reduced, member]

theorem reduced_remove (users : ApprovedUsers) (user : UserId) :
    (users.remove user).1.reduced = users.reduced.remove user := by
  unfold remove Backend.ApprovedUsers.remove
  by_cases member : user ∈ users.set
  · simp [reduced, member]
  · simp [reduced, member]

end ApprovedUsers

/-! ## The users, their requests and the stored set -/

structure PersistenceState where
  users : ApprovedUsers
  runtime : Runtime
  persisted : Finset UserId

namespace PersistenceState

/-- The stored set is the one that the call was created with. -/
def initial (users : List UserId) (url : String) (roomId : RoomId) :
    PersistenceState where
  users := ApprovedUsers.new users (.url url roomId)
  runtime := ⟨true, []⟩
  persisted := users.toFinset

def replaceTask (state : PersistenceState) (handle : JoinHandle)
    (task : PersistTask) : PersistenceState :=
  { state with runtime :=
    { state.runtime with tasks := state.runtime.tasks.set handle task } }

end PersistenceState

inductive PersistenceEvent where
  | insert (user : UserId) (isNew : Bool)
  | remove (user : UserId) (wasMember : Bool)
  | tick (backoff : Nat → Duration)
  | perform (handle : JoinHandle)
  | complete (handle : JoinHandle) (ending : TaskEnd)

/-- A request takes effect at most once and before its status is reported; the
status OK is reported of requests that took effect. -/
inductive PersistenceStep :
    PersistenceState → PersistenceEvent → PersistenceState → Prop where
  | insert {state : PersistenceState} {user : UserId} :
      PersistenceStep state (.insert user (state.users.insert user).2)
        { state with users := (state.users.insert user).1 }
  | remove {state : PersistenceState} {user : UserId} :
      PersistenceStep state (.remove user (state.users.remove user).2)
        { state with users := (state.users.remove user).1 }
  | tick {state : PersistenceState} {backoff : Nat → Duration} :
      PersistenceStep state (.tick backoff)
        { state with
          users := (state.users.tick state.runtime backoff).1
          runtime := (state.users.tick state.runtime backoff).2 }
  | perform {state : PersistenceState} {handle : JoinHandle}
      {task : PersistTask} :
      state.runtime.tasks[handle]? = some task →
      task.status = none → task.performed = false →
      PersistenceStep state (.perform handle)
        { state.replaceTask handle { task with performed := true } with
          persisted := task.body.approvedUsers }
  | complete {state : PersistenceState} {handle : JoinHandle}
      {task : PersistTask} {ending : TaskEnd} :
      state.runtime.tasks[handle]? = some task → task.status = none →
      (ending.joined = .ok StatusCode.ok → task.performed = true) →
      PersistenceStep state (.complete handle ending)
        (state.replaceTask handle { task with status := some ending.joined })

end CallingService.Backend.ApprovalPersistence
