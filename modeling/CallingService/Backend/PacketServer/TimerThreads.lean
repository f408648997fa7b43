import CallingService.Foundation.Run
import CallingService.Backend.PacketServer.TimerHeap
import Mathlib.Logic.Function.Basic

/-!
# The epoll threads and their timers

All threads share the heap of dequeue times, and each has a timer of its own.
A thread sets its timer when it finds nothing to do, unless the timer of some
thread has been set for that time already.  The thread that ticks adds to the
heap without waking anybody.
-/

namespace CallingService.Backend

open Foundation

def maxEpollEvents : Nat := 16

/-- A one-shot timer that has not been read since it was set. -/
structure ArmedTimer where
  /-- The task for which the timer was set. -/
  due : Instant
  timeout : Duration
  /-- The reading of the clock from which the timeout was computed. -/
  read : Instant
  set : Instant

/-- When the descriptor of the timer becomes readable. -/
def ArmedTimer.expiry (timer : ArmedTimer) : Instant :=
  timer.set + timer.timeout

/-- The timer goes off when its task is due, and as much later as the thread
took to set it. -/
structure ArmedTimer.IsSound (timer : ArmedTimer) : Prop where
  ahead : timer.read < timer.due
  timeout : timer.timeout = timer.due - timer.read
  read : timer.read ≤ timer.set

inductive ThreadPhase where
  /-- In `epoll_wait`, for `EPOLL_WAIT_TIMEOUT_MS` at most. -/
  | waiting
  /-- Handling events, or in `epoll_wait` with no timeout. -/
  | handling
  | dequeuing (left : Nat)
deriving DecidableEq, Repr

structure EpollThread where
  hasTimer : Bool
  phase : ThreadPhase
  timer : Option ArmedTimer
  /-- The clock as the thread has seen it last. -/
  seen : Instant

/-- The timer is set; a timeout of zero would disarm it. -/
def EpollThread.arm (thread : EpollThread) (due : Option Instant)
    (now clock : Instant) : Option Duration → EpollThread
  | none => thread
  | some timeout =>
      { thread with
        timer := if timeout = 0 then none
          else due.map fun due => ⟨due, timeout, now, clock⟩ }

structure TimerSystem {T : Type} (queue : TaskQueue T) (Thread : Type) where
  heap : TimerHeap queue
  clock : Instant
  threads : Thread → EpollThread

/-- What `Sfu::handle_dequeue` answers: the address, whether there is a packet
to send, and when there will be the next one. -/
abbrev DequeueReply (T : Type) := Option (T × Bool × Option Instant)

inductive TimerEvent (T Thread : Type) where
  | passes
  | ticks (tasks : List (ScheduledValue T))
  | wakes (thread : Thread)
  | readsTimer (thread : Thread)
  /-- A packet has been handled. -/
  | handles (thread : Thread) (tasks : List (ScheduledValue T))
  | dequeues (thread : Thread)
  | takes (thread : Thread) (now : Instant) (task : ScheduledValue T)
      (reply : DequeueReply T)
  /-- There is nothing to do before some time, or at all. -/
  | waits (thread : Thread) (now : Instant)
  /-- Enough packets have been sent for now. -/
  | goesOn (thread : Thread)

/-- The thread has a timer and has set it in time. -/
structure EpollThread.IsSound (thread : EpollThread) (clock : Instant) :
    Prop where
  hasTimer : thread.hasTimer = true
  timer : ∀ timer ∈ thread.timer, timer.IsSound
  seen : thread.seen ≤ clock

/-- The thread will look at the heap at that time or after it: its timer will
wake it, or it has been woken and has not yet looked. -/
def EpollThread.Attends (thread : EpollThread) (time : Instant) : Prop :=
  (∃ timer ∈ thread.timer, timer.due = time) ∨
    thread.phase ≠ .waiting ∧ time ≤ thread.seen

namespace TimerSystem

variable {T Thread : Type} {queue : TaskQueue T} [DecidableEq Thread]

def new (hasTimer : Thread → Bool) (clock : Instant) :
    TimerSystem queue Thread where
  heap := .new
  clock := clock
  threads thread := ⟨hasTimer thread, .handling, none, clock⟩

def setThread (system : TimerSystem queue Thread) (thread : Thread)
    (state : EpollThread) : TimerSystem queue Thread :=
  { system with threads := Function.update system.threads thread state }

def schedule (system : TimerSystem queue Thread)
    (tasks : List (ScheduledValue T)) : TimerSystem queue Thread :=
  { system with heap := system.heap.scheduleAll tasks }

/-- What is scheduled after a dequeue. -/
def tasksOf : DequeueReply T → List (ScheduledValue T)
  | some (value, _, some time) => [⟨time, value⟩]
  | _ => []

/-- `dequeues_left` counts the packets that are sent. -/
def leftAfter (left : Nat) : DequeueReply T → Nat
  | some (_, true, _) => left
  | _ => left + 1

/-- The thread goes to sleep after it has looked at the heap. -/
def sleep (system : TimerSystem queue Thread) (thread : Thread)
    (now : Instant) (result : TimerHeapNextResult T) :
    TimerSystem queue Thread :=
  let state := { system.threads thread with phase := .waiting, seen := now }
  match result with
  | .wait _ =>
      if state.hasTimer then
        let setting := system.heap.setTimer now
        { system with heap := setting.1 }.setThread thread
          (state.arm setting.1.activeTimer now system.clock setting.2)
      else system.setThread thread state
  | _ => system.setThread thread state

inductive Step : TimerSystem queue Thread → TimerEvent T Thread →
    TimerSystem queue Thread → Prop where
  | passes {before : TimerSystem queue Thread} {later : Instant} :
      before.clock ≤ later →
      Step before .passes { before with clock := later }
  | ticks {before : TimerSystem queue Thread}
      {tasks : List (ScheduledValue T)} :
      Step before (.ticks tasks) (before.schedule tasks)
  | wakes {before : TimerSystem queue Thread} {thread : Thread} :
      (before.threads thread).phase = .waiting →
      Step before (.wakes thread)
        (before.setThread thread
          { before.threads thread with phase := .handling })
  | readsTimer {before : TimerSystem queue Thread} {thread : Thread}
      {timer : ArmedTimer} :
      (before.threads thread).phase = .handling →
      (before.threads thread).timer = some timer →
      timer.expiry ≤ before.clock →
      Step before (.readsTimer thread)
        (before.setThread thread
          { before.threads thread with timer := none, seen := before.clock })
  | handles {before : TimerSystem queue Thread} {thread : Thread}
      {tasks : List (ScheduledValue T)} :
      (before.threads thread).phase = .handling →
      Step before (.handles thread tasks) (before.schedule tasks)
  | dequeues {before : TimerSystem queue Thread} {thread : Thread} :
      (before.threads thread).phase = .handling →
      Step before (.dequeues thread)
        (before.setThread thread
          { before.threads thread with phase := .dequeuing maxEpollEvents })
  | takes {before : TimerSystem queue Thread} {thread : Thread}
      {left : Nat} {now : Instant} {task : ScheduledValue T}
      {rest : queue.Heap} {heap : TimerHeap queue}
      {reply : DequeueReply T} :
      (before.threads thread).phase = .dequeuing (left + 1) →
      (before.threads thread).seen ≤ now → now ≤ before.clock →
      queue.pop before.heap.tasks = some (task, rest) →
      before.heap.next now = .ok (.value task.value, heap) →
      Step before (.takes thread now task reply)
        (({ before with heap }.schedule (tasksOf reply)).setThread thread
          { before.threads thread with
            phase := .dequeuing (leftAfter left reply), seen := now })
  | waits {before : TimerSystem queue Thread} {thread : Thread}
      {left : Nat} {now : Instant} {result : TimerHeapNextResult T}
      {heap : TimerHeap queue} :
      (before.threads thread).phase = .dequeuing (left + 1) →
      (before.threads thread).seen ≤ now → now ≤ before.clock →
      before.heap.next now = .ok (result, heap) →
      (∀ value, result ≠ .value value) →
      Step before (.waits thread now)
        ({ before with heap }.sleep thread now result)
  | goesOn {before : TimerSystem queue Thread} {thread : Thread} :
      (before.threads thread).phase = .dequeuing 0 →
      Step before (.goesOn thread)
        (before.setThread thread
          { before.threads thread with phase := .handling })

/-! ## What becomes of a task -/

end TimerSystem

namespace TimerEvent

variable {T Thread : Type}

/-- The tasks that the event adds to the heap. -/
def scheduled : TimerEvent T Thread → List (ScheduledValue T)
  | .ticks tasks => tasks
  | .handles _ tasks => tasks
  | .takes _ _ _ reply => TimerSystem.tasksOf reply
  | _ => []

/-- The task that the event removes from the heap. -/
def taken : TimerEvent T Thread → List (ScheduledValue T)
  | .takes _ _ task _ => [task]
  | _ => []

/-- The tasks that a tick has added and that no thread has looked at. -/
def unseenAfter (unseen : List (ScheduledValue T)) :
    TimerEvent T Thread → List (ScheduledValue T)
  | .ticks tasks => unseen ++ tasks
  | .waits _ _ => []
  | _ => unseen

end TimerEvent

namespace TimerSystem

variable {T Thread : Type} {queue : TaskQueue T}
variable {before after finish : TimerSystem queue Thread}
variable {event : TimerEvent T Thread} {labels : List (TimerEvent T Thread)}

def scheduledIn (labels : List (TimerEvent T Thread)) :
    List (ScheduledValue T) :=
  labels.flatMap TimerEvent.scheduled

def takenIn (labels : List (TimerEvent T Thread)) :
    List (ScheduledValue T) :=
  labels.flatMap TimerEvent.taken

/-- What is in the heap has been scheduled and has not been taken. -/
def Accounts (labels : List (TimerEvent T Thread))
    (system : TimerSystem queue Thread) : Prop :=
  (scheduledIn labels).Perm (takenIn labels ++ system.heap.items)

/-- A thread that finds a task takes the one that the heap gives out. -/
theorem takes_of_next {heap : TimerHeap queue} {now : Instant}
    {task : ScheduledValue T} {rest : queue.Heap}
    (popped : queue.pop before.heap.tasks = some (task, rest))
    (answered : before.heap.next now = .ok (.value task.value, heap)) :
    before.heap.Takes now task heap := by
  rcases TimerHeap.next_cases answered with ⟨nothing, -⟩ |
    ⟨first, -, -, later, -⟩ | ⟨taken, -, takes⟩
  · cases nothing
  · cases later
  · have same := takes.popped
    rw [popped] at same
    cases same
    exact takes

section Pending

variable [DecidableEq T]

/-- The tasks that have been scheduled and have not been taken. -/
def pending (labels : List (TimerEvent T Thread)) :
    List (ScheduledValue T) :=
  (scheduledIn labels).diff (takenIn labels)

private theorem append_diff_left (first rest : List (ScheduledValue T)) :
    (first ++ rest).diff first = rest := by
  induction first with
  | nil => rfl
  | cons task first ih => simpa using ih

theorem Accounts.pending_perm {system : TimerSystem queue Thread}
    (accounts : Accounts labels system) :
    (pending labels).Perm system.heap.items := by
  have cancelled := accounts.diff_right (takenIn labels)
  rwa [append_diff_left] at cancelled

/-- A task is taken when it is due, and before those that are due later. -/
def TakenInOrder (past : List (TimerEvent T Thread)) :
    TimerEvent T Thread → Prop
  | .takes _ now task _ =>
      task.time ≤ now ∧ Least ScheduledValue.time task (pending past)
  | _ => True

end Pending

section Steps

variable [DecidableEq Thread]

@[simp] theorem threads_setThread (system : TimerSystem queue Thread)
    (thread : Thread) (state : EpollThread) :
    (system.setThread thread state).threads thread = state :=
  Function.update_self ..

theorem threads_setThread_ne (system : TimerSystem queue Thread)
    {thread other : Thread} (state : EpollThread) (different : other ≠ thread) :
    (system.setThread thread state).threads other = system.threads other :=
  Function.update_of_ne different ..

@[simp] theorem items_sleep (system : TimerSystem queue Thread)
    (thread : Thread) (now : Instant) (result : TimerHeapNextResult T) :
    (system.sleep thread now result).heap.items = system.heap.items := by
  unfold sleep
  cases result with
  | value _ => rfl
  | waitForever => rfl
  | wait _ =>
      dsimp only
      split
      · exact system.heap.items_setTimer now
      · rfl

theorem Step.items_perm (step : Step before event after) :
    (event.scheduled ++ before.heap.items).Perm
      (event.taken ++ after.heap.items) := by
  cases step with
  | passes _ => exact .refl _
  | ticks => exact (before.heap.scheduleAll_perm _).symm
  | wakes _ => exact .refl _
  | readsTimer _ _ _ => exact .refl _
  | handles _ => exact (before.heap.scheduleAll_perm _).symm
  | dequeues _ => exact .refl _
  | goesOn _ => exact .refl _
  | waits phase seen now answered noValue =>
      rw [items_sleep]
      rcases TimerHeap.next_cases answered with ⟨-, -, rfl⟩ |
        ⟨first, -, -, -, rfl⟩ | ⟨taken, value, -⟩
      · exact .refl _
      · exact .refl _
      · exact absurd value (noValue _)
  | @takes _ _ now task _ heap reply phase seen late popped answered =>
      have takes := takes_of_next popped answered
      have left : (tasksOf reply ++ before.heap.items).Perm
          (tasksOf reply ++ task :: heap.items) :=
        takes.items.append_left _
      have right := (heap.scheduleAll_perm (tasksOf reply)).symm.cons task
      exact left.trans (List.perm_middle.trans right)

theorem Accounts.snoc (accounts : Accounts labels before)
    (step : Step before event after) : Accounts (labels ++ [event]) after := by
  have scheduled : scheduledIn (labels ++ [event]) =
      scheduledIn labels ++ event.scheduled := by simp [scheduledIn]
  have taken : takenIn (labels ++ [event]) =
      takenIn labels ++ event.taken := by simp [takenIn]
  unfold Accounts at *
  rw [scheduled, taken, List.append_assoc]
  have moved := step.items_perm.append_left (takenIn labels)
  have added := accounts.append_right event.scheduled
  rw [List.append_assoc] at added
  exact added.trans ((List.perm_append_comm.append_left _).trans moved)

section Pending

variable [DecidableEq T]

theorem Accounts.takenInOrder (accounts : Accounts labels before)
    (step : Step before event after) : TakenInOrder labels event := by
  cases step with
  | takes phase seen late popped answered =>
      have takes := takes_of_next popped answered
      have same := accounts.pending_perm
      refine ⟨takes.due, same.mem_iff.mpr takes.least.1, fun other member => ?_⟩
      exact takes.least.2 other (same.mem_iff.mp member)
  | _ => trivial

/-- Every task is handed out at most once and none gets lost: those that are
still in the heap are the ones that have been scheduled and not been taken.
Each is taken when it is due, and an earlier one before a later one. -/
theorem tasks_of_run {hasTimer : Thread → Bool} {clock : Instant}
    (run : Run Step (new hasTimer clock : TimerSystem queue Thread) labels
      finish) :
    (pending labels).Perm finish.heap.items ∧
      (scheduledIn labels).Perm (takenIn labels ++ pending labels) ∧
      Throughout TakenInOrder labels := by
  have accounts : Accounts labels finish ∧ Throughout TakenInOrder labels := by
    apply run.history_invariant
    · exact ⟨by simp [Accounts, scheduledIn, takenIn, new], throughout_nil⟩
    · rintro past event before after ⟨accounts, inOrder⟩ step
      exact ⟨accounts.snoc step,
        throughout_snoc.mpr ⟨inOrder, accounts.takenInOrder step⟩⟩
  have same := accounts.1.pending_perm
  exact ⟨same, accounts.1.trans (same.symm.append_left _), accounts.2⟩

end Pending

end Steps

/-! ## No task is overlooked -/

/-- The tasks that ticks have added since a thread looked at the heap and
found nothing to do. -/
def tickedSinceWait (labels : List (TimerEvent T Thread)) :
    List (ScheduledValue T) :=
  labels.foldl TimerEvent.unseenAfter []

structure Covered (unseen : List (ScheduledValue T))
    (system : TimerSystem queue Thread) : Prop where
  threads : ∀ thread, (system.threads thread).IsSound system.clock
  scheduled : ∀ active ∈ system.heap.activeTimer,
    ∃ task ∈ system.heap.items, task.time = active
  attended : ∀ active ∈ system.heap.activeTimer,
    ∃ thread, (system.threads thread).Attends active
  waiting : (∀ thread, (system.threads thread).phase = .waiting) →
    ∀ task ∈ system.heap.items, task ∈ unseen ∨
      ∃ active ∈ system.heap.activeTimer, active ≤ task.time

/-- Tasks that are added by a tick, or while a thread is awake. -/
theorem Covered.schedule {unseen tasks others : List (ScheduledValue T)}
    (covered : Covered unseen before)
    (seen : (∀ thread, (before.threads thread).phase = .waiting) →
      others = unseen ++ tasks) : Covered others (before.schedule tasks) where
  threads := covered.threads
  scheduled active isActive := by
    obtain ⟨task, member, same⟩ := covered.scheduled active
      (by simpa [TimerSystem.schedule] using isActive)
    exact ⟨task, by simp [TimerSystem.schedule, member], same⟩
  attended active isActive :=
    covered.attended active (by simpa [TimerSystem.schedule] using isActive)
  waiting asleep task member := by
    rw [seen asleep]
    rcases TimerHeap.mem_scheduleAll.mp member with new | old
    · exact .inl (List.mem_append_right _ new)
    · rcases covered.waiting asleep task old with fresh | active
      · exact .inl (List.mem_append_left _ fresh)
      · exact .inr (by simpa [TimerSystem.schedule] using active)

/-- The heap after a task has been taken; the thread is awake. -/
theorem Covered.take {unseen others : List (ScheduledValue T)}
    {heap : TimerHeap queue} {now : Instant} {task : ScheduledValue T}
    {thread : Thread} (covered : Covered unseen before)
    (takes : before.heap.Takes now task heap)
    (awake : (before.threads thread).phase ≠ .waiting) :
    Covered others { before with heap } where
  threads := covered.threads
  scheduled active isActive := by
    have still := takes.activeTimer
    split at still
    case isTrue => rw [still] at isActive; cases isActive
    case isFalse other =>
      rw [still] at isActive
      obtain ⟨first, member, same⟩ := covered.scheduled active isActive
      rcases takes.mem_of_mem member with rfl | rest
      · exact absurd (same ▸ isActive.symm) other
      · exact ⟨first, rest, same⟩
  attended active isActive := by
    have still := takes.activeTimer
    split at still
    case isTrue => rw [still] at isActive; cases isActive
    case isFalse =>
      rw [still] at isActive
      exact covered.attended active isActive
  waiting asleep := absurd (asleep thread) awake

section SetThread

variable [DecidableEq Thread] {system : TimerSystem queue Thread} {thread : Thread}
variable {state : EpollThread} {unseen : List (ScheduledValue T)}

theorem forall_isSound_setThread
    (sound : ∀ other, (system.threads other).IsSound system.clock)
    (own : state.IsSound system.clock) (other : Thread) :
    ((system.setThread thread state).threads other).IsSound
      (system.setThread thread state).clock := by
  by_cases same : other = thread
  · subst same
    rwa [threads_setThread]
  · rw [threads_setThread_ne system state same]
    exact sound other

theorem exists_attends_setThread {time : Instant}
    (attended : ∃ other, (system.threads other).Attends time)
    (kept : (system.threads thread).Attends time → state.Attends time) :
    ∃ other, ((system.setThread thread state).threads other).Attends time := by
  obtain ⟨other, attends⟩ := attended
  refine ⟨other, ?_⟩
  by_cases same : other = thread
  · subst same
    rw [threads_setThread]
    exact kept attends
  · rwa [threads_setThread_ne system state same]

/-- A thread that is awake and still looks at the heap in time. -/
theorem Covered.setThread {others : List (ScheduledValue T)}
    (covered : Covered unseen system) (awake : state.phase ≠ .waiting)
    (sound : state.IsSound system.clock)
    (kept : ∀ time, (system.threads thread).Attends time →
      state.Attends time) :
    Covered others (system.setThread thread state) where
  threads := forall_isSound_setThread covered.threads sound
  scheduled := covered.scheduled
  attended active isActive :=
    exists_attends_setThread (covered.attended active isActive) (kept active)
  waiting asleep := by
    have own := asleep thread
    rw [threads_setThread] at own
    exact absurd own awake

end SetThread

theorem sleep_wait [DecidableEq Thread] {thread : Thread} (now : Instant)
    (timeout : Duration)
    (hasTimer : (before.threads thread).hasTimer = true) :
    before.sleep thread now (.wait timeout) =
      { before with heap := (before.heap.setTimer now).1 }.setThread thread
        ({ before.threads thread with phase := .waiting, seen := now }.arm
          (before.heap.setTimer now).1.activeTimer now before.clock
          (before.heap.setTimer now).2) :=
  if_pos hasTimer

/-- The thread has found nothing to do, and goes to sleep. -/
theorem Covered.sleep [DecidableEq Thread] {unseen : List (ScheduledValue T)}
    {thread : Thread} {now : Instant} {result : TimerHeapNextResult T}
    {heap : TimerHeap queue} (covered : Covered unseen before)
    (seen : (before.threads thread).seen ≤ now) (now_le : now ≤ before.clock)
    (answered : before.heap.next now = .ok (result, heap))
    (noValue : ∀ value, result ≠ .value value) :
    Covered [] ({ before with heap }.sleep thread now result) := by
  have own := covered.threads thread
  rcases TimerHeap.next_cases answered with ⟨rfl, empty, rfl⟩ |
    ⟨first, least, early, rfl, rfl⟩ | ⟨task, value, -⟩
  case inr.inr => exact absurd value (noValue _)
  case inl =>
    -- no task, so that no timer is active
    have inactive : ∀ active, active ∉ before.heap.activeTimer := by
      intro active isActive
      obtain ⟨task, member, -⟩ := covered.scheduled active isActive
      rw [empty] at member
      cases member
    refine ⟨forall_isSound_setThread covered.threads
        ⟨own.hasTimer, own.timer, now_le⟩,
      fun active isActive => absurd isActive (inactive active),
      fun active isActive => absurd isActive (inactive active),
      fun _ task member => ?_⟩
    change task ∈ before.heap.items at member
    rw [empty] at member
    cases member
  case inr.inl =>
    rw [sleep_wait now _ own.hasTimer]
    dsimp only
    have isFirst : ∀ active ∈ before.heap.activeTimer,
        first.time ≤ active := by
      intro active isActive
      obtain ⟨task, member, rfl⟩ := covered.scheduled active isActive
      exact least.2 task member
    rcases TimerHeap.setTimer_cases least early with ⟨set, -⟩ |
      ⟨left, active, isActive, le⟩
    case inl =>
      rw [set]
      have timeout : first.time - now ≠ 0 := Nat.sub_ne_zero_of_lt early
      dsimp only [EpollThread.arm]
      rw [if_neg timeout]
      refine ⟨forall_isSound_setThread covered.threads
        ⟨own.hasTimer, ?_, now_le⟩, ?_, ?_, ?_⟩
      · rintro timer ⟨⟩
        exact ⟨early, rfl, now_le⟩
      · rintro active ⟨⟩
        exact ⟨first, least.1, rfl⟩
      · rintro active ⟨⟩
        refine ⟨thread, ?_⟩
        rw [threads_setThread]
        exact .inl ⟨_, rfl, rfl⟩
      · intro _ task member
        exact .inr ⟨first.time, rfl, least.2 task member⟩
    case inr =>
      rw [left]
      refine ⟨forall_isSound_setThread covered.threads
          ⟨own.hasTimer, own.timer, now_le⟩,
        covered.scheduled, fun active isActive => ?_, fun _ task member => ?_⟩
      · apply exists_attends_setThread (covered.attended active isActive)
        rintro (armed | ⟨-, looked⟩)
        · exact .inl armed
        · -- it would have found the task of the active timer
          have due := ((isFirst active isActive).trans looked).trans seen
          exact absurd due (Nat.not_le.mpr early)
      · exact .inr ⟨active, isActive, le.trans (least.2 task member)⟩

/-- A thread that is awake goes on with something else. -/
theorem Covered.proceeds [DecidableEq Thread]
    {unseen others : List (ScheduledValue T)} {thread : Thread}
    {phase : ThreadPhase} (covered : Covered unseen before)
    (awake : phase ≠ .waiting) :
    Covered others (before.setThread thread
      { before.threads thread with phase := phase }) := by
  have own := covered.threads thread
  refine covered.setThread awake ⟨own.hasTimer, own.timer, own.seen⟩ ?_
  rintro time (armed | ⟨-, seen⟩)
  · exact .inl armed
  · exact .inr ⟨awake, seen⟩

/-- The timer has gone off, so that its task is due. -/
theorem Covered.readsTimer [DecidableEq Thread]
    {unseen : List (ScheduledValue T)} {thread : Thread} {timer : ArmedTimer}
    (covered : Covered unseen before)
    (handling : (before.threads thread).phase = .handling)
    (armed : (before.threads thread).timer = some timer)
    (expired : timer.expiry ≤ before.clock) :
    Covered unseen (before.setThread thread
      { before.threads thread with timer := none, seen := before.clock }) := by
  have awake : (before.threads thread).phase ≠ .waiting := by
    rw [handling]
    exact ThreadPhase.noConfusion
  have own := covered.threads thread
  have sound := own.timer timer armed
  refine covered.setThread awake
    ⟨own.hasTimer, fun _ member => (by cases member), le_refl _⟩ ?_
  rintro time (⟨other, member, rfl⟩ | ⟨-, seen⟩)
  · rw [armed] at member
    cases member
    have late : ∀ due read set : Nat, read ≤ set → due ≤ set + (due - read) :=
      by omega
    have due : timer.due ≤ timer.expiry := by
      rw [ArmedTimer.expiry, sound.timeout]
      exact late _ _ _ sound.read
    exact .inr ⟨awake, due.trans expired⟩
  · exact .inr ⟨awake, seen.trans own.seen⟩

theorem Step.covered [DecidableEq Thread] {unseen : List (ScheduledValue T)}
    (step : Step before event after) (covered : Covered unseen before) :
    Covered (event.unseenAfter unseen) after := by
  cases step with
  | passes later =>
      refine ⟨fun thread => ?_, covered.scheduled, covered.attended,
        covered.waiting⟩
      have own := covered.threads thread
      exact ⟨own.hasTimer, own.timer, own.seen.trans later⟩
  | ticks => exact covered.schedule fun _ => rfl
  | wakes _ | dequeues _ | goesOn _ =>
      exact covered.proceeds ThreadPhase.noConfusion
  | readsTimer handling armed expired =>
      exact covered.readsTimer handling armed expired
  | @handles thread tasks phase =>
      refine covered.schedule fun asleep => ?_
      rw [asleep thread] at phase
      cases phase
  | waits phase seen now_le answered noValue =>
      exact covered.sleep seen now_le answered noValue
  | @takes thread left now task _ heap reply phase seen now_le popped answered
      =>
      have takes := takes_of_next popped answered
      have awake : (before.threads thread).phase ≠ .waiting := by
        rw [phase]
        exact ThreadPhase.noConfusion
      have taken : Covered unseen { before with heap } :=
        covered.take takes awake
      have added : Covered unseen
          ({ before with heap }.schedule (tasksOf reply)) :=
        taken.schedule fun asleep => absurd (asleep thread) awake
      have own := covered.threads thread
      refine added.setThread ThreadPhase.noConfusion
        ⟨own.hasTimer, own.timer, now_le⟩ ?_
      rintro time (armed | ⟨-, looked⟩)
      · exact .inl armed
      · exact .inr ⟨ThreadPhase.noConfusion, looked.trans seen⟩

theorem covered_of_run [DecidableEq Thread] {hasTimer : Thread → Bool}
    {clock : Instant} (everyTimer : ∀ thread, hasTimer thread = true)
    (run : Run Step (new hasTimer clock : TimerSystem queue Thread) labels
      finish) : Covered (tickedSinceWait labels) finish := by
  apply run.history_invariant
  · refine ⟨fun thread => ⟨everyTimer thread, fun _ member => (by cases member),
      le_refl _⟩, fun _ member => (by cases member),
      fun _ member => (by cases member), fun _ task member => ?_⟩
    rw [new, TimerHeap.items_new] at member
    cases member
  · intro past event before after covered step
    have next := step.covered covered
    simpa [tickedSinceWait] using next

/-- Where each thread has got a timer, and while all of them sleep, the timer of
one has been set for the earliest task, or for an earlier time: it goes off when
the task is due, and as much later as the thread took to set it.  Only what has
been added by a tick since then has to wait for a timeout of `epoll_wait`. -/
theorem sleeping_threads_are_woken [DecidableEq Thread]
    {hasTimer : Thread → Bool} {clock : Instant}
    (everyTimer : ∀ thread, hasTimer thread = true)
    (run : Run Step (new hasTimer clock : TimerSystem queue Thread) labels
      finish)
    (asleep : ∀ thread, (finish.threads thread).phase = .waiting)
    {task : ScheduledValue T} (member : task ∈ finish.heap.items) :
    task ∈ tickedSinceWait labels ∨
      ∃ thread, ∃ timer ∈ (finish.threads thread).timer,
        timer.due ≤ task.time ∧
        timer.expiry = timer.due + (timer.set - timer.read) := by
  have covered := covered_of_run everyTimer run
  rcases covered.waiting asleep task member with unseen | ⟨active, isActive, le⟩
  · exact .inl unseen
  · obtain ⟨thread, ⟨timer, armed, rfl⟩ | ⟨awake, -⟩⟩ :=
      covered.attended active isActive
    · have sound := (covered.threads thread).timer timer armed
      have regroup : ∀ due read set : Nat, read < due → read ≤ set →
          set + (due - read) = due + (set - read) := by omega
      refine .inr ⟨thread, timer, armed, le, ?_⟩
      rw [ArmedTimer.expiry, sound.timeout]
      exact regroup _ _ _ sound.ahead sound.read
    · exact absurd (asleep thread) awake

/-! ## A run of one thread -/

section OneThread

abbrev OneThread :=
  TimerSystem (PriorityQueue.ofSortedList (@ScheduledValue.time Nat)) Unit

def twoScheduled : OneThread :=
  (new (fun _ => true) 0).schedule [⟨5, 1⟩, ⟨3, 2⟩]

def twoAtThree : OneThread := { twoScheduled with clock := 3 }

def dequeuingAtThree : OneThread :=
  twoAtThree.setThread ()
    { twoAtThree.threads () with phase := .dequeuing maxEpollEvents }

def heapOfOne : TimerHeap (PriorityQueue.ofSortedList
    (@ScheduledValue.time Nat)) :=
  ⟨⟨[⟨5, 1⟩], List.pairwise_singleton ..⟩, none⟩

def oneTaken : OneThread :=
  ({ dequeuingAtThree with heap := heapOfOne }.schedule []).setThread ()
    { dequeuingAtThree.threads () with
      phase := .dequeuing maxEpollEvents, seen := 3 }

/-- Two tasks are scheduled; the thread takes the one that is due and sleeps
until the other. -/
def oneTakenOneLeft : List (TimerEvent Nat Unit) :=
  [.handles () [⟨5, 1⟩, ⟨3, 2⟩], .passes, .dequeues (),
    .takes () 3 ⟨3, 2⟩ none, .waits () 3]

def sleepsUntilFive : OneThread := oneTaken.sleep () 3 (.wait 2)

theorem run_oneTakenOneLeft :
    Run Step (new (fun _ => true) 0) oneTakenOneLeft sleepsUntilFive := by
  have handles : Step (new (fun _ => true) 0)
      (.handles () [⟨5, 1⟩, ⟨3, 2⟩]) twoScheduled := .handles rfl
  have passes : Step twoScheduled .passes twoAtThree :=
    .passes (Nat.zero_le 3)
  have dequeues : Step twoAtThree (.dequeues ()) dequeuingAtThree :=
    .dequeues rfl
  have takes : Step dequeuingAtThree (.takes () 3 ⟨3, 2⟩ none) oneTaken :=
    .takes rfl (Nat.zero_le 3) (Nat.le_refl 3) rfl rfl
  have waits : Step oneTaken (.waits () 3) sleepsUntilFive :=
    .waits rfl (Nat.le_refl 3) (Nat.le_refl 3) rfl nofun
  exact .snoc (.snoc (.snoc (.snoc (.snoc .nil handles) passes) dequeues)
    takes) waits

theorem tasks_of_oneTakenOneLeft :
    (pending oneTakenOneLeft).Perm sleepsUntilFive.heap.items ∧
      (scheduledIn oneTakenOneLeft).Perm
        (takenIn oneTakenOneLeft ++ pending oneTakenOneLeft) ∧
      Throughout TakenInOrder oneTakenOneLeft :=
  tasks_of_run run_oneTakenOneLeft

theorem sleepsUntilFive_is_woken :
    ⟨5, 1⟩ ∈ tickedSinceWait oneTakenOneLeft ∨
      ∃ thread, ∃ timer ∈ (sleepsUntilFive.threads thread).timer,
        timer.due ≤ 5 ∧
        timer.expiry = timer.due + (timer.set - timer.read) :=
  sleeping_threads_are_woken (fun _ => rfl) run_oneTakenOneLeft
    (fun _ => rfl) (@List.mem_cons_self (ScheduledValue Nat) ⟨5, 1⟩ [])

end OneThread

end TimerSystem

end CallingService.Backend
