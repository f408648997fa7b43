import CallingService.Foundation.PriorityQueue
import CallingService.Common.TwoGenerationCache

/-!
# The heap of dequeue times

The times at which connections want to send from their queues.  The heap also
remembers for which time a timer of one of the threads has been set, so that a
timer is only set again for an earlier time.
-/

namespace CallingService.Backend

open Foundation

structure ScheduledValue (T : Type) where
  time : Instant
  value : T
deriving DecidableEq, Repr

/-- A `BinaryHeap` of the standard library, with the order of
`ScheduledValue`: the greatest item is one with the earliest time. -/
abbrev TaskQueue (T : Type) := PriorityQueue (@ScheduledValue.time T)

structure TimerHeap {T : Type} (queue : TaskQueue T) where
  tasks : queue.Heap
  activeTimer : Option Instant

inductive TimerHeapNextResult (T : Type) where
  | value (value : T)
  | wait (timeout : Duration)
  | waitForever
deriving DecidableEq, Repr

namespace TimerHeap

variable {T : Type} {queue : TaskQueue T}

def new : TimerHeap queue where
  tasks := queue.new
  activeTimer := none

def schedule (heap : TimerHeap queue) (task : ScheduledValue T) :
    TimerHeap queue :=
  { heap with tasks := queue.push heap.tasks task }

def next (heap : TimerHeap queue) (now : Instant) :
    Except Panic (TimerHeapNextResult T × TimerHeap queue) :=
  match queue.peek heap.tasks with
  | none => .ok (.waitForever, heap)
  | some first =>
      if first.time ≤ now then do
        let (task, tasks) ← okOr (queue.pop heap.tasks)
          (.assertion "task was just there")
        return (.value task.value,
          { tasks := tasks
            activeTimer :=
              if some task.time = heap.activeTimer then none
              else heap.activeTimer })
      else .ok (.wait (first.time - now), heap)

/-- The timer is set for so many nanoseconds from now. -/
def setTimerImpl (heap : TimerHeap queue) (now activeTimer : Instant) :
    TimerHeap queue × Duration :=
  ({ heap with activeTimer := some activeTimer },
    if now ≤ activeTimer then activeTimer - now else 1)

/-- `none` means that the timer is left as it is. -/
def setTimer (heap : TimerHeap queue) (now : Instant) :
    TimerHeap queue × Option Duration :=
  match queue.peek heap.tasks, heap.activeTimer with
  | none, _ => (heap, none)
  | some task, none => (heap.setTimerImpl now task.time).map id some
  | some task, some activeTimer =>
      if task.time < activeTimer then
        (heap.setTimerImpl now task.time).map id some
      else (heap, none)

/-! ## What the operations do -/

def items (heap : TimerHeap queue) : List (ScheduledValue T) :=
  queue.items heap.tasks

@[simp] theorem items_new : (new : TimerHeap queue).items = [] :=
  queue.items_new

theorem schedule_perm (heap : TimerHeap queue) (task : ScheduledValue T) :
    (heap.schedule task).items.Perm (task :: heap.items) :=
  queue.items_push heap.tasks task

def scheduleAll (heap : TimerHeap queue) (tasks : List (ScheduledValue T)) :
    TimerHeap queue :=
  tasks.foldl schedule heap

theorem scheduleAll_perm (heap : TimerHeap queue)
    (tasks : List (ScheduledValue T)) :
    (heap.scheduleAll tasks).items.Perm (tasks ++ heap.items) := by
  induction tasks generalizing heap with
  | nil => exact .refl _
  | cons task tasks ih =>
      have first := (heap.schedule_perm task).append_left tasks
      exact (ih (heap.schedule task)).trans (first.trans List.perm_middle)

@[simp] theorem mem_scheduleAll {heap : TimerHeap queue}
    {tasks : List (ScheduledValue T)} {other : ScheduledValue T} :
    other ∈ (heap.scheduleAll tasks).items ↔
      other ∈ tasks ∨ other ∈ heap.items := by
  rw [(heap.scheduleAll_perm tasks).mem_iff, List.mem_append]

@[simp] theorem activeTimer_scheduleAll (heap : TimerHeap queue)
    (tasks : List (ScheduledValue T)) :
    (heap.scheduleAll tasks).activeTimer = heap.activeTimer := by
  induction tasks generalizing heap with
  | nil => rfl
  | cons task tasks ih => exact ih (heap.schedule task)

/-- The earliest task is handed out if it is due. -/
structure Takes (heap : TimerHeap queue) (now : Instant)
    (task : ScheduledValue T) (after : TimerHeap queue) : Prop where
  popped : queue.pop heap.tasks = some (task, after.tasks)
  least : Least ScheduledValue.time task heap.items
  due : task.time ≤ now
  items : heap.items.Perm (task :: after.items)
  activeTimer : after.activeTimer =
    if some task.time = heap.activeTimer then none else heap.activeTimer

variable {heap after : TimerHeap queue} {now : Instant}

theorem next_cases {result : TimerHeapNextResult T}
    (answered : heap.next now = .ok (result, after)) :
    (result = .waitForever ∧ heap.items = [] ∧ after = heap) ∨
    (∃ first, Least ScheduledValue.time first heap.items ∧
      now < first.time ∧ result = .wait (first.time - now) ∧ after = heap) ∨
    ∃ task, result = .value task.value ∧ heap.Takes now task after := by
  unfold next at answered
  cases peeked : queue.peek heap.tasks with
  | none =>
      rw [peeked] at answered
      cases answered
      exact .inl ⟨rfl, queue.peek_eq_none peeked, rfl⟩
  | some first =>
      have least := queue.peek_eq_some peeked
      rw [peeked] at answered
      dsimp only at answered
      split at answered
      case isTrue due =>
        obtain ⟨⟨task, tasks⟩, popped, returned⟩ :=
          bind_eq_ok_iff.mp answered
        cases returned
        rw [okOr_eq_ok_iff] at popped
        obtain ⟨permuted, taken⟩ := queue.pop_eq_some popped
        have sameTime := taken.key_eq least
        exact .inr (.inr ⟨task, rfl, popped, taken, sameTime ▸ due, permuted,
          rfl⟩)
      case isFalse notDue =>
        cases answered
        exact .inr (.inl ⟨first, least, not_le.mp notDue, rfl, rfl⟩)

theorem Takes.mem_of_mem {task other : ScheduledValue T}
    (takes : heap.Takes now task after) (member : other ∈ heap.items) :
    other = task ∨ other ∈ after.items := by
  rw [takes.items.mem_iff] at member
  exact List.mem_cons.mp member

@[simp] theorem items_setTimer (heap : TimerHeap queue) (now : Instant) :
    (heap.setTimer now).1.items = heap.items := by
  unfold setTimer
  cases queue.peek heap.tasks with
  | none => rfl
  | some task =>
      cases heap.activeTimer with
      | none => rfl
      | some activeTimer =>
          dsimp only
          split
          · rfl
          · rfl

/-- After `next` has answered that there is nothing to do yet, the timer that
is active is for the earliest task, unless an even earlier one has been active
before. -/
theorem setTimer_cases {first : ScheduledValue T}
    (least : Least ScheduledValue.time first heap.items)
    (early : now < first.time) :
    (heap.setTimer now =
        ({ heap with activeTimer := some first.time },
          some (first.time - now)) ∧
      ∀ active ∈ heap.activeTimer, first.time < active) ∨
    heap.setTimer now = (heap, none) ∧
      ∃ active ∈ heap.activeTimer, active ≤ first.time := by
  obtain ⟨seen, peeked, seenLeast⟩ := queue.peek_isSome least.1
  have sameTime : seen.time = first.time := seenLeast.key_eq least
  have impl : heap.setTimerImpl now first.time =
      ({ heap with activeTimer := some first.time }, first.time - now) := by
    rw [setTimerImpl, if_pos (le_of_lt early)]
  unfold setTimer
  rw [peeked]
  cases active : heap.activeTimer with
  | none =>
      refine .inl ⟨?_, fun active impossible => by cases impossible⟩
      dsimp only
      rw [sameTime, impl]
      rfl
  | some activeTimer =>
      dsimp only
      rw [sameTime]
      split
      case isTrue earlier =>
        refine .inl ⟨by rw [impl]; rfl, fun other same => ?_⟩
        cases same
        exact earlier
      case isFalse notEarlier =>
        exact .inr ⟨rfl, activeTimer, rfl, not_lt.mp notEarlier⟩

end TimerHeap

end CallingService.Backend
