import CallingService.Backend.PacerRun

/-!
# The packets in the queues of the pacer

Retransmissions and video packets wait in queues of their own.  For each of
them, what was handed over is what has left, in the same order, followed by
what waits.
-/

namespace CallingService.Backend

open Foundation Rtp

def totalSize (packets : List Packet) : Nat := (packets.map (·.size)).sum

@[simp] theorem totalSize_nil : totalSize [] = 0 := rfl

@[simp] theorem totalSize_cons (packet : Packet) (rest : List Packet) :
    totalSize (packet :: rest) = packet.size + totalSize rest := rfl

@[simp] theorem totalSize_append (first second : List Packet) :
    totalSize (first ++ second) = totalSize first + totalSize second := by
  unfold totalSize
  rw [List.map_append, List.sum_append]

namespace Pacer

variable {rates : RateArithmetic}

/-- What becomes of one queue: a prefix of expired packets, one packet that is
taken, and the rest. -/
structure Popped (queue expired rest : List Packet) (media : Option Packet)
    (now : Instant) : Prop where
  split : queue = expired ++ media.toList ++ rest
  expired : ∀ packet ∈ expired, packet.isPastDeadline now = true
  fresh : ∀ packet ∈ media, packet.isPastDeadline now = false
  exhausted : media = none → rest = []

theorem popQueue_popped (now : Instant) (queue : List Packet)
    (queuedSize : DataSize) :
    Popped queue (queue.takeWhile (·.isPastDeadline now))
      (popQueue queue queuedSize now).1 (popQueue queue queuedSize now).2.2
      now := by
  induction queue generalizing queuedSize with
  | nil =>
      refine ⟨rfl, ?_, ?_, fun _ => rfl⟩
      · intro packet member
        cases member
      · intro packet member
        cases member
  | cons packet rest ih =>
      unfold popQueue
      by_cases past : packet.isPastDeadline now
      · have takes : (packet :: rest).takeWhile (·.isPastDeadline now) =
            packet :: rest.takeWhile (·.isPastDeadline now) :=
          List.takeWhile_cons_of_pos past
        rw [if_pos past, takes]
        obtain ⟨split, expired, fresh, exhausted⟩ :=
          ih (queuedSize - packet.size)
        refine ⟨?_, ?_, fresh, exhausted⟩
        · rw [List.cons_append, List.cons_append, ← split]
        · intro other member
          rcases List.mem_cons.mp member with rfl | later
          · exact past
          · exact expired other later
      · have stops : (packet :: rest).takeWhile (·.isPastDeadline now) = [] :=
          List.takeWhile_cons_of_neg past
        rw [if_neg past, stops]
        refine ⟨rfl, ?_, ?_, ?_⟩
        · intro other member
          cases member
        · intro other member
          cases member
          exact Bool.eq_false_iff.mpr past
        · intro missing
          cases missing

/-- The counter goes down by what leaves the queue. -/
theorem popQueue_size (now : Instant) (queue : List Packet) (others : Nat) :
    (popQueue queue (totalSize queue + others) now).2.1 =
      totalSize (popQueue queue (totalSize queue + others) now).1 + others := by
  induction queue with
  | nil => rfl
  | cons packet rest ih =>
      have less : totalSize (packet :: rest) + others - packet.size =
          totalSize rest + others := by
        rw [totalSize_cons, Nat.add_assoc, Nat.add_sub_cancel_left]
      unfold popQueue
      rw [less]
      split
      · exact ih
      · rfl

/-- The counter is right and every packet is in the queue of its kind. -/
structure QueuesSorted (pacer : Pacer) : Prop where
  queuedSize : pacer.queuedSize = totalSize pacer.queued
  rtx : ∀ packet ∈ pacer.rtxQueue, packet.isRtx = true
  video : ∀ packet ∈ pacer.videoQueue, packet.isRtx = false

theorem queuesSorted_new (config : PacerConfig) :
    (new config).QueuesSorted where
  queuedSize := rfl
  rtx := by
    intro packet member
    cases member
  video := by
    intro packet member
    cases member

/-- The same packets with the same counter. -/
structure SameQueues (before after : Pacer) : Prop where
  rtx : after.rtxQueue = before.rtxQueue
  video : after.videoQueue = before.videoQueue
  size : after.queuedSize = before.queuedSize

namespace SameQueues

variable {before middle after : Pacer}

theorem refl (pacer : Pacer) : SameQueues pacer pacer := ⟨rfl, rfl, rfl⟩

theorem trans (first : SameQueues before middle)
    (second : SameQueues middle after) : SameQueues before after :=
  ⟨second.rtx.trans first.rtx, second.video.trans first.video,
    second.size.trans first.size⟩

theorem sorted (same : SameQueues before after) (sorted : before.QueuesSorted) :
    after.QueuesSorted := by
  refine ⟨?_, ?_, ?_⟩
  · unfold queued
    rw [same.size, same.rtx, same.video]
    exact sorted.queuedSize
  · rw [same.rtx]
    exact sorted.rtx
  · rw [same.video]
    exact sorted.video

end SameQueues

theorem sameQueues_updateBudgetWithTime (pacer : Pacer) (now : Instant) :
    SameQueues pacer (pacer.updateBudgetWithTime rates now) := by
  unfold updateBudgetWithTime
  split
  · split <;> exact ⟨rfl, rfl, rfl⟩
  · exact ⟨rfl, rfl, rfl⟩

theorem sameQueues_updateBudgetWithSentPadding (pacer : Pacer)
    (size : DataSize) :
    SameQueues pacer (pacer.updateBudgetWithSentPadding rates size) :=
  ⟨rfl, rfl, rfl⟩

theorem sameQueues_updateBudgetWithSentData (pacer : Pacer)
    (size : DataSize) :
    SameQueues pacer (pacer.updateBudgetWithSentData rates size) :=
  ⟨rfl, rfl, rfl⟩

theorem sameQueues_setConfig (rates : RateArithmetic) (pacer : Pacer)
    (config : PacerConfig) (now : Instant) :
    SameQueues pacer (pacer.setConfig rates config now).1 := by
  have configured : SameQueues pacer
      ({ pacer with config := config }.updateBudgetWithSentData rates 0) :=
    ⟨rfl, rfl, rfl⟩
  rcases pacer.setConfig_cases rates config now with same | ⟨time, updated⟩
  · rw [same]
    exact configured
  · rw [updated]
    exact configured.trans (sameQueues_updateBudgetWithTime _ time)

/-- What one operation does to the two queues: the packets of each kind that
leave were at its front, and the one that is given goes to its end. -/
structure Moves (before : Pacer) (given departed : List Packet)
    (after : Pacer) : Prop where
  sorted : after.QueuesSorted
  rtx : before.rtxQueue ++ given.filter (·.isRtx) =
    departed.filter (·.isRtx) ++ after.rtxQueue
  video : before.videoQueue ++ given.filter (!·.isRtx) =
    departed.filter (!·.isRtx) ++ after.videoQueue

theorem SameQueues.moves {before after : Pacer}
    (same : SameQueues before after) (sorted : before.QueuesSorted) :
    Moves before [] [] after := by
  refine ⟨same.sorted sorted, ?_, ?_⟩
  · simp [same.rtx]
  · simp [same.video]

variable {pacer : Pacer}

theorem moves_push (sorted : pacer.QueuesSorted) (media : Packet)
    : Moves pacer [media] [] (pacer.push media) := by
  have counted : pacer.queuedSize + media.size =
      media.size + totalSize pacer.queued := by
    rw [sorted.queuedSize, Nat.add_comm]
  unfold push
  dsimp only
  split
  · rename_i isRtx
    refine ⟨⟨?_, ?_, sorted.video⟩, ?_, ?_⟩
    · have order : totalSize (pacer.rtxQueue ++ [media] ++ pacer.videoQueue) =
          media.size + totalSize pacer.queued := by
        simp only [queued, totalSize_append, totalSize_cons, totalSize_nil]
        omega
      exact counted.trans order.symm
    · intro packet member
      rcases List.mem_append.mp member with old | new
      · exact sorted.rtx packet old
      · exact List.mem_singleton.mp new ▸ isRtx
    · simp [isRtx]
    · simp [isRtx]
  · rename_i notRtx
    rw [Bool.not_eq_true] at notRtx
    refine ⟨⟨?_, sorted.rtx, ?_⟩, ?_, ?_⟩
    · have order : totalSize (pacer.rtxQueue ++ (pacer.videoQueue ++ [media])) =
          media.size + totalSize pacer.queued := by
        simp only [queued, totalSize_append, totalSize_cons, totalSize_nil]
        omega
      exact counted.trans order.symm
    · intro packet member
      rcases List.mem_append.mp member with old | new
      · exact sorted.video packet old
      · exact List.mem_singleton.mp new ▸ notRtx
    · simp [notRtx]
    · simp [notRtx]

/-- A packet may leave at once only if no other one waits. -/
theorem moves_enqueue (rates : RateArithmetic) (sorted : pacer.QueuesSorted)
    (media : Packet) (now : Instant) :
    Moves pacer [media] (pacer.enqueue rates media now).2.1.toList
      (pacer.enqueue rates media now).1 := by
  unfold enqueue
  dsimp only
  split
  · rename_i immediate
    rw [Bool.and_eq_true] at immediate
    have isEmpty := immediate.1
    unfold queueIsEmpty at isEmpty
    rw [Bool.and_eq_true, List.isEmpty_iff, List.isEmpty_iff] at isEmpty
    have same : SameQueues pacer ((pacer.updateBudgetWithTime rates now
        ).updateBudgetWithSentData rates media.size) :=
      (sameQueues_updateBudgetWithTime pacer now).trans
        (sameQueues_updateBudgetWithSentData _ media.size)
    refine ⟨same.sorted sorted, ?_, ?_⟩
    · rw [same.rtx, isEmpty.2]
      simp
    · rw [same.video, isEmpty.1]
      simp
  · exact moves_push sorted media

theorem filter_of_all {packets : List Packet} {test : Packet → Bool}
    (all : ∀ packet ∈ packets, test packet = true) :
    packets.filter test = packets :=
  List.filter_eq_self.mpr all

theorem filter_of_none {packets : List Packet} {test : Packet → Bool}
    (none : ∀ packet ∈ packets, test packet = false) :
    packets.filter test = [] := by
  rw [List.filter_eq_nil_iff]
  intro packet member holds
  rw [none packet member] at holds
  cases holds

/-- Packets leave the front of the queue of retransmissions. -/
theorem moves_popRtx (sorted : pacer.QueuesSorted) (now : Instant) :
    Moves pacer []
      (pacer.rtxQueue.takeWhile (·.isPastDeadline now) ++
        (pacer.popRtx now).2.toList) (pacer.popRtx now).1 := by
  have popped := popQueue_popped now pacer.rtxQueue pacer.queuedSize
  have counted := popQueue_size now pacer.rtxQueue (totalSize pacer.videoQueue)
  have total : totalSize pacer.rtxQueue + totalSize pacer.videoQueue =
      pacer.queuedSize :=
    (totalSize_append _ _).symm.trans sorted.queuedSize.symm
  rw [total] at counted
  have isRtx : ∀ packet ∈ pacer.rtxQueue.takeWhile (·.isPastDeadline now) ++
      (pacer.popRtx now).2.toList, packet.isRtx = true := by
    intro packet member
    apply sorted.rtx
    rw [popped.split]
    exact List.mem_append_left _ member
  refine ⟨⟨?_, ?_, sorted.video⟩, ?_, ?_⟩
  · exact counted.trans (totalSize_append _ _).symm
  · intro packet member
    apply sorted.rtx
    rw [popped.split]
    exact List.mem_append_right _ member
  · rw [filter_of_all isRtx, List.filter_nil, List.append_nil]
    exact popped.split
  · have noVideo : ∀ packet ∈ pacer.rtxQueue.takeWhile (·.isPastDeadline now) ++
        (pacer.popRtx now).2.toList, (!packet.isRtx) = false := by
      intro packet member
      rw [isRtx packet member]
      rfl
    rw [filter_of_none noVideo]
    exact List.append_nil _

theorem moves_popVideo (sorted : pacer.QueuesSorted) (now : Instant) :
    Moves pacer []
      (pacer.videoQueue.takeWhile (·.isPastDeadline now) ++
        (pacer.popVideo now).2.toList) (pacer.popVideo now).1 := by
  have popped := popQueue_popped now pacer.videoQueue pacer.queuedSize
  have counted := popQueue_size now pacer.videoQueue (totalSize pacer.rtxQueue)
  have total : totalSize pacer.videoQueue + totalSize pacer.rtxQueue =
      pacer.queuedSize := by
    rw [Nat.add_comm]
    exact (totalSize_append _ _).symm.trans sorted.queuedSize.symm
  rw [total] at counted
  have isVideo : ∀ packet ∈
      pacer.videoQueue.takeWhile (·.isPastDeadline now) ++
        (pacer.popVideo now).2.toList, packet.isRtx = false := by
    intro packet member
    apply sorted.video
    rw [popped.split]
    exact List.mem_append_left _ member
  refine ⟨⟨?_, sorted.rtx, ?_⟩, ?_, ?_⟩
  · rw [Nat.add_comm] at counted
    exact counted.trans (totalSize_append _ _).symm
  · intro packet member
    apply sorted.video
    rw [popped.split]
    exact List.mem_append_right _ member
  · rw [filter_of_none isVideo]
    exact List.append_nil _
  · have noRtx : ∀ packet ∈
        pacer.videoQueue.takeWhile (·.isPastDeadline now) ++
          (pacer.popVideo now).2.toList, (!packet.isRtx) = true := by
      intro packet member
      rw [isVideo packet member]
      rfl
    rw [filter_of_all noRtx, List.filter_nil, List.append_nil]
    exact popped.split

theorem Moves.trans {before middle after : Pacer}
    {firstDeparted secondDeparted : List Packet}
    (first : Moves before [] firstDeparted middle)
    (second : Moves middle [] secondDeparted after) :
    Moves before [] (firstDeparted ++ secondDeparted) after := by
  refine ⟨second.sorted, ?_, ?_⟩
  · have one := first.rtx
    have two := second.rtx
    rw [List.filter_nil, List.append_nil] at one two ⊢
    rw [one, two, List.filter_append, List.append_assoc]
  · have one := first.video
    have two := second.video
    rw [List.filter_nil, List.append_nil] at one two ⊢
    rw [one, two, List.filter_append, List.append_assoc]

theorem popRtxOrVideo_of_rtx {now : Instant} {media : Packet}
    (found : (pacer.popRtx now).2 = some media) :
    pacer.popRtxOrVideo now = ((pacer.popRtx now).1, some media) := by
  unfold popRtxOrVideo
  dsimp only
  rw [found]

theorem popRtxOrVideo_of_no_rtx {now : Instant}
    (noRtx : (pacer.popRtx now).2 = none) :
    pacer.popRtxOrVideo now = (pacer.popRtx now).1.popVideo now := by
  unfold popRtxOrVideo
  dsimp only
  rw [noRtx]

theorem moves_popRtxOrVideo (sorted : pacer.QueuesSorted) (now : Instant) :
    Moves pacer []
      (pacer.droppedPackets now ++ (pacer.popRtxOrVideo now).2.toList)
      (pacer.popRtxOrVideo now).1 := by
  have first := moves_popRtx sorted now
  unfold droppedPackets
  cases found : (pacer.popRtx now).2 with
  | some media =>
      rw [found] at first
      rw [popRtxOrVideo_of_rtx found, Option.isSome_some, if_pos rfl,
        List.append_nil]
      exact first
  | none =>
      rw [found, Option.toList_none, List.append_nil] at first
      rw [popRtxOrVideo_of_no_rtx found, Option.isSome_none,
        if_neg Bool.false_ne_true, List.append_assoc]
      exact first.trans (moves_popVideo first.sorted now)

theorem SameQueues.moves_after {before middle after : Pacer}
    {departed : List Packet} (moves : Moves before [] departed middle)
    (same : SameQueues middle after) : Moves before [] departed after := by
  refine ⟨same.sorted moves.sorted, ?_, ?_⟩
  · rw [same.rtx]
    exact moves.rtx
  · rw [same.video]
    exact moves.video

/-! ## One operation -/

variable {Generator : Type} {pacer after : Pacer}
variable {generator next : Generator} {now : Instant}
variable {result : Option Packet} {schedule : Option Instant}
variable {generatePadding :
  Generator → Ssrc → Except Panic (Generator × Option Packet)}

theorem sameQueues_dequeuePadding {wasEmpty : Bool}
    (dequeued : pacer.dequeuePadding rates generatePadding generator wasEmpty
      now = .ok (after, next, result, schedule)) : SameQueues pacer after := by
  rcases dequeuePadding_cases rates generatePadding dequeued with
    ⟨same, -⟩ | ⟨ssrc, padding, -, -, -, -, sent, -⟩
  · exact same ▸ SameQueues.refl after
  · rw [sent]
    exact (sameQueues_updateBudgetWithTime pacer now).trans
      (sameQueues_updateBudgetWithSentPadding _ padding.size)

/-- `dequeue` looks into the queues only if media is due. -/
theorem moves_look (sorted : pacer.QueuesSorted) (now : Instant) :
    Moves pacer []
      (pacer.expiredPackets rates now ++
        (pacer.dequeuedMedia rates now).toList)
      (if pacer.mediaIsDue rates now then (pacer.popRtxOrVideo now).1
        else pacer) := by
  unfold expiredPackets dequeuedMedia
  split
  · exact moves_popRtxOrVideo sorted now
  · exact (SameQueues.refl pacer).moves sorted

theorem mediaIsDue_of_isEmpty (isEmpty : pacer.queueIsEmpty = true) :
    pacer.mediaIsDue rates now = false := by
  unfold mediaIsDue
  rw [isEmpty]
  rfl

theorem mediaIsDue_of_dequeuedMedia {media : Packet}
    (taken : pacer.dequeuedMedia rates now = some media) :
    pacer.mediaIsDue rates now = true := by
  unfold dequeuedMedia at taken
  split at taken
  · assumption
  · cases taken

theorem moves_dequeue (sorted : pacer.QueuesSorted)
    (dequeued : pacer.dequeue rates generatePadding generator now =
      .ok (after, next, result, schedule)) :
    Moves pacer []
      (pacer.expiredPackets rates now ++
        (pacer.dequeuedMedia rates now).toList) after := by
  have looked := @moves_look rates _ sorted now
  cases dequeues_of_ok rates generatePadding dequeued with
  | @media taken isTaken =>
      rw [mediaIsDue_of_dequeuedMedia isTaken, if_pos rfl] at looked
      exact SameQueues.moves_after looked
        ((sameQueues_updateBudgetWithTime _ now).trans
          (sameQueues_updateBudgetWithSentData _ taken.size))
  | noMedia _ notEarly padding =>
      cases isEmpty : pacer.queueIsEmpty with
      | true =>
          rw [mediaIsDue_of_isEmpty isEmpty, if_neg Bool.false_ne_true]
            at looked
          rw [isEmpty, if_pos rfl] at padding
          exact SameQueues.moves_after looked (sameQueues_dequeuePadding padding)
      | false =>
          rw [isEmpty] at notEarly padding
          have due := notEarly.resolve_left Bool.false_ne_true
          rw [due, if_pos rfl] at looked
          exact SameQueues.moves_after looked (sameQueues_dequeuePadding padding)
  | early _ _ early =>
      rw [early, if_neg Bool.false_ne_true] at looked
      exact looked

variable {before final : Pacer × Generator} {event : PacerEvent}

theorem moves_step (sorted : before.1.QueuesSorted)
    (step : Step rates generatePadding before event final) :
    Moves before.1 event.given event.departed final.1 := by
  cases step with
  | enqueue enqueued =>
      rename_i media now result schedule
      have moves := moves_enqueue rates sorted media now
      rw [enqueued] at moves
      exact moves
  | forceEnqueue pacer generator media => exact moves_push sorted media
  | dequeue dequeued => exact moves_dequeue sorted dequeued
  | setConfig configured =>
      rename_i pacer after generator config now schedule
      have same := sameQueues_setConfig rates pacer config now
      rw [configured] at same
      exact same.moves sorted

/-! ## Whole runs -/

def given (history : List PacerEvent) : List Packet :=
  history.flatMap (·.given)

def departed (history : List PacerEvent) : List Packet :=
  history.flatMap (·.departed)

/-- The media that was handed out, in its order. -/
def handedOut (history : List PacerEvent) : List Packet :=
  history.flatMap (·.media.toList)

def expired (history : List PacerEvent) : List Packet :=
  history.flatMap (·.expired)

/-- What was given to the pacer, kind by kind: what has left it in this order,
and what waits. -/
structure Accounts (history : List PacerEvent) (pacer : Pacer) : Prop where
  sorted : pacer.QueuesSorted
  rtx : (given history).filter (·.isRtx) =
    (departed history).filter (·.isRtx) ++ pacer.rtxQueue
  video : (given history).filter (!·.isRtx) =
    (departed history).filter (!·.isRtx) ++ pacer.videoQueue

theorem accounts_new (config : PacerConfig) : Accounts [] (new config) :=
  ⟨queuesSorted_new config, rfl, rfl⟩

variable {history : List PacerEvent}

theorem Accounts.step (accounts : Accounts history before.1)
    (step : Step rates generatePadding before event final) :
    Accounts (history ++ [event]) final.1 := by
  have moves := moves_step accounts.sorted step
  refine ⟨moves.sorted, ?_, ?_⟩
  · unfold given departed at *
    rw [List.flatMap_append, List.flatMap_append, List.flatMap_singleton,
      List.flatMap_singleton, List.filter_append, List.filter_append,
      List.append_assoc, ← moves.rtx, ← List.append_assoc]
    exact congrArg (· ++ event.given.filter (·.isRtx)) accounts.rtx
  · unfold given departed at *
    rw [List.flatMap_append, List.flatMap_append, List.flatMap_singleton,
      List.flatMap_singleton, List.filter_append, List.filter_append,
      List.append_assoc, ← moves.video, ← List.append_assoc]
    exact congrArg (· ++ event.given.filter (!·.isRtx)) accounts.video

theorem accounts_run {config : PacerConfig} {state : Pacer × Generator}
    (run : Run (Step rates generatePadding) (new config, generator) history
      state) : Accounts history state.1 := by
  induction run with
  | nil => exact accounts_new config
  | snoc _ step ih => exact ih.step step

theorem count_departed (history : List PacerEvent) (packet : Packet) :
    (departed history).count packet =
      (handedOut history).count packet + (expired history).count packet := by
  induction history with
  | nil => rfl
  | cons event rest ih =>
      unfold departed handedOut expired PacerEvent.departed at *
      simp only [List.flatMap_cons, List.count_append, ih]
      omega

/-- Every copy of a packet is handed out, has expired or waits. -/
theorem Accounts.count (accounts : Accounts history pacer) (packet : Packet) :
    (given history).count packet =
      (handedOut history).count packet + (expired history).count packet +
        pacer.queued.count packet := by
  have bothKinds (packets : List Packet) :
      packets.count packet = (packets.filter (·.isRtx)).count packet +
        (packets.filter (!·.isRtx)).count packet := by
    have perm := List.filter_append_perm (·.isRtx) packets
    rw [← perm.count_eq, List.count_append]
  rw [bothKinds (given history), accounts.rtx, accounts.video,
    List.count_append, List.count_append, ← count_departed,
    bothKinds (departed history)]
  unfold queued
  rw [List.count_append]
  omega

theorem expired_of_step (step : Step rates generatePadding before event final)
    {packet : Packet} (member : packet ∈ event.expired) :
    ∃ now, event.operation = .dequeue now ∧
      packet.isPastDeadline now = true := by
  cases step with
  | enqueue enqueued => cases member
  | forceEnqueue pacer generator media => cases member
  | dequeue dequeued =>
      rename_i pacer after generator next now result schedule
      refine ⟨now, rfl, ?_⟩
      change packet ∈ pacer.expiredPackets rates now at member
      unfold expiredPackets droppedPackets at member
      split at member
      · rcases List.mem_append.mp member with rtx | video
        · exact (popQueue_popped now pacer.rtxQueue 0).expired packet rtx
        · split at video
          · cases video
          · exact (popQueue_popped now pacer.videoQueue 0).expired packet video
      · cases member
  | setConfig configured => cases member

theorem expired_run {config : PacerConfig} {state : Pacer × Generator}
    (run : Run (Step rates generatePadding) (new config, generator) history
      state) :
    state.1.QueuesSorted ∧
      ∀ event ∈ history, ∀ packet ∈ event.expired,
        ∃ now, event.operation = .dequeue now ∧
          packet.isPastDeadline now = true := by
  induction run with
  | nil =>
      refine ⟨queuesSorted_new config, ?_⟩
      intro event member
      cases member
  | snoc _ step ih =>
      refine ⟨(moves_step ih.1 step).sorted, ?_⟩
      intro other member
      rcases List.mem_append.mp member with old | new
      · exact ih.2 other old
      · cases List.mem_singleton.mp new
        intro packet dropped
        exact expired_of_step step dropped

/-- Video leaves only when no retransmission that waits is still fresh. -/
theorem expired_of_dequeuedMedia {media waiting : Packet}
    (sorted : pacer.QueuesSorted)
    (taken : pacer.dequeuedMedia rates now = some media)
    (isVideo : media.isRtx = false) (waits : waiting ∈ pacer.rtxQueue) :
    waiting.isPastDeadline now = true := by
  unfold dequeuedMedia at taken
  split at taken
  · have popped := popQueue_popped now pacer.rtxQueue pacer.queuedSize
    cases found : (pacer.popRtx now).2 with
    | some rtx =>
        rw [popRtxOrVideo_of_rtx found] at taken
        cases taken
        have member : media ∈ pacer.rtxQueue := by
          rw [popped.split, show (popQueue pacer.rtxQueue pacer.queuedSize
            now).2.2 = some media from found]
          simp
        rw [sorted.rtx media member] at isVideo
        cases isVideo
    | none =>
        have noRest := popped.exhausted found
        have noMedia : (popQueue pacer.rtxQueue pacer.queuedSize now).2.2 =
            none := found
        rw [popped.split, noRest, noMedia] at waits
        simp only [Option.toList_none, List.append_nil] at waits
        exact popped.expired waiting waits
  · cases taken

/-- A result that is not media is the padding of the generator. -/
theorem result_of_step (step : Step rates generatePadding before event final) :
    (∀ media, event.media = some media → event.result = some media) ∧
    (event.media = none → ∀ packet, event.result = some packet →
      ∃ ssrc, generatePadding before.2 ssrc = .ok (final.2, some packet)) := by
  cases step with
  | enqueue enqueued =>
      rename_i pacer after generator media now result schedule
      refine ⟨fun media same => same, ?_⟩
      intro noMedia packet found
      change result = none at noMedia
      change result = some packet at found
      rw [noMedia] at found
      cases found
  | forceEnqueue _ _ media | setConfig _ =>
      refine ⟨fun media same => same, ?_⟩
      intro _ packet found
      cases found
  | dequeue dequeued =>
      rename_i pacer after generator next now result schedule
      cases dequeues_of_ok rates generatePadding dequeued with
      | media taken =>
          refine ⟨fun media isMedia => taken.symm.trans isMedia, ?_⟩
          intro noMedia
          cases taken.symm.trans noMedia
      | noMedia noMedia _ padding =>
          constructor
          · intro media taken
            cases noMedia.symm.trans taken
          · intro _ packet found
            change result = some packet at found
            subst found
            rcases dequeuePadding_cases rates generatePadding padding with
              ⟨-, missing, -⟩ | ⟨ssrc, generated, -, -, drew, same, -⟩
            · cases missing
            · cases same
              exact ⟨ssrc, drew⟩
      | early noMedia _ _ =>
          constructor
          · intro media taken
            cases noMedia.symm.trans taken
          · intro _ packet found
            cases found

theorem queues_empty_of_enqueue (rates : RateArithmetic) (now : Instant)
    {media packet : Packet}
    (immediate : (pacer.enqueue rates media now).2.1 = some packet) :
    packet = media ∧ pacer.rtxQueue = [] ∧ pacer.videoQueue = [] := by
  unfold enqueue at immediate
  dsimp only at immediate
  split at immediate
  · rename_i skips
    rw [Bool.and_eq_true] at skips
    have isEmpty := skips.1
    unfold queueIsEmpty at isEmpty
    rw [Bool.and_eq_true, List.isEmpty_iff, List.isEmpty_iff] at isEmpty
    cases immediate
    exact ⟨rfl, isEmpty.2, isEmpty.1⟩
  · cases immediate

/-- The counter is the size of what waits; every copy of a packet is handed
out, has expired at a `dequeue` or waits; the packets of one kind leave in the
order in which they came; and retransmissions go first. -/
theorem queues_account_for_packets {config : PacerConfig}
    {history : List PacerEvent} {state : Pacer × Generator}
    (run : Run (Step rates generatePadding) (new config, generator) history
      state) :
    state.1.queuedSize =
      totalSize state.1.rtxQueue + totalSize state.1.videoQueue ∧
    (∀ packet, (given history).count packet =
      (handedOut history).count packet + (expired history).count packet +
        state.1.queued.count packet) ∧
    (∀ event ∈ history, ∀ packet ∈ event.expired,
      ∃ now, event.operation = .dequeue now ∧
        packet.isPastDeadline now = true) ∧
    (given history).filter (·.isRtx) =
      (departed history).filter (·.isRtx) ++ state.1.rtxQueue ∧
    (given history).filter (!·.isRtx) =
      (departed history).filter (!·.isRtx) ++ state.1.videoQueue ∧
    (∀ event next, Step rates generatePadding state event next →
      (∀ media, event.media = some media → event.result = some media) ∧
      (event.media = none → ∀ packet, event.result = some packet →
        ∃ ssrc, generatePadding state.2 ssrc = .ok (next.2, some packet)) ∧
      (∀ now media, event.operation = .dequeue now →
        event.media = some media → media.isRtx = false →
        ∀ waiting ∈ state.1.rtxQueue, waiting.isPastDeadline now = true) ∧
      (∀ media now packet, event.operation = .enqueue media now →
        event.result = some packet →
        packet = media ∧ state.1.rtxQueue = [] ∧
          state.1.videoQueue = [])) := by
  have accounts := accounts_run run
  refine ⟨?_, accounts.count, (expired_run run).2, accounts.rtx,
    accounts.video, ?_⟩
  · exact accounts.sorted.queuedSize.trans (totalSize_append _ _)
  · intro event next step
    have results := result_of_step step
    refine ⟨results.1, results.2, ?_, ?_⟩
    · intro now media isDequeue taken isVideo waiting waits
      cases step with
      | enqueue enqueued => cases isDequeue
      | forceEnqueue pacer generator media => cases isDequeue
      | dequeue dequeued =>
          cases isDequeue
          exact expired_of_dequeuedMedia accounts.sorted taken isVideo waits
      | setConfig configured => cases isDequeue
    · intro media now packet isEnqueue found
      cases step with
      | enqueue enqueued =>
          cases isEnqueue
          apply queues_empty_of_enqueue rates now
          rw [enqueued]
          exact found
      | forceEnqueue pacer generator media => cases isEnqueue
      | dequeue dequeued => cases isEnqueue
      | setConfig configured => cases isEnqueue

/-- A packet that has waited for the nomination of its connection goes before
a later one. -/
theorem queues_account_for_forced_packet :
    ∃ (history : List PacerEvent) (state : Pacer × Unit),
      given history = [mediaPacket 20, mediaPacket 30] ∧
      handedOut history = [mediaPacket 20] ∧
      state.1.queuedSize =
        totalSize state.1.rtxQueue + totalSize state.1.videoQueue ∧
      (given history).filter (!·.isRtx) =
        (departed history).filter (!·.isRtx) ++ state.1.videoQueue := by
  have enqueued : ((new ⟨1000000, 0, none⟩).forceEnqueue (mediaPacket 20)
      ).enqueue RateArithmetic.exactArithmetic (mediaPacket 30) 0 =
        (_, _, _) := rfl
  have taken : (((new ⟨1000000, 0, none⟩).forceEnqueue (mediaPacket 20)
      ).push (mediaPacket 30)).dequeuedMedia RateArithmetic.exactArithmetic
        0 = some (mediaPacket 20) := by
    decide +kernel
  have forced : Run (Step RateArithmetic.exactArithmetic
        (fun (_ : Unit) _ => .ok ((), none)))
      (new ⟨1000000, 0, none⟩, ())
      [⟨.forceEnqueue (mediaPacket 20), none, none, none, []⟩]
      ((new ⟨1000000, 0, none⟩).forceEnqueue (mediaPacket 20), ()) :=
    .snoc .nil (.forceEnqueue _ () (mediaPacket 20))
  have run := (forced.snoc (.enqueue enqueued)).snoc
    (.dequeue (dequeue_of_media _ _ taken))
  have accounts := queues_account_for_packets run
  exact ⟨_, _, by decide +kernel, by decide +kernel, accounts.1,
    accounts.2.2.2.2.1⟩

end Pacer

end CallingService.Backend
