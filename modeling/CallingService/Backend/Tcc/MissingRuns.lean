import CallingService.Backend.Tcc.StatusChunks

/-!
# Chunks of a gap

The statuses of missing packets first use up the room of the last chunk and
then go into runs of their own.
-/

namespace CallingService.Backend.Tcc

namespace PacketStatusChunk

/-- How many missing packets the chunk can still take. -/
def room : PacketStatusChunk → Nat
  | .runLength len .notReceived => 8191 - len
  | .runLength len .receivedSmallDelta => 14 - len
  | .runLength len .receivedLargeOrNegativeDelta => 7 - len
  | .vector1 len _ => 14 - len
  | .vector2 len _ => 7 - len

def IsVector : PacketStatusChunk → Prop
  | .runLength _ _ => False
  | .vector1 _ _ => True
  | .vector2 _ _ => True

/-- The chunk is not a run of missing packets. -/
def TellsOfReceived (chunk : PacketStatusChunk) : Prop :=
  ∀ len, chunk ≠ .runLength len .notReceived

variable {chunk : PacketStatusChunk} {statuses : List PacketStatus}

/-- A missing packet that has room. -/
def TakesMissing (chunk : PacketStatusChunk) : Prop :=
  ∃ changed, chunk.push .notReceived = (changed, none) ∧
    changed.IsVector ∧ changed.room + 1 = chunk.room

theorem takesMissing_vector1 {len : Nat} (free : len < 14) (bits : Nat) :
    TakesMissing (.vector1 len bits) := by
  have pushed : pushVector1 len bits .notReceived =
      (.vector1 (len + 1) (bits ||| PacketStatus.notReceived.toNat <<<
        (13 - len)), none) := by
    unfold pushVector1
    rw [if_neg (by omega), if_pos (by decide)]
  refine ⟨_, pushed, trivial, ?_⟩
  change 14 - (len + 1) + 1 = 14 - len
  omega

theorem takesMissing_vector2 {len : Nat} (free : len < 7) (bits : Nat) :
    TakesMissing (.vector2 len bits) := by
  have pushed : pushVector2 len bits .notReceived =
      (.vector2 (len + 1) (bits ||| PacketStatus.notReceived.toNat <<<
        (2 * (6 - len))), none) := by
    unfold pushVector2
    rw [if_neg (by omega)]
  refine ⟨_, pushed, trivial, ?_⟩
  change 7 - (len + 1) + 1 = 7 - len
  omega

theorem takesMissing_of_isVector (isVector : chunk.IsVector)
    (free : 0 < chunk.room) : chunk.TakesMissing := by
  cases chunk with
  | runLength len status => cases isVector
  | vector1 len bits =>
      change 0 < 14 - len at free
      exact takesMissing_vector1 (by omega) bits
  | vector2 len bits =>
      change 0 < 7 - len at free
      exact takesMissing_vector2 (by omega) bits

/-- A run of received packets turns into a vector. -/
theorem takesMissing_run {len : Nat} {status : PacketStatus}
    (received : status ≠ .notReceived)
    (free : 0 < (runLength len status).room) :
    TakesMissing (.runLength len status) := by
  cases status with
  | notReceived => exact absurd rfl received
  | receivedSmallDelta =>
      change 0 < 14 - len at free
      have own : (runLength len PacketStatus.receivedSmallDelta).statuses =
          (List.replicate len .receivedSmallDelta).map some :=
        (Represents.runLength (by omega)).statuses_eq
      have small : ∀ other ∈ List.replicate len
          PacketStatus.receivedSmallDelta,
          other ≠ .receivedLargeOrNegativeDelta := by
        intro other member
        rw [List.eq_of_mem_replicate member]
        exact PacketStatus.noConfusion
      obtain ⟨count, _⟩ := vector1FromIter_map
        (by rw [List.length_replicate]; omega) small
      rw [List.length_replicate, ← own] at count
      have pushed : (runLength len .receivedSmallDelta).push .notReceived =
          (vector1 len (vector1FromIter (runLength len
            PacketStatus.receivedSmallDelta).statuses).2).push
              .notReceived := by
        change pushRunLength len .receivedSmallDelta .notReceived = _
        unfold pushRunLength
        rw [if_neg (by omega), if_neg PacketStatus.noConfusion,
          if_pos ⟨by omega, PacketStatus.noConfusion,
            PacketStatus.noConfusion⟩]
        dsimp only
        rw [count]
        rfl
      obtain ⟨changed, result, isVector, less⟩ :=
        @takesMissing_vector1 len (by omega) (vector1FromIter (runLength len
          PacketStatus.receivedSmallDelta).statuses).2
      exact ⟨changed, pushed.trans result, isVector, less⟩
  | receivedLargeOrNegativeDelta =>
      change 0 < 7 - len at free
      have own : (runLength len
          PacketStatus.receivedLargeOrNegativeDelta).statuses =
            (List.replicate len .receivedLargeOrNegativeDelta).map some :=
        (Represents.runLength (by omega)).statuses_eq
      obtain ⟨count, _⟩ := @vector2FromIter_map
        (List.replicate len .receivedLargeOrNegativeDelta)
        (by rw [List.length_replicate]; omega)
      rw [List.length_replicate, ← own] at count
      have pushed :
          (runLength len .receivedLargeOrNegativeDelta).push .notReceived =
            (vector2 len (vector2FromIter (runLength len
              PacketStatus.receivedLargeOrNegativeDelta).statuses).2).push
                .notReceived := by
        change pushRunLength len .receivedLargeOrNegativeDelta
          .notReceived = _
        unfold pushRunLength
        rw [if_neg (by omega), if_neg PacketStatus.noConfusion,
          if_neg (fun small => small.2.2 rfl), if_pos (by omega)]
        dsimp only
        rw [count]
        rfl
      obtain ⟨changed, result, isVector, less⟩ :=
        @takesMissing_vector2 len (by omega) (vector2FromIter (runLength len
          PacketStatus.receivedLargeOrNegativeDelta).statuses).2
      exact ⟨changed, pushed.trans result, isVector, less⟩

theorem takesMissing (tells : chunk.TellsOfReceived) (free : 0 < chunk.room) :
    chunk.TakesMissing := by
  cases chunk with
  | runLength len status =>
      exact takesMissing_run (fun missing => tells len (missing ▸ rfl)) free
  | vector1 len bits => exact takesMissing_of_isVector trivial free
  | vector2 len bits => exact takesMissing_of_isVector trivial free

/-- Without room, a new run begins. -/
theorem push_missing_of_full (full : chunk.room = 0) :
    chunk.push .notReceived = (chunk, some (.runLength 1 .notReceived)) := by
  cases chunk with
  | runLength len status =>
      change pushRunLength len status .notReceived = _
      unfold pushRunLength
      cases status with
      | notReceived =>
          change 8191 - len = 0 at full
          rw [if_pos (by omega)]
      | receivedSmallDelta =>
          change 14 - len = 0 at full
          split
          · rfl
          · rw [if_neg PacketStatus.noConfusion, if_neg (by omega),
              if_neg (by omega)]
      | receivedLargeOrNegativeDelta =>
          change 7 - len = 0 at full
          split
          · rfl
          · rw [if_neg PacketStatus.noConfusion,
              if_neg (fun small => small.2.2 rfl), if_neg (by omega)]
  | vector1 len bits =>
      change 14 - len = 0 at full
      change pushVector1 len bits .notReceived = _
      unfold pushVector1
      rw [if_pos (by omega)]
  | vector2 len bits =>
      change 7 - len = 0 at full
      change pushVector2 len bits .notReceived = _
      unfold pushVector2
      rw [if_pos (by omega)]

theorem push_missing_run {len : Nat} (free : len < 8191) :
    (runLength len .notReceived).push .notReceived =
      (.runLength (len + 1) .notReceived, none) := by
  change pushRunLength len .notReceived .notReceived = _
  unfold pushRunLength
  rw [if_neg (by omega), if_pos rfl]

end PacketStatusChunk

/-! ## Lists of chunks -/

/-- Push the statuses of that many missing packets. -/
def pushMissing (chunks : List PacketStatusChunk) (count : Nat) :
    List PacketStatusChunk :=
  (List.replicate count PacketStatus.notReceived).foldl pushStatus chunks

/-- The runs of that many missing packets. -/
def missingRuns (count : Nat) : List PacketStatusChunk :=
  List.replicate (count / 8191) (.runLength 8191 .notReceived) ++
    if count % 8191 = 0 then []
    else [.runLength (count % 8191) .notReceived]

theorem pushMissing_succ (chunks : List PacketStatusChunk) (count : Nat) :
    pushMissing chunks (count + 1) =
      pushStatus (pushMissing chunks count) .notReceived := by
  unfold pushMissing
  rw [List.replicate_succ', List.foldl_append]
  rfl

theorem pushMissing_add (chunks : List PacketStatusChunk)
    (first second : Nat) :
    pushMissing chunks (first + second) =
      pushMissing (pushMissing chunks first) second := by
  unfold pushMissing
  rw [← List.replicate_append_replicate, List.foldl_append]

theorem pushStatus_append (front : List PacketStatusChunk)
    (last : PacketStatusChunk) (status : PacketStatus) :
    pushStatus (front ++ [last]) status =
      front ++ pushStatus [last] status := by
  induction front with
  | nil => rfl
  | cons first rest ih =>
      cases rest with
      | nil => rfl
      | cons second others =>
          change first :: pushStatus ((second :: others) ++ [last]) status = _
          rw [ih]
          rfl

theorem pushStatus_last {last changed : PacketStatusChunk}
    {status : PacketStatus} (pushed : last.push status = (changed, none)) :
    pushStatus [last] status = [changed] := by
  unfold pushStatus
  rw [pushed]

theorem pushStatus_another {last changed another : PacketStatusChunk}
    {status : PacketStatus}
    (pushed : last.push status = (changed, some another)) :
    pushStatus [last] status = [changed, another] := by
  unfold pushStatus
  rw [pushed]

section Room

variable (front : List PacketStatusChunk) {last : PacketStatusChunk}
variable {count : Nat}

theorem pushMissing_vector (isVector : last.IsVector)
    (fits : count ≤ last.room) :
    ∃ filled, pushMissing (front ++ [last]) count = front ++ [filled] ∧
      filled.IsVector ∧ filled.room + count = last.room := by
  induction count with
  | zero => exact ⟨last, rfl, isVector, rfl⟩
  | succ count ih =>
      obtain ⟨filled, pushed, isFilled, rest⟩ := ih (by omega)
      obtain ⟨changed, taken, isChanged, less⟩ :=
        PacketStatusChunk.takesMissing_of_isVector isFilled (by omega)
      refine ⟨changed, ?_, isChanged, by omega⟩
      rw [pushMissing_succ, pushed, pushStatus_append, pushStatus_last taken]

/-- A gap that fits into the last chunk does not take another one. -/
theorem pushMissing_within (tells : last.TellsOfReceived)
    (fits : count ≤ last.room) :
    ∃ filled, pushMissing (front ++ [last]) count = front ++ [filled] ∧
      filled.room + count = last.room ∧ (0 < count → filled.IsVector) := by
  cases count with
  | zero => exact ⟨last, rfl, rfl, fun positive => absurd positive (by decide)⟩
  | succ count =>
      obtain ⟨changed, taken, isChanged, less⟩ :=
        PacketStatusChunk.takesMissing tells (by omega)
      obtain ⟨filled, pushed, isFilled, rest⟩ :=
        pushMissing_vector front isChanged
          (show count ≤ changed.room by omega)
      refine ⟨filled, ?_, by omega, fun _ => isFilled⟩
      rw [Nat.add_comm, pushMissing_add, ← pushed]
      change pushMissing (pushStatus (front ++ [last]) .notReceived) count = _
      rw [pushStatus_append, pushStatus_last taken]

/-- One more missing packet goes into the last run or into a new one. -/
theorem pushStatus_missingRuns (full : last.room = 0) (count : Nat) :
    pushStatus (front ++ last :: missingRuns count) .notReceived =
      front ++ last :: missingRuns (count + 1) := by
  have parts := Nat.div_add_mod count 8191
  by_cases whole : count % 8191 = 0
  · have next : (count + 1) / 8191 = count / 8191 ∧
        (count + 1) % 8191 = 1 := by
      omega
    unfold missingRuns
    rw [next.1, next.2, if_pos whole, if_neg Nat.one_ne_zero,
      List.append_nil]
    cases quotient : count / 8191 with
    | zero =>
        rw [List.replicate_zero, pushStatus_append,
          pushStatus_another (PacketStatusChunk.push_missing_of_full full)]
        rfl
    | succ runs =>
        have fullRun : (PacketStatusChunk.runLength 8191
            .notReceived).room = 0 := rfl
        rw [List.replicate_succ', ← List.cons_append, ← List.append_assoc,
          pushStatus_append, pushStatus_another
            (PacketStatusChunk.push_missing_of_full fullRun)]
        simp
  · have free : count % 8191 < 8191 := Nat.mod_lt count (by decide)
    have before : missingRuns count =
        List.replicate (count / 8191) (.runLength 8191 .notReceived) ++
          [.runLength (count % 8191) .notReceived] := by
      unfold missingRuns
      rw [if_neg whole]
    have after : missingRuns (count + 1) =
        List.replicate (count / 8191) (.runLength 8191 .notReceived) ++
          [.runLength (count % 8191 + 1) .notReceived] := by
      unfold missingRuns
      by_cases reached : count % 8191 + 1 = 8191
      · have next : (count + 1) / 8191 = count / 8191 + 1 ∧
            (count + 1) % 8191 = 0 := by
          omega
        rw [next.1, next.2, if_pos rfl, List.append_nil, reached,
          List.replicate_succ']
      · have next : (count + 1) / 8191 = count / 8191 ∧
            (count + 1) % 8191 = count % 8191 + 1 := by
          omega
        rw [next.1, next.2, if_neg (Nat.succ_ne_zero _)]
    rw [before, after, ← List.cons_append, ← List.append_assoc,
      pushStatus_append,
      pushStatus_last (PacketStatusChunk.push_missing_run free),
      List.append_assoc, List.cons_append]

theorem pushMissing_of_full (full : last.room = 0) (count : Nat) :
    pushMissing (front ++ [last]) count =
      front ++ last :: missingRuns count := by
  induction count with
  | zero => rfl
  | succ count ih =>
      rw [pushMissing_succ, ih, pushStatus_missingRuns front full]

/-- A longer gap goes on in runs. -/
theorem pushMissing_beyond (tells : last.TellsOfReceived)
    (room : last.room ≤ count) :
    pushMissing (front ++ [last]) count =
      pushMissing (front ++ [last]) last.room ++
        missingRuns (count - last.room) := by
  obtain ⟨filled, pushed, full, _⟩ :=
    pushMissing_within front tells (le_refl last.room)
  have split : count = last.room + (count - last.room) := by omega
  rw [split, pushMissing_add, pushed, pushMissing_of_full front (by omega),
    Nat.add_sub_cancel_left, List.append_assoc, List.singleton_append]

end Room

theorem length_missingRuns_le (count : Nat) :
    (missingRuns count).length ≤ count / 8191 + 1 := by
  unfold missingRuns
  rw [List.length_append, List.length_replicate]
  split
  · exact Nat.le_succ _
  · exact le_refl _

theorem missingRuns_ne_nil {count : Nat} (positive : 0 < count) :
    missingRuns count ≠ [] := by
  intro nothing
  unfold missingRuns at nothing
  obtain ⟨noRun, noRest⟩ := List.append_eq_nil_iff.mp nothing
  have few : count / 8191 = 0 := (List.replicate_eq_nil_iff _).mp noRun
  split at noRest
  · omega
  · cases noRest

end CallingService.Backend.Tcc
