import CallingService.Backend.Tcc.ChunkSequence
import CallingService.Backend.Tcc.FeedbackRoundTrip
import CallingService.Backend.Tcc.MissingRuns

/-!
# How a payload is filled

The loop of the writer takes arrivals until one of them does not fit.  What it
has pushed for the gap before an arrival whose delta does not fit stays in the
payload.
-/

namespace CallingService.Backend.Tcc

open Foundation

/-! ## The last chunk -/

/-- The chunks stand for the statuses, and none of them has a free place. -/
inductive Filled : List PacketStatusChunk → List PacketStatus → Prop where
  | nil : Filled [] []
  | cons {chunk : PacketStatusChunk} {rest : List PacketStatusChunk}
      {front back : List PacketStatus} (exact : chunk.Exact)
      (represents : chunk.Represents front) (later : Filled rest back) :
      Filled (chunk :: rest) (front ++ back)

/-- Only the last chunk may have free places. -/
theorem Hold.splitLast {chunks : List PacketStatusChunk}
    {statuses : List PacketStatus} (hold : Hold chunks statuses)
    (some : statuses ≠ []) :
    ∃ front last before back, chunks = front ++ [last] ∧
      statuses = before ++ back ∧ back ≠ [] ∧ Filled front before ∧
      last.Represents back := by
  induction hold with
  | nil => exact absurd rfl some
  | @last chunk statuses nonempty represents =>
      exact ⟨[], chunk, [], statuses, rfl, rfl, nonempty, .nil, represents⟩
  | @cons chunk next rest front back exact represents later ih =>
      obtain ⟨others, last, before, final, isSplit, rfl, isSome, filled,
        isLast⟩ := ih later.ne_nil
      refine ⟨chunk :: others, last, front ++ before, final, ?_, ?_, isSome,
        .cons exact represents filled, isLast⟩
      · rw [isSplit, List.cons_append]
      · rw [List.append_assoc]

/-- If the last status is of a received packet, so is one of the last
chunk. -/
theorem PacketStatusChunk.Represents.tellsOfReceived
    {chunk : PacketStatusChunk} {statuses : List PacketStatus}
    {status : PacketStatus} (represents : chunk.Represents statuses)
    (isLast : statuses.getLast? = some status)
    (received : status ≠ .notReceived) : chunk.TellsOfReceived := by
  rintro len rfl
  cases represents with
  | runLength fits =>
      have member := List.mem_of_getLast? isLast
      exact received (List.eq_of_mem_replicate member)

/-! ## Arrivals that fit -/

namespace FeedbackPacket

/-- The payload after these arrivals, unless one of them does not fit. -/
def takeAll : FeedbackPacket → List (Nat × Instant) → Option FeedbackPacket
  | packet, [] => some packet
  | packet, arrival :: rest =>
      if 1100 < packet.size then none
      else
        match encodeDelta (ticksFromBeforeAndAfter packet.prevArrival
            arrival.2 microsPerDeltaTick) with
        | some (status, delta) =>
            takeAll ((packet.skipTo arrival.1).consume arrival status delta)
              rest
        | none => none

/-- The delta of the arrival is what keeps it out of the payload. -/
structure StopsAt (limit : Nat) (packet : FeedbackPacket)
    (arrival : Nat × Instant) : Prop where
  inLimit : arrival.1 ≤ limit
  small : packet.size ≤ 1100
  unencodable : encodeDelta (ticksFromBeforeAndAfter packet.prevArrival
    arrival.2 microsPerDeltaTick) = none

variable {first limit : Nat} {packet last : FeedbackPacket}
variable {front : List (Nat × Instant)}

theorem takeAll_cons_eq_some {arrival : Nat × Instant}
    {rest : List (Nat × Instant)} :
    packet.takeAll (arrival :: rest) = some last ↔
      packet.size ≤ 1100 ∧ ∃ status delta,
        encodeDelta (ticksFromBeforeAndAfter packet.prevArrival arrival.2
          microsPerDeltaTick) = some (status, delta) ∧
        ((packet.skipTo arrival.1).consume arrival status delta).takeAll
          rest = some last := by
  constructor
  · intro taken
    unfold takeAll at taken
    split at taken
    · cases taken
    · rename_i room
      split at taken
      · rename_i status delta encoded
        exact ⟨Nat.not_lt.mp room, status, delta, encoded, taken⟩
      · cases taken
  · rintro ⟨room, status, delta, encoded, taken⟩
    unfold takeAll
    rw [if_neg (Nat.not_lt.mpr room), encoded]
    exact taken

theorem fits_iff_takeAll :
    packet.Fits front ↔ ∃ last, packet.takeAll front = some last := by
  induction front generalizing packet with
  | nil => exact ⟨fun _ => ⟨packet, rfl⟩, fun _ => trivial⟩
  | cons arrival rest ih =>
      constructor
      · rintro ⟨room, status, delta, encoded, later⟩
        obtain ⟨last, taken⟩ := ih.mp later
        exact ⟨last, takeAll_cons_eq_some.mpr ⟨room, status, delta, encoded,
          taken⟩⟩
      · rintro ⟨last, taken⟩
        obtain ⟨room, status, delta, encoded, later⟩ :=
          takeAll_cons_eq_some.mp taken
        exact ⟨room, status, delta, encoded, ih.mpr ⟨last, later⟩⟩

theorem takeAll_append {back : List (Nat × Instant)} :
    packet.takeAll (front ++ back) = some last ↔
      ∃ middle, packet.takeAll front = some middle ∧
        middle.takeAll back = some last := by
  induction front generalizing packet with
  | nil => simp [takeAll]
  | cons arrival rest ih =>
      rw [List.cons_append, takeAll_cons_eq_some]
      constructor
      · rintro ⟨room, status, delta, encoded, taken⟩
        obtain ⟨middle, begun, ended⟩ := ih.mp taken
        exact ⟨middle, takeAll_cons_eq_some.mpr ⟨room, status, delta,
          encoded, begun⟩, ended⟩
      · rintro ⟨middle, taken, ended⟩
        obtain ⟨room, status, delta, encoded, begun⟩ :=
          takeAll_cons_eq_some.mp taken
        exact ⟨room, status, delta, encoded, ih.mpr ⟨middle, begun, ended⟩⟩

/-- The loop takes what fits. -/
theorem fill_of_takeAll (taken : packet.takeAll front = some last)
    (inLimit : ∀ arrival ∈ front, arrival.1 ≤ limit)
    (back : List (Nat × Instant)) :
    packet.fill limit (front ++ back) = last.fill limit back := by
  induction front generalizing packet with
  | nil =>
      cases taken
      rfl
  | cons arrival rest ih =>
      obtain ⟨room, status, delta, encoded, later⟩ :=
        takeAll_cons_eq_some.mp taken
      have inside := inLimit arrival List.mem_cons_self
      rw [List.cons_append, fill, if_neg (Nat.not_lt.mpr inside),
        if_neg (Nat.not_lt.mpr room), encoded]
      apply ih later
      intro other member
      exact inLimit other (List.mem_cons_of_mem arrival member)

theorem StopsAt.fill {arrival : Nat × Instant}
    (stops : last.StopsAt limit arrival) (rest : List (Nat × Instant)) :
    last.fill limit (arrival :: rest) =
      (last.skipTo arrival.1, arrival :: rest) := by
  rw [FeedbackPacket.fill, if_neg (Nat.not_lt.mpr stops.inLimit),
    if_neg (Nat.not_lt.mpr stops.small), stops.unencodable]

/-- The loop ends between two arrivals or at one whose delta does not fit. -/
theorem fill_cases (limit : Nat) (packet : FeedbackPacket)
    (arrivals : List (Nat × Instant)) :
    ∃ front left last, arrivals = front ++ left ∧
      (∀ arrival ∈ front, arrival.1 ≤ limit) ∧
      packet.takeAll front = some last ∧
      ((packet.fill limit arrivals = (last, left) ∧
          ∀ next others, left = next :: others → ¬ last.StopsAt limit next) ∨
        ∃ next others, left = next :: others ∧ last.StopsAt limit next ∧
          packet.fill limit arrivals = (last.skipTo next.1, left)) := by
  induction arrivals generalizing packet with
  | nil => exact ⟨[], [], packet, rfl, by simp, rfl, .inl ⟨rfl, by simp⟩⟩
  | cons arrival rest ih =>
      unfold FeedbackPacket.fill
      split
      · rename_i beyond
        refine ⟨[], arrival :: rest, packet, rfl, by simp, rfl,
          .inl ⟨rfl, ?_⟩⟩
        intro next others same stops
        cases same
        exact absurd stops.inLimit (Nat.not_le.mpr beyond)
      · rename_i inLimit
        split
        · rename_i big
          refine ⟨[], arrival :: rest, packet, rfl, by simp, rfl,
            .inl ⟨rfl, ?_⟩⟩
          intro next others same stops
          cases same
          exact absurd stops.small (Nat.not_le.mpr big)
        · rename_i room
          dsimp only
          split
          · rename_i status delta encoded
            obtain ⟨front, left, last, isSplit, inside, taken, ends⟩ :=
              ih ((packet.skipTo arrival.1).consume arrival status delta)
            refine ⟨arrival :: front, left, last, ?_, ?_, ?_, ends⟩
            · rw [List.cons_append, ← isSplit]
            · intro other member
              rcases List.mem_cons.mp member with rfl | later
              · exact Nat.not_lt.mp inLimit
              · exact inside other later
            · exact takeAll_cons_eq_some.mpr ⟨Nat.not_lt.mp room, status,
                delta, encoded, taken⟩
          · rename_i unencodable
            exact ⟨[], arrival :: rest, packet, rfl, by simp, rfl,
              .inr ⟨arrival, rest, rfl, ⟨Nat.not_lt.mp inLimit,
                Nat.not_lt.mp room, unencodable⟩, rfl⟩⟩

/-! ## What the payload tells of -/

variable {consumed : List (Nat × Instant)} {statuses : List PacketStatus}

theorem Covers.takeAll (covers : packet.Covers first consumed statuses [])
    (sorted : front.Pairwise fun left right => left.1 < right.1)
    (later : ∀ arrival ∈ front, packet.prevSeqnum < arrival.1)
    (taken : packet.takeAll front = some last) :
    ∃ all, last.Covers first (consumed ++ front) all [] := by
  induction front generalizing packet consumed statuses with
  | nil =>
      cases taken
      rw [List.append_nil]
      exact ⟨statuses, covers⟩
  | cons arrival rest ih =>
      obtain ⟨_, status, delta, encoded, others⟩ :=
        takeAll_cons_eq_some.mp taken
      obtain ⟨received, length⟩ := encodeDelta_eq_some encoded
      obtain ⟨beforeRest, sortedRest⟩ := List.pairwise_cons.mp sorted
      have next := later arrival List.mem_cons_self
      have covered := ih (covers.consume next received length) sortedRest
        beforeRest others
      rw [List.append_assoc] at covered
      exact covered

/-- The last status is that of the last arrival. -/
theorem Covers.ends {trailing : List PacketStatus}
    (covers : packet.Covers first consumed statuses trailing) :
    ∃ front status, statuses = front ++ [status] ∧
      status ≠ .notReceived := by
  obtain ⟨arrival, member, isLast⟩ := covers.last
  have isNumber := List.mem_map_of_mem (f := Prod.fst) member
  rw [← covers.numbers] at isNumber
  rcases List.eq_nil_or_concat statuses with rfl | ⟨front, status, rfl⟩
  · cases isNumber
  · rw [List.concat_eq_append] at *
    refine ⟨front, status, rfl, ?_⟩
    rintro rfl
    rw [receivedNumbers_append] at isNumber
    change arrival.1 ∈ receivedNumbers first front ++ [] at isNumber
    rw [List.append_nil] at isNumber
    have bound := lt_of_mem_receivedNumbers isNumber
    have extent := covers.extent
    rw [List.length_append, List.length_singleton] at extent
    omega

/-- The chunks before the last one are full, and the last one tells of the
last arrival. -/
theorem Covers.splitLast (covers : packet.Covers first consumed statuses []) :
    ∃ front last before back, packet.statusChunks = front ++ [last] ∧
      statuses = before ++ back ∧ back ≠ [] ∧ Filled front before ∧
      last.Represents back ∧ last.TellsOfReceived := by
  obtain ⟨init, status, isEnd, received⟩ := covers.ends
  have hold := covers.chunks
  rw [List.append_nil] at hold
  obtain ⟨front, last, before, back, isSplit, whole, some, filled,
    represents⟩ := hold.splitLast (by rw [isEnd]; simp)
  refine ⟨front, last, before, back, isSplit, whole, some, filled, represents,
    ?_⟩
  have isLast : back.getLast? = Option.some status := by
    have ends := congrArg List.getLast? (whole.symm.trans isEnd)
    rw [List.getLast?_append_of_ne_nil _ some, List.getLast?_concat] at ends
    exact ends
  exact represents.tellsOfReceived isLast received

end FeedbackPacket

/-! ## What the writer puts into a payload -/

namespace FeedbackWriter

/-- The numbers are words, and they increase. -/
structure Numbered (writer : FeedbackWriter) : Prop where
  small : ∀ arrival ∈ writer.arrivals, arrival.1 < 2 ^ 64
  sorted : writer.arrivals.Pairwise fun left right => left.1 < right.1

variable {profile : BuildProfile} {writer before after : FeedbackWriter}
variable {payload : Bytes} {first : Nat × Instant} {limit : Nat}
variable {rest : List (Nat × Instant)}

theorem arrivals_suffix (yields : before.Yields profile payload after) :
    after.arrivals <:+ before.arrivals ∧ after.epoch = before.epoch := by
  obtain ⟨first, rest, limit, isNext, _, _, rfl⟩ := yields_iff.mp yields
  rw [isNext]
  exact ⟨FeedbackPacket.fill_suffix limit _ _, rfl⟩

theorem Numbered.yields (numbered : before.Numbered)
    (yields : before.Yields profile payload after) : after.Numbered := by
  obtain ⟨isSuffix, _⟩ := arrivals_suffix yields
  refine ⟨?_, ?_⟩
  · exact fun arrival member => numbered.small arrival
      (isSuffix.subset member)
  · exact numbered.sorted.sublist isSuffix.sublist

/-- There is no gap before the first arrival. -/
theorem skipTo_first :
    (writer.start first).skipTo first.1 = writer.start first := by
  unfold FeedbackPacket.skipTo start
  dsimp only
  rw [Nat.sub_eq_zero_of_le (Nat.le_succ first.1)]
  rfl

theorem covers_consume_first {status : PacketStatus} {delta : Bytes}
    (received : status ≠ .notReceived)
    (length : delta.length = status.deltaLength) :
    ((writer.start first).consume first status delta).Covers first.1 [first]
      [status] [] := by
  refine ⟨?_, ?_, ?_, rfl, first, List.mem_singleton_self _, rfl⟩
  · apply Hold.last (List.cons_ne_nil _ _)
    exact .runLength (by omega)
  · exact FeedbackPacket.receivedNumbers_single received first.1
  · exact length.symm

theorem takeAll_first {packet : FeedbackPacket}
    (taken : (writer.start first).takeAll [first] = some packet) :
    packet.prevSeqnum = first.1 ∧
      ∃ statuses, packet.Covers first.1 [first] statuses [] := by
  obtain ⟨_, status, delta, encoded, same⟩ :=
    FeedbackPacket.takeAll_cons_eq_some.mp taken
  obtain ⟨received, length⟩ := encodeDelta_eq_some encoded
  rw [skipTo_first] at same
  cases same
  exact ⟨rfl, [status], covers_consume_first received length⟩

/-- What fits into a payload that takes its first arrival. -/
theorem covers_takeAll {front : List (Nat × Instant)}
    {last : FeedbackPacket}
    (sorted : (first :: front).Pairwise fun left right => left.1 < right.1)
    (taken : (writer.start first).takeAll (first :: front) = some last) :
    ∃ statuses, last.Covers first.1 (first :: front) statuses [] := by
  rw [← List.singleton_append] at taken
  obtain ⟨packet, isFirst, others⟩ :=
    FeedbackPacket.takeAll_append.mp taken
  obtain ⟨number, statuses, covers⟩ := takeAll_first isFirst
  obtain ⟨later, sortedFront⟩ := List.pairwise_cons.mp sorted
  apply covers.takeAll sortedFront _ others
  intro arrival member
  rw [number]
  exact later arrival member

/-- What the loop takes when it takes the first arrival. -/
theorem Numbered.written (numbered : writer.Numbered)
    (isNext : writer.arrivals = first :: rest)
    (fits : (writer.start first).Fits [first]) (inLimit : first.1 ≤ limit) :
    ∃ front left last statuses, rest = front ++ left ∧
      (∀ arrival ∈ first :: front, arrival.1 ≤ limit) ∧
      (first :: front).Pairwise (fun left right => left.1 < right.1) ∧
      (writer.start first).takeAll (first :: front) = some last ∧
      last.Covers first.1 (first :: front) statuses [] ∧
      (((writer.start first).fill limit (first :: rest) = (last, left) ∧
          ∀ next others, left = next :: others → ¬ last.StopsAt limit next) ∨
        ∃ next others, left = next :: others ∧ last.StopsAt limit next ∧
          (writer.start first).fill limit (first :: rest) =
            (last.skipTo next.1, left)) := by
  have sorted := numbered.sorted
  rw [isNext] at sorted
  obtain ⟨packet, isFirst⟩ := FeedbackPacket.fits_iff_takeAll.mp fits
  have begun := FeedbackPacket.fill_of_takeAll isFirst
    (show ∀ arrival ∈ [first], arrival.1 ≤ limit by
      intro arrival member
      rw [List.mem_singleton.mp member]
      exact inLimit) rest
  rw [List.singleton_append] at begun
  obtain ⟨front, left, last, isSplit, inside, taken, ends⟩ :=
    FeedbackPacket.fill_cases limit packet rest
  have all : (writer.start first).takeAll (first :: front) = some last := by
    rw [← List.singleton_append]
    exact FeedbackPacket.takeAll_append.mpr ⟨packet, isFirst, taken⟩
  have sortedFront : (first :: front).Pairwise
      fun left right => left.1 < right.1 := by
    rw [isSplit] at sorted
    exact sorted.sublist (List.Sublist.cons_cons first
      (List.sublist_append_left front left))
  obtain ⟨statuses, covers⟩ := covers_takeAll sortedFront all
  rw [begun]
  refine ⟨front, left, last, statuses, isSplit, ?_, sortedFront, all, covers,
    ends⟩
  intro arrival member
  rcases List.mem_cons.mp member with rfl | later
  · exact inLimit
  · exact inside arrival later

end FeedbackWriter

end CallingService.Backend.Tcc
