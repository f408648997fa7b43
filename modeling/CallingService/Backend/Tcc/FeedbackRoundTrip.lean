import CallingService.Backend.Tcc.Feedback
import CallingService.Foundation.Run

/-!
# Feedback that is read back

The writer and the reader meet at a list of statuses: the writer's chunks hold
it, and the reader takes from them as many statuses as the header counts.  The
count has 16 bits, one number too few for the longest range that the writer
puts into one payload.
-/

namespace CallingService.Backend.Tcc

open Foundation

/-! ## Reading statuses -/

/-- The numbers whose packets have arrived. -/
def receivedNumbers : Nat → List PacketStatus → List Nat
  | _, [] => []
  | base, .notReceived :: rest => receivedNumbers (base + 1) rest
  | base, _ :: rest => base :: receivedNumbers (base + 1) rest

namespace PacketStatus

def deltaLength : PacketStatus → Nat
  | .notReceived => 0
  | .receivedSmallDelta => 1
  | .receivedLargeOrNegativeDelta => 2

end PacketStatus

def deltasLength (statuses : List PacketStatus) : Nat :=
  (statuses.map PacketStatus.deltaLength).sum

theorem receivedNumbers_append (base : Nat) (front back : List PacketStatus) :
    receivedNumbers base (front ++ back) =
      receivedNumbers base front ++
        receivedNumbers (base + front.length) back := by
  induction front generalizing base with
  | nil => rfl
  | cons status rest ih =>
      have shifted : base + (status :: rest).length =
          base + 1 + rest.length := by
        rw [List.length_cons]
        omega
      rw [shifted, List.cons_append]
      cases status with
      | notReceived => exact ih (base + 1)
      | receivedSmallDelta => exact congrArg (base :: ·) (ih (base + 1))
      | receivedLargeOrNegativeDelta =>
          exact congrArg (base :: ·) (ih (base + 1))

theorem receivedNumbers_replicate (base count : Nat) :
    receivedNumbers base (List.replicate count .notReceived) = [] := by
  induction count generalizing base with
  | zero => rfl
  | succ count ih => exact ih (base + 1)

variable {statuses : List PacketStatus}

theorem lt_of_mem_receivedNumbers {base number : Nat}
    (member : number ∈ receivedNumbers base statuses) :
    number < base + statuses.length := by
  induction statuses generalizing base with
  | nil => cases member
  | cons status rest ih =>
      rw [List.length_cons]
      cases status with
      | notReceived =>
          have later := ih member
          omega
      | receivedSmallDelta | receivedLargeOrNegativeDelta =>
          rcases List.mem_cons.mp member with rfl | later
          · omega
          · have bound := ih later
            omega

theorem deltasLength_append (front back : List PacketStatus) :
    deltasLength (front ++ back) = deltasLength front + deltasLength back := by
  unfold deltasLength
  rw [List.map_append, List.sum_append]

theorem deltasLength_replicate (count : Nat) :
    deltasLength (List.replicate count .notReceived) = 0 := by
  unfold deltasLength
  rw [List.map_replicate]
  exact List.sum_replicate_nat.trans (Nat.mul_zero count)

variable {payload : Bytes}

/-- With enough bytes, a delta is read exactly for a received packet. -/
theorem exists_readDelta {status : PacketStatus}
    (enough : status.deltaLength ≤ payload.length) :
    ∃ delta rest, readDelta status payload = some (delta, rest) ∧
      rest.length = payload.length - status.deltaLength ∧
      (delta = none ↔ status = .notReceived) := by
  cases status with
  | notReceived => exact ⟨none, payload, rfl, rfl, by simp⟩
  | receivedSmallDelta =>
      obtain ⟨value, rest, read, length⟩ := exists_readBigEndian enough
      refine ⟨some value, rest, ?_, length, by simp⟩
      change (readBigEndian 1 payload).map _ = _
      rw [show readBigEndian 1 payload = some (value, rest) from read]
      rfl
  | receivedLargeOrNegativeDelta =>
      obtain ⟨value, rest, read, length⟩ := exists_readBigEndian enough
      refine ⟨some (toI16 value), rest, ?_, length, by simp⟩
      change (readBigEndian 2 payload).map _ = _
      rw [show readBigEndian 2 payload = some (value, rest) from read]
      rfl

/-- With enough bytes for the deltas, the numbers of the arrivals are those of
the statuses, whatever the deltas are. -/
theorem exists_readArrivals (referenceTimeTicks : Nat)
    (statuses : List PacketStatus) (base : Nat) (sum : Int) (payload : Bytes)
    (enough : deltasLength statuses ≤ payload.length) :
    ∃ arrivals, readArrivals referenceTimeTicks base sum
        (statuses.map some) payload = some arrivals ∧
      arrivals.map Prod.fst = receivedNumbers base statuses := by
  induction statuses generalizing base sum payload with
  | nil => exact ⟨[], rfl, rfl⟩
  | cons status rest ih =>
      have split : deltasLength (status :: rest) =
          status.deltaLength + deltasLength rest := rfl
      rw [split] at enough
      obtain ⟨delta, after, read, length, absent⟩ :=
        @exists_readDelta payload status (by omega)
      unfold readArrivals
      rw [List.map_cons]
      simp only [Option.bind_eq_bind, Option.bind_some, read]
      cases delta with
      | none =>
          rw [absent.mp rfl]
          exact ih (base + 1) sum after (by omega)
      | some ticks =>
          obtain ⟨arrivals, others, numbers⟩ :=
            ih (base + 1) (sum + ticks) after (by omega)
          simp only [others, Option.bind_some, pure]
          refine ⟨_, rfl, ?_⟩
          rw [List.map_cons, numbers]
          cases status with
          | notReceived => cases absent.mpr rfl
          | receivedSmallDelta => rfl
          | receivedLargeOrNegativeDelta => rfl

def encodeChunks (chunks : List PacketStatusChunk) : Bytes :=
  chunks.flatMap fun chunk => toBigEndian 2 chunk.as16

theorem readStatusChunks_of_le {statusCount sum : Nat}
    (enough : statusCount ≤ sum) (payload : Bytes) :
    readStatusChunks statusCount sum payload = some ([], payload) := by
  unfold readStatusChunks
  rw [if_neg (Nat.not_lt.mpr enough)]

theorem readStatusChunks_chunk {statusCount sum : Nat}
    (more : sum < statusCount) {chunk decoded : PacketStatusChunk}
    (represents : chunk.Represents statuses)
    (decodes : PacketStatusChunk.fromU16 chunk.as16 = some decoded)
    (rest : Bytes) :
    readStatusChunks statusCount sum (toBigEndian 2 chunk.as16 ++ rest) =
      (readStatusChunks statusCount (sum + decoded.len) rest).map
        fun read => (decoded :: read.1, read.2) := by
  obtain ⟨high, low, bytes⟩ :=
    List.length_eq_two.mp (length_toBigEndian 2 chunk.as16)
  have word : fromBigEndian [high, low] = chunk.as16 := by
    rw [← bytes, fromBigEndian_toBigEndian]
    exact Nat.mod_eq_of_lt represents.as16_lt
  rw [bytes, List.cons_append, List.cons_append, List.nil_append]
  rw [readStatusChunks.eq_def, if_pos more]
  simp only [word, decodes, Option.bind_eq_bind, Option.bind_some, pure]
  cases readStatusChunks statusCount (sum + decoded.len) rest with
  | none => rfl
  | some read => rfl

/-- The reader takes the first statuses off the chunks that hold them. -/
theorem Hold.readStatusChunks {chunks : List PacketStatusChunk}
    (hold : Hold chunks statuses) {statusCount sum : Nat}
    (enough : statusCount ≤ sum + statuses.length) (rest : Bytes) :
    ∃ read leftover, Tcc.readStatusChunks statusCount sum
        (encodeChunks chunks ++ rest) = some (read, leftover ++ rest) ∧
      (read.flatMap PacketStatusChunk.statuses).take (statusCount - sum) =
        (statuses.map some).take (statusCount - sum) := by
  induction hold generalizing sum with
  | nil =>
      exact ⟨[], [], readStatusChunks_of_le enough _, rfl⟩
  | @last chunk statuses _ represents =>
      by_cases more : sum < statusCount
      · obtain ⟨decoded, unused, decodes, same, length, _⟩ :=
          represents.fromU16_as16
        refine ⟨[decoded], [], ?_, ?_⟩
        · unfold encodeChunks
          rw [List.flatMap_singleton,
            readStatusChunks_chunk more represents decodes,
            readStatusChunks_of_le (by omega)]
          rfl
        · rw [List.flatMap_singleton, same]
          exact List.take_append_of_le_length (by rw [List.length_map]; omega)
      · refine ⟨[], _, readStatusChunks_of_le (Nat.not_lt.mp more) _, ?_⟩
        rw [Nat.sub_eq_zero_of_le (Nat.not_lt.mp more)]
        rfl
  | @cons chunk next others front back exact represents later ih =>
      rw [List.length_append] at enough
      by_cases more : sum < statusCount
      · obtain ⟨decoded, unused, decodes, same, length, full⟩ :=
          represents.fromU16_as16
        rw [full exact, Nat.add_zero] at length
        rw [full exact, List.replicate_zero, List.append_nil] at same
        obtain ⟨read, leftover, readLater, statuses⟩ :=
          @ih (sum + decoded.len) (by omega)
        refine ⟨decoded :: read, leftover, ?_, ?_⟩
        · have split : encodeChunks (chunk :: next :: others) =
              toBigEndian 2 chunk.as16 ++ encodeChunks (next :: others) := rfl
          rw [split, List.append_assoc,
            readStatusChunks_chunk more represents decodes, readLater]
          rfl
        · rw [Nat.sub_add_eq, length] at statuses
          rw [List.flatMap_cons, same, List.map_append, List.take_append,
            List.take_append, List.length_map, statuses]
      · refine ⟨[], _, readStatusChunks_of_le (Nat.not_lt.mp more) _, ?_⟩
        rw [Nat.sub_eq_zero_of_le (Nat.not_lt.mp more)]
        rfl

/-! ## Writing statuses -/

theorem encodeDelta_eq_some {deltaTicks : Int} {status : PacketStatus}
    {delta : Bytes} (encoded : encodeDelta deltaTicks = some (status, delta)) :
    status ≠ .notReceived ∧ delta.length = status.deltaLength := by
  unfold encodeDelta at encoded
  split at encoded
  · cases encoded
    exact ⟨PacketStatus.noConfusion, length_toBigEndian 1 _⟩
  · split at encoded
    · cases encoded
      exact ⟨PacketStatus.noConfusion, length_toBigEndian 2 _⟩
    · cases encoded

/-- The payload tells of the consumed arrivals, from the first number up to
the last one of them; the chunks may hold more statuses. -/
structure FeedbackPacket.Covers (first : Nat)
    (consumed : List (Nat × Instant)) (statuses trailing : List PacketStatus)
    (packet : FeedbackPacket) : Prop where
  chunks : Hold packet.statusChunks (statuses ++ trailing)
  numbers : receivedNumbers first statuses = consumed.map Prod.fst
  deltas : deltasLength statuses = packet.encodedReceiveDeltas.length
  extent : first + statuses.length = packet.prevSeqnum + 1
  last : ∃ arrival ∈ consumed, arrival.1 = packet.prevSeqnum

namespace FeedbackPacket

variable {first limit : Nat} {consumed : List (Nat × Instant)}
variable {statuses : List PacketStatus} {packet : FeedbackPacket}
variable {status : PacketStatus} {delta : Bytes}

theorem receivedNumbers_single (received : status ≠ .notReceived)
    (base : Nat) : receivedNumbers base [status] = [base] := by
  cases status with
  | notReceived => exact absurd rfl received
  | receivedSmallDelta => rfl
  | receivedLargeOrNegativeDelta => rfl

theorem Covers.skipTo (covers : packet.Covers first consumed statuses [])
    (seqnum : Nat) :
    (packet.skipTo seqnum).Covers first consumed statuses
      (List.replicate (seqnum - (packet.prevSeqnum + 1)) .notReceived) := by
  have chunks := covers.chunks
  rw [List.append_nil] at chunks
  exact ⟨chunks.pushAll _, covers.numbers, covers.deltas, covers.extent,
    covers.last⟩

theorem Covers.consume (covers : packet.Covers first consumed statuses [])
    {arrival : Nat × Instant} (later : packet.prevSeqnum < arrival.1)
    (received : status ≠ .notReceived)
    (length : delta.length = status.deltaLength) :
    ((packet.skipTo arrival.1).consume arrival status delta).Covers first
      (consumed ++ [arrival])
      (statuses ++ (List.replicate (arrival.1 - (packet.prevSeqnum + 1))
        .notReceived ++ [status])) [] := by
  have skipped := covers.skipTo arrival.1
  have extent := covers.extent
  refine ⟨?_, ?_, ?_, ?_, ?_⟩
  · rw [List.append_nil, ← List.append_assoc]
    exact skipped.chunks.push status
  · rw [receivedNumbers_append, receivedNumbers_append,
      receivedNumbers_replicate, receivedNumbers_single received,
      covers.numbers, List.map_append, List.length_replicate, List.nil_append]
    have reached : first + statuses.length +
        (arrival.1 - (packet.prevSeqnum + 1)) = arrival.1 := by
      omega
    rw [reached]
    rfl
  · rw [deltasLength_append, deltasLength_append, deltasLength_replicate,
      covers.deltas]
    change _ = (packet.encodedReceiveDeltas ++ delta).length
    rw [List.length_append, length]
    change _ + (0 + (status.deltaLength + 0)) = _
    omega
  · change _ = arrival.1 + 1
    rw [List.length_append, List.length_append, List.length_replicate,
      List.length_singleton]
    omega
  · exact ⟨arrival, List.mem_append_right _ (List.mem_singleton_self _), rfl⟩

/-- The loop takes the arrivals in order and leaves the rest; what it has
pushed for an arrival that does not fit stays behind the statuses. -/
theorem Covers.fill {arrivals : List (Nat × Instant)} {packet : FeedbackPacket}
    {consumed : List (Nat × Instant)}
    (covers : packet.Covers first consumed statuses [])
    (inLimit : packet.prevSeqnum ≤ limit)
    (sorted : arrivals.Pairwise fun left right => left.1 < right.1)
    (later : ∀ arrival ∈ arrivals, packet.prevSeqnum < arrival.1) :
    ∃ more statuses trailing,
      arrivals = more ++ (packet.fill limit arrivals).2 ∧
      (packet.fill limit arrivals).1.prevSeqnum ≤ limit ∧
      (packet.fill limit arrivals).1.Covers first (consumed ++ more) statuses
        trailing := by
  induction arrivals generalizing packet statuses consumed with
  | nil =>
      refine ⟨[], statuses, [], rfl, inLimit, ?_⟩
      rw [List.append_nil]
      exact covers
  | cons arrival rest ih =>
      have stopped : ∃ more statuses trailing,
          arrival :: rest = more ++ arrival :: rest ∧
          packet.prevSeqnum ≤ limit ∧
          packet.Covers first (consumed ++ more) statuses trailing := by
        refine ⟨[], statuses, [], rfl, inLimit, ?_⟩
        rw [List.append_nil]
        exact covers
      obtain ⟨beforeRest, sortedRest⟩ := List.pairwise_cons.mp sorted
      have next := later arrival List.mem_cons_self
      unfold FeedbackPacket.fill
      split
      · exact stopped
      · rename_i fits
        split
        · exact stopped
        · dsimp only
          split
          · rename_i status delta encoded
            obtain ⟨received, length⟩ := encodeDelta_eq_some encoded
            obtain ⟨more, final, trailing, split, bounded, covered⟩ :=
              ih (covers.consume next received length) (Nat.not_lt.mp fits)
                sortedRest beforeRest
            refine ⟨arrival :: more, final, trailing, ?_, bounded, ?_⟩
            · rw [List.cons_append, ← split]
            · rw [List.append_assoc] at covered
              exact covered
          · have skipped := covers.skipTo arrival.1
            rw [← List.append_nil consumed] at skipped
            exact ⟨[], statuses, _, rfl, inLimit, skipped⟩

theorem fill_suffix (limit : Nat) (packet : FeedbackPacket)
    (arrivals : List (Nat × Instant)) :
    (packet.fill limit arrivals).2 <:+ arrivals := by
  induction arrivals generalizing packet with
  | nil => exact List.suffix_refl []
  | cons arrival rest ih =>
      unfold FeedbackPacket.fill
      split
      · exact List.suffix_refl _
      · split
        · exact List.suffix_refl _
        · dsimp only
          split
          · exact (ih _).trans (List.suffix_cons arrival rest)
          · exact List.suffix_refl _

/-- The arrivals go into the payload one after the other: it is not too big
for the next one, whose delta fits into two bytes. -/
def Fits : FeedbackPacket → List (Nat × Instant) → Prop
  | _, [] => True
  | packet, arrival :: rest =>
      packet.size ≤ 1100 ∧ ∃ status delta,
        encodeDelta (ticksFromBeforeAndAfter packet.prevArrival arrival.2
          microsPerDeltaTick) = some (status, delta) ∧
        Fits ((packet.skipTo arrival.1).consume arrival status delta) rest

theorem Fits.front {front back : List (Nat × Instant)}
    {packet : FeedbackPacket} (fits : packet.Fits (front ++ back)) :
    packet.Fits front := by
  induction front generalizing packet with
  | nil => trivial
  | cons arrival rest ih =>
      obtain ⟨room, status, delta, encoded, later⟩ := fits
      exact ⟨room, status, delta, encoded, ih later⟩

/-- What the loop takes fits. -/
theorem fits_fill (limit : Nat) (packet : FeedbackPacket)
    (arrivals : List (Nat × Instant)) :
    ∃ consumed, arrivals = consumed ++ (packet.fill limit arrivals).2 ∧
      packet.Fits consumed := by
  induction arrivals generalizing packet with
  | nil => exact ⟨[], rfl, trivial⟩
  | cons arrival rest ih =>
      unfold FeedbackPacket.fill
      split
      · exact ⟨[], rfl, trivial⟩
      · split
        · exact ⟨[], rfl, trivial⟩
        · rename_i room
          dsimp only
          split
          · rename_i status delta encoded
            obtain ⟨consumed, split, fits⟩ :=
              ih ((packet.skipTo arrival.1).consume arrival status delta)
            refine ⟨arrival :: consumed, ?_, Nat.not_lt.mp room, status, delta,
              encoded, fits⟩
            rw [List.cons_append, ← split]
          · exact ⟨[], rfl, trivial⟩

/-- The loop takes all arrivals that fit. -/
theorem Fits.fill_suffix {front : List (Nat × Instant)}
    {packet : FeedbackPacket} (fits : packet.Fits front)
    (inLimit : ∀ arrival ∈ front, arrival.1 ≤ limit)
    (back : List (Nat × Instant)) :
    (packet.fill limit (front ++ back)).2 <:+ back := by
  induction front generalizing packet with
  | nil => exact FeedbackPacket.fill_suffix limit packet back
  | cons arrival rest ih =>
      obtain ⟨room, status, delta, encoded, later⟩ := fits
      have inside := inLimit arrival List.mem_cons_self
      rw [List.cons_append, FeedbackPacket.fill,
        if_neg (Nat.not_lt.mpr inside), if_neg (Nat.not_lt.mpr room), encoded]
      apply ih later
      intro other member
      exact inLimit other (List.mem_cons_of_mem arrival member)

end FeedbackPacket

/-! ## The first arrival -/

theorem encodeDelta_small {deltaTicks : Int} (notNegative : 0 ≤ deltaTicks)
    (small : deltaTicks ≤ 255) :
    encodeDelta deltaTicks =
      some (.receivedSmallDelta, toBigEndian 1 deltaTicks.toNat) :=
  if_pos ⟨notNegative, small⟩

/-- The first arrival is less than a reference tick after the reference
time. -/
theorem ticks_after_reference {epoch arrival : Instant}
    (later : epoch ≤ arrival) :
    0 ≤ ticksFromBeforeAndAfter
        (epoch + durationFromTicks (ticksFromDuration (arrival - epoch)
          microsPerReferenceTick) microsPerReferenceTick)
        arrival microsPerDeltaTick ∧
      ticksFromBeforeAndAfter
        (epoch + durationFromTicks (ticksFromDuration (arrival - epoch)
          microsPerReferenceTick) microsPerReferenceTick)
        arrival microsPerDeltaTick ≤ 255 := by
  obtain ⟨elapsed, rfl⟩ := Nat.exists_eq_add_of_le later
  have reference : durationFromTicks (ticksFromDuration
      (epoch + elapsed - epoch) microsPerReferenceTick)
        microsPerReferenceTick =
          elapsed / 1000 % 2 ^ 64 / 64000 * 64000 * 1000 := by
    rw [Nat.add_sub_cancel_left]
    rfl
  rw [reference]
  unfold ticksFromBeforeAndAfter ticksFromDuration microsPerDeltaTick asMicros
  split
  · omega
  · omega

/-! ## Payloads -/

namespace FeedbackWriter

/-- The next call of the iterator returns this payload. -/
def Yields (profile : BuildProfile) (before : FeedbackWriter)
    (payload : Bytes) (after : FeedbackWriter) : Prop :=
  before.next profile = .ok (some (payload, after))

/-- The arrivals come in the order of their numbers, and their times fit into
a payload. -/
structure InOrder (writer : FeedbackWriter) : Prop where
  small : ∀ arrival ∈ writer.arrivals, arrival.1 < 2 ^ 64
  sorted : writer.arrivals.Pairwise fun left right => left.1 < right.1
  inRange : ∀ arrival ∈ writer.arrivals, writer.epoch ≤ arrival.2 ∧
    arrival.2 < writer.epoch +
      durationFromTicks (2 ^ 24) microsPerReferenceTick

theorem yields_iff {profile : BuildProfile} {before after : FeedbackWriter} :
    before.Yields profile payload after ↔
      ∃ first rest limit, before.arrivals = first :: rest ∧
        profile.addU64 first.1 65535 = .ok limit ∧
        payload = before.payload first
          ((before.start first).fill limit (first :: rest)).1 ∧
        after = { before with
          nextFeedbackSeqnum := before.nextFeedbackSeqnum + 1
          arrivals := ((before.start first).fill limit (first :: rest)).2 } := by
  unfold Yields next
  cases before.arrivals with
  | nil => simp
  | cons first rest =>
      dsimp only
      rw [bind_eq_ok_iff]
      constructor
      · rintro ⟨limit, added, returned⟩
        cases returned
        exact ⟨first, rest, limit, rfl, added, rfl, rfl⟩
      · rintro ⟨other, others, limit, same, added, rfl, rfl⟩
        cases same
        exact ⟨limit, added, rfl⟩

/-- The first arrival always fits. -/
theorem covers_first {writer : FeedbackWriter} {first : Nat × Instant}
    (later : writer.epoch ≤ first.2) {limit : Nat}
    (inLimit : first.1 ≤ limit) (rest : List (Nat × Instant)) :
    ∃ packet : FeedbackPacket,
      (writer.start first).fill limit (first :: rest) =
        packet.fill limit rest ∧
      packet.prevSeqnum = first.1 ∧
      packet.Covers first.1 [first] [.receivedSmallDelta] [] := by
  obtain ⟨notNegative, small⟩ := ticks_after_reference later
  obtain ⟨delta, encoded, length⟩ : ∃ delta, encodeDelta
      (ticksFromBeforeAndAfter (writer.start first).prevArrival first.2
        microsPerDeltaTick) = some (.receivedSmallDelta, delta) ∧
      delta.length = 1 :=
    ⟨_, encodeDelta_small notNegative small, length_toBigEndian 1 _⟩
  have nothing : first.1 - (first.1 + 1) = 0 := by omega
  have skipped : (writer.start first).skipTo first.1 = writer.start first := by
    unfold FeedbackPacket.skipTo FeedbackWriter.start
    dsimp only
    rw [nothing]
    rfl
  refine ⟨(writer.start first).consume first .receivedSmallDelta delta, ?_,
    rfl, ?_⟩
  · have empty : ¬ 1100 < (writer.start first).size := Nat.not_lt_zero 1100
    rw [FeedbackPacket.fill, if_neg (Nat.not_lt.mpr inLimit), if_neg empty,
      skipped, encoded]
  · refine ⟨?_, rfl, ?_, rfl, first, List.mem_singleton_self _, rfl⟩
    · apply Hold.last (List.cons_ne_nil _ _)
      exact .runLength (by omega)
    · exact length.symm

/-- What one payload consumes, what its chunks hold, and how far it goes. -/
theorem InOrder.covers {writer : FeedbackWriter} (inOrder : writer.InOrder)
    {first : Nat × Instant} {rest : List (Nat × Instant)}
    (isNext : writer.arrivals = first :: rest) {limit : Nat}
    (inLimit : first.1 ≤ limit) :
    ∃ consumed statuses trailing,
      first :: rest = consumed ++
        ((writer.start first).fill limit (first :: rest)).2 ∧
      ((writer.start first).fill limit (first :: rest)).1.prevSeqnum ≤ limit ∧
      ((writer.start first).fill limit (first :: rest)).1.Covers first.1
        consumed statuses trailing := by
  have sorted := inOrder.sorted
  rw [isNext] at sorted
  obtain ⟨later, _⟩ := inOrder.inRange first (by
    rw [isNext]
    exact List.mem_cons_self)
  obtain ⟨packet, filled, number, covers⟩ :=
    covers_first later inLimit rest
  obtain ⟨afterFirst, sortedRest⟩ := List.pairwise_cons.mp sorted
  rw [← number] at inLimit afterFirst
  obtain ⟨more, statuses, trailing, split, bounded, covered⟩ :=
    covers.fill inLimit sortedRest afterFirst
  rw [filled]
  exact ⟨first :: more, statuses, trailing, congrArg (first :: ·) split,
    bounded, covered⟩

theorem InOrder.yields {profile : BuildProfile} {before after : FeedbackWriter}
    (inOrder : before.InOrder) (yields : before.Yields profile payload after) :
    after.InOrder := by
  obtain ⟨first, rest, limit, isNext, _, _, rfl⟩ := yields_iff.mp yields
  have left := FeedbackPacket.fill_suffix limit (before.start first)
    (first :: rest)
  obtain ⟨small, sorted, inRange⟩ := inOrder
  rw [isNext] at small sorted inRange
  refine ⟨?_, ?_, ?_⟩
  · exact fun arrival member => small arrival (left.subset member)
  · exact sorted.sublist left.sublist
  · exact fun arrival member => inRange arrival (left.subset member)

/-! ## Reading a payload -/

theorem readFeedback_payload (profile : BuildProfile)
    (writer : FeedbackWriter) (first : Nat × Instant)
    (packet : FeedbackPacket) (maxSeqnum : Nat) :
    readFeedback profile (writer.payload first packet) maxSeqnum =
      match readStatusChunks ((packet.prevSeqnum - first.1 + 1) % 256 ^ 2) 0
          (encodeChunks packet.statusChunks ++ packet.encodedReceiveDeltas)
        with
      | none =>
          .ok (none, (expandTruncatedCounter (first.1 % 256 ^ 2) maxSeqnum
            16).2)
      | some read => do
          let arrivals ← readAllArrivals profile
            (expandTruncatedCounter (first.1 % 256 ^ 2) maxSeqnum 16).1
            { statusCount := (packet.prevSeqnum - first.1 + 1) % 256 ^ 2
              referenceTimeTicks :=
                writer.referenceTimeTicks first.2 % 256 ^ 3
              feedbackSeqnum := writer.nextFeedbackSeqnum.toNat % 256 ^ 1
              statusChunks := read.1
              deltas := read.2 }
          return (arrivals,
            (expandTruncatedCounter (first.1 % 256 ^ 2) maxSeqnum 16).2) := by
  unfold readFeedback FeedbackWriter.payload
  rw [readBigEndian_toBigEndian]
  dsimp only
  rw [readBigEndian_toBigEndian]
  dsimp only
  unfold readStatuses
  simp only [readBigEndian_toBigEndian, Option.bind_eq_bind,
    Option.bind_some, pure]
  unfold encodeChunks
  cases readStatusChunks ((packet.prevSeqnum - first.1 + 1) % 256 ^ 2) 0
    (packet.statusChunks.flatMap (fun chunk => toBigEndian 2 chunk.as16) ++
      packet.encodedReceiveDeltas) with
  | none => rfl
  | some read => rfl

end FeedbackWriter

/-- The payload is read back with exactly these numbers. -/
def ReadsBack (profile : BuildProfile) (payload : Bytes) (maxSeqnum : Nat)
    (numbers : List Nat) : Prop :=
  ∃ feedbackSeqnum read largest, readFeedback profile payload maxSeqnum =
    .ok (some (feedbackSeqnum, read), largest) ∧
      read.map Prod.fst = numbers

namespace FeedbackPacket.Covers

variable {profile : BuildProfile} {writer : FeedbackWriter}
variable {first : Nat × Instant} {packet : FeedbackPacket}
variable {consumed : List (Nat × Instant)}
variable {statuses trailing : List PacketStatus} {maxSeqnum : Nat}

theorem length_pos (covers : packet.Covers first.1 consumed statuses
    trailing) : 0 < statuses.length := by
  obtain ⟨arrival, member, _⟩ := covers.last
  have isNumber := List.mem_map_of_mem (f := Prod.fst) member
  rw [← covers.numbers] at isNumber
  cases statuses with
  | nil => cases isNumber
  | cons status rest => exact Nat.succ_pos _

/-- A range that the header can count is read back. -/
theorem readsBack (covers : packet.Covers first.1 consumed statuses trailing)
    (short : statuses.length < 65536) (inWord : first.1 + 65535 < 2 ^ 64)
    (notAhead : first.1 < maxSeqnum + 2 ^ 15)
    (notBehind : maxSeqnum < first.1 + 2 ^ 15) :
    ReadsBack profile (writer.payload first packet) maxSeqnum
      (consumed.map Prod.fst) := by
  have extent := covers.extent
  have positive := covers.length_pos
  have count : (packet.prevSeqnum - first.1 + 1) % 256 ^ 2 =
      statuses.length := by
    omega
  have expanded := @expandTruncatedCounter_of_near first.1 maxSeqnum 16
    (by omega) (by omega) notAhead notBehind
  have enough : statuses.length ≤ 0 + (statuses ++ trailing).length := by
    rw [List.length_append]
    omega
  obtain ⟨read, leftover, chunks, taken⟩ :=
    covers.chunks.readStatusChunks enough packet.encodedReceiveDeltas
  rw [Nat.sub_zero, List.map_append, List.take_left' (List.length_map _)] at taken
  obtain ⟨arrivals, readArrivals, numbers⟩ := exists_readArrivals
    (writer.referenceTimeTicks first.2 % 256 ^ 3) statuses first.1 0
    (leftover ++ packet.encodedReceiveDeltas) (by
      rw [covers.deltas, List.length_append]
      exact Nat.le_add_left _ _)
  refine ⟨writer.nextFeedbackSeqnum.toNat % 256 ^ 1, arrivals,
    max maxSeqnum first.1, ?_, numbers.trans covers.numbers⟩
  rw [FeedbackWriter.readFeedback_payload, count, chunks]
  have width : (256 : Nat) ^ 2 = 2 ^ 16 := rfl
  rw [width, expanded]
  unfold readAllArrivals
  have sum : first.1 + statuses.length < 2 ^ 64 := by omega
  dsimp only
  rw [profile.addU64_eq_ok sum]
  simp only [ok_bind, Nat.add_sub_cancel_left, taken, readArrivals]
  rfl

/-- A range of 65536 numbers is counted as empty. -/
theorem not_readsBack (covers : packet.Covers first.1 consumed statuses
    trailing) (long : statuses.length = 65536) :
    ¬ ReadsBack profile (writer.payload first packet) maxSeqnum
      (consumed.map Prod.fst) := by
  have extent := covers.extent
  have count : (packet.prevSeqnum - first.1 + 1) % 256 ^ 2 = 0 := by
    omega
  rintro ⟨feedbackSeqnum, read, largest, isRead, numbers⟩
  rw [FeedbackWriter.readFeedback_payload, count,
    readStatusChunks_of_le (Nat.le_refl 0)] at isRead
  obtain ⟨arrivals, all, returned⟩ := bind_eq_ok_iff.mp isRead
  cases returned
  obtain ⟨finish, _, returned⟩ := bind_eq_ok_iff.mp all
  simp only [List.flatMap_nil, List.take_nil, readArrivals,
    Option.map_some] at returned
  cases returned
  obtain ⟨arrival, member, _⟩ := covers.last
  have isNumber := List.mem_map_of_mem (f := Prod.fst) member
  rw [← numbers] at isNumber
  cases isNumber

end FeedbackPacket.Covers

/-- A payload is read back exactly if its last number is not 65535 after its
first one. -/
theorem FeedbackWriter.InOrder.readsBack_iff {profile : BuildProfile}
    {before after : FeedbackWriter} (inOrder : before.InOrder)
    (yields : before.Yields profile payload after) :
    ∃ first consumed, before.arrivals.head? = some first ∧
      before.arrivals = consumed ++ after.arrivals ∧
      ∀ maxSeqnum, first.1 < maxSeqnum + 2 ^ 15 →
        maxSeqnum < first.1 + 2 ^ 15 →
        (ReadsBack profile payload maxSeqnum (consumed.map Prod.fst) ↔
          first.1 + 65535 < 2 ^ 64 ∧
            ∀ arrival ∈ consumed, arrival.1 ≠ first.1 + 65535) := by
  obtain ⟨first, rest, limit, isNext, added, rfl, rfl⟩ :=
    FeedbackWriter.yields_iff.mp yields
  rw [isNext]
  by_cases inWord : first.1 + 65535 < 2 ^ 64
  · rw [profile.addU64_eq_ok inWord] at added
    have isLimit : first.1 + 65535 = limit := Except.ok.inj added
    obtain ⟨consumed, statuses, trailing, split, bounded, covers⟩ :=
      inOrder.covers isNext (isLimit ▸ Nat.le_add_right first.1 65535)
    have extent := covers.extent
    refine ⟨first, consumed, rfl, split, ?_⟩
    intro maxSeqnum notAhead notBehind
    by_cases short : statuses.length < 65536
    · constructor
      · intro _
        refine ⟨inWord, ?_⟩
        intro arrival member
        have isNumber := List.mem_map_of_mem (f := Prod.fst) member
        rw [← covers.numbers] at isNumber
        have before := lt_of_mem_receivedNumbers isNumber
        omega
      · intro _
        exact covers.readsBack short inWord notAhead notBehind
    · have long : statuses.length = 65536 := by omega
      constructor
      · intro isRead
        exact absurd isRead (covers.not_readsBack long)
      · rintro ⟨_, another⟩
        obtain ⟨arrival, member, isLast⟩ := covers.last
        exact absurd (by omega) (another arrival member)
  · have first_lt := inOrder.small first (by
      rw [isNext]
      exact List.mem_cons_self)
    have wrapped : limit < first.1 :=
      BuildProfile.addU64_lt inWord (by decide) first_lt added
    have nothing : (before.start first).fill limit (first :: rest) =
        (before.start first, first :: rest) := by
      rw [FeedbackPacket.fill, if_pos wrapped]
    rw [nothing]
    refine ⟨first, [], rfl, rfl, ?_⟩
    intro maxSeqnum _ _
    constructor
    · rintro ⟨feedbackSeqnum, read, largest, isRead, _⟩
      have count : ((before.start first).prevSeqnum - first.1 + 1) %
          256 ^ 2 = 1 := by
        change (first.1 - first.1 + 1) % 256 ^ 2 = 1
        rw [Nat.sub_self]
        rfl
      rw [FeedbackWriter.readFeedback_payload, count] at isRead
      cases isRead
    · rintro ⟨fits, _⟩
      exact absurd fits inWord

/-- All arrivals up to the one 65535 after the first fit into one payload. -/
def FeedbackWriter.FillsRange (writer : FeedbackWriter)
    (first : Nat × Instant) : Prop :=
  ∃ front arrival back, writer.arrivals = front ++ arrival :: back ∧
    arrival.1 = first.1 + 65535 ∧
    (writer.start first).Fits (front ++ [arrival])

/-- Such arrivals, and only such, make a payload go that far. -/
theorem FeedbackWriter.fillsRange_iff {profile : BuildProfile}
    {before after : FeedbackWriter} {first : Nat × Instant}
    {consumed : List (Nat × Instant)}
    (sorted : before.arrivals.Pairwise fun left right => left.1 < right.1)
    (yields : before.Yields profile payload after)
    (inWord : first.1 + 65535 < 2 ^ 64)
    (isFirst : before.arrivals.head? = some first)
    (split : before.arrivals = consumed ++ after.arrivals) :
    before.FillsRange first ↔
      ∃ arrival ∈ consumed, arrival.1 = first.1 + 65535 := by
  obtain ⟨head, rest, limit, isNext, added, _, rfl⟩ :=
    FeedbackWriter.yields_iff.mp yields
  rw [isNext, List.head?_cons, Option.some_inj] at isFirst
  subst isFirst
  rw [profile.addU64_eq_ok inWord] at added
  -- The limit stays a variable: comparing two sums with it is slow otherwise.
  have isLimit : head.1 + 65535 = limit := Except.ok.inj added
  dsimp only at split
  unfold FeedbackWriter.FillsRange
  simp only [isLimit]
  obtain ⟨left, isLeft⟩ : ∃ left, left = ((before.start head).fill
      limit (head :: rest)).2 := ⟨_, rfl⟩
  rw [← isLeft, isNext] at split
  constructor
  · rintro ⟨front, arrival, back, isFront, number, fits⟩
    rw [isFront, ← List.singleton_append, ← List.append_assoc] at sorted
    have inLimit : ∀ other ∈ front ++ [arrival], other.1 ≤ limit := by
      intro other member
      rcases List.mem_append.mp member with inFront | isLast
      · have earlier := (List.pairwise_append.mp
          (List.pairwise_append.mp sorted).1).2.2 other inFront arrival
          (List.mem_singleton_self arrival)
        omega
      · rw [List.mem_singleton.mp isLast, number]
    obtain ⟨more, isBack⟩ := fits.fill_suffix inLimit back
    have whole : front ++ [arrival] ++ back = head :: rest := by
      rw [← isNext, isFront, List.append_assoc, List.singleton_append]
    rw [whole, ← isLeft] at isBack
    have both : consumed ++ left = front ++ [arrival] ++ more ++ left := by
      rw [← split, ← whole, ← isBack, List.append_assoc (_ ++ _)]
    refine ⟨arrival, ?_, number⟩
    rw [List.append_cancel_right both]
    exact List.mem_append_left more
      (List.mem_append_right front (List.mem_singleton_self arrival))
  · rintro ⟨arrival, member, number⟩
    obtain ⟨taken, isTaken, fits⟩ := FeedbackPacket.fits_fill
      limit (before.start head) (head :: rest)
    rw [← isLeft] at isTaken
    have same := List.append_cancel_right (isTaken.symm.trans split)
    obtain ⟨front, back, isSplit⟩ := List.append_of_mem member
    rw [same, isSplit, ← List.singleton_append, ← List.append_assoc] at fits
    refine ⟨front, arrival, back ++ left, ?_, number, fits.front⟩
    rw [isNext, split, isSplit, List.append_assoc, List.cons_append]

/-! ## Runs of the writer -/

/-- Every payload that `write_feedback` produces is read back with exactly the
numbers that it consumes, unless its range is one number too long. -/
theorem feedback_reads_back_iff (profile : BuildProfile) {ssrc : UInt32}
    {nextFeedbackSeqnum : UInt8} {epoch : Instant}
    {arrivals : List (Nat × Instant)}
    (small : ∀ arrival ∈ arrivals, arrival.1 < 2 ^ 64)
    (sorted : arrivals.Pairwise fun left right => left.1 < right.1)
    (inRange : ∀ arrival ∈ arrivals, epoch ≤ arrival.2 ∧
      arrival.2 < epoch + durationFromTicks (2 ^ 24) microsPerReferenceTick)
    {payloads : List Bytes} {before after : FeedbackWriter} {payload : Bytes}
    (run : Run (FeedbackWriter.Yields profile)
      (writeFeedback ssrc nextFeedbackSeqnum epoch arrivals) payloads before)
    (yields : before.Yields profile payload after) :
    ∃ first consumed, before.arrivals.head? = some first ∧
      before.arrivals = consumed ++ after.arrivals ∧
      ∀ maxSeqnum, first.1 < maxSeqnum + 2 ^ 15 →
        maxSeqnum < first.1 + 2 ^ 15 →
        (ReadsBack profile payload maxSeqnum (consumed.map Prod.fst) ↔
          first.1 + 65535 < 2 ^ 64 ∧ ¬ before.FillsRange first) := by
  have inOrder : before.InOrder := by
    apply run.invariant
    · exact ⟨small, sorted, inRange⟩
    · exact fun inOrder yields => inOrder.yields yields
  obtain ⟨first, consumed, isFirst, split, readsBack⟩ :=
    inOrder.readsBack_iff yields
  refine ⟨first, consumed, isFirst, split, ?_⟩
  intro maxSeqnum notAhead notBehind
  rw [readsBack maxSeqnum notAhead notBehind]
  apply and_congr_right
  intro inWord
  rw [before.fillsRange_iff inOrder.sorted yields inWord isFirst
    split, not_exists]
  simp only [not_and, ne_eq]

/-! ## Concrete payloads -/

/-- Packets 1 and 3 have arrived. -/
def gapWriter : FeedbackWriter :=
  writeFeedback 16 1 0 [(1, 0), (3, 1000000)]

def gapPayload : Bytes :=
  [0, 0, 0, 16, 0, 1, 0, 3, 0, 0, 0, 1, 168, 0, 0, 4]

theorem yields_gapWriter : gapWriter.Yields .debug gapPayload
    { gapWriter with nextFeedbackSeqnum := 2, arrivals := [] } := by
  rfl

theorem inOrder_gapWriter : gapWriter.InOrder where
  small := by decide
  sorted := by decide
  inRange := by decide

theorem feedback_reads_back_iff_gap :
    ReadsBack .debug gapPayload 1 [1, 3] := by
  obtain ⟨first, consumed, isFirst, split, iff⟩ :=
    feedback_reads_back_iff .debug inOrder_gapWriter.small
      inOrder_gapWriter.sorted inOrder_gapWriter.inRange .nil yields_gapWriter
  rw [List.append_nil] at split
  cases isFirst
  subst split
  apply (iff 1 (by decide) (by decide)).mpr
  refine ⟨by decide, ?_⟩
  rintro ⟨front, arrival, back, isSplit, number, _⟩
  have whole : gapWriter.arrivals = front ++ arrival :: back := isSplit
  have member : arrival ∈ gapWriter.arrivals := by
    rw [whole]
    exact List.mem_append_right front List.mem_cons_self
  have another : ∀ other ∈ gapWriter.arrivals, other.1 ≠ 1 + 65535 := by
    decide
  exact another arrival member number

/-- Packets 1 and 65536 have arrived. -/
def longWriter : FeedbackWriter :=
  writeFeedback 16 1 0 [(1, 0), (65536, 0)]

theorem inOrder_longWriter : longWriter.InOrder where
  small := by decide
  sorted := by decide
  inRange := by decide

theorem exists_yields_longWriter : ∃ payload after,
    longWriter.Yields .debug payload after ∧ after.arrivals = [] :=
  ⟨_, _, FeedbackWriter.yields_iff.mpr ⟨_, _, _, rfl, rfl, rfl, rfl⟩, rfl⟩

theorem feedback_of_long_range_is_lost :
    ¬ ∀ (profile : BuildProfile) (ssrc : UInt32) (nextFeedbackSeqnum : UInt8)
      (epoch : Instant) (arrivals : List (Nat × Instant)),
      (∀ arrival ∈ arrivals, arrival.1 < 2 ^ 64) →
      arrivals.Pairwise (fun left right => left.1 < right.1) →
      (∀ arrival ∈ arrivals, epoch ≤ arrival.2 ∧
        arrival.2 < epoch +
          durationFromTicks (2 ^ 24) microsPerReferenceTick) →
      ∀ (payloads : List Bytes) (before after : FeedbackWriter)
        (payload : Bytes) (first : Nat × Instant)
        (consumed : List (Nat × Instant)) (maxSeqnum : Nat),
        Run (FeedbackWriter.Yields profile)
          (writeFeedback ssrc nextFeedbackSeqnum epoch arrivals) payloads
          before →
        before.Yields profile payload after →
        before.arrivals.head? = some first →
        before.arrivals = consumed ++ after.arrivals →
        first.1 < maxSeqnum + 2 ^ 15 → maxSeqnum < first.1 + 2 ^ 15 →
        ReadsBack profile payload maxSeqnum (consumed.map Prod.fst) := by
  intro always
  obtain ⟨payload, after, yields, nothing⟩ := exists_yields_longWriter
  obtain ⟨first, consumed, isFirst, split, iff⟩ :=
    inOrder_longWriter.readsBack_iff yields
  have isRead := always .debug _ _ _ _ inOrder_longWriter.small
    inOrder_longWriter.sorted inOrder_longWriter.inRange [] longWriter after
    payload first consumed 1 .nil yields isFirst split
  cases isFirst
  have short := ((iff 1 (by decide) (by decide)).mp
    (isRead (by decide) (by decide))).2
  rw [nothing, List.append_nil] at split
  subst split
  exact short (65536, 0) (by decide) rfl

end CallingService.Backend.Tcc
