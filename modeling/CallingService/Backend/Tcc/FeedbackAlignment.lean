import CallingService.Backend.Tcc.FeedbackReading
import CallingService.Backend.Tcc.FeedbackProgress

/-!
# Chunks and deltas of a payload

The reader takes chunks until they tell of as many packets as the header
counts, and reads deltas from there on.  It finds them in their place unless
the writer has left chunks of a gap behind which it does not count.
-/

namespace CallingService.Backend.Tcc

open Foundation

/-! ## Reading full chunks -/

namespace Filled

variable {front : List PacketStatusChunk} {before other : List PacketStatus}

theorem statuses_eq (filled : Filled front before) :
    front.flatMap PacketStatusChunk.statuses = before.map some := by
  induction filled with
  | nil => rfl
  | cons exact represents later ih =>
      rw [List.flatMap_cons, represents.statuses_eq, ih, List.map_append]

theorem unique (one : Filled front before) (another : Filled front other) :
    before = other := by
  have same := one.statuses_eq.symm.trans another.statuses_eq
  exact List.map_injective_iff.mpr (Option.some_injective _) same

/-- The reader takes full chunks one after the other. -/
theorem readStatusChunks (filled : Filled front before) {count sum : Nat}
    (more : sum + before.length < count) :
    ∃ decoded, decoded.length = front.length ∧
      decoded.flatMap PacketStatusChunk.statuses = before.map some ∧
      ∀ rest, Tcc.readStatusChunks count sum (encodeChunks front ++ rest) =
        (Tcc.readStatusChunks count (sum + before.length) rest).map
          fun read => (decoded ++ read.1, read.2) := by
  induction filled generalizing sum with
  | nil =>
      refine ⟨[], rfl, rfl, ?_⟩
      intro rest
      change _ = (Tcc.readStatusChunks count sum rest).map id
      rw [Option.map_id]
      rfl
  | @cons chunk others first back exact represents later ih =>
      rw [List.length_append] at more
      obtain ⟨decoded, unused, decodes, same, length, full⟩ :=
        represents.fromU16_as16
      rw [full exact, Nat.add_zero] at length
      rw [full exact, List.replicate_zero, List.append_nil] at same
      obtain ⟨rest, lengths, statuses, reads⟩ :=
        @ih (sum + decoded.len) (by omega)
      refine ⟨decoded :: rest, congrArg (· + 1) lengths, ?_, ?_⟩
      · rw [List.flatMap_cons, same, statuses, List.map_append]
      · intro payload
        have split : encodeChunks (chunk :: others) =
            toBigEndian 2 chunk.as16 ++ encodeChunks others := rfl
        have reached : sum + (first ++ back).length =
            sum + decoded.len + back.length := by
          rw [List.length_append, length]
          omega
        rw [split, List.append_assoc,
          readStatusChunks_chunk (by omega) represents decodes, reads, reached]
        cases Tcc.readStatusChunks count (sum + decoded.len + back.length)
          payload with
        | none => rfl
        | some read => rfl

end Filled

namespace PacketStatusChunk

variable {chunk decoded : PacketStatusChunk} {statuses : List PacketStatus}

theorem Represents.isVector_or_exact (represents : chunk.Represents statuses) :
    chunk.IsVector ∨ chunk.Exact := by
  cases represents with
  | runLength fits => exact .inr trivial
  | vector1 packs => exact .inl trivial
  | vector2 packs => exact .inl trivial

theorem Represents.isVector_decoded (represents : chunk.Represents statuses)
    (isVector : chunk.IsVector)
    (decodes : fromU16 chunk.as16 = some decoded) : decoded.IsVector := by
  cases represents with
  | runLength fits => cases isVector
  | vector1 packs =>
      have vector := (fromU16_vector packs.small).1
      cases decodes.symm.trans vector
      trivial
  | vector2 packs =>
      have vector := (fromU16_vector packs.small).2
      cases decodes.symm.trans vector
      trivial

end PacketStatusChunk

theorem encodeChunks_append (front back : List PacketStatusChunk) :
    encodeChunks (front ++ back) = encodeChunks front ++ encodeChunks back :=
  List.flatMap_append

theorem length_encodeChunks (chunks : List PacketStatusChunk) :
    (encodeChunks chunks).length = 2 * chunks.length := by
  unfold encodeChunks
  simp only [List.length_flatMap, length_toBigEndian, List.map_const',
    List.sum_replicate_nat]
  omega

/-- The chunks tell of the statuses, and a last vector may have unused
places. -/
def TellOf (chunks : List PacketStatusChunk) (statuses : List PacketStatus) :
    Prop :=
  ∃ unused, chunks.flatMap PacketStatusChunk.statuses =
      statuses.map some ++ List.replicate unused (some .notReceived) ∧
    (0 < unused → ∃ front last, chunks = front ++ [last] ∧ last.IsVector ∧
      unused < last.len)

namespace FeedbackPacket

/-- How many missing packets the last chunk can still take. -/
def room (packet : FeedbackPacket) : Nat :=
  (packet.statusChunks.getLast?.map PacketStatusChunk.room).getD 0

variable {first gap : Nat} {packet : FeedbackPacket}
variable {consumed : List (Nat × Instant)} {statuses : List PacketStatus}

/-- A gap in the room of the last chunk is read as its unused places. -/
theorem Covers.reads (covers : packet.Covers first consumed statuses [])
    (fits : gap ≤ packet.room) :
    ∃ chunks, chunks.length = (pushMissing packet.statusChunks gap).length ∧
      TellOf chunks statuses ∧
      ∀ rest, readStatusChunks statuses.length 0
        (encodeChunks (pushMissing packet.statusChunks gap) ++ rest) =
          some (chunks, rest) := by
  obtain ⟨front, last, before, back, isSplit, whole, nonempty, filled, _,
    tells⟩ := covers.splitLast
  have hold := covers.chunks
  rw [List.append_nil] at hold
  have pushedHold := hold.pushAll (List.replicate gap .notReceived)
  have isRoom : packet.room = last.room := by
    unfold room
    rw [isSplit, List.getLast?_concat]
    rfl
  rw [isRoom] at fits
  obtain ⟨vector, pushed, _, isVector⟩ := pushMissing_within front tells fits
  rw [← isSplit] at pushed
  change Hold (pushMissing packet.statusChunks gap) _ at pushedHold
  rw [pushed] at pushedHold ⊢
  obtain ⟨others, final, earlier, later, sameChunks, sameStatuses, _,
    filledAgain, represents⟩ := pushedHold.splitLast (by
      rw [whole]
      simp [nonempty])
  obtain ⟨rfl, sameLast⟩ := List.append_inj' sameChunks rfl
  cases sameLast
  have same := filled.unique filledAgain
  subst same
  rw [whole, List.append_assoc] at sameStatuses
  have isLater := (List.append_cancel_left sameStatuses).symm
  have positive := List.length_pos_iff.mpr nonempty
  have count : statuses.length = before.length + back.length := by
    rw [whole, List.length_append]
  obtain ⟨decoded, unused, decodes, sameLast, length, full⟩ :=
    represents.fromU16_as16
  have laterLength : later.length = back.length + gap := by
    rw [isLater, List.length_append, List.length_replicate]
  obtain ⟨decodedFront, lengths, decodedStatuses, reads⟩ :=
    @Filled.readStatusChunks front before filled statuses.length 0
      (by omega)
  refine ⟨decodedFront ++ [decoded], ?_, ⟨gap + unused, ?_, ?_⟩, ?_⟩
  · rw [List.length_append, List.length_append, lengths]
    rfl
  · rw [List.flatMap_append, List.flatMap_singleton, decodedStatuses,
      sameLast, isLater, whole, List.map_append, List.map_append,
      List.map_replicate, ← List.replicate_append_replicate,
      List.append_assoc, List.append_assoc]
  · intro some
    refine ⟨decodedFront, decoded, rfl, ?_, by omega⟩
    rcases Nat.eq_zero_or_pos gap with rfl | positiveGap
    · rcases represents.isVector_or_exact with vectorLast | exact
      · exact represents.isVector_decoded vectorLast decodes
      · have none := full exact
        omega
    · exact represents.isVector_decoded (isVector positiveGap) decodes
  · intro rest
    rw [encodeChunks_append, List.append_assoc, reads]
    have single : encodeChunks [vector] = toBigEndian 2 vector.as16 := by
      unfold encodeChunks
      exact List.flatMap_singleton _ _
    rw [single, readStatusChunks_chunk (by omega) represents decodes,
      readStatusChunks_of_le (by omega)]
    rfl

/-- A longer gap leaves runs behind that the reader does not take. -/
theorem Covers.pushMissing_beyond
    (covers : packet.Covers first consumed statuses [])
    (beyond : packet.room ≤ gap) :
    pushMissing packet.statusChunks gap =
      pushMissing packet.statusChunks packet.room ++
        missingRuns (gap - packet.room) := by
  obtain ⟨front, last, _, _, isSplit, _, _, _, _, tells⟩ := covers.splitLast
  have isRoom : packet.room = last.room := by
    unfold room
    rw [isSplit, List.getLast?_concat]
    rfl
  rw [isRoom] at beyond ⊢
  rw [isSplit]
  exact Tcc.pushMissing_beyond front tells beyond

end FeedbackPacket

/-! ## Payloads of the writer -/

/-- The reader takes exactly the chunks of the payload: they tell of as many
packets as the header counts, and the deltas of the received ones follow. -/
def Aligned (packet : FeedbackPacket) (payload : Bytes) : Prop :=
  ∃ chunks statuses,
    readStatusChunks (statusCount payload) 0 (payload.drop 12) =
      some (chunks, packet.encodedReceiveDeltas) ∧
    chunks.length = packet.statusChunks.length ∧
    TellOf chunks statuses ∧
    statuses.length = statusCount payload ∧
    deltasLength statuses = packet.encodedReceiveDeltas.length

namespace FeedbackWriter

/-- The next call of the iterator fills this packet. -/
def Writes (profile : BuildProfile) (before : FeedbackWriter)
    (packet : FeedbackPacket) (payload : Bytes) (after : FeedbackWriter) :
    Prop :=
  before.Yields profile payload after ∧
    ∃ first rest limit, before.arrivals = first :: rest ∧
      profile.addU64 first.1 65535 = .ok limit ∧
      packet = ((before.start first).fill limit (first :: rest)).1 ∧
      payload = before.payload first packet

variable {writer : FeedbackWriter} {first : Nat × Instant}

theorem payload_parts (writer : FeedbackWriter) (first : Nat × Instant)
    (packet : FeedbackPacket) :
    baseSeqnum (writer.payload first packet) = first.1 % 256 ^ 2 ∧
      statusCount (writer.payload first packet) =
        (packet.prevSeqnum - first.1 + 1) % 256 ^ 2 ∧
      Tcc.referenceTimeTicks (writer.payload first packet) =
        writer.referenceTimeTicks first.2 % 256 ^ 3 ∧
      (writer.payload first packet).drop 12 =
        encodeChunks packet.statusChunks ++ packet.encodedReceiveDeltas := by
  have parts : ∀ (a b c d e rest : Bytes), a.length = 4 → b.length = 2 →
      c.length = 2 → d.length = 3 → e.length = 1 →
      ((a ++ (b ++ (c ++ (d ++ (e ++ rest))))).drop 4).take 2 = b ∧
        ((a ++ (b ++ (c ++ (d ++ (e ++ rest))))).drop 6).take 2 = c ∧
        ((a ++ (b ++ (c ++ (d ++ (e ++ rest))))).drop 8).take 3 = d ∧
        (a ++ (b ++ (c ++ (d ++ (e ++ rest))))).drop 12 = rest := by
    intro a b c d e rest la lb lc ld le
    have shortA : ∀ count, 4 ≤ count → a.drop count = [] :=
      fun count long => List.drop_eq_nil_of_le (la.le.trans long)
    have shortB : ∀ count, 2 ≤ count → b.drop count = [] :=
      fun count long => List.drop_eq_nil_of_le (lb.le.trans long)
    have shortC : ∀ count, 2 ≤ count → c.drop count = [] :=
      fun count long => List.drop_eq_nil_of_le (lc.le.trans long)
    have shortD : ∀ count, 3 ≤ count → d.drop count = [] :=
      fun count long => List.drop_eq_nil_of_le (ld.le.trans long)
    simp [List.drop_append, la, lb, lc, ld, le, shortA, shortB, shortC,
      shortD]
  obtain ⟨base, count, reference, rest⟩ := parts
    (toBigEndian 4 writer.ssrc.toNat) (toBigEndian 2 first.1)
    (toBigEndian 2 (packet.prevSeqnum - first.1 + 1))
    (toBigEndian 3 (writer.referenceTimeTicks first.2))
    (toBigEndian 1 writer.nextFeedbackSeqnum.toNat)
    (encodeChunks packet.statusChunks ++ packet.encodedReceiveDeltas)
    (length_toBigEndian 4 _) (length_toBigEndian 2 _)
    (length_toBigEndian 2 _) (length_toBigEndian 3 _)
    (length_toBigEndian 1 _)
  refine ⟨?_, ?_, ?_, rest⟩
  · exact (congrArg fromBigEndian base).trans (fromBigEndian_toBigEndian 2 _)
  · exact (congrArg fromBigEndian count).trans (fromBigEndian_toBigEndian 2 _)
  · exact (congrArg fromBigEndian reference).trans
      (fromBigEndian_toBigEndian 3 _)

end FeedbackWriter

namespace FeedbackPacket

variable {writer : FeedbackWriter} {first : Nat × Instant} {seqnum : Nat}
variable {packet : FeedbackPacket} {consumed : List (Nat × Instant)}
variable {statuses : List PacketStatus}

theorem Covers.statusCount_eq
    (covers : packet.Covers first.1 consumed statuses []) (seqnum : Nat) :
    statusCount (writer.payload first (packet.skipTo seqnum)) =
      statuses.length % 65536 := by
  have extent := covers.extent
  have positive := covers.length_pos
  rw [(writer.payload_parts first (packet.skipTo seqnum)).2.1]
  change (packet.prevSeqnum - first.1 + 1) % 65536 = _
  congr 1
  omega

/-- The reader is in step unless the count has wrapped or the gap has gone
beyond the last chunk. -/
theorem Covers.aligned_iff
    (covers : packet.Covers first.1 consumed statuses [])
    (few : statuses.length ≤ 65536) :
    Aligned (packet.skipTo seqnum)
        (writer.payload first (packet.skipTo seqnum)) ↔
      statuses.length < 65536 ∧
        seqnum - (packet.prevSeqnum + 1) ≤ packet.room := by
  obtain ⟨gap, isGap⟩ : ∃ gap, gap = seqnum - (packet.prevSeqnum + 1) :=
    ⟨_, rfl⟩
  have count := @Covers.statusCount_eq writer first packet consumed statuses
    covers seqnum
  have rest := (writer.payload_parts first (packet.skipTo seqnum)).2.2.2
  have chunksOf : (packet.skipTo seqnum).statusChunks =
      pushMissing packet.statusChunks gap := by
    rw [isGap]
    rfl
  have sameDeltas : (packet.skipTo seqnum).encodedReceiveDeltas =
      packet.encodedReceiveDeltas := rfl
  unfold Aligned
  rw [count, rest, chunksOf, sameDeltas, ← isGap]
  constructor
  · rintro ⟨chunks, others, reads, lengths, _⟩
    by_cases short : statuses.length < 65536
    · refine ⟨short, ?_⟩
      by_contra beyond
      rw [Nat.mod_eq_of_lt short,
        covers.pushMissing_beyond (Nat.not_le.mp beyond).le,
        encodeChunks_append, List.append_assoc] at reads
      obtain ⟨found, _, _, all⟩ := covers.reads (le_refl packet.room)
      rw [all] at reads
      have leftover := congrArg (fun read => read.2.length)
        (Option.some.inj reads)
      dsimp only at leftover
      rw [List.length_append] at leftover
      have positive := List.length_pos_iff.mpr (missingRuns_ne_nil
        (Nat.sub_pos_of_lt (Nat.not_le.mp beyond)))
      have runs := length_encodeChunks (missingRuns (gap - packet.room))
      omega
    · have long : statuses.length = 65536 := by omega
      rw [long, Nat.mod_self, readStatusChunks_of_le (Nat.le_refl 0)] at reads
      have noChunks := congrArg Prod.fst (Option.some.inj reads)
      dsimp only at noChunks
      rw [← noChunks] at lengths
      have nothing := List.length_eq_zero_iff.mp lengths.symm
      have hold := covers.chunks.pushAll (List.replicate gap .notReceived)
      change Hold (pushMissing packet.statusChunks gap) _ at hold
      rw [nothing] at hold
      generalize whole : statuses ++ [] ++
        List.replicate gap PacketStatus.notReceived = all at hold
      cases hold
      have positive := congrArg List.length whole
      simp [long] at positive
  · rintro ⟨short, fits⟩
    obtain ⟨chunks, lengths, tell, reads⟩ := covers.reads fits
    rw [Nat.mod_eq_of_lt short]
    exact ⟨chunks, statuses, reads _, lengths, tell, rfl, covers.deltas⟩

end FeedbackPacket

namespace FeedbackWriter

/-- The deltas of these arrivals fit, and that of the next one does not, but
the gap before it goes beyond the last chunk. -/
def CutsGap (writer : FeedbackWriter) (first : Nat × Instant) : Prop :=
  ∃ front next back last, writer.arrivals = front ++ next :: back ∧
    (writer.start first).takeAll front = some last ∧
    last.StopsAt (first.1 + 65535) next ∧
    last.room < next.1 - (last.prevSeqnum + 1)

variable {profile : BuildProfile} {writer before after : FeedbackWriter}
variable {payload : Bytes} {first : Nat × Instant} {limit : Nat}
variable {packet : FeedbackPacket} {rest : List (Nat × Instant)}

/-- A payload without arrivals has no chunks, but its header counts one
packet. -/
theorem not_aligned_start :
    ¬ Aligned (writer.start first)
      (writer.payload first (writer.start first)) := by
  have parts := writer.payload_parts first (writer.start first)
  have count : statusCount (writer.payload first (writer.start first)) =
      1 := by
    rw [parts.2.1]
    change (first.1 - first.1 + 1) % 65536 = 1
    rw [Nat.sub_self]
  rintro ⟨chunks, statuses, reads, _⟩
  rw [count, parts.2.2.2] at reads
  cases reads

/-- The loop ends at an arrival whose delta does not fit, and there only. -/
theorem Numbered.stops_unique (numbered : writer.Numbered)
    (isNext : writer.arrivals = first :: rest)
    {front left : List (Nat × Instant)} {last : FeedbackPacket}
    (split : rest = front ++ left)
    (taken : (writer.start first).takeAll (first :: front) = some last)
    (ended : ((writer.start first).fill limit (first :: rest)).2 = left)
    {before back : List (Nat × Instant)} {next : Nat × Instant}
    {reached : FeedbackPacket}
    (whole : writer.arrivals = before ++ next :: back)
    (isReached : (writer.start first).takeAll before = some reached)
    (stops : reached.StopsAt limit next) :
    before = first :: front ∧ reached = last ∧ left = next :: back := by
  have sorted := numbered.sorted
  rw [whole] at sorted
  have inside : ∀ arrival ∈ before, arrival.1 ≤ limit := by
    intro arrival member
    have earlier := (List.pairwise_append.mp sorted).2.2 arrival member next
      List.mem_cons_self
    exact earlier.le.trans stops.inLimit
  have filled := FeedbackPacket.fill_of_takeAll isReached inside
    (next :: back)
  rw [← whole, isNext, stops.fill] at filled
  rw [filled] at ended
  dsimp only at ended
  have same : before = first :: front := by
    rw [isNext, split, ← List.cons_append, ended] at whole
    exact (List.append_cancel_right whole).symm
  rw [same, taken] at isReached
  cases isReached
  exact ⟨same, rfl, ended.symm⟩

/-- The writer cuts a gap if and only if the loop ends there. -/
theorem Numbered.cutsGap_iff (numbered : writer.Numbered)
    (isNext : writer.arrivals = first :: rest)
    (limits : limit = first.1 + 65535)
    {front left : List (Nat × Instant)} {last : FeedbackPacket}
    (split : rest = front ++ left)
    (taken : (writer.start first).takeAll (first :: front) = some last)
    (ended : ((writer.start first).fill limit (first :: rest)).2 = left) :
    writer.CutsGap first ↔
      ∃ next others, left = next :: others ∧ last.StopsAt limit next ∧
        last.room < next.1 - (last.prevSeqnum + 1) := by
  unfold CutsGap
  rw [← limits]
  constructor
  · rintro ⟨before, next, back, reached, whole, isReached, stops, beyond⟩
    obtain ⟨_, rfl, isLeft⟩ := numbered.stops_unique isNext split taken ended
      whole isReached stops
    exact ⟨next, back, isLeft, stops, beyond⟩
  · rintro ⟨next, others, isLeft, stops, beyond⟩
    refine ⟨first :: front, next, others, last, ?_, taken, stops, beyond⟩
    rw [isNext, split, isLeft, List.cons_append]

/-- How many packets a payload tells of. -/
theorem length_statuses {consumed : List (Nat × Instant)}
    {statuses : List PacketStatus}
    (covers : packet.Covers first.1 consumed statuses [])
    (inside : ∀ arrival ∈ consumed, arrival.1 ≤ limit)
    (limits : limit = first.1 + 65535) :
    statuses.length ≤ 65536 ∧
      ((∃ arrival ∈ consumed, arrival.1 = limit) ↔
        statuses.length = 65536) := by
  have extent := covers.extent
  obtain ⟨final, isFinal, number⟩ := covers.last
  have bound := inside final isFinal
  refine ⟨by omega, ?_⟩
  constructor
  · rintro ⟨arrival, member, isLimit⟩
    have isNumber := List.mem_map_of_mem (f := Prod.fst) member
    rw [← covers.numbers] at isNumber
    have early := lt_of_mem_receivedNumbers isNumber
    omega
  · intro long
    exact ⟨final, isFinal, by omega⟩

theorem skipTo_own (packet : FeedbackPacket) :
    packet.skipTo packet.prevSeqnum = packet := by
  unfold FeedbackPacket.skipTo
  rw [Nat.sub_eq_zero_of_le (Nat.le_succ packet.prevSeqnum)]
  rfl

/-- What one payload consumes if its first arrival fits. -/
theorem Numbered.consumes_written (numbered : before.Numbered)
    (yields : before.Yields profile payload after)
    (isNext : before.arrivals = first :: rest)
    (fits : (before.start first).Fits [first])
    (inWord : first.1 + 65535 < 2 ^ 64) (limits : limit = first.1 + 65535) :
    ∃ front last seqnum, rest = front ++ after.arrivals ∧
      (first :: front).Pairwise (fun left right => left.1 < right.1) ∧
      (∀ arrival ∈ first :: front, arrival.1 ≤ limit) ∧
      (before.start first).takeAll (first :: front) = some last ∧
      payload = before.payload first (last.skipTo seqnum) ∧
      (before.start first).fill limit (first :: rest) =
        (last.skipTo seqnum, after.arrivals) ∧
      (before.CutsGap first ↔
        last.room < seqnum - (last.prevSeqnum + 1)) := by
  obtain ⟨head, others, other, isHead, added, isPayload, isAfter⟩ :=
    yields_iff.mp yields
  rw [isNext] at isHead
  cases isHead
  rw [profile.addU64_eq_ok inWord, ← limits] at added
  cases added
  obtain ⟨front, left, last, statuses, split, inside, sorted, taken, _,
    ends⟩ := numbered.written isNext fits
      (limits ▸ Nat.le_add_right first.1 65535)
  have isLeft : ((before.start first).fill limit (first :: rest)).2 =
      left := by
    rcases ends with ⟨ended, _⟩ | ⟨_, _, _, _, ended⟩
    · rw [ended]
    · rw [ended]
  have afterLeft : after.arrivals = left := by
    rw [isAfter, ← isLeft]
  have gap := numbered.cutsGap_iff isNext limits split taken isLeft
  rw [afterLeft, gap]
  rcases ends with ⟨ended, none⟩ | ⟨next, others, isSplit, stops, ended⟩
  · refine ⟨front, last, last.prevSeqnum, split, sorted, inside, taken, ?_, ?_,
      ?_⟩
    · rw [isPayload, ended, skipTo_own]
    · rw [ended, skipTo_own]
    · constructor
      · rintro ⟨next, others, isSplit, stops, _⟩
        exact (none next others isSplit stops).elim
      · intro beyond
        omega
  · refine ⟨front, last, next.1, split, sorted, inside, taken, ?_, ended, ?_⟩
    · rw [isPayload, ended]
    · constructor
      · rintro ⟨another, rest, isAnother, _, beyond⟩
        rw [isSplit] at isAnother
        cases isAnother
        exact beyond
      · intro beyond
        exact ⟨next, others, isSplit, stops, beyond⟩

/-- One payload. -/
theorem Numbered.aligned_iff (numbered : before.Numbered)
    (writes : before.Writes profile packet payload after)
    (isFirst : before.arrivals.head? = some first) :
    Aligned packet payload ↔
      first.1 + 65535 < 2 ^ 64 ∧ (before.start first).Fits [first] ∧
        ¬ before.FillsRange first ∧ ¬ before.CutsGap first := by
  obtain ⟨yields, head, rest, limit, isNext, added, rfl, rfl⟩ := writes
  rw [isNext, List.head?_cons, Option.some_inj] at isFirst
  subst isFirst
  have start : ∀ {filled : FeedbackPacket},
      filled = before.start head →
        ¬ Aligned filled (before.payload head filled) := by
    rintro filled rfl
    exact not_aligned_start
  by_cases inWord : head.1 + 65535 < 2 ^ 64
  · rw [profile.addU64_eq_ok inWord] at added
    have limits : limit = head.1 + 65535 := (Except.ok.inj added).symm
    by_cases fits : (before.start head).Fits [head]
    · obtain ⟨front, last, seqnum, split, sorted, inside, taken, _, filled,
        gap⟩ := numbered.consumes_written yields isNext fits inWord limits
      obtain ⟨statuses, covers⟩ := covers_takeAll sorted taken
      obtain ⟨few, long⟩ := length_statuses covers inside limits
      have range : before.FillsRange head ↔ statuses.length = 65536 := by
        rw [fillsRange_iff numbered.sorted yields inWord
          (by rw [isNext]; rfl)
          (show before.arrivals = (head :: front) ++ after.arrivals by
            rw [isNext, split, List.cons_append]), ← limits, long]
      rw [range, gap, filled]
      dsimp only
      rw [covers.aligned_iff few]
      constructor
      · rintro ⟨short, room⟩
        exact ⟨inWord, fits, by omega, by omega⟩
      · rintro ⟨_, _, notLong, room⟩
        exact ⟨by omega, by omega⟩
    · have unencodable : encodeDelta (ticksFromBeforeAndAfter
          (before.start head).prevArrival head.2 microsPerDeltaTick) =
            none := by
        cases encoded : encodeDelta (ticksFromBeforeAndAfter
            (before.start head).prevArrival head.2 microsPerDeltaTick) with
        | none => rfl
        | some pair =>
            exact absurd ⟨Nat.zero_le 1100, pair.1, pair.2, encoded, trivial⟩
              fits
      have stops : (before.start head).StopsAt limit head :=
        ⟨limits ▸ Nat.le_add_right head.1 65535, Nat.zero_le 1100,
          unencodable⟩
      constructor
      · intro aligned
        apply absurd aligned (start _)
        rw [stops.fill, skipTo_first]
      · rintro ⟨_, another, _⟩
        exact absurd another fits
  · have small := numbered.small head (by
      rw [isNext]
      exact List.mem_cons_self)
    have wrapped := BuildProfile.addU64_lt inWord (by decide) small added
    constructor
    · intro aligned
      apply absurd aligned (start _)
      rw [FeedbackPacket.fill, if_pos wrapped]
    · rintro ⟨another, _⟩
      exact absurd another inWord

/-- The reader finds the chunks and the deltas of a payload in their places
unless its first arrival or its range does not fit, or the writer has left the
chunks of a gap behind. -/
theorem chunks_in_place_iff (profile : BuildProfile) {ssrc : UInt32}
    {nextFeedbackSeqnum : UInt8} {epoch : Instant}
    {arrivals : List (Nat × Instant)}
    (small : ∀ arrival ∈ arrivals, arrival.1 < 2 ^ 64)
    (sorted : arrivals.Pairwise fun left right => left.1 < right.1)
    {payloads : List Bytes}
    (run : Run (Yields profile)
      (writeFeedback ssrc nextFeedbackSeqnum epoch arrivals) payloads before)
    (writes : before.Writes profile packet payload after)
    (isFirst : before.arrivals.head? = some first) :
    Aligned packet payload ↔
      first.1 + 65535 < 2 ^ 64 ∧ (before.start first).Fits [first] ∧
        ¬ before.FillsRange first ∧ ¬ before.CutsGap first := by
  have numbered : before.Numbered := by
    apply run.invariant
    · exact ⟨small, sorted⟩
    · exact fun numbered yields => numbered.yields yields
  exact numbered.aligned_iff writes isFirst

/-! ## Concrete payloads -/

/-- Four packets have arrived out of order of time, and six are missing. -/
def spreadWriter : FeedbackWriter :=
  writeFeedback 16 1 0 [(1, 0), (2, 300000), (9, 900000), (10, 400000)]

def spreadPacket : FeedbackPacket where
  prevSeqnum := 10
  prevArrival := 400000
  encodedReceiveDeltas := [0, 1, 2, 255, 254]
  statusChunks := [.vector2 7 5120, .vector2 3 1536]

def spreadPayload : Bytes :=
  [0, 0, 0, 16, 0, 1, 0, 10, 0, 0, 0, 1, 212, 0, 198, 0, 0, 1, 2, 255, 254]

theorem uncut_spreadWriter : ¬ spreadWriter.CutsGap (1, 0) := by
  have numbered : spreadWriter.Numbered := ⟨by decide, by decide⟩
  rw [@Numbered.cutsGap_iff _ _ _ _ numbered rfl rfl _ []
    spreadPacket (List.append_nil _).symm rfl rfl]
  rintro ⟨_, _, isNext, _⟩
  cases isNext

theorem not_fillsRange_spreadWriter : ¬ spreadWriter.FillsRange (1, 0) := by
  rintro ⟨front, arrival, back, split, number, _⟩
  have early : ∀ arrival ∈ spreadWriter.arrivals, arrival.1 ≤ 10 := by decide
  have isEarly := early arrival (split ▸ List.mem_append_right front
    List.mem_cons_self)
  omega

theorem chunks_in_place_spread : Aligned spreadPacket spreadPayload := by
  have writes : spreadWriter.Writes .debug spreadPacket spreadPayload
      { spreadWriter with nextFeedbackSeqnum := 2, arrivals := [] } :=
    ⟨rfl, (1, 0), _, _, rfl, rfl, rfl, rfl⟩
  exact (chunks_in_place_iff .debug (by decide) (by decide) .nil writes
    rfl).mpr ⟨by decide, fits_first (Nat.le_refl 0),
      not_fillsRange_spreadWriter, uncut_spreadWriter⟩

/-- Packet 1 has arrived, and packet 16 ten seconds later. -/
def gapCutWriter : FeedbackWriter :=
  writeFeedback 16 1 0 [(1, 1000000), (16, 10000000000)]

def gapCutPacket : FeedbackPacket where
  prevSeqnum := 1
  prevArrival := 1000000
  encodedReceiveDeltas := [4]
  statusChunks := [.vector1 14 8192, .runLength 1 .notReceived]

/-- The run after the vector is read as deltas. -/
def gapCutPayload : Bytes :=
  [0, 0, 0, 16, 0, 1, 0, 1, 0, 0, 0, 1, 160, 0, 0, 1, 4]

theorem writes_gapCutWriter :
    gapCutWriter.Writes .debug gapCutPacket gapCutPayload
      { gapCutWriter with
        nextFeedbackSeqnum := 2
        arrivals := [(16, 10000000000)] } :=
  ⟨rfl, (1, 1000000), [(16, 10000000000)], _, rfl, rfl, rfl, rfl⟩

theorem not_aligned_gapCut : ¬ Aligned gapCutPacket gapCutPayload := by
  rintro ⟨chunks, statuses, reads, _⟩
  have left : (readStatusChunks (statusCount gapCutPayload) 0
      (gapCutPayload.drop 12)).map Prod.snd = some [0, 1, 4] := by
    decide +kernel
  rw [reads] at left
  cases left

theorem cut_gap_is_read_as_delta :
    readFeedback .debug gapCutPayload 1 = .ok (some (1, [(1, 0)]), 1) ∧
      ¬ ∀ (profile : BuildProfile) (ssrc : UInt32)
        (nextFeedbackSeqnum : UInt8) (epoch : Instant)
        (arrivals : List (Nat × Instant)),
        (∀ arrival ∈ arrivals, arrival.1 < 2 ^ 64) →
        arrivals.Pairwise (fun left right => left.1 < right.1) →
        ∀ (payloads : List Bytes) (before after : FeedbackWriter)
          (packet : FeedbackPacket) (payload : Bytes),
          Run (Yields profile)
            (writeFeedback ssrc nextFeedbackSeqnum epoch arrivals) payloads
            before →
          before.Writes profile packet payload after →
            Aligned packet payload := by
  refine ⟨by decide +kernel, ?_⟩
  intro always
  exact not_aligned_gapCut (always .debug 16 1 0
    [(1, 1000000), (16, 10000000000)] (by decide) (by decide) [] _ _ _ _
    .nil writes_gapCutWriter)

end FeedbackWriter

end CallingService.Backend.Tcc
