import CallingService.Backend.Tcc.PayloadFilling

/-!
# The writer comes to an end

Each payload takes at least its first arrival, and it stays small although the
gap before an arrival is written after the size has been checked.  Only the
sum that limits the numbers of a payload may overflow.
-/

namespace CallingService.Backend.Tcc

open Foundation

/-! ## Sizes -/

theorem length_pushStatus_le (chunks : List PacketStatusChunk)
    (status : PacketStatus) :
    (pushStatus chunks status).length ≤ chunks.length + 1 := by
  rcases List.eq_nil_or_concat chunks with rfl | ⟨front, last, rfl⟩
  · exact le_refl 1
  · rw [List.concat_eq_append, pushStatus_append]
    cases pushed : last.push status with
    | mk changed another =>
        cases another with
        | none =>
            rw [pushStatus_last pushed]
            simp
        | some next =>
            rw [pushStatus_another pushed]
            simp

namespace FeedbackPacket

variable {first seqnum : Nat} {packet : FeedbackPacket}
variable {consumed : List (Nat × Instant)} {statuses : List PacketStatus}

theorem size_consume_le {status : PacketStatus} {delta : Bytes}
    (length : delta.length = status.deltaLength) (arrival : Nat × Instant) :
    (packet.consume arrival status delta).size ≤ packet.size + 4 := by
  have chunks := length_pushStatus_le packet.statusChunks status
  have short : status.deltaLength ≤ 2 := by
    cases status with
    | notReceived => decide
    | receivedSmallDelta => decide
    | receivedLargeOrNegativeDelta => decide
  change (packet.encodedReceiveDeltas ++ delta).length +
    2 * (pushStatus packet.statusChunks status).length ≤ _
  unfold size
  rw [List.length_append]
  omega

/-- The longest gap takes nine runs. -/
theorem Covers.size_skipTo_le
    (covers : packet.Covers first consumed statuses [])
    (near : seqnum ≤ packet.prevSeqnum + 65535) :
    (packet.skipTo seqnum).size ≤ packet.size + 18 := by
  obtain ⟨front, last, _, _, isSplit, _, _, _, _, tells⟩ := covers.splitLast
  have chunks : (pushMissing packet.statusChunks
      (seqnum - (packet.prevSeqnum + 1))).length ≤
        packet.statusChunks.length + 9 := by
    rw [isSplit]
    by_cases fits : seqnum - (packet.prevSeqnum + 1) ≤ last.room
    · obtain ⟨filled, pushed, _⟩ := pushMissing_within front tells fits
      rw [pushed, List.length_append, List.length_append]
      exact Nat.le_add_right _ 9
    · obtain ⟨filled, pushed, _⟩ :=
        pushMissing_within front tells (le_refl last.room)
      have runs := length_missingRuns_le
        (seqnum - (packet.prevSeqnum + 1) - last.room)
      rw [pushMissing_beyond front tells (Nat.not_le.mp fits).le, pushed,
        List.length_append, List.length_append, List.length_append,
        List.length_singleton, List.length_singleton]
      omega
  change packet.encodedReceiveDeltas.length + 2 * (pushMissing
    packet.statusChunks (seqnum - (packet.prevSeqnum + 1))).length ≤ _
  unfold size
  omega

end FeedbackPacket

namespace FeedbackWriter

/-! ## Progress -/

def NotBeforeEpoch (writer : FeedbackWriter) : Prop :=
  ∀ arrival ∈ writer.arrivals, writer.epoch ≤ arrival.2

variable {profile : BuildProfile} {writer before after : FeedbackWriter}
variable {payload : Bytes} {first : Nat × Instant} {limit : Nat}
variable {rest : List (Nat × Instant)}

theorem NotBeforeEpoch.yields (notBefore : before.NotBeforeEpoch)
    (yields : before.Yields profile payload after) : after.NotBeforeEpoch := by
  obtain ⟨isSuffix, sameEpoch⟩ := arrivals_suffix yields
  intro arrival member
  rw [sameEpoch]
  exact notBefore arrival (isSuffix.subset member)

theorem fits_first (later : writer.epoch ≤ first.2) :
    (writer.start first).Fits [first] := by
  obtain ⟨notNegative, small⟩ := ticks_after_reference later
  exact ⟨Nat.zero_le 1100, .receivedSmallDelta, _,
    encodeDelta_small notNegative small, trivial⟩

/-- Each arrival is let in when there are at most 1100 bytes. -/
theorem size_takeAll_le {front : List (Nat × Instant)}
    {last : FeedbackPacket}
    (sorted : (first :: front).Pairwise fun left right => left.1 < right.1)
    (inLimit : ∀ arrival ∈ front, arrival.1 ≤ first.1 + 65535)
    (taken : (writer.start first).takeAll (first :: front) = some last) :
    last.size ≤ 1122 := by
  rcases List.eq_nil_or_concat front with rfl | ⟨earlier, final, rfl⟩
  · obtain ⟨_, status, delta, encoded, same⟩ :=
      FeedbackPacket.takeAll_cons_eq_some.mp taken
    rw [skipTo_first] at same
    cases same
    have consumed := @FeedbackPacket.size_consume_le (writer.start first)
      status delta (encodeDelta_eq_some encoded).2 first
    exact consumed.trans (show 0 + 4 ≤ 1122 by decide)
  · rw [List.concat_eq_append] at *
    rw [← List.cons_append] at taken sorted
    obtain ⟨packet, isFront, ended⟩ := FeedbackPacket.takeAll_append.mp taken
    obtain ⟨sortedFront, _, _⟩ := List.pairwise_append.mp sorted
    obtain ⟨statuses, covers⟩ := covers_takeAll sortedFront isFront
    obtain ⟨room, status, delta, encoded, same⟩ :=
      FeedbackPacket.takeAll_cons_eq_some.mp ended
    cases same
    have inside := inLimit final (by simp)
    have extent := covers.extent
    have positive := covers.length_pos
    have skipped := covers.size_skipTo_le
      (show final.1 ≤ packet.prevSeqnum + 65535 by omega)
    have consumed := @FeedbackPacket.size_consume_le
      (packet.skipTo final.1) status delta (encodeDelta_eq_some encoded).2
      final
    omega

/-- The payload after its header. -/
theorem length_payload (packet : FeedbackPacket) :
    (writer.payload first packet).length = 12 + packet.size := by
  unfold payload FeedbackPacket.size
  simp only [List.length_append, length_toBigEndian, List.length_flatMap,
    List.map_const', List.sum_replicate_nat]
  omega

/-- A payload takes an arrival, and it is small. -/
theorem Numbered.progress (numbered : writer.Numbered)
    (isNext : writer.arrivals = first :: rest)
    (later : writer.epoch ≤ first.2)
    (limits : limit = first.1 + 65535) :
    ∃ front, first :: rest = first :: front ++
        ((writer.start first).fill limit (first :: rest)).2 ∧
      ((writer.start first).fill limit (first :: rest)).1.size ≤ 1150 := by
  obtain ⟨front, left, last, statuses, isSplit, inside, sorted, taken, covers,
    ends⟩ := numbered.written isNext (fits_first later)
      (limits ▸ Nat.le_add_right first.1 65535)
  have small := size_takeAll_le sorted (fun arrival member =>
    limits ▸ inside arrival (List.mem_cons_of_mem first member)) taken
  rcases ends with ⟨ended, _⟩ | ⟨next, others, isLeft, stops, ended⟩
  · rw [ended]
    exact ⟨front, by rw [isSplit, List.cons_append], by dsimp only; omega⟩
  · have extent := covers.extent
    have positive := covers.length_pos
    have inLimit := stops.inLimit
    have skipped := covers.size_skipTo_le
      (show next.1 ≤ last.prevSeqnum + 65535 by omega)
    have size := stops.small
    rw [ended]
    exact ⟨front, by rw [isSplit, List.cons_append], by dsimp only; omega⟩

/-! ## The whole run -/

/-- The next payload tells of these arrivals. -/
def Consumes (profile : BuildProfile) (before : FeedbackWriter)
    (packet : List (Nat × Instant) × Bytes) (after : FeedbackWriter) : Prop :=
  before.arrivals = packet.1 ++ after.arrivals ∧
    before.Yields profile packet.2 after

/-- The iterator ends.  Its payloads divide the arrivals among themselves, and
each is small and tells of at least one of them. -/
def Drains (profile : BuildProfile) (writer : FeedbackWriter) : Prop :=
  ∃ packets last, Run (Consumes profile) writer packets last ∧
    last.next profile = .ok none ∧
    packets.flatMap Prod.fst = writer.arrivals ∧
    ∀ packet ∈ packets, packet.1 ≠ [] ∧ packet.2.length ≤ 12 + 1150

theorem next_eq_none_iff :
    writer.next profile = .ok none ↔ writer.arrivals = [] := by
  constructor
  · intro ended
    unfold next at ended
    cases isNext : writer.arrivals with
    | nil => rfl
    | cons first rest =>
        rw [isNext] at ended
        obtain ⟨limit, _, returned⟩ := bind_eq_ok_iff.mp ended
        cases returned
  · intro nothing
    unfold next
    rw [nothing]

theorem Consumes.deterministic {packet other : List (Nat × Instant) × Bytes}
    {second : FeedbackWriter} (one : Consumes profile before packet after)
    (another : Consumes profile before other second) :
    packet = other ∧ after = second := by
  obtain ⟨split, yields⟩ := one
  obtain ⟨otherSplit, otherYields⟩ := another
  have same := yields.symm.trans otherYields
  cases packet
  cases other
  cases same
  have consumed := List.append_cancel_right (split.symm.trans otherSplit)
  dsimp only at consumed
  rw [consumed]
  exact ⟨rfl, rfl⟩

/-- One step, unless the limit overflows. -/
theorem Numbered.exists_consumes (numbered : writer.Numbered)
    (notBefore : writer.NotBeforeEpoch)
    (isNext : writer.arrivals = first :: rest)
    (inWord : first.1 + 65535 < 2 ^ 64) :
    ∃ packet after, Consumes profile writer packet after ∧
      packet.1 ≠ [] ∧ packet.2.length ≤ 12 + 1150 := by
  obtain ⟨limit, limits⟩ : ∃ limit, limit = first.1 + 65535 := ⟨_, rfl⟩
  have added := profile.addU64_eq_ok inWord
  rw [← limits] at added
  have later := notBefore first (by
    rw [isNext]
    exact List.mem_cons_self)
  obtain ⟨front, split, small⟩ := numbered.progress isNext later limits
  have yields : writer.Yields profile
      (writer.payload first
        ((writer.start first).fill limit (first :: rest)).1)
      { writer with
        nextFeedbackSeqnum := writer.nextFeedbackSeqnum + 1
        arrivals := ((writer.start first).fill limit (first :: rest)).2 } :=
    yields_iff.mpr ⟨first, rest, limit, isNext, added, rfl, rfl⟩
  refine ⟨(first :: front, _), _, ⟨isNext.trans split, yields⟩,
    List.cons_ne_nil first front, ?_⟩
  exact (length_payload _).le.trans (Nat.add_le_add_left small 12)

/-- Once the limit overflows, the arrivals stay as they are. -/
theorem arrivals_of_overflow (isNext : writer.arrivals = first :: rest)
    (small : first.1 < 2 ^ 64) (overflow : ¬ first.1 + 65535 < 2 ^ 64)
    {packets : List (List (Nat × Instant) × Bytes)} {last : FeedbackWriter}
    (run : Run (Consumes profile) writer packets last) :
    last.arrivals = first :: rest := by
  apply run.invariant isNext
  intro before packet after same consumes
  obtain ⟨head, others, limit, isHead, added, _, rfl⟩ :=
    yields_iff.mp consumes.2
  rw [same] at isHead
  cases isHead
  have wrapped := BuildProfile.addU64_lt overflow (by decide) small added
  dsimp only
  rw [FeedbackPacket.fill, if_pos wrapped]

theorem Drains.of_step {packet : List (Nat × Instant) × Bytes}
    (step : Consumes profile before packet after) (some : packet.1 ≠ [])
    (small : packet.2.length ≤ 12 + 1150) (drains : after.Drains profile) :
    before.Drains profile := by
  obtain ⟨packets, last, run, ended, whole, each⟩ := drains
  refine ⟨packet :: packets, last, ?_, ended, ?_, ?_⟩
  · rw [← List.singleton_append, ← List.nil_append [packet]]
    exact (Run.snoc .nil step).append run
  · rw [List.flatMap_cons, whole, step.1]
  · intro other member
    rcases List.mem_cons.mp member with rfl | later
    · exact ⟨some, small⟩
    · exact each other later

theorem arrivals_suffix_of_run
    {packets : List (List (Nat × Instant) × Bytes)} {last : FeedbackWriter}
    (run : Run (Consumes profile) writer packets last) :
    last.arrivals <:+ writer.arrivals := by
  apply run.invariant (List.suffix_refl _)
  intro before packet after isSuffix step
  exact (arrivals_suffix step.2).1.trans isSuffix

/-- No payload begins so late that its limit overflows. -/
def NeverOverflows (profile : BuildProfile) (writer : FeedbackWriter) : Prop :=
  ∀ packets before first, Run (Consumes profile) writer packets before →
    before.arrivals.head? = some first → first.1 + 65535 < 2 ^ 64

theorem Numbered.drains (numbered : writer.Numbered)
    (notBefore : writer.NotBeforeEpoch)
    (never : writer.NeverOverflows profile) : writer.Drains profile := by
  generalize count : writer.arrivals.length = left
  induction left using Nat.strong_induction_on generalizing writer with
  | _ left ih =>
      cases isNext : writer.arrivals with
      | nil =>
          refine ⟨[], writer, .nil, next_eq_none_iff.mpr isNext, ?_, by simp⟩
          rw [isNext]
          rfl
      | cons first rest =>
          have inWord := never [] writer first .nil (by rw [isNext]; rfl)
          obtain ⟨packet, after, step, some, small⟩ :=
            @Numbered.exists_consumes profile writer first rest numbered
              notBefore isNext inWord
          apply Drains.of_step step some small
          have fewer : after.arrivals.length < left := by
            have positive := List.length_pos_iff.mpr some
            rw [← count, step.1, List.length_append]
            omega
          apply ih _ fewer (numbered.yields step.2)
            (notBefore.yields step.2) _ rfl
          intro packets before head run isHead
          apply never (packet :: packets) before head _ isHead
          rw [← List.singleton_append, ← List.nil_append [packet]]
          exact (Run.snoc .nil step).append run

theorem Numbered.neverOverflows (numbered : writer.Numbered)
    (drains : writer.Drains profile) : writer.NeverOverflows profile := by
  obtain ⟨packets, last, run, ended, _⟩ := drains
  have nothing := next_eq_none_iff.mp ended
  intro others before first reached isHead
  obtain ⟨rest, isNext⟩ : ∃ rest, before.arrivals = first :: rest := by
    cases arrivals : before.arrivals with
    | nil =>
        rw [arrivals] at isHead
        cases isHead
    | cons head rest =>
        rw [arrivals] at isHead
        cases isHead
        exact ⟨rest, rfl⟩
  by_contra overflow
  have reachedNumbered : before.Numbered :=
    reached.invariant numbered fun inv step => inv.yields step.2
  have small := reachedNumbered.small first (by
    rw [isNext]
    exact List.mem_cons_self)
  rcases reached.comparable run Consumes.deterministic with
    ⟨later, continued⟩ | ⟨later, continued⟩
  · have stuck := arrivals_of_overflow isNext small overflow continued
    rw [nothing] at stuck
    cases stuck
  · have isSuffix := arrivals_suffix_of_run continued
    rw [nothing, isNext] at isSuffix
    cases List.suffix_nil.mp isSuffix

/-- The iterator ends after small payloads that divide the arrivals if and
only if none of them begins too close to the largest word. -/
theorem write_feedback_drains_iff (profile : BuildProfile) {ssrc : UInt32}
    {nextFeedbackSeqnum : UInt8} {epoch : Instant}
    {arrivals : List (Nat × Instant)}
    (small : ∀ arrival ∈ arrivals, arrival.1 < 2 ^ 64)
    (sorted : arrivals.Pairwise fun left right => left.1 < right.1)
    (notBefore : ∀ arrival ∈ arrivals, epoch ≤ arrival.2) :
    (writeFeedback ssrc nextFeedbackSeqnum epoch arrivals).Drains profile ↔
      ∀ packets before first,
        Run (Consumes profile)
          (writeFeedback ssrc nextFeedbackSeqnum epoch arrivals) packets
          before →
        before.arrivals.head? = some first → first.1 + 65535 < 2 ^ 64 := by
  have numbered : (writeFeedback ssrc nextFeedbackSeqnum epoch
      arrivals).Numbered := ⟨small, sorted⟩
  constructor
  · exact numbered.neverOverflows
  · exact numbered.drains notBefore

theorem write_feedback_drains_iff_gap : gapWriter.Drains .debug := by
  apply (write_feedback_drains_iff .debug inOrder_gapWriter.small
    inOrder_gapWriter.sorted (by decide)).mpr
  intro packets before first run isHead
  have member := (arrivals_suffix_of_run run).subset
    (List.mem_of_mem_head? isHead)
  have early : ∀ arrival ∈ gapWriter.arrivals,
      arrival.1 + 65535 < 2 ^ 64 := by
    decide
  exact early first member

/-- A writer of the largest number gets stuck. -/
theorem largest_number_never_drains :
    ¬ ∀ (profile : BuildProfile) (ssrc : UInt32)
      (nextFeedbackSeqnum : UInt8) (epoch : Instant)
      (arrivals : List (Nat × Instant)),
      (∀ arrival ∈ arrivals, arrival.1 < 2 ^ 64) →
      arrivals.Pairwise (fun left right => left.1 < right.1) →
      (∀ arrival ∈ arrivals, epoch ≤ arrival.2) →
        (writeFeedback ssrc nextFeedbackSeqnum epoch arrivals).Drains
          profile := by
  intro always
  have numbered : (writeFeedback 16 1 0 [(2 ^ 64 - 1, 0)]).Numbered :=
    ⟨by decide, by decide⟩
  have drains := always .release 16 1 0 [(2 ^ 64 - 1, 0)] numbered.small
    numbered.sorted (by decide)
  have early := numbered.neverOverflows drains [] _ (2 ^ 64 - 1, 0) .nil rfl
  exact absurd early (by decide)

end FeedbackWriter

end CallingService.Backend.Tcc
