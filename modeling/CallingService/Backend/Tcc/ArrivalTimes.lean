import CallingService.Backend.Tcc.FeedbackAlignment
import Mathlib.Data.List.Infix

/-!
# Recovered arrival times

A delta is measured from the arrival before it and rounded towards zero, so
the sums that the reader forms collect the rounding errors of all deltas.
-/

namespace CallingService.Backend.Tcc

open Foundation

/-! ## Rounding -/

/-- A delta tick in nanoseconds. -/
def nanosPerDeltaTick : Int := 250000

/-- The deltas of the arrivals, each measured from the arrival before. -/
def deltaTicks : Instant → List (Nat × Instant) → List Int
  | _, [] => []
  | before, arrival :: rest =>
      ticksFromBeforeAndAfter before arrival.2 microsPerDeltaTick ::
        deltaTicks arrival.2 rest

/-- What rounding the deltas leaves out. -/
def roundingError : Instant → List (Nat × Instant) → Int
  | _, [] => 0
  | before, arrival :: rest =>
      Int.tmod ((arrival.2 : Nat) - (before : Nat)) nanosPerDeltaTick +
        roundingError arrival.2 rest

/-- The sum of the deltas is less than a tick away from the time since the
reference time. -/
def WithinTick (reference : Instant) (arrival : Nat × Instant) (sum : Int) :
    Prop :=
  |((arrival.2 : Nat) : Int) - (reference : Nat) - nanosPerDeltaTick * sum| <
    nanosPerDeltaTick

theorem ticksFromBeforeAndAfter_eq {before after : Nat}
    (ahead : after < before + 2 ^ 64 * 1000)
    (behind : before < after + 2 ^ 64 * 1000) :
    ticksFromBeforeAndAfter before after microsPerDeltaTick =
      Int.tdiv ((after : Int) - before) nanosPerDeltaTick := by
  unfold ticksFromBeforeAndAfter ticksFromDuration asMicros
    microsPerDeltaTick nanosPerDeltaTick
  split
  · rename_i later
    obtain ⟨elapsed, rfl⟩ := Nat.exists_eq_add_of_le later.le
    have difference : ((before + elapsed : Nat) : Int) - before = elapsed := by
      omega
    rw [difference, Int.tdiv_eq_ediv_of_nonneg (Int.natCast_nonneg elapsed)]
    omega
  · rename_i notLater
    obtain ⟨elapsed, rfl⟩ := Nat.exists_eq_add_of_le (Nat.not_lt.mp notLater)
    have difference : (after : Int) - ((after + elapsed : Nat) : Int) =
        -elapsed := by
      omega
    rw [difference, Int.neg_tdiv,
      Int.tdiv_eq_ediv_of_nonneg (Int.natCast_nonneg elapsed)]
    omega

/-- A delta adds what its rounding has left out to the error of the sum. -/
theorem error_addDelta {before after reference : Nat} {sum : Int}
    (ahead : after < before + 2 ^ 64 * 1000)
    (behind : before < after + 2 ^ 64 * 1000) :
    (after : Int) - reference - nanosPerDeltaTick *
        (sum + ticksFromBeforeAndAfter before after microsPerDeltaTick) =
      before - reference - nanosPerDeltaTick * sum +
        Int.tmod ((after : Int) - before) nanosPerDeltaTick := by
  have parts := Int.mul_tdiv_add_tmod ((after : Int) - before)
    nanosPerDeltaTick
  rw [ticksFromBeforeAndAfter_eq ahead behind, mul_add]
  omega

/-- The sums of the deltas stay within a tick exactly as long as the rounding
errors do. -/
theorem forall₂_withinTick_iff {reference before : Nat} {sum : Int}
    {arrivals : List (Nat × Instant)}
    (near : ∀ arrival ∈ arrivals, ∀ other ∈ arrivals,
      arrival.2 < other.2 + 2 ^ 64 * 1000)
    (nearBefore : ∀ arrival ∈ arrivals,
      arrival.2 < before + 2 ^ 64 * 1000 ∧
        before < arrival.2 + 2 ^ 64 * 1000) :
    List.Forall₂ (WithinTick reference) arrivals
        (runningSums sum (deltaTicks before arrivals)) ↔
      ∀ front, front <+: arrivals → front ≠ [] →
        |(before : Int) - reference - nanosPerDeltaTick * sum +
          roundingError before front| < nanosPerDeltaTick := by
  induction arrivals generalizing before sum with
  | nil =>
      constructor
      · intro _ front isFront some
        exact absurd (List.prefix_nil.mp isFront) some
      · intro _
        exact .nil
  | cons arrival rest ih =>
      obtain ⟨ahead, behind⟩ := nearBefore arrival List.mem_cons_self
      have moved := @error_addDelta _ _ reference sum ahead behind
      have later := @ih arrival.2 (sum + ticksFromBeforeAndAfter before
        arrival.2 microsPerDeltaTick)
        (fun one isOne other isOther =>
          near one (List.mem_cons_of_mem arrival isOne) other
            (List.mem_cons_of_mem arrival isOther))
        (fun one isOne =>
          ⟨near one (List.mem_cons_of_mem arrival isOne) arrival
            List.mem_cons_self,
          near arrival List.mem_cons_self one
            (List.mem_cons_of_mem arrival isOne)⟩)
      unfold deltaTicks runningSums
      rw [List.forall₂_cons, later]
      unfold WithinTick
      rw [moved]
      constructor
      · rintro ⟨first, others⟩ front isFront some
        cases front with
        | nil => exact absurd rfl some
        | cons head front =>
            obtain ⟨rfl, isPrefix⟩ := List.cons_prefix_cons.mp isFront
            unfold roundingError
            rw [← add_assoc]
            cases front with
            | nil =>
                unfold roundingError
                rw [add_zero]
                exact first
            | cons second front =>
                exact others _ isPrefix (List.cons_ne_nil _ _)
      · intro all
        refine ⟨?_, ?_⟩
        · have first := all [arrival]
            (List.cons_prefix_cons.mpr ⟨rfl, List.nil_prefix⟩)
            (List.cons_ne_nil _ _)
          unfold roundingError roundingError at first
          rw [add_zero] at first
          exact first
        · intro front isFront some
          have next := all (arrival :: front)
            (List.cons_prefix_cons.mpr ⟨rfl, isFront⟩) (List.cons_ne_nil _ _)
          unfold roundingError at next
          rw [← add_assoc] at next
          exact next

/-! ## Encoded deltas -/

theorem readDelta_small (payload : Bytes) :
    readDelta .receivedSmallDelta payload =
      (readBigEndian 1 payload).map fun read =>
        (some (read.1 : Int), read.2) := rfl

theorem readDelta_large (payload : Bytes) :
    readDelta .receivedLargeOrNegativeDelta payload =
      (readBigEndian 2 payload).map fun read =>
        (some (toI16 read.1), read.2) := rfl

theorem readDelta_encodeDelta {ticks : Int} {status : PacketStatus}
    {delta : Bytes} (encoded : encodeDelta ticks = some (status, delta))
    (rest : Bytes) :
    readDelta status (delta ++ rest) = some (some ticks, rest) := by
  unfold encodeDelta at encoded
  split at encoded
  · rename_i small
    cases encoded
    rw [readDelta_small, readBigEndian_toBigEndian]
    change some (some ((ticks.toNat % 256 : Nat) : Int), rest) = _
    have same : ((ticks.toNat % 256 : Nat) : Int) = ticks := by omega
    rw [same]
  · split at encoded
    · rename_i large
      cases encoded
      rw [readDelta_large, readBigEndian_toBigEndian]
      change some (some (toI16 ((ticks % 65536).toNat % 65536)), rest) = _
      have same : toI16 ((ticks % 65536).toNat % 65536) = ticks := by
        unfold toI16
        split
        · omega
        · omega
      rw [same]
    · cases encoded

theorem readBigEndian_append {width value : Nat} {bytes after : Bytes}
    (isRead : readBigEndian width bytes = some (value, after))
    (rest : Bytes) :
    readBigEndian width (bytes ++ rest) = some (value, after ++ rest) := by
  unfold readBigEndian at isRead ⊢
  split at isRead
  · cases isRead
  · rename_i enough
    cases isRead
    rw [if_neg (by rw [List.length_append]; omega),
      List.take_append_of_le_length (Nat.not_lt.mp enough),
      List.drop_append_of_le_length (Nat.not_lt.mp enough)]

theorem readDelta_append {status : PacketStatus} {bytes after : Bytes}
    {delta : Option Int}
    (isRead : readDelta status bytes = some (delta, after)) (rest : Bytes) :
    readDelta status (bytes ++ rest) = some (delta, after ++ rest) := by
  cases status with
  | notReceived =>
      cases isRead
      rfl
  | receivedSmallDelta =>
      obtain ⟨⟨value, others⟩, isValue, returned⟩ :=
        Option.map_eq_some_iff.mp isRead
      cases returned
      rw [readDelta_small, readBigEndian_append isValue]
      rfl
  | receivedLargeOrNegativeDelta =>
      obtain ⟨⟨value, others⟩, isValue, returned⟩ :=
        Option.map_eq_some_iff.mp isRead
      cases returned
      rw [readDelta_large, readBigEndian_append isValue]
      rfl

theorem receivedDeltas_cons {status : PacketStatus} {bytes after : Bytes}
    {delta : Option Int}
    (isRead : readDelta status bytes = some (delta, after))
    (rest : List (Option PacketStatus)) :
    receivedDeltas (some status :: rest) bytes =
      delta.toList ++ receivedDeltas rest after := by
  rw [receivedDeltas, isRead]
  cases delta with
  | none => rfl
  | some ticks => rfl

/-- The deltas of the first statuses are read from the bytes they take. -/
theorem receivedDeltas_append {front : List PacketStatus} {bytes : Bytes}
    (whole : deltasLength front = bytes.length)
    (back : List (Option PacketStatus)) (rest : Bytes) :
    receivedDeltas (front.map some ++ back) (bytes ++ rest) =
      receivedDeltas (front.map some) bytes ++ receivedDeltas back rest := by
  induction front generalizing bytes with
  | nil =>
      have nothing := List.length_eq_zero_iff.mp whole.symm
      rw [nothing]
      rfl
  | cons status others ih =>
      have split : deltasLength (status :: others) =
          status.deltaLength + deltasLength others := rfl
      rw [split] at whole
      obtain ⟨delta, after, isRead, length, _⟩ :=
        @exists_readDelta bytes status (by omega)
      rw [List.map_cons, List.cons_append, receivedDeltas_cons isRead,
        receivedDeltas_cons (readDelta_append isRead rest),
        ih (by omega), List.append_assoc]

theorem receivedDeltas_missing (count : Nat)
    (statuses : List (Option PacketStatus)) (bytes : Bytes) :
    receivedDeltas (List.replicate count (some .notReceived) ++ statuses)
      bytes = receivedDeltas statuses bytes := by
  induction count with
  | zero => rfl
  | succ count ih => exact ih

namespace FeedbackPacket

variable {first : Nat} {packet last : FeedbackPacket}
variable {front consumed : List (Nat × Instant)}
variable {statuses : List PacketStatus}

/-- The bytes of the deltas spell the deltas of the arrivals. -/
theorem Covers.takeAll_deltas
    (covers : packet.Covers first consumed statuses [])
    (sorted : front.Pairwise fun left right => left.1 < right.1)
    (later : ∀ arrival ∈ front, packet.prevSeqnum < arrival.1)
    (taken : packet.takeAll front = some last) :
    ∃ all, last.Covers first (consumed ++ front) all [] ∧
      receivedDeltas (all.map some) last.encodedReceiveDeltas =
        receivedDeltas (statuses.map some) packet.encodedReceiveDeltas ++
          deltaTicks packet.prevArrival front := by
  induction front generalizing packet consumed statuses with
  | nil =>
      cases taken
      refine ⟨statuses, ?_, ?_⟩
      · rw [List.append_nil]
        exact covers
      · exact (List.append_nil _).symm
  | cons arrival rest ih =>
      obtain ⟨_, status, delta, encoded, others⟩ :=
        takeAll_cons_eq_some.mp taken
      obtain ⟨received, length⟩ := encodeDelta_eq_some encoded
      obtain ⟨beforeRest, sortedRest⟩ := List.pairwise_cons.mp sorted
      have next := later arrival List.mem_cons_self
      obtain ⟨all, covered, spelled⟩ := ih (covers.consume next received
        length) sortedRest beforeRest others
      rw [List.append_assoc] at covered
      refine ⟨all, covered, ?_⟩
      have single := readDelta_encodeDelta encoded []
      rw [List.append_nil] at single
      have appended : receivedDeltas ((statuses ++
          (List.replicate (arrival.1 - (packet.prevSeqnum + 1))
            PacketStatus.notReceived ++ [status])).map some)
          (packet.encodedReceiveDeltas ++ delta) =
            receivedDeltas (statuses.map some) packet.encodedReceiveDeltas ++
              [ticksFromBeforeAndAfter packet.prevArrival arrival.2
                microsPerDeltaTick] := by
        rw [List.map_append, receivedDeltas_append covers.deltas,
          List.map_append, List.map_replicate, receivedDeltas_missing,
          List.map_singleton, receivedDeltas_cons single]
        rfl
      rw [spelled]
      change receivedDeltas _ (packet.encodedReceiveDeltas ++ delta) ++
        deltaTicks arrival.2 rest = _
      rw [appended, List.append_assoc]
      rfl

end FeedbackPacket

namespace FeedbackWriter

variable {writer : FeedbackWriter} {first : Nat × Instant}

theorem takeAll_deltas {front : List (Nat × Instant)} {last : FeedbackPacket}
    (sorted : (first :: front).Pairwise fun left right => left.1 < right.1)
    (taken : (writer.start first).takeAll (first :: front) = some last) :
    ∃ statuses, last.Covers first.1 (first :: front) statuses [] ∧
      receivedDeltas (statuses.map some) last.encodedReceiveDeltas =
        deltaTicks (writer.start first).prevArrival (first :: front) := by
  obtain ⟨_, status, delta, encoded, same⟩ :=
    FeedbackPacket.takeAll_cons_eq_some.mp taken
  obtain ⟨received, length⟩ := encodeDelta_eq_some encoded
  rw [skipTo_first] at same
  have covers := @covers_consume_first writer first status delta received
    length
  obtain ⟨later, sortedFront⟩ := List.pairwise_cons.mp sorted
  obtain ⟨all, covered, spelled⟩ := covers.takeAll_deltas sortedFront later
    same
  refine ⟨all, covered, ?_⟩
  have single := readDelta_encodeDelta encoded []
  rw [spelled]
  change receivedDeltas [some status] ([] ++ delta) ++ _ = _
  rw [List.append_nil] at single
  rw [List.nil_append, receivedDeltas_cons single]
  rfl

end FeedbackWriter

/-! ## Reading the payload -/

theorem readArrivals_numbers {referenceTicks seqnum : Nat} {sum : Int}
    {statuses : List PacketStatus} {payload : Bytes}
    {arrivals : List (Nat × RemoteInstant)}
    (isRead : readArrivals referenceTicks seqnum sum (statuses.map some)
      payload = some arrivals) :
    arrivals.map Prod.fst = receivedNumbers seqnum statuses := by
  induction statuses generalizing seqnum sum payload arrivals with
  | nil =>
      cases isRead
      rfl
  | cons status rest ih =>
      rw [List.map_cons] at isRead
      unfold readArrivals at isRead
      obtain ⟨known, isStatus, isRead⟩ := Option.bind_eq_some_iff.mp isRead
      obtain ⟨read, isDelta, isRead⟩ := Option.bind_eq_some_iff.mp isRead
      obtain ⟨delta, after⟩ := read
      cases isStatus
      cases status with
      | notReceived =>
          cases isDelta
          exact ih isRead
      | receivedSmallDelta | receivedLargeOrNegativeDelta =>
          obtain ⟨value, _, returned⟩ := Option.map_eq_some_iff.mp isDelta
          cases returned
          obtain ⟨later, isLater, returned⟩ :=
            Option.bind_eq_some_iff.mp isRead
          cases returned
          rw [List.map_cons, ih isLater]
          rfl

theorem receivedNumbers_congruent {first second : Nat}
    (congruent : second % 2 ^ 16 = first % 2 ^ 16)
    (statuses : List PacketStatus) :
    List.Forall₂ (fun one another => another % 2 ^ 16 = one % 2 ^ 16)
      (receivedNumbers first statuses) (receivedNumbers second statuses) := by
  induction statuses generalizing first second with
  | nil => exact .nil
  | cons status rest ih =>
      have next := @ih (first + 1) (second + 1) (by omega)
      cases status with
      | notReceived => exact next
      | receivedSmallDelta => exact .cons congruent next
      | receivedLargeOrNegativeDelta => exact .cons congruent next

theorem TellOf.take {chunks : List PacketStatusChunk}
    {statuses : List PacketStatus} (tell : TellOf chunks statuses) :
    (chunks.flatMap PacketStatusChunk.statuses).take statuses.length =
      statuses.map some := by
  obtain ⟨unused, same, _⟩ := tell
  rw [same]
  exact List.take_left' (List.length_map _)

namespace FeedbackPacket.Covers

variable {writer : FeedbackWriter} {first : Nat × Instant}
variable {packet : FeedbackPacket} {consumed : List (Nat × Instant)}
variable {statuses : List PacketStatus}

/-- After the chunks that it counts the reader finds the deltas. -/
theorem reads_deltas (covers : packet.Covers first.1 consumed statuses [])
    (short : statuses.length < 65536) {seqnum : Nat}
    (fits : seqnum - (packet.prevSeqnum + 1) ≤ packet.room) :
    ∃ chunks, TellOf chunks statuses ∧
      readStatusChunks
          (statusCount (writer.payload first (packet.skipTo seqnum))) 0
          ((writer.payload first (packet.skipTo seqnum)).drop 12) =
        some (chunks, packet.encodedReceiveDeltas) := by
  have count := @statusCount_eq writer first packet consumed statuses covers
    seqnum
  rw [Nat.mod_eq_of_lt short] at count
  rw [count, (writer.payload_parts first (packet.skipTo seqnum)).2.2.2]
  obtain ⟨chunks, _, tell, reads⟩ := covers.reads fits
  exact ⟨chunks, tell, reads _⟩

theorem payloadDeltas_eq (covers : packet.Covers first.1 consumed statuses [])
    (short : statuses.length < 65536) {seqnum : Nat}
    (fits : seqnum - (packet.prevSeqnum + 1) ≤ packet.room) :
    payloadDeltas (writer.payload first (packet.skipTo seqnum)) =
      receivedDeltas (statuses.map some) packet.encodedReceiveDeltas := by
  obtain ⟨chunks, tell, reads⟩ := @reads_deltas writer first packet consumed
    statuses covers short seqnum fits
  have count := @statusCount_eq writer first packet consumed statuses covers
    seqnum
  rw [Nat.mod_eq_of_lt short] at count
  unfold payloadDeltas
  rw [reads, count]
  dsimp only
  rw [tell.take]

/-- What is read of a payload: the numbers of the consumed arrivals, and the
times that the deltas give. -/
theorem readFeedback_eq_some {profile : BuildProfile} {seqnum : Nat}
    {maxSeqnum feedbackSeqnum largest : Nat}
    {read : List (Nat × RemoteInstant)}
    (covers : packet.Covers first.1 consumed statuses [])
    (short : statuses.length < 65536)
    (fits : seqnum - (packet.prevSeqnum + 1) ≤ packet.room)
    (isRead : readFeedback profile
      (writer.payload first (packet.skipTo seqnum)) maxSeqnum =
        .ok (some (feedbackSeqnum, read), largest)) :
    read = [] ∨
      List.Forall₂ (fun one another => another % 2 ^ 16 = one % 2 ^ 16)
          (consumed.map Prod.fst) (read.map Prod.fst) ∧
        read.map Prod.snd = (runningSums 0 (payloadDeltas
          (writer.payload first (packet.skipTo seqnum)))).map fun sum =>
            fromMicros (arrivalMicros
              (writer.referenceTimeTicks first.2 % 256 ^ 3) sum) := by
  have parts := writer.payload_parts first (packet.skipTo seqnum)
  rcases readFeedback_arrivals isRead with ⟨_, nothing⟩ |
    ⟨inWord, chunks, deltas, reads, arrivals⟩
  · exact .inl nothing
  · right
    have times := readFeedback_times isRead
    rw [or_iff_right (fun overflow => inWord overflow.1), parts.2.2.1]
      at times
    refine ⟨?_, times.2⟩
    obtain ⟨found, tell, readsAgain⟩ := @reads_deltas writer first packet
      consumed statuses covers short seqnum fits
    cases reads.symm.trans readsAgain
    have count := @statusCount_eq writer first packet consumed statuses covers
      seqnum
    rw [Nat.mod_eq_of_lt short] at count
    rw [count, tell.take, parts.1] at arrivals
    rw [readArrivals_numbers arrivals, ← covers.numbers]
    apply receivedNumbers_congruent
    rw [expandTruncatedCounter_fst_mod (by decide)]
    exact Nat.mod_mod _ _

end FeedbackPacket.Covers

/-! ## Recovered times -/

/-- The entry is for the arrival, and its time is less than a tick away from
the time since the epoch. -/
def CloseTo (epoch : Instant) (arrival : Nat × Instant)
    (entry : Nat × RemoteInstant) : Prop :=
  entry.1 % 2 ^ 16 = arrival.1 % 2 ^ 16 ∧
    |((entry.2 : Nat) : Int) - (((arrival.2 : Nat) : Int) - (epoch : Nat))| <
      nanosPerDeltaTick

/-- Whatever is read of the payload is close to the consumed arrivals. -/
def RecoversTimes (profile : BuildProfile) (epoch : Instant)
    (payload : Bytes) (consumed : List (Nat × Instant)) : Prop :=
  ∀ (maxSeqnum feedbackSeqnum largest : Nat)
    (read : List (Nat × RemoteInstant)),
    readFeedback profile payload maxSeqnum =
        .ok (some (feedbackSeqnum, read), largest) →
      List.Forall₂ (CloseTo epoch) (consumed.take read.length) read

/-- A sum that falls below the epoch wraps around, and then it is close to
nothing. -/
theorem arrivalMicros_close_iff {epoch time referenceTicks : Nat} {sum : Int}
    (short : referenceTicks < 2 ^ 24)
    (bounded : -2 ^ 31 ≤ sum ∧ sum < 2 ^ 31) (later : epoch ≤ time)
    (near : time < epoch + 2 ^ 24 * 64000 * 1000) :
    |((fromMicros (arrivalMicros referenceTicks sum) : Nat) : Int) -
        ((time : Int) - epoch)| < nanosPerDeltaTick ↔
      |(time : Int) - ((epoch + referenceTicks * 64000 * 1000 : Nat) : Int) -
        nanosPerDeltaTick * sum| < nanosPerDeltaTick := by
  have exact := @arrivalMicros_exact_iff referenceTicks sum short bounded
  have reference : ((microsPerReferenceTick : Nat) : Int) = 64000 := rfl
  have delta : ((microsPerDeltaTick : Nat) : Int) = 250 := rfl
  rw [reference, delta] at exact
  unfold nanosPerDeltaTick
  rw [abs_lt, abs_lt]
  push_cast
  by_cases notNegative : 0 ≤ 256 * (referenceTicks : Int) + sum
  · rw [exact.mpr notNegative]
    omega
  · have wrapped : (2 : Int) ^ 63 ≤
        ((fromMicros (arrivalMicros referenceTicks sum) : Nat) : Int) := by
      unfold fromMicros arrivalMicros
      rw [reference, delta]
      have low : -2 ^ 62 ≤ 64000 * (referenceTicks : Int) + 250 * sum := by
        omega
      have high : 64000 * (referenceTicks : Int) + 250 * sum < 0 := by
        omega
      generalize 64000 * (referenceTicks : Int) + 250 * sum = value at *
      have positive : (2 : Int) ^ 62 ≤ value % 2 ^ 64 := by
        rw [← Int.add_emod_right,
          Int.emod_eq_of_lt (by omega) (by omega)]
        omega
      omega
    omega

theorem forall₂_closeTo_iff {epoch reference : Instant}
    {consumed : List (Nat × Instant)} {read : List (Nat × RemoteInstant)}
    {sums : List Int} {time : Int → RemoteInstant}
    (numbers : List.Forall₂
      (fun one another => another % 2 ^ 16 = one % 2 ^ 16)
      (consumed.map Prod.fst) (read.map Prod.fst))
    (times : read.map Prod.snd = sums.map time)
    (close : ∀ arrival ∈ consumed, ∀ sum ∈ sums,
      (|((time sum : Nat) : Int) - (((arrival.2 : Nat) : Int) -
        (epoch : Nat))| < nanosPerDeltaTick ↔
          WithinTick reference arrival sum)) :
    List.Forall₂ (CloseTo epoch) consumed read ↔
      List.Forall₂ (WithinTick reference) consumed sums := by
  induction consumed generalizing read sums with
  | nil =>
      have nothing : read = [] := by
        cases read with
        | nil => rfl
        | cons entry rest => cases numbers
      rw [nothing] at times ⊢
      have noSums : sums = [] := List.map_eq_nil_iff.mp times.symm
      rw [noSums]
      exact ⟨fun _ => .nil, fun _ => .nil⟩
  | cons arrival rest ih =>
      cases read with
      | nil => cases numbers
      | cons entry others =>
          cases sums with
          | nil => cases times
          | cons sum later =>
              rw [List.map_cons, List.map_cons, List.forall₂_cons] at numbers
              rw [List.map_cons, List.map_cons, List.cons.injEq] at times
              rw [List.forall₂_cons, List.forall₂_cons,
                ih numbers.2 times.2 (fun one isOne other isOther =>
                  close one (List.mem_cons_of_mem arrival isOne) other
                    (List.mem_cons_of_mem sum isOther)),
                ← close arrival List.mem_cons_self sum List.mem_cons_self,
                ← times.1]
              unfold CloseTo
              rw [and_iff_right numbers.1]

namespace FeedbackWriter

/-- The rounding errors of the arrivals that fit into the payload sum up to
less than a tick. -/
def RoundsBack (writer : FeedbackWriter) (first : Nat × Instant) : Prop :=
  ∀ front, front <+: writer.arrivals → (writer.start first).Fits front →
    (∀ arrival ∈ front, arrival.1 ≤ first.1 + 65535) →
      |roundingError (writer.start first).prevArrival front| <
        nanosPerDeltaTick

variable {profile : BuildProfile} {before after : FeedbackWriter}
variable {writer : FeedbackWriter} {payload : Bytes} {first : Nat × Instant}
variable {consumed : List (Nat × Instant)}

/-- The times of the arrivals fit into a payload. -/
def InRange (writer : FeedbackWriter) (arrivals : List (Nat × Instant)) :
    Prop :=
  ∀ arrival ∈ arrivals, writer.epoch ≤ arrival.2 ∧
    arrival.2 < writer.epoch +
      durationFromTicks (2 ^ 24) microsPerReferenceTick

theorem reference_bounds {writer : FeedbackWriter} {time : Instant}
    (later : writer.epoch ≤ time)
    (near : time < writer.epoch +
      durationFromTicks (2 ^ 24) microsPerReferenceTick) :
    writer.referenceTimeTicks time < 2 ^ 24 := by
  obtain ⟨elapsed, rfl⟩ := Nat.exists_eq_add_of_le later
  have bound : elapsed < 2 ^ 24 * 64000 * 1000 :=
    Nat.lt_of_add_lt_add_left near
  unfold referenceTimeTicks ticksFromDuration asMicros
  rw [Nat.add_sub_cancel_left]
  change elapsed / 1000 % 2 ^ 64 / 64000 < 2 ^ 24
  omega

private theorem within_word {epoch time other : Nat}
    (near : time < epoch + 2 ^ 24 * 64000 * 1000) (later : epoch ≤ other) :
    time < other + 2 ^ 64 * 1000 := by
  omega

private theorem reference_within_word {epoch ticks time : Nat}
    (short : ticks < 2 ^ 24) (later : epoch ≤ time) :
    epoch + ticks * 64000 * 1000 < time + 2 ^ 64 * 1000 := by
  omega

/-- The sums of what is read as deltas decide about the recovered times. -/
theorem recoversTimes_iff_sums {packet : FeedbackPacket}
    {statuses : List PacketStatus}
    (covers : packet.Covers first.1 consumed statuses [])
    (short : statuses.length < 65536) (inWord : first.1 + 65535 < 2 ^ 64)
    (inRange : writer.InRange consumed) (isFirst : first ∈ consumed)
    {seqnum : Nat}
    (fits : seqnum - (packet.prevSeqnum + 1) ≤ packet.room) :
    RecoversTimes profile writer.epoch
        (writer.payload first (packet.skipTo seqnum)) consumed ↔
      List.Forall₂ (WithinTick (writer.start first).prevArrival) consumed
        (runningSums 0 (payloadDeltas
          (writer.payload first (packet.skipTo seqnum)))) := by
  obtain ⟨firstLater, firstNear⟩ := inRange first isFirst
  have ticks := reference_bounds firstLater firstNear
  have close : ∀ arrival ∈ consumed, ∀ sum ∈ runningSums 0 (payloadDeltas
      (writer.payload first (packet.skipTo seqnum))),
      (|((fromMicros (arrivalMicros (writer.referenceTimeTicks first.2 %
          256 ^ 3) sum) : Nat) : Int) - (((arrival.2 : Nat) : Int) -
            (writer.epoch : Nat))| < nanosPerDeltaTick ↔
        WithinTick (writer.start first).prevArrival arrival sum) := by
    intro arrival member sum isSum
    obtain ⟨later, near⟩ := inRange arrival member
    have same : writer.referenceTimeTicks first.2 % 256 ^ 3 =
        writer.referenceTimeTicks first.2 := Nat.mod_eq_of_lt ticks
    rw [same]
    exact arrivalMicros_close_iff ticks (payloadSums_bounds _ sum isSum) later
      near
  constructor
  · intro recovers
    obtain ⟨feedbackSeqnum, read, largest, isRead, numbers⟩ :=
      @FeedbackPacket.Covers.readsBack profile writer first
        (packet.skipTo seqnum) consumed statuses _ first.1
        (covers.skipTo seqnum) short inWord (by omega) (by omega)
    have lengths := congrArg List.length numbers
    rw [List.length_map, List.length_map] at lengths
    have closeTo := recovers first.1 feedbackSeqnum largest read isRead
    rw [lengths, List.take_length] at closeTo
    rcases covers.readFeedback_eq_some short fits isRead with rfl |
      ⟨congruent, times⟩
    · rw [List.length_eq_zero_iff.mp lengths.symm] at isFirst
      cases isFirst
    · exact (forall₂_closeTo_iff congruent times close).mp closeTo
  · intro sums maxSeqnum feedbackSeqnum largest read isRead
    rcases covers.readFeedback_eq_some short fits isRead with rfl |
      ⟨congruent, times⟩
    · exact .nil
    · have lengths := congruent.length_eq
      rw [List.length_map, List.length_map] at lengths
      rw [← lengths, List.take_length]
      exact (forall₂_closeTo_iff congruent times close).mpr sums

/-- What does not reach a payload has no rounding errors in it. -/
theorem roundsBack_iff {front rest : List (Nat × Instant)}
    (isNext : before.arrivals = first :: rest)
    {limit : Nat} (limits : limit = first.1 + 65535)
    (split : rest = front ++ after.arrivals)
    (inside : ∀ arrival ∈ first :: front, arrival.1 ≤ limit)
    (fits : (before.start first).Fits (first :: front))
    (ended : ((before.start first).fill limit (first :: rest)).2 =
      after.arrivals) :
    before.RoundsBack first ↔
      ∀ part, part <+: first :: front → part ≠ [] →
        |roundingError (before.start first).prevArrival part| <
          nanosPerDeltaTick := by
  unfold RoundsBack
  rw [← limits]
  have whole : before.arrivals = (first :: front) ++ after.arrivals := by
    rw [isNext, split, List.cons_append]
  constructor
  · intro rounds part isPart _
    obtain ⟨others, isSplit⟩ := isPart
    apply rounds part
    · rw [whole, ← isSplit, List.append_assoc]
      exact List.prefix_append part _
    · rw [← isSplit] at fits
      exact fits.front
    · intro arrival member
      apply inside arrival
      rw [← isSplit]
      exact List.mem_append_left others member
  · intro rounds part isPart partFits partInside
    cases part with
    | nil => exact (by decide : (0 : Int) < 250000)
    | cons head others =>
        apply rounds _ _ (List.cons_ne_nil _ _)
        obtain ⟨back, isSplit⟩ := isPart
        have isSuffix := partFits.fill_suffix partInside back
        rw [isSplit, isNext, ended] at isSuffix
        obtain ⟨middle, isBack⟩ := isSuffix
        rw [← isBack, ← List.append_assoc, whole] at isSplit
        exact ⟨middle, List.append_cancel_right isSplit⟩

/-- Nothing is read of a payload whose count has wrapped to zero. -/
theorem recoversTimes_of_empty {epoch : Instant}
    (empty : statusCount payload = 0) :
    RecoversTimes profile epoch payload consumed := by
  intro maxSeqnum feedbackSeqnum largest read isRead
  have nothing : read = [] := by
    rcases readFeedback_arrivals isRead with ⟨_, nothing⟩ |
      ⟨_, chunks, deltas, _, arrivals⟩
    · exact nothing
    · rw [empty, List.take_zero] at arrivals
      cases arrivals
      rfl
  rw [nothing]
  exact .nil

/-- Nothing is read of a payload without arrivals. -/
theorem recoversTimes_start {epoch : Instant} :
    RecoversTimes profile epoch
      (writer.payload first (writer.start first)) consumed := by
  have parts := writer.payload_parts first (writer.start first)
  have count : statusCount (writer.payload first (writer.start first)) =
      1 := by
    rw [parts.2.1]
    change (first.1 - first.1 + 1) % 65536 = 1
    rw [Nat.sub_self]
  intro maxSeqnum feedbackSeqnum largest read isRead
  rcases readFeedback_arrivals isRead with ⟨_, rfl⟩ |
    ⟨_, chunks, deltas, reads, _⟩
  · exact .nil
  · rw [count, parts.2.2.2] at reads
    cases reads

/-- Without a cut gap, the deltas are those of the arrivals. -/
theorem forall₂_withinTick_iff_roundsBack {front rest : List (Nat × Instant)}
    (isNext : before.arrivals = first :: rest)
    {limit : Nat} (limits : limit = first.1 + 65535)
    (split : rest = front ++ after.arrivals)
    (inside : ∀ arrival ∈ first :: front, arrival.1 ≤ limit)
    (inRange : before.InRange (first :: front))
    (fits : (before.start first).Fits (first :: front))
    (ended : ((before.start first).fill limit (first :: rest)).2 =
      after.arrivals) :
    List.Forall₂ (WithinTick (before.start first).prevArrival)
        (first :: front) (runningSums 0
          (deltaTicks (before.start first).prevArrival (first :: front))) ↔
      before.RoundsBack first := by
  have near : ∀ arrival ∈ first :: front, ∀ other ∈ first :: front,
      arrival.2 < other.2 + 2 ^ 64 * 1000 := by
    intro arrival isArrival other isOther
    exact within_word (inRange arrival isArrival).2 (inRange other isOther).1
  obtain ⟨firstLater, firstNear⟩ := inRange first List.mem_cons_self
  have reference := reference_bounds firstLater firstNear
  have nearBefore : ∀ arrival ∈ first :: front,
      arrival.2 < (before.start first).prevArrival + 2 ^ 64 * 1000 ∧
        (before.start first).prevArrival < arrival.2 + 2 ^ 64 * 1000 := by
    intro arrival isArrival
    obtain ⟨later, close⟩ := inRange arrival isArrival
    exact ⟨within_word close (Nat.le_add_right _ _),
      reference_within_word reference later⟩
  rw [forall₂_withinTick_iff near nearBefore,
    roundsBack_iff isNext limits split inside fits ended]
  simp only [sub_self, mul_zero, zero_add]

/-- A payload without a cut gap is read back to within a tick exactly if
nothing of it can be read or the rounding errors stay below a tick. -/
theorem InOrder.recoversTimes_iff (inOrder : before.InOrder)
    (yields : before.Yields profile payload after)
    (isFirst : before.arrivals.head? = some first)
    (split : before.arrivals = consumed ++ after.arrivals)
    (uncut : first.1 + 65535 < 2 ^ 64 → ¬ before.FillsRange first →
      ¬ before.CutsGap first) :
    RecoversTimes profile before.epoch payload consumed ↔
      (first.1 + 65535 < 2 ^ 64 → ¬ before.FillsRange first →
        before.RoundsBack first) := by
  obtain ⟨head, rest, limit, isNext, added, isPayload, isAfter⟩ :=
    yields_iff.mp yields
  rw [isNext, List.head?_cons, Option.some_inj] at isFirst
  subst isFirst
  have numbered : before.Numbered := ⟨inOrder.small, inOrder.sorted⟩
  have member : head ∈ before.arrivals := by
    rw [isNext]
    exact List.mem_cons_self
  by_cases inWord : head.1 + 65535 < 2 ^ 64
  · have fits := fits_first (inOrder.inRange head member).1
    obtain ⟨bound, limits⟩ : ∃ bound, bound = head.1 + 65535 := ⟨_, rfl⟩
    obtain ⟨front, last, seqnum, isSplit, sorted, inside, taken, written,
      filled, gap⟩ := numbered.consumes_written yields isNext fits inWord limits
    obtain ⟨statuses, covers, spelled⟩ := takeAll_deltas sorted taken
    obtain ⟨few, long⟩ := length_statuses covers inside limits
    have whole : before.arrivals = (head :: front) ++ after.arrivals := by
      rw [isNext, isSplit, List.cons_append]
    have same : consumed = head :: front :=
      List.append_cancel_right (split.symm.trans whole)
    subst same
    have range : before.FillsRange head ↔ statuses.length = 65536 := by
      rw [fillsRange_iff numbered.sorted yields inWord (by rw [isNext]; rfl)
        split, ← limits, long]
    have inRange : before.InRange (head :: front) := by
      intro arrival isIn
      apply inOrder.inRange arrival
      rw [whole]
      exact List.mem_append_left after.arrivals isIn
    rw [range] at uncut
    rw [range, written]
    by_cases short : statuses.length < 65536
    · have notLong : ¬ statuses.length = 65536 := by omega
      have inRoom : seqnum - (last.prevSeqnum + 1) ≤ last.room :=
        Nat.le_of_not_lt (mt gap.mpr (uncut inWord notLong))
      rw [recoversTimes_iff_sums covers short inWord inRange
        List.mem_cons_self inRoom, covers.payloadDeltas_eq short inRoom,
        spelled,
        forall₂_withinTick_iff_roundsBack isNext limits isSplit inside
          inRange (FeedbackPacket.fits_iff_takeAll.mpr ⟨last, taken⟩)
          (by rw [filled])]
      simp only [inWord, notLong, not_false_eq_true, true_imp_iff]
    · have wraps : statuses.length = 65536 := by omega
      constructor
      · intro _ _ notLong
        exact absurd wraps notLong
      · intro _
        apply recoversTimes_of_empty
        rw [covers.statusCount_eq, wraps]
  · have small := numbered.small head member
    have wrapped := BuildProfile.addU64_lt inWord (by decide) small added
    rw [FeedbackPacket.fill, if_pos wrapped] at isPayload
    rw [isPayload]
    constructor
    · intro _ another
      exact absurd another inWord
    · exact fun _ => recoversTimes_start

/-- The times that are read of a payload are less than a tick away from the
true ones if nothing of it can be read, or if no gap is cut and the rounding
errors of its deltas do not sum up to a tick; where no gap is cut, only then. -/
theorem recovered_times_close_iff (profile : BuildProfile) {ssrc : UInt32}
    {nextFeedbackSeqnum : UInt8} {epoch : Instant}
    {arrivals : List (Nat × Instant)}
    (small : ∀ arrival ∈ arrivals, arrival.1 < 2 ^ 64)
    (sorted : arrivals.Pairwise fun left right => left.1 < right.1)
    (inRange : ∀ arrival ∈ arrivals, epoch ≤ arrival.2 ∧
      arrival.2 < epoch + durationFromTicks (2 ^ 24) microsPerReferenceTick)
    {payloads : List Bytes}
    (run : Run (Yields profile)
      (writeFeedback ssrc nextFeedbackSeqnum epoch arrivals) payloads before)
    (yields : before.Yields profile payload after)
    (isFirst : before.arrivals.head? = some first)
    (split : before.arrivals = consumed ++ after.arrivals) :
    ((first.1 + 65535 < 2 ^ 64 → ¬ before.FillsRange first →
        ¬ before.CutsGap first ∧ before.RoundsBack first) →
      RecoversTimes profile epoch payload consumed) ∧
    (¬ before.CutsGap first →
      (RecoversTimes profile epoch payload consumed ↔
        (first.1 + 65535 < 2 ^ 64 → ¬ before.FillsRange first →
          before.RoundsBack first))) := by
  have reached : before.InOrder ∧ before.epoch = epoch := by
    apply run.invariant
    · exact ⟨⟨small, sorted, inRange⟩, rfl⟩
    · rintro earlier sent later ⟨inOrder, same⟩ yielded
      exact ⟨inOrder.yields yielded, (arrivals_suffix yielded).2.trans same⟩
  obtain ⟨inOrder, sameEpoch⟩ := reached
  rw [← sameEpoch]
  constructor
  · intro rounds
    apply (inOrder.recoversTimes_iff yields isFirst split ?_).mpr
    · exact fun inWord notFilled => (rounds inWord notFilled).2
    · exact fun inWord notFilled => (rounds inWord notFilled).1
  · intro uncut
    exact inOrder.recoversTimes_iff yields isFirst split fun _ _ => uncut

/-- The deltas of 300, 600 and -500 microseconds lose 150 microseconds. -/
theorem recovered_times_close_spread :
    RecoversTimes .debug 0 spreadPayload
      [(1, 0), (2, 300000), (9, 900000), (10, 400000)] := by
  have yields : spreadWriter.Yields .debug spreadPayload
      { spreadWriter with nextFeedbackSeqnum := 2, arrivals := [] } := rfl
  apply (recovered_times_close_iff .debug (by decide) (by decide)
    (by decide) .nil yields rfl rfl).1
  intro _ _
  refine ⟨uncut_spreadWriter, ?_⟩
  intro front isFront _ _
  have small : ∀ front ∈ spreadWriter.arrivals.inits,
      |roundingError 0 front| < nanosPerDeltaTick := by
    decide
  exact small front ((List.mem_inits _ _).mpr isFront)

/-! ## Concrete arrivals -/

/-- Three packets, 200 microseconds apart. -/
def slowWriter : FeedbackWriter :=
  writeFeedback 16 1 0 [(1, 0), (2, 200000), (3, 400000)]

def slowPayload : Bytes :=
  [0, 0, 0, 16, 0, 1, 0, 3, 0, 0, 0, 1, 32, 3, 0, 0, 0]

theorem yields_slowWriter : slowWriter.Yields .debug slowPayload
    { slowWriter with nextFeedbackSeqnum := 2, arrivals := [] } := by
  rfl

theorem slow_arrivals_are_not_recovered :
    readFeedback .debug slowPayload 1 =
        .ok (some (1, [(1, 0), (2, 0), (3, 0)]), 1) ∧
      ¬ ∀ (profile : BuildProfile) (ssrc : UInt32)
        (nextFeedbackSeqnum : UInt8) (epoch : Instant)
        (arrivals : List (Nat × Instant)),
        (∀ arrival ∈ arrivals, arrival.1 < 2 ^ 64) →
        arrivals.Pairwise (fun left right => left.1 < right.1) →
        (∀ arrival ∈ arrivals, epoch ≤ arrival.2 ∧
          arrival.2 < epoch +
            durationFromTicks (2 ^ 24) microsPerReferenceTick) →
        ∀ (payloads : List Bytes) (before after : FeedbackWriter)
          (payload : Bytes) (consumed : List (Nat × Instant)),
          Run (Yields profile)
            (writeFeedback ssrc nextFeedbackSeqnum epoch arrivals) payloads
            before →
          before.Yields profile payload after →
          before.arrivals = consumed ++ after.arrivals →
            RecoversTimes profile epoch payload consumed := by
  have isRead : readFeedback .debug slowPayload 1 =
      .ok (some (1, [(1, 0), (2, 0), (3, 0)]), 1) := by
    decide +kernel
  refine ⟨isRead, ?_⟩
  intro always
  have recovers := always .debug 16 1 0
    [(1, 0), (2, 200000), (3, 400000)] (by decide) (by decide) (by decide) []
    slowWriter _ slowPayload [(1, 0), (2, 200000), (3, 400000)] .nil
    yields_slowWriter rfl 1 1 1 _ isRead
  change List.Forall₂ (CloseTo 0) [(1, 0), (2, 200000), (3, 400000)]
    [(1, 0), (2, 0), (3, 0)] at recovers
  rw [List.forall₂_cons, List.forall₂_cons, List.forall₂_cons] at recovers
  exact absurd recovers.2.2.1.2 (by decide)

end FeedbackWriter

end CallingService.Backend.Tcc
