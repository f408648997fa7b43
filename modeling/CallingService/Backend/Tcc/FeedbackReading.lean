import CallingService.Backend.Tcc.Feedback

/-!
# Feedback of a peer

The bytes of a feedback payload are the choice of the peer.  The largest
number is updated before the rest of the payload is read, and the arrival
times are sums that may fall below the epoch.
-/

namespace CallingService.Backend.Tcc

open Foundation

/-- The sequence number that the payload counts from. -/
def baseSeqnum (payload : Bytes) : Nat :=
  fromBigEndian ((payload.drop 4).take 2)

theorem fromBigEndian_take_lt (bytes : Bytes) (width : Nat) :
    fromBigEndian (bytes.take width) < 256 ^ width :=
  lt_of_lt_of_le (fromBigEndian_lt _)
    (Nat.pow_le_pow_right (by omega) (List.length_take_le width bytes))

theorem baseSeqnum_lt (payload : Bytes) : baseSeqnum payload < 2 ^ 16 :=
  fromBigEndian_take_lt (payload.drop 4) 2

variable {profile : BuildProfile} {payload : Bytes}

/-- The largest number changes if and only if there is a base number; what
comes after it decides about the arrivals only. -/
theorem readFeedback_cases {maxSeqnum largest : Nat}
    {arrivals : Option (Nat × List (Nat × RemoteInstant))}
    (isRead : readFeedback profile payload maxSeqnum =
      .ok (arrivals, largest)) :
    (payload.length < 6 ∧ arrivals = none ∧ largest = maxSeqnum) ∨
      6 ≤ payload.length ∧
        largest = (expandTruncatedCounter (baseSeqnum payload) maxSeqnum
          16).2 ∧
        ((readStatuses (payload.drop 6) = none ∧ arrivals = none) ∨
          ∃ read, readStatuses (payload.drop 6) = some read ∧
            readAllArrivals profile (expandTruncatedCounter
              (baseSeqnum payload) maxSeqnum 16).1 read = .ok arrivals) := by
  unfold readFeedback at isRead
  by_cases noSsrc : payload.length < 4
  · rw [readBigEndian, if_pos noSsrc] at isRead
    cases isRead
    exact .inl ⟨by omega, rfl, rfl⟩
  · rw [readBigEndian, if_neg noSsrc] at isRead
    dsimp only at isRead
    by_cases noBase : payload.length < 6
    · rw [readBigEndian, if_pos (by rw [List.length_drop]; omega)] at isRead
      cases isRead
      exact .inl ⟨noBase, rfl, rfl⟩
    · rw [readBigEndian, if_neg (by rw [List.length_drop]; omega),
        List.drop_drop] at isRead
      right
      refine ⟨by omega, ?_⟩
      dsimp only at isRead
      cases statuses : readStatuses (payload.drop (4 + 2)) with
      | none =>
          rw [statuses] at isRead
          cases isRead
          exact ⟨rfl, .inl ⟨rfl, rfl⟩⟩
      | some read =>
          rw [statuses] at isRead
          obtain ⟨found, all, returned⟩ := bind_eq_ok_iff.mp isRead
          cases returned
          exact ⟨rfl, .inr ⟨read, rfl, all⟩⟩

/-! ## Payloads that cannot be read -/

/-- The number is at most half a cycle behind the maximum, or so far ahead of
it that it belongs to the cycle before. -/
def NotAhead (truncated max : Nat) : Prop :=
  (truncated ≤ max % 65536 ∧
      (max % 65536 ≤ truncated + 32768 ∨ max / 65536 + 1 = 2 ^ 48)) ∨
    (max % 65536 + 32768 < truncated ∧ 65536 ≤ max)

instance (truncated max : Nat) : Decidable (NotAhead truncated max) :=
  inferInstanceAs (Decidable (_ ∨ _))

theorem expandTruncatedCounter_snd_eq_iff {truncated max : Nat}
    (short : truncated < 2 ^ 16) (inWord : max < 2 ^ 64) :
    (expandTruncatedCounter truncated max 16).2 = max ↔
      NotAhead truncated max := by
  unfold expandTruncatedCounter expandedRoc NotAhead
  dsimp only
  rw [Nat.mod_eq_of_lt short]
  split
  · split
    · omega
    · omega
  · split
    · split
      · omega
      · omega
    · split
      · omega
      · omega

namespace Sender

/-- A payload that cannot be read and leaves the largest number as it is has
no effect at all. -/
theorem processFeedback_of_unread {sender : Sender}
    (unread : readFeedback profile payload sender.maxReceivedSeqnum =
      .ok (none, sender.maxReceivedSeqnum)) (feedbackArrival : Instant)
    (rest : List Bytes) :
    sender.processFeedbackAndCorrelateAcks profile feedbackArrival
        (payload :: rest) =
      sender.processFeedbackAndCorrelateAcks profile feedbackArrival rest := by
  rw [processFeedbackAndCorrelateAcks, unread]
  simp only [ok_bind, List.nil_append]
  cases sender.processFeedbackAndCorrelateAcks profile feedbackArrival rest with
  | error failure => rfl
  | ok others => rfl

end Sender

/-- Whatever comes after the payload is processed as if it were not there. -/
def Unnoticed (profile : BuildProfile) (payload : Bytes) (maxSeqnum : Nat) :
    Prop :=
  ∀ (sender : Sender) (feedbackArrival : Instant) (rest : List Bytes),
    sender.maxReceivedSeqnum = maxSeqnum →
      sender.processFeedbackAndCorrelateAcks profile feedbackArrival
          (payload :: rest) =
        sender.processFeedbackAndCorrelateAcks profile feedbackArrival rest

/-- A payload that cannot be read leaves the largest number as it is if it
ends before its base number or the base number is not ahead, and only then. -/
theorem unread_feedback_unnoticed_iff {profile : BuildProfile}
    {payload : Bytes} {maxSeqnum largest : Nat} (inWord : maxSeqnum < 2 ^ 64)
    (unread : readFeedback profile payload maxSeqnum = .ok (none, largest)) :
    largest = maxSeqnum ∧ Unnoticed profile payload maxSeqnum ↔
      payload.length < 6 ∨ NotAhead (baseSeqnum payload) maxSeqnum := by
  have moved : largest = maxSeqnum ↔
      payload.length < 6 ∨ NotAhead (baseSeqnum payload) maxSeqnum := by
    rcases readFeedback_cases unread with ⟨short, _, same⟩ |
      ⟨long, expanded, _⟩
    · constructor
      · exact fun _ => .inl short
      · exact fun _ => same
    · rw [expanded, expandTruncatedCounter_snd_eq_iff (baseSeqnum_lt payload)
        inWord]
      constructor
      · exact .inr
      · rintro (short | notAhead)
        · omega
        · exact notAhead
  rw [← moved]
  constructor
  · exact And.left
  · intro same
    refine ⟨same, ?_⟩
    rintro sender feedbackArrival rest rfl
    rw [same] at unread
    exact Sender.processFeedback_of_unread unread feedbackArrival rest

theorem unread_feedback_unnoticed_iff_old :
    Unnoticed .debug [0, 0, 0, 16, 0, 2, 0] 3 :=
  ((unread_feedback_unnoticed_iff (by decide) rfl).mpr
    (.inr (by decide))).2

/-- Nothing follows the base number 65535. -/
def cutPayload : Bytes := [0, 0, 0, 16, 255, 255]

/-- Packet 2 has arrived. -/
def wholePayload : Bytes := [0, 0, 0, 16, 0, 2, 0, 1, 0, 0, 0, 1, 32, 1, 4]

/-- Packet 2 has been sent, and packet 1 has been acknowledged. -/
def waitingSender : Sender :=
  { (Sender.new 0).rememberSent 2 1200 0 with maxReceivedSeqnum := 1 }

theorem cut_feedback_loses_acks :
    (¬ ∀ (profile : BuildProfile) (payload : Bytes)
        (maxSeqnum largest : Nat), maxSeqnum < 2 ^ 64 →
        readFeedback profile payload maxSeqnum = .ok (none, largest) →
          largest = maxSeqnum) ∧
      (waitingSender.processFeedbackAndCorrelateAcks .debug 9
          [wholePayload]).map Prod.snd = .ok [⟨1200, 0, 1000000, 9⟩] ∧
      (waitingSender.processFeedbackAndCorrelateAcks .debug 9
          [cutPayload, wholePayload]).map Prod.snd = .ok [] := by
  refine ⟨?_, by decide, by decide⟩
  intro always
  have same := always .debug cutPayload 1 65535 (by decide)
    (by decide +kernel)
  exact absurd same (by decide)

/-! ## Arrival times -/

def statusCount (payload : Bytes) : Nat :=
  fromBigEndian ((payload.drop 6).take 2)

def referenceTimeTicks (payload : Bytes) : Nat :=
  fromBigEndian ((payload.drop 8).take 3)

/-- The deltas of the received packets, as far as they can be read. -/
def receivedDeltas : List (Option PacketStatus) → Bytes → List Int
  | [], _ => []
  | none :: _, _ => []
  | some status :: rest, payload =>
      match readDelta status payload with
      | none => []
      | some (none, after) => receivedDeltas rest after
      | some (some deltaTicks, after) =>
          deltaTicks :: receivedDeltas rest after

def payloadDeltas (payload : Bytes) : List Int :=
  match readStatusChunks (statusCount payload) 0 (payload.drop 12) with
  | none => []
  | some (statusChunks, deltas) =>
      receivedDeltas ((statusChunks.flatMap PacketStatusChunk.statuses).take
        (statusCount payload)) deltas

def runningSums : Int → List Int → List Int
  | _, [] => []
  | sum, delta :: rest => (sum + delta) :: runningSums (sum + delta) rest

/-- What the deltas of the payload say about the arrival times, in
nanoseconds after the epoch of the peer. -/
def arrivalTimes (payload : Bytes) : List Int :=
  (runningSums 0 (payloadDeltas payload)).map fun sum =>
    1000 * (microsPerReferenceTick * referenceTimeTicks payload +
      microsPerDeltaTick * sum)

theorem readBigEndian_eq_some {width value : Nat} {payload rest : Bytes}
    (isRead : readBigEndian width payload = some (value, rest)) :
    value = fromBigEndian (payload.take width) ∧
      rest = payload.drop width := by
  unfold readBigEndian at isRead
  split at isRead
  · cases isRead
  · cases isRead
    exact ⟨rfl, rfl⟩

theorem readStatuses_eq_some {read : FeedbackStatuses}
    (isRead : readStatuses (payload.drop 6) = some read) :
    read.statusCount = statusCount payload ∧
      read.referenceTimeTicks = referenceTimeTicks payload ∧
      readStatusChunks (statusCount payload) 0 (payload.drop 12) =
        some (read.statusChunks, read.deltas) := by
  unfold readStatuses at isRead
  obtain ⟨⟨count, afterCount⟩, isCount, isRead⟩ :=
    Option.bind_eq_some_iff.mp isRead
  obtain ⟨⟨ticks, afterTicks⟩, isTicks, isRead⟩ :=
    Option.bind_eq_some_iff.mp isRead
  obtain ⟨⟨number, afterNumber⟩, isNumber, isRead⟩ :=
    Option.bind_eq_some_iff.mp isRead
  obtain ⟨⟨chunks, deltas⟩, areChunks, returned⟩ :=
    Option.bind_eq_some_iff.mp isRead
  cases returned
  obtain ⟨rfl, rfl⟩ := readBigEndian_eq_some isCount
  obtain ⟨rfl, rfl⟩ := readBigEndian_eq_some isTicks
  obtain ⟨rfl, rfl⟩ := readBigEndian_eq_some isNumber
  rw [List.drop_drop, List.drop_drop, List.drop_drop] at areChunks
  refine ⟨rfl, ?_, areChunks⟩
  dsimp only
  rw [List.drop_drop]
  rfl

theorem readArrivals_times {referenceTicks seqnum : Nat} {sum : Int}
    {statuses : List (Option PacketStatus)}
    {arrivals : List (Nat × RemoteInstant)}
    (isRead : readArrivals referenceTicks seqnum sum statuses payload =
      some arrivals) :
    arrivals.map Prod.snd =
      (runningSums sum (receivedDeltas statuses payload)).map fun total =>
        fromMicros (arrivalMicros referenceTicks total) := by
  induction statuses generalizing seqnum sum payload arrivals with
  | nil =>
      cases isRead
      rfl
  | cons status rest ih =>
      unfold readArrivals at isRead
      obtain ⟨known, isStatus, isRead⟩ := Option.bind_eq_some_iff.mp isRead
      obtain ⟨read, isDelta, isRead⟩ := Option.bind_eq_some_iff.mp isRead
      obtain ⟨delta, after⟩ := read
      rw [isStatus]
      unfold receivedDeltas
      rw [isDelta]
      cases delta with
      | none => exact ih isRead
      | some deltaTicks =>
          obtain ⟨later, isLater, returned⟩ :=
            Option.bind_eq_some_iff.mp isRead
          cases returned
          dsimp only
          rw [List.map_cons, ih isLater]
          rfl

theorem readDelta_bounds {status : PacketStatus} {payload after : Bytes}
    {deltaTicks : Int}
    (isRead : readDelta status payload = some (some deltaTicks, after)) :
    -32768 ≤ deltaTicks ∧ deltaTicks ≤ 32767 := by
  cases status with
  | notReceived => cases isRead
  | receivedSmallDelta =>
      obtain ⟨⟨value, rest⟩, isValue, returned⟩ :=
        Option.map_eq_some_iff.mp isRead
      cases returned
      obtain ⟨rfl, rfl⟩ := readBigEndian_eq_some isValue
      have bound := fromBigEndian_take_lt payload 1
      omega
  | receivedLargeOrNegativeDelta =>
      obtain ⟨⟨value, rest⟩, isValue, returned⟩ :=
        Option.map_eq_some_iff.mp isRead
      cases returned
      obtain ⟨rfl, rfl⟩ := readBigEndian_eq_some isValue
      have bound := fromBigEndian_take_lt payload 2
      unfold toI16
      split
      · omega
      · omega

theorem receivedDeltas_bounds (statuses : List (Option PacketStatus))
    (payload : Bytes) :
    (receivedDeltas statuses payload).length ≤ statuses.length ∧
      ∀ deltaTicks ∈ receivedDeltas statuses payload,
        -32768 ≤ deltaTicks ∧ deltaTicks ≤ 32767 := by
  induction statuses generalizing payload with
  | nil => simp [receivedDeltas]
  | cons status rest ih =>
      cases status with
      | none => simp [receivedDeltas]
      | some status =>
          unfold receivedDeltas
          cases isRead : readDelta status payload with
          | none => simp
          | some read =>
              obtain ⟨delta, after⟩ := read
              obtain ⟨short, bounded⟩ := ih after
              cases delta with
              | none =>
                  exact ⟨short.trans (Nat.le_succ _), bounded⟩
              | some deltaTicks =>
                  refine ⟨Nat.succ_le_succ short, ?_⟩
                  intro other member
                  rcases List.mem_cons.mp member with rfl | later
                  · exact readDelta_bounds isRead
                  · exact bounded other later

theorem runningSums_bounds {sum : Int} {deltas : List Int}
    (bounded : ∀ delta ∈ deltas, -32768 ≤ delta ∧ delta ≤ 32767) :
    ∀ total ∈ runningSums sum deltas,
      sum - 32768 * deltas.length ≤ total ∧
        total ≤ sum + 32767 * deltas.length := by
  induction deltas generalizing sum with
  | nil =>
      intro total member
      cases member
  | cons delta rest ih =>
      intro total member
      have first := bounded delta List.mem_cons_self
      rw [List.length_cons]
      push_cast
      rcases List.mem_cons.mp member with rfl | later
      · omega
      · have bound := ih (fun other isIn =>
          bounded other (List.mem_cons_of_mem delta isIn)) total later
        omega

/-- The running sums fit into 32 bits. -/
theorem payloadSums_bounds (payload : Bytes) :
    ∀ sum ∈ runningSums 0 (payloadDeltas payload),
      -2 ^ 31 ≤ sum ∧ sum < 2 ^ 31 := by
  have few : statusCount payload < 2 ^ 16 :=
    fromBigEndian_take_lt (payload.drop 6) 2
  have bounds : (payloadDeltas payload).length ≤ statusCount payload ∧
      ∀ delta ∈ payloadDeltas payload, -32768 ≤ delta ∧ delta ≤ 32767 := by
    unfold payloadDeltas
    split
    · simp
    · obtain ⟨short, bounded⟩ := receivedDeltas_bounds _ _
      exact ⟨short.trans (List.length_take_le _ _), bounded⟩
  intro sum member
  have bound := runningSums_bounds bounds.2 sum member
  omega

/-- The time is right unless it is before the epoch. -/
theorem arrivalMicros_exact_iff {referenceTicks : Nat} {sum : Int}
    (short : referenceTicks < 2 ^ 24) (bounded : -2 ^ 31 ≤ sum ∧ sum < 2 ^ 31) :
    ((fromMicros (arrivalMicros referenceTicks sum) : Nat) : Int) =
        1000 * (microsPerReferenceTick * referenceTicks +
          microsPerDeltaTick * sum) ↔
      0 ≤ 256 * (referenceTicks : Int) + sum := by
  have reference : ((microsPerReferenceTick : Nat) : Int) = 64000 := rfl
  have delta : ((microsPerDeltaTick : Nat) : Int) = 250 := rfl
  unfold fromMicros arrivalMicros
  rw [reference, delta]
  have sign : 0 ≤ 256 * (referenceTicks : Int) + sum ↔
      0 ≤ 64000 * (referenceTicks : Int) + 250 * sum := by
    omega
  have small : 64000 * (referenceTicks : Int) + 250 * sum < 2 ^ 64 := by
    omega
  rw [sign]
  generalize 64000 * (referenceTicks : Int) + 250 * sum = value at small
  constructor
  · intro same
    omega
  · intro notNegative
    rw [Int.emod_eq_of_lt notNegative small]
    omega

/-- The numbers of the payload go past the last one that a word can hold. -/
def NumbersOverflow (payload : Bytes) (maxSeqnum : Nat) : Prop :=
  2 ^ 64 ≤ (expandTruncatedCounter (baseSeqnum payload) maxSeqnum 16).1 +
    statusCount payload

/-- The arrivals are read after the chunks, unless their numbers overflow. -/
theorem readFeedback_arrivals {maxSeqnum feedbackSeqnum largest : Nat}
    {arrivals : List (Nat × RemoteInstant)}
    (isRead : readFeedback profile payload maxSeqnum =
      .ok (some (feedbackSeqnum, arrivals), largest)) :
    (NumbersOverflow payload maxSeqnum ∧ arrivals = []) ∨
      (¬ NumbersOverflow payload maxSeqnum ∧ ∃ statusChunks deltas,
        readStatusChunks (statusCount payload) 0 (payload.drop 12) =
            some (statusChunks, deltas) ∧
          readArrivals (referenceTimeTicks payload) (expandTruncatedCounter
              (baseSeqnum payload) maxSeqnum 16).1 0
            ((statusChunks.flatMap PacketStatusChunk.statuses).take
              (statusCount payload)) deltas = some arrivals) := by
  rcases readFeedback_cases isRead with ⟨_, nothing, _⟩ |
    ⟨_, _, ⟨_, nothing⟩ | ⟨read, isStatuses, all⟩⟩
  · cases nothing
  · cases nothing
  · obtain ⟨count, reference, chunks⟩ := readStatuses_eq_some isStatuses
    obtain ⟨finish, added, returned⟩ := bind_eq_ok_iff.mp all
    obtain ⟨found, areArrivals, same⟩ :=
      Option.map_eq_some_iff.mp (Except.ok.inj returned)
    cases same
    rw [count] at added
    by_cases overflow : NumbersOverflow payload maxSeqnum
    · have few : statusCount payload < 2 ^ 16 :=
        fromBigEndian_take_lt (payload.drop 6) 2
      have wrapped : finish < _ := BuildProfile.addU64_lt
        (Nat.not_lt.mpr overflow) (few.trans (by decide))
        (expandTruncatedCounter_fst_lt (by decide)) added
      rw [Nat.sub_eq_zero_of_le wrapped.le, List.take_zero] at areArrivals
      cases areArrivals
      exact .inl ⟨overflow, rfl⟩
    · rw [profile.addU64_eq_ok (Nat.not_le.mp overflow)] at added
      have isFinish := Except.ok.inj added
      rw [← isFinish, Nat.add_sub_cancel_left, reference] at areArrivals
      exact .inr ⟨overflow, _, _, chunks, areArrivals⟩

theorem readFeedback_times {maxSeqnum feedbackSeqnum largest : Nat}
    {arrivals : List (Nat × RemoteInstant)}
    (isRead : readFeedback profile payload maxSeqnum =
      .ok (some (feedbackSeqnum, arrivals), largest)) :
    (NumbersOverflow payload maxSeqnum ∧ arrivals = []) ∨
      (¬ NumbersOverflow payload maxSeqnum ∧
        arrivals.map Prod.snd =
          (runningSums 0 (payloadDeltas payload)).map fun sum =>
            fromMicros (arrivalMicros (referenceTimeTicks payload) sum)) := by
  rcases readFeedback_arrivals isRead with overflow |
    ⟨inWord, statusChunks, deltas, chunks, areArrivals⟩
  · exact .inl overflow
  · refine .inr ⟨inWord, ?_⟩
    rw [readArrivals_times areArrivals]
    unfold payloadDeltas
    rw [chunks]

/-- The sums of a payload that can be read do not overflow, and its arrival
times are the values that it encodes unless one of them is before the epoch. -/
theorem decoded_times_exact_iff {profile : BuildProfile} {payload : Bytes}
    {maxSeqnum feedbackSeqnum largest : Nat}
    {arrivals : List (Nat × RemoteInstant)}
    (isRead : readFeedback profile payload maxSeqnum =
      .ok (some (feedbackSeqnum, arrivals), largest)) :
    (∀ sum ∈ runningSums 0 (payloadDeltas payload),
      -2 ^ 31 ≤ sum ∧ sum < 2 ^ 31) ∧
      (arrivals.map (fun arrival => ((arrival.2 : Nat) : Int)) <+:
          arrivalTimes payload ↔
        NumbersOverflow payload maxSeqnum ∨
          ∀ sum ∈ runningSums 0 (payloadDeltas payload),
            0 ≤ 256 * (referenceTimeTicks payload : Int) + sum) := by
  have bounded := payloadSums_bounds payload
  have short : referenceTimeTicks payload < 2 ^ 24 :=
    fromBigEndian_take_lt (payload.drop 8) 3
  refine ⟨bounded, ?_⟩
  rcases readFeedback_times isRead with ⟨overflow, rfl⟩ | ⟨inWord, times⟩
  · constructor
    · exact fun _ => .inl overflow
    · exact fun _ => List.nil_prefix
  · have asIntegers : arrivals.map (fun arrival => ((arrival.2 : Nat) : Int)) =
        (runningSums 0 (payloadDeltas payload)).map fun sum =>
          ((fromMicros (arrivalMicros (referenceTimeTicks payload) sum) :
            Nat) : Int) := by
      have mapped := congrArg (List.map fun time : RemoteInstant =>
        ((time : Nat) : Int)) times
      rw [List.map_map, List.map_map] at mapped
      exact mapped
    have sameLength : ∀ {left right : Int → Int},
        (runningSums 0 (payloadDeltas payload)).map left <+:
            (runningSums 0 (payloadDeltas payload)).map right ↔
          ∀ sum ∈ runningSums 0 (payloadDeltas payload),
            left sum = right sum := by
      intro left right
      rw [← List.map_inj_left]
      constructor
      · exact fun isFront => isFront.eq_of_length (by simp)
      · exact fun same => same ▸ List.prefix_refl _
    unfold arrivalTimes
    rw [asIntegers, sameLength, or_iff_right inWord]
    apply forall₂_congr
    intro sum member
    exact arrivalMicros_exact_iff short (bounded sum member)

/-- Packet 3 is missing, and packet 4 has arrived before packet 2. -/
def spreadPayload : Bytes :=
  [0, 0, 0, 16, 0, 2, 0, 4, 0, 0, 0, 1, 210, 64, 8, 255, 252, 0]

theorem decoded_times_exact_iff_spread :
    (∀ sum ∈ runningSums 0 (payloadDeltas spreadPayload),
      -2 ^ 31 ≤ sum ∧ sum < 2 ^ 31) ∧
      [(2000000 : Int), 1000000, 1000000] <+: arrivalTimes spreadPayload := by
  have isRead : readFeedback .debug spreadPayload 1 =
      .ok (some (1, [(2, 2000000), (4, 1000000), (5, 1000000)]), 2) := by
    decide +kernel
  obtain ⟨bounded, exact⟩ := decoded_times_exact_iff isRead
  refine ⟨bounded, exact.mpr (.inr ?_)⟩
  decide +kernel

/-- Packet 2 has arrived a tick before the reference time, which is the
epoch. -/
def earlyPayload : Bytes :=
  [0, 0, 0, 16, 0, 2, 0, 1, 0, 0, 0, 1, 64, 1, 255, 255]

theorem early_arrival_wraps :
    readFeedback .debug earlyPayload 1 =
        .ok (some (1, [(2, (2 ^ 64 - 250) * 1000)]), 2) ∧
      ¬ ∀ (profile : BuildProfile) (payload : Bytes)
        (maxSeqnum feedbackSeqnum largest : Nat)
        (arrivals : List (Nat × RemoteInstant)),
        readFeedback profile payload maxSeqnum =
            .ok (some (feedbackSeqnum, arrivals), largest) →
          arrivals.map (fun arrival => ((arrival.2 : Nat) : Int)) <+:
            arrivalTimes payload := by
  have isRead : readFeedback .debug earlyPayload 1 =
      .ok (some (1, [(2, (2 ^ 64 - 250) * 1000)]), 2) := by
    decide +kernel
  refine ⟨isRead, ?_⟩
  intro always
  have exact := always .debug earlyPayload 1 1 2 _ isRead
  revert exact
  decide +kernel

end CallingService.Backend.Tcc
