import CallingService.Foundation.DigitPacking

/-!
# Packet status chunks

Feedback says of each sequence number whether its packet has arrived and how
many bytes its delta takes.  These statuses are encoded as runs and as vectors
of one or two bits, and a chunk changes its form when a status does not fit.
-/

namespace CallingService.Backend.Tcc

open Foundation

inductive PacketStatus where
  | notReceived
  | receivedSmallDelta
  | receivedLargeOrNegativeDelta
deriving DecidableEq, Repr

namespace PacketStatus

def toNat : PacketStatus → Nat
  | .notReceived => 0
  | .receivedSmallDelta => 1
  | .receivedLargeOrNegativeDelta => 2

/-- Only called with two bits. -/
def fromU8 : Nat → Option PacketStatus
  | 0 => some .notReceived
  | 1 => some .receivedSmallDelta
  | 2 => some .receivedLargeOrNegativeDelta
  | _ => none

@[simp] theorem fromU8_toNat (status : PacketStatus) :
    fromU8 status.toNat = some status := by
  cases status with
  | notReceived => rfl
  | receivedSmallDelta => rfl
  | receivedLargeOrNegativeDelta => rfl

theorem toNat_lt_four (status : PacketStatus) : status.toNat < 2 ^ 2 := by
  cases status with
  | notReceived => decide
  | receivedSmallDelta => decide
  | receivedLargeOrNegativeDelta => decide

theorem toNat_lt_two {status : PacketStatus}
    (small : status ≠ .receivedLargeOrNegativeDelta) :
    status.toNat < 2 ^ 1 := by
  cases status with
  | notReceived => decide
  | receivedSmallDelta => decide
  | receivedLargeOrNegativeDelta => exact absurd rfl small

end PacketStatus

/-- A run of one status, or a vector of up to 14 or up to 7 of them. -/
inductive PacketStatusChunk where
  | runLength (len : Nat) (status : PacketStatus)
  | vector1 (len bits : Nat)
  | vector2 (len bits : Nat)
deriving DecidableEq, Repr

namespace PacketStatusChunk

def len : PacketStatusChunk → Nat
  | .runLength len _ => len
  | .vector1 len _ => len
  | .vector2 len _ => len

/-- `into_iter`. -/
def statuses : PacketStatusChunk → List (Option PacketStatus)
  | .runLength len status => List.replicate len (some status)
  | .vector1 len bits =>
      ((List.range 14).map fun index =>
        PacketStatus.fromU8 ((bits >>> (13 - index)) &&& 1)).take len
  | .vector2 len bits =>
      ((List.range 7).map fun index =>
        PacketStatus.fromU8 ((bits >>> (2 * (6 - index))) &&& 3)).take len

def fromU16 (encoded : Nat) : Option PacketStatusChunk :=
  match encoded >>> 14 with
  | 0 | 1 =>
      (PacketStatus.fromU8 ((encoded >>> 13) &&& 3)).map
        (.runLength (encoded &&& 0x1FFF))
  | 2 => some (.vector1 14 (encoded &&& 0x3FFF))
  | _ => some (.vector2 7 (encoded &&& 0x3FFF))

def as16 : PacketStatusChunk → Nat
  | .runLength len status => (status.toNat <<< 13) ||| len
  | .vector1 _ bits => (2 <<< 14) ||| bits
  | .vector2 _ bits => (3 <<< 14) ||| bits

/-- The length and the bits of a vector of up to 14 statuses.  None of the
chunks that are converted has a status that cannot be read. -/
def vector1FromIter (statuses : List (Option PacketStatus)) : Nat × Nat :=
  (statuses.take 14).foldl (fun vector status =>
    (vector.1 + 1,
      vector.2 ||| (status.getD .notReceived).toNat <<< (13 - vector.1)))
    (0, 0)

def vector2FromIter (statuses : List (Option PacketStatus)) : Nat × Nat :=
  (statuses.take 7).foldl (fun vector status =>
    (vector.1 + 1,
      vector.2 |||
        (status.getD .notReceived).toNat <<< (2 * (6 - vector.1)))) (0, 0)

def pushVector2 (len bits : Nat) (status : PacketStatus) :
    PacketStatusChunk × Option PacketStatusChunk :=
  if 7 ≤ len then (.vector2 len bits, some (.runLength 1 status))
  else (.vector2 (len + 1) (bits ||| status.toNat <<< (2 * (6 - len))), none)

def pushVector1 (len bits : Nat) (status : PacketStatus) :
    PacketStatusChunk × Option PacketStatusChunk :=
  if 14 ≤ len then (.vector1 len bits, some (.runLength 1 status))
  else if status ≠ .receivedLargeOrNegativeDelta then
    (.vector1 (len + 1) (bits ||| status.toNat <<< (13 - len)), none)
  else
    let statuses := (PacketStatusChunk.vector1 len bits).statuses
    if len ≤ 6 then
      let vector := vector2FromIter statuses
      pushVector2 vector.1 vector.2 status
    else
      -- too long for one vector of two bits each
      let first := vector2FromIter (statuses.take 7)
      let second := vector2FromIter (statuses.drop 7)
      (.vector2 first.1 first.2,
        some (pushVector2 second.1 second.2 status).1)

def pushRunLength (len : Nat) (existing status : PacketStatus) :
    PacketStatusChunk × Option PacketStatusChunk :=
  if 8191 ≤ len then (.runLength len existing, some (.runLength 1 status))
  else if status = existing then (.runLength (len + 1) status, none)
  else if len ≤ 13 ∧ status ≠ .receivedLargeOrNegativeDelta ∧
      existing ≠ .receivedLargeOrNegativeDelta then
    let vector := vector1FromIter (PacketStatusChunk.runLength len
      existing).statuses
    pushVector1 vector.1 vector.2 status
  else if len ≤ 6 then
    let vector := vector2FromIter (PacketStatusChunk.runLength len
      existing).statuses
    pushVector2 vector.1 vector.2 status
  else (.runLength len existing, some (.runLength 1 status))

/-- The chunk with one more status, and another chunk if it took two. -/
def push : PacketStatusChunk → PacketStatus →
    PacketStatusChunk × Option PacketStatusChunk
  | .runLength len existing, status => pushRunLength len existing status
  | .vector1 len bits, status => pushVector1 len bits status
  | .vector2 len bits, status => pushVector2 len bits status

end PacketStatusChunk

/-- `PacketStatusChunks::push`, which changes the last chunk. -/
def pushStatus : List PacketStatusChunk → PacketStatus →
    List PacketStatusChunk
  | [], status => [.runLength 1 status]
  | [last], status =>
      match last.push status with
      | (last, none) => [last]
      | (last, some next) => [last, next]
  | first :: second :: rest, status =>
      first :: pushStatus (second :: rest) status

/-! ## What a chunk represents -/

namespace PacketStatusChunk

/-- The chunk stands for these statuses. -/
inductive Represents : PacketStatusChunk → List PacketStatus → Prop where
  | runLength {len : Nat} {status : PacketStatus} (fits : len ≤ 8191) :
      Represents (.runLength len status) (List.replicate len status)
  | vector1 {bits : Nat} {statuses : List PacketStatus}
      (packs : Packs 1 14 bits (statuses.map PacketStatus.toNat)) :
      Represents (.vector1 statuses.length bits) statuses
  | vector2 {bits : Nat} {statuses : List PacketStatus}
      (packs : Packs 2 7 bits (statuses.map PacketStatus.toNat)) :
      Represents (.vector2 statuses.length bits) statuses

/-- Nothing is appended when the chunk is decoded. -/
def Exact : PacketStatusChunk → Prop
  | .runLength _ _ => True
  | .vector1 len _ => len = 14
  | .vector2 len _ => len = 7

variable {chunk : PacketStatusChunk} {statuses : List PacketStatus}
variable {status : PacketStatus}

theorem Represents.len_eq (represents : chunk.Represents statuses) :
    chunk.len = statuses.length := by
  cases represents with
  | runLength fits => exact List.length_replicate.symm
  | vector1 packs => rfl
  | vector2 packs => rfl

/-- The digits of a word as statuses; the free places read as missing
packets. -/
theorem map_fromU8_of_packs {width capacity bits : Nat}
    (packs : Packs width capacity bits (statuses.map PacketStatus.toNat)) :
    (List.range capacity).map
        (fun index => PacketStatus.fromU8
          (digitAt width capacity bits index)) =
      statuses.map some ++ List.replicate (capacity - statuses.length)
        (some .notReceived) := by
  have fits := packs.fits
  rw [List.length_map] at fits
  apply List.ext_getElem
  · simp only [List.length_map, List.length_range, List.length_append,
      List.length_replicate]
    omega
  · intro index first second
    rw [List.length_map, List.length_range] at first
    rw [List.getElem_map, List.getElem_range, packs.digit index first]
    by_cases isHeld : index < statuses.length
    · rw [List.getElem_append_left (by simpa using isHeld),
        List.getD_eq_getElem _ _ (by simpa using isHeld)]
      simp
    · rw [List.getElem_append_right (by simpa using isHeld),
        List.getElem_replicate,
        List.getD_eq_default _ _ (by simpa using isHeld)]
      rfl

theorem statuses_vector1 {bits : Nat}
    (packs : Packs 1 14 bits (statuses.map PacketStatus.toNat)) (len : Nat) :
    (PacketStatusChunk.vector1 len bits).statuses =
      (statuses.map some ++ List.replicate (14 - statuses.length)
        (some PacketStatus.notReceived)).take len := by
  have digits : ∀ index, (bits >>> (13 - index)) &&& 1 =
      digitAt 1 14 bits index := by
    intro index
    unfold digitAt
    rw [Nat.one_mul]
    exact Nat.and_two_pow_sub_one_eq_mod _ 1
  rw [← map_fromU8_of_packs packs]
  unfold PacketStatusChunk.statuses
  simp only [digits]

theorem statuses_vector2 {bits : Nat}
    (packs : Packs 2 7 bits (statuses.map PacketStatus.toNat)) (len : Nat) :
    (PacketStatusChunk.vector2 len bits).statuses =
      (statuses.map some ++ List.replicate (7 - statuses.length)
        (some PacketStatus.notReceived)).take len := by
  have digits : ∀ index, (bits >>> (2 * (6 - index))) &&& 3 =
      digitAt 2 7 bits index := by
    intro index
    unfold digitAt
    exact Nat.and_two_pow_sub_one_eq_mod _ 2
  rw [← map_fromU8_of_packs packs]
  unfold PacketStatusChunk.statuses
  simp only [digits]

theorem Represents.statuses_eq (represents : chunk.Represents statuses) :
    chunk.statuses = statuses.map some := by
  cases represents with
  | runLength fits => exact List.map_replicate.symm
  | vector1 packs =>
      rw [statuses_vector1 packs, List.take_append_of_le_length (by simp)]
      exact List.take_of_length_le (by simp)
  | vector2 packs =>
      rw [statuses_vector2 packs, List.take_append_of_le_length (by simp)]
      exact List.take_of_length_le (by simp)

/-! ## Conversions -/

theorem vector1FromIter_map (fits : statuses.length ≤ 14)
    (small : ∀ status ∈ statuses,
      status ≠ PacketStatus.receivedLargeOrNegativeDelta) :
    (vector1FromIter (statuses.map some)).1 = statuses.length ∧
      Packs 1 14 (vector1FromIter (statuses.map some)).2
        (statuses.map PacketStatus.toNat) := by
  have same : vector1FromIter (statuses.map some) =
      packDigits 1 14 (statuses.map PacketStatus.toNat) := by
    unfold vector1FromIter packDigits spliceDigit
    rw [List.take_of_length_le (by simpa using fits), List.foldl_map,
      List.foldl_map]
    simp only [Nat.one_mul]
    rfl
  have packed := @packs_packDigits 1 14 (statuses.map PacketStatus.toNat)
    (by simpa using fits) (by
      intro digit member
      obtain ⟨status, isIn, rfl⟩ := List.mem_map.mp member
      exact PacketStatus.toNat_lt_two (small status isIn))
  rw [same]
  rw [List.length_map] at packed
  exact packed

theorem vector2FromIter_map (fits : statuses.length ≤ 7) :
    (vector2FromIter (statuses.map some)).1 = statuses.length ∧
      Packs 2 7 (vector2FromIter (statuses.map some)).2
        (statuses.map PacketStatus.toNat) := by
  have same : vector2FromIter (statuses.map some) =
      packDigits 2 7 (statuses.map PacketStatus.toNat) := by
    unfold vector2FromIter packDigits spliceDigit
    rw [List.take_of_length_le (by simpa using fits), List.foldl_map,
      List.foldl_map]
    rfl
  have packed := @packs_packDigits 2 7 (statuses.map PacketStatus.toNat)
    (by simpa using fits) (by
      intro digit member
      obtain ⟨status, _, rfl⟩ := List.mem_map.mp member
      exact status.toNat_lt_four)
  rw [same]
  rw [List.length_map] at packed
  exact packed

/-! ## Pushing -/

/-- One or two chunks that stand for the statuses; the first of two is
exact. -/
def Extends (result : PacketStatusChunk × Option PacketStatusChunk)
    (statuses : List PacketStatus) : Prop :=
  (result.2 = none ∧ result.1.Represents statuses) ∨
    ∃ next front back, result.2 = some next ∧ statuses = front ++ back ∧
      back ≠ [] ∧ result.1.Exact ∧ result.1.Represents front ∧
      next.Represents back

/-- A new chunk for the new status. -/
theorem extends_fresh (represents : chunk.Represents statuses)
    (exact : chunk.Exact) (status : PacketStatus) :
    Extends (chunk, some (.runLength 1 status)) (statuses ++ [status]) :=
  .inr ⟨_, statuses, [status], rfl, rfl, List.cons_ne_nil _ _, exact,
    represents, .runLength (by omega)⟩

theorem represents_snoc_vector2 {bits : Nat}
    (packs : Packs 2 7 bits (statuses.map PacketStatus.toNat))
    (free : statuses.length < 7) (status : PacketStatus) :
    (PacketStatusChunk.vector2 (statuses.length + 1)
      (bits ||| status.toNat <<< (2 * (6 - statuses.length)))).Represents
        (statuses ++ [status]) := by
  have spliced := packs.splice (by simpa using free) status.toNat_lt_four
  have lengths : statuses.length + 1 = (statuses ++ [status]).length := by
    simp
  rw [lengths]
  apply Represents.vector2
  rw [List.map_append, List.map_singleton]
  rw [List.length_map] at spliced
  exact spliced

theorem represents_snoc_vector1 {bits : Nat}
    (packs : Packs 1 14 bits (statuses.map PacketStatus.toNat))
    (free : statuses.length < 14)
    (small : status ≠ .receivedLargeOrNegativeDelta) :
    (PacketStatusChunk.vector1 (statuses.length + 1)
      (bits ||| status.toNat <<< (13 - statuses.length))).Represents
        (statuses ++ [status]) := by
  have spliced := packs.splice (by simpa using free)
    (PacketStatus.toNat_lt_two small)
  have lengths : statuses.length + 1 = (statuses ++ [status]).length := by
    simp
  rw [lengths]
  apply Represents.vector1
  rw [List.map_append, List.map_singleton]
  rw [List.length_map] at spliced
  unfold spliceDigit at spliced
  rw [Nat.one_mul] at spliced
  exact spliced

theorem extends_pushVector2 {bits : Nat}
    (packs : Packs 2 7 bits (statuses.map PacketStatus.toNat))
    (status : PacketStatus) :
    Extends (pushVector2 statuses.length bits status)
      (statuses ++ [status]) := by
  have fits := packs.fits
  rw [List.length_map] at fits
  unfold pushVector2
  split
  · rename_i isFull
    exact extends_fresh (.vector2 packs) (Nat.le_antisymm fits isFull) status
  · rename_i free
    exact .inl ⟨rfl, represents_snoc_vector2 packs (by omega) status⟩

theorem extends_pushVector1 {bits : Nat}
    (packs : Packs 1 14 bits (statuses.map PacketStatus.toNat))
    (status : PacketStatus) :
    Extends (pushVector1 statuses.length bits status)
      (statuses ++ [status]) := by
  have fits := packs.fits
  rw [List.length_map] at fits
  have own : (PacketStatusChunk.vector1 statuses.length bits).statuses =
      statuses.map some := (Represents.vector1 packs).statuses_eq
  unfold pushVector1
  split
  · rename_i isFull
    exact extends_fresh (.vector1 packs) (Nat.le_antisymm fits isFull) status
  · rename_i free
    split
    · rename_i small
      exact .inl ⟨rfl, represents_snoc_vector1 packs (by omega) small⟩
    · dsimp only
      rw [own]
      split
      · obtain ⟨count, converted⟩ := @vector2FromIter_map
          statuses (by omega)
        rw [count]
        exact extends_pushVector2 converted status
      · rename_i long
        rw [← List.map_take, ← List.map_drop]
        have frontLength : (statuses.take 7).length = 7 := by
          rw [List.length_take]
          omega
        have backLength : (statuses.drop 7).length < 7 := by
          rw [List.length_drop]
          omega
        obtain ⟨frontCount, front⟩ := @vector2FromIter_map
          (statuses.take 7) frontLength.le
        obtain ⟨backCount, back⟩ := @vector2FromIter_map
          (statuses.drop 7) backLength.le
        rw [frontCount, backCount]
        refine .inr ⟨_, statuses.take 7, statuses.drop 7 ++ [status], rfl, ?_,
          by simp, frontLength, .vector2 front, ?_⟩
        · rw [← List.append_assoc, List.take_append_drop]
        · unfold pushVector2
          rw [if_neg (by omega)]
          exact represents_snoc_vector2 back backLength status

theorem extends_pushRunLength {len : Nat} (fits : len ≤ 8191)
    (existing status : PacketStatus) :
    Extends (pushRunLength len existing status)
      (List.replicate len existing ++ [status]) := by
  have own : (PacketStatusChunk.runLength len existing).statuses =
      (List.replicate len existing).map some :=
    (Represents.runLength fits).statuses_eq
  unfold pushRunLength
  split
  · exact extends_fresh (.runLength fits) trivial status
  · rename_i free
    split
    · rename_i same
      refine .inl ⟨rfl, ?_⟩
      rw [same, ← List.replicate_succ']
      exact .runLength (by omega)
    · split
      · rename_i short
        obtain ⟨short, small, existingSmall⟩ := short
        have allSmall : ∀ other ∈ List.replicate len existing,
            other ≠ PacketStatus.receivedLargeOrNegativeDelta := by
          intro other member
          rw [List.eq_of_mem_replicate member]
          exact existingSmall
        obtain ⟨count, converted⟩ := vector1FromIter_map
          (by rw [List.length_replicate]; omega) allSmall
        dsimp only
        rw [own, count]
        exact extends_pushVector1 converted status
      · split
        · rename_i short
          obtain ⟨count, converted⟩ := @vector2FromIter_map
            (List.replicate len existing)
            (by rw [List.length_replicate]; omega)
          dsimp only
          rw [own, count]
          exact extends_pushVector2 converted status
        · exact extends_fresh (.runLength fits) trivial status

theorem Represents.push (represents : chunk.Represents statuses)
    (status : PacketStatus) :
    Extends (chunk.push status) (statuses ++ [status]) := by
  cases represents with
  | runLength fits => exact extends_pushRunLength fits _ status
  | vector1 packs => exact extends_pushVector1 packs status
  | vector2 packs => exact extends_pushVector2 packs status

/-! ## Decoding -/

theorem fromU16_runLength {len : Nat} (fits : len ≤ 8191)
    (status : PacketStatus) :
    fromU16 (as16 (.runLength len status)) = some (.runLength len status) := by
  have inLow : len < 2 ^ 13 := by omega
  have encoded : as16 (.runLength len status) =
      status.toNat * 2 ^ 13 + len := by
    change status.toNat <<< 13 ||| len = _
    rw [← Nat.shiftLeft_add_eq_or_of_lt inLow, Nat.shiftLeft_eq]
  have small := status.toNat_lt_four
  have kind : (status.toNat * 2 ^ 13 + len) >>> 14 = 0 ∨
      (status.toNat * 2 ^ 13 + len) >>> 14 = 1 := by
    rw [Nat.shiftRight_eq_div_pow]
    cases status with
    | notReceived => simp only [PacketStatus.toNat]; omega
    | receivedSmallDelta => simp only [PacketStatus.toNat]; omega
    | receivedLargeOrNegativeDelta => simp only [PacketStatus.toNat]; omega
  have symbol : ((status.toNat * 2 ^ 13 + len) >>> 13) &&& 3 =
      status.toNat := by
    have mask := Nat.and_two_pow_sub_one_eq_mod
      ((status.toNat * 2 ^ 13 + len) >>> 13) 2
    rw [show 2 ^ 2 - 1 = 3 from rfl] at mask
    rw [mask, Nat.shiftRight_eq_div_pow]
    omega
  have length : (status.toNat * 2 ^ 13 + len) &&& 0x1FFF = len := by
    have mask := Nat.and_two_pow_sub_one_eq_mod
      (status.toNat * 2 ^ 13 + len) 13
    rw [show 2 ^ 13 - 1 = 0x1FFF from rfl] at mask
    rw [mask]
    omega
  rw [encoded]
  unfold fromU16
  rw [symbol, length, PacketStatus.fromU8_toNat]
  rcases kind with isZero | isOne
  · rw [isZero]
    rfl
  · rw [isOne]
    rfl

theorem fromU16_vector {bits : Nat} (small : bits < 2 ^ 14) :
    fromU16 ((2 <<< 14) ||| bits) = some (.vector1 14 bits) ∧
      fromU16 ((3 <<< 14) ||| bits) = some (.vector2 7 bits) := by
  have mask : ∀ kind, (kind * 2 ^ 14 + bits) &&& 0x3FFF = bits := by
    intro kind
    have low := Nat.and_two_pow_sub_one_eq_mod (kind * 2 ^ 14 + bits) 14
    rw [show 2 ^ 14 - 1 = 0x3FFF from rfl] at low
    rw [low]
    omega
  have high : ∀ kind, (kind * 2 ^ 14 + bits) >>> 14 = kind := by
    intro kind
    rw [Nat.shiftRight_eq_div_pow]
    omega
  rw [← Nat.shiftLeft_add_eq_or_of_lt small,
    ← Nat.shiftLeft_add_eq_or_of_lt small, Nat.shiftLeft_eq, Nat.shiftLeft_eq]
  unfold fromU16
  rw [high, high, mask, mask]
  exact ⟨rfl, rfl⟩

/-- A decoded chunk stands for the same statuses, and for missing packets
after them unless it is exact. -/
theorem Represents.fromU16_as16 (represents : chunk.Represents statuses) :
    ∃ decoded unused, fromU16 chunk.as16 = some decoded ∧
      decoded.statuses = statuses.map some ++
        List.replicate unused (some .notReceived) ∧
      decoded.len = statuses.length + unused ∧
      (chunk.Exact → unused = 0) := by
  cases represents with
  | @runLength len status fits =>
      refine ⟨_, 0, fromU16_runLength fits status, ?_, ?_, fun _ => rfl⟩
      · rw [List.replicate_zero, List.append_nil]
        exact (Represents.runLength fits).statuses_eq
      · exact (Represents.runLength fits).len_eq
  | @vector1 bits statuses packs =>
      have fits := packs.fits
      rw [List.length_map] at fits
      refine ⟨_, 14 - statuses.length, (fromU16_vector packs.small).1, ?_, ?_,
        ?_⟩
      · rw [statuses_vector1 packs]
        exact List.take_of_length_le (by simp; omega)
      · change 14 = _
        omega
      · intro isFull
        change statuses.length = 14 at isFull
        omega
  | @vector2 bits statuses packs =>
      have fits := packs.fits
      rw [List.length_map] at fits
      refine ⟨_, 7 - statuses.length, (fromU16_vector packs.small).2, ?_, ?_,
        ?_⟩
      · rw [statuses_vector2 packs]
        exact List.take_of_length_le (by simp; omega)
      · change 7 = _
        omega
      · intro isFull
        change statuses.length = 7 at isFull
        omega

theorem Represents.as16_lt (represents : chunk.Represents statuses) :
    chunk.as16 < 2 ^ 16 := by
  cases represents with
  | @runLength len status fits =>
      apply Nat.or_lt_two_pow
      · exact shiftLeft_lt status.toNat_lt_four (by omega)
      · omega
  | vector1 packs =>
      apply Nat.or_lt_two_pow
      · decide
      · exact packs.small.trans (by decide)
  | vector2 packs =>
      apply Nat.or_lt_two_pow
      · decide
      · exact packs.small.trans (by decide)

end PacketStatusChunk

/-! ## What a list of chunks holds -/

/-- The chunks stand for the statuses one after the other; only the last one
need not be exact. -/
inductive Hold : List PacketStatusChunk → List PacketStatus → Prop where
  | nil : Hold [] []
  | last {chunk : PacketStatusChunk} {statuses : List PacketStatus}
      (some : statuses ≠ []) (represents : chunk.Represents statuses) :
      Hold [chunk] statuses
  | cons {chunk next : PacketStatusChunk} {rest : List PacketStatusChunk}
      {front back : List PacketStatus} (exact : chunk.Exact)
      (represents : chunk.Represents front) (later : Hold (next :: rest) back) :
      Hold (chunk :: next :: rest) (front ++ back)

theorem Hold.push {chunks : List PacketStatusChunk}
    {statuses : List PacketStatus} (hold : Hold chunks statuses)
    (status : PacketStatus) :
    Hold (pushStatus chunks status) (statuses ++ [status]) := by
  induction hold with
  | nil =>
      apply Hold.last (List.cons_ne_nil _ _)
      exact .runLength (by omega)
  | @last chunk statuses some represents =>
      unfold pushStatus
      rcases represents.push status with ⟨one, extended⟩ |
        ⟨next, front, back, two, split, some, exact, first, second⟩
      · generalize chunk.push status = result at one extended
        obtain ⟨changed, other⟩ := result
        cases one
        exact .last (by simp) extended
      · rw [split]
        generalize chunk.push status = result at two exact first
        obtain ⟨changed, other⟩ := result
        cases two
        exact .cons exact first (.last some second)
  | @cons chunk next rest front back exact represents later ih =>
      unfold pushStatus
      rw [List.append_assoc]
      cases pushed : pushStatus (next :: rest) status with
      | nil =>
          rw [pushed] at ih
          generalize nothing : back ++ [status] = all at ih
          cases ih
          simp at nothing
      | cons first others =>
          rw [pushed] at ih
          exact .cons exact represents ih

theorem Hold.pushAll {chunks : List PacketStatusChunk}
    {statuses : List PacketStatus} (hold : Hold chunks statuses)
    (more : List PacketStatus) :
    Hold (more.foldl pushStatus chunks) (statuses ++ more) := by
  induction more generalizing chunks statuses with
  | nil =>
      rw [List.append_nil]
      exact hold
  | cons status rest ih =>
      have pushed := ih (hold.push status)
      rw [List.append_assoc] at pushed
      exact pushed

end CallingService.Backend.Tcc
