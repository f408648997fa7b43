import CallingService.Backend.Rtp.DescriptorAgreement

/-!
# Counting templates in a machine integer

The reader counts the templates in an `i32`.  A descriptor of at most 2²⁹ + 4
bytes has too few bits for that counter to overflow, and is read as the syntax
has it; a longer one can make it overflow.
-/

namespace CallingService.Backend.Rtp

open Foundation

namespace DependencyDescriptorReader

/-- The loop over the template layers, with the counter of the source. -/
def countTemplatesI32 : Nat → Nat → Read Nat
  | 0, _, _ => .error .outOfBounds
  | fuel + 1, count, reader => do
      let (layer, next) ← readU8 2 reader
      if layer = 3 then return (count, next)
      else if count + 1 = 2 ^ 31 then .error (.panic .overflow)
      else countTemplatesI32 fuel (count + 1) next

section

variable (count : Nat → Nat → Read Nat)

/-- `readStructure` with any way to count the templates. -/
def readStructureBy (fuel : Nat) : Read (Option PixelSize) := fun reader => do
  let (_, afterOffset) ← readU8 6 reader
  let (targets, afterTargets) ← readU8 5 afterOffset
  let dtCnt := targets.toNat + 1
  let (templateCnt, afterLayers) ← count fuel 1 afterTargets
  let (_, afterDtis) ← skipMany 2 (templateCnt * dtCnt) afterLayers
  let (_, afterFdiffs) ← skipTemplateFdiffs fuel templateCnt afterDtis
  let (_, afterChains) ← skipNonSymmetric (dtCnt + 1) afterFdiffs
  let (present, afterFlag) ← readU8 1 afterChains
  if present = 1 then
    let (width, afterWidth) ← readU16 afterFlag
    let (height, afterHeight) ← readU16 afterWidth
    return (some {
      width := if width = 65535 then width else width + 1
      height := if height = 65535 then height else height + 1
    }, afterHeight)
  else return (none, afterFlag)

def readAfterNumberBy (frameNumber : Option UInt16) :
    DependencyDescriptorReader → Except ReadFailure DependencyDescriptor :=
  fun reader =>
    if reader.bytes.length = 3 then .ok ⟨false, none, frameNumber⟩
    else do
      let (present, afterFlag) ← readU8 1 reader
      let (_, afterFlags) ← skipMany 1 4 afterFlag
      if present = 1 then
        let (resolution, _) ←
          readStructureBy count (8 * reader.bytes.length) afterFlags
        return ⟨true, resolution, frameNumber⟩
      else return ⟨false, none, frameNumber⟩

def readBy (reader : DependencyDescriptorReader) :
    Except ReadFailure DependencyDescriptor :=
  let start := { reader with byteIndex := 1 }
  match readU16 start with
  | .ok (number, next) => readAfterNumberBy count (some number) next
  | .error (.panic cause) => .error (.panic cause)
  | .error .outOfBounds =>
      match readU8 8 start with
      | .ok (_, next) => readAfterNumberBy count none next
      | .error (.panic cause) => .error (.panic cause)
      | .error .outOfBounds => readAfterNumberBy count none start

end

/-- `read` with the counter of the source. -/
def readI32 (reader : DependencyDescriptorReader) :
    Except ReadFailure DependencyDescriptor :=
  reader.readBy countTemplatesI32

theorem readBy_countTemplates (reader : DependencyDescriptorReader) :
    reader.readBy countTemplates = reader.read := rfl

variable {reader : DependencyDescriptorReader} {bits : Nat}

theorem readBy_eq {bytes : Bytes} (count : Nat → Nat → Read Nat)
    (longEnough : rtpDependencyDescriptorMinLen ≤ bytes.length) :
    (new bytes).readBy count = readAfterNumberBy count
      (some (fromBigEndian ((bytes.drop 1).take 2)).toUInt16)
      ⟨bytes, 3, 0⟩ := by
  unfold readBy new
  dsimp only
  rw [readU16_number longEnough]

/-! ## Short descriptors -/

/-- Each template takes two bits. -/
theorem countTemplatesI32_eq {fuel count : Nat} (ready : reader.Ready)
    (few : count + reader.bitsLeft / 2 < 2 ^ 31) :
    countTemplatesI32 fuel count reader = countTemplates fuel count reader := by
  induction fuel generalizing count reader with
  | zero => rfl
  | succ fuel ih =>
      have reads : Reads 2 reader (readU8 2 reader) :=
        readU8_reads (by decide) (by decide) ready
      apply reads.bind_congr
      intro layer next moved
      have fewer := moved.bitsLeft_le
      dsimp only
      by_cases last : layer = 3
      · rw [if_pos last, if_pos last]
      · have noOverflow : count + 1 ≠ 2 ^ 31 := by omega
        rw [if_neg last, if_neg last, if_neg noOverflow]
        exact ih (moved.ready ready) (by omega)

theorem readStructureBy_countTemplatesI32 {fuel : Nat} (ready : reader.Ready)
    (few : reader.bitsLeft ≤ 2 ^ 32 + 7) :
    readStructureBy countTemplatesI32 fuel reader =
      readStructure fuel reader := by
  apply (readU8_reads (by decide) (by decide) ready).bind_congr
  intro _ afterOffset moved
  have left := moved.bitsLeft_le
  have ready := moved.ready ready
  apply (readU8_reads (by decide) (by decide) ready).bind_congr
  intro targets afterTargets moved
  have left := moved.bitsLeft_le
  have ready := moved.ready ready
  dsimp only
  rw [countTemplatesI32_eq ready (by omega)]

theorem readI32_eq_read {bytes : Bytes} (longEnough : 3 ≤ bytes.length)
    (short : bytes.length ≤ 2 ^ 29 + 4) :
    (new bytes).readI32 = (new bytes).read := by
  have ready : Ready ⟨bytes, 3, 0⟩ := ready_at (by omega) longEnough
  have left : bitsLeft ⟨bytes, 3, 0⟩ = 8 * bytes.length - 24 := rfl
  unfold readI32
  rw [readBy_eq _ longEnough, read_eq longEnough]
  unfold readAfterNumberBy readAfterNumber
  dsimp only
  split
  · rfl
  · apply (readU8_reads (by decide) (by decide) ready).bind_congr
    intro present afterFlag moved
    have fewer := moved.bitsLeft_le
    have ready := moved.ready ready
    apply (skipMany_reads (by decide) (by decide) 4 ready).bind_congr
    intro _ afterFlags moved
    have fewerStill := moved.bitsLeft_le
    have ready := moved.ready ready
    dsimp only
    split
    · rw [readStructureBy_countTemplatesI32 ready (by omega)]
    · rfl

/-- A descriptor is read as the syntax has it, and each read on the way fails
when there are too few bits and returns the next ones otherwise. -/
theorem readI32_follows_grammar {bytes : Bytes} (longEnough : 3 ≤ bytes.length)
    (short : bytes.length ≤ 2 ^ 29 + 4) :
    (∀ cause, (new bytes).readI32 ≠ .error (.panic cause)) ∧
    (new bytes).readI32 = okOr (DescriptorSyntax.parse bytes) .outOfBounds ∧
    Ready ⟨bytes, 1, 0⟩ ∧
    ∀ reader : DependencyDescriptorReader, reader.Ready →
      ∀ bits, 0 < bits → bits ≤ 8 →
        (readU8 bits reader = .error .outOfBounds ↔
          reader.remaining.length < bits) ∧
        (bits ≤ reader.remaining.length →
          ∃ value next, readU8 bits reader = .ok (value, next) ∧
            value.toNat = numberOf (reader.remaining.take bits) ∧
            next.remaining = reader.remaining.drop bits ∧
            next.bytes = reader.bytes ∧ next.Ready) := by
  have sameRead := readI32_eq_read longEnough short
  refine ⟨?_, ?_, ?_, ?_⟩
  · intro cause failed
    rw [sameRead] at failed
    exact read_noPanic (by omega) cause failed
  · exact sameRead.trans (read_agrees longEnough)
  · exact ready_at (by omega) (by omega)
  · intro reader ready bits some atMostByte
    refine ⟨readU8_eq_outOfBounds_iff some atMostByte ready, ?_⟩
    intro enough
    have split := (List.take_append_drop bits reader.remaining).symm
    obtain ⟨value, next, returned, isNumber, remains, nextReady, sameBytes⟩ :=
      readU8_of_front some atMostByte ready split
        (List.length_take_of_le enough)
    exact ⟨value, next, returned, isNumber, remains, sameBytes, nextReady⟩

/-- A screen share of 2880 by 1620 pixels. -/
def screenshareDescriptor : Bytes :=
  [0b10000000, 0b00001011, 0b00001011, 0b10000000, 0b00000001, 0b00000100,
    0b11101010, 0b10101100, 0b10000101, 0b00010100, 0b01010000, 0b01000110,
    0b00000100, 0b00101100, 0b11111100, 0b00011001, 0b01001100]

theorem readI32_follows_grammar_of_screenshare :
    (new screenshareDescriptor).readI32 =
      .ok ⟨true, some ⟨2880, 1620⟩, some 0x0B0B⟩ := by
  have parsed : DescriptorSyntax.parse screenshareDescriptor =
      some ⟨true, some ⟨2880, 1620⟩, some 0x0B0B⟩ := by
    decide +kernel
  have agrees := (@readI32_follows_grammar screenshareDescriptor (by decide)
    (by decide)).2.1
  rw [agrees, parsed]
  rfl

/-! ## Overflow -/

theorem countTemplatesI32_overflow {fuel count more : Nat} {rest : List Bool}
    (ready : reader.Ready)
    (zeros : reader.remaining = List.replicate (2 * more) false ++ rest)
    (reached : count + more = 2 ^ 31) (some : 0 < more)
    (enough : more ≤ fuel) :
    countTemplatesI32 fuel count reader = .error (.panic .overflow) := by
  induction more generalizing fuel count reader with
  | zero => exact absurd some (Nat.lt_irrefl 0)
  | succ more ih =>
      cases fuel with
      | zero => exact absurd enough (Nat.not_succ_le_zero more)
      | succ fuel =>
          have oneMore : List.replicate (2 * (more + 1)) false =
              [false, false] ++ List.replicate (2 * more) false := rfl
          rw [oneMore, List.append_assoc] at zeros
          have twoBits : [false, false].length = 2 := rfl
          obtain ⟨layer, next, returned, isNumber, remains, nextReady, -⟩ :=
            readU8_of_front (by decide) (by decide) ready zeros twoBits
          have isZero : layer = 0 := UInt8.toNat_inj.mp isNumber
          unfold countTemplatesI32
          rw [returned, ok_bind, isZero]
          dsimp only
          rw [if_neg (by decide)]
          cases more with
          | zero =>
              rw [Nat.zero_add] at reached
              rw [if_pos reached]
          | succ more =>
              have notYet : count + 1 ≠ 2 ^ 31 := by omega
              rw [if_neg notYet]
              exact ih nextReady remains (by omega) (Nat.succ_pos more)
                (Nat.le_of_succ_le_succ enough)

/-- A key frame with one decode target and as many templates as there are
pairs of bits in the zeros and the first three quarters of the next byte. -/
def manyTemplates (zeros : Nat) : Bytes :=
  [0, 0, 0, 128, 0] ++ List.replicate zeros 0 ++ [3, 0]

theorem length_manyTemplates (zeros : Nat) :
    (manyTemplates zeros).length = zeros + 7 := by
  simp [manyTemplates]

theorem remaining_manyTemplates (zeros : Nat) :
    remaining ⟨manyTemplates zeros, 3, 0⟩ =
      [true] ++ (List.replicate 4 false ++ (List.replicate 6 false ++
        (List.replicate 5 false ++ (List.replicate (2 * (4 * zeros + 3)) false ++
          ([true, true] ++ List.replicate 8 false))))) := by
  have together : List.replicate (2 * (4 * zeros + 3)) false =
      List.replicate (8 * zeros) false ++ List.replicate 6 false := by
    rw [List.replicate_append_replicate]
    congr 1
    omega
  have behind : (manyTemplates zeros).drop 3 =
      [128, 0] ++ (List.replicate zeros 0 ++ [3, 0]) := rfl
  have flags : bitList [128, 0] = [true] ++ (List.replicate 4 false ++
      (List.replicate 6 false ++ List.replicate 5 false)) := by
    decide
  have last : bitList [3, 0] = List.replicate 6 false ++
      ([true, true] ++ List.replicate 8 false) := by
    decide
  have atByte : remaining ⟨manyTemplates zeros, 3, 0⟩ =
      bitList ((manyTemplates zeros).drop 3) :=
    drop_bitList (manyTemplates zeros) 3
  rw [atByte, behind, bitList_append, bitList_append, bitList_replicate_zero,
    flags, last, together]
  simp only [List.append_assoc]

theorem skipMany_of_front {count : Nat} {rest : List Bool} (some : 0 < bits)
    (atMostByte : bits ≤ 8) (ready : reader.Ready)
    (split : reader.remaining =
      List.replicate (bits * count) false ++ rest) :
    ∃ next, skipMany bits count reader = .ok ((), next) ∧
      next.remaining = rest ∧ next.Ready ∧ next.bytes = reader.bytes := by
  induction count generalizing reader with
  | zero => exact ⟨reader, rfl, split, ready, rfl⟩
  | succ count ih =>
      have oneMore : List.replicate (bits * (count + 1)) false =
          List.replicate bits false ++ List.replicate (bits * count) false := by
        rw [List.replicate_append_replicate, Nat.mul_succ, Nat.add_comm]
      rw [oneMore, List.append_assoc] at split
      obtain ⟨value, next, returned, -, remains, nextReady, sameBytes⟩ :=
        readU8_of_front some atMostByte ready split List.length_replicate
      obtain ⟨last, skipped, lastRemains, lastReady, sameBytesToo⟩ :=
        ih nextReady remains
      unfold skipMany
      rw [returned]
      exact ⟨last, skipped, lastRemains, lastReady,
        sameBytesToo.trans sameBytes⟩

theorem readI32_manyTemplates {zeros : Nat} (asMany : 4 * zeros + 4 = 2 ^ 31) :
    (new (manyTemplates zeros)).readI32 = .error (.panic .overflow) := by
  have length := length_manyTemplates zeros
  have ready : Ready ⟨manyTemplates zeros, 3, 0⟩ :=
    ready_at (by omega) (by omega)
  have flag : [true].length = 1 := rfl
  obtain ⟨present, afterFlag, readFlag, isPresent, remains, ready, sameBytes⟩ :=
    readU8_of_front (by decide) (by decide) ready
      (remaining_manyTemplates zeros) flag
  have isOne : present = 1 := UInt8.toNat_inj.mp isPresent
  obtain ⟨afterFlags, skipped, remains, ready, -⟩ :=
    @skipMany_of_front afterFlag 1 4 _ (by decide) (by decide) ready remains
  obtain ⟨offset, afterOffset, readOffset, -, remains, ready, -⟩ :=
    readU8_of_front (by decide) (by decide) ready remains
      List.length_replicate
  obtain ⟨targets, afterTargets, readTargets, -, remains, ready, -⟩ :=
    readU8_of_front (by decide) (by decide) ready remains
      List.length_replicate
  have overflows : countTemplatesI32 (8 * (manyTemplates zeros).length) 1
      afterTargets = .error (.panic .overflow) :=
    countTemplatesI32_overflow ready remains (by omega) (by omega) (by omega)
  have longEnough : rtpDependencyDescriptorMinLen ≤
      (manyTemplates zeros).length := by
    rw [length]
    exact Nat.le_add_left 3 (zeros + 4)
  unfold readI32
  rw [readBy_eq _ longEnough]
  unfold readAfterNumberBy readStructureBy
  dsimp only
  rw [if_neg (by omega), readFlag, ok_bind]
  dsimp only
  rw [skipped, ok_bind, if_pos isOne, readOffset, ok_bind]
  dsimp only
  rw [readTargets, ok_bind]
  dsimp only
  rw [overflows]
  rfl

/-- A descriptor of 2²⁹ + 6 bytes whose templates cannot be counted. -/
theorem readI32_overflows :
    3 ≤ (manyTemplates (2 ^ 29 - 1)).length ∧
      (new (manyTemplates (2 ^ 29 - 1))).readI32 =
        .error (.panic .overflow) := by
  constructor
  · rw [length_manyTemplates]
    omega
  · exact readI32_manyTemplates (by norm_num)

end DependencyDescriptorReader

end CallingService.Backend.Rtp
