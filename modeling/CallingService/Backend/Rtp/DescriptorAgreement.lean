import CallingService.Backend.Rtp.DescriptorRewriting
import CallingService.Backend.Rtp.DescriptorSyntax

/-!
# The bit reader follows the syntax

The bits that a reader has not read yet are a suffix of the bit list of its
bytes.  Each read takes off its front what the syntax takes there, and is out
of bounds when the syntax has too few bits.
-/

namespace CallingService.Backend.Rtp

open Foundation

namespace DependencyDescriptorReader

/-- The bits not yet read. -/
def remaining (reader : DependencyDescriptorReader) : List Bool :=
  (bitList reader.bytes).drop reader.position

/-- The outcome of a read and what the syntax finds, with the reader standing
before the bits that the syntax leaves. -/
inductive Agrees {α γ : Type} (related : α → γ → Prop) (limit : Nat) :
    Except ReadFailure (α × DependencyDescriptorReader) →
      Option (γ × List Bool) → Prop where
  | read {value : α} {meant : γ} {next : DependencyDescriptorReader} :
      related value meant → next.Ready → next.bitsLeft ≤ limit →
        Agrees related limit (.ok (value, next)) (some (meant, next.remaining))
  | failed : Agrees related limit (.error .outOfBounds) none

variable {α β γ δ : Type} {bits limit later : Nat}
  {reader next : DependencyDescriptorReader} {related : α → γ → Prop}
  {relatedNext : β → δ → Prop}

theorem length_remaining (reader : DependencyDescriptorReader) :
    reader.remaining.length = reader.bitsLeft := by
  unfold remaining bitsLeft
  rw [List.length_drop, length_bitList]

variable {outcome : Except ReadFailure (α × DependencyDescriptorReader)}

theorem Agrees.weaken {found : Option (γ × List Bool)}
    (agrees : Agrees related limit outcome found) (atMost : limit ≤ later)
    : Agrees related later outcome found := by
  cases agrees with
  | read isRelated ready fewer =>
      exact .read isRelated ready (Nat.le_trans fewer atMost)
  | failed => exact .failed

theorem Agrees.map {found : Option (γ × List Bool)} {relatedToo : α → δ → Prop}
    (agrees : Agrees related limit outcome found) (change : γ → δ)
    (changes : ∀ value meant, related value meant →
      relatedToo value (change meant)) (atMost : limit ≤ later) :
    Agrees relatedToo later outcome
      (found.map fun part => (change part.1, part.2)) := by
  cases agrees with
  | read isRelated ready fewer =>
      exact .read (changes _ _ isRelated) ready (Nat.le_trans fewer atMost)
  | failed => exact .failed

theorem Agrees.bind {rest : α × DependencyDescriptorReader →
      Except ReadFailure (β × DependencyDescriptorReader)}
    {parser : BitParser γ} {parserOfRest : γ → BitParser δ} {front : List Bool}
    (agrees : Agrees related limit outcome (parser front))
    (continues : ∀ value meant next, related value meant → next.Ready →
      next.bitsLeft ≤ limit →
        Agrees relatedNext later (rest (value, next))
          (parserOfRest meant next.remaining)) :
    Agrees relatedNext later (outcome >>= rest)
      ((parser >>= parserOfRest) front) := by
  rw [bitParser_bind]
  revert agrees
  generalize parser front = found
  intro agrees
  cases agrees with
  | read isRelated ready fewer => exact continues _ _ _ isRelated ready fewer
  | failed => exact .failed

/-- What is finally made of the values. -/
theorem Agrees.bind_return
    {rest : α × DependencyDescriptorReader → Except ReadFailure β}
    {parser : BitParser γ} {parserOfRest : γ → BitParser β} {front : List Bool}
    (agrees : Agrees related limit outcome (parser front))
    (continues : ∀ value meant next, related value meant → next.Ready →
      next.bitsLeft ≤ limit →
        rest (value, next) =
          okOr ((parserOfRest meant next.remaining).map Prod.fst)
            .outOfBounds) :
    (outcome >>= rest) =
      okOr (((parser >>= parserOfRest) front).map Prod.fst) .outOfBounds := by
  rw [bitParser_bind]
  revert agrees
  generalize parser front = found
  intro agrees
  cases agrees with
  | read isRelated ready fewer => exact continues _ _ _ isRelated ready fewer
  | failed => rfl

/-! ## One read -/

theorem readU8_short (some : 0 < bits) (atMostByte : bits ≤ 8)
    (ready : reader.Ready) (short : reader.bitsLeft < bits) :
    readU8 bits reader = .error .outOfBounds := by
  have nonempty := ready.nonempty
  have inside := ready.inside
  have offset := ready.offset
  have behind : reader.bytes.length - 1 < reader.byteIndex ∨
      (reader.byteIndex = reader.bytes.length - 1 ∧
        8 < reader.bitOffset + bits) := by
    unfold bitsLeft position at short
    unfold position at inside
    omega
  unfold readU8
  rw [if_neg (by omega), if_neg nonempty]
  exact if_pos behind

/-- The part of a byte from an offset on. -/
theorem toNat_masked {byte : UInt8} {offset : Nat} (withinByte : offset < 8) :
    (if 8 - offset < 8 then byte &&& ((1 <<< (8 - offset).toUInt8) - 1)
      else byte).toNat = byte.toNat % 2 ^ (8 - offset) := by
  by_cases inside : 8 - offset < 8
  · rw [if_pos inside]
    exact toNat_and_lowMask inside
  · have whole : 8 - offset = 8 := by omega
    rw [if_neg inside, whole]
    exact (Nat.mod_eq_of_lt byte.toNat_lt).symm

/-- The value of a read that straddles two bytes. -/
theorem toNat_straddling {high following : UInt8} {width inNext : Nat}
    {number : Nat} (isHigh : high.toNat = number % 2 ^ width)
    (some : 0 < inNext) (fewer : inNext < 8) (fits : width + inNext ≤ 8) :
    ((high <<< inNext.toUInt8) |||
      ((following &&& (((1 <<< inNext.toUInt8) - 1) <<<
        (8 - inNext).toUInt8)) >>> (8 - inNext).toUInt8)).toNat =
      numberOf (bitsOf width number ++
        bitsOf inNext (following.toNat / 2 ^ (8 - inNext))) := by
  have bound : number % 2 ^ width < 2 ^ width :=
    Nat.mod_lt _ (Nat.two_pow_pos width)
  have noBitLost : high.toNat * 2 ^ inNext < 256 := by
    calc
      high.toNat * 2 ^ inNext < 2 ^ width * 2 ^ inNext := by
        rw [isHigh]
        exact Nat.mul_lt_mul_of_pos_right bound (Nat.two_pow_pos inNext)
      _ = 2 ^ (width + inNext) := (Nat.pow_add 2 width inNext).symm
      _ ≤ 2 ^ 8 := Nat.pow_le_pow_right (by decide) fits
  have shifted := toNat_shiftLeft fewer noBitLost
  have window := @toNat_window following inNext (8 - inNext) fewer (by omega)
    (by omega)
  have small : ((following &&& (((1 <<< inNext.toUInt8) - 1) <<<
      (8 - inNext).toUInt8)) >>> (8 - inNext).toUInt8).toNat <
        2 ^ inNext := by
    rw [window]
    exact Nat.mod_lt _ (Nat.two_pow_pos inNext)
  rw [toNat_or_disjoint shifted small, window, isHigh, numberOf_append,
    numberOf_bitsOf, numberOf_bitsOf, length_bitsOf]

/-- A read returns the bits in front and leaves those behind them. -/
theorem readU8_takes (some : 0 < bits) (atMostByte : bits ≤ 8)
    (ready : reader.Ready) (enough : bits ≤ reader.bitsLeft) :
    ∃ front value next, readU8 bits reader = .ok (value, next) ∧
      front.length = bits ∧ value.toNat = numberOf front ∧
      reader.remaining = front ++ next.remaining := by
  obtain ⟨bytes, index, offset⟩ := reader
  have nonempty : bytes.length ≠ 0 := ready.nonempty
  have withinByte : offset < 8 := ready.offset
  unfold bitsLeft position at enough
  dsimp only at enough
  have inside : index < bytes.length := by omega
  have start := drop_bitList_inside inside withinByte.le
  unfold readU8 remaining position
  dsimp only
  rw [if_neg (by omega), if_neg nonempty, if_neg (by omega), start,
    byteAt_of_lt inside]
  by_cases crosses : 8 ≤ offset + bits
  · have isMasked := @toNat_masked bytes[index] offset withinByte
    rw [if_pos crosses, ok_bind]
    dsimp only
    generalize (if 8 - offset < 8 then
      bytes[index] &&& ((1 <<< (8 - offset).toUInt8) - 1)
        else bytes[index]) = masked at isMasked ⊢
    by_cases straddles : 0 < bits - (8 - offset)
    · have another : index + 1 < bytes.length := by omega
      have afterNext := @drop_bitList_inside bytes (index + 1)
        ((offset + bits) % 8) another (by omega)
      have split := bitsOf_add (bits - (8 - offset)) (8 - (bits - (8 - offset)))
        bytes[index + 1].toNat
      have offsetNext : (offset + bits) % 8 = bits - (8 - offset) := by omega
      have wholeByte : bits - (8 - offset) + (8 - (bits - (8 - offset))) = 8 := by
        omega
      rw [offsetNext] at afterNext
      rw [wholeByte] at split
      rw [if_pos straddles, byteAt_of_lt another, ok_bind]
      refine ⟨_, _, _, rfl, ?_, toNat_straddling isMasked straddles
        (by omega) (by omega), ?_⟩
      · rw [List.length_append, length_bitsOf, length_bitsOf]
        omega
      · dsimp only
        rw [offsetNext, afterNext, List.drop_eq_getElem_cons another,
          bitList_cons, split]
        simp only [List.append_assoc]
    · have exactly : 8 - offset = bits := by omega
      have noneNext : bits - (8 - offset) = 0 := by omega
      have offsetNext : (offset + bits) % 8 = 0 := by omega
      rw [if_neg straddles]
      refine ⟨bitsOf (8 - offset) bytes[index].toNat, _, _, rfl, ?_, ?_, ?_⟩
      · rw [length_bitsOf, exactly]
      · have noShift := @toNat_shiftLeft masked 0 (by decide)
          (by simpa using masked.toNat_lt)
        rw [noneNext, numberOf_bitsOf, ← isMasked, noShift, pow_zero,
          Nat.mul_one]
      · dsimp only
        rw [offsetNext]
        exact congrArg _ (drop_bitList bytes (index + 1)).symm
  · have afterNext := @drop_bitList_inside bytes index (offset + bits) inside
      (by omega)
    have split := bitsOf_add bits (8 - offset - bits) bytes[index].toNat
    have width : bits + (8 - offset - bits) = 8 - offset := by omega
    rw [width] at split
    rw [if_neg crosses]
    refine ⟨bitsOf bits (bytes[index].toNat / 2 ^ (8 - offset - bits)), _, _,
      rfl, length_bitsOf _ _, ?_, ?_⟩
    · rw [numberOf_bitsOf]
      exact toNat_window (by omega) (by omega) (by omega)
    · dsimp only
      rw [← Nat.add_assoc, Nat.add_assoc _ offset, afterNext, split,
        List.append_assoc, ← Nat.sub_sub]

/-- A value is the number meant. -/
def IsNumber (value : UInt8) (number : Nat) : Prop := value.toNat = number

theorem readU8_agrees (some : 0 < bits) (atMostByte : bits ≤ 8)
    (ready : reader.Ready) :
    Agrees IsNumber (reader.bitsLeft - bits) (readU8 bits reader)
      (readBits bits reader.remaining) := by
  have reads := readU8_reads some atMostByte ready
  by_cases enough : bits ≤ reader.bitsLeft
  · obtain ⟨front, value, next, returned, length, isNumber, split⟩ :=
      readU8_takes some atMostByte ready enough
    have moved := reads.moves value next returned
    have fewer := moved.bitsLeft_le
    rw [returned, split, readBits_append next.remaining length]
    exact .read isNumber (moved.ready ready) (by omega)
  · have short := Nat.not_le.mp enough
    rw [readU8_short some atMostByte ready short,
      readBits_of_short (by rwa [length_remaining])]
    exact .failed

/-- A read takes off the bits that are known to be in front. -/
theorem readU8_of_front {front rest : List Bool} (some : 0 < bits)
    (atMostByte : bits ≤ 8) (ready : reader.Ready)
    (split : reader.remaining = front ++ rest) (length : front.length = bits) :
    ∃ value next, readU8 bits reader = .ok (value, next) ∧
      IsNumber value (numberOf front) ∧ next.remaining = rest ∧ next.Ready ∧
      next.bytes = reader.bytes := by
  have enough : bits ≤ reader.bitsLeft := by
    rw [← length_remaining, split, List.length_append, length]
    exact Nat.le_add_right bits rest.length
  obtain ⟨taken, value, next, returned, takenLength, isNumber, splitAgain⟩ :=
    readU8_takes some atMostByte ready enough
  have moved := (readU8_reads some atMostByte ready).moves value next returned
  obtain ⟨rfl, rfl⟩ := List.append_inj (splitAgain.symm.trans split)
    (takenLength.trans length.symm)
  exact ⟨value, next, returned, isNumber, rfl, moved.ready ready,
    moved.sameBytes⟩

theorem readU8_eq_outOfBounds_iff (some : 0 < bits) (atMostByte : bits ≤ 8)
    (ready : reader.Ready) :
    readU8 bits reader = .error .outOfBounds ↔
      reader.remaining.length < bits := by
  rw [length_remaining]
  constructor
  · intro failed
    by_contra notShort
    obtain ⟨front, value, next, returned, -⟩ :=
      readU8_takes some atMostByte ready (Nat.le_of_not_lt notShort)
    rw [failed] at returned
    cases returned
  · exact readU8_short some atMostByte ready

theorem agrees_return {value : α} {meant : γ} (isRelated : related value meant)
    (ready : reader.Ready) (atMost : reader.bitsLeft ≤ limit) :
    Agrees related limit (.ok (value, reader))
      ((pure meant : BitParser γ) reader.remaining) :=
  .read isRelated ready atMost

/-! ## Sequences and loops of reads -/

theorem readU16_agrees (ready : reader.Ready) :
    Agrees (fun value number => value.toNat = number) reader.bitsLeft
      (readU16 reader) (readBits 16 reader.remaining) := by
  rw [show (16 : Nat) = 8 + 8 from rfl, readBits_add]
  unfold readU16
  apply (readU8_agrees (by decide) (by decide) ready).bind
  intro upper upperNumber afterUpper isUpper ready fewer
  apply (readU8_agrees (by decide) (by decide) ready).bind
  intro lower lowerNumber afterLower isLower ready fewerStill
  have upperBound := upper.toNat_lt
  have lowerBound := lower.toNat_lt
  apply agrees_return _ ready (by omega)
  unfold IsNumber at isUpper isLower
  rw [← isUpper, ← isLower]
  simp only [Nat.toUInt16_eq, UInt16.toNat_ofNat']
  omega

theorem skipMany_agrees (some : 0 < bits) (atMostByte : bits ≤ 8) (count : Nat)
    (ready : reader.Ready) :
    Agrees (fun _ _ => True) reader.bitsLeft (skipMany bits count reader)
      (readBits (bits * count) reader.remaining) := by
  induction count generalizing reader with
  | zero =>
      rw [Nat.mul_zero, readBits_of_enough (Nat.zero_le _)]
      exact .read trivial ready (Nat.le_refl _)
  | succ count ih =>
      have parts : bits * (count + 1) = bits + bits * count :=
        (Nat.mul_succ bits count).trans (Nat.add_comm _ _)
      rw [parts, readBits_add]
      unfold skipMany
      apply (readU8_agrees some atMostByte ready).bind
      intro value number next _ nextReady fewer
      dsimp only
      rw [← bind_pure (skipMany bits count next)]
      apply (ih nextReady).bind
      intro _ rest last _ lastReady fewerStill
      exact agrees_return trivial lastReady (by omega)

open DescriptorSyntax

theorem templateLayers_of_short {front : List Bool} (short : front.length < 2) :
    templateLayers front = none := by
  cases front with
  | nil => rfl
  | cons bit rest =>
      cases rest with
      | nil => rfl
      | cons next rest =>
          simp only [List.length_cons] at short
          omega

/-- Both bits are set after the last template. -/
theorem isLast_iff {layer : UInt8} {high low : Bool}
    (isNumber : layer.toNat = numberOf [high, low]) :
    layer = 3 ↔ (high && low) = true := by
  have three : layer = 3 ↔ layer.toNat = 3 := by
    rw [← UInt8.toNat_inj]
    rfl
  rw [three, isNumber]
  cases high with
  | false => cases low <;> decide
  | true => cases low <;> decide

variable {fuel : Nat}

theorem countTemplates_agrees (count : Nat) (ready : reader.Ready)
    (enough : reader.bitsLeft < fuel) :
    Agrees (fun counted templates => counted + 1 = count + templates)
      reader.bitsLeft (countTemplates fuel count reader)
      (templateLayers reader.remaining) := by
  induction fuel generalizing count reader with
  | zero => exact absurd enough (Nat.not_lt_zero _)
  | succ fuel ih =>
      unfold countTemplates
      by_cases layerLeft : 2 ≤ reader.bitsLeft
      · obtain ⟨front, layer, next, returned, length, isNumber, split⟩ :=
          readU8_takes (by decide) (by decide) ready layerLeft
        have reads : Reads 2 reader (readU8 2 reader) :=
          readU8_reads (by decide) (by decide) ready
        have moved := reads.moves layer next returned
        have fewer := moved.bitsLeft_le
        have nextReady := moved.ready ready
        obtain ⟨high, low, rfl⟩ := List.length_eq_two.mp length
        have isLast := isLast_iff isNumber
        rw [returned, split, ok_bind]
        simp only [List.cons_append, List.nil_append, templateLayers]
        by_cases last : layer = 3
        · rw [if_pos last, if_pos (isLast.mp last)]
          exact .read rfl nextReady (by omega)
        · rw [if_neg last, if_neg (mt isLast.mpr last)]
          apply (ih (count + 1) nextReady (by omega)).map _ _ (by omega)
          intro counted templates isRelated
          omega
      · have short := Nat.not_le.mp layerLeft
        rw [readU8_short (by decide) (by decide) ready short,
          templateLayers_of_short (by rwa [length_remaining])]
        exact .failed

theorem fdiffs_cons (bit : Bool) (rest : List Bool) :
    fdiffs (bit :: rest) =
      if bit then (readBits 4 >>= fun _ => fdiffs) rest else some ((), rest) := by
  cases bit with
  | false => rfl
  | true =>
      rw [bitParser_bind]
      by_cases enough : 4 ≤ rest.length
      · rw [readBits_of_enough enough]
        match rest, enough with
        | _ :: _ :: _ :: _ :: later, _ => rfl
      · rw [readBits_of_short (Nat.not_le.mp enough)]
        match rest, enough with
        | [], _ => rfl
        | [_], _ => rfl
        | [_, _], _ => rfl
        | [_, _, _], _ => rfl
        | _ :: _ :: _ :: _ :: later, enough =>
            simp only [List.length_cons] at enough
            omega

theorem skipFdiffs_agrees (ready : reader.Ready)
    (enough : reader.bitsLeft < fuel) :
    Agrees (fun _ _ => True) reader.bitsLeft (skipFdiffs fuel reader)
      (fdiffs reader.remaining) := by
  induction fuel generalizing reader with
  | zero => exact absurd enough (Nat.not_lt_zero _)
  | succ fuel ih =>
      unfold skipFdiffs
      by_cases flagLeft : 1 ≤ reader.bitsLeft
      · obtain ⟨front, follows, next, returned, length, isNumber, split⟩ :=
          readU8_takes (by decide) (by decide) ready flagLeft
        have reads : Reads 1 reader (readU8 1 reader) :=
          readU8_reads (by decide) (by decide) ready
        have moved := reads.moves follows next returned
        have fewer := moved.bitsLeft_le
        have nextReady := moved.ready ready
        obtain ⟨bit, rfl⟩ := List.length_eq_one_iff.mp length
        have isSet : follows = 1 ↔ bit = true := by
          rw [← UInt8.toNat_inj, isNumber]
          cases bit <;> decide
        rw [returned, split, ok_bind, List.singleton_append, fdiffs_cons]
        dsimp only
        by_cases another : follows = 1
        · rw [if_pos another, if_pos (isSet.mp another)]
          apply (readU8_agrees (by decide) (by decide) nextReady).bind
          intro difference number later _ laterReady fewerStill
          exact (ih laterReady (by omega)).weaken (by omega)
        · rw [if_neg another, if_neg (mt isSet.mpr another)]
          exact .read trivial nextReady (by omega)
      · have short := Nat.not_le.mp flagLeft
        have nothing : reader.remaining = [] := by
          apply List.eq_nil_of_length_eq_zero
          rw [length_remaining]
          omega
        rw [readU8_short (by decide) (by decide) ready short, nothing]
        exact .failed

theorem skipTemplateFdiffs_agrees (templates : Nat) (ready : reader.Ready)
    (enough : reader.bitsLeft < fuel) :
    Agrees (fun _ _ => True) reader.bitsLeft
      (skipTemplateFdiffs fuel templates reader)
      (templateFdiffs templates reader.remaining) := by
  induction templates generalizing reader with
  | zero => exact .read trivial ready (Nat.le_refl _)
  | succ templates ih =>
      unfold skipTemplateFdiffs templateFdiffs
      apply (skipFdiffs_agrees ready enough).bind
      intro _ _ next _ nextReady fewer
      exact (ih nextReady (by omega)).weaken fewer

theorem size_eq_log2 {n : Nat} (positive : n ≠ 0) :
    Nat.size n = Nat.log2 n + 1 := by
  apply eq_of_forall_lt_iff
  intro bound
  rw [Nat.lt_size, Nat.lt_succ_iff, Nat.le_log2 positive]

theorem skipNonSymmetric_agrees {n : Nat} (atLeastTwo : 2 ≤ n)
    (small : n < 512) (ready : reader.Ready) :
    Agrees (fun _ _ => True) reader.bitsLeft (skipNonSymmetric n reader)
      (nonSymmetric n reader.remaining) := by
  have positive : n ≠ 0 := by omega
  have lower : 1 ≤ Nat.log2 n := (Nat.le_log2 positive).mpr atLeastTwo
  have upper : Nat.log2 n < 9 := (Nat.log2_lt positive).mpr small
  unfold skipNonSymmetric nonSymmetric
  rw [if_neg positive, size_eq_log2 positive, Nat.add_sub_cancel]
  apply (readU8_agrees lower (by omega) ready).bind
  intro value number next isNumber nextReady fewer
  unfold IsNumber at isNumber
  subst isNumber
  dsimp only
  split
  · exact agrees_return trivial nextReady (by omega)
  · apply (readU8_agrees (by decide) (by decide) nextReady).bind
    intro extra extraBit later _ laterReady fewerStill
    dsimp only
    exact agrees_return trivial laterReady (by omega)

/-! ## The descriptor -/

theorem pixels_eq {side : UInt16} {number : Nat}
    (isNumber : side.toNat = number) :
    (if side = 65535 then side else side + 1) = pixels number := by
  subst isNumber
  have bound := side.toNat_lt
  apply UInt16.toNat_inj.mp
  unfold pixels
  by_cases longest : side = 65535
  · subst longest
    rfl
  · have notLongest : side.toNat ≠ 65535 := by
      intro isLongest
      exact longest (UInt16.toNat_inj.mp isLongest)
    rw [if_neg longest, UInt16.toNat_add]
    simp only [Nat.toUInt16_eq, UInt16.toNat_ofNat', UInt16.toNat_one]
    omega

theorem readStructure_agrees (ready : reader.Ready)
    (enough : reader.bitsLeft < fuel) :
    Agrees Eq reader.bitsLeft (readStructure fuel reader)
      (templateDependencyStructure reader.remaining) := by
  unfold readStructure templateDependencyStructure
  apply (readU8_agrees (by decide) (by decide) ready).bind
  intro _ _ afterOffset _ ready left
  apply (readU8_agrees (by decide) (by decide) ready).bind
  intro targets dtCntMinusOne afterTargets isNumber ready left
  unfold IsNumber at isNumber
  subst isNumber
  have fewTargets := targets.toNat_lt
  dsimp only
  apply (countTemplates_agrees 1 ready (by omega)).bind
  intro templateCnt templates afterLayers isNumber ready left
  have sameCount : templateCnt = templates := by omega
  subst sameCount
  apply (skipMany_agrees (by decide) (by decide) _ ready).bind
  intro _ _ afterDtis _ ready left
  apply (skipTemplateFdiffs_agrees templateCnt ready (by omega)).bind
  intro _ _ afterFdiffs _ ready left
  apply (skipNonSymmetric_agrees (by omega) (by omega) ready).bind
  intro _ _ afterChains _ ready left
  apply (readU8_agrees (by decide) (by decide) ready).bind
  intro present flag afterFlag isNumber ready left
  have isPresent : present = 1 ↔ flag = 1 := by
    rw [← UInt8.toNat_inj, isNumber]
    rfl
  dsimp only
  by_cases resolutionPresent : present = 1
  · rw [if_pos resolutionPresent, if_pos (isPresent.mp resolutionPresent)]
    unfold renderResolution
    apply (readU16_agrees ready).bind
    intro width widthMinus1 afterWidth isWidth ready left
    apply (readU16_agrees ready).bind
    intro height heightMinus1 afterHeight isHeight ready left
    dsimp only
    rw [pixels_eq isWidth, pixels_eq isHeight]
    exact agrees_return rfl ready (by omega)
  · rw [if_neg resolutionPresent, if_neg (mt isPresent.mpr resolutionPresent)]
    exact agrees_return rfl ready (by omega)

theorem readAfterNumber_agrees (frameNumber : UInt16) (ready : reader.Ready)
    (moreFields : 3 < reader.bytes.length) (started : 0 < reader.position) :
    readAfterNumber (some frameNumber) reader =
      okOr ((extendedDescriptorFields frameNumber reader.remaining).map
        Prod.fst) .outOfBounds := by
  have enough : reader.bitsLeft < 8 * reader.bytes.length := by
    unfold bitsLeft
    omega
  unfold readAfterNumber extendedDescriptorFields
  rw [if_neg (Nat.ne_of_gt moreFields)]
  apply (readU8_agrees (by decide) (by decide) ready).bind_return
  intro present flag afterFlag isNumber ready left
  rw [readBits_dropped, readBits_dropped, readBits_dropped]
  apply (skipMany_agrees (by decide) (by decide) 4 ready).bind_return
  intro _ _ afterFlags _ ready left
  have isPresent : present = 1 ↔ flag = 1 := by
    rw [← UInt8.toNat_inj, isNumber]
    rfl
  dsimp only
  by_cases structurePresent : present = 1
  · rw [if_pos structurePresent, if_pos (isPresent.mp structurePresent)]
    apply (readStructure_agrees ready (by omega)).bind_return
    rintro resolution _ last rfl ready left
    rfl
  · rw [if_neg structurePresent, if_neg (mt isPresent.mpr structurePresent)]
    rfl

/-- The frame number lies behind the first byte. -/
theorem mandatoryDescriptorFields_eq {bytes : Bytes}
    (longEnough : rtpDependencyDescriptorMinLen ≤ bytes.length) :
    mandatoryDescriptorFields (bitList bytes) =
      some (fromBigEndian ((bytes.drop 1).take 2),
        bitList (bytes.drop 3)) := by
  have isLongEnough : 3 ≤ bytes.length := longEnough
  have parts : bytes =
      bytes.take 1 ++ ((bytes.drop 1).take 2 ++ bytes.drop 3) := by
    have later := List.take_append_drop 2 (bytes.drop 1)
    rw [List.drop_drop] at later
    rw [later, List.take_append_drop]
  have first : (bitList (bytes.take 1)).length = 8 := by
    rw [length_bitList, List.length_take]
    omega
  have number : (bitList ((bytes.drop 1).take 2)).length = 16 := by
    rw [length_bitList, List.length_take, List.length_drop]
    omega
  unfold mandatoryDescriptorFields
  rw [readBits_dropped, readBits_dropped, bitParser_bind]
  nth_rewrite 1 [parts]
  rw [bitList_append, readBits_append _ first, Option.bind_some,
    bitList_append, readBits_append _ number, numberOf_bitList]

theorem ready_at {bytes : Bytes} {index : Nat} (nonempty : bytes.length ≠ 0)
    (inside : index ≤ bytes.length) : Ready ⟨bytes, index, 0⟩ where
  nonempty := nonempty
  offset := Nat.zero_lt_succ 7
  inside := by
    unfold position
    dsimp only
    omega

theorem read_agrees {bytes : Bytes} (longEnough : 3 ≤ bytes.length) :
    (new bytes).read = okOr (parse bytes) .outOfBounds := by
  have ready : Ready ⟨bytes, 3, 0⟩ := ready_at (by omega) longEnough
  have remains : remaining ⟨bytes, 3, 0⟩ = bitList (bytes.drop 3) :=
    drop_bitList bytes 3
  unfold parse dependencyDescriptor
  rw [read_eq longEnough, bitParser_bind,
    mandatoryDescriptorFields_eq longEnough, Option.bind_some, ← remains]
  dsimp only
  by_cases moreFields : 3 < bytes.length
  · rw [if_pos moreFields]
    exact readAfterNumber_agrees _ ready moreFields (Nat.zero_lt_succ 23)
  · have exactly : bytes.length = 3 := by omega
    rw [if_neg moreFields]
    unfold readAfterNumber
    rw [if_pos exactly]
    rfl

end DependencyDescriptorReader

end CallingService.Backend.Rtp
