import CallingService.Backend.Rtp.HeaderWalk

/-!
# Dependency descriptors with another frame number

The frame number lies in the second and third byte.  What follows it is read
without looking back, so that a descriptor whose number has been replaced
reads as before, with the new number.
-/

namespace CallingService.Backend.Rtp

open Foundation

namespace DependencyDescriptorReader

/-- Two readers at the same place, with the same bytes ahead of them. -/
structure Aligned (reader other : DependencyDescriptorReader) : Prop where
  byteIndex : other.byteIndex = reader.byteIndex
  bitOffset : other.bitOffset = reader.bitOffset
  length : other.bytes.length = reader.bytes.length
  ahead : ∀ index, reader.byteIndex ≤ index →
    other.bytes[index]? = reader.bytes[index]?

/-- The same value from aligned readers, or the same failure. -/
inductive SameOutcome {α : Type} :
    Except ReadFailure (α × DependencyDescriptorReader) →
      Except ReadFailure (α × DependencyDescriptorReader) → Prop where
  | read (value : α) {next other : DependencyDescriptorReader} :
      Aligned next other → SameOutcome (.ok (value, next)) (.ok (value, other))
  | failed (failure : ReadFailure) :
      SameOutcome (.error failure) (.error failure)

variable {α β : Type} {reader other : DependencyDescriptorReader}

theorem SameOutcome.bind
    {outcome another : Except ReadFailure (α × DependencyDescriptorReader)}
    {rest : α × DependencyDescriptorReader →
      Except ReadFailure (β × DependencyDescriptorReader)}
    (same : SameOutcome outcome another)
    (continues : ∀ value next later, Aligned next later →
      SameOutcome (rest (value, next)) (rest (value, later))) :
    SameOutcome (outcome >>= rest) (another >>= rest) := by
  cases same with
  | read value aligned => exact continues value _ _ aligned
  | failed failure => exact .failed failure

/-- What is made of the value of a read does not depend on the reader. -/
theorem SameOutcome.value_eq
    {outcome another : Except ReadFailure (α × DependencyDescriptorReader)}
    {rest : α × DependencyDescriptorReader → Except ReadFailure β}
    (same : SameOutcome outcome another)
    (continues : ∀ value next later, Aligned next later →
      rest (value, next) = rest (value, later)) :
    (outcome >>= rest) = (another >>= rest) := by
  cases same with
  | read value aligned => exact continues value _ _ aligned
  | failed failure => rfl

section Aligned

variable (aligned : Aligned reader other)
include aligned

theorem Aligned.byteAt {index : Nat} (ahead : reader.byteIndex ≤ index) :
    other.byteAt index = reader.byteAt index := by
  unfold DependencyDescriptorReader.byteAt
  rw [aligned.ahead index ahead]

theorem Aligned.readU8 (bits : Nat) :
    SameOutcome (readU8 bits reader) (readU8 bits other) := by
  have current := aligned.byteAt (Nat.le_refl reader.byteIndex)
  have following := aligned.byteAt (Nat.le_succ reader.byteIndex)
  have behind : ∀ index, reader.byteIndex + 1 ≤ index →
      other.bytes[index]? = reader.bytes[index]? :=
    fun index inside => aligned.ahead index (Nat.le_of_succ_le inside)
  unfold DependencyDescriptorReader.readU8
  rw [aligned.length, aligned.byteIndex, aligned.bitOffset, current]
  split
  · exact .failed _
  · split
    · exact .failed _
    · dsimp only
      split
      · exact .failed _
      · split
        · cases reader.byteAt reader.byteIndex with
          | error failure => exact .failed failure
          | ok byte =>
              rw [ok_bind, ok_bind, following]
              split
              · cases reader.byteAt (reader.byteIndex + 1) with
                | error failure => exact .failed failure
                | ok second =>
                    exact .read _ ⟨rfl, rfl, aligned.length, behind⟩
              · exact .read _ ⟨rfl, rfl, aligned.length, behind⟩
        · cases reader.byteAt reader.byteIndex with
          | error failure => exact .failed failure
          | ok byte =>
              exact .read _ ⟨rfl, rfl, aligned.length, aligned.ahead⟩

theorem Aligned.readU16 : SameOutcome (readU16 reader) (readU16 other) := by
  apply (aligned.readU8 8).bind
  intro upper next later nextAligned
  apply (nextAligned.readU8 8).bind
  intro lower last latest lastAligned
  exact .read _ lastAligned

theorem Aligned.skipMany (bits count : Nat) :
    SameOutcome (skipMany bits count reader) (skipMany bits count other) := by
  induction count generalizing reader other with
  | zero => exact .read () aligned
  | succ count ih =>
      apply (aligned.readU8 bits).bind
      intro value next later nextAligned
      exact ih nextAligned

theorem Aligned.countTemplates (fuel count : Nat) :
    SameOutcome (countTemplates fuel count reader)
      (countTemplates fuel count other) := by
  induction fuel generalizing count reader other with
  | zero => exact .failed _
  | succ fuel ih =>
      apply (aligned.readU8 2).bind
      intro layer next later nextAligned
      dsimp only
      split
      · exact .read count nextAligned
      · exact ih nextAligned (count + 1)

theorem Aligned.skipFdiffs (fuel : Nat) :
    SameOutcome (skipFdiffs fuel reader) (skipFdiffs fuel other) := by
  induction fuel generalizing reader other with
  | zero => exact .failed _
  | succ fuel ih =>
      apply (aligned.readU8 1).bind
      intro follows next later nextAligned
      dsimp only
      split
      · apply (nextAligned.readU8 4).bind
        intro value last latest lastAligned
        exact ih lastAligned
      · exact .read () nextAligned

theorem Aligned.skipTemplateFdiffs (fuel templates : Nat) :
    SameOutcome (skipTemplateFdiffs fuel templates reader)
      (skipTemplateFdiffs fuel templates other) := by
  induction templates generalizing reader other with
  | zero => exact .read () aligned
  | succ templates ih =>
      apply (aligned.skipFdiffs fuel).bind
      intro value next later nextAligned
      exact ih nextAligned

theorem Aligned.skipNonSymmetric (n : Nat) :
    SameOutcome (skipNonSymmetric n reader) (skipNonSymmetric n other) := by
  unfold DependencyDescriptorReader.skipNonSymmetric
  generalize (if n = 0 then 0 else Nat.log2 n + 1) = width
  apply (aligned.readU8 _).bind
  intro value next later nextAligned
  dsimp only
  split
  · exact .read () nextAligned
  · apply (nextAligned.readU8 1).bind
    intro extra last latest lastAligned
    exact .read () lastAligned

theorem Aligned.readStructure (fuel : Nat) :
    SameOutcome (readStructure fuel reader) (readStructure fuel other) := by
  apply (aligned.readU8 6).bind
  intro offset _ _ afterOffset
  apply (afterOffset.readU8 5).bind
  intro targets _ _ afterTargets
  apply (afterTargets.countTemplates fuel 1).bind
  intro templateCnt _ _ afterLayers
  apply (afterLayers.skipMany 2 _).bind
  intro _ _ _ afterDtis
  apply (afterDtis.skipTemplateFdiffs fuel templateCnt).bind
  intro _ _ _ afterFdiffs
  apply (afterFdiffs.skipNonSymmetric _).bind
  intro _ _ _ afterChains
  apply (afterChains.readU8 1).bind
  intro present _ _ afterFlag
  dsimp only
  split
  · apply afterFlag.readU16.bind
    intro width _ _ afterWidth
    apply afterWidth.readU16.bind
    intro height _ _ afterHeight
    exact .read _ afterHeight
  · exact .read none afterFlag

theorem Aligned.readAfterNumber (frameNumber : Option UInt16) :
    readAfterNumber frameNumber reader = readAfterNumber frameNumber other := by
  unfold DependencyDescriptorReader.readAfterNumber
  rw [aligned.length]
  split
  · rfl
  · apply (aligned.readU8 1).value_eq
    intro present _ _ afterFlag
    apply (afterFlag.skipMany 1 4).value_eq
    intro _ _ _ afterFlags
    dsimp only
    split
    · apply (afterFlags.readStructure _).value_eq
      intro resolution _ _ _
      rfl
    · rfl

end Aligned

/-! ## The frame number -/

/-- The number is only passed on. -/
theorem readAfterNumber_number (frameNumber : Option UInt16)
    (reader : DependencyDescriptorReader) :
    readAfterNumber frameNumber reader =
      (readAfterNumber none reader).map
        ({ · with truncatedFrameNumber := frameNumber }) := by
  unfold readAfterNumber
  split
  · rfl
  · cases readU8 1 reader with
    | error failure => rfl
    | ok first =>
        obtain ⟨present, afterFlag⟩ := first
        rw [ok_bind, ok_bind]
        dsimp only
        cases skipMany 1 4 afterFlag with
        | error failure => rfl
        | ok flags =>
            rw [ok_bind, ok_bind]
            split
            · cases readStructure _ flags.2 with
              | error failure => rfl
              | ok found => rfl
            · rfl

/-- A whole byte at the start of a byte. -/
theorem readU8_byte {bytes : Bytes} {index : Nat}
    (inside : index < bytes.length) :
    readU8 8 ⟨bytes, index, 0⟩ =
      .ok (bytes[index], ⟨bytes, index + 1, 0⟩) := by
  have isByte : byteAt ⟨bytes, index, 0⟩ index = .ok bytes[index] := by
    unfold byteAt
    rw [List.getElem?_eq_getElem inside]
  unfold readU8
  dsimp only
  rw [if_neg (by decide), if_neg (by omega), if_neg (by omega),
    if_pos (by decide), isByte, ok_bind, if_neg (by decide)]
  simp [pure, Except.pure]

theorem readU16_number {bytes : Bytes}
    (longEnough : rtpDependencyDescriptorMinLen ≤ bytes.length) :
    readU16 ⟨bytes, 1, 0⟩ =
      .ok ((fromBigEndian ((bytes.drop 1).take 2)).toUInt16,
        ⟨bytes, 3, 0⟩) := by
  have first : 1 < bytes.length := Nat.lt_of_lt_of_le (by decide) longEnough
  have second : 2 < bytes.length := Nat.lt_of_lt_of_le (by decide) longEnough
  have number : (bytes.drop 1).take 2 = [bytes[1], bytes[2]] := by
    rw [List.drop_eq_getElem_cons first, List.drop_eq_getElem_cons second]
    rfl
  have inOrder : fromBigEndian [bytes[1], bytes[2]] =
      bytes[1].toNat * 256 + bytes[2].toNat := by
    simp [fromBigEndian]
  unfold readU16
  rw [readU8_byte first, ok_bind]
  dsimp only
  rw [readU8_byte second, number, inOrder]
  rfl

theorem read_eq {bytes : Bytes}
    (longEnough : rtpDependencyDescriptorMinLen ≤ bytes.length) :
    (new bytes).read = readAfterNumber
      (some (fromBigEndian ((bytes.drop 1).take 2)).toUInt16)
      ⟨bytes, 3, 0⟩ := by
  unfold DependencyDescriptorReader.read new
  dsimp only
  rw [readU16_number longEnough]

end DependencyDescriptorReader

open DependencyDescriptorReader

/-- What a descriptor extension says. -/
def describedBy (value : Bytes) : DependencyDescriptor :=
  match (DependencyDescriptorReader.new value).read with
  | .ok descriptor => descriptor
  | .error _ => ⟨false, none, none⟩

theorem readDescriptor_eq {value : Bytes}
    (longEnough : rtpDependencyDescriptorMinLen ≤ value.length) :
    readDescriptor value = .ok (describedBy value) := by
  have nonempty : value.length ≠ 0 := by
    have three : 0 < rtpDependencyDescriptorMinLen := by decide
    omega
  have noPanic := read_noPanic nonempty
  unfold readDescriptor describedBy
  cases outcome : (DependencyDescriptorReader.new value).read with
  | ok descriptor => rfl
  | error failure =>
      cases failure with
      | outOfBounds => rfl
      | panic cause => exact absurd outcome (noPanic cause)

/-- Only the frame number of a descriptor that can be read depends on the
second and third byte. -/
theorem describedBy_rewritten {value rewritten : Bytes}
    (longEnough : rtpDependencyDescriptorMinLen ≤ value.length)
    (sameLength : rewritten.length = value.length)
    (ahead : ∀ index, 3 ≤ index → rewritten[index]? = value[index]?) :
    describedBy rewritten = { describedBy value with
      truncatedFrameNumber := (describedBy value).truncatedFrameNumber.map
        fun _ => (fromBigEndian ((rewritten.drop 1).take 2)).toUInt16 } := by
  have aligned : Aligned ⟨value, 3, 0⟩ ⟨rewritten, 3, 0⟩ :=
    ⟨rfl, rfl, sameLength, ahead⟩
  have same := aligned.readAfterNumber none
  have read := read_eq longEnough
  rw [readAfterNumber_number] at read
  rw [← sameLength] at longEnough
  have readAgain := read_eq longEnough
  rw [readAfterNumber_number, ← same] at readAgain
  unfold describedBy
  rw [read, readAgain]
  cases readAfterNumber none ⟨value, 3, 0⟩ with
  | error failure => rfl
  | ok descriptor => rfl

/-- A descriptor of a key frame can be read, its frame number included. -/
theorem isSome_number_of_keyFrame {value : Bytes}
    (longEnough : rtpDependencyDescriptorMinLen ≤ value.length)
    (isKeyFrame : (describedBy value).isKeyFrame = true) :
    (describedBy value).truncatedFrameNumber.isSome := by
  have read := read_eq longEnough
  rw [readAfterNumber_number] at read
  unfold describedBy at isKeyFrame ⊢
  rw [read] at isKeyFrame ⊢
  cases outcome : readAfterNumber none ⟨value, 3, 0⟩ with
  | error failure =>
      rw [outcome] at isKeyFrame
      cases isKeyFrame
  | ok descriptor => rfl

end CallingService.Backend.Rtp
