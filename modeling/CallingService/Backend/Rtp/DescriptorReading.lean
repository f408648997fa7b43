import CallingService.Backend.Rtp.DependencyDescriptor

/-!
# Reading a dependency descriptor never panics

Every read of the bit reader stays inside the bytes it was given, or reports
that it would not, and moves forward by the bits it has read.  The loops of
the reader end because each round moves forward.
-/

namespace CallingService.Backend.Rtp

open Foundation

namespace DependencyDescriptorReader

/-- The number of bits before the next one. -/
def position (reader : DependencyDescriptorReader) : Nat :=
  8 * reader.byteIndex + reader.bitOffset

def bitsLeft (reader : DependencyDescriptorReader) : Nat :=
  8 * reader.bytes.length - reader.position

/-- The reader has moved over some bits of its bytes. -/
structure MovedOver (bits : Nat) (reader next : DependencyDescriptorReader) :
    Prop where
  sameBytes : next.bytes = reader.bytes
  offset : next.bitOffset < 8
  moved : reader.position + bits ≤ next.position
  inside : next.position ≤ 8 * reader.bytes.length

/-- A read from here reports what is wrong instead of panicking, and moves
over some bits otherwise. -/
structure Reads {α : Type} (bits : Nat) (reader : DependencyDescriptorReader)
    (outcome : Except ReadFailure (α × DependencyDescriptorReader)) :
    Prop where
  noPanic : ∀ cause, outcome ≠ .error (.panic cause)
  moves : ∀ value next, outcome = .ok (value, next) →
    MovedOver bits reader next

/-- There are bytes, and the next bit is one of them or just behind them. -/
structure Ready (reader : DependencyDescriptorReader) : Prop where
  nonempty : reader.bytes.length ≠ 0
  offset : reader.bitOffset < 8
  inside : reader.position ≤ 8 * reader.bytes.length

variable {α β : Type} {bits first second : Nat}
  {reader next : DependencyDescriptorReader}

theorem MovedOver.ready (moved : MovedOver bits reader next)
    (ready : reader.Ready) : next.Ready where
  nonempty := by
    rw [moved.sameBytes]
    exact ready.nonempty
  offset := moved.offset
  inside := by
    rw [moved.sameBytes]
    exact moved.inside

theorem MovedOver.bitsLeft_le (moved : MovedOver bits reader next) :
    next.bitsLeft + bits ≤ reader.bitsLeft := by
  have further := moved.moved
  have inside := moved.inside
  unfold bitsLeft
  rw [moved.sameBytes]
  omega

theorem MovedOver.trans {last : DependencyDescriptorReader}
    (before : MovedOver first reader next)
    (after : MovedOver second next last) :
    MovedOver (first + second) reader last where
  sameBytes := after.sameBytes.trans before.sameBytes
  offset := after.offset
  moved := by
    have further := before.moved
    have furtherStill := after.moved
    omega
  inside := by
    have inside := after.inside
    rw [before.sameBytes] at inside
    exact inside

variable {outcome : Except ReadFailure (α × DependencyDescriptorReader)}

theorem Reads.weaken (reads : Reads first reader outcome)
    (fewer : second ≤ first) :
    Reads second reader outcome where
  noPanic := reads.noPanic
  moves := by
    intro value next returned
    have moved := reads.moves value next returned
    have further := moved.moved
    exact ⟨moved.sameBytes, moved.offset, by omega, moved.inside⟩

theorem Reads.bind {rest : α × DependencyDescriptorReader →
      Except ReadFailure (β × DependencyDescriptorReader)}
    (reads : Reads first reader outcome)
    (continues : ∀ value next, MovedOver first reader next →
      Reads second next (rest (value, next))) :
    Reads (first + second) reader (outcome >>= rest) where
  noPanic := by
    intro cause failed
    rcases bind_eq_error_iff.mp failed with atOnce | ⟨middle, returned, later⟩
    · exact reads.noPanic cause atOnce
    · obtain ⟨value, next⟩ := middle
      have moved := reads.moves value next returned
      exact (continues value next moved).noPanic cause later
  moves := by
    intro result last returned
    obtain ⟨middle, read, later⟩ := bind_eq_ok_iff.mp returned
    obtain ⟨value, next⟩ := middle
    have before := reads.moves value next read
    exact before.trans ((continues value next before).moves result last later)

/-- What follows a read is again a read. -/
theorem Reads.andThen {rest : α × DependencyDescriptorReader →
      Except ReadFailure (β × DependencyDescriptorReader)}
    (ready : reader.Ready) (reads : Reads bits reader outcome)
    (continues : ∀ value next, next.Ready → Reads 0 next (rest (value, next))) :
    Reads 0 reader (outcome >>= rest) := by
  have together : Reads (bits + 0) reader (outcome >>= rest) := by
    apply reads.bind
    intro value next moved
    exact continues value next (moved.ready ready)
  exact together.weaken (Nat.zero_le _)

/-- Only what follows from where a read leads matters. -/
theorem Reads.bind_congr
    {rest another : α × DependencyDescriptorReader → Except ReadFailure β}
    (reads : Reads bits reader outcome)
    (same : ∀ value next, MovedOver bits reader next →
      rest (value, next) = another (value, next)) :
    (outcome >>= rest) = (outcome >>= another) := by
  cases read : outcome with
  | error failure => rfl
  | ok middle =>
      obtain ⟨value, next⟩ := middle
      exact same value next (reads.moves value next read)

theorem reads_return (ready : reader.Ready) (value : α) :
    Reads 0 reader (.ok (value, reader)) where
  noPanic := by
    intro cause failed
    cases failed
  moves := by
    rintro _ _ ⟨⟩
    exact ⟨rfl, ready.offset, Nat.le_refl _, ready.inside⟩

theorem reads_failed :
    Reads bits reader (.error .outOfBounds : Except ReadFailure
      (α × DependencyDescriptorReader)) where
  noPanic := by
    intro cause failed
    cases failed
  moves := by
    intro value next returned
    cases returned

/-! ## One read -/

theorem byteAt_of_lt {index : Nat} (inside : index < reader.bytes.length) :
    reader.byteAt index = .ok reader.bytes[index] := by
  unfold byteAt
  rw [List.getElem?_eq_getElem inside]

theorem readU8_reads (some : 0 < bits) (atMostByte : bits ≤ 8)
    (ready : reader.Ready) : Reads bits reader (readU8 bits reader) := by
  have nonempty := ready.nonempty
  have offset := ready.offset
  unfold readU8
  rw [if_neg (by omega), if_neg nonempty]
  dsimp only
  split
  · exact reads_failed
  · rename_i within
    rw [byteAt_of_lt (by omega)]
    split
    · rename_i crosses
      rw [ok_bind]
      split
      · rw [byteAt_of_lt (by omega)]
        constructor
        · intro cause failed
          cases failed
        · rintro _ _ ⟨⟩
          refine ⟨rfl, Nat.mod_lt _ (by decide), ?_, ?_⟩
          · simp only [position]
            omega
          · simp only [position]
            omega
      · constructor
        · intro cause failed
          cases failed
        · rintro _ _ ⟨⟩
          refine ⟨rfl, Nat.mod_lt _ (by decide), ?_, ?_⟩
          · simp only [position]
            omega
          · simp only [position]
            omega
    · constructor
      · intro cause failed
        cases failed
      · rintro _ _ ⟨⟩
        refine ⟨rfl, ?_, ?_, ?_⟩
        · dsimp only
          omega
        · simp only [position]
          omega
        · simp only [position]
          omega

/-! ## Sequences and loops of reads -/

theorem readU16_reads (ready : reader.Ready) :
    Reads 0 reader (readU16 reader) := by
  unfold readU16
  apply (readU8_reads (by decide) (by decide) ready).andThen ready
  intro upper afterUpper upperReady
  apply (readU8_reads (by decide) (by decide) upperReady).andThen upperReady
  intro lower afterLower lowerReady
  exact reads_return lowerReady _

theorem skipMany_reads (some : 0 < bits) (atMostByte : bits ≤ 8)
    (count : Nat) (ready : reader.Ready) :
    Reads 0 reader (skipMany bits count reader) := by
  induction count generalizing reader with
  | zero => exact reads_return ready ()
  | succ count ih =>
      unfold skipMany
      apply (readU8_reads some atMostByte ready).andThen ready
      intro value next nextReady
      exact ih nextReady

theorem countTemplates_reads (fuel count : Nat) (ready : reader.Ready) :
    Reads 0 reader (countTemplates fuel count reader) := by
  induction fuel generalizing count reader with
  | zero => exact reads_failed
  | succ fuel ih =>
      unfold countTemplates
      apply (readU8_reads (by decide) (by decide) ready).andThen ready
      intro layer next nextReady
      dsimp only
      split
      · exact reads_return nextReady count
      · exact ih (count + 1) nextReady

theorem skipFdiffs_reads (fuel : Nat) (ready : reader.Ready) :
    Reads 0 reader (skipFdiffs fuel reader) := by
  induction fuel generalizing reader with
  | zero => exact reads_failed
  | succ fuel ih =>
      unfold skipFdiffs
      apply (readU8_reads (by decide) (by decide) ready).andThen ready
      intro follows next nextReady
      dsimp only
      split
      · apply (readU8_reads (by decide) (by decide) nextReady).andThen nextReady
        intro difference later laterReady
        exact ih laterReady
      · exact reads_return nextReady ()

theorem skipTemplateFdiffs_reads (fuel templates : Nat)
    (ready : reader.Ready) :
    Reads 0 reader (skipTemplateFdiffs fuel templates reader) := by
  induction templates generalizing reader with
  | zero => exact reads_return ready ()
  | succ templates ih =>
      unfold skipTemplateFdiffs
      apply (skipFdiffs_reads fuel ready).andThen ready
      intro value next nextReady
      exact ih nextReady

theorem skipNonSymmetric_reads {n : Nat} (atLeastTwo : 2 ≤ n)
    (small : n < 512) (ready : reader.Ready) :
    Reads 0 reader (skipNonSymmetric n reader) := by
  have positive : n ≠ 0 := by omega
  have lower : 1 ≤ Nat.log2 n := (Nat.le_log2 positive).mpr atLeastTwo
  have upper : Nat.log2 n < 9 := (Nat.log2_lt positive).mpr small
  unfold skipNonSymmetric
  dsimp only
  rw [if_neg positive, Nat.add_sub_cancel]
  apply (readU8_reads lower (by omega) ready).andThen ready
  intro value next nextReady
  dsimp only
  split
  · exact reads_return nextReady ()
  · apply (readU8_reads (by decide) (by decide) nextReady).andThen nextReady
    intro extra later laterReady
    exact reads_return laterReady ()

theorem readStructure_reads (fuel : Nat) (ready : reader.Ready) :
    Reads 0 reader (readStructure fuel reader) := by
  unfold readStructure
  apply (readU8_reads (by decide) (by decide) ready).andThen ready
  intro _ afterOffset ready
  apply (readU8_reads (by decide) (by decide) ready).andThen ready
  intro targets afterTargets ready
  have fewTargets := targets.toNat_lt
  apply (countTemplates_reads fuel 1 ready).andThen ready
  intro templateCnt afterLayers ready
  apply (skipMany_reads (by decide) (by decide) _ ready).andThen ready
  intro _ afterDtis ready
  apply (skipTemplateFdiffs_reads fuel templateCnt ready).andThen ready
  intro _ afterFdiffs ready
  apply (skipNonSymmetric_reads (by omega) (by omega) ready).andThen ready
  intro _ afterChains ready
  apply (readU8_reads (by decide) (by decide) ready).andThen ready
  intro present afterFlag ready
  dsimp only
  split
  · apply (readU16_reads ready).andThen ready
    intro width afterWidth ready
    apply (readU16_reads ready).andThen ready
    intro height afterHeight ready
    exact reads_return ready _
  · exact reads_return ready none

theorem readAfterNumber_noPanic (frameNumber : Option UInt16)
    (ready : reader.Ready) (cause : Panic) :
    readAfterNumber frameNumber reader ≠ .error (.panic cause) := by
  unfold readAfterNumber
  split
  · intro failed
    cases failed
  · intro failed
    have presentReads : Reads 1 reader (readU8 1 reader) :=
      readU8_reads (by decide) (by decide) ready
    rcases bind_eq_error_iff.mp failed with atFlag | ⟨flag, readFlag, failed⟩
    · exact presentReads.noPanic cause atFlag
    · obtain ⟨present, afterFlag⟩ := flag
      have flagReady := (presentReads.moves _ _ readFlag).ready ready
      have flagsRead : Reads 0 afterFlag (skipMany 1 4 afterFlag) :=
        skipMany_reads (by decide) (by decide) 4 flagReady
      rcases bind_eq_error_iff.mp failed with atFlags | ⟨flags, skipped, failed⟩
      · exact flagsRead.noPanic cause atFlags
      · obtain ⟨_, afterFlags⟩ := flags
        have ready := (flagsRead.moves _ _ skipped).ready flagReady
        dsimp only at failed
        split at failed
        · have structureRead :=
            readStructure_reads (8 * reader.bytes.length) ready
          rcases bind_eq_error_iff.mp failed with inside | ⟨_, _, returned⟩
          · exact structureRead.noPanic cause inside
          · cases returned
        · cases failed

/-- Whatever the bytes are, reading them does not panic. -/
theorem read_noPanic {bytes : Bytes} (nonempty : bytes.length ≠ 0)
    (cause : Panic) : (new bytes).read ≠ .error (.panic cause) := by
  have ready : ({ new bytes with byteIndex := 1 } :
      DependencyDescriptorReader).Ready := {
    nonempty := nonempty
    offset := Nat.zero_lt_succ 7
    inside := by
      have positive := Nat.pos_of_ne_zero nonempty
      simp only [position, new]
      omega }
  have numberReads := readU16_reads ready
  have halfReads : Reads 8 _ (readU8 8 _) :=
    readU8_reads (by decide) (by decide) ready
  unfold read
  dsimp only
  split
  · rename_i number next isRead
    have moved := numberReads.moves _ _ isRead
    exact readAfterNumber_noPanic _ (moved.ready ready) cause
  · rename_i other failed
    exact absurd failed (numberReads.noPanic other)
  · split
    · rename_i half next isRead
      have moved := halfReads.moves _ _ isRead
      exact readAfterNumber_noPanic _ (moved.ready ready) cause
    · rename_i other failed
      exact absurd failed (halfReads.noPanic other)
    · exact readAfterNumber_noPanic _ ready cause

/-! ## The loops end -/

variable {fuel more : Nat}

/-- Each layer takes two bits. -/
theorem countTemplates_fuel (count : Nat) (ready : reader.Ready)
    (enough : reader.bitsLeft < fuel) (enoughToo : reader.bitsLeft < more) :
    countTemplates fuel count reader = countTemplates more count reader := by
  induction fuel generalizing more count reader with
  | zero => exact absurd enough (Nat.not_lt_zero _)
  | succ fuel ih =>
      cases more with
      | zero => exact absurd enoughToo (Nat.not_lt_zero _)
      | succ more =>
          unfold countTemplates
          have layerReads : Reads 2 reader (readU8 2 reader) :=
            readU8_reads (by decide) (by decide) ready
          apply layerReads.bind_congr
          intro layer next moved
          have fewer := moved.bitsLeft_le
          dsimp only
          split
          · rfl
          · exact ih (count + 1) (moved.ready ready) (by omega) (by omega)

/-- Each difference takes five bits. -/
theorem skipFdiffs_fuel (ready : reader.Ready) (enough : reader.bitsLeft < fuel)
    (enoughToo : reader.bitsLeft < more) :
    skipFdiffs fuel reader = skipFdiffs more reader := by
  induction fuel generalizing more reader with
  | zero => exact absurd enough (Nat.not_lt_zero _)
  | succ fuel ih =>
      cases more with
      | zero => exact absurd enoughToo (Nat.not_lt_zero _)
      | succ more =>
          unfold skipFdiffs
          have flagReads : Reads 1 reader (readU8 1 reader) :=
            readU8_reads (by decide) (by decide) ready
          apply flagReads.bind_congr
          intro follows next moved
          have fewer := moved.bitsLeft_le
          have nextReady := moved.ready ready
          dsimp only
          split
          · have differenceReads : Reads 4 next (readU8 4 next) :=
              readU8_reads (by decide) (by decide) nextReady
            apply differenceReads.bind_congr
            intro difference later movedOn
            have fewerStill := movedOn.bitsLeft_le
            dsimp only
            exact ih (movedOn.ready nextReady) (by omega) (by omega)
          · rfl

theorem skipTemplateFdiffs_fuel (templates : Nat) (ready : reader.Ready)
    (enough : reader.bitsLeft < fuel) (enoughToo : reader.bitsLeft < more) :
    skipTemplateFdiffs fuel templates reader =
      skipTemplateFdiffs more templates reader := by
  induction templates generalizing reader with
  | zero => rfl
  | succ templates ih =>
      unfold skipTemplateFdiffs
      rw [skipFdiffs_fuel ready enough enoughToo]
      apply (skipFdiffs_reads more ready).bind_congr
      intro value next moved
      have fewer := moved.bitsLeft_le
      exact ih (moved.ready ready) (by omega) (by omega)

/-- More fuel than bits changes nothing: the loops of the source end. -/
theorem readStructure_fuel (ready : reader.Ready)
    (enough : reader.bitsLeft < fuel) (enoughToo : reader.bitsLeft < more) :
    readStructure fuel reader = readStructure more reader := by
  unfold readStructure
  apply (readU8_reads (by decide) (by decide) ready).bind_congr
  intro _ afterOffset moved
  have left := moved.bitsLeft_le
  have ready := moved.ready ready
  apply (readU8_reads (by decide) (by decide) ready).bind_congr
  intro targets afterTargets moved
  have left := moved.bitsLeft_le
  have ready := moved.ready ready
  dsimp only
  rw [countTemplates_fuel 1 ready (by omega : _ < fuel) (by omega : _ < more)]
  apply (countTemplates_reads more 1 ready).bind_congr
  intro templateCnt afterLayers moved
  have left := moved.bitsLeft_le
  have ready := moved.ready ready
  apply (skipMany_reads (by decide) (by decide) _ ready).bind_congr
  intro _ afterDtis moved
  have left := moved.bitsLeft_le
  have ready := moved.ready ready
  dsimp only
  rw [skipTemplateFdiffs_fuel templateCnt ready (by omega : _ < fuel)
    (by omega : _ < more)]

end DependencyDescriptorReader

end CallingService.Backend.Rtp
