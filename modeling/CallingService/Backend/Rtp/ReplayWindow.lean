import CallingService.Backend.Rtp.ReuseDetector
import Mathlib.Data.Finset.Lattice.Fold
import Mathlib.Order.Lattice.Nat

/-!
# The replay window against a set of numbers

The reference remembers every number it has been given.  It answers for the
last 128 numbers up to the largest one, and only says that what lies below is
too old.  The detector with its mask of 128 bits gives the same answers.
-/

namespace CallingService.Backend.Rtp

/-- The first of the 128 numbers that end at the largest seen one, or at 127
at least. -/
def windowStart (seen : Finset Nat) : Nat := max 127 (seen.sup id) - 127

def referenceAnswer (seen : Finset Nat) (seqnum : Nat) : SequenceNumberReuse :=
  if seqnum < windowStart seen then
    .tooOldToKnow (windowStart seen - seqnum)
  else if seqnum ∈ seen then .usedBefore
  else .notUsedBefore

/-- The answers of the reference that has seen some numbers already. -/
def referenceAnswers (seen : Finset Nat) :
    List UInt64 → List SequenceNumberReuse
  | [] => []
  | seqnum :: rest =>
      referenceAnswer seen seqnum.toNat ::
        referenceAnswers (insert seqnum.toNat seen) rest

theorem sup_insert_seen (seen : Finset Nat) (seqnum : Nat) :
    (insert seqnum seen).sup id = max seqnum (seen.sup id) := by
  simp [Finset.sup_insert]

variable {seen : Finset Nat} {seqnum : Nat}

theorem le_sup_seen (member : seqnum ∈ seen) : seqnum ≤ seen.sup id :=
  Finset.le_sup (f := id) member

theorem getMsbD_setMsBit_eq {mask : BitVec 128} {index : Nat}
    (inside : index < 128) {place : Nat} (placeInside : place < 128) :
    (setMsBit mask index).getMsbD place =
      (mask.getMsbD place || decide (place = index)) := by
  have oneBit : (1#128 <<< (128 - index - 1)).getMsbD place =
      decide (place = index) := by
    rw [BitVec.getMsbD_shiftLeft, BitVec.getMsbD, BitVec.getLsbD_one]
    by_cases same : place = index
    · subst same
      simp only [decide_true]
      simp
      omega
    · simp only [same, decide_false]
      simp
      omega
  unfold setMsBit
  rw [BitVec.getMsbD_or, oneBit]

namespace SequenceNumberReuseDetector

/-- The answers of the detector to a sequence of numbers. -/
def answers (detector : SequenceNumberReuseDetector) :
    List UInt64 → List SequenceNumberReuse
  | [] => []
  | seqnum :: rest =>
      (detector.rememberUsed seqnum.toNat).2 ::
        (detector.rememberUsed seqnum.toNat).1.answers rest

/-- The window and the mask show the set of all numbers seen. -/
structure Represents (detector : SequenceNumberReuseDetector)
    (seen : Finset Nat) : Prop where
  first : detector.first = windowStart seen
  mask : ∀ place < 128,
    detector.mask.getMsbD place = decide (detector.first + place ∈ seen)
  small : ∀ seqnum ∈ seen, seqnum < 2 ^ 64

theorem represents_default : default.Represents ∅ where
  first := by
    have empty : (∅ : Finset Nat).sup id = 0 := Finset.sup_empty
    unfold windowStart
    rw [empty]
    rfl
  mask := by
    intro place _
    have empty : default.mask = 0#128 := rfl
    rw [empty, BitVec.getMsbD_zero]
    simp
  small := by simp

/-- The saturating shift moves the bits of the mask, however far. -/
theorem getMsbD_shifted (mask : BitVec 128) (distance place : Nat) :
    (if lastRelativeToFirst < distance then 0
      else mask <<< distance).getMsbD place =
      mask.getMsbD (place + distance) := by
  split
  · rename_i far
    unfold lastRelativeToFirst maskSize at far
    rw [BitVec.getMsbD_of_ge mask _ (by omega)]
    exact BitVec.getMsbD_zero
  · exact BitVec.getMsbD_shiftLeft _ _

variable {detector : SequenceNumberReuseDetector}

/-- A number before the window stays before it. -/
theorem Represents.rememberUsed_old (represents : detector.Represents seen)
    (small : seqnum < 2 ^ 64) (old : seqnum < detector.first) :
    (detector.rememberUsed seqnum).2 = referenceAnswer seen seqnum ∧
      (detector.rememberUsed seqnum).1.Represents (insert seqnum seen) := by
  have start := represents.first
  unfold rememberUsed
  rw [if_pos old]
  constructor
  · unfold referenceAnswer
    rw [← start, if_pos old]
  · refine ⟨?_, ?_, ?_⟩
    · rw [start]
      unfold windowStart at start ⊢
      rw [sup_insert_seen]
      omega
    · intro place inside
      have other : detector.first + place ≠ seqnum := by omega
      rw [represents.mask place inside]
      simp [other]
    · exact Finset.forall_mem_insert _ _ _ |>.mpr ⟨small, represents.small⟩

/-- A number behind the window moves the window up to it. -/
theorem Represents.rememberUsed_later (represents : detector.Represents seen)
    (small : seqnum < 2 ^ 64) (later : detector.first + 127 < seqnum) :
    (detector.rememberUsed seqnum).2 = referenceAnswer seen seqnum ∧
      (detector.rememberUsed seqnum).1.Represents (insert seqnum seen) := by
  have start := represents.first
  have unseen : ∀ number, detector.first + 127 < number → number ∉ seen := by
    intro number above member
    have below := le_sup_seen member
    unfold windowStart at start
    omega
  have notOld : ¬ seqnum < detector.first := by omega
  have last : min (detector.first + lastRelativeToFirst) (2 ^ 64 - 1) =
      detector.first + 127 := by
    unfold lastRelativeToFirst maskSize
    omega
  unfold rememberUsed
  rw [if_neg notOld, last]
  dsimp only
  rw [if_pos later]
  constructor
  · unfold referenceAnswer
    rw [← start, if_neg notOld, if_neg (unseen seqnum later)]
  · have moved : detector.first + (seqnum - (detector.first + 127)) =
        seqnum - 127 := by omega
    refine ⟨?_, ?_, ?_⟩
    · change detector.first + (seqnum - (detector.first + 127)) = _
      rw [moved]
      unfold windowStart at start ⊢
      rw [sup_insert_seen]
      omega
    · intro place inside
      change (setMsBit _ 127).getMsbD place = decide
        (detector.first + (seqnum - (detector.first + 127)) + place ∈ _)
      rw [getMsbD_setMsBit_eq (by omega) inside, getMsbD_shifted]
      by_cases isLast : place = 127
      · have isNumber : detector.first + (seqnum - (detector.first + 127)) +
            place = seqnum := by omega
        rw [isNumber]
        simp [isLast]
      · have other : detector.first + (seqnum - (detector.first + 127)) +
            place ≠ seqnum := by omega
        have regrouped : detector.first +
            (seqnum - (detector.first + 127)) + place = detector.first +
              (place + (seqnum - (detector.first + 127))) := by omega
        have sameBit : detector.mask.getMsbD
            (place + (seqnum - (detector.first + 127))) =
              decide (detector.first + (place +
                (seqnum - (detector.first + 127))) ∈ seen) := by
          by_cases stays : place + (seqnum - (detector.first + 127)) < 128
          · exact represents.mask _ stays
          · rw [BitVec.getMsbD_of_ge _ _ (by omega)]
            simpa using unseen _ (by omega)
        rw [sameBit]
        rw [← regrouped]
        simp [isLast, other]
    · exact Finset.forall_mem_insert _ _ _ |>.mpr ⟨small, represents.small⟩

theorem Represents.rememberUsed_inside (represents : detector.Represents seen)
    (small : seqnum < 2 ^ 64) (notOld : detector.first ≤ seqnum)
    (notLater : seqnum ≤ detector.first + 127) :
    (detector.rememberUsed seqnum).2 = referenceAnswer seen seqnum ∧
      (detector.rememberUsed seqnum).1.Represents (insert seqnum seen) := by
  have start := represents.first
  have atPlace : detector.first + (seqnum - detector.first) = seqnum := by
    omega
  have notBehind : ¬ min (detector.first + lastRelativeToFirst) (2 ^ 64 - 1) <
      seqnum := by
    unfold lastRelativeToFirst maskSize
    omega
  unfold rememberUsed
  rw [if_neg (Nat.not_lt.mpr notOld)]
  dsimp only
  rw [if_neg notBehind]
  constructor
  · unfold referenceAnswer
    rw [← start, if_neg (Nat.not_lt.mpr notOld),
      represents.mask _ (by omega), atPlace]
    simp
  · refine ⟨?_, ?_, ?_⟩
    · rw [start]
      unfold windowStart at start ⊢
      rw [sup_insert_seen]
      omega
    · intro place inside
      change (setMsBit _ _).getMsbD place = decide (detector.first + place ∈ _)
      rw [getMsbD_setMsBit_eq (by omega) inside, represents.mask place inside]
      have isPlace : place = seqnum - detector.first ↔
          detector.first + place = seqnum := by omega
      simp [isPlace, Bool.or_comm]
    · exact Finset.forall_mem_insert _ _ _ |>.mpr ⟨small, represents.small⟩

theorem Represents.rememberUsed (represents : detector.Represents seen)
    (small : seqnum < 2 ^ 64) :
    (detector.rememberUsed seqnum).2 = referenceAnswer seen seqnum ∧
      (detector.rememberUsed seqnum).1.Represents (insert seqnum seen) := by
  by_cases old : seqnum < detector.first
  · exact represents.rememberUsed_old small old
  by_cases later : detector.first + 127 < seqnum
  · exact represents.rememberUsed_later small later
  · exact represents.rememberUsed_inside small (by omega) (by omega)

/-! ## Whole runs -/

theorem Represents.answers_eq (represents : detector.Represents seen)
    (seqnums : List UInt64) :
    detector.answers seqnums = referenceAnswers seen seqnums := by
  induction seqnums generalizing detector seen with
  | nil => rfl
  | cons seqnum rest ih =>
      obtain ⟨answered, kept⟩ := represents.rememberUsed seqnum.toNat_lt
      unfold answers referenceAnswers
      rw [answered, ih kept]

end SequenceNumberReuseDetector

theorem count_referenceAnswers_le (seqnum : UInt64) (seen : Finset Nat)
    (seqnums : List UInt64) :
    (seqnums.zip (referenceAnswers seen seqnums)).count
        (seqnum, .notUsedBefore) ≤
      if seqnum.toNat ∈ seen then 0 else 1 := by
  induction seqnums generalizing seen with
  | nil => simp
  | cons head rest ih =>
      have later := ih (insert head.toNat seen)
      unfold referenceAnswers
      rw [List.zip_cons_cons, List.count_cons]
      by_cases same : head = seqnum
      · -- The number itself: it is new now or it has been seen.
        subst same
        simp only [Finset.mem_insert_self, if_true] at later
        by_cases before : head.toNat ∈ seen
        · have notNew : referenceAnswer seen head.toNat ≠ .notUsedBefore := by
            unfold referenceAnswer
            rw [if_pos before]
            split
            · simp
            · simp
          simpa [before, notNew] using later
        · simp only [before, if_false]
          split
          · omega
          · omega
      · have otherNumber : head.toNat ≠ seqnum.toNat :=
          fun equal => same (UInt64.toNat_inj.mp equal)
        have unchanged : seqnum.toNat ∈ insert head.toNat seen ↔
            seqnum.toNat ∈ seen := by
          simp [otherNumber.symm]
        simp only [unchanged] at later
        simpa [same] using later

namespace SequenceNumberReuseDetector

/-- The detector answers as the set of all numbers does, and calls no number
new twice. -/
theorem answers_refine_reference (seqnums : List UInt64) :
    default.answers seqnums = referenceAnswers ∅ seqnums ∧
      ∀ seqnum, (seqnums.zip (default.answers seqnums)).count
        (seqnum, .notUsedBefore) ≤ 1 := by
  have same := represents_default.answers_eq seqnums
  refine ⟨same, ?_⟩
  intro seqnum
  rw [same]
  simpa using count_referenceAnswers_le seqnum ∅ seqnums

example : default.answers [0, 127, 0, 128, 0, 1, 300, 172, 300] =
    [.notUsedBefore, .notUsedBefore, .usedBefore, .notUsedBefore,
      .tooOldToKnow 1, .notUsedBefore, .notUsedBefore, .tooOldToKnow 1,
      .usedBefore] := by
  decide

end SequenceNumberReuseDetector

end CallingService.Backend.Rtp
