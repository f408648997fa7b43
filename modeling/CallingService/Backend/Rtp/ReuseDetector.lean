import CallingService.Backend.Rtp.Srtp

/-!
# Replay protection

A window of 128 sequence numbers remembers which of them have been used.
-/

namespace CallingService.Backend.Rtp

inductive SequenceNumberReuse where
  | usedBefore
  | notUsedBefore
  | tooOldToKnow (delta : Nat)
deriving DecidableEq, Repr

/-- The most significant bit of the mask belongs to `first`. -/
structure SequenceNumberReuseDetector where
  first : Nat
  mask : BitVec 128
deriving DecidableEq, Repr

def setMsBit (mask : BitVec 128) (index : Nat) : BitVec 128 :=
  mask ||| (1#128 <<< (128 - index - 1))

theorem getMsbD_setMsBit {mask : BitVec 128} {index : Nat}
    (inside : index < 128) : (setMsBit mask index).getMsbD index = true := by
  have place : 128 - 1 - index = 128 - index - 1 := by omega
  have bound : 128 - index - 1 < 128 := by omega
  simp [setMsBit, BitVec.getMsbD, inside, place, bound]

namespace SequenceNumberReuseDetector

def default : SequenceNumberReuseDetector where
  first := 0
  mask := 0

def maskSize : Nat := 128

def lastRelativeToFirst : Nat := maskSize - 1

def rememberUsed (detector : SequenceNumberReuseDetector)
    (seqnum : Nat) :
    SequenceNumberReuseDetector × SequenceNumberReuse :=
  if seqnum < detector.first then
    (detector, .tooOldToKnow (detector.first - seqnum))
  else
    let last := min (detector.first + lastRelativeToFirst) (2 ^ 64 - 1)
    if last < seqnum then
      let relativeToLast := seqnum - last
      let shifted := if lastRelativeToFirst < relativeToLast then 0
        else detector.mask <<< relativeToLast
      (⟨detector.first + relativeToLast,
        setMsBit shifted lastRelativeToFirst⟩, .notUsedBefore)
    else
      let relativeToFirst := seqnum - detector.first
      (⟨detector.first, setMsBit detector.mask relativeToFirst⟩,
        if detector.mask.getMsbD relativeToFirst then .usedBefore
        else .notUsedBefore)

/-- A number inside the window whose bit is set has been used. -/
theorem rememberUsed_of_set {detector : SequenceNumberReuseDetector}
    {seqnum : Nat} (after : detector.first ≤ seqnum)
    (before : seqnum - detector.first < 128) (small : seqnum < 2 ^ 64)
    (set : detector.mask.getMsbD (seqnum - detector.first) = true) :
    (detector.rememberUsed seqnum).2 = .usedBefore := by
  have inside : ¬ min (detector.first + lastRelativeToFirst) (2 ^ 64 - 1) <
      seqnum := by
    unfold lastRelativeToFirst maskSize
    omega
  unfold rememberUsed
  rw [if_neg (Nat.not_lt.mpr after)]
  simp only [inside, if_false, set, if_true]

/-- A number is new at most once. -/
theorem rememberUsed_again {detector : SequenceNumberReuseDetector}
    {seqnum : Nat} (small : seqnum < 2 ^ 64)
    (isNew : (detector.rememberUsed seqnum).2 = .notUsedBefore) :
    ((detector.rememberUsed seqnum).1.rememberUsed seqnum).2 =
      .usedBefore := by
  by_cases old : seqnum < detector.first
  · simp [rememberUsed, old] at isNew
  by_cases later : min (detector.first + lastRelativeToFirst) (2 ^ 64 - 1) <
      seqnum
  · have moved : (detector.rememberUsed seqnum).1.first = seqnum - 127 := by
      unfold rememberUsed
      simp only [old, if_false, later, if_true]
      unfold lastRelativeToFirst maskSize at later ⊢
      omega
    have reach : 127 ≤ seqnum := by
      unfold lastRelativeToFirst maskSize at later
      omega
    have place : seqnum - (seqnum - 127) = 127 := by omega
    apply rememberUsed_of_set
    · omega
    · omega
    · exact small
    · rw [moved, place]
      unfold rememberUsed
      simp only [old, if_false, later, if_true]
      exact getMsbD_setMsBit (by decide)
  · have same : (detector.rememberUsed seqnum).1 =
        ⟨detector.first,
          setMsBit detector.mask (seqnum - detector.first)⟩ := by
      unfold rememberUsed
      simp only [old, if_false, later]
    have inside : seqnum - detector.first < 128 := by
      unfold lastRelativeToFirst maskSize at later
      omega
    rw [same]
    apply rememberUsed_of_set
    · exact Nat.not_lt.mp old
    · exact inside
    · exact small
    · exact getMsbD_setMsBit inside

/-- A new number always changes the detector. -/
theorem rememberUsed_ne_self {detector : SequenceNumberReuseDetector}
    {seqnum : Nat} (small : seqnum < 2 ^ 64)
    (isNew : (detector.rememberUsed seqnum).2 = .notUsedBefore) :
    (detector.rememberUsed seqnum).1 ≠ detector := by
  intro same
  have again := rememberUsed_again small isNew
  rw [same, isNew] at again
  cases again

end SequenceNumberReuseDetector

end CallingService.Backend.Rtp
