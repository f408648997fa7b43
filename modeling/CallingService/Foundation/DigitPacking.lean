import Mathlib.Algebra.Order.Ring.Nat
import Mathlib.Data.List.GetD
import Mathlib.Data.List.Induction
import Mathlib.Tactic.Ring

/-!
# Digits packed into a word

A word holds a fixed number of digits of equal width, the first one in its
most significant bits.  Digits are spliced in from the first place to the
last, and the places that are still free read as zero.
-/

namespace CallingService.Foundation

/-- The digit at a place of a word of `capacity` digits. -/
def digitAt (width capacity bits index : Nat) : Nat :=
  (bits >>> (width * (capacity - 1 - index))) % 2 ^ width

/-- Write a digit to a place that reads as zero. -/
def spliceDigit (width capacity bits index digit : Nat) : Nat :=
  bits ||| digit <<< (width * (capacity - 1 - index))

/-- The word holds these digits, and nothing after them. -/
structure Packs (width capacity bits : Nat) (digits : List Nat) : Prop where
  fits : digits.length ≤ capacity
  small : bits < 2 ^ (width * capacity)
  digit : ∀ index, index < capacity →
    digitAt width capacity bits index = digits.getD index 0

/-- The number of digits, and the word that holds them. -/
def packDigits (width capacity : Nat) (digits : List Nat) : Nat × Nat :=
  digits.foldl (fun word digit =>
    (word.1 + 1, spliceDigit width capacity word.2 word.1 digit)) (0, 0)

variable {width capacity bits digit : Nat} {digits : List Nat}

theorem packs_nil (width capacity : Nat) : Packs width capacity 0 [] where
  fits := Nat.zero_le _
  small := Nat.two_pow_pos _
  digit := by
    intro index _
    simp [digitAt]

theorem shiftLeft_lt {value width places shift : Nat}
    (small : value < 2 ^ width) (fits : width + shift ≤ places) :
    value <<< shift < 2 ^ places := by
  rw [Nat.shiftLeft_eq]
  calc value * 2 ^ shift
      < 2 ^ width * 2 ^ shift :=
        Nat.mul_lt_mul_of_pos_right small (Nat.two_pow_pos shift)
    _ = 2 ^ (width + shift) := (Nat.pow_add 2 width shift).symm
    _ ≤ 2 ^ places := Nat.pow_le_pow_right (by omega) fits

/-- A digit leaves all other places as they are. -/
theorem digitAt_shiftLeft (small : digit < 2 ^ width)
    {place index : Nat} (placeFits : place < capacity)
    (indexFits : index < capacity) :
    ((digit <<< (width * (capacity - 1 - place))) >>>
        (width * (capacity - 1 - index))) % 2 ^ width =
      if index = place then digit else 0 := by
  rcases Nat.lt_trichotomy index place with before | same | after
  · have apart : width * (capacity - 1 - place) + width ≤
        width * (capacity - 1 - index) := by
      rw [← Nat.mul_succ]
      exact Nat.mul_le_mul_left width (by omega)
    have below : digit <<< (width * (capacity - 1 - place)) <
        2 ^ (width * (capacity - 1 - index)) :=
      shiftLeft_lt small (by omega)
    rw [if_neg (by omega), Nat.shiftRight_eq_div_pow,
      Nat.div_eq_of_lt below, Nat.zero_mod]
  · rw [if_pos same, same, Nat.shiftLeft_shiftRight, Nat.mod_eq_of_lt small]
  · have apart : width * (capacity - 1 - index) + width ≤
        width * (capacity - 1 - place) := by
      rw [← Nat.mul_succ]
      exact Nat.mul_le_mul_left width (by omega)
    obtain ⟨gap, isGap⟩ := Nat.exists_eq_add_of_le apart
    rw [if_neg (by omega), isGap, Nat.shiftLeft_eq, Nat.shiftRight_eq_div_pow,
      Nat.pow_add, Nat.pow_add]
    have split : digit * (2 ^ (width * (capacity - 1 - index)) * 2 ^ width *
        2 ^ gap) = 2 ^ (width * (capacity - 1 - index)) *
          (2 ^ width * (digit * 2 ^ gap)) := by ring
    rw [split, Nat.mul_div_cancel_left _ (Nat.two_pow_pos _),
      Nat.mul_mod_right]

theorem Packs.splice (packs : Packs width capacity bits digits)
    (free : digits.length < capacity) (small : digit < 2 ^ width) :
    Packs width capacity
      (spliceDigit width capacity bits digits.length digit)
      (digits ++ [digit]) where
  fits := by
    rw [List.length_append, List.length_singleton]
    exact free
  small := by
    apply Nat.or_lt_two_pow packs.small
    apply shiftLeft_lt small
    rw [Nat.add_comm, ← Nat.mul_succ]
    exact Nat.mul_le_mul_left width (by omega)
  digit := by
    intro index inside
    have old := packs.digit index inside
    unfold digitAt at old
    unfold digitAt spliceDigit
    rw [Nat.shiftRight_or_distrib, Nat.or_mod_two_pow, old,
      digitAt_shiftLeft small free inside]
    rcases Nat.lt_trichotomy index digits.length with before | same | after
    · rw [if_neg (by omega), Nat.or_zero, List.getD_append _ _ _ _ before]
    · rw [if_pos same, List.getD_eq_default _ _ same.ge, Nat.zero_or, same,
        List.getD_append_right _ _ _ _ (Nat.le_refl _), Nat.sub_self]
      rfl
    · rw [if_neg (by omega), List.getD_eq_default _ _ (by omega),
        List.getD_eq_default _ _ (by simp; omega)]
      rfl

theorem packs_packDigits (fits : digits.length ≤ capacity)
    (small : ∀ digit ∈ digits, digit < 2 ^ width) :
    (packDigits width capacity digits).1 = digits.length ∧
      Packs width capacity (packDigits width capacity digits).2 digits := by
  unfold packDigits
  induction digits using List.reverseRecOn with
  | nil => exact ⟨rfl, packs_nil width capacity⟩
  | append_singleton earlier digit ih =>
      rw [List.length_append, List.length_singleton] at fits
      obtain ⟨count, packs⟩ := ih (by omega)
        fun other member => small other (List.mem_append_left _ member)
      rw [List.foldl_append, List.foldl_cons, List.foldl_nil, count]
      constructor
      · rw [List.length_append, List.length_singleton]
      · apply packs.splice (by omega)
        exact small digit (List.mem_append_right _ (List.mem_singleton_self _))

end CallingService.Foundation
