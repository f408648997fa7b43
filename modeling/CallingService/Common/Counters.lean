import Mathlib.Algebra.Order.Ring.Nat

/-!
# Expansion of truncated counters

Sequence numbers, timestamps and picture ids travel with few bits.  The
receiver expands them around the largest value seen so far.
-/

namespace CallingService

/-- The rollover count that `expand_truncated_counter` chooses. -/
def expandedRoc (truncated max width : Nat) : Nat :=
  let truncatedMax := max % 2 ^ width
  let maxRoc := max / 2 ^ width
  let reallyBig := 2 ^ (width - 1)
  if truncated < truncatedMax ∧ reallyBig < truncatedMax - truncated then
    maxRoc + 1
  else if 0 < maxRoc ∧ truncatedMax < truncated ∧
      reallyBig < truncated - truncatedMax then
    maxRoc - 1
  else maxRoc

/-- `expand_truncated_counter`: the full value and the new maximum.  The shift
of the rollover count drops the bits that leave the 64-bit word. -/
def expandTruncatedCounter (truncated max width : Nat) : Nat × Nat :=
  let roc := expandedRoc truncated max width
  let full := roc * 2 ^ width % 2 ^ 64 + truncated % 2 ^ width
  (full, if max < full then full else max)

theorem expandedRoc_self {max width : Nat} :
    expandedRoc (max % 2 ^ width) max width = max / 2 ^ width := by
  simp [expandedRoc]

private theorem shifted_mod {roc width : Nat} (narrow : width ≤ 64) :
    roc * 2 ^ width % 2 ^ 64 = roc % 2 ^ (64 - width) * 2 ^ width := by
  have power : (2 : Nat) ^ 64 = 2 ^ (64 - width) * 2 ^ width := by
    rw [← Nat.pow_add, Nat.sub_add_cancel narrow]
  rw [power, Nat.mul_mod_mul_right]

theorem expandTruncatedCounter_fst_mod {truncated max width : Nat}
    (narrow : width ≤ 64) :
    (expandTruncatedCounter truncated max width).1 % 2 ^ width =
      truncated % 2 ^ width := by
  unfold expandTruncatedCounter
  dsimp only
  rw [shifted_mod narrow, Nat.add_comm, Nat.add_mul_mod_self_right,
    Nat.mod_mod]

theorem expandTruncatedCounter_fst_lt {truncated max width : Nat}
    (narrow : width ≤ 64) :
    (expandTruncatedCounter truncated max width).1 < 2 ^ 64 := by
  have power : (2 : Nat) ^ 64 = 2 ^ (64 - width) * 2 ^ width := by
    rw [← Nat.pow_add, Nat.sub_add_cancel narrow]
  set roc := expandedRoc truncated max width % 2 ^ (64 - width) with rocEq
  have high : roc + 1 ≤ 2 ^ (64 - width) :=
    Nat.mod_lt _ (Nat.two_pow_pos _)
  have low : truncated % 2 ^ width < 2 ^ width :=
    Nat.mod_lt _ (Nat.two_pow_pos _)
  unfold expandTruncatedCounter
  dsimp only
  rw [shifted_mod narrow, ← rocEq, power]
  calc roc * 2 ^ width + truncated % 2 ^ width
      < roc * 2 ^ width + 2 ^ width := Nat.add_lt_add_left low _
    _ = (roc + 1) * 2 ^ width := by rw [Nat.succ_mul]
    _ ≤ 2 ^ (64 - width) * 2 ^ width := Nat.mul_le_mul_right _ high

/-- Expanding the same value again gives the same result and does not move
the maximum. -/
theorem expandTruncatedCounter_again {truncated max width : Nat}
    (narrow : width ≤ 64) (small : truncated < 2 ^ width) :
    expandTruncatedCounter truncated
        (expandTruncatedCounter truncated max width).2 width =
      expandTruncatedCounter truncated max width := by
  unfold expandTruncatedCounter
  set roc := expandedRoc truncated max width with rocEq
  rw [Nat.mod_eq_of_lt small]
  by_cases larger : max < roc * 2 ^ width % 2 ^ 64 + truncated
  · have high : (roc * 2 ^ width % 2 ^ 64 + truncated) / 2 ^ width =
        roc % 2 ^ (64 - width) := by
      rw [shifted_mod narrow, Nat.add_comm,
        Nat.add_mul_div_right _ _ (Nat.two_pow_pos width),
        Nat.div_eq_of_lt small, Nat.zero_add]
    have low : (roc * 2 ^ width % 2 ^ 64 + truncated) % 2 ^ width =
        truncated := by
      rw [shifted_mod narrow, Nat.add_comm, Nat.add_mul_mod_self_right,
        Nat.mod_eq_of_lt small]
    have again : expandedRoc truncated
        (roc * 2 ^ width % 2 ^ 64 + truncated) width =
          roc % 2 ^ (64 - width) := by
      have self := @expandedRoc_self
        (roc * 2 ^ width % 2 ^ 64 + truncated) width
      rw [low, high] at self
      exact self
    have same : roc % 2 ^ (64 - width) * 2 ^ width % 2 ^ 64 =
        roc * 2 ^ width % 2 ^ 64 := by
      rw [shifted_mod narrow, shifted_mod narrow, Nat.mod_mod]
    simp only [larger, if_true]
    rw [again, same]
    simp
  · simp only [larger, if_false]
    rw [← rocEq, if_neg larger]

private theorem quotient_le_succ {cycle first second : Nat}
    (near : first < second + cycle) : first / cycle ≤ second / cycle + 1 := by
  rcases Nat.eq_zero_or_pos cycle with rfl | positive
  · simp
  · rw [← Nat.add_div_right second positive]
    exact Nat.div_le_div_right near.le

/-- The rollover count is right for a value less than half a cycle away from
the maximum. -/
theorem expandedRoc_of_near {full max width : Nat} (positive : 0 < width)
    (notAhead : full < max + 2 ^ (width - 1))
    (notBehind : max < full + 2 ^ (width - 1)) :
    expandedRoc (full % 2 ^ width) max width = full / 2 ^ width := by
  have cycle : 2 ^ width = 2 * 2 ^ (width - 1) := by
    rw [← Nat.pow_succ', Nat.succ_eq_add_one, Nat.sub_add_cancel positive]
  have above : full / 2 ^ width ≤ max / 2 ^ width + 1 :=
    quotient_le_succ (by omega)
  have below : max / 2 ^ width ≤ full / 2 ^ width + 1 :=
    quotient_le_succ (by omega)
  have fullParts := Nat.div_add_mod full (2 ^ width)
  have maxParts := Nat.div_add_mod max (2 ^ width)
  have fullLow : full % 2 ^ width < 2 ^ width := Nat.mod_lt _ (Nat.two_pow_pos _)
  have maxLow : max % 2 ^ width < 2 ^ width := Nat.mod_lt _ (Nat.two_pow_pos _)
  unfold expandedRoc
  dsimp only
  generalize full / 2 ^ width = roc at *
  generalize max / 2 ^ width = maxRoc at *
  have neighbours : roc = maxRoc + 1 ∨ roc = maxRoc ∨ maxRoc = roc + 1 := by
    omega
  rcases neighbours with rfl | rfl | rfl
  · rw [Nat.mul_add] at fullParts
    rw [if_pos (by omega)]
  · rw [if_neg (by omega), if_neg (by omega)]
  · rw [Nat.mul_add] at maxParts
    rw [if_neg (by omega), if_pos (by omega), Nat.add_sub_cancel]

/-- A value less than half a cycle away from the maximum is recovered. -/
theorem expandTruncatedCounter_of_near {full largest width : Nat}
    (positive : 0 < width) (small : full < 2 ^ 64)
    (notAhead : full < largest + 2 ^ (width - 1))
    (notBehind : largest < full + 2 ^ (width - 1)) :
    expandTruncatedCounter (full % 2 ^ width) largest width =
      (full, max largest full) := by
  have parts := Nat.div_add_mod full (2 ^ width)
  have noOverflow : full / 2 ^ width * 2 ^ width < 2 ^ 64 :=
    lt_of_le_of_lt (Nat.div_mul_le_self _ _) small
  unfold expandTruncatedCounter
  rw [expandedRoc_of_near positive notAhead notBehind]
  dsimp only
  rw [Nat.mod_eq_of_lt noOverflow, Nat.mod_mod, Nat.mul_comm, parts]
  congr 1
  by_cases larger : largest < full
  · rw [if_pos larger, Nat.max_eq_right larger.le]
  · rw [if_neg larger, Nat.max_eq_left (by omega)]

end CallingService
