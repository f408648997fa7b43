import CallingService.Common.Counters
import Mathlib.Algebra.Order.Group.Unbundled.Int

/-!
# Runs of truncated counters

A receiver expands one truncated value after the other around the largest one
so far.  As long as no value strays half a cycle from it, the full values are
reconstructed in any order.
-/

namespace CallingService

/-- Expand the values one after the other, from this maximum on. -/
def expandAll (width : Nat) : Nat → List Nat → List Nat × Nat
  | max, [] => ([], max)
  | max, truncated :: rest =>
      let expansion := expandTruncatedCounter truncated max width
      let later := expandAll width expansion.2 rest
      (expansion.1 :: later.1, later.2)

/-- Each value is less than half a cycle away from the largest one before
it. -/
def StaysNear (width : Nat) : Nat → List Nat → Prop
  | _, [] => True
  | largest, full :: rest =>
      full < 2 ^ 64 ∧
        |(full : Int) - largest| ≤ 2 ^ (width - 1) - 1 ∧
        StaysNear width (max largest full) rest

theorem le_expandTruncatedCounter_snd (truncated largest width : Nat) :
    largest ≤ (expandTruncatedCounter truncated largest width).2 := by
  unfold expandTruncatedCounter
  dsimp only
  split
  · rename_i larger
    exact larger.le
  · exact le_refl largest

theorem expandTruncatedCounter_of_abs_lt {full largest width : Nat}
    (positive : 0 < width) (small : full < 2 ^ 64)
    (near : |(full : Int) - largest| < 2 ^ (width - 1)) :
    expandTruncatedCounter (full % 2 ^ width) largest width =
      (full, max largest full) := by
  obtain ⟨below, above⟩ := abs_lt.mp near
  have half : ((2 ^ (width - 1) : Nat) : Int) = 2 ^ (width - 1) := by
    push_cast
    rfl
  apply expandTruncatedCounter_of_near positive small
  · omega
  · omega

theorem expandAll_of_staysNear {width : Nat} (positive : 0 < width)
    {largest : Nat} {fulls : List Nat}
    (near : StaysNear width largest fulls) :
    expandAll width largest (fulls.map (· % 2 ^ width)) =
      (fulls, fulls.foldl max largest) := by
  induction fulls generalizing largest with
  | nil => rfl
  | cons full rest ih =>
      obtain ⟨small, close, later⟩ := near
      have expanded := expandTruncatedCounter_of_abs_lt positive small
        (Int.le_sub_one_iff.mp close)
      rw [List.map_cons]
      unfold expandAll
      rw [expanded]
      dsimp only
      rw [ih later]
      rfl

/-- A value less than half a cycle away from the maximum is reconstructed; any
other one keeps its last digits and does not lower the maximum.  Outside of
these widths the shifts overflow. -/
theorem expandTruncatedCounter_reconstructs {width : Nat}
    (positive : 0 < width) (narrow : width < 64) :
    (∀ full largest : Nat, full < 2 ^ 64 →
      |(full : Int) - largest| < 2 ^ (width - 1) →
        expandTruncatedCounter (full % 2 ^ width) largest width =
          (full, max largest full)) ∧
      (∀ truncated largest : Nat,
        (expandTruncatedCounter truncated largest width).1 % 2 ^ width =
            truncated % 2 ^ width ∧
          largest ≤ (expandTruncatedCounter truncated largest width).2) ∧
      ∀ (largest : Nat) (fulls : List Nat), StaysNear width largest fulls →
        expandAll width largest (fulls.map (· % 2 ^ width)) =
          (fulls, fulls.foldl max largest) := by
  refine ⟨?_, ?_, ?_⟩
  · intro full largest small near
    exact expandTruncatedCounter_of_abs_lt positive small near
  · intro truncated largest
    exact ⟨expandTruncatedCounter_fst_mod narrow.le,
      le_expandTruncatedCounter_snd truncated largest width⟩
  · intro largest fulls near
    exact expandAll_of_staysNear positive near

/-- Sequence numbers around a rollover, out of order. -/
theorem expandTruncatedCounter_reconstructs_rollover :
    expandAll 16 65530 [65534, 2, 65535, 0] =
      ([65534, 65538, 65535, 65536], 65538) :=
  (expandTruncatedCounter_reconstructs (by decide) (by decide)).2.2 65530
    [65534, 65538, 65535, 65536] (by
      refine ⟨by decide, by decide, ?_⟩
      refine ⟨by decide, by decide, ?_⟩
      refine ⟨by decide, by decide, ?_⟩
      exact ⟨by decide, by decide, trivial⟩)

end CallingService
