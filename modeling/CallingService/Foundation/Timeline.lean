import Mathlib.Order.Interval.Finset.Nat

/-!
# Values over time

A value changes at some moments and stays as it is between them.  The time for
which it passed a test is the number of moments of an interval at which it did.
-/

namespace CallingService.Foundation

namespace Timeline

variable {Value : Type*}

/-- The value at a moment; the changes are listed from the oldest to the newest
one. -/
def valueAt (initial : Value) (changes : List (Nat × Value)) (moment : Nat) :
    Value :=
  changes.foldl
    (fun value change => if change.1 ≤ moment then change.2 else value)
    initial

theorem valueAt_snoc (initial : Value) (changes : List (Nat × Value))
    (change : Nat × Value) (moment : Nat) :
    valueAt initial (changes ++ [change]) moment =
      if change.1 ≤ moment then change.2
      else valueAt initial changes moment := by
  unfold valueAt
  rw [List.foldl_append]
  rfl

variable (test : Value → Prop) [DecidablePred test]

/-- For how long the value passes the test. -/
def timeWith (value : Nat → Value) (first last : Nat) : Nat :=
  ((Finset.Ico first last).filter fun moment => test (value moment)).card

theorem timeWith_of_iff {test other : Value → Prop} [DecidablePred test]
    [DecidablePred other] (same : ∀ value, test value ↔ other value)
    (value : Nat → Value) (first last : Nat) :
    timeWith test value first last = timeWith other value first last := by
  unfold timeWith
  congr 1
  exact Finset.filter_congr fun moment _ => same (value moment)

theorem timeWith_congr {value other : Nat → Value} {first last : Nat}
    (same : ∀ moment, moment < last → value moment = other moment) :
    timeWith test value first last = timeWith test other first last := by
  unfold timeWith
  congr 1
  apply Finset.filter_congr
  intro moment inside
  rw [same moment (Finset.mem_Ico.mp inside).2]

theorem timeWith_add (value : Nat → Value) {first middle last : Nat}
    (begun : first ≤ middle) (ended : middle ≤ last) :
    timeWith test value first last =
      timeWith test value first middle + timeWith test value middle last := by
  unfold timeWith
  rw [← Finset.Ico_union_Ico_eq_Ico begun ended, Finset.filter_union]
  apply Finset.card_union_of_disjoint
  apply Finset.disjoint_filter_filter
  exact Finset.Ico_disjoint_Ico_consecutive first middle last

/-- A value that stays as it is passes the test all the time, or never. -/
theorem timeWith_of_constant {value : Nat → Value} {constant : Value}
    {first last : Nat}
    (stays : ∀ moment, first ≤ moment → moment < last →
      value moment = constant) :
    timeWith test value first last =
      if test constant then last - first else 0 := by
  have sameTest : ∀ moment ∈ Finset.Ico first last,
      (test (value moment) ↔ test constant) := by
    intro moment inside
    obtain ⟨begun, before⟩ := Finset.mem_Ico.mp inside
    rw [stays moment begun before]
  unfold timeWith
  rw [Finset.filter_congr sameTest]
  by_cases passes : test constant
  · rw [if_pos passes, Finset.filter_true_of_mem fun _ _ => passes,
      Nat.card_Ico]
  · rw [if_neg passes, Finset.filter_false_of_mem fun _ _ => passes,
      Finset.card_empty]

end Timeline

end CallingService.Foundation
