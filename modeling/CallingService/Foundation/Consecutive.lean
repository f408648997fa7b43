import Mathlib.Algebra.Order.BigOperators.Group.List
import Mathlib.Algebra.Order.Ring.Nat
import Mathlib.Data.List.Chain

/-!
# Consecutive items

What is computed for each item of a list together with the next one.
-/

namespace CallingService.Foundation

variable {Item Value Other : Type*}

def consecutive (combine : Item → Item → Value) : List Item → List Value
  | [] => []
  | [_] => []
  | first :: second :: rest =>
      combine first second :: consecutive combine (second :: rest)

variable {combine : Item → Item → Value}

theorem consecutive_snoc (items : List Item) (last next : Item) :
    consecutive combine (items ++ [last] ++ [next]) =
      consecutive combine (items ++ [last]) ++ [combine last next] := by
  induction items with
  | nil => rfl
  | cons first items ih =>
      cases items with
      | nil => rfl
      | cons second items => exact congrArg (List.cons _) ih

theorem consecutive_replace_last {last other : Item}
    (same : ∀ item, combine item last = combine item other)
    (items : List Item) :
    consecutive combine (items ++ [last]) =
      consecutive combine (items ++ [other]) := by
  induction items with
  | nil => rfl
  | cons first items ih =>
      cases items with
      | nil => exact congrArg (fun value => [value]) (same first)
      | cons second items => exact congrArg (List.cons _) ih

/-- The differences of increasing numbers add up to the whole distance. -/
theorem sum_consecutive_sub {first : Item} {rest : List Item}
    (number : Item → Nat)
    (increasing : (first :: rest).IsChain
      fun item next => number item ≤ number next) :
    number first + (consecutive (fun item next => number next - number item)
      (first :: rest)).sum =
        number ((first :: rest).getLast (List.cons_ne_nil _ _)) := by
  induction rest generalizing first with
  | nil => rfl
  | cons second rest ih =>
      obtain ⟨le, later⟩ := List.isChain_cons_cons.mp increasing
      rw [consecutive, List.sum_cons, ← Nat.add_assoc,
        Nat.add_sub_cancel' le, ih later, List.getLast_cons_cons]

end CallingService.Foundation
