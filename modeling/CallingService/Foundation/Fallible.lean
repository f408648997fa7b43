import Mathlib.Logic.Basic

/-!
# Fallible computations

Inversion of successful `Except` computations: a sequence that returns a value
has a successful value at each of its steps.
-/

namespace CallingService.Foundation

universe u v

variable {ε : Type u} {α β : Type v}

/-- `Option::ok_or`. -/
def okOr (value : Option α) (failure : ε) : Except ε α :=
  match value with
  | none => .error failure
  | some found => .ok found

/-- An early return of an error unless the condition holds. -/
def ensure (condition : Prop) [Decidable condition] (failure : ε) :
    Except ε Unit :=
  if condition then .ok () else .error failure

theorem bind_eq_ok_iff {first : Except ε α} {next : α → Except ε β}
    {result : β} :
    (first >>= next) = .ok result ↔
      ∃ value, first = .ok value ∧ next value = .ok result := by
  cases first with
  | error failure => simp [bind, Except.bind]
  | ok value => simp [bind, Except.bind]

theorem bind_eq_error_iff {first : Except ε α} {next : α → Except ε β}
    {failure : ε} :
    (first >>= next) = .error failure ↔
      first = .error failure ∨
        ∃ value, first = .ok value ∧ next value = .error failure := by
  cases first with
  | error other => simp [bind, Except.bind]
  | ok value => simp [bind, Except.bind]

/-- A result that is only returned in another form fails with its cause. -/
theorem bind_return_eq_error_iff {first : Except ε α} {form : α → β}
    {failure : ε} :
    (first >>= fun value => .ok (form value)) = .error failure ↔
      first = .error failure := by
  cases first with
  | error other => simp [bind, Except.bind]
  | ok value => simp [bind, Except.bind]

@[simp] theorem ok_bind (value : α) (next : α → Except ε β) :
    ((.ok value : Except ε α) >>= next) = next value := rfl

theorem okOr_eq_ok_iff {value : Option α} {failure : ε} {found : α} :
    okOr value failure = .ok found ↔ value = some found := by
  cases value with
  | none => simp [okOr]
  | some other => simp [okOr]

theorem mapError_eq_ok_iff {δ : Type*} {first : Except ε α} {change : ε → δ}
    {result : α} :
    first.mapError change = .ok result ↔ first = .ok result := by
  constructor
  · intro succeeded
    cases first with
    | error failure => cases succeeded
    | ok value =>
        cases succeeded
        rfl
  · rintro rfl
    rfl

theorem ensure_of {condition : Prop} [Decidable condition] {failure : ε}
    (holds : condition) : ensure condition failure = .ok () :=
  if_pos holds

theorem ensure_eq_ok_iff {condition : Prop} [Decidable condition]
    {failure : ε} {passed : Unit} :
    ensure condition failure = .ok passed ↔ condition := by
  unfold ensure
  split
  · simpa
  · simpa

end CallingService.Foundation
