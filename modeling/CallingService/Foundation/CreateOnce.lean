import CallingService.Foundation.Run
import Mathlib.Logic.Function.Basic

/-!
# Cells created by the first proposal

A cell holds at most one value.  The first proposal creates it, later ones
return the value that is there, and a cell is discarded only under the tag of
its value.  Runs of such cells never mix two proposals and never discard a
value under the tag of another one.
-/

namespace CallingService.Foundation

universe u v w

abbrev Cells (K : Type u) (V : Type v) := K → Option V

inductive CellEvent (K : Type u) (V : Type v) (T : Type w) where
  | proposed (key : K) (value answer : V)
  | discarded (keys : List (K × T))
  | failed

variable {K : Type u} {V : Type v} {T : Type w}
variable [DecidableEq K] [DecidableEq T]

def discardTagged (tag : V → T) (cells : Cells K V) (keys : List (K × T)) :
    Cells K V :=
  fun key => (cells key).filter fun value => (key, tag value) ∉ keys

def CellStep (tag : V → T) (cells : Cells K V) :
    CellEvent K V T → Cells K V → Prop
  | .proposed key value answer, next =>
      answer = (cells key).getD value ∧
        next = Function.update cells key (some answer)
  | .discarded keys, next => next = discardTagged tag cells keys
  | .failed, next => next = cells

/-- The steps that keep a value in the cell of `key` once it has one. -/
def KeepsCell (tag : V → T) (key : K) (cells : Cells K V)
    (event : CellEvent K V T) (next : Cells K V) : Prop :=
  CellStep tag cells event next ∧ ((cells key).isSome → (next key).isSome)

section Runs

variable {tag : V → T} {start cells next : Cells K V}
variable {events : List (CellEvent K V T)} {event : CellEvent K V T} {key : K}

theorem discardTagged_eq_some {keys : List (K × T)} {value : V}
    (kept : discardTagged tag cells keys key = some value) :
    cells key = some value ∧ (key, tag value) ∉ keys := by
  simpa [discardTagged, Option.filter_eq_some_iff] using kept

/-- A value in a cell after one step was there before or is the proposal that
the step answered. -/
theorem CellStep.value_source {value : V}
    (step : CellStep tag cells event next) (stored : next key = some value) :
    cells key = some value ∨ event = .proposed key value value := by
  cases event with
  | proposed other proposal answer =>
      obtain ⟨answerEq, nextEq⟩ := step
      subst nextEq
      by_cases same : key = other
      · subst same
        rw [Function.update_self] at stored
        cases stored
        cases known : cells key with
        | none =>
            right
            simp [answerEq, known]
        | some current =>
            left
            simp [answerEq, known]
      · rw [Function.update_of_ne same] at stored
        exact .inl stored
  | discarded keys =>
      cases step
      exact .inl (discardTagged_eq_some stored).1
  | failed =>
      cases step
      exact .inl stored

theorem proposed_of_stored (run : Run (CellStep tag) start events cells)
    (absent : start key = none) {value : V}
    (stored : cells key = some value) :
    CellEvent.proposed key value value ∈ events := by
  have invariant : ∀ value, cells key = some value →
      CellEvent.proposed key value value ∈ events := by
    apply run.history_invariant
      (fun value found => by rw [absent] at found; cases found)
    intro past event before after known step value found
    rcases step.value_source found with old | new
    · exact List.mem_append_left _ (known value old)
    · subst new
      exact List.mem_append_right _ List.mem_cons_self
  exact invariant value stored

/-- As long as the cell is not discarded, every proposal returns the value it
ends with. -/
theorem answer_eq_stored (run : Run (KeepsCell tag key) start events cells)
    {value answer : V}
    (answered : CellEvent.proposed key value answer ∈ events) :
    cells key = some answer := by
  have invariant : ∀ value answer,
      CellEvent.proposed key value answer ∈ events →
        cells key = some answer := by
    apply run.history_invariant (fun _ _ member => by cases member)
    rintro past event before after known ⟨step, kept⟩ value answer member
    rcases List.mem_append.mp member with earlier | now
    · have stored := known value answer earlier
      obtain ⟨later, laterEq⟩ := Option.isSome_iff_exists.mp
        (kept (by rw [stored]; rfl))
      rcases step.value_source laterEq with old | new
      · rw [laterEq, ← old, stored]
      · rw [new] at step
        obtain ⟨sameAnswer, -⟩ := step
        rw [stored, Option.getD_some] at sameAnswer
        rw [laterEq, sameAnswer]
    · rw [List.mem_singleton] at now
      subst now
      obtain ⟨-, nextEq⟩ := step
      rw [nextEq, Function.update_self]
  exact invariant value answer answered

theorem discardTagged_of_ne {keys : List (K × T)}
    (other : ∀ value, cells key = some value → (key, tag value) ∉ keys) :
    discardTagged tag cells keys key = cells key := by
  cases stored : cells key with
  | none => simp [discardTagged, stored]
  | some value => simp [discardTagged, stored, other value stored]

theorem discardTagged_of_mem {keys : List (K × T)} {value : V}
    (stored : cells key = some value) (listed : (key, tag value) ∈ keys) :
    discardTagged tag cells keys key = none := by
  rw [discardTagged, stored, Option.filter_some, if_neg]
  simpa using listed

/-- Only a discard under its own tag takes a value out of its cell. -/
theorem CellStep.keeps_value {value : V}
    (step : CellStep tag cells event next) (stored : cells key = some value)
    (unlisted : ∀ keys, event = .discarded keys →
      (key, tag value) ∉ keys) :
    next key = some value := by
  cases event with
  | proposed other proposal answer =>
      obtain ⟨answerEq, rfl⟩ := step
      by_cases same : key = other
      · subst same
        rw [Function.update_self, answerEq, stored, Option.getD_some]
      · rw [Function.update_of_ne same, stored]
  | discarded keys =>
      cases step
      rw [discardTagged_of_ne, stored]
      intro other otherStored
      rw [stored] at otherStored
      cases otherStored
      exact unlisted keys rfl
  | failed =>
      cases step
      exact stored

end Runs

end CallingService.Foundation
