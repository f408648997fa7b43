import Mathlib.Data.Nat.Init

/-!
# Loops

A loop is given by its body, which goes on from a new state or leaves with a
result.  It is run for a number of rounds; a measure that falls in every round
bounds the rounds that are needed.
-/

namespace CallingService.Foundation

universe u v

variable {State : Type u} {Result : Type v}

/-- What one round of a loop does. -/
inductive Round (State : Type u) (Result : Type v) where
  | again (state : State)
  | leave (result : Result)

/-- Run the body for at most so many rounds; `none` means that the loop has
not been left by then. -/
def runLoop (body : State → Round State Result) :
    Nat → State → Option Result
  | 0, _ => none
  | rounds + 1, state =>
      match body state with
      | .again next => runLoop body rounds next
      | .leave result => some result

variable {body : State → Round State Result} {state next : State}
  {result : Result}

theorem runLoop_again (rounds : Nat) (goesOn : body state = .again next) :
    runLoop body (rounds + 1) state = runLoop body rounds next := by
  simp only [runLoop, goesOn]

theorem runLoop_leave (rounds : Nat) (leaves : body state = .leave result) :
    runLoop body (rounds + 1) state = some result := by
  simp only [runLoop, leaves]

/-- A result stays the same when there are more rounds. -/
theorem runLoop_mono {rounds more : Nat} (le : rounds ≤ more)
    (ends : runLoop body rounds state = some result) :
    runLoop body more state = some result := by
  induction rounds generalizing state more with
  | zero => cases ends
  | succ rounds ih =>
      obtain ⟨further, rfl⟩ : ∃ further, more = further + 1 :=
        ⟨more - 1, by omega⟩
      cases round : body state with
      | leave first =>
          rw [runLoop_leave rounds round] at ends
          rw [runLoop_leave further round, ends]
      | again next =>
          rw [runLoop_again rounds round] at ends
          rw [runLoop_again further round]
          exact ih (by omega) ends

/-- A loop whose measure falls in every round is left. -/
theorem exists_runLoop (measure : State → Nat)
    (falls : ∀ state next, body state = .again next →
      measure next < measure state) :
    ∀ {rounds : Nat} {state : State}, measure state < rounds →
      ∃ result, runLoop body rounds state = some result := by
  intro rounds
  induction rounds with
  | zero =>
      intro state enough
      exact absurd enough (Nat.not_lt_zero _)
  | succ rounds ih =>
      intro state enough
      cases round : body state with
      | leave result => exact ⟨result, runLoop_leave rounds round⟩
      | again next =>
          have less := falls state next round
          obtain ⟨result, ends⟩ := @ih next (by omega)
          exact ⟨result, by rw [runLoop_again rounds round, ends]⟩

/-! ## Loops that end -/

/-- A body with a measure that falls in every round but the last one. -/
structure EndingLoop (State : Type u) (Result : Type v) where
  body : State → Round State Result
  measure : State → Nat
  falls : ∀ state next, body state = .again next →
    measure next < measure state

namespace EndingLoop

variable (loop : EndingLoop State Result)

theorem isSome_runLoop (state : State) :
    (runLoop loop.body (loop.measure state + 1) state).isSome = true := by
  obtain ⟨result, ends⟩ :=
    exists_runLoop loop.measure loop.falls (Nat.lt_succ_self _)
  rw [ends, Option.isSome_some]

/-- The result of the loop, which takes at most one round for each unit of
the measure and one more. -/
def run (state : State) : Result :=
  (runLoop loop.body (loop.measure state + 1) state).get
    (loop.isSome_runLoop state)

variable {loop} {state next : State} {result : Result}

theorem run_eq_of_runLoop {rounds : Nat}
    (ends : runLoop loop.body rounds state = some result) :
    loop.run state = result := by
  have own : runLoop loop.body (loop.measure state + 1) state =
      some (loop.run state) := (Option.some_get _).symm
  rcases Nat.le_total rounds (loop.measure state + 1) with fewer | more
  · rw [runLoop_mono fewer ends, Option.some.injEq] at own
    exact own.symm
  · rw [runLoop_mono more own, Option.some.injEq] at ends
    exact ends

theorem runLoop_run (state : State) :
    runLoop loop.body (loop.measure state + 1) state =
      some (loop.run state) :=
  (Option.some_get _).symm

theorem run_again (goesOn : loop.body state = .again next) :
    loop.run state = loop.run next := by
  apply run_eq_of_runLoop
  rw [runLoop_again _ goesOn]
  exact runLoop_run next

theorem run_leave (leaves : loop.body state = .leave result) :
    loop.run state = result :=
  run_eq_of_runLoop (runLoop_leave 0 leaves)

/-- Induction over the rounds that are still to come. -/
theorem induction {holds : State → Prop}
    (leave : ∀ state result, loop.body state = .leave result → holds state)
    (again : ∀ state next, loop.body state = .again next → holds next →
      holds state) (state : State) : holds state := by
  generalize bound : loop.measure state = rounds
  induction rounds using Nat.strong_induction_on generalizing state with
  | _ rounds ih =>
      cases round : loop.body state with
      | leave result => exact leave state result round
      | again next =>
          have less := loop.falls state next round
          exact again state next round (ih _ (bound ▸ less) next rfl)

end EndingLoop

end CallingService.Foundation
