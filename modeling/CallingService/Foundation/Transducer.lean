import CallingService.Foundation.Run
import Mathlib.Data.List.Basic

/-!
# Transducers

A transducer reads a stream and may put an item out for each item that it
reads.  A failure ends the output after what has been put out so far.
-/

namespace CallingService.Foundation

variable {State Input Output Failure : Type*}
variable {step : State → Input → Option Output × Except Failure State}

/-- The items that are put out, and the failure that ended them. -/
def transduce (step : State → Input → Option Output × Except Failure State) :
    State → List Input → List Output × Option Failure
  | _, [] => ([], none)
  | state, input :: later =>
      let (output, next) := step state input
      match next with
      | .error failure => (output.toList, some failure)
      | .ok next =>
          let (outputs, ending) := transduce step next later
          (output.toList ++ outputs, ending)

/-- The steps that do not fail. -/
def Proceeds (step : State → Input → Option Output × Except Failure State)
    (before : State) (input : Input) (after : State) : Prop :=
  (step before input).2 = .ok after

theorem transduce_error {state : State} {input : Input} {later : List Input}
    {failure : Failure} (failed : (step state input).2 = .error failure) :
    transduce step state (input :: later) =
      ((step state input).1.toList, some failure) := by
  simp only [transduce, failed]

theorem transduce_ok {state next : State} {input : Input} {later : List Input}
    (moved : Proceeds step state input next) :
    transduce step state (input :: later) =
      ((step state input).1.toList ++ (transduce step next later).1,
        (transduce step next later).2) := by
  unfold Proceeds at moved
  simp only [transduce, moved]

/-- What is put out for the last of some items. -/
theorem transduce_snoc {start state : State} {past : List Input}
    {input : Input} (run : Run (Proceeds step) start past state) :
    (transduce step start (past ++ [input])).1 =
      (transduce step start past).1 ++ (step state input).1.toList := by
  induction past generalizing start with
  | nil =>
      rw [run.eq_of_nil, List.nil_append]
      cases next : (step start input).2 with
      | error failure => rw [transduce_error next]; rfl
      | ok after => rw [transduce_ok next]; simp [transduce]
  | cons first past ih =>
      obtain ⟨second, moved, rest⟩ := run.head
      rw [List.cons_append, transduce_ok moved, transduce_ok moved, ih rest,
        List.append_assoc]

theorem eq_some_of_lt_length {output : Option Output} {number : Nat}
    (inside : number < output.toList.length) :
    ∃ item, output = some item ∧ number = 0 := by
  cases output with
  | none => cases inside
  | some item => exact ⟨item, rfl, Nat.lt_one_iff.mp inside⟩

/-- Each output has been triggered by an item, in a state that has been
reached without a failure. -/
theorem exists_trigger {start : State} {inputs : List Input} {number : Nat}
    (inside : number < (transduce step start inputs).1.length) :
    ∃ before trigger later state output rest,
      inputs = before ++ trigger :: later ∧
      Run (Proceeds step) start before state ∧
      (step state trigger).1 = some output ∧
      (transduce step start before).1.length = number ∧
      (transduce step start inputs).1 =
        (transduce step start before).1 ++ output :: rest := by
  induction inputs generalizing start number with
  | nil => cases inside
  | cons input later ih =>
      have outputs : ∃ rest, (transduce step start (input :: later)).1 =
          (step start input).1.toList ++ rest := by
        cases next : (step start input).2 with
        | error failure =>
            exact ⟨[], by rw [transduce_error next, List.append_nil]⟩
        | ok after => exact ⟨_, by rw [transduce_ok next]⟩
      by_cases first : number < (step start input).1.toList.length
      · obtain ⟨output, triggered, rfl⟩ := eq_some_of_lt_length first
        obtain ⟨rest, whole⟩ := outputs
        rw [triggered] at whole
        exact ⟨[], input, later, start, output, rest, rfl, .nil, triggered,
          rfl, whole⟩
      · cases next : (step start input).2 with
        | error failure =>
            rw [transduce_error next] at inside
            exact absurd inside first
        | ok after =>
            have passed := Nat.not_lt.mp first
            rw [transduce_ok next, List.length_append] at inside
            obtain ⟨before, trigger, rest, state, output, others, rfl, run,
              puts, count, whole⟩ :=
              ih (Nat.sub_lt_left_of_lt_add passed inside)
            refine ⟨input :: before, trigger, rest, state, output, others,
              rfl, Run.append (.snoc .nil next) run, puts, ?_, ?_⟩
            · rw [transduce_ok next, List.length_append, count]
              exact Nat.add_sub_cancel' passed
            · rw [transduce_ok next, transduce_ok next, whole,
                List.append_assoc]

/-- Changing the items and the states in step leaves the output as it is. -/
theorem transduce_map {changeState : State → State}
    {changeInput : Input → Input}
    (commutes : ∀ state input,
      step (changeState state) (changeInput input) =
        ((step state input).1, (step state input).2.map changeState))
    (start : State) (inputs : List Input) :
    transduce step (changeState start) (inputs.map changeInput) =
      transduce step start inputs := by
  induction inputs generalizing start with
  | nil => rfl
  | cons input later ih =>
      have same := commutes start input
      rw [List.map_cons]
      cases next : (step start input).2 with
      | error failure =>
          rw [next] at same
          have failed :
              (step (changeState start) (changeInput input)).2 =
                .error failure := by
            rw [same]
            rfl
          rw [transduce_error failed, transduce_error next, same]
      | ok after =>
          rw [next] at same
          have moved : Proceeds step (changeState start) (changeInput input)
              (changeState after) := by
            unfold Proceeds
            rw [same]
            rfl
          rw [transduce_ok moved, transduce_ok next, same, ih]

end CallingService.Foundation
