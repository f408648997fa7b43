import CallingService.Foundation.Fallible
import CallingService.Foundation.Transducer

/-!
# Pipelines

Transducers in a row, and a consumer that takes all that is ready and keeps
the latest item only.
-/

namespace CallingService.Foundation

variable {State First Second Input Middle Output Failure : Type}

/-- A transducer that does not fail. -/
def unfailing (step : State → Input → Option Output × State) :
    State → Input → Option Output × Except Failure State :=
  fun state input => ((step state input).1, .ok (step state input).2)

/-- The second transducer reads what the first one puts out, before the first
one goes on. -/
def chain (first : First → Input → Option Middle × Except Failure First)
    (second : Second → Middle → Option Output × Except Failure Second) :
    First × Second → Input → Option Output × Except Failure (First × Second)
  | (state, reader), input =>
      match (first state input).1 with
      | none => (none, do return (← (first state input).2, reader))
      | some middle =>
          ((second reader middle).1, do
            let following ← (second reader middle).2
            return (← (first state input).2, following))

/-- Read all the items.  Only the latest output is kept. -/
def drain (step : State → Input → Option Output × Except Failure State) :
    State → List Input → Except Failure (Option Output × State)
  | state, [] => .ok (none, state)
  | state, input :: later => do
      let next ← (step state input).2
      let (latest, finish) ← drain step next later
      return (latest.or (step state input).1, finish)

theorem proceeds_unfailing {step : State → Input → Option Output × State}
    {before after : State} {input : Input} :
    Proceeds (@unfailing _ _ _ Failure step) before input after ↔
      (step before input).2 = after := by
  unfold Proceeds unfailing
  exact ⟨Except.ok.inj, congrArg Except.ok⟩

/-- A transducer that does not fail reads everything. -/
theorem exists_run_unfailing (step : State → Input → Option Output × State)
    (start : State) (inputs : List Input) :
    ∃ finish, Run (Proceeds (@unfailing _ _ _ Failure step)) start inputs
      finish := by
  induction inputs using List.reverseRecOn with
  | nil => exact ⟨start, .nil⟩
  | append_singleton past input ih =>
      obtain ⟨middle, run⟩ := ih
      exact ⟨_, .snoc run rfl⟩

theorem drain_unfailing_singleton
    (step : State → Input → Option Output × State) (start : State)
    (input : Input) :
    drain (@unfailing _ _ _ Failure step) start [input] =
      .ok (step start input) := rfl

section Drain

variable {step : State → Input → Option Output × Except Failure State}

theorem transduce_append {start middle : State} {past later : List Input}
    (run : Run (Proceeds step) start past middle) :
    (transduce step start (past ++ later)).1 =
      (transduce step start past).1 ++ (transduce step middle later).1 := by
  induction past generalizing start with
  | nil =>
      rw [run.eq_of_nil]
      rfl
  | cons input past ih =>
      obtain ⟨next, moved, rest⟩ := run.head
      rw [List.cons_append, transduce_ok moved, transduce_ok moved, ih rest,
        List.append_assoc]

theorem getLast?_transduce_append {start middle : State}
    {past later : List Input} (run : Run (Proceeds step) start past middle) :
    (transduce step start (past ++ later)).1.getLast? =
      (transduce step middle later).1.getLast?.or
        (transduce step start past).1.getLast? := by
  rw [transduce_append run, List.getLast?_append]

/-- What is kept is the last item that is put out. -/
theorem drain_eq_ok_iff {start finish : State} {inputs : List Input}
    {latest : Option Output} :
    drain step start inputs = .ok (latest, finish) ↔
      Run (Proceeds step) start inputs finish ∧
        latest = (transduce step start inputs).1.getLast? := by
  induction inputs generalizing start latest with
  | nil =>
      constructor
      · intro drained
        cases drained
        exact ⟨.nil, rfl⟩
      · rintro ⟨run, rfl⟩
        rw [run.eq_of_nil]
        rfl
  | cons input later ih =>
      unfold drain
      constructor
      · intro drained
        obtain ⟨next, moved, rest⟩ := bind_eq_ok_iff.mp drained
        obtain ⟨⟨last, state⟩, drained, same⟩ := bind_eq_ok_iff.mp rest
        cases same
        obtain ⟨run, rfl⟩ := ih.mp drained
        refine ⟨Run.append (.snoc .nil moved) run, ?_⟩
        rw [transduce_ok moved, List.getLast?_append]
        cases (step start input).1 <;> rfl
      · rintro ⟨run, rfl⟩
        obtain ⟨next, moved, rest⟩ := run.head
        have drained := ih.mpr ⟨rest, rfl⟩
        rw [transduce_ok moved, List.getLast?_append]
        apply bind_eq_ok_iff.mpr ⟨next, moved, ?_⟩
        apply bind_eq_ok_iff.mpr ⟨_, drained, ?_⟩
        cases (step start input).1 <;> rfl

end Drain

section Chain

variable {first : First → Input → Option Middle × Except Failure First}
variable {second : Second → Middle → Option Output × Except Failure Second}

theorem chain_none {state : First} {reader : Second} {input : Input}
    (nothing : (first state input).1 = none) :
    chain first second (state, reader) input =
      (none, do return (← (first state input).2, reader)) := by
  simp only [chain, nothing]

theorem chain_some {state : First} {reader : Second} {input : Input}
    {middle : Middle} (puts : (first state input).1 = some middle) :
    chain first second (state, reader) input =
      ((second reader middle).1, do
        let following ← (second reader middle).2
        return (← (first state input).2, following)) := by
  simp only [chain, puts]

theorem proceeds_chain_iff {state next : First} {reader following : Second}
    {input : Input} :
    Proceeds (chain first second) (state, reader) input (next, following) ↔
      Proceeds first state input next ∧
        Run (Proceeds second) reader (first state input).1.toList
          following := by
  unfold Proceeds
  cases puts : (first state input).1 with
  | none =>
      rw [chain_none puts]
      constructor
      · intro both
        obtain ⟨_, moved, same⟩ := bind_eq_ok_iff.mp both
        cases same
        exact ⟨moved, .nil⟩
      · rintro ⟨moved, run⟩
        rw [run.eq_of_nil, moved]
        rfl
  | some middle =>
      rw [chain_some puts]
      constructor
      · intro both
        obtain ⟨_, read, rest⟩ := bind_eq_ok_iff.mp both
        obtain ⟨_, moved, same⟩ := bind_eq_ok_iff.mp rest
        cases same
        exact ⟨moved, @Run.snoc _ _ _ _ [] _ _ _ .nil read⟩
      · rintro ⟨moved, run⟩
        obtain ⟨before, nothing, read⟩ := @Run.last _ _ _ _ _ [] middle run
        rw [nothing.eq_of_nil] at read
        apply bind_eq_ok_iff.mpr ⟨following, read, ?_⟩
        rw [moved]
        rfl

theorem chain_output (state : First) (reader : Second) (input : Input) :
    (chain first second (state, reader) input).1.toList =
      (transduce second reader (first state input).1.toList).1 := by
  cases puts : (first state input).1 with
  | none =>
      rw [chain_none puts]
      rfl
  | some middle =>
      rw [chain_some puts, Option.toList_some]
      cases next : (second reader middle).2 with
      | error failure => rw [transduce_error next]
      | ok following =>
          rw [transduce_ok next]
          exact (List.append_nil _).symm

/-- The second transducer runs over the output of the first one. -/
theorem run_chain_iff {state next : First} {reader following : Second}
    {inputs : List Input} :
    Run (Proceeds (chain first second)) (state, reader) inputs
        (next, following) ↔
      Run (Proceeds first) state inputs next ∧
        Run (Proceeds second) reader (transduce first state inputs).1
          following := by
  induction inputs using List.reverseRecOn generalizing next following with
  | nil =>
      constructor
      · intro run
        cases run.eq_of_nil
        exact ⟨.nil, .nil⟩
      · rintro ⟨run, read⟩
        rw [run.eq_of_nil, read.eq_of_nil]
        exact .nil
  | append_singleton past input ih =>
      constructor
      · intro run
        obtain ⟨⟨middle, between⟩, before, moved⟩ := run.last
        obtain ⟨earlier, read⟩ := ih.mp before
        obtain ⟨proceeds, rest⟩ := proceeds_chain_iff.mp moved
        rw [transduce_snoc earlier]
        exact ⟨.snoc earlier proceeds, Run.append read rest⟩
      · rintro ⟨run, read⟩
        obtain ⟨middle, earlier, proceeds⟩ := run.last
        rw [transduce_snoc earlier] at read
        obtain ⟨between, before, rest⟩ := read.split
        exact .snoc (ih.mpr ⟨earlier, before⟩)
          (proceeds_chain_iff.mpr ⟨proceeds, rest⟩)

theorem transduce_chain {state next : First} {reader following : Second}
    {inputs : List Input}
    (run : Run (Proceeds (chain first second)) (state, reader) inputs
      (next, following)) :
    (transduce (chain first second) (state, reader) inputs).1 =
      (transduce second reader (transduce first state inputs).1).1 := by
  induction inputs using List.reverseRecOn generalizing next following with
  | nil => rfl
  | append_singleton past input ih =>
      obtain ⟨⟨middle, between⟩, before, moved⟩ := run.last
      obtain ⟨earlier, read⟩ := run_chain_iff.mp before
      rw [transduce_snoc before, transduce_snoc earlier,
        transduce_append read, ih before, chain_output]

end Chain

end CallingService.Foundation
