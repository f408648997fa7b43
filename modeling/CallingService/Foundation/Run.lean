import Mathlib.Data.List.Induction
import Mathlib.Logic.Relation

/-!
# Labelled runs

A step relation reads one label at a time.  A run lists its labels from the
oldest to the newest one, so that an invariant may speak about the whole
history that led to the current state.
-/

namespace CallingService.Foundation

variable {State Label : Type*}

/-- `Run step start labels finish` follows `labels` from `start` to
`finish`. -/
inductive Run (step : State → Label → State → Prop) (start : State) :
    List Label → State → Prop where
  | nil : Run step start [] start
  | snoc {labels : List Label} {label : Label} {middle finish : State} :
      Run step start labels middle →
      step middle label finish →
      Run step start (labels ++ [label]) finish

/-- Keep only the steps whose label is admitted in the state before it. -/
def Guarded (admitted : State → Label → Prop)
    (step : State → Label → State → Prop) : State → Label → State → Prop :=
  fun before label after => admitted before label ∧ step before label after

/-- The step relation of a total transition function. -/
def Stepping (next : State → Label → State) : State → Label → State → Prop :=
  fun before label after => next before label = after

namespace Run

variable {step : State → Label → State → Prop} {start middle finish : State}
variable {labels : List Label}

/-- What holds of the empty history and is extended by every step holds of
every run. -/
theorem history_invariant {Inv : List Label → State → Prop}
    (run : Run step start labels finish)
    (initial : Inv [] start)
    (preserved : ∀ {past label before after},
      Inv past before → step before label after →
        Inv (past ++ [label]) after) :
    Inv labels finish := by
  induction run with
  | nil => exact initial
  | snoc _ last ih => exact preserved ih last

theorem invariant {Inv : State → Prop}
    (run : Run step start labels finish)
    (initial : Inv start)
    (preserved : ∀ {before label after},
      Inv before → step before label after → Inv after) :
    Inv finish := by
  induction run with
  | nil => exact initial
  | snoc _ last ih => exact preserved ih last

theorem mono {weaker : State → Label → State → Prop}
    (run : Run step start labels finish)
    (allowed : ∀ {before label after},
      step before label after → weaker before label after) :
    Run weaker start labels finish := by
  induction run with
  | nil => exact .nil
  | snoc _ last ih => exact .snoc ih (allowed last)

theorem append {later : List Label}
    (first : Run step start labels middle)
    (second : Run step middle later finish) :
    Run step start (labels ++ later) finish := by
  induction second with
  | nil => simpa using first
  | snoc _ last ih =>
      rw [← List.append_assoc]
      exact .snoc ih last

theorem cons {label : Label} (first : step start label middle)
    (rest : Run step middle labels finish) :
    Run step start (label :: labels) finish :=
  append (.snoc .nil first) rest

theorem eq_of_nil (run : Run step start [] finish) : finish = start := by
  generalize isNil : ([] : List Label) = none at run
  cases run with
  | nil => rfl
  | snoc _ _ => simp at isNil

theorem last {label : Label} (run : Run step start (labels ++ [label]) finish) :
    ∃ before, Run step start labels before ∧ step before label finish := by
  generalize whole : labels ++ [label] = all at run
  cases run with
  | nil => simp at whole
  | snoc earlier final =>
      obtain ⟨rfl, same⟩ := List.append_inj' whole rfl
      cases same
      exact ⟨_, earlier, final⟩

/-- A run passes through a state after each part of its labels. -/
theorem split {first second : List Label}
    (run : Run step start (first ++ second) finish) :
    ∃ middle, Run step start first middle ∧ Run step middle second finish := by
  generalize whole : first ++ second = labels at run
  induction run generalizing second with
  | nil =>
      obtain ⟨rfl, rfl⟩ := List.append_eq_nil_iff.mp whole
      exact ⟨start, .nil, .nil⟩
  | snoc earlier last ih =>
      rcases List.eq_nil_or_concat second with rfl | ⟨rest, final, rfl⟩
      · rw [List.append_nil] at whole
        rw [whole]
        exact ⟨_, .snoc earlier last, .nil⟩
      · rw [List.concat_eq_append, ← List.append_assoc] at whole
        obtain ⟨same, sameLast⟩ := List.append_inj' whole rfl
        cases sameLast
        obtain ⟨between, before, after⟩ := ih same
        rw [List.concat_eq_append]
        exact ⟨between, before, .snoc after last⟩

/-- A run that is not empty begins with its first label. -/
theorem head {label : Label} (run : Run step start (label :: labels) finish) :
    ∃ second, step start label second ∧ Run step second labels finish := by
  rw [← List.singleton_append] at run
  obtain ⟨second, first, rest⟩ := run.split
  rw [← List.nil_append [label]] at first
  obtain ⟨before, nothing, begun⟩ := first.last
  rw [nothing.eq_of_nil] at begun
  exact ⟨second, begun, rest⟩

/-- Of two runs of a deterministic system, one continues the other. -/
theorem comparable {others : List Label} {other : State}
    (run : Run step start labels finish)
    (another : Run step start others other)
    (deterministic : ∀ {before firstLabel secondLabel first second},
      step before firstLabel first → step before secondLabel second →
        firstLabel = secondLabel ∧ first = second) :
    (∃ rest, Run step finish rest other) ∨
      ∃ rest, Run step other rest finish := by
  induction run with
  | nil => exact .inl ⟨others, another⟩
  | snoc earlier last ih =>
      rcases ih with ⟨rest, ahead⟩ | ⟨rest, behind⟩
      · cases rest with
        | nil =>
            generalize isNil : ([] : List Label) = none at ahead
            cases ahead with
            | nil => exact .inr ⟨[_], .snoc .nil last⟩
            | snoc _ _ => simp at isNil
        | cons label rest =>
            obtain ⟨second, begun, later⟩ := ahead.head
            obtain ⟨_, rfl⟩ := deterministic last begun
            exact .inl ⟨rest, later⟩
      · exact .inr ⟨_, .snoc behind last⟩

end Run

/-! ## Histories -/

section Histories

variable {Item : Type*}

/-- Each item of a history stands in the relation to those before it. -/
def Throughout (holds : List Item → Item → Prop) (history : List Item) :
    Prop :=
  ∀ earlier item later, history = earlier ++ item :: later →
    holds earlier item

theorem throughout_nil {holds : List Item → Item → Prop} :
    Throughout holds [] := by
  intro earlier item later split
  simp at split

theorem throughout_snoc {holds : List Item → Item → Prop}
    {history : List Item} {item : Item} :
    Throughout holds (history ++ [item]) ↔
      Throughout holds history ∧ holds history item := by
  constructor
  · intro throughout
    refine ⟨?_, throughout history item [] rfl⟩
    rintro earlier other later rfl
    exact throughout earlier other (later ++ [item]) (by simp)
  · rintro ⟨before, last⟩ earlier other later split
    rcases List.eq_nil_or_concat later with rfl | ⟨rest, final, rfl⟩
    · obtain ⟨rfl, same⟩ := List.append_inj' split rfl
      cases same
      exact last
    · rw [List.concat_eq_append, ← List.cons_append, ← List.append_assoc]
        at split
      obtain ⟨rfl, _⟩ := List.append_inj' split rfl
      exact before earlier other rest rfl

/-- What each item either extends or breaks holds of every part of a history
exactly if no item breaks it. -/
theorem forall_prefix_iff_throughout {holds : List Item → Prop}
    {admits : List Item → Item → Prop} {history : List Item}
    (initial : holds [])
    (exact : ∀ past item, holds past →
      (holds (past ++ [item]) ↔ admits past item)) :
    (∀ past, past <+: history → holds past) ↔
      Throughout admits history := by
  constructor
  · rintro always earlier item later rfl
    have before := always earlier (List.prefix_append ..)
    apply (exact earlier item before).mp
    exact always (earlier ++ [item]) ⟨later, by simp⟩
  · intro throughout past isPrefix
    induction past using List.reverseRecOn with
    | nil => exact initial
    | append_singleton earlier item ih =>
        obtain ⟨later, split⟩ := isPrefix
        have before := ih ⟨item :: later, by simpa using split⟩
        apply (exact earlier item before).mpr
        exact throughout earlier item later (by simpa using split.symm)

end Histories

end CallingService.Foundation
