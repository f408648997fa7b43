import Mathlib.Data.List.Nodup
import Mathlib.Logic.Function.Basic

/-!
# Numbers issued by counters

There is one counter for each key.  A drawn number is the value of its counter,
which then moves on, so that no number is drawn twice.
-/

namespace CallingService.Foundation

variable {Key : Type*} [DecidableEq Key]

/-- `Issued next drawn after` draws the listed numbers, in this order. -/
inductive Issued (next : Key → Nat) : List (Key × Nat) → (Key → Nat) → Prop
    where
  | nil : Issued next [] next
  | snoc {drawn : List (Key × Nat)} {middle : Key → Nat} (key : Key) :
      Issued next drawn middle →
      Issued next (drawn ++ [(key, middle key)])
        (Function.update middle key (middle key + 1))

namespace Issued

variable {next middle after : Key → Nat} {drawn later : List (Key × Nat)}

theorem single (next : Key → Nat) (key : Key) :
    Issued next [(key, next key)]
      (Function.update next key (next key + 1)) :=
  .snoc key .nil

theorem append (first : Issued next drawn middle)
    (second : Issued middle later after) :
    Issued next (drawn ++ later) after := by
  induction second with
  | nil => simpa using first
  | snoc key _ ih =>
      rw [← List.append_assoc]
      exact .snoc key ih

theorem mono (issued : Issued next drawn after) (key : Key) :
    next key ≤ after key := by
  induction issued with
  | nil => exact Nat.le_refl _
  | snoc last _ ih =>
      by_cases same : key = last
      · subst same
        rw [Function.update_self]
        omega
      · rw [Function.update_of_ne same]
        exact ih

theorem lt_of_mem (issued : Issued next drawn after) {key : Key}
    {number : Nat} (member : (key, number) ∈ drawn) :
    number < after key := by
  induction issued with
  | nil => cases member
  | @snoc earlier counters last _ ih =>
      have monotone : counters key ≤
          Function.update counters last (counters last + 1) key :=
        (Issued.single counters last).mono key
      rcases List.mem_append.mp member with old | new
      · exact Nat.lt_of_lt_of_le (ih old) monotone
      · cases List.mem_singleton.mp new
        rw [Function.update_self]
        exact Nat.lt_succ_self _

theorem ge_of_mem (issued : Issued next drawn after) {key : Key}
    {number : Nat} (member : (key, number) ∈ drawn) : next key ≤ number := by
  induction issued with
  | nil => cases member
  | snoc last earlier ih =>
      rcases List.mem_append.mp member with old | new
      · exact ih old
      · cases List.mem_singleton.mp new
        exact earlier.mono _

theorem nodup (issued : Issued next drawn after) : drawn.Nodup := by
  induction issued with
  | nil => exact List.nodup_nil
  | @snoc drawn counters last earlier ih =>
      have isNew : (last, counters last) ∉ drawn := fun old =>
        Nat.lt_irrefl _ (earlier.lt_of_mem old)
      rw [← List.concat_eq_append]
      exact ih.concat isNew

/-- The numbers of one key are drawn in order. -/
theorem pairwise_lt (issued : Issued next drawn after) :
    drawn.Pairwise fun left right => left.1 = right.1 → left.2 < right.2 := by
  induction issued with
  | nil => exact List.Pairwise.nil
  | @snoc drawn counters last earlier ih =>
      rw [List.pairwise_append]
      refine ⟨ih, List.pairwise_singleton _ _, ?_⟩
      intro entry member fresh isFresh sameKey
      rw [List.mem_singleton.mp isFresh] at sameKey ⊢
      obtain ⟨key, number⟩ := entry
      cases sameKey
      exact earlier.lt_of_mem member

theorem eq_add_count (issued : Issued next drawn after) (key : Key) :
    after key = next key + (drawn.map Prod.fst).count key := by
  induction issued with
  | nil => rfl
  | snoc last _ ih =>
      rw [List.map_append, List.count_append]
      by_cases same : key = last
      · subst same
        rw [Function.update_self, ih]
        simp
        omega
      · rw [Function.update_of_ne same, ih]
        simp [Ne.symm same]

end Issued

end CallingService.Foundation
