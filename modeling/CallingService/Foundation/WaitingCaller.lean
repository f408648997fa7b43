import CallingService.Foundation.Run
import Mathlib.Data.List.Nodup

/-!
# One waiting caller

A server keeps at most one caller waiting.  It serves the caller later, or at
once, and a new caller displaces the one that waits.  When no caller calls
twice, each is answered at most once, and the waiting caller is the one that
has not been answered.
-/

namespace CallingService.Foundation.WaitingCaller

variable {Caller Reply : Type*}

/-- What is seen of one step of the server. -/
structure Turn (Caller Reply : Type*) where
  call : Option Caller
  replies : List (Caller × Reply)

def displacing (displaced : Reply) (waiting : Option Caller) :
    List (Caller × Reply) :=
  waiting.toList.map fun caller => (caller, displaced)

inductive Step (served displaced : Reply) :
    Option Caller → Turn Caller Reply → Option Caller → Prop where
  | idle {waiting : Option Caller} :
      Step served displaced waiting ⟨none, []⟩ waiting
  | serve {caller : Caller} :
      Step served displaced (some caller) ⟨none, [(caller, served)]⟩ none
  | call {waiting : Option Caller} {caller : Caller} :
      Step served displaced waiting
        ⟨some caller, displacing displaced waiting⟩ (some caller)
  | callServed {waiting : Option Caller} {caller : Caller} :
      Step served displaced waiting
        ⟨some caller, displacing displaced waiting ++ [(caller, served)]⟩ none

def calls (history : List (Turn Caller Reply)) : List Caller :=
  history.filterMap Turn.call

@[simp] theorem calls_snoc (history : List (Turn Caller Reply))
    (turn : Turn Caller Reply) :
    calls (history ++ [turn]) = calls history ++ turn.call.toList := by
  unfold calls
  cases called : turn.call <;> simp [List.filterMap_append, called]

variable {caller : Caller}

theorem fresh_of_nodup {history : List (Turn Caller Reply)}
    {replies : List (Caller × Reply)}
    (distinct : (calls (history ++ [⟨some caller, replies⟩])).Nodup) :
    caller ∉ calls history := by
  intro called
  rw [calls_snoc] at distinct
  exact (List.nodup_append.mp distinct).2.2 caller called caller (by simp) rfl

theorem reply_cases {served displaced : Reply} {waiting after : Option Caller}
    {turn : Turn Caller Reply}
    (taken : Step served displaced waiting turn after) {reply : Reply}
    (replied : (caller, reply) ∈ turn.replies) :
    reply = served ∨ reply = displaced := by
  cases taken with
  | idle => simp at replied
  | serve =>
      simp only [List.mem_singleton, Prod.mk.injEq] at replied
      exact .inl replied.2
  | call =>
      simp only [displacing, List.mem_map, Prod.mk.injEq] at replied
      obtain ⟨_, _, _, same⟩ := replied
      exact .inr same.symm
  | callServed =>
      simp only [displacing, List.mem_append, List.mem_map, Prod.mk.injEq,
        List.mem_singleton] at replied
      rcases replied with ⟨_, _, _, same⟩ | ⟨_, same⟩
      · exact .inr same.symm
      · exact .inl same

section Replies

variable [DecidableEq Caller]

def answersTo (caller : Caller) (replies : List (Caller × Reply)) :
    List Reply :=
  (replies.filter fun reply => reply.1 = caller).map Prod.snd

def repliesTo (caller : Caller) (history : List (Turn Caller Reply)) :
    List Reply :=
  answersTo caller (history.flatMap Turn.replies)

@[simp] theorem answersTo_append (caller : Caller)
    (first second : List (Caller × Reply)) :
    answersTo caller (first ++ second) =
      answersTo caller first ++ answersTo caller second := by
  simp [answersTo]

@[simp] theorem answersTo_nil (caller : Caller) :
    answersTo caller ([] : List (Caller × Reply)) = [] := rfl

theorem answersTo_singleton_self (caller : Caller) (reply : Reply) :
    answersTo caller [(caller, reply)] = [reply] := by
  simp [answersTo]

theorem answersTo_singleton_ne {caller other : Caller} (reply : Reply)
    (different : other ≠ caller) :
    answersTo caller [(other, reply)] = [] := by
  simp [answersTo, different]

@[simp] theorem repliesTo_snoc (caller : Caller)
    (history : List (Turn Caller Reply)) (turn : Turn Caller Reply) :
    repliesTo caller (history ++ [turn]) =
      repliesTo caller history ++ answersTo caller turn.replies := by
  simp [repliesTo]

theorem answersTo_displacing_self (displaced : Reply) (caller : Caller) :
    answersTo caller (displacing displaced (some caller)) = [displaced] :=
  answersTo_singleton_self caller displaced

theorem answersTo_displacing_ne {displaced : Reply} {waiting : Option Caller}
    (different : waiting ≠ some caller) :
    answersTo caller (displacing displaced waiting) = [] := by
  cases waiting with
  | none => rfl
  | some other =>
      apply answersTo_singleton_ne
      simpa using different

def Unanswered (caller : Caller) (history : List (Turn Caller Reply)) : Prop :=
  caller ∈ calls history ∧ repliesTo caller history = []

/-- What a history with distinct callers has to do with the waiting one. -/
structure Fits (history : List (Turn Caller Reply)) (waiting : Option Caller) :
    Prop where
  unanswered : ∀ caller, waiting = some caller ↔ Unanswered caller history
  latest : ∀ caller, waiting = some caller →
    (calls history).getLast? = some caller
  once : ∀ caller, (repliesTo caller history).length ≤ 1
  uncalled : ∀ caller, caller ∉ calls history → repliesTo caller history = []

theorem fits_nil : Fits ([] : List (Turn Caller Reply)) none where
  unanswered := by simp [Unanswered, calls]
  latest := by simp
  once := by simp [repliesTo]
  uncalled := by simp [repliesTo]

namespace Fits

variable {served displaced : Reply} {history : List (Turn Caller Reply)}
variable {waiting : Option Caller}

theorem waiting_ne (fits : Fits history waiting)
    (fresh : caller ∉ calls history) : waiting ≠ some caller := by
  intro waits
  exact fresh ((fits.unanswered caller).mp waits).1

/-- Whoever waits and is answered by the turn has one answer afterwards. -/
private theorem answered_once (fits : Fits history waiting)
    (waits : waiting = some caller) (reply : Reply) :
    repliesTo caller history ++ [reply] = [reply] := by
  rw [((fits.unanswered caller).mp waits).2]
  rfl

theorem serve (fits : Fits history (some caller)) :
    Fits (history ++ [⟨none, [(caller, served)]⟩]) none := by
  have alone := fits.answered_once rfl served
  constructor
  · intro other
    simp only [reduceCtorEq, false_iff]
    rintro ⟨called, unanswered⟩
    by_cases same : caller = other
    · subst same
      simp [answersTo_singleton_self] at unanswered
    · apply same
      have waits := (fits.unanswered other).mpr
        ⟨by simpa using called, by
          simpa [answersTo_singleton_ne served same] using unanswered⟩
      simpa using waits
  · simp
  · intro other
    by_cases same : caller = other
    · subst same
      simp [answersTo_singleton_self, alone]
    · simpa [answersTo_singleton_ne served same] using fits.once other
  · intro other uncalled
    have before : other ∉ calls history := by simpa using uncalled
    have different : caller ≠ other := by
      rintro rfl
      exact fits.waiting_ne before rfl
    simpa [answersTo_singleton_ne served different] using
      fits.uncalled other before

/-- After a new call the displaced caller has its one answer. -/
private theorem displaced_once (fits : Fits history waiting) (other : Caller) :
    (repliesTo other history ++
      answersTo other (displacing displaced waiting)).length ≤ 1 := by
  by_cases waits : waiting = some other
  · rw [waits, answersTo_displacing_self, fits.answered_once waits]
    simp
  · rw [answersTo_displacing_ne waits]
    simpa using fits.once other

/-- After a new call no earlier caller is left without an answer. -/
private theorem displaced_all (fits : Fits history waiting) {other : Caller}
    (called : other ∈ calls history) :
    repliesTo other history ++
      answersTo other (displacing displaced waiting) ≠ [] := by
  intro unanswered
  obtain ⟨before, here⟩ := List.append_eq_nil_iff.mp unanswered
  have waits := (fits.unanswered other).mpr ⟨called, before⟩
  rw [waits, answersTo_displacing_self] at here
  cases here

/-- A caller that has not called yet is not answered. -/
private theorem displaced_none (fits : Fits history waiting) {other : Caller}
    (fresh : other ∉ calls history) :
    repliesTo other history ++
      answersTo other (displacing displaced waiting) = [] := by
  rw [fits.uncalled other fresh, answersTo_displacing_ne
    (fits.waiting_ne fresh)]
  rfl

theorem call (fits : Fits history waiting) (fresh : caller ∉ calls history) :
    Fits (history ++ [⟨some caller, displacing displaced waiting⟩])
      (some caller) := by
  constructor
  · intro other
    constructor
    · intro same
      cases same
      refine ⟨by simp, ?_⟩
      simpa using fits.displaced_none fresh
    · rintro ⟨called, unanswered⟩
      by_contra different
      have before : other ∈ calls history := by
        simp only [calls_snoc, Option.toList_some, List.mem_append,
          List.mem_singleton] at called
        exact called.resolve_right fun same => different (same ▸ rfl)
      apply fits.displaced_all before
      simpa using unanswered
  · simp
  · intro other
    simpa using fits.displaced_once other
  · intro other uncalled
    have before : other ∉ calls history := by
      intro called
      exact uncalled (by simp [called])
    simpa using fits.displaced_none before

theorem callServed (fits : Fits history waiting)
    (fresh : caller ∉ calls history) :
    Fits (history ++
      [⟨some caller, displacing displaced waiting ++ [(caller, served)]⟩])
      none := by
  constructor
  · intro other
    simp only [reduceCtorEq, false_iff]
    rintro ⟨called, unanswered⟩
    simp only [repliesTo_snoc, answersTo_append, ← List.append_assoc]
      at unanswered
    obtain ⟨before, here⟩ := List.append_eq_nil_iff.mp unanswered
    by_cases same : caller = other
    · subst same
      simp [answersTo_singleton_self] at here
    · have earlier : other ∈ calls history := by
        simp only [calls_snoc, Option.toList_some, List.mem_append,
          List.mem_singleton] at called
        exact called.resolve_right fun equal => same equal.symm
      exact fits.displaced_all earlier before
  · simp
  · intro other
    simp only [repliesTo_snoc, answersTo_append, ← List.append_assoc]
    by_cases same : caller = other
    · subst same
      rw [fits.displaced_none fresh, answersTo_singleton_self]
      simp
    · rw [answersTo_singleton_ne served same, List.append_nil]
      exact fits.displaced_once other
  · intro other uncalled
    have before : other ∉ calls history := by
      intro called
      exact uncalled (by simp [called])
    have different : caller ≠ other := by
      rintro rfl
      exact uncalled (by simp)
    simp only [repliesTo_snoc, answersTo_append, ← List.append_assoc]
    rw [answersTo_singleton_ne served different, List.append_nil]
    exact fits.displaced_none before

theorem step {turn : Turn Caller Reply} {after : Option Caller}
    (fits : Fits history waiting)
    (distinct : (calls (history ++ [turn])).Nodup)
    (taken : Step served displaced waiting turn after) :
    Fits (history ++ [turn]) after := by
  cases taken with
  | idle =>
      constructor
      · simpa [Unanswered] using fits.unanswered
      · simpa using fits.latest
      · simpa using fits.once
      · simpa using fits.uncalled
  | serve => exact fits.serve
  | call => exact fits.call (fresh_of_nodup distinct)
  | callServed => exact fits.callServed (fresh_of_nodup distinct)

end Fits

variable {served displaced : Reply} {history : List (Turn Caller Reply)}
variable {waiting after : Option Caller} {turn : Turn Caller Reply}

theorem fits_of_run
    (run : Run (Step served displaced) none history waiting)
    (distinct : (calls history).Nodup) : Fits history waiting := by
  induction run with
  | nil => exact fits_nil
  | snoc _ taken ih =>
      have earlier := distinct
      rw [calls_snoc] at earlier
      exact (ih (List.nodup_append.mp earlier).1).step distinct taken

/-- The caller is displaced exactly when somebody calls while it waits. -/
theorem displaced_iff (different : served ≠ displaced)
    (fits : Fits history waiting)
    (taken : Step served displaced waiting turn after) (caller : Caller) :
    (caller, displaced) ∈ turn.replies ↔
      turn.call ≠ none ∧ Unanswered caller history := by
  rw [← fits.unanswered]
  cases taken with
  | idle => simp
  | serve => simp [different.symm]
  | call => simp [displacing, eq_comm]
  | callServed => simp [displacing, different.symm, eq_comm]

/-- The caller is served exactly when it was the last one to call, has not
been answered and need not wait any longer. -/
theorem served_iff (different : served ≠ displaced)
    (fits : Fits history waiting)
    (distinct : (calls (history ++ [turn])).Nodup)
    (taken : Step served displaced waiting turn after) (caller : Caller) :
    (caller, served) ∈ turn.replies ↔
      after = none ∧ (calls (history ++ [turn])).getLast? = some caller ∧
        repliesTo caller history = [] := by
  cases taken with
  | idle =>
      simp only [List.not_mem_nil, false_iff, calls_snoc, Option.toList_none,
        List.append_nil]
      rintro ⟨rfl, last, unanswered⟩
      have called := List.mem_of_getLast? last
      have waits := (fits.unanswered caller).mpr ⟨called, unanswered⟩
      cases waits
  | serve =>
      rename_i waits
      have latest := fits.latest waits rfl
      have unanswered := ((fits.unanswered waits).mp rfl).2
      simp only [List.mem_singleton, Prod.mk.injEq, and_true, calls_snoc,
        Option.toList_none, List.append_nil, latest, Option.some.injEq,
        true_and]
      constructor
      · rintro rfl
        exact ⟨rfl, unanswered⟩
      · exact fun same => same.1.symm
  | call => simp [displacing, different.symm]
  | callServed =>
      rename_i called
      have unanswered := fits.uncalled called (fresh_of_nodup distinct)
      simp only [List.mem_append, List.mem_singleton, Prod.mk.injEq, and_true,
        calls_snoc, Option.toList_some, List.getLast?_concat,
        Option.some.injEq, true_and]
      constructor
      · rintro (inDisplacing | rfl)
        · simp [displacing, different.symm] at inDisplacing
        · exact ⟨rfl, unanswered⟩
      · exact fun same => .inr same.1.symm

end Replies

end CallingService.Foundation.WaitingCaller
