import Mathlib.Algebra.Order.Ring.Nat
import Mathlib.Order.Lattice

/-!
# Renumbering of streams

A renumbering forwards the numbers of one incoming stream at a time.  While a
window is open, a number keeps its distance from the first one of the window;
a new window starts above everything that has been sent.  Hence an outgoing
number determines the stream and the incoming number it was made from.
-/

namespace CallingService.Foundation

variable {K : Type*}

/-- A stream and the first incoming and outgoing numbers of a window. -/
structure Window (K : Type*) where
  stream : K
  firstIncoming : Nat
  firstOutgoing : Nat

structure Renumbering (K : Type*) where
  window : Option (Window K)
  maxOutgoing : Nat

/-- One forwarded number. -/
structure Renumbered (K : Type*) where
  stream : K
  incoming : Nat
  outgoing : Nat

/-- `Renumbers before sent after`: the numbers `sent` are forwarded, while
windows are closed and opened. -/
inductive Renumbers (before : Renumbering K) :
    List (Renumbered K) → Renumbering K → Prop where
  | refl : Renumbers before [] before
  | close {sent : List (Renumbered K)} {state : Renumbering K} :
      Renumbers before sent state →
      Renumbers before sent { state with window := none }
  | start {sent : List (Renumbered K)} {state : Renumbering K}
      (window : Window K) :
      Renumbers before sent state → state.maxOutgoing < window.firstOutgoing →
      Renumbers before sent ⟨some window, window.firstOutgoing⟩
  | forward {sent : List (Renumbered K)} {state : Renumbering K}
      {window : Window K} (incoming : Nat) :
      Renumbers before sent state → state.window = some window →
      window.firstIncoming ≤ incoming →
      Renumbers before
        (sent ++ [⟨window.stream, incoming,
          window.firstOutgoing + (incoming - window.firstIncoming)⟩])
        { state with
          maxOutgoing := max state.maxOutgoing
            (window.firstOutgoing + (incoming - window.firstIncoming)) }

/-- The number was sent before the window, or inside of it at its place. -/
def Window.Placed (window : Window K) (number : Renumbered K) : Prop :=
  number.outgoing < window.firstOutgoing ∨
    number.stream = window.stream ∧
      window.firstIncoming ≤ number.incoming ∧
      number.outgoing =
        window.firstOutgoing + (number.incoming - window.firstIncoming)

/-- A log of forwarded numbers that fits the state: an outgoing number
determines what it was made from. -/
structure Tracks (state : Renumbering K) (log : List (Renumbered K)) :
    Prop where
  bounded : ∀ number ∈ log, number.outgoing ≤ state.maxOutgoing
  placed : ∀ window, state.window = some window →
    ∀ number ∈ log, window.Placed number
  faithful : ∀ first ∈ log, ∀ second ∈ log,
    first.outgoing = second.outgoing →
      first.stream = second.stream ∧ first.incoming = second.incoming

theorem Tracks.nil (state : Renumbering K) : Tracks state [] :=
  ⟨by simp, by simp, by simp⟩

theorem Tracks.subset {state : Renumbering K}
    {log smaller : List (Renumbered K)} (tracks : Tracks state log)
    (included : smaller ⊆ log) : Tracks state smaller where
  bounded := fun number member => tracks.bounded number (included member)
  placed := fun window isOpen number member =>
    tracks.placed window isOpen number (included member)
  faithful := fun first isFirst second isSecond =>
    tracks.faithful first (included isFirst) second (included isSecond)

/-- Numbers at their places in one window are told apart by their outgoing
numbers. -/
theorem Window.Placed.eq_of_outgoing {window : Window K}
    {number : Renumbered K} {incoming : Nat}
    (placed : window.Placed number)
    (inside : window.firstIncoming ≤ incoming)
    (same : number.outgoing =
      window.firstOutgoing + (incoming - window.firstIncoming)) :
    number.stream = window.stream ∧ number.incoming = incoming := by
  rcases placed with earlier | ⟨isStream, notBefore, atPlace⟩
  · omega
  · exact ⟨isStream, by omega⟩

theorem Tracks.forward {state : Renumbering K} {log : List (Renumbered K)}
    {window : Window K} {incoming : Nat} (tracks : Tracks state log)
    (isOpen : state.window = some window)
    (inside : window.firstIncoming ≤ incoming) :
    Tracks { state with
        maxOutgoing := max state.maxOutgoing
          (window.firstOutgoing + (incoming - window.firstIncoming)) }
      (log ++ [⟨window.stream, incoming,
        window.firstOutgoing + (incoming - window.firstIncoming)⟩]) where
  bounded := by
    intro number member
    rcases List.mem_append.mp member with old | new
    · exact le_max_of_le_left (tracks.bounded number old)
    · rw [List.mem_singleton] at new
      subst new
      exact le_max_right _ _
  placed := by
    intro other otherOpen number member
    have sameWindow : window = other := by
      rw [isOpen] at otherOpen
      cases otherOpen
      rfl
    subst sameWindow
    rcases List.mem_append.mp member with old | new
    · exact tracks.placed window isOpen number old
    · rw [List.mem_singleton] at new
      subst new
      exact .inr ⟨rfl, inside, rfl⟩
  faithful := by
    intro first isFirst second isSecond same
    rcases List.mem_append.mp isFirst with oldFirst | newFirst
    · rcases List.mem_append.mp isSecond with oldSecond | newSecond
      · exact tracks.faithful first oldFirst second oldSecond same
      · rw [List.mem_singleton] at newSecond
        subst newSecond
        exact (tracks.placed window isOpen first oldFirst).eq_of_outgoing
          inside same
    · rw [List.mem_singleton] at newFirst
      subst newFirst
      rcases List.mem_append.mp isSecond with oldSecond | newSecond
      · have found := (tracks.placed window isOpen second
          oldSecond).eq_of_outgoing inside same.symm
        exact ⟨found.1.symm, found.2.symm⟩
      · rw [List.mem_singleton] at newSecond
        subst newSecond
        exact ⟨rfl, rfl⟩

theorem Renumbers.tracks {before after : Renumbering K}
    {log sent : List (Renumbered K)} (renumbers : Renumbers before sent after)
    (tracks : Tracks before log) : Tracks after (log ++ sent) := by
  induction renumbers with
  | refl => simpa using tracks
  | close _ ih => exact ⟨ih.bounded, by simp, ih.faithful⟩
  | start window _ above ih =>
      have below : ∀ number ∈ log ++ _,
          number.outgoing < window.firstOutgoing :=
        fun number member => lt_of_le_of_lt (ih.bounded number member) above
      refine ⟨fun number member => (below number member).le, ?_, ih.faithful⟩
      rintro other isOpen number member
      cases isOpen
      exact .inl (below number member)
  | forward incoming _ isOpen inside ih =>
      rw [← List.append_assoc]
      exact ih.forward isOpen inside

theorem Renumbers.trans {first second third : Renumbering K}
    {sent later : List (Renumbered K)} (one : Renumbers first sent second)
    (two : Renumbers second later third) :
    Renumbers first (sent ++ later) third := by
  induction two with
  | refl => simpa using one
  | close _ ih => exact .close ih
  | start window _ above ih => exact .start window ih above
  | forward incoming _ isOpen inside ih =>
      rw [← List.append_assoc]
      exact .forward incoming ih isOpen inside

end CallingService.Foundation
