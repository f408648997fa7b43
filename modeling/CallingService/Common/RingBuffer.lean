import CallingService.Common.Basics
import Mathlib.Data.List.DropRight

/-!
# Ring buffers

A buffer of a fixed size.  Pushing an item drops the oldest one if the buffer
is full.
-/

namespace CallingService

structure RingBuffer (Item : Type) where
  limit : Nat
  values : List Item
  withinLimit : values.length ≤ limit

namespace RingBuffer

variable {Item : Type}

def new (limit : Nat) : RingBuffer Item where
  limit := limit
  values := []
  withinLimit := Nat.zero_le limit

/-- The popped item is returned as well. -/
def push (buffer : RingBuffer Item) (value : Item) :
    RingBuffer Item × Option Item :=
  if full : buffer.limit < (buffer.values ++ [value]).length then
    ({ buffer with
        values := (buffer.values ++ [value]).tail
        withinLimit := by
          have := buffer.withinLimit
          rw [List.length_tail, List.length_append]
          exact this },
      (buffer.values ++ [value]).head?)
  else
    ({ buffer with
        values := buffer.values ++ [value]
        withinLimit := Nat.not_lt.mp full }, none)

def isFull (buffer : RingBuffer Item) : Bool :=
  buffer.values.length == buffer.limit

@[simp] theorem limit_push (buffer : RingBuffer Item) (value : Item) :
    (buffer.push value).1.limit = buffer.limit := by
  unfold push
  split <;> rfl

/-- The buffer holds the newest of the items that have been pushed. -/
def Holds (buffer : RingBuffer Item) (pushed : List Item) : Prop :=
  buffer.values = pushed.rtake buffer.limit

theorem holds_new (limit : Nat) : (new limit : RingBuffer Item).Holds [] := by
  unfold Holds
  rw [List.rtake_nil]
  rfl

theorem rtake_snoc_eq_tail {pushed : List Item} {limit : Nat} {value : Item}
    (full : limit < (pushed.rtake limit ++ [value]).length) :
    (pushed.rtake limit ++ [value]).tail =
      (pushed ++ [value]).rtake limit := by
  have enough : limit ≤ pushed.length := by
    unfold List.rtake at full
    simp at full
    omega
  unfold List.rtake
  cases limit with
  | zero => simp
  | succ limit =>
      rw [List.length_append, List.length_singleton, List.tail_append_of_ne_nil,
        List.tail_drop, List.drop_append_of_le_length]
      · congr 2
        omega
      · omega
      · simp
        omega

theorem Holds.push {buffer : RingBuffer Item} {pushed : List Item}
    (holds : buffer.Holds pushed) (value : Item) :
    (buffer.push value).1.Holds (pushed ++ [value]) := by
  unfold Holds at *
  rw [limit_push]
  unfold RingBuffer.push
  split
  · rename_i full
    change (buffer.values ++ [value]).tail = _
    rw [holds] at full ⊢
    exact rtake_snoc_eq_tail full
  · rename_i room
    change buffer.values ++ [value] = _
    rw [holds] at room ⊢
    unfold List.rtake at *
    simp at room
    have all : pushed.length + 1 ≤ buffer.limit := by omega
    rw [List.length_append, List.length_singleton, Nat.sub_eq_zero_of_le all,
      Nat.sub_eq_zero_of_le (Nat.le_of_succ_le all), List.drop_zero,
      List.drop_zero]

end RingBuffer

end CallingService
