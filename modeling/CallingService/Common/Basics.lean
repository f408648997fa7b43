import CallingService.Foundation.Text
import CallingService.Foundation.Fallible
import Mathlib.Algebra.Order.Ring.Int
import Mathlib.Algebra.Order.Ring.Nat

/-!
# Failures, text and clocks

The pieces of the standard library that every component shares.  A function
that can abort the thread returns `Except Panic`; strings are their UTF-8
bytes; clocks count nanoseconds.
-/

namespace CallingService

open Foundation

/-- The ways in which the modelled code can panic. -/
inductive Panic where
  | outOfBounds
  | notCharBoundary
  | overflow
  | unwrapNone
  | assertion (text : String)
deriving DecidableEq, Repr

/-! ## Fixed-width counters -/

/-- Arithmetic overflow panics in a debug build and wraps in a release
build. -/
inductive BuildProfile where
  | debug
  | release
deriving DecidableEq, Repr

def BuildProfile.addU16 (profile : BuildProfile) (left right : UInt16) :
    Except Panic UInt16 :=
  if profile = .debug ∧ 2 ^ 16 ≤ left.toNat + right.toNat then
    .error .overflow
  else .ok (left + right)

def BuildProfile.subU16 (profile : BuildProfile) (left right : UInt16) :
    Except Panic UInt16 :=
  if profile = .debug ∧ left < right then .error .overflow
  else .ok (left - right)

def BuildProfile.addU32 (profile : BuildProfile) (left right : UInt32) :
    Except Panic UInt32 :=
  if profile = .debug ∧ 2 ^ 32 ≤ left.toNat + right.toNat then
    .error .overflow
  else .ok (left + right)

theorem BuildProfile.addU32_eq_ok {profile : BuildProfile}
    {left right sum : UInt32} (added : profile.addU32 left right = .ok sum) :
    sum = left + right := by
  unfold addU32 at added
  split at added
  · cases added
  · cases added
    rfl

theorem BuildProfile.addU16_eq_ok (profile : BuildProfile)
    (left right : UInt16) (small : left.toNat + right.toNat < 2 ^ 16) :
    ∃ sum, profile.addU16 left right = .ok sum ∧
      sum.toNat = left.toNat + right.toNat := by
  refine ⟨left + right, if_neg (by omega), ?_⟩
  rw [UInt16.toNat_add, Nat.mod_eq_of_lt small]

theorem BuildProfile.subU16_eq_ok (profile : BuildProfile)
    (left right : UInt16) (enough : right.toNat ≤ left.toNat) :
    ∃ difference, profile.subU16 left right = .ok difference ∧
      difference.toNat = left.toNat - right.toNat := by
  have notLess : ¬ left < right := by
    rw [UInt16.lt_iff_toNat_lt]
    omega
  refine ⟨left - right, if_neg (fun failed => notLess failed.2), ?_⟩
  exact UInt16.toNat_sub_of_le _ _ (UInt16.le_iff_toNat_le.mpr enough)

def BuildProfile.addU64 (profile : BuildProfile) (left right : Nat) :
    Except Panic Nat :=
  if left + right < 2 ^ 64 then .ok (left + right)
  else if profile = .debug then .error .overflow
  else .ok ((left + right) % 2 ^ 64)

theorem BuildProfile.addU64_eq_ok (profile : BuildProfile) {left right : Nat}
    (small : left + right < 2 ^ 64) :
    profile.addU64 left right = .ok (left + right) := if_pos small

/-- `sum`: it panics in a debug build where one of the additions would. -/
def BuildProfile.sumU64 (profile : BuildProfile) (values : List Nat) :
    Except Panic Nat :=
  if profile = .debug ∧ 2 ^ 64 ≤ values.sum then .error .overflow
  else .ok (values.sum % 2 ^ 64)

/-- What a release build computes, where sums wrap around. -/
def inRelease {α : Type} [Inhabited α]
    (computed : BuildProfile → Except Panic α) : α :=
  (computed .release).toOption.getD default

theorem inRelease_eq {α : Type} [Inhabited α]
    {computed : BuildProfile → Except Panic α} {value : α}
    (returned : computed .release = .ok value) :
    inRelease computed = value := by
  unfold inRelease
  rw [returned]
  rfl

/-- A sum that wraps around is smaller than either summand. -/
theorem BuildProfile.addU64_lt {profile : BuildProfile} {left right sum : Nat}
    (overflow : ¬ left + right < 2 ^ 64) (small : right < 2 ^ 64)
    (leftSmall : left < 2 ^ 64)
    (added : profile.addU64 left right = .ok sum) : sum < left := by
  unfold addU64 at added
  rw [if_neg overflow] at added
  split at added
  · cases added
  · cases added
    rw [Nat.mod_eq_sub_mod (Nat.not_lt.mp overflow),
      Nat.mod_eq_of_lt (by omega)]
    omega

/-- The increment of a 64-bit counter. -/
def incrementU64 (value : Nat) : Except Panic Nat :=
  if value + 1 < 2 ^ 64 then .ok (value + 1) else .error .overflow

theorem incrementU64_eq_ok {value next : Nat}
    (incremented : incrementU64 value = .ok next) : next = value + 1 := by
  unfold incrementU64 at incremented
  split at incremented
  · cases incremented
    rfl
  · cases incremented

/-! ## Strings -/

/-- The bytes of an ASCII literal. -/
def ascii (text : String) : Bytes :=
  text.toList.map fun character => character.toNat.toUInt8

/-- `str::is_char_boundary`: the first byte of a character, or either end. -/
def isCharBoundary (text : Bytes) (index : Nat) : Bool :=
  if index = 0 then true
  else match text[index]? with
    | some byte => byte < 128 || 192 ≤ byte
    | none => index = text.length

/-- Indexing a string by a byte range. -/
def strSlice (text : Bytes) (start finish : Nat) : Except Panic Bytes :=
  if finish < start ∨ text.length < finish then .error .outOfBounds
  else if isCharBoundary text start && isCharBoundary text finish then
    .ok ((text.take finish).drop start)
  else .error .notCharBoundary

/-- The digits of `str::parse::<u64>`, from the most significant one. -/
def parseDigitsU64 : Nat → Bytes → Option Nat
  | value, [] => some value
  | value, digit :: rest =>
      if 48 ≤ digit ∧ digit ≤ 57 then
        let next := value * 10 + (digit - 48).toNat
        if next < 2 ^ 64 then parseDigitsU64 next rest else none
      else none

/-- `str::parse::<u64>`: a leading plus sign is allowed, a sign alone and the
empty string are not. -/
def parseU64 : Bytes → Option Nat
  | [] => none
  | [43] => none
  | 43 :: digits => parseDigitsU64 0 digits
  | digits => parseDigitsU64 0 digits

/-! ## Clocks -/

/-- Nanoseconds. -/
abbrev Duration := Nat

def nanosPerSec : Nat := 1000000000

def fromSecs (seconds : Nat) : Duration := seconds * nanosPerSec

def fromMillis (milliseconds : Nat) : Duration := milliseconds * 1000000

/-- Wall-clock time: nanoseconds from the Unix epoch, with whole seconds in
the range of an `i64`. -/
structure SystemTime where
  nanos : Int
  lower : -(2 ^ 63) * (nanosPerSec : Int) ≤ nanos
  upper : nanos < 2 ^ 63 * (nanosPerSec : Int)

def SystemTime.unixEpoch : SystemTime where
  nanos := 0
  lower := by decide
  upper := by decide

/-- `SystemTime::checked_add`. -/
def SystemTime.checkedAdd (time : SystemTime) (duration : Duration) :
    Option SystemTime :=
  if upper : time.nanos + duration < 2 ^ 63 * (nanosPerSec : Int) then
    some {
      nanos := time.nanos + duration
      lower := by
        have := time.lower
        omega
      upper := upper
    }
  else none

@[simp] theorem SystemTime.unixEpoch_nanos : unixEpoch.nanos = 0 := rfl

theorem SystemTime.checkedAdd_eq_some {time later : SystemTime}
    {duration : Duration} (added : time.checkedAdd duration = some later) :
    later.nanos = time.nanos + duration := by
  unfold checkedAdd at added
  split at added
  · cases added
    rfl
  · cases added

theorem SystemTime.le_of_checkedAdd_eq_none {time now : SystemTime}
    {duration : Duration} (overflow : time.checkedAdd duration = none) :
    now.nanos ≤ time.nanos + duration := by
  unfold checkedAdd at overflow
  split at overflow
  · cases overflow
  · rename_i large
    have := now.upper
    omega

end CallingService
