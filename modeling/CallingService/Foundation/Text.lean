import Mathlib.Data.List.Basic

/-!
# Delimited text and hexadecimal digits

Byte strings are lists of bytes.  The first part recovers the text before the
last separator from the fields of a split; the second gives hexadecimal
encodings as a relation, with a decoder that computes it.
-/

namespace CallingService.Foundation

abbrev Bytes := List UInt8

/-! ## Fields of a split -/

section Fields

variable {α : Type*} [BEq α] [LawfulBEq α]
variable {separator : α} {text last : List α} {front : List (List α)}

theorem not_mem_of_mem_splitOn {field : List α}
    (member : field ∈ text.splitOn separator) : separator ∉ field := by
  induction text generalizing field with
  | nil =>
      simp only [List.splitOn_nil, List.mem_singleton] at member
      simp [member]
  | cons head tail ih =>
      rw [List.splitOn_cons_eq_if_modifyHead] at member
      split at member
      · rcases List.mem_cons.mp member with empty | later
        · simp [empty]
        · exact ih later
      · rename_i different
        cases fields : tail.splitOn separator with
        | nil => exact absurd fields (List.splitOn_ne_nil _ _)
        | cons first rest =>
            rw [fields, List.modifyHead_cons] at member
            rcases List.mem_cons.mp member with extended | later
            · have firstClean : separator ∉ first := ih (by simp [fields])
              subst extended
              simp only [List.mem_cons, not_or]
              refine ⟨?_, firstClean⟩
              rintro rfl
              simp at different
            · exact ih (by simp [fields, later])

omit [BEq α] [LawfulBEq α] in
private theorem intercalate_concat (nonempty : front ≠ []) :
    [separator].intercalate (front ++ [last]) =
      [separator].intercalate front ++ separator :: last := by
  induction front with
  | nil => exact absurd rfl nonempty
  | cons head tail ih =>
      cases tail with
      | nil => simp
      | cons next rest =>
          have step := ih (by simp)
          simp only [List.cons_append, List.intercalate_cons_cons] at step ⊢
          simp [step]

/-- The text before the last separator splits into the remaining fields. -/
theorem exists_prefix_of_splitOn
    (fields : text.splitOn separator = front ++ [last])
    (nonempty : front ≠ []) :
    ∃ before, text = before ++ separator :: last ∧
      before.splitOn separator = front ∧ separator ∉ last := by
  refine ⟨[separator].intercalate front, ?_, ?_, ?_⟩
  · rw [← intercalate_concat nonempty, ← fields, List.intercalate_splitOn]
  · apply List.splitOn_intercalate _ _ nonempty
    intro field member
    have isField : field ∈ text.splitOn separator := by
      simp [fields, member]
    exact not_mem_of_mem_splitOn isField
  · have isField : last ∈ text.splitOn separator := by
      simp [fields]
    exact not_mem_of_mem_splitOn isField

omit [BEq α] [LawfulBEq α] in
/-- The separator before the last field is determined by the text. -/
theorem unique_last_field {before otherBefore other : List α}
    (same : before ++ separator :: last = otherBefore ++ separator :: other)
    (clean : separator ∉ last) (otherClean : separator ∉ other) :
    before = otherBefore ∧ last = other := by
  rcases List.append_eq_append_iff.mp same with
    ⟨middle, rfl, rest⟩ | ⟨middle, rfl, rest⟩
  · cases middle with
    | nil => simpa using rest
    | cons head tail =>
        obtain ⟨-, rfl⟩ := List.cons.inj rest
        simp at clean
  · cases middle with
    | nil => simpa [eq_comm] using rest
    | cons head tail =>
        obtain ⟨-, rfl⟩ := List.cons.inj rest
        simp at otherClean

end Fields

/-! ## Hexadecimal encodings -/

def hexDigitValue (digit : UInt8) : Option UInt8 :=
  if 48 ≤ digit ∧ digit ≤ 57 then some (digit - 48)
  else if 65 ≤ digit ∧ digit ≤ 70 then some (digit - 55)
  else if 97 ≤ digit ∧ digit ≤ 102 then some (digit - 87)
  else none

/-- Two digits for each byte, the high half first. -/
inductive IsHexEncoding : Bytes → Bytes → Prop where
  | nil : IsHexEncoding [] []
  | cons {high low highValue lowValue : UInt8} {digits bytes : Bytes} :
      hexDigitValue high = some highValue →
      hexDigitValue low = some lowValue →
      IsHexEncoding digits bytes →
      IsHexEncoding (high :: low :: digits)
        ((highValue * 16 + lowValue) :: bytes)

def decodeHex : Bytes → Option Bytes
  | [] => some []
  | [_] => none
  | high :: low :: digits => do
      let highValue ← hexDigitValue high
      let lowValue ← hexDigitValue low
      let bytes ← decodeHex digits
      return (highValue * 16 + lowValue) :: bytes

theorem decodeHex_eq_some_iff {digits bytes : Bytes} :
    decodeHex digits = some bytes ↔ IsHexEncoding digits bytes := by
  constructor
  · intro decoded
    fun_induction decodeHex digits generalizing bytes with
    | case1 =>
        cases decoded
        exact .nil
    | case2 => cases decoded
    | case3 high low digits ih =>
        simp only [Option.pure_def, Option.bind_eq_bind,
          Option.bind_eq_some_iff, Option.some.injEq] at decoded
        obtain ⟨highValue, highEq, lowValue, lowEq, rest, restEq, rfl⟩ :=
          decoded
        exact .cons highEq lowEq (ih restEq)
  · intro encoding
    induction encoding with
    | nil => rfl
    | cons highEq lowEq _ ih => simp [decodeHex, highEq, lowEq, ih]

theorem IsHexEncoding.functional {digits first second : Bytes}
    (firstEncoding : IsHexEncoding digits first)
    (secondEncoding : IsHexEncoding digits second) : first = second := by
  rw [← decodeHex_eq_some_iff] at firstEncoding secondEncoding
  exact Option.some.inj (firstEncoding.symm.trans secondEncoding)

end CallingService.Foundation
