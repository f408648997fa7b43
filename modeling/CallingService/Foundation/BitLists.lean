import CallingService.Foundation.BigEndian
import Mathlib.Tactic.Ring

/-!
# Bit lists

Numbers and byte strings as lists of bits, the most significant bit first,
and the windows of a byte that masks and shifts cut out.
-/

namespace CallingService.Foundation

/-- The last `width` bits of a number, the most significant one first. -/
def bitsOf : Nat → Nat → List Bool
  | 0, _ => []
  | width + 1, number => number.testBit width :: bitsOf width number

def numberOf (bits : List Bool) : Nat :=
  bits.foldl (fun number bit => 2 * number + bit.toNat) 0

def bitList (bytes : Bytes) : List Bool :=
  bytes.flatMap fun byte => bitsOf 8 byte.toNat

@[simp] theorem length_bitsOf (width number : Nat) :
    (bitsOf width number).length = width := by
  induction width with
  | zero => rfl
  | succ width ih => simp [bitsOf, ih]

/-- The bits of a number are those of its high part and of its low part. -/
theorem bitsOf_add (high low number : Nat) :
    bitsOf (high + low) number =
      bitsOf high (number / 2 ^ low) ++ bitsOf low number := by
  induction high with
  | zero => simp [bitsOf]
  | succ high ih =>
      rw [Nat.add_right_comm, bitsOf, ih, bitsOf, Nat.testBit_div_two_pow]
      rfl

theorem drop_bitsOf {width dropped : Nat} (number : Nat)
    (atMost : dropped ≤ width) :
    (bitsOf width number).drop dropped = bitsOf (width - dropped) number := by
  have split := bitsOf_add dropped (width - dropped) number
  rw [Nat.add_sub_cancel' atMost] at split
  rw [split, List.drop_left' (length_bitsOf _ _)]

theorem bitsOf_zero (width : Nat) :
    bitsOf width 0 = List.replicate width false := by
  induction width with
  | zero => rfl
  | succ width ih => simp [bitsOf, ih, List.replicate_succ]

theorem numberOf_concat (bits : List Bool) (bit : Bool) :
    numberOf (bits ++ [bit]) = 2 * numberOf bits + bit.toNat := by
  simp [numberOf]

theorem numberOf_append (high low : List Bool) :
    numberOf (high ++ low) = numberOf high * 2 ^ low.length + numberOf low := by
  induction low using List.reverseRecOn with
  | nil => simp [numberOf]
  | append_singleton low bit ih =>
      rw [← List.append_assoc, numberOf_concat, numberOf_concat, ih,
        List.length_append, List.length_singleton, Nat.pow_succ]
      ring

theorem numberOf_bitsOf (width number : Nat) :
    numberOf (bitsOf width number) = number % 2 ^ width := by
  induction width with
  | zero => simp [bitsOf, numberOf, Nat.mod_one]
  | succ width ih =>
      have top : numberOf [number.testBit width] =
          number / 2 ^ width % 2 := by
        simp [numberOf, Nat.testBit_eq_decide_div_mod_eq]
        have bound : number / 2 ^ width % 2 < 2 := Nat.mod_lt _ (by decide)
        by_cases odd : number / 2 ^ width % 2 = 1
        · simp [odd]
        · have even : number / 2 ^ width % 2 = 0 := by omega
          simp [even]
      rw [bitsOf, ← List.singleton_append, numberOf_append, top, ih,
        length_bitsOf, Nat.pow_succ, Nat.mod_mul]
      ring

/-! ## Byte strings -/

@[simp] theorem bitList_nil : bitList [] = [] := rfl

@[simp] theorem bitList_cons (byte : UInt8) (bytes : Bytes) :
    bitList (byte :: bytes) = bitsOf 8 byte.toNat ++ bitList bytes := rfl

@[simp] theorem bitList_append (front back : Bytes) :
    bitList (front ++ back) = bitList front ++ bitList back :=
  List.flatMap_append

@[simp] theorem length_bitList (bytes : Bytes) :
    (bitList bytes).length = 8 * bytes.length := by
  induction bytes with
  | nil => rfl
  | cons byte bytes ih =>
      rw [bitList_cons, List.length_append, length_bitsOf, ih,
        List.length_cons]
      omega

theorem drop_bitList (bytes : Bytes) (count : Nat) :
    (bitList bytes).drop (8 * count) = bitList (bytes.drop count) := by
  induction count generalizing bytes with
  | zero => rfl
  | succ count ih =>
      cases bytes with
      | nil => simp
      | cons byte bytes =>
          rw [Nat.mul_succ, Nat.add_comm, ← List.drop_drop, bitList_cons,
            List.drop_left' (length_bitsOf 8 byte.toNat), ih]
          rfl

/-- From inside a byte: the rest of its bits and those of the bytes behind. -/
theorem drop_bitList_inside {bytes : Bytes} {index offset : Nat}
    (inside : index < bytes.length) (withinByte : offset ≤ 8) :
    (bitList bytes).drop (8 * index + offset) =
      bitsOf (8 - offset) bytes[index].toNat ++
        bitList (bytes.drop (index + 1)) := by
  have enough : offset ≤ (bitsOf 8 bytes[index].toNat).length := by
    rw [length_bitsOf]
    exact withinByte
  rw [← List.drop_drop, drop_bitList, List.drop_eq_getElem_cons inside,
    bitList_cons, List.drop_append_of_le_length enough,
    drop_bitsOf _ withinByte]

theorem bitList_replicate_zero (count : Nat) :
    bitList (List.replicate count 0) = List.replicate (8 * count) false := by
  induction count with
  | zero => rfl
  | succ count ih =>
      rw [List.replicate_succ, bitList_cons, ih, UInt8.toNat_zero, bitsOf_zero,
        List.replicate_append_replicate]
      congr 1
      omega

theorem numberOf_bitList (bytes : Bytes) :
    numberOf (bitList bytes) = fromBigEndian bytes := by
  induction bytes using List.reverseRecOn with
  | nil => rfl
  | append_singleton bytes byte ih =>
      have whole : byte.toNat % 2 ^ 8 = byte.toNat :=
        Nat.mod_eq_of_lt byte.toNat_lt
      rw [bitList_append, bitList_cons, bitList_nil, List.append_nil,
        numberOf_append, numberOf_bitsOf, length_bitsOf, ih, whole,
        fromBigEndian_concat]
      rfl

/-! ## Reading bits -/

abbrev BitParser (α : Type) := StateT (List Bool) Option α

/-- The number in the next bits. -/
def readBits (count : Nat) : BitParser Nat := fun bits =>
  if bits.length < count then none
  else some (numberOf (bits.take count), bits.drop count)

theorem readBits_of_short {count : Nat} {bits : List Bool}
    (short : bits.length < count) : readBits count bits = none :=
  if_pos short

theorem readBits_append {count : Nat} {front : List Bool} (rest : List Bool)
    (length : front.length = count) :
    readBits count (front ++ rest) = some (numberOf front, rest) := by
  have enough : ¬ (front ++ rest).length < count := by
    rw [List.length_append, length]
    omega
  unfold readBits
  rw [if_neg enough, List.take_left' length, List.drop_left' length]

theorem readBits_of_enough {count : Nat} {bits : List Bool}
    (enough : count ≤ bits.length) :
    readBits count bits =
      some (numberOf (bits.take count), bits.drop count) :=
  if_neg (Nat.not_lt.mpr enough)

theorem bitParser_bind {α β : Type} (first : BitParser α)
    (next : α → BitParser β) (bits : List Bool) :
    (first >>= next) bits =
      (first bits).bind fun found => next found.1 found.2 := rfl

/-- Reading bits in two parts. -/
theorem readBits_add (high low : Nat) :
    readBits (high + low) = (do
      let upper ← readBits high
      let lower ← readBits low
      return upper * 2 ^ low + lower) := by
  funext bits
  rw [bitParser_bind]
  by_cases enough : high ≤ bits.length
  · rw [readBits_of_enough enough, Option.bind_some, bitParser_bind]
    dsimp only
    by_cases enoughToo : high + low ≤ bits.length
    · have lowLeft : low ≤ (bits.drop high).length := by
        rw [List.length_drop]
        omega
      have lowLength : ((bits.drop high).take low).length = low :=
        List.length_take_of_le lowLeft
      rw [readBits_of_enough enoughToo, readBits_of_enough lowLeft,
        List.take_add, numberOf_append, lowLength, ← List.drop_drop]
      rfl
    · have lowShort : (bits.drop high).length < low := by
        rw [List.length_drop]
        omega
      rw [readBits_of_short (Nat.not_le.mp enoughToo),
        readBits_of_short lowShort]
      rfl
  · rw [readBits_of_short (by omega), readBits_of_short (by omega)]
    rfl

/-- Bits that are dropped may as well be dropped together. -/
theorem readBits_dropped {α : Type} (high low : Nat) (next : BitParser α) :
    (do
      let _ ← readBits high
      let _ ← readBits low
      next) = (do
      let _ ← readBits (high + low)
      next) := by
  rw [readBits_add]
  simp only [bind_assoc, pure_bind]

/-! ## Windows of a byte -/

theorem toNat_lowMask {width : Nat} (withinByte : width < 8) :
    ((1 : UInt8) <<< width.toUInt8 - 1).toNat = 2 ^ width - 1 := by
  have everyWidth : ∀ width < 8,
      ((1 : UInt8) <<< width.toUInt8 - 1).toNat = 2 ^ width - 1 := by
    decide
  exact everyWidth width withinByte

theorem toNat_toUInt8 {number : Nat} (small : number < 256) :
    number.toUInt8.toNat = number := by
  simp only [Nat.toUInt8_eq, UInt8.toNat_ofNat']
  exact Nat.mod_eq_of_lt small

theorem toNat_shiftRight {byte : UInt8} {shift : Nat} (withinByte : shift < 8) :
    (byte >>> shift.toUInt8).toNat = byte.toNat / 2 ^ shift := by
  rw [UInt8.toNat_shiftRight, toNat_toUInt8 (by omega),
    Nat.mod_eq_of_lt withinByte, Nat.shiftRight_eq_div_pow]

/-- A shift to the left that loses no bit. -/
theorem toNat_shiftLeft {byte : UInt8} {shift : Nat} (withinByte : shift < 8)
    (fits : byte.toNat * 2 ^ shift < 256) :
    (byte <<< shift.toUInt8).toNat = byte.toNat * 2 ^ shift := by
  rw [UInt8.toNat_shiftLeft, toNat_toUInt8 (by omega),
    Nat.mod_eq_of_lt withinByte, Nat.shiftLeft_eq, Nat.mod_eq_of_lt fits]

/-- The low bits of a byte. -/
theorem toNat_and_lowMask {byte : UInt8} {width : Nat}
    (withinByte : width < 8) :
    (byte &&& ((1 : UInt8) <<< width.toUInt8 - 1)).toNat = byte.toNat % 2 ^ width := by
  rw [UInt8.toNat_and, toNat_lowMask withinByte,
    Nat.and_two_pow_sub_one_eq_mod]

/-- The bits that a shifted mask selects, moved down. -/
theorem toNat_window {byte : UInt8} {width shift : Nat} (narrow : width < 8)
    (low : shift < 8) (withinByte : width + shift ≤ 8) :
    ((byte &&& (((1 : UInt8) <<< width.toUInt8 - 1) <<< shift.toUInt8)) >>>
      shift.toUInt8).toNat = byte.toNat / 2 ^ shift % 2 ^ width := by
  have fits : (2 ^ width - 1) * 2 ^ shift < 256 := by
    calc
      (2 ^ width - 1) * 2 ^ shift < 2 ^ width * 2 ^ shift :=
        Nat.mul_lt_mul_of_pos_right
          (Nat.sub_lt (Nat.two_pow_pos width) Nat.zero_lt_one)
          (Nat.two_pow_pos shift)
      _ = 2 ^ (width + shift) := (Nat.pow_add 2 width shift).symm
      _ ≤ 2 ^ 8 := Nat.pow_le_pow_right (by decide) withinByte
  have mask : (((1 : UInt8) <<< width.toUInt8 - 1) <<< shift.toUInt8).toNat =
      (2 ^ width - 1) <<< shift := by
    have isLow := toNat_lowMask narrow
    rw [← isLow] at fits
    rw [toNat_shiftLeft low fits, isLow, Nat.shiftLeft_eq]
  rw [toNat_shiftRight low, UInt8.toNat_and, mask,
    ← Nat.shiftRight_eq_div_pow, Nat.shiftRight_and_distrib,
    Nat.shiftLeft_shiftRight, Nat.and_two_pow_sub_one_eq_mod,
    Nat.shiftRight_eq_div_pow]

/-- The bits of two parts that do not overlap. -/
theorem toNat_or_disjoint {high low : UInt8} {part width : Nat}
    (isHigh : high.toNat = part * 2 ^ width) (isLow : low.toNat < 2 ^ width) :
    (high ||| low).toNat = part * 2 ^ width + low.toNat := by
  rw [UInt8.toNat_or, isHigh, ← Nat.shiftLeft_eq,
    Nat.shiftLeft_add_eq_or_of_lt isLow]

end CallingService.Foundation
