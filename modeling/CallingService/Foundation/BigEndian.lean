import CallingService.Foundation.Text
import Mathlib.Algebra.Order.Ring.Nat
import Mathlib.Data.List.Induction

/-!
# Big-endian words

Network byte order for words of any width, with the positional laws that let
a word be split into shorter ones and combined with a mask byte by byte.
-/

namespace CallingService.Foundation

/-- The last `width` bytes of a number, the most significant one first. -/
def toBigEndian : Nat → Nat → Bytes
  | 0, _ => []
  | width + 1, value => toBigEndian width (value / 256) ++ [UInt8.ofNat value]

def fromBigEndian (bytes : Bytes) : Nat :=
  bytes.foldl (fun value byte => value * 256 + byte.toNat) 0

/-- Read a word off the front, if there are enough bytes. -/
def readBigEndian (width : Nat) (bytes : Bytes) : Option (Nat × Bytes) :=
  if bytes.length < width then none
  else some (fromBigEndian (bytes.take width), bytes.drop width)

def xorBytes (left right : Bytes) : Bytes :=
  List.zipWith (· ^^^ ·) left right

@[simp] theorem length_toBigEndian (width value : Nat) :
    (toBigEndian width value).length = width := by
  induction width generalizing value with
  | zero => rfl
  | succ width ih => simp [toBigEndian, ih]

@[simp] theorem fromBigEndian_nil : fromBigEndian [] = 0 := rfl

theorem fromBigEndian_concat (bytes : Bytes) (byte : UInt8) :
    fromBigEndian (bytes ++ [byte]) =
      fromBigEndian bytes * 256 + byte.toNat := by
  simp [fromBigEndian]

theorem fromBigEndian_replicate_zero (count : Nat) :
    fromBigEndian (List.replicate count 0) = 0 := by
  induction count with
  | zero => rfl
  | succ count ih =>
      rw [List.replicate_succ', fromBigEndian_concat, ih]
      rfl

theorem fromBigEndian_toBigEndian (width value : Nat) :
    fromBigEndian (toBigEndian width value) = value % 256 ^ width := by
  induction width generalizing value with
  | zero => simp [toBigEndian, Nat.mod_one]
  | succ width ih =>
      have low : (UInt8.ofNat value).toNat = value % 256 := by
        simp
      rw [toBigEndian, fromBigEndian_concat, ih, low, Nat.pow_succ,
        Nat.mul_comm (256 ^ width) 256, Nat.mod_mul]
      omega

theorem fromBigEndian_lt (bytes : Bytes) :
    fromBigEndian bytes < 256 ^ bytes.length := by
  induction bytes using List.reverseRecOn with
  | nil => exact Nat.zero_lt_one
  | append_singleton bytes byte ih =>
      have bound := byte.toNat_lt
      rw [fromBigEndian_concat, List.length_append, List.length_singleton,
        Nat.pow_succ]
      omega

theorem toBigEndian_fromBigEndian (bytes : Bytes) :
    toBigEndian bytes.length (fromBigEndian bytes) = bytes := by
  induction bytes using List.reverseRecOn with
  | nil => rfl
  | append_singleton bytes byte ih =>
      have bound := byte.toNat_lt
      have high : (fromBigEndian bytes * 256 + byte.toNat) / 256 =
          fromBigEndian bytes := by
        omega
      have low : UInt8.ofNat (fromBigEndian bytes * 256 + byte.toNat) =
          byte := by
        apply UInt8.toNat_inj.mp
        simp
      rw [fromBigEndian_concat, List.length_append, List.length_singleton,
        toBigEndian, high, low, ih]

/-- What has been written is read back. -/
theorem readBigEndian_toBigEndian (width value : Nat) (rest : Bytes) :
    readBigEndian width (toBigEndian width value ++ rest) =
      some (value % 256 ^ width, rest) := by
  have enough : ¬ (toBigEndian width value ++ rest).length < width := by simp
  have length := length_toBigEndian width value
  unfold readBigEndian
  rw [if_neg enough, List.take_left' length, List.drop_left' length,
    fromBigEndian_toBigEndian]

theorem exists_readBigEndian {width : Nat} {bytes : Bytes}
    (enough : width ≤ bytes.length) :
    ∃ value rest, readBigEndian width bytes = some (value, rest) ∧
      rest.length = bytes.length - width := by
  unfold readBigEndian
  rw [if_neg (Nat.not_lt.mpr enough)]
  exact ⟨_, _, rfl, List.length_drop⟩

/-- A word is the word of its high part followed by that of its low part. -/
theorem toBigEndian_add (high low value : Nat) :
    toBigEndian (high + low) value =
      toBigEndian high (value / 256 ^ low) ++ toBigEndian low value := by
  induction low generalizing value with
  | zero => simp [toBigEndian]
  | succ low ih =>
      rw [← Nat.add_assoc, toBigEndian, toBigEndian, ih, Nat.div_div_eq_div_mul,
        Nat.pow_succ, Nat.mul_comm (256 ^ low) 256, List.append_assoc]

theorem toBigEndian_eq_iff {width left right : Nat} :
    toBigEndian width left = toBigEndian width right ↔
      left % 256 ^ width = right % 256 ^ width := by
  constructor
  · intro same
    rw [← fromBigEndian_toBigEndian, same, fromBigEndian_toBigEndian]
  · intro same
    induction width generalizing left right with
    | zero => rfl
    | succ width ih =>
        rw [Nat.pow_succ, Nat.mul_comm (256 ^ width) 256, Nat.mod_mul,
          Nat.mod_mul] at same
        have lowLeft := Nat.mod_lt left (show 0 < 256 by omega)
        have lowRight := Nat.mod_lt right (show 0 < 256 by omega)
        have low : left % 256 = right % 256 := by omega
        have high : left / 256 % 256 ^ width = right / 256 % 256 ^ width := by
          omega
        rw [toBigEndian, toBigEndian, ih high]
        congr 2
        apply UInt8.toNat_inj.mp
        simpa using low

theorem toBigEndian_append_inj {width left right : Nat} {first second : Bytes}
    (leftFits : left < 256 ^ width) (rightFits : right < 256 ^ width)
    (same : toBigEndian width left ++ first =
      toBigEndian width right ++ second) :
    left = right ∧ first = second := by
  obtain ⟨words, rests⟩ := List.append_inj same (by simp)
  rw [toBigEndian_eq_iff, Nat.mod_eq_of_lt leftFits,
    Nat.mod_eq_of_lt rightFits] at words
  exact ⟨words, rests⟩

/-- A mask combines with a word byte by byte. -/
theorem toBigEndian_xor {mask : Bytes} {width : Nat}
    (length : mask.length = width) (value : Nat) :
    toBigEndian width (fromBigEndian mask ^^^ value) =
      xorBytes mask (toBigEndian width value) := by
  induction width generalizing mask value with
  | zero =>
      rw [List.length_eq_zero_iff] at length
      simp [length, toBigEndian, xorBytes]
  | succ width ih =>
      obtain ⟨front, last, rfl⟩ : ∃ front last, mask = front ++ [last] := by
        refine ⟨mask.dropLast, mask.getLast ?_, ?_⟩
        · rintro rfl
          simp at length
        · rw [List.dropLast_append_getLast]
      have frontLength : front.length = width := by simpa using length
      have lastBound := last.toNat_lt
      have high : (fromBigEndian front * 256 + last.toNat ^^^ value) / 256 =
          fromBigEndian front ^^^ value / 256 := by
        have split := @Nat.xor_div_two_pow
          (fromBigEndian front * 256 + last.toNat) value 8
        rw [show (2 : Nat) ^ 8 = 256 from rfl] at split
        rw [split]
        congr 1
        omega
      have byte : UInt8.ofNat
          (fromBigEndian front * 256 + last.toNat ^^^ value) =
            last ^^^ UInt8.ofNat value := by
        apply UInt8.toNat_inj.mp
        rw [UInt8.toNat_xor]
        simp
      rw [fromBigEndian_concat, toBigEndian, high, ih frontLength, byte,
        toBigEndian]
      unfold xorBytes
      rw [List.zipWith_append (by simp [frontLength])]
      rfl

theorem xorBytes_left_injective {mask left right : Bytes}
    (leftLength : left.length = mask.length)
    (rightLength : right.length = mask.length)
    (same : xorBytes mask left = xorBytes mask right) : left = right := by
  induction mask generalizing left right with
  | nil =>
      rw [List.length_nil, List.length_eq_zero_iff] at leftLength rightLength
      rw [leftLength, rightLength]
  | cons byte mask ih =>
      cases left with
      | nil => simp at leftLength
      | cons first left =>
          cases right with
          | nil => simp at rightLength
          | cons second right =>
              simp only [xorBytes, List.zipWith_cons_cons,
                List.cons.injEq] at same
              rw [List.length_cons, List.length_cons,
                Nat.add_right_cancel_iff] at leftLength rightLength
              have bytes : first = second := by
                have cancelled := congrArg (byte ^^^ ·) same.1
                simpa [← UInt8.xor_assoc] using cancelled
              rw [bytes, ih leftLength rightLength same.2]

theorem toUInt32_mod (value : UInt32) :
    (value.toNat % 256 ^ 4).toUInt32 = value := by
  have small : value.toNat < 256 ^ 4 := value.toNat_lt
  rw [Nat.mod_eq_of_lt small]
  exact UInt32.ofNat_toNat

end CallingService.Foundation
