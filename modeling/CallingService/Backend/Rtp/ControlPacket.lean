import CallingService.Backend.Rtp.Srtp

/-!
# Control packets

An SRTCP packet ends with the number under which it was encrypted.  The number
shares its word with the flag that the packet is encrypted, so that it has 31
bits.
-/

namespace CallingService.Backend.Rtp

open Foundation

def rtcpHeaderLen : Nat := 8

def srtcpFooterLen : Nat := 4

def version : UInt8 := 2

def rtcpTypeSenderReport : UInt8 := 200

def rtcpTypeReceiverReport : UInt8 := 201

def rtcpTypeGenericFeedback : UInt8 := 205

def rtcpFormatNack : UInt8 := 1

def rtcpFormatTransportCc : UInt8 := 15

def rtcpTypeSpecificFeedback : UInt8 := 206

def rtcpFormatPli : UInt8 := 1

def isPaddedMask (isPadded : Bool) : UInt8 :=
  if isPadded then 0b00100000 else 0

/-- `round_up_to_multiple_of::<4>`. -/
def roundUpToMultipleOfFour (length : Nat) : Nat := (length + 3) / 4 * 4

def rtcpIv (senderSsrc : Ssrc) (index : UInt32) (salt : Salt) :
    Option Bytes :=
  if (1 : UInt32) <<< (31 : UInt32) ≤ index then none
  else some (xorBytes salt.val
    ([0, 0] ++ toBigEndian 4 senderSsrc.toNat ++ [0, 0] ++
      toBigEndian 4 index.toNat))

theorem rtcpIv_eq_some {senderSsrc : Ssrc} {index : UInt32} {salt : Salt}
    {iv : Bytes} (computed : rtcpIv senderSsrc index salt = some iv) :
    index.toNat < 2 ^ 31 ∧ iv = xorBytes salt.val
      ([0, 0] ++ toBigEndian 4 senderSsrc.toNat ++ [0, 0] ++
        toBigEndian 4 index.toNat) := by
  unfold rtcpIv at computed
  split at computed
  · cases computed
  · rename_i small
    cases computed
    refine ⟨?_, rfl⟩
    rw [UInt32.le_iff_toNat_le] at small
    exact Nat.not_le.mp small

/-- Under a fixed salt the nonce determines the index. -/
theorem rtcpIv_injective {first second : Ssrc} {firstIndex secondIndex : UInt32}
    {salt : Salt} {iv : Bytes}
    (firstIv : rtcpIv first firstIndex salt = some iv)
    (secondIv : rtcpIv second secondIndex salt = some iv) :
    firstIndex = secondIndex := by
  have saltLength := salt.property
  unfold srtpSaltLen at saltLength
  obtain ⟨firstSmall, firstEq⟩ := rtcpIv_eq_some firstIv
  obtain ⟨secondSmall, secondEq⟩ := rtcpIv_eq_some secondIv
  have bytes := xorBytes_left_injective (by simp [saltLength])
    (by simp [saltLength]) (firstEq.symm.trans secondEq)
  obtain ⟨-, words⟩ := List.append_inj bytes (by simp)
  rw [toBigEndian_eq_iff] at words
  apply UInt32.toNat_inj.mp
  omega

namespace ControlPacket

/-! ## What a receiver reads -/

def senderSsrc (serialized : Bytes) : Ssrc :=
  (fromBigEndian ((serialized.drop 4).take 4)).toUInt32

def footer (serialized : Bytes) : Bytes :=
  serialized.drop (serialized.length - srtcpFooterLen)

def srtcpIndex (serialized : Bytes) : UInt32 :=
  (fromBigEndian (footer serialized)).toUInt32 &&& 0x7FFFFFFF

/-! ## Encrypting -/

/-- The footer of an encrypted packet. -/
def encryptedFooter (srtcpIndex : UInt32) : Bytes :=
  toBigEndian 4 (srtcpIndex ||| 0x80000000).toNat

/-- The packet has space for the tag and the footer already. -/
def encrypt (aead : Aead) (packet : Bytes) (senderSsrc : Ssrc)
    (srtcpIndex : UInt32) (keys : KeyAndSalt) :
    Except Panic (Option Bytes) := do
  ensure (rtcpHeaderLen + srtpAuthTagLen + srtcpFooterLen ≤ packet.length)
    Panic.outOfBounds
  let header := packet.take rtcpHeaderLen
  let plaintext := (packet.drop rtcpHeaderLen).take
    (packet.length - rtcpHeaderLen - srtpAuthTagLen - srtcpFooterLen)
  let footer := encryptedFooter srtcpIndex
  return (rtcpIv senderSsrc srtcpIndex keys.salt).bind fun iv =>
    (aead.encrypt keys.key iv (header ++ footer) plaintext).map
      fun (ciphertext, tag) => header ++ ciphertext ++ tag ++ footer

def serializeAndEncrypt (aead : Aead) (pt countOrFormat : UInt8)
    (isPadded : Bool) (senderSsrc : Ssrc) (payload : Bytes)
    (srtcpIndex : UInt32) (keys : KeyAndSalt) :
    Except Panic (Option Bytes) :=
  let paddedPayloadLen := roundUpToMultipleOfFour payload.length
  let serialized :=
    [version <<< 6 ||| isPaddedMask isPadded ||| countOrFormat, pt] ++
      toBigEndian 2 (paddedPayloadLen / 4 + 1) ++
      toBigEndian 4 senderSsrc.toNat ++ payload ++
      List.replicate (paddedPayloadLen - payload.length + srtpAuthTagLen +
        srtcpFooterLen) 0
  encrypt aead serialized senderSsrc srtcpIndex keys

/-- The nonce of an encrypted packet is the one of the SSRC and the index that
the packet carries. -/
def Sealed (aead : Aead) (keys : KeyAndSalt) (serialized : Bytes) : Prop :=
  ∃ header iv plaintext ciphertext tag,
    rtcpIv (senderSsrc serialized) (srtcpIndex serialized) keys.salt =
      some iv ∧
    footer serialized = encryptedFooter (srtcpIndex serialized) ∧
    aead.encrypt keys.key iv (header ++ footer serialized) plaintext =
      some (ciphertext, tag) ∧
    serialized = header ++ ciphertext ++ tag ++ footer serialized

section Fields

variable {front : Bytes} {index : UInt32}

theorem footer_append (front : Bytes) (index : UInt32) :
    footer (front ++ encryptedFooter index) = encryptedFooter index := by
  unfold footer encryptedFooter srtcpFooterLen
  apply List.drop_left'
  rw [List.length_append, length_toBigEndian]
  omega

/-- The flag does not disturb an index of 31 bits. -/
theorem or_and_of_lt (small : index.toNat < 2 ^ 31) :
    (index ||| 0x80000000) &&& 0x7FFFFFFF = index := by
  apply UInt32.toNat_inj.mp
  rw [UInt32.toNat_and, UInt32.toNat_or]
  change (index.toNat ||| 2 ^ 31) &&& (2 ^ 31 - 1) = index.toNat
  have sum := Nat.two_pow_add_eq_or_of_lt small 1
  rw [Nat.mul_one] at sum
  rw [Nat.and_two_pow_sub_one_eq_mod, Nat.or_comm, ← sum, Nat.add_mod_left,
    Nat.mod_eq_of_lt small]

theorem srtcpIndex_append (front : Bytes) (small : index.toNat < 2 ^ 31) :
    srtcpIndex (front ++ encryptedFooter index) = index := by
  have bound := (index ||| 0x80000000).toNat_lt
  unfold srtcpIndex
  rw [footer_append]
  unfold encryptedFooter
  rw [fromBigEndian_toBigEndian, Nat.mod_eq_of_lt (by omega)]
  have read : (index ||| 0x80000000).toNat.toUInt32 = index ||| 0x80000000 :=
    UInt32.ofNat_toNat
  rw [read, or_and_of_lt small]

end Fields

theorem senderSsrc_of_bytes {first : Bytes} (senderSsrc : Ssrc)
    (rest : Bytes) (length : first.length = 4) :
    ControlPacket.senderSsrc
      (first ++ (toBigEndian 4 senderSsrc.toNat ++ rest)) = senderSsrc := by
  have bound := senderSsrc.toNat_lt
  unfold ControlPacket.senderSsrc
  rw [List.drop_left' length, List.take_left' (length_toBigEndian _ _),
    fromBigEndian_toBigEndian, Nat.mod_eq_of_lt (by omega)]
  exact UInt32.ofNat_toNat

theorem senderSsrc_take (packet rest : Bytes)
    (enough : rtcpHeaderLen ≤ packet.length) :
    senderSsrc (packet.take rtcpHeaderLen ++ rest) = senderSsrc packet := by
  unfold rtcpHeaderLen at enough ⊢
  have shorter : 4 ≤ (packet.take 8).length := by
    rw [List.length_take]
    omega
  have word : 4 ≤ ((packet.take 8).drop 4).length := by
    rw [List.length_drop, List.length_take]
    omega
  unfold senderSsrc
  rw [List.drop_append_of_le_length shorter, List.take_append_of_le_length word,
    List.drop_take, List.take_take]
  rfl

/-- A packet that is encrypted for the SSRC in its header. -/
theorem encrypt_eq_some {aead : Aead} {packet serialized : Bytes}
    {index : UInt32} {keys : KeyAndSalt}
    (encrypted : encrypt aead packet (senderSsrc packet) index keys =
      .ok (some serialized)) :
    Sealed aead keys serialized ∧ srtcpIndex serialized = index ∧
      index.toNat < 2 ^ 31 := by
  obtain ⟨_, enough, returned⟩ := bind_eq_ok_iff.mp encrypted
  rw [ensure_eq_ok_iff] at enough
  obtain ⟨iv, computed, sealed⟩ :=
    Option.bind_eq_some_iff.mp (Except.ok.inj returned)
  obtain ⟨⟨ciphertext, tag⟩, produced, same⟩ :=
    Option.map_eq_some_iff.mp sealed
  dsimp only at same
  subst same
  obtain ⟨small, _⟩ := rtcpIv_eq_some computed
  have sameIndex := srtcpIndex_append
    (packet.take rtcpHeaderLen ++ ciphertext ++ tag) small
  have sameFooter := footer_append
    (packet.take rtcpHeaderLen ++ ciphertext ++ tag) index
  have sameSsrc := senderSsrc_take packet
    (ciphertext ++ (tag ++ encryptedFooter index))
    (Nat.le_trans (by decide) enough)
  rw [← List.append_assoc, ← List.append_assoc] at sameSsrc
  refine ⟨?_, sameIndex, small⟩
  unfold Sealed
  rw [sameIndex, sameFooter, sameSsrc]
  exact ⟨_, iv, _, ciphertext, tag, computed, rfl, produced, rfl⟩

end ControlPacket

end CallingService.Backend.Rtp
