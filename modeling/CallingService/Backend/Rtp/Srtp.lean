import CallingService.Foundation.BigEndian
import CallingService.Common.Basics

/-!
# SRTP keys and nonces

AES-GCM is library code: its two operations are parameters with the laws of an
authenticated cipher.  The nonce of a packet is computed by the SFU itself and
is compared here with the layout of RFC 7714.
-/

namespace CallingService.Backend.Rtp

open Foundation

abbrev PayloadType := UInt8
abbrev Ssrc := UInt32
abbrev TruncatedSequenceNumber := UInt16
abbrev TruncatedTimestamp := UInt32
abbrev TruncatedFrameNumber := UInt16
abbrev FullSequenceNumber := Nat
abbrev FullTimestamp := Nat
abbrev FullFrameNumber := Nat

def srtpKeyLen : Nat := 16

def srtpSaltLen : Nat := 12

def srtpIvLen : Nat := 12

def srtpAuthTagLen : Nat := 16

abbrev Key := { bytes : Bytes // bytes.length = srtpKeyLen }

abbrev Salt := { bytes : Bytes // bytes.length = srtpSaltLen }

structure KeyAndSalt where
  key : Key
  salt : Salt

structure KeysAndSalts where
  rtp : KeyAndSalt
  rtcp : KeyAndSalt

def zeroKeys : KeysAndSalts where
  rtp := ⟨⟨List.replicate 16 0, rfl⟩, ⟨List.replicate 12 0, rfl⟩⟩
  rtcp := ⟨⟨List.replicate 16 0, rfl⟩, ⟨List.replicate 12 0, rfl⟩⟩

/-- AES-128-GCM with a detached tag: key, nonce, associated data and text. -/
structure Aead where
  encrypt : Key → Bytes → Bytes → Bytes → Option (Bytes × Bytes)
  decrypt : Key → Bytes → Bytes → Bytes → Bytes → Option Bytes
  encrypt_length : ∀ {key nonce aad plaintext ciphertext tag},
    encrypt key nonce aad plaintext = some (ciphertext, tag) →
      ciphertext.length = plaintext.length ∧ tag.length = srtpAuthTagLen
  decrypt_length : ∀ {key nonce aad ciphertext tag plaintext},
    decrypt key nonce aad ciphertext tag = some plaintext →
      plaintext.length = ciphertext.length
  decrypt_encrypt : ∀ {key nonce aad plaintext ciphertext tag},
    encrypt key nonce aad plaintext = some (ciphertext, tag) →
      decrypt key nonce aad ciphertext tag = some plaintext

/-- One known result of the cipher. -/
structure GcmVector where
  key : Key
  nonce : Bytes
  aad : Bytes
  plaintext : Bytes
  ciphertext : Bytes
  tag : Bytes

/-- The cipher restricted to known results. -/
def Aead.ofVectors (vectors : List GcmVector)
    (lengths : ∀ vector ∈ vectors,
      vector.ciphertext.length = vector.plaintext.length ∧
        vector.tag.length = srtpAuthTagLen)
    (unique : ∀ left ∈ vectors, ∀ right ∈ vectors,
      left.key = right.key ∧ left.nonce = right.nonce ∧
        left.aad = right.aad ∧ left.ciphertext = right.ciphertext ∧
        left.tag = right.tag → left.plaintext = right.plaintext) : Aead where
  encrypt key nonce aad plaintext :=
    (vectors.find? fun vector => vector.key = key ∧ vector.nonce = nonce ∧
      vector.aad = aad ∧ vector.plaintext = plaintext).map
        fun vector => (vector.ciphertext, vector.tag)
  decrypt key nonce aad ciphertext tag :=
    (vectors.find? fun vector => vector.key = key ∧ vector.nonce = nonce ∧
      vector.aad = aad ∧ vector.ciphertext = ciphertext ∧
      vector.tag = tag).map GcmVector.plaintext
  encrypt_length := by
    intro key nonce aad plaintext ciphertext tag sealed
    obtain ⟨vector, found, same⟩ := Option.map_eq_some_iff.mp sealed
    cases same
    have matched := List.find?_some found
    rw [decide_eq_true_iff] at matched
    rw [← matched.2.2.2]
    exact lengths vector (List.mem_of_find?_eq_some found)
  decrypt_length := by
    intro key nonce aad ciphertext tag plaintext opened
    obtain ⟨vector, found, same⟩ := Option.map_eq_some_iff.mp opened
    cases same
    have matched := List.find?_some found
    rw [decide_eq_true_iff] at matched
    rw [← matched.2.2.2.1]
    exact (lengths vector (List.mem_of_find?_eq_some found)).1.symm
  decrypt_encrypt := by
    intro key nonce aad plaintext ciphertext tag sealed
    obtain ⟨vector, found, same⟩ := Option.map_eq_some_iff.mp sealed
    cases same
    have matched := List.find?_some found
    rw [decide_eq_true_iff] at matched
    obtain ⟨rfl, rfl, rfl, rfl⟩ := matched
    have member := List.mem_of_find?_eq_some found
    -- another vector with the same ciphertext has the same plaintext
    have exists_find : ∃ other, vectors.find? (fun candidate =>
        candidate.key = vector.key ∧ candidate.nonce = vector.nonce ∧
          candidate.aad = vector.aad ∧
          candidate.ciphertext = vector.ciphertext ∧
          candidate.tag = vector.tag) = some other := by
      rw [← Option.isSome_iff_exists, List.find?_isSome]
      exact ⟨vector, member, by simp⟩
    obtain ⟨other, otherFound⟩ := exists_find
    have otherMatched := List.find?_some otherFound
    rw [decide_eq_true_iff] at otherMatched
    rw [otherFound, Option.map_some]
    exact congrArg some (unique other (List.mem_of_find?_eq_some otherFound)
      vector member otherMatched)

/-! ## The nonce of a packet -/

/-- `rtp_iv`, on the two words the source splits the nonce into. -/
def rtpIv (ssrc : Ssrc) (seqnum : Nat) (salt : Salt) : Bytes :=
  let combinedLower := ssrc.toNat <<< 16 ||| (seqnum >>> 32 &&& 0xFFFF)
  let saltLower := fromBigEndian (salt.val.take 8)
  let resultLower := toBigEndian 8 (saltLower ^^^ combinedLower)
  let saltUpper := fromBigEndian (salt.val.drop 8)
  let resultUpper := toBigEndian 4 (saltUpper ^^^ seqnum % 2 ^ 32)
  resultLower ++ resultUpper

/-- The layout of RFC 7714, section 8.1: two zero bytes, the SSRC, the
rollover counter and the 16-bit sequence number, combined with the salt. -/
def rfc7714Iv (ssrc : Ssrc) (roc : Nat) (seq : Nat) (salt : Salt) : Bytes :=
  xorBytes salt.val
    ([0, 0] ++ toBigEndian 4 ssrc.toNat ++ toBigEndian 4 roc ++
      toBigEndian 2 seq)

private theorem combinedLower_eq (ssrc : Ssrc) (seqnum : Nat) :
    ssrc.toNat <<< 16 ||| (seqnum >>> 32 &&& 0xFFFF) =
      ssrc.toNat * 65536 + seqnum / 4294967296 % 65536 := by
  have mask : seqnum >>> 32 &&& 0xFFFF = seqnum / 4294967296 % 65536 := by
    have low := Nat.and_two_pow_sub_one_eq_mod (seqnum >>> 32) 16
    simpa [Nat.shiftRight_eq_div_pow] using low
  have small : seqnum / 4294967296 % 65536 < 2 ^ 16 :=
    Nat.mod_lt _ (by omega)
  rw [mask, Nat.shiftLeft_eq, Nat.mul_comm,
    ← Nat.two_pow_add_eq_or_of_lt small]

/-- The twelve bytes before they are combined with the salt. -/
theorem nonceBytes_eq (ssrc : Ssrc) (seqnum : Nat) :
    toBigEndian 8 (ssrc.toNat <<< 16 ||| (seqnum >>> 32 &&& 0xFFFF)) ++
        toBigEndian 4 (seqnum % 2 ^ 32) =
      [0, 0] ++ toBigEndian 4 ssrc.toNat ++
        toBigEndian 4 (seqnum / 2 ^ 16 % 2 ^ 32) ++
        toBigEndian 2 (seqnum % 2 ^ 16) := by
  have ssrcBound := ssrc.toNat_lt
  rw [combinedLower_eq]
  have lower : toBigEndian 8
      (ssrc.toNat * 65536 + seqnum / 4294967296 % 65536) =
        [0, 0] ++ toBigEndian 4 ssrc.toNat ++
          toBigEndian 2 (seqnum / 4294967296) := by
    rw [toBigEndian_add 2 6, toBigEndian_add 4 2]
    have first : (ssrc.toNat * 65536 + seqnum / 4294967296 % 65536) /
        256 ^ 6 = 0 := by
      apply Nat.div_eq_of_lt
      omega
    have second : toBigEndian 4
        ((ssrc.toNat * 65536 + seqnum / 4294967296 % 65536) / 256 ^ 2) =
          toBigEndian 4 ssrc.toNat := by
      congr 1
      omega
    have third : toBigEndian 2
        (ssrc.toNat * 65536 + seqnum / 4294967296 % 65536) =
          toBigEndian 2 (seqnum / 4294967296) := by
      rw [toBigEndian_eq_iff]
      omega
    rw [first, second, third]
    rfl
  have upper : toBigEndian 4 (seqnum % 2 ^ 32) =
      toBigEndian 2 (seqnum / 65536) ++ toBigEndian 2 (seqnum % 2 ^ 16) := by
    rw [toBigEndian_add 2 2]
    congr 1
    · rw [toBigEndian_eq_iff]
      omega
    · rw [toBigEndian_eq_iff]
      omega
  have roc : toBigEndian 4 (seqnum / 2 ^ 16 % 2 ^ 32) =
      toBigEndian 2 (seqnum / 4294967296) ++
        toBigEndian 2 (seqnum / 65536) := by
    rw [toBigEndian_add 2 2]
    congr 1
    · rw [toBigEndian_eq_iff]
      omega
    · rw [toBigEndian_eq_iff]
      omega
  rw [lower, upper, roc]
  simp only [List.append_assoc]

theorem rtpIv_eq_rfc7714Iv (ssrc : Ssrc) (seqnum : Nat) (salt : Salt) :
    rtpIv ssrc seqnum salt =
      rfc7714Iv ssrc (seqnum / 2 ^ 16 % 2 ^ 32) (seqnum % 2 ^ 16) salt := by
  have saltLength := salt.property
  unfold srtpSaltLen at saltLength
  have lowerLength : (salt.val.take 8).length = 8 := by
    rw [List.length_take]
    omega
  have upperLength : (salt.val.drop 8).length = 4 := by
    rw [List.length_drop]
    omega
  unfold rtpIv rfc7714Iv
  dsimp only
  rw [toBigEndian_xor lowerLength, toBigEndian_xor upperLength,
    ← nonceBytes_eq]
  unfold xorBytes
  rw [← List.zipWith_append (by rw [lowerLength, length_toBigEndian]),
    List.take_append_drop]

theorem length_rtpIv (ssrc : Ssrc) (seqnum : Nat) (salt : Salt) :
    (rtpIv ssrc seqnum salt).length = srtpIvLen := by
  simp [rtpIv, srtpIvLen]

/-- Under a fixed salt the nonce determines the SSRC and the low 48 bits of
the sequence number. -/
theorem rtpIv_eq_iff {first second : Ssrc}
    {firstSeqnum secondSeqnum : Nat} {salt : Salt} :
    rtpIv first firstSeqnum salt = rtpIv second secondSeqnum salt ↔
      first = second ∧ firstSeqnum % 2 ^ 48 = secondSeqnum % 2 ^ 48 := by
  have saltLength := salt.property
  unfold srtpSaltLen at saltLength
  constructor
  · intro same
    rw [rtpIv_eq_rfc7714Iv, rtpIv_eq_rfc7714Iv] at same
    have bytes := xorBytes_left_injective (by simp [saltLength])
      (by simp [saltLength]) same
    obtain ⟨upper, seq⟩ := List.append_inj bytes (by simp)
    obtain ⟨ssrcBytes, roc⟩ := List.append_inj upper (by simp)
    obtain ⟨-, ssrcEq⟩ := List.append_inj ssrcBytes (by simp)
    rw [toBigEndian_eq_iff] at seq roc ssrcEq
    have firstBound := first.toNat_lt
    have secondBound := second.toNat_lt
    refine ⟨UInt32.toNat_inj.mp ?_, ?_⟩
    · omega
    · omega
  · rintro ⟨rfl, same⟩
    rw [rtpIv_eq_rfc7714Iv, rtpIv_eq_rfc7714Iv]
    have roc : firstSeqnum / 2 ^ 16 % 2 ^ 32 =
        secondSeqnum / 2 ^ 16 % 2 ^ 32 := by
      omega
    have seq : firstSeqnum % 2 ^ 16 = secondSeqnum % 2 ^ 16 := by
      omega
    rw [roc, seq]

end CallingService.Backend.Rtp
