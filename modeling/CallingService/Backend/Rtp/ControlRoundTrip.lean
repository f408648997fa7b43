import CallingService.Backend.Rtp.ControlParser

/-!
# Written control packets are read back

What has been encrypted is decrypted to the packets it was made of, and the
loop takes a packet that was written with its own length off the front.
-/

namespace CallingService.Backend.Rtp

open Foundation

/-! ## Words in their places -/

/-- A part that starts where the bytes before it end. -/
theorem sliceOf_middle {first middle last : Bytes} {start finish : Nat}
    (starts : first.length = start)
    (finishes : start + middle.length = finish) :
    sliceOf (first ++ (middle ++ last)) ⟨start, finish⟩ = .ok middle := by
  have inside : finish ≤ (first ++ (middle ++ last)).length := by
    rw [List.length_append, List.length_append]
    omega
  rw [sliceOf_of_le (by dsimp only; omega) inside]
  exact congrArg Except.ok (slice_middle starts finishes)

/-- A word that starts where the bytes before it end. -/
theorem numberAt_word {front rest : Bytes} {width value start finish : Nat}
    (starts : front.length = start) (finishes : start + width = finish) :
    numberAt (front ++ (toBigEndian width value ++ rest)) ⟨start, finish⟩ =
      .ok (value % 256 ^ width) := by
  have middle : slice start finish
      (front ++ (toBigEndian width value ++ rest)) = toBigEndian width value :=
    slice_middle starts (by rw [length_toBigEndian, finishes])
  have inside : finish ≤
      (front ++ (toBigEndian width value ++ rest)).length := by
    rw [List.length_append, List.length_append, length_toBigEndian]
    omega
  rw [numberAt_eq (by dsimp only; omega) inside]
  dsimp only
  rw [middle, fromBigEndian_toBigEndian]

theorem byteOf_middle {front rest : Bytes} {byte : UInt8} {index : Nat}
    (starts : front.length = index) :
    byteOf (front ++ ([byte] ++ rest)) index = .ok byte := by
  subst starts
  unfold byteOf
  rw [List.getElem?_append_right (Nat.le_refl _), Nat.sub_self]
  rfl

/-! ## Headers -/

/-- The format lies below the padding flag. -/
theorem firstByte_masks (hasPadding : Bool) {countOrFormat : UInt8}
    (fiveBits : countOrFormat.toNat < 32) :
    ((version <<< 6 ||| isPaddedMask hasPadding ||| countOrFormat) &&&
        0b00100000 ≠ 0) = (hasPadding = true) ∧
      (version <<< 6 ||| isPaddedMask hasPadding ||| countOrFormat) &&&
        0b00011111 = countOrFormat := by
  have everyFormat : ∀ format < 32,
      (((version <<< 6 ||| isPaddedMask hasPadding ||| UInt8.ofNat format) &&&
        0b00100000 ≠ 0) ↔ (hasPadding = true)) ∧
      (version <<< 6 ||| isPaddedMask hasPadding ||| UInt8.ofNat format) &&&
        0b00011111 = UInt8.ofNat format := by
    cases hasPadding <;> decide
  have found := everyFormat countOrFormat.toNat fiveBits
  rw [UInt8.ofNat_toNat] at found
  exact ⟨propext found.1, found.2⟩

namespace RtcpHeader

theorem fromBytes_write {header : RtcpHeader} (rest : Bytes)
    (fiveBits : header.countOrFormat.toNat < 32) :
    fromBytes (header.write ++ rest) = .ok header := by
  obtain ⟨hasPadding, countOrFormat, payloadType, lengthInWords⟩ := header
  obtain ⟨padded, format⟩ := firstByte_masks hasPadding fiveBits
  have words := lengthInWords.toNat_lt
  have length : numberAt (write ⟨hasPadding, countOrFormat, payloadType,
      lengthInWords⟩ ++ rest) ⟨2, 4⟩ = .ok lengthInWords.toNat := by
    unfold write
    rw [List.append_assoc, @numberAt_word [_, _] rest 2 _ 2 4 rfl rfl,
      Nat.mod_eq_of_lt (by dsimp only; omega)]
  have whole : lengthInWords.toNat.toUInt16 = lengthInWords :=
    UInt16.ofNat_toNat
  have first : byteOf (write ⟨hasPadding, countOrFormat, payloadType,
      lengthInWords⟩ ++ rest) 0 =
        .ok (version <<< 6 ||| isPaddedMask hasPadding ||| countOrFormat) := rfl
  have second : byteOf (write ⟨hasPadding, countOrFormat, payloadType,
      lengthInWords⟩ ++ rest) 1 = .ok payloadType := rfl
  unfold fromBytes
  rw [first, ok_bind, second, ok_bind, length, ok_bind, whole, format]
  simp only [padded, Bool.decide_eq_true]
  rfl

end RtcpHeader

/-- The cipher encrypts every plaintext; with `decrypt_encrypt` it is a
bijection onto what it has sealed. -/
def Aead.IsTotal (aead : Aead) : Prop :=
  ∀ key nonce aad plaintext, ∃ ciphertext tag,
    aead.encrypt key nonce aad plaintext = some (ciphertext, tag)

namespace ControlPacket

/-- A packet whose header tells its length is taken off the front. -/
theorem nextPacket_write {header : RtcpHeader} {body : Bytes} (rest : Bytes)
    (incoming : ControlPacket) (fiveBits : header.countOrFormat.toNat < 32)
    (some : 0 < header.lengthInWords.toNat)
    (length : body.length = header.lengthInWords.toNat * 4) :
    nextPacket (header.write ++ (body ++ rest)) incoming =
      (incoming.add header body (body.drop 4)).map
        (Option.map fun found => (rest, found)) := by
  have headerLength := header.length_write
  have four : rtcpHeaderLength = 4 := rfl
  have notEmpty : header.lengthInWords ≠ 0 := by
    intro empty
    rw [empty] at some
    exact absurd some (Nat.lt_irrefl 0)
  have packetLength : (header.write ++ body).length =
      header.packetLengthInBytes := by
    unfold RtcpHeader.packetLengthInBytes
    rw [List.length_append, headerLength, length]
    omega
  have split : checkedSplitAt (header.write ++ (body ++ rest))
      header.packetLengthInBytes = Option.some (header.write ++ body, rest) := by
    have enough : ¬ (header.write ++ body ++ rest).length <
        (header.write ++ body).length := by
      rw [List.length_append]
      omega
    unfold checkedSplitAt
    rw [← packetLength, ← List.append_assoc, if_neg enough, List.take_left,
      List.drop_left]
  have payload : sliceOf (header.write ++ body)
      ⟨rtcpHeaderLength, (header.write ++ body).length⟩ = .ok body := by
    rw [sliceFrom_eq (by rw [List.length_append]; omega),
      List.drop_left' headerLength]
  unfold nextPacket
  rw [RtcpHeader.fromBytes_write _ fiveBits, ok_bind, if_neg notEmpty, split]
  dsimp only
  rw [payload, ok_bind, sliceFrom_eq (by omega), ok_bind]
  cases incoming.add header body (body.drop 4) with
  | error cause => rfl
  | ok added => rfl

/-- What the loop makes of a packet and of those behind it. -/
theorem run_write {header : RtcpHeader} {body : Bytes} (rest : Bytes)
    {incoming found : ControlPacket}
    (fiveBits : header.countOrFormat.toNat < 32)
    (some : 0 < header.lengthInWords.toNat)
    (length : body.length = header.lengthInWords.toNat * 4)
    (added : incoming.add header body (body.drop 4) = .ok (.some found)) :
    compoundLoop.run (header.write ++ (body ++ rest), incoming) =
      compoundLoop.run (rest, found) := by
  have long : ¬ (header.write ++ (body ++ rest)).length < rtcpHeaderLength := by
    rw [List.length_append, header.length_write]
    omega
  apply EndingLoop.run_again
  rw [body_compoundLoop]
  unfold compoundPacket
  rw [if_neg long]
  dsimp only
  rw [nextPacket_write rest incoming fiveBits some length, added]
  rfl

theorem run_write_none {header : RtcpHeader} {body : Bytes} (rest : Bytes)
    {incoming : ControlPacket} (fiveBits : header.countOrFormat.toNat < 32)
    (some : 0 < header.lengthInWords.toNat)
    (length : body.length = header.lengthInWords.toNat * 4)
    (added : incoming.add header body (body.drop 4) = .ok none) :
    compoundLoop.run (header.write ++ (body ++ rest), incoming) = .ok none := by
  have long : ¬ (header.write ++ (body ++ rest)).length < rtcpHeaderLength := by
    rw [List.length_append, header.length_write]
    omega
  apply EndingLoop.run_leave
  rw [body_compoundLoop]
  unfold compoundPacket
  rw [if_neg long]
  dsimp only
  rw [nextPacket_write rest incoming fiveBits some length, added]
  rfl

theorem run_nil (incoming : ControlPacket) :
    compoundLoop.run ([], incoming) = .ok (some incoming) :=
  EndingLoop.run_leave rfl

/-- The loop over a single packet. -/
theorem run_write_single {header : RtcpHeader} {body : Bytes}
    (incoming : ControlPacket) (fiveBits : header.countOrFormat.toNat < 32)
    (some : 0 < header.lengthInWords.toNat)
    (length : body.length = header.lengthInWords.toNat * 4) :
    compoundLoop.run (header.write ++ body, incoming) =
      incoming.add header body (body.drop 4) := by
  obtain ⟨outcome, added⟩ := incoming.add_ok header body (body.drop 4)
  rw [added]
  rw [← List.append_nil body] at added ⊢
  cases outcome with
  | none => exact run_write_none [] fiveBits some length (by simpa using added)
  | some found =>
      rw [run_write [] fiveBits some length (by simpa using added), run_nil]

/-! ## Decrypting what has been encrypted -/

theorem flag_encryptedFooter (index : UInt32) :
    ∃ first rest, encryptedFooter index = first :: rest ∧
      first &&& 0b10000000 ≠ 0 := by
  have bound := (index ||| 0x80000000).toNat_lt
  have flagged : 2 ^ 31 ≤ (index ||| 0x80000000).toNat := by
    rw [UInt32.toNat_or]
    exact Nat.right_le_or
  have everyByte : ∀ byte < 256, 128 ≤ byte →
      UInt8.ofNat byte &&& 0b10000000 ≠ 0 := by
    decide +kernel
  unfold encryptedFooter
  generalize (index ||| 0x80000000).toNat = number at bound flagged ⊢
  have top : toBigEndian 4 number =
      UInt8.ofNat (number / 256 / 256 / 256) :: toBigEndian 3 number := by
    simp [toBigEndian]
  exact ⟨_, _, top, everyByte _ (by omega) (by omega)⟩

/-- What the cipher has sealed is opened again. -/
theorem parseAndDecryptInPlace_sealed {aead : Aead} {keys : KeyAndSalt}
    {header plaintext ciphertext tag iv serialized : Bytes} {index : UInt32}
    (headerLength : header.length = rtcpHeaderLen)
    (small : index.toNat < 2 ^ 31)
    (computed : rtcpIv (senderSsrc header) index keys.salt = some iv)
    (sealed : aead.encrypt keys.key iv (header ++ encryptedFooter index)
      plaintext = some (ciphertext, tag))
    (isSerialized : serialized =
      header ++ ciphertext ++ tag ++ encryptedFooter index) :
    parseAndDecryptInPlace aead serialized keys =
      compoundLoop.run (header ++ plaintext, empty) := by
  obtain ⟨ciphertextLength, tagLength⟩ := aead.encrypt_length sealed
  have footerLength : (encryptedFooter index).length = srtcpFooterLen :=
    length_toBigEndian 4 _
  have eight : rtcpHeaderLen = 8 := rfl
  have four : srtcpFooterLen = 4 := rfl
  have sixteen : srtpAuthTagLen = 16 := rfl
  have length : serialized.length =
      rtcpHeaderLen + plaintext.length + srtpAuthTagLen + srtcpFooterLen := by
    rw [isSerialized, List.length_append, List.length_append,
      List.length_append, headerLength, ciphertextLength, tagLength,
      footerLength]
  -- the words that are read before decrypting
  have readSsrc : (fromBigEndian (slice 4 8 serialized)).toUInt32 =
      senderSsrc header := by
    have atFront := senderSsrc_take header
      (ciphertext ++ (tag ++ encryptedFooter index))
      (Nat.le_of_eq headerLength.symm)
    rw [List.take_of_length_le (Nat.le_of_eq headerLength),
      ← List.append_assoc, ← List.append_assoc, ← isSerialized] at atFront
    rw [← atFront]
    exact congrArg (fun bytes => (fromBigEndian bytes).toUInt32)
      (take_drop_eq_slice 4 4 serialized).symm
  have isSsrc := @numberAt_eq serialized ⟨4, 8⟩ (by decide)
    (by dsimp only; omega)
  have isFooter : sliceOf serialized
      ⟨serialized.length - srtcpFooterLen, serialized.length⟩ =
      .ok (encryptedFooter index) := by
    have atEnd := footer_append (header ++ ciphertext ++ tag) index
    rw [← isSerialized] at atEnd
    rw [sliceFrom_eq (by omega)]
    exact congrArg Except.ok atEnd
  obtain ⟨first, rest, startsWith, flagged⟩ := flag_encryptedFooter index
  have flag : byteOf (encryptedFooter index) 0 = .ok first := by
    rw [startsWith]
    rfl
  have isNumber : numberAt (encryptedFooter index) ⟨0, 4⟩ =
      .ok (fromBigEndian (encryptedFooter index)) := by
    rw [numberAt_eq (by decide) (Nat.le_of_eq footerLength.symm)]
    exact congrArg (fun bytes => Except.ok (fromBigEndian bytes))
      (List.take_of_length_le (Nat.le_of_eq footerLength))
  have readIndex := srtcpIndex_append [] small
  unfold srtcpIndex at readIndex
  rw [footer_append] at readIndex
  -- the parts around what is decrypted
  have isHeader : sliceOf serialized ⟨0, rtcpHeaderLen⟩ = .ok header := by
    rw [isSerialized, List.append_assoc, List.append_assoc]
    exact @sliceOf_middle [] header _ 0 rtcpHeaderLen rfl (by omega)
  have isCiphertext : sliceOf serialized ⟨rtcpHeaderLen,
      serialized.length - srtpAuthTagLen - srtcpFooterLen⟩ =
      .ok ciphertext := by
    rw [length, isSerialized, List.append_assoc, List.append_assoc]
    exact sliceOf_middle headerLength (by omega)
  have isTag : sliceOf serialized
      ⟨serialized.length - srtpAuthTagLen - srtcpFooterLen,
        serialized.length - srtcpFooterLen⟩ = .ok tag := by
    rw [length, isSerialized, List.append_assoc (header ++ ciphertext)]
    apply sliceOf_middle
    · rw [List.length_append]
      omega
    · omega
  have isCompound : sliceOf (header ++ plaintext ++ tag ++
      encryptedFooter index)
      ⟨0, serialized.length - srtpAuthTagLen - srtcpFooterLen⟩ =
      .ok (header ++ plaintext) := by
    have together : 0 + (header ++ plaintext).length =
        serialized.length - srtpAuthTagLen - srtcpFooterLen := by
      rw [List.length_append]
      omega
    rw [List.append_assoc (header ++ plaintext)]
    exact @sliceOf_middle [] _ _ 0 _ rfl together
  have opened := aead.decrypt_encrypt sealed
  unfold parseAndDecryptInPlace
  dsimp only
  rw [if_neg (by omega), isSsrc, ok_bind, isFooter, ok_bind, flag, ok_bind,
    isNumber, ok_bind, if_neg flagged, isHeader, ok_bind, isCiphertext, ok_bind,
    isTag, ok_bind, readIndex, readSsrc, computed]
  simp only [Option.bind_eq_bind, Option.bind_some, opened, isCompound, ok_bind]

theorem exists_rtcpIv {ssrc : Ssrc} {index : UInt32} (salt : Salt)
    (small : index.toNat < 2 ^ 31) : ∃ iv, rtcpIv ssrc index salt = some iv := by
  have notLarge : ¬ (1 : UInt32) <<< (31 : UInt32) ≤ index := by
    rw [UInt32.le_iff_toNat_le]
    exact Nat.not_le.mpr small
  unfold rtcpIv
  rw [if_neg notLarge]
  exact ⟨_, rfl⟩

/-- The space that `encrypt` expects behind the packets. -/
def tagAndFooter : Bytes := List.replicate (srtpAuthTagLen + srtcpFooterLen) 0

/-- Packets that are encrypted with space for the tag and the footer are
handed to the loop as they were. -/
theorem parseAndDecryptInPlace_encrypt {aead : Aead} {keys : KeyAndSalt}
    {packets : Bytes} {ssrc : Ssrc} {index : UInt32} (total : aead.IsTotal)
    (long : rtcpHeaderLen ≤ packets.length)
    (named : senderSsrc (packets ++ tagAndFooter) = ssrc)
    (small : index.toNat < 2 ^ 31) :
    ∃ serialized,
      encrypt aead (packets ++ tagAndFooter) ssrc index keys =
        .ok (some serialized) ∧
      parseAndDecryptInPlace aead serialized keys =
        compoundLoop.run (packets, empty) := by
  have length : (packets ++ tagAndFooter).length = packets.length +
      srtpAuthTagLen + srtcpFooterLen := by
    unfold tagAndFooter
    rw [List.length_append, List.length_replicate, Nat.add_assoc]
  have headerLength : (packets.take rtcpHeaderLen).length = rtcpHeaderLen :=
    List.length_take_of_le long
  have header : (packets ++ tagAndFooter).take rtcpHeaderLen =
      packets.take rtcpHeaderLen :=
    List.take_append_of_le_length long
  have plaintext : ((packets ++ tagAndFooter).drop rtcpHeaderLen).take
      ((packets ++ tagAndFooter).length - rtcpHeaderLen - srtpAuthTagLen -
        srtcpFooterLen) = packets.drop rtcpHeaderLen := by
    have count : (packets ++ tagAndFooter).length - rtcpHeaderLen -
        srtpAuthTagLen - srtcpFooterLen =
        (packets.drop rtcpHeaderLen).length := by
      rw [length, List.length_drop]
      omega
    rw [count, List.drop_append_of_le_length long, List.take_left]
  have sameSsrc : senderSsrc (packets.take rtcpHeaderLen) = ssrc := by
    have taken := senderSsrc_take (packets ++ tagAndFooter) []
      (by rw [length]; omega)
    rw [header, List.append_nil] at taken
    exact taken.trans named
  obtain ⟨iv, computed⟩ := @exists_rtcpIv ssrc index keys.salt small
  obtain ⟨ciphertext, tag, sealed⟩ := total keys.key iv
    (packets.take rtcpHeaderLen ++ encryptedFooter index)
    (packets.drop rtcpHeaderLen)
  refine ⟨packets.take rtcpHeaderLen ++ ciphertext ++ tag ++
    encryptedFooter index, ?_, ?_⟩
  · have enough : rtcpHeaderLen + srtpAuthTagLen + srtcpFooterLen ≤
        (packets ++ tagAndFooter).length := by
      rw [length]
      omega
    unfold encrypt
    rw [ensure_of enough, ok_bind]
    simp only [header, plaintext, computed, Option.bind_some, sealed,
      Option.map_some]
    rfl
  · rw [← sameSsrc] at computed
    rw [parseAndDecryptInPlace_sealed headerLength small computed sealed rfl,
      List.take_append_drop]

/-! ## One packet with its payload -/

/-- The payload, filled up to whole words. -/
def zeroPadded (payload : Bytes) : Bytes :=
  payload ++ List.replicate
    (roundUpToMultipleOfFour payload.length - payload.length) 0

theorem length_zeroPadded (payload : Bytes) :
    (zeroPadded payload).length = roundUpToMultipleOfFour payload.length := by
  unfold zeroPadded roundUpToMultipleOfFour
  rw [List.length_append, List.length_replicate]
  omega

theorem zeroPadded_of_words {payload : Bytes}
    (words : payload.length % 4 = 0) : zeroPadded payload = payload := by
  have nothing : roundUpToMultipleOfFour payload.length - payload.length = 0 := by
    unfold roundUpToMultipleOfFour
    omega
  unfold zeroPadded
  rw [nothing, List.replicate_zero, List.append_nil]

/-- The header that `serialize_and_encrypt` writes. -/
def serializedHeader (pt countOrFormat : UInt8) (isPadded : Bool)
    (payload : Bytes) : RtcpHeader where
  hasPadding := isPadded
  countOrFormat := countOrFormat
  payloadType := pt
  lengthInWords :=
    (roundUpToMultipleOfFour payload.length / 4 + 1).toUInt16

section Serialized

variable {aead : Aead} {keys : KeyAndSalt} {pt countOrFormat : UInt8}
  {isPadded : Bool} {senderSsrc : Ssrc} {payload : Bytes} {index : UInt32}

theorem lengthInWords_serializedHeader (short : payload.length ≤ 260000) :
    (serializedHeader pt countOrFormat isPadded payload).lengthInWords.toNat =
      roundUpToMultipleOfFour payload.length / 4 + 1 := by
  unfold serializedHeader roundUpToMultipleOfFour
  simp only [Nat.toUInt16_eq, UInt16.toNat_ofNat']
  omega

/-- The buffer before it is encrypted. -/
theorem serializeAndEncrypt_eq (short : payload.length ≤ 260000) :
    serializeAndEncrypt aead pt countOrFormat isPadded senderSsrc payload index
        keys =
      encrypt aead
        ((serializedHeader pt countOrFormat isPadded payload).write ++
          (toBigEndian 4 senderSsrc.toNat ++ zeroPadded payload) ++
            tagAndFooter)
        senderSsrc index keys := by
  have words := @lengthInWords_serializedHeader pt countOrFormat isPadded
    payload short
  have zeros : List.replicate (roundUpToMultipleOfFour payload.length -
      payload.length + srtpAuthTagLen + srtcpFooterLen) (0 : UInt8) =
      List.replicate (roundUpToMultipleOfFour payload.length -
        payload.length) 0 ++ tagAndFooter := by
    unfold tagAndFooter
    rw [List.replicate_append_replicate, Nat.add_assoc]
  unfold serializeAndEncrypt RtcpHeader.write zeroPadded
  dsimp only
  rw [words, zeros]
  simp only [serializedHeader, List.append_assoc]

/-- The parser finds the packet that has been serialized, and no other. -/
theorem parse_serializeAndEncrypt (total : aead.IsTotal)
    (fiveBits : countOrFormat.toNat < 32) (short : payload.length ≤ 260000)
    (small : index.toNat < 2 ^ 31) :
    ∃ serialized,
      serializeAndEncrypt aead pt countOrFormat isPadded senderSsrc payload
        index keys = .ok (some serialized) ∧
      parseAndDecryptInPlace aead serialized keys =
        empty.add (serializedHeader pt countOrFormat isPadded payload)
          (toBigEndian 4 senderSsrc.toNat ++ zeroPadded payload)
          (zeroPadded payload) := by
  have words := @lengthInWords_serializedHeader pt countOrFormat isPadded
    payload short
  have headerLength :=
    (serializedHeader pt countOrFormat isPadded payload).length_write
  have bodyLength : (toBigEndian 4 senderSsrc.toNat ++
      zeroPadded payload).length =
      (serializedHeader pt countOrFormat isPadded
        payload).lengthInWords.toNat * 4 := by
    rw [words, List.length_append, length_toBigEndian, length_zeroPadded]
    unfold roundUpToMultipleOfFour
    omega
  have behind : (toBigEndian 4 senderSsrc.toNat ++ zeroPadded payload).drop 4 =
      zeroPadded payload :=
    List.drop_left' (length_toBigEndian 4 _)
  have long : rtcpHeaderLen ≤
      ((serializedHeader pt countOrFormat isPadded payload).write ++
        (toBigEndian 4 senderSsrc.toNat ++ zeroPadded payload)).length := by
    have four : rtcpHeaderLength = 4 := rfl
    have eight : rtcpHeaderLen = 8 := rfl
    rw [List.length_append, headerLength, bodyLength, words]
    omega
  have named : ControlPacket.senderSsrc
      ((serializedHeader pt countOrFormat isPadded payload).write ++
        (toBigEndian 4 senderSsrc.toNat ++ zeroPadded payload) ++
          tagAndFooter) = senderSsrc := by
    rw [List.append_assoc, List.append_assoc]
    exact senderSsrc_of_bytes senderSsrc _ headerLength
  obtain ⟨serialized, encrypted, parsed⟩ :=
    @parseAndDecryptInPlace_encrypt aead keys _ _ _ total long named small
  refine ⟨serialized, (serializeAndEncrypt_eq short).trans encrypted, ?_⟩
  rw [parsed, run_write_single empty fiveBits (by omega) bodyLength, behind]

end Serialized

end ControlPacket

end CallingService.Backend.Rtp
