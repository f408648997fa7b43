import CallingService.Backend.Vp8
import CallingService.Foundation.Slices

/-!
# Rewritten VP8 descriptors

The ids are written at fixed offsets.  A descriptor that has both ids has
them there, and reads as before with the new ones.
-/

namespace CallingService.Backend.Vp8

open Foundation Rtp

/-- The top bit. -/
theorem msBit_zero_iff {byte : UInt8} : msBit byte 0 = true ↔
    128 ≤ byte.toNat := by
  have small := byte.toNat_lt
  have shifted : (byte >>> (8 - 0 - 1 : Nat).toUInt8).toNat =
      byte.toNat / 128 := by
    rw [UInt8.toNat_shiftRight]
    exact Nat.shiftRight_eq_div_pow byte.toNat 7
  unfold msBit
  rw [decide_eq_true_iff, ← UInt8.toNat_inj, UInt8.toNat_and, shifted]
  change (byte.toNat / 128) &&& 1 = 1 ↔ _
  rw [Nat.and_one_is_mod]
  omega

/-- A descriptor with both ids. -/
theorem read_with_ids {byte0 xByte high low base : UInt8} {rest : Bytes}
    (extended : msBit byte0 0 = true) (hasPicture : msBit xByte 0 = true)
    (hasBase : msBit xByte 1 = true) (isLong : msBit high 0 = true) :
    ParsedHeader.read (byte0 :: xByte :: high :: low :: base :: rest) =
      (readIf (msBit xByte 2 || msBit xByte 3) readU8 rest >>= fun skipped =>
        readPayloadHeader (msBit byte0 3 && byte0 &&& 0b111 = 0) skipped.2 >>=
          fun frame => .ok ⟨some ((fromBigEndian [high, low]).toUInt16 &&&
            0b0111111111111111), some base, frame.1, frame.2⟩) := by
  have picture : readPictureId (high :: low :: base :: rest) =
      .ok ((fromBigEndian [high, low]).toUInt16 &&& 0b0111111111111111,
        base :: rest) := by
    have both : readSlice 2 (high :: low :: base :: rest) =
        .ok ([high, low], base :: rest) := rfl
    unfold readPictureId readU8 ensure
    rw [ok_bind]
    dsimp only
    rw [if_pos isLong, ok_bind, both]
    rfl
  have extensions : readExtensions true
        (xByte :: high :: low :: base :: rest) =
      (readIf (msBit xByte 2 || msBit xByte 3) readU8 rest >>= fun skipped =>
        .ok ((some ((fromBigEndian [high, low]).toUInt16 &&&
          0b0111111111111111), some base), skipped.2)) := by
    unfold readExtensions
    rw [if_pos rfl, readU8, ok_bind]
    dsimp only
    rw [hasPicture, hasBase]
    unfold readIf
    rw [if_pos rfl, picture, ok_bind]
    rfl
  unfold ParsedHeader.read
  rw [readU8, ok_bind]
  dsimp only
  rw [extended, extensions]
  cases readIf (msBit xByte 2 || msBit xByte 3) readU8 rest with
  | error failure => rfl
  | ok skipped => rfl

theorem ids_in_place {payload : Bytes} {header : ParsedHeader}
    (parsed : ParsedHeader.read payload = .ok header)
    (hasPicture : header.pictureId.isSome) (hasBase : header.tl0PicIdx.isSome) :
    ∃ byte0 xByte high low base rest,
      payload = byte0 :: xByte :: high :: low :: base :: rest ∧
      msBit byte0 0 = true ∧ msBit xByte 0 = true ∧ msBit xByte 1 = true ∧
      msBit high 0 = true := by
  obtain ⟨start, readStart, parsed⟩ := bind_eq_ok_iff.mp parsed
  obtain ⟨ids, readIds, parsed⟩ := bind_eq_ok_iff.mp parsed
  obtain ⟨frame, readFrame, returned⟩ := bind_eq_ok_iff.mp parsed
  cases returned
  cases payload with
  | nil => cases readStart
  | cons byte0 afterStart =>
      cases readStart
      unfold readExtensions at readIds
      split at readIds
      · rename_i extended
        obtain ⟨extension, readX, readIds⟩ := bind_eq_ok_iff.mp readIds
        obtain ⟨picture, readPicture, readIds⟩ := bind_eq_ok_iff.mp readIds
        obtain ⟨tl0, readTl0, readIds⟩ := bind_eq_ok_iff.mp readIds
        obtain ⟨skipped, readSkipped, returned⟩ := bind_eq_ok_iff.mp readIds
        cases returned
        cases afterStart with
        | nil => cases readX
        | cons xByte afterX =>
            cases readX
            unfold readIf at readPicture readTl0
            split at readPicture
            · rename_i picturePresent
              obtain ⟨pictureId, readId, returned⟩ :=
                bind_eq_ok_iff.mp readPicture
              cases returned
              obtain ⟨peeked, peek, readId⟩ := bind_eq_ok_iff.mp readId
              obtain ⟨_, isLong, readId⟩ := bind_eq_ok_iff.mp readId
              obtain ⟨bytes, slice, returned⟩ := bind_eq_ok_iff.mp readId
              cases returned
              rw [ensure_eq_ok_iff] at isLong
              rcases afterX with _ | ⟨high, _ | ⟨low, afterPicture⟩⟩
              · cases peek
              · cases slice
              · cases peek
                cases slice
                split at readTl0
                · rename_i basePresent
                  obtain ⟨base, readBase, returned⟩ :=
                    bind_eq_ok_iff.mp readTl0
                  cases afterPicture with
                  | nil => cases readBase
                  | cons first rest =>
                      exact ⟨byte0, xByte, high, low, first, rest, rfl,
                        extended, picturePresent, basePresent, isLong⟩
                · cases readTl0
                  cases hasBase
            · cases readPicture
              cases hasPicture
      · cases readIds
        cases hasPicture

/-! ## New ids -/

/-- The bytes of a picture id with its mark of 15 bits. -/
theorem pictureId_bytes (pictureId : TruncatedPictureId) :
    ∃ high low, toBigEndian 2 (pictureId ||| 0b1000000000000000).toNat =
        [high, low] ∧
      msBit high 0 = true ∧
      (fromBigEndian [high, low]).toUInt16 &&& 0b0111111111111111 =
        pictureId &&& 0b0111111111111111 := by
  have marked : 2 ^ 15 ≤ (pictureId ||| 0b1000000000000000).toNat := by
    rw [UInt16.toNat_or]
    exact Nat.right_le_or
  have small := (pictureId ||| 0b1000000000000000).toNat_lt
  have whole : (fromBigEndian (toBigEndian 2
      (pictureId ||| 0b1000000000000000).toNat)).toUInt16 =
        pictureId ||| 0b1000000000000000 := by
    have inTwoBytes : (pictureId ||| 0b1000000000000000).toNat % 256 ^ 2 =
        (pictureId ||| 0b1000000000000000).toNat := Nat.mod_eq_of_lt small
    rw [fromBigEndian_toBigEndian, inTwoBytes]
    exact UInt16.ofNat_toNat
  refine ⟨_, _, rfl, ?_, ?_⟩
  · rw [msBit_zero_iff]
    rw [UInt8.toNat_ofNat']
    omega
  · change (fromBigEndian (toBigEndian 2
      (pictureId ||| 0b1000000000000000).toNat)).toUInt16 &&& _ = _
    rw [whole, ← UInt16.toNat_inj, UInt16.toNat_and, UInt16.toNat_or,
      UInt16.toNat_and, Nat.and_or_distrib_right]
    exact Nat.or_zero _

theorem length_of_ids {payload : Bytes} {header : ParsedHeader}
    (parsed : ParsedHeader.read payload = .ok header)
    (hasPicture : header.pictureId.isSome) (hasBase : header.tl0PicIdx.isSome) :
    5 ≤ payload.length := by
  obtain ⟨byte0, xByte, high, low, base, rest, rfl, -⟩ :=
    ids_in_place parsed hasPicture hasBase
  exact Nat.le_add_left 5 rest.length

/-- What `modify_header` writes is read back, and nothing else changes. -/
theorem read_rewritten {payload rewritten : Bytes} {header : ParsedHeader}
    {pictureId : TruncatedPictureId} {tl0PicIdx : TruncatedTl0PicIdx}
    (parsed : ParsedHeader.read payload = .ok header)
    (hasPicture : header.pictureId.isSome) (hasBase : header.tl0PicIdx.isSome)
    (sameLength : rewritten.length = payload.length)
    (named : slice 2 4 rewritten =
      toBigEndian 2 (pictureId ||| 0b1000000000000000).toNat)
    (based : slice 4 5 rewritten = [tl0PicIdx])
    (same : ∀ index, index < 2 ∨ 5 ≤ index →
      rewritten[index]? = payload[index]?) :
    ParsedHeader.read rewritten = .ok { header with
      pictureId := some (pictureId &&& 0b0111111111111111)
      tl0PicIdx := some tl0PicIdx } := by
  obtain ⟨byte0, xByte, oldHigh, oldLow, oldBase, rest, rfl, extended,
    picturePresent, basePresent, wasLong⟩ :=
      ids_in_place parsed hasPicture hasBase
  obtain ⟨high, low, isPicture, isLong, masked⟩ := pictureId_bytes pictureId
  have isRewritten : rewritten =
      byte0 :: xByte :: high :: low :: tl0PicIdx :: rest := by
    rw [isPicture] at named
    have first := same 0 (.inl (by decide))
    have second := same 1 (.inl (by decide))
    have further : rewritten.drop 5 = rest := by
      apply List.ext_getElem?
      intro index
      rw [List.getElem?_drop, same (5 + index) (.inr (Nat.le_add_right 5 _)),
        Nat.add_comm]
      rfl
    rcases rewritten with _ | ⟨a, _ | ⟨b, _ | ⟨c, _ | ⟨d, _ | ⟨e, others⟩⟩⟩⟩⟩
    · cases first
    · cases second
    · cases named
    · cases named
    · cases based
    · cases first
      cases second
      cases named
      cases based
      cases further
      rfl
  rw [isRewritten, read_with_ids extended picturePresent basePresent isLong,
    masked]
  rw [read_with_ids extended picturePresent basePresent wasLong] at parsed
  obtain ⟨skipped, skips, parsed⟩ := bind_eq_ok_iff.mp parsed
  obtain ⟨frame, readFrame, returned⟩ := bind_eq_ok_iff.mp parsed
  cases returned
  rw [skips, ok_bind, readFrame, ok_bind]

end CallingService.Backend.Vp8
