import CallingService.Backend.Rtp.HeaderWalk

/-!
# Where the parts of a packet lie

A packet that parses consists of the fixed header, the contributing sources,
the extensions, the payload and the tag.  The positions that are recorded for
later writes lie between the fixed header and the payload.
-/

namespace CallingService.Backend.Rtp

open Foundation

/-! ## What has been parsed -/

/-- The extensions begin behind the contributing sources. -/
def extensionsStartOf (first : UInt8) : Nat :=
  rtpMinHeaderLen + 4 * (first &&& 0b00001111).toNat

/-- The extensions of a packet have the values, and its payload begins behind
them. -/
structure Laid (packet : Bytes) (first second : UInt8)
    (values : ExtensionValues) (payloadStart : Nat) : Prop where
  bytes : ∃ rest, packet = first :: second :: rest
  main : rtpMinHeaderLen ≤ packet.length
  csrcs : extensionsStartOf first ≤ packet.length
  extensions :
    (first &&& 0b00010000 ≠ 0 ∧ ∃ length,
      payloadStart = extensionsStartOf first + length ∧
      parseExtensionBlock (extensionsStartOf first)
        (packet.drop (extensionsStartOf first)) = .ok (some (values, length))) ∨
    (first &&& 0b00010000 = 0 ∧ values = .empty ∧
      payloadStart = extensionsStartOf first)

theorem Header.parse_iff {packet : Bytes} {header : Header} :
    Header.parse packet = .ok (some header) ↔
      ∃ first second values payloadStart,
        Laid packet first second values payloadStart ∧
        buildHeader packet first second values payloadStart = some header := by
  constructor
  · intro parsed
    unfold Header.parse at parsed
    split at parsed
    · rename_i first second rest
      split at parsed
      · cases parsed
      · rename_i long
        dsimp only at parsed
        split at parsed
        · cases parsed
        · rename_i longEnough
          have main := Nat.le_of_not_lt long
          have csrcs : extensionsStartOf first ≤
              (first :: second :: rest).length := by
            rw [List.length_drop] at longEnough
            unfold extensionsStartOf
            omega
          split at parsed
          · rename_i extended
            obtain ⟨block, found, built⟩ := bind_eq_ok_iff.mp parsed
            cases block with
            | none => cases built
            | some block =>
                obtain ⟨values, length⟩ := block
                rw [List.drop_drop] at found
                have isHeader := Except.ok.inj built
                exact ⟨first, second, values, _, ⟨⟨rest, rfl⟩, main, csrcs,
                  .inl ⟨extended, length, rfl, found⟩⟩, isHeader⟩
          · rename_i plain
            have isHeader := Except.ok.inj parsed
            exact ⟨first, second, .empty, _, ⟨⟨rest, rfl⟩, main, csrcs,
              .inr ⟨not_ne_iff.mp plain, rfl, rfl⟩⟩, isHeader⟩
    · cases parsed
  · rintro ⟨first, second, values, payloadStart,
      ⟨⟨rest, rfl⟩, main, csrcs, extensions⟩, built⟩
    have longEnough : ¬ ((first :: second :: rest).drop
        rtpMinHeaderLen).length < 4 * (first &&& 0b00001111).toNat := by
      rw [List.length_drop]
      unfold extensionsStartOf at csrcs
      omega
    unfold Header.parse
    dsimp only
    rw [if_neg (Nat.not_lt.mpr main), if_neg longEnough]
    rcases extensions with ⟨extended, length, rfl, found⟩ | ⟨plain, rfl, rfl⟩
    · unfold extensionsStartOf at found
      rw [if_pos extended, List.drop_drop, found, ok_bind]
      exact congrArg Except.ok built
    · rw [if_neg (not_ne_iff.mpr plain)]
      exact congrArg Except.ok built

/-! ## Where the values are -/

/-- The recorded positions lie within a part of the packet. -/
structure ExtensionValues.Within (lower upper : Nat)
    (values : ExtensionValues) : Prop where
  tcc : ∀ range, values.tccSeqnumRange = some range →
    lower ≤ range.start ∧ range.finish = range.start + 2 ∧
      range.finish ≤ upper
  descriptor : ∀ descriptor range,
    values.dependencyDescriptor = some (descriptor, range) →
    lower ≤ range.start ∧
      range.start + rtpDependencyDescriptorMinLen ≤ range.finish ∧
      range.finish ≤ upper

namespace ExtensionValues

variable {lower upper : Nat}

theorem within_empty (lower upper : Nat) : empty.Within lower upper where
  tcc := by
    intro range found
    cases found
  descriptor := by
    intro descriptor range found
    cases found

/-- What one extension may change. -/
theorem add_cases {values next : ExtensionValues} {id : Nat} {value : Bytes}
    {range : ByteRange} (added : values.add id value range = .ok (some next)) :
    (next.tccSeqnumRange = values.tccSeqnumRange ∨
      id = rtpExtIdTccSeqnum ∧ value.length = 2 ∧
        next.tccSeqnumRange = some range) ∧
    (next.dependencyDescriptor = values.dependencyDescriptor ∨
      id = rtpExtIdDependencyDescriptor ∧
        rtpDependencyDescriptorMinLen ≤ value.length ∧
        ∃ descriptor, readDescriptor value = .ok descriptor ∧
          next.dependencyDescriptor = some (descriptor, range)) := by
  unfold add at added
  split at added
  · rename_i isTcc
    cases added
    exact ⟨.inr ⟨isTcc.1, isTcc.2, rfl⟩, .inl rfl⟩
  · split at added
    · split at added
      · cases added
        exact ⟨.inl rfl, .inl rfl⟩
      · split at added
        · cases added
          exact ⟨.inl rfl, .inl rfl⟩
        · split at added
          · cases added
          · cases added
            exact ⟨.inl rfl, .inl rfl⟩
    · split at added
      · rename_i isDescriptor
        split at added
        · cases added
        · rename_i longEnough
          obtain ⟨descriptor, found, returned⟩ := bind_eq_ok_iff.mp added
          cases returned
          exact ⟨.inl rfl, .inr ⟨isDescriptor, Nat.le_of_not_lt longEnough,
            descriptor, found, rfl⟩⟩
      · cases added
        exact ⟨.inl rfl, .inl rfl⟩

theorem Within.add {values next : ExtensionValues} {id : Nat} {value : Bytes}
    {range : ByteRange} (within : values.Within lower upper)
    (above : lower ≤ range.start)
    (isLength : range.finish = range.start + value.length)
    (below : range.finish ≤ upper)
    (added : values.add id value range = .ok (some next)) :
    next.Within lower upper := by
  obtain ⟨tccCases, descriptorCases⟩ := add_cases added
  constructor
  · intro found isFound
    rcases tccCases with same | ⟨-, two, isRange⟩
    · rw [same] at isFound
      exact within.tcc found isFound
    · rw [isRange] at isFound
      cases isFound
      rw [two] at isLength
      exact ⟨above, isLength, below⟩
  · intro descriptor found isFound
    rcases descriptorCases with same | ⟨-, longEnough, another, -, isRange⟩
    · rw [same] at isFound
      exact within.descriptor descriptor found isFound
    · rw [isRange] at isFound
      cases isFound
      exact ⟨above, by omega, below⟩

end ExtensionValues

theorem parseExtensions_within (profile : HeaderExtensionsProfile)
    {lower upper fuel position : Nat} {extensions : Bytes}
    {values found : ExtensionValues} (within : values.Within lower upper)
    (above : lower ≤ position) (below : position + extensions.length ≤ upper)
    (parsed : parseExtensions profile fuel position extensions values =
      .ok (some found)) : found.Within lower upper := by
  induction fuel generalizing position extensions values with
  | zero =>
      cases parsed
      exact within
  | succ fuel ih =>
      cases extensions with
      | nil =>
          cases parsed
          exact within
      | cons first tail =>
          rw [parseExtensions_cons _ _ _ _ _ _ _ rfl] at parsed
          generalize profile.lenOf
            ((first :: tail).getD profile.lenIndex 0) = length at parsed
          split at parsed
          · split at parsed
            · cases parsed
              exact within
            · cases parsed
          · rename_i longEnough
            split at parsed
            · cases parsed
              exact within
            · split at parsed
              · cases parsed
              · rename_i inside
                obtain ⟨added, isAdded, further⟩ := bind_eq_ok_iff.mp parsed
                cases added with
                | none => cases further
                | some next =>
                    rw [List.length_drop] at inside
                    have valueLength : (((first :: tail).drop
                        profile.len).take length).length = length := by
                      apply List.length_take_of_le
                      rw [List.length_drop]
                      omega
                    have nextWithin : next.Within lower upper :=
                      within.add (by dsimp only; omega)
                        (by dsimp only; rw [valueLength]) (by dsimp only; omega)
                        isAdded
                    apply ih nextWithin (by omega) ?_ further
                    rw [List.length_drop, List.length_drop]
                    omega

/-- An extension block that parses. -/
structure BlockParsed (position : Nat) (block : Bytes)
    (values : ExtensionValues) (profile : HeaderExtensionsProfile)
    (length : Nat) : Prop where
  isProfile : HeaderExtensionsProfile.tryFrom
    (fromBigEndian (block.take 2)) = some profile
  isLength : fromBigEndian ((block.drop 2).take 2) * 4 = length
  inside : rtpExtensionsHeaderLen + length ≤ block.length
  found : parseExtensions profile length (position + rtpExtensionsHeaderLen)
    ((block.drop rtpExtensionsHeaderLen).take length) .empty =
      .ok (some values)

theorem parseExtensionBlock_iff {position : Nat} {block : Bytes}
    {values : ExtensionValues} {total : Nat} :
    parseExtensionBlock position block = .ok (some (values, total)) ↔
      ∃ profile length, BlockParsed position block values profile length ∧
        total = rtpExtensionsHeaderLen + length := by
  constructor
  · intro parsed
    unfold parseExtensionBlock at parsed
    split at parsed
    · cases parsed
    · dsimp only at parsed
      split at parsed
      · cases parsed
      · rename_i long _ profile isProfile
        split at parsed
        · cases parsed
        · rename_i inside
          obtain ⟨outcome, found, returned⟩ := bind_eq_ok_iff.mp parsed
          cases outcome with
          | none => cases returned
          | some outcome =>
              cases returned
              rw [List.length_drop] at inside
              refine ⟨profile, _, ⟨isProfile, rfl, ?_, found⟩, rfl⟩
              omega
  · rintro ⟨profile, length, ⟨isProfile, isLength, inside, found⟩, rfl⟩
    have long : ¬ block.length < rtpExtensionsHeaderLen := by omega
    have longEnough : ¬ (block.drop rtpExtensionsHeaderLen).length < length := by
      rw [List.length_drop]
      omega
    unfold parseExtensionBlock
    rw [if_neg long]
    dsimp only
    rw [isProfile, isLength]
    dsimp only
    rw [if_neg longEnough, found]
    rfl

/-- The positions in a parsed header. -/
structure Header.InBounds (header : Header) (length : Nat) : Prop where
  fixed : rtpMinHeaderLen ≤ header.payloadRange.start
  payload : header.payloadRange.start ≤ header.payloadRange.finish
  tag : header.payloadRange.finish + srtpAuthTagLen = length
  tcc : ∀ range, header.tccSeqnumRange = some range →
    rtpMinHeaderLen ≤ range.start ∧ range.finish = range.start + 2 ∧
      range.finish ≤ header.payloadRange.start
  descriptor : ∀ descriptor range,
    header.dependencyDescriptor = some (descriptor, range) →
    rtpMinHeaderLen ≤ range.start ∧
      range.start + rtpDependencyDescriptorMinLen ≤ range.finish ∧
      range.finish ≤ header.payloadRange.start
  padding : header.hasPadding = true →
    header.payloadRange.start < header.payloadRange.finish

theorem Laid.within {packet : Bytes} {first second : UInt8}
    {values : ExtensionValues} {payloadStart : Nat}
    (laid : Laid packet first second values payloadStart) :
    values.Within (extensionsStartOf first) payloadStart := by
  rcases laid.extensions with ⟨-, total, rfl, found⟩ | ⟨-, rfl, -⟩
  · obtain ⟨profile, length, block, rfl⟩ := parseExtensionBlock_iff.mp found
    apply parseExtensions_within profile
      (ExtensionValues.within_empty _ _) (Nat.le_add_right _ _) ?_ block.found
    rw [List.length_take_of_le]
    · omega
    · have inside := block.inside
      rw [List.length_drop]
      omega
  · exact ExtensionValues.within_empty _ _

theorem Laid.extensionsStart_le {packet : Bytes} {first second : UInt8}
    {values : ExtensionValues} {payloadStart : Nat}
    (laid : Laid packet first second values payloadStart) :
    extensionsStartOf first ≤ payloadStart := by
  rcases laid.extensions with ⟨-, total, rfl, -⟩ | ⟨-, -, rfl⟩
  · exact Nat.le_add_right _ _
  · exact Nat.le_refl _

theorem Header.inBounds_of_parse {packet : Bytes} {header : Header}
    (parsed : Header.parse packet = .ok (some header)) :
    header.InBounds packet.length := by
  obtain ⟨first, second, values, payloadStart, laid, built⟩ :=
    Header.parse_iff.mp parsed
  have within := laid.within
  have startsBehind := laid.extensionsStart_le
  have fixed : rtpMinHeaderLen ≤ extensionsStartOf first :=
    Nat.le_add_right _ _
  unfold buildHeader at built
  dsimp only at built
  split at built
  · cases built
  · rename_i tagFits
    split at built
    · cases built
    · rename_i notMissing
      cases built
      constructor
      · exact Nat.le_trans fixed startsBehind
      · dsimp only
        omega
      · dsimp only
        omega
      · intro range found
        have bounds := within.tcc range found
        exact ⟨Nat.le_trans fixed bounds.1, bounds.2⟩
      · intro descriptor range found
        have bounds := within.descriptor descriptor range found
        exact ⟨Nat.le_trans fixed bounds.1, bounds.2⟩
      · intro padded
        apply Nat.lt_of_not_le
        intro missing
        exact notMissing ⟨of_decide_eq_true padded, missing⟩

end CallingService.Backend.Rtp
