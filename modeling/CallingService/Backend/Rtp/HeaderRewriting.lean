import CallingService.Backend.Rtp.ExtensionRewriting

/-!
# Headers of rewritten packets

No write touches what the parser goes by.  When only numbers of the fixed
header, the recorded values and the payload have changed, it finds the same
positions again, and the values that stand there now.
-/

namespace CallingService.Backend.Rtp

open Foundation

theorem parseExtensions_again {profile : HeaderExtensionsProfile}
    {packet rewritten : Bytes} {finish fuel position : Nat}
    {found : ExtensionValues} (sameLength : rewritten.length = packet.length)
    (fits : finish ≤ packet.length)
    (same : ∀ index, position ≤ index → index < finish →
      (∀ place ∈ found.places, ¬ place.Covers index) →
        rewritten[index]? = packet[index]?)
    (parsed : parseExtensions profile fuel position
      (slice position finish packet) .empty = .ok (some found)) :
    parseExtensions profile fuel position (slice position finish rewritten)
      .empty = .ok (some (found.reread rewritten)) := by
  have before : ∀ place ∈ ExtensionValues.empty.places,
      place.finish ≤ position := by
    intro place isPlace
    cases isPlace
  obtain ⟨again, isAgain, alike⟩ := parseExtensions_rewritten sameLength fits
    before (ExtensionValues.Alike.refl _) same parsed
  have isRead := parseExtensions_reread (sameLength ▸ fits) rfl isAgain
  rw [isAgain, alike.reread_eq isRead]

section Rewritten

variable {packet rewritten : Bytes} {first second : UInt8}
  {values : ExtensionValues} {payloadStart : Nat}

theorem firstBytes_kept
    (bytes : ∃ rest, packet = first :: second :: rest)
    (sameStart : ∀ index, index < 2 → rewritten[index]? = packet[index]?) :
    ∃ rest, rewritten = first :: second :: rest := by
  obtain ⟨rest, isPacket⟩ := bytes
  have isFirst := sameStart 0 (by decide)
  have isSecond := sameStart 1 (by decide)
  rw [isPacket] at isFirst isSecond
  cases rewritten with
  | nil => cases isFirst
  | cons one others =>
      cases others with
      | nil => cases isSecond
      | cons two others =>
          cases isFirst
          cases isSecond
          exact ⟨others, rfl⟩

/-- The header of an extension block and what is between the recorded values
are all that the parser goes by. -/
theorem BlockParsed.reread {start length : Nat}
    {profile : HeaderExtensionsProfile}
    (block : BlockParsed start (packet.drop start) values profile length)
    (fits : start + rtpExtensionsHeaderLen + length ≤ packet.length)
    (sameLength : rewritten.length = packet.length)
    (same : ∀ index, start ≤ index →
      index < start + rtpExtensionsHeaderLen + length →
      (∀ place ∈ values.places, ¬ place.Covers index) →
        rewritten[index]? = packet[index]?) :
    BlockParsed start (rewritten.drop start) (values.reread rewritten) profile
      length := by
  obtain ⟨isProfile, isLength, inside, parsed⟩ := block
  have four : rtpExtensionsHeaderLen = 4 := rfl
  rw [List.length_drop] at inside
  rw [take_drop_eq_slice] at isProfile
  rw [List.drop_drop, take_drop_eq_slice] at isLength
  rw [List.drop_drop, take_drop_eq_slice] at parsed
  have sliceLength : (slice (start + rtpExtensionsHeaderLen)
      (start + rtpExtensionsHeaderLen + length) packet).length =
        start + rtpExtensionsHeaderLen + length -
          (start + rtpExtensionsHeaderLen) :=
    length_slice_of_le fits
  have within := parseExtensions_within profile
    (ExtensionValues.within_empty (start + rtpExtensionsHeaderLen)
      (start + rtpExtensionsHeaderLen + length)) (Nat.le_refl _) (by omega)
    parsed
  have blockHeader : ∀ index, start ≤ index →
      index < start + rtpExtensionsHeaderLen →
        rewritten[index]? = packet[index]? := by
    intro index above below
    apply same index above (by omega)
    intro place isPlace covers
    have bounds := within.of_mem_places isPlace
    exact absurd covers.1 (Nat.not_le_of_lt (Nat.lt_of_lt_of_le below bounds.1))
  refine ⟨?_, ?_, ?_, ?_⟩
  · rw [take_drop_eq_slice, ← isProfile]
    congr 2
    apply slice_congr
    intro index above below
    exact blockHeader index above (by omega)
  · rw [List.drop_drop, take_drop_eq_slice, ← isLength]
    congr 2
    apply slice_congr
    intro index above below
    exact blockHeader index (by omega) (by omega)
  · rw [List.length_drop]
    omega
  · rw [List.drop_drop, take_drop_eq_slice]
    exact parseExtensions_again sameLength fits
      (fun index above below => same index (by omega) (by omega)) parsed

theorem Laid.reread (laid : Laid packet first second values payloadStart)
    (fits : payloadStart ≤ packet.length)
    (sameLength : rewritten.length = packet.length)
    (sameStart : ∀ index, index < 2 → rewritten[index]? = packet[index]?)
    (same : ∀ index, rtpMinHeaderLen ≤ index → index < payloadStart →
      (∀ place ∈ values.places, ¬ place.Covers index) →
        rewritten[index]? = packet[index]?) :
    Laid rewritten first second (values.reread rewritten) payloadStart := by
  have main := laid.main
  have csrcs := laid.csrcs
  refine ⟨firstBytes_kept laid.bytes sameStart, by omega, by omega, ?_⟩
  have fixed : rtpMinHeaderLen ≤ extensionsStartOf first :=
    Nat.le_add_right _ _
  rcases laid.extensions with ⟨extended, total, isStart, found⟩ |
    ⟨plain, isEmpty, isStart⟩
  · obtain ⟨profile, length, block, rfl⟩ := parseExtensionBlock_iff.mp found
    have again : BlockParsed (extensionsStartOf first)
        (rewritten.drop (extensionsStartOf first)) (values.reread rewritten)
        profile length := by
      apply block.reread (by omega) sameLength
      intro index above below
      exact same index (Nat.le_trans fixed above) (by omega)
    exact .inl ⟨extended, _, isStart,
      parseExtensionBlock_iff.mpr ⟨profile, length, again, rfl⟩⟩
  · refine .inr ⟨plain, ?_, isStart⟩
    rw [isEmpty]
    rfl

end Rewritten

theorem Laid.placesApart {packet : Bytes} {first second : UInt8}
    {values : ExtensionValues} {payloadStart : Nat}
    (laid : Laid packet first second values payloadStart) :
    values.PlacesApart := by
  have emptyApart : ExtensionValues.empty.PlacesApart := by
    intro tcc recorded isTcc
    cases isTcc
  rcases laid.extensions with ⟨-, total, -, found⟩ | ⟨-, rfl, -⟩
  · obtain ⟨profile, length, block, rfl⟩ := parseExtensionBlock_iff.mp found
    have inside := block.inside
    have csrcs := laid.csrcs
    have parsed := block.found
    rw [List.length_drop] at inside
    rw [List.drop_drop, take_drop_eq_slice] at parsed
    apply parseExtensions_placesApart (by omega) ?_ emptyApart parsed
    intro place isPlace
    cases isPlace
  · exact emptyApart

/-- The header with the numbers and values that stand at its positions in
another packet. -/
def Header.reread (header : Header) (packet : Bytes) : Header :=
  { header with
    seqnum := (rtpSeqnumRange.numberIn packet).toUInt16
    timestamp := (rtpTimestampRange.numberIn packet).toUInt32
    ssrc := (rtpSsrcRange.numberIn packet).toUInt32
    tccSeqnum :=
      header.tccSeqnumRange.map fun range => (range.numberIn packet).toUInt16
    dependencyDescriptor :=
      header.dependencyDescriptor.map fun recorded =>
        (describedBy (recorded.2.slice packet), recorded.2) }

theorem Header.placesApart {packet : Bytes} {header : Header}
    (parsed : Header.parse packet = .ok (some header)) :
    ∀ tcc recorded, header.tccSeqnumRange = some tcc →
      header.dependencyDescriptor = some recorded →
        tcc.finish ≤ recorded.2.start ∨ recorded.2.finish ≤ tcc.start := by
  obtain ⟨first, second, values, payloadStart, laid, built⟩ :=
    Header.parse_iff.mp parsed
  have apart := laid.placesApart
  unfold buildHeader at built
  dsimp only at built
  split at built
  · cases built
  · split at built
    · cases built
    · cases built
      exact apart

/-- Where a packet may be written to: the numbers of the fixed header, the
recorded extensions, and everything from the payload on. -/
def Header.places (header : Header) : List ByteRange :=
  [rtpSeqnumRange, rtpTimestampRange, rtpSsrcRange] ++
    header.tccSeqnumRange.toList ++
    (header.dependencyDescriptor.map (·.2)).toList ++
    [⟨header.payloadRange.start, header.payloadRange.finish + srtpAuthTagLen⟩]

theorem Header.mem_places_cases {header : Header} {place : ByteRange}
    (isPlace : place ∈ header.places) :
    (2 ≤ place.start ∧ place.finish ≤ rtpMinHeaderLen) ∨
      (header.tccSeqnumRange = some place ∨
        ∃ descriptor,
          header.dependencyDescriptor = some (descriptor, place)) ∨
      header.payloadRange.start ≤ place.start := by
  have fixed : ∀ place ∈ [rtpSeqnumRange, rtpTimestampRange, rtpSsrcRange],
      2 ≤ place.start ∧ place.finish ≤ rtpMinHeaderLen := by decide
  unfold places at isPlace
  rw [List.append_assoc, List.append_assoc, List.mem_append,
    ← List.append_assoc, List.mem_append] at isPlace
  rcases isPlace with isFixed | isRecorded | isPayload
  · exact .inl (fixed place isFixed)
  · exact .inr (.inl ((@ExtensionValues.mem_places_iff ⟨none,
      header.tccSeqnumRange, none, none, header.dependencyDescriptor⟩
      place).mp isRecorded))
  · rw [List.mem_singleton.mp isPayload]
    exact .inr (.inr (Nat.le_refl _))

/-- A packet that has been written to at these places parses to the same
header, with what has been written. -/
theorem Header.parse_rewritten {packet rewritten : Bytes} {header : Header}
    (parsed : Header.parse packet = .ok (some header))
    (changed : SameOutside header.places packet rewritten) :
    Header.parse rewritten = .ok (some (header.reread rewritten)) := by
  obtain ⟨first, second, values, payloadStart, laid, built⟩ :=
    Header.parse_iff.mp parsed
  have sameLength := changed.length
  unfold buildHeader at built
  dsimp only at built
  split at built
  · cases built
  · rename_i tagFits
    split at built
    · cases built
    · rename_i notMissing
      cases built
      have fits : payloadStart ≤ packet.length := by omega
      have behindStart := laid.extensionsStart_le
      have within := laid.within
      have fixedFits : rtpMinHeaderLen ≤ extensionsStartOf first :=
        Nat.le_add_right _ _
      have twelve : rtpMinHeaderLen = 12 := rfl
      have sameStart : ∀ index, index < 2 →
          rewritten[index]? = packet[index]? := by
        intro index early
        apply changed.same
        intro place isPlace covers
        have covered := covers
        unfold ByteRange.Covers at covered
        rcases Header.mem_places_cases isPlace with fixed | recorded | payload
        · omega
        · have bounds := within.of_mem_places
            (ExtensionValues.mem_places_iff.mpr recorded)
          omega
        · dsimp only at payload
          omega
      have same : ∀ index, rtpMinHeaderLen ≤ index → index < payloadStart →
          (∀ place ∈ values.places, ¬ place.Covers index) →
            rewritten[index]? = packet[index]? := by
        intro index above below outside
        apply changed.same
        intro place isPlace covers
        have covered := covers
        unfold ByteRange.Covers at covered
        rcases Header.mem_places_cases isPlace with fixed | recorded | payload
        · omega
        · exact outside place (ExtensionValues.mem_places_iff.mpr recorded)
            covers
        · dsimp only at payload
          omega
      apply Header.parse_iff.mpr
      refine ⟨first, second, values.reread rewritten, payloadStart,
        laid.reread fits sameLength sameStart same, ?_⟩
      unfold buildHeader
      rw [sameLength, if_neg tagFits]
      dsimp only
      rw [if_neg notMissing, take_drop_eq_slice, take_drop_eq_slice,
        take_drop_eq_slice]
      rfl

end CallingService.Backend.Rtp
