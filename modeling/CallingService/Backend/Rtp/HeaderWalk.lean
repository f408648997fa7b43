import CallingService.Backend.Rtp.DescriptorReading
import CallingService.Backend.Rtp.Header

/-!
# Parsing a header by its indices

`Header.parse` takes the packet apart as a list.  The walk below indexes and
slices as the source does, with positions that count from the packet, from
the extensions and from one extension; an access out of range is a panic.
Both find the same header, and neither panics.
-/

namespace CallingService.Backend.Rtp

open Foundation

/-! ## Checked accesses -/

/-- `bytes[index]`. -/
def byteOf (bytes : Bytes) (index : Nat) : Except Panic UInt8 :=
  okOr bytes[index]? Panic.outOfBounds

/-- `&bytes[start..finish]`. -/
def sliceOf (bytes : Bytes) (range : ByteRange) : Except Panic Bytes :=
  if range.finish < range.start ∨ bytes.length < range.finish then
    .error .outOfBounds
  else .ok ((bytes.take range.finish).drop range.start)

def checkedSplitAt (bytes : Bytes) (mid : Nat) : Option (Bytes × Bytes) :=
  if bytes.length < mid then none else some (bytes.take mid, bytes.drop mid)

/-- `parse_u16` or `parse_u32` of a slice, which is sliced again. -/
def numberAt (bytes : Bytes) (range : ByteRange) : Except Panic Nat := do
  let slice ← sliceOf bytes range
  let number ← sliceOf slice ⟨0, range.len⟩
  return fromBigEndian number

theorem byteOf_of_lt {bytes : Bytes} {index : Nat}
    (inside : index < bytes.length) :
    byteOf bytes index = .ok bytes[index] := by
  unfold byteOf okOr
  rw [List.getElem?_eq_getElem inside]

theorem sliceOf_of_le {bytes : Bytes} {range : ByteRange}
    (ordered : range.start ≤ range.finish)
    (inside : range.finish ≤ bytes.length) :
    sliceOf bytes range =
      .ok ((bytes.take range.finish).drop range.start) := by
  unfold sliceOf
  rw [if_neg (by omega)]

/-- A number that is read from the first bytes. -/
theorem numberAt_take {bytes : Bytes} {count : Nat} {range : ByteRange}
    (ordered : range.start ≤ range.finish) (inside : range.finish ≤ count)
    (long : count ≤ bytes.length) :
    numberAt (bytes.take count) range =
      .ok (fromBigEndian ((bytes.drop range.start).take range.len)) := by
  have takenLength : (bytes.take count).length = count :=
    List.length_take_of_le long
  have sliceLength :
      ((bytes.drop range.start).take range.len).length = range.len := by
    unfold ByteRange.len
    rw [List.length_take, List.length_drop]
    omega
  have slice : ((bytes.take count).take range.finish).drop range.start =
      (bytes.drop range.start).take range.len := by
    rw [List.take_take, Nat.min_eq_left inside, List.drop_take]
    rfl
  unfold numberAt
  rw [sliceOf_of_le ordered (by rw [takenLength]; exact inside), ok_bind,
    slice, sliceOf_of_le (Nat.zero_le _) (Nat.le_of_eq sliceLength.symm),
    ok_bind]
  dsimp only
  rw [List.drop_zero, List.take_of_length_le (Nat.le_of_eq sliceLength)]
  rfl

/-! ## The walk -/

theorem HeaderExtensionsProfile.len_pos (profile : HeaderExtensionsProfile) :
    0 < profile.len := by
  cases profile with
  | oneByte => decide
  | twoByte => decide

def HeaderExtensionsProfile.idOf (profile : HeaderExtensionsProfile)
    (first : UInt8) : Nat :=
  match profile with
  | .oneByte => (first >>> 4).toNat
  | .twoByte => first.toNat

/-- The byte of an extension header that tells the length. -/
def HeaderExtensionsProfile.lenIndex : HeaderExtensionsProfile → Nat
  | .oneByte => 0
  | .twoByte => 1

def HeaderExtensionsProfile.lenOf (profile : HeaderExtensionsProfile)
    (byte : UInt8) : Nat :=
  match profile with
  | .oneByte => (byte &&& 0x0F).toNat + 1
  | .twoByte => byte.toNat

theorem HeaderExtensionsProfile.lenIndex_lt
    (profile : HeaderExtensionsProfile) : profile.lenIndex < profile.len := by
  cases profile with
  | oneByte => decide
  | twoByte => decide

/-- The loop over the extensions.  `extensionStart` counts from the start of
the extensions, `extensionsStart` from that of the packet. -/
def walkExtensions (profile : HeaderExtensionsProfile)
    (extensionsStart : Nat) (extensions : Bytes) (extensionStart : Nat)
    (values : ExtensionValues) : Except Panic (Option ExtensionValues) :=
  if extensionStart < extensions.length then do
    let remaining ← sliceOf extensions ⟨extensionStart, extensions.length⟩
    match checkedSplitAt remaining profile.len with
    | none =>
        let next ← byteOf extensions extensionStart
        if profile = .twoByte ∧ next = 0 then return some values
        else return none
    | some (header, rest) =>
        let first ← byteOf header 0
        let id := profile.idOf first
        if id = 0 then return some values
        else
          let lenByte ← byteOf header profile.lenIndex
          let length := profile.lenOf lenByte
          if rest.length < length then return none
          else
            let value ← sliceOf rest ⟨0, length⟩
            let start := extensionsStart + rtpExtensionsHeaderLen +
              extensionStart + profile.len
            let added ← values.add id value ⟨start, start + length⟩
            match added with
            | none => return none
            | some next =>
                walkExtensions profile extensionsStart extensions
                  (extensionStart + (profile.len + length)) next
  else .ok (some values)
termination_by extensions.length - extensionStart
decreasing_by
  have forward := profile.len_pos
  omega

def walkExtensionBlock (extensionsStart : Nat) (block : Bytes) :
    Except Panic (Option (ExtensionValues × Nat)) :=
  match checkedSplitAt block rtpExtensionsHeaderLen with
  | none => .ok none
  | some (header, rest) => do
      let profile ← numberAt header ⟨0, 2⟩
      let words ← numberAt header ⟨2, 4⟩
      match HeaderExtensionsProfile.tryFrom profile with
      | none => return none
      | some profile =>
          match checkedSplitAt rest (words * 4) with
          | none => return none
          | some (extensions, _) =>
              let values ← walkExtensions profile extensionsStart extensions 0
                .empty
              return values.map (·, rtpExtensionsHeaderLen + words * 4)

/-- The fields of the first twelve bytes. -/
structure MainHeader where
  first : UInt8
  second : UInt8
  seqnum : TruncatedSequenceNumber
  timestamp : TruncatedTimestamp
  ssrc : Ssrc

def readMainHeader (mainHeader : Bytes) : Except Panic MainHeader := do
  let first ← byteOf mainHeader 0
  let second ← byteOf mainHeader rtpPayloadTypeOffset
  let seqnum ← numberAt mainHeader rtpSeqnumRange
  let timestamp ← numberAt mainHeader rtpTimestampRange
  let ssrc ← numberAt mainHeader rtpSsrcRange
  return ⟨first, second, seqnum.toUInt16, timestamp.toUInt32, ssrc.toUInt32⟩

/-- The checks at the end, which make room for the tag and the padding
count. -/
def finishHeader (main : MainHeader) (packetLen : Nat)
    (values : ExtensionValues) (payloadStart : Nat) : Option Header :=
  let hasPadding := main.first &&& 0b00100000 ≠ 0
  if packetLen < payloadStart + srtpAuthTagLen then none
  else
    let payloadEnd := packetLen - srtpAuthTagLen
    if hasPadding ∧ payloadEnd ≤ payloadStart then none
    else some {
      marker := main.second &&& 0b10000000 ≠ 0
      hasPadding
      payloadType := main.second &&& 0b01111111
      seqnum := main.seqnum
      timestamp := main.timestamp
      ssrc := main.ssrc
      videoRotation := values.videoRotation
      audioLevel := values.audioLevel
      tccSeqnum := values.tccSeqnum
      tccSeqnumRange := values.tccSeqnumRange
      payloadRange := ⟨payloadStart, payloadEnd⟩
      dependencyDescriptor := values.dependencyDescriptor
    }

def Header.walk (packet : Bytes) : Except Panic (Option Header) :=
  match checkedSplitAt packet rtpMinHeaderLen with
  | none => .ok none
  | some (mainHeader, afterMain) => do
      let main ← readMainHeader mainHeader
      let csrcsLen := 4 * (main.first &&& 0b00001111).toNat
      match checkedSplitAt afterMain csrcsLen with
      | none => return none
      | some (_, extensionPayloadTag) =>
          let extensionsStart := rtpMinHeaderLen + csrcsLen
          if main.first &&& 0b00010000 ≠ 0 then
            let block ← walkExtensionBlock extensionsStart extensionPayloadTag
            match block with
            | none => return none
            | some (values, length) =>
                return finishHeader main packet.length values
                  (extensionsStart + length)
          else
            return finishHeader main packet.length .empty extensionsStart

/-! ## Both find the same -/

/-- The loop after an extension has been added. -/
def parseFurther (profile : HeaderExtensionsProfile)
    (fuel position : Nat) (rest : Bytes) :
    Option ExtensionValues → Except Panic (Option ExtensionValues)
  | none => .ok none
  | some next => parseExtensions profile fuel position rest next

/-- One round of `parseExtensions`. -/
theorem parseExtensions_cons (profile : HeaderExtensionsProfile)
    (fuel position : Nat) (first : UInt8) (tail : Bytes)
    (values : ExtensionValues) (length : Nat)
    (isLength : length =
      profile.lenOf ((first :: tail).getD profile.lenIndex 0)) :
    parseExtensions profile (fuel + 1) position (first :: tail) values =
      if (first :: tail).length < profile.len then
        if profile = .twoByte ∧ first = 0 then .ok (some values) else .ok none
      else if profile.idOf first = 0 then .ok (some values)
      else if ((first :: tail).drop profile.len).length < length then .ok none
      else values.add (profile.idOf first)
          (((first :: tail).drop profile.len).take length)
          ⟨position + profile.len, position + profile.len + length⟩ >>=
        parseFurther profile fuel (position + profile.len + length)
          (((first :: tail).drop profile.len).drop length) := by
  subst isLength
  cases profile with
  | oneByte => rfl
  | twoByte => rfl

theorem byteOf_extensionHeader (profile : HeaderExtensionsProfile)
    {first : UInt8} {tail : Bytes}
    (long : profile.len ≤ (first :: tail).length) :
    byteOf ((first :: tail).take profile.len) 0 = .ok first ∧
    byteOf ((first :: tail).take profile.len) profile.lenIndex =
      .ok ((first :: tail).getD profile.lenIndex 0) := by
  have headerLong : ((first :: tail).take profile.len).length = profile.len :=
    List.length_take_of_le long
  have positive := profile.len_pos
  have inHeader := profile.lenIndex_lt
  have inside : profile.lenIndex < (first :: tail).length := by omega
  constructor
  · rw [byteOf_of_lt (by omega), List.getElem_take]
    rfl
  · rw [byteOf_of_lt (by omega), List.getElem_take,
      List.getD_eq_getElem?_getD, List.getElem?_eq_getElem inside]
    rfl

theorem walkExtensions_eq (profile : HeaderExtensionsProfile)
    (extensionsStart : Nat) (extensions : Bytes) {fuel extensionStart : Nat}
    (within : extensionStart ≤ extensions.length)
    (enough : extensions.length ≤ extensionStart + fuel)
    (values : ExtensionValues) :
    walkExtensions profile extensionsStart extensions extensionStart values =
      parseExtensions profile fuel
        (extensionsStart + rtpExtensionsHeaderLen + extensionStart)
        (extensions.drop extensionStart) values := by
  induction fuel generalizing extensionStart values with
  | zero =>
      unfold walkExtensions
      rw [if_neg (by omega)]
      rfl
  | succ fuel ih =>
      unfold walkExtensions
      split
      · rename_i more
        have cons := List.drop_eq_getElem_cons more
        have nextByte := byteOf_of_lt more
        have total : (extensions.drop extensionStart).length =
            extensions.length - extensionStart := List.length_drop
        generalize extensions[extensionStart] = first at cons nextByte
        generalize extensions.drop (extensionStart + 1) = tail at cons
        rw [cons] at total
        rw [sliceOf_of_le (Nat.le_of_lt more) (Nat.le_refl _),
          List.take_length, ok_bind, cons,
          parseExtensions_cons _ _ _ _ _ _ _ rfl]
        unfold checkedSplitAt
        by_cases short : (first :: tail).length < profile.len
        · rw [if_pos short, if_pos short]
          dsimp only
          rw [nextByte]
          rfl
        · rw [if_neg short, if_neg short]
          dsimp only
          obtain ⟨firstByte, lenByte⟩ :=
            byteOf_extensionHeader profile (Nat.le_of_not_lt short)
          rw [firstByte, ok_bind]
          by_cases padding : profile.idOf first = 0
          · rw [if_pos padding, if_pos padding]
            rfl
          · rw [if_neg padding, if_neg padding, lenByte, ok_bind]
            by_cases truncated : ((first :: tail).drop profile.len).length <
                profile.lenOf ((first :: tail).getD profile.lenIndex 0)
            · rw [if_pos truncated, if_pos truncated]
              rfl
            · rw [if_neg truncated, if_neg truncated,
                sliceOf_of_le (Nat.zero_le _) (Nat.le_of_not_lt truncated),
                ok_bind, List.drop_zero]
              generalize profile.lenOf
                ((first :: tail).getD profile.lenIndex 0) = length at truncated ⊢
              have forward := profile.len_pos
              have restLength : ((first :: tail).drop profile.len).length =
                  extensions.length - extensionStart - profile.len := by
                rw [List.length_drop, total]
              have afterwards : extensionStart + (profile.len + length) ≤
                  extensions.length := by
                omega
              apply bind_congr
              intro added
              cases added with
              | none => rfl
              | some next =>
                  have samePosition : extensionsStart +
                      rtpExtensionsHeaderLen + extensionStart + profile.len +
                        length =
                      extensionsStart + rtpExtensionsHeaderLen +
                        (extensionStart + (profile.len + length)) := by
                    omega
                  change walkExtensions profile extensionsStart extensions
                      (extensionStart + (profile.len + length)) next =
                    parseExtensions profile fuel _ _ next
                  rw [samePosition, ih afterwards (by omega) next, ← cons,
                    List.drop_drop, List.drop_drop]
      · rename_i atEnd
        have nothing : extensions.drop extensionStart = [] :=
          List.drop_eq_nil_of_le (Nat.le_of_not_lt atEnd)
        rw [nothing]
        rfl

theorem walkExtensionBlock_eq (extensionsStart : Nat) (block : Bytes) :
    walkExtensionBlock extensionsStart block =
      parseExtensionBlock extensionsStart block := by
  unfold walkExtensionBlock parseExtensionBlock checkedSplitAt
  by_cases short : block.length < rtpExtensionsHeaderLen
  · rw [if_pos short, if_pos short]
  · rw [if_neg short, if_neg short]
    dsimp only
    have long := Nat.le_of_not_lt short
    have profileRead : numberAt (block.take rtpExtensionsHeaderLen) ⟨0, 2⟩ =
        .ok (fromBigEndian (block.take 2)) :=
      numberAt_take (by decide) (by decide) long
    have lengthRead : numberAt (block.take rtpExtensionsHeaderLen) ⟨2, 4⟩ =
        .ok (fromBigEndian ((block.drop 2).take 2)) :=
      numberAt_take (by decide) (by decide) long
    rw [profileRead, ok_bind, lengthRead, ok_bind]
    cases HeaderExtensionsProfile.tryFrom (fromBigEndian (block.take 2)) with
    | none => rfl
    | some profile =>
        generalize fromBigEndian ((block.drop 2).take 2) * 4 = length
        dsimp only
        by_cases truncated :
            (block.drop rtpExtensionsHeaderLen).length < length
        · rw [if_pos truncated, if_pos truncated]
          rfl
        · rw [if_neg truncated, if_neg truncated]
          dsimp only
          have allBytes : ((block.drop rtpExtensionsHeaderLen).take
              length).length = length :=
            List.length_take_of_le (Nat.le_of_not_lt truncated)
          rw [walkExtensions_eq profile extensionsStart _ (Nat.zero_le _)
            (Nat.le_of_eq (by rw [allBytes, Nat.zero_add])) .empty]
          rfl

theorem readMainHeader_eq {packet : Bytes} {first second : UInt8}
    {rest : Bytes} (isPacket : packet = first :: second :: rest)
    (long : rtpMinHeaderLen ≤ packet.length) :
    readMainHeader (packet.take rtpMinHeaderLen) = .ok {
      first := first
      second := second
      seqnum := (fromBigEndian ((packet.drop 2).take 2)).toUInt16
      timestamp := (fromBigEndian ((packet.drop 4).take 4)).toUInt32
      ssrc := (fromBigEndian ((packet.drop 8).take 4)).toUInt32 } := by
  have seqnumRead : numberAt (packet.take rtpMinHeaderLen) rtpSeqnumRange =
      .ok (fromBigEndian ((packet.drop 2).take 2)) :=
    numberAt_take (by decide) (by decide) long
  have timestampRead :
      numberAt (packet.take rtpMinHeaderLen) rtpTimestampRange =
        .ok (fromBigEndian ((packet.drop 4).take 4)) :=
    numberAt_take (by decide) (by decide) long
  have ssrcRead : numberAt (packet.take rtpMinHeaderLen) rtpSsrcRange =
      .ok (fromBigEndian ((packet.drop 8).take 4)) :=
    numberAt_take (by decide) (by decide) long
  have firstRead : byteOf (packet.take rtpMinHeaderLen) 0 = .ok first := by
    rw [isPacket]
    rfl
  have secondRead : byteOf (packet.take rtpMinHeaderLen)
      rtpPayloadTypeOffset = .ok second := by
    rw [isPacket]
    rfl
  unfold readMainHeader
  rw [firstRead, ok_bind, secondRead, ok_bind, seqnumRead, timestampRead,
    ssrcRead]
  rfl

/-- The walk by indices finds what the parser finds. -/
theorem Header.walk_eq (packet : Bytes) :
    Header.walk packet = Header.parse packet := by
  unfold Header.walk checkedSplitAt
  by_cases short : packet.length < rtpMinHeaderLen
  · rw [if_pos short]
    cases packet with
    | nil => rfl
    | cons first rest =>
        cases rest with
        | nil => rfl
        | cons second rest =>
            unfold Header.parse
            dsimp only
            rw [if_pos short]
  · rw [if_neg short]
    cases packet with
    | nil => exact absurd (by decide) short
    | cons first rest =>
        cases rest with
        | nil =>
            rw [List.length_singleton] at short
            exact absurd (by decide) short
        | cons second rest =>
            have long := Nat.le_of_not_lt short
            unfold Header.parse
            dsimp only
            rw [if_neg short, readMainHeader_eq rfl long, ok_bind]
            dsimp only
            by_cases truncated : ((first :: second :: rest).drop
                rtpMinHeaderLen).length < 4 * (first &&& 0b00001111).toNat
            · rw [if_pos truncated, if_pos truncated]
              rfl
            · rw [if_neg truncated, if_neg truncated]
              dsimp only
              split
              · rw [walkExtensionBlock_eq]
                rfl
              · rfl

/-! ## Neither panics -/

theorem readDescriptor_ok {value : Bytes} (nonempty : value.length ≠ 0) :
    ∃ descriptor, readDescriptor value = .ok descriptor := by
  unfold readDescriptor
  split
  · exact ⟨_, rfl⟩
  · exact ⟨_, rfl⟩
  · rename_i cause failed
    exact absurd failed
      (DependencyDescriptorReader.read_noPanic nonempty cause)

theorem ExtensionValues.add_ok (values : ExtensionValues) (id : Nat)
    (value : Bytes) (range : ByteRange) :
    ∃ added, values.add id value range = .ok added := by
  unfold ExtensionValues.add
  split
  · exact ⟨_, rfl⟩
  · split
    · split
      · exact ⟨_, rfl⟩
      · split
        · exact ⟨_, rfl⟩
        · split
          · exact ⟨_, rfl⟩
          · exact ⟨_, rfl⟩
    · split
      · split
        · exact ⟨_, rfl⟩
        · rename_i longEnough
          have nonempty : value.length ≠ 0 := by
            intro empty
            rw [empty] at longEnough
            exact longEnough (by decide)
          obtain ⟨descriptor, found⟩ := readDescriptor_ok nonempty
          rw [found]
          exact ⟨_, rfl⟩
      · exact ⟨_, rfl⟩

theorem parseExtensions_ok (profile : HeaderExtensionsProfile)
    (fuel position : Nat) (extensions : Bytes) (values : ExtensionValues) :
    ∃ found, parseExtensions profile fuel position extensions values =
      .ok found := by
  induction fuel generalizing position extensions values with
  | zero => exact ⟨_, rfl⟩
  | succ fuel ih =>
      cases extensions with
      | nil => exact ⟨_, rfl⟩
      | cons first tail =>
          rw [parseExtensions_cons _ _ _ _ _ _ _ rfl]
          split
          · split
            · exact ⟨_, rfl⟩
            · exact ⟨_, rfl⟩
          · split
            · exact ⟨_, rfl⟩
            · split
              · exact ⟨_, rfl⟩
              · obtain ⟨added, isAdded⟩ := values.add_ok (profile.idOf first)
                  (((first :: tail).drop profile.len).take _) _
                rw [isAdded, ok_bind]
                cases added with
                | none => exact ⟨_, rfl⟩
                | some next => exact ih _ _ next

theorem parseExtensionBlock_ok (position : Nat) (block : Bytes) :
    ∃ found, parseExtensionBlock position block = .ok found := by
  unfold parseExtensionBlock
  split
  · exact ⟨_, rfl⟩
  · dsimp only
    split
    · exact ⟨_, rfl⟩
    · split
      · exact ⟨_, rfl⟩
      · rename_i profile _ _
        obtain ⟨values, found⟩ := parseExtensions_ok profile
          (fromBigEndian ((block.drop 2).take 2) * 4)
          (position + rtpExtensionsHeaderLen) _ .empty
        rw [found]
        exact ⟨_, rfl⟩

/-- Every byte string is parsed, whether it is a packet or not. -/
theorem Header.parse_ok (packet : Bytes) :
    ∃ outcome, Header.parse packet = .ok outcome := by
  unfold Header.parse
  split
  · split
    · exact ⟨_, rfl⟩
    · dsimp only
      split
      · exact ⟨_, rfl⟩
      · split
        · rename_i first second rest _ _ _
          obtain ⟨block, found⟩ := parseExtensionBlock_ok
            (rtpMinHeaderLen + 4 * (first &&& 0b00001111).toNat)
            (((first :: second :: rest).drop rtpMinHeaderLen).drop
              (4 * (first &&& 0b00001111).toNat))
          rw [found, ok_bind]
          cases block with
          | none => exact ⟨_, rfl⟩
          | some block => exact ⟨_, rfl⟩
        · exact ⟨_, rfl⟩
  · exact ⟨_, rfl⟩

end CallingService.Backend.Rtp
