import CallingService.Backend.Rtp.DescriptorRewriting
import CallingService.Backend.Rtp.HeaderBounds
import CallingService.Foundation.Slices

/-!
# Rewritten extensions

The parser decides where the extensions of a packet are by their ids and
lengths.  When only values whose positions are recorded have changed, it finds
the same positions again.
-/

namespace CallingService.Backend.Rtp

open Foundation

/-! ## Places of a packet -/

namespace ByteRange

def slice (range : ByteRange) (packet : Bytes) : Bytes :=
  Foundation.slice range.start range.finish packet

def Covers (range : ByteRange) (index : Nat) : Prop :=
  range.start ≤ index ∧ index < range.finish

def numberIn (range : ByteRange) (packet : Bytes) : Nat :=
  fromBigEndian (range.slice packet)

end ByteRange

/-- The packets have the same bytes outside of the places. -/
structure SameOutside (places : List ByteRange) (packet rewritten : Bytes) :
    Prop where
  length : rewritten.length = packet.length
  same : ∀ index, (∀ place ∈ places, ¬ place.Covers index) →
    rewritten[index]? = packet[index]?

namespace SameOutside

variable {places others : List ByteRange} {packet middle rewritten : Bytes}

theorem refl (places : List ByteRange) (packet : Bytes) :
    SameOutside places packet packet :=
  ⟨rfl, fun _ _ => rfl⟩

theorem trans (before : SameOutside places packet middle)
    (after : SameOutside places middle rewritten) :
    SameOutside places packet rewritten where
  length := after.length.trans before.length
  same := by
    intro index outside
    exact (after.same index outside).trans (before.same index outside)

theorem mono (changed : SameOutside places packet rewritten)
    (covered : ∀ place ∈ places, ∀ index, place.Covers index →
      ∃ other ∈ others, other.Covers index) :
    SameOutside others packet rewritten where
  length := changed.length
  same := by
    intro index outside
    apply changed.same index
    intro place isPlace covers
    obtain ⟨other, isOther, coversAgain⟩ := covered place isPlace index covers
    exact outside other isOther coversAgain

/-- A part that no place touches. -/
theorem slice_eq (changed : SameOutside places packet rewritten)
    {start finish : Nat}
    (untouched : ∀ place ∈ places, place.finish ≤ start ∨ finish ≤ place.start) :
    slice start finish rewritten = slice start finish packet := by
  apply slice_congr
  intro index above below
  apply changed.same index
  intro place isPlace covers
  have apart := untouched place isPlace
  have inside := covers
  unfold ByteRange.Covers at inside
  omega

end SameOutside

/-! ## Values of the extensions -/

namespace ExtensionValues

def places (values : ExtensionValues) : List ByteRange :=
  values.tccSeqnumRange.toList ++
    (values.dependencyDescriptor.map (·.2)).toList

/-- The values that stand at the recorded positions of another packet. -/
def reread (values : ExtensionValues) (packet : Bytes) : ExtensionValues :=
  { values with
    tccSeqnum :=
      values.tccSeqnumRange.map fun range => (range.numberIn packet).toUInt16
    dependencyDescriptor :=
      values.dependencyDescriptor.map fun recorded =>
        (describedBy (recorded.2.slice packet), recorded.2) }

/-- The same up to what stands at the recorded positions. -/
structure Alike (values other : ExtensionValues) : Prop where
  tcc : other.tccSeqnumRange = values.tccSeqnumRange
  videoRotation : other.videoRotation = values.videoRotation
  audioLevel : other.audioLevel = values.audioLevel
  descriptor : other.dependencyDescriptor.map (·.2) =
    values.dependencyDescriptor.map (·.2)

theorem Alike.refl (values : ExtensionValues) : values.Alike values :=
  ⟨rfl, rfl, rfl, rfl⟩

theorem Alike.reread_eq {values other : ExtensionValues} {packet : Bytes}
    (alike : values.Alike other) (isRead : other.reread packet = other) :
    other = values.reread packet := by
  have descriptor : other.dependencyDescriptor.map (fun recorded =>
      (describedBy (recorded.2.slice packet), recorded.2)) =
        values.dependencyDescriptor.map (fun recorded =>
          (describedBy (recorded.2.slice packet), recorded.2)) := by
    have same := congrArg (Option.map fun range : ByteRange =>
      (describedBy (range.slice packet), range)) alike.descriptor
    rw [Option.map_map, Option.map_map] at same
    exact same
  rw [← isRead]
  unfold reread
  rw [alike.tcc, alike.videoRotation, alike.audioLevel, descriptor]

theorem mem_places_iff {values : ExtensionValues} {place : ByteRange} :
    place ∈ values.places ↔ values.tccSeqnumRange = some place ∨
      ∃ descriptor, values.dependencyDescriptor = some (descriptor, place) := by
  unfold places
  rw [List.mem_append, Option.mem_toList, Option.mem_toList]
  simp

theorem Within.of_mem_places {values : ExtensionValues} {lower upper : Nat}
    (within : values.Within lower upper) {place : ByteRange}
    (isPlace : place ∈ values.places) :
    lower ≤ place.start ∧ place.finish ≤ upper := by
  rcases mem_places_iff.mp isPlace with isTcc | ⟨descriptor, isDescriptor⟩
  · have bounds := within.tcc place isTcc
    exact ⟨bounds.1, bounds.2.2⟩
  · have bounds := within.descriptor descriptor place isDescriptor
    exact ⟨bounds.1, bounds.2.2⟩

/-- The two recorded values do not overlap. -/
def PlacesApart (values : ExtensionValues) : Prop :=
  ∀ tcc recorded, values.tccSeqnumRange = some tcc →
    values.dependencyDescriptor = some recorded →
      tcc.finish ≤ recorded.2.start ∨ recorded.2.finish ≤ tcc.start

/-- An extension whose value is recorded with its position. -/
def Recorded (id length : Nat) : Prop :=
  (id = rtpExtIdTccSeqnum ∧ length = 2) ∨ id = rtpExtIdDependencyDescriptor

variable {value : Bytes} {range : ByteRange}

theorem add_tcc {base : ExtensionValues} (isNumber : value.length = 2) :
    base.add rtpExtIdTccSeqnum value range = .ok (some { base with
      tccSeqnum := some (fromBigEndian value).toUInt16
      tccSeqnumRange := some range }) := by
  unfold add
  rw [if_pos ⟨rfl, isNumber⟩]

theorem add_descriptor {base : ExtensionValues}
    (longEnough : rtpDependencyDescriptorMinLen ≤ value.length) :
    base.add rtpExtIdDependencyDescriptor value range = .ok (some { base with
      dependencyDescriptor := some (describedBy value, range) }) := by
  have notTcc : ¬ (rtpExtIdDependencyDescriptor = rtpExtIdTccSeqnum ∧
      value.length = 2) := fun both => absurd both.1 (by decide)
  unfold add
  rw [if_neg notTcc]
  split
  · rename_i byte
    have short : [byte].length < rtpDependencyDescriptorMinLen :=
      Nat.lt_succ_of_lt (Nat.lt_succ_self 1)
    exact absurd longEnough (Nat.not_le.mpr short)
  · rw [if_pos rfl, if_neg (Nat.not_lt.mpr longEnough),
      readDescriptor_eq longEnough]
    rfl

variable {id : Nat}

/-- Any other extension sets the orientation or the audio level, if
anything. -/
theorem add_unrecorded (range : ByteRange)
    (unrecorded : ¬ Recorded id value.length) :
    ∃ (rotation : Option VideoRotation) (level : Option UInt8),
      ∀ base : ExtensionValues, base.add id value range =
        .ok (some { base with
          videoRotation := rotation.or base.videoRotation
          audioLevel := level.or base.audioLevel }) := by
  have notTcc : ¬ (id = rtpExtIdTccSeqnum ∧ value.length = 2) :=
    fun isTcc => unrecorded (.inl isTcc)
  have notDescriptor : ¬ id = rtpExtIdDependencyDescriptor :=
    fun isDescriptor => unrecorded (.inr isDescriptor)
  unfold add
  rcases value with _ | ⟨byte, _ | ⟨second, rest⟩⟩
  · refine ⟨none, none, fun base => ?_⟩
    rw [if_neg notTcc]
    exact if_neg notDescriptor
  · by_cases isOrientation : id = rtpExtIdVideoOrientation
    · refine ⟨some (VideoRotation.fromByte byte), none, fun base => ?_⟩
      rw [if_neg notTcc]
      exact if_pos isOrientation
    · by_cases isLevel : id = rtpExtIdAudioLevel
      · refine ⟨none, some (120 - (byte &&& 127).toNat).toUInt8,
          fun base => ?_⟩
        rw [if_neg notTcc]
        exact (if_neg isOrientation).trans (if_pos isLevel)
      · refine ⟨none, none, fun base => ?_⟩
        rw [if_neg notTcc]
        exact (if_neg isOrientation).trans
          ((if_neg isLevel).trans (if_neg notDescriptor))
  · refine ⟨none, none, fun base => ?_⟩
    rw [if_neg notTcc]
    exact if_neg notDescriptor

theorem descriptor_long {values next : ExtensionValues}
    (added : values.add rtpExtIdDependencyDescriptor value range =
      .ok (some next)) : rtpDependencyDescriptorMinLen ≤ value.length := by
  apply Nat.le_of_not_lt
  intro short
  unfold add at added
  rcases value with _ | ⟨byte, _ | ⟨second, _ | ⟨third, rest⟩⟩⟩
  · cases added
  · cases added
  · cases added
  · have long : 3 ≤ (byte :: second :: third :: rest).length := by simp
    exact absurd long (Nat.not_le.mpr short)

/-- Another value of the same length does for an extension that is recorded. -/
theorem add_alike {values other next : ExtensionValues} {value another : Bytes}
    (alike : values.Alike other) (sameLength : another.length = value.length)
    (sameValue : ¬ Recorded id value.length → another = value)
    (added : values.add id value range = .ok (some next)) :
    ∃ again, other.add id another range = .ok (some again) ∧
      next.Alike again := by
  by_cases recorded : Recorded id value.length
  · rcases recorded with ⟨rfl, isNumber⟩ | rfl
    · rw [add_tcc isNumber] at added
      cases added
      refine ⟨_, add_tcc (sameLength.trans isNumber), ?_⟩
      exact ⟨rfl, alike.videoRotation, alike.audioLevel, alike.descriptor⟩
    · have longEnough := descriptor_long added
      rw [add_descriptor longEnough] at added
      cases added
      rw [← sameLength] at longEnough
      refine ⟨_, add_descriptor longEnough, ?_⟩
      exact ⟨alike.tcc, alike.videoRotation, alike.audioLevel, rfl⟩
  · obtain ⟨rotation, level, sets⟩ := add_unrecorded range recorded
    rw [sets values] at added
    cases added
    rw [sameValue recorded]
    refine ⟨_, sets other, alike.tcc, ?_, ?_, alike.descriptor⟩
    · exact congrArg rotation.or alike.videoRotation
    · exact congrArg level.or alike.audioLevel

theorem mem_places_of_add {values next : ExtensionValues}
    {range place : ByteRange}
    (added : values.add id value range = .ok (some next))
    (isPlace : place ∈ next.places) :
    place ∈ values.places ∨ Recorded id value.length ∧ place = range := by
  obtain ⟨tccCases, descriptorCases⟩ := add_cases added
  rcases mem_places_iff.mp isPlace with isTcc | ⟨descriptor, isDescriptor⟩
  · rcases tccCases with same | ⟨isId, two, isRange⟩
    · rw [same] at isTcc
      exact .inl (mem_places_iff.mpr (.inl isTcc))
    · rw [isRange] at isTcc
      cases isTcc
      exact .inr ⟨.inl ⟨isId, two⟩, rfl⟩
  · rcases descriptorCases with same | ⟨isId, _, another, _, isRange⟩
    · rw [same] at isDescriptor
      exact .inl (mem_places_iff.mpr (.inr ⟨descriptor, isDescriptor⟩))
    · rw [isRange] at isDescriptor
      cases isDescriptor
      exact .inr ⟨.inr isId, rfl⟩

/-- What is added to values that stand in the packet stands there too. -/
theorem add_reread {values next : ExtensionValues} {packet : Bytes}
    (isRead : values.reread packet = values)
    (added : values.add id (range.slice packet) range = .ok (some next)) :
    next.reread packet = next := by
  have tcc := congrArg tccSeqnum isRead
  have descriptor := congrArg dependencyDescriptor isRead
  unfold reread at tcc descriptor
  dsimp only at tcc descriptor
  by_cases recorded : Recorded id (range.slice packet).length
  · rcases recorded with ⟨rfl, isNumber⟩ | rfl
    · rw [add_tcc isNumber] at added
      cases added
      unfold reread
      dsimp only
      rw [descriptor]
      rfl
    · rw [add_descriptor (descriptor_long added)] at added
      cases added
      unfold reread
      dsimp only
      rw [tcc]
      rfl
  · obtain ⟨rotation, level, sets⟩ := add_unrecorded range recorded
    rw [sets values] at added
    cases added
    unfold reread
    dsimp only
    rw [tcc, descriptor]

end ExtensionValues

/-! ## The loop over the extensions -/

/-- One round of `parseExtensions`, on a part of a packet. -/
theorem parseExtensions_slice (profile : HeaderExtensionsProfile)
    (fuel : Nat) {position finish : Nat} {packet : Bytes}
    (values : ExtensionValues) (more : position < finish)
    (fits : finish ≤ packet.length) :
    parseExtensions profile (fuel + 1) position
        (slice position finish packet) values =
      if finish < position + profile.len then
        if profile = .twoByte ∧ packet[position]? = some 0 then
          .ok (some values)
        else .ok none
      else if profile.idOf (packet.getD position 0) = 0 then .ok (some values)
      else if finish < position + profile.len +
          profile.lenOf (packet.getD (position + profile.lenIndex) 0) then
        .ok none
      else
        let start := position + profile.len
        let next := start +
          profile.lenOf (packet.getD (position + profile.lenIndex) 0)
        values.add (profile.idOf (packet.getD position 0))
            (slice start next packet) ⟨start, next⟩ >>=
          parseFurther profile fuel next (slice next finish packet) := by
  have lengthIs : (slice position finish packet).length =
      finish - position := length_slice_of_le fits
  have byteAhead : ∀ ahead, position + ahead < finish →
      (slice position finish packet).getD ahead 0 =
        packet.getD (position + ahead) 0 := by
    intro ahead inside
    rw [List.getD_eq_getElem?_getD, List.getD_eq_getElem?_getD,
      getElem?_slice, if_pos inside]
  have firstByte := getElem?_slice position finish 0 packet
  rw [Nat.add_zero, if_pos more] at firstByte
  cases shape : slice position finish packet with
  | nil =>
      rw [shape] at lengthIs
      exact absurd lengthIs.symm (Nat.sub_ne_zero_of_lt more)
  | cons first tail =>
      rw [shape] at firstByte
      have isFirst : packet[position]? = some first := firstByte.symm
      have isFirstOf : packet.getD position 0 = first := by
        rw [List.getD_eq_getElem?_getD, isFirst]
        rfl
      rw [parseExtensions_cons _ _ _ _ _ _ _ rfl, ← shape, lengthIs,
        drop_slice, drop_slice, isFirstOf]
      by_cases short : finish < position + profile.len
      · rw [if_pos short, if_pos (by omega), isFirst]
        simp only [Option.some.injEq]
      · have lenInside := profile.lenIndex_lt
        rw [if_neg short, if_neg (by omega), byteAhead _ (by omega)]
        generalize profile.lenOf
          (packet.getD (position + profile.lenIndex) 0) = length
        dsimp only
        rw [length_slice_of_le fits]
        by_cases stops : profile.idOf first = 0
        · rw [if_pos stops, if_pos stops]
        · rw [if_neg stops, if_neg stops]
          by_cases outside : finish < position + profile.len + length
          · rw [if_pos outside, if_pos (by omega)]
          · rw [if_neg outside, if_neg (by omega), take_slice _ (by omega)]

/-- An extension that has been parsed, and what comes after it. -/
structure RoundParsed (profile : HeaderExtensionsProfile) (packet : Bytes)
    (finish fuel position : Nat) (values : ExtensionValues)
    (found : ExtensionValues) (next : Nat) (added : ExtensionValues) :
    Prop where
  behind : position + profile.len ≤ next
  inside : next ≤ finish
  isAdded : values.add (profile.idOf (packet.getD position 0))
    (ByteRange.slice ⟨position + profile.len, next⟩ packet)
    ⟨position + profile.len, next⟩ = .ok (some added)
  further : parseExtensions profile fuel next (slice next finish packet)
    added = .ok (some found)

section Rounds

variable {profile : HeaderExtensionsProfile} {packet : Bytes}
  {finish fuel position : Nat} {values found : ExtensionValues}

theorem parseExtensions_done {profile : HeaderExtensionsProfile}
    {packet : Bytes} {finish position : Nat} (fuel : Nat)
    (values : ExtensionValues) (done : finish ≤ position) :
    parseExtensions profile fuel position (slice position finish packet)
      values = .ok (some values) := by
  have empty : slice position finish packet = [] := by
    apply List.eq_nil_of_length_eq_zero
    rw [length_slice]
    omega
  rw [empty]
  cases fuel with
  | zero => rfl
  | succ fuel => rfl

theorem parseExtensions_cases (fits : finish ≤ packet.length)
    (parsed : parseExtensions profile (fuel + 1) position
      (slice position finish packet) values = .ok (some found)) :
    found = values ∨ ∃ next added,
      RoundParsed profile packet finish fuel position values found next
        added := by
  by_cases done : finish ≤ position
  · rw [parseExtensions_done _ _ done] at parsed
    cases parsed
    exact .inl rfl
  · rw [parseExtensions_slice _ _ _ (Nat.lt_of_not_le done) fits] at parsed
    split at parsed
    · split at parsed
      · cases parsed
        exact .inl rfl
      · cases parsed
    · split at parsed
      · cases parsed
        exact .inl rfl
      · split at parsed
        · cases parsed
        · rename_i inside
          obtain ⟨outcome, isAdded, further⟩ := bind_eq_ok_iff.mp parsed
          cases outcome with
          | none => cases further
          | some added =>
              exact .inr ⟨_, added, Nat.le_add_right _ _,
                Nat.le_of_not_lt inside, isAdded, further⟩

/-- Values that have been parsed stand in the packet. -/
theorem parseExtensions_reread (fits : finish ≤ packet.length)
    (isRead : values.reread packet = values)
    (parsed : parseExtensions profile fuel position
      (slice position finish packet) values = .ok (some found)) :
    found.reread packet = found := by
  induction fuel generalizing position values with
  | zero =>
      cases parsed
      exact isRead
  | succ fuel ih =>
      rcases parseExtensions_cases fits parsed with rfl | ⟨next, added, round⟩
      · exact isRead
      · exact ih (ExtensionValues.add_reread isRead round.isAdded)
          round.further

/-- What has not been recorded before lies behind the id and the length of
the next extension. -/
theorem parseExtensions_behind (fits : finish ≤ packet.length)
    (parsed : parseExtensions profile fuel position
      (slice position finish packet) values = .ok (some found))
    {place : ByteRange} (isPlace : place ∈ found.places) :
    place ∈ values.places ∨ position + profile.len ≤ place.start := by
  induction fuel generalizing position values with
  | zero =>
      cases parsed
      exact .inl isPlace
  | succ fuel ih =>
      rcases parseExtensions_cases fits parsed with rfl | ⟨next, added, round⟩
      · exact .inl isPlace
      · have behind := round.behind
        rcases ih round.further with inAdded | later
        · rcases ExtensionValues.mem_places_of_add round.isAdded inAdded with
            known | ⟨-, rfl⟩
          · exact .inl known
          · exact .inr (Nat.le_refl _)
        · exact .inr (by omega)

/-- The id and the length of an extension are not recorded. -/
theorem framing_not_covered (fits : finish ≤ packet.length)
    (before : ∀ place ∈ values.places, place.finish ≤ position)
    (parsed : parseExtensions profile fuel position
      (slice position finish packet) values = .ok (some found))
    {index : Nat} (above : position ≤ index)
    (below : index < position + profile.len) :
    ∀ place ∈ found.places, ¬ place.Covers index := by
  intro place isPlace covers
  have inside := covers
  unfold ByteRange.Covers at inside
  rcases parseExtensions_behind fits parsed isPlace with known | later
  · have ended := before place known
    omega
  · omega

namespace RoundParsed

variable {next : Nat} {added : ExtensionValues}

theorem before (round : RoundParsed profile packet finish fuel position values
      found next added)
    (before : ∀ place ∈ values.places, place.finish ≤ position) :
    ∀ place ∈ added.places, place.finish ≤ next := by
  intro place isPlace
  have behind := round.behind
  rcases ExtensionValues.mem_places_of_add round.isAdded isPlace with
    known | ⟨-, rfl⟩
  · have ended := before place known
    omega
  · exact Nat.le_refl _

theorem placesApart (round : RoundParsed profile packet finish fuel position
      values found next added)
    (before : ∀ place ∈ values.places, place.finish ≤ position)
    (apart : values.PlacesApart) : added.PlacesApart := by
  intro tcc recorded isTcc isRecorded
  obtain ⟨tccCases, descriptorCases⟩ :=
    ExtensionValues.add_cases round.isAdded
  rcases tccCases with oldTcc | ⟨isTccId, -, newTcc⟩
  · rw [oldTcc] at isTcc
    have tccBefore := before tcc (ExtensionValues.mem_places_iff.mpr
      (.inl isTcc))
    rcases descriptorCases with old | ⟨-, -, descriptor, -, new⟩
    · rw [old] at isRecorded
      exact apart tcc recorded isTcc isRecorded
    · rw [new] at isRecorded
      cases isRecorded
      exact .inl (Nat.le_trans tccBefore (Nat.le_add_right _ _))
  · rw [newTcc] at isTcc
    cases isTcc
    rcases descriptorCases with old | ⟨isDescriptorId, -, -⟩
    · rw [old] at isRecorded
      have recordedBefore := before recorded.2
        (ExtensionValues.mem_places_iff.mpr (.inr ⟨recorded.1, isRecorded⟩))
      exact .inr (Nat.le_trans recordedBefore (Nat.le_add_right _ _))
    · rw [isTccId] at isDescriptorId
      exact absurd isDescriptorId (by decide)

/-- A value that is not recorded is not covered by what is. -/
theorem not_covered (round : RoundParsed profile packet finish fuel position
      values found next added) (fits : finish ≤ packet.length)
    (before : ∀ place ∈ values.places, place.finish ≤ position)
    (unrecorded : ¬ ExtensionValues.Recorded
      (profile.idOf (packet.getD position 0))
      (ByteRange.slice ⟨position + profile.len, next⟩ packet).length)
    {index : Nat} (above : position + profile.len ≤ index)
    (below : index < next) :
    ∀ place ∈ found.places, ¬ place.Covers index := by
  intro place isPlace covers
  have inside := covers
  unfold ByteRange.Covers at inside
  rcases parseExtensions_behind fits round.further isPlace with known | later
  · rcases ExtensionValues.mem_places_of_add round.isAdded known with
      earlier | ⟨recorded, -⟩
    · have ended := before place earlier
      omega
    · exact unrecorded recorded
  · omega

/-- The next extension is added again, with its new value if it is
recorded. -/
theorem add_again (round : RoundParsed profile packet finish fuel position
      values found next added) {rewritten : Bytes} {other : ExtensionValues}
    (sameLength : rewritten.length = packet.length)
    (fits : finish ≤ packet.length)
    (before : ∀ place ∈ values.places, place.finish ≤ position)
    (alike : values.Alike other)
    (same : ∀ index, position ≤ index → index < finish →
      (∀ place ∈ found.places, ¬ place.Covers index) →
        rewritten[index]? = packet[index]?) :
    ∃ again, other.add (profile.idOf (packet.getD position 0))
        (slice (position + profile.len) next rewritten)
        ⟨position + profile.len, next⟩ = .ok (some again) ∧
      added.Alike again := by
  have ends := round.inside
  apply ExtensionValues.add_alike alike _ _ round.isAdded
  · unfold ByteRange.slice
    rw [length_slice, length_slice, sameLength]
  · intro unrecorded
    apply slice_congr
    intro index above below
    exact same index (Nat.le_trans (Nat.le_add_right _ _) above)
      (Nat.lt_of_lt_of_le below ends)
      (round.not_covered fits before unrecorded above below)

end RoundParsed

theorem parseExtensions_placesApart (fits : finish ≤ packet.length)
    (before : ∀ place ∈ values.places, place.finish ≤ position)
    (apart : values.PlacesApart)
    (parsed : parseExtensions profile fuel position
      (slice position finish packet) values = .ok (some found)) :
    found.PlacesApart := by
  induction fuel generalizing position values with
  | zero =>
      cases parsed
      exact apart
  | succ fuel ih =>
      rcases parseExtensions_cases fits parsed with rfl | ⟨next, added, round⟩
      · exact apart
      · exact ih (round.before before) (round.placesApart before apart)
          round.further

/-- Changes within the values that are recorded at the end do not change what
is recorded. -/
theorem parseExtensions_rewritten {rewritten : Bytes}
    {other : ExtensionValues} (sameLength : rewritten.length = packet.length)
    (fits : finish ≤ packet.length)
    (before : ∀ place ∈ values.places, place.finish ≤ position)
    (alike : values.Alike other)
    (same : ∀ index, position ≤ index → index < finish →
      (∀ place ∈ found.places, ¬ place.Covers index) →
        rewritten[index]? = packet[index]?)
    (parsed : parseExtensions profile fuel position
      (slice position finish packet) values = .ok (some found)) :
    ∃ again, parseExtensions profile fuel position
        (slice position finish rewritten) other = .ok (some again) ∧
      found.Alike again := by
  induction fuel generalizing position values other with
  | zero =>
      cases parsed
      exact ⟨other, rfl, alike⟩
  | succ fuel ih =>
      by_cases done : finish ≤ position
      · rw [parseExtensions_done _ _ done] at parsed
        cases parsed
        exact ⟨other, parseExtensions_done _ _ done, alike⟩
      · have more := Nat.lt_of_not_le done
        have framing : ∀ index, position ≤ index → index < finish →
            index < position + profile.len →
              rewritten[index]? = packet[index]? :=
          fun index above below early => same index above below
            (framing_not_covered fits before parsed above early)
        have sameByte : ∀ index, position ≤ index → index < finish →
            index < position + profile.len →
              rewritten.getD index 0 = packet.getD index 0 := by
          intro index above below early
          rw [List.getD_eq_getElem?_getD, framing index above below early,
            ← List.getD_eq_getElem?_getD]
        have atLeastOne := profile.len_pos
        have lenInside := profile.lenIndex_lt
        have fitsAgain : finish ≤ rewritten.length := by omega
        rw [parseExtensions_slice _ _ _ more fits] at parsed
        rw [parseExtensions_slice _ _ _ more fitsAgain,
          framing position (Nat.le_refl _) more (by omega),
          sameByte position (Nat.le_refl _) more (by omega)]
        by_cases short : finish < position + profile.len
        · rw [if_pos short] at parsed ⊢
          split at parsed
          · rename_i padding
            cases parsed
            rw [if_pos padding]
            exact ⟨other, rfl, alike⟩
          · cases parsed
        · rw [if_neg short] at parsed ⊢
          rw [sameByte (position + profile.lenIndex) (by omega) (by omega)
            (by omega)]
          split at parsed
          · rename_i stops
            cases parsed
            rw [if_pos stops]
            exact ⟨other, rfl, alike⟩
          · rename_i runs
            rw [if_neg runs]
            split at parsed
            · cases parsed
            · rename_i inside
              rw [if_neg inside]
              obtain ⟨outcome, isAdded, further⟩ := bind_eq_ok_iff.mp parsed
              cases outcome with
              | none => cases further
              | some added =>
                  have round : RoundParsed profile packet finish fuel position
                      values found _ added :=
                    ⟨Nat.le_add_right _ _, Nat.le_of_not_lt inside, isAdded,
                      further⟩
                  have behind := round.behind
                  obtain ⟨again, isAgain, alikeAgain⟩ :=
                    round.add_again sameLength fits before alike same
                  dsimp only
                  rw [isAgain, ok_bind]
                  apply ih (round.before before) alikeAgain ?_ round.further
                  intro index above below
                  exact same index (by omega) below

end Rounds

end CallingService.Backend.Rtp
