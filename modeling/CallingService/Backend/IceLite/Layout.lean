import CallingService.Backend.IceLite.Attributes

/-!
# The layout of accepted requests

An accepted packet is a header, attributes that are neither the HMAC nor the
fingerprint, the HMAC, the fingerprint, and at most three more bytes.  The
parsed request reads its username and nomination off the attributes before
the HMAC.
-/

namespace CallingService.Backend.IceLite

open Foundation Rtp

/-! ## Attributes before the HMAC -/

/-- Neither the HMAC nor the fingerprint. -/
def Attribute.Plain (attr : Attribute) : Prop :=
  attr.id ≠ AttributeId.messageIntegrity ∧ attr.id ≠ AttributeId.fingerprint

/-- The value of the last attribute with an id. -/
def lastValue (id : UInt16) : List Attribute → Option Bytes
  | [] => none
  | attr :: attrs =>
      (lastValue id attrs).or (if attr.id = id then some attr.value else none)

/-- Its place, when the attributes start at a position. -/
def lastRange (id : UInt16) (position : Nat) :
    List Attribute → Option ByteRange
  | [] => none
  | attr :: attrs =>
      (lastRange id (position + attr.bytes.length) attrs).or
        (if attr.id = id then some (attr.rangeAt position) else none)

section Last

variable {id : UInt16} {attrs : List Attribute}

theorem isSome_lastValue :
    (lastValue id attrs).isSome = true ↔ ∃ attr ∈ attrs, attr.id = id := by
  induction attrs with
  | nil => simp [lastValue]
  | cons attr attrs ih =>
      rw [lastValue, Option.isSome_or, Bool.or_eq_true, ih]
      by_cases same : attr.id = id
      · simp [same]
      · simp [same]

theorem isSome_lastRange (position : Nat) :
    (lastRange id position attrs).isSome = (lastValue id attrs).isSome := by
  induction attrs generalizing position with
  | nil => rfl
  | cons attr attrs ih =>
      rw [lastRange, lastValue, Option.isSome_or, Option.isSome_or, ih]
      split
      · rfl
      · rfl

theorem indexRange_rangeAt {before after : Bytes} (attr : Attribute) :
    indexRange (before ++ (attr.bytes ++ after))
      (attr.rangeAt before.length) = .ok attr.value := by
  have inside := attr.value_le_bytes
  unfold indexRange Attribute.rangeAt
  dsimp only
  rw [if_neg (by simp only [List.length_append]; omega)]
  congr 1
  have parts : before ++ (attr.bytes ++ after) =
      (before ++ (toBigEndian 2 attr.id.toNat ++
        toBigEndian 2 attr.value.length)) ++
          (attr.value ++ (attr.padding ++ after)) := by
    simp [Attribute.bytes]
  rw [parts]
  apply slice_middle
  · simp [attrHeaderLen]
  · rfl

/-- The place of the last value holds it. -/
theorem indexRange_lastRange {before after : Bytes} :
    (lastRange id before.length attrs).map
        (indexRange (before ++ (attributeBytes attrs ++ after))) =
      (lastValue id attrs).map .ok := by
  induction attrs generalizing before with
  | nil => rfl
  | cons attr attrs ih =>
      have rest := @ih (before ++ attr.bytes)
      rw [List.length_append, List.append_assoc] at rest
      rw [lastRange, lastValue, attributeBytes_cons,
        List.append_assoc, Option.map_or, Option.map_or, rest]
      congr 1
      split
      · rw [Option.map_some, Option.map_some, indexRange_rangeAt]
      · rfl

end Last

/-! ## The states of the walk -/

/-- The state after attributes that do not change the mode. -/
def AttributeWalk.pass (walk : AttributeWalk) (attrs : List Attribute) :
    AttributeWalk :=
  { walk with
    username := (lastRange AttributeId.username walk.attrStart attrs).or
      walk.username
    nomination := (lastRange AttributeId.nomination walk.attrStart attrs).or
      walk.nomination
    attrStart := walk.attrStart + (attributeBytes attrs).length }

/-- The state after the HMAC and the fingerprint. -/
def AttributeWalk.finish (walk : AttributeWalk)
    (integrity fingerprint : Attribute) : AttributeWalk :=
  let fingerprintStart := walk.attrStart + integrity.bytes.length
  { walk with
    parseMode := .done
    hmac := some (integrity.rangeAt walk.attrStart)
    fingerprint := some (fingerprint.rangeAt fingerprintStart)
    attrStart := fingerprintStart + fingerprint.bytes.length }

section Walk

variable {walk final : AttributeWalk} {attr integrity fingerprint : Attribute}
  {attrs : List Attribute}

theorem pass_cons : walk.pass (attr :: attrs) =
    (walk.pass [attr]).pass attrs := by
  unfold AttributeWalk.pass
  simp only [lastRange, attributeBytes_cons, attributeBytes_nil,
    List.length_append, List.append_nil, Option.none_or, Option.or_assoc,
    Nat.add_assoc]

/-- An attribute that is neither of the last two does not change the mode. -/
theorem take_plain (reading : walk.parseMode = .readingAttributes)
    (plain : attr.Plain) : walk.take attr = .ok (walk.pass [attr]) := by
  unfold AttributeWalk.take AttributeWalk.see AttributeWalk.pass
  rw [reading]
  dsimp only
  simp only [lastRange, attributeBytes_cons, attributeBytes_nil,
    List.append_nil, Option.none_or]
  by_cases username : attr.id = AttributeId.username
  · have notNomination : attr.id ≠ AttributeId.nomination := by
      rw [username]
      decide
    rw [if_pos username, if_pos username, if_neg notNomination]
    rfl
  · rw [if_neg username, if_neg username]
    by_cases nomination : attr.id = AttributeId.nomination
    · rw [if_pos nomination, if_pos nomination]
      rfl
    · rw [if_neg nomination, if_neg nomination, if_neg plain.1,
        if_neg plain.2, ← reading]
      rfl

theorem takeAll_append_plain {rest : List Attribute}
    (reading : walk.parseMode = .readingAttributes)
    (plain : ∀ attr ∈ attrs, attr.Plain) :
    walk.takeAll (attrs ++ rest) = (walk.pass attrs).takeAll rest := by
  induction attrs generalizing walk with
  | nil => rfl
  | cons attr attrs ih =>
      rw [List.cons_append, AttributeWalk.takeAll,
        take_plain reading (plain attr List.mem_cons_self), ok_bind,
        @ih (walk.pass [attr]) reading
          (fun other member => plain other (List.mem_cons_of_mem _ member)),
        ← pass_cons]

theorem take_integrity (reading : walk.parseMode = .readingAttributes)
    (isIntegrity : attr.id = AttributeId.messageIntegrity) :
    walk.take attr =
      if attr.value.length = hmacLen then .ok { walk with
        hmac := some (attr.rangeAt walk.attrStart)
        parseMode := .expectFingerprint
        attrStart := walk.attrStart + attr.bytes.length }
      else .error (.wrongHMacLength attr.len hmacLen.toUInt16) := by
  have notUsername : attr.id ≠ AttributeId.username := by
    rw [isIntegrity]
    decide
  have notNomination : attr.id ≠ AttributeId.nomination := by
    rw [isIntegrity]
    decide
  unfold AttributeWalk.take AttributeWalk.see
  rw [reading]
  dsimp only
  rw [if_neg notUsername, if_neg notNomination, if_pos isIntegrity,
    Attribute.len_rangeAt]
  by_cases length : attr.value.length = hmacLen
  · rw [if_neg (not_not.mpr length), if_pos length]
    rfl
  · rw [if_pos length, if_neg length]
    rfl

theorem take_fingerprint (expecting : walk.parseMode = .expectFingerprint)
    (isFingerprint : attr.id = AttributeId.fingerprint) :
    walk.take attr =
      if attr.value.length = fingerprintLen then .ok { walk with
        fingerprint := some (attr.rangeAt walk.attrStart)
        parseMode := .done
        attrStart := walk.attrStart + attr.bytes.length }
      else .error (.wrongFingerprintLength attr.len
        fingerprintLen.toUInt16) := by
  unfold AttributeWalk.take AttributeWalk.see
  rw [expecting]
  dsimp only
  rw [if_neg (not_not.mpr isFingerprint), Attribute.len_rangeAt]
  by_cases length : attr.value.length = fingerprintLen
  · rw [if_neg (not_not.mpr length), if_pos length]
    rfl
  · rw [if_pos length, if_neg length]
    rfl

theorem takeAll_ending (reading : walk.parseMode = .readingAttributes)
    (isIntegrity : integrity.id = AttributeId.messageIntegrity)
    (integrityLength : integrity.value.length = hmacLen)
    (isFingerprint : fingerprint.id = AttributeId.fingerprint)
    (length : fingerprint.value.length = fingerprintLen) :
    walk.takeAll [integrity, fingerprint] =
      .ok (walk.finish integrity fingerprint) := by
  rw [AttributeWalk.takeAll, take_integrity reading isIntegrity,
    if_pos integrityLength, ok_bind, AttributeWalk.takeAll,
    take_fingerprint rfl isFingerprint, if_pos length]
  rfl

theorem takeAll_done (done : walk.parseMode = .done)
    (taken : walk.takeAll attrs = .ok final) : attrs = [] ∧ final = walk := by
  cases attrs with
  | nil =>
      cases taken
      exact ⟨rfl, rfl⟩
  | cons attr attrs =>
      obtain ⟨next, impossible, -⟩ := bind_eq_ok_iff.mp taken
      unfold AttributeWalk.take AttributeWalk.see at impossible
      rw [done] at impossible
      cases impossible

theorem take_early_fingerprint
    (reading : walk.parseMode = .readingAttributes)
    (isFingerprint : attr.id = AttributeId.fingerprint) :
    walk.take attr = .error .fingerprintBeforeHMac := by
  unfold AttributeWalk.take AttributeWalk.see
  rw [reading, isFingerprint]
  rfl

/-- After the HMAC there is the fingerprint alone. -/
theorem takeAll_expecting (taken : walk.takeAll attrs = .ok final)
    (expecting : walk.parseMode = .expectFingerprint)
    (absent : walk.fingerprint = none)
    (complete : final.fingerprint.isSome = true) :
    ∃ fingerprint, attrs = [fingerprint] ∧
      fingerprint.id = AttributeId.fingerprint ∧
      fingerprint.value.length = fingerprintLen := by
  cases attrs with
  | nil =>
      cases taken
      rw [absent] at complete
      cases complete
  | cons attr attrs =>
      obtain ⟨next, first, rest⟩ := bind_eq_ok_iff.mp taken
      by_cases isFingerprint : attr.id = AttributeId.fingerprint
      · rw [take_fingerprint expecting isFingerprint] at first
        split at first
        · rename_i length
          cases first
          obtain ⟨rfl, -⟩ := takeAll_done rfl rest
          exact ⟨attr, rfl, isFingerprint, length⟩
        · cases first
      · unfold AttributeWalk.take AttributeWalk.see at first
        rw [expecting] at first
        dsimp only at first
        rw [if_pos isFingerprint] at first
        cases first

/-- A walk that reaches the fingerprint passes plain attributes, the HMAC
and the fingerprint, and nothing else. -/
theorem takeAll_complete (reading : walk.parseMode = .readingAttributes)
    (absent : walk.fingerprint = none)
    (taken : walk.takeAll attrs = .ok final)
    (complete : final.fingerprint.isSome = true) :
    ∃ before integrity fingerprint,
      attrs = before ++ [integrity, fingerprint] ∧
      (∀ attr ∈ before, attr.Plain) ∧
      integrity.id = AttributeId.messageIntegrity ∧
      integrity.value.length = hmacLen ∧
      fingerprint.id = AttributeId.fingerprint ∧
      fingerprint.value.length = fingerprintLen := by
  induction attrs generalizing walk with
  | nil =>
      cases taken
      rw [absent] at complete
      cases complete
  | cons attr attrs ih =>
      obtain ⟨next, first, rest⟩ := bind_eq_ok_iff.mp taken
      by_cases isIntegrity : attr.id = AttributeId.messageIntegrity
      · rw [take_integrity reading isIntegrity] at first
        split at first
        · rename_i integrityLength
          cases first
          obtain ⟨fingerprint, rfl, isFingerprint, length⟩ :=
            takeAll_expecting rest rfl absent complete
          refine ⟨[], attr, fingerprint, rfl, ?_, isIntegrity,
            integrityLength, isFingerprint, length⟩
          intro other member
          cases member
        · cases first
      · by_cases isFingerprint : attr.id = AttributeId.fingerprint
        · rw [take_early_fingerprint reading isFingerprint] at first
          cases first
        · rw [take_plain reading ⟨isIntegrity, isFingerprint⟩] at first
          cases first
          obtain ⟨before, integrity, fingerprint, rfl, plain, others⟩ :=
            @ih (walk.pass [attr]) reading absent rest
          refine ⟨attr :: before, integrity, fingerprint, rfl, ?_, others⟩
          intro other member
          rcases List.mem_cons.mp member with rfl | later
          · exact ⟨isIntegrity, isFingerprint⟩
          · exact plain other later

end Walk

/-! ## Requests -/

/-- The parts of a message that ends with an HMAC and a fingerprint.  The
extra bytes are fewer than the header of an attribute. -/
structure Layout where
  header : Bytes
  before : List Attribute
  integrity : Attribute
  fingerprint : Attribute
  extra : Bytes
  header_length : header.length = headerLen
  before_plain : ∀ attr ∈ before, attr.Plain
  integrity_id : integrity.id = AttributeId.messageIntegrity
  integrity_length : integrity.value.length = hmacLen
  fingerprint_id : fingerprint.id = AttributeId.fingerprint
  fingerprint_length : fingerprint.value.length = fingerprintLen
  extra_short : extra.length < attrHeaderLen

namespace Layout

variable (layout : Layout)

def attrs : List Attribute :=
  layout.before ++ [layout.integrity, layout.fingerprint]

def bytes : Bytes :=
  layout.header ++ (attributeBytes layout.attrs ++ layout.extra)

/-- The length in the header counts the rest of the message. -/
def Declared : Prop :=
  (parseU16 (layout.header.drop 2)).toNat = layout.bytes.length - headerLen

def hmacStart : Nat := headerLen + (attributeBytes layout.before).length

def ranges (username : ByteRange) : BindingRequestRanges where
  username := username
  hmac := layout.integrity.rangeAt layout.hmacStart
  fingerprint := layout.fingerprint.rangeAt
    (layout.hmacStart + layout.integrity.bytes.length)

/-- The request that the parser makes of the message. -/
def request (username : ByteRange) : BindingRequest where
  packet := layout.bytes
  isNominated := (lastValue AttributeId.nomination layout.before).isSome
  ranges := layout.ranges username

theorem run_bytes :
    (attributeLoop layout.bytes).run .start =
      .ok ((AttributeWalk.start.pass layout.before).finish layout.integrity
        layout.fingerprint) := by
  have body : layout.bytes.drop AttributeWalk.start.attrStart =
      attributeBytes layout.attrs ++ layout.extra :=
    List.drop_left' layout.header_length
  rw [run_attributeBytes rfl body layout.extra_short]
  unfold attrs
  rw [takeAll_append_plain rfl layout.before_plain,
    takeAll_ending rfl layout.integrity_id layout.integrity_length
      layout.fingerprint_id layout.fingerprint_length]

theorem headerLen_le : headerLen ≤ layout.bytes.length := by
  have length := layout.header_length
  unfold bytes
  rw [List.length_append]
  omega

theorem parseU16_header :
    parseU16 (layout.bytes.drop 2) = parseU16 (layout.header.drop 2) := by
  have length := layout.header_length
  unfold headerLen at length
  unfold bytes parseU16
  rw [List.drop_append_of_le_length (by omega),
    List.take_append_of_le_length (by rw [List.length_drop]; omega)]

/-- A message with a username is accepted. -/
theorem parse_bytes {username : ByteRange} (declared : layout.Declared)
    (named : lastRange AttributeId.username headerLen layout.before =
      some username) :
    BindingRequest.parse layout.bytes = .ok (layout.request username) := by
  unfold Declared at declared
  unfold BindingRequest.parse
  rw [ensure_of layout.headerLen_le, ok_bind]
  dsimp only
  rw [layout.parseU16_header, ensure_of declared, ok_bind,
    layout.run_bytes, ok_bind]
  unfold BindingRequest.ofWalk
  have username_pass : (AttributeWalk.start.pass layout.before).username =
      some username := by
    unfold AttributeWalk.pass
    rw [show AttributeWalk.start.attrStart = headerLen from rfl, named]
    rfl
  have nomination_pass : (AttributeWalk.start.pass
      layout.before).nomination.isSome =
        (lastValue AttributeId.nomination layout.before).isSome := by
    unfold AttributeWalk.pass
    rw [← isSome_lastRange headerLen]
    exact congrArg Option.isSome (Option.or_none)
  unfold AttributeWalk.finish
  dsimp only
  rw [username_pass, nomination_pass]
  rfl

end Layout

theorem parse_eq_ok {packet : Bytes} {request : BindingRequest}
    (parsed : BindingRequest.parse packet = .ok request) :
    headerLen ≤ packet.length ∧
      (parseU16 (packet.drop 2)).toNat = packet.length - headerLen ∧
      ∃ walk, (attributeLoop packet).run .start = .ok walk ∧
        walk.username = some request.ranges.username ∧
        walk.fingerprint.isSome = true := by
  obtain ⟨_, long, rest⟩ := bind_eq_ok_iff.mp parsed
  obtain ⟨_, declared, rest⟩ := bind_eq_ok_iff.mp rest
  obtain ⟨walk, ended, rest⟩ := bind_eq_ok_iff.mp rest
  obtain ⟨username, hasUsername, rest⟩ := bind_eq_ok_iff.mp rest
  obtain ⟨hmac, -, rest⟩ := bind_eq_ok_iff.mp rest
  obtain ⟨fingerprint, hasFingerprint, returned⟩ := bind_eq_ok_iff.mp rest
  cases returned
  rw [okOr_eq_ok_iff] at hasUsername hasFingerprint
  refine ⟨ensure_eq_ok_iff.mp long, ensure_eq_ok_iff.mp declared, walk, ended,
    hasUsername, ?_⟩
  rw [hasFingerprint, Option.isSome_some]

/-- Accepted packets are the messages with a username, and the parser reads
off their layout. -/
theorem parse_eq_ok_iff {packet : Bytes} {request : BindingRequest} :
    BindingRequest.parse packet = .ok request ↔
      ∃ (layout : Layout) (username : ByteRange),
        layout.bytes = packet ∧ layout.Declared ∧
        lastRange AttributeId.username headerLen layout.before =
          some username ∧
        layout.request username = request := by
  constructor
  · intro parsed
    obtain ⟨long, declared, walk, ended, hasUsername, complete⟩ :=
      parse_eq_ok parsed
    obtain ⟨attrs, extra, short, body, all⟩ := exists_attributes rfl
      (fun impossible => by cases impossible) ended complete
    obtain ⟨before, integrity, fingerprint, rfl, plain, integrityId,
      integrityLength, fingerprintId, fingerprintLength⟩ :=
        takeAll_complete rfl rfl all complete
    let layout : Layout := {
      header := packet.take headerLen
      before := before
      integrity := integrity
      fingerprint := fingerprint
      extra := extra
      header_length := by rw [List.length_take, Nat.min_eq_left long]
      before_plain := plain
      integrity_id := integrityId
      integrity_length := integrityLength
      fingerprint_id := fingerprintId
      fingerprint_length := fingerprintLength
      extra_short := short }
    have bytes : layout.bytes = packet := by
      unfold Layout.bytes Layout.attrs
      rw [← body]
      exact List.take_append_drop _ _
    have isDeclared : layout.Declared := by
      unfold Layout.Declared
      rw [← layout.parseU16_header, bytes]
      exact declared
    cases named : lastRange AttributeId.username headerLen layout.before with
    | none =>
        have same := layout.run_bytes
        rw [bytes, ended, Except.ok.injEq] at same
        have unnamed : walk.username = none := by
          rw [same]
          exact congrArg (Option.or · none) named
        rw [unnamed] at hasUsername
        cases hasUsername
    | some username =>
        have again := layout.parse_bytes isDeclared named
        rw [bytes, parsed] at again
        cases again
        exact ⟨layout, username, bytes, isDeclared, named, rfl⟩
  · rintro ⟨layout, username, rfl, declared, named, rfl⟩
    exact layout.parse_bytes declared named

end CallingService.Backend.IceLite
