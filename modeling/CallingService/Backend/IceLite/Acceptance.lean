import CallingService.Backend.IceLite.Layout

/-!
# Which packets are accepted

The parser against a grammar of messages, and the part of a message that
determines what the request says.
-/

namespace CallingService.Backend.IceLite

open Foundation Rtp

/-! ## The grammar -/

/-- The order of the attributes: plain ones with a username among them, then
the first HMAC, then one fingerprint. -/
structure OrderedAttributes (attrs : List Attribute) : Prop where
  named : ∃ attr ∈ attrs, attr.id = AttributeId.username
  ending : ∃ before integrity after, attrs = before ++ integrity :: after ∧
    integrity.id = AttributeId.messageIntegrity ∧
    (∀ attr ∈ before, attr.id ≠ AttributeId.messageIntegrity) ∧
    integrity.value.length = hmacLen ∧
    (∀ attr ∈ before, attr.id ≠ AttributeId.fingerprint) ∧
    ∃ fingerprint, after = [fingerprint] ∧
      fingerprint.id = AttributeId.fingerprint ∧
      fingerprint.value.length = fingerprintLen

/-- A header that declares the length of the rest, ordered attributes, and
bytes after them. -/
def MessageWith (extra packet : Bytes) : Prop :=
  ∃ (header : Bytes) (attrs : List Attribute),
    header.length = headerLen ∧
    (parseU16 (header.drop 2)).toNat = packet.length - headerLen ∧
    packet = header ++ (attributeBytes attrs ++ extra) ∧
    OrderedAttributes attrs

/-- The messages of the grammar: the attributes fill the packet. -/
def Message (packet : Bytes) : Prop := MessageWith [] packet

def BindingRequest.Accepts (packet : Bytes) : Prop :=
  ∃ request, BindingRequest.parse packet = .ok request

namespace Layout

theorem orderedAttributes (layout : Layout)
    (named : ∃ attr ∈ layout.before, attr.id = AttributeId.username) :
    OrderedAttributes layout.attrs where
  named := by
    obtain ⟨attr, member, isUsername⟩ := named
    exact ⟨attr, List.mem_append_left _ member, isUsername⟩
  ending := ⟨layout.before, layout.integrity, [layout.fingerprint], rfl,
    layout.integrity_id, fun attr member => (layout.before_plain attr member).1,
    layout.integrity_length,
    fun attr member => (layout.before_plain attr member).2,
    layout.fingerprint, rfl, layout.fingerprint_id,
    layout.fingerprint_length⟩

end Layout

theorem exists_layout_of_ordered {header extra : Bytes}
    {attrs : List Attribute} (headerLength : header.length = headerLen)
    (ordered : OrderedAttributes attrs) (short : extra.length < 4) :
    ∃ layout : Layout, layout.header = header ∧ layout.extra = extra ∧
      layout.attrs = attrs ∧
      ∃ attr ∈ layout.before, attr.id = AttributeId.username := by
  obtain ⟨before, integrity, after, rfl, integrityId, first, integrityLength,
    noFingerprint, fingerprint, rfl, fingerprintId, fingerprintLength⟩ :=
      ordered.ending
  refine ⟨{
    header := header
    before := before
    integrity := integrity
    fingerprint := fingerprint
    extra := extra
    header_length := headerLength
    before_plain := fun attr member =>
      ⟨first attr member, noFingerprint attr member⟩
    integrity_id := integrityId
    integrity_length := integrityLength
    fingerprint_id := fingerprintId
    fingerprint_length := fingerprintLength
    extra_short := short }, rfl, rfl, rfl, ?_⟩
  obtain ⟨attr, member, isUsername⟩ := ordered.named
  rcases List.mem_append.mp member with inBefore | inEnding
  · exact ⟨attr, inBefore, isUsername⟩
  · -- the last two attributes have other ids
    rcases List.mem_cons.mp inEnding with rfl | isLast
    · rw [integrityId] at isUsername
      exact absurd isUsername (by decide)
    · rw [List.mem_singleton.mp isLast, fingerprintId] at isUsername
      exact absurd isUsername (by decide)

theorem accepts_iff {packet : Bytes} :
    BindingRequest.Accepts packet ↔
      ∃ extra, extra.length < 4 ∧ MessageWith extra packet := by
  constructor
  · rintro ⟨request, parsed⟩
    obtain ⟨layout, username, rfl, declared, named, -⟩ :=
      parse_eq_ok_iff.mp parsed
    have isNamed := isSome_lastValue.mp (by
      rw [← isSome_lastRange headerLen, named, Option.isSome_some])
    exact ⟨layout.extra, layout.extra_short, layout.header, layout.attrs,
      layout.header_length, declared, rfl, layout.orderedAttributes isNamed⟩
  · rintro ⟨extra, short, header, attrs, headerLength, declared, rfl, ordered⟩
    obtain ⟨layout, rfl, rfl, rfl, isNamed⟩ :=
      exists_layout_of_ordered headerLength ordered short
    obtain ⟨username, named⟩ := Option.isSome_iff_exists.mp
      ((isSome_lastRange headerLen).trans (isSome_lastValue.mpr isNamed))
    exact ⟨_, layout.parse_bytes declared named⟩

/-- The bytes after the attributes are those beyond a multiple of four. -/
theorem MessageWith.length_mod {extra packet : Bytes}
    (message : MessageWith extra packet) :
    packet.length % 4 = extra.length % 4 := by
  obtain ⟨header, attrs, headerLength, -, rfl, -⟩ := message
  have aligned := length_attributeBytes_mod attrs
  unfold headerLen at headerLength
  simp only [List.length_append]
  omega

/-- The parser agrees with the grammar, except on messages that are followed
by up to three bytes. -/
theorem accepts_message_iff (packet : Bytes) :
    (BindingRequest.Accepts packet ↔ Message packet) ↔
      ¬ ∃ extra, extra ≠ [] ∧ extra.length < 4 ∧
        MessageWith extra packet := by
  rw [accepts_iff]
  constructor
  · rintro agrees ⟨extra, notEmpty, short, message⟩
    have filled := agrees.mp ⟨extra, short, message⟩
    have lengths := message.length_mod.symm.trans filled.length_mod
    have positive := List.length_pos_of_ne_nil notEmpty
    rw [List.length_nil] at lengths
    omega
  · intro nothingMore
    constructor
    · rintro ⟨extra, short, message⟩
      by_cases empty : extra = []
      · rw [empty] at message
        exact message
      · exact absurd ⟨extra, empty, short, message⟩ nothingMore
    · intro message
      exact ⟨[], by decide, message⟩

/-- A request for the user "a" with a declared length and bytes after the
fingerprint. -/
def sampleMessage (length : UInt8) (extra : Bytes) : Bytes :=
  bindingRequestId ++ [0, length] ++ magicCookie ++ List.replicate 12 0 ++
    [0, 6, 0, 1, 97, 0, 0, 0] ++ [0, 8, 0, 20] ++ List.replicate 20 0 ++
    [0x80, 0x28, 0, 4, 0, 0, 0, 0] ++ extra

def sampleRequest (packet : Bytes) : BindingRequest where
  packet := packet
  isNominated := false
  ranges := ⟨⟨24, 25⟩, ⟨32, 52⟩, ⟨56, 60⟩⟩

theorem accepts_trailing_byte :
    ¬ (BindingRequest.Accepts (sampleMessage 41 [0]) ↔
      Message (sampleMessage 41 [0])) := by
  intro agrees
  have accepted : BindingRequest.Accepts (sampleMessage 41 [0]) :=
    ⟨sampleRequest (sampleMessage 41 [0]), by decide⟩
  have filled := (agrees.mp accepted).length_mod
  exact absurd filled (by decide)

/-! ## What the HMAC covers -/

theorem attributeBytes_inj {first second : List Attribute}
    (same : attributeBytes first = attributeBytes second) :
    first = second := by
  induction first generalizing second with
  | nil =>
      cases second with
      | nil => rfl
      | cons attr attrs =>
          have lengths := congrArg List.length same
          have positive := attr.value_le_bytes
          rw [attributeBytes_cons, List.length_append, attributeBytes_nil,
            List.length_nil] at lengths
          unfold attrHeaderLen at positive
          omega
  | cons attr attrs ih =>
      cases second with
      | nil =>
          have lengths := congrArg List.length same
          have positive := attr.value_le_bytes
          rw [attributeBytes_cons, List.length_append, attributeBytes_nil,
            List.length_nil] at lengths
          unfold attrHeaderLen at positive
          omega
      | cons other others =>
          obtain ⟨rfl, rest⟩ := Attribute.ext_of_bytes same
          rw [ih rest]

namespace Layout

variable (layout : Layout) (username : ByteRange)

/-- The attributes of a message, with the HMAC apart from those before. -/
theorem bytes_eq : layout.bytes = layout.header ++
    (attributeBytes layout.before ++ (layout.integrity.bytes ++
      (layout.fingerprint.bytes ++ layout.extra))) := by
  unfold bytes attrs
  rw [attributeBytes_append, attributeBytes_cons, attributeBytes_cons,
    attributeBytes_nil, List.append_nil, List.append_assoc, List.append_assoc]

theorem length_bytes : layout.bytes.length =
    layout.hmacStart + layout.integrity.bytes.length +
      layout.fingerprint.bytes.length + layout.extra.length := by
  have length := layout.header_length
  unfold hmacStart
  rw [bytes_eq]
  simp only [List.length_append]
  omega

theorem hmacInput_bytes :
    hmacInput layout.bytes (layout.ranges username) =
      .ok (layout.header.take 2 ++
        toBigEndian 2 (layout.hmacStart + attrHeaderLen +
          layout.integrity.value.length - headerLen) ++
        (layout.header.drop 4 ++ attributeBytes layout.before)) := by
  have headerLength := layout.header_length
  have total := layout.length_bytes
  have positive := layout.integrity.value_le_bytes
  unfold headerLen at headerLength
  have typePart : slice 0 2 layout.bytes = layout.header.take 2 := by
    unfold slice bytes
    rw [List.drop_zero, List.take_append_of_le_length (by omega)]
  have coveredPart : slice 4 layout.hmacStart layout.bytes =
      layout.header.drop 4 ++ attributeBytes layout.before := by
    have parts : layout.bytes = layout.header.take 4 ++
        (layout.header.drop 4 ++ attributeBytes layout.before ++
          (layout.integrity.bytes ++
            (layout.fingerprint.bytes ++ layout.extra))) := by
      rw [bytes_eq, List.append_assoc, ← List.append_assoc (List.take 4 _),
        List.take_append_drop]
    rw [parts]
    apply slice_middle
    · rw [List.length_take]
      omega
    · unfold hmacStart headerLen
      rw [List.length_append, List.length_drop]
      omega
  have start : (layout.ranges username).hmac.start - attrHeaderLen =
      layout.hmacStart := Nat.add_sub_cancel _ _
  have least : headerLen ≤ layout.hmacStart := Nat.le_add_right _ _
  unfold headerLen at least
  unfold hmacInput indexRange
  rw [start]
  dsimp only
  rw [if_neg (by omega), ok_bind, if_neg (by omega), ok_bind, typePart,
    coveredPart]
  rfl

/-- The username is the value of the last such attribute. -/
theorem username_request {username : ByteRange}
    (named : lastRange AttributeId.username headerLen layout.before =
      some username) :
    ∃ value, lastValue AttributeId.username layout.before = some value ∧
      (layout.request username).username = .ok value := by
  have values := @indexRange_lastRange AttributeId.username layout.before
    layout.header (attributeBytes [layout.integrity, layout.fingerprint] ++
      layout.extra)
  rw [layout.header_length, named, Option.map_some] at values
  obtain ⟨value, hasValue, same⟩ := Option.map_eq_some_iff.mp values.symm
  refine ⟨value, hasValue, ?_⟩
  unfold BindingRequest.username request ranges bytes attrs
  rw [attributeBytes_append, List.append_assoc]
  exact same.symm

end Layout

/-- Two accepted packets with the same HMAC input have the same username and
nomination. -/
theorem integrity_determines_request {first second : Bytes}
    {firstRequest secondRequest : BindingRequest}
    (firstParsed : BindingRequest.parse first = .ok firstRequest)
    (secondParsed : BindingRequest.parse second = .ok secondRequest)
    (same : hmacInput first firstRequest.ranges =
      hmacInput second secondRequest.ranges) :
    firstRequest.username = secondRequest.username ∧
      firstRequest.nominated = secondRequest.nominated := by
  obtain ⟨left, leftRange, rfl, -, leftNamed, rfl⟩ :=
    parse_eq_ok_iff.mp firstParsed
  obtain ⟨right, rightRange, rfl, -, rightNamed, rfl⟩ :=
    parse_eq_ok_iff.mp secondParsed
  have leftLength := left.header_length
  have rightLength := right.header_length
  unfold headerLen at leftLength rightLength
  have inputs := (left.hmacInput_bytes leftRange).symm.trans
    (same.trans (right.hmacInput_bytes rightRange))
  rw [Except.ok.injEq] at inputs
  obtain ⟨-, covered⟩ := List.append_inj inputs (by
    simp only [List.length_append, List.length_take, length_toBigEndian]
    omega)
  obtain ⟨-, attrs⟩ := List.append_inj covered (by
    rw [List.length_drop, List.length_drop]
    omega)
  have sameAttrs := attributeBytes_inj attrs
  obtain ⟨leftValue, leftLast, leftUsername⟩ :=
    left.username_request leftNamed
  obtain ⟨rightValue, rightLast, rightUsername⟩ :=
    right.username_request rightNamed
  rw [sameAttrs, rightLast, Option.some.injEq] at leftLast
  constructor
  · rw [leftUsername, rightUsername, leftLast]
  · unfold BindingRequest.nominated Layout.request
    rw [sameAttrs]

theorem integrity_determines_request_trailing_byte :
    (sampleRequest (sampleMessage 40 [])).username =
        (sampleRequest (sampleMessage 41 [0])).username ∧
      (sampleRequest (sampleMessage 40 [])).nominated =
        (sampleRequest (sampleMessage 41 [0])).nominated :=
  integrity_determines_request
    (show BindingRequest.parse (sampleMessage 40 []) = _ by decide)
    (show BindingRequest.parse (sampleMessage 41 [0]) = _ by decide)
    (by decide)

end CallingService.Backend.IceLite
