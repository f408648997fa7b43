import CallingService.Backend.IceLite.BindingRequest

/-!
# Attributes

The attributes of a message as values of their own.  The loop of the parser is
the fold of its state machine over the attributes that make up the body; up to
three bytes at the end are never looked at.
-/

namespace CallingService.Backend.IceLite

open Foundation Rtp

/-- An attribute with the padding that aligns the next one. -/
structure Attribute where
  id : UInt16
  value : Bytes
  padding : Bytes
  short : value.length < 2 ^ 16
  aligned : value.length + padding.length =
    roundUpToMultipleOf 4 value.length
deriving DecidableEq

namespace Attribute

def bytes (attr : Attribute) : Bytes :=
  toBigEndian 2 attr.id.toNat ++
    (toBigEndian 2 attr.value.length ++
      (attr.value ++ attr.padding))

/-- The place of the value of an attribute that starts at a position. -/
def rangeAt (attr : Attribute) (position : Nat) : ByteRange :=
  ⟨position + attrHeaderLen,
    position + attrHeaderLen + attr.value.length⟩

def len (attr : Attribute) : UInt16 := attr.value.length.toUInt16

theorem toNat_len (attr : Attribute) :
    attr.len.toNat = attr.value.length := by
  have short := attr.short
  rw [len, show attr.value.length.toUInt16.toNat =
    attr.value.length % 2 ^ 16 from UInt16.toNat_ofNat' ..,
    Nat.mod_eq_of_lt short]

theorem length_bytes (attr : Attribute) :
    attr.bytes.length =
      attrHeaderLen + roundUpToMultipleOf 4 attr.value.length := by
  have aligned := attr.aligned
  unfold bytes attrHeaderLen
  simp only [List.length_append, length_toBigEndian]
  omega

theorem length_bytes_mod (attr : Attribute) :
    attr.bytes.length % 4 = 0 := by
  rw [length_bytes]
  unfold attrHeaderLen roundUpToMultipleOf
  omega

@[simp] theorem len_rangeAt (attr : Attribute) (position : Nat) :
    (attr.rangeAt position).len = attr.value.length := by
  unfold rangeAt ByteRange.len
  dsimp only
  omega

theorem value_le_bytes (attr : Attribute) :
    attrHeaderLen + attr.value.length ≤ attr.bytes.length := by
  rw [length_bytes]
  have := le_roundUpToMultipleOf_four attr.value.length
  omega

theorem ext_of_bytes {first second : Attribute} {rest others : Bytes}
    (same : first.bytes ++ rest = second.bytes ++ others) :
    first = second ∧ rest = others := by
  have firstShort := first.short
  have secondShort := second.short
  have firstId := first.id.toNat_lt
  have secondId := second.id.toNat_lt
  unfold bytes at same
  simp only [List.append_assoc] at same
  obtain ⟨sameId, same⟩ := toBigEndian_append_inj (by omega) (by omega) same
  obtain ⟨sameLength, same⟩ :=
    toBigEndian_append_inj (by omega) (by omega) same
  obtain ⟨sameValue, same⟩ := List.append_inj same sameLength
  have firstAligned := first.aligned
  have secondAligned := second.aligned
  rw [sameLength] at firstAligned
  obtain ⟨samePadding, sameRest⟩ := List.append_inj same (by omega)
  refine ⟨?_, sameRest⟩
  cases first
  cases second
  cases UInt16.toNat_inj.mp sameId
  cases sameValue
  cases samePadding
  rfl

end Attribute

def attributeBytes (attrs : List Attribute) : Bytes :=
  attrs.flatMap Attribute.bytes

@[simp] theorem attributeBytes_nil : attributeBytes [] = [] := rfl

@[simp] theorem attributeBytes_cons (attr : Attribute)
    (attrs : List Attribute) :
    attributeBytes (attr :: attrs) =
      attr.bytes ++ attributeBytes attrs := rfl

@[simp] theorem attributeBytes_append (first second : List Attribute) :
    attributeBytes (first ++ second) =
      attributeBytes first ++ attributeBytes second :=
  List.flatMap_append

theorem length_attributeBytes_mod (attrs : List Attribute) :
    (attributeBytes attrs).length % 4 = 0 := by
  induction attrs with
  | nil => rfl
  | cons attr attrs ih =>
      have first := attr.length_bytes_mod
      rw [attributeBytes_cons, List.length_append]
      omega

/-! ## One round -/

section Round

variable {packet rest : Bytes} {walk next final : AttributeWalk}
  {attr : Attribute}

theorem parseU16_word (word : UInt16) (rest : Bytes) :
    parseU16 (toBigEndian 2 word.toNat ++ rest) = word := by
  have small := word.toNat_lt
  unfold parseU16
  rw [List.take_left' (length_toBigEndian 2 _), fromBigEndian_toBigEndian,
    Nat.mod_eq_of_lt (by omega)]
  exact UInt16.ofNat_toNat

/-- The state after an attribute at the current position. -/
def AttributeWalk.take (walk : AttributeWalk) (attr : Attribute) :
    Except ParseError AttributeWalk :=
  (walk.see attr.id attr.len
    (attr.rangeAt walk.attrStart)).map fun next =>
      { next with attrStart := walk.attrStart + attr.bytes.length }

theorem roundUp_aligned {position : Nat} (aligned : position % 4 = 0)
    (length : Nat) :
    roundUpToMultipleOf 4 (position + attrHeaderLen + length) =
      position + attrHeaderLen + roundUpToMultipleOf 4 length := by
  unfold attrHeaderLen roundUpToMultipleOf
  omega

theorem roundUp_attribute (attr : Attribute)
    (aligned : walk.attrStart % 4 = 0) :
    roundUpToMultipleOf 4
        (walk.attrStart + attrHeaderLen + attr.value.length) =
      walk.attrStart + attr.bytes.length := by
  rw [Attribute.length_bytes, roundUp_aligned aligned, Nat.add_assoc]

theorem attributeRound_bytes (aligned : walk.attrStart % 4 = 0)
    (here : packet.drop walk.attrStart = attr.bytes ++ rest) :
    attributeRound packet walk =
      match walk.take attr with
      | .error failure => .leave (.error failure)
      | .ok next => .again next := by
  have length : packet.length - walk.attrStart =
      attr.bytes.length + rest.length := by
    rw [← List.length_drop, here, List.length_append]
  have bytesLength := attr.value_le_bytes
  have header : (packet.drop walk.attrStart).take attrHeaderLen =
      toBigEndian 2 attr.id.toNat ++
        (toBigEndian 2 attr.len.toNat ++ []) := by
    rw [here, Attribute.toNat_len, List.append_nil, Attribute.bytes,
      List.append_assoc, List.append_assoc, ← List.append_assoc]
    exact List.take_left' (by simp [attrHeaderLen])
  have header' : ((packet.drop walk.attrStart).take attrHeaderLen).drop 2 =
      toBigEndian 2 attr.len.toNat ++ [] := by
    rw [header]
    exact List.drop_left' (length_toBigEndian 2 _)
  unfold attributeRound
  dsimp only
  rw [if_neg (by unfold attrHeaderLen at *; omega), header', header,
    parseU16_word, parseU16_word, if_neg (by
      rw [Attribute.toNat_len]
      unfold attrHeaderLen at *
      omega), Attribute.toNat_len]
  unfold AttributeWalk.take
  rw [← roundUp_attribute attr aligned]
  unfold Attribute.rangeAt
  cases walk.see attr.id attr.len ⟨walk.attrStart + attrHeaderLen,
      walk.attrStart + attrHeaderLen + attr.value.length⟩ with
  | error failure => rfl
  | ok next => rfl

theorem attrStart_take (taken : walk.take attr = .ok next) :
    next.attrStart = walk.attrStart + attr.bytes.length := by
  unfold AttributeWalk.take at taken
  cases seen : walk.see attr.id attr.len (attr.rangeAt walk.attrStart) with
  | error failure =>
      rw [seen] at taken
      cases taken
  | ok other =>
      rw [seen] at taken
      cases taken
      rfl

theorem toBigEndian_parseU16 {bytes : Bytes} (enough : 2 ≤ bytes.length) :
    toBigEndian 2 (parseU16 bytes).toNat ++ bytes.drop 2 = bytes := by
  have length : (bytes.take 2).length = 2 := by
    rw [List.length_take, Nat.min_eq_left enough]
  have small := fromBigEndian_lt (bytes.take 2)
  rw [length] at small
  have word : (parseU16 bytes).toNat = fromBigEndian (bytes.take 2) := by
    rw [parseU16, show (fromBigEndian (bytes.take 2)).toUInt16.toNat =
      fromBigEndian (bytes.take 2) % 2 ^ 16 from UInt16.toNat_ofNat' ..,
      Nat.mod_eq_of_lt (show _ < 2 ^ 16 from small)]
  have same := toBigEndian_fromBigEndian (bytes.take 2)
  rw [length] at same
  rw [word, same, List.take_append_drop]

theorem parseU16_take {bytes : Bytes} {count : Nat} (enough : 2 ≤ count) :
    parseU16 (bytes.take count) = parseU16 bytes := by
  unfold parseU16
  rw [List.take_take, Nat.min_eq_left enough]

/-- A round that goes on has read the header of an attribute whose value is
inside the packet. -/
theorem attributeRound_again (goesOn : attributeRound packet walk =
    .again next) :
    ∃ (id len : UInt16) (rest : Bytes) (seen : AttributeWalk),
      packet.drop walk.attrStart = toBigEndian 2 id.toNat ++
        (toBigEndian 2 len.toNat ++ rest) ∧
      len.toNat ≤ rest.length ∧
      walk.see id len ⟨walk.attrStart + attrHeaderLen,
        walk.attrStart + attrHeaderLen + len.toNat⟩ = .ok seen ∧
      next = { seen with attrStart := roundUpToMultipleOf 4 <|
        walk.attrStart + attrHeaderLen + len.toNat } := by
  unfold attributeRound at goesOn
  dsimp only at goesOn
  have idTaken : parseU16 ((packet.drop walk.attrStart).take attrHeaderLen) =
      parseU16 (packet.drop walk.attrStart) :=
    parseU16_take (by unfold attrHeaderLen; omega)
  have lenTaken : parseU16 (((packet.drop walk.attrStart).take
      attrHeaderLen).drop 2) =
        parseU16 ((packet.drop walk.attrStart).drop 2) := by
    rw [List.drop_take]
    exact parseU16_take (by unfold attrHeaderLen; omega)
  rw [idTaken, lenTaken] at goesOn
  have length := @List.length_drop _ walk.attrStart packet
  generalize packet.drop walk.attrStart = body at *
  split at goesOn
  · cases goesOn
  · rename_i enough
    split at goesOn
    · cases goesOn
    · rename_i inside
      split at goesOn
      · cases goesOn
      · rename_i seen isSeen
        cases goesOn
        unfold attrHeaderLen at *
        refine ⟨parseU16 body, parseU16 (body.drop 2), (body.drop 2).drop 2,
          seen, ?_, ?_, isSeen, rfl⟩
        · rw [toBigEndian_parseU16, toBigEndian_parseU16]
          · omega
          · rw [List.length_drop]
            omega
        · simp only [List.length_drop]
          omega

theorem attributeRound_leave
    (leaves : attributeRound packet walk = .leave (.ok final)) :
    packet.length < walk.attrStart + 4 ∧ walk = final := by
  unfold attributeRound at leaves
  dsimp only at leaves
  split at leaves
  · rename_i short
    cases leaves
    exact ⟨short, rfl⟩
  · split at leaves
    · cases leaves
    · split at leaves
      · cases leaves
      · cases leaves

/-- Bytes that start with a value and its padding belong to an attribute. -/
theorem exists_attribute (id len : UInt16) {rest : Bytes}
    (padded : roundUpToMultipleOf 4 len.toNat ≤ rest.length) :
    ∃ (attr : Attribute) (tail : Bytes), id = attr.id ∧ len = attr.len ∧
      rest = attr.value ++ (attr.padding ++ tail) := by
  have small := len.toNat_lt
  have further := le_roundUpToMultipleOf_four len.toNat
  have valueLength : (rest.take len.toNat).length = len.toNat := by
    rw [List.length_take]
    omega
  let attr : Attribute := {
    id := id
    value := rest.take len.toNat
    padding := (rest.drop len.toNat).take
      (roundUpToMultipleOf 4 len.toNat - len.toNat)
    short := by omega
    aligned := by
      rw [valueLength, List.length_take, List.length_drop]
      omega }
  refine ⟨attr, (rest.drop len.toNat).drop
    (roundUpToMultipleOf 4 len.toNat - len.toNat), rfl, ?_, ?_⟩
  · apply UInt16.toNat_inj.mp
    rw [Attribute.toNat_len]
    exact valueLength.symm
  · rw [List.take_append_drop, List.take_append_drop]

end Round

/-! ## The whole body -/

/-- The state machine over a list of attributes. -/
def AttributeWalk.takeAll (walk : AttributeWalk) :
    List Attribute → Except ParseError AttributeWalk
  | [] => .ok walk
  | attr :: attrs => do
      let next ← walk.take attr
      next.takeAll attrs

/-- The fingerprint is only seen at the end. -/
def AttributeWalk.Consistent (walk : AttributeWalk) : Prop :=
  walk.fingerprint.isSome = true → walk.parseMode = .done

section Body

variable {packet extra : Bytes} {walk final : AttributeWalk}
  {attrs : List Attribute}

theorem run_leave_of_short (short : packet.length < walk.attrStart + 4) :
    (attributeLoop packet).run walk = .ok walk :=
  EndingLoop.run_leave (if_pos short)

/-- The loop follows the attributes and leaves at the extra bytes. -/
theorem run_attributeBytes (aligned : walk.attrStart % 4 = 0)
    (here : packet.drop walk.attrStart = attributeBytes attrs ++ extra)
    (short : extra.length < 4) :
    (attributeLoop packet).run walk = walk.takeAll attrs := by
  induction attrs generalizing walk with
  | nil =>
      have length := congrArg List.length here
      rw [List.length_drop, attributeBytes_nil, List.nil_append] at length
      exact run_leave_of_short (by omega)
  | cons attr attrs ih =>
      rw [attributeBytes_cons, List.append_assoc] at here
      have round : (attributeLoop packet).body walk = _ :=
        attributeRound_bytes aligned here
      cases taken : walk.take attr with
      | error failure =>
          rw [taken] at round
          rw [EndingLoop.run_leave round, AttributeWalk.takeAll, taken]
          rfl
      | ok next =>
          rw [taken] at round
          have moved := attrStart_take taken
          have bytesAligned := attr.length_bytes_mod
          rw [EndingLoop.run_again round, AttributeWalk.takeAll, taken]
          apply ih
          · omega
          · rw [moved, ← List.drop_drop, here]
            exact List.drop_left' rfl

theorem see_fingerprint {next : AttributeWalk} {id len : UInt16}
    {range : ByteRange} (seen : walk.see id len range = .ok next)
    (consistent : walk.Consistent) :
    next.Consistent ∧
      (next.fingerprint.isSome = true → range.len = fingerprintLen) := by
  unfold AttributeWalk.Consistent at *
  unfold AttributeWalk.see at seen
  cases mode : walk.parseMode with
  | readingAttributes =>
      have absent : walk.fingerprint.isSome = false := by
        cases present : walk.fingerprint.isSome with
        | false => rfl
        | true =>
            have := consistent present
            rw [mode] at this
            cases this
      have unchanged : next.fingerprint = walk.fingerprint := by
        rw [mode] at seen
        dsimp only at seen
        split at seen
        · cases seen
          rfl
        · split at seen
          · cases seen
            rfl
          · split at seen
            · split at seen
              · cases seen
              · cases seen
                rfl
            · split at seen
              · cases seen
              · cases seen
                rfl
      rw [unchanged, absent]
      simp
  | expectFingerprint =>
      rw [mode] at seen
      dsimp only at seen
      split at seen
      · cases seen
      · split at seen
        · cases seen
        · rename_i length
          cases seen
          exact ⟨fun _ => rfl, fun _ => by
            rwa [ne_eq, Decidable.not_not] at length⟩
  | done =>
      rw [mode] at seen
      cases seen

/-- A walk that reaches the fingerprint has followed attributes, with at most
three bytes after them. -/
theorem exists_attributes (aligned : walk.attrStart % 4 = 0)
    (consistent : walk.Consistent)
    (ended : (attributeLoop packet).run walk = .ok final)
    (complete : final.fingerprint.isSome = true) :
    ∃ attrs extra, extra.length < 4 ∧
      packet.drop walk.attrStart = attributeBytes attrs ++ extra ∧
      walk.takeAll attrs = .ok final := by
  revert aligned consistent ended
  refine @EndingLoop.induction _ _ (attributeLoop packet)
    (fun walk => walk.attrStart % 4 = 0 → walk.Consistent →
      (attributeLoop packet).run walk = .ok final →
      ∃ attrs extra, extra.length < 4 ∧
        packet.drop walk.attrStart = attributeBytes attrs ++ extra ∧
        walk.takeAll attrs = .ok final) ?_ ?_ walk
  · intro walk result leaves _ _ ended
    rw [EndingLoop.run_leave leaves] at ended
    rw [ended] at leaves
    have stopped := attributeRound_leave leaves
    refine ⟨[], packet.drop walk.attrStart, ?_, rfl, congrArg _ stopped.2⟩
    rw [List.length_drop]
    omega
  · intro walk next goesOn ih aligned consistent ended
    rw [EndingLoop.run_again goesOn] at ended
    obtain ⟨id, len, rest, seen, here, inside, isSeen, rfl⟩ :=
      attributeRound_again goesOn
    obtain ⟨nextConsistent, lastLength⟩ := see_fingerprint isSeen consistent
    have remaining := congrArg List.length here
    simp only [List.length_drop, List.length_append, length_toBigEndian]
      at remaining
    by_cases padded : roundUpToMultipleOf 4 len.toNat ≤ rest.length
    · obtain ⟨attr, tail, rfl, rfl, rfl⟩ := exists_attribute id len padded
      rw [Attribute.toNat_len] at here isSeen ended ih
      rw [roundUp_attribute attr aligned] at ended ih
      have bytesAligned := attr.length_bytes_mod
      obtain ⟨attrs, extra, short, after, all⟩ := ih
        (by dsimp only; omega) nextConsistent ended
      have body : packet.drop walk.attrStart = attr.bytes ++ tail := by
        rw [here]
        simp [Attribute.bytes]
      have behind : tail = attributeBytes attrs ++ extra := by
        rw [← after, ← List.drop_drop, body]
        exact (List.drop_left' rfl).symm
      refine ⟨attr :: attrs, extra, short, ?_, ?_⟩
      · rw [body, behind, attributeBytes_cons, List.append_assoc]
      · have taken : walk.take attr = .ok { seen with
            attrStart := walk.attrStart + attr.bytes.length } := by
          unfold AttributeWalk.take Attribute.rangeAt
          rw [isSeen]
          rfl
        rw [AttributeWalk.takeAll, taken]
        exact all
    · -- the walk has left the packet, which the fingerprint does not do
      rw [run_leave_of_short (by
        dsimp only
        rw [roundUp_aligned aligned]
        unfold attrHeaderLen
        omega)] at ended
      cases ended
      have four := lastLength complete
      unfold ByteRange.len fingerprintLen at four
      unfold roundUpToMultipleOf at padded
      dsimp only at four
      omega

end Body

end CallingService.Backend.IceLite
