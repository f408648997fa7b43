import CallingService.Backend.IceLite.Acceptance

/-!
# Requests and responses

The writer of packets patches lengths, HMAC and fingerprint in place.  Its
result is a closed form, which the parser accepts, and which is the same for a
response whether it is created or made of the request.
-/

namespace CallingService.Backend.IceLite

open Foundation Rtp

/-! ## Writing in place -/

theorem copyFromSlice_middle {first old last source : Bytes}
    {range : ByteRange} (starts : first.length = range.start)
    (finishes : range.start + old.length = range.finish)
    (sameLength : source.length = old.length) :
    copyFromSlice (first ++ (old ++ last)) range source =
      .ok (first ++ (source ++ last)) := by
  have total : (first ++ (old ++ last)).length =
      range.finish + last.length := by
    simp only [List.length_append]
    omega
  unfold copyFromSlice ByteRange.len
  rw [if_neg (by omega), if_neg (by omega), List.take_left' starts,
    ← List.append_assoc first old last, List.drop_left' (by
      rw [List.length_append]
      omega), List.append_assoc]

theorem copyFromSlice_ok {target source : Bytes} {range : ByteRange}
    (inside : range.finish ≤ target.length)
    (fits : range.start + source.length = range.finish) :
    ∃ written, copyFromSlice target range source = .ok written ∧
      written.length = target.length := by
  unfold copyFromSlice ByteRange.len
  rw [if_neg (by omega), if_neg (by omega)]
  refine ⟨_, rfl, ?_⟩
  exact length_replaced inside fits

theorem indexRange_start {first last : Bytes} {finish : Nat}
    (finishes : first.length = finish) :
    indexRange (first ++ last) ⟨0, finish⟩ = .ok first := by
  unfold indexRange slice
  rw [if_neg (by simp only [List.length_append]; omega)]
  dsimp only
  rw [List.drop_zero, List.take_left' finishes]

/-! ## Padded attributes -/

/-- An attribute as it is written, with zeros for the padding. -/
def writtenAttribute (id : UInt16) (value : Bytes)
    (short : value.length < 2 ^ 16) : Attribute where
  id := id
  value := value
  padding := List.replicate
    (roundUpToMultipleOf 4 value.length - value.length) 0
  short := short
  aligned := by
    have := le_roundUpToMultipleOf_four value.length
    rw [List.length_replicate]
    omega

theorem writeStunAttribute_eq {id : UInt16} {value : Bytes}
    (short : value.length < 2 ^ 16) :
    writeStunAttribute id value =
      .ok (writtenAttribute id value short).bytes := by
  unfold writeStunAttribute
  rw [ensure_of short]
  simp only [Attribute.bytes, writtenAttribute, List.append_assoc]
  rfl

/-- The head of an attribute whose value has the given length. -/
def attrHeader (id : UInt16) (length : Nat) : Bytes :=
  toBigEndian 2 id.toNat ++ toBigEndian 2 length

theorem writtenAttribute_bytes {id : UInt16} {value : Bytes}
    (short : value.length < 2 ^ 16)
    (aligned : roundUpToMultipleOf 4 value.length = value.length) :
    (writtenAttribute id value short).bytes =
      attrHeader id value.length ++ value := by
  unfold Attribute.bytes writtenAttribute attrHeader
  simp [aligned]

/-! ## The closed form -/

section Written

variable (hashes : IceHashes) (messageType : Bytes)
  (transactionId : TransactionId) (before : Bytes) (pwd : Bytes)

/-- The message with the given contents of the fields that are patched. -/
def patched (length : Nat) (hmac fingerprint : Bytes) : Bytes :=
  messageType ++ (toBigEndian 2 length ++ (transactionId.val ++ (before ++
    (attrHeader AttributeId.messageIntegrity hmacLen ++ (hmac ++
      (attrHeader AttributeId.fingerprint fingerprintLen ++ fingerprint))))))

def writtenHmac : Bytes :=
  hashes.hmac pwd (messageType ++ (toBigEndian 2 (before.length + 24) ++
    (transactionId.val ++ before)))

def fingerprintOf (fingerprinted : Bytes) : Bytes :=
  toBigEndian 4
    (fingerprintXorValue ^^^ hashes.checksum fingerprinted).toNat

def writtenFingerprint : Bytes :=
  fingerprintOf hashes (messageType ++ (toBigEndian 2 (before.length + 32) ++
    (transactionId.val ++ (before ++
      (attrHeader AttributeId.messageIntegrity hmacLen ++
        writtenHmac hashes messageType transactionId before pwd)))))

/-- The message that is written in the end. -/
def written : Bytes :=
  patched messageType transactionId before (before.length + 32)
    (writtenHmac hashes messageType transactionId before pwd)
    (writtenFingerprint hashes messageType transactionId before pwd)

variable {hashes messageType transactionId before pwd}

theorem length_writtenHmac :
    (writtenHmac hashes messageType transactionId before pwd).length = 20 :=
  hashes.hmac_length _ _

theorem length_writtenFingerprint :
    (writtenFingerprint hashes messageType transactionId before pwd).length =
      4 :=
  length_toBigEndian 4 _

variable {length other : Nat} {hmac fingerprint : Bytes}

theorem length_attrHeader (id : UInt16) (length : Nat) :
    (attrHeader id length).length = 4 := by
  simp [attrHeader]

theorem writeLenInHeader_patched (typeLength : messageType.length = 2) :
    writeLenInHeader (patched messageType transactionId before length hmac
        fingerprint) other =
      .ok (patched messageType transactionId before other hmac
        fingerprint) :=
  copyFromSlice_middle typeLength (by simp) (by simp)

theorem writeHmac_patched (typeLength : messageType.length = 2)
    {value : Bytes} (oldLength : hmac.length = 20)
    (newLength : value.length = 20) {range : ByteRange}
    (starts : range.start = 20 + before.length + 4)
    (finishes : range.finish = range.start + 20) :
    copyFromSlice (patched messageType transactionId before length hmac
        fingerprint) range value =
      .ok (patched messageType transactionId before length value
        fingerprint) := by
  have idLength := transactionId.property
  have parts : ∀ hmac, patched messageType transactionId before length hmac
      fingerprint = (messageType ++ (toBigEndian 2 length ++
        (transactionId.val ++ (before ++
          attrHeader AttributeId.messageIntegrity hmacLen)))) ++ (hmac ++
            (attrHeader AttributeId.fingerprint fingerprintLen ++
              fingerprint)) := by
    intro hmac
    simp [patched]
  rw [parts, parts]
  apply copyFromSlice_middle
  · simp only [List.length_append, length_toBigEndian, length_attrHeader]
    omega
  · omega
  · omega

theorem writeFingerprint_patched (typeLength : messageType.length = 2)
    {value : Bytes} (hmacLength : hmac.length = 20)
    (oldLength : fingerprint.length = 4)
    (newLength : value.length = 4) {range : ByteRange}
    (starts : range.start = 20 + before.length + 24 + 4)
    (finishes : range.finish = range.start + 4) :
    copyFromSlice (patched messageType transactionId before length hmac
        fingerprint) range value =
      .ok (patched messageType transactionId before length hmac value) := by
  have idLength := transactionId.property
  have parts : ∀ fingerprint, patched messageType transactionId before length
      hmac fingerprint = (messageType ++ (toBigEndian 2 length ++
        (transactionId.val ++ (before ++
          (attrHeader AttributeId.messageIntegrity hmacLen ++ (hmac ++
            attrHeader AttributeId.fingerprint fingerprintLen)))))) ++
              (fingerprint ++ []) := by
    intro fingerprint
    simp [patched]
  rw [parts, parts]
  apply copyFromSlice_middle
  · simp only [List.length_append, length_toBigEndian, length_attrHeader]
    omega
  · omega
  · omega

theorem indexRange_hmaced (typeLength : messageType.length = 2) {finish : Nat}
    (finishes : finish = 20 + before.length) :
    indexRange (patched messageType transactionId before length hmac
        fingerprint) ⟨0, finish⟩ =
      .ok (messageType ++ (toBigEndian 2 length ++
        (transactionId.val ++ before))) := by
  have idLength := transactionId.property
  have parts : patched messageType transactionId before length hmac
      fingerprint = (messageType ++ (toBigEndian 2 length ++
        (transactionId.val ++ before))) ++
          (attrHeader AttributeId.messageIntegrity hmacLen ++ (hmac ++
            (attrHeader AttributeId.fingerprint fingerprintLen ++
              fingerprint))) := by
    simp [patched]
  rw [parts]
  apply indexRange_start
  simp only [List.length_append, length_toBigEndian]
  omega

theorem indexRange_fingerprinted (typeLength : messageType.length = 2)
    (hmacLength : hmac.length = 20) {finish : Nat}
    (finishes : finish = 20 + before.length + 24) :
    indexRange (patched messageType transactionId before length hmac
        fingerprint) ⟨0, finish⟩ =
      .ok (messageType ++ (toBigEndian 2 length ++ (transactionId.val ++
        (before ++ (attrHeader AttributeId.messageIntegrity hmacLen ++
          hmac))))) := by
  have idLength := transactionId.property
  have parts : patched messageType transactionId before length hmac
      fingerprint = (messageType ++ (toBigEndian 2 length ++
        (transactionId.val ++ (before ++
          (attrHeader AttributeId.messageIntegrity hmacLen ++ hmac))))) ++
            (attrHeader AttributeId.fingerprint fingerprintLen ++
              fingerprint) := by
    simp [patched]
  rw [parts]
  apply indexRange_start
  simp only [List.length_append, length_toBigEndian, length_attrHeader]
  omega

end Written

/-! ## Creating a packet -/

/-- The attributes before the HMAC. -/
def requestAttributes (username : Bytes) (short : username.length < 2 ^ 16)
    (nominated : Bool) : List Attribute :=
  writtenAttribute AttributeId.username username short ::
    if nominated then [writtenAttribute AttributeId.nomination [] (by decide)]
    else []

theorem writeNomination_eq (nominated : Bool) :
    writeNomination nominated =
      .ok (attributeBytes (if nominated then
        [writtenAttribute AttributeId.nomination [] (by decide)]
          else [])) := by
  unfold writeNomination
  cases nominated with
  | true =>
      rw [if_pos rfl, if_pos rfl, writeStunAttribute_eq (by decide),
        attributeBytes_cons, attributeBytes_nil, List.append_nil]
  | false => rfl

theorem writeDummyHmac :
    writeStunAttribute AttributeId.messageIntegrity
        (List.replicate hmacLen 0) =
      .ok (attrHeader AttributeId.messageIntegrity hmacLen ++
        List.replicate hmacLen 0) := by
  decide

theorem writeDummyFingerprint :
    writeStunAttribute AttributeId.fingerprint (toBigEndian 4 0) =
      .ok (attrHeader AttributeId.fingerprint fingerprintLen ++
        toBigEndian 4 0) := by
  decide

theorem finishPacket_eq (hashes : IceHashes) {messageType : Bytes}
    (typeLength : messageType.length = 2) (transactionId : TransactionId)
    (before pwd : Bytes) :
    finishPacket hashes messageType transactionId before pwd =
      .ok (written hashes messageType transactionId before pwd) := by
  have idLength := transactionId.property
  have dummyHmacLength : (attrHeader AttributeId.messageIntegrity hmacLen ++
      List.replicate hmacLen 0).length = 24 := rfl
  have dummyFingerprintLength : (attrHeader AttributeId.fingerprint
      fingerprintLen ++ toBigEndian 4 0).length = 8 := by
    decide
  have dummy : ∀ length, messageType ++ toBigEndian 2 length ++
      transactionId.val ++ (before ++
        (attrHeader AttributeId.messageIntegrity hmacLen ++
          List.replicate hmacLen 0) ++
        (attrHeader AttributeId.fingerprint fingerprintLen ++
          toBigEndian 4 0)) =
      patched messageType transactionId before length
        (List.replicate hmacLen 0) (toBigEndian 4 0) := by
    intro length
    simp [patched]
  have headerLength : ∀ length, (messageType ++ toBigEndian 2 length ++
      transactionId.val).length = 20 := by
    intro length
    simp only [List.length_append, length_toBigEndian]
    omega
  unfold finishPacket
  rw [writeDummyHmac, ok_bind, writeDummyFingerprint, ok_bind]
  dsimp only
  rw [dummy, headerLength, List.length_append, List.length_append,
    dummyHmacLength, dummyFingerprintLength,
    writeLenInHeader_patched typeLength, ok_bind,
    indexRange_hmaced typeLength rfl, ok_bind]
  have authenticated := @writeHmac_patched messageType transactionId before
    (before.length + 24) (List.replicate hmacLen 0) (toBigEndian 4 0)
    typeLength (writtenHmac hashes messageType transactionId before pwd)
    rfl length_writtenHmac ⟨20 + before.length + 4, 20 + before.length + 4 +
      (writtenHmac hashes messageType transactionId before pwd).length⟩ rfl
    (by dsimp only; rw [length_writtenHmac])
  have fingerprinted := @writeFingerprint_patched messageType transactionId
    before (before.length + 24 + 8)
    (writtenHmac hashes messageType transactionId before pwd)
    (toBigEndian 4 0) typeLength
    (writtenFingerprint hashes messageType transactionId before pwd)
    length_writtenHmac rfl length_writtenFingerprint
    ⟨20 + (before.length + 24) + 4, 20 + (before.length + 24) + 4 +
      (writtenFingerprint hashes messageType transactionId before
        pwd).length⟩ (by dsimp only; omega)
    (by dsimp only; rw [length_writtenFingerprint])
  unfold writeValueInAttr attrHeaderLen
  dsimp only
  unfold writtenHmac at authenticated
  rw [authenticated, ok_bind, writeLenInHeader_patched typeLength, ok_bind,
    indexRange_fingerprinted typeLength (hashes.hmac_length _ _)
      (by omega), ok_bind]
  exact fingerprinted

/-- What `create_packet` writes. -/
theorem createPacket_eq (hashes : IceHashes) {messageType : Bytes}
    (typeLength : messageType.length = 2) (transactionId : TransactionId)
    {username : Bytes} (short : username.length < 2 ^ 16) (pwd : Bytes)
    (nominated : Bool) :
    createPacket hashes messageType transactionId username pwd nominated =
      .ok (written hashes messageType transactionId
        (attributeBytes (requestAttributes username short nominated))
        pwd) := by
  unfold createPacket
  rw [writeStunAttribute_eq short, ok_bind, writeNomination_eq, ok_bind,
    finishPacket_eq hashes typeLength]
  rfl

/-! ## The written message is accepted -/

section Layout

variable (hashes : IceHashes) (messageType : Bytes)
  (typeLength : messageType.length = 2) (transactionId : TransactionId)
  (before : List Attribute) (plain : ∀ attr ∈ before, attr.Plain)
  (pwd : Bytes)

def writtenIntegrity : Attribute :=
  writtenAttribute AttributeId.messageIntegrity
    (writtenHmac hashes messageType transactionId (attributeBytes before) pwd)
    (by
      rw [length_writtenHmac]
      decide)

def writtenFingerprintAttribute : Attribute :=
  writtenAttribute AttributeId.fingerprint
    (writtenFingerprint hashes messageType transactionId
      (attributeBytes before) pwd)
    (by
      rw [length_writtenFingerprint]
      decide)

/-- The layout of a written message. -/
def writtenLayout : Layout where
  header := messageType ++ (toBigEndian 2
    ((attributeBytes before).length + 32) ++ transactionId.val)
  before := before
  integrity := writtenIntegrity hashes messageType transactionId before pwd
  fingerprint :=
    writtenFingerprintAttribute hashes messageType transactionId before pwd
  extra := []
  header_length := by
    have idLength := transactionId.property
    simp only [List.length_append, length_toBigEndian]
    unfold headerLen
    omega
  before_plain := plain
  integrity_id := rfl
  integrity_length := length_writtenHmac
  fingerprint_id := rfl
  fingerprint_length := length_writtenFingerprint
  extra_short := by decide

end Layout

section Accepted

variable {hashes : IceHashes} {messageType : Bytes}
  {typeLength : messageType.length = 2} {transactionId : TransactionId}
  {before : List Attribute} {plain : ∀ attr ∈ before, attr.Plain}
  {pwd : Bytes}

theorem writtenLayout_bytes :
    (writtenLayout hashes messageType typeLength transactionId before plain
      pwd).bytes =
      written hashes messageType transactionId (attributeBytes before) pwd := by
  have integrity : (writtenIntegrity hashes messageType transactionId before
      pwd).bytes = attrHeader AttributeId.messageIntegrity hmacLen ++
        writtenHmac hashes messageType transactionId (attributeBytes before)
          pwd := by
    unfold writtenIntegrity
    rw [writtenAttribute_bytes _ (by rw [length_writtenHmac]; rfl),
      length_writtenHmac]
    rfl
  have fingerprint : (writtenFingerprintAttribute hashes messageType
      transactionId before pwd).bytes =
        attrHeader AttributeId.fingerprint fingerprintLen ++
          writtenFingerprint hashes messageType transactionId
            (attributeBytes before) pwd := by
    unfold writtenFingerprintAttribute
    rw [writtenAttribute_bytes _ (by rw [length_writtenFingerprint]; rfl),
      length_writtenFingerprint]
    rfl
  rw [Layout.bytes_eq]
  unfold writtenLayout written patched
  dsimp only
  rw [integrity, fingerprint]
  simp

/-- The declared length fits its field. -/
theorem writtenLayout_declared
    (small : (attributeBytes before).length + 32 < 2 ^ 16) :
    (writtenLayout hashes messageType typeLength transactionId before plain
      pwd).Declared := by
  have total : (writtenLayout hashes messageType typeLength transactionId
      before plain pwd).bytes.length - headerLen =
        (attributeBytes before).length + 32 := by
    have idLength := transactionId.property
    rw [writtenLayout_bytes]
    unfold written patched headerLen
    simp only [List.length_append, length_toBigEndian, length_attrHeader,
      length_writtenHmac, length_writtenFingerprint]
    omega
  unfold Layout.Declared
  rw [total]
  unfold writtenLayout parseU16
  dsimp only
  rw [List.drop_left' typeLength, List.take_left' (length_toBigEndian 2 _),
    fromBigEndian_toBigEndian, Nat.mod_eq_of_lt (show _ < 256 ^ 2 from small),
    show ((attributeBytes before).length + 32).toUInt16.toNat =
      ((attributeBytes before).length + 32) % 2 ^ 16 from
        UInt16.toNat_ofNat' .., Nat.mod_eq_of_lt small]

end Accepted

namespace Layout

variable (layout : Layout) (username : ByteRange)

/-- The HMAC and the fingerprint have fixed lengths. -/
theorem ranges_hmac : (layout.ranges username).hmac =
    ⟨layout.hmacStart + 4, layout.hmacStart + 4 + 20⟩ := by
  unfold ranges Attribute.rangeAt
  rw [layout.integrity_length]
  rfl

theorem ranges_fingerprint : (layout.ranges username).fingerprint =
    ⟨layout.hmacStart + 24 + 4, layout.hmacStart + 24 + 4 + 4⟩ := by
  unfold ranges Attribute.rangeAt
  rw [layout.fingerprint_length, Attribute.length_bytes,
    layout.integrity_length]
  rfl

theorem hmac_request :
    (layout.request username).hmac = .ok layout.integrity.value := by
  have start : (layout.header ++ attributeBytes layout.before).length =
      layout.hmacStart := by
    rw [List.length_append, layout.header_length]
    rfl
  have content := @indexRange_rangeAt
    (layout.header ++ attributeBytes layout.before)
    (layout.fingerprint.bytes ++ layout.extra) layout.integrity
  rw [start, List.append_assoc, ← layout.bytes_eq] at content
  exact content

theorem verifyHmac_request (hashes : IceHashes) (pwd : Bytes) :
    (layout.request username).verifyHmac hashes pwd =
      .ok (decide (hashes.hmac pwd (layout.header.take 2 ++
        toBigEndian 2 (layout.hmacStart + attrHeaderLen +
          layout.integrity.value.length - headerLen) ++
        (layout.header.drop 4 ++ attributeBytes layout.before)) =
          layout.integrity.value)) := by
  have verify : (layout.request username).verifyHmac hashes pwd =
      (hmacInput layout.bytes (layout.ranges username) >>= fun input =>
        pure (hashes.hmac pwd input)) >>= fun computed =>
          (layout.request username).hmac >>= fun hmac =>
            pure (decide (computed = hmac)) := rfl
  rw [verify, layout.hmacInput_bytes, layout.hmac_request]
  rfl

end Layout

section Verified

variable {hashes : IceHashes} {messageType : Bytes}
  {typeLength : messageType.length = 2} {transactionId : TransactionId}
  {before : List Attribute} {plain : ∀ attr ∈ before, attr.Plain}
  {pwd : Bytes}

theorem verifyHmac_written (username : ByteRange) :
    ((writtenLayout hashes messageType typeLength transactionId before plain
      pwd).request username).verifyHmac hashes pwd = .ok true := by
  have covered : (headerLen + (attributeBytes before).length + attrHeaderLen +
      (writtenHmac hashes messageType transactionId (attributeBytes before)
        pwd).length - headerLen) = (attributeBytes before).length + 24 := by
    rw [length_writtenHmac]
    unfold headerLen attrHeaderLen
    omega
  have typePart : (messageType ++ (toBigEndian 2
      ((attributeBytes before).length + 32) ++ transactionId.val)).take 2 =
        messageType := List.take_left' typeLength
  have idPart : (messageType ++ (toBigEndian 2
      ((attributeBytes before).length + 32) ++ transactionId.val)).drop 4 =
        transactionId.val := by
    rw [← List.append_assoc]
    exact List.drop_left' (by
      rw [List.length_append, length_toBigEndian, typeLength])
  have same : hashes.hmac pwd ((messageType ++ (toBigEndian 2
      ((attributeBytes before).length + 32) ++ transactionId.val)).take 2 ++
        toBigEndian 2 (headerLen + (attributeBytes before).length +
          attrHeaderLen + (writtenHmac hashes messageType transactionId
            (attributeBytes before) pwd).length - headerLen) ++
        ((messageType ++ (toBigEndian 2 ((attributeBytes before).length + 32)
          ++ transactionId.val)).drop 4 ++ attributeBytes before)) =
      writtenHmac hashes messageType transactionId (attributeBytes before)
        pwd := by
    rw [typePart, idPart, covered, List.append_assoc]
    rfl
  rw [Layout.verifyHmac_request]
  exact congrArg Except.ok (decide_eq_true same)

end Verified

/-! ## The response -/

section Response

variable {hashes : IceHashes} {messageType : Bytes}
  {transactionId : TransactionId} {before pwd : Bytes}

theorem hmacInput_patched (typeLength : messageType.length = 2)
    {length : Nat} {hmac fingerprint : Bytes}
    {ranges : BindingRequestRanges}
    (starts : ranges.hmac.start = 20 + before.length + 4)
    (finishes : ranges.hmac.finish = ranges.hmac.start + 20) :
    hmacInput (patched messageType transactionId before length hmac
        fingerprint) ranges =
      .ok (messageType ++ (toBigEndian 2 (before.length + 24) ++
        (transactionId.val ++ before))) := by
  have idLength := transactionId.property
  have parts : patched messageType transactionId before length hmac
      fingerprint = (messageType ++ toBigEndian 2 length) ++
        ((transactionId.val ++ before) ++
          (attrHeader AttributeId.messageIntegrity hmacLen ++ (hmac ++
            (attrHeader AttributeId.fingerprint fingerprintLen ++
              fingerprint)))) := by
    simp [patched]
  have rest : indexRange (patched messageType transactionId before length hmac
      fingerprint) ⟨4, ranges.hmac.start - attrHeaderLen⟩ =
        .ok (transactionId.val ++ before) := by
    unfold indexRange attrHeaderLen
    dsimp only
    rw [parts, if_neg (by
      simp only [List.length_append, length_toBigEndian]
      omega)]
    congr 1
    apply slice_middle
    · rw [List.length_append, length_toBigEndian, typeLength]
    · rw [List.length_append]
      omega
  have declared : ranges.hmac.finish - headerLen = before.length + 24 := by
    unfold headerLen
    omega
  have typePart : indexRange (patched messageType transactionId before length
      hmac fingerprint) ⟨0, 2⟩ = .ok messageType := indexRange_start typeLength
  unfold hmacInput
  rw [typePart, ok_bind, rest, ok_bind, declared, List.append_assoc]
  rfl

/-- The HMAC and the fingerprint of a message are computed anew. -/
theorem recalculate_patched (typeLength : messageType.length = 2)
    {hmac fingerprint : Bytes} {ranges : BindingRequestRanges}
    (hmacLength : hmac.length = 20) (fingerprintLength : fingerprint.length = 4)
    (starts : ranges.hmac.start = 20 + before.length + 4)
    (finishes : ranges.hmac.finish = ranges.hmac.start + 20)
    (fingerprintStarts : ranges.fingerprint.start =
      20 + before.length + 24 + 4)
    (fingerprintFinishes : ranges.fingerprint.finish =
      ranges.fingerprint.start + 4) :
    BindingRequest.recalculateHmacAndFingerprintOfPacket hashes
        (patched messageType transactionId before (before.length + 32) hmac
          fingerprint) ranges pwd =
      .ok (written hashes messageType transactionId before pwd) := by
  have fingerprinted := @writeFingerprint_patched messageType transactionId
    before (before.length + 32)
    (writtenHmac hashes messageType transactionId before pwd) fingerprint
    typeLength (writtenFingerprint hashes messageType transactionId before pwd)
    length_writtenHmac fingerprintLength length_writtenFingerprint
    ranges.fingerprint fingerprintStarts fingerprintFinishes
  unfold BindingRequest.recalculateHmacAndFingerprintOfPacket calculateHmac
  rw [hmacInput_patched typeLength starts finishes, ok_bind]
  rw [show (pure (hashes.hmac pwd (messageType ++
    (toBigEndian 2 (before.length + 24) ++ (transactionId.val ++ before)))) :
      Except Panic Bytes) = .ok (writtenHmac hashes messageType transactionId
        before pwd) from rfl, ok_bind,
    writeHmac_patched typeLength hmacLength length_writtenHmac starts
      finishes, ok_bind,
    indexRange_fingerprinted typeLength length_writtenHmac
      (by unfold attrHeaderLen; omega), ok_bind]
  exact fingerprinted

end Response

section Created

variable {username : Bytes} {short : username.length < 2 ^ 16}
  {nominated : Bool}

/-- What follows the username in the attributes that the HMAC covers. -/
def afterUsername (length : Nat) (nominated : Bool) : Bytes :=
  List.replicate (roundUpToMultipleOf 4 length - length) 0 ++
    attributeBytes (if nominated then
      [writtenAttribute AttributeId.nomination [] (by decide)] else [])

theorem attributeBytes_requestAttributes :
    attributeBytes (requestAttributes username short nominated) =
      attrHeader AttributeId.username username.length ++
        (username ++ afterUsername username.length nominated) := by
  unfold requestAttributes afterUsername attrHeader
  rw [attributeBytes_cons, Attribute.bytes]
  unfold writtenAttribute
  dsimp only
  simp only [List.append_assoc]

theorem length_nomination_le (nominated : Bool) :
    (attributeBytes (if nominated then
      [writtenAttribute AttributeId.nomination [] (by decide)]
        else [])).length ≤ 4 := by
  cases nominated with
  | true => decide
  | false => decide

theorem length_requestAttributes :
    (attributeBytes (requestAttributes username short nominated)).length ≤
      username.length + 15 := by
  have nomination := length_nomination_le nominated
  rw [attributeBytes_requestAttributes]
  unfold afterUsername roundUpToMultipleOf
  simp only [List.length_append, List.length_replicate, length_attrHeader]
  omega

theorem requestAttributes_plain :
    ∀ attr ∈ requestAttributes username short nominated, attr.Plain := by
  intro attr member
  have ids : attr.id = AttributeId.username ∨
      attr.id = AttributeId.nomination := by
    unfold requestAttributes at member
    rcases List.mem_cons.mp member with rfl | isNomination
    · exact .inl rfl
    · cases nominated with
      | true =>
          rw [List.mem_singleton.mp isNomination]
          exact .inr rfl
      | false => cases isNomination
  unfold Attribute.Plain
  rcases ids with isUsername | isNomination
  · rw [isUsername]
    decide
  · rw [isNomination]
    decide

theorem lastRange_requestAttributes :
    lastRange AttributeId.username headerLen
        (requestAttributes username short nominated) =
      some ⟨24, 24 + username.length⟩ := by
  unfold requestAttributes
  cases nominated with
  | true => rfl
  | false => rfl

theorem lastValue_username :
    lastValue AttributeId.username
        (requestAttributes username short nominated) = some username := by
  unfold requestAttributes
  cases nominated with
  | true => rfl
  | false => rfl

theorem lastValue_nomination :
    (lastValue AttributeId.nomination
      (requestAttributes username short nominated)).isSome = nominated := by
  unfold requestAttributes
  cases nominated with
  | true => rfl
  | false => rfl

/-- The layout of a request that has been created. -/
def createdLayout (hashes : IceHashes) (transactionId : TransactionId)
    (username : Bytes) (short : username.length < 2 ^ 16) (pwd : Bytes)
    (nominated : Bool) : Layout :=
  writtenLayout hashes bindingRequestId rfl transactionId
    (requestAttributes username short nominated) requestAttributes_plain pwd

def createdRequest (hashes : IceHashes) (transactionId : TransactionId)
    (username : Bytes) (short : username.length < 2 ^ 16) (pwd : Bytes)
    (nominated : Bool) : BindingRequest :=
  (createdLayout hashes transactionId username short pwd nominated).request
    ⟨24, 24 + username.length⟩

variable {hashes : IceHashes} {transactionId : TransactionId} {pwd : Bytes}

theorem parse_created (small : username.length < 65000) :
    BindingRequest.parse
        (createdLayout hashes transactionId username short pwd
          nominated).bytes =
      .ok (createdRequest hashes transactionId username short pwd
        nominated) := by
  have total := @length_requestAttributes username short nominated
  apply Layout.parse_bytes
  · exact writtenLayout_declared (by omega)
  · exact lastRange_requestAttributes

theorem writeUsername_patched {responseUsername tail : Bytes} {length : Nat}
    {hmac fingerprint : Bytes}
    (sameLength : responseUsername.length = username.length) :
    copyFromSlice (patched bindingResponseId transactionId
        (attrHeader AttributeId.username username.length ++
          (username ++ tail)) length hmac fingerprint)
        ⟨24, 24 + username.length⟩ responseUsername =
      .ok (patched bindingResponseId transactionId
        (attrHeader AttributeId.username responseUsername.length ++
          (responseUsername ++ tail)) length hmac fingerprint) := by
  have idLength := transactionId.property
  have parts : ∀ username, patched bindingResponseId transactionId
      (attrHeader AttributeId.username responseUsername.length ++
        (username ++ tail)) length hmac fingerprint =
      (bindingResponseId ++ (toBigEndian 2 length ++ (transactionId.val ++
        attrHeader AttributeId.username responseUsername.length))) ++
          (username ++ (tail ++
            (attrHeader AttributeId.messageIntegrity hmacLen ++ (hmac ++
              (attrHeader AttributeId.fingerprint fingerprintLen ++
                fingerprint))))) := by
    intro username
    simp [patched]
  rw [← sameLength, parts, parts]
  apply copyFromSlice_middle
  · simp only [List.length_append, length_toBigEndian, length_attrHeader,
      idLength]
    rfl
  · rw [sameLength]
  · exact sameLength

/-- The response that is made of the request is the one that is created. -/
theorem toBindingResponse_created {responseUsername : Bytes}
    (sameLength : responseUsername.length = username.length)
    (responsePwd : Bytes) :
    (createdRequest hashes transactionId username short pwd
        nominated).toBindingResponse hashes responseUsername responsePwd =
      createBindingResponsePacket hashes transactionId responseUsername
        responsePwd nominated := by
  have responseShort : responseUsername.length < 2 ^ 16 := by omega
  have packet : (createdRequest hashes transactionId username short pwd
      nominated).packet = _ := writtenLayout_bytes
  unfold createBindingResponsePacket
  rw [createPacket_eq hashes rfl transactionId responseShort]
  unfold BindingRequest.toBindingResponse
  rw [packet]
  unfold written
  have typed : ∀ before length hmac fingerprint,
      copyFromSlice (patched bindingRequestId transactionId before length hmac
        fingerprint) ⟨0, 2⟩ bindingResponseId =
      .ok (patched bindingResponseId transactionId before length hmac
        fingerprint) := by
    intro before length hmac fingerprint
    exact @copyFromSlice_middle [] bindingRequestId _ bindingResponseId _
      rfl rfl rfl
  have response : attributeBytes (requestAttributes responseUsername
      responseShort nominated) =
      attrHeader AttributeId.username responseUsername.length ++
        (responseUsername ++ afterUsername username.length nominated) := by
    rw [attributeBytes_requestAttributes, sameLength]
  have sameTotal : (attributeBytes (requestAttributes username short
      nominated)).length =
        (attrHeader AttributeId.username responseUsername.length ++
          (responseUsername ++
            afterUsername username.length nominated)).length := by
    rw [attributeBytes_requestAttributes]
    simp only [List.length_append, length_attrHeader, sameLength]
  rw [typed, ok_bind, sameTotal, response, attributeBytes_requestAttributes]
  have usernameRange : (createdRequest hashes transactionId username short pwd
      nominated).ranges.username = ⟨24, 24 + username.length⟩ := rfl
  have hmacStart : (createdLayout hashes transactionId username short pwd
      nominated).hmacStart = 20 +
        (attrHeader AttributeId.username responseUsername.length ++
          (responseUsername ++
            afterUsername username.length nominated)).length := by
    rw [← sameTotal]
    rfl
  have hmac := (createdLayout hashes transactionId username short pwd
    nominated).ranges_hmac ⟨24, 24 + username.length⟩
  have fingerprint := (createdLayout hashes transactionId username short pwd
    nominated).ranges_fingerprint ⟨24, 24 + username.length⟩
  rw [hmacStart] at hmac fingerprint
  rw [usernameRange, writeUsername_patched sameLength, ok_bind]
  apply recalculate_patched rfl length_writtenHmac length_writtenFingerprint
  · exact congrArg ByteRange.start hmac
  · exact congrArg (fun range => range.finish) hmac |>.trans
      (congrArg (fun range => range.start + 20) hmac).symm
  · exact congrArg ByteRange.start fingerprint
  · exact congrArg (fun range => range.finish) fingerprint |>.trans
      (congrArg (fun range => range.start + 4) fingerprint).symm

end Created

end CallingService.Backend.IceLite
