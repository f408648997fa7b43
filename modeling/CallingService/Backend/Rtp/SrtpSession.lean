import CallingService.Backend.Rtp.Receptions
import CallingService.Backend.Rtp.RtxNonces

/-!
# An SRTP session

Two endpoints share the keys of one direction.  The network between them may
drop, repeat, reorder and alter datagrams and make them up, but it does not
forge: what the cipher opens has been sealed by the sender.  Whatever else the
endpoints do, the receiver accepts nothing that was not sent, and nothing
twice.
-/

namespace CallingService.Backend.Rtp

open Foundation

/-! ## What is opened -/

/-- Up to the tag, the accepted packet is what was handed to the cipher. -/
structure Packet.Opens (plain accepted : Packet) (salt : Salt) : Prop where
  ssrc : accepted.ssrcInHeader = plain.ssrcInHeader
  seqnum : accepted.seqnumInHeader % 2 ^ 48 = plain.seqnumInHeader % 2 ^ 48
  parts : ∃ parts tag, plain.prepareForCrypto salt = .ok parts ∧
    accepted.prepareForCrypto salt = .ok { parts with tag }

/-- The cipher opens nothing in the message but what has been sealed with the
same nonce and header. -/
def Unforged (aead : Aead) (keys : KeyAndSalt) (sealed : List Packet)
    (message : Bytes) : Prop :=
  ∀ nonce header ciphertext tag plaintext,
    message = header ++ ciphertext ++ tag →
    aead.decrypt keys.key nonce header ciphertext tag = some plaintext →
    ∃ plain ∈ sealed, ∃ emptyTag, plain.prepareForCrypto keys.salt =
      .ok ⟨nonce, header, plaintext, emptyTag⟩

theorem Packet.nonce_of_prepareForCrypto {packet : Packet} {salt : Salt}
    {parts : Packet.CryptoParts} 
    (prepared : packet.prepareForCrypto salt = .ok parts) :
    parts.nonce = rtpIv packet.ssrcInHeader packet.seqnumInHeader salt := by
  obtain ⟨_, -, returned⟩ := bind_eq_ok_iff.mp prepared
  cases returned
  rfl

/-- The pieces that a packet of a header is split into. -/
def Header.cryptoParts (header : Header) (nonce message : Bytes) :
    Packet.CryptoParts where
  nonce := nonce
  header := message.take header.payloadRange.start
  payload :=
    (message.drop header.payloadRange.start).take header.payloadRange.len
  tag := message.drop header.payloadRange.finish

theorem Header.InBounds.start_add_len {header : Header} {length : Nat}
    (inBounds : header.InBounds length) :
    header.payloadRange.start + header.payloadRange.len =
      header.payloadRange.finish := by
  have ordered := inBounds.payload
  unfold ByteRange.len
  omega

namespace Endpoint

variable {aead : Aead} {recorded : Endpoint × Arrival} {header : Header}
variable {message : Bytes} {now : Instant} {after : Endpoint}
variable {accepted : Packet}

theorem cryptoParts_append (inBounds : header.InBounds message.length)
    (nonce : Bytes) :
    (header.cryptoParts nonce message).header ++
        (header.cryptoParts nonce message).payload ++
          (header.cryptoParts nonce message).tag = message := by
  have finish := inBounds.start_add_len
  unfold Header.cryptoParts
  dsimp only
  rw [List.append_assoc, ← finish, ← List.drop_drop, List.take_append_drop,
    List.take_append_drop]

theorem length_cryptoParts (inBounds : header.InBounds message.length)
    (nonce : Bytes) :
    (header.cryptoParts nonce message).header.length =
        header.payloadRange.start ∧
      (header.cryptoParts nonce message).payload.length =
        header.payloadRange.len := by
  have ordered := inBounds.payload
  have tag := inBounds.tag
  unfold Header.cryptoParts ByteRange.len
  dsimp only
  rw [List.length_take, List.length_take, List.length_drop]
  omega

/-- The pieces of bytes that have been put together again. -/
theorem cryptoParts_of_append {head text tag : Bytes} (nonce : Bytes)
    (inBounds : header.InBounds message.length)
    (headLength : head.length = header.payloadRange.start)
    (textLength : text.length = header.payloadRange.len) :
    header.cryptoParts nonce (head ++ text ++ tag) =
      ⟨nonce, head, text, tag⟩ := by
  have finish := inBounds.start_add_len
  unfold Header.cryptoParts
  congr 1
  · rw [List.append_assoc]
    exact List.take_left' headLength
  · rw [List.append_assoc, List.drop_left' headLength]
    exact List.take_left' textLength
  · apply List.drop_left'
    rw [List.length_append, headLength, textLength, finish]

/-- The pieces of a datagram that has been accepted. -/
theorem opened_of_accepted (inBounds : header.InBounds message.length)
    {salt : Salt} {nonce : Bytes} {parts : Packet.CryptoParts}
    (isSalt : recorded.1.decrypt.rtp.salt = salt)
    (isNonce : rtpIv header.ssrc recorded.2.seqnumInHeader salt = nonce)
    (isParts : header.cryptoParts nonce message = parts)
    (accepts : acceptArrival aead recorded header message now =
      .ok (after, some accepted)) :
    ∃ plaintext, aead.decrypt recorded.1.decrypt.rtp.key nonce parts.header
        parts.payload parts.tag = some plaintext ∧
      accepted.prepareForCrypto salt =
        .ok { parts with payload := plaintext } := by
  subst isSalt isNonce isParts
  obtain ⟨decrypted, opened, same⟩ := acceptArrival_eq_some accepts
  have fields := acceptArrival_fields aead accepts
  have built := incomingPacket_builtFrom header recorded.2 message now
  have prepared :=
    built.prepareForCrypto inBounds recorded.1.decrypt.rtp.salt
  have tagLength := Packet.length_tag built inBounds
  rw [Packet.decryptInPlace_eq rfl prepared tagLength] at opened
  obtain ⟨plaintext, isPlain, isDecrypted⟩ :=
    Option.map_eq_some_iff.mp (Except.ok.inj opened)
  refine ⟨plaintext, isPlain, ?_⟩
  have textLength := aead.decrypt_length isPlain
  have sameLength := Packet.length_sealed built inBounds textLength tagLength
  have serialized : accepted.serialized =
      message.take header.payloadRange.start ++ plaintext ++
        message.drop header.payloadRange.finish := by
    rw [same, ← isDecrypted]
    rfl
  have long : accepted.serialized.length = message.length := by
    rw [serialized]
    exact sameLength
  have range : accepted.payloadRangeInHeader = header.payloadRange := by
    rw [fields]
    rfl
  have sameSsrc : accepted.ssrcInHeader = header.ssrc := by
    rw [fields]
    rfl
  have sameSeqnum : accepted.seqnumInHeader =
      recorded.2.seqnumInHeader := by
    rw [fields]
    rfl
  have whole : accepted.prepareForCrypto recorded.1.decrypt.rtp.salt =
      .ok (header.cryptoParts (rtpIv header.ssrc recorded.2.seqnumInHeader
        recorded.1.decrypt.rtp.salt) accepted.serialized) := by
    have finish := inBounds.start_add_len
    have tag := inBounds.tag
    unfold Packet.prepareForCrypto ensure
    rw [range, sameSsrc, sameSeqnum]
    dsimp only
    rw [finish, if_pos (by omega)]
    rfl
  obtain ⟨headLength, payloadLength⟩ := length_cryptoParts inBounds
    (rtpIv header.ssrc recorded.2.seqnumInHeader recorded.1.decrypt.rtp.salt)
  rw [whole, serialized]
  exact congrArg Except.ok (cryptoParts_of_append _ inBounds headLength
    (textLength.trans payloadLength))

theorem reuse_of_accepted
    (accepts : acceptArrival aead recorded header message now =
      .ok (after, some accepted)) :
    recorded.2.reuse = .notUsedBefore := by
  unfold acceptArrival at accepts
  split at accepts
  · cases accepts
  · cases accepts
  · assumption

/-- Under an unforgeable cipher an accepted packet has been sealed. -/
theorem opens_of_receiveRtp {before : Endpoint} {sealed : List Packet}
    (received : before.receiveRtp aead message now =
      .ok (after, some accepted))
    (unforged : Unforged aead before.decrypt.rtp sealed message) :
    ∃ plain ∈ sealed, plain.Opens accepted before.decrypt.rtp.salt := by
  obtain ⟨-, ⟨⟩⟩ | ⟨header, parse, -, accepts⟩ := receiveRtp_cases received
  have inBounds := Header.inBounds_of_parse parse
  have isSalt : (before.recordArrival header now).1.decrypt.rtp.salt =
      before.decrypt.rtp.salt := by rw [decrypt_recordArrival]
  obtain ⟨plaintext, opened, prepared⟩ :=
    opened_of_accepted inBounds isSalt rfl rfl accepts
  rw [decrypt_recordArrival] at opened
  obtain ⟨plain, member, emptyTag, plainPrepared⟩ := unforged _ _ _ _ _
    (cryptoParts_append inBounds (rtpIv header.ssrc
      (before.recordArrival header now).2.seqnumInHeader
      before.decrypt.rtp.salt)).symm opened
  have plainNonce := Packet.nonce_of_prepareForCrypto plainPrepared
  have acceptedNonce := Packet.nonce_of_prepareForCrypto prepared
  have sameNonce := acceptedNonce.symm.trans plainNonce
  obtain ⟨sameSsrc, sameSeqnum⟩ := rtpIv_eq_iff.mp sameNonce
  exact ⟨plain, member, sameSsrc, sameSeqnum, _, _, plainPrepared, prepared⟩

end Endpoint

theorem not_mem_of_referenceAnswer {seen : Finset Nat} {seqnum : Nat}
    (isNew : referenceAnswer seen seqnum = .notUsedBefore) :
    seqnum ∉ seen := by
  intro member
  unfold referenceAnswer at isNew
  rw [if_pos member] at isNew
  split at isNew
  · cases isNew
  · cases isNew

/-! ## The session -/

/-- The packets that the sender has sealed are kept beside the endpoints. -/
structure Session where
  sender : ReportingEndpoint
  receiver : ReportingEndpoint
  sealed : List Packet

inductive SessionEvent where
  | sender (event : ReportingEvent)
  | receiver (event : ReportingEvent)

inductive SessionStep (profile : BuildProfile) (aead : Aead)
    (smooth : Smoothing) : Session → SessionEvent → Session → Prop where
  | sender {before : Session} {event : ReportingEvent}
      {after : ReportingEndpoint} :
      ReportingStep profile aead smooth before.sender event after →
      SessionStep profile aead smooth before (.sender event)
        { before with
          sender := after
          sealed := before.sealed ++ event.sealed }
  | receiver {before : Session} {event : ReportingEvent}
      {after : ReportingEndpoint} :
      ReportingStep profile aead smooth before.receiver event after →
      (∀ message, event.message? = some message →
        Unforged aead before.receiver.decrypt.rtp before.sealed message) →
      SessionStep profile aead smooth before (.receiver event)
        { before with receiver := after }

/-- What the receiver has returned for each datagram. -/
def receptions (events : List SessionEvent) : List (Option Packet) :=
  events.filterMap fun event => match event with
    | .receiver event => event.reception?
    | .sender _ => none

def acceptedPackets (events : List SessionEvent) : List Packet :=
  (receptions events).filterMap id

theorem receptions_snoc (past : List SessionEvent) (event : SessionEvent) :
    receptions (past ++ [event]) = receptions past ++ receptions [event] :=
  List.filterMap_append

/-- The maximum after a number of datagrams. -/
def seqnumLimit (received : Nat) : Nat := 2 ^ 16 + 2 ^ 15 * received

/-- What holds of the receiver after any part of a session. -/
structure SessionSafe (keys : KeysAndSalts) (past : List SessionEvent)
    (session : Session) : Prop where
  sameKeys : session.receiver.decrypt = keys
  bounded : ∀ ssrc, session.receiver.maxSeqnum ssrc <
    seqnumLimit (receptions past).length
  seen : ∃ seen : Ssrc → Finset Nat,
    (∀ ssrc, (session.receiver.detector ssrc).Represents (seen ssrc)) ∧
    ∀ packet ∈ acceptedPackets past,
      packet.seqnumInHeader ∈ seen packet.ssrcInHeader
  small : ∀ packet ∈ acceptedPackets past,
    packet.seqnumInHeader < seqnumLimit (receptions past).length
  distinct : ((acceptedPackets past).map Packet.numbersInHeader).Nodup

namespace SessionSafe

variable {profile : BuildProfile} {aead : Aead} {smooth : Smoothing}
variable {keys : KeysAndSalts} {past : List SessionEvent}
variable {before after : Session}

theorem start {session : Session} (isKeys : session.receiver.decrypt = keys)
    (fresh : session.receiver.stateByIncomingSsrc = ∅) :
    SessionSafe keys [] session where
  sameKeys := isKeys
  bounded := by
    intro ssrc
    unfold Endpoint.maxSeqnum
    rw [fresh]
    exact Nat.two_pow_pos 16
  seen := by
    refine ⟨fun _ => ∅, ?_, ?_⟩
    · intro ssrc
      unfold Endpoint.detector
      rw [fresh]
      exact SequenceNumberReuseDetector.represents_default
    · intro packet member
      cases member
  small := by
    intro packet member
    cases member
  distinct := List.nodup_nil

/-- A step that receives nothing. -/
theorem quiet {event : SessionEvent} (safe : SessionSafe keys past before)
    (nothing : receptions [event] = [])
    (keeps : Endpoint.KeepsNumbers before.receiver.toEndpoint
      after.receiver.toEndpoint) :
    SessionSafe keys (past ++ [event]) after := by
  have same : receptions (past ++ [event]) = receptions past := by
    rw [receptions_snoc, nothing, List.append_nil]
  have samePackets : acceptedPackets (past ++ [event]) =
      acceptedPackets past := by
    unfold acceptedPackets
    rw [same]
  obtain ⟨seen, represents, remembered⟩ := safe.seen
  refine ⟨keeps.decrypt.trans safe.sameKeys, ?_, ⟨seen, ?_, ?_⟩, ?_, ?_⟩
  · intro ssrc
    rw [same, keeps.maxSeqnum]
    exact safe.bounded ssrc
  · intro ssrc
    rw [keeps.detector]
    exact represents ssrc
  · rw [samePackets]
    exact remembered
  · rw [samePackets, same]
    exact safe.small
  · rw [samePackets]
    exact safe.distinct

/-- One more datagram.  The packet that comes out of it, if there is one, has a
number that has not been seen. -/
theorem snoc {received : Endpoint} {message : Bytes} {result : Option Packet}
    {seen later : Ssrc → Finset Nat} (safe : SessionSafe keys past before)
    (remembered : ∀ packet ∈ acceptedPackets past,
      packet.seqnumInHeader ∈ seen packet.ssrcInHeader)
    (sameKeys : received.decrypt = before.receiver.decrypt)
    (grows : ∀ ssrc, received.maxSeqnum ssrc ≤
      max (before.receiver.maxSeqnum ssrc + 2 ^ 15) (2 ^ 16 - 1))
    (represents : ∀ ssrc, (received.detector ssrc).Represents (later ssrc))
    (more : ∀ ssrc, seen ssrc ⊆ later ssrc)
    (isNew : ∀ packet ∈ result.toList,
      packet.seqnumInHeader ∈ later packet.ssrcInHeader ∧
        packet.seqnumInHeader ∉ seen packet.ssrcInHeader ∧
        packet.seqnumInHeader ≤ received.maxSeqnum packet.ssrcInHeader) :
    SessionSafe keys (past ++ [.receiver (.receives message result)])
      { before with
        receiver := { before.receiver with toEndpoint := received } } := by
  have oneMore : receptions (past ++ [.receiver (.receives message result)]) =
      receptions past ++ [result] := receptions_snoc _ _
  have packets : acceptedPackets (past ++ [.receiver (.receives message
      result)]) = acceptedPackets past ++ result.toList := by
    unfold acceptedPackets
    rw [oneMore, List.filterMap_append]
    cases result with
    | none => rfl
    | some packet => rfl
  have late : ∀ largest next count : Nat,
      next ≤ max (largest + 2 ^ 15) (2 ^ 16 - 1) →
      largest < seqnumLimit count → next < seqnumLimit (count + 1) := by
    unfold seqnumLimit
    omega
  have bounded : ∀ ssrc, received.maxSeqnum ssrc <
      seqnumLimit ((receptions past).length + 1) :=
    fun ssrc => late _ _ _ (grows ssrc) (safe.bounded ssrc)
  refine ⟨sameKeys.trans safe.sameKeys, ?_, ⟨later, represents, ?_⟩, ?_, ?_⟩
  · rw [oneMore, List.length_append]
    exact bounded
  · rw [packets, List.forall_mem_append]
    exact ⟨fun packet old => more _ (remembered packet old),
      fun packet new => (isNew packet new).1⟩
  · rw [packets, oneMore, List.length_append, List.forall_mem_append]
    constructor
    · intro packet old
      exact late _ _ _ (le_max_of_le_left (Nat.le_add_right _ _))
        (safe.small packet old)
    · intro packet new
      exact lt_of_le_of_lt (isNew packet new).2.2 (bounded _)
  · rw [packets, List.map_append, List.nodup_append']
    refine ⟨safe.distinct, ?_, ?_⟩
    · cases result with
      | none => exact List.nodup_nil
      | some packet => exact List.nodup_singleton _
    · intro numbers inOld inNew
      obtain ⟨new, member, rfl⟩ := List.mem_map.mp inNew
      obtain ⟨old, isOld, same⟩ := List.mem_map.mp inOld
      have oldSeen := remembered old isOld
      unfold Packet.numbersInHeader at same
      rw [(Prod.mk.inj same).1, (Prod.mk.inj same).2] at oldSeen
      exact (isNew new member).2.1 oldSeen

/-- One more datagram, whatever becomes of it. -/
theorem receives {received : Endpoint} {message : Bytes} {now : Instant}
    {result : Option Packet} (safe : SessionSafe keys past before)
    (receive : before.receiver.receiveRtp aead message now =
      .ok (received, result)) :
    SessionSafe keys (past ++ [.receiver (.receives message result)])
      { before with
        receiver := { before.receiver with toEndpoint := received } } := by
  obtain ⟨seen, represents, remembered⟩ := safe.seen
  obtain ⟨rfl, rfl⟩ | ⟨header, parse, records, accepts⟩ :=
    Endpoint.receiveRtp_cases receive
  · -- the datagram has no header
    exact safe.snoc remembered rfl
      (fun _ => le_max_of_le_left (Nat.le_add_right _ _)) represents
      (fun _ => subset_rfl) (fun _ member => absurd member List.not_mem_nil)
  · apply safe.snoc remembered records.decrypt records.grows
      (records.represents represents)
      (fun ssrc number old => Endpoint.mem_seenWith.mpr (.inl old))
    intro packet member
    rw [Option.mem_toList] at member
    subst member
    have small : before.receiver.fullSeqnum header < 2 ^ 64 :=
      expandTruncatedCounter_fst_lt (by decide)
    have fields := Endpoint.acceptArrival_fields aead accepts
    have sameSsrc : packet.ssrcInHeader = header.ssrc := by
      rw [fields]
      rfl
    have sameSeqnum : packet.seqnumInHeader =
        before.receiver.fullSeqnum header := by
      rw [fields]
      exact Endpoint.fullSeqnum_recordArrival _ _ _
    have unused := Endpoint.reuse_of_accepted accepts
    rw [Endpoint.reuse_recordArrival,
      ((represents header.ssrc).rememberUsed small).1] at unused
    rw [sameSsrc, sameSeqnum]
    refine ⟨Endpoint.mem_seenWith.mpr (.inr rfl),
      not_mem_of_referenceAnswer unused, ?_⟩
    exact (expandSeqnum_le header.seqnum
      (before.receiver.maxSeqnum header.ssrc)).1.trans records.largest

theorem step {event : SessionEvent} (safe : SessionSafe keys past before)
    (step : SessionStep profile aead smooth before event after) :
    SessionSafe keys (past ++ [event]) after := by
  cases step with
  | sender step =>
      exact safe.quiet rfl (.refl _)
  | @receiver event endpoint step unforged =>
      cases event with
      | receives message result =>
          cases step with
          | receiveRtp received =>
              exact safe.receives received
      | encrypts encryption =>
          exact safe.quiet rfl (step.keepsNumbers rfl)
      | other =>
          exact safe.quiet rfl (step.keepsNumbers rfl)

end SessionSafe

/-! ## Whole sessions -/

/-- The packets of the sender that have been sealed. -/
def sealedPackets (events : List SessionEvent) : List Packet :=
  events.flatMap fun event => match event with
    | .sender event => event.sealed
    | .receiver _ => []

/-- A packet that the receiver accepts has been sealed before. -/
def OpensSealed (salt : Salt) (past : List SessionEvent)
    (event : SessionEvent) : Prop :=
  ∀ message accepted, event = .receiver (.receives message (some accepted)) →
    ∃ plain ∈ sealedPackets past, plain.Opens accepted salt

section Runs

variable {profile : BuildProfile} {aead : Aead} {smooth : Smoothing}
variable {start finish : Session} {events : List SessionEvent}

theorem sealed_of_run
    (run : Run (SessionStep profile aead smooth) start events finish) :
    finish.sealed = start.sealed ++ sealedPackets events := by
  induction run with
  | nil => exact (List.append_nil _).symm
  | @snoc past event before after earlier step ih =>
      have more : sealedPackets (past ++ [event]) =
          sealedPackets past ++ sealedPackets [event] := List.flatMap_append
      rw [more, ← List.append_assoc, ← ih]
      cases step with
      | sender step =>
          change before.sealed ++ _ = before.sealed ++ (_ ++ [])
          rw [List.append_nil]
      | receiver step unforged => exact (List.append_nil _).symm

theorem sessionSafe_of_run {keys : KeysAndSalts}
    (isKeys : start.receiver.decrypt = keys)
    (fresh : start.receiver.stateByIncomingSsrc = ∅)
    (run : Run (SessionStep profile aead smooth) start events finish) :
    SessionSafe keys events finish :=
  run.history_invariant (.start isKeys fresh) fun safe step => safe.step step

theorem opensSealed_of_run
    (isFresh : start.receiver.stateByIncomingSsrc = ∅)
    (nothing : start.sealed = [])
    (run : Run (SessionStep profile aead smooth) start events finish) :
    Throughout (OpensSealed start.receiver.decrypt.rtp.salt) events := by
  intro past event later split message accepted isEvent
  subst isEvent
  rw [split] at run
  obtain ⟨middle, before, after⟩ := run.split
  obtain ⟨next, step, -⟩ := after.head
  have sealed := sealed_of_run before
  have sameKeys := (sessionSafe_of_run rfl isFresh before).sameKeys
  rw [nothing, List.nil_append] at sealed
  cases step with
  | receiver step unforged =>
      cases step with
      | receiveRtp received =>
          have opens := Endpoint.opens_of_receiveRtp received
            (unforged message rfl)
          rw [sealed, sameKeys] at opens
          exact opens

end Runs

/-- Both endpoints as `Endpoint::new` makes them, for the two directions. -/
def Session.new (forward backward : KeysAndSalts) (now : Instant)
    (rtcpSenderSsrc ackSenderSsrc : Ssrc) : Session where
  sender := .new backward forward now rtcpSenderSsrc ackSenderSsrc
  receiver := .new forward backward now rtcpSenderSsrc ackSenderSsrc
  sealed := []

/-- Whatever the network delivers and whatever else the endpoints do, an
accepted packet is one that was sealed before, and no nonce is accepted
twice. -/
theorem session_accepts_sealed_once {profile : BuildProfile} {aead : Aead}
    {smooth : Smoothing} {forward backward : KeysAndSalts} {now : Instant}
    {rtcpSenderSsrc ackSenderSsrc : Ssrc} {finish : Session}
    {events : List SessionEvent}
    (run : Run (SessionStep profile aead smooth)
      (.new forward backward now rtcpSenderSsrc ackSenderSsrc) events finish) :
    Throughout (OpensSealed forward.rtp.salt) events ∧
      ((acceptedPackets events).map Packet.numbersInHeader).Nodup ∧
      ((receptions events).length < 2 ^ 33 - 1 →
        ((acceptedPackets events).map (·.iv forward.rtp.salt)).Nodup) := by
  have safe := sessionSafe_of_run rfl rfl run
  refine ⟨opensSealed_of_run rfl rfl run, safe.distinct, ?_⟩
  intro few
  apply nodup_map_iv forward.rtp.salt safe.distinct
  intro packet member
  have small := safe.small packet member
  have late : ∀ number count : Nat, count < 2 ^ 33 - 1 →
      number < seqnumLimit count → number < 2 ^ 48 := by
    unfold seqnumLimit
    omega
  exact late _ _ few small

/-! ## A retransmission, a replay and a forged tag -/

/-- A cipher of known results opens what has been sealed. -/
theorem unforged_ofVectors {vectors : List GcmVector}
    (lengths : ∀ vector ∈ vectors,
      vector.ciphertext.length = vector.plaintext.length ∧
        vector.tag.length = srtpAuthTagLen)
    (unique : ∀ left ∈ vectors, ∀ right ∈ vectors,
      left.key = right.key ∧ left.nonce = right.nonce ∧
        left.aad = right.aad ∧ left.ciphertext = right.ciphertext ∧
        left.tag = right.tag → left.plaintext = right.plaintext)
    {keys : KeyAndSalt} {sealed : List Packet}
    (known : ∀ vector ∈ vectors, ∃ plain ∈ sealed, ∃ emptyTag,
      plain.prepareForCrypto keys.salt =
        .ok ⟨vector.nonce, vector.aad, vector.plaintext, emptyTag⟩)
    (message : Bytes) :
    Unforged (.ofVectors vectors lengths unique) keys sealed message := by
  intro nonce header ciphertext tag plaintext _ opened
  obtain ⟨vector, found, isPlain⟩ := Option.map_eq_some_iff.mp opened
  have matched := List.find?_some found
  rw [decide_eq_true_iff] at matched
  obtain ⟨-, rfl, rfl, -, -⟩ := matched
  subst isPlain
  exact known vector (List.mem_of_find?_eq_some found)

/-- The datagram of a retransmission, as the sender hands it out. -/
def rtxMessage (seqnum : UInt8) (vector : GcmVector) : Bytes :=
  (rtxSent seqnum (vector.ciphertext ++ vector.tag) true).serialized

/-- The retransmission as the sender hands it to the cipher. -/
def rtxEncryption (seqnum : UInt8) (vector : GcmVector) : Encryption where
  origin := .sendRtp
  outgoing := rtxSent seqnum (vector.plaintext ++ List.replicate 16 0) false
  result := some (rtxSent seqnum (vector.ciphertext ++ vector.tag) true)

/-- What an endpoint does with a datagram, if it does not panic. -/
def afterReceiving (endpoint : Endpoint) (message : Bytes) (now : Instant) :
    Endpoint × Option Packet :=
  (endpoint.receiveRtp rtxAead message now).toOption.getD (endpoint, none)

theorem receiveRtp_afterReceiving {endpoint : Endpoint} {message : Bytes}
    {now : Instant}
    (returns : (endpoint.receiveRtp rtxAead message now).isOk = true) :
    endpoint.receiveRtp rtxAead message now =
      .ok (afterReceiving endpoint message now) := by
  unfold afterReceiving
  cases isResult : endpoint.receiveRtp rtxAead message now with
  | error cause =>
      rw [isResult] at returns
      cases returns
  | ok result => rfl

theorem rtxSealed_known : ∀ vector ∈ rtxVectors,
    ∃ plain ∈ [rtxSent 1 ([0, 7] ++ List.replicate 16 0) false,
      rtxSent 2 ([0, 7] ++ List.replicate 16 0) false],
      ∃ emptyTag, plain.prepareForCrypto zeroKeys.rtp.salt =
        .ok ⟨vector.nonce, vector.aad, vector.plaintext, emptyTag⟩ := by
  intro vector member
  rcases List.mem_cons.mp member with rfl | later
  · exact ⟨_, List.mem_cons_self, List.replicate 16 0, rfl⟩
  · rcases List.mem_singleton.mp later with rfl
    exact ⟨_, List.mem_cons_of_mem _ List.mem_cons_self,
      List.replicate 16 0, rfl⟩

def sessionStart : Session := .new zeroKeys zeroKeys 0 5 1

/-- The first two packets have been sealed. -/
def sessionSent (sender : Endpoint) (vectors : List GcmVector) : Session :=
  { sessionStart with
    sender := { sessionStart.sender with toEndpoint := sender }
    sealed := (vectors.zip [1, 2]).map fun entry =>
      (rtxEncryption entry.2 entry.1).outgoing }

/-- The receiver has read some datagrams. -/
def sessionRead (receiver : Endpoint) : Session :=
  { sessionSent rtxAfterSecond rtxVectors with
    receiver := { sessionStart.receiver with toEndpoint := receiver } }

def secondMessage : Bytes := rtxMessage 2 rtxVectors[1]

/-- The datagram of the first packet with another tag. -/
def alteredMessage : Bytes :=
  rtxMessage 1 { rtxVectors[0] with tag := List.replicate 16 0 }

def readOnce : Endpoint × Option Packet :=
  afterReceiving rtxStart secondMessage 7

def readTwice : Endpoint × Option Packet :=
  afterReceiving readOnce.1 secondMessage 8

theorem sessionRead_receives {smooth : Smoothing} {endpoint : Endpoint}
    {message : Bytes} {now : Instant} (sameKeys : endpoint.decrypt = zeroKeys)
    (returns : (endpoint.receiveRtp rtxAead message now).isOk = true) :
    SessionStep .debug rtxAead smooth (sessionRead endpoint)
      (.receiver (.receives message
        (afterReceiving endpoint message now).2))
      (sessionRead (afterReceiving endpoint message now).1) := by
  refine .receiver (@ReportingStep.receiveRtp _ _ _
    (sessionRead endpoint).receiver _ message now _
    (receiveRtp_afterReceiving returns)) ?_
  intro other _
  change Unforged rtxAead endpoint.decrypt.rtp _ other
  rw [sameKeys]
  exact unforged_ofVectors (by decide) (by decide) rtxSealed_known other

/-- Of two retransmissions the second one arrives first, then once more, and
then the first one with another tag. -/
theorem session_accepts_sealed_once_reordered :
    ∃ events : List SessionEvent,
      (receptions events).map (Option.map Packet.numbersInHeader) =
        [some (3, 2), none, none] ∧
      Throughout (OpensSealed zeroKeys.rtp.salt) events ∧
      ((acceptedPackets events).map Packet.numbersInHeader).Nodup ∧
      ((acceptedPackets events).map (·.iv zeroKeys.rtp.salt)).Nodup := by
  have smooth : Smoothing := fun _ _ newEstimate => newEstimate
  have firstSent : SessionStep .debug rtxAead smooth sessionStart
      (.sender (.encrypts (rtxEncryption 1 rtxVectors[0])))
      (sessionSent rtxAfterFirst [rtxVectors[0]]) :=
    .sender (.encrypts (@EndpointStep.sendRtp rtxAead rtxStart rtxAfterFirst _
      forwardedRtx _ 5 _ rfl rfl))
  have secondSent : SessionStep .debug rtxAead smooth
      (sessionSent rtxAfterFirst [rtxVectors[0]])
      (.sender (.encrypts (rtxEncryption 2 rtxVectors[1])))
      (sessionRead rtxStart) :=
    .sender (.encrypts (@EndpointStep.sendRtp rtxAead rtxAfterFirst
      rtxAfterSecond _ forwardedRtx _ 6 _ rfl rfl))
  have received := @sessionRead_receives smooth rtxStart secondMessage 7 rfl
    rfl
  have replayed := @sessionRead_receives smooth readOnce.1 secondMessage 8
    rfl rfl
  have forged := @sessionRead_receives smooth readTwice.1 alteredMessage 9
    rfl rfl
  have run := Run.snoc (.snoc (.snoc (.snoc (.snoc .nil firstSent) secondSent)
    received) replayed) forged
  obtain ⟨opens, distinct, nonces⟩ := session_accepts_sealed_once run
  exact ⟨_, rfl, opens, distinct, nonces (by decide)⟩

end CallingService.Backend.Rtp
