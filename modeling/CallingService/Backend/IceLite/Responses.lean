import CallingService.Backend.ConnectionRun
import CallingService.Backend.IceLite.RoundTrip
import CallingService.Backend.Sfu

/-!
# Responses of a connection

A connection answers the requests that it accepts.  Its two usernames have the
same length, so that the response fits the request.
-/

namespace CallingService.Backend.IceLite

open Foundation Rtp

/-! ## The copies into a response -/

theorem indexRange_ok {packet : Bytes} {range : ByteRange}
    (ordered : range.start ≤ range.finish)
    (inside : range.finish ≤ packet.length) :
    ∃ bytes, indexRange packet range = .ok bytes := by
  unfold indexRange
  rw [if_neg (by omega)]
  exact ⟨_, rfl⟩

theorem indexRange_eq_ok {packet bytes : Bytes} {range : ByteRange}
    (indexed : indexRange packet range = .ok bytes) :
    range.finish ≤ packet.length ∧
      bytes = slice range.start range.finish packet ∧
      range.start + bytes.length = range.finish := by
  unfold indexRange at indexed
  split at indexed
  · cases indexed
  · cases indexed
    rw [length_slice_of_le (by omega)]
    exact ⟨by omega, rfl, by omega⟩

/-- The HMAC and the fingerprint of a message that is long enough can be
written. -/
theorem exists_recalculate (hashes : IceHashes) {packet : Bytes}
    {ranges : BindingRequestRanges} {hmacStart : Nat}
    (hmac : ranges.hmac = ⟨hmacStart + 4, hmacStart + 4 + 20⟩)
    (fingerprint : ranges.fingerprint =
      ⟨hmacStart + 24 + 4, hmacStart + 24 + 4 + 4⟩)
    (inside : hmacStart + 32 ≤ packet.length) (least : 4 ≤ hmacStart)
    (pwd : Bytes) :
    ∃ response, BindingRequest.recalculateHmacAndFingerprintOfPacket hashes
      packet ranges pwd = .ok response := by
  obtain ⟨messageType, hasType⟩ := @indexRange_ok packet ⟨0, 2⟩
    (by decide) (by dsimp only; omega)
  obtain ⟨rest, hasRest⟩ := @indexRange_ok packet
    ⟨4, ranges.hmac.start - attrHeaderLen⟩
    (by rw [hmac]; unfold attrHeaderLen; dsimp only; omega)
    (by rw [hmac]; unfold attrHeaderLen; dsimp only; omega)
  have input : hmacInput packet ranges = .ok (messageType ++
      toBigEndian 2 (ranges.hmac.finish - headerLen) ++ rest) := by
    unfold hmacInput
    rw [hasType, ok_bind, hasRest]
    rfl
  obtain ⟨authenticated, isAuthenticated, length⟩ := @copyFromSlice_ok packet
    (hashes.hmac pwd (messageType ++
      toBigEndian 2 (ranges.hmac.finish - headerLen) ++ rest)) ranges.hmac
    (by rw [hmac]; dsimp only; omega)
    (by rw [hmac, hashes.hmac_length])
  obtain ⟨fingerprinted, isFingerprinted⟩ := @indexRange_ok authenticated
    ⟨0, ranges.fingerprint.start - attrHeaderLen⟩ (Nat.zero_le _)
    (by rw [fingerprint, length]; unfold attrHeaderLen; dsimp only; omega)
  obtain ⟨response, isResponse, -⟩ := @copyFromSlice_ok authenticated
    (toBigEndian 4
      (fingerprintXorValue ^^^ hashes.checksum fingerprinted).toNat)
    ranges.fingerprint
    (by rw [fingerprint, length]; dsimp only; omega)
    (by rw [fingerprint, length_toBigEndian])
  refine ⟨response, ?_⟩
  unfold BindingRequest.recalculateHmacAndFingerprintOfPacket calculateHmac
  rw [input, ok_bind, show (pure (hashes.hmac pwd _) : Except Panic Bytes) =
    .ok (hashes.hmac pwd _) from rfl, ok_bind, isAuthenticated, ok_bind,
    isFingerprinted, ok_bind, isResponse]

/-- The request as a connection sees it. -/
def BindingRequest.view (hashes : IceHashes) (request : BindingRequest) :
    Backend.BindingRequest where
  username := slice request.ranges.username.start
    request.ranges.username.finish request.packet
  hmac := slice request.ranges.hmac.start request.ranges.hmac.finish
    request.packet
  nominated := request.nominated
  verifyHmac := fun pwd => request.verifyHmac hashes pwd = .ok true

/-- The copies into the response of an accepted request do not panic, if the
response has a username of the same length. -/
theorem exists_toBindingResponse (hashes : IceHashes) {packet : Bytes}
    {request : BindingRequest}
    (parsed : BindingRequest.parse packet = .ok request)
    {responseUsername : Bytes}
    (sameLength : responseUsername.length =
      (request.view hashes).username.length) (pwd : Bytes) :
    ∃ response, request.toBindingResponse hashes responseUsername pwd =
      .ok response := by
  obtain ⟨layout, username, rfl, -, named, rfl⟩ := parse_eq_ok_iff.mp parsed
  obtain ⟨value, -, hasUsername⟩ := layout.username_request named
  obtain ⟨usernameInside, isValue, usernameLength⟩ :=
    indexRange_eq_ok hasUsername
  have viewed : (((layout.request username).view hashes).username) = value :=
    isValue.symm
  rw [viewed] at sameLength
  have total := layout.length_bytes
  have integrity := layout.integrity.value_le_bytes
  have fingerprint := layout.fingerprint.value_le_bytes
  rw [layout.integrity_length] at integrity
  rw [layout.fingerprint_length] at fingerprint
  have least : headerLen ≤ layout.hmacStart := Nat.le_add_right _ _
  unfold attrHeaderLen hmacLen fingerprintLen headerLen at *
  have hmacRange : (layout.request username).ranges.hmac = _ :=
    layout.ranges_hmac username
  have fingerprintRange : (layout.request username).ranges.fingerprint = _ :=
    layout.ranges_fingerprint username
  obtain ⟨typed, isTyped, typedLength⟩ :=
    @copyFromSlice_ok layout.bytes bindingResponseId ⟨0, 2⟩
      (by dsimp only; omega) rfl
  obtain ⟨written, isWritten, writtenLength⟩ :=
    @copyFromSlice_ok typed responseUsername
      (layout.request username).ranges.username
      (by rw [typedLength]; exact usernameInside) (by omega)
  obtain ⟨response, isResponse⟩ := @exists_recalculate hashes written
    (layout.request username).ranges layout.hmacStart hmacRange
    fingerprintRange (by omega) (by omega) pwd
  refine ⟨response, ?_⟩
  unfold BindingRequest.toBindingResponse
  rw [show (layout.request username).packet = layout.bytes from rfl, isTyped,
    ok_bind, isWritten, ok_bind, isResponse]

/-! ## The usernames of a connection -/

theorem length_joinUsername (first second : Bytes) :
    (joinUsername first second).length =
      (joinUsername second first).length := by
  unfold joinUsername
  simp only [List.length_append]
  omega

section Connections

variable {rates : RateArithmetic} {aead : Aead}
  {start before after finish : Connection} {event : ConnectionEvent}
  {events : List ConnectionEvent}

/-- What stays the same of the ICE state. -/
def SameNames (before after : Connection) : Prop :=
  after.ice.requestUsername = before.ice.requestUsername ∧
    after.ice.responseUsername = before.ice.responseUsername

theorem SameNames.of_ice (same : after.ice = before.ice) :
    SameNames before after := by
  unfold SameNames
  rw [same]
  exact ⟨rfl, rfl⟩

theorem sameNames_handleIceBindingRequest {senderAddr : SocketLocator}
    {request : Backend.BindingRequest} {now : Instant}
    (accepted : before.handleIceBindingRequest senderAddr request now =
      .ok after) : SameNames before after := by
  obtain ⟨_, -, rest⟩ := bind_eq_ok_iff.mp accepted
  obtain ⟨_, -, returned⟩ := bind_eq_ok_iff.mp rest
  dsimp only at returned
  split at returned
  · cases returned
    exact ⟨rfl, rfl⟩
  · cases returned
    exact ⟨rfl, rfl⟩

theorem sameNames_of_step (step : ConnectionStep rates aead before event after) :
    SameNames before after := by
  cases step with
  | sendOrEnqueueRtp sent =>
      exact .of_ice (Connection.ice_sendOrEnqueueRtp sent)
  | handleIceBindingRequest accepted =>
      exact sameNames_handleIceBindingRequest accepted
  | rejectIceBindingRequest _ => exact ⟨rfl, rfl⟩
  | configureCongestionControl => exact ⟨rfl, rfl⟩
  | handleRtpPacket _ => exact ⟨rfl, rfl⟩
  | handleRtcpPacket _ handled =>
      have same := Connection.ice_handleNacks handled
      exact .of_ice same
  | dequeueOutgoingRtp dequeued =>
      exact .of_ice (Connection.ice_dequeueOutgoingRtp dequeued)

theorem sameNames_of_run
    (run : Run (ConnectionStep rates aead) start events finish) :
    SameNames start finish := by
  induction run with
  | nil => exact ⟨rfl, rfl⟩
  | snoc _ last ih =>
      have next := sameNames_of_step last
      exact ⟨next.1.trans ih.1, next.2.trans ih.2⟩

end Connections

/-- A created request is parsed and verified, and its response is the created
one.  The usernames of a connection have one length in both orders, so that
the response to an accepted request is made without a panic. -/
theorem binding_request_round_trip (hashes : IceHashes) :
    (∀ (transactionId : TransactionId) (username pwd : Bytes)
      (nominated : Bool), username.length < 65000 →
      ∃ packet request,
        createBindingRequestPacket hashes transactionId username pwd
          nominated = .ok packet ∧
        BindingRequest.parse packet = .ok request ∧
        request.username = .ok username ∧ request.nominated = nominated ∧
        request.verifyHmac hashes pwd = .ok true ∧
        ∀ responseUsername responsePwd : Bytes,
          responseUsername.length = username.length →
          ∃ response,
            request.toBindingResponse hashes responseUsername responsePwd =
              .ok response ∧
            createBindingResponsePacket hashes transactionId
              responseUsername responsePwd nominated = .ok response) ∧
    (∀ first second : Bytes, (joinUsername first second).length =
      (joinUsername second first).length) ∧
    ∀ (rates : RateArithmetic) (aead : Aead) (clientUfrag serverUfrag : Bytes)
      (start connection after : Connection) (events : List ConnectionEvent)
      (packet : Bytes) (request : BindingRequest)
      (senderAddr : SocketLocator) (now : Instant),
      start.ice.requestUsername = joinUsername clientUfrag serverUfrag →
      start.ice.responseUsername = joinUsername serverUfrag clientUfrag →
      Run (ConnectionStep rates aead) start events connection →
      BindingRequest.parse packet = .ok request →
      connection.handleIceBindingRequest senderAddr (request.view hashes)
        now = .ok after →
      ∃ response, request.toBindingResponse hashes
        connection.ice.responseUsername connection.ice.pwd = .ok response := by
  refine ⟨?_, length_joinUsername, ?_⟩
  · intro transactionId username pwd nominated small
    have short : username.length < 2 ^ 16 := by omega
    refine ⟨_, createdRequest hashes transactionId username short pwd
      nominated, ?_, parse_created small, ?_, lastValue_nomination,
      verifyHmac_written _, ?_⟩
    · unfold createBindingRequestPacket
      rw [createPacket_eq hashes rfl transactionId short]
      exact congrArg Except.ok writtenLayout_bytes.symm
    · obtain ⟨value, isLast, hasUsername⟩ := (createdLayout hashes
        transactionId username short pwd nominated).username_request
          lastRange_requestAttributes
      have same : some username = some value :=
        lastValue_username.symm.trans isLast
      cases same
      exact hasUsername
    · intro responseUsername responsePwd sameLength
      have responseShort : responseUsername.length < 2 ^ 16 := by omega
      refine ⟨_, ?_, createPacket_eq hashes rfl transactionId responseShort
        responsePwd nominated⟩
      rw [toBindingResponse_created sameLength]
      exact createPacket_eq hashes rfl transactionId responseShort
        responsePwd nominated
  · intro rates aead clientUfrag serverUfrag start connection after events
      packet request senderAddr now requestName responseName run parsed
      accepted
    obtain ⟨sameRequest, sameResponse⟩ := sameNames_of_run run
    have named := (Connection.handleIceBindingRequest_ok accepted).1
    apply exists_toBindingResponse hashes parsed
    rw [named, sameRequest, sameResponse, requestName, responseName]
    exact length_joinUsername serverUfrag clientUfrag

/-! ## A request with empty fragments -/

/-- The start of a message for the username ":". -/
def colonHead (messageType : Bytes) (length : UInt8) : Bytes :=
  messageType ++ [0, length] ++ magicCookie ++ List.replicate 12 0 ++
    [0, 6, 0, 1, 58, 0, 0, 0]

def requestHmac : Bytes :=
  [138, 162, 2, 212, 120, 45, 167, 218, 49, 149, 49, 100, 99, 52, 52, 156,
    136, 74, 197, 194]

def responseHmac : Bytes :=
  [150, 177, 173, 184, 24, 5, 154, 234, 143, 107, 179, 115, 83, 191, 112, 13,
    60, 248, 214, 139]

/-- HMAC-SHA1 under the password 3 and the CRC, for the two messages. -/
def colonHashes : IceHashes where
  hmac := fun pwd input =>
    if pwd = [3] ∧ input = colonHead bindingRequestId 32 then requestHmac
    else if pwd = [3] ∧ input = colonHead bindingResponseId 32 then
      responseHmac
    else List.replicate 20 0
  checksum := fun input =>
    if input = colonHead bindingRequestId 40 ++ [0, 8, 0, 20] ++ requestHmac
      then 0x3cf43a32
    else if input = colonHead bindingResponseId 40 ++ [0, 8, 0, 20] ++
      responseHmac then 0x71465e24
    else 0
  hmac_length := by
    intro pwd input
    split
    · rfl
    · split
      · rfl
      · exact List.length_replicate

def colonPacket : Bytes :=
  colonHead bindingRequestId 40 ++ [0, 8, 0, 20] ++ requestHmac ++
    [0x80, 0x28, 0, 4, 111, 160, 111, 124]

example : createBindingRequestPacket colonHashes
    ⟨magicCookie ++ List.replicate 12 0, rfl⟩ [58] [3] false =
      .ok colonPacket := by
  decide

def colonConnection : Connection :=
  .new ⟨joinUsername [] [], joinUsername [] [], [3], none⟩ zeroKeys zeroKeys 4
    100000 (fromSecs 30) 0

theorem binding_request_round_trip_colon :
    (∃ packet request,
      createBindingRequestPacket colonHashes
        ⟨magicCookie ++ List.replicate 12 0, rfl⟩ [58] [3] false =
          .ok packet ∧
      BindingRequest.parse packet = .ok request ∧
      request.verifyHmac colonHashes [3] = .ok true ∧
      ∃ response, request.toBindingResponse colonHashes [58] [3] =
        .ok response) ∧
    ∃ response, (sampleRequest colonPacket).toBindingResponse colonHashes
      colonConnection.ice.responseUsername colonConnection.ice.pwd =
        .ok response := by
  have roundTrip := binding_request_round_trip colonHashes
  constructor
  · obtain ⟨packet, request, created, parsed, -, -, verified, responds⟩ :=
      roundTrip.1 ⟨magicCookie ++ List.replicate 12 0, rfl⟩ [58] [3] false
        (by decide)
    obtain ⟨response, isResponse, -⟩ := responds [58] [3] rfl
    exact ⟨packet, request, created, parsed, verified, response, isResponse⟩
  · exact roundTrip.2.2 exactRates videoAead [] [] colonConnection
      colonConnection _ [] colonPacket (sampleRequest colonPacket) clientAddr 6
      rfl rfl .nil (by decide) rfl

end CallingService.Backend.IceLite
