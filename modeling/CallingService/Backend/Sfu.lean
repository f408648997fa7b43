import CallingService.Backend.Call.CallRun
import CallingService.Backend.Connection

/-!
# The SFU

The SFU holds the calls and the connections of their clients.  A join creates
the call when there is none, adds the client to it, agrees on keys with the
client and opens its connection.  The curve operations and the key derivation
come from other crates and are parameters.
-/

namespace CallingService.Backend

open Foundation Rtp

/-! ## Regions -/

inductive Region where
  | unset
  | unknown
  | asiaEast1
  | asiaEast2
  | asiaNortheast1
  | asiaNortheast3
  | asiaSouth1
  | asiaSoutheast1
  | asiaSoutheast2
  | australianSoutheast2
  | europeNorth1
  | europeWest1
  | europeWest2
  | europeWest3
  | europeWest4
  | europeWest6
  | northamericaNortheast1
  | southamericaEast1
  | usCentral1
  | usEast1
  | usEast4
  | usWest1
  | usWest2
  | usWest3
  | usWest4
deriving DecidableEq, Repr

inductive GlobalArea where
  | asiaPacific
  | europe
  | northAmerica
  | southAmerica
deriving DecidableEq, Repr

namespace Region

def area : Region → Option GlobalArea
  | asiaEast1 | asiaEast2 | asiaNortheast1 | asiaNortheast3 | asiaSouth1
  | asiaSoutheast1 | asiaSoutheast2 | australianSoutheast2 =>
      some .asiaPacific
  | europeNorth1 | europeWest1 | europeWest2 | europeWest3 | europeWest4
  | europeWest6 => some .europe
  | northamericaNortheast1 | usCentral1 | usEast1 | usEast4 | usWest1
  | usWest2 | usWest3 | usWest4 => some .northAmerica
  | southamericaEast1 => some .southAmerica
  | unset | unknown => none

def sameArea (region other : Region) : Bool :=
  region.area.isSome && region.area = other.area

end Region

/-! ## Keys -/

abbrev DhePublicKey := { bytes : Bytes // bytes.length = 33 }

/-- The two coordinates of a point. -/
abbrev RawPublicKey := { bytes : Bytes // bytes.length = 64 }

abbrev DhePrivateKey := { bytes : Bytes // bytes.length = 32 }

/-- The operations on the curve, and the derivation of the keys of the client
and of the server from the shared secret. -/
structure KeyAgreement where
  sm2DecompressPublicKey : DhePublicKey → Except String RawPublicKey
  sm2ComputeEcdh : DhePrivateKey → RawPublicKey → Except String Bytes
  deriveClientAndServer : Bytes → Bytes → KeysAndSalts × KeysAndSalts

def compressPublicKey (raw : RawPublicKey) : DhePublicKey where
  val := (if raw.val[63]?.getD 0 &&& 1 = 1 then 0x03 else 0x02) ::
    raw.val.take 32
  property := by
    rw [List.length_cons, List.length_take, raw.property]
    rfl

/-- `ice::join_username`. -/
def joinUsername (senderUfrag receiverUfrag : Bytes) : Bytes :=
  receiverUfrag ++ ascii ":" ++ senderUfrag

/-! ## The state -/

abbrev CallId := Bytes

structure ConnectionId where
  callId : CallId
  demuxId : DemuxId
deriving DecidableEq, Repr

inductive SfuError where
  | duplicateDemuxIdDetected
  | cryptoError (text : String)
deriving DecidableEq, Repr

structure SfuConfig where
  initialTargetSendRateKbps : Nat
  defaultRequestedMaxSendRateKbps : Nat
  activeSpeakerMessageIntervalMs : Nat
  inactivityTimeoutSecs : Nat
  persistApprovalForAllUsersWhoJoin : Bool
deriving DecidableEq, Repr

structure Sfu (externals : CallExternals) where
  config : SfuConfig
  callByCallId : Table CallId (Call externals)
  connectionById : Table ConnectionId Connection
  connectionIdByIceRequestUsername : Table Bytes ConnectionId
  region : Region

/-- The arguments of a join. -/
structure Join where
  callId : CallId
  roomId : Option RoomId
  userId : UserId
  demuxId : DemuxId
  serverIceUfrag : Bytes
  serverIcePwd : Bytes
  clientIceUfrag : Bytes
  clientDhePublicKey : DhePublicKey
  clientHkdfExtraInfo : Bytes
  region : Region
  newClientsRequireApproval : Bool
  isAdmin : Bool
  approvedUsers : Option (List UserId)

/-- The clocks that a join reads, and the outcome of `sm2_generate_key`. -/
structure JoinSurroundings where
  now : Instant
  created : SystemTime
  afterLock : Instant
  generated : Except String (DhePrivateKey × RawPublicKey)

namespace Sfu

variable {externals : CallExternals}

def getRegionRelation (sfu : Sfu externals) (region : Region) :
    RegionRelation :=
  if sfu.region = .unknown then .unknown
  else if region = sfu.region then .sameRegion
  else if sfu.region.sameArea region then .sameArea
  else .differentArea

def fromKbps (kbps : Nat) : DataRate := 1000 * kbps

def newCall (sfu : Sfu externals) (join : Join)
    (surroundings : JoinSurroundings) : Call externals :=
  Call.new join.roomId join.userId join.newClientsRequireApproval
    sfu.config.persistApprovalForAllUsersWhoJoin
    (fromMillis sfu.config.activeSpeakerMessageIntervalMs)
    (fromKbps sfu.config.initialTargetSendRateKbps)
    (fromKbps sfu.config.defaultRequestedMaxSendRateKbps)
    surroundings.now surroundings.created join.approvedUsers

/-- The private key of the server is used to agree on a secret; its public key
goes to the client. -/
def agreeOnKeys (agreement : KeyAgreement) (join : Join)
    (surroundings : JoinSurroundings) :
    Except SfuError (DhePublicKey × Bytes) := do
  let (privateKey, publicKeyRaw) ← surroundings.generated.mapError fun failure =>
    SfuError.cryptoError ("Key generation failed: " ++ failure)
  let clientPublicKeyRaw ←
    (agreement.sm2DecompressPublicKey join.clientDhePublicKey).mapError
      fun failure => SfuError.cryptoError
        ("Client public key decompression failed: " ++ failure)
  let sharedSecret ←
    (agreement.sm2ComputeEcdh privateKey clientPublicKeyRaw).mapError
      fun failure => SfuError.cryptoError
        ("Shared key computation failed: " ++ failure)
  return (compressPublicKey publicKeyRaw, sharedSecret)

def newConnection (agreement : KeyAgreement) (sfu : Sfu externals)
    (join : Join) (surroundings : JoinSurroundings) (sharedSecret : Bytes) :
    Connection :=
  let keys := agreement.deriveClientAndServer sharedSecret
    join.clientHkdfExtraInfo
  Connection.new {
      requestUsername := joinUsername join.clientIceUfrag join.serverIceUfrag
      responseUsername := joinUsername join.serverIceUfrag join.clientIceUfrag
      pwd := join.serverIcePwd
      bindingRequestReceived := none }
    keys.1 keys.2 (LayerId.video0.toSsrc join.demuxId)
    (fromKbps sfu.config.initialTargetSendRateKbps)
    (fromSecs sfu.config.inactivityTimeoutSecs) surroundings.now

def insertConnection (sfu : Sfu externals) (join : Join)
    (connection : Connection) : Sfu externals :=
  let connectionId : ConnectionId := ⟨join.callId, join.demuxId⟩
  { sfu with
    connectionById := sfu.connectionById.insert connectionId connection
    connectionIdByIceRequestUsername :=
      sfu.connectionIdByIceRequestUsername.insert
        (joinUsername join.clientIceUfrag join.serverIceUfrag) connectionId }

/-- The call of the join, and the calls with it: `entry` and
`or_insert_with`. -/
def callEntry (sfu : Sfu externals) (join : Join)
    (surroundings : JoinSurroundings) :
    Call externals × Table CallId (Call externals) :=
  match sfu.callByCallId.lookup join.callId with
  | some call => (call, sfu.callByCallId)
  | none =>
      let call := sfu.newCall join surroundings
      (call, sfu.callByCallId.insert join.callId call)

/-- The client is in the call before the keys are agreed on. -/
def getOrCreateCallAndAddClient (agreement : KeyAgreement)
    (sfu : Sfu externals) (join : Join) (surroundings : JoinSurroundings) :
    Except SfuError (DhePublicKey × ClientStatus) × Sfu externals :=
  let entry := sfu.callEntry join surroundings
  if entry.1.hasClient join.demuxId then
    (.error .duplicateDemuxIdDetected, { sfu with callByCallId := entry.2 })
  else
    let added := entry.1.addClient join.demuxId join.userId join.isAdmin
      (sfu.getRegionRelation join.region) surroundings.afterLock
    let joined := { sfu with
      callByCallId := entry.2.insert join.callId added.2 }
    match agreeOnKeys agreement join surroundings with
    | .error failure => (.error failure, joined)
    | .ok (serverDhePublicKey, sharedSecret) =>
        (.ok (serverDhePublicKey, added.1),
          joined.insertConnection join
            (joined.newConnection agreement join surroundings sharedSecret))

/-! ## Failed joins -/

/-- The active, pending and removed clients of a call. -/
def memberLists (call : Call externals) :
    List NonParticipantClient × List NonParticipantClient ×
      List NonParticipantClient :=
  (call.roster.active, call.roster.pending, call.roster.removed)

/-- The same calls with the same clients, and the same connections. -/
structure SameMembers (before after : Sfu externals) : Prop where
  calls : ∀ callId, (after.callByCallId.lookup callId).map memberLists =
    (before.callByCallId.lookup callId).map memberLists
  connections : after.connectionById = before.connectionById
  usernames : after.connectionIdByIceRequestUsername =
    before.connectionIdByIceRequestUsername

/-- The call exists and has a client with the demux id. -/
def AlreadyIn (sfu : Sfu externals) (join : Join) : Prop :=
  ∃ call, sfu.callByCallId.lookup join.callId = some call ∧
    call.hasClient join.demuxId = true

/-- A key is generated, the key of the client is a point of the curve and the
secret can be computed. -/
def KeysAgree (agreement : KeyAgreement) (join : Join)
    (surroundings : JoinSurroundings) : Prop :=
  ∃ privateKey publicKeyRaw clientPublicKeyRaw sharedSecret,
    surroundings.generated = .ok (privateKey, publicKeyRaw) ∧
    agreement.sm2DecompressPublicKey join.clientDhePublicKey =
      .ok clientPublicKeyRaw ∧
    agreement.sm2ComputeEcdh privateKey clientPublicKeyRaw = .ok sharedSecret

theorem agreeOnKeys_isOk_iff {agreement : KeyAgreement} {join : Join}
    {surroundings : JoinSurroundings} :
    (∃ keys, agreeOnKeys agreement join surroundings = .ok keys) ↔
      KeysAgree agreement join surroundings := by
  constructor
  · rintro ⟨keys, agreed⟩
    obtain ⟨⟨privateKey, publicKeyRaw⟩, generated, rest⟩ :=
      bind_eq_ok_iff.mp agreed
    obtain ⟨clientPublicKeyRaw, decompressed, rest⟩ := bind_eq_ok_iff.mp rest
    obtain ⟨sharedSecret, computed, _⟩ := bind_eq_ok_iff.mp rest
    exact ⟨privateKey, publicKeyRaw, clientPublicKeyRaw, sharedSecret,
      mapError_eq_ok_iff.mp generated, mapError_eq_ok_iff.mp decompressed,
      mapError_eq_ok_iff.mp computed⟩
  · rintro ⟨privateKey, publicKeyRaw, clientPublicKeyRaw, sharedSecret,
      generated, decompressed, computed⟩
    refine ⟨(compressPublicKey publicKeyRaw, sharedSecret), ?_⟩
    unfold agreeOnKeys
    rw [generated, decompressed]
    apply bind_eq_ok_iff.mpr
    refine ⟨(privateKey, publicKeyRaw), rfl, ?_⟩
    apply bind_eq_ok_iff.mpr
    refine ⟨clientPublicKeyRaw, rfl, ?_⟩
    rw [computed]
    rfl

theorem hasClient_iff {call : Call externals} {demuxId : DemuxId} :
    call.hasClient demuxId = true ↔
      ∃ client ∈ (memberLists call).1 ++ (memberLists call).2.1 ++
        (memberLists call).2.2, client.demuxId = demuxId := by
  unfold Call.hasClient memberLists Call.roster
  simp only [Bool.or_eq_true, List.any_eq_true, decide_eq_true_eq,
    List.mem_append]
  constructor
  · rintro ((⟨client, member, named⟩ | ⟨client, member, named⟩) |
      ⟨client, member, named⟩)
    · exact ⟨client.toNonParticipant,
        .inl (.inl (List.mem_map_of_mem member)), named⟩
    · exact ⟨client, .inl (.inr member), named⟩
    · exact ⟨client, .inr member, named⟩
  · rintro ⟨client, (isActive | isPending) | isRemoved, named⟩
    · obtain ⟨active, member, rfl⟩ := List.mem_map.mp isActive
      exact .inl (.inl ⟨active, member, named⟩)
    · exact .inl (.inr ⟨client, isPending, named⟩)
    · exact .inr ⟨client, isRemoved, named⟩

/-- An added client is in one of the lists. -/
theorem hasClient_addClient (call : Call externals) (demuxId : DemuxId)
    (userId : UserId) (isAdmin : Bool) (regionRelation : RegionRelation)
    (now : Instant) :
    (call.addClient demuxId userId isAdmin regionRelation
      now).2.hasClient demuxId = true := by
  rw [hasClient_iff]
  unfold memberLists
  rw [Call.roster_addClient]
  refine ⟨⟨demuxId, userId, isAdmin, regionRelation, 1⟩, ?_, rfl⟩
  unfold Roster.add
  split
  · simp
  · split
    · simp
    · simp

/-- Only a call that existed before can have the client already. -/
theorem callEntry_of_hasClient {sfu : Sfu externals} {join : Join}
    {surroundings : JoinSurroundings}
    (isIn : (sfu.callEntry join surroundings).1.hasClient join.demuxId =
      true) :
    AlreadyIn sfu join ∧
      (sfu.callEntry join surroundings).2 = sfu.callByCallId := by
  unfold callEntry at isIn ⊢
  cases found : sfu.callByCallId.lookup join.callId with
  | none =>
      rw [found] at isIn
      cases isIn
  | some call =>
      rw [found] at isIn
      exact ⟨⟨call, found, isIn⟩, rfl⟩

theorem hasClient_of_alreadyIn {sfu : Sfu externals} {join : Join}
    (surroundings : JoinSurroundings) (alreadyIn : AlreadyIn sfu join) :
    (sfu.callEntry join surroundings).1.hasClient join.demuxId = true := by
  obtain ⟨call, found, isIn⟩ := alreadyIn
  unfold callEntry
  rw [found]
  exact isIn

/-- A failure after the client was added leaves the client in the call. -/
theorem not_sameMembers_of_failedAgreement {agreement : KeyAgreement}
    {sfu : Sfu externals} {join : Join} {surroundings : JoinSurroundings}
    (newcomer : ¬ AlreadyIn sfu join)
    (disagreed : ¬ KeysAgree agreement join surroundings) :
    ∃ failure,
      (sfu.getOrCreateCallAndAddClient agreement join surroundings).1 =
        .error failure ∧
      ¬ SameMembers sfu
        (sfu.getOrCreateCallAndAddClient agreement join surroundings).2 := by
  have fresh : (sfu.callEntry join surroundings).1.hasClient join.demuxId ≠
      true := fun isIn => newcomer (callEntry_of_hasClient isIn).1
  cases agreed : agreeOnKeys agreement join surroundings with
  | ok keys => exact absurd (agreeOnKeys_isOk_iff.mp ⟨keys, agreed⟩) disagreed
  | error failure =>
      refine ⟨failure, ?_, ?_⟩
      · unfold getOrCreateCallAndAddClient
        dsimp only
        rw [if_neg fresh, agreed]
      · intro same
        have lists := same.calls join.callId
        unfold getOrCreateCallAndAddClient at lists
        dsimp only at lists
        rw [if_neg fresh, agreed] at lists
        dsimp only at lists
        rw [AList.lookup_insert] at lists
        cases found : sfu.callByCallId.lookup join.callId with
        | none =>
            rw [found] at lists
            cases lists
        | some call =>
            rw [found, Option.map_some, Option.map_some,
              Option.some_inj] at lists
            apply newcomer
            refine ⟨call, found, ?_⟩
            rw [hasClient_iff, ← lists, ← hasClient_iff]
            exact hasClient_addClient _ _ _ _ _ _

/-- A failed join changes nothing if and only if the client was in the call
before, or the keys are agreed on. -/
theorem failedJoin_sameMembers_iff (agreement : KeyAgreement)
    (sfu : Sfu externals) (join : Join) (surroundings : JoinSurroundings) :
    (∀ failure,
      (sfu.getOrCreateCallAndAddClient agreement join surroundings).1 =
        .error failure →
      SameMembers sfu
        (sfu.getOrCreateCallAndAddClient agreement join surroundings).2) ↔
      AlreadyIn sfu join ∨ KeysAgree agreement join surroundings := by
  constructor
  · intro unchanged
    by_contra neither
    rw [not_or] at neither
    obtain ⟨failure, failed, changed⟩ :=
      not_sameMembers_of_failedAgreement neither.1 neither.2
    exact changed (unchanged failure failed)
  · intro condition failure failed
    by_cases isIn : (sfu.callEntry join surroundings).1.hasClient
        join.demuxId = true
    · have kept := (callEntry_of_hasClient isIn).2
      unfold getOrCreateCallAndAddClient
      dsimp only
      rw [if_pos isIn, kept]
      exact ⟨fun _ => rfl, rfl, rfl⟩
    · rcases condition with alreadyIn | agree
      · exact absurd (hasClient_of_alreadyIn surroundings alreadyIn) isIn
      · obtain ⟨keys, agreed⟩ := agreeOnKeys_isOk_iff.mpr agree
        unfold getOrCreateCallAndAddClient at failed
        dsimp only at failed
        rw [if_neg isIn, agreed] at failed
        cases failed

/-! A client key that is not a point of the curve. -/

/-- Only the prefixes of compressed points are accepted. -/
def prefixAgreement : KeyAgreement where
  sm2DecompressPublicKey := fun key =>
    if key.val[0]? = some 0x02 ∨ key.val[0]? = some 0x03 then
      .ok ⟨List.replicate 64 0, rfl⟩
    else .error "invalid point"
  sm2ComputeEcdh := fun _ _ => .ok (List.replicate 32 0)
  deriveClientAndServer := fun _ _ => (zeroKeys, zeroKeys)

def emptySfu : Sfu directExternals where
  config := {
    initialTargetSendRateKbps := 1500
    defaultRequestedMaxSendRateKbps := 20000
    activeSpeakerMessageIntervalMs := 1000
    inactivityTimeoutSecs := 30
    persistApprovalForAllUsersWhoJoin := false }
  callByCallId := ∅
  connectionById := ∅
  connectionIdByIceRequestUsername := ∅
  region := .unknown

/-- The join sends thirty-three zeros as its public key. -/
def joinWithoutPoint : Join where
  callId := [1]
  roomId := none
  userId := "mallory"
  demuxId := ⟨16, rfl⟩
  serverIceUfrag := ascii "server"
  serverIcePwd := ascii "password"
  clientIceUfrag := ascii "client"
  clientDhePublicKey := ⟨List.replicate 33 0, rfl⟩
  clientHkdfExtraInfo := []
  region := .unset
  newClientsRequireApproval := false
  isAdmin := false
  approvedUsers := none

def joinNow : JoinSurroundings where
  now := 1
  created := SystemTime.unixEpoch
  afterLock := 2
  generated := .ok (⟨List.replicate 32 1, rfl⟩, ⟨List.replicate 64 1, rfl⟩)

/-- The join is refused, and leaves an active client without a connection. -/
theorem refusedJoin_leaves_client :
    (emptySfu.getOrCreateCallAndAddClient prefixAgreement joinWithoutPoint
        joinNow).1 =
      .error (.cryptoError
        "Client public key decompression failed: invalid point") ∧
    (emptySfu.getOrCreateCallAndAddClient prefixAgreement joinWithoutPoint
        joinNow).2.connectionById.lookup ⟨[1], ⟨16, rfl⟩⟩ = none ∧
    ¬ SameMembers emptySfu
      (emptySfu.getOrCreateCallAndAddClient prefixAgreement joinWithoutPoint
        joinNow).2 := by
  refine ⟨rfl, rfl, ?_⟩
  intro same
  have lists := same.calls [1]
  cases lists

end Sfu

end CallingService.Backend
