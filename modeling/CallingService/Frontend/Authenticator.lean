import CallingService.Common.Basics

/-!
# Group authentication tokens

`GroupAuthToken.fromStr` reads the colon-separated password of a group call
request and `Authenticator.verify` turns the token into an authorization.  The
HMAC and the hexadecimal decoder are library code: the first is an arbitrary
function, the second is any decoder of the documented encoding.
-/

namespace CallingService.Frontend

open Foundation

abbrev Digest := { bytes : Bytes // bytes.length = 32 }

/-- The cryptographic and decoding functions the authenticator calls. -/
structure AuthCrypto where
  hmacSha256 : Digest → Bytes → Digest
  fromHex : Bytes → Option Bytes
  fromHex_eq_some_iff : ∀ {digits bytes : Bytes},
    fromHex digits = some bytes ↔ IsHexEncoding digits bytes

def gv2AuthMatchLimit : Nat := 10

def gv2AuthMaxHeaderAge : Duration := fromSecs (60 * 60 * 30)

inductive UserPermission where
  | joinAlreadyCreated
  | createAndJoin
deriving DecidableEq, Repr

def UserPermission.fromStr (text : Bytes) : Except String UserPermission :=
  if text = ascii "0" then .ok .joinAlreadyCreated
  else if text = ascii "1" then .ok .createAndJoin
  else .error "invalid user permission string"

def UserPermission.canCreate : UserPermission → Bool
  | .joinAlreadyCreated => false
  | .createAndJoin => true

structure GroupAuthToken where
  userId : Bytes
  groupId : Bytes
  time : SystemTime
  userPermission : UserPermission
  macDigest : Bytes
  validationRange : Nat × Nat

def colon : UInt8 := 58

/-- `GroupAuthToken::from_str`, with the texts of its errors. -/
def GroupAuthToken.fromStr (crypto : AuthCrypto) (password : Bytes) :
    Except String GroupAuthToken :=
  match password.splitOn colon with
  | [version, userId, groupId, timeUnixSecs, permission, macDigestHex] => do
      ensure (version = ascii "2") "unsupported signature"
      ensure (userId ≠ []) "user_id is missing"
      ensure (groupId ≠ []) "group_id is missing"
      let seconds ← okOr (parseU64 timeUnixSecs) "time not encoded correctly"
      let time ← okOr (SystemTime.unixEpoch.checkedAdd (fromSecs seconds))
        "time not valid"
      let userPermission ← (UserPermission.fromStr permission).mapError
        fun _ => "unknown permission"
      let macDigest ← okOr (crypto.fromHex macDigestHex) "mac not hexadecimal"
      return {
        userId
        groupId
        time
        userPermission
        macDigest
        validationRange := (0, password.length - macDigestHex.length - 1)
      }
  | _ => .error "invalid format"

structure UserAuthorization where
  userId : Bytes
  roomId : Bytes
  userPermission : UserPermission
deriving DecidableEq, Repr

inductive AuthenticatorError where
  | invalidMacKeyLength
  | badSignature
  | invalidTime
  | expiredCredentials
  | authHeaderNotValid
  | authHeaderParseFailure
deriving DecidableEq, Repr

structure Authenticator where
  key : Digest

/-- HMAC accepts a key of any length, so that the key error never occurs. -/
def hmacSha256Digest (crypto : AuthCrypto) (key : Digest) (data : Bytes) :
    Except AuthenticatorError Digest :=
  .ok (crypto.hmacSha256 key data)

def verifyGv2AuthMac (expectedMacDigest : Digest) (actualMacDigest : Bytes) :
    Except AuthenticatorError Unit :=
  if expectedMacDigest.val.take gv2AuthMatchLimit = actualMacDigest then
    .ok ()
  else .error .badSignature

/-- `Authenticator::verify`.  The comparison of the digests and the expiry
test are commented out in the source; the digest is computed and dropped. -/
def Authenticator.verify (crypto : AuthCrypto) (authenticator : Authenticator)
    (authToken : GroupAuthToken) (password : Bytes) :
    Except Panic (Except AuthenticatorError UserAuthorization) := do
  let validated ← strSlice password authToken.validationRange.1
    authToken.validationRange.2
  match hmacSha256Digest crypto authenticator.key validated with
  | .error failure => return .error failure
  | .ok _expectedMacDigest =>
      return .ok {
        userId := authToken.userId
        roomId := authToken.groupId
        userPermission := authToken.userPermission
      }

/-! ## What a parsed token records -/

section Tokens

variable {crypto : AuthCrypto} {authenticator : Authenticator}
variable {now : SystemTime} {password : Bytes} {token : GroupAuthToken}

/-- The fields of the text before the last colon and the digest after it. -/
structure TokenFields (crypto : AuthCrypto) (password : Bytes)
    (token : GroupAuthToken) (before macDigestHex : Bytes) : Prop where
  split : password = before ++ colon :: macDigestHex
  last : colon ∉ macDigestHex
  fields : ∃ version timeUnixSecs permission seconds,
    before.splitOn colon =
      [version, token.userId, token.groupId, timeUnixSecs, permission] ∧
    parseU64 timeUnixSecs = some seconds ∧
    token.time.nanos = fromSecs seconds ∧
    UserPermission.fromStr permission = .ok token.userPermission
  digest : IsHexEncoding macDigestHex token.macDigest
  range : token.validationRange = (0, before.length)

theorem fromStr_eq_ok
    (parsed : GroupAuthToken.fromStr crypto password = .ok token) :
    ∃ before macDigestHex,
      TokenFields crypto password token before macDigestHex := by
  unfold GroupAuthToken.fromStr at parsed
  split at parsed
  case h_2 => cases parsed
  case h_1 version userId groupId timeUnixSecs permission macDigestHex split =>
    have concat : password.splitOn colon =
        [version, userId, groupId, timeUnixSecs, permission] ++
          [macDigestHex] := split
    obtain ⟨before, textEq, frontEq, clean⟩ :=
      exists_prefix_of_splitOn concat (by simp)
    refine ⟨before, macDigestHex, ?_⟩
    simp only [bind_eq_ok_iff, okOr_eq_ok_iff, ensure_eq_ok_iff,
      mapError_eq_ok_iff, exists_const] at parsed
    obtain ⟨-, -, -, seconds, secondsEq, time, timeEq, userPermission,
      permissionEq, macDigest, digestEq, built⟩ := parsed
    cases built
    have timeNanos : time.nanos = fromSecs seconds := by
      rw [SystemTime.checkedAdd_eq_some timeEq,
        SystemTime.unixEpoch_nanos, Int.zero_add]
    refine ⟨textEq, clean, ⟨version, timeUnixSecs, permission, seconds,
      frontEq, secondsEq, timeNanos, permissionEq⟩,
      crypto.fromHex_eq_some_iff.mp digestEq, ?_⟩
    have length : password.length = before.length + macDigestHex.length + 1 := by
      simp [textEq, Nat.add_assoc]
    simp only [Prod.mk.injEq, true_and]
    omega

theorem strSlice_of_tokenFields {before macDigestHex : Bytes}
    (known : TokenFields crypto password token before macDigestHex) :
    strSlice password token.validationRange.1 token.validationRange.2 =
      .ok before := by
  have boundary : isCharBoundary password before.length = true := by
    unfold isCharBoundary
    split
    · rfl
    · rw [known.split, List.getElem?_append_right (Nat.le_refl _)]
      simp [colon]
  have bound : ¬ password.length < before.length := by
    simp [known.split]
  unfold strSlice
  rw [known.range, if_neg (by simpa using bound)]
  simp only [boundary, Bool.and_true, List.drop_zero]
  rw [if_pos (by simp [isCharBoundary]), known.split]
  simp

theorem verify_of_fromStr
    (parsed : GroupAuthToken.fromStr crypto password = .ok token) :
    authenticator.verify crypto token password = .ok (.ok {
      userId := token.userId
      roomId := token.groupId
      userPermission := token.userPermission }) := by
  obtain ⟨before, macDigestHex, known⟩ := fromStr_eq_ok parsed
  unfold Authenticator.verify
  rw [strSlice_of_tokenFields known]
  rfl

theorem verifyGv2AuthMac_eq_ok_iff {expected : Digest} {actual : Bytes} :
    verifyGv2AuthMac expected actual = .ok () ↔
      expected.val.take gv2AuthMatchLimit = actual := by
  unfold verifyGv2AuthMac
  split
  · simp_all
  · simp_all

/-! ## Accepted tokens and the two checks -/

/-- The password ends in the hexadecimal form of the truncated MAC of all
text before its last colon, is at most thirty hours old, and that text holds
the fields of the authorization. -/
def Authentic (crypto : AuthCrypto) (key : Digest) (now : SystemTime)
    (password : Bytes) (auth : UserAuthorization) : Prop :=
  ∃ before macField version timeField permission seconds,
    password = before ++ colon :: macField ∧ colon ∉ macField ∧
    IsHexEncoding macField ((crypto.hmacSha256 key before).val.take 10) ∧
    before.splitOn colon =
      [version, auth.userId, auth.roomId, timeField, permission] ∧
    parseU64 timeField = some seconds ∧
    now.nanos ≤ fromSecs seconds + fromSecs (30 * 60 * 60) ∧
    UserPermission.fromStr permission = .ok auth.userPermission

def AcceptsOnlyAuthentic (crypto : AuthCrypto) (authenticator : Authenticator)
    (now : SystemTime) (password : Bytes) : Prop :=
  ∀ token auth,
    GroupAuthToken.fromStr crypto password = .ok token →
    authenticator.verify crypto token password = .ok (.ok auth) →
    Authentic crypto authenticator.key now password auth

/-- The comparison and the expiry test that the source leaves out: both would
let the token through. -/
def SkippedChecksPass (crypto : AuthCrypto) (key : Digest) (now : SystemTime)
    (password : Bytes) (token : GroupAuthToken) : Prop :=
  verifyGv2AuthMac
      (crypto.hmacSha256 key (password.take token.validationRange.2))
      token.macDigest = .ok () ∧
    ∀ deadline, token.time.checkedAdd gv2AuthMaxHeaderAge = some deadline →
      ¬ deadline.nanos < now.nanos

private theorem not_expired_iff :
    (∀ deadline, token.time.checkedAdd gv2AuthMaxHeaderAge = some deadline →
      ¬ deadline.nanos < now.nanos) ↔
    now.nanos ≤ token.time.nanos + gv2AuthMaxHeaderAge := by
  constructor
  · intro fresh
    cases added : token.time.checkedAdd gv2AuthMaxHeaderAge with
    | none => exact SystemTime.le_of_checkedAdd_eq_none added
    | some deadline =>
        have deadlineEq := SystemTime.checkedAdd_eq_some added
        have notLater := fresh deadline added
        omega
  · intro fresh deadline added
    rw [SystemTime.checkedAdd_eq_some added]
    omega

private theorem authentic_iff {before macDigestHex : Bytes}
    (known : TokenFields crypto password token before macDigestHex) :
    Authentic crypto authenticator.key now password {
        userId := token.userId
        roomId := token.groupId
        userPermission := token.userPermission } ↔
      SkippedChecksPass crypto authenticator.key now password token := by
  obtain ⟨version, timeUnixSecs, permission, seconds, fields, secondsEq,
    timeEq, permissionEq⟩ := known.fields
  have validated : password.take token.validationRange.2 = before := by
    simp [known.range, known.split]
  unfold SkippedChecksPass
  rw [validated, verifyGv2AuthMac_eq_ok_iff, not_expired_iff, timeEq]
  constructor
  · rintro ⟨otherBefore, otherMac, _, otherTime, _, otherSeconds, split,
      clean, encoding, otherFields, otherSecondsEq, fresh, -⟩
    have sameText := known.split.symm.trans split
    obtain ⟨rfl, rfl⟩ := unique_last_field sameText known.last clean
    refine ⟨encoding.functional known.digest, ?_⟩
    simp only [fields, List.cons.injEq] at otherFields
    obtain ⟨-, -, -, rfl, -⟩ := otherFields
    rw [secondsEq] at otherSecondsEq
    cases otherSecondsEq
    exact fresh
  · rintro ⟨sameDigest, fresh⟩
    refine ⟨before, macDigestHex, version, timeUnixSecs, permission, seconds,
      known.split, known.last, ?_, fields, secondsEq, fresh, permissionEq⟩
    have truncated :
        (crypto.hmacSha256 authenticator.key before).val.take 10 =
          token.macDigest := sameDigest
    rw [truncated]
    exact known.digest

/-- The authenticator accepts only authentic tokens exactly where the two
checks it skips would have succeeded. -/
theorem acceptsOnlyAuthentic_iff_skippedChecksPass
    (crypto : AuthCrypto) (authenticator : Authenticator) (now : SystemTime)
    (password : Bytes) :
    AcceptsOnlyAuthentic crypto authenticator now password ↔
      ∀ token, GroupAuthToken.fromStr crypto password = .ok token →
        SkippedChecksPass crypto authenticator.key now password token := by
  constructor
  · intro accepts token parsed
    obtain ⟨before, macDigestHex, known⟩ := fromStr_eq_ok parsed
    exact (authentic_iff known).mp
      (accepts token _ parsed (verify_of_fromStr parsed))
  · intro passes token auth parsed verified
    obtain ⟨before, macDigestHex, known⟩ := fromStr_eq_ok parsed
    rw [verify_of_fromStr parsed] at verified
    cases verified
    exact (authentic_iff known).mpr (passes token parsed)

/-! ## A forged token -/

/-- A token for user `1` and group `a` with a one-byte digest. -/
def forgedPassword : Bytes := ascii "2:1:a:0:1:00"

def zeroDigest : Digest := ⟨List.replicate 32 0, by simp⟩

def constantMac : AuthCrypto where
  hmacSha256 := fun _ _ => zeroDigest
  fromHex := decodeHex
  fromHex_eq_some_iff := decodeHex_eq_some_iff

theorem fromStr_forgedPassword (crypto : AuthCrypto) :
    ∃ token, GroupAuthToken.fromStr crypto forgedPassword = .ok token ∧
      token.macDigest = [0] := by
  have fields : forgedPassword.splitOn colon =
      [ascii "2", ascii "1", ascii "a", ascii "0", ascii "1",
        ascii "00"] := by
    decide
  have digest : crypto.fromHex (ascii "00") = some [0] := by
    rw [crypto.fromHex_eq_some_iff, ← decodeHex_eq_some_iff]
    decide
  have epoch : ∃ time,
      SystemTime.unixEpoch.checkedAdd (fromSecs 0) = some time :=
    ⟨_, dif_pos (by decide)⟩
  obtain ⟨time, timeEq⟩ := epoch
  refine ⟨⟨ascii "1", ascii "a", time, .createAndJoin, [0],
    (0, forgedPassword.length - (ascii "00").length - 1)⟩, ?_, rfl⟩
  unfold GroupAuthToken.fromStr
  rw [fields]
  simp only [bind_eq_ok_iff, okOr_eq_ok_iff, ensure_eq_ok_iff,
    mapError_eq_ok_iff, exists_const]
  exact ⟨trivial, by decide, by decide, 0, by decide, time, timeEq,
    .createAndJoin, by decide, [0], digest, rfl⟩

theorem not_acceptsOnlyAuthentic_forgedPassword :
    ¬ AcceptsOnlyAuthentic constantMac ⟨zeroDigest⟩ SystemTime.unixEpoch
      forgedPassword := by
  intro accepts
  obtain ⟨token, parsed, digestEq⟩ := fromStr_forgedPassword constantMac
  obtain ⟨before, macDigestHex, known⟩ := fromStr_eq_ok parsed
  have authentic := accepts token _ parsed (verify_of_fromStr parsed)
  have sameDigest := verifyGv2AuthMac_eq_ok_iff.mp
    ((authentic_iff known).mp authentic).1
  rw [digestEq] at sameDigest
  have lengths := congrArg List.length sameDigest
  simp [constantMac, zeroDigest, gv2AuthMatchLimit] at lengths

end Tokens

end CallingService.Frontend
