import S3Disk.Library.Checks
import S3Disk.Share.Bundle

/-! The sealed manifest from which a publisher restarts: its fields, the checks that
every written and every read manifest passes, its canonical encoding, and the one step
by which its phase advances. -/

namespace S3Disk.CLI

open Concurrent Share

def publisherSessionFormat : Int := 1
def publisherSessionProfile : Bytes := ascii "strict-s3-only-publisher-session-v1"
def maximumPublisherSessionBytes : Nat := 8 * 1024 * 1024
def maximumPublisherSessionPathBytes : Nat := 64 * 1024
def maximumPublisherSessionSelectedPathBytes : Nat := 1024 * 1024
def maximumPublisherSessionSelectedPaths : Nat := maximumBundleCapabilities
def maximumPublisherSessionEndpointBytes : Nat := 16 * 1024
def maximumHandoffPrefixBytes : Nat := 768
def maximumHandoffChannelBytes : Nat := 256
def maximumRecoveryKeyIDBytes : Nat := 128
def maximumTLSRootCAPEMBytes : Nat := 4 * 1024 * 1024
def clientEncryptionSecretPrefix : Bytes := ascii "s3disk-client-encryption-v1."

/-- The phases a session goes through; Go's type also has every other string. -/
inductive PublisherSessionPhase where
  | prepared
  | repositoryReady
  | journalReady
  | initialPublicationReady
  | initialRootReady
  | handoffReady
  | completed
  | unknown (text : Bytes)
  deriving DecidableEq, Repr

def PublisherSessionPhase.rank : PublisherSessionPhase → Option Nat
  | prepared => some 1
  | repositoryReady => some 2
  | journalReady => some 3
  | initialPublicationReady => some 4
  | initialRootReady => some 5
  | handoffReady => some 6
  | completed => some 7
  | unknown _ => none

/-- A Go `time.Time` with what its comparison by `==` sees beside the instant. -/
structure GoTime where
  instant : Time
  utc : Bool
  monotonic : Bool
  deriving DecidableEq, Repr

structure HandoffCheckpoint where
  generation : Nat
  commit : Bytes
  deriving DecidableEq, Repr

/-- Strings and byte slices are byte strings; where Go tells a nil slice from an empty
one, the field is optional. -/
structure PublisherSession where
  format : Int
  profile : Bytes
  sequence : Nat
  phase : PublisherSessionPhase
  createdAt : GoTime
  authorizationExpiresAt : GoTime
  shareID : Bytes
  repositoryID : Bytes
  recoveryKeyID : Bytes
  sourcePath : Bytes
  selectAll : Bool
  selectedPaths : Option (List Bytes)
  once : Bool
  handoffPath : Bytes
  bucket : Bytes
  keyPrefix : Bytes
  region : Bytes
  endpoint : Bytes
  expectedBucketOwner : Bytes
  usePathStyle : Bool
  allowInsecureEndpoint : Bool
  tlsRootCAPEM : Option Bytes
  repositoryPrefix : Bytes
  channel : Bytes
  referenceKey : Bytes
  referenceKeyID : Bytes
  referencePrivateSeed : Bytes
  rootKey : Bytes
  rootBearer : Bytes
  clientEncryptionKey : Bytes
  trustedCheckpoint : Option HandoffCheckpoint
  handoffDigest : Bytes
  deriving DecidableEq, Repr

/-- The third-party functions that a session rests on. Parsing the certificates and
writing them again fails exactly when `s3HTTPClient` would. -/
structure SessionPlatform extends Platform where
  trimSpace : Bytes → Bytes
  canonicalTLSRootCAPEM : Bytes → Option Bytes
  session : StreamJSON PublisherSession

def invalidSession (reason : String) : Err := Sentinel.invalidPublisherSession.tagged [reason]

def orFail {α : Type} (found : Option α) (reason : String) : Except Err α :=
  match found with
  | none => .error (invalidSession reason)
  | some value => .ok value

def parseShareID (text : Bytes) : Option ShareID := do
  let decoded ← base64RawURLDecode text
  if decoded.length = 16 ∧ (⟨decoded⟩ : ShareID) ≠ .zero then some ⟨decoded⟩ else none

def ShareID.text (identifier : ShareID) : Bytes := base64RawURL identifier.bytes

def parseClientEncryptionKey (secret : Bytes) : Option Bytes :=
  if clientEncryptionSecretPrefix.isPrefixOf secret then do
    let encoded := secret.drop clientEncryptionSecretPrefix.length
    let decoded ← base64RawURLDecode encoded
    if decoded.length = 32 ∧ base64RawURL decoded = encoded ∧ decoded ≠ List.replicate 32 0 then
      some decoded
    else none
  else none

def canonicalPublisherSessionTime (time : GoTime) : Bool :=
  time.instant != zeroTime && time.utc && time.instant % 1000000000 == 0 && !time.monotonic

def validatePublisherSessionAbsolutePath (path : Bytes) : Bool :=
  path != [] && path.length ≤ maximumPublisherSessionPathBytes && !path.contains 0 &&
    pathIsAbs path && pathClean path == path

def pathWithin (candidate directory : Bytes) : Bool :=
  ((splitSlash directory).filter (· ≠ [])).isPrefixOf ((splitSlash candidate).filter (· ≠ []))

def validateSelectedPath (path : Bytes) : Bool :=
  path != [] && path != dot && !pathIsAbs path && !path.contains 0 &&
    !escapes (pathClean path) && pathClean path == path

def checkSelectedPaths : Nat → Option Bytes → List Bytes → Except Err Unit
  | _, _, [] => .ok ()
  | selectedBytes, previous, selected :: rest => do
      failIf (selected = [] ∨ selected.length > maximumPublisherSessionPathBytes ∨
          validateSelectedPath selected = false ∨ selected.contains 0 ∨
          previous.any fun path => selected ≤ path)
        (invalidSession "invalid selected path")
      failIf (selectedBytes + selected.length > maximumPublisherSessionSelectedPathBytes)
        (invalidSession "selected paths exceed their aggregate limit")
      checkSelectedPaths (selectedBytes + selected.length) (some selected) rest

def validPublisherSessionKeyID (keyID : Bytes) : Bool :=
  keyID != [] && keyID.length ≤ maximumRecoveryKeyIDBytes && keyID.all fun character =>
    (97 ≤ character && character ≤ 122) || (65 ≤ character && character ≤ 90) ||
      (48 ≤ character && character ≤ 57) || character == 45 || character == 95 ||
      character == 46 || character == 58

section

variable (platform : SessionPlatform)

/-- `validatePublisherSessionText` and `validateHandoffText` make the same checks. -/
def validText (text : Bytes) (maximum : Nat) (allowEmpty : Bool) : Bool :=
  (allowEmpty || text != []) && text.length ≤ maximum && validUTF8 text && !text.contains 0 &&
    platform.trimSpace text == text

def validateStrictShareEndpointTrust (endpoint : Bytes) (allowHTTP hasTLSCA : Bool) : Bool :=
  if endpoint = [] then hasTLSCA && !allowHTTP
  else match platform.parseURL endpoint with
    | none => false
    | some parsed =>
        parsed.host != [] && !parsed.user && parsed.rawQuery == [] && parsed.fragment == [] &&
          if parsed.scheme = ascii "http" then
            isLiteralLoopback platform.toPlatform parsed.hostname && allowHTTP && !hasTLSCA
          else parsed.scheme == ascii "https" && !allowHTTP && hasTLSCA

def checkSessionIdentity (value : PublisherSession) : Except Err (Nat × ShareID × RepositoryID) := do
  failIf (value.format ≠ publisherSessionFormat ∨ value.profile ≠ publisherSessionProfile)
    (invalidSession "unsupported format or profile")
  let rank ← orFail value.phase.rank "invalid phase or sequence"
  failIf (value.sequence ≠ rank) (invalidSession "invalid phase or sequence")
  failIf (canonicalPublisherSessionTime value.createdAt = false ∨
      canonicalPublisherSessionTime value.authorizationExpiresAt = false ∨
      value.authorizationExpiresAt.instant ≤ value.createdAt.instant ∨
      value.authorizationExpiresAt.instant - value.createdAt.instant > maximumCapabilityLifetime)
    (invalidSession "invalid fixed authorization window")
  let shareID ← orFail (parseShareID value.shareID) "invalid share identity"
  let repositoryID ← orFail (parseRepositoryID value.repositoryID) "invalid repository identity"
  failIf repositoryID.isZero (invalidSession "invalid repository identity")
  failIf (validPublisherSessionKeyID value.recoveryKeyID = false)
    (invalidSession "invalid recovery key identity")
  return (rank, shareID, repositoryID)

def checkSessionPaths (value : PublisherSession) : Except Err Unit := do
  failIf (validatePublisherSessionAbsolutePath value.sourcePath = false)
    (invalidSession "invalid source path")
  failIf (validatePublisherSessionAbsolutePath value.handoffPath = false)
    (invalidSession "invalid handoff path")
  failIf (value.sourcePath = value.handoffPath) (invalidSession "source and handoff paths collide")
  failIf (pathWithin value.handoffPath value.sourcePath)
    (invalidSession "handoff path is inside the source")
  let selectedPaths ← orFail value.selectedPaths "invalid source selection"
  failIf (value.selectAll = (selectedPaths != [])) (invalidSession "invalid source selection")
  failIf (selectedPaths.length > maximumPublisherSessionSelectedPaths)
    (invalidSession "too many selected paths")
  checkSelectedPaths 0 none selectedPaths

def checkSessionStorage (value : PublisherSession) : Except Err Unit := do
  failIf (validText platform value.bucket 1024 false = false ∨
      validText platform value.keyPrefix maximumHandoffPrefixBytes false = false ∨
      trimSlashes value.keyPrefix ≠ value.keyPrefix ∨
      validText platform value.region 256 false = false ∨
      validText platform value.endpoint maximumPublisherSessionEndpointBytes true = false ∨
      validText platform value.expectedBucketOwner 256 true = false)
    (invalidSession "invalid S3 configuration")
  let certificates := value.tlsRootCAPEM.getD []
  failIf (certificates.length > maximumTLSRootCAPEMBytes)
    (invalidSession "TLS CA exceeds its limit")
  failIf (platform.canonicalTLSRootCAPEM certificates ≠ some certificates)
    (invalidSession "TLS CA is not a canonical certificate-only bundle")
  failIf (validateStrictShareEndpointTrust platform value.endpoint value.allowInsecureEndpoint
      (certificates != []) = false)
    (invalidSession "invalid endpoint trust")

def checkSessionKeys (value : PublisherSession) (shareID : ShareID) : Except Err Unit := do
  failIf (value.repositoryPrefix ≠ value.keyPrefix ++ ascii "/shares/" ++ ShareID.text shareID ∨
      validText platform value.repositoryPrefix maximumHandoffPrefixBytes false = false)
    (invalidSession "invalid repository namespace")
  failIf (validText platform value.channel maximumHandoffChannelBytes false = false ∨
      validPublisherSessionKeyID value.referenceKeyID = false)
    (invalidSession "invalid reference identity")
  failIf (value.referenceKey ≠ value.repositoryPrefix ++ ascii "/.s3disk/v1/signed-refs/v1/" ++
        base64RawURL value.channel ∨
      validText platform value.referenceKey 1024 false = false)
    (invalidSession "invalid reference key")
  failIf (value.referencePrivateSeed.length ≠ 32) (invalidSession "invalid reference signing seed")
  let rootPrefix := value.repositoryPrefix ++ ascii "/share-root/"
  failIf (rootPrefix.isPrefixOf value.rootKey = false ∨ value.rootKey.length > 1024)
    (invalidSession "invalid root key")
  let rootNonce := value.rootKey.drop rootPrefix.length
  let decodedNonce ← orFail (base64RawURLDecode rootNonce) "invalid root namespace"
  failIf (decodedNonce.length ≠ 32 ∨ base64RawURL decodedNonce ≠ rootNonce)
    (invalidSession "invalid root namespace")
  failIf (value.rootBearer = [] ∨ value.rootBearer.length > maximumBearerExportBytes)
    (invalidSession "invalid root bearer size")
  failIf (parseClientEncryptionKey value.clientEncryptionKey = none)
    (invalidSession "invalid client encryption key")

def checkSessionEvidence (value : PublisherSession) (rank : Nat) : Except Err Unit := do
  failIf (decide (rank ≥ 4) ≠ value.trustedCheckpoint.isSome)
    (invalidSession "checkpoint does not match phase")
  value.trustedCheckpoint.forM fun checkpoint => do
    let commit ← orFail (parseDigest checkpoint.commit) "invalid trusted checkpoint"
    failIf (commit.isZero ∨ checkpoint.generation = 0 ∨ hexEncode commit.bytes ≠ checkpoint.commit)
      (invalidSession "invalid trusted checkpoint")
  failIf (decide (rank ≥ 5) ≠ (value.handoffDigest != []))
    (invalidSession "handoff digest does not match phase")
  if value.handoffDigest ≠ [] then do
    let digest ← orFail (parseDigest value.handoffDigest) "invalid handoff digest"
    failIf (digest.isZero ∨ hexEncode digest.bytes ≠ value.handoffDigest)
      (invalidSession "invalid handoff digest")
  failIf (value.phase = .completed ∧ value.once = false)
    (invalidSession "continuous session cannot be completed")

/-- The checks in the order of the source. A nonzero repository and a nonzero key are all
that `NewClientEncryptionProfile` asks for. -/
def validatePublisherSession (value : PublisherSession) : Except Err Unit := do
  let (rank, shareID, _) ← checkSessionIdentity value
  checkSessionPaths value
  checkSessionStorage platform value
  checkSessionKeys platform value shareID
  checkSessionEvidence value rank

def encodePublisherSession (value : PublisherSession) : Except Err Bytes := do
  validatePublisherSession platform value
  match platform.session.marshal value with
  | none => .error (invalidSession "encode canonical state")
  | some encoded =>
      if encoded.length + 1 > maximumPublisherSessionBytes then
        .error ⟨[.invalidPublisherSession, .resourceLimit],
          [.text Sentinel.invalidPublisherSession.text, ": ", .text Sentinel.resourceLimit.text,
            ": state exceeds ", .number maximumPublisherSessionBytes, " bytes"]⟩
      else .ok (encoded ++ [10])

def decodePublisherSession (encoded : Bytes) : Except Err PublisherSession := do
  failIf (encoded.length < 2 ∨ encoded.length > maximumPublisherSessionBytes)
    (Err.mk [.invalidPublisherSession, .resourceLimit]
      [.text Sentinel.invalidPublisherSession.text, ": ", .text Sentinel.resourceLimit.text,
        ": state size is invalid"])
  let (value, another) ← orFail (platform.session.decode encoded) "malformed state"
  failIf another (invalidSession "trailing state value")
  let canonical ← encodePublisherSession platform value
  failIf (encoded ≠ canonical) (invalidSession "state is not canonical")
  return value

def recordEvidence (next : PublisherSession) (checkpoint : Option HandoffCheckpoint)
    (handoffDigest : Digest) : Except Err PublisherSession :=
  match next.phase with
  | .initialPublicationReady =>
      if checkpoint = none ∨ handoffDigest ≠ .zero then
        .error (invalidSession "initial publication requires only a checkpoint")
      else .ok { next with trustedCheckpoint := checkpoint }
  | .initialRootReady =>
      if checkpoint ≠ none ∨ handoffDigest.isZero then
        .error (invalidSession "initial root requires only a handoff digest")
      else .ok { next with handoffDigest := hexEncode handoffDigest.bytes }
  | _ =>
      if checkpoint ≠ none ∨ handoffDigest.isZero = false then
        .error (invalidSession "unexpected phase evidence")
      else .ok next

def nextPublisherSession (current : PublisherSession) (phase : PublisherSessionPhase)
    (checkpoint : Option HandoffCheckpoint) (handoffDigest : Digest) :
    Except Err PublisherSession := do
  validatePublisherSession platform current
  let currentRank := current.phase.rank.getD 0
  let nextRank ← orFail phase.rank "phase must advance by exactly one step"
  failIf (nextRank ≠ currentRank + 1) (invalidSession "phase must advance by exactly one step")
  let next ← recordEvidence { current with phase, sequence := nextRank } checkpoint handoffDigest
  validatePublisherSession platform next
  return next

end

end S3Disk.CLI
