import S3Disk.Share.Capability

/-! The signed bundle of a share: how it is built from a resolved closure, with one
presigned capability for each object, and how its bytes are decoded and checked. -/

namespace S3Disk.Share

open Concurrent

def bundleFormat : Int := 1
def maximumBundleBytes : Nat := 64 * 1024 * 1024
def maximumBundleCapabilities : Nat := 65536
def maximumReferenceBytes : Nat := 4 * 1024
def maximumShareSignatureBytes : Nat := 512
def maximumShareKeyIDBytes : Nat := 128

def invalidBundle (reason : String) : Err := Sentinel.invalidBundle.tagged [reason]

def untrustedBundle (reason : String) : Err := Sentinel.untrustedBundle.tagged [reason]

def repositoryObjectNamespace (keyPrefix : Bytes) : Bytes :=
  if keyPrefix = [] then ascii ".s3disk/v1/" else keyPrefix ++ ascii "/.s3disk/v1/"

def relativeKey (keyPrefix key : Bytes) : Option Bytes :=
  let space := repositoryObjectNamespace keyPrefix
  if space.isPrefixOf key then some (key.drop space.length) else none

def channelFromReferenceRemainder (relative : Bytes) : Option (Channel × Bool) := do
  let (encodedChannel, signed) ←
    if (ascii "refs/").isPrefixOf relative then some (relative.drop (ascii "refs/").length, false)
    else if (ascii "signed-refs/v1/").isPrefixOf relative then
      some (relative.drop (ascii "signed-refs/v1/").length, true)
    else none
  if encodedChannel = [] ∨ encodedChannel.contains slash then none
  else
    let channel ← base64RawURLDecode encodedChannel
    if channel = [] ∨ channel.length > 1024 ∨ validUTF8 channel = false ∨ channel.contains 0 ∨
        base64RawURL channel ≠ encodedChannel then none
    else some (channel, signed)

def lowercaseHex (text : Bytes) : Bool :=
  text.all fun character =>
    (48 ≤ character && character ≤ 57) || (97 ≤ character && character ≤ 102)

def validImmutableRemainder (relative : Bytes) : Bool :=
  match splitSlash relative with
  | [objects, kind, hash, shard, digest] =>
      objects == ascii "objects" && (hash == ascii "sha256" || hash == ascii "hmac-sha256") &&
        ["commit", "dir", "file", "symlink", "chunk"].any (fun known => ascii known == kind) &&
        shard.length == 2 && digest.length == 64 && shard == digest.take 2 &&
        lowercaseHex shard && lowercaseHex digest
  | _ => false

def validReferenceRemainder (relative : Bytes) : Bool :=
  (channelFromReferenceRemainder relative).isSome

def validateBundleBindings (repositoryPrefix referenceKey : Bytes) (shareID : ShareID)
    (revision generation : Nat) : Except Err Bytes := do
  failIf (validUTF8 repositoryPrefix = false ∨ repositoryPrefix.contains 0)
    (invalidBundle "repository prefix is invalid")
  let keyPrefix := trimSlashes repositoryPrefix
  failIf (shareID = .zero ∨ revision = 0 ∨ generation = 0)
    (invalidBundle "share ID, revision, and generation must be nonzero")
  failIf (validObjectKey referenceKey = false) (invalidBundle "reference key is invalid")
  failIf ((relativeKey keyPrefix referenceKey).all (fun relative =>
      validReferenceRemainder relative = false))
    (invalidBundle "reference key is outside the repository reference namespace")
  return keyPrefix

def validateImmutableKey (keyPrefix key : Bytes) : Except Err Unit := do
  failIf (validObjectKey key = false) (invalidBundle "exact object key is invalid")
  failIf ((relativeKey keyPrefix key).all fun relative => validImmutableRemainder relative = false)
    (invalidBundle "capability key is outside the immutable object namespace")

def validateKeyID (keyID : Bytes) : Except Err Unit := do
  failIf (keyID = [] ∨ keyID.length > maximumShareKeyIDBytes)
    (untrustedBundle "signing key ID is invalid")
  failIf (keyID.any fun character => !(ascii
      "abcdefghijklmnopqrstuvwxyzABCDEFGHIJKLMNOPQRSTUVWXYZ0123456789._:-").contains character)
    (untrustedBundle "signing key ID is invalid")

/-- The length of a string as HTML-safe JSON. The number counts the bytes left of the
rune that was measured last. -/
def jsonStringBody : Nat → Bytes → Nat
  | _, [] => 0
  | skip + 1, _ :: rest => jsonStringBody skip rest
  | 0, character :: rest =>
      if character < 0x80 then
        (if [8, 12, 10, 13, 9, 92, 34].contains character then 2
          else if [60, 62, 38].contains character ∨ character < 0x20 then 6 else 1) +
          jsonStringBody 0 rest
      else match runeWidth character rest with
        | none => 6 + jsonStringBody 0 rest
        | some width =>
            (if character = 0xE2 ∧ [[0x80, 0xA8], [0x80, 0xA9]].contains (rest.take 2) then 6
              else width) + jsonStringBody (width - 1) rest

def jsonStringBytes (text : Bytes) : Nat := 2 + jsonStringBody 0 text

structure ExactCapability where
  key : Bytes
  capability : Capability
  deriving DecidableEq, Repr

structure BuildInput where
  rootCapability : Capability
  rootKey : Bytes
  repositoryPrefix : Bytes
  referenceKey : Bytes
  shareID : ShareID
  revision : Nat
  referenceGeneration : Nat
  referenceCommit : Digest
  reference : Object
  authorizationExpiresAt : Time
  capabilities : List ExactCapability
  dangerouslyAllowUncheckedCapabilities : Bool

structure ShareVerifier extends ReferenceVerifier where
  offline : Bool

structure DecodeOptions where
  rootCapability : Capability
  repositoryPrefix : Bytes
  referenceKey : Bytes
  shareID : ShareID
  allowInsecureLoopback : Bool
  dangerouslyAllowCustomReferenceVerifier : Bool

def addEstimate (total size : Nat) : Except Err Nat := do
  failIf (total + size > maximumBundleBytes)
    (Sentinel.invalidBundle.tagged ["estimated encoded bytes exceed ", .number maximumBundleBytes])
  return total + size

def estimateHeader (total : Nat) (header : Bytes × List Bytes) : Except Err Nat := do
  let total ← addEstimate total 64
  let total ← addEstimate total (jsonStringBytes header.1)
  header.2.foldlM (fun total value => do
    let total ← addEstimate total 2
    addEstimate total (jsonStringBytes value)) total

def estimateCapability (total : Nat) (entry : ExactCapability) : Except Err Nat := do
  let total ← addEstimate total 256
  let total ← addEstimate total (jsonStringBytes entry.key)
  let total ← addEstimate total (jsonStringBytes entry.capability.rawURL)
  entry.capability.headers.foldlM estimateHeader total

def estimateCapabilities : Nat → Nat → List ExactCapability → Sharing Unit
  | _, _, [] => return ()
  | index, total, entry :: rest => do
      contextErrAt index
      let total ← .ofExcept (estimateCapability total entry)
      estimateCapabilities (index + 1) total rest

def base64PaddedLength (length : Nat) : Nat := (length + 2) / 3 * 4

def preflightBuildInput (input : BuildInput) : Sharing Unit := do
  failIf (input.capabilities.length < 1 ∨ input.capabilities.length > maximumBundleCapabilities)
    (invalidBundle "capability count is outside the permitted bound")
  failIf (input.reference.data = [] ∨ input.reference.data.length > maximumReferenceBytes)
    (invalidBundle "reference byte length is invalid")
  let total ← .ofExcept ([base64PaddedLength input.reference.data.length,
    jsonStringBytes input.repositoryPrefix, jsonStringBytes input.referenceKey,
    jsonStringBytes input.reference.version.eTag,
    jsonStringBytes input.reference.version.versionID].foldlM addEstimate (8 * 1024))
  estimateCapabilities 0 total input.capabilities

def bundleSigningMessage (payload : Bytes) : Bytes :=
  ascii "s3disk\x00presigned-share-bundle\x00v1\x00" ++ bigEndian64 payload.length ++ payload

section

variable (platform : Platform)

def validateReference (reference : Object) (keyPrefix referenceKey : Bytes) (generation : Nat)
    (commit : Digest) (verifier : ReferenceVerifier) : Sharing Unit := do
  failIf (reference.data = [] ∨ reference.data.length > maximumReferenceBytes)
    (invalidBundle "reference byte length is invalid")
  failIf (reference.version.eTag = [] ∨ reference.version.eTag.length > maxStoreVersionTokenBytes ∨
      reference.version.versionID.length > maxStoreVersionTokenBytes ∨
      (reference.version.eTag ++ reference.version.versionID).any
        (fun byte => byte == 0 || byte == 13 || byte == 10))
    (invalidBundle "reference version is invalid")
  match channelFromReferenceRemainder ((relativeKey keyPrefix referenceKey).getD referenceKey) with
  | none => throw (invalidBundle "reference channel encoding is invalid")
  | some (channel, signed) =>
      let referenceVerifier := if signed then some verifier else none
      match ← Fallible.attempt (embed (verifySnapshotReference platform.wire reference.data channel
          referenceVerifier)) with
      | .error error =>
          contextErr
          if error.is .untrustedReference then
            throw (untrustedBundle "embedded signed reference verification failed")
          else throw (invalidBundle "embedded reference encoding is invalid")
      | .ok info =>
          failIf (generation = 0 ∨ commit.isZero ∨ info.generation ≠ generation ∨
              info.commit ≠ commit)
            (invalidBundle "embedded reference identity does not match generation and commit")

def checkBundleEntry (input : BuildInput) (keyPrefix previous : Bytes) (entry : ExactCapability) :
    Except Err WireExactCapability := do
  validateImmutableKey keyPrefix entry.key
  failIf (entry.key = previous) (invalidBundle "duplicate exact object key")
  let capability := entry.capability
  failIf (capability.configured = false ∨ capability.origin ≠ input.rootCapability.origin)
    (invalidBundle "capability origin does not match root")
  failIf (capability.exactKey ≠ entry.key)
    (invalidBundle "capability exact key does not match bundle key")
  failIf (capability.provenance ≠ .exactGET ∧ input.dangerouslyAllowUncheckedCapabilities = false)
    (invalidBundle "object capability lacks verified exact-GET mint provenance")
  failIf (capability.expiresAt ≠ input.authorizationExpiresAt)
    (invalidBundle "capability expiry must equal authorization expiry")
  return ⟨entry.key, capability.rawURL, headersToWire capability.headers,
    ⟨capability.expiresAt, 0⟩⟩

def bundleEntries (input : BuildInput) (keyPrefix : Bytes) :
    Nat → Bytes → List ExactCapability → Sharing (List WireExactCapability)
  | _, _, [] => return []
  | index, previous, entry :: rest => do
      contextErrAt index
      let wire ← .ofExcept (checkBundleEntry input keyPrefix previous entry)
      let others ← bundleEntries input keyPrefix (index + 1) entry.key rest
      return wire :: others

def payloadFromInput (input : BuildInput) (repositoryID : RepositoryID) (keyID : Bytes)
    (verifier : ReferenceVerifier) (now : Time) : Sharing BundlePayload := do
  let keyPrefix ← .ofExcept (validateBundleBindings input.repositoryPrefix input.referenceKey
    input.shareID input.revision input.referenceGeneration)
  failIf (input.rootCapability.configured = false) (invalidBundle "root capability is required")
  failIf (validObjectKey input.rootKey = false ∨ input.rootCapability.exactKey ≠ input.rootKey)
    (invalidBundle "root capability exact key does not match")
  failIf (input.rootCapability.provenance ≠ .exactGET ∧
      input.dangerouslyAllowUncheckedCapabilities = false)
    (invalidBundle "root capability lacks verified exact-GET mint provenance")
  let authorizationExpiry := input.authorizationExpiresAt
  failIf (authorizationExpiry = zeroTime ∨ authorizationExpiry ≤ now ∨
      authorizationExpiry ≠ input.rootCapability.expiresAt ∨
      authorizationExpiry - now > maximumCapabilityLifetime)
    (invalidBundle "authorization expiry is invalid")
  validateReference platform input.reference keyPrefix input.referenceKey
    input.referenceGeneration input.referenceCommit verifier
  failIf (input.capabilities.length < 1 ∨ input.capabilities.length > maximumBundleCapabilities)
    (invalidBundle "capability count is outside the permitted bound")
  let capabilities ← bundleEntries input keyPrefix 0 []
    (input.capabilities.insertionSort fun left right => left.key ≤ right.key)
  return { format := bundleFormat, repositoryID, repositoryPrefix := keyPrefix,
           referenceKey := input.referenceKey, shareID := input.shareID,
           revision := input.revision, referenceGeneration := input.referenceGeneration,
           referenceCommit := input.referenceCommit, reference := input.reference,
           authorizationExpiresAt := ⟨authorizationExpiry, 0⟩, keyID, capabilities }

def signBundle (payload : BundlePayload) (signer : ReferenceSigner) : Sharing Bytes := do
  match platform.payload payload with
  | none => throw (invalidBundle "encode payload")
  | some payloadBytes =>
      match ← (signerSign (bundleSigningMessage payloadBytes)).attempt with
      | .error _ => throw (untrustedBundle "signing failed")
      | .ok signature =>
          failIf (signature = [] ∨ signature.length > maximumShareSignatureBytes)
            (untrustedBundle "signature length is invalid")
          match ← (verifierVerify signer.keyID (bundleSigningMessage payloadBytes)
              signature).attempt with
          | .error _ => throw (untrustedBundle "self-verification failed")
          | .ok () =>
              match platform.bundle.marshal ⟨bundleFormat, payload, signature⟩ with
              | none => throw (invalidBundle "encode envelope")
              | some encoded =>
                  failIf (encoded.length > maximumBundleBytes)
                    (Sentinel.invalidBundle.tagged
                      ["encoded bytes exceed ", .number maximumBundleBytes])
                  return encoded

def build (input : BuildInput) (signer : ReferenceSigner) (verifier : ReferenceVerifier) :
    Sharing Bytes := do
  contextErr
  failIf (signer.repositoryID.isZero ∨ signer.repositoryID ≠ verifier.repositoryID)
    (untrustedBundle "signer and verifier trust roots do not match")
  .ofExcept (validateKeyID signer.keyID)
  preflightBuildInput input
  let time ← now
  let payload ← payloadFromInput platform input signer.repositoryID signer.keyID verifier time
  signBundle platform payload signer

def decodeBundleEntry (options : DecodeOptions) (keyPrefix : Bytes) (authorizationExpiry now : Time)
    (previous : Bytes) (entry : WireExactCapability) : Except Err Capability := do
  failIf (entry.key ≤ previous ∧ previous ≠ [])
    (invalidBundle "capability keys are not uniquely sorted")
  validateImmutableKey keyPrefix entry.key
  let headers ← (headersFromWire entry.headers).mapError
    fun _ => invalidBundle "capability headers are invalid"
  let capability ← (newCapability platform
    ⟨entry.key, entry.url, headers, entry.expiresAt.instant⟩ options.allowInsecureLoopback now
      .authenticatedBundle).mapError fun _ => invalidBundle "encoded capability is invalid"
  failIf (capability.origin ≠ options.rootCapability.origin)
    (invalidBundle "capability origin does not match root")
  failIf (capability.expiresAt ≠ authorizationExpiry)
    (invalidBundle "capability expiry must equal authorization expiry")
  return capability

def decodeBundleEntries (options : DecodeOptions) (keyPrefix : Bytes)
    (authorizationExpiry now : Time) :
    Nat → Bytes → List WireExactCapability → CapabilityMap → Sharing CapabilityMap
  | _, _, [], capabilities => return capabilities
  | index, previous, entry :: rest, capabilities => do
      contextErrAt index
      let capability ← .ofExcept
        (decodeBundleEntry platform options keyPrefix authorizationExpiry now previous entry)
      decodeBundleEntries options keyPrefix authorizationExpiry now (index + 1) entry.key rest
        (capabilities.insert entry.key capability)

def bundleFromPayload (payload : BundlePayload) (options : DecodeOptions)
    (verifier : ReferenceVerifier) (now : Time) : Sharing Bundle := do
  let keyPrefix ← .ofExcept (validateBundleBindings payload.repositoryPrefix payload.referenceKey
    payload.shareID payload.revision payload.referenceGeneration)
  failIf (keyPrefix ≠ trimSlashes options.repositoryPrefix ∨
      payload.referenceKey ≠ options.referenceKey ∨ payload.shareID ≠ options.shareID ∨
      options.shareID = .zero)
    (untrustedBundle "out-of-band share binding does not match")
  failIf (options.rootCapability.configured = false) (invalidBundle "root capability is required")
  let authorizationExpiry := payload.authorizationExpiresAt.instant
  failIf (authorizationExpiry = zeroTime ∨ authorizationExpiry ≤ now ∨
      authorizationExpiry ≠ options.rootCapability.expiresAt ∨
      authorizationExpiry - now > maximumCapabilityLifetime)
    (invalidBundle "authorization expiry is invalid")
  validateReference platform payload.reference keyPrefix payload.referenceKey
    payload.referenceGeneration payload.referenceCommit verifier
  failIf (payload.capabilities.length < 1 ∨
      payload.capabilities.length > maximumBundleCapabilities)
    (invalidBundle "capability count is outside the permitted bound")
  let capabilities ← decodeBundleEntries platform options keyPrefix authorizationExpiry now 0 []
    payload.capabilities ∅
  return { repositoryPrefix := keyPrefix, referenceKey := payload.referenceKey,
           shareID := payload.shareID, revision := payload.revision,
           referenceGeneration := payload.referenceGeneration,
           referenceCommit := payload.referenceCommit, reference := payload.reference,
           authorizationExpiresAt := authorizationExpiry, capabilities }

def decodeEnvelope (data : Bytes) : Sharing SignedBundle := do
  match platform.bundle.decode data with
  | none => throw (invalidBundle "malformed encoding")
  | some (envelope, another) =>
      contextErr
      failIf another (invalidBundle "trailing JSON value")
      failIf (platform.bundle.marshal envelope ≠ some data)
        (invalidBundle "encoding is not canonical")
      return envelope

def decode (data : Bytes) (verifier : ShareVerifier) (options : DecodeOptions) :
    Sharing Bundle := do
  contextErr
  failIf (data = [] ∨ data.length > maximumBundleBytes)
    (invalidBundle "byte length is outside the permitted bound")
  failIf (verifier.offline = false ∧ options.dangerouslyAllowCustomReferenceVerifier = false)
    (untrustedBundle
      "custom verifier requires DangerouslyAllowCustomReferenceVerifier and breaks the S3-only boundary")
  failIf verifier.repositoryID.isZero (untrustedBundle "verifier is required")
  let envelope ← decodeEnvelope platform data
  let payload := envelope.payload
  failIf (envelope.format ≠ bundleFormat ∨ payload.format ≠ bundleFormat ∨
      envelope.signature = [] ∨ envelope.signature.length > maximumShareSignatureBytes)
    (invalidBundle "format or signature length is invalid")
  failIf (payload.repositoryID ≠ verifier.repositoryID)
    (untrustedBundle "repository trust root does not match")
  .ofExcept (validateKeyID payload.keyID)
  match platform.payload payload with
  | none => throw (invalidBundle "encode signed payload")
  | some payloadBytes =>
      match ← (verifierVerify payload.keyID (bundleSigningMessage payloadBytes)
          envelope.signature).attempt with
      | .error _ => throw (untrustedBundle "signature verification failed")
      | .ok () =>
          let time ← now
          bundleFromPayload platform payload options verifier.toReferenceVerifier time

structure SnapshotBundleInput where
  rootKey : Bytes
  rootCapability : Capability
  repositoryPrefix : Bytes
  shareID : ShareID
  revision : Nat
  closure : SnapshotClosure

def checkClosureKeys (keyPrefix : Bytes) : Nat → Bytes → List Bytes → Sharing Unit
  | _, _, [] => return ()
  | index, previous, key :: rest => do
      contextErrAt index
      failIf (key ≤ previous ∧ previous ≠ [])
        (invalidBundle "closure object keys are not uniquely sorted")
      .ofExcept (validateImmutableKey keyPrefix key)
      checkClosureKeys keyPrefix (index + 1) key rest

def safePresignError (error : Err) : Err :=
  (([Sentinel.canceled, .deadlineExceeded, .accessDenied, .rateLimited, .storeUnavailable,
    .storeMisconfigured, .storeIncompatible, .storeOperationUnsupported, .resourceLimit,
    .invalidPath].find? error.is).getD .storeMisconfigured).error

def presignClosure (root : Capability) (expiresAt : Time) :
    Nat → List Bytes → Sharing (List ExactCapability)
  | _, [] => return []
  | index, key :: rest => do
      contextErrAt index
      match ← (presignGet key).attempt with
      | .error error =>
          throw ((safePresignError error).within
            ["presignedshare: presign closure object ", .number index, " failed"])
      | .ok capability =>
          failIf (capability.configured = false ∨ capability.provenance ≠ .exactGET ∨
              capability.exactKey ≠ key ∨ capability.origin ≠ root.origin ∨
              capability.expiresAt ≠ expiresAt)
            (Sentinel.invalidBundle.tagged
              ["presigner returned a mismatched exact capability at index ", .number index])
          let others ← presignClosure root expiresAt (index + 1) rest
          return ⟨key, capability⟩ :: others

def buildSnapshotBundle (input : SnapshotBundleInput) (signer : ReferenceSigner)
    (verifier : ReferenceVerifier) : Sharing Bytes := do
  contextErr
  let closure := input.closure
  .ofExcept ((closure.validateResolved platform.sha256).mapError Sentinel.invalidBundle.wraps)
  let keyPrefix ← .ofExcept (validateBundleBindings input.repositoryPrefix closure.referenceKey
    input.shareID input.revision closure.snapshot.generation)
  failIf (validObjectKey input.rootKey = false ∨ input.rootCapability.configured = false ∨
      input.rootCapability.provenance ≠ .exactGET ∨ input.rootCapability.exactKey ≠ input.rootKey)
    (invalidBundle "root is not a safely minted exact-GET capability")
  let known ← authorizationExpiry
  let time ← now
  let expiresAt := known.getD zeroTime
  failIf (known = none ∨ expiresAt = zeroTime ∨ expiresAt ≠ input.rootCapability.expiresAt ∨
      expiresAt ≤ time)
    (invalidBundle "presigner and root capability expiry do not match")
  validateReference platform ⟨closure.referenceData, closure.referenceVersion⟩ keyPrefix
    closure.referenceKey closure.snapshot.generation closure.snapshot.commit verifier
  failIf (closure.objectKeys.length < 1 ∨ closure.objectKeys.length > maximumBundleCapabilities)
    (invalidBundle "closure capability count is outside the flat bundle bound")
  checkClosureKeys keyPrefix 0 [] closure.objectKeys
  let capabilities ← presignClosure input.rootCapability expiresAt 0 closure.objectKeys
  build platform
    { rootCapability := input.rootCapability, rootKey := input.rootKey,
      repositoryPrefix := input.repositoryPrefix, referenceKey := closure.referenceKey,
      shareID := input.shareID, revision := input.revision,
      referenceGeneration := closure.snapshot.generation,
      referenceCommit := closure.snapshot.commit,
      reference := ⟨closure.referenceData, closure.referenceVersion⟩,
      authorizationExpiresAt := expiresAt, capabilities,
      dangerouslyAllowUncheckedCapabilities := false } signer verifier

end

end S3Disk.Share
