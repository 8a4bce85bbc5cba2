import S3Disk.Library.Contract
import S3Disk.Services

/-! The repository over an object store: immutable objects under their digests,
mutable references, and the signed envelope of a reference. -/

namespace S3Disk

open Concurrent

def maxStoreVersionTokenBytes : Nat := 4 * 1024
def maxObjectKeyBytes : Nat := 1024
def maxReferenceKeyIDBytes : Nat := 128
def maxReferenceSignatureSize : Nat := 512

def validateStoreVersion (operation : List Fragment) (version : Version) : Except Err Unit :=
  if version.eTag = [] then
    .error (Sentinel.storeIncompatible.tagged (operation ++ [.text " returned an empty ETag"]))
  else if version.eTag.length > maxStoreVersionTokenBytes ∨
      version.versionID.length > maxStoreVersionTokenBytes then
    .error (Sentinel.storeIncompatible.tagged
      (operation ++ [.text " returned an oversized version token"]))
  else .ok ()

def validateChannel (channel : Channel) : Except Err Unit :=
  if channel = [] ∨ validUTF8 channel = false ∨ 0 ∈ channel ∨ channel.length > 1024 then
    .error (Sentinel.invalidPath.tagged ["invalid channel"])
  else .ok ()

theorem validUTF8_of_channel {channel : Channel} (named : validateChannel channel = .ok ()) :
    validUTF8 channel = true := by
  unfold validateChannel at named
  split at named
  · cases named
  · rename_i accepted
    simp only [not_or, Bool.not_eq_false] at accepted
    exact accepted.2.1

structure Repository where
  wire : Wire
  keyPrefix : Bytes

def base64Length (length : Nat) : Nat := (length * 8 + 5) / 6

namespace Repository

variable (repository : Repository)

def keyLength (relative : Nat) : Nat :=
  (if repository.keyPrefix = [] then 0 else repository.keyPrefix.length + 1) +
    ".s3disk/v1".length + 1 + relative

def referenceKey (channel : Channel) : Key := .reference channel

def signedReferenceKey (channel : Channel) : Key := .signedReference channel

def signedReferenceKeyLength (channel : Channel) : Nat :=
  repository.keyLength ("signed-refs/v1/".length + base64Length channel.length)

def objectKey (kind : Kind) (digest : Digest) : Key := .object kind digest

def validateChannel (channel : Channel) : Except Err Unit := do
  S3Disk.validateChannel channel
  failIf (repository.signedReferenceKeyLength channel > maxObjectKeyBytes)
    (Sentinel.invalidPath.tagged ["channel and repository prefix exceed the object-key limit"])

def putImmutable (kind : Kind) (data : Bytes) : Proc Digest := do
  let digest := repository.wire.digestObject kind data
  let key := objectKey kind digest
  match ← (storeHead key).attempt with
  | .ok version =>
      .ofExcept (validateStoreVersion ["HEAD immutable ", kind.text] version)
      return digest
  | .error missing =>
      failIf (missing.is .objectNotFound = false) (missing.within ["head immutable ", kind.text])
      match ← (storePutIfAbsent key data).attempt with
      | .ok version =>
          .ofExcept (validateStoreVersion ["PutIfAbsent immutable ", kind.text] version)
          return digest
      | .error refused =>
          failIf (refused.is .precondition = false) (refused.within ["put immutable ", kind.text])
          match ← (storeHead key).attempt with
          | .error error =>
              throw (error.within ["head immutable ", kind.text, " after precondition"])
          | .ok version =>
              .ofExcept
                (validateStoreVersion ["HEAD immutable ", kind.text, " after precondition"] version)
              return digest

def putManifest {α : Type} (kind : Kind) (json : JSON α) (value : α) : Proc Digest := do
  let data := json.marshal value
  failIf (data.length > maxMetadataObjectBytes)
    (Sentinel.resourceLimit.tagged [kind.text, " manifest is ", .number data.length,
      " bytes (maximum ", .number maxMetadataObjectBytes, ")"])
  repository.putImmutable kind data

def getImmutableLimited (kind : Kind) (digest : Digest) (limit : Nat) : Proc Bytes := do
  match ← (storeGet (objectKey kind digest) ⟨[], limit⟩).attempt with
  | .error error =>
      throw (error.within ["get immutable ", kind.text, " ", .hex digest.bytes])
  | .ok object =>
      .ofExcept (validateStoreVersion ["GET immutable ", kind.text] object.version)
      failIf (object.data.length > limit)
        (Sentinel.resourceLimit.tagged [kind.text, " object exceeds ", .number limit, " bytes"])
      let actual := repository.wire.digestObject kind object.data
      failIf (actual ≠ digest)
        (Sentinel.corruptObject.tagged [kind.text, " object ", .hex digest.bytes, " hashed to ",
          .hex actual.bytes])
      return object.data

def getImmutable (kind : Kind) (digest : Digest) : Proc Bytes :=
  repository.getImmutableLimited kind digest
    (if kind = .chunk then maxChunkObjectBytes else maxMetadataObjectBytes)

def getImmutableExact (kind : Kind) (digest : Digest) (expectedSize : Int) : Proc Bytes := do
  let maximum := if kind = .chunk then maxChunkObjectBytes else maxMetadataObjectBytes
  failIf (expectedSize < 1 ∨ expectedSize > maximum)
    (Sentinel.resourceLimit.tagged ["invalid ", kind.text, " object size ", .number expectedSize])
  let data ← repository.getImmutableLimited kind digest expectedSize.toNat
  failIf (data.length ≠ expectedSize)
    (Sentinel.corruptObject.tagged [kind.text, " object size is ", .number data.length,
      ", expected ", .number expectedSize])
  return data

def getManifest {α : Type} (kind : Kind) (json : JSON α) (digest : Digest) : Proc α := do
  let data ← repository.getImmutable kind digest
  .ofExcept (decodeJSON json data)

end Repository

def validateReferenceKeyID (keyID : Bytes) : Except Err Unit :=
  if keyID = [] ∨ keyID.length > maxReferenceKeyIDBytes then
    .error (Sentinel.untrustedReference.tagged ["invalid reference key ID"])
  else if keyID.all (fun character => (ascii
      "abcdefghijklmnopqrstuvwxyzABCDEFGHIJKLMNOPQRSTUVWXYZ0123456789._:-").contains character) then
    .ok ()
  else .error (Sentinel.untrustedReference.tagged ["invalid reference key ID"])

def bigEndian64 (value : Nat) : Bytes :=
  [56, 48, 40, 32, 24, 16, 8, 0].map fun shift => UInt8.ofNat (value >>> shift)

def referenceSigningMessage (payload : Bytes) : Bytes :=
  ascii "s3disk\x00signed-reference\x00v1\x00" ++ bigEndian64 payload.length ++ payload

structure ReferenceSigner where
  repositoryID : RepositoryID
  keyID : Bytes
  deriving DecidableEq, Repr

structure ReferenceVerifier where
  repositoryID : RepositoryID
  deriving DecidableEq, Repr

def signSnapshotReference (wire : Wire) (channel : Channel) (reference : SnapshotReference)
    (signer : ReferenceSigner) (verifier : ReferenceVerifier) : Proc Bytes := do
  failIf (signer.repositoryID.isZero ∨ signer.repositoryID ≠ verifier.repositoryID)
    (Sentinel.untrustedReference.tagged ["mismatched reference signer and verifier"])
  .ofExcept (validateReferenceKeyID signer.keyID)
  let payload : SignedReferencePayload :=
    { format := objectFormatVersion, repositoryID := signer.repositoryID, channel,
      generation := reference.generation, commit := reference.commit, keyID := signer.keyID }
  let message := referenceSigningMessage (wire.payload.marshal payload)
  match ← (signerSign message).attempt with
  | .error error => throw (error.within ["sign snapshot reference"])
  | .ok signature =>
      failIf (signature = [] ∨ signature.length > maxReferenceSignatureSize)
        (Sentinel.untrustedReference.tagged ["invalid reference signature length"])
      match ← (verifierVerify payload.keyID message signature).attempt with
      | .error error => throw (error.within ["verify publisher reference signature"])
      | .ok () =>
          return wire.envelope.marshal
            { format := objectFormatVersion, reference := payload, signature }

def checkSignedEnvelope (wire : Wire) (data : Bytes) (channel : Channel)
    (verifier : ReferenceVerifier) : Except Err SignedReferenceEnvelope :=
  match decodeJSON wire.envelope data with
  | .error error => .error (Sentinel.invalidReference.wraps error)
  | .ok envelope =>
      let payload := envelope.reference
      if envelope.format ≠ objectFormatVersion ∨ payload.format ≠ objectFormatVersion ∨
          payload.repositoryID ≠ verifier.repositoryID ∨ payload.channel ≠ channel ∨
          payload.generation = 0 ∨ payload.commit.isZero ∨ envelope.signature = [] ∨
          envelope.signature.length > maxReferenceSignatureSize then
        .error (Sentinel.invalidReference.wraps
          (Sentinel.untrustedReference.tagged ["signed reference context mismatch"]))
      else match validateReferenceKeyID payload.keyID with
        | .error error => .error (Sentinel.invalidReference.wraps error)
        | .ok () => .ok envelope

def verifySignedSnapshotReference (wire : Wire) (data : Bytes) (channel : Channel)
    (verifier : ReferenceVerifier) : Proc SnapshotReference := do
  failIf (verifier.repositoryID.isZero)
    (Sentinel.untrustedReference.tagged ["missing reference verifier"])
  let envelope ← .ofExcept (checkSignedEnvelope wire data channel verifier)
  let payload := envelope.reference
  let message := referenceSigningMessage (wire.payload.marshal payload)
  match ← (verifierVerify payload.keyID message envelope.signature).attempt with
  | .error error => throw (Sentinel.invalidReference.wraps error)
  | .ok () => return ⟨payload.format, payload.generation, payload.commit⟩

structure SnapshotReferenceIdentity where
  repositoryID : RepositoryID
  generation : Nat
  commit : Digest
  authenticated : Bool
  deriving DecidableEq, Repr

def parseSnapshotReference (wire : Wire) (data : Bytes) (channel : Channel) :
    Option ReferenceVerifier → Proc SnapshotReference
  | none => .ofExcept ((decodeJSON wire.reference data).mapError fun error =>
      Sentinel.invalidReference.tagged error.message)
  | some verifier => verifySignedSnapshotReference wire data channel verifier

def verifySnapshotReference (wire : Wire) (data : Bytes) (channel : Channel)
    (verifier : Option ReferenceVerifier) : Proc SnapshotReferenceIdentity := do
  contextErr
  .ofExcept (validateChannel channel)
  failIf (data = [] ∨ data.length > maxReferenceBytes) Sentinel.invalidReference.error
  let reference ← parseSnapshotReference wire data channel verifier
  failIf (reference.format ≠ objectFormatVersion ∨ reference.generation = 0 ∨
    reference.commit.isZero) Sentinel.invalidReference.error
  return {
    repositoryID := (verifier.map (·.repositoryID)).getD .zero
    generation := reference.generation
    commit := reference.commit
    authenticated := verifier.isSome }

namespace Repository

variable (repository : Repository)

def getReferenceWithVerifier (channel : Channel) (ifNoneMatch : Bytes)
    (verifier : Option ReferenceVerifier) : Proc (SnapshotReference × Object) := do
  let key := if verifier.isSome then signedReferenceKey channel
    else referenceKey channel
  let object ← storeGet key ⟨ifNoneMatch, maxReferenceBytes⟩
  .ofExcept (validateStoreVersion ["GET mutable reference"] object.version)
  let identity ← verifySnapshotReference repository.wire object.data channel verifier
  return (⟨objectFormatVersion, identity.generation, identity.commit⟩, object)

def compareAndSwap (key : Key) (expected : Option Version) (data : Bytes) : Proc Version := do
  let version ← storeCompareAndSwap key expected data
  .ofExcept (validateStoreVersion ["CompareAndSwap"] version)
  return version

end Repository

def validateCommitManifest (commit : CommitManifest) (generation : Nat) : Except Err Unit :=
  if commit.format ≠ objectFormatVersion ∨ commit.generation ≠ generation ∨ commit.root.isZero then
    .error (Sentinel.corruptObject.tagged ["invalid commit header"])
  else if generation = 1 then
    if commit.parent.isSome then
      .error (Sentinel.corruptObject.tagged ["first commit has a parent"])
    else .ok ()
  else match commit.parent with
    | none => .error (Sentinel.corruptObject.tagged
        ["commit generation ", .number generation, " has no parent"])
    | some parent =>
        if parent.isZero then .error (Sentinel.corruptObject.tagged
          ["commit generation ", .number generation, " has no parent"])
        else .ok ()

theorem validateCommitManifest_ok {commit : CommitManifest} {generation : Nat} :
    validateCommitManifest commit generation = .ok () ↔
      commit.format = objectFormatVersion ∧ commit.generation = generation ∧
        commit.root.isZero = false ∧
        (if generation = 1 then commit.parent = none
         else ∃ parent, commit.parent = some parent ∧ parent.isZero = false) := by
  unfold validateCommitManifest
  by_cases header : commit.format ≠ objectFormatVersion ∨ commit.generation ≠ generation ∨
      commit.root.isZero
  · simp only [header, if_true, reduceCtorEq, false_iff]
    rintro ⟨format, same, root, _⟩
    rcases header with wrong | wrong | wrong
    · exact wrong format
    · exact wrong same
    · simp [root] at wrong
  · simp only [header, if_false]
    simp only [not_or, not_not, Bool.not_eq_true] at header
    simp only [header, true_and]
    by_cases first : generation = 1
    · cases parent : commit.parent with
      | none => simp [first]
      | some digest => simp [first]
    · cases parent : commit.parent with
      | none => simp [first]
      | some digest => simp [first]

end S3Disk
