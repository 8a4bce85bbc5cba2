import Mathlib.Logic.Basic
import S3Disk.Library.TextEncoding
import S3Disk.Library.Utf8

/-! The protocol's values: digests, errors, manifests and their encoding.
Strings of the protocol are byte strings. Hashing and JSON are parameters, and a
digest is not bounded to 32 bytes, so that hashing can be assumed collision-free. -/

namespace S3Disk

abbrev Bytes := List UInt8

abbrev Channel := Bytes

structure Digest where
  bytes : Bytes
  deriving DecidableEq, Repr

def Digest.zero : Digest := ⟨List.replicate 32 0⟩

def Digest.isZero (digest : Digest) : Bool := digest == .zero

structure RepositoryID where
  bytes : Bytes
  deriving DecidableEq, Repr

def RepositoryID.zero : RepositoryID := ⟨List.replicate 32 0⟩

def RepositoryID.isZero (id : RepositoryID) : Bool := id == .zero

inductive Sentinel where
  | objectNotFound
  | notModified
  | precondition
  | publishConflict
  | publishIndeterminate
  | noSnapshot
  | pathNotFound
  | invalidPath
  | notDirectory
  | isDirectory
  | unsupportedType
  | corruptObject
  | splitBrain
  | unstableFile
  | invalidChunking
  | invalidReference
  | resourceLimit
  | generationExhausted
  | rollbackDetected
  | storeIncompatible
  | unsafeSymlink
  | untrustedReference
  | trustStateRequired
  | protectedSourceFile
  | osNotExist
  | endOfFile
  | canceled
  | deadlineExceeded
  | invalidSnapshotClosure
  | bucketNotFound
  | storeMisconfigured
  | storeOperationUnsupported
  | accessDenied
  | rateLimited
  | storeUnavailable
  | invalidCapability
  | invalidBundle
  | untrustedBundle
  | rootPublishConflict
  | rootBuildAuthorityRequired
  | rootPublishIndeterminate
  | rootRecoveryState
  | rootRecoveryIndeterminate
  | invalidPublisherSession
  | publisherSessionNotFound
  | publisherSessionConflict
  | publisherSessionIndeterminate
  | publisherSessionExpired
  | repositoryNotInitialized
  | repositoryConfigurationMismatch
  | repositoryInitializationIndeterminate
  | inodeIdentityLimit
  | invalidRecoveryKey
  | invalidKeyID
  | invalidBinding
  | invalidEnvelope
  | authenticationFailed
  | publisherStateResourceLimit
  | protectorUnavailable
  | protectorConflict
  | pemInvalidLimits
  | pemTooLarge
  | malformedPEM
  | tooManyCertificates
  | invalidCertificate
  | noCertificates
  | osPermission
  | osInvalid
  | osExist
  | symlinkUnsupported
  | privateFileExists
  | privateFileInstallIndeterminate
  | privateFileInstalledUnconfirmed
  | invalidHandoff
  | handoffExists
  deriving DecidableEq, Repr

def Sentinel.text : Sentinel → String
  | objectNotFound => "s3disk: object not found"
  | notModified => "s3disk: object not modified"
  | precondition => "s3disk: precondition failed"
  | publishConflict => "s3disk: concurrent publish conflict"
  | publishIndeterminate => "s3disk: publish outcome indeterminate"
  | noSnapshot => "s3disk: no published snapshot"
  | pathNotFound => "s3disk: path not found"
  | invalidPath => "s3disk: invalid path"
  | notDirectory => "s3disk: not a directory"
  | isDirectory => "s3disk: is a directory"
  | unsupportedType => "s3disk: unsupported filesystem entry type"
  | corruptObject => "s3disk: corrupt object"
  | splitBrain => "s3disk: generation refers to different commits"
  | unstableFile => "s3disk: file changed repeatedly while being read"
  | invalidChunking => "s3disk: invalid chunking options"
  | invalidReference => "s3disk: invalid snapshot reference"
  | resourceLimit => "s3disk: protocol resource limit exceeded"
  | generationExhausted => "s3disk: snapshot generation exhausted"
  | rollbackDetected => "s3disk: snapshot rollback detected"
  | storeIncompatible => "s3disk: object store is incompatible"
  | unsafeSymlink => "s3disk: symlink escapes the snapshot root"
  | untrustedReference => "s3disk: snapshot reference is not trusted"
  | trustStateRequired => "s3disk: trusted checkpoint state is required"
  | protectedSourceFile => "s3disk: protected source file constraint violated"
  | osNotExist => "file does not exist"
  | endOfFile => "EOF"
  | canceled => "context canceled"
  | deadlineExceeded => "context deadline exceeded"
  | invalidSnapshotClosure => "s3disk: invalid or modified snapshot closure"
  | bucketNotFound => "s3disk: bucket not found"
  | storeMisconfigured => "s3disk: object store configuration is invalid"
  | storeOperationUnsupported => "s3disk: object store operation is unsupported"
  | accessDenied => "s3disk: object store access denied"
  | rateLimited => "s3disk: object store rate limited"
  | storeUnavailable => "s3disk: object store temporarily unavailable"
  | invalidCapability => "presignedshare: invalid capability"
  | invalidBundle => "presignedshare: invalid bundle"
  | untrustedBundle => "presignedshare: untrusted bundle"
  | rootPublishConflict => "presignedshare: concurrent root publication conflict"
  | rootBuildAuthorityRequired => "presignedshare: root build authority is required"
  | rootPublishIndeterminate => "presignedshare: root publication outcome is indeterminate"
  | rootRecoveryState => "presignedshare: invalid root recovery state"
  | rootRecoveryIndeterminate =>
      "presignedshare: root recovery journal outcome is indeterminate"
  | invalidPublisherSession => "s3disk: invalid publisher session"
  | publisherSessionNotFound => "s3disk: publisher session not found"
  | publisherSessionConflict => "s3disk: publisher session conflict"
  | publisherSessionIndeterminate => "s3disk: publisher session update is indeterminate"
  | publisherSessionExpired => "s3disk: publisher session expired"
  | repositoryNotInitialized => "s3disk: repository is not initialized"
  | repositoryConfigurationMismatch => "s3disk: repository configuration mismatch"
  | repositoryInitializationIndeterminate =>
      "s3disk: repository initialization outcome indeterminate"
  | inodeIdentityLimit => "s3disk mount: inode identity limit reached"
  | invalidRecoveryKey => "publisherstate: invalid recovery key"
  | invalidKeyID => "publisherstate: invalid protector key ID"
  | invalidBinding => "publisherstate: invalid caller binding"
  | invalidEnvelope => "publisherstate: invalid sealed envelope"
  | authenticationFailed => "publisherstate: envelope authentication failed"
  | publisherStateResourceLimit => "publisherstate: resource limit exceeded"
  | protectorUnavailable => "publisherstate: protector is not configured"
  | protectorConflict => "publisherstate: protector key ID conflict"
  | pemInvalidLimits => "tlsroots: invalid parser limits"
  | pemTooLarge => "tlsroots: PEM exceeds the byte limit"
  | malformedPEM => "tlsroots: PEM is malformed"
  | tooManyCertificates => "tlsroots: PEM contains too many certificates"
  | invalidCertificate => "tlsroots: PEM contains an invalid certificate"
  | noCertificates => "tlsroots: PEM contains no certificates"
  | osPermission => "permission denied"
  | osInvalid => "invalid argument"
  | osExist => "file already exists"
  | symlinkUnsupported => "s3disk webdav: symbolic links are unsupported"
  | privateFileExists => "s3disk: private output already exists"
  | privateFileInstallIndeterminate => "s3disk: private output installation is indeterminate"
  | privateFileInstalledUnconfirmed =>
      "s3disk: private output is installed but cleanup or durability is unconfirmed"
  | invalidHandoff => "s3disk: invalid handoff"
  | handoffExists => "s3disk: handoff output already exists"

/-- A piece of an error text; how `%q` and `%s` render a value is left to Go. -/
inductive Fragment where
  | text (value : String)
  | quoted (value : Bytes)
  | hex (value : Bytes)
  | number (value : Int)
  | fileMode (perm flags : Nat)
  deriving DecidableEq, Repr

instance : Coe String Fragment := ⟨.text⟩

/-- An error as callers see it: the sentinels `errors.Is` finds, and its text. -/
structure Err where
  sentinels : List Sentinel
  message : List Fragment
  deriving DecidableEq, Repr

namespace Err

def is (error : Err) (sentinel : Sentinel) : Bool := error.sentinels.contains sentinel

def plain (message : List Fragment) : Err := ⟨[], message⟩

def within (label : List Fragment) (cause : Err) : Err :=
  ⟨cause.sentinels, label ++ .text ": " :: cause.message⟩

def twice (label : List Fragment) (first : Err) (again : List Fragment) (second : Err) : Err :=
  ⟨first.sentinels ++ second.sentinels,
    label ++ .text ": " :: first.message ++ .text "; " :: again ++ .text ": " :: second.message⟩

end Err

namespace Sentinel

def error (sentinel : Sentinel) : Err := ⟨[sentinel], [sentinel.text]⟩

def tagged (sentinel : Sentinel) (detail : List Fragment) : Err :=
  ⟨[sentinel], .text sentinel.text :: .text ": " :: detail⟩

def wraps (sentinel : Sentinel) (cause : Err) : Err :=
  ⟨sentinel :: cause.sentinels, .text sentinel.text :: .text ": " :: cause.message⟩

end Sentinel

def joinErrors : List Err → Err
  | [] => .plain []
  | [last] => last
  | first :: rest =>
      let others := joinErrors rest
      ⟨first.sentinels ++ others.sentinels, first.message ++ .text "\n" :: others.message⟩

def objectFormatVersion : Int := 1
def maxReferenceBytes : Nat := 4 * 1024
def maxMetadataObjectBytes : Nat := 16 * 1024 * 1024
def maxChunkObjectBytes : Nat := 64 * 1024 * 1024
def maxDirectoryEntries : Nat := 250000
def maxFileChunks : Nat := 250000
def maxEntryNameBytes : Nat := 255
def maxSymlinkTargetBytes : Nat := 64 * 1024
def maxLookupPathBytes : Nat := 1024 * 1024
def maxLookupDepth : Nat := 4096
def maxCommitWalk : Nat := 1000000
def maxUint64 : Nat := 0xFFFFFFFFFFFFFFFF
def maxInt64 : Nat := 0x7FFFFFFFFFFFFFFF
def defaultPolynomial : Nat := 0x3DA3358B4DC173

def int64 (value : Int) : Int :=
  (value + 0x8000000000000000) % 0x10000000000000000 - 0x8000000000000000

def addInt64 (left right : Int) : Int := int64 (left + right)

def subInt64 (left right : Int) : Int := int64 (left - right)

theorem int64_eq {value : Int} (low : 0 ≤ value) (high : value ≤ maxInt64) :
    int64 value = value := by
  have limit : (maxInt64 : Int) = 0x7FFFFFFFFFFFFFFF := rfl
  unfold int64
  omega

inductive EntryType where
  | file
  | directory
  | symlink
  deriving DecidableEq, Repr

inductive SymlinkPolicy where
  | rejectExternal
  | preserve
  deriving DecidableEq, Repr

structure ChunkRef where
  offset : Int
  size : Int
  digest : Digest
  deriving DecidableEq, Repr

structure FileManifest where
  format : Int
  algorithm : String
  minSize : Int
  avgSize : Int
  maxSize : Int
  polynomial : Nat
  size : Int
  chunks : List ChunkRef
  deriving DecidableEq, Repr

structure SymlinkManifest where
  format : Int
  target : Bytes
  deriving DecidableEq, Repr

structure DirEntry where
  name : Bytes
  type : EntryType
  node : Digest
  mode : Nat
  size : Int
  modTimeUnixNano : Int
  deriving DecidableEq, Repr

structure DirManifest where
  format : Int
  entries : List DirEntry
  deriving DecidableEq, Repr

structure CommitManifest where
  format : Int
  generation : Nat
  parent : Option Digest
  root : Digest
  publishedAtUnix : Int
  resetChanges : Bool
  deriving DecidableEq, Repr

structure SnapshotReference where
  format : Int
  generation : Nat
  commit : Digest
  deriving DecidableEq, Repr

structure Snapshot where
  generation : Nat
  commit : Digest
  root : Digest
  publishedAt : Int
  deriving DecidableEq, Repr

structure Watermark where
  repositoryID : RepositoryID
  generation : Nat
  commit : Digest
  deriving DecidableEq, Repr

structure SignedReferencePayload where
  format : Int
  repositoryID : RepositoryID
  channel : Channel
  generation : Nat
  commit : Digest
  keyID : Bytes
  deriving DecidableEq, Repr

structure SignedReferenceEnvelope where
  format : Int
  reference : SignedReferencePayload
  signature : Bytes
  deriving DecidableEq, Repr

inductive PublicationIntentKind where
  | publish
  | resign
  deriving DecidableEq, Repr

structure PublicationIntentIdentity where
  format : Int
  repositoryID : RepositoryID
  channel : Channel
  kind : PublicationIntentKind
  base : Option Watermark
  next : Watermark
  reference : Bytes
  deriving DecidableEq, Repr

inductive Kind where
  | chunk
  | dir
  | file
  | symlink
  | commit
  | publicationIntent
  | publicationReference
  | publicationJournal
  deriving DecidableEq, Repr

def Kind.text : Kind → String
  | chunk => "chunk"
  | dir => "dir"
  | file => "file"
  | symlink => "symlink"
  | commit => "commit"
  | publicationIntent => "publication-intent"
  | publicationReference => "publication-reference"
  | publicationJournal => "publication-journal"

def EntryType.kind : EntryType → Kind
  | file => .file
  | directory => .dir
  | symlink => .symlink

-- The packages `unicode/utf8`, `encoding/hex` and `encoding/base64`.
export Utf8 (utf8Lead validUTF8After validUTF8 runeWidth validUTF8_of_ascii validUTF8_append)

export TextEncoding (ascii hexEncode hexValue hexDecode base64RawURL base64Value decodeSextets
  base64RawURLDecode base64Standard base64StandardDecode)

def parseDigest (text : Bytes) : Option Digest := do
  let decoded ← hexDecode text
  if decoded.length = 32 then some ⟨decoded⟩ else none

def parseRepositoryID (text : Bytes) : Option RepositoryID := do
  let decoded ← hexDecode text
  if decoded.length = 32 then some ⟨decoded⟩ else none

/-- `encoding/json` at one type. Marshalling the protocol's types never fails. -/
structure JSON (α : Type) where
  marshal : α → Bytes
  unmarshal : Bytes → Except Err α

def JSON.RoundTrips {α : Type} (json : JSON α) : Prop :=
  ∀ value, json.unmarshal (json.marshal value) = .ok value

/-- The third-party functions the protocol rests on: SHA-256 with the domain of an
object, JSON at each protocol type, and the chunker's test of its polynomial. -/
structure Wire where
  digestObject : Kind → Bytes → Digest
  irreducible : Nat → Bool
  commit : JSON CommitManifest
  dir : JSON DirManifest
  file : JSON FileManifest
  symlink : JSON SymlinkManifest
  reference : JSON SnapshotReference
  envelope : JSON SignedReferenceEnvelope
  payload : JSON SignedReferencePayload
  intentIdentity : JSON PublicationIntentIdentity

/-- Collision-free digests, none of them the zero digest, and JSON that can be read
back. A string that is not UTF-8 is not read back, hence the conditions on the types
that have one. -/
structure Wire.Lawful (wire : Wire) : Prop where
  injective : ∀ kind kind' data data',
    wire.digestObject kind data = wire.digestObject kind' data' → kind = kind' ∧ data = data'
  nonzero : ∀ kind data, (wire.digestObject kind data).isZero = false
  commit : wire.commit.RoundTrips
  dir : wire.dir.RoundTrips
  file : wire.file.RoundTrips
  symlink : wire.symlink.RoundTrips
  reference : wire.reference.RoundTrips
  envelope : ∀ value, validUTF8 value.reference.channel = true →
    validUTF8 value.reference.keyID = true →
    wire.envelope.unmarshal (wire.envelope.marshal value) = .ok value
  envelopeNonempty : ∀ value, wire.envelope.marshal value ≠ []
  intentIdentity : ∀ left right, left.channel = right.channel →
    wire.intentIdentity.marshal left = wire.intentIdentity.marshal right → left = right

def decodeJSON {α : Type} (json : JSON α) (data : Bytes) : Except Err α :=
  if data.length > maxMetadataObjectBytes then
    .error ⟨[.corruptObject, .resourceLimit], [.text Sentinel.corruptObject.text, ": ",
      .text Sentinel.resourceLimit.text, ": metadata object exceeds ", .number maxMetadataObjectBytes,
      " bytes"]⟩
  else match json.unmarshal data with
    | .error error => .error (Sentinel.corruptObject.tagged error.message)
    | .ok value =>
        if data = json.marshal value then .ok value
        else .error (Sentinel.corruptObject.tagged ["protocol JSON is not canonical"])

theorem decodeJSON_ok {α : Type} {json : JSON α} {data : Bytes} {value : α}
    (decoded : decodeJSON json data = .ok value) :
    data.length ≤ maxMetadataObjectBytes ∧ json.unmarshal data = .ok value ∧
      data = json.marshal value := by
  unfold decodeJSON at decoded
  split at decoded
  · cases decoded
  · rename_i small
    split at decoded
    · cases decoded
    · rename_i found unmarshalled
      split at decoded
      · rename_i canonical
        cases decoded
        exact ⟨by omega, unmarshalled, canonical⟩
      · cases decoded

theorem decodeJSON_marshal {α : Type} {json : JSON α} (roundTrips : json.RoundTrips) {value : α}
    (small : (json.marshal value).length ≤ maxMetadataObjectBytes) :
    decodeJSON json (json.marshal value) = .ok value := by
  simp [decodeJSON, roundTrips value, Nat.not_lt.mpr small]

end S3Disk
