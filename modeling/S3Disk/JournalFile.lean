import S3Disk.Journal
import S3Disk.JsonShapes
import S3Disk.LocalFiles

/-! `FilePublicationJournal`: the publication state of one channel in one file, with a
random revision and a checksum. -/

namespace S3Disk

open Concurrent
open Json (Value)

def maxPublicationJournalBytes : Nat := 32 * 1024

structure PublicationJournalPayload where
  format : Int
  revision : Digest
  repositoryID : RepositoryID
  channel : Channel
  committed : Option Watermark
  pending : Option PublicationIntent
  deriving DecidableEq, Repr

structure PublicationJournalFile extends PublicationJournalPayload where
  checksum : Digest
  deriving DecidableEq, Repr

namespace PublicationJournalFile

def watermarkValue (watermark : Watermark) : Value :=
  .object [(ascii "repository_id", repositoryIDValue watermark.repositoryID),
    (ascii "generation", natValue watermark.generation),
    (ascii "commit", digestValue watermark.commit)]

def readWatermark : Value → Option Watermark
  | .object fields => do
      let repositoryID ← readRepositoryID (fieldOf "repository_id" fields)
      let generation ← readUint64 (fieldOf "generation" fields)
      let commit ← readDigest (fieldOf "commit" fields)
      return ⟨repositoryID, generation, commit⟩
  | _ => none

def versionValue (version : Version) : Value :=
  .object ([(ascii "etag", .string version.eTag)] ++
    if version.versionID = [] then [] else [(ascii "version_id", .string version.versionID)])

def readVersion : Value → Option Version
  | .object fields => do
      let eTag ← readText (fieldOf "etag" fields)
      let versionID ← readText (fieldOf "version_id" fields)
      return ⟨eTag, versionID⟩
  | _ => none

def kindValue : PublicationIntentKind → Value
  | .publish => .string (ascii "publish")
  | .resign => .string (ascii "resign")

def readKind (value : Option Value) : Option PublicationIntentKind := do
  let text ← readText value
  if text = ascii "publish" then some .publish
  else if text = ascii "resign" then some .resign
  else none

def omitNil {α : Type} (name : String) (toValue : α → Value) (pointer : Option α) :
    List (Json.Text × Value) :=
  (pointer.map fun value => (ascii name, toValue value)).toList

def intentValue (intent : PublicationIntent) : Value :=
  .object ([(ascii "intent_id", digestValue intent.intentID), (ascii "kind", kindValue intent.kind)] ++
    omitNil "base" watermarkValue intent.base ++
    [(ascii "next", watermarkValue intent.next)] ++
    omitNil "expected_version" versionValue intent.expectedVersion ++
    [(ascii "expected_reference", digestValue intent.expectedReference),
      (ascii "reference", byteSliceValue intent.reference)])

def readIntent : Value → Option PublicationIntent
  | .object fields => do
      let intentID ← readDigest (fieldOf "intent_id" fields)
      let kind ← readKind (fieldOf "kind" fields)
      let base ← readPointer readWatermark (fieldOf "base" fields)
      let next ← readStruct ⟨.zero, 0, .zero⟩ readWatermark (fieldOf "next" fields)
      let expectedVersion ← readPointer readVersion (fieldOf "expected_version" fields)
      let expectedReference ← readDigest (fieldOf "expected_reference" fields)
      let reference ← readByteSlice (fieldOf "reference" fields)
      return { intentID, kind, base, next, expectedVersion, expectedReference, reference }
  | _ => none

def payloadFields (payload : PublicationJournalPayload) : List (Json.Text × Value) :=
  [(ascii "format", .number payload.format), (ascii "revision", digestValue payload.revision),
    (ascii "repository_id", repositoryIDValue payload.repositoryID),
    (ascii "channel", .string payload.channel)] ++
    omitNil "committed" watermarkValue payload.committed ++
    omitNil "pending" intentValue payload.pending

def shape : Shape PublicationJournalFile where
  toValue file := .object (payloadFields file.toPublicationJournalPayload ++
    [(ascii "checksum", digestValue file.checksum)])
  ofValue
    | .object fields => do
        let format ← readInt (fieldOf "format" fields)
        let revision ← readDigest (fieldOf "revision" fields)
        let repositoryID ← readRepositoryID (fieldOf "repository_id" fields)
        let channel ← readText (fieldOf "channel" fields)
        let committed ← readPointer readWatermark (fieldOf "committed" fields)
        let pending ← readPointer readIntent (fieldOf "pending" fields)
        let checksum ← readDigest (fieldOf "checksum" fields)
        return { format, revision, repositoryID, channel, committed, pending, checksum }
    | _ => none

end PublicationJournalFile

def publicationJournalChecksum (wire : Wire) (payload : PublicationJournalPayload) : Digest :=
  wire.digestObject .publicationJournal
    (Value.object (PublicationJournalFile.payloadFields payload)).encode

def publicationJournalPayloadFromState (state : PublicationJournalState)
    (revision : PublicationJournalRevision) : PublicationJournalPayload where
  format := publicationJournalFormatVersion
  revision
  repositoryID := state.repositoryID
  channel := state.channel
  committed := state.committed
  pending := state.pending

def publicationJournalStateFromFile (payload : PublicationJournalPayload) :
    PublicationJournalState where
  repositoryID := payload.repositoryID
  channel := payload.channel
  committed := payload.committed
  pending := payload.pending

def publicationJournalFileFromState (wire : Wire) (state : PublicationJournalState)
    (revision : PublicationJournalRevision) : PublicationJournalFile :=
  let payload := publicationJournalPayloadFromState state revision
  { payload with checksum := publicationJournalChecksum wire payload }

def encodePublicationJournal (wire : Wire) (state : PublicationJournalState)
    (revision : PublicationJournalRevision) : Bytes :=
  PublicationJournalFile.shape.json.marshal (publicationJournalFileFromState wire state revision)

def decodePublicationJournal (wire : Wire) (channel : Channel) (data : Bytes) :
    Except Err (PublicationJournalState × PublicationJournalRevision) := do
  let disk ← (decodeJSON PublicationJournalFile.shape.json data).mapError
    (·.within ["s3disk: decode publication journal"])
  failIf (disk.format ≠ publicationJournalFormatVersion ∨ disk.revision.isZero ∨
      disk.checksum.isZero)
    (Sentinel.corruptObject.tagged ["invalid publication journal header"])
  failIf (disk.checksum ≠ publicationJournalChecksum wire disk.toPublicationJournalPayload)
    (Sentinel.corruptObject.tagged ["publication journal checksum mismatch"])
  let state := publicationJournalStateFromFile disk.toPublicationJournalPayload
  failIf (state.channel ≠ channel)
    (Sentinel.corruptObject.tagged ["publication journal channel mismatch"])
  (validatePublicationJournalState wire state).mapError
    (·.within ["s3disk: invalid publication journal state"])
  return (state, disk.revision)

namespace FilePublicationJournal

open Filing

def exceeds : List Fragment :=
  ["publication journal exceeds ", .number maxPublicationJournalBytes, " bytes"]

def tooLong : Err := Sentinel.corruptObject.wraps (Sentinel.resourceLimit.tagged exceeds)

def loadLocked (wire : Wire) (channel : Channel) :
    Filing (Option (PublicationJournalState × PublicationJournalRevision)) :=
  withOpened "publication journal" fun linked file => do
    let info ← validateOpenedPath linked file
    failIf (info.size < 1) (Sentinel.corruptObject.tagged ["empty publication journal"])
    failIf (info.size > maxPublicationJournalBytes) tooLong
    let data ← Filing.labelled ["s3disk: read publication journal"]
      (readAll file (maxPublicationJournalBytes + 1))
    failIf (data.length > maxPublicationJournalBytes) tooLong
    .ofExcept (decodePublicationJournal wire channel data)

def load (wire : Wire) (channel : Channel) :
    Filing (Option (PublicationJournalState × PublicationJournalRevision)) := do
  Filing.contextErr
  .ofExcept (validateChannel channel)
  lockedLoad (settled (loadLocked wire channel))

def newPublicationJournalRevision : Nat → Option PublicationJournalRevision →
    Filing PublicationJournalRevision :=
  newRevision "s3disk: generate publication journal revision"

def compareAndSwap (wire : Wire) (draws : Nat) (channel : Channel)
    (expected : Option PublicationJournalRevision) (next : PublicationJournalState) :
    Filing PublicationJournalRevision := do
  Filing.contextErr
  .ofExcept (validateChannel channel)
  failIf (next.channel ≠ channel)
    (Sentinel.corruptObject.tagged ["publication journal channel mismatch"])
  .ofExcept (validatePublicationJournalState wire next)
  lockedSwap do
    let current ← loadLocked wire channel
    failIf (current.map Prod.snd ≠ expected) Sentinel.precondition.error
    .ofExcept (current.forM fun found => validatePublicationJournalTransition found.1 next)
    Filing.contextErr
    let revision ← newPublicationJournalRevision draws (current.map Prod.snd)
    let data := encodePublicationJournal wire next revision
    failIf (data.length > maxPublicationJournalBytes) (Sentinel.resourceLimit.tagged exceeds)
    replaceFile "publication journal" ".s3disk-publication-journal-*" data
    return revision

end FilePublicationJournal

end S3Disk
