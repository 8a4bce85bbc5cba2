import S3Disk.FileRoundTrips

/-! The round trip of the publication journal. -/

namespace S3Disk

open Concurrent
open Json (Value)
open LocalState (WatermarkInRange)

namespace PublicationJournalFile

theorem named_omitNil {α : Type} {name : String} {toValue : α → Value} {pointer : Option α}
    (valid : validUTF8 (ascii name) = true) : Named (omitNil name toValue pointer) := by
  cases pointer with
  | none => exact .nil
  | some value => exact .cons valid .nil

theorem readWatermark_value {watermark : Watermark} (range : WatermarkInRange watermark) :
    readWatermark (watermarkValue watermark).coerce = some watermark := by
  obtain ⟨repository, generation, commit⟩ := range
  have named : Named [(ascii "repository_id", repositoryIDValue watermark.repositoryID),
      (ascii "generation", natValue watermark.generation),
      (ascii "commit", digestValue watermark.commit)] :=
    .cons (by decide +kernel) (.cons (by decide +kernel) (.cons (by decide +kernel) .nil))
  have repositoryRead : readRepositoryID (some (repositoryIDValue watermark.repositoryID).coerce) =
      some watermark.repositoryID := by
    rw [coerce_repositoryID, readRepositoryID_value repository]
  have generationRead : readUint64 (some (natValue watermark.generation).coerce) =
      some watermark.generation := readUint64_value generation
  have commitRead : readDigest (some (digestValue watermark.commit).coerce) =
      some watermark.commit := by
    rw [coerce_digest, readDigest_value commit]
  rw [watermarkValue, Value.coerce]
  simp only [readWatermark, fieldOf_coerce named]
  show (do
    let repositoryID ← readRepositoryID (some (repositoryIDValue watermark.repositoryID).coerce)
    let generation ← readUint64 (some (natValue watermark.generation).coerce)
    let commit ← readDigest (some (digestValue watermark.commit).coerce)
    return (⟨repositoryID, generation, commit⟩ : Watermark)) = some watermark
  rw [repositoryRead, generationRead, commitRead]
  rfl

theorem watermarkValue_object (watermark : Watermark) :
    ∃ fields, (watermarkValue watermark).coerce = .object fields := by
  simp [watermarkValue, Value.coerce]

def VersionInText (version : Version) : Prop :=
  validUTF8 version.eTag = true ∧ validUTF8 version.versionID = true

theorem readVersion_value {version : Version} (text : VersionInText version) :
    readVersion (versionValue version).coerce = some version := by
  obtain ⟨eTag, versionID⟩ := text
  have eTagRead : readText (some (Value.string version.eTag).coerce) = some version.eTag := by
    rw [coerce_text eTag]
    rfl
  by_cases plain : version.versionID = []
  · have named : Named [(ascii "etag", .string version.eTag)] := .cons (by decide +kernel) .nil
    simp only [versionValue, plain, if_true, List.append_nil, Value.coerce, readVersion,
      fieldOf_coerce named]
    show (do
      let eTag ← readText (some (Value.string version.eTag).coerce)
      return (⟨eTag, []⟩ : Version)) = some version
    rw [eTagRead, ← plain]
    rfl
  · have named : Named [(ascii "etag", .string version.eTag),
        (ascii "version_id", .string version.versionID)] :=
      .cons (by decide +kernel) (.cons (by decide +kernel) .nil)
    have versionIDRead : readText (some (Value.string version.versionID).coerce) =
        some version.versionID := by
      rw [coerce_text versionID]
      rfl
    simp only [versionValue, plain, if_false, List.cons_append, List.nil_append, Value.coerce,
      readVersion, fieldOf_coerce named]
    show (do
      let eTag ← readText (some (Value.string version.eTag).coerce)
      let versionID ← readText (some (Value.string version.versionID).coerce)
      return (⟨eTag, versionID⟩ : Version)) = some version
    rw [eTagRead, versionIDRead]
    rfl

theorem versionValue_object (version : Version) :
    ∃ fields, (versionValue version).coerce = .object fields := by
  simp [versionValue, Value.coerce]

theorem readKind_value (kind : PublicationIntentKind) :
    readKind (some (kindValue kind).coerce) = some kind := by
  cases kind with
  | publish => decide +kernel
  | resign => decide +kernel

structure IntentInRange (intent : PublicationIntent) : Prop where
  intentID : intent.intentID.bytes.length = 32
  base : ∀ base, intent.base = some base → WatermarkInRange base
  next : WatermarkInRange intent.next
  expectedReference : intent.expectedReference.bytes.length = 32

def intentFields (intent : PublicationIntent) : List (Json.Text × Value) :=
  [(ascii "intent_id", digestValue intent.intentID), (ascii "kind", kindValue intent.kind)] ++
    omitNil "base" watermarkValue intent.base ++
    [(ascii "next", watermarkValue intent.next)] ++
    omitNil "expected_version" versionValue intent.expectedVersion ++
    [(ascii "expected_reference", digestValue intent.expectedReference),
      (ascii "reference", byteSliceValue intent.reference)]

theorem named_intentFields (intent : PublicationIntent) : Named (intentFields intent) :=
  .append (.append (.append (.append (.cons (by decide +kernel) (.cons (by decide +kernel) .nil))
    (named_omitNil (by decide +kernel))) (.cons (by decide +kernel) .nil))
    (named_omitNil (by decide +kernel))) (.cons (by decide +kernel) (.cons (by decide +kernel) .nil))

theorem read_intentFields (intent : PublicationIntent) :
    fieldOf "intent_id" (intentFields intent) = some (digestValue intent.intentID) ∧
    fieldOf "kind" (intentFields intent) = some (kindValue intent.kind) ∧
    fieldOf "base" (intentFields intent) = intent.base.map watermarkValue ∧
    fieldOf "next" (intentFields intent) = some (watermarkValue intent.next) ∧
    fieldOf "expected_version" (intentFields intent) = intent.expectedVersion.map versionValue ∧
    fieldOf "expected_reference" (intentFields intent) =
      some (digestValue intent.expectedReference) ∧
    fieldOf "reference" (intentFields intent) = some (byteSliceValue intent.reference) := by
  obtain ⟨intentID, kind, base, next, version, expected, reference⟩ := intent
  cases base with
  | none =>
      cases version with
      | none => exact ⟨rfl, rfl, rfl, rfl, rfl, rfl, rfl⟩
      | some found => exact ⟨rfl, rfl, rfl, rfl, rfl, rfl, rfl⟩
  | some base =>
      cases version with
      | none => exact ⟨rfl, rfl, rfl, rfl, rfl, rfl, rfl⟩
      | some found => exact ⟨rfl, rfl, rfl, rfl, rfl, rfl, rfl⟩

theorem readIntent_value {intent : PublicationIntent} (range : IntentInRange intent)
    (text : ∀ version, intent.expectedVersion = some version → VersionInText version) :
    readIntent (intentValue intent).coerce = some intent := by
  obtain ⟨idField, kindField, baseField, nextField, versionField, expectedField, referenceField⟩ :=
    read_intentFields intent
  have read := fun name => @fieldOf_coerce _ name (named_intentFields intent)
  have same : (intentValue intent).coerce = .object (Json.coerceFields (intentFields intent)) := by
    rw [intentValue, Value.coerce, intentFields]
  have idRead : readDigest ((some (digestValue intent.intentID)).map Value.coerce) =
      some intent.intentID := by
    rw [Option.map_some, coerce_digest, readDigest_value range.intentID]
  have kindRead : readKind ((some (kindValue intent.kind)).map Value.coerce) = some intent.kind :=
    readKind_value intent.kind
  have baseRead := readPointer_value watermarkValue_object
    fun base found => readWatermark_value (range.base base found)
  have nextRead : readStruct ⟨.zero, 0, .zero⟩ readWatermark
      ((some (watermarkValue intent.next)).map Value.coerce) = some intent.next := by
    have returned := readWatermark_value range.next
    obtain ⟨fields, object⟩ := watermarkValue_object intent.next
    rw [object] at returned
    simp [readStruct, object, returned]
  have versionRead := readPointer_value versionValue_object
    fun version found => readVersion_value (text version found)
  have expectedRead : readDigest ((some (digestValue intent.expectedReference)).map Value.coerce) =
      some intent.expectedReference := by
    rw [Option.map_some, coerce_digest, readDigest_value range.expectedReference]
  have referenceRead : readByteSlice ((some (byteSliceValue intent.reference)).map Value.coerce) =
      some intent.reference := by
    rw [Option.map_some, coerce_byteSlice, readByteSlice_value]
  rw [same]
  simp only [readIntent, read, idField, kindField, baseField, nextField, versionField,
    expectedField, referenceField, idRead, kindRead, baseRead, nextRead, versionRead, expectedRead,
    referenceRead]
  rfl

theorem intentValue_object (intent : PublicationIntent) :
    ∃ fields, (intentValue intent).coerce = .object fields := by
  simp [intentValue, Value.coerce]

structure InRange (file : PublicationJournalFile) : Prop where
  format : file.format = publicationJournalFormatVersion
  revision : file.revision.bytes.length = 32
  repositoryID : file.repositoryID.bytes.length = 32
  channel : validUTF8 file.channel = true
  committed : ∀ committed, file.committed = some committed → WatermarkInRange committed
  pending : ∀ pending, file.pending = some pending → IntentInRange pending ∧
    ∀ version, pending.expectedVersion = some version → VersionInText version
  checksum : file.checksum.bytes.length = 32

def fields (file : PublicationJournalFile) : List (Json.Text × Value) :=
  payloadFields file.toPublicationJournalPayload ++ [(ascii "checksum", digestValue file.checksum)]

theorem named_fields (file : PublicationJournalFile) : Named file.fields :=
  .append (.append (.append (.cons (by decide +kernel) (.cons (by decide +kernel)
    (.cons (by decide +kernel) (.cons (by decide +kernel) .nil))))
    (named_omitNil (by decide +kernel))) (named_omitNil (by decide +kernel)))
    (.cons (by decide +kernel) .nil)

theorem read_fields (file : PublicationJournalFile) :
    fieldOf "format" file.fields = some (.number file.format) ∧
    fieldOf "revision" file.fields = some (digestValue file.revision) ∧
    fieldOf "repository_id" file.fields = some (repositoryIDValue file.repositoryID) ∧
    fieldOf "channel" file.fields = some (.string file.channel) ∧
    fieldOf "committed" file.fields = file.committed.map watermarkValue ∧
    fieldOf "pending" file.fields = file.pending.map intentValue ∧
    fieldOf "checksum" file.fields = some (digestValue file.checksum) := by
  obtain ⟨⟨format, revision, repositoryID, channel, committed, pending⟩, checksum⟩ := file
  cases committed with
  | none =>
      cases pending with
      | none => exact ⟨rfl, rfl, rfl, rfl, rfl, rfl, rfl⟩
      | some found => exact ⟨rfl, rfl, rfl, rfl, rfl, rfl, rfl⟩
  | some committed =>
      cases pending with
      | none => exact ⟨rfl, rfl, rfl, rfl, rfl, rfl, rfl⟩
      | some found => exact ⟨rfl, rfl, rfl, rfl, rfl, rfl, rfl⟩

theorem InRange.returns {file : PublicationJournalFile} (range : file.InRange) :
    shape.Returns file := by
  obtain ⟨formatField, revisionField, repositoryField, channelField, committedField, pendingField,
    checksumField⟩ := file.read_fields
  have read := fun name => @fieldOf_coerce _ name file.named_fields
  have same : (shape.toValue file).coerce = .object (Json.coerceFields file.fields) := by
    simp [shape, Value.coerce, fields]
  have formatRead : readInt ((some (Value.number file.format)).map Value.coerce) =
      some file.format := by
    rw [range.format]
    rfl
  have revisionRead : readDigest ((some (digestValue file.revision)).map Value.coerce) =
      some file.revision := by
    rw [Option.map_some, coerce_digest, readDigest_value range.revision]
  have repositoryRead : readRepositoryID
      ((some (repositoryIDValue file.repositoryID)).map Value.coerce) = some file.repositoryID := by
    rw [Option.map_some, coerce_repositoryID, readRepositoryID_value range.repositoryID]
  have channelRead : readText ((some (Value.string file.channel)).map Value.coerce) =
      some file.channel := by
    rw [Option.map_some, coerce_text range.channel]
    rfl
  have committedRead := readPointer_value watermarkValue_object
    fun committed found => readWatermark_value (range.committed committed found)
  have pendingRead := readPointer_value intentValue_object
    fun pending found => readIntent_value (range.pending pending found).1
      (range.pending pending found).2
  have checksumRead : readDigest ((some (digestValue file.checksum)).map Value.coerce) =
      some file.checksum := by
    rw [Option.map_some, coerce_digest, readDigest_value range.checksum]
  rw [Shape.Returns, same]
  simp only [shape, read, formatField, revisionField, repositoryField, channelField,
    committedField, pendingField, checksumField, formatRead, revisionRead, repositoryRead,
    channelRead, committedRead, pendingRead, checksumRead]
  rfl

end PublicationJournalFile

namespace LocalState

open PublicationJournalFile (IntentInRange VersionInText)
open Volume (History)

structure JournalInRange (state : PublicationJournalState) : Prop where
  repositoryID : state.repositoryID.bytes.length = 32
  committed : ∀ committed, state.committed = some committed → WatermarkInRange committed
  pending : ∀ pending, state.pending = some pending → IntentInRange pending

def SumsPayloads (wire : Wire) : Prop := ∀ data,
  (wire.digestObject .publicationJournal data).bytes.length = 32 ∧
    (wire.digestObject .publicationJournal data).isZero = false

theorem decode_encodePublicationJournal {wire : Wire} {state : PublicationJournalState}
    {revision : PublicationJournalRevision} (sums : SumsPayloads wire) (stamps : Stamps revision)
    (range : JournalInRange state) (named : validateChannel state.channel = .ok ())
    (accepted : validatePublicationJournalState wire state = .ok ())
    (text : ∀ pending, state.pending = some pending →
      ∀ version, pending.expectedVersion = some version → VersionInText version)
    (small : (encodePublicationJournal wire state revision).length ≤ maxPublicationJournalBytes) :
    decodePublicationJournal wire state.channel (encodePublicationJournal wire state revision) =
      .ok (state, revision) := by
  obtain ⟨sized, nonzero⟩ := sums (Value.object (PublicationJournalFile.payloadFields
    (publicationJournalPayloadFromState state revision))).encode
  have fileRange : (publicationJournalFileFromState wire state revision).InRange :=
    ⟨rfl, stamps.1, range.repositoryID, validUTF8_of_channel named, range.committed,
      fun pending found => ⟨range.pending pending found, text pending found⟩, sized⟩
  have bounded : (encodePublicationJournal wire state revision).length ≤ maxMetadataObjectBytes :=
    Nat.le_trans small (by decide)
  have decoded : decodeJSON PublicationJournalFile.shape.json
      (encodePublicationJournal wire state revision) =
      .ok (publicationJournalFileFromState wire state revision) := fileRange.returns.decode bounded
  refine bind_ok.mpr ⟨_, mapError_ok.mpr decoded, bind_ok.mpr ⟨(), failIf_ok.mpr ?_,
    bind_ok.mpr ⟨(), failIf_ok.mpr ?_, bind_ok.mpr ⟨(), failIf_ok.mpr ?_,
      bind_ok.mpr ⟨(), mapError_ok.mpr accepted, rfl⟩⟩⟩⟩⟩
  · rintro (format | zero | zero)
    · exact format rfl
    · exact Bool.false_ne_true (stamps.2.symm.trans zero)
    · exact Bool.false_ne_true (nonzero.symm.trans zero)
  · exact fun differs => differs rfl
  · exact fun differs => differs rfl

theorem answered_loadJournal {wire : Wire} {past : History} {channel : Channel}
    {stored : PublicationJournalState × PublicationJournalRevision} {file : Nat}
    (named : validateChannel channel = .ok ()) (visible : Volume.current past = some file)
    (nonempty : 1 ≤ (Volume.contents file past).length)
    (small : (Volume.contents file past).length ≤ maxPublicationJournalBytes)
    (decoded : decodePublicationJournal wire channel (Volume.contents file past) = .ok stored) :
    (FilePublicationJournal.load wire channel).answered (healthy past) = some (.ok (some stored)) := by
  have context : Filing.contextErr.answered (healthy past) = some (.ok ()) := rfl
  have checked : Fallible.answered (healthy past) (.ofExcept (validateChannel channel)) =
      some (.ok ()) := by
    rw [named]
    rfl
  have validated : (Filing.validateOpenedPath (fileInfo past file) file).answered (healthy past) =
      some (.ok (fileInfo past file)) := rfl
  have read : (Filing.readAll file (maxPublicationJournalBytes + 1)).answered (healthy past) =
      some (.ok (Volume.contents file past)) := by
    rw [← List.take_of_length_le (Nat.le_succ_of_le small)]
    rfl
  unfold FilePublicationJournal.load
  rw [Fallible.answered_bind context, Fallible.answered_bind checked]
  refine answered_lockedLoad (extends_healthy past)
    (answered_withOpened (extends_healthy past) visible ?_)
  have filled : ¬((fileInfo past file).size < 1) := by
    simp only [fileInfo]
    omega
  have fits : ¬((fileInfo past file).size > maxPublicationJournalBytes) := by
    simp only [fileInfo]
    omega
  rw [Fallible.answered_bind validated, Fallible.answered_bind (answered_failIf filled),
    Fallible.answered_bind (answered_failIf fits), Fallible.answered_bind (answered_labelled read),
    Fallible.answered_bind (answered_failIf (Nat.not_lt.mpr small)), decoded]
  rfl

namespace SampleJournal

def wire : Wire := { concreteWire with digestObject := fun _ _ => ⟨List.replicate 32 7⟩ }

def site : FileWorld where
  kind := .journal
  wire := wire
  sha256 data := data
  sealed _ := ⟨[1], 1, fun _ _ => none⟩
  draws := 1

def reference : Bytes := wire.envelope.marshal
  { format := objectFormatVersion
    reference :=
      { format := objectFormatVersion
        repositoryID := (SampleWatermark.watermark 2).repositoryID
        channel := ascii "c"
        generation := 2
        commit := (SampleWatermark.watermark 2).commit
        keyID := ascii "k" }
    signature := [1] }

def state (eTag : Bytes) : PublicationJournalState where
  repositoryID := (SampleWatermark.watermark 1).repositoryID
  channel := ascii "c"
  committed := some (SampleWatermark.watermark 1)
  pending := some
    { intentID := ⟨List.replicate 32 7⟩
      kind := .publish
      base := some (SampleWatermark.watermark 1)
      next := SampleWatermark.watermark 2
      expectedVersion := some ⟨eTag, []⟩
      expectedReference := ⟨List.replicate 32 7⟩
      reference := reference }

def storing (eTag : Bytes) : List (Turn Unit FileCall) :=
  [.call 0 fun _ => some (.swapJournal (ascii "c") none (state eTag)), .proceed 0 12]

def returned : FileOut → Option PublicationJournalRevision
  | .revision (.ok revision) => some revision
  | _ => none

theorem returned_eq {out : FileOut} {revision : PublicationJournalRevision} :
    returned out = some revision ↔ out = .revision (.ok revision) := by
  constructor
  · intro same
    unfold returned at same
    split at same
    · cases same
      rfl
    · cases same
  · rintro rfl
    rfl

end SampleJournal

end LocalState

end S3Disk
