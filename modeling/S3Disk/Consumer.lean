import S3Disk.Manifests

/-! A consumer of one channel: what it remembers, and Refresh, which checks a new
reference against the durable watermark, the checkpoint and the snapshot adopted
before it adopts another one. -/

namespace S3Disk

open Concurrent

def Watermark.zero : Watermark := ⟨.zero, 0, .zero⟩

structure AdoptedSnapshot where
  reference : SnapshotReference
  commit : CommitManifest
  version : Version
  deriving DecidableEq, Repr

/-- What a consumer keeps in memory. The metadata cache is split by kind. -/
structure ConsumerMemory where
  state : Option AdoptedSnapshot
  watermark : Watermark
  watermarkLoaded : Bool
  checkpointValidated : Watermark
  directories : Digest → Option DirManifest
  files : Digest → Option FileManifest
  symlinks : Digest → Option SymlinkManifest

def ConsumerMemory.fresh : ConsumerMemory where
  state := none
  watermark := .zero
  watermarkLoaded := false
  checkpointValidated := .zero
  directories _ := none
  files _ := none
  symlinks _ := none

structure Consumer (repository : Repository) where
  channel : Channel
  watermarks : Bool
  chunkCache : Bool
  referenceVerifier : Option ReferenceVerifier
  trustedCheckpoint : Option Watermark
  allowTrustOnFirstUse : Bool
  symlinkPolicy : SymlinkPolicy
  strictCacheErrors : Bool
  channelValid : repository.validateChannel channel = .ok ()
  verifierValid : ∀ verifier ∈ referenceVerifier,
    verifier.repositoryID.isZero = false ∧ watermarks = true
  checkpointValid : ∀ checkpoint ∈ trustedCheckpoint, ∃ verifier, referenceVerifier = some verifier ∧
    checkpoint.repositoryID = verifier.repositoryID ∧ checkpoint.generation ≠ 0 ∧
      checkpoint.commit.isZero = false
  unsignedTrusts : referenceVerifier = none → allowTrustOnFirstUse = false

abbrev Consuming := Act ConsumerMemory

def metadataFlight {α : Type} (load : Consuming α) : Consuming α := do
  contextErr
  let loaded ← load.attempt
  contextErr
  Action.ofExcept loaded

section

variable {repository : Repository} (consumer : Consumer repository)

def Consumer.repositoryID : RepositoryID :=
  (consumer.referenceVerifier.map (·.repositoryID)).getD .zero

variable (repository) in
def downloadManifest {α : Type} (kind : Kind) (json : JSON α) (digest : Digest) : Proc α := do
  acquireDownload maxMetadataObjectBytes
  repository.getManifest kind json digest

variable (repository) in
def getCommitManifest (digest : Digest) : Consuming CommitManifest :=
  metadataFlight (downloadManifest repository .commit repository.wire.commit digest)

structure CachedMetadata (α : Type) where
  kind : Kind
  json : JSON α
  validate : α → Except Err Unit
  find : ConsumerMemory → Digest → Option α
  keep : Digest → α → ConsumerMemory → ConsumerMemory

def findMetadata {α : Type} (cached : CachedMetadata α) (digest : Digest) :
    Consuming (Option α) := do
  match cached.find (← get) digest with
  | none => return none
  | some value => return if ← metadataRetained cached.kind digest then some value else none

variable (repository) in
def loadMetadata {α : Type} (cached : CachedMetadata α) (digest : Digest) : Consuming α := do
  match ← findMetadata cached digest with
  | some value => return value
  | none => metadataFlight do
      match ← findMetadata cached digest with
      | some value => return value
      | none =>
          let value ← downloadManifest repository cached.kind cached.json digest
          Action.ofExcept (cached.validate value)
          match ← findMetadata cached digest with
          | some existing => return existing
          | none =>
              modify (cached.keep digest value)
              return value

variable (repository) in
def cachedDirectory : CachedMetadata DirManifest where
  kind := .dir
  json := repository.wire.dir
  validate := validateDirectoryManifest
  find memory := memory.directories
  keep digest value memory :=
    { memory with directories := Function.update memory.directories digest (some value) }

variable (repository) in
def loadDirectory : Digest → Consuming DirManifest := loadMetadata repository (cachedDirectory repository)

variable (repository) in
def walkCommitAncestry (anchor : Watermark) : Nat → Option Digest → Consuming Unit
  | 0, parent => failIf (parent ≠ some anchor.commit) Sentinel.splitBrain.error
  | steps + 1, parent => do
      contextErr
      let generation := anchor.generation + steps + 1
      let label : List Fragment :=
        ["validate commit ancestry at generation ", .number generation]
      match parent.filter (·.isZero = false) with
      | none => throw (Sentinel.splitBrain.tagged
          ["candidate history ends before generation ", .number anchor.generation])
      | some digest =>
          match ← (getCommitManifest repository digest).attempt with
          | .error error => throw (error.within label)
          | .ok ancestor =>
              Action.ofExcept
                ((validateCommitManifest ancestor generation).mapError (·.within label))
              walkCommitAncestry anchor steps ancestor.parent

def subtractUint64 (left right : Nat) : Nat :=
  (left + (maxUint64 + 1) - right) % (maxUint64 + 1)

variable (repository) in
def validateDescendant (reference : SnapshotReference) (commit : CommitManifest)
    (anchor : Watermark) : Consuming Unit := do
  failIf (subtractUint64 reference.generation anchor.generation > maxCommitWalk)
    (Sentinel.resourceLimit.tagged
      ["commit ancestry exceeds ", .number maxCommitWalk, " generations"])
  walkCommitAncestry repository anchor (reference.generation - 1 - anchor.generation) commit.parent

abbrev DescentCheck := SnapshotReference → CommitManifest → Watermark → Consuming Unit

variable (repository) in
def validateFromAnchorBy (descend : DescentCheck) (watermark checkpoint anchor : Watermark) :
    Consuming Unit := do
  failIf (watermark.repositoryID ≠ checkpoint.repositoryID)
    (Sentinel.untrustedReference.tagged ["watermark/checkpoint repository mismatch"])
  failIf (watermark.generation < checkpoint.generation) Sentinel.rollbackDetected.error
  if watermark.generation = checkpoint.generation then
    failIf (watermark.commit ≠ checkpoint.commit) Sentinel.splitBrain.error
    modify fun memory => { memory with checkpointValidated := watermark }
  else
    match ← (getCommitManifest repository watermark.commit).attempt with
    | .error error => throw (error.within ["validate durable watermark against checkpoint"])
    | .ok commit =>
        Action.ofExcept (validateCommitManifest commit watermark.generation)
        match ← (descend ⟨objectFormatVersion, watermark.generation, watermark.commit⟩ commit
            anchor).attempt with
        | .error error => throw (error.within
            ["durable watermark does not descend from trusted checkpoint"])
        | .ok () => modify fun memory => { memory with checkpointValidated := watermark }

variable (repository) in
def validateWatermarkCheckpointBy (descend : DescentCheck) (watermark checkpoint : Watermark) :
    Consuming Unit := do
  let validated := (← get).checkpointValidated
  if validated.commit.isZero then
    validateFromAnchorBy repository descend watermark checkpoint checkpoint
  else
    failIf (watermark.generation < validated.generation) Sentinel.rollbackDetected.error
    failIf (watermark.generation = validated.generation ∧ watermark.commit ≠ validated.commit)
      Sentinel.splitBrain.error
    if watermark = validated then return ()
    else validateFromAnchorBy repository descend watermark checkpoint validated

variable (repository) in
def validateWatermarkCheckpoint (watermark checkpoint : Watermark) : Consuming Unit :=
  validateWatermarkCheckpointBy repository (validateDescendant repository) watermark checkpoint

def persistConsumerWatermark (expected : Option Watermark) (next : Watermark) :
    Consuming Unit := do
  match ← (watermarkCompareAndSwap consumer.channel expected next).attempt with
  | .ok () => return ()
  | .error casErr =>
      match ← (watermarkLoad consumer.channel).attempt with
      | .error loadErr =>
          modify fun memory => { memory with watermarkLoaded := false }
          throw ⟨loadErr.sentinels, .text "persist consumer watermark failed (" ::
            casErr.message ++ .text "), then reload failed: " :: loadErr.message⟩
      | .ok found =>
          match found with
          | none =>
              modify fun memory => { memory with watermarkLoaded := false }
              throw (casErr.within ["persist consumer watermark"])
          | some observed =>
              failIf (observed.repositoryID ≠ next.repositoryID ∨ observed.generation = 0 ∨
                observed.commit.isZero)
                (Sentinel.untrustedReference.tagged
                  ["invalid consumer watermark after failed CAS"])
              if observed = next then
                modify fun memory => { memory with watermark := observed }
              else
                failIf (observed.generation = next.generation) Sentinel.splitBrain.error
                if observed.generation > next.generation then
                  modify fun memory => { memory with watermark := observed }
                  throw ((Sentinel.precondition.tagged
                    ["durable watermark advanced concurrently"]).within
                      ["persist consumer watermark"])
                else
                  modify fun memory => { memory with watermarkLoaded := false }
                  throw (casErr.within ["persist consumer watermark"])

def Consumer.watermarkOf (reference : SnapshotReference) : Watermark :=
  ⟨consumer.repositoryID, reference.generation, reference.commit⟩

def adoptReferenceBy (descend : DescentCheck) (reference : SnapshotReference)
    (version : Version) : Consuming Unit := do
  let commit ← getCommitManifest repository reference.commit
  Action.ofExcept ((validateCommitManifest commit reference.generation).mapError
    (·.within ["commit/reference mismatch"]))
  let memory ← get
  let currentMark := memory.state.map fun current => consumer.watermarkOf current.reference
  failIf (∃ mark ∈ currentMark, mark.generation = memory.watermark.generation ∧
    mark.commit ≠ memory.watermark.commit) Sentinel.splitBrain.error
  let anchor := match currentMark with
    | some mark => if mark.generation > memory.watermark.generation then mark else memory.watermark
    | none => memory.watermark
  if anchor.generation > 0 ∧ reference.generation > anchor.generation then
    descend reference commit anchor
  let _ ← loadDirectory repository commit.root
  let watermark := consumer.watermarkOf reference
  if consumer.watermarks = true ∧ watermark.generation > memory.watermark.generation then
    persistConsumerWatermark consumer
      (if memory.watermark.generation > 0 then some memory.watermark else none) watermark
  modify fun latest => { latest with
    watermark := if watermark.generation ≥ latest.watermark.generation then watermark
      else latest.watermark
    state := some ⟨reference, commit, version⟩ }

def adoptReference (reference : SnapshotReference) (version : Version) : Consuming Unit :=
  adoptReferenceBy consumer (validateDescendant repository) reference version

end

end S3Disk
