import S3Disk.Publication
import S3Disk.SourceTree

/-! A publisher's calls: stage a snapshot, commit it, re-sign the current
reference and recover a pending publication. -/

namespace S3Disk

open Concurrent

structure Publisher (repository : Repository) where
  options : TreeOptions
  protectedSourceFiles : List ProtectedSourceFile
  trust : Option Trust
  chunkingNormalized : options.chunking.normalized repository.wire = .ok options.chunking
  triesBounded : 1 ≤ options.stableReadTries ∧ options.stableReadTries ≤ 100

structure StagedSnapshot where
  publisher : Nat
  channel : Channel
  expected : Option Version
  referenceData : Bytes
  publicationState : Option PublicationJournalState
  publicationRevision : Option PublicationJournalRevision
  publicationIntent : Option PublicationIntent
  unchanged : Bool
  snapshot : Snapshot
  deriving DecidableEq, Repr

def captureProtected :
    List ProtectedSourceFile → Nat → List FileInfo → Recovery (List FileInfo)
  | [], _, identities => return identities
  | guarded :: rest, index, identities => do
      contextErr
      match ← (osLstat guarded.path).attempt with
      | .error error =>
          let seen := (← get).protectedSourceSeen guarded.path
          failIf (error.is .osNotExist = false) (Sentinel.protectedSourceFile.tagged
            ["configured file ", .number (index + 1), " cannot be inspected"])
          failIf (guarded.allowMissingInitially = false ∨ seen)
            (Sentinel.protectedSourceFile.tagged
              ["configured file ", .number (index + 1), " is missing"])
          captureProtected rest (index + 1) identities
      | .ok linked =>
          modify fun memory => { memory with
            protectedSourceSeen := Function.update memory.protectedSourceSeen guarded.path true }
          failIf (linked.isRegular = false) (Sentinel.protectedSourceFile.tagged
            ["configured file ", .number (index + 1), " is not a regular non-symlink file"])
          match ← (osOpen guarded.path).attempt with
          | .error _ => throw (Sentinel.protectedSourceFile.tagged
              ["configured file ", .number (index + 1), " cannot be opened"])
          | .ok handle =>
              let statted ← (handleStat handle).attempt
              let listed ← (osLstat guarded.path).attempt
              let changed := Sentinel.protectedSourceFile.wraps (Sentinel.unstableFile.error.within
                ["configured file ", .number (index + 1), " changed during inspection"])
              match statted, listed with
              | .ok opened, .ok current =>
                  failIf (opened.isRegular = false ∨ current.isRegular = false ∨
                    sameFile linked opened = false ∨ sameFile opened current = false) changed
                  captureProtected rest (index + 1)
                    (if identities.any (sameFile opened) then identities
                     else identities ++ [opened])
              | _, _ => throw changed

def openSource (repository : Repository) (source : Bytes) (channel : Channel) :
    Proc (Bytes × FileInfo × Nat) := do
  contextErr
  .ofExcept (repository.validateChannel channel)
  match ← (filepathAbs source).attempt with
  | .error error => throw (error.within ["resolve source path"])
  | .ok source => do
      contextErr
      match ← (osLstat source).attempt with
      | .error error => throw (error.within ["stat source"])
      | .ok info => do
          failIf (info.isDir = false) (Sentinel.notDirectory.tagged ["source is not a directory"])
          contextErr
          match ← (osOpenRoot source).attempt with
          | .error error => throw (error.within ["open traversal-safe source root"])
          | .ok sourceRoot => do
              match ← (rootOpen sourceRoot dot).attempt with
              | .error error => throw (error.within ["open source root handle"])
              | .ok rootHandle => do
                  let statted ← (handleStat rootHandle).attempt
                  let closed ← (handleClose rootHandle).attempt
                  let changed := Sentinel.unstableFile.tagged
                    ["source root identity changed before scan"]
                  match statted, closed with
                  | .ok rootInfo, .ok () => do
                      failIf (rootInfo.isDir = false ∨ sameFile info rootInfo = false) changed
                      return (source, info, sourceRoot)
                  | _, _ => throw changed

structure Journaled where
  trust : Trust
  state : PublicationJournalState
  revision : PublicationJournalRevision

structure CurrentPublication where
  reference : SnapshotReference
  object : Object
  commit : CommitManifest

section

variable {repository : Repository} (publisher : Publisher repository)

def Publisher.verifier : Option ReferenceVerifier := publisher.trust.map (·.referenceVerifier)

def Publisher.referenceKey (channel : Channel) : Key :=
  if publisher.trust.isSome then Repository.signedReferenceKey channel
  else Repository.referenceKey channel

def prepareJournal (channel : Channel) : Recovery (Option Journaled) := do
  match publisher.trust with
  | none => return none
  | some trust =>
      let (state, revision) ← preparePublicationJournal repository trust channel
      return some ⟨trust, state, revision⟩

variable (repository) in
def acceptJournal (channel : Channel) (reference : SnapshotReference) (commit : CommitManifest) :
    Option Journaled → Recovery (Option Journaled)
  | none => return none
  | some ⟨trust, state, revision⟩ => do
      match ← (acceptObservedPublication repository trust channel state revision reference
          commit).attempt with
      | .error error => throw (error.within ["validate current signed publication"])
      | .ok (state, revision) => return some ⟨trust, state, revision⟩

def observeCurrent (channel : Channel) (journal : Option Journaled) :
    Recovery (Option CurrentPublication × Option Journaled) := do
  match ← (repository.getReferenceWithVerifier channel [] publisher.verifier).attempt with
  | .ok (reference, object) =>
      match ← (repository.getManifest .commit repository.wire.commit reference.commit).attempt with
      | .error error => throw (error.within ["read current commit"])
      | .ok commit =>
          Action.ofExcept ((validateCommitManifest commit reference.generation).mapError
            (·.within ["current commit/reference mismatch"]))
          let journal ← acceptJournal repository channel reference commit journal
          failIf (reference.generation = maxUint64) Sentinel.generationExhausted.error
          return (some ⟨reference, object, commit⟩, journal)
  | .error error =>
      failIf (error.is .objectNotFound = false) (error.within ["read current reference"])
      failIf (∃ held ∈ journal, held.state.committed.isSome)
        (Sentinel.rollbackDetected.tagged
          ["signed publication disappeared below durable watermark"])
      return (none, journal)

def referenceBytes (channel : Channel) (reference : SnapshotReference) : Proc Bytes :=
  match publisher.trust with
  | none => return repository.wire.reference.marshal reference
  | some trust => signSnapshotReference repository.wire channel reference trust.referenceSigner
      trust.referenceVerifier

variable (repository) in
def stagedIntent (channel : Channel) (reference : SnapshotReference) (referenceData : Bytes)
    (current : Option CurrentPublication) (journal : Journaled) : PublicationIntent :=
  let repositoryID := journal.trust.referenceVerifier.repositoryID
  let next : Watermark := ⟨repositoryID, reference.generation, reference.commit⟩
  { intentID := publicationIntentID repository.wire repositoryID channel .publish
      journal.state.committed next referenceData
    kind := .publish
    base := journal.state.committed
    next
    expectedVersion := current.map (·.object.version)
    expectedReference := (current.map fun observed =>
      publicationReferenceDigest repository.wire observed.object.data).getD .zero
    reference := referenceData }

variable (repository) in
def checkedIntent (channel : Channel) (reference : SnapshotReference) (referenceData : Bytes)
    (current : Option CurrentPublication) : Option Journaled → Except Err (Option PublicationIntent)
  | none => .ok none
  | some journal =>
      let intent := stagedIntent repository channel reference referenceData current journal
      match validatePublicationJournalIntent repository.wire
          journal.trust.referenceVerifier.repositoryID channel intent with
      | .error error => .error (error.within ["construct publication intent"])
      | .ok () => .ok (some intent)

def stagedUnchanged (self : Nat) (channel : Channel) (current : CurrentPublication)
    (journal : Option Journaled) : StagedSnapshot :=
  { publisher := self
    channel
    expected := some current.object.version
    referenceData := []
    publicationState := journal.map (·.state)
    publicationRevision := journal.map (·.revision)
    publicationIntent := none
    unchanged := true
    snapshot := ⟨current.reference.generation, current.reference.commit, current.commit.root,
      current.commit.publishedAtUnix⟩ }

def stageCommit (self : Nat) (channel : Channel) (current : Option CurrentPublication)
    (journal : Option Journaled) (root : Digest) : Proc StagedSnapshot := do
  let publishedAt ← now
  let generation := (current.map (·.reference.generation + 1)).getD 1
  let commit : CommitManifest :=
    { format := objectFormatVersion
      generation
      parent := current.map (·.reference.commit)
      root
      publishedAtUnix := publishedAt
      resetChanges := true }
  let commitDigest ← repository.putManifest .commit repository.wire.commit commit
  let reference : SnapshotReference := ⟨objectFormatVersion, generation, commitDigest⟩
  let referenceData ← referenceBytes publisher channel reference
  failIf (referenceData.length > maxReferenceBytes)
    (Sentinel.resourceLimit.tagged ["snapshot reference is ", .number referenceData.length,
      " bytes (maximum ", .number maxReferenceBytes, ")"])
  let intent ← .ofExcept
    (checkedIntent repository channel reference referenceData current journal)
  return {
    publisher := self
    channel
    expected := current.map (·.object.version)
    referenceData
    publicationState := journal.map (·.state)
    publicationRevision := journal.map (·.revision)
    publicationIntent := intent
    unchanged := false
    snapshot := ⟨generation, commitDigest, root, publishedAt⟩ }

def buildSource (source : Bytes) (info : FileInfo) (sourceRoot : Nat)
    (selection : Option PathSelection) (secured : List FileInfo) : Proc Digest := do
  let root ← buildDirectorySelection repository publisher.options sourceRoot secured
    (maxLookupDepth + 1) dot info selection
  let changed := Sentinel.unstableFile.tagged ["source root identity changed during scan"]
  match ← (osLstat source).attempt with
  | .error _ => throw changed
  | .ok currentRoot => do
      failIf (currentRoot.isDir = false ∨ sameFile info currentRoot = false ∨
        stableFileInfo info currentRoot = false) changed
      return root

def stage (self : Nat) (source : Bytes) (channel : Channel) (selection : Option PathSelection) :
    Recovery StagedSnapshot := do
  let (source, info, sourceRoot) ← openSource repository source channel
  let journal ← prepareJournal publisher channel
  let (current, journal) ← observeCurrent publisher channel journal
  let secured ← captureProtected publisher.protectedSourceFiles 0 []
  let root ← buildSource publisher source info sourceRoot selection secured
  match current.filter fun observed => observed.commit.root = root with
  | some observed => return stagedUnchanged self channel observed journal
  | none => stageCommit publisher self channel current journal root

def stageSelected (self : Nat) (source : Bytes) (channel : Channel) (paths : List Bytes) :
    Recovery StagedSnapshot := do
  let selection ← newPathSelectionContext paths
  stage publisher self source channel selection

end

end S3Disk
