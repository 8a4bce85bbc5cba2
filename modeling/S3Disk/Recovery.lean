import S3Disk.Journal

/-! The durable protocol of signed publication: load or initialize the journal,
begin an intent, drive it to the remote reference, and settle it. -/

namespace S3Disk

open Concurrent

def publicationRecoveryAttempts : Nat := 4

/-- The trust configuration of a signed publisher, as its constructor accepts it. -/
structure Trust where
  referenceSigner : ReferenceSigner
  referenceVerifier : ReferenceVerifier
  publicationJournal : Nat
  trustedCheckpoint : Option Watermark
  allowTrustOnFirstUse : Bool
  nonzero : referenceSigner.repositoryID.isZero = false
  sameRepository : referenceSigner.repositoryID = referenceVerifier.repositoryID
  checkpointValid : ∀ checkpoint ∈ trustedCheckpoint,
    checkpoint.repositoryID = referenceVerifier.repositoryID ∧ checkpoint.generation ≠ 0 ∧
      checkpoint.commit.isZero = false

structure PublisherMemory where
  checkpointValidated : Channel → Option Watermark
  protectedSourceSeen : Bytes → Bool

inductive PublicationRecoveryOutcome where
  | none
  | applied
  | superseded
  deriving DecidableEq, Repr

structure PublicationRecovery where
  outcome : PublicationRecoveryOutcome
  intentID : Digest
  current : Option Snapshot
  deriving DecidableEq, Repr

abbrev Recovery := Act PublisherMemory

section

variable (repository : Repository) (trust : Trust)

def walkPublicationAncestry (anchor : Watermark) : Nat → Option Digest → Proc Unit
  | 0, parent => failIf (parent ≠ some anchor.commit) Sentinel.splitBrain.error
  | steps + 1, parent => do
      contextErr
      match parent with
      | none => throw Sentinel.splitBrain.error
      | some digest => do
          failIf digest.isZero Sentinel.splitBrain.error
          let generation := anchor.generation + steps + 1
          let label : List Fragment :=
            ["validate publication ancestry at generation ", .number generation]
          match ← (repository.getManifest .commit repository.wire.commit digest).attempt with
          | .error error => throw (error.within label)
          | .ok ancestor => do
              .ofExcept ((validateCommitManifest ancestor generation).mapError (·.within label))
              walkPublicationAncestry anchor steps ancestor.parent

def validatePublicationDescendant (reference : SnapshotReference) (commit : CommitManifest)
    (anchor : Watermark) : Proc Unit := do
  failIf (reference.generation ≤ anchor.generation) Sentinel.splitBrain.error
  failIf (reference.generation - anchor.generation > maxCommitWalk)
    (Sentinel.resourceLimit.tagged
      ["publication ancestry exceeds ", .number maxCommitWalk, " generations"])
  walkPublicationAncestry repository anchor (reference.generation - 1 - anchor.generation)
    commit.parent

def rememberCheckpoint (channel : Channel) (watermark : Watermark) (memory : PublisherMemory) :
    PublisherMemory :=
  { memory with checkpointValidated :=
      Function.update memory.checkpointValidated channel (some watermark) }

/-- Check a watermark that is not the remembered one against the checkpoint, with
the remembered one, if any, as the anchor of the walk. -/
def validateAgainstAnchor (channel : Channel) (watermark checkpoint anchor : Watermark) :
    Recovery Unit := do
  failIf (watermark.repositoryID ≠ checkpoint.repositoryID)
    (Sentinel.untrustedReference.tagged
      ["publication watermark/checkpoint repository mismatch"])
  failIf (watermark.generation < checkpoint.generation) Sentinel.rollbackDetected.error
  if watermark.generation = checkpoint.generation then
    failIf (watermark.commit ≠ checkpoint.commit) Sentinel.splitBrain.error
    modify (rememberCheckpoint channel watermark)
  else
    match ← (repository.getManifest .commit repository.wire.commit watermark.commit).attempt with
    | .error error => throw (error.within ["validate publisher watermark against checkpoint"])
    | .ok commit =>
        Action.ofExcept (validateCommitManifest commit watermark.generation)
        match ← (validatePublicationDescendant repository
            ⟨objectFormatVersion, watermark.generation, watermark.commit⟩ commit anchor).attempt with
        | .error error => throw (error.within
            ["publisher watermark does not descend from trusted checkpoint"])
        | .ok () => modify (rememberCheckpoint channel watermark)

def validatePublicationCheckpoint (channel : Channel) (watermark checkpoint : Watermark) :
    Recovery Unit := do
  let memory ← get
  match memory.checkpointValidated channel with
  | none => validateAgainstAnchor repository channel watermark checkpoint checkpoint
  | some validated =>
      failIf (watermark.generation < validated.generation) Sentinel.rollbackDetected.error
      failIf (watermark.generation = validated.generation ∧ watermark.commit ≠ validated.commit)
        Sentinel.splitBrain.error
      if watermark = validated then return ()
      else validateAgainstAnchor repository channel watermark checkpoint validated

def validateLoadedPublicationJournal (channel : Channel) (state : PublicationJournalState) :
    Recovery Unit := do
  Action.ofExcept ((validatePublicationJournalState repository.wire state).mapError
    (·.within ["invalid publication journal"]))
  failIf (state.repositoryID ≠ trust.referenceVerifier.repositoryID ∨ state.channel ≠ channel)
    (Sentinel.untrustedReference.tagged ["publication journal identity mismatch"])
  match trust.trustedCheckpoint, state.committed with
  | none, _ => return ()
  | some _, none => throw (Sentinel.rollbackDetected.tagged
      ["publication journal is below trusted checkpoint"])
  | some checkpoint, some committed =>
      failIf (committed.generation < checkpoint.generation) Sentinel.rollbackDetected.error
      failIf (committed.generation = checkpoint.generation ∧ committed.commit ≠ checkpoint.commit)
        Sentinel.splitBrain.error
      validatePublicationCheckpoint repository channel committed checkpoint

def loadPublicationJournal (read : JournalRead) (channel : Channel) :
    Recovery (Option (PublicationJournalState × PublicationJournalRevision)) := do
  match ← (journalLoad trust.publicationJournal read channel).attempt with
  | .error error => throw (error.within ["load publication journal"])
  | .ok none => return none
  | .ok (some (state, revision)) =>
      failIf revision.isZero
        (Sentinel.corruptObject.tagged ["zero publication journal revision"])
      validateLoadedPublicationJournal repository trust channel state
      return some (state, revision)

def compareAndSwapPublicationJournal (channel : Channel)
    (expected : Option PublicationJournalRevision) (next : PublicationJournalState) :
    Recovery PublicationJournalRevision := do
  let revision ← journalCompareAndSwap trust.publicationJournal channel expected next
  failIf revision.isZero
    (Sentinel.storeIncompatible.tagged ["publication journal returned a zero revision"])
  return revision

def initialPublicationState (channel : Channel) : PublicationJournalState :=
  { repositoryID := trust.referenceVerifier.repositoryID
    channel
    committed := trust.trustedCheckpoint
    pending := none }

def rememberTrustedCheckpoint (channel : Channel) (memory : PublisherMemory) : PublisherMemory :=
  match trust.trustedCheckpoint with
  | none => memory
  | some checkpoint => rememberCheckpoint channel checkpoint memory

def loadOrInitializePublicationJournal (channel : Channel) :
    Recovery (PublicationJournalState × PublicationJournalRevision) := do
  match ← loadPublicationJournal repository trust .load channel with
  | some (state, revision) =>
      failIf (state.committed = none ∧ state.pending = none ∧ trust.trustedCheckpoint = none ∧
        trust.allowTrustOnFirstUse = false) Sentinel.trustStateRequired.error
      return (state, revision)
  | none =>
      failIf (trust.trustedCheckpoint = none ∧ trust.allowTrustOnFirstUse = false)
        Sentinel.trustStateRequired.error
      let state := initialPublicationState trust channel
      match ← (compareAndSwapPublicationJournal trust channel none state).attempt with
      | .ok revision =>
          modify (rememberTrustedCheckpoint trust channel)
          return (state, revision)
      | .error casErr =>
          failIf (casErr.is .storeIncompatible) casErr
          -- The write may have been applied and its answer lost.
          match ← (loadPublicationJournal repository trust .loadAgain channel).attempt with
          | .error loadErr =>
              throw (Err.twice ["initialize publication journal"] casErr ["reload"] loadErr)
          | .ok none => throw (casErr.within ["initialize publication journal"])
          | .ok (some loaded) => return loaded

def readPublicationCommit (watermark : Watermark) : Proc CommitManifest := do
  match ← (repository.getManifest .commit repository.wire.commit watermark.commit).attempt with
  | .error error => throw (error.within ["read signed publication commit"])
  | .ok commit =>
      .ofExcept (validateCommitManifest commit watermark.generation)
      return commit

def snapshotFromPublicationCommit (watermark : Watermark) (commit : CommitManifest) : Snapshot :=
  ⟨watermark.generation, watermark.commit, commit.root, commit.publishedAtUnix⟩

def snapshotForPublicationWatermark (watermark : Watermark) : Proc Snapshot := do
  let commit ← readPublicationCommit repository watermark
  return snapshotFromPublicationCommit watermark commit

def publicationDescends (candidate : Watermark) (commit : CommitManifest) (anchor : Watermark) :
    Proc Bool := do
  match ← (validatePublicationDescendant repository
      ⟨objectFormatVersion, candidate.generation, candidate.commit⟩ commit anchor).attempt with
  | .ok () => return true
  | .error error =>
      failIf (error.is .splitBrain = false) error
      return false

def walkToFirstPublication : Nat → Option Digest → Proc Bool
  | 0, parent => return parent.isNone
  | generation + 1, parent => do
      match parent with
      | none => return false
      | some digest =>
          if digest.isZero then return false
          else
            match ← (repository.getManifest .commit repository.wire.commit digest).attempt with
            | .error error => throw (error.within
                ["validate superseding history at generation ", .number (generation + 1)])
            | .ok ancestor =>
                .ofExcept (validateCommitManifest ancestor (generation + 1))
                walkToFirstPublication generation ancestor.parent

def validSupersedingPublication (candidate : Watermark) (commit : CommitManifest)
    (base : Option Watermark) : Proc Bool := do
  match base with
  | some base =>
      if candidate.generation ≤ base.generation then return false
      else publicationDescends repository candidate commit base
  | none =>
      if candidate.generation = 1 then return commit.parent.isNone
      else
        failIf (candidate.generation > maxCommitWalk)
          (Sentinel.resourceLimit.tagged
            ["publication ancestry exceeds ", .number maxCommitWalk, " generations"])
        walkToFirstPublication repository (candidate.generation - 1) commit.parent

def checkPendingParent (intent : PublicationIntent) (commit : CommitManifest) : Except Err Unit :=
  match intent.kind, intent.base with
  | .resign, _ => .ok ()
  | .publish, none =>
      if commit.parent.isSome then
        .error (Sentinel.splitBrain.tagged ["first pending commit has a parent"])
      else .ok ()
  | .publish, some base =>
      if commit.parent ≠ some base.commit then
        .error (Sentinel.splitBrain.tagged
          ["pending commit does not directly descend from its base"])
      else .ok ()

def validatePendingPublication (channel : Channel) (intent : PublicationIntent) :
    Proc Snapshot := do
  .ofExcept ((validatePublicationJournalIntent repository.wire
    trust.referenceVerifier.repositoryID channel intent).mapError
      (·.within ["invalid pending publication"]))
  match ← (verifySignedSnapshotReference repository.wire intent.reference channel
      trust.referenceVerifier).attempt with
  | .error error => throw (error.within ["authenticate pending publication"])
  | .ok reference =>
      failIf (reference.generation ≠ intent.next.generation ∨
          reference.commit ≠ intent.next.commit)
        (Sentinel.corruptObject.tagged ["pending reference does not match its watermark"])
      match ← (readPublicationCommit repository intent.next).attempt with
      | .error error => throw (error.within ["read pending commit"])
      | .ok commit =>
          .ofExcept (checkPendingParent intent commit)
          return snapshotFromPublicationCommit intent.next commit

def refreshPublicationObservation (channel : Channel) (state : PublicationJournalState)
    (revision : PublicationJournalRevision) (object : Object) :
    Recovery (PublicationJournalState × PublicationJournalRevision) := do
  match state.pending with
  | none => throw (Sentinel.precondition.tagged ["no based pending publication"])
  | some pending =>
      failIf (pending.base = none)
        (Sentinel.precondition.tagged ["no based pending publication"])
      failIf (object.version.eTag = [])
        (Sentinel.storeIncompatible.tagged ["store returned an empty reference version"])
      let observed : PublicationIntent :=
        { pending with
          expectedVersion := some object.version
          expectedReference := publicationReferenceDigest repository.wire object.data }
      if equalPublicationIntents pending observed then return (state, revision)
      else
        let desired := { state with pending := some observed }
        match ← (compareAndSwapPublicationJournal trust channel (some revision) desired).attempt with
        | .ok newRevision => return (desired, newRevision)
        | .error casErr =>
            failIf (casErr.is .storeIncompatible) casErr
            match ← (loadPublicationJournal repository trust (.refresh observed) channel).attempt with
            | .error loadErr =>
                throw (Err.twice ["refresh publication observation"] casErr ["reload"] loadErr)
            | .ok none =>
                throw (Sentinel.rollbackDetected.tagged ["publication journal disappeared"])
            | .ok (some (loaded, loadedRevision)) =>
                failIf (∀ other ∈ loaded.pending, equalPublicationIntentSemantics pending other = false)
                  (Sentinel.publishConflict.tagged
                    ["pending publication changed while refreshing its remote observation"])
                failIf (∀ other ∈ loaded.pending, equalPublicationIntents other observed = false)
                  (Sentinel.publishConflict.tagged ["publication observation changed concurrently"])
                return (loaded, loadedRevision)

def reloadPublicationRecovery (channel : Channel) (initial : PublicationIntent) :
    Recovery (PublicationJournalState × PublicationJournalRevision) := do
  match ← loadPublicationJournal repository trust (.recover initial) channel with
  | none => throw (Sentinel.rollbackDetected.tagged ["publication journal disappeared"])
  | some (state, revision) =>
      failIf (∃ other ∈ state.pending, equalPublicationIntentSemantics initial other = false)
        (Sentinel.publishConflict.tagged ["pending publication changed concurrently"])
      return (state, revision)

def finalizePublication (state : PublicationJournalState) (revision : PublicationJournalRevision)
    (committed : Watermark) (snapshot : Snapshot) (outcome : PublicationRecoveryOutcome) :
    Recovery PublicationRecovery := do
  let intentID := (state.pending.map (·.intentID)).getD .zero
  failIf (snapshot.generation ≠ committed.generation ∨ snapshot.commit ≠ committed.commit ∨
      snapshot.root.isZero)
    (Sentinel.corruptObject.tagged ["publication result does not match committed watermark"])
  let desired := { state with committed := some committed, pending := none }
  match ← (compareAndSwapPublicationJournal trust state.channel (some revision) desired).attempt with
  | .ok _ => return ⟨outcome, intentID, some snapshot⟩
  | .error casErr =>
      failIf (casErr.is .storeIncompatible) casErr
      match ← (loadPublicationJournal repository trust .finalize state.channel).attempt with
      | .error loadErr =>
          throw (Err.twice ["finalize publication"] casErr ["reload"] loadErr)
      | .ok loaded =>
          failIf (∀ found ∈ loaded, found.1.pending ≠ none ∨ found.1.committed ≠ desired.committed)
            (Sentinel.publishIndeterminate.wraps
              (casErr.within ["finalize pending publication"]))
          return ⟨outcome, intentID, some snapshot⟩

end

end S3Disk
