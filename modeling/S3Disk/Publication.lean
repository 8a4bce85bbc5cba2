import S3Disk.Recovery

/-! Driving a pending intent to the remote reference: the recovery loop, the
classification of an intent that somebody else settled, and the signed commit. -/

namespace S3Disk

open Concurrent

section

variable (repository : Repository) (trust : Trust)

def watermarkOf (reference : SnapshotReference) : Watermark :=
  ⟨trust.referenceVerifier.repositoryID, reference.generation, reference.commit⟩

def checkNotBehind (remote anchor : Watermark) : Except Err Unit :=
  if remote.generation < anchor.generation then .error Sentinel.rollbackDetected.error
  else if remote.generation = anchor.generation ∧ remote.commit ≠ anchor.commit then
    .error Sentinel.splitBrain.error
  else .ok ()

def validateAdvance (reference : SnapshotReference) (commit : CommitManifest)
    (anchor : Watermark) : Proc Unit :=
  if reference.generation > anchor.generation then
    validatePublicationDescendant repository reference commit anchor
  else pure ()

def classifyResolvedResign (channel : Channel) (intent : PublicationIntent)
    (committed : Watermark) : Proc PublicationRecovery := do
  match ← (repository.getReferenceWithVerifier channel [] trust.referenceVerifier).attempt with
  | .error error =>
      throw (Sentinel.publishIndeterminate.wraps (error.within ["classify resolved re-sign"]))
  | .ok (reference, object) =>
      let remote := watermarkOf trust reference
      let remoteCommit ← readPublicationCommit repository remote
      .ofExcept (checkNotBehind remote committed)
      validateAdvance repository reference remoteCommit committed
      .ofExcept (checkNotBehind remote intent.next)
      let current := snapshotFromPublicationCommit remote remoteCommit
      if remote = intent.next ∧ object.data = intent.reference then
        return ⟨.applied, intent.intentID, some current⟩
      else
        failIf (remote = intent.next ∧
            publicationReferenceDigest repository.wire object.data = intent.expectedReference)
          (Sentinel.publishIndeterminate.tagged
            ["resolved re-sign still exposes its original envelope"])
        validateAdvance repository reference remoteCommit intent.next
        return ⟨.superseded, intent.intentID, some current⟩

def committedIncludes (intent : PublicationIntent) (committed : Watermark) : Proc Bool := do
  if committed = intent.next then return true
  else if committed.generation > intent.next.generation then
    let commit ← readPublicationCommit repository committed
    publicationDescends repository committed commit intent.next
  else return false

def classifyResolvedPublication (channel : Channel) (intent : PublicationIntent)
    (committed : Option Watermark) : Proc PublicationRecovery := do
  match committed with
  | none => throw (Sentinel.rollbackDetected.tagged
      ["resolved publication has no committed watermark"])
  | some committed => match intent.kind with
    | .resign => classifyResolvedResign repository trust channel intent committed
    | .publish =>
        let snapshot ← snapshotForPublicationWatermark repository committed
        let applied ← committedIncludes repository intent committed
        return ⟨if applied then .applied else .superseded, intent.intentID, some snapshot⟩

def acceptObservedPublication (channel : Channel) (state : PublicationJournalState)
    (revision : PublicationJournalRevision) (reference : SnapshotReference)
    (commit : CommitManifest) :
    Recovery (PublicationJournalState × PublicationJournalRevision) := do
  failIf state.pending.isSome
    (Sentinel.publishIndeterminate.tagged ["unresolved publication intent"])
  let candidate := watermarkOf trust reference
  Action.ofExcept (state.committed.forM (checkNotBehind candidate))
  if state.committed = some candidate then return (state, revision)
  else
    (state.committed.forM (validatePublicationDescendant repository reference commit) : Proc Unit)
    let desired := { state with committed := some candidate }
    match ← (compareAndSwapPublicationJournal trust channel (some revision) desired).attempt with
    | .ok newRevision => return (desired, newRevision)
    | .error casErr =>
        failIf (casErr.is .storeIncompatible) casErr
        match ← (loadPublicationJournal repository trust .accept channel).attempt with
        | .error loadErr =>
            throw (Err.twice ["adopt signed publication"] casErr ["reload"] loadErr)
        | .ok loaded =>
            match loaded.filter fun found =>
                found.1.pending = none ∧ found.1.committed = desired.committed with
            | some found => return found
            | none =>
                failIf (casErr.is .precondition)
                  (Sentinel.publishConflict.tagged ["publication journal changed concurrently"])
                throw casErr

def applyPending (channel : Channel) (initial : PublicationIntent) (target : Snapshot)
    (again : PublicationJournalState → PublicationJournalRevision → Err →
      Recovery PublicationRecovery)
    (state : PublicationJournalState) (revision : PublicationJournalRevision)
    (expected : Option Version) : Recovery PublicationRecovery := do
  match state.pending with
  | none => halt
  | some pending =>
      match ← (Repository.compareAndSwap (Repository.signedReferenceKey channel) expected
          pending.reference).attempt with
      | .ok _ => finalizePublication repository trust state revision pending.next target .applied
      | .error lastErr =>
          let (state, revision) ← reloadPublicationRecovery repository trust channel initial
          again state revision lastErr

def applyObserved (channel : Channel) (initial : PublicationIntent) (target : Snapshot)
    (again : PublicationJournalState → PublicationJournalRevision → Err →
      Recovery PublicationRecovery)
    (state : PublicationJournalState) (revision : PublicationJournalRevision) (object : Object) :
    Recovery PublicationRecovery := do
  let (state, revision) ← refreshPublicationObservation repository trust channel state revision
    object
  applyPending repository trust channel initial target again state revision object.version

/-- What the recovery does about an authenticated remote reference, with a given check of
what may supersede an intent. -/
def resolveObservedBy
    (supersedes : Watermark → CommitManifest → Option Watermark → Proc Bool)
    (channel : Channel) (initial : PublicationIntent) (target : Snapshot)
    (again : PublicationJournalState → PublicationJournalRevision → Err →
      Recovery PublicationRecovery)
    (state : PublicationJournalState) (revision : PublicationJournalRevision)
    (pending : PublicationIntent) (reference : SnapshotReference) (object : Object) :
    Recovery PublicationRecovery := do
  let remote := watermarkOf trust reference
  let remoteCommit ← readPublicationCommit repository remote
  let remoteSnapshot := snapshotFromPublicationCommit remote remoteCommit
  let settle := finalizePublication repository trust state revision remote remoteSnapshot
  Action.ofExcept (state.committed.forM (checkNotBehind remote))
  if pending.kind = .resign ∧ remote = pending.next then
    if object.data = pending.reference then settle .applied
    else if publicationReferenceDigest repository.wire object.data ≠ pending.expectedReference then
      settle .superseded
    else applyObserved repository trust channel initial target again state revision object
  else if remote = pending.next then settle .applied
  else if remote.generation > pending.next.generation then
    let includesTarget ← publicationDescends repository remote remoteCommit pending.next
    match pending.kind with
    | .resign =>
        failIf (includesTarget = false) Sentinel.splitBrain.error
        settle .superseded
    | .publish =>
        if includesTarget then settle .applied
        else
          let validWinner ← supersedes remote remoteCommit pending.base
          failIf (validWinner = false) Sentinel.splitBrain.error
          settle .superseded
  else if pending.base = some remote then
    applyObserved repository trust channel initial target again state revision object
  else
    let validWinner ← supersedes remote remoteCommit pending.base
    failIf (validWinner = false) Sentinel.splitBrain.error
    settle .superseded

def resolveObserved (channel : Channel) (initial : PublicationIntent) (target : Snapshot)
    (again : PublicationJournalState → PublicationJournalRevision → Err →
      Recovery PublicationRecovery)
    (state : PublicationJournalState) (revision : PublicationJournalRevision)
    (pending : PublicationIntent) (reference : SnapshotReference) (object : Object) :
    Recovery PublicationRecovery :=
  resolveObservedBy repository trust (validSupersedingPublication repository) channel initial
    target again state revision pending reference object

def remainsPending (initial : PublicationIntent) (lastErr : Err) : Err :=
  Sentinel.publishIndeterminate.wraps
    (lastErr.within ["pending intent ", .hex initial.intentID.bytes, " remains durable"])

/-- The attempts of a recovery. An attempt that the store refuses goes to the next
one with the journal read again. -/
def recoverAttempts (channel : Channel) (initial : PublicationIntent) (target : Snapshot) :
    Nat → PublicationJournalState → PublicationJournalRevision → Err →
      Recovery PublicationRecovery
  | 0, _, _, lastErr => throw (remainsPending initial lastErr)
  | attempts + 1, state, revision, _ => do
      match ← contextErr.attempt with
      | .error error => throw (Sentinel.publishIndeterminate.wraps
          (error.within ["recover publication ", .hex initial.intentID.bytes]))
      | .ok () => match state.pending with
        | none => classifyResolvedPublication repository trust channel initial state.committed
        | some pending =>
            failIf (equalPublicationIntentSemantics initial pending = false)
              (Sentinel.publishConflict.tagged ["another publication replaced pending intent ",
                .hex initial.intentID.bytes])
            match ← (repository.getReferenceWithVerifier channel []
                trust.referenceVerifier).attempt with
            | .ok (reference, object) =>
                resolveObserved repository trust channel initial target
                  (recoverAttempts channel initial target attempts) state revision pending
                  reference object
            | .error getErr =>
                failIf (getErr.is .objectNotFound = false)
                  (remainsPending initial (getErr.within ["read signed reference"]))
                failIf pending.base.isSome
                  (Sentinel.rollbackDetected.tagged ["signed reference disappeared while intent ",
                    .hex initial.intentID.bytes, " was pending"])
                applyPending repository trust channel initial target
                  (recoverAttempts channel initial target attempts) state revision none

def recoverPublication (channel : Channel) (state : PublicationJournalState)
    (revision : PublicationJournalRevision) : Recovery PublicationRecovery := do
  match state.pending with
  | none => return ⟨.none, .zero, none⟩
  | some initial =>
      let target ← validatePendingPublication repository trust channel initial
      recoverAttempts repository trust channel initial target publicationRecoveryAttempts state
        revision (.plain ["publication recovery retry limit reached"])

def preparePublicationJournal (channel : Channel) :
    Recovery (PublicationJournalState × PublicationJournalRevision) := do
  let (state, revision) ← loadOrInitializePublicationJournal repository trust channel
  if state.pending = none then return (state, revision)
  else
    let _ ← recoverPublication repository trust channel state revision
    match ← loadPublicationJournal repository trust .prepare channel with
    | none => throw (Sentinel.publishIndeterminate.tagged
        ["publication recovery did not resolve its journal"])
    | some (state, revision) =>
        failIf (state.pending ≠ none) (Sentinel.publishIndeterminate.tagged
          ["publication recovery did not resolve its journal"])
        return (state, revision)

def recoverSigned (channel : Channel) : Recovery PublicationRecovery := do
  Action.ofExcept (repository.validateChannel channel)
  let (state, revision) ← loadOrInitializePublicationJournal repository trust channel
  if state.pending = none then
    match state.committed with
    | none => return ⟨.none, .zero, none⟩
    | some committed =>
        let current ← snapshotForPublicationWatermark repository committed
        return ⟨.none, .zero, some current⟩
  else recoverPublication repository trust channel state revision

end

end S3Disk
