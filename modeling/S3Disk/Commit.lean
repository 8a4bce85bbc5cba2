import S3Disk.Publisher

/-! Commit and re-sign: the signed commit through the journal, the unsigned commit
with its reconciliation, and what a publisher's caller may ask for. -/

namespace S3Disk

open Concurrent

inductive CommitOutcome where
  | unknown
  | applied
  | rejected
  deriving DecidableEq, Repr

section

variable (repository : Repository)

/-- Record an intent in the journal. True means the intent is durable, false that
the commit turned out to be published already. -/
def beginPublication (trust : Trust) (channel : Channel) (intent : PublicationIntent) :
    Nat → PublicationJournalState → PublicationJournalRevision → Recovery Bool
  | 0, _, _ => throw (Sentinel.publishConflict.tagged
      ["publication journal kept changing before durable begin"])
  | attempts + 1, state, revision => do
      let desired := { state with pending := some intent }
      match ← (compareAndSwapPublicationJournal trust channel (some revision) desired).attempt with
      | .ok _ => return true
      | .error casErr =>
          failIf (casErr.is .storeIncompatible) casErr
          match ← (loadPublicationJournal repository trust (.begin intent) channel).attempt with
          | .error loadErr =>
              throw (Err.twice ["begin durable publication"] casErr ["reload"] loadErr)
          | .ok none =>
              throw (Sentinel.rollbackDetected.tagged ["publication journal disappeared"])
          | .ok (some (loaded, loadedRevision)) => match loaded.pending with
            | some other =>
                failIf (equalPublicationIntents other intent = false)
                  (Sentinel.publishConflict.tagged
                    ["another signed publication owns the durable pending slot"])
                return true
            | none =>
                if loaded.committed = intent.base then
                  beginPublication trust channel intent attempts loaded loadedRevision
                else
                  let resolved ← classifyResolvedPublication repository trust channel intent
                    loaded.committed
                  failIf (resolved.outcome ≠ .applied) Sentinel.publishConflict.error
                  return false

def settleBegun (trust : Trust) (channel : Channel) (intent : PublicationIntent)
    (recovery : PublicationRecovery) : Recovery Bool := do
  if recovery.outcome = .applied ∧ recovery.intentID = intent.intentID then return true
  else if recovery.outcome = .none then
    match ← loadPublicationJournal repository trust .resolve channel with
    | none => return false
    | some (loaded, _) =>
        let resolved ← classifyResolvedPublication repository trust channel intent loaded.committed
        return resolved.outcome = .applied
  else return false

def commitSignedPublication (trust : Trust) (staged : StagedSnapshot) : Recovery Snapshot := do
  match staged.publicationState, staged.publicationRevision, staged.publicationIntent with
  | some state, some revision, some intent =>
      failIf (state.pending.isSome ∨ state.committed ≠ intent.base)
        (Sentinel.publishConflict.tagged ["stale staged publication journal state"])
      let begun ← beginPublication repository trust staged.channel intent 2 state revision
      if begun then
        let recovery ← recoverSigned repository trust staged.channel
        let published ← settleBegun repository trust staged.channel intent recovery
        failIf (published = false) Sentinel.publishConflict.error
        return staged.snapshot
      else return staged.snapshot
  | _, _, _ => throw (Sentinel.corruptObject.tagged
      ["staged signed publication lacks durable journal state"])

def walkCommitChain (bottom : Nat) : Nat → Digest → Proc Digest
  | 0, digest => return digest
  | steps + 1, digest => do
      contextErr
      let generation := bottom + steps + 1
      match ← (repository.getManifest .commit repository.wire.commit digest).attempt with
      | .error error => throw (error.within
          ["walk commit chain at generation ", .number generation])
      | .ok commit => do
          .ofExcept ((validateCommitManifest commit generation).mapError
            (·.within ["invalid commit chain at generation ", .number generation]))
          match commit.parent with
          | none => halt
          | some parent => walkCommitChain bottom steps parent

end

section

variable {repository : Repository} (publisher : Publisher repository)

def reconcileCommit (staged : StagedSnapshot) : Proc CommitOutcome := do
  match ← (repository.getReferenceWithVerifier staged.channel [] publisher.verifier).attempt with
  | .error error => throw (error.within ["read reference after CAS"])
  | .ok (reference, _) => do
      let bottom := staged.snapshot.generation
      if reference.generation < bottom then return .unknown
      else
        failIf (reference.generation - bottom > maxCommitWalk)
          (Sentinel.resourceLimit.tagged
            ["commit ancestry exceeds ", .number maxCommitWalk, " generations"])
        let digest ← walkCommitChain repository bottom (reference.generation - bottom)
          reference.commit
        return if digest = staged.snapshot.commit then .applied else .rejected

def indeterminatePublishError (casErr : Err) (reconcileErr : Option Err) : Err :=
  match reconcileErr with
  | some reconcileErr =>
      ⟨.publishIndeterminate :: casErr.sentinels ++ reconcileErr.sentinels,
        .text Sentinel.publishIndeterminate.text :: .text ": CAS failed (" :: casErr.message ++
          .text ") and reconciliation failed: " :: reconcileErr.message⟩
  | none => Sentinel.publishIndeterminate.wraps
      (casErr.within ["CAS failed and the observed reference may be stale"])

def commitUnchanged (staged : StagedSnapshot) : Proc Snapshot := do
  match staged.expected with
  | none => halt
  | some expected =>
      match ← (repository.getReferenceWithVerifier staged.channel expected.eTag
          publisher.verifier).attempt with
      | .ok (reference, _) =>
          failIf (reference.generation ≠ staged.snapshot.generation ∨
            reference.commit ≠ staged.snapshot.commit) Sentinel.publishConflict.error
          return staged.snapshot
      | .error error =>
          if error.is .notModified then return staged.snapshot
          else
            failIf (error.is .objectNotFound) Sentinel.publishConflict.error
            throw (error.within ["verify unchanged reference"])

def commitUnsigned (staged : StagedSnapshot) : Proc Snapshot := do
  match ← (Repository.compareAndSwap (publisher.referenceKey staged.channel) staged.expected
      staged.referenceData).attempt with
  | .ok _ => return staged.snapshot
  | .error casErr =>
      match ← (reconcileCommit publisher staged).attempt with
      | .ok .applied => return staged.snapshot
      | .ok .rejected => throw Sentinel.publishConflict.error
      | .ok .unknown => throw (indeterminatePublishError casErr none)
      | .error reconcileErr => throw (indeterminatePublishError casErr (some reconcileErr))

def commit (self : Nat) (staged : StagedSnapshot) : Recovery Snapshot := do
  failIf (staged.publisher ≠ self ∨ staged.channel = [])
    (.plain ["s3disk: staged snapshot belongs to another publisher"])
  if staged.unchanged then commitUnchanged publisher staged
  else
    match staged.publicationIntent, publisher.trust with
    | none, _ => commitUnsigned publisher staged
    | some _, some trust => commitSignedPublication repository trust staged
    | some _, none => halt

variable (repository) in
def resignStaged (trust : Trust) (self : Nat) (channel : Channel) (state : PublicationJournalState)
    (revision : PublicationJournalRevision) (reference : SnapshotReference) (object : Object)
    (snapshot : Snapshot) (referenceData : Bytes) : StagedSnapshot :=
  let watermark := watermarkOf trust reference
  { publisher := self
    channel
    expected := some object.version
    referenceData
    publicationState := some state
    publicationRevision := some revision
    publicationIntent := some
      { intentID := publicationIntentID repository.wire trust.referenceVerifier.repositoryID
          channel .resign (some watermark) watermark referenceData
        kind := .resign
        base := some watermark
        next := watermark
        expectedVersion := some object.version
        expectedReference := publicationReferenceDigest repository.wire object.data
        reference := referenceData }
    unchanged := false
    snapshot }

variable (repository) in
def resignSigned (trust : Trust) (self : Nat) (channel : Channel) : Recovery Snapshot := do
  Action.ofExcept (repository.validateChannel channel)
  let (state, revision) ← preparePublicationJournal repository trust channel
  match ← (repository.getReferenceWithVerifier channel [] trust.referenceVerifier).attempt with
  | .error error =>
      failIf (state.committed.isSome ∧ error.is .objectNotFound) Sentinel.rollbackDetected.error
      throw error
  | .ok (reference, object) =>
      match ← (repository.getManifest .commit repository.wire.commit reference.commit).attempt with
      | .error error => throw (error.within ["read current commit for resign"])
      | .ok commit =>
          Action.ofExcept (validateCommitManifest commit reference.generation)
          match ← (acceptObservedPublication repository trust channel state revision reference
              commit).attempt with
          | .error error => throw (error.within
              ["validate current signed publication for resign"])
          | .ok (state, revision) =>
              let referenceData ← signSnapshotReference repository.wire channel reference
                trust.referenceSigner trust.referenceVerifier
              failIf (referenceData.length > maxReferenceBytes)
                (Sentinel.resourceLimit.tagged
                  ["snapshot reference is ", .number referenceData.length, " bytes (maximum ",
                    .number maxReferenceBytes, ")"])
              let snapshot := snapshotFromPublicationCommit (watermarkOf trust reference) commit
              if object.data = referenceData then return snapshot
              else
                failIf (object.version.eTag = []) (Sentinel.storeIncompatible.tagged
                  ["store returned an empty reference version"])
                commitSignedPublication repository trust (resignStaged repository trust self channel
                  state revision reference object snapshot referenceData)

def resignReference (self : Nat) (channel : Channel) : Recovery Snapshot :=
  match publisher.trust with
  | none => throw (Sentinel.untrustedReference.tagged ["signed references are not configured"])
  | some trust => resignSigned repository trust self channel

def Publisher.recoverPublication (channel : Channel) : Recovery PublicationRecovery :=
  match publisher.trust with
  | none => throw (Sentinel.untrustedReference.tagged
      ["signed publication journal is not configured"])
  | some trust => recoverSigned repository trust channel

end

end S3Disk
