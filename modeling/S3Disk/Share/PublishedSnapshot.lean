import S3Disk.ClosureExactness
import S3Disk.RangeReads
import S3Disk.Share.BundleSafety

/-! Sharing the snapshot that was just published: its closure is resolved again, under the
reference that the root of the share is bound to, and has to be the closure of that snapshot. -/

namespace S3Disk.Share

open Concurrent

/-- The part of a root publisher that finds the closure. -/
structure RootPublisher where
  verifier : ReferenceVerifier
  referenceKey : Bytes

def samePublishedSnapshot (observed expected : Snapshot) : Bool :=
  observed.generation == expected.generation && observed.commit == expected.commit &&
    observed.root == expected.root && observed.publishedAt == expected.publishedAt

theorem samePublishedSnapshot_eq {observed expected : Snapshot} :
    samePublishedSnapshot observed expected = true ↔ observed = expected := by
  cases observed
  cases expected
  simp [samePublishedSnapshot, and_assoc]

def safePublishedSnapshotError (error : Err) : Err :=
  (([Sentinel.canceled, .deadlineExceeded, .objectNotFound, .notModified, .accessDenied,
    .rateLimited, .storeUnavailable, .storeMisconfigured, .bucketNotFound, .storeIncompatible,
    .storeOperationUnsupported, .resourceLimit, .corruptObject, .untrustedReference,
    .rollbackDetected, .splitBrain, .invalidSnapshotClosure].find? error.is).getD
      .storeUnavailable).error

/-- The zero `time.Time`, in seconds. -/
def zeroPublishedAt : Int := -62135596800

def RootPublisher.closureOptions (publisher : RootPublisher) : SnapshotClosureOptions :=
  ⟨some publisher.verifier, maximumBundleCapabilities, 0, 0⟩

def RootPublisher.resolvePublishedSnapshot (publisher : RootPublisher)
    (repository : SnapshotRepository) (channel : Channel) (expected : Snapshot) :
    Sharing SnapshotClosure := do
  contextErr
  failIf (expected.generation = 0 ∨ expected.commit = .zero ∨ expected.root = .zero ∨
      expected.publishedAt = zeroPublishedAt)
    (invalidBundle "expected published snapshot identity is incomplete")
  failIf (repository.signedReferenceKeyText channel ≠ publisher.referenceKey)
    (invalidBundle "repository channel does not match the authenticated root reference")
  let closure ← (embed (resolveSnapshotClosure repository channel publisher.closureOptions
    .empty)).bind fun (result, _) => .done (result.mapError fun error =>
      (safePublishedSnapshotError error).within
        ["presignedshare: resolve authenticated published snapshot"])
  failIf (samePublishedSnapshot closure.snapshot expected = false)
    (Sentinel.publishConflict.tagged
      ["authenticated reference changed before share-root publication"])
  return closure

theorem embed_ensures {α : Type} {allowed : Request → Prop} {post : α → Prop}
    {program : Program Request Answer α} (ensures : program.Ensures allowed post) :
    (embed program).Ensures (fun _ => True) post := by
  induction ensures with
  | done holds => exact .done holds
  | @ask request next _ _ ih => cases request <;> exact .ask trivial ih

/-- What a resolved closure says of the snapshot and the reference it was resolved for. -/
structure ClosureOf (repository : SnapshotRepository) (channel : Channel)
    (closure : SnapshotClosure) : Prop where
  sorted : closure.objectKeys.Pairwise (· < ·)
  reference : closure.referenceKey = repository.signedReferenceKeyText channel
  keys : ∀ key, key ∈ closure.objectKeys ↔
    ClosureKey repository closure.snapshot.commit closure.snapshot.root key

theorem resolveSnapshotClosure_of {repository : SnapshotRepository}
    (lawful : repository.wire.Lawful) (channel : Channel) {options : SnapshotClosureOptions}
    (signed : options.referenceVerifier.isSome = true) :
    (resolveSnapshotClosure repository channel options .empty).Ensures Request.Answered
      fun result => ∀ closure, result.1 = .ok closure → ClosureOf repository channel closure := by
  have resolved : (resolveSnapshotClosure repository channel options).Yields Request.Answered .empty
      (fun closure _ => ClosureOf repository channel closure) fun _ => True := by
    refine .ofExcept (fun _ _ => trivial) fun _ _ => ?_
    refine .ofExcept (fun _ _ => trivial) fun limits _ => ?_
    have read : (liftM (repository.getReferenceWithVerifier channel []
        options.referenceVerifier) : Closing (SnapshotReference × Object)).Yields Request.Answered
        .empty (fun found after => found.1.generation ≠ 0 ∧ after = .empty) fun _ => True :=
      .liftTail getReferenceWithVerifier_answered trivial fun _ positive => ⟨positive, rfl⟩
    refine .bind (ClosureWalker.labelled_yields read) ?_
    rintro ⟨reference, object⟩ _ ⟨positive, rfl⟩
    refine .failIf (fun _ => trivial) fun _ => ?_
    refine .bind ((ClosureWalker.collectClosure_yields lawful positive).weaken
      (fun _ _ holds => holds) fun _ _ => trivial) ?_
    rintro commit after ⟨_, distinct, _, exact⟩
    refine .get (.pure ⟨sortStrings_strict distinct, if_pos signed, fun key => ?_⟩)
    exact (List.mem_insertionSort _).trans (exact key)
  refine Program.Ensures.weaken resolved ?_
  rintro ⟨error | closure, after⟩ ends
  · exact nofun
  · rintro _ ⟨⟩
    exact ends

section

variable {repository : Repository} {consumer : Consumer repository} {allowed : Request → Prop}

theorem readChunks_loads {length : Nat} {limit offset : Int} {chunks : List ChunkRef}
    {written : Bytes} (alive : allowed .contextErr) (stuck : allowed .halt)
    (loads : ∀ chunk ∈ chunks, ∀ request, Loads chunk request → allowed request) :
    Fallible.Ensures allowed (readChunks consumer length limit chunks offset written)
      fun _ => True := by
  induction chunks generalizing offset written with
  | nil => exact .pure trivial
  | cons chunk rest ih =>
      have copies : ∀ data room, Fallible.Ensures allowed
          (copyChunkLease data room chunk offset limit) fun _ => True := by
        intro data room
        refine .bind .failIf fun _ _ => .bind (contextErr_ensures alive) fun _ _ => ?_
        dsimp only
        split
        · exact .pure trivial
        · exact .ask stuck nofun
      unfold readChunks
      split
      · exact .pure trivial
      · refine .bind (contextErr_ensures alive).attempt ?_
        rintro (_ | _) _
        · exact .pure trivial
        refine .bind (getChunk_ensures.widen (loads chunk List.mem_cons_self)).attempt ?_
        rintro (_ | data) _
        · exact .pure trivial
        refine .bind (copies data _).attempt ?_
        rintro (_ | _) _
        · exact .pure trivial
        exact ih fun other member => loads other (List.mem_cons_of_mem _ member)

theorem readAt_loads {file : File} {length : Nat} {offset : Int} (alive : allowed .contextErr)
    (stuck : allowed .halt)
    (loads : ∀ chunk ∈ file.manifest.chunks, ∀ request, Loads chunk request → allowed request) :
    Fallible.Ensures allowed (readAt consumer file length offset) fun _ => True := by
  unfold readAt
  split
  · exact .pure trivial
  split
  · exact .pure trivial
  split
  · exact .pure trivial
  exact readChunks_loads alive stuck fun chunk member => loads chunk (List.mem_of_mem_drop member)

end

namespace SamplePublished

def publisher : RootPublisher :=
  ⟨⟨⟨[7]⟩⟩, plainRepository.signedReferenceKeyText [99]⟩

def snapshot : Snapshot :=
  ⟨1, concreteWire.digestObject .commit (concreteWire.commit.marshal sharingCommit),
    sharingCommit.root, 0⟩

def answers : (request : ShareRequest) → Option (ShareAnswer request)
  | .contextErr => some none
  | .verify _ _ _ => some (.ok ())
  | .base (.get (.signedReference _) _) => some (.ok ⟨concreteWire.envelope.marshal
      ⟨objectFormatVersion, ⟨objectFormatVersion, ⟨[7]⟩, [99], 1, snapshot.commit, [107]⟩, [1]⟩,
      ⟨[49], []⟩⟩)
  | .base request => fullStore request
  | _ => none

end SamplePublished

end S3Disk.Share
