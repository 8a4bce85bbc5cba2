import S3Disk.ClosureExactness
import S3Disk.Consumer
import S3Disk.History
import S3Disk.Library.Histories

/-! The trusted checkpoint and the watermark that was checked against it last. Consumer and
publisher remember that watermark and stop later walks there, so what they remember must
itself come from the checkpoint. -/

namespace S3Disk

open Concurrent Relation

def CommitParent (holds : Digest → CommitManifest → Prop) (child parent : Point) : Prop :=
  ∃ commit, holds child.commit commit ∧
    validateCommitManifest commit child.generation = .ok () ∧
    commit.parent = some parent.commit ∧ child.generation = parent.generation + 1

abbrev StoredCommit (wire : Wire) : Digest → CommitManifest → Prop :=
  ObjectAt wire .commit wire.commit

abbrev StoredParent (wire : Wire) : Point → Point → Prop := CommitParent (StoredCommit wire)

/-- The watermark is the checkpoint or descends from it. -/
structure Vouched (wire : Wire) (checkpoint watermark : Watermark) : Prop where
  repository : watermark.repositoryID = checkpoint.repositoryID
  descends : watermark = checkpoint ∨
    TransGen (StoredParent wire) watermark.point checkpoint.point

theorem Watermark.eq_of {left right : Watermark} (ids : left.repositoryID = right.repositoryID)
    (generations : left.generation = right.generation) (commits : left.commit = right.commit) :
    left = right := by
  cases left
  cases right
  simp_all

namespace Vouched

variable {wire : Wire} {checkpoint watermark anchor : Watermark}

theorem self : Vouched wire checkpoint checkpoint := ⟨rfl, .inl rfl⟩

theorem below (anchored : Vouched wire checkpoint anchor)
    (same : watermark.repositoryID = checkpoint.repositoryID)
    (descends : TransGen (StoredParent wire) watermark.point anchor.point) :
    Vouched wire checkpoint watermark := by
  refine ⟨same, .inr ?_⟩
  rcases anchored.descends with rfl | further
  · exact descends
  · exact descends.trans further

theorem above (vouched : Vouched wire checkpoint anchor)
    (notLower : ¬watermark.generation < anchor.generation)
    (agrees : ¬(watermark.generation = anchor.generation ∧ watermark.commit ≠ anchor.commit))
    (other : watermark ≠ anchor) (same : watermark.repositoryID = checkpoint.repositoryID) :
    anchor.generation < watermark.generation := by
  by_contra notHigher
  have level : watermark.generation = anchor.generation := by omega
  refine other (Watermark.eq_of (same.trans vouched.repository.symm) level ?_)
  by_contra different
  exact agrees ⟨level, different⟩

end Vouched

section

variable {repository : Repository} {point : Point} {anchor checkpoint watermark : Watermark}
  {commit : CommitManifest} {steps : Nat}

theorem getManifest_answered {α : Type} {kind : Kind} {json : JSON α} {digest : Digest} :
    Fallible.Ensures Request.Answered (repository.getManifest kind json digest)
      (ObjectAt repository.wire kind json digest) := by
  unfold Repository.getManifest
  refine .bind getImmutableLimited_answered ?_
  rintro data ⟨hashed, -⟩
  exact .ofExcept fun value decoded => ⟨data, hashed, decoded⟩

theorem validateCommitManifest_parent {generation : Nat}
    (checked : validateCommitManifest commit generation = .ok ()) (later : generation ≠ 1) :
    ∃ digest, commit.parent = some digest ∧ digest.isZero = false := by
  have named := (validateCommitManifest_ok.mp checked).2.2.2
  rwa [if_neg later] at named

theorem walkPublicationAncestry_answered
    (stored : StoredCommit repository.wire point.commit commit)
    (checked : validateCommitManifest commit point.generation = .ok ())
    (above : point.generation = anchor.generation + steps + 1) :
    Fallible.Ensures Request.Answered
      (walkPublicationAncestry repository anchor steps commit.parent)
      fun _ => TransGen (StoredParent repository.wire) point anchor.point := by
  induction steps generalizing point commit with
  | zero =>
      refine Fallible.Ensures.failIf.weaken ?_
      intro _ named
      exact .single ⟨commit, stored, checked, not_not.mp named, above⟩
  | succ steps ih =>
      obtain ⟨digest, named, nonzero⟩ := validateCommitManifest_parent checked (by omega)
      rw [named]
      unfold walkPublicationAncestry
      refine .bind contextErr_answered fun _ _ => ?_
      refine .bind .failIf fun _ _ => ?_
      refine .bind getManifest_answered.attempt ?_
      rintro (error | ancestor) found
      · exact .throw
      refine .bind (.ofExcept fun _ valid => mapError_ok.mp valid) fun _ valid => ?_
      have parent : StoredParent repository.wire point ⟨anchor.generation + steps + 1, digest⟩ :=
        ⟨commit, stored, checked, named, above⟩
      have lower : Fallible.Ensures Request.Answered
          (walkPublicationAncestry repository anchor steps ancestor.parent) fun _ =>
            TransGen (StoredParent repository.wire) ⟨anchor.generation + steps + 1, digest⟩
              anchor.point := ih (found ancestor rfl) valid rfl
      exact lower.weaken fun _ descends => .head parent descends

theorem validatePublicationDescendant_answered {reference : SnapshotReference}
    (stored : StoredCommit repository.wire reference.commit commit)
    (checked : validateCommitManifest commit reference.generation = .ok ()) :
    Fallible.Ensures Request.Answered
      (validatePublicationDescendant repository reference commit anchor)
      fun _ => TransGen (StoredParent repository.wire) reference.point anchor.point := by
  unfold validatePublicationDescendant
  refine .bind .failIf fun _ higher => ?_
  refine .bind .failIf fun _ _ => ?_
  have above : reference.point.generation =
      anchor.generation + (reference.generation - 1 - anchor.generation) + 1 := by
    simp only [SnapshotReference.point]
    omega
  exact walkPublicationAncestry_answered stored checked above

def PublisherMemory.Vouches (wire : Wire) (checkpoint : Watermark) (memory : PublisherMemory) :
    Prop :=
  ∀ channel, ∀ validated ∈ memory.checkpointValidated channel, Vouched wire checkpoint validated

variable {memory : PublisherMemory} {channel : Channel}

theorem PublisherMemory.Vouches.remember
    (vouches : memory.Vouches repository.wire checkpoint)
    (vouched : Vouched repository.wire checkpoint watermark) :
    (rememberCheckpoint channel watermark memory).Vouches repository.wire checkpoint := by
  intro other validated found
  simp only [rememberCheckpoint] at found
  by_cases same : other = channel
  · subst same
    rw [Function.update_self] at found
    cases found
    exact vouched
  · rw [Function.update_of_ne same] at found
    exact vouches other validated found

theorem validateAgainstAnchor_yields (vouches : memory.Vouches repository.wire checkpoint)
    (anchored : Vouched repository.wire checkpoint anchor) :
    (validateAgainstAnchor repository channel watermark checkpoint anchor).Yields Request.Answered
      memory (fun _ changed => changed.Vouches repository.wire checkpoint ∧
        Vouched repository.wire checkpoint watermark)
      (PublisherMemory.Vouches repository.wire checkpoint) := by
  unfold validateAgainstAnchor
  refine .failIf (fun _ => vouches) fun same => ?_
  refine .failIf (fun _ => vouches) fun _ => ?_
  have repositories := not_not.mp same
  split
  case isTrue level =>
    refine .failIf (fun _ => vouches) fun equal => ?_
    obtain rfl := Watermark.eq_of repositories level (not_not.mp equal)
    exact .modify ⟨vouches.remember .self, .self⟩
  case isFalse higher =>
    refine .lift getManifest_answered.attempt vouches ?_
    rintro (error | commit) found
    · exact .throw vouches
    refine .ofExcept (fun _ _ => vouches) fun _ checked => ?_
    refine .lift (validatePublicationDescendant_answered (found commit rfl) checked).attempt
      vouches ?_
    rintro (error | _) descends
    · exact .throw vouches
    have vouched := anchored.below repositories (descends () rfl)
    exact .modify ⟨vouches.remember vouched, vouched⟩

theorem validatePublicationCheckpoint_yields
    (vouches : memory.Vouches repository.wire checkpoint) :
    (validatePublicationCheckpoint repository channel watermark checkpoint).Yields
      Request.Answered memory (fun _ changed => changed.Vouches repository.wire checkpoint ∧
        Vouched repository.wire checkpoint watermark)
      (PublisherMemory.Vouches repository.wire checkpoint) := by
  unfold validatePublicationCheckpoint
  refine .get ?_
  cases remembered : memory.checkpointValidated channel with
  | none => exact validateAgainstAnchor_yields vouches .self
  | some validated =>
      have vouched := vouches channel validated remembered
      refine .failIf (fun _ => vouches) fun _ => ?_
      refine .failIf (fun _ => vouches) fun _ => ?_
      split
      case isTrue same =>
        subst same
        exact .pure ⟨vouches, vouched⟩
      case isFalse other => exact validateAgainstAnchor_yields vouches vouched

theorem compareAndSwapPublicationJournal_yields {trust : Trust}
    {expected : Option PublicationJournalRevision} {next : PublicationJournalState}
    (vouches : memory.Vouches repository.wire checkpoint) :
    (compareAndSwapPublicationJournal trust channel expected next).Yields Request.Answered memory
      (fun _ changed => changed.Vouches repository.wire checkpoint)
      (PublisherMemory.Vouches repository.wire checkpoint) := by
  unfold compareAndSwapPublicationJournal
  have asked : Fallible.Ensures Request.Answered
      (journalCompareAndSwap trust.publicationJournal channel expected next) fun _ => True :=
    .request nofun fun _ _ _ => trivial
  refine .lift asked vouches fun revision _ => ?_
  exact .failIf (fun _ => vouches) fun _ => .pure vouches

section

variable {trust : Trust} (configured : trust.trustedCheckpoint = some checkpoint)
include configured

theorem validateLoadedPublicationJournal_yields {state : PublicationJournalState}
    (vouches : memory.Vouches repository.wire checkpoint) :
    (validateLoadedPublicationJournal repository trust channel state).Yields Request.Answered
      memory (fun _ changed => changed.Vouches repository.wire checkpoint ∧
        ∀ committed ∈ state.committed, Vouched repository.wire checkpoint committed)
      (PublisherMemory.Vouches repository.wire checkpoint) := by
  unfold validateLoadedPublicationJournal
  refine .ofExcept (fun _ _ => vouches) fun _ _ => ?_
  refine .failIf (fun _ => vouches) fun _ => ?_
  rw [configured]
  cases recorded : state.committed with
  | none => exact .throw vouches
  | some committed =>
      refine .failIf (fun _ => vouches) fun _ => ?_
      refine .failIf (fun _ => vouches) fun _ => ?_
      refine (validatePublicationCheckpoint_yields vouches).weaken ?_ fun _ kept => kept
      rintro _ changed ⟨kept, vouched⟩
      refine ⟨kept, ?_⟩
      rintro _ ⟨⟩
      exact vouched

theorem loadPublicationJournal_yields {read : JournalRead}
    (vouches : memory.Vouches repository.wire checkpoint) :
    (loadPublicationJournal repository trust read channel).Yields Request.Answered memory
      (fun found changed => changed.Vouches repository.wire checkpoint ∧
        ∀ loaded ∈ found, ∀ committed ∈ loaded.1.committed,
          Vouched repository.wire checkpoint committed)
      (PublisherMemory.Vouches repository.wire checkpoint) := by
  unfold loadPublicationJournal
  have asked : Fallible.Ensures Request.Answered
      (journalLoad trust.publicationJournal read channel) fun _ => True :=
    .request nofun fun _ _ _ => trivial
  refine .lift asked.attempt vouches ?_
  rintro (error | _ | ⟨state, revision⟩) _
  · exact .throw vouches
  · exact .pure ⟨vouches, nofun⟩
  · refine .failIf (fun _ => vouches) fun _ => ?_
    refine .bind (validateLoadedPublicationJournal_yields configured vouches) ?_
    rintro _ changed ⟨kept, vouched⟩
    refine .pure ⟨kept, ?_⟩
    rintro _ ⟨⟩
    exact vouched

theorem loadOrInitializePublicationJournal_yields
    (vouches : memory.Vouches repository.wire checkpoint) :
    (loadOrInitializePublicationJournal repository trust channel).Yields Request.Answered memory
      (fun loaded changed => changed.Vouches repository.wire checkpoint ∧
        ∀ committed ∈ loaded.1.committed, Vouched repository.wire checkpoint committed)
      (PublisherMemory.Vouches repository.wire checkpoint) := by
  unfold loadOrInitializePublicationJournal
  refine .bind (loadPublicationJournal_yields configured vouches) ?_
  rintro (_ | ⟨state, revision⟩) changed ⟨kept, vouched⟩
  · refine .failIf (fun _ => kept) fun _ => ?_
    refine .attempt (compareAndSwapPublicationJournal_yields kept) ?_
    rintro (casErr | revision) latest ends
    · refine .failIf (fun _ => ends) fun _ => ?_
      refine .attempt (loadPublicationJournal_yields configured ends) ?_
      rintro (loadErr | _ | loaded) final ends
      · exact .throw ends
      · exact .throw ends.1
      · exact .pure ⟨ends.1, ends.2 loaded rfl⟩
    · refine .bindModify (.pure ⟨?_, ?_⟩)
      · unfold rememberTrustedCheckpoint
        rw [configured]
        exact PublisherMemory.Vouches.remember ends .self
      · intro committed started
        rw [initialPublicationState, configured] at started
        cases started
        exact .self
  · refine .failIf (fun _ => kept) fun _ => ?_
    exact .pure ⟨kept, vouched _ rfl⟩

end

end

/-! The consumer, which walks with its own copy of the loop. -/

section

variable {repository : Repository} {point : Point} {anchor checkpoint watermark : Watermark}
  {commit : CommitManifest} {steps : Nat} {memory : ConsumerMemory}

theorem getCommitManifest_yields {digest : Digest} :
    (getCommitManifest repository digest).Yields Request.Answered memory
      (fun commit changed => StoredCommit repository.wire digest commit ∧ changed = memory)
      (· = memory) := by
  unfold getCommitManifest metadataFlight
  refine .lift contextErr_answered rfl fun _ _ => ?_
  have downloaded : Fallible.Ensures Request.Answered
      (downloadManifest repository .commit repository.wire.commit digest)
      (StoredCommit repository.wire digest) := by
    unfold downloadManifest
    exact .bind (.request nofun fun _ _ _ => trivial) fun _ _ => getManifest_answered
  have loaded : (liftM (downloadManifest repository .commit repository.wire.commit digest) :
      Consuming CommitManifest).Yields Request.Answered memory
      (fun commit changed => StoredCommit repository.wire digest commit ∧ changed = memory)
      (· = memory) := .liftTail downloaded rfl fun _ stored => ⟨stored, rfl⟩
  refine .attempt loaded ?_
  rintro (error | commit) changed ends
  · exact .lift contextErr_answered ends fun _ _ => .throw ends
  · exact .lift contextErr_answered ends.2 fun _ _ => .pure ends

theorem walkCommitAncestry_yields
    (stored : StoredCommit repository.wire point.commit commit)
    (checked : validateCommitManifest commit point.generation = .ok ())
    (above : point.generation = anchor.generation + steps + 1) :
    (walkCommitAncestry repository anchor steps commit.parent).Yields Request.Answered memory
      (fun _ changed => changed = memory ∧
        TransGen (StoredParent repository.wire) point anchor.point) (· = memory) := by
  induction steps generalizing point commit with
  | zero =>
      unfold walkCommitAncestry
      refine .check (fun _ => rfl) fun named => ⟨rfl, ?_⟩
      exact .single ⟨commit, stored, checked, not_not.mp named, above⟩
  | succ steps ih =>
      obtain ⟨digest, named, nonzero⟩ := validateCommitManifest_parent checked (by omega)
      rw [named]
      unfold walkCommitAncestry
      refine .lift contextErr_answered rfl fun _ _ => ?_
      rw [show (some digest).filter (·.isZero = false) = some digest by simp [nonzero]]
      refine .attempt getCommitManifest_yields ?_
      rintro (error | ancestor) changed ends
      · exact .throw ends
      obtain ⟨found, rfl⟩ := ends
      refine .ofExcept (fun _ _ => rfl) fun _ valid => ?_
      have parent : StoredParent repository.wire point ⟨anchor.generation + steps + 1, digest⟩ :=
        ⟨commit, stored, checked, named, above⟩
      have lower : (walkCommitAncestry repository anchor steps ancestor.parent).Yields
          Request.Answered changed (fun _ final => final = changed ∧
            TransGen (StoredParent repository.wire) ⟨anchor.generation + steps + 1, digest⟩
              anchor.point) (· = changed) := ih found (mapError_ok.mp valid) rfl
      exact lower.weaken (fun _ _ both => ⟨both.1, .head parent both.2⟩) fun _ kept => kept

theorem validateDescendant_yields {reference : SnapshotReference}
    (stored : StoredCommit repository.wire reference.commit commit)
    (checked : validateCommitManifest commit reference.generation = .ok ())
    (higher : anchor.generation < reference.generation) :
    (validateDescendant repository reference commit anchor).Yields Request.Answered memory
      (fun _ changed => changed = memory ∧
        TransGen (StoredParent repository.wire) reference.point anchor.point) (· = memory) := by
  unfold validateDescendant
  refine .failIf (fun _ => rfl) fun _ => ?_
  have above : reference.point.generation =
      anchor.generation + (reference.generation - 1 - anchor.generation) + 1 := by
    simp only [SnapshotReference.point]
    omega
  exact walkCommitAncestry_yields stored checked above

def ConsumerMemory.Vouches (wire : Wire) (checkpoint : Watermark) (memory : ConsumerMemory) :
    Prop :=
  memory.checkpointValidated.commit.isZero = false →
    Vouched wire checkpoint memory.checkpointValidated

theorem validateFromAnchor_yields (vouches : memory.Vouches repository.wire checkpoint)
    (anchored : Vouched repository.wire checkpoint anchor)
    (higher : watermark.repositoryID = checkpoint.repositoryID →
      checkpoint.generation < watermark.generation → anchor.generation < watermark.generation) :
    (validateFromAnchorBy repository (validateDescendant repository) watermark checkpoint
      anchor).Yields Request.Answered
      memory (fun _ changed => changed.Vouches repository.wire checkpoint ∧
        Vouched repository.wire checkpoint watermark)
      (ConsumerMemory.Vouches repository.wire checkpoint) := by
  unfold validateFromAnchorBy
  refine .failIf (fun _ => vouches) fun same => ?_
  refine .failIf (fun _ => vouches) fun notLower => ?_
  have repositories := not_not.mp same
  split
  case isTrue level =>
    refine .failIf (fun _ => vouches) fun equal => ?_
    obtain rfl := Watermark.eq_of repositories level (not_not.mp equal)
    exact .modify ⟨fun _ => .self, .self⟩
  case isFalse different =>
    have above := higher repositories (by omega)
    refine .attempt getCommitManifest_yields ?_
    rintro (error | commit) changed ends
    · obtain rfl : changed = memory := ends
      exact .throw vouches
    obtain ⟨stored, rfl⟩ := ends
    refine .ofExcept (fun _ _ => vouches) fun _ checked => ?_
    have descent : (validateDescendant repository
        ⟨objectFormatVersion, watermark.generation, watermark.commit⟩ commit anchor).Yields
        Request.Answered changed (fun _ final => final = changed ∧
          TransGen (StoredParent repository.wire) watermark.point anchor.point) (· = changed) :=
      validateDescendant_yields stored checked above
    refine .attempt descent ?_
    rintro (error | _) final ends
    · obtain rfl : final = changed := ends
      exact .throw vouches
    obtain ⟨rfl, descends⟩ := ends
    have vouched := anchored.below repositories descends
    exact .modify ⟨fun _ => vouched, vouched⟩

theorem validateWatermarkCheckpoint_yields
    (vouches : memory.Vouches repository.wire checkpoint) :
    (validateWatermarkCheckpoint repository watermark checkpoint).Yields Request.Answered
      memory (fun _ changed => changed.Vouches repository.wire checkpoint ∧
        Vouched repository.wire checkpoint watermark)
      (ConsumerMemory.Vouches repository.wire checkpoint) := by
  unfold validateWatermarkCheckpoint validateWatermarkCheckpointBy
  refine .get ?_
  dsimp only
  split
  case isTrue unset => exact validateFromAnchor_yields vouches .self fun _ above => above
  case isFalse set =>
    have vouched := vouches (by simpa using set)
    refine .failIf (fun _ => vouches) fun notLower => ?_
    refine .failIf (fun _ => vouches) fun agrees => ?_
    split
    case isTrue same =>
      rw [same]
      exact .pure ⟨vouches, vouched⟩
    case isFalse other =>
      exact validateFromAnchor_yields vouches vouched fun repositories _ =>
        vouched.above notLower agrees other repositories

end

/-- The memories that a consumer with this checkpoint can have: whatever calls it made, with
whatever watermarks and answers, and whatever it did with the rest of its memory. -/
inductive ConsumerReached (repository : Repository) (checkpoint : Watermark) :
    ConsumerMemory → Prop
  | fresh : ConsumerReached repository checkpoint .fresh
  | validated {memory changed : ConsumerMemory} {history : List (Exchange Request Answer)}
      {result : Except Err Unit} (watermark : Watermark)
      (reached : ConsumerReached repository checkpoint memory)
      (ends : (validateWatermarkCheckpoint repository watermark checkpoint memory).Ends history
        (result, changed)) : ConsumerReached repository checkpoint changed
  | elsewhere {memory changed : ConsumerMemory}
      (reached : ConsumerReached repository checkpoint memory)
      (kept : changed.checkpointValidated = memory.checkpointValidated) :
      ConsumerReached repository checkpoint changed

/-- The same for a publisher, which also initializes journals. -/
inductive PublisherReached (repository : Repository) (trust : Trust) (checkpoint : Watermark) :
    PublisherMemory → Prop
  | fresh {memory : PublisherMemory} (empty : ∀ channel, memory.checkpointValidated channel = none) :
      PublisherReached repository trust checkpoint memory
  | validated {memory changed : PublisherMemory} {history : List (Exchange Request Answer)}
      {result : Except Err Unit} (channel : Channel) (watermark : Watermark)
      (reached : PublisherReached repository trust checkpoint memory)
      (ends : (validatePublicationCheckpoint repository channel watermark checkpoint memory).Ends
        history (result, changed)) : PublisherReached repository trust checkpoint changed
  | initialized {memory changed : PublisherMemory} {history : List (Exchange Request Answer)}
      {result : Except Err (PublicationJournalState × PublicationJournalRevision)}
      (channel : Channel) (reached : PublisherReached repository trust checkpoint memory)
      (ends : (loadOrInitializePublicationJournal repository trust channel memory).Ends history
        (result, changed)) : PublisherReached repository trust checkpoint changed
  | elsewhere {memory changed : PublisherMemory}
      (reached : PublisherReached repository trust checkpoint memory)
      (kept : changed.checkpointValidated = memory.checkpointValidated) :
      PublisherReached repository trust checkpoint changed

section

variable {repository : Repository} {trust : Trust} {checkpoint : Watermark}

theorem ConsumerReached.vouches {memory : ConsumerMemory}
    (reached : ConsumerReached repository checkpoint memory) :
    memory.Vouches repository.wire checkpoint := by
  induction reached with
  | fresh =>
      intro set
      simp [ConsumerMemory.fresh, Watermark.zero, Digest.isZero] at set
  | @validated memory changed history result watermark _ ends ih =>
      have left := (Program.Ensures.of_ends (validateWatermarkCheckpoint_yields ih) ends).1
      cases result with
      | error error => exact left
      | ok value => exact left.1
  | elsewhere _ kept ih =>
      unfold ConsumerMemory.Vouches
      rw [kept]
      exact ih

theorem PublisherReached.vouches {memory : PublisherMemory}
    (configured : trust.trustedCheckpoint = some checkpoint)
    (reached : PublisherReached repository trust checkpoint memory) :
    memory.Vouches repository.wire checkpoint := by
  induction reached with
  | fresh empty =>
      intro channel validated found
      rw [empty channel] at found
      cases found
  | @validated memory changed history result channel watermark _ ends ih =>
      have left := (Program.Ensures.of_ends (validatePublicationCheckpoint_yields ih) ends).1
      cases result with
      | error error => exact left
      | ok value => exact left.1
  | @initialized memory changed history result channel _ ends ih =>
      have left := (Program.Ensures.of_ends
        (loadOrInitializePublicationJournal_yields configured ih) ends).1
      cases result with
      | error error => exact left
      | ok value => exact left.1
  | elsewhere _ kept ih =>
      unfold PublisherMemory.Vouches
      rw [kept]
      exact ih

end

/-- Whatever was validated, failed or initialized before: when a check against the trusted
checkpoint succeeds, the watermark is of the checkpoint's repository and is the checkpoint or
descends from it through stored commits. The same holds of the watermark in a journal that a
publisher loads or starts. -/
theorem checkpoint_validation_sound (repository : Repository) (checkpoint : Watermark) :
    (∀ memory watermark history changed, ConsumerReached repository checkpoint memory →
      (validateWatermarkCheckpoint repository watermark checkpoint memory).Ends history
        (.ok (), changed) → Vouched repository.wire checkpoint watermark) ∧
    ∀ trust memory channel, trust.trustedCheckpoint = some checkpoint →
      PublisherReached repository trust checkpoint memory →
      (∀ watermark history changed,
        (validatePublicationCheckpoint repository channel watermark checkpoint memory).Ends history
          (.ok (), changed) → Vouched repository.wire checkpoint watermark) ∧
      ∀ history loaded changed,
        (loadOrInitializePublicationJournal repository trust channel memory).Ends history
          (.ok loaded, changed) →
        ∀ committed ∈ loaded.1.committed, Vouched repository.wire checkpoint committed := by
  refine ⟨?_, ?_⟩
  · intro memory watermark history changed reached ends
    exact (Program.Ensures.of_ends
      (validateWatermarkCheckpoint_yields reached.vouches) ends).1.2
  · intro trust memory channel configured reached
    have vouches := reached.vouches configured
    refine ⟨?_, ?_⟩
    · intro watermark history changed ends
      exact (Program.Ensures.of_ends (validatePublicationCheckpoint_yields vouches) ends).1.2
    · intro history loaded changed ends
      exact (Program.Ensures.of_ends
        (loadOrInitializePublicationJournal_yields configured vouches) ends).1.2

namespace SampleCheckpoint

def repository : Repository := ⟨concreteWire, []⟩

def repositoryID : RepositoryID := ⟨List.replicate 32 1⟩

def digestOf (commit : CommitManifest) : Digest :=
  concreteWire.digestObject .commit (concreteWire.commit.marshal commit)

def root : Digest := ⟨[7]⟩

def checkpoint : Watermark := ⟨repositoryID, 1, ⟨[9]⟩⟩

def second : CommitManifest :=
  { format := objectFormatVersion, generation := 2, parent := some checkpoint.commit, root
    publishedAtUnix := 0, resetChanges := false }

def third : CommitManifest :=
  { format := objectFormatVersion, generation := 3, parent := some (digestOf second), root
    publishedAtUnix := 0, resetChanges := false }

def secondMark : Watermark := ⟨repositoryID, 2, digestOf second⟩

def thirdMark : Watermark := ⟨repositoryID, 3, digestOf third⟩

def remembering (watermark : Watermark) : ConsumerMemory :=
  { ConsumerMemory.fresh with checkpointValidated := watermark }

def answers : ∀ request, Option (Answer request)
  | .contextErr => some none
  | .acquireDownload _ => some (.ok ())
  | .get (.object .commit digest) _ => some (.ok ⟨digest.bytes.tail, ⟨[1], []⟩⟩)
  | _ => none

end SampleCheckpoint

/-- The third generation, checked down to the second, which was checked before. -/
theorem checkpoint_validation_sound_remembered :
    ConsumerReached SampleCheckpoint.repository SampleCheckpoint.checkpoint
        (SampleCheckpoint.remembering SampleCheckpoint.secondMark) ∧
      Vouched SampleCheckpoint.repository.wire SampleCheckpoint.checkpoint
        SampleCheckpoint.thirdMark := by
  have first : Program.answered SampleCheckpoint.answers
      (validateWatermarkCheckpoint SampleCheckpoint.repository SampleCheckpoint.secondMark
        SampleCheckpoint.checkpoint .fresh) =
      some (.ok (), SampleCheckpoint.remembering SampleCheckpoint.secondMark) := rfl
  obtain ⟨before, ends, -⟩ := Program.ends_of_answered first
  have reached := ConsumerReached.validated _ .fresh ends
  have last : Program.answered SampleCheckpoint.answers
      (validateWatermarkCheckpoint SampleCheckpoint.repository SampleCheckpoint.thirdMark
        SampleCheckpoint.checkpoint (SampleCheckpoint.remembering SampleCheckpoint.secondMark)) =
      some (.ok (), SampleCheckpoint.remembering SampleCheckpoint.thirdMark) := rfl
  obtain ⟨after, finish, -⟩ := Program.ends_of_answered last
  exact ⟨reached, (checkpoint_validation_sound _ _).1 _ _ _ _ reached finish⟩

end S3Disk
