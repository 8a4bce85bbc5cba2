import S3Disk.Library.Framing
import S3Disk.SealedStateFile
import S3Disk.SnapshotClosure

/-! What the two digests of a snapshot closure are taken over, and that the closure can be told
from either text. -/

namespace S3Disk

open Framing

def unixSeconds (time : Int) : Int := time / 1000000000

def nanosecond (time : Int) : Int := time % 1000000000

def unixNano (time : Int) : Int :=
  (time + 0x8000000000000000) % 0x10000000000000000 - 0x8000000000000000

def uint64 (value : Int) : Nat := (value % 0x10000000000000000).toNat

def rootRecoveryPart (value : Bytes) : Bytes := bigEndian64 value.length ++ value

def rootRecoveryClosureParts (closure : SnapshotClosure) : List Bytes :=
  [ascii "closure", bigEndian64 closure.snapshot.generation, closure.snapshot.commit.bytes,
    closure.snapshot.root.bytes, bigEndian64 (uint64 (unixSeconds closure.snapshot.publishedAt)),
    bigEndian64 (uint64 (nanosecond closure.snapshot.publishedAt)), closure.referenceKey,
    closure.referenceData, closure.referenceVersion.eTag, closure.referenceVersion.versionID] ++
    closure.objectKeys

def rootRecoveryClosureMessage (closure : SnapshotClosure) : Bytes :=
  (rootRecoveryClosureParts closure).flatMap rootRecoveryPart

def FitsUint64 (value : Nat) : Prop := value < 0x10000000000000000

instance : DecidablePred FitsUint64 := fun value =>
  inferInstanceAs (Decidable (value < 0x10000000000000000))

structure SnapshotClosure.Representable (closure : SnapshotClosure) : Prop where
  generation : FitsUint64 closure.snapshot.generation
  commit : closure.snapshot.commit.bytes.length = 32
  root : closure.snapshot.root.bytes.length = 32
  seconds : -0x8000000000000000 ≤ unixSeconds closure.snapshot.publishedAt ∧
    unixSeconds closure.snapshot.publishedAt < 0x8000000000000000
  referenceKey : FitsUint64 closure.referenceKey.length
  referenceData : FitsUint64 closure.referenceData.length
  eTag : FitsUint64 closure.referenceVersion.eTag.length
  versionID : FitsUint64 closure.referenceVersion.versionID.length
  objectKeys : FitsUint64 closure.objectKeys.length
  keys : ∀ key ∈ closure.objectKeys, FitsUint64 key.length

theorem bigEndian64_inj {left right : Nat} (first : FitsUint64 left) (second : FitsUint64 right)
    (same : bigEndian64 left = bigEndian64 right) : left = right := by
  rw [← ofBigEndian_bigEndian64 first, ← ofBigEndian_bigEndian64 second, same]

theorem delimited_bigEndian64 : Delimited FitsUint64 bigEndian64 :=
  @delimited_of_length _ _ _ _ 8 (fun _ _ => rfl) fun _ _ => bigEndian64_inj

theorem delimited_sealedBytes :
    Delimited (fun value : Bytes => FitsUint64 value.length) sealedBytes :=
  delimited_framed delimited_bigEndian64

theorem delimited_rootRecoveryPart :
    Delimited (fun value : Bytes => FitsUint64 value.length) rootRecoveryPart :=
  delimited_framed delimited_bigEndian64

theorem uint64_fits (value : Int) : FitsUint64 (uint64 value) := by
  unfold FitsUint64 uint64
  omega

theorem unixNano_of_uint64 {left right : Int} (same : uint64 left = uint64 right) :
    unixNano left = unixNano right := by
  unfold uint64 at same
  unfold unixNano
  omega

structure SameContent (left right : SnapshotClosure) : Prop where
  generation : left.snapshot.generation = right.snapshot.generation
  commit : left.snapshot.commit = right.snapshot.commit
  root : left.snapshot.root = right.snapshot.root
  publishedAt : unixNano left.snapshot.publishedAt = unixNano right.snapshot.publishedAt
  referenceKey : left.referenceKey = right.referenceKey
  referenceData : left.referenceData = right.referenceData
  referenceVersion : left.referenceVersion = right.referenceVersion
  objectKeys : left.objectKeys = right.objectKeys

variable {left right : SnapshotClosure}

theorem version_eq {left right : Version} (eTag : left.eTag = right.eTag)
    (versionID : left.versionID = right.versionID) : left = right := by
  cases left
  cases right
  exact congrArg₂ Version.mk eTag versionID

theorem flag_eq : ∀ {left right : Bool},
    (if left then (1 : UInt8) else 0) = (if right then 1 else 0) → left = right := by
  decide

theorem sameContent_of_resolutionMessage (first : left.Representable)
    (second : right.Representable)
    (same : snapshotClosureResolutionMessage left = snapshotClosureResolutionMessage right) :
    SameContent left right ∧ left.clientEncryptionConfigured = right.clientEncryptionConfigured ∧
      left.clientEncryptionBinding = right.clientEncryptionBinding := by
  unfold snapshotClosureResolutionMessage at same
  simp only [List.append_assoc] at same
  -- The parts come off from the front, each by its own length.
  replace same := List.append_cancel_left same
  obtain ⟨generation, same⟩ := delimited_bigEndian64 _ _ _ _ first.generation second.generation same
  obtain ⟨commit, same⟩ := List.append_inj same (first.commit.trans second.commit.symm)
  obtain ⟨root, same⟩ := List.append_inj same (first.root.trans second.root.symm)
  obtain ⟨time, same⟩ := delimited_bigEndian64 _ _ _ _ (uint64_fits _) (uint64_fits _) same
  obtain ⟨referenceKey, same⟩ :=
    delimited_sealedBytes _ _ _ _ first.referenceKey second.referenceKey same
  obtain ⟨referenceData, same⟩ :=
    delimited_sealedBytes _ _ _ _ first.referenceData second.referenceData same
  obtain ⟨eTag, same⟩ := delimited_sealedBytes _ _ _ _ first.eTag second.eTag same
  obtain ⟨versionID, same⟩ := delimited_sealedBytes _ _ _ _ first.versionID second.versionID same
  obtain ⟨count, same⟩ :=
    delimited_bigEndian64 _ _ _ _ first.objectKeys second.objectKeys same
  obtain ⟨objectKeys, same⟩ := delimited_sealedBytes.many count first.keys second.keys same
  obtain ⟨flag, binding⟩ := List.cons.inj same
  exact ⟨⟨generation, congrArg Digest.mk commit, congrArg Digest.mk root, unixNano_of_uint64 time,
    referenceKey, referenceData, version_eq eTag versionID, objectKeys⟩, flag_eq flag,
    congrArg Digest.mk binding⟩

theorem fits_bigEndian64 (value : Nat) : FitsUint64 (bigEndian64 value).length := by
  change 8 < _
  decide

theorem fits_rootRecoveryClosureParts (representable : left.Representable) :
    ∀ part ∈ rootRecoveryClosureParts left, FitsUint64 part.length := by
  have digest : ∀ {bytes : Bytes}, bytes.length = 32 → FitsUint64 bytes.length := by
    intro bytes length
    rw [length]
    decide
  have parts : ∀ part ∈ [ascii "closure", bigEndian64 left.snapshot.generation,
      left.snapshot.commit.bytes, left.snapshot.root.bytes,
      bigEndian64 (uint64 (unixSeconds left.snapshot.publishedAt)),
      bigEndian64 (uint64 (nanosecond left.snapshot.publishedAt)), left.referenceKey,
      left.referenceData, left.referenceVersion.eTag, left.referenceVersion.versionID],
      FitsUint64 part.length := by
    simp only [List.forall_mem_cons]
    exact ⟨by decide +kernel, fits_bigEndian64 _, digest representable.commit, digest representable.root,
      fits_bigEndian64 _, fits_bigEndian64 _, representable.referenceKey,
      representable.referenceData, representable.eTag, representable.versionID, nofun⟩
  intro part member
  rcases List.mem_append.mp member with fixed | key
  · exact parts part fixed
  · exact representable.keys part key

theorem rootRecoveryPart_ne_nil (value : Bytes) : rootRecoveryPart value ≠ [] := nofun

theorem uint64_inj {left right : Int}
    (first : -0x8000000000000000 ≤ left ∧ left < 0x8000000000000000)
    (second : -0x8000000000000000 ≤ right ∧ right < 0x8000000000000000)
    (same : uint64 left = uint64 right) : left = right := by
  unfold uint64 at same
  omega

theorem time_eq {left right : Int} (seconds : unixSeconds left = unixSeconds right)
    (nanoseconds : nanosecond left = nanosecond right) : left = right := by
  unfold unixSeconds at seconds
  unfold nanosecond at nanoseconds
  omega

theorem nanosecond_range (time : Int) :
    -0x8000000000000000 ≤ nanosecond time ∧ nanosecond time < 0x8000000000000000 := by
  unfold nanosecond
  omega

theorem sameContent_of_recoveryMessage (first : left.Representable)
    (second : right.Representable)
    (same : rootRecoveryClosureMessage left = rootRecoveryClosureMessage right) :
    SameContent left right ∧ left.snapshot.publishedAt = right.snapshot.publishedAt := by
  have parts := delimited_rootRecoveryPart.all rootRecoveryPart_ne_nil
    (fits_rootRecoveryClosureParts first) (fits_rootRecoveryClosureParts second) same
  simp only [rootRecoveryClosureParts, List.cons_append, List.nil_append, List.cons.injEq,
    true_and] at parts
  obtain ⟨generation, commit, root, seconds, nanoseconds, referenceKey, referenceData, eTag,
    versionID, objectKeys⟩ := parts
  have time : left.snapshot.publishedAt = right.snapshot.publishedAt := by
    refine time_eq (uint64_inj first.seconds second.seconds ?_)
      (uint64_inj (nanosecond_range _) (nanosecond_range _) ?_)
    · exact bigEndian64_inj (uint64_fits _) (uint64_fits _) seconds
    · exact bigEndian64_inj (uint64_fits _) (uint64_fits _) nanoseconds
  exact ⟨⟨bigEndian64_inj first.generation second.generation generation,
    congrArg Digest.mk commit, congrArg Digest.mk root, congrArg unixNano time, referenceKey,
    referenceData, version_eq eTag versionID, objectKeys⟩, time⟩

/-- Neither text belongs to two closures that differ in what it covers. The seal knows a time by
its `UnixNano`, so by itself where an `int64` holds it. -/
theorem closure_digests_unambiguous (first : left.Representable) (second : right.Representable) :
    (snapshotClosureResolutionMessage left = snapshotClosureResolutionMessage right →
      SameContent left right ∧
      left.clientEncryptionConfigured = right.clientEncryptionConfigured ∧
      left.clientEncryptionBinding = right.clientEncryptionBinding ∧
      (unixNano left.snapshot.publishedAt = left.snapshot.publishedAt →
        unixNano right.snapshot.publishedAt = right.snapshot.publishedAt →
        left.snapshot.publishedAt = right.snapshot.publishedAt)) ∧
    (rootRecoveryClosureMessage left = rootRecoveryClosureMessage right →
      SameContent left right ∧ left.snapshot.publishedAt = right.snapshot.publishedAt) := by
  refine ⟨fun same => ?_, sameContent_of_recoveryMessage first second⟩
  obtain ⟨content, configured, binding⟩ := sameContent_of_resolutionMessage first second same
  refine ⟨content, configured, binding, fun held alsoHeld => ?_⟩
  rw [← held, ← alsoHeld]
  exact content.publishedAt

def sampleClosure (objectKeys : List Bytes) : SnapshotClosure where
  snapshot := ⟨1, .zero, .zero, 0⟩
  referenceKey := [1]
  referenceData := [2]
  referenceVersion := ⟨[3], []⟩
  objectKeys := objectKeys
  resolutionSeal := .zero
  clientEncryptionConfigured := false
  clientEncryptionBinding := .zero

theorem sampleClosure_representable {objectKeys : List Bytes}
    (count : FitsUint64 objectKeys.length) (keys : ∀ key ∈ objectKeys, FitsUint64 key.length) :
    (sampleClosure objectKeys).Representable := by
  have one : FitsUint64 1 := by decide
  have start : -0x8000000000000000 ≤ unixSeconds 0 ∧ unixSeconds 0 < 0x8000000000000000 := by decide
  exact ⟨one, rfl, rfl, start, one, one, one, by change FitsUint64 0; decide, count, keys⟩

theorem closure_digests_unambiguous_split :
    snapshotClosureResolutionMessage (sampleClosure [[1, 2], [3]]) ≠
      snapshotClosureResolutionMessage (sampleClosure [[1], [2, 3]]) ∧
    rootRecoveryClosureMessage (sampleClosure [[1, 2], [3]]) ≠
      rootRecoveryClosureMessage (sampleClosure [[1], [2, 3]]) := by
  have unambiguous := closure_digests_unambiguous
    (@sampleClosure_representable [[1, 2], [3]] (by decide) (by decide))
    (@sampleClosure_representable [[1], [2, 3]] (by decide) (by decide))
  refine ⟨fun same => ?_, fun same => ?_⟩
  · exact absurd (unambiguous.1 same).1.objectKeys (by decide)
  · exact absurd (unambiguous.2 same).1.objectKeys (by decide)

end S3Disk
