import S3Disk.CheckpointMemory
import S3Disk.ServedReads

/-! The three loops that walk down stored commits: when they succeed, that they agree, and
what their callers hand them. -/

namespace S3Disk

open Concurrent Relation

def Reads (wire : Wire) (commits : Digest → CommitManifest) : Exchange Request Answer → Prop
  | ⟨.contextErr, answer⟩ => answer = none
  | ⟨.acquireDownload _, answer⟩ => answer = .ok ()
  | ⟨.get (.object .commit digest) _, answer⟩ => ∃ object : Object, answer = .ok object ∧
      ProperVersion object.version ∧ wire.digestObject .commit object.data = digest ∧
      decodeJSON wire.commit object.data = .ok (commits digest)
  | _ => False

abbrev Parent (commits : Digest → CommitManifest) : Point → Point → Prop :=
  CommitParent fun digest commit => commits digest = commit

section

variable {commits : Digest → CommitManifest} {point target : Point}

theorem Parent.generation (parent : Parent commits point target) :
    point.generation = target.generation + 1 := by
  obtain ⟨_, _, _, _, above⟩ := parent
  exact above

theorem generation_lt_of_descends (descends : TransGen (Parent commits) point target) :
    target.generation < point.generation := by
  induction descends with
  | single parent =>
      have above := parent.generation
      omega
  | tail _ parent ih =>
      have above := parent.generation
      omega

theorem descends_adjacent
    (checked : validateCommitManifest (commits point.commit) point.generation = .ok ())
    (above : point.generation = target.generation + 1) :
    TransGen (Parent commits) point target ↔
      (commits point.commit).parent = some target.commit := by
  constructor
  · intro descends
    obtain ⟨middle, parent, rest⟩ := TransGen.head'_iff.mp descends
    rcases reflTransGen_iff_eq_or_transGen.mp rest with rfl | further
    · obtain ⟨_, rfl, -, names, -⟩ := parent
      exact names
    · have lower := generation_lt_of_descends further
      have step := parent.generation
      omega
  · intro names
    exact .single ⟨_, rfl, checked, names, above⟩

theorem descends_through {digest : Digest} {generation : Nat}
    (checked : validateCommitManifest (commits point.commit) point.generation = .ok ())
    (named : (commits point.commit).parent = some digest)
    (above : point.generation = generation + 1) (more : target.generation < generation) :
    TransGen (Parent commits) point target ↔
      TransGen (Parent commits) ⟨generation, digest⟩ target := by
  constructor
  · intro descends
    obtain ⟨⟨reached, commit⟩, ⟨_, rfl, -, names, step⟩, rest⟩ := TransGen.head'_iff.mp descends
    obtain rfl : digest = commit := Option.some.inj (named.symm.trans names)
    obtain rfl : generation = reached := by
      simp only at step
      omega
    rcases reflTransGen_iff_eq_or_transGen.mp rest with rfl | further
    · simp at more
    · exact further
  · intro further
    exact .head ⟨_, rfl, checked, named, above⟩ further

theorem not_descends_of_invalid (point : Point) {error : Err}
    (failed : validateCommitManifest (commits point.commit) point.generation = .error error) :
    ¬TransGen (Parent commits) point target := by
  intro descends
  obtain ⟨middle, ⟨_, rfl, checked, -⟩, -⟩ := TransGen.head'_iff.mp descends
  rw [failed] at checked
  cases checked

def Rooted (commits : Digest → CommitManifest) (point : Point) : Prop :=
  ∃ first : Point, ReflTransGen (Parent commits) point first ∧ first.generation = 1 ∧
    validateCommitManifest (commits first.commit) 1 = .ok () ∧
    (commits first.commit).parent = none

theorem rooted_first
    (checked : validateCommitManifest (commits point.commit) point.generation = .ok ())
    (one : point.generation = 1) : Rooted commits point := by
  rw [one] at checked
  exact ⟨point, .refl, one, checked, (validateCommitManifest_ok.mp checked).2.2.2⟩

theorem rooted_through {digest : Digest} {generation : Nat}
    (checked : validateCommitManifest (commits point.commit) point.generation = .ok ())
    (named : (commits point.commit).parent = some digest)
    (above : point.generation = generation + 1) (more : 0 < generation) :
    Rooted commits point ↔ Rooted commits ⟨generation, digest⟩ := by
  constructor
  · rintro ⟨first, descends, one, root⟩
    rcases ReflTransGen.cases_head descends with rfl | ⟨⟨reached, commit⟩, parent, rest⟩
    · omega
    · obtain ⟨_, rfl, -, names, step⟩ := parent
      obtain rfl : digest = commit := Option.some.inj (named.symm.trans names)
      obtain rfl : generation = reached := by
        simp only at step
        omega
      exact ⟨first, rest, one, root⟩
  · rintro ⟨first, descends, root⟩
    exact ⟨first, .head ⟨_, rfl, checked, named, above⟩ descends, root⟩

theorem not_rooted_of_invalid (point : Point) {error : Err}
    (failed : validateCommitManifest (commits point.commit) point.generation = .error error) :
    ¬Rooted commits point := by
  rintro ⟨first, descends, one, checked, -⟩
  rcases ReflTransGen.cases_head descends with rfl | ⟨_, ⟨_, rfl, valid, -⟩, -⟩
  · rw [one, checked] at failed
    cases failed
  · rw [valid] at failed
    cases failed

end

section

variable {repository : Repository} {commits : Digest → CommitManifest} {point : Point}
  {anchor : Watermark} {steps : Nat}

theorem contextErr_reads :
    contextErr.Succeeds (Reads repository.wire commits) fun _ => True :=
  contextErr_succeeds fun _ alive => alive

theorem getCommit_reads {digest : Digest} :
    Fallible.Succeeds (Reads repository.wire commits)
      (repository.getManifest .commit repository.wire.commit digest) (· = commits digest) := by
  unfold Repository.getManifest Repository.getImmutable
  have read : Fallible.Succeeds (Reads repository.wire commits)
      (repository.getImmutableLimited .commit digest maxMetadataObjectBytes)
      fun data => decodeJSON repository.wire.commit data = .ok (commits digest) := by
    refine getImmutableLimited_succeeds ?_
    rintro _ ⟨object, rfl, proper, hashed, decoded⟩
    exact ⟨object, rfl, proper, (decodeJSON_ok decoded).1, hashed, decoded⟩
  exact .bind read fun data decoded => .ofExcept decoded rfl

theorem getCommitManifest_reads {digest : Digest} :
    (getCommitManifest repository digest).Settles (Reads repository.wire commits)
      fun result => ∃ commit, result = .ok commit ∧ commit = commits digest := by
  unfold getCommitManifest metadataFlight downloadManifest
  have downloaded : Fallible.Succeeds (Reads repository.wire commits)
      (do acquireDownload maxMetadataObjectBytes
          repository.getManifest .commit repository.wire.commit digest)
      (· = commits digest) :=
    .bind (acquireDownload_succeeds fun _ granted => granted) fun _ _ => getCommit_reads
  refine .after (.lift contextErr_reads) fun _ _ => ?_
  refine .after (.attempt (.lift downloaded)) ?_
  rintro _ ⟨commit, rfl, same⟩
  refine .after (.lift contextErr_reads) fun _ _ => ?_
  exact .ofExcept ⟨commit, rfl, same⟩

theorem walkPublicationAncestry_settles
    (checked : validateCommitManifest (commits point.commit) point.generation = .ok ())
    (above : point.generation = anchor.generation + steps + 1) :
    Fallible.Settles (Reads repository.wire commits)
      (walkPublicationAncestry repository anchor steps (commits point.commit).parent)
      fun result => result = .ok () ↔ TransGen (Parent commits) point anchor.point := by
  induction steps generalizing point with
  | zero =>
      have adjacent : TransGen (Parent commits) point anchor.point ↔
          (commits point.commit).parent = some anchor.commit := descends_adjacent checked above
      exact .check (fun different => by simp [adjacent, different])
        fun named => by simp [adjacent, not_not.mp named]
  | succ steps ih =>
      obtain ⟨digest, named, nonzero⟩ := validateCommitManifest_parent checked (by omega)
      have lower : TransGen (Parent commits) point anchor.point ↔
          TransGen (Parent commits) ⟨anchor.generation + steps + 1, digest⟩ anchor.point :=
        descends_through checked named above (by simp only [Watermark.point]; omega)
      rw [named]
      unfold walkPublicationAncestry
      refine contextErr_reads.settles fun _ _ => ?_
      refine .failIf (fun zero => by simp [nonzero] at zero) fun _ => ?_
      refine getCommit_reads.attempt.settles ?_
      rintro _ ⟨_, rfl, rfl⟩
      dsimp only
      rw [lower]
      refine .bindExcept ?_ ?_
      · intro error failed
        obtain ⟨_, invalid, -⟩ := mapError_error.mp failed
        simp only [reduceCtorEq, false_iff]
        exact not_descends_of_invalid ⟨anchor.generation + steps + 1, digest⟩ invalid
      · intro _ valid
        exact @ih ⟨anchor.generation + steps + 1, digest⟩ (mapError_ok.mp valid) rfl

theorem walkCommitAncestry_settles
    (checked : validateCommitManifest (commits point.commit) point.generation = .ok ())
    (above : point.generation = anchor.generation + steps + 1) :
    (walkCommitAncestry repository anchor steps (commits point.commit).parent).Settles
      (Reads repository.wire commits)
      fun result => result = .ok () ↔ TransGen (Parent commits) point anchor.point := by
  induction steps generalizing point with
  | zero =>
      have adjacent : TransGen (Parent commits) point anchor.point ↔
          (commits point.commit).parent = some anchor.commit := descends_adjacent checked above
      exact .check (fun different => by simp [adjacent, different])
        fun named => by simp [adjacent, not_not.mp named]
  | succ steps ih =>
      obtain ⟨digest, named, nonzero⟩ := validateCommitManifest_parent checked (by omega)
      have lower : TransGen (Parent commits) point anchor.point ↔
          TransGen (Parent commits) ⟨anchor.generation + steps + 1, digest⟩ anchor.point :=
        descends_through checked named above (by simp only [Watermark.point]; omega)
      rw [named]
      unfold walkCommitAncestry
      refine .after (.lift contextErr_reads) fun _ _ => ?_
      rw [show (some digest).filter (·.isZero = false) = some digest by simp [nonzero]]
      refine .after (.attempt getCommitManifest_reads) ?_
      rintro _ ⟨_, rfl, rfl⟩
      dsimp only
      rw [lower]
      refine .bindExcept ?_ ?_
      · intro error failed
        obtain ⟨_, invalid, -⟩ := mapError_error.mp failed
        simp only [reduceCtorEq, false_iff]
        exact not_descends_of_invalid ⟨anchor.generation + steps + 1, digest⟩ invalid
      · intro _ valid
        exact @ih ⟨anchor.generation + steps + 1, digest⟩ (mapError_ok.mp valid) rfl

theorem walkToFirstPublication_settles
    (checked : validateCommitManifest (commits point.commit) point.generation = .ok ())
    (above : point.generation = steps + 1) :
    Fallible.Settles (Reads repository.wire commits)
      (walkToFirstPublication repository steps (commits point.commit).parent)
      fun result => result = .ok true ↔ Rooted commits point := by
  induction steps generalizing point with
  | zero =>
      have first := rooted_first checked above
      obtain ⟨generation, commit⟩ := point
      simp only at above
      subst above
      have orphan : (commits commit).parent = none :=
        (validateCommitManifest_ok.mp checked).2.2.2
      rw [orphan]
      exact .pure (by simpa using first)
  | succ steps ih =>
      obtain ⟨digest, named, nonzero⟩ := validateCommitManifest_parent checked (by omega)
      rw [named, rooted_through checked named above (by omega)]
      unfold walkToFirstPublication
      dsimp only
      rw [if_neg (by simp [nonzero])]
      refine getCommit_reads.attempt.settles ?_
      rintro _ ⟨_, rfl, rfl⟩
      dsimp only
      refine .bindExcept ?_ ?_
      · intro error invalid
        simp only [reduceCtorEq, false_iff]
        exact not_rooted_of_invalid ⟨steps + 1, digest⟩ invalid
      · intro _ valid
        exact @ih ⟨steps + 1, digest⟩ valid rfl

end

structure DescendsWithin (commits : Digest → CommitManifest) (candidate anchor : Point) : Prop where
  short : candidate.generation - anchor.generation ≤ maxCommitWalk
  line : TransGen (Parent commits) candidate anchor

section

variable {repository : Repository} {commits : Digest → CommitManifest}
  {reference : SnapshotReference} {anchor candidate : Watermark}

theorem validatePublicationDescendant_settles
    (checked : validateCommitManifest (commits reference.commit) reference.generation = .ok ()) :
    Fallible.Settles (Reads repository.wire commits)
      (validatePublicationDescendant repository reference (commits reference.commit) anchor)
      fun result => result = .ok () ↔ DescendsWithin commits reference.point anchor.point := by
  unfold validatePublicationDescendant
  refine .failIf (fun level => ?_) fun higher => ?_
  · simp only [reduceCtorEq, false_iff]
    intro descends
    have lower := generation_lt_of_descends descends.line
    simp only [Watermark.point, SnapshotReference.point] at lower
    omega
  refine .failIf (fun far => ?_) fun near => ?_
  · simp only [reduceCtorEq, false_iff]
    intro descends
    have short := descends.short
    simp only [Watermark.point, SnapshotReference.point] at short
    omega
  have above : reference.point.generation =
      anchor.generation + (reference.generation - 1 - anchor.generation) + 1 := by
    simp only [SnapshotReference.point]
    omega
  refine (walkPublicationAncestry_settles checked above).weaken ?_
  intro result verdict
  rw [verdict]
  exact ⟨fun line => ⟨by simp only [Watermark.point, SnapshotReference.point]; omega, line⟩,
    DescendsWithin.line⟩

theorem subtractUint64_eq {left right : Nat} (ordered : right ≤ left)
    (inside : left ≤ maxUint64) : subtractUint64 left right = left - right := by
  have limit : maxUint64 = 0xFFFFFFFFFFFFFFFF := rfl
  rw [limit] at inside
  rw [subtractUint64, limit]
  omega

theorem validateDescendant_settles
    (checked : validateCommitManifest (commits reference.commit) reference.generation = .ok ())
    (higher : anchor.generation < reference.generation)
    (inside : reference.generation ≤ maxUint64) :
    (validateDescendant repository reference (commits reference.commit) anchor).Settles
      (Reads repository.wire commits)
      fun result => result = .ok () ↔ DescendsWithin commits reference.point anchor.point := by
  unfold validateDescendant
  rw [subtractUint64_eq (by omega) inside]
  refine .failIf (fun far => ?_) fun near => ?_
  · simp only [reduceCtorEq, false_iff]
    intro descends
    have short := descends.short
    simp only [Watermark.point, SnapshotReference.point] at short
    omega
  have above : reference.point.generation =
      anchor.generation + (reference.generation - 1 - anchor.generation) + 1 := by
    simp only [SnapshotReference.point]
    omega
  refine (walkCommitAncestry_settles checked above).weaken ?_
  intro result verdict
  rw [verdict]
  exact ⟨fun line => ⟨by simp only [Watermark.point, SnapshotReference.point]; omega, line⟩,
    DescendsWithin.line⟩

theorem validSupersedingPublication_settles
    (checked : validateCommitManifest (commits candidate.commit) candidate.generation = .ok ())
    (positive : candidate.generation ≠ 0) :
    Fallible.Settles (Reads repository.wire commits)
      (validSupersedingPublication repository candidate (commits candidate.commit) none)
      fun result => result = .ok true ↔
        (candidate.generation ≤ maxCommitWalk ∨ candidate.generation = 1) ∧
          Rooted commits candidate.point := by
  unfold validSupersedingPublication
  dsimp only
  split
  case isTrue one =>
    have rooted : Rooted commits candidate.point := rooted_first checked one
    have orphan : (commits candidate.commit).parent = none := by
      rw [one] at checked
      exact (validateCommitManifest_ok.mp checked).2.2.2
    rw [orphan]
    exact .pure (by simp [rooted, one])
  case isFalse later =>
    refine .failIf (fun far => ?_) fun near => ?_
    · simp only [reduceCtorEq, false_iff]
      rintro ⟨short | one, -⟩
      · omega
      · exact later one
    have above : candidate.point.generation = candidate.generation - 1 + 1 := by
      simp only [Watermark.point]
      omega
    refine (walkToFirstPublication_settles checked above).weaken ?_
    intro result verdict
    rw [verdict]
    exact ⟨fun rooted => ⟨.inl (by omega), rooted⟩, fun both => both.2⟩

end

/-! How many requests the walks make. -/

section

variable {repository : Repository} {anchor candidate : Watermark} {commit : CommitManifest}
  {reference : SnapshotReference}

theorem contextErr_limited : contextErr.Limited Request.Answered 1 := .request nofun

theorem getManifest_limited {α : Type} {kind : Kind} {json : JSON α} {digest : Digest} :
    (repository.getManifest kind json digest).Limited Request.Answered 1 := by
  unfold Repository.getManifest Repository.getImmutable Repository.getImmutableLimited
  have asked : ∀ limit : Nat, (storeGet (Repository.objectKey kind digest) ⟨[], limit⟩).Limited
      Request.Answered 1 := fun _ => .request nofun
  refine .quiet (.quiet (asked _).attempt ?_) fun _ => .ofExcept
  rintro (error | object)
  · exact .throw
  · exact .bindExcept fun _ => .failIf fun _ => .failIf fun _ => .pure

theorem walkPublicationAncestry_limited {steps : Nat} {parent : Option Digest} :
    (walkPublicationAncestry repository anchor steps parent).Limited Request.Answered
      (2 * steps) := by
  induction steps generalizing parent with
  | zero =>
      unfold walkPublicationAncestry failIf
      split
      · exact .throw
      · exact .pure
  | succ steps ih =>
      unfold walkPublicationAncestry
      refine .bind contextErr_limited (fun _ => ?_) (by omega : 1 + (2 * steps + 1) ≤ _)
      cases parent with
      | none => exact .throw
      | some digest =>
          refine .failIf fun _ => ?_
          refine .bind getManifest_limited.attempt ?_ (by omega : 1 + 2 * steps ≤ _)
          rintro (error | ancestor)
          · exact .throw
          · exact .bindExcept fun _ => ih

theorem validatePublicationDescendant_limited :
    (validatePublicationDescendant repository reference commit anchor).Limited Request.Answered
      (2 * maxCommitWalk) := by
  unfold validatePublicationDescendant
  refine .failIf fun _ => .failIf fun near => ?_
  exact Program.Limited.mono walkPublicationAncestry_limited (by omega)

theorem getCommitManifest_limited {digest : Digest} :
    (getCommitManifest repository digest).Limited Request.Answered 4 := by
  unfold getCommitManifest metadataFlight downloadManifest
  have acquired : (acquireDownload maxMetadataObjectBytes).Limited Request.Answered 1 :=
    .request nofun
  have downloaded : Fallible.Limited Request.Answered 2
      (do acquireDownload maxMetadataObjectBytes
          repository.getManifest .commit repository.wire.commit digest) :=
    .bind acquired (fun _ => getManifest_limited) (by omega)
  have checked : (liftM contextErr : Consuming Unit).Limited Request.Answered 1 :=
    .lift contextErr_limited
  have loaded : (liftM (do acquireDownload maxMetadataObjectBytes
                           repository.getManifest .commit repository.wire.commit digest) :
      Consuming CommitManifest).attempt.Limited Request.Answered 2 := .attempt (.lift downloaded)
  refine .bind checked (fun _ => ?_) (by omega : 1 + 3 ≤ 4)
  refine .bind loaded (fun _ => ?_) (by omega : 2 + 1 ≤ 3)
  have returned : ∀ result : Except Err CommitManifest,
      (Action.ofExcept result : Consuming CommitManifest).Limited Request.Answered 0 :=
    fun _ => .ofExcept
  exact .bind checked (fun _ => returned _) (by omega)

theorem walkCommitAncestry_limited {steps : Nat} {parent : Option Digest} :
    (walkCommitAncestry repository anchor steps parent).Limited Request.Answered (5 * steps) := by
  induction steps generalizing parent with
  | zero =>
      unfold walkCommitAncestry failIf
      split
      · exact .throw
      · exact fun _ => .done
  | succ steps ih =>
      unfold walkCommitAncestry
      refine .bind (.lift contextErr_limited) (fun _ => ?_) (by omega : 1 + (5 * steps + 4) ≤ _)
      cases parent.filter (·.isZero = false) with
      | none => exact .throw
      | some digest =>
          refine .bind (.attempt getCommitManifest_limited) ?_ (by omega : 4 + 5 * steps ≤ _)
          rintro (error | ancestor)
          · exact .throw
          · exact .bindExcept fun _ => ih

theorem validateDescendant_limited (higher : anchor.generation < reference.generation)
    (inside : reference.generation ≤ maxUint64) :
    (validateDescendant repository reference commit anchor).Limited Request.Answered
      (5 * maxCommitWalk) := by
  unfold validateDescendant
  rw [subtractUint64_eq (by omega) inside]
  refine .failIf fun near memory => ?_
  exact (walkCommitAncestry_limited memory).mono (by omega)

theorem walkToFirstPublication_limited {steps : Nat} {parent : Option Digest} :
    (walkToFirstPublication repository steps parent).Limited Request.Answered steps := by
  induction steps generalizing parent with
  | zero =>
      unfold walkToFirstPublication
      exact .pure
  | succ steps ih =>
      unfold walkToFirstPublication
      cases parent with
      | none => exact .pure
      | some digest =>
          dsimp only
          split
          · exact .pure
          · refine .bind getManifest_limited.attempt ?_ (by omega : 1 + steps ≤ _)
            rintro (error | ancestor)
            · exact .throw
            · exact .bindExcept fun _ => ih

theorem validSupersedingPublication_limited :
    (validSupersedingPublication repository candidate commit none).Limited Request.Answered
      maxCommitWalk := by
  unfold validSupersedingPublication
  dsimp only
  split
  · exact .pure
  · refine .failIf fun near => ?_
    exact Program.Limited.mono walkToFirstPublication_limited (by omega)

end

/-! What the callers hand to the walks. -/

section

variable {repository : Repository} {consumer : Consumer repository} {descend : DescentCheck}

def DescentAgrees (repository : Repository) (descend : DescentCheck) : Prop :=
  ∀ reference commit anchor, anchor.generation < reference.generation →
    descend reference commit anchor = validateDescendant repository reference commit anchor

theorem throw_bind {Memory α β : Type} {error : Err} {next : α → Act Memory β} :
    (throw error >>= next : Act Memory β) = throw error := rfl

theorem get_bind {Memory β : Type} {next : Memory → Act Memory β} {memory : Memory} :
    (get >>= next : Act Memory β) memory = next memory memory := rfl

theorem adoptReferenceBy_eq (agrees : DescentAgrees repository descend)
    (reference : SnapshotReference) (version : Version) :
    adoptReferenceBy consumer descend reference version =
      adoptReference consumer reference version := by
  unfold adoptReference adoptReferenceBy
  refine bind_congr fun commit => ?_
  refine bind_congr fun _ => ?_
  refine bind_congr fun memory => ?_
  refine bind_congr fun _ => ?_
  have guarded : ∀ (anchor : Watermark) (rest : Unit → Consuming Unit),
      (if anchor.generation > 0 ∧ reference.generation > anchor.generation then
        descend reference commit anchor >>= rest else rest ()) =
      if anchor.generation > 0 ∧ reference.generation > anchor.generation then
        validateDescendant repository reference commit anchor >>= rest else rest () := by
    intro anchor rest
    split
    case isTrue above => rw [agrees reference commit anchor above.2]
    case isFalse => rfl
  exact guarded _ _

theorem validateFromAnchorBy_eq (agrees : DescentAgrees repository descend)
    {watermark checkpoint anchor : Watermark}
    (higher : watermark.repositoryID = checkpoint.repositoryID →
      checkpoint.generation < watermark.generation → anchor.generation < watermark.generation) :
    validateFromAnchorBy repository descend watermark checkpoint anchor =
      validateFromAnchorBy repository (validateDescendant repository) watermark checkpoint
        anchor := by
  unfold validateFromAnchorBy
  by_cases same : watermark.repositoryID = checkpoint.repositoryID
  · by_cases lower : watermark.generation < checkpoint.generation
    · refine bind_congr fun _ => ?_
      rw [failIf, if_pos lower, throw_bind, throw_bind]
    · refine bind_congr fun _ => bind_congr fun _ => ?_
      split
      case isTrue => rfl
      case isFalse different =>
        have above := higher same (by omega)
        refine bind_congr fun loaded => ?_
        cases loaded with
        | error error => dsimp only
        | ok commit =>
            dsimp only
            rw [agrees _ commit anchor above]
  · rw [failIf, if_pos same, throw_bind, throw_bind]

theorem validateWatermarkCheckpointBy_eq (agrees : DescentAgrees repository descend)
    {watermark checkpoint : Watermark} {memory : ConsumerMemory}
    (vouches : memory.Vouches repository.wire checkpoint) :
    validateWatermarkCheckpointBy repository descend watermark checkpoint memory =
      validateWatermarkCheckpoint repository watermark checkpoint memory := by
  unfold validateWatermarkCheckpoint validateWatermarkCheckpointBy
  rw [get_bind, get_bind]
  refine congrFun ?_ memory
  split
  case isTrue unset => exact validateFromAnchorBy_eq agrees fun _ above => above
  case isFalse set =>
    have vouched := vouches (by simpa using set)
    by_cases lower : watermark.generation < memory.checkpointValidated.generation
    · rw [failIf, if_pos lower, throw_bind, throw_bind]
    refine bind_congr fun _ => ?_
    by_cases apart : watermark.generation = memory.checkpointValidated.generation ∧
        watermark.commit ≠ memory.checkpointValidated.commit
    · rw [failIf, if_pos apart, throw_bind, throw_bind]
    refine bind_congr fun _ => ?_
    split
    case isTrue => rfl
    case isFalse other =>
      exact validateFromAnchorBy_eq agrees fun repositories _ =>
        vouched.above lower apart other repositories

theorem resolveObservedBy_eq {trust : Trust}
    {supersedes : Watermark → CommitManifest → Option Watermark → Proc Bool}
    (agrees : ∀ candidate commit base, candidate.generation ≠ 0 →
      supersedes candidate commit base = validSupersedingPublication repository candidate commit base)
    (channel : Channel) (initial : PublicationIntent) (target : Snapshot)
    (again : PublicationJournalState → PublicationJournalRevision → Err →
      Recovery PublicationRecovery)
    (state : PublicationJournalState) (revision : PublicationJournalRevision)
    (pending : PublicationIntent) (reference : SnapshotReference) (object : Object)
    (positive : reference.generation ≠ 0) :
    resolveObservedBy repository trust supersedes channel initial target again state revision
        pending reference object =
      resolveObserved repository trust channel initial target again state revision pending
        reference object := by
  unfold resolveObserved resolveObservedBy
  have same : ∀ commit base, supersedes (watermarkOf trust reference) commit base =
      validSupersedingPublication repository (watermarkOf trust reference) commit base :=
    fun commit base => agrees _ commit base positive
  simp only [same]

end

/-- The three loops. With a store in which the reads succeed, both checks of descent succeed
exactly when the candidate's parent pointers lead through valid commits to the anchor within
the limit, so they agree, and a history without a base is accepted exactly when its pointers
lead to a first commit within the limit. Whatever is answered, each makes a bounded number of
requests. The consumer's callers hand over only candidates above their anchors and the
recovery only references of a positive generation, so that no subtraction goes below zero. -/
theorem ancestry_walks (repository : Repository) (commits : Digest → CommitManifest) :
    (∀ reference anchor,
      validateCommitManifest (commits reference.commit) reference.generation = .ok () →
      reference.generation ≤ maxUint64 →
      Fallible.Settles (Reads repository.wire commits)
        (validatePublicationDescendant repository reference (commits reference.commit) anchor)
        (fun result => result = .ok () ↔
          DescendsWithin commits reference.point anchor.point) ∧
      (anchor.generation < reference.generation →
        (validateDescendant repository reference (commits reference.commit) anchor).Settles
          (Reads repository.wire commits)
          (fun result => result = .ok () ↔
            DescendsWithin commits reference.point anchor.point) ∧
        (∀ published verdict memory consumed outcome,
          (validatePublicationDescendant repository reference (commits reference.commit)
            anchor).Ends published verdict →
          (validateDescendant repository reference (commits reference.commit) anchor memory).Ends
            consumed outcome →
          (∀ exchange ∈ published, Reads repository.wire commits exchange) →
          (∀ exchange ∈ consumed, Reads repository.wire commits exchange) →
          (verdict = .ok () ↔ outcome.1 = .ok ())) ∧
        (∀ commit, (validateDescendant repository reference commit anchor).Limited
          Request.Answered (5 * maxCommitWalk)) ∧
        subtractUint64 reference.generation anchor.generation =
          reference.generation - anchor.generation ∧
        subtractUint64 reference.generation 1 = reference.generation - 1)) ∧
    (∀ candidate : Watermark,
      validateCommitManifest (commits candidate.commit) candidate.generation = .ok () →
      candidate.generation ≤ maxUint64 → candidate.generation ≠ 0 →
      Fallible.Settles (Reads repository.wire commits)
        (validSupersedingPublication repository candidate (commits candidate.commit) none)
        (fun result => result = .ok true ↔
          (candidate.generation ≤ maxCommitWalk ∨ candidate.generation = 1) ∧
            Rooted commits candidate.point) ∧
      subtractUint64 candidate.generation 1 = candidate.generation - 1) ∧
    (∀ reference candidate commit anchor,
      (validatePublicationDescendant repository reference commit anchor).Limited Request.Answered
        (2 * maxCommitWalk) ∧
      (validSupersedingPublication repository candidate commit none).Limited Request.Answered
        maxCommitWalk) ∧
    (∀ descend, DescentAgrees repository descend →
      (∀ (consumer : Consumer repository) reference version,
        adoptReferenceBy consumer descend reference version =
          adoptReference consumer reference version) ∧
      ∀ watermark checkpoint memory, ConsumerReached repository checkpoint memory →
        validateWatermarkCheckpointBy repository descend watermark checkpoint memory =
          validateWatermarkCheckpoint repository watermark checkpoint memory) ∧
    (∀ channel ifNoneMatch verifier, Fallible.Ensures Request.Answered
      (repository.getReferenceWithVerifier channel ifNoneMatch verifier)
      fun found => found.1.generation ≠ 0) ∧
    ∀ supersedes : Watermark → CommitManifest → Option Watermark → Proc Bool,
      (∀ candidate commit base, candidate.generation ≠ 0 → supersedes candidate commit base =
        validSupersedingPublication repository candidate commit base) →
      ∀ trust channel initial target again state revision pending reference object,
        reference.generation ≠ 0 →
        resolveObservedBy repository trust supersedes channel initial target again state revision
            pending reference object =
          resolveObserved repository trust channel initial target again state revision pending
            reference object := by
  refine ⟨?_, ?_, ?_, ?_, ?_, ?_⟩
  · intro reference anchor checked inside
    have publisher : Fallible.Settles (Reads repository.wire commits)
        (validatePublicationDescendant repository reference (commits reference.commit) anchor)
        (fun result => result = .ok () ↔ DescendsWithin commits reference.point anchor.point) :=
      validatePublicationDescendant_settles checked
    refine ⟨publisher, fun higher => ?_⟩
    have consumer : (validateDescendant repository reference (commits reference.commit)
        anchor).Settles (Reads repository.wire commits) (fun result => result = .ok () ↔
          DescendsWithin commits reference.point anchor.point) :=
      validateDescendant_settles checked higher inside
    refine ⟨consumer, ?_, fun commit => validateDescendant_limited higher inside,
      subtractUint64_eq (by omega) inside, subtractUint64_eq (by omega) inside⟩
    intro published verdict memory consumed outcome first second read readAgain
    exact (publisher published verdict first read).trans
      (consumer memory consumed outcome second readAgain).symm
  · intro candidate checked inside positive
    exact ⟨validSupersedingPublication_settles checked positive,
      subtractUint64_eq (by omega) inside⟩
  · intro reference candidate commit anchor
    exact ⟨validatePublicationDescendant_limited, validSupersedingPublication_limited⟩
  · intro descend agrees
    exact ⟨fun consumer reference version => adoptReferenceBy_eq agrees reference version,
      fun watermark checkpoint memory reached =>
        validateWatermarkCheckpointBy_eq agrees reached.vouches⟩
  · intro channel ifNoneMatch verifier
    exact getReferenceWithVerifier_answered
  · intro supersedes agrees trust channel initial target again state revision pending reference
      object positive
    exact resolveObservedBy_eq agrees channel initial target again state revision pending reference
      object positive

namespace SampleCheckpoint

def commits (digest : Digest) : CommitManifest :=
  if digest = digestOf second then second else third

def history : ∀ request, Option (Answer request)
  | .contextErr => some none
  | .get (.object .commit digest) _ =>
      if digest = digestOf (commits digest) then
        some (.ok ⟨concreteWire.commit.marshal (commits digest), ⟨[1], []⟩⟩)
      else none
  | _ => none

theorem history_reads (exchange : Exchange Request Answer)
    (given : history exchange.op = some exchange.answer) :
    Reads concreteWire commits exchange := by
  obtain ⟨op, answer⟩ := exchange
  cases op with
  | contextErr => exact (Option.some.inj given).symm
  | get key options =>
      cases key with
      | object kind digest =>
          cases kind with
          | commit =>
              simp only [history] at given
              split at given
              case isTrue same =>
                obtain rfl := Option.some.inj given
                have proper : ProperVersion ⟨[1], []⟩ := ⟨nofun, by decide, by decide⟩
                refine ⟨_, rfl, proper, same.symm, ?_⟩
                by_cases which : digest = digestOf second
                · simp only [commits, which, if_true]
                  rfl
                · simp only [commits, which, if_false]
                  rfl
              case isFalse => cases given
          | _ => cases given
      | _ => cases given
  | _ => cases given

def reference : SnapshotReference := ⟨objectFormatVersion, 3, digestOf third⟩

end SampleCheckpoint

/-- The third generation descends from the first, as the publisher finds out. -/
theorem ancestry_walks_third :
    DescendsWithin SampleCheckpoint.commits SampleCheckpoint.reference.point
      SampleCheckpoint.checkpoint.point := by
  have ran : Program.answered SampleCheckpoint.history
      (validatePublicationDescendant SampleCheckpoint.repository SampleCheckpoint.reference
        SampleCheckpoint.third SampleCheckpoint.checkpoint) = some (.ok ()) := rfl
  obtain ⟨history, ends, given⟩ := Program.ends_of_answered ran
  have walks := (ancestry_walks SampleCheckpoint.repository SampleCheckpoint.commits).1
    SampleCheckpoint.reference SampleCheckpoint.checkpoint (by decide +kernel) (by decide)
  exact (walks.1 history _ ends fun exchange member =>
    SampleCheckpoint.history_reads exchange (given exchange member)).mp rfl

end S3Disk
