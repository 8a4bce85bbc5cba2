import S3Disk.SourceTreeSafety

/-! What a walk down stored commits establishes: descent when it succeeds, and an
ancestor off the line when it reports a split brain. -/

namespace S3Disk

open Concurrent Relation

theorem validateCommitManifest_neutral {agent : Nat × PublisherCall} {log : Log}
    {commit : CommitManifest} {generation : Nat} {error : Err}
    (failed : validateCommitManifest commit generation = .error error) :
    Neutral agent error log := by
  unfold validateCommitManifest at failed
  split at failed
  · cases failed
    exact neutral_tagged (by decide)
  · split at failed
    · split at failed
      · cases failed
        exact neutral_tagged (by decide)
      · cases failed
    · split at failed
      · cases failed
        exact neutral_tagged (by decide)
      · split at failed
        · cases failed
          exact neutral_tagged (by decide)
        · cases failed

structure HoldsCommit (wire : Wire) (log : Log) (point : Point) (commit : CommitManifest) :
    Prop where
  held : HasCommit wire log point.commit commit
  checked : validateCommitManifest commit point.generation = .ok ()

section

variable {world : World} {agent : Nat × PublisherCall} {log later : Log} {wire : Wire}

namespace HoldsCommit

variable {point : Point} {commit : CommitManifest}

theorem mono (holds : HoldsCommit wire log point commit) (grown : log <:+ later) :
    HoldsCommit wire later point commit := ⟨holds.held.mono grown, holds.checked⟩

theorem generation (holds : HoldsCommit wire log point commit) :
    commit.generation = point.generation := (validateCommitManifest_ok.mp holds.checked).2.1

theorem first (holds : HoldsCommit wire log point commit) (one : point.generation = 1) :
    PointRoot wire log point := by
  have orphan := (validateCommitManifest_ok.mp holds.checked).2.2.2
  simp only [one, if_true] at orphan
  exact ⟨commit, holds.held, holds.generation, orphan, one⟩

theorem parent (holds : HoldsCommit wire log point commit) (above : point.generation ≠ 1) :
    ∃ digest, commit.parent = some digest ∧ digest.isZero = false := by
  have child := (validateCommitManifest_ok.mp holds.checked).2.2.2
  simpa only [above, if_false] using child

theorem parentOf (holds : HoldsCommit wire log point commit) {ancestor : Point}
    (named : commit.parent = some ancestor.commit)
    (next : point.generation = ancestor.generation + 1) : PointParent wire log point ancestor :=
  ⟨commit, holds.held, holds.generation, named, next⟩

end HoldsCommit

theorem getCommit_meets {digest : Digest} (valid : Valid world.law log) :
    Fallible.Meets world.law agent
      (world.repository.getManifest .commit world.repository.wire.commit digest) log
      (fun commit later => HasCommit world.repository.wire later digest commit) (Neutral agent) :=
  getManifest_meets valid

/-- How a check of descent fails: never with a conflict, and with a split brain only
when the snapshot is not above the anchor or its line bypasses the anchor. -/
structure DescentFails (world : World) (agent : Nat × PublisherCall) (snapshot anchor : Point)
    (error : Err) (log : Log) : Prop where
  peaceful : Peaceful agent error log
  split : anchor.generation ≠ 0 → error.is .splitBrain = true →
    snapshot.generation ≤ anchor.generation ∨
      Bypasses world.repository.wire log snapshot anchor ∨ Disturbed log agent

theorem DescentFails.of_neutral {snapshot anchor : Point} {error : Err}
    (neutral : Neutral agent error log) : DescentFails world agent snapshot anchor error log where
  peaceful := neutral.peaceful
  split _ split := .inr (.inr (neutral (.inr split)))

theorem peaceful_error {sentinel : Sentinel} (foreign : sentinel ≠ .publishConflict) :
    Peaceful agent sentinel.error log := by
  intro conflict
  simp [Sentinel.error, Err.is, foreign.symm] at conflict

theorem peaceful_tagged {sentinel : Sentinel} {detail : List Fragment}
    (foreign : sentinel ≠ .publishConflict) : Peaceful agent (sentinel.tagged detail) log := by
  intro conflict
  simp [Sentinel.tagged, Err.is, foreign.symm] at conflict

theorem walkPublicationAncestry_meets {anchor : Watermark} {steps : Nat} {snapshot : Point}
    {commit : CommitManifest} (holds : HoldsCommit world.repository.wire log snapshot commit)
    (above : snapshot.generation = anchor.generation + steps + 1) (valid : Valid world.law log) :
    Fallible.Meets world.law agent
      (walkPublicationAncestry world.repository anchor steps commit.parent) log
      (fun _ later => ReflTransGen (PointParent world.repository.wire later) snapshot anchor.point)
      (DescentFails world agent snapshot anchor.point) := by
  induction steps generalizing snapshot commit log with
  | zero =>
      unfold walkPublicationAncestry failIf
      split
      · rename_i mismatch
        refine .throw ⟨peaceful_error (by decide), ?_⟩
        intro positive _
        have higher : snapshot.generation ≠ 1 := by
          simp only [Watermark.point] at positive
          omega
        obtain ⟨digest, named, _⟩ := holds.parent higher
        refine .inr (.inl ⟨⟨anchor.generation, digest⟩, .single (holds.parentOf named above), rfl, ?_⟩)
        rintro same
        have sameCommit : digest = anchor.commit := congrArg Point.commit same
        exact mismatch (by rw [named, sameCommit])
      · rename_i named
        exact .pure (.single (holds.parentOf (not_not.mp named) above))
  | succ steps ih =>
      have higher : snapshot.generation ≠ 1 := by omega
      obtain ⟨digest, named, nonzero⟩ := holds.parent higher
      rw [named]
      unfold walkPublicationAncestry
      refine .bind ((contextErr_meets valid).weaken valid (fun _ _ _ _ _ => trivial)
        (fun _ _ _ _ neutral => .of_neutral neutral)) valid ?_
      intro _ log1 grown1 valid1 _
      refine .failIf (fun zero => by simp [nonzero] at zero) fun _ => ?_
      refine .attempt (getCommit_meets valid1) valid1 ?_
      rintro (error | ancestor) log2 grown2 valid2 read
      · exact .throw (.of_neutral (read.within _))
      refine .ofExcept ?_ fun _ checked => ?_
      · intro error failed
        obtain ⟨cause, invalid, rfl⟩ := mapError_error.mp failed
        exact .of_neutral ((validateCommitManifest_neutral invalid).within _)
      · have holds' : HoldsCommit world.repository.wire log2 ⟨anchor.generation + steps + 1, digest⟩
            ancestor := ⟨read, mapError_ok.mp checked⟩
        have step : ∀ {last}, log2 <:+ last → PointParent world.repository.wire last snapshot
            ⟨anchor.generation + steps + 1, digest⟩ := fun grown =>
          (holds.mono ((grown1.trans grown2).trans grown)).parentOf named above
        refine (ih holds' rfl valid2).weaken valid2 ?_ ?_
        · intro _ log3 grown3 _ reaches
          exact .head (step grown3) reaches
        · intro error log3 grown3 _ fails
          refine ⟨fails.peaceful, ?_⟩
          intro positive split
          rcases fails.split positive split with low | ⟨passed, reaches, generation, different⟩ | disturbed
          · simp only [Watermark.point] at low
            omega
          · exact .inr (.inl ⟨passed, .head (step grown3) reaches, generation, different⟩)
          · exact .inr (.inr disturbed)

theorem validatePublicationDescendant_meets {reference : SnapshotReference} {anchor : Watermark}
    {commit : CommitManifest}
    (holds : HoldsCommit world.repository.wire log reference.point commit)
    (valid : Valid world.law log) :
    Fallible.Meets world.law agent
      (validatePublicationDescendant world.repository reference commit anchor) log
      (fun _ later => anchor.generation < reference.generation ∧
        ReflTransGen (PointParent world.repository.wire later) reference.point anchor.point)
      (DescentFails world agent reference.point anchor.point) := by
  unfold validatePublicationDescendant
  refine .failIf (fun low => ⟨peaceful_error (by decide), fun _ _ => .inl low⟩) fun high => ?_
  refine .failIf (fun _ => .of_neutral (neutral_tagged (by decide))) fun _ => ?_
  have above : reference.point.generation =
      anchor.generation + (reference.generation - 1 - anchor.generation) + 1 := by
    simp only [SnapshotReference.point]
    omega
  refine (walkPublicationAncestry_meets holds above valid).weaken valid ?_
    (fun _ _ _ _ fails => fails)
  intro _ later _ _ reaches
  exact ⟨by omega, reaches⟩

theorem readPublicationCommit_meets {watermark : Watermark} (valid : Valid world.law log) :
    Fallible.Meets world.law agent (readPublicationCommit world.repository watermark) log
      (fun commit later => HoldsCommit world.repository.wire later watermark.point commit)
      (Neutral agent) := by
  unfold readPublicationCommit
  refine .attempt (getCommit_meets valid) valid ?_
  rintro (error | commit) log1 grown1 valid1 read
  · exact .throw (read.within _)
  · refine .ofExcept (fun _ => validateCommitManifest_neutral) fun _ checked => ?_
    exact .pure ⟨read, checked⟩

theorem publicationDescends_meets {candidate anchor : Watermark} {commit : CommitManifest}
    (holds : HoldsCommit world.repository.wire log candidate.point commit)
    (positive : anchor.generation ≠ 0) (valid : Valid world.law log) :
    Fallible.Meets world.law agent
      (publicationDescends world.repository candidate commit anchor) log
      (fun descends later =>
        if descends then Descends world.repository.wire later candidate anchor
        else candidate.generation ≤ anchor.generation ∨
          Bypasses world.repository.wire later candidate.point anchor.point ∨
          Disturbed later agent)
      (Peaceful agent) := by
  unfold publicationDescends
  let reference : SnapshotReference := ⟨objectFormatVersion, candidate.generation, candidate.commit⟩
  have held : HoldsCommit world.repository.wire log reference.point commit := holds
  refine .attempt (validatePublicationDescendant_meets held valid) valid ?_
  rintro (error | done) log1 grown1 valid1 checked
  · refine .failIf (fun _ => checked.peaceful) fun split => ?_
    exact .pure (checked.split positive (by simpa using split))
  · exact .pure checked

theorem walkToFirstPublication_meets {generation : Nat} {snapshot : Point} {commit : CommitManifest}
    (holds : HoldsCommit world.repository.wire log snapshot commit)
    (above : snapshot.generation = generation + 1) (valid : Valid world.law log) :
    Fallible.Meets world.law agent
      (walkToFirstPublication world.repository generation commit.parent) log
      (fun reached later => reached = true → ∃ first, PointRoot world.repository.wire later first ∧
        ReflTransGen (PointParent world.repository.wire later) snapshot first)
      (Peaceful agent) := by
  induction generation generalizing snapshot commit log with
  | zero =>
      unfold walkToFirstPublication
      exact .pure fun _ => ⟨snapshot, holds.first above, .refl⟩
  | succ generation ih =>
      unfold walkToFirstPublication
      obtain ⟨digest, named, nonzero⟩ := holds.parent (by omega)
      simp only [named, nonzero, Bool.false_eq_true, if_false]
      refine .attempt (getCommit_meets valid) valid ?_
      rintro (error | ancestor) log1 grown1 valid1 read
      · exact .throw (read.within _).peaceful
      refine .ofExcept (fun _ failed => (validateCommitManifest_neutral failed).peaceful)
        fun _ checked => ?_
      have holds' : HoldsCommit world.repository.wire log1 ⟨generation + 1, digest⟩ ancestor :=
        ⟨read, checked⟩
      refine (ih holds' rfl valid1).weaken valid1 ?_ (fun _ _ _ _ peaceful => peaceful)
      intro reached log2 grown2 _ down found
      obtain ⟨first, rooted, reaches⟩ := down found
      exact ⟨first, rooted, .head ((holds.mono (grown1.trans grown2)).parentOf named above) reaches⟩

theorem validSupersedingPublication_meets {candidate : Watermark} {base : Option Watermark}
    {commit : CommitManifest} (holds : HoldsCommit world.repository.wire log candidate.point commit)
    (positive : candidate.generation ≠ 0) (based : ∀ anchor ∈ base, anchor.generation ≠ 0)
    (valid : Valid world.law log) :
    Fallible.Meets world.law agent
      (validSupersedingPublication world.repository candidate commit base) log
      (fun wins later => wins = true → Wins world.repository.wire later candidate base)
      (Peaceful agent) := by
  unfold validSupersedingPublication
  cases base with
  | some anchor =>
      dsimp only
      split
      · exact .pure fun impossible => by cases impossible
      · refine (publicationDescends_meets holds (based anchor rfl) valid).weaken valid ?_
          (fun _ _ _ _ peaceful => peaceful)
        rintro descends later _ _ checked rfl
        exact checked
  | none =>
      dsimp only
      split
      · rename_i one
        exact .pure fun _ => ⟨candidate.point, holds.first one, .refl⟩
      · refine .failIf (fun _ => peaceful_tagged (by decide)) fun _ => ?_
        refine walkToFirstPublication_meets holds ?_ valid
        simp only [Watermark.point]
        omega

structure TargetHeld (world : World) (log : Log) (trust : Trust) (channel : Channel)
    (intent : PublicationIntent) (target : Snapshot) : Prop where
  valid : IntentValid world.repository.wire trust.referenceVerifier.repositoryID channel intent
  commit : ∃ manifest, HoldsCommit world.repository.wire log intent.next.point manifest ∧
    target = snapshotFromPublicationCommit intent.next manifest ∧
    (intent.kind = .publish → manifest.parent = intent.base.map (·.commit))

theorem TargetHeld.mono {trust : Trust} {channel : Channel} {intent : PublicationIntent}
    {target : Snapshot} (held : TargetHeld world log trust channel intent target)
    (grown : log <:+ later) : TargetHeld world later trust channel intent target := by
  obtain ⟨valid, manifest, holds, same, parent⟩ := held
  exact ⟨valid, manifest, holds.mono grown, same, parent⟩

theorem checkPendingParent_ok {intent : PublicationIntent} {commit : CommitManifest}
    (checked : checkPendingParent intent commit = .ok ()) (publish : intent.kind = .publish) :
    commit.parent = intent.base.map (·.commit) := by
  unfold checkPendingParent at checked
  split at checked
  · rename_i resign
    simp [publish] at resign
  · rename_i _ base
    rw [base]
    split at checked
    · cases checked
    · rename_i orphan
      simpa using orphan
  · rename_i before _ base
    rw [base]
    split at checked
    · cases checked
    · rename_i named
      simpa using named

theorem checkPendingParent_peaceful {intent : PublicationIntent} {commit : CommitManifest}
    {error : Err} (failed : checkPendingParent intent commit = .error error) :
    Peaceful agent error log := by
  unfold checkPendingParent at failed
  split at failed
  · cases failed
  · split at failed
    · cases failed
      exact peaceful_tagged (by decide)
    · cases failed
  · split at failed
    · cases failed
      exact peaceful_tagged (by decide)
    · cases failed

end

end S3Disk
