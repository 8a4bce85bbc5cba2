import S3Disk.RecoverySafety

/-! The recovery loop is safe: what it installs extends the line of publications, it
settles an intent only on evidence, and what it reports about the intent is true. -/

namespace S3Disk

open Concurrent Relation

structure Recovered (world : World) (log : Log) (agent : Nat × PublisherCall) (channel : Channel)
    (intent : PublicationIntent) (result : PublicationRecovery) : Prop where
  intentID : result.intentID = intent.intentID
  settled : result.outcome ≠ .none
  applied : intent.kind = .publish → result.outcome = .applied →
    Published world.repository.wire log (.signedReference channel) intent.next.point
  superseded : intent.kind = .publish → result.outcome = .superseded →
    Superseded world.repository.wire log (.signedReference channel) intent.next.point ∨
      Disturbed log agent

/-- Where the recovery of an intent stands: the journal still has the intent, or
committed a visible watermark in its place or above it. -/
structure Recovering (world : World) (log : Log) (trust : Trust) (channel : Channel)
    (initial : PublicationIntent) (target : Snapshot) (state : PublicationJournalState)
    (revision : PublicationJournalRevision) : Prop where
  held : Held log trust channel state revision
  same : ∀ pending, state.pending = some pending →
    equalPublicationIntentSemantics initial pending = true
  target : TargetHeld world log trust channel initial target
  began : ∃ record ∈ records log trust.publicationJournal channel,
    record.1.pending = some initial
  settled : state.pending = none → initial.kind = .publish →
    ∀ committed, state.committed = some committed →
      Visible world.repository.wire log channel committed ∧
        initial.next.generation ≤ committed.generation

section

variable {world : World} {agent : Nat × PublisherCall} {log later : Log} {trust : Trust}
  {channel : Channel} {state : PublicationJournalState} {revision : PublicationJournalRevision}

theorem storesWell_over (valid : Valid world.law log) {key : Key} (isReference : key.IsReference)
    {object : Object} {data : Bytes} {parent point : Point} (member : object ∈ versions log key)
    (condition : ETagIs log key (some object.version))
    (asserted : pointOf world.repository.wire key object.data = some parent)
    (next : pointOf world.repository.wire key data = some point)
    (grows : point = parent ∨ PointParent world.repository.wire log point parent) :
    StoresWell world.repository.wire log key data := by
  obtain ⟨newest, head, sameTag⟩ := condition
  have sameData := data_eq_of_eTag valid (List.mem_of_mem_head? head) member sameTag
  have line : Lineage.Grows (PointParent world.repository.wire log)
      (PointRoot world.repository.wire log) (points world.repository.wire log key) point := by
    obtain ⟨rest, split⟩ : ∃ rest, versions log key = newest :: rest := by
      cases stored : versions log key with
      | nil => simp [stored] at head
      | cons first rest =>
          simp only [stored, List.head?_cons, Option.some.injEq] at head
          exact ⟨rest, by rw [head]⟩
    simp only [points, split, List.filterMap_cons, sameData, asserted]
    exact grows
  cases key with
  | object kind digest => exact isReference.elim
  | reference name => exact ⟨point, next, line⟩
  | signedReference name => exact ⟨point, next, line⟩

theorem storesWell_first {key : Key} (isReference : key.IsReference) {data : Bytes} {point : Point}
    (condition : ETagIs log key none)
    (next : pointOf world.repository.wire key data = some point)
    (first : PointRoot world.repository.wire log point) :
    StoresWell world.repository.wire log key data := by
  have line : Lineage.Grows (PointParent world.repository.wire log)
      (PointRoot world.repository.wire log) (points world.repository.wire log key) point := by
    simp only [points, show versions log key = [] from condition, List.filterMap_nil]
    exact first
  cases key with
  | object kind digest => exact isReference.elim
  | reference name => exact ⟨point, next, line⟩
  | signedReference name => exact ⟨point, next, line⟩

theorem settled_of_newest (valid : Valid world.law log)
    {began newest : PublicationJournalState × PublicationJournalRevision}
    (member : began ∈ records log trust.publicationJournal channel) {intent : PublicationIntent}
    (pending : began.1.pending = some intent) (publish : intent.kind = .publish)
    (head : (records log trust.publicationJournal channel).head? = some newest)
    (idle : newest.1.pending = none) :
    ∃ committed, newest.1.committed = some committed ∧
      Visible world.repository.wire log channel committed ∧
      intent.next.generation ≤ committed.generation := by
  rcases pending_or_settled valid member pending head with ⟨current, found, _⟩ | ⟨committed, found, above⟩
  · simp [idle] at found
  · have found : newest.1.committed = some committed := found
    obtain ⟨_, _, _, _, _, _, _, _, stateValid, _⟩ := recordsWell_of_mem valid member
    obtain ⟨intentValid, base⟩ := stateValid.pending intent pending
    have follows := follows_of_mem valid member head
    rw [found] at follows
    refine ⟨committed, found, follows.visible ?_, above⟩
    intro unmoved
    have successor := intentValid.successor publish (base.trans unmoved)
    omega

theorem Recovering.mono {initial : PublicationIntent} {target : Snapshot}
    (recovering : Recovering world log trust channel initial target state revision)
    (grown : log <:+ later) :
    Recovering world later trust channel initial target state revision where
  held := recovering.held.mono grown
  same := recovering.same
  target := recovering.target.mono grown
  began := by
    obtain ⟨record, member, pending⟩ := recovering.began
    exact ⟨record, mem_records_mono grown member, pending⟩
  settled idle publish committed found := by
    obtain ⟨visible, above⟩ := recovering.settled idle publish committed found
    exact ⟨visible.mono grown, above⟩

theorem Recovering.reload {initial : PublicationIntent} {target : Snapshot}
    {newState : PublicationJournalState} {newRevision : PublicationJournalRevision}
    (recovering : Recovering world log trust channel initial target state revision)
    (valid : Valid world.law later) (grown : log <:+ later)
    (held : Held later trust channel newState newRevision)
    (looked : ∃ middle, log <:+ middle ∧ middle <:+ later ∧
      (records middle trust.publicationJournal channel).head? = some (newState, newRevision))
    (same : ∀ pending, newState.pending = some pending →
      equalPublicationIntentSemantics initial pending = true) :
    Recovering world later trust channel initial target newState newRevision where
  held
  same
  target := recovering.target.mono grown
  began := (recovering.mono grown).began
  settled idle publish committed found := by
    obtain ⟨middle, before, after, head⟩ := looked
    obtain ⟨record, member, pending⟩ := recovering.began
    obtain ⟨found', sameCommitted, visible, above⟩ := settled_of_newest (valid.suffix after)
      (mem_records_mono before member) pending publish head idle
    obtain rfl : found' = committed := Option.some.inj (sameCommitted.symm.trans found)
    exact ⟨visible.mono after, above⟩

def Resumes (world : World) (agent : Nat × PublisherCall) (trust : Trust) (channel : Channel)
    (initial : PublicationIntent) (target : Snapshot)
    (again : PublicationJournalState → PublicationJournalRevision → Err →
      Recovery PublicationRecovery) : Prop :=
  ∀ log state revision error, Valid world.law log →
    Recovering world log trust channel initial target state revision →
    Peaceful agent error log →
    Action.Meets world.law agent (again state revision error) log
      (fun result later => Recovered world later agent channel initial result) (Peaceful agent)

theorem TargetHeld.advances {intent : PublicationIntent} {target : Snapshot}
    (held : TargetHeld world log trust channel intent target) :
    Advances world.repository.wire log intent.base intent.next := by
  obtain ⟨intentValid, manifest, holds, _, parent⟩ := held
  intro before base
  cases kind : intent.kind with
  | resign => exact .inl (Option.some.inj (base.symm.trans (intentValid.resigned kind)))
  | publish =>
      have named := parent kind
      rw [show intent.base = some before from base] at named
      have successor := intentValid.successor kind base
      refine .inr ⟨by omega, .single ?_⟩
      exact holds.parentOf named successor

theorem Shows.advances {initial pending : PublicationIntent} {target : Snapshot} {data : Bytes}
    {remote : Watermark} (held : TargetHeld world log trust channel initial target)
    (same : equalPublicationIntentSemantics initial pending = true)
    (shows : Shows world log pending data remote) :
    Advances world.repository.wire log pending.base remote := by
  obtain ⟨_, kind, base, next, _⟩ := equalPublicationIntentSemantics_iff.mp same
  have ofTarget : ∀ {above}, Descends world.repository.wire log above pending.next →
      Advances world.repository.wire log pending.base above := by
    intro above descends before member
    rcases held.advances before (by rw [base]; exact member) with equal | further
    · rw [equal, next]
      exact .inr descends
    · exact .inr (descends.trans (by rw [← next]; exact further))
  have atTarget : Advances world.repository.wire log pending.base pending.next := by
    intro before member
    rw [← next]
    exact held.advances before (by rw [base]; exact member)
  unfold Shows at shows
  split at shows
  · rcases shows with rfl | descends | wins
    · exact atTarget
    · exact ofTarget descends
    · intro before member
      rw [show pending.base = some before from member] at wins
      exact .inr wins
  · rcases shows with ⟨rfl, _⟩ | descends
    · exact atTarget
    · exact ofTarget descends

theorem settleObserved_meets {initial pending : PublicationIntent} {target snapshot : Snapshot}
    {remote : Watermark} {object : Object} {outcome : PublicationRecoveryOutcome}
    (configured : (world.publisher agent.1).trust = some trust)
    (recovering : Recovering world log trust channel initial target state revision)
    (owned : state.pending = some pending)
    (own : remote.repositoryID = trust.referenceVerifier.repositoryID)
    (read : SignedRead world log agent.1 channel remote object)
    (shows : Shows world log pending object.data remote) (settled : outcome ≠ .none)
    (applied : initial.kind = .publish → outcome = .applied →
      ReflTransGen (PointParent world.repository.wire log) remote.point initial.next.point)
    (superseded : initial.kind = .publish → outcome = .superseded →
      Bypasses world.repository.wire log remote.point initial.next.point ∨ Disturbed log agent)
    (valid : Valid world.law log) :
    Action.Meets world.law agent
      (finalizePublication world.repository trust state revision remote snapshot outcome) log
      (fun result later => Recovered world later agent channel initial result)
      (Peaceful agent) := by
  have same := recovering.same pending owned
  have base := (recovering.held.pendingValid valid owned).2
  refine (finalizePublication_meets configured recovering.held owned read.visible
    (base ▸ shows.advances recovering.target same) (.inr ⟨object.data, read.observed, shows⟩)
    ⟨own, read.generation, read.commit⟩ valid).weaken valid ?_ (fun _ _ _ _ peaceful => peaceful)
  rintro result later grown _ rfl
  have visible := mem_points_mono grown read.visible.mem_points
  refine ⟨(equalPublicationIntentSemantics_iff.mp same).1.symm, settled, ?_, ?_⟩
  · intro publish isApplied
    exact ⟨remote.point, visible, reaches_mono grown (applied publish isApplied)⟩
  · intro publish isSuperseded
    rcases superseded publish isSuperseded with bypasses | disturbed
    · exact .inl ⟨remote.point, visible, bypasses.mono grown⟩
    · exact .inr (disturbed.mono grown)

theorem applyPending_meets {initial : PublicationIntent} {target : Snapshot}
    {again : PublicationJournalState → PublicationJournalRevision → Err →
      Recovery PublicationRecovery} {expected : Option Version}
    (configured : (world.publisher agent.1).trust = some trust)
    (resumes : Resumes world agent trust channel initial target again)
    (recovering : Recovering world log trust channel initial target state revision)
    (stores : ∀ later, log <:+ later → Valid world.law later →
      ETagIs later (.signedReference channel) expected →
      StoresWell world.repository.wire later (.signedReference channel) initial.reference)
    (valid : Valid world.law log) :
    Action.Meets world.law agent
      (applyPending world.repository trust channel initial target again state revision expected) log
      (fun result later => Recovered world later agent channel initial result)
      (Peaceful agent) := by
  unfold applyPending
  cases owned : state.pending with
  | none => exact .lift halt_meets valid
  | some pending =>
      have same := recovering.same pending owned
      obtain ⟨sameID, sameKind, sameBase, sameNext, sameReference⟩ :=
        equalPublicationIntentSemantics_iff.mp same
      obtain ⟨intentValid, base⟩ := recovering.held.pendingValid valid owned
      have writes : Fallible.Meets world.law agent
          (Repository.compareAndSwap (.signedReference channel) expected pending.reference) log
          (fun _ later => (∃ version, Did later agent.1
            (.compareAndSwap (.signedReference channel) expected pending.reference) (.ok version)) ∧
            ∃ object ∈ versions later (.signedReference channel), object.data = pending.reference)
          (Neutral agent) := by
        refine compareAndSwap_meets ?_ ?_ valid
        · rintro name ⟨⟩
          exact ⟨trust, configured, _, recovering.held.member, pending, owned, rfl⟩
        · rw [← sameReference]
          exact stores
      refine .attemptLift writes valid ?_
      rintro (lastErr | version) log1 grown1 valid1 written
      · refine .bind (reloadPublicationRecovery_meets valid1) valid1 ?_
        rintro ⟨newState, newRevision⟩ log2 grown2 valid2 ⟨held, looked, same⟩
        exact resumes log2 newState newRevision lastErr valid2
          ((recovering.mono grown1).reload valid2 grown2 held looked same)
          (written.peaceful.mono grown2)
      · obtain ⟨⟨accepted, did⟩, object, member, sameData⟩ := written
        have visible : Visible world.repository.wire log1 channel pending.next :=
          ⟨object, member, by rw [sameData]; exact intentValid.asserted⟩
        have advances : Advances world.repository.wire log1 state.committed pending.next := by
          rw [← base, ← sameBase, ← sameNext]
          exact (recovering.target.mono grown1).advances
        refine (finalizePublication_meets configured (recovering.held.mono grown1) owned visible
          advances (.inl ⟨rfl, expected, accepted, did⟩)
          (validatePublicationJournalWatermark_ok.mp intentValid.next) valid1).weaken valid1 ?_
          (fun _ _ _ _ peaceful => peaceful)
        rintro result later grown2 _ rfl
        refine ⟨sameID.symm, by simp, ?_, by simp⟩
        intro _ _
        rw [sameNext]
        exact ⟨pending.next.point, (visible.mono grown2).mem_points, .refl⟩

theorem applyObserved_meets (lawful : world.repository.wire.Lawful) {initial : PublicationIntent}
    {target : Snapshot} {again : PublicationJournalState → PublicationJournalRevision → Err →
      Recovery PublicationRecovery} {pending : PublicationIntent} {remote : Watermark}
    {object : Object} (configured : (world.publisher agent.1).trust = some trust)
    (resumes : Resumes world agent trust channel initial target again)
    (recovering : Recovering world log trust channel initial target state revision)
    (owned : state.pending = some pending)
    (read : SignedRead world log agent.1 channel remote object)
    (line : initial.next.point = remote.point ∨
      PointParent world.repository.wire log initial.next.point remote.point)
    (valid : Valid world.law log) :
    Action.Meets world.law agent
      (applyObserved world.repository trust channel initial target again state revision object) log
      (fun result later => Recovered world later agent channel initial result)
      (Peaceful agent) := by
  unfold applyObserved
  refine .bind (refreshPublicationObservation_meets lawful configured recovering.held owned read
    valid) valid ?_
  rintro ⟨newState, newRevision⟩ log1 grown1 valid1 ⟨held, current, found, same⟩
  have next : Recovering world log1 trust channel initial target newState newRevision :=
    { held
      same := by
        intro other otherFound
        obtain rfl : current = other := Option.some.inj (found.symm.trans otherFound)
        exact equalPublicationIntentSemantics_trans (recovering.same pending owned) same
      target := recovering.target.mono grown1
      began := (recovering.mono grown1).began
      settled := by
        intro idle
        cases found.symm.trans idle }
  refine applyPending_meets configured resumes next ?_ valid1
  intro later grown laterValid condition
  have grownAll := grown1.trans grown
  have reference : (Key.signedReference channel).IsReference := trivial
  have observed : pointOf world.repository.wire (.signedReference channel) object.data =
      some remote.point := by simp [pointOf, read.asserted]
  have installed : pointOf world.repository.wire (.signedReference channel) initial.reference =
      some initial.next.point := by simp [pointOf, recovering.target.valid.asserted]
  refine storesWell_over laterValid reference (mem_versions_mono grownAll read.member) condition
    observed installed ?_
  rcases line with same | child
  · exact .inl same
  · exact .inr (child.mono grownAll)

theorem checkNotBehind_peaceful {remote anchor : Watermark} {error : Err}
    (failed : checkNotBehind remote anchor = .error error) : Peaceful agent error log := by
  unfold checkNotBehind at failed
  split at failed
  · cases failed
    exact peaceful_error (by decide)
  · split at failed
    · cases failed
      exact peaceful_error (by decide)
    · cases failed

theorem resolveObserved_meets (lawful : world.repository.wire.Lawful) {initial : PublicationIntent}
    {target : Snapshot} {again : PublicationJournalState → PublicationJournalRevision → Err →
      Recovery PublicationRecovery} {pending : PublicationIntent} {reference : SnapshotReference}
    {object : Object} (configured : (world.publisher agent.1).trust = some trust)
    (resumes : Resumes world agent trust channel initial target again)
    (recovering : Recovering world log trust channel initial target state revision)
    (owned : state.pending = some pending)
    (read : SignedRead world log agent.1 channel (watermarkOf trust reference) object)
    (valid : Valid world.law log) :
    Action.Meets world.law agent
      (resolveObserved world.repository trust channel initial target again state revision pending
        reference object) log
      (fun result later => Recovered world later agent channel initial result)
      (Peaceful agent) := by
  have same := recovering.same pending owned
  obtain ⟨sameID, sameKind, sameBase, sameNext, sameReference⟩ :=
    equalPublicationIntentSemantics_iff.mp same
  obtain ⟨intentValid, base⟩ := recovering.held.pendingValid valid owned
  have nextNonzero := (validatePublicationJournalWatermark_ok.mp intentValid.next).2.1
  have baseNonzero : ∀ anchor ∈ pending.base, anchor.generation ≠ 0 := by
    intro anchor member
    rw [base] at member
    exact (recovering.held.committedValid valid member).2.1
  unfold resolveObserved resolveObservedBy
  refine .bindLift ((readPublicationCommit_meets valid).weaken valid (fun _ _ _ _ holds => holds)
    (fun _ _ _ _ neutral => neutral.peaceful)) valid ?_
  intro remoteCommit log1 grown1 valid1 holds
  have recovering1 := recovering.mono grown1
  have read1 := read.mono grown1
  refine .ofExcept ?_ fun _ _ => ?_
  · intro error failed
    obtain ⟨anchor, _, behind⟩ := forM_error failed
    exact checkNotBehind_peaceful behind
  -- The remaining branches differ in the evidence with which they settle.
  have settles : ∀ {later outcome}, log1 <:+ later → Valid world.law later →
      Shows world later pending object.data (watermarkOf trust reference) →
      outcome ≠ PublicationRecoveryOutcome.none →
      (initial.kind = .publish → outcome = .applied →
        ReflTransGen (PointParent world.repository.wire later) (watermarkOf trust reference).point
          initial.next.point) →
      (initial.kind = .publish → outcome = .superseded →
        Bypasses world.repository.wire later (watermarkOf trust reference).point
          initial.next.point ∨ Disturbed later agent) →
      Action.Meets world.law agent
        (finalizePublication world.repository trust state revision (watermarkOf trust reference)
          (snapshotFromPublicationCommit (watermarkOf trust reference) remoteCommit) outcome) later
        (fun result last => Recovered world last agent channel initial result)
        (Peaceful agent) := fun grown laterValid shows settled applied superseded =>
    settleObserved_meets configured (recovering1.mono grown) owned rfl (read1.mono grown) shows
      settled applied superseded laterValid
  split
  · -- A re-sign that finds its own commit.
    rename_i resigned
    have notPublish : initial.kind ≠ .publish := by simp [sameKind, resigned.1]
    have showsResign : (object.data = pending.reference ∨
        publicationReferenceDigest world.repository.wire object.data ≠ pending.expectedReference) →
        Shows world log1 pending object.data (watermarkOf trust reference) := by
      intro new
      simp only [Shows, resigned.1]
      exact .inl ⟨resigned.2, new⟩
    split
    · rename_i exactly
      exact settles (List.suffix_refl _) valid1 (showsResign (.inl exactly)) (by simp)
        (fun publish => absurd publish notPublish) (fun publish => absurd publish notPublish)
    · split
      · rename_i different
        exact settles (List.suffix_refl _) valid1 (showsResign (.inr different)) (by simp)
          (fun publish => absurd publish notPublish) (fun publish => absurd publish notPublish)
      · exact applyObserved_meets lawful configured resumes recovering1 owned read1
          (.inl (by rw [sameNext, resigned.2])) valid1
  rename_i notResigned
  split
  · rename_i reached
    have publish : pending.kind = .publish := by
      cases kind : pending.kind with
      | publish => rfl
      | resign => exact absurd ⟨kind, reached⟩ notResigned
    refine settles (List.suffix_refl _) valid1 ?_ (by simp) ?_ (by simp)
    · simp only [Shows, publish]
      exact .inl reached
    · intro _ _
      rw [sameNext, reached]
  rename_i notReached
  split
  · -- The remote is above the target.
    rename_i above
    refine .bindLift (publicationDescends_meets holds nextNonzero valid1) valid1 ?_
    intro includesTarget log2 grown2 valid2 descends
    cases kind : pending.kind with
    | resign =>
        have notPublish : initial.kind ≠ .publish := by simp [sameKind, kind]
        refine .failIf (fun _ => peaceful_error (by decide)) fun included => ?_
        simp only [Bool.not_eq_false] at included
        simp only [included, if_true] at descends
        refine settles grown2 valid2 ?_ (by simp) (fun publish => absurd publish notPublish)
          (fun publish => absurd publish notPublish)
        simp only [Shows, kind]
        exact .inr descends
    | publish =>
        dsimp only
        split
        · rename_i included
          simp only [included, if_true] at descends
          refine settles grown2 valid2 ?_ (by simp) ?_ (by simp)
          · simp only [Shows, kind]
            exact .inr (.inl descends)
          · intro _ _
            rw [sameNext]
            exact descends.2
        · rename_i excluded
          simp only [excluded] at descends
          refine .bindLift (validSupersedingPublication_meets (holds.mono grown2) read.generation
            baseNonzero valid2) valid2 ?_
          intro validWinner log3 grown3 valid3 wins
          refine .failIf (fun _ => peaceful_error (by decide)) fun won => ?_
          simp only [Bool.not_eq_false] at won
          refine settles (grown2.trans grown3) valid3 ?_ (by simp) (by simp) ?_
          · simp only [Shows, kind]
            exact .inr (.inr (wins won))
          · intro _ _
            rw [sameNext]
            rcases descends with low | bypasses | disturbed
            · omega
            · exact .inl (bypasses.mono grown3)
            · exact .inr (disturbed.mono grown3)
  rename_i notAbove
  split
  · -- The remote is the base: install the target over it.
    rename_i atBase
    have publish : pending.kind = .publish := by
      cases kind : pending.kind with
      | publish => rfl
      | resign =>
          have unmoved := Option.some.inj ((intentValid.resigned kind).symm.trans atBase)
          exact absurd unmoved.symm notReached
    refine applyObserved_meets lawful configured resumes recovering1 owned read1 (.inr ?_) valid1
    obtain ⟨targetValid, manifest, holdsTarget, _, parent⟩ := recovering1.target
    have initialBase := sameBase.trans atBase
    have named := parent (sameKind.trans publish)
    rw [initialBase] at named
    exact holdsTarget.parentOf named
      (targetValid.successor (sameKind.trans publish) initialBase)
  · rename_i notBase
    refine .bindLift (validSupersedingPublication_meets holds read.generation baseNonzero valid1)
      valid1 ?_
    intro validWinner log2 grown2 valid2 wins
    refine .failIf (fun _ => peaceful_error (by decide)) fun won => ?_
    simp only [Bool.not_eq_false] at won
    have won := wins won
    cases kind : pending.kind with
    | resign =>
        -- The base of a re-sign is its target, so nothing can win below it.
        rw [intentValid.resigned kind] at won
        exact absurd won.1 notAbove
    | publish =>
        have reached : pending.next.generation ≤ (watermarkOf trust reference).generation := by
          cases found : pending.base with
          | none =>
              have first := intentValid.first kind found
              have positive := read.generation
              omega
          | some before =>
              rw [found] at won
              have successor := intentValid.successor kind found
              have higher := won.1
              omega
        refine settles grown2 valid2 ?_ (by simp) (by simp) ?_
        · simp only [Shows, kind]
          exact .inr (.inr won)
        · intro _ _
          rw [sameNext]
          refine .inl ⟨(watermarkOf trust reference).point, .refl, ?_, ?_⟩
          · simp only [Watermark.point]
            omega
          · intro samePoint
            apply notReached
            have sameRepository := intentValid.nextOwn
            simp only [Watermark.point, Point.mk.injEq] at samePoint
            cases next : pending.next with
            | mk repositoryID generation commit =>
                simp only [next] at samePoint sameRepository
                simp [watermarkOf] at samePoint
                simp [watermarkOf, samePoint, sameRepository]

end

end S3Disk
