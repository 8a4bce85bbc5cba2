import S3Disk.PublicationSafety

/-! The recovery loop as a whole, the classification of an intent that somebody else
settled, and the preparation of the journal before a publication. -/

namespace S3Disk

open Concurrent Relation

section

variable {world : World} {agent : Nat × PublisherCall} {log later : Log} {trust : Trust}
  {channel : Channel} {state : PublicationJournalState} {revision : PublicationJournalRevision}

theorem validateAdvance_meets {reference : SnapshotReference} {commit : CommitManifest}
    {anchor : Watermark} (holds : HoldsCommit world.repository.wire log reference.point commit)
    (valid : Valid world.law log) :
    Fallible.Meets world.law agent (validateAdvance world.repository reference commit anchor) log
      (fun _ _ => True) (Peaceful agent) := by
  unfold validateAdvance
  split
  · exact (validatePublicationDescendant_meets holds valid).weaken valid (fun _ _ _ _ _ => trivial)
      (fun _ _ _ _ fails => fails.peaceful)
  · exact .pure trivial

theorem classifyResolvedResign_meets {intent : PublicationIntent} {committed : Watermark}
    (resign : intent.kind = .resign) (valid : Valid world.law log) :
    Fallible.Meets world.law agent
      (classifyResolvedResign world.repository trust channel intent committed) log
      (fun result later => Recovered world later agent channel intent result)
      (Peaceful agent) := by
  have notPublish : intent.kind ≠ .publish := by simp [resign]
  unfold classifyResolvedResign
  refine .attempt (getReference_signed valid) valid ?_
  rintro (error | ⟨reference, object⟩) log1 grown1 valid1 read
  · exact .throw ((read.peaceful.within _).wraps (by decide))
  refine .bind ((readPublicationCommit_meets valid1).weaken valid1 (fun _ _ _ _ holds => holds)
    (fun _ _ _ _ neutral => neutral.peaceful)) valid1 ?_
  intro remoteCommit log2 grown2 valid2 holds
  have held : HoldsCommit world.repository.wire log2 reference.point remoteCommit := holds
  refine .ofExcept (fun _ => checkNotBehind_peaceful) fun _ _ => ?_
  refine .bind (validateAdvance_meets held valid2) valid2 ?_
  intro _ log3 grown3 valid3 _
  refine .ofExcept (fun _ => checkNotBehind_peaceful) fun _ _ => ?_
  split
  · exact .pure ⟨rfl, by simp, fun publish => absurd publish notPublish,
      fun publish => absurd publish notPublish⟩
  · refine .failIf (fun _ => peaceful_tagged (by decide)) fun _ => ?_
    refine .bind (validateAdvance_meets (held.mono grown3) valid3) valid3 ?_
    intro _ log4 grown4 valid4 _
    exact .pure ⟨rfl, by simp, fun publish => absurd publish notPublish,
      fun publish => absurd publish notPublish⟩

theorem snapshotForPublicationWatermark_meets {watermark : Watermark} (valid : Valid world.law log) :
    Fallible.Meets world.law agent (snapshotForPublicationWatermark world.repository watermark) log
      (fun _ _ => True) (Peaceful agent) := by
  unfold snapshotForPublicationWatermark
  refine .bind ((readPublicationCommit_meets valid).weaken valid (fun _ _ _ _ _ => trivial)
    (fun _ _ _ _ neutral => neutral.peaceful)) valid ?_
  intro _ _ _ _ _
  exact .pure trivial

theorem committedIncludes_meets {intent : PublicationIntent} {committed : Watermark}
    (nonzero : intent.next.generation ≠ 0) (valid : Valid world.law log) :
    Fallible.Meets world.law agent (committedIncludes world.repository intent committed) log
      (fun applied later =>
        if applied then ReflTransGen (PointParent world.repository.wire later) committed.point
          intent.next.point
        else committed ≠ intent.next ∧ committed.generation ≤ intent.next.generation ∨
          Bypasses world.repository.wire later committed.point intent.next.point ∨
          Disturbed later agent)
      (Peaceful agent) := by
  unfold committedIncludes
  split
  · rename_i same
    exact .pure (by simp [same, ReflTransGen.refl])
  rename_i different
  split
  · rename_i above
    refine .bind ((readPublicationCommit_meets valid).weaken valid (fun _ _ _ _ holds => holds)
      (fun _ _ _ _ neutral => neutral.peaceful)) valid ?_
    intro commit log1 grown1 valid1 holds
    refine (publicationDescends_meets holds nonzero valid1).weaken valid1 ?_
      (fun _ _ _ _ peaceful => peaceful)
    intro descends later _ _ checked
    cases descends with
    | true => exact checked.2
    | false =>
        rcases checked with low | bypasses | disturbed
        · omega
        · exact .inr (.inl bypasses)
        · exact .inr (.inr disturbed)
  · rename_i below
    exact .pure (.inl ⟨different, by omega⟩)

theorem classifyResolvedPublication_meets {intent : PublicationIntent}
    {committed : Option Watermark}
    (intentValid : IntentValid world.repository.wire trust.referenceVerifier.repositoryID channel
      intent)
    (settled : intent.kind = .publish → ∀ watermark, committed = some watermark →
      watermark.repositoryID = trust.referenceVerifier.repositoryID ∧
      Visible world.repository.wire log channel watermark ∧
      intent.next.generation ≤ watermark.generation)
    (valid : Valid world.law log) :
    Fallible.Meets world.law agent
      (classifyResolvedPublication world.repository trust channel intent committed) log
      (fun result later => Recovered world later agent channel intent result)
      (Peaceful agent) := by
  unfold classifyResolvedPublication
  cases committed with
  | none => exact .throw (peaceful_tagged (by decide))
  | some watermark =>
      cases kind : intent.kind with
      | resign => exact classifyResolvedResign_meets kind valid
      | publish =>
          obtain ⟨own, visible, above⟩ := settled kind watermark rfl
          have nonzero := (validatePublicationJournalWatermark_ok.mp intentValid.next).2.1
          refine .bind (snapshotForPublicationWatermark_meets valid) valid ?_
          intro snapshot log1 grown1 valid1 _
          refine .bind (committedIncludes_meets nonzero valid1) valid1 ?_
          intro applied log2 grown2 valid2 found
          have seen := (visible.mono (grown1.trans grown2)).mem_points
          cases applied with
          | true => exact .pure ⟨rfl, by simp, fun _ _ => ⟨_, seen, found⟩, by simp⟩
          | false =>
              refine .pure ⟨rfl, by simp, by simp, ?_⟩
              intro _ _
              rcases found with ⟨different, below⟩ | bypasses | disturbed
              · -- The place of the target is taken by the committed watermark itself.
                refine .inl ⟨_, seen, watermark.point, .refl, ?_, ?_⟩
                · simp only [Watermark.point]
                  omega
                · intro same
                  apply different
                  have sameRepository := own.trans intentValid.nextOwn.symm
                  simp only [Watermark.point, Point.mk.injEq] at same
                  cases watermark
                  cases next : intent.next
                  simp_all
              · exact .inl ⟨_, seen, bypasses⟩
              · exact .inr disturbed

theorem recoverAttempts_meets (lawful : world.repository.wire.Lawful) {initial : PublicationIntent}
    {target : Snapshot} {attempts : Nat} {lastErr : Err}
    (configured : (world.publisher agent.1).trust = some trust)
    (recovering : Recovering world log trust channel initial target state revision)
    (peaceful : Peaceful agent lastErr log) (valid : Valid world.law log) :
    Action.Meets world.law agent
      (recoverAttempts world.repository trust channel initial target attempts state revision
        lastErr) log
      (fun result later => Recovered world later agent channel initial result)
      (Peaceful agent) := by
  induction attempts generalizing log state revision lastErr with
  | zero => exact .throw ((peaceful.within _).wraps (by decide))
  | succ attempts ih =>
      have resumes : Resumes world agent trust channel initial target
          (recoverAttempts world.repository trust channel initial target attempts) :=
        fun _ _ _ _ valid recovering peaceful => ih recovering peaceful valid
      unfold recoverAttempts
      refine .attemptLift (contextErr_meets valid) valid ?_
      rintro (error | done) log1 grown1 valid1 checked
      · exact .throw ((checked.peaceful.within _).wraps (by decide))
      have recovering1 := recovering.mono grown1
      cases owned : state.pending with
      | none =>
          refine .lift (classifyResolvedPublication_meets recovering.target.valid ?_ valid1) valid1
          intro publish watermark found
          obtain ⟨visible, above⟩ := recovering1.settled owned publish watermark found
          exact ⟨(recovering1.held.committedValid valid1 found).1, visible, above⟩
      | some pending =>
          have same := recovering.same pending owned
          refine .failIf (fun differs => by simp [same] at differs) fun _ => ?_
          refine .attemptLift (getReference_signed valid1) valid1 ?_
          rintro (getErr | ⟨reference, object⟩) log2 grown2 valid2 read
          · refine .failIf (fun _ => ((read.peaceful.within _).within _).wraps (by decide))
              fun _ => ?_
            refine .failIf (fun _ => peaceful_tagged (by decide)) fun unbased => ?_
            refine applyPending_meets configured resumes (recovering1.mono grown2) ?_ valid2
            -- Nothing was visible yet, and an intent without a base is a first one.
            intro later grown _ condition
            have target := (recovering1.mono (grown2.trans grown)).target
            obtain ⟨_, kind, base, _⟩ := equalPublicationIntentSemantics_iff.mp same
            have baseless : initial.base = none := by
              rw [base]
              simpa using unbased
            have publish : initial.kind = .publish := by
              cases kind : initial.kind with
              | publish => rfl
              | resign => simp [target.valid.resigned kind] at baseless
            obtain ⟨manifest, holds, _⟩ := target.commit
            have reference : (Key.signedReference channel).IsReference := trivial
            refine storesWell_first reference condition ?_
              (holds.first (target.valid.first publish baseless))
            simp [pointOf, target.valid.asserted]
          · exact resolveObserved_meets lawful configured resumes (recovering1.mono grown2) owned
              read valid2

theorem recoverPublication_meets (lawful : world.repository.wire.Lawful) {initial : PublicationIntent}
    (configured : (world.publisher agent.1).trust = some trust)
    (held : Held log trust channel state revision) (owned : state.pending = some initial)
    (valid : Valid world.law log) :
    Action.Meets world.law agent
      (recoverPublication world.repository trust channel state revision) log
      (fun result later => Recovered world later agent channel initial result)
      (Peaceful agent) := by
  unfold recoverPublication
  simp only [owned]
  obtain ⟨intentValid, _⟩ := held.pendingValid valid owned
  refine .bindLift (validatePendingPublication_meets intentValid valid) valid ?_
  intro target log1 grown1 valid1 targetHeld
  refine recoverAttempts_meets lawful configured ?_ ?_ valid1
  · exact
      { held := held.mono grown1
        same := by
          intro pending found
          obtain rfl : initial = pending := Option.some.inj (owned.symm.trans found)
          exact equalPublicationIntentSemantics_refl initial
        target := targetHeld
        began := ⟨_, (held.mono grown1).member, owned⟩
        settled := fun idle => by simp [owned] at idle }
  · intro conflict
    simp [Err.plain, Err.is] at conflict

theorem preparePublicationJournal_meets (lawful : world.repository.wire.Lawful)
    (configured : (world.publisher agent.1).trust = some trust)
    (named : validateChannel channel = .ok ()) (valid : Valid world.law log) :
    Action.Meets world.law agent
      (preparePublicationJournal world.repository trust channel) log
      (fun found later => Held later trust channel found.1 found.2 ∧ found.1.pending = none)
      (Peaceful agent) := by
  unfold preparePublicationJournal
  refine .bind (loadOrInitializePublicationJournal_meets configured named valid) valid ?_
  rintro ⟨state, revision⟩ log1 grown1 valid1 ⟨held, _⟩
  dsimp only at held ⊢
  split
  · rename_i idle
    exact .pure ⟨held, idle⟩
  rename_i busy
  obtain ⟨initial, owned⟩ := Option.ne_none_iff_exists'.mp busy
  refine .bind (recoverPublication_meets lawful configured held owned valid1) valid1 ?_
  intro _ log2 grown2 valid2 _
  refine .bind (loadPublicationJournal_meets valid2) valid2 ?_
  rintro (_ | ⟨newState, newRevision⟩) log3 grown3 valid3 found
  · exact .throw (peaceful_tagged (by decide))
  · exact .failIf (fun _ => peaceful_tagged (by decide)) fun idle =>
      .pure ⟨found.1, not_not.mp idle⟩

/-- What a recovery found in the journal: an empty slot when it looked, or an intent
that it then recovered. -/
def SignedRecovery (world : World) (log later : Log) (agent : Nat × PublisherCall) (trust : Trust)
    (channel : Channel) (result : PublicationRecovery) : Prop :=
  (result.outcome = .none ∧ ∃ middle, log <:+ middle ∧ middle <:+ later ∧
    ∃ newest, (records middle trust.publicationJournal channel).head? = some newest ∧
      newest.1.pending = none) ∨
  ∃ initial, IntentValid world.repository.wire trust.referenceVerifier.repositoryID channel initial ∧
    Recovered world later agent channel initial result ∧
    (SlotKept later agent.2 trust.publicationJournal channel (some initial) .load ∨
      Disturbed later agent)

theorem repositoryValidateChannel_ok {repository : Repository}
    (checked : repository.validateChannel channel = .ok ()) : validateChannel channel = .ok () := by
  unfold Repository.validateChannel at checked
  obtain ⟨_, named, _⟩ := bind_ok.mp checked
  exact named

theorem repositoryValidateChannel_neutral {repository : Repository} {error : Err}
    (failed : repository.validateChannel channel = .error error) : Neutral agent error log := by
  unfold Repository.validateChannel at failed
  cases named : validateChannel channel with
  | error cause =>
      simp only [named, bind, Except.bind, Except.error.injEq] at failed
      exact failed ▸ validateChannel_neutral named
  | ok done =>
      simp only [named, bind, Except.bind, failIf] at failed
      split at failed
      · cases failed
        exact neutral_tagged (by decide)
      · cases failed

theorem recoverSigned_meets (lawful : world.repository.wire.Lawful)
    (configured : (world.publisher agent.1).trust = some trust) (valid : Valid world.law log) :
    Action.Meets world.law agent (recoverSigned world.repository trust channel) log
      (fun result later => SignedRecovery world log later agent trust channel result)
      (Peaceful agent) := by
  unfold recoverSigned
  refine .ofExcept (fun _ failed => (repositoryValidateChannel_neutral failed).peaceful)
    fun _ checked => ?_
  refine .bind (loadOrInitializePublicationJournal_meets configured
    (repositoryValidateChannel_ok checked) valid) valid ?_
  rintro ⟨state, revision⟩ log1 grown1 valid1 ⟨held, middle, before, after, looked⟩
  dsimp only at held looked ⊢
  split
  · rename_i idle
    have found : ∀ {last}, log1 <:+ last → ∃ middle, log <:+ middle ∧ middle <:+ last ∧
        ∃ newest, (records middle trust.publicationJournal channel).head? = some newest ∧
          newest.1.pending = none := fun grown =>
      ⟨middle, before, after.trans grown, (state, revision), looked.newest, idle⟩
    cases committed : state.committed with
    | none => exact .pure (.inl ⟨rfl, found (List.suffix_refl _)⟩)
    | some watermark =>
        refine .bindLift (snapshotForPublicationWatermark_meets valid1) valid1 ?_
        intro current log2 grown2 valid2 _
        exact .pure (.inl ⟨rfl, found grown2⟩)
  · rename_i busy
    obtain ⟨initial, owned⟩ := Option.ne_none_iff_exists'.mp busy
    obtain ⟨intentValid, _⟩ := held.pendingValid valid1 owned
    refine (recoverPublication_meets lawful configured held owned valid1).weaken valid1 ?_
      (fun _ _ _ _ peaceful => peaceful)
    intro result log2 grown2 _ recovered
    refine .inr ⟨initial, intentValid, recovered, ?_⟩
    rcases looked.slot with kept | disturbed
    · rw [owned] at kept
      exact .inl kept
    · exact .inr (disturbed.mono (after.trans grown2))

theorem acceptObservedPublication_meets {reference : SnapshotReference} {object : Object}
    {commit : CommitManifest} (configured : (world.publisher agent.1).trust = some trust)
    (held : Held log trust channel state revision)
    (read : SignedRead world log agent.1 channel (watermarkOf trust reference) object)
    (holds : HoldsCommit world.repository.wire log reference.point commit)
    (valid : Valid world.law log) :
    Action.Meets world.law agent
      (acceptObservedPublication world.repository trust channel state revision reference commit) log
      (fun found later => Held later trust channel found.1 found.2 ∧ found.1.pending = none ∧
        found.1.committed = some (watermarkOf trust reference))
      (fun _ _ => True) := by
  unfold acceptObservedPublication
  refine .failIf (fun _ => trivial) fun idle => ?_
  have idle : state.pending = none := by simpa using idle
  refine .ofExcept (fun _ _ => trivial) fun _ _ => ?_
  split
  · rename_i adopted
    exact .pure ⟨held, idle, adopted⟩
  have descends : Fallible.Meets world.law agent
      (state.committed.forM (validatePublicationDescendant world.repository reference commit) :
        Proc Unit) log
      (fun _ later => Advances world.repository.wire later state.committed
        (watermarkOf trust reference)) (fun _ _ => True) := by
    cases committed : state.committed with
    | none => exact .pure (by simp [Advances])
    | some anchor =>
        refine (validatePublicationDescendant_meets holds valid).weaken valid ?_
          (fun _ _ _ _ _ => trivial)
        rintro _ later _ _ checked before ⟨⟩
        exact .inr checked
  refine .bindLift descends valid ?_
  intro _ log1 grown1 valid1 advances
  have stateValid := held.stateValid valid
  have desiredValid : StateValid world.repository.wire
      { state with committed := some (watermarkOf trust reference) } := by
    refine ⟨stateValid.repositoryID, stateValid.channel, ?_, ?_⟩
    · rintro found ⟨⟩
      rw [held.own]
      exact validatePublicationJournalWatermark_ok.mpr ⟨rfl, read.generation, read.commit⟩
    · intro pending found
      rw [idle] at found
      cases found
  refine .attempt (swapHeld_meets configured (held.mono grown1) desiredValid rfl rfl
    (.adopt idle (read.mono grown1).visible advances) valid1) valid1 ?_
  rintro (casErr | newRevision) log2 grown2 valid2 swapped
  · refine .failIf (fun _ => trivial) fun _ => ?_
    refine .attempt (loadPublicationJournal_meets valid2) valid2 ?_
    rintro (loadErr | loaded) log3 grown3 valid3 reloaded
    · exact .throw trivial
    dsimp only
    split
    · rename_i found filtered
      obtain ⟨same, matches_⟩ := Option.filter_eq_some_iff.mp filtered
      subst same
      simp only [decide_eq_true_eq] at matches_
      exact .pure ⟨reloaded.1, matches_.1, matches_.2⟩
    · exact .failIf (fun _ => trivial) fun _ => .throw trivial
  · exact .pure ⟨swapped.1, idle, rfl⟩

end

end S3Disk
