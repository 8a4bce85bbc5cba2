import S3Disk.PublisherSafety

/-! Commit and re-sign are safe, and what they report is true: success means that the
snapshot is in the line of the channel, and a conflict that it cannot enter it. -/

namespace S3Disk

open Concurrent Relation

/-- The client wrote nothing since a moment at which no intent for the snapshot had
been recorded. -/
def Unbegun (log : Log) (agent : Nat × PublisherCall) (journal : Nat) (channel : Channel)
    (point : Point) : Prop :=
  ∃ middle, ¬Begun middle journal channel point ∧ Since agent.1 Request.Reads middle log

def Unpublishable (world : World) (agent : Nat × PublisherCall) (trust : Trust) (channel : Channel)
    (point : Point) (log : Log) : Prop :=
  Superseded world.repository.wire log (.signedReference channel) point ∨ Disturbed log agent ∨
    Unbegun log agent trust.publicationJournal channel point

def Conflicts (world : World) (agent : Nat × PublisherCall) (trust : Trust) (channel : Channel)
    (intent : PublicationIntent) (error : Err) (log : Log) : Prop :=
  error.is .publishConflict = true → intent.kind = .publish →
    Unpublishable world agent trust channel intent.next.point log

section

variable {world : World} {agent : Nat × PublisherCall} {log later : Log} {trust : Trust}
  {channel : Channel} {state : PublicationJournalState} {revision : PublicationJournalRevision}
  {intent : PublicationIntent}

theorem Peaceful.conflicts {error : Err} (peaceful : Peaceful agent error log) :
    Conflicts world agent trust channel intent error log :=
  fun conflict _ => .inr (.inl (peaceful conflict))

theorem peaceful_weaken {α : Type} {post : α → Log → Prop} {action : Recovery α}
    (meets : Action.Meets world.law agent action log post (Peaceful agent))
    (valid : Valid world.law log) :
    Action.Meets world.law agent action log post (Conflicts world agent trust channel intent) :=
  meets.weaken valid (fun _ _ _ _ holds => holds) (fun _ _ _ _ peaceful => peaceful.conflicts)

theorem Recovered.unpublishable {result : PublicationRecovery}
    (recovered : Recovered world log agent channel intent result)
    (notApplied : result.outcome ≠ .applied) (publish : intent.kind = .publish) :
    Unpublishable world agent trust channel intent.next.point log := by
  have superseded : result.outcome = .superseded := by
    cases outcome : result.outcome with
    | none => exact absurd outcome recovered.settled
    | applied => exact absurd outcome notApplied
    | superseded => rfl
  rcases recovered.superseded publish superseded with line | disturbed
  · exact .inl line
  · exact .inr (.inl disturbed)

theorem not_begun_of_idle (valid : Valid world.law log)
    (intentValid : IntentValid world.repository.wire trust.referenceVerifier.repositoryID channel
      intent) (publish : intent.kind = .publish)
    {newest : PublicationJournalState × PublicationJournalRevision}
    (head : (records log trust.publicationJournal channel).head? = some newest)
    (idle : newest.1.pending = none) (unmoved : newest.1.committed = intent.base) :
    ¬Begun log trust.publicationJournal channel intent.next.point := by
  rintro ⟨record, member, pending, found, same⟩
  rcases pending_or_settled valid member found head with ⟨current, owned, _⟩ | ⟨committed, reached, above⟩
  · simp [idle] at owned
  · have sameGeneration : pending.next.generation = intent.next.generation :=
      congrArg Point.generation same
    have base : intent.base = some committed := unmoved ▸ reached
    have successor := intentValid.successor publish base
    omega

theorem settled_of_moved {watermark : Watermark}
    (intentValid : IntentValid world.repository.wire trust.referenceVerifier.repositoryID channel
      intent) (publish : intent.kind = .publish)
    (follows : Follows world.repository.wire log channel intent.base (some watermark))
    (moved : some watermark ≠ intent.base) (nonzero : watermark.generation ≠ 0) :
    Visible world.repository.wire log channel watermark ∧
      intent.next.generation ≤ watermark.generation := by
  rcases follows with same | ⟨next, same, visible, descends⟩
  · exact absurd same moved
  · cases same
    refine ⟨visible, ?_⟩
    cases base : intent.base with
    | none =>
        have first := intentValid.first publish base
        omega
    | some before =>
        have above := (descends before base).1
        have successor := intentValid.successor publish base
        omega

theorem beginPublication_meets {attempts : Nat}
    (configured : (world.publisher agent.1).trust = some trust)
    (intentValid : IntentValid world.repository.wire trust.referenceVerifier.repositoryID channel
      intent) (begunBy : BegunBy world log channel intent agent.2)
    (held : Held log trust channel state revision) (idle : state.pending = none)
    (base : state.committed = intent.base)
    (exhausted : attempts = 0 → intent.kind = .publish →
      Unbegun log agent trust.publicationJournal channel intent.next.point)
    (valid : Valid world.law log) :
    Action.Meets world.law agent
      (beginPublication world.repository trust channel intent attempts state revision) log
      (fun begun later =>
        if begun then ∃ record ∈ records later trust.publicationJournal channel,
          record.1.pending = some intent
        else intent.kind = .publish →
          Published world.repository.wire later (.signedReference channel) intent.next.point)
      (Conflicts world agent trust channel intent) := by
  induction attempts generalizing log state revision with
  | zero => exact .throw fun _ publish => .inr (.inr (exhausted rfl publish))
  | succ attempts ih =>
      unfold beginPublication
      have stateValid := held.stateValid valid
      have desiredValid : StateValid world.repository.wire { state with pending := some intent } := by
        refine ⟨stateValid.repositoryID, stateValid.channel, stateValid.committed, ?_⟩
        rintro found ⟨⟩
        rw [held.own, held.sameChannel valid]
        exact ⟨intentValid, base.symm⟩
      refine .attempt (swapHeld_meets configured held desiredValid rfl rfl (.begin idle begunBy)
        valid) valid ?_
      rintro (casErr | newRevision) log1 grown1 valid1 swapped
      · refine .failIf (fun _ => swapped.peaceful.conflicts) fun _ => ?_
        refine .attempt (loadPublicationJournal_meets valid1) valid1 ?_
        rintro (loadErr | _ | ⟨loaded, loadedRevision⟩) log2 grown2 valid2 reloaded
        · exact .throw ((swapped.peaceful.mono grown2).twice reloaded _ _).conflicts
        · exact .throw (peaceful_tagged (by decide)).conflicts
        obtain ⟨heldNow, middle, grown, looked, since⟩ := reloaded
        have middleValid := valid2.suffix since.suffix
        have follows := follows_of_mem middleValid
          (mem_records_mono (grown1.trans grown) held.member) looked.newest
        rw [base] at follows
        dsimp only
        cases owned : loaded.pending with
        | some other =>
            refine .failIf ?_ fun same => ?_
            · intro differs _ publish
              rcases looked.slot with kept | disturbed
              · refine .inr (.inr ⟨middle, ?_, since⟩)
                intro begun
                have slot : loaded.pending = none ∨ loaded.pending = some intent := kept begun
                rcases slot with empty | ours
                · simp [owned] at empty
                · obtain rfl : other = intent := Option.some.inj (owned.symm.trans ours)
                  simp [equalPublicationIntents_iff.mpr rfl] at differs
              · exact .inr (.inl (disturbed.mono since.suffix))
            · simp only [Bool.not_eq_false] at same
              obtain rfl := equalPublicationIntents_iff.mp same
              exact .pure ⟨_, heldNow.member, owned⟩
        | none =>
            dsimp only
            split
            · rename_i unmoved
              refine ih (begunBy.mono (grown1.trans grown2)) heldNow owned unmoved ?_ valid2
              intro _ publish
              exact ⟨middle, not_begun_of_idle middleValid intentValid publish looked.newest owned
                unmoved, since⟩
            · rename_i moved
              have settled : intent.kind = .publish → ∀ watermark, loaded.committed = some watermark →
                  watermark.repositoryID = trust.referenceVerifier.repositoryID ∧
                  Visible world.repository.wire log2 channel watermark ∧
                  intent.next.generation ≤ watermark.generation := by
                intro publish watermark found
                obtain ⟨own, nonzero, _⟩ := heldNow.committedValid valid2 found
                rw [found] at moved
                rw [show (loaded, loadedRevision).1.committed = some watermark from found] at follows
                obtain ⟨visible, above⟩ :=
                  settled_of_moved intentValid publish follows moved nonzero
                exact ⟨own, visible.mono since.suffix, above⟩
              refine .bind (peaceful_weaken (.lift (classifyResolvedPublication_meets intentValid
                settled valid2) valid2) valid2) valid2 ?_
              intro resolved log3 grown3 valid3 recovered
              refine .failIf (fun notApplied _ publish =>
                recovered.unpublishable notApplied publish) fun applied => ?_
              exact .pure fun publish => recovered.applied publish (not_not.mp applied)
      · exact .pure ⟨_, swapped.1.member, rfl⟩

theorem IntentValid.intentID_eq {wire : Wire} {repositoryID : RepositoryID}
    (intentValid : IntentValid wire repositoryID channel intent) :
    intent.intentID = publicationIntentID wire repositoryID channel intent.kind intent.base
      intent.next intent.reference := by
  have checked := intentValid.intentID
  simp only [validatePublicationIntentID, ite_eq_right_iff, reduceCtorEq, imp_false, not_or,
    ne_eq, not_not] at checked
  exact checked.2

theorem sameIntent_of_intentID {wire : Wire} (lawful : wire.Lawful) {repositoryID : RepositoryID}
    {other : PublicationIntent} (intentValid : IntentValid wire repositoryID channel intent)
    (otherValid : IntentValid wire repositoryID channel other)
    (same : intent.intentID = other.intentID) :
    equalPublicationIntentSemantics intent other = true := by
  have identities := same
  rw [intentValid.intentID_eq, otherValid.intentID_eq] at identities
  have marshalled := (lawful.injective _ _ _ _ identities).2
  have equal := lawful.intentIdentity _ _ (by rfl) marshalled
  simp only [PublicationIntentIdentity.mk.injEq, true_and] at equal
  exact equalPublicationIntentSemantics_iff.mpr ⟨same, equal⟩

theorem slot_of_begunBy {before : Log} {initial : PublicationIntent}
    (begunBy : BegunBy world before channel intent agent.2) (publish : intent.kind = .publish)
    (kept : SlotKept log agent.2 trust.publicationJournal channel (some initial) .load) :
    equalPublicationIntentSemantics intent initial = true := by
  cases call : agent.2 with
  | commit staged =>
      rw [call] at begunBy kept
      exact kept staged intent initial rfl begunBy.1 rfl
  | resignReference name =>
      rw [call] at begunBy
      have resign : intent.kind = .resign := begunBy.1
      simp [publish] at resign
  | stage source name =>
      rw [call] at begunBy
      exact begunBy.elim
  | stageSelected source name paths =>
      rw [call] at begunBy
      exact begunBy.elim
  | recoverPublication name =>
      rw [call] at begunBy
      exact begunBy.elim

theorem settleBegun_meets (lawful : world.repository.wire.Lawful) {before : Log}
    {recovery : PublicationRecovery}
    (intentValid : IntentValid world.repository.wire trust.referenceVerifier.repositoryID channel
      intent) (begunBy : BegunBy world before channel intent agent.2)
    (began : ∃ record ∈ records before trust.publicationJournal channel,
      record.1.pending = some intent) (grown : before <:+ log)
    (recovered : SignedRecovery world before log agent trust channel recovery)
    (valid : Valid world.law log) :
    Action.Meets world.law agent (settleBegun world.repository trust channel intent recovery) log
      (fun published later => intent.kind = .publish →
        if published then
          Published world.repository.wire later (.signedReference channel) intent.next.point
        else Unpublishable world agent trust channel intent.next.point later)
      (Conflicts world agent trust channel intent) := by
  unfold settleBegun
  split
  · rename_i applied
    refine .pure fun publish => ?_
    rcases recovered with ⟨none, _⟩ | ⟨initial, initialValid, recovered, _⟩
    · simp [none] at applied
    · have same := sameIntent_of_intentID lawful intentValid initialValid
        (applied.2.symm.trans recovered.intentID)
      obtain ⟨_, kind, _, next, _⟩ := equalPublicationIntentSemantics_iff.mp same
      rw [next]
      exact recovered.applied (kind ▸ publish) applied.1
  rename_i notApplied
  split
  · -- The slot was empty: somebody else settled the intent.
    rename_i none
    obtain ⟨record, member, pending⟩ := began
    refine .bind (peaceful_weaken (loadPublicationJournal_meets valid) valid) valid ?_
    rintro (_ | ⟨loaded, loadedRevision⟩) log1 grown1 valid1 found
    · obtain ⟨middle, first, _, empty⟩ := found
      have present := mem_records_mono (grown.trans first) member
      simp [empty] at present
    obtain ⟨heldNow, middle, first, looked, since⟩ := found
    have middleValid := valid1.suffix since.suffix
    have settled : intent.kind = .publish → ∀ watermark, loaded.committed = some watermark →
        watermark.repositoryID = trust.referenceVerifier.repositoryID ∧
        Visible world.repository.wire log1 channel watermark ∧
        intent.next.generation ≤ watermark.generation := by
      intro publish watermark reached
      rcases recovered with ⟨_, early, start, inside, newest, head, idle⟩ | ⟨_, _, recovered, _⟩
      · obtain ⟨committed, at_, visible, above⟩ := settled_of_newest (valid.suffix inside)
          (mem_records_mono start member) pending publish head idle
        have later := follows_of_mem middleValid (mem_records_mono (inside.trans first)
          (List.mem_of_mem_head? head)) looked.newest
        obtain ⟨next, found, higher⟩ := later.generation_le at_
        obtain rfl : watermark = next := Option.some.inj (reached.symm.trans found)
        refine ⟨(heldNow.committedValid valid1 reached).1, ?_, above.trans higher⟩
        rw [at_, show (loaded, loadedRevision).1.committed = some watermark from reached] at later
        by_cases unmoved : committed = watermark
        · exact unmoved ▸ visible.mono (inside.trans grown1)
        · exact (later.visible fun same => unmoved (Option.some.inj same)).mono since.suffix
      · exact absurd none recovered.settled
    refine .bind (peaceful_weaken (.lift (classifyResolvedPublication_meets intentValid settled
      valid1) valid1) valid1) valid1 ?_
    intro resolved log2 grown2 valid2 classified
    refine .pure fun publish => ?_
    by_cases applied : resolved.outcome = .applied
    · simp only [applied, decide_true, if_true]
      exact classified.applied publish applied
    · simp only [applied, decide_false, Bool.false_eq_true, if_false]
      exact classified.unpublishable applied publish
  · rename_i notNone
    refine .pure fun publish => ?_
    simp only [Bool.false_eq_true, if_false]
    rcases recovered with ⟨none, _⟩ | ⟨initial, _, recovered, kept | disturbed⟩
    · exact absurd none notNone
    · have same := slot_of_begunBy begunBy publish kept
      obtain ⟨id, kind, _, next, _⟩ := equalPublicationIntentSemantics_iff.mp same
      rw [next]
      exact recovered.unpublishable
        (fun applied => notApplied ⟨applied, recovered.intentID.trans id.symm⟩) (kind ▸ publish)
    · exact .inr (.inl disturbed)

theorem commitSignedPublication_meets (lawful : world.repository.wire.Lawful)
    {staged : StagedSnapshot}
    (signed : SignedStaged world log agent.1 staged intent trust state revision)
    (begunBy : BegunBy world log staged.channel intent agent.2) (valid : Valid world.law log) :
    Action.Meets world.law agent (commitSignedPublication world.repository trust staged) log
      (fun _ later => intent.kind = .publish →
        Published world.repository.wire later (.signedReference staged.channel) intent.next.point)
      (Conflicts world agent trust staged.channel intent) := by
  unfold commitSignedPublication
  simp only [signed.stagedState, signed.stagedRevision, signed.stagedIntent]
  refine .failIf (fun stale => ?_) fun _ => ?_
  · simp [signed.idle, signed.base] at stale
  refine .bind (beginPublication_meets signed.configured signed.valid begunBy signed.held
    signed.idle signed.base (by simp) valid) valid ?_
  intro begun log1 grown1 valid1 began
  cases begun with
  | false =>
      simp only [Bool.false_eq_true, if_false] at began ⊢
      exact .pure began
  | true =>
      simp only [if_true] at began ⊢
      refine .bind (peaceful_weaken (recoverSigned_meets lawful signed.configured valid1) valid1)
        valid1 ?_
      intro recovery log2 grown2 valid2 recovered
      refine .bind (settleBegun_meets lawful signed.valid (begunBy.mono grown1) began grown2
        recovered valid2) valid2 ?_
      intro published log3 grown3 valid3 outcome
      refine .failIf (fun refused _ publish => ?_) fun accepted => ?_
      · simpa [refused] using outcome publish
      · exact .pure fun publish => by simpa [accepted] using outcome publish

end

end S3Disk
