import S3Disk.AncestrySafety
import S3Disk.JournalHistory
import S3Disk.Library.Footprint

/-! The contracts of the journal's operations: what a publisher holds after a read of
its journal, and that every update it makes is one of the journal's moves. -/

namespace S3Disk

open Concurrent

structure Held (log : Log) (trust : Trust) (channel : Channel) (state : PublicationJournalState)
    (revision : PublicationJournalRevision) : Prop where
  member : (state, revision) ∈ records log trust.publicationJournal channel
  own : state.repositoryID = trust.referenceVerifier.repositoryID

/-- The moment at which a publisher read its journal: the record was the newest, and
the slot was as the reader left it unless the call was disturbed. -/
structure Looked (agent : Nat × PublisherCall) (trust : Trust) (channel : Channel)
    (read : JournalRead) (log : Log) (state : PublicationJournalState)
    (revision : PublicationJournalRevision) : Prop where
  newest : (records log trust.publicationJournal channel).head? = some (state, revision)
  slot : SlotKept log agent.2 trust.publicationJournal channel state.pending read ∨
    Disturbed log agent

def Request.Reads (op : Request) : Prop := op.writes = false

section

variable {world : World} {agent : Nat × PublisherCall} {log later : Log} {trust : Trust}
  {channel : Channel} {state : PublicationJournalState} {revision : PublicationJournalRevision}

theorem Held.mono (held : Held log trust channel state revision) (grown : log <:+ later) :
    Held later trust channel state revision := ⟨mem_records_mono grown held.member, held.own⟩

theorem Held.stateValid (held : Held log trust channel state revision)
    (valid : Valid world.law log) : StateValid world.repository.wire state := by
  obtain ⟨_, _, _, _, _, _, _, _, stateValid, _⟩ := recordsWell_of_mem valid held.member
  exact stateValid

theorem Held.sameChannel (held : Held log trust channel state revision)
    (valid : Valid world.law log) : state.channel = channel := by
  obtain ⟨_, _, _, _, _, _, _, same, _⟩ := recordsWell_of_mem valid held.member
  exact same

theorem Held.pendingValid (held : Held log trust channel state revision)
    (valid : Valid world.law log) {intent : PublicationIntent}
    (pending : state.pending = some intent) :
    IntentValid world.repository.wire trust.referenceVerifier.repositoryID channel intent ∧
      intent.base = state.committed := by
  have checked := (held.stateValid valid).pending intent pending
  rw [held.own, held.sameChannel valid] at checked
  exact checked

theorem Held.committedValid (held : Held log trust channel state revision)
    (valid : Valid world.law log) {committed : Watermark} (found : state.committed = some committed) :
    committed.repositoryID = trust.referenceVerifier.repositoryID ∧ committed.generation ≠ 0 ∧
      committed.commit.isZero = false := by
  have checked := (held.stateValid valid).committed committed found
  rw [held.own] at checked
  exact validatePublicationJournalWatermark_ok.mp checked

theorem slotKept_congr {call : PublisherCall} {journal : Nat} {slot : Option PublicationIntent}
    {read : JournalRead} (same : records later journal channel = records log journal channel)
    (kept : SlotKept log call journal channel slot read) :
    SlotKept later call journal channel slot read := by
  cases read with
  | begin intent =>
      intro begun
      unfold Begun at begun
      rw [same] at begun
      exact kept begun
  | _ => exact kept

theorem journalLoad_meets {journal : Nat} {read : JournalRead} (valid : Valid world.law log) :
    Fallible.Meets world.law agent (journalLoad journal read channel) log
      (fun found later => found = (records later journal channel).head? ∧
        ∀ record, found = some record →
          SlotKept later agent.2 journal channel record.1.pending read ∨ Disturbed later agent)
      (Neutral agent) := by
  refine (read_meets (.loadJournal journal read channel) rfl id ?_).weaken valid ?_
    (fun _ _ _ _ neutral => neutral)
  · rintro answer error rfl
    rfl
  · rintro found later _ _ ⟨answer, older, rfl, _, _, served, rfl⟩
    have same : records (⟨agent.1, agent.2, .loadJournal journal read channel, .ok found, none⟩ ::
        older) journal channel = records older journal channel := by
      simp [records_cons, recordedState]
    refine ⟨by rw [same]; exact served.2, ?_⟩
    rintro ⟨state, revision⟩ rfl
    by_cases calm : Undisturbed older
        ⟨agent.1, agent.2, .loadJournal journal read channel, .ok (some (state, revision)), none⟩
    · exact .inl (slotKept_congr same calm.slot)
    · exact .inr ⟨_, older, List.suffix_refl _, rfl, rfl, calm⟩

theorem contextErr_uses : Fallible.Uses Request.Reads contextErr := .request rfl

theorem getManifest_uses {α : Type} {repository : Repository} {kind : Kind} {json : JSON α}
    {digest : Digest} : Fallible.Uses Request.Reads (repository.getManifest kind json digest) := by
  unfold Repository.getManifest Repository.getImmutable Repository.getImmutableLimited
  refine .bind ?_ fun data => .ofExcept
  refine .bind (.attempt (.request rfl)) ?_
  rintro (error | object)
  · exact .throw
  · exact .bind .ofExcept fun _ => .bind .failIf fun _ => .bind .failIf fun _ => .pure

theorem walkPublicationAncestry_uses {repository : Repository} {anchor : Watermark} {steps : Nat}
    {parent : Option Digest} :
    Fallible.Uses Request.Reads (walkPublicationAncestry repository anchor steps parent) := by
  induction steps generalizing parent with
  | zero => exact .failIf
  | succ steps ih =>
      unfold walkPublicationAncestry
      refine .bind contextErr_uses fun _ => ?_
      cases parent with
      | none => exact .throw
      | some digest =>
          refine .bind .failIf fun _ => ?_
          refine .bind (.attempt getManifest_uses) ?_
          rintro (error | ancestor)
          · exact .throw
          · exact .bind .ofExcept fun _ => ih

theorem validatePublicationDescendant_uses {repository : Repository}
    {reference : SnapshotReference} {commit : CommitManifest} {anchor : Watermark} :
    Fallible.Uses Request.Reads
      (validatePublicationDescendant repository reference commit anchor) :=
  .bind .failIf fun _ => .bind .failIf fun _ => walkPublicationAncestry_uses

theorem validateAgainstAnchor_uses {repository : Repository}
    {watermark checkpoint anchor : Watermark} :
    Action.Uses Request.Reads
      (validateAgainstAnchor repository channel watermark checkpoint anchor) := by
  unfold validateAgainstAnchor
  refine .bind .failIf fun _ => .bind .failIf fun _ => ?_
  split
  · exact .bind .failIf fun _ => .modify
  · refine .bind (.lift (.attempt getManifest_uses)) ?_
    rintro (error | commit)
    · exact .throw
    refine .bind .ofExcept fun _ => .bind (.lift (.attempt validatePublicationDescendant_uses)) ?_
    rintro (error | done)
    · exact .throw
    · exact .modify

theorem validateLoadedPublicationJournal_uses {repository : Repository} :
    Action.Uses Request.Reads (validateLoadedPublicationJournal repository trust channel state) := by
  unfold validateLoadedPublicationJournal
  refine .bind .ofExcept fun _ => .bind .failIf fun _ => ?_
  split
  · exact .pure
  · exact .throw
  · refine .bind .failIf fun _ => .bind .failIf fun _ => ?_
    unfold validatePublicationCheckpoint
    refine .bind .get fun memory => ?_
    split
    · exact validateAgainstAnchor_uses
    · refine .bind .failIf fun _ => .bind .failIf fun _ => ?_
      split
      · exact .pure
      · exact validateAgainstAnchor_uses

theorem validateAgainstAnchor_meets {watermark checkpoint anchor : Watermark}
    (valid : Valid world.law log) :
    Action.Meets world.law agent
      (validateAgainstAnchor world.repository channel watermark checkpoint anchor) log
      (fun _ _ => True) (Peaceful agent) := by
  unfold validateAgainstAnchor
  refine .failIf (fun _ => peaceful_tagged (by decide)) fun _ => ?_
  refine .failIf (fun _ => peaceful_error (by decide)) fun _ => ?_
  split
  · exact .failIf (fun _ => peaceful_error (by decide)) fun _ => .modify trivial
  · refine .attemptLift (getCommit_meets valid) valid ?_
    rintro (error | commit) log1 grown1 valid1 read
    · exact .throw (read.within _).peaceful
    refine .ofExcept (fun _ failed => (validateCommitManifest_neutral failed).peaceful)
      fun _ checked => ?_
    let reference : SnapshotReference :=
      ⟨objectFormatVersion, watermark.generation, watermark.commit⟩
    have holds : HoldsCommit world.repository.wire log1 reference.point commit := ⟨read, checked⟩
    refine .attemptLift (validatePublicationDescendant_meets holds valid1) valid1 ?_
    rintro (error | done) log2 grown2 valid2 descends
    · exact .throw (descends.peaceful.within _)
    · exact .modify trivial

theorem validateLoadedPublicationJournal_meets
    (stateValid : StateValid world.repository.wire state) (valid : Valid world.law log) :
    Action.Meets world.law agent
      (validateLoadedPublicationJournal world.repository trust channel state) log
      (fun _ _ => state.repositoryID = trust.referenceVerifier.repositoryID) (Peaceful agent) := by
  unfold validateLoadedPublicationJournal
  refine .ofExcept ?_ fun _ _ => ?_
  · intro error failed
    obtain ⟨cause, invalid, _⟩ := mapError_error.mp failed
    simp [validatePublicationJournalState_ok.mpr stateValid] at invalid
  refine .failIf (fun _ => peaceful_tagged (by decide)) fun identity => ?_
  simp only [not_or, not_not] at identity
  split
  · exact .pure identity.1
  · exact .throw (peaceful_tagged (by decide))
  · refine .failIf (fun _ => peaceful_error (by decide)) fun _ => ?_
    refine .failIf (fun _ => peaceful_error (by decide)) fun _ => ?_
    unfold validatePublicationCheckpoint
    refine .get fun memory => ?_
    split
    · exact (validateAgainstAnchor_meets valid).weaken valid (fun _ _ _ _ _ => identity.1)
        (fun _ _ _ _ peaceful => peaceful)
    · refine .failIf (fun _ => peaceful_error (by decide)) fun _ => ?_
      refine .failIf (fun _ => peaceful_error (by decide)) fun _ => ?_
      split
      · exact .pure identity.1
      · exact (validateAgainstAnchor_meets valid).weaken valid (fun _ _ _ _ _ => identity.1)
          (fun _ _ _ _ peaceful => peaceful)

/-- What a read of the journal found: nothing was recorded when it looked, or a state
that the publisher now holds, read at a moment since which it wrote nothing. -/
def LoadFound (agent : Nat × PublisherCall) (trust : Trust) (channel : Channel)
    (read : JournalRead) (log later : Log) :
    Option (PublicationJournalState × PublicationJournalRevision) → Prop
  | none => ∃ middle, log <:+ middle ∧ middle <:+ later ∧
      records middle trust.publicationJournal channel = []
  | some (state, revision) => Held later trust channel state revision ∧
      ∃ middle, log <:+ middle ∧ Looked agent trust channel read middle state revision ∧
        Since agent.1 Request.Reads middle later

theorem loadPublicationJournal_meets {read : JournalRead} (valid : Valid world.law log) :
    Action.Meets world.law agent
      (loadPublicationJournal world.repository trust read channel) log
      (fun found later => LoadFound agent trust channel read log later found)
      (Peaceful agent) := by
  unfold loadPublicationJournal
  refine .attemptLift (journalLoad_meets valid) valid ?_
  rintro (error | found) log1 grown1 valid1 loaded
  · exact .throw (loaded.within _).peaceful
  obtain ⟨newest, slot⟩ := loaded
  cases found with
  | none =>
      exact .pure ⟨log1, grown1, List.suffix_refl _, List.head?_eq_none_iff.mp newest.symm⟩
  | some record =>
      obtain ⟨state, revision⟩ := record
      have member : (state, revision) ∈ records log1 trust.publicationJournal channel :=
        List.mem_of_mem_head? newest.symm
      obtain ⟨_, _, _, _, _, _, _, _, stateValid, _⟩ := recordsWell_of_mem valid1 member
      refine .failIf (fun _ => peaceful_tagged (by decide)) fun _ => ?_
      refine .bind ((validateLoadedPublicationJournal_meets stateValid valid1).since
        validateLoadedPublicationJournal_uses (.refl _ log1) valid1) valid1 ?_
      rintro _ log2 grown2 valid2 ⟨own, since⟩
      exact .pure ⟨⟨mem_records_mono grown2 member, own⟩, log1, grown1,
        ⟨newest.symm, slot _ rfl⟩, since⟩

theorem compareAndSwapPublicationJournal_meets {expected : Option PublicationJournalRevision}
    (moves : ∀ later, log <:+ later → Valid world.law later →
      RevisionIs later trust.publicationJournal channel expected →
      RecordsWell world later agent trust.publicationJournal channel state)
    (valid : Valid world.law log) :
    Action.Meets world.law agent
      (compareAndSwapPublicationJournal trust channel expected state) log
      (fun revision later =>
        (records later trust.publicationJournal channel).head? = some (state, revision))
      (Neutral agent) := by
  have requested : Fallible.Meets world.law agent
      (journalCompareAndSwap trust.publicationJournal channel expected state) log
      (fun revision later =>
        (records later trust.publicationJournal channel).head? = some (state, revision))
      (Neutral agent) := by
    refine ask_meets ?_
    intro later interferes laterValid answer effect served
    refine ⟨⟨by simp, by simp, ?_, ?_⟩, ?_⟩
    · rintro key object rfl
      rcases served with ⟨none, _⟩ | ⟨revision, recorded, _⟩
      · cases none
      · cases recorded
    · rintro journal name next revision rfl
      obtain ⟨condition, holds, _, same⟩ := serves_recorded served
      cases same
      exact moves later interferes.suffix laterValid holds
    · cases answer with
      | error error => exact neutral_of_report rfl
      | ok revision =>
          rcases served with ⟨_, error, failed⟩ | ⟨recorded, rfl, _, _, reported⟩
          · cases failed
          · obtain rfl := reported revision rfl
            have newest : recordedState trust.publicationJournal channel
                (some (.recorded trust.publicationJournal channel state revision)) =
                  some (state, revision) := recordedState_some.mpr rfl
            exact Eq.trans (by rw [records_cons, newest]; rfl) rfl
  unfold compareAndSwapPublicationJournal
  refine .bindLift requested valid ?_
  intro revision log1 grown1 valid1 newest
  exact .failIf (fun _ => neutral_tagged (by decide)) fun _ => .pure newest

theorem swapHeld_meets {next : PublicationJournalState}
    (configured : (world.publisher agent.1).trust = some trust)
    (held : Held log trust channel state revision)
    (nextValid : StateValid world.repository.wire next)
    (sameRepository : next.repositoryID = state.repositoryID)
    (sameChannel : next.channel = state.channel)
    (move : Move world log agent trust channel (some state) next) (valid : Valid world.law log) :
    Action.Meets world.law agent
      (compareAndSwapPublicationJournal trust channel (some revision) next) log
      (fun newRevision later => Held later trust channel next newRevision ∧
        (records later trust.publicationJournal channel).head? = some (next, newRevision))
      (Neutral agent) := by
  refine (compareAndSwapPublicationJournal_meets ?_ valid).weaken valid ?_
    (fun _ _ _ _ neutral => neutral)
  · rintro later grown laterValid ⟨current, newest⟩
    have same := state_eq_of_revision laterValid (List.mem_of_mem_head? newest)
      (mem_records_mono grown held.member)
    subst same
    refine ⟨trust, configured, rfl, sameRepository.trans held.own,
      sameChannel.trans (held.sameChannel valid), nextValid, ?_⟩
    rw [newest]
    exact move.mono grown
  · intro newRevision later _ _ newest
    exact ⟨⟨List.mem_of_mem_head? newest, sameRepository.trans held.own⟩, newest⟩

theorem initialPublicationState_valid (named : validateChannel channel = .ok ()) :
    StateValid world.repository.wire (initialPublicationState trust channel) where
  repositoryID := by
    have nonzero := trust.nonzero
    rw [trust.sameRepository] at nonzero
    exact nonzero
  channel := named
  committed checkpoint found :=
    validatePublicationJournalWatermark_ok.mpr (trust.checkpointValid checkpoint found)
  pending _ impossible := by cases impossible

theorem loadOrInitializePublicationJournal_meets
    (configured : (world.publisher agent.1).trust = some trust)
    (named : validateChannel channel = .ok ()) (valid : Valid world.law log) :
    Action.Meets world.law agent
      (loadOrInitializePublicationJournal world.repository trust channel) log
      (fun found later => Held later trust channel found.1 found.2 ∧
        ∃ middle, log <:+ middle ∧ middle <:+ later ∧
          Looked agent trust channel .load middle found.1 found.2)
      (Peaceful agent) := by
  unfold loadOrInitializePublicationJournal
  refine .bind (loadPublicationJournal_meets valid) valid ?_
  rintro (_ | ⟨state, revision⟩) log1 grown1 valid1 found
  · refine .failIf (fun _ => peaceful_error (by decide)) fun _ => ?_
    have starts : Action.Meets world.law agent
        (compareAndSwapPublicationJournal trust channel none
          (initialPublicationState trust channel)) log1
        (fun revision later => (records later trust.publicationJournal channel).head? =
          some (initialPublicationState trust channel, revision)) (Neutral agent) := by
      refine compareAndSwapPublicationJournal_meets ?_ valid1
      intro later _ _ empty
      refine ⟨trust, configured, rfl, rfl, rfl, initialPublicationState_valid named, ?_⟩
      rw [show records later trust.publicationJournal channel = [] from empty]
      exact .start
    refine .attempt starts valid1 ?_
    rintro (casErr | revision) log2 grown2 valid2 swapped
    · refine .failIf (fun _ => swapped.peaceful) fun _ => ?_
      refine .attempt (loadPublicationJournal_meets valid2) valid2 ?_
      rintro (loadErr | _ | ⟨state, revision⟩) log3 grown3 valid3 reloaded
      · exact .throw ((swapped.peaceful.mono grown3).twice reloaded _ _)
      · exact .throw ((swapped.peaceful.mono grown3).within _)
      · obtain ⟨held, middle, grown, looked, since⟩ := reloaded
        exact .pure ⟨held, middle, (grown1.trans grown2).trans grown, since.suffix,
          looked.newest, looked.slot⟩
    · exact .bindModify (.pure ⟨⟨List.mem_of_mem_head? swapped, rfl⟩, log2, grown1.trans grown2,
        List.suffix_refl _, swapped, .inl fun _ _ _ _ _ impossible => by cases impossible⟩)
  · obtain ⟨held, middle, grown, looked, since⟩ := found
    exact .failIf (fun _ => peaceful_error (by decide)) fun _ =>
      .pure ⟨held, middle, grown, since.suffix, looked⟩

theorem validatePendingPublication_meets {intent : PublicationIntent}
    (intentValid : IntentValid world.repository.wire trust.referenceVerifier.repositoryID channel
      intent) (valid : Valid world.law log) :
    Fallible.Meets world.law agent
      (validatePendingPublication world.repository trust channel intent) log
      (fun target later => TargetHeld world later trust channel intent target)
      (Peaceful agent) := by
  unfold validatePendingPublication
  refine .ofExcept ?_ fun _ _ => ?_
  · intro error failed
    obtain ⟨cause, invalid, _⟩ := mapError_error.mp failed
    simp [validatePublicationJournalIntent_ok.mpr intentValid] at invalid
  refine .attempt (verifySignedSnapshotReference_meets valid) valid ?_
  rintro (error | reference) log1 grown1 valid1 verified
  · exact .throw (verified.within _).peaceful
  refine .failIf (fun _ => peaceful_tagged (by decide)) fun _ => ?_
  refine .attempt (readPublicationCommit_meets valid1) valid1 ?_
  rintro (error | commit) log2 grown2 valid2 holds
  · exact .throw (holds.within _).peaceful
  refine .ofExcept (fun _ => checkPendingParent_peaceful) fun _ checked => ?_
  exact .pure ⟨intentValid, commit, holds, rfl, checkPendingParent_ok checked⟩

theorem publicationReferenceDigest_nonzero (lawful : world.repository.wire.Lawful) {data : Bytes}
    (nonempty : data ≠ []) :
    (publicationReferenceDigest world.repository.wire data).isZero = false := by
  simp only [publicationReferenceDigest, nonempty, if_false]
  exact lawful.nonzero _ _

theorem IntentValid.observe (lawful : world.repository.wire.Lawful) {repositoryID : RepositoryID}
    {intent : PublicationIntent} {client : Nat} {remote : Watermark} {object : Object}
    (intentValid : IntentValid world.repository.wire repositoryID channel intent)
    (based : intent.base ≠ none) (read : SignedRead world log client channel remote object) :
    IntentValid world.repository.wire repositoryID channel
      { intent with
        expectedVersion := some object.version
        expectedReference := publicationReferenceDigest world.repository.wire object.data } where
  next := intentValid.next
  expectedReference := by
    obtain ⟨base, found⟩ := Option.ne_none_iff_exists'.mp based
    have checked := intentValid.expectedReference
    simp only [validateExpectedReference, found, bind_ok, failIf_ok] at checked ⊢
    obtain ⟨_, watermark, _⟩ := checked
    exact ⟨(), watermark, by simp [publicationReferenceDigest_nonzero lawful read.nonempty]⟩
  expectedVersion := by
    obtain ⟨nonempty, short, shortID⟩ := read.version
    simp [validateExpectedVersion, nonempty, short, shortID]
  advance := intentValid.advance
  size := intentValid.size
  reference := intentValid.reference
  intentID := intentValid.intentID

theorem refreshPublicationObservation_meets (lawful : world.repository.wire.Lawful)
    {pending : PublicationIntent} {remote : Watermark} {object : Object}
    (configured : (world.publisher agent.1).trust = some trust)
    (held : Held log trust channel state revision) (owned : state.pending = some pending)
    (read : SignedRead world log agent.1 channel remote object) (valid : Valid world.law log) :
    Action.Meets world.law agent
      (refreshPublicationObservation world.repository trust channel state revision object) log
      (fun found later => Held later trust channel found.1 found.2 ∧
        ∃ current, found.1.pending = some current ∧
          equalPublicationIntentSemantics pending current = true)
      (Peaceful agent) := by
  unfold refreshPublicationObservation
  simp only [owned]
  refine .failIf (fun _ => peaceful_tagged (by decide)) fun based => ?_
  refine .failIf (fun _ => peaceful_tagged (by decide)) fun _ => ?_
  split
  · exact .pure ⟨held, pending, owned, equalPublicationIntentSemantics_refl pending⟩
  obtain ⟨intentValid, base⟩ := held.pendingValid valid owned
  have stateValid := held.stateValid valid
  have desiredValid : StateValid world.repository.wire
      { state with pending := some { pending with
          expectedVersion := some object.version
          expectedReference :=
            publicationReferenceDigest world.repository.wire object.data } } := by
    refine ⟨stateValid.repositoryID, stateValid.channel, stateValid.committed, ?_⟩
    rintro found ⟨⟩
    refine ⟨?_, base⟩
    rw [held.own, held.sameChannel valid]
    exact intentValid.observe lawful based read
  refine .attempt (swapHeld_meets configured held desiredValid rfl rfl (.refresh owned) valid)
    valid ?_
  rintro (casErr | newRevision) log1 grown1 valid1 swapped
  · refine .failIf (fun _ => swapped.peaceful) fun _ => ?_
    refine .attempt (loadPublicationJournal_meets valid1) valid1 ?_
    rintro (loadErr | _ | ⟨loaded, loadedRevision⟩) log2 grown2 valid2 reloaded
    · exact .throw ((swapped.peaceful.mono grown2).twice reloaded _ _)
    · exact .throw (peaceful_tagged (by decide))
    · obtain ⟨heldNow, middle, grown, looked, since⟩ := reloaded
      -- A changed slot is what the read of this site calls a disturbance.
      have disturbed : loaded.pending ≠ some { pending with
          expectedVersion := some object.version
          expectedReference := publicationReferenceDigest world.repository.wire object.data } →
          Disturbed log2 agent := by
        intro changed
        rcases looked.slot with kept | disturbed
        · exact absurd kept changed
        · exact disturbed.mono since.suffix
      refine .failIf (fun changed _ => disturbed ?_) fun kept => ?_
      · intro same
        have differs := changed _ same
        simp [equalPublicationIntentSemantics] at differs
      refine .failIf (fun changed _ => disturbed ?_) fun _ => ?_
      · intro same
        have differs := changed _ same
        simp [equalPublicationIntents] at differs
      simp only [not_forall, Bool.not_eq_false] at kept
      obtain ⟨current, found, same⟩ := kept
      exact .pure ⟨heldNow, current, found, same⟩
  · exact .pure ⟨swapped.1, _, rfl, equalPublicationIntentSemantics_iff.mpr ⟨rfl, rfl, rfl, rfl, rfl⟩⟩

theorem reloadPublicationRecovery_meets {initial : PublicationIntent} (valid : Valid world.law log) :
    Action.Meets world.law agent
      (reloadPublicationRecovery world.repository trust channel initial) log
      (fun found later => Held later trust channel found.1 found.2 ∧
        (∃ middle, log <:+ middle ∧ middle <:+ later ∧
          (records middle trust.publicationJournal channel).head? = some found) ∧
        ∀ pending, found.1.pending = some pending →
          equalPublicationIntentSemantics initial pending = true)
      (Peaceful agent) := by
  unfold reloadPublicationRecovery
  refine .bind (loadPublicationJournal_meets valid) valid ?_
  rintro (_ | ⟨state, revision⟩) log1 grown1 valid1 found
  · exact .throw (peaceful_tagged (by decide))
  obtain ⟨held, middle, grown, looked, since⟩ := found
  refine .failIf ?_ fun same => ?_
  · rintro ⟨other, found, differs⟩ _
    rcases looked.slot with kept | disturbed
    · simp [kept other found] at differs
    · exact disturbed.mono since.suffix
  · refine .pure ⟨held, ⟨middle, grown, since.suffix, looked.newest⟩, ?_⟩
    intro pending found
    simpa using fun differs => same ⟨pending, found, differs⟩

theorem finalizePublication_meets {intent : PublicationIntent} {committed : Watermark}
    {snapshot : Snapshot} {outcome : PublicationRecoveryOutcome}
    (configured : (world.publisher agent.1).trust = some trust)
    (held : Held log trust channel state revision) (owned : state.pending = some intent)
    (visible : Visible world.repository.wire log channel committed)
    (advances : Advances world.repository.wire log state.committed committed)
    (settles : Settles world log agent.1 channel intent committed)
    (own : committed.repositoryID = trust.referenceVerifier.repositoryID ∧
      committed.generation ≠ 0 ∧ committed.commit.isZero = false)
    (valid : Valid world.law log) :
    Action.Meets world.law agent
      (finalizePublication world.repository trust state revision committed snapshot outcome) log
      (fun result _ => result = ⟨outcome, intent.intentID, some snapshot⟩)
      (Peaceful agent) := by
  obtain rfl := held.sameChannel valid
  unfold finalizePublication
  simp only [owned]
  refine .failIf (fun _ => peaceful_tagged (by decide)) fun _ => ?_
  have stateValid := held.stateValid valid
  have desiredValid : StateValid world.repository.wire
      { state with committed := some committed, pending := none } := by
    refine ⟨stateValid.repositoryID, stateValid.channel, ?_, fun _ impossible => by cases impossible⟩
    rintro found ⟨⟩
    rw [held.own]
    exact validatePublicationJournalWatermark_ok.mpr own
  refine .attempt (swapHeld_meets configured held desiredValid rfl rfl
    (.finalize owned visible advances settles) valid) valid ?_
  rintro (casErr | newRevision) log1 grown1 valid1 swapped
  · refine .failIf (fun _ => swapped.peaceful) fun _ => ?_
    refine .attempt (loadPublicationJournal_meets valid1) valid1 ?_
    rintro (loadErr | loaded) log2 grown2 valid2 reloaded
    · exact .throw ((swapped.peaceful.mono grown2).twice reloaded _ _)
    · exact .failIf (fun _ => ((swapped.peaceful.mono grown2).within _).wraps (by decide))
        fun _ => .pure rfl
  · exact .pure rfl

end

end S3Disk
