import S3Disk.RecoveryLoopSafety

/-! Staging is safe, and what it leaves to be committed is fit to be committed: the
commit is stored below all it names, and its reference follows the one observed. -/

namespace S3Disk

open Concurrent

/-- An unsigned snapshot that was staged: its reference names a stored commit, over the
reference it replaces or as the first one. -/
structure PlainStaged (world : World) (log : Log) (client : Nat) (staged : StagedSnapshot) :
    Prop where
  unsigned : (world.publisher client).trust = none
  asserted : pointOf world.repository.wire (.reference staged.channel) staged.referenceData =
    some staged.snapshot.point
  line : match staged.expected with
    | none => PointRoot world.repository.wire log staged.snapshot.point
    | some version => ∃ object ∈ versions log (.reference staged.channel),
        object.version = version ∧ ∃ parent,
          pointOf world.repository.wire (.reference staged.channel) object.data = some parent ∧
          PointParent world.repository.wire log staged.snapshot.point parent

/-- A staged publication of a signed publisher: a checked intent over a state that the
publisher held with an empty slot. -/
structure SignedStaged (world : World) (log : Log) (client : Nat) (staged : StagedSnapshot)
    (intent : PublicationIntent) (trust : Trust) (state : PublicationJournalState)
    (revision : PublicationJournalRevision) : Prop where
  configured : (world.publisher client).trust = some trust
  stagedState : staged.publicationState = some state
  stagedRevision : staged.publicationRevision = some revision
  stagedIntent : staged.publicationIntent = some intent
  held : Held log trust staged.channel state revision
  idle : state.pending = none
  base : state.committed = intent.base
  valid : IntentValid world.repository.wire trust.referenceVerifier.repositoryID staged.channel intent
  target : staged.snapshot.point = intent.next.point

structure StagedOk (world : World) (log : Log) (client : Nat) (staged : StagedSnapshot) : Prop where
  publisher : staged.publisher = client
  channel : staged.channel ≠ []
  changed : staged.unchanged = false →
    (staged.publicationIntent = none ∧ PlainStaged world log client staged) ∨
    ∃ intent trust state revision, intent.kind = .publish ∧
      SignedStaged world log client staged intent trust state revision

def JournalHeld (world : World) (log : Log) (client : Nat) (channel : Channel) :
    Option Journaled → Prop
  | none => (world.publisher client).trust = none
  | some journal => (world.publisher client).trust = some journal.trust ∧
      Held log journal.trust channel journal.state journal.revision ∧
      journal.state.pending = none

def CurrentHeld (world : World) (log : Log) (client : Nat) (channel : Channel)
    (journal : Option Journaled) : Option CurrentPublication → Prop
  | none => ∀ held ∈ journal, held.state.committed = none
  | some current =>
      HoldsCommit world.repository.wire log current.reference.point current.commit ∧
      match journal with
      | none => PlainRead world.repository.wire log channel current.reference current.object
      | some held =>
          SignedRead world log client channel (watermarkOf held.trust current.reference)
            current.object ∧
          held.state.committed = some (watermarkOf held.trust current.reference)

section

variable {world : World} {agent : Nat × PublisherCall} {log later : Log} {channel : Channel}
  {client : Nat}

theorem PlainStaged.mono {staged : StagedSnapshot} (plain : PlainStaged world log client staged)
    (grown : log <:+ later) : PlainStaged world later client staged where
  unsigned := plain.unsigned
  asserted := plain.asserted
  line := by
    have line := plain.line
    cases expected : staged.expected with
    | none =>
        simp only [expected] at line
        exact line.mono grown
    | some version =>
        simp only [expected] at line
        obtain ⟨object, member, same, parent, asserted, child⟩ := line
        exact ⟨object, mem_versions_mono grown member, same, parent, asserted, child.mono grown⟩

theorem SignedStaged.mono {staged : StagedSnapshot} {intent : PublicationIntent} {trust : Trust}
    {state : PublicationJournalState} {revision : PublicationJournalRevision}
    (signed : SignedStaged world log client staged intent trust state revision)
    (grown : log <:+ later) : SignedStaged world later client staged intent trust state revision :=
  { signed with held := signed.held.mono grown }

theorem StagedOk.mono {staged : StagedSnapshot} (ok : StagedOk world log client staged)
    (grown : log <:+ later) : StagedOk world later client staged where
  publisher := ok.publisher
  channel := ok.channel
  changed isChanged := by
    rcases ok.changed isChanged with ⟨unsigned, plain⟩ |
      ⟨intent, trust, state, revision, publish, signed⟩
    · exact .inl ⟨unsigned, plain.mono grown⟩
    · exact .inr ⟨intent, trust, state, revision, publish, signed.mono grown⟩

theorem JournalHeld.mono {journal : Option Journaled}
    (held : JournalHeld world log client channel journal) (grown : log <:+ later) :
    JournalHeld world later client channel journal := by
  cases journal with
  | none => exact held
  | some found => exact ⟨held.1, held.2.1.mono grown, held.2.2⟩

theorem PlainRead.mono {wire : Wire} {reference : SnapshotReference} {object : Object}
    (read : PlainRead wire log channel reference object) (grown : log <:+ later) :
    PlainRead wire later channel reference object :=
  { read with member := mem_versions_mono grown read.member }

theorem CurrentHeld.mono {journal : Option Journaled} {current : Option CurrentPublication}
    (held : CurrentHeld world log client channel journal current) (grown : log <:+ later) :
    CurrentHeld world later client channel journal current := by
  cases current with
  | none => exact held
  | some found =>
      cases journal with
      | none => exact ⟨held.1.mono grown, held.2.mono grown⟩
      | some trusted => exact ⟨held.1.mono grown, held.2.1.mono grown, held.2.2⟩

theorem captureProtected_meets {files : List ProtectedSourceFile} {index : Nat}
    {identities : List FileInfo} (valid : Valid world.law log) :
    Action.Meets world.law agent (captureProtected files index identities) log
      (fun _ _ => True) (fun _ _ => True) := by
  induction files generalizing index identities log with
  | nil => exact .pure trivial
  | cons guarded rest ih =>
      unfold captureProtected
      refine .bindLift (any_meets _ rfl _) valid ?_
      intro _ log1 grown1 valid1 _
      refine .attemptLift (any_meets _ rfl _) valid1 ?_
      rintro (error | linked) log2 grown2 valid2 _
      · refine .get fun memory => ?_
        refine .failIf (fun _ => trivial) fun _ => ?_
        exact .failIf (fun _ => trivial) fun _ => ih valid2
      refine .bindModify (.failIf (fun _ => trivial) fun _ => ?_)
      refine .attemptLift (any_meets _ rfl _) valid2 ?_
      rintro (error | handle) log4 grown4 valid4 _
      · exact .throw trivial
      refine .attemptLift (any_meets _ rfl _) valid4 ?_
      intro statted log5 grown5 valid5 _
      refine .attemptLift (any_meets _ rfl _) valid5 ?_
      intro listed log6 grown6 valid6 _
      rcases statted with error | opened
      · exact .throw trivial
      rcases listed with error | current
      · exact .throw trivial
      exact .failIf (fun _ => trivial) fun _ => ih valid6

theorem openSource_meets {source : Bytes} (valid : Valid world.law log) :
    Fallible.Meets world.law agent (openSource world.repository source channel) log
      (fun _ _ => validateChannel channel = .ok ()) (fun _ _ => True) := by
  unfold openSource
  refine .bind (any_meets _ rfl _) valid ?_
  intro _ log1 grown1 valid1 _
  refine .ofExcept (fun _ _ => trivial) fun _ checked => ?_
  have named := repositoryValidateChannel_ok checked
  refine .attempt (any_meets _ rfl _) valid1 ?_
  rintro (error | found) log2 grown2 valid2 _
  · exact .throw trivial
  refine .bind (any_meets _ rfl _) valid2 ?_
  intro _ log3 grown3 valid3 _
  refine .attempt (any_meets _ rfl _) valid3 ?_
  rintro (error | info) log4 grown4 valid4 _
  · exact .throw trivial
  refine .failIf (fun _ => trivial) fun _ => ?_
  refine .bind (any_meets _ rfl _) valid4 ?_
  intro _ log5 grown5 valid5 _
  refine .attempt (any_meets _ rfl _) valid5 ?_
  rintro (error | sourceRoot) log6 grown6 valid6 _
  · exact .throw trivial
  refine .attempt (any_meets _ rfl _) valid6 ?_
  rintro (error | rootHandle) log7 grown7 valid7 _
  · exact .throw trivial
  refine .attempt (any_meets _ rfl _) valid7 ?_
  intro statted log8 grown8 valid8 _
  refine .attempt (any_meets _ rfl _) valid8 ?_
  intro closed log9 grown9 valid9 _
  rcases statted with error | rootInfo
  · exact .throw trivial
  rcases closed with error | done
  · exact .throw trivial
  exact .failIf (fun _ => trivial) fun _ => .pure named

theorem prepareJournal_meets (lawful : world.repository.wire.Lawful)
    (named : validateChannel channel = .ok ()) (valid : Valid world.law log) :
    Action.Meets world.law agent (prepareJournal (world.publisher agent.1) channel) log
      (fun journal later => JournalHeld world later agent.1 channel journal) (fun _ _ => True) := by
  unfold prepareJournal
  cases configured : (world.publisher agent.1).trust with
  | none => exact .pure configured
  | some trust =>
      refine .bind ((preparePublicationJournal_meets lawful configured named valid).lenient valid)
        valid ?_
      rintro ⟨state, revision⟩ log1 grown1 valid1 ⟨held, idle⟩
      exact .pure ⟨configured, held, idle⟩

theorem observeCurrent_meets {journal : Option Journaled}
    (held : JournalHeld world log agent.1 channel journal) (valid : Valid world.law log) :
    Action.Meets world.law agent
      (observeCurrent (world.publisher agent.1) channel journal) log
      (fun observed later => JournalHeld world later agent.1 channel observed.2 ∧
        CurrentHeld world later agent.1 channel observed.2 observed.1)
      (fun _ _ => True) := by
  unfold observeCurrent
  -- The read is signed exactly when there is a journal.
  have reads : Fallible.Meets world.law agent
      (world.repository.getReferenceWithVerifier channel [] (world.publisher agent.1).verifier) log
      (fun found later => match journal with
        | none => PlainRead world.repository.wire later channel found.1 found.2
        | some trusted => SignedRead world later agent.1 channel (watermarkOf trusted.trust found.1)
            found.2)
      (fun _ _ => True) := by
    cases journal with
    | none =>
        have unsigned : (world.publisher agent.1).trust = none := held
        simp only [Publisher.verifier, unsigned, Option.map_none]
        exact (getReference_plain valid).lenient valid
    | some trusted =>
        simp only [Publisher.verifier, held.1, Option.map_some]
        exact (getReference_signed valid).lenient valid
  refine .attemptLift reads valid ?_
  rintro (error | ⟨reference, object⟩) log1 grown1 valid1 read
  · refine .failIf (fun _ => trivial) fun _ => ?_
    refine .failIf (fun _ => trivial) fun empty => ?_
    refine .pure ⟨held.mono grown1, ?_⟩
    intro trusted member
    simpa using fun committed => empty ⟨trusted, member, committed⟩
  refine .attemptLift ((getCommit_meets valid1).lenient valid1) valid1 ?_
  rintro (error | commit) log2 grown2 valid2 found
  · exact .throw trivial
  refine .ofExcept (fun _ _ => trivial) fun _ checked => ?_
  have holds : HoldsCommit world.repository.wire log2 reference.point commit :=
    ⟨found, mapError_ok.mp checked⟩
  have held2 := held.mono (grown1.trans grown2)
  have accepts : Action.Meets world.law agent
      (acceptJournal world.repository channel reference commit journal) log2
      (fun accepted later => JournalHeld world later agent.1 channel accepted ∧
        CurrentHeld world later agent.1 channel accepted (some ⟨reference, object, commit⟩))
      (fun _ _ => True) := by
    cases journal with
    | none =>
        have plain : PlainRead world.repository.wire log1 channel reference object := read
        exact .pure ⟨held2, holds, plain.mono grown2⟩
    | some trusted =>
        have signed : SignedRead world log1 agent.1 channel (watermarkOf trusted.trust reference)
            object := read
        unfold acceptJournal
        refine .attempt (acceptObservedPublication_meets held2.1 held2.2.1 (signed.mono grown2)
          holds valid2) valid2 ?_
        rintro (error | ⟨state, revision⟩) log3 grown3 valid3 accepted
        · exact .throw trivial
        · exact .pure ⟨⟨held2.1, accepted.1, accepted.2.1⟩, holds.mono grown3,
            signed.mono (grown2.trans grown3), accepted.2.2⟩
  refine .bind accepts valid2 ?_
  intro accepted log3 grown3 valid3 both
  exact .failIf (fun _ => trivial) fun _ => .pure both

theorem buildSource_meets (lawful : world.repository.wire.Lawful)
    {publisher : Publisher world.repository} {source : Bytes} {info : FileInfo} {sourceRoot : Nat}
    {selection : Option PathSelection} {secured : List FileInfo} (valid : Valid world.law log) :
    Fallible.Meets world.law agent
      (buildSource publisher source info sourceRoot selection secured) log
      (fun root later => versions later (.object .dir root) ≠ []) (fun _ _ => True) := by
  unfold buildSource
  refine .bind (buildDirectorySelection_meets lawful valid) valid ?_
  intro root log1 grown1 valid1 uploaded
  refine .attempt (any_meets _ rfl _) valid1 ?_
  rintro (error | current) log2 grown2 valid2 _
  · exact .throw trivial
  · exact .failIf (fun _ => trivial) fun _ => .pure (versions_nonempty_mono grown2 uploaded)

theorem hasCommit_of_put (lawful : world.repository.wire.Lawful) {commit : CommitManifest}
    (valid : Valid world.law log)
    (small : (world.repository.wire.commit.marshal commit).length ≤ maxMetadataObjectBytes)
    (stored : versions log (.object .commit (world.repository.wire.digestObject .commit
      (world.repository.wire.commit.marshal commit))) ≠ []) :
    HasCommit world.repository.wire log (world.repository.wire.digestObject .commit
      (world.repository.wire.commit.marshal commit)) commit := by
  obtain ⟨object, member⟩ := List.exists_mem_of_ne_nil _ stored
  obtain ⟨_, _, hashed, _⟩ := storesWell_of_mem valid member
  have same := (lawful.injective _ _ _ _ hashed).2
  refine ⟨object, member, hashed, ?_⟩
  rw [same]
  exact decodeJSON_marshal lawful.commit small

theorem putCommit_meets (lawful : world.repository.wire.Lawful) {commit : CommitManifest}
    (root : versions log (.object .dir commit.root) ≠ [])
    (parents : ∀ parent ∈ commit.parent, versions log (.object .commit parent) ≠ [])
    (valid : Valid world.law log) :
    Fallible.Meets world.law agent
      (world.repository.putManifest .commit world.repository.wire.commit commit) log
      (fun digest later => HasCommit world.repository.wire later digest commit)
      (fun _ _ => True) := by
  have children : (world.repository.wire.commit.marshal commit).length ≤ maxMetadataObjectBytes →
      ChildrenStored world.repository.wire log
        (world.repository.wire.commit.marshal commit) .commit := by
    intro small
    refine ⟨(.dir, commit.root) :: commit.parent.toList.map fun parent => (.commit, parent),
      by simp [named, decodeJSON_marshal lawful.commit small, Except.toOption], ?_⟩
    simpa using ⟨root, parents⟩
  refine (putManifest_meets valid children).weaken valid ?_ (fun _ _ _ _ _ => trivial)
  rintro digest later _ laterValid ⟨rfl, small, stored⟩
  exact hasCommit_of_put lawful laterValid small stored

theorem signSnapshotReference_meets {wire : Wire} {reference : SnapshotReference}
    {signer : ReferenceSigner} {verifier : ReferenceVerifier} (valid : Valid world.law log) :
    Fallible.Meets world.law agent
      (signSnapshotReference wire channel reference signer verifier) log
      (fun data _ => signer.repositoryID = verifier.repositoryID ∧
        validateReferenceKeyID signer.keyID = .ok () ∧
        ∃ signature, signature ≠ [] ∧ signature.length ≤ maxReferenceSignatureSize ∧
          data = wire.envelope.marshal ⟨objectFormatVersion,
            ⟨objectFormatVersion, signer.repositoryID, channel, reference.generation,
              reference.commit, signer.keyID⟩, signature⟩)
      (fun _ _ => True) := by
  unfold signSnapshotReference
  refine .failIf (fun _ => trivial) fun matched => ?_
  refine .ofExcept (fun _ _ => trivial) fun _ keyed => ?_
  refine .attempt (any_meets _ rfl _) valid ?_
  rintro (error | signature) log1 grown1 valid1 _
  · exact .throw trivial
  refine .failIf (fun _ => trivial) fun sized => ?_
  refine .attempt (any_meets _ rfl _) valid1 ?_
  rintro (error | done) log2 grown2 valid2 _
  · exact .throw trivial
  simp only [not_or, not_not] at matched
  simp only [not_or, Nat.not_lt] at sized
  exact .pure ⟨matched.2, keyed, signature, sized.1, sized.2, rfl⟩

theorem referenceBytes_meets {reference : SnapshotReference} (valid : Valid world.law log) :
    Fallible.Meets world.law agent
      (referenceBytes (world.publisher agent.1) channel reference) log
      (fun data _ => (world.publisher agent.1).trust = none →
        data = world.repository.wire.reference.marshal reference)
      (fun _ _ => True) := by
  unfold referenceBytes
  cases configured : (world.publisher agent.1).trust with
  | none => exact .pure fun _ => rfl
  | some trust =>
      exact (signSnapshotReference_meets valid).weaken valid
        (fun _ _ _ _ _ impossible => by cases impossible) (fun _ _ _ _ _ => trivial)

theorem checkedIntent_some {repository : Repository} {reference : SnapshotReference}
    {referenceData : Bytes} {current : Option CurrentPublication} {journal : Option Journaled}
    {intent : Option PublicationIntent}
    (checked : checkedIntent repository channel reference referenceData current journal =
      .ok intent) :
    match journal with
    | none => intent = none
    | some held => intent = some (stagedIntent repository channel reference referenceData current
        held) ∧ IntentValid repository.wire held.trust.referenceVerifier.repositoryID channel
          (stagedIntent repository channel reference referenceData current held) := by
  cases journal with
  | none => exact (Except.ok.inj checked).symm
  | some held =>
      simp only [checkedIntent] at checked
      split at checked
      · cases checked
      · rename_i valid
        exact ⟨(Except.ok.inj checked).symm, validatePublicationJournalIntent_ok.mp valid⟩

theorem stageCommit_meets (lawful : world.repository.wire.Lawful)
    {current : Option CurrentPublication} {journal : Option Journaled} {root : Digest}
    (named : channel ≠ []) (held : JournalHeld world log agent.1 channel journal)
    (observed : CurrentHeld world log agent.1 channel journal current)
    (stored : versions log (.object .dir root) ≠ []) (valid : Valid world.law log) :
    Fallible.Meets world.law agent
      (stageCommit (world.publisher agent.1) agent.1 channel current journal root) log
      (fun staged later => StagedOk world later agent.1 staged) (fun _ _ => True) := by
  unfold stageCommit
  refine .bind (any_meets _ rfl _) valid ?_
  intro publishedAt log1 grown1 valid1 _
  have parents : ∀ parent ∈ current.map (·.reference.commit),
      versions log1 (.object .commit parent) ≠ [] := by
    intro parent member
    cases current with
    | none => cases member
    | some found =>
        cases member
        obtain ⟨object, stored, _⟩ := (observed.mono grown1).1.held
        exact List.ne_nil_of_mem stored
  refine .bind (putCommit_meets lawful (versions_nonempty_mono grown1 stored) parents valid1)
    valid1 ?_
  intro commitDigest log2 grown2 valid2 committed
  refine .bind (referenceBytes_meets valid2) valid2 ?_
  intro referenceData log3 grown3 valid3 encoded
  refine .failIf (fun _ => trivial) fun sized => ?_
  refine .ofExcept (fun _ _ => trivial) fun intent checked => ?_
  have grown := (grown1.trans grown2).trans grown3
  refine .pure ⟨rfl, named, fun _ => ?_⟩
  have intents := checkedIntent_some checked
  cases journal with
  | none =>
      have unsigned : (world.publisher agent.1).trust = none := held
      refine .inl ⟨intents, unsigned, ?_, ?_⟩
      · have small : (world.repository.wire.reference.marshal ⟨objectFormatVersion,
            (current.map (·.reference.generation + 1)).getD 1, commitDigest⟩).length ≤
            maxMetadataObjectBytes := by
          rw [← encoded unsigned]
          simp only [maxReferenceBytes, maxMetadataObjectBytes] at sized ⊢
          omega
        simp [encoded unsigned, pointOf, decodeJSON_marshal lawful.reference small,
          Except.toOption, SnapshotReference.point, Snapshot.point]
      · cases current with
        | none => exact ⟨_, committed.mono grown3, rfl, rfl, rfl⟩
        | some found =>
            have read := (observed.mono grown).2
            exact ⟨found.object, read.member, rfl, _, read.asserted, _, committed.mono grown3,
              rfl, rfl, rfl⟩
  | some trusted =>
      obtain ⟨rfl, intentValid⟩ := intents
      exact .inr ⟨_, trusted.trust, trusted.state, trusted.revision, rfl,
        { configured := held.1
          stagedState := rfl
          stagedRevision := rfl
          stagedIntent := rfl
          held := held.2.1.mono grown
          idle := held.2.2
          base := rfl
          valid := intentValid
          target := rfl }⟩

theorem stage_meets (lawful : world.repository.wire.Lawful) {source : Bytes}
    {selection : Option PathSelection} (valid : Valid world.law log) :
    Action.Meets world.law agent
      (stage (world.publisher agent.1) agent.1 source channel selection) log
      (fun staged later => StagedOk world later agent.1 staged) (fun _ _ => True) := by
  unfold stage
  refine .bindLift (openSource_meets valid) valid ?_
  rintro ⟨resolved, info, sourceRoot⟩ log1 grown1 valid1 named
  have nonempty : channel ≠ [] := by
    rintro rfl
    simp [validateChannel] at named
  refine .bind (prepareJournal_meets lawful named valid1) valid1 ?_
  intro journal log2 grown2 valid2 prepared
  refine .bind (observeCurrent_meets prepared valid2) valid2 ?_
  rintro ⟨current, adopted⟩ log3 grown3 valid3 ⟨held, observed⟩
  refine .bind (captureProtected_meets valid3) valid3 ?_
  intro secured log4 grown4 valid4 _
  refine .bindLift (buildSource_meets lawful valid4) valid4 ?_
  intro root log5 grown5 valid5 stored
  have grown := grown4.trans grown5
  dsimp only at held observed ⊢
  split
  · exact .pure ⟨rfl, nonempty, fun changed => by cases changed⟩
  · exact .lift (stageCommit_meets lawful nonempty (held.mono grown) (observed.mono grown) stored
      valid5) valid5

theorem newPathSelectionContext_meets {paths : List Bytes} (valid : Valid world.law log) :
    Fallible.Meets world.law agent (newPathSelectionContext paths) log
      (fun _ _ => True) (fun _ _ => True) := by
  have components : ∀ (value : Bytes) (names : List Bytes) (node : PathSelection) (count : Nat)
      (log : Log), Valid world.law log →
      Fallible.Meets world.law agent (selectComponents value names node count) log
        (fun _ _ => True) (fun _ _ => True) := by
    intro value names
    induction names with
    | nil =>
        intro node count log valid
        unfold selectComponents
        exact .failIf (fun _ => trivial) fun _ => .failIf (fun _ => trivial) fun _ => .pure trivial
    | cons component rest ih =>
        intro node count log valid
        unfold selectComponents
        refine .bind (any_meets _ rfl _) valid ?_
        intro _ log1 grown1 valid1 _
        refine .failIf (fun _ => trivial) fun _ => .failIf (fun _ => trivial) fun _ => ?_
        split
        · refine .bind (ih _ _ _ valid1) valid1 ?_
          intro _ _ _ _ _
          exact .pure trivial
        · refine .failIf (fun _ => trivial) fun _ => .bind (ih _ _ _ valid1) valid1 ?_
          intro _ _ _ _ _
          exact .pure trivial
  have selected : ∀ (values : List Bytes) (root : PathSelection) (count total : Nat) (log : Log),
      Valid world.law log →
      Fallible.Meets world.law agent (selectPaths values root count total) log
        (fun _ _ => True) (fun _ _ => True) := by
    intro values
    induction values with
    | nil =>
        intro root count total log valid
        exact .pure trivial
    | cons value rest ih =>
        intro root count total log valid
        unfold selectPaths
        refine .bind (any_meets _ rfl _) valid ?_
        intro _ log1 grown1 valid1 _
        refine .failIf (fun _ => trivial) fun _ => .failIf (fun _ => trivial) fun _ => ?_
        refine .failIf (fun _ => trivial) fun _ => .failIf (fun _ => trivial) fun _ => ?_
        refine .failIf (fun _ => trivial) fun _ => ?_
        refine .bind (components _ _ _ _ _ valid1) valid1 ?_
        intro _ log2 grown2 valid2 _
        exact ih _ _ _ _ valid2
  unfold newPathSelectionContext
  refine .bind (any_meets _ rfl _) valid ?_
  intro _ log1 grown1 valid1 _
  refine .failIf (fun _ => trivial) fun _ => .failIf (fun _ => trivial) fun _ => ?_
  refine .bind (selected _ _ _ _ _ valid1) valid1 ?_
  intro _ _ _ _ _
  exact .pure trivial

theorem stageSelected_meets (lawful : world.repository.wire.Lawful) {source : Bytes}
    {paths : List Bytes} (valid : Valid world.law log) :
    Action.Meets world.law agent
      (stageSelected (world.publisher agent.1) agent.1 source channel paths) log
      (fun staged later => StagedOk world later agent.1 staged) (fun _ _ => True) := by
  unfold stageSelected
  refine .bindLift (newPathSelectionContext_meets valid) valid ?_
  intro selection log1 grown1 valid1 _
  exact stage_meets lawful valid1

end

end S3Disk
