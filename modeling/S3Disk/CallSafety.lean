import S3Disk.CommitSafety

/-! Every call of a publisher is safe, so every run of any number of publishers keeps
the invariant. -/

namespace S3Disk

open Concurrent Relation

theorem validUTF8_of_keyID {keyID : Bytes} (checked : validateReferenceKeyID keyID = .ok ()) :
    validUTF8 keyID = true := by
  unfold validateReferenceKeyID at checked
  split at checked
  · cases checked
  · split at checked
    · rename_i allowed
      refine validUTF8_of_ascii ?_
      intro byte member
      have inside := List.all_eq_true.mp allowed byte member
      have alphabet : ∀ character ∈ ascii
          "abcdefghijklmnopqrstuvwxyzABCDEFGHIJKLMNOPQRSTUVWXYZ0123456789._:-",
          character < 0x80 := by decide +kernel
      exact alphabet byte (by simpa using inside)
    · cases checked

section

variable {world : World} {agent : Nat × PublisherCall} {log later : Log} {trust : Trust}
  {channel : Channel}

theorem resignIntent_valid (lawful : world.repository.wire.Lawful) {reference : SnapshotReference}
    {object : Object} {signature referenceData : Bytes} {client : Nat}
    (read : SignedRead world log client channel (watermarkOf trust reference) object)
    (named : validateChannel channel = .ok ())
    (keyed : validateReferenceKeyID trust.referenceSigner.keyID = .ok ())
    (signed : signature ≠ [] ∧ signature.length ≤ maxReferenceSignatureSize)
    (encoded : referenceData = world.repository.wire.envelope.marshal ⟨objectFormatVersion,
      ⟨objectFormatVersion, trust.referenceSigner.repositoryID, channel, reference.generation,
        reference.commit, trust.referenceSigner.keyID⟩, signature⟩)
    (sized : referenceData.length ≤ maxReferenceBytes) :
    IntentValid world.repository.wire trust.referenceVerifier.repositoryID channel
      { intentID := publicationIntentID world.repository.wire trust.referenceVerifier.repositoryID
          channel .resign (some (watermarkOf trust reference)) (watermarkOf trust reference)
          referenceData
        kind := .resign
        base := some (watermarkOf trust reference)
        next := watermarkOf trust reference
        expectedVersion := some object.version
        expectedReference := publicationReferenceDigest world.repository.wire object.data
        reference := referenceData } := by
  have watermark : validatePublicationJournalWatermark trust.referenceVerifier.repositoryID
      (watermarkOf trust reference) = .ok () :=
    validatePublicationJournalWatermark_ok.mpr ⟨rfl, read.generation, read.commit⟩
  have nonempty : referenceData ≠ [] := encoded ▸ lawful.envelopeNonempty _
  have small : referenceData.length ≤ maxMetadataObjectBytes :=
    sized.trans (by decide)
  have decoded : decodeJSON world.repository.wire.envelope referenceData = .ok ⟨objectFormatVersion,
      ⟨objectFormatVersion, trust.referenceSigner.repositoryID, channel, reference.generation,
        reference.commit, trust.referenceSigner.keyID⟩, signature⟩ := by
    have readBack := lawful.envelope ⟨objectFormatVersion,
      ⟨objectFormatVersion, trust.referenceSigner.repositoryID, channel, reference.generation,
        reference.commit, trust.referenceSigner.keyID⟩, signature⟩ (validUTF8_of_channel named)
      (validUTF8_of_keyID keyed)
    rw [encoded] at small ⊢
    simp [decodeJSON, readBack, Nat.not_lt.mpr small]
  obtain ⟨tagged, short, shortID⟩ := read.version
  refine ⟨watermark, ?_, ?_, ?_, ?_, ?_, ?_⟩
  · simp only [validateExpectedReference, bind_ok, failIf_ok]
    exact ⟨(), watermark, by simp [publicationReferenceDigest_nonzero lawful read.nonempty]⟩
  · simp [validateExpectedVersion, tagged, short, shortID]
  · simp [validateIntentAdvance]
  · simpa [nonempty] using sized
  · simp [validatePublicationIntentReference, decoded, trust.sameRepository, signed.1,
      Nat.not_lt.mpr signed.2, keyed, watermarkOf]
  · simp only [validatePublicationIntentID, publicationIntentID]
    simp [lawful.nonzero]

theorem resignSigned_meets (lawful : world.repository.wire.Lawful)
    (configured : (world.publisher agent.1).trust = some trust)
    (called : agent.2 = .resignReference channel) (valid : Valid world.law log) :
    Action.Meets world.law agent (resignSigned world.repository trust agent.1 channel) log
      (fun _ _ => True) (fun _ _ => True) := by
  unfold resignSigned
  refine .ofExcept (fun _ _ => trivial) fun _ checked => ?_
  have named := repositoryValidateChannel_ok checked
  refine .bind ((preparePublicationJournal_meets lawful configured named valid).lenient valid)
    valid ?_
  rintro ⟨state, revision⟩ log1 grown1 valid1 ⟨held, _⟩
  refine .attemptLift ((getReference_signed valid1).lenient valid1) valid1 ?_
  rintro (error | ⟨reference, object⟩) log2 grown2 valid2 read
  · exact .failIf (fun _ => trivial) fun _ => .throw trivial
  refine .attemptLift ((getCommit_meets valid2).lenient valid2) valid2 ?_
  rintro (error | commit) log3 grown3 valid3 found
  · exact .throw trivial
  refine .ofExcept (fun _ _ => trivial) fun _ committed => ?_
  have holds : HoldsCommit world.repository.wire log3 reference.point commit := ⟨found, committed⟩
  have signedRead : SignedRead world log2 agent.1 channel (watermarkOf trust reference) object := read
  refine .attempt (acceptObservedPublication_meets configured
    (held.mono (grown2.trans grown3)) (signedRead.mono grown3) holds valid3) valid3 ?_
  rintro (error | ⟨accepted, acceptedRevision⟩) log4 grown4 valid4 adopted
  · exact .throw trivial
  obtain ⟨heldNow, idle, base⟩ := adopted
  refine .bindLift (signSnapshotReference_meets valid4) valid4 ?_
  rintro referenceData log5 grown5 valid5 ⟨_, keyed, signature, nonempty, short, encoded⟩
  refine .failIf (fun _ => trivial) fun sized => ?_
  dsimp only
  split
  · exact .pure trivial
  refine .failIf (fun _ => trivial) fun _ => ?_
  have read5 := signedRead.mono ((grown3.trans grown4).trans grown5)
  have resigned := resignIntent_valid lawful read5 named keyed ⟨nonempty, short⟩ encoded
    (Nat.not_lt.mp sized)
  have staged : SignedStaged world log5 agent.1
      (resignStaged world.repository trust agent.1 channel accepted acceptedRevision reference object
        (snapshotFromPublicationCommit (watermarkOf trust reference) commit) referenceData)
      _ trust accepted acceptedRevision :=
    ⟨configured, rfl, rfl, rfl, heldNow.mono grown5, idle, base, resigned, rfl⟩
  refine Action.Meets.weaken (commitSignedPublication_meets lawful staged ?_ valid5) valid5
    (fun _ _ _ _ _ => trivial) (fun _ _ _ _ _ => trivial)
  rw [called]
  exact ⟨rfl, read5.visible⟩

theorem walkCommitChain_meets {bottom steps : Nat} {digest : Digest} (valid : Valid world.law log) :
    Fallible.Meets world.law agent (walkCommitChain world.repository bottom steps digest) log
      (fun reached later => ReflTransGen (PointParent world.repository.wire later)
        ⟨bottom + steps, digest⟩ ⟨bottom, reached⟩)
      (Neutral agent) := by
  induction steps generalizing digest log with
  | zero => exact .pure .refl
  | succ steps ih =>
      unfold walkCommitChain
      refine .bind (contextErr_meets valid) valid ?_
      intro _ log1 grown1 valid1 _
      refine .attempt (getCommit_meets valid1) valid1 ?_
      rintro (error | commit) log2 grown2 valid2 found
      · exact .throw (Neutral.within found _)
      refine .ofExcept ?_ fun _ checked => ?_
      · intro error failed
        obtain ⟨cause, invalid, rfl⟩ := mapError_error.mp failed
        exact (validateCommitManifest_neutral invalid).within _
      have holds : HoldsCommit world.repository.wire log2 ⟨bottom + steps + 1, digest⟩ commit :=
        ⟨found, mapError_ok.mp checked⟩
      cases named : commit.parent with
      | none => exact halt_meets
      | some parent =>
          refine (ih valid2).weaken valid2 ?_ (fun _ _ _ _ neutral => neutral)
          intro reached later grown _ down
          have step : PointParent world.repository.wire later ⟨bottom + steps + 1, digest⟩
              ⟨bottom + steps, parent⟩ := (holds.mono grown).parentOf named rfl
          exact .head step down

theorem reconcileCommit_meets {staged : StagedSnapshot}
    (unsigned : (world.publisher agent.1).trust = none) (valid : Valid world.law log) :
    Fallible.Meets world.law agent (reconcileCommit (world.publisher agent.1) staged) log
      (fun outcome later => match outcome with
        | .unknown => True
        | .applied => Published world.repository.wire later (.reference staged.channel)
            staged.snapshot.point
        | .rejected => Superseded world.repository.wire later (.reference staged.channel)
            staged.snapshot.point)
      (Neutral agent) := by
  unfold reconcileCommit
  simp only [Publisher.verifier, unsigned, Option.map_none]
  refine .attempt (getReference_plain valid) valid ?_
  rintro (error | ⟨reference, object⟩) log1 grown1 valid1 read
  · exact .throw (Neutral.within read _)
  dsimp only
  split
  · exact .pure trivial
  rename_i high
  refine .failIf (fun _ => neutral_tagged (by decide)) fun _ => ?_
  refine .bind (walkCommitChain_meets valid1) valid1 ?_
  intro digest log2 grown2 valid2 reaches
  have plain : PlainRead world.repository.wire log1 (staged.channel) reference object := read
  have visible : reference.point ∈ points world.repository.wire log2 (.reference staged.channel) :=
    mem_points_mono grown2 (List.mem_filterMap.mpr ⟨object, plain.member, plain.asserted⟩)
  have top : staged.snapshot.generation + (reference.generation - staged.snapshot.generation) =
      reference.generation := by omega
  rw [top] at reaches
  by_cases same : digest = staged.snapshot.commit
  · simp only [same, if_true] at reaches ⊢
    exact .pure ⟨reference.point, visible, reaches⟩
  · simp only [same, if_false]
    refine .pure ⟨reference.point, visible, _, reaches, rfl, ?_⟩
    intro equal
    exact same (congrArg Point.commit equal)

/-- How an unsigned commit fails: in doubt, or with the conflict itself because another
commit has its place. -/
def PlainOutcome (world : World) (agent : Nat × PublisherCall) (staged : StagedSnapshot)
    (error : Err) (log : Log) : Prop :=
  (error.is .publishIndeterminate = true ∧ Peaceful agent error log) ∨
    (error = Sentinel.publishConflict.error ∧
      Superseded world.repository.wire log (.reference staged.channel) staged.snapshot.point)

theorem indeterminate_peaceful {casErr reconcileErr : Err} (first : Peaceful agent casErr log)
    (second : Peaceful agent reconcileErr log) :
    Peaceful agent (indeterminatePublishError casErr (some reconcileErr)) log := by
  intro conflict
  have either : casErr.is .publishConflict = true ∨ reconcileErr.is .publishConflict = true := by
    simpa [indeterminatePublishError, Err.is] using conflict
  rcases either with left | right
  · exact first left
  · exact second right

theorem commitUnsigned_meets {staged : StagedSnapshot}
    (plain : PlainStaged world log agent.1 staged) (valid : Valid world.law log) :
    Fallible.Meets world.law agent (commitUnsigned (world.publisher agent.1) staged) log
      (fun _ later => Published world.repository.wire later (.reference staged.channel)
        staged.snapshot.point)
      (PlainOutcome world agent staged) := by
  unfold commitUnsigned
  simp only [Publisher.referenceKey, plain.unsigned, Option.isSome_none, Bool.false_eq_true,
    if_false]
  have reference : (Key.reference staged.channel).IsReference := trivial
  have writes : Fallible.Meets world.law agent
      (Repository.compareAndSwap (.reference staged.channel) staged.expected staged.referenceData)
      log (fun _ later => (∃ version, Did later agent.1
        (.compareAndSwap (.reference staged.channel) staged.expected staged.referenceData)
          (.ok version)) ∧
        ∃ object ∈ versions later (.reference staged.channel), object.data = staged.referenceData)
      (Neutral agent) := by
    refine compareAndSwap_meets (by simp) ?_ valid
    intro later grown laterValid condition
    have line := (plain.mono grown).line
    cases expected : staged.expected with
    | none =>
        simp only [expected] at line condition
        exact storesWell_first reference condition plain.asserted line
    | some version =>
        simp only [expected] at line condition
        obtain ⟨object, member, rfl, parent, asserted, child⟩ := line
        exact storesWell_over laterValid reference member condition asserted plain.asserted
          (.inr child)
  refine .attempt writes valid ?_
  rintro (casErr | version) log1 grown1 valid1 written
  · refine .attempt (reconcileCommit_meets plain.unsigned valid1) valid1 ?_
    have casPeaceful : Peaceful agent casErr log1 := Neutral.peaceful written
    rintro (reconcileErr | outcome) log2 grown2 valid2 reconciled
    · exact .throw (.inl ⟨by simp [indeterminatePublishError, Err.is],
        indeterminate_peaceful (casPeaceful.mono grown2) (Neutral.peaceful reconciled)⟩)
    cases outcome with
    | unknown =>
        refine .throw (.inl ⟨by simp [indeterminatePublishError, Sentinel.wraps, Err.is], ?_⟩)
        exact ((casPeaceful.mono grown2).within _).wraps (by decide)
    | applied => exact .pure reconciled
    | rejected => exact .throw (.inr ⟨rfl, reconciled⟩)
  · obtain ⟨_, object, member, same⟩ := written
    exact .pure ⟨_, List.mem_filterMap.mpr ⟨object, member, same ▸ plain.asserted⟩, .refl⟩

theorem commitUnchanged_meets {staged : StagedSnapshot} (valid : Valid world.law log) :
    Fallible.Meets world.law agent (commitUnchanged (world.publisher agent.1) staged) log
      (fun _ _ => True) (fun _ _ => True) := by
  unfold commitUnchanged
  cases staged.expected with
  | none => exact halt_meets
  | some expected =>
      have reads : Fallible.Meets world.law agent
          (world.repository.getReferenceWithVerifier staged.channel expected.eTag
            (world.publisher agent.1).verifier) log (fun _ _ => True) (fun _ _ => True) := by
        cases (world.publisher agent.1).verifier with
        | none =>
            exact (getReference_plain valid).weaken valid (fun _ _ _ _ _ => trivial)
              (fun _ _ _ _ _ => trivial)
        | some verifier =>
            exact (getReference_signed valid).weaken valid (fun _ _ _ _ _ => trivial)
              (fun _ _ _ _ _ => trivial)
      refine .attempt reads valid ?_
      rintro (error | ⟨reference, object⟩) log1 grown1 valid1 _
      · dsimp only
        split
        · exact .pure trivial
        · exact .failIf (fun _ => trivial) fun _ => .throw trivial
      · exact .failIf (fun _ => trivial) fun _ => .pure trivial

def CommitOk (world : World) (client : Nat) (staged : StagedSnapshot) (log : Log) :
    Except Err Snapshot → Prop
  | .ok _ => match (world.publisher client).trust with
      | none => Published world.repository.wire log (.reference staged.channel)
          staged.snapshot.point
      | some _ => Published world.repository.wire log (.signedReference staged.channel)
          staged.snapshot.point
  | .error error => match (world.publisher client).trust with
      | none => PlainOutcome world (client, .commit staged) staged error log
      | some trust => error.is .publishConflict = true →
          Unpublishable world (client, .commit staged) trust staged.channel staged.snapshot.point log

theorem commit_meets (lawful : world.repository.wire.Lawful) {staged : StagedSnapshot} {client : Nat}
    (ok : StagedOk world log client staged) (valid : Valid world.law log) :
    Action.Meets world.law (client, .commit staged)
      (commit (world.publisher client) client staged) log
      (fun snapshot later => staged.unchanged = false →
        CommitOk world client staged later (.ok snapshot))
      (fun error later => staged.unchanged = false →
        CommitOk world client staged later (.error error)) := by
  unfold commit
  refine .failIf (fun foreign => ?_) fun _ => ?_
  · rcases foreign with other | empty
    · exact absurd ok.publisher other
    · exact absurd empty ok.channel
  split
  · rename_i unchanged
    refine .lift (Fallible.Meets.weaken (commitUnchanged_meets valid) valid ?_ ?_) valid
    · intro _ _ _ _ _ changed
      simp [unchanged] at changed
    · intro _ _ _ _ _ changed
      simp [unchanged] at changed
  rename_i changed
  rcases ok.changed (by simpa using changed) with ⟨unsigned, plain⟩ |
    ⟨intent, trust, state, revision, publish, signed⟩
  · simp only [unsigned]
    refine .lift (Fallible.Meets.weaken (commitUnsigned_meets plain valid) valid ?_ ?_) valid
    · intro snapshot later _ _ published _
      simpa only [CommitOk, plain.unsigned] using published
    · intro error later _ _ outcome _
      simpa only [CommitOk, plain.unsigned] using outcome
  · simp only [signed.stagedIntent, signed.configured]
    have begunBy : BegunBy world log staged.channel intent (.commit staged) :=
      ⟨signed.stagedIntent, rfl, publish, signed.target⟩
    refine Action.Meets.weaken (commitSignedPublication_meets lawful signed begunBy valid) valid
      ?_ ?_
    · intro snapshot later _ _ published _
      simp only [CommitOk, signed.configured, signed.target]
      exact published publish
    · intro error later _ _ conflicts _
      simp only [CommitOk, signed.configured, signed.target]
      exact fun conflict => conflicts conflict publish

def CallPost (world : World) (client : Nat) (call : PublisherCall) (result : PublisherResult)
    (log : Log) : Prop :=
  match call, result with
  | .commit staged, .snapshot outcome => staged.unchanged = false →
      CommitOk world client staged log outcome
  | _, _ => True

def Remembers (world : World) (client : Nat) (memory : World.Memory) (log : Log) : Prop :=
  ∀ staged ∈ memory.staged, StagedOk world log client staged

theorem finish_safe {α : Type} {memory : World.Memory} {action : Recovery α}
    {result : Except Err α → PublisherResult} {kept : α → List StagedSnapshot}
    {post : α → Log → Prop} {fail : Err → Log → Prop} {client : Nat} {call : PublisherCall}
    (meets : Action.Meets world.law (client, call) action log post fail)
    (remembers : Remembers world client memory log)
    (values : ∀ value later, post value later →
      CallPost world client call (result (.ok value)) later ∧
        ∀ staged ∈ kept value, StagedOk world later client staged)
    (errors : ∀ error later, fail error later →
      CallPost world client call (result (.error error)) later)
    (valid : Valid world.law log) :
    Safe world.law (client, call)
      (fun out later => CallPost world client call out.1 later ∧
        Remembers world client out.2 later)
      (World.finish memory action result kept) log := by
  refine Safe.bind (meets memory.publisher) valid ?_
  rintro ⟨error | value, changed⟩ later grown _ holds
  · refine ⟨errors error later holds, ?_⟩
    intro staged member
    simp only [Except.toOption, Option.map_none, Option.getD_none, List.append_nil] at member
    exact (remembers staged member).mono grown
  · obtain ⟨returned, staged⟩ := values value later holds
    refine ⟨returned, ?_⟩
    intro found member
    simp only [Except.toOption, Option.map_some, Option.getD_some, List.mem_append] at member
    rcases member with earlier | new
    · exact (remembers found earlier).mono grown
    · exact staged found new

theorem publishers_verified (lawful : world.repository.wire.Lawful) :
    Verified world.machine (Keeps world) (Remembers world) (CallPost world) where
  stable client memory log later grown remembers staged member :=
    (remembers staged member).mono grown
  fresh client log staged member := by simp [World.machine] at member
  safe client memory call log valid remembers allowed := by
    have valid : Valid world.law log := valid
    cases call with
    | stage source channel =>
        exact finish_safe (stage_meets lawful valid) remembers
          (fun staged later ok => ⟨trivial, by simpa using ok⟩) (fun _ _ _ => trivial) valid
    | stageSelected source channel paths =>
        exact finish_safe (stageSelected_meets lawful valid) remembers
          (fun staged later ok => ⟨trivial, by simpa using ok⟩) (fun _ _ _ => trivial) valid
    | commit staged =>
        exact finish_safe (commit_meets lawful (remembers staged (allowed staged rfl)) valid)
          remembers (fun snapshot later holds => ⟨holds, by simp⟩) (fun _ _ holds => holds) valid
    | resignReference channel =>
        have meets : Action.Meets world.law (client, .resignReference channel)
            (resignReference (world.publisher client) client channel) log
            (fun _ _ => True) (fun _ _ => True) := by
          unfold resignReference
          cases configured : (world.publisher client).trust with
          | none => exact .throw trivial
          | some trust => exact resignSigned_meets lawful configured rfl valid
        exact finish_safe meets remembers (fun _ _ _ => ⟨trivial, by simp⟩) (fun _ _ _ => trivial)
          valid
    | recoverPublication channel =>
        have meets : Action.Meets world.law (client, .recoverPublication channel)
            ((world.publisher client).recoverPublication channel) log
            (fun _ _ => True) (fun _ _ => True) := by
          unfold Publisher.recoverPublication
          cases configured : (world.publisher client).trust with
          | none => exact .throw trivial
          | some trust =>
              exact Action.Meets.weaken (recoverSigned_meets lawful configured valid) valid
                (fun _ _ _ _ _ => trivial) (fun _ _ _ _ _ => trivial)
        exact finish_safe meets remembers (fun _ _ _ => ⟨trivial, by simp⟩) (fun _ _ _ => trivial)
          valid

end

end S3Disk
