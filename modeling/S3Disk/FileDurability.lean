import S3Disk.ConcreteWire
import S3Disk.FileSafety
import S3Disk.FileSimulation

/-! A state that a local store acknowledged survives: after any later loss of power it is
still under the path, or a swap has put another state on top of it. -/

namespace S3Disk.LocalState

open Concurrent
open Volume (History Durable Orderly OnTop)

variable {world : FileWorld} {agent : Nat × FileCall} {log : FileLog}

section

variable {α : Type} {before : History → Prop} {post : α → History → Prop}

theorem lock_meets :
    Filing.lock.Meets world.law agent log (fun _ _ => True) fun _ _ => True := by
  refine Fallible.Meets.ask fun later _ _ answer effect served => ?_
  cases answer with
  | error error =>
      have refused : world.served later agent.1 .lock (.error error) effect := served
      have none : effect = Option.none := by simpa [FileWorld.served, onDisk] using refused
      subst none
      exact ⟨fun change same => by simp [diskChange, Event.of] at same, trivial⟩
  | ok value =>
      have granted : effect = some .granted := served
      subst granted
      exact ⟨fun change same => by simp [diskChange, Event.of] at same, trivial⟩

theorem unlock_meets {known : History → Prop}
    (within : (fileLease world).Within agent.1 known log) :
    Filing.unlock.Meets world.law agent log (fun _ later => known (history later))
      fun _ _ => True := by
  refine Fallible.Meets.ask fun later interferes valid answer effect served => ?_
  obtain ⟨held, released⟩ := served
  have holds : known (history later) := within.interferes interferes valid held
  have untouched : diskChange (.of agent .unlock answer effect) = none := by
    rcases released with same | ⟨_, same⟩
    · have applied : effect = some .released := same
      rw [applied]
      rfl
    · have applied : effect = none := same
      rw [applied]
      rfl
  refine ⟨fun change same => ?_, ?_⟩
  · rw [untouched] at same
    cases same
  · show known (history (_ :: later))
    rw [history, List.filterMap_cons, untouched]
    exact holds

theorem lockedLoad_meets {body : Filing α}
    (under : Under world agent (fun _ => True) body post Anything) (valid : Valid world.law log) :
    (Filing.lockedLoad body).Meets world.law agent log
      (fun value later => post value (history later)) fun _ _ => True := by
  refine .bind lock_meets valid fun _ first _ firstValid _ => ?_
  refine .attempt (under first firstValid fun _ => trivial) firstValid
    fun result second _ secondValid known => ?_
  cases result with
  | error error =>
      refine .bind (unlock_meets known) secondValid fun unlocked third _ _ _ => ?_
      exact .throw trivial
  | ok value =>
      refine .bind (unlock_meets known) secondValid fun unlocked third _ _ holds => ?_
      cases unlocked with
      | none => exact .pure holds
      | some error => exact .throw trivial

theorem lockedSwap_meets {body : Filing α}
    (under : Under world agent (fun _ => True) body post Anything) (valid : Valid world.law log) :
    (Filing.lockedSwap body).Meets world.law agent log
      (fun value later => post value (history later)) fun _ _ => True := by
  refine .bind lock_meets valid fun _ first _ firstValid _ => ?_
  refine .attempt (under first firstValid fun _ => trivial) firstValid
    fun result second _ secondValid known => ?_
  cases result with
  | error error =>
      refine .bind (unlock_meets known) secondValid fun unlocked third _ _ _ => ?_
      cases unlocked with
      | none => exact .throw trivial
      | some other => exact .throw trivial
  | ok value =>
      refine .bind (unlock_meets known) secondValid fun unlocked third _ _ holds => ?_
      cases unlocked with
      | none => exact .pure holds
      | some error => exact .throw trivial

theorem contextErr_meets (valid : Valid world.law log) :
    Filing.contextErr.Meets world.law agent log (fun _ _ => True) fun _ _ => True := by
  have under : Under world agent (fun _ => True) Filing.contextErr (fun _ _ => True) Anything :=
    contextErr_under
  exact (under log valid fun _ => trivial).weaken valid (fun _ _ _ _ _ => trivial)
    fun _ _ _ _ _ => trivial

end

theorem recordedGeneration_marshal (file : WatermarkFile) :
    recordedGeneration (WatermarkFile.shape.json.marshal file) = some (file.generation : Int) := by
  have parsed : Json.parse (WatermarkFile.shape.json.marshal file) =
      some (.object (Json.coerceFields file.fields)) := Json.parse_encode (.object file.fields)
  obtain ⟨_, _, _, found, _⟩ := file.read_fields
  simp only [recordedGeneration, parsed, fieldOf_coerce file.fields_named, found, Option.map_some,
    natValue, Json.Value.coerce]

theorem decodeWatermark_ok {channel : Channel} {data : Bytes} {watermark : Watermark}
    (decoded : decodeWatermark channel data = .ok watermark) :
    recordedGeneration data = some (watermark.generation : Int) := by
  obtain ⟨file, read, rest⟩ := bind_ok.mp decoded
  obtain ⟨_, _, canonical⟩ := decodeJSON_ok (mapError_ok.mp read)
  obtain ⟨_, _, named⟩ := bind_ok.mp rest
  have same : watermark.generation = file.generation := by
    split at named
    · cases named
      rfl
    · split at named
      · split at named
        · cases named
        · cases named
          rfl
      · cases named
  rw [canonical, recordedGeneration_marshal, same]

theorem follows_of_advance {channel : Channel} {old : Bytes} {current next : Watermark}
    (decoded : decodeWatermark channel old = .ok current)
    (advance : FileWatermarkStore.checkAdvance current next = .ok ()) :
    world.Follows old (encodeWatermark channel next) := by
  intro _
  refine .inr ⟨current.generation, next.generation, decodeWatermark_ok decoded,
    recordedGeneration_marshal _, ?_⟩
  unfold FileWatermarkStore.checkAdvance at advance
  split at advance
  · cases advance
  · split at advance
    · cases advance
    · omega

def StoresWatermark (channel : Channel) (watermark : Watermark) (data : Bytes) : Prop :=
  1 ≤ data.length ∧ data.length ≤ maxWatermarkBytes ∧ decodeWatermark channel data = .ok watermark

section

variable {before : History → Prop}

theorem watermark_loadLocked_under {channel : Channel} :
    Under world agent before (FileWatermarkStore.loadLocked channel)
      (fun found past => before past ∧ Sees (fun file watermark past =>
        StoresWatermark channel watermark (Volume.contents file past)) found past) Anything := by
  refine withOpened_under fun linked file => ?_
  refine .bind validateOpenedPath_under fun info => ?_
  refine .failIf (fun _ _ => trivial) fun sized => ?_
  refine .bind (labelled_under readAll_under) fun data => ?_
  refine .check (fun _ _ _ => trivial) fun watermark decoded past known => ?_
  obtain ⟨⟨visible, size⟩, read⟩ := known
  have whole : data = Volume.contents file past := by
    rw [read]
    exact List.take_of_length_le (by omega)
  rw [whole] at decoded
  exact ⟨visible, by omega, by omega, decoded⟩

def HoldsWatermark (channel : Channel) (next : Watermark) (data : Bytes) : Prop :=
  data = encodeWatermark channel next ∨ StoresWatermark channel next data

theorem watermark_load_meets {channel : Channel} (valid : Valid world.law log) :
    (FileWatermarkStore.load channel).Meets world.law agent log
      (fun found later => ∀ watermark, found = some watermark →
        Settled (StoresWatermark channel watermark) (history later))
      fun _ _ => True := by
  refine .bind (contextErr_meets valid) valid fun _ first _ firstValid _ => ?_
  exact lockedLoad_meets (settled_under watermark_loadLocked_under) firstValid

theorem watermark_swapLocked_under {channel : Channel} {expected : Option Watermark}
    {next : Watermark} (swaps : agent.2.swaps = true) :
    Under world agent (fun _ => True)
      (do let current ← FileWatermarkStore.loadLocked channel
          failIf (current ≠ expected) Sentinel.precondition.error
          .ofExcept (current.forM (FileWatermarkStore.checkAdvance · next))
          if current = some next then Filing.syncParentDirectory
          else Filing.replaceFile "watermark" ".s3disk-watermark-*" (encodeWatermark channel next))
      (fun _ past => Settled (HoldsWatermark channel next) past) Anything := by
  refine .bind watermark_loadLocked_under fun current => ?_
  refine .failIf (fun _ _ => trivial) fun _ => ?_
  refine .ofExcept (fun _ _ _ => trivial) fun _ advanced => ?_
  refine .ite (fun same => ?_) fun _ => ?_
  · subst same
    refine syncParentDirectory_under.weaken ?_ (fun _ _ known => known) fun _ _ known => known
    rintro past ⟨_, file, visible, decoded⟩
    exact ⟨file, visible, .inr decoded⟩
  · refine (replaceFile_under swaps).weaken ?_ (fun _ _ known => known) fun _ _ known => known
    rintro past ⟨_, seen⟩
    refine ⟨.inl rfl, fun below visible => ?_⟩
    cases current with
    | none =>
        have absent : Volume.current past = none := seen
        rw [absent] at visible
        cases visible
    | some watermark =>
        obtain ⟨file, found, decoded⟩ := seen
        obtain rfl : file = below := Option.some.inj (found.symm.trans visible)
        exact follows_of_advance decoded.2.2 (forM_ok.mp advanced watermark rfl)

theorem watermark_swap_meets {channel : Channel} {expected : Option Watermark} {next : Watermark}
    (swaps : agent.2.swaps = true) (valid : Valid world.law log) :
    (FileWatermarkStore.compareAndSwap channel expected next).Meets world.law agent log
      (fun _ later => (validateChannel channel = .ok () ∧
          ¬(next.generation = 0 ∨ next.commit.isZero)) ∧
        Settled (HoldsWatermark channel next) (history later)) fun _ _ => True := by
  refine .bind (contextErr_meets valid) valid fun _ first _ firstValid _ => ?_
  refine .ofExcept (fun _ _ => trivial) fun _ named => ?_
  refine .failIf (fun _ => trivial) fun nonzero => ?_
  refine (lockedSwap_meets (watermark_swapLocked_under swaps) firstValid).weaken firstValid ?_
    fun _ _ _ _ _ => trivial
  intro _ later _ _ settled
  exact ⟨⟨named, nonzero⟩, settled⟩

end

section

variable {before : History → Prop}

theorem journal_loadLocked_under {wire : Wire} {channel : Channel} :
    Under world agent before (FilePublicationJournal.loadLocked wire channel)
      (fun found past => before past ∧ Sees (fun file stored past =>
        decodePublicationJournal wire channel (Volume.contents file past) = .ok stored) found past)
      Anything := by
  refine withOpened_under fun linked file => ?_
  refine .bind validateOpenedPath_under fun info => ?_
  refine .failIf (fun _ _ => trivial) fun _ => ?_
  refine .failIf (fun _ _ => trivial) fun sized => ?_
  refine .bind (labelled_under readAll_under) fun data => ?_
  refine .failIf (fun _ _ => trivial) fun _ => ?_
  refine .check (fun _ _ _ => trivial) fun stored decoded past known => ?_
  obtain ⟨⟨visible, size⟩, read⟩ := known
  have whole : data = Volume.contents file past := by
    rw [read]
    exact List.take_of_length_le (by omega)
  rw [whole] at decoded
  exact ⟨visible, decoded⟩

theorem journal_load_meets {channel : Channel} (valid : Valid world.law log) :
    (FilePublicationJournal.load world.wire channel).Meets world.law agent log
      (fun found later => ∀ stored, found = some stored → Settled
        (fun data => decodePublicationJournal world.wire channel data = .ok stored) (history later))
      fun _ _ => True := by
  refine .bind (contextErr_meets valid) valid fun _ first _ firstValid _ => ?_
  refine .ofExcept (fun _ _ => trivial) fun _ _ => ?_
  exact lockedLoad_meets (settled_under journal_loadLocked_under) firstValid

def Stamps (revision : Digest) : Prop := revision.bytes.length = 32 ∧ revision.isZero = false

theorem newRevision_under {label : String} {draws : Nat} {forbidden : Option Digest} :
    Under world agent before (Filing.newRevision label draws forbidden)
      (fun revision past => Stamps revision ∧ before past) Anything := by
  induction draws with
  | zero => exact halt_under
  | succ draws ih =>
      refine .bind (labelled_under random_under) fun revision => ?_
      refine .ite (fun accepted => ?_) fun _ => ?_
      · exact .pure fun past known => ⟨⟨known.1, accepted.1⟩, known.2⟩
      · exact ih.weaken (fun _ known => known.2) (fun _ _ known => known) fun _ _ known => known

def HoldsJournal (wire : Wire) (next : PublicationJournalState) (revision : Digest)
    (data : Bytes) : Prop :=
  data = encodePublicationJournal wire next revision ∧ Stamps revision ∧
    data.length ≤ maxPublicationJournalBytes

theorem journal_swapLocked_under {channel : Channel}
    {expected : Option PublicationJournalRevision} {next : PublicationJournalState}
    (kind : world.kind = .journal) (swaps : agent.2.swaps = true) :
    Under world agent (fun _ => True)
      (do let current ← FilePublicationJournal.loadLocked world.wire channel
          failIf (current.map Prod.snd ≠ expected) Sentinel.precondition.error
          .ofExcept (current.forM fun found => validatePublicationJournalTransition found.1 next)
          Filing.contextErr
          let revision ← FilePublicationJournal.newPublicationJournalRevision world.draws
            (current.map Prod.snd)
          let data := encodePublicationJournal world.wire next revision
          failIf (data.length > maxPublicationJournalBytes)
            (Sentinel.resourceLimit.tagged FilePublicationJournal.exceeds)
          Filing.replaceFile "publication journal" ".s3disk-publication-journal-*" data
          return revision)
      (fun revision past => Settled (HoldsJournal world.wire next revision) past) Anything := by
  refine .bind journal_loadLocked_under fun current => ?_
  refine .failIf (fun _ _ => trivial) fun _ => ?_
  refine .ofExcept (fun _ _ _ => trivial) fun _ _ => ?_
  refine .bind contextErr_under fun _ => ?_
  refine .bind newRevision_under fun revision => ?_
  refine .failIf (fun _ _ => trivial) fun small => ?_
  have replaced : Under world agent
      (fun past => Stamps revision ∧ True ∧ Sees (fun file stored past =>
        decodePublicationJournal world.wire channel (Volume.contents file past) = .ok stored)
        current past)
      (Filing.replaceFile "publication journal" ".s3disk-publication-journal-*"
        (encodePublicationJournal world.wire next revision))
      (fun _ past => Settled (HoldsJournal world.wire next revision) past) Anything := by
    refine (replaceFile_under swaps).weaken ?_ (fun _ _ known => known) fun _ _ known => known
    rintro past ⟨stamps, _⟩
    refine ⟨⟨rfl, stamps, Nat.not_lt.mp small⟩, fun below _ watermark => ?_⟩
    rw [kind] at watermark
    cases watermark
  refine .bind replaced fun _ => ?_
  exact .pure fun _ known => known

theorem journal_swap_meets {channel : Channel} {expected : Option PublicationJournalRevision}
    {next : PublicationJournalState} (kind : world.kind = .journal) (swaps : agent.2.swaps = true)
    (valid : Valid world.law log) :
    (FilePublicationJournal.compareAndSwap world.wire world.draws channel expected next).Meets
      world.law agent log
      (fun revision later => (validateChannel channel = .ok () ∧ next.channel = channel ∧
          validatePublicationJournalState world.wire next = .ok ()) ∧
        Settled (HoldsJournal world.wire next revision) (history later)) fun _ _ => True := by
  refine .bind (contextErr_meets valid) valid fun _ first _ firstValid _ => ?_
  refine .ofExcept (fun _ _ => trivial) fun _ valid => ?_
  refine .failIf (fun _ => trivial) fun named => ?_
  refine .ofExcept (fun _ _ => trivial) fun _ accepted => ?_
  refine (lockedSwap_meets (journal_swapLocked_under kind swaps) firstValid).weaken firstValid ?_
    fun _ _ _ _ _ => trivial
  intro revision later _ _ settled
  exact ⟨⟨valid, not_not.mp named, accepted⟩, settled⟩

end

def HoldsSealed (sha256 : Bytes → Bytes) (store : FileSealedStateStore) (plaintext : Bytes)
    (revision : Digest) (data : Bytes) : Prop :=
  ∃ envelope, data = encodeSealedStatePrefix revision envelope.length ++ envelope ∧
    store.opens (store.protectorBinding sha256
      (encodeSealedStatePrefix revision envelope.length)) envelope = some plaintext

def FitsSealed (sha256 : Bytes → Bytes) (store : FileSealedStateStore) (plaintext : Bytes)
    (revision : Digest) (data : Bytes) : Prop :=
  plaintext.length ≤ store.maxEnvelopeBytes ∧
    ∃ envelope, 1 ≤ envelope.length ∧ envelope.length ≤ store.maxEnvelopeBytes ∧
      data = encodeSealedStatePrefix revision envelope.length ++ envelope ∧
      store.opens (store.protectorBinding sha256
        (encodeSealedStatePrefix revision envelope.length)) envelope = some plaintext

def StoresSealed (sha256 : Bytes → Bytes) (store : FileSealedStateStore) (plaintext : Bytes)
    (revision : Digest) (data : Bytes) : Prop :=
  Stamps revision ∧ FitsSealed sha256 store plaintext revision data

theorem StoresSealed.holds {sha256 : Bytes → Bytes} {store : FileSealedStateStore}
    {plaintext data : Bytes} {revision : Digest}
    (stores : StoresSealed sha256 store plaintext revision data) :
    HoldsSealed sha256 store plaintext revision data := by
  obtain ⟨_, _, envelope, _, _, same, opens⟩ := stores
  exact ⟨envelope, same, opens⟩

theorem parseSealedStateFile_ok {data header envelope : Bytes} {revision : Digest} {maximum : Nat}
    (parsed : parseSealedStateFile data maximum = .ok (header, revision, envelope)) :
    header = encodeSealedStatePrefix revision envelope.length ∧ data = header ++ envelope := by
  obtain ⟨_, _, parsed⟩ := bind_ok.mp parsed
  obtain ⟨_, _, parsed⟩ := bind_ok.mp parsed
  obtain ⟨_, _, parsed⟩ := bind_ok.mp parsed
  obtain ⟨_, sized, parsed⟩ := bind_ok.mp parsed
  obtain ⟨_, canonical, parsed⟩ := bind_ok.mp parsed
  have length := not_not.mp (failIf_ok.mp sized)
  have prefixed := not_not.mp (failIf_ok.mp canonical)
  cases parsed
  rw [List.length_drop, length]
  exact ⟨prefixed.symm, (List.take_append_drop _ _).symm⟩

def ReadsSealed (sha256 : Bytes → Bytes) (store : FileSealedStateStore) (plaintext : Bytes)
    (revision : Digest) (data : Bytes) : Prop :=
  plaintext.length ≤ store.maxEnvelopeBytes ∧ ∃ header envelope,
    parseSealedStateFile data store.maxEnvelopeBytes = .ok (header, revision, envelope) ∧
    store.opens (store.protectorBinding sha256 header) envelope = some plaintext

theorem ReadsSealed.holds {sha256 : Bytes → Bytes} {store : FileSealedStateStore}
    {plaintext data : Bytes} {revision : Digest}
    (reads : ReadsSealed sha256 store plaintext revision data) :
    HoldsSealed sha256 store plaintext revision data := by
  obtain ⟨_, header, envelope, parsed, opens⟩ := reads
  obtain ⟨canonical, split⟩ := parseSealedStateFile_ok parsed
  refine ⟨envelope, ?_, ?_⟩
  · rw [split, canonical]
  · rw [← canonical]
    exact opens

section

variable {before : History → Prop}

theorem sealed_loadLocked_under :
    Under world agent before ((world.sealed agent.1).loadLocked world.sha256)
      (fun found past => before past ∧ Sees (fun file state past =>
        ReadsSealed world.sha256 (world.sealed agent.1) state.1 state.2
          (Volume.contents file past)) found past) Anything := by
  refine withOpened_under fun linked file => ?_
  refine .failIf (fun _ _ => trivial) fun _ => ?_
  refine .bind (labelled_under validatePrivateSecretFile_under) fun _ => ?_
  refine .bind (labelled_under stat_under) fun info => ?_
  refine .failIf (fun _ _ => trivial) fun _ => ?_
  refine .failIf (fun _ _ => trivial) fun sized => ?_
  refine .bind (labelled_under readAll_under) fun data => ?_
  refine .bind contextErr_under fun _ => ?_
  refine .failIf (fun _ _ => trivial) fun _ => ?_
  refine .ofExcept (fun _ _ _ => trivial) ?_
  rintro ⟨header, revision, envelope⟩ parsed
  refine .bind (labelled_under protectorOpen_under) fun opened => ?_
  refine .failIf (fun _ _ => trivial) fun small => ?_
  refine .bind contextErr_under fun _ => ?_
  refine .pure fun past known => ?_
  obtain ⟨opens, ⟨visible, size⟩, read⟩ := known
  have whole : data = Volume.contents file past := by
    rw [read]
    exact List.take_of_length_le (by omega)
  rw [whole] at parsed
  exact ⟨visible, Nat.not_lt.mp small, header, envelope, parsed, opens⟩

theorem sealed_load_meets (valid : Valid world.law log) :
    ((world.sealed agent.1).load world.sha256).Meets world.law agent log
      (fun found later => ∀ state, found = some state → Settled
        (ReadsSealed world.sha256 (world.sealed agent.1) state.1 state.2) (history later))
      fun _ _ => True := by
  refine .bind (contextErr_meets valid) valid fun _ first _ firstValid _ => ?_
  refine .failIf (fun _ => trivial) fun _ => ?_
  refine .bind (contextErr_meets firstValid) firstValid fun _ second _ secondValid _ => ?_
  exact lockedSwap_meets (settled_under sealed_loadLocked_under) secondValid

theorem sealForRevision_under {revision : Digest} {plaintext : Bytes} {attempts length : Nat} :
    Under world agent before
      ((world.sealed agent.1).sealForRevision world.sha256 revision plaintext attempts length)
      (fun parts past => FitsSealed world.sha256 (world.sealed agent.1) plaintext revision
        (parts.1 ++ parts.2) ∧ before past) Anything := by
  induction attempts generalizing length with
  | zero => exact .throw fun _ _ => trivial
  | succ attempts ih =>
      refine .bind contextErr_under fun _ => ?_
      refine .bind (labelled_under protectorSeal_under) fun envelope => ?_
      refine .failIf (fun _ _ => trivial) fun fits => ?_
      refine .ite (fun _ => ih) fun settled => ?_
      have exactly : envelope.length = length := not_not.mp settled
      refine .bind (labelled_under protectorOpen_under) fun opened => ?_
      refine .failIf (fun _ _ => trivial) fun small => ?_
      refine .failIf (fun _ _ => trivial) fun recovered => ?_
      refine .bind contextErr_under fun _ => ?_
      have same : opened = plaintext := not_not.mp recovered
      subst same
      refine .pure fun past known => ⟨⟨by omega, envelope, by omega, by omega, ?_, ?_⟩, known.2⟩
      · rw [exactly]
      · rw [exactly]
        exact known.1

theorem prepareTemporary_under {fact : Bytes → Prop} {file : Nat} {header envelope : Bytes} :
    Under world agent (Filling world fact (header ++ envelope) file [])
      (FileSealedStateStore.prepareTemporary file header envelope)
      (fun _ past => Filled world fact (header ++ envelope) file past) Anything := by
  refine .bind (fillTemporary_under (by simp) (.bind (labelled_under protectFile_under) fun _ =>
    labelled_under validatePrivateSecretFile_under)) fun _ => ?_
  exact contextErr_under

theorem validateInstalled_under :
    Under world agent before FileSealedStateStore.validateInstalledSealedStateFile
      (fun _ past => before past) Anything := by
  refine .bind (labelled_under openPath_under) fun file => ?_
  refine .attempt (labelled_under validatePrivateSecretFile_under) (fun _ => ?_) fun error => ?_
  · refine .attempt close_under (fun _ => ?_) fun _ => ?_
    · exact .pure fun _ known => known.1
    · exact .pure fun _ known => known.1
  · refine .attempt close_under (fun _ => ?_) fun _ => ?_
    · exact .throw fun _ _ => trivial
    · exact .throw fun _ _ => trivial

theorem installCandidate_under {fact : Bytes → Prop} {candidate : Digest} {header envelope : Bytes}
    (swaps : agent.2.swaps = true) :
    Under world agent (Ready world fact (header ++ envelope))
      (FileSealedStateStore.installCandidate candidate header envelope)
      (fun answer past => answer.2 = none → answer.1 = candidate ∧ Settled fact past) Anything := by
  refine .bind (labelled_under createTemp_under) fun file => ?_
  refine .attempt prepareTemporary_under (fun _ => ?_) fun error => ?_
  · refine .attempt (labelled_under (installFile_under swaps)) (fun _ => ?_) fun error => ?_
    · have checked : Under world agent (Displays fact)
          (do FileSealedStateStore.validateInstalledSealedStateFile; Filing.syncParentDirectory)
          (fun _ past => Settled fact past) Anything :=
        .bind validateInstalled_under fun _ => syncParentDirectory_under
      refine .attempt checked (fun _ => ?_) fun error => ?_
      · exact .pure fun _ known _ => ⟨rfl, known⟩
      · exact .pure fun _ _ success => by cases success
    · refine .attempt remove_under (fun _ => ?_) fun _ => ?_
      · exact .pure fun _ _ success => by cases success
      · exact .pure fun _ _ success => by cases success
  · refine .attempt remove_under (fun _ => ?_) fun _ => ?_
    · exact .throw fun _ _ => trivial
    · exact .throw fun _ _ => trivial

theorem sealed_swapLocked_under {expected : Option Digest} {next : Bytes}
    (kind : world.kind = .sealedState) (swaps : agent.2.swaps = true) :
    Under world agent (fun _ => True)
      ((world.sealed agent.1).swapLocked world.sha256 world.draws expected next)
      (fun answer past => answer.2 = none →
        Settled (StoresSealed world.sha256 (world.sealed agent.1) next answer.1) past)
      Anything := by
  refine .bind sealed_loadLocked_under fun current => ?_
  have barrier : Under world agent
      (fun past => True ∧ Sees (fun file state past =>
        ReadsSealed world.sha256 (world.sealed agent.1) state.1 state.2
          (Volume.contents file past)) current past)
      (FileSealedStateStore.settleFound current) (fun _ _ => True) Anything := by
    cases current with
    | none => exact .pure fun _ _ => trivial
    | some state =>
        have synced : Under world agent
            (Displays (ReadsSealed world.sha256 (world.sealed agent.1) state.1 state.2))
            Filing.syncParentDirectory (fun _ past => Settled _ past) Anything :=
          syncParentDirectory_under
        exact synced.weaken (fun _ known => known.2) (fun _ _ _ => trivial) fun _ _ known => known
  refine .bind barrier fun _ => ?_
  refine .failIf (fun _ _ => trivial) fun _ => ?_
  refine .bind contextErr_under fun _ => ?_
  refine .bind newRevision_under fun candidate => ?_
  refine .bind sealForRevision_under ?_
  rintro ⟨header, envelope⟩
  refine .bind contextErr_under fun _ => ?_
  have installed : Under world agent
      (Ready world (StoresSealed world.sha256 (world.sealed agent.1) next candidate)
        (header ++ envelope)) (FileSealedStateStore.installCandidate candidate header envelope)
      (fun answer past => answer.2 = none → answer.1 = candidate ∧ Settled _ past) Anything :=
    installCandidate_under swaps
  refine installed.weaken ?_ ?_ fun _ _ known => known
  · rintro past ⟨fits, stamps, _⟩
    refine ⟨⟨stamps, fits⟩, fun below _ watermark => ?_⟩
    rw [kind] at watermark
    cases watermark
  · rintro ⟨revision, failure⟩ past candidateSettled success
    obtain ⟨rfl, settled⟩ := candidateSettled success
    exact settled

theorem sealed_swap_meets {expected : Option Digest} {next : Bytes}
    (kind : world.kind = .sealedState) (swaps : agent.2.swaps = true)
    (valid : Valid world.law log) :
    ((world.sealed agent.1).compareAndSwap world.sha256 world.draws expected next).Meets world.law
      agent log
      (fun answer later => answer.2 = none → (world.sealed agent.1).configured = true ∧ Settled
        (StoresSealed world.sha256 (world.sealed agent.1) next answer.1) (history later))
      fun _ _ => True := by
  refine .bind (contextErr_meets valid) valid fun _ first _ firstValid _ => ?_
  refine .failIf (fun _ => trivial) fun configured => ?_
  refine .failIf (fun _ => trivial) fun _ => ?_
  refine .bind (contextErr_meets firstValid) firstValid fun _ second _ secondValid _ => ?_
  refine .bind lock_meets secondValid fun _ third _ thirdValid _ => ?_
  refine .attempt (sealed_swapLocked_under kind swaps third thirdValid fun _ => trivial) thirdValid
    fun result fourth _ fourthValid known => ?_
  cases result with
  | error error =>
      refine .bind (unlock_meets known) fourthValid fun unlocked fifth _ _ _ => ?_
      exact .throw trivial
  | ok answer =>
      obtain ⟨revision, failure⟩ := answer
      have within : (fileLease world).Within agent.1 (fun past => failure = none → Settled
          (StoresSealed world.sha256 (world.sealed agent.1) next revision) past) fourth := known
      refine .bind (unlock_meets within) fourthValid fun unlocked fifth _ _ holds => ?_
      cases failure with
      | some error => exact .pure fun success => by cases success
      | none =>
          cases unlocked with
          | none => exact .pure fun _ => ⟨by simpa using configured, holds rfl⟩
          | some error => exact .pure fun success => by cases success

end

def FileOut.acknowledges : FileOut → Bool
  | .watermark (.ok (some _)) => true
  | .swapped (.ok ()) => true
  | .journal (.ok (some _)) => true
  | .revision (.ok _) => true
  | .sealedState (.ok (some _)) => true
  | .sealedRevision (.ok (_, none)) => true
  | _ => false

namespace FileWorld

variable (world : FileWorld)

def Acknowledged (client : Nat) : FileCall → FileOut → Bytes → Prop
  | .loadWatermark channel, .watermark (.ok (some watermark)), data =>
      StoresWatermark channel watermark data
  | .swapWatermark channel _ next, .swapped (.ok ()), data => HoldsWatermark channel next data
  | .loadJournal channel, .journal (.ok (some stored)), data =>
      decodePublicationJournal world.wire channel data = .ok stored
  | .swapJournal _ _ next, .revision (.ok revision), data =>
      HoldsJournal world.wire next revision data
  | .loadSealed, .sealedState (.ok (some (plaintext, revision))), data =>
      HoldsSealed world.sha256 (world.sealed client) plaintext revision data
  | .swapSealed _ next, .sealedRevision (.ok (revision, none)), data =>
      HoldsSealed world.sha256 (world.sealed client) next revision data
  | _, _, _ => False

def Accepts : FileCall → Prop
  | .swapWatermark channel _ next =>
      validateChannel channel = .ok () ∧ ¬(next.generation = 0 ∨ next.commit.isZero)
  | .swapJournal channel _ next => validateChannel channel = .ok () ∧ next.channel = channel ∧
      validatePublicationJournalState world.wire next = .ok ()
  | _ => True

def Promises (client : Nat) (call : FileCall) (out : FileOut) (log : FileLog) : Prop :=
  out.acknowledges = true →
    world.Accepts call ∧ Settled (world.Acknowledged client call out) (history log)

end FileWorld

theorem program_safe {client : Nat} {call : FileCall} (permitted : world.Permits call)
    (valid : Valid world.law log) :
    Safe world.law (client, call) (world.Promises client call) (world.program client call) log := by
  cases call with
  | loadWatermark channel =>
      refine Safe.bind (watermark_load_meets valid) valid ?_
      rintro (error | found | watermark) later _ _ holds acknowledged
      · cases acknowledged
      · cases acknowledged
      · exact ⟨trivial, holds watermark rfl⟩
  | swapWatermark channel expected next =>
      refine Safe.bind (watermark_swap_meets rfl valid) valid ?_
      rintro (error | value) later _ _ holds acknowledged
      · cases acknowledged
      · exact holds
  | loadJournal channel =>
      refine Safe.bind (journal_load_meets valid) valid ?_
      rintro (error | found | stored) later _ _ holds acknowledged
      · cases acknowledged
      · cases acknowledged
      · exact ⟨trivial, holds stored rfl⟩
  | swapJournal channel expected next =>
      refine Safe.bind (journal_swap_meets permitted rfl valid) valid ?_
      rintro (error | revision) later _ _ holds acknowledged
      · cases acknowledged
      · exact holds
  | loadSealed =>
      refine Safe.bind (sealed_load_meets valid) valid ?_
      rintro (error | found | state) later _ _ holds acknowledged
      · cases acknowledged
      · cases acknowledged
      · exact ⟨trivial, (holds state rfl).mono fun _ => ReadsSealed.holds⟩
  | swapSealed expected next =>
      refine Safe.bind (sealed_swap_meets permitted rfl valid) valid ?_
      rintro (error | ⟨revision, error | _⟩) later _ _ holds acknowledged
      · cases acknowledged
      · exact ⟨trivial, (holds rfl).2.mono fun _ => StoresSealed.holds⟩
      · cases acknowledged
  | powerFailure =>
      intro later _ _ answer effect served
      obtain ⟨survivor, torn, same, possible⟩ := served
      have failed : effect = some (.disk (.failed survivor torn)) := same
      subst failed
      refine ⟨?_, nofun⟩
      intro change applied
      cases applied
      exact ⟨possible, nofun⟩

theorem file_verified (world : FileWorld) :
    Verified world.machine world.keeps (fun _ _ _ => True)
      (fun client call out log => world.Permits call ∧ world.Promises client call out log) where
  stable _ _ _ _ _ _ := trivial
  fresh _ _ := trivial
  safe client memory call log valid _ permitted := by
    refine Safe.bind (program_safe permitted valid) valid ?_
    intro out later _ _ promised
    exact ⟨⟨permitted, promised⟩, trivial⟩

theorem history_suffix {older later : FileLog} (grown : older <:+ later) :
    history older <:+ history later := by
  obtain ⟨newer, rfl⟩ := grown
  rw [show history (newer ++ older) = history newer ++ history older from List.filterMap_append]
  exact List.suffix_append _ _

theorem renamed_by_swap (valid : Valid world.law log) {file : Nat} {older : History}
    (renamed : .renamed file :: older <:+ history log) :
    ∃ event ∈ log, diskChange event = some (.renamed file) ∧ event.call.swaps = true ∧
      world.Replaces older event.call file := by
  induction log with
  | nil => simp [history] at renamed
  | cons event earlier ih =>
      obtain ⟨⟨_, keeps⟩, rest⟩ := valid
      have later : .renamed file :: older <:+ history earlier →
          ∃ found ∈ event :: earlier, diskChange found = some (.renamed file) ∧
            found.call.swaps = true ∧ world.Replaces older found.call file := by
        intro inside
        obtain ⟨found, member, rest⟩ := ih rest inside
        exact ⟨found, List.mem_cons_of_mem _ member, rest⟩
      cases changed : diskChange event with
      | none =>
          rw [history, List.filterMap_cons, changed] at renamed
          exact later renamed
      | some change =>
          rw [history, List.filterMap_cons, changed] at renamed
          rcases List.suffix_cons_iff.mp renamed with same | inside
          · injection same with first second
            subst first second
            have replaces := (keeps _ changed).2 file rfl
            exact ⟨event, List.mem_cons_self, changed, replaces.1, replaces⟩
          · exact later inside

theorem follows_refl (data : Bytes) : world.Follows data data := fun _ => .inl rfl

theorem follows_trans {first second third : Bytes} (left : world.Follows first second)
    (right : world.Follows second third) : world.Follows first third := by
  intro kind
  rcases left kind with rfl | ⟨low, middle, recordedLow, recordedMiddle, below⟩
  · exact right kind
  · rcases right kind with rfl | ⟨middle', high, recordedMiddle', recordedHigh, above⟩
    · exact .inr ⟨low, middle, recordedLow, recordedMiddle, below⟩
    · obtain rfl : middle = middle' := Option.some.inj (recordedMiddle.symm.trans recordedMiddle')
      exact .inr ⟨low, high, recordedLow, recordedHigh, Int.le_trans below above⟩

theorem follows_of_onTop (valid : Valid world.law log) {old new : Nat}
    (onTop : OnTop (history log) old new) :
    world.Follows (Volume.contents old (history log)) (Volume.contents new (history log)) := by
  refine onTop.related follows_refl (fun left right => follows_trans left right)
    (orderly_of_valid valid) ?_
  intro older below next renamed visible
  obtain ⟨_, _, _, _, replaces⟩ := renamed_by_swap valid renamed
  exact replaces.2 below visible

theorem settled_later {fact : Bytes → Prop} {later : FileLog} (settled : Settled fact (history log))
    (valid : Valid world.law later) (grown : log <:+ later) :
    ∃ file current, Volume.current (history later) = some current ∧
      OnTop (history later) file current ∧ fact (Volume.contents file (history later)) := by
  obtain ⟨file, durable, holds⟩ := settled
  have orderly := orderly_of_valid valid
  have suffix := history_suffix grown
  have earlier : Orderly (history log) := Each.suffix orderly suffix
  obtain ⟨current, visible, onTop⟩ :=
    durable.rests.mono orderly suffix (Volume.current (history later)) (.inl rfl)
  have installed := Volume.installed_of_found earlier (.inl durable.1)
  refine ⟨file, current, visible, onTop, ?_⟩
  rw [installed.contents_eq orderly suffix]
  exact holds

theorem acknowledged_state_survives (world : FileWorld)
    {before after final : Config FileRequest FileAnswer FileCall FileEffect Unit FileOut}
    {label : Label FileRequest FileAnswer FileCall FileEffect FileOut}
    {labels : List (Label FileRequest FileAnswer FileCall FileEffect FileOut)}
    {client : Nat} {call : FileCall} {out : FileOut}
    (reached : world.machine.Reachable before) (step : world.machine.Step before label after)
    (returned : label.Returns client call out) (acknowledged : out.acknowledges = true)
    (run : world.machine.Run after labels final) :
    (∃ file current, Volume.current (history final.log) = some current ∧
      OnTop (history final.log) file current ∧
      world.Acknowledged client call out (Volume.contents file (history final.log))) ∧
    (∀ file, .renamed file ∈ history final.log → ∃ event ∈ final.log,
      diskChange event = some (.renamed file) ∧ event.call.swaps = true) ∧
    ∀ channel watermark, call = .loadWatermark channel → out = .watermark (.ok (some watermark)) →
      ∀ label' last client' channel' watermark', world.machine.Step final label' last →
        label'.Returns client' (.loadWatermark channel') (.watermark (.ok (some watermark'))) →
        watermark.generation ≤ watermark'.generation := by
  have beforeSafe := (file_verified world).reachable reached
  obtain ⟨afterSafe, promised⟩ := step.safe (file_verified world) beforeSafe
  obtain ⟨permitted, settled⟩ := promised client call out returned
  have finalSafe := run.safe (file_verified world) afterSafe
  have grown := run.log_suffix
  refine ⟨settled_later (settled acknowledged).2 finalSafe.valid grown, ?_, ?_⟩
  · intro file member
    obtain ⟨older, inside⟩ := exists_split_of_mem member
    obtain ⟨event, inLog, changed, swaps, _⟩ := renamed_by_swap finalSafe.valid inside
    exact ⟨event, inLog, changed, swaps⟩
  · rintro channel watermark rfl rfl label' last client' channel' watermark' next returned'
    obtain ⟨lastSafe, promised'⟩ := next.safe (file_verified world) finalSafe
    obtain ⟨_, settled'⟩ := promised' _ _ _ returned'
    obtain ⟨_, file', durable', decoded'⟩ := settled' rfl
    obtain ⟨file, current, visible, onTop, decoded⟩ :=
      settled_later (settled rfl).2 lastSafe.valid (grown.trans next.log_suffix)
    obtain rfl : file' = current := Option.some.inj (durable'.1.symm.trans visible)
    have recorded := decodeWatermark_ok decoded.2.2
    have recorded' := decodeWatermark_ok decoded'.2.2
    rcases follows_of_onTop lastSafe.valid onTop permitted with same | ⟨low, high, first, second, le⟩
    · rw [same, recorded'] at recorded
      have equal := Option.some.inj recorded
      omega
    · rw [recorded] at first
      rw [recorded'] at second
      have lowEq := Option.some.inj first
      have highEq := Option.some.inj second
      omega

/-! A watermark that is stored, loses its machine, and is loaded and advanced. -/

namespace SampleWatermark

def site : FileWorld where
  kind := .watermark
  wire := concreteWire
  sha256 data := data
  sealed _ := ⟨[1], 1, fun _ _ => none⟩
  draws := 1

def watermark (generation : Nat) : Watermark :=
  ⟨⟨List.replicate 32 1⟩, generation, ⟨List.replicate 32 (UInt8.ofNat generation)⟩⟩

def stored : List (Turn Unit FileCall) :=
  [.call 0 fun _ => some (.swapWatermark (ascii "c") none (watermark 1)), .proceed 0 20,
    .call 1 fun _ => some .powerFailure, .proceed 1 1,
    .call 0 fun _ => some (.loadWatermark (ascii "c")), .proceed 0 8]

end SampleWatermark

theorem acknowledged_state_survives_loaded : ∃ before label after client call out,
    SampleWatermark.site.machine.Reachable before ∧
    SampleWatermark.site.machine.Step before label after ∧ label.Returns client call out ∧
    out.acknowledges = true ∧ ∃ file current, Volume.current (history after.log) = some current ∧
      OnTop (history after.log) file current ∧
      SampleWatermark.site.Acknowledged client call out
        (Volume.contents file (history after.log)) := by
  have computed : (((Simulation.environment SampleWatermark.site).play SampleWatermark.stored
      SampleWatermark.site.machine.start).bind
      ((Simulation.environment SampleWatermark.site).finish 0)).any
      (fun result => result.2.1.acknowledges) = true := by
    decide +kernel
  obtain ⟨before, label, after, call, out, reached, step, returned, acknowledged⟩ :=
    Environment.exists_return computed
  have survives := acknowledged_state_survives SampleWatermark.site reached step returned
    acknowledged (.nil after)
  exact ⟨before, label, after, 0, call, out, reached, step, returned, acknowledged, survives.1⟩

end S3Disk.LocalState
