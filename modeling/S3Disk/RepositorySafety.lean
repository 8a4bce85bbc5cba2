import S3Disk.Disturbance

/-! The contracts of the repository's operations: what a publisher may rely on when
they return, whatever the other publishers do meanwhile. -/

namespace S3Disk

open Concurrent

section

variable {world : World} {agent : Nat × PublisherCall} {log : Log} {α : Type}

theorem keeps_of_read {client : Nat} {call : PublisherCall} {op : Request} {answer : Answer op}
    (reads : op.writes = false) : Keeps world log ⟨client, call, op, answer, none⟩ where
  immutable key data isPut := by
    subst isPut
    cases reads
  writtenAhead channel expected data isWrite := by
    subst isWrite
    cases reads
  stored key object stored := by cases stored
  recorded journal channel state revision recorded := by cases recorded

theorem neutral_of_report {op : Request} {answer : Answer op} {effect : Option Effect} {error : Err}
    (reported : reports op answer = some error) :
    Neutral agent error (⟨agent.1, agent.2, op, answer, effect⟩ :: log) := by
  intro either
  refine ⟨_, log, List.suffix_refl _, rfl, rfl, ?_⟩
  intro undisturbed
  have foreign := undisturbed.reports error reported
  rcases either with conflict | split
  · simp [foreign.1] at conflict
  · simp [foreign.2] at split

theorem ask_meets {op : Request} {next : Answer op → Proc α} {post : α → Log → Prop}
    {fail : Err → Log → Prop}
    (step : ∀ later, Interferes agent.1 log later → Valid world.law later → ∀ answer effect,
      world.serves agent.1 later op answer effect →
      Keeps world later ⟨agent.1, agent.2, op, answer, effect⟩ ∧
      Fallible.Meets world.law agent (next answer)
        (⟨agent.1, agent.2, op, answer, effect⟩ :: later) post fail) :
    Fallible.Meets world.law agent (Program.ask op next) log post fail :=
  Fallible.Meets.ask step

theorem read_meets (op : Request) (reads : op.writes = false) (next : Answer op → Except Err α)
    (faithful : ∀ answer error, next answer = .error error → reports op answer = some error) :
    Fallible.Meets world.law agent (Program.ask op fun answer => .done (next answer)) log
      (fun value later => ∃ answer older, later = ⟨agent.1, agent.2, op, answer, none⟩ :: older ∧
        log <:+ older ∧ Valid world.law older ∧ world.serves agent.1 older op answer none ∧
        next answer = .ok value)
      (Neutral agent) := by
  refine ask_meets ?_
  intro later interferes valid answer effect served
  obtain rfl : effect = none := effect_none_of_read reads served
  refine ⟨keeps_of_read reads, ?_⟩
  cases result : next answer with
  | error error => exact neutral_of_report (faithful answer error result)
  | ok value => exact ⟨answer, later, rfl, interferes.suffix, valid, served, result⟩

theorem request_meets (op : Request) (reads : op.writes = false) (next : Answer op → Except Err α)
    (faithful : ∀ answer error, next answer = .error error → reports op answer = some error)
    (valid : Valid world.law log) :
    Fallible.Meets world.law agent (Program.ask op fun answer => .done (next answer)) log
      (fun _ _ => True) (Neutral agent) :=
  (read_meets op reads next faithful).weaken valid (fun _ _ _ _ _ => trivial)
    (fun _ _ _ _ neutral => neutral)

theorem contextErr_meets (valid : Valid world.law log) :
    Fallible.Meets world.law agent contextErr log (fun _ _ => True) (Neutral agent) := by
  refine request_meets .contextErr rfl _ ?_ valid
  intro answer error failed
  cases answer with
  | none => cases failed
  | some found =>
      cases failed
      rfl

theorem storeGet_meets (key : Key) (options : GetOptions) (valid : Valid world.law log) :
    Fallible.Meets world.law agent (storeGet key options) log
      (fun object later => object ∈ versions later key ∧
        Did later agent.1 (.get key options) (.ok object))
      (Neutral agent) := by
  refine (read_meets (.get key options) rfl id ?_).weaken valid ?_ (fun _ _ _ _ neutral => neutral)
  · rintro answer error rfl
    rfl
  · rintro object later _ _ ⟨answer, older, rfl, _, _, served, rfl⟩
    exact ⟨mem_versions_mono (List.suffix_cons _ _) served.2, _, _, List.mem_cons_self⟩

theorem storeHead_meets (key : Key) (valid : Valid world.law log) :
    Fallible.Meets world.law agent (storeHead key) log
      (fun _ later => versions later key ≠ []) (Neutral agent) := by
  refine (read_meets (.head key) rfl id ?_).weaken valid ?_ (fun _ _ _ _ neutral => neutral)
  · rintro answer error rfl
    rfl
  · rintro version later _ _ ⟨answer, older, rfl, _, _, served, rfl⟩
    obtain ⟨_, object, member, _⟩ := served
    exact List.ne_nil_of_mem (mem_versions_mono (List.suffix_cons _ _) member)

theorem verifierVerify_meets (keyID message signature : Bytes) (valid : Valid world.law log) :
    Fallible.Meets world.law agent (verifierVerify keyID message signature) log
      (fun _ _ => world.trusts agent.1 keyID message signature) (Neutral agent) := by
  refine (read_meets (.verify keyID message signature) rfl id ?_).weaken valid ?_
    (fun _ _ _ _ neutral => neutral)
  · rintro answer error rfl
    rfl
  · rintro accepted later _ _ ⟨answer, older, rfl, _, _, served, rfl⟩
    exact served.2

theorem neutral_tagged {sentinel : Sentinel} {detail : List Fragment}
    (foreign : sentinel ≠ .publishConflict ∧ sentinel ≠ .splitBrain) :
    Neutral agent (sentinel.tagged detail) log := by
  apply neutral_of_sentinels
  simp [Sentinel.tagged, Err.is, foreign.1.symm, foreign.2.symm]

theorem neutral_error {sentinel : Sentinel}
    (foreign : sentinel ≠ .publishConflict ∧ sentinel ≠ .splitBrain) :
    Neutral agent sentinel.error log := by
  apply neutral_of_sentinels
  simp [Sentinel.error, Err.is, foreign.1.symm, foreign.2.symm]

theorem validateStoreVersion_neutral {operation : List Fragment} {version : Version} {error : Err}
    (failed : validateStoreVersion operation version = .error error) :
    Neutral agent error log := by
  unfold validateStoreVersion at failed
  split at failed
  · cases failed
    exact neutral_tagged (by decide)
  · split at failed
    · cases failed
      exact neutral_tagged (by decide)
    · cases failed

theorem decodeJSON_neutral {json : JSON α} {data : Bytes} {error : Err}
    (failed : decodeJSON json data = .error error) : Neutral agent error log := by
  unfold decodeJSON at failed
  split at failed
  · cases failed
    exact neutral_of_sentinels (by decide)
  · split at failed
    · cases failed
      exact neutral_tagged (by decide)
    · split at failed
      · cases failed
      · cases failed
        exact neutral_tagged (by decide)

theorem ChildrenStored.mono {wire : Wire} {log later : Log} {data : Bytes} {kind : Kind}
    (stored : ChildrenStored wire log data kind) (grown : log <:+ later) :
    ChildrenStored wire later data kind := by
  obtain ⟨children, found, held⟩ := stored
  exact ⟨children, found, fun child member => versions_nonempty_mono grown (held child member)⟩

theorem keeps_of_store {client : Nat} {call : PublisherCall} {op : Request} {answer : Answer op}
    {effect : Option Effect} (served : world.serves client log op answer effect)
    (unjournaled : ∀ journal channel expected next, op ≠ .swapJournal journal channel expected next)
    (immutable : ∀ key data, op = .putIfAbsent key data → ∃ kind digest, key = .object kind digest)
    (ahead : ∀ channel expected data,
      op = .compareAndSwap (.signedReference channel) expected data →
      WrittenAhead world log client channel data)
    (stores : ∀ key object, effect = some (.stored key object) →
      StoresWell world.repository.wire log key object.data) :
    Keeps world log ⟨client, call, op, answer, effect⟩ where
  immutable := immutable
  writtenAhead := ahead
  stored := stores
  recorded journal channel state revision recorded := by
    obtain rfl : effect = some (.recorded journal channel state revision) := recorded
    obtain ⟨expected, _, _, same⟩ := serves_recorded served
    exact absurd same (unjournaled journal channel expected state)

theorem storePutIfAbsent_meets {kind : Kind} {data : Bytes}
    (children : ChildrenStored world.repository.wire log data kind) :
    Fallible.Meets world.law agent
      (storePutIfAbsent (.object kind (world.repository.wire.digestObject kind data)) data) log
      (fun _ later => versions later
        (.object kind (world.repository.wire.digestObject kind data)) ≠ [])
      (Neutral agent) := by
  refine ask_meets ?_
  intro later interferes valid answer effect served
  refine ⟨keeps_of_store served (by simp) ?_ (by simp) ?_, ?_⟩
  · rintro key found ⟨⟩
    exact ⟨kind, _, rfl⟩
  · rintro key object rfl
    obtain ⟨_, _, _, same | same⟩ := serves_stored served
    · obtain ⟨rfl, rfl⟩ : key = _ ∧ object.data = data := by simpa [eq_comm] using same.1
      exact ⟨rfl, children.mono interferes.suffix⟩
    · cases same
  · cases answer with
    | error error => exact neutral_of_report rfl
    | ok version =>
        rcases served with ⟨_, error, failed⟩ | ⟨stored, rfl, _⟩
        · cases failed
        · exact List.ne_nil_of_mem (mem_versions_of_effect List.mem_cons_self rfl)

theorem putImmutable_meets {kind : Kind} {data : Bytes} (valid : Valid world.law log)
    (children : ChildrenStored world.repository.wire log data kind) :
    Fallible.Meets world.law agent (world.repository.putImmutable kind data) log
      (fun digest later => digest = world.repository.wire.digestObject kind data ∧
        versions later (.object kind digest) ≠ [])
      (Neutral agent) := by
  unfold Repository.putImmutable
  refine .attempt (storeHead_meets _ valid) valid ?_
  rintro (missing | version) log1 grown1 valid1 headed
  · refine .failIf (fun _ => headed.within _) fun _ => ?_
    refine .attempt (storePutIfAbsent_meets (children.mono grown1)) valid1 ?_
    rintro (refused | version) log2 grown2 valid2 written
    · refine .failIf (fun _ => written.within _) fun _ => ?_
      refine .attempt (storeHead_meets _ valid2) valid2 ?_
      rintro (error | version) log3 grown3 valid3 again
      · exact .throw (again.within _)
      · exact .ofExcept (fun _ => validateStoreVersion_neutral) fun _ _ => .pure ⟨rfl, again⟩
    · exact .ofExcept (fun _ => validateStoreVersion_neutral) fun _ _ => .pure ⟨rfl, written⟩
  · exact .ofExcept (fun _ => validateStoreVersion_neutral) fun _ _ => .pure ⟨rfl, headed⟩

theorem putManifest_meets {kind : Kind} {json : JSON α} {value : α} (valid : Valid world.law log)
    (children : (json.marshal value).length ≤ maxMetadataObjectBytes →
      ChildrenStored world.repository.wire log (json.marshal value) kind) :
    Fallible.Meets world.law agent (world.repository.putManifest kind json value) log
      (fun digest later => digest = world.repository.wire.digestObject kind (json.marshal value) ∧
        (json.marshal value).length ≤ maxMetadataObjectBytes ∧
        versions later (.object kind digest) ≠ [])
      (Neutral agent) := by
  unfold Repository.putManifest
  refine .failIf (fun _ => neutral_tagged (by decide)) fun small => ?_
  have small : (json.marshal value).length ≤ maxMetadataObjectBytes := by omega
  refine (putImmutable_meets valid (children small)).weaken valid ?_
    (fun _ _ _ _ neutral => neutral)
  rintro digest later _ _ ⟨hashed, present⟩
  exact ⟨hashed, small, present⟩

theorem getImmutableLimited_meets {kind : Kind} {digest : Digest} {limit : Nat}
    (valid : Valid world.law log) :
    Fallible.Meets world.law agent (world.repository.getImmutableLimited kind digest limit) log
      (fun data later => world.repository.wire.digestObject kind data = digest ∧
        ∃ object ∈ versions later (.object kind digest), object.data = data)
      (Neutral agent) := by
  unfold Repository.getImmutableLimited
  refine .attempt (storeGet_meets _ _ valid) valid ?_
  rintro (error | object) log1 grown1 valid1 read
  · exact .throw (read.within _)
  · refine .ofExcept (fun _ => validateStoreVersion_neutral) fun _ _ => ?_
    refine .failIf (fun _ => neutral_tagged (by decide)) fun _ => ?_
    refine .failIf (fun _ => neutral_tagged (by decide)) fun hashed => ?_
    exact .pure ⟨not_not.mp hashed, object, read.1, rfl⟩

theorem getManifest_meets {kind : Kind} {json : JSON α} {digest : Digest}
    (valid : Valid world.law log) :
    Fallible.Meets world.law agent (world.repository.getManifest kind json digest) log
      (fun manifest later => ∃ object ∈ versions later (.object kind digest),
        world.repository.wire.digestObject kind object.data = digest ∧
          decodeJSON json object.data = .ok manifest)
      (Neutral agent) := by
  unfold Repository.getManifest
  refine .bind (getImmutableLimited_meets valid) valid ?_
  rintro data log1 grown1 valid1 ⟨hashed, object, member, rfl⟩
  cases decoded : decodeJSON json object.data with
  | error error => exact decodeJSON_neutral decoded
  | ok manifest => exact ⟨object, member, hashed, decoded⟩

theorem validateStoreVersion_ok {operation : List Fragment} {version : Version} :
    validateStoreVersion operation version = .ok () ↔ version.eTag ≠ [] ∧
      version.eTag.length ≤ maxStoreVersionTokenBytes ∧
      version.versionID.length ≤ maxStoreVersionTokenBytes := by
  unfold validateStoreVersion
  split
  · simp_all
  · split
    · simp only [reduceCtorEq, false_iff]
      rintro ⟨_, first, second⟩
      omega
    · simp_all

theorem validateReferenceKeyID_neutral {keyID : Bytes} {error : Err}
    (failed : validateReferenceKeyID keyID = .error error) : Neutral agent error log := by
  unfold validateReferenceKeyID at failed
  split at failed
  · cases failed
    exact neutral_tagged (by decide)
  · split at failed
    · cases failed
    · cases failed
      exact neutral_tagged (by decide)

theorem validateChannel_neutral {channel : Channel} {error : Err}
    (failed : validateChannel channel = .error error) : Neutral agent error log := by
  unfold validateChannel at failed
  split at failed
  · cases failed
    exact neutral_tagged (by decide)
  · cases failed

theorem checkSignedEnvelope_neutral {wire : Wire} {data : Bytes} {channel : Channel}
    {verifier : ReferenceVerifier} {error : Err}
    (failed : checkSignedEnvelope wire data channel verifier = .error error) :
    Neutral agent error log := by
  unfold checkSignedEnvelope at failed
  split at failed
  · rename_i decodeError decoded
    cases failed
    exact (decodeJSON_neutral decoded).wraps (by decide)
  · dsimp only at failed
    split at failed
    · cases failed
      exact (neutral_tagged (by decide)).wraps (by decide)
    · split at failed
      · rename_i keyError checked
        cases failed
        exact (validateReferenceKeyID_neutral checked).wraps (by decide)
      · cases failed

theorem checkSignedEnvelope_ok {wire : Wire} {data : Bytes} {channel : Channel}
    {verifier : ReferenceVerifier} {envelope : SignedReferenceEnvelope}
    (checked : checkSignedEnvelope wire data channel verifier = .ok envelope) :
    decodeJSON wire.envelope data = .ok envelope ∧
      envelope.reference.repositoryID = verifier.repositoryID ∧
      envelope.reference.generation ≠ 0 ∧ envelope.reference.commit.isZero = false := by
  unfold checkSignedEnvelope at checked
  split at checked
  · cases checked
  · rename_i found decoded
    dsimp only at checked
    split at checked
    · cases checked
    · rename_i mismatch
      split at checked
      · cases checked
      · cases checked
        simp only [not_or, not_not] at mismatch
        exact ⟨decoded, mismatch.2.2.1, mismatch.2.2.2.2.1, by simpa using mismatch.2.2.2.2.2.1⟩

theorem verifySignedSnapshotReference_meets {data : Bytes} {channel : Channel}
    {verifier : ReferenceVerifier} (valid : Valid world.law log) :
    Fallible.Meets world.law agent
      (verifySignedSnapshotReference world.repository.wire data channel verifier) log
      (fun reference _ => ∃ envelope,
        checkSignedEnvelope world.repository.wire data channel verifier = .ok envelope ∧
        world.trusts agent.1 envelope.reference.keyID
          (referenceSigningMessage (world.repository.wire.payload.marshal envelope.reference))
          envelope.signature ∧
        reference.point = ⟨envelope.reference.generation, envelope.reference.commit⟩)
      (Neutral agent) := by
  unfold verifySignedSnapshotReference
  refine .failIf (fun _ => neutral_tagged (by decide)) fun _ => ?_
  refine .ofExcept (fun _ => checkSignedEnvelope_neutral) fun envelope checked => ?_
  refine .attempt (verifierVerify_meets _ _ _ valid) valid ?_
  rintro (error | accepted) log1 grown1 valid1 verified
  · exact .throw (verified.wraps (by decide))
  · exact .pure ⟨envelope, checked, verified, rfl⟩

theorem verifySnapshotReference_signed {data : Bytes} {channel : Channel}
    {verifier : ReferenceVerifier} (valid : Valid world.law log) :
    Fallible.Meets world.law agent
      (verifySnapshotReference world.repository.wire data channel (some verifier)) log
      (fun identity _ => data ≠ [] ∧ ∃ envelope,
        checkSignedEnvelope world.repository.wire data channel verifier = .ok envelope ∧
        world.trusts agent.1 envelope.reference.keyID
          (referenceSigningMessage (world.repository.wire.payload.marshal envelope.reference))
          envelope.signature ∧
        identity.generation = envelope.reference.generation ∧
        identity.commit = envelope.reference.commit)
      (Neutral agent) := by
  unfold verifySnapshotReference
  refine .bind (contextErr_meets valid) valid ?_
  rintro _ log1 grown1 valid1 _
  refine .ofExcept (fun _ => validateChannel_neutral) fun _ _ => ?_
  refine .failIf (fun _ => neutral_error (by decide)) fun sized => ?_
  refine .bind (verifySignedSnapshotReference_meets valid1) valid1 ?_
  rintro reference log2 grown2 valid2 ⟨envelope, checked, trusted, same⟩
  refine .failIf (fun _ => neutral_error (by decide)) fun nonzero => ?_
  exact .pure ⟨fun empty => sized (.inl empty), envelope, checked, trusted,
    congrArg Point.generation same, congrArg Point.commit same⟩

theorem verifySnapshotReference_plain {data : Bytes} {channel : Channel}
    (valid : Valid world.law log) :
    Fallible.Meets world.law agent
      (verifySnapshotReference world.repository.wire data channel none) log
      (fun identity _ => pointOf world.repository.wire (.reference channel) data =
          some ⟨identity.generation, identity.commit⟩ ∧ identity.generation ≠ 0)
      (Neutral agent) := by
  unfold verifySnapshotReference
  refine .bind (contextErr_meets valid) valid ?_
  rintro _ log1 grown1 valid1 _
  refine .ofExcept (fun _ => validateChannel_neutral) fun _ _ => ?_
  refine .failIf (fun _ => neutral_error (by decide)) fun sized => ?_
  refine .ofExcept ?_ fun reference parsed => ?_
  · intro error failed
    obtain ⟨cause, _, rfl⟩ := mapError_error.mp failed
    exact neutral_tagged (by decide)
  · refine .failIf (fun _ => neutral_error (by decide)) fun nonzero => ?_
    have decoded := mapError_ok.mp parsed
    refine .pure ⟨by simp [pointOf, decoded, Except.toOption, SnapshotReference.point], ?_⟩
    exact fun zero => nonzero (.inr (.inl zero))

structure SignedRead (world : World) (log : Log) (client : Nat) (channel : Channel)
    (remote : Watermark) (object : Object) : Prop where
  member : object ∈ versions log (.signedReference channel)
  observed : Observed world log client channel object.data remote
  asserted : signedWatermark world.repository.wire object.data = some remote
  generation : remote.generation ≠ 0
  commit : remote.commit.isZero = false
  version : object.version.eTag ≠ [] ∧ object.version.eTag.length ≤ maxStoreVersionTokenBytes ∧
    object.version.versionID.length ≤ maxStoreVersionTokenBytes
  nonempty : object.data ≠ []

theorem SignedRead.mono {later : Log} {client : Nat} {channel : Channel} {remote : Watermark}
    {object : Object} (read : SignedRead world log client channel remote object)
    (grown : log <:+ later) : SignedRead world later client channel remote object :=
  { read with
    member := mem_versions_mono grown read.member
    observed := read.observed.mono grown }

theorem SignedRead.visible {client : Nat} {channel : Channel} {remote : Watermark}
    {object : Object} (read : SignedRead world log client channel remote object) :
    Visible world.repository.wire log channel remote := ⟨object, read.member, read.asserted⟩

structure PlainRead (wire : Wire) (log : Log) (channel : Channel) (reference : SnapshotReference)
    (object : Object) : Prop where
  member : object ∈ versions log (.reference channel)
  asserted : pointOf wire (.reference channel) object.data = some reference.point
  generation : reference.generation ≠ 0

theorem getReference_signed {channel : Channel} {ifNoneMatch : Bytes}
    {verifier : ReferenceVerifier} (valid : Valid world.law log) :
    Fallible.Meets world.law agent
      (world.repository.getReferenceWithVerifier channel ifNoneMatch (some verifier)) log
      (fun found later => SignedRead world later agent.1 channel
        ⟨verifier.repositoryID, found.1.generation, found.1.commit⟩ found.2)
      (Neutral agent) := by
  unfold Repository.getReferenceWithVerifier
  refine .bind (storeGet_meets _ _ valid) valid ?_
  rintro object log1 grown1 valid1 ⟨member, did⟩
  refine .ofExcept (fun _ => validateStoreVersion_neutral) fun _ version => ?_
  refine .bind (verifySnapshotReference_signed valid1) valid1 ?_
  rintro identity log2 grown2 valid2 ⟨nonempty, envelope, checked, trusted, sameGeneration,
    sameCommit⟩
  obtain ⟨decoded, repositoryID, generation, commit⟩ := checkSignedEnvelope_ok checked
  refine .pure ?_
  simp only [sameGeneration, sameCommit]
  exact
    { member := mem_versions_mono grown2 member
      observed := ⟨⟨_, object.version, did.mono grown2⟩, envelope, checked, trusted, rfl⟩
      asserted := by simp [signedWatermark, decoded, Except.toOption, repositoryID]
      generation
      commit
      version := validateStoreVersion_ok.mp version
      nonempty }

theorem getReference_plain {channel : Channel} {ifNoneMatch : Bytes}
    (valid : Valid world.law log) :
    Fallible.Meets world.law agent
      (world.repository.getReferenceWithVerifier channel ifNoneMatch none) log
      (fun found later => PlainRead world.repository.wire later channel found.1 found.2)
      (Neutral agent) := by
  unfold Repository.getReferenceWithVerifier
  refine .bind (storeGet_meets _ _ valid) valid ?_
  rintro object log1 grown1 valid1 ⟨member, _⟩
  refine .ofExcept (fun _ => validateStoreVersion_neutral) fun _ version => ?_
  refine .bind (verifySnapshotReference_plain valid1) valid1 ?_
  rintro identity log2 grown2 valid2 ⟨asserted, generation⟩
  exact .pure ⟨mem_versions_mono grown2 member, asserted, generation⟩

theorem compareAndSwap_meets {key : Key} {expected : Option Version} {data : Bytes}
    (ahead : ∀ channel, key = .signedReference channel → WrittenAhead world log agent.1 channel data)
    (stores : ∀ later, log <:+ later → Valid world.law later → ETagIs later key expected →
      StoresWell world.repository.wire later key data) (valid : Valid world.law log) :
    Fallible.Meets world.law agent (Repository.compareAndSwap key expected data) log
      (fun _ later => (∃ version, Did later agent.1 (.compareAndSwap key expected data)
        (.ok version)) ∧ ∃ object ∈ versions later key, object.data = data)
      (Neutral agent) := by
  have requested : Fallible.Meets world.law agent (storeCompareAndSwap key expected data) log
      (fun _ later => (∃ version, Did later agent.1 (.compareAndSwap key expected data)
        (.ok version)) ∧ ∃ object ∈ versions later key, object.data = data)
      (Neutral agent) := by
    refine ask_meets ?_
    intro later interferes laterValid answer effect served
    refine ⟨keeps_of_store served (by simp) (by simp) ?_ ?_, ?_⟩
    · intro channel condition written same
      cases same
      exact (ahead channel rfl).mono interferes.suffix
    · rintro target object rfl
      obtain ⟨condition, holds, _, same | same⟩ := serves_stored served
      · cases same.1
      · obtain ⟨rfl, rfl, rfl⟩ : target = key ∧ condition = expected ∧ object.data = data := by
          simpa [eq_comm] using same
        exact stores later interferes.suffix laterValid holds
    · cases answer with
      | error error => exact neutral_of_report rfl
      | ok version =>
          rcases served with ⟨_, error, failed⟩ | ⟨stored, rfl, _⟩
          · cases failed
          · exact ⟨⟨version, _, _, List.mem_cons_self⟩, _,
              mem_versions_of_effect List.mem_cons_self rfl, rfl⟩
  unfold Repository.compareAndSwap
  refine .bind requested valid ?_
  intro version log1 grown1 valid1 written
  exact .ofExcept (fun _ => validateStoreVersion_neutral) fun _ _ => .pure written

end

end S3Disk
