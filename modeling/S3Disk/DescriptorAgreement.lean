import S3Disk.ConcreteWire
import S3Disk.DescriptorWorld
import S3Disk.Library.Calls
import S3Disk.Library.Script

/-! Agreement on the descriptor of a repository. -/

namespace S3Disk

open Concurrent
open ClientEncryption (Derivation Profile Sealing SealedFor Distinct opened aeadOverhead)
open DescriptorLog (objects sealings)

namespace DescriptorWorld

/-! Reading and writing through the layers. -/

variable {world : DescriptorWorld} {log later start : DescriptorLog}
  {agent : Nat × DescriptorCall} {key : Bytes} {profile : Profile} {layers : List Profile}
  {plaintext envelope : Bytes} {options : GetOptions}

theorem sealObject_meets (valid : Valid world.law log) :
    (profile.sealObject world.derivation key plaintext).Meets world.law agent log
      (fun envelope later =>
        SealedFor world.derivation profile key plaintext envelope (sealings later))
      fun _ _ => True := by
  refine .failIf (fun _ => trivial) fun _ => ?_
  refine .bind messageSalt_meets valid fun salt later _ laterValid salted => ?_
  refine .ofExcept (fun _ _ => trivial) fun secret derived => ?_
  obtain ⟨_, _, _, rfl⟩ := ClientEncryption.objectAEAD_ok derived
  refine .bind aeadSeal_meets laterValid fun ciphertext final _ _ sealed => ?_
  exact .pure ⟨salt, ciphertext, salted, sealed.1, rfl, sealed.2⟩

theorem openObject_meets (valid : Valid world.law log) :
    (profile.openObject world.derivation key envelope).Meets world.law agent log
      (fun plaintext later =>
        SealedFor world.derivation profile key plaintext envelope (sealings later))
      fun _ _ => True := by
  refine .failIf (fun _ => trivial) fun _ => ?_
  refine .failIf (fun _ => trivial) fun shaped => ?_
  dsimp only
  refine .ofExcept (fun _ _ => trivial) fun secret derived => ?_
  obtain ⟨_, _, salted, rfl⟩ := ClientEncryption.objectAEAD_ok derived
  refine .bind aeadOpen_meets valid fun answer later _ laterValid found => ?_
  cases answer with
  | none => exact .throw trivial
  | some plaintext =>
      refine .failIf (fun _ => trivial) fun _ => .pure ?_
      obtain ⟨made, located, rfl⟩ := Option.map_eq_some_iff.mp found.symm
      have member := List.mem_of_find?_eq_some located
      have matched := List.find?_some located
      simp only [Bool.and_eq_true, beq_iff_eq] at matched
      obtain ⟨⟨secret, associated⟩, ciphertext⟩ := matched
      have sized := (sealings_ideal laterValid).2 made member
      have header := not_not.mp fun other => shaped (.inr other)
      refine ⟨_, made.ciphertext, salted, sized, ?_, ?_⟩
      · rw [ciphertext, List.append_assoc, List.take_append_drop]
        conv_lhs => rw [← List.take_append_drop clientEncryptionEnvelopeHeader.length envelope, header]
      · rw [← secret, ← associated]
        exact member

theorem openObject_opens (valid : Valid world.law log) (configured : profile.configured = true)
    (keyed : validateClientEncryptionObjectKey key = .ok ())
    (small : plaintext.length ≤ clientEncryptionMaxPlaintextBytes)
    (sealed : SealedFor world.derivation profile key plaintext envelope (sealings log)) :
    (profile.openObject world.derivation key envelope).Meets world.law agent log
      (fun result _ => result = plaintext) fun _ _ => False := by
  have length := sealed.length
  obtain ⟨salt, ciphertext, salted, sized, rfl, member⟩ := sealed
  obtain ⟨saltPart, ciphertextPart⟩ := @ClientEncryption.split_envelope salt ciphertext salted
  refine .failIf (fun large => ?_) fun _ => ?_
  · omega
  refine .failIf (fun broken => ?_) fun _ => ?_
  · rcases broken with short | other
    · omega
    · rw [List.append_assoc, List.take_left] at other
      exact other rfl
  dsimp only
  rw [saltPart, ciphertextPart, ClientEncryption.objectAEAD_eq configured keyed salted]
  refine .ofExcept nofun fun secret derived => ?_
  cases derived
  refine .bind aeadOpen_meets valid fun answer later grown laterValid found => ?_
  rw [(sealings_ideal laterValid).1.opened_eq (sealings_subset grown member)] at found
  subst found
  exact .failIf (fun large => absurd small (Nat.not_le.mpr large)) fun _ => .pure rfl

theorem layeredGet_meets (valid : Valid world.law log) :
    (layeredGet world.derivation layers key options).Meets world.law agent log
      (fun object later => ∃ stored, objects later key = some stored ∧
        world.Unwraps key (sealings later) layers stored.data object.data)
      fun _ _ => True := by
  induction layers generalizing options log with
  | nil =>
      exact (storeGet_meets (List.suffix_refl log)).weaken valid
        (fun object _ _ _ stored => ⟨object, stored, rfl⟩) fun _ _ _ _ _ => trivial
  | cons profile rest ih =>
      refine .bind ((contextErr_meets (List.suffix_refl log)).lenient valid) valid
        fun _ checked _ checkedValid _ => ?_
      refine .failIf (fun _ => trivial) fun _ => ?_
      refine .bind (ih checkedValid) checkedValid fun object read _ readValid found => ?_
      obtain ⟨stored, present, unwraps⟩ := found
      refine .bind (openObject_meets readValid) readValid fun plaintext opened grown openedValid
        sealed => ?_
      refine .failIf (fun _ => trivial) fun _ => ?_
      refine .bind ((contextErr_meets (List.suffix_refl opened)).lenient openedValid) openedValid
        fun _ final finalGrown finalValid _ => ?_
      have whole := grown.trans finalGrown
      exact .pure ⟨stored, objects_kept finalValid whole present, object.data,
        unwraps.mono (sealings_subset whole), sealed.mono (sealings_subset finalGrown)⟩

theorem layeredGet_reads {profile : Option Profile} {stored : Object} (valid : Valid world.law log)
    (grown : start <:+ log) (configured : profile.any (·.configured = false) = false)
    (keyed : validateClientEncryptionObjectKey key = .ok ())
    (small : plaintext.length ≤ maximumRepositoryDescriptorBytes)
    (present : objects log key = some stored)
    (unwraps : world.Unwraps key (sealings log) profile.toList stored.data plaintext) :
    (layeredGet world.derivation profile.toList key ⟨[], maximumRepositoryDescriptorBytes⟩).Meets
      world.law agent log (fun object _ => object = ⟨plaintext, stored.version⟩)
      fun _ later => ¬Undisturbed agent.1 start later := by
  have below : ∀ {options : GetOptions} {later : DescriptorLog}, log <:+ later →
      Valid world.law later → (Encrypting.storeGet key options).Meets world.law agent later
        (fun object _ => object = stored) fun _ final => ¬Undisturbed agent.1 start final :=
    fun further laterValid => (storeGet_meets (grown.trans further)).weaken laterValid
      (fun object final finalGrown finalValid found => by
        have kept := objects_kept finalValid (further.trans finalGrown) present
        rw [found] at kept
        exact Option.some.inj kept)
      fun _ _ _ _ failed => failed
  cases profile with
  | none =>
      obtain rfl : stored.data = plaintext := unwraps
      exact below (List.suffix_refl log) valid
  | some profile =>
      obtain ⟨_, rfl, sealed⟩ := unwraps
      have set : profile.configured = true := by simpa using configured
      have limit : plaintext.length ≤ clientEncryptionMaxPlaintextBytes :=
        Nat.le_trans small (by decide)
      refine .bind (contextErr_meets grown) valid fun _ checked further checkedValid _ => ?_
      refine .failIf (fun negative => absurd negative (by decide)) fun _ => ?_
      refine .bind (below further checkedValid) checkedValid fun object read readGrown readValid
        same => ?_
      subst same
      have whole := further.trans readGrown
      have opens : (profile.openObject world.derivation key object.data).Meets world.law agent read
          (fun result _ => result = plaintext) fun _ final => ¬Undisturbed agent.1 start final :=
        (openObject_opens readValid set keyed limit (sealed.mono (sealings_subset whole))).weaken
          readValid (fun _ _ _ _ same => same) fun _ _ _ _ impossible => impossible.elim
      refine .bind opens readValid fun result opened openedGrown openedValid same => ?_
      subst same
      refine .failIf (fun large => ?_) fun _ => ?_
      · dsimp only at large
        omega
      refine .bind (contextErr_meets (grown.trans (whole.trans openedGrown))) openedValid
        fun _ _ _ _ _ => .pure rfl

def Records (world : DescriptorWorld) (key : Bytes) (layers : List Profile)
    (descriptor : RepositoryDescriptor) (log : DescriptorLog) : Prop :=
  ∃ stored, objects log key = some stored ∧
    world.Unwraps key (sealings log) layers stored.data descriptor.encode

variable {descriptor expected : RepositoryDescriptor} {repository : OpenedRepository}

theorem Records.grow (records : world.Records key layers descriptor log) (grown : log <:+ later)
    (valid : Valid world.law later) : world.Records key layers descriptor later := by
  obtain ⟨stored, present, unwraps⟩ := records
  exact ⟨stored, objects_kept valid grown present, unwraps.mono (sealings_subset grown)⟩

theorem layeredPutIfAbsent_meets {profile : Option Profile}
    (creates : agent.2.operation.creates = true) (valid : Valid world.law log)
    (held : Commissioned world.wire descriptor)
    (named : key = descriptorKey descriptor.repositoryPrefix) :
    (layeredPutIfAbsent world.derivation profile.toList key descriptor.encode).Meets world.law agent
      log (fun _ later => world.Records key profile.toList descriptor later) fun _ _ => True := by
  have puts : ∀ {data : Bytes} {later : DescriptorLog}, Valid world.law later →
      world.Unwraps key (sealings later) profile.toList data descriptor.encode →
      (Encrypting.storePutIfAbsent key data).Meets world.law agent later
        (fun _ final => world.Records key profile.toList descriptor final) fun _ _ => True :=
    fun laterValid unwraps => (storePutIfAbsent_meets creates held named unwraps).weaken laterValid
      (fun _ _ grown _ stored => ⟨_, stored, unwraps.mono (sealings_subset grown)⟩)
      fun _ _ _ _ _ => trivial
  cases profile with
  | none => exact puts valid rfl
  | some profile =>
      refine .bind ((contextErr_meets (List.suffix_refl log)).lenient valid) valid
        fun _ checked _ checkedValid _ => ?_
      refine .bind (sealObject_meets checkedValid) checkedValid
        fun envelope made _ madeValid sealed => ?_
      refine .bind ((contextErr_meets (List.suffix_refl made)).lenient madeValid) madeValid
        fun _ final grown finalValid _ => ?_
      exact puts finalValid ⟨envelope, rfl, sealed.mono (sealings_subset grown)⟩

theorem decodeDescriptor_ok {object : Object}
    (decoded : OpenedRepository.decodeDescriptor world.wire object = .ok descriptor) :
    object.data = descriptor.encode := by
  obtain ⟨_, _, decoded⟩ := bind_ok.mp decoded
  obtain ⟨_, _, decoded⟩ := bind_ok.mp decoded
  obtain ⟨found, parsed, decoded⟩ := bind_ok.mp decoded
  obtain ⟨_, _, decoded⟩ := bind_ok.mp decoded
  cases decoded
  exact (decodeJSON_ok (mapError_ok.mp parsed)).2.2

theorem loadDescriptor_meets (valid : Valid world.law log) :
    (repository.loadDescriptor world.derivation world.wire).Meets world.law agent log
      (fun found later => ∀ descriptor, found = some descriptor →
        world.Records (descriptorKey repository.keyPrefix) repository.layers descriptor later)
      fun _ _ => True := by
  refine .attempt (layeredGet_meets valid) valid fun result later _ _ outcome => ?_
  cases result with
  | error error =>
      dsimp only
      split
      · exact .pure nofun
      · exact .throw trivial
  | ok object =>
      refine .ofExcept (fun _ _ => trivial) fun descriptor decoded => .pure ?_
      rintro _ ⟨⟩
      obtain ⟨stored, present, unwraps⟩ := outcome
      rw [decodeDescriptor_ok decoded] at unwraps
      exact ⟨stored, present, unwraps⟩

theorem readDescriptor_meets (valid : Valid world.law log) :
    (readDescriptor world.derivation world.wire repository).Meets world.law agent log
      (fun found later => ∀ descriptor, found = some descriptor →
        world.Records (descriptorKey repository.keyPrefix) repository.layers descriptor later)
      fun _ _ => True := by
  refine .attempt (loadDescriptor_meets valid) valid fun result later _ _ outcome => ?_
  cases result with
  | error error => exact .throw trivial
  | ok found => exact .pure outcome

theorem accept_meets {actual : RepositoryDescriptor} (records : world.Records key layers actual log) :
    Fallible.Meets world.law agent
      (.ofExcept (acceptRepositoryDescriptor expected actual)) log
      (fun result later => result = expected ∧ world.Records key layers expected later)
      fun _ _ => True := by
  show Outcome _ _ (acceptRepositoryDescriptor expected actual) log
  unfold acceptRepositoryDescriptor
  split
  · trivial
  · rename_i same
    obtain rfl := not_not.mp same
    exact ⟨rfl, records⟩

theorem openConfiguredRepository_meets (valid : Valid world.law log) :
    (openConfiguredRepository world.derivation world.wire repository expected).Meets world.law agent
      log (fun result later => result = expected ∧
        world.Records (descriptorKey repository.keyPrefix) repository.layers expected later)
      fun _ _ => True := by
  refine .bind (readDescriptor_meets valid) valid fun found later _ _ records => ?_
  cases found with
  | none => exact .throw trivial
  | some actual => exact accept_meets (records actual rfl)

theorem reconcileDescriptor_meets {putError : Err} (valid : Valid world.law log) :
    (reconcileDescriptor world.derivation world.wire repository expected putError).Meets world.law
      agent log (fun result later => result = expected ∧
        world.Records (descriptorKey repository.keyPrefix) repository.layers expected later)
      fun _ _ => True := by
  refine .attempt (loadDescriptor_meets valid) valid fun result later _ _ outcome => ?_
  cases result with
  | error error => exact .throw trivial
  | ok found =>
      cases found with
      | none => exact .throw trivial
      | some actual => exact accept_meets (outcome actual rfl)

theorem createDescriptor_meets {profile : Option Profile}
    (creates : agent.2.operation.creates = true) (valid : Valid world.law log)
    (held : Commissioned world.wire expected) (named : repository.keyPrefix = expected.repositoryPrefix)
    (layered : repository.layers = profile.toList) :
    (createDescriptor world.derivation world.wire repository expected).Meets world.law agent log
      (fun result later => result = expected ∧
        world.Records (descriptorKey repository.keyPrefix) repository.layers expected later)
      fun _ _ => True := by
  unfold createDescriptor
  rw [layered]
  refine .attempt (layeredPutIfAbsent_meets creates valid held (by rw [named])) valid
    fun result later _ laterValid outcome => ?_
  cases result with
  | error putError =>
      rw [← layered]
      exact reconcileDescriptor_meets laterValid
  | ok version =>
      exact .ofExcept (fun _ _ => trivial) fun _ _ => .pure ⟨rfl, outcome⟩

theorem writableLayers_ok {handle : StoreHandle} {profile : Option Profile}
    (layered : writableLayers handle profile = .ok layers) : layers = profile.toList := by
  cases handle with
  | raw =>
      cases profile with
      | none =>
          cases layered
          rfl
      | some profile =>
          simp only [writableLayers] at layered
          split at layered
          · cases layered
            rfl
          · cases layered
  | encrypted existing =>
      cases profile with
      | none => cases layered
      | some profile =>
          simp only [writableLayers] at layered
          split at layered
          · rename_i same
            simp only [Profile.equivalent, Bool.and_eq_true, beq_iff_eq] at same
            cases layered
            rw [same.2]
            rfl
          · cases layered

structure Settled (world : DescriptorWorld) (call : DescriptorCall)
    (descriptor : RepositoryDescriptor) (log : DescriptorLog) : Prop where
  requested : descriptorConfiguration world.wire call.keyPrefix call.config = .ok descriptor
  roomy : Roomy world.derivation (trimSlashes call.keyPrefix) call.config.clientEncryption
  sized : call.config.repositoryID.bytes.length = 32
  records : ∃ layers, world.Records (descriptorKey descriptor.repositoryPrefix) layers descriptor log ∧
    (call.operation.creates = true → layers = call.config.clientEncryption.toList)

theorem settled_of_configured {layered : Except Err (List Profile)} {call : DescriptorCall}
    (configured : configuredRepository world.derivation world.wire layered call.keyPrefix call.config =
      .ok (repository, expected))
    (sized : call.config.repositoryID.bytes.length = 32)
    (creates : call.operation.creates = true →
      repository.layers = call.config.clientEncryption.toList)
    {result : RepositoryDescriptor}
    (returned : result = expected ∧
      world.Records (descriptorKey repository.keyPrefix) repository.layers expected log) :
    world.Settled call result log := by
  obtain ⟨requested, _, roomy, named⟩ := configuredRepository_ok.mp configured
  obtain ⟨_, _, _, trimmed, _⟩ := descriptorConfiguration_ok requested
  obtain ⟨rfl, records⟩ := returned
  rw [named, ← trimmed] at records
  exact ⟨requested, roomy, sized, repository.layers, records, creates⟩

theorem program_meets {client : Nat} {call : DescriptorCall}
    (sized : call.config.repositoryID.bytes.length = 32) (valid : Valid world.law log) :
    (world.program call).Meets world.law (client, call) log
      (fun descriptor later => world.Settled call descriptor later) fun _ _ => True := by
  obtain ⟨operation, handle, keyPrefix, config⟩ := call
  cases operation with
  | initializeRepository confirmEmptyPrefix =>
      refine .ofExcept (fun _ _ => trivial) fun configured configuredOk => ?_
      obtain ⟨repository, expected⟩ := configured
      obtain ⟨requested, layered, roomy, named⟩ := configuredRepository_ok.mp configuredOk
      obtain ⟨_, _, _, trimmed, _⟩ := descriptorConfiguration_ok requested
      have layers := writableLayers_ok layered
      dsimp only
      refine .bind (readDescriptor_meets valid) valid fun found later _ laterValid records => ?_
      cases found with
      | some actual =>
          exact (accept_meets (records actual rfl)).weaken laterValid
            (fun _ _ _ _ returned => settled_of_configured configuredOk sized (fun _ => layers)
              returned) fun _ _ _ _ _ => trivial
      | none =>
          refine .failIf (fun _ => trivial) fun _ => ?_
          exact (createDescriptor_meets rfl laterValid (commissioned requested roomy sized)
            (named.trans trimmed.symm) layers).weaken laterValid
            (fun _ _ _ _ returned => settled_of_configured configuredOk sized (fun _ => layers)
              returned) fun _ _ _ _ _ => trivial
  | openRepository =>
      refine .ofExcept (fun _ _ => trivial) fun configured configuredOk => ?_
      obtain ⟨repository, expected⟩ := configured
      exact (openConfiguredRepository_meets valid).weaken valid
        (fun _ _ _ _ returned => settled_of_configured configuredOk sized nofun returned)
        fun _ _ _ _ _ => trivial
  | openReadOnlyRepository =>
      refine .ofExcept (fun _ _ => trivial) fun configured configuredOk => ?_
      obtain ⟨repository, expected⟩ := configured
      exact (openConfiguredRepository_meets valid).weaken valid
        (fun _ _ _ _ returned => settled_of_configured configuredOk sized nofun returned)
        fun _ _ _ _ _ => trivial

def Posts (world : DescriptorWorld) (_ : Nat) (call : DescriptorCall)
    (out : Except Err RepositoryDescriptor) (log : DescriptorLog) : Prop :=
  ∀ descriptor, out = .ok descriptor → world.Settled call descriptor log

theorem descriptors_verified (world : DescriptorWorld) :
    Verified world.machine world.Proper (fun _ _ _ => True) world.Posts where
  stable := fun _ _ _ _ _ _ => trivial
  fresh := fun _ _ => trivial
  safe := by
    intro client memory call log valid _ allowed
    refine Safe.bind (program_meets allowed valid) valid fun result later _ _ outcome => ?_
    refine ⟨?_, trivial⟩
    rintro descriptor rfl
    exact outcome

theorem Settled.grow {call : DescriptorCall} (settled : world.Settled call descriptor log)
    (grown : log <:+ later) (valid : Valid world.law later) :
    world.Settled call descriptor later := by
  obtain ⟨requested, roomy, sized, layers, records, creates⟩ := settled
  exact ⟨requested, roomy, sized, layers, records.grow grown valid, creates⟩

theorem Settled.agree {call call' : DescriptorCall} {descriptor' : RepositoryDescriptor}
    (valid : Valid world.law log) (settled : world.Settled call descriptor log)
    (settled' : world.Settled call' descriptor' log)
    (same : trimSlashes call'.keyPrefix = trimSlashes call.keyPrefix) :
    descriptor' = descriptor := by
  obtain ⟨requested, roomy, sized, layers, ⟨stored, present, unwraps⟩, _⟩ := settled
  obtain ⟨requested', roomy', sized', layers', ⟨stored', present', unwraps'⟩, _⟩ := settled'
  obtain ⟨_, _, _, trimmed, _⟩ := descriptorConfiguration_ok requested
  obtain ⟨_, _, _, trimmed', _⟩ := descriptorConfiguration_ok requested'
  have keys : descriptor'.repositoryPrefix = descriptor.repositoryPrefix := by
    rw [trimmed, trimmed', same]
  rw [keys] at present' unwraps'
  rw [present] at present'
  cases present'
  exact encode_injective (commissioned requested' roomy' sized') (commissioned requested roomy sized)
    (unwraps'.unique (sealings_ideal valid).1 unwraps)

theorem layers_of_suits {handle : StoreHandle} {profile : Option Profile}
    (suits : handle.Suits profile) (configured : profile.any (·.configured = false) = false) :
    writableLayers handle profile = .ok profile.toList ∧
      readOnlyLayers handle profile = .ok profile.toList := by
  rcases suits with rfl | ⟨existing, rfl, rfl⟩
  · cases profile with
    | none => exact ⟨rfl, rfl⟩
    | some profile =>
        have set : profile.configured = true := by simpa using configured
        simp [writableLayers, readOnlyLayers, set]
  · have set : existing.configured = true := by simpa using configured
    simp [writableLayers, readOnlyLayers, Profile.equivalent, set]

theorem openConfiguredRepository_opens {profile : Option Profile} (valid : Valid world.law log)
    (held : Commissioned world.wire expected)
    (configured : profile.any (·.configured = false) = false)
    (named : repository.keyPrefix = expected.repositoryPrefix)
    (layered : repository.layers = profile.toList)
    (records : world.Records (descriptorKey expected.repositoryPrefix) profile.toList expected log) :
    (openConfiguredRepository world.derivation world.wire repository expected).Meets world.law agent
      log (fun result _ => result = expected) fun _ later => ¬Undisturbed agent.1 log later := by
  obtain ⟨stored, present, unwraps⟩ := records
  obtain ⟨versioned, _⟩ := stored_describes valid present
  have loaded : (repository.loadDescriptor world.derivation world.wire).Meets world.law agent log
      (fun found later => found = some expected ∨
        (found = none ∧ ¬Undisturbed agent.1 log later))
      fun _ later => ¬Undisturbed agent.1 log later := by
    unfold OpenedRepository.loadDescriptor
    rw [layered, named]
    refine .attempt (layeredGet_reads valid (List.suffix_refl log) configured held.keyed
      held.length_encode_le present unwraps) valid fun result later _ _ outcome => ?_
    cases result with
    | error error =>
        dsimp only
        split
        · exact .pure (.inr ⟨rfl, outcome⟩)
        · exact .throw outcome
    | ok object =>
        obtain rfl : object = ⟨expected.encode, stored.version⟩ := outcome
        dsimp only
        rw [held.decode versioned]
        exact .pure (.inl rfl)
  have read : (readDescriptor world.derivation world.wire repository).Meets world.law agent log
      (fun found later => found = some expected ∨
        (found = none ∧ ¬Undisturbed agent.1 log later))
      fun _ later => ¬Undisturbed agent.1 log later := by
    refine .attempt loaded valid fun result later _ _ outcome => ?_
    cases result with
    | error error => exact .throw outcome
    | ok found => exact .pure outcome
  refine .bind read valid fun found later _ _ outcome => ?_
  rcases outcome with rfl | ⟨rfl, disturbed⟩
  · show Outcome _ _ (acceptRepositoryDescriptor expected expected) later
    simp only [acceptRepositoryDescriptor, ne_eq, not_true_eq_false, if_false]
    rfl
  · exact .throw disturbed

def Repeats (world : DescriptorWorld) (call other : DescriptorCall) : Prop :=
  descriptorConfiguration world.wire call.keyPrefix call.config =
      descriptorConfiguration world.wire other.keyPrefix other.config ∧
    call.config.clientEncryption = other.config.clientEncryption

theorem program_opens {client : Nat} {call other : DescriptorCall} (valid : Valid world.law log)
    (settled : world.Settled call descriptor log) (creates : call.operation.creates = true)
    (opens : other.operation.creates = false) (repeats : world.Repeats other call)
    (suits : other.handle.Suits other.config.clientEncryption) :
    (world.program other).Meets world.law (client, other) log
      (fun result _ => result = descriptor) fun _ later => ¬Undisturbed client log later := by
  obtain ⟨requested, roomy, sized, layers, records, same⟩ := settled
  obtain ⟨equal, profiles⟩ := repeats
  obtain ⟨_, identity, _, trimmed, _⟩ := descriptorConfiguration_ok requested
  have requested' := equal.trans requested
  obtain ⟨_, identity', _, trimmed', _⟩ := descriptorConfiguration_ok requested'
  have held := commissioned requested roomy sized
  rw [same creates, ← profiles] at records
  rw [← trimmed, trimmed', ← profiles] at roomy
  obtain ⟨writable, readOnly⟩ := layers_of_suits suits roomy.configured
  have opened : ∀ {layered : Except Err (List Profile)},
      layered = .ok other.config.clientEncryption.toList →
      configuredRepository world.derivation world.wire layered other.keyPrefix other.config =
        .ok (⟨trimSlashes other.keyPrefix, other.config.clientEncryption.toList⟩, descriptor) :=
    fun layered => configuredRepository_ok.mpr ⟨requested', layered, roomy, rfl⟩
  obtain ⟨operation, handle, keyPrefix, config⟩ := other
  cases operation with
  | initializeRepository confirmEmptyPrefix => cases opens
  | openRepository =>
      show (openRepository world.derivation world.wire handle keyPrefix config).Meets _ _ _ _ _
      unfold openRepository configuredWritableRepository
      rw [opened writable]
      exact openConfiguredRepository_opens valid held roomy.configured trimmed'.symm rfl records
  | openReadOnlyRepository =>
      show (openReadOnlyRepository world.derivation world.wire handle keyPrefix config).Meets
        _ _ _ _ _
      unfold openReadOnlyRepository configuredReadOnlyRepository
      rw [opened readOnly]
      exact openConfiguredRepository_opens valid held roomy.configured trimmed'.symm rfl records

def Reopens (client : Nat) (descriptor : RepositoryDescriptor) (start : DescriptorLog)
    (out : Except Err RepositoryDescriptor) (later : DescriptorLog) : Prop :=
  Undisturbed client start later → out = .ok descriptor

/-- Agreement on the descriptor: whatever succeeds returns what it asked for, and the same as
every other call on the prefix; what is stored stays; opening never writes; and what was
commissioned can be opened. -/
theorem repository_descriptor_agreement (world : DescriptorWorld) :
    (∀ before label after client call descriptor, world.machine.Reachable before →
      world.machine.Step before label after → label.Returns client call (.ok descriptor) →
      descriptorConfiguration world.wire call.keyPrefix call.config = .ok descriptor ∧
      ∀ labels before' label' after' client' call' descriptor',
        world.machine.Run after labels before' → world.machine.Step before' label' after' →
        label'.Returns client' call' (.ok descriptor') →
        trimSlashes call'.keyPrefix = trimSlashes call.keyPrefix → descriptor' = descriptor) ∧
    (∀ first labels last key object, world.machine.Reachable first →
      world.machine.Run first labels last → objects first.log key = some object →
      objects last.log key = some object) ∧
    (∀ config, world.machine.Reachable config → ∀ event ∈ config.log, event.op.writes = true →
      event.call.operation.creates = true) ∧
    ∀ before label after client call descriptor, world.machine.Reachable before →
      world.machine.Step before label after → label.Returns client call (.ok descriptor) →
      call.operation.creates = true →
      ∀ labels first last client' call' out, world.machine.Run after labels first →
        world.machine.Completes client' call' out first last → call'.operation.creates = false →
        world.Repeats call' call → call'.handle.Suits call'.config.clientEncryption →
        Undisturbed client' first.log last.log → out = .ok descriptor := by
  have verified := descriptors_verified world
  refine ⟨?_, ?_, ?_, ?_⟩
  · intro before label after client call descriptor reached step returns
    obtain ⟨afterSafe, posts⟩ := step.safe verified (verified.reachable reached)
    have settled := posts client call _ returns descriptor rfl
    refine ⟨settled.requested, ?_⟩
    intro labels before' label' after' client' call' descriptor' run step' returns' same
    obtain ⟨finalSafe, posts'⟩ := step'.safe verified (run.safe verified afterSafe)
    have settled' := posts' client' call' _ returns' descriptor' rfl
    have kept := settled.grow (run.log_suffix.trans step'.log_suffix) finalSafe.valid
    exact kept.agree finalSafe.valid settled' same
  · intro first labels last key object reached run stored
    have lastSafe := run.safe verified (verified.reachable reached)
    exact objects_kept lastSafe.valid run.log_suffix stored
  · intro config reached event member writes
    obtain ⟨newer, older, same⟩ := List.append_of_mem member
    have inside : event :: older <:+ config.log := ⟨newer, same.symm⟩
    exact ((verified.reachable reached).valid.kept inside).creates writes
  · intro before label after client call descriptor reached step returns creates labels first last
      client' call' out run completes opens repeats suits undisturbed
    obtain ⟨afterSafe, posts⟩ := step.safe verified (verified.reachable reached)
    have firstSafe := run.safe verified afterSafe
    have settled := (posts client call _ returns descriptor rfl).grow run.log_suffix firstSafe.valid
    have promised : Reopens client' descriptor first.log out last.log := by
      refine completes.promise verified firstSafe fun memory _ _ => ?_
      refine Safe.bind (program_opens firstSafe.valid settled creates opens repeats suits)
        firstSafe.valid fun result later _ _ outcome => ?_
      intro quiet
      cases result with
      | error error => exact absurd quiet outcome
      | ok found => exact congrArg Except.ok outcome
    exact promised undisturbed

/-! Two clients that commission one prefix at once. The store applies the write of one of
them and reports a timeout. -/

namespace Sample

def configuration : RepositoryConfig where
  repositoryID := ⟨List.replicate 32 7⟩
  clientEncryption := none
  chunking := ⟨0, 0, 0, 0⟩

def commission (keyPrefix : Bytes) : DescriptorCall :=
  ⟨.initializeRepository true, .raw, keyPrefix, configuration⟩

def site : DescriptorWorld where
  derivation := ⟨fun secret _ _ => secret, fun _ data => data⟩
  wire := concreteWire
  own := 0

def version : Version := ⟨[1], []⟩

def respond (log : DescriptorLog) (_ : Nat × DescriptorCall) : (op : ObjectRequest) →
    Option (ObjectAnswer op × Option DescriptorEffect)
  | .store (.get key options) => match objects log key with
      | none => some (.error Sentinel.objectNotFound.error, none)
      | some object =>
          if options.ifNoneMatch = [] ∧
              ¬Objects.readLimit site.own options < object.data.length then
            some (.ok object, none)
          else none
  | .store (.putIfAbsent key data) => match objects log key with
      | none => some (.error (.plain ["timeout"]), some (.stored ⟨key, data, version⟩))
      | some _ => some (.error Sentinel.precondition.error, none)
  | _ => none

def environment : Environment site.machine where
  respond := respond
  served log agent op answer effect found := by
    cases op with
    | store request =>
        cases request with
        | get key options =>
            simp only [respond] at found
            split at found
            · rename_i absent
              cases found
              refine ⟨none, rfl, .inl ⟨rfl, ?_⟩⟩
              rw [absent]
              exact ⟨_, rfl, by decide⟩
            · rename_i object present
              split at found
              · rename_i small
                cases found
                refine ⟨none, rfl, .inl ⟨rfl, ?_⟩⟩
                rw [present]
                simp [Objects.Reads, small]
              · cases found
        | putIfAbsent key data =>
            simp only [respond] at found
            split at found
            · rename_i absent
              cases found
              exact ⟨some ⟨key, data, version⟩, rfl, .inr ⟨.inr ⟨rfl, absent, version,
                ⟨by decide, by decide, by decide⟩, rfl⟩, _, rfl⟩⟩
            · rename_i object present
              cases found
              refine ⟨none, rfl, .inl (.inr ⟨?_, rfl, _, rfl, by decide⟩)⟩
              intro absent
              rw [Objects.Matches, present] at absent
              cases absent
        | head key => cases found
        | compareAndSwap key expected data => cases found
    | contextErr => cases found
    | random => cases found
    | sealWith secret plaintext associated => cases found
    | openWith secret ciphertext associated => cases found

instance (client : Nat) (memory : Unit) (call : DescriptorCall) :
    Decidable (site.machine.allowed client memory call) :=
  inferInstanceAs (Decidable (call.config.repositoryID.bytes.length = 32))

def race : List (Turn Unit DescriptorCall) :=
  [.call 0 fun _ => some (commission (ascii "/p/")), .call 1 fun _ => some (commission (ascii "p")),
    .proceed 0 1, .proceed 1 1, .proceed 1 1, .proceed 0 1]

end Sample

theorem repository_descriptor_agreement_race :
    ∃ before label after call descriptor, Sample.site.machine.Reachable before ∧
      Sample.site.machine.Step before label after ∧ label.Returns 0 call (.ok descriptor) ∧
      descriptorConfiguration concreteWire call.keyPrefix call.config = .ok descriptor := by
  have computed : ((Sample.environment.play Sample.race Sample.site.machine.start).bind
      (Sample.environment.finish 0)).any (fun finished => finished.2.1.isOk) = true := by
    decide +kernel
  obtain ⟨before, label, after, call, out, reached, step, returns, checked⟩ :=
    Environment.exists_return computed
  cases out with
  | error error => cases checked
  | ok descriptor =>
      exact ⟨before, label, after, call, descriptor, reached, step, returns,
        ((repository_descriptor_agreement Sample.site).1 before label after 0 call descriptor reached
          step returns).1⟩

end DescriptorWorld

end S3Disk
