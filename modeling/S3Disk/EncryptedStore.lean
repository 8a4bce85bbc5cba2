import S3Disk.ClientEncryption
import S3Disk.Library.Checks
import S3Disk.Library.Refinement

/-! The encrypted store refines a plain one. The store below meets the contract of a store
and may fail; authenticated encryption is ideal: a ciphertext is new, and it is opened with
the key and the associated data it was sealed with and with no others. -/

namespace S3Disk.ClientEncryption

open Concurrent

structure Sealing where
  secret : Bytes
  plaintext : Bytes
  associated : Bytes
  ciphertext : Bytes
  deriving DecidableEq, Repr

def Distinct (sealings : List Sealing) : Prop :=
  ∀ left ∈ sealings, ∀ right ∈ sealings, left.ciphertext = right.ciphertext → left = right

def opened (sealings : List Sealing) (secret ciphertext associated : Bytes) : Option Bytes :=
  (sealings.find? fun sealing => sealing.secret == secret && sealing.associated == associated &&
    sealing.ciphertext == ciphertext).map Sealing.plaintext

def aeadOverhead : Nat := 12 + 16

/-- The store below, what was sealed so far, and whether a request of this call failed. -/
structure Below where
  objects : Objects
  sealings : List Sealing
  failed : Bool

def Below.fail (below : Below) : Below := { below with failed := true }

def served (own : Nat) (below : Below) : (op : ObjectRequest) → ObjectAnswer op → Below → Prop
  | .contextErr, none, later => later = below
  | .contextErr, some _, later => later = below.fail
  | .store call, answer, later => ∃ write,
      (below.objects.Performs own call answer write ∧
        later = { below with objects := below.objects.apply write }) ∨
      (below.objects.Fails call answer write ∧
        later = { below.fail with objects := below.objects.apply write })
  | .random, .ok _, later => later = below
  | .random, .error _, later => later = below.fail
  | .sealWith secret plaintext associated, ciphertext, later =>
      ciphertext.length = plaintext.length + aeadOverhead ∧
      (∀ sealing ∈ below.sealings, sealing.ciphertext ≠ ciphertext) ∧
      later = { below with
        sealings := ⟨secret, plaintext, associated, ciphertext⟩ :: below.sealings }
  | .openWith secret ciphertext associated, answer, later =>
      answer = opened below.sealings secret ciphertext associated ∧ later = below

theorem objectAssociatedData_injective {profile profile' : Profile} {key key' salt salt' : Bytes}
    (sized : profile.repositoryID.bytes.length = 32)
    (sized' : profile'.repositoryID.bytes.length = 32)
    (salted : salt.length = clientEncryptionSaltBytes)
    (salted' : salt'.length = clientEncryptionSaltBytes)
    (same : profile.objectAssociatedData key salt = profile'.objectAssociatedData key' salt') :
    profile.repositoryID = profile'.repositoryID ∧ salt = salt' ∧ key = key' := by
  simp only [Profile.objectAssociatedData, List.append_assoc, List.append_cancel_left_eq] at same
  obtain ⟨identity, same⟩ := List.append_inj same (sized.trans sized'.symm)
  obtain ⟨salts, same⟩ := List.append_inj same (salted.trans salted'.symm)
  obtain ⟨_, keys⟩ := List.append_inj same rfl
  refine ⟨?_, salts, keys⟩
  cases identity' : profile.repositoryID with
  | mk bytes =>
      cases other : profile'.repositoryID with
      | mk bytes' =>
          rw [identity', other] at identity
          exact congrArg RepositoryID.mk identity

/-- This envelope was sealed with this profile for this key. -/
def SealedFor (derivation : Derivation) (profile : Profile) (key plaintext envelope : Bytes)
    (sealings : List Sealing) : Prop :=
  ∃ salt ciphertext, salt.length = clientEncryptionSaltBytes ∧
    ciphertext.length = plaintext.length + aeadOverhead ∧
    envelope = clientEncryptionEnvelopeHeader ++ salt ++ ciphertext ∧
    ⟨derivation.hkdf profile.encryptionMaster salt (profile.objectAssociatedData key salt),
      plaintext, profile.objectAssociatedData key salt, ciphertext⟩ ∈ sealings

variable {derivation : Derivation} {profile : Profile} {own : Nat} {below : Below}

theorem Distinct.opened {sealings : List Sealing} {sealing : Sealing} (distinct : Distinct sealings)
    (member : sealing ∈ sealings) {secret associated plaintext : Bytes}
    (found : ClientEncryption.opened sealings secret sealing.ciphertext associated = some plaintext) :
    sealing = ⟨secret, plaintext, associated, sealing.ciphertext⟩ := by
  obtain ⟨other, located, rfl⟩ := Option.map_eq_some_iff.mp found
  have matched := List.find?_some located
  simp only [Bool.and_eq_true, beq_iff_eq] at matched
  obtain ⟨⟨rfl, rfl⟩, same⟩ := matched
  have equal := distinct other (List.mem_of_find?_eq_some located) sealing member same
  rw [← equal]

theorem Distinct.opened_eq {sealings : List Sealing} {sealing : Sealing}
    (distinct : Distinct sealings) (member : sealing ∈ sealings) :
    ClientEncryption.opened sealings sealing.secret sealing.ciphertext sealing.associated =
      some sealing.plaintext := by
  cases found : ClientEncryption.opened sealings sealing.secret sealing.ciphertext
      sealing.associated with
  | some plaintext =>
      have same := distinct.opened member found
      rw [same]
  | none =>
      have absent := List.find?_eq_none.mp (Option.map_eq_none_iff.mp found) sealing member
      simp at absent

theorem Distinct.cons {sealings : List Sealing} {sealing : Sealing} (distinct : Distinct sealings)
    (fresh : ∀ other ∈ sealings, other.ciphertext ≠ sealing.ciphertext) :
    Distinct (sealing :: sealings) := by
  intro left inLeft right inRight same
  rcases List.mem_cons.mp inLeft with rfl | oldLeft
  · rcases List.mem_cons.mp inRight with rfl | oldRight
    · rfl
    · exact absurd same.symm (fresh right oldRight)
  · rcases List.mem_cons.mp inRight with rfl | oldRight
    · exact absurd same (fresh left oldLeft)
    · exact distinct left oldLeft right oldRight same

theorem SealedFor.mono {key plaintext envelope : Bytes} {sealings more : List Sealing}
    (sealed : SealedFor derivation profile key plaintext envelope sealings)
    (grown : sealings ⊆ more) : SealedFor derivation profile key plaintext envelope more := by
  obtain ⟨salt, ciphertext, salted, sized, same, member⟩ := sealed
  exact ⟨salt, ciphertext, salted, sized, same, grown member⟩

theorem SealedFor.length {key plaintext envelope : Bytes} {sealings : List Sealing}
    (sealed : SealedFor derivation profile key plaintext envelope sealings) :
    envelope.length = plaintext.length + clientEncryptionCiphertextOverhead := by
  obtain ⟨salt, ciphertext, salted, sized, rfl, _⟩ := sealed
  have header : clientEncryptionEnvelopeHeader.length = 8 := by decide
  simp only [List.length_append, header, salted, sized, aeadOverhead,
    clientEncryptionCiphertextOverhead]
  omega

theorem objectAEAD_ok {key salt secret : Bytes}
    (derived : profile.objectAEAD derivation key salt = .ok secret) :
    profile.configured = true ∧ validateClientEncryptionObjectKey key = .ok () ∧
      salt.length = clientEncryptionSaltBytes ∧
      secret = derivation.hkdf profile.encryptionMaster salt
        (profile.objectAssociatedData key salt) := by
  obtain ⟨_, configured, derived⟩ := bind_ok.mp derived
  obtain ⟨_, valid, derived⟩ := bind_ok.mp derived
  obtain ⟨_, salted, derived⟩ := bind_ok.mp derived
  cases derived
  exact ⟨by simpa using failIf_ok.mp configured, valid, not_not.mp (failIf_ok.mp salted), rfl⟩

theorem objectAEAD_eq {key salt : Bytes} (configured : profile.configured = true)
    (valid : validateClientEncryptionObjectKey key = .ok ())
    (salted : salt.length = clientEncryptionSaltBytes) :
    profile.objectAEAD derivation key salt = .ok (derivation.hkdf profile.encryptionMaster salt
      (profile.objectAssociatedData key salt)) :=
  bind_ok.mpr ⟨(), failIf_ok.mpr (by simp [configured]), bind_ok.mpr ⟨(), valid,
    bind_ok.mpr ⟨(), failIf_ok.mpr (by simp [salted]), rfl⟩⟩⟩

theorem split_envelope {salt ciphertext : Bytes} (salted : salt.length = clientEncryptionSaltBytes) :
    ((clientEncryptionEnvelopeHeader ++ salt ++ ciphertext).drop
        clientEncryptionEnvelopeHeader.length).take clientEncryptionSaltBytes = salt ∧
      ((clientEncryptionEnvelopeHeader ++ salt ++ ciphertext).drop
        clientEncryptionEnvelopeHeader.length).drop clientEncryptionSaltBytes = ciphertext := by
  rw [List.append_assoc, List.drop_left, ← salted]
  exact ⟨List.take_left, List.drop_left⟩

/-! The programs, one request after the other. -/

theorem contextErr_always :
    Encrypting.contextErr.Always (served own) below (fun _ later => later = below)
      fun _ later => later = below.fail := by
  refine .request fun answer later served => ?_
  cases answer with
  | none => exact served
  | some error => exact served

theorem messageSalt_always :
    Encrypting.messageSalt.Always (served own) below
      (fun salt later => salt.length = clientEncryptionSaltBytes ∧ later = below)
      fun _ later => later = below.fail := by
  refine .request fun answer later served => ?_
  cases answer with
  | error error => exact served
  | ok salt => exact ⟨salt.property, served⟩

theorem aeadSeal_always {secret plaintext associated : Bytes} {fail : Err → Below → Prop} :
    (Encrypting.aeadSeal secret plaintext associated).Always (served own) below
      (fun ciphertext later => ciphertext.length = plaintext.length + aeadOverhead ∧
        (∀ sealing ∈ below.sealings, sealing.ciphertext ≠ ciphertext) ∧
        later = { below with
          sealings := ⟨secret, plaintext, associated, ciphertext⟩ :: below.sealings }) fail :=
  .request fun _ _ served => served

theorem aeadOpen_always {secret ciphertext associated : Bytes} {fail : Err → Below → Prop} :
    (Encrypting.aeadOpen secret ciphertext associated).Always (served own) below
      (fun answer later => answer = opened below.sealings secret ciphertext associated ∧
        later = below) fail :=
  .request fun _ _ served => served

def writeRefusal (objectKey plaintext : Bytes) : Option Err :=
  if plaintext.length > clientEncryptionMaxPlaintextBytes then
    some (Sentinel.resourceLimit.tagged ["encrypted plaintext exceeds ",
      .number clientEncryptionMaxPlaintextBytes, " bytes"])
  else match validateClientEncryptionObjectKey objectKey with
    | .error error => some error
    | .ok () => none

theorem sealObject_always {key plaintext : Bytes} (configured : profile.configured = true)
    (distinct : Distinct below.sealings) :
    (profile.sealObject derivation key plaintext).Always (served own) below
      (fun envelope later => writeRefusal key plaintext = none ∧ Distinct later.sealings ∧
        SealedFor derivation profile key plaintext envelope later.sealings ∧
        ∃ sealing, later = { below with sealings := sealing :: below.sealings })
      fun error later => (writeRefusal key plaintext = some error ∧ later = below) ∨
        later = below.fail := by
  refine .failIf (fun large => ?_) fun small => ?_
  · exact .inl ⟨by simp [writeRefusal, large], rfl⟩
  refine .bind messageSalt_always (fun _ _ failed => .inr failed) fun salt _ drawn => ?_
  obtain ⟨salted, rfl⟩ := drawn
  refine .ofExcept (fun error refused => ?_) fun secret derived => ?_
  · cases valid : validateClientEncryptionObjectKey key with
    | ok value =>
        rw [objectAEAD_eq configured valid salted] at refused
        cases refused
    | error invalid =>
        have same : profile.objectAEAD derivation key salt = .error invalid := by
          simp [Profile.objectAEAD, configured, valid, failIf, bind, Except.bind, pure, Except.pure]
        have equal := Except.error.inj (same.symm.trans refused)
        exact .inl ⟨by simp [writeRefusal, small, valid, equal], rfl⟩
  · obtain ⟨_, valid, _, rfl⟩ := objectAEAD_ok derived
    refine .bind aeadSeal_always (fun _ _ failed => failed) fun ciphertext _ sealed => ?_
    obtain ⟨sized, fresh, rfl⟩ := sealed
    refine .pure ⟨by simp [writeRefusal, small, valid], distinct.cons fresh, ?_, _, rfl⟩
    exact ⟨salt, ciphertext, salted, sized, rfl, List.mem_cons_self⟩

theorem openObject_always {key plaintext envelope : Bytes} (configured : profile.configured = true)
    (distinct : Distinct below.sealings) (valid : validateClientEncryptionObjectKey key = .ok ())
    (small : plaintext.length ≤ clientEncryptionMaxPlaintextBytes)
    (sealed : SealedFor derivation profile key plaintext envelope below.sealings) :
    (profile.openObject derivation key envelope).Always (served own) below
      (fun result later => result = plaintext ∧ later = below) fun _ _ => False := by
  have length := sealed.length
  obtain ⟨salt, ciphertext, salted, sized, rfl, member⟩ := sealed
  obtain ⟨saltPart, ciphertextPart⟩ := @split_envelope salt ciphertext salted
  refine .failIf (fun large => ?_) fun _ => ?_
  · omega
  refine .failIf (fun broken => ?_) fun _ => ?_
  · rcases broken with short | other
    · omega
    · rw [List.append_assoc, List.take_left] at other
      exact other rfl
  dsimp only
  rw [saltPart, ciphertextPart, objectAEAD_eq configured valid salted]
  refine .ofExcept nofun fun secret derived => ?_
  cases derived
  refine .bind aeadOpen_always (fun _ _ failed => failed) fun answer _ found => ?_
  obtain ⟨rfl, rfl⟩ := found
  rw [distinct.opened_eq member]
  refine .failIf (fun large => absurd small (Nat.not_le.mpr large)) fun _ => ?_
  exact .pure ⟨rfl, rfl⟩

theorem openObject_bound {other : Profile} {key otherKey plaintext envelope : Bytes}
    (sized : profile.repositoryID.bytes.length = 32)
    (sizedOther : other.repositoryID.bytes.length = 32) (distinct : Distinct below.sealings)
    (sealed : SealedFor derivation profile key plaintext envelope below.sealings)
    (differs : otherKey ≠ key ∨ other.repositoryID ≠ profile.repositoryID) :
    (other.openObject derivation otherKey envelope).Always (served own) below
      (fun _ _ => False) fun _ _ => True := by
  obtain ⟨salt, ciphertext, salted, _, rfl, member⟩ := sealed
  obtain ⟨saltPart, ciphertextPart⟩ := @split_envelope salt ciphertext salted
  refine .failIf (fun _ => trivial) fun _ => ?_
  refine .failIf (fun _ => trivial) fun _ => ?_
  dsimp only
  rw [saltPart, ciphertextPart]
  refine .ofExcept (fun _ _ => trivial) fun secret _ => ?_
  refine .bind aeadOpen_always (fun _ _ failed => failed) fun answer _ found => ?_
  obtain ⟨same, rfl⟩ := found
  cases answer with
  | none => exact .throw trivial
  | some found =>
      have equal := distinct.opened member same.symm
      have associated : profile.objectAssociatedData key salt =
          other.objectAssociatedData otherKey salt := congrArg Sealing.associated equal
      obtain ⟨identity, _, keys⟩ :=
        objectAssociatedData_injective sized sizedOther salted salted associated
      rcases differs with differs | differs
      · exact absurd keys.symm differs
      · exact absurd identity.symm differs

/-! The two stores as systems. -/

structure StoreLabel where
  call : StoreCall
  answer : StoreAnswer call
  failed : Bool

def EndsWith (error : Err) : (call : StoreCall) → StoreAnswer call → Prop
  | .get _ _, answer => answer = .error error
  | .head _, answer => answer = .error error
  | .putIfAbsent _ _, answer => answer = .error error
  | .compareAndSwap _ _ _, answer => answer = .error error

def encryptedSystem (derivation : Derivation) (own : Nat) (store : ClientEncryptedStore) :
    System Below StoreLabel where
  step first label last := label.failed = last.failed ∧
    (store.call derivation label.call).Executes (served own) { first with failed := false }
      label.answer last

/-- A store that meets the contract, and fails when it is told to. -/
def plainSystem (own : Nat) : System Objects StoreLabel where
  step objects label later := ∃ write, later = objects.apply write ∧
    if label.failed then objects.Fails label.call label.answer write
    else objects.Performs own label.call label.answer write

/-- The calls that an encrypted store refuses without asking the store below: a negative
limit, a plaintext that is too long, and a key that is no object key. -/
def refusal : StoreCall → Option Err
  | .get _ options =>
      if options.maxBytes < 0 then some (Sentinel.resourceLimit.tagged ["negative plaintext read limit"])
      else none
  | .head _ => none
  | .putIfAbsent key plaintext => writeRefusal key plaintext
  | .compareAndSwap key _ plaintext => writeRefusal key plaintext

def guardedSystem (own : Nat) : System Objects StoreLabel where
  step objects label later := match label.failed, refusal label.call with
    | false, some error => later = objects ∧ EndsWith error label.call label.answer
    | _, _ => (plainSystem own).step objects label later

/-- The plain store holds the plaintexts of the envelopes, under the same versions. -/
structure Holds (derivation : Derivation) (profile : Profile) (below : Below)
    (plain : Objects) : Prop where
  distinct : Distinct below.sealings
  absent : ∀ key, below.objects key = none → plain key = none
  present : ∀ key object, below.objects key = some object →
    ∃ plaintext, plain key = some ⟨plaintext, object.version⟩ ∧
      plaintext.length ≤ clientEncryptionMaxPlaintextBytes ∧
      validateClientEncryptionObjectKey key = .ok () ∧
      SealedFor derivation profile key plaintext object.data below.sealings

theorem holds_empty {sealings : List Sealing} {failed : Bool} (distinct : Distinct sealings) :
    Holds derivation profile ⟨fun _ => none, sealings, failed⟩ fun _ => none :=
  ⟨distinct, fun _ _ => rfl, nofun⟩

namespace Holds

variable {plain : Objects}

theorem grow (holds : Holds derivation profile below plain) {later : Below}
    (objects : later.objects = below.objects) (distinct : Distinct later.sealings)
    (grown : below.sealings ⊆ later.sealings) : Holds derivation profile later plain where
  distinct
  absent key missing := holds.absent key (objects ▸ missing)
  present key object found := by
    obtain ⟨plaintext, same, small, valid, sealed⟩ := holds.present key object (objects ▸ found)
    exact ⟨plaintext, same, small, valid, sealed.mono grown⟩

theorem fail (holds : Holds derivation profile below plain) :
    Holds derivation profile below.fail plain :=
  holds.grow rfl holds.distinct (List.Subset.refl _)

theorem eTag (holds : Holds derivation profile below plain) (key : Bytes) :
    (plain key).map (·.version.eTag) = (below.objects key).map (·.version.eTag) := by
  cases found : below.objects key with
  | none => rw [holds.absent key found]
  | some object =>
      obtain ⟨plaintext, same, _⟩ := holds.present key object found
      rw [same]
      rfl

theorem none_iff (holds : Holds derivation profile below plain) (key : Bytes) :
    plain key = none ↔ below.objects key = none := by
  have tags := holds.eTag key
  cases found : below.objects key with
  | none => simp [holds.absent key found]
  | some object =>
      obtain ⟨plaintext, same, _⟩ := holds.present key object found
      simp [same]

theorem matches_iff (holds : Holds derivation profile below plain) (key : Bytes)
    (expected : Option Version) :
    Objects.Matches (plain key) expected ↔ Objects.Matches (below.objects key) expected := by
  cases expected with
  | none => exact holds.none_iff key
  | some expected =>
      show (plain key).map _ = _ ↔ (below.objects key).map _ = _
      rw [holds.eTag key]

theorem heads (holds : Holds derivation profile below plain) {key : Bytes}
    {answer : Except Err Version} (asked : Objects.Heads (below.objects key) answer) :
    Objects.Heads (plain key) answer := by
  cases found : below.objects key with
  | none =>
      rw [found] at asked
      rw [holds.absent key found]
      exact asked
  | some object =>
      obtain ⟨plaintext, same, _⟩ := holds.present key object found
      rw [found] at asked
      rw [same]
      exact asked

theorem write (holds : Holds derivation profile below plain) {key plaintext envelope : Bytes}
    {version : Version} {failed : Bool}
    (small : plaintext.length ≤ clientEncryptionMaxPlaintextBytes)
    (valid : validateClientEncryptionObjectKey key = .ok ())
    (sealed : SealedFor derivation profile key plaintext envelope below.sealings) :
    Holds derivation profile
      ⟨below.objects.apply (some ⟨key, envelope, version⟩), below.sealings, failed⟩
      (plain.apply (some ⟨key, plaintext, version⟩)) where
  distinct := holds.distinct
  absent other missing := by
    by_cases same : other = key
    · subst same
      simp [Objects.apply] at missing
    · simp only [Objects.apply, Function.update_of_ne same] at missing ⊢
      exact holds.absent other missing
  present other object found := by
    by_cases same : other = key
    · subst same
      simp only [Objects.apply, Function.update_self, Option.some.injEq] at found ⊢
      subst found
      exact ⟨plaintext, rfl, small, valid, sealed⟩
    · simp only [Objects.apply, Function.update_of_ne same] at found ⊢
      exact holds.present other object found

end Holds

section

variable {plain : Objects} {ownPlain : Nat} {store : ClientEncryptedStore} {key : Bytes}

theorem storeGet_always {options : GetOptions} :
    (Encrypting.storeGet key options).Always (served own) below
      (fun object later => later = below ∧
        Objects.Reads own (below.objects key) options (.ok object))
      fun error later => later = below.fail ∨ (later = below ∧
        Objects.Reads own (below.objects key) options (.error error)) := by
  refine .request fun answer later served => ?_
  obtain ⟨write, ⟨⟨rfl, reads⟩, rfl⟩ | ⟨⟨rfl, error, same⟩, rfl⟩⟩ := served
  · cases answer with
    | error error => exact .inr ⟨rfl, reads⟩
    | ok object => exact ⟨rfl, reads⟩
  · have failed : answer = .error error := same
    subst failed
    exact .inl rfl

theorem reads_ok {limit : Nat} {found : Option Object} {options : GetOptions} {object : Object} :
    Objects.Reads limit found options (.ok object) ↔ found = some object ∧
      ¬(options.ifNoneMatch ≠ [] ∧ options.ifNoneMatch = object.version.eTag) ∧
      ¬Objects.readLimit limit options < object.data.length := by
  cases found with
  | none => simp [Objects.Reads, Objects.Refuses]
  | some other =>
      simp only [Objects.Reads, Objects.Refuses]
      split
      · constructor
        · rintro ⟨_, impossible, _⟩
          cases impossible
        · rintro ⟨⟨⟩, unmatched, _⟩
          contradiction
      · split
        · constructor
          · rintro ⟨_, impossible, _⟩
            cases impossible
          · rintro ⟨⟨⟩, _, short⟩
            contradiction
        · constructor
          · rintro ⟨⟩
            exact ⟨rfl, by assumption, by assumption⟩
          · rintro ⟨⟨⟩, _, _⟩
            rfl

theorem limit_shifts {options : GetOptions} {length : Nat}
    (ample : clientEncryptionMaxPlaintextBytes ≤ ownPlain) (allowed : ¬options.maxBytes < 0)
    (small : length ≤ clientEncryptionMaxPlaintextBytes) :
    Objects.readLimit own ⟨options.ifNoneMatch, Profile.plaintextLimit options.maxBytes +
        clientEncryptionCiphertextOverhead⟩ < (length + clientEncryptionCiphertextOverhead : Nat) ↔
      Objects.readLimit ownPlain options < length := by
  unfold Objects.readLimit Profile.plaintextLimit
  dsimp only
  have positive : 0 < clientEncryptionCiphertextOverhead := by decide
  by_cases saturated : options.maxBytes = 0 ∨ options.maxBytes > clientEncryptionMaxPlaintextBytes
  · rw [if_pos saturated, if_neg (by omega)]
    split
    · omega
    · omega
  · rw [if_neg saturated, if_neg (by omega), if_neg (by omega)]
    omega

theorem reads_error {options : GetOptions} {error : Err}
    (ample : clientEncryptionMaxPlaintextBytes ≤ ownPlain) (allowed : ¬options.maxBytes < 0)
    (holds : Holds derivation profile below plain)
    (reads : Objects.Reads own (below.objects key) ⟨options.ifNoneMatch,
      Profile.plaintextLimit options.maxBytes + clientEncryptionCiphertextOverhead⟩ (.error error)) :
    Objects.Reads ownPlain (plain key) options (.error error) := by
  cases found : below.objects key with
  | none =>
      rw [found] at reads
      rw [holds.absent key found]
      exact reads
  | some object =>
      obtain ⟨plaintext, same, small, _, sealed⟩ := holds.present key object found
      rw [found] at reads
      rw [same]
      simp only [Objects.Reads, sealed.length, limit_shifts ample allowed small] at reads ⊢
      split at reads
      · rename_i unmodified
        rw [if_pos unmodified]
        exact reads
      · rename_i modified
        rw [if_neg modified]
        split at reads
        · rename_i large
          rw [if_pos large]
          exact reads
        · cases reads

theorem get_always {options : GetOptions} (ample : clientEncryptionMaxPlaintextBytes ≤ ownPlain)
    (holds : Holds derivation store.profile below plain) :
    (store.get derivation key options).Always (served own) below
      (fun object later => later = below ∧ ¬options.maxBytes < 0 ∧
        Objects.Reads ownPlain (plain key) options (.ok object))
      fun error later => later = below.fail ∨
        (later = below ∧ refusal (.get key options) = some error) ∨
        (later = below ∧ ¬options.maxBytes < 0 ∧
          Objects.Reads ownPlain (plain key) options (.error error)) := by
  refine .bind contextErr_always (fun _ _ failed => .inl failed) fun _ _ same => ?_
  subst same
  refine .failIf (fun negative => ?_) fun allowed => ?_
  · exact .inr (.inl ⟨rfl, by simp [refusal, negative]⟩)
  refine .bind storeGet_always ?_ fun object _ read => ?_
  · rintro error later (failed | ⟨same, reads⟩)
    · exact .inl failed
    · exact .inr (.inr ⟨same, allowed, reads_error ample allowed holds reads⟩)
  obtain ⟨rfl, reads⟩ := read
  obtain ⟨found, modified, short⟩ := reads_ok.mp reads
  obtain ⟨plaintext, same, small, valid, sealed⟩ := holds.present key object found
  rw [sealed.length, limit_shifts ample allowed small] at short
  have plainReads : Objects.Reads ownPlain (plain key) options (.ok ⟨plaintext, object.version⟩) :=
    reads_ok.mpr ⟨same, modified, short⟩
  refine .bind (openObject_always store.configured holds.distinct valid small sealed)
    (fun _ _ impossible => impossible.elim) fun found _ result => ?_
  obtain ⟨rfl, rfl⟩ := result
  refine .failIf (fun large => ?_) fun _ => ?_
  · have limit : Objects.readLimit ownPlain options = options.maxBytes := by
      rw [Objects.readLimit, if_neg (by omega)]
    rw [limit] at short
    exact absurd large.2 short
  refine .bind contextErr_always (fun _ _ failed => .inl failed) fun _ _ same => ?_
  subst same
  exact .pure ⟨rfl, allowed, plainReads⟩

def Takes (below : Below) (key : Bytes) (expected : Option Version) (data : Bytes)
    (answer : Except Err Version) (later : Below) : Prop :=
  ∃ write, (below.objects.Replaces key expected data answer write ∧
      later = { below with objects := below.objects.apply write }) ∨
    (below.objects.MayReplace key expected data answer write ∧
      later = { below.fail with objects := below.objects.apply write })

def Writes (derivation : Derivation) (profile : Profile) (plain : Objects) (key : Bytes)
    (expected : Option Version) (plaintext : Bytes) (answer : Except Err Version)
    (later : Below) : Prop :=
  ∃ write, Holds derivation profile later (plain.apply write) ∧
    ((later.failed = true ∧ plain.MayReplace key expected plaintext answer write) ∨
      (later.failed = false ∧ write = none ∧
        ∃ error, writeRefusal key plaintext = some error ∧ answer = .error error) ∨
      (later.failed = false ∧ writeRefusal key plaintext = none ∧
        plain.Replaces key expected plaintext answer write))

theorem storePutIfAbsent_always {data : Bytes} :
    (Encrypting.storePutIfAbsent key data).Always (served own) below
      (fun version later => Takes below key none data (.ok version) later)
      fun error later => Takes below key none data (.error error) later := by
  refine .request fun answer later served => ?_
  cases answer with
  | error error => exact served
  | ok version => exact served

theorem storeCompareAndSwap_always {expected : Option Version} {data : Bytes} :
    (Encrypting.storeCompareAndSwap key expected data).Always (served own) below
      (fun version later => Takes below key expected data (.ok version) later)
      fun error later => Takes below key expected data (.error error) later := by
  refine .request fun answer later served => ?_
  cases answer with
  | error error => exact served
  | ok version => exact served

theorem writeRefusal_none {plaintext : Bytes} (accepted : writeRefusal key plaintext = none) :
    plaintext.length ≤ clientEncryptionMaxPlaintextBytes ∧
      validateClientEncryptionObjectKey key = .ok () := by
  unfold writeRefusal at accepted
  split at accepted
  · cases accepted
  · rename_i small
    refine ⟨Nat.not_lt.mp small, ?_⟩
    split at accepted
    · cases accepted
    · assumption

theorem writes_of_takes {expected : Option Version} {plaintext envelope : Bytes}
    {answer : Except Err Version} {later : Below} (running : below.failed = false)
    (accepted : writeRefusal key plaintext = none)
    (holds : Holds derivation profile below plain)
    (sealed : SealedFor derivation profile key plaintext envelope below.sealings)
    (takes : Takes below key expected envelope answer later) :
    Writes derivation profile plain key expected plaintext answer later := by
  obtain ⟨small, valid⟩ := writeRefusal_none accepted
  obtain ⟨write, ⟨replaces, rfl⟩ | ⟨mayReplace, rfl⟩⟩ := takes
  · unfold Objects.Replaces at replaces
    split at replaces
    · rename_i empty
      obtain ⟨rfl, error, rfl⟩ := replaces
      refine ⟨none, holds, .inr (.inr ⟨running, accepted, ?_⟩)⟩
      rw [Objects.Replaces, if_pos empty]
      exact ⟨rfl, error, rfl⟩
    · rename_i tagged
      rcases replaces with ⟨condition, version, valued, rfl, rfl⟩ | ⟨condition, rfl, refuses⟩
      · refine ⟨some ⟨key, plaintext, version⟩, holds.write small valid sealed,
          .inr (.inr ⟨running, accepted, ?_⟩)⟩
        rw [Objects.Replaces, if_neg tagged]
        exact .inl ⟨(holds.matches_iff key expected).mpr condition, version, valued, rfl, rfl⟩
      · refine ⟨none, holds, .inr (.inr ⟨running, accepted, ?_⟩)⟩
        rw [Objects.Replaces, if_neg tagged]
        exact .inr ⟨fun met => condition ((holds.matches_iff key expected).mp met), rfl, refuses⟩
  · obtain ⟨rfl | ⟨tagged, condition, version, valued, rfl⟩, failed⟩ := mayReplace
    · exact ⟨none, holds.fail, .inl ⟨rfl, .inl rfl, failed⟩⟩
    · refine ⟨some ⟨key, plaintext, version⟩, holds.write small valid sealed, .inl ⟨rfl, ?_, failed⟩⟩
      exact .inr ⟨tagged, (holds.matches_iff key expected).mpr condition, version, valued, rfl⟩

theorem sealedWrite_always {expected : Option Version} {plaintext : Bytes}
    {write : Bytes → Encrypting Version} (configured : profile.configured = true)
    (running : below.failed = false) (holds : Holds derivation profile below plain)
    (takes : ∀ envelope below, (write envelope).Always (served own) below
      (fun version later => Takes below key expected envelope (.ok version) later)
      fun error later => Takes below key expected envelope (.error error) later) :
    (profile.sealedWrite derivation key plaintext write).Always (served own) below
      (fun version later => Writes derivation profile plain key expected plaintext (.ok version) later)
      fun error later =>
        Writes derivation profile plain key expected plaintext (.error error) later := by
  have failing : ∀ {state : Below} (error : Err), Holds derivation profile state plain →
      Writes derivation profile plain key expected plaintext (.error error) state.fail :=
    fun error holds => ⟨none, holds.fail, .inl ⟨rfl, .inl rfl, error, rfl⟩⟩
  refine .bind contextErr_always ?_ fun _ later same => ?_
  · rintro error later rfl
    exact failing error holds
  subst later
  refine .bind (sealObject_always configured holds.distinct) ?_ fun envelope _ sealed => ?_
  · rintro error later (⟨refused, rfl⟩ | rfl)
    · exact ⟨none, holds, .inr (.inl ⟨running, rfl, error, refused, rfl⟩)⟩
    · exact failing error holds
  obtain ⟨accepted, distinct, sealed, sealing, rfl⟩ := sealed
  have grown : Holds derivation profile
      { below with sealings := sealing :: below.sealings } plain :=
    holds.grow rfl distinct (List.subset_cons_self _ _)
  refine .bind contextErr_always ?_ fun _ later same => ?_
  · rintro error later rfl
    exact failing error grown
  subst later
  have still : ({ below with sealings := sealing :: below.sealings } : Below).failed = false :=
    running
  refine (takes envelope _).weaken ?_ ?_
  · exact fun version later taken => writes_of_takes still accepted grown sealed taken
  · exact fun error later taken => writes_of_takes still accepted grown sealed taken

theorem guarded_of_plain {label : StoreLabel} {later : Objects}
    (passes : label.failed = true ∨ refusal label.call = none)
    (step : (plainSystem ownPlain).step plain label later) :
    (guardedSystem ownPlain).step plain label later := by
  obtain ⟨call, answer, failed⟩ := label
  simp only [guardedSystem]
  split
  · rename_i error refused
    rcases passes with failed | accepted
    · cases failed
    · rw [refused] at accepted
      cases accepted
  · exact step

theorem guarded_of_refusal {call : StoreCall} {answer : StoreAnswer call} {error : Err}
    (refuses : refusal call = some error) (ends : EndsWith error call answer) :
    (guardedSystem ownPlain).step plain ⟨call, answer, false⟩ plain := by
  simp only [guardedSystem, refuses]
  exact ⟨trivial, ends⟩

theorem guarded_of_writes {call : StoreCall} {answer : StoreAnswer call}
    {result : Except Err Version} {expected : Option Version} {plaintext : Bytes} {last : Below}
    (refused : refusal call = writeRefusal key plaintext)
    (ends : ∀ error, result = .error error → EndsWith error call answer)
    (fails : ∀ write, plain.MayReplace key expected plaintext result write →
      plain.Fails call answer write)
    (performs : ∀ write, plain.Replaces key expected plaintext result write →
      plain.Performs ownPlain call answer write)
    (writes : Writes derivation profile plain key expected plaintext result last) :
    ∃ later, (guardedSystem ownPlain).step plain ⟨call, answer, last.failed⟩ later ∧
      Holds derivation profile last later := by
  obtain ⟨write, holds, ⟨failed, may⟩ | ⟨running, rfl, error, refuses, same⟩ |
    ⟨running, accepted, replaces⟩⟩ := writes
  · refine ⟨_, guarded_of_plain (.inl failed) ⟨write, rfl, ?_⟩, holds⟩
    simpa only [failed, if_true] using fails write may
  · rw [running]
    exact ⟨plain, guarded_of_refusal (refused.trans refuses) (ends error same), holds⟩
  · refine ⟨_, guarded_of_plain (.inr (refused.trans accepted)) ⟨write, rfl, ?_⟩, holds⟩
    simpa only [running, Bool.false_eq_true, if_false] using performs write replaces

theorem step_refines {first last : Below} {label : StoreLabel}
    (ample : clientEncryptionMaxPlaintextBytes ≤ ownPlain)
    (holds : Holds derivation store.profile first plain)
    (step : (encryptedSystem derivation own store).step first label last) :
    ∃ later, (guardedSystem ownPlain).step plain label later ∧
      Holds derivation store.profile last later := by
  obtain ⟨call, answer, failed⟩ := label
  obtain ⟨rfl, executes⟩ := step
  have start : Holds derivation store.profile { first with failed := false } plain :=
    holds.grow rfl holds.distinct (List.Subset.refl _)
  cases call with
  | get key options =>
      have outcome := executes.always (get_always ample start)
      cases answer with
      | ok object =>
          obtain ⟨rfl, allowed, reads⟩ := outcome
          exact ⟨plain, guarded_of_plain (.inr (by simp [refusal, allowed]))
            ⟨none, rfl, rfl, reads⟩, start⟩
      | error error =>
          rcases outcome with rfl | ⟨rfl, refused⟩ | ⟨rfl, allowed, reads⟩
          · exact ⟨plain, guarded_of_plain (.inl rfl) ⟨none, rfl, rfl, error, rfl⟩, start.fail⟩
          · exact ⟨plain, guarded_of_refusal refused rfl, start⟩
          · exact ⟨plain, guarded_of_plain (.inr (by simp [refusal, allowed]))
              ⟨none, rfl, rfl, reads⟩, start⟩
  | head key =>
      cases executes with
      | ask served rest =>
          cases rest
          obtain ⟨write, ⟨⟨rfl, heads⟩, rfl⟩ | ⟨⟨rfl, error, rfl⟩, rfl⟩⟩ := served
          · refine ⟨plain, guarded_of_plain (.inr rfl) ⟨none, rfl, rfl, ?_⟩, start⟩
            exact start.heads heads
          · exact ⟨plain, guarded_of_plain (.inl rfl) ⟨none, rfl, rfl, error, rfl⟩, start.fail⟩
  | putIfAbsent key plaintext =>
      have writes := (executes.always
        (sealedWrite_always store.configured rfl start fun _ _ => storePutIfAbsent_always)).whole
      refine guarded_of_writes rfl ?_ (fun _ may => may) (fun _ met => met) writes
      exact fun _ same => same
  | compareAndSwap key expected plaintext =>
      have writes := (executes.always
        (sealedWrite_always store.configured rfl start fun _ _ => storeCompareAndSwap_always)).whole
      refine guarded_of_writes rfl ?_ (fun _ may => may) (fun _ met => met) writes
      exact fun _ same => same

end

theorem sealObject_seals {key plaintext : Bytes} :
    (profile.sealObject derivation key plaintext).Always (served own) below
      (fun envelope later => SealedFor derivation profile key plaintext envelope later.sealings)
      fun _ _ => True := by
  refine .failIf (fun _ => trivial) fun _ => ?_
  refine .bind messageSalt_always (fun _ _ _ => trivial) fun salt _ drawn => ?_
  refine .ofExcept (fun _ _ => trivial) fun secret derived => ?_
  obtain ⟨_, _, _, rfl⟩ := objectAEAD_ok derived
  refine .bind aeadSeal_always (fun _ _ failed => failed) fun ciphertext _ sealed => ?_
  obtain ⟨sized, _, rfl⟩ := sealed
  exact .pure ⟨salt, ciphertext, drawn.1, sized, rfl, List.mem_cons_self⟩

theorem encrypted_store_refines (derivation : Derivation) (store : ClientEncryptedStore)
    (own ownPlain : Nat) (ample : clientEncryptionMaxPlaintextBytes ≤ ownPlain) :
    (∀ below plain labels last, Holds derivation store.profile below plain →
      (encryptedSystem derivation own store).Trace below labels last →
      ∃ later, (guardedSystem ownPlain).Trace plain labels later ∧
        Holds derivation store.profile last later) ∧
    (∀ (profile other : Profile) (key otherKey plaintext envelope : Bytes)
      (first second later last : Below) (answer : Except Err Bytes),
      profile.repositoryID.bytes.length = 32 → other.repositoryID.bytes.length = 32 →
      (profile.sealObject derivation key plaintext).Executes (served own) first (.ok envelope)
        second →
      second.sealings ⊆ later.sealings → Distinct later.sealings →
      otherKey ≠ key ∨ other.repositoryID ≠ profile.repositoryID →
      (other.openObject derivation otherKey envelope).Executes (served own) later answer last →
      ∃ error, answer = .error error) ∧
    ∀ (profile other : Profile) (key otherKey salt otherSalt : Bytes),
      profile.repositoryID.bytes.length = 32 → other.repositoryID.bytes.length = 32 →
      salt.length = clientEncryptionSaltBytes → otherSalt.length = clientEncryptionSaltBytes →
      profile.objectAssociatedData key salt = other.objectAssociatedData otherKey otherSalt →
      profile.repositoryID = other.repositoryID ∧ salt = otherSalt ∧ key = otherKey := by
  refine ⟨?_, ?_, ?_⟩
  · intro below plain labels last holds trace
    exact trace.refines (fun held step => step_refines ample held step) holds
  · intro profile other key otherKey plaintext envelope first second later last answer sized
      sizedOther seals grown distinct differs opens
    have sealed : SealedFor derivation profile key plaintext envelope second.sealings :=
      seals.always sealObject_seals
    have outcome := opens.always
      (openObject_bound sized sizedOther distinct (sealed.mono grown) differs)
    cases answer with
    | error error => exact ⟨error, rfl⟩
    | ok plaintext => exact outcome.elim
  · intro profile other key otherKey salt otherSalt sized sizedOther salted saltedOther same
    exact objectAssociatedData_injective sized sizedOther salted saltedOther same

namespace Sample

def kdf : Derivation := ⟨fun secret _ _ => secret, fun _ data => data⟩

def store : ClientEncryptedStore where
  profile := ⟨⟨List.replicate 32 1⟩, List.replicate 32 2, List.replicate 32 3⟩
  configured := by decide

def version : Version := ⟨ascii "v", []⟩

def respondStore (below : Below) : (call : StoreCall) → Option (StoreAnswer call × Below)
  | .get key options => match below.objects key with
      | some object =>
          if options.ifNoneMatch = [] ∧ ¬Objects.readLimit 0 options < object.data.length then
            some (.ok object, below)
          else none
      | none => none
  | .putIfAbsent key data =>
      if below.objects key = none then
        some (.ok version,
          { below with objects := below.objects.apply (some ⟨key, data, version⟩) })
      else none
  | _ => none

def respond (below : Below) : (op : ObjectRequest) → Option (ObjectAnswer op × Below)
  | .contextErr => some (none, below)
  | .store call => respondStore below call
  | .random => some (.ok ⟨List.replicate clientEncryptionSaltBytes 5, by simp⟩, below)
  | .sealWith secret plaintext associated =>
      let ciphertext := List.replicate (plaintext.length + aeadOverhead) 9
      if below.sealings = [] then
        some (ciphertext, { below with sealings := [⟨secret, plaintext, associated, ciphertext⟩] })
      else none
  | .openWith secret ciphertext associated =>
      some (opened below.sealings secret ciphertext associated, below)

theorem respondStore_performs {below later : Below} {call : StoreCall} {answer : StoreAnswer call}
    (found : respondStore below call = some (answer, later)) :
    ∃ write, below.objects.Performs 0 call answer write ∧
      later = { below with objects := below.objects.apply write } := by
  cases call with
  | get key options =>
      simp only [respondStore] at found
      split at found
      · rename_i object present
        split at found
        · rename_i read
          cases found
          refine ⟨none, ⟨rfl, ?_⟩, rfl⟩
          exact reads_ok.mpr ⟨present, by simp [read.1], read.2⟩
        · cases found
      · cases found
  | putIfAbsent key data =>
      simp only [respondStore] at found
      split at found
      · rename_i absent
        cases found
        refine ⟨_, .inl ⟨absent, version, ?_, rfl, rfl⟩, rfl⟩
        exact ⟨by decide, by decide, by decide⟩
      · cases found
  | head key => cases found
  | compareAndSwap key expected data => cases found

theorem respond_served (below : Below) (op : ObjectRequest) (answer : ObjectAnswer op)
    (later : Below) (found : respond below op = some (answer, later)) :
    served 0 below op answer later := by
  cases op with
  | contextErr => cases found; rfl
  | random => cases found; rfl
  | openWith secret ciphertext associated => cases found; exact ⟨rfl, rfl⟩
  | store call =>
      obtain ⟨write, performs, same⟩ := respondStore_performs found
      exact ⟨write, .inl ⟨performs, same⟩⟩
  | sealWith secret plaintext associated =>
      simp only [respond] at found
      split at found
      · rename_i fresh
        cases found
        refine ⟨by simp, by simp [fresh], ?_⟩
        rw [fresh]
      · cases found

def run : List StoreCall → Below → Option (List StoreLabel × Below)
  | [], below => some ([], below)
  | call :: calls, below =>
      match (store.call kdf call).simulate respond { below with failed := false } with
      | none => none
      | some (answer, later) =>
          (run calls later).map fun result => (⟨call, answer, later.failed⟩ :: result.1, result.2)

theorem run_trace {calls : List StoreCall} {below last : Below} {labels : List StoreLabel}
    (ran : run calls below = some (labels, last)) :
    (encryptedSystem kdf 0 store).Trace below labels last := by
  induction calls generalizing below labels with
  | nil =>
      cases ran
      exact .nil _
  | cons call calls ih =>
      unfold run at ran
      split at ran
      · cases ran
      · rename_i answer later computed
        obtain ⟨⟨others, final⟩, more, same⟩ := Option.map_eq_some_iff.mp ran
        cases same
        exact .cons ⟨rfl, Program.simulate_executes respond_served computed⟩ (ih more)

theorem exists_trace {calls : List StoreCall} {check : List StoreLabel → Bool}
    (computed : (run calls ⟨fun _ => none, [], false⟩).any (fun result => check result.1) = true) :
    ∃ labels last, (encryptedSystem kdf 0 store).Trace ⟨fun _ => none, [], false⟩ labels last ∧
      check labels = true := by
  obtain ⟨⟨labels, last⟩, ran, checked⟩ := (Option.any_eq_true _ _).mp computed
  exact ⟨labels, last, run_trace ran, checked⟩

def returned : StoreLabel → Option Object
  | ⟨.get _ _, .ok object, false⟩ => some object
  | _ => none

def longKey : Bytes := List.replicate 1025 97

def refusesKey : List StoreLabel → Bool
  | [⟨.putIfAbsent key data, .error error, false⟩] =>
      key == longKey && data == [] && error.is .invalidPath
  | _ => false

end Sample

theorem encrypted_store_refines_read : ∃ labels last later,
    (encryptedSystem Sample.kdf 0 Sample.store).Trace ⟨fun _ => none, [], false⟩ labels last ∧
    labels.filterMap Sample.returned = [⟨[1, 2], Sample.version⟩] ∧
    (guardedSystem clientEncryptionMaxPlaintextBytes).Trace (fun _ => none) labels later := by
  obtain ⟨labels, last, trace, checked⟩ := @Sample.exists_trace
    [.putIfAbsent (ascii "k") [1, 2], .get (ascii "k") ⟨[], 2⟩]
    (fun labels => decide (labels.filterMap Sample.returned = [⟨[1, 2], Sample.version⟩]))
    (by decide +kernel)
  have distinct : Distinct [] := by
    intro left member
    cases member
  obtain ⟨later, above, _⟩ := (encrypted_store_refines Sample.kdf Sample.store 0
    clientEncryptionMaxPlaintextBytes (Nat.le_refl _)).1 _ _ labels last
    (holds_empty distinct) trace
  exact ⟨labels, last, later, trace, by simpa using checked, above⟩

theorem encrypted_store_refuses_key : ∃ label last,
    (encryptedSystem Sample.kdf 0 Sample.store).step ⟨fun _ => none, [], false⟩ label last ∧
    label.call = .putIfAbsent Sample.longKey [] ∧
    ∀ own later, ¬(plainSystem own).step (fun _ => none) label later := by
  obtain ⟨labels, last, trace, checked⟩ := @Sample.exists_trace
    [.putIfAbsent Sample.longKey []] Sample.refusesKey (by decide +kernel)
  unfold Sample.refusesKey at checked
  split at checked
  · rename_i key data error
    simp only [Bool.and_eq_true, beq_iff_eq] at checked
    obtain ⟨⟨rfl, rfl⟩, _⟩ := checked
    cases trace with
    | cons step rest =>
        refine ⟨_, _, step, rfl, ?_⟩
        rintro own later ⟨write, _, performs⟩
        rcases performs with ⟨_, version, _, impossible, _⟩ | ⟨present, _⟩
        · cases impossible
        · exact present rfl
  · cases checked

end S3Disk.ClientEncryption
