import Mathlib.Logic.Relation
import S3Disk.DescriptorRoundTrip
import S3Disk.EncryptedStore
import S3Disk.Library.Contract

/-! Clients that commission and open repositories over one store, with any prefixes and
configurations. A write may be applied and still report an error, and a client may stop
between any two requests. What is stored under the key of a descriptor is read as one
descriptor, whatever the encryption of the reader. -/

namespace S3Disk

open Concurrent
open ClientEncryption (Derivation Profile Sealing SealedFor Distinct opened aeadOverhead)

inductive DescriptorOperation where
  | initializeRepository (confirmEmptyPrefix : Bool)
  | openRepository
  | openReadOnlyRepository
  deriving DecidableEq, Repr

def DescriptorOperation.creates : DescriptorOperation → Bool
  | .initializeRepository _ => true
  | _ => false

def StoreHandle.Suits (handle : StoreHandle) (profile : Option Profile) : Prop :=
  handle = .raw ∨ ∃ existing, handle = .encrypted existing ∧ profile = some existing

structure DescriptorCall where
  operation : DescriptorOperation
  handle : StoreHandle
  keyPrefix : Bytes
  config : RepositoryConfig
  deriving DecidableEq, Repr

inductive DescriptorEffect where
  | stored (write : StoreWrite)
  | sealing (made : Sealing)
  deriving DecidableEq, Repr

namespace DescriptorEffect

def write : DescriptorEffect → Option StoreWrite
  | stored write => some write
  | sealing _ => none

def made : DescriptorEffect → Option Sealing
  | stored _ => none
  | sealing made => some made

end DescriptorEffect

abbrev DescriptorLog := List (Event ObjectRequest ObjectAnswer DescriptorCall DescriptorEffect)

def ObjectRequest.writes : ObjectRequest → Bool
  | .store (.putIfAbsent _ _) => true
  | .store (.compareAndSwap _ _ _) => true
  | _ => false

namespace DescriptorLog

def objects : DescriptorLog → Objects
  | [] => fun _ => none
  | event :: older => (objects older).apply (event.effect.bind DescriptorEffect.write)

def sealings (log : DescriptorLog) : List Sealing :=
  log.filterMap fun event => event.effect.bind DescriptorEffect.made

end DescriptorLog

open DescriptorLog (objects sealings)

structure DescriptorWorld where
  derivation : Derivation
  wire : Wire
  own : Nat

namespace DescriptorWorld

variable (world : DescriptorWorld)

/-- A linearizable store that meets its contract or fails, and ideal authenticated
encryption. -/
def serves (log : DescriptorLog) :
    Event ObjectRequest ObjectAnswer DescriptorCall DescriptorEffect → Prop
  | ⟨_, _, .contextErr, _, effect⟩ => effect = none
  | ⟨_, _, .store call, answer, effect⟩ => ∃ write, effect = write.map .stored ∧
      ((objects log).Performs world.own call answer write ∨ (objects log).Fails call answer write)
  | ⟨_, _, .random, _, effect⟩ => effect = none
  | ⟨_, _, .sealWith secret plaintext associated, ciphertext, effect⟩ =>
      ciphertext.length = plaintext.length + aeadOverhead ∧
      (∀ made ∈ sealings log, made.ciphertext ≠ ciphertext) ∧
      effect = some (.sealing ⟨secret, plaintext, associated, ciphertext⟩)
  | ⟨_, _, .openWith secret ciphertext associated, answer, effect⟩ =>
      answer = opened (sealings log) secret ciphertext associated ∧ effect = none

def program (call : DescriptorCall) : Encrypting RepositoryDescriptor :=
  match call.operation with
  | .initializeRepository confirmEmptyPrefix =>
      initializeRepository world.derivation world.wire call.handle call.keyPrefix call.config
        confirmEmptyPrefix
  | .openRepository =>
      openRepository world.derivation world.wire call.handle call.keyPrefix call.config
  | .openReadOnlyRepository =>
      openReadOnlyRepository world.derivation world.wire call.handle call.keyPrefix call.config

def machine : Machine ObjectRequest ObjectAnswer DescriptorCall DescriptorEffect Unit
    (Except Err RepositoryDescriptor) where
  serves := world.serves
  fresh _ := ()
  allowed _ _ call := call.config.repositoryID.bytes.length = 32
  body _ call _ := Program.bind (world.program call) fun result => .done (result, ())

def Unwraps (key : Bytes) (made : List Sealing) : List Profile → Bytes → Bytes → Prop
  | [], data, plaintext => data = plaintext
  | profile :: rest, data, plaintext => ∃ middle, Unwraps key made rest data middle ∧
      SealedFor world.derivation profile key plaintext middle made

def Describes (key : Bytes) (made : List Sealing) (object : Object) : Prop :=
  Objects.Valid object.version ∧ ∃ descriptor layers, Commissioned world.wire descriptor ∧
    key = descriptorKey descriptor.repositoryPrefix ∧
    world.Unwraps key made layers object.data descriptor.encode

structure Proper (older : DescriptorLog)
    (event : Event ObjectRequest ObjectAnswer DescriptorCall DescriptorEffect) : Prop where
  creates : event.op.writes = true → event.call.operation.creates = true
  stored : ∀ write, event.effect = some (.stored write) → objects older write.key = none ∧
    world.Describes write.key (sealings older) write.object

def law : Law ObjectRequest ObjectAnswer DescriptorCall DescriptorEffect :=
  ⟨world.serves, world.Proper⟩

variable {world} {log later : DescriptorLog}

theorem sealings_subset (grown : log <:+ later) : sealings log ⊆ sealings later := by
  obtain ⟨newer, rfl⟩ := grown
  intro made member
  simp only [sealings, List.filterMap_append, List.mem_append]
  exact .inr member

theorem objects_kept (valid : Valid world.law later) (grown : log <:+ later) {key : Bytes}
    {object : Object} (stored : objects log key = some object) :
    objects later key = some object := by
  obtain ⟨newer, rfl⟩ := grown
  induction newer with
  | nil => exact stored
  | cons event newer ih =>
      have before := ih valid.2
      show (objects (newer ++ log)).apply (event.effect.bind DescriptorEffect.write) key = _
      cases effect : event.effect with
      | none => exact before
      | some found =>
          cases found with
          | sealing made => exact before
          | stored write =>
              have absent := (valid.1.2.stored write effect).1
              have other : key ≠ write.key := by
                rintro rfl
                have both : some object = none := before.symm.trans absent
                cases both
              simpa [Objects.apply, DescriptorEffect.write, Function.update_of_ne other] using before

theorem sealings_ideal (valid : Valid world.law log) :
    Distinct (sealings log) ∧
      ∀ made ∈ sealings log, made.ciphertext.length = made.plaintext.length + aeadOverhead := by
  induction log with
  | nil =>
      constructor
      · intro left member
        cases member
      · intro made member
        cases member
  | cons event older ih =>
      have held := ih valid.2
      obtain ⟨client, call, op, answer, effect⟩ := event
      have served := valid.1.1
      cases op with
      | sealWith secret plaintext associated =>
          obtain ⟨sized, fresh, rfl⟩ := served
          refine ⟨held.1.cons fresh, ?_⟩
          intro made member
          rcases List.mem_cons.mp member with rfl | earlier
          · exact sized
          · exact held.2 made earlier
      | contextErr =>
          obtain rfl := served
          exact held
      | random =>
          obtain rfl := served
          exact held
      | openWith secret ciphertext associated =>
          obtain ⟨_, rfl⟩ := served
          exact held
      | store request =>
          obtain ⟨write, rfl, _⟩ := served
          cases write with
          | none => exact held
          | some write => exact held

theorem Unwraps.mono {key : Bytes} {made more : List Sealing} {layers : List Profile}
    {data plaintext : Bytes} (unwraps : world.Unwraps key made layers data plaintext)
    (grown : made ⊆ more) : world.Unwraps key more layers data plaintext := by
  induction layers generalizing plaintext with
  | nil => exact unwraps
  | cons profile rest ih =>
      obtain ⟨middle, inner, sealed⟩ := unwraps
      exact ⟨middle, ih inner, sealed.mono grown⟩

theorem Describes.mono {key : Bytes} {made more : List Sealing} {object : Object}
    (describes : world.Describes key made object) (grown : made ⊆ more) :
    world.Describes key more object := by
  obtain ⟨versioned, descriptor, layers, held, named, unwraps⟩ := describes
  exact ⟨versioned, descriptor, layers, held, named, unwraps.mono grown⟩

theorem stored_describes (valid : Valid world.law log) {key : Bytes} {object : Object}
    (stored : objects log key = some object) : world.Describes key (sealings log) object := by
  induction log with
  | nil => cases stored
  | cons event older ih =>
      have grown : sealings older ⊆ sealings (event :: older) :=
        sealings_subset (List.suffix_cons _ _)
      have now : (objects older).apply (event.effect.bind DescriptorEffect.write) key =
        some object := stored
      cases effect : event.effect with
      | none =>
          rw [effect] at now
          exact (ih valid.2 now).mono grown
      | some found =>
          rw [effect] at now
          cases found with
          | sealing made => exact (ih valid.2 now).mono grown
          | stored write =>
              obtain ⟨_, describes⟩ := valid.1.2.stored write effect
              by_cases same : key = write.key
              · subst same
                have equal : write.object = object := by
                  simpa [Objects.apply, DescriptorEffect.write] using now
                exact equal ▸ describes.mono grown
              · have before : objects older key = some object := by
                  simpa [Objects.apply, DescriptorEffect.write, Function.update_of_ne same] using now
                exact (ih valid.2 before).mono grown

/-! One envelope has one plaintext, and a descriptor is no envelope. -/

def Peels (world : DescriptorWorld) (key : Bytes) (made : List Sealing)
    (envelope plaintext : Bytes) : Prop :=
  ∃ profile, SealedFor world.derivation profile key plaintext envelope made

theorem Unwraps.peels {key : Bytes} {made : List Sealing} {layers : List Profile}
    {data plaintext : Bytes} (unwraps : world.Unwraps key made layers data plaintext) :
    Relation.ReflTransGen (world.Peels key made) data plaintext := by
  induction layers generalizing plaintext with
  | nil =>
      obtain rfl : data = plaintext := unwraps
      exact .refl
  | cons profile rest ih =>
      obtain ⟨middle, inner, sealed⟩ := unwraps
      exact .tail (ih inner) ⟨profile, sealed⟩

theorem peels_unique {key : Bytes} {made : List Sealing} (distinct : Distinct made) :
    Relator.RightUnique (world.Peels key made) := by
  rintro envelope first second ⟨profile, salt, ciphertext, salted, _, same, member⟩
    ⟨profile', salt', ciphertext', salted', _, same', member'⟩
  rw [same, List.append_assoc, List.append_assoc, List.append_cancel_left_eq] at same'
  obtain ⟨_, equal⟩ := List.append_inj same' (salted.trans salted'.symm)
  exact congrArg Sealing.plaintext (distinct _ member _ member' equal)

theorem not_peels_encode {key plaintext : Bytes} {made : List Sealing}
    {descriptor : RepositoryDescriptor} : ¬world.Peels key made descriptor.encode plaintext := by
  rintro ⟨profile, salt, ciphertext, _, _, same, _⟩
  have first := congrArg List.head? same
  cases first

theorem Unwraps.unique {key data : Bytes} {made : List Sealing} {layers layers' : List Profile}
    {descriptor descriptor' : RepositoryDescriptor} (distinct : Distinct made)
    (first : world.Unwraps key made layers data descriptor.encode)
    (second : world.Unwraps key made layers' data descriptor'.encode) :
    descriptor.encode = descriptor'.encode := by
  rcases first.peels.total_of_right_unique (peels_unique distinct) second.peels with further | further
  · rcases further.cases_head with same | ⟨_, step, _⟩
    · exact same
    · exact absurd step not_peels_encode
  · rcases further.cases_head with same | ⟨_, step, _⟩
    · exact same.symm
    · exact absurd step not_peels_encode

theorem encode_injective {descriptor descriptor' : RepositoryDescriptor}
    (held : Commissioned world.wire descriptor) (held' : Commissioned world.wire descriptor')
    (same : descriptor.encode = descriptor'.encode) : descriptor = descriptor' := by
  have version : Objects.Valid ⟨[1], []⟩ := ⟨by decide, by decide, by decide⟩
  have read := held.decode version
  rw [same, held'.decode version] at read
  exact (Except.ok.inj read).symm

/-! The requests. A call is undisturbed when its context was not cancelled and its reads
succeeded. -/

def Succeeds : (op : ObjectRequest) → ObjectAnswer op → Prop
  | .contextErr, answer => answer = none
  | .store (.get _ _), answer => ∃ object, answer = .ok object
  | _, _ => True

def Undisturbed (client : Nat) (start later : DescriptorLog) : Prop :=
  ∀ event older, event :: older <:+ later → start <:+ older → event.client = client →
    Succeeds event.op event.answer

variable {agent : Nat × DescriptorCall} {start : DescriptorLog} {key : Bytes}

theorem Undisturbed.last {op : ObjectRequest} {answer : ObjectAnswer op}
    {effect : Option DescriptorEffect}
    (undisturbed : Undisturbed agent.1 start (.of agent op answer effect :: later))
    (grown : start <:+ later) : Succeeds op answer :=
  undisturbed (.of agent op answer effect) later (List.suffix_refl _) grown rfl

theorem quiet_proper {event : Event ObjectRequest ObjectAnswer DescriptorCall DescriptorEffect}
    (served : world.serves log event) (quiet : event.op.writes = false) : world.Proper log event := by
  refine ⟨fun writes => absurd writes (by simp [quiet]), fun write effected => ?_⟩
  obtain ⟨client, call, op, answer, effect⟩ := event
  dsimp only at effected
  subst effected
  cases op with
  | contextErr => cases served
  | random => cases served
  | sealWith secret plaintext associated =>
      obtain ⟨_, _, same⟩ := served
      cases same
  | openWith secret ciphertext associated =>
      obtain ⟨_, same⟩ := served
      cases same
  | store request =>
      obtain ⟨written, same, performed⟩ := served
      cases request with
      | get requested options =>
          have none : written = none := performed.elim And.left And.left
          subst none
          cases same
      | head requested =>
          have none : written = none := performed.elim And.left And.left
          subst none
          cases same
      | putIfAbsent requested data => cases quiet
      | compareAndSwap requested expected data => cases quiet

theorem quiet_meets {α : Type} {op : ObjectRequest} {resume : ObjectAnswer op → Except Err α}
    {post : α → DescriptorLog → Prop} {fail : Err → DescriptorLog → Prop}
    (quiet : op.writes = false)
    (holds : ∀ later answer effect, log <:+ later → Valid world.law later →
      world.serves later (.of agent op answer effect) →
      Outcome post fail (resume answer) (.of agent op answer effect :: later)) :
    Fallible.Meets world.law agent (Program.ask op fun answer => .done (resume answer)) log post
      fail :=
  .ask fun later interferes valid answer effect served =>
    ⟨quiet_proper served quiet, holds later answer effect interferes.suffix valid served⟩

theorem contextErr_meets (grown : start <:+ log) :
    Encrypting.contextErr.Meets world.law agent log (fun _ _ => True)
      fun _ later => ¬Undisturbed agent.1 start later := by
  refine quiet_meets rfl fun later answer effect interferes _ _ => ?_
  cases answer with
  | none => trivial
  | some error =>
      intro undisturbed
      cases undisturbed.last (grown.trans interferes)

theorem storeGet_meets {options : GetOptions} (grown : start <:+ log) :
    (Encrypting.storeGet key options).Meets world.law agent log
      (fun object later => objects later key = some object)
      fun _ later => ¬Undisturbed agent.1 start later := by
  refine quiet_meets rfl fun later answer effect interferes valid served => ?_
  obtain ⟨write, rfl, performed⟩ := served
  cases answer with
  | error error =>
      intro undisturbed
      obtain ⟨object, same⟩ := undisturbed.last (grown.trans interferes)
      cases same
  | ok object =>
      rcases performed with ⟨rfl, reads⟩ | ⟨_, _, failed⟩
      · show objects later key = some object
        cases found : objects later key with
        | none =>
            rw [found] at reads
            obtain ⟨_, same, _⟩ := reads
            cases same
        | some stored =>
            rw [found] at reads
            simp only [Objects.Reads] at reads
            split at reads
            · obtain ⟨_, same, _⟩ := reads
              cases same
            split at reads
            · obtain ⟨_, same, _⟩ := reads
              cases same
            · cases reads
              rfl
      · cases failed

theorem messageSalt_meets :
    Encrypting.messageSalt.Meets world.law agent log
      (fun salt _ => salt.length = clientEncryptionSaltBytes) fun _ _ => True := by
  refine quiet_meets rfl fun later answer effect _ _ _ => ?_
  cases answer with
  | error error => trivial
  | ok salt => exact salt.property

theorem aeadSeal_meets {secret plaintext associated : Bytes} {fail : Err → DescriptorLog → Prop} :
    (Encrypting.aeadSeal secret plaintext associated).Meets world.law agent log
      (fun ciphertext later => ciphertext.length = plaintext.length + aeadOverhead ∧
        ⟨secret, plaintext, associated, ciphertext⟩ ∈ sealings later) fail := by
  refine quiet_meets rfl fun later ciphertext effect _ _ served => ?_
  obtain ⟨sized, _, rfl⟩ := served
  exact ⟨sized, List.mem_cons_self⟩

theorem aeadOpen_meets {secret ciphertext associated : Bytes}
    {fail : Err → DescriptorLog → Prop} :
    (Encrypting.aeadOpen secret ciphertext associated).Meets world.law agent log
      (fun answer later => answer = opened (sealings later) secret ciphertext associated) fail := by
  refine quiet_meets rfl fun later answer effect _ _ served => ?_
  obtain ⟨same, rfl⟩ := served
  exact same

theorem storePutIfAbsent_meets {data : Bytes} (creates : agent.2.operation.creates = true)
    {descriptor : RepositoryDescriptor} {layers : List Profile}
    (held : Commissioned world.wire descriptor)
    (named : key = descriptorKey descriptor.repositoryPrefix)
    (unwraps : world.Unwraps key (sealings log) layers data descriptor.encode) :
    (Encrypting.storePutIfAbsent key data).Meets world.law agent log
      (fun version later => objects later key = some ⟨data, version⟩) fun _ _ => True := by
  refine .ask fun later interferes valid answer effect served => ?_
  obtain ⟨write, rfl, performed⟩ := served
  have describes : ∀ version, Objects.Valid version →
      world.Describes key (sealings later) ⟨data, version⟩ := fun version valued =>
    ⟨valued, descriptor, layers, held, named, unwraps.mono (sealings_subset interferes.suffix)⟩
  have written : write = none ∨ ∃ version, Objects.Valid version ∧ objects later key = none ∧
      write = some ⟨key, data, version⟩ := by
    rcases performed with (⟨absent, version, valued, _, rfl⟩ | ⟨_, rfl, _⟩) |
      ⟨rfl | ⟨_, absent, version, valued, rfl⟩, _⟩
    · exact .inr ⟨version, valued, absent, rfl⟩
    · exact .inl rfl
    · exact .inl rfl
    · exact .inr ⟨version, valued, absent, rfl⟩
  refine ⟨⟨fun _ => creates, fun found effected => ?_⟩, ?_⟩
  · rcases written with rfl | ⟨version, valued, absent, rfl⟩
    · cases effected
    · cases effected
      exact ⟨absent, describes version valued⟩
  · cases answer with
    | error error => trivial
    | ok version =>
        rcases performed with (⟨_, granted, _, same, rfl⟩ | ⟨_, _, _, same, _⟩) | ⟨_, _, same⟩
        · cases same
          show (objects later).apply (some ⟨key, data, version⟩) key = _
          simp [Objects.apply]
        · cases same
        · cases same

end DescriptorWorld

end S3Disk
