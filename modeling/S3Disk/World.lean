import S3Disk.Commit

/-! Publishers around one store and their journals. What is stored and recorded is
read off the log of events; the services are assumed linearizable where they write
and no more than that where they read: a read may return any value that is or was
visible, and any call may report any error, applied or not. -/

namespace S3Disk

open Concurrent

inductive PublisherCall where
  | stage (source : Bytes) (channel : Channel)
  | stageSelected (source : Bytes) (channel : Channel) (paths : List Bytes)
  | commit (staged : StagedSnapshot)
  | resignReference (channel : Channel)
  | recoverPublication (channel : Channel)
  deriving DecidableEq, Repr

inductive PublisherResult where
  | staged (result : Except Err StagedSnapshot)
  | snapshot (result : Except Err Snapshot)
  | recovery (result : Except Err PublicationRecovery)

inductive Effect where
  | stored (key : Key) (object : Object)
  | recorded (journal : Nat) (channel : Channel) (state : PublicationJournalState)
      (revision : PublicationJournalRevision)
  deriving DecidableEq, Repr

abbrev LogEntry := Event Request Answer PublisherCall Effect

abbrev Log := List LogEntry

def storedObject (key : Key) : Option Effect → Option Object
  | some (.stored target object) => if target = key then some object else none
  | _ => none

def recordedState (journal : Nat) (channel : Channel) :
    Option Effect → Option (PublicationJournalState × PublicationJournalRevision)
  | some (.recorded target name state revision) =>
      if target = journal ∧ name = channel then some (state, revision) else none
  | _ => none

def versions (log : Log) (key : Key) : List Object :=
  log.filterMap fun event => storedObject key event.effect

def records (log : Log) (journal : Nat) (channel : Channel) :
    List (PublicationJournalState × PublicationJournalRevision) :=
  log.filterMap fun event => recordedState journal channel event.effect

def ETagIs (log : Log) (key : Key) : Option Version → Prop
  | none => versions log key = []
  | some expected => ∃ object, (versions log key).head? = some object ∧
      object.version.eTag = expected.eTag

def RevisionIs (log : Log) (journal : Nat) (channel : Channel) :
    Option PublicationJournalRevision → Prop
  | none => records log journal channel = []
  | some expected => ∃ state, (records log journal channel).head? = some (state, expected)

/-- A write is refused, or is applied because its condition holds, under a version
whose ETag no other content of the key has. -/
def StoreWrites (log : Log) (key : Key) (expected : Option Version) (data : Bytes)
    (answer : Except Err Version) (effect : Option Effect) : Prop :=
  (effect = none ∧ ∃ error, answer = .error error) ∨
  ∃ version, effect = some (.stored key ⟨data, version⟩) ∧ ETagIs log key expected ∧
    (∀ object ∈ versions log key, object.version.eTag = version.eTag → object.data = data) ∧
    ∀ reported, answer = .ok reported → reported = version

def JournalWrites (log : Log) (journal : Nat) (channel : Channel)
    (expected : Option PublicationJournalRevision) (next : PublicationJournalState)
    (answer : Except Err PublicationJournalRevision) (effect : Option Effect) : Prop :=
  (effect = none ∧ ∃ error, answer = .error error) ∨
  ∃ revision, effect = some (.recorded journal channel next revision) ∧
    RevisionIs log journal channel expected ∧
    (∀ record ∈ records log journal channel, record.2 ≠ revision) ∧
    ∀ reported, answer = .ok reported → reported = revision

/-- Publishers of one repository: the configuration of each, the protected files it
saw when it was constructed, and the signatures its keyring accepts. -/
structure World where
  repository : Repository
  publisher : Nat → Publisher repository
  initiallySeen : Nat → Bytes → Bool
  trusts : Nat → Bytes → Bytes → Bytes → Prop

namespace World

variable (world : World)

def serves (client : Nat) (log : Log) : (op : Request) → Answer op → Option Effect → Prop
  | .get key _, .ok object, effect => effect = none ∧ object ∈ versions log key
  | .head key, .ok version, effect =>
      effect = none ∧ ∃ object ∈ versions log key, object.version = version
  | .putIfAbsent key data, answer, effect => StoreWrites log key none data answer effect
  | .compareAndSwap key expected data, answer, effect =>
      StoreWrites log key expected data answer effect
  | .loadJournal journal _ channel, .ok found, effect =>
      effect = none ∧ found = (records log journal channel).head?
  | .swapJournal journal channel expected next, answer, effect =>
      JournalWrites log journal channel expected next answer effect
  | .verify keyID message signature, .ok (), effect =>
      effect = none ∧ world.trusts client keyID message signature
  | _, _, effect => effect = none

structure Memory where
  publisher : PublisherMemory
  staged : List StagedSnapshot

def finish {α : Type} (memory : Memory) (action : Recovery α)
    (result : Except Err α → PublisherResult) (kept : α → List StagedSnapshot) :
    Program Request Answer (PublisherResult × Memory) :=
  Program.bind (action memory.publisher) fun outcome =>
    .done (result outcome.1,
      { publisher := outcome.2
        staged := memory.staged ++ (outcome.1.toOption.map kept).getD [] })

def body (client : Nat) (call : PublisherCall) (memory : Memory) :
    Program Request Answer (PublisherResult × Memory) :=
  let publisher := world.publisher client
  match call with
  | .stage source channel =>
      finish memory (stage publisher client source channel none) .staged fun staged => [staged]
  | .stageSelected source channel paths =>
      finish memory (stageSelected publisher client source channel paths) .staged
        fun staged => [staged]
  | .commit staged => finish memory (commit publisher client staged) .snapshot fun _ => []
  | .resignReference channel =>
      finish memory (resignReference publisher client channel) .snapshot fun _ => []
  | .recoverPublication channel =>
      finish memory (publisher.recoverPublication channel) .recovery fun _ => []

/-- A caller can only commit what the publisher staged. A request still in flight
when its client crashes is the same as a crash right after its answer, and a
restarted publisher is one more client. -/
def machine : Machine Request Answer PublisherCall Effect Memory PublisherResult where
  serves log event := world.serves event.client log event.op event.answer event.effect
  fresh client := ⟨⟨fun _ => none, world.initiallySeen client⟩, []⟩
  allowed _ memory call := ∀ staged, call = .commit staged → staged ∈ memory.staged
  body := world.body

end World

section

variable {log later : Log}

theorem versions_mono (grown : log <:+ later) (key : Key) :
    versions log key <:+ versions later key := grown.filterMap _

theorem records_mono (grown : log <:+ later) (journal : Nat) (channel : Channel) :
    records log journal channel <:+ records later journal channel := grown.filterMap _

theorem mem_versions_mono (grown : log <:+ later) {key : Key} {object : Object}
    (member : object ∈ versions log key) : object ∈ versions later key :=
  (versions_mono grown key).subset member

theorem versions_nonempty_mono (grown : log <:+ later) {key : Key}
    (stored : versions log key ≠ []) : versions later key ≠ [] := by
  obtain ⟨object, member⟩ := List.exists_mem_of_ne_nil _ stored
  exact List.ne_nil_of_mem (mem_versions_mono grown member)

theorem mem_records_mono (grown : log <:+ later) {journal : Nat} {channel : Channel}
    {record : PublicationJournalState × PublicationJournalRevision}
    (member : record ∈ records log journal channel) : record ∈ records later journal channel :=
  (records_mono grown journal channel).subset member

end

end S3Disk
