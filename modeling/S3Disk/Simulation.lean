import S3Disk.ConcreteWire
import S3Disk.HistoryFacts
import S3Disk.Library.Script

/-! A world to run the publishers in: one signed and one unsigned configuration,
services that apply every write whose condition holds, and two source trees: an empty
directory, and a directory with an empty one inside. -/

namespace S3Disk

open Concurrent

namespace Simulation

def trust : Trust where
  referenceSigner := ⟨⟨[1]⟩, [97]⟩
  referenceVerifier := ⟨⟨[1]⟩⟩
  publicationJournal := 0
  trustedCheckpoint := none
  allowTrustOnFirstUse := true
  nonzero := by decide
  sameRepository := rfl
  checkpointValid := by simp

def publisher (signed : Bool) : Publisher ⟨concreteWire, []⟩ where
  options := ⟨⟨256 * 1024, 1024 * 1024, 4 * 1024 * 1024, defaultPolynomial⟩, 1, .preserve⟩
  protectedSourceFiles := []
  trust := if signed then some trust else none
  chunkingNormalized := by decide
  triesBounded := by decide

def world (signed : Bool) : World where
  repository := ⟨concreteWire, []⟩
  publisher _ := publisher signed
  initiallySeen _ _ := false
  trusts _ _ _ _ := True

def write (log : Log) (key : Key) (data : Bytes) (condition : Bool) :
    Except Err Version × Option Effect :=
  if condition then
    let version : Version := ⟨freshBytes ((versions log key).map (·.version.eTag)), []⟩
    (.ok version, some (.stored key ⟨data, version⟩))
  else (.error Sentinel.precondition.error, none)

def eTagIs (log : Log) (key : Key) : Option Version → Bool
  | none => (versions log key).isEmpty
  | some expected => ((versions log key).head?.map (·.version.eTag)) == some expected.eTag

def revisionIs (log : Log) (journal : Nat) (channel : Channel) :
    Option PublicationJournalRevision → Bool
  | none => (records log journal channel).isEmpty
  | some expected => ((records log journal channel).head?.map (·.2)) == some expected

def record (log : Log) (journal : Nat) (channel : Channel)
    (expected : Option PublicationJournalRevision) (next : PublicationJournalState) :
    Except Err PublicationJournalRevision × Option Effect :=
  if revisionIs log journal channel expected then
    let revision : Digest := ⟨freshBytes ((records log journal channel).map (·.2.bytes))⟩
    (.ok revision, some (.recorded journal channel next revision))
  else (.error Sentinel.precondition.error, none)

def directory : FileInfo := ⟨1, .directory, 0o755, 0, 0, 0⟩

def respond (log : Log) (agent : Nat × PublisherCall) :
    (op : Request) → Option (Answer op × Option Effect)
  | .get key options => some (match (versions log key).head? with
      | none => .error Sentinel.objectNotFound.error
      | some object =>
          if options.ifNoneMatch = object.version.eTag then .error Sentinel.notModified.error
          else .ok object, none)
  | .head key => some (match (versions log key).head? with
      | none => .error Sentinel.objectNotFound.error
      | some object => .ok object.version, none)
  | .putIfAbsent key data => some (write log key data (eTagIs log key none))
  | .compareAndSwap key expected data => some (write log key data (eTagIs log key expected))
  | .loadJournal journal _ channel => some (.ok (records log journal channel).head?, none)
  | .swapJournal journal channel expected next => some (record log journal channel expected next)
  | .loadWatermark _ => some (.ok none, none)
  | .swapWatermark _ _ _ => some (.ok (), none)
  | .sign _ => some (.ok [UInt8.ofNat agent.1], none)
  | .verify _ _ _ => some (.ok (), none)
  | .now => some ((agent.1 : Int), none)
  | .contextErr => some (none, none)
  | .absolute path => some (.ok path, none)
  | .osLstat _ => some (.ok directory, none)
  | .osOpen _ => some (.error Sentinel.osNotExist.error, none)
  | .openRoot path => some (.ok path.length, none)
  | .rootOpen root path => some (.ok (if path = dot then root else 0), none)
  | .rootLstat _ _ => some (.ok directory, none)
  | .rootStat _ _ => some (.ok directory, none)
  | .rootReadlink _ _ => some (.error Sentinel.osNotExist.error, none)
  | .handleStat _ => some (.ok directory, none)
  | .handleReadDir handle _ =>
      some ((if 2 ≤ handle then [[100]] else [], some Sentinel.endOfFile.error), none)
  | .handleClose _ => some (.ok (), none)
  | .nextChunk _ _ => some (.error Sentinel.endOfFile.error, none)
  | .acquireDownload _ => some (.ok (), none)
  | .metadataRetained _ _ => some (true, none)
  | .cacheGet _ _ => some (.ok none, none)
  | .cachePut _ _ => some (.ok (), none)
  | .halt => none

theorem eTagIs_sound {log : Log} {key : Key} {expected : Option Version}
    (holds : eTagIs log key expected = true) : ETagIs log key expected := by
  cases expected with
  | none => simpa [eTagIs, ETagIs] using holds
  | some version =>
      simp only [eTagIs, beq_iff_eq, Option.map_eq_some_iff] at holds
      exact holds

theorem write_served (log : Log) (key : Key) (data : Bytes) (expected : Option Version) :
    StoreWrites log key expected data (write log key data (eTagIs log key expected)).1
      (write log key data (eTagIs log key expected)).2 := by
  unfold write
  cases holds : eTagIs log key expected with
  | false => exact .inl ⟨rfl, _, rfl⟩
  | true =>
      refine .inr ⟨_, rfl, eTagIs_sound holds, ?_, ?_⟩
      · intro object member same
        have shorter := length_lt_freshBytes (List.mem_map_of_mem (f := (·.version.eTag)) member)
        rw [same] at shorter
        exact absurd shorter (lt_irrefl _)
      · intro reported answered
        exact (Except.ok.inj answered).symm

theorem record_served (log : Log) (journal : Nat) (channel : Channel)
    (expected : Option PublicationJournalRevision) (next : PublicationJournalState) :
    JournalWrites log journal channel expected next (record log journal channel expected next).1
      (record log journal channel expected next).2 := by
  unfold record
  cases holds : revisionIs log journal channel expected with
  | false => exact .inl ⟨rfl, _, rfl⟩
  | true =>
      refine .inr ⟨_, rfl, ?_, ?_, ?_⟩
      · cases expected with
        | none => simpa [revisionIs, RevisionIs] using holds
        | some revision =>
            simp only [revisionIs, beq_iff_eq, Option.map_eq_some_iff] at holds
            obtain ⟨⟨state, found⟩, newest, rfl⟩ := holds
            exact ⟨state, newest⟩
      · intro found member same
        have shorter := length_lt_freshBytes (List.mem_map_of_mem (f := (·.2.bytes)) member)
        rw [same] at shorter
        exact absurd shorter (lt_irrefl _)
      · intro reported answered
        exact (Except.ok.inj answered).symm

theorem respond_served (signed : Bool) {log : Log} {agent : Nat × PublisherCall} {op : Request}
    {answer : Answer op} {effect : Option Effect}
    (responded : respond log agent op = some (answer, effect)) :
    (world signed).serves agent.1 log op answer effect := by
  cases op with
  | get key options =>
      simp only [respond, Option.some.injEq, Prod.mk.injEq] at responded
      obtain ⟨rfl, rfl⟩ := responded
      cases newest : (versions log key).head? with
      | none => rfl
      | some object =>
          dsimp only
          split
          · rfl
          · exact ⟨rfl, List.mem_of_mem_head? newest⟩
  | head key =>
      simp only [respond, Option.some.injEq, Prod.mk.injEq] at responded
      obtain ⟨rfl, rfl⟩ := responded
      cases newest : (versions log key).head? with
      | none => rfl
      | some object => exact ⟨rfl, object, List.mem_of_mem_head? newest, rfl⟩
  | putIfAbsent key data =>
      have applied := write_served log key data none
      rw [Option.some.inj responded] at applied
      exact applied
  | compareAndSwap key expected data =>
      have applied := write_served log key data expected
      rw [Option.some.inj responded] at applied
      exact applied
  | loadJournal journal read channel =>
      simp only [respond, Option.some.injEq, Prod.mk.injEq] at responded
      obtain ⟨rfl, rfl⟩ := responded
      exact ⟨rfl, rfl⟩
  | swapJournal journal channel expected next =>
      have applied := record_served log journal channel expected next
      rw [Option.some.inj responded] at applied
      exact applied
  | verify keyID message signature =>
      simp only [respond, Option.some.injEq, Prod.mk.injEq] at responded
      obtain ⟨rfl, rfl⟩ := responded
      exact ⟨rfl, trivial⟩
  | halt => cases responded
  | _ =>
      simp only [respond, Option.some.injEq, Prod.mk.injEq] at responded
      obtain ⟨rfl, rfl⟩ := responded
      rfl

def environment (signed : Bool) : Environment (world signed).machine where
  respond := respond
  served _ _ _ _ _ responded := respond_served signed responded

instance (world : World) (client : Nat) (memory : World.Memory) (call : PublisherCall) :
    Decidable (world.machine.allowed client memory call) :=
  match call with
  | .commit staged => decidable_of_iff (staged ∈ memory.staged) ⟨fun member found same => by
      obtain rfl : staged = found := by simpa using same
      exact member, fun allowed => allowed staged rfl⟩
  | .stage _ _ => isTrue fun _ same => nomatch same
  | .stageSelected _ _ _ => isTrue fun _ same => nomatch same
  | .resignReference _ => isTrue fun _ same => nomatch same
  | .recoverPublication _ => isTrue fun _ same => nomatch same

def channel : Channel := [97]

def stageEmpty (client : Nat) : Turn World.Memory PublisherCall :=
  .call client fun _ => some (.stage [47] channel)

def stageNested (client : Nat) : Turn World.Memory PublisherCall :=
  .call client fun _ => some (.stage [47, 98] channel)

def commitStaged (client : Nat) : Turn World.Memory PublisherCall :=
  .call client fun memory => memory.staged.getLast?.map .commit

def toEnd (client : Nat) : Turn World.Memory PublisherCall := .proceed client 100

def publishEmpty (client : Nat) : List (Turn World.Memory PublisherCall) :=
  [stageEmpty client, toEnd client, commitStaged client, toEnd client]

def publishNested (client : Nat) : List (Turn World.Memory PublisherCall) :=
  [stageNested client, toEnd client, commitStaged client, toEnd client]

def run (signed : Bool) (turns : List (Turn World.Memory PublisherCall)) :
    Option (Config Request Answer PublisherCall Effect World.Memory PublisherResult) :=
  (environment signed).play turns (world signed).machine.start

theorem exists_reachable {signed : Bool} {turns : List (Turn World.Memory PublisherCall)}
    {check : Config Request Answer PublisherCall Effect World.Memory PublisherResult → Bool}
    (holds : (run signed turns).any check = true) :
    ∃ config, (world signed).machine.Reachable config ∧ check config = true :=
  (environment signed).exists_reachable holds

theorem exists_return {signed : Bool} {turns : List (Turn World.Memory PublisherCall)} {client : Nat}
    {check : PublisherCall × PublisherResult ×
      Config Request Answer PublisherCall Effect World.Memory PublisherResult → Bool}
    (holds : ((run signed turns).bind ((environment signed).finish client)).any check = true) :
    ∃ before label after call result, (world signed).machine.Reachable before ∧
      (world signed).machine.Step before label after ∧ label.Returns client call result ∧
      check (call, result, after) = true :=
  (environment signed).exists_return holds

end Simulation

end S3Disk
