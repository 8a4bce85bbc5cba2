import S3Disk.CallSafety
import S3Disk.Simulation

/-! The history of a signed channel, over every run of every number of publishers:
one chain of snapshots at the reference, a journal record ahead of every write of it,
and a committed watermark that only moves forward. -/

namespace S3Disk

open Concurrent Relation

def ChainValue (wire : Wire) (log : Log) : List Object → Object → Prop
  | [], object => ∃ first, signedWatermark wire object.data = some first ∧
      PointRoot wire log first.point
  | previous :: _, object => ∃ before after, signedWatermark wire previous.data = some before ∧
      signedWatermark wire object.data = some after ∧
      (after.point = before.point ∨ PointParent wire log after.point before.point)

section

variable {world : World} {log later : Log} {channel : Channel}

theorem ChainValue.mono {wire : Wire} (grown : log <:+ later) (older : List Object) (object : Object)
    (value : ChainValue wire log older object) :
    ChainValue wire later older object := by
  cases older with
  | nil =>
      obtain ⟨first, asserted, root⟩ := value
      exact ⟨first, asserted, root.mono grown⟩
  | cons previous rest =>
      obtain ⟨before, after, assertedBefore, assertedAfter, step⟩ := value
      refine ⟨before, after, assertedBefore, assertedAfter, ?_⟩
      rcases step with same | child
      · exact .inl same
      · exact .inr (child.mono grown)

theorem pointOf_signed {wire : Wire} {data : Bytes} {point : Point}
    (asserted : pointOf wire (.signedReference channel) data = some point) :
    ∃ watermark, signedWatermark wire data = some watermark ∧ watermark.point = point := by
  simpa [pointOf] using asserted

theorem chainValue_of_stored (valid : Valid world.law log) {object : Object}
    (stored : StoresWell world.repository.wire log (.signedReference channel) object.data) :
    ChainValue world.repository.wire log (versions log (.signedReference channel)) object := by
  obtain ⟨point, asserted, grows⟩ := stored
  obtain ⟨after, assertedAfter, rfl⟩ := pointOf_signed asserted
  cases found : versions log (.signedReference channel) with
  | nil =>
      simp only [points, found, List.filterMap_nil] at grows
      exact ⟨after, assertedAfter, grows⟩
  | cons previous rest =>
      have reference : (Key.signedReference channel).IsReference := trivial
      obtain ⟨point, _, assertedPoint⟩ := point_of_mem valid reference
        (show previous ∈ versions log (.signedReference channel) by simp [found])
      obtain ⟨before, assertedBefore, rfl⟩ := pointOf_signed assertedPoint
      simp only [points, found, List.filterMap_cons, assertedPoint] at grows
      exact ⟨before, after, assertedBefore, assertedAfter, grows⟩

theorem versions_chained (valid : Valid world.law log) :
    Each (ChainValue world.repository.wire log)
      (versions log (.signedReference channel)) := by
  induction log with
  | nil => trivial
  | cons event older ih =>
      have grown : older <:+ event :: older := List.suffix_cons _ _
      have kept := (ih (valid.suffix grown)).mono fun before object _ =>
        ChainValue.mono grown before object
      rw [versions_cons]
      cases found : storedObject (.signedReference channel) event.effect with
      | none => simpa using kept
      | some object =>
          have stored := (valid.kept (List.suffix_refl _)).stored _ object (storedObject_some.mp found)
          have continues := chainValue_of_stored (valid.suffix grown) stored
          exact ⟨continues.mono grown, kept⟩

/-- The successive values of a signed reference form one chain. -/
theorem signedReference_chain (lawful : world.repository.wire.Lawful)
    {config : Config Request Answer PublisherCall Effect World.Memory PublisherResult}
    (reachable : world.machine.Reachable config) (channel : Channel) :
    Each (ChainValue world.repository.wire config.log)
      (versions config.log (.signedReference channel)) :=
  versions_chained ((publishers_verified lawful).reachable reachable).valid

theorem signedReference_chain_simulated :
    ∃ config, (Simulation.world true).machine.Reachable config ∧
      (versions config.log (.signedReference Simulation.channel)).length = 2 ∧
      Each (ChainValue concreteWire config.log)
        (versions config.log (.signedReference Simulation.channel)) := by
  have computed : (Simulation.run true (Simulation.publishEmpty 1 ++ Simulation.publishNested 2)).any
      (fun config => (versions config.log (.signedReference Simulation.channel)).length == 2) =
      true := by decide +kernel
  obtain ⟨config, reachable, two⟩ := Simulation.exists_reachable computed
  exact ⟨config, reachable, by simpa using two,
    signedReference_chain concreteWire_lawful reachable Simulation.channel⟩

theorem writtenAhead_of_waiting {client : Nat} {call : PublisherCall} {expected : Option Version}
    {data : Bytes}
    {next : Except Err Version → Program Request Answer (PublisherResult × World.Memory)}
    (valid : Valid world.law log)
    (safe : ClientSafe world.law (Remembers world) (CallPost world) client log
      (.busy call (.compareAndSwap (.signedReference channel) expected data) next)) :
    WrittenAhead world log client channel data := by
  -- The store may refuse any write, so the request keeps the invariant already here.
  have refused : world.law.serves log (.of (client, call)
      (.compareAndSwap (.signedReference channel) expected data)
      (.error Sentinel.precondition.error) none) := .inl ⟨rfl, _, rfl⟩
  exact (safe log (.refl _ _) valid _ _ refused).1.writtenAhead channel expected data rfl

/-- What a journal may do with a pending intent: keep what it means, or clear it on
evidence. -/
def KeepsIntent (world : World) (log : Log) (client : Nat) (channel : Channel)
    (intent : PublicationIntent) (state : PublicationJournalState) : Prop :=
  (∃ pending, state.pending = some pending ∧ pending.intentID = intent.intentID ∧
    pending.kind = intent.kind ∧ pending.base = intent.base ∧ pending.next = intent.next ∧
    pending.reference = intent.reference) ∨
  (state.pending = none ∧ ∃ committed, state.committed = some committed ∧
    Settles world log client channel intent committed)

theorem Move.keepsIntent {agent : Nat × PublisherCall} {trust : Trust}
    {before after : PublicationJournalState} {intent : PublicationIntent}
    (move : Move world log agent trust channel (some before) after)
    (pending : before.pending = some intent) :
    KeepsIntent world log agent.1 channel intent after := by
  cases move with
  | adopt idle visible advances => simp [idle] at pending
  | begin idle begun => simp [idle] at pending
  | refresh owned =>
      obtain rfl : _ = intent := by simpa [owned] using pending
      exact .inl ⟨_, rfl, rfl, rfl, rfl, rfl, rfl⟩
  | @finalize _ owner committed owned visible advances settles =>
      obtain rfl : owner = intent := by simpa [owned] using pending
      exact .inr ⟨rfl, committed, rfl, settles⟩

/-- Signed publication writes ahead: whatever a client passes to the store for a signed
reference is the target of an intent that is durable already, and a pending intent
keeps its meaning until there is evidence for its outcome. -/
theorem signed_write_ahead (lawful : world.repository.wire.Lawful)
    {config : Config Request Answer PublisherCall Effect World.Memory PublisherResult}
    (reachable : world.machine.Reachable config) (channel : Channel) :
    (∀ client call expected data next,
      config.clients client =
        .busy call (.compareAndSwap (.signedReference channel) expected data) next →
      WrittenAhead world config.log client channel data) ∧
    ∀ event older journal state revision previous intent,
      event :: older <:+ config.log →
      event.effect = some (.recorded journal channel state revision) →
      (records older journal channel).head? = some previous → previous.1.pending = some intent →
      KeepsIntent world older event.client channel intent state := by
  have safe := (publishers_verified lawful).reachable reachable
  refine ⟨?_, ?_⟩
  · intro client call expected data next waiting
    have clientSafe := safe.clients client
    rw [waiting] at clientSafe
    exact writtenAhead_of_waiting safe.valid clientSafe
  · intro event older journal state revision previous intent inside recorded head pending
    obtain ⟨trust, _, _, _, _, _, move⟩ :=
      recorded_step (Valid.suffix safe.valid inside) recorded
    rw [head] at move
    exact move.keepsIntent pending

def waitsToSwap (state : Client Request Answer PublisherCall World.Memory PublisherResult) : Bool :=
  match state with
  | .busy _ (.compareAndSwap key _ _) _ => key == .signedReference Simulation.channel
  | _ => false

theorem signed_write_ahead_simulated :
    ∃ config call expected data next, (Simulation.world true).machine.Reachable config ∧
      config.clients 1 =
        .busy call (.compareAndSwap (.signedReference Simulation.channel) expected data) next ∧
      WrittenAhead (Simulation.world true) config.log 1 Simulation.channel data := by
  have computed : (Simulation.run true [Simulation.stageEmpty 1, Simulation.toEnd 1,
      Simulation.commitStaged 1, .proceed 1 6]).any
      (fun config => waitsToSwap (config.clients 1)) = true := by decide +kernel
  obtain ⟨config, reachable, waits⟩ := Simulation.exists_reachable computed
  unfold waitsToSwap at waits
  split at waits
  · rename_i call key expected data next waiting
    obtain rfl : key = .signedReference Simulation.channel := by simpa using waits
    exact ⟨config, call, expected, data, next, reachable, waiting,
      (signed_write_ahead concreteWire_lawful reachable Simulation.channel).1 1 call expected data
        next waiting⟩
  · cases waits

structure RecordOk (world : World) (log : Log) (client : Nat) (channel : Channel)
    (older : List (PublicationJournalState × PublicationJournalRevision))
    (state : PublicationJournalState) : Prop where
  checked : validatePublicationJournalState world.repository.wire state = .ok ()
  based : ∀ pending, state.pending = some pending → pending.base = state.committed
  forward : ∀ record ∈ older, ∀ before, record.1.committed = some before →
    ∃ after, state.committed = some after ∧ before.generation ≤ after.generation ∧
      (after.generation = before.generation → after.commit = before.commit)
  justified : ∀ committed, state.committed = some committed →
    (∃ trust, (world.publisher client).trust = some trust ∧
      trust.trustedCheckpoint = some committed ∧ older = []) ∨
    ∃ record rest, older = record :: rest ∧
      (record.1.committed = some committed ∨
        Visible world.repository.wire log channel committed ∧
          ∀ before, record.1.committed = some before →
            Descends world.repository.wire log committed before)

theorem Follows.forward {wire : Wire} {before after : Option Watermark}
    (follows : Follows wire log channel before after) {watermark : Watermark}
    (found : before = some watermark) :
    ∃ next, after = some next ∧ watermark.generation ≤ next.generation ∧
      (next.generation = watermark.generation → next.commit = watermark.commit) := by
  rcases follows with rfl | ⟨next, rfl, _, descends⟩
  · exact ⟨watermark, found, Nat.le_refl _, fun _ => rfl⟩
  · have above := (descends watermark found).1
    refine ⟨next, rfl, above.le, ?_⟩
    intro same
    omega

theorem recordOk_of_recordsWell (valid : Valid world.law log) {agent : Nat × PublisherCall}
    {journal : Nat} {state : PublicationJournalState}
    (well : RecordsWell world log agent journal channel state) :
    RecordOk world log agent.1 channel (records log journal channel) state := by
  obtain ⟨trust, configured, _, _, _, stateValid, move⟩ := well
  refine ⟨validatePublicationJournalState_ok.mpr stateValid,
    fun pending found => (stateValid.pending pending found).2, ?_, ?_⟩
  · rintro ⟨earlier, revision⟩ member before found
    cases newest : (records log journal channel).head? with
    | none => simp [List.head?_eq_none_iff.mp newest] at member
    | some last =>
        rw [newest] at move
        exact ((follows_of_mem valid member newest).trans move.follows).forward found
  · intro committed found
    cases earlier : records log journal channel with
    | nil =>
        rw [earlier] at move
        cases move with
        | start => exact .inl ⟨trust, configured, found, rfl⟩
    | cons record rest =>
        rw [earlier] at move
        refine .inr ⟨record, rest, rfl, ?_⟩
        rcases move.follows with same | ⟨next, found', visible, descends⟩
        · exact .inl (same ▸ found)
        · obtain rfl : next = committed := by simpa [found] using found'.symm
          exact .inr ⟨visible, fun before => descends before⟩

/-- Every update of a journal is a valid state that carries the committed watermark
forward along visible, stored ancestry. -/
theorem journal_forward (lawful : world.repository.wire.Lawful)
    {config : Config Request Answer PublisherCall Effect World.Memory PublisherResult}
    (reachable : world.machine.Reachable config) {event : LogEntry} {older : Log} {journal : Nat}
    {channel : Channel} {state : PublicationJournalState} {revision : PublicationJournalRevision}
    (inside : event :: older <:+ config.log)
    (recorded : event.effect = some (.recorded journal channel state revision)) :
    RecordOk world older event.client channel (records older journal channel) state := by
  have valid := Valid.suffix ((publishers_verified lawful).reachable reachable).valid inside
  exact recordOk_of_recordsWell (valid.suffix (List.suffix_cons _ _)) (recorded_step valid recorded)

def recordsFifth (log : Log) : Bool :=
  match log with
  | ⟨_, _, _, _, some (.recorded journal channel _ _)⟩ :: older =>
      journal == 0 && channel == Simulation.channel && (records older journal channel).length == 4
  | _ => false

theorem journal_forward_simulated :
    ∃ config event older state revision, (Simulation.world true).machine.Reachable config ∧
      config.log = event :: older ∧
      event.effect = some (.recorded 0 Simulation.channel state revision) ∧
      (records older 0 Simulation.channel).length = 4 ∧
      RecordOk (Simulation.world true) older event.client Simulation.channel
        (records older 0 Simulation.channel) state := by
  have computed : (Simulation.run true (Simulation.publishEmpty 1 ++ Simulation.publishNested 2)).any
      (fun config => recordsFifth config.log) = true := by decide +kernel
  obtain ⟨config, reachable, newestRecorded⟩ := Simulation.exists_reachable computed
  unfold recordsFifth at newestRecorded
  split at newestRecorded
  · rename_i client call op answer journal channel state revision older newest
    simp only [Bool.and_eq_true, beq_iff_eq] at newestRecorded
    obtain ⟨⟨rfl, rfl⟩, four⟩ := newestRecorded
    exact ⟨config, _, older, state, revision, reachable, newest, rfl, four,
      journal_forward concreteWire_lawful reachable (newest ▸ List.suffix_refl _) rfl⟩
  · cases newestRecorded

end

end S3Disk
