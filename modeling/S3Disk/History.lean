import S3Disk.JournalChecks
import S3Disk.Library.Lineage
import S3Disk.World

/-! What a log says about the repository: the commits it holds and their parents,
the references that were visible, what each publisher observed, and the moves a
journal made. -/

namespace S3Disk

open Concurrent Relation

structure Point where
  generation : Nat
  commit : Digest
  deriving DecidableEq, Repr

def Watermark.point (watermark : Watermark) : Point := ⟨watermark.generation, watermark.commit⟩

def SnapshotReference.point (reference : SnapshotReference) : Point :=
  ⟨reference.generation, reference.commit⟩

def Snapshot.point (snapshot : Snapshot) : Point := ⟨snapshot.generation, snapshot.commit⟩

def HasCommit (wire : Wire) (log : Log) (digest : Digest) (manifest : CommitManifest) : Prop :=
  ∃ object ∈ versions log (.object .commit digest),
    wire.digestObject .commit object.data = digest ∧
      decodeJSON wire.commit object.data = .ok manifest

def PointParent (wire : Wire) (log : Log) (child parent : Point) : Prop :=
  ∃ manifest, HasCommit wire log child.commit manifest ∧
    manifest.generation = child.generation ∧ manifest.parent = some parent.commit ∧
      child.generation = parent.generation + 1

def PointRoot (wire : Wire) (log : Log) (point : Point) : Prop :=
  ∃ manifest, HasCommit wire log point.commit manifest ∧
    manifest.generation = point.generation ∧ manifest.parent = none ∧ point.generation = 1

def signedWatermark (wire : Wire) (data : Bytes) : Option Watermark :=
  (decodeJSON wire.envelope data).toOption.map fun envelope =>
    ⟨envelope.reference.repositoryID, envelope.reference.generation, envelope.reference.commit⟩

def pointOf (wire : Wire) : Key → Bytes → Option Point
  | .reference _, data => (decodeJSON wire.reference data).toOption.map (·.point)
  | .signedReference _, data => (signedWatermark wire data).map (·.point)
  | .object _ _, _ => none

def points (wire : Wire) (log : Log) (key : Key) : List Point :=
  (versions log key).filterMap fun object => pointOf wire key object.data

def Visible (wire : Wire) (log : Log) (channel : Channel) (watermark : Watermark) : Prop :=
  ∃ object ∈ versions log (.signedReference channel),
    signedWatermark wire object.data = some watermark

def Descends (wire : Wire) (log : Log) (later earlier : Watermark) : Prop :=
  earlier.generation < later.generation ∧
    ReflTransGen (PointParent wire log) later.point earlier.point

def Advances (wire : Wire) (log : Log) (committed : Option Watermark) (next : Watermark) : Prop :=
  ∀ before ∈ committed, before = next ∨ Descends wire log next before

def Wins (wire : Wire) (log : Log) (winner : Watermark) : Option Watermark → Prop
  | some base => Descends wire log winner base
  | none => ∃ first, PointRoot wire log first ∧
      ReflTransGen (PointParent wire log) winner.point first

/-- The line of a snapshot passes the generation of another without going through it. -/
def Bypasses (wire : Wire) (log : Log) (snapshot other : Point) : Prop :=
  ∃ passed, ReflTransGen (PointParent wire log) snapshot passed ∧
    passed.generation = other.generation ∧ passed ≠ other

def Published (wire : Wire) (log : Log) (key : Key) (snapshot : Point) : Prop :=
  ∃ visible ∈ points wire log key, ReflTransGen (PointParent wire log) visible snapshot

def Superseded (wire : Wire) (log : Log) (key : Key) (snapshot : Point) : Prop :=
  ∃ visible ∈ points wire log key, Bypasses wire log visible snapshot

def Did (log : Log) (client : Nat) (op : Request) (answer : Answer op) : Prop :=
  ∃ call effect, ⟨client, call, op, answer, effect⟩ ∈ log

section

variable (world : World)

def Authentic (client : Nat) (channel : Channel) (data : Bytes) (watermark : Watermark) : Prop :=
  ∃ envelope, checkSignedEnvelope world.repository.wire data channel ⟨watermark.repositoryID⟩ =
      .ok envelope ∧
    world.trusts client envelope.reference.keyID
      (referenceSigningMessage (world.repository.wire.payload.marshal envelope.reference))
      envelope.signature ∧
    watermark.point = ⟨envelope.reference.generation, envelope.reference.commit⟩

def Observed (log : Log) (client : Nat) (channel : Channel) (data : Bytes)
    (watermark : Watermark) : Prop :=
  (∃ options version, Did log client (.get (.signedReference channel) options)
    (.ok ⟨data, version⟩)) ∧ Authentic world client channel data watermark

def Shows (log : Log) (intent : PublicationIntent) (data : Bytes) (remote : Watermark) : Prop :=
  match intent.kind with
  | .publish => remote = intent.next ∨
      Descends world.repository.wire log remote intent.next ∨
      Wins world.repository.wire log remote intent.base
  | .resign =>
      (remote = intent.next ∧ (data = intent.reference ∨
        publicationReferenceDigest world.repository.wire data ≠ intent.expectedReference)) ∨
      Descends world.repository.wire log remote intent.next

/-- The evidence for settling an intent at a watermark: an own write of its bytes, or
an authenticated observation. -/
def Settles (log : Log) (client : Nat) (channel : Channel) (intent : PublicationIntent)
    (committed : Watermark) : Prop :=
  (committed = intent.next ∧ ∃ expected version,
    Did log client (.compareAndSwap (.signedReference channel) expected intent.reference)
      (.ok version)) ∨
  ∃ data, Observed world log client channel data committed ∧
    Shows world log intent data committed

/-- The intent is the one that the call set out to record: a staged commit, or a new
signature of a visible reference. -/
def BegunBy (log : Log) (channel : Channel) (intent : PublicationIntent) : PublisherCall → Prop
  | .commit staged => staged.publicationIntent = some intent ∧ staged.channel = channel ∧
      intent.kind = .publish ∧ staged.snapshot.point = intent.next.point
  | .resignReference _ => intent.kind = .resign ∧
      Visible world.repository.wire log channel intent.next
  | _ => False

inductive Move (log : Log) (agent : Nat × PublisherCall) (trust : Trust) (channel : Channel) :
    Option PublicationJournalState → PublicationJournalState → Prop
  | start : Move log agent trust channel none (initialPublicationState trust channel)
  | adopt {state} {candidate : Watermark} (idle : state.pending = none)
      (visible : Visible world.repository.wire log channel candidate)
      (advances : Advances world.repository.wire log state.committed candidate) :
      Move log agent trust channel (some state) { state with committed := some candidate }
  | begin {state} {intent : PublicationIntent} (idle : state.pending = none)
      (begun : BegunBy world log channel intent agent.2) :
      Move log agent trust channel (some state) { state with pending := some intent }
  | refresh {state} {intent : PublicationIntent} {version : Version} {reference : Digest}
      (pending : state.pending = some intent) :
      Move log agent trust channel (some state)
        { state with pending := some { intent with
            expectedVersion := some version, expectedReference := reference } }
  | finalize {state} {intent : PublicationIntent} {committed : Watermark}
      (pending : state.pending = some intent)
      (visible : Visible world.repository.wire log channel committed)
      (advances : Advances world.repository.wire log state.committed committed)
      (settles : Settles world log agent.1 channel intent committed) :
      Move log agent trust channel (some state)
        { state with committed := some committed, pending := none }

def WrittenAhead (log : Log) (client : Nat) (channel : Channel) (data : Bytes) : Prop :=
  ∃ trust, (world.publisher client).trust = some trust ∧
    ∃ record ∈ records log trust.publicationJournal channel,
      ∃ pending, record.1.pending = some pending ∧ pending.reference = data

end

def named (wire : Wire) (data : Bytes) : Kind → Option (List (Kind × Digest))
  | .commit => (decodeJSON wire.commit data).toOption.map fun manifest =>
      (.dir, manifest.root) :: manifest.parent.toList.map fun parent => (.commit, parent)
  | .dir => (decodeJSON wire.dir data).toOption.map fun manifest =>
      manifest.entries.map fun entry => (entry.type.kind, entry.node)
  | .file => (decodeJSON wire.file data).toOption.map fun manifest =>
      manifest.chunks.map fun chunk => (.chunk, chunk.digest)
  | .symlink => (decodeJSON wire.symlink data).toOption.map fun _ => []
  | _ => some []

def ChildrenStored (wire : Wire) (log : Log) (data : Bytes) (kind : Kind) : Prop :=
  ∃ children, named wire data kind = some children ∧
    ∀ child ∈ children, versions log (.object child.1 child.2) ≠ []

def StoresWell (wire : Wire) (log : Log) : Key → Bytes → Prop
  | .object kind digest, data =>
      wire.digestObject kind data = digest ∧ ChildrenStored wire log data kind
  | key, data => ∃ point, pointOf wire key data = some point ∧
      Lineage.Grows (PointParent wire log) (PointRoot wire log) (points wire log key) point

def RecordsWell (world : World) (log : Log) (agent : Nat × PublisherCall) (journal : Nat)
    (channel : Channel) (state : PublicationJournalState) : Prop :=
  ∃ trust, (world.publisher agent.1).trust = some trust ∧ trust.publicationJournal = journal ∧
    state.repositoryID = trust.referenceVerifier.repositoryID ∧ state.channel = channel ∧
    StateValid world.repository.wire state ∧
    Move world log agent trust channel ((records log journal channel).head?.map (·.1)) state

/-- The invariant that every request of every publisher keeps. -/
structure Keeps (world : World) (log : Log) (event : LogEntry) : Prop where
  immutable : ∀ key data, event.op = .putIfAbsent key data →
    ∃ kind digest, key = .object kind digest
  writtenAhead : ∀ channel expected data,
    event.op = .compareAndSwap (.signedReference channel) expected data →
    WrittenAhead world log event.client channel data
  stored : ∀ key object, event.effect = some (.stored key object) →
    StoresWell world.repository.wire log key object.data
  recorded : ∀ journal channel state revision,
    event.effect = some (.recorded journal channel state revision) →
    RecordsWell world log (event.client, event.call) journal channel state

def World.law (world : World) : Law Request Answer PublisherCall Effect :=
  ⟨world.machine.serves, Keeps world⟩

section

variable {wire : Wire} {world : World} {log later : Log}

theorem HasCommit.mono {digest : Digest} {manifest : CommitManifest}
    (held : HasCommit wire log digest manifest) (grown : log <:+ later) :
    HasCommit wire later digest manifest := by
  obtain ⟨object, member, hashed, decoded⟩ := held
  exact ⟨object, mem_versions_mono grown member, hashed, decoded⟩

theorem HasCommit.unique (lawful : wire.Lawful) {digest : Digest}
    {first second : CommitManifest} (left : HasCommit wire log digest first)
    (right : HasCommit wire log digest second) : first = second := by
  obtain ⟨leftObject, _, leftHash, leftDecoded⟩ := left
  obtain ⟨rightObject, _, rightHash, rightDecoded⟩ := right
  have same := (lawful.injective _ _ _ _ (leftHash.trans rightHash.symm)).2
  rw [same, rightDecoded] at leftDecoded
  exact (Except.ok.inj leftDecoded).symm

theorem PointParent.mono (grown : log <:+ later) (child parent : Point)
    (step : PointParent wire log child parent) : PointParent wire later child parent := by
  obtain ⟨manifest, held, generation, named, next⟩ := step
  exact ⟨manifest, held.mono grown, generation, named, next⟩

theorem PointRoot.mono (grown : log <:+ later) (point : Point)
    (first : PointRoot wire log point) : PointRoot wire later point := by
  obtain ⟨manifest, held, generation, orphan, one⟩ := first
  exact ⟨manifest, held.mono grown, generation, orphan, one⟩

theorem pointTree (lawful : wire.Lawful) (log : Log) :
    Lineage.Tree (PointParent wire log) (PointRoot wire log) Point.generation where
  unique child first second left right := by
    obtain ⟨manifest, held, _, named, next⟩ := left
    obtain ⟨manifest', held', _, named', next'⟩ := right
    obtain rfl := held.unique lawful held'
    have commit : first.commit = second.commit := by simpa [named] using named'
    have generation : first.generation = second.generation := by omega
    cases first
    cases second
    simp_all
  rootless value ancestor first step := by
    obtain ⟨manifest, held, _, orphan, _⟩ := first
    obtain ⟨manifest', held', _, named, _⟩ := step
    obtain rfl := held.unique lawful held'
    simp [orphan] at named
  ranked child ancestor step := by
    obtain ⟨_, _, _, _, next⟩ := step
    exact next

theorem reaches_mono (grown : log <:+ later) {descendant ancestor : Point}
    (reaches : ReflTransGen (PointParent wire log) descendant ancestor) :
    ReflTransGen (PointParent wire later) descendant ancestor :=
  ReflTransGen.mono (PointParent.mono grown) _ _ reaches

theorem Descends.mono {descendant ancestor : Watermark}
    (descends : Descends wire log descendant ancestor) (grown : log <:+ later) :
    Descends wire later descendant ancestor := ⟨descends.1, reaches_mono grown descends.2⟩

theorem Bypasses.mono {snapshot other : Point} (bypasses : Bypasses wire log snapshot other)
    (grown : log <:+ later) : Bypasses wire later snapshot other := by
  obtain ⟨passed, reaches, generation, different⟩ := bypasses
  exact ⟨passed, reaches_mono grown reaches, generation, different⟩

theorem mem_points_mono (grown : log <:+ later) {key : Key} {point : Point}
    (member : point ∈ points wire log key) : point ∈ points wire later key :=
  ((versions_mono grown key).filterMap _).subset member

theorem Superseded.mono {key : Key} {snapshot : Point} (superseded : Superseded wire log key snapshot)
    (grown : log <:+ later) : Superseded wire later key snapshot := by
  obtain ⟨visible, member, bypasses⟩ := superseded
  exact ⟨visible, mem_points_mono grown member, bypasses.mono grown⟩

theorem Visible.mem_points {channel : Channel} {watermark : Watermark}
    (visible : Visible wire log channel watermark) :
    watermark.point ∈ points wire log (.signedReference channel) := by
  obtain ⟨object, member, asserted⟩ := visible
  exact List.mem_filterMap.mpr ⟨object, member, by simp [pointOf, asserted]⟩

theorem Visible.mono {channel : Channel} {watermark : Watermark}
    (visible : Visible wire log channel watermark) (grown : log <:+ later) :
    Visible wire later channel watermark := by
  obtain ⟨object, member, asserted⟩ := visible
  exact ⟨object, mem_versions_mono grown member, asserted⟩

theorem Advances.mono {committed : Option Watermark} {next : Watermark}
    (advances : Advances wire log committed next) (grown : log <:+ later) :
    Advances wire later committed next := by
  intro before member
  rcases advances before member with same | descends
  · exact .inl same
  · exact .inr (descends.mono grown)

theorem Wins.mono {winner : Watermark} {base : Option Watermark}
    (wins : Wins wire log winner base) (grown : log <:+ later) : Wins wire later winner base := by
  cases base with
  | some base => exact Descends.mono wins grown
  | none =>
      obtain ⟨first, rooted, reaches⟩ := wins
      exact ⟨first, rooted.mono grown, reaches_mono grown reaches⟩

theorem Did.mono {client : Nat} {op : Request} {answer : Answer op}
    (did : Did log client op answer) (grown : log <:+ later) : Did later client op answer := by
  obtain ⟨call, effect, member⟩ := did
  exact ⟨call, effect, grown.subset member⟩

theorem WrittenAhead.mono {client : Nat} {channel : Channel} {data : Bytes}
    (ahead : WrittenAhead world log client channel data) (grown : log <:+ later) :
    WrittenAhead world later client channel data := by
  obtain ⟨trust, configured, record, member, pending, found, same⟩ := ahead
  exact ⟨trust, configured, record, mem_records_mono grown member, pending, found, same⟩

theorem Observed.mono {client : Nat} {channel : Channel} {data : Bytes} {watermark : Watermark}
    (observed : Observed world log client channel data watermark) (grown : log <:+ later) :
    Observed world later client channel data watermark := by
  obtain ⟨⟨options, version, did⟩, authentic⟩ := observed
  exact ⟨⟨options, version, did.mono grown⟩, authentic⟩

theorem Shows.mono {intent : PublicationIntent} {data : Bytes} {remote : Watermark}
    (shows : Shows world log intent data remote) (grown : log <:+ later) :
    Shows world later intent data remote := by
  unfold Shows at shows ⊢
  split at shows
  · rcases shows with same | descends | wins
    · exact .inl same
    · exact .inr (.inl (descends.mono grown))
    · exact .inr (.inr (wins.mono grown))
  · rcases shows with same | descends
    · exact .inl same
    · exact .inr (descends.mono grown)

theorem Settles.mono {client : Nat} {channel : Channel} {intent : PublicationIntent}
    {committed : Watermark} (settles : Settles world log client channel intent committed)
    (grown : log <:+ later) : Settles world later client channel intent committed := by
  rcases settles with ⟨same, expected, version, did⟩ | ⟨data, observed, shown⟩
  · exact .inl ⟨same, expected, version, did.mono grown⟩
  · exact .inr ⟨data, observed.mono grown, shown.mono grown⟩

theorem BegunBy.mono {channel : Channel} {intent : PublicationIntent} {call : PublisherCall}
    (begun : BegunBy world log channel intent call) (grown : log <:+ later) :
    BegunBy world later channel intent call := by
  cases call with
  | commit staged => exact begun
  | resignReference target => exact ⟨begun.1, begun.2.mono grown⟩
  | _ => exact begun

theorem Move.mono {agent : Nat × PublisherCall} {trust : Trust} {channel : Channel}
    {before : Option PublicationJournalState} {after : PublicationJournalState}
    (move : Move world log agent trust channel before after) (grown : log <:+ later) :
    Move world later agent trust channel before after := by
  cases move with
  | start => exact .start
  | adopt idle visible advances => exact .adopt idle (visible.mono grown) (advances.mono grown)
  | begin idle begun => exact .begin idle (begun.mono grown)
  | refresh pending => exact .refresh pending
  | finalize pending visible advances settles =>
      exact .finalize pending (visible.mono grown) (advances.mono grown) (settles.mono grown)

end

end S3Disk
