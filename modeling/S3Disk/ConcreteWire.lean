import S3Disk.Library.Codec
import S3Disk.Model

/-! One way to hash and to encode that meets every assumption about hashing and JSON:
a digest is the hashed bytes behind the number of their domain, and an encoding is a
self-delimiting record. -/

namespace S3Disk

open Codec

def Kind.number : Kind → UInt8
  | .chunk => 1
  | .dir => 2
  | .file => 3
  | .symlink => 4
  | .commit => 5
  | .publicationIntent => 6
  | .publicationReference => 7
  | .publicationJournal => 8

def EntryType.number : EntryType → Nat
  | .file => 0
  | .directory => 1
  | .symlink => 2

def EntryType.ofNumber : Nat → EntryType
  | 0 => .file
  | 1 => .directory
  | _ => .symlink

def PublicationIntentKind.isResign : PublicationIntentKind → Bool
  | .publish => false
  | .resign => true

namespace ConcreteWire

def digest : Codec Digest := via bytes Digest.bytes Digest.mk fun _ => rfl

def repositoryID : Codec RepositoryID := via bytes RepositoryID.bytes RepositoryID.mk fun _ => rfl

def chunkRef : Codec ChunkRef :=
  via (pair int (pair int digest)) (fun chunk => (chunk.offset, chunk.size, chunk.digest))
    (fun (offset, size, digest) => ⟨offset, size, digest⟩) fun _ => rfl

def fileManifest : Codec FileManifest :=
  via (pair int (pair string (pair int (pair int (pair int (pair nat (pair int (list chunkRef))))))))
    (fun manifest => (manifest.format, manifest.algorithm, manifest.minSize, manifest.avgSize,
      manifest.maxSize, manifest.polynomial, manifest.size, manifest.chunks))
    (fun (format, algorithm, minSize, avgSize, maxSize, polynomial, size, chunks) =>
      ⟨format, algorithm, minSize, avgSize, maxSize, polynomial, size, chunks⟩) fun _ => rfl

def symlinkManifest : Codec SymlinkManifest :=
  via (pair int bytes) (fun manifest => (manifest.format, manifest.target))
    (fun (format, target) => ⟨format, target⟩) fun _ => rfl

def entryType : Codec EntryType :=
  via nat EntryType.number EntryType.ofNumber fun type => by cases type <;> rfl

def dirEntry : Codec DirEntry :=
  via (pair bytes (pair entryType (pair digest (pair nat (pair int int)))))
    (fun entry => (entry.name, entry.type, entry.node, entry.mode, entry.size, entry.modTimeUnixNano))
    (fun (name, type, node, mode, size, modTime) => ⟨name, type, node, mode, size, modTime⟩)
    fun _ => rfl

def dirManifest : Codec DirManifest :=
  via (pair int (list dirEntry)) (fun manifest => (manifest.format, manifest.entries))
    (fun (format, entries) => ⟨format, entries⟩) fun _ => rfl

def commitManifest : Codec CommitManifest :=
  via (pair int (pair nat (pair (option digest) (pair digest (pair int bool)))))
    (fun manifest => (manifest.format, manifest.generation, manifest.parent, manifest.root,
      manifest.publishedAtUnix, manifest.resetChanges))
    (fun (format, generation, parent, root, publishedAt, resetChanges) =>
      ⟨format, generation, parent, root, publishedAt, resetChanges⟩) fun _ => rfl

def snapshotReference : Codec SnapshotReference :=
  via (pair int (pair nat digest))
    (fun reference => (reference.format, reference.generation, reference.commit))
    (fun (format, generation, commit) => ⟨format, generation, commit⟩) fun _ => rfl

def watermark : Codec Watermark :=
  via (pair repositoryID (pair nat digest))
    (fun watermark => (watermark.repositoryID, watermark.generation, watermark.commit))
    (fun (repositoryID, generation, commit) => ⟨repositoryID, generation, commit⟩) fun _ => rfl

def signedPayload : Codec SignedReferencePayload :=
  via (pair int (pair repositoryID (pair bytes (pair nat (pair digest bytes)))))
    (fun payload => (payload.format, payload.repositoryID, payload.channel, payload.generation,
      payload.commit, payload.keyID))
    (fun (format, repositoryID, channel, generation, commit, keyID) =>
      ⟨format, repositoryID, channel, generation, commit, keyID⟩) fun _ => rfl

def signedEnvelope : Codec SignedReferenceEnvelope :=
  via (pair int (pair signedPayload bytes))
    (fun envelope => (envelope.format, envelope.reference, envelope.signature))
    (fun (format, reference, signature) => ⟨format, reference, signature⟩) fun _ => rfl

def intentKind : Codec PublicationIntentKind :=
  via bool PublicationIntentKind.isResign (fun isResign => if isResign then .resign else .publish)
    fun kind => by cases kind <;> rfl

def intentIdentity : Codec PublicationIntentIdentity :=
  via (pair int (pair repositoryID (pair bytes (pair intentKind (pair (option watermark)
      (pair watermark bytes))))))
    (fun identity => (identity.format, identity.repositoryID, identity.channel, identity.kind,
      identity.base, identity.next, identity.reference))
    (fun (format, repositoryID, channel, kind, base, next, reference) =>
      ⟨format, repositoryID, channel, kind, base, next, reference⟩) fun _ => rfl

def json {α : Type} (codec : Codec α) : JSON α where
  marshal value := 123 :: codec.encode value
  unmarshal
    | 123 :: input => match codec.decode input with
        | some (value, []) => .ok value
        | _ => .error (.plain ["invalid input"])
    | _ => .error (.plain ["invalid input"])

theorem json_roundTrips {α : Type} (codec : Codec α) : (json codec).RoundTrips := by
  intro value
  have decoded := codec.roundTrip value []
  rw [List.append_nil] at decoded
  simp [json, decoded]

end ConcreteWire

def concreteWire : Wire where
  digestObject kind data := ⟨kind.number :: data⟩
  irreducible _ := true
  commit := ConcreteWire.json ConcreteWire.commitManifest
  dir := ConcreteWire.json ConcreteWire.dirManifest
  file := ConcreteWire.json ConcreteWire.fileManifest
  symlink := ConcreteWire.json ConcreteWire.symlinkManifest
  reference := ConcreteWire.json ConcreteWire.snapshotReference
  envelope := ConcreteWire.json ConcreteWire.signedEnvelope
  payload := ConcreteWire.json ConcreteWire.signedPayload
  intentIdentity := ConcreteWire.json ConcreteWire.intentIdentity

theorem Kind.number_injective {kind kind' : Kind} (same : kind.number = kind'.number) :
    kind = kind' := by
  revert same
  cases kind <;> cases kind' <;> decide

theorem concreteWire_lawful : concreteWire.Lawful where
  injective kind kind' data data' same := by
    simp only [concreteWire, Digest.mk.injEq, List.cons.injEq] at same
    exact ⟨Kind.number_injective same.1, same.2⟩
  nonzero kind data := by
    cases kind <;> simp [concreteWire, Digest.isZero, Digest.zero, Kind.number, List.replicate_succ]
  commit := ConcreteWire.json_roundTrips _
  dir := ConcreteWire.json_roundTrips _
  file := ConcreteWire.json_roundTrips _
  symlink := ConcreteWire.json_roundTrips _
  reference := ConcreteWire.json_roundTrips _
  envelope value _ _ := ConcreteWire.json_roundTrips _ value
  envelopeNonempty _ := List.cons_ne_nil _ _
  intentIdentity left right _ same := by
    have reads := ConcreteWire.json_roundTrips ConcreteWire.intentIdentity
    have equal := (reads left).symm.trans ((congrArg _ same).trans (reads right))
    exact Except.ok.inj equal

def freshBytes (used : List Bytes) : Bytes :=
  List.replicate ((used.map List.length).foldr max 0 + 1) 1

theorem length_lt_freshBytes {used : List Bytes} {bytes : Bytes} (member : bytes ∈ used) :
    bytes.length < (freshBytes used).length := by
  have bound : bytes.length ≤ (used.map List.length).foldr max 0 := by
    induction used with
    | nil => simp at member
    | cons first rest ih =>
        simp only [List.map_cons, List.foldr_cons]
        rcases List.mem_cons.mp member with rfl | later
        · exact Nat.le_max_left _ _
        · exact Nat.le_trans (ih later) (Nat.le_max_right _ _)
  simp only [freshBytes, List.length_replicate]
  omega

end S3Disk
