import Mathlib.Data.List.Sort
import S3Disk.Manifests

/-! The exact set of object keys that one reference needs: the commits down to the
first generation and everything below the current root directory, found by a traversal
with a stack of work and three budgets. -/

namespace S3Disk

open Concurrent

structure ClientEncryptionProfile where
  opaqueObjectID : Kind → Digest → Bytes
  snapshotClosureBinding : Digest

/-- A repository with its storage profile and the hash that seals a closure. -/
structure SnapshotRepository extends Repository where
  clientEncryption : Option ClientEncryptionProfile
  sha256 : Bytes → Digest

namespace SnapshotRepository

variable (repository : SnapshotRepository)

def key (relative : Bytes) : Bytes :=
  (if repository.keyPrefix = [] then ascii ".s3disk/v1"
    else repository.keyPrefix ++ ascii "/" ++ ascii ".s3disk/v1") ++ ascii "/" ++ relative

def referenceKeyText (channel : Channel) : Bytes :=
  repository.key (ascii "refs/" ++ base64RawURL channel)

def signedReferenceKeyText (channel : Channel) : Bytes :=
  repository.key (ascii "signed-refs/v1/" ++ base64RawURL channel)

def objectKeyText (kind : Kind) (digest : Digest) : Bytes :=
  match repository.clientEncryption with
  | some profile =>
      let value := profile.opaqueObjectID kind digest
      repository.key (ascii "objects/" ++ ascii kind.text ++ ascii "/hmac-sha256/" ++
        value.take 2 ++ ascii "/" ++ value)
  | none =>
      let value := hexEncode digest.bytes
      repository.key (ascii "objects/" ++ ascii kind.text ++ ascii "/sha256/" ++
        value.take 2 ++ ascii "/" ++ value)

end SnapshotRepository

def defaultMaxSnapshotClosureObjects : Int := 100000
def maxSnapshotClosureObjectsLimit : Int := 1000000
def defaultMaxSnapshotClosureEdges : Int := 1000000
def maxSnapshotClosureEdgesLimit : Int := 100000000
def defaultMaxSnapshotClosureMetadataBytes : Int := 512 * 1024 * 1024
def maxSnapshotClosureMetadataBytesLimit : Int := 64 * 1024 * 1024 * 1024

structure SnapshotClosureOptions where
  referenceVerifier : Option ReferenceVerifier
  maxObjects : Int
  maxEdges : Int
  maxMetadataBytes : Int
  deriving DecidableEq, Repr

structure ClosureLimits where
  maximumObjects : Nat
  maximumEdges : Nat
  maximumMetadataBytes : Nat
  deriving DecidableEq, Repr

def closureBudget (name : String) (value default limit : Int) : Except Err Nat := do
  let maximum := if value = 0 then default else value
  failIf (maximum < 1 ∨ maximum > limit)
    (Sentinel.resourceLimit.tagged
      ["snapshot closure max ", name, " must be between 1 and ", .number limit])
  return maximum.toNat

def SnapshotClosureOptions.limits (options : SnapshotClosureOptions) :
    Except Err ClosureLimits := do
  let maximumObjects ← closureBudget "objects" options.maxObjects
    defaultMaxSnapshotClosureObjects maxSnapshotClosureObjectsLimit
  let maximumEdges ← closureBudget "edges" options.maxEdges
    defaultMaxSnapshotClosureEdges maxSnapshotClosureEdgesLimit
  let maximumMetadataBytes ← closureBudget "metadata bytes" options.maxMetadataBytes
    defaultMaxSnapshotClosureMetadataBytes maxSnapshotClosureMetadataBytesLimit
  return ⟨maximumObjects, maximumEdges, maximumMetadataBytes⟩

structure SnapshotClosure where
  snapshot : Snapshot
  referenceKey : Bytes
  referenceData : Bytes
  referenceVersion : Version
  objectKeys : List Bytes
  resolutionSeal : Digest
  clientEncryptionConfigured : Bool
  clientEncryptionBinding : Digest
  deriving DecidableEq, Repr

def sealedBytes (value : Bytes) : Bytes := bigEndian64 value.length ++ value

def snapshotClosureResolutionMessage (closure : SnapshotClosure) : Bytes :=
  ascii "s3disk\x00resolved-snapshot-closure\x00v1\x00" ++
    bigEndian64 closure.snapshot.generation ++ closure.snapshot.commit.bytes ++
    closure.snapshot.root.bytes ++ bigEndian64 (closure.snapshot.publishedAt % 0x10000000000000000).toNat ++
    sealedBytes closure.referenceKey ++ sealedBytes closure.referenceData ++
    sealedBytes closure.referenceVersion.eTag ++ sealedBytes closure.referenceVersion.versionID ++
    bigEndian64 closure.objectKeys.length ++ closure.objectKeys.flatMap sealedBytes ++
    [if closure.clientEncryptionConfigured then 1 else 0] ++ closure.clientEncryptionBinding.bytes

def SnapshotClosure.validateResolved (sha256 : Bytes → Digest) (closure : SnapshotClosure) :
    Except Err Unit :=
  failIf (closure.resolutionSeal.isZero ∨
    closure.resolutionSeal ≠ sha256 (snapshotClosureResolutionMessage closure))
    Sentinel.invalidSnapshotClosure.error

structure ClosureNode where
  kind : Kind
  digest : Digest
  deriving DecidableEq, Repr

structure ClosureWork where
  node : ClosureNode
  depth : Nat
  deriving DecidableEq, Repr

/-- What the traversal remembers. The source keeps the set of the keys beside their
list; the top of the stack of work is its first element here. -/
structure ClosureWalker where
  edges : Nat
  metadataBytes : Nat
  keys : List Bytes
  scheduled : List ClosureNode
  work : List ClosureWork
  fileSizes : Digest → Option Int
  linkSizes : Digest → Option Int

def ClosureWalker.empty : ClosureWalker where
  edges := 0
  metadataBytes := 0
  keys := []
  scheduled := []
  work := []
  fileSizes _ := none
  linkSizes _ := none

abbrev Closing := Act ClosureWalker

def labelled {α : Type} (label : List Fragment) (action : Closing α) : Closing α := do
  match ← action.attempt with
  | .error error => throw (error.within label)
  | .ok value => return value

section

variable (repository : SnapshotRepository) (limits : ClosureLimits)

namespace ClosureWalker

def addKey (kind : Kind) (digest : Digest) : Closing Unit := do
  let walker ← get
  let key := repository.objectKeyText kind digest
  if walker.keys.contains key then return ()
  else
    failIf (walker.keys.length ≥ limits.maximumObjects)
      (Sentinel.resourceLimit.tagged
        ["snapshot closure exceeds ", .number limits.maximumObjects, " exact object keys"])
    modify fun walker => { walker with keys := walker.keys ++ [key] }

def addEdge : Closing Unit := do
  contextErr
  let walker ← get
  failIf (walker.edges ≥ limits.maximumEdges)
    (Sentinel.resourceLimit.tagged
      ["snapshot closure exceeds ", .number limits.maximumEdges, " manifest edges"])
  modify fun walker => { walker with edges := walker.edges + 1 }

def getManifest {α : Type} (kind : Kind) (json : JSON α) (digest : Digest) : Closing α := do
  contextErr
  let walker ← get
  let remaining := limits.maximumMetadataBytes - walker.metadataBytes
  failIf (remaining < 1)
    (Sentinel.resourceLimit.tagged
      ["snapshot closure exceeds ", .number limits.maximumMetadataBytes, " metadata bytes"])
  let data ← repository.getImmutableLimited kind digest (min remaining maxMetadataObjectBytes)
  modify fun walker => { walker with metadataBytes := walker.metadataBytes + data.length }
  Action.ofExcept (decodeJSON json data)

def recordSize (node : ClosureNode) (expectedSize : Int) : Closing Unit := do
  let walker ← get
  match node.kind with
  | .file =>
      failIf (∃ known ∈ walker.fileSizes node.digest, known ≠ expectedSize)
        (Sentinel.corruptObject.tagged ["one file manifest is referenced with conflicting sizes"])
      modify fun walker => { walker with
        fileSizes := Function.update walker.fileSizes node.digest (some expectedSize) }
  | .symlink =>
      failIf (∃ known ∈ walker.linkSizes node.digest, known ≠ expectedSize)
        (Sentinel.corruptObject.tagged
          ["one symlink manifest is referenced with conflicting sizes"])
      modify fun walker => { walker with
        linkSizes := Function.update walker.linkSizes node.digest (some expectedSize) }
  | _ => return ()

def schedule (node : ClosureNode) (expectedSize : Int) (depth : Nat) : Closing Unit := do
  failIf (depth > maxLookupDepth)
    (Sentinel.resourceLimit.tagged
      ["snapshot closure exceeds ", .number maxLookupDepth, " directory levels"])
  recordSize node expectedSize
  let walker ← get
  if node ∈ walker.scheduled then return ()
  else
    addKey repository limits node.kind node.digest
    modify fun walker => { walker with
      scheduled := node :: walker.scheduled, work := ⟨node, depth⟩ :: walker.work }

def visitEntries (depth : Nat) : List DirEntry → Closing Unit
  | [] => return ()
  | entry :: rest => do
      addEdge limits
      schedule repository limits ⟨entry.type.kind, entry.node⟩
        (if entry.type = .directory then -1 else entry.size) depth
      visitEntries depth rest

def visitChunks : List ChunkRef → Closing Unit
  | [] => return ()
  | chunk :: rest => do
      addEdge limits
      addKey repository limits .chunk chunk.digest
      visitChunks rest

def visit (item : ClosureWork) : Closing Unit := do
  match item.node.kind with
  | .dir =>
      let manifest ← labelled ["resolve snapshot closure directory"]
        (getManifest repository limits .dir repository.wire.dir item.node.digest)
      Action.ofExcept (validateDirectoryManifest manifest)
      visitEntries repository limits (item.depth + 1) manifest.entries
  | .file =>
      let manifest ← labelled ["resolve snapshot closure file"]
        (getManifest repository limits .file repository.wire.file item.node.digest)
      Action.ofExcept (validateFileManifest repository.wire manifest)
      let walker ← get
      failIf ((walker.fileSizes item.node.digest).getD 0 ≠ manifest.size)
        (Sentinel.corruptObject.tagged ["directory/file size mismatch"])
      visitChunks repository limits manifest.chunks
  | .symlink =>
      let manifest ← labelled ["resolve snapshot closure symlink"]
        (getManifest repository limits .symlink repository.wire.symlink item.node.digest)
      Action.ofExcept (validateSymlinkManifest manifest)
      let walker ← get
      failIf ((walker.linkSizes item.node.digest).getD 0 ≠ manifest.target.length)
        (Sentinel.corruptObject.tagged ["directory/symlink size mismatch"])
  | _ => throw (Sentinel.corruptObject.tagged ["unsupported snapshot closure object kind"])

/-- The loop over the stack of work. A run out of fuel is an endless loop. -/
def walk : Nat → Closing Unit
  | 0 => liftM (halt : Proc Unit)
  | fuel + 1 => do
      let walker ← get
      match walker.work with
      | [] => return ()
      | item :: rest =>
          contextErr
          modify fun walker => { walker with work := rest }
          visit repository limits item
          walk fuel

def addAncestry (digest : Digest) (commit : CommitManifest) : Nat → Closing Unit
  | 0 => addKey repository limits .commit digest
  | older + 1 => do
      addKey repository limits .commit digest
      contextErr
      match commit.parent.filter (·.isZero = false) with
      | none => throw (Sentinel.splitBrain.tagged ["commit ancestry ends before generation one"])
      | some parent =>
          let label : List Fragment :=
            ["resolve snapshot closure ancestry at generation ", .number (older + 1)]
          let ancestor ← labelled label
            (getManifest repository limits .commit repository.wire.commit parent)
          Action.ofExcept
            ((validateCommitManifest ancestor (older + 1)).mapError (·.within label))
          addAncestry parent ancestor older

end ClosureWalker

def sortStrings (keys : List Bytes) : List Bytes := keys.insertionSort (· ≤ ·)

def sealClosure (channel : Channel) (verifier : Option ReferenceVerifier)
    (reference : SnapshotReference) (object : Object) (commit : CommitManifest)
    (keys : List Bytes) : SnapshotClosure :=
  let closure : SnapshotClosure :=
    { snapshot := ⟨reference.generation, reference.commit, commit.root, commit.publishedAtUnix⟩
      referenceKey := if verifier.isSome then repository.signedReferenceKeyText channel
        else repository.referenceKeyText channel
      referenceData := object.data
      referenceVersion := object.version
      objectKeys := sortStrings keys
      resolutionSeal := .zero
      clientEncryptionConfigured := repository.clientEncryption.isSome
      clientEncryptionBinding :=
        (repository.clientEncryption.map (·.snapshotClosureBinding)).getD .zero }
  { closure with
    resolutionSeal := repository.sha256 (snapshotClosureResolutionMessage closure) }

def collectClosure (reference : SnapshotReference) : Closing CommitManifest := do
  let currentCommit ← labelled ["resolve snapshot closure commit"]
    (ClosureWalker.getManifest repository limits .commit repository.wire.commit reference.commit)
  Action.ofExcept ((validateCommitManifest currentCommit reference.generation).mapError
    (·.within ["resolve snapshot closure commit/reference mismatch"]))
  ClosureWalker.addAncestry repository limits reference.commit currentCommit
    (reference.generation - 1)
  ClosureWalker.schedule repository limits ⟨.dir, currentCommit.root⟩ (-1) 0
  ClosureWalker.walk repository limits (limits.maximumEdges + 2)
  return currentCommit

end

def resolveSnapshotClosure (repository : SnapshotRepository) (channel : Channel)
    (options : SnapshotClosureOptions) : Closing SnapshotClosure := do
  Action.ofExcept (repository.validateChannel channel)
  let limits ← Action.ofExcept options.limits
  let (reference, object) ← labelled ["resolve snapshot closure reference"]
    (repository.getReferenceWithVerifier channel [] options.referenceVerifier)
  failIf (reference.generation > limits.maximumObjects)
    (Sentinel.resourceLimit.tagged
      [.number reference.generation, " commit objects alone exceed the ",
        .number limits.maximumObjects, "-object snapshot closure bound"])
  let currentCommit ← collectClosure repository limits reference
  let walker ← get
  return sealClosure repository channel options.referenceVerifier reference object currentCommit
    walker.keys

end S3Disk
