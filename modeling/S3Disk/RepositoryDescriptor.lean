import S3Disk.ClientEncryption
import S3Disk.JsonShapes
import S3Disk.SourceTree

/-! The descriptor of a repository: a record that is written once under a fixed key and
names the identity, the storage profile and the chunking of everything below a prefix. -/

namespace S3Disk

open Concurrent
open ClientEncryption (Derivation Profile)
open Json (Value)

def repositoryDescriptorFormat : Int := 1
def maximumRepositoryDescriptorBytes : Nat := 16 * 1024
def repositoryChunkingAlgorithm : Bytes := ascii "rabin-v1"

inductive RepositoryStorageProfile where
  | plaintextV1
  | strictShareIsolationV1
  | unknown (text : Bytes)
  deriving DecidableEq, Repr

namespace RepositoryStorageProfile

def text : RepositoryStorageProfile → Bytes
  | plaintextV1 => ascii "plaintext-v1"
  | strictShareIsolationV1 => ascii "strict-share-isolation-v1"
  | unknown text => text

def ofText (text : Bytes) : RepositoryStorageProfile :=
  if text = ascii "plaintext-v1" then plaintextV1
  else if text = ascii "strict-share-isolation-v1" then strictShareIsolationV1
  else unknown text

end RepositoryStorageProfile

structure RepositoryConfig where
  repositoryID : RepositoryID
  clientEncryption : Option Profile
  chunking : ChunkingOptions
  deriving DecidableEq, Repr

structure RepositoryChunkingDescriptor where
  algorithm : Bytes
  minSize : Int
  averageSize : Int
  maxSize : Int
  polynomial : Nat
  deriving DecidableEq, Repr

structure RepositoryDescriptor where
  format : Int
  repositoryID : RepositoryID
  repositoryPrefix : Bytes
  storageProfile : RepositoryStorageProfile
  chunking : RepositoryChunkingDescriptor
  deriving DecidableEq, Repr

namespace RepositoryDescriptor

def chunkingOptions (descriptor : RepositoryDescriptor) : ChunkingOptions where
  minSize := descriptor.chunking.minSize
  averageSize := descriptor.chunking.averageSize
  maxSize := descriptor.chunking.maxSize
  polynomial := descriptor.chunking.polynomial

def chunkingFields (chunking : RepositoryChunkingDescriptor) : List (Json.Text × Value) :=
  [(ascii "algorithm", .string chunking.algorithm), (ascii "minimum_size", .number chunking.minSize),
    (ascii "average_size", .number chunking.averageSize),
    (ascii "maximum_size", .number chunking.maxSize),
    (ascii "polynomial", natValue chunking.polynomial)]

def readChunking : Value → Option RepositoryChunkingDescriptor
  | .object fields => do
      let algorithm ← readText (fieldOf "algorithm" fields)
      let minSize ← readInt (fieldOf "minimum_size" fields)
      let averageSize ← readInt (fieldOf "average_size" fields)
      let maxSize ← readInt (fieldOf "maximum_size" fields)
      let polynomial ← readUint64 (fieldOf "polynomial" fields)
      return ⟨algorithm, minSize, averageSize, maxSize, polynomial⟩
  | _ => none

def fields (descriptor : RepositoryDescriptor) : List (Json.Text × Value) :=
  [(ascii "format", .number descriptor.format),
    (ascii "repository_id", repositoryIDValue descriptor.repositoryID),
    (ascii "repository_prefix", .string descriptor.repositoryPrefix),
    (ascii "storage_profile", .string descriptor.storageProfile.text),
    (ascii "chunking", .object (chunkingFields descriptor.chunking))]

def shape : Shape RepositoryDescriptor where
  toValue descriptor := .object descriptor.fields
  ofValue
    | .object fields => do
        let format ← readInt (fieldOf "format" fields)
        let repositoryID ← readRepositoryID (fieldOf "repository_id" fields)
        let repositoryPrefix ← readText (fieldOf "repository_prefix" fields)
        let storageProfile ← readText (fieldOf "storage_profile" fields)
        let chunking ← readStruct ⟨[], 0, 0, 0, 0⟩ readChunking (fieldOf "chunking" fields)
        return ⟨format, repositoryID, repositoryPrefix, .ofText storageProfile, chunking⟩
    | _ => none

def encode (descriptor : RepositoryDescriptor) : Bytes := shape.json.marshal descriptor

end RepositoryDescriptor

def protocolKey (keyPrefix relative : Bytes) : Bytes :=
  (if keyPrefix = [] then ascii ".s3disk/v1" else keyPrefix ++ ascii "/" ++ ascii ".s3disk/v1") ++
    ascii "/" ++ relative

def descriptorKey (keyPrefix : Bytes) : Bytes := protocolKey keyPrefix (ascii "repository")

def immutableKey (derivation : Derivation) (keyPrefix : Bytes) (profile : Option Profile)
    (kind : Kind) (digest : Digest) : Bytes :=
  match profile with
  | some profile =>
      let value := profile.opaqueObjectID derivation kind digest
      protocolKey keyPrefix (ascii "objects/" ++ ascii kind.text ++ ascii "/hmac-sha256/" ++
        value.take 2 ++ ascii "/" ++ value)
  | none =>
      let value := hexEncode digest.bytes
      protocolKey keyPrefix (ascii "objects/" ++ ascii kind.text ++ ascii "/sha256/" ++
        value.take 2 ++ ascii "/" ++ value)

inductive StoreHandle where
  | raw
  | encrypted (profile : Profile)
  deriving DecidableEq, Repr

/-- A repository: its prefix and the encryption that its reads and writes go through, the
outermost first. -/
structure OpenedRepository where
  keyPrefix : Bytes
  layers : List Profile
  deriving DecidableEq, Repr

section

variable (derivation : Derivation) (wire : Wire)

def newRepository (layers : List Profile) (keyPrefix : Bytes) (profile : Option Profile) :
    Except Err OpenedRepository := do
  let trimmed := trimSlashes keyPrefix
  failIf (validUTF8 trimmed = false ∨ trimmed.contains 0)
    (Sentinel.invalidPath.tagged ["invalid repository prefix"])
  failIf (profile.isSome ∧ trimmed = [])
    (Sentinel.invalidPath.tagged
      ["client-encrypted repositories require a dedicated non-empty prefix"])
  failIf (profile.any (·.configured = false))
    (Err.plain ["s3disk: client encryption profile is not configured"])
  failIf ((immutableKey derivation trimmed profile .symlink .zero).length > maxObjectKeyBytes)
    (Sentinel.invalidPath.tagged ["repository prefix leaves no room for protocol object keys"])
  return ⟨trimmed, layers⟩

def needsOptions (noun : String) : Err :=
  Sentinel.storeMisconfigured.wraps (Sentinel.repositoryConfigurationMismatch.tagged
    [.text noun, " requires matching repository client-encryption options"])

def writableLayers (handle : StoreHandle) (profile : Option Profile) :
    Except Err (List Profile) :=
  match handle, profile with
  | .raw, none => .ok []
  | .encrypted _, none => .error (needsOptions "an encrypted store")
  | .raw, some profile =>
      if profile.configured then .ok [profile]
      else .error (.plain ["s3disk: client encryption profile is not configured"])
  | .encrypted existing, some profile =>
      if existing.equivalent profile then .ok [existing]
      else .error (Sentinel.storeMisconfigured.tagged
        ["store already applies a different client encryption profile"])

def readOnlyLayers (handle : StoreHandle) (profile : Option Profile) :
    Except Err (List Profile) :=
  match handle, profile with
  | .raw, none => .ok []
  | .encrypted _, none => .error (needsOptions "an encrypted object reader")
  | .raw, some profile =>
      if profile.configured then .ok [profile]
      else .error (.plain ["s3disk: client encryption profile is not configured"])
  | .encrypted existing, some profile =>
      if existing.equivalent profile then .ok [existing]
      else if profile.configured then .ok [profile, existing]
      else .error (.plain ["s3disk: client encryption profile is not configured"])

def descriptorConfiguration (keyPrefix : Bytes) (config : RepositoryConfig) :
    Except Err RepositoryDescriptor := do
  failIf config.repositoryID.isZero
    (Sentinel.repositoryConfigurationMismatch.tagged ["repository ID must not be zero"])
  let chunking ← config.chunking.normalized wire
  failIf (config.clientEncryption.any fun profile =>
      profile.configured = false ∨ profile.repositoryID ≠ config.repositoryID)
    (Sentinel.repositoryConfigurationMismatch.tagged
      ["client encryption and repository identities differ"])
  return {
    format := repositoryDescriptorFormat
    repositoryID := config.repositoryID
    repositoryPrefix := trimSlashes keyPrefix
    storageProfile :=
      if config.clientEncryption.isSome then .strictShareIsolationV1 else .plaintextV1
    chunking := {
      algorithm := repositoryChunkingAlgorithm
      minSize := chunking.minSize
      averageSize := chunking.averageSize
      maxSize := chunking.maxSize
      polynomial := chunking.polynomial } }

def configuredRepository (layers : Except Err (List Profile)) (keyPrefix : Bytes)
    (config : RepositoryConfig) : Except Err (OpenedRepository × RepositoryDescriptor) := do
  let expected ← descriptorConfiguration wire keyPrefix config
  let layers ← layers
  let repository ← newRepository derivation layers keyPrefix config.clientEncryption
  return (repository, { expected with repositoryPrefix := repository.keyPrefix })

def configuredWritableRepository (handle : StoreHandle) (keyPrefix : Bytes)
    (config : RepositoryConfig) : Except Err (OpenedRepository × RepositoryDescriptor) :=
  configuredRepository derivation wire (writableLayers handle config.clientEncryption) keyPrefix
    config

def configuredReadOnlyRepository (handle : StoreHandle) (keyPrefix : Bytes)
    (config : RepositoryConfig) : Except Err (OpenedRepository × RepositoryDescriptor) :=
  configuredRepository derivation wire (readOnlyLayers handle config.clientEncryption) keyPrefix
    config

def validateStorageProfile (descriptor : RepositoryDescriptor) : Except Err Unit :=
  match descriptor.storageProfile with
  | .plaintextV1 => .ok ()
  | .strictShareIsolationV1 => do
      failIf (descriptor.repositoryPrefix = [])
        (Sentinel.corruptObject.tagged ["encrypted descriptor requires a prefix"])
  | .unknown _ => .error (Sentinel.corruptObject.tagged ["unknown repository storage profile"])

def validateRepositoryDescriptor (descriptor : RepositoryDescriptor) : Except Err Unit := do
  failIf (descriptor.format ≠ repositoryDescriptorFormat ∨ descriptor.repositoryID.isZero)
    (Sentinel.corruptObject.tagged ["invalid repository descriptor identity"])
  failIf (descriptor.repositoryPrefix ≠ trimSlashes descriptor.repositoryPrefix ∨
      validUTF8 descriptor.repositoryPrefix = false ∨ descriptor.repositoryPrefix.contains 0)
    (Sentinel.corruptObject.tagged ["invalid repository descriptor prefix"])
  validateStorageProfile descriptor
  failIf (descriptor.chunking.algorithm ≠ repositoryChunkingAlgorithm)
    (Sentinel.corruptObject.tagged ["unknown repository chunking algorithm"])
  failIf (descriptor.chunkingOptions.normalized wire ≠ .ok descriptor.chunkingOptions)
    (Sentinel.corruptObject.tagged ["invalid repository chunking profile"])

def layeredGet : List Profile → Bytes → GetOptions → Encrypting Object
  | [] => Encrypting.storeGet
  | profile :: rest => profile.readerGet derivation (layeredGet rest)

def layeredPutIfAbsent : List Profile → Bytes → Bytes → Encrypting Version
  | [], key, data => Encrypting.storePutIfAbsent key data
  | profile :: _, key, data =>
      profile.sealedWrite derivation key data (Encrypting.storePutIfAbsent key)

namespace OpenedRepository

variable (repository : OpenedRepository)

def decodeDescriptor (object : Object) : Except Err RepositoryDescriptor := do
  validateStoreVersion ["GET repository descriptor"] object.version
  failIf (object.data = [] ∨ object.data.length > maximumRepositoryDescriptorBytes)
    (Sentinel.corruptObject.tagged ["repository descriptor exceeds its byte limit"])
  let descriptor ← (decodeJSON RepositoryDescriptor.shape.json object.data).mapError
    (·.within ["decode repository descriptor"])
  validateRepositoryDescriptor wire descriptor
  return descriptor

def loadDescriptor : Encrypting (Option RepositoryDescriptor) := do
  match ← (layeredGet derivation repository.layers (descriptorKey repository.keyPrefix)
      ⟨[], maximumRepositoryDescriptorBytes⟩).attempt with
  | .error error =>
      if error.is .objectNotFound then return none
      else throw error
  | .ok object => do
      let descriptor ← .ofExcept (decodeDescriptor wire object)
      return some descriptor

end OpenedRepository

def acceptRepositoryDescriptor (expected actual : RepositoryDescriptor) :
    Except Err RepositoryDescriptor :=
  if actual ≠ expected then
    .error (Sentinel.repositoryConfigurationMismatch.tagged
      ["stored descriptor differs from requested configuration"])
  else .ok actual

def readDescriptor (repository : OpenedRepository) : Encrypting (Option RepositoryDescriptor) := do
  match ← (repository.loadDescriptor derivation wire).attempt with
  | .error error => throw (error.within ["s3disk: read repository descriptor"])
  | .ok found => return found

def reconcileDescriptor (repository : OpenedRepository) (expected : RepositoryDescriptor)
    (putError : Err) : Encrypting RepositoryDescriptor := do
  match ← (repository.loadDescriptor derivation wire).attempt with
  | .ok (some actual) => .ofExcept (acceptRepositoryDescriptor expected actual)
  | .ok none => throw (Sentinel.repositoryInitializationIndeterminate.wraps
      ((joinErrors [putError, Sentinel.repositoryNotInitialized.error]).within
        ["reconcile descriptor after PutIfAbsent"]))
  | .error readError => throw (Sentinel.repositoryInitializationIndeterminate.wraps
      ((joinErrors [putError, readError]).within ["reconcile descriptor after PutIfAbsent"]))

def createDescriptor (repository : OpenedRepository) (expected : RepositoryDescriptor) :
    Encrypting RepositoryDescriptor := do
  match ← (layeredPutIfAbsent derivation repository.layers (descriptorKey repository.keyPrefix)
      expected.encode).attempt with
  | .ok version => do
      .ofExcept (validateStoreVersion ["PutIfAbsent repository descriptor"] version)
      return expected
  | .error putError => reconcileDescriptor derivation wire repository expected putError

def initializeRepository (handle : StoreHandle) (keyPrefix : Bytes) (config : RepositoryConfig)
    (confirmEmptyPrefix : Bool) : Encrypting RepositoryDescriptor := do
  let (repository, expected) ← .ofExcept
    (configuredWritableRepository derivation wire handle keyPrefix config)
  match ← readDescriptor derivation wire repository with
  | some actual => .ofExcept (acceptRepositoryDescriptor expected actual)
  | none => do
      failIf (confirmEmptyPrefix = false) (Sentinel.repositoryNotInitialized.tagged
        ["descriptor is absent; creating one requires explicit confirmation that the prefix is empty"])
      createDescriptor derivation wire repository expected

def openConfiguredRepository (repository : OpenedRepository) (expected : RepositoryDescriptor) :
    Encrypting RepositoryDescriptor := do
  match ← readDescriptor derivation wire repository with
  | none => throw Sentinel.repositoryNotInitialized.error
  | some actual => .ofExcept (acceptRepositoryDescriptor expected actual)

def openRepository (handle : StoreHandle) (keyPrefix : Bytes) (config : RepositoryConfig) :
    Encrypting RepositoryDescriptor := do
  let (repository, expected) ← .ofExcept
    (configuredWritableRepository derivation wire handle keyPrefix config)
  openConfiguredRepository derivation wire repository expected

def openReadOnlyRepository (handle : StoreHandle) (keyPrefix : Bytes) (config : RepositoryConfig) :
    Encrypting RepositoryDescriptor := do
  let (repository, expected) ← .ofExcept
    (configuredReadOnlyRepository derivation wire handle keyPrefix config)
  openConfiguredRepository derivation wire repository expected

end

end S3Disk
