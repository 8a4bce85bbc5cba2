import Mathlib.Data.List.DropRight
import S3Disk.Library.Checks
import S3Disk.Library.JsonLengths
import S3Disk.RepositoryDescriptor

/-! Every descriptor that the configuration of a call asks for passes the checks of the
read: it fits the byte limit, its JSON is canonical and its fields are valid. -/

namespace S3Disk

open Concurrent
open ClientEncryption (Derivation Profile)
open Json (Value)

theorem trimSlashes_trimSlashes (text : Bytes) :
    trimSlashes (trimSlashes text) = trimSlashes text := by
  have whole : trimSlashes text = (text.dropWhile (· == slash)).rdropWhile (· == slash) := rfl
  have front : (trimSlashes text).dropWhile (· == slash) = trimSlashes text := by
    rw [List.dropWhile_eq_self_iff]
    intro nonempty
    have inside : trimSlashes text <+: text.dropWhile (· == slash) := List.rdropWhile_prefix _ _
    have first := List.IsPrefix.getElem inside nonempty
    have kept := List.dropWhile_get_zero_not (· == slash) text
      (Nat.lt_of_lt_of_le nonempty inside.length_le)
    simp only [List.get_eq_getElem] at kept
    rw [first]
    exact kept
  have back : (trimSlashes text).rdropWhile (· == slash) = trimSlashes text := by
    rw [whole, List.rdropWhile_idempotent]
  calc trimSlashes (trimSlashes text)
      = ((trimSlashes text).dropWhile (· == slash)).rdropWhile (· == slash) := rfl
    _ = trimSlashes text := by rw [front, back]

variable {derivation : Derivation} {wire : Wire} {keyPrefix : Bytes} {config : RepositoryConfig}
  {repository : OpenedRepository} {expected : RepositoryDescriptor}

theorem normalized_ok {options normal : ChunkingOptions}
    (normalized : options.normalized wire = .ok normal) :
    normal.normalized wire = .ok normal ∧ 64 ≤ normal.minSize ∧
      normal.minSize < normal.averageSize ∧ normal.averageSize < normal.maxSize ∧
      normal.maxSize ≤ 64 * 1024 * 1024 ∧ normal.polynomial < Json.tenfold 17 := by
  unfold ChunkingOptions.normalized at normalized
  dsimp only at normalized
  have polynomialSet : (if options.polynomial = 0 then defaultPolynomial else options.polynomial) ≠ 0 := by
    split
    · decide
    · assumption
  generalize (if options.minSize = 0 then 256 * 1024 else options.minSize) = low at normalized
  generalize (if options.averageSize = 0 then 1024 * 1024 else options.averageSize) = middle
    at normalized
  generalize (if options.maxSize = 0 then 4 * 1024 * 1024 else options.maxSize) = high at normalized
  generalize (if options.polynomial = 0 then defaultPolynomial else options.polynomial) = polynomial
    at normalized polynomialSet
  split at normalized
  · cases normalized
  split at normalized
  · cases normalized
  split at normalized
  · cases normalized
  split at normalized
  · cases normalized
  rename_i ordered power bounded field
  obtain rfl := Except.ok.inj normalized
  have degree : polynomial.log2 = 53 := by
    by_contra other
    exact field (.inl other)
  have small : polynomial < Json.tenfold 17 := by
    have below := (Nat.log2_eq_iff polynomialSet).mp degree
    exact Nat.lt_trans below.2 (by decide)
  have nonzero : low ≠ 0 ∧ middle ≠ 0 ∧ high ≠ 0 := by omega
  obtain ⟨lowSet, middleSet, highSet⟩ := nonzero
  refine ⟨?_, by dsimp only; omega, by dsimp only; omega, by dsimp only; omega,
    by dsimp only; omega, small⟩
  unfold ChunkingOptions.normalized
  simp only [lowSet, middleSet, highSet, polynomialSet, if_false]
  rw [if_neg ordered, if_neg power, if_neg bounded, if_neg field]

structure Roomy (derivation : Derivation) (trimmed : Bytes) (profile : Option Profile) : Prop where
  unicode : validUTF8 trimmed = true
  nonzero : trimmed.contains 0 = false
  dedicated : profile.isSome = true → trimmed ≠ []
  configured : profile.any (·.configured = false) = false
  short : (immutableKey derivation trimmed profile .symlink .zero).length ≤ maxObjectKeyBytes

theorem newRepository_ok {layers : List Profile} {profile : Option Profile} :
    newRepository derivation layers keyPrefix profile = .ok repository ↔
      Roomy derivation (trimSlashes keyPrefix) profile ∧
        repository = ⟨trimSlashes keyPrefix, layers⟩ := by
  constructor
  · intro made
    obtain ⟨_, texts, made⟩ := bind_ok.mp made
    obtain ⟨_, dedicated, made⟩ := bind_ok.mp made
    obtain ⟨_, configured, made⟩ := bind_ok.mp made
    obtain ⟨_, short, made⟩ := bind_ok.mp made
    cases made
    have texts := failIf_ok.mp texts
    have dedicated := failIf_ok.mp dedicated
    simp only [not_or, Bool.not_eq_false, Bool.not_eq_true] at texts
    exact ⟨⟨texts.1, texts.2, fun some empty => dedicated ⟨some, empty⟩,
      by simpa using failIf_ok.mp configured, Nat.not_lt.mp (failIf_ok.mp short)⟩, rfl⟩
  · rintro ⟨⟨unicode, nonzero, dedicated, configured, short⟩, rfl⟩
    have texts : ¬(validUTF8 (trimSlashes keyPrefix) = false ∨
        (trimSlashes keyPrefix).contains 0 = true) := by
      rw [unicode, nonzero]
      decide
    refine bind_ok.mpr ⟨(), failIf_ok.mpr texts, bind_ok.mpr
      ⟨(), failIf_ok.mpr fun both => dedicated both.1 both.2, bind_ok.mpr
        ⟨(), failIf_ok.mpr (by rw [configured]; decide), bind_ok.mpr
          ⟨(), failIf_ok.mpr (Nat.not_lt.mpr short), rfl⟩⟩⟩⟩

theorem length_protocolKey (keyPrefix relative : Bytes) :
    (protocolKey keyPrefix relative).length = (protocolKey keyPrefix []).length + relative.length := by
  simp only [protocolKey, List.length_append, List.length_nil]
  omega

theorem Roomy.descriptorKey {trimmed : Bytes} {profile : Option Profile}
    (roomy : Roomy derivation trimmed profile) :
    (S3Disk.descriptorKey trimmed).length ≤ maxObjectKeyBytes := by
  refine Nat.le_trans ?_ roomy.short
  have name : (ascii "repository").length = 10 := by decide
  have folder : (ascii "objects/").length = 8 := by decide
  have digest : (ascii "/sha256/").length = 8 := by decide
  have secret : (ascii "/hmac-sha256/").length = 13 := by decide
  have key := length_protocolKey trimmed (ascii "repository")
  cases profile with
  | none =>
      have object := length_protocolKey trimmed (ascii "objects/" ++ ascii (Kind.text .symlink) ++
        ascii "/sha256/" ++ (hexEncode Digest.zero.bytes).take 2 ++ ascii "/" ++
        hexEncode Digest.zero.bytes)
      simp only [List.length_append] at object
      unfold S3Disk.descriptorKey immutableKey
      dsimp only
      omega
  | some profile =>
      have object := length_protocolKey trimmed (ascii "objects/" ++ ascii (Kind.text .symlink) ++
        ascii "/hmac-sha256/" ++ (profile.opaqueObjectID derivation .symlink .zero).take 2 ++
        ascii "/" ++ profile.opaqueObjectID derivation .symlink .zero)
      simp only [List.length_append] at object
      unfold S3Disk.descriptorKey immutableKey
      dsimp only
      omega

theorem length_keyPrefix_le (keyPrefix : Bytes) : keyPrefix.length ≤ (descriptorKey keyPrefix).length := by
  unfold descriptorKey protocolKey
  split
  · simp [*]
  · simp only [List.length_append]
    omega

theorem descriptorConfiguration_ok
    (configured : descriptorConfiguration wire keyPrefix config = .ok expected) :
    expected.format = repositoryDescriptorFormat ∧ expected.repositoryID = config.repositoryID ∧
      config.repositoryID.isZero = false ∧ expected.repositoryPrefix = trimSlashes keyPrefix ∧
      expected.storageProfile =
        (if config.clientEncryption.isSome then .strictShareIsolationV1 else .plaintextV1) ∧
      expected.chunking.algorithm = repositoryChunkingAlgorithm ∧
      config.chunking.normalized wire = .ok expected.chunkingOptions := by
  obtain ⟨_, identity, configured⟩ := bind_ok.mp configured
  obtain ⟨chunking, normal, configured⟩ := bind_ok.mp configured
  obtain ⟨_, _, configured⟩ := bind_ok.mp configured
  cases configured
  exact ⟨rfl, rfl, by simpa using failIf_ok.mp identity, rfl, rfl, rfl, normal⟩

theorem configuredRepository_ok {layers : Except Err (List Profile)} :
    configuredRepository derivation wire layers keyPrefix config = .ok (repository, expected) ↔
      descriptorConfiguration wire keyPrefix config = .ok expected ∧ layers = .ok repository.layers ∧
        Roomy derivation (trimSlashes keyPrefix) config.clientEncryption ∧
        repository.keyPrefix = trimSlashes keyPrefix := by
  constructor
  · intro configured
    obtain ⟨descriptor, requested, configured⟩ := bind_ok.mp configured
    obtain ⟨applied, layered, configured⟩ := bind_ok.mp configured
    obtain ⟨made, created, configured⟩ := bind_ok.mp configured
    obtain ⟨roomy, rfl⟩ := newRepository_ok.mp created
    obtain ⟨_, _, _, same, _⟩ := descriptorConfiguration_ok requested
    cases configured
    rw [← same]
    exact ⟨requested, layered, same ▸ roomy, rfl⟩
  · rintro ⟨requested, layered, roomy, same⟩
    obtain ⟨_, _, _, trimmed, _⟩ := descriptorConfiguration_ok requested
    refine bind_ok.mpr ⟨expected, requested, bind_ok.mpr ⟨repository.layers, layered, bind_ok.mpr
      ⟨repository, newRepository_ok.mpr ⟨roomy, ?_⟩, ?_⟩⟩⟩
    · rw [← same]
    · rw [same, ← trimmed]
      rfl

structure Commissioned (wire : Wire) (descriptor : RepositoryDescriptor) : Prop where
  format : descriptor.format = repositoryDescriptorFormat
  identity : descriptor.repositoryID.isZero = false
  sized : descriptor.repositoryID.bytes.length = 32
  trimmed : trimSlashes descriptor.repositoryPrefix = descriptor.repositoryPrefix
  unicode : validUTF8 descriptor.repositoryPrefix = true
  nonzero : descriptor.repositoryPrefix.contains 0 = false
  short : (descriptorKey descriptor.repositoryPrefix).length ≤ maxObjectKeyBytes
  profile : descriptor.storageProfile = .plaintextV1 ∨
    (descriptor.storageProfile = .strictShareIsolationV1 ∧ descriptor.repositoryPrefix ≠ [])
  algorithm : descriptor.chunking.algorithm = repositoryChunkingAlgorithm
  normal : ∃ options : ChunkingOptions, options.normalized wire = .ok descriptor.chunkingOptions

theorem commissioned (requested : descriptorConfiguration wire keyPrefix config = .ok expected)
    (roomy : Roomy derivation (trimSlashes keyPrefix) config.clientEncryption)
    (sized : config.repositoryID.bytes.length = 32) : Commissioned wire expected := by
  obtain ⟨format, identity, nonzero, trimmed, profile, algorithm, normal⟩ :=
    descriptorConfiguration_ok requested
  refine ⟨format, identity ▸ nonzero, identity ▸ sized, ?_, trimmed ▸ roomy.unicode,
    trimmed ▸ roomy.nonzero, trimmed ▸ roomy.descriptorKey, ?_, algorithm, _, normal⟩
  · rw [trimmed, trimSlashes_trimSlashes]
  · rw [profile, trimmed]
    cases strict : config.clientEncryption.isSome with
    | false => exact .inl rfl
    | true => exact .inr ⟨rfl, roomy.dedicated strict⟩

namespace RepositoryDescriptor

theorem fields_named (descriptor : RepositoryDescriptor) : Named descriptor.fields :=
  .cons (by decide +kernel) (.cons (by decide +kernel) (.cons (by decide +kernel)
    (.cons (by decide +kernel) (.cons (by decide +kernel) .nil))))

theorem chunkingFields_named (chunking : RepositoryChunkingDescriptor) :
    Named (chunkingFields chunking) :=
  .cons (by decide +kernel) (.cons (by decide +kernel) (.cons (by decide +kernel)
    (.cons (by decide +kernel) (.cons (by decide +kernel) .nil))))

theorem read_fields (descriptor : RepositoryDescriptor) :
    fieldOf "format" descriptor.fields = some (.number descriptor.format) ∧
    fieldOf "repository_id" descriptor.fields = some (repositoryIDValue descriptor.repositoryID) ∧
    fieldOf "repository_prefix" descriptor.fields = some (.string descriptor.repositoryPrefix) ∧
    fieldOf "storage_profile" descriptor.fields = some (.string descriptor.storageProfile.text) ∧
    fieldOf "chunking" descriptor.fields = some (.object (chunkingFields descriptor.chunking)) := by
  simp only [fields]
  exact ⟨rfl, rfl, rfl, rfl, rfl⟩

theorem read_chunkingFields (chunking : RepositoryChunkingDescriptor) :
    fieldOf "algorithm" (chunkingFields chunking) = some (.string chunking.algorithm) ∧
    fieldOf "minimum_size" (chunkingFields chunking) = some (.number chunking.minSize) ∧
    fieldOf "average_size" (chunkingFields chunking) = some (.number chunking.averageSize) ∧
    fieldOf "maximum_size" (chunkingFields chunking) = some (.number chunking.maxSize) ∧
    fieldOf "polynomial" (chunkingFields chunking) = some (natValue chunking.polynomial) := by
  simp only [chunkingFields]
  exact ⟨rfl, rfl, rfl, rfl, rfl⟩

theorem ofText_text {profile : RepositoryStorageProfile}
    (known : profile = .plaintextV1 ∨ profile = .strictShareIsolationV1) :
    RepositoryStorageProfile.ofText profile.text = profile ∧ validUTF8 profile.text = true := by
  rcases known with rfl | rfl
  · decide +kernel
  · decide +kernel

theorem readInt_small {value : Int} (low : 0 ≤ value) (high : value ≤ 64 * 1024 * 1024) :
    readInt (some (.number value)) = some value := by
  have range : -(maxInt64 : Int) - 1 ≤ value ∧ value ≤ maxInt64 := by
    have limit : (64 * 1024 * 1024 : Int) ≤ maxInt64 := by decide
    omega
  simp only [readInt]
  rw [if_pos range]

end RepositoryDescriptor

namespace Commissioned

variable {descriptor : RepositoryDescriptor}

theorem sizes (held : Commissioned wire descriptor) :
    descriptor.chunkingOptions.normalized wire = .ok descriptor.chunkingOptions ∧
      64 ≤ descriptor.chunking.minSize ∧ descriptor.chunking.minSize ≤ 64 * 1024 * 1024 ∧
      64 ≤ descriptor.chunking.averageSize ∧ descriptor.chunking.averageSize ≤ 64 * 1024 * 1024 ∧
      64 ≤ descriptor.chunking.maxSize ∧ descriptor.chunking.maxSize ≤ 64 * 1024 * 1024 ∧
      descriptor.chunking.polynomial < Json.tenfold 17 := by
  obtain ⟨options, normalized⟩ := held.normal
  obtain ⟨fixed, low, middle, high, bounded, polynomial⟩ := normalized_ok normalized
  simp only [RepositoryDescriptor.chunkingOptions] at low middle high bounded polynomial
  exact ⟨fixed, low, by omega, by omega, by omega, by omega, bounded, polynomial⟩

theorem known (held : Commissioned wire descriptor) :
    descriptor.storageProfile = .plaintextV1 ∨
      descriptor.storageProfile = .strictShareIsolationV1 :=
  held.profile.imp_right And.left

theorem readChunking (held : Commissioned wire descriptor) :
    RepositoryDescriptor.readChunking
      (Value.object (RepositoryDescriptor.chunkingFields descriptor.chunking)).coerce =
      some descriptor.chunking := by
  obtain ⟨_, low, low', middle, middle', high, high', small⟩ := held.sizes
  obtain ⟨algorithm, minimum, average, maximum, polynomial⟩ :=
    RepositoryDescriptor.read_chunkingFields descriptor.chunking
  have algorithmRead : readText ((fieldOf "algorithm"
      (RepositoryDescriptor.chunkingFields descriptor.chunking)).map Value.coerce) =
      some descriptor.chunking.algorithm := by
    rw [algorithm, held.algorithm]
    decide +kernel
  have minimumRead : readInt ((fieldOf "minimum_size"
      (RepositoryDescriptor.chunkingFields descriptor.chunking)).map Value.coerce) =
      some descriptor.chunking.minSize := by
    rw [minimum]
    exact RepositoryDescriptor.readInt_small (by omega) low'
  have averageRead : readInt ((fieldOf "average_size"
      (RepositoryDescriptor.chunkingFields descriptor.chunking)).map Value.coerce) =
      some descriptor.chunking.averageSize := by
    rw [average]
    exact RepositoryDescriptor.readInt_small (by omega) middle'
  have maximumRead : readInt ((fieldOf "maximum_size"
      (RepositoryDescriptor.chunkingFields descriptor.chunking)).map Value.coerce) =
      some descriptor.chunking.maxSize := by
    rw [maximum]
    exact RepositoryDescriptor.readInt_small (by omega) high'
  have polynomialRead : readUint64 ((fieldOf "polynomial"
      (RepositoryDescriptor.chunkingFields descriptor.chunking)).map Value.coerce) =
      some descriptor.chunking.polynomial := by
    rw [polynomial]
    exact readUint64_value (Nat.le_of_lt (Nat.lt_of_lt_of_le small (by decide)))
  rw [Value.coerce]
  simp only [RepositoryDescriptor.readChunking,
    fieldOf_coerce (RepositoryDescriptor.chunkingFields_named _), algorithmRead, minimumRead,
    averageRead, maximumRead, polynomialRead]
  rfl

theorem returns (held : Commissioned wire descriptor) :
    RepositoryDescriptor.shape.Returns descriptor := by
  obtain ⟨format, identity, keyPrefix, profile, chunking⟩ :=
    RepositoryDescriptor.read_fields descriptor
  obtain ⟨known, text⟩ := RepositoryDescriptor.ofText_text held.known
  have formatRead : readInt ((fieldOf "format" descriptor.fields).map Value.coerce) =
      some descriptor.format := by
    rw [format, held.format]
    rfl
  have identityRead : readRepositoryID ((fieldOf "repository_id" descriptor.fields).map
      Value.coerce) = some descriptor.repositoryID := by
    rw [identity, Option.map_some, coerce_repositoryID, readRepositoryID_value held.sized]
  have prefixRead : readText ((fieldOf "repository_prefix" descriptor.fields).map Value.coerce) =
      some descriptor.repositoryPrefix := by
    rw [keyPrefix, Option.map_some, coerce_text held.unicode]
    rfl
  have profileRead : readText ((fieldOf "storage_profile" descriptor.fields).map Value.coerce) =
      some descriptor.storageProfile.text := by
    rw [profile, Option.map_some, coerce_text text]
    rfl
  have chunkingRead : readStruct ⟨[], 0, 0, 0, 0⟩ RepositoryDescriptor.readChunking
      ((fieldOf "chunking" descriptor.fields).map Value.coerce) = some descriptor.chunking := by
    rw [chunking, Option.map_some]
    exact held.readChunking
  have coerced : (RepositoryDescriptor.shape.toValue descriptor).coerce =
      .object (Json.coerceFields descriptor.fields) := by
    simp [RepositoryDescriptor.shape, Value.coerce]
  rw [Shape.Returns, coerced]
  simp only [RepositoryDescriptor.shape, fieldOf_coerce descriptor.fields_named, formatRead,
    identityRead, prefixRead, profileRead, chunkingRead]
  show some _ = some descriptor
  rw [known]

theorem length_encode_le (held : Commissioned wire descriptor) :
    descriptor.encode.length ≤ maximumRepositoryDescriptorBytes := by
  obtain ⟨_, low, low', middle, middle', high, high', small⟩ := held.sizes
  have limit : maxObjectKeyBytes = 1024 := rfl
  have bound : maximumRepositoryDescriptorBytes = 16384 := rfl
  have keyPrefix := length_keyPrefix_le descriptor.repositoryPrefix
  have short := held.short
  have prefixLength := Json.length_encodeString_le descriptor.repositoryPrefix
  have format : (Json.encodeInt repositoryDescriptorFormat).length = 1 := by decide
  have algorithm : (Json.encodeString repositoryChunkingAlgorithm).length = 10 := by decide +kernel
  have profile : (Json.encodeString descriptor.storageProfile.text).length ≤ 27 := by
    rcases held.known with same | same
    · rw [same]
      decide +kernel
    · rw [same]
      decide +kernel
  have eight : Json.tenfold (7 + 1) = 100000000 := by decide
  have minimum := @Json.length_encodeInt_le 7 descriptor.chunking.minSize (by omega)
  have average := @Json.length_encodeInt_le 7 descriptor.chunking.averageSize (by omega)
  have maximum := @Json.length_encodeInt_le 7 descriptor.chunking.maxSize (by omega)
  have polynomial := @Json.length_encodeInt_le 16 (descriptor.chunking.polynomial : Int)
    (by rw [Int.natAbs_natCast]; exact small)
  have names : (Json.encodeString (ascii "format")).length = 8 ∧
      (Json.encodeString (ascii "repository_id")).length = 15 ∧
      (Json.encodeString (ascii "repository_prefix")).length = 19 ∧
      (Json.encodeString (ascii "storage_profile")).length = 17 ∧
      (Json.encodeString (ascii "chunking")).length = 10 ∧
      (Json.encodeString (ascii "algorithm")).length = 11 ∧
      (Json.encodeString (ascii "minimum_size")).length = 14 ∧
      (Json.encodeString (ascii "average_size")).length = 14 ∧
      (Json.encodeString (ascii "maximum_size")).length = 14 ∧
      (Json.encodeString (ascii "polynomial")).length = 12 := by
    decide +kernel
  obtain ⟨n1, n2, n3, n4, n5, n6, n7, n8, n9, n10⟩ := names
  simp only [RepositoryDescriptor.encode, Shape.json, RepositoryDescriptor.shape,
    RepositoryDescriptor.fields, RepositoryDescriptor.chunkingFields, Value.encode,
    Json.encodeFields, natValue, repositoryIDValue, List.length_cons, List.length_append,
    List.length_nil, Json.length_encodeString_hex, held.format, held.algorithm, held.sized, format,
    algorithm, n1, n2, n3, n4, n5, n6, n7, n8, n9, n10, if_true, Bool.false_eq_true, if_false]
  omega

theorem keyed (held : Commissioned wire descriptor) :
    validateClientEncryptionObjectKey (descriptorKey descriptor.repositoryPrefix) = .ok () := by
  have nonempty : descriptorKey descriptor.repositoryPrefix ≠ [] := by
    intro empty
    have length := length_protocolKey descriptor.repositoryPrefix (ascii "repository")
    have name : (ascii "repository").length = 10 := by decide
    rw [descriptorKey] at empty
    rw [empty] at length
    simp only [List.length_nil] at length
    omega
  have fixed : validUTF8 (ascii ".s3disk/v1") = true ∧ validUTF8 (ascii "/") = true ∧
      validUTF8 (ascii "repository") = true := by decide +kernel
  have unicode : validUTF8 (descriptorKey descriptor.repositoryPrefix) = true := by
    unfold descriptorKey protocolKey
    split
    · exact validUTF8_append (validUTF8_append fixed.1 fixed.2.1) fixed.2.2
    · exact validUTF8_append (validUTF8_append (validUTF8_append
        (validUTF8_append held.unicode fixed.2.1) fixed.1) fixed.2.1) fixed.2.2
  have clean : (0 : UInt8) ∉ descriptorKey descriptor.repositoryPrefix := by
    have base : (0 : UInt8) ∉ descriptor.repositoryPrefix := by
      have absent := held.nonzero
      rw [List.contains_eq_mem] at absent
      simpa using absent
    have rest : (0 : UInt8) ∉ ascii ".s3disk/v1" ∧ (0 : UInt8) ∉ ascii "/" ∧
        (0 : UInt8) ∉ ascii "repository" := by decide
    unfold descriptorKey protocolKey
    split
    · simp [rest]
    · simp [rest, base]
  unfold validateClientEncryptionObjectKey
  rw [if_neg]
  rintro (empty | large | invalid | zero)
  · exact nonempty empty
  · exact absurd held.short (Nat.not_le.mpr large)
  · rw [unicode] at invalid
    cases invalid
  · exact clean (List.contains_iff_mem.mp zero)

theorem decode (held : Commissioned wire descriptor) {version : Version}
    (valid : Objects.Valid version) :
    OpenedRepository.decodeDescriptor wire ⟨descriptor.encode, version⟩ = .ok descriptor := by
  have length := held.length_encode_le
  obtain ⟨tagged, eTag, versionID⟩ := valid
  have stored : validateStoreVersion ["GET repository descriptor"] version = .ok () := by
    unfold validateStoreVersion
    rw [if_neg tagged, if_neg (by omega)]
  have sized : ¬(descriptor.encode = [] ∨
      descriptor.encode.length > maximumRepositoryDescriptorBytes) := by
    rintro (empty | large)
    · cases empty
    · omega
  have decoded : decodeJSON RepositoryDescriptor.shape.json descriptor.encode = .ok descriptor :=
    held.returns.decode (Nat.le_trans length (by decide))
  have checked : validateRepositoryDescriptor wire descriptor = .ok () := by
    refine bind_ok.mpr ⟨(), failIf_ok.mpr ?_, bind_ok.mpr ⟨(), failIf_ok.mpr ?_, bind_ok.mpr
      ⟨(), ?_, bind_ok.mpr ⟨(), failIf_ok.mpr ?_, failIf_ok.mpr ?_⟩⟩⟩⟩
    · simp [held.format, held.identity]
    · rw [held.trimmed, held.unicode, held.nonzero]
      simp
    · unfold validateStorageProfile
      rcases held.profile with same | ⟨same, nonempty⟩
      · rw [same]
      · rw [same]
        exact failIf_ok.mpr nonempty
    · simp [held.algorithm]
    · simp [held.sizes.1]
  exact bind_ok.mpr ⟨(), stored, bind_ok.mpr ⟨(), failIf_ok.mpr sized, bind_ok.mpr
    ⟨descriptor, mapError_ok.mpr decoded, bind_ok.mpr ⟨(), checked, rfl⟩⟩⟩⟩

end Commissioned

end S3Disk
