import S3Disk.EncryptedStore
import S3Disk.PathFacts
import S3Disk.RepositoryDescriptor
import S3Disk.Share.Bundle

/-! The keys of repositories, over all prefixes. A key is told apart from every other one by its
components, read from the last one on. The strict readers of a share take exactly these keys. -/

namespace S3Disk

open Concurrent TextEncoding
open ClientEncryption (Derivation Profile)

def referencePath (signed : Bool) (channel : Channel) : Bytes :=
  (if signed then ascii "signed-refs/v1/" else ascii "refs/") ++ base64RawURL channel

def referenceKey (keyPrefix : Bytes) (channel : Channel) : Bytes :=
  protocolKey keyPrefix (referencePath false channel)

def signedReferenceKey (keyPrefix : Bytes) (channel : Channel) : Bytes :=
  protocolKey keyPrefix (referencePath true channel)

def hashName (keyed : Bool) : Bytes := if keyed then ascii "hmac-sha256" else ascii "sha256"

/-- The part of an object's key behind the namespace of the repository. -/
def objectPath (keyed : Bool) (kind : Kind) (value : Bytes) : Bytes :=
  ascii "objects" ++ slash :: (ascii kind.text ++ slash :: (hashName keyed ++ slash ::
    (value.take 2 ++ slash :: value)))

inductive RepositoryKey where
  | descriptor
  | reference (signed : Bool) (channel : Channel)
  | object (keyed : Bool) (kind : Kind) (digest : Digest)
  deriving DecidableEq

section

variable (derivation : Derivation) (profile : Profile)

def objectName (keyed : Bool) (kind : Kind) (digest : Digest) : Bytes :=
  if keyed then profile.opaqueObjectID derivation kind digest else hexEncode digest.bytes

def RepositoryKey.text (keyPrefix : Bytes) : RepositoryKey → Bytes
  | descriptor => descriptorKey keyPrefix
  | reference false channel => referenceKey keyPrefix channel
  | reference true channel => signedReferenceKey keyPrefix channel
  | object keyed kind digest =>
      immutableKey derivation keyPrefix (if keyed then some profile else none) kind digest

/-- The components behind the namespace of the repository, the last one first. -/
def RepositoryKey.backwards : RepositoryKey → List Bytes
  | descriptor => [ascii "repository"]
  | reference false channel => [base64RawURL channel, ascii "refs"]
  | reference true channel => [base64RawURL channel, ascii "v1", ascii "signed-refs"]
  | object keyed kind digest =>
      [objectName derivation profile keyed kind digest,
        (objectName derivation profile keyed kind digest).take 2, hashName keyed,
        ascii kind.text, ascii "objects"]

def prefixComponents (keyPrefix : Bytes) : List Bytes :=
  if keyPrefix = [] then [] else splitSlash keyPrefix

end

theorem joinSlash_splitSlash (path : Bytes) : joinSlash (splitSlash path) = path := by
  induction path with
  | nil => rfl
  | cons byte rest ih =>
      rw [splitSlash]
      cases split : splitSlash rest with
      | nil => exact absurd split (splitSlash_ne_nil rest)
      | cons first others =>
          rw [split] at ih
          split
          · next atSlash =>
              rw [atSlash]
              exact congrArg (slash :: ·) ih
          · cases others with
            | nil => simpa [joinSlash] using ih
            | cons second others => simpa [joinSlash] using ih

theorem prefixComponents_injective {left right : Bytes}
    (same : prefixComponents left = prefixComponents right) : left = right := by
  have joined : ∀ path, joinSlash (prefixComponents path) = path := by
    intro path
    unfold prefixComponents
    split
    · next empty => rw [empty]; rfl
    · exact joinSlash_splitSlash path
  rw [← joined left, ← joined right, same]

theorem splitSlash_protocolKey (keyPrefix relative : Bytes) :
    splitSlash (protocolKey keyPrefix relative) =
      prefixComponents keyPrefix ++ ascii ".s3disk" :: ascii "v1" :: splitSlash relative := by
  have space : splitSlash (ascii ".s3disk/v1") = [ascii ".s3disk", ascii "v1"] := by decide
  unfold protocolKey prefixComponents
  split
  · rw [List.append_assoc]
    exact (splitSlash_append _ _).trans (by rw [space]; rfl)
  · rw [List.append_assoc, List.append_assoc, List.append_assoc]
    refine (splitSlash_append keyPrefix _).trans ?_
    exact congrArg _ ((splitSlash_append _ _).trans (by rw [space]; rfl))

theorem noSlash_base64RawURL (channel : Bytes) : slash ∉ base64RawURL channel := by
  have digits : ∀ value < 64, base64Digit value ≠ slash := by decide +kernel
  rw [base64RawURL_eq, List.mem_map]
  rintro ⟨value, inside, same⟩
  exact digits value (sextets_small inside) same

theorem noSlash_hexEncode (bytes : Bytes) : slash ∉ hexEncode bytes := by
  intro member
  have digit := hexEncode_lowerHex member
  unfold LowerHex at digit
  exact absurd digit (by decide)

theorem noSlash_kind (kind : Kind) : slash ∉ ascii kind.text := by
  cases kind <;> decide

theorem noSlash_hashName (keyed : Bool) : slash ∉ hashName keyed := by
  cases keyed <;> decide

theorem splitSlash_referencePath (signed : Bool) (channel : Channel) :
    splitSlash (referencePath signed channel) =
      (if signed then [ascii "signed-refs", ascii "v1"] else [ascii "refs"]) ++
        [base64RawURL channel] := by
  have last := splitSlash_of_noSlash (noSlash_base64RawURL channel)
  cases signed with
  | false =>
      show splitSlash (ascii "refs" ++ slash :: base64RawURL channel) = _
      rw [splitSlash_append, last]
      rfl
  | true =>
      show splitSlash (ascii "signed-refs/v1" ++ slash :: base64RawURL channel) = _
      rw [splitSlash_append, last]
      rfl

theorem splitSlash_objectPath {value : Bytes} (keyed : Bool) (kind : Kind)
    (noSlash : slash ∉ value) :
    splitSlash (objectPath keyed kind value) =
      [ascii "objects", ascii kind.text, hashName keyed, value.take 2, value] := by
  have short : slash ∉ value.take 2 := fun member => noSlash (List.mem_of_mem_take member)
  have front : slash ∉ ascii "objects" := by decide
  rw [objectPath, splitSlash_append, splitSlash_append, splitSlash_append, splitSlash_append,
    splitSlash_of_noSlash front, splitSlash_of_noSlash (noSlash_kind kind),
    splitSlash_of_noSlash (noSlash_hashName keyed), splitSlash_of_noSlash short,
    splitSlash_of_noSlash noSlash]
  rfl

section

variable (derivation : Derivation) (profile : Profile)

theorem immutableKey_eq (keyPrefix : Bytes) (keyed : Bool) (kind : Kind) (digest : Digest) :
    immutableKey derivation keyPrefix (if keyed then some profile else none) kind digest =
      protocolKey keyPrefix
        (objectPath keyed kind (objectName derivation profile keyed kind digest)) := by
  have front : ascii "objects/" = ascii "objects" ++ [slash] := rfl
  have one : ascii "/" = [slash] := rfl
  cases keyed with
  | false =>
      have hash : ascii "/sha256/" = slash :: (ascii "sha256" ++ [slash]) := rfl
      simp [immutableKey, objectPath, objectName, hashName, front, one, hash]
  | true =>
      have hash : ascii "/hmac-sha256/" = slash :: (ascii "hmac-sha256" ++ [slash]) := rfl
      simp [immutableKey, objectPath, objectName, hashName, front, one, hash]

theorem noSlash_objectName (keyed : Bool) (kind : Kind) (digest : Digest) :
    slash ∉ objectName derivation profile keyed kind digest := by
  cases keyed with
  | false => exact noSlash_hexEncode _
  | true => exact noSlash_hexEncode _

theorem splitSlash_text (keyPrefix : Bytes) (key : RepositoryKey) :
    (splitSlash (key.text derivation profile keyPrefix)).reverse =
      key.backwards derivation profile ++ ascii "v1" :: ascii ".s3disk" ::
        (prefixComponents keyPrefix).reverse := by
  cases key with
  | descriptor =>
      have last : splitSlash (ascii "repository") = [ascii "repository"] := by decide
      simp [RepositoryKey.text, RepositoryKey.backwards, descriptorKey, splitSlash_protocolKey, last]
  | reference signed channel =>
      cases signed with
      | false =>
          simp [RepositoryKey.text, RepositoryKey.backwards, referenceKey, splitSlash_protocolKey,
            splitSlash_referencePath]
      | true =>
          simp [RepositoryKey.text, RepositoryKey.backwards, signedReferenceKey,
            splitSlash_protocolKey, splitSlash_referencePath]
  | object keyed kind digest =>
      simp [RepositoryKey.text, RepositoryKey.backwards, immutableKey_eq, splitSlash_protocolKey,
        splitSlash_objectPath keyed kind (noSlash_objectName derivation profile keyed kind digest)]

/-- The first two characters of a name in hexadecimal are no directory of references. -/
theorem take_objectName (keyed : Bool) (kind : Kind) (digest : Digest) :
    (objectName derivation profile keyed kind digest).take 2 ≠ ascii "v1" ∧
      (objectName derivation profile keyed kind digest).take 2 ≠ ascii "refs" := by
  have digits : ∀ character ∈ objectName derivation profile keyed kind digest,
      LowerHex character := by
    cases keyed with
    | false => exact fun _ => hexEncode_lowerHex
    | true => exact fun _ => hexEncode_lowerHex
  refine ⟨fun same => ?_, fun same => ?_⟩
  · have inside : 118 ∈ (objectName derivation profile keyed kind digest).take 2 := by
      rw [same]
      decide
    have digit := digits 118 (List.mem_of_mem_take inside)
    unfold LowerHex at digit
    exact absurd digit (by decide)
  · have short := List.length_take_le 2 (objectName derivation profile keyed kind digest)
    rw [same] at short
    exact absurd short (by decide)

theorem backwards_injective
    (identifies : ∀ kind digest other, profile.opaqueObjectID derivation kind digest =
      profile.opaqueObjectID derivation kind other → digest = other)
    {left right : RepositoryKey} {rest others : List Bytes}
    (same : left.backwards derivation profile ++ ascii "v1" :: ascii ".s3disk" :: rest =
      right.backwards derivation profile ++ ascii "v1" :: ascii ".s3disk" :: others) :
    left = right ∧ rest = others := by
  have space : ascii ".s3disk" ≠ ascii "signed-refs" := by decide
  have version : ascii "refs" ≠ ascii "v1" := by decide
  have names := fun keyed kind digest => take_objectName derivation profile keyed kind digest
  -- The classes differ in one of the last three components.
  rcases left with _ | ⟨_ | _, channel⟩ | ⟨keyed, kind, digest⟩ <;>
    rcases right with _ | ⟨_ | _, other⟩ | ⟨keyed', kind', digest'⟩ <;>
    simp only [RepositoryKey.backwards, List.cons_append, List.nil_append, List.cons.injEq,
      version, version.symm, space, space.symm, (names _ _ _).1, (names _ _ _).2,
      (names _ _ _).1.symm, (names _ _ _).2.symm, false_and, and_false] at same
  · exact ⟨rfl, same.2.2.2⟩
  · obtain rfl := base64RawURL_injective same.1
    exact ⟨rfl, same.2.2.2.2⟩
  · obtain rfl := base64RawURL_injective same.1
    exact ⟨rfl, same.2.2.2.2.2⟩
  · obtain ⟨name, _, hash, kinds, _, _, _, tail⟩ := same
    have hashes : ∀ first second, hashName first = hashName second → first = second := by decide
    have texts : ∀ first second : Kind, ascii first.text = ascii second.text → first = second := by
      intro first second
      cases first <;> cases second <;> decide
    obtain rfl := hashes _ _ hash
    obtain rfl := texts _ _ kinds
    refine ⟨?_, tail⟩
    cases keyed with
    | true => rw [identifies kind digest digest' name]
    | false =>
        obtain ⟨bytes⟩ := digest
        obtain ⟨other⟩ := digest'
        rw [hexEncode_injective (show hexEncode bytes = hexEncode other from name)]

theorem repository_keys_injective
    (identifies : ∀ kind digest other, profile.opaqueObjectID derivation kind digest =
      profile.opaqueObjectID derivation kind other → digest = other)
    (left right : Bytes) (key other : RepositoryKey)
    (same : key.text derivation profile left = other.text derivation profile right) :
    left = right ∧ key = other := by
  have parts := congrArg (fun text => (splitSlash text).reverse) same
  simp only [splitSlash_text] at parts
  obtain ⟨keys, prefixes⟩ := backwards_injective derivation profile identifies parts
  exact ⟨prefixComponents_injective (List.reverse_inj.mp prefixes), keys⟩

end

open ClientEncryption.Sample in
theorem repository_keys_injective_sample :
    RepositoryKey.text kdf store.profile [] (.reference true [1]) ≠
      RepositoryKey.text kdf store.profile (ascii ".s3disk/v1/signed-refs")
        (.object true .chunk ⟨[1]⟩) := by
  intro same
  have identifies : ∀ kind digest other, store.profile.opaqueObjectID kdf kind digest =
      store.profile.opaqueObjectID kdf kind other → digest = other := by
    intro kind digest other names
    exact congrArg Digest.mk (List.append_cancel_left (hexEncode_injective names))
  cases (repository_keys_injective kdf store.profile identifies _ _ _ _ same).2

/-! The readers of a share. -/

namespace Share

theorem protocolKey_eq (keyPrefix relative : Bytes) :
    protocolKey keyPrefix relative = repositoryObjectNamespace keyPrefix ++ relative := by
  unfold protocolKey repositoryObjectNamespace
  split
  · rfl
  · rw [List.append_assoc keyPrefix, List.append_assoc, List.append_assoc,
      List.append_assoc keyPrefix]
    rfl

theorem relativeKey_eq_some {keyPrefix key relative : Bytes} :
    relativeKey keyPrefix key = some relative ↔ key = protocolKey keyPrefix relative := by
  rw [protocolKey_eq, relativeKey]
  constructor
  · intro found
    split at found
    · next inside =>
        cases found
        obtain ⟨rest, rfl⟩ := List.isPrefixOf_iff_prefix.mp inside
        rw [List.drop_left]
    · cases found
  · rintro rfl
    rw [if_pos (List.isPrefixOf_iff_prefix.mpr (List.prefix_append _ _)), List.drop_left]

theorem validateChannel_eq_ok {channel : Channel} : validateChannel channel = .ok () ↔
    ¬(channel = [] ∨ channel.length > 1024 ∨ validUTF8 channel = false ∨
      channel.contains 0 = true) := by
  rw [validateChannel, List.contains_iff_mem]
  split
  · next refused => exact ⟨nofun, fun accepted => absurd refused (by tauto)⟩
  · next accepted => exact ⟨fun _ => by tauto, fun _ => rfl⟩

theorem encodedChannel_eq_some {encoded : Bytes} {channel : Channel} {signed read : Bool} :
    (if encoded = [] ∨ encoded.contains slash = true then none
      else do
        let decoded ← base64RawURLDecode encoded
        if decoded = [] ∨ decoded.length > 1024 ∨ validUTF8 decoded = false ∨
            decoded.contains 0 = true ∨ base64RawURL decoded ≠ encoded then none
          else some (decoded, read)) = some (channel, signed) ↔
      validateChannel channel = .ok () ∧ encoded = base64RawURL channel ∧ read = signed := by
  rw [validateChannel_eq_ok]
  constructor
  · intro found
    split at found
    · cases found
    · obtain ⟨decoded, _, found⟩ := Option.bind_eq_some_iff.mp found
      split at found
      · cases found
      · next accepted =>
          cases found
          tauto
  · rintro ⟨valid, rfl, rfl⟩
    have nonempty : base64RawURL channel ≠ [] := by
      intro empty
      exact valid (.inl (base64RawURL_injective (empty.trans rfl)))
    rw [if_neg (by simp [nonempty, noSlash_base64RawURL])]
    refine Option.bind_eq_some_iff.mpr ⟨channel, base64RawURLDecode_base64RawURL channel, ?_⟩
    rw [if_neg (by tauto)]

theorem channelFromReferenceRemainder_eq_some {relative : Bytes} {channel : Channel}
    {signed : Bool} :
    channelFromReferenceRemainder relative = some (channel, signed) ↔
      validateChannel channel = .ok () ∧ relative = referencePath signed channel := by
  unfold channelFromReferenceRemainder
  dsimp only
  constructor
  · intro found
    split at found
    · next inside =>
        have read : _ ∧ relative.drop (ascii "refs/").length = _ ∧ false = signed :=
          encodedChannel_eq_some.mp found
        obtain ⟨valid, encoded, rfl⟩ := read
        rw [← List.prefix_iff_eq_append.mp (List.isPrefixOf_iff_prefix.mp inside), encoded]
        exact ⟨valid, rfl⟩
    · split at found
      · next inside =>
          have read : _ ∧ relative.drop (ascii "signed-refs/v1/").length = _ ∧ true = signed :=
            encodedChannel_eq_some.mp found
          obtain ⟨valid, encoded, rfl⟩ := read
          rw [← List.prefix_iff_eq_append.mp (List.isPrefixOf_iff_prefix.mp inside), encoded]
          exact ⟨valid, rfl⟩
      · cases found
  · rintro ⟨valid, rfl⟩
    cases signed with
    | false => exact encodedChannel_eq_some.mpr ⟨valid, rfl, rfl⟩
    | true => exact encodedChannel_eq_some.mpr ⟨valid, rfl, rfl⟩

/-- The kinds of objects that a bundle may name. -/
def sharedKinds : List Kind := [.commit, .dir, .file, .symlink, .chunk]

theorem lowercaseHex_eq_true {text : Bytes} :
    lowercaseHex text = true ↔ ∀ character ∈ text, LowerHex character := by
  simp [lowercaseHex, LowerHex]

theorem validImmutableRemainder_eq_true {relative : Bytes} :
    validImmutableRemainder relative = true ↔
      ∃ keyed, ∃ kind ∈ sharedKinds, ∃ identity : Bytes, identity.length = 32 ∧
        relative = objectPath keyed kind (hexEncode identity) := by
  unfold validImmutableRemainder
  constructor
  · intro valid
    split at valid
    · next objects kind hash shard digest parts =>
        simp only [Bool.and_eq_true, Bool.or_eq_true, beq_iff_eq, lowercaseHex_eq_true] at valid
        obtain ⟨⟨⟨⟨⟨⟨⟨rfl, hash⟩, known⟩, _⟩, length⟩, rfl⟩, _⟩, digits⟩ := valid
        have twice : digest.length = 2 * 32 := length
        obtain ⟨identity, sized, rfl⟩ := exists_hexEncode twice digits
        obtain ⟨keyed, rfl⟩ : ∃ keyed, hashName keyed = _ :=
          hash.elim (fun plain => ⟨false, plain.symm⟩) fun keyed => ⟨true, keyed.symm⟩
        obtain ⟨shared, member, rfl⟩ : ∃ shared ∈ sharedKinds, ascii shared.text = kind := by
          simpa [sharedKinds, Kind.text] using known
        refine ⟨keyed, shared, member, identity, sized, ?_⟩
        rw [← joinSlash_splitSlash relative, parts]
        rfl
    · cases valid
  · rintro ⟨keyed, kind, member, identity, sized, rfl⟩
    rw [splitSlash_objectPath keyed kind (noSlash_hexEncode identity)]
    have digits : lowercaseHex (hexEncode identity) = true :=
      lowercaseHex_eq_true.mpr fun _ => hexEncode_lowerHex
    have first : lowercaseHex ((hexEncode identity).take 2) = true :=
      lowercaseHex_eq_true.mpr fun _ inside => hexEncode_lowerHex (List.mem_of_mem_take inside)
    have length : (hexEncode identity).length = 64 := by rw [length_hexEncode, sized]
    have known : ["commit", "dir", "file", "symlink", "chunk"].any
        (fun known => ascii known == ascii kind.text) = true := by
      revert kind
      decide
    have hash : (hashName keyed == ascii "sha256" || hashName keyed == ascii "hmac-sha256") =
        true := by
      cases keyed <;> decide
    simp [digits, first, length, known, hash]

theorem share_keys_exact (keyPrefix : Bytes) :
    (∀ key, validateImmutableKey keyPrefix key = .ok () ↔
      validObjectKey key = true ∧ ∃ keyed, ∃ kind ∈ sharedKinds, ∃ identity : Bytes,
        identity.length = 32 ∧
          key = protocolKey keyPrefix (objectPath keyed kind (hexEncode identity))) ∧
    ∀ key channel signed, (relativeKey keyPrefix key).bind channelFromReferenceRemainder =
        some (channel, signed) ↔
      validateChannel channel = .ok () ∧
        key = protocolKey keyPrefix (referencePath signed channel) := by
  refine ⟨fun key => ?_, fun key channel signed => ?_⟩
  · have inside : validateImmutableKey keyPrefix key = .ok () ↔ validObjectKey key = true ∧
        ∃ relative, relativeKey keyPrefix key = some relative ∧
          validImmutableRemainder relative = true := by
      simp only [validateImmutableKey, bind_ok, failIf_ok]
      cases relativeKey keyPrefix key <;> simp
    simp only [inside, validImmutableRemainder_eq_true, relativeKey_eq_some]
    constructor
    · rintro ⟨valid, _, rfl, keyed, kind, member, identity, sized, rfl⟩
      exact ⟨valid, keyed, kind, member, identity, sized, rfl⟩
    · rintro ⟨valid, keyed, kind, member, identity, sized, rfl⟩
      exact ⟨valid, _, rfl, keyed, kind, member, identity, sized, rfl⟩
  · simp only [Option.bind_eq_some_iff, relativeKey_eq_some,
      channelFromReferenceRemainder_eq_some]
    constructor
    · rintro ⟨_, rfl, valid, rfl⟩
      exact ⟨valid, rfl⟩
    · rintro ⟨valid, rfl⟩
      exact ⟨_, rfl, valid, rfl⟩

end Share

end S3Disk
