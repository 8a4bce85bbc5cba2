import S3Disk.ObjectStore

/-! Client-side encryption of object bodies: the envelope of one object, and the store that
keeps envelopes in another store. Key derivation is a function, authenticated encryption is
asked of the environment. -/

namespace S3Disk

open Concurrent

def clientEncryptionKeyBytes : Nat := 32
def clientEncryptionSaltBytes : Nat := 16
def clientEncryptionMaxPlaintextBytes : Nat := 64 * 1024 * 1024
def clientEncryptionCiphertextOverhead : Nat := 8 + clientEncryptionSaltBytes + 12 + 16

def clientEncryptionEnvelopeHeader : Bytes := ascii "s3dce" ++ [0, 1, 0]

def clientEncryptionObjectDomain : Bytes :=
  ascii "s3disk\x00client-encryption\x00object\x00v1\x00"

def clientEncryptionIndexDomain : Bytes :=
  ascii "s3disk\x00client-encryption\x00index\x00v1\x00"

inductive ObjectRequest where
  | contextErr
  | store (call : StoreCall)
  | random
  | sealWith (secret plaintext associated : Bytes)
  | openWith (secret ciphertext associated : Bytes)
  deriving DecidableEq, Repr

def ObjectAnswer : ObjectRequest → Type
  | .contextErr => Option Err
  | .store call => StoreAnswer call
  | .random => Except Err { salt : Bytes // salt.length = clientEncryptionSaltBytes }
  | .sealWith _ _ _ => Bytes
  | .openWith _ _ _ => Option Bytes

abbrev Encrypting := Fallible ObjectRequest ObjectAnswer Err

namespace Encrypting

def contextErr : Encrypting Unit := .ask .contextErr fun answer => .done (match answer with
  | none => .ok ()
  | some error => .error error)

def storeGet (key : Bytes) (options : GetOptions) : Encrypting Object :=
  .ask (.store (.get key options)) .done

def storeHead (key : Bytes) : Encrypting Version := .ask (.store (.head key)) .done

def storePutIfAbsent (key data : Bytes) : Encrypting Version :=
  .ask (.store (.putIfAbsent key data)) .done

def storeCompareAndSwap (key : Bytes) (expected : Option Version) (data : Bytes) :
    Encrypting Version :=
  .ask (.store (.compareAndSwap key expected data)) .done

def messageSalt : Encrypting Bytes := .ask .random fun answer => .done (match answer with
  | .ok salt => .ok salt.val
  | .error error => .error (error.within ["s3disk: generate client encryption message salt"]))

def aeadSeal (secret plaintext associated : Bytes) : Encrypting Bytes :=
  .ask (.sealWith secret plaintext associated) fun answer => .done (.ok answer)

def aeadOpen (secret ciphertext associated : Bytes) : Encrypting (Option Bytes) :=
  .ask (.openWith secret ciphertext associated) fun answer => .done (.ok answer)

end Encrypting

def bigEndian32 (value : Nat) : Bytes :=
  [UInt8.ofNat (value / 0x1000000), UInt8.ofNat (value / 0x10000), UInt8.ofNat (value / 0x100),
    UInt8.ofNat value]

def validateClientEncryptionObjectKey (objectKey : Bytes) : Except Err Unit :=
  if objectKey = [] ∨ objectKey.length > maxObjectKeyBytes ∨ validUTF8 objectKey = false ∨
      objectKey.contains 0 then
    .error (Sentinel.invalidPath.tagged ["invalid encrypted object key"])
  else .ok ()

namespace ClientEncryption

/-- A profile is bound to one repository identity and one key. -/
structure Profile where
  repositoryID : RepositoryID
  encryptionMaster : Bytes
  indexKey : Bytes
  deriving DecidableEq, Repr

/-- The library functions that derive keys and names: HKDF with a secret, a salt and an info,
and HMAC with a key. -/
structure Derivation where
  hkdf : Bytes → Bytes → Bytes → Bytes
  hmac : Bytes → Bytes → Bytes

namespace Profile

def configured (profile : Profile) : Bool :=
  profile.repositoryID.isZero = false ∧
    profile.encryptionMaster ≠ List.replicate clientEncryptionKeyBytes 0 ∧
    profile.indexKey ≠ List.replicate clientEncryptionKeyBytes 0

def objectAssociatedData (profile : Profile) (objectKey salt : Bytes) : Bytes :=
  clientEncryptionObjectDomain ++ profile.repositoryID.bytes ++ salt ++
    bigEndian32 objectKey.length ++ objectKey

variable (derivation : Derivation) (profile : Profile)

def equivalent (profile other : Profile) : Bool :=
  profile.configured && other.configured && profile == other

def opaqueObjectID (kind : Kind) (digest : Digest) : Bytes :=
  hexEncode (derivation.hmac profile.indexKey
    (clientEncryptionIndexDomain ++ ascii kind.text ++ [0] ++ digest.bytes))

def objectAEAD (objectKey salt : Bytes) : Except Err Bytes := do
  failIf (profile.configured = false)
    (Err.plain ["s3disk: client encryption profile is not configured"])
  validateClientEncryptionObjectKey objectKey
  failIf (salt.length ≠ clientEncryptionSaltBytes)
    (Err.plain ["s3disk: invalid client encryption message salt"])
  return derivation.hkdf profile.encryptionMaster salt
    (profile.objectAssociatedData objectKey salt)

def sealObject (objectKey plaintext : Bytes) : Encrypting Bytes := do
  failIf (plaintext.length > clientEncryptionMaxPlaintextBytes)
    (Sentinel.resourceLimit.tagged ["encrypted plaintext exceeds ",
      .number clientEncryptionMaxPlaintextBytes, " bytes"])
  let salt ← Encrypting.messageSalt
  let secret ← .ofExcept (profile.objectAEAD derivation objectKey salt)
  let ciphertext ← Encrypting.aeadSeal secret plaintext (profile.objectAssociatedData objectKey salt)
  return clientEncryptionEnvelopeHeader ++ salt ++ ciphertext

def openObject (objectKey envelope : Bytes) : Encrypting Bytes := do
  failIf (envelope.length >
      clientEncryptionMaxPlaintextBytes + clientEncryptionCiphertextOverhead)
    (Sentinel.resourceLimit.tagged ["encrypted object exceeds the ciphertext limit"])
  failIf (envelope.length < clientEncryptionCiphertextOverhead ∨
      envelope.take clientEncryptionEnvelopeHeader.length ≠ clientEncryptionEnvelopeHeader)
    (Sentinel.corruptObject.tagged ["invalid client encryption envelope"])
  let rest := envelope.drop clientEncryptionEnvelopeHeader.length
  let salt := rest.take clientEncryptionSaltBytes
  let secret ← .ofExcept (profile.objectAEAD derivation objectKey salt)
  match ← Encrypting.aeadOpen secret (rest.drop clientEncryptionSaltBytes)
      (profile.objectAssociatedData objectKey salt) with
  | none => throw (Sentinel.corruptObject.tagged ["client encryption authentication failed"])
  | some plaintext => do
      failIf (plaintext.length > clientEncryptionMaxPlaintextBytes)
        (Sentinel.resourceLimit.tagged ["decrypted object exceeds ",
          .number clientEncryptionMaxPlaintextBytes, " bytes"])
      return plaintext

def plaintextLimit (maxBytes : Int) : Int :=
  if maxBytes = 0 ∨ maxBytes > clientEncryptionMaxPlaintextBytes then
    clientEncryptionMaxPlaintextBytes
  else maxBytes

def readerGet (below : Bytes → GetOptions → Encrypting Object) (objectKey : Bytes)
    (options : GetOptions) : Encrypting Object := do
  Encrypting.contextErr
  failIf (options.maxBytes < 0)
    (Sentinel.resourceLimit.tagged ["negative plaintext read limit"])
  let object ← below objectKey ⟨options.ifNoneMatch,
    plaintextLimit options.maxBytes + clientEncryptionCiphertextOverhead⟩
  let plaintext ← profile.openObject derivation objectKey object.data
  failIf (options.maxBytes > 0 ∧ (plaintext.length : Int) > options.maxBytes)
    (Sentinel.resourceLimit.tagged ["plaintext object exceeds ", .number options.maxBytes, " bytes"])
  Encrypting.contextErr
  return ⟨plaintext, object.version⟩

def sealedWrite (objectKey plaintext : Bytes) (write : Bytes → Encrypting Version) :
    Encrypting Version := do
  Encrypting.contextErr
  let envelope ← profile.sealObject derivation objectKey plaintext
  Encrypting.contextErr
  write envelope

end Profile

end ClientEncryption

structure ClientEncryptedStore where
  profile : ClientEncryption.Profile
  configured : profile.configured = true

namespace ClientEncryptedStore

variable (derivation : ClientEncryption.Derivation) (store : ClientEncryptedStore)

def get (objectKey : Bytes) (options : GetOptions) : Encrypting Object :=
  store.profile.readerGet derivation Encrypting.storeGet objectKey options

def head (objectKey : Bytes) : Encrypting Version := Encrypting.storeHead objectKey

def putIfAbsent (objectKey plaintext : Bytes) : Encrypting Version :=
  store.profile.sealedWrite derivation objectKey plaintext
    (Encrypting.storePutIfAbsent objectKey)

def compareAndSwap (objectKey : Bytes) (expected : Option Version) (plaintext : Bytes) :
    Encrypting Version :=
  store.profile.sealedWrite derivation objectKey plaintext
    (Encrypting.storeCompareAndSwap objectKey expected)

def call : (call : StoreCall) → Program ObjectRequest ObjectAnswer (StoreAnswer call)
  | .get objectKey options => store.get derivation objectKey options
  | .head objectKey => head objectKey
  | .putIfAbsent objectKey plaintext => store.putIfAbsent derivation objectKey plaintext
  | .compareAndSwap objectKey expected plaintext =>
      store.compareAndSwap derivation objectKey expected plaintext

end ClientEncryptedStore

end S3Disk
