import S3Disk.EncryptedStore
import S3Disk.SealedStateFile

/-! Package `publisherstate`: the envelope of a publisher's durable state, the protector that
seals and opens it with one recovery key, and the keyring that rotates keys. -/

namespace S3Disk.PublisherState

open Concurrent

def maximumKeyIDBytes : Nat := 128
def maximumBindingBytes : Nat := 4 * 1024
def maximumPlaintextBytes : Nat := 65 * 1024 * 1024
def recoveryKeyBytes : Nat := 32
def recoverySaltBytes : Nat := 16
def randomNonceGCMOverhead : Nat := 12 + 16
def envelopeHeaderBytes : Nat := 24
def maximumEnvelopeBytes : Nat :=
  envelopeHeaderBytes + maximumKeyIDBytes + recoverySaltBytes + maximumPlaintextBytes +
    randomNonceGCMOverhead
def maximumAESGCMKeyringKeys : Nat := 32

def envelopeMagic : Bytes := [115, 51, 100, 112, 115, 0, 1, 0]
def kdfDomain : Bytes := ascii "s3disk\x00publisher-state\x00recovery-kdf\x00v1\x00"
def aadDomain : Bytes := ascii "s3disk\x00publisher-state\x00envelope-aad\x00v1\x00"

inductive SealRequest where
  | contextErr
  | random
  | sealWith (secret plaintext associated : Bytes)
  | openWith (secret ciphertext associated : Bytes)
  deriving DecidableEq, Repr

def SealAnswer : SealRequest → Type
  | .contextErr => Option Err
  | .random => Except Err { salt : Bytes // salt.length = recoverySaltBytes }
  | .sealWith _ _ _ => Bytes
  | .openWith _ _ _ => Option Bytes

abbrev Protecting := Fallible SealRequest SealAnswer Err

namespace Protecting

def contextErr : Protecting Unit := .ask .contextErr fun answer => .done (match answer with
  | none => .ok ()
  | some error => .error error)

def envelopeSalt : Protecting Bytes := .ask .random fun answer => .done (match answer with
  | .ok salt => .ok salt.val
  | .error error => .error (error.within ["publisherstate: generate envelope salt"]))

def aeadSeal (secret plaintext associated : Bytes) : Protecting Bytes :=
  .ask (.sealWith secret plaintext associated) fun answer => .done (.ok answer)

def aeadOpen (secret ciphertext associated : Bytes) : Protecting (Option Bytes) :=
  .ask (.openWith secret ciphertext associated) fun answer => .done (.ok answer)

end Protecting

def bigEndian16 (value : Nat) : Bytes := [UInt8.ofNat (value / 0x100), UInt8.ofNat value]

def validKeyID (keyID : Bytes) : Bool :=
  1 ≤ keyID.length && keyID.length ≤ maximumKeyIDBytes && keyID.all fun character =>
    97 ≤ character && character ≤ 122 || 65 ≤ character && character ≤ 90 ||
      48 ≤ character && character ≤ 57 || character == 45 || character == 95 ||
      character == 46 || character == 58

def validateBinding (binding : Bytes) : Except Err Unit :=
  failIf (binding.length < 1 ∨ binding.length > maximumBindingBytes) Sentinel.invalidBinding.error

def encodeEnvelopePrefix (keyID salt : Bytes) (ciphertextLength : Nat) : Bytes :=
  envelopeMagic ++ bigEndian16 1 ++ bigEndian16 0 ++ bigEndian16 keyID.length ++
    bigEndian16 salt.length ++ bigEndian64 ciphertextLength ++ keyID ++ salt

structure DecodedEnvelope where
  keyID : Bytes
  salt : Bytes
  header : Bytes
  ciphertext : Bytes
  deriving DecidableEq, Repr

def parseEnvelope (envelope : Bytes) : Except Err DecodedEnvelope := do
  let invalid := Sentinel.invalidEnvelope.error
  failIf (envelope.length < envelopeHeaderBytes + 1 + recoverySaltBytes + randomNonceGCMOverhead)
    invalid
  failIf (envelope.take 8 ≠ envelopeMagic ∨ ofBigEndian ((envelope.drop 8).take 2) ≠ 1 ∨
    ofBigEndian ((envelope.drop 10).take 2) ≠ 0) invalid
  let keyIDLength := ofBigEndian ((envelope.drop 12).take 2)
  let saltLength := ofBigEndian ((envelope.drop 14).take 2)
  let ciphertextLength := ofBigEndian ((envelope.drop 16).take 8)
  failIf (keyIDLength < 1 ∨ keyIDLength > maximumKeyIDBytes ∨ saltLength ≠ recoverySaltBytes ∨
    ciphertextLength < randomNonceGCMOverhead ∨
    ciphertextLength > maximumPlaintextBytes + randomNonceGCMOverhead) invalid
  let prefixLength := envelopeHeaderBytes + keyIDLength + saltLength
  failIf (prefixLength > envelope.length ∨ envelope.length - prefixLength ≠ ciphertextLength) invalid
  let keyID := (envelope.drop envelopeHeaderBytes).take keyIDLength
  failIf (validKeyID keyID = false) invalid
  let salt := (envelope.drop (envelopeHeaderBytes + keyIDLength)).take saltLength
  failIf (encodeEnvelopePrefix keyID salt ciphertextLength ≠ envelope.take prefixLength) invalid
  return ⟨keyID, salt, envelope.take prefixLength, envelope.drop prefixLength⟩

def envelopeAssociatedData (header binding : Bytes) : Bytes :=
  aadDomain ++ bigEndian32 header.length ++ header ++ bigEndian32 binding.length ++ binding

def kdfInfo (keyID : Bytes) : Bytes :=
  kdfDomain ++ bigEndian16 1 ++ bigEndian16 keyID.length ++ keyID

structure RecoveryKey where
  material : Bytes
  sized : material.length = recoveryKeyBytes
  deriving DecidableEq, Repr

def RecoveryKey.configured (key : RecoveryKey) : Bool :=
  key.material != List.replicate recoveryKeyBytes 0

structure AESGCMProtector where
  keyID : Bytes
  key : RecoveryKey
  deriving DecidableEq, Repr

namespace AESGCMProtector

variable (hkdf : Bytes → Bytes → Bytes → Bytes) (protector : AESGCMProtector)

def configured : Bool := validKeyID protector.keyID && protector.key.configured

def aead (salt : Bytes) : Bytes := hkdf protector.key.material salt (kdfInfo protector.keyID)

def sealState (binding plaintext : Bytes) : Protecting Bytes := do
  Protecting.contextErr
  failIf (protector.configured = false) Sentinel.protectorUnavailable.error
  .ofExcept (validateBinding binding)
  failIf (plaintext.length > maximumPlaintextBytes)
    (Sentinel.publisherStateResourceLimit.tagged ["plaintext is too large"])
  let salt ← Protecting.envelopeSalt
  let ciphertextLength := plaintext.length + randomNonceGCMOverhead
  let header := encodeEnvelopePrefix protector.keyID salt ciphertextLength
  let ciphertext ← Protecting.aeadSeal (protector.aead hkdf salt) plaintext
    (envelopeAssociatedData header binding)
  failIf (ciphertext.length ≠ ciphertextLength)
    (.plain ["publisherstate: unexpected AES-GCM output length"])
  Protecting.contextErr
  return header ++ ciphertext

def openState (binding envelope : Bytes) : Protecting Bytes := do
  Protecting.contextErr
  failIf (protector.configured = false) Sentinel.protectorUnavailable.error
  .ofExcept (validateBinding binding)
  failIf (envelope.length > maximumEnvelopeBytes)
    (Sentinel.publisherStateResourceLimit.tagged ["envelope is too large"])
  let parsed ← .ofExcept (parseEnvelope envelope)
  failIf (parsed.keyID ≠ protector.keyID) Sentinel.authenticationFailed.error
  match ← Protecting.aeadOpen (protector.aead hkdf parsed.salt) parsed.ciphertext
      (envelopeAssociatedData parsed.header binding) with
  | none => throw Sentinel.authenticationFailed.error
  | some plaintext => do
      failIf (plaintext.length > maximumPlaintextBytes)
        (Sentinel.publisherStateResourceLimit.tagged ["plaintext is too large"])
      Protecting.contextErr
      return plaintext

end AESGCMProtector

/-- The active protector and all protectors, each under its own key ID. -/
structure AESGCMKeyring where
  active : AESGCMProtector
  byID : List AESGCMProtector
  deriving DecidableEq, Repr

def enroll (byID : List AESGCMProtector) : List AESGCMProtector →
    Except Err (List AESGCMProtector)
  | [] => .ok byID
  | protector :: rest => do
      failIf (protector.configured = false) Sentinel.protectorUnavailable.error
      failIf (byID.any (·.keyID == protector.keyID) = true) Sentinel.protectorConflict.error
      enroll (byID ++ [protector]) rest

def newAESGCMKeyring (active : AESGCMProtector) (retained : List AESGCMProtector) :
    Except Err AESGCMKeyring := do
  failIf (active.configured = false) Sentinel.protectorUnavailable.error
  failIf (retained.length + 1 > maximumAESGCMKeyringKeys)
    (Sentinel.publisherStateResourceLimit.tagged ["too many recovery protectors"])
  let byID ← enroll [] (active :: retained)
  return ⟨active, byID⟩

namespace AESGCMKeyring

variable (hkdf : Bytes → Bytes → Bytes → Bytes) (keyring : AESGCMKeyring)

def select (keyID : Bytes) : Option AESGCMProtector := keyring.byID.find? (·.keyID == keyID)

def configured : Bool :=
  keyring.active.configured && 1 ≤ keyring.byID.length &&
    keyring.byID.length ≤ maximumAESGCMKeyringKeys &&
    keyring.select keyring.active.keyID == some keyring.active

def sealState (binding plaintext : Bytes) : Protecting Bytes := do
  failIf (keyring.configured = false) Sentinel.protectorUnavailable.error
  keyring.active.sealState hkdf binding plaintext

def openSelected (binding envelope : Bytes) : Protecting (Bytes × Bytes) := do
  Protecting.contextErr
  failIf (keyring.configured = false) Sentinel.protectorUnavailable.error
  .ofExcept (validateBinding binding)
  failIf (envelope.length > maximumEnvelopeBytes)
    (Sentinel.publisherStateResourceLimit.tagged ["envelope is too large"])
  let parsed ← .ofExcept (parseEnvelope envelope)
  match keyring.select parsed.keyID with
  | none => throw Sentinel.authenticationFailed.error
  | some protector => do
      let plaintext ← protector.openState hkdf binding envelope
      return (plaintext, parsed.keyID)

def openState (binding envelope : Bytes) : Protecting Bytes := do
  let (plaintext, _) ← keyring.openSelected hkdf binding envelope
  return plaintext

def rewrap (binding envelope : Bytes) : Protecting (Bytes × Bool) := do
  let (plaintext, selectedKeyID) ← keyring.openSelected hkdf binding envelope
  if selectedKeyID = keyring.active.keyID then return (envelope, false)
  else do
    let rewrapped ← keyring.active.sealState hkdf binding plaintext
    return (rewrapped, true)

end AESGCMKeyring

end S3Disk.PublisherState
