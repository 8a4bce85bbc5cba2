import S3Disk.LocalFiles
import S3Disk.Repository

/-! `FileSealedStateStore`: one encrypted state in one file, under a header that the
protector authenticates. -/

namespace S3Disk

open Concurrent

def fileSealedStateMaxEnvelopeBytesLimit : Nat := 256 * 1024 * 1024
def fileSealedStateMaxBindingBytes : Nat := 64 * 1024
def sealedStateMagic : Bytes := [115, 51, 100, 115, 115, 0, 1, 0]
def sealedStateHeaderBytes : Nat := 52
def sealedStateSealStabilizationLimit : Nat := 8

def sealedStateBindingDomain : Bytes :=
  ascii "s3disk" ++ 0 :: ascii "file-sealed-state" ++ 0 :: ascii "protector-binding" ++
    0 :: ascii "v1" ++ [0]

/-- One process's store: its own protector, which opens an envelope or refuses it. -/
structure FileSealedStateStore where
  binding : Bytes
  maxEnvelopeBytes : Nat
  opens : Bytes → Bytes → Option Bytes

def encodeSealedStatePrefix (revision : Digest) (sealedLength : Nat) : Bytes :=
  sealedStateMagic ++ [0, 1] ++ [0, 0] ++ revision.bytes ++ bigEndian64 sealedLength

def ofBigEndian (bytes : Bytes) : Nat := bytes.foldl (fun total byte => 256 * total + byte.toNat) 0

theorem ofBigEndian_bigEndian64 {value : Nat} (fits : value < 0x10000000000000000) :
    ofBigEndian (bigEndian64 value) = value := by
  simp [ofBigEndian, bigEndian64, Nat.shiftRight_eq_div_pow]
  omega

def corruptState (detail : String) : Err := Sentinel.corruptObject.tagged [detail]

def parseSealedStateFile (data : Bytes) (maximumEnvelopeBytes : Nat) :
    Except Err (Bytes × Digest × Bytes) := do
  failIf (data.length < sealedStateHeaderBytes + 1) (corruptState "truncated sealed state")
  failIf (data.take 8 ≠ sealedStateMagic ∨ ofBigEndian ((data.drop 8).take 2) ≠ 1 ∨
      ofBigEndian ((data.drop 10).take 2) ≠ 0)
    (corruptState "invalid sealed state header")
  let revision : Digest := ⟨(data.drop 12).take 32⟩
  let sealedLength := ofBigEndian ((data.drop 44).take 8)
  failIf (revision.isZero ∨ sealedLength < 1 ∨ sealedLength > maximumEnvelopeBytes)
    (corruptState "invalid sealed state revision or length")
  failIf (data.length - sealedStateHeaderBytes ≠ sealedLength)
    (corruptState "non-canonical sealed state length")
  failIf (encodeSealedStatePrefix revision sealedLength ≠ data.take sealedStateHeaderBytes)
    (corruptState "non-canonical sealed state header")
  return (data.take sealedStateHeaderBytes, revision, data.drop sealedStateHeaderBytes)

def sealedStateBindingInput (callerBinding canonicalPrefix : Bytes) : Bytes :=
  sealedStateBindingDomain ++ bigEndian64 callerBinding.length ++ callerBinding ++
    bigEndian64 canonicalPrefix.length ++ canonicalPrefix

namespace FileSealedStateStore

open Filing

variable (sha256 : Bytes → Bytes) (store : FileSealedStateStore)

def protectorBinding (header : Bytes) : Bytes :=
  sha256 (sealedStateBindingInput store.binding header)

def configured : Bool :=
  store.binding != [] && store.binding.length ≤ fileSealedStateMaxBindingBytes &&
    0 < store.maxEnvelopeBytes && store.maxEnvelopeBytes ≤ fileSealedStateMaxEnvelopeBytesLimit

def maximumFileBytes : Nat := sealedStateHeaderBytes + store.maxEnvelopeBytes

def tooLong : Err := Sentinel.corruptObject.wraps (Sentinel.resourceLimit.tagged
  ["sealed state exceeds ", .number store.maximumFileBytes, " bytes"])

def notConfigured : Err := .plain ["s3disk: sealed state store is not configured"]

def loadLocked : Filing (Option (Bytes × Digest)) :=
  withOpened "sealed state" fun linked file => do
    failIf (linked.isRegular = false) (corruptState "sealed state path is not a regular file")
    Filing.labelled ["s3disk: validate sealed state file"] (validatePrivateSecretFile file)
    let info ← Filing.labelled ["s3disk: stat sealed state"] (stat file)
    failIf (info.size < sealedStateHeaderBytes + 1) (corruptState "truncated sealed state")
    failIf (info.size > store.maximumFileBytes) store.tooLong
    let data ← Filing.labelled ["s3disk: read sealed state"] (readAll file (store.maximumFileBytes + 1))
    Filing.contextErr
    failIf (data.length > store.maximumFileBytes) store.tooLong
    let (header, revision, envelope) ← .ofExcept (parseSealedStateFile data store.maxEnvelopeBytes)
    let opened ← Filing.labelled ["s3disk: open sealed state envelope"]
      (protectorOpen (store.protectorBinding sha256 header) envelope)
    failIf (opened.length > store.maxEnvelopeBytes)
      (Sentinel.resourceLimit.tagged ["opened sealed state exceeds configured limit"])
    Filing.contextErr
    return (opened, revision)

/-- The errors of the read and of unlocking are joined; the gate inside the process is
part of waiting for the lock. -/
def load : Filing (Option (Bytes × Digest)) := do
  Filing.contextErr
  failIf (store.configured = false) notConfigured
  Filing.contextErr
  lockedSwap (settled (loadLocked sha256 store))

/-- Seal for a revision until the envelope has the length that its own header states. -/
def sealForRevision (revision : Digest) (plaintext : Bytes) : Nat → Nat → Filing (Bytes × Bytes)
  | 0, _ => throw (.plain ["s3disk: sealed state envelope length did not stabilize"])
  | attempts + 1, sealedLength => do
      Filing.contextErr
      let header := encodeSealedStatePrefix revision sealedLength
      let envelope ← Filing.labelled ["s3disk: seal state envelope"]
        (protectorSeal (store.protectorBinding sha256 header) plaintext)
      failIf (envelope.length < 1 ∨ envelope.length > store.maxEnvelopeBytes)
        (Sentinel.resourceLimit.tagged ["sealed state envelope exceeds configured limit"])
      if envelope.length ≠ sealedLength then
        sealForRevision revision plaintext attempts envelope.length
      else do
        let opened ← Filing.labelled ["s3disk: self-check sealed state envelope"]
          (protectorOpen (store.protectorBinding sha256 header) envelope)
        failIf (opened.length > store.maxEnvelopeBytes)
          (Sentinel.resourceLimit.tagged ["protector self-check plaintext exceeds configured limit"])
        failIf (opened ≠ plaintext) (.plain ["s3disk: sealed state protector self-check mismatch"])
        Filing.contextErr
        return (header, envelope)

def newFileSealedStateRevision : Nat → Option Digest → Filing Digest :=
  newRevision "s3disk: generate sealed state revision"

def validateInstalledSealedStateFile : Filing Unit := do
  let file ← Filing.labelled ["s3disk: open installed sealed state"] openPath
  let result ← (Filing.labelled ["s3disk: validate installed sealed state"]
    (validatePrivateSecretFile file)).attempt
  let _ ← (close file).attempt
  .ofExcept result

def prepareTemporary (file : Nat) (header envelope : Bytes) : Filing Unit := do
  fillTemporary "sealed state" (do
      Filing.labelled ["s3disk: protect sealed state temporary file"] (protectFile file)
      Filing.labelled ["s3disk: validate sealed state temporary file"] (validatePrivateSecretFile file))
    file [header, envelope]
  Filing.contextErr

def installCandidate (candidate : Digest) (header envelope : Bytes) :
    Filing (Digest × Option Err) := do
  let file ← Filing.labelled ["s3disk: create sealed state temporary file"]
    (createTemp ".s3disk-sealed-state-*")
  match ← (prepareTemporary file header envelope).attempt with
  | .error error => do
      let _ ← (remove file).attempt
      throw error
  | .ok () => do
      match ← (Filing.labelled ["s3disk: install sealed state"] (installFile file)).attempt with
      | .error error => do
          let _ ← (remove file).attempt
          return (candidate, some error)
      | .ok () => do
          match ← (do validateInstalledSealedStateFile; syncParentDirectory :
              Filing Unit).attempt with
          | .error error => return (candidate, some error)
          | .ok () => return (candidate, none)

def settleFound (current : Option (Bytes × Digest)) : Filing Unit :=
  if current.isSome then syncParentDirectory else pure ()

def swapLocked (draws : Nat) (expected : Option Digest) (next : Bytes) :
    Filing (Digest × Option Err) := do
  let current ← loadLocked sha256 store
  settleFound current
  failIf (current.map Prod.snd ≠ expected) Sentinel.precondition.error
  Filing.contextErr
  let candidate ← newFileSealedStateRevision draws (current.map Prod.snd)
  let (header, envelope) ←
    sealForRevision sha256 store candidate next sealedStateSealStabilizationLimit 1
  Filing.contextErr
  installCandidate candidate header envelope

def compareAndSwap (draws : Nat) (expected : Option Digest) (next : Bytes) :
    Filing (Digest × Option Err) := do
  Filing.contextErr
  failIf (store.configured = false) notConfigured
  failIf (next.length > store.maxEnvelopeBytes)
    (Sentinel.resourceLimit.tagged ["sealed state plaintext exceeds configured envelope limit"])
  Filing.contextErr
  lock
  let result ← (swapLocked sha256 store draws expected next).attempt
  let unlocked ← unlock
  match result with
  | .error error => throw (joinErrors (error :: unlocked.toList))
  | .ok (revision, failure) => match failure.toList ++ unlocked.toList with
      | [] => return (revision, none)
      | errors => return (revision, some (joinErrors errors))

end FileSealedStateStore

end S3Disk
