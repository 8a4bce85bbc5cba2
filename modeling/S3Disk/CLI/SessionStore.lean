import S3Disk.CLI.Session

/-! Creating, loading and advancing a session on its sealed store. -/

namespace S3Disk.CLI

open Concurrent Share

structure PublisherSessionStore where
  shareID : ShareID
  recoveryKeyID : Bytes
  deriving DecidableEq, Repr

structure LoadedPublisherSession where
  state : PublisherSession
  revision : Digest
  authenticatedDigest : Digest
  deriving DecidableEq, Repr

def contextState : Sharing (Option Err) := .ask .contextErr fun answer => .done (.ok answer)

def sessionLoad : Sharing (Option (Bytes × Digest)) := .ask (.loadState .session) .done

def sessionSwap (expected : Option Digest) (next : Bytes) : Sharing (Digest × Option Err) :=
  .ask (.swapState .session expected next) fun answer => .done (.ok answer)

def sessionConflict : Err :=
  joinErrors [Sentinel.publisherSessionConflict.error, Sentinel.precondition.error]

def validatePublisherSessionStoreIdentity (store : PublisherSessionStore)
    (state : PublisherSession) : Except Err Unit := do
  failIf (store.shareID = .zero ∨ store.recoveryKeyID = [])
    (invalidSession "session store identity is incomplete")
  failIf (state.shareID ≠ ShareID.text store.shareID ∨ state.recoveryKeyID ≠ store.recoveryKeyID)
    (invalidSession "sealed state identity mismatch")

section

variable (platform : SessionPlatform)

def publisherSessionAuthenticatedDigest (revision : Digest) (encoded : Bytes) : Digest :=
  platform.sha256 (ascii "s3disk\x00cli\x00publisher-session-authenticated-revision\x00v1\x00" ++
    bigEndian64 revision.bytes.length ++ revision.bytes ++ bigEndian64 encoded.length ++ encoded)

def loadedSession (state : PublisherSession) (revision : Digest) (encoded : Bytes) :
    LoadedPublisherSession :=
  ⟨state, revision, publisherSessionAuthenticatedDigest platform revision encoded⟩

def requireActive (value : PublisherSession) (now : Time) : Sharing Capability := do
  .ofExcept (validatePublisherSession platform value)
  failIf (now = zeroTime ∨ now < value.createdAt.instant)
    (invalidSession "local clock precedes session creation")
  failIf (value.authorizationExpiresAt.instant ≤ now) Sentinel.publisherSessionExpired.error
  let parsed ← (parseBearer platform.toPlatform value.rootBearer value.allowInsecureEndpoint).attempt
  match parsed with
  | .error _ => throw (invalidSession "root bearer does not match the fixed authorization")
  | .ok capability => do
      failIf (capability.expiresAt ≠ value.authorizationExpiresAt.instant)
        (invalidSession "root bearer does not match the fixed authorization")
      failIf ((exportBearer platform.toPlatform capability).toOption ≠ some value.rootBearer)
        (invalidSession "root bearer is not canonical")
      return capability

def publisherSessionPostWriteCheck (state : PublisherSession) : Sharing Unit := do
  Share.contextErr
  let time ← Share.now
  failIf (state.authorizationExpiresAt.instant ≤ time) Sentinel.publisherSessionExpired.error

def unsettledWrite (writeErr : Err) : Sharing LoadedPublisherSession := do
  let canceled ← contextState
  throw (joinErrors ([Sentinel.publisherSessionIndeterminate.error, writeErr] ++ canceled.toList))

def AppliedAs (candidate : Digest) (desiredBytes : Bytes)
    (loaded : Except Err (Option (Bytes × Digest))) : Bool :=
  match loaded with
  | .ok (some (observed, revision)) =>
      !candidate.isZero && revision == candidate && observed == desiredBytes
  | _ => false

def reconcilePublisherSessionWrite (desired : PublisherSession) (desiredBytes : Bytes)
    (candidate : Digest) (writeErr : Err) : Sharing LoadedPublisherSession := do
  let canceled ← contextState
  if canceled = none then do
    let loaded ← sessionLoad.attempt
    if AppliedAs candidate desiredBytes loaded then do
      publisherSessionPostWriteCheck desired
      return loadedSession platform desired candidate desiredBytes
    else if writeErr.is .precondition then throw sessionConflict
    else match loaded with
      | .error loadErr =>
          throw (joinErrors [Sentinel.publisherSessionIndeterminate.error, writeErr, loadErr])
      | .ok _ => unsettledWrite writeErr
  else if writeErr.is .precondition then throw sessionConflict
  else unsettledWrite writeErr

def writeSession (expected : Option Digest) (state : PublisherSession) (encoded : Bytes) :
    Sharing LoadedPublisherSession := do
  let (revision, casErr) ← sessionSwap expected encoded
  match casErr with
  | none => do
      failIf revision.isZero
        (Sentinel.publisherSessionIndeterminate.tagged ["session store returned a zero revision"])
      publisherSessionPostWriteCheck state
      return loadedSession platform state revision encoded
  | some error => reconcilePublisherSessionWrite platform state encoded revision error

def createPublisherSession (store : PublisherSessionStore) (state : PublisherSession) (now : Time) :
    Sharing LoadedPublisherSession := do
  Share.contextErr
  .ofExcept (validatePublisherSessionStoreIdentity store state)
  let _ ← requireActive platform state now
  let encoded ← .ofExcept (encodePublisherSession platform state)
  writeSession platform none state encoded

def loadPublisherSession (store : PublisherSessionStore) (now : Time) :
    Sharing (Option LoadedPublisherSession) := do
  Share.contextErr
  let loaded ← sessionLoad.attempt
  match loaded with
  | .error error => throw (Sentinel.invalidPublisherSession.wraps (.within ["load sealed state"] error))
  | .ok found => do
      Share.contextErr
      match found with
      | none => return none
      | some (encoded, revision) => do
          failIf revision.isZero (invalidSession "present state has a zero revision")
          let state ← .ofExcept (decodePublisherSession platform encoded)
          .ofExcept (validatePublisherSessionStoreIdentity store state)
          let _ ← requireActive platform state now
          return some (loadedSession platform state revision encoded)

def advancePublisherSession (store : PublisherSessionStore) (current : LoadedPublisherSession)
    (phase : PublisherSessionPhase) (checkpoint : Option HandoffCheckpoint)
    (handoffDigest : Digest) (now : Time) : Sharing LoadedPublisherSession := do
  Share.contextErr
  failIf (current.revision.isZero ∨ current.authenticatedDigest.isZero)
    (invalidSession "current authenticated revision is absent")
  .ofExcept (validatePublisherSessionStoreIdentity store current.state)
  let currentBytes ← .ofExcept (encodePublisherSession platform current.state)
  failIf (publisherSessionAuthenticatedDigest platform current.revision currentBytes ≠
      current.authenticatedDigest)
    (invalidSession "current state does not match its authenticated revision")
  let next ← .ofExcept (nextPublisherSession platform current.state phase checkpoint handoffDigest)
  let _ ← requireActive platform next now
  let encoded ← .ofExcept (encodePublisherSession platform next)
  writeSession platform (some current.revision) next encoded

end

end S3Disk.CLI
