import S3Disk.Library.Checks
import S3Disk.Repository

/-! The publication journal's state: which states and which transitions are
accepted, and when two pending intents are the same operation. -/

namespace S3Disk

open Concurrent

def publicationJournalFormatVersion : Int := 1

def publicationIntentID (wire : Wire) (repositoryID : RepositoryID) (channel : Channel)
    (kind : PublicationIntentKind) (base : Option Watermark) (next : Watermark)
    (reference : Bytes) : Digest :=
  wire.digestObject .publicationIntent (wire.intentIdentity.marshal
    { format := publicationJournalFormatVersion, repositoryID, channel, kind, base, next,
      reference })

def validatePublicationIntentID (wire : Wire) (repositoryID : RepositoryID) (channel : Channel)
    (intent : PublicationIntent) : Except Err Unit :=
  let want := publicationIntentID wire repositoryID channel intent.kind intent.base intent.next
    intent.reference
  if intent.intentID.isZero ∨ intent.intentID ≠ want then
    .error (Sentinel.corruptObject.tagged ["invalid publication intent ID"])
  else .ok ()

def publicationReferenceDigest (wire : Wire) (reference : Bytes) : Digest :=
  if reference = [] then .zero else wire.digestObject .publicationReference reference

def validatePublicationJournalWatermark (repositoryID : RepositoryID) (watermark : Watermark) :
    Except Err Unit :=
  if watermark.repositoryID ≠ repositoryID ∨ watermark.generation = 0 ∨ watermark.commit.isZero then
    .error (Sentinel.corruptObject.tagged ["invalid publication journal watermark"])
  else .ok ()

def validatePublicationIntentReference (wire : Wire) (repositoryID : RepositoryID)
    (channel : Channel) (next : Watermark) (reference : Bytes) : Except Err Unit :=
  match decodeJSON wire.envelope reference with
  | .error error => .error (Sentinel.corruptObject.tagged
      ("invalid journal target reference: " :: error.message))
  | .ok envelope =>
      let payload := envelope.reference
      if envelope.format ≠ objectFormatVersion ∨ payload.format ≠ objectFormatVersion ∨
          payload.repositoryID ≠ repositoryID ∨ payload.channel ≠ channel ∨
          payload.generation ≠ next.generation ∨ payload.commit ≠ next.commit ∨
          envelope.signature = [] ∨ envelope.signature.length > maxReferenceSignatureSize then
        .error (Sentinel.corruptObject.tagged
          ["journal target reference does not match its intent"])
      else match validateReferenceKeyID payload.keyID with
        | .error _ => .error (Sentinel.corruptObject.tagged ["invalid journal target key ID"])
        | .ok () => .ok ()

def validateExpectedReference (repositoryID : RepositoryID) (intent : PublicationIntent) :
    Except Err Unit :=
  match intent.base with
  | some base => do
      validatePublicationJournalWatermark repositoryID base
      failIf (intent.expectedVersion.isNone ∨ intent.expectedReference.isZero)
        (Sentinel.corruptObject.tagged
          ["publication intent with a base lacks its expected reference"])
  | none =>
      if intent.expectedVersion.isSome ∨ ¬intent.expectedReference.isZero then
        .error (Sentinel.corruptObject.tagged
          ["first publication has an unexpected prior reference"])
      else .ok ()

def validateExpectedVersion (intent : PublicationIntent) : Except Err Unit :=
  match intent.expectedVersion with
  | none => .ok ()
  | some version =>
      if version.eTag = [] ∨ version.eTag.length > maxStoreVersionTokenBytes ∨
          version.versionID.length > maxStoreVersionTokenBytes then
        .error (Sentinel.corruptObject.tagged ["invalid publication intent expected version"])
      else .ok ()

def validateIntentAdvance (intent : PublicationIntent) : Except Err Unit :=
  match intent.kind, intent.base with
  | .publish, none =>
      if intent.next.generation ≠ 1 then
        .error (Sentinel.corruptObject.tagged ["first publication is not generation one"])
      else .ok ()
  | .publish, some base =>
      if base.generation = maxUint64 ∨ intent.next.generation ≠ base.generation + 1 then
        .error (Sentinel.corruptObject.tagged
          ["publication intent does not advance exactly one generation"])
      else .ok ()
  | .resign, none =>
      .error (Sentinel.corruptObject.tagged ["resign intent changes the committed watermark"])
  | .resign, some base =>
      if intent.next ≠ base then
        .error (Sentinel.corruptObject.tagged ["resign intent changes the committed watermark"])
      else .ok ()

def validatePublicationJournalIntent (wire : Wire) (repositoryID : RepositoryID)
    (channel : Channel) (intent : PublicationIntent) : Except Err Unit := do
  validatePublicationJournalWatermark repositoryID intent.next
  validateExpectedReference repositoryID intent
  validateExpectedVersion intent
  validateIntentAdvance intent
  failIf (intent.reference = [] ∨ intent.reference.length > maxReferenceBytes)
    (Sentinel.resourceLimit.tagged ["invalid publication intent reference size"])
  validatePublicationIntentReference wire repositoryID channel intent.next intent.reference
  validatePublicationIntentID wire repositoryID channel intent

def validatePendingBase (state : PublicationJournalState) (pending : PublicationIntent) :
    Except Err Unit :=
  match state.committed with
  | none =>
      if pending.base.isSome then
        .error (Sentinel.corruptObject.tagged
          ["pending publication has a base without a committed watermark"])
      else .ok ()
  | some committed =>
      if pending.base ≠ some committed then
        .error (Sentinel.corruptObject.tagged
          ["pending publication base does not equal committed watermark"])
      else .ok ()

def validatePublicationJournalState (wire : Wire) (state : PublicationJournalState) :
    Except Err Unit := do
  failIf state.repositoryID.isZero
    (Sentinel.corruptObject.tagged ["zero publication journal repository ID"])
  (validateChannel state.channel).mapError fun error => Sentinel.corruptObject.tagged
    ("invalid publication journal channel: " :: error.message)
  state.committed.forM (validatePublicationJournalWatermark state.repositoryID)
  state.pending.forM fun pending => do
    validatePublicationJournalIntent wire state.repositoryID state.channel pending
    validatePendingBase state pending

def equalPublicationIntentSemantics (left right : PublicationIntent) : Bool :=
  left.intentID == right.intentID && left.kind == right.kind && left.base == right.base &&
    left.next == right.next && left.reference == right.reference

def equalPublicationIntents (left right : PublicationIntent) : Bool :=
  left.intentID == right.intentID && left.kind == right.kind && left.base == right.base &&
    left.next == right.next && left.expectedVersion == right.expectedVersion &&
    left.expectedReference == right.expectedReference && left.reference == right.reference

def validateCommittedTransition (before : Watermark) : Option Watermark → Except Err Unit
  | none => .error Sentinel.rollbackDetected.error
  | some after =>
      if after.generation < before.generation then .error Sentinel.rollbackDetected.error
      else if after.generation = before.generation ∧ after.commit ≠ before.commit then
        .error Sentinel.splitBrain.error
      else .ok ()

def validatePublicationJournalTransition (current next : PublicationJournalState) :
    Except Err Unit := do
  failIf (current.repositoryID ≠ next.repositoryID)
    (Sentinel.untrustedReference.tagged ["publication journal repository changed"])
  failIf (current.channel ≠ next.channel)
    (Sentinel.corruptObject.tagged ["publication journal channel changed"])
  current.committed.forM (validateCommittedTransition · next.committed)
  failIf (∃ before ∈ current.pending, ∃ after ∈ next.pending,
      current.committed ≠ next.committed ∨ equalPublicationIntentSemantics before after = false)
    (Sentinel.precondition.tagged ["pending publication semantics changed before resolution"])

end S3Disk
