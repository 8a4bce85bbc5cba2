import S3Disk.Journal

/-! What the journal's checks establish. -/

namespace S3Disk

open Concurrent

theorem validatePublicationJournalWatermark_ok {repositoryID : RepositoryID}
    {watermark : Watermark} :
    validatePublicationJournalWatermark repositoryID watermark = .ok () ↔
      watermark.repositoryID = repositoryID ∧ watermark.generation ≠ 0 ∧
        watermark.commit.isZero = false := by
  unfold validatePublicationJournalWatermark
  simp

structure IntentValid (wire : Wire) (repositoryID : RepositoryID) (channel : Channel)
    (intent : PublicationIntent) : Prop where
  next : validatePublicationJournalWatermark repositoryID intent.next = .ok ()
  expectedReference : validateExpectedReference repositoryID intent = .ok ()
  expectedVersion : validateExpectedVersion intent = .ok ()
  advance : validateIntentAdvance intent = .ok ()
  size : ¬(intent.reference = [] ∨ intent.reference.length > maxReferenceBytes)
  reference : validatePublicationIntentReference wire repositoryID channel intent.next
    intent.reference = .ok ()
  intentID : validatePublicationIntentID wire repositoryID channel intent = .ok ()

theorem validatePublicationJournalIntent_ok {wire : Wire} {repositoryID : RepositoryID}
    {channel : Channel} {intent : PublicationIntent} :
    validatePublicationJournalIntent wire repositoryID channel intent = .ok () ↔
      IntentValid wire repositoryID channel intent := by
  unfold validatePublicationJournalIntent
  simp only [bind_ok, failIf_ok]
  constructor
  · rintro ⟨_, next, _, expectedReference, _, expectedVersion, _, advance, _, size, _, reference,
      intentID⟩
    exact ⟨next, expectedReference, expectedVersion, advance, size, reference, intentID⟩
  · rintro ⟨next, expectedReference, expectedVersion, advance, size, reference, intentID⟩
    exact ⟨_, next, _, expectedReference, _, expectedVersion, _, advance, (), size, _, reference,
      intentID⟩

theorem equalPublicationIntentSemantics_iff {left right : PublicationIntent} :
    equalPublicationIntentSemantics left right = true ↔ left.intentID = right.intentID ∧
      left.kind = right.kind ∧ left.base = right.base ∧ left.next = right.next ∧
        left.reference = right.reference := by
  simp [equalPublicationIntentSemantics, and_assoc]

theorem equalPublicationIntentSemantics_refl (intent : PublicationIntent) :
    equalPublicationIntentSemantics intent intent = true := by
  simp [equalPublicationIntentSemantics_iff]

theorem equalPublicationIntentSemantics_trans {first second third : PublicationIntent}
    (left : equalPublicationIntentSemantics first second = true)
    (right : equalPublicationIntentSemantics second third = true) :
    equalPublicationIntentSemantics first third = true := by
  rw [equalPublicationIntentSemantics_iff] at *
  obtain ⟨id, kind, base, next, reference⟩ := left
  rw [id, kind, base, next, reference]
  exact right

theorem equalPublicationIntents_iff {left right : PublicationIntent} :
    equalPublicationIntents left right = true ↔ left = right := by
  cases left
  cases right
  simp [equalPublicationIntents, and_assoc]

structure StateValid (wire : Wire) (state : PublicationJournalState) : Prop where
  repositoryID : state.repositoryID.isZero = false
  channel : validateChannel state.channel = .ok ()
  committed : ∀ committed ∈ state.committed,
    validatePublicationJournalWatermark state.repositoryID committed = .ok ()
  pending : ∀ pending ∈ state.pending,
    IntentValid wire state.repositoryID state.channel pending ∧ pending.base = state.committed

theorem validatePendingBase_ok {state : PublicationJournalState} {pending : PublicationIntent} :
    validatePendingBase state pending = .ok () ↔ pending.base = state.committed := by
  unfold validatePendingBase
  cases committed : state.committed with
  | none => simp
  | some watermark => simp

theorem validatePublicationJournalState_ok {wire : Wire} {state : PublicationJournalState} :
    validatePublicationJournalState wire state = .ok () ↔ StateValid wire state := by
  unfold validatePublicationJournalState
  simp only [bind_ok, failIf_ok, mapError_ok, forM_ok, validatePendingBase_ok]
  constructor
  · rintro ⟨_, repositoryID, _, channel, _, committed, pending⟩
    refine ⟨by simpa using repositoryID, channel, committed, ?_⟩
    intro found member
    obtain ⟨_, valid, base⟩ := pending found member
    exact ⟨validatePublicationJournalIntent_ok.mp valid, base⟩
  · rintro ⟨repositoryID, channel, committed, pending⟩
    refine ⟨(), by simpa using repositoryID, _, channel, (), committed, ?_⟩
    intro found member
    exact ⟨(), validatePublicationJournalIntent_ok.mpr (pending found member).1,
      (pending found member).2⟩

end S3Disk
