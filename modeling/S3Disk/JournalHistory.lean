import S3Disk.Disturbance

/-! The history of a journal: how the committed watermark moves from one recorded
state to a later one, and what became of an intent that was once pending. -/

namespace S3Disk

open Concurrent Relation

theorem validatePublicationIntentReference_ok {wire : Wire} {repositoryID : RepositoryID}
    {channel : Channel} {next : Watermark} {reference : Bytes}
    (checked : validatePublicationIntentReference wire repositoryID channel next reference = .ok ()) :
    ∃ envelope, decodeJSON wire.envelope reference = .ok envelope ∧
      envelope.reference.repositoryID = repositoryID ∧
      envelope.reference.generation = next.generation ∧ envelope.reference.commit = next.commit := by
  unfold validatePublicationIntentReference at checked
  split at checked
  · cases checked
  · rename_i envelope decoded
    dsimp only at checked
    split at checked
    · cases checked
    · rename_i mismatch
      simp only [not_or, not_not] at mismatch
      exact ⟨envelope, decoded, mismatch.2.2.1, mismatch.2.2.2.2.1, mismatch.2.2.2.2.2.1⟩

namespace IntentValid

variable {wire : Wire} {repositoryID : RepositoryID} {channel : Channel}
  {intent : PublicationIntent} (valid : IntentValid wire repositoryID channel intent)
include valid

theorem nextOwn : intent.next.repositoryID = repositoryID :=
  (validatePublicationJournalWatermark_ok.mp valid.next).1

theorem asserted : signedWatermark wire intent.reference = some intent.next := by
  obtain ⟨envelope, decoded, repository, generation, commit⟩ :=
    validatePublicationIntentReference_ok valid.reference
  simp [signedWatermark, decoded, Except.toOption, repository, generation, commit, ← valid.nextOwn]

theorem first (kind : intent.kind = .publish) (base : intent.base = none) :
    intent.next.generation = 1 := by
  have advance := valid.advance
  simpa [validateIntentAdvance, kind, base] using advance

theorem successor {before : Watermark} (kind : intent.kind = .publish)
    (base : intent.base = some before) : intent.next.generation = before.generation + 1 := by
  have advance := valid.advance
  simp only [validateIntentAdvance, kind, base, ite_eq_right_iff, reduceCtorEq, imp_false, not_or,
    ne_eq, not_not] at advance
  exact advance.2

theorem resigned (kind : intent.kind = .resign) : intent.base = some intent.next := by
  have advance := valid.advance
  cases base : intent.base with
  | none => simp [validateIntentAdvance, kind, base] at advance
  | some before =>
      have same : intent.next = before := by simpa [validateIntentAdvance, kind, base] using advance
      rw [same]

end IntentValid

/-- How a committed watermark develops: it stays, or it becomes a watermark that was
visible and descends from what it was. -/
def Follows (wire : Wire) (log : Log) (channel : Channel) (before after : Option Watermark) :
    Prop :=
  after = before ∨ ∃ next, after = some next ∧ Visible wire log channel next ∧
    ∀ watermark ∈ before, Descends wire log next watermark

section

variable {wire : Wire} {world : World} {log later : Log} {channel : Channel}

theorem Descends.trans {newest middle oldest : Watermark} (first : Descends wire log newest middle)
    (second : Descends wire log middle oldest) : Descends wire log newest oldest :=
  ⟨second.1.trans first.1, first.2.trans second.2⟩

theorem Follows.mono {before after : Option Watermark} (follows : Follows wire log channel before after)
    (grown : log <:+ later) : Follows wire later channel before after := by
  rcases follows with same | ⟨next, found, visible, descends⟩
  · exact .inl same
  · exact .inr ⟨next, found, visible.mono grown, fun watermark member =>
      (descends watermark member).mono grown⟩

theorem Follows.trans {first second third : Option Watermark}
    (left : Follows wire log channel first second) (right : Follows wire log channel second third) :
    Follows wire log channel first third := by
  rcases right with rfl | ⟨next, found, visible, descends⟩
  · exact left
  · rcases left with rfl | ⟨middle, rfl, _, descends'⟩
    · exact .inr ⟨next, found, visible, descends⟩
    · refine .inr ⟨next, found, visible, ?_⟩
      intro watermark member
      exact (descends middle rfl).trans (descends' watermark member)

theorem follows_of_advances {before : Option Watermark} {next : Watermark}
    (visible : Visible wire log channel next) (advances : Advances wire log before next) :
    Follows wire log channel before (some next) := by
  cases before with
  | none => exact .inr ⟨next, rfl, visible, by simp⟩
  | some watermark =>
      rcases advances watermark rfl with same | descends
      · exact .inl (by rw [same])
      · refine .inr ⟨next, rfl, visible, ?_⟩
        rintro found ⟨⟩
        exact descends

theorem Move.follows {agent : Nat × PublisherCall} {trust : Trust}
    {before after : PublicationJournalState}
    (move : Move world log agent trust channel (some before) after) :
    Follows world.repository.wire log channel before.committed after.committed := by
  cases move with
  | adopt idle visible advances => exact follows_of_advances visible advances
  | begin idle begun => exact .inl rfl
  | refresh pending => exact .inl rfl
  | finalize pending visible advances settles => exact follows_of_advances visible advances

theorem Follows.generation_le {before after : Option Watermark}
    (follows : Follows wire log channel before after) {watermark : Watermark}
    (member : watermark ∈ before) : ∃ next ∈ after, watermark.generation ≤ next.generation := by
  rcases follows with rfl | ⟨next, rfl, _, descends⟩
  · exact ⟨watermark, member, Nat.le_refl _⟩
  · exact ⟨next, rfl, (descends watermark member).1.le⟩

theorem Follows.visible {before : Option Watermark} {next : Watermark}
    (follows : Follows wire log channel before (some next))
    (moved : before ≠ some next) : Visible wire log channel next := by
  rcases follows with same | ⟨found, same, visible, _⟩
  · exact absurd same.symm moved
  · cases same
    exact visible

theorem recorded_step {event : LogEntry} (valid : Valid world.law (event :: log)) {journal : Nat}
    {state : PublicationJournalState} {revision : PublicationJournalRevision}
    (recorded : event.effect = some (.recorded journal channel state revision)) :
    RecordsWell world log (event.client, event.call) journal channel state :=
  (valid.kept (List.suffix_refl _)).recorded journal channel state revision recorded

theorem newest_of_recorded {journal : Nat} {start : PublicationJournalState}
    {revision : PublicationJournalRevision} (relation : Log → PublicationJournalState → Prop)
    (mono : ∀ log later state, log <:+ later → relation log state → relation later state)
    (enter : ∀ log, relation log start)
    (step : ∀ log agent trust before after, Valid world.law log →
      StateValid world.repository.wire before → StateValid world.repository.wire after →
      Move world log agent trust channel (some before) after → relation log before →
      relation log after)
    (valid : Valid world.law log) (member : (start, revision) ∈ records log journal channel)
    {newest : PublicationJournalState × PublicationJournalRevision}
    (head : (records log journal channel).head? = some newest) : relation log newest.1 := by
  induction log generalizing newest with
  | nil => simp [records] at member
  | cons event older ih =>
      have grown : older <:+ event :: older := List.suffix_cons _ _
      rw [records_cons] at member head
      cases found : recordedState journal channel event.effect with
      | none =>
          rw [found] at member head
          exact mono _ _ _ grown (ih (valid.suffix grown) (by simpa using member)
            (by simpa using head))
      | some record =>
          obtain ⟨state, recordedRevision⟩ := record
          rw [found] at member head
          have isHead : (state, recordedRevision) = newest := by simpa using head
          subst isHead
          simp only [Option.toList_some, List.cons_append, List.nil_append, List.mem_cons,
            Prod.mk.injEq] at member
          rcases member with ⟨rfl, _⟩ | earlier
          · exact enter _
          · obtain ⟨trust, _, _, _, _, stateValid, move⟩ :=
              recorded_step valid (recordedState_some.mp found)
            cases previous : (records older journal channel).head? with
            | none => simp [List.head?_eq_none_iff.mp previous] at earlier
            | some before =>
                have kept := ih (valid.suffix grown) earlier previous
                rw [previous] at move
                obtain ⟨_, _, _, beforeWell⟩ := recordsWell_of_mem (valid.suffix grown)
                  (List.mem_of_mem_head? previous)
                obtain ⟨_, _, _, _, _, beforeValid, _⟩ := beforeWell
                exact mono _ _ _ grown (step older _ trust before.1 state (valid.suffix grown)
                  beforeValid stateValid move kept)

theorem follows_of_mem (valid : Valid world.law log) {journal : Nat}
    {state : PublicationJournalState} {revision : PublicationJournalRevision}
    (member : (state, revision) ∈ records log journal channel)
    {newest : PublicationJournalState × PublicationJournalRevision}
    (head : (records log journal channel).head? = some newest) :
    Follows world.repository.wire log channel state.committed newest.1.committed := by
  refine newest_of_recorded (fun log newer =>
    Follows world.repository.wire log channel state.committed newer.committed)
    ?_ ?_ ?_ valid member head
  · intro log later newer grown follows
    exact follows.mono grown
  · intro log
    exact .inl rfl
  · intro log agent trust before after _ _ _ move follows
    exact follows.trans move.follows

theorem Settles.generation_le {repositoryID : RepositoryID} {name : Channel} {client : Nat}
    {intent : PublicationIntent} {committed : Watermark}
    (intentValid : IntentValid world.repository.wire repositoryID name intent)
    (nonzero : committed.generation ≠ 0)
    (settles : Settles world log client channel intent committed) :
    intent.next.generation ≤ committed.generation := by
  rcases settles with ⟨rfl, _⟩ | ⟨data, _, shows⟩
  · exact Nat.le_refl _
  · unfold Shows at shows
    split at shows
    · rename_i publish
      rcases shows with rfl | descends | wins
      · exact Nat.le_refl _
      · exact descends.1.le
      · cases base : intent.base with
        | none =>
            have first := intentValid.first publish base
            omega
        | some before =>
            rw [base] at wins
            have above := wins.1
            have successor := intentValid.successor publish base
            omega
    · rcases shows with ⟨rfl, _⟩ | descends
      · exact Nat.le_refl _
      · exact descends.1.le

theorem pending_or_settled (valid : Valid world.law log) {journal : Nat}
    {state : PublicationJournalState} {revision : PublicationJournalRevision}
    (member : (state, revision) ∈ records log journal channel) {intent : PublicationIntent}
    (pending : state.pending = some intent)
    {newest : PublicationJournalState × PublicationJournalRevision}
    (head : (records log journal channel).head? = some newest) :
    (∃ current, newest.1.pending = some current ∧
      equalPublicationIntentSemantics intent current = true) ∨
    ∃ committed ∈ newest.1.committed, intent.next.generation ≤ committed.generation := by
  refine newest_of_recorded (fun _ newer =>
    (∃ current, newer.pending = some current ∧
      equalPublicationIntentSemantics intent current = true) ∨
    ∃ committed ∈ newer.committed, intent.next.generation ≤ committed.generation)
    ?_ ?_ ?_ valid member head
  · intro _ _ _ _ holds
    exact holds
  · intro _
    exact .inl ⟨intent, pending, equalPublicationIntentSemantics_refl intent⟩
  · intro log agent trust before after _ beforeValid afterValid move holds
    rcases holds with ⟨current, found, same⟩ | ⟨committed, found, above⟩
    · have sameNext := (equalPublicationIntentSemantics_iff.mp same).2.2.2.1
      cases move with
      | adopt idle visible advances => simp [idle] at found
      | begin idle begun => simp [idle] at found
      | refresh owned =>
          obtain rfl : _ = current := by simpa [owned] using found
          exact .inl ⟨_, rfl, same⟩
      | @finalize _ owner committed owned visible advances settles =>
          obtain rfl : owner = current := by simpa [owned] using found
          have nonzero := validatePublicationJournalWatermark_ok.mp
            (afterValid.committed committed rfl)
          refine .inr ⟨committed, rfl, ?_⟩
          rw [sameNext]
          exact settles.generation_le (beforeValid.pending owner owned).1 nonzero.2.1
    · obtain ⟨next, found', higher⟩ := move.follows.generation_le found
      exact .inr ⟨next, found', above.trans higher⟩

end

end S3Disk
