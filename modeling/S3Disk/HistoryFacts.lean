import S3Disk.History

/-! What holds of every log that the services allow and the publishers keep: one
line of publications at each reference key, and journals whose revisions name
their states. -/

namespace S3Disk

open Concurrent

variable {world : World} {log older later : Log} {event : LogEntry}

theorem versions_cons (event : LogEntry) (log : Log) (key : Key) :
    versions (event :: log) key = (storedObject key event.effect).toList ++ versions log key := by
  unfold versions
  cases found : storedObject key event.effect with
  | none => simp [found]
  | some object => simp [found]

theorem records_cons (event : LogEntry) (log : Log) (journal : Nat) (channel : Channel) :
    records (event :: log) journal channel =
      (recordedState journal channel event.effect).toList ++ records log journal channel := by
  unfold records
  cases found : recordedState journal channel event.effect with
  | none => simp [found]
  | some record => simp [found]

theorem storedObject_some {key : Key} {effect : Option Effect} {object : Object} :
    storedObject key effect = some object ↔ effect = some (.stored key object) := by
  unfold storedObject
  split
  · rename_i target found
    by_cases same : target = key
    · simp [same]
    · simp [same]
  · rename_i other
    constructor
    · simp
    · intro equal
      exact absurd equal (other key object)

theorem recordedState_some {journal : Nat} {channel : Channel} {effect : Option Effect}
    {state : PublicationJournalState} {revision : PublicationJournalRevision} :
    recordedState journal channel effect = some (state, revision) ↔
      effect = some (.recorded journal channel state revision) := by
  unfold recordedState
  split
  · rename_i target name found foundRevision
    by_cases same : target = journal ∧ name = channel
    · simp [same]
    · simp only [same, if_false, reduceCtorEq, Option.some.injEq, Effect.recorded.injEq, false_iff]
      tauto
  · rename_i other
    constructor
    · simp
    · intro equal
      exact absurd equal (other journal channel state revision)

theorem mem_versions_split {key : Key} {object : Object} (member : object ∈ versions log key) :
    ∃ event older, event :: older <:+ log ∧ event.effect = some (.stored key object) := by
  obtain ⟨event, inside, found⟩ := List.mem_filterMap.mp member
  obtain ⟨older, split⟩ := exists_split_of_mem inside
  exact ⟨event, older, split, storedObject_some.mp found⟩

theorem mem_records_split {journal : Nat} {channel : Channel} {state : PublicationJournalState}
    {revision : PublicationJournalRevision} (member : (state, revision) ∈ records log journal channel) :
    ∃ event older, event :: older <:+ log ∧
      event.effect = some (.recorded journal channel state revision) := by
  obtain ⟨event, inside, found⟩ := List.mem_filterMap.mp member
  obtain ⟨older, split⟩ := exists_split_of_mem inside
  exact ⟨event, older, split, recordedState_some.mp found⟩

theorem mem_versions_of_effect {key : Key} {object : Object} (inside : event ∈ log)
    (effect : event.effect = some (.stored key object)) : object ∈ versions log key :=
  List.mem_filterMap.mpr ⟨event, inside, storedObject_some.mpr effect⟩

def Request.writes : Request → Bool
  | .putIfAbsent _ _ => true
  | .compareAndSwap _ _ _ => true
  | .swapJournal _ _ _ _ => true
  | _ => false

theorem effect_none_of_read {client : Nat} {op : Request} {answer : Answer op}
    {effect : Option Effect} (reads : op.writes = false)
    (served : world.serves client log op answer effect) : effect = none := by
  cases op with
  | get key options =>
      cases answer with
      | error error => exact served
      | ok object => exact served.1
  | head key =>
      cases answer with
      | error error => exact served
      | ok version => exact served.1
  | loadJournal journal read channel =>
      cases answer with
      | error error => exact served
      | ok found => exact served.1
  | verify keyID message signature =>
      cases answer with
      | error error => exact served
      | ok accepted => exact served.1
  | putIfAbsent key data => cases reads
  | compareAndSwap key expected data => cases reads
  | swapJournal journal channel expected next => cases reads
  | _ => exact served

theorem serves_stored {client : Nat} {op : Request} {answer : Answer op} {key : Key}
    {object : Object} (served : world.serves client log op answer (some (.stored key object))) :
    ∃ expected, ETagIs log key expected ∧
      (∀ other ∈ versions log key, other.version.eTag = object.version.eTag →
        other.data = object.data) ∧
      (op = .putIfAbsent key object.data ∧ expected = none ∨
        op = .compareAndSwap key expected object.data) := by
  have ofWrites : ∀ {target expected data reported},
      StoreWrites log target expected data reported (some (.stored key object)) →
      target = key ∧ data = object.data ∧ ETagIs log key expected ∧
        ∀ other ∈ versions log key, other.version.eTag = object.version.eTag →
          other.data = object.data := by
    rintro target expected data reported (⟨none, _⟩ | ⟨version, stored, condition, distinct, _⟩)
    · cases none
    · cases stored
      exact ⟨rfl, rfl, condition, distinct⟩
  cases op with
  | putIfAbsent target data =>
      obtain ⟨rfl, rfl, condition, distinct⟩ := ofWrites served
      exact ⟨none, condition, distinct, .inl ⟨rfl, rfl⟩⟩
  | compareAndSwap target expected data =>
      obtain ⟨rfl, rfl, condition, distinct⟩ := ofWrites served
      exact ⟨expected, condition, distinct, .inr rfl⟩
  | swapJournal journal channel expected next =>
      rcases served with ⟨none, _⟩ | ⟨revision, recorded, _⟩
      · cases none
      · cases recorded
  | _ => cases effect_none_of_read rfl served

theorem serves_recorded {client : Nat} {op : Request} {answer : Answer op} {journal : Nat}
    {channel : Channel} {state : PublicationJournalState} {revision : PublicationJournalRevision}
    (served : world.serves client log op answer (some (.recorded journal channel state revision))) :
    ∃ expected, RevisionIs log journal channel expected ∧
      (∀ record ∈ records log journal channel, record.2 ≠ revision) ∧
      op = .swapJournal journal channel expected state := by
  cases op with
  | swapJournal target name expected next =>
      rcases served with ⟨none, _⟩ | ⟨found, recorded, condition, unused, _⟩
      · cases none
      · cases recorded
        exact ⟨expected, condition, unused, rfl⟩
  | putIfAbsent target data =>
      rcases served with ⟨none, _⟩ | ⟨version, stored, _⟩
      · cases none
      · cases stored
  | compareAndSwap target expected data =>
      rcases served with ⟨none, _⟩ | ⟨version, stored, _⟩
      · cases none
      · cases stored
  | _ => cases effect_none_of_read rfl served

theorem storesWell_of_mem (valid : Valid world.law log) {key : Key} {object : Object}
    (member : object ∈ versions log key) :
    ∃ older, older <:+ log ∧ StoresWell world.repository.wire older key object.data := by
  obtain ⟨event, older, split, effect⟩ := mem_versions_split member
  exact ⟨older, (List.suffix_cons _ _).trans split, (valid.kept split).stored key object effect⟩

theorem recordsWell_of_mem (valid : Valid world.law log) {journal : Nat} {channel : Channel}
    {state : PublicationJournalState} {revision : PublicationJournalRevision}
    (member : (state, revision) ∈ records log journal channel) :
    ∃ older agent, older <:+ log ∧ RecordsWell world older agent journal channel state := by
  obtain ⟨event, older, split, effect⟩ := mem_records_split member
  exact ⟨older, _, (List.suffix_cons _ _).trans split,
    (valid.kept split).recorded journal channel state revision effect⟩

theorem data_eq_of_eTag (valid : Valid world.law log) {key : Key} {left right : Object}
    (leftMember : left ∈ versions log key) (rightMember : right ∈ versions log key)
    (same : left.version.eTag = right.version.eTag) : left.data = right.data := by
  induction log with
  | nil => simp [versions] at leftMember
  | cons event older ih =>
      have olderValid : Valid world.law older := valid.suffix (List.suffix_cons _ _)
      rw [versions_cons] at leftMember rightMember
      cases found : storedObject key event.effect with
      | none =>
          rw [found] at leftMember rightMember
          exact ih olderValid (by simpa using leftMember) (by simpa using rightMember)
      | some object =>
          rw [found] at leftMember rightMember
          have served : world.serves event.client older event.op event.answer event.effect :=
            valid.served (List.suffix_refl _)
          rw [storedObject_some.mp found] at served
          obtain ⟨_, _, distinct, _⟩ := serves_stored served
          simp only [Option.toList_some, List.cons_append, List.nil_append, List.mem_cons]
            at leftMember rightMember
          rcases leftMember with rfl | leftOlder
          · rcases rightMember with rfl | rightOlder
            · rfl
            · exact (distinct right rightOlder same.symm).symm
          · rcases rightMember with rfl | rightOlder
            · exact distinct left leftOlder same
            · exact ih olderValid leftOlder rightOlder

theorem state_eq_of_revision (valid : Valid world.law log) {journal : Nat} {channel : Channel}
    {left right : PublicationJournalState} {revision : PublicationJournalRevision}
    (leftMember : (left, revision) ∈ records log journal channel)
    (rightMember : (right, revision) ∈ records log journal channel) : left = right := by
  induction log with
  | nil => simp [records] at leftMember
  | cons event older ih =>
      have olderValid : Valid world.law older := valid.suffix (List.suffix_cons _ _)
      rw [records_cons] at leftMember rightMember
      cases found : recordedState journal channel event.effect with
      | none =>
          rw [found] at leftMember rightMember
          exact ih olderValid (by simpa using leftMember) (by simpa using rightMember)
      | some record =>
          obtain ⟨state, recorded⟩ := record
          rw [found] at leftMember rightMember
          have served : world.serves event.client older event.op event.answer event.effect :=
            valid.served (List.suffix_refl _)
          rw [recordedState_some.mp found] at served
          obtain ⟨_, _, unused, _⟩ := serves_recorded served
          simp only [Option.toList_some, List.cons_append, List.nil_append, List.mem_cons,
            Prod.mk.injEq] at leftMember rightMember
          rcases leftMember with ⟨rfl, rfl⟩ | leftOlder
          · rcases rightMember with ⟨rfl, _⟩ | rightOlder
            · rfl
            · exact absurd rfl (unused _ rightOlder)
          · rcases rightMember with ⟨rfl, rfl⟩ | rightOlder
            · exact absurd rfl (unused _ leftOlder)
            · exact ih olderValid leftOlder rightOlder

def Key.IsReference : Key → Prop
  | .object _ _ => False
  | _ => True

theorem storesWell_reference {wire : Wire} {key : Key} (isReference : key.IsReference)
    {data : Bytes} (stored : StoresWell wire log key data) :
    ∃ point, pointOf wire key data = some point ∧
      Lineage.Grows (PointParent wire log) (PointRoot wire log) (points wire log key) point := by
  cases key with
  | object kind digest => exact isReference.elim
  | reference channel => exact stored
  | signedReference channel => exact stored

theorem points_linear (valid : Valid world.law log) {key : Key} (isReference : key.IsReference) :
    Each (Lineage.Grows (PointParent world.repository.wire log)
      (PointRoot world.repository.wire log)) (points world.repository.wire log key) := by
  induction log with
  | nil => trivial
  | cons event older ih =>
      have grown : older <:+ event :: older := List.suffix_cons _ _
      have lifted := (ih (valid.suffix grown)).mono (fun older entry _ step =>
        Lineage.Grows.mono (PointParent.mono grown) (PointRoot.mono grown) step)
      unfold points at lifted ⊢
      rw [versions_cons]
      cases found : storedObject key event.effect with
      | none => simpa [found] using lifted
      | some object =>
          have stored := (valid.kept (List.suffix_refl _)).stored key object
            (storedObject_some.mp found)
          obtain ⟨point, asserted, grows⟩ := storesWell_reference isReference stored
          simp only [Option.toList_some, List.cons_append, List.nil_append,
            List.filterMap_cons, asserted]
          exact ⟨grows.mono (PointParent.mono grown) (PointRoot.mono grown), lifted⟩

theorem point_of_mem (valid : Valid world.law log) {key : Key} (isReference : key.IsReference)
    {object : Object} (member : object ∈ versions log key) :
    ∃ point ∈ points world.repository.wire log key,
      pointOf world.repository.wire key object.data = some point := by
  obtain ⟨older, _, stored⟩ := storesWell_of_mem valid member
  obtain ⟨point, asserted, _⟩ := storesWell_reference isReference stored
  exact ⟨point, List.mem_filterMap.mpr ⟨object, member, asserted⟩, asserted⟩

end S3Disk
