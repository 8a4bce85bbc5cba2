import S3Disk.Library.Checks
import S3Disk.CLI.Session

/-! What a valid session is like: its texts can be written as JSON and read back, its
evidence matches its phase, and the next session differs in its phase and evidence only. -/

namespace S3Disk.CLI

open Concurrent Share

def PublisherSession.texts (value : PublisherSession) : List Bytes :=
  [value.profile, value.shareID, value.repositoryID, value.recoveryKeyID, value.bucket,
    value.keyPrefix, value.region, value.endpoint, value.expectedBucketOwner,
    value.repositoryPrefix, value.channel, value.referenceKey, value.referenceKeyID,
    value.rootKey, value.clientEncryptionKey, value.handoffDigest] ++
    (value.trustedCheckpoint.map HandoffCheckpoint.commit).toList

/-- A value that JSON can carry: text in UTF-8, times in UTC without a monotonic reading. -/
structure PublisherSession.Representable (value : PublisherSession) : Prop where
  phase : value.phase.rank ≠ none
  times : ∀ time ∈ [value.createdAt, value.authorizationExpiresAt],
    time.utc = true ∧ time.monotonic = false
  texts : ∀ text ∈ value.texts, validUTF8 text = true

def SessionPlatform.ReadsBack (platform : SessionPlatform) : Prop :=
  ∀ value data, value.Representable → platform.session.marshal value = some data →
    data ≠ [] ∧ platform.session.decode (data ++ [10]) = some (value, false)

theorem orFail_ok {α : Type} {found : Option α} {reason : String} {value : α} :
    orFail found reason = .ok value ↔ found = some value := by
  cases found with
  | none => simp [orFail]
  | some present => simp [orFail]

theorem base64Value_ascii {character : UInt8} {value : Nat}
    (found : base64Value character = some value) : character < 0x80 := by
  unfold base64Value at found
  split at found
  · rename_i range
    exact UInt8.lt_of_le_of_lt range.2 (by decide)
  split at found
  · rename_i range
    exact UInt8.lt_of_le_of_lt range.2 (by decide)
  split at found
  · rename_i range
    exact UInt8.lt_of_le_of_lt range.2 (by decide)
  split at found
  · rename_i dash
    exact dash ▸ by decide
  split at found
  · rename_i underscore
    exact underscore ▸ by decide
  · cases found

theorem mem_of_mapM {α β : Type} {parse : α → Option β} {values : List α} {results : List β}
    (parsed : values.mapM parse = some results) {value : α} (member : value ∈ values) :
    ∃ result, parse value = some result := by
  induction values generalizing results with
  | nil => simp at member
  | cons first rest ih =>
      simp only [List.mapM_cons, Option.bind_eq_bind, Option.bind_eq_some_iff] at parsed
      obtain ⟨head, firstParsed, tail, restParsed, _⟩ := parsed
      rcases List.mem_cons.mp member with rfl | later
      · exact ⟨head, firstParsed⟩
      · exact ih restParsed later

theorem validUTF8_of_base64 {text decoded : Bytes} (found : base64RawURLDecode text = some decoded) :
    validUTF8 text = true := by
  refine validUTF8_of_ascii fun character member => ?_
  simp only [base64RawURLDecode, Option.bind_eq_bind, Option.bind_eq_some_iff] at found
  obtain ⟨sextets, parsed, _⟩ := found
  by_cases lineEnd : character = 13 ∨ character = 10
  · rcases lineEnd with rfl | rfl
    · decide
    · decide
  · have kept : character ∈ text.filter fun character => character != 13 && character != 10 := by
      simpa [member] using lineEnd
    obtain ⟨value, valued⟩ := mem_of_mapM parsed kept
    exact base64Value_ascii valued

theorem hexValue_ascii {character value : UInt8} (found : hexValue character = some value) :
    character < 0x80 := by
  unfold hexValue at found
  split at found
  · rename_i range
    exact UInt8.lt_of_le_of_lt range.2 (by decide)
  split at found
  · rename_i range
    exact UInt8.lt_of_le_of_lt range.2 (by decide)
  split at found
  · rename_i range
    exact UInt8.lt_of_le_of_lt range.2 (by decide)
  · cases found

theorem ascii_of_hexDecode {text decoded : Bytes} (found : hexDecode text = some decoded) :
    ∀ character ∈ text, character < 0x80 := by
  induction text using TextEncoding.hexDecode.induct generalizing decoded with
  | case1 => simp
  | case2 character => simp [hexDecode] at found
  | case3 high low rest ih =>
      simp only [hexDecode, Option.bind_eq_bind, Option.bind_eq_some_iff] at found
      obtain ⟨upper, highFound, lower, lowFound, bytes, restFound, _⟩ := found
      intro character member
      rcases List.mem_cons.mp member with rfl | member
      · exact hexValue_ascii highFound
      · rcases List.mem_cons.mp member with rfl | member
        · exact hexValue_ascii lowFound
        · exact ih restFound character member

theorem validUTF8_of_hex {text decoded : Bytes} (found : hexDecode text = some decoded) :
    validUTF8 text = true := validUTF8_of_ascii (ascii_of_hexDecode found)

theorem validUTF8_of_digest {text : Bytes} {digest : Digest} (found : parseDigest text = some digest) :
    validUTF8 text = true := by
  simp only [parseDigest, Option.bind_eq_bind, Option.bind_eq_some_iff] at found
  obtain ⟨decoded, hex, _⟩ := found
  exact validUTF8_of_hex hex

theorem validUTF8_of_sessionKeyID {keyID : Bytes}
    (valid : validPublisherSessionKeyID keyID = true) : validUTF8 keyID = true := by
  refine validUTF8_of_ascii fun character member => ?_
  simp only [validPublisherSessionKeyID, Bool.and_eq_true, List.all_eq_true] at valid
  have allowed := valid.2 character member
  simp only [Bool.or_eq_true, Bool.and_eq_true, decide_eq_true_eq, beq_iff_eq] at allowed
  have small : ∀ bound : UInt8, bound < 0x80 → character ≤ bound → character < 0x80 :=
    fun bound below upper => UInt8.lt_of_le_of_lt upper below
  rcases allowed with (((((range | range) | range) | rfl) | rfl) | rfl) | rfl
  · exact small _ (by decide) range.2
  · exact small _ (by decide) range.2
  · exact small _ (by decide) range.2
  · decide
  · decide
  · decide
  · decide

theorem validUTF8_of_clientKey {secret material : Bytes}
    (found : parseClientEncryptionKey secret = some material) : validUTF8 secret = true := by
  unfold parseClientEncryptionKey at found
  split at found
  · rename_i labelled
    obtain ⟨encoded, rfl⟩ := List.isPrefixOf_iff_prefix.mp labelled
    simp only [List.drop_left, Option.bind_eq_bind, Option.bind_eq_some_iff] at found
    obtain ⟨decoded, base64, _⟩ := found
    exact validUTF8_append (by decide +kernel) (validUTF8_of_base64 base64)
  · cases found

section

variable {platform : SessionPlatform} {value next current : PublisherSession}

theorem validUTF8_of_validText {text : Bytes} {maximum : Nat} {allowEmpty : Bool}
    (valid : validText platform text maximum allowEmpty = true) : validUTF8 text = true := by
  simp only [validText, Bool.and_eq_true] at valid
  exact valid.1.1.2

theorem checkSessionIdentity_ok {rank : Nat} {shareID : ShareID} {repositoryID : RepositoryID}
    (checked : checkSessionIdentity value = .ok (rank, shareID, repositoryID)) :
    value.profile = publisherSessionProfile ∧ value.phase.rank = some rank ∧
      canonicalPublisherSessionTime value.createdAt = true ∧
      canonicalPublisherSessionTime value.authorizationExpiresAt = true ∧
      validUTF8 value.shareID = true ∧ validUTF8 value.repositoryID = true ∧
      validUTF8 value.recoveryKeyID = true := by
  simp only [checkSessionIdentity, bind_ok, failIf_ok, orFail_ok, not_or, not_not] at checked
  obtain ⟨_, ⟨_, profile⟩, found, ranked, _, _, _, ⟨created, expires, _, _⟩, share, shared,
    repository, named, _, _, _, keyed, result⟩ := checked
  obtain ⟨rfl, _⟩ := Prod.mk.inj (Except.ok.inj result)
  have shareText : validUTF8 value.shareID = true := by
    simp only [parseShareID, Option.bind_eq_bind, Option.bind_eq_some_iff] at shared
    obtain ⟨decoded, base64, _⟩ := shared
    exact validUTF8_of_base64 base64
  have repositoryText : validUTF8 value.repositoryID = true := by
    simp only [parseRepositoryID, Option.bind_eq_bind, Option.bind_eq_some_iff] at named
    obtain ⟨decoded, hex, _⟩ := named
    exact validUTF8_of_hex hex
  exact ⟨profile, ranked, by simpa using created, by simpa using expires, shareText,
    repositoryText, validUTF8_of_sessionKeyID (by simpa using keyed)⟩

theorem checkSessionStorage_ok (checked : checkSessionStorage platform value = .ok ()) :
    ∀ text ∈ [value.bucket, value.keyPrefix, value.region, value.endpoint,
      value.expectedBucketOwner], validUTF8 text = true := by
  simp only [checkSessionStorage, bind_ok, failIf_ok, not_or, not_not, Bool.not_eq_false] at checked
  obtain ⟨_, ⟨bucket, keyPrefix, _, region, endpoint, owner⟩, _⟩ := checked
  intro text member
  simp only [List.mem_cons, List.not_mem_nil, or_false] at member
  rcases member with rfl | rfl | rfl | rfl | rfl
  · exact validUTF8_of_validText bucket
  · exact validUTF8_of_validText keyPrefix
  · exact validUTF8_of_validText region
  · exact validUTF8_of_validText endpoint
  · exact validUTF8_of_validText owner

theorem checkSessionKeys_ok {shareID : ShareID}
    (checked : checkSessionKeys platform value shareID = .ok ()) :
    ∀ text ∈ [value.repositoryPrefix, value.channel, value.referenceKey, value.referenceKeyID,
      value.rootKey, value.clientEncryptionKey], validUTF8 text = true := by
  simp only [checkSessionKeys, bind_ok, failIf_ok, orFail_ok, not_or, not_not,
    Bool.not_eq_false] at checked
  obtain ⟨_, ⟨_, repositoryPrefix⟩, _, ⟨channel, referenceKeyID⟩, _, ⟨_, referenceKey⟩, _, _, _,
    ⟨rooted, _⟩, nonce, decoded, _, _, _, _, client⟩ := checked
  obtain ⟨tail, split⟩ := List.isPrefixOf_iff_prefix.mp rooted
  intro text member
  simp only [List.mem_cons, List.not_mem_nil, or_false] at member
  rcases member with rfl | rfl | rfl | rfl | rfl | rfl
  · exact validUTF8_of_validText repositoryPrefix
  · exact validUTF8_of_validText channel
  · exact validUTF8_of_validText referenceKey
  · exact validUTF8_of_sessionKeyID referenceKeyID
  · rw [← split, List.drop_left] at decoded
    rw [← split]
    exact validUTF8_append (validUTF8_append (validUTF8_of_validText repositoryPrefix)
      (by decide +kernel)) (validUTF8_of_base64 decoded)
  · obtain ⟨material, parsed⟩ := Option.ne_none_iff_exists'.mp client
    exact validUTF8_of_clientKey parsed

theorem checkSessionEvidence_ok {rank : Nat} (checked : checkSessionEvidence value rank = .ok ()) :
    (value.trustedCheckpoint.isSome = true ↔ 4 ≤ rank) ∧ (value.handoffDigest ≠ [] ↔ 5 ≤ rank) ∧
      (∀ checkpoint ∈ value.trustedCheckpoint, validUTF8 checkpoint.commit = true) ∧
      validUTF8 value.handoffDigest = true := by
  simp only [checkSessionEvidence, bind_ok, failIf_ok, forM_ok, orFail_ok, not_not] at checked
  obtain ⟨_, phased, _, checkpoints, _, digested, rest⟩ := checked
  refine ⟨?_, ?_, ?_, ?_⟩
  · rw [← phased]
    simp
  · have same : decide (rank ≥ 5) = (value.handoffDigest != []) := digested
    rw [bne_iff_ne.symm, ← same]
    simp
  · intro checkpoint member
    obtain ⟨commit, parsed, _⟩ := checkpoints checkpoint member
    exact validUTF8_of_digest parsed
  · by_cases empty : value.handoffDigest = []
    · rw [empty]
      rfl
    · rw [if_pos empty] at rest
      simp only [bind_ok, orFail_ok] at rest
      obtain ⟨digest, parsed, _⟩ := rest
      exact validUTF8_of_digest parsed

/-- A valid session can be written, and its evidence is the evidence of its phase. -/
structure SessionValid (value : PublisherSession) : Prop where
  representable : value.Representable
  evidence : ∃ rank, value.phase.rank = some rank ∧
    (value.trustedCheckpoint.isSome = true ↔ 4 ≤ rank) ∧ (value.handoffDigest ≠ [] ↔ 5 ≤ rank)

theorem canonicalPublisherSessionTime_true {time : GoTime}
    (canonical : canonicalPublisherSessionTime time = true) :
    time.utc = true ∧ time.monotonic = false := by
  simp only [canonicalPublisherSessionTime, Bool.and_eq_true, Bool.not_eq_true'] at canonical
  exact ⟨canonical.1.1.2, canonical.2⟩

theorem validatePublisherSession_ok (checked : validatePublisherSession platform value = .ok ()) :
    SessionValid value := by
  simp only [validatePublisherSession, bind_ok] at checked
  obtain ⟨⟨rank, shareID, repositoryID⟩, identity, _, _, _, storage, _, keys, evidence⟩ := checked
  obtain ⟨profile, ranked, created, expires, share, repository, recovery⟩ :=
    checkSessionIdentity_ok identity
  have storageTexts := checkSessionStorage_ok storage
  have keyTexts := checkSessionKeys_ok keys
  obtain ⟨checkpoint, digest, commitText, digestText⟩ := checkSessionEvidence_ok evidence
  refine ⟨⟨by simp [ranked], ?_, ?_⟩, rank, ranked, checkpoint, digest⟩
  · intro time member
    simp only [List.mem_cons, List.not_mem_nil, or_false] at member
    rcases member with rfl | rfl
    · exact canonicalPublisherSessionTime_true created
    · exact canonicalPublisherSessionTime_true expires
  · have profileText : validUTF8 value.profile = true := by
      rw [profile]
      decide +kernel
    intro text member
    simp only [PublisherSession.texts, List.mem_append, List.mem_cons, List.not_mem_nil, or_false,
      Option.mem_toList, Option.map_eq_some_iff] at member
    rcases member with (rfl | rfl | rfl | rfl | rfl | rfl | rfl | rfl | rfl | rfl | rfl | rfl |
      rfl | rfl | rfl | rfl) | ⟨found, present, rfl⟩
    · exact profileText
    · exact share
    · exact repository
    · exact recovery
    · exact storageTexts _ (by simp)
    · exact storageTexts _ (by simp)
    · exact storageTexts _ (by simp)
    · exact storageTexts _ (by simp)
    · exact storageTexts _ (by simp)
    · exact keyTexts _ (by simp)
    · exact keyTexts _ (by simp)
    · exact keyTexts _ (by simp)
    · exact keyTexts _ (by simp)
    · exact keyTexts _ (by simp)
    · exact keyTexts _ (by simp)
    · exact digestText
    · exact commitText found present

theorem encodePublisherSession_ok {encoded : Bytes}
    (written : encodePublisherSession platform value = .ok encoded) :
    SessionValid value ∧ ∃ data, platform.session.marshal value = some data ∧
      encoded = data ++ [10] ∧ encoded.length ≤ maximumPublisherSessionBytes := by
  simp only [encodePublisherSession, bind_ok] at written
  obtain ⟨_, valid, written⟩ := written
  refine ⟨validatePublisherSession_ok valid, ?_⟩
  cases marshalled : platform.session.marshal value with
  | none => simp [marshalled] at written
  | some data =>
      rw [marshalled] at written
      dsimp only at written
      split at written
      · cases written
      · rename_i small
        obtain rfl := Except.ok.inj written
        exact ⟨data, rfl, rfl, by simpa using Nat.not_lt.mp small⟩

theorem decodePublisherSession_ok {encoded : Bytes}
    (read : decodePublisherSession platform encoded = .ok value) :
    encodePublisherSession platform value = .ok encoded := by
  simp only [decodePublisherSession, bind_ok, failIf_ok, orFail_ok, not_not] at read
  obtain ⟨_, _, ⟨found, another⟩, _, _, _, canonical, written, _, same, result⟩ := read
  obtain rfl := Except.ok.inj result
  rw [same]
  exact written

theorem decode_encodePublisherSession (readsBack : platform.ReadsBack) {encoded : Bytes}
    (written : encodePublisherSession platform value = .ok encoded) :
    decodePublisherSession platform encoded = .ok value := by
  obtain ⟨valid, data, marshalled, rfl, small⟩ := encodePublisherSession_ok written
  obtain ⟨nonempty, decoded⟩ := readsBack value data valid.representable marshalled
  have long : 2 ≤ (data ++ [10]).length := by
    have positive := List.length_pos_iff.mpr nonempty
    simp only [List.length_append, List.length_singleton]
    omega
  simp only [decodePublisherSession, bind_ok, failIf_ok, orFail_ok, not_not]
  refine ⟨(), by omega, (value, false), decoded, (), by simp, _, written, (), rfl, rfl⟩

def PublisherSession.identity (value : PublisherSession) : PublisherSession :=
  { value with phase := .prepared, sequence := 0, trustedCheckpoint := none, handoffDigest := [] }

structure Retains (earlier later : PublisherSession) : Prop where
  identity : later.identity = earlier.identity
  checkpoint : earlier.trustedCheckpoint ≠ none →
    later.trustedCheckpoint = earlier.trustedCheckpoint
  digest : earlier.handoffDigest ≠ [] → later.handoffDigest = earlier.handoffDigest

structure Advances (previous next : PublisherSession) : Prop where
  rank : ∃ rank, previous.phase.rank = some rank ∧ next.phase.rank = some (rank + 1)
  retains : Retains previous next

theorem Retains.trans {first second third : PublisherSession} (left : Retains first second)
    (right : Retains second third) : Retains first third := by
  refine ⟨right.identity.trans left.identity, ?_, ?_⟩
  · intro present
    have kept := left.checkpoint present
    rw [right.checkpoint (by rwa [kept]), kept]
  · intro present
    have kept := left.digest present
    rw [right.digest (by rwa [kept]), kept]

theorem recordEvidence_ok {started : PublisherSession} {checkpoint : Option HandoffCheckpoint}
    {handoffDigest : Digest} (recorded : recordEvidence started checkpoint handoffDigest = .ok next) :
    next.phase = started.phase ∧ next.identity = started.identity ∧
      (started.phase ≠ .initialPublicationReady →
        next.trustedCheckpoint = started.trustedCheckpoint) ∧
      (started.phase ≠ .initialRootReady → next.handoffDigest = started.handoffDigest) := by
  unfold recordEvidence at recorded
  split at recorded
  · rename_i phase
    split at recorded
    · cases recorded
    · obtain rfl := Except.ok.inj recorded
      exact ⟨rfl, rfl, fun other => absurd phase other, fun _ => rfl⟩
  · rename_i phase
    split at recorded
    · cases recorded
    · obtain rfl := Except.ok.inj recorded
      exact ⟨rfl, rfl, fun _ => rfl, fun other => absurd phase other⟩
  · split at recorded
    · cases recorded
    · obtain rfl := Except.ok.inj recorded
      exact ⟨rfl, rfl, fun _ => rfl, fun _ => rfl⟩

theorem nextPublisherSession_ok {phase : PublisherSessionPhase}
    {checkpoint : Option HandoffCheckpoint} {handoffDigest : Digest}
    (stepped : nextPublisherSession platform current phase checkpoint handoffDigest = .ok next) :
    Advances current next := by
  simp only [nextPublisherSession, bind_ok, failIf_ok, orFail_ok, not_not] at stepped
  obtain ⟨_, valid, nextRank, ranked, _, successor, found, recorded, _, _, result⟩ := stepped
  obtain rfl := Except.ok.inj result
  obtain ⟨rank, currentRank, checkpointed, digested⟩ := (validatePublisherSession_ok valid).evidence
  obtain ⟨samePhase, sameIdentity, sameCheckpoint, sameDigest⟩ := recordEvidence_ok recorded
  dsimp only at samePhase sameCheckpoint sameDigest
  simp only [currentRank, Option.getD_some] at successor
  subst successor
  refine ⟨⟨rank, currentRank, by rw [samePhase, ranked]⟩, sameIdentity, ?_, ?_⟩
  · intro present
    refine sameCheckpoint ?_
    rintro rfl
    have early : rank = 3 := by simpa [PublisherSessionPhase.rank] using ranked.symm
    have late := checkpointed.mp (Option.isSome_iff_ne_none.mpr present)
    omega
  · intro present
    refine sameDigest ?_
    rintro rfl
    have early : rank = 4 := by simpa [PublisherSessionPhase.rank] using ranked.symm
    have late := digested.mp present
    omega

end

end S3Disk.CLI
