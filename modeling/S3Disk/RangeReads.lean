import S3Disk.ConcreteWire
import S3Disk.ConsumerReads
import S3Disk.DescriptorRoundTrip
import S3Disk.Library.Extents
import S3Disk.ServedReads

/-! Reading a range of an open file: which chunks are asked for, which bytes come back
when they are served, and what is left of a read that fails half way. -/

namespace S3Disk

open Concurrent Extents

abbrev ChunksLaid : Int → List ChunkRef → Int → Prop := Laid ChunkRef.offset ChunkRef.size

structure FileLaid (manifest : FileManifest) : Prop where
  laid : ChunksLaid 0 manifest.chunks manifest.size
  small : ∀ chunk ∈ manifest.chunks, chunk.size ≤ maxChunkObjectBytes
  size : manifest.size ≤ maxRepresentableFileBytes

theorem validateChunkLayout_laid {maxSize size offset stop : Int} {chunks : List ChunkRef}
    (checked : validateChunkLayout maxSize size offset chunks = .ok stop) :
    ChunksLaid offset chunks stop ∧ (∀ chunk ∈ chunks, chunk.size ≤ maxSize) ∧
      stop ≤ offset + chunks.length * maxSize := by
  induction chunks generalizing offset with
  | nil =>
      cases checked
      exact ⟨rfl, by simp, by simp⟩
  | cons chunk rest ih =>
      simp only [validateChunkLayout, bind_ok, failIf_ok, not_or, not_not] at checked
      obtain ⟨-, ⟨here, positive, small, -⟩, -, -, tail⟩ := checked
      obtain ⟨laid, others, bounded⟩ := ih tail
      refine ⟨⟨here, by omega, laid⟩, ?_, ?_⟩
      · intro other member
        rcases List.mem_cons.mp member with rfl | inside
        · omega
        · exact others other inside
      · rw [List.length_cons, Int.natCast_add, Int.add_mul]
        omega

theorem validateFileManifest_laid {wire : Wire} {manifest : FileManifest}
    (checked : validateFileManifest wire manifest = .ok ()) : FileLaid manifest := by
  simp only [validateFileManifest, bind_ok, failIf_ok, not_not] at checked
  obtain ⟨-, -, -, few, -, profile, stop, layout, same⟩ := checked
  subst same
  obtain ⟨laid, small, bounded⟩ := validateChunkLayout_laid layout
  have normal : ChunkingOptions.normalized wire
      ⟨manifest.minSize, manifest.avgSize, manifest.maxSize, manifest.polynomial⟩ =
        .ok ⟨manifest.minSize, manifest.avgSize, manifest.maxSize, manifest.polynomial⟩ := by
    revert profile
    cases ChunkingOptions.normalized wire _ with
    | error error =>
        intro impossible
        cases impossible
    | ok options =>
        intro same
        rw [Option.some.inj same]
  obtain ⟨-, lowest, ordered, above, highest, -⟩ := normalized_ok normal
  refine ⟨laid, ?_, ?_⟩
  · intro chunk member
    have bound := small chunk member
    have limit : (maxChunkObjectBytes : Int) = 64 * 1024 * 1024 := rfl
    dsimp only at highest
    omega
  · have count : (manifest.chunks.length : Int) ≤ maxFileChunks := by omega
    have total : (manifest.chunks.length : Int) * manifest.maxSize ≤
        (maxFileChunks : Int) * (64 * 1024 * 1024) :=
      Int.mul_le_mul count highest (by dsimp only at *; omega) (by decide)
    have limit : maxRepresentableFileBytes = (maxFileChunks : Int) * (64 * 1024 * 1024) := rfl
    omega

theorem FileLaid.inside {manifest : FileManifest} (file : FileLaid manifest) :
    manifest.size ≤ maxInt64 := by
  have bound := file.size
  have limit : maxRepresentableFileBytes ≤ maxInt64 := by decide
  omega

def Loads (chunk : ChunkRef) : Request → Prop
  | .contextErr => True
  | .acquireDownload charge => charge = chunk.size
  | .cacheGet digest size => digest = chunk.digest ∧ size = chunk.size
  | .cachePut digest _ => digest = chunk.digest
  | .get key _ => key = .object .chunk chunk.digest
  | _ => False

section

variable {repository : Repository} {consumer : Consumer repository} {chunk : ChunkRef}

theorem contextErr_ensures {allowed : Request → Prop} (permitted : allowed .contextErr) :
    Fallible.Ensures allowed contextErr fun _ => True :=
  .request permitted fun _ _ _ => trivial

theorem getImmutableExact_ensures :
    Fallible.Ensures (Loads chunk)
      (repository.getImmutableExact .chunk chunk.digest chunk.size) fun data =>
        (data.length : Int) = chunk.size ∧
          repository.wire.digestObject .chunk data = chunk.digest := by
  unfold Repository.getImmutableExact
  refine .bind .failIf fun _ _ => ?_
  have got : Fallible.Ensures (Loads chunk)
      (repository.getImmutableLimited .chunk chunk.digest chunk.size.toNat)
      fun data => repository.wire.digestObject .chunk data = chunk.digest := by
    unfold Repository.getImmutableLimited
    have asked : Fallible.Ensures (Loads chunk)
        (storeGet (Repository.objectKey .chunk chunk.digest) ⟨[], chunk.size.toNat⟩)
        fun _ => True := .request rfl fun _ _ _ => trivial
    refine .bind asked.attempt ?_
    rintro (error | object) _
    · exact .throw
    · refine .bind (.ofExcept fun _ _ => trivial) fun _ _ => ?_
      refine .bind .failIf fun _ _ => ?_
      refine .bind .failIf fun _ same => ?_
      exact .pure (not_not.mp same)
  refine .bind got fun data hashed => ?_
  refine .bind .failIf fun _ sized => ?_
  exact .pure ⟨not_not.mp sized, hashed⟩

theorem getCachedChunk_ensures :
    Fallible.Ensures (Loads chunk) (getCachedChunk consumer chunk.digest chunk.size) fun found =>
      ∀ data ∈ found, (data.length : Int) = chunk.size ∧
        repository.wire.digestObject .chunk data = chunk.digest := by
  unfold getCachedChunk
  split
  · exact .pure fun _ found => by cases found
  · have asked : Fallible.Ensures (Loads chunk) (chunkCacheGet chunk.digest chunk.size)
        fun _ => True := .request ⟨rfl, rfl⟩ fun _ _ _ => trivial
    refine .bind asked.attempt ?_
    rintro (error | _ | data) _
    · exact .bind .failIf fun _ _ => .pure fun _ found => by cases found
    · exact .pure fun _ found => by cases found
    · refine .bind .failIf fun _ sized => ?_
      refine .bind .failIf fun _ hashed => ?_
      refine .pure ?_
      rintro _ ⟨⟩
      exact ⟨not_not.mp sized, not_not.mp hashed⟩

theorem loadChunk_ensures :
    Fallible.Ensures (Loads chunk) (loadChunk consumer chunk.digest chunk.size) fun data =>
      (data.length : Int) = chunk.size ∧
        repository.wire.digestObject .chunk data = chunk.digest := by
  unfold loadChunk
  have acquired : Fallible.Ensures (Loads chunk) (acquireDownload chunk.size) fun _ => True :=
    .request rfl fun _ _ _ => trivial
  refine .bind acquired fun _ _ => ?_
  refine .bind getCachedChunk_ensures ?_
  rintro (_ | data) cached
  · refine .bind getImmutableExact_ensures fun data right => ?_
    split
    · have put : Fallible.Ensures (Loads chunk) (chunkCachePut chunk.digest data) fun _ => True :=
        .request rfl fun _ _ _ => trivial
      refine .bind put.attempt ?_
      rintro (error | _) _
      · exact .bind .failIf fun _ _ => .pure right
      · exact .pure right
    · exact .pure right
  · exact .pure (cached data rfl)

theorem getChunk_ensures :
    Fallible.Ensures (Loads chunk) (getChunk consumer chunk.digest chunk.size) fun data =>
      (data.length : Int) = chunk.size ∧
        repository.wire.digestObject .chunk data = chunk.digest := by
  unfold getChunk
  refine .bind .failIf fun _ _ => ?_
  refine .bind (contextErr_ensures trivial) fun _ _ => ?_
  refine .bind loadChunk_ensures.attempt fun loaded right => ?_
  refine .bind (contextErr_ensures trivial) fun _ _ => ?_
  exact .ofExcept right

def Served (content : Digest → Bytes) : Exchange Request Answer → Prop
  | ⟨.contextErr, answer⟩ => answer = none
  | ⟨.acquireDownload _, answer⟩ => answer = .ok ()
  | ⟨.cacheGet digest _, answer⟩ => answer = .ok none ∨ answer = .ok (some (content digest))
  | ⟨.cachePut _ _, answer⟩ => answer = .ok ()
  | ⟨.get (.object .chunk digest) _, answer⟩ => ∃ version : Version, ProperVersion version ∧
      answer = .ok ⟨content digest, version⟩
  | _ => False

def Sound (wire : Wire) : Exchange Request Answer → Prop
  | ⟨.contextErr, answer⟩ => answer = none
  | ⟨.acquireDownload _, answer⟩ => answer = .ok ()
  | ⟨.get (.object kind digest) _, answer⟩ => ∃ object : Object, answer = .ok object ∧
      wire.digestObject kind object.data = digest
  | _ => True

variable {content : Digest → Bytes}

theorem contextErr_served : contextErr.Succeeds (Served content) fun _ => True :=
  contextErr_succeeds fun _ alive => alive

section

variable (sized : ((content chunk.digest).length : Int) = chunk.size)
  (hashed : repository.wire.digestObject .chunk (content chunk.digest) = chunk.digest)
  (positive : 0 < chunk.size) (small : chunk.size ≤ maxChunkObjectBytes)

include sized hashed

theorem getCachedChunk_succeeds :
    Fallible.Succeeds (Served content) (getCachedChunk consumer chunk.digest chunk.size)
      fun found => ∀ data ∈ found, data = content chunk.digest := by
  unfold getCachedChunk
  split
  · exact .pure fun _ found => by cases found
  · have asked : Fallible.Succeeds (Served content) (chunkCacheGet chunk.digest chunk.size)
        fun found => ∀ data ∈ found, data = content chunk.digest := by
      refine .request ?_
      rintro _ (rfl | rfl)
      · exact ⟨none, rfl, fun _ found => by cases found⟩
      · refine ⟨some _, rfl, ?_⟩
        rintro _ ⟨⟩
        rfl
    refine .bind asked.attempt ?_
    rintro _ ⟨_ | data, rfl, right⟩
    · exact .pure fun _ found => by cases found
    · obtain rfl := right data rfl
      refine .bind (.failIf (by simpa using sized)) fun _ _ => ?_
      exact .bind (.failIf (by simpa using hashed)) fun _ _ => .pure right

include positive small

theorem getImmutableExact_succeeds :
    Fallible.Succeeds (Served content)
      (repository.getImmutableExact .chunk chunk.digest chunk.size)
      (· = content chunk.digest) := by
  unfold Repository.getImmutableExact
  refine .bind (.failIf (by simp only [if_true]; omega)) fun _ _ => ?_
  have got : (repository.getImmutableLimited .chunk chunk.digest chunk.size.toNat).Succeeds
      (Served content) (· = content chunk.digest) := by
    refine getImmutableLimited_succeeds ?_
    rintro _ ⟨version, proper, rfl⟩
    exact ⟨_, rfl, proper, by simp only; omega, hashed, rfl⟩
  refine .bind got fun data same => ?_
  subst same
  exact .bind (.failIf (by simpa using sized)) fun _ _ => .pure rfl

theorem loadChunk_succeeds :
    Fallible.Succeeds (Served content) (loadChunk consumer chunk.digest chunk.size)
      (· = content chunk.digest) := by
  unfold loadChunk
  refine .bind (acquireDownload_succeeds fun _ granted => granted) fun _ _ => ?_
  refine .bind (getCachedChunk_succeeds sized hashed) ?_
  rintro (_ | data) cached
  · refine .bind (getImmutableExact_succeeds sized hashed positive small) fun data right => ?_
    split
    · have put : Fallible.Succeeds (Served content) (chunkCachePut chunk.digest data)
          fun _ => True := by
        refine .request ?_
        rintro _ ⟨⟩
        exact ⟨(), rfl, trivial⟩
      refine .bind put.attempt ?_
      rintro _ ⟨_, rfl, -⟩
      exact .pure right
    · exact .pure right
  · exact .pure (cached data rfl)

theorem getChunk_succeeds :
    Fallible.Succeeds (Served content) (getChunk consumer chunk.digest chunk.size)
      (· = content chunk.digest) := by
  unfold getChunk
  refine .bind (.failIf (by omega)) fun _ _ => ?_
  refine .bind contextErr_served fun _ _ => ?_
  refine .bind (loadChunk_succeeds sized hashed positive small).attempt ?_
  rintro _ ⟨data, rfl, right⟩
  refine .bind contextErr_served fun _ _ => ?_
  exact .ofExcept rfl right

end

section

variable {history : List (Exchange Request Answer)}

theorem contextErr_sound {result : Unit} (ends : contextErr.Ends history (.ok result)) :
    ∀ exchange ∈ history, Sound repository.wire exchange := by
  obtain ⟨answer, rfl, same⟩ := Fallible.ends_request.mp ends
  cases answer with
  | none => simp [Sound]
  | some error => cases same

theorem getImmutableExact_sound {data : Bytes}
    (ends : (repository.getImmutableExact .chunk chunk.digest chunk.size).Ends history (.ok data)) :
    ∀ exchange ∈ history, Sound repository.wire exchange := by
  obtain ⟨-, ends⟩ := Fallible.ends_failIf_bind_ok.mp ends
  obtain ⟨_, _, _, rfl, loaded, sized⟩ := Fallible.ends_bind_ok.mp ends
  obtain ⟨-, returned⟩ := Fallible.ends_failIf_bind_ok.mp sized
  obtain ⟨rfl, -⟩ := Fallible.ends_pure.mp returned
  rw [Repository.getImmutableLimited, Fallible.ends_attempt_bind] at loaded
  obtain ⟨_, rest, answer, rfl, asked, verified⟩ := loaded
  obtain ⟨_, rfl, rfl⟩ := Fallible.ends_request.mp asked
  cases answer with
  | error error => cases verified
  | ok object =>
      simp only [Fallible.ends_ofExcept_bind_ok, Fallible.ends_failIf_bind_ok,
        Fallible.ends_pure] at verified
      obtain ⟨-, -, -, hashed, rfl, -⟩ := verified
      simpa [Sound, Repository.objectKey] using hashed

theorem getCachedChunk_sound {found : Option Bytes}
    (ends : (getCachedChunk consumer chunk.digest chunk.size).Ends history (.ok found)) :
    ∀ exchange ∈ history, Sound repository.wire exchange := by
  unfold getCachedChunk at ends
  split at ends
  · obtain ⟨rfl, -⟩ := Fallible.ends_pure.mp ends
    simp
  · obtain ⟨_, rest, answer, rfl, asked, verified⟩ := Fallible.ends_attempt_bind.mp ends
    obtain ⟨_, rfl, rfl⟩ := Fallible.ends_request.mp asked
    have quiet : rest = [] := by
      rcases answer with error | _ | data
      all_goals
        simp only [Fallible.ends_failIf_bind_ok, Fallible.ends_pure] at verified
      · exact verified.2.1
      · exact verified.1
      · exact verified.2.2.1
    simp [quiet, Sound]

theorem loadChunk_sound {data : Bytes}
    (ends : (loadChunk consumer chunk.digest chunk.size).Ends history (.ok data)) :
    ∀ exchange ∈ history, Sound repository.wire exchange := by
  simp only [loadChunk, Fallible.ends_bind_ok] at ends
  obtain ⟨_, _, _, rfl, acquired, _, rest, found, rfl, cached, loaded⟩ := ends
  obtain ⟨_, rfl, same⟩ := Fallible.ends_request.mp acquired
  have before := getCachedChunk_sound cached
  have behind : ∀ exchange ∈ rest, Sound repository.wire exchange := by
    cases found with
    | some data =>
        obtain ⟨rfl, -⟩ := Fallible.ends_pure.mp loaded
        simp
    | none =>
        dsimp only at loaded
        obtain ⟨_, put, data, rfl, got, kept⟩ := Fallible.ends_bind_ok.mp loaded
        have first := getImmutableExact_sound got
        have last : ∀ exchange ∈ put, Sound repository.wire exchange := by
          split at kept
          · obtain ⟨_, tail, answer, rfl, asked, returned⟩ := Fallible.ends_attempt_bind.mp kept
            obtain ⟨_, rfl, rfl⟩ := Fallible.ends_request.mp asked
            have quiet : tail = [] := by
              rcases answer with error | _
              all_goals
                simp only [Fallible.ends_failIf_bind_ok, Fallible.ends_pure] at returned
              · exact returned.2.1
              · exact returned.1
            simp [quiet, Sound]
          · obtain ⟨rfl, -⟩ := Fallible.ends_pure.mp kept
            simp
        intro exchange member
        rcases List.mem_append.mp member with early | late
        · exact first exchange early
        · exact last exchange late
  intro exchange member
  simp only [List.mem_append, List.mem_singleton] at member
  rcases member with rfl | early | late
  · exact same.symm
  · exact before exchange early
  · exact behind exchange late

theorem getChunk_sound {data : Bytes}
    (ends : (getChunk consumer chunk.digest chunk.size).Ends history (.ok data)) :
    ∀ exchange ∈ history, Sound repository.wire exchange := by
  rw [getChunk, Fallible.ends_failIf_bind_ok, Fallible.ends_bind_ok] at ends
  obtain ⟨-, first, _, _, rfl, alive, loading⟩ := ends
  obtain ⟨_, _, loaded, rfl, load, finish⟩ := Fallible.ends_attempt_bind.mp loading
  obtain ⟨_, _, _, rfl, still, rest⟩ := Fallible.ends_bind_ok.mp finish
  obtain ⟨rfl, rfl⟩ := Fallible.ends_ofExcept.mp rest
  intro exchange member
  simp only [List.mem_append, List.not_mem_nil, or_false] at member
  rcases member with early | middle | late
  · exact contextErr_sound alive exchange early
  · exact loadChunk_sound load exchange middle
  · exact contextErr_sound still exchange late

theorem copyChunkLease_sound {data copied : Bytes} {room : Nat} {offset limit : Int}
    (ends : (copyChunkLease data room chunk offset limit).Ends history (.ok copied)) :
    ∀ exchange ∈ history, Sound repository.wire exchange := by
  rw [copyChunkLease, Fallible.ends_failIf_bind_ok, Fallible.ends_bind_ok] at ends
  obtain ⟨-, first, rest, _, rfl, alive, finish⟩ := ends
  have quiet : rest = [] := by
    dsimp only at finish
    split at finish
    · exact (Fallible.ends_pure.mp finish).1
    · obtain ⟨impossible, -⟩ := Program.ends_ask.mp finish
      cases impossible
  simpa [quiet] using contextErr_sound alive

theorem readChunks_sound {length : Nat} {limit offset : Int} {chunks : List ChunkRef}
    {written result : Bytes}
    (ends : (readChunks consumer length limit chunks offset written).Ends history
      (.ok (result, none))) : ∀ exchange ∈ history, Sound repository.wire exchange := by
  induction chunks generalizing history offset written with
  | nil =>
      obtain ⟨rfl, -⟩ := Fallible.ends_pure.mp ends
      simp
  | cons chunk rest ih =>
      unfold readChunks at ends
      split at ends
      · obtain ⟨rfl, -⟩ := Fallible.ends_pure.mp ends
        simp
      · obtain ⟨_, _, alive, rfl, checked, loading⟩ := Fallible.ends_attempt_bind.mp ends
        rcases alive with error | _
        · cases (Fallible.ends_pure.mp loading).2
        obtain ⟨_, _, loaded, rfl, got, copying⟩ := Fallible.ends_attempt_bind.mp loading
        rcases loaded with error | data
        · cases (Fallible.ends_pure.mp copying).2
        obtain ⟨_, _, copied, rfl, copy, tail⟩ := Fallible.ends_attempt_bind.mp copying
        rcases copied with error | copied
        · cases (Fallible.ends_pure.mp tail).2
        intro exchange member
        simp only [List.mem_append] at member
        rcases member with first | second | third | later
        · exact contextErr_sound checked exchange first
        · exact getChunk_sound got exchange second
        · exact copyChunkLease_sound copy exchange third
        · exact ih tail exchange later

end

/-- A point of the copying loop: the chunks that are left fill the file from `start` on, and
unless the read is complete its next byte lies in the first of them. -/
structure Position (chunks : List ChunkRef) (start offset limit stop : Int) : Prop where
  low : 0 ≤ start
  laid : ChunksLaid start chunks stop
  inside : limit ≤ stop
  high : stop ≤ maxInt64
  here : offset < limit → start ≤ offset ∧ ∀ chunk ∈ chunks.head?, offset < start + chunk.size

abbrev chunkRange (content : Digest → Bytes) : Int → Int → Int → List ChunkRef → Bytes :=
  range fun chunk => content chunk.digest

section

variable {chunks rest : List ChunkRef} {start offset limit stop : Int} {data written : Bytes}
  {length room : Nat}

theorem Position.complete (position : Position [] start offset limit stop) : limit ≤ offset := by
  by_contra more
  have same : start = stop := position.laid
  have inside := position.inside
  have after := (position.here (by omega)).1
  omega

theorem Position.next (position : Position (chunk :: rest) start offset limit stop) :
    Position rest (start + chunk.size) (min limit (start + chunk.size)) limit stop := by
  obtain ⟨-, positive, tail⟩ := position.laid
  have low := position.low
  refine ⟨by omega, tail, position.inside, position.high, ?_⟩
  intro unfinished
  refine ⟨by omega, ?_⟩
  intro head member
  have sized : 0 < head.size := (tail.bounds (List.mem_of_mem_head? member)).2.1
  omega

def copied (data : Bytes) (chunk : ChunkRef) (offset limit : Int) : Bytes :=
  (data.drop (offset - chunk.offset).toNat).take
    (min limit (chunk.offset + chunk.size) - offset).toNat

theorem Position.length_copied (position : Position (chunk :: rest) start offset limit stop)
    (more : offset < limit) (sized : (data.length : Int) = chunk.size) :
    ((copied data chunk offset limit).length : Int) = min limit (start + chunk.size) - offset := by
  obtain ⟨here, positive, -⟩ := position.laid
  obtain ⟨after, before⟩ := position.here more
  have inside := before chunk rfl
  rw [copied, List.length_take, List.length_drop, here]
  omega

theorem copyChunkLease_eq (position : Position (chunk :: rest) start offset limit stop)
    (more : offset < limit) (sized : (data.length : Int) = chunk.size)
    (enough : limit - offset ≤ room) :
    copyChunkLease data room chunk offset limit =
      contextErr >>= fun _ => pure (copied data chunk offset limit) := by
  have length := position.length_copied more sized
  obtain ⟨here, positive, tail⟩ := position.laid
  obtain ⟨after, before⟩ := position.here more
  have inside := before chunk rfl
  have low := position.low
  have high := position.high
  have fits := tail.le
  have sum : addInt64 chunk.offset chunk.size = chunk.offset + chunk.size :=
    int64_eq (by omega) (by omega)
  have first : subInt64 (max offset chunk.offset) chunk.offset = offset - chunk.offset := by
    have larger : max offset chunk.offset = offset := by omega
    rw [larger]
    exact int64_eq (by omega) (by omega)
  have last : subInt64 (min limit (chunk.offset + chunk.size)) chunk.offset =
      min limit (chunk.offset + chunk.size) - chunk.offset := int64_eq (by omega) (by omega)
  have taken : (copied data chunk offset limit).length ≤ room := by omega
  have slice : (min limit (chunk.offset + chunk.size) - chunk.offset - (offset - chunk.offset)) =
      min limit (chunk.offset + chunk.size) - offset := by omega
  unfold copyChunkLease
  rw [failIf, if_neg (by omega)]
  dsimp only
  rw [sum, first, last, if_pos (by omega), slice]
  rw [copied, List.length_take] at taken
  rw [copied, List.take_of_length_le (l := List.take _ _) (by simpa using taken)]
  rfl

section

variable {content : Digest → Bytes} {allowed : Request → Prop} {origin : Int}

def Identifies (wire : Wire) (content : Digest → Bytes) (chunk : ChunkRef) : Prop :=
  ∀ data : Bytes, (data.length : Int) = chunk.size →
    wire.digestObject .chunk data = chunk.digest → data = content chunk.digest

theorem Position.range_copied (position : Position (chunk :: rest) start offset limit stop)
    (more : offset < limit) (sized : ((content chunk.digest).length : Int) = chunk.size) :
    chunkRange content start offset limit (chunk :: rest) =
      copied (content chunk.digest) chunk offset limit ++
        chunkRange content (start + chunk.size) (min limit (start + chunk.size)) limit rest := by
  obtain ⟨here, positive, tail⟩ := position.laid
  obtain ⟨after, before⟩ := position.here more
  have inside := before chunk rfl
  unfold copied
  rw [here]
  exact range_cons sized after (by omega) (by omega)

theorem Position.advance (position : Position (chunk :: rest) start offset limit stop)
    (more : offset < limit) (sized : (data.length : Int) = chunk.size) :
    addInt64 offset (copied data chunk offset limit).length = min limit (start + chunk.size) := by
  have length := position.length_copied more sized
  obtain ⟨here, positive, tail⟩ := position.laid
  have after := (position.here more).1
  have low := position.low
  have high := position.high
  have fits := tail.le
  rw [addInt64, length, int64_eq (by omega) (by omega)]
  omega

theorem chunkRange_empty (complete : limit ≤ offset) :
    chunkRange content start offset limit chunks = [] := range_empty complete

def finished (length : Nat) (written : Bytes) : Bytes × Option Err :=
  (written, if written.length < length then some Sentinel.endOfFile.error else none)

theorem finished_complete (complete : limit ≤ offset) :
    finished length written =
      finished length (written ++ chunkRange content start offset limit chunks) := by
  rw [chunkRange_empty complete, List.append_nil]

theorem finished_none (ended : (finished length written).2 = none) : length ≤ written.length := by
  by_contra shorter
  rw [finished, if_pos (by omega)] at ended
  cases ended

/-- What a read may return: a first part of the range, and all of it without an error. -/
def Copies (wire : Wire) (content : Digest → Bytes) (chunks : List ChunkRef) (length : Nat)
    (expected : Bytes) (result : Bytes × Option Err) : Prop :=
  (∀ chunk ∈ chunks, Identifies wire content chunk) →
    result.1 <+: expected ∧ (result.2 = none → result.1 = expected ∧ length ≤ result.1.length)

theorem copies_finished {wire : Wire} (complete : limit ≤ offset) :
    Copies wire content chunks length (written ++ chunkRange content start offset limit chunks)
      (finished length written) := by
  intro _
  rw [chunkRange_empty complete, List.append_nil]
  exact ⟨List.prefix_refl _, fun ended => ⟨rfl, finished_none ended⟩⟩

theorem copies_failed {wire : Wire} {error : Err} :
    Copies wire content chunks length (written ++ chunkRange content start offset limit chunks)
      (written, some error) := by
  intro _
  exact ⟨List.prefix_append _ _, nofun⟩

theorem readChunks_ensures (position : Position chunks start offset limit stop)
    (sized : ∀ chunk ∈ chunks, ((content chunk.digest).length : Int) = chunk.size)
    (enough : limit - offset + written.length ≤ length) (behind : origin ≤ offset)
    (alive : allowed .contextErr)
    (loads : ∀ chunk ∈ chunks, chunk.offset < limit → origin < chunk.offset + chunk.size →
      ∀ request, Loads chunk request → allowed request) :
    Fallible.Ensures allowed (readChunks consumer length limit chunks offset written)
      (Copies repository.wire content chunks length
        (written ++ chunkRange content start offset limit chunks)) := by
  induction chunks generalizing start offset written with
  | nil => exact .pure (copies_finished position.complete)
  | cons chunk rest ih =>
      unfold readChunks
      split
      case isTrue complete => exact .pure (copies_finished complete)
      case isFalse unfinished =>
        have more : offset < limit := by omega
        refine .bind (contextErr_ensures alive).attempt ?_
        rintro (error | _) _
        · exact .pure copies_failed
        obtain ⟨here, positive, tail⟩ := position.laid
        have first := (position.here more).2 chunk rfl
        have after := (position.here more).1
        have permitted := loads chunk (by simp) (by omega) (by omega)
        refine .bind (getChunk_ensures.widen permitted).attempt ?_
        rintro (error | data) loaded
        · exact .pure copies_failed
        obtain ⟨whole, hashed⟩ := loaded data rfl
        dsimp only
        rw [copyChunkLease_eq position more whole (by omega)]
        have copies : Fallible.Ensures allowed
            (contextErr >>= fun _ => pure (copied data chunk offset limit) : Proc Bytes)
            (· = copied data chunk offset limit) :=
          .bind (contextErr_ensures alive) fun _ _ => .pure rfl
        refine .bind copies.attempt ?_
        rintro (error | _) copying
        · exact .pure copies_failed
        obtain rfl := copying _ rfl
        have count := position.length_copied more whole
        dsimp only
        rw [position.advance more whole]
        refine (ih position.next (fun other member => sized other (by simp [member]))
          (by rw [List.length_append]; omega) (by omega)
          (fun other member => loads other (by simp [member]))).weaken ?_
        intro result right names
        obtain rfl := names chunk (by simp) data whole hashed
        rw [position.range_copied more whole, ← List.append_assoc]
        exact right fun other member => names other (by simp [member])

theorem readChunks_succeeds (position : Position chunks start offset limit stop)
    (sized : ∀ chunk ∈ chunks, ((content chunk.digest).length : Int) = chunk.size)
    (hashed : ∀ chunk ∈ chunks,
      repository.wire.digestObject .chunk (content chunk.digest) = chunk.digest)
    (small : ∀ chunk ∈ chunks, chunk.size ≤ maxChunkObjectBytes)
    (enough : limit - offset + written.length ≤ length) :
    Fallible.Succeeds (Served content)
      (readChunks consumer length limit chunks offset written)
      (· = finished length (written ++ chunkRange content start offset limit chunks)) := by
  induction chunks generalizing start offset written with
  | nil => exact .pure (finished_complete position.complete)
  | cons chunk rest ih =>
      unfold readChunks
      split
      case isTrue complete => exact .pure (finished_complete complete)
      case isFalse unfinished =>
        have more : offset < limit := by omega
        have whole := sized chunk (by simp)
        refine .bind contextErr_served.attempt ?_
        rintro _ ⟨_, rfl, -⟩
        refine .bind (getChunk_succeeds whole (hashed chunk (by simp)) position.laid.2.1
          (small chunk (by simp))).attempt ?_
        rintro _ ⟨_, rfl, rfl⟩
        dsimp only
        rw [copyChunkLease_eq position more whole (by omega)]
        have copies : Fallible.Succeeds (Served content)
            (contextErr >>= fun _ => pure (copied (content chunk.digest) chunk offset limit) :
              Proc Bytes) (· = copied (content chunk.digest) chunk offset limit) :=
          .bind contextErr_served fun _ _ => .pure rfl
        refine .bind copies.attempt ?_
        rintro _ ⟨_, rfl, rfl⟩
        have count := position.length_copied more whole
        dsimp only
        rw [position.advance more whole, position.range_copied more whole, ← List.append_assoc]
        exact ih position.next (fun other member => sized other (by simp [member]))
          (fun other member => hashed other (by simp [member]))
          (fun other member => small other (by simp [member]))
          (by rw [List.length_append]; omega)

end

theorem readChunks_returns :
    (readChunks consumer length limit chunks offset written).Succeeds (fun _ => True)
      fun _ => True := by
  induction chunks generalizing offset written with
  | nil => exact .pure trivial
  | cons chunk rest ih =>
      unfold readChunks
      split
      · exact .pure trivial
      · refine .bind .attemptAny ?_
        rintro (error | _) _
        · exact .pure trivial
        refine .bind .attemptAny ?_
        rintro (error | data) _
        · exact .pure trivial
        refine .bind .attemptAny ?_
        rintro (error | copied) _
        · exact .pure trivial
        exact ih

end

section

variable {file : File} {content : Digest → Bytes} {offset : Int} {length : Nat}

def fileRange (content : Digest → Bytes) (manifest : FileManifest) (offset : Int) (length : Nat) :
    Bytes :=
  ((manifest.chunks.flatMap fun chunk => content chunk.digest).drop offset.toNat).take length

def RangeRequest (manifest : FileManifest) (offset : Int) (length : Nat) (request : Request) :
    Prop :=
  request = .contextErr ∨ ∃ chunk ∈ manifest.chunks, chunk.offset < offset + length ∧
    offset < chunk.offset + chunk.size ∧ Loads chunk request

def readLimit (manifest : FileManifest) (offset : Int) (length : Nat) : Int :=
  min (offset + length) manifest.size

theorem FileLaid.sum (laid : FileLaid file.manifest) (member : chunk ∈ file.manifest.chunks) :
    addInt64 chunk.offset chunk.size = chunk.offset + chunk.size := by
  obtain ⟨after, positive, before⟩ := laid.laid.bounds member
  have inside := laid.inside
  exact int64_eq (by omega) (by omega)

theorem FileLaid.limit (laid : FileLaid file.manifest) (nonnegative : 0 ≤ offset)
    (before : offset < file.manifest.size) (buffer : length ≤ maxInt64) :
    (if addInt64 offset length < offset ∨ addInt64 offset length > file.manifest.size then
      file.manifest.size else addInt64 offset length) = readLimit file.manifest offset length := by
  have inside := laid.inside
  have limit : (maxInt64 : Int) = 0x7FFFFFFFFFFFFFFF := rfl
  have natural : maxInt64 = 0x7FFFFFFFFFFFFFFF := rfl
  unfold readLimit addInt64 int64
  omega

theorem FileLaid.position (laid : FileLaid file.manifest) (nonnegative : 0 ≤ offset) :
    ∃ index start, Search.search file.manifest.chunks.length (fun index =>
        file.manifest.chunks[index]?.any fun chunk => addInt64 chunk.offset chunk.size > offset) =
        index ∧
      ChunksLaid 0 (file.manifest.chunks.take index) start ∧ start ≤ offset ∧
      Position (file.manifest.chunks.drop index) start offset
        (readLimit file.manifest offset length) file.manifest.size := by
  have tests : (fun index => file.manifest.chunks[index]?.any fun chunk =>
      decide (addInt64 chunk.offset chunk.size > offset)) =
      passes ChunkRef.offset ChunkRef.size file.manifest.chunks offset := by
    funext index
    unfold passes
    cases found : file.manifest.chunks[index]? with
    | none => rfl
    | some chunk =>
        simp only [Option.any_some, laid.sum (List.mem_of_getElem? found)]
  have first := Search.search_isFirst (laid.laid.monotone offset)
  obtain ⟨start, front, back, before, here⟩ := laid.laid.drop_first nonnegative first
  refine ⟨_, start, by rw [tests], front, before, ?_⟩
  exact ⟨front.le, back, by unfold readLimit; omega, laid.inside, fun _ => ⟨before, here⟩⟩

theorem fileRange_eq (laid : FileLaid file.manifest)
    (sized : ∀ chunk ∈ file.manifest.chunks, ((content chunk.digest).length : Int) = chunk.size)
    {index : Nat} {start : Int} (nonnegative : 0 ≤ offset)
    (front : ChunksLaid 0 (file.manifest.chunks.take index) start) (before : start ≤ offset) :
    chunkRange content start offset (readLimit file.manifest offset length)
      (file.manifest.chunks.drop index) = fileRange content file.manifest offset length := by
  have whole := laid.laid.length_flatMap sized
  have skipped : chunkRange content 0 offset (readLimit file.manifest offset length)
      (file.manifest.chunks.take index ++ file.manifest.chunks.drop index) =
      chunkRange content start offset (readLimit file.manifest offset length)
        (file.manifest.chunks.drop index) :=
    range_append front (fun chunk member => sized chunk (List.mem_of_mem_take member)) before
  rw [List.take_append_drop] at skipped
  rw [← skipped, chunkRange, range, fileRange, Int.sub_zero]
  have left : ((file.manifest.chunks.flatMap fun chunk => content chunk.digest).drop
      offset.toNat).length = (file.manifest.size - offset).toNat := by
    rw [List.length_drop]
    omega
  unfold readLimit
  by_cases short : offset + length ≤ file.manifest.size
  · have count : (min (offset + length) file.manifest.size - offset).toNat = length := by omega
    rw [count]
  · rw [List.take_of_length_le (by omega), List.take_of_length_le (by omega)]

theorem length_fileRange (length : Nat) (laid : FileLaid file.manifest)
    (sized : ∀ chunk ∈ file.manifest.chunks, ((content chunk.digest).length : Int) = chunk.size)
    (nonnegative : 0 ≤ offset) :
    ((fileRange content file.manifest offset length).length : Int) =
      max 0 (min (length : Int) (file.manifest.size - offset)) := by
  have whole := laid.laid.length_flatMap sized
  rw [fileRange, List.length_take, List.length_drop]
  omega

theorem readAt_cases (consumer : Consumer repository) (laid : FileLaid file.manifest)
    (sized : ∀ chunk ∈ file.manifest.chunks, ((content chunk.digest).length : Int) = chunk.size)
    (nonnegative : 0 ≤ offset) (nonempty : 0 < length) (buffer : length ≤ maxInt64) :
    readAt consumer file length offset = pure ([], some Sentinel.endOfFile.error) ∧
        fileRange content file.manifest offset length = [] ∨
      ∃ index start, readAt consumer file length offset =
        readChunks consumer length (readLimit file.manifest offset length)
          (file.manifest.chunks.drop index) offset [] ∧
        Position (file.manifest.chunks.drop index) start offset
          (readLimit file.manifest offset length) file.manifest.size ∧
        chunkRange content start offset (readLimit file.manifest offset length)
          (file.manifest.chunks.drop index) = fileRange content file.manifest offset length := by
  unfold readAt
  rw [if_neg (by omega), if_neg (by omega)]
  by_cases behind : offset ≥ file.manifest.size
  · have empty := length_fileRange length laid sized nonnegative
    rw [if_pos behind]
    exact .inl ⟨rfl, List.eq_nil_of_length_eq_zero (by omega)⟩
  · obtain ⟨index, start, found, front, before, position⟩ := laid.position nonnegative
    rw [if_neg behind]
    dsimp only
    rw [laid.limit nonnegative (by omega) buffer, found]
    exact .inr ⟨index, start, rfl, position, fileRange_eq laid sized nonnegative front before⟩

/-- A range read: with chunks that are served it copies exactly the bytes of the range, and
reports the end of the file exactly when they are fewer than the buffer holds; whatever is
answered, it asks only for chunks of the range, gets stuck nowhere, and what it returns is a
first part of the range, all of it when there is no error; and there is none only when the
context, the download slots and the store never failed. -/
theorem range_reads (consumer : Consumer repository) (file : File) (content : Digest → Bytes)
    (offset : Int) (length : Nat)
    (valid : validateFileManifest repository.wire file.manifest = .ok ())
    (sized : ∀ chunk ∈ file.manifest.chunks, ((content chunk.digest).length : Int) = chunk.size)
    (hashed : ∀ chunk ∈ file.manifest.chunks,
      repository.wire.digestObject .chunk (content chunk.digest) = chunk.digest)
    (nonnegative : 0 ≤ offset) (nonempty : 0 < length) (buffer : length ≤ maxInt64) :
    ((fileRange content file.manifest offset length).length : Int) =
        max 0 (min (length : Int) (file.manifest.size - offset)) ∧
    (readAt consumer file length offset).Succeeds (Served content)
      (· = (fileRange content file.manifest offset length,
        if (fileRange content file.manifest offset length).length < length then
          some Sentinel.endOfFile.error else none)) ∧
    Fallible.Ensures (RangeRequest file.manifest offset length)
      (readAt consumer file length offset) (fun result =>
        (∀ chunk ∈ file.manifest.chunks, Identifies repository.wire content chunk) →
          result.1 <+: fileRange content file.manifest offset length ∧
          (result.2 = none → result.1 = fileRange content file.manifest offset length ∧
            result.1.length = length)) ∧
    (∀ history result, (readAt consumer file length offset).Ends history result →
      ∃ read error, result = .ok (read, error) ∧
        (error = none → ∀ exchange ∈ history, Sound repository.wire exchange)) ∧
    (∀ chunk ∈ file.manifest.chunks,
      addInt64 chunk.offset chunk.size = chunk.offset + chunk.size) ∧
    (offset < file.manifest.size → (length : Int) ≤ maxInt64 - maxRepresentableFileBytes →
      addInt64 offset length = offset + length) := by
  have laid := validateFileManifest_laid valid
  have count := length_fileRange length laid sized nonnegative
  refine ⟨count, ?_, ?_, ?_, fun chunk => laid.sum, ?_⟩
  · rcases readAt_cases consumer laid sized nonnegative nonempty buffer with
      ⟨same, empty⟩ | ⟨index, start, same, position, range⟩
    · rw [same, empty]
      refine .pure ?_
      rw [if_pos (by simpa using nonempty)]
    · rw [same, ← range]
      have inside : ∀ chunk ∈ file.manifest.chunks.drop index, chunk ∈ file.manifest.chunks :=
        fun chunk => List.mem_of_mem_drop
      exact readChunks_succeeds position (fun chunk member => sized chunk (inside chunk member))
        (fun chunk member => hashed chunk (inside chunk member))
        (fun chunk member => laid.small chunk (inside chunk member))
        (by unfold readLimit; simp; omega)
  · rcases readAt_cases consumer laid sized nonnegative nonempty buffer with
      ⟨same, empty⟩ | ⟨index, start, same, position, range⟩
    · rw [same, empty]
      exact .pure fun _ => ⟨List.prefix_refl _, nofun⟩
    · rw [same]
      have inside : ∀ chunk ∈ file.manifest.chunks.drop index, chunk ∈ file.manifest.chunks :=
        fun chunk => List.mem_of_mem_drop
      refine (readChunks_ensures position (fun chunk member => sized chunk (inside chunk member))
        (by unfold readLimit; simp; omega) le_rfl (.inl rfl) ?_).weaken ?_
      · intro chunk member before after request loads
        refine .inr ⟨chunk, inside chunk member, ?_, after, loads⟩
        unfold readLimit at before
        omega
      · intro result copies names
        obtain ⟨part, complete⟩ := copies fun chunk member => names chunk (inside chunk member)
        rw [List.nil_append, range] at part complete
        refine ⟨part, fun fine => ?_⟩
        obtain ⟨all, full⟩ := complete fine
        rw [all] at full
        exact ⟨all, by rw [all]; omega⟩
  · intro history result ends
    rcases readAt_cases consumer laid sized nonnegative nonempty buffer with
      ⟨same, -⟩ | ⟨index, start, same, -, -⟩
    · rw [same] at ends
      obtain ⟨-, rfl⟩ := Fallible.ends_pure.mp ends
      exact ⟨_, _, rfl, nofun⟩
    · rw [same] at ends
      obtain ⟨⟨read, error⟩, rfl, -⟩ := readChunks_returns _ _ ends (by simp)
      refine ⟨read, error, rfl, ?_⟩
      rintro rfl
      exact readChunks_sound ends
  · intro before small
    have bound := laid.size
    exact int64_eq (by omega) (by omega)

end

end

theorem RangeRequest.served {manifest : FileManifest} {offset : Int} {length : Nat}
    (content : Digest → Bytes) (request : Request)
    (asked : RangeRequest manifest offset length request) :
    ∃ answer, Served content ⟨request, answer⟩ := by
  rcases asked with rfl | ⟨chunk, -, -, -, loads⟩
  · exact ⟨none, rfl⟩
  · cases request with
    | contextErr => exact ⟨none, rfl⟩
    | acquireDownload charge => exact ⟨.ok (), rfl⟩
    | cacheGet digest size => exact ⟨.ok none, .inl rfl⟩
    | cachePut digest data => exact ⟨.ok (), rfl⟩
    | get key options =>
        have same : key = .object .chunk chunk.digest := loads
        subst same
        exact ⟨.ok ⟨content chunk.digest, [1], []⟩, ⟨[1], []⟩, ⟨nofun, by decide, by decide⟩, rfl⟩
    | _ => exact loads.elim

namespace SampleRead

def consumer : Consumer ⟨concreteWire, []⟩ where
  channel := [99]
  watermarks := false
  chunkCache := true
  referenceVerifier := none
  trustedCheckpoint := none
  allowTrustOnFirstUse := false
  symlinkPolicy := .rejectExternal
  strictCacheErrors := true
  channelValid := by decide
  verifierValid := nofun
  checkpointValid := nofun
  unsignedTrusts := fun _ => rfl

def content (digest : Digest) : Bytes := digest.bytes.tail

def chunk (offset : Int) (data : Bytes) : ChunkRef :=
  ⟨offset, data.length, concreteWire.digestObject .chunk data⟩

def file : File where
  manifest :=
    { format := objectFormatVersion, algorithm := "rabin-v1", polynomial := defaultPolynomial,
      minSize := 256 * 1024, avgSize := 1024 * 1024, maxSize := 4 * 1024 * 1024, size := 3,
      chunks := [chunk 0 [1, 2], chunk 2 [3]] }
  generation := 1

end SampleRead

/-- Four bytes from the second one on. -/
theorem range_reads_across : ∃ history,
    (readAt SampleRead.consumer SampleRead.file 4 1).Ends history
      (.ok ([2, 3], some Sentinel.endOfFile.error)) := by
  have reads := range_reads SampleRead.consumer SampleRead.file SampleRead.content 1 4
    (by decide +kernel) (by decide +kernel) (by decide +kernel) (by decide) (by decide) (by decide)
  obtain ⟨history, result, ends, served⟩ := Program.Ensures.ends reads.2.2.1
    (RangeRequest.served SampleRead.content)
  obtain ⟨_, rfl, rfl⟩ := reads.2.1 history result ends served
  exact ⟨history, ends⟩

end S3Disk
