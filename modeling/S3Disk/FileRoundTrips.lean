import S3Disk.FileDurability
import S3Disk.Library.JsonLengths

/-! What a local store wrote is what the next load returns, unless the file is longer than
a load accepts or holds strings that JSON cannot carry. -/

namespace S3Disk.LocalState

open Concurrent
open Volume (History Durable)

def Unwritten (older later : FileLog) : Prop :=
  ∃ newer, later = newer ++ older ∧ ∀ event ∈ newer, ∀ file, diskChange event ≠ some (.renamed file)

theorem settled_unwritten {world : FileWorld} {fact : Bytes → Prop} {older later : FileLog}
    (settled : Settled fact (history older)) (valid : Valid world.law later)
    (unwritten : Unwritten older later) :
    ∃ file, Volume.current (history later) = some file ∧
      fact (Volume.contents file (history later)) := by
  obtain ⟨file, durable, holds⟩ := settled
  obtain ⟨newer, rfl, quiet⟩ := unwritten
  have orderly := orderly_of_valid valid
  have split : history (newer ++ older) = history newer ++ history older := List.filterMap_append
  have installed := Volume.installed_of_found (Each.suffix orderly (history_suffix
    (List.suffix_append newer older))) (.inl durable.1)
  rw [split] at orderly ⊢
  have kept : ∀ next, ¬Volume.Installed next (history newer) := by
    intro next renamed
    obtain ⟨event, member, changed⟩ := List.mem_filterMap.mp renamed
    exact quiet event member next changed
  refine ⟨file, (durable.append orderly kept).1, ?_⟩
  rw [installed.contents_eq orderly (List.suffix_append _ _)]
  exact holds

section

variable {past : History} {α : Type} {answers : (op : FileRequest) → Option (FileAnswer op)}

def Extends (past : History) (answers : (op : FileRequest) → Option (FileAnswer op)) : Prop :=
  ∀ op answer, healthy past op = some answer → answers op = some answer

theorem extends_healthy (past : History) : Extends past (healthy past) := fun _ _ same => same

theorem answered_labelled {label : List Fragment} {step : Filing α} {value : α}
    (answered : step.answered answers = some (.ok value)) :
    (Filing.labelled label step).answered answers = some (.ok value) := by
  unfold Filing.labelled
  rw [Fallible.answered_bind (Fallible.answered_attempt answered)]
  rfl

theorem answered_failIf {condition : Prop} [Decidable condition] {error : Err}
    (passes : ¬condition) :
    (failIf condition error : Filing Unit).answered answers = some (.ok ()) := by
  rw [failIf, if_neg passes]
  rfl

theorem answered_withOpened {noun : String} {body : FileInfo → Nat → Filing α} {file : Nat}
    {value : α} (agrees : Extends past answers) (visible : Volume.current past = some file)
    (read : (body (fileInfo past file) file).answered answers = some (.ok value)) :
    (Filing.withOpened noun body).answered answers = some (.ok (some value)) := by
  have found : Filing.lstat.answered answers = some (.ok (fileInfo past file)) :=
    Fallible.answered_request (agrees _ _ (by simp [healthy, visible]))
  have opened : Filing.openPath.answered answers = some (.ok file) :=
    Fallible.answered_request (agrees _ _ (by rw [healthy, visible]; rfl))
  have closed : (Filing.close file).answered answers = some (.ok ()) :=
    Fallible.answered_request (agrees _ _ rfl)
  unfold Filing.withOpened
  rw [Fallible.answered_bind (Fallible.answered_attempt found)]
  dsimp only
  rw [Fallible.answered_bind (answered_labelled opened),
    Fallible.answered_bind (Fallible.answered_attempt read),
    Fallible.answered_bind (Fallible.answered_attempt closed)]
  rfl

theorem answered_settled {body : Filing (Option α)} {value : α} (agrees : Extends past answers)
    (read : body.answered answers = some (.ok (some value))) :
    (Filing.settled body).answered answers = some (.ok (some value)) := by
  have synced : Filing.syncParentDirectory.answered answers = some (.ok ()) :=
    Fallible.answered_request (agrees _ _ rfl)
  unfold Filing.settled
  rw [Fallible.answered_bind read]
  dsimp only
  rw [Fallible.answered_bind synced]
  rfl

theorem answered_lockedLoad {body : Filing (Option α)} {value : α} (agrees : Extends past answers)
    (read : body.answered answers = some (.ok (some value))) :
    (Filing.lockedLoad (Filing.settled body)).answered answers = some (.ok (some value)) := by
  have locked : Filing.lock.answered answers = some (.ok ()) :=
    Fallible.answered_request (agrees _ _ rfl)
  have unlocked : Filing.unlock.answered answers = some (.ok none) :=
    Fallible.answered_request (agrees _ _ rfl)
  unfold Filing.lockedLoad
  rw [Fallible.answered_bind locked,
    Fallible.answered_bind (Fallible.answered_attempt (answered_settled agrees read)),
    Fallible.answered_bind unlocked]
  rfl

end

def WatermarkInRange (watermark : Watermark) : Prop :=
  watermark.repositoryID.bytes.length = 32 ∧ watermark.generation ≤ maxUint64 ∧
    watermark.commit.bytes.length = 32

/-- The length of the file for a watermark: its fixed text, the channel as a JSON string,
the digits of the generation, and the repository when there is one. -/
def watermarkFileLength (channel : Channel) (watermark : Watermark) : Nat :=
  113 + (Json.encodeString channel).length + (Json.encodeNat watermark.generation).length +
    if watermark.repositoryID.isZero then 0 else 83

theorem length_encodeWatermark {channel : Channel} {watermark : Watermark}
    (range : WatermarkInRange watermark) :
    (encodeWatermark channel watermark).length = watermarkFileLength channel watermark := by
  obtain ⟨repository, _, commit⟩ := range
  have format : (Json.encodeInt watermarkFormatVersion).length = 1 := by decide
  have generation : Json.encodeInt (watermark.generation : Int) =
      Json.encodeNat watermark.generation := by
    rw [Json.encodeInt, if_neg (by omega)]
    rfl
  have names : (Json.encodeString (ascii "format")).length = 8 ∧
      (Json.encodeString (ascii "channel")).length = 9 ∧
      (Json.encodeString (ascii "repository_id")).length = 15 ∧
      (Json.encodeString (ascii "generation")).length = 12 ∧
      (Json.encodeString (ascii "commit")).length = 8 := by
    decide +kernel
  obtain ⟨formatName, channelName, repositoryName, generationName, commitName⟩ := names
  by_cases zero : watermark.repositoryID.isZero = true
  · simp only [encodeWatermark, Shape.json, WatermarkFile.shape, watermarkFile, WatermarkFile.fields,
      zero, if_true, List.cons_append, List.nil_append, Json.Value.encode,
      Json.encodeFields, natValue, digestValue, List.length_cons, List.length_append,
      List.length_nil, Json.length_encodeString_hex, formatName, channelName, generationName,
      commitName, format, generation, commit, watermarkFileLength, Bool.false_eq_true, if_false]
    omega
  · have nonempty : hexEncode watermark.repositoryID.bytes ≠ [] := by
      intro empty
      have length := TextEncoding.length_hexEncode watermark.repositoryID.bytes
      rw [empty, repository] at length
      cases length
    simp only [encodeWatermark, Shape.json, WatermarkFile.shape, watermarkFile, WatermarkFile.fields,
      zero, nonempty, List.cons_append, List.nil_append, Json.Value.encode,
      Json.encodeFields, natValue, digestValue, List.length_cons, List.length_append,
      List.length_nil, Json.length_encodeString_hex, formatName, channelName, repositoryName,
      generationName, commitName, format, generation, repository, commit, watermarkFileLength,
      Bool.false_eq_true, if_false, if_true]
    omega

theorem decode_encodeWatermark {channel : Channel} {watermark : Watermark}
    (range : WatermarkInRange watermark) (named : validateChannel channel = .ok ())
    (nonzero : ¬(watermark.generation = 0 ∨ watermark.commit.isZero))
    (small : (encodeWatermark channel watermark).length ≤ maxWatermarkBytes) :
    decodeWatermark channel (encodeWatermark channel watermark) = .ok watermark := by
  obtain ⟨repository, generation, commit⟩ := range
  have text : validUTF8 (watermarkFile channel watermark).repository = true := by
    unfold watermarkFile
    split
    · rfl
    · exact validUTF8_of_ascii fun _ => TextEncoding.hexEncode_small
  have returns : WatermarkFile.shape.Returns (watermarkFile channel watermark) :=
    WatermarkFile.returns rfl (validUTF8_of_channel named) text generation commit
  have bounded : (encodeWatermark channel watermark).length ≤ maxMetadataObjectBytes :=
    Nat.le_trans small (by decide)
  have decoded : decodeJSON WatermarkFile.shape.json (encodeWatermark channel watermark) =
      .ok (watermarkFile channel watermark) := returns.decode bounded
  refine bind_ok.mpr ⟨_, mapError_ok.mpr decoded, bind_ok.mpr ⟨(), failIf_ok.mpr ?_, ?_⟩⟩
  · simpa [watermarkFile] using nonzero
  · by_cases zero : watermark.repositoryID.isZero = true
    · have absent : watermark.repositoryID = .zero := by simpa [RepositoryID.isZero] using zero
      simp only [watermarkFile, zero, if_true]
      rw [← absent]
    · have nonempty : hexEncode watermark.repositoryID.bytes ≠ [] := by
        intro empty
        have length := TextEncoding.length_hexEncode watermark.repositoryID.bytes
        rw [empty, repository] at length
        cases length
      simp [watermarkFile, zero, nonempty, parseRepositoryID, TextEncoding.hexDecode_hexEncode,
        repository]

theorem answered_loadWatermark {past : History} {channel : Channel} {watermark : Watermark}
    {file : Nat} (visible : Volume.current past = some file)
    (stores : StoresWatermark channel watermark (Volume.contents file past)) :
    (FileWatermarkStore.load channel).answered (healthy past) = some (.ok (some watermark)) := by
  obtain ⟨nonempty, small, decoded⟩ := stores
  have context : Filing.contextErr.answered (healthy past) = some (.ok ()) := rfl
  have validated : (Filing.validateOpenedPath (fileInfo past file) file).answered (healthy past) =
      some (.ok (fileInfo past file)) := rfl
  have read : (Filing.readAll file (maxWatermarkBytes + 1)).answered (healthy past) =
      some (.ok (Volume.contents file past)) := by
    rw [← List.take_of_length_le (Nat.le_succ_of_le small)]
    rfl
  unfold FileWatermarkStore.load
  rw [Fallible.answered_bind context]
  refine answered_lockedLoad (extends_healthy past)
    (answered_withOpened (extends_healthy past) visible ?_)
  have sized : ¬((fileInfo past file).size < 1 ∨ (fileInfo past file).size > maxWatermarkBytes) := by
    simp only [fileInfo]
    omega
  rw [Fallible.answered_bind validated, Fallible.answered_bind (answered_failIf sized),
    Fallible.answered_bind (answered_labelled read), decoded]
  rfl

namespace SampleWatermark

def storing (channel : Channel) : List (Turn Unit FileCall) :=
  [.call 0 fun _ => some (.swapWatermark channel none (watermark 1)), .proceed 0 10]

def swapped : FileOut → Bool
  | .swapped (.ok ()) => true
  | _ => false

theorem swapped_iff {out : FileOut} : swapped out = true ↔ out = .swapped (.ok ()) := by
  constructor
  · intro same
    unfold swapped at same
    split at same
    · rfl
    · cases same
  · rintro rfl
    rfl

/-- The channel of 700 control characters fits in an object key, but its JSON does not fit
in a watermark file. -/
def escaped : Channel := List.replicate 700 1

end SampleWatermark

end S3Disk.LocalState
