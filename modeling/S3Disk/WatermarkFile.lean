import S3Disk.JsonShapes
import S3Disk.LocalFiles
import S3Disk.Repository

/-! `FileWatermarkStore`: one watermark in one file. -/

namespace S3Disk

open Concurrent
open Json (Value)

def watermarkFormatVersion : Int := 1
def maxWatermarkBytes : Nat := 4096

structure WatermarkFile where
  format : Int
  channel : Channel
  repository : Bytes
  generation : Nat
  commit : Digest
  deriving DecidableEq, Repr

namespace WatermarkFile

def fields (file : WatermarkFile) : List (Json.Text × Value) :=
  [(ascii "format", .number file.format), (ascii "channel", .string file.channel)] ++
    (if file.repository = [] then [] else [(ascii "repository_id", .string file.repository)]) ++
    [(ascii "generation", natValue file.generation), (ascii "commit", digestValue file.commit)]

def ofFields (fields : List (Json.Text × Value)) : Option WatermarkFile := do
  let format ← readInt (fieldOf "format" fields)
  let channel ← readText (fieldOf "channel" fields)
  let repository ← readText (fieldOf "repository_id" fields)
  let generation ← readUint64 (fieldOf "generation" fields)
  let commit ← readDigest (fieldOf "commit" fields)
  return ⟨format, channel, repository, generation, commit⟩

def shape : Shape WatermarkFile where
  toValue file := .object file.fields
  ofValue
    | .object fields => ofFields fields
    | _ => none

theorem fields_named (file : WatermarkFile) : Named file.fields := by
  refine .append (.append (.cons (by decide +kernel) (.cons (by decide +kernel) .nil)) ?_)
    (.cons (by decide +kernel) (.cons (by decide +kernel) .nil))
  split
  · exact .nil
  · exact .cons (by decide +kernel) .nil

theorem read_fields (file : WatermarkFile) :
    fieldOf "format" file.fields = some (.number file.format) ∧
    fieldOf "channel" file.fields = some (.string file.channel) ∧
    fieldOf "repository_id" file.fields =
      (if file.repository = [] then none else some (.string file.repository)) ∧
    fieldOf "generation" file.fields = some (natValue file.generation) ∧
    fieldOf "commit" file.fields = some (digestValue file.commit) := by
  by_cases plain : file.repository = []
  · simp only [fields, plain, if_true]
    exact ⟨rfl, rfl, rfl, rfl, rfl⟩
  · simp only [fields, plain, if_false]
    exact ⟨rfl, rfl, rfl, rfl, rfl⟩

theorem returns {file : WatermarkFile} (format : file.format = watermarkFormatVersion)
    (channel : validUTF8 file.channel = true) (repository : validUTF8 file.repository = true)
    (generation : file.generation ≤ maxUint64) (commit : file.commit.bytes.length = 32) :
    shape.Returns file := by
  have coerced : (shape.toValue file).coerce = .object (Json.coerceFields file.fields) := by
    simp [shape, Value.coerce]
  have read : ∀ name, fieldOf name (Json.coerceFields file.fields) =
      (fieldOf name file.fields).map Value.coerce := fun _ => fieldOf_coerce file.fields_named
  obtain ⟨formatField, channelField, repositoryField, generationField, commitField⟩ :=
    file.read_fields
  have repositoryRead : readText ((fieldOf "repository_id" file.fields).map Value.coerce) =
      some file.repository := by
    rw [repositoryField]
    by_cases plain : file.repository = []
    · simp [plain, readText]
    · simp [plain, coerce_text repository, readText]
  have formatRead : readInt ((fieldOf "format" file.fields).map Value.coerce) =
      some file.format := by
    rw [formatField, format]
    rfl
  have channelRead : readText ((fieldOf "channel" file.fields).map Value.coerce) =
      some file.channel := by
    rw [channelField, Option.map_some, coerce_text channel]
    rfl
  have generationRead : readUint64 ((fieldOf "generation" file.fields).map Value.coerce) =
      some file.generation := by
    rw [generationField]
    exact readUint64_value generation
  have commitRead : readDigest ((fieldOf "commit" file.fields).map Value.coerce) =
      some file.commit := by
    rw [commitField, Option.map_some, coerce_digest, readDigest_value commit]
  rw [Shape.Returns, coerced]
  show ofFields _ = some file
  simp only [ofFields, read, formatRead, channelRead, repositoryRead, generationRead, commitRead]
  rfl

end WatermarkFile

def watermarkFile (channel : Channel) (next : Watermark) : WatermarkFile where
  format := watermarkFormatVersion
  channel
  repository := if next.repositoryID.isZero then [] else hexEncode next.repositoryID.bytes
  generation := next.generation
  commit := next.commit

def encodeWatermark (channel : Channel) (next : Watermark) : Bytes :=
  WatermarkFile.shape.json.marshal (watermarkFile channel next)

def decodeWatermark (channel : Channel) (data : Bytes) : Except Err Watermark := do
  let value ← (decodeJSON WatermarkFile.shape.json data).mapError
    (·.within ["s3disk: decode watermark"])
  failIf (value.format ≠ watermarkFormatVersion ∨ value.channel ≠ channel ∨ value.generation = 0 ∨
      value.commit.isZero)
    (Sentinel.corruptObject.tagged ["invalid or mismatched watermark"])
  if value.repository = [] then .ok ⟨.zero, value.generation, value.commit⟩
  else match parseRepositoryID value.repository with
    | some id =>
        if id.isZero then
          .error (Sentinel.corruptObject.tagged ["invalid watermark repository ID"])
        else .ok ⟨id, value.generation, value.commit⟩
    | none => .error (Sentinel.corruptObject.tagged ["invalid watermark repository ID"])

namespace FileWatermarkStore

open Filing

def loadLocked (channel : Channel) : Filing (Option Watermark) :=
  withOpened "watermark" fun linked file => do
    let info ← validateOpenedPath linked file
    failIf (info.size < 1 ∨ info.size > maxWatermarkBytes)
      (Sentinel.corruptObject.tagged ["invalid watermark file"])
    let data ← Filing.labelled ["s3disk: read watermark"] (readAll file (maxWatermarkBytes + 1))
    .ofExcept (decodeWatermark channel data)

def load (channel : Channel) : Filing (Option Watermark) := do
  Filing.contextErr
  lockedLoad (settled (loadLocked channel))

def checkAdvance (current next : Watermark) : Except Err Unit :=
  if next.repositoryID ≠ current.repositoryID then .error Sentinel.untrustedReference.error
  else if next.generation < current.generation then .error Sentinel.rollbackDetected.error
  else if next.generation = current.generation ∧ next.commit ≠ current.commit then
    .error Sentinel.splitBrain.error
  else .ok ()

def compareAndSwap (channel : Channel) (expected : Option Watermark) (next : Watermark) :
    Filing Unit := do
  Filing.contextErr
  .ofExcept (validateChannel channel)
  failIf (next.generation = 0 ∨ next.commit.isZero)
    (Sentinel.corruptObject.tagged ["invalid watermark"])
  lockedSwap do
    let current ← loadLocked channel
    failIf (current ≠ expected) Sentinel.precondition.error
    .ofExcept (current.forM (checkAdvance · next))
    if current = some next then syncParentDirectory
    else replaceFile "watermark" ".s3disk-watermark-*" (encodeWatermark channel next)

end FileWatermarkStore

end S3Disk
