import S3Disk.Library.Checks
import S3Disk.PathFacts
import S3Disk.SourceTree

/-! The checks of a manifest read from the store, and what they establish. -/

namespace S3Disk

open Concurrent

def maxRepresentableFileBytes : Int := maxFileChunks * maxChunkObjectBytes

def validateDirEntry (entry : DirEntry) : Except Err Unit := do
  failIf (entry.name = [] ∨ entry.name.length > maxEntryNameBytes ∨ entry.name = dot ∨
      entry.name = dotDot ∨ slash ∈ entry.name ∨ 0 ∈ entry.name ∨ entry.node.isZero)
    (Sentinel.corruptObject.tagged ["invalid directory entry"])
  failIf (entry.mode > 0o777 ∨ entry.size < 0)
    (Sentinel.corruptObject.tagged
      ["invalid mode or size for directory entry ", .quoted entry.name])
  match entry.type with
  | .directory =>
      failIf (entry.size ≠ 0)
        (Sentinel.corruptObject.tagged
          ["directory entry ", .quoted entry.name, " has non-zero size"])
  | .file =>
      failIf (entry.size > maxRepresentableFileBytes)
        (Sentinel.corruptObject.wraps (Sentinel.resourceLimit.tagged
          ["file entry ", .quoted entry.name, " exceeds maximum size"]))
  | .symlink =>
      failIf (entry.size = 0 ∨ entry.size > maxSymlinkTargetBytes)
        (Sentinel.corruptObject.wraps (Sentinel.resourceLimit.tagged
          ["symlink entry ", .quoted entry.name, " has invalid size"]))

def validateDirEntries : Option Bytes → List DirEntry → Except Err Unit
  | _, [] => .ok ()
  | previous, entry :: rest => do
      validateDirEntry entry
      failIf (∃ name ∈ previous, entry.name ≤ name)
        (Sentinel.corruptObject.tagged ["unsorted or duplicate directory entry"])
      validateDirEntries (some entry.name) rest

def validateDirectoryManifest (manifest : DirManifest) : Except Err Unit := do
  failIf (manifest.format ≠ objectFormatVersion)
    (Sentinel.corruptObject.tagged ["directory format ", .number manifest.format])
  failIf (manifest.entries.length > maxDirectoryEntries)
    (Sentinel.corruptObject.wraps (Sentinel.resourceLimit.tagged
      ["directory has ", .number manifest.entries.length, " entries (maximum ",
        .number maxDirectoryEntries, ")"]))
  validateDirEntries none manifest.entries

def validateChunkLayout (maxSize size : Int) : Int → List ChunkRef → Except Err Int
  | offset, [] => .ok offset
  | offset, chunk :: rest => do
      failIf (chunk.offset ≠ offset ∨ chunk.size ≤ 0 ∨ chunk.size > maxSize ∨ chunk.digest.isZero)
        (Sentinel.corruptObject.tagged ["invalid chunk layout"])
      let offset := offset + chunk.size
      failIf (offset < 0 ∨ offset > size)
        (Sentinel.corruptObject.tagged ["chunk layout exceeds file size"])
      validateChunkLayout maxSize size offset rest

def validateFileManifest (wire : Wire) (manifest : FileManifest) : Except Err Unit := do
  failIf (manifest.format ≠ objectFormatVersion ∨ manifest.algorithm ≠ "rabin-v1" ∨
    manifest.size < 0) (Sentinel.corruptObject.tagged ["invalid file manifest header"])
  failIf (manifest.chunks.length > maxFileChunks)
    (Sentinel.corruptObject.wraps (Sentinel.resourceLimit.tagged
      ["file has ", .number manifest.chunks.length, " chunks (maximum ",
        .number maxFileChunks, ")"]))
  let profile : ChunkingOptions :=
    ⟨manifest.minSize, manifest.avgSize, manifest.maxSize, manifest.polynomial⟩
  failIf ((profile.normalized wire).toOption ≠ some profile)
    (Sentinel.corruptObject.tagged ["invalid chunking profile"])
  let offset ← validateChunkLayout manifest.maxSize manifest.size 0 manifest.chunks
  failIf (offset ≠ manifest.size)
    (Sentinel.corruptObject.tagged ["chunk layout size mismatch"])

def validateSymlinkManifest (manifest : SymlinkManifest) : Except Err Unit :=
  failIf (manifest.format ≠ objectFormatVersion ∨ manifest.target = [] ∨
    manifest.target.length > maxSymlinkTargetBytes ∨ 0 ∈ manifest.target)
    (Sentinel.corruptObject.tagged ["invalid symlink manifest"])

structure EntryValid (entry : DirEntry) : Prop where
  proper : ProperName entry.name
  short : entry.name.length ≤ maxEntryNameBytes
  noZero : 0 ∉ entry.name
  node : entry.node.isZero = false
  mode : entry.mode ≤ 0o777
  size : 0 ≤ entry.size
  directorySize : entry.type = .directory → entry.size = 0
  fileSize : entry.type = .file → entry.size ≤ maxRepresentableFileBytes
  linkSize : entry.type = .symlink → entry.size ≠ 0 ∧ entry.size ≤ maxSymlinkTargetBytes

theorem validateDirEntry_ok {entry : DirEntry} :
    validateDirEntry entry = .ok () ↔ EntryValid entry := by
  constructor
  · intro checked
    simp only [validateDirEntry, bind_ok, failIf_ok, not_or] at checked
    obtain ⟨_, ⟨nonempty, short, notDot, notDotDot, noSlash, noZero, node⟩, _, ⟨mode, size⟩,
      sized⟩ := checked
    refine ⟨⟨nonempty, notDot, notDotDot, noSlash⟩, by omega, noZero, by simpa using node,
      by omega, by omega, ?_, ?_, ?_⟩
    · intro type
      simpa [type, failIf_ok] using sized
    · intro type
      simpa [type, failIf_ok] using sized
    · intro type
      simpa [type, failIf_ok] using sized
  · intro valid
    simp only [validateDirEntry, bind_ok, failIf_ok, not_or]
    have named := valid.proper
    have short := valid.short
    have mode := valid.mode
    have size := valid.size
    refine ⟨(), ⟨named.nonempty, by omega, named.notDot, named.notDotDot, named.noSlash,
      valid.noZero, by simp [valid.node]⟩, (), ⟨by omega, by omega⟩, ?_⟩
    cases type : entry.type with
    | directory => simpa [failIf_ok] using valid.directorySize type
    | file => simpa [failIf_ok] using valid.fileSize type
    | symlink => simpa [failIf_ok] using valid.linkSize type

theorem validateDirEntries_ok {previous : Option Bytes} {entries : List DirEntry} :
    validateDirEntries previous entries = .ok () ↔
      (∀ entry ∈ entries, EntryValid entry) ∧
      entries.Pairwise (fun left right => left.name < right.name) ∧
      ∀ name ∈ previous, ∀ entry ∈ entries, name < entry.name := by
  induction entries generalizing previous with
  | nil => simp [validateDirEntries]
  | cons first rest ih =>
      simp only [validateDirEntries, bind_ok, failIf_ok, ih]
      constructor
      · rintro ⟨_, firstValid, _, above, restValid, sorted, follow⟩
        have ordered : ∀ name ∈ previous, name < first.name := fun name member =>
          List.not_le.mp fun below => above ⟨name, member, below⟩
        have later : ∀ entry ∈ rest, first.name < entry.name := follow first.name rfl
        refine ⟨by simpa using ⟨validateDirEntry_ok.mp firstValid, restValid⟩,
          List.pairwise_cons.mpr ⟨later, sorted⟩, ?_⟩
        intro name member entry inside
        rcases List.mem_cons.mp inside with rfl | inRest
        · exact ordered name member
        · exact List.lt_trans (ordered name member) (later entry inRest)
      · rintro ⟨valid, sorted, above⟩
        obtain ⟨later, restSorted⟩ := List.pairwise_cons.mp sorted
        refine ⟨(), validateDirEntry_ok.mpr (valid first (by simp)), (), ?_,
          fun entry inside => valid entry (by simp [inside]), restSorted, ?_⟩
        · rintro ⟨name, member, below⟩
          exact List.not_le.mpr (above name member first (by simp)) below
        · intro name same entry inside
          obtain rfl : first.name = name := by simpa using same
          exact later entry inside

structure DirectoryValid (manifest : DirManifest) : Prop where
  format : manifest.format = objectFormatVersion
  count : manifest.entries.length ≤ maxDirectoryEntries
  entries : ∀ entry ∈ manifest.entries, EntryValid entry
  sorted : manifest.entries.Pairwise (fun left right => left.name < right.name)

theorem validateDirectoryManifest_ok {manifest : DirManifest} :
    validateDirectoryManifest manifest = .ok () ↔ DirectoryValid manifest := by
  simp only [validateDirectoryManifest, bind_ok, failIf_ok, validateDirEntries_ok, not_not]
  constructor
  · rintro ⟨_, format, _, count, entries, sorted, _⟩
    exact ⟨format, by omega, entries, sorted⟩
  · rintro ⟨format, count, entries, sorted⟩
    exact ⟨(), format, (), by omega, entries, sorted, by simp⟩

end S3Disk
