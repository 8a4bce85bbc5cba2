import Mathlib.Data.List.Sort
import S3Disk.Paths

/-! Building the immutable objects of a source tree: chunks, file, symlink and
directory manifests, bottom up, with the checks that the source did not change
while it was read. -/

namespace S3Disk

open Concurrent

def ChunkingOptions.normalized (wire : Wire) (options : ChunkingOptions) :
    Except Err ChunkingOptions :=
  let options : ChunkingOptions :=
    { minSize := if options.minSize = 0 then 256 * 1024 else options.minSize
      averageSize := if options.averageSize = 0 then 1024 * 1024 else options.averageSize
      maxSize := if options.maxSize = 0 then 4 * 1024 * 1024 else options.maxSize
      polynomial := if options.polynomial = 0 then defaultPolynomial else options.polynomial }
  if options.minSize < 64 ∨ options.minSize ≥ options.averageSize ∨
      options.averageSize ≥ options.maxSize then
    .error (Sentinel.invalidChunking.tagged ["require 64 <= min < average < max"])
  else if options.averageSize.toNat &&& (options.averageSize.toNat - 1) ≠ 0 then
    .error (Sentinel.invalidChunking.tagged ["average size must be a power of two"])
  else if options.maxSize > 64 * 1024 * 1024 then
    .error (Sentinel.invalidChunking.tagged ["maximum chunk size exceeds 64 MiB"])
  else if options.polynomial.log2 ≠ 53 ∨ wire.irreducible options.polynomial = false then
    .error (Sentinel.invalidChunking.tagged ["polynomial is not irreducible degree 53"])
  else .ok options

inductive PathSelection where
  | node (includeAll : Bool) (children : List (Bytes × PathSelection))

namespace PathSelection

def includeAll : PathSelection → Bool
  | node includeAll _ => includeAll

def children : PathSelection → List (Bytes × PathSelection)
  | node _ children => children

def child (selection : PathSelection) (name : Bytes) : Option PathSelection :=
  selection.children.lookup name

def empty : PathSelection := node false []

def setChild (selection : PathSelection) (name : Bytes) (child : PathSelection) : PathSelection :=
  if selection.children.any (·.1 == name) then
    node selection.includeAll (selection.children.map fun entry =>
      if entry.1 = name then (name, child) else entry)
  else node selection.includeAll (selection.children ++ [(name, child)])

end PathSelection

def selectComponents (value : Bytes) :
    List Bytes → PathSelection → Nat → Proc (PathSelection × Nat)
  | [], node, count => do
      failIf node.includeAll
        (Sentinel.invalidPath.tagged ["selected path ", .quoted value, " is duplicated"])
      failIf (node.children ≠ [])
        (Sentinel.invalidPath.tagged
          ["selected path ", .quoted value, " covers an already selected descendant"])
      return (.node true node.children, count)
  | component :: rest, node, count => do
      contextErr
      failIf (component = [] ∨ component.length > maxEntryNameBytes)
        (Sentinel.invalidPath.wraps (Sentinel.resourceLimit.tagged
          ["selected path component exceeds ", .number maxEntryNameBytes, " bytes"]))
      failIf node.includeAll
        (Sentinel.invalidPath.tagged
          ["selected path ", .quoted value, " is covered by an already selected ancestor"])
      match node.child component with
      | some child =>
          let (child, count) ← selectComponents value rest child count
          return (node.setChild component child, count)
      | none =>
          failIf (count + 1 > maxDirectoryEntries)
            (Sentinel.invalidPath.wraps (Sentinel.resourceLimit.tagged
              ["selection exceeds ", .number maxDirectoryEntries, " path components"]))
          let (child, count) ← selectComponents value rest .empty (count + 1)
          return (node.setChild component child, count)

def selectPaths : List Bytes → PathSelection → Nat → Nat → Proc PathSelection
  | [], root, _, _ => return root
  | value :: rest, root, count, totalBytes => do
      contextErr
      failIf (value = [] ∨ 0 ∈ value ∨ pathIsAbs value)
        (Sentinel.invalidPath.tagged
          ["selected path ", .quoted value, " is not a canonical relative path"])
      failIf (value.length > maxLookupPathBytes)
        (Sentinel.invalidPath.wraps (Sentinel.resourceLimit.tagged
          ["selected path exceeds ", .number maxLookupPathBytes, " bytes"]))
      let totalBytes := totalBytes + value.length
      failIf (totalBytes > maxMetadataObjectBytes)
        (Sentinel.invalidPath.wraps (Sentinel.resourceLimit.tagged
          ["selected paths exceed ", .number maxMetadataObjectBytes, " aggregate bytes"]))
      failIf (pathClean value ≠ value ∨ escapes value)
        (Sentinel.invalidPath.tagged
          ["selected path ", .quoted value, " is not a canonical relative path"])
      let components := if value = dot then [] else splitSlash value
      failIf (components.length > maxLookupDepth)
        (Sentinel.invalidPath.wraps (Sentinel.resourceLimit.tagged
          ["selected path exceeds ", .number maxLookupDepth, " components"]))
      let (root, count) ← selectComponents value components root count
      selectPaths rest root count totalBytes

def newPathSelectionContext (values : List Bytes) : Proc (Option PathSelection) := do
  contextErr
  failIf (values = []) (Sentinel.invalidPath.tagged ["selected paths must not be empty"])
  failIf (values.length > maxDirectoryEntries)
    (Sentinel.invalidPath.wraps (Sentinel.resourceLimit.tagged
      ["selection exceeds ", .number maxDirectoryEntries, " paths"]))
  let root ← selectPaths values .empty 0 0
  return if root.includeAll then none else some root

structure ProtectedSourceFile where
  path : Bytes
  allowMissingInitially : Bool
  deriving DecidableEq, Repr

structure TreeOptions where
  chunking : ChunkingOptions
  stableReadTries : Nat
  symlinks : SymlinkPolicy
  deriving DecidableEq, Repr

section

variable (repository : Repository) (options : TreeOptions) (sourceRoot : Nat)

def walkChunks (path : Bytes) (handle : Nat) (chunking : ChunkingOptions) :
    Nat → List ChunkRef → Int → Proc (List ChunkRef × Int)
  | budget, chunks, offset => do
      contextErr
      match ← (splitterNext handle chunking).attempt with
      | .error error =>
          if error = Sentinel.endOfFile.error then return (chunks, offset) else throw error
      | .ok data => match budget with
        | 0 => throw (Sentinel.resourceLimit.tagged
            ["file ", .quoted path, " exceeds ", .number maxFileChunks, " chunks"])
        | budget + 1 => do
            let digest ← repository.putImmutable .chunk data
            failIf (digest ≠ repository.wire.digestObject .chunk data)
              (Sentinel.corruptObject.tagged ["chunk digest changed during upload"])
            walkChunks path handle chunking budget (chunks ++ [⟨offset, data.length, digest⟩])
              (offset + data.length)

def uploadChunks (path : Bytes) (handle : Nat) : Proc (List ChunkRef × Int) := do
  let chunking ← .ofExcept (options.chunking.normalized repository.wire)
  walkChunks repository path handle chunking maxFileChunks [] 0

def fileManifestOf (chunks : List ChunkRef) (size : Int) : FileManifest :=
  { format := objectFormatVersion
    algorithm := "rabin-v1"
    minSize := options.chunking.minSize
    avgSize := options.chunking.averageSize
    maxSize := options.chunking.maxSize
    polynomial := options.chunking.polynomial
    size
    chunks }

def buildFile (path : Bytes) (expected : FileInfo) (secured : List FileInfo) :
    Nat → Proc (Digest × Int × FileInfo)
  | 0 => throw (Sentinel.unstableFile.tagged [.quoted path])
  | attempts + 1 => do
      match ← (rootOpen sourceRoot path).attempt with
      | .error error =>
          failIf (error.is .osNotExist)
            (Sentinel.unstableFile.wraps (error.within ["open ", .quoted path]))
          throw (error.within ["open ", .quoted path])
      | .ok file => do
          match ← (handleStat file).attempt with
          | .error error => throw (error.within ["stat open file ", .quoted path])
          | .ok before => do
              failIf (before.isRegular = false ∨ sameFile expected before = false)
                (Sentinel.unstableFile.tagged
                  ["file identity changed before read: ", .quoted path])
              failIf (secured.any (sameFile before))
                (Sentinel.protectedSourceFile.tagged ["source entry ", .quoted path])
              failIf (before.size > maxFileChunks * options.chunking.maxSize)
                (Sentinel.resourceLimit.tagged
                  ["file ", .quoted path, " exceeds the maximum representable chunk count"])
              let walked ← (uploadChunks repository options path file).attempt
              let statted ← (handleStat file).attempt
              let closed ← (handleClose file).attempt
              match walked, statted, closed with
              | .error error, _, _ => throw (error.within ["chunk ", .quoted path])
              | _, .error error, _ => throw (error.within ["stat after read ", .quoted path])
              | _, _, .error error => throw (error.within ["close ", .quoted path])
              | .ok (chunks, offset), .ok after, .ok () => do
                  match ← (rootStat sourceRoot path).attempt with
                  | .ok current =>
                      if sameFile after current ∧ stableFileInfo before after ∧ after.size = offset then
                        let digest ← repository.putManifest .file repository.wire.file
                          (fileManifestOf options chunks offset)
                        return (digest, offset, after)
                      else buildFile path expected secured attempts
                  | .error error =>
                      failIf (error.is .osNotExist = false) error
                      buildFile path expected secured attempts

def buildSymlink (linkPath : Bytes) (expected : FileInfo) : Proc (Digest × Int) := do
  let unstable := Sentinel.unstableFile.tagged
    ["symlink identity changed before read: ", .quoted linkPath]
  match ← (rootLstat sourceRoot linkPath).attempt with
  | .error _ => throw unstable
  | .ok before => do
      failIf (sameFile expected before = false ∨ stableFileInfo expected before = false ∨
        before.isSymlink = false) unstable
      match ← (rootReadlink sourceRoot linkPath).attempt with
      | .error error => throw (error.within ["readlink ", .quoted linkPath])
      | .ok target => do
          let changed := Sentinel.unstableFile.tagged
            ["symlink changed during read: ", .quoted linkPath]
          match ← (rootLstat sourceRoot linkPath).attempt with
          | .error _ => throw changed
          | .ok after => do
              failIf (sameFile before after = false ∨ stableFileInfo before after = false) changed
              failIf (target = [] ∨ target.length > maxSymlinkTargetBytes)
                (Sentinel.resourceLimit.tagged
                  ["symlink target exceeds protocol limit: ", .quoted linkPath])
              .ofExcept (match options.symlinks with
                | .preserve => .ok ()
                | .rejectExternal => (validateSafeSymlink linkPath target).mapError fun error =>
                    ⟨error.sentinels, error.message ++
                      [.text ": ", .quoted linkPath, .text " -> ", .quoted target]⟩)
              let digest ← repository.putManifest .symlink repository.wire.symlink
                ⟨objectFormatVersion, target⟩
              return (digest, target.length)

def readEntries (directory : Bytes) (handle : Nat) : Nat → List Bytes → Proc (List Bytes)
  | 0, _ => halt
  | batches + 1, entries => do
      contextErr
      let (batch, readErr) ← handleReadDir handle 1024
      let entries := entries ++ batch
      failIf (entries.length > maxDirectoryEntries)
        (Sentinel.resourceLimit.tagged
          ["directory ", .quoted directory, " exceeds ", .number maxDirectoryEntries, " entries"])
      match readErr with
      | none => readEntries directory handle batches entries
      | some error =>
          failIf (error.is .endOfFile = false)
            (error.within ["read directory ", .quoted directory])
          return entries

/-- The selection below one entry: a selected path that is not the exact one keeps
its own children. -/
def nestedSelection (child : Option PathSelection) : Option PathSelection :=
  child.filter fun selection => !selection.includeAll

def buildEntry (directory : Bytes) (secured : List FileInfo) (deepest : Bool)
    (buildChild : Bytes → FileInfo → Option PathSelection → Proc Digest)
    (name : Bytes) (childSelection : Option PathSelection) : Proc DirEntry := do
  failIf (name = [] ∨ name.length > maxEntryNameBytes)
    (Sentinel.resourceLimit.tagged ["invalid source entry name length in ", .quoted directory])
  failIf deepest
    (Sentinel.resourceLimit.tagged ["source path exceeds ", .number maxLookupDepth, " components"])
  let childPath := pathJoin directory name
  failIf (childPath.length > maxLookupPathBytes)
    (Sentinel.resourceLimit.tagged ["source path exceeds ", .number maxLookupPathBytes, " bytes"])
  match ← (rootLstat sourceRoot childPath).attempt with
  | .error error => throw (error.within ["lstat source entry ", .quoted childPath])
  | .ok info => do
      failIf ((nestedSelection childSelection).isSome ∧ info.isDir = false)
        (Sentinel.notDirectory.tagged
          ["selected path ", .quoted childPath, " has descendants but is not a directory"])
      match info.type with
      | .regular =>
          let (node, size, stableInfo) ← buildFile repository options sourceRoot childPath info
            secured options.stableReadTries
          return ⟨name, .file, node, stableInfo.perm, size, stableInfo.modTime⟩
      | .directory =>
          let node ← buildChild childPath info (nestedSelection childSelection)
          return ⟨name, .directory, node, info.perm, 0,
            if (nestedSelection childSelection).isSome then 0 else info.modTime⟩
      | .symlink =>
          let (node, size) ← buildSymlink repository options sourceRoot childPath info
          return ⟨name, .symlink, node, info.perm, size, info.modTime⟩
      | .other => throw (Sentinel.unsupportedType.tagged
          [.quoted childPath, " (", .fileMode info.perm info.flags, ")"])

def buildEntries (directory : Bytes) (secured : List FileInfo) (deepest : Bool)
    (buildChild : Bytes → FileInfo → Option PathSelection → Proc Digest)
    (selection : Option PathSelection) :
    List Bytes → List DirEntry → List Bytes → Proc (List DirEntry × List Bytes)
  | [], items, matched => return (items, matched)
  | name :: rest, items, matched => do
      contextErr
      match selection with
      | none =>
          let item ← buildEntry repository options sourceRoot directory secured deepest buildChild
            name none
          buildEntries directory secured deepest buildChild selection rest (items ++ [item]) matched
      | some chosen => match chosen.child name with
        | none =>
            buildEntries directory secured deepest buildChild selection rest items matched
        | some child =>
            let item ← buildEntry repository options sourceRoot directory secured deepest
              buildChild name (some child)
            buildEntries directory secured deepest buildChild selection rest (items ++ [item])
              (name :: matched)

def sortEntries (items : List DirEntry) : List DirEntry :=
  items.insertionSort fun left right => left.name ≤ right.name

def missingNames (selection : Option PathSelection) (matched : List Bytes) : List Bytes :=
  match selection with
  | none => []
  | some chosen => ((chosen.children.map (·.1)).filter (· ∉ matched)).insertionSort (· ≤ ·)

/-- Scan and upload one directory; the first argument counts the levels that the
protocol still allows below the one above. -/
def buildDirectorySelection (secured : List FileInfo) :
    Nat → Bytes → FileInfo → Option PathSelection → Proc Digest
  | 0, _, _, _ => do
      contextErr
      throw (Sentinel.resourceLimit.tagged ["source path exceeds protocol depth or length"])
  | levels + 1, directory, expected, selection => do
      contextErr
      failIf (directory.length > maxLookupPathBytes)
        (Sentinel.resourceLimit.tagged ["source path exceeds protocol depth or length"])
      match ← (rootOpen sourceRoot directory).attempt with
      | .error error => throw (error.within ["open directory ", .quoted directory])
      | .ok handle => do
          match ← (handleStat handle).attempt with
          | .error error => throw (error.within ["stat opened directory ", .quoted directory])
          | .ok before => do
              failIf (before.isDir = false ∨ sameFile expected before = false ∨
                  stableFileInfo expected before = false)
                (Sentinel.unstableFile.tagged
                  ["directory identity changed before scan: ", .quoted directory])
              let entries ← readEntries directory handle (maxDirectoryEntries + 2) []
              contextErr
              match ← (handleClose handle).attempt with
              | .error error =>
                  throw (error.within ["close directory ", .quoted directory, " after scan"])
              | .ok () => do
                  let (items, matched) ← buildEntries repository options sourceRoot directory
                    secured (levels == 0) (buildDirectorySelection secured levels) selection
                    entries [] []
                  contextErr
                  match ← (rootOpen sourceRoot directory).attempt with
                  | .error error => throw (Sentinel.unstableFile.tagged
                      ("reopen directory after scan " :: .quoted directory :: ": " :: error.message))
                  | .ok afterHandle => do
                      let statted ← (handleStat afterHandle).attempt
                      let closed ← (handleClose afterHandle).attempt
                      let listed ← (rootLstat sourceRoot directory).attempt
                      let changed := Sentinel.unstableFile.tagged
                        ["directory changed during scan: ", .quoted directory]
                      match statted, closed, listed with
                      | .ok after, .ok (), .ok current => do
                          failIf (sameFile before after = false ∨ sameFile after current = false ∨
                            stableFileInfo before after = false ∨
                            stableFileInfo after current = false) changed
                          match missingNames selection matched with
                          | missing :: _ =>
                              throw (Sentinel.pathNotFound.tagged
                                [.quoted (pathJoin directory missing)])
                          | [] =>
                              repository.putManifest .dir repository.wire.dir
                                ⟨objectFormatVersion, sortEntries items⟩
                      | _, _, _ => throw changed

end

end S3Disk
