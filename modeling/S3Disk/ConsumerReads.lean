import S3Disk.Consumer
import S3Disk.Library.Search

/-! Reading an adopted snapshot: looking a path up, listing a directory, opening a
file and reading a range of it, and reading a link. -/

namespace S3Disk

open Concurrent

structure File where
  manifest : FileManifest
  generation : Nat
  deriving DecidableEq, Repr

section

variable (repository : Repository)

variable {repository} (consumer : Consumer repository)

def getCachedChunk (digest : Digest) (expectedSize : Int) : Proc (Option Bytes) := do
  if consumer.chunkCache = false then return none
  else
    match ← (chunkCacheGet digest expectedSize).attempt with
    | .error error =>
        failIf (error.is .corruptObject ∨ consumer.strictCacheErrors) error
        return none
    | .ok none => return none
    | .ok (some data) =>
        failIf ((data.length : Int) ≠ expectedSize)
          (Sentinel.corruptObject.tagged ["cache returned chunk size ", .number data.length,
            ", expected ", .number expectedSize])
        failIf (repository.wire.digestObject .chunk data ≠ digest)
          (Sentinel.corruptObject.tagged ["cache returned wrong chunk"])
        return some data

def loadChunk (digest : Digest) (expectedSize : Int) : Proc Bytes := do
  acquireDownload expectedSize
  match ← getCachedChunk consumer digest expectedSize with
  | some data => return data
  | none =>
      let data ← repository.getImmutableExact .chunk digest expectedSize
      if consumer.chunkCache then
        match ← (chunkCachePut digest data).attempt with
        | .ok () => return data
        | .error error =>
            failIf consumer.strictCacheErrors error
            return data
      else return data

def getChunk (digest : Digest) (expectedSize : Int) : Proc Bytes := do
  failIf (expectedSize < 1 ∨ expectedSize > maxChunkObjectBytes)
    (Sentinel.corruptObject.tagged ["invalid expected chunk size ", .number expectedSize])
  contextErr
  let loaded ← (loadChunk consumer digest expectedSize).attempt
  contextErr
  .ofExcept loaded

/-- The bytes of the chunk that the read wants, as many as there is room for. Go panics
when the slice is out of range. -/
def copyChunkLease (data : Bytes) (room : Nat) (chunk : ChunkRef) (offset limit : Int) :
    Proc Bytes := do
  failIf ((data.length : Int) ≠ chunk.size)
    (Sentinel.corruptObject.tagged ["chunk size mismatch"])
  contextErr
  let start := subInt64 (max offset chunk.offset) chunk.offset
  let stop := subInt64 (min limit (addInt64 chunk.offset chunk.size)) chunk.offset
  if 0 ≤ start ∧ start ≤ stop ∧ stop ≤ data.length then
    return ((data.drop start.toNat).take (stop - start).toNat).take room
  else halt

def readChunks (length : Nat) (limit : Int) : List ChunkRef → Int → Bytes → Proc (Bytes × Option Err)
  | [], _, written =>
      return (written, if written.length < length then some Sentinel.endOfFile.error else none)
  | chunk :: rest, offset, written => do
      if offset ≥ limit then
        return (written, if written.length < length then some Sentinel.endOfFile.error else none)
      else
        match ← contextErr.attempt with
        | .error error => return (written, some error)
        | .ok () =>
            match ← (getChunk consumer chunk.digest chunk.size).attempt with
            | .error error => return (written, some error)
            | .ok data =>
                match ← (copyChunkLease data (length - written.length) chunk offset limit).attempt with
                | .error error => return (written, some error)
                | .ok copied =>
                    readChunks length limit rest (addInt64 offset copied.length) (written ++ copied)

def readAt (file : File) (length : Nat) (offset : Int) : Proc (Bytes × Option Err) := do
  if offset < 0 then return ([], some (.plain ["s3disk: negative read offset"]))
  else if length = 0 then return ([], none)
  else if offset ≥ file.manifest.size then return ([], some Sentinel.endOfFile.error)
  else
    let limit := addInt64 offset length
    let limit := if limit < offset ∨ limit > file.manifest.size then file.manifest.size else limit
    let index := Search.search file.manifest.chunks.length fun index =>
      file.manifest.chunks[index]?.any fun chunk => addInt64 chunk.offset chunk.size > offset
    readChunks consumer length limit (file.manifest.chunks.drop index) offset []

end

end S3Disk
