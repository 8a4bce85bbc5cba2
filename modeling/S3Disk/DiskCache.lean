import S3Disk.Library.Automaton
import S3Disk.Library.Totals
import S3Disk.Model

/-! `DiskCache`: the index of cached chunks, and the calls that use it. A step is one critical
section of the index or the file operations between two of them, whose answers the schedule
chooses. Entries are numbered in the order in which they were indexed. -/

namespace S3Disk

open Concurrent

structure DiskCacheOptions where
  maxBytes : Int
  maxChunkBytes : Int
  maxEntries : Nat

structure DiskCacheEntry where
  digest : Digest
  size : Int
  pins : Int
  invalid : Bool

inductive CacheTask where
  | looking (digest : Digest) (expectedSize : Int)
  | reading (entry : Nat) (digest : Digest) (expectedSize : Int)
  | unpinning (entry : Nat) (digest : Digest) (expectedSize : Int) (result : Except Err Bytes)
  | discarding (entry : Nat)
  | queued (digest : Digest) (data : Bytes)
  | writing (digest : Digest) (data : Bytes)
  | installing (digest : Digest) (data : Bytes)
  | hit (digest : Digest) (expectedSize : Int) (data : Bytes)
  | missed
  | stored
  | failed (error : Err)

structure DiskCache where
  options : DiskCacheOptions
  objects : Nat → DiskCacheEntry
  next : Nat
  entries : AList fun _ : Digest => Nat
  lru : List Nat
  totalBytes : Int
  writeToken : Bool
  tasks : List CacheTask

inductive Removal where
  | unopened (error : Err)
  | kept (error : Err)
  | absent (layout : Option Err)
  | removed (sync layout : Option Err)

namespace Removal

def refused : Removal → Option Err
  | unopened error => some error
  | kept error => some (error.within ["remove cache entry"])
  | absent _ => none
  | removed _ _ => none

def trailing : Removal → Option Err
  | removed (some error) _ => some (error.within ["sync cache eviction"])
  | removed none layout => layout
  | absent layout => layout
  | _ => none

end Removal

inductive ReadEnd where
  | more
  | eof
  | failed (error : Err)

structure ReadAnswer where
  ended : Option Err
  data : Bytes
  outcome : ReadEnd

inductive Linked where
  | missing (layout : Option Err)
  | failed (error : Err)
  | found (regular : Bool)

structure Statted where
  regular : Bool
  sameFile : Bool
  size : Int

structure ReadAnswers where
  shard : Option Err
  linked : Linked
  opened : Option Err
  stat : Except Err Statted
  reads : Nat → ReadAnswer
  extra : Bool
  layout : Option Err

def readFull (size : Nat) (reads : Nat → ReadAnswer) :
    Nat → Nat → Bytes → Except Err (Option Bytes)
  | 0, _, data => .ok (some data)
  | left + 1, index, data =>
      if data.length < size then
        match (reads index).ended with
        | some error => .error error
        | none => match (reads index).outcome with
            | .eof => .ok none
            | .failed error => .error (error.within ["read chunk cache"])
            | .more =>
                let count := (reads index).data.take (size - data.length)
                if count = [] then .ok none else readFull size reads left (index + 1) (data ++ count)
      else .ok (some data)

def readOpened (wire : Wire) (options : DiskCacheOptions) (entry : DiskCacheEntry)
    (expectedSize : Int) (answers : ReadAnswers) (info : Statted) : Except Err (Option Bytes) :=
  if !info.regular ∨ !info.sameFile ∨ info.size ≠ entry.size ∨ info.size < 1 ∨
      info.size > options.maxChunkBytes ∨ (expectedSize > 0 ∧ info.size ≠ expectedSize) then
    .ok none
  else match readFull info.size.toNat answers.reads info.size.toNat 0 [] with
    | .error error => .error error
    | .ok none => .ok none
    | .ok (some data) =>
        if answers.extra then .ok none
        else if wire.digestObject .chunk data ≠ entry.digest then .ok none
        else match answers.layout with
          | some error => .error error
          | none => .ok (some data)

def readEntry (wire : Wire) (options : DiskCacheOptions) (entry : DiskCacheEntry)
    (expectedSize : Int) (answers : ReadAnswers) : Except Err (Option Bytes) :=
  match answers.shard with
  | some error => .error error
  | none => match answers.linked with
      | .missing (some error) => .error error
      | .missing none => .ok none
      | .failed error => .error (error.within ["inspect chunk cache"])
      | .found false => .ok none
      | .found true => match answers.opened with
          | some error => .error (error.within ["open chunk cache"])
          | none => match answers.stat with
              | .error error => .error (error.within ["stat chunk cache"])
              | .ok info => readOpened wire options entry expectedSize answers info

inductive Preparation where
  | written
  | shard (error : Err)
  | temporary (error : Err)
  | protection (error : Err)
  | ended (error : Err)
  | write (error : Err)
  | shortWrite
  | sync (error : Err)
  | close (error : Err)

def Preparation.failure : Preparation → Option Err
  | written => none
  | shard error => some (error.within ["create cache shard"])
  | temporary error => some (error.within ["create cache temporary file"])
  | protection error => some (error.within ["protect cache temporary file"])
  | ended error => some error
  | write error => some (error.within ["write cache temporary file"])
  | shortWrite => some ((Err.plain ["short write"]).within ["write cache temporary file"])
  | sync error => some (error.within ["sync cache temporary file"])
  | close error => some (error.within ["close cache temporary file"])

structure Installation where
  removal : Nat → Removal
  layout : Option Err
  unlink : Option Err
  rename : Option Err
  sync : Option Err
  relayout : Option Err

def Installation.failure (answers : Installation) : Option Err :=
  answers.layout <|> answers.unlink.map (Err.within ["replace cache entry"]) <|>
    answers.rename.map (Err.within ["install cache entry"]) <|>
    answers.sync.map (Err.within ["sync cache shard"]) <|> answers.relayout

namespace DiskCache

variable (cache : DiskCache)

def begin (task : CacheTask) : DiskCache := { cache with tasks := cache.tasks ++ [task] }

def move (index : Nat) (task : CacheTask) : DiskCache :=
  { cache with tasks := cache.tasks.set index task }

def write (entry : Nat) (object : DiskCacheEntry) : DiskCache :=
  { cache with objects := fun other => if other = entry then object else cache.objects other }

def removeEntryLocked (entry : Nat) (removal : Removal) : DiskCache × Option Err :=
  if (cache.objects entry).pins ≠ 0 then
    (cache, some (.plain ["s3disk: cannot remove pinned cache entry"]))
  else match removal.refused with
    | some error => (cache, some error)
    | none =>
        let totalBytes := cache.totalBytes - (cache.objects entry).size
        ({ cache with
          entries := cache.entries.erase (cache.objects entry).digest
          lru := cache.lru.erase entry
          totalBytes := if totalBytes < 0 then 0 else totalBytes }, removal.trailing)

def victim : Option Nat :=
  cache.lru.reverse.find? fun entry => (cache.objects entry).pins = 0

def makeRoomLocked (size : Int) (removal : Nat → Removal) :
    Nat → DiskCache → Option (DiskCache × Except Err Bool)
  | 0, _ => none
  | rounds + 1, cache =>
      if cache.totalBytes > cache.options.maxBytes - size ∨
          Totals.size cache.entries ≥ cache.options.maxEntries then
        match cache.victim with
        | none => some (cache, .ok false)
        | some entry => match cache.removeEntryLocked entry (removal entry) with
            | (left, some error) => some (left, .error error)
            | (left, none) => makeRoomLocked size removal rounds left
      else some (cache, .ok true)

def replace (digest : Digest) (removal : Nat → Removal) : DiskCache × Except Err Bool :=
  match cache.entries.lookup digest with
  | none => (cache, .ok true)
  | some entry =>
      if (cache.objects entry).pins ≠ 0 then (cache, .ok false)
      else match cache.removeEntryLocked entry (removal entry) with
        | (left, some error) => (left, .error error)
        | (left, none) => (left, .ok true)

def insert (digest : Digest) (size : Int) : DiskCache :=
  { cache with
    objects := fun other =>
      if other = cache.next then ⟨digest, size, 0, false⟩ else cache.objects other
    next := cache.next + 1
    entries := cache.entries.insert digest cache.next
    lru := cache.next :: cache.lru
    totalBytes := cache.totalBytes + size }

def installLocked (digest : Digest) (size : Int) (answers : Installation) :
    DiskCache × Option Err :=
  match answers.failure with
  | some error => (cache, some error)
  | none => (cache.insert digest size, none)

def putLocked (digest : Digest) (size : Int) (answers : Installation) :
    Option (DiskCache × Option Err) :=
  match cache.replace digest answers.removal with
  | (left, .error error) => some (left, some error)
  | (left, .ok false) => some (left, none)
  | (left, .ok true) =>
      match makeRoomLocked size answers.removal (left.lru.length + 1) left with
      | none => none
      | some (left, .error error) => some (left, some error)
      | some (left, .ok false) => some (left, none)
      | some (left, .ok true) => some (left.installLocked digest size answers)

def lookupLocked (index : Nat) (digest : Digest) (expectedSize : Int) : DiskCache :=
  match cache.entries.lookup digest with
  | none => cache.move index .missed
  | some entry =>
      let object := cache.objects entry
      if object.invalid ∨ (expectedSize > 0 ∧ object.size ≠ expectedSize) then
        cache.move index .missed
      else
        { cache.write entry { object with pins := object.pins + 1 } with
          lru := entry :: cache.lru.erase entry
          tasks := cache.tasks.set index (.reading entry digest expectedSize) }

def unpin (entry : Nat) (removal : Removal) : DiskCache :=
  let object := cache.objects entry
  if cache.entries.lookup object.digest = some entry ∧ object.pins > 0 then
    let released := cache.write entry { object with pins := object.pins - 1 }
    if object.invalid ∧ object.pins - 1 = 0 then (released.removeEntryLocked entry removal).1
    else released
  else cache

def discardPinned (entry : Nat) (removal : Removal) : DiskCache × Option Err :=
  let object := cache.objects entry
  if cache.entries.lookup object.digest ≠ some entry then (cache, none)
  else
    let pins := if object.pins > 0 then object.pins - 1 else object.pins
    let rejected := cache.write entry { object with invalid := true, pins := pins }
    -- The last reader removes what another one rejected.
    if pins ≠ 0 then (rejected, none) else rejected.removeEntryLocked entry removal

def settle (entry : Nat) (digest : Digest) (expectedSize : Int) :
    Except Err (Option Bytes) → CacheTask
  | .error error => .unpinning entry digest expectedSize (.error error)
  | .ok none => .discarding entry
  | .ok (some data) => .unpinning entry digest expectedSize (.ok data)

def finish (digest : Digest) (expectedSize : Int) : Except Err Bytes → CacheTask
  | .error error => .failed error
  | .ok data => .hit digest expectedSize data

def answered (found : CacheTask) : Option Err → CacheTask
  | some error => .failed error
  | none => found

def get (digest : Digest) (expectedSize : Int) (early : Option Err) : DiskCache :=
  cache.begin (answered (.looking digest expectedSize) early)

def getSized (digest : Digest) (expectedSize : Int) (early : Option Err) : DiskCache :=
  if expectedSize < 1 ∨ expectedSize > maxChunkObjectBytes then
    cache.begin (.failed (Sentinel.resourceLimit.tagged
      ["invalid expected cache chunk size ", .number expectedSize]))
  else cache.get digest expectedSize early

/-- `Put` up to its wait for the write token; `early` and `ended` are the errors of its two
checks of the context. -/
def put (wire : Wire) (digest : Digest) (data : Bytes) (early ended : Option Err) : DiskCache :=
  match early with
  | some error => cache.begin (.failed error)
  | none =>
      let size : Int := data.length
      if size < 1 ∨ size > cache.options.maxChunkBytes ∨ size > cache.options.maxBytes then
        cache.begin .stored
      else if wire.digestObject .chunk data ≠ digest then
        cache.begin (.failed (Sentinel.corruptObject.tagged
          ["refusing cache write for ", .hex digest.bytes]))
      else cache.begin (answered (.queued digest data) ended)

def releaseToken : DiskCache := { cache with writeToken := false }

end DiskCache

inductive CacheAction where
  | get (digest : Digest) (early : Option Err)
  | getSized (digest : Digest) (expectedSize : Int) (early : Option Err)
  | lookup (index : Nat)
  | read (index : Nat) (answers : ReadAnswers)
  | unpin (index : Nat) (removal : Removal)
  | discard (index : Nat) (removal : Removal)
  | put (digest : Digest) (data : Bytes) (early ended : Option Err)
  | token (index : Nat) (ended : Option Err)
  | write (index : Nat) (preparation : Preparation)
  | install (index : Nat) (answers : Installation)

namespace DiskCache

def step (wire : Wire) (cache : DiskCache) : CacheAction → Option DiskCache
  | .get digest early => some (cache.get digest 0 early)
  | .getSized digest expectedSize early => some (cache.getSized digest expectedSize early)
  | .lookup index => match cache.tasks[index]? with
      | some (.looking digest expectedSize) => some (cache.lookupLocked index digest expectedSize)
      | _ => none
  | .read index answers => match cache.tasks[index]? with
      | some (.reading entry digest expectedSize) =>
          some (cache.move index (settle entry digest expectedSize
            (readEntry wire cache.options (cache.objects entry) expectedSize answers)))
      | _ => none
  | .unpin index removal => match cache.tasks[index]? with
      | some (.unpinning entry digest expectedSize result) =>
          some ((cache.unpin entry removal).move index (finish digest expectedSize result))
      | _ => none
  | .discard index removal => match cache.tasks[index]? with
      | some (.discarding entry) =>
          let discarded := cache.discardPinned entry removal
          some (discarded.1.move index (answered .missed discarded.2))
      | _ => none
  | .put digest data early ended => some (cache.put wire digest data early ended)
  | .token index ended => match cache.tasks[index]? with
      | some (.queued digest data) => match ended with
          | some error => some (cache.move index (.failed error))
          | none =>
              if cache.writeToken then none
              else some { cache.move index (.writing digest data) with writeToken := true }
      | _ => none
  | .write index preparation => match cache.tasks[index]? with
      | some (.writing digest data) => match preparation.failure with
          | some error => some (cache.move index (.failed error)).releaseToken
          | none => some (cache.move index (.installing digest data))
      | _ => none
  | .install index answers => match cache.tasks[index]? with
      | some (.installing digest data) =>
          (cache.putLocked digest data.length answers).map fun result =>
            (result.1.move index (answered .stored result.2)).releaseToken
      | _ => none

end DiskCache

end S3Disk
