import S3Disk.Library.Program
import S3Disk.Model

/-! What the program asks of its surroundings: the object store, the durable
journals, signing and verification, the clock, the caller's context and the local
file system. Each request is one atomic call of an interface method. -/

namespace S3Disk

open Concurrent

structure Version where
  eTag : Bytes
  versionID : Bytes
  deriving DecidableEq, Repr

structure Object where
  data : Bytes
  version : Version
  deriving DecidableEq, Repr

structure GetOptions where
  ifNoneMatch : Bytes
  maxBytes : Int
  deriving DecidableEq, Repr

/-- The store keys of a repository. The strings encode a channel in base64 and a
digest in hexadecimal, so different keys are different strings. -/
inductive Key where
  | reference (channel : Channel)
  | signedReference (channel : Channel)
  | object (kind : Kind) (digest : Digest)
  deriving DecidableEq, Repr

abbrev PublicationJournalRevision := Digest

structure PublicationIntent where
  intentID : Digest
  kind : PublicationIntentKind
  base : Option Watermark
  next : Watermark
  expectedVersion : Option Version
  expectedReference : Digest
  reference : Bytes
  deriving DecidableEq, Repr

structure PublicationJournalState where
  repositoryID : RepositoryID
  channel : Channel
  committed : Option Watermark
  pending : Option PublicationIntent
  deriving DecidableEq, Repr

/-- The place in the source that reads the journal, with the intent the reader hopes
to find. The journal ignores it; it names the read in statements about whole runs. -/
inductive JournalRead where
  | load
  | loadAgain
  | prepare
  | refresh (observed : PublicationIntent)
  | recover (initial : PublicationIntent)
  | finalize
  | accept
  | begin (intent : PublicationIntent)
  | resolve
  deriving DecidableEq, Repr

inductive FileType where
  | regular
  | directory
  | symlink
  | other
  deriving DecidableEq, Repr

structure FileInfo where
  identity : Nat
  type : FileType
  perm : Nat
  flags : Nat
  size : Int
  modTime : Int
  deriving DecidableEq, Repr

structure ChunkingOptions where
  minSize : Int
  averageSize : Int
  maxSize : Int
  polynomial : Nat
  deriving DecidableEq, Repr

inductive Request where
  | get (key : Key) (options : GetOptions)
  | head (key : Key)
  | putIfAbsent (key : Key) (data : Bytes)
  | compareAndSwap (key : Key) (expected : Option Version) (data : Bytes)
  | loadJournal (journal : Nat) (read : JournalRead) (channel : Channel)
  | swapJournal (journal : Nat) (channel : Channel)
      (expected : Option PublicationJournalRevision) (next : PublicationJournalState)
  | loadWatermark (channel : Channel)
  | swapWatermark (channel : Channel) (expected : Option Watermark) (next : Watermark)
  | sign (message : Bytes)
  | verify (keyID message signature : Bytes)
  | now
  | contextErr
  | absolute (path : Bytes)
  | osLstat (path : Bytes)
  | osOpen (path : Bytes)
  | openRoot (path : Bytes)
  | rootOpen (root : Nat) (path : Bytes)
  | rootLstat (root : Nat) (path : Bytes)
  | rootStat (root : Nat) (path : Bytes)
  | rootReadlink (root : Nat) (path : Bytes)
  | handleStat (handle : Nat)
  | handleReadDir (handle : Nat) (count : Nat)
  | handleClose (handle : Nat)
  | nextChunk (handle : Nat) (options : ChunkingOptions)
  | acquireDownload (charge : Int)
  | metadataRetained (kind : Kind) (digest : Digest)
  | cacheGet (digest : Digest) (size : Int)
  | cachePut (digest : Digest) (data : Bytes)
  | halt

abbrev Answer : Request → Type
  | .get _ _ => Except Err Object
  | .head _ => Except Err Version
  | .putIfAbsent _ _ => Except Err Version
  | .compareAndSwap _ _ _ => Except Err Version
  | .loadJournal _ _ _ =>
      Except Err (Option (PublicationJournalState × PublicationJournalRevision))
  | .swapJournal _ _ _ _ => Except Err PublicationJournalRevision
  | .loadWatermark _ => Except Err (Option Watermark)
  | .swapWatermark _ _ _ => Except Err Unit
  | .sign _ => Except Err Bytes
  | .verify _ _ _ => Except Err Unit
  | .now => Int
  | .contextErr => Option Err
  | .absolute _ => Except Err Bytes
  | .osLstat _ => Except Err FileInfo
  | .osOpen _ => Except Err Nat
  | .openRoot _ => Except Err Nat
  | .rootOpen _ _ => Except Err Nat
  | .rootLstat _ _ => Except Err FileInfo
  | .rootStat _ _ => Except Err FileInfo
  | .rootReadlink _ _ => Except Err Bytes
  | .handleStat _ => Except Err FileInfo
  | .handleReadDir _ _ => List Bytes × Option Err
  | .handleClose _ => Except Err Unit
  | .nextChunk _ _ => Except Err Bytes
  | .acquireDownload _ => Except Err Unit
  | .metadataRetained _ _ => Bool
  | .cacheGet _ _ => Except Err (Option Bytes)
  | .cachePut _ _ => Except Err Unit
  | .halt => Empty

abbrev Proc := Fallible Request Answer Err

abbrev Act (Memory : Type) := Action Request Answer Memory Err

def storeGet (key : Key) (options : GetOptions) : Proc Object := .ask (.get key options) .done

def storeHead (key : Key) : Proc Version := .ask (.head key) .done

def storePutIfAbsent (key : Key) (data : Bytes) : Proc Version :=
  .ask (.putIfAbsent key data) .done

def storeCompareAndSwap (key : Key) (expected : Option Version) (data : Bytes) : Proc Version :=
  .ask (.compareAndSwap key expected data) .done

def journalLoad (journal : Nat) (read : JournalRead) (channel : Channel) :
    Proc (Option (PublicationJournalState × PublicationJournalRevision)) :=
  .ask (.loadJournal journal read channel) .done

def journalCompareAndSwap (journal : Nat) (channel : Channel)
    (expected : Option PublicationJournalRevision) (next : PublicationJournalState) :
    Proc PublicationJournalRevision :=
  .ask (.swapJournal journal channel expected next) .done

def watermarkLoad (channel : Channel) : Proc (Option Watermark) :=
  .ask (.loadWatermark channel) .done

def watermarkCompareAndSwap (channel : Channel) (expected : Option Watermark) (next : Watermark) :
    Proc Unit :=
  .ask (.swapWatermark channel expected next) .done

def signerSign (message : Bytes) : Proc Bytes := .ask (.sign message) .done

def verifierVerify (keyID message signature : Bytes) : Proc Unit :=
  .ask (.verify keyID message signature) .done

def now : Proc Int := .ask .now fun time => .done (.ok time)

def contextErr : Proc Unit := .ask .contextErr fun answer => .done (match answer with
  | none => .ok ()
  | some error => .error error)

def filepathAbs (path : Bytes) : Proc Bytes := .ask (.absolute path) .done

def osLstat (path : Bytes) : Proc FileInfo := .ask (.osLstat path) .done

def osOpen (path : Bytes) : Proc Nat := .ask (.osOpen path) .done

def osOpenRoot (path : Bytes) : Proc Nat := .ask (.openRoot path) .done

def rootOpen (root : Nat) (path : Bytes) : Proc Nat := .ask (.rootOpen root path) .done

def rootLstat (root : Nat) (path : Bytes) : Proc FileInfo := .ask (.rootLstat root path) .done

def rootStat (root : Nat) (path : Bytes) : Proc FileInfo := .ask (.rootStat root path) .done

def rootReadlink (root : Nat) (path : Bytes) : Proc Bytes := .ask (.rootReadlink root path) .done

def handleStat (handle : Nat) : Proc FileInfo := .ask (.handleStat handle) .done

def handleReadDir (handle count : Nat) : Proc (List Bytes × Option Err) :=
  .ask (.handleReadDir handle count) fun answer => .done (.ok answer)

def handleClose (handle : Nat) : Proc Unit := .ask (.handleClose handle) .done

def splitterNext (handle : Nat) (options : ChunkingOptions) : Proc Bytes :=
  .ask (.nextChunk handle options) .done

def acquireDownload (charge : Int) : Proc Unit := .ask (.acquireDownload charge) .done

/-- Whether the bounded metadata cache still holds an entry; which entries its limits
push out is left open. -/
def metadataRetained (kind : Kind) (digest : Digest) : Proc Bool :=
  .ask (.metadataRetained kind digest) fun retained => .done (.ok retained)

def chunkCacheGet (digest : Digest) (size : Int) : Proc (Option Bytes) :=
  .ask (.cacheGet digest size) .done

def chunkCachePut (digest : Digest) (data : Bytes) : Proc Unit :=
  .ask (.cachePut digest data) .done

/-- An endless loop or a panic: the call never returns. -/
def halt {α : Type} : Proc α := .ask .halt nofun

def sameFile (left right : FileInfo) : Bool := left.identity == right.identity

def FileInfo.isDir (info : FileInfo) : Bool := info.type == .directory

def FileInfo.isRegular (info : FileInfo) : Bool := info.type == .regular

def FileInfo.isSymlink (info : FileInfo) : Bool := info.type == .symlink

def stableFileInfo (before after : FileInfo) : Bool :=
  sameFile before after && before.size == after.size && before.modTime == after.modTime &&
    (before.type == after.type && before.perm == after.perm && before.flags == after.flags)

end S3Disk
