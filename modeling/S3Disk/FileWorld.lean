import S3Disk.JournalFile
import S3Disk.Library.Lease
import S3Disk.Library.Volume
import S3Disk.SealedStateFile
import S3Disk.WatermarkFile

/-! Processes that share one local state file on a volume that can lose power. The lock is
granted to one process at a time; a process that crashed loses it to the next one. -/

namespace S3Disk.LocalState

open Concurrent
open Volume (Change History)

inductive FileCall where
  | loadWatermark (channel : Channel)
  | swapWatermark (channel : Channel) (expected : Option Watermark) (next : Watermark)
  | loadJournal (channel : Channel)
  | swapJournal (channel : Channel) (expected : Option PublicationJournalRevision)
      (next : PublicationJournalState)
  | loadSealed
  | swapSealed (expected : Option Digest) (next : Bytes)
  | powerFailure
  deriving DecidableEq, Repr

inductive FileOut where
  | watermark (result : Except Err (Option Watermark))
  | swapped (result : Except Err Unit)
  | journal (result : Except Err (Option (PublicationJournalState × PublicationJournalRevision)))
  | revision (result : Except Err PublicationJournalRevision)
  | sealedState (result : Except Err (Option (Bytes × Digest)))
  | sealedRevision (result : Except Err (Digest × Option Err))
  | down

inductive FileEffect where
  | granted
  | released
  | disk (change : Change)
  deriving DecidableEq, Repr

abbrev FileEvent := Event FileRequest FileAnswer FileCall FileEffect

abbrev FileLog := List FileEvent

def diskChange (event : FileEvent) : Option Change :=
  match event.effect with
  | some (.disk change) => some change
  | _ => none

def history (log : FileLog) : History := log.filterMap diskChange

def holder : FileLog → Option Nat
  | [] => none
  | event :: older => match event.effect with
      | some .granted => some event.client
      | some .released => none
      | some (.disk (.failed _ _)) => none
      | _ => holder older

/-- What the file system answers to the holder of the lock, and what it changes. A rename
and a sync of the directory that report an error may have happened all the same. -/
def diskServes (past : History) : (op : FileRequest) → FileAnswer op → Option Change → Prop
  | .lstat, .ok info, change => change = none ∧ Volume.current past = some info.identity
  | .lstat, .error error, change =>
      change = none ∧ (error.is .osNotExist → Volume.current past = none)
  | .openPath, .ok file, change => change = none ∧ Volume.current past = some file
  | .validateOpened _ file, .ok info, change =>
      change = none ∧ info.size = (Volume.contents file past).length
  | .stat file, .ok info, change =>
      change = none ∧ info.size = (Volume.contents file past).length
  | .readAll file limit, .ok data, change =>
      change = none ∧ data = (Volume.contents file past).take limit
  | .createTemp _, .ok file, change =>
      change = some (.created file) ∧ .created file ∉ past ∧ .renamed file ∉ past
  | .write file data, (written, _), change => change = some (.wrote file (data.take written))
  | .syncFile file, .ok (), change => change = some (.flushed file)
  | .install file, .ok (), change => change = some (.renamed file)
  | .install file, .error _, change => change = none ∨ change = some (.renamed file)
  | .syncDirectory, .ok (), change => change = some .synced
  | .syncDirectory, .error _, change => change = none ∨ change = some .synced
  | _, _, change => change = none

def onDisk : FileRequest → Bool
  | .contextErr | .lock | .unlock | .random | .sealEnvelope _ _ | .openEnvelope _ _
  | .powerFailure | .halt => false
  | _ => true

inductive StoreKind where
  | watermark
  | journal
  | sealedState
  deriving DecidableEq, Repr

structure FileWorld where
  kind : StoreKind
  wire : Wire
  sha256 : Bytes → Bytes
  sealed : Nat → FileSealedStateStore
  draws : Nat

namespace FileWorld

variable (world : FileWorld)

def served (log : FileLog) (client : Nat) : (op : FileRequest) → FileAnswer op →
    Option FileEffect → Prop
  | .lock, .ok (), effect => effect = some .granted
  | .unlock, answer, effect => holder log = some client ∧
      (effect = some .released ∨ answer ≠ none ∧ effect = none)
  | .openEnvelope binding envelope, .ok plaintext, effect =>
      effect = none ∧ (world.sealed client).opens binding envelope = some plaintext
  | .powerFailure, _, effect => ∃ survivor torn, effect = some (.disk (.failed survivor torn)) ∧
      survivor ∈ Volume.survivors (history log)
  | op, answer, effect =>
      if onDisk op then holder log = some client ∧
        ∃ change, effect = change.map .disk ∧ diskServes (history log) op answer change
      else effect = none

def program (client : Nat) : FileCall → Program FileRequest FileAnswer FileOut
  | .loadWatermark channel => Program.bind (FileWatermarkStore.load channel) (.done ∘ .watermark)
  | .swapWatermark channel expected next =>
      Program.bind (FileWatermarkStore.compareAndSwap channel expected next) (.done ∘ .swapped)
  | .loadJournal channel =>
      Program.bind (FilePublicationJournal.load world.wire channel) (.done ∘ .journal)
  | .swapJournal channel expected next =>
      Program.bind (FilePublicationJournal.compareAndSwap world.wire world.draws channel expected
        next) (.done ∘ .revision)
  | .loadSealed =>
      Program.bind ((world.sealed client).load world.sha256) (.done ∘ .sealedState)
  | .swapSealed expected next =>
      Program.bind ((world.sealed client).compareAndSwap world.sha256 world.draws expected next)
        (.done ∘ .sealedRevision)
  | .powerFailure => .ask .powerFailure fun _ => .done .down

def Permits : FileCall → Prop
  | .loadWatermark _ | .swapWatermark _ _ _ => world.kind = .watermark
  | .loadJournal _ | .swapJournal _ _ _ => world.kind = .journal
  | .loadSealed | .swapSealed _ _ => world.kind = .sealedState
  | .powerFailure => True

def machine : Machine FileRequest FileAnswer FileCall FileEffect Unit FileOut where
  serves log event := world.served log event.client event.op event.answer event.effect
  fresh _ := ()
  allowed _ _ := world.Permits
  body client call _ := Program.bind (world.program client call) fun out => .done (out, ())

end FileWorld

theorem served_onDisk {world : FileWorld} {log : FileLog} {client : Nat} {op : FileRequest} {answer : FileAnswer op}
    {effect : Option FileEffect} (disk : onDisk op = true) :
    world.served log client op answer effect ↔ holder log = some client ∧
      ∃ change, effect = change.map .disk ∧ diskServes (history log) op answer change := by
  cases op <;> simp_all [onDisk, FileWorld.served]

end S3Disk.LocalState
