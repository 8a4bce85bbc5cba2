import S3Disk.Library.Contract
import S3Disk.Services

/-! The steps that the local state files share: the lock file, reading the file under the
path, and replacing it by a temporary file that was written, synced and renamed. -/

namespace S3Disk

open Concurrent

/-- What a store asks of the platform and of its protector. Every request about a file
concerns the store's own path or a temporary file beside it. -/
inductive FileRequest where
  | contextErr
  | lock
  | unlock
  | lstat
  | openPath
  | validateOpened (linked : FileInfo) (file : Nat)
  | validateSecret (file : Nat)
  | stat (file : Nat)
  | readAll (file : Nat) (limit : Nat)
  | close (file : Nat)
  | createTemp (pattern : String)
  | protect (file : Nat)
  | write (file : Nat) (data : Bytes)
  | syncFile (file : Nat)
  | install (file : Nat)
  | remove (file : Nat)
  | syncDirectory
  | random
  | sealEnvelope (binding plaintext : Bytes)
  | openEnvelope (binding envelope : Bytes)
  | powerFailure
  | halt
  deriving DecidableEq, Repr

def FileAnswer : FileRequest → Type
  | .contextErr => Option Err
  | .unlock => Option Err
  | .lstat => Except Err FileInfo
  | .openPath => Except Err Nat
  | .validateOpened _ _ => Except Err FileInfo
  | .stat _ => Except Err FileInfo
  | .readAll _ _ => Except Err Bytes
  | .createTemp _ => Except Err Nat
  | .write _ _ => Nat × Option Err
  | .random => Except Err { revision : Digest // revision.bytes.length = 32 }
  | .sealEnvelope _ _ => Except Err Bytes
  | .openEnvelope _ _ => Except Err Bytes
  | .halt => Empty
  | _ => Except Err Unit

abbrev Filing := Fallible FileRequest FileAnswer Err

namespace Filing

def contextErr : Filing Unit := .ask .contextErr fun answer => .done (match answer with
  | none => .ok ()
  | some error => .error error)

def lock : Filing Unit := .ask .lock .done

def unlock : Filing (Option Err) := .ask .unlock fun answer => .done (.ok answer)

def lstat : Filing FileInfo := .ask .lstat .done

def openPath : Filing Nat := .ask .openPath .done

def validateOpenedPath (linked : FileInfo) (file : Nat) : Filing FileInfo :=
  .ask (.validateOpened linked file) .done

def validatePrivateSecretFile (file : Nat) : Filing Unit := .ask (.validateSecret file) .done

def stat (file : Nat) : Filing FileInfo := .ask (.stat file) .done

def readAll (file limit : Nat) : Filing Bytes := .ask (.readAll file limit) .done

def close (file : Nat) : Filing Unit := .ask (.close file) .done

def createTemp (pattern : String) : Filing Nat := .ask (.createTemp pattern) .done

def protectFile (file : Nat) : Filing Unit := .ask (.protect file) .done

def write (file : Nat) (data : Bytes) : Filing (Nat × Option Err) :=
  .ask (.write file data) fun answer => .done (.ok answer)

def syncFile (file : Nat) : Filing Unit := .ask (.syncFile file) .done

def installFile (file : Nat) : Filing Unit := .ask (.install file) .done

def remove (file : Nat) : Filing Unit := .ask (.remove file) .done

def syncParentDirectory : Filing Unit := .ask .syncDirectory .done

def random : Filing Digest := .ask .random fun answer => .done (answer.map Subtype.val)

def protectorSeal (binding plaintext : Bytes) : Filing Bytes :=
  .ask (.sealEnvelope binding plaintext) .done

def protectorOpen (binding envelope : Bytes) : Filing Bytes :=
  .ask (.openEnvelope binding envelope) .done

def halt {α : Type} : Filing α := .ask .halt nofun

variable {α : Type}

def labelled (label : List Fragment) (step : Filing α) : Filing α := do
  match ← step.attempt with
  | .ok value => return value
  | .error error => throw (error.within label)

def closing (file : Nat) (step : Filing α) : Filing α := do
  match ← step.attempt with
  | .ok value => return value
  | .error error => do
      let _ ← (close file).attempt
      throw error

def withOpened (noun : String) (body : FileInfo → Nat → Filing α) : Filing (Option α) := do
  match ← lstat.attempt with
  | .error error =>
      if error.is .osNotExist then return none
      else throw (error.within ["s3disk: inspect ", noun])
  | .ok linked => do
      let file ← labelled ["s3disk: open ", noun] openPath
      let result ← (body linked file).attempt
      let _ ← (close file).attempt
      let value ← .ofExcept result
      return some value

def shortWrite : Err := .plain ["short write"]

def writePart (noun : String) (file : Nat) (data : Bytes) : Filing Unit := do
  let (written, failure) ← write file data
  match failure with
  | some error => throw (error.within ["s3disk: write ", noun])
  | none => failIf (written ≠ data.length) (shortWrite.within ["s3disk: write ", noun])

def writeParts (noun : String) (file : Nat) : List Bytes → Filing Unit
  | [] => pure ()
  | part :: rest => do
      writePart noun file part
      writeParts noun file rest

def fillTemporary (noun : String) (protect : Filing Unit) (file : Nat) (parts : List Bytes) :
    Filing Unit := do
  closing file protect
  closing file (writeParts noun file parts)
  closing file (labelled ["s3disk: sync ", noun] (syncFile file))
  labelled ["s3disk: close ", noun] (close file)

def withTemporary (noun pattern : String) (body : Nat → Filing Unit) : Filing Unit := do
  let file ← labelled ["s3disk: create ", noun, " temporary file"] (createTemp pattern)
  match ← (body file).attempt with
  | .ok () => return ()
  | .error error => do
      let _ ← (remove file).attempt
      throw error

def replaceFile (noun pattern : String) (data : Bytes) : Filing Unit := do
  withTemporary noun pattern fun file => do
    fillTemporary noun (labelled ["s3disk: protect ", noun] (protectFile file)) file [data]
    labelled ["s3disk: install ", noun] (installFile file)
  syncParentDirectory

def lockedLoad (body : Filing α) : Filing α := do
  lock
  let result ← body.attempt
  let unlocked ← unlock
  match result, unlocked with
  | .error error, _ => throw error
  | .ok _, some error => throw error
  | .ok value, none => return value

/-- A change under the lock: the errors of the change and of unlocking are joined. -/
def lockedSwap (body : Filing α) : Filing α := do
  lock
  let result ← body.attempt
  let unlocked ← unlock
  match result, unlocked with
  | .error error, none => throw error
  | .error error, some other => throw (joinErrors [error, other])
  | .ok _, some error => throw error
  | .ok value, none => return value

def settled (body : Filing (Option α)) : Filing (Option α) := do
  match ← body with
  | none => return none
  | some value => do
      syncParentDirectory
      return some value

/-- A random revision that is neither zero nor the current one; `draws` bounds how often
the loop is followed. -/
def newRevision (label : String) : Nat → Option Digest → Filing Digest
  | 0, _ => halt
  | draws + 1, forbidden => do
      let revision ← labelled [label] random
      if revision.isZero = false ∧ forbidden ≠ some revision then return revision
      else newRevision label draws forbidden

end Filing

end S3Disk
