import S3Disk.Library.Totals
import S3Disk.Share.Services

/-! The reader of a share: how it installs one authenticated bundle after another and
keeps the capabilities of the earlier ones. -/

namespace S3Disk.Share

open Concurrent

/-- A Go `map[string]Capability`; a loop over it takes the entries in some order. -/
abbrev CapabilityMap := AList fun _ : Bytes => Capability

structure Bundle where
  repositoryPrefix : Bytes
  referenceKey : Bytes
  shareID : ShareID
  revision : Nat
  referenceGeneration : Nat
  referenceCommit : Digest
  reference : Object
  authorizationExpiresAt : Time
  capabilities : CapabilityMap

structure ReaderRevision where
  revision : Nat
  generation : Nat
  commit : Digest
  bundleDigest : Digest
  bundleETag : Bytes
  bundleVersionID : Bytes
  referenceData : Bytes
  capabilities : CapabilityMap
  capabilityBytes : Nat

structure ReaderState where
  current : Option ReaderRevision
  retainedCapabilities : CapabilityMap
  retainedCapabilityBytes : Nat

def ReaderState.new : ReaderState := ⟨none, ∅, 0⟩

structure Reader where
  maxRetainedCapabilities : Nat
  maxRetainedCapabilityBytes : Nat
  capabilitiesBounded : 1 ≤ maxRetainedCapabilities ∧ maxRetainedCapabilities ≤ 4 * 65536
  bytesBounded : 1 ≤ maxRetainedCapabilityBytes ∧
    maxRetainedCapabilityBytes ≤ 512 * 1024 * 1024

abbrev Reading := Action ShareRequest ShareAnswer ReaderState Err

def lowerASCII (byte : UInt8) : UInt8 := if 65 ≤ byte ∧ byte ≤ 90 then byte + 32 else byte

def equalFold (left right : Bytes) : Bool := left.map lowerASCII == right.map lowerASCII

def hasHeader (headers : List (Bytes × List Bytes)) (name : Bytes) : Bool :=
  headers.any fun header => equalFold header.1 name

def ifNoneMatch : Bytes := "If-None-Match".toUTF8.toList

def addCharge (charge size : Nat) : Except Err Nat :=
  if charge > maxInt64 - size then .error Sentinel.resourceLimit.error else .ok (charge + size)

def readerCapabilityCharge (key : Bytes) (capability : Capability) : Except Err Nat := do
  let base ← addCharge 0 (256 + key.length + capability.rawURL.length)
  capability.headers.foldlM (fun charge header => do
    let charge ← addCharge charge (header.1.length + 32)
    header.2.foldlM (fun charge value => addCharge charge (value.length + 16)) charge) base

def validateReaderCapabilities :
    List (Sigma fun _ : Bytes => Capability) → Nat → Nat → Sharing Nat
  | [], _, total => return total
  | ⟨key, capability⟩ :: rest, index, total => do
      contextErrAt index
      failIf (hasHeader capability.headers ifNoneMatch)
        (Sentinel.storeMisconfigured.error.within
          ["presignedshare: object capability must not fix If-None-Match"])
      let overflow := Sentinel.resourceLimit.error.within
        ["presignedshare: capability accounting overflow"]
      match readerCapabilityCharge key capability with
      | .error _ => throw overflow
      | .ok charge =>
          failIf (total > maxInt64 - charge) overflow
          validateReaderCapabilities rest (index + 1) (total + charge)

def copyRetained :
    List (Sigma fun _ : Bytes => Capability) → Nat → CapabilityMap → Sharing (Nat × CapabilityMap)
  | [], index, retained => return (index, retained)
  | ⟨key, capability⟩ :: rest, index, retained => do
      contextErrAt index
      copyRetained rest (index + 1) (retained.insert key capability)

def retainCurrent :
    List (Sigma fun _ : Bytes => Capability) → Nat → CapabilityMap → Nat →
      Sharing (Nat × CapabilityMap × Nat)
  | [], index, retained, retainedBytes => return (index, retained, retainedBytes)
  | ⟨key, capability⟩ :: rest, index, retained, retainedBytes => do
      contextErrAt index
      if key ∈ retained then retainCurrent rest (index + 1) retained retainedBytes
      else
        let overflow := Sentinel.resourceLimit.error.within
          ["presignedshare: retained capability accounting overflow"]
        match readerCapabilityCharge key capability with
        | .error _ => throw overflow
        | .ok charge =>
            failIf (retainedBytes > maxInt64 - charge) overflow
            retainCurrent rest (index + 1) (retained.insert key capability) (retainedBytes + charge)

def releaseNext :
    List Bytes → Nat → CapabilityMap → Nat → Sharing (CapabilityMap × Nat)
  | [], _, retained, retainedBytes => return (retained, retainedBytes)
  | key :: rest, index, retained, retainedBytes => do
      contextErrAt index
      match retained.lookup key with
      | none => releaseNext rest (index + 1) retained retainedBytes
      | some capability =>
          let underflow := Sentinel.resourceLimit.error.within
            ["presignedshare: retained capability accounting underflow"]
          match readerCapabilityCharge key capability with
          | .error _ => throw underflow
          | .ok charge =>
              failIf (charge > retainedBytes) underflow
              releaseNext rest (index + 1) (retained.erase key) (retainedBytes - charge)

structure Offer where
  bundle : Option Bundle
  digest : Digest
  rootVersion : Version

def checkSuccession (current next : ReaderRevision) : Except Err Unit :=
  if next.generation < current.generation then
    .error (Sentinel.rollbackDetected.error.within
      ["presignedshare: snapshot generation regressed"])
  else if next.generation = current.generation ∧ next.commit ≠ current.commit then
    .error (Sentinel.splitBrain.error.within
      ["presignedshare: one generation names different commits"])
  else if next.bundleETag = current.bundleETag ∧ next.bundleDigest ≠ current.bundleDigest then
    .error (Sentinel.storeIncompatible.error.within
      ["presignedshare: bundle bytes changed without an ETag change"])
  else .ok ()

section

variable (reader : Reader)

def revisionOf (bundle : Bundle) (digest : Digest) (rootVersion : Version) (capabilityBytes : Nat) :
    ReaderRevision :=
  { revision := bundle.revision
    generation := bundle.referenceGeneration
    commit := bundle.referenceCommit
    bundleDigest := digest
    bundleETag := rootVersion.eTag
    bundleVersionID := rootVersion.versionID
    referenceData := bundle.reference.data
    capabilities := bundle.capabilities
    capabilityBytes }

def retainUnion (state : ReaderState) (current next : ReaderRevision) :
    Sharing (CapabilityMap × Nat) := do
  let (index, retained) ← copyRetained state.retainedCapabilities.entries 0 ∅
  let (index, retained, retainedBytes) ←
    retainCurrent current.capabilities.entries index retained state.retainedCapabilityBytes
  releaseNext next.capabilities.keys index retained retainedBytes

def advanceRevision (current next : ReaderRevision) : Reading Unit := do
  Action.ofExcept (checkSuccession current next)
  let state ← get
  let (retained, retainedBytes) ← retainUnion state current next
  failIf (Totals.size retained > reader.maxRetainedCapabilities ∨
      retainedBytes > reader.maxRetainedCapabilityBytes ∨
      Totals.size next.capabilities > reader.maxRetainedCapabilities - Totals.size retained ∨
      next.capabilityBytes > reader.maxRetainedCapabilityBytes - retainedBytes)
    (Sentinel.resourceLimit.error.within
      ["presignedshare: accepting the new revision would evict an older exact capability"])
  set (⟨some next, retained, retainedBytes⟩ : ReaderState)

def installBundle (offer : Offer) : Reading Unit := do
  contextErr
  match offer.bundle with
  | none => throw (Sentinel.corruptObject.error.within ["presignedshare: nil decoded bundle"])
  | some bundle =>
      let capabilityBytes ← validateReaderCapabilities bundle.capabilities.entries 0 0
      failIf (Totals.size bundle.capabilities > reader.maxRetainedCapabilities ∨
          capabilityBytes > reader.maxRetainedCapabilityBytes)
        (Sentinel.resourceLimit.error.within
          ["presignedshare: current revision exceeds retention budget"])
      let next := revisionOf bundle offer.digest offer.rootVersion capabilityBytes
      match (← get).current with
      | none => modify fun state => { state with current := some next }
      | some current =>
          failIf (next.revision < current.revision)
            (Sentinel.rollbackDetected.error.within ["presignedshare: bundle revision regressed"])
          if next.revision = current.revision then
            failIf (next.bundleDigest ≠ current.bundleDigest)
              (Sentinel.splitBrain.error.within
                ["presignedshare: one revision has different signed bytes"])
            modify fun state => { state with current := some next }
          else advanceRevision reader current next

end

def findCapability (state : ReaderState) (key : Bytes) : Option Capability :=
  ((state.current.bind fun current => current.capabilities.lookup key).or
    (state.retainedCapabilities.lookup key))

end S3Disk.Share
