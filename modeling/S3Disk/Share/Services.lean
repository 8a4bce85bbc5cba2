import S3Disk.Library.Ensures
import S3Disk.Services

/-! Sharing a snapshot through presigned URLs: what the sharing code asks of its
surroundings. Each request is one atomic call of an interface method. -/

namespace S3Disk.Share

open Concurrent

/-- A Go `time.Time` in nanoseconds of Unix time; `UTC().Round(0)` changes nothing of it. -/
abbrev Time := Int

def zeroTime : Time := -62135596800 * 1000000000

structure ShareID where
  bytes : Bytes
  deriving DecidableEq, Repr

def ShareID.zero : ShareID := ⟨List.replicate 16 0⟩

inductive CapabilityProvenance where
  | unchecked
  | exactGET
  | importedBearer
  | authenticatedBundle
  deriving DecidableEq, Repr

structure Capability where
  rawURL : Bytes
  headers : List (Bytes × List Bytes)
  expiresAt : Time
  origin : Bytes
  exactKey : Bytes
  provenance : CapabilityProvenance
  deriving DecidableEq, Repr

def Capability.configured (capability : Capability) : Bool := capability.rawURL != []

inductive StateSlot where
  | rootRecovery
  | session
  deriving DecidableEq, Repr

inductive ShareRequest where
  | base (request : Request)
  | contextErr
  | now
  | presignGet (key : Bytes)
  | authorizationExpiry
  | sign (message : Bytes)
  | verify (keyID message signature : Bytes)
  | get (key : Bytes) (options : GetOptions)
  | putIfAbsent (key data : Bytes)
  | compareAndSwap (key : Bytes) (expected : Version) (data : Bytes)
  | loadState (slot : StateSlot)
  | swapState (slot : StateSlot) (expected : Option Digest) (data : Bytes)
  | sealObject (key plaintext : Bytes)
  | openObject (key ciphertext : Bytes)

abbrev ShareAnswer : ShareRequest → Type
  | .base request => Answer request
  | .contextErr => Option Err
  | .now => Time
  | .presignGet _ => Except Err Capability
  | .authorizationExpiry => Option Time
  | .sign _ => Except Err Bytes
  | .verify _ _ _ => Except Err Unit
  | .get _ _ => Except Err Object
  | .putIfAbsent _ _ => Except Err Version
  | .compareAndSwap _ _ _ => Except Err Version
  | .loadState _ => Except Err (Option (Bytes × Digest))
  | .swapState _ _ _ => Digest × Option Err
  | .sealObject _ _ => Except Err Bytes
  | .openObject _ _ => Except Err Bytes

abbrev Sharing := Fallible ShareRequest ShareAnswer Err

/-- A program of the repository, run by sharing code: both ask the same context and the
same verifier. -/
def embed {α : Type} : Program Request Answer α → Program ShareRequest ShareAnswer α
  | .done value => .done value
  | .ask .contextErr next => .ask .contextErr fun answer => embed (next answer)
  | .ask (.verify keyID message signature) next =>
      .ask (.verify keyID message signature) fun answer => embed (next answer)
  | .ask request next => .ask (.base request) fun answer => embed (next answer)

def contextErr : Sharing Unit := .ask .contextErr fun answer => .done (match answer with
  | none => .ok ()
  | some error => .error error)

def now : Sharing Time := .ask .now fun time => .done (.ok time)

def presignGet (key : Bytes) : Sharing Capability := .ask (.presignGet key) .done

def authorizationExpiry : Sharing (Option Time) :=
  .ask .authorizationExpiry fun answer => .done (.ok answer)

def signerSign (message : Bytes) : Sharing Bytes := .ask (.sign message) .done

def verifierVerify (keyID message signature : Bytes) : Sharing Unit :=
  .ask (.verify keyID message signature) .done

def contextErrAt (index : Nat) : Sharing Unit :=
  if index % 256 = 0 then contextErr else pure ()

abbrev Gives {α : Type} (program : Sharing α) (post : α → Prop) : Prop :=
  Fallible.Ensures (fun _ => True) program post

theorem any_gives {α : Type} (program : Sharing α) : Gives program fun _ => True := by
  have any : ∀ plain : Program ShareRequest ShareAnswer (Except Err α),
      plain.Ensures (fun _ => True) fun result => ∀ value, result = .ok value → True := by
    intro plain
    induction plain with
    | done value => exact .done fun _ _ => trivial
    | ask request next ih => exact .ask trivial ih
  exact any program

theorem contextErr_gives : Gives contextErr fun _ => True :=
  .request trivial fun _ _ _ => trivial

theorem contextErrAt_gives {index : Nat} : Gives (contextErrAt index) fun _ => True := by
  unfold contextErrAt
  split
  · exact contextErr_gives
  · exact .pure trivial

end S3Disk.Share
