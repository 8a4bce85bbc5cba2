import S3Disk.Repository

/-! The contract of an object store: what each call may answer when the store holds these
objects, and which object it writes. -/

namespace S3Disk

inductive StoreCall where
  | get (key : Bytes) (options : GetOptions)
  | head (key : Bytes)
  | putIfAbsent (key data : Bytes)
  | compareAndSwap (key : Bytes) (expected : Option Version) (data : Bytes)
  deriving DecidableEq, Repr

def StoreAnswer : StoreCall → Type
  | .get _ _ => Except Err Object
  | _ => Except Err Version

abbrev Objects := Bytes → Option Object

structure StoreWrite where
  key : Bytes
  object : Object
  deriving DecidableEq, Repr

namespace Objects

def apply (objects : Objects) : Option StoreWrite → Objects
  | none => objects
  | some write => Function.update objects write.key (some write.object)

def readLimit (own : Nat) (options : GetOptions) : Int :=
  if options.maxBytes = 0 then own else options.maxBytes

def Refuses {α : Type} (sentinel : Sentinel) (answer : Except Err α) : Prop :=
  ∃ error, answer = .error error ∧ error.is sentinel = true

def Reads (own : Nat) (found : Option Object) (options : GetOptions)
    (answer : Except Err Object) : Prop :=
  match found with
  | none => Refuses .objectNotFound answer
  | some object =>
      if options.ifNoneMatch ≠ [] ∧ options.ifNoneMatch = object.version.eTag then
        Refuses .notModified answer
      else if readLimit own options < object.data.length then Refuses .resourceLimit answer
      else answer = .ok object

def Heads (found : Option Object) (answer : Except Err Version) : Prop :=
  match found with
  | none => Refuses .objectNotFound answer
  | some object => answer = .ok object.version

def Valid (version : Version) : Prop :=
  version.eTag ≠ [] ∧ version.eTag.length ≤ maxStoreVersionTokenBytes ∧
    version.versionID.length ≤ maxStoreVersionTokenBytes

def Writes (condition : Prop) (key data : Bytes) (answer : Except Err Version)
    (write : Option StoreWrite) : Prop :=
  (condition ∧ ∃ version, Valid version ∧ answer = .ok version ∧
    write = some ⟨key, data, version⟩) ∨
  (¬condition ∧ write = none ∧ Refuses .precondition answer)

def Matches (found : Option Object) : Option Version → Prop
  | none => found = none
  | some expected => found.map (·.version.eTag) = some expected.eTag

/-- A conditional replacement, of nothing when no version is expected. The empty entity tag is
refused with some error. -/
def Replaces (objects : Objects) (key : Bytes) (expected : Option Version) (data : Bytes)
    (answer : Except Err Version) (write : Option StoreWrite) : Prop :=
  if expected.any (·.eTag == []) then write = none ∧ ∃ error, answer = .error error
  else Writes (Matches (objects key) expected) key data answer write

/-- A replacement that reports an error, whether it happened or not. -/
def MayReplace (objects : Objects) (key : Bytes) (expected : Option Version) (data : Bytes)
    (answer : Except Err Version) (write : Option StoreWrite) : Prop :=
  (write = none ∨ (expected.any (·.eTag == []) = false ∧ Matches (objects key) expected ∧
    ∃ version, Valid version ∧ write = some ⟨key, data, version⟩)) ∧ ∃ error, answer = .error error

def Performs (own : Nat) (objects : Objects) :
    (call : StoreCall) → StoreAnswer call → Option StoreWrite → Prop
  | .get key options, answer, write => write = none ∧ Reads own (objects key) options answer
  | .head key, answer, write => write = none ∧ Heads (objects key) answer
  | .putIfAbsent key data, answer, write => objects.Replaces key none data answer write
  | .compareAndSwap key expected data, answer, write =>
      objects.Replaces key expected data answer write

def Fails (objects : Objects) : (call : StoreCall) → StoreAnswer call → Option StoreWrite → Prop
  | .get _ _, answer, write => write = none ∧ ∃ error, answer = .error error
  | .head _, answer, write => write = none ∧ ∃ error, answer = .error error
  | .putIfAbsent key data, answer, write => objects.MayReplace key none data answer write
  | .compareAndSwap key expected data, answer, write =>
      objects.MayReplace key expected data answer write

end Objects

end S3Disk
