import S3Disk.Library.Totals
import S3Disk.Model

/-! The inode numbers of a mount. `inodeIdentityRegistry` gives one number to each snapshot,
path and entry type, within a budget of entries and of bytes, and no number twice. -/

namespace S3Disk.Mount

open Totals

structure SnapshotIdentity where
  generation : Nat
  commit : Digest
  deriving DecidableEq, Repr

def SnapshotIdentity.valid (identity : SnapshotIdentity) : Bool :=
  identity.generation != 0 && !identity.commit.isZero

structure InodeIdentityKey where
  snapshot : SnapshotIdentity
  path : Bytes
  entryType : Bytes
  deriving DecidableEq, Repr

structure InodeIdentityRegistry where
  limit : Int
  byteLimit : Int
  retainedBytes : Int
  reclaimed : Nat
  next : Nat
  identities : AList (fun _ : InodeIdentityKey => Nat)

structure StableAttr where
  mode : Nat
  ino : Nat
  gen : Nat
  deriving DecidableEq, Repr

def typeMode (entryType : Bytes) : Nat :=
  if entryType = ascii "directory" then 0x4000
  else if entryType = ascii "symlink" then 0xA000
  else 0x8000

def inodeIdentityEntryOverheadBytes : Int := 512

def inodeIdentityKeyBytes : Int := 72
def inodeNumberBytes : Int := 8

def saturatingInodeIdentityBytes (left right : Int) : Int :=
  if left < 0 ∨ right < 0 ∨ left > maxInt64 - right then maxInt64 else left + right

def inodeIdentityRetainedBytes (value entryType : Bytes) : Int :=
  let logical := inodeIdentityKeyBytes + inodeNumberBytes
  let logical := saturatingInodeIdentityBytes logical value.length
  let logical := saturatingInodeIdentityBytes logical entryType.length
  let logical := saturatingInodeIdentityBytes logical logical
  saturatingInodeIdentityBytes logical inodeIdentityEntryOverheadBytes

def newInodeIdentityRegistry (limit byteLimit : Int) : InodeIdentityRegistry :=
  ⟨limit, byteLimit, 0, 0, 2, ∅⟩

namespace InodeIdentityRegistry

variable (registry : InodeIdentityRegistry)

def usageText (requestedBytes : Int) : List Fragment :=
  ["identities used=", .number (size registry.identities), " limit=", .number registry.limit,
    "; retained bytes used=", .number registry.retainedBytes, " limit=",
    .number registry.byteLimit, " requested=", .number requestedBytes]

def stableAttr (identity : SnapshotIdentity) (value entryType : Bytes) :
    Except Err StableAttr × InodeIdentityRegistry :=
  if identity.valid = false then
    (.error (.plain ["s3disk mount: invalid snapshot identity for inode ", .quoted value]), registry)
  else
    let key : InodeIdentityKey := ⟨identity, value, entryType⟩
    match registry.identities.lookup key with
    | some inodeNumber => (.ok ⟨typeMode entryType, inodeNumber, identity.generation⟩, registry)
    | none =>
        let requestedBytes := inodeIdentityRetainedBytes value entryType
        if (size registry.identities : Int) ≥ registry.limit ∨ registry.next = maxUint64 then
          (.error (Sentinel.inodeIdentityLimit.tagged (registry.usageText requestedBytes)), registry)
        else if requestedBytes > registry.byteLimit ∨
            registry.retainedBytes > subInt64 registry.byteLimit requestedBytes then
          (.error (Sentinel.inodeIdentityLimit.tagged
            (.text "retained byte budget exceeded: " :: registry.usageText requestedBytes)), registry)
        else
          (.ok ⟨typeMode entryType, registry.next, identity.generation⟩,
            { registry with
              next := (registry.next + 1) % (maxUint64 + 1)
              identities := registry.identities.insert key registry.next
              retainedBytes := addInt64 registry.retainedBytes requestedBytes })

def release (identity : SnapshotIdentity) (value entryType : Bytes) (inodeNumber : Nat) :
    Bool × InodeIdentityRegistry :=
  if identity.valid = false ∨ inodeNumber = 0 then (false, registry)
  else
    let key : InodeIdentityKey := ⟨identity, value, entryType⟩
    if registry.identities.lookup key ≠ some inodeNumber then (false, registry)
    else
      let charged := inodeIdentityRetainedBytes value entryType
      (true, { registry with
        identities := registry.identities.erase key
        retainedBytes :=
          if charged ≥ registry.retainedBytes then 0 else subInt64 registry.retainedBytes charged
        reclaimed := (registry.reclaimed + 1) % (maxUint64 + 1) })

end InodeIdentityRegistry

theorem saturatingInodeIdentityBytes_nonneg {left right : Int} :
    0 ≤ saturatingInodeIdentityBytes left right := by
  unfold saturatingInodeIdentityBytes
  split <;> omega

def charge (entry : Sigma fun _ : InodeIdentityKey => Nat) : Nat :=
  (inodeIdentityRetainedBytes entry.1.path entry.1.entryType).toNat

theorem inodeIdentityRetainedBytes_eq (key : InodeIdentityKey) (number : Nat) :
    inodeIdentityRetainedBytes key.path key.entryType = charge ⟨key, number⟩ := by
  have nonneg : 0 ≤ inodeIdentityRetainedBytes key.path key.entryType :=
    saturatingInodeIdentityBytes_nonneg
  rw [charge, Int.toNat_of_nonneg nonneg]

/-- What holds between calls. The last two facts say that no counter wrapped around. -/
structure Sound (registry : InodeIdentityRegistry) : Prop where
  numbered : ∀ key number, registry.identities.lookup key = some number →
    0 < number ∧ number < registry.next
  distinct : ∀ key other number, registry.identities.lookup key = some number →
    registry.identities.lookup other = some number → key = other
  counted : size registry.identities = 0 ∨ (size registry.identities : Int) ≤ registry.limit
  bounded : registry.retainedBytes = 0 ∨ registry.retainedBytes ≤ registry.byteLimit
  retained : registry.retainedBytes = total charge registry.identities
  balance : size registry.identities + registry.reclaimed + 2 = registry.next
  nextInRange : registry.next ≤ maxUint64

theorem stableAttr_cases {registry later : InodeIdentityRegistry} {key : InodeIdentityKey}
    {reply : Except Err StableAttr}
    (called : registry.stableAttr key.snapshot key.path key.entryType = (reply, later)) :
    (later = registry ∧ ∀ attr, reply = .ok attr →
      registry.identities.lookup key = some attr.ino) ∨
    (reply = .ok ⟨typeMode key.entryType, registry.next, key.snapshot.generation⟩ ∧
      registry.identities.lookup key = none ∧
      (size registry.identities : Int) < registry.limit ∧ registry.next ≠ maxUint64 ∧
      inodeIdentityRetainedBytes key.path key.entryType ≤ registry.byteLimit ∧
      registry.retainedBytes ≤
        subInt64 registry.byteLimit (inodeIdentityRetainedBytes key.path key.entryType) ∧
      later = { registry with
        next := (registry.next + 1) % (maxUint64 + 1)
        identities := registry.identities.insert key registry.next
        retainedBytes := addInt64 registry.retainedBytes
          (inodeIdentityRetainedBytes key.path key.entryType) }) := by
  unfold InodeIdentityRegistry.stableAttr at called
  split at called
  · cases called
    exact .inl ⟨rfl, fun _ failed => by cases failed⟩
  · dsimp only at called
    split at called
    · rename_i found
      cases called
      refine .inl ⟨rfl, fun attr given => ?_⟩
      cases given
      exact found
    · rename_i absent
      split at called
      · cases called
        exact .inl ⟨rfl, fun _ failed => by cases failed⟩
      · rename_i room
        split at called
        · cases called
          exact .inl ⟨rfl, fun _ failed => by cases failed⟩
        · rename_i bytes
          cases called
          obtain ⟨count, unspent⟩ := not_or.mp room
          obtain ⟨single, sum⟩ := not_or.mp bytes
          exact .inr ⟨rfl, absent, Int.not_le.mp count, unspent, Int.not_lt.mp single,
            Int.not_lt.mp sum, rfl⟩

theorem release_cases {registry later : InodeIdentityRegistry} {key : InodeIdentityKey}
    {inodeNumber : Nat} {reply : Bool}
    (called : registry.release key.snapshot key.path key.entryType inodeNumber = (reply, later)) :
    (reply = false ∧ later = registry) ∨
    (reply = true ∧ registry.identities.lookup key = some inodeNumber ∧
      later = { registry with
        identities := registry.identities.erase key
        retainedBytes :=
          if inodeIdentityRetainedBytes key.path key.entryType ≥ registry.retainedBytes then 0
          else subInt64 registry.retainedBytes
            (inodeIdentityRetainedBytes key.path key.entryType)
        reclaimed := (registry.reclaimed + 1) % (maxUint64 + 1) }) := by
  unfold InodeIdentityRegistry.release at called
  split at called
  · cases called
    exact .inl ⟨rfl, rfl⟩
  · dsimp only at called
    split at called
    · cases called
      exact .inl ⟨rfl, rfl⟩
    · rename_i found
      cases called
      exact .inr ⟨rfl, not_not.mp found, rfl⟩

theorem Sound.new (limit byteLimit : Int) : Sound (newInodeIdentityRegistry limit byteLimit) where
  numbered := fun key number found => by
    rw [newInodeIdentityRegistry, AList.lookup_empty] at found
    cases found
  distinct := fun key other number found => by
    rw [newInodeIdentityRegistry, AList.lookup_empty] at found
    cases found
  counted := .inl rfl
  bounded := .inl rfl
  retained := rfl
  balance := rfl
  nextInRange := by
    change 2 ≤ 0xFFFFFFFFFFFFFFFF
    omega

theorem Sound.stableAttr {registry later : InodeIdentityRegistry} (sound : Sound registry)
    (range : registry.byteLimit ≤ maxInt64) {key : InodeIdentityKey}
    {reply : Except Err StableAttr}
    (called : registry.stableAttr key.snapshot key.path key.entryType = (reply, later)) :
    Sound later := by
  obtain ⟨rfl, _⟩ | ⟨_, absent, count, unspent, single, sum, rfl⟩ := stableAttr_cases called
  · exact sound
  have fresh : key ∉ registry.identities := AList.lookup_eq_none.mp absent
  rw [inodeIdentityRetainedBytes_eq key registry.next] at single sum ⊢
  have retained := sound.retained
  have balance := sound.balance
  have last := sound.nextInRange
  -- The check subtracts before it compares; neither side leaves the range of `int64`.
  have difference : subInt64 registry.byteLimit (charge ⟨key, registry.next⟩) =
      registry.byteLimit - charge ⟨key, registry.next⟩ := int64_eq (by omega) (by omega)
  rw [difference] at sum
  have added : addInt64 registry.retainedBytes (charge ⟨key, registry.next⟩) =
      registry.retainedBytes + charge ⟨key, registry.next⟩ := int64_eq (by omega) (by omega)
  have following : (registry.next + 1) % (maxUint64 + 1) = registry.next + 1 :=
    Nat.mod_eq_of_lt (by omega)
  have looked : ∀ other number,
      (registry.identities.insert key registry.next).lookup other = some number →
      (other = key ∧ number = registry.next) ∨
        registry.identities.lookup other = some number := by
    intro other number found
    by_cases same : other = key
    · subst same
      rw [AList.lookup_insert] at found
      exact .inl ⟨rfl, (Option.some.inj found).symm⟩
    · rw [AList.lookup_insert_ne same] at found
      exact .inr found
  rw [added, following]
  refine ⟨?_, ?_, ?_, ?_, ?_, ?_, ?_⟩
  · intro other number found
    rcases looked other number found with ⟨_, rfl⟩ | old
    · exact ⟨by omega, Nat.lt_succ_self _⟩
    · obtain ⟨low, high⟩ := sound.numbered other number old
      exact ⟨low, Nat.lt_succ_of_lt high⟩
  · intro first second number found again
    rcases looked first number found with ⟨rfl, rfl⟩ | old
    · rcases looked second _ again with ⟨rfl, _⟩ | old
      · rfl
      · exact absurd (sound.numbered second _ old).2 (Nat.lt_irrefl _)
    · rcases looked second number again with ⟨rfl, rfl⟩ | other
      · exact absurd (sound.numbered first _ old).2 (Nat.lt_irrefl _)
      · exact sound.distinct first second number old other
  · dsimp only
    rw [size_insert fresh]
    omega
  · dsimp only
    omega
  · dsimp only
    rw [total_insert fresh]
    omega
  · dsimp only
    rw [size_insert fresh]
    omega
  · dsimp only
    omega

theorem Sound.release {registry later : InodeIdentityRegistry} (sound : Sound registry)
    (range : registry.byteLimit ≤ maxInt64) {key : InodeIdentityKey} {inodeNumber : Nat}
    {reply : Bool}
    (called : registry.release key.snapshot key.path key.entryType inodeNumber = (reply, later)) :
    Sound later := by
  obtain ⟨_, rfl⟩ | ⟨_, found, rfl⟩ := release_cases called
  · exact sound
  rw [inodeIdentityRetainedBytes_eq key inodeNumber]
  have retained := sound.retained
  have bounded := sound.bounded
  have balance := sound.balance
  have last := sound.nextInRange
  have lighter : total charge (registry.identities.erase key) + charge ⟨key, inodeNumber⟩ =
      total charge registry.identities := total_erase found
  have fewer := size_erase found
  have rest : (if (charge ⟨key, inodeNumber⟩ : Int) ≥ registry.retainedBytes then 0
      else subInt64 registry.retainedBytes (charge ⟨key, inodeNumber⟩)) =
      registry.retainedBytes - charge ⟨key, inodeNumber⟩ := by
    split
    · omega
    · exact int64_eq (by omega) (by omega)
  have reclaimed : (registry.reclaimed + 1) % (maxUint64 + 1) = registry.reclaimed + 1 :=
    Nat.mod_eq_of_lt (by omega)
  have looked : ∀ other number,
      (registry.identities.erase key).lookup other = some number →
        registry.identities.lookup other = some number := by
    intro other number left
    by_cases same : other = key
    · subst same
      rw [AList.lookup_erase] at left
      cases left
    · rwa [AList.lookup_erase_ne same] at left
  rw [rest, reclaimed]
  refine ⟨?_, ?_, ?_, ?_, ?_, ?_, last⟩
  · exact fun other number left => sound.numbered other number (looked other number left)
  · exact fun first second number left right =>
      sound.distinct first second number (looked first number left) (looked second number right)
  · have counted := sound.counted
    dsimp only
    omega
  · dsimp only
    omega
  · dsimp only
    omega
  · dsimp only
    omega

inductive RegistryCall where
  | stableAttr (key : InodeIdentityKey)
  | release (key : InodeIdentityKey) (inodeNumber : Nat)
  deriving DecidableEq, Repr

inductive RegistryReply where
  | attr (result : Except Err StableAttr)
  | released (result : Bool)

namespace InodeIdentityRegistry

def perform (registry : InodeIdentityRegistry) : RegistryCall → RegistryReply × InodeIdentityRegistry
  | .stableAttr key =>
      let (result, later) := registry.stableAttr key.snapshot key.path key.entryType
      (.attr result, later)
  | .release key inodeNumber =>
      let (result, later) := registry.release key.snapshot key.path key.entryType inodeNumber
      (.released result, later)

def afterCalls (registry : InodeIdentityRegistry) (calls : List RegistryCall) :
    InodeIdentityRegistry :=
  calls.foldl (fun registry call => (registry.perform call).2) registry

def transcript (registry : InodeIdentityRegistry) : List RegistryCall →
    List (RegistryCall × RegistryReply)
  | [] => []
  | call :: rest =>
      (call, (registry.perform call).1) :: (registry.perform call).2.transcript rest

end InodeIdentityRegistry

inductive Gives : RegistryCall × RegistryReply → InodeIdentityKey → Nat → Prop
  | attr {key : InodeIdentityKey} {attr : StableAttr} :
      Gives (.stableAttr key, .attr (.ok attr)) key attr.ino

inductive Releases : RegistryCall × RegistryReply → Nat → Prop
  | released {key : InodeIdentityKey} {inodeNumber : Nat} :
      Releases (.release key inodeNumber, .released true) inodeNumber

theorem byteLimit_perform (registry : InodeIdentityRegistry) (call : RegistryCall) :
    (registry.perform call).2.byteLimit = registry.byteLimit := by
  cases call with
  | stableAttr key =>
      cases called : registry.stableAttr key.snapshot key.path key.entryType with
      | mk reply later =>
          simp only [InodeIdentityRegistry.perform, called]
          obtain ⟨rfl, _⟩ | ⟨_, _, _, _, _, _, rfl⟩ := stableAttr_cases called <;> rfl
  | release key inodeNumber =>
      cases called : registry.release key.snapshot key.path key.entryType inodeNumber with
      | mk reply later =>
          simp only [InodeIdentityRegistry.perform, called]
          obtain ⟨_, rfl⟩ | ⟨_, _, rfl⟩ := release_cases called <;> rfl

theorem Sound.perform {registry : InodeIdentityRegistry} (sound : Sound registry)
    (range : registry.byteLimit ≤ maxInt64) (call : RegistryCall) :
    Sound (registry.perform call).2 := by
  cases call with
  | stableAttr key => exact sound.stableAttr range rfl
  | release key inodeNumber => exact sound.release range rfl

theorem Sound.afterCalls {registry : InodeIdentityRegistry} (sound : Sound registry)
    (range : registry.byteLimit ≤ maxInt64) (calls : List RegistryCall) :
    Sound (registry.afterCalls calls) := by
  induction calls generalizing registry with
  | nil => exact sound
  | cons call rest ih =>
      exact ih (sound.perform range call) (by rw [byteLimit_perform]; exact range)

def Reserved (registry : InodeIdentityRegistry) (number : Nat)
    (allowed : InodeIdentityKey → Prop) : Prop :=
  number < registry.next ∧ ∀ key, registry.identities.lookup key = some number → allowed key

theorem Reserved.perform {registry : InodeIdentityRegistry} (sound : Sound registry)
    {number : Nat} {allowed : InodeIdentityKey → Prop} (reserved : Reserved registry number allowed)
    (call : RegistryCall) :
    Reserved (registry.perform call).2 number allowed ∧
      ∀ key, Gives (call, (registry.perform call).1) key number → allowed key := by
  cases call with
  | stableAttr key =>
      cases called : registry.stableAttr key.snapshot key.path key.entryType with
      | mk reply later =>
          simp only [InodeIdentityRegistry.perform, called]
          obtain ⟨rfl, found⟩ | ⟨rfl, _, _, unspent, _, _, rfl⟩ := stableAttr_cases called
          · refine ⟨reserved, fun other given => ?_⟩
            cases given
            exact reserved.2 key (found _ rfl)
          · have following : (registry.next + 1) % (maxUint64 + 1) = registry.next + 1 := by
              have last := sound.nextInRange
              exact Nat.mod_eq_of_lt (by omega)
            rw [following]
            refine ⟨⟨Nat.lt_succ_of_lt reserved.1, fun other found => ?_⟩, fun other given => ?_⟩
            · by_cases same : other = key
              · subst same
                dsimp only at found
                rw [AList.lookup_insert] at found
                exact absurd reserved.1 (by rw [Option.some.inj found]; exact Nat.lt_irrefl _)
              · dsimp only at found
                rw [AList.lookup_insert_ne same] at found
                exact reserved.2 other found
            · cases given
              exact absurd reserved.1 (Nat.lt_irrefl _)
  | release key inodeNumber =>
      cases called : registry.release key.snapshot key.path key.entryType inodeNumber with
      | mk reply later =>
          simp only [InodeIdentityRegistry.perform, called]
          refine ⟨?_, fun other given => by cases given⟩
          obtain ⟨_, rfl⟩ | ⟨_, _, rfl⟩ := release_cases called
          · exact reserved
          · refine ⟨reserved.1, fun other found => ?_⟩
            by_cases same : other = key
            · subst same
              dsimp only at found
              rw [AList.lookup_erase] at found
              cases found
            · dsimp only at found
              rw [AList.lookup_erase_ne same] at found
              exact reserved.2 other found

theorem Reserved.transcript {registry : InodeIdentityRegistry} (sound : Sound registry)
    (range : registry.byteLimit ≤ maxInt64) {number : Nat} {allowed : InodeIdentityKey → Prop}
    (reserved : Reserved registry number allowed) (calls : List RegistryCall) :
    ∀ entry ∈ registry.transcript calls, ∀ key, Gives entry key number → allowed key := by
  induction calls generalizing registry with
  | nil =>
      intro entry member
      cases member
  | cons call rest ih =>
      intro entry member
      rcases List.mem_cons.mp member with rfl | later
      · exact (reserved.perform sound call).2
      · exact ih (sound.perform range call) (by rw [byteLimit_perform]; exact range)
          (reserved.perform sound call).1 entry later

theorem reserved_of_gives {registry : InodeIdentityRegistry} (sound : Sound registry)
    (range : registry.byteLimit ≤ maxInt64) {call : RegistryCall} {key : InodeIdentityKey}
    {number : Nat} (given : Gives (call, (registry.perform call).1) key number) :
    Reserved (registry.perform call).2 number (· = key) := by
  have later := sound.perform range call
  have live : (registry.perform call).2.identities.lookup key = some number := by
    cases call with
    | release key inodeNumber => cases given
    | stableAttr asked =>
        cases called : registry.stableAttr asked.snapshot asked.path asked.entryType with
        | mk reply later =>
            simp only [InodeIdentityRegistry.perform, called] at given ⊢
            cases given
            obtain ⟨rfl, found⟩ | ⟨result, _, _, _, _, _, rfl⟩ := stableAttr_cases called
            · exact found _ rfl
            · cases result
              exact AList.lookup_insert _
  exact ⟨(later.numbered key number live).2,
    fun other found => later.distinct other key number found live⟩

theorem reserved_of_releases {registry : InodeIdentityRegistry} (sound : Sound registry)
    {call : RegistryCall} {number : Nat}
    (released : Releases (call, (registry.perform call).1) number) :
    Reserved (registry.perform call).2 number (fun _ => False) := by
  cases call with
  | stableAttr key => cases released
  | release key inodeNumber =>
      cases called : registry.release key.snapshot key.path key.entryType inodeNumber with
      | mk reply later =>
          simp only [InodeIdentityRegistry.perform, called] at released ⊢
          cases released
          obtain ⟨failed, _⟩ | ⟨_, found, rfl⟩ := release_cases called
          · cases failed
          refine ⟨(sound.numbered key number found).2, fun other left => ?_⟩
          by_cases same : other = key
          · subst same
            dsimp only at left
            rw [AList.lookup_erase] at left
            cases left
          · dsimp only at left
            rw [AList.lookup_erase_ne same] at left
            exact same (sound.distinct other key number left found)

/-- What an earlier call leaves for a later one: a number keeps its identity, and a released
number is not given out again. -/
def Unrepeated (earlier later : RegistryCall × RegistryReply) : Prop :=
  (∀ key other number, Gives earlier key number → Gives later other number → other = key) ∧
    ∀ key number, Releases earlier number → ¬Gives later key number

theorem transcript_unrepeated {registry : InodeIdentityRegistry} (sound : Sound registry)
    (range : registry.byteLimit ≤ maxInt64) (calls : List RegistryCall) :
    (registry.transcript calls).Pairwise Unrepeated := by
  induction calls generalizing registry with
  | nil => exact .nil
  | cons call rest ih =>
      have kept : (registry.perform call).2.byteLimit ≤ maxInt64 := by
        rw [byteLimit_perform]
        exact range
      have later := sound.perform range call
      refine .cons (fun entry member => ⟨fun key other number given again => ?_,
        fun key number released given => ?_⟩) (ih later kept)
      · exact (reserved_of_gives sound range given).transcript later kept rest entry member
          other again
      · exact (reserved_of_releases sound released).transcript later kept rest entry member
          key given

/-- The registry after any sequence of calls. -/
theorem inode_identities {limit byteLimit : Int} {calls : List RegistryCall}
    {registry : InodeIdentityRegistry} (range : byteLimit ≤ maxInt64)
    (reached : (newInodeIdentityRegistry limit byteLimit).afterCalls calls = registry) :
    ((newInodeIdentityRegistry limit byteLimit).transcript calls).Pairwise Unrepeated ∧
    Sound registry ∧
    (∀ (key : InodeIdentityKey) error later,
      registry.stableAttr key.snapshot key.path key.entryType = (.error error, later) →
        later = registry) ∧
    ∀ (key : InodeIdentityKey) inodeNumber,
      registry.identities.lookup key ≠ some inodeNumber →
        registry.release key.snapshot key.path key.entryType inodeNumber = (false, registry) := by
  have start := Sound.new limit byteLimit
  refine ⟨transcript_unrepeated start range calls, reached ▸ start.afterCalls range calls, ?_, ?_⟩
  · intro key error later failed
    obtain ⟨same, _⟩ | ⟨succeeded, _⟩ := stableAttr_cases failed
    · exact same
    · cases succeeded
  · intro key inodeNumber other
    cases called : registry.release key.snapshot key.path key.entryType inodeNumber with
    | mk reply later =>
        obtain ⟨rfl, rfl⟩ | ⟨_, found, _⟩ := release_cases called
        · rfl
        · exact absurd found other

namespace SampleRegistry

def key : InodeIdentityKey := ⟨⟨7, ⟨[1]⟩⟩, ascii "notes/today.txt", ascii "file"⟩

def calls : List RegistryCall :=
  [.stableAttr key, .release key 2, .stableAttr key, .release key 2]

end SampleRegistry

open SampleRegistry in
theorem inode_identities_again :
    (newInodeIdentityRegistry 1 2000).transcript calls =
      [(.stableAttr key, .attr (.ok ⟨0x8000, 2, 7⟩)), (.release key 2, .released true),
        (.stableAttr key, .attr (.ok ⟨0x8000, 3, 7⟩)), (.release key 2, .released false)] ∧
    ((newInodeIdentityRegistry 1 2000).transcript calls).Pairwise Unrepeated :=
  ⟨rfl, (inode_identities (by decide) rfl).1⟩

end S3Disk.Mount
