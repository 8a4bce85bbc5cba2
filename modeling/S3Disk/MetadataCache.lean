import Mathlib.Data.List.AList
import S3Disk.Library.Automaton
import S3Disk.Model

/-! `metadataCache`: one LRU for the manifests of directories, files and symlinks, with a limit
on the entries and a limit on the bytes that they are charged for. -/

namespace S3Disk

open Concurrent

structure MetadataCacheKey where
  kind : Bytes
  digest : Digest
  deriving DecidableEq, Repr

/-- An entry and the list element that holds it. The source reaches the element by a pointer;
here it has a number. -/
structure MetadataCacheEntry (Value : Type) where
  element : Nat
  key : MetadataCacheKey
  value : Value
  retainedBytes : Int

structure MetadataCache (Value : Type) where
  maxEntries : Int
  maxBytes : Int
  retainedBytes : Int
  items : AList fun _ : MetadataCacheKey => MetadataCacheEntry Value
  order : List (MetadataCacheEntry Value)
  allocated : Nat

inductive MetadataCacheFault where
  | overflow
  | endless
  deriving DecidableEq, Repr

def maxMetadataCacheBytes : Int := 0x40000000

def metadataCacheEntryOverheadBytes : Int := 512

/-- The result of an operation on `int64`. The source would wrap where this one stops. -/
def int64Result (value : Int) : Except MetadataCacheFault Int :=
  if -0x8000000000000000 ≤ value ∧ value < 0x8000000000000000 then .ok value
  else .error .overflow

def newMetadataCache (Value : Type) (maxEntries maxBytes : Int) : MetadataCache Value where
  maxEntries := maxEntries
  maxBytes := maxBytes
  retainedBytes := 0
  items := ∅
  order := []
  allocated := 0

namespace MetadataCache

variable {Value : Type} (cache : MetadataCache Value)

def moveToFront (entry : MetadataCacheEntry Value) : MetadataCache Value :=
  { cache with order := entry :: cache.order.eraseP fun other => other.element == entry.element }

def get (key : MetadataCacheKey) : Option Value × MetadataCache Value :=
  match cache.items.lookup key with
  | none => (none, cache)
  | some entry => (some entry.value, cache.moveToFront entry)

def removeOldest : Except MetadataCacheFault (MetadataCache Value) :=
  match cache.order.getLast? with
  | none => .ok cache
  | some oldest => do
      let retainedBytes ← int64Result (cache.retainedBytes - oldest.retainedBytes)
      return { cache with
        items := cache.items.erase oldest.key
        order := cache.order.dropLast
        retainedBytes := retainedBytes }

abbrev Exceeds : Prop :=
  cache.order.length > cache.maxEntries ∨ cache.retainedBytes > cache.maxBytes

def evict : Nat → MetadataCache Value → Except MetadataCacheFault (MetadataCache Value)
  | 0, cache => if cache.Exceeds then .error .endless else .ok cache
  | rounds + 1, cache =>
      if cache.Exceeds then do evict rounds (← cache.removeOldest) else .ok cache

def insert (key : MetadataCacheKey) (value : Value) (retainedBytes : Int) :
    Except MetadataCacheFault (MetadataCache Value) := do
  let entry : MetadataCacheEntry Value := ⟨cache.allocated, key, value, retainedBytes⟩
  let total ← int64Result (cache.retainedBytes + retainedBytes)
  return { cache with
    order := entry :: cache.order
    items := cache.items.insert key entry
    allocated := cache.allocated + 1
    retainedBytes := total }

def charge (retainedBytes : Int) : Int :=
  if retainedBytes < metadataCacheEntryOverheadBytes then metadataCacheEntryOverheadBytes
  else retainedBytes

def put (key : MetadataCacheKey) (value : Value) (retainedBytes : Int) :
    Except MetadataCacheFault (Value × MetadataCache Value) :=
  match cache.items.lookup key with
  | some existing => .ok (existing.value, cache.moveToFront existing)
  | none =>
      if cache.maxEntries ≤ 0 ∨ cache.maxBytes ≤ 0 ∨ charge retainedBytes > cache.maxBytes then
        .ok (value, cache)
      else do
        let inserted ← cache.insert key value (charge retainedBytes)
        let kept ← evict inserted.order.length inserted
        return (value, kept)

def clear : MetadataCache Value := { cache with items := ∅, order := [], retainedBytes := 0 }

end MetadataCache

inductive MetadataCacheCall (Value : Type) where
  | get (key : MetadataCacheKey)
  | put (key : MetadataCacheKey) (value : Value) (retainedBytes : Int)
  | clear

namespace MetadataCache

variable {Value : Type}

def perform (cache : MetadataCache Value) :
    MetadataCacheCall Value → Except MetadataCacheFault (Option Value × MetadataCache Value)
  | .get key => .ok (cache.get key)
  | .put key value retainedBytes => do
      let (stored, after) ← cache.put key value retainedBytes
      return (some stored, after)
  | .clear => .ok (none, cache.clear)

def run (maxEntries maxBytes : Int) :
    List (MetadataCacheCall Value) → Except MetadataCacheFault (MetadataCache Value)
  | [] => .ok (newMetadataCache Value maxEntries maxBytes)
  | call :: earlier => do
      let cache ← run maxEntries maxBytes earlier
      let (_, after) ← cache.perform call
      return after

end MetadataCache

def MetadataCacheCall.key {Value : Type} : MetadataCacheCall Value → Option MetadataCacheKey
  | .get key => some key
  | .put key _ _ => some key
  | .clear => none

def lastUse {Value : Type} : List (MetadataCacheCall Value) → MetadataCacheKey → Nat
  | [], _ => 0
  | call :: earlier, key =>
      if call.key = some key then earlier.length + 1 else lastUse earlier key

namespace MetadataCache

variable {Value : Type}

def Holds (maxEntries maxBytes : Int) (history : List (MetadataCacheCall Value))
    (key : MetadataCacheKey) : Prop :=
  ∃ cache, run maxEntries maxBytes history = .ok cache ∧ key ∈ cache.items

def FirstPut (maxEntries maxBytes : Int) (history : List (MetadataCacheCall Value))
    (key : MetadataCacheKey) (value : Value) : Prop :=
  ∃ later retainedBytes earlier, history = later ++ .put key value retainedBytes :: earlier ∧
    ¬ Holds maxEntries maxBytes earlier key ∧
    ∀ since, since <:+ later →
      Holds maxEntries maxBytes (since ++ .put key value retainedBytes :: earlier) key

structure Coherent (cache : MetadataCache Value) : Prop where
  lookup : ∀ key entry, cache.items.lookup key = some entry ↔
    entry ∈ cache.order ∧ entry.key = key
  keys : (cache.order.map (·.key)).Nodup
  elements : cache.order.Pairwise fun newer older => newer.element ≠ older.element
  fresh : ∀ entry ∈ cache.order, entry.element < cache.allocated
  retained : cache.retainedBytes = Tasks.total (·.retainedBytes) cache.order
  charged : ∀ entry ∈ cache.order, 0 < entry.retainedBytes

/-- A coherent cache within its limits. Under a limit of zero or less nothing is kept. -/
structure Within (cache : MetadataCache Value) : Prop extends Coherent cache where
  limits : cache.order = [] ∨ ¬ cache.Exceeds

variable {cache : MetadataCache Value}

theorem Within.new {maxEntries maxBytes : Int} :
    Within (newMetadataCache Value maxEntries maxBytes) where
  lookup key entry := by simp [newMetadataCache]
  keys := List.nodup_nil
  elements := List.Pairwise.nil
  fresh := by simp [newMetadataCache]
  retained := rfl
  charged := by simp [newMetadataCache]
  limits := .inl rfl

theorem Within.clear (cache : MetadataCache Value) : Within cache.clear where
  lookup key entry := by simp [MetadataCache.clear]
  keys := List.nodup_nil
  elements := List.Pairwise.nil
  fresh := by simp [MetadataCache.clear]
  retained := rfl
  charged := by simp [MetadataCache.clear]
  limits := .inl rfl

theorem Coherent.moved (coherent : Coherent cache) {entry : MetadataCacheEntry Value}
    (member : entry ∈ cache.order) :
    ∃ newer older, cache.order = newer ++ entry :: older ∧
      (cache.moveToFront entry).order = entry :: (newer ++ older) := by
  obtain ⟨newer, older, split⟩ := List.append_of_mem member
  refine ⟨newer, older, split, ?_⟩
  have distinct := coherent.elements
  rw [split, List.pairwise_append] at distinct
  have before : ∀ other ∈ newer, ¬ (other.element == entry.element) = true := by
    intro other found
    simpa using distinct.2.2 other found entry (by simp)
  unfold moveToFront
  rw [split]
  dsimp only
  rw [List.eraseP_append_right _ before, List.eraseP_cons_of_pos (by simp)]

theorem Coherent.reorder (coherent : Coherent cache) {order : List (MetadataCacheEntry Value)}
    (same : order.Perm cache.order) : Coherent { cache with order := order } where
  lookup key entry := by
    rw [coherent.lookup key entry, ← same.mem_iff]
  keys := (same.map _).nodup_iff.mpr coherent.keys
  elements := (same.pairwise_iff fun different => Ne.symm different).mpr coherent.elements
  fresh entry member := coherent.fresh entry (same.mem_iff.mp member)
  retained := coherent.retained.trans (Tasks.total_perm same).symm
  charged entry member := coherent.charged entry (same.mem_iff.mp member)

theorem Coherent.moveToFront_perm (coherent : Coherent cache) {entry : MetadataCacheEntry Value}
    (member : entry ∈ cache.order) : (cache.moveToFront entry).order.Perm cache.order := by
  obtain ⟨newer, older, split, moved⟩ := coherent.moved member
  rw [moved, split]
  exact List.perm_middle.symm

theorem Within.moveToFront (within : Within cache) {entry : MetadataCacheEntry Value}
    (member : entry ∈ cache.order) : Within (cache.moveToFront entry) := by
  have same := within.toCoherent.moveToFront_perm member
  refine ⟨within.toCoherent.reorder same, .inr ?_⟩
  have bounded := within.limits.resolve_left (List.ne_nil_of_mem member)
  unfold Exceeds at bounded ⊢
  rw [same.length_eq]
  exact bounded

theorem Coherent.insert (coherent : Coherent cache) {key : MetadataCacheKey} (value : Value)
    {retainedBytes : Int} (absent : cache.items.lookup key = none) (positive : 0 < retainedBytes) :
    Coherent { cache with
      order := ⟨cache.allocated, key, value, retainedBytes⟩ :: cache.order
      items := cache.items.insert key ⟨cache.allocated, key, value, retainedBytes⟩
      allocated := cache.allocated + 1
      retainedBytes := cache.retainedBytes + retainedBytes } where
  lookup other entry := by
    by_cases same : other = key
    · subst same
      rw [AList.lookup_insert]
      constructor
      · intro found
        cases found
        exact ⟨List.mem_cons_self, rfl⟩
      · rintro ⟨member, keyed⟩
        rcases List.mem_cons.mp member with rfl | member
        · rfl
        · have := (coherent.lookup other entry).mpr ⟨member, keyed⟩
          rw [absent] at this
          cases this
    · rw [AList.lookup_insert_ne same, coherent.lookup other entry]
      constructor
      · rintro ⟨member, keyed⟩
        exact ⟨List.mem_cons_of_mem _ member, keyed⟩
      · rintro ⟨member, keyed⟩
        rcases List.mem_cons.mp member with rfl | member
        · exact absurd keyed.symm same
        · exact ⟨member, keyed⟩
  keys := by
    refine List.nodup_cons.mpr ⟨fun member => ?_, coherent.keys⟩
    obtain ⟨entry, member, keyed⟩ := List.mem_map.mp member
    have := (coherent.lookup key entry).mpr ⟨member, keyed⟩
    rw [absent] at this
    cases this
  elements := by
    refine List.pairwise_cons.mpr ⟨fun entry member => ?_, coherent.elements⟩
    exact (coherent.fresh entry member).ne'
  fresh entry member := by
    rcases List.mem_cons.mp member with rfl | member
    · exact Nat.lt_succ_self _
    · exact Nat.lt_succ_of_lt (coherent.fresh entry member)
  retained := by
    dsimp only
    rw [Tasks.total, coherent.retained, Int.add_comm]
  charged entry member := by
    rcases List.mem_cons.mp member with rfl | member
    · exact positive
    · exact coherent.charged entry member

theorem Coherent.removeOldest (coherent : Coherent cache) {kept : List (MetadataCacheEntry Value)}
    {oldest : MetadataCacheEntry Value} (split : cache.order = kept ++ [oldest]) :
    Coherent { cache with
      items := cache.items.erase oldest.key
      order := kept
      retainedBytes := cache.retainedBytes - oldest.retainedBytes } := by
  have keys := coherent.keys
  have elements := coherent.elements
  have retained := coherent.retained
  rw [split] at keys elements retained
  rw [List.map_append, List.nodup_append] at keys
  have inside : ∀ entry ∈ kept, entry ∈ cache.order := by
    intro entry member
    rw [split]
    exact List.mem_append_left _ member
  have other : ∀ entry ∈ kept, entry.key ≠ oldest.key := fun entry member =>
    keys.2.2 _ (List.mem_map_of_mem member) _ (by simp)
  refine ⟨fun key entry => ?_, keys.1, (List.pairwise_append.mp elements).1,
    fun entry member => coherent.fresh entry (inside entry member), ?_,
    fun entry member => coherent.charged entry (inside entry member)⟩
  · by_cases same : key = oldest.key
    · subst same
      rw [AList.lookup_erase]
      refine ⟨nofun, ?_⟩
      rintro ⟨member, keyed⟩
      exact absurd keyed (other entry member)
    · rw [AList.lookup_erase_ne same, coherent.lookup key entry, split]
      constructor
      · rintro ⟨member, keyed⟩
        refine ⟨(List.mem_append.mp member).resolve_right fun last => ?_, keyed⟩
        rw [List.mem_singleton] at last
        exact same (last ▸ keyed.symm)
      · rintro ⟨member, keyed⟩
        exact ⟨List.mem_append_left _ member, keyed⟩
  · rw [Tasks.total_push] at retained
    dsimp only
    omega

theorem Coherent.retained_nonneg (coherent : Coherent cache) : 0 ≤ cache.retainedBytes := by
  rw [coherent.retained]
  exact Tasks.total_nonneg fun entry member => Int.le_of_lt (coherent.charged entry member)

theorem evict_spec {first : MetadataCacheEntry Value} {rest : List (MetadataCacheEntry Value)}
    (rounds : Nat) (coherent : Coherent cache) (entries : 0 < cache.maxEntries)
    (order : cache.order = first :: rest) (fits : first.retainedBytes ≤ cache.maxBytes)
    (small : cache.retainedBytes ≤ 2 * maxMetadataCacheBytes) (enough : rest.length < rounds) :
    ∃ after victims kept, evict rounds cache = .ok after ∧ Within after ∧
      after.order = first :: kept ∧ cache.order = after.order ++ victims ∧
      after.maxEntries = cache.maxEntries ∧ after.maxBytes = cache.maxBytes := by
  induction rounds generalizing cache rest with
  | zero => omega
  | succ rounds ih =>
      by_cases exceeds : cache.Exceeds
      case neg =>
        exact ⟨cache, [], rest, if_neg exceeds, ⟨coherent, .inr exceeds⟩, order, by simp, rfl, rfl⟩
      -- The first entry alone exceeds no limit, so there is one behind it to take.
      have more : rest ≠ [] := by
        rintro rfl
        have alone := coherent.retained
        rw [order] at alone
        simp only [Tasks.total] at alone
        rcases exceeds with many | much
        · rw [order] at many
          simp only [List.length_singleton] at many
          omega
        · omega
      obtain ⟨kept, oldest, rfl⟩ : ∃ kept oldest, rest = kept ++ [oldest] :=
        ⟨_, _, (List.dropLast_append_getLast more).symm⟩
      have split : cache.order = (first :: kept) ++ [oldest] := order
      have removed := coherent.removeOldest split
      have lower := removed.retained_nonneg
      have upper := coherent.charged oldest (by simp [split])
      dsimp only at lower
      have range : int64Result (cache.retainedBytes - oldest.retainedBytes) =
          .ok (cache.retainedBytes - oldest.retainedBytes) := by
        refine if_pos ?_
        unfold maxMetadataCacheBytes at small
        omega
      have step : cache.removeOldest = .ok { cache with
          items := cache.items.erase oldest.key
          order := first :: kept
          retainedBytes := cache.retainedBytes - oldest.retainedBytes } := by
        unfold MetadataCache.removeOldest
        rw [split, List.getLast?_concat, List.dropLast_concat]
        dsimp only
        rw [range]
        rfl
      obtain ⟨after, victims, last, evicted, within, head, whole, limits⟩ :=
        ih removed entries rfl fits (by dsimp only; omega) (by simp at enough; omega)
      refine ⟨after, victims ++ [oldest], last, ?_, within, head, ?_, limits⟩
      · rw [evict, if_pos exceeds, step]
        exact evicted
      · rw [split, ← List.append_assoc, ← whole]

inductive Effect (cache : MetadataCache Value) :
    MetadataCacheCall Value → MetadataCache Value → Prop
  | untouched {call : MetadataCacheCall Value} {key : MetadataCacheKey}
      (names : call.key = some key) (absent : cache.items.lookup key = none) :
      Effect cache call cache
  | touched {call : MetadataCacheCall Value} {key : MetadataCacheKey}
      {entry : MetadataCacheEntry Value} (names : call.key = some key)
      (found : cache.items.lookup key = some entry) : Effect cache call (cache.moveToFront entry)
  | inserted {key : MetadataCacheKey} {value : Value} {retainedBytes : Int}
      {after : MetadataCache Value} {entry : MetadataCacheEntry Value}
      {kept victims : List (MetadataCacheEntry Value)}
      (absent : cache.items.lookup key = none) (keyed : entry.key = key)
      (stored : entry.value = value) (order : after.order = entry :: kept)
      (whole : cache.order = kept ++ victims) :
      Effect cache (.put key value retainedBytes) after
  | cleared : Effect cache .clear cache.clear

theorem perform_put {after : MetadataCache Value} {key : MetadataCacheKey} {value stored : Value}
    {retainedBytes : Int} (returned : cache.put key value retainedBytes = .ok (stored, after)) :
    cache.perform (.put key value retainedBytes) = .ok (some stored, after) := by
  change (cache.put key value retainedBytes >>= _) = _
  rw [returned]
  rfl

theorem put_inserts (within : Within cache) (bounded : cache.maxBytes ≤ maxMetadataCacheBytes)
    {key : MetadataCacheKey} (value : Value) {retainedBytes : Int}
    (absent : cache.items.lookup key = none)
    (accepted : ¬ (cache.maxEntries ≤ 0 ∨ cache.maxBytes ≤ 0 ∨
      charge retainedBytes > cache.maxBytes)) :
    ∃ after kept victims, cache.put key value retainedBytes = .ok (value, after) ∧ Within after ∧
      after.order = ⟨cache.allocated, key, value, charge retainedBytes⟩ :: kept ∧
      cache.order = kept ++ victims ∧
      after.maxEntries = cache.maxEntries ∧ after.maxBytes = cache.maxBytes := by
  simp only [not_or] at accepted
  obtain ⟨entries, bytes, fits⟩ := accepted
  have positive : 0 < charge retainedBytes := by
    unfold charge metadataCacheEntryOverheadBytes
    split <;> omega
  have lower := within.retained_nonneg
  have upper : cache.retainedBytes ≤ maxMetadataCacheBytes := by
    rcases within.limits with empty | limits
    · have nothing := within.retained
      rw [empty] at nothing
      simp only [Tasks.total] at nothing
      rw [nothing]
      decide
    · have := (not_or.mp limits).2
      omega
  have range : int64Result (cache.retainedBytes + charge retainedBytes) =
      .ok (cache.retainedBytes + charge retainedBytes) := by
    refine if_pos ?_
    unfold maxMetadataCacheBytes at upper bounded
    omega
  have coherent := within.toCoherent.insert value absent positive
  obtain ⟨after, victims, kept, evicted, bounds, order, whole, limits⟩ :=
    evict_spec (cache.order.length + 1) coherent (by dsimp only; omega) rfl
      (by dsimp only; omega) (by dsimp only; omega) (Nat.lt_succ_self _)
  refine ⟨after, kept, victims, ?_, bounds, order, ?_, limits⟩
  · unfold put
    rw [absent]
    dsimp only
    rw [if_neg (by simp only [not_or]; exact ⟨entries, bytes, fits⟩)]
    unfold MetadataCache.insert
    rw [range]
    change (evict (cache.order.length + 1) _ >>= fun kept => pure (value, kept)) = _
    rw [evicted]
    rfl
  · rw [order, List.cons_append] at whole
    exact List.tail_eq_of_cons_eq whole

theorem perform_spec (within : Within cache) (bounded : cache.maxBytes ≤ maxMetadataCacheBytes)
    (call : MetadataCacheCall Value) :
    ∃ reply after, cache.perform call = .ok (reply, after) ∧ Within after ∧
      Effect cache call after ∧
      after.maxEntries = cache.maxEntries ∧ after.maxBytes = cache.maxBytes := by
  cases call with
  | get key =>
      cases found : cache.items.lookup key with
      | none =>
          refine ⟨none, cache, ?_, within, .untouched rfl found, rfl, rfl⟩
          simp only [perform, get, found]
      | some entry =>
          refine ⟨some entry.value, cache.moveToFront entry, ?_,
            within.moveToFront ((within.lookup key entry).mp found).1,
            .touched rfl found, rfl, rfl⟩
          simp only [perform, get, found]
  | put key value retainedBytes =>
      cases found : cache.items.lookup key with
      | some existing =>
          refine ⟨some existing.value, cache.moveToFront existing, ?_,
            within.moveToFront ((within.lookup key existing).mp found).1,
            .touched rfl found, rfl, rfl⟩
          refine perform_put ?_
          simp only [put, found]
      | none =>
          by_cases refused : cache.maxEntries ≤ 0 ∨ cache.maxBytes ≤ 0 ∨
              charge retainedBytes > cache.maxBytes
          · refine ⟨some value, cache, ?_, within, .untouched rfl found, rfl, rfl⟩
            refine perform_put ?_
            simp only [put, found]
            rw [if_pos refused]
          · obtain ⟨after, kept, victims, inserted, bounds, order, whole, limits⟩ :=
              put_inserts within bounded value found refused
            exact ⟨some value, after, perform_put inserted, bounds,
              .inserted found rfl rfl order whole, limits⟩
  | clear => exact ⟨none, cache.clear, rfl, Within.clear cache, .cleared, rfl, rfl⟩

theorem lastUse_le (history : List (MetadataCacheCall Value)) (key : MetadataCacheKey) :
    lastUse history key ≤ history.length := by
  induction history with
  | nil => exact Nat.le_refl 0
  | cons call earlier ih =>
      rw [lastUse, List.length_cons]
      split <;> omega

def MoreRecent (history : List (MetadataCacheCall Value))
    (newer older : MetadataCacheEntry Value) : Prop :=
  lastUse history older.key < lastUse history newer.key

theorem recent_other {history : List (MetadataCacheCall Value)} {call : MetadataCacheCall Value}
    {order : List (MetadataCacheEntry Value)} (recent : order.Pairwise (MoreRecent history))
    (other : ∀ entry ∈ order, call.key ≠ some entry.key) :
    order.Pairwise (MoreRecent (call :: history)) := by
  refine List.Pairwise.imp_of_mem ?_ recent
  intro newer older first second before
  unfold MoreRecent lastUse
  rw [if_neg (other newer first), if_neg (other older second)]
  exact before

theorem recent_front {history : List (MetadataCacheCall Value)} {call : MetadataCacheCall Value}
    {entry : MetadataCacheEntry Value} {order : List (MetadataCacheEntry Value)}
    (names : call.key = some entry.key) (recent : order.Pairwise (MoreRecent history))
    (other : ∀ older ∈ order, older.key ≠ entry.key) :
    (entry :: order).Pairwise (MoreRecent (call :: history)) := by
  have unnamed : ∀ older ∈ order, call.key ≠ some older.key := by
    intro older member same
    rw [names] at same
    exact other older member (Option.some.inj same).symm
  refine List.pairwise_cons.mpr ⟨fun older member => ?_, recent_other recent unnamed⟩
  unfold MoreRecent lastUse
  rw [if_neg (unnamed older member), if_pos names]
  exact Nat.lt_succ_of_le (lastUse_le history older.key)

theorem Coherent.absent_key (coherent : Coherent cache) {key : MetadataCacheKey}
    (absent : cache.items.lookup key = none) : ∀ entry ∈ cache.order, entry.key ≠ key := by
  intro entry member keyed
  have := (coherent.lookup key entry).mpr ⟨member, keyed⟩
  rw [absent] at this
  cases this

theorem Effect.recent {history : List (MetadataCacheCall Value)} {call : MetadataCacheCall Value}
    {after : MetadataCache Value} (effect : Effect cache call after) (coherent : Coherent cache)
    (recent : cache.order.Pairwise (MoreRecent history)) :
    after.order.Pairwise (MoreRecent (call :: history)) := by
  cases effect with
  | untouched names absent =>
      refine recent_other recent fun entry member same => ?_
      rw [names] at same
      exact coherent.absent_key absent entry member (Option.some.inj same).symm
  | @touched call key entry names found =>
      obtain ⟨member, keyed⟩ := (coherent.lookup key entry).mp found
      obtain ⟨newer, older, split, moved⟩ := coherent.moved member
      have keys := coherent.keys
      rw [split, (List.perm_middle.map _).nodup_iff, List.map_cons, List.nodup_cons] at keys
      rw [split] at recent
      rw [moved]
      refine recent_front (keyed ▸ names) (recent.sublist ?_) fun other member same => ?_
      · exact List.Sublist.append_left (List.sublist_cons_self _ _) _
      · exact keys.1 (List.mem_map.mpr ⟨other, member, same⟩)
  | @inserted key value retainedBytes after entry kept victims absent keyed stored order whole =>
      rw [order]
      rw [whole] at recent
      refine recent_front (congrArg some keyed.symm) (List.pairwise_append.mp recent).1 ?_
      intro other member same
      refine coherent.absent_key absent other ?_ (same.trans keyed)
      rw [whole]
      exact List.mem_append_left _ member
  | cleared => exact List.Pairwise.nil

variable {maxEntries maxBytes : Int} {history : List (MetadataCacheCall Value)}

theorem FirstPut.later {key : MetadataCacheKey} {value : Value} {call : MetadataCacheCall Value}
    (first : FirstPut maxEntries maxBytes history key value)
    (held : Holds maxEntries maxBytes (call :: history) key) :
    FirstPut maxEntries maxBytes (call :: history) key value := by
  obtain ⟨later, retainedBytes, earlier, rfl, absent, since⟩ := first
  refine ⟨call :: later, retainedBytes, earlier, rfl, absent, fun more suffix => ?_⟩
  rcases List.suffix_cons_iff.mp suffix with rfl | suffix
  · exact held
  · exact since more suffix

theorem Effect.firstPut {call : MetadataCacheCall Value} {after : MetadataCache Value}
    (effect : Effect cache call after) (coherent : Coherent cache) (later : Coherent after)
    (ran : run maxEntries maxBytes history = .ok cache)
    (next : run maxEntries maxBytes (call :: history) = .ok after)
    (first : ∀ entry ∈ cache.order, FirstPut maxEntries maxBytes history entry.key entry.value) :
    ∀ entry ∈ after.order,
      FirstPut maxEntries maxBytes (call :: history) entry.key entry.value := by
  intro entry member
  have held : Holds maxEntries maxBytes (call :: history) entry.key := by
    have found := (later.lookup entry.key entry).mpr ⟨member, rfl⟩
    exact ⟨after, next, AList.lookup_isSome.mp (by rw [found]; rfl)⟩
  have kept : entry ∈ cache.order →
      FirstPut maxEntries maxBytes (call :: history) entry.key entry.value :=
    fun before => (first entry before).later held
  cases effect with
  | untouched _ _ => exact kept member
  | touched _ found =>
      have old := ((coherent.lookup _ _).mp found).1
      exact kept ((coherent.moveToFront_perm old).mem_iff.mp member)
  | @inserted key value retainedBytes after fresh rest victims absent keyed stored order whole =>
      rw [order] at member
      rcases List.mem_cons.mp member with rfl | before
      · subst keyed stored
        refine ⟨[], retainedBytes, history, rfl, ?_, fun since suffix => ?_⟩
        · rintro ⟨other, reached, present⟩
          rw [ran] at reached
          cases reached
          rw [← AList.lookup_isSome, absent] at present
          cases present
        · rw [List.suffix_nil.mp suffix]
          exact held
      · refine kept ?_
        rw [whole]
        exact List.mem_append_left _ before
  | cleared => cases member

structure Reached (maxEntries maxBytes : Int) (history : List (MetadataCacheCall Value))
    (cache : MetadataCache Value) : Prop extends Within cache where
  ran : run maxEntries maxBytes history = .ok cache
  maxEntries_eq : cache.maxEntries = maxEntries
  maxBytes_eq : cache.maxBytes = maxBytes
  recent : cache.order.Pairwise (MoreRecent history)
  first : ∀ entry ∈ cache.order, FirstPut maxEntries maxBytes history entry.key entry.value

theorem Reached.perform (reached : Reached maxEntries maxBytes history cache)
    (bounded : maxBytes ≤ maxMetadataCacheBytes) (call : MetadataCacheCall Value) :
    ∃ after, Reached maxEntries maxBytes (call :: history) after := by
  obtain ⟨reply, after, performed, within, effect, entriesEq, bytesEq⟩ :=
    perform_spec reached.toWithin (reached.maxBytes_eq.symm ▸ bounded) call
  have ran : run maxEntries maxBytes (call :: history) = .ok after := by
    rw [run, reached.ran]
    change (cache.perform call >>= _) = _
    rw [performed]
    rfl
  exact ⟨after, within, ran, entriesEq.trans reached.maxEntries_eq,
    bytesEq.trans reached.maxBytes_eq, effect.recent reached.toCoherent reached.recent,
    effect.firstPut reached.toCoherent within.toCoherent reached.ran ran reached.first⟩

theorem reached (maxEntries : Int) (bounded : maxBytes ≤ maxMetadataCacheBytes)
    (history : List (MetadataCacheCall Value)) :
    ∃ cache, Reached maxEntries maxBytes history cache := by
  induction history with
  | nil => exact ⟨_, .new, rfl, rfl, rfl, List.Pairwise.nil, nofun⟩
  | cons call earlier ih =>
      obtain ⟨cache, reached⟩ := ih
      exact reached.perform bounded call

theorem Coherent.keys_perm (coherent : Coherent cache) :
    cache.items.keys.Perm (cache.order.map (·.key)) := by
  refine (List.perm_ext_iff_of_nodup cache.items.keys_nodup coherent.keys).mpr fun key => ?_
  rw [← AList.mem_keys, ← AList.lookup_isSome, Option.isSome_iff_exists, List.mem_map]
  constructor
  · rintro ⟨entry, found⟩
    exact ⟨entry, (coherent.lookup key entry).mp found⟩
  · rintro ⟨entry, found⟩
    exact ⟨entry, (coherent.lookup key entry).mpr found⟩

/-- Every history of calls leaves a cache: no operation overflows and no loop is endless. Its
map and its list agree, its limits hold, a hit has the value of the first `Put` since the key
was absent, and `Put` evicts what was used longest ago and never its own entry. -/
theorem metadata_cache (maxEntries maxBytes : Int) (bounded : maxBytes ≤ maxMetadataCacheBytes)
    (history : List (MetadataCacheCall Value)) :
    ∃ cache, run maxEntries maxBytes history = .ok cache ∧
      cache.items.keys.Perm (cache.order.map (·.key)) ∧ (cache.order.map (·.key)).Nodup ∧
      cache.retainedBytes = Tasks.total (·.retainedBytes) cache.order ∧
      (cache.order = [] ∨ cache.order.length ≤ maxEntries ∧ cache.retainedBytes ≤ maxBytes) ∧
      (∀ key value, (cache.get key).1 = some value →
        FirstPut maxEntries maxBytes history key value) ∧
      cache.order.Pairwise (MoreRecent history) ∧
      ∀ key value retainedBytes, key ∉ cache.items →
        ¬ (maxEntries ≤ 0 ∨ maxBytes ≤ 0 ∨ charge retainedBytes > maxBytes) →
        ∃ after entry kept victims,
          cache.put key value retainedBytes = .ok (value, after) ∧
          entry.key = key ∧ entry.value = value ∧
          after.order = entry :: kept ∧ cache.order = kept ++ victims ∧
          (entry :: kept ++ victims).Pairwise
            (MoreRecent (.put key value retainedBytes :: history)) := by
  obtain ⟨cache, reached⟩ := reached maxEntries bounded history
  refine ⟨cache, reached.ran, reached.keys_perm, reached.keys, reached.retained, ?_, ?_,
    reached.recent, ?_⟩
  · refine reached.limits.imp_right fun within => ?_
    have := not_or.mp within
    rw [reached.maxEntries_eq, reached.maxBytes_eq] at this
    exact ⟨Int.not_lt.mp this.1, Int.not_lt.mp this.2⟩
  · intro key value hit
    unfold get at hit
    cases found : cache.items.lookup key with
    | none =>
        rw [found] at hit
        cases hit
    | some entry =>
        rw [found] at hit
        cases hit
        obtain ⟨member, rfl⟩ := (reached.lookup key entry).mp found
        exact reached.first entry member
  · intro key value retainedBytes absent accepted
    have unknown : cache.items.lookup key = none := AList.lookup_eq_none.mpr absent
    rw [← reached.maxEntries_eq, ← reached.maxBytes_eq] at accepted
    obtain ⟨after, kept, victims, inserted, _, order, whole, _⟩ :=
      put_inserts reached.toWithin (reached.maxBytes_eq.symm ▸ bounded) value unknown accepted
    refine ⟨after, _, kept, victims, inserted, rfl, rfl, order, whole, ?_⟩
    rw [List.cons_append, ← whole]
    exact recent_front rfl reached.recent (reached.absent_key unknown)

def sampleKey (kind : UInt8) : MetadataCacheKey := ⟨[kind], .zero⟩

def sampleHistory : List (MetadataCacheCall Nat) :=
  [.put (sampleKey 3) 30 (-1), .get (sampleKey 1), .put (sampleKey 2) 20 0,
    .put (sampleKey 1) 11 600, .put (sampleKey 1) 10 600]

theorem metadata_cache_sample :
    ∃ cache, run 2 2048 sampleHistory = .ok cache ∧ (cache.order.map (·.key)).Nodup ∧
      (cache.order = [] ∨ cache.order.length ≤ (2 : Int) ∧ cache.retainedBytes ≤ 2048) := by
  obtain ⟨cache, ran, _, distinct, _, limits, _⟩ := metadata_cache 2 2048 (by decide) sampleHistory
  exact ⟨cache, ran, distinct, limits⟩

example : (run 2 2048 sampleHistory).map (fun cache => cache.order.map (·.value)) =
    .ok [30, 10] := by decide +kernel

end MetadataCache

end S3Disk
