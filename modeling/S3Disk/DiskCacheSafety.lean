import S3Disk.ConcreteWire
import S3Disk.DiskCache

/-! Every schedule keeps the index of a disk cache coherent and within its limits, and keeps an
entry in the index for as long as a call reads it. -/

namespace S3Disk

open Concurrent

def CacheTask.entry : CacheTask → Option Nat
  | .reading entry _ _ => some entry
  | .unpinning entry _ _ _ => some entry
  | .discarding entry => some entry
  | _ => none

def CacheTask.uses (entry : Nat) (task : CacheTask) : Int := if task.entry = some entry then 1 else 0

theorem CacheTask.uses_nonneg {entry : Nat} (task : CacheTask) : 0 ≤ task.uses entry := by
  unfold CacheTask.uses
  split <;> omega

def Requested (wire : Wire) (digest : Digest) (expectedSize : Int) (data : Bytes) : Prop :=
  wire.digestObject .chunk data = digest ∧ (0 < expectedSize → (data.length : Int) = expectedSize)

theorem readFull_length {size : Nat} {reads : Nat → ReadAnswer} {left index : Nat}
    {data result : Bytes} (enough : size ≤ data.length + left) (within : data.length ≤ size)
    (read : readFull size reads left index data = .ok (some result)) : result.length = size := by
  induction left generalizing index data with
  | zero =>
      cases read
      omega
  | succ left ih =>
      unfold readFull at read
      split at read
      case isFalse full =>
        cases read
        omega
      case isTrue short =>
        split at read
        · cases read
        split at read
        · cases read
        · cases read
        · dsimp only at read
          split at read
          · cases read
          case isFalse some_bytes =>
            have taken : ((reads index).data.take (size - data.length)).length ≤
                size - data.length := List.length_take_le _ _
            have positive := List.length_pos_iff.mpr some_bytes
            refine ih ?_ ?_ read
            · rw [List.length_append]
              omega
            · rw [List.length_append]
              omega

theorem readEntry_requested {wire : Wire} {options : DiskCacheOptions} {entry : DiskCacheEntry}
    {expectedSize : Int} {answers : ReadAnswers} {data : Bytes}
    (read : readEntry wire options entry expectedSize answers = .ok (some data)) :
    Requested wire entry.digest expectedSize data := by
  unfold readEntry at read
  split at read
  · cases read
  split at read
  · cases read
  · cases read
  · cases read
  · cases read
  split at read
  · cases read
  split at read
  · cases read
  case h_2 info _ =>
    unfold readOpened at read
    split at read
    · cases read
    case isFalse valid =>
      simp only [not_or, not_and] at valid
      obtain ⟨_, _, _, positive, _, requested⟩ := valid
      split at read
      · cases read
      · cases read
      case h_3 bytes full =>
        have length : bytes.length = info.size.toNat :=
          readFull_length (by simp) (by simp) full
        split at read
        · cases read
        split at read
        · cases read
        case isFalse same =>
          split at read
          · cases read
          · cases read
            refine ⟨Decidable.not_not.mp same, fun expected => ?_⟩
            have := Decidable.not_not.mp (requested expected)
            omega

namespace DiskCache

/-- The index is the same seen by digest and by recency, and within its limits. -/
structure Indexed (cache : DiskCache) : Prop where
  lookup : ∀ digest entry, cache.entries.lookup digest = some entry ↔
    entry ∈ cache.lru ∧ (cache.objects entry).digest = digest
  distinct : cache.lru.Nodup
  size : Totals.size cache.entries = cache.lru.length
  total : cache.totalBytes = Tasks.total (fun entry => (cache.objects entry).size) cache.lru
  bytes : cache.totalBytes ≤ cache.options.maxBytes
  count : cache.lru.length ≤ cache.options.maxEntries
  sizes : ∀ entry ∈ cache.lru, 0 ≤ (cache.objects entry).size
  fresh : ∀ entry ∈ cache.lru, entry < cache.next

def Served (wire : Wire) (objects : Nat → DiskCacheEntry) : CacheTask → Prop
  | .reading entry digest expectedSize => (objects entry).digest = digest ∧
      (0 < expectedSize → (objects entry).size = expectedSize)
  | .unpinning _ digest expectedSize (.ok data) => Requested wire digest expectedSize data
  | .hit digest expectedSize data => Requested wire digest expectedSize data
  | _ => True

structure Safe (wire : Wire) (cache : DiskCache) : Prop where
  indexed : Indexed cache
  pins : ∀ entry ∈ cache.lru,
    (cache.objects entry).pins = Tasks.total (CacheTask.uses entry) cache.tasks
  pinned : ∀ (index : Nat) (task : CacheTask) (entry : Nat), cache.tasks[index]? = some task →
    task.entry = some entry → entry ∈ cache.lru
  served : ∀ (index : Nat) (task : CacheTask), cache.tasks[index]? = some task →
    Served wire cache.objects task

def automaton (wire : Wire) : Automaton DiskCache CacheAction where
  initial cache := Indexed cache ∧ (∀ entry ∈ cache.lru, (cache.objects entry).pins = 0) ∧
    cache.tasks = [] ∧ cache.writeToken = false
  step := step wire

variable {wire : Wire} {cache : DiskCache} {index entry : Nat} {old new : CacheTask}

theorem Safe.initial (start : (automaton wire).initial cache) : Safe wire cache := by
  obtain ⟨indexed, unpinned, idle, _⟩ := start
  refine ⟨indexed, ?_, ?_, ?_⟩
  · intro entry member
    rw [unpinned entry member, idle]
    rfl
  · intro index task entry found
    simp [idle] at found
  · intro index task found
    simp [idle] at found

structure Shrinks (cache later : DiskCache) : Prop where
  options : later.options = cache.options
  objects : later.objects = cache.objects
  tasks : later.tasks = cache.tasks
  absent : ∀ digest, cache.entries.lookup digest = none → later.entries.lookup digest = none

theorem Shrinks.refl : Shrinks cache cache := ⟨rfl, rfl, rfl, fun _ absent => absent⟩

theorem Shrinks.trans {middle later : DiskCache} (first : Shrinks cache middle)
    (second : Shrinks middle later) : Shrinks cache later :=
  ⟨second.options.trans first.options, second.objects.trans first.objects,
    second.tasks.trans first.tasks, fun digest absent =>
      second.absent digest (first.absent digest absent)⟩

theorem shrinks_removeEntryLocked {removal : Removal} :
    Shrinks cache (cache.removeEntryLocked entry removal).1 := by
  unfold removeEntryLocked
  split
  · exact .refl
  split
  · exact .refl
  · refine ⟨rfl, rfl, rfl, fun digest absent => ?_⟩
    by_cases same : digest = (cache.objects entry).digest
    · subst same
      exact AList.lookup_erase ..
    · dsimp only
      rw [AList.lookup_erase_ne same]
      exact absent

theorem Indexed.total_le (indexed : Indexed cache) (member : entry ∈ cache.lru) :
    (cache.objects entry).size ≤ cache.totalBytes := by
  obtain ⟨index, found⟩ := List.mem_iff_getElem?.mp member
  rw [indexed.total]
  exact Tasks.le_total indexed.sizes found

theorem Indexed.remove (indexed : Indexed cache) (member : entry ∈ cache.lru) :
    Indexed { cache with
      entries := cache.entries.erase (cache.objects entry).digest
      lru := cache.lru.erase entry
      totalBytes := cache.totalBytes - (cache.objects entry).size } where
  lookup := by
    intro digest other
    dsimp only
    rw [indexed.distinct.mem_erase_iff]
    by_cases same : digest = (cache.objects entry).digest
    · subst same
      rw [AList.lookup_erase]
      constructor
      · intro impossible
        cases impossible
      rintro ⟨⟨different, present⟩, again⟩
      have one := (indexed.lookup _ entry).mpr ⟨member, rfl⟩
      have two := (indexed.lookup _ other).mpr ⟨present, again⟩
      rw [one] at two
      exact absurd (Option.some.inj two).symm different
    · rw [AList.lookup_erase_ne same, indexed.lookup]
      constructor
      · rintro ⟨present, right⟩
        refine ⟨⟨?_, present⟩, right⟩
        rintro rfl
        exact same right.symm
      · rintro ⟨⟨_, present⟩, right⟩
        exact ⟨present, right⟩
  distinct := indexed.distinct.erase entry
  size := by
    have fewer := Totals.size_erase ((indexed.lookup _ entry).mpr ⟨member, rfl⟩)
    have := indexed.size
    dsimp only
    rw [List.length_erase_of_mem member]
    omega
  total := by
    dsimp only
    rw [Tasks.total_erase member, indexed.total]
  bytes := by
    have := indexed.sizes entry member
    have := indexed.bytes
    dsimp only
    omega
  count := by
    have := indexed.count
    have : (cache.lru.erase entry).length ≤ cache.lru.length := List.length_erase_le
    dsimp only
    omega
  sizes := fun other present => indexed.sizes other (List.mem_of_mem_erase present)
  fresh := fun other present => indexed.fresh other (List.mem_of_mem_erase present)

theorem Safe.not_pinned (safe : Safe wire cache) (member : entry ∈ cache.lru)
    (free : (cache.objects entry).pins = 0) {task : CacheTask}
    (found : cache.tasks[index]? = some task) : task.entry ≠ some entry := by
  intro uses
  have part : task.uses entry ≤ Tasks.total (CacheTask.uses entry) cache.tasks :=
    Tasks.le_total (fun task _ => task.uses_nonneg) found
  rw [← safe.pins entry member, free, CacheTask.uses, if_pos uses] at part
  omega

theorem Safe.removeEntryLocked (safe : Safe wire cache) (member : entry ∈ cache.lru)
    {removal : Removal} : Safe wire (cache.removeEntryLocked entry removal).1 := by
  unfold DiskCache.removeEntryLocked
  split
  · exact safe
  case isFalse free =>
    split
    · exact safe
    · have size := safe.indexed.total_le member
      dsimp only
      rw [if_neg (by omega)]
      refine ⟨safe.indexed.remove member, ?_, ?_, safe.served⟩
      · intro other present
        exact safe.pins other (List.mem_of_mem_erase present)
      · intro index task other found uses
        refine safe.indexed.distinct.mem_erase_iff.mpr
          ⟨?_, safe.pinned index task other found uses⟩
        rintro rfl
        exact safe.not_pinned member (Decidable.not_not.mp free) found uses

theorem length_removeEntryLocked (member : entry ∈ cache.lru) {removal : Removal}
    (gone : (cache.removeEntryLocked entry removal).2 = none) :
    (cache.removeEntryLocked entry removal).1.lru.length + 1 = cache.lru.length := by
  unfold DiskCache.removeEntryLocked at gone ⊢
  split at gone
  · cases gone
  case isFalse free =>
    rw [if_neg free]
    split at gone
    · cases gone
    case h_2 =>
      have := List.length_erase_of_mem member
      have := List.length_pos_of_mem member
      dsimp only
      omega

theorem mem_of_victim (found : cache.victim = some entry) : entry ∈ cache.lru :=
  List.mem_reverse.mp (List.mem_of_find?_eq_some found)

theorem makeRoomLocked_returns (size : Int) (removal : Nat → Removal) {rounds : Nat}
    (enough : cache.lru.length < rounds) :
    ∃ result, makeRoomLocked size removal rounds cache = some result := by
  induction rounds generalizing cache with
  | zero => omega
  | succ rounds ih =>
      unfold makeRoomLocked
      split
      · split
        · exact ⟨_, rfl⟩
        case h_2 entry found =>
          split
          · exact ⟨_, rfl⟩
          case h_2 left removed =>
            have gone : (cache.removeEntryLocked entry (removal entry)).2 = none := by rw [removed]
            have fewer := length_removeEntryLocked (mem_of_victim found) gone
            rw [removed] at fewer
            dsimp only at fewer
            exact ih (by omega)
      · exact ⟨_, rfl⟩

theorem Safe.makeRoomLocked (safe : Safe wire cache) {size : Int} {removal : Nat → Removal}
    {rounds : Nat} {left : DiskCache} {result : Except Err Bool}
    (ran : makeRoomLocked size removal rounds cache = some (left, result)) :
    Safe wire left ∧ Shrinks cache left ∧ (result = .ok true →
      left.totalBytes ≤ left.options.maxBytes - size ∧
        Totals.size left.entries < left.options.maxEntries) := by
  induction rounds generalizing cache with
  | zero => cases ran
  | succ rounds ih =>
      unfold DiskCache.makeRoomLocked at ran
      split at ran
      · split at ran
        · cases ran
          exact ⟨safe, .refl, fun impossible => nomatch impossible⟩
        case h_2 entry found =>
          have kept : Safe wire (cache.removeEntryLocked entry (removal entry)).1 :=
            safe.removeEntryLocked (mem_of_victim found)
          have shrinks : Shrinks cache (cache.removeEntryLocked entry (removal entry)).1 :=
            shrinks_removeEntryLocked
          split at ran
          case h_1 middle error removed =>
            cases ran
            rw [removed] at kept shrinks
            exact ⟨kept, shrinks, fun impossible => nomatch impossible⟩
          case h_2 middle removed =>
            rw [removed] at kept shrinks
            obtain ⟨safe, again, room⟩ := ih kept ran
            exact ⟨safe, shrinks.trans again, room⟩
      case isFalse room =>
        cases ran
        exact ⟨safe, .refl, fun _ => by omega⟩

theorem Indexed.insert (indexed : Indexed cache) {digest : Digest} {size : Int}
    (absent : cache.entries.lookup digest = none) (nonneg : 0 ≤ size)
    (room : cache.totalBytes ≤ cache.options.maxBytes - size)
    (slot : Totals.size cache.entries < cache.options.maxEntries) :
    Indexed (cache.insert digest size) := by
  have unused : cache.next ∉ cache.lru := by
    intro member
    have := indexed.fresh _ member
    omega
  have apart : ∀ other ∈ cache.lru, other ≠ cache.next := by
    rintro other member rfl
    exact unused member
  have kept : ∀ other ∈ cache.lru,
      (cache.insert digest size).objects other = cache.objects other := by
    intro other member
    simp only [DiskCache.insert, if_neg (apart other member)]
  have added : (cache.insert digest size).objects cache.next = ⟨digest, size, 0, false⟩ :=
    if_pos rfl
  refine ⟨?_, ?_, ?_, ?_, ?_, ?_, ?_, ?_⟩
  · intro other entry
    by_cases same : other = digest
    · subst same
      have looked : (cache.insert other size).entries.lookup other = some cache.next :=
        AList.lookup_insert _
      rw [looked]
      constructor
      · intro found
        cases found
        exact ⟨List.mem_cons_self, by rw [added]⟩
      · rintro ⟨member, again⟩
        rcases List.mem_cons.mp member with last | before
        · rw [last]
        · rw [kept entry before] at again
          have := (indexed.lookup other entry).mpr ⟨before, again⟩
          rw [absent] at this
          cases this
    · have looked : (cache.insert digest size).entries.lookup other = cache.entries.lookup other :=
        AList.lookup_insert_ne same
      rw [looked, indexed.lookup]
      constructor
      · rintro ⟨member, again⟩
        exact ⟨List.mem_cons_of_mem _ member, by rw [kept entry member]; exact again⟩
      · rintro ⟨member, again⟩
        rcases List.mem_cons.mp member with last | before
        · rw [last, added] at again
          exact absurd again.symm same
        · rw [kept entry before] at again
          exact ⟨before, again⟩
  · exact List.nodup_cons.mpr ⟨unused, indexed.distinct⟩
  · have := indexed.size
    have more : Totals.size (cache.insert digest size).entries = Totals.size cache.entries + 1 :=
      Totals.size_insert fun present => by
        have := AList.lookup_isSome.mpr present
        rw [absent] at this
        cases this
    rw [more, this]
    rfl
  · have same : Tasks.total (fun entry => ((cache.insert digest size).objects entry).size)
        cache.lru = cache.totalBytes := by
      rw [indexed.total]
      exact Tasks.total_congr fun other member => by rw [kept other member]
    simp only [DiskCache.insert] at same added ⊢
    rw [Tasks.total, same]
    simp only [if_true]
    omega
  · simp only [DiskCache.insert]
    omega
  · have := indexed.size
    simp only [DiskCache.insert, List.length_cons]
    omega
  · intro entry member
    rcases List.mem_cons.mp member with last | before
    · rw [last, added]
      exact nonneg
    · rw [kept entry before]
      exact indexed.sizes entry before
  · intro entry member
    simp only [DiskCache.insert]
    rcases List.mem_cons.mp member with last | before
    · omega
    · have := indexed.fresh entry before
      omega

theorem Served.congr {objects others : Nat → DiskCacheEntry} {task : CacheTask}
    (served : Served wire objects task)
    (same : ∀ entry, task.entry = some entry → (others entry).digest = (objects entry).digest ∧
      (others entry).size = (objects entry).size) : Served wire others task := by
  cases task with
  | reading entry digest expectedSize =>
      obtain ⟨digests, sizes⟩ := same entry rfl
      exact ⟨digests.trans served.1, fun expected => sizes.trans (served.2 expected)⟩
  | unpinning entry digest expectedSize result =>
      cases result with
      | error error => trivial
      | ok data => exact served
  | hit digest expectedSize data => exact served
  | _ => trivial

theorem Safe.insert (safe : Safe wire cache) {digest : Digest} {size : Int}
    (absent : cache.entries.lookup digest = none) (nonneg : 0 ≤ size)
    (room : cache.totalBytes ≤ cache.options.maxBytes - size)
    (slot : Totals.size cache.entries < cache.options.maxEntries) :
    Safe wire (cache.insert digest size) := by
  have apart : ∀ other ∈ cache.lru, other ≠ cache.next := by
    intro other member
    have := safe.indexed.fresh other member
    omega
  refine ⟨safe.indexed.insert absent nonneg room slot, ?_, ?_, ?_⟩
  · intro entry member
    rcases List.mem_cons.mp member with last | before
    · subst last
      simp only [DiskCache.insert, if_true]
      refine (Tasks.total_zero fun task present => ?_).symm
      obtain ⟨index, found⟩ := List.mem_iff_getElem?.mp present
      refine if_neg fun uses => ?_
      exact apart _ (safe.pinned index task _ found uses) rfl
    · simp only [DiskCache.insert, if_neg (apart entry before)]
      exact safe.pins entry before
  · intro index task entry found uses
    exact List.mem_cons_of_mem _ (safe.pinned index task entry found uses)
  · intro index task found
    refine (safe.served index task found).congr fun entry uses => ?_
    have member := safe.pinned index task entry found uses
    simp only [DiskCache.insert, if_neg (apart entry member), and_self]

theorem absent_removeEntryLocked {removal : Removal}
    (gone : (cache.removeEntryLocked entry removal).2 = none) :
    (cache.removeEntryLocked entry removal).1.entries.lookup (cache.objects entry).digest =
      none := by
  unfold DiskCache.removeEntryLocked at gone ⊢
  split at gone
  · cases gone
  case isFalse free =>
    rw [if_neg free]
    split at gone
    · cases gone
    · exact AList.lookup_erase ..

theorem Safe.replace (safe : Safe wire cache) {digest : Digest} {removal : Nat → Removal}
    {left : DiskCache} {result : Except Err Bool}
    (replaced : cache.replace digest removal = (left, result)) :
    Safe wire left ∧ Shrinks cache left ∧
      (result = .ok true → left.entries.lookup digest = none) := by
  unfold DiskCache.replace at replaced
  split at replaced
  case h_1 absent =>
    cases replaced
    exact ⟨safe, .refl, fun _ => absent⟩
  case h_2 entry found =>
    obtain ⟨member, same⟩ := (safe.indexed.lookup digest entry).mp found
    split at replaced
    · cases replaced
      exact ⟨safe, .refl, fun impossible => nomatch impossible⟩
    · have kept : Safe wire (cache.removeEntryLocked entry (removal entry)).1 :=
        safe.removeEntryLocked member
      have shrinks : Shrinks cache (cache.removeEntryLocked entry (removal entry)).1 :=
        shrinks_removeEntryLocked
      have absent : (cache.removeEntryLocked entry (removal entry)).2 = none → _ :=
        absent_removeEntryLocked
      split at replaced
      case h_1 removed =>
        cases replaced
        rw [removed] at kept shrinks
        exact ⟨kept, shrinks, fun impossible => nomatch impossible⟩
      case h_2 removed =>
        cases replaced
        rw [removed] at kept shrinks absent
        exact ⟨kept, shrinks, fun _ => same ▸ absent rfl⟩

theorem Safe.putLocked (safe : Safe wire cache) {digest : Digest} {size : Int}
    (nonneg : 0 ≤ size) {answers : Installation} {left : DiskCache} {failure : Option Err}
    (ran : cache.putLocked digest size answers = some (left, failure)) :
    Safe wire left ∧ left.tasks = cache.tasks := by
  unfold DiskCache.putLocked at ran
  cases replaced : cache.replace digest answers.removal with
  | mk middle result =>
      obtain ⟨kept, shrinks, absent⟩ := safe.replace replaced
      rw [replaced] at ran
      rcases result with error | (_ | _)
      · cases ran
        exact ⟨kept, shrinks.tasks⟩
      · cases ran
        exact ⟨kept, shrinks.tasks⟩
      dsimp only at ran
      split at ran
      · cases ran
      case h_2 room => 
        cases ran
        obtain ⟨safe, again, _⟩ := kept.makeRoomLocked room
        exact ⟨safe, again.tasks.trans shrinks.tasks⟩
      case h_3 room =>
        cases ran
        obtain ⟨safe, again, _⟩ := kept.makeRoomLocked room
        exact ⟨safe, again.tasks.trans shrinks.tasks⟩
      case h_4 cleared room =>
        obtain ⟨safe, again, space⟩ := kept.makeRoomLocked room
        have tasks := again.tasks.trans shrinks.tasks
        obtain ⟨bytes, slot⟩ := space rfl
        unfold DiskCache.installLocked at ran
        split at ran
        · cases ran
          exact ⟨safe, tasks⟩
        · cases ran
          exact ⟨safe.insert (again.absent digest (absent rfl)) nonneg bytes slot, tasks⟩

theorem Indexed.retask (indexed : Indexed cache) {tasks : List CacheTask} {token : Bool} :
    Indexed { cache with tasks := tasks, writeToken := token } :=
  ⟨indexed.lookup, indexed.distinct, indexed.size, indexed.total, indexed.bytes, indexed.count,
    indexed.sizes, indexed.fresh⟩

theorem Safe.move (safe : Safe wire cache) (found : cache.tasks[index]? = some old)
    (same : new.entry = old.entry) (served : Served wire cache.objects new) :
    Safe wire (cache.move index new) where
  indexed := safe.indexed.retask
  pins := by
    intro entry member
    simp only [DiskCache.move, Tasks.total_set found, CacheTask.uses, same]
    rw [Int.sub_add_cancel]
    exact safe.pins entry member
  pinned := by
    intro other task entry looked uses
    simp only [DiskCache.move, Tasks.lookup_set found] at looked
    split at looked
    · cases looked
      exact safe.pinned index old entry found (same ▸ uses)
    · exact safe.pinned other task entry looked uses
  served := by
    intro other task looked
    simp only [DiskCache.move, Tasks.lookup_set found] at looked
    split at looked
    · cases looked
      exact served
    · exact safe.served other task looked

theorem Safe.begin (safe : Safe wire cache) (unpinned : new.entry = none)
    (served : Served wire cache.objects new) : Safe wire (cache.begin new) where
  indexed := safe.indexed.retask
  pins := by
    intro entry member
    simp only [DiskCache.begin, Tasks.total_push, CacheTask.uses, unpinned, reduceCtorEq, if_false,
      Int.add_zero]
    exact safe.pins entry member
  pinned := by
    intro other task entry looked uses
    simp only [DiskCache.begin, Tasks.lookup_push] at looked
    split at looked
    · cases looked
      rw [unpinned] at uses
      cases uses
    · exact safe.pinned other task entry looked uses
  served := by
    intro other task looked
    simp only [DiskCache.begin, Tasks.lookup_push] at looked
    split at looked
    · cases looked
      exact served
    · exact safe.served other task looked

theorem Safe.releaseToken (safe : Safe wire cache) : Safe wire cache.releaseToken :=
  ⟨safe.indexed.retask, safe.pins, safe.pinned, safe.served⟩

theorem Indexed.write (indexed : Indexed cache) {object : DiskCacheEntry}
    (digest : object.digest = (cache.objects entry).digest)
    (size : object.size = (cache.objects entry).size) : Indexed (cache.write entry object) := by
  have digests : ∀ other, ((cache.write entry object).objects other).digest =
      (cache.objects other).digest := by
    intro other
    simp only [DiskCache.write]
    split
    case isTrue same => rw [same, digest]
    case isFalse => rfl
  have sizes : ∀ other, ((cache.write entry object).objects other).size =
      (cache.objects other).size := by
    intro other
    simp only [DiskCache.write]
    split
    case isTrue same => rw [same, size]
    case isFalse => rfl
  refine ⟨?_, indexed.distinct, indexed.size, ?_, indexed.bytes, indexed.count, ?_, indexed.fresh⟩
  · intro wanted other
    rw [digests other]
    exact indexed.lookup wanted other
  · refine indexed.total.trans (Tasks.total_congr fun other _ => ?_)
    rw [sizes other]
  · intro other member
    rw [sizes other]
    exact indexed.sizes other member

theorem Indexed.moveToFront (indexed : Indexed cache) (member : entry ∈ cache.lru) :
    Indexed { cache with lru := entry :: cache.lru.erase entry } := by
  have same : ∀ other, other ∈ entry :: cache.lru.erase entry ↔ other ∈ cache.lru := by
    intro other
    rw [List.mem_cons, indexed.distinct.mem_erase_iff]
    constructor
    · rintro (rfl | ⟨_, present⟩)
      · exact member
      · exact present
    · intro present
      by_cases first : other = entry
      · exact .inl first
      · exact .inr ⟨first, present⟩
  have length : (entry :: cache.lru.erase entry).length = cache.lru.length := by
    have := List.length_pos_of_mem member
    rw [List.length_cons, List.length_erase_of_mem member]
    omega
  refine ⟨?_, ?_, ?_, ?_, indexed.bytes, ?_, ?_, ?_⟩
  · intro digest other
    rw [indexed.lookup, same]
  · refine List.nodup_cons.mpr ⟨?_, indexed.distinct.erase entry⟩
    rw [indexed.distinct.mem_erase_iff]
    rintro ⟨different, _⟩
    exact different rfl
  · exact indexed.size.trans length.symm
  · rw [Tasks.total, Tasks.total_erase member, ← indexed.total]
    dsimp only
    omega
  · rw [length]
    exact indexed.count
  · exact fun other present => indexed.sizes other ((same other).mp present)
  · exact fun other present => indexed.fresh other ((same other).mp present)

theorem Safe.repin (safe : Safe wire cache) (found : cache.tasks[index]? = some old)
    (member : entry ∈ cache.lru) {object : DiskCacheEntry}
    (digest : object.digest = (cache.objects entry).digest)
    (size : object.size = (cache.objects entry).size)
    (pins : object.pins = (cache.objects entry).pins - old.uses entry + new.uses entry)
    (before : ∀ other, old.entry = some other → other = entry)
    (after : ∀ other, new.entry = some other → other = entry)
    (served : Served wire cache.objects new) :
    Safe wire ((cache.write entry object).move index new) where
  indexed := (safe.indexed.write digest size).retask
  pins := by
    intro other present
    simp only [DiskCache.move, DiskCache.write, Tasks.total_set found]
    split
    case isTrue same =>
      subst same
      rw [pins, safe.pins other member]
    case isFalse different =>
      have unused : old.uses other = 0 := if_neg fun uses => different (before other uses)
      have idle : new.uses other = 0 := if_neg fun uses => different (after other uses)
      rw [unused, idle, safe.pins other present]
      omega
  pinned := by
    intro other task used looked uses
    simp only [DiskCache.move, DiskCache.write, Tasks.lookup_set found] at looked
    split at looked
    · cases looked
      rw [after used uses]
      exact member
    · exact safe.pinned other task used looked uses
  served := by
    intro other task looked
    have kept : ∀ other, (((cache.write entry object).move index new).objects other).digest =
        (cache.objects other).digest ∧
        (((cache.write entry object).move index new).objects other).size =
          (cache.objects other).size := by
      intro other
      simp only [DiskCache.move, DiskCache.write]
      split
      case isTrue => exact ⟨by simp_all, by simp_all⟩
      case isFalse => exact ⟨rfl, rfl⟩
    simp only [DiskCache.move, DiskCache.write, Tasks.lookup_set found] at looked
    split at looked
    · cases looked
      exact served.congr fun other _ => kept other
    · exact (safe.served other task looked).congr fun other _ => kept other

theorem Safe.moveToFront (safe : Safe wire cache) (member : entry ∈ cache.lru) :
    Safe wire { cache with lru := entry :: cache.lru.erase entry } where
  indexed := safe.indexed.moveToFront member
  pins := by
    intro other present
    refine safe.pins other ?_
    rcases List.mem_cons.mp present with rfl | later
    · exact member
    · exact List.mem_of_mem_erase later
  pinned := by
    intro other task used looked uses
    have present := safe.pinned other task used looked uses
    by_cases first : used = entry
    · rw [first]
      exact List.mem_cons_self
    · exact List.mem_cons_of_mem _ (safe.indexed.distinct.mem_erase_iff.mpr ⟨first, present⟩)
  served := safe.served

theorem Safe.lookupLocked (safe : Safe wire cache) {digest : Digest} {expectedSize : Int}
    (found : cache.tasks[index]? = some (.looking digest expectedSize)) :
    Safe wire (cache.lookupLocked index digest expectedSize) := by
  unfold DiskCache.lookupLocked
  split
  · exact safe.move found rfl trivial
  case h_2 entry looked =>
    obtain ⟨member, same⟩ := (safe.indexed.lookup digest entry).mp looked
    dsimp only
    split
    · exact safe.move found rfl trivial
    case isFalse valid =>
      simp only [not_or, not_and, Decidable.not_not] at valid
      have pinned : Safe wire ((cache.write entry
          { cache.objects entry with pins := (cache.objects entry).pins + 1 }).move index
            (.reading entry digest expectedSize)) := by
        refine safe.repin found member rfl rfl ?_ ?_ ?_ ⟨same, fun expected => valid.2 expected⟩
        · simp [CacheTask.uses, CacheTask.entry]
        · intro other uses
          cases uses
        · intro other uses
          cases uses
          rfl
      exact pinned.moveToFront member

theorem Safe.found_pinned (safe : Safe wire cache) (found : cache.tasks[index]? = some old)
    (uses : old.entry = some entry) : entry ∈ cache.lru ∧
      cache.entries.lookup (cache.objects entry).digest = some entry ∧
        0 < (cache.objects entry).pins := by
  have member := safe.pinned index old entry found uses
  refine ⟨member, (safe.indexed.lookup _ entry).mpr ⟨member, rfl⟩, ?_⟩
  have part : old.uses entry ≤ Tasks.total (CacheTask.uses entry) cache.tasks :=
    Tasks.le_total (fun task _ => task.uses_nonneg) found
  rw [← safe.pins entry member, CacheTask.uses, if_pos uses] at part
  omega

theorem move_removeEntryLocked {removal : Removal} :
    (cache.removeEntryLocked entry removal).1.move index new =
      ((cache.move index new).removeEntryLocked entry removal).1 := by
  unfold DiskCache.removeEntryLocked DiskCache.move
  split
  · rfl
  split
  · rfl
  · rfl

theorem Safe.release (safe : Safe wire cache) (found : cache.tasks[index]? = some old)
    (uses : old.entry = some entry) (unpinned : new.entry = none)
    (served : Served wire cache.objects new) (invalid : Bool) :
    Safe wire ((cache.write entry { cache.objects entry with
      invalid := invalid, pins := (cache.objects entry).pins - 1 }).move index new) := by
  have member := safe.pinned index old entry found uses
  refine safe.repin found member rfl rfl ?_ ?_ ?_ served
  · simp [CacheTask.uses, uses, unpinned]
  · intro other again
    rw [uses] at again
    exact (Option.some.inj again).symm
  · intro other impossible
    rw [unpinned] at impossible
    cases impossible

theorem Safe.unpin (safe : Safe wire cache) {removal : Removal}
    (found : cache.tasks[index]? = some old) (uses : old.entry = some entry)
    (unpinned : new.entry = none) (served : Served wire cache.objects new) :
    Safe wire ((cache.unpin entry removal).move index new) := by
  obtain ⟨member, looked, pins⟩ := safe.found_pinned found uses
  have released := safe.release found uses unpinned served (cache.objects entry).invalid
  unfold DiskCache.unpin
  dsimp only
  rw [if_pos ⟨looked, pins⟩]
  split
  · rw [move_removeEntryLocked]
    exact released.removeEntryLocked member
  · exact released

theorem Safe.discardPinned (safe : Safe wire cache) {removal : Removal}
    (found : cache.tasks[index]? = some old) (uses : old.entry = some entry)
    (unpinned : new.entry = none) (served : Served wire cache.objects new) :
    Safe wire ((cache.discardPinned entry removal).1.move index new) := by
  obtain ⟨member, looked, pins⟩ := safe.found_pinned found uses
  have released := safe.release found uses unpinned served true
  unfold DiskCache.discardPinned
  dsimp only
  rw [if_neg (fun missing => missing looked), if_pos pins]
  split
  · exact released
  · rw [move_removeEntryLocked]
    exact released.removeEntryLocked member

theorem entry_answered {task : CacheTask} (unpinned : task.entry = none) (failure : Option Err) :
    (answered task failure).entry = none := by
  cases failure with
  | none => exact unpinned
  | some error => rfl

theorem served_answered {objects : Nat → DiskCacheEntry} {task : CacheTask}
    (served : Served wire objects task) (failure : Option Err) :
    Served wire objects (answered task failure) := by
  cases failure with
  | none => exact served
  | some error => trivial

theorem Safe.get (safe : Safe wire cache) {digest : Digest} {expectedSize : Int}
    {early : Option Err} : Safe wire (cache.get digest expectedSize early) := by
  refine safe.begin (entry_answered rfl early) (served_answered ?_ early)
  trivial

theorem Safe.put (safe : Safe wire cache) {digest : Digest} {data : Bytes}
    {early ended : Option Err} : Safe wire (cache.put wire digest data early ended) := by
  unfold DiskCache.put
  split
  · exact safe.begin rfl trivial
  dsimp only
  split
  · exact safe.begin rfl trivial
  split
  · exact safe.begin rfl trivial
  · refine safe.begin (entry_answered rfl ended) (served_answered ?_ ended)
    trivial

theorem Safe.settle (safe : Safe wire cache) {digest : Digest} {expectedSize : Int}
    (found : cache.tasks[index]? = some (.reading entry digest expectedSize))
    (answers : ReadAnswers) :
    Safe wire (cache.move index (settle entry digest expectedSize
      (readEntry wire cache.options (cache.objects entry) expectedSize answers))) := by
  cases read : readEntry wire cache.options (cache.objects entry) expectedSize answers with
  | error error => exact safe.move found rfl trivial
  | ok result =>
      cases result with
      | none => exact safe.move found rfl trivial
      | some data =>
          have requested := readEntry_requested read
          rw [(safe.served index _ found).1] at requested
          exact safe.move found rfl requested

theorem Safe.step (safe : Safe wire cache) {action : CacheAction} {later : DiskCache}
    (taken : cache.step wire action = some later) : Safe wire later := by
  cases action with
  | get digest early =>
      cases taken
      exact safe.get
  | getSized digest expectedSize early =>
      cases taken
      unfold DiskCache.getSized
      split
      · exact safe.begin rfl trivial
      · exact safe.get
  | lookup index =>
      simp only [DiskCache.step] at taken
      split at taken
      case h_1 found =>
        cases taken
        exact safe.lookupLocked found
      · cases taken
  | read index answers =>
      simp only [DiskCache.step] at taken
      split at taken
      case h_1 found =>
        cases taken
        exact safe.settle found answers
      · cases taken
  | unpin index removal =>
      simp only [DiskCache.step] at taken
      split at taken
      case h_1 entry digest expectedSize result found =>
        cases taken
        have served := safe.served index _ found
        cases result with
        | error error => exact safe.unpin found rfl rfl trivial
        | ok data => exact safe.unpin found rfl rfl served
      · cases taken
  | discard index removal =>
      simp only [DiskCache.step] at taken
      split at taken
      case h_1 found =>
        cases taken
        refine safe.discardPinned found rfl (entry_answered rfl _) (served_answered ?_ _)
        trivial
      · cases taken
  | put digest data early ended =>
      cases taken
      exact safe.put
  | token index ended =>
      simp only [DiskCache.step] at taken
      split at taken
      case h_1 digest data found =>
        split at taken
        · cases taken
          exact safe.move found rfl trivial
        split at taken
        · cases taken
        · cases taken
          have moved : Safe wire (cache.move index (.writing digest data)) :=
            safe.move found rfl trivial
          exact ⟨moved.indexed.retask, moved.pins, moved.pinned, moved.served⟩
      · cases taken
  | write index preparation =>
      simp only [DiskCache.step] at taken
      split at taken
      case h_1 found =>
        split at taken
        case h_1 error failed =>
          cases taken
          have moved : Safe wire (cache.move index (.failed error)) := safe.move found rfl trivial
          exact moved.releaseToken
        · cases taken
          exact safe.move found rfl trivial
      · cases taken
  | install index answers =>
      simp only [DiskCache.step] at taken
      split at taken
      case h_1 digest data found =>
        obtain ⟨⟨left, failure⟩, ran, rfl⟩ := Option.map_eq_some_iff.mp taken
        obtain ⟨kept, tasks⟩ := safe.putLocked (by omega) ran
        refine (kept.move (tasks ▸ found) ?_ ?_).releaseToken
        · exact entry_answered rfl failure
        · refine served_answered ?_ failure
          trivial
      · cases taken

theorem Safe.reachable (reached : (automaton wire).Reachable cache) : Safe wire cache :=
  reached.invariant (fun _ start => .initial start) fun _ _ _ safe taken => safe.step taken

theorem makeRoomLocked_more {size : Int} {removal : Nat → Removal} {rounds : Nat}
    {result : DiskCache × Except Err Bool}
    (ran : makeRoomLocked size removal rounds cache = some result) (more : Nat) :
    makeRoomLocked size removal (rounds + more) cache = some result := by
  induction rounds generalizing cache with
  | zero => cases ran
  | succ rounds ih =>
      rw [Nat.add_right_comm]
      unfold makeRoomLocked at ran ⊢
      split
      case isTrue full =>
        rw [if_pos full] at ran
        split at ran
        · exact ran
        · split at ran
          · exact ran
          · exact ih ran
      case isFalse room =>
        rw [if_neg room] at ran
        exact ran

theorem lookupLocked_valid {digest wanted : Digest} {expectedSize asked : Int}
    (found : cache.tasks[index]? = some (.looking wanted asked))
    (handed : (cache.lookupLocked index wanted asked).tasks[index]? =
      some (.reading entry digest expectedSize)) : (cache.objects entry).invalid = false := by
  unfold DiskCache.lookupLocked at handed
  split at handed
  · simp [DiskCache.move, Tasks.lookup_set found] at handed
  case h_2 other looked =>
    dsimp only at handed
    split at handed
    · simp [DiskCache.move, Tasks.lookup_set found] at handed
    case isFalse valid =>
      simp only [not_or, Bool.not_eq_true] at valid
      simp only [Tasks.lookup_set found, if_true, Option.some.injEq,
        CacheTask.reading.injEq] at handed
      rw [← handed.1]
      exact valid.1

theorem disk_cache_index (reached : (automaton wire).Reachable cache) :
    (∀ digest entry, cache.entries.lookup digest = some entry ↔
      entry ∈ cache.lru ∧ (cache.objects entry).digest = digest) ∧
    cache.lru.Nodup ∧ Totals.size cache.entries = cache.lru.length ∧
    cache.totalBytes = Tasks.total (fun entry => (cache.objects entry).size) cache.lru ∧
    cache.totalBytes ≤ cache.options.maxBytes ∧
    Totals.size cache.entries ≤ cache.options.maxEntries ∧
    (∀ entry ∈ cache.lru,
      (cache.objects entry).pins = Tasks.total (CacheTask.uses entry) cache.tasks) ∧
    -- An entry stays in the index, under its digest, while a call has it pinned.
    (∀ (index : Nat) (task : CacheTask) (entry : Nat), cache.tasks[index]? = some task →
      task.entry = some entry → entry ∈ cache.lru ∧
        cache.entries.lookup (cache.objects entry).digest = some entry) ∧
    (∀ (index : Nat) (later : DiskCache) (entry : Nat) (digest : Digest) (expectedSize : Int),
      cache.step wire (.lookup index) = some later →
      later.tasks[index]? = some (.reading entry digest expectedSize) →
      (cache.objects entry).invalid = false) ∧
    (∀ (index : Nat) (digest : Digest) (expectedSize : Int) (data : Bytes),
      cache.tasks[index]? = some (.hit digest expectedSize data) →
      wire.digestObject .chunk data = digest ∧
        (0 < expectedSize → (data.length : Int) = expectedSize)) ∧
    ∀ size removal, ∃ result, ∀ rounds, cache.lru.length < rounds →
      makeRoomLocked size removal rounds cache = some result := by
  have safe := Safe.reachable reached
  have indexed := safe.indexed
  refine ⟨indexed.lookup, indexed.distinct, indexed.size, indexed.total, indexed.bytes, ?_,
    safe.pins, ?_, ?_, fun index _ _ _ found => safe.served index _ found, ?_⟩
  · rw [indexed.size]
    exact indexed.count
  · intro index task entry found uses
    obtain ⟨member, looked, _⟩ := safe.found_pinned found uses
    exact ⟨member, looked⟩
  · intro index later entry digest expectedSize taken handed
    simp only [DiskCache.step] at taken
    split at taken
    case h_1 found =>
      cases taken
      exact lookupLocked_valid found handed
    · cases taken
  · intro size removal
    obtain ⟨result, ran⟩ : ∃ result, makeRoomLocked size removal (cache.lru.length + 1) cache =
      some result := makeRoomLocked_returns size removal (by omega)
    refine ⟨result, fun rounds enough => ?_⟩
    have more := makeRoomLocked_more ran (rounds - (cache.lru.length + 1))
    rwa [Nat.add_sub_cancel' (by omega)] at more

def smallCache : DiskCache where
  options := ⟨4, 4, 1⟩
  objects := fun _ => ⟨.zero, 0, 0, false⟩
  next := 0
  entries := ∅
  lru := []
  totalBytes := 0
  writeToken := false
  tasks := []

theorem smallCache_initial : (automaton wire).initial smallCache := by
  refine ⟨⟨?_, List.nodup_nil, rfl, rfl, by decide, by decide, ?_, ?_⟩, ?_, rfl, rfl⟩
  · intro digest entry
    simp [smallCache]
  all_goals
    intro entry member
    cases member

def removeQuietly : Installation :=
  ⟨fun _ => .removed none none, none, none, none, none, none⟩

def readQuietly (data : Bytes) : ReadAnswers :=
  ⟨none, .found true, none, .ok ⟨true, true, data.length⟩, fun _ => ⟨none, data, .more⟩, false, none⟩

/-- A chunk is stored and read; another one finds no room while the first one is pinned. -/
theorem disk_cache_index_pinned : ∃ cache : DiskCache,
    (automaton concreteWire).Reachable cache ∧ cache.lru = [0] ∧
      cache.tasks[1]? = some (.hit (concreteWire.digestObject .chunk [7]) 1 [7]) ∧
      Totals.size cache.entries ≤ cache.options.maxEntries := by
  have start : (automaton concreteWire).Reachable smallCache := .start smallCache_initial
  have ran : (automaton concreteWire).after
      [.put (concreteWire.digestObject .chunk [7]) [7] none none, .token 0 none,
        .write 0 .written, .install 0 removeQuietly,
        .getSized (concreteWire.digestObject .chunk [7]) 1 none, .lookup 1,
        .put (concreteWire.digestObject .chunk [8, 9]) [8, 9] none none, .token 2 none,
        .write 2 .written, .install 2 removeQuietly, .read 1 (readQuietly [7]),
        .unpin 1 (.removed none none)] smallCache = some _ := rfl
  have reached := start.after ran
  exact ⟨_, reached, rfl, rfl, (disk_cache_index reached).2.2.2.2.2.1⟩

end DiskCache

end S3Disk
