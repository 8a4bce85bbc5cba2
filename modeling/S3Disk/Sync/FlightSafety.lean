import S3Disk.Sync.FlightCall

/-! Every schedule of a flight group counts the users of a load exactly, and so finalizes a load
once, after its last lease. -/

namespace S3Disk.Sync

open Concurrent

namespace FlightGroup

variable {K : Type}

def users (group : FlightGroup K) (call : Nat) : Int :=
  Tasks.total (Caller.uses call) group.callers

def owed (group : FlightGroup K) (call : Nat) (callback : Callback) : Int :=
  Tasks.total (Caller.owes call callback) group.callers + group.ran.count (call, callback)

def Relies (flight : FlightCall K) : Caller → Prop
  | .leased _ data => flight.done = true ∧ ∃ loaded, flight.loaded = some loaded ∧
      loaded.err = none ∧ data = some loaded.data
  | .releasing _ => flight.done = true ∧ flight.err = none
  | .refused _ err => flight.done = true ∧ flight.err = some err
  | _ => True

def Known (flights : List (FlightCall K)) (caller : Caller) : Prop :=
  ∀ call, caller.call = some call → ∃ flight, flights[call]? = some flight ∧ Relies flight caller

structure Orderly (group : FlightGroup K) : Prop where
  sound : ∀ (call : Nat) (flight : FlightCall K), group.flights[call]? = some flight →
    flight.Sound (group.users call) (group.owed call)
  known : ∀ (index : Nat) (caller : Caller), group.callers[index]? = some caller →
    Known group.flights caller
  logged : ∀ entry ∈ group.ran, entry.1 < group.flights.length
  mapped : ∀ (key : K) (call : Nat), group.calls key = some call →
    ∃ flight, group.flights[call]? = some flight ∧ flight.key = key ∧ flight.completed = false
  current : ∀ (call : Nat) (flight : FlightCall K), group.flights[call]? = some flight →
    flight.completed = false → 0 < flight.users → group.calls flight.key = some call
  calm : group.panicked = false

variable {group : FlightGroup K} {index call : Nat} {old new : Caller} {flight later : FlightCall K}

structure Follows (flight later : FlightCall K) : Prop where
  loaded : flight.done = true → later.loaded = flight.loaded
  err : flight.done = true → later.err = flight.err
  done : flight.done = true → later.done = true

theorem Relies.follow {caller : Caller} (relies : Relies flight caller)
    (follows : Follows flight later) : Relies later caller := by
  cases caller with
  | leased call data =>
      obtain ⟨closed, loaded, found, rest⟩ := relies
      exact ⟨follows.done closed, loaded, (follows.loaded closed).trans found, rest⟩
  | releasing call => exact ⟨follows.done relies.1, (follows.err relies.1).trans relies.2⟩
  | refused call error => exact ⟨follows.done relies.1, (follows.err relies.1).trans relies.2⟩
  | _ => trivial

theorem Known.set {flights : List (FlightCall K)} {caller : Caller} (known : Known flights caller)
    (found : flights[call]? = some flight) (follows : Follows flight later) :
    Known (flights.set call later) caller := by
  intro used about
  obtain ⟨other, present, relies⟩ := known used about
  rw [Tasks.lookup_set found]
  split
  case isTrue same =>
    subst same
    rw [found] at present
    cases present
    exact ⟨later, rfl, Relies.follow relies follows⟩
  case isFalse => exact ⟨other, present, relies⟩

theorem Known.push {flights : List (FlightCall K)} {caller : Caller}
    (known : Known flights caller) : Known (flights ++ [later]) caller := by
  intro used about
  obtain ⟨other, present, relies⟩ := known used about
  have within := (List.getElem?_eq_some_iff.mp present).1
  refine ⟨other, ?_, relies⟩
  rw [List.getElem?_append_left within]
  exact present

theorem users_set (found : group.callers[index]? = some old) (call : Nat) :
    Tasks.total (Caller.uses call) (group.callers.set index new) =
      group.users call - old.uses call + new.uses call :=
  Tasks.total_set found

theorem owed_set (found : group.callers[index]? = some old) (call : Nat) (callback : Callback) :
    Tasks.total (Caller.owes call callback) (group.callers.set index new) +
        group.ran.count (call, callback) =
      group.owed call callback - old.owes call callback + new.owes call callback := by
  rw [Tasks.total_set found, FlightGroup.owed]
  omega

theorem Orderly.move (orderly : Orderly group) (found : group.callers[index]? = some old)
    (uses : ∀ call, new.uses call = old.uses call)
    (owes : ∀ call callback, new.owes call callback = old.owes call callback)
    (known : Known group.flights new) : Orderly (group.move index new) where
  sound := by
    intro call flight present
    have users : (group.move index new).users call = group.users call := by
      have changed : _ = group.users call - old.uses call + new.uses call := users_set found call
      rw [uses call] at changed
      exact changed.trans (by omega)
    have owed : (group.move index new).owed call = group.owed call := by
      funext callback
      have changed : _ = group.owed call callback - old.owes call callback +
          new.owes call callback := owed_set found call callback
      rw [owes call callback] at changed
      exact changed.trans (by omega)
    rw [users, owed]
    exact orderly.sound call flight present
  known := by
    intro other caller present
    simp only [FlightGroup.move, Tasks.lookup_set found] at present
    split at present
    · cases present
      exact known
    · exact orderly.known other caller present
  logged := orderly.logged
  mapped := orderly.mapped
  current := orderly.current
  calm := orderly.calm

structure Updates (group changed : FlightGroup K) (call : Nat) (later : FlightCall K) : Prop where
  flights : changed.flights = group.flights.set call later
  users : ∀ other, other ≠ call → changed.users other = group.users other
  owed : ∀ other, other ≠ call → changed.owed other = group.owed other
  known : ∀ (index : Nat) (caller : Caller), changed.callers[index]? = some caller →
    Known group.flights caller
  logged : ∀ entry ∈ changed.ran, entry ∈ group.ran ∨ entry.1 = call
  calm : changed.panicked = group.panicked

theorem Orderly.update {changed : FlightGroup K} (orderly : Orderly group)
    (found : group.flights[call]? = some flight) (updates : Updates group changed call later)
    (follows : Follows flight later) (sound : later.Sound (changed.users call) (changed.owed call))
    (mapped : ∀ (key : K) (call : Nat), changed.calls key = some call →
      ∃ flight, changed.flights[call]? = some flight ∧ flight.key = key ∧ flight.completed = false)
    (current : ∀ (call : Nat) (flight : FlightCall K), changed.flights[call]? = some flight →
      flight.completed = false → 0 < flight.users → changed.calls flight.key = some call) :
    Orderly changed where
  sound := by
    intro other seen present
    rw [updates.flights, Tasks.lookup_set found] at present
    split at present
    case isTrue same =>
      subst same
      cases present
      exact sound
    case isFalse different =>
      rw [updates.users other different, updates.owed other different]
      exact orderly.sound other seen present
  known := by
    intro index caller present
    rw [updates.flights]
    exact (updates.known index caller present).set found follows
  logged := by
    intro entry member
    rw [updates.flights, List.length_set]
    rcases updates.logged entry member with before | same
    · exact orderly.logged entry before
    · rw [same]
      exact (List.getElem?_eq_some_iff.mp found).1
  mapped := mapped
  current := current
  calm := updates.calm.trans orderly.calm

theorem Orderly.mapped_set (orderly : Orderly group) (found : group.flights[call]? = some flight)
    (key : later.key = flight.key) (completed : later.completed = flight.completed) :
    ∀ (key : K) (used : Nat), group.calls key = some used →
      ∃ flight, (group.flights.set call later)[used]? = some flight ∧ flight.key = key ∧
        flight.completed = false := by
  intro other used mapped
  obtain ⟨seen, present, same, loading⟩ := orderly.mapped other used mapped
  rw [Tasks.lookup_set found]
  split
  case isTrue again =>
    subst again
    rw [found] at present
    cases present
    exact ⟨later, rfl, key.trans same, completed.trans loading⟩
  case isFalse => exact ⟨seen, present, same, loading⟩

theorem Orderly.current_set (orderly : Orderly group) (found : group.flights[call]? = some flight)
    (key : later.key = flight.key) (completed : later.completed = flight.completed)
    (fewer : 0 < later.users → 0 < flight.users) :
    ∀ (used : Nat) (seen : FlightCall K), (group.flights.set call later)[used]? = some seen →
      seen.completed = false → 0 < seen.users → group.calls seen.key = some used := by
  intro used seen present loading inUse
  rw [Tasks.lookup_set found] at present
  split at present
  case isTrue again =>
    subst again
    cases present
    rw [key]
    exact orderly.current used flight found (completed ▸ loading) (fewer inUse)
  case isFalse => exact orderly.current used seen present loading inUse

theorem updates_settle (orderly : Orderly group) (present : group.callers[index]? = some old)
    (found : group.flights[call]? = some flight)
    (before : old.call = some call) (after : new.call = some call)
    (silent : ∀ flight : FlightCall K, Relies flight new) :
    Updates group (group.settle index new call later) call later where
  flights := rfl
  users := by
    intro other different
    have apart : some call ≠ some other := fun same => different (Option.some.inj same).symm
    have changed : _ = group.users other - old.uses other + new.uses other :=
      users_set present other
    rw [Caller.uses_other (before ▸ apart), Caller.uses_other (after ▸ apart)] at changed
    exact changed.trans (by omega)
  owed := by
    intro other different
    have apart : some call ≠ some other := fun same => different (Option.some.inj same).symm
    funext callback
    have changed : _ = group.owed other callback - old.owes other callback +
        new.owes other callback := owed_set present other callback
    rw [Caller.owes_other (before ▸ apart), Caller.owes_other (after ▸ apart)] at changed
    exact changed.trans (by omega)
  known := by
    intro other caller seen
    simp only [FlightGroup.settle, Tasks.lookup_set present] at seen
    split at seen
    · cases seen
      intro used about
      rw [after] at about
      cases about
      exact ⟨flight, found, silent flight⟩
    · exact orderly.known other caller seen
  logged := fun entry member => .inl member
  calm := rfl

theorem Orderly.in_use (orderly : Orderly group) (present : group.callers[index]? = some old)
    (found : group.flights[call]? = some flight) (uses : old.uses call = 1) : 0 < flight.users := by
  have counted := (orderly.sound call flight found).counted
  have part : old.uses call ≤ group.users call :=
    Tasks.le_total (fun caller _ => caller.uses_nonneg call) present
  omega

theorem Orderly.leave (orderly : Orderly group) (present : group.callers[index]? = some old)
    (found : group.flights[call]? = some flight) (before : old.call = some call)
    (uses : old.uses call = 1) (owes : ∀ callback, old.owes call callback = 0)
    {callbacks : List Callback} {result : Option Err}
    (sound : later.Sound (group.users call - 1) fun callback =>
      group.owed call callback + callbacks.count callback)
    (follows : Follows flight later) (key : later.key = flight.key)
    (completed : later.completed = flight.completed) :
    Orderly (group.settle index (.finalizing call callbacks result) call later) := by
  have used := orderly.in_use present found uses
  have updates : Updates group (group.settle index (.finalizing call callbacks result) call later)
      call later := updates_settle orderly present found before rfl fun _ => trivial
  have users : (group.settle index (.finalizing call callbacks result) call later).users call =
      group.users call - 1 := by
    refine (users_set present call).trans ?_
    rw [uses]
    exact Int.add_zero _
  have owed : (group.settle index (.finalizing call callbacks result) call later).owed call =
      fun callback => group.owed call callback + callbacks.count callback := by
    funext callback
    refine (owed_set present call callback).trans ?_
    rw [owes callback]
    simp [Caller.owes]
  refine orderly.update found updates follows ?_ (orderly.mapped_set found key completed)
    (orderly.current_set found key completed fun _ => used)
  rw [users, owed]
  exact sound

theorem Orderly.abandon (orderly : Orderly group) {error : Err}
    (present : group.callers[index]? = some (.abandoning call))
    (found : group.flights[call]? = some flight) :
    Orderly (group.abandon index call flight error) := by
  have used := orderly.in_use present found (by simp [Caller.uses])
  have sound := orderly.sound call flight found
  unfold FlightGroup.abandon
  rw [if_neg (by omega)]
  have counted := sound.counted
  have left := sound.abandon (by omega)
  have fields : ∃ finalized resource after users data cancelled, flight.abandon.1 = { flight with
      finalized := finalized, resourceRelease := resource, afterRelease := after,
      users := users, data := data, cancelled := cancelled } := by
    obtain ⟨finalized, resource, after, same⟩ := FlightCall.takeFinalizerLocked_fst { flight with
      users := flight.users - 1
      data := if flight.completed ∧ flight.users - 1 = 0 then none else flight.data
      cancelled := flight.cancelled || (!flight.completed && flight.users - 1 = 0) }
    exact ⟨_, _, _, _, _, _, same⟩
  obtain ⟨_, _, _, _, _, _, same⟩ := fields
  refine orderly.leave present found rfl (by simp [Caller.uses]) (fun _ => rfl) left ?_ ?_ ?_
  · rw [same]
    exact ⟨fun _ => rfl, fun _ => rfl, fun closed => closed⟩
  · rw [same]
  · rw [same]

theorem Orderly.releaseUser (orderly : Orderly group)
    (present : group.callers[index]? = some (.releasing call))
    (found : group.flights[call]? = some flight) :
    Orderly (group.releaseUser index call flight) := by
  have used := orderly.in_use present found (by simp [Caller.uses])
  have sound := orderly.sound call flight found
  obtain ⟨other, again, closed, _⟩ := orderly.known index _ present call rfl
  rw [found] at again
  cases again
  unfold FlightGroup.releaseUser
  rw [if_neg (by omega)]
  have counted := sound.counted
  have left := sound.releaseUser (by omega) (sound.done closed)
  have fields : ∃ finalized resource after users data, flight.releaseUser.1 = { flight with
      finalized := finalized, resourceRelease := resource, afterRelease := after,
      users := users, data := data } := by
    obtain ⟨finalized, resource, after, same⟩ := FlightCall.takeFinalizerLocked_fst { flight with
      users := flight.users - 1
      data := if flight.users - 1 = 0 then none else flight.data }
    exact ⟨_, _, _, _, _, same⟩
  obtain ⟨_, _, _, _, _, same⟩ := fields
  refine orderly.leave present found rfl (by simp [Caller.uses]) (fun _ => rfl) left ?_ ?_ ?_
  · rw [same]
    exact ⟨fun _ => rfl, fun _ => rfl, fun closed => closed⟩
  · rw [same]
  · rw [same]

theorem updates_runner (orderly : Orderly group) :
    Updates group { group with flights := group.flights.set call later } call later where
  flights := rfl
  users := fun _ _ => rfl
  owed := fun _ _ => rfl
  known := orderly.known
  logged := fun _ member => .inl member
  calm := rfl

theorem Orderly.close (orderly : Orderly group) (found : group.flights[call]? = some flight)
    (idle : flight.runner = .finalizing []) :
    Orderly { group with
      flights := group.flights.set call { flight with done := true, runner := .finished } } :=
  orderly.update found (updates_runner orderly) ⟨fun _ => rfl, fun _ => rfl, fun _ => rfl⟩
    ((orderly.sound call flight found).close idle) (orderly.mapped_set found rfl rfl)
    (orderly.current_set found rfl rfl id)

theorem count_ran {ran : List (Nat × Callback)} {callback : Callback} (other : Nat)
    (seen : Callback) : (((call, callback) :: ran).count (other, seen) : Int) =
      ran.count (other, seen) + if other = call ∧ seen = callback then 1 else 0 := by
  simp only [List.count_cons, beq_iff_eq, Prod.mk.injEq]
  by_cases same : other = call ∧ seen = callback
  · rw [if_pos same, if_pos ⟨same.1.symm, same.2.symm⟩]
    omega
  · rw [if_neg same, if_neg fun reversed => same ⟨reversed.1.symm, reversed.2.symm⟩]
    omega

theorem Orderly.runCallback (orderly : Orderly group) {callback : Callback} {rest : List Callback}
    (found : group.flights[call]? = some flight)
    (owes : flight.runner = .finalizing (callback :: rest)) :
    Orderly { group with
      flights := group.flights.set call { flight with runner := .finalizing rest }
      ran := (call, callback) :: group.ran } := by
  refine orderly.update found ⟨rfl, fun _ _ => rfl, ?_, orderly.known, ?_, rfl⟩
    ⟨fun _ => rfl, fun _ => rfl, fun closed => closed⟩ ?_ (orderly.mapped_set found rfl rfl)
    (orderly.current_set found rfl rfl id)
  · intro other different
    funext seen
    simp only [FlightGroup.owed, count_ran, different, false_and, if_false]
    omega
  · intro entry member
    rcases List.mem_cons.mp member with same | before
    · exact .inr (by rw [same])
    · exact .inl before
  · have sound := (orderly.sound call flight found).runCallback owes
    have owed : FlightGroup.owed { group with
        flights := group.flights.set call { flight with runner := .finalizing rest }
        ran := (call, callback) :: group.ran } call =
          fun other => group.owed call other + if other = callback then 1 else 0 := by
      funext seen
      simp only [FlightGroup.owed, count_ran, true_and]
      omega
    rw [owed]
    exact sound

theorem Orderly.callback (orderly : Orderly group) {callback : Callback} {rest : List Callback}
    {result : Option Err}
    (present : group.callers[index]? = some (.finalizing call (callback :: rest) result)) :
    Orderly { group with
      callers := group.callers.set index (.finalizing call rest result)
      ran := (call, callback) :: group.ran } := by
  obtain ⟨flight, found, _⟩ := orderly.known index _ present call rfl
  -- What the caller no longer owes has been started.
  have owed : FlightGroup.owed { group with
      callers := group.callers.set index (.finalizing call rest result)
      ran := (call, callback) :: group.ran } = group.owed := by
    funext other seen
    simp only [FlightGroup.owed, Tasks.total_set present, Caller.owes, List.count_cons, beq_iff_eq]
    by_cases same : call = other
    · subst same
      by_cases again : callback = seen
      · subst again
        simp
        omega
      · simp [again]
    · simp [same]
  have users : FlightGroup.users { group with
      callers := group.callers.set index (.finalizing call rest result)
      ran := (call, callback) :: group.ran } = group.users := by
    funext other
    refine (users_set present other).trans ?_
    simp [Caller.uses]
  refine ⟨?_, ?_, ?_, orderly.mapped, orderly.current, orderly.calm⟩
  · rw [owed, users]
    exact orderly.sound
  · intro other caller seen
    simp only [Tasks.lookup_set present] at seen
    split at seen
    · cases seen
      intro used about
      cases about
      exact ⟨flight, found, trivial⟩
    · exact orderly.known other caller seen
  · intro entry member
    rcases List.mem_cons.mp member with same | before
    · rw [same]
      exact (List.getElem?_eq_some_iff.mp found).1
    · exact orderly.logged entry before

theorem Orderly.refuse (orderly : Orderly group) {result : Option Err} :
    Orderly { group with callers := group.callers ++ [.ended result] } := by
  have users : FlightGroup.users { group with callers := group.callers ++ [.ended result] } =
      group.users := by
    funext call
    simp [FlightGroup.users, Tasks.total_push, Caller.uses]
  have owed : FlightGroup.owed { group with callers := group.callers ++ [.ended result] } =
      group.owed := by
    funext call callback
    simp [FlightGroup.owed, Tasks.total_push, Caller.owes]
  refine ⟨?_, ?_, orderly.logged, orderly.mapped, orderly.current, orderly.calm⟩
  · rw [users, owed]
    exact orderly.sound
  · intro index caller present
    simp only [Tasks.lookup_push] at present
    split at present
    · cases present
      intro call about
      cases about
    · exact orderly.known index caller present

theorem users_wait (used other : Nat) :
    Tasks.total (Caller.uses other) (group.callers ++ [.waiting used]) =
      group.users other + if used = other then 1 else 0 := Tasks.total_push

theorem owed_wait (used other : Nat) (callback : Callback) :
    Tasks.total (Caller.owes other callback) (group.callers ++ [.waiting used]) +
      group.ran.count (other, callback) = group.owed other callback := by
  rw [Tasks.total_push]
  simp [FlightGroup.owed, Caller.owes]

theorem Orderly.join (orderly : Orderly group) (found : group.flights[call]? = some flight)
    (used : 0 < flight.users) (loading : flight.completed = false) :
    Orderly (group.join call flight) := by
  have sound := orderly.sound call flight found
  have counted := sound.counted
  refine orderly.update found ⟨rfl, ?_, ?_, ?_, fun _ member => .inl member, rfl⟩
    ⟨fun _ => rfl, fun _ => rfl, fun closed => closed⟩ ?_ (orderly.mapped_set found rfl rfl)
    (orderly.current_set found rfl rfl fun _ => used)
  · intro other different
    refine (users_wait call other).trans ?_
    rw [if_neg (Ne.symm different), Int.add_zero]
  · intro other _
    funext callback
    exact owed_wait call other callback
  · intro index caller present
    simp only [FlightGroup.join, Tasks.lookup_push] at present
    split at present
    · cases present
      intro used about
      cases about
      exact ⟨flight, found, trivial⟩
    · exact orderly.known index caller present
  · have users : (group.join call flight).users call = group.users call + 1 :=
      (users_wait call call).trans (by rw [if_pos rfl])
    have owed : (group.join call flight).owed call = group.owed call := by
      funext callback
      exact owed_wait call call callback
    rw [users, owed]
    exact sound.join (by omega) loading

theorem Orderly.unused (orderly : Orderly group) : group.users group.flights.length = 0 ∧
    group.owed group.flights.length = fun _ => 0 := by
  have elsewhere : ∀ caller ∈ group.callers, caller.call ≠ some group.flights.length := by
    intro caller member about
    obtain ⟨index, present⟩ := List.mem_iff_getElem?.mp member
    obtain ⟨flight, found, _⟩ := orderly.known index caller present _ about
    have := (List.getElem?_eq_some_iff.mp found).1
    omega
  constructor
  · exact Tasks.total_zero fun caller member => Caller.uses_other (elsewhere caller member)
  · funext callback
    have owes : Tasks.total (Caller.owes group.flights.length callback) group.callers = 0 :=
      Tasks.total_zero fun caller member => Caller.owes_other (elsewhere caller member)
    have ran : group.ran.count (group.flights.length, callback) = 0 := by
      refine List.count_eq_zero.mpr fun member => ?_
      have := orderly.logged _ member
      omega
    rw [FlightGroup.owed, owes, ran]
    rfl

theorem Orderly.receive (orderly : Orderly group)
    (present : group.callers[index]? = some (.waiting call))
    (found : group.flights[call]? = some flight) (closed : flight.done = true) :
    Orderly (group.move index (receive call flight)) := by
  have sound := orderly.sound call flight found
  have used := orderly.in_use present found (by simp [Caller.uses])
  unfold FlightGroup.receive
  cases failed : flight.err with
  | some err =>
      refine orderly.move present (fun _ => rfl) (fun _ _ => rfl) ?_
      intro other about
      cases about
      exact ⟨flight, found, closed, failed⟩
  | none =>
      refine orderly.move present (fun _ => rfl) (fun _ _ => rfl) ?_
      intro other about
      cases about
      have recorded := sound.loaded
      rw [sound.done closed] at recorded
      obtain ⟨loaded, same⟩ := Option.isSome_iff_exists.mp recorded
      have succeeded : loaded.err = none := by
        have err := sound.err
        rw [failed, same] at err
        exact err.symm
      have counted := sound.counted
      exact ⟨flight, found, closed, loaded, same, succeeded,
        sound.bytes loaded same succeeded (by omega)⟩

section Keys

variable [DecidableEq K]

theorem Orderly.launch (orderly : Orderly group) {key : K} {afterRelease : Bool}
    (free : ∀ (call : Nat) (flight : FlightCall K), group.flights[call]? = some flight →
      flight.completed = false → 0 < flight.users → flight.key ≠ key) :
    Orderly (group.launch key afterRelease) where
  sound := by
    intro call flight present
    have owed : (group.launch key afterRelease).owed call = group.owed call := by
      funext callback
      exact owed_wait group.flights.length call callback
    have users : (group.launch key afterRelease).users call =
        group.users call + if group.flights.length = call then 1 else 0 :=
      users_wait group.flights.length call
    rw [users, owed]
    simp only [FlightGroup.launch, Tasks.lookup_push] at present
    split at present
    case isTrue last =>
      subst last
      cases present
      rw [orderly.unused.1, orderly.unused.2, if_pos rfl]
      exact FlightCall.Sound.start
    case isFalse different =>
      rw [if_neg (Ne.symm different), Int.add_zero]
      exact orderly.sound call flight present
  known := by
    intro index caller present
    simp only [FlightGroup.launch, Tasks.lookup_push] at present
    split at present
    · cases present
      intro used about
      cases about
      exact ⟨.start key afterRelease, by simp [FlightGroup.launch], trivial⟩
    · exact (orderly.known index caller present).push
  logged := by
    intro entry member
    have := orderly.logged entry member
    simp only [FlightGroup.launch, List.length_append, List.length_singleton]
    omega
  mapped := by
    intro other call mapped
    simp only [FlightGroup.launch, Tasks.lookup_push] at mapped ⊢
    split at mapped
    case isTrue same =>
      cases mapped
      exact ⟨_, if_pos rfl, same.symm, rfl⟩
    case isFalse =>
      obtain ⟨flight, found, rest⟩ := orderly.mapped other call mapped
      have := (List.getElem?_eq_some_iff.mp found).1
      exact ⟨flight, by rw [if_neg (by omega)]; exact found, rest⟩
  current := by
    intro call flight present loading used
    simp only [FlightGroup.launch, Tasks.lookup_push] at present ⊢
    split at present
    case isTrue last =>
      cases present
      exact (if_pos rfl).trans (by rw [last])
    case isFalse =>
      rw [if_neg (free call flight present loading used)]
      exact orderly.current call flight present loading used
  calm := orderly.calm

theorem Orderly.enter (orderly : Orderly group) {key : K} {afterRelease : Bool} :
    Orderly (group.enter key afterRelease) := by
  unfold FlightGroup.enter
  -- A load of the key that is in use is the one in the map.
  cases mapped : group.calls key with
  | none =>
      refine orderly.launch fun call flight found loading used same => ?_
      have := orderly.current call flight found loading used
      rw [same, mapped] at this
      cases this
  | some call =>
      obtain ⟨flight, found, _, loading⟩ := orderly.mapped key call mapped
      dsimp only
      rw [found]
      dsimp only
      split
      case isTrue used => exact orderly.join found used loading
      case isFalse unused =>
        refine orderly.launch fun other seen present loading used same => ?_
        have := orderly.current other seen present loading used
        rw [same, mapped] at this
        cases this
        rw [found] at present
        cases present
        exact unused used

theorem Orderly.complete (orderly : Orderly group) (found : group.flights[call]? = some flight)
    (running : flight.runner = .loading) (loaded : Loaded) :
    Orderly (group.complete call flight loaded) := by
  have sound := orderly.sound call flight found
  have loading := sound.runner.mp running
  have opened : flight.done ≠ true := by
    intro closed
    have := sound.done closed
    rw [loading] at this
    cases this
  have fields : (flight.complete loaded).completed = true := by
    obtain ⟨_, _, _, same⟩ := FlightCall.takeFinalizerLocked_fst (flight.record loaded)
    simp only [FlightCall.complete, same]
    rfl
  refine orderly.update found ⟨rfl, fun _ _ => rfl, fun _ _ => rfl, orderly.known,
    fun _ member => .inl member, rfl⟩ ⟨?_, ?_, ?_⟩ (sound.complete loading loaded) ?_ ?_
  · exact fun closed => absurd closed opened
  · exact fun closed => absurd closed opened
  · exact fun closed => absurd closed opened
  · intro key used mapped
    simp only [FlightGroup.complete] at mapped
    split at mapped
    · cases mapped
    case isFalse kept =>
      obtain ⟨seen, present, same, open'⟩ := orderly.mapped key used mapped
      refine ⟨seen, ?_, same, open'⟩
      simp only [FlightGroup.complete, Tasks.lookup_set found]
      rw [if_neg]
      · exact present
      · rintro rfl
        rw [found] at present
        cases present
        exact kept ⟨same.symm, by rw [same]; exact mapped⟩
  · intro used seen present open' inUse
    simp only [FlightGroup.complete, Tasks.lookup_set found] at present ⊢
    split at present
    · cases present
      rw [fields] at open'
      cases open'
    case isFalse different =>
      have mapped := orderly.current used seen present open' inUse
      rw [if_neg]
      · exact mapped
      · rintro ⟨same, removed⟩
        rw [same, removed] at mapped
        cases mapped
        exact different rfl

theorem Orderly.step (orderly : Orderly group) {action : FlightAction K} {after : FlightGroup K}
    (taken : group.step action = some after) : Orderly after := by
  cases action with
  | enter key afterRelease ended =>
      cases ended with
      | some error =>
          cases taken
          exact orderly.refuse
      | none =>
          cases taken
          exact orderly.enter
  | load call loaded =>
      simp only [FlightGroup.step] at taken
      split at taken
      · cases taken
      case h_2 flight found =>
        split at taken
        case isTrue running =>
          cases taken
          exact orderly.complete found running loaded
        · cases taken
  | runCallback call =>
      simp only [FlightGroup.step] at taken
      split at taken
      · cases taken
      case h_2 flight found =>
        split at taken
        case h_1 callback rest owes =>
          cases taken
          exact orderly.runCallback found owes
        · cases taken
  | close call =>
      simp only [FlightGroup.step] at taken
      split at taken
      · cases taken
      case h_2 flight found =>
        split at taken
        case isTrue idle =>
          cases taken
          exact orderly.close found idle
        · cases taken
  | ready index =>
      simp only [FlightGroup.step] at taken
      split at taken
      case h_1 call present =>
        split at taken
        · cases taken
        case h_2 flight found =>
          split at taken
          case isTrue closed =>
            cases taken
            exact orderly.receive present found closed
          · cases taken
      · cases taken
  | done index =>
      simp only [FlightGroup.step] at taken
      split at taken
      case h_1 call present =>
        cases taken
        refine orderly.move present (fun _ => rfl) (fun _ _ => rfl) ?_
        intro other about
        obtain ⟨flight, found, _⟩ := orderly.known index _ present other about
        exact ⟨flight, found, trivial⟩
      · cases taken
  | abandon index error =>
      simp only [FlightGroup.step] at taken
      split at taken
      case h_1 call present =>
        obtain ⟨flight, found, rfl⟩ := Option.map_eq_some_iff.mp taken
        exact orderly.abandon present found
      · cases taken
  | release index =>
      simp only [FlightGroup.step] at taken
      split at taken
      case h_1 call data present =>
        cases taken
        refine orderly.move present (fun _ => rfl) (fun _ _ => rfl) ?_
        intro other about
        cases about
        obtain ⟨flight, found, closed, loaded, same, succeeded, _⟩ :=
          orderly.known index _ present call rfl
        refine ⟨flight, found, closed, ?_⟩
        rw [(orderly.sound call flight found).err, same]
        exact succeeded
      · cases taken
        exact orderly
      · cases taken
  | releaseUser index =>
      simp only [FlightGroup.step] at taken
      split at taken
      case h_1 call present =>
        obtain ⟨flight, found, rfl⟩ := Option.map_eq_some_iff.mp taken
        exact orderly.releaseUser present found
      · cases taken
  | callback index =>
      simp only [FlightGroup.step] at taken
      split at taken
      case h_1 call callback rest result present =>
        cases taken
        exact orderly.callback present
      · cases taken
  | finish index =>
      simp only [FlightGroup.step] at taken
      split at taken
      case h_1 call result present =>
        cases taken
        refine orderly.move present (fun _ => rfl) ?_ ?_
        · intro other callback
          simp [Caller.owes]
        · intro other about
          cases about
      · cases taken

theorem Orderly.reachable (reached : (automaton K).Reachable group) : Orderly group := by
  refine reached.invariant ?_ fun _ _ _ orderly taken => orderly.step taken
  rintro _ rfl
  refine ⟨?_, ?_, ?_, ?_, ?_, rfl⟩
  · intro call flight found
    simp [FlightGroup.empty] at found
  · intro index caller present
    simp [FlightGroup.empty] at present
  · intro entry member
    simp [FlightGroup.empty] at member
  · intro key call mapped
    cases mapped
  · intro call flight found
    simp [FlightGroup.empty] at found

end Keys

def Pending (group : FlightGroup K) (call : Nat) (callback : Callback) : Prop :=
  (∃ flight callbacks, group.flights[call]? = some flight ∧
    flight.runner = .finalizing callbacks ∧ callback ∈ callbacks) ∨
  ∃ (index : Nat) (callbacks : List Callback) (result : Option Err),
    group.callers[index]? = some (.finalizing call callbacks result) ∧ callback ∈ callbacks

theorem Orderly.ran_le (orderly : Orderly group) (call : Nat) (callback : Callback) :
    group.ran.count (call, callback) ≤ 1 := by
  by_cases member : (call, callback) ∈ group.ran
  · have within := orderly.logged _ member
    obtain ⟨flight, found⟩ : ∃ flight, group.flights[call]? = some flight :=
      ⟨_, List.getElem?_eq_getElem within⟩
    have account := (orderly.sound call flight found).account callback
    have owes : 0 ≤ Tasks.total (Caller.owes call callback) group.callers :=
      Tasks.total_nonneg fun caller _ => caller.owes_nonneg call callback
    have running := flight.runner.owes_nonneg callback
    have provides : flight.provides callback ≤ 1 := by
      cases callback <;> simp only [FlightCall.provides] <;> split <;> omega
    simp only [FlightGroup.owed] at account
    split at account <;> omega
  · rw [List.count_eq_zero.mpr member]
    omega

theorem Orderly.ran_finalized (orderly : Orderly group) {callback : Callback}
    (found : group.flights[call]? = some flight) (ran : (call, callback) ∈ group.ran) :
    flight.finalized = true := by
  have account := (orderly.sound call flight found).account callback
  have owes : 0 ≤ Tasks.total (Caller.owes call callback) group.callers :=
    Tasks.total_nonneg fun caller _ => caller.owes_nonneg call callback
  have running := flight.runner.owes_nonneg callback
  have counted : 0 < group.ran.count (call, callback) := List.count_pos_iff.mpr ran
  simp only [FlightGroup.owed] at account
  split at account
  case isTrue finalized => exact finalized
  case isFalse => omega

theorem Orderly.not_leased (orderly : Orderly group) {callback : Callback} {data : Option Bytes}
    (ran : (call, callback) ∈ group.ran) : group.callers[index]? ≠ some (.leased call data) := by
  intro present
  obtain ⟨flight, found, closed, loaded, same, succeeded, _⟩ :=
    orderly.known index _ present call rfl
  have sound := orderly.sound call flight found
  have used := orderly.in_use present found (by simp [Caller.uses])
  have counted := sound.counted
  obtain ⟨_, failed | unused⟩ := sound.early (orderly.ran_finalized found ran)
  · rw [sound.err, same] at failed
    exact failed succeeded
  · omega

theorem Orderly.started (orderly : Orderly group) {callback : Callback}
    (found : group.flights[call]? = some flight) (completed : flight.completed = true)
    (ended : flight.err ≠ none ∨ ∀ caller ∈ group.callers, caller.uses call = 0)
    (provided : flight.provides callback = 1) :
    (call, callback) ∈ group.ran ∨ group.Pending call callback := by
  have sound := orderly.sound call flight found
  have finalized : flight.finalized = true := by
    refine sound.due completed (ended.imp_right fun unused => ?_)
    exact Tasks.total_zero unused
  have account := sound.account callback
  rw [finalized, if_pos rfl, provided] at account
  by_cases ran : (call, callback) ∈ group.ran
  · exact .inl ran
  · right
    simp only [FlightGroup.owed, List.count_eq_zero.mpr ran] at account
    by_cases running : flight.runner.owes callback = 0
    · -- Then a caller owes it.
      have owes : Tasks.total (Caller.owes call callback) group.callers ≠ 0 := by omega
      obtain ⟨caller, member, owes⟩ := Tasks.exists_of_total_ne_zero owes
      obtain ⟨index, present⟩ := List.mem_iff_getElem?.mp member
      cases caller <;> simp only [Caller.owes, ne_eq, not_true_eq_false] at owes
      case finalizing used callbacks result =>
        split at owes
        case isTrue same =>
          subst same
          refine Or.inr ⟨index, callbacks, result, present, ?_⟩
          exact List.count_pos_iff.mp (by omega)
        · exact absurd rfl owes
    · cases runner : flight.runner <;> simp only [runner, Runner.owes, not_true_eq_false] at running
      case finalizing callbacks =>
        refine Or.inl ⟨flight, callbacks, found, runner, ?_⟩
        exact List.count_pos_iff.mp (by omega)

theorem Orderly.user (orderly : Orderly group) (found : group.flights[call]? = some flight)
    (loading : flight.completed = false) (used : 0 < flight.users) :
    ∃ index : Nat, group.callers[index]? = some (.waiting call) ∨
      group.callers[index]? = some (.abandoning call) := by
  have sound := orderly.sound call flight found
  have counted := sound.counted
  have users : Tasks.total (Caller.uses call) group.callers ≠ 0 := by
    have : group.users call ≠ 0 := by omega
    exact this
  obtain ⟨caller, member, uses⟩ := Tasks.exists_of_total_ne_zero users
  obtain ⟨index, present⟩ := List.mem_iff_getElem?.mp member
  have about : caller.call = some call := by
    by_contra other
    exact uses (Caller.uses_other other)
  obtain ⟨seen, again, relies⟩ := orderly.known index caller present call about
  rw [found] at again
  cases again
  have opened : flight.done ≠ true := by
    intro closed
    have := sound.done closed
    rw [loading] at this
    cases this
  refine ⟨index, ?_⟩
  cases caller with
  | waiting used =>
      cases about
      exact .inl present
  | abandoning used =>
      cases about
      exact .inr present
  | leased used data => exact absurd relies.1 opened
  | releasing used => exact absurd relies.1 opened
  | refused used err => exact absurd relies.1 opened
  | finalizing used callbacks result => exact absurd rfl uses
  | ended result => exact absurd rfl uses

section Results

variable [DecidableEq K]

theorem Orderly.joins (orderly : Orderly group) {key : K} {afterRelease : Bool}
    (waits : (group.enter key afterRelease).callers[group.callers.length]? = some (.waiting call))
    (before : call < group.flights.length) :
    ∃ flight, group.flights[call]? = some flight ∧ flight.completed = false ∧
      flight.cancelled = false ∧ ∃ index : Nat, group.callers[index]? = some (.waiting call) ∨
        group.callers[index]? = some (.abandoning call) := by
  have launched : ∀ {other : Nat}, (group.launch key afterRelease).callers[group.callers.length]? =
      some (.waiting other) → other = group.flights.length := by
    intro other waits
    simp only [FlightGroup.launch, Tasks.lookup_push, if_true, Option.some.injEq,
      Caller.waiting.injEq] at waits
    exact waits.symm
  unfold FlightGroup.enter at waits
  cases mapped : group.calls key with
  | none =>
      rw [mapped] at waits
      have := launched waits
      omega
  | some used =>
      obtain ⟨flight, found, _, loading⟩ := orderly.mapped key used mapped
      rw [mapped] at waits
      dsimp only at waits
      rw [found] at waits
      dsimp only at waits
      split at waits
      case isTrue inUse =>
        simp only [FlightGroup.join, Tasks.lookup_push, if_true, Option.some.injEq,
          Caller.waiting.injEq] at waits
        subst waits
        have sound := orderly.sound used flight found
        have counted := sound.counted
        have fresh : flight.cancelled = false := by
          cases cancelled : flight.cancelled with
          | false => rfl
          | true => exact absurd ((sound.alive loading).mp cancelled) (by omega)
        exact ⟨flight, found, loading, fresh, orderly.user found loading inUse⟩
      case isFalse =>
        have := launched waits
        omega

end Results

end FlightGroup

end S3Disk.Sync
