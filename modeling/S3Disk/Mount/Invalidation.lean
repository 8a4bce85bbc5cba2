import S3Disk.Library.Automaton
import S3Disk.Mount.InodeIdentities

/-! The goroutine that tells the kernel about a new snapshot. Observers record the snapshot
that the consumer has adopted and wake the coordinator through a channel with one slot; the
coordinator sweeps the materialized entries until the snapshot it swept for is still current.
A step is one critical section of the status lock, one operation on the channel or one look at
the consumer. -/

namespace S3Disk.Mount

open Concurrent

inductive InvalidationMode where
  | active
  | backoff
  | ttlFallback
  deriving DecidableEq, Repr

/-- The part of the mount's status that invalidation reads and writes; times are left out. -/
structure InvalidationStatus where
  observedSnapshot : SnapshotIdentity
  notifiedSnapshot : SnapshotIdentity
  mode : InvalidationMode
  consecutiveFailures : Nat
  lastError : Option Err

namespace InvalidationStatus

variable (status : InvalidationStatus)

def observeSnapshot (identity : SnapshotIdentity) (wake : Bool) : InvalidationStatus × Bool :=
  let changed := status.observedSnapshot != identity
  let pending := status.notifiedSnapshot != identity
  ({ status with observedSnapshot := identity }, wake && changed && pending)

def invalidationTarget : SnapshotIdentity × Bool :=
  (status.observedSnapshot,
    status.observedSnapshot != status.notifiedSnapshot && status.observedSnapshot.valid)

def recordInvalidationAttempt : InvalidationStatus := { status with mode := .active }

def recordInvalidationSuccess (identity : SnapshotIdentity) : InvalidationStatus :=
  { status with
    notifiedSnapshot := identity
    consecutiveFailures := 0
    lastError := none
    mode := .active }

def recordInvalidationFailure (error : Err) : InvalidationStatus :=
  { status with
    consecutiveFailures := status.consecutiveFailures + 1
    lastError := some error
    mode := .backoff }

def recordInvalidationStopped : InvalidationStatus :=
  { status with
    mode := if status.observedSnapshot ≠ status.notifiedSnapshot then .ttlFallback
      else status.mode }

end InvalidationStatus

def initialInvalidationRetryDelay : Nat := 100
def maxInvalidationRetryDelay : Nat := 5000

def nextRetryDelay (delay maximum : Nat) : Nat :=
  if delay ≥ maximum / 2 then maximum else delay * 2

inductive Observer where
  | loaded (identity : SnapshotIdentity)
  | waking
  | returned
  deriving DecidableEq

inductive Coordinator where
  | waiting
  | targeting (delay : Nat)
  | observing (delay : Nat) (current : SnapshotIdentity)
  | choosing (delay : Nat)
  | attempting (delay : Nat) (target : SnapshotIdentity)
  | sweeping (delay : Nat) (target : SnapshotIdentity)
  | swept (delay : Nat) (target : SnapshotIdentity) (failure : Option Err)
  | confirming (delay : Nat) (target : SnapshotIdentity) (failure : Option Err)
  | settling (delay : Nat) (target : SnapshotIdentity) (failure : Option Err)
      (after : Option SnapshotIdentity)
  | deciding (delay : Nat) (target : SnapshotIdentity) (failure : Option Err)
      (after : Option SnapshotIdentity)
  | failing (delay : Nat) (error : Err)
  | backingOff (delay : Nat)
  | stopped
  deriving DecidableEq

inductive CoordinatorEvent where
  | targeted (target : SnapshotIdentity)
  | sweptWith (failure : Option Err)
  | found (current : Option SnapshotIdentity)
  | notified (identity : SnapshotIdentity)
  deriving DecidableEq

/-- A mount as invalidation sees it. The events are a record of the run, the latest first. -/
structure Invalidation where
  status : InvalidationStatus
  currentSnapshot : Option SnapshotIdentity
  invalidationWake : Bool
  cancelled : Bool
  coordinator : Coordinator
  observers : List Observer
  events : List CoordinatorEvent

inductive Outcome where
  | proceed
  | done
  | woken
  | timer
  | returned (failure : Option Err)
  deriving DecidableEq

inductive MountAction where
  | adopt (snapshot : Option SnapshotIdentity)
  | cancel
  | observe
  | record (index : Nat)
  | wake (index : Nat)
  | coordinate (outcome : Outcome)
  deriving DecidableEq

namespace Invalidation

variable (mount : Invalidation)

def goto (coordinator : Coordinator) : Invalidation := { mount with coordinator := coordinator }

def noting (event : CoordinatorEvent) : Invalidation :=
  { mount with events := event :: mount.events }

def sweepFailure (error : Err) : Err :=
  .within ["s3disk mount: invalidate refreshed snapshot"] error

def stop : Invalidation :=
  { mount with coordinator := .stopped, status := mount.status.recordInvalidationStopped }

def settleSweep (delay : Nat) (target : SnapshotIdentity) (failure : Option Err)
    (after : Option SnapshotIdentity) : Invalidation :=
  match failure with
  | some error => mount.goto (.failing delay error)
  | none =>
      if after = some target then
        ({ mount with
          status := mount.status.recordInvalidationSuccess target
          coordinator := .targeting initialInvalidationRetryDelay }).noting (.notified target)
      else match after with
        | none => mount.goto (.failing delay Sentinel.noSnapshot.error)
        | some _ => mount.goto (.targeting initialInvalidationRetryDelay)

def coordinate (outcome : Outcome) : Option Invalidation :=
  match mount.coordinator, outcome with
  | .waiting, .done => if mount.cancelled then some mount.stop else none
  | .waiting, .woken =>
      if mount.invalidationWake then
        some { mount with
          invalidationWake := false
          coordinator := .targeting initialInvalidationRetryDelay }
      else none
  | .targeting delay, .proceed =>
      match mount.currentSnapshot with
      | some current =>
          if current.valid then some (mount.goto (.observing delay current))
          else some (mount.goto (.choosing delay))
      | none => some (mount.goto (.choosing delay))
  | .observing delay current, .proceed =>
      some { mount with
        status := (mount.status.observeSnapshot current false).1
        coordinator := .choosing delay }
  | .choosing delay, .proceed =>
      let (target, pending) := mount.status.invalidationTarget
      if pending then some ((mount.goto (.attempting delay target)).noting (.targeted target))
      else some (mount.goto .waiting)
  | .attempting delay target, .proceed =>
      some { mount with
        status := mount.status.recordInvalidationAttempt
        coordinator := .sweeping delay target }
  | .sweeping delay target, .returned failure =>
      some ((mount.goto (.swept delay target failure)).noting (.sweptWith failure))
  | .swept delay target failure, .proceed =>
      if mount.cancelled then some mount.stop
      else some (mount.goto (.confirming delay target failure))
  | .confirming delay target failure, .proceed =>
      some ((mount.goto (.settling delay target failure mount.currentSnapshot)).noting
        (.found mount.currentSnapshot))
  | .settling delay target failure after, .proceed =>
      match after with
      | some current =>
          if current.valid then
            some { mount with
              status := (mount.status.observeSnapshot current false).1
              coordinator := .deciding delay target failure after }
          else some (mount.goto (.deciding delay target failure after))
      | none => some (mount.goto (.deciding delay target failure after))
  | .deciding delay target failure after, .proceed =>
      some (mount.settleSweep delay target failure after)
  | .failing delay error, .proceed =>
      some { mount with
        status := mount.status.recordInvalidationFailure (sweepFailure error)
        coordinator := .backingOff delay }
  | .backingOff _, .done => if mount.cancelled then some mount.stop else none
  | .backingOff _, .woken =>
      if mount.invalidationWake then
        some { mount with
          invalidationWake := false
          coordinator := .targeting initialInvalidationRetryDelay }
      else none
  | .backingOff delay, .timer =>
      some (mount.goto (.targeting (nextRetryDelay delay maxInvalidationRetryDelay)))
  | _, _ => none

def step : MountAction → Option Invalidation
  | .adopt snapshot => some { mount with currentSnapshot := snapshot }
  | .cancel => some { mount with cancelled := true }
  | .observe =>
      match mount.currentSnapshot with
      | some identity =>
          if identity.valid then
            some { mount with observers := mount.observers ++ [.loaded identity] }
          else some mount
      | none => some mount
  | .record index =>
      match mount.observers[index]? with
      | some (.loaded identity) =>
          let (status, wakes) := mount.status.observeSnapshot identity true
          some { mount with
            status := status
            observers := mount.observers.set index (if wakes then .waking else .returned) }
      | _ => none
  | .wake index =>
      -- A send into the one slot of the channel; a full slot absorbs it.
      match mount.observers[index]? with
      | some .waking =>
          some { mount with
            invalidationWake := true
            observers := mount.observers.set index .returned }
      | _ => none
  | .coordinate outcome => mount.coordinate outcome

end Invalidation

def invalidation (first : SnapshotIdentity) : Automaton Invalidation MountAction where
  initial mount := mount.status.observedSnapshot = first ∧ mount.status.notifiedSnapshot = first ∧
    mount.invalidationWake = false ∧ mount.coordinator = .waiting ∧ mount.observers = [] ∧
    mount.events = []
  step := Invalidation.step

/-- Every notification comes right after its snapshot was found current, after a sweep without
a failure for that target. -/
def Acknowledged : List CoordinatorEvent → Prop
  | [] => True
  | .notified identity :: older =>
      (∃ rest, older = .found (some identity) :: .sweptWith none :: .targeted identity :: rest) ∧
        Acknowledged older
  | _ :: older => Acknowledged older

def lastNotified (first : SnapshotIdentity) : List CoordinatorEvent → SnapshotIdentity
  | [] => first
  | .notified identity :: _ => identity
  | _ :: older => lastNotified first older

def Underway (events : List CoordinatorEvent) : Coordinator → Prop
  | .attempting _ target | .sweeping _ target => ∃ rest, events = .targeted target :: rest
  | .swept _ target failure | .confirming _ target failure =>
      ∃ rest, events = .sweptWith failure :: .targeted target :: rest
  | .settling _ target failure after | .deciding _ target failure after =>
      ∃ rest, events = .found after :: .sweptWith failure :: .targeted target :: rest
  | _ => True

def Ready (observed : SnapshotIdentity) : Coordinator → Prop
  | .observing _ current => current.valid = true
  | .attempting _ _ | .sweeping _ _ | .swept _ _ _ | .confirming _ _ _ | .settling _ _ _ _
  | .deciding _ _ _ _ => observed.valid = true
  | _ => True

def Invalidation.WakeDue (mount : Invalidation) : Prop :=
  mount.invalidationWake = true ∨ .waking ∈ mount.observers

structure Convergent (first : SnapshotIdentity) (mount : Invalidation) : Prop where
  acknowledged : Acknowledged mount.events
  last : mount.status.notifiedSnapshot = lastNotified first mount.events
  underway : Underway mount.events mount.coordinator
  valid : mount.status.observedSnapshot.valid = true ∨
    mount.status.observedSnapshot = mount.status.notifiedSnapshot
  ready : Ready mount.status.observedSnapshot mount.coordinator
  loaded : ∀ identity, .loaded identity ∈ mount.observers → identity.valid = true
  waiting : mount.coordinator = .waiting →
    mount.status.observedSnapshot = mount.status.notifiedSnapshot ∨ mount.WakeDue

namespace Convergent

variable {first : SnapshotIdentity} {mount later : Invalidation}

theorem initial (start : (invalidation first).initial mount) : Convergent first mount := by
  obtain ⟨observed, notified, _, waiting, observers, events⟩ := start
  have agree := observed.trans notified.symm
  refine ⟨?_, ?_, ?_, .inr agree, ?_, ?_, fun _ => .inl agree⟩
  · rw [events]
    trivial
  · rw [events]
    exact notified
  · rw [waiting]
    trivial
  · rw [waiting]
    trivial
  · rw [observers]
    intro identity member
    cases member

theorem goto (holds : Convergent first mount) {next : Coordinator}
    (underway : Underway mount.events next)
    (ready : Ready mount.status.observedSnapshot next)
    (busy : next ≠ .waiting) : Convergent first (mount.goto next) :=
  ⟨holds.acknowledged, holds.last, underway, holds.valid, ready, holds.loaded,
    fun waits => absurd waits busy⟩

theorem stop (holds : Convergent first mount) : Convergent first mount.stop :=
  ⟨holds.acknowledged, holds.last, trivial, holds.valid, trivial,
    holds.loaded, (fun waits => by cases waits)⟩

theorem targeting (holds : Convergent first mount) (delay : Nat) (wake : Bool) :
    Convergent first { mount with
      invalidationWake := wake
      coordinator := .targeting delay } :=
  ⟨holds.acknowledged, holds.last, trivial, holds.valid, trivial,
    holds.loaded, (fun waits => by cases waits)⟩

theorem observes (holds : Convergent first mount) {current : SnapshotIdentity}
    (valid : current.valid = true) {next : Coordinator}
    (underway : Underway mount.events next) (ready : Ready current next) (busy : next ≠ .waiting) :
    Convergent first { mount with
      status := (mount.status.observeSnapshot current false).1
      coordinator := next } :=
  ⟨holds.acknowledged, holds.last, underway, .inl valid, ready, holds.loaded,
    fun waits => absurd waits busy⟩

theorem targets (holds : Convergent first mount) {delay : Nat}
    (valid : mount.status.observedSnapshot.valid = true) :
    Convergent first ((mount.goto (.attempting delay mount.status.observedSnapshot)).noting
      (.targeted mount.status.observedSnapshot)) :=
  ⟨holds.acknowledged, holds.last, ⟨_, rfl⟩, holds.valid, valid, holds.loaded,
    fun waits => by cases waits⟩

theorem waits (holds : Convergent first mount)
    (settled : mount.status.invalidationTarget.2 = false) :
    Convergent first (mount.goto .waiting) := by
  refine ⟨holds.acknowledged, holds.last, trivial, holds.valid, trivial,
    holds.loaded, fun _ => .inl ?_⟩
  simp only [InvalidationStatus.invalidationTarget, Bool.and_eq_false_iff, bne_eq_false_iff_eq]
    at settled
  rcases settled with same | invalid
  · exact same
  · rcases holds.valid with valid | same
    · rw [invalid] at valid
      cases valid
    · exact same

theorem settleSweep (holds : Convergent first mount) {delay : Nat} {target : SnapshotIdentity}
    {failure : Option Err} {after : Option SnapshotIdentity}
    (phase : mount.coordinator = .deciding delay target failure after) :
    Convergent first (mount.settleSweep delay target failure after) := by
  have underway := holds.underway
  have valid := holds.ready
  rw [phase] at underway valid
  obtain ⟨rest, events⟩ := underway
  unfold Invalidation.settleSweep
  split
  · exact holds.goto trivial trivial (fun waits => by cases waits)
  · split
    · rename_i found
      subst found
      exact ⟨⟨⟨rest, events⟩, holds.acknowledged⟩, rfl, trivial, .inl valid,
        trivial, holds.loaded, fun waits => by cases waits⟩
    · split
      · exact holds.goto trivial trivial (fun waits => by cases waits)
      · exact holds.goto trivial trivial (fun waits => by cases waits)

theorem coordinate (holds : Convergent first mount) {outcome : Outcome}
    (taken : mount.coordinate outcome = some later) : Convergent first later := by
  have underway := holds.underway
  have ready := holds.ready
  unfold Invalidation.coordinate at taken
  split at taken
  · -- the wait ends with the context
    split at taken <;> cases taken
    exact holds.stop
  · -- or with a wake-up
    split at taken <;> cases taken
    exact holds.targeting _ _
  · -- the consumer's snapshot
    split at taken
    · split at taken <;> cases taken
      · rename_i valid
        exact holds.goto trivial valid (fun waits => by cases waits)
      · exact holds.goto trivial trivial (fun waits => by cases waits)
    · cases taken
      exact holds.goto trivial trivial (fun waits => by cases waits)
  · rename_i phase
    cases taken
    rw [phase] at ready
    exact holds.observes ready trivial trivial (fun waits => by cases waits)
  · -- the target
    dsimp only at taken
    split at taken <;> rename_i pending <;> cases taken
    · simp only [InvalidationStatus.invalidationTarget, Bool.and_eq_true] at pending
      exact holds.targets pending.2
    · exact holds.waits (by simpa using pending)
  · rename_i phase
    cases taken
    rw [phase] at underway ready
    exact ⟨holds.acknowledged, holds.last, underway, holds.valid, ready,
      holds.loaded, fun waits => by cases waits⟩
  · rename_i phase
    cases taken
    rw [phase] at underway ready
    obtain ⟨rest, events⟩ := underway
    exact ⟨holds.acknowledged, holds.last, ⟨rest, congrArg (_ :: ·) events⟩, holds.valid,
      ready, holds.loaded, fun waits => by cases waits⟩
  · rename_i phase
    rw [phase] at underway ready
    split at taken <;> cases taken
    · exact holds.stop
    · exact holds.goto underway ready (fun waits => by cases waits)
  · rename_i phase
    cases taken
    rw [phase] at underway ready
    obtain ⟨rest, events⟩ := underway
    exact ⟨holds.acknowledged, holds.last, ⟨rest, congrArg (_ :: ·) events⟩, holds.valid,
      ready, holds.loaded, fun waits => by cases waits⟩
  · rename_i phase
    rw [phase] at underway ready
    split at taken
    · split at taken <;> cases taken
      · rename_i valid
        exact holds.observes valid underway valid (fun waits => by cases waits)
      · exact holds.goto underway ready (fun waits => by cases waits)
    · cases taken
      exact holds.goto underway ready (fun waits => by cases waits)
  · rename_i phase
    cases taken
    exact holds.settleSweep phase
  · cases taken
    exact ⟨holds.acknowledged, holds.last, trivial, holds.valid,
      trivial, holds.loaded, fun waits => by cases waits⟩
  · split at taken <;> cases taken
    exact holds.stop
  · split at taken <;> cases taken
    exact holds.targeting _ _
  · cases taken
    exact holds.goto trivial trivial (fun waits => by cases waits)
  · cases taken

theorem record (holds : Convergent first mount) {index : Nat} {identity : SnapshotIdentity}
    (found : mount.observers[index]? = some (.loaded identity)) :
    Convergent first { mount with
      status := (mount.status.observeSnapshot identity true).1
      observers := mount.observers.set index
        (if (mount.status.observeSnapshot identity true).2 then .waking else .returned) } := by
  obtain ⟨bound, _⟩ := List.getElem?_eq_some_iff.mp found
  have valid := holds.loaded identity (List.mem_of_getElem? found)
  have others : ∀ observer, observer ∈ mount.observers → observer ≠ .loaded identity →
      ∀ placed, observer ∈ mount.observers.set index placed := by
    intro observer member different placed
    obtain ⟨place, inside⟩ := List.mem_iff_getElem?.mp member
    refine List.mem_iff_getElem?.mpr ⟨place, ?_⟩
    rw [Tasks.lookup_set found]
    rw [if_neg]
    · exact inside
    · rintro rfl
      rw [found] at inside
      exact different (Option.some.inj inside).symm
  refine ⟨holds.acknowledged, holds.last, holds.underway, .inl valid, ?_, ?_, ?_⟩
  · have ready := holds.ready
    dsimp only
    cases phase : mount.coordinator <;> rw [phase] at ready
    all_goals first | exact valid | exact ready
  · intro kept member
    rcases List.mem_or_eq_of_mem_set member with old | new
    · exact holds.loaded kept old
    · split at new <;> cases new
  · intro waiting
    by_cases wakes : (mount.status.observeSnapshot identity true).2 = true
    · refine .inr (.inr ?_)
      simp only [wakes, if_true]
      exact List.mem_set bound _
    · simp only [InvalidationStatus.observeSnapshot, Bool.true_and, Bool.and_eq_true, bne_iff_ne,
        not_and, not_not] at wakes
      by_cases changed : mount.status.observedSnapshot = identity
      · rcases holds.waiting waiting with same | token | waking
        · exact .inl (changed.symm.trans same)
        · exact .inr (.inl token)
        · exact .inr (.inr (others .waking waking (fun same => by cases same) _))
      · exact .inl (wakes changed).symm

theorem wake (holds : Convergent first mount) {index : Nat} :
    Convergent first { mount with
      invalidationWake := true
      observers := mount.observers.set index .returned } := by
  refine ⟨holds.acknowledged, holds.last, holds.underway, holds.valid, holds.ready, ?_,
    fun _ => .inr (.inl rfl)⟩
  intro identity member
  rcases List.mem_or_eq_of_mem_set member with old | new
  · exact holds.loaded identity old
  · cases new

theorem step (holds : Convergent first mount) {action : MountAction}
    (taken : mount.step action = some later) : Convergent first later := by
  cases action with
  | adopt snapshot =>
      cases taken
      exact ⟨holds.acknowledged, holds.last, holds.underway, holds.valid, holds.ready,
        holds.loaded, holds.waiting⟩
  | cancel =>
      cases taken
      exact ⟨holds.acknowledged, holds.last, holds.underway, holds.valid, holds.ready,
        holds.loaded, holds.waiting⟩
  | observe =>
      simp only [Invalidation.step] at taken
      split at taken
      · split at taken <;> cases taken
        · rename_i valid
          refine ⟨holds.acknowledged, holds.last, holds.underway, holds.valid, holds.ready, ?_,
            fun waiting => ?_⟩
          · intro loaded member
            rcases List.mem_append.mp member with old | new
            · exact holds.loaded loaded old
            · cases List.mem_singleton.mp new
              exact valid
          · rcases holds.waiting waiting with same | token | waking
            · exact .inl same
            · exact .inr (.inl token)
            · exact .inr (.inr (List.mem_append_left _ waking))
        · exact holds
      · cases taken
        exact holds
  | record index =>
      simp only [Invalidation.step] at taken
      split at taken <;> cases taken
      rename_i found
      exact holds.record found
  | wake index =>
      simp only [Invalidation.step] at taken
      split at taken <;> cases taken
      exact holds.wake
  | coordinate outcome => exact holds.coordinate taken

end Convergent

/-- Notifications and wake-ups over every schedule: each notified snapshot was the target of a
clean sweep and current after it, and no recorded change is forgotten. -/
theorem invalidation_converges {first : SnapshotIdentity} {mount : Invalidation}
    (reached : (invalidation first).Reachable mount) :
    Acknowledged mount.events ∧
    mount.status.notifiedSnapshot = lastNotified first mount.events ∧
    (mount.coordinator = .waiting → mount.invalidationWake = false →
      .waking ∉ mount.observers →
        mount.status.observedSnapshot = mount.status.notifiedSnapshot) := by
  have holds : Convergent first mount := reached.invariant
    (fun _ start => .initial start) (fun _ _ _ before taken => before.step taken)
  refine ⟨holds.acknowledged, holds.last, fun waiting empty quiet => ?_⟩
  rcases holds.waiting waiting with same | token | waking
  · exact same
  · rw [empty] at token
    cases token
  · exact absurd waking quiet

namespace SampleMount

def first : SnapshotIdentity := ⟨1, ⟨[1]⟩⟩

def second : SnapshotIdentity := ⟨2, ⟨[2]⟩⟩

def start : Invalidation :=
  ⟨⟨first, first, .active, 0, none⟩, some first, false, false, .waiting, [], []⟩

def schedule : List MountAction :=
  [.adopt (some second), .observe, .observe, .record 0, .wake 0, .coordinate .woken, .record 1,
    .coordinate .proceed, .coordinate .proceed, .coordinate .proceed, .coordinate .proceed,
    .coordinate (.returned (some (.plain ["EBUSY"]))), .coordinate .proceed, .coordinate .proceed,
    .coordinate .proceed, .coordinate .proceed, .coordinate .proceed, .coordinate .timer,
    .coordinate .proceed, .coordinate .proceed, .coordinate .proceed, .coordinate .proceed,
    .coordinate (.returned none), .coordinate .proceed, .coordinate .proceed,
    .coordinate .proceed, .coordinate .proceed, .coordinate .proceed, .coordinate .proceed,
    .coordinate .proceed]

end SampleMount

open SampleMount in
theorem invalidation_converges_second :
    ∃ mount, (invalidation first).after schedule start = some mount ∧
      mount.coordinator = .waiting ∧ mount.status.notifiedSnapshot = second ∧
      mount.status.observedSnapshot = mount.status.notifiedSnapshot := by
  have started : (invalidation first).Reachable start :=
    .start ⟨rfl, rfl, rfl, rfl, rfl, rfl⟩
  have ran : (invalidation first).after schedule start = some _ := rfl
  exact ⟨_, ran, rfl, rfl, (invalidation_converges (started.after ran)).2.2 rfl rfl (by decide)⟩

end S3Disk.Mount
