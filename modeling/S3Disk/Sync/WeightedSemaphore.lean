import S3Disk.Library.Automaton
import S3Disk.Model

/-! `syncutil.WeightedSemaphore`. A step is one critical section, or what a caller does between
two of them; `arrived` and `granted` record the order in which callers asked for weight under
the lock and in which they were given it. -/

namespace S3Disk.Sync

open Concurrent

inductive Task where
  | entering (weight : Int)
  | waiting (weight : Int) (granted : Bool)
  | cancelling (weight : Int) (granted : Bool)
  | holding (weight : Int)
  | failed (error : Err)
  | released (weight : Int)
  deriving DecidableEq

namespace Task

def holds : Task → Int
  | waiting weight true => weight
  | cancelling weight true => weight
  | holding weight => weight
  | _ => 0

def queued : Task → Option Int
  | waiting weight false => some weight
  | cancelling weight false => some weight
  | _ => none

def demand : Task → Option Int
  | entering weight => some weight
  | waiting weight _ => some weight
  | cancelling weight _ => some weight
  | holding weight => some weight
  | released weight => some weight
  | failed _ => none

def isEntering : Task → Bool
  | entering _ => true
  | _ => false

def grant : Task → Task
  | waiting weight _ => waiting weight true
  | cancelling weight _ => cancelling weight true
  | other => other

end Task

structure Waiter where
  task : Nat
  weight : Int
  deriving DecidableEq

structure WeightedSemaphore where
  capacity : Int
  used : Int
  waiters : List Waiter
  limitErr : Option Err
  tasks : List Task
  arrived : List Nat
  granted : List Nat
  panicked : Bool
  deriving DecidableEq

namespace WeightedSemaphore

def newWeightedSemaphore (capacity : Int) (limitErr : Option Err) : WeightedSemaphore :=
  ⟨capacity, 0, [], limitErr, [], [], [], false⟩

variable (semaphore : WeightedSemaphore)

def limitError : Err :=
  semaphore.limitErr.getD (.plain ["syncutil: reservation exceeds capacity"])

def refusal (detail : List Fragment) : Err :=
  ⟨semaphore.limitError.sentinels, semaphore.limitError.message ++ .text ": " :: detail⟩

def invalidReservation : Err := semaphore.refusal ["invalid download byte reservation"]

def exceedsBudget (weight : Int) : Err :=
  semaphore.refusal ["download byte reservation ", .number weight, " exceeds budget ",
    .number semaphore.capacity]

def begin (task : Task) : WeightedSemaphore :=
  { semaphore with tasks := semaphore.tasks ++ [task] }

def move (index : Nat) (task : Task) : WeightedSemaphore :=
  { semaphore with tasks := semaphore.tasks.set index task }

def grantFront (waiter : Waiter) (rest : List Waiter) : WeightedSemaphore :=
  { semaphore with
    used := semaphore.used + waiter.weight
    waiters := rest
    tasks := semaphore.tasks.modify waiter.task Task.grant
    granted := semaphore.granted ++ [waiter.task] }

def grantFrom : List Waiter → WeightedSemaphore → WeightedSemaphore
  | [], semaphore => semaphore
  | waiter :: rest, semaphore =>
      if waiter.weight > semaphore.capacity - semaphore.used then semaphore
      else grantFrom rest (semaphore.grantFront waiter rest)

def grantLocked : WeightedSemaphore := grantFrom semaphore.waiters semaphore

def enter (weight : Int) (ended : Option Err) : WeightedSemaphore :=
  if weight ≤ 0 then semaphore.begin (.failed semaphore.invalidReservation)
  else match ended with
    | some error => semaphore.begin (.failed error)
    | none => semaphore.begin (.entering weight)

def acquireLocked (index : Nat) (weight : Int) (ended : Option Err) : WeightedSemaphore :=
  match ended with
  | some error => semaphore.move index (.failed error)
  | none =>
      if weight > semaphore.capacity then
        semaphore.move index (.failed (semaphore.exceedsBudget weight))
      else if semaphore.waiters.length = 0 ∧ weight ≤ semaphore.capacity - semaphore.used then
        { semaphore with
          used := semaphore.used + weight
          tasks := semaphore.tasks.set index (.holding weight)
          arrived := semaphore.arrived ++ [index]
          granted := semaphore.granted ++ [index] }
      else
        { semaphore with
          waiters := semaphore.waiters ++ [⟨index, weight⟩]
          tasks := semaphore.tasks.set index (.waiting weight false)
          arrived := semaphore.arrived ++ [index] }

def withdraw (index : Nat) (weight : Int) (granted : Bool) (error : Err) : WeightedSemaphore :=
  let failed := semaphore.move index (.failed error)
  -- A grant that raced with the cancellation goes to the next waiter.
  let left : WeightedSemaphore :=
    if granted then { failed with used := semaphore.used - weight }
    else { failed with waiters := semaphore.waiters.filter fun waiter => waiter.task ≠ index }
  left.grantLocked

def release (index : Nat) (weight : Int) : WeightedSemaphore :=
  if weight ≤ 0 ∨ weight > semaphore.used then { semaphore with panicked := true }
  else
    let left : WeightedSemaphore :=
      { semaphore.move index (.released weight) with used := semaphore.used - weight }
    left.grantLocked

end WeightedSemaphore

inductive Action where
  | acquire (weight : Int) (ended : Option Err)
  | lock (index : Nat) (ended : Option Err)
  | ready (index : Nat)
  | done (index : Nat)
  | withdraw (index : Nat) (error : Err)
  | release (index : Nat)

namespace WeightedSemaphore

/-- A reservation is given back by the call that got it, once and with its weight. -/
def step (semaphore : WeightedSemaphore) : Action → Option WeightedSemaphore
  | .acquire weight ended => some (semaphore.enter weight ended)
  | .lock index ended => match semaphore.tasks[index]? with
      | some (.entering weight) => some (semaphore.acquireLocked index weight ended)
      | _ => none
  | .ready index => match semaphore.tasks[index]? with
      | some (.waiting weight true) => some (semaphore.move index (.holding weight))
      | _ => none
  | .done index => match semaphore.tasks[index]? with
      | some (.waiting weight granted) => some (semaphore.move index (.cancelling weight granted))
      | _ => none
  | .withdraw index error => match semaphore.tasks[index]? with
      | some (.cancelling weight granted) => some (semaphore.withdraw index weight granted error)
      | _ => none
  | .release index => match semaphore.tasks[index]? with
      | some (.holding weight) => some (semaphore.release index weight)
      | _ => none

def automaton (capacity : Int) (limitErr : Option Err) : Automaton WeightedSemaphore Action where
  initial semaphore := semaphore = newWeightedSemaphore capacity limitErr
  step := step

structure Coherent (semaphore : WeightedSemaphore) : Prop where
  positive : ∀ (index : Nat) (task : Task) (weight : Int), semaphore.tasks[index]? = some task →
    task.demand = some weight → 0 < weight
  balance : semaphore.used = Tasks.total Task.holds semaphore.tasks
  bounded : semaphore.used ≤ max semaphore.capacity 0
  queue : ∀ index weight, (⟨index, weight⟩ : Waiter) ∈ semaphore.waiters ↔
    ∃ task, semaphore.tasks[index]? = some task ∧ task.queued = some weight
  order : (semaphore.granted ++ semaphore.waiters.map Waiter.task).Sublist semaphore.arrived
  once : semaphore.arrived.Nodup
  entered : ∀ index ∈ semaphore.arrived, ∃ task, semaphore.tasks[index]? = some task ∧
    task.isEntering = false
  calm : semaphore.panicked = false

def Blocked (semaphore : WeightedSemaphore) : Prop :=
  ∀ waiter rest, semaphore.waiters = waiter :: rest →
    semaphore.capacity - semaphore.used < waiter.weight

variable {semaphore : WeightedSemaphore} {index : Nat} {old new : Task} {weight : Int}

theorem Coherent.fresh {capacity : Int} {limitErr : Option Err} :
    Coherent (newWeightedSemaphore capacity limitErr) where
  positive := by simp [newWeightedSemaphore]
  balance := rfl
  bounded := Int.le_max_right capacity 0
  queue := by simp [newWeightedSemaphore]
  order := by simp [newWeightedSemaphore]
  once := by simp [newWeightedSemaphore]
  entered := by simp [newWeightedSemaphore]
  calm := rfl

theorem Coherent.lt_length (coherent : Coherent semaphore) (arrived : index ∈ semaphore.arrived) :
    index < semaphore.tasks.length := by
  obtain ⟨task, found, _⟩ := coherent.entered index arrived
  exact (List.getElem?_eq_some_iff.mp found).1

theorem Coherent.begin (coherent : Coherent semaphore) (idle : new.queued = none)
    (empty : new.holds = 0) (positive : ∀ weight, new.demand = some weight → 0 < weight) :
    Coherent (semaphore.begin new) where
  positive := by
    intro other task weight found demand
    rw [WeightedSemaphore.begin, Tasks.lookup_push] at found
    split at found
    · cases found
      exact positive weight demand
    · exact coherent.positive other task weight found demand
  balance := by
    simp only [WeightedSemaphore.begin, Tasks.total_push, empty, Int.add_zero]
    exact coherent.balance
  bounded := coherent.bounded
  queue := by
    intro other weight
    simp only [WeightedSemaphore.begin, Tasks.lookup_push]
    split
    case isTrue last =>
      subst last
      refine ⟨fun member => ?_, fun found => ?_⟩
      · obtain ⟨task, found, _⟩ := (coherent.queue _ weight).mp member
        simp at found
      · obtain ⟨task, found, queued⟩ := found
        cases found
        rw [idle] at queued
        cases queued
    case isFalse => exact coherent.queue other weight
  order := coherent.order
  once := coherent.once
  entered := by
    intro other arrived
    obtain ⟨task, found, entered⟩ := coherent.entered other arrived
    have before := coherent.lt_length arrived
    refine ⟨task, ?_, entered⟩
    rw [WeightedSemaphore.begin, Tasks.lookup_push, if_neg (by omega)]
    exact found
  calm := coherent.calm

theorem Coherent.positive_set (coherent : Coherent semaphore)
    (found : semaphore.tasks[index]? = some old)
    (positive : ∀ weight, new.demand = some weight → 0 < weight) :
    ∀ (other : Nat) (task : Task) (weight : Int),
      (semaphore.tasks.set index new)[other]? = some task → task.demand = some weight →
        0 < weight := by
  intro other task weight looked demand
  rw [Tasks.lookup_set found] at looked
  split at looked
  · cases looked
    exact positive weight demand
  · exact coherent.positive other task weight looked demand

theorem Coherent.move (coherent : Coherent semaphore) (found : semaphore.tasks[index]? = some old)
    (next : Task) (used : Int) (queued : next.queued = old.queued) (entered : next.isEntering = false)
    (positive : ∀ weight, next.demand = some weight → 0 < weight)
    (balance : used = semaphore.used - old.holds + next.holds)
    (bounded : used ≤ max semaphore.capacity 0) :
    Coherent { semaphore.move index next with used := used } where
  positive := coherent.positive_set found positive
  balance := by
    simp only [WeightedSemaphore.move, Tasks.total_set found, ← coherent.balance]
    exact balance
  bounded := bounded
  queue := by
    intro other weight
    simp only [WeightedSemaphore.move, Tasks.lookup_set found, coherent.queue other weight]
    split
    case isTrue same =>
      subst same
      simp [found, queued]
    case isFalse => exact Iff.rfl
  order := coherent.order
  once := coherent.once
  entered := by
    intro other arrived
    simp only [WeightedSemaphore.move, Tasks.lookup_set found]
    split
    · exact ⟨next, rfl, entered⟩
    · exact coherent.entered other arrived
  calm := coherent.calm

theorem Coherent.not_arrived (coherent : Coherent semaphore)
    (found : semaphore.tasks[index]? = some (.entering weight)) : index ∉ semaphore.arrived := by
  intro arrived
  obtain ⟨task, looked, entered⟩ := coherent.entered index arrived
  rw [found] at looked
  cases looked
  cases entered

theorem Coherent.nodup_arrived (coherent : Coherent semaphore)
    (found : semaphore.tasks[index]? = some (.entering weight)) :
    (semaphore.arrived ++ [index]).Nodup := by
  refine List.nodup_append.mpr ⟨coherent.once, by simp, ?_⟩
  intro other arrived last member
  simp only [List.mem_singleton] at member
  subst member
  rintro rfl
  exact coherent.not_arrived found arrived

theorem Coherent.entered_set (coherent : Coherent semaphore)
    (found : semaphore.tasks[index]? = some old) (entered : new.isEntering = false) :
    ∀ other ∈ semaphore.arrived ++ [index], ∃ task,
      (semaphore.tasks.set index new)[other]? = some task ∧ task.isEntering = false := by
  intro other arrived
  rw [Tasks.lookup_set found]
  split
  case isTrue => exact ⟨new, rfl, entered⟩
  case isFalse different =>
    simp only [List.mem_append, List.mem_singleton, different, or_false] at arrived
    exact coherent.entered other arrived

theorem Coherent.holdAtOnce (coherent : Coherent semaphore)
    (found : semaphore.tasks[index]? = some (.entering weight)) (empty : semaphore.waiters = [])
    (fits : weight ≤ semaphore.capacity - semaphore.used) :
    Coherent { semaphore with
      used := semaphore.used + weight
      tasks := semaphore.tasks.set index (.holding weight)
      arrived := semaphore.arrived ++ [index]
      granted := semaphore.granted ++ [index] } where
  positive := coherent.positive_set found fun _ asked => coherent.positive index _ _ found asked
  balance := by
    simp only [Tasks.total_set found, ← coherent.balance, Task.holds]
    omega
  bounded := by
    have : semaphore.used + weight ≤ semaphore.capacity := by omega
    exact Int.le_trans this (Int.le_max_left _ 0)
  queue := by
    intro other weight
    simp only [Tasks.lookup_set found, coherent.queue other weight]
    split
    case isTrue same =>
      subst same
      simp [found, Task.queued]
    case isFalse => exact Iff.rfl
  order := by
    have order := coherent.order
    simp only [empty, List.map_nil, List.append_nil] at order ⊢
    exact order.append (List.Sublist.refl _)
  once := coherent.nodup_arrived found
  entered := coherent.entered_set found rfl
  calm := coherent.calm

theorem Coherent.enqueue (coherent : Coherent semaphore)
    (found : semaphore.tasks[index]? = some (.entering weight)) :
    Coherent { semaphore with
      waiters := semaphore.waiters ++ [⟨index, weight⟩]
      tasks := semaphore.tasks.set index (.waiting weight false)
      arrived := semaphore.arrived ++ [index] } where
  positive := coherent.positive_set found fun _ asked => coherent.positive index _ _ found asked
  balance := by
    simp only [Tasks.total_set found, ← coherent.balance, Task.holds]
    omega
  bounded := coherent.bounded
  queue := by
    intro other demanded
    simp only [List.mem_append, List.mem_singleton, Waiter.mk.injEq, Tasks.lookup_set found,
      coherent.queue other demanded]
    split
    case isTrue same =>
      subst same
      simp [found, Task.queued, eq_comm]
    case isFalse different => simp [different]
  order := by
    simp only [List.map_append, List.map_cons, List.map_nil, ← List.append_assoc]
    exact coherent.order.append (List.Sublist.refl _)
  once := coherent.nodup_arrived found
  entered := coherent.entered_set found rfl
  calm := coherent.calm

theorem Coherent.leave (coherent : Coherent semaphore) {error : Err}
    (found : semaphore.tasks[index]? = some (.cancelling weight false)) :
    Coherent { semaphore.move index (.failed error) with
      waiters := semaphore.waiters.filter fun waiter => waiter.task ≠ index } where
  positive := coherent.positive_set found (by simp [Task.demand])
  balance := by
    simp only [WeightedSemaphore.move, Tasks.total_set found, ← coherent.balance, Task.holds]
    omega
  bounded := coherent.bounded
  queue := by
    intro other demanded
    simp only [WeightedSemaphore.move, List.mem_filter, Tasks.lookup_set found,
      coherent.queue other demanded]
    split
    case isTrue same => simp [same, Task.queued]
    case isFalse different => simp [different]
  order := by
    have fewer : ((semaphore.waiters.filter fun waiter => waiter.task ≠ index).map
        Waiter.task).Sublist (semaphore.waiters.map Waiter.task) :=
      (List.filter_sublist).map Waiter.task
    exact ((List.Sublist.refl semaphore.granted).append fewer).trans coherent.order
  once := coherent.once
  entered := by
    intro other arrived
    exact coherent.entered_set found rfl other (List.mem_append_left _ arrived)
  calm := coherent.calm

theorem Coherent.not_queued_again (coherent : Coherent semaphore) {waiter : Waiter}
    {rest : List Waiter} (front : semaphore.waiters = waiter :: rest) (demanded : Int) :
    (⟨waiter.task, demanded⟩ : Waiter) ∉ rest := by
  intro again
  have distinct := (List.nodup_append.mp (coherent.order.nodup coherent.once)).2.1
  rw [front, List.map_cons, List.nodup_cons] at distinct
  exact distinct.1 (List.mem_map.mpr ⟨_, again, rfl⟩)

theorem Coherent.grantFront (coherent : Coherent semaphore) {waiter : Waiter} {rest : List Waiter}
    (front : semaphore.waiters = waiter :: rest)
    (fits : waiter.weight ≤ semaphore.capacity - semaphore.used) :
    Coherent (semaphore.grantFront waiter rest) := by
  obtain ⟨task, found, queued⟩ := (coherent.queue waiter.task waiter.weight).mp (by simp [front])
  -- The waiter's call waits, or is on its way to withdraw.
  have holds : task.grant.holds = task.holds + waiter.weight ∧ task.grant.queued = none ∧
      task.grant.demand = task.demand ∧ task.grant.isEntering = false := by
    cases task with
    | waiting weight granted =>
        cases granted <;>
          simp_all [Task.queued, Task.grant, Task.holds, Task.demand, Task.isEntering]
    | cancelling weight granted =>
        cases granted <;>
          simp_all [Task.queued, Task.grant, Task.holds, Task.demand, Task.isEntering]
    | _ => simp [Task.queued] at queued
  obtain ⟨holds, idle, demand, entered⟩ := holds
  unfold WeightedSemaphore.grantFront
  rw [Tasks.modify_found found]
  exact {
    positive := coherent.positive_set found fun weight asked =>
      coherent.positive _ _ weight found (demand ▸ asked)
    balance := by
      simp only [Tasks.total_set found, ← coherent.balance, holds]
      omega
    bounded := by
      have : semaphore.used + waiter.weight ≤ semaphore.capacity := by omega
      exact Int.le_trans this (Int.le_max_left _ 0)
    queue := by
      intro other demanded
      simp only [Tasks.lookup_set found]
      split
      case isTrue same =>
        subst same
        simp [idle, coherent.not_queued_again front demanded]
      case isFalse different =>
        rw [← coherent.queue other demanded, front, List.mem_cons]
        refine ⟨.inr, fun member => member.resolve_left ?_⟩
        rintro rfl
        exact different rfl
    order := by
      have order := coherent.order
      rw [front] at order
      simpa using order
    once := coherent.once
    entered := fun other arrived => coherent.entered_set found entered other
      (List.mem_append_left _ arrived)
    calm := coherent.calm }

theorem Coherent.grantFrom {waiters : List Waiter} (coherent : Coherent semaphore)
    (queue : semaphore.waiters = waiters) :
    Coherent (grantFrom waiters semaphore) ∧ Blocked (grantFrom waiters semaphore) := by
  induction waiters generalizing semaphore with
  | nil => exact ⟨coherent, fun waiter rest front => by simp [grantFrom, queue] at front⟩
  | cons waiter rest ih =>
      unfold WeightedSemaphore.grantFrom
      split
      case isTrue blocked =>
        refine ⟨coherent, fun first others front => ?_⟩
        rw [queue] at front
        cases front
        exact blocked
      case isFalse fits => exact ih (coherent.grantFront queue (by omega)) rfl

structure Safe (capacity : Int) (semaphore : WeightedSemaphore) : Prop where
  coherent : Coherent semaphore
  blocked : Blocked semaphore
  capacity : semaphore.capacity = capacity

variable {capacity : Int}

theorem capacity_grantFrom {waiters : List Waiter} :
    (grantFrom waiters semaphore).capacity = semaphore.capacity := by
  induction waiters generalizing semaphore with
  | nil => rfl
  | cons waiter rest ih =>
      unfold grantFrom
      split
      · rfl
      · exact ih

theorem Safe.grantLocked (coherent : Coherent semaphore) (kept : semaphore.capacity = capacity) :
    Safe capacity semaphore.grantLocked := by
  obtain ⟨coherent, blocked⟩ := coherent.grantFrom rfl
  exact ⟨coherent, blocked, capacity_grantFrom.trans kept⟩

theorem Safe.enter (safe : Safe capacity semaphore) {ended : Option Err} :
    Safe capacity (semaphore.enter weight ended) := by
  unfold WeightedSemaphore.enter
  split
  · exact ⟨safe.coherent.begin rfl rfl (by simp [Task.demand]), safe.blocked, safe.capacity⟩
  case isFalse positive =>
    cases ended with
    | some error =>
        exact ⟨safe.coherent.begin rfl rfl (by simp [Task.demand]), safe.blocked, safe.capacity⟩
    | none =>
        refine ⟨safe.coherent.begin rfl rfl ?_, safe.blocked, safe.capacity⟩
        intro asked demand
        cases demand
        omega

theorem Safe.move (safe : Safe capacity semaphore) (found : semaphore.tasks[index]? = some old)
    (queued : new.queued = old.queued) (entered : new.isEntering = false)
    (demand : ∀ weight, new.demand = some weight → old.demand = some weight)
    (holds : new.holds = old.holds) : Safe capacity (semaphore.move index new) where
  coherent := safe.coherent.move found new semaphore.used queued entered
    (fun weight asked => safe.coherent.positive index old weight found (demand weight asked))
    (by rw [holds]; exact (Int.sub_add_cancel _ _).symm) safe.coherent.bounded
  blocked := safe.blocked
  capacity := safe.capacity

theorem Safe.acquireLocked (safe : Safe capacity semaphore) {ended : Option Err}
    (found : semaphore.tasks[index]? = some (.entering weight)) :
    Safe capacity (semaphore.acquireLocked index weight ended) := by
  have fails : ∀ error, Safe capacity (semaphore.move index (.failed error)) := fun error =>
    safe.move found rfl rfl (by simp [Task.demand]) rfl
  unfold WeightedSemaphore.acquireLocked
  cases ended with
  | some error => exact fails error
  | none =>
      dsimp only
      split
      · exact fails _
      split
      case isTrue free =>
        have empty : semaphore.waiters = [] := List.length_eq_zero_iff.mp free.1
        refine ⟨safe.coherent.holdAtOnce found empty free.2, ?_, safe.capacity⟩
        intro waiter rest front
        dsimp only at front
        rw [empty] at front
        cases front
      case isFalse full =>
        refine ⟨safe.coherent.enqueue found, ?_, safe.capacity⟩
        intro waiter rest front
        cases before : semaphore.waiters with
        | nil =>
            simp only [before, List.length_nil, true_and, Int.not_le] at full
            simp only [before, List.nil_append, List.cons.injEq] at front
            rw [← front.1]
            exact full
        | cons first others =>
            simp only [before, List.cons_append, List.cons.injEq] at front
            exact safe.blocked waiter others (front.1 ▸ before)

theorem Safe.withdraw (safe : Safe capacity semaphore) {granted : Bool} {error : Err}
    (found : semaphore.tasks[index]? = some (.cancelling weight granted)) :
    Safe capacity (semaphore.withdraw index weight granted error) := by
  have positive := safe.coherent.positive index _ weight found rfl
  have bounded := safe.coherent.bounded
  cases granted with
  | true =>
      have moved : Coherent { semaphore.move index (.failed error) with
          used := semaphore.used - weight } :=
        safe.coherent.move found (.failed error) _ rfl rfl (by simp [Task.demand])
          (by simp [Task.holds]) (by omega)
      exact Safe.grantLocked moved safe.capacity
  | false => exact Safe.grantLocked (safe.coherent.leave found) safe.capacity

theorem Coherent.holds_nonneg (coherent : Coherent semaphore) :
    ∀ task ∈ semaphore.tasks, 0 ≤ task.holds := by
  intro task member
  obtain ⟨index, found⟩ := List.mem_iff_getElem?.mp member
  have positive := coherent.positive index task
  cases task with
  | waiting weight granted =>
      have := positive weight found rfl
      cases granted <;> simp only [Task.holds] <;> omega
  | cancelling weight granted =>
      have := positive weight found rfl
      cases granted <;> simp only [Task.holds] <;> omega
  | holding weight =>
      have := positive weight found rfl
      simp only [Task.holds]
      omega
  | _ => exact Int.le_refl 0

theorem Safe.release (safe : Safe capacity semaphore)
    (found : semaphore.tasks[index]? = some (.holding weight)) :
    Safe capacity (semaphore.release index weight) := by
  have positive := safe.coherent.positive index _ weight found rfl
  have bounded := safe.coherent.bounded
  have part : weight ≤ semaphore.used := by
    rw [safe.coherent.balance]
    exact Tasks.le_total safe.coherent.holds_nonneg found
  unfold WeightedSemaphore.release
  rw [if_neg (by omega)]
  have moved : Coherent { semaphore.move index (.released weight) with
      used := semaphore.used - weight } := by
    refine safe.coherent.move found (.released weight) _ rfl rfl ?_ (by simp [Task.holds]) (by omega)
    intro asked demand
    cases demand
    exact positive
  exact Safe.grantLocked moved safe.capacity

theorem Safe.step (safe : Safe capacity semaphore) {action : Action} {later : WeightedSemaphore}
    (taken : semaphore.step action = some later) : Safe capacity later := by
  cases action with
  | acquire weight ended =>
      cases taken
      exact safe.enter
  | lock index ended =>
      simp only [WeightedSemaphore.step] at taken
      split at taken
      case h_1 weight found =>
        cases taken
        exact safe.acquireLocked found
      · cases taken
  | ready index =>
      simp only [WeightedSemaphore.step] at taken
      split at taken
      case h_1 weight found =>
        cases taken
        exact safe.move found rfl rfl (fun _ asked => asked) rfl
      · cases taken
  | done index =>
      simp only [WeightedSemaphore.step] at taken
      split at taken
      case h_1 weight granted found =>
        cases taken
        cases granted <;> exact safe.move found rfl rfl (fun _ asked => asked) rfl
      · cases taken
  | withdraw index error =>
      simp only [WeightedSemaphore.step] at taken
      split at taken
      case h_1 weight granted found =>
        cases taken
        exact safe.withdraw found
      · cases taken
  | release index =>
      simp only [WeightedSemaphore.step] at taken
      split at taken
      case h_1 weight found =>
        cases taken
        exact safe.release found
      · cases taken

theorem Safe.reachable {limitErr : Option Err}
    (reached : (automaton capacity limitErr).Reachable semaphore) : Safe capacity semaphore := by
  refine reached.invariant ?_ fun _ _ _ safe taken => safe.step taken
  rintro _ rfl
  refine ⟨.fresh, ?_, rfl⟩
  intro waiter rest front
  cases front

theorem Coherent.failed (coherent : Coherent semaphore) {error : Err}
    (found : semaphore.tasks[index]? = some (.failed error)) :
    semaphore.used = Tasks.total Task.holds (semaphore.tasks.eraseIdx index) ∧
      ∀ waiter ∈ semaphore.waiters, waiter.task ≠ index := by
  constructor
  · rw [Tasks.total_eraseIdx found, ← coherent.balance]
    simp [Task.holds]
  · rintro waiter member rfl
    obtain ⟨task, looked, queued⟩ := (coherent.queue waiter.task waiter.weight).mp member
    rw [found] at looked
    cases looked
    cases queued

end WeightedSemaphore

end S3Disk.Sync
