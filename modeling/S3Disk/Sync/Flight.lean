import S3Disk.Library.Automaton
import S3Disk.Model

/-! `syncutil.FlightGroup`. A step is one critical section, one callback of a finalizer, or what
a caller does outside of the lock. Calls of `Do` and loads are numbered in the order of their
first steps; `ran` records the callbacks that were started, the last one first. -/

namespace S3Disk.Sync

open Concurrent

inductive Loaded where
  | returned (data : Bytes) (release : Bool) (err : Option Err)
  | panicked (value : List Fragment)
  deriving DecidableEq

namespace Loaded

def data : Loaded → Bytes
  | returned data _ _ => data
  | panicked _ => []

def release : Loaded → Bool
  | returned _ release _ => release
  | panicked _ => false

def err : Loaded → Option Err
  | returned _ _ err => err
  | panicked value => some (.plain (.text "s3disk: chunk loader panic: " :: value))

end Loaded

inductive Callback where
  | resourceRelease
  | afterRelease
  deriving DecidableEq

inductive Runner where
  | loading
  | finalizing (callbacks : List Callback)
  | finished
  deriving DecidableEq

/-- A load. `resourceRelease` and `afterRelease` say whether the call still has the function,
`observed` whether `Do` was given one to run after the release. -/
structure FlightCall (K : Type) where
  key : K
  done : Bool
  data : Option Bytes
  err : Option Err
  cancelled : Bool
  users : Int
  completed : Bool
  finalized : Bool
  resourceRelease : Bool
  afterRelease : Bool
  runner : Runner
  loaded : Option Loaded
  observed : Bool

namespace FlightCall

variable {K : Type} (call : FlightCall K)

def start (key : K) (afterRelease : Bool) : FlightCall K where
  key := key
  done := false
  data := none
  err := none
  cancelled := false
  users := 1
  completed := false
  finalized := false
  resourceRelease := false
  afterRelease := afterRelease
  runner := .loading
  loaded := none
  observed := afterRelease

def callbacks : List Callback :=
  (if call.resourceRelease then [.resourceRelease] else []) ++
    if call.afterRelease then [.afterRelease] else []

def takeFinalizerLocked : FlightCall K × List Callback :=
  if call.finalized ∨ ¬ call.completed ∨ (call.err = none ∧ call.users > 0) then (call, [])
  else ({ call with finalized := true, resourceRelease := false, afterRelease := false },
    call.callbacks)

def record (loaded : Loaded) : FlightCall K :=
  { call with
    data := if loaded.err = none then some loaded.data else call.data
    err := loaded.err
    resourceRelease := loaded.release
    completed := true
    loaded := some loaded }

def complete (loaded : Loaded) : FlightCall K :=
  let taken := (call.record loaded).takeFinalizerLocked
  { taken.1 with cancelled := true, runner := .finalizing taken.2 }

def releaseUser : FlightCall K × List Callback :=
  let users := call.users - 1
  { call with
    users := users
    data := if users = 0 then none else call.data }.takeFinalizerLocked

def abandon : FlightCall K × List Callback :=
  let users := call.users - 1
  { call with
    users := users
    data := if call.completed ∧ users = 0 then none else call.data
    cancelled := call.cancelled || (!call.completed && users = 0) }.takeFinalizerLocked

end FlightCall

/-- Where one call of `Do` is, and the lease it leads to. A caller that ended has returned the
error of its context, or has released its lease. -/
inductive Caller where
  | waiting (call : Nat)
  | abandoning (call : Nat)
  | leased (call : Nat) (data : Option Bytes)
  | releasing (call : Nat)
  | refused (call : Nat) (err : Err)
  | finalizing (call : Nat) (callbacks : List Callback) (result : Option Err)
  | ended (result : Option Err)
  deriving DecidableEq

structure FlightGroup (K : Type) where
  calls : K → Option Nat
  flights : List (FlightCall K)
  callers : List Caller
  ran : List (Nat × Callback)
  panicked : Bool

namespace FlightGroup

variable {K : Type} (group : FlightGroup K)

def empty : FlightGroup K := ⟨fun _ => none, [], [], [], false⟩

def settle (index : Nat) (caller : Caller) (call : Nat) (flight : FlightCall K) : FlightGroup K :=
  { group with
    callers := group.callers.set index caller
    flights := group.flights.set call flight }

def move (index : Nat) (caller : Caller) : FlightGroup K :=
  { group with callers := group.callers.set index caller }

def join (call : Nat) (flight : FlightCall K) : FlightGroup K :=
  { group with
    callers := group.callers ++ [.waiting call]
    flights := group.flights.set call { flight with users := flight.users + 1 } }

section Keys

variable [DecidableEq K]

def launch (key : K) (afterRelease : Bool) : FlightGroup K :=
  { group with
    calls := fun other => if other = key then some group.flights.length else group.calls other
    callers := group.callers ++ [.waiting group.flights.length]
    flights := group.flights ++ [.start key afterRelease] }

def enter (key : K) (afterRelease : Bool) : FlightGroup K :=
  match group.calls key with
  | none => group.launch key afterRelease
  | some call => match group.flights[call]? with
      | none => group.launch key afterRelease
      | some flight =>
          if flight.users > 0 then group.join call flight
          -- The loader that all its callers abandoned winds down on its own.
          else group.launch key afterRelease

def complete (call : Nat) (flight : FlightCall K) (loaded : Loaded) : FlightGroup K :=
  { group with
    calls := fun other =>
      if other = flight.key ∧ group.calls flight.key = some call then none else group.calls other
    flights := group.flights.set call (flight.complete loaded) }

end Keys

def receive (call : Nat) (flight : FlightCall K) : Caller :=
  match flight.err with
  | some err => .refused call err
  | none => .leased call flight.data

def abandon (index call : Nat) (flight : FlightCall K) (error : Err) : FlightGroup K :=
  if flight.users ≤ 0 then group.move index (.ended (some error))
  else group.settle index (.finalizing call flight.abandon.2 (some error)) call flight.abandon.1

def releaseUser (index call : Nat) (flight : FlightCall K) : FlightGroup K :=
  if flight.users ≤ 0 then { group with panicked := true }
  else group.settle index (.finalizing call flight.releaseUser.2 none) call flight.releaseUser.1

end FlightGroup

inductive FlightAction (K : Type) where
  | enter (key : K) (afterRelease : Bool) (ended : Option Err)
  | load (call : Nat) (loaded : Loaded)
  | runCallback (call : Nat)
  | close (call : Nat)
  | ready (index : Nat)
  | done (index : Nat)
  | abandon (index : Nat) (error : Err)
  | release (index : Nat)
  | releaseUser (index : Nat)
  | callback (index : Nat)
  | finish (index : Nat)

namespace FlightGroup

variable {K : Type} [DecidableEq K]

def step (group : FlightGroup K) : FlightAction K → Option (FlightGroup K)
  | .enter key afterRelease ended => match ended with
      | some error => some { group with callers := group.callers ++ [.ended (some error)] }
      | none => some (group.enter key afterRelease)
  | .load call loaded => match group.flights[call]? with
      | none => none
      | some flight =>
          if flight.runner = .loading then some (group.complete call flight loaded) else none
  | .runCallback call => match group.flights[call]? with
      | none => none
      | some flight => match flight.runner with
          | .finalizing (callback :: rest) => some { group with
              flights := group.flights.set call { flight with runner := .finalizing rest }
              ran := (call, callback) :: group.ran }
          | _ => none
  | .close call => match group.flights[call]? with
      | none => none
      | some flight =>
          if flight.runner = .finalizing [] then some { group with
            flights := group.flights.set call { flight with done := true, runner := .finished } }
          else none
  | .ready index => match group.callers[index]? with
      | some (.waiting call) => match group.flights[call]? with
          | none => none
          | some flight =>
              if flight.done then some (group.move index (receive call flight)) else none
      | _ => none
  | .done index => match group.callers[index]? with
      | some (.waiting call) => some (group.move index (.abandoning call))
      | _ => none
  | .abandon index error => match group.callers[index]? with
      | some (.abandoning call) =>
          group.flights[call]?.map fun flight => group.abandon index call flight error
      | _ => none
  | .release index => match group.callers[index]? with
      | some (.leased call _) => some (group.move index (.releasing call))
      -- `once` has no effect on a lease that was released before.
      | some _ => some group
      | none => none
  | .releaseUser index => match group.callers[index]? with
      | some (.releasing call) =>
          group.flights[call]?.map fun flight => group.releaseUser index call flight
      | _ => none
  | .callback index => match group.callers[index]? with
      | some (.finalizing call (callback :: rest) result) => some { group with
          callers := group.callers.set index (.finalizing call rest result)
          ran := (call, callback) :: group.ran }
      | _ => none
  | .finish index => match group.callers[index]? with
      | some (.finalizing _ [] result) => some (group.move index (.ended result))
      | _ => none

def automaton (K : Type) [DecidableEq K] : Automaton (FlightGroup K) (FlightAction K) where
  initial group := group = empty
  step := step

end FlightGroup

end S3Disk.Sync
