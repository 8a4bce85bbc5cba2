import S3Disk.Sync.Flight

/-! One load of a flight group: how its users and its callbacks are counted, and what each
critical section keeps of that. -/

namespace S3Disk.Sync

open Concurrent

/-- What this caller adds to the users of a load. A caller that got the load's error stays
counted: nothing releases it. -/
def Caller.uses (call : Nat) : Caller → Int
  | .waiting used => if used = call then 1 else 0
  | .abandoning used => if used = call then 1 else 0
  | .leased used _ => if used = call then 1 else 0
  | .releasing used => if used = call then 1 else 0
  | .refused used _ => if used = call then 1 else 0
  | .finalizing _ _ _ => 0
  | .ended _ => 0

def Caller.owes (call : Nat) (callback : Callback) : Caller → Int
  | .finalizing used callbacks _ => if used = call then callbacks.count callback else 0
  | _ => 0

def Caller.call : Caller → Option Nat
  | .waiting call => some call
  | .abandoning call => some call
  | .leased call _ => some call
  | .releasing call => some call
  | .refused call _ => some call
  | .finalizing call _ _ => some call
  | .ended _ => none

def Runner.owes (callback : Callback) : Runner → Int
  | .finalizing callbacks => callbacks.count callback
  | _ => 0

theorem Caller.uses_nonneg (call : Nat) (caller : Caller) : 0 ≤ caller.uses call := by
  cases caller <;> grind [Caller.uses]

theorem Caller.owes_nonneg (call : Nat) (callback : Callback) (caller : Caller) :
    0 ≤ caller.owes call callback := by
  cases caller <;> grind [Caller.owes]

theorem Runner.owes_nonneg (callback : Callback) (runner : Runner) : 0 ≤ runner.owes callback := by
  cases runner <;> simp only [Runner.owes] <;> omega

theorem Caller.uses_other {call : Nat} {caller : Caller} (other : caller.call ≠ some call) :
    caller.uses call = 0 := by
  cases caller <;> simp_all [Caller.uses, Caller.call]

theorem Caller.owes_other {call : Nat} {callback : Callback} {caller : Caller}
    (other : caller.call ≠ some call) : caller.owes call callback = 0 := by
  cases caller <;> simp_all [Caller.owes, Caller.call]

namespace FlightCall

variable {K : Type}

def provides (flight : FlightCall K) : Callback → Int
  | .resourceRelease => if flight.loaded.any Loaded.release then 1 else 0
  | .afterRelease => if flight.observed then 1 else 0

/-- A load between the writes of a critical section, when so many callers use it and its
callbacks were run or are owed by callers so often. -/
structure Draft (flight : FlightCall K) (users : Int) (owed : Callback → Int) : Prop where
  counted : flight.users = users
  nonneg : 0 ≤ users
  loaded : flight.loaded.isSome = flight.completed
  runner : flight.runner = .loading ↔ flight.completed = false
  done : flight.done = true → flight.completed = true
  flags : flight.finalized = false → flight.afterRelease = flight.observed ∧
    flight.resourceRelease = flight.loaded.any Loaded.release
  account : ∀ callback, owed callback + flight.runner.owes callback =
    if flight.finalized then flight.provides callback else 0
  err : flight.err = flight.loaded.bind Loaded.err
  bytes : ∀ loaded, flight.loaded = some loaded → loaded.err = none → 0 < users →
    flight.data = some loaded.data
  early : flight.finalized = true → flight.completed = true ∧ (flight.err ≠ none ∨ users = 0)
  alive : flight.completed = false → (flight.cancelled = true ↔ users = 0)

structure Sound (flight : FlightCall K) (users : Int) (owed : Callback → Int) : Prop
    extends Draft flight users owed where
  due : flight.completed = true → (flight.err ≠ none ∨ users = 0) → flight.finalized = true

variable {flight : FlightCall K} {users : Int} {owed : Callback → Int}

def keeps (flight : FlightCall K) : Callback → Bool
  | .resourceRelease => flight.resourceRelease
  | .afterRelease => flight.afterRelease

theorem count_callbacks (callback : Callback) :
    (flight.callbacks.count callback : Int) = if flight.keeps callback then 1 else 0 := by
  unfold FlightCall.callbacks keeps
  cases callback <;> cases flight.resourceRelease <;> cases flight.afterRelease <;> rfl

theorem Draft.take (draft : Draft flight users owed) :
    Sound flight.takeFinalizerLocked.1 users
      fun callback => owed callback + flight.takeFinalizerLocked.2.count callback := by
  unfold takeFinalizerLocked
  split
  case isTrue keep =>
    refine ⟨?_, ?_⟩
    · simpa using draft
    · intro completed due
      rw [draft.counted] at keep
      rcases keep with finalized | open' | ⟨succeeded, used⟩
      · exact finalized
      · exact absurd completed open'
      · rcases due with failed | unused
        · exact absurd succeeded failed
        · omega
  case isFalse take =>
    simp only [not_or, Bool.not_eq_true, Bool.not_eq_false, not_and] at take
    obtain ⟨fresh, completed, due⟩ := take
    obtain ⟨after, resource⟩ := draft.flags fresh
    have settled : flight.err ≠ none ∨ users = 0 := by
      by_cases failed : flight.err = none
      · have := due failed
        have := draft.nonneg
        rw [draft.counted] at due
        exact .inr (by have := due failed; omega)
      · exact .inl failed
    refine ⟨⟨draft.counted, draft.nonneg, draft.loaded, draft.runner, draft.done, ?_, ?_, draft.err,
      draft.bytes, fun _ => ⟨completed, settled⟩, draft.alive⟩, fun _ _ => rfl⟩
    · intro open'
      cases open'
    · intro callback
      have account := draft.account callback
      rw [fresh] at account
      simp only [Bool.false_eq_true, if_false, if_true] at account ⊢
      rw [count_callbacks]
      cases callback <;> simp only [provides, keeps, after, resource] at account ⊢ <;> omega

theorem Sound.start {key : K} {afterRelease : Bool} :
    Sound (start key afterRelease) 1 fun _ => 0 := by
  refine ⟨⟨rfl, by decide, rfl, by simp [FlightCall.start], by simp [FlightCall.start],
    fun _ => ⟨rfl, rfl⟩, fun _ => rfl, rfl, by simp [FlightCall.start], by simp [FlightCall.start],
    by simp [FlightCall.start]⟩, by simp [FlightCall.start]⟩

theorem Sound.join (sound : Sound flight users owed) (used : 0 < users)
    (loading : flight.completed = false) :
    Sound { flight with users := flight.users + 1 } (users + 1) owed := by
  have unloaded : flight.loaded = none := by
    have := sound.loaded
    rw [loading] at this
    simpa using this
  refine ⟨⟨by simp [sound.counted], by omega, sound.loaded, sound.runner, sound.done, sound.flags,
    sound.account, sound.err, by simp [unloaded], ?_, ?_⟩, ?_⟩
  · intro finalized
    have := (sound.early finalized).1
    rw [loading] at this
    cases this
  · intro _
    have := sound.alive loading
    constructor
    · intro cancelled
      have := this.mp cancelled
      omega
    · omega
  · intro completed
    rw [loading] at completed
    cases completed

theorem Draft.record (draft : Draft flight users owed) (loading : flight.completed = false)
    (loaded : Loaded) :
    Draft { flight.record loaded with cancelled := true, runner := .finalizing [] } users owed := by
  have fresh : flight.finalized = false := by
    cases finalized : flight.finalized with
    | false => rfl
    | true =>
        have := (draft.early finalized).1
        rw [loading] at this
        cases this
  have waiting := draft.runner.mpr loading
  refine ⟨draft.counted, draft.nonneg, rfl, ?_, fun _ => rfl, ?_, ?_, rfl, ?_, ?_, ?_⟩
  · constructor <;> (intro impossible; cases impossible)
  · intro _
    exact ⟨(draft.flags fresh).1, rfl⟩
  · intro callback
    have account := draft.account callback
    rw [waiting, fresh] at account
    simpa [FlightCall.record, fresh, Runner.owes] using account
  · intro other same succeeded _
    cases same
    simp [FlightCall.record, succeeded]
  · intro finalized
    simp only [FlightCall.record, fresh] at finalized
    cases finalized
  · intro impossible
    cases impossible

theorem takeFinalizerLocked_fst (flight : FlightCall K) : ∃ finalized resource after,
    flight.takeFinalizerLocked.1 = { flight with
      finalized := finalized, resourceRelease := resource, afterRelease := after } := by
  unfold takeFinalizerLocked
  split
  · exact ⟨_, _, _, rfl⟩
  · exact ⟨_, _, _, rfl⟩

theorem takeFinalizerLocked_update (flight : FlightCall K) (cancelled : Bool) (runner : Runner) :
    { flight with cancelled := cancelled, runner := runner }.takeFinalizerLocked =
      ({ flight.takeFinalizerLocked.1 with cancelled := cancelled, runner := runner },
        flight.takeFinalizerLocked.2) := by
  unfold takeFinalizerLocked
  split <;> rfl

theorem Sound.hand {callbacks : List Callback} (idle : flight.runner = .finalizing [])
    (sound : Sound flight users fun callback => owed callback + callbacks.count callback) :
    Sound { flight with runner := .finalizing callbacks } users owed := by
  refine ⟨⟨sound.counted, sound.nonneg, sound.loaded, ?_, sound.done, sound.flags, ?_, sound.err,
    sound.bytes, sound.early, sound.alive⟩, sound.due⟩
  · have runner := sound.runner
    rw [idle] at runner
    simpa using runner
  · intro callback
    have account := sound.account callback
    rw [idle] at account
    simpa [Runner.owes, provides] using account

theorem Sound.complete (sound : Sound flight users owed) (loading : flight.completed = false)
    (loaded : Loaded) : Sound (flight.complete loaded) users owed := by
  have taken := (sound.toDraft.record loading loaded).take
  rw [takeFinalizerLocked_update] at taken
  exact taken.hand rfl

theorem Sound.leave (sound : Sound flight users owed) (used : 0 < users) {data : Option Bytes}
    {cancelled : Bool} (kept : 0 < users - 1 → data = flight.data)
    (alive : flight.completed = false → (cancelled = true ↔ users - 1 = 0)) :
    Draft { flight with users := flight.users - 1, data := data, cancelled := cancelled }
      (users - 1) owed := by
  refine ⟨by simp [sound.counted], by omega, sound.loaded, sound.runner, sound.done, sound.flags,
    sound.account, sound.err, ?_, ?_, alive⟩
  · intro loaded found succeeded left
    exact (kept left).trans (sound.bytes loaded found succeeded used)
  · intro finalized
    obtain ⟨completed, failed | unused⟩ := sound.early finalized
    · exact ⟨completed, .inl failed⟩
    · omega

theorem Sound.releaseUser (sound : Sound flight users owed) (used : 0 < users)
    (completed : flight.completed = true) :
    Sound flight.releaseUser.1 (users - 1)
      fun callback => owed callback + flight.releaseUser.2.count callback := by
  refine (sound.leave used ?_ ?_).take
  · intro left
    rw [if_neg (by rw [sound.counted]; omega)]
  · intro loading
    rw [completed] at loading
    cases loading

theorem Sound.abandon (sound : Sound flight users owed) (used : 0 < users) :
    Sound flight.abandon.1 (users - 1)
      fun callback => owed callback + flight.abandon.2.count callback := by
  refine (sound.leave used ?_ ?_).take
  · intro left
    rw [if_neg (by rw [sound.counted]; omega)]
  · intro loading
    have fresh : flight.cancelled = false := by
      have alive := sound.alive loading
      cases cancelled : flight.cancelled with
      | false => rfl
      | true => exact absurd (alive.mp cancelled) (by omega)
    simp [fresh, loading, sound.counted]

theorem Sound.runCallback {callback : Callback} {rest : List Callback}
    (owes : flight.runner = .finalizing (callback :: rest)) (sound : Sound flight users owed) :
    Sound { flight with runner := .finalizing rest } users
      fun other => owed other + if other = callback then 1 else 0 := by
  refine ⟨⟨sound.counted, sound.nonneg, sound.loaded, ?_, sound.done, sound.flags, ?_, sound.err,
    sound.bytes, sound.early, sound.alive⟩, sound.due⟩
  · have runner := sound.runner
    rw [owes] at runner
    simpa using runner
  · intro other
    have account := sound.account other
    rw [owes] at account
    refine Eq.trans ?_ account
    simp only [Runner.owes, List.count_cons, beq_iff_eq]
    by_cases same : callback = other
    · subst same
      simp only [if_true]
      omega
    · simp only [if_neg same, if_neg (Ne.symm same)]
      omega

theorem Sound.close (idle : flight.runner = .finalizing []) (sound : Sound flight users owed) :
    Sound { flight with done := true, runner := .finished } users owed := by
  have runner := sound.runner
  rw [idle] at runner
  have completed : flight.completed = true := by simpa using runner
  refine ⟨⟨sound.counted, sound.nonneg, sound.loaded, ?_, fun _ => completed, sound.flags, ?_,
    sound.err, sound.bytes, sound.early, sound.alive⟩, sound.due⟩
  · simp [completed]
  · intro callback
    have account := sound.account callback
    rw [idle] at account
    exact account

end FlightCall

end S3Disk.Sync
