import S3Disk.Library.Contract

/-! Programs that change a shared state only while they hold a lock. What a holder knows of
the state stays true until the lock is lost, so its steps are reasoned about as if it were
alone: with conditions on the state that count only as long as the lock is held. -/

namespace Concurrent

variable {Op : Type} {Answer : Op → Type} {Call Effect State ε α β : Type}

/-- Who holds the lock, and the state that only the holder changes. -/
structure Lease (law : Law Op Answer Call Effect) (State : Type) where
  holder : List (Event Op Answer Call Effect) → Option Nat
  view : List (Event Op Answer Call Effect) → State
  stable : ∀ {client log later}, Interferes client log later → Valid law later →
    holder later = some client → holder log = some client ∧ view later = view log

variable {law : Law Op Answer Call Effect}

namespace Lease

variable (lease : Lease law State) (agent : Nat × Call)

def Within (client : Nat) (condition : State → Prop) (log : List (Event Op Answer Call Effect)) :
    Prop :=
  lease.holder log = some client → condition (lease.view log)

def Triple (before : State → Prop) (program : Fallible Op Answer ε α)
    (post : α → State → Prop) (fail : ε → State → Prop) : Prop :=
  ∀ log, Valid law log → lease.Within agent.1 before log →
    program.Meets law agent log (fun value later => lease.Within agent.1 (post value) later)
      fun error later => lease.Within agent.1 (fail error) later

variable {lease agent}

theorem Within.mono {client : Nat} {first second : State → Prop}
    {log : List (Event Op Answer Call Effect)} (within : lease.Within client first log)
    (implies : ∀ state, first state → second state) : lease.Within client second log :=
  fun held => implies _ (within held)

theorem Within.interferes {client : Nat} {condition : State → Prop}
    {log later : List (Event Op Answer Call Effect)} (within : lease.Within client condition log)
    (interferes : Interferes client log later) (valid : Valid law later) :
    lease.Within client condition later := by
  intro held
  obtain ⟨before, same⟩ := lease.stable interferes valid held
  rw [same]
  exact within before

namespace Triple

variable {before : State → Prop} {program : Fallible Op Answer ε α}
  {next : α → Fallible Op Answer ε β} {middle : α → State → Prop} {post : β → State → Prop}
  {fail firstFail : ε → State → Prop}

theorem pure {value : β} (holds : ∀ state, before state → post value state) :
    lease.Triple agent before (Pure.pure value) post fail :=
  fun _ _ within => .pure (within.mono holds)

theorem throw {error : ε} (holds : ∀ state, before state → fail error state) :
    lease.Triple agent before (MonadExcept.throw error : Fallible Op Answer ε β) post fail :=
  fun _ _ within => .throw (within.mono holds)

theorem bind (first : lease.Triple agent before program middle fail)
    (rest : ∀ value, lease.Triple agent (middle value) (next value) post fail) :
    lease.Triple agent before (program >>= next) post fail :=
  fun log valid within => (first log valid within).bind valid fun value later _ laterValid known =>
    rest value later laterValid known

theorem weaken {other : State → Prop} {otherPost : β → State → Prop}
    {program : Fallible Op Answer ε β} (triple : lease.Triple agent before program post firstFail)
    (start : ∀ state, other state → before state)
    (values : ∀ value state, post value state → otherPost value state)
    (errors : ∀ error state, firstFail error state → fail error state) :
    lease.Triple agent other program otherPost fail :=
  fun log valid within => (triple log valid (within.mono start)).weaken valid
    (fun value _ _ _ known => known.mono (values value))
    fun error _ _ _ known => known.mono (errors error)

theorem attempt {next : Except ε α → Fallible Op Answer ε β}
    (first : lease.Triple agent before program middle firstFail)
    (values : ∀ value, lease.Triple agent (middle value) (next (.ok value)) post fail)
    (errors : ∀ error, lease.Triple agent (firstFail error) (next (.error error)) post fail) :
    lease.Triple agent before (program.attempt >>= next) post fail := by
  intro log valid within
  refine (first log valid within).attempt valid ?_
  rintro (error | value) later _ laterValid known
  · exact errors error later laterValid known
  · exact values value later laterValid known

theorem failIf {condition : Prop} [Decidable condition] {error : ε}
    {next : Unit → Fallible Op Answer ε β} (failed : ∀ state, before state → fail error state)
    (rest : ¬condition → lease.Triple agent before (next ()) post fail) :
    lease.Triple agent before (Concurrent.failIf condition error >>= next) post fail :=
  fun log valid within => .failIf (fun _ => within.mono failed)
    fun passed => rest passed log valid within

theorem ofExcept {result : Except ε α} {next : α → Fallible Op Answer ε β}
    (failed : ∀ error state, before state → fail error state)
    (rest : ∀ value, result = .ok value → lease.Triple agent before (next value) post fail) :
    lease.Triple agent before (Fallible.ofExcept result >>= next) post fail :=
  fun log valid within => .ofExcept (fun error _ => within.mono (failed error))
    fun value found => rest value found log valid within

theorem check {result : Except ε β} (failed : ∀ error state, before state → fail error state)
    (passed : ∀ value, result = .ok value → ∀ state, before state → post value state) :
    lease.Triple agent before (Fallible.ofExcept result : Fallible Op Answer ε β) post fail := by
  cases result with
  | error error => exact throw (failed error)
  | ok value => exact pure (passed value rfl)

theorem ite {condition : Prop} [Decidable condition] {positive negative : Fallible Op Answer ε β}
    (yes : condition → lease.Triple agent before positive post fail)
    (no : ¬condition → lease.Triple agent before negative post fail) :
    lease.Triple agent before (if condition then positive else negative) post fail := by
  by_cases holds : condition
  · rw [if_pos holds]
    exact yes holds
  · rw [if_neg holds]
    exact no holds

theorem request {op : Op} {next : Answer op → Except ε β}
    (served : ∀ log answer effect, Valid law log → lease.Within agent.1 before log →
      law.serves log (.of agent op answer effect) →
      law.keeps log (.of agent op answer effect) ∧
        Outcome (fun value => lease.Within agent.1 (post value))
          (fun error => lease.Within agent.1 (fail error)) (next answer)
          (.of agent op answer effect :: log)) :
    lease.Triple agent before
      (Program.ask op fun answer => .done (next answer) : Fallible Op Answer ε β) post fail := by
  intro log _ within later interferes valid answer effect accepted
  exact served later answer effect valid (within.interferes interferes valid) accepted

end Triple

end Lease

end Concurrent
