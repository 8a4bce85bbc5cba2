import S3Disk.Library.Contract

/-! Systems that answer one call after the other. A system whose steps are matched by the
steps of another one has no trace that the other has not. A system may be a program over an
environment that serves its requests in turn. -/

namespace Concurrent

structure System (State Label : Type) where
  step : State → Label → State → Prop

inductive System.Trace {State Label : Type} (system : System State Label) :
    State → List Label → State → Prop
  | nil (state : State) : Trace system state [] state
  | cons {first middle last label labels} (step : system.step first label middle)
      (rest : Trace system middle labels last) : Trace system first (label :: labels) last

theorem System.Trace.refines {Concrete Abstract Label : Type} {concrete : System Concrete Label}
    {abstract : System Abstract Label} {related : Concrete → Abstract → Prop}
    (simulates : ∀ {first label last above}, related first above → concrete.step first label last →
      ∃ later, abstract.step above label later ∧ related last later)
    {first last : Concrete} {labels : List Label} {above : Abstract} (start : related first above)
    (trace : concrete.Trace first labels last) :
    ∃ later, abstract.Trace above labels later ∧ related last later := by
  induction trace generalizing above with
  | nil state => exact ⟨above, .nil above, start⟩
  | cons step _ ih =>
      obtain ⟨middle, matched, held⟩ := simulates start step
      obtain ⟨later, trace, holds⟩ := ih held
      exact ⟨later, .cons matched trace, holds⟩

variable {Op : Type} {Answer : Op → Type} {State ε α β : Type}

abbrev Serving (Op : Type) (Answer : Op → Type) (State : Type) :=
  State → (op : Op) → Answer op → State → Prop

/-- A program returns this value after the environment served its requests in turn. -/
inductive Program.Executes (serves : Serving Op Answer State) :
    Program Op Answer α → State → α → State → Prop
  | done {value state} : Executes serves (.done value) state value state
  | ask {op next first answer middle value last} (served : serves first op answer middle)
      (rest : Executes serves (next answer) middle value last) :
      Executes serves (.ask op next) first value last

/-- Run a program in an environment that chooses its answers; it may refuse to answer. -/
def Program.simulate (respond : State → (op : Op) → Option (Answer op × State)) :
    Program Op Answer α → State → Option (α × State)
  | .done value, state => some (value, state)
  | .ask op next, state => match respond state op with
      | none => none
      | some (answer, later) => (next answer).simulate respond later

theorem Program.simulate_executes {serves : Serving Op Answer State}
    {respond : State → (op : Op) → Option (Answer op × State)}
    (sound : ∀ state op answer later, respond state op = some (answer, later) →
      serves state op answer later)
    {program : Program Op Answer α} {first last : State} {value : α}
    (ran : program.simulate respond first = some (value, last)) :
    program.Executes serves first value last := by
  induction program generalizing first with
  | done result =>
      cases ran
      exact .done
  | ask op next ih =>
      unfold Program.simulate at ran
      split at ran
      · cases ran
      · rename_i answer later found
        exact .ask (sound first op answer later found) (ih answer ran)

/-- Whatever the environment does, this holds when the program returns. -/
def Program.Always (serves : Serving Op Answer State) (post : α → State → Prop) :
    Program Op Answer α → State → Prop
  | .done value, state => post value state
  | .ask op next, state =>
      ∀ answer later, serves state op answer later → (next answer).Always serves post later

variable {serves : Serving Op Answer State}

theorem Program.Executes.always {program : Program Op Answer α} {first last : State} {value : α}
    {post : α → State → Prop} (executes : program.Executes serves first value last)
    (always : program.Always serves post first) : post value last := by
  induction executes with
  | done => exact always
  | ask served _ ih => exact ih (always _ _ served)

theorem Program.Always.bind {program : Program Op Answer α} {next : α → Program Op Answer β}
    {middle : α → State → Prop} {post : β → State → Prop} {state : State}
    (first : program.Always serves middle state)
    (rest : ∀ value later, middle value later → (next value).Always serves post later) :
    (program.bind next).Always serves post state := by
  induction program generalizing state with
  | done value => exact rest value state first
  | ask op resume ih => exact fun answer later served => ih answer (first answer later served)

theorem Program.Always.weaken {program : Program Op Answer α} {post other : α → State → Prop}
    {state : State} (always : program.Always serves post state)
    (implies : ∀ value later, post value later → other value later) :
    program.Always serves other state := by
  induction program generalizing state with
  | done value => exact implies value state always
  | ask op resume ih => exact fun answer later served => ih answer (always answer later served)

def Fallible.Always (serves : Serving Op Answer State) (program : Fallible Op Answer ε α)
    (state : State) (post : α → State → Prop) (fail : ε → State → Prop) : Prop :=
  Program.Always serves (Outcome post fail) program state

theorem Outcome.whole {holds : Except ε α → State → Prop} {result : Except ε α} {state : State}
    (outcome : Outcome (fun value => holds (.ok value)) (fun error => holds (.error error)) result
      state) : holds result state := by
  cases result with
  | error error => exact outcome
  | ok value => exact outcome

namespace Fallible.Always

variable {program : Fallible Op Answer ε α} {next : α → Fallible Op Answer ε β} {state : State}
  {middle : α → State → Prop} {post : β → State → Prop} {fail firstFail : ε → State → Prop}

theorem pure {value : β} (holds : post value state) :
    Always serves (Pure.pure value : Fallible Op Answer ε β) state post fail := holds

theorem throw {error : ε} (holds : fail error state) :
    Always serves (MonadExcept.throw error : Fallible Op Answer ε β) state post fail := holds

theorem request {op : Op} {resume : Answer op → Except ε β}
    (holds : ∀ answer later, serves state op answer later →
      Outcome post fail (resume answer) later) :
    Always serves (Program.ask op fun answer => .done (resume answer) : Fallible Op Answer ε β)
      state post fail := holds

theorem bind (first : program.Always serves state middle firstFail)
    (errors : ∀ error later, firstFail error later → fail error later)
    (rest : ∀ value later, middle value later → (next value).Always serves later post fail) :
    Always serves (program >>= next) state post fail := by
  refine Program.Always.bind first ?_
  rintro (error | value) later holds
  · exact errors error later holds
  · exact rest value later holds

theorem weaken {program : Fallible Op Answer ε β} {other : β → State → Prop}
    (always : program.Always serves state other firstFail)
    (values : ∀ value later, other value later → post value later)
    (errors : ∀ error later, firstFail error later → fail error later) :
    program.Always serves state post fail := by
  refine Program.Always.weaken always ?_
  rintro (error | value) later holds
  · exact errors error later holds
  · exact values value later holds

theorem failIf {condition : Prop} [Decidable condition] {error : ε}
    {next : Unit → Fallible Op Answer ε β} (failed : condition → fail error state)
    (rest : ¬condition → (next ()).Always serves state post fail) :
    Always serves (Concurrent.failIf condition error >>= next) state post fail := by
  by_cases holds : condition
  · simp only [Concurrent.failIf, holds, if_true]
    exact failed holds
  · simp only [Concurrent.failIf, holds, if_false]
    exact rest holds

theorem ofExcept {result : Except ε α} (failed : ∀ error, result = .error error → fail error state)
    (rest : ∀ value, result = .ok value → (next value).Always serves state post fail) :
    Always serves (Fallible.ofExcept result >>= next) state post fail := by
  cases result with
  | error error => exact failed error rfl
  | ok value => exact rest value rfl

end Fallible.Always

end Concurrent
