import S3Disk.Library.Interference

/-! Contracts of fallible programs: what holds of the log when a program returns a
value, and what holds when it returns an error. One rule for each way a program is
composed. -/

namespace Concurrent

def Outcome {ε α World : Type} (post : α → World → Prop) (fail : ε → World → Prop) :
    Except ε α → World → Prop
  | .ok value, world => post value world
  | .error error, world => fail error world

section

variable {Op : Type} {Answer : Op → Type} {Call Effect Memory ε α β : Type}
  (law : Law Op Answer Call Effect) (agent : Nat × Call)

def Fallible.Meets (program : Fallible Op Answer ε α) (log : List (Event Op Answer Call Effect))
    (post : α → List (Event Op Answer Call Effect) → Prop)
    (fail : ε → List (Event Op Answer Call Effect) → Prop) : Prop :=
  Safe law agent (Outcome post fail) program log

def Action.Meets (action : Action Op Answer Memory ε α) (log : List (Event Op Answer Call Effect))
    (post : α → List (Event Op Answer Call Effect) → Prop)
    (fail : ε → List (Event Op Answer Call Effect) → Prop) : Prop :=
  ∀ memory, Safe law agent (fun result => Outcome post fail result.1) (action memory) log

variable {law agent} {log : List (Event Op Answer Call Effect)}

namespace Fallible.Meets

variable {program : Fallible Op Answer ε α} {next : α → Fallible Op Answer ε β}
  {middle : α → List (Event Op Answer Call Effect) → Prop}
  {post : β → List (Event Op Answer Call Effect) → Prop}
  {fail firstFail : ε → List (Event Op Answer Call Effect) → Prop}

theorem pure {value : β} (holds : post value log) :
    Meets law agent (Pure.pure value) log post fail := holds

theorem throw {error : ε} (holds : fail error log) :
    Meets law agent (MonadExcept.throw error) log post fail := holds

theorem ask {op : Op} {resume : Answer op → Fallible Op Answer ε β}
    (kept : ∀ later, Interferes agent.1 log later → Valid law later → ∀ answer effect,
      law.serves later (.of agent op answer effect) →
      law.keeps later (.of agent op answer effect) ∧
      Meets law agent (resume answer) (.of agent op answer effect :: later) post fail) :
    Meets law agent (Program.ask op resume) log post fail := kept

theorem bind (first : Meets law agent program log middle fail) (valid : Valid law log)
    (rest : ∀ value later, log <:+ later → Valid law later → middle value later →
      Meets law agent (next value) later post fail) :
    Meets law agent (program >>= next) log post fail := by
  refine Safe.bind first valid ?_
  rintro (error | value) later grown laterValid holds
  · exact holds
  · exact rest value later grown laterValid holds

theorem weaken {other : β → List (Event Op Answer Call Effect) → Prop}
    {program : Fallible Op Answer ε β}
    (meets : Meets law agent program log post firstFail) (valid : Valid law log)
    (values : ∀ value later, log <:+ later → Valid law later → post value later →
      other value later)
    (errors : ∀ error later, log <:+ later → Valid law later → firstFail error later →
      fail error later) :
    Meets law agent program log other fail := by
  refine Safe.weaken meets valid ?_
  rintro (error | value) later grown laterValid holds
  · exact errors error later grown laterValid holds
  · exact values value later grown laterValid holds

theorem lenient {program : Fallible Op Answer ε β}
    (meets : Meets law agent program log post firstFail) (valid : Valid law log) :
    Meets law agent program log post (fun _ _ => True) :=
  meets.weaken valid (fun _ _ _ _ holds => holds) (fun _ _ _ _ _ => trivial)

theorem attempt {next : Except ε α → Fallible Op Answer ε β}
    (first : Meets law agent program log middle firstFail) (valid : Valid law log)
    (rest : ∀ result later, log <:+ later → Valid law later →
      Outcome middle firstFail result later → Meets law agent (next result) later post fail) :
    Meets law agent (program.attempt >>= next) log post fail := by
  have attempted : Meets law agent program.attempt log (Outcome middle firstFail) fail := by
    refine Safe.bind first valid ?_
    intro result later _ _ holds
    exact holds
  exact bind attempted valid rest

theorem failIf {condition : Prop} [Decidable condition] {error : ε}
    {next : Unit → Fallible Op Answer ε β} (failed : condition → fail error log)
    (rest : ¬condition → Meets law agent (next ()) log post fail) :
    Meets law agent (Concurrent.failIf condition error >>= next) log post fail := by
  by_cases holds : condition
  · simp only [Concurrent.failIf, holds, if_true]
    exact failed holds
  · simp only [Concurrent.failIf, holds, if_false]
    exact rest holds

theorem ofExcept {result : Except ε α} (failed : ∀ error, result = .error error → fail error log)
    (rest : ∀ value, result = .ok value → Meets law agent (next value) log post fail) :
    Meets law agent (Fallible.ofExcept result >>= next) log post fail := by
  cases result with
  | error error => exact failed error rfl
  | ok value => exact rest value rfl

end Fallible.Meets

namespace Action.Meets

variable {action : Action Op Answer Memory ε α} {next : α → Action Op Answer Memory ε β}
  {middle : α → List (Event Op Answer Call Effect) → Prop}
  {post : β → List (Event Op Answer Call Effect) → Prop}
  {fail firstFail : ε → List (Event Op Answer Call Effect) → Prop}

theorem pure {value : β} (holds : post value log) :
    Meets law agent (Pure.pure value : Action Op Answer Memory ε β) log post fail := fun _ => holds

theorem throw {error : ε} (holds : fail error log) :
    Meets law agent (MonadExcept.throw error : Action Op Answer Memory ε β) log post fail :=
  fun _ => holds

theorem bind (first : Meets law agent action log middle fail) (valid : Valid law log)
    (rest : ∀ value later, log <:+ later → Valid law later → middle value later →
      Meets law agent (next value) later post fail) :
    Meets law agent (action >>= next) log post fail := by
  intro memory
  refine Safe.bind (first memory) valid ?_
  rintro ⟨error | value, changed⟩ later grown laterValid holds
  · exact holds
  · exact rest value later grown laterValid holds changed

theorem weaken {other : β → List (Event Op Answer Call Effect) → Prop}
    {action : Action Op Answer Memory ε β}
    (meets : Meets law agent action log post firstFail) (valid : Valid law log)
    (values : ∀ value later, log <:+ later → Valid law later → post value later →
      other value later)
    (errors : ∀ error later, log <:+ later → Valid law later → firstFail error later →
      fail error later) :
    Meets law agent action log other fail := by
  intro memory
  refine Safe.weaken (meets memory) valid ?_
  rintro ⟨error | value, changed⟩ later grown laterValid holds
  · exact errors error later grown laterValid holds
  · exact values value later grown laterValid holds

theorem lenient {action : Action Op Answer Memory ε β}
    (meets : Meets law agent action log post firstFail) (valid : Valid law log) :
    Meets law agent action log post (fun _ _ => True) :=
  meets.weaken valid (fun _ _ _ _ holds => holds) (fun _ _ _ _ _ => trivial)

theorem attempt {next : Except ε α → Action Op Answer Memory ε β}
    (first : Meets law agent action log middle firstFail) (valid : Valid law log)
    (rest : ∀ result later, log <:+ later → Valid law later →
      Outcome middle firstFail result later → Meets law agent (next result) later post fail) :
    Meets law agent (action.attempt >>= next) log post fail := by
  have attempted : Meets law agent action.attempt log (Outcome middle firstFail) fail := by
    intro memory
    refine Safe.bind (first memory) valid ?_
    intro result later _ _ holds
    exact holds
  exact bind attempted valid rest

theorem lift {program : Fallible Op Answer ε α}
    (first : Fallible.Meets law agent program log middle fail) (valid : Valid law log) :
    Meets law agent (liftM program : Action Op Answer Memory ε α) log middle fail := by
  intro memory
  refine Safe.bind first valid ?_
  rintro (failure | found) later _ _ holds
  · exact holds
  · exact holds

theorem bindLift {program : Fallible Op Answer ε α}
    (first : Fallible.Meets law agent program log middle fail) (valid : Valid law log)
    (rest : ∀ value later, log <:+ later → Valid law later → middle value later →
      Meets law agent (next value) later post fail) :
    Meets law agent (liftM program >>= next) log post fail :=
  bind (lift first valid) valid rest

theorem attemptLift {program : Fallible Op Answer ε α}
    {next : Except ε α → Action Op Answer Memory ε β}
    (first : Fallible.Meets law agent program log middle firstFail) (valid : Valid law log)
    (rest : ∀ result later, log <:+ later → Valid law later →
      Outcome middle firstFail result later → Meets law agent (next result) later post fail) :
    Meets law agent (liftM program.attempt >>= next) log post fail := by
  have attempted : Fallible.Meets law agent program.attempt log (Outcome middle firstFail)
      fail := by
    refine Safe.bind first valid ?_
    intro result later _ _ holds
    exact holds
  exact bindLift attempted valid rest

theorem get {next : Memory → Action Op Answer Memory ε β}
    (rest : ∀ memory, Meets law agent (next memory) log post fail) :
    Meets law agent (MonadState.get >>= next) log post fail := fun memory => rest memory memory

theorem modify {change : Memory → Memory} {post : Unit → List (Event Op Answer Call Effect) → Prop}
    (holds : post () log) :
    Meets law agent (modify change : Action Op Answer Memory ε Unit) log post fail :=
  fun _ => holds

theorem bindModify {change : Memory → Memory} {next : PUnit → Action Op Answer Memory ε β}
    (rest : Meets law agent (next ()) log post fail) :
    Meets law agent (MonadState.modifyGet (fun memory => ((), change memory)) >>= next) log post
      fail := fun memory => rest (change memory)

theorem failIf {condition : Prop} [Decidable condition] {error : ε}
    {next : Unit → Action Op Answer Memory ε β} (failed : condition → fail error log)
    (rest : ¬condition → Meets law agent (next ()) log post fail) :
    Meets law agent (Concurrent.failIf condition error >>= next) log post fail := by
  by_cases holds : condition
  · simp only [Concurrent.failIf, holds, if_true]
    exact fun _ => failed holds
  · simp only [Concurrent.failIf, holds, if_false]
    exact fun memory => rest holds memory

theorem ofExcept {result : Except ε α}
    (failed : ∀ error, result = .error error → fail error log)
    (rest : ∀ value, result = .ok value → Meets law agent (next value) log post fail) :
    Meets law agent (Action.ofExcept result >>= next) log post fail := by
  cases result with
  | error error => exact fun _ => failed error rfl
  | ok value => exact fun memory => rest value rfl memory

end Action.Meets

end

end Concurrent
