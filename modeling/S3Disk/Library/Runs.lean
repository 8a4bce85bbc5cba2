import S3Disk.Library.Ensures

/-! Contracts that follow the memory of an action: what holds of its result, its memory
and the log when it returns, from a given memory and log on. -/

namespace Concurrent

variable {Op : Type} {Answer : Op → Type} {Call Effect Memory World ε α β γ : Type}

def Settled (post : α → Memory → World → Prop) (fail : ε → Memory → World → Prop) :
    Except ε α × Memory → World → Prop
  | (.ok value, memory), world => post value memory world
  | (.error error, memory), world => fail error memory world

def Action.Runs (law : Law Op Answer Call Effect) (agent : Nat × Call)
    (action : Action Op Answer Memory ε α) (memory : Memory)
    (log : List (Event Op Answer Call Effect))
    (post : α → Memory → List (Event Op Answer Call Effect) → Prop)
    (fail : ε → Memory → List (Event Op Answer Call Effect) → Prop) : Prop :=
  Safe law agent (Settled post fail) (action memory) log

namespace Action.Runs

variable {law : Law Op Answer Call Effect} {agent : Nat × Call}
  {log : List (Event Op Answer Call Effect)} {memory : Memory}
  {action : Action Op Answer Memory ε α} {next : α → Action Op Answer Memory ε β}
  {middle : α → Memory → List (Event Op Answer Call Effect) → Prop}
  {post : β → Memory → List (Event Op Answer Call Effect) → Prop}
  {fail firstFail : ε → Memory → List (Event Op Answer Call Effect) → Prop}

theorem bind (first : Runs law agent action memory log middle fail) (valid : Valid law log)
    (rest : ∀ value changed later, log <:+ later → Valid law later → middle value changed later →
      Runs law agent (next value) changed later post fail) :
    Runs law agent (action >>= next) memory log post fail := by
  refine Safe.bind first valid ?_
  rintro ⟨error | value, changed⟩ later grown laterValid holds
  · exact holds
  · exact rest value changed later grown laterValid holds

theorem weaken {other : β → Memory → List (Event Op Answer Call Effect) → Prop}
    {action : Action Op Answer Memory ε β}
    (runs : Runs law agent action memory log post firstFail) (valid : Valid law log)
    (values : ∀ value changed later, log <:+ later → Valid law later →
      post value changed later → other value changed later)
    (errors : ∀ error changed later, log <:+ later → Valid law later →
      firstFail error changed later → fail error changed later) :
    Runs law agent action memory log other fail := by
  refine Safe.weaken runs valid ?_
  rintro ⟨error | value, changed⟩ later grown laterValid holds
  · exact errors error changed later grown laterValid holds
  · exact values value changed later grown laterValid holds

theorem get {next : Memory → Action Op Answer Memory ε β}
    (rest : Runs law agent (next memory) memory log post fail) :
    Runs law agent (MonadState.get >>= next) memory log post fail := rest

theorem failIf {condition : Prop} [Decidable condition] {error : ε}
    {next : Unit → Action Op Answer Memory ε β} (failed : condition → fail error memory log)
    (rest : ¬condition → Runs law agent (next ()) memory log post fail) :
    Runs law agent (Concurrent.failIf condition error >>= next) memory log post fail := by
  by_cases holds : condition
  · simp only [Concurrent.failIf, holds, if_true]
    exact failed holds
  · simp only [Concurrent.failIf, holds, if_false]
    exact rest holds

theorem ofExcept {result : Except ε α} (failed : ∀ error, result = .error error →
      fail error memory log)
    (rest : ∀ value, result = .ok value → Runs law agent (next value) memory log post fail) :
    Runs law agent (Action.ofExcept result >>= next) memory log post fail := by
  cases result with
  | error error => exact failed error rfl
  | ok value => exact rest value rfl

theorem ofEnsures {allowed : Op → Prop} {view : Memory → γ} {property : α → Prop}
    (ensures : action.Ensures allowed view property)
    (quiet : ∀ log op answer effect, allowed op → law.serves log (.of agent op answer effect) →
      law.keeps log (.of agent op answer effect)) (valid : Valid law log) :
    Runs law agent action memory log
      (fun value changed later => property value ∧ view changed = view memory ∧
        Since agent.1 allowed log later)
      (fun _ changed later => view changed = view memory ∧ Since agent.1 allowed log later) := by
  refine Safe.weaken ((ensures memory).safe quiet (.refl _ _)) valid ?_
  rintro ⟨error | value, changed⟩ later _ _ ⟨⟨kept, holds⟩, since⟩
  · exact ⟨kept, since⟩
  · exact ⟨holds value rfl, kept, since⟩

end Action.Runs

end Concurrent
