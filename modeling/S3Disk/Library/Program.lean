import Mathlib.Logic.Basic

/-! Programs that reach their environment one request at a time. A program is a
tree whose nodes are requests and whose branches are the possible answers, so an
interleaving of several programs is a choice of the tree that takes the next
request. -/

namespace Concurrent

inductive Program (Op : Type) (Answer : Op → Type) (α : Type) where
  | done (value : α) : Program Op Answer α
  | ask (op : Op) (next : Answer op → Program Op Answer α) : Program Op Answer α

namespace Program

variable {Op : Type} {Answer : Op → Type} {α β : Type}

def bind (program : Program Op Answer α) (next : α → Program Op Answer β) :
    Program Op Answer β :=
  match program with
  | .done value => next value
  | .ask op rest => .ask op fun answer => (rest answer).bind next

def answered (answers : ∀ op, Option (Answer op)) : Program Op Answer α → Option α
  | .done value => some value
  | .ask op next => match answers op with
      | none => none
      | some answer => (next answer).answered answers

@[simp] theorem answered_done (answers : ∀ op, Option (Answer op)) (value : α) :
    (done value : Program Op Answer α).answered answers = some value := rfl

theorem answered_bind (answers : ∀ op, Option (Answer op)) (program : Program Op Answer α)
    (next : α → Program Op Answer β) :
    (program.bind next).answered answers =
      (program.answered answers).bind fun value => (next value).answered answers := by
  induction program with
  | done value => rfl
  | ask op rest ih =>
      simp only [bind, answered]
      cases answers op with
      | none => rfl
      | some answer => exact ih answer

end Program

def Fallible (Op : Type) (Answer : Op → Type) (ε α : Type) : Type :=
  Program Op Answer (Except ε α)

namespace Fallible

variable {Op : Type} {Answer : Op → Type} {ε α β : Type}

def andThen (next : α → Fallible Op Answer ε β) : Except ε α → Program Op Answer (Except ε β)
  | .ok value => next value
  | .error error => .done (.error error)

instance : Monad (Fallible Op Answer ε) where
  pure value := Program.done (.ok value)
  bind program next := Program.bind program (andThen next)

instance : MonadExcept ε (Fallible Op Answer ε) where
  throw error := Program.done (.error error)
  tryCatch program handler := Program.bind program fun
    | .ok value => Program.done (.ok value)
    | .error error => handler error

def attempt (program : Fallible Op Answer ε α) : Fallible Op Answer ε (Except ε α) :=
  Program.bind program fun result => Program.done (.ok result)

def ofExcept (result : Except ε α) : Fallible Op Answer ε α :=
  Program.done result

section

variable {answers : ∀ op, Option (Answer op)} {program : Fallible Op Answer ε α} {value : α}

def answered (answers : ∀ op, Option (Answer op)) (program : Fallible Op Answer ε α) :
    Option (Except ε α) :=
  Program.answered answers program

theorem answered_request {op : Op} {answer : Answer op} {next : Answer op → Except ε α}
    (given : answers op = some answer) :
    Fallible.answered answers (Program.ask op fun answer => Program.done (next answer)) =
      some (next answer) := by
  simp [answered, Program.answered, given]

theorem answered_bind {next : α → Fallible Op Answer ε β}
    (first : program.answered answers = some (.ok value)) :
    (program >>= next : Fallible Op Answer ε β).answered answers = (next value).answered answers := by
  have steps := Program.answered_bind answers program (andThen next)
  rw [show Program.answered answers program = some (.ok value) from first] at steps
  exact steps

theorem answered_attempt {result : Except ε α} (first : program.answered answers = some result) :
    program.attempt.answered answers = some (.ok result) := by
  have steps := Program.answered_bind answers program
    fun result => (Program.done (.ok result) : Program Op Answer (Except ε (Except ε α)))
  rw [show Program.answered answers program = some result from first] at steps
  exact steps

end

end Fallible

/-- A fallible program over a memory whose updates survive a failure. -/
def Action (Op : Type) (Answer : Op → Type) (Memory ε α : Type) : Type :=
  Memory → Program Op Answer (Except ε α × Memory)

namespace Action

variable {Op : Type} {Answer : Op → Type} {Memory ε α β : Type}

def andThen (next : α → Action Op Answer Memory ε β) :
    Except ε α × Memory → Program Op Answer (Except ε β × Memory)
  | (.ok value, memory) => next value memory
  | (.error error, memory) => .done (.error error, memory)

instance : Monad (Action Op Answer Memory ε) where
  pure value memory := Program.done (.ok value, memory)
  bind action next memory := Program.bind (action memory) (andThen next)

instance : MonadExcept ε (Action Op Answer Memory ε) where
  throw error memory := Program.done (.error error, memory)
  tryCatch action handler memory := Program.bind (action memory) fun
    | (.ok value, memory) => Program.done (.ok value, memory)
    | (.error error, memory) => handler error memory

instance : MonadLift (Fallible Op Answer ε) (Action Op Answer Memory ε) where
  monadLift program memory := Program.bind program fun result => Program.done (result, memory)

instance : MonadStateOf Memory (Action Op Answer Memory ε) where
  get memory := Program.done (.ok memory, memory)
  set memory _ := Program.done (.ok (), memory)
  modifyGet change memory := Program.done (.ok (change memory).1, (change memory).2)

def ofExcept (result : Except ε α) : Action Op Answer Memory ε α := fun memory =>
  Program.done (result, memory)

def attempt (action : Action Op Answer Memory ε α) :
    Action Op Answer Memory ε (Except ε α) := fun memory =>
  Program.bind (action memory) fun result => Program.done (.ok result.1, result.2)

end Action

def failIf {m : Type → Type} {ε : Type} [Monad m] [MonadExcept ε m] (condition : Prop)
    [Decidable condition] (error : ε) : m Unit :=
  if condition then throw error else pure ()

end Concurrent
