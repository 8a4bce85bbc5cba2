import S3Disk.Library.Runs

/-! One program on its own: the sequences of requests and answers it can go through,
under every behaviour of its environment. -/

namespace Concurrent

structure Exchange (Op : Type) (Answer : Op → Type) where
  op : Op
  answer : Answer op

variable {Op : Type} {Answer : Op → Type} {α : Type}

inductive Program.Reaches (program : Program Op Answer α) :
    List (Exchange Op Answer) → Program Op Answer α → Prop
  | start : Reaches program [] program
  | step {history op next} (reached : Reaches program history (.ask op next))
      (answer : Answer op) : Reaches program (⟨op, answer⟩ :: history) (next answer)

/-- Run a program against an environment that answers a request always the same way, until
it returns or gets no answer. -/
def Program.replay (answers : ∀ op, Option (Answer op)) :
    Program Op Answer α → List (Exchange Op Answer) → List (Exchange Op Answer) × Program Op Answer α
  | .done value, history => (history, .done value)
  | .ask op next, history => match answers op with
    | none => (history, .ask op next)
    | some answer => replay answers (next answer) (⟨op, answer⟩ :: history)

theorem Program.replay_reaches (answers : ∀ op, Option (Answer op))
    {program rest : Program Op Answer α} {history : List (Exchange Op Answer)}
    (reached : program.Reaches history rest) :
    program.Reaches (rest.replay answers history).1 (rest.replay answers history).2 := by
  induction rest generalizing history with
  | done value => exact reached
  | ask op next ih =>
      unfold Program.replay
      split
      · exact reached
      · exact ih _ (reached.step _)

theorem Program.Reaches.ensures {program rest : Program Op Answer α}
    {history : List (Exchange Op Answer)} {allowed : Op → Prop} {post : α → Prop}
    (reached : program.Reaches history rest) (ensures : program.Ensures allowed post) :
    rest.Ensures allowed post := by
  induction reached with
  | start => exact ensures
  | step _ answer ih =>
      cases ih with
      | ask _ rest => exact rest answer

abbrev SoloLog (Op : Type) (Answer : Op → Type) := List (Event Op Answer Unit Empty)

def Event.exchange (event : Event Op Answer Unit Empty) : Exchange Op Answer :=
  ⟨event.op, event.answer⟩

def solo (guard : List (Exchange Op Answer) → Exchange Op Answer → Prop) :
    Law Op Answer Unit Empty where
  serves _ event := event.client = 0 ∧ event.effect = none
  keeps log event := guard (log.map Event.exchange) event.exchange

abbrev soloAgent : Nat × Unit := (0, ())

variable {guard : List (Exchange Op Answer) → Exchange Op Answer → Prop}

theorem Program.Reaches.safe {program rest : Program Op Answer α}
    {history : List (Exchange Op Answer)} {post : α → SoloLog Op Answer → Prop}
    (reached : program.Reaches history rest)
    (safe : Safe (solo guard) soloAgent post program []) :
    ∃ log, log.map Event.exchange = history ∧ Valid (solo guard) log ∧
      Safe (solo guard) soloAgent post rest log := by
  induction reached with
  | start => exact ⟨[], rfl, trivial, safe⟩
  | step _ answer ih =>
      obtain ⟨log, same, valid, kept⟩ := ih
      obtain ⟨guarded, next⟩ := kept log (.refl 0 log) valid answer none ⟨rfl, rfl⟩
      exact ⟨_ :: log, by simp [same, Event.of, Event.exchange], valid.cons ⟨rfl, rfl⟩ guarded, next⟩

end Concurrent
