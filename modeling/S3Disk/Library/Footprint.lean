import S3Disk.Library.Contract

/-! Which requests a program can make at all. What a caller knew of a log then still
holds of the caller's own events when the program returns. -/

namespace Concurrent

variable {Op : Type} {Answer : Op → Type} {Call Effect Memory ε α β : Type}

inductive Program.Uses (allowed : Op → Prop) : Program Op Answer α → Prop
  | done (value : α) : Uses allowed (.done value)
  | ask {op next} (permitted : allowed op) (rest : ∀ answer, Uses allowed (next answer)) :
      Uses allowed (.ask op next)

variable {allowed : Op → Prop}

theorem Program.Uses.bind {program : Program Op Answer α} {next : α → Program Op Answer β}
    (first : program.Uses allowed) (rest : ∀ value, (next value).Uses allowed) :
    (program.bind next).Uses allowed := by
  induction first with
  | done value => exact rest value
  | ask permitted _ ih => exact .ask permitted ih

def Fallible.Uses (allowed : Op → Prop) (program : Fallible Op Answer ε α) : Prop :=
  Program.Uses allowed program

namespace Fallible.Uses

variable {program : Fallible Op Answer ε α} {next : α → Fallible Op Answer ε β}

theorem pure {value : α} : Uses allowed (Pure.pure value : Fallible Op Answer ε α) := .done _

theorem throw {error : ε} : Uses allowed (MonadExcept.throw error : Fallible Op Answer ε α) :=
  .done _

theorem request {op : Op} {next : Answer op → Except ε α} (permitted : allowed op) :
    Uses allowed (Program.ask op fun answer => .done (next answer) : Fallible Op Answer ε α) :=
  .ask permitted fun _ => .done _

theorem bind (first : program.Uses allowed) (rest : ∀ value, (next value).Uses allowed) :
    Uses allowed (program >>= next) := by
  refine Program.Uses.bind first ?_
  rintro (error | value)
  · exact .done _
  · exact rest value

theorem attempt (first : program.Uses allowed) : Uses allowed program.attempt :=
  Program.Uses.bind first fun _ => .done _

theorem ofExcept {result : Except ε α} :
    Uses allowed (Fallible.ofExcept result : Fallible Op Answer ε α) := .done _

theorem failIf {condition : Prop} [Decidable condition] {error : ε} :
    Uses allowed (Concurrent.failIf condition error : Fallible Op Answer ε Unit) := by
  unfold Concurrent.failIf
  split
  · exact throw
  · exact pure

end Fallible.Uses

def Action.Uses (allowed : Op → Prop) (action : Action Op Answer Memory ε α) : Prop :=
  ∀ memory, Program.Uses allowed (action memory)

namespace Action.Uses

variable {action : Action Op Answer Memory ε α} {next : α → Action Op Answer Memory ε β}

theorem pure {value : α} : Uses allowed (Pure.pure value : Action Op Answer Memory ε α) :=
  fun _ => .done _

theorem throw {error : ε} : Uses allowed (MonadExcept.throw error : Action Op Answer Memory ε α) :=
  fun _ => .done _

theorem bind (first : action.Uses allowed) (rest : ∀ value, (next value).Uses allowed) :
    Uses allowed (action >>= next) := by
  intro memory
  refine Program.Uses.bind (first memory) ?_
  rintro ⟨error | value, changed⟩
  · exact .done _
  · exact rest value changed

theorem lift {program : Fallible Op Answer ε α} (first : program.Uses allowed) :
    Uses allowed (liftM program : Action Op Answer Memory ε α) :=
  fun _ => Program.Uses.bind first fun _ => .done _

theorem get : Uses allowed (MonadState.get : Action Op Answer Memory ε Memory) := fun _ => .done _

theorem modify {change : Memory → Memory} :
    Uses allowed (modify change : Action Op Answer Memory ε Unit) := fun _ => .done _

theorem ofExcept {result : Except ε α} :
    Uses allowed (Action.ofExcept result : Action Op Answer Memory ε α) := fun _ => .done _

theorem failIf {condition : Prop} [Decidable condition] {error : ε} :
    Uses allowed (Concurrent.failIf condition error : Action Op Answer Memory ε Unit) := by
  unfold Concurrent.failIf
  split
  · exact throw
  · exact pure

end Action.Uses

def Since (client : Nat) (allowed : Op → Prop) (log later : List (Event Op Answer Call Effect)) :
    Prop :=
  ∃ newer, later = newer ++ log ∧ ∀ event ∈ newer, event.client = client → allowed event.op

theorem Since.refl (client : Nat) (log : List (Event Op Answer Call Effect)) :
    Since client allowed log log := ⟨[], rfl, by simp⟩

theorem Since.suffix {client : Nat} {log later : List (Event Op Answer Call Effect)}
    (since : Since client allowed log later) : log <:+ later := by
  obtain ⟨newer, grown, _⟩ := since
  exact ⟨newer, grown.symm⟩

theorem Since.interferes {client : Nat} {log middle later : List (Event Op Answer Call Effect)}
    (since : Since client allowed log middle) (interferes : Interferes client middle later) :
    Since client allowed log later := by
  obtain ⟨between, rfl, made⟩ := since
  obtain ⟨newer, rfl, foreign⟩ := interferes
  refine ⟨newer ++ between, by simp, ?_⟩
  intro event member own
  rcases List.mem_append.mp member with late | early
  · exact absurd own (foreign event late)
  · exact made event early own

theorem Since.cons {client : Nat} {log later : List (Event Op Answer Call Effect)}
    {event : Event Op Answer Call Effect} (since : Since client allowed log later)
    (permitted : allowed event.op) : Since client allowed log (event :: later) := by
  obtain ⟨newer, rfl, made⟩ := since
  refine ⟨event :: newer, rfl, ?_⟩
  intro found member own
  rcases List.mem_cons.mp member with rfl | earlier
  · exact permitted
  · exact made found earlier own

variable {law : Law Op Answer Call Effect} {agent : Nat × Call}
  {log : List (Event Op Answer Call Effect)}

theorem Safe.since {base : List (Event Op Answer Call Effect)}
    {post : α → List (Event Op Answer Call Effect) → Prop} {program : Program Op Answer α}
    (safe : Safe law agent post program log) (uses : program.Uses allowed)
    (before : Since agent.1 allowed base log) :
    Safe law agent (fun value later => post value later ∧ Since agent.1 allowed base later)
      program log := by
  induction uses generalizing log with
  | done value => exact ⟨safe, before⟩
  | ask permitted _ ih =>
      intro later interferes valid answer effect served
      obtain ⟨kept, rest⟩ := safe later interferes valid answer effect served
      exact ⟨kept, ih answer rest ((before.interferes interferes).cons permitted)⟩

theorem Action.Meets.since {base : List (Event Op Answer Call Effect)}
    {post : α → List (Event Op Answer Call Effect) → Prop}
    {fail : ε → List (Event Op Answer Call Effect) → Prop} {action : Action Op Answer Memory ε α}
    (meets : Action.Meets law agent action log post fail) (uses : action.Uses allowed)
    (before : Since agent.1 allowed base log) (valid : Valid law log) :
    Action.Meets law agent action log
      (fun value later => post value later ∧ Since agent.1 allowed base later) fail := by
  intro memory
  refine (Safe.since (meets memory) (uses memory) before).weaken valid ?_
  rintro ⟨error | value, changed⟩ later _ _ ⟨holds, since⟩
  · exact holds
  · exact ⟨holds, since⟩

end Concurrent
