import S3Disk.Library.Footprint

/-! What a program guarantees whatever the answers to its requests are: which requests
it makes, what it returns, and which part of its memory it leaves alone. -/

namespace Concurrent

variable {Op : Type} {Answer : Op → Type} {Call Effect Memory ε α β γ : Type}

inductive Program.Ensures (allowed : Op → Prop) (post : α → Prop) : Program Op Answer α → Prop
  | done {value : α} (holds : post value) : Ensures allowed post (.done value)
  | ask {op next} (permitted : allowed op) (rest : ∀ answer, Ensures allowed post (next answer)) :
      Ensures allowed post (.ask op next)

variable {allowed : Op → Prop}

theorem Program.Ensures.bind {program : Program Op Answer α} {next : α → Program Op Answer β}
    {middle : α → Prop} {post : β → Prop} (first : program.Ensures allowed middle)
    (rest : ∀ value, middle value → (next value).Ensures allowed post) :
    (program.bind next).Ensures allowed post := by
  induction first with
  | done holds => exact rest _ holds
  | ask permitted _ ih => exact .ask permitted ih

theorem Program.Ensures.weaken {program : Program Op Answer α} {post other : α → Prop}
    (ensures : program.Ensures allowed post) (implies : ∀ value, post value → other value) :
    program.Ensures allowed other := by
  induction ensures with
  | done holds => exact .done (implies _ holds)
  | ask permitted _ ih => exact .ask permitted ih

theorem Program.Ensures.widen {program : Program Op Answer α} {post : α → Prop}
    {wider : Op → Prop} (ensures : program.Ensures allowed post)
    (implies : ∀ op, allowed op → wider op) : program.Ensures wider post := by
  induction ensures with
  | done holds => exact .done holds
  | ask permitted _ ih => exact .ask (implies _ permitted) ih

def Fallible.Ensures (allowed : Op → Prop) (program : Fallible Op Answer ε α) (post : α → Prop) :
    Prop :=
  Program.Ensures allowed (fun result => ∀ value, result = .ok value → post value) program

namespace Fallible.Ensures

variable {program : Fallible Op Answer ε α} {next : α → Fallible Op Answer ε β}
  {middle : α → Prop} {post : β → Prop}

theorem pure {value : β} (holds : post value) :
    Ensures allowed (Pure.pure value : Fallible Op Answer ε β) post :=
  .done fun _ same => by cases same; exact holds

theorem throw {error : ε} :
    Ensures allowed (MonadExcept.throw error : Fallible Op Answer ε β) post := .done nofun

theorem request {op : Op} {next : Answer op → Except ε β} (permitted : allowed op)
    (holds : ∀ answer value, next answer = .ok value → post value) :
    Ensures allowed (Program.ask op fun answer => .done (next answer) : Fallible Op Answer ε β)
      post :=
  .ask permitted fun answer => .done (holds answer)

theorem bind (first : program.Ensures allowed middle)
    (rest : ∀ value, middle value → (next value).Ensures allowed post) :
    Ensures allowed (program >>= next) post := by
  refine Program.Ensures.bind first ?_
  rintro (error | value) holds
  · exact .done nofun
  · exact rest value (holds value rfl)

theorem attempt (first : program.Ensures allowed middle) :
    Ensures allowed program.attempt fun result => ∀ value, result = .ok value → middle value :=
  Program.Ensures.bind first fun _ holds => .done fun _ same => by cases same; exact holds

theorem ofExcept {result : Except ε β} (holds : ∀ value, result = .ok value → post value) :
    Ensures allowed (Fallible.ofExcept result : Fallible Op Answer ε β) post := .done holds

theorem failIf {condition : Prop} [Decidable condition] {error : ε} :
    Ensures allowed (Concurrent.failIf condition error : Fallible Op Answer ε Unit)
      fun _ => ¬condition := by
  by_cases holds : condition
  · simp only [Concurrent.failIf, holds, if_true]
    exact throw
  · simp only [Concurrent.failIf, holds, if_false]
    exact pure not_false

theorem weaken {program : Fallible Op Answer ε β} {other : β → Prop}
    (ensures : program.Ensures allowed post) (implies : ∀ value, post value → other value) :
    Ensures allowed program other :=
  Program.Ensures.weaken ensures fun _ holds value same => implies value (holds value same)

theorem widen {program : Fallible Op Answer ε β} {wider : Op → Prop}
    (ensures : program.Ensures allowed post) (implies : ∀ op, allowed op → wider op) :
    Ensures wider program post :=
  Program.Ensures.widen ensures implies

end Fallible.Ensures

def Action.Ensures (allowed : Op → Prop) (view : Memory → γ)
    (action : Action Op Answer Memory ε α) (post : α → Prop) : Prop :=
  ∀ memory, Program.Ensures allowed (fun result => view result.2 = view memory ∧
    ∀ value, result.1 = .ok value → post value) (action memory)

namespace Action.Ensures

variable {view : Memory → γ} {action : Action Op Answer Memory ε α}
  {next : α → Action Op Answer Memory ε β} {middle : α → Prop} {post : β → Prop}

theorem lift {program : Fallible Op Answer ε β} (first : program.Ensures allowed post) :
    Ensures allowed view (liftM program : Action Op Answer Memory ε β) post := fun _ =>
  Program.Ensures.bind first fun _ holds => .done ⟨rfl, holds⟩

end Action.Ensures

theorem Program.Ensures.safe {law : Law Op Answer Call Effect} {agent : Nat × Call}
    {post : α → Prop} {program : Program Op Answer α}
    {base log : List (Event Op Answer Call Effect)} (ensures : program.Ensures allowed post)
    (quiet : ∀ log op answer effect, allowed op → law.serves log (.of agent op answer effect) →
      law.keeps log (.of agent op answer effect))
    (before : Since agent.1 allowed base log) :
    Safe law agent (fun value later => post value ∧ Since agent.1 allowed base later)
      program log := by
  induction ensures generalizing log with
  | done holds => exact ⟨holds, before⟩
  | ask permitted _ ih =>
      intro later interferes valid answer effect served
      exact ⟨quiet later _ answer effect permitted served,
        ih answer ((before.interferes interferes).cons permitted)⟩

theorem Fallible.Ensures.meets {law : Law Op Answer Call Effect} {agent : Nat × Call}
    {program : Fallible Op Answer ε α} {post : α → Prop}
    {log : List (Event Op Answer Call Effect)} (ensures : program.Ensures allowed post)
    (quiet : ∀ log op answer effect, allowed op → law.serves log (.of agent op answer effect) →
      law.keeps log (.of agent op answer effect)) (valid : Valid law log) :
    program.Meets law agent log (fun value _ => post value) fun _ _ => True := by
  refine Safe.weaken (Program.Ensures.safe ensures quiet (.refl _ _)) valid ?_
  rintro (error | value) later _ _ ⟨holds, _⟩
  · trivial
  · exact holds value rfl

end Concurrent
