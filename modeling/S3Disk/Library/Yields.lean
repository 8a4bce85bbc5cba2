import S3Disk.Library.Ensures

/-! What an action leaves in its memory, whatever the answers to its requests are: one
condition when it succeeds and one when it fails. -/

namespace Concurrent

variable {Op : Type} {Answer : Op → Type} {Memory ε α β : Type}

def Ends (post : α → Memory → Prop) (fail : Memory → Prop) : Except ε α × Memory → Prop
  | (.ok value, memory) => post value memory
  | (.error _, memory) => fail memory

def Action.Yields (allowed : Op → Prop) (action : Action Op Answer Memory ε α) (memory : Memory)
    (post : α → Memory → Prop) (fail : Memory → Prop) : Prop :=
  Program.Ensures allowed (Ends post fail) (action memory)

namespace Action.Yields

variable {allowed : Op → Prop} {memory : Memory} {action : Action Op Answer Memory ε α}
  {next : α → Action Op Answer Memory ε β} {middle : α → Memory → Prop}
  {post : β → Memory → Prop} {fail firstFail : Memory → Prop}

theorem pure {value : β} (holds : post value memory) :
    Yields allowed (Pure.pure value : Action Op Answer Memory ε β) memory post fail := .done holds

theorem throw {error : ε} (holds : fail memory) :
    Yields allowed (MonadExcept.throw error : Action Op Answer Memory ε β) memory post fail :=
  .done holds

theorem bind (first : action.Yields allowed memory middle fail)
    (rest : ∀ value changed, middle value changed → (next value).Yields allowed changed post fail) :
    Yields allowed (action >>= next) memory post fail := by
  refine Program.Ensures.bind first ?_
  rintro ⟨error | value, changed⟩ holds
  · exact .done holds
  · exact rest value changed holds

theorem weaken {action : Action Op Answer Memory ε β} {other : β → Memory → Prop}
    (yields : action.Yields allowed memory post firstFail)
    (values : ∀ value changed, post value changed → other value changed)
    (errors : ∀ changed, firstFail changed → fail changed) :
    action.Yields allowed memory other fail := by
  refine Program.Ensures.weaken yields ?_
  rintro ⟨error | value, changed⟩ holds
  · exact errors changed holds
  · exact values value changed holds

theorem attempt (first : action.Yields allowed memory middle firstFail)
    {next : Except ε α → Action Op Answer Memory ε β}
    (rest : ∀ result changed, Ends middle firstFail (result, changed) →
      (next result).Yields allowed changed post fail) :
    Yields allowed (action.attempt >>= next) memory post fail := by
  have attempted : Yields allowed action.attempt memory
      (fun result changed => Ends middle firstFail (result, changed)) fail := by
    refine Program.Ensures.bind first ?_
    rintro ⟨result, changed⟩ holds
    exact .done holds
  exact bind attempted rest

theorem get {next : Memory → Action Op Answer Memory ε β}
    (rest : (next memory).Yields allowed memory post fail) :
    Yields allowed (MonadState.get >>= next) memory post fail := rest

theorem modify {change : Memory → Memory} {post : Unit → Memory → Prop}
    (holds : post () (change memory)) :
    Yields allowed (modify change : Action Op Answer Memory ε Unit) memory post fail := .done holds

theorem bindModify {change : Memory → Memory} {next : PUnit → Action Op Answer Memory ε β}
    (rest : (next ()).Yields allowed (change memory) post fail) :
    Yields allowed (MonadState.modifyGet (fun memory => ((), change memory)) >>= next) memory post
      fail := rest

theorem check {condition : Prop} [Decidable condition] {error : ε} {post : Unit → Memory → Prop}
    (failed : condition → fail memory) (passed : ¬condition → post () memory) :
    Yields allowed (Concurrent.failIf condition error : Action Op Answer Memory ε Unit) memory post
      fail := by
  by_cases holds : condition
  · simp only [Concurrent.failIf, holds, if_true]
    exact .done (failed holds)
  · simp only [Concurrent.failIf, holds, if_false]
    exact .done (passed holds)

theorem failIf {condition : Prop} [Decidable condition] {error : ε}
    {next : Unit → Action Op Answer Memory ε β} (failed : condition → fail memory)
    (rest : ¬condition → (next ()).Yields allowed memory post fail) :
    Yields allowed (Concurrent.failIf condition error >>= next) memory post fail := by
  have passed : Yields allowed
      (Concurrent.failIf condition error : Action Op Answer Memory ε Unit) memory
      (fun _ changed => ¬condition ∧ changed = memory) fail := check failed fun holds => ⟨holds, rfl⟩
  refine bind passed ?_
  rintro _ _ ⟨holds, rfl⟩
  exact rest holds

theorem ofExcept {result : Except ε α} (failed : ∀ error, result = .error error → fail memory)
    (rest : ∀ value, result = .ok value → (next value).Yields allowed memory post fail) :
    Yields allowed (Action.ofExcept result >>= next) memory post fail := by
  cases result with
  | error error => exact .done (failed error rfl)
  | ok value => exact rest value rfl

theorem liftTail {program : Fallible Op Answer ε β} {property : β → Prop}
    (ensures : program.Ensures allowed property) (failed : fail memory)
    (holds : ∀ value, property value → post value memory) :
    Yields allowed (liftM program : Action Op Answer Memory ε β) memory post fail := by
  refine Program.Ensures.bind ensures ?_
  rintro (error | value) returned
  · exact .done failed
  · exact .done (holds value (returned value rfl))

theorem lift {program : Fallible Op Answer ε α} {property : α → Prop}
    (ensures : program.Ensures allowed property) (failed : fail memory)
    (rest : ∀ value, property value → (next value).Yields allowed memory post fail) :
    Yields allowed (liftM program >>= next) memory post fail := by
  have lifted : Yields allowed (liftM program : Action Op Answer Memory ε α) memory
      (fun value changed => property value ∧ changed = memory) fail :=
    liftTail ensures failed fun _ holds => ⟨holds, rfl⟩
  refine bind lifted ?_
  rintro value _ ⟨holds, rfl⟩
  exact rest value holds

end Action.Yields

end Concurrent
