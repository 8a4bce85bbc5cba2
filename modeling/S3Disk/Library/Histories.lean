import S3Disk.Library.Checks
import S3Disk.Library.Solo

/-! The complete runs of a program: what it asked, what it was answered and what it
returned, with one inversion lemma for each way a program is put together. -/

namespace Concurrent

variable {Op : Type} {Answer : Op → Type} {ε α β : Type}

inductive Program.Ends : Program Op Answer α → List (Exchange Op Answer) → α → Prop
  | done {value : α} : Ends (.done value) [] value
  | ask {op next answer history value} (rest : Ends (next answer) history value) :
      Ends (.ask op next) (⟨op, answer⟩ :: history) value

variable {history : List (Exchange Op Answer)}

theorem Program.ends_done {value result : α} :
    (Program.done value : Program Op Answer α).Ends history result ↔
      history = [] ∧ result = value := by
  constructor
  · rintro ⟨⟩
    exact ⟨rfl, rfl⟩
  · rintro ⟨rfl, rfl⟩
    exact .done

theorem Program.ends_ask {op : Op} {next : Answer op → Program Op Answer α} {result : α} :
    (Program.ask op next).Ends history result ↔
      ∃ answer rest, history = ⟨op, answer⟩ :: rest ∧ (next answer).Ends rest result := by
  constructor
  · rintro (_ | rest)
    exact ⟨_, _, rfl, rest⟩
  · rintro ⟨answer, rest, rfl, ends⟩
    exact .ask ends

theorem Program.ends_bind {program : Program Op Answer α} {next : α → Program Op Answer β}
    {result : β} : (program.bind next).Ends history result ↔
      ∃ first second middle, history = first ++ second ∧ program.Ends first middle ∧
        (next middle).Ends second result := by
  induction program generalizing history with
  | done value =>
      constructor
      · intro ends
        exact ⟨[], history, value, rfl, .done, ends⟩
      · rintro ⟨first, second, middle, rfl, ⟨⟩, ends⟩
        exact ends
  | ask op rest ih =>
      constructor
      · intro ends
        obtain ⟨answer, later, rfl, tail⟩ := ends_ask.mp ends
        obtain ⟨first, second, middle, rfl, start, finish⟩ := (ih answer).mp tail
        exact ⟨_, second, middle, rfl, .ask start, finish⟩
      · rintro ⟨first, second, middle, rfl, start, finish⟩
        obtain ⟨answer, later, rfl, tail⟩ := ends_ask.mp start
        exact .ask ((ih answer).mpr ⟨later, second, middle, rfl, tail, finish⟩)

theorem Program.Ensures.ends {allowed : Op → Prop} {post : α → Prop}
    {fits : Exchange Op Answer → Prop} {program : Program Op Answer α}
    (ensures : program.Ensures allowed post)
    (able : ∀ op, allowed op → ∃ answer, fits ⟨op, answer⟩) :
    ∃ history value, program.Ends history value ∧ ∀ exchange ∈ history, fits exchange := by
  induction ensures with
  | done holds => exact ⟨[], _, .done, by simp⟩
  | ask permitted _ ih =>
      obtain ⟨answer, fitting⟩ := able _ permitted
      obtain ⟨history, value, ends, all⟩ := ih answer
      refine ⟨_, value, .ask ends, ?_⟩
      rintro exchange (_ | ⟨_, member⟩)
      · exact fitting
      · exact all exchange member

theorem Program.Ensures.of_ends {allowed : Op → Prop} {post : α → Prop} {value : α}
    {program : Program Op Answer α} (ensures : program.Ensures allowed post)
    (ends : program.Ends history value) :
    post value ∧ ∀ exchange ∈ history, allowed exchange.op := by
  induction ends with
  | done =>
      cases ensures with
      | done holds => exact ⟨holds, by simp⟩
  | ask _ ih =>
      cases ensures with
      | ask permitted rest =>
          obtain ⟨holds, all⟩ := ih (rest _)
          refine ⟨holds, ?_⟩
          rintro exchange (_ | ⟨_, member⟩)
          · exact permitted
          · exact all exchange member

theorem Program.ends_of_answered {answers : ∀ op, Option (Answer op)}
    {program : Program Op Answer α} {value : α} (ran : program.answered answers = some value) :
    ∃ history, program.Ends history value ∧
      ∀ exchange ∈ history, answers exchange.op = some exchange.answer := by
  induction program with
  | done result =>
      obtain rfl := Option.some.inj ran
      exact ⟨[], .done, by simp⟩
  | ask op next ih =>
      unfold Program.answered at ran
      cases given : answers op with
      | none => simp [given] at ran
      | some answer =>
          rw [given] at ran
          obtain ⟨history, ends, all⟩ := ih answer ran
          refine ⟨⟨op, answer⟩ :: history, .ask ends, ?_⟩
          rintro exchange (_ | ⟨_, member⟩)
          · exact given
          · exact all exchange member

def Program.Settles (fits : Exchange Op Answer → Prop) (program : Program Op Answer α)
    (post : α → Prop) : Prop :=
  ∀ history value, program.Ends history value → (∀ exchange ∈ history, fits exchange) → post value

theorem Program.Settles.bind {fits : Exchange Op Answer → Prop} {program : Program Op Answer α}
    {next : α → Program Op Answer β} {middle : α → Prop} {post : β → Prop}
    (first : program.Settles fits middle)
    (rest : ∀ value, middle value → (next value).Settles fits post) :
    (program.bind next).Settles fits post := by
  intro history result ends all
  obtain ⟨before, after, value, rfl, start, finish⟩ := Program.ends_bind.mp ends
  have holds := first before value start fun exchange member => all exchange (by simp [member])
  exact rest value holds after result finish fun exchange member => all exchange (by simp [member])

inductive Program.Limited (allowed : Op → Prop) : Nat → Program Op Answer α → Prop
  | done {limit : Nat} {value : α} : Limited allowed limit (.done value)
  | ask {limit op next} (permitted : allowed op)
      (rest : ∀ answer, Limited allowed limit (next answer)) :
      Limited allowed (limit + 1) (.ask op next)

theorem Program.Limited.mono {allowed : Op → Prop} {program : Program Op Answer α}
    {limit wider : Nat} (limited : program.Limited allowed limit) (le : limit ≤ wider) :
    program.Limited allowed wider := by
  induction limited generalizing wider with
  | done => exact .done
  | @ask limit op next permitted _ ih =>
      obtain ⟨rest, rfl⟩ : ∃ rest, wider = rest + 1 := ⟨wider - 1, by omega⟩
      exact .ask permitted fun answer => ih answer (by omega)

theorem Program.Limited.bind {allowed : Op → Prop} {program : Program Op Answer α}
    {next : α → Program Op Answer β} {limit more total : Nat}
    (first : program.Limited allowed limit) (rest : ∀ value, (next value).Limited allowed more)
    (enough : limit + more ≤ total) : (program.bind next).Limited allowed total := by
  induction first generalizing total with
  | done => exact (rest _).mono (by omega)
  | @ask limit op next permitted _ ih =>
      obtain ⟨total, rfl⟩ : ∃ rest, total = rest + 1 := ⟨total - 1, by omega⟩
      exact .ask permitted fun answer => ih answer (by omega)

namespace Fallible

def Ends (program : Fallible Op Answer ε α) (history : List (Exchange Op Answer))
    (result : Except ε α) : Prop :=
  Program.Ends program history result

variable {program : Fallible Op Answer ε α} {next : α → Fallible Op Answer ε β}

theorem ends_pure {value : α} {result : Except ε α} :
    (pure value : Fallible Op Answer ε α).Ends history result ↔
      history = [] ∧ result = .ok value := Program.ends_done

theorem ends_throw {error : ε} {result : Except ε α} :
    (throw error : Fallible Op Answer ε α).Ends history result ↔
      history = [] ∧ result = .error error := Program.ends_done

theorem ends_ofExcept {value result : Except ε α} :
    (ofExcept value : Fallible Op Answer ε α).Ends history result ↔
      history = [] ∧ result = value := Program.ends_done

theorem ends_request {op : Op} {next : Answer op → Except ε α} {result : Except ε α} :
    Ends (Program.ask op fun answer => .done (next answer) : Fallible Op Answer ε α) history result ↔
      ∃ answer, history = [⟨op, answer⟩] ∧ result = next answer := by
  unfold Ends
  simp only [Program.ends_ask, Program.ends_done]
  constructor
  · rintro ⟨answer, rest, rfl, rfl, rfl⟩
    exact ⟨answer, rfl, rfl⟩
  · rintro ⟨answer, rfl, rfl⟩
    exact ⟨answer, [], rfl, rfl, rfl⟩

theorem ends_bind_ok {result : β} :
    (program >>= next : Fallible Op Answer ε β).Ends history (.ok result) ↔
      ∃ first second value, history = first ++ second ∧ program.Ends first (.ok value) ∧
        (next value).Ends second (.ok result) := by
  refine Program.ends_bind.trans ?_
  constructor
  · rintro ⟨first, second, error | value, rfl, start, ends⟩
    · cases ends
    · exact ⟨first, second, value, rfl, start, ends⟩
  · rintro ⟨first, second, value, rfl, start, ends⟩
    exact ⟨first, second, .ok value, rfl, start, ends⟩

theorem ends_bind {result : Except ε β} :
    (program >>= next : Fallible Op Answer ε β).Ends history result ↔
      (∃ error, program.Ends history (.error error) ∧ result = .error error) ∨
      ∃ first second value, history = first ++ second ∧ program.Ends first (.ok value) ∧
        (next value).Ends second result := by
  refine Program.ends_bind.trans ?_
  constructor
  · rintro ⟨first, second, error | value, rfl, start, ends⟩
    · obtain ⟨rfl, rfl⟩ := Program.ends_done.mp ends
      rw [List.append_nil]
      exact .inl ⟨error, start, rfl⟩
    · exact .inr ⟨first, second, value, rfl, start, ends⟩
  · rintro (⟨error, start, rfl⟩ | ⟨first, second, value, rfl, start, ends⟩)
    · exact ⟨history, [], .error error, by simp, start, .done⟩
    · exact ⟨first, second, .ok value, rfl, start, ends⟩

theorem ends_attempt {result : Except ε (Except ε α)} :
    program.attempt.Ends history result ↔
      ∃ inner, program.Ends history inner ∧ result = .ok inner := by
  refine Program.ends_bind.trans ?_
  simp only [Program.ends_done]
  constructor
  · rintro ⟨first, second, inner, rfl, start, rfl, rfl⟩
    rw [List.append_nil]
    exact ⟨inner, start, rfl⟩
  · rintro ⟨inner, start, rfl⟩
    exact ⟨history, [], inner, by simp, start, rfl, rfl⟩

theorem ends_failIf {condition : Prop} [Decidable condition] {error : ε}
    {result : Except ε Unit} :
    (failIf condition error : Fallible Op Answer ε Unit).Ends history result ↔
      history = [] ∧ (condition ∧ result = .error error ∨ ¬condition ∧ result = .ok ()) := by
  by_cases holds : condition
  · simp only [failIf, holds, if_true, ends_throw]
    simp
  · simp only [failIf, holds, if_false, ends_pure]
    simp

theorem ends_attempt_bind {next : Except ε α → Fallible Op Answer ε β} {result : Except ε β} :
    (program.attempt >>= next : Fallible Op Answer ε β).Ends history result ↔
      ∃ first second inner, history = first ++ second ∧ program.Ends first inner ∧
        (next inner).Ends second result := by
  rw [ends_bind]
  constructor
  · rintro (⟨error, start, -⟩ | ⟨first, second, inner, rfl, start, finish⟩)
    · obtain ⟨inner, -, impossible⟩ := ends_attempt.mp start
      cases impossible
    · obtain ⟨_, start, ⟨⟩⟩ := ends_attempt.mp start
      exact ⟨first, second, inner, rfl, start, finish⟩
  · rintro ⟨first, second, inner, rfl, start, finish⟩
    exact .inr ⟨first, second, inner, rfl, ends_attempt.mpr ⟨inner, start, rfl⟩, finish⟩

theorem ends_failIf_bind_ok {condition : Prop} [Decidable condition] {error : ε}
    {next : Unit → Fallible Op Answer ε β} {result : β} :
    (failIf condition error >>= next : Fallible Op Answer ε β).Ends history (.ok result) ↔
      ¬condition ∧ (next ()).Ends history (.ok result) := by
  rw [ends_bind_ok]
  constructor
  · rintro ⟨first, second, value, rfl, start, finish⟩
    obtain ⟨rfl, ⟨-, impossible⟩ | ⟨fails, -⟩⟩ := ends_failIf.mp start
    · cases impossible
    · exact ⟨fails, finish⟩
  · rintro ⟨fails, finish⟩
    exact ⟨[], history, (), rfl, ends_failIf.mpr ⟨rfl, .inr ⟨fails, rfl⟩⟩, finish⟩

theorem ends_ofExcept_bind_ok {first : Except ε α} {result : β} :
    (ofExcept first >>= next : Fallible Op Answer ε β).Ends history (.ok result) ↔
      ∃ value, first = .ok value ∧ (next value).Ends history (.ok result) := by
  rw [ends_bind_ok]
  constructor
  · rintro ⟨before, after, value, rfl, start, finish⟩
    obtain ⟨rfl, same⟩ := ends_ofExcept.mp start
    exact ⟨value, same.symm, finish⟩
  · rintro ⟨value, same, finish⟩
    exact ⟨[], history, value, rfl, ends_ofExcept.mpr ⟨rfl, same.symm⟩, finish⟩

def Settles (fits : Exchange Op Answer → Prop) (program : Fallible Op Answer ε α)
    (post : Except ε α → Prop) : Prop :=
  Program.Settles fits program post

namespace Settles

variable {fits : Exchange Op Answer → Prop} {middle : Except ε α → Prop} {post : Except ε β → Prop}

theorem pure {value : β} (holds : post (.ok value)) :
    Settles fits (Pure.pure value : Fallible Op Answer ε β) post := by
  intro history result ends _
  rw [(ends_pure.mp ends).2]
  exact holds

theorem throw {error : ε} (holds : post (.error error)) :
    Settles fits (MonadExcept.throw error : Fallible Op Answer ε β) post := by
  intro history result ends _
  rw [(ends_throw.mp ends).2]
  exact holds

theorem ofExcept {result : Except ε β} (holds : post result) :
    Settles fits (Fallible.ofExcept result : Fallible Op Answer ε β) post := by
  intro history value ends _
  rw [(ends_ofExcept.mp ends).2]
  exact holds

theorem request {op : Op} {next : Answer op → Except ε α}
    (good : ∀ answer, fits ⟨op, answer⟩ → middle (next answer)) :
    Settles fits (Program.ask op fun answer => .done (next answer) : Fallible Op Answer ε α)
      middle := by
  intro history result ends all
  obtain ⟨answer, rfl, rfl⟩ := ends_request.mp ends
  exact good answer (all _ (by simp))

theorem bind (first : program.Settles fits middle)
    (errors : ∀ error, middle (.error error) → post (.error error))
    (values : ∀ value, middle (.ok value) → (next value).Settles fits post) :
    Settles fits (program >>= next) post := by
  refine Program.Settles.bind first ?_
  rintro (error | value) holds
  · exact ofExcept (errors error holds)
  · exact values value holds

theorem bindExcept {result : Except ε α} (errors : ∀ error, result = .error error → post (.error error))
    (values : ∀ value, result = .ok value → (next value).Settles fits post) :
    Settles fits (Fallible.ofExcept result >>= next) post := by
  have same : Settles fits (Fallible.ofExcept result : Fallible Op Answer ε α) (result = ·) :=
    ofExcept rfl
  exact bind same errors values

theorem attempt (first : program.Settles fits middle) :
    Settles fits program.attempt fun result => ∃ inner, result = .ok inner ∧ middle inner := by
  refine Program.Settles.bind first ?_
  intro inner holds
  exact ofExcept ⟨inner, rfl, holds⟩

theorem check {condition : Prop} [Decidable condition] {error : ε} {post : Except ε Unit → Prop}
    (failed : condition → post (.error error)) (passed : ¬condition → post (.ok ())) :
    Settles fits (Concurrent.failIf condition error : Fallible Op Answer ε Unit) post := by
  by_cases holds : condition
  · simp only [Concurrent.failIf, holds, if_true]
    exact throw (failed holds)
  · simp only [Concurrent.failIf, holds, if_false]
    exact pure (passed holds)

theorem failIf {condition : Prop} [Decidable condition] {error : ε}
    {next : Unit → Fallible Op Answer ε β} (failed : condition → post (.error error))
    (passed : ¬condition → (next ()).Settles fits post) :
    Settles fits (Concurrent.failIf condition error >>= next) post := by
  by_cases holds : condition
  · simp only [Concurrent.failIf, holds, if_true]
    exact throw (failed holds)
  · simp only [Concurrent.failIf, holds, if_false]
    exact passed holds

theorem weaken {other : Except ε α → Prop} (settles : program.Settles fits middle)
    (implies : ∀ result, middle result → other result) : program.Settles fits other := by
  intro history result ends all
  exact implies result (settles history result ends all)

end Settles

def Succeeds (fits : Exchange Op Answer → Prop) (program : Fallible Op Answer ε α)
    (post : α → Prop) : Prop :=
  program.Settles fits fun result => ∃ value, result = .ok value ∧ post value

namespace Succeeds

variable {fits : Exchange Op Answer → Prop} {middle : α → Prop} {post : β → Prop}

theorem pure {value : α} (holds : middle value) :
    Succeeds fits (Pure.pure value : Fallible Op Answer ε α) middle :=
  Settles.pure ⟨value, rfl, holds⟩

theorem request {op : Op} {next : Answer op → Except ε α}
    (good : ∀ answer, fits ⟨op, answer⟩ → ∃ value, next answer = .ok value ∧ middle value) :
    Succeeds fits (Program.ask op fun answer => .done (next answer) : Fallible Op Answer ε α)
      middle :=
  Settles.request good

theorem settles (first : Succeeds fits program middle) {post : Except ε β → Prop}
    (rest : ∀ value, middle value → (next value).Settles fits post) :
    Settles fits (program >>= next) post := by
  refine Settles.bind first ?_ ?_
  · rintro error ⟨_, impossible, -⟩
    cases impossible
  · rintro value ⟨_, ⟨⟩, holds⟩
    exact rest value holds

theorem bind (first : Succeeds fits program middle)
    (rest : ∀ value, middle value → Succeeds fits (next value) post) :
    Succeeds fits (program >>= next) post := first.settles rest

theorem attempt (first : Succeeds fits program middle) :
    Succeeds fits program.attempt fun result => ∃ value, result = .ok value ∧ middle value :=
  Settles.attempt first

theorem attemptAny : Succeeds fits program.attempt fun _ => True := by
  intro history result ends _
  obtain ⟨inner, -, rfl⟩ := ends_attempt.mp ends
  exact ⟨inner, rfl, trivial⟩

theorem failIf {condition : Prop} [Decidable condition] {error : ε} (fails : ¬condition) :
    Succeeds fits (Concurrent.failIf condition error : Fallible Op Answer ε Unit) fun _ => True := by
  simp only [Concurrent.failIf, fails, if_false]
  exact pure trivial

theorem ofExcept {result : Except ε α} {value : α} (same : result = .ok value)
    (holds : middle value) :
    Succeeds fits (Fallible.ofExcept result : Fallible Op Answer ε α) middle :=
  Settles.ofExcept ⟨value, same, holds⟩

end Succeeds

def Limited (allowed : Op → Prop) (limit : Nat) (program : Fallible Op Answer ε α) : Prop :=
  Program.Limited allowed limit program

namespace Limited

variable {allowed : Op → Prop} {limit more total : Nat}

theorem pure {value : β} :
    Limited allowed limit (Pure.pure value : Fallible Op Answer ε β) := .done

theorem throw {error : ε} :
    Limited allowed limit (MonadExcept.throw error : Fallible Op Answer ε β) := .done

theorem ofExcept {result : Except ε β} :
    Limited allowed limit (Fallible.ofExcept result : Fallible Op Answer ε β) := .done

theorem request {op : Op} {next : Answer op → Except ε α} (permitted : allowed op) :
    Limited allowed 1 (Program.ask op fun answer => .done (next answer) : Fallible Op Answer ε α) :=
  .ask permitted fun _ => .done

theorem bind (first : program.Limited allowed limit)
    (rest : ∀ value, (next value).Limited allowed more) (enough : limit + more ≤ total) :
    Limited allowed total (program >>= next) := by
  refine Program.Limited.bind first ?_ enough
  rintro (error | value)
  · exact .done
  · exact rest value

theorem quiet (first : program.Limited allowed limit)
    (rest : ∀ value, (next value).Limited allowed 0) :
    Limited allowed limit (program >>= next) := bind first rest (by omega)

theorem bindExcept {result : Except ε α} (rest : ∀ value, (next value).Limited allowed limit) :
    Limited allowed limit (Fallible.ofExcept result >>= next) := by
  have none : Limited allowed 0 (Fallible.ofExcept result : Fallible Op Answer ε α) := ofExcept
  exact bind none rest (by omega)

theorem attempt (first : program.Limited allowed limit) :
    Limited allowed limit program.attempt := by
  have rest : ∀ result : Except ε α, Program.Limited allowed 0
      (.done (.ok result) : Program Op Answer (Except ε (Except ε α))) := fun _ => .done
  exact Program.Limited.bind first rest (by omega)

theorem failIf {condition : Prop} [Decidable condition] {error : ε}
    {next : Unit → Fallible Op Answer ε β} (rest : ¬condition → (next ()).Limited allowed limit) :
    Limited allowed limit (Concurrent.failIf condition error >>= next) := by
  by_cases holds : condition
  · simp only [Concurrent.failIf, holds, if_true]
    exact throw
  · simp only [Concurrent.failIf, holds, if_false]
    exact rest holds

end Limited

end Fallible

namespace Action

variable {Memory : Type} {fits : Exchange Op Answer → Prop}
  {action : Action Op Answer Memory ε α} {next : α → Action Op Answer Memory ε β}
  {middle : Except ε α → Prop} {post : Except ε β → Prop}

def Settles (fits : Exchange Op Answer → Prop) (action : Action Op Answer Memory ε α)
    (post : Except ε α → Prop) : Prop :=
  ∀ memory, (action memory).Settles fits fun result => post result.1

namespace Settles

theorem returns {result : Except ε β × Memory} (holds : post result.1) :
    (Program.done result : Program Op Answer (Except ε β × Memory)).Settles fits
      fun result => post result.1 := by
  intro history value ends _
  rw [(Program.ends_done.mp ends).2]
  exact holds

theorem throw {error : ε} (holds : post (.error error)) :
    Settles fits (MonadExcept.throw error : Action Op Answer Memory ε β) post :=
  fun _ => returns holds

theorem ofExcept {result : Except ε β} (holds : post result) :
    Settles fits (Action.ofExcept result : Action Op Answer Memory ε β) post :=
  fun _ => returns holds

theorem bind (first : action.Settles fits middle)
    (errors : ∀ error, middle (.error error) → post (.error error))
    (values : ∀ value, middle (.ok value) → (next value).Settles fits post) :
    Settles fits (action >>= next) post := by
  intro memory
  refine Program.Settles.bind (first memory) ?_
  rintro ⟨error | value, changed⟩ holds
  · exact returns (errors error holds)
  · exact values value holds changed

theorem bindExcept {result : Except ε α} (errors : ∀ error, result = .error error → post (.error error))
    (values : ∀ value, result = .ok value → (next value).Settles fits post) :
    Settles fits (Action.ofExcept result >>= next) post := by
  have same : Settles fits (Action.ofExcept result : Action Op Answer Memory ε α) (result = ·) :=
    ofExcept rfl
  exact bind same errors values

theorem after {property : α → Prop}
    (first : action.Settles fits fun result => ∃ value, result = .ok value ∧ property value)
    (rest : ∀ value, property value → (next value).Settles fits post) :
    Settles fits (action >>= next) post := by
  refine bind first ?_ ?_
  · rintro error ⟨_, impossible, -⟩
    cases impossible
  · rintro value ⟨_, ⟨⟩, holds⟩
    exact rest value holds

theorem attempt (first : action.Settles fits middle) :
    Settles fits action.attempt fun result => ∃ inner, result = .ok inner ∧ middle inner := by
  intro memory
  refine Program.Settles.bind (first memory) ?_
  rintro ⟨result, changed⟩ holds
  intro history value ends _
  rw [(Program.ends_done.mp ends).2]
  exact ⟨result, rfl, holds⟩

theorem lift {program : Fallible Op Answer ε α} (first : program.Settles fits middle) :
    Settles fits (liftM program : Action Op Answer Memory ε α) middle := by
  intro memory
  refine Program.Settles.bind first ?_
  intro result holds
  exact returns holds

theorem check {condition : Prop} [Decidable condition] {error : ε} {post : Except ε Unit → Prop}
    (failed : condition → post (.error error)) (passed : ¬condition → post (.ok ())) :
    Settles fits (Concurrent.failIf condition error : Action Op Answer Memory ε Unit) post := by
  by_cases holds : condition
  · simp only [Concurrent.failIf, holds, if_true]
    exact throw (failed holds)
  · simp only [Concurrent.failIf, holds, if_false]
    exact fun _ => returns (passed holds)

theorem failIf {condition : Prop} [Decidable condition] {error : ε}
    {next : Unit → Action Op Answer Memory ε β} (failed : condition → post (.error error))
    (passed : ¬condition → (next ()).Settles fits post) :
    Settles fits (Concurrent.failIf condition error >>= next) post := by
  by_cases holds : condition
  · simp only [Concurrent.failIf, holds, if_true]
    exact throw (failed holds)
  · simp only [Concurrent.failIf, holds, if_false]
    exact passed holds

theorem weaken {other : Except ε α → Prop} (settles : action.Settles fits middle)
    (implies : ∀ result, middle result → other result) : action.Settles fits other := by
  intro memory history result ends all
  exact implies result.1 (settles memory history result ends all)

end Settles

def Limited (allowed : Op → Prop) (limit : Nat) (action : Action Op Answer Memory ε α) : Prop :=
  ∀ memory, (action memory).Limited allowed limit

namespace Limited

variable {allowed : Op → Prop} {limit more total : Nat}

theorem throw {error : ε} :
    Limited allowed limit (MonadExcept.throw error : Action Op Answer Memory ε β) := fun _ => .done

theorem ofExcept {result : Except ε β} :
    Limited allowed limit (Action.ofExcept result : Action Op Answer Memory ε β) := fun _ => .done

theorem bind (first : action.Limited allowed limit)
    (rest : ∀ value, (next value).Limited allowed more) (enough : limit + more ≤ total) :
    Limited allowed total (action >>= next) := by
  intro memory
  refine Program.Limited.bind (first memory) ?_ enough
  rintro ⟨error | value, changed⟩
  · exact .done
  · exact rest value changed

theorem bindExcept {result : Except ε α} (rest : ∀ value, (next value).Limited allowed limit) :
    Limited allowed limit (Action.ofExcept result >>= next) := by
  have none : Limited allowed 0 (Action.ofExcept result : Action Op Answer Memory ε α) := ofExcept
  exact bind none rest (by omega)

theorem attempt (first : action.Limited allowed limit) :
    Limited allowed limit action.attempt := by
  intro memory
  have rest : ∀ result : Except ε α × Memory, Program.Limited allowed 0
      (.done (.ok result.1, result.2) : Program Op Answer (Except ε (Except ε α) × Memory)) :=
    fun _ => .done
  exact Program.Limited.bind (first memory) rest (by omega)

theorem lift {program : Fallible Op Answer ε α} (first : program.Limited allowed limit) :
    Limited allowed limit (liftM program : Action Op Answer Memory ε α) := by
  intro memory
  have rest : ∀ result : Except ε α, Program.Limited allowed 0
      (.done (result, memory) : Program Op Answer (Except ε α × Memory)) := fun _ => .done
  exact Program.Limited.bind first rest (by omega)

theorem failIf {condition : Prop} [Decidable condition] {error : ε}
    {next : Unit → Action Op Answer Memory ε β} (rest : ¬condition → (next ()).Limited allowed limit) :
    Limited allowed limit (Concurrent.failIf condition error >>= next) := by
  by_cases holds : condition
  · simp only [Concurrent.failIf, holds, if_true]
    exact throw
  · simp only [Concurrent.failIf, holds, if_false]
    exact rest holds

end Limited

end Action

end Concurrent
