import S3Disk.Library.Interference

/-! Scripted runs. An environment that answers at once turns a list of turns into one
run, which can be computed. -/

namespace Concurrent

variable {Op : Type} {Answer : Op → Type} {Call Effect Memory Out α : Type}

structure Environment (machine : Machine Op Answer Call Effect Memory Out) where
  respond : List (Event Op Answer Call Effect) → Nat × Call → (op : Op) →
    Option (Answer op × Option Effect)
  served : ∀ log agent op answer effect, respond log agent op = some (answer, effect) →
    machine.serves log (.of agent op answer effect)

section

variable {machine : Machine Op Answer Call Effect Memory Out} (environment : Environment machine)

namespace Environment

def advance (agent : Nat × Call) : Nat → Program Op Answer α →
    List (Event Op Answer Call Effect) →
    Option (Program Op Answer α × List (Event Op Answer Call Effect))
  | 0, program, log => some (program, log)
  | _ + 1, .done value, log => some (.done value, log)
  | count + 1, .ask op next, log => match environment.respond log agent op with
      | none => none
      | some (answer, effect) =>
          advance agent count (next answer) (.of agent op answer effect :: log)

def proceed (client count : Nat) (config : Config Op Answer Call Effect Memory Out) :
    Option (Config Op Answer Call Effect Memory Out) :=
  match config.clients client with
  | .idle _ => none
  | .busy call op next =>
      (environment.advance (client, call) count (.ask op next) config.log).map
        fun reached =>
          ⟨reached.2, Function.update config.clients client (.resume call reached.1)⟩

def finish (client : Nat) (config : Config Op Answer Call Effect Memory Out) :
    Option (Call × Out × Config Op Answer Call Effect Memory Out) :=
  match config.clients client with
  | .idle _ => none
  | .busy call op next => match environment.respond config.log (client, call) op with
      | none => none
      | some (answer, effect) => (returned (next answer)).map fun out =>
          (call, out, ⟨.of (client, call) op answer effect :: config.log,
            Function.update config.clients client (.resume call (next answer))⟩)

variable {environment}

theorem advance_run {agent : Nat × Call} {count : Nat}
    {program reached : Program Op Answer (Out × Memory)} {log later : List (Event Op Answer Call Effect)}
    {clients : Nat → Client Op Answer Call Memory Out}
    (state : clients agent.1 = .resume agent.2 program)
    (advanced : environment.advance agent count program log = some (reached, later)) :
    ∃ labels, machine.Run ⟨log, clients⟩ labels
      ⟨later, Function.update clients agent.1 (.resume agent.2 reached)⟩ := by
  have stays : ∃ labels, machine.Run ⟨log, clients⟩ labels
      ⟨log, Function.update clients agent.1 (.resume agent.2 program)⟩ := by
    rw [← state, Function.update_eq_self]
    exact ⟨[], .nil _⟩
  induction count generalizing program log clients with
  | zero =>
      simp only [advance, Option.some.injEq, Prod.mk.injEq] at advanced
      obtain ⟨rfl, rfl⟩ := advanced
      exact stays
  | succ count ih =>
      cases program with
      | done value =>
          simp only [advance, Option.some.injEq, Prod.mk.injEq] at advanced
          obtain ⟨rfl, rfl⟩ := advanced
          exact stays
      | ask op next =>
          cases found : environment.respond log agent op with
          | none => simp [advance, found] at advanced
          | some response =>
              obtain ⟨answer, effect⟩ := response
              simp only [advance, found] at advanced
              have first : machine.Step ⟨log, clients⟩ _ _ :=
                .serve answer effect state (environment.served log agent op answer effect found)
              have here : (Function.update clients agent.1 (.resume agent.2 (next answer))) agent.1 =
                  .resume agent.2 (next answer) := by simp
              obtain ⟨labels, rest⟩ := ih here advanced ⟨[], by
                rw [Function.update_idem]
                exact .nil _⟩
              rw [Function.update_idem] at rest
              exact ⟨_, (Machine.Run.step (.nil _) first).trans rest⟩

theorem proceed_run {client count : Nat} {config after : Config Op Answer Call Effect Memory Out}
    (proceeded : environment.proceed client count config = some after) :
    ∃ labels, machine.Run config labels after := by
  unfold proceed at proceeded
  split at proceeded
  · cases proceeded
  · rename_i call op next busy
    obtain ⟨⟨program, log⟩, advanced, rfl⟩ := Option.map_eq_some_iff.mp proceeded
    have state : config.clients (client, call).1 = .resume (client, call).2 (.ask op next) := busy
    exact advance_run state advanced

theorem finish_step {client : Nat} {config after : Config Op Answer Call Effect Memory Out}
    {call : Call} {out : Out} (finished : environment.finish client config = some (call, out, after)) :
    ∃ label, machine.Step config label after ∧ label.Returns client call out := by
  unfold finish at finished
  split at finished
  · cases finished
  · rename_i made op next busy
    split at finished
    · cases finished
    · rename_i answer effect found
      obtain ⟨result, returns, same⟩ := Option.map_eq_some_iff.mp finished
      cases same
      exact ⟨_, .serve answer effect busy (environment.served _ _ _ _ _ found), rfl, rfl, returns⟩

end Environment

variable [∀ client memory call, Decidable (machine.allowed client memory call)]

variable (machine) in
def Machine.call (client : Nat) (choose : Memory → Option Call)
    (config : Config Op Answer Call Effect Memory Out) :
    Option (Config Op Answer Call Effect Memory Out) :=
  match config.clients client with
  | .busy _ _ _ => none
  | .idle memory => match choose memory with
      | none => none
      | some call =>
          if machine.allowed client memory call then
            some ⟨config.log, Function.update config.clients client
              (.resume call (machine.body client call memory))⟩
          else none

theorem Machine.call_run {client : Nat} {choose : Memory → Option Call}
    {config after : Config Op Answer Call Effect Memory Out}
    (called : machine.call client choose config = some after) :
    ∃ labels, machine.Run config labels after := by
  unfold Machine.call at called
  split at called
  · cases called
  · rename_i memory idle
    split at called
    · cases called
    · rename_i call chosen
      split at called
      · rename_i allowed
        cases called
        exact ⟨_, .step (.nil _) (.invoke call idle allowed)⟩
      · cases called

inductive Turn (Memory Call : Type) where
  | call (client : Nat) (choose : Memory → Option Call)
  | proceed (client count : Nat)

def Environment.play : List (Turn Memory Call) → Config Op Answer Call Effect Memory Out →
    Option (Config Op Answer Call Effect Memory Out)
  | [], config => some config
  | .call client choose :: turns, config =>
      (machine.call client choose config).bind (play turns)
  | .proceed client count :: turns, config =>
      (environment.proceed client count config).bind (play turns)

variable {environment}

theorem Environment.play_run {turns : List (Turn Memory Call)}
    {config after : Config Op Answer Call Effect Memory Out}
    (played : environment.play turns config = some after) :
    ∃ labels, machine.Run config labels after := by
  induction turns generalizing config with
  | nil =>
      obtain rfl := Option.some.inj played
      exact ⟨[], .nil _⟩
  | cons turn turns ih =>
      cases turn with
      | call client choose =>
          obtain ⟨middle, called, rest⟩ := Option.bind_eq_some_iff.mp played
          obtain ⟨before, run⟩ := Machine.call_run called
          obtain ⟨labels, tail⟩ := ih rest
          exact ⟨_, run.trans tail⟩
      | proceed client count =>
          obtain ⟨middle, proceeded, rest⟩ := Option.bind_eq_some_iff.mp played
          obtain ⟨before, run⟩ := environment.proceed_run proceeded
          obtain ⟨labels, tail⟩ := ih rest
          exact ⟨_, run.trans tail⟩

theorem Environment.exists_reachable {turns : List (Turn Memory Call)}
    {check : Config Op Answer Call Effect Memory Out → Bool}
    (holds : (environment.play turns machine.start).any check = true) :
    ∃ config, machine.Reachable config ∧ check config = true := by
  obtain ⟨config, played, checked⟩ := (Option.any_eq_true _ _).mp holds
  exact ⟨config, environment.play_run played, checked⟩

theorem Environment.exists_return {turns : List (Turn Memory Call)} {client : Nat}
    {check : Call × Out × Config Op Answer Call Effect Memory Out → Bool}
    (holds : ((environment.play turns machine.start).bind (environment.finish client)).any check =
      true) :
    ∃ before label after call out, machine.Reachable before ∧ machine.Step before label after ∧
      label.Returns client call out ∧ check (call, out, after) = true := by
  obtain ⟨⟨call, out, after⟩, reached, checked⟩ := (Option.any_eq_true _ _).mp holds
  obtain ⟨before, played, finished⟩ := Option.bind_eq_some_iff.mp reached
  obtain ⟨label, step, returns⟩ := environment.finish_step finished
  exact ⟨before, label, after, call, out, environment.play_run played, step, returns, checked⟩

end

end Concurrent
