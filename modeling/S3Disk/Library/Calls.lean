import S3Disk.Library.Contract

/-! One call from its invocation to its return. The contract of a call may speak about
the log it started from, so it can say what happened while the call was going on. -/

namespace Concurrent

variable {Op : Type} {Answer : Op → Type} {Call Effect Memory Out : Type}
  {machine : Machine Op Answer Call Effect Memory Out}

def Label.Leaves (client : Nat) : Label Op Answer Call Effect Out → Prop
  | .invoke actor _ _ => actor ≠ client
  | .serve event result => event.client = client → result = none
  | .crash actor => actor ≠ client

inductive Machine.Completes (machine : Machine Op Answer Call Effect Memory Out) (client : Nat)
    (call : Call) (out : Out) : Config Op Answer Call Effect Memory Out →
    Config Op Answer Call Effect Memory Out → Prop
  | atOnce {first last} (step : machine.Step first (.invoke client call (some out)) last) :
      Completes machine client call out first last
  | later {first started waiting last labels event}
      (invoked : machine.Step first (.invoke client call none) started)
      (run : machine.Run started labels waiting) (leaves : ∀ label ∈ labels, label.Leaves client)
      (step : machine.Step waiting (.serve event (some out)) last) (own : event.client = client) :
      Completes machine client call out first last

variable {keeps : List (Event Op Answer Call Effect) → Event Op Answer Call Effect → Prop}
  {remembers : Nat → Memory → List (Event Op Answer Call Effect) → Prop}
  {post : Nat → Call → Out → List (Event Op Answer Call Effect) → Prop}

def Engaged (law : Law Op Answer Call Effect) (client : Nat) (call : Call)
    (promise : Out → List (Event Op Answer Call Effect) → Prop)
    (config : Config Op Answer Call Effect Memory Out) : Prop :=
  ∃ op next, config.clients client = .busy call op next ∧
    Safe law (client, call) (fun result later => promise result.1 later) (.ask op next) config.log

theorem Engaged.step {client : Nat} {call : Call}
    {promise : Out → List (Event Op Answer Call Effect) → Prop}
    {before after : Config Op Answer Call Effect Memory Out} {label}
    (engaged : Engaged ⟨machine.serves, keeps⟩ client call promise before)
    (valid : Valid ⟨machine.serves, keeps⟩ before.log)
    (step : machine.Step before label after) (leaves : label.Leaves client) :
    Engaged ⟨machine.serves, keeps⟩ client call promise after := by
  obtain ⟨op, next, busy, safe⟩ := engaged
  cases step with
  | @invoke actor memory made idle allowed =>
      refine ⟨op, next, ?_, safe⟩
      simpa [Function.update_of_ne (Ne.symm leaves)] using busy
  | @serve actor made asked onward answer effect waiting served =>
      by_cases same : actor = client
      · subst same
        rw [busy] at waiting
        cases waiting
        obtain ⟨_, rest⟩ := safe before.log (.refl _ _) valid answer effect served
        have unfinished : returned (next answer) = none := leaves rfl
        cases going : next answer with
        | done result => simp [returned, going] at unfinished
        | ask op' next' =>
            refine ⟨op', next', by simp [Client.resume], ?_⟩
            rw [going] at rest
            exact rest
      · refine ⟨op, next, by simpa [Function.update_of_ne (Ne.symm same)] using busy, ?_⟩
        intro later grown laterValid answer' effect' served'
        exact safe later ((Interferes.cons same).trans grown) laterValid answer' effect' served'
  | crash actor =>
      refine ⟨op, next, ?_, safe⟩
      simpa [Function.update_of_ne (Ne.symm leaves)] using busy

theorem Engaged.run {client : Nat} {call : Call}
    {promise : Out → List (Event Op Answer Call Effect) → Prop}
    {first last : Config Op Answer Call Effect Memory Out} {labels}
    (verified : Verified machine keeps remembers post) (run : machine.Run first labels last)
    (safe : ConfigSafe machine keeps remembers post first)
    (engaged : Engaged ⟨machine.serves, keeps⟩ client call promise first)
    (leaves : ∀ label ∈ labels, label.Leaves client) :
    Engaged ⟨machine.serves, keeps⟩ client call promise last := by
  induction run with
  | nil => exact engaged
  | step run step ih =>
      have before := ih fun label member => leaves label (by simp [member])
      exact before.step (run.safe verified safe).valid step (leaves _ (by simp))

theorem Machine.Completes.promise {client : Nat} {call : Call} {out : Out}
    {promise : Out → List (Event Op Answer Call Effect) → Prop}
    {first last : Config Op Answer Call Effect Memory Out}
    (completes : machine.Completes client call out first last)
    (verified : Verified machine keeps remembers post)
    (safe : ConfigSafe machine keeps remembers post first)
    (promised : ∀ memory, remembers client memory first.log → machine.allowed client memory call →
      Safe ⟨machine.serves, keeps⟩ (client, call) (fun result later => promise result.1 later)
        (machine.body client call memory) first.log) :
    promise out last.log := by
  have start : ∀ memory, first.clients client = .idle memory →
      remembers client memory first.log := by
    intro memory idle
    have kept := safe.clients client
    rw [idle] at kept
    exact kept
  cases completes with
  | atOnce step =>
      generalize labelled : Label.invoke client call (some out) = label at step
      cases step with
      | @invoke actor memory made idle allowed =>
          injection labelled with sameClient sameCall result
          subst sameClient sameCall
          have bodySafe := promised memory (start memory idle) allowed
          cases body : machine.body client call memory with
          | done value =>
              rw [body] at result bodySafe
              simp only [returned, Option.some.injEq] at result
              exact result ▸ bodySafe
          | ask op next => simp [body, returned] at result
      | serve => cases labelled
      | crash => cases labelled
  | @later started waiting _ _ event invoked run leaves step own =>
      have engaged : Engaged ⟨machine.serves, keeps⟩ client call promise started := by
        generalize labelled : Label.invoke client call none = label at invoked
        cases invoked with
        | @invoke actor memory made idle allowed =>
            injection labelled with sameClient sameCall result
            subst sameClient sameCall
            have bodySafe := promised memory (start memory idle) allowed
            cases body : machine.body client call memory with
            | done value => simp [body, returned] at result
            | ask op next =>
                rw [body] at bodySafe
                exact ⟨op, next, by simp [Client.resume], bodySafe⟩
        | serve => cases labelled
        | crash => cases labelled
      have startedSafe := (invoked.safe verified safe).1
      have valid := (run.safe verified startedSafe).valid
      obtain ⟨op, next, busy, callSafe⟩ := engaged.run verified run startedSafe leaves
      generalize labelled : Label.serve event (some out) = label at step
      cases step with
      | @serve actor made asked onward answer effect active served =>
          injection labelled with sameEvent result
          subst sameEvent
          dsimp only at own
          subst own
          rw [busy] at active
          cases active
          obtain ⟨_, rest⟩ := callSafe waiting.log (.refl _ _) valid answer effect served
          cases finished : next answer with
          | done value =>
              rw [finished] at result rest
              simp only [returned, Option.some.injEq] at result
              exact result ▸ rest
          | ask op' next' => simp [finished, returned] at result
      | invoke => cases labelled
      | crash => cases labelled

end Concurrent
