import Mathlib.Data.List.Infix
import S3Disk.Library.Program

/-! Clients that share one environment. The environment is its own history: a log
of events, newest first, where each event is a request with its answer and the
effect it had. A call is safe when each of its requests keeps the invariant of the
log, however the others extended the log before it; safe calls stay safe under
every interleaving and under crashes between any two requests. -/

namespace Concurrent

def Each {α : Type} (property : List α → α → Prop) : List α → Prop
  | [] => True
  | entry :: older => property older entry ∧ Each property older

theorem Each.at {α : Type} {property : List α → α → Prop} {entries : List α}
    (each : Each property entries) {entry : α} {older : List α}
    (inside : entry :: older <:+ entries) : property older entry := by
  induction entries with
  | nil => simp at inside
  | cons first rest ih =>
      rcases List.suffix_cons_iff.mp inside with same | earlier
      · cases same
        exact each.1
      · exact ih each.2 earlier

theorem Each.suffix {α : Type} {property : List α → α → Prop} {older entries : List α}
    (each : Each property entries) (inside : older <:+ entries) : Each property older := by
  induction entries with
  | nil =>
      have empty : older = [] := by simpa using inside
      simpa [empty] using each
  | cons first rest ih =>
      rcases List.suffix_cons_iff.mp inside with same | earlier
      · simpa [same] using each
      · exact ih each.2 earlier

theorem Each.mono {α : Type} {first second : List α → α → Prop} {entries : List α}
    (each : Each first entries)
    (implies : ∀ older entry, Each first older → first older entry → second older entry) :
    Each second entries := by
  induction entries with
  | nil => trivial
  | cons entry older ih => exact ⟨implies older entry each.2 each.1, ih each.2⟩

theorem exists_split_of_mem {α : Type} {entry : α} {entries : List α} (member : entry ∈ entries) :
    ∃ older, entry :: older <:+ entries := by
  obtain ⟨newer, older, split⟩ := List.append_of_mem member
  exact ⟨older, newer, split.symm⟩

structure Event (Op : Type) (Answer : Op → Type) (Call Effect : Type) where
  client : Nat
  call : Call
  op : Op
  answer : Answer op
  effect : Option Effect

def Event.of {Op : Type} {Answer : Op → Type} {Call Effect : Type} (agent : Nat × Call)
    (op : Op) (answer : Answer op) (effect : Option Effect) : Event Op Answer Call Effect :=
  ⟨agent.1, agent.2, op, answer, effect⟩

/-- Clients and the environment they share: which events the environment allows
after a log, which calls a client may make, and what each call does. -/
structure Machine (Op : Type) (Answer : Op → Type) (Call Effect Memory Out : Type) where
  serves : List (Event Op Answer Call Effect) → Event Op Answer Call Effect → Prop
  fresh : Nat → Memory
  allowed : Nat → Memory → Call → Prop
  body : Nat → Call → Memory → Program Op Answer (Out × Memory)

inductive Client (Op : Type) (Answer : Op → Type) (Call Memory Out : Type) where
  | idle (memory : Memory)
  | busy (call : Call) (op : Op) (next : Answer op → Program Op Answer (Out × Memory))

structure Config (Op : Type) (Answer : Op → Type) (Call Effect Memory Out : Type) where
  log : List (Event Op Answer Call Effect)
  clients : Nat → Client Op Answer Call Memory Out

section

variable {Op : Type} {Answer : Op → Type} {Call Effect Memory Out : Type}

/-- A client that has reached this point of a call: it returns at once when the
call is done and waits for an answer otherwise. -/
def Client.resume (call : Call) :
    Program Op Answer (Out × Memory) → Client Op Answer Call Memory Out
  | .done (_, memory) => .idle memory
  | .ask op next => .busy call op next

def returned : Program Op Answer (Out × Memory) → Option Out
  | .done (out, _) => some out
  | .ask _ _ => none

inductive Label (Op : Type) (Answer : Op → Type) (Call Effect Out : Type) where
  | invoke (client : Nat) (call : Call) (result : Option Out)
  | serve (event : Event Op Answer Call Effect) (result : Option Out)
  | crash (client : Nat)

def Label.Returns (client : Nat) (call : Call) (out : Out) :
    Label Op Answer Call Effect Out → Prop
  | .invoke actor made result => actor = client ∧ made = call ∧ result = some out
  | .serve event result => event.client = client ∧ event.call = call ∧ result = some out
  | .crash _ => False

namespace Machine

variable (machine : Machine Op Answer Call Effect Memory Out)

def start : Config Op Answer Call Effect Memory Out where
  log := []
  clients client := .idle (machine.fresh client)

inductive Step : Config Op Answer Call Effect Memory Out →
    Label Op Answer Call Effect Out → Config Op Answer Call Effect Memory Out → Prop
  | invoke {config client memory} (call : Call)
      (idle : config.clients client = .idle memory)
      (allowed : machine.allowed client memory call) :
      Step config (.invoke client call (returned (machine.body client call memory)))
        ⟨config.log, Function.update config.clients client
          (.resume call (machine.body client call memory))⟩
  | serve {config client call op next} (answer : Answer op) (effect : Option Effect)
      (busy : config.clients client = .busy call op next)
      (served : machine.serves config.log ⟨client, call, op, answer, effect⟩) :
      Step config (.serve ⟨client, call, op, answer, effect⟩ (returned (next answer)))
        ⟨⟨client, call, op, answer, effect⟩ :: config.log,
          Function.update config.clients client (.resume call (next answer))⟩
  | crash {config} (client : Nat) :
      Step config (.crash client)
        ⟨config.log, Function.update config.clients client (.idle (machine.fresh client))⟩

inductive Run : Config Op Answer Call Effect Memory Out →
    List (Label Op Answer Call Effect Out) → Config Op Answer Call Effect Memory Out → Prop
  | nil (config) : Run config [] config
  | step {first labels middle label last} (run : Run first labels middle)
      (step : machine.Step middle label last) : Run first (labels ++ [label]) last

def Reachable (config : Config Op Answer Call Effect Memory Out) : Prop :=
  ∃ labels, machine.Run machine.start labels config

variable {machine}

theorem Run.trans {first middle last : Config Op Answer Call Effect Memory Out} {before after}
    (left : machine.Run first before middle) (right : machine.Run middle after last) :
    machine.Run first (before ++ after) last := by
  induction right with
  | nil => simpa using left
  | step _ step ih =>
      rw [← List.append_assoc]
      exact .step ih step

theorem Step.log_suffix {before after : Config Op Answer Call Effect Memory Out} {label}
    (step : machine.Step before label after) : before.log <:+ after.log := by
  cases step with
  | invoke call idle allowed => exact List.suffix_refl _
  | serve answer effect busy served => exact List.suffix_cons _ _
  | crash client => exact List.suffix_refl _

theorem Run.log_suffix {first last : Config Op Answer Call Effect Memory Out} {labels}
    (run : machine.Run first labels last) : first.log <:+ last.log := by
  induction run with
  | nil => exact List.suffix_refl _
  | step _ step ih => exact ih.trans step.log_suffix

end Machine

structure Law (Op : Type) (Answer : Op → Type) (Call Effect : Type) where
  serves : List (Event Op Answer Call Effect) → Event Op Answer Call Effect → Prop
  keeps : List (Event Op Answer Call Effect) → Event Op Answer Call Effect → Prop

variable (law : Law Op Answer Call Effect)

def Valid (log : List (Event Op Answer Call Effect)) : Prop :=
  Each (fun older event => law.serves older event ∧ law.keeps older event) log

def Interferes (client : Nat) (log later : List (Event Op Answer Call Effect)) : Prop :=
  ∃ newer, later = newer ++ log ∧ ∀ event ∈ newer, event.client ≠ client

/-- From this log on, whatever the others do, each request of the program keeps
the invariant and its result satisfies `post` at the log where it returns. -/
def Safe {α : Type} (agent : Nat × Call)
    (post : α → List (Event Op Answer Call Effect) → Prop) :
    Program Op Answer α → List (Event Op Answer Call Effect) → Prop
  | .done value, log => post value log
  | .ask op next, log => ∀ later, Interferes agent.1 log later → Valid law later →
      ∀ answer effect, law.serves later (.of agent op answer effect) →
        law.keeps later (.of agent op answer effect) ∧
        Safe agent post (next answer) (.of agent op answer effect :: later)

def ClientSafe (remembers : Nat → Memory → List (Event Op Answer Call Effect) → Prop)
    (post : Nat → Call → Out → List (Event Op Answer Call Effect) → Prop) (client : Nat)
    (log : List (Event Op Answer Call Effect)) : Client Op Answer Call Memory Out → Prop
  | .idle memory => remembers client memory log
  | .busy call op next => Safe law (client, call)
      (fun result later => post client call result.1 later ∧ remembers client result.2 later)
      (.ask op next) log

variable {law}

theorem Interferes.refl (client : Nat) (log : List (Event Op Answer Call Effect)) :
    Interferes client log log := ⟨[], rfl, by simp⟩

theorem Interferes.suffix {client : Nat} {log later : List (Event Op Answer Call Effect)}
    (interferes : Interferes client log later) : log <:+ later := by
  obtain ⟨newer, grown, _⟩ := interferes
  exact ⟨newer, grown.symm⟩

theorem Interferes.trans {client : Nat} {log middle later : List (Event Op Answer Call Effect)}
    (first : Interferes client log middle) (second : Interferes client middle later) :
    Interferes client log later := by
  obtain ⟨between, rfl, foreign⟩ := first
  obtain ⟨newer, rfl, foreign'⟩ := second
  refine ⟨newer ++ between, by simp, ?_⟩
  intro event member
  rcases List.mem_append.mp member with late | early
  · exact foreign' event late
  · exact foreign event early

theorem Interferes.cons {client : Nat} {log : List (Event Op Answer Call Effect)}
    {event : Event Op Answer Call Effect} (foreign : event.client ≠ client) :
    Interferes client log (event :: log) := ⟨[event], rfl, by simpa using foreign⟩

theorem Valid.cons {log : List (Event Op Answer Call Effect)} {event : Event Op Answer Call Effect}
    (valid : Valid law log) (served : law.serves log event) (kept : law.keeps log event) :
    Valid law (event :: log) := ⟨⟨served, kept⟩, valid⟩

theorem Valid.suffix {log later : List (Event Op Answer Call Effect)} (valid : Valid law later)
    (grown : log <:+ later) : Valid law log := Each.suffix valid grown

theorem Valid.served {log older : List (Event Op Answer Call Effect)}
    {event : Event Op Answer Call Effect} (valid : Valid law log) (inside : event :: older <:+ log) :
    law.serves older event := (Each.at valid inside).1

theorem Valid.kept {log older : List (Event Op Answer Call Effect)}
    {event : Event Op Answer Call Effect} (valid : Valid law log) (inside : event :: older <:+ log) :
    law.keeps older event := (Each.at valid inside).2

theorem Safe.weaken {α : Type} {agent : Nat × Call}
    {first second : α → List (Event Op Answer Call Effect) → Prop} {program : Program Op Answer α}
    {log : List (Event Op Answer Call Effect)} (safe : Safe law agent first program log)
    (valid : Valid law log)
    (implies : ∀ value later, log <:+ later → Valid law later →
      first value later → second value later) :
    Safe law agent second program log := by
  induction program generalizing log with
  | done value => exact implies value log (List.suffix_refl _) valid safe
  | ask op next ih =>
      intro later grown laterValid answer effect served
      obtain ⟨kept, rest⟩ := safe later grown laterValid answer effect served
      refine ⟨kept, ih answer rest (laterValid.cons served kept) ?_⟩
      intro value final finalGrown finalValid holds
      exact implies value final (grown.suffix.trans ((List.suffix_cons _ _).trans finalGrown))
        finalValid holds

theorem Safe.bind {α β : Type} {agent : Nat × Call}
    {middle : α → List (Event Op Answer Call Effect) → Prop}
    {post : β → List (Event Op Answer Call Effect) → Prop} {program : Program Op Answer α}
    {next : α → Program Op Answer β} {log : List (Event Op Answer Call Effect)}
    (safe : Safe law agent middle program log) (valid : Valid law log)
    (rest : ∀ value later, log <:+ later → Valid law later → middle value later →
      Safe law agent post (next value) later) :
    Safe law agent post (program.bind next) log := by
  induction program generalizing log with
  | done value => exact rest value log (List.suffix_refl _) valid safe
  | ask op continuation ih =>
      intro later grown laterValid answer effect served
      obtain ⟨kept, remaining⟩ := safe later grown laterValid answer effect served
      refine ⟨kept, ih answer remaining (laterValid.cons served kept) ?_⟩
      intro value final finalGrown finalValid holds
      exact rest value final (grown.suffix.trans ((List.suffix_cons _ _).trans finalGrown))
        finalValid holds

/-- The obligations under which every run keeps the invariant: memories survive
the growth of the log, a fresh memory is fine, and every allowed call is safe. -/
structure Verified (machine : Machine Op Answer Call Effect Memory Out)
    (keeps : List (Event Op Answer Call Effect) → Event Op Answer Call Effect → Prop)
    (remembers : Nat → Memory → List (Event Op Answer Call Effect) → Prop)
    (post : Nat → Call → Out → List (Event Op Answer Call Effect) → Prop) : Prop where
  stable : ∀ client memory log later, log <:+ later → remembers client memory log →
    remembers client memory later
  fresh : ∀ client log, remembers client (machine.fresh client) log
  safe : ∀ client memory call log, Valid ⟨machine.serves, keeps⟩ log →
    remembers client memory log → machine.allowed client memory call →
    Safe ⟨machine.serves, keeps⟩ (client, call)
      (fun result later => post client call result.1 later ∧ remembers client result.2 later)
      (machine.body client call memory) log

variable {machine : Machine Op Answer Call Effect Memory Out}
  {keeps : List (Event Op Answer Call Effect) → Event Op Answer Call Effect → Prop}
  {remembers : Nat → Memory → List (Event Op Answer Call Effect) → Prop}
  {post : Nat → Call → Out → List (Event Op Answer Call Effect) → Prop}

theorem ClientSafe.grow {client : Nat} {state : Client Op Answer Call Memory Out}
    {log later : List (Event Op Answer Call Effect)}
    (verified : Verified machine keeps remembers post)
    (safe : ClientSafe ⟨machine.serves, keeps⟩ remembers post client log state)
    (grown : Interferes client log later) :
    ClientSafe ⟨machine.serves, keeps⟩ remembers post client later state := by
  cases state with
  | idle memory => exact verified.stable client memory log later grown.suffix safe
  | busy call op next =>
      intro final finalGrown finalValid answer effect served
      exact safe final (grown.trans finalGrown) finalValid answer effect served

theorem clientSafe_resume {client : Nat} {call : Call}
    {program : Program Op Answer (Out × Memory)} {log : List (Event Op Answer Call Effect)}
    (safe : Safe law (client, call)
      (fun result later => post client call result.1 later ∧ remembers client result.2 later)
      program log) :
    ClientSafe law remembers post client log (Client.resume call program) := by
  cases program with
  | done result => exact safe.2
  | ask op next => exact safe

theorem post_of_returned {client : Nat} {call : Call} {out : Out}
    {program : Program Op Answer (Out × Memory)} {log : List (Event Op Answer Call Effect)}
    (safe : Safe law (client, call)
      (fun result later => post client call result.1 later ∧ remembers client result.2 later)
      program log)
    (result : returned program = some out) : post client call out log := by
  cases program with
  | done value =>
      simp only [returned, Option.some.injEq] at result
      simpa [← result] using safe.1
  | ask op next => simp [returned] at result

structure ConfigSafe (machine : Machine Op Answer Call Effect Memory Out)
    (keeps : List (Event Op Answer Call Effect) → Event Op Answer Call Effect → Prop)
    (remembers : Nat → Memory → List (Event Op Answer Call Effect) → Prop)
    (post : Nat → Call → Out → List (Event Op Answer Call Effect) → Prop)
    (config : Config Op Answer Call Effect Memory Out) : Prop where
  valid : Valid ⟨machine.serves, keeps⟩ config.log
  clients : ∀ client, ClientSafe ⟨machine.serves, keeps⟩ remembers post client
    config.log (config.clients client)

theorem ConfigSafe.update {config : Config Op Answer Call Effect Memory Out} {client : Nat}
    {log : List (Event Op Answer Call Effect)} {state : Client Op Answer Call Memory Out}
    (verified : Verified machine keeps remembers post)
    (safe : ConfigSafe machine keeps remembers post config)
    (grown : ∀ other, other ≠ client → Interferes other config.log log)
    (valid : Valid ⟨machine.serves, keeps⟩ log)
    (moved : ClientSafe ⟨machine.serves, keeps⟩ remembers post client log state) :
    ConfigSafe machine keeps remembers post
      ⟨log, Function.update config.clients client state⟩ := by
  refine ⟨valid, ?_⟩
  intro other
  by_cases same : other = client
  · subst same
    simpa using moved
  · simpa [Function.update_of_ne same] using (safe.clients other).grow verified (grown other same)

theorem Machine.Step.safe {before after : Config Op Answer Call Effect Memory Out} {label}
    (verified : Verified machine keeps remembers post) (step : machine.Step before label after)
    (safe : ConfigSafe machine keeps remembers post before) :
    ConfigSafe machine keeps remembers post after ∧
      ∀ client call out, label.Returns client call out → post client call out after.log := by
  cases step with
  | @invoke client memory call idle allowed =>
      have memoryKept := safe.clients client
      rw [idle] at memoryKept
      have bodySafe := verified.safe client memory call before.log safe.valid memoryKept allowed
      refine ⟨safe.update verified (fun _ _ => .refl _ _) safe.valid (clientSafe_resume bodySafe), ?_⟩
      rintro actor made out ⟨sameClient, sameCall, result⟩
      subst sameClient sameCall
      exact post_of_returned bodySafe result
  | @serve client call op next answer effect busy served =>
      have waiting := safe.clients client
      rw [busy] at waiting
      obtain ⟨kept, rest⟩ := waiting before.log (.refl _ _) safe.valid answer effect served
      refine ⟨safe.update verified (fun _ foreign => .cons foreign.symm) (safe.valid.cons served kept)
        (clientSafe_resume rest), ?_⟩
      rintro actor made out ⟨sameClient, sameCall, result⟩
      simp only at sameClient sameCall
      subst sameClient sameCall
      exact post_of_returned rest result
  | crash client =>
      refine ⟨safe.update verified (fun _ _ => .refl _ _) safe.valid (verified.fresh client _), ?_⟩
      rintro actor made out ⟨⟩

theorem Verified.start (verified : Verified machine keeps remembers post) :
    ConfigSafe machine keeps remembers post machine.start :=
  ⟨trivial, fun client => verified.fresh client []⟩

theorem Machine.Run.safe {first last : Config Op Answer Call Effect Memory Out} {labels}
    (verified : Verified machine keeps remembers post) (run : machine.Run first labels last)
    (safe : ConfigSafe machine keeps remembers post first) :
    ConfigSafe machine keeps remembers post last := by
  induction run with
  | nil => exact safe
  | step _ step ih => exact (step.safe verified ih).1

theorem Verified.reachable (verified : Verified machine keeps remembers post)
    {config : Config Op Answer Call Effect Memory Out} (reachable : machine.Reachable config) :
    ConfigSafe machine keeps remembers post config := by
  obtain ⟨labels, run⟩ := reachable
  exact run.safe verified verified.start

end

end Concurrent
