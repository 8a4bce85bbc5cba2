import S3Disk.HistoryFacts

/-! When a call cannot know what happened: a service reports an error that belongs
to the publishers, or the journal was changed under a commit. -/

namespace S3Disk

open Concurrent

def reports : (op : Request) → Answer op → Option Err
  | .get _ _, .error error => some error
  | .head _, .error error => some error
  | .putIfAbsent _ _, .error error => some error
  | .compareAndSwap _ _ _, .error error => some error
  | .loadJournal _ _ _, .error error => some error
  | .swapJournal _ _ _ _, .error error => some error
  | .loadWatermark _, .error error => some error
  | .swapWatermark _ _ _, .error error => some error
  | .sign _, .error error => some error
  | .verify _ _ _, .error error => some error
  | .contextErr, some error => some error
  | .absolute _, .error error => some error
  | .osLstat _, .error error => some error
  | .osOpen _, .error error => some error
  | .openRoot _, .error error => some error
  | .rootOpen _ _, .error error => some error
  | .rootLstat _ _, .error error => some error
  | .rootStat _ _, .error error => some error
  | .rootReadlink _ _, .error error => some error
  | .handleStat _, .error error => some error
  | .handleReadDir _ _, (_, some error) => some error
  | .handleClose _, .error error => some error
  | .nextChunk _ _, .error error => some error
  | .acquireDownload _, .error error => some error
  | .cacheGet _ _, .error error => some error
  | .cachePut _ _, .error error => some error
  | _, _ => none

def Begun (log : Log) (journal : Nat) (channel : Channel) (point : Point) : Prop :=
  ∃ record ∈ records log journal channel, ∃ pending, record.1.pending = some pending ∧
    pending.next.point = point

def SlotKept (log : Log) (call : PublisherCall) (journal : Nat) (channel : Channel)
    (slot : Option PublicationIntent) : JournalRead → Prop
  | .begin intent => Begun log journal channel intent.next.point → slot = none ∨ slot = some intent
  | .refresh observed => slot = some observed
  | .recover initial => ∀ pending, slot = some pending →
      equalPublicationIntentSemantics initial pending = true
  | .load => ∀ staged intent pending, call = .commit staged →
      staged.publicationIntent = some intent → slot = some pending →
      equalPublicationIntentSemantics intent pending = true
  | .loadAgain => ∀ staged intent pending, call = .commit staged →
      staged.publicationIntent = some intent → slot = some pending →
      equalPublicationIntentSemantics intent pending = true
  | _ => True

def ReadsKept (log : Log) (call : PublisherCall) : (op : Request) → Answer op → Prop
  | .loadJournal journal read channel, .ok (some (state, _)) =>
      SlotKept log call journal channel state.pending read
  | _, _ => True

/-- The event leaves its reader in no doubt: no service reports an error of the
publishers' own, and a journal read finds the slot kept. -/
structure Undisturbed (log : Log) (event : LogEntry) : Prop where
  reports : ∀ error, reports event.op event.answer = some error →
    error.is .publishConflict = false ∧ error.is .splitBrain = false
  slot : ReadsKept log event.call event.op event.answer

def Disturbed (log : Log) (agent : Nat × PublisherCall) : Prop :=
  ∃ event older, event :: older <:+ log ∧ event.client = agent.1 ∧ event.call = agent.2 ∧
    ¬Undisturbed older event

theorem Disturbed.mono {log later : Log} {agent : Nat × PublisherCall}
    (disturbed : Disturbed log agent) (grown : log <:+ later) : Disturbed later agent := by
  obtain ⟨event, older, inside, client, call, broken⟩ := disturbed
  exact ⟨event, older, inside.trans grown, client, call, broken⟩

/-- The error is not a verdict of the publishers, unless the call was disturbed. -/
def Neutral (agent : Nat × PublisherCall) (error : Err) (log : Log) : Prop :=
  error.is .publishConflict = true ∨ error.is .splitBrain = true → Disturbed log agent

def Peaceful (agent : Nat × PublisherCall) (error : Err) (log : Log) : Prop :=
  error.is .publishConflict = true → Disturbed log agent

variable {agent : Nat × PublisherCall} {error : Err} {log : Log}

theorem Peaceful.mono {later : Log} (peaceful : Peaceful agent error log) (grown : log <:+ later) :
    Peaceful agent error later := fun conflict => (peaceful conflict).mono grown

theorem Neutral.peaceful (neutral : Neutral agent error log) : Peaceful agent error log :=
  fun conflict => neutral (.inl conflict)

theorem Neutral.within (neutral : Neutral agent error log) (label : List Fragment) :
    Neutral agent (error.within label) log := neutral

theorem Peaceful.within (peaceful : Peaceful agent error log) (label : List Fragment) :
    Peaceful agent (error.within label) log := peaceful

theorem neutral_of_sentinels
    (foreign : error.is .publishConflict = false ∧ error.is .splitBrain = false) :
    Neutral agent error log := by
  rintro (conflict | split)
  · simp [foreign.1] at conflict
  · simp [foreign.2] at split

theorem Neutral.wraps (neutral : Neutral agent error log) {sentinel : Sentinel}
    (foreign : sentinel ≠ .publishConflict ∧ sentinel ≠ .splitBrain) :
    Neutral agent (sentinel.wraps error) log := by
  intro either
  apply neutral
  simpa [Sentinel.wraps, Err.is, foreign.1.symm, foreign.2.symm] using either

theorem Peaceful.wraps (peaceful : Peaceful agent error log) {sentinel : Sentinel}
    (foreign : sentinel ≠ .publishConflict) : Peaceful agent (sentinel.wraps error) log := by
  intro conflict
  apply peaceful
  simpa [Sentinel.wraps, Err.is, foreign.symm] using conflict

theorem Peaceful.twice {second : Err} (first : Peaceful agent error log)
    (next : Peaceful agent second log) (label again : List Fragment) :
    Peaceful agent (Err.twice label error again second) log := by
  intro conflict
  have either : error.is .publishConflict = true ∨ second.is .publishConflict = true := by
    simpa [Err.twice, Err.is] using conflict
  rcases either with left | right
  · exact first left
  · exact next right

end S3Disk
