import S3Disk.Library.Ensures
import S3Disk.CLI.SessionFacts
import S3Disk.CLI.SessionStore
import S3Disk.Share.Simulation

/-! Processes that create, load and advance one session. Every state that becomes durable
is one step after the durable state before it, whatever the interleaving, the crashes and
the writes that were applied and reported an error. -/

namespace S3Disk.CLI

open Concurrent Share

inductive SessionCall where
  | create (state : PublisherSession) (now : Time)
  | load (now : Time)
  | advance (current : LoadedPublisherSession) (phase : PublisherSessionPhase)
      (checkpoint : Option HandoffCheckpoint) (handoffDigest : Digest) (now : Time)
  deriving DecidableEq, Repr

abbrev SessionResult := Except Err (Option LoadedPublisherSession)

abbrev SessionLog := ShareLog SessionCall

structure SessionWorld where
  platform : SessionPlatform
  store : Nat → PublisherSessionStore

def sessionServes (log : SessionLog) : (op : ShareRequest) → ShareAnswer op →
    Option ShareEffect → Prop
  | .loadState slot, .ok found, effect => effect = none ∧ found = (sealings log slot).head?
  | .swapState slot expected data, answer, effect =>
      SealedSwaps log slot expected data answer effect
  | _, _, effect => effect = none

namespace SessionWorld

variable (world : SessionWorld)

def program (client : Nat) : SessionCall → Sharing (Option LoadedPublisherSession)
  | .create state now => do
      let created ← createPublisherSession world.platform (world.store client) state now
      return some created
  | .load now => loadPublisherSession world.platform (world.store client) now
  | .advance current phase checkpoint handoffDigest now => do
      let advanced ← advancePublisherSession world.platform (world.store client) current phase
        checkpoint handoffDigest now
      return some advanced

/-- A process can only advance a session that it created, loaded or advanced to. -/
def machine : Machine ShareRequest ShareAnswer SessionCall ShareEffect
    (List LoadedPublisherSession) SessionResult where
  serves log event := sessionServes log event.op event.answer event.effect
  fresh _ := []
  allowed _ held call := ∀ current phase checkpoint handoffDigest now,
    call = .advance current phase checkpoint handoffDigest now → current ∈ held
  body client call held := Program.bind (world.program client call) fun result =>
    .done (result, held ++ (result.toOption.join).toList)

def SessionFollows : List (Bytes × Digest) → Bytes → Prop
  | [], data => ∃ state, encodePublisherSession world.platform state = .ok data
  | (previous, _) :: _, data => ∃ current phase checkpoint handoffDigest next,
      encodePublisherSession world.platform current = .ok previous ∧
      nextPublisherSession world.platform current phase checkpoint handoffDigest = .ok next ∧
      encodePublisherSession world.platform next = .ok data

def keeps (log : SessionLog) (event : ShareEvent SessionCall) : Prop :=
  ∀ data revision, event.effect = some (.sealed .session data revision) →
    world.SessionFollows (sealings log .session) data

abbrev law : Law ShareRequest ShareAnswer SessionCall ShareEffect :=
  ⟨world.machine.serves, world.keeps⟩

def Holds (log : SessionLog) (loaded : LoadedPublisherSession) : Prop :=
  ∃ encoded, encodePublisherSession world.platform loaded.state = .ok encoded ∧
    (encoded, loaded.revision) ∈ sealings log .session

def Remembers (_ : Nat) (held : List LoadedPublisherSession) (log : SessionLog) : Prop :=
  ∀ loaded ∈ held, world.Holds log loaded

/-- Between the two logs there was a moment at which the state was the durable one. -/
def DurableWithin (base log : SessionLog) (loaded : LoadedPublisherSession) : Prop :=
  ∃ encoded between, encodePublisherSession world.platform loaded.state = .ok encoded ∧
    base <:+ between ∧ between <:+ log ∧
    (sealings between .session).head? = some (encoded, loaded.revision)

def Desires : SessionCall → PublisherSession → Prop
  | .create state _, desired => desired = state
  | .load _, _ => True
  | .advance current phase checkpoint handoffDigest _, desired =>
      nextPublisherSession world.platform current.state phase checkpoint handoffDigest = .ok desired

/-- What a call that started at a log promises about what it returns. -/
def Promises (base : SessionLog) (call : SessionCall) (result : SessionResult)
    (log : SessionLog) : Prop :=
  ∀ loaded, result = .ok (some loaded) →
    world.Desires call loaded.state ∧ world.DurableWithin base log loaded

end SessionWorld

section

variable {world : SessionWorld} {agent : Nat × SessionCall} {log base later : SessionLog}

open SessionWorld

theorem SessionWorld.DurableWithin.holds {loaded : LoadedPublisherSession}
    (durable : world.DurableWithin base log loaded) : world.Holds log loaded := by
  obtain ⟨encoded, between, written, _, before, head⟩ := durable
  exact ⟨encoded, written, mem_sealings_mono before (List.mem_of_mem_head? head)⟩

def Idle (op : ShareRequest) : Prop := ∀ slot expected data, op ≠ .swapState slot expected data

theorem effect_none_of_idle {op : ShareRequest} {answer : ShareAnswer op}
    {effect : Option ShareEffect} (idle : Idle op) (served : sessionServes log op answer effect) :
    effect = none := by
  cases op with
  | swapState slot expected next => exact absurd rfl (idle slot expected next)
  | loadState slot =>
      cases answer with
      | error error => exact served
      | ok found => exact served.1
  | base request => exact served
  | contextErr => exact served
  | now => exact served
  | presignGet key => exact served
  | authorizationExpiry => exact served
  | sign message => exact served
  | verify keyID message signature => exact served
  | get key options => exact served
  | putIfAbsent key data => exact served
  | compareAndSwap key expected data => exact served
  | sealObject key plaintext => exact served
  | openObject key ciphertext => exact served

theorem keeps_of_idle {op : ShareRequest} {answer : ShareAnswer op} {effect : Option ShareEffect}
    (idle : Idle op) (served : world.law.serves log (.of agent op answer effect)) :
    world.law.keeps log (.of agent op answer effect) := by
  intro data revision sealed
  have none : effect = none := effect_none_of_idle idle served
  simp [Event.of, none] at sealed

theorem session_of_revision (valid : Valid world.law log) {left right : Bytes} {revision : Digest}
    (leftMember : (left, revision) ∈ sealings log .session)
    (rightMember : (right, revision) ∈ sealings log .session) : left = right := by
  refine data_eq_of_revision ?_ valid leftMember rightMember
  rintro older ⟨client, call, op, answer, effect⟩ data stamp served sealed
  have applied : effect = some (.sealed .session data stamp) := sealed
  by_cases idle : Idle op
  · have none : effect = none := effect_none_of_idle idle served
    rw [none] at applied
    cases applied
  · simp only [Idle, not_forall, not_not] at idle
    obtain ⟨slot, expected, next, rfl⟩ := idle
    have swaps : SealedSwaps older slot expected next answer effect := served
    rcases swaps with ⟨none, _⟩ | ⟨revision, written, _, unique, _⟩
    · rw [none] at applied
      cases applied
    · rw [written] at applied
      cases applied
      exact unique

theorem meets_of_idle {α : Type} {program : Sharing α} {post : α → Prop}
    (ensures : Fallible.Ensures Idle program post) (valid : Valid world.law log) :
    program.Meets world.law agent log (fun value _ => post value) fun _ _ => True :=
  ensures.meets (fun _ _ _ _ idle served => keeps_of_idle idle served) valid

theorem contextErr_idle : Fallible.Ensures Idle Share.contextErr fun _ => True :=
  .request (by simp [Idle]) fun _ _ _ => trivial

theorem contextState_idle : Fallible.Ensures Idle contextState fun _ => True :=
  .request (by simp [Idle]) fun _ _ _ => trivial

theorem now_idle : Fallible.Ensures Idle Share.now fun _ => True :=
  .request (by simp [Idle]) fun _ _ _ => trivial

theorem parseBearer_idle {platform : Platform} {data : Bytes} {allowInsecure : Bool} :
    Fallible.Ensures Idle (parseBearer platform data allowInsecure) fun _ => True := by
  refine .bind (.ofExcept fun _ _ => trivial) fun _ _ => ?_
  refine .bind (.ofExcept fun _ _ => trivial) fun _ _ => ?_
  exact .bind now_idle fun _ _ => .ofExcept fun _ _ => trivial

theorem requireActive_idle {platform : SessionPlatform} {state : PublisherSession} {time : Time} :
    Fallible.Ensures Idle (requireActive platform state time) fun _ => True := by
  refine .bind (.ofExcept fun _ _ => trivial) fun _ _ => ?_
  refine .bind .failIf fun _ _ => ?_
  refine .bind .failIf fun _ _ => ?_
  refine .bind (.attempt parseBearer_idle) ?_
  rintro (error | capability) _
  · exact .throw
  · refine .bind .failIf fun _ _ => ?_
    exact .bind .failIf fun _ _ => .pure trivial

theorem postWriteCheck_idle {state : PublisherSession} :
    Fallible.Ensures Idle (publisherSessionPostWriteCheck state) fun _ => True := by
  refine .bind contextErr_idle fun _ _ => ?_
  exact .bind now_idle fun _ _ => .weaken .failIf fun _ _ => trivial

theorem unsettledWrite_idle {error : Err} :
    Fallible.Ensures Idle (unsettledWrite error) fun _ => False :=
  .bind contextState_idle fun _ _ => .throw

theorem sessionLoad_meets :
    sessionLoad.Meets world.law agent log
      (fun found later => found = (sealings later .session).head?) fun _ _ => True := by
  refine Fallible.Meets.ask fun later _ _ answer effect served => ?_
  refine ⟨keeps_of_idle (by simp [Idle]) served, ?_⟩
  cases answer with
  | error error => exact trivial
  | ok found =>
      obtain ⟨none, head⟩ := served
      have none : effect = Option.none := none
      show found = _
      rw [sealings_cons]
      simpa [Event.of, none, sealedState] using head

theorem sessionSwap_meets {expected : Option Digest} {data : Bytes}
    (permitted : ∀ later, log <:+ later → Valid world.law later →
      SealedAt later .session expected → world.SessionFollows (sealings later .session) data) :
    (sessionSwap expected data).Meets world.law agent log
      (fun answer later => answer.2 = none →
        (sealings later .session).head? = some (data, answer.1)) fun _ _ => True := by
  refine Fallible.Meets.ask fun later interferes valid answer effect served => ?_
  have swaps : SealedSwaps later .session expected data answer effect := served
  refine ⟨?_, ?_⟩
  · intro found revision sealed
    rcases swaps with ⟨none, _⟩ | ⟨stamp, applied, condition, _, _⟩
    · simp [Event.of, none] at sealed
    · have same : (ShareEffect.sealed .session data stamp) = .sealed .session found revision :=
        Option.some.inj (applied.symm.trans sealed)
      cases same
      exact permitted later interferes.suffix valid condition
  · intro success
    rcases swaps with ⟨_, failed⟩ | ⟨stamp, applied, _, _, reported⟩
    · exact absurd success failed
    · rw [reported success]
      exact head_sealings applied

theorem postWritten_meets {state : PublisherSession} {revision : Digest} {encoded : Bytes}
    (written : encodePublisherSession world.platform state = .ok encoded) (grown : base <:+ log)
    (valid : Valid world.law log)
    (head : (sealings log .session).head? = some (encoded, revision)) :
    (do publisherSessionPostWriteCheck state
        return loadedSession world.platform state revision encoded :
      Sharing LoadedPublisherSession).Meets world.law agent log
      (fun loaded later => loaded.state = state ∧ world.DurableWithin base later loaded)
      fun _ _ => True := by
  refine .bind (meets_of_idle postWriteCheck_idle valid) valid fun _ later suffix _ _ => ?_
  exact .pure ⟨rfl, encoded, log, written, grown, suffix, head⟩

theorem reconcile_meets {state : PublisherSession} {encoded : Bytes} {candidate : Digest}
    {writeErr : Err} (written : encodePublisherSession world.platform state = .ok encoded)
    (grown : base <:+ log) (valid : Valid world.law log) :
    (reconcilePublisherSessionWrite world.platform state encoded candidate writeErr).Meets
      world.law agent log
      (fun loaded later => loaded.state = state ∧ world.DurableWithin base later loaded)
      fun _ _ => True := by
  have unsettled : ∀ later, Valid world.law later → (unsettledWrite writeErr).Meets world.law agent
      later (fun loaded later => loaded.state = state ∧ world.DurableWithin base later loaded)
      fun _ _ => True := fun later laterValid =>
    (meets_of_idle unsettledWrite_idle laterValid).weaken laterValid
      (fun _ _ _ _ impossible => impossible.elim) fun _ _ _ _ _ => trivial
  unfold reconcilePublisherSessionWrite
  refine .bind (meets_of_idle contextState_idle valid) valid fun canceled first suffix firstValid _ => ?_
  split
  · refine .attempt sessionLoad_meets firstValid fun loaded second suffix' secondValid
      observed => ?_
    split
    · rename_i applied
      have found : loaded = .ok (some (encoded, candidate)) := by
        unfold AppliedAs at applied
        split at applied
        · simp only [Bool.and_eq_true, beq_iff_eq] at applied
          rw [applied.1.2, applied.2]
        · cases applied
      subst found
      exact postWritten_meets written ((grown.trans suffix).trans suffix') secondValid observed.symm
    · split
      · exact .throw trivial
      · split
        · exact .throw trivial
        · exact unsettled second secondValid
  · split
    · exact .throw trivial
    · exact unsettled first firstValid

theorem writeSession_meets {expected : Option Digest} {state : PublisherSession} {encoded : Bytes}
    (written : encodePublisherSession world.platform state = .ok encoded)
    (grown : base <:+ log) (valid : Valid world.law log)
    (permitted : ∀ later, log <:+ later → Valid world.law later →
      SealedAt later .session expected → world.SessionFollows (sealings later .session) encoded) :
    (writeSession world.platform expected state encoded).Meets world.law agent log
      (fun loaded later => loaded.state = state ∧ world.DurableWithin base later loaded)
      fun _ _ => True := by
  refine .bind (sessionSwap_meets permitted) valid ?_
  rintro ⟨revision, failure⟩ later suffix laterValid head
  cases failure with
  | none =>
      refine .failIf (fun _ => trivial) fun _ => ?_
      exact postWritten_meets written (grown.trans suffix) laterValid (head rfl)
  | some error => exact reconcile_meets written (grown.trans suffix) laterValid

theorem createPublisherSession_meets {store : PublisherSessionStore} {state : PublisherSession}
    {time : Time} (valid : Valid world.law log) :
    (createPublisherSession world.platform store state time).Meets world.law agent log
      (fun loaded later => loaded.state = state ∧ world.DurableWithin log later loaded)
      fun _ _ => True := by
  refine .bind (meets_of_idle contextErr_idle valid) valid fun _ first grown firstValid _ => ?_
  refine .ofExcept (fun _ _ => trivial) fun _ _ => ?_
  refine .bind (meets_of_idle requireActive_idle firstValid) firstValid
    fun _ second grown' secondValid _ => ?_
  refine .ofExcept (fun _ _ => trivial) fun encoded written => ?_
  refine writeSession_meets written (grown.trans grown') secondValid ?_
  intro later _ _ (empty : sealings later .session = [])
  rw [empty]
  exact ⟨state, written⟩

theorem loadPublisherSession_meets {store : PublisherSessionStore} {time : Time}
    (valid : Valid world.law log) :
    (loadPublisherSession world.platform store time).Meets world.law agent log
      (fun found later => ∀ loaded, found = some loaded → world.DurableWithin log later loaded)
      fun _ _ => True := by
  refine .bind (meets_of_idle contextErr_idle valid) valid fun _ first grown firstValid _ => ?_
  refine .attempt sessionLoad_meets firstValid ?_
  rintro (error | found) second grown' secondValid observed
  · exact .throw trivial
  refine .bind (meets_of_idle contextErr_idle secondValid) secondValid
    fun _ third grown'' thirdValid _ => ?_
  rcases found with _ | ⟨encoded, revision⟩
  · exact .pure fun _ impossible => by cases impossible
  refine .failIf (fun _ => trivial) fun _ => ?_
  refine .ofExcept (fun _ _ => trivial) fun state decoded => ?_
  refine .ofExcept (fun _ _ => trivial) fun _ _ => ?_
  refine .bind (meets_of_idle requireActive_idle thirdValid) thirdValid
    fun _ last lasting _ _ => ?_
  refine .pure ?_
  rintro loaded ⟨⟩
  exact ⟨encoded, second, decodePublisherSession_ok decoded, grown.trans grown',
    grown''.trans lasting, observed.symm⟩

theorem advancePublisherSession_meets {store : PublisherSessionStore}
    {current : LoadedPublisherSession} {phase : PublisherSessionPhase}
    {checkpoint : Option HandoffCheckpoint} {handoffDigest : Digest} {time : Time}
    (held : world.Holds log current) (valid : Valid world.law log) :
    (advancePublisherSession world.platform store current phase checkpoint handoffDigest time).Meets
      world.law agent log
      (fun loaded later =>
        nextPublisherSession world.platform current.state phase checkpoint handoffDigest =
          .ok loaded.state ∧ world.DurableWithin log later loaded)
      fun _ _ => True := by
  refine .bind (meets_of_idle contextErr_idle valid) valid fun _ first grown firstValid _ => ?_
  refine .failIf (fun _ => trivial) fun _ => ?_
  refine .ofExcept (fun _ _ => trivial) fun _ _ => ?_
  refine .ofExcept (fun _ _ => trivial) fun currentBytes _ => ?_
  refine .failIf (fun _ => trivial) fun _ => ?_
  refine .ofExcept (fun _ _ => trivial) fun next stepped => ?_
  refine .bind (meets_of_idle requireActive_idle firstValid) firstValid
    fun _ second grown' secondValid _ => ?_
  refine .ofExcept (fun _ _ => trivial) fun encoded written => ?_
  refine (writeSession_meets written (grown.trans grown') secondValid ?_).weaken secondValid ?_
    fun _ _ _ _ _ => trivial
  · -- The durable state is the one this process held, because its revision is.
    rintro later grown'' laterValid ⟨data, head⟩
    obtain ⟨heldBytes, heldWritten, member⟩ := held
    have same := session_of_revision laterValid (List.mem_of_mem_head? head)
      (mem_sealings_mono ((grown.trans grown').trans grown'') member)
    cases found : sealings later .session with
    | nil => simp [found] at head
    | cons newest older =>
        obtain rfl : newest = (data, current.revision) := by simpa [found] using head
        exact ⟨current.state, phase, checkpoint, handoffDigest, next, same ▸ heldWritten, stepped,
          written⟩
  · rintro loaded later _ _ ⟨rfl, durable⟩
    exact ⟨stepped, durable⟩

theorem program_meets {client : Nat} {call : SessionCall} {held : List LoadedPublisherSession}
    (valid : Valid world.law log) (remembers : world.Remembers client held log)
    (allowed : world.machine.allowed client held call) :
    (world.program client call).Meets world.law (client, call) log
      (fun found later => ∀ loaded, found = some loaded →
        world.Desires call loaded.state ∧ world.DurableWithin log later loaded)
      fun _ _ => True := by
  cases call with
  | create state time =>
      refine .bind (createPublisherSession_meets valid) valid fun created later _ _ durable => ?_
      refine .pure ?_
      rintro loaded ⟨⟩
      exact durable
  | load time =>
      refine (loadPublisherSession_meets valid).weaken valid ?_ fun _ _ _ _ _ => trivial
      intro found later _ _ durable loaded same
      exact ⟨trivial, durable loaded same⟩
  | advance current phase checkpoint handoffDigest time =>
      have holds := remembers current (allowed current phase checkpoint handoffDigest time rfl)
      refine .bind (advancePublisherSession_meets holds valid) valid
        fun advanced later _ _ durable => ?_
      refine .pure ?_
      rintro loaded ⟨⟩
      exact durable

theorem SessionWorld.Remembers.mono {client : Nat} {held : List LoadedPublisherSession}
    (remembers : world.Remembers client held log) (grown : log <:+ later) :
    world.Remembers client held later := by
  intro loaded member
  obtain ⟨encoded, written, sealed⟩ := remembers loaded member
  exact ⟨encoded, written, mem_sealings_mono grown sealed⟩

theorem body_safe {client : Nat} {call : SessionCall} {held : List LoadedPublisherSession}
    (valid : Valid world.law log) (remembers : world.Remembers client held log)
    (allowed : world.machine.allowed client held call) :
    Safe world.law (client, call)
      (fun result later => world.Promises log call result.1 later ∧
        world.Remembers client result.2 later)
      (world.machine.body client call held) log := by
  refine Safe.bind (program_meets valid remembers allowed) valid ?_
  rintro (error | found) later grown _ promised
  · refine ⟨fun _ impossible => (by cases impossible), ?_⟩
    intro loaded member
    have earlier : loaded ∈ held := by simpa [Except.toOption] using member
    exact remembers.mono grown loaded earlier
  · refine ⟨fun loaded same => promised loaded (Except.ok.inj same), ?_⟩
    intro loaded member
    rcases List.mem_append.mp member with earlier | recent
    · exact remembers.mono grown loaded earlier
    · have same : found = some loaded := by simpa [Except.toOption] using recent
      exact (promised loaded same).2.holds

theorem sessions_verified (world : SessionWorld) :
    Verified world.machine world.keeps world.Remembers fun _ _ _ _ => True where
  stable client held log later grown remembers := remembers.mono grown
  fresh client log := by simp [SessionWorld.Remembers, SessionWorld.machine]
  safe client held call log valid remembers allowed :=
    (body_safe valid remembers allowed).weaken valid fun _ _ _ _ promised => ⟨trivial, promised.2⟩

end

def SessionWorld.durable (world : SessionWorld) (log : SessionLog) : List PublisherSession :=
  (sealings log .session).filterMap fun sealed =>
    (decodePublisherSession world.platform sealed.1).toOption

structure Outranks (later earlier : PublisherSession) : Prop where
  rank : ∃ low high, earlier.phase.rank = some low ∧ later.phase.rank = some high ∧ low < high
  retains : Retains earlier later

theorem Advances.outranks {previous next : PublisherSession} (advances : Advances previous next) :
    Outranks next previous := by
  obtain ⟨⟨rank, before, after⟩, retains⟩ := advances
  exact ⟨⟨rank, rank + 1, before, after, Nat.lt_succ_self _⟩, retains⟩

instance : Trans Outranks Outranks Outranks where
  trans {third second first} left right := by
    obtain ⟨⟨middle, high, middleRank, highRank, above⟩, retains⟩ := left
    obtain ⟨⟨low, middle', lowRank, middleRank', above'⟩, retains'⟩ := right
    have same : middle' = middle := Option.some.inj (middleRank'.symm.trans middleRank)
    exact ⟨⟨low, high, lowRank, highRank, by omega⟩, retains'.trans retains⟩

section

variable {world : SessionWorld} {log : SessionLog}

open SessionWorld

theorem durable_chain (readsBack : world.platform.ReadsBack) (valid : Valid world.law log) :
    (∀ sealed ∈ sealings log .session,
      ∃ state, encodePublisherSession world.platform state = .ok sealed.1) ∧
    (world.durable log).IsChain fun next previous => Advances previous next := by
  induction log with
  | nil => simp [sealings, SessionWorld.durable]
  | cons event older ih =>
      obtain ⟨decodable, chain⟩ := ih (valid.suffix (List.suffix_cons _ _))
      unfold SessionWorld.durable at chain ⊢
      rw [sealings_cons]
      cases found : sealedState .session event.effect with
      | none => exact ⟨by simpa using decodable, by simpa using chain⟩
      | some newest =>
          obtain ⟨data, revision⟩ := newest
          have follows := valid.kept (List.suffix_refl _) data revision (sealedState_some.mp found)
          cases previous : sealings older .session with
          | nil =>
              rw [previous] at follows
              obtain ⟨state, written⟩ := follows
              have read := decode_encodePublisherSession readsBack written
              refine ⟨by simpa using ⟨state, written⟩, ?_⟩
              simp [read, Except.toOption]
          | cons last rest =>
              obtain ⟨lastData, lastRevision⟩ := last
              rw [previous] at follows decodable
              obtain ⟨current, phase, checkpoint, handoffDigest, next, held, stepped, written⟩ :=
                follows
              have readCurrent := decode_encodePublisherSession readsBack held
              have readNext := decode_encodePublisherSession readsBack written
              rw [previous] at chain
              refine ⟨?_, ?_⟩
              · intro sealed member
                simp only [Option.toList_some, List.cons_append, List.nil_append] at member
                rcases List.mem_cons.mp member with rfl | earlier
                · exact ⟨next, written⟩
                · exact decodable sealed earlier
              · simp only [Option.toList_some, List.cons_append, List.nil_append,
                  List.filterMap_cons, readNext, readCurrent, Except.toOption] at chain ⊢
                exact List.isChain_cons_cons.mpr ⟨nextPublisherSession_ok stepped, chain⟩

/-- The session's phase machine: over every run the durable states form one chain of single
steps that keep the identity and the recorded evidence; a call that returns a session had it
durable while it was going on; and a state that can be written is read back. -/
theorem publisherSession_phases (readsBack : world.platform.ReadsBack) :
    (∀ config, world.machine.Reachable config →
      (∀ sealed ∈ sealings config.log .session,
        ∃ state, decodePublisherSession world.platform sealed.1 = .ok state) ∧
      ((world.durable config.log).IsChain fun next previous => Advances previous next) ∧
      (world.durable config.log).Pairwise Outranks) ∧
    (∀ first last client call loaded, world.machine.Reachable first →
      world.machine.Completes client call (.ok (some loaded)) first last →
      world.Desires call loaded.state ∧ ∃ between, first.log <:+ between ∧ between <:+ last.log ∧
        (world.durable between).head? = some loaded.state) ∧
    ∀ value encoded, encodePublisherSession world.platform value = .ok encoded →
      decodePublisherSession world.platform encoded = .ok value := by
  refine ⟨?_, ?_, fun value encoded written => decode_encodePublisherSession readsBack written⟩
  · intro config reachable
    have valid := ((sessions_verified world).reachable reachable).valid
    obtain ⟨decodable, chain⟩ := durable_chain readsBack valid
    refine ⟨?_, chain, ?_⟩
    · intro sealed member
      obtain ⟨state, written⟩ := decodable sealed member
      exact ⟨state, decode_encodePublisherSession readsBack written⟩
    · exact (chain.imp fun _ _ advances => advances.outranks).pairwise
  · intro first last client call loaded reachable completes
    have safe := (sessions_verified world).reachable reachable
    have promised : world.Promises first.log call (.ok (some loaded)) last.log :=
      completes.promise (sessions_verified world) safe fun held remembers allowed =>
        (body_safe safe.valid remembers allowed).weaken safe.valid
          fun _ _ _ _ promise => promise.1
    obtain ⟨desired, encoded, between, written, after, before, head⟩ := promised loaded rfl
    refine ⟨desired, between, after, before, ?_⟩
    unfold SessionWorld.durable
    cases sealed : sealings between .session with
    | nil => simp [sealed] at head
    | cons newest older =>
        obtain rfl : newest = (encoded, loaded.revision) := by simpa [sealed] using head
        simp [decode_encodePublisherSession readsBack written, Except.toOption]

end

namespace SampleSession

def bearer : BearerExport where
  format := 1
  exactKey := ascii "key"
  url := ascii "https://s3/key"
  headers := []
  expiresAt := ⟨2000 * 1000000000, 0⟩

def shareID : ShareID := ⟨List.replicate 16 1⟩

def repositoryPrefix : Bytes := ascii "p/shares/" ++ ShareID.text shareID

def prepared : PublisherSession where
  format := publisherSessionFormat
  profile := publisherSessionProfile
  sequence := 1
  phase := .prepared
  createdAt := ⟨1000 * 1000000000, true, false⟩
  authorizationExpiresAt := ⟨2000 * 1000000000, true, false⟩
  shareID := ShareID.text shareID
  repositoryID := hexEncode (List.replicate 32 1)
  recoveryKeyID := ascii "k"
  sourcePath := ascii "/source"
  selectAll := true
  selectedPaths := some []
  once := true
  handoffPath := ascii "/handoff"
  bucket := ascii "b"
  keyPrefix := ascii "p"
  region := ascii "r"
  endpoint := []
  expectedBucketOwner := []
  usePathStyle := false
  allowInsecureEndpoint := false
  tlsRootCAPEM := some (ascii "ca")
  repositoryPrefix := repositoryPrefix
  channel := ascii "c"
  referenceKey := repositoryPrefix ++ ascii "/.s3disk/v1/signed-refs/v1/" ++ base64RawURL (ascii "c")
  referenceKeyID := ascii "k"
  referencePrivateSeed := List.replicate 32 1
  rootKey := repositoryPrefix ++ ascii "/share-root/" ++ base64RawURL (List.replicate 32 1)
  rootBearer := [0]
  clientEncryptionKey := clientEncryptionSecretPrefix ++ base64RawURL (List.replicate 32 1)
  trustedCheckpoint := none
  handoffDigest := []

def platform : SessionPlatform where
  wire := concreteWire
  sha256 data := ⟨1 :: data⟩
  parseURL text := some ⟨ascii "https", ascii "s3", ascii "s3", [], [], [], [], false, text⟩
  parseIP _ := none
  toLower text := text
  bearer := .ofList [bearer]
  payload _ := none
  bundle := .ofList []
  trimSpace text := text
  canonicalTLSRootCAPEM certificates := some certificates
  session := .ofList [prepared, { prepared with phase := .repositoryReady, sequence := 2 }]

theorem platform_readsBack : platform.ReadsBack := by
  intro value data _ marshalled
  exact StreamJSON.ofList_reads marshalled (by simp)

def world : SessionWorld := ⟨platform, fun _ => ⟨shareID, ascii "k"⟩⟩

def respond (log : SessionLog) (_ : Nat × SessionCall) :
    (op : ShareRequest) → Option (ShareAnswer op × Option ShareEffect)
  | .contextErr => some (none, none)
  | .now => some (1500 * 1000000000, none)
  | .loadState slot => some (.ok (sealings log slot).head?, none)
  | .swapState slot expected data => some (Simulation.swap log slot expected data)
  | _ => none

def environment : Environment world.machine where
  respond := respond
  served log agent op answer effect found := by
    cases op with
    | contextErr => cases found; rfl
    | now => cases found; rfl
    | loadState slot => cases found; exact ⟨rfl, rfl⟩
    | swapState slot expected data =>
        have same := Option.some.inj found
        have served := Simulation.swap_served log slot expected data
        rw [same] at served
        exact served
    | base request => cases found
    | presignGet key => cases found
    | authorizationExpiry => cases found
    | sign message => cases found
    | verify keyID message signature => cases found
    | get key options => cases found
    | putIfAbsent key data => cases found
    | compareAndSwap key expected data => cases found
    | sealObject key plaintext => cases found
    | openObject key ciphertext => cases found

instance (client : Nat) (held : List LoadedPublisherSession) (call : SessionCall) :
    Decidable (world.machine.allowed client held call) :=
  match call with
  | .advance current phase checkpoint handoffDigest now =>
      decidable_of_iff (current ∈ held) ⟨by
        intro member _ _ _ _ _ same
        cases same
        exact member, fun allowed => allowed current phase checkpoint handoffDigest now rfl⟩
  | .create _ _ => .isTrue (by intro _ _ _ _ _ same; cases same)
  | .load _ => .isTrue (by intro _ _ _ _ _ same; cases same)

def turns : List (Turn (List LoadedPublisherSession) SessionCall) :=
  [.call 0 fun _ => some (.create prepared (1500 * 1000000000)), .proceed 0 10,
    .call 0 fun held => held.head?.map fun current =>
      .advance current .repositoryReady none .zero (1500 * 1000000000),
    .proceed 0 10]

end SampleSession

theorem publisherSession_phases_advanced : ∃ config, SampleSession.world.machine.Reachable config ∧
    (SampleSession.world.durable config.log).length = 2 ∧
    ((SampleSession.world.durable config.log).IsChain fun next previous =>
      Advances previous next) := by
  have computed : (SampleSession.environment.play SampleSession.turns
      SampleSession.world.machine.start).any
      (fun config => (SampleSession.world.durable config.log).length == 2) = true := by
    decide +kernel
  obtain ⟨config, reachable, two⟩ := Environment.exists_reachable computed
  have history := (publisherSession_phases SampleSession.platform_readsBack).1 config reachable
  exact ⟨config, reachable, by simpa using two, history.2.1⟩

end S3Disk.CLI
