import S3Disk.CallSafety
import S3Disk.Simulation

/-! What the caller of Commit may conclude from its result, over every run. -/

namespace S3Disk

open Concurrent Relation

section

variable {world : World} {log later : Log}

theorem mem_points_of_published (lawful : world.repository.wire.Lawful) (valid : Valid world.law log)
    {key : Key} (isReference : key.IsReference) {point : Point}
    (published : Published world.repository.wire log key point) :
    point ∈ points world.repository.wire log key := by
  obtain ⟨visible, member, reaches⟩ := published
  exact Lineage.mem_of_reaches (pointTree lawful log) (points_linear valid isReference) member reaches

theorem not_published_of_superseded (lawful : world.repository.wire.Lawful)
    (valid : Valid world.law later) (grown : log <:+ later) {key : Key}
    (isReference : key.IsReference) {point : Point}
    (superseded : Superseded world.repository.wire log key point) :
    ¬Published world.repository.wire later key point := by
  intro published
  obtain ⟨visible, member, passed, reaches, generation, different⟩ := superseded.mono grown
  have tree := pointTree lawful later
  have linear := points_linear valid isReference
  have passedMember := Lineage.mem_of_reaches tree linear member reaches
  have pointMember := mem_points_of_published lawful valid isReference published
  exact different (Lineage.eq_of_rank_eq tree linear passedMember pointMember generation)

theorem callPost_of_returns (lawful : world.repository.wire.Lawful)
    {before after : Config Request Answer PublisherCall Effect World.Memory PublisherResult}
    {label : Label Request Answer PublisherCall Effect PublisherResult} {client : Nat}
    {call : PublisherCall} {result : PublisherResult}
    (reachable : world.machine.Reachable before) (step : world.machine.Step before label after)
    (returns : label.Returns client call result) : CallPost world client call result after.log := by
  have verified := publishers_verified lawful
  exact (step.safe verified (verified.reachable reachable)).2 client call result returns

theorem reachable_after
    {before after last : Config Request Answer PublisherCall Effect World.Memory PublisherResult}
    {label : Label Request Answer PublisherCall Effect PublisherResult}
    {labels : List (Label Request Answer PublisherCall Effect PublisherResult)}
    (reachable : world.machine.Reachable before) (step : world.machine.Step before label after)
    (run : world.machine.Run after labels last) : world.machine.Reachable last := by
  obtain ⟨earlier, run0⟩ := reachable
  exact ⟨_, (Machine.Run.step run0 step).trans run⟩

/-- An unsigned Commit tells the truth: success means published, the conflict means
never to be published, and every other error says that the outcome is in doubt. -/
theorem unsigned_commit_honest (lawful : world.repository.wire.Lawful)
    {before after : Config Request Answer PublisherCall Effect World.Memory PublisherResult}
    {label : Label Request Answer PublisherCall Effect PublisherResult} {client : Nat}
    {staged : StagedSnapshot} {result : Except Err Snapshot}
    (reachable : world.machine.Reachable before) (step : world.machine.Step before label after)
    (returns : label.Returns client (.commit staged) (.snapshot result))
    (unsigned : (world.publisher client).trust = none) (changed : staged.unchanged = false) :
    match result with
    | .ok _ => Published world.repository.wire after.log (.reference staged.channel)
        staged.snapshot.point
    | .error error =>
        (error = Sentinel.publishConflict.error ∧ ∀ labels last, world.machine.Run after labels last →
          ¬Published world.repository.wire last.log (.reference staged.channel)
            staged.snapshot.point) ∨
        (error.is .publishIndeterminate = true ∧
          Peaceful (client, .commit staged) error after.log) := by
  have outcome := callPost_of_returns lawful reachable step returns changed
  cases result with
  | ok snapshot => simpa only [CommitOk, unsigned] using outcome
  | error error =>
      simp only [CommitOk, unsigned] at outcome
      rcases outcome with doubt | ⟨conflict, superseded⟩
      · exact .inr doubt
      · refine .inl ⟨conflict, ?_⟩
        intro labels last run
        have valid := ((publishers_verified lawful).reachable (reachable_after reachable step run)).valid
        have reference : (Key.reference staged.channel).IsReference := trivial
        exact not_published_of_superseded lawful valid run.log_suffix reference superseded

/-- Both clients stage a first snapshot and the second one commits before the first. -/
def lostRace : List (Turn World.Memory PublisherCall) :=
  [Simulation.stageEmpty 1, Simulation.toEnd 1] ++ Simulation.publishEmpty 2 ++
    [Simulation.commitStaged 1, .proceed 1 2]

def conflicted : PublisherCall × PublisherResult → Bool
  | (.commit staged, .snapshot (.error error)) =>
      staged.unchanged == false && error == Sentinel.publishConflict.error
  | _ => false

theorem conflicted_elim {call : PublisherCall} {result : PublisherResult}
    (holds : conflicted (call, result) = true) :
    ∃ staged, call = .commit staged ∧ staged.unchanged = false ∧
      result = .snapshot (.error Sentinel.publishConflict.error) := by
  unfold conflicted at holds
  split at holds
  · rename_i staged error same
    cases same
    simp only [Bool.and_eq_true, beq_iff_eq] at holds
    exact ⟨staged, rfl, holds.1, by rw [holds.2]⟩
  · cases holds

theorem unsigned_commit_honest_simulated :
    ∃ before label after staged, (Simulation.world false).machine.Reachable before ∧
      (Simulation.world false).machine.Step before label after ∧
      label.Returns 1 (.commit staged) (.snapshot (.error Sentinel.publishConflict.error)) ∧
      ∀ labels last, (Simulation.world false).machine.Run after labels last →
        ¬Published concreteWire last.log (.reference staged.channel) staged.snapshot.point := by
  have computed : ((Simulation.run false lostRace).bind
      ((Simulation.environment false).finish 1)).any
        (fun finished => conflicted (finished.1, finished.2.1)) = true := by decide +kernel
  obtain ⟨before, label, after, call, result, reachable, step, returns, conflict⟩ :=
    Simulation.exists_return computed
  obtain ⟨staged, rfl, changed, rfl⟩ := conflicted_elim conflict
  refine ⟨before, label, after, staged, reachable, step, returns, ?_⟩
  rcases unsigned_commit_honest concreteWire_lawful reachable step returns rfl changed with
    ⟨_, never⟩ | ⟨doubt, _⟩
  · exact never
  · exact absurd doubt (by decide)

def SharesJournal (world : World) (journal : Nat) : Prop :=
  ∀ client trust, (world.publisher client).trust = some trust → trust.publicationJournal = journal

def CommitsTo (channel : Channel) (point : Point) : PublisherCall → Prop
  | .commit staged => staged.channel = channel ∧ staged.snapshot.point = point
  | _ => False

theorem begun_of_visible {journal : Nat} (shares : SharesJournal world journal)
    (valid : Valid world.law log) {channel : Channel} {point : Point}
    (visible : point ∈ points world.repository.wire log (.signedReference channel)) :
    Begun log journal channel point := by
  obtain ⟨object, member, asserted⟩ := List.mem_filterMap.mp visible
  obtain ⟨event, older, inside, effect⟩ := mem_versions_split member
  have served : world.serves event.client older event.op event.answer event.effect :=
    valid.served inside
  rw [effect] at served
  have kept : Keeps world older event := valid.kept inside
  obtain ⟨expected, _, _, ⟨put, _⟩ | swap⟩ := serves_stored served
  · obtain ⟨kind, digest, same⟩ := kept.immutable _ _ put
    cases same
  · obtain ⟨trust, configured, ⟨state, revision⟩, recorded, pending, found, same⟩ :=
      kept.writtenAhead channel expected object.data swap
    have shorter : older <:+ log := (List.suffix_cons _ _).trans inside
    rw [shares _ _ configured] at recorded
    obtain ⟨_, _, _, _, _, _, _, _, stateValid, _⟩ :=
      recordsWell_of_mem (valid.suffix shorter) recorded
    have target := (stateValid.pending pending found).1.asserted
    rw [same] at target
    have samePoint : pending.next.point = point := by simpa [pointOf, target] using asserted
    exact ⟨_, mem_records_mono shorter recorded, pending, found, samePoint⟩

theorem commitsTo_of_begun {journal : Nat} (shares : SharesJournal world journal)
    {event : LogEntry} (valid : Valid world.law (event :: log)) {channel : Channel} {point : Point}
    (unbegun : ¬Begun log journal channel point)
    (begun : Begun (event :: log) journal channel point) :
    CommitsTo channel point event.call ∧ ¬event.op.Reads := by
  have olderValid : Valid world.law log := valid.suffix (List.suffix_cons _ _)
  obtain ⟨⟨state, revision⟩, member, pending, found, target⟩ := begun
  have recorded : event.effect = some (.recorded journal channel state revision) := by
    rw [records_cons] at member
    rcases List.mem_append.mp member with new | earlier
    · exact recordedState_some.mp (Option.mem_toList.mp new)
    · exact absurd ⟨_, earlier, pending, found, target⟩ unbegun
  have served : world.serves event.client log event.op event.answer event.effect :=
    valid.served (List.suffix_refl _)
  rw [recorded] at served
  obtain ⟨expected, _, _, op⟩ := serves_recorded served
  refine ⟨?_, by simp [op, Request.Reads, Request.writes]⟩
  obtain ⟨trust, _, _, _, _, _, move⟩ := recorded_step valid recorded
  generalize earlier : ((records log journal channel).head?.map (·.1)) = before at move
  cases move with
  | start => cases found
  | adopt idle visible advances =>
      have idle' : _ = some pending := found
      simp [idle] at idle'
  | begin idle begunBy =>
      obtain rfl := Option.some.inj found
      dsimp only at begunBy
      cases made : event.call with
      | commit staged =>
          rw [made] at begunBy
          obtain ⟨_, sameChannel, _, samePoint⟩ := begunBy
          exact ⟨sameChannel, samePoint.trans target⟩
      | resignReference name =>
          rw [made] at begunBy
          have already := begun_of_visible shares olderValid begunBy.2.mem_points
          exact absurd (target ▸ already) unbegun
      | _ =>
          rw [made] at begunBy
          exact begunBy.elim
  | @refresh _ intent _ _ owned =>
      obtain rfl := Option.some.inj found
      obtain ⟨record, newest, same⟩ := Option.map_eq_some_iff.mp earlier
      exact absurd ⟨record, List.mem_of_mem_head? newest, intent, same ▸ owned, target⟩ unbegun
  | finalize owned visible advances settles => cases found

theorem commit_between {journal : Nat} (shares : SharesJournal world journal)
    {newer : Log} (valid : Valid world.law (newer ++ log)) {channel : Channel} {point : Point}
    (unbegun : ¬Begun log journal channel point)
    (begun : Begun (newer ++ log) journal channel point) :
    ∃ event ∈ newer, CommitsTo channel point event.call ∧ ¬event.op.Reads := by
  induction newer with
  | nil => exact absurd begun unbegun
  | cons event newer ih =>
      have shorter : newer ++ log <:+ event :: newer ++ log := List.suffix_cons _ _
      by_cases already : Begun (newer ++ log) journal channel point
      · obtain ⟨found, member, commits⟩ := ih (valid.suffix shorter) already
        exact ⟨found, List.mem_cons_of_mem _ member, commits⟩
      · exact ⟨event, List.mem_cons_self, commitsTo_of_begun shares valid already begun⟩

/-- A signed Commit that reports success published its snapshot. One that reports a
conflict did not and never will, provided that no service blamed a conflict itself,
that the journal's slot was the call's own whenever it looked, and that no other call
commits the same snapshot. -/
theorem signed_commit_honest (lawful : world.repository.wire.Lawful) {journal : Nat}
    (shares : SharesJournal world journal)
    {before after : Config Request Answer PublisherCall Effect World.Memory PublisherResult}
    {label : Label Request Answer PublisherCall Effect PublisherResult} {client : Nat}
    {staged : StagedSnapshot} {result : Except Err Snapshot}
    (reachable : world.machine.Reachable before) (step : world.machine.Step before label after)
    (returns : label.Returns client (.commit staged) (.snapshot result))
    (signed : (world.publisher client).trust.isSome) (changed : staged.unchanged = false) :
    match result with
    | .ok _ => Published world.repository.wire after.log (.signedReference staged.channel)
        staged.snapshot.point
    | .error error => error.is .publishConflict = true →
        (∀ event older, event :: older <:+ after.log → event.client = client →
          event.call = .commit staged → Undisturbed older event) →
        ∀ labels last newer, world.machine.Run after labels last → last.log = newer ++ after.log →
          (∀ event ∈ after.log, CommitsTo staged.channel staged.snapshot.point event.call →
            event.client = client) →
          (∀ event ∈ newer, ¬CommitsTo staged.channel staged.snapshot.point event.call) →
          ¬Published world.repository.wire last.log (.signedReference staged.channel)
            staged.snapshot.point := by
  obtain ⟨trust, configured⟩ := Option.isSome_iff_exists.mp signed
  have outcome := callPost_of_returns lawful reachable step returns changed
  cases result with
  | ok snapshot => simpa only [CommitOk, configured] using outcome
  | error error =>
      simp only [CommitOk, configured] at outcome
      intro conflict undisturbed labels last newer run grown own later published
      have valid : Valid world.law last.log :=
        ((publishers_verified lawful).reachable (reachable_after reachable step run)).valid
      have reference : (Key.signedReference staged.channel).IsReference := trivial
      rcases outcome conflict with superseded | ⟨event, older, inside, client, call, broken⟩ |
        ⟨middle, unbegun, since⟩
      · exact not_published_of_superseded lawful valid run.log_suffix reference superseded published
      · exact broken (undisturbed event older inside client call)
      · -- Nobody had recorded the intent when the call gave up, and it only read since.
        rw [shares client trust configured] at unbegun
        have begun := begun_of_visible shares valid
          (mem_points_of_published lawful valid reference published)
        obtain ⟨between, split, onlyReads⟩ := since
        rw [grown, split, ← List.append_assoc] at begun valid
        obtain ⟨event, member, commits, writes⟩ := commit_between shares valid unbegun begun
        rcases List.mem_append.mp member with late | early
        · exact later event late commits
        · have mine := own event (by rw [split]; exact List.mem_append_left _ early) commits
          exact writes (onlyReads event early mine)

def calm (event : LogEntry) : Bool :=
  (match event.op, event.answer with
    | .loadJournal _ (.refresh _) _, _ => false
    | .loadJournal _ _ _, .ok (some (state, _)) => state.pending.isNone
    | _, _ => true) &&
  (reports event.op event.answer).all fun error =>
    !error.is .publishConflict && !error.is .splitBrain

theorem undisturbed_of_calm {event : LogEntry} (holds : calm event = true) :
    Undisturbed log event := by
  obtain ⟨client, call, op, answer, effect⟩ := event
  simp only [calm, Bool.and_eq_true] at holds
  refine ⟨?_, ?_⟩
  · intro error reported
    simpa [reported] using holds.2
  · cases op with
    | loadJournal journal read channel =>
        cases answer with
        | error error => trivial
        | ok found =>
            cases found with
            | none => trivial
            | some record =>
                cases read with
                | refresh observed => cases holds.1
                | _ =>
                    have idle : record.1.pending = none := by simpa using holds.1
                    simp [ReadsKept, SlotKept, idle]
    | _ => trivial

theorem simulation_shares (signed : Bool) : SharesJournal (Simulation.world signed) 0 := by
  intro client trust configured
  cases signed with
  | false => cases configured
  | true =>
      cases configured
      rfl

def undividedBy (point : Point) (event : LogEntry) : Bool :=
  match event.call with
  | .commit staged => if event.client = 1 then calm event else staged.snapshot.point != point
  | _ => true

def undivided (call : PublisherCall) (log : Log) : Bool :=
  match call with
  | .commit staged => log.all (undividedBy staged.snapshot.point)
  | _ => false

theorem signed_commit_honest_simulated :
    ∃ before label after staged, (Simulation.world true).machine.Reachable before ∧
      (Simulation.world true).machine.Step before label after ∧
      label.Returns 1 (.commit staged) (.snapshot (.error Sentinel.publishConflict.error)) ∧
      ¬Published concreteWire after.log (.signedReference staged.channel) staged.snapshot.point := by
  have computed : ((Simulation.run true lostRace).bind ((Simulation.environment true).finish 1)).any
      (fun finished => conflicted (finished.1, finished.2.1) &&
        undivided finished.1 finished.2.2.log) = true := by decide +kernel
  obtain ⟨before, label, after, call, result, reachable, step, returns, holds⟩ :=
    Simulation.exists_return computed
  simp only [Bool.and_eq_true] at holds
  obtain ⟨staged, rfl, changed, rfl⟩ := conflicted_elim holds.1
  have alone : ∀ event ∈ after.log, undividedBy staged.snapshot.point event = true :=
    List.all_eq_true.mp holds.2
  refine ⟨before, label, after, staged, reachable, step, returns, ?_⟩
  refine signed_commit_honest concreteWire_lawful (simulation_shares true) reachable step returns
    rfl changed (by decide) ?_ [] after [] (.nil _) rfl ?_ (by simp)
  · intro event older inside client call
    have checked := alone event (inside.subset List.mem_cons_self)
    simp only [undividedBy, call, client, if_true] at checked
    exact undisturbed_of_calm checked
  · intro event member commits
    have checked := alone event member
    cases call : event.call with
    | commit other =>
        by_cases own : event.client = 1
        · exact own
        · rw [call] at commits
          simp [undividedBy, call, own, commits.2] at checked
    | _ =>
        rw [call] at commits
        exact commits.elim

/-- The second client settles the intent of the first and then begins to re-sign the
published reference, all before the first one looks at the journal again. -/
def helpfulRace : List (Turn World.Memory PublisherCall) :=
  [Simulation.stageEmpty 1, Simulation.toEnd 1, Simulation.commitStaged 1, .proceed 1 1,
    .call 2 fun _ => some (.recoverPublication Simulation.channel), Simulation.toEnd 2,
    .call 2 fun _ => some (.resignReference Simulation.channel), .proceed 2 8, .proceed 1 9]

def showsStaged (call : PublisherCall) (log : Log) : Bool :=
  match call with
  | .commit staged => decide (staged.snapshot.point ∈
      points concreteWire log (.signedReference staged.channel))
  | _ => false

theorem conflict_of_published :
    ∃ before label after staged, SharesJournal (Simulation.world true) 0 ∧
      (Simulation.world true).machine.Reachable before ∧
      (Simulation.world true).machine.Step before label after ∧ staged.unchanged = false ∧
      label.Returns 1 (.commit staged) (.snapshot (.error Sentinel.publishConflict.error)) ∧
      Published concreteWire after.log (.signedReference staged.channel) staged.snapshot.point := by
  have computed : ((Simulation.run true helpfulRace).bind
      ((Simulation.environment true).finish 1)).any
      (fun finished => conflicted (finished.1, finished.2.1) &&
        showsStaged finished.1 finished.2.2.log) = true := by decide +kernel
  obtain ⟨before, label, after, call, result, reachable, step, returns, holds⟩ :=
    Simulation.exists_return computed
  simp only [Bool.and_eq_true] at holds
  obtain ⟨staged, rfl, changed, rfl⟩ := conflicted_elim holds.1
  have visible := of_decide_eq_true holds.2
  exact ⟨before, label, after, staged, simulation_shares true, reachable, step, changed, returns,
    _, visible, .refl⟩

end

end S3Disk
