import S3Disk.FileWorld

/-! What a step of a local store does to the file on the volume, for each of the three
stores: a load returns what is durable, and a swap replaces what it read. -/

namespace S3Disk.LocalState

open Concurrent
open Volume (Change History Orderly Permitted Durable Installed)

def recordedGeneration (data : Bytes) : Option Int :=
  match Json.parse data with
  | some (.object fields) => match fieldOf "generation" fields with
      | some (.number generation) => some generation
      | _ => none
  | _ => none

def FileCall.swaps : FileCall → Bool
  | .swapWatermark _ _ _ | .swapJournal _ _ _ | .swapSealed _ _ => true
  | _ => false

namespace FileWorld

variable (world : FileWorld)

def Follows (old new : Bytes) : Prop :=
  world.kind = .watermark → old = new ∨ ∃ before after, recordedGeneration old = some before ∧
    recordedGeneration new = some after ∧ before ≤ after

def Replaces (past : History) (call : FileCall) (file : Nat) : Prop :=
  call.swaps = true ∧ ∀ below, Volume.current past = some below →
    world.Follows (Volume.contents below past) (Volume.contents file past)

def keeps (log : FileLog) (event : FileEvent) : Prop :=
  ∀ change, diskChange event = some change → Permitted (history log) change ∧
    ∀ file, change = .renamed file → world.Replaces (history log) event.call file

abbrev law : Law FileRequest FileAnswer FileCall FileEffect := ⟨world.machine.serves, world.keeps⟩

end FileWorld

variable {world : FileWorld} {agent : Nat × FileCall} {log : FileLog}

theorem orderly_of_valid (valid : Valid world.law log) : Orderly (history log) := by
  induction log with
  | nil => exact trivial
  | cons event older ih =>
      obtain ⟨⟨_, keeps⟩, rest⟩ := valid
      cases changed : diskChange event with
      | none => simpa [history, List.filterMap_cons, changed] using ih rest
      | some change =>
          simp only [history, List.filterMap_cons, changed]
          exact ⟨(keeps change changed).1, ih rest⟩

theorem served_quiet {client : Nat} {op : FileRequest} {answer : FileAnswer op}
    {effect : Option FileEffect} (quiet : onDisk op = false) (notLock : op ≠ .lock)
    (notUnlock : op ≠ .unlock) (notFailure : op ≠ .powerFailure)
    (served : world.served log client op answer effect) : effect = none := by
  cases op with
  | openEnvelope binding envelope =>
      cases answer with
      | error error => simpa [FileWorld.served, onDisk] using served
      | ok plaintext => exact served.1
  | contextErr => simpa [FileWorld.served, onDisk] using served
  | random => simpa [FileWorld.served, onDisk] using served
  | sealEnvelope binding plaintext => simpa [FileWorld.served, onDisk] using served
  | halt => exact answer.elim
  | lock => exact absurd rfl notLock
  | unlock => exact absurd rfl notUnlock
  | powerFailure => exact absurd rfl notFailure
  | _ => simp [onDisk] at quiet

theorem holder_of_change {client : Nat} {op : FileRequest} {answer : FileAnswer op}
    {change : Change} (served : world.served log client op answer (some (.disk change))) :
    (∃ survivor torn, change = .failed survivor torn) ∨ holder log = some client := by
  by_cases disk : onDisk op = true
  · exact .inr ((served_onDisk disk).mp served).1
  · have quiet : onDisk op = false := by simpa using disk
    cases op with
    | powerFailure =>
        obtain ⟨survivor, torn, same, _⟩ := served
        cases same
        exact .inl ⟨survivor, torn, rfl⟩
    | lock => cases answer <;> simp [FileWorld.served, onDisk] at served
    | unlock => simp [FileWorld.served] at served
    | _ => exact absurd (served_quiet quiet (by simp) (by simp) (by simp) served) (by simp)

def fileLease (world : FileWorld) : Lease world.law History where
  holder := holder
  view := history
  stable := by
    rintro client log later ⟨newer, rfl, others⟩ valid held
    induction newer with
    | nil => exact ⟨held, rfl⟩
    | cons event newer ih =>
        obtain ⟨⟨served, _⟩, rest⟩ := valid
        have other : event.client ≠ client := others event (by simp)
        have earlier := ih (fun event member => others event (by simp [member])) rest
        obtain ⟨actor, call, op, answer, effect⟩ := event
        have step : world.served (newer ++ log) actor op answer effect := served
        rcases effect with _ | _ | _ | change
        · exact earlier held
        · exact absurd (Option.some.inj held) other
        · cases held
        · rcases holder_of_change step with ⟨survivor, torn, rfl⟩ | same
          · cases held
          · have kept : holder (newer ++ log) = some client := by
              cases change with
              | failed survivor torn => cases held
              | _ => exact held
            rw [same] at kept
            exact absurd (Option.some.inj kept) other

abbrev Under (world : FileWorld) (agent : Nat × FileCall) {α : Type} (before : History → Prop)
    (program : Filing α) (post : α → History → Prop) (fail : Err → History → Prop) : Prop :=
  (fileLease world).Triple agent before program post fail

def Anything (_ : Err) (_ : History) : Prop := True

section

variable {α β : Type} {before : History → Prop} {post : α → History → Prop}
  {fail : Err → History → Prop}

theorem disk_request {op : FileRequest} {next : FileAnswer op → Except Err α}
    (disk : onDisk op = true)
    (served : ∀ past answer change, Orderly past → before past → diskServes past op answer change →
      (∀ made, change = some made → Permitted past made ∧
        ∀ file, made = .renamed file → world.Replaces past agent.2 file) ∧
      Outcome post fail (next answer) (change.toList ++ past)) :
    Under world agent before (.ask op fun answer => .done (next answer)) post fail := by
  refine .request fun log answer effect valid within accepted => ?_
  obtain ⟨held, change, rfl, moved⟩ := (served_onDisk disk).mp accepted
  obtain ⟨permitted, result⟩ := served (history log) answer change (orderly_of_valid valid)
    (within held) moved
  have changed : diskChange (.of agent op answer (change.map .disk)) = change := by
    cases change with
    | none => rfl
    | some made => rfl
  have after : history (.of agent op answer (change.map .disk) :: log) =
      change.toList ++ history log := by
    rw [history, List.filterMap_cons, changed]
    cases change with
    | none => rfl
    | some made => rfl
  refine ⟨fun made same => permitted made (changed.symm.trans same), ?_⟩
  cases found : next answer with
  | error error =>
      rw [found] at result
      intro _
      show fail error (history (.of agent op answer (change.map .disk) :: log))
      rw [after]
      exact result
  | ok value =>
      rw [found] at result
      intro _
      show post value (history (.of agent op answer (change.map .disk) :: log))
      rw [after]
      exact result

theorem reading_request {op : FileRequest} {next : FileAnswer op → Except Err α}
    {fact : α → History → Prop} (disk : onDisk op = true)
    (served : ∀ past answer change, diskServes past op answer change →
      change = none ∧ ∀ value, next answer = .ok value → fact value past) :
    Under world agent before (.ask op fun answer => .done (next answer))
      (fun value past => before past ∧ fact value past) Anything := by
  refine disk_request disk fun past answer change _ known moved => ?_
  obtain ⟨rfl, facts⟩ := served past answer change moved
  refine ⟨nofun, ?_⟩
  cases found : next answer with
  | error error => exact trivial
  | ok value => exact ⟨known, facts value found⟩

theorem quiet_request {op : FileRequest} {next : FileAnswer op → Except Err α} {fact : α → Prop}
    (quiet : onDisk op = false) (notLock : op ≠ .lock) (notUnlock : op ≠ .unlock)
    (notFailure : op ≠ .powerFailure)
    (facts : ∀ log answer effect, world.served log agent.1 op answer effect →
      ∀ value, next answer = .ok value → fact value) :
    Under world agent before (.ask op fun answer => .done (next answer))
      (fun value past => fact value ∧ before past) Anything := by
  refine .request fun log answer effect valid within accepted => ?_
  have none : effect = Option.none := served_quiet quiet notLock notUnlock notFailure accepted
  subst none
  refine ⟨fun made same => by simp [diskChange, Event.of] at same, ?_⟩
  have learned := facts log answer Option.none accepted
  cases found : next answer with
  | error error => exact fun _ => trivial
  | ok value => exact fun held => ⟨learned value found, within held⟩

theorem silent_request {op : FileRequest} {next : FileAnswer op → Except Err α}
    (quiet : onDisk op = false) (notLock : op ≠ .lock) (notUnlock : op ≠ .unlock)
    (notFailure : op ≠ .powerFailure) :
    Under world agent before (.ask op fun answer => .done (next answer))
      (fun _ past => before past) Anything := by
  have request : Under world agent before (.ask op fun answer => .done (next answer))
      (fun _ past => True ∧ before past) Anything :=
    quiet_request quiet notLock notUnlock notFailure fun _ _ _ _ _ _ => trivial
  exact request.weaken (fun _ known => known) (fun _ _ known => known.2) fun _ _ known => known

theorem contextErr_under :
    Under world agent before Filing.contextErr (fun _ past => before past) Anything :=
  silent_request rfl (by simp) (by simp) (by simp)

theorem random_under :
    Under world agent before Filing.random
      (fun revision past => revision.bytes.length = 32 ∧ before past) Anything := by
  refine quiet_request rfl (by simp) (by simp) (by simp) ?_
  rintro log (error | found) effect _ value same
  · cases same
  · cases same
    exact found.2

theorem halt_under : Under world agent before (Filing.halt : Filing α) post fail := by
  intro log _ _ later _ _ answer
  exact Empty.elim answer

theorem protectorSeal_under {binding plaintext : Bytes} :
    Under world agent before (Filing.protectorSeal binding plaintext) (fun _ past => before past)
      Anything :=
  silent_request rfl (by simp) (by simp) (by simp)

theorem protectorOpen_under {binding envelope : Bytes} :
    Under world agent before (Filing.protectorOpen binding envelope)
      (fun plaintext past =>
        (world.sealed agent.1).opens binding envelope = some plaintext ∧ before past) Anything := by
  refine quiet_request rfl (by simp) (by simp) (by simp) ?_
  rintro log (error | found) effect served value same
  · cases same
  · cases same
    exact served.2

theorem lstat_under :
    Under world agent before Filing.lstat
      (fun info past => before past ∧ Volume.current past = some info.identity)
      fun error past => before past ∧ (error.is .osNotExist → Volume.current past = none) := by
  refine disk_request rfl fun past answer change _ known moved => ?_
  cases answer with
  | error error =>
      obtain ⟨rfl, absent⟩ := moved
      exact ⟨nofun, known, absent⟩
  | ok info =>
      obtain ⟨rfl, visible⟩ := moved
      exact ⟨nofun, known, visible⟩

theorem openPath_under :
    Under world agent before Filing.openPath
      (fun file past => before past ∧ Volume.current past = some file) Anything := by
  refine reading_request rfl fun past answer change moved => ?_
  cases answer with
  | error error => exact ⟨moved, nofun⟩
  | ok file => exact ⟨moved.1, fun _ same => by cases same; exact moved.2⟩

theorem validateOpenedPath_under {linked : FileInfo} {file : Nat} :
    Under world agent before (Filing.validateOpenedPath linked file)
      (fun info past => before past ∧ info.size = (Volume.contents file past).length) Anything := by
  refine reading_request rfl fun past answer change moved => ?_
  cases answer with
  | error error => exact ⟨moved, nofun⟩
  | ok info => exact ⟨moved.1, fun _ same => by cases same; exact moved.2⟩

theorem stat_under {file : Nat} :
    Under world agent before (Filing.stat file)
      (fun info past => before past ∧ info.size = (Volume.contents file past).length) Anything := by
  refine reading_request rfl fun past answer change moved => ?_
  cases answer with
  | error error => exact ⟨moved, nofun⟩
  | ok info => exact ⟨moved.1, fun _ same => by cases same; exact moved.2⟩

theorem readAll_under {file limit : Nat} :
    Under world agent before (Filing.readAll file limit)
      (fun data past => before past ∧ data = (Volume.contents file past).take limit) Anything := by
  refine reading_request rfl fun past answer change moved => ?_
  cases answer with
  | error error => exact ⟨moved, nofun⟩
  | ok data => exact ⟨moved.1, fun _ same => by cases same; exact moved.2⟩

theorem plain_request {op : FileRequest} {next : FileAnswer op → Except Err α}
    (disk : onDisk op = true)
    (unchanged : ∀ past answer change, diskServes past op answer change → change = none) :
    Under world agent before (.ask op fun answer => .done (next answer))
      (fun _ past => before past) fun _ past => before past := by
  refine disk_request disk fun past answer change _ known moved => ?_
  obtain rfl := unchanged past answer change moved
  refine ⟨nofun, ?_⟩
  cases next answer with
  | error error => exact known
  | ok value => exact known

theorem close_under {file : Nat} :
    Under world agent before (Filing.close file) (fun _ past => before past)
      fun _ past => before past :=
  plain_request rfl fun _ _ _ moved => moved

theorem remove_under {file : Nat} :
    Under world agent before (Filing.remove file) (fun _ past => before past)
      fun _ past => before past :=
  plain_request rfl fun _ _ _ moved => moved

theorem protectFile_under {file : Nat} :
    Under world agent before (Filing.protectFile file) (fun _ past => before past)
      fun _ past => before past :=
  plain_request rfl fun _ _ _ moved => moved

theorem validatePrivateSecretFile_under {file : Nat} :
    Under world agent before (Filing.validatePrivateSecretFile file) (fun _ past => before past)
      fun _ past => before past :=
  plain_request rfl fun _ _ _ moved => moved

theorem labelled_under {label : List Fragment} {step : Filing α}
    (under : Under world agent before step post fail) :
    Under world agent before (Filing.labelled label step) post Anything := by
  refine .attempt under (fun value => ?_) fun error => ?_
  · exact .pure fun _ known => known
  · exact .throw fun _ _ => trivial

theorem closing_under {file : Nat} {step : Filing α}
    (under : Under world agent before step post fail) :
    Under world agent before (Filing.closing file step) post Anything := by
  refine .attempt under (fun value => ?_) fun error => ?_
  · exact .pure fun _ known => known
  · refine .attempt close_under (fun _ => ?_) fun _ => ?_
    · exact .throw fun _ _ => trivial
    · exact .throw fun _ _ => trivial

def Sees (fact : Nat → α → History → Prop) : Option α → History → Prop
  | none, past => Volume.current past = none
  | some value, past => ∃ file, Volume.current past = some file ∧ fact file value past

theorem withOpened_under {noun : String} {body : FileInfo → Nat → Filing α}
    {fact : Nat → α → History → Prop}
    (reads : ∀ linked file, Under world agent
      (fun past => before past ∧ Volume.current past = some file) (body linked file)
      (fun value past => (before past ∧ Volume.current past = some file) ∧ fact file value past)
      Anything) :
    Under world agent before (Filing.withOpened noun body)
      (fun found past => before past ∧ Sees fact found past) Anything := by
  refine .attempt lstat_under (fun linked => ?_) fun error => ?_
  · refine .bind (labelled_under openPath_under) fun file => ?_
    have opened : Under world agent
        (fun past => (before past ∧ Volume.current past = some linked.identity) ∧
          Volume.current past = some file) (body linked file)
        (fun value past => (before past ∧ Volume.current past = some file) ∧ fact file value past)
        Anything :=
      (reads linked file).weaken (fun _ known => ⟨known.1.1, known.2⟩) (fun _ _ known => known)
        fun _ _ known => known
    refine .attempt opened (fun value => ?_) fun error => ?_
    · refine .attempt close_under (fun _ => ?_) fun _ => ?_
      · exact .pure fun past known => ⟨known.1.1, file, known.1.2, known.2⟩
      · exact .pure fun past known => ⟨known.1.1, file, known.1.2, known.2⟩
    · refine .attempt close_under (fun _ => ?_) fun _ => ?_
      · exact .throw fun _ _ => trivial
      · exact .throw fun _ _ => trivial
  · refine .ite (fun missing => ?_) fun _ => ?_
    · exact .pure fun past known => ⟨known.1, known.2 missing⟩
    · exact .throw fun _ _ => trivial

def Ready (world : FileWorld) (fact : Bytes → Prop) (data : Bytes) (past : History) : Prop :=
  fact data ∧ ∀ below, Volume.current past = some below → world.Follows (Volume.contents below past) data

def Filling (world : FileWorld) (fact : Bytes → Prop) (data : Bytes) (file : Nat)
    (written : Bytes) (past : History) : Prop :=
  ¬Installed file past ∧ Volume.contents file past = written ∧ Ready world fact data past

variable {fact : Bytes → Prop}

theorem Ready.created {data : Bytes} {past : History} {file : Nat} (ready : Ready world fact data past)
    (orderly : Orderly past) (fresh : ¬Installed file past) :
    Ready world fact data (.created file :: past) := by
  refine ⟨ready.1, fun below visible => ?_⟩
  have installed : Installed below past := Volume.installed_of_found orderly (.inl visible)
  have other : file ≠ below := by
    rintro rfl
    exact fresh installed
  simpa [Volume.contents, other] using ready.2 below visible

theorem Ready.wrote {data part : Bytes} {past : History} {file : Nat}
    (ready : Ready world fact data past) (orderly : Orderly past) (fresh : ¬Installed file past) :
    Ready world fact data (.wrote file part :: past) := by
  refine ⟨ready.1, fun below visible => ?_⟩
  have installed : Installed below past := Volume.installed_of_found orderly (.inl visible)
  have other : file ≠ below := by
    rintro rfl
    exact fresh installed
  simpa [Volume.contents, other] using ready.2 below visible

theorem createTemp_under {pattern : String} {data : Bytes} :
    Under world agent (Ready world fact data) (Filing.createTemp pattern)
      (fun file past => Filling world fact data file [] past) Anything := by
  refine disk_request rfl fun past answer change orderly ready moved => ?_
  cases answer with
  | error error =>
      have none : change = Option.none := moved
      subst none
      exact ⟨nofun, trivial⟩
  | ok file =>
      obtain ⟨rfl, _, fresh⟩ := moved
      have unused : ¬Installed file past := fresh
      refine ⟨?_, ?_, ?_, ready.created orderly unused⟩
      · intro made same
        cases same
        exact ⟨unused, nofun⟩
      · simpa [Installed] using fresh
      · simp [Volume.contents]

theorem write_under {data part written : Bytes} {file : Nat} :
    Under world agent (Filling world fact data file written) (Filing.write file part)
      (fun answer past => Filling world fact data file (written ++ part.take answer.1) past)
      Anything := by
  refine disk_request rfl fun past answer change orderly filling moved => ?_
  obtain ⟨fresh, held, ready⟩ := filling
  obtain ⟨count, failure⟩ := answer
  have same : change = some (.wrote file (part.take count)) := moved
  subst same
  refine ⟨?_, ?_, ?_, ready.wrote orderly fresh⟩
  · intro made same
    cases same
    exact ⟨fresh, nofun⟩
  · simpa [Installed] using fresh
  · simp [Volume.contents, held]

theorem writePart_under {noun : String} {data part written : Bytes} {file : Nat} :
    Under world agent (Filling world fact data file written) (Filing.writePart noun file part)
      (fun _ past => Filling world fact data file (written ++ part) past) Anything := by
  refine .bind write_under ?_
  rintro ⟨count, failure⟩
  cases failure with
  | some error => exact .throw fun _ _ => trivial
  | none =>
      refine .ite (fun _ => .throw fun _ _ => trivial) fun complete => ?_
      refine .pure fun past filling => ?_
      have whole : part.take count = part := by
        have all : count = part.length := by simpa using complete
        rw [all, List.take_length]
      rw [whole] at filling
      exact filling

theorem writeParts_under {noun : String} {data written : Bytes} {file : Nat} (parts : List Bytes) :
    Under world agent (Filling world fact data file written) (Filing.writeParts noun file parts)
      (fun _ past => Filling world fact data file (written ++ parts.flatten) past) Anything := by
  induction parts generalizing written with
  | nil =>
      refine .pure fun past filling => ?_
      simpa using filling
  | cons part rest ih =>
      refine .bind writePart_under fun _ => ?_
      have rest := @ih (written ++ part)
      simpa [List.append_assoc] using rest

def Filled (world : FileWorld) (fact : Bytes → Prop) (data : Bytes) (file : Nat) (past : History) :
    Prop :=
  Filling world fact data file data past ∧ Volume.stable file past = true

theorem syncFile_under {data : Bytes} {file : Nat} :
    Under world agent (Filling world fact data file data) (Filing.syncFile file)
      (fun _ past => Filled world fact data file past) Anything := by
  refine disk_request rfl fun past answer change _ filling moved => ?_
  cases answer with
  | error error =>
      have none : change = Option.none := moved
      subst none
      exact ⟨nofun, trivial⟩
  | ok value =>
      have same : change = some (.flushed file) := moved
      subst same
      obtain ⟨fresh, held, ready⟩ := filling
      refine ⟨?_, ⟨?_, held, ready⟩, ?_⟩
      · intro made same
        cases same
        exact ⟨trivial, nofun⟩
      · simpa [Installed] using fresh
      · simp [Volume.stable]

theorem fillTemporary_under {noun : String} {protect : Filing Unit} {data : Bytes} {file : Nat}
    {parts : List Bytes} (whole : parts.flatten = data)
    (prepared : Under world agent (Filling world fact data file []) protect
      (fun _ past => Filling world fact data file [] past) fail) :
    Under world agent (Filling world fact data file []) (Filing.fillTemporary noun protect file parts)
      (fun _ past => Filled world fact data file past) Anything := by
  refine .bind (closing_under prepared) fun _ => ?_
  refine .bind (closing_under (writeParts_under parts)) fun _ => ?_
  rw [List.nil_append, whole]
  refine .bind (closing_under (labelled_under syncFile_under)) fun _ => ?_
  exact labelled_under close_under

def Displays (fact : Bytes → Prop) (past : History) : Prop :=
  ∃ file, Volume.current past = some file ∧ fact (Volume.contents file past)

theorem installFile_under {data : Bytes} {file : Nat} (swaps : agent.2.swaps = true) :
    Under world agent (Filled world fact data file) (Filing.installFile file)
      (fun _ past => Displays fact past) Anything := by
  refine disk_request rfl fun past answer change _ filled moved => ?_
  obtain ⟨⟨_, held, ready⟩, synced⟩ := filled
  have permitted : ∀ made, some (Change.renamed file) = some made → Permitted past made ∧
      ∀ renamed, made = .renamed renamed → world.Replaces past agent.2 renamed := by
    intro made same
    cases same
    refine ⟨synced, ?_⟩
    rintro renamed ⟨⟩
    refine ⟨swaps, fun below visible => ?_⟩
    rw [held]
    exact ready.2 below visible
  cases answer with
  | error error =>
      rcases moved with rfl | rfl
      · exact ⟨nofun, trivial⟩
      · exact ⟨permitted, trivial⟩
  | ok value =>
      have same : change = some (.renamed file) := moved
      subst same
      have shown : fact (Volume.contents file past) := held ▸ ready.1
      exact ⟨permitted, file, rfl, shown⟩

def Settled (fact : Bytes → Prop) (past : History) : Prop :=
  ∃ file, Durable file past ∧ fact (Volume.contents file past)

theorem Settled.mono {first second : Bytes → Prop} {past : History} (settled : Settled first past)
    (implies : ∀ data, first data → second data) : Settled second past := by
  obtain ⟨file, durable, holds⟩ := settled
  exact ⟨file, durable, implies _ holds⟩

theorem syncParentDirectory_under :
    Under world agent (Displays fact) Filing.syncParentDirectory (fun _ past => Settled fact past)
      Anything := by
  refine disk_request rfl fun past answer change _ known moved => ?_
  have permitted : ∀ made, some Change.synced = some made → Permitted past made ∧
      ∀ renamed, made = .renamed renamed → world.Replaces past agent.2 renamed := by
    intro made same
    cases same
    exact ⟨trivial, nofun⟩
  obtain ⟨file, visible, holds⟩ := known
  cases answer with
  | error error =>
      rcases moved with rfl | rfl
      · exact ⟨nofun, trivial⟩
      · exact ⟨permitted, trivial⟩
  | ok value =>
      have same : change = some .synced := moved
      subst same
      exact ⟨permitted, file, Volume.durable_synced visible, holds⟩

theorem replaceFile_under {noun pattern : String} {data : Bytes} (swaps : agent.2.swaps = true) :
    Under world agent (Ready world fact data) (Filing.replaceFile noun pattern data)
      (fun _ past => Settled fact past) Anything := by
  have temporary : Under world agent (Ready world fact data)
      (Filing.withTemporary noun pattern fun file => do
        Filing.fillTemporary noun
          (Filing.labelled ["s3disk: protect ", noun] (Filing.protectFile file)) file [data]
        Filing.labelled ["s3disk: install ", noun] (Filing.installFile file))
      (fun _ past => Displays fact past) Anything := by
    refine .bind (labelled_under createTemp_under) fun file => ?_
    have body : Under world agent (Filling world fact data file [])
        (do Filing.fillTemporary noun
              (Filing.labelled ["s3disk: protect ", noun] (Filing.protectFile file)) file [data]
            Filing.labelled ["s3disk: install ", noun] (Filing.installFile file))
        (fun _ past => Displays fact past) Anything := by
      refine .bind (fillTemporary_under (by simp) (labelled_under protectFile_under)) fun _ => ?_
      exact labelled_under (installFile_under swaps)
    refine .attempt body (fun _ => ?_) fun error => ?_
    · exact .pure fun _ known => known
    · refine .attempt remove_under (fun _ => ?_) fun _ => ?_
      · exact .throw fun _ _ => trivial
      · exact .throw fun _ _ => trivial
  exact .bind temporary fun _ => syncParentDirectory_under

theorem settled_under {body : Filing (Option α)} {fact : α → Bytes → Prop}
    (reads : Under world agent (fun _ => True) body
      (fun found past => True ∧ Sees (fun file value past => fact value (Volume.contents file past))
        found past) Anything) :
    Under world agent (fun _ => True) (Filing.settled body)
      (fun found past => ∀ value, found = some value → Settled (fact value) past) Anything := by
  refine .bind reads fun found => ?_
  cases found with
  | none => exact .pure fun _ _ => nofun
  | some value =>
      have synced : Under world agent
          (fun past => True ∧ Sees (fun file value past => fact value (Volume.contents file past))
            (some value) past) Filing.syncParentDirectory
          (fun _ past => Settled (fact value) past) Anything :=
        syncParentDirectory_under.weaken (fun _ known => known.2) (fun _ _ known => known)
          fun _ _ known => known
      refine .bind synced fun _ => .pure fun past known => ?_
      rintro _ ⟨⟩
      exact known

end

end S3Disk.LocalState
