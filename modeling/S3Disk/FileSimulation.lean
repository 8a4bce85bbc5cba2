import S3Disk.FileWorld
import S3Disk.Library.Script

/-! A file system that never fails on its own: it answers the holder of the lock from what
is on the volume, and loses power only when it is told to. -/

namespace S3Disk.LocalState

open Concurrent
open Volume (History)

def fileInfo (past : History) (file : Nat) : FileInfo where
  identity := file
  type := .regular
  perm := 0o600
  flags := 0
  size := (Volume.contents file past).length
  modTime := 0

def healthy (past : History) : (op : FileRequest) → Option (FileAnswer op)
  | .contextErr => some none
  | .lock => some (.ok ())
  | .unlock => some none
  | .lstat => some (match Volume.current past with
      | some file => .ok (fileInfo past file)
      | none => .error Sentinel.osNotExist.error)
  | .openPath => (Volume.current past).map .ok
  | .validateOpened _ file => some (.ok (fileInfo past file))
  | .validateSecret _ => some (.ok ())
  | .stat file => some (.ok (fileInfo past file))
  | .readAll file limit => some (.ok ((Volume.contents file past).take limit))
  | .close _ => some (.ok ())
  | .protect _ => some (.ok ())
  | .remove _ => some (.ok ())
  | .syncDirectory => some (.ok ())
  | _ => none

namespace Simulation

def whileHeld {α : Type} (log : FileLog) (client : Nat) (answer : α) : Option α :=
  if holder log = some client then some answer else none

def freshRevision (log : FileLog) : { revision : Digest // revision.bytes.length = 32 } :=
  ⟨⟨List.replicate 31 0 ++ [UInt8.ofNat (log.length % 255 + 1)]⟩, by simp⟩

def freshFile (past : History) : Nat := past.length

def respond (world : FileWorld) (log : FileLog) (agent : Nat × FileCall) :
    (op : FileRequest) → Option (FileAnswer op × Option FileEffect)
  | .contextErr => some (none, none)
  | .lock => some (.ok (), some .granted)
  | .unlock => whileHeld log agent.1 (none, some .released)
  | .random => some (.ok (freshRevision log), none)
  | .sealEnvelope _ plaintext => some (.ok (0 :: plaintext), none)
  | .openEnvelope binding envelope =>
      ((world.sealed agent.1).opens binding envelope).map fun plaintext => (.ok plaintext, none)
  | .powerFailure =>
      let survivor := (Volume.survivors (history log)).getLastD none
      if (Volume.survivors (history log)).contains survivor then
        some (.ok (), some (.disk (.failed survivor [])))
      else none
  | .createTemp _ =>
      let file := freshFile (history log)
      if (history log).contains (.created file) = false ∧
          (history log).contains (.renamed file) = false then
        whileHeld log agent.1 (.ok file, some (.disk (.created file)))
      else none
  | .write file data =>
      whileHeld log agent.1 ((data.length, none), some (.disk (.wrote file data)))
  | .syncFile file => whileHeld log agent.1 (.ok (), some (.disk (.flushed file)))
  | .install file => whileHeld log agent.1 (.ok (), some (.disk (.renamed file)))
  | .syncDirectory => whileHeld log agent.1 (.ok (), some (.disk .synced))
  | .lstat => (healthy (history log) .lstat).bind fun answer => whileHeld log agent.1 (answer, none)
  | .openPath =>
      (healthy (history log) .openPath).bind fun answer => whileHeld log agent.1 (answer, none)
  | .validateOpened linked file => (healthy (history log) (.validateOpened linked file)).bind
      fun answer => whileHeld log agent.1 (answer, none)
  | .validateSecret file => (healthy (history log) (.validateSecret file)).bind
      fun answer => whileHeld log agent.1 (answer, none)
  | .stat file =>
      (healthy (history log) (.stat file)).bind fun answer => whileHeld log agent.1 (answer, none)
  | .readAll file limit => (healthy (history log) (.readAll file limit)).bind
      fun answer => whileHeld log agent.1 (answer, none)
  | .close file =>
      (healthy (history log) (.close file)).bind fun answer => whileHeld log agent.1 (answer, none)
  | .protect file =>
      (healthy (history log) (.protect file)).bind fun answer => whileHeld log agent.1 (answer, none)
  | .remove file =>
      (healthy (history log) (.remove file)).bind fun answer => whileHeld log agent.1 (answer, none)
  | .halt => none

theorem held_of_whileHeld {α : Type} {log : FileLog} {client : Nat} {answer found : α}
    (answered : whileHeld log client answer = some found) :
    holder log = some client ∧ answer = found := by
  unfold whileHeld at answered
  split at answered
  · rename_i held
    exact ⟨held, Option.some.inj answered⟩
  · cases answered

theorem served_of_healthy {world : FileWorld} {log : FileLog} {client : Nat} {op : FileRequest}
    {answer : FileAnswer op} {effect : Option FileEffect} (disk : onDisk op = true)
    (reads : ∀ answer, healthy (history log) op = some answer →
      diskServes (history log) op answer none)
    (responded : ((healthy (history log) op).bind fun answer =>
      whileHeld log client (answer, (none : Option FileEffect))) = some (answer, effect)) :
    world.served log client op answer effect := by
  obtain ⟨found, answered, held⟩ := Option.bind_eq_some_iff.mp responded
  obtain ⟨holds, same⟩ := held_of_whileHeld held
  cases same
  exact (served_onDisk disk).mpr ⟨holds, none, rfl, reads _ answered⟩

theorem respond_served (world : FileWorld) (log : FileLog) (agent : Nat × FileCall)
    (op : FileRequest) (answer : FileAnswer op) (effect : Option FileEffect)
    (found : respond world log agent op = some (answer, effect)) :
    world.served log agent.1 op answer effect := by
  cases op with
  | contextErr => cases found; simp [FileWorld.served, onDisk]
  | lock => cases found; rfl
  | unlock =>
      obtain ⟨held, same⟩ := held_of_whileHeld found
      cases same
      exact ⟨held, .inl rfl⟩
  | random => cases found; simp [FileWorld.served, onDisk]
  | sealEnvelope binding plaintext => cases found; simp [FileWorld.served, onDisk]
  | openEnvelope binding envelope =>
      obtain ⟨plaintext, opened, same⟩ := Option.map_eq_some_iff.mp found
      cases same
      exact ⟨rfl, opened⟩
  | powerFailure =>
      simp only [respond] at found
      split at found
      · rename_i possible
        cases found
        exact ⟨_, _, rfl, by simpa using possible⟩
      · cases found
  | createTemp pattern =>
      simp only [respond] at found
      split at found
      · rename_i fresh
        obtain ⟨held, same⟩ := held_of_whileHeld found
        cases same
        simp only [FileWorld.served, onDisk, if_true]
        refine ⟨held, some (.created _), rfl, rfl, ?_, ?_⟩
        · simpa using fresh.1
        · simpa using fresh.2
      · cases found
  | write file data =>
      obtain ⟨held, same⟩ := held_of_whileHeld found
      cases same
      simp only [FileWorld.served, onDisk, if_true]
      exact ⟨held, some (.wrote file data), rfl, by simp [diskServes]⟩
  | syncFile file =>
      obtain ⟨held, same⟩ := held_of_whileHeld found
      cases same
      simp only [FileWorld.served, onDisk, if_true]
      exact ⟨held, some (.flushed file), rfl, rfl⟩
  | install file =>
      obtain ⟨held, same⟩ := held_of_whileHeld found
      cases same
      simp only [FileWorld.served, onDisk, if_true]
      exact ⟨held, some (.renamed file), rfl, rfl⟩
  | syncDirectory =>
      obtain ⟨held, same⟩ := held_of_whileHeld found
      cases same
      simp only [FileWorld.served, onDisk, if_true]
      exact ⟨held, some .synced, rfl, rfl⟩
  | lstat =>
      refine served_of_healthy rfl ?_ found
      intro answer same
      cases same
      cases visible : Volume.current (history log) with
      | none => exact ⟨rfl, fun _ => visible⟩
      | some file => exact ⟨rfl, visible⟩
  | openPath =>
      refine served_of_healthy rfl ?_ found
      intro answer same
      obtain ⟨file, visible, rfl⟩ := Option.map_eq_some_iff.mp same
      exact ⟨rfl, visible⟩
  | validateOpened linked file =>
      exact served_of_healthy rfl (by rintro answer ⟨⟩; exact ⟨rfl, rfl⟩) found
  | validateSecret file => exact served_of_healthy rfl (by rintro answer ⟨⟩; rfl) found
  | stat file => exact served_of_healthy rfl (by rintro answer ⟨⟩; exact ⟨rfl, rfl⟩) found
  | readAll file limit => exact served_of_healthy rfl (by rintro answer ⟨⟩; exact ⟨rfl, rfl⟩) found
  | close file => exact served_of_healthy rfl (by rintro answer ⟨⟩; rfl) found
  | protect file => exact served_of_healthy rfl (by rintro answer ⟨⟩; rfl) found
  | remove file => exact served_of_healthy rfl (by rintro answer ⟨⟩; rfl) found
  | halt => cases found

def environment (world : FileWorld) : Environment world.machine where
  respond := respond world
  served log agent op answer effect found := respond_served world log agent op answer effect found

instance (world : FileWorld) (client : Nat) (memory : Unit) (call : FileCall) :
    Decidable (world.machine.allowed client memory call) :=
  match call with
  | .loadWatermark _ | .swapWatermark _ _ _ => inferInstanceAs (Decidable (world.kind = .watermark))
  | .loadJournal _ | .swapJournal _ _ _ => inferInstanceAs (Decidable (world.kind = .journal))
  | .loadSealed | .swapSealed _ _ => inferInstanceAs (Decidable (world.kind = .sealedState))
  | .powerFailure => inferInstanceAs (Decidable True)

end Simulation

end S3Disk.LocalState
