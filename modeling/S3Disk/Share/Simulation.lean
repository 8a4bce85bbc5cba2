import S3Disk.ConcreteWire
import S3Disk.Library.Script
import S3Disk.Share.World

/-! Stores to run sharing processes against: every write whose condition holds is applied,
under a revision that was never used. -/

namespace S3Disk.Share.Simulation

open Concurrent

variable {Call : Type}

def sealedAt (log : ShareLog Call) (slot : StateSlot) (expected : Option Digest) : Bool :=
  (sealings log slot).head?.map (·.2) == expected

theorem sealedAt_sound {log : ShareLog Call} {slot : StateSlot} {expected : Option Digest}
    (holds : sealedAt log slot expected = true) : SealedAt log slot expected := by
  simp only [sealedAt, beq_iff_eq] at holds
  cases expected with
  | none => simpa [SealedAt] using holds
  | some revision =>
      obtain ⟨⟨data, stamp⟩, head, rfl⟩ := Option.map_eq_some_iff.mp holds
      exact ⟨data, head⟩

def swap (log : ShareLog Call) (slot : StateSlot) (expected : Option Digest) (data : Bytes) :
    (Digest × Option Err) × Option ShareEffect :=
  if sealedAt log slot expected then
    let revision : Digest := ⟨freshBytes ((sealings log slot).map (·.2.bytes))⟩
    ((revision, none), some (.sealed slot data revision))
  else ((.zero, some Sentinel.precondition.error), none)

theorem swap_served (log : ShareLog Call) (slot : StateSlot) (expected : Option Digest)
    (data : Bytes) : SealedSwaps log slot expected data (swap log slot expected data).1
      (swap log slot expected data).2 := by
  unfold swap
  split
  · rename_i holds
    refine .inr ⟨_, rfl, sealedAt_sound holds, ?_, fun _ => rfl⟩
    intro state member same
    have used : state.2.bytes ∈ (sealings log slot).map (·.2.bytes) := List.mem_map_of_mem member
    have shorter := length_lt_freshBytes used
    rw [same] at shorter
    exact absurd shorter (Nat.lt_irrefl _)
  · exact .inl ⟨rfl, by simp⟩

end S3Disk.Share.Simulation
