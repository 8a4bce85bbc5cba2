import S3Disk.Library.Calls
import S3Disk.Share.Services

/-! The stores that sharing processes have in common: objects with conditional writes,
and sealed states that are swapped under their revision. What they hold is read off the
log of events. A write may be applied and still report an error. -/

namespace S3Disk.Share

open Concurrent

inductive ShareEffect where
  | stored (key : Bytes) (object : Object)
  | sealed (slot : StateSlot) (data : Bytes) (revision : Digest)
  deriving DecidableEq, Repr

abbrev ShareEvent (Call : Type) := Event ShareRequest ShareAnswer Call ShareEffect

abbrev ShareLog (Call : Type) := List (ShareEvent Call)

def sealedState (slot : StateSlot) : Option ShareEffect → Option (Bytes × Digest)
  | some (.sealed target data revision) => if target = slot then some (data, revision) else none
  | _ => none

section

variable {Call : Type} {log later : ShareLog Call} {slot : StateSlot}

def sealings (log : ShareLog Call) (slot : StateSlot) : List (Bytes × Digest) :=
  log.filterMap fun event => sealedState slot event.effect

def SealedAt (log : ShareLog Call) (slot : StateSlot) : Option Digest → Prop
  | none => sealings log slot = []
  | some expected => ∃ data, (sealings log slot).head? = some (data, expected)

/-- A swap is refused, or is applied because its condition holds, under a revision that no
other state of the slot has. -/
def SealedSwaps (log : ShareLog Call) (slot : StateSlot) (expected : Option Digest)
    (data : Bytes) (answer : Digest × Option Err) (effect : Option ShareEffect) : Prop :=
  (effect = none ∧ answer.2 ≠ none) ∨
  ∃ revision, effect = some (.sealed slot data revision) ∧ SealedAt log slot expected ∧
    (∀ state ∈ sealings log slot, state.2 = revision → state.1 = data) ∧
    (answer.2 = none → answer.1 = revision)

theorem sealedState_some {effect : Option ShareEffect} {data : Bytes} {revision : Digest} :
    sealedState slot effect = some (data, revision) ↔
      effect = some (.sealed slot data revision) := by
  cases effect with
  | none => simp [sealedState]
  | some found =>
      cases found with
      | stored key object => simp [sealedState]
      | sealed target bytes stamp =>
          by_cases same : target = slot
          · simp [sealedState, same]
          · simp [sealedState, same]

theorem sealings_cons (event : ShareEvent Call) (log : ShareLog Call) :
    sealings (event :: log) slot = (sealedState slot event.effect).toList ++ sealings log slot := by
  unfold sealings
  cases found : sealedState slot event.effect with
  | none => simp [found]
  | some state => simp [found]

theorem sealings_mono (grown : log <:+ later) : sealings log slot <:+ sealings later slot :=
  grown.filterMap _

theorem mem_sealings_mono (grown : log <:+ later) {state : Bytes × Digest}
    (member : state ∈ sealings log slot) : state ∈ sealings later slot :=
  (sealings_mono grown).subset member

theorem head_sealings {event : ShareEvent Call} {data : Bytes} {revision : Digest}
    (effect : event.effect = some (.sealed slot data revision)) :
    (sealings (event :: log) slot).head? = some (data, revision) := by
  simp [sealings_cons, sealedState_some.mpr effect]

theorem data_eq_of_revision {law : Law ShareRequest ShareAnswer Call ShareEffect}
    (swaps : ∀ log (event : ShareEvent Call) data revision, law.serves log event →
      event.effect = some (.sealed slot data revision) →
      ∀ state ∈ sealings log slot, state.2 = revision → state.1 = data)
    (valid : Valid law log) {left right : Bytes} {revision : Digest}
    (leftMember : (left, revision) ∈ sealings log slot)
    (rightMember : (right, revision) ∈ sealings log slot) : left = right := by
  induction log with
  | nil => simp [sealings] at leftMember
  | cons event older ih =>
      have olderValid := valid.suffix (List.suffix_cons _ _)
      rw [sealings_cons] at leftMember rightMember
      cases found : sealedState slot event.effect with
      | none =>
          rw [found] at leftMember rightMember
          exact ih olderValid (by simpa using leftMember) (by simpa using rightMember)
      | some newest =>
          obtain ⟨data, stamp⟩ := newest
          have same := swaps older event data stamp (valid.served (List.suffix_refl _))
            (sealedState_some.mp found)
          rw [found] at leftMember rightMember
          simp only [Option.toList_some, List.cons_append, List.nil_append, List.mem_cons,
            Prod.mk.injEq] at leftMember rightMember
          rcases leftMember with ⟨rfl, rfl⟩ | leftOlder
          · rcases rightMember with ⟨rfl, _⟩ | rightOlder
            · rfl
            · exact (same _ rightOlder rfl).symm
          · rcases rightMember with ⟨rfl, rfl⟩ | rightOlder
            · exact same _ leftOlder rfl
            · exact ih olderValid leftOlder rightOlder

end

end S3Disk.Share
