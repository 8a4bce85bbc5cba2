import S3Disk.Library.Program

/-! When a sequence of checks succeeds. -/

namespace Concurrent

variable {ε ε' α β : Type}

theorem bind_ok {first : Except ε α} {next : α → Except ε β} {result : β} :
    (first >>= next) = .ok result ↔ ∃ value, first = .ok value ∧ next value = .ok result := by
  cases first with
  | error error => simp [bind, Except.bind]
  | ok value => simp [bind, Except.bind]

theorem mapError_ok {first : Except ε α} {change : ε → ε'} {result : α} :
    first.mapError change = .ok result ↔ first = .ok result := by
  cases first with
  | error error => exact ⟨nofun, nofun⟩
  | ok value =>
      constructor
      · rintro ⟨⟩
        rfl
      · rintro ⟨⟩
        rfl

theorem mapError_error {first : Except ε α} {change : ε → ε'} {error : ε'} :
    first.mapError change = .error error ↔ ∃ cause, first = .error cause ∧ change cause = error := by
  cases first with
  | error cause =>
      constructor
      · rintro ⟨⟩
        exact ⟨cause, rfl, rfl⟩
      · rintro ⟨_, ⟨⟩, rfl⟩
        rfl
  | ok value => exact ⟨nofun, nofun⟩

theorem failIf_ok {condition : Prop} [Decidable condition] {error : ε} {result : Unit} :
    (failIf condition error : Except ε Unit) = .ok result ↔ ¬condition := by
  by_cases holds : condition
  · simp [failIf, holds, throw, throwThe, MonadExceptOf.throw]
  · simp [failIf, holds, pure, Except.pure]

theorem forM_ok {value : Option α} {check : α → Except ε PUnit} {result : PUnit} :
    value.forM check = .ok result ↔ ∀ found ∈ value, check found = .ok PUnit.unit := by
  cases value with
  | none => simp [Option.forM, pure, Except.pure]
  | some found => simp [Option.forM]

theorem forM_error {ε α : Type} {option : Option α} {check : α → Except ε Unit} {error : ε}
    (failed : option.forM check = .error error) :
    ∃ value, option = some value ∧ check value = .error error := by
  cases option with
  | none => cases failed
  | some value => exact ⟨value, rfl, failed⟩

namespace Fallible

variable {Op : Type} {Answer : Op → Type} {answers : ∀ op, Option (Answer op)}

theorem answered_bind_ok {first : Fallible Op Answer ε α} {next : α → Fallible Op Answer ε β}
    {result : β} : (first >>= next : Fallible Op Answer ε β).answered answers = some (.ok result) ↔
      ∃ value, first.answered answers = some (.ok value) ∧
        (next value).answered answers = some (.ok result) := by
  have steps := Program.answered_bind answers first (andThen next)
  have same : (first >>= next : Fallible Op Answer ε β).answered answers = _ := steps
  rw [same]
  unfold answered
  cases Program.answered answers first with
  | none => simp
  | some outcome =>
      cases outcome with
      | error error => simp [andThen]
      | ok value => simp [andThen]

theorem answered_pure_ok {value result : α} :
    (pure value : Fallible Op Answer ε α).answered answers = some (.ok result) ↔ value = result := by
  constructor
  · intro same
    cases same
    rfl
  · rintro rfl
    rfl

theorem answered_failIf_ok {condition : Prop} [Decidable condition] {error : ε} {result : Unit} :
    (failIf condition error : Fallible Op Answer ε Unit).answered answers = some (.ok result) ↔
      ¬condition := by
  unfold failIf
  split
  case isTrue holds =>
    constructor
    · intro impossible
      cases impossible
    · intro fails
      exact absurd holds fails
  case isFalse fails => exact ⟨fun _ => fails, fun _ => rfl⟩

end Fallible

end Concurrent
