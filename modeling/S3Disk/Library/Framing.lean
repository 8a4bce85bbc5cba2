import Mathlib.Data.List.Basic

/-! Encodings that end where their value ends, whatever stands behind them. Concatenations of
such encodings can be taken apart again, with the number of the parts in front or without. -/

namespace Framing

variable {α β : Type}

/-- On valid values the encoding and what follows it are known from the two together. -/
def Delimited (valid : α → Prop) (encode : α → List β) : Prop :=
  ∀ left right more rest, valid left → valid right →
    encode left ++ more = encode right ++ rest → left = right ∧ more = rest

variable {valid : α → Prop} {encode : α → List β}

theorem delimited_of_length {length : Nat} (sized : ∀ value, valid value →
    (encode value).length = length)
    (injective : ∀ left right, valid left → valid right → encode left = encode right →
      left = right) : Delimited valid encode := by
  intro left right more rest first second same
  have equal : (encode left).length = (encode right).length := by
    rw [sized left first, sized right second]
  obtain ⟨encoded, behind⟩ := List.append_inj same equal
  exact ⟨injective left right first second encoded, behind⟩

theorem delimited_framed {fits : Nat → Prop} {number : Nat → List β}
    (delimited : Delimited fits number) :
    Delimited (fun text : List β => fits text.length)
      (fun text => number text.length ++ text) := by
  intro left right more rest first second same
  simp only [List.append_assoc] at same
  obtain ⟨equal, behind⟩ := delimited _ _ _ _ first second same
  exact List.append_inj behind equal

theorem Delimited.many (delimited : Delimited valid encode) {left right : List α}
    {more rest : List β} (count : left.length = right.length) (first : ∀ value ∈ left, valid value)
    (second : ∀ value ∈ right, valid value)
    (same : left.flatMap encode ++ more = right.flatMap encode ++ rest) :
    left = right ∧ more = rest := by
  induction left generalizing right with
  | nil =>
      rw [List.length_nil] at count
      rw [List.eq_nil_of_length_eq_zero count.symm] at same ⊢
      exact ⟨rfl, same⟩
  | cons head tail ih =>
      cases right with
      | nil => simp at count
      | cons other others =>
          simp only [List.flatMap_cons, List.append_assoc] at same
          obtain ⟨equal, behind⟩ := delimited _ _ _ _ (first head (by simp))
            (second other (by simp)) same
          obtain ⟨tails, ended⟩ := ih (Nat.succ.inj count)
            (fun value member => first value (by simp [member]))
            (fun value member => second value (by simp [member])) behind
          exact ⟨by rw [equal, tails], ended⟩

theorem Delimited.all (delimited : Delimited valid encode) (visible : ∀ value, encode value ≠ [])
    {left right : List α} (first : ∀ value ∈ left, valid value)
    (second : ∀ value ∈ right, valid value)
    (same : left.flatMap encode = right.flatMap encode) : left = right := by
  induction left generalizing right with
  | nil =>
      cases right with
      | nil => rfl
      | cons other others =>
          rw [List.flatMap_nil, List.flatMap_cons] at same
          exact absurd (List.append_eq_nil_iff.mp same.symm).1 (visible other)
  | cons head tail ih =>
      cases right with
      | nil =>
          rw [List.flatMap_nil, List.flatMap_cons] at same
          exact absurd (List.append_eq_nil_iff.mp same).1 (visible head)
      | cons other others =>
          simp only [List.flatMap_cons] at same
          obtain ⟨equal, behind⟩ := delimited _ _ _ _ (first head (by simp))
            (second other (by simp)) same
          rw [equal, ih (fun value member => first value (by simp [member]))
            (fun value member => second value (by simp [member])) behind]

end Framing
