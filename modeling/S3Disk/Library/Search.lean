import Mathlib.Data.Nat.Basic

/-! Binary search for the first index that passes a test, over tests that keep
passing once they pass. -/

namespace Search

def searchBetween (test : Nat → Bool) : Nat → Nat → Nat → Nat
  | 0, low, _ => low
  | rounds + 1, low, high =>
      if low < high then
        let middle := (low + high) / 2
        if test middle then searchBetween test rounds low middle
        else searchBetween test rounds (middle + 1) high
      else low

def search (count : Nat) (test : Nat → Bool) : Nat := searchBetween test count 0 count

def Monotone (count : Nat) (test : Nat → Bool) : Prop :=
  ∀ left right, left ≤ right → right < count → test left = true → test right = true

structure IsFirst (count : Nat) (test : Nat → Bool) (index : Nat) : Prop where
  bound : index ≤ count
  below : ∀ earlier, earlier < index → test earlier = false
  passes : index < count → test index = true

theorem searchBetween_isFirst {count : Nat} {test : Nat → Bool} (monotone : Monotone count test) :
    ∀ rounds low high, high ≤ low + rounds → low ≤ high → high ≤ count →
      (∀ earlier, earlier < low → test earlier = false) →
      (high < count → test high = true) →
      IsFirst count test (searchBetween test rounds low high) := by
  intro rounds
  induction rounds with
  | zero =>
      intro low high few ordered inside below passes
      have same : high = low := by omega
      subst same
      exact ⟨inside, below, passes⟩
  | succ rounds ih =>
      intro low high few ordered inside below passes
      simp only [searchBetween]
      by_cases more : low < high
      · simp only [more, if_true]
        by_cases middle : test ((low + high) / 2) = true
        · simp only [middle, if_true]
          exact ih low _ (by omega) (by omega) (by omega) below fun _ => middle
        · simp only [middle, Bool.false_eq_true, if_false]
          refine ih _ high (by omega) (by omega) inside ?_ passes
          intro earlier small
          by_contra passed
          have held : test earlier = true := by simpa using passed
          exact middle (monotone earlier _ (by omega) (by omega) held)
      · simp only [more, if_false]
        have same : high = low := by omega
        subst same
        exact ⟨inside, below, passes⟩

theorem search_isFirst {count : Nat} {test : Nat → Bool} (monotone : Monotone count test) :
    IsFirst count test (search count test) :=
  searchBetween_isFirst monotone count 0 count (by omega) (by omega) le_rfl (by omega) (by omega)

end Search
