import Mathlib.Logic.Relation
import S3Disk.Library.Interference

/-! Histories that follow one line of descent: the first value is a root, and each
later value repeats the value before it or is a child of it. When every child has
one parent, the ancestors of a value of such a history are values of the history,
and no two of its values have the same rank. -/

namespace Lineage

open Concurrent Relation

variable {α : Type}

def Grows (parent : α → α → Prop) (root : α → Prop) : List α → α → Prop
  | [], value => root value
  | previous :: _, value => value = previous ∨ parent value previous

structure Tree (parent : α → α → Prop) (root : α → Prop) (rank : α → Nat) : Prop where
  unique : ∀ child first second, parent child first → parent child second → first = second
  rootless : ∀ value ancestor, root value → ¬parent value ancestor
  ranked : ∀ child ancestor, parent child ancestor → rank child = rank ancestor + 1

variable {parent : α → α → Prop} {root : α → Prop} {rank : α → Nat}

theorem Grows.mono {parent' : α → α → Prop} {root' : α → Prop}
    (parents : ∀ child ancestor, parent child ancestor → parent' child ancestor)
    (roots : ∀ value, root value → root' value) {older : List α} {value : α}
    (grows : Grows parent root older value) : Grows parent' root' older value := by
  cases older with
  | nil => exact roots value grows
  | cons previous rest =>
      rcases grows with same | descends
      · exact .inl same
      · exact .inr (parents value previous descends)

theorem mem_of_parent (tree : Tree parent root rank) {values : List α}
    (linear : Each (Grows parent root) values) {child ancestor : α} (member : child ∈ values)
    (step : parent child ancestor) : ancestor ∈ values := by
  induction values with
  | nil => simp at member
  | cons newest older ih =>
      rcases List.mem_cons.mp member with rfl | earlier
      · cases older with
        | nil => exact absurd step (tree.rootless child ancestor linear.1)
        | cons previous rest =>
            rcases linear.1 with same | descends
            · exact List.mem_cons_of_mem _ (ih linear.2 (by simp [same]))
            · simp [tree.unique child ancestor previous step descends]
      · exact List.mem_cons_of_mem _ (ih linear.2 earlier)

theorem mem_of_reaches (tree : Tree parent root rank) {values : List α}
    (linear : Each (Grows parent root) values) {value ancestor : α} (member : value ∈ values)
    (reaches : ReflTransGen parent value ancestor) : ancestor ∈ values := by
  induction reaches with
  | refl => exact member
  | tail _ step ih => exact mem_of_parent tree linear ih step

theorem newest_reaches {newest : α} {older : List α}
    (linear : Each (Grows parent root) (newest :: older)) {value : α}
    (member : value ∈ newest :: older) : ReflTransGen parent newest value := by
  induction older generalizing newest with
  | nil =>
      have same : value = newest := by simpa using member
      exact same ▸ .refl
  | cons previous rest ih =>
      rcases List.mem_cons.mp member with rfl | earlier
      · exact .refl
      · rcases linear.1 with same | descends
        · exact same ▸ ih linear.2 earlier
        · exact .head descends (ih linear.2 earlier)

theorem rank_le_of_reaches (tree : Tree parent root rank) {value ancestor : α}
    (reaches : ReflTransGen parent value ancestor) : rank ancestor ≤ rank value := by
  induction reaches with
  | refl => exact Nat.le_refl _
  | tail _ step ih =>
      have ranked := tree.ranked _ _ step
      omega

theorem eq_of_rank_eq (tree : Tree parent root rank) {values : List α}
    (linear : Each (Grows parent root) values) {left right : α} (leftMember : left ∈ values)
    (rightMember : right ∈ values) (sameRank : rank left = rank right) : left = right := by
  induction values generalizing left right with
  | nil => simp at leftMember
  | cons newest older ih =>
      -- A value above the rest of the history has a higher rank than all of it.
      have above : ∀ value ∈ older, rank value = rank newest → value = newest := by
        intro value member equal
        cases older with
        | nil => simp at member
        | cons previous rest =>
            rcases linear.1 with same | descends
            · rw [same]
              exact ih linear.2 member (by simp) (by rw [equal, same])
            · have below := rank_le_of_reaches tree (newest_reaches linear.2 member)
              have ranked := tree.ranked _ _ descends
              omega
      rcases List.mem_cons.mp leftMember with rfl | leftOlder
      · rcases List.mem_cons.mp rightMember with rfl | rightOlder
        · rfl
        · exact (above right rightOlder sameRank.symm).symm
      · rcases List.mem_cons.mp rightMember with rfl | rightOlder
        · exact above left leftOlder sameRank
        · exact ih linear.2 leftOlder rightOlder sameRank

end Lineage
