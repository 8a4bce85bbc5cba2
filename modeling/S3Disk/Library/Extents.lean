import Mathlib.Data.List.Basic
import Mathlib.Data.List.TakeDrop
import Mathlib.Data.List.Pairwise
import S3Disk.Library.Search

/-! Sequences cut into pieces that lie one behind the other: where a piece begins, which
piece a position lies in, and the part of the sequence between two positions. -/

namespace Extents

variable {Piece Value : Type} {offset size : Piece → Int} {content : Piece → List Value}
  {pieces first second : List Piece} {piece : Piece} {start stop low high : Int}

def Laid (offset size : Piece → Int) : Int → List Piece → Int → Prop
  | start, [], stop => start = stop
  | start, piece :: rest, stop =>
      offset piece = start ∧ 0 < size piece ∧ Laid offset size (start + size piece) rest stop

theorem Laid.le (laid : Laid offset size start pieces stop) : start ≤ stop := by
  induction pieces generalizing start with
  | nil => exact Int.le_of_eq laid
  | cons piece rest ih =>
      obtain ⟨-, positive, tail⟩ := laid
      have later := ih tail
      omega

theorem Laid.bounds (laid : Laid offset size start pieces stop) (member : piece ∈ pieces) :
    start ≤ offset piece ∧ 0 < size piece ∧ offset piece + size piece ≤ stop := by
  induction pieces generalizing start with
  | nil => cases member
  | cons head rest ih =>
      obtain ⟨here, positive, tail⟩ := laid
      rcases List.mem_cons.mp member with rfl | inside
      · have room := tail.le
        omega
      · obtain ⟨after, rest⟩ := ih tail inside
        exact ⟨by omega, rest⟩

theorem Laid.append_iff : Laid offset size start (first ++ second) stop ↔
    ∃ middle, Laid offset size start first middle ∧ Laid offset size middle second stop := by
  induction first generalizing start with
  | nil => simp [Laid]
  | cons piece rest ih =>
      simp only [List.cons_append, Laid, ih]
      constructor
      · rintro ⟨here, positive, middle, left, right⟩
        exact ⟨middle, ⟨here, positive, left⟩, right⟩
      · rintro ⟨middle, ⟨here, positive, left⟩, right⟩
        exact ⟨here, positive, middle, left, right⟩

theorem Laid.length_flatMap (laid : Laid offset size start pieces stop)
    (sized : ∀ piece ∈ pieces, ((content piece).length : Int) = size piece) :
    ((pieces.flatMap content).length : Int) = stop - start := by
  induction pieces generalizing start with
  | nil =>
      have same : start = stop := laid
      simp [same]
  | cons piece rest ih =>
      obtain ⟨-, -, tail⟩ := laid
      have behind := ih tail fun other member => sized other (by simp [member])
      have here := sized piece (by simp)
      rw [List.flatMap_cons, List.length_append]
      push_cast
      omega

theorem Laid.pairwise (laid : Laid offset size start pieces stop) :
    pieces.Pairwise fun left right => offset left + size left ≤ offset right + size right := by
  induction pieces generalizing start with
  | nil => exact .nil
  | cons piece rest ih =>
      obtain ⟨here, positive, tail⟩ := laid
      refine .cons ?_ (ih tail)
      intro other member
      obtain ⟨after, sized, -⟩ := tail.bounds member
      omega

def passes (offset size : Piece → Int) (pieces : List Piece) (position : Int) (index : Nat) :
    Bool :=
  pieces[index]?.any fun piece => position < offset piece + size piece

theorem Laid.monotone (laid : Laid offset size start pieces stop) (position : Int) :
    Search.Monotone pieces.length (passes offset size pieces position) := by
  intro left right ordered inside passed
  rcases Nat.eq_or_lt_of_le ordered with rfl | before
  · exact passed
  · have sorted := List.pairwise_iff_getElem.mp laid.pairwise left right (by omega) inside before
    simp only [passes, List.getElem?_eq_getElem inside, Option.any_some, decide_eq_true_eq]
    have here : left < pieces.length := by omega
    simp only [passes, List.getElem?_eq_getElem here, Option.any_some, decide_eq_true_eq] at passed
    omega

theorem Laid.stop_le (laid : Laid offset size start pieces stop) (before : start ≤ low)
    (short : ∀ piece ∈ pieces, offset piece + size piece ≤ low) : stop ≤ low := by
  induction pieces generalizing start with
  | nil =>
      have same : start = stop := laid
      omega
  | cons piece rest ih =>
      obtain ⟨here, -, tail⟩ := laid
      have ends := short piece (by simp)
      exact ih tail (by omega) fun other member => short other (by simp [member])

theorem Laid.drop_first {index : Nat} (laid : Laid offset size start pieces stop)
    (before : start ≤ low)
    (found : Search.IsFirst pieces.length (passes offset size pieces low) index) :
    ∃ middle, Laid offset size start (pieces.take index) middle ∧
      Laid offset size middle (pieces.drop index) stop ∧ middle ≤ low ∧
      ∀ piece ∈ (pieces.drop index).head?, low < middle + size piece := by
  have cut : Laid offset size start (pieces.take index ++ pieces.drop index) stop := by
    rwa [List.take_append_drop]
  obtain ⟨middle, left, right⟩ := Laid.append_iff.mp cut
  refine ⟨middle, left, right, ?_, ?_⟩
  · refine left.stop_le before ?_
    intro piece member
    obtain ⟨earlier, inside, rfl⟩ := List.mem_take_iff_getElem.mp member
    have fails := found.below earlier (by omega)
    have bound : earlier < pieces.length := by omega
    simpa [passes, List.getElem?_eq_getElem bound] using fails
  · intro piece head
    rw [List.head?_drop] at head
    have bound : index < pieces.length := (List.getElem?_eq_some_iff.mp head).1
    have passed := found.passes bound
    rw [passes, show pieces[index]? = some piece from head] at passed
    have here : offset piece = middle := by
      rw [List.drop_eq_getElem_cons bound] at right
      have same : pieces[index] = piece := Option.some.inj
        ((List.getElem?_eq_getElem bound).symm.trans head)
      rw [same] at right
      exact right.1
    simpa [here] using passed

def range (content : Piece → List Value) (start low high : Int) (pieces : List Piece) :
    List Value :=
  ((pieces.flatMap content).drop (low - start).toNat).take (high - low).toNat

theorem range_empty (empty : high ≤ low) : range content start low high pieces = [] := by
  have none : (high - low).toNat = 0 := by omega
  rw [range, none, List.take_zero]

theorem range_cons {rest : List Piece} {width : Int}
    (sized : ((content piece).length : Int) = width)
    (after : start ≤ low) (inside : low ≤ start + width) (ordered : low ≤ high) :
    range content start low high (piece :: rest) =
      ((content piece).drop (low - start).toNat).take (min high (start + width) - low).toNat ++
      range content (start + width) (min high (start + width)) high rest := by
  have within : (low - start).toNat ≤ (content piece).length := by omega
  unfold range
  rw [List.flatMap_cons, List.drop_append_of_le_length within, List.take_append]
  have left : ((content piece).drop (low - start).toNat).length = (start + width - low).toNat := by
    rw [List.length_drop]
    omega
  rw [left]
  by_cases reaches : start + width ≤ high
  · have same : min high (start + width) = start + width := by omega
    have skip : (start + width - (start + width)).toNat = 0 := by omega
    have count : (high - low).toNat - (start + width - low).toNat =
        (high - (start + width)).toNat := by omega
    rw [same, skip, count, List.drop_zero]
    congr 1
    rw [List.take_of_length_le (by omega), List.take_of_length_le (by omega)]
  · have same : min high (start + width) = high := by omega
    have none : (high - high).toNat = 0 := by omega
    have count : (high - low).toNat - (start + width - low).toNat = 0 := by omega
    rw [same, none, count, List.take_zero, List.take_zero]

theorem range_append (laid : Laid offset size start first stop)
    (sized : ∀ piece ∈ first, ((content piece).length : Int) = size piece) (behind : stop ≤ low) :
    range content start low high (first ++ second) = range content stop low high second := by
  have skipped := laid.length_flatMap sized
  have ordered := laid.le
  unfold range
  rw [List.flatMap_append, List.drop_append, List.drop_of_length_le (by omega), List.nil_append]
  have count : (low - start).toNat - (first.flatMap content).length = (low - stop).toNat := by omega
  rw [count]

end Extents
