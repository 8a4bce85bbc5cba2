import Mathlib.Data.Finset.Card
import Mathlib.Data.Finset.Image
import Mathlib.Data.List.Infix

/-! Sets of paths none of which leads on from another, and the tree of their prefixes. -/

namespace PathSets

variable {α : Type} [DecidableEq α] {paths others : List (List α)} {path selected : List α}

def Apart (left right : List α) : Prop := ¬left <+: right ∧ ¬right <+: left

/-- What the tree of these paths has at a path: a selected node, one above it, or nothing. The
root is always there. -/
def mark (paths : List (List α)) (path : List α) : Option Bool :=
  if path ∈ paths then some true
  else if path = [] ∨ ∃ selected ∈ paths, path <+: selected then some false
  else none

theorem mark_eq_true : mark paths path = some true ↔ path ∈ paths := by
  unfold mark
  split
  case isTrue member => simp [member]
  case isFalse missing => split <;> simp [missing]

theorem mark_eq_none : mark paths path = none ↔
    path ≠ [] ∧ ∀ selected ∈ paths, ¬path <+: selected := by
  unfold mark
  split
  case isTrue member =>
    constructor
    · intro impossible
      cases impossible
    · rintro ⟨_, apart⟩
      exact absurd (List.prefix_refl path) (apart path member)
  case isFalse =>
    split
    case isTrue above =>
      constructor
      · intro impossible
        cases impossible
      · rintro ⟨nonempty, apart⟩
        rcases above with empty | ⟨selected, member, below⟩
        · exact absurd empty nonempty
        · exact absurd below (apart selected member)
    case isFalse outside =>
      simp only [not_or, not_exists, not_and] at outside
      exact ⟨fun _ => outside, fun _ => rfl⟩

theorem mark_eq_false : mark paths path = some false ↔
    path ∉ paths ∧ (path = [] ∨ ∃ selected ∈ paths, path <+: selected) := by
  unfold mark
  split
  case isTrue member => simp [member]
  case isFalse missing =>
    split
    case isTrue above => simp [missing, above]
    case isFalse outside => simp [outside]

theorem mark_congr (same : ∀ path, path ∈ paths ↔ path ∈ others) : mark paths = mark others := by
  funext path
  simp only [mark, same]

theorem mark_nil (path : List α) : mark [] path = if path = [] then some false else none := by
  simp [mark]

theorem mark_cons (apart : ∀ other ∈ paths, Apart other selected) (path : List α) :
    mark (selected :: paths) path = if path = selected then some true
      else if path <+: selected then some false else mark paths path := by
  split
  case isTrue same =>
    rw [mark_eq_true, same]
    exact List.mem_cons_self
  case isFalse different =>
    split
    case isTrue above =>
      rw [mark_eq_false]
      refine ⟨?_, .inr ⟨selected, List.mem_cons_self, above⟩⟩
      intro member
      rcases List.mem_cons.mp member with same | before
      · exact different same
      · exact (apart path before).1 above
    case isFalse outside => simp [mark, different, outside]

theorem apart_iff : (∀ other ∈ paths, Apart other selected) ↔
    (∀ path, path <+: selected → mark paths path ≠ some true) ∧
      ∀ next, mark paths (selected ++ [next]) = none := by
  simp only [ne_eq, mark_eq_true, mark_eq_none]
  constructor
  · intro apart
    refine ⟨fun path above member => (apart path member).1 above, fun next => ⟨by simp, ?_⟩⟩
    intro other member below
    exact (apart other member).2 ((List.prefix_append selected [next]).trans below)
  · rintro ⟨outside, free⟩ other member
    refine ⟨fun above => outside other above member, ?_⟩
    rintro ⟨rest, rfl⟩
    cases rest with
    | nil => exact outside selected (List.prefix_refl _) (by simpa using member)
    | cons next more =>
        refine (free next).2 _ member ⟨more, ?_⟩
        simp

def nodes (paths : List (List α)) : Finset (List α) :=
  (paths.flatMap List.inits).toFinset.erase []

theorem mem_nodes : path ∈ nodes paths ↔ path ≠ [] ∧ ∃ selected ∈ paths, path <+: selected := by
  simp [nodes]

theorem nodes_congr (same : ∀ path, path ∈ paths ↔ path ∈ others) : nodes paths = nodes others := by
  ext path
  simp only [mem_nodes, same]

def missing (marks : List α → Option Bool) (selected : List α) : Finset (List α) :=
  selected.inits.toFinset.filter fun path => marks path = none

theorem card_nodes_cons :
    (nodes (selected :: paths)).card = (nodes paths).card + (missing (mark paths) selected).card := by
  rw [← Finset.card_union_of_disjoint]
  · congr 1
    ext path
    simp only [Finset.mem_union, mem_nodes, missing, Finset.mem_filter, List.mem_toFinset,
      List.mem_inits, mark_eq_none, List.mem_cons, exists_eq_or_imp]
    constructor
    · rintro ⟨nonempty, above | inside⟩
      · by_cases inside : ∃ other ∈ paths, path <+: other
        · exact .inl ⟨nonempty, inside⟩
        · refine .inr ⟨above, nonempty, fun other member below => inside ⟨other, member, below⟩⟩
      · exact .inl ⟨nonempty, inside⟩
    · rintro (⟨nonempty, inside⟩ | ⟨above, nonempty, _⟩)
      · exact ⟨nonempty, .inr inside⟩
      · exact ⟨nonempty, .inl above⟩
  · refine Finset.disjoint_left.mpr fun path inside outside => ?_
    obtain ⟨_, other, member, below⟩ := mem_nodes.mp inside
    have absent := (Finset.mem_filter.mp outside).2
    exact (mark_eq_none.mp absent).2 other member below

theorem missing_nil {marks : List α → Option Bool} (root : marks [] ≠ none) :
    (missing marks []).card = 0 := by
  simp [missing, root]

theorem card_missing_cons {marks below : List α → Option Bool} {first : α} {rest : List α}
    (root : marks [] ≠ none) (same : ∀ path, marks (first :: path) = below path) :
    (missing marks (first :: rest)).card = (missing below rest).card := by
  have split : missing marks (first :: rest) = (missing below rest).image (first :: ·) := by
    ext path
    cases path with
    | nil => simp [missing, root]
    | cons head tail =>
        simp only [missing, Finset.mem_filter, List.mem_toFinset, List.mem_inits,
          Finset.mem_image, List.cons.injEq, List.cons_prefix_cons]
        constructor
        · rintro ⟨⟨rfl, above⟩, absent⟩
          exact ⟨tail, ⟨above, (same tail) ▸ absent⟩, rfl, rfl⟩
        · rintro ⟨other, ⟨above, absent⟩, rfl, rfl⟩
          exact ⟨⟨rfl, above⟩, (same other).trans absent⟩
  rw [split, Finset.card_image_of_injective _ fun _ _ equal => (List.cons.inj equal).2]

theorem nodup_inits {β : Type} (rest : List β) : rest.inits.Nodup := by
  induction rest with
  | nil => simp
  | cons first rest ih =>
      rw [List.inits_cons, List.nodup_cons]
      exact ⟨by simp, ih.map fun _ _ equal => (List.cons.inj equal).2⟩

theorem card_missing_absent {marks : List α → Option Bool} {rest : List α}
    (absent : ∀ path, marks path = none) : (missing marks rest).card = rest.length + 1 := by
  have all : missing marks rest = rest.inits.toFinset := by
    simp [missing, absent]
  rw [all, List.toFinset_card_of_nodup (nodup_inits rest), List.length_inits]

theorem card_missing_empty (rest : List α) : (missing (mark []) rest).card = rest.length := by
  have all : missing (mark []) rest = rest.inits.toFinset.erase [] := by
    ext path
    simp [missing, mark_nil, and_comm]
  rw [all, Finset.card_erase_of_mem (by simp),
    List.toFinset_card_of_nodup (nodup_inits rest), List.length_inits]
  omega

end PathSets
