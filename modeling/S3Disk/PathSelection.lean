import Mathlib.Data.List.Pairwise
import S3Disk.Library.Checks
import S3Disk.Library.PathSets
import S3Disk.PathFacts
import S3Disk.SourceTree

/-! The trie of selected paths: which lists of paths `newPathSelectionContext` accepts, and
which trie they give. A trie is compared by its nodes and their marks, as the order of a map's
entries is not observable. -/

namespace S3Disk

open Concurrent

namespace PathSelection

def find : PathSelection → List Bytes → Option PathSelection
  | selection, [] => some selection
  | selection, name :: rest => match selection.child name with
      | none => none
      | some child => child.find rest

def marks (selection : PathSelection) (path : List Bytes) : Option Bool :=
  (selection.find path).map includeAll

variable {selection child : PathSelection} {name other : Bytes} {path : List Bytes}

theorem marks_nil : selection.marks [] = some selection.includeAll := rfl

theorem marks_none (absent : selection.child name = none) :
    selection.marks (name :: path) = none := by
  simp [marks, find, absent]

theorem marks_some (present : selection.child name = some child) :
    selection.marks (name :: path) = child.marks path := by
  simp [marks, find, present]

theorem marks_empty : empty.marks = PathSets.mark [] := by
  funext path
  rw [PathSets.mark_nil]
  cases path with
  | nil => rfl
  | cons name rest => exact marks_none rfl

variable {entries : List (Bytes × PathSelection)}

theorem lookup_step : ((name, child) :: entries).lookup other =
    if other = name then some child else entries.lookup other := by
  by_cases same : other = name
  · simp [same]
  · simp only [List.lookup_cons, if_neg same, beq_eq_false_iff_ne.mpr same]

theorem any_eq_isSome_lookup : entries.any (·.1 == name) = (entries.lookup name).isSome := by
  induction entries with
  | nil => rfl
  | cons entry rest ih =>
      obtain ⟨key, value⟩ := entry
      rw [List.any_cons, lookup_step, ih]
      by_cases same : name = key
      · simp [same]
      · simp [same, beq_eq_false_iff_ne.mpr (Ne.symm same)]

theorem lookup_map :
    (entries.map fun entry => if entry.1 = name then (name, child) else entry).lookup other =
      if other = name then (entries.lookup name).map fun _ => child else entries.lookup other := by
  induction entries with
  | nil => simp
  | cons entry rest ih =>
      obtain ⟨key, value⟩ := entry
      by_cases named : key = name
      · subst named
        simp only [List.map_cons, if_true, lookup_step, ih]
        by_cases same : other = key
        · simp [same]
        · simp [same]
      · simp only [List.map_cons, if_neg named, lookup_step, ih, if_neg (Ne.symm named)]
        by_cases same : other = name
        · subst same
          simp [Ne.symm named]
        · simp [same]

theorem lookup_push : (entries ++ [(name, child)]).lookup other =
    (entries.lookup other).or (if other = name then some child else none) := by
  induction entries with
  | nil => rw [List.nil_append, lookup_step]; rfl
  | cons entry rest ih =>
      obtain ⟨key, value⟩ := entry
      simp only [List.cons_append, lookup_step, ih]
      split
      · rfl
      · rfl

theorem child_setChild : (selection.setChild name child).child other =
    if other = name then some child else selection.child other := by
  unfold setChild PathSelection.child
  rw [any_eq_isSome_lookup]
  split
  case isTrue present =>
    obtain ⟨found, looked⟩ := Option.isSome_iff_exists.mp present
    refine lookup_map.trans ?_
    rw [looked, Option.map_some]
  case isFalse absent =>
    rw [Option.not_isSome_iff_eq_none] at absent
    refine lookup_push.trans ?_
    by_cases same : other = name
    · rw [if_pos same, if_pos same, same, absent]
      rfl
    · rw [if_neg same, if_neg same, Option.or_none]

theorem includeAll_setChild : (selection.setChild name child).includeAll = selection.includeAll := by
  unfold setChild
  split
  · rfl
  · rfl

theorem children_eq_nil : selection.children = [] ↔ ∀ name, selection.child name = none := by
  unfold PathSelection.child
  constructor
  · intro empty name
    simp [empty]
  · intro absent
    cases children : selection.children with
    | nil => rfl
    | cons entry rest =>
        obtain ⟨name, child⟩ := entry
        have found := absent name
        rw [children, List.lookup_cons_self] at found
        cases found

theorem marks_setChild : (selection.setChild name child).marks (other :: path) =
    if other = name then child.marks path else selection.marks (other :: path) := by
  split
  case isTrue same =>
    subst same
    exact marks_some (by simp [child_setChild])
  case isFalse different =>
    have kept : (selection.setChild name child).child other = selection.child other := by
      simp [child_setChild, different]
    cases found : selection.child other with
    | none => rw [marks_none (kept.trans found), marks_none found]
    | some inner => rw [marks_some (kept.trans found), marks_some found]

end PathSelection

def Alive (answers : ∀ request, Option (Answer request)) : Prop :=
  answers .contextErr = some none

variable {answers : ∀ request, Option (Answer request)} {value : Bytes} {components : List Bytes}
  {node : PathSelection} {count : Nat} {result : PathSelection × Nat}

theorem answered_contextErr (alive : Alive answers) {result : Unit} :
    contextErr.answered answers = some (.ok result) ↔ True :=
  iff_true_intro (Fallible.answered_request alive)

structure Selectable (node : PathSelection) (components : List Bytes) (count : Nat) : Prop where
  names : ∀ component ∈ components, component ≠ [] ∧ component.length ≤ maxEntryNameBytes
  above : ∀ path, path <+: components → node.marks path ≠ some true
  below : ∀ next, node.marks (components ++ [next]) = none
  nodes : count + (PathSets.missing node.marks components).card ≤ maxDirectoryEntries

structure Selected (node : PathSelection) (components : List Bytes) (count : Nat)
    (result : PathSelection × Nat) : Prop where
  marks : ∀ path, result.1.marks path = if path = components then some true
    else if path <+: components then some false else node.marks path
  nodes : result.2 = count + (PathSets.missing node.marks components).card

theorem selectComponents_nil :
    (selectComponents value [] node count).answered answers = some (.ok result) ↔
    node.includeAll = false ∧ node.children = [] ∧ result = (.node true [], count) := by
  unfold selectComponents
  simp only [Fallible.answered_bind_ok, Fallible.answered_failIf_ok, Fallible.answered_pure_ok,
    exists_const, Bool.not_eq_true, Decidable.not_not, ne_eq]
  constructor
  · rintro ⟨unmarked, leaf, rfl⟩
    exact ⟨unmarked, leaf, by rw [leaf]⟩
  · rintro ⟨unmarked, leaf, rfl⟩
    exact ⟨unmarked, leaf, by rw [leaf]⟩

def PathSelection.lower (node : PathSelection) (component : Bytes) : PathSelection :=
  (node.child component).getD .empty

def PathSelection.made (node : PathSelection) (component : Bytes) : Nat :=
  if node.child component = none then 1 else 0

theorem selectComponents_cons (alive : Alive answers) {component : Bytes} {rest : List Bytes} :
    (selectComponents value (component :: rest) node count).answered answers = some (.ok result) ↔
      (component ≠ [] ∧ component.length ≤ maxEntryNameBytes) ∧ node.includeAll = false ∧
        (node.child component = none → count + 1 ≤ maxDirectoryEntries) ∧
        ∃ later, (selectComponents value rest (node.lower component)
            (count + node.made component)).answered answers = some (.ok later) ∧
          result = (node.setChild component later.1, later.2) := by
  rw [selectComponents]
  simp only [Fallible.answered_bind_ok, Fallible.answered_failIf_ok, answered_contextErr alive,
    exists_const, not_or, Nat.not_lt, Bool.not_eq_true, true_and, ne_eq]
  refine and_congr_right fun _ => and_congr_right fun _ => ?_
  cases found : node.child component with
  | some child =>
      simp only [PathSelection.lower, PathSelection.made, found, Fallible.answered_bind_ok,
        Fallible.answered_pure_ok]
      simp [eq_comm]
  | none =>
      simp only [PathSelection.lower, PathSelection.made, found, Fallible.answered_bind_ok,
        Fallible.answered_failIf_ok, Fallible.answered_pure_ok]
      simp [eq_comm]

variable {component : Bytes} {rest : List Bytes}

theorem marks_lower {path : List Bytes} : node.marks (component :: path) =
    if node.child component = none then none else (node.lower component).marks path := by
  cases found : node.child component with
  | none => simp [PathSelection.marks_none found]
  | some child => simp [PathSelection.marks_some found, PathSelection.lower, found]

theorem marks_lower_empty {path : List Bytes} (absent : node.child component = none) :
    (node.lower component).marks path = if path = [] then some false else none := by
  simp only [PathSelection.lower, absent, Option.getD_none, PathSelection.marks_empty,
    PathSets.mark_nil]

theorem card_missing_lower : (PathSets.missing node.marks (component :: rest)).card =
    node.made component + (PathSets.missing (node.lower component).marks rest).card := by
  have root : node.marks [] ≠ none := by simp [PathSelection.marks_nil]
  cases found : node.child component with
  | some child =>
      rw [PathSets.card_missing_cons root fun path => marks_lower.trans (by rw [found])]
      simp [PathSelection.made, found]
  | none =>
      rw [PathSets.card_missing_cons root fun path => PathSelection.marks_none found,
        PathSets.card_missing_absent fun _ => rfl]
      have lower : node.lower component = .empty := by simp [PathSelection.lower, found]
      rw [lower, PathSelection.marks_empty, PathSets.card_missing_empty]
      simp only [PathSelection.made, found, if_true]
      omega

theorem selectComponents_ok (alive : Alive answers) (bounded : count ≤ maxDirectoryEntries)
    (ran : (selectComponents value components node count).answered answers = some (.ok result)) :
    Selectable node components count ∧ Selected node components count result := by
  induction components generalizing node count result with
  | nil =>
      obtain ⟨unmarked, leaf, rfl⟩ := selectComponents_nil.mp ran
      have absent := PathSelection.children_eq_nil.mp leaf
      have root : node.marks [] ≠ none := by simp [PathSelection.marks_nil]
      have none_missing := PathSets.missing_nil root
      refine ⟨⟨by simp, ?_, fun next => PathSelection.marks_none (absent next), by omega⟩, ?_, ?_⟩
      · intro path above
        rw [List.prefix_nil.mp above, PathSelection.marks_nil, unmarked]
        simp
      · intro path
        cases path with
        | nil => rfl
        | cons name path =>
            simp only [reduceCtorEq, if_false, List.prefix_nil]
            rw [PathSelection.marks_none (absent name)]
            exact PathSelection.marks_none rfl
      · dsimp only
        omega
  | cons component rest ih =>
      obtain ⟨name, unmarked, room, later, selected, rfl⟩ := (selectComponents_cons alive).mp ran
      have within : count + node.made component ≤ maxDirectoryEntries := by
        unfold PathSelection.made
        split
        case isTrue absent => exact room absent
        case isFalse => exact bounded
      obtain ⟨able, done⟩ := ih within selected
      have missing : (PathSets.missing node.marks (component :: rest)).card = _ :=
        card_missing_lower
      refine ⟨⟨?_, ?_, ?_, ?_⟩, ?_, ?_⟩
      · simpa using ⟨name, able.names⟩
      · intro path above
        cases path with
        | nil =>
            rw [PathSelection.marks_nil, unmarked]
            simp
        | cons first path =>
            obtain ⟨rfl, inside⟩ := List.cons_prefix_cons.mp above
            rw [marks_lower]
            split
            · simp
            · exact able.above path inside
      · intro next
        rw [List.cons_append, marks_lower]
        split
        · rfl
        · exact able.below next
      · have := able.nodes
        omega
      · intro path
        cases path with
        | nil =>
            rw [PathSelection.marks_nil, PathSelection.includeAll_setChild, unmarked]
            simp
        | cons first path =>
            rw [PathSelection.marks_setChild]
            by_cases same : first = component
            · subst same
              rw [if_pos rfl, done.marks path, marks_lower]
              simp only [List.cons.injEq, true_and, List.cons_prefix_cons]
              split
              · rfl
              split
              · rfl
              case isFalse outside =>
                split
                case isTrue absent =>
                  rw [marks_lower_empty absent, if_neg]
                  rintro rfl
                  exact outside (List.nil_prefix)
                · rfl
            · simp [same]
      · have := done.nodes
        dsimp only
        omega

theorem selectComponents_exists (alive : Alive answers) (able : Selectable node components count) :
    ∃ result, (selectComponents value components node count).answered answers =
      some (.ok result) := by
  induction components generalizing node count with
  | nil =>
      refine ⟨_, selectComponents_nil.mpr ⟨?_, PathSelection.children_eq_nil.mpr ?_, rfl⟩⟩
      · have := able.above [] (List.prefix_refl [])
        simpa [PathSelection.marks_nil] using this
      · intro name
        have absent := able.below name
        cases found : node.child name with
        | none => rfl
        | some child => 
            rw [List.nil_append, PathSelection.marks_some found, PathSelection.marks_nil] at absent
            cases absent
  | cons component rest ih =>
      have missing : (PathSets.missing node.marks (component :: rest)).card = _ :=
        card_missing_lower
      have room := able.nodes
      have unmarked : node.includeAll = false := by
        have := able.above [] (List.nil_prefix)
        simpa [PathSelection.marks_nil] using this
      have lower : Selectable (node.lower component) rest (count + node.made component) := by
        refine ⟨fun name member => able.names name (by simp [member]), ?_, ?_, by omega⟩
        · intro path above
          have clear := able.above (component :: path) (List.cons_prefix_cons.mpr ⟨rfl, above⟩)
          rw [marks_lower] at clear
          split at clear
          case isTrue absent =>
            rw [marks_lower_empty absent]
            split <;> simp
          case isFalse => exact clear
        · intro next
          have clear := able.below next
          rw [List.cons_append, marks_lower] at clear
          split at clear
          case isTrue absent =>
            rw [marks_lower_empty absent, if_neg (by simp)]
          case isFalse => exact clear
      obtain ⟨later, selected⟩ := ih lower
      refine ⟨_, (selectComponents_cons alive).mpr ⟨able.names component (by simp), unmarked, ?_,
        later, selected, rfl⟩⟩
      intro absent
      have made : node.made component = 1 := if_pos absent
      omega

def pathComponents (value : Bytes) : List Bytes := if value = dot then [] else splitSlash value

theorem pathComponents_eq_nil : pathComponents value = [] ↔ value = dot := by
  unfold pathComponents
  split
  case isTrue same => simp [same]
  case isFalse different => simp [different, splitSlash_ne_nil]

structure CanonicalPath (value : Bytes) : Prop where
  nonempty : value ≠ []
  noNul : 0 ∉ value
  relative : pathIsAbs value = false
  clean : pathClean value = value
  inside : escapes value = false
  short : value.length ≤ maxLookupPathBytes
  depth : (pathComponents value).length ≤ maxLookupDepth
  names : ∀ component ∈ pathComponents value,
    component ≠ [] ∧ component.length ≤ maxEntryNameBytes

def Fits : List (List Bytes) → Nat → List Bytes → Prop
  | _, _, [] => True
  | paths, totalBytes, value :: rest => CanonicalPath value ∧
      (∀ other ∈ paths, PathSets.Apart other (pathComponents value)) ∧
      totalBytes + value.length ≤ maxMetadataObjectBytes ∧
      (PathSets.nodes (pathComponents value :: paths)).card ≤ maxDirectoryEntries ∧
      Fits (pathComponents value :: paths) (totalBytes + value.length) rest

structure Grown (paths : List (List Bytes)) (root : PathSelection) (count : Nat) : Prop where
  marks : root.marks = PathSets.mark paths
  nodes : count = (PathSets.nodes paths).card
  bounded : count ≤ maxDirectoryEntries

variable {paths : List (List Bytes)} {root : PathSelection} {totalBytes : Nat}
  {values : List Bytes}

theorem Grown.selectable (grown : Grown paths root count) (canonical : CanonicalPath value) :
    Selectable root (pathComponents value) count ↔
      (∀ other ∈ paths, PathSets.Apart other (pathComponents value)) ∧
        (PathSets.nodes (pathComponents value :: paths)).card ≤ maxDirectoryEntries := by
  rw [PathSets.apart_iff, PathSets.card_nodes_cons, ← grown.nodes, ← grown.marks]
  constructor
  · intro able
    exact ⟨⟨able.above, able.below⟩, able.nodes⟩
  · rintro ⟨⟨above, below⟩, nodes⟩
    exact ⟨canonical.names, above, below, nodes⟩

theorem Grown.select (grown : Grown paths root count)
    (apart : ∀ other ∈ paths, PathSets.Apart other (pathComponents value))
    (nodes : (PathSets.nodes (pathComponents value :: paths)).card ≤ maxDirectoryEntries)
    (selected : Selected root (pathComponents value) count result) :
    Grown (pathComponents value :: paths) result.1 result.2 := by
  have count := selected.nodes
  rw [grown.marks, grown.nodes, ← PathSets.card_nodes_cons] at count
  refine ⟨?_, count, by omega⟩
  funext path
  rw [selected.marks, PathSets.mark_cons apart, grown.marks]

theorem selectPaths_cons (alive : Alive answers) {rest : List Bytes} :
    (selectPaths (value :: rest) root count totalBytes).answered answers = some (.ok node) ↔
      (value ≠ [] ∧ 0 ∉ value ∧ pathIsAbs value = false) ∧ value.length ≤ maxLookupPathBytes ∧
        totalBytes + value.length ≤ maxMetadataObjectBytes ∧
        (pathClean value = value ∧ escapes value = false) ∧
        (pathComponents value).length ≤ maxLookupDepth ∧
        ∃ later, (selectComponents value (pathComponents value) root count).answered answers =
            some (.ok later) ∧
          (selectPaths rest later.1 later.2 (totalBytes + value.length)).answered answers =
            some (.ok node) := by
  rw [selectPaths]
  simp only [Fallible.answered_bind_ok, Fallible.answered_failIf_ok, answered_contextErr alive,
    exists_const, not_or, Nat.not_lt, Bool.not_eq_true, true_and, ne_eq, Decidable.not_not]
  exact Iff.rfl

theorem selectPaths_ok (alive : Alive answers) (grown : Grown paths root count)
    (ran : (selectPaths values root count totalBytes).answered answers = some (.ok node)) :
    Fits paths totalBytes values ∧
      node.marks = PathSets.mark ((values.map pathComponents).reverse ++ paths) := by
  induction values generalizing paths root count totalBytes with
  | nil =>
      cases Fallible.answered_pure_ok.mp ran
      exact ⟨trivial, grown.marks⟩
  | cons value rest ih =>
      obtain ⟨⟨nonempty, noNul, relative⟩, short, total, ⟨clean, inside⟩, depth, later, selected,
        rest_ran⟩ := (selectPaths_cons alive).mp ran
      obtain ⟨able, done⟩ := selectComponents_ok alive grown.bounded selected
      have canonical : CanonicalPath value :=
        ⟨nonempty, noNul, relative, clean, inside, short, depth, able.names⟩
      obtain ⟨apart, nodes⟩ := (grown.selectable canonical).mp able
      obtain ⟨fits, marks⟩ := ih (grown.select apart nodes done) rest_ran
      refine ⟨⟨canonical, apart, total, nodes, fits⟩, ?_⟩
      rw [marks, List.map_cons, List.reverse_cons, List.append_assoc, List.singleton_append]

theorem selectPaths_exists (alive : Alive answers) (grown : Grown paths root count)
    (fits : Fits paths totalBytes values) :
    ∃ node, (selectPaths values root count totalBytes).answered answers = some (.ok node) := by
  induction values generalizing paths root count totalBytes with
  | nil => exact ⟨root, Fallible.answered_pure_ok.mpr rfl⟩
  | cons value rest ih =>
      obtain ⟨canonical, apart, total, nodes, fits⟩ := fits
      obtain ⟨later, selected⟩ : ∃ later, (selectComponents value (pathComponents value) root
          count).answered answers = some (.ok later) :=
        selectComponents_exists alive ((grown.selectable canonical).mpr ⟨apart, nodes⟩)
      obtain ⟨able, done⟩ := selectComponents_ok alive grown.bounded selected
      obtain ⟨node, ran⟩ := ih (grown.select apart nodes done) fits
      exact ⟨node, (selectPaths_cons alive).mpr
        ⟨⟨canonical.nonempty, canonical.noNul, canonical.relative⟩, canonical.short, total,
          ⟨canonical.clean, canonical.inside⟩, canonical.depth, later, selected, ran⟩⟩

theorem card_nodes_mono {more : List (List Bytes)} :
    (PathSets.nodes paths).card ≤ (PathSets.nodes (more ++ paths)).card := by
  refine Finset.card_le_card fun path member => ?_
  obtain ⟨nonempty, selected, present, above⟩ := PathSets.mem_nodes.mp member
  exact PathSets.mem_nodes.mpr ⟨nonempty, selected, List.mem_append_right _ present, above⟩

theorem fits_iff (total : totalBytes ≤ maxMetadataObjectBytes)
    (nodes : (PathSets.nodes paths).card ≤ maxDirectoryEntries) : Fits paths totalBytes values ↔
    (∀ value ∈ values, CanonicalPath value) ∧
      (values.map pathComponents).Pairwise PathSets.Apart ∧
      (∀ value ∈ values, ∀ other ∈ paths, PathSets.Apart other (pathComponents value)) ∧
      totalBytes + values.flatten.length ≤ maxMetadataObjectBytes ∧
      (PathSets.nodes ((values.map pathComponents).reverse ++ paths)).card ≤
        maxDirectoryEntries := by
  induction values generalizing paths totalBytes with
  | nil => simp [Fits, total, nodes]
  | cons value rest ih =>
      have order : ((value :: rest).map pathComponents).reverse ++ paths =
          (rest.map pathComponents).reverse ++ (pathComponents value :: paths) := by
        rw [List.map_cons, List.reverse_cons, List.append_assoc, List.singleton_append]
      rw [order]
      constructor
      · rintro ⟨canonical, apart, bytes, more, fits⟩
        obtain ⟨canonicals, pairwise, others, bytes, final⟩ := (ih bytes more).mp fits
        refine ⟨?_, ?_, ?_, ?_, final⟩
        · simpa using ⟨canonical, canonicals⟩
        · refine List.pairwise_cons.mpr ⟨?_, pairwise⟩
          intro components member
          obtain ⟨other, present, rfl⟩ := List.mem_map.mp member
          exact others other present _ List.mem_cons_self
        · intro other member
          rcases List.mem_cons.mp member with rfl | later
          · exact apart
          · exact fun path present => others other later path (List.mem_cons_of_mem _ present)
        · simp only [List.flatten_cons, List.length_append]
          omega
      · rintro ⟨canonicals, pairwise, others, bytes, final⟩
        simp only [List.flatten_cons, List.length_append] at bytes
        have more : (PathSets.nodes (pathComponents value :: paths)).card ≤ maxDirectoryEntries :=
          Nat.le_trans card_nodes_mono final
        rw [List.map_cons, List.pairwise_cons] at pairwise
        refine ⟨canonicals value (by simp), others value (by simp), by omega, more, ?_⟩
        refine (ih (by omega) more).mpr ⟨fun other member => canonicals other (by simp [member]),
          pairwise.2, ?_, by omega, final⟩
        intro other member path present
        rcases List.mem_cons.mp present with rfl | before
        · exact pairwise.1 _ (List.mem_map_of_mem member)
        · exact others other (by simp [member]) path before

structure Accepted (values : List Bytes) : Prop where
  nonempty : values ≠ []
  paths : values.length ≤ maxDirectoryEntries
  canonical : ∀ value ∈ values, CanonicalPath value
  distinct : values.Nodup
  unrelated : ∀ value ∈ values, ∀ other ∈ values, value ≠ other →
    ¬pathComponents value <+: pathComponents other
  bytes : values.flatten.length ≤ maxMetadataObjectBytes
  nodes : (PathSets.nodes (values.map pathComponents)).card ≤ maxDirectoryEntries

theorem pairwise_apart_iff : (values.map pathComponents).Pairwise PathSets.Apart ↔
    values.Nodup ∧ ∀ value ∈ values, ∀ other ∈ values, value ≠ other →
      ¬pathComponents value <+: pathComponents other := by
  rw [List.pairwise_map]
  constructor
  · intro apart
    have symmetric : Std.Symm fun value other =>
        PathSets.Apart (pathComponents value) (pathComponents other) :=
      ⟨fun _ _ apart => ⟨apart.2, apart.1⟩⟩
    refine ⟨apart.imp ?_, fun value member other present different => ?_⟩
    · rintro value _ apart rfl
      exact apart.1 (List.prefix_refl _)
    · exact (apart.forall member present different).1
  · rintro ⟨distinct, unrelated⟩
    refine distinct.pairwise_of_forall_ne fun value member other present different => ?_
    exact ⟨unrelated value member other present different,
      unrelated other present value member different.symm⟩

theorem newPathSelectionContext_answered (alive : Alive answers)
    {selection : Option PathSelection} :
    (newPathSelectionContext values).answered answers = some (.ok selection) ↔
      values ≠ [] ∧ values.length ≤ maxDirectoryEntries ∧ ∃ root,
        (selectPaths values .empty 0 0).answered answers = some (.ok root) ∧
          selection = if root.includeAll then none else some root := by
  unfold newPathSelectionContext
  simp only [Fallible.answered_bind_ok, Fallible.answered_failIf_ok, answered_contextErr alive,
    Fallible.answered_pure_ok, exists_const, Nat.not_lt, true_and, ne_eq]
  simp only [eq_comm]

theorem grown_empty : Grown [] .empty 0 :=
  ⟨PathSelection.marks_empty, rfl, by decide⟩

theorem accepted_iff : Accepted values ↔
    values ≠ [] ∧ values.length ≤ maxDirectoryEntries ∧ Fits [] 0 values := by
  have same : PathSets.nodes ((values.map pathComponents).reverse ++ []) =
      PathSets.nodes (values.map pathComponents) := PathSets.nodes_congr (by simp)
  rw [fits_iff (Nat.zero_le _) (by decide), pairwise_apart_iff, same, Nat.zero_add]
  constructor
  · intro accepted
    exact ⟨accepted.nonempty, accepted.paths, accepted.canonical,
      ⟨accepted.distinct, accepted.unrelated⟩, by simp, accepted.bytes, accepted.nodes⟩
  · rintro ⟨nonempty, paths, canonical, ⟨distinct, unrelated⟩, _, bytes, nodes⟩
    exact ⟨nonempty, paths, canonical, distinct, unrelated, bytes, nodes⟩

theorem Accepted.perm {others : List Bytes} (accepted : Accepted values)
    (order : values.Perm others) : Accepted others where
  nonempty := by
    rintro rfl
    exact accepted.nonempty order.eq_nil
  paths := order.length_eq ▸ accepted.paths
  canonical := fun value member => accepted.canonical value (order.mem_iff.mpr member)
  distinct := order.nodup_iff.mp accepted.distinct
  unrelated := fun value member other present =>
    accepted.unrelated value (order.mem_iff.mpr member) other (order.mem_iff.mpr present)
  bytes := order.flatten.length_eq ▸ accepted.bytes
  nodes := by
    have same : PathSets.nodes (others.map pathComponents) =
        PathSets.nodes (values.map pathComponents) :=
      PathSets.nodes_congr fun path => (order.map pathComponents).mem_iff.symm
    rw [same]
    exact accepted.nodes

structure Chosen (values : List Bytes) (selection : Option PathSelection) : Prop where
  accepted : Accepted values
  trie : ∃ root : PathSelection,
    root.marks = PathSets.mark (values.map pathComponents) ∧
      selection = if root.includeAll then none else some root

theorem newPathSelectionContext_ok (alive : Alive answers) {selection : Option PathSelection}
    (ran : (newPathSelectionContext values).answered answers = some (.ok selection)) :
    Chosen values selection := by
  obtain ⟨nonempty, paths, root, selected, same⟩ := (newPathSelectionContext_answered alive).mp ran
  obtain ⟨fits, marks⟩ := selectPaths_ok alive grown_empty selected
  refine ⟨accepted_iff.mpr ⟨nonempty, paths, fits⟩, root, ?_, same⟩
  rw [marks]
  exact PathSets.mark_congr (by simp)

theorem newPathSelectionContext_exists (alive : Alive answers) (accepted : Accepted values) :
    ∃ selection, (newPathSelectionContext values).answered answers = some (.ok selection) := by
  obtain ⟨nonempty, paths, fits⟩ := accepted_iff.mp accepted
  obtain ⟨root, selected⟩ := selectPaths_exists alive grown_empty fits
  exact ⟨_, (newPathSelectionContext_answered alive).mpr ⟨nonempty, paths, root, selected, rfl⟩⟩

theorem mem_components {path : List Bytes} : path ∈ values.map pathComponents ↔
    ∃ value ∈ values, pathComponents value = path := List.mem_map

theorem Chosen.none_iff {selection : Option PathSelection} (chosen : Chosen values selection) :
    selection = none ↔ values = [dot] := by
  obtain ⟨accepted, root, marks, rfl⟩ := chosen
  have included : root.includeAll = true ↔ dot ∈ values := by
    have here : root.marks [] = some root.includeAll := PathSelection.marks_nil
    have wanted : PathSets.mark (values.map pathComponents) [] = some true ↔ _ :=
      PathSets.mark_eq_true
    rw [← marks, here, Option.some.injEq, mem_components] at wanted
    rw [wanted]
    constructor
    · rintro ⟨value, member, empty⟩
      rw [← pathComponents_eq_nil.mp empty]
      exact member
    · intro member
      exact ⟨dot, member, pathComponents_eq_nil.mpr rfl⟩
  have none_iff : (if root.includeAll then none else some root) = none ↔
      root.includeAll = true := by
    split
    case isTrue all => simp [all]
    case isFalse all => simp [all]
  rw [none_iff, included]
  constructor
  · intro member
    -- The root path leads to every other path.
    have alone : ∀ value ∈ values, value = dot := by
      intro value present
      by_contra different
      refine accepted.unrelated dot member value present (Ne.symm different) ?_
      rw [pathComponents_eq_nil.mpr rfl]
      exact List.nil_prefix
    cases values with
    | nil => cases member
    | cons first rest =>
        obtain rfl := alone first (by simp)
        cases rest with
        | nil => rfl
        | cons second more =>
            have again := alone second (by simp)
            have distinct := accepted.distinct
            simp [again] at distinct
  · rintro rfl
    simp

theorem find_append {path more : List Bytes} :
    root.find (path ++ more) = (root.find path).bind fun inner => inner.find more := by
  induction path generalizing root with
  | nil => rfl
  | cons name rest ih =>
      simp only [List.cons_append, PathSelection.find]
      cases root.child name with
      | none => rfl
      | some child => exact ih

theorem Chosen.leaf {selection : Option PathSelection} (chosen : Chosen values selection)
    (found : selection = some root) {path : List Bytes} (inner : root.find path = some node)
    (included : node.includeAll = true) : node.children = [] := by
  obtain ⟨accepted, trie, marks, same⟩ := chosen
  rw [found] at same
  split at same
  · cases same
  cases same
  have selected : path ∈ values.map pathComponents := by
    rw [← PathSets.mark_eq_true, ← marks, PathSelection.marks, inner, Option.map_some, included]
  obtain ⟨value, member, rfl⟩ := mem_components.mp selected
  refine PathSelection.children_eq_nil.mpr fun name => ?_
  by_contra present
  obtain ⟨child, present⟩ := Option.ne_none_iff_exists'.mp present
  have marked : root.marks (pathComponents value ++ [name]) ≠ none := by
    simp [PathSelection.marks, find_append, inner, PathSelection.find, present]
  rw [marks, ne_eq, PathSets.mark_eq_none] at marked
  refine marked ⟨by simp, fun path other above => ?_⟩
  obtain ⟨below, there, rfl⟩ := mem_components.mp other
  have leads := (List.prefix_append _ _).trans above
  by_cases again : value = below
  · subst again
    have longer := above.length_le
    rw [List.length_append, List.length_singleton] at longer
    omega
  · exact accepted.unrelated value member below there again leads

theorem path_selection (alive : Alive answers) (values : List Bytes) :
    ((∃ selection, (newPathSelectionContext values).answered answers = some (.ok selection)) ↔
      Accepted values) ∧
    (∀ selection, (newPathSelectionContext values).answered answers = some (.ok selection) →
      (selection = none ↔ values = [dot]) ∧
      ∀ root, selection = some root →
        (∀ path, root.marks path = some true ↔ ∃ value ∈ values, pathComponents value = path) ∧
        (∀ path node, root.find path = some node → node.includeAll = true → node.children = []) ∧
        ∀ path, root.marks path = some false ↔
          ∃ value ∈ values, path <+: pathComponents value ∧ path ≠ pathComponents value) ∧
    ∀ others, values.Perm others →
      ((∃ selection, (newPathSelectionContext others).answered answers = some (.ok selection)) ↔
        Accepted values) ∧
      ∀ selection other,
        (newPathSelectionContext values).answered answers = some (.ok selection) →
        (newPathSelectionContext others).answered answers = some (.ok other) →
        selection.map PathSelection.marks = other.map PathSelection.marks := by
  have accepted : ∀ values,
      (∃ selection, (newPathSelectionContext values).answered answers = some (.ok selection)) ↔
        Accepted values := fun values =>
    ⟨fun ⟨_, ran⟩ => (newPathSelectionContext_ok alive ran).accepted,
      newPathSelectionContext_exists alive⟩
  refine ⟨accepted values, ?_, ?_⟩
  · intro selection ran
    have chosen := newPathSelectionContext_ok alive ran
    refine ⟨chosen.none_iff, fun root found => ⟨?_, fun _ _ => chosen.leaf found, ?_⟩⟩
    all_goals obtain ⟨fine, trie, marks, same⟩ := chosen
    all_goals
      rw [found] at same
      split at same
      · cases same
      cases same
    · intro path
      rw [marks, PathSets.mark_eq_true, mem_components]
    · intro path
      rw [marks, PathSets.mark_eq_false]
      constructor
      · rintro ⟨unselected, above⟩
        have strict : ∀ value ∈ values, path ≠ pathComponents value := by
          rintro value member rfl
          exact unselected (mem_components.mpr ⟨value, member, rfl⟩)
        rcases above with rfl | ⟨selected, member, above⟩
        · obtain ⟨value, member⟩ := List.exists_mem_of_ne_nil values fine.nonempty
          exact ⟨value, member, List.nil_prefix, strict value member⟩
        · obtain ⟨value, there, rfl⟩ := mem_components.mp member
          exact ⟨value, there, above, strict value there⟩
      · rintro ⟨value, member, above, strict⟩
        refine ⟨?_, .inr ⟨_, mem_components.mpr ⟨value, member, rfl⟩, above⟩⟩
        intro selected
        obtain ⟨other, there, rfl⟩ := mem_components.mp selected
        refine fine.unrelated other there value member ?_ above
        rintro rfl
        exact strict rfl
  · intro others order
    refine ⟨(accepted others).trans ⟨fun fine => fine.perm order.symm, fun fine => fine.perm order⟩,
      fun selection other ran again => ?_⟩
    obtain ⟨_, first, marks, rfl⟩ := newPathSelectionContext_ok alive ran
    obtain ⟨_, second, same, rfl⟩ := newPathSelectionContext_ok alive again
    have equal : first.marks = second.marks := by
      rw [marks, same]
      exact PathSets.mark_congr fun path => (order.map pathComponents).mem_iff
    have included : first.includeAll = second.includeAll := by
      have here := congrFun equal []
      rw [PathSelection.marks_nil, PathSelection.marks_nil] at here
      exact Option.some.inj here
    rw [included]
    split
    · rfl
    · rw [Option.map_some, Option.map_some, equal]

def onlyAlive : ∀ request, Option (Answer request)
  | .contextErr => some none
  | _ => none

/-- The paths `a/b` and `c`, in both orders. -/
theorem path_selection_pair : ∃ selection other : Option PathSelection,
    (newPathSelectionContext [[97, 47, 98], [99]]).answered onlyAlive = some (.ok selection) ∧
      (newPathSelectionContext [[99], [97, 47, 98]]).answered onlyAlive = some (.ok other) ∧
      selection ≠ none ∧ selection.map PathSelection.marks = other.map PathSelection.marks := by
  have first : (newPathSelectionContext [[97, 47, 98], [99]]).answered onlyAlive =
    some (.ok _) := rfl
  have second : (newPathSelectionContext [[99], [97, 47, 98]]).answered onlyAlive =
    some (.ok _) := rfl
  have alive : Alive onlyAlive := rfl
  exact ⟨_, _, first, second, mt ((path_selection alive _).2.1 _ first).1.mp (by decide),
    ((path_selection alive _).2.2 _ (List.Perm.swap _ _ [])).2 _ _ first second⟩

end S3Disk
