import Mathlib.Data.List.TakeWhile
import S3Disk.Paths

/-! Cleaned paths as lists of components: what `path.Clean`, `path.Join` and
`path.Dir` do to them. -/

namespace S3Disk

structure ProperName (name : Bytes) : Prop where
  nonempty : name ≠ []
  notDot : name ≠ dot
  notDotDot : name ≠ dotDot
  noSlash : slash ∉ name

theorem splitSlash_ne_nil (path : Bytes) : splitSlash path ≠ [] := by
  cases path with
  | nil => simp [splitSlash]
  | cons byte rest =>
      by_cases atSlash : byte = slash
      · simp [splitSlash, atSlash]
      · cases split : splitSlash rest <;> simp [splitSlash, atSlash, split]

theorem splitSlash_append (left right : Bytes) :
    splitSlash (left ++ slash :: right) = splitSlash left ++ splitSlash right := by
  induction left with
  | nil => simp [splitSlash]
  | cons byte rest ih =>
      by_cases atSlash : byte = slash
      · simp [splitSlash, atSlash, ih]
      · cases split : splitSlash rest with
        | nil => exact absurd split (splitSlash_ne_nil rest)
        | cons first others => simp [splitSlash, atSlash, ih, split]

theorem splitSlash_of_noSlash {path : Bytes} (noSlash : slash ∉ path) :
    splitSlash path = [path] := by
  induction path with
  | nil => rfl
  | cons byte rest ih =>
      simp only [List.mem_cons, not_or] at noSlash
      simp [splitSlash, Ne.symm noSlash.1, ih noSlash.2]

theorem noSlash_of_mem_splitSlash {path component : Bytes}
    (member : component ∈ splitSlash path) : slash ∉ component := by
  induction path generalizing component with
  | nil =>
      have empty : component = [] := by simpa [splitSlash] using member
      simp [empty]
  | cons byte rest ih =>
      by_cases atSlash : byte = slash
      · simp only [splitSlash, atSlash, if_true, List.mem_cons] at member
        rcases member with rfl | inside
        · simp
        · exact ih inside
      · cases split : splitSlash rest with
        | nil => exact absurd split (splitSlash_ne_nil rest)
        | cons first others =>
            simp only [splitSlash, atSlash, if_false, split, List.mem_cons] at member
            rcases member with rfl | inside
            · have clear : slash ∉ first := ih (by simp [split])
              simp [clear, Ne.symm atSlash]
            · exact ih (by simp [split, inside])

theorem splitSlash_joinSlash {components : List Bytes} (nonempty : components ≠ [])
    (noSlash : ∀ component ∈ components, slash ∉ component) :
    splitSlash (joinSlash components) = components := by
  induction components with
  | nil => exact absurd rfl nonempty
  | cons first rest ih =>
      cases rest with
      | nil => simpa [joinSlash] using splitSlash_of_noSlash (noSlash first (by simp))
      | cons second others =>
          have tail := ih (by simp) fun component member => noSlash component (by simp [member])
          simp only [joinSlash, splitSlash_append, tail,
            splitSlash_of_noSlash (noSlash first (by simp)), List.singleton_append]

theorem joinSlash_append {left right : List Bytes} (leftNonempty : left ≠ [])
    (rightNonempty : right ≠ []) :
    joinSlash (left ++ right) = joinSlash left ++ slash :: joinSlash right := by
  induction left with
  | nil => exact absurd rfl leftNonempty
  | cons first rest ih =>
      cases rest with
      | nil =>
          cases right with
          | nil => exact absurd rfl rightNonempty
          | cons second others => rfl
      | cons second others =>
          have tail := ih (by simp)
          simp only [List.cons_append] at tail ⊢
          simp [joinSlash, tail]

theorem joinSlash_ne_nil {first : Bytes} {rest : List Bytes} (nonempty : first ≠ []) :
    joinSlash (first :: rest) ≠ [] := by
  cases rest with
  | nil => simpa [joinSlash] using nonempty
  | cons second others => simp [joinSlash]

theorem head_joinSlash {first : Bytes} {rest : List Bytes} (nonempty : first ≠ []) :
    (joinSlash (first :: rest)).head? = first.head? := by
  cases rest with
  | nil => rfl
  | cons second others =>
      cases first with
      | nil => exact absurd rfl nonempty
      | cons byte bytes => rfl

theorem pathIsAbs_joinSlash {first : Bytes} {rest : List Bytes} (nonempty : first ≠ [])
    (noSlash : slash ∉ first) : pathIsAbs (joinSlash (first :: rest)) = false := by
  simp only [pathIsAbs, head_joinSlash nonempty]
  cases first with
  | nil => exact absurd rfl nonempty
  | cons byte bytes =>
      have different : byte ≠ slash := by
        rintro rfl
        exact noSlash (by simp)
      simpa using different

/-- A stack of components, the last one on top, as `path.Clean` leaves it: proper names
above the steps that lead out of the starting directory. -/
def Cleaned (kept : List Bytes) : Prop :=
  ∃ names ups, kept = names ++ List.replicate ups dotDot ∧ ∀ name ∈ names, ProperName name

theorem Cleaned.step {kept : List Bytes} (cleaned : Cleaned kept) {component : Bytes}
    (noSlash : slash ∉ component) : Cleaned (cleanStep false kept component) := by
  obtain ⟨names, ups, rfl, proper⟩ := cleaned
  by_cases skipped : component = [] ∨ component = dot
  · exact ⟨names, ups, by simp [cleanStep, skipped], proper⟩
  by_cases up : component = dotDot
  · cases names with
    | nil =>
        refine ⟨[], ups + 1, ?_, by simp⟩
        cases ups with
        | zero => simp [cleanStep, up, dot, dotDot]
        | succ more => simp [cleanStep, up, dot, dotDot, List.replicate_succ]
    | cons top rest =>
        refine ⟨rest, ups, ?_, fun name member => proper name (by simp [member])⟩
        have different := (proper top (by simp)).notDotDot
        subst up
        simp [cleanStep, skipped, different]
  · simp only [not_or] at skipped
    refine ⟨component :: names, ups, by simp [cleanStep, skipped, up], ?_⟩
    intro name member
    rcases List.mem_cons.mp member with rfl | inside
    · exact ⟨skipped.1, skipped.2, up, noSlash⟩
    · exact proper name inside

theorem Cleaned.foldl {components kept : List Bytes} (cleaned : Cleaned kept)
    (noSlash : ∀ component ∈ components, slash ∉ component) :
    Cleaned (components.foldl (cleanStep false) kept) := by
  induction components generalizing kept with
  | nil => exact cleaned
  | cons first rest ih =>
      exact ih (cleaned.step (noSlash first (by simp)))
        fun component member => noSlash component (by simp [member])

theorem Cleaned.nonempty {kept : List Bytes} (cleaned : Cleaned kept) {component : Bytes}
    (member : component ∈ kept) : component ≠ [] ∧ slash ∉ component := by
  obtain ⟨names, ups, rfl, proper⟩ := cleaned
  rcases List.mem_append.mp member with name | up
  · exact ⟨(proper component name).nonempty, (proper component name).noSlash⟩
  · rw [List.eq_of_mem_replicate up]
    decide

theorem foldl_cleanStep_names {names kept : List Bytes}
    (proper : ∀ name ∈ names, ProperName name) :
    names.foldl (cleanStep false) kept = names.reverse ++ kept := by
  induction names generalizing kept with
  | nil => rfl
  | cons first rest ih =>
      have firstProper := proper first (by simp)
      have pushed : cleanStep false kept first = first :: kept := by
        simp [cleanStep, firstProper.nonempty, firstProper.notDot, firstProper.notDotDot]
      simp [pushed, ih fun name member => proper name (by simp [member])]

theorem foldl_cleanStep_ups (ups before : Nat) :
    (List.replicate ups dotDot).foldl (cleanStep false) (List.replicate before dotDot) =
      List.replicate (before + ups) dotDot := by
  induction ups generalizing before with
  | zero => rfl
  | succ ups ih =>
      have pushed : cleanStep false (List.replicate before dotDot) dotDot =
          List.replicate (before + 1) dotDot := by
        cases before with
        | zero => simp [cleanStep, dot, dotDot]
        | succ more => simp [cleanStep, dot, dotDot, List.replicate_succ]
      rw [List.replicate_succ (n := ups), List.foldl_cons, pushed, ih]
      congr 1
      omega

theorem Cleaned.foldl_reverse {kept : List Bytes} (cleaned : Cleaned kept) :
    kept.reverse.foldl (cleanStep false) [] = kept := by
  obtain ⟨names, ups, rfl, proper⟩ := cleaned
  have upward := foldl_cleanStep_ups ups 0
  simp only [List.replicate_zero, Nat.zero_add] at upward
  rw [List.reverse_append, List.reverse_replicate, List.foldl_append, upward,
    foldl_cleanStep_names fun name member => proper name (by simpa using member),
    List.reverse_reverse]

def keptOf (path : Bytes) : List Bytes := (splitSlash path).foldl (cleanStep false) []

theorem keptOf_cleaned (path : Bytes) : Cleaned (keptOf path) :=
  Cleaned.foldl ⟨[], 0, rfl, by simp⟩ fun _ member => noSlash_of_mem_splitSlash member

theorem keptOf_append (left right : Bytes) :
    keptOf (left ++ slash :: right) =
      (splitSlash right).foldl (cleanStep false) (keptOf left) := by
  simp [keptOf, splitSlash_append]

theorem Cleaned.joinSlash_ne_nil {kept : List Bytes} (cleaned : Cleaned kept)
    (nonempty : kept ≠ []) : joinSlash kept.reverse ≠ [] := by
  cases reversed : kept.reverse with
  | nil => exact absurd (by simpa using reversed) nonempty
  | cons first rest =>
      have member : first ∈ kept := by
        rw [← List.mem_reverse, reversed]
        simp
      exact S3Disk.joinSlash_ne_nil (cleaned.nonempty member).1

theorem pathClean_eq {path : Bytes} (relative : pathIsAbs path = false) :
    pathClean path = if keptOf path = [] then dot else joinSlash (keptOf path).reverse := by
  have unfolded : pathClean path = if joinSlash (keptOf path).reverse = [] then dot
      else joinSlash (keptOf path).reverse := by
    by_cases empty : joinSlash (keptOf path).reverse = []
    · have folded : joinSlash ((splitSlash path).foldl (cleanStep false) []).reverse = [] := empty
      simp [pathClean, relative, folded, empty]
    · have folded : joinSlash ((splitSlash path).foldl (cleanStep false) []).reverse ≠ [] := empty
      simp [pathClean, relative, folded, keptOf]
  rw [unfolded]
  by_cases empty : keptOf path = []
  · simp [empty, joinSlash]
  · simp [empty, (keptOf_cleaned path).joinSlash_ne_nil empty]

theorem splitSlash_pathClean {path : Bytes} (relative : pathIsAbs path = false)
    (nonempty : keptOf path ≠ []) : splitSlash (pathClean path) = (keptOf path).reverse := by
  rw [pathClean_eq relative, if_neg nonempty]
  refine splitSlash_joinSlash (by simpa using nonempty) ?_
  intro component member
  exact ((keptOf_cleaned path).nonempty (List.mem_reverse.mp member)).2

theorem keptOf_pathClean {path : Bytes} (relative : pathIsAbs path = false) :
    keptOf (pathClean path) = keptOf path := by
  by_cases empty : keptOf path = []
  · rw [pathClean_eq relative, if_pos empty, empty]
    decide
  · rw [keptOf, splitSlash_pathClean relative empty]
    exact (keptOf_cleaned path).foldl_reverse

theorem pathIsAbs_pathClean {path : Bytes} (relative : pathIsAbs path = false) :
    pathIsAbs (pathClean path) = false := by
  rw [pathClean_eq relative]
  by_cases empty : keptOf path = []
  · rw [if_pos empty]
    decide
  · rw [if_neg empty]
    cases reversed : (keptOf path).reverse with
    | nil => exact absurd (by simpa using reversed) empty
    | cons first rest =>
        have member : first ∈ keptOf path := by
          rw [← List.mem_reverse, reversed]
          simp
        have facts := (keptOf_cleaned path).nonempty member
        exact pathIsAbs_joinSlash facts.1 facts.2

theorem Cleaned.head_reverse {kept : List Bytes} (cleaned : Cleaned kept)
    (up : dotDot ∈ kept) : ∃ rest, kept.reverse = dotDot :: rest := by
  obtain ⟨names, ups, rfl, proper⟩ := cleaned
  cases ups with
  | zero => exact absurd rfl (proper dotDot (by simpa using up)).notDotDot
  | succ more =>
      exact ⟨List.replicate more dotDot ++ names.reverse, by
        rw [List.reverse_append, List.reverse_replicate, List.replicate_succ, List.cons_append]⟩

theorem escapes_of_dotDot {path : Bytes} (relative : pathIsAbs path = false)
    (up : dotDot ∈ keptOf path) : escapes (pathClean path) = true := by
  obtain ⟨rest, reversed⟩ := (keptOf_cleaned path).head_reverse up
  have nonempty : keptOf path ≠ [] := List.ne_nil_of_mem up
  rw [pathClean_eq relative, if_neg nonempty, reversed]
  cases rest with
  | nil => simp [escapes, joinSlash]
  | cons second others => simp [escapes, joinSlash, dotDot]

theorem keptOf_joinSlash {names : List Bytes} (proper : ∀ name ∈ names, ProperName name) :
    keptOf (joinSlash names) = names.reverse := by
  cases names with
  | nil => decide
  | cons first rest =>
      rw [keptOf, splitSlash_joinSlash (by simp) fun name member => (proper name member).noSlash,
        foldl_cleanStep_names proper, List.append_nil]

theorem pathIsAbs_names {names : List Bytes} (proper : ∀ name ∈ names, ProperName name) :
    pathIsAbs (joinSlash names) = false := by
  cases names with
  | nil => rfl
  | cons first rest =>
      have firstProper := proper first (by simp)
      exact pathIsAbs_joinSlash firstProper.nonempty firstProper.noSlash

theorem dropWhile_reverse_append (left : Bytes) {name : Bytes} (noSlash : slash ∉ name) :
    ((left ++ slash :: name).reverse.dropWhile (· ≠ slash)).reverse = left ++ [slash] := by
  have skipped : ∀ byte ∈ name.reverse, decide (byte ≠ slash) = true := by
    intro byte member
    have different : byte ≠ slash := by
      rintro rfl
      exact noSlash (by simpa using member)
    simpa using different
  rw [List.reverse_append, List.reverse_cons, List.append_assoc,
    List.dropWhile_append_of_pos skipped]
  simp

theorem pathDir_names {names : List Bytes} {name : Bytes}
    (proper : ∀ other ∈ names, ProperName other) (noSlash : slash ∉ name) :
    pathDir (joinSlash (names ++ [name])) = if names = [] then dot else joinSlash names := by
  by_cases top : names = []
  · subst top
    have skipped : name.reverse.dropWhile (· ≠ slash) = [] := by
      rw [List.dropWhile_eq_nil_iff]
      intro byte member
      have different : byte ≠ slash := by
        rintro rfl
        exact noSlash (by simpa using member)
      simpa using different
    simp only [List.nil_append, joinSlash, pathDir, skipped]
    decide
  · have joined : joinSlash (names ++ [name]) = joinSlash names ++ slash :: name := by
      rw [joinSlash_append top (by simp)]
      rfl
    have kept : keptOf (joinSlash names ++ [slash]) = names.reverse := by
      rw [keptOf_append, keptOf_joinSlash proper]
      simp [splitSlash, cleanStep]
    have relative : pathIsAbs (joinSlash names ++ [slash]) = false := by
      cases names with
      | nil => exact absurd rfl top
      | cons first rest =>
          have firstProper := proper first (by simp)
          have start := pathIsAbs_names proper
          have present : joinSlash (first :: rest) ≠ [] :=
            S3Disk.joinSlash_ne_nil firstProper.nonempty
          cases joinedPath : joinSlash (first :: rest) with
          | nil => exact absurd joinedPath present
          | cons byte bytes => simpa [joinedPath, pathIsAbs] using start
    rw [if_neg top, pathDir, joined, dropWhile_reverse_append _ noSlash, pathClean_eq relative,
      kept, if_neg (by simpa using top), List.reverse_reverse]

theorem keptOf_pathJoin {names : List Bytes} {name target : Bytes}
    (proper : ∀ other ∈ names, ProperName other) (noSlash : slash ∉ name)
    (nonempty : target ≠ []) :
    pathIsAbs (pathJoin (pathDir (joinSlash (names ++ [name]))) target) = false ∧
      keptOf (pathJoin (pathDir (joinSlash (names ++ [name]))) target) =
        (splitSlash target).foldl (cleanStep false) names.reverse := by
  have directory : ∃ path, pathDir (joinSlash (names ++ [name])) = path ∧ path ≠ [] ∧
      pathIsAbs path = false ∧ keptOf path = names.reverse := by
    rw [pathDir_names proper noSlash]
    by_cases top : names = []
    · rw [if_pos top, top]
      exact ⟨dot, rfl, by decide, by decide, by decide⟩
    · refine ⟨_, rfl, ?_, ?_, ?_⟩
      · rw [if_neg top]
        obtain ⟨first, rest, rfl⟩ := List.exists_cons_of_ne_nil top
        exact S3Disk.joinSlash_ne_nil (proper first (by simp)).nonempty
      · rw [if_neg top]
        exact pathIsAbs_names proper
      · rw [if_neg top]
        exact keptOf_joinSlash proper
  obtain ⟨path, same, present, relative, kept⟩ := directory
  have whole : pathIsAbs (path ++ slash :: target) = false := by
    obtain ⟨byte, bytes, rfl⟩ := List.exists_cons_of_ne_nil present
    simpa [pathIsAbs] using relative
  have joined : pathJoin path target = pathClean (path ++ slash :: target) := by
    simp [pathJoin, present, nonempty]
  rw [same, joined, keptOf_pathClean whole, keptOf_append, kept]
  exact ⟨pathIsAbs_pathClean whole, rfl⟩

theorem validateSafeSymlink_ok {names : List Bytes} {name target : Bytes}
    (proper : ∀ other ∈ names, ProperName other) (noSlash : slash ∉ name)
    (safe : validateSafeSymlink (joinSlash (names ++ [name])) target = .ok ()) :
    pathIsAbs target = false ∧
      dotDot ∉ (splitSlash target).foldl (cleanStep false) names.reverse := by
  unfold validateSafeSymlink at safe
  split at safe
  · cases safe
  rename_i present
  split at safe
  · cases safe
  rename_i portable
  split at safe
  · cases safe
  split at safe
  · cases safe
  rename_i inside
  simp only [not_or] at present portable
  obtain ⟨relative, kept⟩ := keptOf_pathJoin proper noSlash present.1
  refine ⟨by simpa using portable.2.1, ?_⟩
  intro up
  apply inside
  rw [← kept] at up
  exact escapes_of_dotDot relative up

end S3Disk
