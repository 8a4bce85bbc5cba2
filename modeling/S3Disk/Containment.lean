import S3Disk.Library.Resolution
import S3Disk.Manifests

/-! Symbolic links in a snapshot. The check of a link is lexical; resolution goes
through the other links of the tree. -/

namespace S3Disk

open Resolution

structure SnapshotTree where
  root : Digest
  directory : Digest → Option DirManifest
  symlink : Digest → Option SymlinkManifest
  valid : ∀ digest manifest, directory digest = some manifest →
    validateDirectoryManifest manifest = .ok ()

namespace SnapshotTree

variable (tree : SnapshotTree)

def directoryAt : List Bytes → Option DirManifest
  | [] => tree.directory tree.root
  | name :: above => do
      let manifest ← directoryAt above
      let entry ← manifest.entries.find? (·.name = name)
      if entry.type = .directory then tree.directory entry.node else none

def entryAt : List Bytes → Option DirEntry
  | [] => none
  | name :: above => do
      let manifest ← tree.directoryAt above
      manifest.entries.find? (·.name = name)

def linkAt (path : List Bytes) : Option Bytes := do
  let entry ← tree.entryAt path
  if entry.type = .symlink then (tree.symlink entry.node).map (·.target) else none

end SnapshotTree

def componentsOf (path : Bytes) : List (Component Bytes) :=
  (splitSlash path).filterMap fun component =>
    if component = [] ∨ component = dot then none
    else if component = dotDot then some .up
    else some (.into component)

def linkNode (target : Bytes) : Node Bytes :=
  if pathIsAbs target then .absolute else .link (componentsOf target)

def SnapshotTree.posix (tree : SnapshotTree) : Resolution.Tree Bytes := fun path => do
  let entry ← tree.entryAt path
  match entry.type with
  | .directory => some .directory
  | .file => some .leaf
  | .symlink => (tree.linkAt path).map linkNode

def SnapshotTree.LinksSafe (tree : SnapshotTree) : Prop :=
  ∀ path target, tree.linkAt path = some target →
    validateSafeSymlink (joinSlash path.reverse) target = .ok ()

def SnapshotTree.LinksStraight (tree : SnapshotTree) : Prop :=
  ∀ name here target, tree.linkAt (name :: here) = some target →
    Straight tree.posix here (componentsOf target)

theorem SnapshotTree.directoryAt_valid {tree : SnapshotTree} {path : List Bytes}
    {manifest : DirManifest} (found : tree.directoryAt path = some manifest) :
    DirectoryValid manifest := by
  cases path with
  | nil => exact validateDirectoryManifest_ok.mp (tree.valid _ _ found)
  | cons name above =>
      simp only [directoryAt, Option.bind_eq_bind, Option.bind_eq_some_iff] at found
      obtain ⟨_, _, entry, _, loaded⟩ := found
      split at loaded
      · exact validateDirectoryManifest_ok.mp (tree.valid _ _ loaded)
      · cases loaded

theorem SnapshotTree.entryAt_name {tree : SnapshotTree} {name : Bytes} {above : List Bytes}
    {entry : DirEntry} (found : tree.entryAt (name :: above) = some entry) :
    ∃ manifest, tree.directoryAt above = some manifest ∧ ProperName name := by
  simp only [entryAt, Option.bind_eq_bind, Option.bind_eq_some_iff] at found
  obtain ⟨manifest, parent, located⟩ := found
  have named : entry.name = name := by simpa using List.find?_some located
  refine ⟨manifest, parent, ?_⟩
  rw [← named]
  exact ((directoryAt_valid parent).entries entry (List.mem_of_find?_eq_some located)).proper

theorem SnapshotTree.directoryAt_names {tree : SnapshotTree} {path : List Bytes}
    {manifest : DirManifest} (found : tree.directoryAt path = some manifest) :
    ∀ name ∈ path, ProperName name := by
  induction path generalizing manifest with
  | nil => simp
  | cons name above ih =>
      simp only [directoryAt, Option.bind_eq_bind, Option.bind_eq_some_iff] at found
      obtain ⟨parent, parentFound, entry, located, _⟩ := found
      have stands : tree.entryAt (name :: above) = some entry := by
        simp [entryAt, parentFound, located]
      obtain ⟨_, _, proper⟩ := entryAt_name stands
      intro other member
      rcases List.mem_cons.mp member with rfl | inside
      · exact proper
      · exact ih parentFound other inside

theorem dotDot_mem_cleanStep {kept : List Bytes} (up : dotDot ∈ kept) (component : Bytes) :
    dotDot ∈ cleanStep false kept component := by
  unfold cleanStep
  split
  · exact up
  · split
    · cases kept with
      | nil => simp at up
      | cons top rest =>
          by_cases same : top = dotDot
          · simp [same]
          · simpa [same, Ne.symm same] using up
    · simp [up]

theorem dotDot_mem_foldl {components kept : List Bytes} (up : dotDot ∈ kept) :
    dotDot ∈ components.foldl (cleanStep false) kept := by
  induction components generalizing kept with
  | nil => exact up
  | cons first rest ih => exact ih (dotDot_mem_cleanStep up first)

theorem below_of_cleaned {components here : List Bytes} (inside : dotDot ∉ here)
    (kept : dotDot ∉ components.foldl (cleanStep false) here) :
    Below here (components.filterMap fun component =>
      if component = [] ∨ component = dot then none
      else if component = dotDot then some .up
      else some (.into component)) := by
  induction components generalizing here with
  | nil => trivial
  | cons first rest ih =>
      simp only [List.foldl_cons] at kept
      by_cases skipped : first = [] ∨ first = dot
      · have same : cleanStep false here first = here := by simp [cleanStep, skipped]
        rw [same] at kept
        simpa [skipped] using ih inside kept
      by_cases up : first = dotDot
      · subst up
        cases here with
        | nil =>
            have pushed : dotDot ∈ cleanStep false [] dotDot := by decide
            exact absurd (dotDot_mem_foldl pushed) kept
        | cons top above =>
            simp only [List.mem_cons, not_or] at inside
            have popped : cleanStep false (top :: above) dotDot = above := by
              simp [cleanStep, skipped, Ne.symm inside.1]
            rw [popped] at kept
            simpa [skipped, Below] using ih inside.2 kept
      · have pushed : cleanStep false here first = first :: here := by
          simp [cleanStep, skipped, up]
        rw [pushed] at kept
        have rest := ih (by simp [inside, Ne.symm up]) kept
        cases here with
        | nil => simpa [skipped, up, Below] using rest
        | cons top above => simpa [skipped, up, Below] using rest

theorem SnapshotTree.posix_link {tree : SnapshotTree} {path : List Bytes} {node : Node Bytes}
    (found : tree.posix path = some node) :
    node = .directory ∨ node = .leaf ∨ ∃ target, tree.linkAt path = some target ∧
      node = linkNode target := by
  simp only [posix, Option.bind_eq_bind, Option.bind_eq_some_iff] at found
  obtain ⟨entry, _, shown⟩ := found
  cases type : entry.type with
  | directory => exact .inl (by simpa [type] using shown.symm)
  | file => exact .inr (.inl (by simpa [type] using shown.symm))
  | symlink =>
      simp only [type, Option.map_eq_some_iff] at shown
      obtain ⟨target, linked, same⟩ := shown
      exact .inr (.inr ⟨target, linked, same.symm⟩)

theorem SnapshotTree.link_facts {tree : SnapshotTree} (safe : tree.LinksSafe) {path : List Bytes}
    {target : Bytes} (linked : tree.linkAt path = some target) :
    ∃ name here, path = name :: here ∧ pathIsAbs target = false ∧
      Below here (componentsOf target) := by
  cases path with
  | nil => simp [linkAt, entryAt] at linked
  | cons name here =>
      have checked := safe _ _ linked
      simp only [linkAt, Option.bind_eq_bind, Option.bind_eq_some_iff] at linked
      obtain ⟨entry, found, _⟩ := linked
      obtain ⟨manifest, parent, proper⟩ := entryAt_name found
      have names := directoryAt_names parent
      rw [List.reverse_cons] at checked
      obtain ⟨relative, kept⟩ := validateSafeSymlink_ok
        (fun other member => names other (List.mem_reverse.mp member)) proper.noSlash checked
      rw [List.reverse_reverse] at kept
      exact ⟨name, here, rfl, relative,
        below_of_cleaned (fun up => (names dotDot up).notDotDot rfl) kept⟩

def crossingTarget (climbs : Bool) : Bytes := ascii (if climbs then "d/up/.." else "d/up")

def crossingTop (climbs : Bool) : DirManifest :=
  ⟨objectFormatVersion, [⟨ascii "d", .directory, ⟨[2]⟩, 0o755, 0, 0⟩,
    ⟨ascii "w", .symlink, ⟨[3]⟩, 0o777, (crossingTarget climbs).length, 0⟩]⟩

def crossingBelow : DirManifest :=
  ⟨objectFormatVersion, [⟨ascii "up", .symlink, ⟨[4]⟩, 0o777, 2, 0⟩]⟩

def crossingLinks (climbs : Bool) : SnapshotTree where
  root := ⟨[1]⟩
  directory digest :=
    if digest = ⟨[1]⟩ then some (crossingTop climbs)
    else if digest = ⟨[2]⟩ then some crossingBelow
    else none
  symlink digest :=
    if digest = ⟨[3]⟩ then some ⟨objectFormatVersion, crossingTarget climbs⟩
    else if digest = ⟨[4]⟩ then some ⟨objectFormatVersion, dotDot⟩
    else none
  valid digest manifest found := by
    split at found
    · cases found
      revert climbs
      decide
    · split at found
      · cases found
        decide
      · cases found

theorem crossingLinks_directoryAt {climbs : Bool} {path : List Bytes} {manifest : DirManifest}
    (found : (crossingLinks climbs).directoryAt path = some manifest) :
    (path = [] ∧ manifest = crossingTop climbs) ∨
      (path = [ascii "d"] ∧ manifest = crossingBelow) := by
  induction path generalizing manifest with
  | nil => exact .inl ⟨rfl, (Option.some.inj found).symm⟩
  | cons name above ih =>
      simp only [SnapshotTree.directoryAt, Option.bind_eq_bind, Option.bind_eq_some_iff] at found
      obtain ⟨parent, parentFound, entry, located, loaded⟩ := found
      have listed := List.mem_of_find?_eq_some located
      have named : entry.name = name := by simpa using List.find?_some located
      rcases ih parentFound with ⟨rfl, rfl⟩ | ⟨rfl, rfl⟩
      · simp only [crossingTop, List.mem_cons, List.not_mem_nil, or_false] at listed
        rcases listed with rfl | rfl
        · refine .inr ⟨by rw [← named], ?_⟩
          exact (Option.some.inj loaded).symm
        · cases loaded
      · simp only [crossingBelow, List.mem_cons, List.not_mem_nil, or_false] at listed
        subst listed
        cases loaded

theorem crossingLinks_linkAt {climbs : Bool} {path : List Bytes} {target : Bytes}
    (linked : (crossingLinks climbs).linkAt path = some target) :
    (path = [ascii "w"] ∧ target = crossingTarget climbs) ∨
      (path = [ascii "up", ascii "d"] ∧ target = dotDot) := by
  cases path with
  | nil => simp [SnapshotTree.linkAt, SnapshotTree.entryAt] at linked
  | cons name above =>
      simp only [SnapshotTree.linkAt, SnapshotTree.entryAt, Option.bind_eq_bind,
        Option.bind_eq_some_iff] at linked
      obtain ⟨entry, ⟨manifest, parent, located⟩, shown⟩ := linked
      have listed := List.mem_of_find?_eq_some located
      have named : entry.name = name := by simpa using List.find?_some located
      rcases crossingLinks_directoryAt parent with ⟨rfl, rfl⟩ | ⟨rfl, rfl⟩
      · simp only [crossingTop, List.mem_cons, List.not_mem_nil, or_false] at listed
        rcases listed with rfl | rfl
        · cases shown
        · exact .inl ⟨by rw [← named], (Option.some.inj shown).symm⟩
      · simp only [crossingBelow, List.mem_cons, List.not_mem_nil, or_false] at listed
        subst listed
        exact .inr ⟨by rw [← named], (Option.some.inj shown).symm⟩

theorem crossingLinks_safe (climbs : Bool) : (crossingLinks climbs).LinksSafe := by
  intro path target linked
  rcases crossingLinks_linkAt linked with ⟨rfl, rfl⟩ | ⟨rfl, rfl⟩
  · cases climbs with
    | false => decide +kernel
    | true => decide +kernel
  · decide +kernel

theorem crossingLinks_straight : (crossingLinks false).LinksStraight := by
  intro name here target linked
  rcases crossingLinks_linkAt linked with ⟨path, rfl⟩ | ⟨path, rfl⟩
  · exact straight_of_no_up (by decide +kernel)
  · obtain ⟨rfl, rfl⟩ := List.cons.inj path
    exact trivial

end S3Disk
