import Mathlib.Data.Option.Basic

/-! Path resolution through symbolic links, one component at a time: a name is looked
up in the directory actually reached, a link is replaced by its target, and a step up
goes to the parent of that directory. When does it stay below the root? -/

namespace Resolution

inductive Component (Name : Type) where
  | up
  | into (name : Name)
  deriving DecidableEq, Repr

inductive Node (Name : Type) where
  | directory
  | leaf
  | link (target : List (Component Name))
  | absolute
  deriving DecidableEq, Repr

abbrev Tree (Name : Type) := List Name → Option (Node Name)

structure Walk (Name : Type) where
  here : List Name
  rest : List (Component Name)
  deriving DecidableEq, Repr

inductive Outcome (Name : Type) where
  | walking (walk : Walk Name)
  | stopped
  | left
  deriving DecidableEq, Repr

section

variable {Name : Type} (tree : Tree Name)

def step : Walk Name → Outcome Name
  | ⟨_, []⟩ => .stopped
  | ⟨[], .up :: _⟩ => .left
  | ⟨_ :: above, .up :: rest⟩ => .walking ⟨above, rest⟩
  | ⟨here, .into name :: rest⟩ => match tree (name :: here) with
      | some .directory => .walking ⟨name :: here, rest⟩
      | some (.link target) => .walking ⟨here, target ++ rest⟩
      | some .absolute => .left
      | some .leaf => .stopped
      | none => .stopped

def run : Nat → Walk Name → Outcome Name
  | 0, walk => .walking walk
  | steps + 1, walk => match step tree walk with
      | .walking next => run steps next
      | .stopped => .stopped
      | .left => .left

def Below : List Name → List (Component Name) → Prop
  | _, [] => True
  | [], .up :: _ => False
  | _ :: above, .up :: rest => Below above rest
  | here, .into name :: rest => Below (name :: here) rest

def Straight : List Name → List (Component Name) → Prop
  | _, [] => True
  | here, .up :: rest => Straight here.tail rest
  | here, .into name :: rest =>
      (.up ∈ rest → ∀ target, tree (name :: here) ≠ some (.link target)) ∧
        Straight (name :: here) rest

/-- Every link stays below the root when it is read from its own directory, and no link
crosses another one before a step up. -/
structure Contained : Prop where
  relative : ∀ path, tree path ≠ some .absolute
  below : ∀ name here target, tree (name :: here) = some (.link target) → Below here target
  straight : ∀ name here target, tree (name :: here) = some (.link target) →
    Straight tree here target

variable {tree}

theorem below_of_no_up {here : List Name} {rest : List (Component Name)} (flat : .up ∉ rest) :
    Below here rest := by
  induction rest generalizing here with
  | nil => trivial
  | cons component rest ih =>
      simp only [List.mem_cons, not_or] at flat
      cases component with
      | up => exact absurd rfl flat.1
      | into name => exact ih flat.2

theorem straight_of_no_up {here : List Name} {rest : List (Component Name)} (flat : .up ∉ rest) :
    Straight tree here rest := by
  induction rest generalizing here with
  | nil => trivial
  | cons component rest ih =>
      simp only [List.mem_cons, not_or] at flat
      cases component with
      | up => exact absurd rfl flat.1
      | into name => exact ⟨fun later => absurd later flat.2, ih flat.2⟩

theorem Below.append {here : List Name} {target rest : List (Component Name)}
    (below : Below here target) (flat : .up ∉ rest) : Below here (target ++ rest) := by
  induction target generalizing here with
  | nil => exact below_of_no_up flat
  | cons component target ih =>
      cases component with
      | up =>
          cases here with
          | nil => exact below
          | cons name above => exact ih below
      | into name => exact ih below

theorem Straight.append {here : List Name} {target rest : List (Component Name)}
    (straight : Straight tree here target) (flat : .up ∉ rest) :
    Straight tree here (target ++ rest) := by
  induction target generalizing here with
  | nil => exact straight_of_no_up flat
  | cons component target ih =>
      cases component with
      | up => exact ih straight
      | into name =>
          refine ⟨?_, ih straight.2⟩
          intro later
          have inTarget : .up ∈ target := by simpa [flat] using later
          exact straight.1 inTarget

/-- The invariant of a walk: what is left of the path, read as if it had no links, stays
below the root and meets no link before a step up. -/
def Walk.Safe (tree : Tree Name) (walk : Walk Name) : Prop :=
  Below walk.here walk.rest ∧ Straight tree walk.here walk.rest

theorem step_safe (contained : Contained tree) {walk : Walk Name} (safe : walk.Safe tree) :
    step tree walk = .stopped ∨ ∃ next, step tree walk = .walking next ∧ next.Safe tree := by
  obtain ⟨here, rest⟩ := walk
  obtain ⟨below, straight⟩ := safe
  cases rest with
  | nil => exact .inl rfl
  | cons component rest =>
      cases component with
      | up =>
          cases here with
          | nil => exact absurd below id
          | cons name above => exact .inr ⟨⟨above, rest⟩, rfl, below, straight⟩
      | into name =>
          cases found : tree (name :: here) with
          | none => exact .inl (by simp [step, found])
          | some node =>
              cases node with
              | leaf => exact .inl (by simp [step, found])
              | absolute => exact absurd found (contained.relative _)
              | directory =>
                  exact .inr ⟨⟨name :: here, rest⟩, by simp [step, found], below, straight.2⟩
              | link target =>
                  -- The path crosses a link here, so no step up is left behind it.
                  have flat : .up ∉ rest := fun later => straight.1 later target found
                  exact .inr ⟨⟨here, target ++ rest⟩, by simp [step, found],
                    (contained.below name here target found).append flat,
                    (contained.straight name here target found).append flat⟩

theorem run_not_left (contained : Contained tree) (steps : Nat) {walk : Walk Name}
    (safe : walk.Safe tree) : run tree steps walk ≠ .left := by
  induction steps generalizing walk with
  | zero => simp [run]
  | succ steps ih =>
      rcases step_safe contained safe with stopped | ⟨next, walked, nextSafe⟩
      · simp [run, stopped]
      · simpa [run, walked] using ih nextSafe

end

end Resolution
