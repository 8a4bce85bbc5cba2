import S3Disk.Library.Interference

/-! One name in a directory of a file system that can lose power. Renaming a file to the
name is visible at once and survives a power failure only after the directory is synced;
what was written to a file survives only after the file is synced. -/

namespace Volume

open Concurrent

/-- What happened on the volume, newest first in a history. -/
inductive Change where
  | created (file : Nat)
  | wrote (file : Nat) (data : List UInt8)
  | flushed (file : Nat)
  | renamed (file : Nat)
  | synced
  | failed (survivor : Option Nat) (torn : List (Nat × List UInt8))
  deriving DecidableEq, Repr

abbrev History := List Change

def current : History → Option Nat
  | [] => none
  | .renamed file :: _ => some file
  | .failed survivor _ :: _ => survivor
  | _ :: older => current older

def survivors : History → List (Option Nat)
  | [] => [none]
  | .renamed file :: older => some file :: survivors older
  | .synced :: older => [current older]
  | .failed survivor _ :: _ => [survivor]
  | _ :: older => survivors older

def stable (file : Nat) : History → Bool
  | [] => false
  | .created made :: older => made != file && stable file older
  | .wrote written _ :: older => written != file && stable file older
  | .flushed synced :: older => synced == file || stable file older
  | _ :: older => stable file older

def contents (file : Nat) : History → List UInt8
  | [] => []
  | .created made :: older => if made = file then [] else contents file older
  | .wrote written data :: older =>
      if written = file then contents file older ++ data else contents file older
  | .failed _ torn :: older =>
      if stable file older then contents file older
      else ((torn.find? fun entry => entry.1 == file).map Prod.snd).getD []
  | _ :: older => contents file older

def Installed (file : Nat) (history : History) : Prop := .renamed file ∈ history

/-- Only a stable file is installed, an installed file is not written again, and a power
failure leaves one of the survivors. -/
def Permitted (older : History) : Change → Prop
  | .created file => ¬Installed file older
  | .wrote file _ => ¬Installed file older
  | .renamed file => stable file older = true
  | .failed survivor _ => survivor ∈ survivors older
  | _ => True

def Orderly (history : History) : Prop := Each Permitted history

inductive OnTop (history : History) (old : Nat) : Nat → Prop
  | same : OnTop history old old
  | installed {older between new} (below : OnTop history old between)
      (during : .renamed new :: older <:+ history) (visible : current older = some between) :
      OnTop history old new

variable {history older : History} {file old new : Nat}

theorem OnTop.mono (onTop : OnTop older old new) (grown : older <:+ history) :
    OnTop history old new := by
  induction onTop with
  | same => exact .same
  | installed _ during visible ih => exact .installed ih (during.trans grown) visible

def Durable (file : Nat) (history : History) : Prop :=
  current history = some file ∧ ∀ survivor ∈ survivors history, survivor = some file

theorem durable_synced (visible : current history = some file) :
    Durable file (.synced :: history) := by
  refine ⟨visible, ?_⟩
  simp [survivors, visible]

def Rests (file : Nat) (history : History) : Prop :=
  ∀ found, found = current history ∨ found ∈ survivors history →
    ∃ new, found = some new ∧ OnTop history file new

theorem Durable.rests (durable : Durable file history) : Rests file history := by
  rintro found (rfl | member)
  · exact ⟨file, durable.1, .same⟩
  · exact ⟨file, durable.2 found member, .same⟩

theorem Rests.step {change : Change} (rests : Rests file history) (permitted : Permitted history change) :
    Rests file (change :: history) := by
  have kept : ∀ found, found = current history ∨ found ∈ survivors history →
      ∃ new, found = some new ∧ OnTop (change :: history) file new := by
    intro found member
    obtain ⟨new, same, onTop⟩ := rests found member
    exact ⟨new, same, onTop.mono (List.suffix_cons _ _)⟩
  intro found member
  cases change with
  | renamed next =>
      have top : OnTop (.renamed next :: history) file next := by
        obtain ⟨below, visible, onTop⟩ := kept (current history) (.inl rfl)
        exact .installed onTop (List.suffix_refl _) visible
      simp only [current, survivors, List.mem_cons] at member
      rcases member with rfl | rfl | earlier
      · exact ⟨next, rfl, top⟩
      · exact ⟨next, rfl, top⟩
      · exact kept found (.inr earlier)
  | synced =>
      simp only [current, survivors, List.mem_cons, List.not_mem_nil, or_false, or_self] at member
      exact kept found (.inl member)
  | failed survivor torn =>
      simp only [current, survivors, List.mem_cons, List.not_mem_nil, or_false, or_self] at member
      subst member
      exact kept found (.inr permitted)
  | created made => exact kept found member
  | wrote written data => exact kept found member
  | flushed synced => exact kept found member

theorem Rests.mono (rests : Rests file older) (orderly : Orderly history)
    (grown : older <:+ history) : Rests file history := by
  induction history with
  | nil =>
      obtain rfl : older = [] := by simpa using grown
      exact rests
  | cons change history ih =>
      rcases List.suffix_cons_iff.mp grown with rfl | earlier
      · exact rests
      · exact (ih orderly.2 earlier).step orderly.1

theorem Durable.step {change : Change} (durable : Durable file history)
    (permitted : Permitted history change) (kept : ∀ next, change ≠ .renamed next) :
    Durable file (change :: history) := by
  cases change with
  | renamed next => exact absurd rfl (kept next)
  | synced => exact durable_synced durable.1
  | failed survivor torn =>
      have same : survivor = some file := durable.2 survivor permitted
      subst same
      exact ⟨rfl, by simp [survivors]⟩
  | created made => exact durable
  | wrote written data => exact durable
  | flushed synced => exact durable

theorem Durable.append {newer : History} (durable : Durable file older)
    (orderly : Orderly (newer ++ older)) (kept : ∀ next, ¬Installed next newer) :
    Durable file (newer ++ older) := by
  induction newer with
  | nil => exact durable
  | cons change newer ih =>
      have earlier : ∀ next, ¬Installed next newer :=
        fun next installed => kept next (List.mem_cons_of_mem _ installed)
      refine (ih orderly.2 earlier).step orderly.1 ?_
      rintro next rfl
      exact kept next List.mem_cons_self

theorem Installed.stable (installed : Installed file history) (orderly : Orderly history) :
    stable file history = true := by
  induction history with
  | nil => simp [Installed] at installed
  | cons change history ih =>
      have before : change ≠ .renamed file → Volume.stable file history = true := by
        intro other
        rcases List.mem_cons.mp installed with rfl | earlier
        · exact absurd rfl other
        · exact ih earlier orderly.2
      have earlier : change ≠ .renamed file → Installed file history := by
        intro other
        rcases List.mem_cons.mp installed with rfl | earlier
        · exact absurd rfl other
        · exact earlier
      cases change with
      | renamed next =>
          by_cases same : next = file
          · rw [← same]
            exact orderly.1
          · exact before (by simpa using same)
      | created made =>
          have other : made ≠ file := by
            rintro rfl
            exact orderly.1 (earlier (by simp))
          simp [Volume.stable, other, before]
      | wrote written data =>
          have other : written ≠ file := by
            rintro rfl
            exact orderly.1 (earlier (by simp))
          simp [Volume.stable, other, before]
      | flushed synced => simp [Volume.stable, before]
      | synced => exact before (by simp)
      | failed survivor torn => exact before (by simp)

theorem Installed.contents_step {change : Change} (installed : Installed file history)
    (orderly : Orderly (change :: history)) :
    contents file (change :: history) = contents file history := by
  cases change with
  | renamed next => rfl
  | synced => rfl
  | flushed synced => rfl
  | failed survivor torn => simp [contents, installed.stable orderly.2]
  | created made =>
      have other : made ≠ file := by
        rintro rfl
        exact orderly.1 installed
      simp [contents, other]
  | wrote written data =>
      have other : written ≠ file := by
        rintro rfl
        exact orderly.1 installed
      simp [contents, other]

theorem Installed.contents_eq (installed : Installed file older) (orderly : Orderly history)
    (grown : older <:+ history) : contents file history = contents file older := by
  induction history with
  | nil =>
      obtain rfl : older = [] := by simpa using grown
      rfl
  | cons change history ih =>
      rcases List.suffix_cons_iff.mp grown with rfl | earlier
      · rfl
      · have later : Installed file history := earlier.subset installed
        rw [later.contents_step orderly, ih orderly.2 earlier]

theorem installed_of_found (orderly : Orderly history)
    (found : current history = some file ∨ some file ∈ survivors history) :
    Installed file history := by
  induction history with
  | nil => simp [current, survivors] at found
  | cons change history ih =>
      have later : Installed file history → Installed file (change :: history) :=
        fun installed => List.mem_cons_of_mem _ installed
      cases change with
      | renamed next =>
          simp only [current, survivors, List.mem_cons, Option.some.injEq] at found
          rcases found with rfl | rfl | earlier
          · exact List.mem_cons_self
          · exact List.mem_cons_self
          · exact later (ih orderly.2 (.inr earlier))
      | synced =>
          simp only [current, survivors, List.mem_cons, List.not_mem_nil, or_false] at found
          exact later (ih orderly.2 (.inl (found.elim id Eq.symm)))
      | failed survivor torn =>
          simp only [current, survivors, List.mem_cons, List.not_mem_nil, or_false] at found
          have same : survivor = some file := found.elim id Eq.symm
          subst same
          exact later (ih orderly.2 (.inr orderly.1))
      | created made => exact later (ih orderly.2 found)
      | wrote written data => exact later (ih orderly.2 found)
      | flushed synced => exact later (ih orderly.2 found)

theorem OnTop.related {relation : List UInt8 → List UInt8 → Prop} (reflexive : ∀ data, relation data data)
    (transitive : ∀ {first second third}, relation first second → relation second third →
      relation first third) (orderly : Orderly history)
    (step : ∀ {older below next}, .renamed next :: older <:+ history → current older = some below →
      relation (contents below older) (contents next older))
    (onTop : OnTop history old new) : relation (contents old history) (contents new history) := by
  induction onTop with
  | same => exact reflexive _
  | @installed older between new below during visible ih =>
      have olderOrderly : Orderly (.renamed new :: older) := Each.suffix orderly during
      have grown : older <:+ history := (List.suffix_cons _ _).trans during
      have betweenInstalled : Installed between older :=
        installed_of_found olderOrderly.2 (.inl visible)
      have newInstalled : Installed new (.renamed new :: older) := List.mem_cons_self
      have betweenSame := betweenInstalled.contents_eq orderly grown
      have newSame := newInstalled.contents_eq orderly during
      have related := step during visible
      rw [← betweenSame] at related
      rw [newSame]
      exact transitive ih related

end Volume
