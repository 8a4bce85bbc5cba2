import Mathlib.Data.List.AList

/-! The total weight of the entries of a finite map, as keys come and go. -/

namespace Totals

universe u v

variable {α : Type u} {β : α → Type v}

def weigh (weight : Sigma β → Nat) : List (Sigma β) → Nat
  | [] => 0
  | entry :: rest => weight entry + weigh weight rest

@[simp] theorem weigh_nil {weight : Sigma β → Nat} : weigh weight [] = 0 := rfl

@[simp] theorem weigh_cons {weight : Sigma β → Nat} {entry : Sigma β} {rest : List (Sigma β)} :
    weigh weight (entry :: rest) = weight entry + weigh weight rest := rfl

theorem weigh_append {weight : Sigma β → Nat} {before after : List (Sigma β)} :
    weigh weight (before ++ after) = weigh weight before + weigh weight after := by
  induction before with
  | nil => simp
  | cons entry rest ih =>
      simp only [List.cons_append, weigh_cons, ih]
      omega

def total (weight : Sigma β → Nat) (map : AList β) : Nat := weigh weight map.entries

def size (map : AList β) : Nat := map.entries.length

variable {weight : Sigma β → Nat} {map : AList β} {key : α} {value : β key}

@[simp] theorem total_empty : total weight (∅ : AList β) = 0 := rfl

@[simp] theorem size_empty : size (∅ : AList β) = 0 := rfl

theorem size_eq_total : size map = total (fun _ => 1) map := by
  unfold size total
  induction map.entries with
  | nil => rfl
  | cons entry rest ih =>
      rw [List.length_cons, weigh_cons, ih]
      omega

variable [DecidableEq α]

theorem total_insert (fresh : key ∉ map) :
    total weight (map.insert key value) = total weight map + weight ⟨key, value⟩ := by
  simp only [total, AList.entries_insert_of_notMem fresh, weigh_cons]
  omega

theorem total_erase (found : map.lookup key = some value) :
    total weight (map.erase key) + weight ⟨key, value⟩ = total weight map := by
  have present : key ∈ map := AList.lookup_isSome.mp (by simp [found])
  obtain ⟨stored, before, after, absent, split, erased⟩ :=
    List.exists_of_kerase (AList.mem_keys.mp present)
  have same : stored = value := by
    have looked : map.lookup key = some stored := by
      simp only [AList.lookup, split, List.dlookup_append]
      rw [List.dlookup_eq_none.mpr absent]
      simp
    rw [found] at looked
    exact (Option.some.inj looked).symm
  subst same
  have entries : (map.erase key).entries = before ++ after := erased
  simp only [total, entries, split, weigh_append, weigh_cons]
  omega

theorem size_insert (fresh : key ∉ map) : size (map.insert key value) = size map + 1 := by
  rw [size_eq_total, size_eq_total, total_insert fresh]

theorem size_erase (found : map.lookup key = some value) :
    size (map.erase key) + 1 = size map := by
  rw [size_eq_total, size_eq_total, ← total_erase found]

end Totals
