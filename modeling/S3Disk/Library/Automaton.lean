import Mathlib.Data.List.Basic

/-! Machines that take one step at a time. A step is a partial function of the state and of
what the schedule chose; the tasks of a machine are a table, and a total over the table follows
the entries that steps replace. -/

namespace Concurrent

structure Automaton (State Action : Type) where
  initial : State → Prop
  step : State → Action → Option State

namespace Automaton

variable {State Action : Type} {automaton : Automaton State Action}

inductive Reachable (automaton : Automaton State Action) : State → Prop
  | start {state : State} (initial : automaton.initial state) : Reachable automaton state
  | step {state later : State} {action : Action} (reached : Reachable automaton state)
      (taken : automaton.step state action = some later) : Reachable automaton later

theorem Reachable.invariant {holds : State → Prop}
    (start : ∀ state, automaton.initial state → holds state)
    (keeps : ∀ state action later, holds state → automaton.step state action = some later →
      holds later)
    {state : State} (reached : automaton.Reachable state) : holds state := by
  induction reached with
  | start initial => exact start _ initial
  | step _ taken ih => exact keeps _ _ _ ih taken

def after (automaton : Automaton State Action) : List Action → State → Option State
  | [], state => some state
  | action :: rest, state => (automaton.step state action).bind (automaton.after rest)

theorem Reachable.after {schedule : List Action} {state last : State}
    (reached : automaton.Reachable state) (ran : automaton.after schedule state = some last) :
    automaton.Reachable last := by
  induction schedule generalizing state with
  | nil =>
      cases ran
      exact reached
  | cons action rest ih =>
      obtain ⟨later, taken, ran⟩ := Option.bind_eq_some_iff.mp ran
      exact ih (.step reached taken) ran

end Automaton

namespace Tasks

variable {Task : Type} {weight : Task → Int} {table : List Task} {index : Nat} {old new : Task}

theorem lookup_set (found : table[index]? = some old) (other : Nat) :
    (table.set index new)[other]? = if other = index then some new else table[other]? := by
  obtain ⟨bound, _⟩ := List.getElem?_eq_some_iff.mp found
  by_cases same : other = index
  · subst same
    simp [bound]
  · simp [same, List.getElem?_set_ne (Ne.symm same)]

theorem lookup_push (other : Nat) :
    (table ++ [new])[other]? = if other = table.length then some new else table[other]? := by
  by_cases same : other = table.length
  · subst same
    simp
  · rw [if_neg same]
    by_cases within : other < table.length
    · exact List.getElem?_append_left within
    · rw [List.getElem?_eq_none (by simp; omega), List.getElem?_eq_none (by omega)]

theorem modify_found {change : Task → Task} (found : table[index]? = some old) :
    table.modify index change = table.set index (change old) := by
  simp [List.modify_eq_set_getElem?, found]

def total (weight : Task → Int) : List Task → Int
  | [] => 0
  | task :: rest => weight task + total weight rest

theorem total_append {more : List Task} :
    total weight (table ++ more) = total weight table + total weight more := by
  induction table with
  | nil => simp [total]
  | cons task rest ih =>
      simp only [List.cons_append, total, ih]
      omega

theorem total_zero (zero : ∀ task ∈ table, weight task = 0) : total weight table = 0 := by
  induction table with
  | nil => rfl
  | cons task rest ih =>
      rw [total, zero task (by simp), ih fun other found => zero other (by simp [found])]
      rfl

theorem exists_of_total_ne_zero (some_weight : total weight table ≠ 0) :
    ∃ task ∈ table, weight task ≠ 0 := by
  by_contra none_weighs
  refine some_weight (total_zero fun task member => ?_)
  by_contra weighs
  exact none_weighs ⟨task, member, weighs⟩

theorem total_push : total weight (table ++ [new]) = total weight table + weight new := by
  rw [total_append]
  simp [total]

theorem total_set (found : table[index]? = some old) :
    total weight (table.set index new) = total weight table - weight old + weight new := by
  induction table generalizing index with
  | nil => simp at found
  | cons task rest ih =>
      cases index with
      | zero =>
          simp only [List.getElem?_cons_zero, Option.some.injEq] at found
          subst found
          simp only [List.set_cons_zero, total]
          omega
      | succ index =>
          simp only [List.getElem?_cons_succ] at found
          simp only [List.set_cons_succ, total, ih found]
          omega

theorem total_erase [DecidableEq Task] (member : old ∈ table) :
    total weight (table.erase old) = total weight table - weight old := by
  induction table with
  | nil => simp at member
  | cons task rest ih =>
      by_cases same : task = old
      · subst same
        rw [List.erase_cons_head, total]
        omega
      · have later : old ∈ rest := (List.mem_cons.mp member).resolve_left (Ne.symm same)
        rw [List.erase_cons_tail (by simpa using same), total, total, ih later]
        omega

theorem total_perm {other : List Task} (same : table.Perm other) :
    total weight table = total weight other := by
  induction same with
  | nil => rfl
  | cons task _ ih => rw [total, total, ih]
  | swap first second rest =>
      simp only [total]
      omega
  | trans _ _ ih later => exact ih.trans later

theorem total_congr {other : Task → Int} (same : ∀ task ∈ table, weight task = other task) :
    total weight table = total other table := by
  induction table with
  | nil => rfl
  | cons task rest ih =>
      rw [total, total, same task (by simp), ih fun task member => same task (by simp [member])]

theorem total_eraseIdx (found : table[index]? = some old) :
    total weight (table.eraseIdx index) = total weight table - weight old := by
  induction table generalizing index with
  | nil => simp at found
  | cons task rest ih =>
      cases index with
      | zero =>
          simp only [List.getElem?_cons_zero, Option.some.injEq] at found
          subst found
          simp only [List.eraseIdx_cons_zero, total]
          omega
      | succ index =>
          simp only [List.getElem?_cons_succ] at found
          simp only [List.eraseIdx_cons_succ, total, ih found]
          omega

theorem total_nonneg (nonneg : ∀ task ∈ table, 0 ≤ weight task) : 0 ≤ total weight table := by
  induction table with
  | nil => exact Int.le_refl 0
  | cons task rest ih =>
      have head := nonneg task (by simp)
      have tail := ih fun other found => nonneg other (by simp [found])
      simp only [total]
      omega

theorem le_total (nonneg : ∀ task ∈ table, 0 ≤ weight task) (found : table[index]? = some old) :
    weight old ≤ total weight table := by
  induction table generalizing index with
  | nil => simp at found
  | cons task rest ih =>
      have head := nonneg task (by simp)
      have tail : ∀ other ∈ rest, 0 ≤ weight other := fun other found =>
        nonneg other (by simp [found])
      simp only [total]
      cases index with
      | zero =>
          simp only [List.getElem?_cons_zero, Option.some.injEq] at found
          subst found
          have := total_nonneg tail
          omega
      | succ index =>
          have := ih tail (List.getElem?_cons_succ ▸ found)
          omega

end Tasks

end Concurrent
