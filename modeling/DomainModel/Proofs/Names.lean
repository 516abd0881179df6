import DomainModel.Names
import Mathlib.Data.List.Induction
import Mathlib.Data.List.Nodup

/-!
# The laws of distinct lists

Names are collected by putting lists together and dropping repetitions, at every declaration
anew. This module says what that comes to: the list of distinct names is built from the left,
one name at a time (`distinct_concat`), it holds no name twice (`nodup_distinct`), and dropping
repetitions early changes nothing in the end (`distinct_distinct_append`,
`distinct_append_distinct`).

## What this module delivers

- `distinct_concat`, `distinct_filter`, `distinct_append`: how `distinct` walks a list.
- `nodup_distinct`, `distinct_eq_self`, `distinct_append_of_nodup`: its results, the lists it leaves
  alone, and what is added to these.
- `distinct_perm`, `distinct_eq_singleton_iff`, `isWildcard_distinct_iff`: what is left of a list in
  another order, of a list with one name only, and of a list of wildcards.
- `distinct_distinct_append`, `distinct_append_distinct`, `distinct_append_flatMap_distinct`:
  repetitions dropped in a part of a list are dropped in the whole.
- `distinct_append_of_subset`: names that are there already add nothing.
-/

set_option autoImplicit false

namespace DomainModel.Names

/-! ## One name at a time

A name at the end of a list counts when it was not there before. This one equation carries every
induction of the module, which therefore runs from the right end of the list. -/

/-- A last name is kept exactly when the names before it do not hold it. -/
theorem distinct_concat (names : List String) (name : String) :
    distinct (names ++ [name]) =
      if name ∈ names then distinct names else distinct names ++ [name] := by
  rw [distinct, List.eraseDups_append]
  by_cases h : name ∈ names
  · rw [if_pos h]
    simp [distinct, List.cons_removeAll, h]
  · rw [if_neg h]
    simp [distinct, List.cons_removeAll, h, List.eraseDups_cons]

/-- Choosing some of the names and dropping repetitions may be done in either order. -/
theorem distinct_filter (keep : String → Bool) (names : List String) :
    distinct (names.filter keep) = (distinct names).filter keep := by
  induction names using List.reverseRecOn with
  | nil => rfl
  | append_singleton names name ih =>
      rw [List.filter_append, distinct_concat]
      cases hk : keep name with
      | false =>
          rw [show [name].filter keep = [] by simp [hk], List.append_nil, ih]
          split
          · rfl
          · simp [hk]
      | true =>
          -- a chosen name was there before exactly when it was there among the chosen ones
          rw [show [name].filter keep = [name] by simp [hk], distinct_concat, ih]
          have hmem : name ∈ names.filter keep ↔ name ∈ names := by simp [hk]
          by_cases h : name ∈ names
          · rw [if_pos (hmem.2 h), if_pos h]
          · rw [if_neg (fun h' => h (hmem.1 h')), if_neg h]
            simp [hk]

/-- The distinct names of two lists: those of the first, then the new ones of the second. -/
theorem distinct_append (names others : List String) :
    distinct (names ++ others) =
      distinct names ++ (distinct others).filter fun name => decide (name ∉ names) := by
  rw [distinct, List.eraseDups_append]
  have hnew : others.removeAll names = others.filter fun name => decide (name ∉ names) := by
    simp [List.removeAll]
  rw [hnew]
  exact congrArg (distinct names ++ ·) (distinct_filter _ others)

/-! ## Lists without repetitions -/

/-- No name occurs twice among the distinct names. -/
theorem nodup_distinct (names : List String) : (distinct names).Nodup := by
  induction names using List.reverseRecOn with
  | nil => exact List.nodup_nil
  | append_singleton names name ih =>
      rw [distinct_concat]
      split
      · exact ih
      · next h =>
          refine List.Nodup.append ih (List.nodup_singleton name) ?_
          intro other hother hname
          rw [List.mem_singleton] at hname
          exact h (hname ▸ mem_distinct.1 hother)

/-- A list in which no name occurs twice is left as it is. -/
theorem distinct_eq_self {names : List String} (h : names.Nodup) : distinct names = names := by
  induction names using List.reverseRecOn with
  | nil => rfl
  | append_singleton names name ih =>
      obtain ⟨hnames, -, hdisjoint⟩ := List.nodup_append.1 h
      have hnew : name ∉ names := fun hmem => hdisjoint name hmem name (by simp) rfl
      rw [distinct_concat, if_neg hnew, ih hnames]

/-- To a list without repetitions only new names are added. -/
theorem distinct_append_of_nodup {names : List String} (h : names.Nodup) (others : List String) :
    distinct (names ++ others) =
      names ++ (distinct others).filter fun name => decide (name ∉ names) := by
  rw [distinct_append, distinct_eq_self h]

/-- A rearranged list has the same distinct names, in some order. -/
theorem distinct_perm {names others : List String} (h : names.Perm others) :
    (distinct names).Perm (distinct others) := by
  rw [List.perm_ext_iff_of_nodup (nodup_distinct names) (nodup_distinct others)]
  intro name
  rw [mem_distinct, mem_distinct, h.mem_iff]

/-- One name alone is left of the lists that have this name and no other. -/
theorem distinct_eq_singleton_iff {names : List String} {name : String} :
    distinct names = [name] ↔ name ∈ names ∧ ∀ other ∈ names, other = name := by
  constructor
  · intro h
    have hmem : ∀ {other : String}, other ∈ names ↔ other = name := by
      intro other
      rw [← mem_distinct, h, List.mem_singleton]
    exact ⟨hmem.2 rfl, fun _ => hmem.1⟩
  · rintro ⟨hname, honly⟩
    rw [← List.perm_singleton,
      List.perm_ext_iff_of_nodup (nodup_distinct names) (List.nodup_singleton name)]
    intro other
    rw [mem_distinct, List.mem_singleton]
    exact ⟨honly other, fun h => h ▸ hname⟩

/-- The distinct names are the wildcard alone when the list has the wildcard and nothing else. -/
theorem isWildcard_distinct_iff {names : List String} :
    isWildcard (distinct names) = true ↔ wildcard ∈ names ∧ ∀ name ∈ names, name = wildcard := by
  rw [isWildcard, beq_iff_eq, distinct_eq_singleton_iff]

/-! ## Dropping repetitions early -/

/-- Repetitions in the front part may be dropped before the rest is added. -/
theorem distinct_distinct_append (names others : List String) :
    distinct (distinct names ++ others) = distinct (names ++ others) := by
  rw [distinct_append_of_nodup (nodup_distinct names), distinct_append]
  simp

/-- Repetitions in the rear part may be dropped before it is added. -/
theorem distinct_append_distinct (names others : List String) :
    distinct (names ++ distinct others) = distinct (names ++ others) := by
  rw [distinct_append, distinct_append, distinct_eq_self (nodup_distinct others)]

/-- Names that are there already leave no trace when they are added. -/
theorem distinct_append_of_subset {names others : List String} (h : others ⊆ names) :
    distinct (names ++ others) = distinct names := by
  have hnew : ((distinct others).filter fun name => decide (name ∉ names)) = [] := by
    rw [List.filter_eq_nil_iff]
    intro name hname
    have hold : name ∈ names := h (mem_distinct.1 hname)
    simp [hold]
  rw [distinct_append, hnew, List.append_nil]

/-- Repetitions in each of the lists that are added may be dropped first. -/
theorem distinct_append_flatMap_distinct {α : Type} (f : α → List String) (names : List String)
    (parts : List α) :
    distinct (names ++ parts.flatMap fun part => distinct (f part)) =
      distinct (names ++ parts.flatMap f) := by
  induction parts generalizing names with
  | nil => rfl
  | cons part parts ih =>
      rw [List.flatMap_cons, List.flatMap_cons, ← List.append_assoc, ← List.append_assoc,
        ih (names ++ distinct (f part)), ← distinct_distinct_append (names ++ distinct (f part)),
        distinct_append_distinct, distinct_distinct_append]

end DomainModel.Names
