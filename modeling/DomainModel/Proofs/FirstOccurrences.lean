import DomainModel.Proofs.Names
import Mathlib.Data.List.Sort

/-!
# The distinct names of a list, by first occurrence

Names are collected one after another: a name that was collected before is passed over, and the
order is the one in which names came in. This is what `distinct` does (`distinct_eq_foldl_collect`),
and its result can be told without a run: it has the members of the list, and of two of them the one
that occurs first in the list stands in front. No two lists are told in this way, so the description
is exact (`distinct_eq_iff`).

## What this module delivers

- `collect`: one more name, with `foldl_collect` for a run that starts from any collected names.
- `Precedes`: the order of first occurrences, with `pairwise_precedes_distinct`.
- `ListsFirstOccurrences`: the description of the distinct names, with `distinct_eq_iff`.
- `distinct_is_stable`: the description, the run, and the laws of concatenated lists.
-/

set_option autoImplicit false

namespace DomainModel.Names

/-! ## Collecting names -/

/-- The collected names after one more name, which counts when it is new. -/
def collect (collected : List String) (name : String) : List String :=
  if name ∈ collected then collected else collected ++ [name]

/-- Collecting goes on from any names with the new ones, each once. -/
theorem foldl_collect (collected names : List String) :
    names.foldl collect collected =
      collected ++ (distinct names).filter fun name => decide (name ∉ collected) := by
  induction names using List.reverseRecOn with
  | nil => simp
  | append_singleton names name ih =>
      have hmem : name ∈ collected ++ (distinct names).filter (fun other =>
          decide (other ∉ collected)) ↔ name ∈ collected ∨ name ∈ names := by
        by_cases h : name ∈ collected <;> simp [h]
      rw [List.foldl_append, List.foldl_cons, List.foldl_nil, ih, collect, distinct_concat]
      by_cases hnames : name ∈ names
      · rw [if_pos (hmem.2 (.inr hnames)), if_pos hnames]
      · rw [if_neg hnames, List.filter_append]
        by_cases hcollected : name ∈ collected
        · rw [if_pos (hmem.2 (.inl hcollected))]
          simp [hcollected]
        · rw [if_neg (fun h => (hmem.1 h).elim hcollected hnames)]
          simp [hcollected]

/-- The distinct names are those that a run from nothing collects. -/
theorem distinct_eq_foldl_collect (names : List String) :
    distinct names = names.foldl collect [] := by
  rw [foldl_collect]
  simp

/-! ## The order of first occurrences -/

/-- Whether the first occurrence of a name is in front of that of another one. -/
def Precedes (names : List String) (first second : String) : Prop :=
  names.idxOf first < names.idxOf second

instance (names : List String) : Std.Irrefl (Precedes names) :=
  ⟨fun _ => Nat.lt_irrefl _⟩

instance (names : List String) : Std.Antisymm (Precedes names) :=
  ⟨fun _ _ h h' => absurd h' (Nat.lt_asymm h)⟩

/-- Names behind a list do not change which of its members occurs first. -/
theorem Precedes.append {names : List String} {first second : String}
    (h : Precedes names first second) (hfirst : first ∈ names) (hsecond : second ∈ names)
    (others : List String) : Precedes (names ++ others) first second := by
  rw [Precedes, List.idxOf_append_of_mem hfirst, List.idxOf_append_of_mem hsecond]
  exact h

/-- A member of a list occurs before a new name behind it. -/
theorem precedes_concat {names : List String} {first last : String} (hfirst : first ∈ names)
    (hlast : last ∉ names) : Precedes (names ++ [last]) first last := by
  rw [Precedes, List.idxOf_append_of_mem hfirst, List.idxOf_append_of_notMem hlast]
  exact Nat.lt_add_right _ (List.idxOf_lt_length_of_mem hfirst)

/-- The distinct names stand in the order in which they occur first. -/
theorem pairwise_precedes_distinct (names : List String) :
    (distinct names).Pairwise (Precedes names) := by
  induction names using List.reverseRecOn with
  | nil => exact .nil
  | append_singleton names name ih =>
      have hold : (distinct names).Pairwise (Precedes (names ++ [name])) := by
        refine ih.imp_of_mem ?_
        intro first second hfirst hsecond hbefore
        exact hbefore.append (mem_distinct.1 hfirst) (mem_distinct.1 hsecond) [name]
      rw [distinct_concat]
      split
      · exact hold
      · next hnew =>
          refine List.pairwise_append.2 ⟨hold, List.pairwise_singleton _ _, ?_⟩
          intro first hfirst last hlast
          rw [List.mem_singleton] at hlast
          subst hlast
          exact precedes_concat (mem_distinct.1 hfirst) hnew

/-! ## Stability -/

/-- A list has the names of another one, each once, in the order of their first occurrence. -/
structure ListsFirstOccurrences (names listed : List String) : Prop where
  /-- No name is listed twice. -/
  nodup : listed.Nodup
  /-- The names are those of the list. -/
  mem_iff : ∀ name, name ∈ listed ↔ name ∈ names
  /-- A name that is listed in front of another one occurs before it. -/
  ordered : listed.Pairwise fun first second => names.idxOf first < names.idxOf second

theorem listsFirstOccurrences_distinct (names : List String) :
    ListsFirstOccurrences names (distinct names) where
  nodup := nodup_distinct names
  mem_iff _ := mem_distinct
  ordered := pairwise_precedes_distinct names

/-- A list of the first occurrences is the list of distinct names: members and order leave no
choice. -/
theorem distinct_eq_iff {names listed : List String} :
    distinct names = listed ↔ ListsFirstOccurrences names listed := by
  constructor
  · rintro rfl
    exact listsFirstOccurrences_distinct names
  · intro h
    have hordered : listed.Pairwise (Precedes names) := h.ordered
    refine (pairwise_precedes_distinct names).eq_of_mem_iff hordered ?_
    intro name
    rw [mem_distinct, h.mem_iff]

/-- The distinct names are the wildcard selector when a list has names, all of them the wildcard. -/
theorem isWildcard_distinct_iff_ne_nil {names : List String} :
    isWildcard (distinct names) = true ↔ names ≠ [] ∧ ∀ name ∈ names, name = "*" := by
  rw [isWildcard_distinct_iff]
  refine and_congr_left ?_
  intro honly
  constructor
  · exact List.ne_nil_of_mem
  · intro hnames
    obtain ⟨name, hname⟩ := List.exists_mem_of_ne_nil names hnames
    have hwildcard : name = wildcard := honly name hname
    exact hwildcard ▸ hname

/-- Dropping repetitions is stable: collecting names one after another, each when it is new, gives
the one list that has the members of a list in the order of their first occurrence. Of two lists put
together it gives what it gives of the first and the new names of the second, whether repetitions
were dropped in the parts before or not, and what is left is the wildcard selector when there were
wildcards and nothing else. -/
theorem distinct_is_stable :
    (∀ names : List String, distinct names = names.foldl collect []) ∧
    (∀ names listed : List String,
      distinct names = listed ↔ ListsFirstOccurrences names listed) ∧
    (∀ names others : List String, distinct (names ++ others) =
      distinct names ++ (distinct others).filter fun name => decide (name ∉ names)) ∧
    (∀ names others : List String,
      distinct (distinct names ++ distinct others) = distinct (names ++ others)) ∧
    ∀ names : List String,
      isWildcard (distinct names) = true ↔ names ≠ [] ∧ ∀ name ∈ names, name = "*" := by
  refine ⟨distinct_eq_foldl_collect, fun _ _ => distinct_eq_iff, distinct_append, ?_,
    fun _ => isWildcard_distinct_iff_ne_nil⟩
  intro names others
  rw [distinct_append_distinct, distinct_distinct_append]

/-- Names that come again in another order keep the places of their first occurrence. -/
example : distinct ["B", "A", "B", "C", "A"] = ["B", "A", "C"] := rfl

end DomainModel.Names
