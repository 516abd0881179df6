import DomainModel.Proofs.OptionTable

/-!
# Tables under any sequence of merges

Whoever holds a table may ask for any merge: of any family, any value and any entry, whether the
family takes it or not. A call that is refused leaves the table that was in use. However the calls
come, the table in use keeps one shape: each family has its slot, in the fixed order and of the
kind of the family, and nothing in a slot is there twice. It follows that a call is refused for the
kind of its family and for nothing else. That a family might have no slot is looked at by every
merge and never happens.

## What this module delivers

- `MergeCall`, with `outcome` and `next`: one call, and the table in use after it.
- `afterCalls`: the table in use after a list of calls, from the empty table on.
- `reachable_next`, `reachable_iff_afterCalls`: calls that are refused reach no new tables.
- `OptionSlot.IsDistinct`, `WellShaped.exists_slot`: what every slot is like.
- `afterCalls_invariant`: the shape of the table in use, and which calls it refuses.
-/

set_option autoImplicit false

namespace DomainModel

/-- Nothing in a slot is there twice: no name in one of its lists, and no value. -/
def OptionSlot.IsDistinct : OptionSlot → Prop
  | .flag entry => entry.IsDistinct
  | .valued entries =>
      (entries.entries.map Prod.fst).Nodup ∧ ∀ pair ∈ entries.entries, pair.2.IsDistinct

/-- A request to merge an entry into a table. -/
inductive MergeCall where
  /-- An entry for a flag. -/
  | flag (family : OptionFamily) (entry : OptionEntry)
  /-- An entry for one value of a family. -/
  | valued (family : OptionFamily) (value : String) (entry : OptionEntry)

namespace MergeCall

/-- What comes of a call. -/
def outcome (table : OptionTable) : MergeCall → Except OptionError OptionTable
  | .flag family entry => table.mergeFlag family entry
  | .valued family value entry => table.mergeValue family value entry

/-- The table in use after a call: the merged one, or the one before when the call is refused. -/
def next (table : OptionTable) (call : MergeCall) : OptionTable :=
  match call.outcome table with
  | .ok merged => merged
  | .error _ => table

end MergeCall

namespace OptionTable

/-- The table in use after a list of calls. -/
def afterCalls (calls : List MergeCall) : OptionTable := calls.foldl MergeCall.next .empty

/-! ## Runs of calls -/

/-- A call that goes through leads to a table that merging makes. -/
theorem Reachable.of_outcome {table merged : OptionTable} (h : table.Reachable)
    {call : MergeCall} (hcall : call.outcome table = .ok merged) : merged.Reachable := by
  cases call with
  | flag family entry => exact .mergeFlag h hcall
  | valued family value entry => exact .mergeValue h hcall

/-- After one more call, refused or not, the table in use is one that merging makes. -/
theorem reachable_next {table : OptionTable} (h : table.Reachable) (call : MergeCall) :
    (call.next table).Reachable := by
  rw [MergeCall.next]
  cases hcall : call.outcome table with
  | ok merged => exact h.of_outcome hcall
  | error error => exact h

theorem afterCalls_concat (calls : List MergeCall) (call : MergeCall) :
    afterCalls (calls ++ [call]) = call.next (afterCalls calls) := by
  rw [afterCalls, List.foldl_append]
  rfl

/-- After any list of calls the table in use is one that merging makes. -/
theorem reachable_afterCalls (calls : List MergeCall) : (afterCalls calls).Reachable := by
  -- from the right: the last call is made of the table after all calls before it
  induction calls using List.reverseRecOn with
  | nil => exact .empty
  | append_singleton calls call ih =>
      rw [afterCalls_concat]
      exact reachable_next ih call

/-- The tables that merging makes are those in use after some list of calls. -/
theorem reachable_iff_afterCalls {table : OptionTable} :
    table.Reachable ↔ ∃ calls, afterCalls calls = table := by
  constructor
  · intro h
    -- every merge that goes through is one more call at the end of the list
    induction h with
    | empty => exact ⟨[], rfl⟩
    | @mergeFlag table merged family entry _ hmerge ih =>
        obtain ⟨calls, rfl⟩ := ih
        refine ⟨calls ++ [.flag family entry], ?_⟩
        rw [afterCalls_concat, MergeCall.next, MergeCall.outcome, hmerge]
    | @mergeValue table merged family value entry _ hmerge ih =>
        obtain ⟨calls, rfl⟩ := ih
        refine ⟨calls ++ [.valued family value entry], ?_⟩
        rw [afterCalls_concat, MergeCall.next, MergeCall.outcome, hmerge]
  · rintro ⟨calls, rfl⟩
    exact reachable_afterCalls calls

/-! ## The shape of a table and its refusals -/

/-- Every family has a slot, of its own kind and without repetitions. -/
theorem WellShaped.exists_slot {table : OptionTable} (h : table.WellShaped)
    (family : OptionFamily) : ∃ slot : OptionSlot, table.slot? family = some slot ∧
      slot.kind = family.kind ∧ slot.IsDistinct := by
  cases hfamily : family.carriesValue with
  | false =>
      refine ⟨_, h.flag hfamily, ?_, h.flagEntry_distinct family⟩
      simp [OptionFamily.kind, OptionSlot.kind, hfamily]
  | true =>
      refine ⟨_, h.valued hfamily, ?_, (table.values family).nodup_keys, ?_⟩
      · simp [OptionFamily.kind, OptionSlot.kind, hfamily]
      · -- the shape speaks of the entry at a value, which is the one listed with it
        rintro ⟨value, entry⟩ hpair
        have hentry := h.valueEntry_distinct family value
        rw [ValueEntries.entryAt_of_mem hpair] at hentry
        exact hentry

theorem WellShaped.mergeFlag_eq_error_iff {table : OptionTable} (h : table.WellShaped)
    {family : OptionFamily} {entry : OptionEntry} {error : OptionError} :
    table.mergeFlag family entry = .error error ↔
      family.carriesValue = true ∧ error = .kindMismatch family family.kind .flag := by
  rw [mergeFlag_eq_verdict h, verdict_eq_error_iff, OptionFamily.objectionTo_flag_eq_some_iff]

theorem WellShaped.mergeValue_eq_error_iff {table : OptionTable} (h : table.WellShaped)
    {family : OptionFamily} {value : String} {entry : OptionEntry} {error : OptionError} :
    table.mergeValue family value entry = .error error ↔
      family.carriesValue = false ∧ error = .kindMismatch family family.kind .single := by
  rw [mergeValue_eq_verdict h, verdict_eq_error_iff, OptionFamily.objectionTo_single_eq_some_iff]

/-- After any list of calls the table in use has the families in their order, and for each of them
a slot of its kind in which nothing is there twice. It refuses a flag exactly when the family
carries values, and a value exactly when the family carries none, and says so of this family; no
call finds a family without slot. -/
theorem afterCalls_invariant (calls : List MergeCall) :
    (afterCalls calls).slots.keys = OptionFamily.all ∧
    (∀ family : OptionFamily, ∃ slot : OptionSlot,
      (afterCalls calls).slot? family = some slot ∧ slot.kind = family.kind ∧
        slot.IsDistinct) ∧
    (∀ (family : OptionFamily) (entry : OptionEntry) (error : OptionError),
      (afterCalls calls).mergeFlag family entry = .error error ↔
        family.carriesValue = true ∧ error = .kindMismatch family family.kind .flag) ∧
    (∀ (family : OptionFamily) (value : String) (entry : OptionEntry) (error : OptionError),
      (afterCalls calls).mergeValue family value entry = .error error ↔
        family.carriesValue = false ∧ error = .kindMismatch family family.kind .single) ∧
    ∀ (call : MergeCall) (name : String),
      call.outcome (afterCalls calls) ≠ .error (.unknownFamily name) := by
  have hshape := (reachable_afterCalls calls).wellShaped
  refine ⟨hshape.keys, hshape.exists_slot, ?_, ?_, ?_⟩
  · intro family entry error
    exact hshape.mergeFlag_eq_error_iff
  · intro family value entry error
    exact hshape.mergeValue_eq_error_iff
  · intro call name hcall
    cases call with
    | flag family entry =>
        obtain ⟨-, herror⟩ := hshape.mergeFlag_eq_error_iff.1 hcall
        cases herror
    | valued family value entry =>
        obtain ⟨-, herror⟩ := hshape.mergeValue_eq_error_iff.1 hcall
        cases herror

/-- Between two merges a flag is asked of a family with values: the call is refused, and the table
goes on as it was. -/
example : (afterCalls [.flag .filter ⟨["A", "A"], []⟩, .flag .dto ⟨["B"], []⟩,
    .flag .filter ⟨["C", "A"], ["D"]⟩]).flagEntry .filter = ⟨["A", "C"], ["D"]⟩ := rfl

end OptionTable

end DomainModel
