import DomainModel.Proofs.FirstFailure

/-!
# How far a run gets

A run through a list of declarations stops at the first one that meets an objection. What happened
until then is what happens at this declaration and at those before it, so the events of a run have a
closed form, as its outcome has: the events of the members that were reached, in order. The form is
the same for independent steps and for steps that hand on a state.

## What this module delivers

- `onward`, `events_bind_verdict`: what happens after a first part, if it gets through.
- `reached`: the members of a list up to the first that meets an objection.
- `events_mapM`, `events_foldlM`: the events of a run are those of the members reached.
- `FirstObjection`: the place at which a list meets its first objection, with
  `findSome?_eq_some_iff_firstObjection` and `FirstObjection.reached_eq`.
-/

set_option autoImplicit false

namespace DomainModel

variable {ε α β γ σ : Type}

/-! ## Going on -/

/-- What comes later, when there is no objection. -/
def onward (objection? : Option ε) (later : List β) : List β :=
  match objection? with
  | none => later
  | some _ => []

@[simp]
theorem onward_none (later : List β) : onward (none : Option ε) later = later := rfl

@[simp]
theorem onward_some (objection : ε) (later : List β) : onward (some objection) later = [] := rfl

@[simp]
theorem onward_nil (objection? : Option ε) : onward objection? ([] : List β) = [] := by
  cases objection? <;> rfl

theorem map_onward (f : β → γ) (objection? : Option ε) (later : List β) :
    (onward objection? later).map f = onward objection? (later.map f) := by
  cases objection? <;> rfl

@[simp]
theorem onward_map (objection? : Option ε) (rename : ε → γ) (later : List β) :
    onward (objection?.map rename) later = onward objection? later := by
  cases objection? <;> rfl

namespace Traced

@[simp]
theorem events_emit_bind (event : Event) (next : Unit → Traced ε β) :
    ((emit event : Traced ε Unit) >>= next).events = event :: (next ()).events := rfl

/-- The events of a sequence: those of the first part, and of the second when there is one. -/
theorem events_bind_verdict {first : Traced ε α} {objection? : Option ε} {value : α}
    (h : first.outcome = verdict objection? value) (next : α → Traced ε β) :
    (first >>= next).events = first.events ++ onward objection? (next value).events := by
  cases objection? with
  | none => exact events_bind_of_ok h next
  | some objection =>
      rw [events_bind_of_error h next, onward_some, List.append_nil]

end Traced

/-! ## The members that a run reaches -/

/-- The members of a list up to the first that meets an objection, that one included. -/
def reached (objection? : α → Option ε) : List α → List α
  | [] => []
  | a :: rest => a :: onward (objection? a) (reached objection? rest)

/-- The events of independent steps are those of the members reached. -/
theorem Traced.events_mapM {step : α → Traced ε β} {objection? : α → Option ε} {value : α → β}
    (hstep : ∀ a, (step a).outcome = verdict (objection? a) (value a)) (list : List α) :
    (list.mapM step).events = (reached objection? list).flatMap fun a => (step a).events := by
  induction list with
  | nil => rfl
  | cons a rest ih =>
      have hrest : (rest.mapM step).outcome =
          verdict (rest.findSome? objection?) (rest.map value) := by
        rw [outcome_mapM, mapM_verdict hstep]
      -- the rest runs when nothing is objected to `a`; putting the values together makes no event
      rw [List.mapM_cons, events_bind_verdict (hstep a), events_bind_verdict hrest, ih, reached]
      cases objection? a with
      | some objection => simp
      | none => cases rest.findSome? objection? <;> simp

/-- The events of steps on a state are those of the members reached, provided the state does not
show in them. -/
theorem Traced.events_foldlM {step : σ → α → Traced ε σ} {objection? : α → Option ε}
    {next : σ → α → σ} {P : σ → Prop} {events : α → List Event}
    (hevents : ∀ s a, (step s a).events = events a)
    (hstep : ∀ s a, P s → (step s a).outcome = verdict (objection? a) (next s a))
    (hinv : ∀ s a, P s → objection? a = none → P (next s a))
    {s : σ} (hs : P s) (list : List α) :
    (list.foldlM step s).events = (reached objection? list).flatMap events := by
  induction list generalizing s with
  | nil => rfl
  | cons a rest ih =>
      rw [List.foldlM_cons, events_bind_verdict (hstep s a hs), hevents, reached,
        List.flatMap_cons]
      cases ha : objection? a with
      | some objection => rfl
      | none =>
          -- the next state keeps the invariant, so the rest of the run is as it would be from `s`
          rw [onward_none, onward_none, ih (hinv s a hs ha)]

/-- Without an objection every member is reached. -/
theorem reached_of_findSome?_eq_none {objection? : α → Option ε} {list : List α}
    (h : list.findSome? objection? = none) : reached objection? list = list := by
  induction list with
  | nil => rfl
  | cons a rest ih =>
      have ha : objection? a = none := List.findSome?_eq_none_iff.1 h a List.mem_cons_self
      have hrest := findSome?_eq_none_of_subset (List.subset_cons_self a rest) h
      rw [reached, ha, onward_none, ih hrest]

/-- Behind members without an objection, the member with one is the last that is reached. -/
theorem reached_append_cons {objection? : α → Option ε} {before : List α} {a : α} {objection : ε}
    (hbefore : before.findSome? objection? = none) (ha : objection? a = some objection)
    (after : List α) : reached objection? (before ++ a :: after) = before ++ [a] := by
  induction before with
  | nil => rw [List.nil_append, reached, ha]; rfl
  | cons b rest ih =>
      have hb : objection? b = none := List.findSome?_eq_none_iff.1 hbefore b List.mem_cons_self
      have hrest := findSome?_eq_none_of_subset (List.subset_cons_self b rest) hbefore
      rw [List.cons_append, reached, hb, onward_none, ih hrest, List.cons_append]

/-! ## The place of the first objection -/

/-- Up to an index a list meets no objection, and with the member at the index it meets one. -/
structure FirstObjection (objection? : α → Option ε) (list : List α) (index : Nat)
    (objection : ε) : Prop where
  /-- The members before meet no objection. -/
  before : (list.take index).findSome? objection? = none
  /-- The member at the index does. -/
  upTo : (list.take (index + 1)).findSome? objection? = some objection

/-- The first objection to a list is met at one of its members. -/
theorem findSome?_eq_some_iff_firstObjection {objection? : α → Option ε} {list : List α}
    {objection : ε} :
    list.findSome? objection? = some objection ↔
      ∃ index, FirstObjection objection? list index objection := by
  constructor
  · intro h
    obtain ⟨before, a, after, rfl, ha, hbefore⟩ := List.findSome?_eq_some_iff.1 h
    refine ⟨before.length, ?_, ?_⟩
    · rw [List.take_left]
      exact List.findSome?_eq_none_iff.2 hbefore
    · rw [List.take_length_add_append, List.findSome?_append,
        List.findSome?_eq_none_iff.2 hbefore]
      simp [ha]
  · rintro ⟨index, h⟩
    rw [← List.take_append_drop (index + 1) list, List.findSome?_append, h.upTo]
    rfl

section FirstObjection

variable {objection? : α → Option ε} {list : List α} {index : Nat} {objection : ε}

/-- The member at the index is the one that meets the objection. -/
theorem FirstObjection.exists_getElem? (h : FirstObjection objection? list index objection) :
    ∃ a, list[index]? = some a ∧ objection? a = some objection := by
  have hupTo := h.upTo
  rw [List.take_add_one, List.findSome?_append, h.before, Option.none_or] at hupTo
  cases ha : list[index]? with
  | none => simp [ha] at hupTo
  | some a => exact ⟨a, rfl, by simpa [ha] using hupTo⟩

theorem FirstObjection.lt_length (h : FirstObjection objection? list index objection) :
    index < list.length := by
  obtain ⟨a, ha, -⟩ := h.exists_getElem?
  exact (List.getElem?_eq_some_iff.1 ha).1

/-- A run reaches the members before the first objection, and the member that meets it. -/
theorem FirstObjection.reached_eq (h : FirstObjection objection? list index objection) :
    reached objection? list = list.take (index + 1) := by
  obtain ⟨a, ha, hobjection⟩ := h.exists_getElem?
  obtain ⟨hindex, rfl⟩ := List.getElem?_eq_some_iff.1 ha
  have hlist : list = list.take index ++ list[index] :: list.drop (index + 1) := by
    rw [← List.drop_eq_getElem_cons hindex, List.take_append_drop]
  have hreached := reached_append_cons h.before hobjection (list.drop (index + 1))
  rw [← hlist] at hreached
  rw [hreached, List.take_add_one, ha]
  rfl

end FirstObjection

end DomainModel
