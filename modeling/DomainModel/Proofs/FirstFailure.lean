import DomainModel.Build.Traced

/-!
# Going on until the first failure

A build goes through lists of declarations and stops at the first one that is wrong. Whether a
declaration is wrong can be told from the declaration alone, so the outcome of a run has a closed
form: the first objection that any declaration of the list meets, or else the value of the run in
which nothing is objected. `verdict` is that form, and it is kept by every way in which a build
puts computations together.

## What this module delivers

- `verdict`: a value, unless there is an objection, with `verdict_eq_ok_iff` and
  `verdict_eq_error_iff`.
- `findSome?_eq_none_of_subset`: fewer declarations meet no new objection.
- `bind_verdict`, `bind_verdict_ok`, `mapM_verdict`, `foldlM_verdict`: two steps, a list of
  independent steps, and a list of steps that hand on a state with an invariant.
- `outcome_mapM`, `outcome_foldlM`: the same runs with events have the same outcomes.
-/

set_option autoImplicit false

namespace DomainModel

variable {ε α β σ : Type}

/-- The value, unless there is an objection. -/
def verdict (objection? : Option ε) (value : α) : Except ε α :=
  match objection? with
  | some objection => .error objection
  | none => .ok value

@[simp]
theorem verdict_none (value : α) : verdict (none : Option ε) value = .ok value := rfl

@[simp]
theorem verdict_some (objection : ε) (value : α) :
    verdict (some objection) value = .error objection := rfl

/-- A verdict is a value exactly when nothing is objected. -/
theorem verdict_eq_ok_iff {objection? : Option ε} {value result : α} :
    verdict objection? value = .ok result ↔ objection? = none ∧ value = result := by
  cases objection? with
  | none => simp
  | some objection => simp

/-- A verdict is an error exactly when that error is objected. -/
theorem verdict_eq_error_iff {objection? : Option ε} {value : α} {error : ε} :
    verdict objection? value = .error error ↔ objection? = some error := by
  cases objection? with
  | none => simp
  | some objection => simp

/-- Where a list meets no objection, neither does a list of some of its members. -/
theorem findSome?_eq_none_of_subset {objection? : α → Option ε} {list others : List α}
    (h : others ⊆ list) (hnone : list.findSome? objection? = none) :
    others.findSome? objection? = none := by
  rw [List.findSome?_eq_none_iff] at hnone ⊢
  intro a ha
  exact hnone a (h ha)

/-! ## Runs without events -/

/-- Of two steps, the objection to the first one counts, or else that to the second, which need
be judged only when the first one meets no objection. -/
theorem bind_verdict {first : Option ε} {a : α} {next : α → Except ε β} {second : Option ε} {b : β}
    (h : first = none → next a = verdict second b) :
    (verdict first a >>= next) = verdict (first.or second) b := by
  cases first with
  | none => exact h rfl
  | some objection => rfl

/-- A step that always goes well adds no objection. -/
theorem bind_verdict_ok {objection? : Option ε} {a : α} {next : α → Except ε β} {b : β}
    (h : next a = .ok b) : (verdict objection? a >>= next) = verdict objection? b := by
  cases objection? with
  | none => exact h
  | some objection => rfl

/-- A list of independent steps meets the first objection to any of them. -/
theorem mapM_verdict {step : α → Except ε β} {objection? : α → Option ε} {value : α → β}
    (hstep : ∀ a, step a = verdict (objection? a) (value a)) (list : List α) :
    list.mapM step = verdict (list.findSome? objection?) (list.map value) := by
  induction list with
  | nil => rfl
  | cons a rest ih =>
      rw [List.mapM_cons, hstep a, ih, List.findSome?_cons]
      cases objection? a with
      | some objection => rfl
      | none =>
          cases rest.findSome? objection? with
          | some objection => rfl
          | none => rfl

/-- A list of steps on a state meets the first objection to any of them, provided the steps that
meet none keep the invariant under which a step is judged by its declaration alone. -/
theorem foldlM_verdict {step : σ → α → Except ε σ} {objection? : α → Option ε} {next : σ → α → σ}
    {P : σ → Prop}
    (hstep : ∀ s a, P s → step s a = verdict (objection? a) (next s a))
    (hinv : ∀ s a, P s → objection? a = none → P (next s a))
    {s : σ} (hs : P s) (list : List α) :
    list.foldlM step s = verdict (list.findSome? objection?) (list.foldl next s) := by
  induction list generalizing s with
  | nil => rfl
  | cons a rest ih =>
      rw [List.foldlM_cons, hstep s a hs, List.findSome?_cons, List.foldl_cons]
      cases ha : objection? a with
      | some objection => rfl
      | none =>
          -- the next state keeps the invariant, so the rest is judged as it would be from `s`
          exact ih (hinv s a hs ha)

/-- What every step without an objection keeps is kept by the whole run. -/
theorem foldl_invariant {objection? : α → Option ε} {next : σ → α → σ} {P : σ → Prop}
    (hinv : ∀ s a, P s → objection? a = none → P (next s a)) {s : σ} (hs : P s)
    {list : List α} (h : list.findSome? objection? = none) : P (list.foldl next s) := by
  induction list generalizing s with
  | nil => exact hs
  | cons a rest ih =>
      have ha : objection? a = none := List.findSome?_eq_none_iff.1 h a List.mem_cons_self
      have hrest := findSome?_eq_none_of_subset (List.subset_cons_self a rest) h
      exact ih (hinv s a hs ha) hrest

/-! ## Runs with events -/

namespace Traced

/-- Events do not change the outcome of a list of independent steps. -/
theorem outcome_mapM (step : α → Traced ε β) (list : List α) :
    (list.mapM step).outcome = list.mapM fun a => (step a).outcome := by
  induction list with
  | nil => rfl
  | cons a rest ih =>
      rw [List.mapM_cons, List.mapM_cons, outcome_bind]
      congr 1
      funext b
      rw [outcome_bind, ih]
      rfl

/-- Events do not change the outcome of a list of steps on a state. -/
theorem outcome_foldlM (step : σ → α → Traced ε σ) (s : σ) (list : List α) :
    (list.foldlM step s).outcome = list.foldlM (fun s a => (step s a).outcome) s := by
  induction list generalizing s with
  | nil => rfl
  | cons a rest ih =>
      rw [List.foldlM_cons, List.foldlM_cons, outcome_bind]
      congr 1
      funext t
      exact ih t

end Traced

end DomainModel
