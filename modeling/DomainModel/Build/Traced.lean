import DomainModel.Build.Event

/-!
# Traced computations

A traced computation yields the events that happened, in order, and an outcome: a value, or the
error that ended it. A computation that fails keeps the events up to its failure, so that one
definition answers both what a run returns and what its log says.

## What this module delivers

- `Traced ε α`, with `emit`, `fail`, `ofExcept` and a lawful `Monad`.
- `outcome_bind`, `events_bind_of_ok`, `events_bind_of_error`: the two views of a sequence.
- `mapError`: the same computation with its errors renamed.
-/

set_option autoImplicit false

namespace DomainModel

/-- A computation with its events. -/
structure Traced (ε α : Type) where
  /-- The events, in the order they happened. -/
  events : List Event
  /-- What came of it. -/
  outcome : Except ε α

namespace Traced

variable {ε α β γ : Type}

/-- The computation in which one event happens. -/
def emit (event : Event) : Traced ε Unit := ⟨[event], .ok ()⟩

/-- The computation that fails at once. -/
def fail (error : ε) : Traced ε α := ⟨[], .error error⟩

/-- A computation without events. -/
def ofExcept (outcome : Except ε α) : Traced ε α := ⟨[], outcome⟩

/-- One computation after another: the second sees the value of the first and adds its events, and
does not happen when the first failed. -/
def andThen (first : Traced ε α) (next : α → Traced ε β) : Traced ε β :=
  match first.outcome with
  | .ok value => ⟨first.events ++ (next value).events, (next value).outcome⟩
  | .error error => ⟨first.events, .error error⟩

instance : Monad (Traced ε) where
  pure value := ⟨[], .ok value⟩
  bind := andThen

/-- The same events and value, with the error renamed. -/
def mapError (computation : Traced ε α) (rename : ε → γ) : Traced γ α :=
  ⟨computation.events, computation.outcome.mapError rename⟩

/-! ## The views of a sequence -/

@[simp]
theorem events_pure (value : α) : (pure value : Traced ε α).events = [] := rfl

@[simp]
theorem outcome_pure (value : α) : (pure value : Traced ε α).outcome = .ok value := rfl

@[simp]
theorem events_emit (event : Event) : (emit event : Traced ε Unit).events = [event] := rfl

@[simp]
theorem outcome_emit (event : Event) : (emit event : Traced ε Unit).outcome = .ok () := rfl

@[simp]
theorem events_ofExcept (result : Except ε α) : (ofExcept result).events = [] := rfl

@[simp]
theorem outcome_ofExcept (result : Except ε α) : (ofExcept result).outcome = result := rfl

/-- The outcome of a sequence is the sequence of the outcomes. -/
theorem outcome_bind (first : Traced ε α) (next : α → Traced ε β) :
    (first >>= next).outcome = first.outcome >>= fun value => (next value).outcome := by
  obtain ⟨events, outcome⟩ := first
  cases outcome <;> rfl

/-- After a first part that succeeds, the events of the second follow. -/
theorem events_bind_of_ok {first : Traced ε α} {value : α} (h : first.outcome = .ok value)
    (next : α → Traced ε β) :
    (first >>= next).events = first.events ++ (next value).events := by
  obtain ⟨events, outcome⟩ := first
  cases h
  rfl

/-- After a first part that fails, nothing more happens. -/
theorem events_bind_of_error {first : Traced ε α} {error : ε}
    (h : first.outcome = .error error) (next : α → Traced ε β) :
    (first >>= next).events = first.events := by
  obtain ⟨events, outcome⟩ := first
  cases h
  rfl

theorem id_map (x : Traced ε α) : id <$> x = x := by
  obtain ⟨events, outcome⟩ := x
  cases outcome <;> simp [Functor.map, andThen]

theorem bind_assoc (x : Traced ε α) (f : α → Traced ε β) (g : β → Traced ε γ) :
    x >>= f >>= g = x >>= fun value => f value >>= g := by
  obtain ⟨events, outcome⟩ := x
  cases outcome with
  | error e => rfl
  | ok value =>
      simp only [bind, andThen]
      cases (f value).outcome <;> simp

instance : LawfulMonad (Traced ε) :=
  LawfulMonad.mk' _ id_map (fun _ _ => by simp [bind, andThen, pure]) bind_assoc

end Traced

end DomainModel
