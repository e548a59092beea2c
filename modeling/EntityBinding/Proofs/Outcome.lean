import EntityBinding.Discovery.Event

/-!
# Results and events of outcomes

The result of a step that consists of two is the result of the second one on the value of
the first, or the error of the first.  The events play no part in it.  They are those of the
first step, followed by those of the second one if it is taken.
-/

namespace EntityBinding.Outcome

variable {α β γ : Type}

/-- What follows a step that comes to a value goes on from the value. -/
theorem result_bind_of_ok {o : Outcome α} {a : α} (h : o.result = .ok a) (f : α → Outcome β) :
    (o >>= f).result = (f a).result := by
  show (o.andThen f).result = _
  simp [andThen, h]

/-- Nothing follows a step that fails. -/
theorem result_bind_of_error {o : Outcome α} {e : DiscoveryError} (h : o.result = .error e)
    (f : α → Outcome β) : (o >>= f).result = .error e := by
  show (o.andThen f).result = _
  simp [andThen, h]

/-- Three steps are two of which one is two. -/
theorem bind_assoc (o : Outcome α) (f : α → Outcome β) (g : β → Outcome γ) :
    o >>= f >>= g = o >>= fun a => f a >>= g := by
  show (o.andThen f).andThen g = o.andThen fun a => (f a).andThen g
  cases first : o.result with
  | error e => simp [andThen, first]
  | ok a =>
      cases second : (f a).result with
      | error e => simp [andThen, first, second]
      | ok b => simp [andThen, first, second]

/-- Every event of two steps comes from the first, or from the second on the value of the
first. -/
theorem mem_events_bind {o : Outcome α} {f : α → Outcome β} {e : Event}
    (h : e ∈ (o >>= f).events) : e ∈ o.events ∨ ∃ a, o.result = .ok a ∧ e ∈ (f a).events := by
  have h : e ∈ (o.andThen f).events := h
  rw [andThen] at h
  split at h
  next a value =>
    rcases List.mem_append.1 h with first | second
    · exact .inl first
    · exact .inr ⟨a, value, second⟩
  next => exact .inl h

end EntityBinding.Outcome
