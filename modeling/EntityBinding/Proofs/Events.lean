import EntityBinding.Proofs.Identity

/-!
# Events of a build

What a build does with a field it tells by events that tell of the field alone
(`Draft.tellsOfFields_addFields`).  The events of the entity come at its end, and a draft with a
marked property is finished without any (`Draft.finish_of_marked`).  So the event of an inferred
identity is emitted only if no property is marked (`identityInferred_not_mem_of_marked`).
-/

namespace EntityBinding

/-- Whether an event tells of one field. -/
def Event.isOfField : Event → Bool
  | transientSkipped .. | propertyAccepted .. | valueIndexRequested .. => true
  | _ => false

/-- A step emits no events but those of fields. -/
def Outcome.TellsOfFields {α : Type} (o : Outcome α) : Prop :=
  ∀ e ∈ o.events, e.isOfField = true

namespace Outcome

variable {α β : Type}

theorem tellsOfFields_of_silent {o : Outcome α} (silent : o.events = []) : o.TellsOfFields := by
  rw [TellsOfFields, silent]
  exact fun e he => nomatch he

/-- Two steps tell of fields if both do. -/
theorem TellsOfFields.bind {o : Outcome α} {f : α → Outcome β} (first : o.TellsOfFields)
    (second : ∀ a, (f a).TellsOfFields) : (o >>= f).TellsOfFields := by
  intro e he
  rcases mem_events_bind he with he | ⟨a, -, he⟩
  · exact first e he
  · exact second a e he

end Outcome

/-! ## Fields -/

namespace Draft

theorem tellsOfFields_check {α : Type} (d : Draft) (field : String) (r : Except FieldError α) :
    (d.check field r).TellsOfFields := by
  cases r with
  | ok a => exact Outcome.tellsOfFields_of_silent rfl
  | error e => exact Outcome.tellsOfFields_of_silent rfl

theorem tellsOfFields_readProperty (d : Draft) (name : String) (type : TypeExpr)
    (a : Annotations) : (d.readProperty name type a).TellsOfFields := by
  refine (d.tellsOfFields_check name _).bind fun resolved => ?_
  have flags : ∀ p : Property, ∀ e ∈ p.deriveFlags.events, e.isOfField = true := by
    intro p e he
    rw [Property.deriveFlags_events] at he
    split at he
    · rw [List.mem_singleton.1 he]
      rfl
    · cases he
  dsimp only
  split
  · exact flags _
  · exact flags _

theorem tellsOfFields_accept (d : Draft) (p : Property) : (d.accept p).TellsOfFields := by
  rw [accept]
  split
  · exact Outcome.tellsOfFields_of_silent rfl
  · refine (d.tellsOfFields_check p.name _).bind fun named => ?_
    split
    · exact Outcome.tellsOfFields_of_silent rfl
    · intro e he
      rw [List.mem_singleton.1 he]
      rfl

theorem tellsOfFields_addField (d : Draft) (f : FieldGroup) : (d.addField f).TellsOfFields := by
  rw [addField]
  split
  · refine (d.tellsOfFields_check _ _).bind fun a => ?_
    split
    · intro e he
      rw [List.mem_singleton.1 he]
      rfl
    · exact (d.tellsOfFields_readProperty _ _ _).bind fun p => d.tellsOfFields_accept p
  · exact Outcome.tellsOfFields_of_silent rfl

/-- While the fields of a struct are read, all events are those of fields. -/
theorem tellsOfFields_addFields : ∀ (fields : List FieldGroup) (d : Draft),
    (d.addFields fields).TellsOfFields
  | [], _ => Outcome.tellsOfFields_of_silent rfl
  | f :: rest, d => by
      rw [addFields]
      exact (d.tellsOfFields_addField f).bind fun next => tellsOfFields_addFields rest next

end Draft

/-- Nothing is inferred in a build with a marked property. -/
theorem identityInferred_not_mem_of_marked {entity : String} {fields : List FieldGroup}
    {p : Property} (pass : AllPass entity fields)
    (hp : p ∈ fields.filterMap FieldGroup.property?) (marked : p.isMarked = true)
    (name property : String) :
    Event.identityInferred name property ∉ (buildEntity entity fields).events := by
  intro inferred
  -- The event would come from a field, from the end of the draft or from the whole entity.
  rcases Outcome.mem_events_bind inferred with ofField | ⟨draft, read, inferred⟩
  · cases Draft.tellsOfFields_addFields fields _ _ ofField
  · have passed := Draft.addFields_new_of_allPass pass
    obtain rfl := Except.ok.inj (passed.symm.trans read)
    rcases Outcome.mem_events_bind inferred with finished | ⟨e, -, discovered⟩
    · rw [Draft.ofFields, Draft.finish_of_marked hp marked] at finished
      cases finished
    · cases List.mem_singleton.1 discovered

end EntityBinding
