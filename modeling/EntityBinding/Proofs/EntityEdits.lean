import EntityBinding.Model.Entity
import Mathlib.Data.List.Basic

/-!
# Edits of an entity

After discovery an entity is changed by edits.  A property is added at the end, or the property at
a position becomes the identity or is changed in place.  None of them moves a property or removes
one.

*Positions.*  An edit changes the property at a position by a function of its own (`Edit.effect`),
so the property at a position is the one that was added there, changed by all edits behind it
(`Entity.getElem?_run`).  Every position was taken in this way (`Entity.exists_push_of_lt`).

*Identity.*  The identity is the position of a property (`Entity.IdentityInRange`).  A new entity
has none, and every edit keeps it in range.  That is what makes counting enough to tell whether
there are other properties (`Entity.hasOtherProperty_iff`).

`edits_keep_positions` puts both together for all entities that edits can come to.
-/

namespace EntityBinding

/-- A change of an entity. -/
inductive Edit where
  /-- A property is added at the end. -/
  | push (p : Property)
  /-- The property at `i` becomes the identity. -/
  | designate (i : Nat)
  /-- The property at `i` is changed in place. -/
  | change (i : Nat) (f : Property → Property)

/-- What an edit makes of the property at `i`. -/
def Edit.effect (i : Nat) : Edit → Property → Property
  | change j f, p => if j = i then f p else p
  | _, p => p

/-- What some edits, one after the other, make of the property at `i`. -/
def Edit.effects (i : Nat) (edits : List Edit) (p : Property) : Property :=
  edits.foldl (fun q edit => edit.effect i q) p

namespace Entity

/-- The entity after an edit. -/
def apply (e : Entity) : Edit → Entity
  | .push p => e.push p
  | .designate i => e.setIdentity i
  | .change i f => e.modify i f

/-- The entity after some edits, one after the other. -/
def run (e : Entity) (edits : List Edit) : Entity := edits.foldl apply e

/-- The position of a property that is added: the last one that there is then. -/
def pushPosition (e : Entity) (p : Property) : Nat := (e.push p).properties.length - 1

variable {e : Entity}

theorem run_append (e : Entity) (xs ys : List Edit) : e.run (xs ++ ys) = (e.run xs).run ys :=
  List.foldl_append

theorem pushPosition_eq (e : Entity) (p : Property) : e.pushPosition p = e.properties.length := by
  simp [pushPosition, push]

/-! ## Positions -/

theorem setIdentity_properties (e : Entity) (i : Nat) :
    (e.setIdentity i).properties = e.properties := by
  rw [setIdentity]
  split
  · rfl
  · rfl

/-- An edit adds a property or leaves as many as there are. -/
theorem length_apply (e : Entity) (edit : Edit) :
    (e.apply edit).properties.length = e.properties.length ∨
      ∃ p, edit = .push p ∧ (e.apply edit).properties.length = e.properties.length + 1 := by
  cases edit with
  | push p => exact .inr ⟨p, rfl, List.length_append⟩
  | designate i => exact .inl (congrArg List.length (e.setIdentity_properties i))
  | change i f => exact .inl (List.length_modify f e.properties i)

theorem length_le_apply (e : Entity) (edit : Edit) :
    e.properties.length ≤ (e.apply edit).properties.length := by
  rcases e.length_apply edit with same | ⟨p, -, more⟩
  · exact Nat.le_of_eq same.symm
  · omega

/-- A property stays where it is, and an edit changes it by its effect there. -/
theorem getElem?_apply {i : Nat} {p : Property} (at_i : e.properties[i]? = some p) (edit : Edit) :
    (e.apply edit).properties[i]? = some (edit.effect i p) := by
  cases edit with
  | push q =>
      obtain ⟨inRange, -⟩ := List.getElem?_eq_some_iff.1 at_i
      exact (List.getElem?_append_left inRange).trans at_i
  | designate j =>
      show (e.setIdentity j).properties[i]? = some p
      rw [setIdentity_properties, at_i]
  | change j f =>
      show (e.properties.modify j f)[i]? = _
      rw [List.getElem?_modify, at_i]
      rfl

/-- A property stays where it is in a run, and all edits of the run have their effect on it. -/
theorem getElem?_run {i : Nat} : ∀ (edits : List Edit) {e : Entity} {p : Property},
    e.properties[i]? = some p → (e.run edits).properties[i]? = some (Edit.effects i edits p)
  | [], _, _, at_i => at_i
  | edit :: rest, _, _, at_i => getElem?_run rest (getElem?_apply at_i edit)

/-- A property that was added is where it was put, changed by the edits behind it. -/
theorem getElem?_run_push (e : Entity) (before after : List Edit) (p : Property) :
    (e.run (before ++ .push p :: after)).properties[(e.run before).pushPosition p]? =
      some (Edit.effects ((e.run before).pushPosition p) after p) := by
  have added : ((e.run before).push p).properties[(e.run before).pushPosition p]? = some p := by
    rw [pushPosition_eq]
    exact List.getElem?_concat_length
  rw [run_append]
  exact getElem?_run after added

/-- Every position that a run fills was taken by a property that it adds. -/
theorem exists_push_of_lt {i : Nat} : ∀ (edits : List Edit) {e : Entity},
    e.properties.length ≤ i → i < (e.run edits).properties.length →
      ∃ before p after, edits = before ++ .push p :: after ∧ (e.run before).pushPosition p = i
  | [], _, free, filled => absurd filled (Nat.not_lt.2 free)
  | edit :: rest, e, free, filled => by
      -- Either this edit takes the position, or the position is still free behind it.
      rcases e.length_apply edit with same | ⟨p, rfl, more⟩
      · obtain ⟨before, p, after, rfl, position⟩ :=
          exists_push_of_lt rest (e := e.apply edit) (by omega) filled
        exact ⟨edit :: before, p, after, rfl, position⟩
      · by_cases here : e.properties.length = i
        · exact ⟨[], p, rest, rfl, (e.pushPosition_eq p).trans here⟩
        · obtain ⟨before, q, after, rfl, position⟩ :=
            exists_push_of_lt rest (e := e.apply (.push p)) (by omega) filled
          exact ⟨.push p :: before, q, after, rfl, position⟩

/-! ## The identity -/

/-- The identity, if there is one, is the position of a property. -/
def IdentityInRange (e : Entity) : Prop := ∀ i, e.identity = some i → i < e.properties.length

theorem identityInRange_new (name : String) : (new name).IdentityInRange := by
  intro i none
  cases none

/-- Only a position in range becomes the identity. -/
theorem identity_apply {i : Nat} {edit : Edit} (identity : (e.apply edit).identity = some i) :
    e.identity = some i ∨ edit = .designate i ∧ i < e.properties.length := by
  cases edit with
  | push p => exact .inl identity
  | change j f => exact .inl identity
  | designate j =>
      have identity : (e.setIdentity j).identity = some i := identity
      rw [setIdentity] at identity
      split at identity
      next inRange =>
        cases identity
        exact .inr ⟨rfl, inRange⟩
      next => exact .inl identity

/-- An edit keeps the identity in range. -/
theorem IdentityInRange.apply (h : e.IdentityInRange) (edit : Edit) :
    (e.apply edit).IdentityInRange := by
  intro i identity
  have inRange : i < e.properties.length := by
    rcases identity_apply identity with kept | ⟨-, inRange⟩
    · exact h i kept
    · exact inRange
  exact Nat.lt_of_lt_of_le inRange (e.length_le_apply edit)

/-- A run keeps the identity in range. -/
theorem IdentityInRange.run : ∀ (edits : List Edit) {e : Entity}, e.IdentityInRange →
    (e.run edits).IdentityInRange
  | [], _, h => h
  | edit :: rest, _, h => IdentityInRange.run rest (h.apply edit)

/-- An identity in range is that of a property. -/
theorem IdentityInRange.isSome_identityProperty? (h : e.IdentityInRange) :
    e.identityProperty?.isSome = e.identity.isSome := by
  rw [identityProperty?]
  cases identity : e.identity with
  | none => rfl
  | some i => simp [h i identity]

/-- There are other properties if and only if there are more than identities. -/
theorem hasOtherProperty_iff (h : e.IdentityInRange) :
    e.hasOtherProperty = true ↔ e.identity.toList.length < e.properties.length := by
  simp only [hasOtherProperty, List.any_eq_true, List.mem_range, bne_iff_ne, ne_eq]
  cases identity : e.identity with
  | none =>
      simp only [reduceCtorEq, not_false_eq_true, and_true, Option.toList_none, List.length_nil]
      exact ⟨fun ⟨i, inRange⟩ => Nat.zero_lt_of_lt inRange, fun some => ⟨0, some⟩⟩
  | some i =>
      have inRange := h i identity
      simp only [Option.some.injEq, Option.toList_some, List.length_singleton]
      constructor
      · rintro ⟨j, other, different⟩
        omega
      · -- Of the first two positions one is not the identity.
        intro two
        by_cases first : i = 0
        · exact ⟨1, two, by omega⟩
        · exact ⟨0, by omega, by omega⟩

/-- A new entity after some edits. -/
def edited (name : String) (edits : List Edit) : Entity := (new name).run edits

/-- After any edits of a new entity, its identity is in range if it has one, and is the property
that was added at that position, changed by the edits behind it.  A position becomes the identity if
it is in range, and else nothing changes.  Every property that was added is where it was put.  There
are other properties if and only if there are more properties than identities. -/
theorem edits_keep_positions (name : String) (edits : List Edit) :
    (∀ i, (edited name edits).identity = some i → i < (edited name edits).properties.length) ∧
    (edited name edits).identityProperty?.isSome = (edited name edits).identity.isSome ∧
    (∀ i, (edited name edits).identity = some i → ∃ before p after,
      edits = before ++ .push p :: after ∧ (edited name before).pushPosition p = i ∧
        (edited name edits).identityProperty? = some (Edit.effects i after p)) ∧
    (∀ i, i < (edited name edits).properties.length →
      edited name (edits ++ [.designate i]) = { edited name edits with identity := some i }) ∧
    (∀ i, (edited name edits).properties.length ≤ i →
      edited name (edits ++ [.designate i]) = edited name edits) ∧
    (∀ before p after, edits = before ++ .push p :: after →
      (edited name edits).properties[(edited name before).pushPosition p]? =
        some (Edit.effects ((edited name before).pushPosition p) after p)) ∧
    ((edited name edits).hasOtherProperty = true ↔
      (edited name edits).identity.toList.length < (edited name edits).properties.length) := by
  have inRange : (edited name edits).IdentityInRange := (identityInRange_new name).run edits
  have designated : ∀ i, edited name (edits ++ [.designate i]) =
      (edited name edits).setIdentity i := fun i => run_append _ _ _
  refine ⟨inRange, inRange.isSome_identityProperty?, ?_, ?_, ?_, ?_, hasOtherProperty_iff inRange⟩
  · intro i identity
    obtain ⟨before, p, after, rfl, position⟩ :=
      exists_push_of_lt edits (Nat.zero_le i) (inRange i identity)
    refine ⟨before, p, after, rfl, position, ?_⟩
    rw [identityProperty?, identity, Option.bind_some]
    cases position
    exact getElem?_run_push (new name) before after p
  · intro i known
    rw [designated, setIdentity, if_pos known]
  · intro i unknown
    rw [designated, setIdentity, if_neg (Nat.not_lt.2 unknown)]
  · rintro before p after rfl
    exact getElem?_run_push (new name) before after p

/-- An identity that is renamed keeps its position. -/
example (p q : Property) :
    (edited "User" [.push p, .push q, .designate 1, .designate 7,
      .change 1 fun p => { p with name := "Key" }]).identityProperty? =
        some { q with name := "Key" } := by
  rfl

end Entity

end EntityBinding
