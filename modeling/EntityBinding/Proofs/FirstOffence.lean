import EntityBinding.Proofs.Identity

/-!
# The first offence of a struct

A build ends with the error of the first field that does not pass (`firstOffence?`), or else as the
draft of its fields does (`buildEntity_result_eq`).

What a field makes of the fields before it are the names of those that are marked and the storage
names that are taken, and no more.  So fields that leave the same names (`SameNames`) can stand for
each other before any others (`firstOffence?_congr`).
-/

namespace EntityBinding

/-- The error of the first of some fields that does not pass, after the fields `earlier`. -/
def firstOffence? (entity : String) (earlier : List FieldGroup) :
    List FieldGroup → Option DiscoveryError
  | [] => none
  | f :: rest => (f.offence? entity earlier).or (firstOffence? entity (earlier ++ [f]) rest)

variable {entity : String}

/-! ## Builds -/

theorem firstOffence?_append (ys : List FieldGroup) : ∀ (xs earlier : List FieldGroup),
    firstOffence? entity earlier (xs ++ ys) =
      (firstOffence? entity earlier xs).or (firstOffence? entity (earlier ++ xs) ys)
  | [], earlier => by rw [firstOffence?, Option.none_or, List.append_nil, List.nil_append]
  | x :: xs, earlier => by
      rw [List.cons_append, firstOffence?, firstOffence?, firstOffence?_append ys xs,
        Option.or_assoc, List.append_assoc]
      rfl

theorem firstOffence?_of_allPass : ∀ (fields earlier : List FieldGroup),
    AllPass entity (earlier ++ fields) → firstOffence? entity earlier fields = none
  | [], _, _ => rfl
  | f :: rest, earlier, pass => by
      rw [firstOffence?, FieldGroup.offence?_eq_none.2 (pass earlier f rest rfl), Option.none_or]
      exact firstOffence?_of_allPass rest _ (by simpa using pass)

theorem firstOffence?_of_offends {before after : List FieldGroup} {f : FieldGroup} {c : Check}
    {e : DiscoveryError} (pass : AllPass entity before) (offends : f.Offends entity before c e) :
    firstOffence? entity [] (before ++ f :: after) = some e := by
  rw [firstOffence?_append, firstOffence?_of_allPass before [] pass, Option.none_or,
    List.nil_append, firstOffence?, FieldGroup.offence?_eq_some.2 ⟨c, offends⟩, Option.some_or]

/-- No field offends if and only if all fields pass. -/
theorem firstOffence?_eq_none_iff {fields : List FieldGroup} :
    firstOffence? entity [] fields = none ↔ AllPass entity fields := by
  refine ⟨fun none => ?_, firstOffence?_of_allPass fields []⟩
  rcases allPass_or_offends entity fields with pass | ⟨before, f, after, c, e, rfl, pass, offends⟩
  · exact pass
  · rw [firstOffence?_of_offends pass offends] at none
    cases none

/-- A build ends with its first offence, or else as the draft of its fields does. -/
theorem buildEntity_result_eq (entity : String) (fields : List FieldGroup) :
    (buildEntity entity fields).result =
      match firstOffence? entity [] fields with
      | some e => .error e
      | none => (Draft.ofFields entity fields).finish.result := by
  rcases allPass_or_offends entity fields with pass | ⟨before, f, after, c, e, rfl, pass, offends⟩
  · rw [firstOffence?_eq_none_iff.2 pass, buildEntity_result_of_allPass pass]
  · rw [firstOffence?_of_offends pass offends, buildEntity_result_of_offends pass offends]

/-! ## What the earlier fields leave -/

/-- Two lists of fields leave the same names to the fields behind them. -/
structure SameNames (xs ys : List FieldGroup) : Prop where
  /-- The same fields are marked. -/
  marked : markedNames xs = markedNames ys
  /-- The same storage names are taken. -/
  taken : takenNames xs = takenNames ys

theorem SameNames.refl (xs : List FieldGroup) : SameNames xs xs := ⟨rfl, rfl⟩

theorem SameNames.append {xs ys xs' ys' : List FieldGroup} (left : SameNames xs ys)
    (right : SameNames xs' ys') : SameNames (xs ++ xs') (ys ++ ys') where
  marked := by
    have left := left.marked
    have right := right.marked
    simp only [markedNames] at left right ⊢
    simp only [List.filterMap_append, List.filter_append, List.map_append, left, right]
  taken := by
    have left := left.taken
    have right := right.taken
    simp only [takenNames] at left right ⊢
    simp only [List.filterMap_append, List.map_append, left, right]

/-- A field that is not stored leaves no name. -/
theorem SameNames.of_not_stored {f : FieldGroup} (h : f.stored? = none) : SameNames [f] [] where
  marked := by simp [markedNames, h]
  taken := by simp [takenNames, h]

/-- The checks of a field look at the names before it alone. -/
theorem FieldGroup.offence?_congr {xs ys : List FieldGroup} (same : SameNames xs ys)
    (f : FieldGroup) : f.offence? entity xs = f.offence? entity ys := by
  have checks : Check.error? entity xs f = Check.error? entity ys f := by
    funext c
    cases c with
    | identity => simp only [Check.error?, Check.storedError?, same.marked]
    | uniqueName => simp only [Check.error?, Check.storedError?, same.taken]
    | names => rfl
    | tag => rfl
    | type => rfl
    | flags => rfl
    | storageName => rfl
  rw [offence?, offence?, checks]

theorem firstOffence?_congr : ∀ (fields : List FieldGroup) {xs ys : List FieldGroup},
    SameNames xs ys → firstOffence? entity xs fields = firstOffence? entity ys fields
  | [], _, _, _ => rfl
  | f :: rest, _, _, same => by
      rw [firstOffence?, firstOffence?, f.offence?_congr same,
        firstOffence?_congr rest (same.append (.refl [f]))]

/-- A field that offends like another one, and leaves the same names, can stand in its place. -/
theorem firstOffence?_replace {f g : FieldGroup} {before : List FieldGroup}
    (after : List FieldGroup) (offence : g.offence? entity before = f.offence? entity before)
    (same : SameNames [g] [f]) :
    firstOffence? entity [] (before ++ g :: after) =
      firstOffence? entity [] (before ++ f :: after) := by
  simp only [firstOffence?_append, List.nil_append, firstOffence?, offence,
    firstOffence?_congr after ((SameNames.refl before).append same)]

end EntityBinding
