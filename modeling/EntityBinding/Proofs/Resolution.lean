import EntityBinding.Discovery.Resolution

/-!
# What a resolved type says

A type that is resolved has a row in `baseTypes`.  It keeps the buffer type of the row, and
its storage type is that of the row, or a date or a relation if the tag says so and the row
is a `long` (`resolveType_ok`).  No row is a relation, so a resolved type is a relation if
and only if the tag has a `link` (`resolveType_relation`).
-/

namespace EntityBinding

/-- A step that consists of two comes to a value if both do. -/
theorem exists_of_bind_eq_ok {ε α β : Type} {x : Except ε α} {f : α → Except ε β} {b : β}
    (h : x >>= f = .ok b) : ∃ a, x = .ok a ∧ f a = .ok b := by
  cases x with
  | error e => cases h
  | ok a => exact ⟨a, rfl, h⟩

/-- A step that consists of two fails in one of them. -/
theorem cases_of_bind_eq_error {ε α β : Type} {x : Except ε α} {f : α → Except ε β} {e : ε}
    (h : x >>= f = .error e) : x = .error e ∨ ∃ a, x = .ok a ∧ f a = .error e := by
  cases x with
  | error e' =>
      cases h
      exact .inl rfl
  | ok a => exact .inr ⟨a, rfl, h⟩

/-- What a value is mapped to comes from the value. -/
theorem exists_of_map_eq_ok {ε α β : Type} {x : Except ε α} {f : α → β} {b : β}
    (h : x.map f = .ok b) : ∃ a, x = .ok a ∧ f a = b := by
  cases x with
  | error e => cases h
  | ok a => exact ⟨a, rfl, Except.ok.inj h⟩

theorem mem_baseTypes {text : String} {row : StorageType × BufferType}
    (h : baseType? text = some row) : (text, row) ∈ baseTypes := by
  obtain ⟨before, after, rows, -⟩ := List.lookup_eq_some_iff.1 h
  simp [rows]

/-- What holds of all rows holds of a row that is looked up. -/
theorem baseType?_forall {P : StorageType → BufferType → Prop}
    (all : ∀ row ∈ baseTypes, P row.2.1 row.2.2) {text : String} {s : StorageType}
    {b : BufferType} (h : baseType? text = some (s, b)) : P s b := by
  obtain ⟨before, after, rows, -⟩ := List.lookup_eq_some_iff.1 h
  exact all (text, s, b) (by simp [rows])

/-- No declared type is a relation by itself. -/
theorem baseType?_ne_relation {text : String} {s : StorageType} {b : BufferType}
    (h : baseType? text = some (s, b)) : s ≠ .relation :=
  baseType?_forall (P := fun s _ => s ≠ .relation) (by decide) h

/-- Of a tag only `date` and `link` have a part in the resolution of a type. -/
theorem resolveType_congr {a b : Annotations} (date : b.contains "date" = a.contains "date")
    (link : b.get? "link" = a.get? "link") (type : TypeExpr) :
    resolveType type b = resolveType type a := by
  have dated : ∀ s, refineDate s b = refineDate s a := fun s => by
    rw [refineDate, date, refineDate]
  have linked : ∀ s, refineLink s b = refineLink s a := fun s => by
    rw [refineLink, link, refineLink]
  simp only [resolveType, dated, linked]

/-- A storage type that `date` left, which was a `long` if the tag has the entry. -/
theorem refineDate_ok {s s' : StorageType} {a : Annotations} (h : refineDate s a = .ok s') :
    (a.contains "date" = false ∧ s' = s) ∨
      (a.contains "date" = true ∧ s = .long ∧ s' = .date) := by
  rw [refineDate] at h
  cases hd : a.contains "date" with
  | false =>
      simp only [hd, Bool.false_eq_true, if_false] at h
      exact .inl ⟨rfl, (Except.ok.inj h).symm⟩
  | true =>
      simp only [hd, if_true] at h
      split at h
      next long => exact .inr ⟨rfl, long, (Except.ok.inj h).symm⟩
      next => cases h

/-- A storage type that `link` left, which was a `long` if the tag has the entry. -/
theorem refineLink_ok {s s' : StorageType} {a : Annotations} {target : Option String}
    (h : refineLink s a = .ok (s', target)) :
    target = a.get? "link" ∧
      ((a.contains "link" = false ∧ s' = s) ∨
        (a.contains "link" = true ∧ s = .long ∧ s' = .relation)) := by
  rw [refineLink] at h
  rw [Annotations.contains]
  cases hl : a.get? "link" with
  | none =>
      simp only [hl] at h
      cases h
      exact ⟨rfl, .inl ⟨rfl, rfl⟩⟩
  | some name =>
      simp only [hl] at h
      split at h
      next long =>
        cases h
        exact ⟨rfl, .inr ⟨rfl, long, rfl⟩⟩
      next => cases h

/-- What a resolved type consists of: the text and the buffer type of a row, and the storage
type of the row after the two refinements. -/
theorem resolveType_ok {type : TypeExpr} {a : Annotations} {r : ResolvedType}
    (h : resolveType type a = .ok r) :
    r.declaredType = type.text ∧ ∃ base dated,
      baseType? type.text = some (base, r.bufferType) ∧
      refineDate base a = .ok dated ∧
      refineLink dated a = .ok (r.storageType, r.relation) := by
  rw [resolveType] at h
  cases hb : baseType? type.text with
  | none =>
      rw [hb] at h
      cases h
  | some row =>
      obtain ⟨base, bufferType⟩ := row
      rw [hb] at h
      obtain ⟨dated, hd, h⟩ := exists_of_bind_eq_ok h
      obtain ⟨linked, hl, h⟩ := exists_of_bind_eq_ok h
      cases h
      exact ⟨rfl, base, dated, rfl, hd, hl⟩

/-- A resolved type has a target if and only if it is a relation, which takes a `link`. -/
theorem resolveType_relation {type : TypeExpr} {a : Annotations} {r : ResolvedType}
    (h : resolveType type a = .ok r) :
    (r.relation.isSome = true ↔ r.storageType = .relation) ∧
      (r.relation.isSome = true ↔ a.contains "link" = true) := by
  obtain ⟨-, base, dated, hb, hd, hl⟩ := resolveType_ok h
  have base_ne := baseType?_ne_relation hb
  have dated_ne : dated ≠ .relation := by
    rcases refineDate_ok hd with ⟨-, rfl⟩ | ⟨-, -, rfl⟩
    · exact base_ne
    · intro same
      cases same
  obtain ⟨target, cases⟩ := refineLink_ok hl
  have linked : r.relation.isSome = a.contains "link" := by rw [target]; rfl
  rcases cases with ⟨noLink, same⟩ | ⟨link, -, relation⟩
  · rw [linked, noLink, same]
    simp [dated_ne]
  · rw [linked, link, relation]
    simp

/-! ## Unknown types -/

theorem refineDate_ne_unknownType (s : StorageType) (a : Annotations) (text : String) :
    refineDate s a ≠ .error (.unknownType text) := by
  rw [refineDate]
  split
  · split <;> simp
  · simp

theorem refineLink_ne_unknownType (s : StorageType) (a : Annotations) (text : String) :
    refineLink s a ≠ .error (.unknownType text) := by
  rw [refineLink]
  split
  · simp
  · split <;> simp

/-- A type is unknown if and only if its text is no canonical one. -/
theorem resolveType_eq_unknownType_iff {type : TypeExpr} {a : Annotations} :
    resolveType type a = .error (.unknownType type.text) ↔ baseType? type.text = none := by
  rw [resolveType]
  cases baseType? type.text with
  | none => simp
  | some row =>
      obtain ⟨base, bufferType⟩ := row
      refine ⟨fun failed => ?_, fun none => by cases none⟩
      rcases cases_of_bind_eq_error failed with date | ⟨dated, -, failed⟩
      · exact absurd date (refineDate_ne_unknownType base a _)
      · rcases cases_of_bind_eq_error failed with link | ⟨linked, -, failed⟩
        · exact absurd link (refineLink_ne_unknownType dated a _)
        · cases failed

end EntityBinding
