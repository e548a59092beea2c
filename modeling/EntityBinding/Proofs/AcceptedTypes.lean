import EntityBinding.Proofs.Resolution

/-!
# The type expressions that can be resolved

A type expression is looked up in `baseTypes` by its canonical text.  The texts of `baseTypes`
are words, but for `[]byte`, and every type expression that is no name is written with a sign
that no word holds (`baseType?_ne_of_sign`).  The exception is an array, whose text is `[]byte`
if and only if it is a slice of the name `byte` (`baseType?_array_iff`).  So the type
expressions with a row are the names of the table and the slices of bytes
(`baseType?_text_iff`), and no other one is spelled like them by accident.  `canonicalNames` lists
the names of the table by what they are stored as (`TypeExpr.accepted_iff`).

`resolveType_decided_by_shape` adds the two refinements, and says what the resolution of a type
expression comes to for every tag.
-/

namespace EntityBinding

/-! ## Accepted type expressions -/

/-- The type expressions with a row: the names of the table, and the slices of bytes.  An array
with an empty length is a slice. -/
inductive TypeExpr.Accepted : TypeExpr → StorageType → BufferType → Prop
  | name {name : String} {base : StorageType} {buffer : BufferType} :
      (name, base, buffer) ∈ baseTypes → Accepted (.ident name) base buffer
  | bytes {length : Option String} : length = none ∨ length = some "" →
      Accepted (.array length (.ident "byte")) .byteVector .offset

/-- The names that are stored as a storage type and a buffer type. -/
def canonicalNames : StorageType → BufferType → List String
  | .string, .offset => ["string"]
  | .byteVector, .offset => ["[]byte"]
  | .long, .int64 => ["int", "int64"]
  | .long, .uint64 => ["uint", "uint64"]
  | .int, .int32 => ["int32", "rune"]
  | .int, .uint32 => ["uint32"]
  | .short, .int16 => ["int16"]
  | .short, .uint16 => ["uint16"]
  | .byte, .int8 => ["int8"]
  | .byte, .uint8 => ["uint8"]
  | .byte, .byte => ["byte"]
  | .double, .float64 => ["float64"]
  | .float, .float32 => ["float32"]
  | .bool, .bool => ["bool"]
  | _, _ => []

theorem mem_baseTypes_iff {name : String} {base : StorageType} {buffer : BufferType} :
    (name, base, buffer) ∈ baseTypes ↔ name ∈ canonicalNames base buffer := by
  have named : ∀ row ∈ baseTypes, row.1 ∈ canonicalNames row.2.1 row.2.2 := by decide
  have stored : ∀ name ∈ canonicalNames base buffer, (name, base, buffer) ∈ baseTypes := by
    cases base <;> cases buffer <;> decide
  exact ⟨named (name, base, buffer), stored name⟩

/-- The accepted type expressions are the canonical names, each with its types, and the slices of
the name `byte`. -/
theorem TypeExpr.accepted_iff {type : TypeExpr} {base : StorageType} {buffer : BufferType} :
    type.Accepted base buffer ↔
      (∃ name ∈ canonicalNames base buffer, type = .ident name) ∨
      (type = .array none (.ident "byte") ∨ type = .array (some "") (.ident "byte")) ∧
        base = .byteVector ∧ buffer = .offset := by
  constructor
  · rintro (row | rfl | rfl)
    · exact .inl ⟨_, mem_baseTypes_iff.1 row, rfl⟩
    · exact .inr ⟨.inl rfl, rfl, rfl⟩
    · exact .inr ⟨.inr rfl, rfl, rfl⟩
  · rintro (⟨name, named, rfl⟩ | ⟨rfl | rfl, rfl, rfl⟩)
    · exact .name (mem_baseTypes_iff.2 named)
    · exact .bytes (.inl rfl)
    · exact .bytes (.inr rfl)

/-! ## Canonical texts -/

theorem baseType?_of_mem {text : String} {row : StorageType × BufferType}
    (h : (text, row) ∈ baseTypes) : baseType? text = some row := by
  have all : ∀ p ∈ baseTypes, baseType? p.1 = some p.2 := by decide
  exact all _ h

/-- Whether a canonical text may hold a character: they consist of letters, digits and
brackets. -/
def isCanonicalSign (c : Char) : Bool := c.isAlphanum || c == '[' || c == ']'

theorem baseType?_ne_of_sign {text : String} {c : Char} (hc : c ∈ text.toList)
    (sign : isCanonicalSign c = false) (row : StorageType × BufferType) :
    baseType? text ≠ some row := by
  intro h
  have all : ∀ p ∈ baseTypes, p.1.toList.all isCanonicalSign = true := by decide
  have canonical := List.all_eq_true.1 (all _ (mem_baseTypes h)) c hc
  rw [sign] at canonical
  cases canonical

/-- The only canonical text with a bracket is that of a sequence of bytes. -/
theorem baseType?_array_iff {length : Option String} {elem : TypeExpr}
    {row : StorageType × BufferType} :
    baseType? (TypeExpr.array length elem).text = some row ↔
      length.getD "" = "" ∧ elem.text = "byte" ∧ row = (.byteVector, .offset) := by
  have bracket : ∀ p ∈ baseTypes, p.1.toList.head? = some '[' →
      p = ("[]byte", .byteVector, .offset) := by
    decide
  rw [TypeExpr.text]
  constructor
  · intro h
    have found := bracket _ (mem_baseTypes h) (by simp)
    obtain ⟨text, rfl⟩ := Prod.mk.inj found
    have chars : (length.getD "").toList ++ ']' :: elem.text.toList =
        [']', 'b', 'y', 't', 'e'] := by
      simpa using congrArg String.toList text
    cases split : (length.getD "").toList with
    | nil =>
        rw [split] at chars
        refine ⟨String.toList_eq_nil_iff.1 split, String.toList_injective ?_, rfl⟩
        exact (List.cons.inj chars).2
    | cons c rest =>
        -- A second bracket would stand among the letters.
        rw [split] at chars
        have bracket : ']' ∈ ['b', 'y', 't', 'e'] := by
          rw [← (List.cons.inj chars).2]
          simp
        exact absurd bracket (by decide)
  · rintro ⟨empty, byte, rfl⟩
    rw [empty, byte]
    rfl

/-- A map has a bracket and is no array, so its text is not canonical. -/
theorem baseType?_map_ne (key value : TypeExpr) (row : StorageType × BufferType) :
    baseType? (TypeExpr.map key value).text ≠ some row := by
  intro h
  have start : ∀ p ∈ baseTypes, p.1.toList.head? ≠ some 'm' := by decide
  exact start _ (mem_baseTypes h) (by simp [TypeExpr.text])

/-! ## Shapes of accepted type expressions -/

/-- A type expression with a canonical text is a name or an array. -/
theorem ident_or_array_of_baseType? {type : TypeExpr} {row : StorageType × BufferType}
    (h : baseType? type.text = some row) :
    (∃ name, type = .ident name) ∨ ∃ length elem, type = .array length elem := by
  -- Each other shape is refuted by a sign that its text holds in any case.
  have refuted : ∀ c ∈ type.text.toList, isCanonicalSign c = false → False :=
    fun c hc sign => baseType?_ne_of_sign hc sign row h
  cases type with
  | ident name => exact .inl ⟨name, rfl⟩
  | array length elem => exact .inr ⟨length, elem, rfl⟩
  | map key value => exact absurd h (baseType?_map_ne key value row)
  | selector package name =>
      exact (refuted '.' (by simp [TypeExpr.text]) (by decide)).elim
  | pointer elem => exact (refuted '*' (by simp [TypeExpr.text]) (by decide)).elim
  | channel elem => exact (refuted ' ' (by simp [TypeExpr.text]) (by decide)).elim
  | struct fields => exact (refuted '\x7b' (by simp [TypeExpr.text]) (by decide)).elim
  | anything => exact (refuted '\x7b' (by simp [TypeExpr.text]) (by decide)).elim
  | function params results =>
      exact (refuted '(' (by simp [TypeExpr.text]) (by decide)).elim
  | variadic elem => exact (refuted '.' (by simp [TypeExpr.text]) (by decide)).elim

/-- Nothing but the name itself is spelled `byte`. -/
theorem text_eq_byte_iff {type : TypeExpr} : type.text = "byte" ↔ type = .ident "byte" := by
  constructor
  · intro spelled
    have row : baseType? type.text = some (.byte, .byte) := by rw [spelled]; rfl
    rcases ident_or_array_of_baseType? row with ⟨name, rfl⟩ | ⟨length, elem, rfl⟩
    · exact congrArg TypeExpr.ident spelled
    · cases (baseType?_array_iff.1 row).2.2
  · rintro rfl
    rfl

theorem getD_empty_iff {length : Option String} :
    length.getD "" = "" ↔ length = none ∨ length = some "" := by
  cases length <;> simp

/-- The type expressions with a canonical text are the accepted ones. -/
theorem baseType?_text_iff {type : TypeExpr} {base : StorageType} {buffer : BufferType} :
    baseType? type.text = some (base, buffer) ↔ type.Accepted base buffer := by
  constructor
  · intro h
    rcases ident_or_array_of_baseType? h with ⟨name, rfl⟩ | ⟨length, elem, rfl⟩
    · exact .name (mem_baseTypes h)
    · obtain ⟨empty, byte, same⟩ := baseType?_array_iff.1 h
      cases same
      rw [text_eq_byte_iff.1 byte]
      exact .bytes (getD_empty_iff.1 empty)
  · rintro (row | empty)
    · exact baseType?_of_mem row
    · exact baseType?_array_iff.2 ⟨getD_empty_iff.2 empty, rfl, rfl⟩

/-! ## Resolution -/

/-- The refinement to a date needs a `long`. -/
theorem refineDate_eq (s : StorageType) (a : Annotations) :
    refineDate s a =
      if a.contains "date" = true ∧ s ≠ .long then .error (.invalidDateType s)
      else .ok (if a.contains "date" = true then .date else s) := by
  rw [refineDate]
  by_cases date : a.contains "date" = true
  · by_cases long : s = .long
    · simp [date, long]
    · simp [date, long]
  · simp [date]

/-- The refinement to a relation needs a `long`, and takes its target from the tag. -/
theorem refineLink_eq (s : StorageType) (a : Annotations) :
    refineLink s a =
      if a.contains "link" = true ∧ s ≠ .long then .error (.invalidRelationType s)
      else .ok (if a.contains "link" = true then .relation else s, a.get? "link") := by
  rw [refineLink, Annotations.contains]
  cases a.get? "link" with
  | none => simp
  | some target =>
      by_cases long : s = .long
      · simp [long]
      · simp [long]

/-- The resolution of a type with a row ends with the refinement to a date, if that fails. -/
theorem resolveType_of_refineDate_error {type : TypeExpr} {base : StorageType}
    {buffer : BufferType} {a : Annotations} {e : FieldError}
    (row : baseType? type.text = some (base, buffer)) (failed : refineDate base a = .error e) :
    resolveType type a = .error e := by
  rw [resolveType, row]
  show (refineDate base a >>= _) = _
  rw [failed]
  rfl

/-- It goes on with the refinement to a relation otherwise. -/
theorem resolveType_of_refineDate_ok {type : TypeExpr} {base dated : StorageType}
    {buffer : BufferType} {a : Annotations} (row : baseType? type.text = some (base, buffer))
    (refined : refineDate base a = .ok dated) :
    resolveType type a =
      if a.contains "link" = true ∧ dated ≠ .long then .error (.invalidRelationType dated)
      else .ok ⟨type.text, if a.contains "link" = true then .relation else dated, buffer,
        a.get? "link"⟩ := by
  rw [resolveType, row]
  show (refineDate base a >>= fun dated => refineLink dated a >>= _) = _
  rw [refined]
  show (refineLink dated a >>= _) = _
  rw [refineLink_eq]
  split
  · rfl
  · rfl

/-- What the resolution of a type expression comes to.  The type is unknown if and only if the
expression is not accepted, and it is accepted if it is a canonical name or a slice of the name
`byte`.  An accepted one keeps its buffer type.  A date and a relation need
a `long`, and since a date is no `long` any more, a relation must not be a date. -/
theorem resolveType_decided_by_shape (type : TypeExpr) (a : Annotations) :
    (resolveType type a = .error (.unknownType type.text) ↔
      ∀ base buffer, ¬type.Accepted base buffer) ∧
    (∀ base buffer, type.Accepted base buffer ↔
      (∃ name ∈ canonicalNames base buffer, type = .ident name) ∨
      (type = .array none (.ident "byte") ∨ type = .array (some "") (.ident "byte")) ∧
        base = .byteVector ∧ buffer = .offset) ∧
    ∀ base buffer, type.Accepted base buffer → resolveType type a =
      if a.contains "date" = true ∧ base ≠ .long then
        .error (.invalidDateType base)
      else if a.contains "link" = true ∧ (a.contains "date" = true ∨ base ≠ .long) then
        .error (.invalidRelationType (if a.contains "date" = true then .date else base))
      else
        .ok {
          declaredType := type.text
          storageType :=
            if a.contains "date" = true then .date
            else if a.contains "link" = true then .relation
            else base
          bufferType := buffer
          relation := a.get? "link" } := by
  refine ⟨?_, fun _ _ => TypeExpr.accepted_iff, ?_⟩
  · rw [resolveType_eq_unknownType_iff, Option.eq_none_iff_forall_ne_some]
    simp only [Prod.forall, ne_eq, baseType?_text_iff]
  · intro base buffer accepted
    have row := baseType?_text_iff.2 accepted
    have refined := refineDate_eq base a
    by_cases early : a.contains "date" = true ∧ base ≠ .long
    · rw [if_pos early] at refined ⊢
      exact resolveType_of_refineDate_error row refined
    · rw [if_neg early] at refined ⊢
      rw [resolveType_of_refineDate_ok row refined]
      by_cases date : a.contains "date" = true
      · -- A date is no `long`, so there must be no link.
        simp only [date, if_true, true_or, and_true, ne_eq, reduceCtorEq, not_false_eq_true]
        split
        · rfl
        · rfl
      · simp only [date, if_false, false_or, Bool.false_eq_true]

end EntityBinding
