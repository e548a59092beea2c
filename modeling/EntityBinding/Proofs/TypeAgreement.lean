import EntityBinding.Proofs.Validity

/-!
# The two types of a property agree

A property has a storage type and a buffer type.  The buffer type comes from the row of the
declared type alone, while the tag may still refine the storage type.  The two agree all the same,
since each storage type has its own buffer types (`StorageType.bufferTypes`), and a refinement
leads from one with certain buffer types to one with the same (`refineDate_bufferTypes`,
`refineLink_bufferTypes`).

So the buffer type of a property belongs to its storage type
(`FieldGroup.Becomes.bufferType_mem`), which gives `Property.TypesAgree`.  The question whether
generated code needs the helpers for offsets looks at storage types, and has the same answer for
buffer types in every binding that is filled by loads (`types_agree_throughout`).
-/

namespace EntityBinding

/-! ## Families of types -/

/-- The buffer types that a storage type may come with. -/
def StorageType.bufferTypes : StorageType → List BufferType
  | string | byteVector => [.offset]
  | long | date | relation => [.int64, .uint64]
  | int => [.int32, .uint32]
  | short => [.int16, .uint16]
  | byte => [.int8, .uint8, .byte]
  | double => [.float64]
  | float => [.float32]
  | bool => [.bool]

namespace StorageType

theorem eq_offset_iff : ∀ (s : StorageType), ∀ b ∈ s.bufferTypes,
    b = .offset ↔ s.isOffsetBacked = true := by
  intro s
  cases s <;> decide

theorem mem_long_iff : ∀ (s : StorageType), ∀ b ∈ s.bufferTypes,
    s ∈ [.long, .date, .relation] ↔ b ∈ [BufferType.int64, .uint64] := by
  intro s
  cases s <;> decide

/-- The other families have one storage type each, and share no buffer type. -/
theorem eq_iff_mem_bufferTypes : ∀ t ∈ [int, short, byte, double, float, bool],
    ∀ (s : StorageType), ∀ b ∈ s.bufferTypes, s = t ↔ b ∈ t.bufferTypes := by
  intro t ht s
  cases s <;> revert t <;> decide

end StorageType

/-- The storage type, the buffer type and the declared type of a property tell the same. -/
structure Property.TypesAgree (p : Property) : Prop where
  /-- The types behind an offset have the offset as their buffer type. -/
  offset : p.bufferType = .offset ↔ p.storageType.isOffsetBacked = true
  /-- They are the texts and the sequences of bytes. -/
  declared : p.bufferType = .offset ↔ p.declaredType = "string" ∨ p.declaredType = "[]byte"
  /-- Integers of 64 bits may be dates and relations. -/
  long : p.storageType ∈ [.long, .date, .relation] ↔ p.bufferType ∈ [.int64, .uint64]
  /-- Integers of 32 bits. -/
  int : p.storageType = .int ↔ p.bufferType ∈ [.int32, .uint32]
  /-- Integers of 16 bits. -/
  short : p.storageType = .short ↔ p.bufferType ∈ [.int16, .uint16]
  /-- Integers of 8 bits. -/
  byte : p.storageType = .byte ↔ p.bufferType ∈ [.int8, .uint8, .byte]
  /-- Floating point numbers of 64 bits. -/
  double : p.storageType = .double ↔ p.bufferType = .float64
  /-- Floating point numbers of 32 bits. -/
  float : p.storageType = .float ↔ p.bufferType = .float32
  /-- Truth values. -/
  bool : p.storageType = .bool ↔ p.bufferType = .bool

theorem Property.typesAgree_of_mem {p : Property}
    (mem : p.bufferType ∈ p.storageType.bufferTypes)
    (declared : p.bufferType = .offset ↔
      p.declaredType = "string" ∨ p.declaredType = "[]byte") : p.TypesAgree := by
  have alone : ∀ t ∈ [StorageType.int, .short, .byte, .double, .float, .bool],
      p.storageType = t ↔ p.bufferType ∈ t.bufferTypes :=
    fun t ht => StorageType.eq_iff_mem_bufferTypes t ht _ _ mem
  exact {
    offset := StorageType.eq_offset_iff _ _ mem
    declared := declared
    long := StorageType.mem_long_iff _ _ mem
    int := alone .int (by decide)
    short := alone .short (by decide)
    byte := alone .byte (by decide)
    double := (alone .double (by decide)).trans List.mem_singleton
    float := (alone .float (by decide)).trans List.mem_singleton
    bool := (alone .bool (by decide)).trans List.mem_singleton }

/-! ## Fields -/

/-- A date has the buffer types of the `long` that it was. -/
theorem refineDate_bufferTypes {s s' : StorageType} {a : Annotations}
    (h : refineDate s a = .ok s') : s'.bufferTypes = s.bufferTypes := by
  rcases refineDate_ok h with ⟨-, rfl⟩ | ⟨-, rfl, rfl⟩
  · rfl
  · rfl

/-- A relation has the buffer types of the `long` that it was. -/
theorem refineLink_bufferTypes {s s' : StorageType} {a : Annotations} {target : Option String}
    (h : refineLink s a = .ok (s', target)) : s'.bufferTypes = s.bufferTypes := by
  rcases (refineLink_ok h).2 with ⟨-, rfl⟩ | ⟨-, rfl, rfl⟩
  · rfl
  · rfl

namespace FieldGroup.Becomes

variable {f : FieldGroup} {p : Property}

/-- The declared type of a property has a row with its buffer type. -/
theorem row (becomes : f.Becomes p) :
    ∃ base, baseType? p.declaredType = some (base, p.bufferType) ∧
      p.storageType.bufferTypes = base.bufferTypes := by
  obtain ⟨text, base, dated, row, date, link⟩ := resolveType_ok becomes.types
  rw [← text] at row
  refine ⟨base, row, ?_⟩
  exact (refineLink_bufferTypes link).trans (refineDate_bufferTypes date)

/-- The buffer type of a property belongs to its storage type. -/
theorem bufferType_mem (becomes : f.Becomes p) : p.bufferType ∈ p.storageType.bufferTypes := by
  have all : ∀ row ∈ baseTypes, row.2.2 ∈ row.2.1.bufferTypes := by decide
  obtain ⟨base, row, family⟩ := becomes.row
  rw [family]
  exact all _ (mem_baseTypes row)

theorem typesAgree (becomes : f.Becomes p) : p.TypesAgree := by
  have all : ∀ row ∈ baseTypes, row.2.2 = .offset ↔ row.1 = "string" ∨ row.1 = "[]byte" := by
    decide
  obtain ⟨base, row, -⟩ := becomes.row
  exact Property.typesAgree_of_mem becomes.bufferType_mem (all _ (mem_baseTypes row))

end FieldGroup.Becomes

/-! ## Entities -/

/-- A property of an entity is that of a field, but for the flag of the identity. -/
theorem exists_becomes_of_mem {entity : String} {fields : List FieldGroup} {e : Entity}
    {p : Property} (built : (buildEntity entity fields).result = .ok e) (hp : p ∈ e.properties) :
    ∃ f ∈ fields, ∃ q, f.Becomes q ∧ (p = q ∨ p = q.addFlag .id) := by
  obtain ⟨-, -, identity, i, -, -, rfl⟩ := buildEntity_result_eq_ok_iff.1 built
  obtain ⟨q, hq, rfl⟩ := List.mem_map.1 hp
  obtain ⟨f, hf, becomes⟩ := exists_becomes hq
  refine ⟨f, hf, q, becomes, ?_⟩
  rw [Property.beside, Property.designated]
  split
  · split
    · exact .inl rfl
    · exact .inr rfl
  · exact .inl rfl

/-- The flag of an identity changes no type. -/
theorem Property.TypesAgree.addFlag {p : Property} (h : p.TypesAgree) (flag : Flag) :
    (p.addFlag flag).TypesAgree :=
  ⟨h.offset, h.declared, h.long, h.int, h.short, h.byte, h.double, h.float, h.bool⟩

theorem typesAgree_of_buildEntity {entity : String} {fields : List FieldGroup} {e : Entity}
    (built : (buildEntity entity fields).result = .ok e) : ∀ p ∈ e.properties, p.TypesAgree := by
  intro p hp
  obtain ⟨f, -, q, becomes, rfl | rfl⟩ := exists_becomes_of_mem built hp
  · exact becomes.typesAgree
  · exact becomes.typesAgree.addFlag .id

/-- The declared type of a property gives its buffer type. -/
theorem baseType?_of_buildEntity {entity : String} {fields : List FieldGroup} {e : Entity}
    (built : (buildEntity entity fields).result = .ok e) :
    ∀ p ∈ e.properties, (baseType? p.declaredType).map Prod.snd = some p.bufferType := by
  intro p hp
  obtain ⟨f, -, q, becomes, same⟩ := exists_becomes_of_mem built hp
  obtain ⟨base, row, -⟩ := becomes.row
  rcases same with rfl | rfl
  · exact congrArg (Option.map Prod.snd) row
  · exact congrArg (Option.map Prod.snd) row

/-- The helpers for offsets are needed if and only if a property has the buffer type of an
offset, where the types agree. -/
theorem needsOffsetHelpers_iff {b : Binding}
    (agree : ∀ e ∈ b.entities, ∀ p ∈ e.properties, p.TypesAgree) :
    b.needsOffsetHelpers = true ↔
      ∃ e ∈ b.entities, ∃ p ∈ e.properties, p.bufferType = .offset := by
  simp only [Binding.needsOffsetHelpers, List.any_eq_true]
  constructor
  · rintro ⟨e, he, p, hp, backed⟩
    exact ⟨e, he, p, hp, (agree e he p hp).offset.2 backed⟩
  · rintro ⟨e, he, p, hp, offset⟩
    exact ⟨e, he, p, hp, (agree e he p hp).offset.1 offset⟩

/-- The types of a property agree in every entity that is built, and the declared type alone
decides the buffer type, whatever the tags say.  So whenever source units have been loaded into a
binding without entities, the helpers for offsets are needed if and only if some property has
the buffer type of an offset. -/
theorem types_agree_throughout :
    (∀ entity fields e, (buildEntity entity fields).result = .ok e →
      ∀ p ∈ e.properties, p.TypesAgree) ∧
    (∀ entity fields e entity' fields' e', (buildEntity entity fields).result = .ok e →
      (buildEntity entity' fields').result = .ok e' →
      ∀ p ∈ e.properties, ∀ q ∈ e'.properties, p.declaredType = q.declaredType →
        p.bufferType = q.bufferType) ∧
    ∀ (start : Binding) (units : List SourceUnit), start.entities = [] →
      ∀ b ∈ start.trace units, b.needsOffsetHelpers = true ↔
        ∃ e ∈ b.entities, ∃ p ∈ e.properties, p.bufferType = .offset := by
  refine ⟨fun _ _ _ built => typesAgree_of_buildEntity built, ?_, ?_⟩
  · intro _ _ _ _ _ _ built built' p hp q hq same
    have row := baseType?_of_buildEntity built p hp
    rw [same, baseType?_of_buildEntity built' q hq] at row
    exact (Option.some.inj row).symm
  · intro start units fresh b hb
    refine needsOffsetHelpers_iff fun e he => ?_
    rcases Binding.mem_trace hb he with old | ⟨named, built⟩
    · rw [fresh] at old
      cases old
    · exact typesAgree_of_buildEntity built

/-- The fields of an order, one for each way that a declared type comes to its two types. -/
def orderFields : List FieldGroup := [
  ⟨["ID"], .ident "uint64", none⟩,
  ⟨["Customer"], .ident "uint64", some "\x60link:\"Customer\"\x60"⟩,
  ⟨["Placed"], .ident "int64", some "\x60date\x60"⟩,
  ⟨["Mark"], .ident "rune", none⟩,
  ⟨["Receipt"], .array none (.ident "byte"), none⟩]

/-- The types of an order agree row by row, and the bytes of its receipt need the helpers for
offsets. -/
theorem types_agree_throughout_order :
    let orders : SourceUnit := ⟨"shop", [.group [.type "Order" (.struct orderFields)]]⟩
    ∃ e, (buildEntity "Order" orderFields).result = .ok e ∧
      e.properties.map (fun p => (p.declaredType, p.storageType, p.bufferType)) =
        [("uint64", .long, .uint64), ("uint64", .relation, .uint64), ("int64", .date, .int64),
          ("rune", .int, .int32), ("[]byte", .byteVector, .offset)] ∧
      (∀ p ∈ e.properties, p.TypesAgree) ∧
      ((Binding.new "").load orders).binding.entities = [e] ∧
      ((Binding.new "").load orders).binding.needsOffsetHelpers = true := by
  intro orders
  obtain ⟨agree, -, helpers⟩ := types_agree_throughout
  have built : (buildEntity "Order" orderFields).result = .ok _ := rfl
  have loaded : ((Binding.new "").load orders).binding.entities = [_] := rfl
  have last : ((Binding.new "").load orders).binding ∈ (Binding.new "").trace [orders] :=
    List.mem_append_right _ (List.mem_singleton_self _)
  refine ⟨_, built, by decide +kernel, agree _ _ _ built, loaded, ?_⟩
  refine (helpers (.new "") [orders] rfl _ last).2 ⟨_, List.mem_singleton_self _, ?_⟩
  decide +kernel

end EntityBinding
