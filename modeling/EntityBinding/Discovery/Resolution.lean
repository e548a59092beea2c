import EntityBinding.Declaration.TypeExpr
import EntityBinding.Model.Annotations
import EntityBinding.Model.Error

/-!
# Resolved types

The canonical text of a declared type decides its storage type and its buffer type
(`baseTypes`).  Two entries of the tag refine a `long`: `date` makes it a date, and
`link` makes it a relation to the entity that it names.  A field with both is a date
first and then no `long` any more, so the relation fails.
-/

namespace EntityBinding

/-- The declared types that can be stored. -/
def baseTypes : List (String × StorageType × BufferType) := [
  ("string", .string, .offset),
  ("int", .long, .int64),
  ("int64", .long, .int64),
  ("uint", .long, .uint64),
  ("uint64", .long, .uint64),
  ("int32", .int, .int32),
  ("rune", .int, .int32),
  ("uint32", .int, .uint32),
  ("int16", .short, .int16),
  ("uint16", .short, .uint16),
  ("int8", .byte, .int8),
  ("uint8", .byte, .uint8),
  ("byte", .byte, .byte),
  ("[]byte", .byteVector, .offset),
  ("float64", .double, .float64),
  ("float32", .float, .float32),
  ("bool", .bool, .bool)]

/-- The types of a declared type, by its canonical text. -/
def baseType? (text : String) : Option (StorageType × BufferType) := baseTypes.lookup text

/-- The types of a field. -/
structure ResolvedType where
  /-- The declared type, as canonical text. -/
  declaredType : String
  /-- The storage type, refined. -/
  storageType : StorageType
  /-- The buffer type. -/
  bufferType : BufferType
  /-- The entity that a relation points to. -/
  relation : Option String
  deriving Repr, DecidableEq

/-- The storage type of a field that may be a date. -/
def refineDate (type : StorageType) (a : Annotations) : Except FieldError StorageType :=
  if a.contains "date" then
    if type = .long then .ok .date else .error (.invalidDateType type)
  else
    .ok type

/-- The storage type and the target of a field that may be a relation. -/
def refineLink (type : StorageType) (a : Annotations) :
    Except FieldError (StorageType × Option String) :=
  match a.get? "link" with
  | none => .ok (type, none)
  | some target =>
      if type = .long then .ok (.relation, some target) else .error (.invalidRelationType type)

/-- The types of a field with a declared type and the entries of a tag. -/
def resolveType (type : TypeExpr) (a : Annotations) : Except FieldError ResolvedType := do
  match baseType? type.text with
  | none => .error (.unknownType type.text)
  | some (base, bufferType) =>
      let dated ← refineDate base a
      let (storageType, relation) ← refineLink dated a
      return ⟨type.text, storageType, bufferType, relation⟩

end EntityBinding
