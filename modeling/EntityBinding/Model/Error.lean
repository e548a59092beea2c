import EntityBinding.Model.StorageType

/-!
# What can go wrong

A `FieldError` is a problem of one field, told without its entity.  A
`DiscoveryError` ends a whole pass, and one of its kinds is a `FieldError` with
the entity and the property that it belongs to.  `message` is the one place that
words an error.
-/

namespace EntityBinding

/-- A problem of one field. -/
inductive FieldError where
  /-- A tag token gives `value` to `name`, and the value is not in double quotes. -/
  | invalidValue (value name : String)
  /-- A tag gives the same name twice. -/
  | duplicateName (name : String)
  /-- The declared type has no place in the storage engine. -/
  | unknownType (text : String)
  /-- A date on a type other than `long`. -/
  | invalidDateType (type : StorageType)
  /-- A relation on a type other than `long`. -/
  | invalidRelationType (type : StorageType)
  /-- An index of a kind that does not exist. -/
  | unknownIndexKind (value : String)
  /-- A second index on one property. -/
  | indexAlreadyDefined
  /-- A storage name that is empty. -/
  | emptyStorageName
  /-- A storage name that an earlier property of the entity has. -/
  | duplicateStorageName
  deriving Repr, DecidableEq

/-- The text of a field error. -/
def FieldError.message : FieldError → String
  | .invalidValue value name =>
      "invalid annotation value " ++ value ++ " for " ++ name ++
        ", expecting `name:\"value\"` format"
  | .duplicateName name => "duplicate annotation " ++ name
  | .unknownType text => "unknown type " ++ text
  | .invalidDateType type => "invalid underlying type (" ++ type.name ++ ") for date field"
  | .invalidRelationType type =>
      "invalid underlying type (" ++ type.name ++ ") for relation field"
  | .unknownIndexKind value => "unknown index type " ++ value
  | .indexAlreadyDefined => "index is already defined"
  | .emptyStorageName => "nameInDb annotation value must not be empty"
  | .duplicateStorageName => "duplicate name (note that property names are case insensitive)"

/-- A problem that ends a pass. -/
inductive DiscoveryError where
  /-- A struct that no name was declared for. -/
  | unnamedStruct
  /-- A field group that declares `count` names and not one. -/
  | invalidFieldNames (entity : String) (count : Nat)
  /-- An entity that no property is left of. -/
  | emptyEntity (entity : String)
  /-- Two properties of an entity that are both marked as its identity. -/
  | multipleIds (entity first second : String)
  /-- An entity without a property that could identify it. -/
  | missingId (entity : String)
  /-- An entity with several properties that could identify it. -/
  | ambiguousId (entity first second : String)
  /-- A problem of one property of an entity. -/
  | property (entity property : String) (cause : FieldError)
  /-- A property whose offset does not fit into the table of the buffer. -/
  | tableOffsetOverflow (property : String) (id : UInt32)
  /-- Source text that cannot be read. -/
  | frontend (text : String)
  deriving Repr, DecidableEq

/-- The text of a discovery error. -/
def DiscoveryError.message : DiscoveryError → String
  | .unnamedStruct => "encountered a struct without a name"
  | .invalidFieldNames entity count =>
      "struct " ++ entity ++ " has a field with an invalid number of names, one expected, got " ++
        toString count
  | .emptyEntity entity => "there are no properties in the entity " ++ entity
  | .multipleIds entity first second =>
      "struct " ++ entity ++ " has multiple ID properties - " ++ first ++ " and " ++ second
  | .missingId entity =>
      "id field is missing on entity " ++ entity ++
        " - either annotate a field with `id` tag or use a uint64 field named 'Id/id/ID'"
  | .ambiguousId entity first second =>
      "id field is ambiguous on entity " ++ entity ++ " - both " ++ first ++ " and " ++ second ++
        " qualify, annotate one of them with `id` tag"
  | .property entity name cause =>
      cause.message ++ " on property " ++ name ++ ", entity " ++ entity
  | .tableOffsetOverflow name id =>
      "can't calculate vtable offset: property " ++ name ++ " ID " ++ toString id.toNat ++
        " is out of range"
  | .frontend text => "frontend error: " ++ text

end EntityBinding
