/-!
# Types and flags of a property

A property is described twice.  Its *storage type* is the logical type that the
storage engine knows, its *buffer type* the encoding of its field in the binary
buffer.  Beside the two stands a list of *flags*, for identity and indexing.

Each of the three has a canonical name (`name`), under which it is written, and
`ofName?` reads that name back.
-/

namespace EntityBinding

/-! ## Storage types -/

/-- The logical type of a property in the storage engine. -/
inductive StorageType where
  /-- A text. -/
  | string
  /-- An integer of 64 bits, with or without sign. -/
  | long
  /-- An integer of 32 bits. -/
  | int
  /-- An integer of 16 bits. -/
  | short
  /-- An integer of 8 bits. -/
  | byte
  /-- A sequence of raw bytes. -/
  | byteVector
  /-- A floating point number of 64 bits. -/
  | double
  /-- A floating point number of 32 bits. -/
  | float
  /-- A truth value. -/
  | bool
  /-- A point in time, stored as a `long`. -/
  | date
  /-- A relation to one entity, stored as the `long` id of its target. -/
  | relation
  deriving Repr, DecidableEq

namespace StorageType

/-- Every storage type. -/
def all : List StorageType :=
  [string, long, int, short, byte, byteVector, double, float, bool, date, relation]

/-- The canonical name of a storage type. -/
def name : StorageType → String
  | string => "String"
  | long => "Long"
  | int => "Int"
  | short => "Short"
  | byte => "Byte"
  | byteVector => "ByteVector"
  | double => "Double"
  | float => "Float"
  | bool => "Bool"
  | date => "Date"
  | relation => "Relation"

/-- The storage type of a canonical name. -/
def ofName? (s : String) : Option StorageType := all.find? fun t => t.name == s

/-- Whether the values of a type lie behind an offset in the buffer, so that code
which reads them needs the buffer helpers. -/
def isOffsetBacked : StorageType → Bool
  | string | byteVector => true
  | _ => false

end StorageType

/-! ## Buffer types -/

/-- The encoding of a property in the binary buffer. -/
inductive BufferType where
  /-- An offset to data that lies outside the table. -/
  | offset
  /-- A signed integer of 64 bits. -/
  | int64
  /-- An unsigned integer of 64 bits. -/
  | uint64
  /-- A signed integer of 32 bits. -/
  | int32
  /-- An unsigned integer of 32 bits. -/
  | uint32
  /-- A signed integer of 16 bits. -/
  | int16
  /-- An unsigned integer of 16 bits. -/
  | uint16
  /-- A signed integer of 8 bits. -/
  | int8
  /-- An unsigned integer of 8 bits. -/
  | uint8
  /-- A single byte. -/
  | byte
  /-- A floating point number of 64 bits. -/
  | float64
  /-- A floating point number of 32 bits. -/
  | float32
  /-- A truth value. -/
  | bool
  deriving Repr, DecidableEq

namespace BufferType

/-- Every buffer type. -/
def all : List BufferType :=
  [offset, int64, uint64, int32, uint32, int16, uint16, int8, uint8, byte, float64, float32, bool]

/-- The canonical name of a buffer type. -/
def name : BufferType → String
  | offset => "UOffsetT"
  | int64 => "Int64"
  | uint64 => "Uint64"
  | int32 => "Int32"
  | uint32 => "Uint32"
  | int16 => "Int16"
  | uint16 => "Uint16"
  | int8 => "Int8"
  | uint8 => "Uint8"
  | byte => "Byte"
  | float64 => "Float64"
  | float32 => "Float32"
  | bool => "Bool"

/-- The buffer type of a canonical name. -/
def ofName? (s : String) : Option BufferType := all.find? fun t => t.name == s

end BufferType

/-! ## Flags -/

/-- A storage flag of a property. -/
inductive Flag where
  /-- The property identifies its entity. -/
  | id
  /-- The property is indexed. -/
  | indexed
  /-- The index holds values. -/
  | indexValue
  /-- The index holds hashes of 32 bits. -/
  | indexHash
  /-- The index holds hashes of 64 bits. -/
  | indexHash64
  /-- The values of the property are distinct. -/
  | unique
  deriving Repr, DecidableEq

namespace Flag

/-- Every flag. -/
def all : List Flag := [id, indexed, indexValue, indexHash, indexHash64, unique]

/-- The canonical name of a flag. -/
def name : Flag → String
  | id => "ID"
  | indexed => "INDEXED"
  | indexValue => "INDEX_VALUE"
  | indexHash => "INDEX_HASH"
  | indexHash64 => "INDEX_HASH64"
  | unique => "UNIQUE"

/-- The flag of a canonical name. -/
def ofName? (s : String) : Option Flag := all.find? fun f => f.name == s

end Flag

end EntityBinding
