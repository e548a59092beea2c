import EntityBinding.Model.Annotations
import EntityBinding.Model.Error
import EntityBinding.Model.IdPair

/-!
# Properties and their place in the buffer

A property is one stored field of an entity.  In the buffer it takes the slot that
comes with its id, and the offset of the slot in the table of the buffer is
`4 + 2 * slot` (`Property.tableOffset`).  The offset is written with 16 bits, so a
property whose offset needs more has none.  Slots start at zero and ids at one.
The slot of a property without an id is the largest number of 32 bits, and so it
has no offset either.
-/

namespace EntityBinding

/-- A stored field of an entity. -/
structure Property where
  /-- The declared name. -/
  name : String
  /-- The name in the storage engine. -/
  storageName : String
  /-- The id, zero until the registry gives one. -/
  id : UInt32
  /-- The unique id, zero until the registry gives one. -/
  uid : UInt64
  /-- The entries of the tag that the field was declared with. -/
  annotations : Annotations
  /-- The logical type. -/
  storageType : StorageType
  /-- The flags, in the order they were added. -/
  flags : List Flag
  /-- The declared type, as canonical text. -/
  declaredType : String
  /-- The encoding in the buffer. -/
  bufferType : BufferType
  /-- The entity that a relation points to. -/
  relation : Option String
  /-- The ids of the index, if the property has one. -/
  index : Option IdPair
  deriving DecidableEq

namespace Property

/-- A property with its types, and nothing else yet.  Its storage name is its
declared name. -/
def new (name declaredType : String) (storageType : StorageType) (bufferType : BufferType) :
    Property where
  name := name
  storageName := name
  id := 0
  uid := 0
  annotations := .empty
  storageType := storageType
  flags := []
  declaredType := declaredType
  bufferType := bufferType
  relation := none
  index := none

/-- The property with one flag more, at the end. -/
def addFlag (p : Property) (f : Flag) : Property := { p with flags := p.flags ++ [f] }

/-- Whether the property carries a flag. -/
def hasFlag (p : Property) (f : Flag) : Bool := p.flags.contains f

/-- Whether the property carries the flag of an identity. -/
def isId (p : Property) : Bool := p.hasFlag .id

/-- The property with an index that has no ids yet.  It must not have one already. -/
def allocateIndex (p : Property) : Except FieldError Property :=
  match p.index with
  | some _ => .error .indexAlreadyDefined
  | none => .ok { p with index := some .unassigned }

/-! ## Layout -/

/-- The bytes of a buffer table before its first slot. -/
def tableHeader : UInt64 := 4

/-- The bytes of a slot. -/
def slotSize : UInt64 := 2

/-- The slot of the property: its id less one, wrapping at zero. -/
def slot (p : Property) : UInt32 := p.id - 1

/-- The offset of the slot, before it is known to fit. -/
def wideOffset (p : Property) : UInt64 := tableHeader + slotSize * p.slot.toUInt64

/-- The offset of the property in the table of the buffer, if it fits 16 bits. -/
def tableOffset (p : Property) : Except DiscoveryError UInt16 :=
  if p.wideOffset ≤ 0xFFFF then
    .ok p.wideOffset.toUInt16
  else
    .error (.tableOffsetOverflow p.name p.id)

/-- The end of a run that nothing can recover from, with its last words. -/
structure Abort where
  /-- The last words. -/
  message : String
  deriving Repr, DecidableEq

/-- The offset of the property, for a caller that cannot go on without it. -/
def requireTableOffset (p : Property) : Except Abort UInt16 :=
  match p.tableOffset with
  | .ok offset => .ok offset
  | .error e => .error ⟨e.message⟩

end Property

end EntityBinding
