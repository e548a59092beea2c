import EntityBinding.Model.Entity

/-!
# Bindings

A binding is what discovery finds in a source unit: the name of its package and the
entities it declares, in order.  Code for the storage engine is generated from it.
-/

namespace EntityBinding

/-- The entities of a package. -/
structure Binding where
  /-- The name of the package. -/
  package : String
  /-- The entities, in the order of their declaration. -/
  entities : List Entity
  deriving DecidableEq

namespace Binding

/-- A package without entities. -/
def new (package : String) : Binding := ⟨package, []⟩

/-- The binding with one entity more, at the end. -/
def push (b : Binding) (e : Entity) : Binding := { b with entities := b.entities ++ [e] }

/-- The binding with the entity at `i` changed by `f`, or as it is if there is none. -/
def modify (b : Binding) (i : Nat) (f : Entity → Entity) : Binding :=
  { b with entities := b.entities.modify i f }

/-- The first entity of a name. -/
def entity? (b : Binding) (name : String) : Option Entity :=
  b.entities.find? fun e => e.name == name

/-- Whether generated code needs the helpers for offsets into the buffer, that is,
whether some property is a text or a sequence of bytes. -/
def needsOffsetHelpers (b : Binding) : Bool :=
  b.entities.any fun e => e.properties.any fun p => p.storageType.isOffsetBacked

end Binding

end EntityBinding
