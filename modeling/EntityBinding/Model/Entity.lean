import EntityBinding.Model.Property

/-!
# Entities

An entity is one kind of stored record: a name and properties in the order of their
declaration.  One of the properties identifies the record, and the entity knows it
by position (`Entity.identity`).  Properties are added at the end and changed in
place, never moved or removed, so a position keeps its meaning.
-/

namespace EntityBinding

/-- One kind of stored record. -/
structure Entity where
  /-- The name, as declared. -/
  name : String
  /-- The id, zero until the registry gives one. -/
  id : UInt32
  /-- The unique id, zero until the registry gives one. -/
  uid : UInt64
  /-- The properties, in the order of their declaration. -/
  properties : List Property
  /-- The position of the property that identifies the record. -/
  identity : Option Nat
  /-- The last ids that the registry gave to a property. -/
  lastPropertyId : IdPair
  deriving DecidableEq

namespace Entity

/-- An entity without properties. -/
def new (name : String) : Entity := ⟨name, 0, 0, [], none, .unassigned⟩

/-- The entity with one property more, at the end. -/
def push (e : Entity) (p : Property) : Entity := { e with properties := e.properties ++ [p] }

/-- The entity with the property at `i` changed by `f`, or as it is if there is none. -/
def modify (e : Entity) (i : Nat) (f : Property → Property) : Entity :=
  { e with properties := e.properties.modify i f }

/-- The entity with the property at `i` as its identity, or as it is if there is none. -/
def setIdentity (e : Entity) (i : Nat) : Entity :=
  if i < e.properties.length then { e with identity := some i } else e

/-- The first property of a name. -/
def property? (e : Entity) (name : String) : Option Property :=
  e.properties.find? fun p => p.name == name

/-- The property that identifies the record. -/
def identityProperty? (e : Entity) : Option Property :=
  e.identity.bind fun i => e.properties[i]?

/-- Whether there is a property other than the identity. -/
def hasOtherProperty (e : Entity) : Bool :=
  (List.range e.properties.length).any fun i => some i != e.identity

end Entity

end EntityBinding
