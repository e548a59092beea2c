/-!
# Pairs of identifiers

A model element is known by a small sequential id and by a unique id.  Both are
given out by a registry after discovery.  Discovery itself leaves them at zero.
-/

namespace EntityBinding

/-- An id with its unique id. -/
structure IdPair where
  /-- The sequential id. -/
  id : UInt32
  /-- The unique id. -/
  uid : UInt64
  deriving Repr, DecidableEq

namespace IdPair

/-- The pair of an element that has no ids yet. -/
def unassigned : IdPair := ⟨0, 0⟩

/-- Whether the registry has given out the id. -/
def isAssigned (p : IdPair) : Bool := p.id != 0

/-- The two ids in decimal, with a colon between them. -/
def text (p : IdPair) : String := toString p.id.toNat ++ ":" ++ toString p.uid.toNat

end IdPair

end EntityBinding
