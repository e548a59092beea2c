import EntityBinding.Declaration.TypeExpr

/-!
# Source units

A source unit belongs to a package and holds declarations.  A declaration is a
function or a group of specifications, and a specification names a type, declares
values or imports a package.
-/

namespace EntityBinding

/-- One specification of a declaration group. -/
inductive Spec where
  /-- A named type. -/
  | type (name : String) (type : TypeExpr)
  /-- Variables or constants, with their type if it is written. -/
  | value (names : List String) (type : Option TypeExpr)
  /-- An imported package. -/
  | package (path : String)
  deriving Repr

/-- One declaration of a source unit. -/
inductive Decl where
  /-- A group of specifications. -/
  | group (specs : List Spec)
  /-- A function. -/
  | function (name : String)
  deriving Repr

/-- A unit of source. -/
structure SourceUnit where
  /-- The package that the unit belongs to. -/
  package : String
  /-- The declarations, in order. -/
  decls : List Decl
  deriving Repr

end EntityBinding
