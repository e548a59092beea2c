/-!
# Type expressions and their canonical text

A type expression is the type of a declared field.  `TypeExpr.text` is its
canonical text, which types are looked up by.

| Type expression | Text |
|---|---|
| a name | `uint64` |
| a name of a package | `time.Time` |
| a pointer | `*T` |
| an array, a slice | `[4]T`, `[]T` |
| a map, a channel | `map[K]V`, `chan T` |
| a struct | `struct{A, B T; U}` |
| anything | `interface{}` |
| a function | `func(T, U)`, `func(T) R`, `func(T) (R, S)` |
| the last parameter of a variadic function | `...T` |

The tag of a struct field is no part of the text.  Items in a row are written with
`Text.joinWith`.
-/

namespace EntityBinding

/-- The texts one after the other, with `sep` between any two neighbours. -/
def Text.joinWith (sep : String) : List String → String
  | [] => ""
  | [s] => s
  | s :: rest => s ++ sep ++ Text.joinWith sep rest

open Text (joinWith)

mutual

/-- The type of a declared field. -/
inductive TypeExpr where
  /-- A plain name. -/
  | ident (name : String)
  /-- A name that belongs to a package. -/
  | selector (package name : String)
  /-- A pointer. -/
  | pointer (elem : TypeExpr)
  /-- An array, or a slice if it has no length.  The length is kept as text. -/
  | array (length : Option String) (elem : TypeExpr)
  /-- A map. -/
  | map (key value : TypeExpr)
  /-- A channel. -/
  | channel (elem : TypeExpr)
  /-- A struct that is written in place. -/
  | struct (fields : List FieldGroup)
  /-- The interface that every type satisfies. -/
  | anything
  /-- A function. -/
  | function (params results : List TypeExpr)
  /-- The last parameter of a function that takes any number of it. -/
  | variadic (elem : TypeExpr)
  deriving Repr

/-- Fields of one type.  Usually a group declares one field, but several names may
share a type, and an embedded field has no name. -/
structure FieldGroup where
  /-- The declared names. -/
  names : List String
  /-- The type of the fields. -/
  type : TypeExpr
  /-- The tag with its delimiters, if there is one. -/
  tag : Option String
  deriving Repr

end

namespace TypeExpr

/-- A slice. -/
def slice (elem : TypeExpr) : TypeExpr := .array none elem

/-- The results of a function, after its parameters.  A single result needs no
parentheses. -/
def resultText : List String → String
  | [] => ""
  | [r] => " " ++ r
  | rs => " (" ++ joinWith ", " rs ++ ")"

end TypeExpr

/-- The names of a field group, with the space that sets them off from the type. -/
def FieldGroup.namesText : List String → String
  | [] => ""
  | names => joinWith ", " names ++ " "

mutual

/-- The canonical text of a type expression. -/
def TypeExpr.text : TypeExpr → String
  | .ident name => name
  | .selector package name => package ++ "." ++ name
  | .pointer elem => "*" ++ elem.text
  | .array length elem => "[" ++ length.getD "" ++ "]" ++ elem.text
  | .map key value => "map[" ++ key.text ++ "]" ++ value.text
  | .channel elem => "chan " ++ elem.text
  | .struct fields => "struct\x7b" ++ joinWith "; " (FieldGroup.texts fields) ++ "\x7d"
  | .anything => "interface\x7b\x7d"
  | .function params results =>
      "func(" ++ joinWith ", " (TypeExpr.texts params) ++ ")" ++
        TypeExpr.resultText (TypeExpr.texts results)
  | .variadic elem => "..." ++ elem.text

/-- The canonical texts of some type expressions. -/
def TypeExpr.texts : List TypeExpr → List String
  | [] => []
  | t :: ts => t.text :: TypeExpr.texts ts

/-- The canonical text of a field group. -/
def FieldGroup.text : FieldGroup → String
  | ⟨names, type, _⟩ => FieldGroup.namesText names ++ type.text

/-- The canonical texts of some field groups. -/
def FieldGroup.texts : List FieldGroup → List String
  | [] => []
  | f :: fs => f.text :: FieldGroup.texts fs

end

end EntityBinding
