import EntityBinding.Source.Token

/-!
# Source trees

What a Rust file declares, as far as entities can be read off it: structs with the
attributes and the types of their fields, inline modules, and the other items that
become declarations.  Items that declare nothing of interest are `Item.other`.

A type keeps its shape as far as a stored type may depend on it, and otherwise its
tokens.  `Ty.tokens` are the tokens of a type in the canonical layout, in which the
lifetimes among the arguments of a path come first.
-/

namespace EntityBinding.Source

/-! ## Types -/

mutual

/-- A type as it is written. -/
inductive Ty where
  /-- A path, possibly from the root of all crates: the segments before the last one, and
  the last one. -/
  | path (rooted : Bool) (parents : List Segment) (last : Segment)
  /-- A reference. -/
  | reference (lifetime : Option Ident) (mutable : Bool) (elem : Ty)
  /-- A raw pointer. -/
  | pointer (mutable : Bool) (elem : Ty)
  /-- A slice. -/
  | slice (elem : Ty)
  /-- An array, with the tokens of its length. -/
  | array (elem : Ty) (length : List Token)
  /-- A type in parentheses. -/
  | paren (elem : Ty)
  /-- A type in delimiters that cannot be seen, as an expansion leaves them. -/
  | group (elem : Ty)
  /-- A bound that stands for a type, as in `for<'a> Visit<'a>`. -/
  | bound (tokens : List Token)
  /-- Any other type: a tuple, a function type, a trait object, and so on. -/
  | other (tokens : List Token)
  deriving Repr

/-- One segment of a path. -/
structure Segment where
  /-- The name of the segment. -/
  name : Ident
  /-- What is applied to the name. -/
  arguments : Arguments
  deriving Repr

/-- What is applied to a segment of a path. -/
inductive Arguments where
  /-- Nothing. -/
  | none
  /-- Arguments in angle brackets, which `::` may precede and a comma may close. -/
  | angled (turbofish : Bool) (arguments : List Argument) (comma : Bool)
  /-- Parameters in parentheses and a result, as in `Fn(u8) -> u8`. -/
  | called (tokens : List Token)
  deriving Repr

/-- One argument in angle brackets. -/
inductive Argument where
  /-- A lifetime. -/
  | lifetime (name : Ident)
  /-- A type. -/
  | type (type : Ty)
  /-- A constant. -/
  | constant (tokens : List Token)
  /-- A binding or a bound of an associated item, as in `Item = u8`. -/
  | binding (tokens : List Token)
  deriving Repr

end

/-! ## Lists with lifetimes -/

/-- The parts that are lifetimes, or those that are not, each with whether a comma follows
it.  The last of all parts has a comma only if `comma` says so. -/
def partsOf (lifetimes comma : Bool) : List (Bool × List Token) → List (List Token × Bool)
  | [] => []
  | [(isLifetime, tokens)] => if isLifetime = lifetimes then [(tokens, comma)] else []
  | (isLifetime, tokens) :: rest =>
      let others := partsOf lifetimes comma rest
      if isLifetime = lifetimes then (tokens, true) :: others else others

/-- The tokens of parts that are separated by commas.  A part keeps its own comma, and one
without it gets a comma if another part follows. -/
def separate : List (List Token × Bool) → List Token
  | [] => []
  | [(tokens, comma)] => tokens ++ if comma then Token.operator "," else []
  | (tokens, _) :: rest => tokens ++ Token.operator "," ++ separate rest

/-- The tokens of parts in the canonical layout, in which those that are lifetimes come
first. -/
def lifetimesFirst (comma : Bool) (parts : List (Bool × List Token)) : List Token :=
  separate (partsOf true comma parts ++ partsOf false comma parts)

/-- Whether an argument is a lifetime. -/
def Argument.isLifetime : Argument → Bool
  | .lifetime _ => true
  | _ => false

/-- The tokens of a mark of mutability. -/
def mutableTokens (mutable : Bool) : List Token := if mutable then [.word "mut"] else []

mutual

/-- The tokens of a type. -/
def Ty.tokens : Ty → List Token
  | .path rooted parents last =>
      (if rooted then Token.operator "::" else []) ++ Segment.listTokens parents ++ last.tokens
  | .reference lifetime mutable elem =>
      Token.operator "&" ++ lifetime.toList.map .lifetime ++ mutableTokens mutable ++ elem.tokens
  | .pointer mutable elem =>
      Token.operator "*" ++ [.word (if mutable then "mut" else "const")] ++ elem.tokens
  | .slice elem => [.group .bracket elem.tokens]
  | .array elem length => [.group .bracket (elem.tokens ++ Token.operator ";" ++ length)]
  | .paren elem => [.group .paren elem.tokens]
  | .group elem => elem.tokens
  | .bound tokens => tokens
  | .other tokens => tokens

/-- The tokens of segments, each with `::` after it. -/
def Segment.listTokens : List Segment → List Token
  | [] => []
  | s :: rest => s.tokens ++ Token.operator "::" ++ Segment.listTokens rest

/-- The tokens of a segment. -/
def Segment.tokens : Segment → List Token
  | ⟨name, arguments⟩ => .ident name :: arguments.tokens

/-- The tokens of what is applied to a segment. -/
def Arguments.tokens : Arguments → List Token
  | .none => []
  | .angled turbofish arguments comma =>
      (if turbofish then Token.operator "::" else []) ++ Token.operator "<" ++
        lifetimesFirst comma (Argument.listTokens arguments) ++ Token.operator ">"
  | .called tokens => tokens

/-- The tokens of some arguments, each with whether it is a lifetime. -/
def Argument.listTokens : List Argument → List (Bool × List Token)
  | [] => []
  | a :: rest => (a.isLifetime, a.tokens) :: Argument.listTokens rest

/-- The tokens of an argument. -/
def Argument.tokens : Argument → List Token
  | .lifetime name => [.lifetime name]
  | .type type => type.tokens
  | .constant tokens => tokens
  | .binding tokens => tokens

end

/-- Whether a segment is a bare name. -/
def Arguments.isNone : Arguments → Bool
  | .none => true
  | _ => false

/-- Whether nothing at all is applied to a segment, empty angle brackets included. -/
def Arguments.isEmpty : Arguments → Bool
  | .none | .angled _ [] _ => true
  | _ => false

/-! ## Items -/

/-- What an attribute says beside its path. -/
inductive AttributeArgument where
  /-- Nothing. -/
  | none
  /-- A value, after an equals sign. -/
  | assigned
  /-- The tokens in its delimiters. -/
  | list (tokens : List Token)
  deriving Repr

/-- An attribute. -/
structure Attribute where
  /-- Whether the path starts with `::`. -/
  rooted : Bool
  /-- The segments of the path. -/
  path : List Ident
  /-- What the attribute says. -/
  argument : AttributeArgument
  deriving Repr

/-- A field of a struct. -/
structure StructField where
  /-- The attributes of the field. -/
  attributes : List Attribute
  /-- The name, unless the field is known by its position. -/
  name : Option Ident
  /-- The type. -/
  type : Ty
  deriving Repr

/-- An item of a file. -/
inductive Item where
  /-- A struct. -/
  | struct (name : Ident) (fields : List StructField)
  /-- A name for a type. -/
  | alias (name : Ident) (type : Ty)
  /-- A constant or a static variable. -/
  | constant (name : Ident) (type : Ty)
  /-- An import, with the tokens of what is imported. -/
  | imports (tree : List Token)
  /-- A function. -/
  | function (name : Ident)
  /-- A module whose items are written in place. -/
  | module (name : Ident) (items : List Item)
  /-- Any other item: an enumeration, a trait, an implementation, and so on. -/
  | other
  deriving Repr

end EntityBinding.Source
