import EntityBinding.Declaration.SourceUnit
import EntityBinding.Model.Error
import EntityBinding.Source.Settings
import EntityBinding.Source.Tree

/-!
# From source trees to declarations

`lowerFile` turns the items of a file into the declarations of a source unit.

| Item | Declaration |
|---|---|
| a struct, a type alias | a named type |
| a constant, a static variable | a value |
| a `use` | an import |
| a function | a function |
| a module in place | the declarations of its items |

Types are rendered under the names that stored types are looked up by.

| Type | Type expression |
|---|---|
| `String`, `str`, `u64`, `char`, … | `string`, `string`, `uint64`, `rune`, … |
| `Vec<u8>`, `[u8]` | `[]byte` |
| `Vec<T>`, `[T]` | `[]T` |
| `Option<T>`, `Box<T>`, `*const T`, `*mut T` | `*T` |
| `[T; n]` | `[n]T` |
| `&T`, `(T)` | `T` |
| `a::b::T` | `b.T` |

The names may follow a path that starts with `std`, `core` or `alloc`.  Any other type is
a name that consists of its tokens.

The tag of a field is the one string literal in the attribute that the settings name.
The first field whose attribute is wrong decides the error.
-/

namespace EntityBinding.Source

/-! ## Types -/

/-- The crates that hold the standard types. -/
def standardCrates : List String := ["std", "core", "alloc"]

/-- The types that are known by their name alone, with the names they are rendered under. -/
def primitives : List (String × String) := [
  ("String", "string"), ("str", "string"), ("i64", "int64"), ("u64", "uint64"),
  ("isize", "int"), ("usize", "uint"), ("i32", "int32"), ("u32", "uint32"), ("char", "rune"),
  ("i16", "int16"), ("u16", "uint16"), ("i8", "int8"), ("u8", "uint8"), ("f64", "float64"),
  ("f32", "float32"), ("bool", "bool")]

/-- Whether a type is written `u8`, with nothing around it. -/
def Ty.isByte : Ty → Bool
  | .path false [] ⟨name, .none⟩ => name.text == "u8"
  | _ => false

/-- The name that a type of no known shape is rendered under. -/
def Ty.verbatim (t : Ty) : TypeExpr := .ident (Token.listText t.tokens)

/-- A sequence of a type.  A sequence of bytes has a name of its own. -/
def sequence (isByte : Bool) (elem : TypeExpr) : TypeExpr :=
  .slice (if isByte then .ident "byte" else elem)

/-- Whether the path before the last segment leaves the meaning of the name as it is. -/
def isStandard : List Segment → Bool
  | [] => true
  | first :: _ => standardCrates.contains first.name.text

mutual

/-- The type expression of a type. -/
def Ty.lower : Ty → TypeExpr
  | .path rooted parents last => lowerPath rooted parents last
  | .reference _ _ elem => elem.lower
  | .pointer _ elem => .pointer elem.lower
  | .slice elem => sequence elem.isByte elem.lower
  | .array elem length => .array (some (Token.listText length)) elem.lower
  | .paren elem => elem.lower
  | .group elem => elem.lower
  | .bound tokens => .ident (Token.listText tokens)
  | .other tokens => .ident (Token.listText tokens)

/-- The type expression of a path. -/
def lowerPath (rooted : Bool) (parents : List Segment) : Segment → TypeExpr
  | ⟨name, arguments⟩ =>
      let verbatim := Ty.verbatim (.path rooted parents ⟨name, arguments⟩)
      if isStandard parents then
        match name.name, arguments.lowerFirst with
        | "Vec", some (isByte, elem) => sequence isByte elem
        | "Option", some (_, elem) | "Box", some (_, elem) => .pointer elem
        | _, some _ => verbatim
        | plain, none =>
            match primitives.lookup plain with
            | some canonical => .ident canonical
            | none => verbatim
      else
        match parents.getLast?, arguments with
        | some package, .none => .selector package.name.name name.name
        | _, _ => verbatim

/-- The first type among the arguments of a segment: whether it is `u8`, and its type
expression. -/
def Arguments.lowerFirst : Arguments → Option (Bool × TypeExpr)
  | .angled _ arguments _ => Argument.lowerFirst arguments
  | _ => none

/-- The first type among some arguments. -/
def Argument.lowerFirst : List Argument → Option (Bool × TypeExpr)
  | [] => none
  | a :: rest =>
      match a.lowerType with
      | some lowered => some lowered
      | none => Argument.lowerFirst rest

/-- The type of an argument, if it is a type. -/
def Argument.lowerType : Argument → Option (Bool × TypeExpr)
  | .type t => some (t.isByte, t.lower)
  | _ => none

end

/-! ## Tags -/

/-- Whether the path of an attribute is a single name, compared as it is written. -/
def Attribute.isNamed (a : Attribute) (name : String) : Bool :=
  match a.rooted, a.path with
  | false, [id] => id.text == name
  | _, _ => false

/-- What is wrong with a tag attribute. -/
inductive TagError where
  /-- The attribute is given twice. -/
  | duplicate
  /-- The attribute has no argument. -/
  | bare
  /-- The attribute is given a value by an equals sign. -/
  | assigned
  /-- The delimiters of the attribute are empty. -/
  | empty
  /-- The argument does not start with a string literal. -/
  | noString
  /-- Something follows the string literal. -/
  | excess
  deriving Repr, DecidableEq

/-- The text of an error of the attribute `name`. -/
def TagError.message (name : String) : TagError → String
  | .duplicate => "duplicate #[" ++ name ++ "] attribute"
  | .bare => "expected attribute arguments in parentheses: #[" ++ name ++ "(...)]"
  | .assigned => "expected parentheses: #[" ++ name ++ "(...)]"
  | .empty => "unexpected end of input, expected string literal"
  | .noString => "expected string literal"
  | .excess => "unexpected token"

/-- The one string literal that an attribute consists of. -/
def AttributeArgument.string : AttributeArgument → Except TagError String
  | .none => .error .bare
  | .assigned => .error .assigned
  | .list [] => .error .empty
  | .list [.literal (.string _ value)] => .ok value
  | .list (.literal (.string _ _) :: _ :: _) => .error .excess
  | .list _ => .error .noString

/-- The tag in some attributes, after the tag `found` in the attributes before them. -/
def findTag (name : String) (found : Option String) :
    List Attribute → Except TagError (Option String)
  | [] => .ok found
  | a :: rest =>
      if a.isNamed name then
        match found, a.argument.string with
        | some _, _ => .error .duplicate
        | none, .error e => .error e
        | none, .ok tag => findTag name (some tag) rest
      else
        findTag name found rest

/-- The tag of a field with some attributes. -/
def fieldTag (settings : Settings) (attributes : List Attribute) :
    Except DiscoveryError (Option String) :=
  match findTag settings.tagAttribute none attributes with
  | .ok tag => .ok tag
  | .error e => .error (.frontend (e.message settings.tagAttribute))

/-! ## Items -/

/-- The field group of a field. -/
def StructField.lower (settings : Settings) (f : StructField) : Except DiscoveryError FieldGroup :=
  match fieldTag settings f.attributes with
  | .ok tag => .ok ⟨f.name.toList.map Ident.name, f.type.lower, tag⟩
  | .error e => .error e

/-- The field groups of some fields. -/
def lowerFields (settings : Settings) : List StructField → Except DiscoveryError (List FieldGroup)
  | [] => .ok []
  | f :: rest => do
      let group ← f.lower settings
      let groups ← lowerFields settings rest
      return group :: groups

mutual

/-- The declarations of an item. -/
def Item.lower (settings : Settings) : Item → Except DiscoveryError (List Decl)
  | .struct name fields => do
      let groups ← lowerFields settings fields
      return [.group [.type name.name (.struct groups)]]
  | .alias name type => .ok [.group [.type name.name type.lower]]
  | .constant name type => .ok [.group [.value [name.name] (some type.lower)]]
  | .imports tree => .ok [.group [.package (Token.listText tree)]]
  | .function name => .ok [.function name.name]
  | .module _ items => Item.lowerAll settings items
  | .other => .ok []

/-- The declarations of some items. -/
def Item.lowerAll (settings : Settings) : List Item → Except DiscoveryError (List Decl)
  | [] => .ok []
  | item :: rest => do
      let decls ← item.lower settings
      let more ← Item.lowerAll settings rest
      return decls ++ more

end

/-- The source unit of a file. -/
def lowerFile (settings : Settings) (items : List Item) : Except DiscoveryError SourceUnit := do
  let decls ← Item.lowerAll settings items
  return ⟨settings.package, decls⟩

end EntityBinding.Source
