/-!
# Tokens of Rust source

Source text is a list of token trees: identifiers, lifetimes, punctuation characters,
literals, and groups of trees in delimiters.

An operator of several characters is a run of punctuation characters, each `joined` to
the next one.  `Token.listText` is the text of a list of trees.  It puts one space
between two trees, unless the first is joined to the second, and it writes a group as
`(…)`, `[…]` or `{ … }`.
-/

namespace EntityBinding.Source

/-- An identifier.  A raw one is written with `r#` in front, which allows it to be spelled
like a keyword. -/
structure Ident where
  /-- Whether the identifier is raw. -/
  raw : Bool
  /-- The name, without `r#`. -/
  name : String
  deriving Repr, DecidableEq

/-- An identifier as it is written. -/
def Ident.text (i : Ident) : String := if i.raw then "r#" ++ i.name else i.name

/-- An identifier that is not raw. -/
def Ident.plain (name : String) : Ident := ⟨false, name⟩

/-- A literal.  All literals keep their text, and a string its value as well. -/
inductive Literal where
  /-- A string. -/
  | string (text value : String)
  /-- An integer. -/
  | integer (text : String)
  /-- A floating point number. -/
  | float (text : String)
  /-- A character, a byte, or a string of bytes. -/
  | other (text : String)
  deriving Repr, DecidableEq

/-- A literal as it is written. -/
def Literal.text : Literal → String
  | .string text _ | .integer text | .float text | .other text => text

/-- The brackets around a group. -/
inductive Delimiter where
  /-- Round brackets. -/
  | paren
  /-- Square brackets. -/
  | bracket
  /-- Curly brackets. -/
  | brace
  deriving Repr, DecidableEq

/-- A token tree. -/
inductive Token where
  /-- An identifier or a keyword. -/
  | ident (id : Ident)
  /-- A lifetime or a label. -/
  | lifetime (id : Ident)
  /-- A punctuation character, which may be joined to the next one. -/
  | punct (char : Char) (joined : Bool)
  /-- A literal. -/
  | literal (lit : Literal)
  /-- A group of trees. -/
  | group (delimiter : Delimiter) (inner : List Token)
  deriving Repr

namespace Token

/-- Whether a tree is written without a space after it. -/
def isJoined : Token → Bool
  | .punct _ joined => joined
  | _ => false

/-- The trees of an operator: its characters, all but the last joined. -/
def operatorTrees : List Char → List Token
  | [] => []
  | [c] => [.punct c false]
  | c :: rest => .punct c true :: operatorTrees rest

/-- The trees of an operator. -/
def operator (op : String) : List Token := operatorTrees op.toList

/-- The tree of a keyword. -/
def word (name : String) : Token := .ident (.plain name)

mutual

/-- The text of a tree. -/
def text : Token → String
  | .ident id => id.text
  | .lifetime id => "'" ++ id.text
  | .punct c _ => String.singleton c
  | .literal lit => lit.text
  | .group .paren inner => "(" ++ listText inner ++ ")"
  | .group .bracket inner => "[" ++ listText inner ++ "]"
  | .group .brace [] => "\x7b \x7d"
  | .group .brace (t :: ts) => "\x7b " ++ listText (t :: ts) ++ " \x7d"

/-- The text of a list of trees. -/
def listText : List Token → String
  | [] => ""
  | [t] => t.text
  | t :: u :: rest => t.text ++ (if t.isJoined then "" else " ") ++ listText (u :: rest)

/-- The number of trees inside of a tree, with the tree itself. -/
def size : Token → Nat
  | .group _ inner => listSize inner + 1
  | _ => 1

/-- The number of trees in a list, those inside of groups included. -/
def listSize : List Token → Nat
  | [] => 0
  | t :: rest => t.size + listSize rest

end

end Token

end EntityBinding.Source
