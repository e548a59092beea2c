import EntityBinding.Source.Tree

/-!
# Readers of token trees

A reader takes tokens from the front of a list and writes what it took, in the canonical
layout: an operator is written as one run of joined characters, whatever stood behind
it.  Some parts are written as they stand instead.  A reader that fails takes nothing, and
the next alternative starts afresh.

A look ahead is a predicate on the tokens that are left.  An operator is looked for
character by character, so `<` is found at the head of `<=` as well.

The grammar of the language is recursive, and its readers call each other through a
`Grammar`, which has one reader per category.  `Grammar.ofStep` ties the knot with a
bound on the depth of the calls.
-/

namespace EntityBinding.Source

/-! ## Looking ahead -/

/-- Whether an operator stands at the head, each of its characters joined to the next. -/
def startsOperator : List Char → List Token → Bool
  | [], _ => true
  | [c], .punct d _ :: _ => c == d
  | c :: cs, .punct d joined :: rest => c == d && joined && startsOperator cs rest
  | _, _ => false

/-- Whether an operator stands at the head. -/
def ahead (op : String) (ts : List Token) : Bool := startsOperator op.toList ts

/-- Whether one of some operators stands at the head. -/
def aheadAny (ops : List String) (ts : List Token) : Bool := ops.any fun op => ahead op ts

/-- Whether a keyword stands at the head. -/
def aheadWord (name : String) : List Token → Bool
  | .ident id :: _ => !id.raw && id.name == name
  | _ => false

/-- Whether one of some keywords stands at the head. -/
def aheadWords (names : List String) (ts : List Token) : Bool :=
  names.any fun name => aheadWord name ts

/-- The words that are no names. -/
def keywords : List String := [
  "_", "abstract", "as", "async", "await", "become", "box", "break", "const", "continue", "crate",
  "do", "dyn", "else", "enum", "extern", "false", "final", "fn", "for", "if", "impl", "in", "let",
  "loop", "macro", "match", "mod", "move", "mut", "override", "priv", "pub", "ref", "return",
  "Self", "self", "static", "struct", "super", "trait", "true", "try", "type", "typeof", "unsafe",
  "unsized", "use", "virtual", "where", "while", "yield"]

/-- Whether an identifier is a name and no keyword. -/
def Ident.isName (id : Ident) : Bool := id.raw || !keywords.contains id.name

/-- Whether a name stands at the head. -/
def aheadName : List Token → Bool
  | .ident id :: _ => id.isName
  | _ => false

/-- Whether a name or a keyword stands at the head. -/
def aheadIdent : List Token → Bool
  | .ident _ :: _ => true
  | _ => false

/-- Whether a lifetime stands at the head. -/
def aheadLifetime : List Token → Bool
  | .lifetime _ :: _ => true
  | _ => false

/-- Whether a literal stands at the head, which includes the truth values and negative
numbers. -/
def aheadLiteral : List Token → Bool
  | .literal _ :: _ => true
  | .ident id :: _ => !id.raw && (id.name == "true" || id.name == "false")
  | .punct '-' _ :: .literal (.integer _) :: _ => true
  | .punct '-' _ :: .literal (.float _) :: _ => true
  | _ => false

/-- Whether a group stands at the head. -/
def aheadGroup (d : Delimiter) : List Token → Bool
  | .group e _ :: _ => d == e
  | _ => false

/-- Whether any group stands at the head. -/
def aheadAnyGroup : List Token → Bool
  | .group _ _ :: _ => true
  | _ => false

/-- Whether an attribute stands at the head. -/
def aheadAttribute (ts : List Token) : Bool := ahead "#" ts

/-- The words that may start a path beside names. -/
def pathWords : List String := ["super", "self", "Self", "crate"]

/-! ## Readers -/

/-- The tokens that are left and those that were written, last one first. -/
structure Cursor where
  /-- The tokens that are left. -/
  rest : List Token
  /-- The tokens that were written, last one first. -/
  written : List Token

/-- How what a reader took is written. -/
inductive Form where
  /-- In the canonical layout. -/
  | canonical
  /-- As it stands, with the operators joined as they were. -/
  | verbatim
  deriving DecidableEq

/-- A reader of tokens. -/
abbrev Parser := StateT Cursor Option

namespace Parser

variable {α : Type}

/-- The tokens that are left. -/
def rest : Parser (List Token) := fun c => some (c.rest, c)

/-- Whether a look ahead succeeds. -/
def sees (look : List Token → Bool) : Parser Bool := fun c => some (look c.rest, c)

/-- Writes tokens. -/
def write (ts : List Token) : Parser Unit :=
  fun c => some ((), { c with written := ts.reverse ++ c.written })

/-- Takes the next token and writes it. -/
def next : Parser Token
  | ⟨[], _⟩ => none
  | ⟨t :: rest, written⟩ => some (t, ⟨rest, t :: written⟩)

/-- Succeeds if a condition holds. -/
def guarded (condition : Bool) : Parser Unit := if condition then pure () else failure

/-- Takes an operator that stands at the head. -/
def op (s : String) : Parser Unit
  | ⟨rest, written⟩ =>
      if ahead s rest then
        some ((), ⟨rest.drop s.length, (Token.operator s).reverse ++ written⟩)
      else
        none

/-- Takes a keyword. -/
def word (name : String) : Parser Unit := do
  guarded (← sees (aheadWord name))
  let _ ← next

/-- Takes a keyword if it stands at the head, and says whether it did. -/
def tryWord (name : String) : Parser Bool := do
  let found ← sees (aheadWord name)
  if found then
    word name
  return found

/-- Takes an operator if it stands at the head, and says whether it did. -/
def tryOp (s : String) : Parser Bool := do
  let found ← sees (ahead s)
  if found then
    op s
  return found

/-- Takes the first operator of a list that stands at the head, and says whether there is
one. -/
def tryOps (ops : List String) : Parser Bool := do
  let ts ← rest
  match ops.find? (ahead · ts) with
  | some s =>
      op s
      return true
  | none => return false

/-- Takes a name or a keyword. -/
def anyIdent : Parser Ident := do
  match ← next with
  | .ident id => return id
  | _ => failure

/-- Takes a name. -/
def name : Parser Ident := do
  guarded (← sees aheadName)
  anyIdent

/-- Takes a lifetime. -/
def lifetime : Parser Ident := do
  match ← next with
  | .lifetime id => return id
  | _ => failure

/-- Takes a lifetime if one stands at the head. -/
def tryLifetime : Parser (Option Ident) := do
  if ← sees aheadLifetime then
    some <$> lifetime
  else
    return none

/-- Takes a literal. -/
def literal : Parser Unit := do
  guarded (← sees aheadLiteral)
  if ← tryOp "-" then
    let _ ← next
  else
    let _ ← next

/-- Takes a string literal. -/
def stringLiteral : Parser Unit := do
  match ← next with
  | .literal (.string _ _) => return ()
  | _ => failure

/-- Takes a group whose inside another reader takes to its end. -/
def group (d : Delimiter) (inside : Parser α) : Parser α
  | ⟨.group e inner :: rest, written⟩ =>
      if d = e then
        match inside ⟨inner, []⟩ with
        | some (a, ⟨[], inner⟩) => some (a, ⟨rest, .group d inner.reverse :: written⟩)
        | _ => none
      else
        none
  | _ => none

/-- Takes a group with whatever it holds. -/
def anyGroup : Parser (List Token) := do
  match ← next with
  | .group _ inner => return inner
  | _ => failure

/-- What a reader takes, with what it writes. -/
def captured (p : Parser α) : Parser (α × List Token)
  | ⟨rest, written⟩ =>
      match p ⟨rest, []⟩ with
      | some (a, ⟨rest, part⟩) => some ((a, part.reverse), ⟨rest, part ++ written⟩)
      | none => none

/-- Takes what a reader takes, and writes other tokens for it. -/
def rewritten (p : Parser α) (tokens : α → List Token) : Parser α
  | ⟨rest, written⟩ =>
      match p ⟨rest, []⟩ with
      | some (a, ⟨rest, _⟩) => some (a, ⟨rest, (tokens a).reverse ++ written⟩)
      | none => none

/-- Takes what a reader takes, and writes it only if the reader says so. -/
def keptIf (p : Parser Bool) : Parser Bool
  | ⟨rest, written⟩ =>
      match p ⟨rest, []⟩ with
      | some (true, ⟨rest, part⟩) => some (true, ⟨rest, part ++ written⟩)
      | some (false, ⟨rest, _⟩) => some (false, ⟨rest, written⟩)
      | none => none

/-- Takes what a reader takes, and writes it in the form that the reader asks for. -/
def formed (p : Parser (α × Form)) : Parser α
  | ⟨rest, written⟩ =>
      match p ⟨rest, []⟩ with
      | some ((a, .canonical), ⟨after, part⟩) => some (a, ⟨after, part ++ written⟩)
      | some ((a, .verbatim), ⟨after, _⟩) =>
          let taken := rest.take (rest.length - after.length)
          some (a, ⟨after, taken.reverse ++ written⟩)
      | none => none

/-- Takes what a reader takes, and writes it as it stands. -/
def asItStands (p : Parser α) : Parser α := formed do return (← p, .verbatim)

/-- Takes what a reader takes, and writes nothing for it. -/
def dropped (p : Parser α) : Parser α := rewritten p fun _ => []

/-- Takes what a reader takes if it can, and says whether it could. -/
def succeeds (p : Parser Unit) : Parser Bool := (do p; return true) <|> return false

/-- Applies a reader as long as it says to go on, at most `fuel` times. -/
def repeatUpTo : Nat → Parser Bool → Parser Unit
  | 0, _ => failure
  | fuel + 1, p => do
      if ← p then
        repeatUpTo fuel p

/-- Applies a reader that takes a token every time, as long as it says to go on. -/
def repeatWhile (p : Parser Bool) : Parser Unit := do
  let ts ← rest
  repeatUpTo (ts.length + 2) p

/-- Applies a reader until the look ahead `stop`, at most `fuel` times. -/
def untilUpTo (stop : List Token → Bool) (p : Parser α) : Nat → Parser (List α)
  | 0 => failure
  | fuel + 1 => do
      if ← sees stop then
        return []
      let a ← p
      let more ← untilUpTo stop p fuel
      return a :: more

/-- Applies a reader that takes a token every time, until the look ahead `stop`. -/
def collectUntil (stop : List Token → Bool) (p : Parser α) : Parser (List α) := do
  let ts ← rest
  untilUpTo stop p (ts.length + 1)

/-- Applies a reader until the look ahead `stop`, with a separator in between, at most
`fuel` times.  Says whether the separator comes last as well, or nothing was there. -/
def separatedUpTo (stop : List Token → Bool) (sep : String) (p : Parser α) :
    Nat → Parser (List α × Bool)
  | 0 => failure
  | fuel + 1 => do
      if ← sees stop then
        return ([], true)
      let a ← p
      if ← sees stop then
        return ([a], false)
      op sep
      let (more, closed) ← separatedUpTo stop sep p fuel
      return (a :: more, closed)

/-- Applies a reader until the look ahead `stop`, with a separator in between and perhaps
at the end. -/
def separated (stop : List Token → Bool) (sep : String) (p : Parser α) :
    Parser (List α × Bool) := do
  let ts ← rest
  separatedUpTo stop sep p (ts.length + 1)

/-- Applies a reader to the end of the tokens, with commas in between and perhaps at the
end. -/
def commaList (p : Parser α) : Parser (List α) := do
  let (as, _) ← separated List.isEmpty "," p
  return as

/-- Applies a reader with a separator in between, as long as a separator follows and the
look ahead `stop` fails.  Says whether it was applied at all. -/
def chained (stop : List Token → Bool) (sep : String) (p : Parser Unit) : Parser Bool := do
  let none ← sees stop
  repeatWhile do
    if ← sees stop then
      return false
    p
    tryOp sep
  return !none

/-- Applies a reader once, and again as long as a separator follows, at most `fuel`
times. -/
def oneOrMoreUpTo (sep : String) (p : Parser α) : Nat → Parser (List α)
  | 0 => failure
  | fuel + 1 => do
      let a ← p
      if ← tryOp sep then
        let more ← oneOrMoreUpTo sep p fuel
        return a :: more
      else
        return [a]

/-- Applies a reader once, and again as long as a separator follows. -/
def oneOrMore (sep : String) (p : Parser α) : Parser (List α) := do
  let ts ← rest
  oneOrMoreUpTo sep p (ts.length + 1)

/-- Runs a reader on tokens that it has to take to their end. -/
def run (p : Parser α) (ts : List Token) : Option α :=
  match p ⟨ts, []⟩ with
  | some (a, ⟨[], _⟩) => some a
  | _ => none

end Parser

/-! ## Categories -/

/-- What is known of an expression beside its tokens. -/
inductive Shape where
  /-- A range. -/
  | range
  /-- A comparison. -/
  | comparison
  /-- An expression that ends a statement by itself, such as `if` or a block. -/
  | blockLike
  /-- A macro call in curly brackets. -/
  | bracedCall
  /-- An expression of which only the tokens are kept, as they stand. -/
  | verbatim
  /-- Any other expression. -/
  | plain
  deriving DecidableEq

/-- How tightly an operator binds. -/
inductive Precedence where
  /-- No operator. -/
  | lowest
  /-- Assignments. -/
  | assign
  /-- Ranges. -/
  | range
  /-- The disjunction. -/
  | or
  /-- The conjunction. -/
  | and
  /-- Comparisons. -/
  | compare
  /-- The bitwise or. -/
  | bitOr
  /-- The bitwise exclusive or. -/
  | bitXor
  /-- The bitwise and. -/
  | bitAnd
  /-- Shifts. -/
  | shift
  /-- Sums. -/
  | sum
  /-- Products. -/
  | product
  /-- Casts. -/
  | cast
  deriving DecidableEq

/-- The rank of a precedence. -/
def Precedence.rank : Precedence → Nat
  | lowest => 0
  | assign => 1
  | range => 2
  | or => 3
  | and => 4
  | compare => 5
  | bitOr => 6
  | bitXor => 7
  | bitAnd => 8
  | shift => 9
  | sum => 10
  | product => 11
  | cast => 12

/-- The recursive categories of the grammar. -/
inductive Category where
  /-- A type, which may be a sum of bounds if `sums` allows it. -/
  | type (sums : Bool)
  /-- One bound of a type, and whether it is a trait.  It may be a list of what is captured
  if `captures` allows it, and a constant trait if `consts` does. -/
  | bound (captures consts : Bool)
  /-- An expression, which may start a struct if `structs` allows it. -/
  | expr (structs : Bool)
  /-- An expression as a statement or as the body of a match arm.  One that ends by itself
  takes no operators after it. -/
  | leading
  /-- An expression without binary operators. -/
  | unary (structs : Bool)
  /-- The binary operators after an operand, as far as they bind at least as tightly. -/
  | operators (structs : Bool) (left : Shape) (least : Precedence)
  /-- The right operand of an operator. -/
  | operand (structs : Bool) (precedence : Precedence)
  /-- A pattern without alternatives, and whether it is a range with an open end. -/
  | pattern
  /-- The statements of a block, to the end of the tokens. -/
  | statements
  /-- An item after its attributes, and how it is written. -/
  | item
  /-- The fields in curly brackets. -/
  | fields
  /-- The tree of an import, and whether it goes back to the root of all crates. -/
  | imports (rooted : Bool)

/-- What a reader of a category comes to. -/
abbrev Category.Node : Category → Type
  | .type _ => Ty
  | .expr _ | .leading | .unary _ | .operators .. | .operand .. => Shape
  | .bound .. | .pattern => Bool
  | .statements => Unit
  | .item => Item × Form
  | .fields => List StructField
  | .imports _ => Bool

/-- A reader for each category. -/
abbrev Grammar := (c : Category) → Parser c.Node

/-- The grammar whose readers are made from each other, to a depth of `fuel` calls. -/
def Grammar.ofStep (step : Grammar → Grammar) : Nat → Grammar
  | 0 => fun _ => failure
  | fuel + 1 => fun c => step (ofStep step fuel) c

end EntityBinding.Source
